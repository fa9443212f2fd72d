import SensorHost.Lib.Numeral
import SensorHost.Protocol.Frame

/-!
# The node inventory

Model of `acquisition/sessions.py`: the logical identities of the nodes across physical reconnects.
The inventory is a dictionary, kept as the list of its entries in order of insertion.

An operation gives the new inventory or the error of the source with its message. Entries are
replaced in place, so that their order is the order of insertion of the dictionary; binding a UUID
removes other entries with it, unless one of them is connected. Aliases are kept by the text of the
UUID, and a node without one is named by default.
-/

namespace SensorHost.Acquisition
open SensorHost.Lib SensorHost.Protocol

/-- The 32 hexadecimal digits of a UUID. -/
def uuidHex (uuid : Uuid) : Text :=
  (List.range 32).map fun i => Nat.digitChar (uuid.toNat / 16 ^ (31 - i) % 16)

/-- `str(uuid)`. -/
def uuidText (uuid : Uuid) : Text :=
  let hex := uuidHex uuid
  hex.take 8 ++ '-' :: (hex.drop 8).take 4 ++ '-' :: (hex.drop 12).take 4 ++
    '-' :: (hex.drop 16).take 4 ++ '-' :: hex.drop 20

/-- `TransportKind`. -/
inductive TransportKind where
  | cdc
  | wifi
  deriving DecidableEq

/-- `ConnectionState`. -/
inductive ConnectionState where
  | disconnected
  | connecting
  | connected
  | streaming
  | reconnecting
  | stopping
  | offline
  deriving DecidableEq

/-- What the inventory raises. -/
inductive SessionError where
  | value (message : Text)
  | capacity
  | duplicateDevice (deviceUuid : Uuid)
  | unknownNode (nodeId : Text)
  deriving DecidableEq

/-- `str(error)`; a `KeyError` shows its argument quoted. -/
def SessionError.message : SessionError → Text
  | .value message => message
  | .capacity => "maximum active node count reached".toList
  | .duplicateDevice uuid => "device ".toList ++ uuidText uuid ++ " is already online".toList
  | .unknownNode nodeId => reprText ("unknown node: ".toList ++ nodeId)

/-- `NodeSummary`. -/
structure NodeSummary where
  nodeId : Text
  transportKind : TransportKind
  peer : Text
  connectionState : ConnectionState
  deviceUuid : Option Uuid := none
  aliasName : Text := []
  isRecording : Bool := false
  alert : Option Text := none
  deriving DecidableEq

/-- `NodeSessionManager`; the constructor refuses a bound that is not positive. -/
structure NodeSessionManager where
  maximumSessions : Nat
  maximumSessions_pos : 0 < maximumSessions
  aliases : List (Text × Text) := []
  nodes : List NodeSummary := []

namespace NodeSessionManager

variable (m : NodeSessionManager)

/-- `_require_node`. -/
def requireNode (nodeId : Text) : Except SessionError NodeSummary :=
  match m.nodes.find? fun n => n.nodeId == nodeId with
  | some node => .ok node
  | none => .error (.unknownNode nodeId)

/-- `self._nodes[node_id] = updated` for a key that is there. -/
def setNode (updated : NodeSummary) : NodeSessionManager :=
  { m with nodes := m.nodes.map fun n => if n.nodeId = updated.nodeId then updated else n }

/-- `add_session`. -/
def addSession (nodeId : Text) (transportKind : TransportKind) (peer : Text) :
    Except SessionError NodeSessionManager :=
  if nodeId = [] ∨ peer = [] then
    .error (.value "node_id and peer must not be empty".toList)
  else if m.maximumSessions ≤ m.nodes.countP fun n => n.connectionState == .connected then
    .error .capacity
  else if m.nodes.any fun n => n.nodeId == nodeId then
    .error (.value ("node session ".toList ++ nodeId ++ " already exists".toList))
  else
    .ok { m with
      nodes := m.nodes ++ [{
        nodeId := nodeId
        transportKind := transportKind
        peer := peer
        connectionState := .connected
        aliasName := peer }] }

/-- `bind_identity`: an online duplicate is refused, offline ones are replaced. -/
def bindIdentity (nodeId : Text) (deviceUuid : Uuid) :
    Except SessionError NodeSessionManager := do
  let current ← m.requireNode nodeId
  let isOther (n : NodeSummary) : Bool := n.nodeId != nodeId && n.deviceUuid == some deviceUuid
  if m.nodes.any fun n => isOther n && n.connectionState == .connected then
    .error (.duplicateDevice deviceUuid)
  else
    let name := (m.aliases.lookup (uuidText deviceUuid)).getD
      ("Node ".toList ++ (uuidText deviceUuid).take 8)
    return { m with nodes := m.nodes.filter fun n => !isOther n }.setNode
      { current with deviceUuid := some deviceUuid, aliasName := name }

/-- A node that is no longer connected. -/
def markUnavailable (state : ConnectionState) (nodeId : Text) (reason : Option Text) :
    Except SessionError NodeSessionManager := do
  let current ← m.requireNode nodeId
  return m.setNode { current with connectionState := state, isRecording := false, alert := reason }

/-- `mark_reconnecting`. -/
def markReconnecting := m.markUnavailable .reconnecting

/-- `mark_offline`. -/
def markOffline := m.markUnavailable .offline

/-- `dict.__setitem__` on the alias table. -/
def putAlias (aliases : List (Text × Text)) (key name : Text) : List (Text × Text) :=
  if aliases.any fun a => a.1 == key then
    aliases.map fun a => if a.1 = key then (key, name) else a
  else aliases ++ [(key, name)]

/-- `set_alias`, with the summary it returns. -/
def setAlias (nodeId name : Text) : Except SessionError (NodeSessionManager × NodeSummary) := do
  let normalized := strip name
  if normalized = [] ∨ 64 < normalized.length then
    .error (.value "alias must contain 1..64 characters".toList)
  else
    let current ← m.requireNode nodeId
    let updated := { current with aliasName := normalized }
    let m := m.setNode updated
    match current.deviceUuid with
    | none => return (m, updated)
    | some uuid =>
      return ({ m with aliases := putAlias m.aliases (uuidText uuid) normalized }, updated)

/-- `set_recording`. -/
def setRecording (nodeId : Text) (isRecording : Bool) : Except SessionError NodeSessionManager := do
  let current ← m.requireNode nodeId
  return m.setNode { current with isRecording := isRecording }

/-- `remove`. -/
def remove (nodeId : Text) : NodeSessionManager :=
  { m with nodes := m.nodes.filter fun n => n.nodeId != nodeId }

/-- `summary`. -/
def summary (nodeId : Text) : Except SessionError NodeSummary := m.requireNode nodeId

/-- `summaries`, in the order of the node ids. -/
def summaries : List NodeSummary := m.nodes.mergeSort fun a b => !decide (b.nodeId < a.nodeId)

end NodeSessionManager

end SensorHost.Acquisition
