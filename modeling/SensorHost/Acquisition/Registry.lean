import SensorHost.Acquisition.Inventory
import SensorHost.Acquisition.UuidText
import SensorHost.Lib.Dict

/-!
# The inventory under any calls

The methods of `NodeSessionManager` statement by statement, with the dictionaries as a state that a
`raise` leaves as it is at that moment (`Method`). Each is the operation of `Acquisition.Sessions`
where it succeeds, and changes nothing where it raises (`perform_eq`). What holds of the entries
behind any sequence of calls is `Lawful`.

A method is a function from the dictionaries to a result and the dictionaries behind it; what is
written before a `raise` stays written, and that this never happens is part of what is proved.
`settled` is a method that succeeds or changes nothing, and each method has one lemma of that form
(`addSession_apply`, `bindIdentity_apply` and so on). Loops over the dictionary that delete entries
are those of the source (`staleNodeIds`, `deleteNodes`).
-/

namespace SensorHost.Acquisition
open SensorHost.Lib SensorHost.Protocol

/-- A method: it may raise, and what it has written by then stays. -/
def Method (α : Type) : Type := NodeSessionManager → Except SessionError α × NodeSessionManager

namespace Method

instance : Monad Method where
  pure a := fun m => (.ok a, m)
  bind x f := fun m =>
    match x m with
    | (.ok a, m') => f a m'
    | (.error error, m') => (.error error, m')

/-- The state of the manager. -/
def read : Method NodeSessionManager := fun m => (.ok m, m)

/-- Change the state of the manager. -/
def write (f : NodeSessionManager → NodeSessionManager) : Method Unit := fun m => (.ok (), f m)

/-- Raise an error. -/
def raise {α : Type} (error : SessionError) : Method α := fun m => (.error error, m)

/-- `self._nodes[node_id] = summary`. -/
def putNode (n : NodeSummary) : Method Unit :=
  write fun m =>
    if m.nodes.any fun other => other.nodeId == n.nodeId then m.setNode n
    else { m with nodes := m.nodes ++ [n] }

/-- `del self._nodes[node_id]` for a key that is there. -/
def deleteNode (nodeId : Text) : Method Unit := write fun m => m.remove nodeId

/-- `self._aliases[key] = name`. -/
def putAlias (key name : Text) : Method Unit :=
  write fun m => { m with aliases := NodeSessionManager.putAlias m.aliases key name }

/-- `_require_node`. -/
def requireNode (nodeId : Text) : Method NodeSummary := do
  match (← read).nodes.find? fun n => n.nodeId == nodeId with
  | some node => return node
  | none => raise (.unknownNode nodeId)

/-- `add_session`. -/
def addSession (nodeId : Text) (transportKind : TransportKind) (peer : Text) : Method Unit :=
  if nodeId = [] ∨ peer = [] then
    raise (.value "node_id and peer must not be empty".toList)
  else do
    let m ← read
    if m.maximumSessions ≤ m.nodes.countP fun n => n.connectionState == .connected then
      raise .capacity
    else if m.nodes.any fun n => n.nodeId == nodeId then
      raise (.value ("node session ".toList ++ nodeId ++ " already exists".toList))
    else
      putNode {
        nodeId := nodeId
        transportKind := transportKind
        peer := peer
        connectionState := .connected
        aliasName := peer }

/-- The first loop of `bind_identity`, over the entries: the ids that are stale. -/
def staleNodeIds (nodeId : Text) (deviceUuid : Uuid) : List NodeSummary → List Text →
    Method (List Text)
  | [], stale => return stale
  | existing :: rest, stale =>
    if existing.nodeId = nodeId ∨ existing.deviceUuid ≠ some deviceUuid then
      staleNodeIds nodeId deviceUuid rest stale
    else if existing.connectionState = .connected then raise (.duplicateDevice deviceUuid)
    else staleNodeIds nodeId deviceUuid rest (stale ++ [existing.nodeId])

/-- The second loop of `bind_identity`: these entries go. -/
def deleteNodes : List Text → Method Unit
  | [] => return
  | nodeId :: rest => do
    deleteNode nodeId
    deleteNodes rest

/-- `bind_identity`. -/
def bindIdentity (nodeId : Text) (deviceUuid : Uuid) : Method Unit := do
  let current ← requireNode nodeId
  let stale ← staleNodeIds nodeId deviceUuid (← read).nodes []
  deleteNodes stale
  let name := ((← read).aliases.lookup (uuidText deviceUuid)).getD
    ("Node ".toList ++ (uuidText deviceUuid).take 8)
  putNode { current with deviceUuid := some deviceUuid, aliasName := name }

/-- `mark_reconnecting` and `mark_offline`, by the state they set. -/
def markUnavailable (state : ConnectionState) (nodeId : Text) (reason : Option Text) :
    Method Unit := do
  let current ← requireNode nodeId
  putNode { current with connectionState := state, isRecording := false, alert := reason }

/-- `set_alias`. -/
def setAlias (nodeId name : Text) : Method Unit :=
  let normalized := strip name
  if normalized = [] ∨ 64 < normalized.length then
    raise (.value "alias must contain 1..64 characters".toList)
  else do
    let current ← requireNode nodeId
    putNode { current with aliasName := normalized }
    match current.deviceUuid with
    | none => return
    | some uuid => putAlias (uuidText uuid) normalized

/-- `set_recording`. -/
def setRecording (nodeId : Text) (isRecording : Bool) : Method Unit := do
  let current ← requireNode nodeId
  putNode { current with isRecording := isRecording }

/-- `remove`: a key that is not there is no error. -/
def remove (nodeId : Text) : Method Unit := deleteNode nodeId

end Method

/-- The calls that change the inventory. -/
inductive Call where
  | addSession (nodeId : Text) (transportKind : TransportKind) (peer : Text)
  | bindIdentity (nodeId : Text) (deviceUuid : Uuid)
  | markReconnecting (nodeId : Text) (reason : Option Text)
  | markOffline (nodeId : Text) (reason : Option Text)
  | setAlias (nodeId name : Text)
  | setRecording (nodeId : Text) (isRecording : Bool)
  | remove (nodeId : Text)

namespace Call

/-- The method that is called. -/
def method : Call → Method Unit
  | addSession nodeId transportKind peer => Method.addSession nodeId transportKind peer
  | bindIdentity nodeId deviceUuid => Method.bindIdentity nodeId deviceUuid
  | markReconnecting nodeId reason => Method.markUnavailable .reconnecting nodeId reason
  | markOffline nodeId reason => Method.markUnavailable .offline nodeId reason
  | setAlias nodeId name => Method.setAlias nodeId name
  | setRecording nodeId isRecording => Method.setRecording nodeId isRecording
  | remove nodeId => Method.remove nodeId

/-- The call: what it raises, and the inventory behind it. -/
def perform (call : Call) (m : NodeSessionManager) :
    Except SessionError Unit × NodeSessionManager :=
  call.method m

/-- The operation of the inventory. -/
def operation (m : NodeSessionManager) : Call → Except SessionError NodeSessionManager
  | addSession nodeId transportKind peer => m.addSession nodeId transportKind peer
  | bindIdentity nodeId deviceUuid => m.bindIdentity nodeId deviceUuid
  | markReconnecting nodeId reason => m.markReconnecting nodeId reason
  | markOffline nodeId reason => m.markOffline nodeId reason
  | setAlias nodeId name => (m.setAlias nodeId name).map Prod.fst
  | setRecording nodeId isRecording => m.setRecording nodeId isRecording
  | remove nodeId => .ok (m.remove nodeId)

end Call

/-- The inventory behind a sequence of calls. -/
def NodeSessionManager.afterCalls (m : NodeSessionManager) (calls : List Call) :
    NodeSessionManager :=
  calls.foldl (fun m call => (call.perform m).2) m

namespace NodeSessionManager

/-- The name under which the node of a UUID is shown. -/
def shownAlias (m : NodeSessionManager) (uuid : Uuid) : Text :=
  (m.aliases.lookup (uuidText uuid)).getD ("Node ".toList ++ (uuidText uuid).take 8)

/-- What holds of the entries at any time. -/
structure Lawful (m : NodeSessionManager) : Prop where
  keyed : m.Keyed
  capacity : (m.nodes.countP fun n => n.connectionState == .connected) ≤ m.maximumSessions
  unique : ∀ n ∈ m.nodes, ∀ n' ∈ m.nodes, ∀ uuid, n.deviceUuid = some uuid →
    n'.deviceUuid = some uuid → n.nodeId = n'.nodeId
  aliased : ∀ n ∈ m.nodes, ∀ uuid, n.deviceUuid = some uuid → n.aliasName = m.shownAlias uuid

end NodeSessionManager

variable {m m' : NodeSessionManager} {nodeId : Text}

namespace Method

/-- A method that succeeds, or changes nothing. -/
def settled (m : NodeSessionManager) :
    Except SessionError NodeSessionManager → Except SessionError Unit × NodeSessionManager
  | .ok m' => (.ok (), m')
  | .error error => (.error error, m)

/-- What is written before an error stays written. -/
lemma bind_apply {α β : Type} (x : Method α) (f : α → Method β) (m : NodeSessionManager) :
    (x >>= f) m =
      match x m with
      | (.ok a, m') => f a m'
      | (.error error, m') => (.error error, m') := rfl

/-- Looking up a node writes nothing. -/
lemma requireNode_apply (nodeId : Text) (m : NodeSessionManager) :
    requireNode nodeId m = (m.requireNode nodeId, m) := by
  unfold requireNode NodeSessionManager.requireNode
  rw [bind_apply]
  unfold read
  dsimp only
  cases m.nodes.find? fun n => n.nodeId == nodeId with
  | none => rfl
  | some node => rfl

/-- A method that first needs a node. -/
lemma requireNode_bind {f : NodeSummary → Method Unit}
    {op : NodeSummary → Except SessionError NodeSessionManager}
    (h : ∀ current ∈ m.nodes, current.nodeId = nodeId → f current m = settled m (op current)) :
    (requireNode nodeId >>= f) m = settled m (m.requireNode nodeId >>= op) := by
  rw [bind_apply, requireNode_apply]
  cases hcurrent : m.requireNode nodeId with
  | error error => rfl
  | ok current =>
    obtain ⟨hmem, hid⟩ := NodeSessionManager.requireNode_ok hcurrent
    exact h current hmem hid

/-- Writing an entry that is there. -/
lemma putNode_apply {current n : NodeSummary} (hmem : current ∈ m.nodes)
    (hid : n.nodeId = current.nodeId) : putNode n m = (.ok (), m.setNode n) := by
  unfold putNode write
  dsimp only
  rw [if_pos]
  exact List.any_eq_true.mpr ⟨current, hmem, beq_iff_eq.mpr hid.symm⟩

/-- `add_session` succeeds, or changes nothing. -/
lemma addSession_apply (transportKind : TransportKind) (peer : Text) :
    addSession nodeId transportKind peer m =
      settled m (m.addSession nodeId transportKind peer) := by
  unfold addSession NodeSessionManager.addSession
  split
  · rfl
  · rw [bind_apply]
    unfold read
    dsimp only
    split
    · rfl
    · split
      · rfl
      · rename_i hnew
        unfold putNode write
        dsimp only
        rw [if_neg hnew]
        rfl

/-- Another entry with the UUID. -/
def isOther (nodeId : Text) (uuid : Uuid) (n : NodeSummary) : Bool :=
  n.nodeId != nodeId && n.deviceUuid == some uuid

/-- The inventory without the other entries with the UUID. -/
def withoutOthers (m : NodeSessionManager) (nodeId : Text) (uuid : Uuid) : NodeSessionManager :=
  { m with nodes := m.nodes.filter fun n => !isOther nodeId uuid n }

/-- Another entry with the UUID is one of another node. -/
lemma isOther_iff {uuid : Uuid} {n : NodeSummary} :
    isOther nodeId uuid n = true ↔ ¬(n.nodeId = nodeId ∨ n.deviceUuid ≠ some uuid) := by
  unfold isOther
  rw [Bool.and_eq_true, bne_iff_ne, beq_iff_eq, not_or, not_not]

/-- The loop raises if an entry with the UUID is online, and else collects the other entries. -/
lemma staleNodeIds_apply (uuid : Uuid) (nodes : List NodeSummary) (stale : List Text) :
    staleNodeIds nodeId uuid nodes stale m =
      (if nodes.any fun n => isOther nodeId uuid n && n.connectionState == .connected then
        .error (.duplicateDevice uuid)
      else .ok (stale ++ (nodes.filter (isOther nodeId uuid)).map NodeSummary.nodeId), m) := by
  induction nodes generalizing stale with
  | nil =>
    rw [List.filter_nil, List.map_nil, List.append_nil]
    rfl
  | cons existing rest ih =>
    unfold staleNodeIds
    rw [List.any_cons]
    by_cases hother : existing.nodeId = nodeId ∨ existing.deviceUuid ≠ some uuid
    · have hskip : ¬isOther nodeId uuid existing = true := fun h => isOther_iff.mp h hother
      rw [if_pos hother, ih, List.filter_cons_of_neg hskip, Bool.eq_false_of_not_eq_true hskip]
      rfl
    · have htake := isOther_iff.mpr hother
      rw [if_neg hother, List.filter_cons_of_pos htake, List.map_cons, htake, Bool.true_and]
      split
      · rename_i hconnected
        rw [beq_iff_eq.mpr hconnected]
        rfl
      · rename_i hconnected
        rw [ih, beq_eq_false_iff_ne.mpr hconnected, List.append_assoc]
        rfl

/-- The second loop deletes the entries with these ids. -/
lemma deleteNodes_apply (ids : List Text) (m : NodeSessionManager) :
    deleteNodes ids m =
      (.ok (), { m with nodes := m.nodes.filter fun n => !ids.contains n.nodeId }) := by
  induction ids generalizing m with
  | nil =>
    have hall : (m.nodes.filter fun n => !List.contains [] n.nodeId) = m.nodes :=
      List.filter_eq_self.mpr fun _ _ => rfl
    rw [hall]
    rfl
  | cons id rest ih =>
    have hrest : deleteNodes (id :: rest) m = deleteNodes rest (m.remove id) := rfl
    rw [hrest, ih]
    unfold NodeSessionManager.remove
    dsimp only
    rw [List.filter_filter]
    congr 3
    funext n
    rw [List.contains_cons, Bool.not_or]
    exact Bool.and_comm _ _

/-- With distinct keys the ids of the stale entries single them out. -/
lemma filter_stale (keyed : m.Keyed) (uuid : Uuid) :
    (m.nodes.filter fun n => !((m.nodes.filter (isOther nodeId uuid)).map
      NodeSummary.nodeId).contains n.nodeId) = m.nodes.filter fun n => !isOther nodeId uuid n := by
  refine List.filter_congr ?_
  intro n hn
  congr 1
  rw [Bool.eq_iff_iff, List.contains_iff_mem, List.mem_map]
  constructor
  · intro h
    obtain ⟨n', hn', heq⟩ := h
    obtain ⟨hmem, hother⟩ := List.mem_filter.mp hn'
    rw [← keyed.eq_of_nodeId hmem hn heq]
    exact hother
  · intro h
    exact ⟨n, List.mem_filter.mpr ⟨hn, h⟩, rfl⟩

/-- Without the others the entries of other UUIDs are left. -/
lemma mem_withoutOthers {uuid : Uuid} {n : NodeSummary} :
    n ∈ (withoutOthers m nodeId uuid).nodes ↔
      n ∈ m.nodes ∧ (n.nodeId = nodeId ∨ n.deviceUuid ≠ some uuid) := by
  unfold withoutOthers
  rw [List.mem_filter, Bool.not_eq_true', Bool.eq_false_iff, Ne, isOther_iff, not_not]

/-- The operation, in the order of the method: the node is looked up, a connected entry refuses, the
others go. -/
lemma bindIdentity_eq (nodeId : Text) (uuid : Uuid) (m : NodeSessionManager) :
    m.bindIdentity nodeId uuid = m.requireNode nodeId >>= fun current =>
      if m.nodes.any fun n => isOther nodeId uuid n && n.connectionState == .connected then
        .error (.duplicateDevice uuid)
      else
        .ok ((withoutOthers m nodeId uuid).setNode
          { current with deviceUuid := some uuid, aliasName := m.shownAlias uuid }) := rfl

/-- `bind_identity` succeeds, or changes nothing. -/
lemma bindIdentity_apply (keyed : m.Keyed) (uuid : Uuid) :
    bindIdentity nodeId uuid m = settled m (m.bindIdentity nodeId uuid) := by
  have hread : ∀ (m : NodeSessionManager) (f : NodeSessionManager → Method Unit),
      (read >>= f) m = f m m := fun _ _ => rfl
  rw [bindIdentity_eq]
  unfold bindIdentity
  refine requireNode_bind ?_
  intro current hmem hid
  rw [hread, bind_apply, staleNodeIds_apply, List.nil_append]
  by_cases hdup : m.nodes.any fun n => isOther nodeId uuid n && n.connectionState == .connected
  · rw [if_pos hdup, if_pos hdup]
    rfl
  · have hkept : current ∈ (withoutOthers m nodeId uuid).nodes :=
      mem_withoutOthers.mpr ⟨hmem, .inl hid⟩
    rw [if_neg hdup, if_neg hdup]
    dsimp only
    rw [bind_apply, deleteNodes_apply, filter_stale keyed]
    exact putNode_apply hkept rfl

/-- `mark_reconnecting` and `mark_offline` succeed, or change nothing. -/
lemma markUnavailable_apply (state : ConnectionState) (reason : Option Text) :
    markUnavailable state nodeId reason m = settled m (m.markUnavailable state nodeId reason) := by
  unfold markUnavailable NodeSessionManager.markUnavailable
  refine requireNode_bind ?_
  intro current hmem _
  exact putNode_apply hmem rfl

/-- `set_alias` succeeds, or changes nothing. -/
lemma setAlias_apply (name : Text) :
    setAlias nodeId name m = settled m ((m.setAlias nodeId name).map Prod.fst) := by
  unfold setAlias NodeSessionManager.setAlias
  dsimp only
  split
  · rfl
  · rw [bind_apply, requireNode_apply]
    cases hcurrent : m.requireNode nodeId with
    | error error => rfl
    | ok current =>
      obtain ⟨hmem, -⟩ := NodeSessionManager.requireNode_ok hcurrent
      dsimp only
      have hput := putNode_apply (n := { current with aliasName := strip name }) hmem rfl
      rw [bind_apply, hput]
      dsimp only [bind, Except.bind]
      cases current.deviceUuid with
      | none => rfl
      | some uuid => rfl

/-- `set_recording` succeeds, or changes nothing. -/
lemma setRecording_apply (isRecording : Bool) :
    setRecording nodeId isRecording m = settled m (m.setRecording nodeId isRecording) := by
  unfold setRecording NodeSessionManager.setRecording
  refine requireNode_bind ?_
  intro current hmem _
  exact putNode_apply hmem rfl

end Method

/-- A call does the operation, or raises and changes nothing. -/
theorem Call.perform_eq (keyed : m.Keyed) (call : Call) :
    call.perform m = Method.settled m (call.operation m) := by
  cases call with
  | addSession nodeId transportKind peer => exact Method.addSession_apply transportKind peer
  | bindIdentity nodeId deviceUuid => exact Method.bindIdentity_apply keyed deviceUuid
  | markReconnecting nodeId reason => exact Method.markUnavailable_apply .reconnecting reason
  | markOffline nodeId reason => exact Method.markUnavailable_apply .offline reason
  | setAlias nodeId name => exact Method.setAlias_apply name
  | setRecording nodeId isRecording => exact Method.setRecording_apply isRecording
  | remove nodeId => rfl

namespace NodeSessionManager

/-- Entries that agree in UUID and name with entries that were there are shown and told apart as
before. -/
lemma Lawful.of_nodes (lawful : m.Lawful) (keyed : m'.Keyed) (haliases : m'.aliases = m.aliases)
    (capacity : (m'.nodes.countP fun n => n.connectionState == .connected) ≤ m'.maximumSessions)
    (h : ∀ t ∈ m'.nodes, ∀ uuid, t.deviceUuid = some uuid → ∃ n ∈ m.nodes,
      n.nodeId = t.nodeId ∧ n.deviceUuid = some uuid ∧ n.aliasName = t.aliasName) : m'.Lawful where
  keyed := keyed
  capacity := capacity
  unique := by
    intro t ht t' ht' uuid huuid huuid'
    obtain ⟨n, hn, hid, hsame, -⟩ := h t ht uuid huuid
    obtain ⟨n', hn', hid', hsame', -⟩ := h t' ht' uuid huuid'
    rw [← hid, ← hid']
    exact lawful.unique n hn n' hn' uuid hsame hsame'
  aliased := by
    intro t ht uuid huuid
    obtain ⟨n, hn, -, hsame, hname⟩ := h t ht uuid huuid
    have halias := lawful.aliased n hn uuid hsame
    unfold shownAlias at halias ⊢
    rw [haliases, ← hname]
    exact halias

/-- An update that connects no node keeps the number of connected ones. -/
lemma countP_setNode_le (keyed : m.Keyed) {current : NodeSummary} (updated : NodeSummary)
    (hmem : current ∈ m.nodes) (hid : current.nodeId = updated.nodeId)
    (hstate : updated.connectionState = .connected → current.connectionState = .connected) :
    ((m.setNode updated).nodes.countP fun n => n.connectionState == .connected) ≤
      m.nodes.countP fun n => n.connectionState == .connected := by
  unfold setNode
  rw [List.countP_map]
  refine List.countP_mono_left ?_
  intro n hn hconnected
  rw [Function.comp_apply] at hconnected
  split at hconnected
  · rename_i heq
    rw [keyed.eq_of_nodeId hn hmem (heq.trans hid.symm)]
    exact beq_iff_eq.mpr (hstate (beq_iff_eq.mp hconnected))
  · exact hconnected

/-- A node that is added finds room. -/
lemma countP_addSession_le {kind : TransportKind} {peer : Text}
    (h : m.addSession nodeId kind peer = .ok m') :
    (m'.nodes.countP fun n => n.connectionState == .connected) ≤ m.maximumSessions := by
  have hroom : (m.nodes.countP fun n => n.connectionState == .connected) < m.maximumSessions := by
    unfold NodeSessionManager.addSession at h
    split at h
    · cases h
    · split at h
      · cases h
      · rename_i hroom
        exact not_le.mp hroom
  obtain ⟨-, rfl⟩ := addSession_ok h
  rw [List.countP_append]
  exact hroom

/-- Binding connects no more nodes. -/
lemma countP_bindIdentity_le {uuid : Uuid} (keyed : m.Keyed)
    (h : m.bindIdentity nodeId uuid = .ok m') :
    (m'.nodes.countP fun n => n.connectionState == .connected) ≤
      m.nodes.countP fun n => n.connectionState == .connected := by
  obtain ⟨current, aliasName, hmem, hid, -, rfl⟩ := bindIdentity_ok h
  have hcurrent : current ∈ (Method.withoutOthers m nodeId uuid).nodes :=
    Method.mem_withoutOthers.mpr ⟨hmem, .inl hid⟩
  have hkept : (Method.withoutOthers m nodeId uuid).Keyed :=
    List.Nodup.sublist (List.filter_sublist.map _) keyed
  refine (countP_setNode_le hkept { current with deviceUuid := some uuid, aliasName := aliasName }
    hcurrent rfl id).trans ?_
  exact List.filter_sublist.countP_le

/-- Marking a node unavailable connects none. -/
lemma countP_markUnavailable_le {state : ConnectionState} {reason : Option Text} (keyed : m.Keyed)
    (hstate : state ≠ .connected) (h : m.markUnavailable state nodeId reason = .ok m') :
    (m'.nodes.countP fun n => n.connectionState == .connected) ≤
      m.nodes.countP fun n => n.connectionState == .connected := by
  obtain ⟨current, hmem, hid, rfl⟩ := markUnavailable_ok h
  exact countP_setNode_le keyed _ hmem rfl fun heq => absurd heq hstate

/-- An update that keeps UUID and name, and connects no node. -/
lemma Lawful.setNode (lawful : m.Lawful) {current updated : NodeSummary} (hmem : current ∈ m.nodes)
    (hid : current.nodeId = updated.nodeId)
    (hstate : updated.connectionState = .connected → current.connectionState = .connected)
    (huuid : updated.deviceUuid = current.deviceUuid)
    (hname : updated.aliasName = current.aliasName) : (m.setNode updated).Lawful := by
  refine lawful.of_nodes (lawful.keyed.setNode updated) rfl
    ((countP_setNode_le lawful.keyed updated hmem hid hstate).trans lawful.capacity) ?_
  intro t ht uuid hsome
  cases (mem_setNode updated hmem hid).mp ht with
  | inl heq =>
    rw [heq] at hsome ⊢
    exact ⟨current, hmem, hid, huuid.symm.trans hsome, hname.symm⟩
  | inr hkept => exact ⟨t, hkept.1, rfl, hsome, rfl⟩

/-- Adding a session keeps the law. -/
lemma Lawful.addSession {kind : TransportKind} {peer : Text} (lawful : m.Lawful)
    (h : m.addSession nodeId kind peer = .ok m') : m'.Lawful := by
  have hkeyed := lawful.keyed.addSession h
  have hroom := countP_addSession_le h
  obtain ⟨-, rfl⟩ := addSession_ok h
  refine lawful.of_nodes hkeyed rfl hroom ?_
  intro t ht uuid huuid
  cases List.mem_append.mp ht with
  | inl hold => exact ⟨t, hold, rfl, huuid, rfl⟩
  | inr hnew =>
    rw [List.mem_singleton.mp hnew] at huuid
    cases huuid

/-- Removing one keeps the law. -/
lemma Lawful.remove (lawful : m.Lawful) (nodeId : Text) : (m.remove nodeId).Lawful := by
  refine lawful.of_nodes (lawful.keyed.remove nodeId) rfl
    ((List.filter_sublist.countP_le).trans lawful.capacity) ?_
  intro t ht uuid huuid
  exact ⟨t, (mem_remove.mp ht).1, rfl, huuid, rfl⟩

/-- Marking a node unavailable keeps the law. -/
lemma Lawful.markUnavailable {state : ConnectionState} {reason : Option Text} (lawful : m.Lawful)
    (hstate : state ≠ .connected) (h : m.markUnavailable state nodeId reason = .ok m') :
    m'.Lawful := by
  obtain ⟨current, hmem, hid, rfl⟩ := markUnavailable_ok h
  exact lawful.setNode hmem rfl (fun heq => absurd heq hstate) rfl rfl

/-- Marking a recording keeps the law. -/
lemma Lawful.setRecording {isRecording : Bool} (lawful : m.Lawful)
    (h : m.setRecording nodeId isRecording = .ok m') : m'.Lawful := by
  unfold NodeSessionManager.setRecording at h
  cases hcurrent : m.requireNode nodeId with
  | error error =>
    rw [hcurrent] at h
    cases h
  | ok current =>
    rw [hcurrent] at h
    cases h
    exact lawful.setNode (requireNode_ok hcurrent).1 rfl id rfl rfl

/-- Binding, with the name under which the node is then shown. -/
lemma bindIdentity_shown {uuid : Uuid} (h : m.bindIdentity nodeId uuid = .ok m') :
    ∃ current ∈ m.nodes, current.nodeId = nodeId ∧
      m' = (Method.withoutOthers m nodeId uuid).setNode
        { current with deviceUuid := some uuid, aliasName := m.shownAlias uuid } := by
  rw [Method.bindIdentity_eq] at h
  cases hcurrent : m.requireNode nodeId with
  | error error =>
    rw [hcurrent] at h
    cases h
  | ok current =>
    rw [hcurrent] at h
    obtain ⟨hmem, hid⟩ := requireNode_ok hcurrent
    dsimp only [bind, Except.bind] at h
    split at h
    · cases h
    · cases h
      exact ⟨current, hmem, hid, rfl⟩

/-- The node takes the UUID with its name; the other entries that carried it are gone. -/
lemma Lawful.bindIdentity {uuid : Uuid} (lawful : m.Lawful)
    (h : m.bindIdentity nodeId uuid = .ok m') : m'.Lawful := by
  have hkeyed := lawful.keyed.bindIdentity h
  have hcount := countP_bindIdentity_le lawful.keyed h
  obtain ⟨current, hmem, hid, rfl⟩ := bindIdentity_shown h
  have hcurrent : current ∈ (Method.withoutOthers m nodeId uuid).nodes :=
    Method.mem_withoutOthers.mpr ⟨hmem, .inl hid⟩
  have hsplit := fun {t : NodeSummary} => @mem_setNode (Method.withoutOthers m nodeId uuid) current
    { current with deviceUuid := some uuid, aliasName := m.shownAlias uuid } hcurrent rfl t
  -- an entry that is still there carries another UUID
  have hother : ∀ t ∈ (Method.withoutOthers m nodeId uuid).nodes,
      t.nodeId ≠ current.nodeId → t ∈ m.nodes ∧ t.deviceUuid ≠ some uuid := by
    intro t ht hne
    obtain ⟨hold, hcase⟩ := Method.mem_withoutOthers.mp ht
    exact ⟨hold, hcase.resolve_left fun heq => hne (heq.trans hid.symm)⟩
  refine { keyed := hkeyed, capacity := ?_, unique := ?_, aliased := ?_ }
  · exact hcount.trans lawful.capacity
  · intro t ht t' ht' uuid' huuid huuid'
    cases hsplit.mp ht with
    | inl heq =>
      rw [heq] at huuid ⊢
      cases hsplit.mp ht' with
      | inl heq' => rw [heq']
      | inr hold' => exact absurd (huuid'.trans huuid.symm) (hother t' hold'.1 hold'.2).2
    | inr hold =>
      obtain ⟨hmem', hne⟩ := hother t hold.1 hold.2
      cases hsplit.mp ht' with
      | inl heq' =>
        rw [heq'] at huuid'
        exact absurd (huuid.trans huuid'.symm) hne
      | inr hold' =>
        exact lawful.unique t hmem' t' (hother t' hold'.1 hold'.2).1 uuid' huuid huuid'
  · intro t ht uuid' huuid
    cases hsplit.mp ht with
    | inl heq =>
      rw [heq] at huuid ⊢
      cases huuid
      rfl
    | inr hold => exact lawful.aliased t (hother t hold.1 hold.2).1 uuid' huuid

/-- A name that is given is read back. -/
lemma lookup_putAlias_self (aliases : List (Text × Text)) (key name : Text) :
    (putAlias aliases key name).lookup key = some name := lookup_dictPut_self aliases key name

/-- The other names stay. -/
lemma lookup_putAlias_of_ne (aliases : List (Text × Text)) {key key' : Text} (name : Text)
    (h : key' ≠ key) : (putAlias aliases key name).lookup key' = aliases.lookup key' :=
  lookup_dictPut_of_ne aliases name h

/-- Giving a name keeps the law. -/
lemma Lawful.setAlias {name : Text} {summary : NodeSummary} (lawful : m.Lawful)
    (h : m.setAlias nodeId name = .ok (m', summary)) : m'.Lawful := by
  unfold NodeSessionManager.setAlias at h
  dsimp only at h
  split at h
  · cases h
  · cases hcurrent : m.requireNode nodeId with
    | error error =>
      rw [hcurrent] at h
      cases h
    | ok current =>
      rw [hcurrent] at h
      obtain ⟨hmem, -⟩ := requireNode_ok hcurrent
      have hsplit := fun {t : NodeSummary} =>
        @mem_setNode m current { current with aliasName := strip name } hmem rfl t
      have hold : ∀ t ∈ (m.setNode { current with aliasName := strip name }).nodes, ∃ n ∈ m.nodes,
          n.nodeId = t.nodeId ∧ n.deviceUuid = t.deviceUuid := by
        intro t ht
        cases hsplit.mp ht with
        | inl heq =>
          rw [heq]
          exact ⟨current, hmem, rfl, rfl⟩
        | inr hkept => exact ⟨t, hkept.1, rfl, rfl⟩
      have hcapacity := (countP_setNode_le lawful.keyed
        { current with aliasName := strip name } hmem rfl id).trans lawful.capacity
      dsimp only [bind, Except.bind] at h
      split at h
      · rename_i hnone
        cases h
        refine lawful.of_nodes (lawful.keyed.setNode _) rfl hcapacity ?_
        intro t ht uuid huuid
        cases hsplit.mp ht with
        | inl heq =>
          rw [heq] at huuid
          exact absurd (hnone.symm.trans huuid) (by rintro ⟨⟩)
        | inr hold => exact ⟨t, hold.1, rfl, huuid, rfl⟩
      · rename_i uuid hsome
        cases h
        refine
          { keyed := lawful.keyed.setNode _, capacity := hcapacity, unique := ?_, aliased := ?_ }
        · intro t ht t' ht' uuid' huuid huuid'
          obtain ⟨n, hn, hid, hsame⟩ := hold t ht
          obtain ⟨n', hn', hid', hsame'⟩ := hold t' ht'
          rw [← hid, ← hid']
          exact lawful.unique n hn n' hn' uuid' (hsame.trans huuid) (hsame'.trans huuid')
        · intro t ht uuid' huuid
          unfold shownAlias
          cases hsplit.mp ht with
          | inl heq =>
            rw [heq] at huuid ⊢
            cases hsome.symm.trans huuid
            rw [lookup_putAlias_self]
            rfl
          | inr hkept =>
            -- no other entry carries the UUID
            have hne : uuidText uuid' ≠ uuidText uuid := by
              intro heq
              rw [uuidText_injective heq] at huuid
              exact hkept.2 (lawful.unique t hkept.1 current hmem uuid huuid hsome)
            rw [lookup_putAlias_of_ne _ _ hne]
            exact lawful.aliased t hkept.1 uuid' huuid

/-- What succeeds behind a map has succeeded before. -/
lemma map_ok {α β : Type} {x : Except SessionError α} {f : α → β} {b : β}
    (h : x.map f = .ok b) : ∃ a, x = .ok a ∧ b = f a := by
  cases x with
  | error error => cases h
  | ok a =>
    cases h
    exact ⟨a, rfl, rfl⟩

/-- A new inventory is lawful. -/
lemma lawful_new (maximumSessions : Nat) (h : 0 < maximumSessions) (aliases : List (Text × Text)) :
    ({ maximumSessions := maximumSessions, maximumSessions_pos := h, aliases := aliases } :
      NodeSessionManager).Lawful where
  keyed := List.nodup_nil
  capacity := Nat.zero_le _
  unique := by
    intro n hn
    cases hn
  aliased := by
    intro n hn
    cases hn

/-- Every operation keeps the law. -/
lemma Lawful.operation (lawful : m.Lawful) {call : Call} (h : call.operation m = .ok m') :
    m'.Lawful := by
  cases call with
  | addSession nodeId transportKind peer => exact lawful.addSession h
  | bindIdentity nodeId deviceUuid => exact lawful.bindIdentity h
  | markReconnecting nodeId reason => exact lawful.markUnavailable (by decide) h
  | markOffline nodeId reason => exact lawful.markUnavailable (by decide) h
  | setAlias nodeId name =>
    obtain ⟨result, hset, rfl⟩ := map_ok h
    exact lawful.setAlias hset
  | setRecording nodeId isRecording => exact lawful.setRecording h
  | remove nodeId =>
    cases h
    exact lawful.remove nodeId

/-- A call keeps the law. -/
lemma Lawful.perform (lawful : m.Lawful) (call : Call) : (call.perform m).2.Lawful := by
  rw [call.perform_eq lawful.keyed]
  cases hcall : call.operation m with
  | error error => exact lawful
  | ok m' => exact lawful.operation hcall

/-- So does every sequence of calls. -/
lemma Lawful.afterCalls (lawful : m.Lawful) (calls : List Call) : (m.afterCalls calls).Lawful := by
  induction calls generalizing m with
  | nil => exact lawful
  | cons call calls ih => exact ih (lawful.perform call)

/-- A name does not change the limit. -/
lemma maximumSessions_setAlias {name : Text} {summary : NodeSummary}
    (h : m.setAlias nodeId name = .ok (m', summary)) : m'.maximumSessions = m.maximumSessions := by
  unfold NodeSessionManager.setAlias at h
  dsimp only at h
  split at h
  · cases h
  · cases hcurrent : m.requireNode nodeId with
    | error error =>
      rw [hcurrent] at h
      cases h
    | ok current =>
      rw [hcurrent] at h
      dsimp only [bind, Except.bind] at h
      split at h
      · cases h
        rfl
      · cases h
        rfl

/-- No operation does. -/
lemma maximumSessions_operation {call : Call} (h : call.operation m = .ok m') :
    m'.maximumSessions = m.maximumSessions := by
  have hneed : ∀ (nodeId : Text) (f : NodeSummary → NodeSummary),
      (m.requireNode nodeId >>= fun current => pure (m.setNode (f current))) = .ok m' →
        m'.maximumSessions = m.maximumSessions := by
    intro nodeId f h
    cases hcurrent : m.requireNode nodeId with
    | error error =>
      rw [hcurrent] at h
      cases h
    | ok current =>
      rw [hcurrent] at h
      cases h
      rfl
  cases call with
  | addSession nodeId transportKind peer =>
    obtain ⟨-, rfl⟩ := addSession_ok h
    rfl
  | bindIdentity nodeId deviceUuid =>
    obtain ⟨current, -, -, rfl⟩ := bindIdentity_shown h
    rfl
  | markReconnecting nodeId reason => exact hneed nodeId _ h
  | markOffline nodeId reason => exact hneed nodeId _ h
  | setAlias nodeId name =>
    obtain ⟨result, hset, rfl⟩ := map_ok h
    exact maximumSessions_setAlias hset
  | setRecording nodeId isRecording => exact hneed nodeId _ h
  | remove nodeId =>
    cases h
    rfl

/-- No sequence of calls does. -/
lemma maximumSessions_afterCalls (lawful : m.Lawful) (calls : List Call) :
    (m.afterCalls calls).maximumSessions = m.maximumSessions := by
  induction calls generalizing m with
  | nil => rfl
  | cons call calls ih =>
    refine (ih (lawful.perform call)).trans ?_
    rw [call.perform_eq lawful.keyed]
    cases hcall : call.operation m with
    | error error => rfl
    | ok m' => exact maximumSessions_operation hcall

/-- Whatever is called, on whatever table of names: the number of connected nodes is bounded, no
two nodes carry one UUID, a node with a UUID is shown under its name, and what raises changes
nothing. -/
theorem inventory_lawful (maximumSessions : Nat) (h : 0 < maximumSessions)
    (aliases : List (Text × Text)) (calls : List Call) :
    let m : NodeSessionManager :=
      { maximumSessions := maximumSessions, maximumSessions_pos := h, aliases := aliases }
    let m' := m.afterCalls calls
    (m'.nodes.countP fun n => n.connectionState == .connected) ≤ maximumSessions ∧
      (m'.nodes.Pairwise fun n n' =>
        ∀ uuid, n.deviceUuid = some uuid → n'.deviceUuid ≠ some uuid) ∧
      (∀ n ∈ m'.nodes, ∀ uuid, n.deviceUuid = some uuid → n.aliasName = m'.shownAlias uuid) ∧
      ∀ (call : Call) (error : SessionError), (call.perform m').1 = .error error →
        (call.perform m').2 = m' := by
  intro m m'
  have hnew : m.Lawful := lawful_new maximumSessions h aliases
  have lawful : m'.Lawful := hnew.afterCalls calls
  refine ⟨?_, ?_, lawful.aliased, ?_⟩
  · have hmax := maximumSessions_afterCalls hnew calls
    exact lawful.capacity.trans_eq hmax
  · have hdistinct : m'.nodes.Pairwise fun n n' => n.nodeId ≠ n'.nodeId :=
      List.pairwise_map.mp lawful.keyed
    refine hdistinct.imp_of_mem ?_
    intro n n' hn hn' hne uuid huuid huuid'
    exact hne (lawful.unique n hn n' hn' uuid huuid huuid')
  · intro call error hraise
    rw [call.perform_eq lawful.keyed] at hraise ⊢
    cases hcall : call.operation m' with
    | error error => rfl
    | ok m'' =>
      rw [hcall] at hraise
      cases hraise

/-- A node that is named, comes back under another id and is refused while it is still online. -/
theorem inventory_lawful_two :
    let m : NodeSessionManager :=
      { maximumSessions := 2, maximumSessions_pos := by decide, aliases := [] }
    let m' := m.afterCalls [.addSession ['a'] .wifi ['p'], .bindIdentity ['a'] 1,
      .setAlias ['a'] ['x'], .addSession ['b'] .wifi ['p'], .bindIdentity ['b'] 1]
    (m'.nodes.countP fun n => n.connectionState == .connected) ≤ 2 ∧
      (m'.nodes.Pairwise fun n n' =>
        ∀ uuid, n.deviceUuid = some uuid → n'.deviceUuid ≠ some uuid) ∧
      (∀ n ∈ m'.nodes, ∀ uuid, n.deviceUuid = some uuid → n.aliasName = m'.shownAlias uuid) ∧
      ∀ (call : Call) (error : SessionError), (call.perform m').1 = .error error →
        (call.perform m').2 = m' :=
  inventory_lawful 2 (by decide) [] _

end NodeSessionManager

end SensorHost.Acquisition
