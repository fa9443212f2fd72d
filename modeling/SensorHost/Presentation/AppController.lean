import SensorHost.Acquisition.Controller
import SensorHost.Acquisition.Sessions
import SensorHost.Ota.Package
import SensorHost.Transport.Gateway

/-!
# The application controller

Model of `AppController`: the sessions, the recordings and exports, and the OTA that owns a node. An
operation takes the controller and what it meets outside (`Host`) and gives the controller; what it
emits is appended to `signals`. Objects that the source shares are named: sessions, recorders,
listeners and upload workers by number. An operation runs in the GUI thread and is not interrupted.

`Host` comes with an operation that meets something outside: it says which files and ports cannot be
opened, which metadata cannot be written, and what the threads do that the operation waits for. Where
the source catches an error, the model has the branch behind it. An `OSError` that no slot catches ends
the process of the application; the model goes on behind it, with more runs than the program has.

The display signals and the stored Wi-Fi configuration are left out, and of the metadata of a recording
the content: no operation of the controller reads it again, and the exports are listed from sidecars
with any content (`Storage.Exports`).
-/

namespace SensorHost.Presentation
open SensorHost.Lib SensorHost.Protocol SensorHost.Storage SensorHost.Acquisition SensorHost.Ota
  SensorHost.Transport

def maximumWifiSessions : Nat := 16
def exportFirstByteTimeoutS : ℚ := 10
def exportAutoRetries : Nat := 1
def otaReconnectTimeoutS : ℚ := 60

/-- Where the thread of a session is: it runs, `failed` is on its way to the GUI thread, or
`finished` is. -/
inductive WorkerPhase where
  | running
  | failing (message : Text)
  | finishing
  deriving DecidableEq

/-- `_ManagedSession`. -/
structure ManagedSession where
  sid : Nat
  nodeId : Text
  peer : Text
  transportKind : TransportKind
  acquisition : AcquisitionController
  worker : WorkerPhase := .running
  transportOpen : Bool := true
  stopRequested : Bool := false
  recorder : Option Nat := none
  archiveRecorder : Option Nat := none
  archiveStartRevision : Nat := 0
  archiveTotalBytes : Nat := 0
  archivePath : Option Path := none
  archiveStartedS : ℚ := 0
  archiveTarget : Text := []
  archiveRetries : Nat := 0
  archiveCancelRequested : Bool := false
  failure : Option Text := none
  otaActive : Bool := false
  otaAwaitingRestart : Bool := false

/-- `session.store.snapshot(..).firmware_control_state`. -/
def ManagedSession.controlState (s : ManagedSession) : Option FirmwareControlState :=
  s.acquisition.store.firmwareControlState

/-- The signals that are modelled. -/
inductive Signal where
  | cliResponse (text : Text)
  | cliResponseFrom (nodeId text : Text)
  | connectionChanged (connected : Bool) (label : Text)
  | nodesChanged (nodes : List NodeSummary)
  | selectedNodeChanged (nodeId : Text)
  | wifiServerChanged (running : Bool) (label : Text)
  | errorRaised (message : Text)
  | displayClearRequested
  | exportStarted (nodeId : Text) (path : Path) (totalBytes : Nat)
  | exportFinished (nodeId phase : Text) (path : Path)
  | otaProgress (nodeId : Text) (sent total : Nat) (phase : Text)
  | otaStaged (nodeId version crc : Text) (matching : Bool)
  | otaState (nodeId state detail : Text)
  | otaAvailability (available : Bool) (reason : Text)
  deriving DecidableEq

/-- `_ota_context`. -/
structure OtaContext where
  nodeId : Text
  kind : TransportKind
  deviceUuid : Option Uuid
  deviceId : Text
  version : Text
  crc : Text
  deriving DecidableEq

/-- `_ota_reconnect`. -/
structure OtaReconnect where
  kind : TransportKind
  deviceUuid : Option Uuid
  deviceId : Text
  nodeId : Text
  deadlineS : ℚ
  deriving DecidableEq

/-- An upload worker that has not reported its outcome; `session` is the identity of the session
whose acquisition it drives. -/
structure OtaUpload where
  identity : Nat
  nodeId : Text
  session : Nat
  package : Bytes
  cancelRequested : Bool := false

/-- A client on its way from an accept worker to the GUI thread, with its listener. -/
structure GatewayEnvelope where
  listener : Nat
  client : AcceptedGatewayClient

/-- `AppController`. -/
structure AppController where
  sessionIndex : NodeSessionManager :=
    { maximumSessions := maximumWifiSessions, maximumSessions_pos := by decide }
  sessions : List ManagedSession := []
  selectedNodeId : Option Text := none
  isStopping : Bool := false
  recordingActive : Bool := false
  recordingBatchPath : Option Path := none
  segmentCounts : List (Text × Nat) := []
  exportCounts : List (Text × Nat) := []
  gatewayListener : Option GatewayListener := none
  acceptRunning : Bool := false
  wifiServerLabel : Text := []
  timerActive : Bool := false
  statusTimerActive : Bool := false
  otaReconnect : Option OtaReconnect := none
  otaReconnectTimerActive : Bool := false
  otaNodeId : Option Text := none
  otaWorker : Option Nat := none
  otaContext : Option OtaContext := none
  settingsAliases : List (Text × Text) := []
  recorders : Recorders := fun _ => {}
  uploads : List OtaUpload := []
  envelopes : List GatewayEnvelope := []
  nextSession : Nat := 0
  nextRecorder : Nat := 0
  nextListener : Nat := 0
  nextUpload : Nat := 0
  signals : List Signal := []

/-- What an operation meets outside the program: the clocks, the data directory, the errors of
opening a file, a port or a listener and of writing the metadata, and what the threads it waits for do
meanwhile. -/
structure Host where
  now : ℚ := 0
  utcStamp : Text := []
  dataRoot : Path := []
  fileError : Nat → Option Text := fun _ => none
  writerRuns : Nat → List WriterOutcome := fun _ => []
  metadataError : Nat → Option Text := fun _ => none
  portError : Option Text := none
  listenerError : Option Text := none
  threadStops : Nat → Bool := fun _ => true
  acceptThreadStops : Bool := true

namespace AppController

variable (c : AppController)

/-- Emit a signal. -/
def emit (signal : Signal) : AppController := { c with signals := c.signals ++ [signal] }

/-- `self.error_raised.emit(message)`. -/
def raiseError (message : Text) : AppController := c.emit (.errorRaised message)

/-- `self._sessions.get(node_id)`. -/
def session? (nodeId : Text) : Option ManagedSession := c.sessions.find? fun s => s.nodeId == nodeId

/-- A session by identity. -/
def sessionBySid? (sid : Nat) : Option ManagedSession := c.sessions.find? fun s => s.sid == sid

/-- Write a session back. -/
def setSession (s : ManagedSession) : AppController :=
  { c with sessions := c.sessions.map fun t => if t.sid = s.sid then s else t }

/-- Write the acquisition of a session back. -/
def setAcquisition (s : ManagedSession) (acquisition : AcquisitionController) : AppController :=
  c.setSession { s with acquisition }

/-- Change every session. -/
def mapSessions (f : ManagedSession → ManagedSession) : AppController :=
  { c with sessions := c.sessions.map f }

/-- Run an operation on each session there is now. -/
def forSessions (f : AppController → ManagedSession → AppController) : AppController :=
  (c.sessions.map ManagedSession.sid).foldl (fun c sid =>
    match c.sessionBySid? sid with
    | none => c
    | some s => f c s) c

/-- An operation on the session of a node, or the error that there is none. -/
def withSession (nodeId : Text) (f : ManagedSession → AppController) : AppController :=
  match c.session? nodeId with
  | none => c.raiseError ("unknown node: ".toList ++ nodeId)
  | some s => f s

/-- `_selected_session`. -/
def selectedSession : Option ManagedSession := c.selectedNodeId.bind c.session?

/-- The inventory after a change that the source does not expect to fail. -/
def withIndex (result : Except SessionError NodeSessionManager) : AppController :=
  match result with
  | .ok sessionIndex => { c with sessionIndex }
  | .error _ => c

/-- `self._session_index.summary(node_id).device_uuid`. -/
def deviceUuid (nodeId : Text) : Option Uuid :=
  match c.sessionIndex.summary nodeId with
  | .ok summary => summary.deviceUuid
  | .error _ => none

/-- `_emit_ota_availability`. -/
def emitOtaAvailability : AppController :=
  if c.otaNodeId.isSome then c.emit (.otaAvailability false "OTA session in progress".toList)
  else
    match c.selectedSession with
    | none => c.emit (.otaAvailability false "connect a Wi-Fi node to update firmware".toList)
    | some s =>
      if s.transportKind ≠ .wifi then
        c.emit (.otaAvailability false "OTA 仅支持 UART 来源链路（Wi-Fi 网关）".toList)
      else c.emit (.otaAvailability true [])

/-- `_emit_nodes`. -/
def emitNodes : AppController := (c.emit (.nodesChanged c.sessionIndex.summaries)).emitOtaAvailability

/-- `_release_gateway_client`. -/
def releaseGatewayClient (connectionId : Text) : AppController :=
  { c with gatewayListener := c.gatewayListener.map fun l => l.release connectionId }

/-- `counts.get(key, 0)`. -/
def countOf (counts : List (Text × Nat)) (key : Text) : Nat := (counts.lookup key).getD 0

/-- `counts[key] = n`. -/
def putCount (counts : List (Text × Nat)) (key : Text) (n : Nat) : List (Text × Nat) :=
  if counts.any fun a => a.1 == key then counts.map fun a => if a.1 = key then (key, n) else a
  else counts ++ [(key, n)]

/-- The characters that `_SAFE_PATH_PATTERN` leaves alone. -/
def isSafePathChar (ch : Char) : Bool :=
  ('A' ≤ ch && ch ≤ 'Z') || ('a' ≤ ch && ch ≤ 'z') || ('0' ≤ ch && ch ≤ '9') || ch == '.' ||
    ch == '_' || ch == '-'

/-- `_SAFE_PATH_PATTERN.sub("-", text)`; `inRun` is inside a run of characters that are replaced. -/
def safePathText (inRun : Bool) : Text → Text
  | [] => []
  | ch :: text =>
    if isSafePathChar ch then ch :: safePathText false text
    else if inRun then safePathText true text
    else '-' :: safePathText true text

/-- `_safe_node_directory`. -/
def safeNodeDirectory (summary : NodeSummary) : Text :=
  let name := if summary.aliasName = [] then "node".toList else summary.aliasName
  let suffix := match summary.deviceUuid with
    | some uuid => (uuidHex uuid).take 8
    | none => "pending".toList
  let safe := stripBy (fun ch => ch == '-' || ch == '.' || ch == '_') (safePathText false name)
  (if safe = [] then "node".toList else safe) ++ '-' :: suffix

/-- `f"{number:03d}"`. -/
def render3 (n : Nat) : Text :=
  List.replicate (3 - (renderNat n).length) '0' ++ renderNat n

/-- A new recorder, started; the error is that of opening its file. -/
def newRecorder (h : Host) (id : Nat) (path : Path) (deviceUuid : Option Uuid) :
    Except Text RawSessionRecorder :=
  match h.fileError id with
  | some message => .error message
  | none => (RawSessionRecorder.start {} path deviceUuid).mapError RecorderError.message

/-- `_start_session_recording`. A recording that is active has a batch path. -/
def startSessionRecording (h : Host) (s : ManagedSession) : AppController :=
  if s.recorder.isSome then c
  else
    match c.sessionIndex.summary s.nodeId with
    | .error _ => c
    | .ok summary =>
      let identity := match summary.deviceUuid with
        | some uuid => uuidText uuid
        | none => s.nodeId
      let segment := countOf c.segmentCounts identity + 1
      let c := { c with segmentCounts := putCount c.segmentCounts identity segment }
      let path := c.recordingBatchPath.getD [] ++ [safeNodeDirectory summary,
        "segment-".toList ++ render3 segment ++ ".sdf1".toList]
      let id := c.nextRecorder
      let c := { c with nextRecorder := id + 1 }
      match newRecorder h id path summary.deviceUuid with
      | .error message => c.raiseError message
      | .ok r =>
        let (acquisition, recorders) := s.acquisition.setRecorder (Function.update c.recorders id r)
          (some id)
        { c with recorders }.setSession { s with acquisition, recorder := some id }
          |>.withIndex (c.sessionIndex.setRecording s.nodeId true)

/-- `recorder.stop()` as its callers call it: they catch its `RuntimeError` and show it. The `OSError`
of writing the metadata is caught by none of them. -/
def stopRecorder (h : Host) (id : Nat) : AppController × Option RecordingSummary :=
  match (c.recorders id).stop (h.writerRuns id) (h.metadataError id) with
  | (r, .ok summary) => ({ c with recorders := Function.update c.recorders id r }, some summary)
  | (r, .error (.runtime error)) =>
    ({ c with recorders := Function.update c.recorders id r }.raiseError error.message, none)
  | (r, .error (.osError _)) => ({ c with recorders := Function.update c.recorders id r }, none)

/-- `_stop_session_recording`. -/
def stopSessionRecording (h : Host) (s : ManagedSession) : AppController :=
  match s.recorder with
  | none => c.setAcquisition s s.acquisition.cancelDeferredRecording
  | some id =>
    let acquisition := (s.acquisition.setRecorder c.recorders none).1
    let c := c.setSession { s with acquisition, recorder := none }
    let c := (c.stopRecorder h id).1
    c.withIndex (c.sessionIndex.setRecording s.nodeId false)

/-- `_finalize_session_recorders`. -/
def finalizeSessionRecorders (h : Host) (s : ManagedSession) : AppController :=
  let acquisition := if s.recorder.isSome then (s.acquisition.setRecorder c.recorders none).1
    else s.acquisition
  let acquisition := if s.archiveRecorder.isSome then acquisition.setArchiveRecorder none
    else acquisition
  let c := c.setSession { s with acquisition, recorder := none, archiveRecorder := none }
  let c := match s.recorder with
    | none => c
    | some id => (c.stopRecorder h id).1
  match s.archiveRecorder with
  | none => c
  | some id => (c.stopRecorder h id).1

/-- `set_recording`; `path` is the batch path, or the default one. -/
def setRecording (h : Host) (enabled : Bool) (path : Option Path) : AppController :=
  if enabled then
    if c.sessions = [] then c.raiseError "connect before starting a recording".toList
    else if c.recordingActive then c
    else if c.sessions.any fun s => s.otaActive || s.otaAwaitingRestart then
      c.raiseError "OTA in progress; recording is blocked".toList
    else
      let batch := path.getD (h.dataRoot ++ ["recordings".toList, h.utcStamp])
      let c := { c with recordingActive := true, recordingBatchPath := some batch }
      (c.forSessions fun c s =>
        if (c.deviceUuid s.nodeId).isSome then c.startSessionRecording h s else c).emitNodes
  else
    let c := { c with recordingActive := false }
    let c := c.forSessions fun c s => c.stopSessionRecording h s
    { c with recordingBatchPath := none }.emitNodes

/-- `_stop_wifi_resources`. -/
def stopWifiResources (h : Host) : AppController :=
  let wasServing := c.gatewayListener.isSome
  let c := { c with gatewayListener := none, acceptRunning := false, wifiServerLabel := [] }
  if wasServing ∧ !h.acceptThreadStops then
    c.raiseError "gateway listener did not stop within three seconds".toList
  else c

/-- `select_node`. -/
def selectNode (nodeId : Text) : AppController :=
  c.withSession nodeId fun _ =>
    ({ c with selectedNodeId := some nodeId }.emit (.selectedNodeChanged nodeId)).emitOtaAvailability

/-- A new session, with the requests that `_add_session` queues. -/
def newSession (sid : Nat) (nodeId peer : Text) (transportKind : TransportKind)
    (recordingActive : Bool) : ManagedSession :=
  let acquisition : AcquisitionController := {}
  let acquisition := if recordingActive then acquisition.deferRecordingUntilIdentity else acquisition
  { sid, nodeId, peer, transportKind,
    acquisition := acquisition.requestUuid.requestStatus.requestLivestream }

/-- `_add_session`. -/
def addSession (nodeId peer : Text) (transportKind : TransportKind) :
    Except SessionError AppController :=
  match c.sessionIndex.addSession nodeId transportKind peer with
  | .error error => .error error
  | .ok sessionIndex =>
    let c := { c with
      sessionIndex := sessionIndex
      sessions := c.sessions ++
        [newSession c.nextSession nodeId peer transportKind c.recordingActive]
      nextSession := c.nextSession + 1 }
    let c := if c.selectedNodeId.isNone then c.selectNode nodeId else c
    let c := { c with timerActive := true, statusTimerActive := true }
    .ok (c.emit (.connectionChanged true peer)).emitNodes

/-- `start_wifi_server`; the label of the endpoint is given. -/
def startWifiServer (h : Host) (endpoint : Text) : AppController :=
  if c.sessions ≠ [] ∨ c.acceptRunning then
    c.raiseError "disconnect current sessions before starting Wi-Fi".toList
  else
    match h.listenerError with
    | some message => c.raiseError message
    | none =>
      let label := "LISTENING ".toList ++ endpoint
      { c with
        gatewayListener := some { identity := c.nextListener }
        nextListener := c.nextListener + 1
        acceptRunning := true
        wifiServerLabel := label }.emit (.wifiServerChanged true label)

/-- `connect_device`. -/
def connectDevice (h : Host) (deviceId : Text) : AppController :=
  if c.acceptRunning then
    c.raiseError "stop the Wi-Fi listener before opening CDC".toList
  else if c.sessions ≠ [] then
    c.raiseError "disconnect current sessions before opening CDC".toList
  else
    match h.portError with
    | some message => (c.raiseError message).emit (.connectionChanged false deviceId)
    | none =>
      match c.addSession ("cdc:".toList ++ deviceId) deviceId .cdc with
      | .ok c => c
      | .error error => (c.raiseError error.message).emit (.connectionChanged false deviceId)

/-- `accept_gateway_client`. -/
def acceptGatewayClient (client : AcceptedGatewayClient) : AppController :=
  if c.sessions.any fun s => s.transportKind == .cdc then
    (c.releaseGatewayClient client.connectionId).raiseError
      "disconnect CDC before accepting Wi-Fi gateways".toList
  else
    match c.addSession client.connectionId client.peer .wifi with
    | .ok c => c
    | .error error => (c.releaseGatewayClient client.connectionId).raiseError error.message

/-- `_accept_gateway_envelope`; the release on a listener that was replaced has no effect here. -/
def acceptGatewayEnvelope (envelope : GatewayEnvelope) : AppController :=
  if c.gatewayListener.map GatewayListener.identity = some envelope.listener then
    c.acceptGatewayClient envelope.client
  else c

/-- `_teardown_ota_worker`. -/
def teardownOtaWorker : AppController := { c with otaWorker := none }

/-- `_clear_ota_context`. -/
def clearOtaContext : AppController := { c with otaContext := none, otaNodeId := none }

/-- Set the cancel event of the current upload worker. -/
def requestOtaCancel : AppController :=
  { c with uploads := c.uploads.map fun u =>
      if c.otaWorker = some u.identity then { u with cancelRequested := true } else u }

/-- `disconnect_device`. -/
def disconnectDevice (h : Host) : AppController :=
  let c := { c with isStopping := true }.stopWifiResources h
  let c := { c with
    timerActive := false
    statusTimerActive := false
    otaReconnectTimerActive := false
    otaReconnect := none }
  let c := c.requestOtaCancel
  let c := c.mapSessions fun s => { s with stopRequested := true, transportOpen := false }
  let c := c.forSessions fun c s =>
    let c := if h.threadStops s.sid then c
      else c.raiseError ("acquisition thread for ".toList ++ s.peer ++
        " did not stop within three seconds".toList)
    let c := c.finalizeSessionRecorders h s
    { c with sessionIndex := c.sessionIndex.remove s.nodeId }
  let c := c.teardownOtaWorker.clearOtaContext
  let c := { c with
    sessions := []
    selectedNodeId := none
    recordingActive := false
    recordingBatchPath := none
    isStopping := false }
  (c.emitNodes.emit (.connectionChanged false [])).emit .displayClearRequested

/-- `stop_wifi_server`. -/
def stopWifiServer (h : Host) : AppController :=
  let c := c.stopWifiResources h
  let c := if c.sessions ≠ [] then c.disconnectDevice h else c
  c.emit (.wifiServerChanged false "DISCONNECTED".toList)

/-- `remove_offline_node`. -/
def removeOfflineNode (nodeId : Text) : AppController :=
  if (c.session? nodeId).isSome then c.raiseError "cannot remove a connected device".toList
  else
    match c.sessionIndex.summary nodeId with
    | .error _ => c.raiseError ("unknown node: ".toList ++ nodeId)
    | .ok summary =>
      if summary.transportKind ≠ .wifi ∨
          (summary.connectionState ≠ .offline ∧ summary.connectionState ≠ .reconnecting) then
        c.raiseError "only disconnected Wi-Fi devices can be removed".toList
      else { c with sessionIndex := c.sessionIndex.remove nodeId }.emitNodes

/-- `set_alias`. -/
def setAlias (nodeId name : Text) : AppController :=
  match c.sessionIndex.setAlias nodeId name with
  | .error error => c.raiseError error.message
  | .ok (sessionIndex, summary) =>
    let c := { c with sessionIndex }
    let c := match summary.deviceUuid with
      | some uuid =>
        { c with settingsAliases :=
            NodeSessionManager.putAlias c.settingsAliases (uuidText uuid) summary.aliasName }
      | none => c
    c.emitNodes

end AppController

end SensorHost.Presentation
