import SensorHost.Lib.Runs
import SensorHost.Presentation.Operations

/-!
# Runs of the application

What happens to an `AppController`, one event at a time and in any order: a public operation, a timer
of the GUI thread, a signal that reaches the GUI thread, or a step of another thread. The threads are
the worker of each session, the writer of each recorder, the gateway's accept loop and the upload
workers. A signal may be delivered at any time behind the step that emits it; an event whose thread is
not ready for it changes nothing.

`Operation` has the public operations and `Event` the rest; a `Host` comes with the events in which
the application meets the outside. The worker of a session is a state machine of its own
(`WorkerPhase`): it runs, it has failed or returned and its signal is on the way, and then its
thread is finished. The bytes that it reads, the commands that it writes and the messages that it
handles are events, and so is every item that the writer of a recorder takes.

`run` starts with the aliases that were stored and with nothing connected.
-/

namespace SensorHost.Presentation
open SensorHost.Lib SensorHost.Protocol SensorHost.Storage SensorHost.Acquisition SensorHost.Ota
  SensorHost.Transport

/-- The public operations of `AppController` that change it. -/
inductive Operation where
  | startWifiServer (endpoint : Text)
  | stopWifiServer
  | connectDevice (deviceId : Text)
  | acceptGatewayClient (client : AcceptedGatewayClient)
  | disconnectDevice
  | selectNode (nodeId : Text)
  | removeOfflineNode (nodeId : Text)
  | sendCommand (command : Text)
  | sendCommandTo (nodeId command : Text)
  | startAcquisition
  | startAcquisitionFor (nodeId : Text)
  | stopAcquisition
  | stopAcquisitionFor (nodeId : Text)
  | setWatermark (words : Int)
  | setWatermarkFor (nodeId : Text) (words : Int)
  | setLivestream (target : Text)
  | setLivestreamFor (nodeId target : Text)
  | requestLivestream
  | requestStatusAll
  | startExportFor (nodeId : Text)
  | cancelExportFor (nodeId : Text)
  | clearSdFor (nodeId : Text)
  | startOtaFor (nodeId : Text) (package : PackageSource)
  | cancelOtaFor (nodeId : Text)
  | clearDisplaySamples
  | setRecording (enabled : Bool) (path : Option Path)
  | setAlias (nodeId name : Text)

/-- What happens. -/
inductive Event where
  | operation (h : Host) (o : Operation)
  | publishSnapshots (h : Host)
  | requestStatus
  | pollOtaReconnect (h : Host)
  | workerFailed (sid : Nat)
  | threadFinished (h : Host) (sid : Nat)
  | otaProgress (upload sent total : Nat) (phase : Text)
  | otaOutcome (h : Host) (upload : Nat) (outcome : OtaOutcome)
  | gatewayEnvelope
  | acceptFailed (message : Text)
  | acceptSocket (peer : Text)
  | send (sid : Nat)
  | read (sid : Nat) (chunk : Bytes)
  | handle (sid : Nat) (message : Text)
  | raises (sid : Nat) (message : Text)
  | returns (sid : Nat)
  | write (recorder : Nat) (outcome : WriterOutcome)
  | uploaderSends (upload : Nat) (data : Bytes)
  | uploaderReads (upload : Nat)

/-- `str(error)` of what ends a worker; the text of a `ValueError` is given. -/
def workerMessage (message : Text) : WorkerError → Text
  | .deviceIdentity expected observed =>
    "connection changed UUID from ".toList ++ uuidText expected ++ " to ".toList ++ uuidText observed
  | .recorder error => error.message
  | .value => message

namespace AppController

variable (crc32 : Bytes → UInt32) (c : AppController)

/-- A public operation. -/
def operate (h : Host) : Operation → AppController
  | .startWifiServer endpoint => c.startWifiServer h endpoint
  | .stopWifiServer => c.stopWifiServer h
  | .connectDevice deviceId => c.connectDevice h deviceId
  | .acceptGatewayClient client => c.acceptGatewayClient client
  | .disconnectDevice => c.disconnectDevice h
  | .selectNode nodeId => c.selectNode nodeId
  | .removeOfflineNode nodeId => c.removeOfflineNode nodeId
  | .sendCommand command => c.sendCommand h command
  | .sendCommandTo nodeId command => c.sendCommandTo h nodeId command
  | .startAcquisition => c.startAcquisition
  | .startAcquisitionFor nodeId => c.startAcquisitionFor nodeId
  | .stopAcquisition => c.stopAcquisition
  | .stopAcquisitionFor nodeId => c.stopAcquisitionFor nodeId
  | .setWatermark words => c.setWatermark words
  | .setWatermarkFor nodeId words => c.setWatermarkFor nodeId words
  | .setLivestream target => c.setLivestream target
  | .setLivestreamFor nodeId target => c.setLivestreamFor nodeId target
  | .requestLivestream => c.requestLivestream
  | .requestStatusAll => c.requestStatusAll
  | .startExportFor nodeId => c.startExportFor h nodeId
  | .cancelExportFor nodeId => c.cancelExportFor nodeId
  | .clearSdFor nodeId => c.clearSdFor nodeId
  | .startOtaFor nodeId package => c.startOtaFor crc32 nodeId package
  | .cancelOtaFor nodeId => c.cancelOtaFor nodeId
  | .clearDisplaySamples => c.clearDisplaySamples
  | .setRecording enabled path => c.setRecording h enabled path
  | .setAlias nodeId name => c.setAlias nodeId name

/-- A step of the worker of a session, while it runs. -/
def onWorker (sid : Nat) (f : AppController → ManagedSession → AppController) : AppController :=
  c.onSession sid fun c s => if s.worker = .running then f c s else c

/-- The worker ends, and closes its transport. -/
def endWorker (s : ManagedSession) (phase : WorkerPhase) : AppController :=
  c.setSession { s with worker := phase, transportOpen := false }

/-- The worker handles the next frame of its last read. -/
def handleStep (message : Text) (s : ManagedSession) : AppController :=
  match s.acquisition.handleNext c.recorders with
  | (acquisition, recorders, none) => { c with recorders }.setAcquisition s acquisition
  | (acquisition, recorders, some error) =>
    { c with recorders }.endWorker { s with acquisition } (.failing (workerMessage message error))

/-- An upload worker, while it has not reported its outcome. -/
def upload? (identity : Nat) : Option OtaUpload := c.uploads.find? fun u => u.identity == identity

/-- A call of an upload worker on the acquisition of its session. -/
def onUpload (identity : Nat) (f : AcquisitionController → AcquisitionController) : AppController :=
  match c.upload? identity with
  | none => c
  | some u => c.onSession u.session fun c s => c.setAcquisition s (f s.acquisition)

/-- The outcome of an upload worker reaches the GUI thread. -/
def onOtaOutcome (h : Host) (identity : Nat) (outcome : OtaOutcome) : AppController :=
  match c.upload? identity with
  | none => c
  | some u =>
    let c := { c with uploads := c.uploads.filter fun u => u.identity != identity }
    match outcome with
    | .staged version crc => c.onOtaStaged h u.nodeId version crc
    | .failed code message => c.onOtaFailed u.nodeId code message
    | .cancelled => c.onOtaCancelled u.nodeId

/-- One event. -/
def step (c : AppController) : Event → AppController
  | .operation h o => c.operate crc32 h o
  | .publishSnapshots h => if c.timerActive then c.publishSnapshots h else c
  | .requestStatus => if c.statusTimerActive then c.requestStatus else c
  | .pollOtaReconnect h => if c.otaReconnectTimerActive then c.pollOtaReconnect h else c
  | .workerFailed sid => c.onSession sid fun c s =>
    match s.worker with
    | .failing message => c.onWorkerFailed { s with worker := .finishing } message
    | _ => c
  | .threadFinished h sid => c.onSession sid fun c s =>
    if s.worker = .finishing then c.onThreadFinished h s else c
  | .otaProgress upload sent total phase =>
    match c.upload? upload with
    | none => c
    | some u => c.emit (.otaProgress u.nodeId sent total phase)
  | .otaOutcome h upload outcome => c.onOtaOutcome h upload outcome
  | .gatewayEnvelope =>
    match c.envelopes with
    | [] => c
    | envelope :: envelopes => { c with envelopes }.acceptGatewayEnvelope envelope
  | .acceptFailed message =>
    if c.acceptRunning then { c with acceptRunning := false }.raiseError message else c
  | .acceptSocket peer =>
    match c.acceptRunning, c.gatewayListener with
    | true, some listener =>
      let (listener', client) := listener.accept peer
      { c with
        gatewayListener := some listener'
        envelopes := c.envelopes ++
          client.toList.map fun client => { listener := listener.identity, client } }
    | _, _ => c
  | .send sid => c.onWorker sid fun c s =>
    if s.acquisition.inbox = [] then c.setAcquisition s s.acquisition.sendPending else c
  | .read sid chunk => c.onWorker sid fun c s =>
    if s.acquisition.inbox = [] ∧ s.transportOpen then
      c.setAcquisition s (s.acquisition.readChunk crc32 chunk)
    else c
  | .handle sid message => c.onWorker sid fun c s => c.handleStep message s
  | .raises sid message => c.onWorker sid fun c s =>
    if s.acquisition.inbox = [] then c.endWorker s (.failing message) else c
  | .returns sid => c.onWorker sid fun c s =>
    if s.acquisition.inbox = [] ∧ s.stopRequested then c.endWorker s .finishing else c
  | .write recorder outcome =>
    { c with
      recorders := Function.update c.recorders recorder ((c.recorders recorder).writerStep outcome) }
  | .uploaderSends upload data => c.onUpload upload fun a => a.sendOtaFrame data
  | .uploaderReads upload => c.onUpload upload fun a => a.nextOtaReply.1

/-- A controller as the constructor makes it, with the aliases of the settings. -/
def initial (aliases : List (Text × Text)) : AppController :=
  { sessionIndex :=
      { maximumSessions := maximumWifiSessions, maximumSessions_pos := by decide, aliases }
    settingsAliases := aliases }

/-- The controller behind a sequence of events. -/
def run (aliases : List (Text × Text)) (events : List Event) : AppController :=
  runFrom (step crc32) (initial aliases) events

end AppController

end SensorHost.Presentation
