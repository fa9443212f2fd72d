import SensorHost.Acquisition.Store
import SensorHost.Lib.Numeral
import SensorHost.Ota.Demux
import SensorHost.Storage.Recorder

/-!
# The acquisition controller

Model of `AcquisitionController`: the worker thread's loop over chunks and frames, and the
operations through which the GUI and the uploader reach a session. One pass of the loop is cut into
its parts (`sendPending`, `readChunk`, one `handleNext` for each frame), between which other threads
may act; frames that are parsed and not yet handled wait in `inbox`.

Recorders are shared objects, so they are passed along (`Recorders`) and named by identity. Two
fields are ghosts: `transportLog`, what was written to the transport, and `archiveHandled`, the
archive frames handled since the archive recorder was last set.

The definitions follow the methods of the source, in which a frame is handled in a fixed order: its
identity is observed, an archive frame goes to its recorder and nowhere else, and a live one is
recorded or deferred and then stored. Errors of the worker carry the texts that the source raises.
`shell_field` and its siblings say what handling a frame leaves alone.
-/

namespace SensorHost.Acquisition
open SensorHost.Lib SensorHost.Protocol SensorHost.Ota SensorHost.Storage

@[simp] def maximumCommandBytes : Nat := 94
def deferredRecordingCapacityBytes : Nat := 4 * 1024 * 1024

/-- What ends the worker's loop. -/
inductive WorkerError where
  | deviceIdentity (expected observed : Uuid)
  | recorder (error : RecorderError)
  | value
  deriving DecidableEq

/-- One write to the transport. -/
inductive TransportWrite where
  | control (command : Bytes)
  | raw (data : Bytes)
  deriving DecidableEq

/-- `AcquisitionController`, with its store. -/
structure AcquisitionController where
  store : RealtimeSampleStore := {}
  recorder : Option Nat := none
  deferRecording : Bool := false
  deferredRecordingFrames : List Bytes := []
  deferredRecordingBytes : Nat := 0
  parser : StreamParser := {}
  commands : List Bytes := []
  cliResponses : List Text := []
  bytesReceived : Nat := 0
  framesReceived : Nat := 0
  lastError : Option Text := none
  controlState : FirmwareControlState := {}
  identityUpdates : List Uuid := []
  deviceUuid : Option Uuid := none
  archiveRecorder : Option Nat := none
  otaActive : Bool := false
  otaResetPending : Bool := false
  otaDemux : StreamDemultiplexer := {}
  otaReplies : List Bytes := []
  otaOutbound : List Bytes := []
  inbox : List Frame := []
  transportLog : List TransportWrite := []
  archiveHandled : List Bytes := []

namespace AcquisitionController

variable (c : AcquisitionController)

/-- `enqueue_command`; the error is the message of its `ValueError`. -/
def enqueueCommand (command : Text) : Except Text AcquisitionController :=
  match encodeAscii (strip command) with
  | none => .error "command must contain ASCII characters".toList
  | some encoded =>
    if encoded = [] ∨ encoded.length > maximumCommandBytes ∨ 0 ∈ encoded then
      .error "command must contain 1..94 ASCII bytes without NUL".toList
    else .ok { c with commands := c.commands ++ [encoded] }

/-- Queue a command that `enqueue_command` accepts. -/
def queueCommand (command : String) : AcquisitionController :=
  { c with commands := c.commands ++ [asciiBytes command.toList] }

/-- `start_acquisition`. -/
def startAcquisition : AcquisitionController := c.queueCommand "AT+START"

/-- `stop_acquisition`. -/
def stopAcquisition : AcquisitionController := c.queueCommand "AT+STOP"

/-- `set_watermark`. -/
def setWatermark (words : Int) : Except Text AcquisitionController :=
  if words ≠ 128 ∧ words ≠ 256 ∧ words ≠ 511 then
    .error "watermark must be 128, 256 or 511".toList
  else c.enqueueCommand ("acq watermark ".toList ++ renderInt words)

/-- `request_status`. -/
def requestStatus : AcquisitionController := c.queueCommand "AT+STATE?"

/-- `request_uuid`. -/
def requestUuid : AcquisitionController := c.queueCommand "AT+UUID?"

/-- `request_livestream`. -/
def requestLivestream : AcquisitionController := c.queueCommand "AT+LIVESTREAM?"

/-- `set_livestream`. -/
def setLivestream (target : Text) : Except Text AcquisitionController :=
  if upper target ≠ "UART".toList ∧ upper target ≠ "CDC".toList then
    .error "live target must be UART or CDC".toList
  else c.enqueueCommand ("AT+LIVESTREAM=".toList ++ upper target)

/-- `clear_sd`. -/
def clearSd : AcquisitionController := c.queueCommand "AT+SDCLEAR=CONFIRM"

/-- `recorder.submit(chunk)`, or what it raises. -/
def submitTo (recorders : Recorders) (id : Nat) (chunk : Bytes) :
    Except RecorderError (Recorders × Bool) :=
  match (recorders id).submit chunk with
  | .ok (r, accepted) => .ok (Function.update recorders id r, accepted)
  | .error error => .error error

/-- The backlog handed to a recorder that was just started, up to the first refusal. -/
def submitBacklog (r : RawSessionRecorder) : List Bytes → RawSessionRecorder × Bool
  | [] => (r, true)
  | chunk :: chunks =>
    match r.submit chunk with
    | .ok (r, true) => submitBacklog r chunks
    | .ok (r, false) => (r, false)
    | .error _ => (r, false)

/-- Forget the deferred frames. -/
def dropDeferred : AcquisitionController :=
  { c with deferRecording := false, deferredRecordingFrames := [], deferredRecordingBytes := 0 }

/-- `set_recorder`. -/
def setRecorder (recorders : Recorders) : Option Nat → AcquisitionController × Recorders
  | none => ({ c.dropDeferred with recorder := none }, recorders)
  | some id =>
    let (r, accepted) := submitBacklog (recorders id) c.deferredRecordingFrames
    let c := if accepted then c else { c with lastError := r.failure }
    ({ c.dropDeferred with recorder := some id }, Function.update recorders id r)

/-- `defer_recording_until_identity`. -/
def deferRecordingUntilIdentity : AcquisitionController :=
  if c.recorder.isNone then { c with deferRecording := true } else c

/-- `cancel_deferred_recording`. -/
def cancelDeferredRecording : AcquisitionController := c.dropDeferred

/-- `set_archive_recorder`. -/
def setArchiveRecorder (id : Option Nat) : AcquisitionController :=
  { c with archiveRecorder := id, archiveHandled := [] }

/-- `start_ota`. -/
def startOta : AcquisitionController := { c with otaResetPending := true, otaActive := true }

/-- `end_ota`. -/
def endOta : AcquisitionController := { c with otaActive := false, otaResetPending := false }

/-- `send_ota_frame`. -/
def sendOtaFrame (data : Bytes) : AcquisitionController :=
  { c with otaOutbound := c.otaOutbound ++ [data] }

/-- `next_ota_reply`; an empty queue is a timeout. -/
def nextOtaReply : AcquisitionController × Option Bytes :=
  match c.otaReplies with
  | [] => (c, none)
  | line :: lines => ({ c with otaReplies := lines }, some line)

/-- `drain_identity_updates`. -/
def drainIdentityUpdates : AcquisitionController × List Uuid :=
  ({ c with identityUpdates := [] }, c.identityUpdates)

/-- `drain_cli_responses`. -/
def drainCliResponses : AcquisitionController × List Text :=
  ({ c with cliResponses := [] }, c.cliResponses)

/-- `_send_pending_commands` and `_send_pending_ota_frames`. -/
def sendPending : AcquisitionController :=
  { c with
    commands := []
    otaOutbound := []
    transportLog := c.transportLog ++ c.commands.map .control ++ c.otaOutbound.map .raw }

variable (crc32 : Bytes → UInt32)

/-- The parser takes bytes. -/
def feedParser (data : Bytes) : AcquisitionController × List Frame :=
  let (parser, frames) := c.parser.feed crc32 data
  ({ c with parser }, frames)

/-- `_parse_chunk`, with the lines it puts in the reply queue. -/
def parseChunk (chunk : Bytes) : AcquisitionController × List Frame × List Bytes :=
  if c.otaActive then
    let c := if c.otaResetPending then
        { c with otaDemux := c.otaDemux.reset, otaReplies := [], otaResetPending := false }
      else c
    let (demux, otaLines, parserBytes) := c.otaDemux.feed chunk
    let c := { c with otaDemux := demux, otaReplies := c.otaReplies ++ otaLines }
    if parserBytes = [] then (c, [], otaLines)
    else
      let (c, frames) := c.feedParser crc32 parserBytes
      (c, frames, otaLines)
  else if c.otaDemux.pending ≠ [] then
    -- OTA just ended: the held residue goes ahead of the new bytes
    let (demux, residue) := c.otaDemux.flush
    let (c, frames) := { c with otaDemux := demux }.feedParser crc32 (residue ++ chunk)
    (c, frames, [])
  else
    let (c, frames) := c.feedParser crc32 chunk
    (c, frames, [])

/-- Publish the parser's counters, as the loop of `run` does behind the last frame of a read. -/
def publishStats : AcquisitionController :=
  { c with store := c.store.updateParserStats c.parser.stats }

/-- The loop of `run` on one read, up to the frames; an empty read changes nothing. -/
def readChunk (chunk : Bytes) : AcquisitionController :=
  if chunk = [] then c
  else
    let (c, frames, _) := { c with bytesReceived := c.bytesReceived + chunk.length }.parseChunk
      crc32 chunk
    let c := { c with framesReceived := c.framesReceived + frames.length, inbox := frames }
    if frames = [] then c.publishStats else c

/-- `_observe_identity`. -/
def observeIdentity (uuid : Uuid) : AcquisitionController × Option WorkerError :=
  match c.deviceUuid with
  | none =>
    ({ c with deviceUuid := some uuid, identityUpdates := c.identityUpdates ++ [uuid] }, none)
  | some expected =>
    if expected ≠ uuid then (c, some (.deviceIdentity expected uuid)) else (c, none)

/-- `_handle_frame` for an archive frame, past its identity. -/
def handleArchiveFrame (recorders : Recorders) (frame : Frame) :
    AcquisitionController × Recorders × Option WorkerError :=
  match c.archiveRecorder with
  | none => (c, recorders, none)
  | some id =>
    let c := { c with archiveHandled := c.archiveHandled ++ [frame.rawBytes] }
    match submitTo recorders id frame.rawBytes with
    | .error error => (c, recorders, some (.recorder error))
    | .ok (recorders, true) => (c, recorders, none)
    | .ok (recorders, false) =>
      ({ c with lastError := some "archive recording queue capacity exceeded".toList }, recorders,
        none)

/-- `_handle_frame`, the part that records a live frame. -/
def recordFrame (recorders : Recorders) (frame : Frame) :
    AcquisitionController × Recorders × Option WorkerError :=
  match c.recorder with
  | some id =>
    match submitTo recorders id frame.rawBytes with
    | .error error => (c, recorders, some (.recorder error))
    | .ok (recorders, true) => (c, recorders, none)
    | .ok (recorders, false) => ({ c with lastError := (recorders id).failure }, recorders, none)
  | none =>
    if c.deferRecording then
      let nextSize := c.deferredRecordingBytes + frame.rawBytes.length
      if nextSize ≤ deferredRecordingCapacityBytes then
        ({ c with
          deferredRecordingFrames := c.deferredRecordingFrames ++ [frame.rawBytes]
          deferredRecordingBytes := nextSize }, recorders, none)
      else
        ({ c with lastError := some "deferred recording capacity exceeded".toList }, recorders,
          none)
    else (c, recorders, none)

/-- `_handle_frame` for the text of a CLI frame. -/
def handleCli (text : Text) : AcquisitionController × Option WorkerError :=
  match c.controlState.updatedFromCli text with
  | .error .value => (c, some .value)
  | .error (.parse message) =>
    ({ c with lastError := some message, cliResponses := c.cliResponses ++ [text] }, none)
  | .ok state =>
    let c := { c with controlState := state, store := c.store.updateControlState state }
    match state.deviceUuid with
    | none => ({ c with cliResponses := c.cliResponses ++ [text] }, none)
    | some uuid =>
      match c.observeIdentity uuid with
      | (c, some error) => (c, some error)
      | (c, none) => ({ c with cliResponses := c.cliResponses ++ [text] }, none)

/-- `_handle_frame`, the part that brings a live frame to the store. -/
def storeFrame (frame : Frame) : AcquisitionController × Option WorkerError :=
  match frame.messageType with
  | .iis3dwbFifo =>
    -- without decoded arrays there are no samples to append either
    match frame.iisTsUs, frame.iisAccelG with
    | some times, some accel => ({ c with store := c.store.appendIisArrays times accel }, none)
    | _, _ => (c, none)
  | .jy61plSample =>
    match frame.jy61pl with
    | some sample => ({ c with store := c.store.updateJy sample }, none)
    | none => (c, none)
  | .status =>
    match frame.status with
    | some status => ({ c with store := c.store.updateStatus status }, none)
    | none => (c, none)
  | .cliResponse =>
    match frame.cliText with
    | some text => c.handleCli text
    | none => (c, none)

/-- `_handle_frame` past the identity of the frame. -/
def routeFrame (recorders : Recorders) (frame : Frame) :
    AcquisitionController × Recorders × Option WorkerError :=
  if frame.archiveExport then c.handleArchiveFrame recorders frame
  else
    match c.recordFrame recorders frame with
    | (c, recorders, some error) => (c, recorders, some error)
    | (c, recorders, none) =>
      let (c, error) := c.storeFrame frame
      (c, recorders, error)

/-- `_handle_frame`. -/
def handleFrame (recorders : Recorders) (frame : Frame) :
    AcquisitionController × Recorders × Option WorkerError :=
  match frame.deviceUuid with
  | none => c.routeFrame recorders frame
  | some uuid =>
    match c.observeIdentity uuid with
    | (c, some error) => (c, recorders, some error)
    | (c, none) => c.routeFrame recorders frame

/-- The loop of `run` on the next frame of a read. -/
def handleNext (recorders : Recorders) : AcquisitionController × Recorders × Option WorkerError :=
  match c.inbox with
  | [] => (c, recorders, none)
  | frame :: frames =>
    match { c with inbox := frames }.handleFrame recorders frame with
    | (c, recorders, some error) => (c, recorders, some error)
    | (c, recorders, none) =>
      (if frames = [] then c.publishStats else c, recorders, none)

/-- The controller without the fields that `_handle_frame` may write. -/
def shell : AcquisitionController :=
  { c with
    store := {}
    deferredRecordingFrames := []
    deferredRecordingBytes := 0
    cliResponses := []
    lastError := none
    controlState := {}
    identityUpdates := []
    deviceUuid := none
    archiveHandled := [] }

/-- What is told by the shell is the same where the shell is. -/
lemma shell_field {β : Type} {c d : AcquisitionController} (get : AcquisitionController → β)
    (hget : ∀ c, get c.shell = get c) (h : d.shell = c.shell) : get d = get c := by
  rw [← hget d, h, hget]

variable (recorders : Recorders) (frame : Frame)

/-- Observing an identity keeps the shell. -/
lemma observeIdentity_shell (uuid : Uuid) : (c.observeIdentity uuid).1.shell = c.shell := by
  unfold observeIdentity
  split
  · rfl
  · split <;> rfl

/-- So does an archive frame. -/
lemma handleArchiveFrame_shell :
    (c.handleArchiveFrame recorders frame).1.shell = c.shell := by
  unfold handleArchiveFrame
  split
  · rfl
  · dsimp only
    split <;> rfl

/-- So does recording. -/
lemma recordFrame_shell : (c.recordFrame recorders frame).1.shell = c.shell := by
  unfold recordFrame
  split
  · split <;> rfl
  · split
    · dsimp only
      split <;> rfl
    · rfl

/-- So does a reply. -/
lemma handleCli_shell (text : Text) : (c.handleCli text).1.shell = c.shell := by
  unfold handleCli
  split
  · rfl
  · rfl
  · dsimp only
    split
    · rfl
    · rename_i state _ _ uuid _
      have hseen := observeIdentity_shell { c with
        controlState := state
        store := c.store.updateControlState state } uuid
      split <;> (rename_i h; rw [h] at hseen; exact hseen)

/-- So does storing a frame. -/
lemma storeFrame_shell : (c.storeFrame frame).1.shell = c.shell := by
  unfold storeFrame
  split
  · split <;> rfl
  · split <;> rfl
  · split <;> rfl
  · split
    · exact c.handleCli_shell _
    · rfl

/-- So does handling one as a whole. -/
lemma routeFrame_shell : (c.routeFrame recorders frame).1.shell = c.shell := by
  unfold routeFrame
  split
  · exact c.handleArchiveFrame_shell recorders frame
  · have hrecord := c.recordFrame_shell recorders frame
    split <;> (rename_i h; rw [h] at hrecord)
    · exact hrecord
    · exact (storeFrame_shell _ frame).trans hrecord

/-- Handling a frame writes to the fields of `shell` only. -/
lemma handleFrame_shell : (c.handleFrame recorders frame).1.shell = c.shell := by
  unfold handleFrame
  split
  · exact c.routeFrame_shell recorders frame
  · rename_i uuid _
    have hseen := c.observeIdentity_shell uuid
    split <;> (rename_i h; rw [h] at hseen)
    · exact hseen
    · exact (routeFrame_shell _ recorders frame).trans hseen

variable {c frame}

/-- The loop over the frames of a read: the frame is handled, and the counters are published behind
the last one. -/
lemma handleNext_cons {frames : List Frame} (h : c.inbox = frame :: frames) :
    ∃ c', c.handleNext recorders =
        (c', ({ c with inbox := frames }.handleFrame recorders frame).2) ∧
      (c' = ({ c with inbox := frames }.handleFrame recorders frame).1 ∨
        c' = ({ c with inbox := frames }.handleFrame recorders frame).1.publishStats) := by
  rw [handleNext, h]
  dsimp only
  split
  · rename_i heq
    rw [heq]
    exact ⟨_, rfl, .inl rfl⟩
  · rename_i heq
    rw [heq]
    refine ⟨_, rfl, ?_⟩
    split
    · exact .inr rfl
    · exact .inl rfl

/-- Handling the next frame writes to the fields of `shell` only, and takes the frame. -/
lemma handleNext_shell {frames : List Frame} (h : c.inbox = frame :: frames) :
    (c.handleNext recorders).1.shell = { c with inbox := frames }.shell := by
  obtain ⟨c', heq, rfl | rfl⟩ := handleNext_cons recorders h
  · rw [heq]
    exact handleFrame_shell _ recorders frame
  · rw [heq]
    exact handleFrame_shell _ recorders frame

end AcquisitionController

end SensorHost.Acquisition
