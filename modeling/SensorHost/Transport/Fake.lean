import SensorHost.Acquisition.Sessions
import SensorHost.Ota.Device
import SensorHost.Protocol.Rendering
import SensorHost.Protocol.RoundTrip
import SensorHost.Transport.Control

/-!
# The virtual transport

Model of `FakeTransport`: one simulated sensor behind the contract of a transport. Its OTA part is
`OtaDevice`. The clock is read as often as `read` reads it, so a call takes its readings with it;
times are exact, and what the simulator computes with sines and cosines is a parameter (`Waves`).

The transport carries one ghost field, `sent`: what every packet that was built stands for.

The packets are described by what they stand for (`Emission`), from which their bytes are computed
with the frame counters and the checksum; a number that does not fit its field raises as
`struct.pack` does. Commands are compared in capitals without blanks at the ends, and everything
that the device answers is put into the queue of pending packets that `read` takes from. The replies
are texts of `FakeReply`, with the state reply in the words of `Protocol.Rendering`.
-/

namespace SensorHost.Transport
open SensorHost.Lib SensorHost.Protocol SensorHost.Ota SensorHost.Acquisition

/-- `DEVICE_ID`. -/
def fakeDeviceId : Text := "FAKE-001".toList

/-- `DEVICE_UUID`. -/
def fakeDeviceUuid : Uuid := 0x550e8400e29b41d4a716446655440000#128

/-- `_LIVE_INTERVAL_SECONDS`. -/
def liveInterval : ℚ := 1 / 20

/-- `_EXPORT_INTERVAL_SECONDS`. -/
def exportInterval : ℚ := 3 / 25

/-- `_TIMESTAMP_START_US`. -/
def timestampStartUs : Nat := 1700000000000000

/-- `_JY_SAMPLE_PERIOD_US`. -/
def jySamplePeriodUs : Nat := 37500

/-- `_IIS_TIMESTAMP_TICK_US`. -/
def fakeTimestampTickUs : Nat := 25

/-- `_SD_CAPACITY_BYTES`. -/
def sdCapacityBytes : Nat := 16384

/-- `_SD_FRAME_COUNT`. -/
def sdFrameCount : Nat := 24

/-- `_SD_FRAME_BYTES`. -/
def sdFrameBytes : Nat := 62

/-- `int(amplitude * sin(..))` or `int(amplitude * cos(..))`. -/
structure Swing (amplitude : Nat) where
  value : Int
  natAbs_le : value.natAbs ≤ amplitude

/-- The oscillations the simulator samples, by the number of the frame. -/
structure Waves where
  iisX (frameIndex sampleIndex : Nat) : Swing 6000
  iisY (frameIndex sampleIndex : Nat) : Swing 5000
  iisZ (frameIndex sampleIndex : Nat) : Swing 300
  jyX (frameIndex : Nat) : Swing 4000
  jyY (frameIndex : Nat) : Swing 4000
  roll (frameIndex : Nat) : Swing 8000
  pitch (frameIndex : Nat) : Swing 6000
  yaw (frameIndex : Nat) : Swing 3000

/-- A sensor at rest. -/
def Waves.still : Waves where
  iisX _ _ := ⟨0, Nat.zero_le _⟩
  iisY _ _ := ⟨0, Nat.zero_le _⟩
  iisZ _ _ := ⟨0, Nat.zero_le _⟩
  jyX _ := ⟨0, Nat.zero_le _⟩
  jyY _ := ⟨0, Nat.zero_le _⟩
  roll _ := ⟨0, Nat.zero_le _⟩
  pitch _ := ⟨0, Nat.zero_le _⟩
  yaw _ := ⟨0, Nat.zero_le _⟩

/-- `struct.pack("<h", value)`. -/
def packInt16 (value : Int) : Bytes := leBytes 2 (value % 0x10000).toNat

/-- The tag byte of a FIFO word. -/
def fifoTag (tag : UInt8) : UInt8 := tag <<< 3

/-- The payload of `_make_iis_frame`: a timestamp word and eight samples. -/
def Waves.iisPayload (waves : Waves) (frameIndex : Nat) : Bytes :=
  let timestampUs := timestampStartUs + frameIndex * jySamplePeriodUs
  let timestampTicks := timestampUs / fakeTimestampTickUs % 2 ^ 32
  fifoTag 4 :: leBytes 4 timestampTicks ++ [0, 0] ++
    (List.range 8).flatMap fun sampleIndex =>
      fifoTag 2 :: packInt16 (waves.iisX frameIndex sampleIndex).value ++
        packInt16 (waves.iisY frameIndex sampleIndex).value ++
        packInt16 (16384 + (waves.iisZ frameIndex sampleIndex).value)

/-- The raw values of `_make_jy_frame`. -/
def Waves.jyRaw (waves : Waves) (frameIndex : Nat) : List Int :=
  [(waves.jyX frameIndex).value, (waves.jyY frameIndex).value, 16384, 2500,
    (waves.roll frameIndex).value, (waves.pitch frameIndex).value, (waves.yaw frameIndex).value]

/-- The payload of `_make_jy_frame`. -/
def Waves.jyPayload (waves : Waves) (frameIndex : Nat) : Bytes :=
  (waves.jyRaw frameIndex).flatMap packInt16

/-- What `_state` is compared with. -/
inductive FakeMode where
  | idle
  | acquire
  | exporting
  | error
  deriving DecidableEq

/-- The text of the state. -/
def FakeMode.word : FakeMode → Word
  | .idle => ⟨"IDLE".toList, by decide, by decide⟩
  | .acquire => ⟨"ACQUIRE".toList, by decide, by decide⟩
  | .exporting => ⟨"EXPORT".toList, by decide, by decide⟩
  | .error => ⟨"ERROR".toList, by decide, by decide⟩

/-- The two targets of a stream. -/
inductive StreamTarget where
  | uart
  | cdc
  deriving DecidableEq

/-- The text of a target. -/
def StreamTarget.text : StreamTarget → Text
  | .uart => "UART".toList
  | .cdc => "CDC".toList

/-- The target with this text, if it is one. -/
def StreamTarget.ofText (text : Text) : Option StreamTarget :=
  if text = "UART".toList then some .uart else if text = "CDC".toList then some .cdc else none

/-- The text of `_export_target`. -/
def exportTargetWord : Option StreamTarget → Word
  | none => ⟨"NONE".toList, by decide, by decide⟩
  | some .uart => ⟨"UART".toList, by decide, by decide⟩
  | some .cdc => ⟨"CDC".toList, by decide, by decide⟩

/-- The replies of the simulator. -/
inductive FakeReply where
  | uuid
  | state (status : FakeState)
  | livestream (target : StreamTarget)
  | ok
  | errorState
  | errorUnknown
  | acquiring
  | exportEmpty
  | exportBegin (target : StreamTarget)
  | exportEnd (status : FakeState)

/-- The text of a reply. -/
def FakeReply.text : FakeReply → Text
  | .uuid => "+UUID:".toList ++ uuidText fakeDeviceUuid ++ ",SOURCE=FAKE\r\nOK\r\n".toList
  | .state status => status.stateReply
  | .livestream target => "+LIVESTREAM:".toList ++ target.text ++ "\r\nOK\r\n".toList
  | .ok => "OK\r\n".toList
  | .errorState => "ERROR:STATE\r\n".toList
  | .errorUnknown => "ERROR:UNKNOWN\r\n".toList
  | .acquiring => "+STATE:ACQUIRE\r\nOK\r\n".toList
  | .exportEmpty => "EXPORT_EMPTY\r\n".toList
  | .exportBegin target => "EXPORT_BEGIN:".toList ++ target.text ++ "\r\nOK\r\n".toList
  | .exportEnd status => "EXPORT_END:CHUNKS=1,FRAMES=24\r\n".toList ++ status.stateReply

/-- What a packet stands for; sensor frames have the number that their payload is made of. -/
inductive Emission where
  | iis (frameIndex sequence : Nat)
  | jy (frameIndex sequence : Nat)
  | archive (frameIndex sequence : Nat)
  | cli (reply : FakeReply) (sequence : Nat)
  | ota (lines : List Bytes)

/-- `timestamp_us` of `_make_jy_frame`. -/
def jyTimestampUs (frameIndex : Nat) : Nat := timestampStartUs + max frameIndex 1 * jySamplePeriodUs

/-- What raises: the checks of a call, or `struct.pack` on a number that does not fit. -/
inductive FakeError where
  | control (error : ControlError)
  | struct
  deriving DecidableEq

namespace Emission

/-- The numbers of the header fit their fields. -/
def Packs : Emission → Prop
  | .iis frameIndex sequence =>
    sequence < 2 ^ 32 ∧ timestampStartUs + frameIndex * jySamplePeriodUs < 2 ^ 64
  | .jy frameIndex sequence => sequence < 2 ^ 32 ∧ jyTimestampUs frameIndex < 2 ^ 64
  | .archive frameIndex sequence => sequence < 2 ^ 32 ∧ jyTimestampUs frameIndex < 2 ^ 64
  | .cli _ sequence => sequence < 2 ^ 32 ∧ timestampStartUs + sequence < 2 ^ 64
  | .ota _ => True

instance : (e : Emission) → Decidable e.Packs
  | .iis _ _ => inferInstanceAs (Decidable (_ ∧ _))
  | .jy _ _ => inferInstanceAs (Decidable (_ ∧ _))
  | .archive _ _ => inferInstanceAs (Decidable (_ ∧ _))
  | .cli _ _ => inferInstanceAs (Decidable (_ ∧ _))
  | .ota _ => inferInstanceAs (Decidable True)

variable (waves : Waves) (crc32 : Bytes → UInt32)

/-- The bytes that `_make_iis_frame`, `_make_jy_frame`, `_queue_cli` and `_queue_raw` build. -/
def bytes : Emission → Bytes
  | .iis frameIndex sequence =>
    encodeDataFrame crc32 fakeDeviceUuid .iis3dwbFifo (waves.iisPayload frameIndex) 9 sequence
      (timestampStartUs + frameIndex * jySamplePeriodUs) 0
  | .jy frameIndex sequence =>
    encodeDataFrame crc32 fakeDeviceUuid .jy61plSample (waves.jyPayload frameIndex) 1 sequence
      (jyTimestampUs frameIndex) 0
  | .archive frameIndex sequence =>
    encodeDataFrame crc32 fakeDeviceUuid .jy61plSample (waves.jyPayload frameIndex) 1 sequence
      (jyTimestampUs frameIndex) archiveFlag
  | .cli reply sequence =>
    encodeCli crc32 (asciiBytes reply.text) sequence (timestampStartUs + sequence) 0
  | .ota lines => lines.flatten

end Emission

/-- `FakeTransport`. -/
structure FakeTransport where
  opened : Bool := false
  mode : FakeMode := .idle
  liveTarget : StreamTarget := .uart
  exportTarget : Option StreamTarget := none
  exportActive : Bool := false
  exportFrameIndex : Nat := 0
  nextLiveAt : ℚ := 0
  nextExportAt : ℚ := 0
  sensorSequence : Nat := 0
  cliSequence : Nat := 0
  sensorFrameIndex : Nat := 0
  pendingPackets : List Bytes := []
  pendingBytes : Bytes := []
  sdUsed : Nat := sdFrameCount * sdFrameBytes
  sdRetainedFrames : Nat := sdFrameCount
  sdRetainedChunks : Nat := 1
  sdOverwrittenFrames : Nat := 0
  rawWrites : List Bytes := []
  ota : OtaDevice := {}
  sent : List Emission := []

namespace FakeTransport

variable (waves : Waves) (crc32 : Bytes → UInt32) (d : FakeTransport)

/-- What `_state_reply` reports. -/
def status : FakeState :=
  { state := d.mode.word
    sdUsed := d.sdUsed
    sdCapacity := sdCapacityBytes
    retainedChunks := d.sdRetainedChunks
    retainedFrames := d.sdRetainedFrames
    overwrittenFrames := d.sdOverwrittenFrames
    exportTarget := exportTargetWord d.exportTarget
    exportFrameIndex := d.exportFrameIndex }

/-- Build a packet, unless a number of its header does not fit. -/
def emit (e : Emission) : FakeTransport × Except FakeError Bytes :=
  if e.Packs then ({ d with sent := d.sent ++ [e] }, .ok (e.bytes waves crc32))
  else (d, .error .struct)

/-- Build a packet and queue it. -/
def queue (e : Emission) : FakeTransport × Except FakeError Unit :=
  match d.emit waves crc32 e with
  | (d, .error error) => (d, .error error)
  | (d, .ok packet) => ({ d with pendingPackets := d.pendingPackets ++ [packet] }, .ok ())

/-- `_queue_cli`. -/
def queueCli (reply : FakeReply) : FakeTransport × Except FakeError Unit :=
  { d with cliSequence := d.cliSequence + 1 }.queue waves crc32 (.cli reply (d.cliSequence + 1))

/-- `_make_iis_frame`. -/
def makeIisFrame : FakeTransport × Except FakeError Bytes :=
  let d := { d with sensorSequence := d.sensorSequence + 1 }
  d.emit waves crc32 (.iis d.sensorFrameIndex d.sensorSequence)

/-- `_make_jy_frame` of a live frame. -/
def makeJyFrame : FakeTransport × Except FakeError Bytes :=
  let frameIndex := d.sensorFrameIndex + d.exportFrameIndex
  let d := { d with sensorSequence := d.sensorSequence + 1 }
  d.emit waves crc32 (.jy frameIndex d.sensorSequence)

/-- `_make_jy_frame` of an archive frame. -/
def makeArchiveFrame (sequence : Nat) : FakeTransport × Except FakeError Bytes :=
  d.emit waves crc32 (.archive (d.sensorFrameIndex + d.exportFrameIndex) sequence)

/-- `_make_live_frame`. -/
def makeLiveFrame : FakeTransport × Except FakeError Bytes :=
  let d := { d with sensorFrameIndex := d.sensorFrameIndex + 1 }
  if d.sensorFrameIndex % 2 ≠ 0 then d.makeIisFrame waves crc32 else d.makeJyFrame waves crc32

/-- `_finish_export`. -/
def finishExport : FakeTransport × Except FakeError Unit :=
  let d := { d with
    exportActive := false
    mode := .idle
    exportTarget := none
    sdUsed := 0
    sdRetainedFrames := 0
    sdRetainedChunks := 0 }
  d.queueCli waves crc32 (.exportEnd d.status)

/-- `_take_pending_packet`. -/
def takePendingPacket : FakeTransport × Option Bytes :=
  if d.pendingBytes ≠ [] then ({ d with pendingBytes := [] }, some d.pendingBytes)
  else
    match d.pendingPackets with
    | [] => (d, none)
    | packet :: packets => ({ d with pendingPackets := packets }, some packet)

/-- `_take_bytes`. -/
def takeBytes (packet : Bytes) (maxBytes : Nat) : FakeTransport × Bytes :=
  if packet.length ≤ maxBytes then (d, packet)
  else ({ d with pendingBytes := packet.drop maxBytes }, packet.take maxBytes)

/-- The frame that `read` makes of the device when it is due. -/
def takeFrame (maxBytes : Nat) : FakeTransport × Except FakeError Bytes →
    FakeTransport × Option (Except FakeError Bytes)
  | (d, .error error) => (d, some (.error error))
  | (d, .ok frame) => ((d.takeBytes frame maxBytes).1, some (.ok (d.takeBytes frame maxBytes).2))

/-- The part of a pass of `read` behind the queue: the device at the time `now`, and the frame that
is due, if one is. -/
def dueFrame (now : ℚ) : Option (FakeTransport × Except FakeError Bytes) :=
  if d.exportActive then
    if d.nextExportAt ≤ now then
      match d.makeArchiveFrame waves crc32 (d.exportFrameIndex + 1) with
      | (d, .error error) => some (d, .error error)
      | (d, .ok frame) =>
        some ({ d with
          exportFrameIndex := d.exportFrameIndex + 1
          nextExportAt := now + exportInterval }, .ok frame)
    else none
  else if d.nextLiveAt ≤ now then
    match d.makeLiveFrame waves crc32 with
    | (d, .error error) => some (d, .error error)
    | (d, .ok frame) => some ({ d with nextLiveAt := now + liveInterval }, .ok frame)
  else none

/-- The loop of `read`, with a reading of the clock for each pass that looks at it; `none` if the
readings end before `read` returns. -/
def readLoop (deadline : ℚ) (maxBytes : Nat) :
    List ℚ → FakeTransport → FakeTransport × Option (Except FakeError Bytes)
  | clock, d =>
    match d.takePendingPacket with
    | (d, some packet) => takeFrame maxBytes (d, .ok packet)
    | (_, none) =>
      match clock with
      | [] => (d, none)
      | now :: clock =>
        -- an OTA session owns the stream: no frame is made
        if d.ota.active then
          if deadline ≤ now then (d, some (.ok [])) else readLoop deadline maxBytes clock d
        else if d.exportActive ∧ sdFrameCount ≤ d.exportFrameIndex then
          match d.finishExport waves crc32 with
          | (d, .error error) => (d, some (.error error))
          | (d, .ok ()) => readLoop deadline maxBytes clock d
        else
          match d.dueFrame waves crc32 now with
          | some due => takeFrame maxBytes due
          | none =>
            if deadline ≤ now then (d, some (.ok [])) else readLoop deadline maxBytes clock d
termination_by structural clock => clock

/-- `_require_open`. -/
def notOpen : FakeError := .control (.transport "fake endpoint is not open".toList)

/-- `open`, at the time `now`. -/
def openEndpoint (deviceId : Text) (now : ℚ) : FakeTransport × Except FakeError Unit :=
  if deviceId ≠ fakeDeviceId then
    (d, .error (.control (.transport ("unknown fake device ".toList ++ deviceId))))
  else if d.opened then
    (d, .error (.control (.transport "a fake endpoint is already open".toList)))
  else ({ d with opened := true, nextLiveAt := now }, .ok ())

/-- `close`. -/
def close : FakeTransport :=
  { d with
    opened := false
    pendingPackets := []
    pendingBytes := []
    exportActive := false
    exportTarget := none
    mode := .idle
    ota := { d.ota with active := false, nextOffset := 0, image := [] } }

/-- `read`; the first reading of the clock sets the deadline. -/
def read (maxBytes : Int) (timeout : ℚ) (clock : List ℚ) :
    FakeTransport × Option (Except FakeError Bytes) :=
  if maxBytes ≤ 0 then
    (d, some (.error (.control (.value "max_bytes must be positive".toList))))
  else if timeout < 0 then
    (d, some (.error (.control (.value "timeout_s must not be negative".toList))))
  else if !d.opened then (d, some (.error notOpen))
  else
    match clock with
    | [] => (d, none)
    | start :: clock => readLoop waves crc32 (start + timeout) maxBytes.toNat clock d

/-- The state in which a stream may be changed, an acquisition or an export started, or the store
cleared. -/
def CanStart : Prop := d.mode = .idle ∨ d.mode = .error

instance : Decidable d.CanStart := inferInstanceAs (Decidable (_ ∨ _))

/-- `_handle_acquisition_command`. -/
def handleAcquisitionCommand (command : Text) : FakeTransport × Except FakeError Unit :=
  if command = "AT+START".toList then
    if d.CanStart then { d with mode := .acquire }.queueCli waves crc32 .acquiring
    else d.queueCli waves crc32 .errorState
  else
    let d := if d.exportActive then
        { d with exportActive := false, exportTarget := none, exportFrameIndex := 0 }
      else d
    if d.mode = .acquire ∨ d.mode = .exporting ∨ d.CanStart then
      { d with mode := .idle }.queueCli waves crc32 .ok
    else d.queueCli waves crc32 .errorState

/-- `_start_export`, at the time `now`. -/
def startExport (target : Text) (now : ℚ) : FakeTransport × Except FakeError Unit :=
  match StreamTarget.ofText target with
  | none => d.queueCli waves crc32 .errorState
  | some target =>
    if ¬ d.CanStart then d.queueCli waves crc32 .errorState
    else if d.sdRetainedFrames = 0 then d.queueCli waves crc32 .exportEmpty
    else
      { d with
        mode := .exporting
        exportTarget := some target
        exportActive := true
        exportFrameIndex := 0
        nextExportAt := now + exportInterval }.queueCli waves crc32 (.exportBegin target)

/-- `_clear_sd`. -/
def clearSd : FakeTransport × Except FakeError Unit :=
  if ¬ d.CanStart then d.queueCli waves crc32 .errorState
  else
    { d with
      sdUsed := 0
      sdRetainedFrames := 0
      sdRetainedChunks := 0
      sdOverwrittenFrames := 0 }.queueCli waves crc32 .ok

/-- `AT+LIVESTREAM=` with a target. -/
def setLivestream (target : Text) : FakeTransport × Except FakeError Unit :=
  match StreamTarget.ofText target with
  | none => d.queueCli waves crc32 .errorState
  | some target =>
    if ¬ d.CanStart then d.queueCli waves crc32 .errorState
    else { d with liveTarget := target }.queueCli waves crc32 .ok

/-- What `write_control` does with a command in upper case, at the time `now`. -/
def command (normalized : Text) (now : ℚ) : FakeTransport × Except FakeError Unit :=
  if normalized = "AT+UUID?".toList then d.queueCli waves crc32 .uuid
  else if normalized = "AT+STATE?".toList then d.queueCli waves crc32 (.state d.status)
  else if normalized = "AT+LIVESTREAM?".toList then
    d.queueCli waves crc32 (.livestream d.liveTarget)
  else if startsWith normalized "AT+LIVESTREAM=".toList then
    d.setLivestream waves crc32 (removePrefix normalized "AT+LIVESTREAM=".toList)
  else if normalized = "AT+START".toList ∨ normalized = "AT+STOP".toList then
    d.handleAcquisitionCommand waves crc32 normalized
  else if startsWith normalized "AT+EXPORT=".toList then
    d.startExport waves crc32 (removePrefix normalized "AT+EXPORT=".toList) now
  else if normalized = "AT+SDCLEAR=CONFIRM".toList then d.clearSd waves crc32
  else if startsWith normalized "ACQ WATERMARK ".toList then d.queueCli waves crc32 .ok
  else d.queueCli waves crc32 .errorUnknown

/-- The text of a command that passes the checks, as `write_control` compares it. -/
def normalize (content : Bytes) : Text := upper (strip ((decodeAscii content).getD []))

/-- `write_control`, at the time `now`. -/
def writeControl (command : Bytes) (now : ℚ) : FakeTransport × Except FakeError Unit :=
  if !d.opened then (d, .error notOpen)
  else
    match controlContent command with
    | .error error => (d, .error (.control error))
    | .ok content => d.command waves crc32 (normalize content) now

/-- `write_raw`. -/
def writeRaw (data : Bytes) : FakeTransport × Except FakeError Unit :=
  if !d.opened then (d, .error notOpen)
  else if data = [] then
    (d, .error (.control (.value "raw write must contain at least one byte".toList)))
  else
    let (ota, lines) := d.ota.writeRaw crc32 {} data
    { d with rawWrites := d.rawWrites ++ [data], ota }.queue waves crc32 (.ota lines)

end FakeTransport

/-- A call of the host, with the readings of the clock it takes. -/
inductive FakeCall where
  | openEndpoint (deviceId : Text) (now : ℚ)
  | close
  | read (maxBytes : Int) (timeout : ℚ) (clock : List ℚ)
  | writeControl (command : Bytes) (now : ℚ)
  | writeRaw (data : Bytes)

namespace FakeTransport

variable (waves : Waves) (crc32 : Bytes → UInt32) (d : FakeTransport)

/-- A call that returns nothing. -/
def silent : FakeTransport × Except FakeError Unit → FakeTransport × Option (Except FakeError Bytes)
  | (d, result) => (d, some (result.map fun _ => []))

/-- A call, with what it returns; `none` is a read that has not returned. -/
def call : FakeCall → FakeTransport × Option (Except FakeError Bytes)
  | .openEndpoint deviceId now => silent (d.openEndpoint deviceId now)
  | .close => (d.close, some (.ok []))
  | .read maxBytes timeout clock => d.read waves crc32 maxBytes timeout clock
  | .writeControl command now => silent (d.writeControl waves crc32 command now)
  | .writeRaw data => silent (d.writeRaw waves crc32 data)

/-- The bytes in what a call returns. -/
def handed : Option (Except FakeError Bytes) → Bytes
  | some (.ok bytes) => bytes
  | _ => []

/-- The bytes that a call hands over. -/
def delivered (c : FakeCall) : Bytes := handed (d.call waves crc32 c).2

/-- The device behind a call. -/
def step (c : FakeCall) : FakeTransport := (d.call waves crc32 c).1

/-- The chunks that a sequence of calls hands over. -/
def chunks (d : FakeTransport) : List FakeCall → List Bytes
  | [] => []
  | c :: cs => d.delivered waves crc32 c :: chunks (d.step waves crc32 c) cs

end FakeTransport

end SensorHost.Transport
