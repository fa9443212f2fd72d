import SensorHost.Lib.Program
import SensorHost.Ota.Codec
import SensorHost.Ota.Package

/-!
# The uploader

Model of `OtaUploader` as an interaction program: it sends bytes, reads reply lines, asks whether
the user cancelled and reports progress. Loops over attempts and over DATA frames are recursions
with an explicit bound; `dataLoop_fuel` shows that the bound on the DATA loop is never what ends it.

A program is a tree of operations with the rest of the program behind each answer, so that it may be
run against a device, a peer with any behaviour, or a deterministic link. Errors are values of
`UploadError`, in the order in which the source raises them. An error whose text shows an integer
goes through `showing`, since Python does not print an integer with too many digits.
-/

namespace SensorHost.Ota
open SensorHost.Lib

/-- `AT+OTA=BEGIN` and a line end. -/
def beginCommand : Bytes := asciiBytes "AT+OTA=BEGIN\r\n".toList

/-- An encoded frame is no handshake command. -/
lemma encoded_ne_beginCommand {crc32 : Bytes → UInt32} {frame : UploadFrame} {encoded : Bytes}
    (henc : encodeFrame crc32 frame = .ok encoded) : encoded ≠ beginCommand := by
  rintro rfl
  have hdec := decodeFrame_encodeFrame henc
  have hshort : beginCommand.length < frameHeaderSize + frameCrcSize := by decide
  rw [decodeFrame, if_pos hshort] at hdec
  cases hdec

/-- The phases reported to the progress callback. -/
inductive Phase where
  | handshake
  | begin
  | data
  | commit
  | staged
  deriving DecidableEq

/-- What the uploader does to its transport and its callbacks. -/
inductive UploadOp where
  | send (data : Bytes)
  | readline (timeout : ℚ)
  | cancelRequested
  | notify (sentBytes totalBytes : Nat) (phase : Phase)

/-- The responses: `send` returns or raises, `readline` gives a line or times out. -/
@[reducible] def UploadRes : UploadOp → Type
  | .send _ => Bool
  | .readline _ => Option Bytes
  | .cancelRequested => Bool
  | .notify .. => Unit

/-- What `upload` raises. -/
inductive UploadError where
  | package (error : OtaPackageError)
  | upload (message : Text) (code : Option Text)
  | cancelled
  | codec (error : OtaCodecError)
  | value
  | transport
  deriving DecidableEq

/-- The programs of the uploader. -/
abbrev Upload := Fallible UploadOp UploadRes UploadError

/-- One operation. -/
def perform (o : UploadOp) : Upload (UploadRes o) :=
  liftM (Program.perform o : Program UploadOp UploadRes (UploadRes o))

/-- Raise `OtaUploadError(message)`. -/
def uploadError (message : String) : UploadError := .upload message.toList none

/-- An error whose text shows these integers: where one has too many digits, `str` raises
`ValueError` before the error is there. -/
def showing (numbers : List Int) (error : UploadError) : UploadError :=
  if ∀ n ∈ numbers, Printable n then error else .value

/-- What shows integers is the error itself or a `ValueError`. -/
lemma showing_ne {numbers : List Int} {error e : UploadError} (h : error ≠ e)
    (hvalue : UploadError.value ≠ e) : showing numbers error ≠ e := by
  unfold showing
  split
  · exact h
  · exact hvalue

/-- Raise the error if the condition holds. -/
def refuseIf (bad : Prop) [Decidable bad] (error : UploadError) : Upload Unit :=
  if bad then throw error else pure ()

/-- `transport.send(data)`. -/
def send (data : Bytes) : Upload Unit := do
  let sent ← perform (.send data)
  refuseIf (sent = false) .transport

/-- `transport.readline(timeout)`. -/
def readline (timeout : ℚ) : Upload (Option Bytes) :=
  perform (.readline timeout)

/-- `_notify`. -/
def notify (sentBytes totalBytes : Nat) (phase : Phase) : Upload Unit :=
  perform (.notify sentBytes totalBytes phase)

/-- What a successful upload returns. -/
structure StagedSummary where
  stagedVersion : Option Text
  stagedCrc : Option Int
  appVersion : Nat
  appVersionText : Text
  imageCrc32 : Nat
  imageCrcText : Text
  imageSize : Nat
  packageId : Bytes
  deriving DecidableEq

/-- The default timeout of an acknowledgement is positive. -/
lemma defaultAckTimeout_pos : (0 : ℚ) < 2 := by norm_num

/-- The default timeout of the commit is positive. -/
lemma defaultCommitTimeout_pos : (0 : ℚ) < 30 := by norm_num

/-- `OtaUploader`; the constructor refuses timeouts that are not positive. -/
structure OtaUploader where
  maxRetries : Nat := 5
  ackTimeout : ℚ := 2
  commitTimeout : ℚ := 30
  ackTimeout_pos : 0 < ackTimeout := by exact defaultAckTimeout_pos
  commitTimeout_pos : 0 < commitTimeout := by exact defaultCommitTimeout_pos

variable (crc32 : Bytes → UInt32)

/-- `cancel`: send one CANCEL frame and ignore every failure to do so. -/
def cancel (sequence offset : Int) : Upload Unit :=
  match encodeFrame crc32 { frameType := .cancel, sequence, offset, payload := [] } with
  | .error _ => pure ()
  | .ok encoded => do
    let _ ← perform (.send encoded)
    pure ()

/-- `_check_cancelled`. -/
def checkCancelled (sequence offset : Int) : Upload Unit := do
  let requested ← perform .cancelRequested
  if requested then do
    cancel crc32 sequence offset
    throw .cancelled
  else pure ()

/-- `parse_ready` as `_handshake` calls it: every error passes through. -/
def readyFields (line : Bytes) : Upload (Int × Int) :=
  match parseReady line with
  | .ok fields => pure fields
  | .error (.codec error) => throw (.codec error)
  | .error .value => throw .value

/-- What `_handshake` raises for a first line that is no READY line. -/
def notReady (line : Bytes) : UploadError :=
  let text := strip (decodeAsciiReplace line)
  if startsWith text "ERROR:SOURCE".toList then
    .upload "OTA is only allowed from a UART-source link (Wi-Fi gateway)".toList
      (some "SOURCE".toList)
  else .upload ("device did not enter OTA mode: ".toList ++ reprText text) none

namespace OtaUploader

variable (u : OtaUploader)

/-- `_handshake`. -/
def handshake : Upload (Int × Int) := do
  checkCancelled crc32 0 0
  send beginCommand
  match ← readline u.ackTimeout with
  | none => throw (uploadError "device did not answer AT+OTA=BEGIN")
  | some readyLine => do
    refuseIf (¬ asciiBytes "+OTA:READY,".toList <+: stripBytes readyLine) (notReady readyLine)
    let fields ← readyFields readyLine
    let okLine ← readline u.ackTimeout
    refuseIf (okLine.map stripBytes ≠ some (asciiBytes "OK".toList))
      (uploadError "device READY handshake did not complete")
    pure fields

/-- What `_exchange` raises for a reply that neither acknowledges nor asks for a retry. -/
def rejected (frame : UploadFrame) (response : DeviceResponse) : UploadError :=
  showing [response.sequence, response.nextOffset]
    (.upload ("device rejected ".toList ++ frame.frameType.name ++ ": ".toList ++
      response.code.getD "None".toList ++ " seq=".toList ++ renderInt response.sequence ++
      " next=".toList ++ renderInt response.nextOffset) response.code)

/-- The attempts of `_exchange` that are left. -/
def attempts (encoded : Bytes) (frame : UploadFrame) (timeout : ℚ) : Nat → Upload DeviceResponse
  | 0 => throw (.upload ("timeout waiting for ".toList ++ frame.frameType.name ++
      " acknowledgement".toList) (some "TIMEOUT".toList))
  | left + 1 => do
    checkCancelled crc32 frame.sequence frame.offset
    send encoded
    match ← readline timeout with
    | none => attempts encoded frame timeout left
    | some line =>
      match parseResponse line with
      | .error (.codec error) => throw (.upload error.message none)
      | .error .value => throw .value
      | .ok response =>
        if response.acknowledged then pure response
        else if response.code = some "OFFSET".toList ∧ response.nextOffset = frame.offset then
          attempts encoded frame timeout left
        else throw (rejected frame response)

/-- `_exchange`. -/
def exchange (frame : UploadFrame) (timeout : ℚ) : Upload DeviceResponse :=
  match encodeFrame crc32 frame with
  | .error error => throw (.codec error)
  | .ok encoded => attempts crc32 encoded frame timeout (u.maxRetries + 1)

/-- The DATA frame at an offset of the image. -/
def dataFrame (image : Bytes) (payloadLimit sequence offset : Nat) : UploadFrame :=
  { frameType := .data, sequence, offset, payload := (image.drop offset).take payloadLimit }

/-- What the DATA loop raises for an offset that it does not expect. -/
def unexpectedOffset (nextOffset : Int) : UploadError :=
  showing [nextOffset]
    (.upload ("device acknowledged unexpected offset ".toList ++ renderInt nextOffset) none)

/-- The `while offset < image_size` loop of `upload`: the sequence and the offset after it. -/
def dataLoop (image : Bytes) (payloadLimit : Nat) : Nat → Nat → Nat → Upload (Nat × Nat)
  | 0, sequence, offset => pure (sequence, offset)
  | fuel + 1, sequence, offset =>
    if offset < image.length then do
      checkCancelled crc32 sequence offset
      let frame := dataFrame image payloadLimit sequence offset
      let response ← u.exchange crc32 frame u.ackTimeout
      -- past this check the next offset is the device's own
      let next := offset + frame.payload.length
      refuseIf (response.nextOffset ≠ next) (unexpectedOffset response.nextOffset)
      notify next image.length .data
      dataLoop image payloadLimit fuel ((sequence + 1) % 2 ^ 32) next
    else pure (sequence, offset)

/-- The BEGIN frame of a package. -/
def beginFrame (package : Bytes) : UploadFrame :=
  { frameType := .begin
    sequence := 0
    offset := 0
    payload := (package.take manifestBlockSize).take beginPayloadSize }

/-- The COMMIT frame. -/
def commitFrame (sequence offset : Nat) : UploadFrame :=
  { frameType := .commit, sequence, offset, payload := [] }

/-- The DATA payload size for an advertised chunk size; 0 advertises nothing. -/
def payloadLimit (chunk : Int) : Int :=
  if chunk = 0 then frameMaxPayload else min (frameMaxPayload : Int) chunk

/-- What `upload` raises for an image that is larger than the device allows. -/
def imageTooLarge (imageSize : Nat) (maxImage : Int) : UploadError :=
  showing [maxImage] (.upload ("image size ".toList ++ renderNat imageSize ++
    " exceeds device maximum ".toList ++ renderInt maxImage) none)

/-- `validate_package` as `upload` calls it. -/
def checkPackage (package : Bytes) : Upload Manifest :=
  match validatePackage crc32 package with
  | .ok manifest => pure manifest
  | .error error => throw (.package error)

/-- `upload`. -/
def upload (package : Bytes) (expectedTargetId : Bytes := targetId) : Upload StagedSummary := do
  let manifest ← checkPackage crc32 package
  refuseIf (manifest.targetId ≠ expectedTargetId)
    (.upload "OTA package target does not match the device".toList (some "TARGET".toList))
  let image := package.drop manifestBlockSize
  notify 0 image.length .handshake
  let (maxImage, chunk) ← u.handshake crc32
  refuseIf ((image.length : Int) > maxImage) (imageTooLarge image.length maxImage)
  refuseIf (payloadLimit chunk ≤ 0) (uploadError "device advertised an invalid chunk size")
  notify 0 image.length .begin
  let response ← u.exchange crc32 (beginFrame package) u.ackTimeout
  refuseIf (response.nextOffset ≠ 0)
    (uploadError "device acknowledged a non-zero BEGIN offset")
  notify 0 image.length .data
  let (sequence, offset) ←
    u.dataLoop crc32 image (payloadLimit chunk).toNat image.length 1 0
  notify image.length image.length .commit
  checkCancelled crc32 sequence offset
  let response ← u.exchange crc32 (commitFrame sequence offset) u.commitTimeout
  refuseIf (response.staged = false)
    (.upload "device did not stage the image after COMMIT".toList response.code)
  -- the OK line behind STAGED, or nothing
  let _ ← readline u.ackTimeout
  notify image.length image.length .staged
  pure {
    stagedVersion := response.version
    stagedCrc := response.crc
    appVersion := manifest.appVersion
    appVersionText := formatVersion manifest.appVersion
    imageCrc32 := manifest.imageCrc32
    imageCrcText := formatCrc manifest.imageCrc32
    imageSize := image.length
    packageId := manifest.packageId }

/-- A data frame has something in it, no more than the limit and no more than is left. -/
lemma dataFrame_length {image : Bytes} {limit offset : Nat} (sequence : Nat) (hlimit : 0 < limit)
    (h : offset < image.length) :
    let size := (dataFrame image limit sequence offset).payload.length
    0 < size ∧ size ≤ limit ∧ offset + size ≤ image.length := by
  simp only [dataFrame, List.length_take, List.length_drop]
  omega

/-- The payload of a data frame is a piece of the image. -/
lemma dataFrame_slice (image : Bytes) (limit sequence offset : Nat) :
    let frame := dataFrame image limit sequence offset
    frame.payload = (image.drop offset).take frame.payload.length := by
  simp [dataFrame, List.take_eq_take_iff]

/-- Any two bounds past the bytes left give the same loop: the bound never ends it. -/
lemma dataLoop_fuel {image : Bytes} {limit : Nat} (hlimit : 0 < limit) {fuel fuel' : Nat}
    {sequence offset : Nat} (h : image.length ≤ offset + fuel) (h' : image.length ≤ offset + fuel') :
    u.dataLoop crc32 image limit fuel sequence offset =
      u.dataLoop crc32 image limit fuel' sequence offset := by
  induction fuel generalizing fuel' sequence offset with
  | zero =>
    have hdone : ¬ offset < image.length := by omega
    cases fuel' with
    | zero => rfl
    | succ fuel' => rw [dataLoop, dataLoop, if_neg hdone]
  | succ fuel ih =>
    by_cases hlt : offset < image.length
    · obtain ⟨hpos, -, -⟩ := dataFrame_length sequence hlimit hlt
      cases fuel' with
      | zero => omega
      | succ fuel' =>
        rw [dataLoop, dataLoop, if_pos hlt, if_pos hlt]
        dsimp only
        rw [@ih fuel' _ _ (by omega) (by omega)]
    · cases fuel' with
      | zero => rw [dataLoop, dataLoop, if_neg hlt]
      | succ fuel' => rw [dataLoop, dataLoop, if_neg hlt, if_neg hlt]

end OtaUploader

end SensorHost.Ota
