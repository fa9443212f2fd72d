import SensorHost.Lib.Text
import SensorHost.Protocol.Iis

/-!
# SDF1 frames

The constants, the common header and the decoded frames of the SDF1 protocol, and the payload
decoders for JY61PL samples and STATUS records.

A header is unpacked from the first 28 bytes and packed again in the same layout. `Header.fault`
gives the first rule that a header breaks, in the order in which `_validate_header` asks, which is
the order in which the errors are counted. `Frame` has every field of the decoded frame, with `none`
for what its kind does not have.
-/

namespace SensorHost.Protocol
open SensorHost.Lib

namespace Sdf1

/-- `SDF1`. -/
def magic : Bytes := [0x53, 0x44, 0x46, 0x31]

@[simp] def version : Nat := 1
@[simp] def headerSize : Nat := 28
@[simp] def dataVersion : Nat := 2
@[simp] def dataHeaderSize : Nat := 44
@[simp] def maxHeaderSize : Nat := 256
@[simp] def crcSize : Nat := 4
@[simp] def maxPayloadSize : Nat := 3577

/-- The magic has four bytes. -/
@[simp] lemma length_magic : magic.length = 4 := rfl

end Sdf1

/-- The common header, `<4sBBHHHIQHH`. -/
structure Header where
  magic : Bytes
  version : Nat
  messageType : Nat
  flags : Nat
  headerSize : Nat
  payloadSize : Nat
  sequence : Nat
  timestampUs : Nat
  itemCount : Nat
  reserved : Nat
  deriving DecidableEq

/-- `_HEADER.unpack_from` at the head of `view`. -/
def Header.unpack (view : Bytes) : Header :=
  { magic := view.take 4
    version := leField view 4 1
    messageType := leField view 5 1
    flags := leField view 6 2
    headerSize := leField view 8 2
    payloadSize := leField view 10 2
    sequence := leField view 12 4
    timestampUs := leField view 16 8
    itemCount := leField view 24 2
    reserved := leField view 26 2 }

/-- `_HEADER.pack`. -/
def Header.pack (h : Header) : Bytes :=
  h.magic ++ leBytes 1 h.version ++ leBytes 1 h.messageType ++ leBytes 2 h.flags ++
    leBytes 2 h.headerSize ++ leBytes 2 h.payloadSize ++ leBytes 4 h.sequence ++
    leBytes 8 h.timestampUs ++ leBytes 2 h.itemCount ++ leBytes 2 h.reserved

/-- The bytes of a whole candidate, CRC included. -/
def Header.frameSize (h : Header) : Nat := h.headerSize + h.payloadSize + Sdf1.crcSize

/-- Why a candidate's header is refused. -/
inductive HeaderFault where
  | headerError
  | lengthError
  deriving DecidableEq

/-- The header rules of `feed`, in the order in which it tries them. -/
def Header.fault (h : Header) : Option HeaderFault :=
  if h.headerSize < Sdf1.headerSize ∨ Sdf1.maxHeaderSize < h.headerSize then some .headerError
  else if h.version = Sdf1.version ∧ h.headerSize ≠ Sdf1.headerSize then some .headerError
  else if h.version = Sdf1.dataVersion ∧ h.headerSize ≠ Sdf1.dataHeaderSize then some .headerError
  else if Sdf1.maxPayloadSize < h.payloadSize then some .lengthError
  else none

/-- The known message types. -/
inductive MessageType where
  | iis3dwbFifo
  | jy61plSample
  | status
  | cliResponse
  deriving DecidableEq

/-- `MessageType(value)`; `none` is its `ValueError`. -/
def MessageType.ofValue : Nat → Option MessageType
  | 0x01 => some .iis3dwbFifo
  | 0x02 => some .jy61plSample
  | 0x03 => some .status
  | 0x04 => some .cliResponse
  | _ => none

/-- `int(message_type)`. -/
def MessageType.value : MessageType → Nat
  | .iis3dwbFifo => 0x01
  | .jy61plSample => 0x02
  | .status => 0x03
  | .cliResponse => 0x04

/-- The two sensor types; only they advance the sequence and may carry a V2 header. -/
def MessageType.isSensor (t : MessageType) : Bool := t == .iis3dwbFifo || t == .jy61plSample

/-- A device UUID. -/
abbrev Uuid := BitVec 128

/-- `uuid.UUID(bytes=..)`: sixteen bytes, most significant first. -/
def Uuid.ofBytes (bs : Bytes) : Uuid := BitVec.ofNat 128 (leNat bs.reverse)

/-- A decoded JY61PL sample. -/
structure Jy61plSample where
  raw : Vector Int 7
  accelerationG : Vector ℚ 3
  temperatureC : ℚ
  anglesDeg : Vector ℚ 3
  deriving DecidableEq

/-- `_decode_jy61pl`. -/
def decodeJy61pl (payload : Bytes) : Jy61plSample :=
  let raw := Vector.ofFn fun i : Fin 7 => leInt16 payload (2 * i)
  { raw := raw
    accelerationG := Vector.ofFn fun i : Fin 3 => (raw[i.val] : ℚ) * 16 / 32768
    temperatureC := (raw[3] : ℚ) / 100
    anglesDeg := Vector.ofFn fun i : Fin 3 => (raw[i.val + 4] : ℚ) * 180 / 32768 }

/-- A decoded STATUS record. -/
structure StatusV1 where
  statusVersion : Nat
  activeTransport : Nat
  pendingTransport : Nat
  acquisitionState : Nat
  watermarkWords : Nat
  freeDataBuffers : Nat
  uartCreditBytes : Nat
  dataQueuePeak : Nat
  fifoOverruns : Nat
  sourceDrops : Nat
  transportDrops : Nat
  spiDmaErrors : Nat
  uartDmaErrors : Nat
  cdcErrors : Nat
  commandErrors : Nat
  iisStackHighWaterWords : Nat
  transportStackHighWaterWords : Nat
  controlStackHighWaterWords : Nat
  jy61plStackHighWaterWords : Nat
  ledStackHighWaterWords : Nat
  uptimeUs : Nat
  deriving DecidableEq

/-- `_decode_status`, `<BBBBHH9I5H2xQ`. -/
def decodeStatus (payload : Bytes) : StatusV1 :=
  { statusVersion := leField payload 0 1
    activeTransport := leField payload 1 1
    pendingTransport := leField payload 2 1
    acquisitionState := leField payload 3 1
    watermarkWords := leField payload 4 2
    freeDataBuffers := leField payload 6 2
    uartCreditBytes := leField payload 8 4
    dataQueuePeak := leField payload 12 4
    fifoOverruns := leField payload 16 4
    sourceDrops := leField payload 20 4
    transportDrops := leField payload 24 4
    spiDmaErrors := leField payload 28 4
    uartDmaErrors := leField payload 32 4
    cdcErrors := leField payload 36 4
    commandErrors := leField payload 40 4
    iisStackHighWaterWords := leField payload 44 2
    transportStackHighWaterWords := leField payload 46 2
    controlStackHighWaterWords := leField payload 48 2
    jy61plStackHighWaterWords := leField payload 50 2
    ledStackHighWaterWords := leField payload 52 2
    uptimeUs := leField payload 56 8 }

/-- One decoded frame. -/
structure Frame where
  messageType : MessageType
  flags : Nat
  sequence : Nat
  timestampUs : Nat
  itemCount : Nat
  payload : Bytes
  rawBytes : Bytes := []
  deviceUuid : Option Uuid := none
  iisTsUs : Option (List ℚ) := none
  iisAccelG : Option (List (Vec3 ℚ)) := none
  iisRaw : Option (List (Vec3 Int)) := none
  jy61pl : Option Jy61plSample := none
  status : Option StatusV1 := none
  cliText : Option Text := none
  deriving DecidableEq

/-- The ARCHIVE_EXPORT bit of the flags. -/
def archiveFlag : Nat := 0x8000

/-- `archive_export`: whether the frame is a copy sent by an archive export. -/
def Frame.archiveExport (f : Frame) : Bool := f.flags &&& archiveFlag != 0

end SensorHost.Protocol
