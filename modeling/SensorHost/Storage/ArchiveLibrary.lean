import SensorHost.Lib.Rounding
import SensorHost.Protocol.Frame

/-!
# The playback index

Model of `build_playback_index` and `PlaybackIndex` of `storage/archive_library.py`: a scan of the
frame headers of an archive file, which reads 44 bytes at every frame, counts acceleration words
and checks no CRC. Floats are rationals that are rounded after every operation.

The scan goes from header to header by the sizes in them, like the source, with the seeks and the
short reads that end it. Only IIS frames count samples, so only of them the payload is read, and its
acceleration words are counted. `indexLoop` runs with fuel, and every pass goes on by at least the
size of a header.

`offset_for_time` and `duration_s` of the index are here as well; what they lead to is shown in
`Storage.Seeking`.
-/

namespace SensorHost.Storage
open SensorHost.Lib SensorHost.Protocol

/-- `PlaybackIndex`, without its path. -/
structure PlaybackIndex where
  offsets : List Nat := []
  timestampsUs : List ℚ := []
  cumSamples : List Nat := []
  kinds : List Nat := []
  totalSamples : Nat := 0
  firstTimestampUs : ℚ := 0
  lastTimestampUs : ℚ := 0
  deriving DecidableEq

namespace PlaybackIndex

variable (R : Rounding) (ix : PlaybackIndex)

/-- `duration_s`. -/
def durationS : ℚ :=
  if ix.lastTimestampUs ≤ ix.firstTimestampUs then 0
  else R.round (R.round (ix.lastTimestampUs - ix.firstTimestampUs) / 1000000)

/-- The binary search of `np.searchsorted(.., side="right")` between two bounds. -/
def searchRight (xs : List ℚ) (key : ℚ) : Nat → Nat → Nat → Nat
  | 0, low, _ => low
  | fuel + 1, low, high =>
    if low < high then
      let mid := low + (high - low) / 2
      if xs.getD mid 0 ≤ key then searchRight xs key fuel (mid + 1) high
      else searchRight xs key fuel low mid
    else low

/-- `offset_for_time`. -/
def offsetForTime (timeS : ℚ) : Nat :=
  if ix.offsets = [] then 0
  else
    let targetUs := R.round (ix.firstTimestampUs + R.round (max 0 timeS * 1000000))
    let insertion := searchRight ix.timestampsUs targetUs ix.timestampsUs.length 0
      ix.timestampsUs.length
    ix.offsets.getD (insertion - 1) 0

end PlaybackIndex

/-- The locals of `build_playback_index` that its loop extends. -/
structure IndexScan where
  offsets : List Nat := []
  timestamps : List ℚ := []
  cumSamples : List Nat := []
  kinds : List Nat := []
  totalSamples : Nat := 0
  firstIisUs : Option ℚ := none
  lastIisUs : Option ℚ := none
  deriving DecidableEq

/-- The acceleration words of a payload: one for every seventh byte whose tag is 2. -/
def accelerationWords (payload : Bytes) : Nat :=
  (List.range ((payload.length + (iisWordSize - 1)) / iisWordSize)).countP fun i =>
    leField payload (i * iisWordSize) 1 >>> 3 == 2

/-- The kind of a message type: 1 for IIS, 2 for JY61PL, 0 for the rest. -/
def frameKind : Nat → Nat
  | 1 => 1
  | 2 => 2
  | _ => 0

namespace IndexScan

variable (R : Rounding)

/-- What a pass of the loop does for an IIS frame with this payload. -/
def countSamples (s : IndexScan) (timestampUs : Nat) (payload : Bytes) : IndexScan :=
  { s with
    totalSamples := s.totalSamples + accelerationWords payload
    firstIisUs := if s.firstIisUs.isNone then some (R.round timestampUs) else s.firstIisUs
    lastIisUs := some (R.round timestampUs) }

/-- The entry that ends a pass. -/
def append (s : IndexScan) (offset timestampUs messageType : Nat) : IndexScan :=
  { s with
    offsets := s.offsets ++ [offset]
    timestamps := s.timestamps ++ [R.round timestampUs]
    cumSamples := s.cumSamples ++ [s.totalSamples]
    kinds := s.kinds ++ [frameKind messageType] }

end IndexScan

variable (R : Rounding) (content : Bytes)

/-- The `while True` loop of `build_playback_index` on a file, from `offset` on. A pass that goes on
moves by 32 bytes at least, so fuel past the length of the file is never used up. -/
def indexLoop : Nat → Nat → IndexScan → IndexScan
  | 0, _, s => s
  | fuel + 1, offset, s =>
    let header := (content.drop offset).take Sdf1.dataHeaderSize
    if header = [] then s
    else if header.length < Sdf1.headerSize ∨ header.take 4 ≠ Sdf1.magic then s
    else
      let fields := Header.unpack header
      if fields.version = Sdf1.version ∧ header.length < Sdf1.headerSize then s
      else if fields.version ≠ Sdf1.version ∧ fields.version ≠ Sdf1.dataVersion then s
      else
        let expectedHeader :=
          if fields.version = Sdf1.dataVersion then Sdf1.dataHeaderSize else Sdf1.headerSize
        if fields.headerSize ≠ expectedHeader ∨ fields.payloadSize > Sdf1.maxPayloadSize then s
        else if fields.messageType = 1 then
          let payload := (content.drop (offset + fields.headerSize)).take fields.payloadSize
          if payload.length ≠ fields.payloadSize then s
          else
            indexLoop fuel (offset + fields.frameSize)
              ((s.countSamples R fields.timestampUs payload).append R offset fields.timestampUs
                fields.messageType)
        else
          indexLoop fuel (offset + fields.frameSize)
            (s.append R offset fields.timestampUs fields.messageType)

/-- `build_playback_index` of a file with this content. -/
def buildPlaybackIndex : PlaybackIndex :=
  let s := indexLoop R content (content.length + 1) 0 {}
  { offsets := s.offsets
    timestampsUs := s.timestamps
    cumSamples := s.cumSamples
    kinds := s.kinds
    totalSamples := s.totalSamples
    firstTimestampUs := s.firstIisUs.getD 0
    lastTimestampUs := s.lastIisUs.getD 0 }

end SensorHost.Storage
