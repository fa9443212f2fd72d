import SensorHost.Protocol.Frame

/-!
# The SDF1 stream parser

Model of `StreamParser`: the counters, the sequence and IIS clock state (`Decoder`), the retained
buffer, and `feed` with its cursor loop. The checksum is an arbitrary function of the bytes.

The loop carries one ghost output, `FeedLoop.consumed`: the position and the bytes of every
candidate over which the cursor jumped. `feed` does not return it.

The parser is cut into its parts: what is done with a candidate that is complete (`Decoder.accept`),
and where the cursor goes (`FeedLoop`). Errors are counted in the order of the source, and each of
them moves the cursor by one byte, while a candidate with a valid CRC moves it past its end whether
its frame is emitted or not.

The loop runs with fuel past the number of bytes left, and every pass consumes at least one;
`Protocol.Scan` shows that the fuel is never what ends it.
-/

namespace SensorHost.Protocol
open SensorHost.Lib

/-- The parser's counters. -/
structure ParserStats where
  frames : Nat := 0
  bytesDiscarded : Nat := 0
  crcErrors : Nat := 0
  headerErrors : Nat := 0
  unknownVersions : Nat := 0
  lengthErrors : Nat := 0
  unknownTypes : Nat := 0
  payloadErrors : Nat := 0
  sequenceGaps : Nat := 0
  deriving DecidableEq

/-- The parser's state apart from the retained bytes. -/
structure Decoder where
  stats : ParserStats := {}
  lastSequence : Option Nat := none
  iisTime : IisTimestampReconstructor := {}
  decodeSensorPayload : Bool := true
  deriving DecidableEq

/-- `StreamParser`. -/
structure StreamParser extends Decoder where
  buffer : Bytes := []
  deriving DecidableEq

namespace Decoder

/-- `bytes_discarded += n`. -/
def discard (d : Decoder) (n : Nat) : Decoder :=
  { d with stats.bytesDiscarded := d.stats.bytesDiscarded + n }

/-- Count a refused header. -/
def countFault (d : Decoder) : HeaderFault → Decoder
  | .headerError => { d with stats.headerErrors := d.stats.headerErrors + 1 }
  | .lengthError => { d with stats.lengthErrors := d.stats.lengthErrors + 1 }

/-- `crc_errors += 1`. -/
def countCrcError (d : Decoder) : Decoder :=
  { d with stats.crcErrors := d.stats.crcErrors + 1 }

/-- `(sequence - expected) & 0xFFFFFFFF` for the number expected after `last`. -/
def sequenceGap (last sequence : Nat) : Nat :=
  (((sequence : Int) - ((last + 1) % 2 ^ 32 : Nat)) % 2 ^ 32).toNat

/-- `_record_sequence`. -/
def recordSequence (d : Decoder) (sequence : Nat) : Decoder :=
  let gaps :=
    match d.lastSequence with
    | some last =>
      let gap := sequenceGap last sequence
      if gap < 0x80000000 then d.stats.sequenceGaps + gap else d.stats.sequenceGaps
    | none => d.stats.sequenceGaps
  { d with stats.sequenceGaps := gaps, lastSequence := some sequence }

/-- `payload_errors += 1`, with no frame. -/
def payloadError (d : Decoder) : Decoder × Option Frame :=
  ({ d with stats.payloadErrors := d.stats.payloadErrors + 1 }, none)

/-- `_decode_frame`; `common` holds the header fields and the raw bytes. -/
def decodeFrame (d : Decoder) (common : Frame) : Decoder × Option Frame :=
  match common.messageType with
  | .iis3dwbFifo =>
    if common.payload.length ≠ common.itemCount * iisWordSize then d.payloadError
    else if !d.decodeSensorPayload then (d, some common)
    else
      let (iisTime, times, accelG, raw) :=
        d.iisTime.processPayload common.payload common.timestampUs
      ({ d with iisTime := iisTime },
        some { common with iisTsUs := some times, iisAccelG := some accelG, iisRaw := some raw })
  | .jy61plSample =>
    if common.payload.length ≠ 14 ∨ common.itemCount ≠ 1 then d.payloadError
    else (d, some { common with jy61pl := some (decodeJy61pl common.payload) })
  | .status =>
    if common.payload.length ≠ 64 ∨ common.itemCount ≠ 1 then d.payloadError
    else (d, some { common with status := some (decodeStatus common.payload) })
  | .cliResponse => (d, some { common with cliText := some (decodeUtf8Replace common.payload) })

/-- The fields `feed` hands to `_decode_frame` for a candidate of known type. -/
def commonFields (messageType : MessageType) (h : Header) (candidate : Bytes) : Frame :=
  { messageType := messageType
    flags := h.flags
    sequence := h.sequence
    timestampUs := h.timestampUs
    itemCount := h.itemCount
    payload := (candidate.take (candidate.length - Sdf1.crcSize)).drop h.headerSize
    rawBytes := candidate
    deviceUuid :=
      if h.version = Sdf1.dataVersion then
        some (Uuid.ofBytes ((candidate.take Sdf1.dataHeaderSize).drop Sdf1.headerSize))
      else none }

/-- What `feed` does with a candidate whose CRC holds. -/
def accept (d : Decoder) (h : Header) (candidate : Bytes) : Decoder × Option Frame :=
  if h.version ≠ Sdf1.version ∧ h.version ≠ Sdf1.dataVersion then
    ({ d with stats.unknownVersions := d.stats.unknownVersions + 1 }, none)
  else
    match MessageType.ofValue h.messageType with
    | none => ({ d with stats.unknownTypes := d.stats.unknownTypes + 1 }, none)
    | some messageType =>
      if h.version = Sdf1.dataVersion ∧ !messageType.isSensor then
        ({ d with stats.headerErrors := d.stats.headerErrors + 1 }, none)
      else
        match d.decodeFrame (commonFields messageType h candidate) with
        | (d, none) => (d, none)
        | (d, some frame) =>
          let d := if messageType.isSensor then d.recordSequence h.sequence else d
          ({ d with stats.frames := d.stats.frames + 1 }, some frame)

end Decoder

/-- The CRC of a candidate of `size` bytes holds. -/
def crcHolds (crc32 : Bytes → UInt32) (candidate : Bytes) (size : Nat) : Bool :=
  (crc32 (candidate.take (size - Sdf1.crcSize))).toNat == leField candidate (size - Sdf1.crcSize) 4

/-- The locals of `feed`: `rest` is `view[pos:]`, so `total - pos` is its length. -/
structure FeedLoop where
  decoder : Decoder
  pos : Nat := 0
  rest : Bytes
  frames : List Frame := []
  consumed : List (Nat × Bytes) := []

namespace FeedLoop

/-- Move the cursor over `n` bytes. -/
def advance (l : FeedLoop) (n : Nat) : FeedLoop :=
  { l with pos := l.pos + n, rest := l.rest.drop n }

/-- Move the cursor over `n` bytes that belong to no frame. -/
def skip (l : FeedLoop) (n : Nat) : FeedLoop :=
  { l.advance n with decoder := l.decoder.discard n }

/-- Refuse the candidate at the cursor for its header. -/
def refuse (l : FeedLoop) (fault : HeaderFault) : FeedLoop :=
  { l with decoder := l.decoder.countFault fault }.skip 1

/-- Refuse the candidate at the cursor for its CRC. -/
def refuseCrc (l : FeedLoop) : FeedLoop :=
  { l with decoder := l.decoder.countCrcError }.skip 1

/-- Consume the candidate of `size` bytes at the cursor. -/
def consume (l : FeedLoop) (h : Header) (candidate : Bytes) : FeedLoop :=
  let (decoder, frame) := l.decoder.accept h candidate
  { l.advance candidate.length with
    decoder := decoder
    frames := l.frames ++ frame.toList
    consumed := l.consumed ++ [(l.pos, candidate)] }

end FeedLoop

variable (crc32 : Bytes → UInt32)

/-- The `while True` loop of `feed`. Every pass that goes on moves the cursor, so fuel past the
number of bytes left is never used up. -/
def feedLoop : Nat → FeedLoop → FeedLoop
  | 0, l => l
  | fuel + 1, l =>
    match find Sdf1.magic l.rest with
    | none =>
      -- no magic: keep the three bytes that may begin one
      l.skip (l.rest.length - (Sdf1.magic.length - 1))
    | some magicAt =>
      let l := l.skip magicAt
      if l.rest.length < Sdf1.headerSize then l
      else
        let header := Header.unpack l.rest
        match header.fault with
        | some fault => feedLoop fuel (l.refuse fault)
        | none =>
          if l.rest.length < header.frameSize then l
          else
            let candidate := l.rest.take header.frameSize
            if !crcHolds crc32 candidate header.frameSize then feedLoop fuel l.refuseCrc
            else feedLoop fuel (l.consume header candidate)

namespace StreamParser

/-- The loop of `feed(data)`, run on the extended buffer. -/
def feedRun (p : StreamParser) (data : Bytes) : FeedLoop :=
  feedLoop crc32 ((p.buffer ++ data).length + 1)
    { decoder := p.toDecoder, rest := p.buffer ++ data }

/-- `feed`. -/
def feed (p : StreamParser) (data : Bytes) : StreamParser × List Frame :=
  let l := p.feedRun crc32 data
  ({ toDecoder := l.decoder, buffer := l.rest }, l.frames)

/-- Feed a sequence of chunks one by one; the frames of all calls, in order. -/
def feedAll (p : StreamParser) : List Bytes → StreamParser × List Frame
  | [] => (p, [])
  | chunk :: chunks =>
    let now := p.feed crc32 chunk
    let later := now.1.feedAll chunks
    (later.1, now.2 ++ later.2)

/-- The candidates consumed over a sequence of chunks, with their offsets in the stream, and the
final cursor; `base` is the offset of the first retained byte. -/
def consumedAll (base : Nat) (p : StreamParser) : List Bytes → List (Nat × Bytes) × Nat
  | [] => ([], base)
  | chunk :: chunks =>
    let l := p.feedRun crc32 chunk
    let later := consumedAll (base + l.pos) (p.feed crc32 chunk).1 chunks
    (l.consumed.map (fun c => (base + c.1, c.2)) ++ later.1, later.2)

/-- `reset_session`. -/
def resetSession (p : StreamParser) : StreamParser :=
  { decodeSensorPayload := p.decodeSensorPayload }

end StreamParser

end SensorHost.Protocol
