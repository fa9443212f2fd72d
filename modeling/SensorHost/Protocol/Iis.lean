import SensorHost.Lib.Bytes

/-!
# IIS timestamps

Model of `IisTimestampReconstructor`: FIFO words of seven bytes, extension of the 32-bit sensor
ticks, and the vectorised reconstruction of sample times. Times are exact rationals where the
source uses floats.

The functions of numpy that the reconstruction uses are defined on lists under their own names
(`flatnonzero`, `searchsortedLeft`, `bincount`, `cumsum`). The state carried between payloads is the
last tick, the epoch and the carried time (`IisTimestampReconstructor`). What the arrays compute is
shown in `Protocol.Walker` to be the walk of the historical loop.
-/

namespace SensorHost.Protocol
open SensorHost.Lib

/-- The length of a FIFO word: a tag byte and six payload bytes. -/
@[simp] def iisWordSize : Nat := 7

/-- Microseconds in a sensor timestamp tick. -/
def iisTimestampTickUs : ℚ := 25

/-- Microseconds between two samples. -/
def iisSamplePeriodUs : ℚ := 75 / 2

/-- Three components of one quantity. -/
abbrev Vec3 (α : Type) := α × α × α

/-- The signed 16-bit little-endian field at `offset`. -/
def leInt16 (bs : Bytes) (offset : Nat) : Int :=
  if leField bs offset 2 < 0x8000 then leField bs offset 2 else (leField bs offset 2 : Int) - 0x10000

/-- A FIFO word; the acceleration and the timestamp are two views of the same payload bytes. -/
structure IisWord where
  tag : Nat
  xyz : Vec3 Int
  ts : Nat
  deriving DecidableEq, Inhabited

/-- `_IIS_WORD_DTYPE`: the layout of one word. -/
def IisWord.ofBytes (w : Bytes) : IisWord :=
  { tag := leField w 0 1
    xyz := (leInt16 w 1, leInt16 w 3, leInt16 w 5)
    ts := leField w 1 4 }

/-- The words of a payload. -/
def iisWords (payload : Bytes) : List IisWord :=
  (List.range (payload.length / iisWordSize)).map fun i =>
    IisWord.ofBytes ((payload.drop (i * iisWordSize)).take iisWordSize)

/-- The indices at which `p` holds. -/
def flatnonzero {α : Type} (p : α → Bool) (xs : List α) : List Nat :=
  (List.range xs.length).filter fun i => (xs[i]?.map p).getD false

/-- The left insertion point of `v` in an ascending array. -/
def searchsortedLeft (xs : List Nat) (v : Nat) : Nat := xs.countP (· < v)

/-- The number of occurrences of each value below `size`. -/
def bincount (xs : List Nat) (size : Nat) : List Nat := (List.range size).map fun k => xs.count k

/-- The running sums, each with its own element included. -/
def cumsum (xs : List Nat) : List Nat := (List.range xs.length).map fun k => (xs.take (k + 1)).sum

/-- The clock state carried from payload to payload. -/
structure IisTimestampReconstructor where
  lastTicks : Option Nat := none
  tickEpoch : Nat := 0
  carryUs : Option ℚ := none
  deriving DecidableEq

namespace IisTimestampReconstructor

/-- One pass of the `_extend_ticks` loop: a large backward jump is a wrap of the counter. -/
def extendTick (r : IisTimestampReconstructor) (value : Nat) : IisTimestampReconstructor × Nat :=
  let epoch :=
    match r.lastTicks with
    | some last => if value < last ∧ last - value > 0x80000000 then r.tickEpoch + 2 ^ 32
      else r.tickEpoch
    | none => r.tickEpoch
  ({ r with lastTicks := some value, tickEpoch := epoch }, epoch + value)

/-- `_extend_ticks`. -/
def extendTicks (r : IisTimestampReconstructor) :
    List Nat → IisTimestampReconstructor × List Nat
  | [] => (r, [])
  | value :: ticks =>
    let now := r.extendTick value
    let later := extendTicks now.1 ticks
    (later.1, now.2 :: later.2)

/-- `process_payload`: the times, scaled and raw accelerations of the payload's samples. -/
def processPayload (r : IisTimestampReconstructor) (payload : Bytes) (frameTimestampUs : Nat) :
    IisTimestampReconstructor × List ℚ × List (Vec3 ℚ) × List (Vec3 Int) :=
  let words := iisWords payload
  let sensorTag := words.map fun w => w.tag >>> 3
  let accelIndex := flatnonzero (· == 2) sensorTag
  let tsIndex := flatnonzero (· == 4) sensorTag
  let count := accelIndex.length
  if count = 0 then (r, [], [], [])
  else
    let raw := accelIndex.map fun i => (words.getD i default).xyz
    let (r, segment, starts) :=
      if tsIndex.length ≠ 0 then
        let (r, extended) := r.extendTicks (tsIndex.map fun i => (words.getD i default).ts)
        let sensorTimes := extended.map fun t => (t : ℚ) * iisTimestampTickUs
        let afterAnchor := accelIndex.countP (tsIndex.getLastD 0 < ·)
        let anchorMcuUs := (frameTimestampUs : ℚ) - (afterAnchor - 1 : Nat) * iisSamplePeriodUs
        let tagTimes := sensorTimes.map (· + (anchorMcuUs - sensorTimes.getLastD 0))
        let segment := accelIndex.map (searchsortedLeft tsIndex)
        let beforeFirst := accelIndex.countP (· < tsIndex.headD 0)
        let start0 := r.carryUs.getD (tagTimes.headD 0 - beforeFirst * iisSamplePeriodUs)
        (r, segment, start0 :: tagTimes)
      else
        let start0 :=
          r.carryUs.getD ((frameTimestampUs : ℚ) - (count - 1 : Nat) * iisSamplePeriodUs)
        (r, List.replicate count 0, [start0])
    let counts := bincount segment starts.length
    let segmentBegin := List.zipWith (· - ·) (cumsum counts) counts
    let within := List.zipWith (fun k s => k - segmentBegin.getD s 0) (List.range count) segment
    let times :=
      List.zipWith (fun s k => starts.getD s 0 + (k : ℚ) * iisSamplePeriodUs) segment within
    ({ r with carryUs := some (times.getLastD 0 + iisSamplePeriodUs) }, times,
      raw.map fun (x, y, z) => ((x : ℚ) * (61 / 1000000), (y : ℚ) * (61 / 1000000),
        (z : ℚ) * (61 / 1000000)), raw)

end IisTimestampReconstructor

end SensorHost.Protocol
