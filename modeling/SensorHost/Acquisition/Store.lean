import SensorHost.Protocol.ControlState
import SensorHost.Protocol.Parser

/-!
# The realtime sample store

Model of `RealtimeSampleStore`: the recent IIS batches, pruned to a time window, and the latest
orientation, status, control state and parser counters. Times are exact rationals.

The operations are those through which the worker writes; what the window and the snapshots read is
in `Acquisition.Snapshot`. Pruning compares the last time of a batch with the cutoff and drops whole
batches from the front only, then trims the first one that is left. The search in a batch is the
binary search of numpy on lists.
-/

namespace SensorHost.Acquisition
open SensorHost.Lib SensorHost.Protocol

/-- `retention_s` by default, in microseconds. -/
def defaultRetentionUs : ℚ := 30000000

/-- `_SampleChunk`. -/
structure SampleChunk where
  timestampsUs : List ℚ
  accelerationG : List (Vec3 ℚ)
  deriving DecidableEq

/-- The binary search of `np.searchsorted(.., side="left")` between two bounds. -/
def searchSortedBetween (xs : List ℚ) (key : ℚ) : Nat → Nat → Nat → Nat
  | 0, low, _ => low
  | fuel + 1, low, high =>
    if low < high then
      let mid := low + (high - low) / 2
      if xs.getD mid 0 < key then searchSortedBetween xs key fuel (mid + 1) high
      else searchSortedBetween xs key fuel low mid
    else low

/-- `np.searchsorted(xs, key, side="left")`. -/
def searchSorted (xs : List ℚ) (key : ℚ) : Nat := searchSortedBetween xs key xs.length 0 xs.length

/-- Something is retained by default. -/
lemma defaultRetentionUs_pos : 0 < defaultRetentionUs := by
  unfold defaultRetentionUs
  norm_num

/-- `RealtimeSampleStore`; the constructor refuses a retention that is not positive. -/
structure RealtimeSampleStore where
  retentionUs : ℚ := defaultRetentionUs
  retentionUs_pos : 0 < retentionUs := by exact defaultRetentionUs_pos
  chunks : List SampleChunk := []
  latestOrientation : Option Jy61plSample := none
  firmwareStatus : Option StatusV1 := none
  firmwareControlState : Option FirmwareControlState := none
  parserStats : ParserStats := {}

namespace RealtimeSampleStore

/-- `clear_samples`. -/
def clearSamples (s : RealtimeSampleStore) : RealtimeSampleStore := { s with chunks := [] }

/-- `_prune_locked`, on the batches. -/
def pruneChunks (cutoffUs : ℚ) (chunks : List SampleChunk) : List SampleChunk :=
  match chunks.dropWhile fun c => c.timestampsUs.getLastD 0 < cutoffUs with
  | [] => []
  | first :: rest =>
    let firstValidIndex := searchSorted first.timestampsUs cutoffUs
    { timestampsUs := first.timestampsUs.drop firstValidIndex
      accelerationG := first.accelerationG.drop firstValidIndex } :: rest

/-- `append_iis_arrays`. -/
def appendIisArrays (s : RealtimeSampleStore) (timestampsUs : List ℚ)
    (accelerationG : List (Vec3 ℚ)) : RealtimeSampleStore :=
  if timestampsUs = [] then s
  else
    { s with
      chunks := pruneChunks (timestampsUs.getLastD 0 - s.retentionUs)
        (s.chunks ++ [{ timestampsUs, accelerationG }]) }

/-- `update_jy`, without the host's receive time. -/
def updateJy (s : RealtimeSampleStore) (sample : Jy61plSample) : RealtimeSampleStore :=
  { s with latestOrientation := some sample }

/-- `update_status`. -/
def updateStatus (s : RealtimeSampleStore) (status : StatusV1) : RealtimeSampleStore :=
  { s with firmwareStatus := some status }

/-- `update_control_state`. -/
def updateControlState (s : RealtimeSampleStore) (state : FirmwareControlState) :
    RealtimeSampleStore :=
  { s with firmwareControlState := some state }

/-- `update_parser_stats`. -/
def updateParserStats (s : RealtimeSampleStore) (stats : ParserStats) : RealtimeSampleStore :=
  { s with parserStats := stats }

end RealtimeSampleStore

end SensorHost.Acquisition
