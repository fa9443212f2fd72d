import SensorHost.Lib.Bisect
import SensorHost.Storage.Indexing

/-!
# Seeking

`offset_for_time` searches the timestamps of the index by halves (`searchRight_spec`). Where they do
not decrease, it leads to the last frame that is not later than the time, and a parser that was
reset and is fed from there emits the frames from that one on (`seek_replays_suffix`).

`offsetForTime_frames` reads the answer of the search as a place in the list of frames. A reset
parser agrees with one that has read the frames before up to what a seek resets
(`resetSession_frames`), and frames are emitted as they are, so what is fed from the offset on is
the rest of the list.
-/

namespace SensorHost.Storage
open SensorHost.Lib SensorHost.Protocol

namespace PlaybackIndex

/-- The search is a bisection. -/
lemma searchRight_eq (xs : List ℚ) (key : ℚ) (fuel low high : Nat) :
    searchRight xs key fuel low high = bisect (· ≤ key) xs 0 fuel low high := by
  induction fuel generalizing low high with
  | zero => rfl
  | succ fuel ih =>
    rw [searchRight, bisect]
    simp only [ih, decide_eq_true_eq]

/-- Everything before the insertion point is at most the key, and everything behind it is more. -/
lemma searchRight_spec {xs : List ℚ} (sorted : xs.Pairwise (· ≤ ·)) (key : ℚ) :
    Between (fun x => decide (x ≤ key)) xs (searchRight xs key xs.length 0 xs.length)
      (searchRight xs key xs.length 0 xs.length) := by
  rw [searchRight_eq]
  refine bisect_between (sorted.imp fun hle hkey => ?_) 0 (.whole _ xs) (Nat.sub_le _ _)
  rw [decide_eq_true_eq] at hkey ⊢
  exact hle.trans hkey

end PlaybackIndex

variable (R : Rounding) {crc32 : Bytes → UInt32}

/-- The starts and the times in the index of a file of valid frames. -/
lemma buildPlaybackIndex_entries (frames : List (ValidFrame crc32)) :
    (buildPlaybackIndex R (bytesOf frames)).offsets =
        (List.range frames.length).map (fun k => (bytesOf (frames.take k)).length) ∧
      (buildPlaybackIndex R (bytesOf frames)).timestampsUs =
        frames.map fun f => R.round f.header.timestampUs := by
  obtain ⟨hoffsets, htimestamps, -⟩ := noteAll_fields R (({} : Decoder).frames frames).2 0 {}
  have hraw := Decoder.frames_rawBytes {} frames
  have htimes := frames_timestampUs frames (d := {}) rfl
  have hlength : (({} : Decoder).frames frames).2.length = frames.length := by
    have hmap := congrArg List.length hraw
    rwa [List.length_map, List.length_map] at hmap
  rw [buildPlaybackIndex_noteAll]
  unfold IndexScan.index
  dsimp only
  rw [hoffsets, htimestamps, hlength]
  refine ⟨?_, ?_⟩
  · rw [List.nil_append]
    refine List.map_congr_left fun k _ => ?_
    rw [Nat.zero_add, List.map_take, hraw, ← List.map_take]
    rfl
  · have hround := congrArg (List.map fun n : Nat => R.round n) htimes
    rw [List.map_map, List.map_map] at hround
    exact hround

/-- Every frame of a file of valid frames is counted, and nothing else is. -/
lemma frames_stats (frames : List (ValidFrame crc32)) (d : Decoder) :
    (d.frames frames).1.stats = { d.stats with
      frames := d.stats.frames + frames.length
      sequenceGaps := (d.frames frames).1.stats.sequenceGaps } := by
  induction frames generalizing d with
  | nil => rfl
  | cons f frames ih =>
    obtain ⟨messageType, d', frame, -, hevent, hstats, -⟩ := f.event_eq d
    have hcons : (d.frames (f :: frames)).1 =
        ((d'.countFrame messageType f.header.sequence).frames frames).1 := by
      simp only [Decoder.frames, List.map_cons, ValidFrame.segment, Decoder.events, hevent]
    have hcount : (d'.countFrame messageType f.header.sequence).stats = { d.stats with
        frames := d.stats.frames + 1
        sequenceGaps := (d'.countFrame messageType f.header.sequence).stats.sequenceGaps } := by
      rw [← hstats]
      unfold Decoder.countFrame
      dsimp only
      split
      · rfl
      · rfl
    rw [hcons, ih, hcount, List.length_cons, Nat.add_assoc, Nat.add_comm 1]

/-- Where `offset_for_time` leads in a file of frames with nondecreasing timestamps. -/
lemma offsetForTime_frames (frames : List (ValidFrame crc32))
    (sorted : frames.Pairwise fun f g => f.header.timestampUs ≤ g.header.timestampUs) (timeS : ℚ) :
    let index := buildPlaybackIndex R (bytesOf frames)
    let target := R.round (index.firstTimestampUs + R.round (max 0 timeS * 1000000))
    ∃ before after, frames = before ++ after ∧ (frames ≠ [] → after ≠ []) ∧
      index.offsetForTime R timeS = (bytesOf before).length ∧
      (before ≠ [] → ∀ f ∈ after.head?, R.round f.header.timestampUs ≤ target) ∧
      ∀ g ∈ after.tail, target < R.round g.header.timestampUs := by
  intro index target
  obtain ⟨hoffsets, htimes⟩ : index.offsets = _ ∧ index.timestampsUs = _ :=
    buildPlaybackIndex_entries R frames
  unfold PlaybackIndex.offsetForTime
  rw [hoffsets, htimes]
  by_cases hnil : frames = []
  · subst hnil
    exact ⟨[], [], rfl, fun h => absurd rfl h, rfl, fun h => absurd rfl h, nofun⟩
  have hpos : 0 < frames.length := List.length_pos_iff.mpr hnil
  rw [if_neg (by
    rw [List.map_eq_nil_iff, List.range_eq_nil]
    exact hpos.ne')]
  set times := frames.map fun f => R.round f.header.timestampUs with htimes'
  have hlength : times.length = frames.length := List.length_map _
  have hsorted : times.Pairwise (· ≤ ·) :=
    List.pairwise_map.mpr (sorted.imp fun h => R.mono (Nat.cast_le.mpr h))
  have hbetween := PlaybackIndex.searchRight_spec hsorted target
  dsimp only
  set r := PlaybackIndex.searchRight times target times.length 0 times.length
  -- The frame with index `r - 1` is the last one that is not later, if there is one.
  have hk : r - 1 < frames.length := by
    have hr := hbetween.bound
    omega
  have hget : ∀ (i : Nat) (hi : i < times.length),
      times[i] = R.round (frames.get ⟨i, hlength ▸ hi⟩).header.timestampUs := by
    intro i hi
    rw [List.getElem_map, List.get_eq_getElem]
  refine ⟨frames.take (r - 1), frames.drop (r - 1), (List.take_append_drop _ _).symm, ?_, ?_, ?_, ?_⟩
  · intro _ hdrop
    exact absurd (List.drop_eq_nil_iff.mp hdrop) (not_le.mpr hk)
  · rw [List.getD_eq_getElem?_getD, List.getElem?_map, List.getElem?_range hk]
    rfl
  · intro hbefore f hf
    have hr : 1 < r := by
      by_contra hle
      rw [Nat.sub_eq_zero_of_le (not_lt.mp hle)] at hbefore
      exact hbefore rfl
    rw [List.head?_drop, List.getElem?_eq_getElem hk, Option.mem_some] at hf
    have hle := hbetween.below (r - 1) (hlength.symm ▸ hk)
      (Nat.sub_lt (Nat.zero_lt_of_lt hr) Nat.one_pos)
    rwa [hget, List.get_eq_getElem, hf, decide_eq_true_eq] at hle
  · intro g hg
    rw [List.tail_drop] at hg
    obtain ⟨i, hi, heq⟩ := List.getElem_of_mem hg
    rw [List.getElem_drop] at heq
    rw [List.length_drop] at hi
    have hlt : r - 1 + 1 + i < frames.length := by omega
    have hgt := hbetween.above (r - 1 + 1 + i) (hlength.symm ▸ hlt) (by omega)
    rwa [hget, List.get_eq_getElem, heq, decide_eq_false_iff_not, not_le] at hgt

/-- A parser that was reset and is fed a file of valid frames, in any chunks, emits these frames, keeps
no byte and discards none. -/
lemma resetSession_frames (frames : List (ValidFrame crc32)) (p : StreamParser)
    {chunks : List Bytes} (h : chunks.flatten = bytesOf frames) :
    let (p', emitted) := p.resetSession.feedAll crc32 chunks
    emitted.map Frame.rawBytes = frames.map ValidFrame.bytes ∧ p'.buffer = [] ∧
      p'.stats = { frames := frames.length, sequenceGaps := p'.stats.sequenceGaps } := by
  have hwaits : Waits [] := .short (by decide)
  have hfeed := p.resetSession.feed_frames (bytesOf frames) [] frames (List.append_nil _).symm
    (hwaits.look crc32)
  rw [StreamParser.feedAll_eq_of_waits crc32 hwaits, h, hfeed]
  refine ⟨Decoder.frames_rawBytes _ frames, rfl, ?_⟩
  have hstats := frames_stats frames p.resetSession.toDecoder
  rw [show p.resetSession.stats.frames = 0 from rfl, Nat.zero_add] at hstats
  exact hstats

/-- In a file of frames with nondecreasing timestamps, `offset_for_time` is the start of the last
frame that is not later than the time, or of the first frame; and a parser that was reset, and is fed
from there in any chunks, emits the frames from that one to the end and discards nothing. -/
theorem seek_replays_suffix (R : Rounding) (frames : List (ValidFrame crc32))
    (sorted : frames.Pairwise fun f g => f.header.timestampUs ≤ g.header.timestampUs) (timeS : ℚ) :
    let index := buildPlaybackIndex R (bytesOf frames)
    let target := R.round (index.firstTimestampUs + R.round (max 0 timeS * 1000000))
    let offset := index.offsetForTime R timeS
    ∃ before after, frames = before ++ after ∧ (frames ≠ [] → after ≠ []) ∧
      offset = (bytesOf before).length ∧
      (before ≠ [] → ∀ f ∈ after.head?, R.round f.header.timestampUs ≤ target) ∧
      (∀ g ∈ after.tail, target < R.round g.header.timestampUs) ∧
      ∀ (p : StreamParser) (chunks : List Bytes), chunks.flatten = (bytesOf frames).drop offset →
        let (p', emitted) := p.resetSession.feedAll crc32 chunks
        emitted.map Frame.rawBytes = after.map ValidFrame.bytes ∧ p'.buffer = [] ∧
          p'.stats =
            { frames := after.length, sequenceGaps := p'.stats.sequenceGaps } := by
  intro index target offset
  obtain ⟨before, after, happend, hne, hoffset, hle, hgt⟩ : ∃ before after,
      frames = before ++ after ∧ (frames ≠ [] → after ≠ []) ∧
      offset = (bytesOf before).length ∧
      (before ≠ [] → ∀ f ∈ after.head?, R.round f.header.timestampUs ≤ target) ∧
      ∀ g ∈ after.tail, target < R.round g.header.timestampUs :=
    offsetForTime_frames R frames sorted timeS
  refine ⟨before, after, happend, hne, hoffset, hle, hgt, fun p chunks hchunks => ?_⟩
  refine resetSession_frames after p (hchunks.trans ?_)
  rw [hoffset, happend, bytesOf, bytesOf, List.map_append, List.flatten_append, List.drop_left]
  rfl

/-- Seeking in a file of an orientation frame and an IIS frame. -/
theorem seek_replays_suffix_two :
    let frames := [ValidFrame.jy zlibCrc32 0 1 (by decide) (by decide), iisFrame 1000 (by decide)]
    let offset := (buildPlaybackIndex .exact (bytesOf frames)).offsetForTime .exact (1 / 2)
    ∃ before after, frames = before ++ after ∧ after ≠ [] ∧ offset = (bytesOf before).length ∧
      (StreamParser.feedAll zlibCrc32 {} [(bytesOf frames).drop offset]).2.map Frame.rawBytes =
        after.map ValidFrame.bytes := by
  intro frames offset
  have hsorted : frames.Pairwise fun f g => f.header.timestampUs ≤ g.header.timestampUs := by
    refine List.pairwise_pair.mpr ?_
    decide +kernel
  obtain ⟨before, after, happend, hne, hoffset, -, -, hreplay⟩ :=
    seek_replays_suffix .exact frames hsorted (1 / 2)
  refine ⟨before, after, happend, hne (List.cons_ne_nil _ _), hoffset, ?_⟩
  exact (hreplay {} [(bytesOf frames).drop offset] (List.append_nil _)).1

end SensorHost.Storage
