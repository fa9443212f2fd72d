import SensorHost.Acquisition.Controller
import SensorHost.Acquisition.Snapshot
import SensorHost.Lib.Crc32
import SensorHost.Lib.Runs
import SensorHost.Protocol.Delivery
import SensorHost.Protocol.RoundTrip
import SensorHost.Protocol.Walker

/-!
# The live window

The law of the live window: what the store retains is within its retention of the latest sample, and
every snapshot shows times between the start of its window and the latest sample (`Windowed`). It holds
behind every frame of a stream whose times, as the parser reconstructs them, never go back behind the
latest sample (`live_window`). A device that restarts sends such a frame, and breaks it.

That every time of a frame has its acceleration is a property of the parser
(`StreamParser.feedAll_rowed`). With it a frame of the stream is appended whole, and
`storeFrame_sound` is the step of the invariant `Sound`, which is the law of `Acquisition.Snapshot`
for the batches with the retention beside it. `live_window_restart` is a device that starts again.
-/

namespace SensorHost.Protocol
open SensorHost.Lib

/-- Every time of the frame has its acceleration. -/
def Frame.Rowed (frame : Frame) : Prop :=
  ∀ times accel, frame.iisTsUs = some times → frame.iisAccelG = some accel →
    accel.length = times.length

/-- Every time of a payload has its acceleration. -/
lemma processPayload_rows (r : IisTimestampReconstructor) (payload : Bytes)
    (frameTimestampUs : Nat) :
    (r.processPayload payload frameTimestampUs).2.2.1.length =
      (r.processPayload payload frameTimestampUs).2.1.length := by
  by_cases h : (iisWords payload).countP IisWord.isAcceleration = 0
  · rw [r.processPayload_none frameTimestampUs h]
    rfl
  · obtain ⟨offsetUs, start, times, htimes, heq, -⟩ := r.processPayload_places frameTimestampUs h
    rw [heq, htimes, List.length_map, List.length_map, List.length_map, length_places,
      List.countP_eq_length_filter]

/-- So has every time of a frame that is decoded. -/
lemma Decoder.decodeFrame_rowed {d d' : Decoder} {common frame : Frame}
    (h : d.decodeFrame common = (d', some frame)) (hnone : common.iisTsUs = none) :
    frame.Rowed := by
  unfold decodeFrame payloadError at h
  split at h
  · split at h
    · cases h
    · split at h
      · cases h
        intro times accel htimes
        cases hnone.symm.trans htimes
      · cases h
        intro times accel htimes haccel
        cases htimes
        cases haccel
        exact processPayload_rows _ _ _
  · split at h
    · cases h
    · cases h
      intro times accel htimes
      cases hnone.symm.trans htimes
  · split at h
    · cases h
    · cases h
      intro times accel htimes
      cases hnone.symm.trans htimes
  · cases h
    intro times accel htimes
    cases hnone.symm.trans htimes

/-- Every frame the parser emits has as many accelerations as times. -/
lemma StreamParser.feedAll_rowed (crc32 : Bytes → UInt32) (p : StreamParser)
    (chunks : List Bytes) : ∀ frame ∈ (p.feedAll crc32 chunks).2, frame.Rowed :=
  p.feedAll_forall crc32 (fun hdecode => Decoder.decodeFrame_rowed hdecode rfl) chunks

end SensorHost.Protocol

namespace SensorHost.Acquisition
open SensorHost.Lib SensorHost.Protocol

namespace RealtimeSampleStore

/-- The time of the latest sample. -/
def latestUs (s : RealtimeSampleStore) : Option ℚ :=
  s.chunks.getLast?.bind fun chunk => chunk.timestampsUs.getLast?

/-- The law of the live window. -/
structure Windowed (s : RealtimeSampleStore) : Prop where
  retained : ∀ latestUs ∈ s.latestUs, ∀ chunk ∈ s.chunks, ∀ t ∈ chunk.timestampsUs,
    latestUs - s.retentionUs ≤ t ∧ t ≤ latestUs
  shown : ∀ np order windowS maxPoints, 0 < windowS → 2 ≤ maxPoints →
    ∃ shot, s.snapshot np order windowS maxPoints = .ok shot ∧
      ∀ t ∈ shot.timeS, -windowS ≤ t ∧ t ≤ 0

/-- The times of the frame do not decrease, and do not begin before the latest sample. -/
def Continues (s : RealtimeSampleStore) (frame : Frame) : Prop :=
  (s.latestUs.toList ++ frame.iisTsUs.getD []).Pairwise (· ≤ ·)

instance (s : RealtimeSampleStore) (frame : Frame) : Decidable (s.Continues frame) :=
  inferInstanceAs (Decidable (List.Pairwise _ _))

/-- The store retains what it should of samples whose times do not decrease. -/
def Sound (s : RealtimeSampleStore) : Prop := ∃ appended, Ordered appended ∧ Retains s appended

end RealtimeSampleStore

variable {s : RealtimeSampleStore} {appended : List Sample}

/-- No sample is later than the last one. -/
lemma Ordered.le_latest (ordered : Ordered appended) {latest q : Sample}
    (hlatest : appended.getLast? = some latest) (hq : q ∈ appended) : q.1 ≤ latest.1 := by
  obtain ⟨front, rfl⟩ := List.getLast?_eq_some_iff.mp hlatest
  rcases List.mem_append.mp hq with hq | hq
  · exact (List.pairwise_append.mp ordered).2.2 q hq latest (List.mem_singleton_self latest)
  · rw [List.mem_singleton.mp hq]

/-- A sample is recent if it is within the span of the latest one. -/
lemma mem_recent {spanUs : ℚ} {latest q : Sample} (hlatest : appended.getLast? = some latest) :
    q ∈ recent spanUs appended ↔ q ∈ appended ∧ latest.1 - spanUs ≤ q.1 := by
  unfold recent
  rw [hlatest]
  dsimp only
  rw [List.mem_filter, decide_eq_true_eq]

namespace Retains

/-- The latest sample of the store is the one appended last. -/
lemma latestUs (h : Retains s appended) : s.latestUs = appended.getLast?.map Prod.fst := by
  have hlatest := recent_getLast? s.retentionUs_pos.le appended
  unfold RealtimeSampleStore.latestUs
  cases hchunks : s.chunks.getLast? with
  | none =>
    have hnil : s.chunks = [] := List.getLast?_eq_none_iff.mp hchunks
    rw [← hlatest, ← h.samples, hnil]
    rfl
  | some last =>
    obtain ⟨latest, hlast, hlastUs⟩ := samplesOf_getLast? h.wellFormed hchunks
    rw [← hlatest, ← h.samples, hlast]
    unfold SampleChunk.lastTimestampUs at hlastUs
    dsimp only [Option.bind_some, Option.map_some]
    cases hend : last.timestampsUs.getLast? with
    | none =>
      rw [hend] at hlastUs
      cases hlastUs
    | some timestampUs =>
      rw [hend] at hlastUs
      cases hlastUs
      rfl

/-- A store that retains what it should obeys the law. -/
lemma windowed (h : Retains s appended) (ordered : Ordered appended) : s.Windowed where
  retained := by
    intro latestUs hlatestUs chunk hchunk t ht
    rw [h.latestUs, Option.mem_def, Option.map_eq_some_iff] at hlatestUs
    obtain ⟨latest, hlatest, rfl⟩ := hlatestUs
    rw [← (h.wellFormed chunk hchunk).fst] at ht
    obtain ⟨q, hq, rfl⟩ := List.mem_map.mp ht
    have hmem : q ∈ samplesOf s.chunks :=
      List.mem_flatten.mpr ⟨chunk.samples, List.mem_map_of_mem hchunk, hq⟩
    rw [h.samples, mem_recent hlatest] at hmem
    exact ⟨hmem.2, ordered.le_latest hlatest hmem.1⟩
  shown := by
    intro np order windowS maxPoints hwindow hpoints
    have hwindows := h.windowArrays ordered hwindow
    obtain ⟨shot, hshot, htimes⟩ := snapshot_ok np order hwindow hpoints hwindows
    refine ⟨shot, hshot, fun t ht => ?_⟩
    obtain ⟨q, hq, rfl⟩ := htimes t ht
    cases hlatest : appended.getLast? with
    | none =>
      rw [List.getLast?_eq_none_iff.mp hlatest] at hq
      cases hq
    | some latest =>
      have hspan : 0 ≤ min (windowS * 1000000) s.retentionUs :=
        le_min (by positivity) s.retentionUs_pos.le
      have hend : ((recent (min (windowS * 1000000) s.retentionUs) appended).map
          Prod.fst).getLastD 0 = latest.1 := by
        rw [List.getLastD_eq_getLast?, List.getLast?_map, recent_getLast? hspan, hlatest]
        rfl
      obtain ⟨hmem, hrecent⟩ := (mem_recent hlatest).mp hq
      have hle := ordered.le_latest hlatest hmem
      have hmin := min_le_left (windowS * 1000000) s.retentionUs
      rw [hend]
      constructor
      · rw [le_div_iff₀ (by norm_num)]
        linarith
      · exact div_nonpos_of_nonpos_of_nonneg (by linarith) (by norm_num)

end Retains

namespace RealtimeSampleStore

/-- A sound store keeps the law. -/
lemma Sound.windowed (h : s.Sound) : s.Windowed := by
  obtain ⟨appended, ordered, hretains⟩ := h
  exact hretains.windowed ordered

/-- The samples decide what is sound. -/
lemma Sound.of_samples {s' : RealtimeSampleStore} (h : s.Sound) (hchunks : s'.chunks = s.chunks)
    (hretention : s'.retentionUs = s.retentionUs) : s'.Sound := by
  obtain ⟨appended, ordered, hretains⟩ := h
  refine ⟨appended, ordered, ?_, ?_⟩
  · rw [hchunks]
    exact hretains.wellFormed
  · rw [hchunks, hretention]
    exact hretains.samples

/-- An append that continues the samples. -/
lemma Sound.append (h : s.Sound) {frame : Frame} {times : List ℚ} {accel : List (Vec3 ℚ)}
    (htimes : frame.iisTsUs = some times) (hrows : accel.length = times.length)
    (hcontinues : s.Continues frame) : (s.appendIisArrays times accel).Sound := by
  obtain ⟨appended, ordered, hretains⟩ := h
  unfold Continues at hcontinues
  rw [htimes, Option.getD_some, hretains.latestUs] at hcontinues
  obtain ⟨-, hsorted, hcross⟩ := List.pairwise_append.mp hcontinues
  have hzip : (times.zip accel).map Prod.fst = times := List.map_fst_zip hrows.ge
  have hnew : Ordered (times.zip accel) := by
    rw [← hzip] at hsorted
    exact List.pairwise_map.mp hsorted
  have hordered : Ordered (appended ++ times.zip accel) := by
    refine List.pairwise_append.mpr ⟨ordered, hnew, fun q hq r hr => ?_⟩
    cases hlatest : appended.getLast? with
    | none =>
      rw [List.getLast?_eq_none_iff.mp hlatest] at hq
      cases hq
    | some latest =>
      rw [hlatest] at hcross
      refine (ordered.le_latest hlatest hq).trans (hcross latest.1 List.mem_cons_self r.1 ?_)
      rw [← hzip]
      exact List.mem_map_of_mem hr
  exact ⟨_, hordered, hretains.append hrows hordered⟩

end RealtimeSampleStore

namespace AcquisitionController

variable {c : AcquisitionController} {frame : Frame}

/-- A reply adds no samples. -/
lemma handleCli_samples (c : AcquisitionController) (text : Text) :
    (c.handleCli text).1.store.chunks = c.store.chunks ∧
      (c.handleCli text).1.store.retentionUs = c.store.retentionUs := by
  have hseen : ∀ (d : AcquisitionController) (uuid : Uuid),
      (d.observeIdentity uuid).1.store = d.store := by
    intro d uuid
    unfold observeIdentity
    split
    · rfl
    · split
      · rfl
      · rfl
  unfold handleCli
  split
  · exact ⟨rfl, rfl⟩
  · exact ⟨rfl, rfl⟩
  · rename_i state _
    dsimp only
    split
    · exact ⟨rfl, rfl⟩
    · rename_i uuid _
      have hstore := hseen
        { c with controlState := state, store := c.store.updateControlState state } uuid
      split
      · rename_i heq
        rw [heq] at hstore
        have hchunks := congrArg RealtimeSampleStore.chunks hstore
        have hretention := congrArg RealtimeSampleStore.retentionUs hstore
        exact ⟨hchunks, hretention⟩
      · rename_i heq
        rw [heq] at hstore
        have hchunks := congrArg RealtimeSampleStore.chunks hstore
        have hretention := congrArg RealtimeSampleStore.retentionUs hstore
        exact ⟨hchunks, hretention⟩

/-- Storing a frame that continues the samples. -/
lemma storeFrame_sound (h : c.store.Sound) (hrows : frame.Rowed)
    (hcontinues : c.store.Continues frame) : (c.storeFrame frame).1.store.Sound := by
  unfold storeFrame
  split
  · split
    · rename_i times accel htimes haccel
      exact h.append htimes (hrows times accel htimes haccel) hcontinues
    · exact h
  · split
    · exact h.of_samples rfl rfl
    · exact h
  · split
    · exact h.of_samples rfl rfl
    · exact h
  · split
    · rename_i text _
      obtain ⟨hchunks, hretention⟩ := c.handleCli_samples text
      exact h.of_samples hchunks hretention
    · exact h

/-- What the live frames of a stream do to the store. -/
def storeStep (c : AcquisitionController) (frame : Frame) : AcquisitionController :=
  (c.storeFrame frame).1

end AcquisitionController

/-- Where the live frames that a parser emits go on from one another, the law of the live window holds
behind every one of them. -/
theorem live_window (crc32 : Bytes → UInt32) (p : StreamParser) (chunks : List Bytes)
    (c : AcquisitionController) (hfresh : c.store.chunks = [])
    (hcontinues : Along AcquisitionController.storeStep (fun c frame => c.store.Continues frame) c
      ((p.feedAll crc32 chunks).2.filter fun frame => !frame.archiveExport)) (n : Nat) :
    (runFrom AcquisitionController.storeStep c
      (((p.feedAll crc32 chunks).2.filter fun frame => !frame.archiveExport).take n)).store.Windowed := by
  set frames := (p.feedAll crc32 chunks).2.filter fun frame => !frame.archiveExport with hframes
  have hrows : ∀ frame ∈ frames.take n, frame.Rowed := fun frame hframe =>
    p.feedAll_rowed crc32 chunks frame (List.mem_of_mem_filter (List.mem_of_mem_take hframe))
  have hstart : c.store.Sound := ⟨[], .nil, hfresh ▸ nofun, by rw [hfresh]; rfl⟩
  have hboth : Along AcquisitionController.storeStep
      (fun c frame => c.store.Continues frame ∧ frame.Rowed) c (frames.take n) :=
    (hcontinues.take n).and (along_of_forall fun frame hframe _ => hrows frame hframe)
  have hend := hboth.invariant (I := fun c => c.store.Sound)
    (fun c frame hsound h => AcquisitionController.storeFrame_sound hsound h.2 h.1) hstart
  exact hend.windowed

/-- An IIS frame of one sample, right behind a timestamp of the sensor. -/
def iisFrame (sequence timestampUs : Nat) : Bytes :=
  encodeDataFrame zlibCrc32 0 .iis3dwbFifo [0x20, 0, 0, 0, 0, 0, 0, 0x10, 1, 0, 2, 0, 3, 0] 2
    sequence timestampUs 0

/-- Of two frames in order. -/
theorem live_window_two :
    (runFrom AcquisitionController.storeStep {}
      (((StreamParser.feedAll zlibCrc32 {} [iisFrame 0 1000, iisFrame 1 2000]).2.filter
        fun frame => !frame.archiveExport).take 2)).store.Windowed :=
  live_window zlibCrc32 {} [iisFrame 0 1000, iisFrame 1 2000] {} rfl (by decide +kernel) 2

/-- A device that restarts leaves a sample in the store that is later than the latest one. -/
theorem live_window_restart :
    ¬ (runFrom AcquisitionController.storeStep {}
      ((StreamParser.feedAll zlibCrc32 {} [iisFrame 0 1000000000, iisFrame 0 1000]).2.filter
        fun frame => !frame.archiveExport)).store.Windowed := by
  have hchunks : (runFrom AcquisitionController.storeStep {}
      ((StreamParser.feedAll zlibCrc32 {} [iisFrame 0 1000000000, iisFrame 0 1000]).2.filter
        fun frame => !frame.archiveExport)).store.chunks.map SampleChunk.timestampsUs =
      [[1000000000], [1000]] := by
    decide +kernel
  generalize AcquisitionController.store _ = s at hchunks ⊢
  obtain ⟨before, rest, hs, hbefore, hrest⟩ := List.map_eq_cons_iff.mp hchunks
  obtain ⟨behind, rest, rfl, hbehind, hnil⟩ := List.map_eq_cons_iff.mp hrest
  rw [List.map_eq_nil_iff.mp hnil] at hs
  have hlatest : (1000 : ℚ) ∈ s.latestUs := by
    unfold RealtimeSampleStore.latestUs
    rw [hs, List.getLast?_cons_cons, List.getLast?_singleton, Option.bind_some, hbehind]
    rfl
  intro windowed
  have hlate := (windowed.retained 1000 hlatest before (by rw [hs]; exact List.mem_cons_self)
    1000000000 (by rw [hbefore]; exact List.mem_cons_self)).2
  norm_num at hlate

end SensorHost.Acquisition
