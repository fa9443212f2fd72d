import SensorHost.Acquisition.Envelope
import SensorHost.Acquisition.Store
import SensorHost.Lib.Bisect
import SensorHost.Lib.Gives

/-!
# Snapshots of the sample store

Model of `snapshot` and of the window it reads. The store drops whole batches, trims the first one and
cuts again when it is read. Where the times do not decrease this is a filter of everything that was
appended (`snapshot_window`): the batches always hold what is within the retention of the latest sample
(`Retains`), and every operation is an operation on the list of their samples.

Each numpy function of the window is a list function under its name, and the errors that numpy
raises are results. The argument is one about lists: dropping a batch, trimming one and cutting at a
time are filters of the samples if these are in order (`WellFormed.filter_eq_nil`,
`pruneChunks_samples`, `foldlM_windowChunk`). `Retains.call` is the step over a call and
`Retains.run` the run. That a snapshot never raises is proved along the way (`snapshot_ok`).
-/

namespace SensorHost.Acquisition
open SensorHost.Lib SensorHost.Protocol

/-- `IisSample`. -/
structure IisSample where
  timestampUs : ℚ
  accelerationRaw : Vec3 Int
  accelerationG : Vec3 ℚ

/-- `UiSnapshot`, without the age of the orientation, which needs the host's clock. -/
structure UiSnapshot where
  timeS : List ℚ
  xG : List ℚ
  yG : List ℚ
  zG : List ℚ
  orientation : Option Jy61plSample
  firmwareStatus : Option StatusV1
  parserStats : ParserStats
  sampleRateHz : ℚ
  firmwareControlState : Option FirmwareControlState

namespace SampleChunk

/-- `timestamps_us[-1]`. -/
def lastTimestampUs (c : SampleChunk) : Except SampleError ℚ :=
  match c.timestampsUs.getLast? with
  | some timestampUs => .ok timestampUs
  | none => .error .indexOutOfBounds

/-- The chunk from the first time that is not before the cutoff. -/
def fromCutoff (c : SampleChunk) (cutoffUs : ℚ) : SampleChunk :=
  let firstValidIndex := searchSorted c.timestampsUs cutoffUs
  { timestampsUs := c.timestampsUs.drop firstValidIndex
    accelerationG := c.accelerationG.drop firstValidIndex }

end SampleChunk

/-- One pass of the loop of `_window_arrays_locked`. -/
def windowChunk (cutoffUs : ℚ) (parts : List SampleChunk) (chunk : SampleChunk) :
    Except SampleError (List SampleChunk) := do
  let lastUs ← chunk.lastTimestampUs
  if lastUs < cutoffUs then .ok parts else .ok (parts ++ [chunk.fromCutoff cutoffUs])

/-- `np.concatenate` of the timestamps and of the accelerations. -/
def concatenate (parts : List SampleChunk) : Except SampleError (List ℚ × List (Vec3 ℚ)) :=
  if parts = [] then .error .nothingToConcatenate
  else .ok ((parts.map SampleChunk.timestampsUs).flatten,
    (parts.map SampleChunk.accelerationG).flatten)

/-- `xs[indices]`. -/
def selectRows {α : Type} (xs : List α) (indices : List Nat) : Except SampleError (List α) :=
  indices.mapM fun i =>
    match xs[i]? with
    | some x => .ok x
    | none => .error .indexOutOfBounds

/-- `_estimate_sample_rate`. -/
def estimateSampleRate (timestampsUs : List ℚ) : ℚ :=
  if timestampsUs.length < 2 then 0
  else
    let durationS := (timestampsUs.getLastD 0 - timestampsUs.headD 0) / 1000000
    if durationS ≤ 0 then 0 else (timestampsUs.length - 1 : Nat) / durationS

namespace RealtimeSampleStore

/-- `append_iis`. -/
def appendIis (s : RealtimeSampleStore) (samples : List IisSample) : RealtimeSampleStore :=
  if samples.isEmpty then s
  else s.appendIisArrays (samples.map IisSample.timestampUs) (samples.map IisSample.accelerationG)

/-- `_window_arrays_locked`. -/
def windowArrays (s : RealtimeSampleStore) (windowS : ℚ) :
    Except SampleError (List ℚ × List (Vec3 ℚ)) :=
  match s.chunks.getLast? with
  | none => .ok ([], [])
  | some last => do
    let latestTimestampUs ← last.lastTimestampUs
    let cutoffUs := latestTimestampUs - windowS * 1000000
    let parts ← s.chunks.foldlM (windowChunk cutoffUs) []
    concatenate parts

/-- `snapshot`. -/
def snapshot (np : Linspace) (order : SetOrder) (s : RealtimeSampleStore) (windowS : ℚ)
    (maxPoints : Nat) : Except SampleError UiSnapshot :=
  if windowS ≤ 0 then .error .windowNotPositive
  else if maxPoints < 2 then .error .pointBudget
  else do
    let (timestampsUs, accelerationG) ← s.windowArrays windowS
    let (relativeTimeS, selectedAccelerationG, sampleRateHz) ←
      if timestampsUs = [] then .ok ([], [], 0)
      else do
        let selectedIndices ← envelopeIndices np order accelerationG maxPoints
        let selectedTimestampsUs ← selectRows timestampsUs selectedIndices
        let selectedAccelerationG ← selectRows accelerationG selectedIndices
        .ok (selectedTimestampsUs.map fun t => (t - timestampsUs.getLastD 0) / 1000000,
          selectedAccelerationG, estimateSampleRate timestampsUs)
    .ok { timeS := relativeTimeS
          xG := selectedAccelerationG.map fun a => a.1
          yG := selectedAccelerationG.map fun a => a.2.1
          zG := selectedAccelerationG.map fun a => a.2.2
          orientation := s.latestOrientation
          firmwareStatus := s.firmwareStatus
          parserStats := s.parserStats
          sampleRateHz := sampleRateHz
          firmwareControlState := s.firmwareControlState }

end RealtimeSampleStore

/-- A time and its acceleration. -/
abbrev Sample := ℚ × Vec3 ℚ

namespace SampleChunk

/-- The samples of a chunk. -/
def samples (c : SampleChunk) : List Sample := c.timestampsUs.zip c.accelerationG

/-- A chunk that `append_iis_arrays` stores: there is a sample, and each has its own row. -/
structure WellFormed (c : SampleChunk) : Prop where
  ne_nil : c.timestampsUs ≠ []
  rows : c.accelerationG.length = c.timestampsUs.length

variable {c : SampleChunk}

/-- The times of the samples are those of the chunk. -/
lemma WellFormed.fst (h : c.WellFormed) : c.samples.map Prod.fst = c.timestampsUs :=
  List.map_fst_zip h.rows.ge

/-- Their rows are those of the chunk. -/
lemma WellFormed.snd (h : c.WellFormed) : c.samples.map Prod.snd = c.accelerationG :=
  List.map_snd_zip h.rows.le

/-- A chunk has a last time. -/
lemma WellFormed.last (h : c.WellFormed) :
    c.lastTimestampUs = .ok (c.timestampsUs.getLastD 0) := by
  rw [lastTimestampUs, List.getLast?_eq_some_getLast h.ne_nil, List.getLastD_eq_getLast?,
    List.getLast?_eq_some_getLast h.ne_nil, Option.getD_some]

/-- The last sample. -/
lemma WellFormed.getLast? (h : c.WellFormed) :
    (c.samples.getLast?).map Prod.fst = some (c.timestampsUs.getLastD 0) := by
  rw [← List.getLast?_map, h.fst, List.getLastD_eq_getLast?,
    List.getLast?_eq_some_getLast h.ne_nil, Option.getD_some]

end SampleChunk

/-- The times do not decrease. -/
def Ordered (samples : List Sample) : Prop := samples.Pairwise fun q r => q.1 ≤ r.1

/-- The samples of chunks, in order. -/
def samplesOf (chunks : List SampleChunk) : List Sample :=
  (chunks.map SampleChunk.samples).flatten

/-- The samples of the first chunk come first. -/
lemma samplesOf_cons (c : SampleChunk) (chunks : List SampleChunk) :
    samplesOf (c :: chunks) = c.samples ++ samplesOf chunks := rfl

/-- Chunks have their samples one after the other. -/
lemma samplesOf_append (chunks more : List SampleChunk) :
    samplesOf (chunks ++ more) = samplesOf chunks ++ samplesOf more := by
  rw [samplesOf, List.map_append, List.flatten_append]
  rfl

/-- The search ends between the times before the key and the others. -/
lemma searchSorted_between {xs : List ℚ} (sorted : xs.Pairwise (· ≤ ·)) (key : ℚ) :
    Between (fun x => decide (x < key)) xs (searchSorted xs key) (searchSorted xs key) := by
  have heq : ∀ fuel low high, searchSortedBetween xs key fuel low high =
      bisect (· < key) xs 0 fuel low high := by
    intro fuel
    induction fuel with
    | zero => exact fun _ _ => rfl
    | succ fuel ih =>
      intro low high
      rw [searchSortedBetween, bisect]
      simp only [ih, decide_eq_true_eq]
  rw [searchSorted, heq]
  refine bisect_between (sorted.imp fun hle hkey => ?_) 0 (.whole _ xs) (Nat.sub_le _ _)
  rw [decide_eq_true_eq] at hkey ⊢
  exact hle.trans_lt hkey

namespace SampleChunk

variable {c : SampleChunk}

/-- The times of an ordered chunk rise. -/
lemma WellFormed.sorted (h : c.WellFormed) (ordered : Ordered c.samples) :
    c.timestampsUs.Pairwise (· ≤ ·) := by
  rw [← h.fst]
  exact List.pairwise_map.mpr ordered

/-- No sample of a chunk is later than its last one. -/
lemma WellFormed.le_last (h : c.WellFormed) (ordered : Ordered c.samples) {q : Sample}
    (hq : q ∈ c.samples) : q.1 ≤ c.timestampsUs.getLastD 0 := by
  have hmem : q.1 ∈ c.timestampsUs := by
    rw [← h.fst]
    exact List.mem_map_of_mem hq
  rw [List.getLastD_eq_getLast?, List.getLast?_eq_some_getLast h.ne_nil, Option.getD_some]
  exact (h.sorted ordered).rel_getLast hmem

/-- A chunk that ends before the cutoff has nothing behind it. -/
lemma WellFormed.filter_eq_nil (h : c.WellFormed) (ordered : Ordered c.samples) {cutoffUs : ℚ}
    (hlast : c.timestampsUs.getLastD 0 < cutoffUs) :
    c.samples.filter (fun q => decide (cutoffUs ≤ q.1)) = [] := by
  rw [List.filter_eq_nil_iff]
  intro q hq
  rw [decide_eq_true_eq, not_le]
  exact (h.le_last ordered hq).trans_lt hlast

/-- Cutting a chunk filters its samples. -/
lemma WellFormed.fromCutoff_samples (h : c.WellFormed) (ordered : Ordered c.samples)
    (cutoffUs : ℚ) :
    (c.fromCutoff cutoffUs).samples =
      c.samples.filter fun q => decide (cutoffUs ≤ q.1) := by
  have hbetween := searchSorted_between (h.sorted ordered) cutoffUs
  rw [← h.fst] at hbetween
  have hsamples : Between (fun q : Sample => decide (q.1 < cutoffUs)) c.samples
      (searchSorted (c.samples.map Prod.fst) cutoffUs)
      (searchSorted (c.samples.map Prod.fst) cutoffUs) := hbetween.of_map
  rw [h.fst] at hsamples
  have hdrop : (c.fromCutoff cutoffUs).samples =
      c.samples.drop (searchSorted c.timestampsUs cutoffUs) := by
    rw [samples, samples, List.zip_eq_zipWith, List.zip_eq_zipWith, List.drop_zipWith]
    rfl
  rw [hdrop, hsamples.drop_eq]
  refine List.filter_congr fun q _ => ?_
  rw [← decide_not]
  exact decide_eq_decide.mpr not_lt

/-- A chunk that reaches the cutoff has a sample behind it. -/
lemma WellFormed.fromCutoff (h : c.WellFormed) (ordered : Ordered c.samples) {cutoffUs : ℚ}
    (hlast : cutoffUs ≤ c.timestampsUs.getLastD 0) : (c.fromCutoff cutoffUs).WellFormed := by
  refine ⟨fun hnil => ?_, ?_⟩
  · have hsamples := h.fromCutoff_samples ordered cutoffUs
    rw [samples, hnil, List.zip_nil_left, eq_comm, List.filter_eq_nil_iff] at hsamples
    have hend := h.getLast?
    rw [Option.map_eq_some_iff] at hend
    obtain ⟨q, hq, heq⟩ := hend
    exact hsamples q (List.mem_of_getLast? hq) (decide_eq_true (heq ▸ hlast))
  · rw [SampleChunk.fromCutoff]
    dsimp only
    rw [List.length_drop, List.length_drop, h.rows]

end SampleChunk

/-- A chunk that ends before the cutoff goes, and the first other one is cut. -/
lemma pruneChunks_cons (cutoffUs : ℚ) (c : SampleChunk) (chunks : List SampleChunk) :
    RealtimeSampleStore.pruneChunks cutoffUs (c :: chunks) =
      if c.timestampsUs.getLastD 0 < cutoffUs then
        RealtimeSampleStore.pruneChunks cutoffUs chunks
      else c.fromCutoff cutoffUs :: chunks := by
  unfold RealtimeSampleStore.pruneChunks
  by_cases hlast : c.timestampsUs.getLastD 0 < cutoffUs
  · rw [List.dropWhile_cons, if_pos (decide_eq_true hlast), if_pos hlast]
  · rw [List.dropWhile_cons, if_neg (fun hlt => hlast (of_decide_eq_true hlt)), if_neg hlast]
    rfl

/-- Pruning ordered chunks filters their samples. -/
lemma pruneChunks_samples (cutoffUs : ℚ) {chunks : List SampleChunk}
    (hwf : ∀ c ∈ chunks, c.WellFormed) (ordered : Ordered (samplesOf chunks)) :
    samplesOf (RealtimeSampleStore.pruneChunks cutoffUs chunks) =
        (samplesOf chunks).filter (fun q => decide (cutoffUs ≤ q.1)) ∧
      ∀ c ∈ RealtimeSampleStore.pruneChunks cutoffUs chunks, c.WellFormed := by
  induction chunks with
  | nil => exact ⟨rfl, nofun⟩
  | cons c chunks ih =>
    have hc := hwf c List.mem_cons_self
    have hrest := fun c' hc' => hwf c' (List.mem_cons_of_mem c hc')
    rw [samplesOf_cons] at ordered
    obtain ⟨hnow, hlater, hcross⟩ := List.pairwise_append.mp ordered
    rw [pruneChunks_cons, samplesOf_cons, List.filter_append]
    split
    · rename_i hlast
      rw [hc.filter_eq_nil hnow hlast, List.nil_append]
      exact ih hrest hlater
    · rename_i hlast
      have hlast := not_lt.mp hlast
      have hself : (samplesOf chunks).filter (fun q => decide (cutoffUs ≤ q.1)) =
          samplesOf chunks := by
        rw [List.filter_eq_self]
        intro q hq
        have hend := hc.getLast?
        rw [Option.map_eq_some_iff] at hend
        obtain ⟨r, hr, heq⟩ := hend
        exact decide_eq_true ((hlast.trans heq.ge).trans (hcross r (List.mem_of_getLast? hr) q hq))
      rw [samplesOf_cons, hc.fromCutoff_samples hnow, hself]
      refine ⟨rfl, fun c' hc' => ?_⟩
      rcases List.mem_cons.mp hc' with rfl | hc'
      · exact hc.fromCutoff hnow hlast
      · exact hrest c' hc'

/-- The loop of `_window_arrays_locked` filters the samples. -/
lemma foldlM_windowChunk (cutoffUs : ℚ) {chunks : List SampleChunk} (parts : List SampleChunk)
    (hwf : ∀ c ∈ chunks, c.WellFormed) (ordered : Ordered (samplesOf chunks)) :
    ∃ more, chunks.foldlM (windowChunk cutoffUs) parts = .ok (parts ++ more) ∧
      samplesOf more = (samplesOf chunks).filter (fun q => decide (cutoffUs ≤ q.1)) ∧
      ∀ c ∈ more, c.WellFormed := by
  induction chunks generalizing parts with
  | nil => exact ⟨[], by rw [List.append_nil]; rfl, rfl, nofun⟩
  | cons c chunks ih =>
    have hc := hwf c List.mem_cons_self
    have hrest := fun c' hc' => hwf c' (List.mem_cons_of_mem c hc')
    rw [samplesOf_cons] at ordered
    obtain ⟨hnow, hlater, -⟩ := List.pairwise_append.mp ordered
    have hstep : windowChunk cutoffUs parts c =
        if c.timestampsUs.getLastD 0 < cutoffUs then .ok parts
        else .ok (parts ++ [c.fromCutoff cutoffUs]) := by
      rw [windowChunk, hc.last]
      rfl
    rw [List.foldlM_cons, hstep, samplesOf_cons, List.filter_append]
    split
    · rename_i hlast
      rw [hc.filter_eq_nil hnow hlast, List.nil_append]
      exact ih parts hrest hlater
    · rename_i hlast
      obtain ⟨more, hmore, hsamples, hwell⟩ :=
        ih (parts ++ [c.fromCutoff cutoffUs]) hrest hlater
      refine ⟨c.fromCutoff cutoffUs :: more, ?_, ?_, fun c' hc' => ?_⟩
      · rw [List.append_assoc] at hmore
        exact hmore
      · rw [samplesOf_cons, hc.fromCutoff_samples hnow, hsamples]
      · rcases List.mem_cons.mp hc' with rfl | hc'
        · exact hc.fromCutoff hnow (not_lt.mp hlast)
        · exact hwell c' hc'

/-- The samples within a span of the latest one. -/
def recent (spanUs : ℚ) (samples : List Sample) : List Sample :=
  match samples.getLast? with
  | none => []
  | some latest => samples.filter fun q => decide (latest.1 - spanUs ≤ q.1)

/-- What a store retains of the samples that were appended. -/
structure Retains (s : RealtimeSampleStore) (appended : List Sample) : Prop where
  wellFormed : ∀ c ∈ s.chunks, c.WellFormed
  samples : samplesOf s.chunks = recent s.retentionUs appended

/-- Recent samples are in order. -/
lemma recent_ordered {spanUs : ℚ} {samples : List Sample} (ordered : Ordered samples) :
    Ordered (recent spanUs samples) := by
  unfold recent
  split
  · exact List.Pairwise.nil
  · exact ordered.filter _

/-- The latest sample is recent. -/
lemma recent_getLast? {spanUs : ℚ} (hspan : 0 ≤ spanUs) (samples : List Sample) :
    (recent spanUs samples).getLast? = samples.getLast? := by
  unfold recent
  cases hlast : samples.getLast? with
  | none => rfl
  | some latest =>
    obtain ⟨front, rfl⟩ := List.getLast?_eq_some_iff.mp hlast
    dsimp only
    rw [List.filter_append, List.filter_cons, if_pos (decide_eq_true (sub_le_self _ hspan)),
      List.filter_nil, List.getLast?_concat]

/-- What is recent at a time is recent of what was recent before. -/
lemma filter_recent {spanUs cutoffUs : ℚ} {samples : List Sample}
    (h : ∀ latest ∈ samples.getLast?, latest.1 - spanUs ≤ cutoffUs) :
    (recent spanUs samples).filter (fun q => decide (cutoffUs ≤ q.1)) =
      samples.filter fun q => decide (cutoffUs ≤ q.1) := by
  unfold recent
  cases hlast : samples.getLast? with
  | none =>
    rw [List.getLast?_eq_none_iff.mp hlast]
  | some latest =>
    dsimp only
    rw [List.filter_filter]
    refine List.filter_congr fun q _ => ?_
    rw [← Bool.decide_and, decide_eq_decide]
    exact and_iff_left_of_imp (h latest hlast).trans

/-- The last chunk ends with the last sample. -/
lemma samplesOf_getLast? {chunks : List SampleChunk} {last : SampleChunk}
    (hwf : ∀ c ∈ chunks, c.WellFormed) (hlast : chunks.getLast? = some last) :
    ∃ latest, (samplesOf chunks).getLast? = some latest ∧
      last.lastTimestampUs = .ok latest.1 := by
  obtain ⟨front, rfl⟩ := List.getLast?_eq_some_iff.mp hlast
  have hc := hwf last (List.mem_append_right _ List.mem_cons_self)
  have hend := hc.getLast?
  rw [Option.map_eq_some_iff] at hend
  obtain ⟨latest, hlatest, heq⟩ := hend
  refine ⟨latest, ?_, hc.last.trans (congrArg _ heq.symm)⟩
  rw [samplesOf_append, show samplesOf [last] = last.samples from List.append_nil _,
    List.getLast?_append, hlatest, Option.some_or]

namespace Retains

variable {s : RealtimeSampleStore} {appended : List Sample}

/-- An appended batch. -/
lemma append (h : Retains s appended) {timestampsUs : List ℚ} {accelerationG : List (Vec3 ℚ)}
    (rows : accelerationG.length = timestampsUs.length)
    (ordered : Ordered (appended ++ timestampsUs.zip accelerationG)) :
    Retains (s.appendIisArrays timestampsUs accelerationG)
      (appended ++ timestampsUs.zip accelerationG) := by
  unfold RealtimeSampleStore.appendIisArrays
  split
  · rename_i hnil
    rw [hnil, List.zip_nil_left, List.append_nil]
    exact h
  · rename_i hne
    set chunk : SampleChunk := { timestampsUs, accelerationG }
    have hchunk : chunk.WellFormed := ⟨hne, rows⟩
    have hend := hchunk.getLast?
    rw [Option.map_eq_some_iff] at hend
    obtain ⟨latest, hlatest, heq⟩ := hend
    have hlast : (appended ++ chunk.samples).getLast? = some latest := by
      rw [List.getLast?_append, hlatest, Option.some_or]
    obtain ⟨hold, hnew, hcross⟩ := List.pairwise_append.mp ordered
    have hwf : ∀ c ∈ s.chunks ++ [chunk], c.WellFormed := by
      intro c hc
      rcases List.mem_append.mp hc with hc | hc
      · exact h.wellFormed c hc
      · rw [List.mem_singleton.mp hc]
        exact hchunk
    have hsamples : samplesOf (s.chunks ++ [chunk]) =
        recent s.retentionUs appended ++ chunk.samples := by
      rw [samplesOf_append, h.samples, show samplesOf [chunk] = chunk.samples from List.append_nil _]
    -- the batch does not begin before the samples that are there
    have hordered : Ordered (samplesOf (s.chunks ++ [chunk])) := by
      rw [hsamples]
      refine List.pairwise_append.mpr ⟨recent_ordered hold, hnew, fun q hq r hr => ?_⟩
      refine hcross q ?_ r hr
      unfold recent at hq
      split at hq
      · cases hq
      · exact (List.mem_filter.mp hq).1
    obtain ⟨hpruned, hwell⟩ := pruneChunks_samples (latest.1 - s.retentionUs) hwf hordered
    have heq : timestampsUs.getLastD 0 = latest.1 := heq.symm
    refine ⟨?_, ?_⟩
    · dsimp only
      rw [heq]
      exact hwell
    · dsimp only
      rw [heq, hpruned, hsamples, List.filter_append, filter_recent, ← List.filter_append]
      · rw [recent]
        rw [show timestampsUs.zip accelerationG = chunk.samples from rfl, hlast]
      · intro previous hprevious
        have hle := hcross previous (List.mem_of_getLast? hprevious) latest
          (List.mem_of_getLast? hlatest)
        linarith

/-- The window is a filter of what was appended. -/
lemma windowArrays (h : Retains s appended) (ordered : Ordered appended) {windowS : ℚ}
    (hwindow : 0 < windowS) :
    s.windowArrays windowS =
      .ok ((recent (min (windowS * 1000000) s.retentionUs) appended).map Prod.fst,
        (recent (min (windowS * 1000000) s.retentionUs) appended).map Prod.snd) := by
  have hlatest := recent_getLast? s.retentionUs_pos.le appended
  unfold RealtimeSampleStore.windowArrays
  cases hchunks : s.chunks.getLast? with
  | none =>
    have hnil : s.chunks = [] := List.getLast?_eq_none_iff.mp hchunks
    rw [← h.samples, hnil] at hlatest
    have happended : appended = [] := List.getLast?_eq_none_iff.mp hlatest.symm
    rw [happended]
    rfl
  | some last =>
    obtain ⟨latest, hlast, hlastUs⟩ := samplesOf_getLast? h.wellFormed hchunks
    rw [h.samples, hlatest] at hlast
    have hordered : Ordered (samplesOf s.chunks) := h.samples ▸ recent_ordered ordered
    obtain ⟨parts, hparts, hsamples, hwell⟩ :=
      foldlM_windowChunk (latest.1 - windowS * 1000000) [] h.wellFormed hordered
    -- two filters from the same latest sample are the narrower one
    have hfilter : samplesOf parts =
        recent (min (windowS * 1000000) s.retentionUs) appended := by
      rw [hsamples, h.samples]
      unfold recent
      rw [hlast]
      dsimp only
      rw [List.filter_filter]
      refine List.filter_congr fun q _ => ?_
      rw [← Bool.decide_and, decide_eq_decide, sub_le_comm, sub_le_comm (b := s.retentionUs),
        sub_le_comm (b := min _ _), le_min_iff]
    -- the latest sample is in every window
    have hne : parts ≠ [] := by
      rintro rfl
      have hspan : 0 ≤ min (windowS * 1000000) s.retentionUs :=
        le_min (by positivity) s.retentionUs_pos.le
      have hgone := recent_getLast? hspan appended
      rw [← hfilter, hlast] at hgone
      cases hgone
    have hfst : (parts.map SampleChunk.timestampsUs).flatten = (samplesOf parts).map Prod.fst := by
      rw [samplesOf, List.map_flatten, List.map_map]
      exact congrArg List.flatten (List.map_congr_left fun c hc => (hwell c hc).fst.symm)
    have hsnd : (parts.map SampleChunk.accelerationG).flatten =
        (samplesOf parts).map Prod.snd := by
      rw [samplesOf, List.map_flatten, List.map_map]
      exact congrArg List.flatten (List.map_congr_left fun c hc => (hwell c hc).snd.symm)
    dsimp only
    rw [hlastUs, ← hfilter, ← hfst, ← hsnd]
    have hfold := hparts
    rw [List.nil_append] at hfold
    exact (congrArg (· >>= concatenate) hfold).trans (if_neg hne)

end Retains

/-- Rows at indices in range. -/
lemma selectRows_ok {α : Type} (xs : List α) {indices : List Nat}
    (h : ∀ i ∈ indices, i < xs.length) : ∃ rows, selectRows xs indices = .ok rows := by
  induction indices with
  | nil => exact ⟨[], rfl⟩
  | cons i indices ih =>
    obtain ⟨rows, hrows⟩ := ih fun j hj => h j (List.mem_cons_of_mem i hj)
    unfold selectRows at hrows ⊢
    rw [List.mapM_cons, List.getElem?_eq_getElem (h i List.mem_cons_self), hrows]
    exact ⟨_, rfl⟩

/-- A row that is selected is one of the rows. -/
lemma selectRows_mem {α : Type} {xs rows : List α} {indices : List Nat}
    (h : selectRows xs indices = .ok rows) : ∀ x ∈ rows, x ∈ xs := by
  induction indices generalizing rows with
  | nil =>
    cases h
    exact nofun
  | cons i indices ih =>
    unfold selectRows at h
    rw [List.mapM_cons] at h
    obtain ⟨row, hrow, h⟩ := bind_eq_ok.mp h
    obtain ⟨rest, hrest, h⟩ := bind_eq_ok.mp h
    cases h
    intro x hx
    rcases List.mem_cons.mp hx with rfl | hx
    · cases hget : xs[i]? with
      | none =>
        rw [hget] at hrow
        cases hrow
      | some y =>
        rw [hget] at hrow
        cases hrow
        exact List.mem_of_getElem? hget
    · exact ih hrest x hx

/-- A snapshot of a window that can be read, with times before the last one of the window. -/
lemma snapshot_ok (np : Linspace) (order : SetOrder) {s : RealtimeSampleStore} {windowS : ℚ}
    {maxPoints : Nat} (hwindow : 0 < windowS) (hpoints : 2 ≤ maxPoints) {samples : List Sample}
    (h : s.windowArrays windowS = .ok (samples.map Prod.fst, samples.map Prod.snd)) :
    ∃ shot, s.snapshot np order windowS maxPoints = .ok shot ∧
      ∀ t ∈ shot.timeS, ∃ q ∈ samples,
        t = (q.1 - (samples.map Prod.fst).getLastD 0) / 1000000 := by
  have hbind : ∀ {α β : Type} (a : α) (f : α → Except SampleError β),
      (Except.ok a >>= f) = f a := fun _ _ => rfl
  unfold RealtimeSampleStore.snapshot
  rw [if_neg (not_le.mpr hwindow), if_neg (not_lt.mpr hpoints), h]
  by_cases hnil : samples.map Prod.fst = []
  · refine ⟨_, by simp only [hbind, hnil, if_true]; rfl, fun t ht => ?_⟩
    cases ht
  · obtain ⟨indices, hindices, hrange⟩ :=
      envelopeIndices_ok np order (samples.map Prod.snd) hpoints
    rw [List.length_map] at hrange
    obtain ⟨times, htimes⟩ := selectRows_ok (samples.map Prod.fst)
      fun i hi => (hrange i hi).trans_eq (List.length_map _).symm
    obtain ⟨rows, hrows⟩ := selectRows_ok (samples.map Prod.snd)
      fun i hi => (hrange i hi).trans_eq (List.length_map _).symm
    refine ⟨_, by simp only [hbind, hnil, if_false, hindices, htimes, hrows]; rfl, fun t ht => ?_⟩
    obtain ⟨time, htime, rfl⟩ := List.mem_map.mp ht
    obtain ⟨q, hq, rfl⟩ := List.mem_map.mp (selectRows_mem htimes time htime)
    exact ⟨q, hq, rfl⟩

/-- The calls that change the samples of a store. -/
inductive StoreCall where
  | appendIis (samples : List IisSample)
  | appendIisArrays (timestampsUs : List ℚ) (accelerationG : List (Vec3 ℚ))
      (rows : accelerationG.length = timestampsUs.length)
  | clearSamples

/-- One call. -/
def RealtimeSampleStore.call (s : RealtimeSampleStore) : StoreCall → RealtimeSampleStore
  | .appendIis samples => s.appendIis samples
  | .appendIisArrays timestampsUs accelerationG _ => s.appendIisArrays timestampsUs accelerationG
  | .clearSamples => s.clearSamples

/-- The samples that were appended since the last clear. -/
def appendedSince (appended : List Sample) : StoreCall → List Sample
  | .appendIis samples =>
    appended ++ samples.map fun sample => (sample.timestampUs, sample.accelerationG)
  | .appendIisArrays timestampsUs accelerationG _ => appended ++ timestampsUs.zip accelerationG
  | .clearSamples => []

/-- One call keeps what a store retains, where the times do not decrease. -/
lemma Retains.call {s : RealtimeSampleStore} {appended : List Sample}
    (h : Ordered appended → Retains s appended) (call : StoreCall)
    (ordered : Ordered (appendedSince appended call)) :
    Retains (s.call call) (appendedSince appended call) := by
  cases call with
  | appendIis samples =>
    have hzip : (samples.map IisSample.timestampUs).zip (samples.map IisSample.accelerationG) =
        samples.map fun sample => (sample.timestampUs, sample.accelerationG) := List.zip_map' ..
    have hold : Ordered appended := (List.pairwise_append.mp ordered).1
    unfold RealtimeSampleStore.call RealtimeSampleStore.appendIis
    dsimp only
    split
    · rename_i hempty
      rw [List.isEmpty_iff.mp hempty]
      rw [appendedSince, List.map_nil, List.append_nil]
      exact h hold
    · unfold appendedSince at ordered ⊢
      dsimp only at ordered ⊢
      rw [← hzip] at ordered ⊢
      exact (h hold).append (by rw [List.length_map, List.length_map]) ordered
  | appendIisArrays timestampsUs accelerationG rows =>
    exact (h (List.pairwise_append.mp ordered).1).append rows ordered
  | clearSamples => exact ⟨nofun, rfl⟩

/-- What a call retains every sequence of calls does. -/
lemma Retains.run {s : RealtimeSampleStore} {appended : List Sample} (calls : List StoreCall)
    (h : Ordered appended → Retains s appended)
    (ordered : Ordered (calls.foldl appendedSince appended)) :
    Retains (calls.foldl RealtimeSampleStore.call s) (calls.foldl appendedSince appended) := by
  induction calls generalizing s appended with
  | nil => exact h ordered
  | cons call calls ih => exact ih (Retains.call h call) ordered

/-- No call changes the retention. -/
lemma retentionUs_run (s : RealtimeSampleStore) (calls : List StoreCall) :
    (calls.foldl RealtimeSampleStore.call s).retentionUs = s.retentionUs := by
  induction calls generalizing s with
  | nil => rfl
  | cons call calls ih =>
    refine (ih (s.call call)).trans ?_
    cases call with
    | appendIis samples =>
      simp only [RealtimeSampleStore.call, RealtimeSampleStore.appendIis,
        RealtimeSampleStore.appendIisArrays]
      split
      · rfl
      · split <;> rfl
    | appendIisArrays timestampsUs accelerationG _ =>
      simp only [RealtimeSampleStore.call, RealtimeSampleStore.appendIisArrays]
      split <;> rfl
    | clearSamples => rfl

/-- After any calls since whose last clear the times do not decrease, a window holds the samples that
were appended since then and are within the window and within the retention of the latest one, and a
snapshot of it does not fail. -/
theorem snapshot_window (np : Linspace) (order : SetOrder) (s : RealtimeSampleStore)
    (hfresh : s.chunks = []) (calls : List StoreCall)
    (ordered : Ordered (calls.foldl appendedSince [])) (windowS : ℚ) (hwindow : 0 < windowS)
    (maxPoints : Nat) (hpoints : 2 ≤ maxPoints) :
    let store := calls.foldl RealtimeSampleStore.call s
    let appended := calls.foldl appendedSince []
    let visible :=
      match appended.getLast? with
      | none => []
      | some latest => appended.filter fun q : Sample =>
          decide (latest.1 - min (windowS * 1000000) s.retentionUs ≤ q.1)
    store.windowArrays windowS = .ok (visible.map Prod.fst, visible.map Prod.snd) ∧
      ∃ shot, store.snapshot np order windowS maxPoints = .ok shot := by
  intro store appended visible
  have hretains : Retains store appended :=
    Retains.run calls (fun _ => ⟨hfresh ▸ nofun, by rw [hfresh]; rfl⟩) ordered
  have hwindows := hretains.windowArrays ordered hwindow
  rw [retentionUs_run s calls] at hwindows
  obtain ⟨shot, hshot, -⟩ := snapshot_ok np order hwindow hpoints hwindows
  exact ⟨hwindows, shot, hshot⟩

/-- Of three samples after a clear, a window of two seconds holds the last two. -/
theorem snapshot_window_three :
    let calls : List StoreCall :=
      [.appendIisArrays [5000000] [(9, 9, 9)] rfl, .clearSamples,
        .appendIisArrays [0, 1000000] [(1, 0, 0), (2, 0, 0)] rfl,
        .appendIis [⟨3000000, (3, 0, 0), (3, 0, 0)⟩]]
    let store := calls.foldl RealtimeSampleStore.call {}
    store.windowArrays 2 = .ok ([1000000, 3000000], [(2, 0, 0), (3, 0, 0)]) ∧
      ∃ shot, store.snapshot .exact .ascending 2 3 = .ok shot := by
  intro calls store
  have hordered : Ordered (calls.foldl appendedSince []) := by
    unfold Ordered
    decide
  obtain ⟨hwindow, hshot⟩ := snapshot_window .exact .ascending {} rfl calls hordered 2
    (by norm_num) 3 (by decide)
  exact ⟨hwindow.trans (by decide +kernel), hshot⟩

end SensorHost.Acquisition
