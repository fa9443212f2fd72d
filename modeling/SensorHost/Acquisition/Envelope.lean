import Mathlib.Data.Finset.Sort
import SensorHost.Protocol.Iis

/-!
# Display decimation

Model of `envelope_indices`: the weakest and the strongest sample of every bucket, of these as many
as the budget allows, and the two endpoints. What `np.linspace` returns and the order in which Python
iterates over a set are parameters. The indices are within the budget and keep the strongest sample
(`envelopeIndices_peak`).

The code is cut into the selection of one bucket and the loop over the buckets. `selectBucket_ok`
gives the indices of a bucket, each inside of it, and says that none of its samples exceeds the
strongest; `selectBuckets_ok` is the induction over the buckets, which cover all inner places
(`bucketsOf_cover`). The sample with the largest component is then in some bucket or an endpoint
(`exists_peak`).
-/

namespace SensorHost.Acquisition
open SensorHost.Protocol

/-- What the sample store and numpy raise. -/
inductive SampleError where
  | emptySequence
  | nothingToConcatenate
  | indexOutOfBounds
  | windowNotPositive
  | pointBudget
  deriving DecidableEq

/-- `np.linspace(1, sample_count - 1, count, dtype=np.int64)`, as far as the code relies on it. -/
structure Linspace where
  edges : Nat → Nat → List Nat
  sorted : ∀ sampleCount count, (edges sampleCount count).Pairwise (· ≤ ·)
  first : ∀ sampleCount count, 2 ≤ sampleCount → 2 ≤ count →
    (edges sampleCount count).head? = some 1
  last : ∀ sampleCount count, 2 ≤ sampleCount → 2 ≤ count →
    (edges sampleCount count).getLast? = some (sampleCount - 1)

/-- Equal steps, rounded down. -/
def Linspace.exact : Linspace where
  edges sampleCount count :=
    (List.range count).map fun i => 1 + i * (sampleCount - 2) / (count - 1)
  sorted sampleCount count := by
    rw [List.pairwise_map]
    refine List.pairwise_lt_range.imp fun hlt => ?_
    exact Nat.add_le_add_left (Nat.div_le_div_right (Nat.mul_le_mul_right _ hlt.le)) 1
  first sampleCount count _ hcount := by
    obtain ⟨n, rfl⟩ : ∃ n, count = n + 1 := ⟨count - 1, by omega⟩
    rw [List.range_succ_eq_map, List.map_cons, List.head?_cons, Nat.zero_mul, Nat.zero_div]
  last sampleCount count hsamples hcount := by
    obtain ⟨n, rfl⟩ : ∃ n, count = n + 1 := ⟨count - 1, by omega⟩
    rw [List.range_succ, List.map_append, List.map_singleton, List.getLast?_concat,
      Nat.add_sub_cancel, Nat.mul_div_cancel_left _ (by omega)]
    congr 1
    omega

/-- The order in which Python iterates over a set of integers. -/
structure SetOrder where
  list : Finset Nat → List Nat
  mem : ∀ s i, i ∈ list s ↔ i ∈ s

/-- Iterate in ascending order. -/
def SetOrder.ascending : SetOrder where
  list s := s.sort (· ≤ ·)
  mem _ _ := Finset.mem_sort _

/-- `np.argmin`. -/
def argmin (xs : List ℚ) : Except SampleError Nat :=
  if xs = [] then .error .emptySequence else .ok (xs.findIdx fun x => xs.all (x ≤ ·))

/-- `np.argmax`. -/
def argmax (xs : List ℚ) : Except SampleError Nat :=
  if xs = [] then .error .emptySequence else .ok (xs.findIdx fun x => xs.all (· ≤ x))

/-- The largest absolute component of an acceleration. -/
def largestComponent (a : Vec3 ℚ) : ℚ := max (max |a.1| |a.2.1|) |a.2.2|

/-- One pass of the loop over the buckets. -/
def selectBucket (magnitude : List ℚ) (selected : Finset Nat) (bucket : Nat × Nat) :
    Except SampleError (Finset Nat) :=
  let (start, stop) := bucket
  if stop ≤ start then .ok selected
  else do
    let bucketMagnitude := (magnitude.take stop).drop start
    let weakest ← argmin bucketMagnitude
    let strongest ← argmax bucketMagnitude
    .ok (insert (start + strongest) (insert (start + weakest) selected))

/-- `zip(edges[:-1], edges[1:])`. -/
def bucketsOf (edges : List Nat) : List (Nat × Nat) := edges.dropLast.zip edges.tail

/-- `envelope_indices`; the caller refuses a budget below 2. -/
def envelopeIndices (np : Linspace) (order : SetOrder) (accelerationG : List (Vec3 ℚ))
    (maxPoints : Nat) : Except SampleError (List Nat) :=
  let sampleCount := accelerationG.length
  if sampleCount ≤ maxPoints then .ok (List.range sampleCount)
  else
    let interiorBudget := maxPoints - 2
    if interiorBudget = 0 then .ok [0, sampleCount - 1]
    else do
      let bucketCount := max 1 ((interiorBudget + 1) / 2)
      let bucketEdges := np.edges sampleCount (bucketCount + 1)
      let magnitude := accelerationG.map largestComponent
      let endpointIndices : Finset Nat := {0, sampleCount - 1}
      let selectedIndices ←
        (bucketsOf bucketEdges).foldlM (selectBucket magnitude) endpointIndices
      let interiorCandidates := selectedIndices \ endpointIndices
      let strongestInterior :=
        ((order.list interiorCandidates).mergeSort fun i j =>
          magnitude.getD j 0 ≤ magnitude.getD i 0).take interiorBudget
      .ok ((endpointIndices ∪ strongestInterior.toFinset).sort (· ≤ ·))

/-- The first two edges are a bucket. -/
lemma bucketsOf_cons (a b : Nat) (edges : List Nat) :
    bucketsOf (a :: b :: edges) = (a, b) :: bucketsOf (b :: edges) := by
  unfold bucketsOf
  rw [List.dropLast_cons_cons, List.tail_cons, List.zip_cons_cons, List.tail_cons]

/-- The buckets cover what lies between the first and the last edge. -/
lemma bucketsOf_cover {edges : List Nat} {first last i : Nat} (hfirst : edges.head? = some first)
    (hlast : edges.getLast? = some last) (hle : first ≤ i) (hlt : i < last) :
    ∃ b ∈ bucketsOf edges, b.1 ≤ i ∧ i < b.2 := by
  induction edges generalizing first with
  | nil => cases hfirst
  | cons a edges ih =>
    cases hfirst
    cases edges with
    | nil =>
      have heq : a = last := Option.some.inj hlast
      omega
    | cons b edges =>
      rw [bucketsOf_cons]
      by_cases hb : i < b
      · exact ⟨(a, b), List.mem_cons_self, hle, hb⟩
      · rw [List.getLast?_cons_cons] at hlast
        obtain ⟨c, hc, hin⟩ := ih rfl hlast (not_lt.mp hb)
        exact ⟨c, List.mem_cons_of_mem _ hc, hin⟩

/-- The buckets lie between the first and the last edge. -/
lemma bucketsOf_bounds {edges : List Nat} {first last : Nat} (sorted : edges.Pairwise (· ≤ ·))
    (hfirst : edges.head? = some first) (hlast : edges.getLast? = some last) {b : Nat × Nat}
    (hb : b ∈ bucketsOf edges) : first ≤ b.1 ∧ b.2 ≤ last := by
  obtain ⟨hstart, hstop⟩ := List.of_mem_zip hb
  have hne : edges ≠ [] := by
    rintro rfl
    cases hfirst
  have hhead : edges.head hne = first := by
    rw [List.head?_eq_some_head hne] at hfirst
    exact Option.some.inj hfirst
  have hend : edges.getLast hne = last := by
    rw [List.getLast?_eq_some_getLast hne] at hlast
    exact Option.some.inj hlast
  refine ⟨?_, ?_⟩
  · rw [← hhead]
    exact sorted.rel_head (List.mem_of_mem_dropLast hstart)
  · rw [← hend]
    exact sorted.rel_getLast (List.mem_of_mem_tail hstop)

/-- Of an array that is not empty there is a least place. -/
lemma argmin_ok {xs : List ℚ} (h : xs ≠ []) : ∃ i, argmin xs = .ok i ∧ i < xs.length := by
  refine ⟨_, if_neg h, List.findIdx_lt_length_of_exists ?_⟩
  obtain ⟨x, hx, hmin⟩ := xs.toFinset.exists_min_image id ((List.toFinset_nonempty_iff xs).mpr h)
  refine ⟨x, List.mem_toFinset.mp hx, List.all_eq_true.mpr fun y hy => ?_⟩
  exact decide_eq_true (hmin y (List.mem_toFinset.mpr hy))

/-- There is a greatest one. -/
lemma argmax_ok {xs : List ℚ} (h : xs ≠ []) :
    ∃ i, argmax xs = .ok i ∧ i < xs.length ∧ ∀ x ∈ xs, x ≤ xs.getD i 0 := by
  obtain ⟨x, hx, hmax⟩ := xs.toFinset.exists_max_image id ((List.toFinset_nonempty_iff xs).mpr h)
  have hlt : (xs.findIdx fun x => xs.all (· ≤ x)) < xs.length := by
    refine List.findIdx_lt_length_of_exists ⟨x, List.mem_toFinset.mp hx, ?_⟩
    refine List.all_eq_true.mpr fun y hy => ?_
    exact decide_eq_true (hmax y (List.mem_toFinset.mpr hy))
  refine ⟨_, if_neg h, hlt, fun y hy => ?_⟩
  have hall := List.findIdx_getElem (w := hlt)
  rw [List.getD_eq_getElem?_getD, List.getElem?_eq_getElem hlt, Option.getD_some]
  exact of_decide_eq_true (List.all_eq_true.mp hall y hy)

/-- What the selection adds for a list of buckets: indices inside the buckets, and in each of them one
that no other exceeds. -/
structure Selects (magnitude : List ℚ) (buckets : List (Nat × Nat)) (s t : Finset Nat) : Prop where
  subset : s ⊆ t
  inside : ∀ i ∈ t, i ∈ s ∨ ∃ b ∈ buckets, b.1 ≤ i ∧ i < b.2
  peak : ∀ b ∈ buckets, ∀ j, b.1 ≤ j → j < b.2 →
    ∃ i ∈ t, b.1 ≤ i ∧ i < b.2 ∧ magnitude.getD j 0 ≤ magnitude.getD i 0

/-- One bucket. -/
lemma selectBucket_ok {magnitude : List ℚ} (s : Finset Nat) {bucket : Nat × Nat}
    (h : bucket.2 ≤ magnitude.length) :
    ∃ t, selectBucket magnitude s bucket = .ok t ∧ Selects magnitude [bucket] s t := by
  obtain ⟨start, stop⟩ := bucket
  dsimp only at h
  unfold selectBucket
  dsimp only
  split
  · rename_i hempty
    refine ⟨s, rfl, Finset.Subset.refl s, fun i hi => .inl hi, fun b hb j hle hlt => ?_⟩
    cases List.mem_singleton.mp hb
    dsimp only at hle hlt
    omega
  · rename_i hstop
    have hlength : ((magnitude.take stop).drop start).length = stop - start := by
      rw [List.length_drop, List.length_take, min_eq_left h]
    have hne : (magnitude.take stop).drop start ≠ [] := by
      intro hnil
      rw [hnil, List.length_nil] at hlength
      omega
    obtain ⟨weakest, hweakest, hweaklt⟩ := argmin_ok hne
    obtain ⟨strongest, hstrongest, hlt, hmax⟩ := argmax_ok hne
    rw [hlength] at hweaklt hlt
    -- the indices of the slice are those of the whole, shifted by its start
    have hget : ∀ i, start + i < stop →
        ((magnitude.take stop).drop start).getD i 0 = magnitude.getD (start + i) 0 := by
      intro i hi
      rw [List.getD_eq_getElem?_getD, List.getD_eq_getElem?_getD, List.getElem?_drop,
        List.getElem?_take_of_lt hi]
    rw [hweakest, hstrongest]
    refine ⟨_, rfl, ?_, fun i hi => ?_, fun b hb j hle hj => ?_⟩
    · exact (Finset.subset_insert _ _).trans (Finset.subset_insert _ _)
    · rcases Finset.mem_insert.mp hi with rfl | hi
      · exact .inr ⟨_, List.mem_singleton_self _, Nat.le_add_right _ _, by dsimp only; omega⟩
      · rcases Finset.mem_insert.mp hi with rfl | hi
        · exact .inr ⟨_, List.mem_singleton_self _, Nat.le_add_right _ _, by dsimp only; omega⟩
        · exact .inl hi
    · cases List.mem_singleton.mp hb
      dsimp only at hle hj
      refine ⟨start + strongest, Finset.mem_insert_self _ _, Nat.le_add_right _ _,
        by dsimp only; omega, ?_⟩
      have hmem : magnitude.getD j 0 ∈ (magnitude.take stop).drop start := by
        have hj' : start + (j - start) < stop := by omega
        have heq := hget (j - start) hj'
        rw [Nat.add_sub_cancel' hle] at heq
        rw [← heq, List.getD_eq_getElem?_getD,
          List.getElem?_eq_getElem (by rw [hlength]; omega), Option.getD_some]
        exact List.getElem_mem _
      exact (hmax _ hmem).trans (hget strongest (by omega)).le

/-- All buckets. -/
lemma selectBuckets_ok {magnitude : List ℚ} {buckets : List (Nat × Nat)}
    (h : ∀ b ∈ buckets, b.2 ≤ magnitude.length) (s : Finset Nat) :
    ∃ t, buckets.foldlM (selectBucket magnitude) s = .ok t ∧ Selects magnitude buckets s t := by
  induction buckets generalizing s with
  | nil =>
    exact ⟨s, rfl, Finset.Subset.refl s, fun i hi => .inl hi, nofun⟩
  | cons bucket buckets ih =>
    obtain ⟨t, hnow, hselects⟩ := selectBucket_ok s (h bucket List.mem_cons_self)
    obtain ⟨u, hlater, hrest⟩ := ih (fun b hb => h b (List.mem_cons_of_mem _ hb)) t
    refine ⟨u, ?_, hselects.subset.trans hrest.subset, fun i hi => ?_, fun b hb j hle hlt => ?_⟩
    · rw [List.foldlM_cons, hnow]
      exact hlater
    · rcases hrest.inside i hi with hi | ⟨b, hb, hin⟩
      · rcases hselects.inside i hi with hi | ⟨b, hb, hin⟩
        · exact .inl hi
        · cases List.mem_singleton.mp hb
          exact .inr ⟨_, List.mem_cons_self, hin⟩
      · exact .inr ⟨b, List.mem_cons_of_mem _ hb, hin⟩
    · rcases List.mem_cons.mp hb with rfl | hb
      · obtain ⟨i, hi, hin⟩ := hselects.peak b (List.mem_singleton_self b) j hle hlt
        exact ⟨i, hrest.subset hi, hin⟩
      · exact hrest.peak b hb j hle hlt

/-- The first elements of a list sorted by falling keys include one of the largest. -/
lemma exists_largest_take (keys : Nat → ℚ) {xs : List Nat} {i budget : Nat} (hi : i ∈ xs)
    (hbudget : 0 < budget) :
    ∃ j ∈ (xs.mergeSort fun i j => keys j ≤ keys i).take budget, keys i ≤ keys j := by
  have hmem : i ∈ xs.mergeSort fun i j => keys j ≤ keys i := List.mem_mergeSort.mpr hi
  have hsorted : (xs.mergeSort fun i j => keys j ≤ keys i).Pairwise
      fun i j => decide (keys j ≤ keys i) = true := by
    refine List.pairwise_mergeSort (fun a b c hab hbc => ?_) (fun a b => ?_) xs
    · rw [decide_eq_true_eq] at hab hbc ⊢
      exact hbc.trans hab
    · rw [Bool.or_eq_true, decide_eq_true_eq, decide_eq_true_eq]
      exact le_total _ _
  cases hlist : xs.mergeSort fun i j => keys j ≤ keys i with
  | nil =>
    rw [hlist] at hmem
    cases hmem
  | cons j rest =>
    rw [hlist] at hmem hsorted
    refine ⟨j, ?_, ?_⟩
    · obtain ⟨n, rfl⟩ : ∃ n, budget = n + 1 := ⟨budget - 1, by omega⟩
      rw [List.take_succ_cons]
      exact List.mem_cons_self
    · rcases List.mem_cons.mp hmem with rfl | hmem
      · exact le_refl _
      · exact of_decide_eq_true (List.rel_of_pairwise_cons hsorted hmem)

/-- The indices that are chosen where the array is longer than the budget. -/
structure Chosen (accelerationG : List (Vec3 ℚ)) (maxPoints : Nat) (chosen : Finset Nat) :
    Prop where
  first : 0 ∈ chosen
  last : accelerationG.length - 1 ∈ chosen
  inside : ∀ i ∈ chosen, i < accelerationG.length
  card : chosen.card ≤ maxPoints
  peak : 3 ≤ maxPoints → ∃ i ∈ chosen, ∀ j < accelerationG.length,
    (accelerationG.map largestComponent).getD j 0 ≤ (accelerationG.map largestComponent).getD i 0

/-- A long array is cut into buckets at the edges of `linspace`. They rise from 1 to the last place,
so each bucket selects inside itself, and the first and the last index are added. -/
lemma envelopeIndices_chosen (np : Linspace) (order : SetOrder) {accelerationG : List (Vec3 ℚ)}
    {maxPoints : Nat} (hbudget : 2 ≤ maxPoints) (hlong : maxPoints < accelerationG.length) :
    ∃ chosen, envelopeIndices np order accelerationG maxPoints =
        .ok (chosen.sort (· ≤ ·)) ∧ Chosen accelerationG maxPoints chosen := by
  have hpair : ({0, accelerationG.length - 1} : Finset Nat).card ≤ 2 := Finset.card_le_two
  have hfirst : 0 ∈ ({0, accelerationG.length - 1} : Finset Nat) := Finset.mem_insert_self _ _
  have hlast : accelerationG.length - 1 ∈ ({0, accelerationG.length - 1} : Finset Nat) :=
    Finset.mem_insert_of_mem (Finset.mem_singleton_self _)
  have hends : ∀ i ∈ ({0, accelerationG.length - 1} : Finset Nat), i < accelerationG.length := by
    intro i hi
    rcases Finset.mem_insert.mp hi with rfl | hi
    · omega
    · rw [Finset.mem_singleton.mp hi]
      omega
  unfold envelopeIndices
  dsimp only
  rw [if_neg (not_le.mpr hlong)]
  by_cases hzero : maxPoints - 2 = 0
  · -- a budget of two: the endpoints alone, and nothing is said of peaks
    rw [if_pos hzero]
    -- a budget of two is spent on the endpoints
    refine ⟨{0, accelerationG.length - 1}, ?_, hfirst, hlast, hends, hpair.trans hbudget, ?_⟩
    · have hlt : 0 < accelerationG.length - 1 := by omega
      rw [Finset.sort_insert]
      · rw [Finset.sort_singleton]
      · intro i _
        exact Nat.zero_le i
      · rw [Finset.mem_singleton]
        exact hlt.ne
    · omega
  · rw [if_neg hzero]
    set bucketCount := max 1 ((maxPoints - 2 + 1) / 2)
    have hcount : 2 ≤ bucketCount + 1 := Nat.succ_le_succ (le_max_left _ _)
    have hsamples : 2 ≤ accelerationG.length := by omega
    set magnitude := accelerationG.map largestComponent
    have hlength : magnitude.length = accelerationG.length := List.length_map _
    -- the buckets cover what is between the endpoints
    have hbounds := fun b hb => bucketsOf_bounds
      (np.sorted accelerationG.length (bucketCount + 1)) (np.first _ _ hsamples hcount)
      (np.last _ _ hsamples hcount) (b := b) hb
    obtain ⟨selected, hselected, hselects⟩ := selectBuckets_ok
      (fun b hb => (hbounds b hb).2.trans ((Nat.sub_le _ _).trans hlength.ge)) {0, accelerationG.length - 1}
    rw [hselected]
    set interior := selected \ {0, accelerationG.length - 1}
    set strongest := ((order.list interior).mergeSort fun i j =>
      magnitude.getD j 0 ≤ magnitude.getD i 0).take (maxPoints - 2)
    refine ⟨_, rfl, ?_, ?_, fun i hi => ?_, ?_, fun hthree => ?_⟩
    · exact Finset.mem_union_left _ hfirst
    · exact Finset.mem_union_left _ hlast
    · rcases Finset.mem_union.mp hi with hi | hi
      · exact hends i hi
      · have hmem : i ∈ interior := (order.mem interior i).mp
          (List.mem_mergeSort.mp (List.mem_of_mem_take (List.mem_toFinset.mp hi)))
        rcases hselects.inside i (Finset.mem_sdiff.mp hmem).1 with hi | ⟨b, hb, -, hlt⟩
        · exact hends i hi
        · have hstop := (hbounds b hb).2
          omega
    · have hstrongest : strongest.toFinset.card ≤ maxPoints - 2 :=
        (List.toFinset_card_le _).trans (List.length_take_le _ _)
      have hsum : 2 + (maxPoints - 2) = maxPoints := Nat.add_sub_cancel' hbudget
      -- the two endpoints and what the rest of the budget takes
      calc ({0, accelerationG.length - 1} ∪ strongest.toFinset).card
          ≤ ({0, accelerationG.length - 1} : Finset Nat).card + strongest.toFinset.card :=
            Finset.card_union_le _ _
        _ ≤ 2 + (maxPoints - 2) := Nat.add_le_add hpair hstrongest
        _ = maxPoints := hsum
    · -- A strongest sample is an endpoint, or its bucket has one that is as strong.
      obtain ⟨m, hm, hmax⟩ := (Finset.range accelerationG.length).exists_max_image
        (fun i => magnitude.getD i 0) ⟨0, Finset.mem_range.mpr (by omega)⟩
      rw [Finset.mem_range] at hm
      have hmax : ∀ j < accelerationG.length, magnitude.getD j 0 ≤ magnitude.getD m 0 :=
        fun j hj => hmax j (Finset.mem_range.mpr hj)
      by_cases hend : m ∈ ({0, accelerationG.length - 1} : Finset Nat)
      · exact ⟨m, Finset.mem_union_left _ hend, hmax⟩
      · have hbetween : 1 ≤ m ∧ m < accelerationG.length - 1 := by
          rw [Finset.mem_insert, Finset.mem_singleton] at hend
          omega
        obtain ⟨b, hb, hstart, hstop⟩ := bucketsOf_cover (np.first _ _ hsamples hcount)
          (np.last _ _ hsamples hcount) hbetween.1 hbetween.2
        obtain ⟨i, hi, hstarti, hstopi, hle⟩ := hselects.peak b hb m hstart hstop
        have hinterior : i ∈ interior := by
          have hin := hbounds b hb
          rw [Finset.mem_sdiff, Finset.mem_insert, Finset.mem_singleton]
          exact ⟨hi, by omega⟩
        obtain ⟨j, hj, hlargest⟩ := exists_largest_take (magnitude.getD · 0)
          ((order.mem interior i).mpr hinterior) (Nat.pos_of_ne_zero hzero)
        refine ⟨j, Finset.mem_union_right _ (List.mem_toFinset.mpr hj), fun k hk => ?_⟩
        exact (hmax k hk).trans (hle.trans hlargest)

/-- The indices are in range. -/
lemma envelopeIndices_ok (np : Linspace) (order : SetOrder) (accelerationG : List (Vec3 ℚ))
    {maxPoints : Nat} (hbudget : 2 ≤ maxPoints) :
    ∃ indices, envelopeIndices np order accelerationG maxPoints = .ok indices ∧
      ∀ i ∈ indices, i < accelerationG.length := by
  by_cases hshort : accelerationG.length ≤ maxPoints
  · exact ⟨_, if_pos hshort, fun i hi => List.mem_range.mp hi⟩
  · obtain ⟨chosen, heq, hchosen⟩ :=
      envelopeIndices_chosen np order hbudget (not_le.mp hshort)
    exact ⟨_, heq, fun i hi => hchosen.inside i ((Finset.mem_sort _).mp hi)⟩

/-- An index that no magnitude exceeds is that of a largest acceleration. -/
lemma exists_peak {accelerationG : List (Vec3 ℚ)} {i : Nat} (hi : i < accelerationG.length)
    (hmax : ∀ j < accelerationG.length, (accelerationG.map largestComponent).getD j 0 ≤
      (accelerationG.map largestComponent).getD i 0) :
    ∃ peak, accelerationG[i]? = some peak ∧
      ∀ a ∈ accelerationG, largestComponent a ≤ largestComponent peak := by
  have hget : ∀ (j : Nat) (hj : j < accelerationG.length),
      (accelerationG.map largestComponent).getD j 0 = largestComponent accelerationG[j] := by
    intro j hj
    rw [List.getD_eq_getElem?_getD, List.getElem?_map, List.getElem?_eq_getElem hj]
    rfl
  refine ⟨accelerationG[i], List.getElem?_eq_getElem hi, fun a ha => ?_⟩
  obtain ⟨j, hj, rfl⟩ := List.getElem_of_mem ha
  have hle := hmax j hj
  rwa [hget j hj, hget i hi] at hle

/-- `envelope_indices` returns increasing indices of the array, within the budget, with both endpoints,
and all of them where they are within it; from a budget of three on one of them is at an acceleration
whose largest component is not exceeded in the whole array. -/
theorem envelopeIndices_peak (np : Linspace) (order : SetOrder) (accelerationG : List (Vec3 ℚ))
    (hsamples : 1 ≤ accelerationG.length) (maxPoints : Nat) (hbudget : 2 ≤ maxPoints) :
    ∃ indices, envelopeIndices np order accelerationG maxPoints = .ok indices ∧
      indices.Pairwise (· < ·) ∧ (∀ i ∈ indices, i < accelerationG.length) ∧
      indices.length ≤ maxPoints ∧ 0 ∈ indices ∧ accelerationG.length - 1 ∈ indices ∧
      (accelerationG.length ≤ maxPoints → indices = List.range accelerationG.length) ∧
      (3 ≤ maxPoints → ∃ i ∈ indices, ∃ peak, accelerationG[i]? = some peak ∧
        ∀ a ∈ accelerationG, largestComponent a ≤ largestComponent peak) := by
  by_cases hshort : accelerationG.length ≤ maxPoints
  · refine ⟨List.range accelerationG.length, if_pos hshort, List.pairwise_lt_range,
      fun i hi => List.mem_range.mp hi, ?_, List.mem_range.mpr hsamples,
      List.mem_range.mpr (by omega), fun _ => rfl, fun _ => ?_⟩
    · rwa [List.length_range]
    · obtain ⟨m, hm, hmax⟩ := (Finset.range accelerationG.length).exists_max_image
        (fun i => (accelerationG.map largestComponent).getD i 0)
        ⟨0, Finset.mem_range.mpr hsamples⟩
      have hm : m < accelerationG.length := Finset.mem_range.mp hm
      exact ⟨m, List.mem_range.mpr hm,
        exists_peak hm fun j hj => hmax j (Finset.mem_range.mpr hj)⟩
  · obtain ⟨chosen, heq, hchosen⟩ :=
      envelopeIndices_chosen np order hbudget (not_le.mp hshort)
    refine ⟨_, heq, (Finset.sortedLT_sort chosen).pairwise, fun i hi => ?_, ?_, ?_, ?_,
      fun hle => absurd hle hshort, fun hthree => ?_⟩
    · exact hchosen.inside i ((Finset.mem_sort _).mp hi)
    · rw [Finset.length_sort]
      exact hchosen.card
    · exact (Finset.mem_sort _).mpr hchosen.first
    · exact (Finset.mem_sort _).mpr hchosen.last
    · obtain ⟨i, hi, hmax⟩ := hchosen.peak hthree
      exact ⟨i, (Finset.mem_sort _).mpr hi, exists_peak (hchosen.inside i hi) hmax⟩

/-- Four samples and three points: the strongest sample is kept. -/
theorem envelopeIndices_peak_four :
    let accelerationG : List (Vec3 ℚ) := [(1, 0, 0), (0, -3, 1), (2, 2, 2), (0, 1, 0)]
    ∃ indices, envelopeIndices .exact .ascending accelerationG 3 = .ok indices ∧
      indices.length ≤ 3 ∧ ∃ i ∈ indices, ∃ peak, accelerationG[i]? = some peak ∧
        ∀ a ∈ accelerationG, largestComponent a ≤ largestComponent peak := by
  intro accelerationG
  obtain ⟨indices, heq, -, -, hlength, -, -, -, hpeak⟩ :=
    envelopeIndices_peak .exact .ascending accelerationG (by decide) 3 (by decide)
  exact ⟨indices, heq, hlength, hpeak (by decide)⟩

end SensorHost.Acquisition
