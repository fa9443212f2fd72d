import SensorHost.Protocol.Iis

/-!
# The vectorised clock and the per-word walker

`process_payload` finds the time of a sample by its segment and its place in the segment, where a
segment is what lies between two timestamp tags. The historical walker goes from word to word with a
clock. Both give the same times (`processPayload_walks`): the arrays hold, for every acceleration
word, how many tags are before it and how many accelerations are since the last tag (`places`).

The proof has two halves. `processPayload_places` says what the vectorised code computes: each
sample has the time of its segment plus its place times the period. `IisWalker.walk_places` says the
same of the walker, word by word. Between them stand the lemmas on the counts and sums of numpy over
lists (`sum_take_bincount`, `segmentBegin_getD`), each about one function.

Where the times are anchored depends on whether there are tags in the payload and whether a payload
came before; `Anchored` states the cases in the terms of the walker.
-/

namespace SensorHost.Protocol
open SensorHost.Lib

/-- The places in a longer list are one further. -/
lemma flatnonzero_cons {α : Type} (p : α → Bool) (x : α) (xs : List α) :
    flatnonzero p (x :: xs) =
      (if p x then [0] else []) ++ (flatnonzero p xs).map (· + 1) := by
  unfold flatnonzero
  rw [List.length_cons, List.range_succ_eq_map, List.filter_cons, List.filter_map]
  simp only [List.getElem?_cons_zero, Option.map_some, Option.getD_some]
  have hshift : ((fun i => (Option.map p (x :: xs)[i]?).getD false) ∘ Nat.succ) =
      fun i => (Option.map p xs[i]?).getD false := rfl
  rw [hshift]
  split <;> rfl

/-- Places are those of what the elements are mapped to. -/
lemma flatnonzero_map {α β : Type} (p : β → Bool) (f : α → β) (xs : List α) :
    flatnonzero p (xs.map f) = flatnonzero (p ∘ f) xs := by
  unfold flatnonzero
  rw [List.length_map]
  simp only [List.getElem?_map, Option.map_map]

/-- The places in two lists, the second ones further on. -/
lemma flatnonzero_append {α : Type} (p : α → Bool) (xs ys : List α) :
    flatnonzero p (xs ++ ys) =
      flatnonzero p xs ++ (flatnonzero p ys).map (· + xs.length) := by
  induction xs with
  | nil => simp [flatnonzero]
  | cons x xs ih =>
    rw [List.cons_append, flatnonzero_cons, flatnonzero_cons, ih, List.map_append, List.map_map,
      List.append_assoc]
    simp only [Function.comp_def, List.length_cons, Nat.add_assoc]

/-- There are as many places as elements. -/
lemma length_flatnonzero {α : Type} (p : α → Bool) (xs : List α) :
    (flatnonzero p xs).length = xs.countP p := by
  induction xs with
  | nil => rfl
  | cons x xs ih =>
    rw [flatnonzero_cons, List.length_append, List.length_map, ih, List.countP_cons, Nat.add_comm]
    split <;> rfl

/-- Indexing with the indices at which `p` holds. -/
lemma map_flatnonzero {α β : Type} (p : α → Bool) (f : α → β) (xs : List α) (default : α) :
    (flatnonzero p xs).map (fun i => f (xs.getD i default)) = (xs.filter p).map f := by
  induction xs with
  | nil => rfl
  | cons x xs ih =>
    rw [flatnonzero_cons, List.map_append, List.map_map, List.filter_cons]
    have hshift : ((fun i => f ((x :: xs).getD i default)) ∘ fun i => i + 1) =
        fun i => f (xs.getD i default) := rfl
    rw [hshift, ih]
    cases p x <;> rfl

/-- Below one more there are as many of the next numbers. -/
lemma countP_lt_shift (xs : List Nat) (n : Nat) :
    (xs.map (· + 1)).countP (· < n + 1) = xs.countP (· < n) := by
  rw [List.countP_map]
  refine List.countP_congr fun x _ => ?_
  simp

/-- There is nothing below zero. -/
lemma countP_lt_zero (xs : List Nat) : xs.countP (· < 0) = 0 :=
  List.countP_eq_zero.mpr fun x _ => by simp

/-- The elements below `s` are those of the first `s` bins. -/
lemma sum_take_bincount (xs : List Nat) {s size : Nat} (h : s ≤ size) :
    ((bincount xs size).take s).sum = xs.countP (· < s) := by
  induction s with
  | zero => exact (countP_lt_zero xs).symm
  | succ s ih =>
    have hbin : (bincount xs size)[s]? = some (xs.count s) := by
      rw [bincount, List.getElem?_map, List.getElem?_range h]
      rfl
    rw [List.take_add_one, hbin, Option.toList_some, List.sum_append, List.sum_singleton,
      ih (Nat.le_of_succ_le h)]
    clear ih hbin
    induction xs with
    | nil => rfl
    | cons x xs ih =>
      rw [List.countP_cons, List.countP_cons, List.count_cons, ← ih]
      by_cases hlt : x < s
      · simp [hlt, hlt.ne, Nat.lt_succ_of_lt hlt]
        omega
      · by_cases heq : x = s
        · simp [heq]
          omega
        · have hnot : ¬ x < s + 1 := by omega
          simp [hlt, heq, hnot]

/-- `np.cumsum(counts) - counts` at `s`: how many elements are below `s`. -/
lemma segmentBegin_getD (xs : List Nat) {s size : Nat} (h : s < size) :
    (List.zipWith (· - ·) (cumsum (bincount xs size)) (bincount xs size)).getD s 0 =
      xs.countP (· < s) := by
  have hlength : (bincount xs size).length = size := by simp [bincount]
  have hbin : (bincount xs size)[s]? = some (xs.count s) := by
    rw [bincount, List.getElem?_map, List.getElem?_range h]
    rfl
  have hsum : (cumsum (bincount xs size))[s]? =
      some (((bincount xs size).take (s + 1)).sum) := by
    rw [cumsum, List.getElem?_map, hlength, List.getElem?_range h]
    rfl
  rw [List.getD_eq_getElem?_getD, List.getElem?_zipWith, hbin, hsum, List.take_add_one, hbin,
    Option.toList_some, List.sum_append, List.sum_singleton, sum_take_bincount xs h.le]
  exact Nat.add_sub_cancel _ _

namespace IisWord

/-- The word is an acceleration. -/
def isAcceleration (w : IisWord) : Bool := w.tag >>> 3 == 2

/-- The word is a timestamp tag. -/
def isTimestamp (w : IisWord) : Bool := w.tag >>> 3 == 4

/-- A timestamp is no acceleration. -/
lemma not_both {w : IisWord} (h : w.isTimestamp = true) : w.isAcceleration = false := by
  rw [isTimestamp, beq_iff_eq] at h
  rw [isAcceleration, h]
  rfl

end IisWord

/-- For each acceleration word, its segment and its place there, after `s` tags and `k` accelerations
since the last of them. -/
def places (s k : Nat) : List IisWord → List (Nat × Nat)
  | [] => []
  | w :: words =>
    if w.isTimestamp then places (s + 1) 0 words
    else if w.isAcceleration then (s, k) :: places s (k + 1) words
    else places s k words

/-- Behind one more segment each place is one segment later. -/
lemma places_shift (words : List IisWord) (s k : Nat) :
    places (s + 1) k words = (places s k words).map fun q => (q.1 + 1, q.2) := by
  induction words generalizing s k with
  | nil => rfl
  | cons w words ih =>
    rw [places, places]
    split
    · exact ih (s + 1) 0
    · split
      · exact congrArg _ (ih s (k + 1))
      · exact ih s k

/-- Each acceleration has its place. -/
lemma length_places (words : List IisWord) (s k : Nat) :
    (places s k words).length = words.countP IisWord.isAcceleration := by
  induction words generalizing s k with
  | nil => rfl
  | cons w words ih =>
    rw [places, List.countP_cons]
    cases ht : w.isTimestamp with
    | true =>
      rw [if_pos rfl, ih, IisWord.not_both ht]
      rfl
    | false =>
      cases ha : w.isAcceleration with
      | true => exact congrArg (· + 1) (ih s (k + 1))
      | false => exact ih s k

/-- `np.searchsorted(ts_index, accel_index)`. -/
def segments (words : List IisWord) : List Nat :=
  (flatnonzero IisWord.isAcceleration words).map
    (searchsortedLeft (flatnonzero IisWord.isTimestamp words))

/-- A timestamp begins the next segment. -/
lemma segments_cons (w : IisWord) (words : List IisWord) :
    segments (w :: words) =
      if w.isTimestamp then (segments words).map (· + 1)
      else if w.isAcceleration then 0 :: segments words else segments words := by
  unfold segments
  rw [flatnonzero_cons, flatnonzero_cons]
  cases ht : w.isTimestamp with
  | true =>
    rw [IisWord.not_both ht]
    simp only [Bool.false_eq_true, if_false, if_true, List.nil_append, List.map_map]
    refine List.map_congr_left fun i _ => ?_
    simp only [Function.comp_apply, searchsortedLeft, List.singleton_append, List.countP_cons]
    rw [countP_lt_shift]
    simp
  | false =>
    have hshift : ∀ xs ys : List Nat, (xs.map (· + 1)).map (searchsortedLeft (ys.map (· + 1))) =
        xs.map (searchsortedLeft ys) := by
      intro xs ys
      rw [List.map_map]
      exact List.map_congr_left fun i _ => countP_lt_shift ys i
    cases ha : w.isAcceleration with
    | true =>
      simp only [Bool.false_eq_true, if_false, if_true, List.nil_append, List.singleton_append,
        List.map_cons, hshift]
      congr 1
      exact countP_lt_zero _
    | false => simp only [Bool.false_eq_true, if_false, List.nil_append, hshift]

/-- Places, from the segments alone: in a later segment a sample comes as many places behind the
segment's first sample as the ranks of the two differ. -/
lemma places_eq (words : List IisWord) (k : Nat) :
    places 0 k words =
      List.zipWith (fun j s => (s, if s = 0 then k + j else j - (segments words).countP (· < s)))
        (List.range (segments words).length) (segments words) := by
  induction words generalizing k with
  | nil => rfl
  | cons w words ih =>
    rw [places, segments_cons]
    cases ht : w.isTimestamp with
    -- behind a time tag all segments count one more
    | true =>
      simp only [if_true]
      rw [places_shift, ih 0, List.map_zipWith, List.length_map, List.zipWith_map_right]
      refine congrArg (fun f => List.zipWith f _ _) (funext fun j => funext fun s => ?_)
      rw [countP_lt_shift, if_neg (Nat.succ_ne_zero s)]
      split
      · rename_i hs
        rw [hs, countP_lt_zero]
        exact Prod.ext rfl (Nat.zero_add j)
      · rfl
    -- an acceleration word is one place; other words are none
    | false =>
      cases ha : w.isAcceleration with
      | true =>
        simp only [Bool.false_eq_true, if_false, if_true]
        rw [ih (k + 1), List.length_cons, List.range_succ_eq_map, List.zipWith_cons_cons,
          List.zipWith_map_left]
        congr 1
        refine congrArg (fun f => List.zipWith f _ _) (funext fun j => funext fun s => ?_)
        split
        · exact Prod.ext rfl (by omega)
        · rename_i hs
          have hpos : 0 < s := Nat.pos_of_ne_zero hs
          rw [List.countP_cons]
          simp only [hpos, decide_true, if_true]
          exact Prod.ext rfl (by omega)
      | false =>
        simp only [Bool.false_eq_true, if_false]
        exact ih k

/-- The times of the vectorised code, from the places of the samples. -/
lemma times_eq (words : List IisWord) (starts : List ℚ)
    (hsize : ∀ s ∈ segments words, s < starts.length) :
    let segment := segments words
    let counts := bincount segment starts.length
    let segmentBegin := List.zipWith (· - ·) (cumsum counts) counts
    let within :=
      List.zipWith (fun k s => k - segmentBegin.getD s 0) (List.range segment.length) segment
    List.zipWith (fun s k => starts.getD s 0 + (k : ℚ) * iisSamplePeriodUs) segment within =
      (places 0 0 words).map fun q => starts.getD q.1 0 + (q.2 : ℚ) * iisSamplePeriodUs := by
  intro segment counts segmentBegin within
  have hrank : within = List.zipWith (fun k s => k - segment.countP (· < s))
      (List.range segment.length) segment := by
    simp only [within, ← List.map_uncurry_zip_eq_zipWith]
    refine List.map_congr_left fun q hq => ?_
    have hmem : q.2 ∈ segment := (List.of_mem_zip hq).2
    exact congrArg (q.1 - ·) (segmentBegin_getD segment (hsize _ hmem))
  have hzip : ∀ (xs : List Nat) (ks : List Nat) (g : Nat → Nat → Nat) (f : Nat → Nat → ℚ),
      List.zipWith f xs (List.zipWith g ks xs) = (List.zipWith (fun k s => (s, g k s)) ks xs).map
        fun q => f q.1 q.2 := by
    intro xs ks g f
    induction ks generalizing xs with
    | nil => simp
    | cons k ks ih =>
      cases xs with
      | nil => rfl
      | cons x xs => exact congrArg _ (ih xs)
  have hcast : (do let k ← within; pure (k : ℚ)) = within.map Nat.cast :=
    List.flatMap_pure_eq_map _ _
  rw [hcast, List.zipWith_map_right, hrank, hzip, places_eq]
  refine congrArg (fun f => List.map _ (List.zipWith f _ _)) (funext fun j => funext fun s => ?_)
  split
  · rename_i hs
    rw [hs, countP_lt_zero, Nat.zero_add, Nat.sub_zero]
  · rfl

/-- Segments are numbered up to the number of tags. -/
lemma segments_le {words : List IisWord} {s : Nat} (h : s ∈ segments words) :
    s ≤ words.countP IisWord.isTimestamp := by
  obtain ⟨i, -, rfl⟩ := List.mem_map.mp h
  rw [← length_flatnonzero]
  exact List.countP_le_length

/-- The per-word walker: the state of the ticks and the clock. -/
structure IisWalker where
  ticks : IisTimestampReconstructor
  clockUs : ℚ

namespace IisWalker

/-- One word: a timestamp tag sets the clock, an acceleration takes its time and advances it. -/
def word (offsetUs : ℚ) (w : IisWalker) (word : IisWord) : IisWalker × List ℚ :=
  if word.isTimestamp then
    let (ticks, extended) := w.ticks.extendTick word.ts
    ({ ticks := ticks, clockUs := extended * iisTimestampTickUs + offsetUs }, [])
  else if word.isAcceleration then
    ({ w with clockUs := w.clockUs + iisSamplePeriodUs }, [w.clockUs])
  else (w, [])

/-- The words of a payload, one after the other. -/
def walk (offsetUs : ℚ) (w : IisWalker) : List IisWord → IisWalker × List ℚ
  | [] => (w, [])
  | word :: words =>
    let now := w.word offsetUs word
    let later := now.1.walk offsetUs words
    (later.1, now.2 ++ later.2)

end IisWalker

/-- The anchored times of tags. -/
def tagTimes (offsetUs : ℚ) (extended : List Nat) : List ℚ :=
  extended.map fun t : Nat => t * iisTimestampTickUs + offsetUs

/-- The ticks of the tags among words. -/
def tagTicks (words : List IisWord) : List Nat := (words.filter IisWord.isTimestamp).map IisWord.ts

namespace IisWalker

/-- The walker is at place `k` of a segment. -/
lemma walk_places (offsetUs : ℚ) (words : List IisWord) (r : IisTimestampReconstructor)
    (start : ℚ) (k : Nat) :
    (walk offsetUs ⟨r, start + k * iisSamplePeriodUs⟩ words).1.ticks =
        (r.extendTicks (tagTicks words)).1 ∧
      (walk offsetUs ⟨r, start + k * iisSamplePeriodUs⟩ words).2 =
        (places 0 k words).map fun q =>
          (start :: tagTimes offsetUs (r.extendTicks (tagTicks words)).2).getD q.1 0 +
            (q.2 : ℚ) * iisSamplePeriodUs := by
  induction words generalizing r start k with
  | nil => exact ⟨rfl, rfl⟩
  | cons w words ih =>
    rw [walk, places, tagTicks, List.filter_cons, word]
    cases ht : w.isTimestamp with
    | true =>
      simp only [if_true]
      obtain ⟨hticks, htimes⟩ :=
        ih (r.extendTick w.ts).1 ((r.extendTick w.ts).2 * iisTimestampTickUs + offsetUs) 0
      rw [Nat.cast_zero, zero_mul, add_zero] at hticks htimes
      refine ⟨hticks, ?_⟩
      rw [List.nil_append, htimes, places_shift, List.map_map]
      rfl
    | false =>
      cases ha : w.isAcceleration with
      | true =>
        simp only [Bool.false_eq_true, if_false, if_true]
        obtain ⟨hticks, htimes⟩ := ih r start (k + 1)
        rw [show start + k * iisSamplePeriodUs + iisSamplePeriodUs =
          start + (k + 1 : Nat) * iisSamplePeriodUs by push_cast; ring]
        exact ⟨hticks, congrArg _ htimes⟩
      | false =>
        simp only [Bool.false_eq_true, if_false]
        exact ih r start k

/-- Words are walked one after the other. -/
lemma walk_append (offsetUs : ℚ) (w : IisWalker) (front rear : List IisWord) :
    walk offsetUs w (front ++ rear) =
      ((walk offsetUs (walk offsetUs w front).1 rear).1,
        (walk offsetUs w front).2 ++ (walk offsetUs (walk offsetUs w front).1 rear).2) := by
  induction front generalizing w with
  | nil => rfl
  | cons word front ih =>
    rw [List.cons_append, walk, ih, walk]
    simp only [List.append_assoc]

/-- Where there is no tag, one step lies between two samples. -/
lemma walk_untagged (offsetUs : ℚ) {words : List IisWord}
    (h : ∀ w ∈ words, w.isTimestamp = false) (walker : IisWalker) :
    (walk offsetUs walker words).2.getLast? =
      if words.countP IisWord.isAcceleration = 0 then none
      else some (walker.clockUs +
        (words.countP IisWord.isAcceleration - 1 : Nat) * iisSamplePeriodUs) := by
  induction words generalizing walker with
  | nil => rfl
  | cons w words ih =>
    have hrest := fun w' hw' => h w' (List.mem_cons_of_mem w hw')
    rw [walk, word, h w List.mem_cons_self, if_neg Bool.false_ne_true, List.countP_cons]
    cases ha : w.isAcceleration with
    | false =>
      rw [if_neg Bool.false_ne_true, if_neg Bool.false_ne_true, Nat.add_zero]
      exact ih hrest walker
    | true =>
      simp only [if_true, List.singleton_append, Nat.add_one_ne_zero, if_false,
        Nat.add_sub_cancel]
      rw [List.getLast?_cons, ih hrest]
      split
      · rename_i hzero
        rw [hzero, Nat.cast_zero, zero_mul, add_zero]
        rfl
      · rename_i hpos
        rw [Option.getD_some, Nat.cast_sub (Nat.pos_of_ne_zero hpos), Nat.cast_one]
        congr 1
        ring

end IisWalker

namespace IisTimestampReconstructor

/-- Ticks are extended one after the other. -/
lemma extendTicks_append (r : IisTimestampReconstructor) (front rear : List Nat) :
    r.extendTicks (front ++ rear) =
      (((r.extendTicks front).1.extendTicks rear).1,
        (r.extendTicks front).2 ++ ((r.extendTicks front).1.extendTicks rear).2) := by
  induction front generalizing r with
  | nil => rfl
  | cons value front ih =>
    rw [List.cons_append, extendTicks, ih, extendTicks]
    rfl

/-- Each tick is extended. -/
lemma length_extendTicks (r : IisTimestampReconstructor) (ticks : List Nat) :
    (r.extendTicks ticks).2.length = ticks.length := by
  induction ticks generalizing r with
  | nil => rfl
  | cons value ticks ih => exact congrArg (· + 1) (ih _)

/-- Extending ticks does not touch the carry. -/
lemma carryUs_extendTicks (r : IisTimestampReconstructor) (ticks : List Nat) :
    (r.extendTicks ticks).1.carryUs = r.carryUs := by
  induction ticks generalizing r with
  | nil => rfl
  | cons value ticks ih => exact ih _

/-- A payload without acceleration words. -/
lemma processPayload_none (r : IisTimestampReconstructor) {payload : Bytes}
    (frameTimestampUs : Nat) (h : (iisWords payload).countP IisWord.isAcceleration = 0) :
    r.processPayload payload frameTimestampUs = (r, [], [], []) := by
  have hcount : (flatnonzero (· == 2) ((iisWords payload).map fun w => w.tag >>> 3)).length = 0 := by
    rw [flatnonzero_map, length_flatnonzero]
    exact h
  unfold processPayload
  exact if_pos hcount

/-- `process_payload` as places in segments: `offsetUs` anchors the tag times, and `start` is
`start0`. -/
lemma processPayload_places (r : IisTimestampReconstructor) {payload : Bytes}
    (frameTimestampUs : Nat) (h : (iisWords payload).countP IisWord.isAcceleration ≠ 0) :
    let words := iisWords payload
    let accels := flatnonzero IisWord.isAcceleration words
    let tags := flatnonzero IisWord.isTimestamp words
    let extended := r.extendTicks (tagTicks words)
    ∃ offsetUs start times,
      times = (places 0 0 words).map (fun q =>
        (start :: tagTimes offsetUs extended.2).getD q.1 0 + (q.2 : ℚ) * iisSamplePeriodUs) ∧
      r.processPayload payload frameTimestampUs =
        ({ extended.1 with carryUs := some (times.getLastD 0 + iisSamplePeriodUs) }, times,
          ((words.filter IisWord.isAcceleration).map IisWord.xyz).map fun (x, y, z) =>
            ((x : ℚ) * (61 / 1000000), (y : ℚ) * (61 / 1000000), (z : ℚ) * (61 / 1000000)),
          (words.filter IisWord.isAcceleration).map IisWord.xyz) ∧
      (tags = [] → start = r.carryUs.getD
        ((frameTimestampUs : ℚ) - (accels.length - 1 : Nat) * iisSamplePeriodUs)) ∧
      (tags ≠ [] → offsetUs =
          (frameTimestampUs : ℚ) -
            (accels.countP (tags.getLastD 0 < ·) - 1 : Nat) * iisSamplePeriodUs -
              extended.2.getLastD 0 * iisTimestampTickUs ∧
        start = r.carryUs.getD ((tagTimes offsetUs extended.2).headD 0 -
          accels.countP (· < tags.headD 0) * iisSamplePeriodUs)) := by
  intro words accels tags extended
  have haccels : flatnonzero (· == 2) ((iisWords payload).map fun w => w.tag >>> 3) = accels :=
    flatnonzero_map _ _ _
  have htags : flatnonzero (· == 4) ((iisWords payload).map fun w => w.tag >>> 3) = tags :=
    flatnonzero_map _ _ _
  have hcount : accels.length ≠ 0 := by
    rw [length_flatnonzero]
    exact h
  have hticks : tags.map (fun i => ((iisWords payload).getD i default).ts) = tagTicks words :=
    map_flatnonzero _ _ _ _
  have hraw : accels.map (fun i => ((iisWords payload).getD i default).xyz) =
      (words.filter IisWord.isAcceleration).map IisWord.xyz := map_flatnonzero _ _ _ _
  have hsegments : accels.map (searchsortedLeft tags) = segments words := rfl
  have hlength : accels.length = (segments words).length := (List.length_map _).symm
  have hsize : ∀ s ∈ segments words, s < tags.length + 1 := fun s hs =>
    Nat.lt_succ_of_le ((segments_le hs).trans (length_flatnonzero _ _).ge)
  unfold processPayload
  dsimp only
  rw [haccels, htags, if_neg hcount, hticks, hraw]
  by_cases htag : tags = []
  · -- without a tag there is one segment, which starts at the carry
    have hnil : tagTicks words = [] := by
      rw [← hticks, htag, List.map_nil]
    have hzero : List.replicate accels.length 0 = segments words := by
      rw [← hsegments, htag]
      exact List.map_const.symm
    have hextended : extended = (r, []) := by
      simp only [extended, hnil, extendTicks]
    rw [htag] at hsize
    rw [if_neg (by simp [htag])]
    dsimp only
    set start := r.carryUs.getD ((frameTimestampUs : ℚ) - (accels.length - 1 : Nat) *
      iisSamplePeriodUs)
    have htimes := times_eq words [start] hsize
    dsimp only at htimes
    rw [hzero, hlength, htimes]
    refine ⟨0, start, _, rfl, ?_, fun _ => rfl, fun hne => absurd htag hne⟩
    rw [hextended]
    rfl
  · -- with tags each segment but the first starts at its tag
    have hpos : tags.length ≠ 0 := fun hzero => htag (List.length_eq_zero_iff.mp hzero)
    have hextended : extended.2.length = tags.length := by
      rw [length_extendTicks, ← hticks, List.length_map]
    have hcarry : extended.1.carryUs = r.carryUs := carryUs_extendTicks r _
    rw [if_pos hpos, show r.extendTicks (tagTicks words) = extended from rfl]
    clear_value extended
    obtain ⟨r', ticks⟩ := extended
    have hcast : (do let t ← ticks; pure (t : ℚ)) = ticks.map Nat.cast :=
      List.flatMap_pure_eq_map _ _
    have hlast : ((ticks.map Nat.cast).map fun t : ℚ => t * iisTimestampTickUs).getLastD 0 =
        ticks.getLastD 0 * iisTimestampTickUs := by
      rw [List.map_map, ← List.getLastD_map (f := fun t : Nat => (t : ℚ) * iisTimestampTickUs),
        Nat.cast_zero, zero_mul]
      rfl
    dsimp only at hextended hcarry ⊢
    rw [hcarry, hcast, hlast, hsegments, hlength]
    set anchorUs := (frameTimestampUs : ℚ) -
      (accels.countP (tags.getLastD 0 < ·) - 1 : Nat) * iisSamplePeriodUs
    have htagTimes : ((ticks.map Nat.cast).map fun t : ℚ => t * iisTimestampTickUs).map
        (· + (anchorUs - ticks.getLastD 0 * iisTimestampTickUs)) =
          tagTimes (anchorUs - ticks.getLastD 0 * iisTimestampTickUs) ticks := by
      rw [List.map_map, List.map_map]
      rfl
    rw [htagTimes]
    set offsetUs := anchorUs - ticks.getLastD 0 * iisTimestampTickUs
    set start := r.carryUs.getD ((tagTimes offsetUs ticks).headD 0 -
      accels.countP (· < tags.headD 0) * iisSamplePeriodUs)
    have hstarts : (start :: tagTimes offsetUs ticks).length = tags.length + 1 := by
      rw [List.length_cons, tagTimes, List.length_map, hextended]
    have htimes := times_eq words (start :: tagTimes offsetUs ticks) (hstarts ▸ hsize)
    dsimp only at htimes
    rw [htimes]
    exact ⟨offsetUs, start, _, rfl, rfl, fun hnil => absurd hnil htag, fun _ => ⟨rfl, rfl⟩⟩

end IisTimestampReconstructor

section Split

variable {front rear : List IisWord} {tag : IisWord}

/-- The places around an element. -/
lemma flatnonzero_split (p : IisWord → Bool) :
    flatnonzero p (front ++ tag :: rear) = flatnonzero p front ++
      ((if p tag then [front.length] else []) ++
        (flatnonzero p rear).map (· + (front.length + 1))) := by
  rw [flatnonzero_append, flatnonzero_cons, List.map_append, List.map_map]
  congr 2
  · split
    · rw [List.map_singleton, Nat.zero_add]
    · rfl
  · refine List.map_congr_left fun i _ => ?_
    simp only [Function.comp_apply]
    omega

/-- Where nothing is so there is no place. -/
lemma flatnonzero_eq_nil {p : IisWord → Bool} {words : List IisWord}
    (h : ∀ w ∈ words, p w = false) : flatnonzero p words = [] := by
  rw [← List.length_eq_zero_iff, length_flatnonzero, List.countP_eq_zero]
  intro w hw
  rw [h w hw]
  exact Bool.false_ne_true

/-- A place is one of the list. -/
lemma flatnonzero_lt {p : IisWord → Bool} {words : List IisWord} {i : Nat}
    (h : i ∈ flatnonzero p words) : i < words.length :=
  List.mem_range.mp (List.mem_filter.mp h).1

/-- The accelerations before the first tag. -/
lemma before_first (htag : tag.isTimestamp = true) (hfront : ∀ w ∈ front, w.isTimestamp = false) :
    (flatnonzero IisWord.isAcceleration (front ++ tag :: rear)).countP
        (· < (flatnonzero IisWord.isTimestamp (front ++ tag :: rear)).headD 0) =
      front.countP IisWord.isAcceleration := by
  rw [flatnonzero_split IisWord.isTimestamp, flatnonzero_eq_nil hfront, if_pos htag,
    flatnonzero_split IisWord.isAcceleration, IisWord.not_both htag, if_neg Bool.false_ne_true,
    List.nil_append, List.nil_append, List.singleton_append, List.headD_cons, List.countP_append,
    ← length_flatnonzero IisWord.isAcceleration front]
  have hall : (flatnonzero IisWord.isAcceleration front).countP (· < front.length) =
      (flatnonzero IisWord.isAcceleration front).length :=
    List.countP_eq_length.mpr fun i hi => decide_eq_true (flatnonzero_lt hi)
  rw [hall, List.countP_map, Nat.add_eq_left, List.countP_eq_zero]
  intro i _
  simp only [Function.comp_apply, decide_eq_true_eq]
  omega

/-- The accelerations after the last tag. -/
lemma after_last (htag : tag.isTimestamp = true) (hrear : ∀ w ∈ rear, w.isTimestamp = false) :
    (flatnonzero IisWord.isAcceleration (front ++ tag :: rear)).countP
        ((flatnonzero IisWord.isTimestamp (front ++ tag :: rear)).getLastD 0 < ·) =
      rear.countP IisWord.isAcceleration := by
  have hlast : (flatnonzero IisWord.isTimestamp (front ++ tag :: rear)).getLastD 0 =
      front.length := by
    rw [flatnonzero_split, flatnonzero_eq_nil hrear, if_pos htag, List.map_nil, List.append_nil,
      List.getLastD_concat]
  rw [hlast, flatnonzero_split, IisWord.not_both htag, if_neg Bool.false_ne_true, List.nil_append,
    List.countP_append, List.countP_map, ← length_flatnonzero IisWord.isAcceleration rear]
  have hnone : (flatnonzero IisWord.isAcceleration front).countP (front.length < ·) = 0 := by
    rw [List.countP_eq_zero]
    intro i hi
    have hlt := flatnonzero_lt hi
    simp only [decide_eq_true_eq]
    omega
  rw [hnone, Nat.zero_add, List.countP_eq_length]
  intro i _
  simp only [Function.comp_apply, decide_eq_true_eq]
  omega

/-- The ticks around a timestamp. -/
lemma tagTicks_split (htag : tag.isTimestamp = true) :
    tagTicks (front ++ tag :: rear) = tagTicks front ++ tag.ts :: tagTicks rear := by
  rw [tagTicks, List.filter_append, List.filter_cons_of_pos htag, List.map_append, List.map_cons]
  rfl

/-- Without timestamps there are no ticks. -/
lemma tagTicks_eq_nil {words : List IisWord} (h : ∀ w ∈ words, w.isTimestamp = false) :
    tagTicks words = [] := by
  rw [tagTicks, List.filter_eq_nil_iff.mpr fun w hw => by rw [h w hw]; exact Bool.false_ne_true,
    List.map_nil]

end Split

/-- How the walker over the words of a payload stands in time: `offsetUs` is added to the tag times,
and `start` is where its clock starts. -/
structure Anchored (r : IisTimestampReconstructor) (words : List IisWord) (frameTimestampUs : Nat)
    (offsetUs start : ℚ) : Prop where
  /-- The clock starts at the carried value. -/
  carried : ∀ carry, r.carryUs = some carry → start = carry
  /-- With no carry, the words before the first tag end one step before that tag's time. -/
  backdated : r.carryUs = none → ∀ front tag rear, words = front ++ tag :: rear →
    tag.isTimestamp = true → (∀ w ∈ front, w.isTimestamp = false) →
      start + front.countP IisWord.isAcceleration * iisSamplePeriodUs =
        (r.extendTick tag.ts).2 * iisTimestampTickUs + offsetUs
  /-- With no carry and no tag, the last word is at the frame timestamp. -/
  untagged : r.carryUs = none → (∀ w ∈ words, w.isTimestamp = false) →
    (IisWalker.walk offsetUs ⟨r, start⟩ words).2.getLast? = some (frameTimestampUs : ℚ)
  /-- Where accelerations follow the last tag, the last of them is at the frame timestamp. -/
  sampled : ∀ front tag rear, words = front ++ tag :: rear → tag.isTimestamp = true →
    (∀ w ∈ rear, w.isTimestamp = false) → (∃ w ∈ rear, w.isAcceleration = true) →
      (IisWalker.walk offsetUs ⟨r, start⟩ words).2.getLast? = some (frameTimestampUs : ℚ)
  /-- Where none follows, the last tag is at the frame timestamp. -/
  bare : ∀ front tag rear, words = front ++ tag :: rear → tag.isTimestamp = true →
    (∀ w ∈ rear, w.isTimestamp = false) → (∀ w ∈ rear, w.isAcceleration = false) →
      (IisWalker.walk offsetUs ⟨r, start⟩ (front ++ [tag])).1.clockUs = frameTimestampUs

/-- The time of the tag at a split of the words. -/
lemma walk_tag (offsetUs : ℚ) (w : IisWalker) (front : List IisWord) {tag : IisWord}
    (htag : tag.isTimestamp = true) :
    (IisWalker.walk offsetUs w (front ++ [tag])).1.clockUs =
      ((IisWalker.walk offsetUs w front).1.ticks.extendTick tag.ts).2 * iisTimestampTickUs +
        offsetUs := by
  rw [IisWalker.walk_append]
  simp only [IisWalker.walk, IisWalker.word, htag, if_true]

/-- The last extended tick belongs to the last tag. -/
lemma extendTicks_last (r : IisTimestampReconstructor) (front : List IisWord) {tag : IisWord}
    {rear : List IisWord} (htag : tag.isTimestamp = true)
    (hrear : ∀ w ∈ rear, w.isTimestamp = false) :
    (r.extendTicks (tagTicks (front ++ tag :: rear))).2.getLastD 0 =
      ((r.extendTicks (tagTicks front)).1.extendTick tag.ts).2 := by
  rw [tagTicks_split htag, tagTicks_eq_nil hrear,
    IisTimestampReconstructor.extendTicks_append]
  exact List.getLastD_concat

/-- The first extended tick belongs to the first tag. -/
lemma extendTicks_first (r : IisTimestampReconstructor) {front : List IisWord} {tag : IisWord}
    (rear : List IisWord) (htag : tag.isTimestamp = true)
    (hfront : ∀ w ∈ front, w.isTimestamp = false) (offsetUs : ℚ) :
    (tagTimes offsetUs (r.extendTicks (tagTicks (front ++ tag :: rear))).2).headD 0 =
      (r.extendTick tag.ts).2 * iisTimestampTickUs + offsetUs := by
  rw [tagTicks_split htag, tagTicks_eq_nil hfront]
  rfl

/-- What the times of the places start from anchors the words, with timestamps among them or
without. -/
lemma Anchored.of_places {r : IisTimestampReconstructor} {words : List IisWord}
    {frameTimestampUs : Nat} {offsetUs start : ℚ}
    (huntagged : flatnonzero IisWord.isTimestamp words = [] → start = r.carryUs.getD
      ((frameTimestampUs : ℚ) - ((flatnonzero IisWord.isAcceleration words).length - 1 : Nat) *
        iisSamplePeriodUs))
    (htagged : flatnonzero IisWord.isTimestamp words ≠ [] → offsetUs =
        (frameTimestampUs : ℚ) - ((flatnonzero IisWord.isAcceleration words).countP
          ((flatnonzero IisWord.isTimestamp words).getLastD 0 < ·) - 1 : Nat) *
            iisSamplePeriodUs -
          (r.extendTicks (tagTicks words)).2.getLastD 0 * iisTimestampTickUs ∧
      start = r.carryUs.getD ((tagTimes offsetUs (r.extendTicks (tagTicks words)).2).headD 0 -
        (flatnonzero IisWord.isAcceleration words).countP
          (· < (flatnonzero IisWord.isTimestamp words).headD 0) * iisSamplePeriodUs))
    (haccel : words.countP IisWord.isAcceleration ≠ 0) :
    Anchored r words frameTimestampUs offsetUs start := by
  have hne : ∀ front tag rear, words = front ++ tag :: rear → tag.isTimestamp = true →
      flatnonzero IisWord.isTimestamp words ≠ [] := by
    intro front tag rear hwords htag hnil
    rw [hwords, flatnonzero_split, if_pos htag] at hnil
    cases (List.append_eq_nil_iff.mp (List.append_eq_nil_iff.mp hnil).2).1
  -- The walker behind the last tag.
  have hlast : ∀ front tag rear, words = front ++ tag :: rear → tag.isTimestamp = true →
      (∀ w ∈ rear, w.isTimestamp = false) →
        (IisWalker.walk offsetUs ⟨r, start⟩ (front ++ [tag])).1.clockUs = frameTimestampUs -
          (rear.countP IisWord.isAcceleration - 1 : Nat) * iisSamplePeriodUs := by
    intro front tag rear hwords htag hrear
    have hoffset := (htagged (hne front tag rear hwords htag)).1
    have hticks := (IisWalker.walk_places offsetUs front r start 0).1
    rw [Nat.cast_zero, zero_mul, add_zero] at hticks
    rw [hwords, after_last htag hrear, extendTicks_last r front htag hrear] at hoffset
    rw [walk_tag offsetUs _ front htag, hticks, hoffset]
    ring
  refine ⟨?_, ?_, ?_, ?_, ?_⟩
  · intro carry hcarry
    rw [hcarry] at huntagged htagged
    by_cases hnil : flatnonzero IisWord.isTimestamp words = []
    · exact huntagged hnil
    · exact (htagged hnil).2
  · intro hnone front tag rear hwords htag hfront
    have hstart := (htagged (hne front tag rear hwords htag)).2
    rw [hnone, Option.getD_none, hwords, before_first htag hfront,
      extendTicks_first r rear htag hfront] at hstart
    rw [hstart]
    ring
  · intro hnone hwords
    have hstart := huntagged (flatnonzero_eq_nil hwords)
    rw [hnone, Option.getD_none, length_flatnonzero] at hstart
    rw [IisWalker.walk_untagged offsetUs hwords, if_neg haccel, hstart]
    congr 1
    ring
  · intro front tag rear hwords htag hrear hsome
    have hpos : rear.countP IisWord.isAcceleration ≠ 0 := by
      obtain ⟨w, hw, ha⟩ := hsome
      exact (List.countP_pos_iff.mpr ⟨w, hw, ha⟩).ne'
    have hclock := hlast front tag rear hwords htag hrear
    have happend : words = front ++ [tag] ++ rear := by
      rw [hwords, List.append_assoc, List.singleton_append]
    have hwalk := IisWalker.walk_untagged offsetUs hrear
      (IisWalker.walk offsetUs ⟨r, start⟩ (front ++ [tag])).1
    rw [if_neg hpos, hclock] at hwalk
    rw [happend, IisWalker.walk_append, List.getLast?_append, hwalk, Option.some_or]
    congr 1
    ring
  · intro front tag rear hwords htag hrear hnone
    have hzero : rear.countP IisWord.isAcceleration = 0 := by
      rw [List.countP_eq_zero]
      intro w hw
      rw [hnone w hw]
      exact Bool.false_ne_true
    rw [hlast front tag rear hwords htag hrear, hzero]
    simp

/-- The vectorised code gives the times of the per-word walker. A payload without acceleration words
changes nothing; for any other the samples are the acceleration words in order, with the times the
walker gives them, and the new carry is one step after the last of them. -/
theorem processPayload_walks (r : IisTimestampReconstructor) (payload : Bytes)
    (frameTimestampUs : Nat) :
    let words := iisWords payload
    let accelerations := words.filter IisWord.isAcceleration
    let result := r.processPayload payload frameTimestampUs
    (accelerations = [] → result = (r, [], [], [])) ∧
      (accelerations ≠ [] → ∃ offsetUs start, Anchored r words frameTimestampUs offsetUs start ∧
        let walked := IisWalker.walk offsetUs ⟨r, start⟩ words
        result = ({ walked.1.ticks with
            carryUs := walked.2.getLast?.map (· + iisSamplePeriodUs) }, walked.2,
          accelerations.map (fun w => ((w.xyz.1 : ℚ) * (61 / 1000000),
            (w.xyz.2.1 : ℚ) * (61 / 1000000), (w.xyz.2.2 : ℚ) * (61 / 1000000))),
          accelerations.map IisWord.xyz)) := by
  intro words accelerations result
  have hlength : accelerations.length = words.countP IisWord.isAcceleration :=
    List.countP_eq_length_filter.symm
  refine ⟨fun hnil => ?_, fun hne => ?_⟩
  · refine r.processPayload_none frameTimestampUs ?_
    rw [← hlength, hnil, List.length_nil]
  · have haccel : words.countP IisWord.isAcceleration ≠ 0 := fun hzero =>
      hne (List.length_eq_zero_iff.mp (hlength.trans hzero))
    obtain ⟨offsetUs, start, times, htimes, hresult, huntagged, htagged⟩ :=
      r.processPayload_places frameTimestampUs haccel
    -- the walker is at the places that the arrays give
    have hwalk := IisWalker.walk_places offsetUs words r start 0
    rw [Nat.cast_zero, zero_mul, add_zero] at hwalk
    obtain ⟨hticks, hwalked⟩ := hwalk
    rw [← htimes] at hwalked
    have hne : times ≠ [] := by
      rw [htimes, ← List.length_pos_iff, List.length_map, length_places]
      exact Nat.pos_of_ne_zero haccel
    have hlast : times.getLast? = some (times.getLastD 0) := by
      rw [List.getLastD_eq_getLast?, List.getLast?_eq_some_getLast hne, Option.getD_some]
    refine ⟨offsetUs, start, .of_places huntagged htagged haccel, ?_⟩
    dsimp only
    rw [hticks, hwalked, hlast]
    refine hresult.trans ?_
    rw [List.map_map]
    rfl

end SensorHost.Protocol
