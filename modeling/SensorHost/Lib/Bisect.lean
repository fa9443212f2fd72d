import Mathlib.Order.Basic
import Mathlib.Algebra.Order.Group.Nat
import Mathlib.Tactic.Common

/-!
# Bisection

The binary search for the end of the longest prefix on which a predicate holds, as a recursion over
the two ends of the range that is left. Where the predicate never comes back after it has failed,
the search cuts the list in the elements that satisfy it and those that do not (`Between.take_eq`,
`Between.drop_eq`).

`Between` is the invariant of the search: the predicate holds before the lower end and fails from
the upper end on. `bisect_between` carries it to where the two ends meet, and `Between.of_map` to
the list whose keys were searched.
-/

namespace SensorHost.Lib

variable {α : Type} {p : α → Bool} {xs : List α}

/-- Halve the range between two bounds until they meet. -/
def bisect (p : α → Bool) (xs : List α) (default : α) : Nat → Nat → Nat → Nat
  | 0, low, _ => low
  | fuel + 1, low, high =>
    if low < high then
      let mid := low + (high - low) / 2
      if p (xs.getD mid default) then bisect p xs default fuel (mid + 1) high
      else bisect p xs default fuel low mid
    else low

/-- Bounds of a search: the predicate holds before `low` and fails from `high` on. -/
structure Between (p : α → Bool) (xs : List α) (low high : Nat) : Prop where
  le : low ≤ high
  bound : high ≤ xs.length
  below : ∀ (i : Nat) (h : i < xs.length), i < low → p xs[i] = true
  above : ∀ (i : Nat) (h : i < xs.length), high ≤ i → p xs[i] = false

/-- The whole list is where the search begins. -/
lemma Between.whole (p : α → Bool) (xs : List α) : Between p xs 0 xs.length :=
  ⟨Nat.zero_le _, le_refl _, nofun, fun _ h hle => absurd hle (not_le.mpr h)⟩

/-- The predicate does not come back after it has failed. -/
lemma imp_of_le (mono : xs.Pairwise fun x y => p y = true → p x = true) {i j : Nat} (hij : i ≤ j)
    (hj : j < xs.length) (h : p xs[j] = true) : p (xs.get ⟨i, hij.trans_lt hj⟩) = true := by
  cases Nat.lt_or_eq_of_le hij with
  | inl hlt => exact List.pairwise_iff_getElem.mp mono i j (hij.trans_lt hj) hj hlt h
  | inr heq =>
    subst heq
    exact h

/-- The search ends where the bounds meet. -/
theorem bisect_between (mono : xs.Pairwise fun x y => p y = true → p x = true) (default : α)
    {fuel low high : Nat} (h : Between p xs low high) (hfuel : high - low ≤ fuel) :
    Between p xs (bisect p xs default fuel low high) (bisect p xs default fuel low high) := by
  induction fuel generalizing low high with
  | zero =>
    have heq : high = low := Nat.le_antisymm (Nat.sub_eq_zero_iff_le.mp (Nat.le_zero.mp hfuel)) h.le
    subst heq
    exact h
  | succ fuel ih =>
    rw [bisect]
    split
    · rename_i hlt
      have hmid : low + (high - low) / 2 < high := by omega
      have hin : low + (high - low) / 2 < xs.length := hmid.trans_le h.bound
      have hget : xs.getD (low + (high - low) / 2) default = xs[low + (high - low) / 2] := by
        rw [List.getD_eq_getElem?_getD, List.getElem?_eq_getElem hin, Option.getD_some]
      dsimp only
      rw [hget]
      split
      · rename_i hp
        refine ih ⟨hmid, h.bound, fun i hi hlow => ?_, h.above⟩ (by omega)
        exact imp_of_le mono (Nat.le_of_lt_succ hlow) hin hp
      · rename_i hp
        refine ih ⟨Nat.le_add_right _ _, hin.le, h.below, fun i hi hhigh => ?_⟩ (by omega)
        exact Bool.eq_false_of_not_eq_true fun htrue => hp (imp_of_le mono hhigh hi htrue)
    · rename_i hge
      have heq : high = low := Nat.le_antisymm (not_lt.mp hge) h.le
      subst heq
      exact h

/-- A cut of a mapped list is one of the list. -/
lemma Between.of_map {β : Type} {f : β → α} {ys : List β} {low high : Nat}
    (h : Between p (ys.map f) low high) : Between (fun y => p (f y)) ys low high where
  le := h.le
  bound := h.bound.trans (List.length_map f).le
  below i hi hlow := by
    have hp := h.below i ((List.length_map f).symm ▸ hi) hlow
    rwa [List.getElem_map] at hp
  above i hi hhigh := by
    have hp := h.above i ((List.length_map f).symm ▸ hi) hhigh
    rwa [List.getElem_map] at hp

/-- What is before the cut satisfies the predicate. -/
lemma Between.take_eq {n : Nat} (h : Between p xs n n) : xs.take n = xs.filter p := by
  have htake : (xs.take n).filter p = xs.take n := by
    rw [List.filter_eq_self]
    intro x hx
    obtain ⟨i, hi, rfl⟩ := List.getElem_of_mem hx
    rw [List.length_take] at hi
    rw [List.getElem_take]
    exact h.below i (lt_of_lt_of_le hi (min_le_right _ _)) (lt_of_lt_of_le hi (min_le_left _ _))
  have hdrop : (xs.drop n).filter p = [] := by
    rw [List.filter_eq_nil_iff]
    intro x hx
    obtain ⟨i, hi, rfl⟩ := List.getElem_of_mem hx
    rw [List.length_drop] at hi
    rw [List.getElem_drop, h.above (n + i) (by omega) (Nat.le_add_right _ _)]
    exact Bool.false_ne_true
  conv_rhs => rw [← List.take_append_drop n xs, List.filter_append, htake, hdrop, List.append_nil]

/-- What is behind the cut does not. -/
lemma Between.drop_eq {n : Nat} (h : Between p xs n n) :
    xs.drop n = xs.filter fun x => !p x := by
  have htake : (xs.take n).filter (fun x => !p x) = [] := by
    rw [h.take_eq, List.filter_filter, List.filter_eq_nil_iff]
    intro x _
    rw [Bool.not_and_self]
    exact Bool.false_ne_true
  have hdrop : (xs.drop n).filter (fun x => !p x) = xs.drop n := by
    rw [List.filter_eq_self]
    intro x hx
    obtain ⟨i, hi, rfl⟩ := List.getElem_of_mem hx
    rw [List.length_drop] at hi
    rw [List.getElem_drop, h.above (n + i) (by omega) (Nat.le_add_right _ _)]
    rfl
  conv_rhs =>
    rw [← List.take_append_drop n xs, List.filter_append, htake, hdrop, List.nil_append]

end SensorHost.Lib
