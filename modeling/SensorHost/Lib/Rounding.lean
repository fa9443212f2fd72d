import Mathlib.Data.Rat.Floor
import Mathlib.Tactic

/-!
# Rounding

Floating-point arithmetic as exact rational arithmetic with every result rounded. What a development
relies on is that rounding is monotone, that a rounded number is its own rounding, and that integers
below 2^53 are kept; round to nearest on IEEE doubles does this, and so does exact arithmetic.

A number is `Exact` if rounding keeps it. Exact numbers are closed under `min` and `max`, and adding
something that is not negative to one never goes back (`Exact.le_round_add`).
-/

namespace SensorHost.Lib

/-- A rounding of the rationals. -/
structure Rounding where
  round : ℚ → ℚ
  mono : Monotone round
  idem : ∀ x, round (round x) = round x
  natCast : ∀ n : Nat, n < 2 ^ 53 → round n = n

namespace Rounding

/-- Arithmetic without rounding. -/
def exact : Rounding where
  round x := x
  mono _ _ h := h
  idem _ := rfl
  natCast _ _ := rfl

variable (R : Rounding)

/-- A number that rounding keeps. -/
def Exact (x : ℚ) : Prop := R.round x = x

/-- A rounded number is exact. -/
lemma exact_round (x : ℚ) : R.Exact (R.round x) := R.idem x

/-- Zero is kept. -/
@[simp] lemma round_zero : R.round 0 = 0 := by
  have h := R.natCast 0 (by norm_num)
  rwa [Nat.cast_zero] at h

/-- Zero is exact. -/
lemma exact_zero : R.Exact 0 := R.round_zero

/-- Rounding keeps the sign of what is not negative. -/
lemma round_nonneg {x : ℚ} (h : 0 ≤ x) : 0 ≤ R.round x := by
  have hmono := R.mono h
  rwa [round_zero] at hmono

/-- The smaller of two exact numbers is exact. -/
lemma Exact.min {R : Rounding} {x y : ℚ} (hx : R.Exact x) (hy : R.Exact y) :
    R.Exact (min x y) := by
  cases le_total x y with
  | inl h => rwa [min_eq_left h]
  | inr h => rwa [min_eq_right h]

/-- The greater of two exact numbers is exact. -/
lemma Exact.max {R : Rounding} {x y : ℚ} (hx : R.Exact x) (hy : R.Exact y) :
    R.Exact (max x y) := by
  cases le_total x y with
  | inl h => rwa [max_eq_right h]
  | inr h => rwa [max_eq_left h]

/-- Adding something that is not negative never goes back. -/
lemma Exact.le_round_add {R : Rounding} {x y : ℚ} (hx : R.Exact x) (hy : 0 ≤ y) :
    x ≤ R.round (x + y) := by
  calc x = R.round x := hx.symm
    _ ≤ R.round (x + y) := R.mono (le_add_of_nonneg_right hy)

end Rounding

end SensorHost.Lib
