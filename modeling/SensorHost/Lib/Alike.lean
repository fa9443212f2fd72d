import Mathlib.Tactic.Basic

/-!
# Results that are alike

Two computations that may fail are alike when they fail with the same error or succeed with related
results (`Alike`). Being alike goes through sequencing (`Alike.bind`) and through folds
(`Alike.foldlM`), so that a parser run from two states, or over two spellings of one input, can be
compared one step at a time.

The relation between the results is a parameter of each rule, since the states of two such runs are
seldom related in the same way before and after a step.
-/

namespace SensorHost.Lib

/-- The results fail alike, or are related. -/
inductive Alike {ε α β : Type} (R : α → β → Prop) : Except ε α → Except ε β → Prop
  | error (e : ε) : Alike R (.error e) (.error e)
  | ok {a : α} {b : β} (h : R a b) : Alike R (.ok a) (.ok b)

variable {ε α α' β β' γ : Type} {R : α → β → Prop} {R' : α' → β' → Prop} {x : Except ε α}
  {y : Except ε β}

/-- Alike computations that go on alike are alike. -/
lemma Alike.bind {f : α → Except ε α'} {g : β → Except ε β'} (h : Alike R x y)
    (hnext : ∀ a b, R a b → Alike R' (f a) (g b)) : Alike R' (x >>= f) (y >>= g) := by
  cases h with
  | error e => exact .error e
  | ok h => exact hnext _ _ h

/-- A fold that starts alike and steps alike ends alike. -/
lemma Alike.foldlM {f : α → γ → Except ε α} {g : β → γ → Except ε β} {a : α} {b : β}
    (hstep : ∀ a b c, R a b → Alike R (f a c) (g b c)) (h : R a b) (cs : List γ) :
    Alike R (cs.foldlM f a) (cs.foldlM g b) := by
  induction cs generalizing a b with
  | nil => exact .ok h
  | cons c cs ih =>
    rw [List.foldlM_cons, List.foldlM_cons]
    exact (hstep a b c h).bind fun a' b' h' => ih h'

end SensorHost.Lib
