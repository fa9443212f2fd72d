import Mathlib.Tactic.Basic

/-!
# What a computation gives

A property of the result of a computation that may fail (`Gives`): it holds of the result, if there
is one. It goes through sequencing, so that what a parser returns can be described along the
parser's own text.

When a sequence has a result at all is `bind_eq_ok`: both parts must have one.
-/

namespace SensorHost.Lib

/-- The result, if there is one, has the property. -/
def Gives {ε α : Type} (Q : α → Prop) (x : Except ε α) : Prop := ∀ a, x = .ok a → Q a

variable {ε α β : Type} {Q : α → Prop} {Q' : β → Prop} {x : Except ε α} {f : α → Except ε β}

/-- A failure gives whatever is asked. -/
lemma Gives.error (e : ε) : Gives Q (.error e) := fun _ h => (nomatch h)

/-- A result gives what holds of it. -/
lemma Gives.ok {a : α} (h : Q a) : Gives Q (.ok a : Except ε α) := by
  intro b hb
  cases hb
  exact h

/-- What is given may be weakened. -/
lemma Gives.imp {Q₂ : α → Prop} (h : Gives Q x) (himp : ∀ a, Q a → Q₂ a) : Gives Q₂ x :=
  fun a ha => himp a (h a ha)

/-- A sequence gives what its second part gives behind the first. -/
lemma Gives.bind (h : Gives Q x) (hnext : ∀ a, Q a → Gives Q' (f a)) : Gives Q' (x >>= f) := by
  cases x with
  | error e => exact .error e
  | ok a => exact hnext a (h a rfl)

/-- A value of which nothing is asked comes first. -/
lemma Gives.value (hnext : ∀ a, Gives Q' (f a)) : Gives Q' (x >>= f) :=
  Gives.bind (Q := fun _ => True) (fun _ _ => trivial) fun a _ => hnext a

/-- A sequence has a result where both of its parts have one. -/
lemma bind_eq_ok {b : β} : x >>= f = .ok b ↔ ∃ a, x = .ok a ∧ f a = .ok b := by
  cases x with
  | error e => exact ⟨fun h => (nomatch h), fun ⟨_, h, _⟩ => (nomatch h)⟩
  | ok a =>
    constructor
    · exact fun h => ⟨a, rfl, h⟩
    · rintro ⟨_, h, hb⟩
      cases h
      exact hb

end SensorHost.Lib
