import Mathlib.Tactic.Basic

/-!
# Chronicles

A list that grows at its end, each entry of which is allowed by what stands before it (`Chronicle`).
It is how a development states the law of a history: the entry that comes next is judged by the
entries that came so far, never by the state behind them.
-/

namespace SensorHost.Lib

variable {α : Type*} {P : List α → α → Prop} {l : List α} {x : α}

/-- Every entry is allowed by what stands before it. -/
def Chronicle (P : List α → α → Prop) (l : List α) : Prop :=
  ∀ before x after, l = before ++ x :: after → P before x

/-- Nothing has happened yet. -/
lemma chronicle_nil : Chronicle P [] := by
  intro before x after h
  cases before <;> cases h

/-- An entry at the end is allowed by the whole list. -/
lemma Chronicle.snoc (h : Chronicle P l) (hx : P l x) : Chronicle P (l ++ [x]) := by
  intro before y after heq
  rcases List.eq_nil_or_concat after with rfl | ⟨after, z, rfl⟩
  · obtain ⟨hbefore, hlast⟩ := List.append_inj' heq rfl
    cases hlast
    exact hbefore ▸ hx
  · rw [List.concat_eq_append, ← List.cons_append, ← List.append_assoc] at heq
    exact h before y after (List.append_inj' heq rfl).1

end SensorHost.Lib
