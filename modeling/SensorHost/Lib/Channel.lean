import Mathlib.Tactic

/-!
# Lossy FIFO channels

The contents of a first-in first-out channel are a list, oldest first. `Disturb` is one fault of the
channel: it loses one element, or duplicates one in place.

Delay needs no step of its own, since nothing forces an element to be delivered. A fault brings
nothing new (`Disturb.subset`), so whatever holds of every element in the channel still holds behind
it; and a fault of two parts in one channel is a fault of one of them (`Disturb.append`).
-/

namespace SensorHost.Lib

/-- One fault of a channel. -/
inductive Disturb {α : Type*} : List α → List α → Prop where
  | lose (a : List α) (x : α) (b : List α) : Disturb (a ++ x :: b) (a ++ b)
  | duplicate (a : List α) (x : α) (b : List α) : Disturb (a ++ x :: b) (a ++ x :: x :: b)

namespace Disturb

variable {α : Type*} {xs ys : List α}

/-- A fault brings nothing new. -/
lemma subset (h : Disturb xs ys) : ∀ x ∈ ys, x ∈ xs := by
  cases h with
  | lose a x b =>
    intro z hz
    rcases List.mem_append.mp hz with hz | hz
    · exact List.mem_append_left _ hz
    · exact List.mem_append_right _ (List.mem_cons_of_mem _ hz)
  | duplicate a x b =>
    intro z hz
    rcases List.mem_append.mp hz with hz | hz
    · exact List.mem_append_left _ hz
    · rcases List.mem_cons.mp hz with rfl | hz
      · simp
      · exact List.mem_append_right _ hz

/-- A fault of a concatenation is a fault of one part. -/
lemma append {as bs : List α} (h : Disturb (as ++ bs) ys) :
    ∃ as' bs', ys = as' ++ bs' ∧ (∀ x ∈ as', x ∈ as) ∧ ∀ x ∈ bs', x ∈ bs := by
  generalize hxs : as ++ bs = xs at h
  have split (a : List α) (x : α) (b : List α) (heq : as ++ bs = a ++ x :: b) :
      (∃ t, as = a ++ x :: t ∧ b = t ++ bs) ∨ ∃ t, a = as ++ t ∧ bs = t ++ x :: b := by
    rcases List.append_eq_append_iff.mp heq with ⟨t, ha, hb⟩ | ⟨t, ha, hb⟩
    · exact .inr ⟨t, ha, hb⟩
    · cases t with
      | nil => exact .inr ⟨[], by simpa using ha.symm, by simpa using hb.symm⟩
      | cons z t =>
        obtain ⟨rfl, rfl⟩ := List.cons.inj hb
        exact .inl ⟨t, ha, rfl⟩
  cases h with
  | lose a x b =>
    rcases split a x b hxs with ⟨t, rfl, rfl⟩ | ⟨t, rfl, rfl⟩
    · refine ⟨a ++ t, bs, by simp, ?_, fun _ h => h⟩
      exact (lose a x t).subset
    · refine ⟨as, t ++ b, by simp, fun _ h => h, ?_⟩
      exact (lose t x b).subset
  | duplicate a x b =>
    rcases split a x b hxs with ⟨t, rfl, rfl⟩ | ⟨t, rfl, rfl⟩
    · refine ⟨a ++ x :: x :: t, bs, by simp, ?_, fun _ h => h⟩
      exact (duplicate a x t).subset
    · refine ⟨as, t ++ x :: x :: b, by simp, fun _ h => h, ?_⟩
      exact (duplicate t x b).subset

/-- An empty channel has no fault. -/
lemma ne_nil (h : Disturb xs ys) : xs ≠ [] := by
  cases h <;> simp

end Disturb

end SensorHost.Lib
