import Mathlib.Tactic.Basic

/-!
# Dictionaries

A dictionary in the order of insertion, as Python's `dict` keeps it: a list of keys with their
values, in which every key stands once. Setting a key (`dictPut`) replaces its value in place, or
adds the key at the end.
-/

namespace SensorHost.Lib

variable {α β : Type} [BEq α] [LawfulBEq α] [DecidableEq α]

/-- `dict[key] = value`. -/
def dictPut (dict : List (α × β)) (key : α) (value : β) : List (α × β) :=
  if dict.any fun a => a.1 == key then dict.map fun a => if a.1 = key then (key, value) else a
  else dict ++ [(key, value)]

/-- The key that was set has its value. -/
lemma lookup_dictPut_self (dict : List (α × β)) (key : α) (value : β) :
    (dictPut dict key value).lookup key = some value := by
  unfold dictPut
  split
  · rename_i hany
    induction dict with
    | nil => cases hany
    | cons a rest ih =>
      rw [List.map_cons]
      by_cases heq : a.1 = key
      · rw [if_pos heq, List.lookup_cons, beq_self_eq_true]
      · rw [List.any_cons, beq_eq_false_iff_ne.mpr heq, Bool.false_or] at hany
        rw [if_neg heq, List.lookup_cons, beq_eq_false_iff_ne.mpr (Ne.symm heq)]
        exact ih hany
  · rename_i hany
    rw [List.any_eq_true, not_exists] at hany
    rw [List.lookup_append, List.lookup_eq_none_iff.mpr, Option.none_or, List.lookup_cons,
      beq_self_eq_true]
    intro a ha
    exact bne_iff_ne.mpr fun heq => hany a ⟨ha, beq_iff_eq.mpr heq.symm⟩

/-- Every other key keeps the value it had. -/
lemma lookup_dictPut_of_ne (dict : List (α × β)) {key key' : α} (value : β) (h : key' ≠ key) :
    (dictPut dict key value).lookup key' = dict.lookup key' := by
  have hnew : (key' == key) = false := beq_eq_false_iff_ne.mpr h
  unfold dictPut
  split
  · rename_i hany
    clear hany
    induction dict with
    | nil => rfl
    | cons a rest ih =>
      rw [List.map_cons, List.lookup_cons, List.lookup_cons, ih]
      by_cases heq : a.1 = key
      · rw [if_pos heq, heq, hnew]
      · rw [if_neg heq]
  · rw [List.lookup_append, List.lookup_cons, hnew, List.lookup_nil, Option.or_none]

end SensorHost.Lib
