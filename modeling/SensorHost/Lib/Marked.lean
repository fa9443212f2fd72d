import SensorHost.Lib.Scanner

/-!
# Marked streams

A stream of items in which every element carries a mark of the item it belongs to. Cutting the
stream into chunks cuts the marks along, so that a chunk can be told what it holds: `keep` is a
chunk without its marked elements, and `keep_markStream` says that keeping is the same as leaving
out the marked items.

A cut falls between two items or inside one (`cut_markStream`), and what is left of an item there
stays part of it when the marks are dropped (`Partial.unmark`) or the marked elements are
(`Partial.keep`). `marks_of_chunk` says that a chunk without marks ends, completes and begins
unmarked items only.
-/

namespace SensorHost.Lib

variable {ι α : Type*}

/-- The elements of an item, each with the mark of the item. -/
def markItem (bytes : ι → List α) (mark : ι → Bool) (it : ι) : List (α × Bool) :=
  (bytes it).map (·, mark it)

/-- The marked elements of a sequence of items. -/
def markStream (bytes : ι → List α) (mark : ι → Bool) (items : List ι) : List (α × Bool) :=
  (items.map (markItem bytes mark)).flatten

/-- The elements without their marks. -/
def unmark (xs : List (α × Bool)) : List α := xs.map Prod.fst

/-- The elements that carry no mark. -/
def keep (xs : List (α × Bool)) : List α := (xs.filter fun x => !x.2).map Prod.fst

/-- The elements of a concatenation. -/
@[simp] lemma unmark_append (xs ys : List (α × Bool)) : unmark (xs ++ ys) = unmark xs ++ unmark ys :=
  List.map_append

/-- The unmarked elements of a concatenation. -/
@[simp] lemma keep_append (xs ys : List (α × Bool)) : keep (xs ++ ys) = keep xs ++ keep ys := by
  simp [keep]

variable {bytes : ι → List α} {mark : ι → Bool}

/-- Marking an item leaves its elements as they are. -/
lemma unmark_markItem (it : ι) : unmark (markItem bytes mark it) = bytes it := by
  simp [unmark, markItem, Function.comp_def]

/-- Every element of an item carries the mark of the item. -/
lemma mark_of_mem {it : ι} {x : α × Bool} (h : x ∈ markItem bytes mark it) : x.2 = mark it := by
  obtain ⟨a, -, rfl⟩ := List.mem_map.mp h
  rfl

/-- Marking a stream leaves its elements as they are. -/
lemma unmark_markStream (items : List ι) :
    unmark (markStream bytes mark items) = (items.map bytes).flatten := by
  simp [unmark, markStream, markItem, List.map_flatten, Function.comp_def]

/-- Where nothing is marked, everything is kept. -/
lemma keep_eq_unmark {xs : List (α × Bool)} (h : ∀ x ∈ xs, x.2 = false) : keep xs = unmark xs := by
  rw [keep, List.filter_eq_self.mpr fun x hx => by simp [h x hx], unmark]

/-- Where everything is marked, nothing is kept. -/
lemma keep_eq_nil {xs : List (α × Bool)} (h : ∀ x ∈ xs, x.2 = true) : keep xs = [] := by
  rw [keep, List.filter_eq_nil_iff.mpr fun x hx => by simp [h x hx], List.map_nil]

/-- Keeping what is not marked keeps the items that are not marked. -/
lemma keep_markStream (items : List ι) :
    keep (markStream bytes mark items) = ((items.filter fun it => !mark it).map bytes).flatten := by
  induction items with
  | nil => rfl
  | cons it items ih =>
    have hcons : markStream bytes mark (it :: items) =
        markItem bytes mark it ++ markStream bytes mark items := rfl
    rw [hcons, keep_append, ih]
    cases hm : mark it with
    | true =>
      have hnil : keep (markItem bytes mark it) = [] :=
        keep_eq_nil fun x hx => (mark_of_mem hx).trans hm
      rw [hnil, List.filter_cons_of_neg (by simp [hm]), List.nil_append]
    | false =>
      have hall : keep (markItem bytes mark it) = bytes it := by
        rw [keep_eq_unmark fun x hx => (mark_of_mem hx).trans hm, unmark_markItem]
      rw [hall, List.filter_cons_of_pos (by simp [hm]), List.map_cons, List.flatten_cons]

/-- A cut of a marked stream falls between two items or inside one. -/
lemma cut_markStream {items : List ι} {a b : List (α × Bool)}
    (h : a ++ b = markStream bytes mark items) :
    ∃ done todo p, items = done ++ todo ∧ a = markStream bytes mark done ++ p ∧
      p ++ b = markStream bytes mark todo ∧ Partial p (todo.map (markItem bytes mark)) := by
  obtain ⟨done', todo', p, hsplit, ha, hb, hp⟩ := cut_flatten _ h
  obtain ⟨done, todo, rfl, rfl, rfl⟩ := List.map_eq_append_iff.mp hsplit
  exact ⟨done, todo, p, rfl, ha, hb, hp⟩

/-- The part of an item without its marks is a part of the item. -/
lemma Partial.unmark {p : List (α × Bool)} {todo : List ι}
    (h : Partial p (todo.map (markItem bytes mark))) : Partial (unmark p) (todo.map bytes) := by
  rcases h with rfl | ⟨it', rest', htodo, hpre, hlt⟩
  · exact .inl rfl
  · obtain ⟨it, rest, rfl, rfl, rfl⟩ := List.map_eq_cons_iff.mp htodo
    refine .inr ⟨bytes it, rest.map bytes, rfl, ?_, ?_⟩
    · have hmap := hpre.map Prod.fst
      rwa [show (markItem bytes mark it).map Prod.fst = bytes it from unmark_markItem it] at hmap
    · simpa [SensorHost.Lib.unmark, markItem] using hlt

/-- Of the part of an item, what is kept is a part of the first item that is kept. -/
lemma Partial.keep {p : List (α × Bool)} {todo : List ι}
    (h : Partial p (todo.map (markItem bytes mark))) :
    Partial (keep p) ((todo.filter fun it => !mark it).map bytes) := by
  have hunmark := h.unmark
  rcases h with rfl | ⟨it', rest', htodo, hpre, hlt⟩
  · exact .inl rfl
  · obtain ⟨it, rest, rfl, rfl, rfl⟩ := List.map_eq_cons_iff.mp htodo
    have hmarks : ∀ x ∈ p, x.2 = mark it := fun x hx => mark_of_mem (hpre.subset hx)
    cases hm : mark it with
    | true => exact .inl (keep_eq_nil fun x hx => (hmarks x hx).trans hm)
    | false =>
      rw [keep_eq_unmark fun x hx => (hmarks x hx).trans hm]
      rcases hunmark with hnil | ⟨b, bs, hb, hpre', hlt'⟩
      · exact .inl hnil
      · obtain ⟨rfl, -⟩ := List.cons.inj hb
        exact .inr ⟨_, _, by rw [List.filter_cons_of_pos (by simp [hm])]; rfl, hpre', hlt'⟩

/-- A whole stream leaves no part of an item. -/
lemma Partial.complete {p : List (α × Bool)} {todo : List ι} (hne : ∀ it, bytes it ≠ [])
    (h : Partial p (todo.map (markItem bytes mark))) (hp : p = markStream bytes mark todo) :
    todo = [] ∧ p = [] := by
  cases todo with
  | nil => exact ⟨rfl, hp⟩
  | cons it rest =>
    have hpos : 0 < (markItem bytes mark it).length := by
      simpa [markItem, List.length_pos_iff] using hne it
    have hlen := congrArg List.length hp
    simp only [markStream, List.map_cons, List.flatten_cons, List.length_append] at hlen
    rcases h with rfl | ⟨it', rest', htodo, -, hlt⟩
    · simp only [List.length_nil] at hlen
      omega
    · obtain ⟨rfl, -⟩ := List.cons.inj htodo
      omega

/-- A chunk without marks ends, completes and begins unmarked items only. -/
lemma marks_of_chunk {p chunk later : List (α × Bool)} {todo : List ι}
    (hp : Partial p (todo.map (markItem bytes mark)))
    (h : p ++ chunk ++ later = markStream bytes mark todo) (hne : chunk ≠ [])
    (hchunk : ∀ x ∈ chunk, x.2 = false) : ∀ x ∈ p ++ chunk, x.2 = false := by
  intro x hx
  rcases List.mem_append.mp hx with hxp | hxc
  · rcases hp with rfl | ⟨it', rest', htodo, hpre, hlt⟩
    · cases hxp
    · -- the item begun before the chunk has its next element in the chunk
      obtain ⟨it, rest, rfl, rfl, rfl⟩ := List.map_eq_cons_iff.mp htodo
      obtain ⟨t, ht⟩ := hpre
      obtain ⟨y, chunk, rfl⟩ := List.exists_cons_of_ne_nil hne
      obtain ⟨z, t, rfl⟩ : ∃ z t', t = z :: t' := by
        refine List.exists_cons_of_ne_nil fun hnil => ?_
        rw [hnil, List.append_nil] at ht
        rw [ht] at hlt
        exact lt_irrefl _ hlt
      rw [markStream, List.map_cons, List.flatten_cons, ← ht, List.append_assoc, List.append_assoc]
        at h
      obtain ⟨rfl, -⟩ := List.cons.inj (List.append_cancel_left h)
      have hy : y ∈ markItem bytes mark it := by
        rw [← ht]
        simp
      have hx' : x ∈ markItem bytes mark it := by
        rw [← ht]
        exact List.mem_append_left _ hxp
      rw [mark_of_mem hx', ← mark_of_mem hy]
      exact hchunk y List.mem_cons_self
  · exact hchunk x hxc

/-- Items whose elements carry no mark are unmarked. -/
lemma unmarked_of_markStream {items : List ι} (hne : ∀ it, bytes it ≠ [])
    (h : ∀ x ∈ markStream bytes mark items, x.2 = false) : ∀ it ∈ items, mark it = false := by
  intro it hit
  obtain ⟨a, ha⟩ := List.exists_mem_of_ne_nil _ (hne it)
  have hmem : (a, mark it) ∈ markItem bytes mark it := List.mem_map.mpr ⟨a, ha, rfl⟩
  exact h _ (List.mem_flatten.mpr ⟨_, List.mem_map.mpr ⟨it, hit, rfl⟩, hmem⟩)

end SensorHost.Lib
