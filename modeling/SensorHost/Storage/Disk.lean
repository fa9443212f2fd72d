import SensorHost.Storage.Recorder

/-!
# The files of several recorders

A recorder writes to its file at its own place in it, whoever else has the file open, and opening a
file empties it. So the `stream` of a recorder is what its path holds only as long as no other recorder
opens the same path. A disk (`Disk`) says what the paths hold.

Paths that a file system takes for one are spelled the same before they are looked up.

`turn` brings a disk up to date with what one recorder has done, and `turns_sole` is what such turns
make of a path that a single recorder has: it holds the stream of that recorder.
-/

namespace SensorHost.Storage
open SensorHost.Lib SensorHost.Protocol

/-- What the paths hold. -/
abbrev Disk := Path → Bytes

/-- How far two streams agree. -/
def agreement : Bytes → Bytes → Nat
  | a :: as, b :: bs => if a = b then agreement as bs + 1 else 0
  | _, _ => 0

/-- A file behind what a recorder has done to it, whose stream was `old` and is `new`: what is new
stands at its place in the stream, and what a failed writer has lost is gone from there. -/
def rewrite (old new content : Bytes) : Bytes :=
  let kept := agreement old new
  content.take kept ++ List.replicate (kept - content.length) 0 ++ new.drop kept ++
    content.drop (max old.length new.length)

/-- A disk behind what one recorder has done, which was `r` and is `r'`. A recorder that was just
started has emptied its file. -/
def turn (spell : Path → Path) (r r' : RawSessionRecorder) (disk : Disk) : Disk :=
  if r'.path = [] then disk
  else if r.path = [] then Function.update disk (spell r'.path) r'.stream
  else
    Function.update disk (spell r'.path)
      (rewrite r.stream r'.stream (disk (spell r'.path)))

/-- A disk behind what the recorders below `bound` have done, one after the other. -/
def turns (spell : Path → Path) (bound : Nat) (R R' : Recorders) (disk : Disk) : Disk :=
  (List.range bound).foldl (fun disk id => turn spell (R id) (R' id) disk) disk

/-- Up to where they agree, two streams are the same. -/
lemma take_agreement (as bs : Bytes) :
    as.take (agreement as bs) = bs.take (agreement as bs) ∧ agreement as bs ≤ as.length := by
  induction as generalizing bs with
  | nil => exact ⟨rfl, le_rfl⟩
  | cons a as ih =>
    cases bs with
    | nil => exact ⟨rfl, Nat.zero_le _⟩
    | cons b bs =>
      unfold agreement
      split
      · rename_i heq
        obtain ⟨htake, hle⟩ := ih bs
        rw [List.take_succ_cons, List.take_succ_cons, htake, heq]
        exact ⟨rfl, Nat.succ_le_succ hle⟩
      · exact ⟨rfl, Nat.zero_le _⟩

/-- A file that no one else has written to holds the stream again. -/
lemma rewrite_self (old new : Bytes) : rewrite old new old = new := by
  obtain ⟨htake, hle⟩ := take_agreement old new
  unfold rewrite
  dsimp only
  rw [Nat.sub_eq_zero_of_le hle, htake, List.drop_eq_nil_of_le (le_max_left _ _), List.append_nil,
    List.replicate_zero, List.append_nil, List.take_append_drop]

variable {spell : Path → Path} {R R' : Recorders} {bound id : Nat} {disk : Disk}

/-- A recorder of another path leaves this one alone. -/
lemma turn_of_ne {r r' : RawSessionRecorder} {path : Path} (h : r'.path ≠ [] → spell r'.path ≠ path) :
    turn spell r r' disk path = disk path := by
  unfold turn
  split
  · rfl
  · rename_i hopen
    split
    · exact Function.update_of_ne (Ne.symm (h hopen)) _ _
    · exact Function.update_of_ne (Ne.symm (h hopen)) _ _

/-- The path of a recorder holds its stream again, if it did before. -/
lemma turn_self {r r' : RawSessionRecorder} (hopen : r'.path ≠ [])
    (hbefore : r.path ≠ [] → disk (spell r'.path) = r.stream) :
    turn spell r r' disk (spell r'.path) = r'.stream := by
  unfold turn
  rw [if_neg hopen]
  split
  · exact Function.update_self _ _ _
  · rename_i hold
    rw [Function.update_self, hbefore hold]
    exact rewrite_self _ _

/-- Turns of other recorders leave a path alone. -/
lemma foldl_turn_of_ne {path : Path} {ids : List Nat}
    (h : ∀ k ∈ ids, (R' k).path ≠ [] → spell (R' k).path ≠ path) :
    ids.foldl (fun disk id => turn spell (R id) (R' id) disk) disk path = disk path := by
  induction ids generalizing disk with
  | nil => rfl
  | cons k ids ih =>
    rw [List.foldl_cons, ih fun k' hk' => h k' (List.mem_cons_of_mem _ hk'),
      turn_of_ne (h k List.mem_cons_self)]

/-- The path of one recorder alone holds its stream, if it did before. -/
theorem turns_sole (hid : id < bound) (hopen : (R' id).path ≠ [])
    (hsole : ∀ k < bound, k ≠ id → (R' k).path ≠ [] → spell (R' k).path ≠ spell (R' id).path)
    (hbefore : (R id).path ≠ [] → disk (spell (R' id).path) = (R id).stream) :
    turns spell bound R R' disk (spell (R' id).path) = (R' id).stream := by
  obtain ⟨before, after, hsplit⟩ := List.append_of_mem (List.mem_range.mpr hid)
  have hnodup := List.nodup_range (n := bound)
  rw [hsplit] at hnodup
  obtain ⟨-, hafter, happart⟩ := List.nodup_append.mp hnodup
  have hmem : ∀ k, k ∈ before ∨ k ∈ after → k < bound := by
    intro k hk
    rw [← List.mem_range, hsplit]
    exact List.mem_append.mpr (hk.imp_right (List.mem_cons_of_mem _))
  have hother : ∀ k, k ∈ before ∨ k ∈ after → k ≠ id := by
    rintro k (hk | hk) heq
    · exact happart k hk id List.mem_cons_self heq
    · exact (List.nodup_cons.mp hafter).1 (heq ▸ hk)
  have hleft : ∀ disk : Disk, before.foldl (fun disk id => turn spell (R id) (R' id) disk) disk
      (spell (R' id).path) = disk (spell (R' id).path) := fun disk =>
    foldl_turn_of_ne fun k hk => hsole k (hmem k (.inl hk)) (hother k (.inl hk))
  unfold turns
  rw [hsplit, List.foldl_append, List.foldl_cons,
    foldl_turn_of_ne fun k hk => hsole k (hmem k (.inr hk)) (hother k (.inr hk))]
  exact turn_self hopen fun hold => (hleft disk).trans (hbefore hold)

end SensorHost.Storage
