import Mathlib.Data.List.TakeWhile
import Mathlib.Tactic

/-!
# Byte strings

Byte strings as lists of `UInt8`. Little-endian fields are read (`leNat`, `leField`) and written
(`leBytes`), and either direction inverts the other within the width of the field.

The leftmost search (`find`) is that of `bytes.find`, with its two equations for a match at the head
and a search behind it. `stripBy` removes from both ends what satisfies a predicate; `bytes.strip`
is its instance at ASCII white space, and the text library has two more.
-/

namespace SensorHost.Lib

/-- A byte string. -/
abbrev Bytes := List UInt8

/-- The unsigned little-endian value of a byte string. -/
def leNat : Bytes → Nat
  | [] => 0
  | b :: bs => b.toNat + 256 * leNat bs

/-- The `width` low bytes of a value, least significant first. -/
def leBytes : Nat → Nat → Bytes
  | 0, _ => []
  | width + 1, v => UInt8.ofNat v :: leBytes width (v / 256)

/-- The unsigned field of `width` bytes at `offset`. -/
def leField (bs : Bytes) (offset width : Nat) : Nat := leNat ((bs.drop offset).take width)

/-- A field has the bytes it was given. -/
@[simp] lemma length_leBytes (width v : Nat) : (leBytes width v).length = width := by
  induction width generalizing v with
  | zero => rfl
  | succ width ih => simp [leBytes, ih]

/-- What a field reads fits its width. -/
lemma leNat_lt (bs : Bytes) : leNat bs < 256 ^ bs.length := by
  induction bs with
  | nil => simp [leNat]
  | cons b bs ih =>
    have hb : b.toNat < 256 := b.toNat_lt
    simp only [leNat, List.length_cons, pow_succ]
    omega

/-- A number read back is cut down to the width of its field. -/
lemma leNat_leBytes (width v : Nat) : leNat (leBytes width v) = v % 256 ^ width := by
  induction width generalizing v with
  | zero => simp [leBytes, leNat, Nat.mod_one]
  | succ width ih =>
    have hb : (UInt8.ofNat v).toNat = v % 256 := by simp [UInt8.toNat_ofNat']
    rw [leBytes, leNat, ih, hb, Nat.pow_succ, Nat.mul_comm (256 ^ width), Nat.mod_mul]

/-- A number that fits its field reads back. -/
lemma leNat_leBytes_of_lt {width v : Nat} (h : v < 256 ^ width) : leNat (leBytes width v) = v := by
  rw [leNat_leBytes, Nat.mod_eq_of_lt h]

/-- Bytes are the field of what they read. -/
lemma leBytes_leNat (bs : Bytes) : leBytes bs.length (leNat bs) = bs := by
  induction bs with
  | nil => rfl
  | cons b bs ih =>
    have hb : b.toNat < 256 := b.toNat_lt
    have hmod : UInt8.ofNat (b.toNat + 256 * leNat bs) = b := by
      apply UInt8.toNat_inj.mp
      rw [UInt8.toNat_ofNat']
      omega
    have hdiv : (b.toNat + 256 * leNat bs) / 256 = leNat bs := by omega
    simp only [leNat, List.length_cons, leBytes, hmod, hdiv, ih]

/-- A field that lies inside a prefix is not changed by what follows the prefix. -/
lemma leField_append {bs : Bytes} {offset width : Nat} (h : offset + width ≤ bs.length)
    (cs : Bytes) : leField (bs ++ cs) offset width = leField bs offset width := by
  unfold leField
  rw [List.drop_append_of_le_length (by omega),
    List.take_append_of_le_length (by rw [List.length_drop]; omega)]

/-- A field behind a prefix. -/
lemma leField_append_right {pre : Bytes} {n : Nat} (h : pre.length = n) (bs : Bytes)
    (offset width : Nat) : leField (pre ++ bs) (n + offset) width = leField bs offset width := by
  rw [leField, ← h, List.drop_length_add_append, leField]

/-- A field behind a header is the same field without it. -/
lemma leField_append_ge {pre bs : Bytes} {offset width : Nat} (h : pre.length ≤ offset) :
    leField (pre ++ bs) offset width = leField bs (offset - pre.length) width := by
  have hskip : leField (pre ++ bs) (pre.length + (offset - pre.length)) width = _ :=
    leField_append_right rfl bs (offset - pre.length) width
  rwa [Nat.add_sub_cancel' h] at hskip

/-- Reading a field where it was written. -/
lemma leField_leBytes (width v : Nat) (post : Bytes) :
    leField (leBytes width v ++ post) 0 width = v % 256 ^ width := by
  rw [leField, List.drop_zero, List.take_left' (length_leBytes width v), leNat_leBytes]

/-- A prefix that ends with a field. -/
lemma take_add_field {bs : Bytes} {offset width : Nat} (h : offset + width ≤ bs.length) :
    bs.take (offset + width) = bs.take offset ++ leBytes width (leField bs offset width) := by
  have hlen : ((bs.drop offset).take width).length = width := by
    rw [List.length_take, List.length_drop]
    exact min_eq_left (Nat.le_sub_of_add_le' h)
  have hfield := leBytes_leNat ((bs.drop offset).take width)
  rw [hlen] at hfield
  rw [List.take_add, leField, hfield]

/-- A prefix that ends with a slice. -/
lemma take_add_slice (bs : Bytes) (offset width : Nat) :
    bs.take (offset + width) = bs.take offset ++ (bs.take (offset + width)).drop offset := by
  conv_lhs => rw [← List.take_append_drop offset (bs.take (offset + width))]
  rw [List.take_take, min_eq_left (Nat.le_add_right offset width)]

/-- A slice of three concatenated pieces. -/
lemma drop_take_append {a b : Nat} (pre mid post : Bytes) (ha : pre.length = a)
    (hb : (pre ++ mid).length = b) : ((pre ++ mid ++ post).take b).drop a = mid := by
  rw [List.take_left' hb, List.drop_left' ha]

/-- The leftmost position at which `pat` occurs. -/
def find (pat : Bytes) : Bytes → Option Nat
  | [] => if pat.isPrefixOf [] then some 0 else none
  | b :: bs => if pat.isPrefixOf (b :: bs) then some 0 else (find pat bs).map (· + 1)

/-- A pattern at the head is found there. -/
lemma find_of_prefix {pat bs : Bytes} (h : pat <+: bs) : find pat bs = some 0 := by
  cases bs <;> simp [find, List.isPrefixOf_iff_prefix.mpr h]

/-- Where the head does not match, the search goes on behind it. -/
lemma find_cons_of_no_match {pat : Bytes} {b : UInt8} {bs : Bytes} (h : ¬ pat <+: b :: bs) :
    find pat (b :: bs) = (find pat bs).map (· + 1) := by
  simp [find, h]

/-- ASCII whitespace, as `bytes.strip` sees it: tab, LF, VT, FF, CR and space. -/
def isSpaceByte (b : UInt8) : Bool := b == 0x20 || (0x09 ≤ b && b ≤ 0x0D)

/-- The list without the elements that satisfy `p` at either end. -/
def stripBy {α : Type*} (p : α → Bool) (xs : List α) : List α :=
  ((xs.dropWhile p).reverse.dropWhile p).reverse

/-- `bytes.strip()`. -/
def stripBytes (bs : Bytes) : Bytes := stripBy isSpaceByte bs

/-- Stripping a list that starts with a core of visible ends only strips behind the core. -/
lemma stripBy_append {α : Type*} {p : α → Bool} {core : List α} (hne : core ≠ [])
    (head : p (core.head hne) = false) (last : p (core.getLast hne) = false) (tail : List α) :
    stripBy p (core ++ tail) = core ++ (tail.reverse.dropWhile p).reverse := by
  have hleft : (core ++ tail).dropWhile p = core ++ tail := by
    cases core with
    | nil => exact absurd rfl hne
    | cons c core => simp [show p c = false from head]
  have hcore : core.reverse.dropWhile p = core.reverse := by
    cases hr : core.reverse with
    | nil => rfl
    | cons c rest =>
      have hc : c = core.getLast hne := by
        rw [← List.head_reverse (by simpa using hne)]
        simp [hr]
      simp [hc, last]
  rw [stripBy, hleft, List.reverse_append, List.dropWhile_append, hcore]
  split
  · rename_i hempty
    rw [List.isEmpty_iff.mp hempty]
    simp
  · simp

/-- A tail that is stripped as a whole leaves the core. -/
lemma stripBy_append_of_all {α : Type*} {p : α → Bool} {core : List α} (hne : core ≠ [])
    (head : p (core.head hne) = false) (last : p (core.getLast hne) = false) {tail : List α}
    (h : ∀ x ∈ tail, p x = true) : stripBy p (core ++ tail) = core := by
  have htail : tail.reverse.dropWhile p = [] := by
    rw [List.dropWhile_eq_nil_iff]
    intro x hx
    exact h x (List.mem_reverse.mp hx)
  rw [stripBy_append hne head last, htail, List.reverse_nil, List.append_nil]

end SensorHost.Lib
