import SensorHost.Acquisition.Sessions

/-!
# The text of a UUID

The 32 digits of a UUID tell it apart from any other (`uuidHex_injective`), and so does its text
with hyphens (`uuidText_injective`).

A digit gives back its value, and so the digits the number (`mod_eq_of_digits`). Without its hyphens
the text is the digits (`filter_uuidText`), since none of them is a hyphen.
-/

namespace SensorHost.Acquisition
open SensorHost.Lib SensorHost.Protocol

/-- Digits are told apart. -/
lemma digitChar_injective : ∀ a < 16, ∀ b < 16, Nat.digitChar a = Nat.digitChar b → a = b := by
  decide

/-- No digit is a hyphen. -/
lemma digitChar_ne_hyphen : ∀ a < 16, Nat.digitChar a ≠ '-' := by decide

/-- Numbers with equal low digits agree that far. -/
lemma mod_eq_of_digits {a b base : Nat} (n : Nat)
    (h : ∀ k < n, a / base ^ k % base = b / base ^ k % base) : a % base ^ n = b % base ^ n := by
  induction n with
  | zero => rw [pow_zero, Nat.mod_one, Nat.mod_one]
  | succ n ih =>
    rw [Nat.mod_pow_succ, Nat.mod_pow_succ, h n (Nat.lt_succ_self n),
      ih fun k hk => h k (hk.trans (Nat.lt_succ_self n))]

/-- There are 32 of them. -/
lemma length_uuidHex (uuid : Uuid) : (uuidHex uuid).length = 32 := by
  unfold uuidHex
  rw [List.length_map, List.length_range]

/-- UUIDs are told apart by their digits. -/
theorem uuidHex_injective {u v : Uuid} (h : uuidHex u = uuidHex v) : u = v := by
  unfold uuidHex at h
  have hdigits : ∀ k < 32, u.toNat / 16 ^ k % 16 = v.toNat / 16 ^ k % 16 := by
    intro k hk
    have hchar := List.map_inj_left.mp h (31 - k) (List.mem_range.mpr (by omega))
    rw [show 31 - (31 - k) = k by omega] at hchar
    exact digitChar_injective _ (Nat.mod_lt _ (by decide)) _ (Nat.mod_lt _ (by decide)) hchar
  have hmod := mod_eq_of_digits 32 hdigits
  have hu : u.toNat < 16 ^ 32 := u.isLt
  have hv : v.toNat < 16 ^ 32 := v.isLt
  rw [Nat.mod_eq_of_lt hu, Nat.mod_eq_of_lt hv] at hmod
  exact BitVec.eq_of_toNat_eq hmod

/-- There is no hyphen among the digits. -/
lemma hyphen_not_mem_uuidHex (uuid : Uuid) : '-' ∉ uuidHex uuid := by
  unfold uuidHex
  intro h
  obtain ⟨i, -, heq⟩ := List.mem_map.mp h
  exact digitChar_ne_hyphen _ (Nat.mod_lt _ (by decide)) heq

/-- Without its hyphens the text is the digits, as `str(uuid).replace("-", "")`. -/
lemma filter_uuidText (uuid : Uuid) : (uuidText uuid).filter (· ≠ '-') = uuidHex uuid := by
  have hkeep : ∀ part : Text, (∀ ch ∈ part, ch ∈ uuidHex uuid) → part.filter (· ≠ '-') = part := by
    intro part hpart
    rw [List.filter_eq_self]
    intro ch hch
    refine decide_eq_true ?_
    rintro rfl
    exact hyphen_not_mem_uuidHex uuid (hpart _ hch)
  have htake : ∀ i n, (((uuidHex uuid).drop i).take n).filter (· ≠ '-') =
      ((uuidHex uuid).drop i).take n :=
    fun i n => hkeep _ fun ch hch => List.mem_of_mem_drop (List.mem_of_mem_take hch)
  have hhead : ((uuidHex uuid).take 8).filter (· ≠ '-') = (uuidHex uuid).take 8 :=
    hkeep _ fun ch hch => List.mem_of_mem_take hch
  have hlast : ((uuidHex uuid).drop 20).filter (· ≠ '-') = (uuidHex uuid).drop 20 :=
    hkeep _ fun ch hch => List.mem_of_mem_drop hch
  have hskip : ∀ part : Text, ('-' :: part).filter (· ≠ '-') = part.filter (· ≠ '-') :=
    fun part => List.filter_cons_of_neg (by simp)
  have hsplit : ∀ i n, ((uuidHex uuid).drop i).take n ++ (uuidHex uuid).drop (i + n) =
      (uuidHex uuid).drop i := by
    intro i n
    rw [← List.drop_drop]
    exact List.take_append_drop n _
  unfold uuidText
  dsimp only
  rw [List.filter_append, List.filter_append, List.filter_append, List.filter_append, hskip, hskip,
    hskip, hskip, hhead, hlast, htake, htake, htake, List.append_assoc, hsplit 16 4,
    List.append_assoc, hsplit 12 4, List.append_assoc, hsplit 8 4]
  exact List.take_append_drop 8 _

/-- UUIDs are told apart by their texts. -/
theorem uuidText_injective {u v : Uuid} (h : uuidText u = uuidText v) : u = v := by
  refine uuidHex_injective ?_
  rw [← filter_uuidText, ← filter_uuidText, h]

end SensorHost.Acquisition
