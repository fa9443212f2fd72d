import SensorHost.Lib.Text

/-!
# Numerals

Rendering of integers as the host and its devices print them, and the way back through `int(text,
base)`: decimal numerals (`parseInt_renderNat`) and eight-digit upper-case hexadecimal ones
(`parseInt_renderHex8`).

Python neither reads nor prints an integer of more than `maxStrDigits` decimal digits. The
renderings here are total; that a number is printed at all is `Printable`, and the callers that may
meet one that is not say what they raise then.

The digits come first: each character of a rendered numeral has its value, and is none of the signs,
prefixes, separators and spaces that `int` treats apart. A numeral then reads back digit by digit,
by induction on the number. The last lemmas split a rendered line at its separators.
-/

namespace SensorHost.Lib

/-- `str(n)`, for a number that `str` prints. -/
def renderNat (n : Nat) : Text := Nat.toDigits 10 n

/-- Different numbers are printed differently. -/
lemma renderNat_injective : Function.Injective renderNat := by
  intro m n h
  have hread : Nat.ofDigitChars 10 (renderNat m) 0 = Nat.ofDigitChars 10 (renderNat n) 0 := by rw [h]
  unfold renderNat at hread
  rw [Nat.ofDigitChars_ten_toDigits, Nat.ofDigitChars_ten_toDigits] at hread
  exact hread

/-- An integer that `str` prints: past this many digits it raises `ValueError`. -/
def Printable (i : Int) : Prop := i.natAbs < 10 ^ maxStrDigits

instance (i : Int) : Decidable (Printable i) := Nat.decLt _ _

/-- A number within 64 bits is printed. -/
lemma printable_of_lt {i : Int} (low : -2 ^ 64 < i) (high : i < 2 ^ 64) : Printable i := by
  have hbits : i.natAbs < 2 ^ 64 := by omega
  have hdigits : 2 ^ 64 ≤ 10 ^ 20 := by norm_num
  have hlimit : 10 ^ 20 ≤ 10 ^ maxStrDigits := Nat.pow_le_pow_right (by decide) (by decide)
  exact hbits.trans_le (hdigits.trans hlimit)

/-- `str(i)`, for a printable integer. -/
def renderInt (i : Int) : Text := if i < 0 then '-' :: renderNat i.natAbs else renderNat i.toNat

/-- A hexadecimal digit in upper case. -/
def upperHex (c : Char) : Char := if 'a' ≤ c ∧ c ≤ 'f' then Char.ofNat (c.toNat - 0x20) else c

/-- `f"{n:08X}"`. -/
def renderHex8 (n : Nat) : Text :=
  let digits := (Nat.toDigits 16 n).map upperHex
  List.replicate (8 - digits.length) '0' ++ digits

/-- The ASCII encoding of a text of ASCII characters. -/
def asciiBytes (text : Text) : Bytes := text.map fun c => UInt8.ofNat c.toNat

/-- Every character is ASCII. -/
def IsAscii (text : Text) : Prop := ∀ c ∈ text, c.toNat < 0x80

/-- An ASCII text decodes from its encoding. -/
lemma decodeAscii_asciiBytes {text : Text} (h : IsAscii text) :
    decodeAscii (asciiBytes text) = some text := by
  have hbyte : ∀ c ∈ text, (UInt8.ofNat c.toNat).toNat = c.toNat := by
    intro c hc
    have := h c hc
    rw [UInt8.toNat_ofNat', Nat.mod_eq_of_lt (by omega)]
  have hall : (asciiBytes text).all (· < 0x80) = true := by
    rw [asciiBytes, List.all_map, List.all_eq_true]
    intro c hc
    simp only [Function.comp_apply, decide_eq_true_eq]
    rw [UInt8.lt_iff_toNat_lt, hbyte c hc]
    exact h c hc
  rw [decodeAscii, if_pos hall, asciiBytes, List.map_map]
  congr 1
  conv_rhs => rw [← List.map_id text]
  refine List.map_congr_left fun c hc => ?_
  simp only [Function.comp_apply, id_eq, hbyte c hc]
  exact Char.ofNat_toNat c

/-- The characters of rendered numerals. -/
def numeralChars : Text := "0123456789ABCDEF".toList

/-- `int` sees the characters of a numeral as they are. -/
lemma numeralChars_plain : ∀ c ∈ numeralChars,
    asciiDigitOrSpace c = c ∧ isAsciiSpace c = false ∧ c ≠ '-' ∧ c ≠ '+' ∧ c ≠ '_' ∧ c.toNat < 0x80 ∧
      c ≠ 'x' ∧ c ≠ 'X' ∧ c ≠ 'o' ∧ c ≠ 'O' ∧ c ≠ ',' := by
  decide

/-- No character of a numeral is white space. -/
lemma numeralChars_noSpace : ∀ c ∈ numeralChars, isSpaceChar c = false := by decide

/-- A decimal digit is a character of numerals. -/
lemma digitChar_mem {d : Nat} (h : d < 10) : Nat.digitChar d ∈ numeralChars := by
  interval_cases d <;> decide

/-- So is a hexadecimal digit in upper case. -/
lemma upperHex_mem {d : Nat} (h : d < 16) : upperHex (Nat.digitChar d) ∈ numeralChars := by
  interval_cases d <;> decide

/-- A decimal digit has its value. -/
lemma digitValue_digitChar {d : Nat} (h : d < 10) : digitValue (Nat.digitChar d) = some d := by
  interval_cases d <;> decide

/-- A hexadecimal digit in upper case has its value. -/
lemma digitValue_upperHex {d : Nat} (h : d < 16) :
    digitValue (upperHex (Nat.digitChar d)) = some d := by
  interval_cases d <;> decide

/-- A digit is no underscore. -/
lemma ne_underscore_of_digitValue {c : Char} {d : Nat} (h : digitValue c = some d) : c ≠ '_' := by
  rintro rfl
  have hnone : digitValue '_' = none := by decide
  rw [hnone] at h
  cases h

/-- One more digit at the end. -/
lemma readDigits_concat {base acc a d : Nat} {u : Bool} {cs : Text} {c : Char}
    (h : readDigits base acc u cs = some a) (hd : digitValue c = some d) (hlt : d < base) :
    readDigits base acc u (cs ++ [c]) = some (a * base + d) := by
  have hc := ne_underscore_of_digitValue hd
  induction cs generalizing acc u with
  | nil =>
    cases u with
    | true => simp [readDigits] at h
    | false =>
      simp only [readDigits, Bool.false_eq_true, if_false, Option.some.injEq] at h
      subst h
      simp [readDigits, hd, hlt]
  | cons x cs ih =>
    by_cases hx : x = '_'
    · subst hx
      cases u with
      | true => simp [readDigits] at h
      | false =>
        simp only [readDigits, Bool.false_eq_true, if_false, List.cons_append] at h ⊢
        exact ih h
    · simp only [readDigits, List.cons_append] at h ⊢
      cases hv : digitValue x with
      | none => simp [hv] at h
      | some e =>
        simp only [hv] at h ⊢
        split at h
        · rename_i he
          rw [if_pos he]
          exact ih h
        · cases h

/-- The digits of a number, in any spelling of the digits, read back as the number. -/
lemma readDigits_toDigits {base : Nat} (hb : 1 < base) {spell : Char → Char}
    (hs : ∀ d < base, digitValue (spell (Nat.digitChar d)) = some d) (n : Nat) :
    readDigits base 0 false ((Nat.toDigits base n).map spell) = some n := by
  induction n using Nat.strong_induction_on with
  | _ n ih =>
    rw [Nat.toDigits_eq_if hb]
    split
    · rename_i hlt
      have hne := ne_underscore_of_digitValue (hs n hlt)
      simp [readDigits, hs n hlt, hlt]
    · rename_i hge
      have hmod := Nat.mod_lt n (by omega : base > 0)
      have hdiv := ih (n / base) (Nat.div_lt_self (by omega) hb)
      rw [List.map_append, List.map_singleton, readDigits_concat hdiv (hs _ hmod) hmod,
        Nat.div_add_mod']

/-- Zeros in front change no value. -/
lemma readDigits_zeros {base k : Nat} (hb : 0 < base) (cs : Text) :
    readDigits base 0 false (List.replicate k '0' ++ cs) = readDigits base 0 false cs := by
  induction k with
  | zero => rfl
  | succ k ih =>
    have hv : digitValue '0' = some 0 := by decide
    simp [List.replicate_succ, readDigits, hv, hb, ih]

/-- `int` over characters of numerals only: no sign, no space. -/
lemma parseInt_numeral {base : Nat} {text : Text} (hne : text ≠ [])
    (h : ∀ c ∈ text, c ∈ numeralChars) :
    parseInt base text = (readUnsigned base text).map fun n => (n : Int) := by
  have hmap : text.map asciiDigitOrSpace = text := by
    conv_rhs => rw [← List.map_id text]
    exact List.map_congr_left fun c hc => (numeralChars_plain c (h c hc)).1
  have hstrip : stripBy isAsciiSpace text = text := by
    have hnil : ∀ c ∈ ([] : Text), isAsciiSpace c = true := by simp
    have hall := stripBy_append_of_all hne (numeralChars_plain _ (h _ (List.head_mem hne))).2.1
      (numeralChars_plain _ (h _ (List.getLast_mem hne))).2.1 hnil
    rwa [List.append_nil] at hall
  rw [parseInt, hmap, hstrip]
  obtain ⟨c, cs, rfl⟩ := List.exists_cons_of_ne_nil hne
  have hc := numeralChars_plain c (h c List.mem_cons_self)
  split
  · rename_i heq
    exact absurd (List.cons.inj heq).1 hc.2.2.1
  · rename_i heq
    exact absurd (List.cons.inj heq).1 hc.2.2.2.1
  · rfl

/-- A numeral that is not too long is read digit by digit. -/
lemma readNumeral_eq {base : Nat} {cs : Text} (hne : cs ≠ []) (h : ∀ c ∈ cs, c ∈ numeralChars)
    (hlen : base = 10 → cs.length ≤ maxStrDigits) :
    readNumeral base cs = readDigits base 0 false cs := by
  have hlimit : ¬(base = 10 ∧ (cs.filter (· ≠ '_')).length > maxStrDigits) := by
    rintro ⟨hb, hgt⟩
    have := List.length_filter_le (fun c => decide (c ≠ '_')) cs
    have := hlen hb
    omega
  obtain ⟨c, cs, rfl⟩ := List.exists_cons_of_ne_nil hne
  have hc := (numeralChars_plain c (h c List.mem_cons_self)).2.2.2.2.1
  unfold readNumeral
  split
  · cases ‹_ :: _ = []›
  · rename_i heq
    exact absurd (List.cons.inj heq).1 hc
  · rw [if_neg hlimit]

/-- Decimal numerals are made of their characters. -/
lemma toDigits_mem {n : Nat} : ∀ c ∈ Nat.toDigits 10 n, c ∈ numeralChars := by
  induction n using Nat.strong_induction_on with
  | _ n ih =>
    rw [Nat.toDigits_eq_if (by decide)]
    split
    · rename_i hlt
      simpa using digitChar_mem hlt
    · rename_i hge
      intro c hc
      rcases List.mem_append.mp hc with hc | hc
      · exact ih (n / 10) (by omega) c hc
      · rw [List.mem_singleton.mp hc]
        exact digitChar_mem (Nat.mod_lt n (by decide))

/-- A decimal numeral of more than one digit does not begin with a zero. -/
lemma toDigits_head {n : Nat} (h : n ≠ 0) : (Nat.toDigits 10 n).head? ≠ some '0' := by
  induction n using Nat.strong_induction_on with
  | _ n ih =>
    rw [Nat.toDigits_eq_if (by decide)]
    split
    · simpa using h
    · rename_i hge
      have hdiv := ih (n / 10) (by omega) (by omega)
      rwa [List.head?_append_of_ne_nil _ Nat.toDigits_ne_nil]

/-- A number that is printed reads back. -/
lemma readNumeral_renderNat {n : Nat} (h : n < 10 ^ maxStrDigits) :
    readNumeral 10 (renderNat n) = some n := by
  have hlen : (renderNat n).length ≤ maxStrDigits :=
    (Nat.length_toDigits_le_iff (by decide) (by decide)).mpr h
  have hne : renderNat n ≠ [] := Nat.toDigits_ne_nil
  rw [readNumeral_eq hne toDigits_mem fun _ => hlen]
  have hdigits : ∀ d < 10, digitValue (id (Nat.digitChar d)) = some d :=
    fun d hd => digitValue_digitChar hd
  have hvalue := readDigits_toDigits (by decide) hdigits n
  rwa [List.map_id] at hvalue

/-- `int(str(n), 0)`. -/
theorem parseInt_renderNat {n : Nat} (h : n < 10 ^ maxStrDigits) :
    parseInt 0 (renderNat n) = some (n : Int) := by
  have hne : renderNat n ≠ [] := Nat.toDigits_ne_nil
  have hread := readNumeral_renderNat h
  have hunsigned : readUnsigned 0 (renderNat n) = some n := by
    unfold readUnsigned
    split
    · rename_i x rest heq
      have hhead : (Nat.toDigits 10 n).head? = some '0' := by
        rw [← renderNat, heq]
        rfl
      have hzero : n = 0 := by
        by_contra hn
        exact toDigits_head hn hhead
      subst hzero
      simp [renderNat] at heq
    · simpa using hread
  rw [parseInt_numeral hne toDigits_mem, hunsigned]
  rfl

/-- `int(str(n))`, which fails past the limit of digits. -/
theorem parseInt_ten_renderNat (n : Nat) :
    parseInt 10 (renderNat n) = if n < 10 ^ maxStrDigits then some (n : Int) else none := by
  have hne : renderNat n ≠ [] := Nat.toDigits_ne_nil
  have hunsigned : readUnsigned 10 (renderNat n) = readNumeral 10 (renderNat n) := by
    unfold readUnsigned
    split
    · simp
    · simp
  rw [parseInt_numeral hne toDigits_mem, hunsigned]
  split
  · rename_i h
    rw [readNumeral_renderNat h]
    rfl
  · rename_i h
    have hplain : (renderNat n).filter (· ≠ '_') = renderNat n := by
      refine List.filter_eq_self.mpr fun c hc => decide_eq_true ?_
      exact (numeralChars_plain c (toDigits_mem c hc)).2.2.2.2.1
    have hlong : maxStrDigits < (renderNat n).length := by
      rw [← Nat.not_le]
      exact fun hle => h ((Nat.length_toDigits_le_iff (by decide) (by decide)).mp hle)
    have hnone : readNumeral 10 (renderNat n) = none := by
      unfold readNumeral
      split
      · rfl
      · rfl
      · rw [hplain, if_pos ⟨rfl, hlong⟩]
    rw [hnone]
    rfl

/-- A printed number is all decimal digits. -/
lemma isDecimal_renderNat (n : Nat) : isDecimal (renderNat n) = true := by
  have hne : renderNat n ≠ [] := Nat.toDigits_ne_nil
  rw [isDecimal, Bool.and_eq_true, List.all_eq_true]
  refine ⟨by simpa using hne, fun c hc => ?_⟩
  have hdigit := Nat.isDigit_of_mem_toDigits (by decide) (by decide) hc
  rw [Char.isDigit, Bool.and_eq_true, decide_eq_true_eq, decide_eq_true_eq] at hdigit
  rw [decimalValue, Option.isSome_map, List.find?_isSome]
  refine ⟨0x30, by decide, ?_⟩
  rw [Bool.and_eq_true, decide_eq_true_eq, decide_eq_true_eq]
  exact hdigit

/-- Hexadecimal numerals are made of their characters. -/
lemma toDigits16_mem {n : Nat} : ∀ c ∈ (Nat.toDigits 16 n).map upperHex, c ∈ numeralChars := by
  induction n using Nat.strong_induction_on with
  | _ n ih =>
    rw [Nat.toDigits_eq_if (by decide)]
    split
    · rename_i hlt
      simpa using upperHex_mem hlt
    · intro c hc
      rw [List.map_append] at hc
      rcases List.mem_append.mp hc with hc | hc
      · exact ih (n / 16) (by omega) c hc
      · rw [List.mem_singleton.mp hc]
        exact upperHex_mem (Nat.mod_lt n (by decide))

/-- Also where they are filled up with zeros. -/
lemma renderHex8_mem {n : Nat} : ∀ c ∈ renderHex8 n, c ∈ numeralChars := by
  intro c hc
  rcases List.mem_append.mp hc with hc | hc
  · rw [(List.mem_replicate.mp hc).2]
    decide
  · exact toDigits16_mem c hc

/-- `int(f"{n:08X}", 16)`. -/
theorem parseInt_renderHex8 (n : Nat) : parseInt 16 (renderHex8 n) = some (n : Int) := by
  have hmem : ∀ c ∈ renderHex8 n, c ∈ numeralChars := renderHex8_mem
  have hne : renderHex8 n ≠ [] := by simp [renderHex8]
  have hread : readNumeral 16 (renderHex8 n) = some n := by
    rw [readNumeral_eq hne hmem fun h => absurd h (by decide), renderHex8,
      readDigits_zeros (by decide)]
    exact readDigits_toDigits (by decide) (fun d hd => digitValue_upperHex hd) n
  have hunsigned : readUnsigned 16 (renderHex8 n) = some n := by
    unfold readUnsigned
    split
    · rename_i x rest heq
      have hx := numeralChars_plain x (hmem x (by rw [heq]; simp))
      simp [hx, hread]
    · simpa using hread
  rw [parseInt_numeral hne hmem, hunsigned]
  rfl

/-- Without a separator there is one part. -/
lemma splitOn_of_not_mem {sep : Char} {cs : Text} (h : sep ∉ cs) : splitOn sep cs = [cs] := by
  induction cs with
  | nil => rfl
  | cons c cs ih =>
    rw [List.mem_cons, not_or] at h
    simp [splitOn, Ne.symm h.1, ih h.2]

/-- The first separator ends the first part. -/
lemma splitOn_append {sep : Char} {cs : Text} (h : sep ∉ cs) (rest : Text) :
    splitOn sep (cs ++ sep :: rest) = cs :: splitOn sep rest := by
  induction cs with
  | nil => simp [splitOn]
  | cons c cs ih =>
    rw [List.mem_cons, not_or] at h
    simp [splitOn, Ne.symm h.1, ih h.2]

/-- A split has at least one part. -/
lemma splitOn_ne_nil (sep : Char) (text : Text) : splitOn sep text ≠ [] := by
  cases text with
  | nil => exact List.cons_ne_nil _ _
  | cons c text =>
    rw [splitOn]
    split
    · exact List.cons_ne_nil _ _
    · cases splitOn sep text with
      | nil => exact List.cons_ne_nil _ _
      | cons part parts => exact List.cons_ne_nil _ _

/-- Parts without separators are split as they were joined. -/
lemma splitOn_intercalate {sep : Char} {parts : List Text} (hne : parts ≠ [])
    (h : ∀ part ∈ parts, sep ∉ part) : splitOn sep ([sep].intercalate parts) = parts := by
  induction parts with
  | nil => exact absurd rfl hne
  | cons part parts ih =>
    have hpart := h part List.mem_cons_self
    cases parts with
    | nil =>
      rw [List.intercalate_singleton]
      exact splitOn_of_not_mem hpart
    | cons next parts =>
      have hrest := ih (List.cons_ne_nil _ _) fun p hp => h p (List.mem_cons_of_mem _ hp)
      rw [List.intercalate_cons_cons, List.append_assoc, List.singleton_append,
        splitOn_append hpart, hrest]

/-- The first separator splits the text in two. -/
lemma splitOnce_append {sep : Char} {cs : Text} (h : sep ∉ cs) (rest : Text) :
    splitOnce sep (cs ++ sep :: rest) = some (cs, rest) := by
  induction cs with
  | nil => simp [splitOnce]
  | cons c cs ih =>
    rw [List.mem_cons, not_or] at h
    simp [splitOnce, Ne.symm h.1, ih h.2]

end SensorHost.Lib
