import SensorHost.Acquisition.UuidText
import SensorHost.Protocol.Rendering

/-!
# The reply with the UUID

`uuid.UUID` reads back the text of every UUID (`ofText_uuidText`), so the `+UUID:` reply of a device
sets its UUID and where it comes from, and nothing else (`updatedFromCli_uuid`).

The text is put together from 32 digits with four hyphens. Reading removes the hyphens, checks the
length and reads a number in base 16 (`parseInt_uuidHex`). The reply is one line with a key for the
source behind the UUID; `replySays_uuid` says what it says, for every source that is a word.
-/

namespace SensorHost.Acquisition
open SensorHost.Lib SensorHost.Protocol

/-- The characters of hexadecimal numerals in lower case. -/
def hexChars : Text := "0123456789abcdef".toList

/-- `int` sees the characters as they are. -/
lemma hexChars_plain : ∀ c ∈ hexChars,
    asciiDigitOrSpace c = c ∧ isAsciiSpace c = false ∧ c ≠ '-' ∧ c ≠ '+' ∧ c ≠ '_' ∧ c ≠ 'x' ∧
      c ≠ 'X' ∧ c ≠ 'u' ∧ c ≠ '\x7b' ∧ c ≠ '\x7d' ∧ c ≠ ',' := by
  decide

/-- A digit is a hexadecimal one. -/
lemma hexDigitChar_mem {d : Nat} (h : d < 16) : Nat.digitChar d ∈ hexChars := by
  interval_cases d <;> decide

/-- It has its value. -/
lemma digitValue_hexDigitChar {d : Nat} (h : d < 16) :
    digitValue (Nat.digitChar d) = some d := by
  interval_cases d <;> decide

/-- A UUID is written in hexadecimal digits. -/
lemma mem_uuidHex {uuid : Uuid} : ∀ c ∈ uuidHex uuid, c ∈ hexChars := by
  intro c hc
  obtain ⟨i, -, rfl⟩ := List.mem_map.mp hc
  exact hexDigitChar_mem (Nat.mod_lt _ (by decide))

/-- Its text has hyphens besides. -/
lemma mem_uuidText {uuid : Uuid} : ∀ c ∈ uuidText uuid, c = '-' ∨ c ∈ hexChars := by
  intro c hc
  by_cases hyphen : c = '-'
  · exact .inl hyphen
  · have hmem : c ∈ (uuidText uuid).filter (· ≠ '-') := List.mem_filter.mpr ⟨hc, by simpa⟩
    rw [filter_uuidText] at hmem
    exact .inr (mem_uuidHex c hmem)

/-- The last `k` digits of a number, the highest first, read back. -/
lemma readDigits_low (k n : Nat) :
    readDigits 16 0 false ((List.range k).map fun i => Nat.digitChar (n / 16 ^ (k - 1 - i) % 16)) =
      some (n % 16 ^ k) := by
  induction k generalizing n with
  | zero =>
    rw [pow_zero, Nat.mod_one]
    rfl
  | succ k ih =>
    have hshift : ((List.range k).map fun i => Nat.digitChar (n / 16 ^ (k + 1 - 1 - i) % 16)) =
        (List.range k).map fun i => Nat.digitChar (n / 16 / 16 ^ (k - 1 - i) % 16) := by
      refine List.map_congr_left fun i hi => ?_
      have hlt : i < k := List.mem_range.mp hi
      rw [Nat.div_div_eq_div_mul, ← Nat.pow_succ', show k + 1 - 1 - i = k - 1 - i + 1 by omega]
    rw [List.range_succ, List.map_append, hshift, List.map_singleton, Nat.add_sub_cancel,
      Nat.sub_self, pow_zero, Nat.div_one]
    have hlast : n % 16 < 16 := Nat.mod_lt n (by decide)
    rw [readDigits_concat (ih (n / 16)) (digitValue_hexDigitChar hlast) hlast, Nat.pow_succ',
      Nat.mod_mul, Nat.add_comm, Nat.mul_comm]

/-- The digits are read back as the UUID. -/
lemma parseInt_uuidHex (uuid : Uuid) : parseInt 16 (uuidHex uuid) = some (uuid.toNat : Int) := by
  have hne : uuidHex uuid ≠ [] := List.ne_nil_of_length_pos (by rw [length_uuidHex]; decide)
  have hread : readDigits 16 0 false (uuidHex uuid) = some uuid.toNat := by
    have hlow := readDigits_low 32 uuid.toNat
    rw [Nat.mod_eq_of_lt (show uuid.toNat < 16 ^ 32 from uuid.isLt)] at hlow
    exact hlow
  have hmap : (uuidHex uuid).map asciiDigitOrSpace = uuidHex uuid := by
    conv_rhs => rw [← List.map_id (uuidHex uuid)]
    exact List.map_congr_left fun c hc => (hexChars_plain c (mem_uuidHex c hc)).1
  have hstrip : stripBy isAsciiSpace (uuidHex uuid) = uuidHex uuid :=
    stripBy_eq_self fun c hc => (hexChars_plain c (mem_uuidHex c hc)).2.1
  rw [parseInt, hmap, hstrip]
  have hmem : ∀ c ∈ uuidHex uuid, c ∈ hexChars := mem_uuidHex
  revert hread hmem hne
  generalize uuidHex uuid = text
  intro hne hread hmem
  -- no sign, no base, no underscore
  have hnumeral : readNumeral 16 text = some uuid.toNat := by
    obtain ⟨c, cs, rfl⟩ := List.exists_cons_of_ne_nil hne
    have hc := hexChars_plain c (hmem c List.mem_cons_self)
    unfold readNumeral
    split
    · cases ‹_ :: _ = []›
    · rename_i heq
      exact absurd (List.cons.inj heq).1 hc.2.2.2.2.1
    · rw [if_neg fun h => absurd h.1 (by decide)]
      exact hread
  have hunsigned : readUnsigned 16 text = some uuid.toNat := by
    unfold readUnsigned
    split
    · rename_i x rest
      have hx := hexChars_plain x (hmem x (List.mem_cons_of_mem _ List.mem_cons_self))
      rw [if_neg fun h => h.2.elim hx.2.2.2.2.2.1 hx.2.2.2.2.2.2.1, if_neg fun h => absurd h.1 (by decide),
        if_neg fun h => absurd h.1 (by decide), if_neg (by decide)]
      exact hnumeral
    · exact hnumeral
  split
  · rename_i cs
    exact absurd rfl (hexChars_plain '-' (hmem '-' List.mem_cons_self)).2.2.1
  · rename_i cs
    exact absurd rfl (hexChars_plain '+' (hmem '+' List.mem_cons_self)).2.2.2.1
  · rw [hunsigned]
    rfl

/-- What is not there is not removed. -/
lemma removeAll_of_not_mem {c : Char} {p text : Text} (h : c ∉ text) :
    removeAll text (c :: p) = text := by
  unfold removeAll
  induction text with
  | nil => rfl
  | cons d text ih =>
    rw [List.mem_cons, not_or] at h
    have hstart : ¬ startsWith (d :: text) (c :: p) = true := by
      unfold startsWith
      rw [List.isPrefixOf_cons_cons, Bool.and_eq_true, beq_iff_eq]
      exact fun hc => h.1 hc.1
    rw [removeAllAux, if_neg hstart, ih h.2]

/-- One character is removed wherever it stands. -/
lemma removeAll_singleton (c : Char) (text : Text) : removeAll text [c] = text.filter (· ≠ c) := by
  unfold removeAll
  induction text with
  | nil => rfl
  | cons d text ih =>
    by_cases hd : d = c
    · have hstart : startsWith (d :: text) [c] = true := by
        rw [hd]
        exact startsWith_append [c] text
      rw [removeAllAux, if_pos hstart, List.filter_cons_of_neg (by simpa using hd)]
      exact ih
    · have hstart : ¬ startsWith (d :: text) [c] = true := by
        unfold startsWith
        rw [List.isPrefixOf_cons_cons, Bool.and_eq_true, beq_iff_eq]
        exact fun hc => hd hc.1.symm
      rw [removeAllAux, if_neg hstart, ih, List.filter_cons_of_pos (by simpa using hd)]

/-- `uuid.UUID(str(uuid))`. -/
theorem ofText_uuidText (uuid : Uuid) : Uuid.ofText (uuidText uuid) = some uuid := by
  have hu : 'u' ∉ uuidText uuid := by
    intro hmem
    obtain heq | hhex := mem_uuidText 'u' hmem
    · exact absurd heq (by decide)
    · exact (hexChars_plain 'u' hhex).2.2.2.2.2.2.2.1 rfl
  have hbraces : ∀ c ∈ uuidText uuid, (c == '\x7b' || c == '\x7d') = false := by
    intro c hc
    rw [Bool.or_eq_false_iff, beq_eq_false_iff_ne, beq_eq_false_iff_ne]
    obtain rfl | hhex := mem_uuidText c hc
    · decide
    · have hplain := hexChars_plain c hhex
      exact ⟨hplain.2.2.2.2.2.2.2.2.1, hplain.2.2.2.2.2.2.2.2.2.1⟩
  have hurn : removeAll (uuidText uuid) "urn:".toList = uuidText uuid := removeAll_of_not_mem hu
  have huuid : removeAll (uuidText uuid) "uuid:".toList = uuidText uuid := removeAll_of_not_mem hu
  have hhyphen : removeAll (uuidText uuid) "-".toList = uuidHex uuid :=
    (removeAll_singleton '-' _).trans (filter_uuidText uuid)
  unfold Uuid.ofText
  dsimp only
  rw [hurn, huuid, stripBy_eq_self hbraces, hhyphen, length_uuidHex, parseInt_uuidHex]
  simp

/-- The line of the reply to `AT+UUID?`. -/
def uuidLine (uuid : Uuid) (source : Word) : Text :=
  "+UUID:".toList ++ (uuidText uuid ++ ',' :: ("SOURCE".toList ++ '=' :: source.text))

/-- The reply to `AT+UUID?`. -/
def uuidReply (uuid : Uuid) (source : Word) : Text :=
  uuidLine uuid source ++ "\r\nOK\r\n".toList

variable (uuid : Uuid) (source : Word)

/-- The text has no comma and no blank. -/
lemma uuidText_plain : ∀ c ∈ uuidText uuid, c ≠ ',' ∧ isSpaceChar c = false := by
  intro c hc
  obtain rfl | hhex := mem_uuidText c hc
  · decide
  · have hspace : ∀ c ∈ hexChars, isSpaceChar c = false := by decide
    exact ⟨(hexChars_plain c hhex).2.2.2.2.2.2.2.2.2.2, hspace c hhex⟩

/-- The line has no blank. -/
lemma uuidLine_plain : ∀ c ∈ uuidLine uuid source, isSpaceChar c = false := by
  intro c hc
  unfold uuidLine at hc
  simp only [List.mem_append, List.mem_cons] at hc
  obtain hc | hc | rfl | hc | rfl | hc := hc
  · exact (by decide : ∀ c ∈ "+UUID:".toList, isSpaceChar c = false) c hc
  · exact (uuidText_plain uuid c hc).2
  · decide
  · exact (by decide : ∀ c ∈ "SOURCE".toList, isSpaceChar c = false) c hc
  · decide
  · exact (source.plain c hc).2

/-- The reply says this line. -/
lemma saidLines_uuidReply : saidLines (uuidReply uuid source) = [uuidLine uuid source] := by
  have hspace := uuidLine_plain uuid source
  have hbreak : ∀ c ∈ uuidLine uuid source, isLineBreak c = false := by
    intro c hc
    by_contra h
    rw [Bool.not_eq_false] at h
    have hs := isSpaceChar_of_isLineBreak h
    rw [hspace c hc] at hs
    cases hs
  have hsplit : uuidReply uuid source = uuidLine uuid source ++ "\r\n".toList ++ "OK\r\n".toList := by
    unfold uuidReply
    rw [List.append_assoc]
    rfl
  have hne : uuidLine uuid source ≠ [] := List.cons_ne_nil _ _
  have hsaid : isSaid (uuidLine uuid source) = true := rfl
  rw [saidLines_eq, hsplit, fullLines_line hne hbreak (by decide) _
    (fun h => absurd h (by decide)), List.map_cons, strip_eq_self hspace,
    List.filter_cons_of_pos hsaid]
  rfl

/-- The source is its one key. -/
lemma keyValues_source :
    keyValues ("SOURCE".toList ++ '=' :: source.text) = .ok [("SOURCE".toList, source.text)] := by
  have hcomma : ',' ∉ "SOURCE".toList ++ '=' :: source.text := by
    simp only [List.mem_append, List.mem_cons, not_or]
    exact ⟨by decide, by decide, fun h => (source.plain ',' h).1 rfl⟩
  have hmatches : keyValueMatches ("SOURCE".toList ++ '=' :: source.text) =
      [("SOURCE".toList, source.text)] := by
    have hkey : keyValue [] ("SOURCE".toList ++ '=' :: source.text) =
        some ("SOURCE".toList, source.text) :=
      Pair.keyValue_text (by decide) (by decide) source.nonempty
    unfold keyValueMatches
    rw [splitOn_of_not_mem hcomma, List.filterMap_cons, hkey]
    rfl
  rw [keyValues_ok_iff, hmatches]
  exact ⟨List.nodup_singleton _, rfl⟩

/-- The line assigns the UUID and the source. -/
lemma lineAssignments_uuidLine : lineAssignments (uuidLine uuid source) =
    .ok [⟨.deviceUuid, uuid⟩, ⟨.uuidSource, source.text⟩] := by
  have hform : lineAssignments (uuidLine uuid source) =
      readUuid (uuidText uuid ++ ',' :: ("SOURCE".toList ++ '=' :: source.text)) := rfl
  have hcomma : ',' ∉ uuidText uuid := fun h => (uuidText_plain uuid ',' h).1 rfl
  have hrest : ',' ∉ "SOURCE".toList ++ '=' :: source.text := by
    simp only [List.mem_append, List.mem_cons, not_or]
    exact ⟨by decide, by decide, fun h => (source.plain ',' h).1 rfl⟩
  have huuid : readValue .uuid (uuidText uuid) [] = .ok uuid := by
    simp only [readValue, ofText_uuidText]
  have hmore : readKeys [("SOURCE".toList, source.text)] sourceKeys =
      .ok [⟨.uuidSource, source.text⟩] := rfl
  rw [hform, readUuid, splitOn_append hcomma, splitOn_of_not_mem hrest]
  dsimp only
  rw [huuid, List.intercalate_singleton, keyValues_source]
  dsimp only [bind, Except.bind]
  rw [if_neg (List.cons_ne_nil _ _), hmore]
  rfl

/-- The reply says the UUID and where it comes from. -/
lemma replySays_uuid : ReplySays (uuidReply uuid source)
    [⟨.deviceUuid, uuid⟩, ⟨.uuidSource, source.text⟩] false where
  sections := by
    unfold sectionNames
    rw [saidLines_uuidReply]
    exact List.nodup_singleton _
  lines := by
    rw [saidLines_uuidReply, linesAssignments, lineAssignments_uuidLine]
    rfl
  event := by
    rw [hasExportLine_eq, saidLines_uuidReply]
    rfl

/-- The reply of a device to `AT+UUID?` sets its UUID and where it comes from, and keeps the rest. -/
theorem updatedFromCli_uuid (s : FirmwareControlState) :
    s.updatedFromCli (uuidReply uuid source) =
      .ok { s with deviceUuid := some uuid, uuidSource := some source.text } :=
  (replySays_uuid uuid source).updatedFromCli s

end SensorHost.Acquisition
