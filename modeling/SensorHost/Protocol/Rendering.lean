import SensorHost.Protocol.Composition

/-!
# Rendered replies

Replies as the device writes them: sections of keys and values, in any order, each on a line of its own.
A rendered reply is taken in where its numbers are in range and no key and no section comes twice, and
then every field it writes has the value written (`updatedFromCli_render`).

A reply is a list of sections with the breaks behind them, and a section a list of pairs from the
keys of its kind, so a key that a section does not have cannot be written. Reading back goes
inwards: the lines of the text are the lines that were written (`fullLines_text`), a line is split
into its pairs (`keyValueMatches_content`), and a pair is read as its key and its value
(`pair_keyValue`). The fields of two sections of different names are different (`ofField_line`), so
in a reply without a section that comes twice no field is set twice.

`FakeState.text_reply` is the link to the simulated device: its reply, put together from the strings
of the source, is a rendered one.
-/

namespace SensorHost.Protocol
open SensorHost.Lib

/-- A word: text without commas and spaces, such as one of letters, digits and underscores. -/
structure Word where
  text : Text
  nonempty : text ≠ []
  plain : ∀ c ∈ text, c ≠ ',' ∧ isSpaceChar c = false

/-- A value as a reply writes it. -/
inductive Rendered : FieldKind → Type where
  | number (n : Nat) : Rendered .number
  | flag (b : Bool) : Rendered .flag
  | word (w : Word) : Rendered .text

namespace Rendered

/-- The value written. -/
def value : {k : FieldKind} → Rendered k → k.Value
  | _, .number n => n
  | _, .flag b => b
  | _, .word w => w.text

/-- How it is written. -/
def text : {k : FieldKind} → Rendered k → Text
  | _, .number n => renderNat n
  | _, .flag b => if b then "1".toList else "0".toList
  | _, .word w => w.text

/-- The numbers written. -/
def numbers : {k : FieldKind} → Rendered k → List Nat
  | _, .number n => [n]
  | _, .flag _ => []
  | _, .word _ => []

variable {k : FieldKind} (v : Rendered k)

/-- A value is not empty. -/
lemma text_nonempty : v.text ≠ [] := by
  cases v with
  | number n => exact Nat.toDigits_ne_nil
  | flag b => cases b <;> exact List.cons_ne_nil _ _
  | word w => exact w.nonempty

/-- It has no comma and no blank. -/
lemma text_plain : ∀ c ∈ v.text, c ≠ ',' ∧ isSpaceChar c = false := by
  cases v with
  | number n =>
    intro c hc
    have hspace := numeralChars_noSpace c (toDigits_mem c hc)
    obtain ⟨-, -, -, -, -, -, -, -, -, -, hcomma⟩ := numeralChars_plain c (toDigits_mem c hc)
    exact ⟨hcomma, hspace⟩
  | flag b => cases b <;> decide
  | word w => exact w.plain

end Rendered

/-- A number that is written is read back if it is in range, and refused otherwise. -/
lemma unsigned_renderNat (n : Nat) (name : Text) :
    n ≤ maximumUnsignedValue ∧ unsigned (renderNat n) name = .ok n ∨
      maximumUnsignedValue < n ∧ ∃ e, unsigned (renderNat n) name = .error e := by
  unfold unsigned
  rw [isDecimal_renderNat, Bool.not_true, if_neg Bool.false_ne_true, parseInt_ten_renderNat]
  by_cases hle : n ≤ maximumUnsignedValue
  · have hlt : n < 10 ^ maxStrDigits :=
      hle.trans_lt ((by decide : maximumUnsignedValue < 10 ^ 20).trans
        (Nat.pow_lt_pow_right (by decide) (by decide)))
    refine .inl ⟨hle, ?_⟩
    rw [if_pos hlt]
    dsimp only
    rw [if_neg (by exact_mod_cast not_lt.mpr hle)]
    rfl
  · refine .inr ⟨not_le.mp hle, ?_⟩
    split
    · exact ⟨_, rfl⟩
    · rename_i parsed heq
      split at heq
      · cases heq
        rw [if_pos (by exact_mod_cast not_le.mp hle)]
        exact ⟨_, rfl⟩
      · cases heq

/-- A value is read back, unless it is a number out of range. -/
lemma readValue_text {k : FieldKind} (v : Rendered k) (name : Text) :
    (∀ n ∈ v.numbers, n ≤ maximumUnsignedValue) ∧ readValue k v.text name = .ok v.value ∨
      (¬ ∀ n ∈ v.numbers, n ≤ maximumUnsignedValue) ∧ ∃ e, readValue k v.text name = .error e := by
  cases v with
  | number n =>
    obtain ⟨hle, hok⟩ | ⟨hlt, herror⟩ := unsigned_renderNat n name
    · exact .inl ⟨fun m hm => List.mem_singleton.mp hm ▸ hle, hok⟩
    · exact .inr ⟨fun h => not_le.mpr hlt (h n List.mem_cons_self), herror⟩
  | flag b => cases b <;> exact .inl ⟨nofun, rfl⟩
  | word w => exact .inl ⟨nofun, rfl⟩

/-- The sections of keys and values. -/
inductive SectionKind where
  | sd
  | exportStatus
  | live
  | diag
  | ota
  deriving DecidableEq

namespace SectionKind

/-- The name of a section. -/
def label : SectionKind → Text
  | .sd => "+SD".toList
  | .exportStatus => "+EXPORT".toList
  | .live => "+LIVE".toList
  | .diag => "+DIAG".toList
  | .ota => "+OTA".toList

/-- The keys of a section. -/
def keys : SectionKind → List Key
  | .sd => sdKeys
  | .exportStatus => exportKeys
  | .live => liveKeys
  | .diag => diagKeys
  | .ota => otaKeys

end SectionKind

/-- A key of a section, with a value for its field. -/
structure Pair (keys : List Key) where
  key : Key
  known : key ∈ keys
  value : Rendered key.2.kind

namespace Pair

variable {keys : List Key} (p : Pair keys)

/-- The name of the key. -/
def name : Text := p.key.1.toList

/-- `KEY=value`. -/
def text : Text := p.name ++ '=' :: p.value.text

/-- The field with its value. -/
def assignment : Assignment := ⟨p.key.2, p.value.value⟩

end Pair

/-- A section of a reply. -/
inductive ReplySection where
  | keyed (kind : SectionKind) (pairs : List (Pair kind.keys))
  | baud (n : Nat)
  | state (w : Word)

namespace ReplySection

/-- The name of the section. -/
def label : ReplySection → Text
  | .keyed kind _ => kind.label
  | .baud _ => "+BAUD".toList
  | .state _ => "+STATE".toList

/-- What follows the name. -/
def content : ReplySection → Text
  | .keyed _ pairs => ",".toList.intercalate (pairs.map Pair.text)
  | .baud n => renderNat n
  | .state w => w.text

/-- The line of the section. -/
def line (sec : ReplySection) : Text := sec.label ++ ':' :: sec.content

/-- The keys that are written. -/
def names : ReplySection → List Text
  | .keyed _ pairs => pairs.map Pair.name
  | .baud _ => []
  | .state _ => []

/-- The numbers that are written. -/
def numbers : ReplySection → List Nat
  | .keyed _ pairs => pairs.flatMap fun p => p.value.numbers
  | .baud n => [n]
  | .state _ => []

/-- The fields that are written, with their values. -/
def assignments : ReplySection → List Assignment
  | .keyed _ pairs => pairs.map Pair.assignment
  | .baud n => [⟨.uartBaud, n⟩]
  | .state w => [⟨.acquisitionState, w.text⟩]

/-- The numbers are in range and no key comes twice. -/
def Fits (sec : ReplySection) : Prop :=
  (∀ n ∈ sec.numbers, n ≤ maximumUnsignedValue) ∧ sec.names.Nodup

end ReplySection

/-- A letter of a key is no comma, no equals sign and no blank. -/
lemma isKeyChar_plain {c : Char} (h : isKeyChar c = true) :
    c ≠ ',' ∧ c ≠ '=' ∧ isSpaceChar c = false := by
  have hrange : 65 ≤ c.toNat ∧ c.toNat ≤ 95 := by
    rw [isKeyChar, Bool.or_eq_true, Bool.and_eq_true, decide_eq_true_eq, decide_eq_true_eq,
      beq_iff_eq] at h
    obtain ⟨hlow, hhigh⟩ | rfl := h
    · have hlow : 65 ≤ c.toNat := hlow
      have hhigh : c.toNat ≤ 90 := hhigh
      omega
    · decide
  refine ⟨?_, ?_, ?_⟩
  · rintro rfl
    exact absurd hrange (by decide)
  · rintro rfl
    exact absurd hrange (by decide)
  · unfold isSpaceChar
    simp only [Bool.or_eq_false_iff, Bool.and_eq_false_iff, decide_eq_false_iff_not,
      beq_eq_false_iff_ne]
    omega

/-- The keys of a section are words. -/
lemma keys_plain (kind : SectionKind) : ∀ key ∈ kind.keys,
    key.1.toList ≠ [] ∧ ∀ c ∈ key.1.toList, isKeyChar c = true := by
  cases kind <;> decide

/-- No key of a section has the name of another. -/
lemma keys_names (kind : SectionKind) : (kind.keys.map fun key => key.1.toList).Nodup := by
  cases kind <;> decide

/-- A section with keys is read by its keys. -/
lemma lineAssignments_keyed (kind : SectionKind) (content : Text) :
    lineAssignments (kind.label ++ ':' :: content) = (SectionForm.keyed kind.keys).read content := by
  cases kind <;> rfl

/-- Its fields are those of its keys. -/
lemma lineFields_keyed (kind : SectionKind) (content : Text) :
    lineFields (kind.label ++ ':' :: content) = keyFields kind.keys content := by
  cases kind <;> rfl

namespace ReplySection

variable (sec : ReplySection)

/-- The line of a section has its name. -/
lemma sectionName_line : sectionName sec.line = some sec.label := by
  cases sec with
  | keyed kind pairs => cases kind <;> rfl
  | baud n => rfl
  | state w => rfl

/-- It says something. -/
lemma isSaid_line : isSaid sec.line = true := by
  cases sec with
  | keyed kind pairs => cases kind <;> rfl
  | baud n => rfl
  | state w => rfl

/-- It is no export event. -/
lemma hasNoEvent_line : isExportLine sec.line = false := by
  cases sec with
  | keyed kind pairs => cases kind <;> rfl
  | baud n => rfl
  | state w => rfl

end ReplySection

namespace Pair

variable {keys : List Key}

/-- A key and a value that were written are read back. -/
lemma keyValue_text {name value : Text} (hname : ∀ c ∈ name, isKeyChar c = true) {key : Text}
    (hne : key ++ name ≠ []) (hvalue : value ≠ []) :
    keyValue key (name ++ '=' :: value) = some (key.reverse ++ name, value) := by
  induction name generalizing key with
  | nil =>
    rw [List.append_nil] at hne
    rw [List.nil_append, keyValue, if_neg (by decide), if_pos ⟨rfl, hne, hvalue⟩, List.append_nil]
  | cons c name ih =>
    rw [List.cons_append, keyValue, if_pos (hname c List.mem_cons_self),
      ih (fun d hd => hname d (List.mem_cons_of_mem c hd)) (List.cons_ne_nil _ _)]
    rw [List.reverse_cons, List.append_assoc, List.singleton_append]

end Pair

section Keyed
variable {kind : SectionKind} {pairs : List (Pair kind.keys)} {values : List (Text × Text)}

/-- A pair has no comma and no blank. -/
lemma pair_text_plain (p : Pair kind.keys) : ∀ c ∈ p.text, c ≠ ',' ∧ isSpaceChar c = false := by
  intro c hc
  rcases List.mem_append.mp hc with hc | hc
  · obtain ⟨hcomma, -, hspace⟩ := isKeyChar_plain ((keys_plain kind p.key p.known).2 c hc)
    exact ⟨hcomma, hspace⟩
  · rcases List.mem_cons.mp hc with rfl | hc
    · decide
    · exact p.value.text_plain c hc

/-- A pair is read back. -/
lemma pair_keyValue (p : Pair kind.keys) : keyValue [] p.text = some (p.name, p.value.text) := by
  obtain ⟨hne, hname⟩ := keys_plain kind p.key p.known
  exact Pair.keyValue_text hname hne p.value.text_nonempty

/-- The keys and values of a section are read back. -/
lemma keyValueMatches_content (pairs : List (Pair kind.keys)) :
    keyValueMatches (ReplySection.keyed kind pairs).content =
      pairs.map fun p => (p.name, p.value.text) := by
  unfold keyValueMatches ReplySection.content
  cases pairs with
  | nil => rfl
  | cons p pairs =>
    have hcomma : ∀ part ∈ (p :: pairs).map Pair.text, ',' ∉ part := by
      intro part hpart hmem
      obtain ⟨q, -, rfl⟩ := List.mem_map.mp hpart
      exact (pair_text_plain q ',' hmem).1 rfl
    have hsplit : splitOn ',' (",".toList.intercalate ((p :: pairs).map Pair.text)) =
        (p :: pairs).map Pair.text := splitOn_intercalate (List.cons_ne_nil _ _) hcomma
    rw [hsplit, List.filterMap_map]
    refine (List.filterMap_congr fun q _ => pair_keyValue q).trans ?_
    exact congrFun List.filterMap_eq_map' (p :: pairs)

/-- The keys of the table that are written are read, unless a number is out of range. -/
lemma readKeys_pairs (hnames : (pairs.map Pair.name).Nodup)
    (hvalues : ∀ key value, values.lookup key = some value ↔
      ∃ p ∈ pairs, p.name = key ∧ p.value.text = value)
    {keys : List Key} (hkeys : ∀ key ∈ keys, key ∈ kind.keys) :
    (∀ p ∈ pairs, p.key ∈ keys → ∀ n ∈ p.value.numbers, n ≤ maximumUnsignedValue) ∧
        (∃ as, readKeys values keys = .ok as ∧ ∀ p ∈ pairs, p.key ∈ keys → p.assignment ∈ as) ∨
      (¬ ∀ p ∈ pairs, p.key ∈ keys → ∀ n ∈ p.value.numbers, n ≤ maximumUnsignedValue) ∧
        ∃ e, readKeys values keys = .error e := by
  induction keys with
  | nil => exact .inl ⟨nofun, [], rfl, nofun⟩
  | cons key keys ih =>
    have ih := ih fun k hk => hkeys k (List.mem_cons_of_mem key hk)
    rw [readKeys]
    cases hvalue : values.lookup key.1.toList with
    | none =>
      -- no pair has this key
      have hother : ∀ p ∈ pairs, (p.key ∈ key :: keys ↔ p.key ∈ keys) := by
        refine fun p hp => ⟨fun hmem => ?_, List.mem_cons_of_mem key⟩
        refine (List.mem_cons.mp hmem).resolve_left fun heq => ?_
        have hsome := (hvalues key.1.toList p.value.text).mpr ⟨p, hp, by rw [Pair.name, heq], rfl⟩
        rw [hvalue] at hsome
        cases hsome
      obtain ⟨hfit, as, has, hmem⟩ | ⟨hout, herror⟩ := ih
      · refine .inl ⟨fun p hp hk => hfit p hp ((hother p hp).mp hk), as, has, fun p hp hk => ?_⟩
        exact hmem p hp ((hother p hp).mp hk)
      · exact .inr ⟨fun h => hout fun p hp hk => h p hp ((hother p hp).mpr hk), herror⟩
    | some value =>
      obtain ⟨p, hp, hname, rfl⟩ := (hvalues _ _).mp hvalue
      obtain rfl : p.key = key := List.inj_on_of_nodup_map (keys_names kind) p.known
        (hkeys key List.mem_cons_self) hname
      have hsame : ∀ q ∈ pairs, q.key = p.key → q = p := fun q hq heq =>
        List.inj_on_of_nodup_map hnames hq hp (congrArg (fun key : Key => key.1.toList) heq)
      dsimp only
      obtain ⟨hfit, hread⟩ | ⟨hout, e, herror⟩ := readValue_text p.value p.key.1.toList
      · rw [hread]
        obtain ⟨hrest, as, has, hmem⟩ | ⟨hout, e, herror⟩ := ih
        · refine .inl ⟨fun q hq hk => ?_, p.assignment :: as, by rw [has]; rfl, fun q hq hk => ?_⟩
          · rcases List.mem_cons.mp hk with heq | hk
            · rw [hsame q hq heq]
              exact hfit
            · exact hrest q hq hk
          · rcases List.mem_cons.mp hk with heq | hk
            · rw [hsame q hq heq]
              exact List.mem_cons_self
            · exact List.mem_cons_of_mem _ (hmem q hq hk)
        · refine .inr ⟨fun h => hout fun q hq hk => h q hq (List.mem_cons_of_mem _ hk), e, ?_⟩
          rw [herror]
          rfl
      · refine .inr ⟨fun h => hout (h p hp List.mem_cons_self), e, ?_⟩
        rw [herror]
        rfl

end Keyed

namespace ReplySection

/-- A section that fits says its assignments, and any other section fails. -/
lemma reads (sec : ReplySection) :
    sec.Fits ∧ (∃ as, lineAssignments sec.line = .ok as ∧ ∀ a ∈ sec.assignments, a ∈ as) ∨
      ¬ sec.Fits ∧ ∃ e, lineAssignments sec.line = .error e := by
  cases sec with
  | keyed kind pairs =>
    have hline : lineAssignments (keyed kind pairs).line =
        (SectionForm.keyed kind.keys).read (keyed kind pairs).content :=
      lineAssignments_keyed kind _
    rw [hline, SectionForm.read]
    have hmatches := keyValueMatches_content pairs
    have hfst : (pairs.map fun p => (p.name, p.value.text)).map Prod.fst = pairs.map Pair.name :=
      List.map_map
    by_cases hnames : (pairs.map Pair.name).Nodup
    · have hnodup : ((keyValueMatches (keyed kind pairs).content).reverse.map Prod.fst).Nodup := by
        rw [List.map_reverse, List.nodup_reverse, hmatches, hfst]
        exact hnames
      have hvalues : ∀ key value,
          (keyValueMatches (keyed kind pairs).content).reverse.lookup key = some value ↔
            ∃ p ∈ pairs, p.name = key ∧ p.value.text = value := by
        intro key value
        rw [lookup_eq_some_iff_mem hnodup, List.mem_reverse, hmatches, List.mem_map]
        simp only [Prod.mk.injEq]
      have hkeyValues := keyValues_ok_iff.mpr
        ⟨by rwa [List.map_reverse, List.nodup_reverse] at hnodup, rfl⟩
      rw [hkeyValues]
      have hfits : (keyed kind pairs).Fits ↔
          ∀ p ∈ pairs, p.key ∈ kind.keys → ∀ n ∈ p.value.numbers, n ≤ maximumUnsignedValue := by
        refine ⟨fun h p hp _ n hn => h.1 n (List.mem_flatMap.mpr ⟨p, hp, hn⟩), fun h => ⟨?_, hnames⟩⟩
        intro n hn
        obtain ⟨p, hp, hn⟩ := List.mem_flatMap.mp hn
        exact h p hp p.known n hn
      rw [hfits]
      refine (readKeys_pairs hnames hvalues fun key h => h).imp_left fun hread => ?_
      obtain ⟨hrange, as, has, hmem⟩ := hread
      refine ⟨hrange, as, has, fun a ha => ?_⟩
      obtain ⟨p, hp, rfl⟩ := List.mem_map.mp ha
      exact hmem p hp p.known
    · -- a key that stands twice is refused, whatever its values are
      refine .inr ⟨fun h => hnames h.2, ?_⟩
      cases hkeyValues : keyValues (keyed kind pairs).content with
      | error e => exact ⟨e, rfl⟩
      | ok values =>
        obtain ⟨hnodup, -⟩ := keyValues_ok_iff.mp hkeyValues
        rw [hmatches, hfst] at hnodup
        exact absurd hnodup hnames
  | baud n =>
    have hline : lineAssignments (baud n).line =
        (unsigned (renderNat n) "BAUD".toList).map fun n => [⟨.uartBaud, n⟩] := rfl
    rw [hline]
    -- the one section that is a number without a key
    obtain ⟨hle, hok⟩ | ⟨hlt, e, herror⟩ := unsigned_renderNat n "BAUD".toList
    · rw [hok]
      exact .inl ⟨⟨fun m hm => List.mem_singleton.mp hm ▸ hle, List.nodup_nil⟩, _, rfl, fun a ha => ha⟩
    · rw [herror]
      exact .inr ⟨fun h => not_le.mpr hlt (h.1 n List.mem_cons_self), e, rfl⟩
  | state w =>
    exact .inl ⟨⟨fun _ hn => (List.not_mem_nil hn).elim, List.nodup_nil⟩, _, rfl, fun a ha => ha⟩

/-- The section that has the field. -/
def ofField (f : ControlField) : Text :=
  if f ∈ sdKeys.map Prod.snd then "+SD".toList
  else if f ∈ exportKeys.map Prod.snd then "+EXPORT".toList
  else if f ∈ liveKeys.map Prod.snd then "+LIVE".toList
  else if f ∈ diagKeys.map Prod.snd then "+DIAG".toList
  else if f ∈ otaKeys.map Prod.snd then "+OTA".toList
  else if f = .uartBaud then "+BAUD".toList
  else "+STATE".toList

/-- The fields of a section are of that section. -/
lemma ofField_keys (kind : SectionKind) : ∀ key ∈ kind.keys, ofField key.2 = kind.label := by
  cases kind <;> decide

/-- No key of a section has the field of another. -/
lemma keys_fields (kind : SectionKind) : (kind.keys.map Prod.snd).Nodup := by
  cases kind <;> decide

/-- The fields in the line of a section are of that section. -/
lemma ofField_line (sec : ReplySection) : ∀ f ∈ lineFields sec.line, ofField f = sec.label := by
  intro f hf
  cases sec with
  | keyed kind pairs =>
    have hf : f ∈ keyFields kind.keys (keyed kind pairs).content := lineFields_keyed kind _ ▸ hf
    obtain ⟨key, hkey, rfl⟩ := List.mem_map.mp hf
    exact ofField_keys kind key (List.mem_of_mem_filter hkey)
  | baud n =>
    obtain rfl := List.mem_singleton.mp hf
    rfl
  | state w =>
    obtain rfl := List.mem_singleton.mp hf
    rfl

/-- No field is twice in the line of a section. -/
lemma nodup_lineFields (sec : ReplySection) : (lineFields sec.line).Nodup := by
  cases sec with
  | keyed kind pairs =>
    refine (lineFields_keyed kind _ ▸ ?_ : (lineFields (keyed kind pairs).line).Nodup)
    exact (keys_fields kind).sublist (List.filter_sublist.map Prod.snd)
  | baud n => exact List.nodup_singleton _
  | state w => exact List.nodup_singleton _

/-- A section names no field but those it writes. -/
lemma lineFields_line (sec : ReplySection) :
    ∀ f ∈ lineFields sec.line, f ∈ sec.assignments.map Sigma.fst := by
  intro f hf
  cases sec with
  | keyed kind pairs =>
    have hf : f ∈ keyFields kind.keys (keyed kind pairs).content := lineFields_keyed kind _ ▸ hf
    obtain ⟨key, hkey, rfl⟩ := List.mem_map.mp hf
    obtain ⟨hknown, hwritten⟩ := List.mem_filter.mp hkey
    rw [decide_eq_true_eq, keyValueMatches_content, List.map_map] at hwritten
    obtain ⟨p, hp, hname⟩ := List.mem_map.mp hwritten
    obtain rfl : p.key = key :=
      List.inj_on_of_nodup_map (keys_names kind) p.known hknown hname
    exact List.mem_map_of_mem (List.mem_map_of_mem hp)
  | baud n => exact hf
  | state w => exact hf

/-- The name of a section has no blank. -/
lemma label_plain (sec : ReplySection) : ∀ c ∈ sec.label, isSpaceChar c = false := by
  have hkind : ∀ kind : SectionKind, ∀ c ∈ kind.label, isSpaceChar c = false := by
    intro kind
    cases kind <;> decide
  cases sec with
  | keyed kind pairs => exact hkind kind
  | baud n => exact (by decide : ∀ c ∈ "+BAUD".toList, isSpaceChar c = false)
  | state w => exact (by decide : ∀ c ∈ "+STATE".toList, isSpaceChar c = false)

/-- The line has no spaces in it. -/
lemma line_plain (sec : ReplySection) : ∀ c ∈ sec.line, isSpaceChar c = false := by
  intro c hc
  rcases List.mem_append.mp hc with hc | hc
  · exact label_plain sec c hc
  · rcases List.mem_cons.mp hc with rfl | hc
    · decide
    · cases sec with
      | keyed kind pairs =>
        obtain rfl | ⟨part, hpart, hc⟩ := mem_intercalate hc
        · decide
        · obtain ⟨p, -, rfl⟩ := List.mem_map.mp hpart
          exact (pair_text_plain p c hc).2
      | baud n => exact ((Rendered.number n).text_plain c hc).2
      | state w => exact (w.plain c hc).2

end ReplySection

/-- The text of a line: a section, or OK. -/
def lineText : Option ReplySection → Text
  | none => "OK".toList
  | some sec => sec.line

/-- A reply: its lines, each with the breaks after it. Only after the last one there may be none. -/
structure Reply where
  lines : List (Option ReplySection × Text)
  breaks : ∀ line ∈ lines, ∀ c ∈ line.2, isLineBreak c = true
  separated : ∀ line ∈ lines.dropLast, line.2 ≠ []

namespace Reply

variable (reply : Reply)

/-- The text of the reply. -/
def text : Text := reply.lines.flatMap fun line => lineText line.1 ++ line.2

/-- The sections. -/
def sections : List ReplySection := reply.lines.filterMap Prod.fst

/-- The fields that are written, with their values. -/
def assignments : List Assignment := reply.sections.flatMap ReplySection.assignments

/-- The numbers are in range, and no key and no section comes twice. -/
structure Fits : Prop where
  numbers : ∀ sec ∈ reply.sections, ∀ n ∈ sec.numbers, n ≤ maximumUnsignedValue
  keys : ∀ sec ∈ reply.sections, sec.names.Nodup
  sections : (reply.sections.map ReplySection.label).Nodup

end Reply

/-- A line has no blank. -/
lemma lineText_plain (line : Option ReplySection) : ∀ c ∈ lineText line, isSpaceChar c = false := by
  cases line with
  | none => exact (by decide : ∀ c ∈ "OK".toList, isSpaceChar c = false)
  | some sec => exact sec.line_plain

/-- The lines that were written are the lines of the text. -/
lemma fullLines_text (lines : List (Option ReplySection × Text))
    (breaks : ∀ line ∈ lines, ∀ c ∈ line.2, isLineBreak c = true)
    (separated : ∀ line ∈ lines.dropLast, line.2 ≠ []) :
    fullLines (splitLines (lines.flatMap fun line => lineText line.1 ++ line.2)) =
      lines.map fun line => lineText line.1 := by
  induction lines with
  | nil => rfl
  | cons line lines ih =>
    have hne : lineText line.1 ≠ [] := by
      cases line.1 with
      | none => exact List.cons_ne_nil _ _
      | some sec => exact List.append_ne_nil_of_right_ne_nil _ (List.cons_ne_nil _ _)
    have hline : ∀ c ∈ lineText line.1, isLineBreak c = false := by
      intro c hc
      by_contra hbreak
      rw [Bool.not_eq_false] at hbreak
      have hspace := isSpaceChar_of_isLineBreak hbreak
      rw [lineText_plain line.1 c hc] at hspace
      cases hspace
    have hlast : line.2 = [] → lines = [] := by
      intro hnil
      cases lines with
      | nil => rfl
      | cons next lines => exact absurd hnil (separated line List.mem_cons_self)
    have hrest : ∀ l ∈ lines.dropLast, l.2 ≠ [] := by
      intro l hl
      cases lines with
      | nil => cases hl
      | cons next lines => exact separated l (List.mem_cons_of_mem line hl)
    rw [List.flatMap_cons, List.map_cons,
      fullLines_line hne hline (breaks line List.mem_cons_self) _ fun hnil => by rw [hlast hnil]; rfl,
      ih (fun l hl => breaks l (List.mem_cons_of_mem line hl)) hrest]

namespace Reply

variable (reply : Reply)

/-- The lines that say something are the sections. -/
lemma saidLines_text : saidLines reply.text = reply.sections.map ReplySection.line := by
  rw [saidLines_eq, text, fullLines_text reply.lines reply.breaks reply.separated, sections]
  induction reply.lines with
  | nil => rfl
  | cons line lines ih =>
    obtain ⟨sec, breaks⟩ := line
    rw [List.map_cons, List.map_cons, strip_eq_self (lineText_plain sec)]
    cases sec with
    | none => exact ih
    | some sec =>
      refine Eq.trans ?_ (congrArg (List.map ReplySection.line)
        (List.filterMap_cons_some (f := Prod.fst) (a := (some sec, breaks)) rfl).symm)
      exact (List.filter_cons_of_pos sec.isSaid_line).trans (congrArg (sec.line :: ·) ih)

/-- They have the names of the sections. -/
lemma sectionNames_text : sectionNames reply.text = reply.sections.map ReplySection.label := by
  rw [sectionNames, saidLines_text, List.filterMap_map]
  refine (List.filterMap_congr fun sec _ => sec.sectionName_line).trans ?_
  exact congrFun List.filterMap_eq_map' reply.sections

/-- No section is an export event. -/
lemma hasExportLine_text : hasExportLine reply.text = false := by
  rw [hasExportLine_eq, saidLines_text, List.any_map, List.any_eq_false]
  intro sec _
  rw [Function.comp_apply, sec.hasNoEvent_line]
  exact Bool.false_ne_true

/-- The fields of a reply are those of its sections. -/
lemma namedFields_text :
    namedFields reply.text = reply.sections.flatMap fun sec => lineFields sec.line := by
  rw [namedFields, saidLines_text, List.flatMap_map]

/-- No field is named twice where no section comes twice. -/
lemma nodup_namedFields (h : (reply.sections.map ReplySection.label).Nodup) :
    (namedFields reply.text).Nodup := by
  rw [namedFields_text, List.nodup_flatMap]
  refine ⟨fun sec _ => sec.nodup_lineFields, ?_⟩
  refine (List.pairwise_map.mp h).imp fun {sec sec'} hne f hf hf' => hne ?_
  exact (sec.ofField_line f hf).symm.trans (sec'.ofField_line f hf')

end Reply

/-- Sections that fit say their assignments. -/
lemma linesAssignments_lines {secs : List ReplySection} (h : ∀ sec ∈ secs, sec.Fits) :
    ∃ as, linesAssignments (secs.map ReplySection.line) = .ok as ∧
      ∀ a ∈ secs.flatMap ReplySection.assignments, a ∈ as := by
  induction secs with
  | nil => exact ⟨[], rfl, nofun⟩
  | cons sec secs ih =>
    obtain ⟨-, as, has, hmem⟩ | ⟨hout, -⟩ := sec.reads
    · obtain ⟨bs, hbs, hrest⟩ := ih fun s hs => h s (List.mem_cons_of_mem sec hs)
      refine ⟨as ++ bs, bind_eq_ok.mpr ⟨as, has, bind_eq_ok.mpr ⟨bs, hbs, rfl⟩⟩, fun a ha => ?_⟩
      rw [List.flatMap_cons] at ha
      rcases List.mem_append.mp ha with ha | ha
      · exact List.mem_append_left _ (hmem a ha)
      · exact List.mem_append_right _ (hrest a ha)
    · exact absurd (h sec List.mem_cons_self) hout

/-- Sections that are read fit. -/
lemma fits_of_linesAssignments {secs : List ReplySection} {as : List Assignment}
    (h : linesAssignments (secs.map ReplySection.line) = .ok as) : ∀ sec ∈ secs, sec.Fits := by
  induction secs generalizing as with
  | nil => exact nofun
  | cons sec secs ih =>
    obtain ⟨bs, hbs, h⟩ := bind_eq_ok.mp h
    obtain ⟨cs, hcs, -⟩ := bind_eq_ok.mp h
    obtain ⟨hfits, -⟩ | ⟨-, e, herror⟩ := sec.reads
    · exact List.forall_mem_cons.mpr ⟨hfits, ih hcs⟩
    · rw [hbs] at herror
      cases herror

/-- The state that the simulated device reports. -/
structure FakeState where
  state : Word
  sdUsed : Nat
  sdCapacity : Nat
  retainedChunks : Nat
  retainedFrames : Nat
  overwrittenFrames : Nat
  exportTarget : Word
  exportFrameIndex : Nat

namespace FakeState

variable (d : FakeState)

/-- `FakeTransport._state_reply`, line by line. -/
def stateReply : Text :=
  ["+STATE:".toList ++ d.state.text ++ "\r\n".toList,
    "+SD:USED=".toList ++ renderNat d.sdUsed ++ ",CAPACITY=".toList ++ renderNat d.sdCapacity ++
      ",PENDING_FRAMES=0,RETAINED_CHUNKS=".toList ++ renderNat d.retainedChunks ++
      ",RETAINED_FRAMES=".toList ++ renderNat d.retainedFrames ++ ",OVERWRITTEN_CHUNKS=0,".toList ++
      "OVERWRITTEN_FRAMES=".toList ++ renderNat d.overwrittenFrames ++ ",READY=1,".toList ++
      "FORMAT_REQUIRED=0\r\n".toList,
    "+EXPORT:TARGET=".toList ++ d.exportTarget.text ++ ",CHUNK=".toList ++
      renderNat d.exportFrameIndex ++ ",FRAME=".toList ++ renderNat d.exportFrameIndex ++
      "\r\n".toList,
    "+OTA:STATE=OFF,RECEIVED=0,TOTAL=0,ERROR=0\r\n".toList].flatten ++ "OK\r\n".toList

/-- The section of the store. -/
def sdSection : ReplySection :=
  .keyed .sd
    [⟨("USED", .sdUsed), by decide, .number d.sdUsed⟩,
      ⟨("CAPACITY", .sdCapacity), by decide, .number d.sdCapacity⟩,
      ⟨("PENDING_FRAMES", .sdPendingFrames), by decide, .number 0⟩,
      ⟨("RETAINED_CHUNKS", .sdRetainedChunks), by decide, .number d.retainedChunks⟩,
      ⟨("RETAINED_FRAMES", .sdRetainedFrames), by decide, .number d.retainedFrames⟩,
      ⟨("OVERWRITTEN_CHUNKS", .sdOverwrittenChunks), by decide, .number 0⟩,
      ⟨("OVERWRITTEN_FRAMES", .sdOverwrittenFrames), by decide, .number d.overwrittenFrames⟩,
      ⟨("READY", .sdReady), by decide, .flag true⟩,
      ⟨("FORMAT_REQUIRED", .sdFormatRequired), by decide, .flag false⟩]

/-- The section of the export. -/
def exportStatusSection : ReplySection :=
  .keyed .exportStatus
    [⟨("TARGET", .exportTarget), by decide, .word d.exportTarget⟩,
      ⟨("CHUNK", .exportChunk), by decide, .number d.exportFrameIndex⟩,
      ⟨("FRAME", .exportFrame), by decide, .number d.exportFrameIndex⟩]

/-- The section of an update, which is off. -/
def otaSection : ReplySection :=
  .keyed .ota
    [⟨("STATE", .otaState), by decide, .word ⟨"OFF".toList, by decide, by decide⟩⟩,
      ⟨("RECEIVED", .otaReceived), by decide, .number 0⟩,
      ⟨("TOTAL", .otaTotal), by decide, .number 0⟩,
      ⟨("ERROR", .otaError), by decide, .number 0⟩]

/-- The sections of that reply. -/
def sections : List ReplySection :=
  [.state d.state, d.sdSection, d.exportStatusSection, otaSection]

/-- The reply as sections on lines of their own, and OK. -/
def reply : Reply where
  lines := (d.sections.map some ++ [none]).map fun line => (line, "\r\n".toList)
  breaks := by
    intro line hline
    obtain ⟨_, -, rfl⟩ := List.mem_map.mp hline
    exact (by decide : ∀ c ∈ "\r\n".toList, isLineBreak c = true)
  separated := by
    intro line hline
    obtain ⟨_, -, rfl⟩ := List.mem_map.mp (List.mem_of_mem_dropLast hline)
    exact List.cons_ne_nil _ _

/-- The SD section, as the device writes it. -/
lemma sdSection_line : d.sdSection.line ++ "\r\n".toList =
    "+SD:USED=".toList ++ renderNat d.sdUsed ++ ",CAPACITY=".toList ++ renderNat d.sdCapacity ++
      ",PENDING_FRAMES=0,RETAINED_CHUNKS=".toList ++ renderNat d.retainedChunks ++
      ",RETAINED_FRAMES=".toList ++ renderNat d.retainedFrames ++ ",OVERWRITTEN_CHUNKS=0,".toList ++
      "OVERWRITTEN_FRAMES=".toList ++ renderNat d.overwrittenFrames ++ ",READY=1,".toList ++
      "FORMAT_REQUIRED=0\r\n".toList := by
  have hline : d.sdSection.line = "+SD".toList ++ ':' :: ",".toList.intercalate
      ["USED".toList ++ '=' :: renderNat d.sdUsed,
        "CAPACITY".toList ++ '=' :: renderNat d.sdCapacity, "PENDING_FRAMES=0".toList,
        "RETAINED_CHUNKS".toList ++ '=' :: renderNat d.retainedChunks,
        "RETAINED_FRAMES".toList ++ '=' :: renderNat d.retainedFrames,
        "OVERWRITTEN_CHUNKS=0".toList,
        "OVERWRITTEN_FRAMES".toList ++ '=' :: renderNat d.overwrittenFrames,
        "READY=1".toList, "FORMAT_REQUIRED=0".toList] := rfl
  rw [hline]
  simp

/-- The export section, as the device writes it. -/
lemma exportStatusSection_line : d.exportStatusSection.line ++ "\r\n".toList =
    "+EXPORT:TARGET=".toList ++ d.exportTarget.text ++ ",CHUNK=".toList ++
      renderNat d.exportFrameIndex ++ ",FRAME=".toList ++ renderNat d.exportFrameIndex ++
      "\r\n".toList := by
  have hline : d.exportStatusSection.line = "+EXPORT".toList ++ ':' :: ",".toList.intercalate
      ["TARGET".toList ++ '=' :: d.exportTarget.text,
        "CHUNK".toList ++ '=' :: renderNat d.exportFrameIndex,
        "FRAME".toList ++ '=' :: renderNat d.exportFrameIndex] := rfl
  rw [hline]
  simp

/-- The OTA section, as the device writes it. -/
lemma otaSection_line : otaSection.line ++ "\r\n".toList =
    "+OTA:STATE=OFF,RECEIVED=0,TOTAL=0,ERROR=0\r\n".toList := rfl

/-- The simulated device writes its reply as a rendered reply. -/
lemma text_reply : d.reply.text = d.stateReply := by
  have htext : d.reply.text =
      (d.sections.map fun sec => sec.line ++ "\r\n".toList).flatten ++ "OK\r\n".toList := by
    rw [Reply.text, reply, List.flatMap_map, List.flatMap_append, List.flatMap_map]
    rfl
  rw [htext, sections, List.map_cons, List.map_cons, List.map_cons, List.map_cons, d.sdSection_line,
    d.exportStatusSection_line, otaSection_line]
  rfl

end FakeState

/-- A rendered reply is read back: where its numbers are in range and no key and no section comes twice,
every field that it writes has the value written and the other ones are kept; where a number is out of
range or a key or a section comes twice it is rejected. The simulated device writes its reply in this
way. -/
theorem updatedFromCli_render (s : FirmwareControlState) (reply : Reply) :
    (reply.Fits → ∃ t, s.updatedFromCli reply.text = .ok t ∧
      (∀ a ∈ reply.assignments, t.get a.1 = some a.2) ∧
      (∀ f ∉ reply.assignments.map Sigma.fst, t.get f = s.get f) ∧
      t.exportRevision = s.exportRevision) ∧
    (¬ reply.Fits → ∃ e, s.updatedFromCli reply.text = .error e) ∧
    ∀ d : FakeState, d.reply.text = d.stateReply := by
  refine ⟨?_, ?_, FakeState.text_reply⟩
  · rintro ⟨hnumbers, hkeys, hsections⟩
    obtain ⟨as, has, hmem⟩ := linesAssignments_lines fun sec hsec =>
      (⟨hnumbers sec hsec, hkeys sec hsec⟩ : sec.Fits)
    rw [← reply.saidLines_text] at has
    have hnames : (sectionNames reply.text).Nodup := by
      rw [reply.sectionNames_text]
      exact hsections
    have hfields : as.map Sigma.fst = namedFields reply.text := linesAssignments_fields has
    have hok := (updatedFromCli_ok_iff (s := s)).mpr ⟨hnames, as, has, rfl⟩
    rw [reply.hasExportLine_text] at hok
    refine ⟨s.assign as, hok, fun a ha => ?_, fun f hf => ?_, s.exportRevision_assign as⟩
    · exact s.get_assign (hfields ▸ reply.nodup_namedFields hsections) (hmem a ha)
    · refine s.get_assign_other fun hin => hf ?_
      rw [hfields, reply.namedFields_text, List.mem_flatMap] at hin
      obtain ⟨sec, hsec, hin⟩ := hin
      rw [Reply.assignments, List.map_flatMap, List.mem_flatMap]
      exact ⟨sec, hsec, sec.lineFields_line f hin⟩
  · intro hout
    rw [raises_iff]
    rintro ⟨hnames, as, has⟩
    rw [reply.sectionNames_text] at hnames
    rw [reply.saidLines_text] at has
    have hfits := fits_of_linesAssignments has
    exact hout ⟨fun sec hsec => (hfits sec hsec).1, fun sec hsec => (hfits sec hsec).2, hnames⟩

/-- A host that knows of another device is sent two sections, the second with its keys in an order of
its own. -/
theorem updatedFromCli_render_used :
    ∃ t, FirmwareControlState.updatedFromCli { sdUsed := some 9, sdReady := some true }
        "+STATE:IDLE\r\n+SD:CAPACITY=64,USED=5\r\n".toList = .ok t ∧
      t.acquisitionState = some "IDLE".toList ∧ t.sdUsed = some 5 ∧ t.sdCapacity = some 64 ∧
      t.sdReady = some true := by
  let idle : ReplySection := .state ⟨"IDLE".toList, by decide, by decide⟩
  let sd : ReplySection := .keyed .sd
    [⟨("CAPACITY", .sdCapacity), by decide, .number 64⟩, ⟨("USED", .sdUsed), by decide, .number 5⟩]
  let reply : Reply := {
    lines := [(some idle, "\r\n".toList), (some sd, "\r\n".toList)]
    breaks := by
      intro line hline
      have hend : line.2 = "\r\n".toList := by
        simp only [List.mem_cons, List.not_mem_nil, or_false] at hline
        obtain rfl | rfl := hline
        · rfl
        · rfl
      rw [hend]
      decide
    separated := by
      intro line hline
      rw [List.mem_singleton.mp hline]
      decide }
  have hsections : reply.sections = [idle, sd] := rfl
  have hfits : reply.Fits := by
    refine ⟨fun sec hsec n hn => ?_, fun sec hsec => ?_, ?_⟩
    · rw [hsections, List.mem_cons, List.mem_singleton] at hsec
      obtain rfl | rfl := hsec
      · exact (List.not_mem_nil hn).elim
      · exact (by decide : ∀ n ∈ [64, 5], n ≤ maximumUnsignedValue) n hn
    · rw [hsections, List.mem_cons, List.mem_singleton] at hsec
      obtain rfl | rfl := hsec
      · exact List.nodup_nil
      · exact (by decide : ["CAPACITY".toList, "USED".toList].Nodup)
    · exact (by decide : ["+STATE".toList, "+SD".toList].Nodup)
  have hassignments : reply.assignments =
      [⟨.acquisitionState, "IDLE".toList⟩, ⟨.sdCapacity, (64 : Nat)⟩, ⟨.sdUsed, (5 : Nat)⟩] := rfl
  obtain ⟨t, ht, hvalues, hkept, -⟩ :=
    (updatedFromCli_render { sdUsed := some 9, sdReady := some true } reply).1 hfits
  rw [hassignments] at hvalues hkept
  simp only [List.forall_mem_cons] at hvalues
  obtain ⟨state, capacity, used, -⟩ := hvalues
  exact ⟨t, ht, state, used, capacity, hkept .sdReady (by decide)⟩

end SensorHost.Protocol
