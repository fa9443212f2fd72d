import SensorHost.Ota.Safety
import SensorHost.Ota.Trace

/-!
# Malformed replies

Which reply lines the parsers refuse with their own error, and which end an upload with an error that
it does not declare (`parseResponse_codec`, `parseReady_codec`, `upload_declares_iff`).

A line fails a parser in another way than by `OtaCodecError` where it is not ASCII, or where it has
all its fields and an integer among them is no numeral. An upload passes such a failure on, and has
two more of its own. The handshake does not wrap the error of `parse_ready`, so that a READY line
which it refuses ends the upload too; and the texts of three errors show integers that came from the
device, which Python does not print when they have too many digits: NEXT of an unexpected
acknowledgement of DATA, SEQ and NEXT of a rejection, and MAX of a READY line that is less than the
image. The conditions are stated on the fields of the lines (`ReadableAnswer`, `ReadyLine`, `Sized`).

The parsers are described field by field: `Codec` says of a parser that it raises its own error or
none, and goes through sequencing. The uploader is followed by triples whose failures are declared if
and only if everything heard until then met the condition (`Declaring`), one for each of its phases.
-/

namespace SensorHost.Ota
open SensorHost.Lib

/-- The integer in a field, where there is one. -/
def number (fields : List (Text × Text)) (name : String) (base : Nat) : Option Int :=
  (fields.lookup name.toList).bind (parseInt base)

/-- A field whose integer, where there is one, can be printed. -/
def PrintableField (fields : List (Text × Text)) (name : String) : Prop :=
  ∀ v, number fields name 0 = some v → Printable v

/-- A kind of reply line: its head, the fields that it must have, and the integers among them, with
their bases. -/
structure ReplyForm where
  head : Text
  required : List String
  numbers : List (String × Nat)

namespace ReplyForm

/-- An acknowledgement. -/
def ack : ReplyForm := ⟨"+OTA:ACK,".toList, ["SEQ", "NEXT"], [("SEQ", 0), ("NEXT", 0)]⟩

/-- A rejection. -/
def nack : ReplyForm := ⟨"+OTA:NACK,".toList, ["CODE", "SEQ", "NEXT"], [("SEQ", 0), ("NEXT", 0)]⟩

/-- What answers COMMIT when the image is staged. -/
def staged : ReplyForm := ⟨"+OTA:STAGED,".toList, ["VERSION", "CRC"], [("CRC", 16)]⟩

/-- What opens a session. -/
def ready : ReplyForm := ⟨"+OTA:READY,".toList, ["MAX", "CHUNK"], [("MAX", 0), ("CHUNK", 0)]⟩

variable (form : ReplyForm) (fields : List (Text × Text))

/-- No field is missing. -/
def Complete : Prop := ∀ name ∈ form.required, (fields.lookup name.toList).isSome = true

/-- The integers are numerals. -/
def Numeric : Prop := ∀ n ∈ form.numbers, (number fields n.1 n.2).isSome = true

/-- The form of a line for `parse_response`. -/
def find? (text : Text) : Option ReplyForm :=
  if startsWith text ack.head then some ack
  else if startsWith text nack.head then some nack
  else if startsWith text staged.head then some staged
  else none

end ReplyForm

/-- The fields of a line of this form. -/
def ReplyForm.fields (form : ReplyForm) (text : Text) : Except ReplyError (List (Text × Text)) :=
  parseFields (removePrefix text form.head)

/-- A line that is ASCII, and where it is a complete reply its integers are numerals. -/
def ReadableReply (line : Bytes) : Prop :=
  ∃ text, decodeAscii line = some text ∧ ∀ form, ReplyForm.find? (strip text) = some form →
    ∀ fields, form.fields (strip text) = .ok fields → form.Complete fields → form.Numeric fields

/-- The integers that the error about a reply would show can be printed: NEXT of an acknowledgement of
DATA, SEQ and NEXT of a rejection that does not ask for the same frame again. -/
def Shown (frame : UploadFrame) (form : ReplyForm) (fields : List (Text × Text)) : Prop :=
  (form = .ack → frame.frameType = .data → PrintableField fields "NEXT") ∧
    (form = .nack →
      (fields.lookup "CODE".toList = some "OFFSET".toList ∧
        number fields "NEXT" 0 = some frame.offset) ∨
      (PrintableField fields "SEQ" ∧ PrintableField fields "NEXT"))

/-- A line that can be read as the reply to a frame, and whose integers can be shown. -/
def ReadableAnswer (frame : UploadFrame) (line : Bytes) : Prop :=
  ∃ text, decodeAscii line = some text ∧ ∀ form, ReplyForm.find? (strip text) = some form →
    ∀ fields, form.fields (strip text) = .ok fields → form.Complete fields →
      form.Numeric fields ∧ Shown frame form fields

/-- The condition of `ReadableReply`, for `parse_ready`. -/
def ReadableReady (line : Bytes) : Prop :=
  ∃ text, decodeAscii line = some text ∧ (startsWith (strip text) ReplyForm.ready.head = true →
    ∀ fields, ReplyForm.ready.fields (strip text) = .ok fields →
      ReplyForm.ready.Complete fields → ReplyForm.ready.Numeric fields)

section Parsers

variable {α β : Type}

/-- The parser does not raise a bare `ValueError`. -/
def Codec (x : Except ReplyError α) : Prop := x ≠ .error .value

/-- A parser in two steps raises as declared if the second one does on what the first returns. -/
lemma codec_bind {x : Except ReplyError α} {f : α → Except ReplyError β} (hx : Codec x) :
    Codec (x >>= f) ↔ ∀ a, x = .ok a → Codec (f a) := by
  cases x with
  | ok a =>
    refine ⟨fun h b hb => ?_, fun h => h a rfl⟩
    cases hb
    exact h
  | error e =>
    refine ⟨fun _ a ha => (nomatch ha), fun _ h => hx ?_⟩
    cases h
    rfl

/-- A missing field is raised as declared. -/
lemma codec_requireField (fields : List (Text × Text)) (name missing : String) :
    Codec (requireField fields name missing) := by
  unfold requireField
  split
  · exact fun h => (nomatch h)
  · exact fun h => (nomatch h)

/-- Fields that cannot be parsed are raised as declared. -/
lemma codec_parseFields (text : Text) : Codec (parseFields text) := by
  unfold parseFields
  generalize ([] : List (Text × Text)) = fields
  induction splitOn ',' text generalizing fields with
  | nil => exact fun h => (nomatch h)
  | cons item items ih =>
    rw [List.foldlM_cons]
    have hitem : Codec (parseField fields item) := by
      unfold parseField
      split
      · exact fun h => (nomatch h)
      · split
        · exact fun h => (nomatch h)
        · exact fun h => (nomatch h)
    exact (codec_bind hitem).mpr fun fields' _ => ih fields'

/-- A field that may be missing. -/
lemma codec_field {fields : List (Text × Text)} {name missing : String}
    {f : Text → Except ReplyError β} :
    Codec (requireField fields name missing >>= f) ↔
      ∀ value, fields.lookup name.toList = some value → Codec (f value) := by
  rw [codec_bind (codec_requireField fields name missing)]
  unfold requireField
  cases fields.lookup name.toList with
  | none => exact ⟨fun _ _ h => (nomatch h), fun _ _ h => (nomatch h)⟩
  | some value =>
    refine ⟨fun h v hv => h v ?_, fun h v hv => h v ?_⟩
    · rw [Option.some.inj hv]
    · rw [Except.ok.inj hv]

/-- An integer that may be no numeral. -/
lemma codec_int {base : Nat} {text : Text} {f : Int → Except ReplyError β} :
    Codec (intField base text >>= f) ↔ ∃ v, parseInt base text = some v ∧ Codec (f v) := by
  unfold intField
  cases parseInt base text with
  | none =>
    refine ⟨fun h => absurd rfl h, ?_⟩
    rintro ⟨v, hv, -⟩
    cases hv
  | some v =>
    refine ⟨fun h => ⟨v, rfl, h⟩, ?_⟩
    rintro ⟨w, hw, hf⟩
    cases hw
    exact hf

/-- A value raises nothing. -/
lemma codec_pure (a : α) : Codec (pure a : Except ReplyError α) := fun h => (nomatch h)

end Parsers

/-- A field that is there. -/
lemma requireField_ok {fields : List (Text × Text)} {name missing : String} {value : Text} :
    requireField fields name missing = .ok value ↔ fields.lookup name.toList = some value := by
  unfold requireField
  cases fields.lookup name.toList with
  | none => exact ⟨fun h => (nomatch h), fun h => (nomatch h)⟩
  | some v => exact ⟨fun h => congrArg some (Except.ok.inj h), fun h => congrArg _ (Option.some.inj h)⟩

/-- A numeral. -/
lemma intField_ok {base : Nat} {text : Text} {v : Int} :
    intField base text = .ok v ↔ parseInt base text = some v := by
  unfold intField
  cases parseInt base text with
  | none => exact ⟨fun h => (nomatch h), fun h => (nomatch h)⟩
  | some w => exact ⟨fun h => congrArg some (Except.ok.inj h), fun h => congrArg _ (Option.some.inj h)⟩

/-- A sequence returns what its second part returns behind the first. -/
lemma except_bind_ok {α β : Type} {x : Except ReplyError α} {f : α → Except ReplyError β} {b : β} :
    (x >>= f) = .ok b ↔ ∃ a, x = .ok a ∧ f a = .ok b := by
  cases x with
  | ok a =>
    refine ⟨fun h => ⟨a, rfl, h⟩, ?_⟩
    rintro ⟨a', ha, hb⟩
    cases ha
    exact hb
  | error e =>
    refine ⟨fun h => (nomatch h), ?_⟩
    rintro ⟨a', ha, -⟩
    cases ha

/-- What a parser says of the fields that it has split off. -/
lemma codec_fields {α : Type} {text : Text} {f : List (Text × Text) → Except ReplyError α}
    {form : ReplyForm} (hf : ∀ fields, Codec (f fields) ↔ (form.Complete fields → form.Numeric fields)) :
    Codec (parseFields text >>= f) ↔
      ∀ fields, parseFields text = .ok fields → form.Complete fields → form.Numeric fields := by
  rw [codec_bind (codec_parseFields text)]
  exact forall_congr' fun fields => imp_congr_right fun _ => hf fields

/-- Two integers, as they stand in most replies. -/
lemma codec_two {α : Type} {fields : List (Text × Text)} {first second missing : String}
    {g : Int → Int → α} :
    Codec (do
        let a ← requireField fields first missing
        let b ← requireField fields second missing
        let a ← intField 0 a
        let b ← intField 0 b
        return g a b) ↔
      ((fields.lookup first.toList).isSome = true → (fields.lookup second.toList).isSome = true →
        (number fields first 0).isSome = true ∧ (number fields second 0).isSome = true) := by
  unfold number
  simp only [codec_field, codec_int, codec_pure, and_true]
  cases fields.lookup first.toList with
  | none => simp
  | some a =>
    cases fields.lookup second.toList with
    | none => simp
    | some b => simp [Option.isSome_iff_exists]

/-- An acknowledgement can be read if and only if its integers are numerals. -/
lemma parseAck_codec (text : Text) : Codec (parseAck text) ↔ ∀ fields, parseFields text = .ok fields →
    ReplyForm.ack.Complete fields → ReplyForm.ack.Numeric fields := by
  refine codec_fields fun fields => codec_two.trans ?_
  unfold ReplyForm.Complete ReplyForm.Numeric ReplyForm.ack
  simp only [List.forall_mem_cons, List.not_mem_nil, IsEmpty.forall_iff, implies_true, and_true,
    and_imp]

/-- So can a rejection. -/
lemma parseNack_codec (text : Text) : Codec (parseNack text) ↔ ∀ fields,
    parseFields text = .ok fields → ReplyForm.nack.Complete fields →
      ReplyForm.nack.Numeric fields := by
  refine codec_fields fun fields => codec_field.trans ?_
  unfold ReplyForm.Complete ReplyForm.Numeric ReplyForm.nack
  simp only [codec_two, List.forall_mem_cons, List.not_mem_nil, IsEmpty.forall_iff, implies_true,
    and_true, and_imp, Option.isSome_iff_exists (x := fields.lookup "CODE".toList),
    forall_exists_index]

/-- And the answer to COMMIT. -/
lemma parseStaged_codec (text : Text) : Codec (parseStaged text) ↔ ∀ fields,
    parseFields text = .ok fields → ReplyForm.staged.Complete fields →
      ReplyForm.staged.Numeric fields := by
  refine codec_fields fun fields => codec_field.trans ?_
  unfold ReplyForm.Complete ReplyForm.Numeric ReplyForm.staged number
  simp only [codec_field, codec_int, codec_pure, and_true, List.forall_mem_cons,
    List.not_mem_nil, IsEmpty.forall_iff, implies_true, and_imp, Option.isSome_iff_exists,
    Option.bind_eq_some_iff, forall_exists_index]
  refine forall_congr' fun version => imp_congr_right fun _ => forall_congr' fun crc =>
    imp_congr_right fun hcrc => ⟨fun ⟨v, hv⟩ => ⟨v, crc, hcrc, hv⟩, ?_⟩
  rintro ⟨v, crc', hcrc', hv⟩
  cases hcrc.symm.trans hcrc'
  exact ⟨v, hv⟩

/-- And what is behind the head of a READY line. -/
lemma parseReadyFields_codec (text : Text) : Codec (parseReadyFields text) ↔ ∀ fields,
    parseFields text = .ok fields → ReplyForm.ready.Complete fields →
      ReplyForm.ready.Numeric fields := by
  refine codec_fields fun fields => codec_two.trans ?_
  unfold ReplyForm.Complete ReplyForm.Numeric ReplyForm.ready
  simp only [List.forall_mem_cons, List.not_mem_nil, IsEmpty.forall_iff, implies_true, and_true,
    and_imp]

/-- A strict decode that may fail. -/
lemma codec_replyText {α : Type} {line : Bytes} {f : Text → Except ReplyError α} :
    Codec (replyText line >>= f) ↔ ∃ text, decodeAscii line = some text ∧ Codec (f (strip text)) := by
  unfold replyText
  cases decodeAscii line with
  | none =>
    refine ⟨fun h => absurd rfl h, ?_⟩
    rintro ⟨text, htext, -⟩
    cases htext
  | some text =>
    refine ⟨fun h => ⟨text, rfl, h⟩, ?_⟩
    rintro ⟨text', htext, hf⟩
    cases htext
    exact hf

/-- What `parse_response` does with the stripped text of a line. -/
def parseReply (text : Text) : Except ReplyError DeviceResponse :=
  if startsWith text ReplyForm.ack.head then parseAck (removePrefix text ReplyForm.ack.head)
  else if startsWith text ReplyForm.nack.head then parseNack (removePrefix text ReplyForm.nack.head)
  else if startsWith text ReplyForm.staged.head then
    parseStaged (removePrefix text ReplyForm.staged.head)
  else codecError ("unexpected device response: ".toList ++ reprText text)

/-- A line is read by the branch of its form, or refused. -/
lemma find?_cases (text : Text) {P : Option ReplyForm → Except ReplyError DeviceResponse → Prop}
    (ack : P (some .ack) (parseAck (removePrefix text ReplyForm.ack.head)))
    (nack : P (some .nack) (parseNack (removePrefix text ReplyForm.nack.head)))
    (staged : P (some .staged) (parseStaged (removePrefix text ReplyForm.staged.head)))
    (other : P none (codecError ("unexpected device response: ".toList ++ reprText text))) :
    P (ReplyForm.find? text) (parseReply text) := by
  unfold ReplyForm.find? parseReply
  by_cases hack : startsWith text ReplyForm.ack.head = true
  · rw [if_pos hack, if_pos hack]
    exact ack
  rw [if_neg hack, if_neg hack]
  by_cases hnack : startsWith text ReplyForm.nack.head = true
  · rw [if_pos hnack, if_pos hnack]
    exact nack
  rw [if_neg hnack, if_neg hnack]
  by_cases hstaged : startsWith text ReplyForm.staged.head = true
  · rw [if_pos hstaged, if_pos hstaged]
    exact staged
  rw [if_neg hstaged, if_neg hstaged]
  exact other

/-- What is asked of the form of a line with a form is asked of that form. -/
lemma forall_form {form : ReplyForm} {P : ReplyForm → Prop} :
    (∀ f, some form = some f → P f) ↔ P form := by
  refine ⟨fun h => h form rfl, fun h f heq => ?_⟩
  cases heq
  exact h

/-- `parse_response` raises its own errors only, if and only if the line is readable. -/
lemma parseResponse_codec (line : Bytes) : Codec (parseResponse line) ↔ ReadableReply line := by
  refine codec_replyText.trans (exists_congr fun text => and_congr_right fun _ => ?_)
  refine find?_cases (strip text) (P := fun form x => Codec x ↔ ∀ f, form = some f → ∀ fields,
    f.fields (strip text) = .ok fields → f.Complete fields → f.Numeric fields) ?_ ?_ ?_ ?_
  · refine Iff.trans ?_ forall_form.symm
    exact parseAck_codec _
  · refine Iff.trans ?_ forall_form.symm
    exact parseNack_codec _
  · refine Iff.trans ?_ forall_form.symm
    exact parseStaged_codec _
  · exact ⟨fun _ _ h => (nomatch h), fun _ h => (nomatch h)⟩

/-- So does `parse_ready`. -/
lemma parseReady_codec (line : Bytes) : Codec (parseReady line) ↔ ReadableReady line := by
  refine codec_replyText.trans (exists_congr fun text => and_congr_right fun _ => ?_)
  generalize strip text = text
  cases hready : startsWith text ReplyForm.ready.head with
  | true =>
    rw [if_pos (show startsWith text "+OTA:READY,".toList = true from hready)]
    exact (parseReadyFields_codec _).trans ⟨fun h _ => h, fun h => h rfl⟩
  | false =>
    rw [if_neg (Bool.eq_false_iff.mp (show startsWith text "+OTA:READY,".toList = false from hready))]
    exact ⟨fun _ h => (nomatch h), fun _ h => (nomatch h)⟩

/-- A READY line that is ASCII, names all its fields, and whose integers are numerals. -/
def ReadyLine (line : Bytes) : Prop :=
  ∃ text, decodeAscii line = some text ∧ startsWith (strip text) ReplyForm.ready.head = true ∧
    ∃ fields, ReplyForm.ready.fields (strip text) = .ok fields ∧ ReplyForm.ready.Complete fields ∧
      ReplyForm.ready.Numeric fields

/-- A number stands in a field. -/
lemma isSome_of_number {fields : List (Text × Text)} {name : String} {base : Nat} {v : Int}
    (h : number fields name base = some v) : (fields.lookup name.toList).isSome = true := by
  obtain ⟨value, hvalue, -⟩ := Option.bind_eq_some_iff.mp h
  rw [hvalue]
  rfl

/-- A READY line that is returned has all its fields, and MAX is its first number. -/
lemma parseReadyFields_ok {text : Text} {ready : Int × Int} (h : parseReadyFields text = .ok ready) :
    ∃ fields, parseFields text = .ok fields ∧ ReplyForm.ready.Complete fields ∧
      ReplyForm.ready.Numeric fields ∧ number fields "MAX" 0 = some ready.1 := by
  unfold parseReadyFields at h
  simp only [except_bind_ok, requireField_ok, intField_ok] at h
  obtain ⟨fields, hfields, max, hmax, chunk, hchunk, m, hm, c, hc, hready⟩ := h
  cases hready
  have hfirst : number fields "MAX" 0 = some m := Option.bind_eq_some_iff.mpr ⟨max, hmax, hm⟩
  have hsecond : number fields "CHUNK" 0 = some c := Option.bind_eq_some_iff.mpr ⟨chunk, hchunk, hc⟩
  refine ⟨fields, hfields, ?_, ?_, hfirst⟩
  · unfold ReplyForm.Complete ReplyForm.ready
    simp only [List.forall_mem_cons]
    exact ⟨isSome_of_number hfirst, isSome_of_number hsecond, fun _ h => (nomatch h)⟩
  · unfold ReplyForm.Numeric ReplyForm.ready
    simp only [List.forall_mem_cons, hfirst, hsecond]
    exact ⟨rfl, rfl, fun _ h => (nomatch h)⟩

/-- A READY line whose numbers are there is returned. -/
lemma exists_parseReadyFields {text : Text} {fields : List (Text × Text)}
    (hfields : parseFields text = .ok fields) (numeric : ReplyForm.ready.Numeric fields) :
    ∃ ready, parseReadyFields text = .ok ready := by
  unfold ReplyForm.Numeric ReplyForm.ready number at numeric
  simp only [List.forall_mem_cons, List.not_mem_nil, IsEmpty.forall_iff, implies_true, and_true,
    Option.isSome_iff_exists, Option.bind_eq_some_iff] at numeric
  obtain ⟨⟨m, max, hmax, hm⟩, c, chunk, hchunk, hc⟩ := numeric
  refine ⟨(m, c), ?_⟩
  unfold parseReadyFields
  simp only [except_bind_ok, requireField_ok, intField_ok]
  exact ⟨fields, hfields, max, hmax, chunk, hchunk, m, hm, c, hc, rfl⟩

/-- What the host has read of a READY line that it could read. -/
lemma ReadyLine.of_parse {line : Bytes} {ready : Int × Int} (h : parseReady line = .ok ready) :
    ReadyLine line ∧ ∃ text fields, decodeAscii line = some text ∧
      ReplyForm.ready.fields (strip text) = .ok fields ∧ number fields "MAX" 0 = some ready.1 := by
  unfold parseReady replyText at h
  cases htext : decodeAscii line with
  | none =>
    rw [htext] at h
    cases h
  | some text =>
    rw [htext] at h
    replace h : (if startsWith (strip text) ReplyForm.ready.head then
      parseReadyFields (removePrefix (strip text) ReplyForm.ready.head) else
        codecError _) = .ok ready := h
    by_cases hhead : startsWith (strip text) ReplyForm.ready.head = true
    · rw [if_pos hhead] at h
      obtain ⟨fields, hfields, complete, numeric, hmax⟩ := parseReadyFields_ok h
      exact ⟨⟨text, htext, hhead, fields, hfields, complete, numeric⟩, text, fields, rfl, hfields,
        hmax⟩
    · rw [if_neg hhead] at h
      cases h

/-- `parse_ready` returns on the READY lines that can be read. -/
lemma ReadyLine.parse {line : Bytes} (h : ReadyLine line) : ∃ ready, parseReady line = .ok ready := by
  obtain ⟨text, htext, hhead, fields, hfields, -, numeric⟩ := h
  obtain ⟨ready, hready⟩ := exists_parseReadyFields hfields numeric
  refine ⟨ready, ?_⟩
  unfold parseReady replyText
  rw [htext]
  show (if startsWith (strip text) ReplyForm.ready.head then
    parseReadyFields (removePrefix (strip text) ReplyForm.ready.head) else _) = .ok ready
  rw [if_pos hhead]
  exact hready

/-- `parse_response` returns an acknowledgement with its numbers. -/
lemma parseAck_ok {text : Text} {r : DeviceResponse} : parseAck text = .ok r ↔
    ∃ fields s n, parseFields text = .ok fields ∧ number fields "SEQ" 0 = some s ∧
      number fields "NEXT" 0 = some n ∧
        r = { acknowledged := true, sequence := s, nextOffset := n } := by
  unfold parseAck number
  simp only [except_bind_ok, requireField_ok, intField_ok, Option.bind_eq_some_iff]
  constructor
  · rintro ⟨fields, hfields, seq, hseq, next, hnext, s, hs, n, hn, hr⟩
    exact ⟨fields, s, n, hfields, ⟨seq, hseq, hs⟩, ⟨next, hnext, hn⟩, (Except.ok.inj hr).symm⟩
  · rintro ⟨fields, s, n, hfields, ⟨seq, hseq, hs⟩, ⟨next, hnext, hn⟩, rfl⟩
    exact ⟨fields, hfields, seq, hseq, next, hnext, s, hs, n, hn, rfl⟩

/-- A rejection, with its code as well. -/
lemma parseNack_ok {text : Text} {r : DeviceResponse} : parseNack text = .ok r ↔
    ∃ fields code s n, parseFields text = .ok fields ∧ fields.lookup "CODE".toList = some code ∧
      number fields "SEQ" 0 = some s ∧ number fields "NEXT" 0 = some n ∧
        r = { acknowledged := false, sequence := s, nextOffset := n, code := some code } := by
  unfold parseNack number
  simp only [except_bind_ok, requireField_ok, intField_ok, Option.bind_eq_some_iff]
  constructor
  · rintro ⟨fields, hfields, code, hcode, seq, hseq, next, hnext, s, hs, n, hn, hr⟩
    exact ⟨fields, code, s, n, hfields, hcode, ⟨seq, hseq, hs⟩, ⟨next, hnext, hn⟩,
      (Except.ok.inj hr).symm⟩
  · rintro ⟨fields, code, s, n, hfields, hcode, ⟨seq, hseq, hs⟩, ⟨next, hnext, hn⟩, rfl⟩
    exact ⟨fields, hfields, code, hcode, seq, hseq, next, hnext, s, hs, n, hn, rfl⟩

/-- The answer to COMMIT, whose numbers are zero. -/
lemma parseStaged_ok {text : Text} {r : DeviceResponse} : parseStaged text = .ok r ↔
    ∃ fields version crc, parseFields text = .ok fields ∧
      fields.lookup "VERSION".toList = some version ∧ number fields "CRC" 16 = some crc ∧
        r = { acknowledged := true, sequence := 0, nextOffset := 0, code := some "STAGED".toList,
              version := some version, crc := some crc } := by
  unfold parseStaged number
  simp only [except_bind_ok, requireField_ok, intField_ok, Option.bind_eq_some_iff]
  constructor
  · rintro ⟨fields, hfields, version, hversion, crc, hcrc, c, hc, hr⟩
    exact ⟨fields, version, c, hfields, hversion, ⟨crc, hcrc, hc⟩, (Except.ok.inj hr).symm⟩
  · rintro ⟨fields, version, c, hfields, hversion, ⟨crc, hcrc, hc⟩, rfl⟩
    exact ⟨fields, hfields, version, hversion, crc, hcrc, c, hc, rfl⟩

/-- A number that is there is the one to be printed. -/
lemma printableField_iff {fields : List (Text × Text)} {name : String} {v : Int}
    (h : number fields name 0 = some v) : PrintableField fields name ↔ Printable v := by
  refine ⟨fun hfield => hfield v h, fun hv w hw => ?_⟩
  cases h.symm.trans hw
  exact hv

/-- The condition of `Shown`, on what `parse_response` returned. -/
def Printed (frame : UploadFrame) (r : DeviceResponse) : Prop :=
  (r.acknowledged = true → frame.frameType = .data → Printable r.nextOffset) ∧
    (r.acknowledged = false →
      (r.code = some "OFFSET".toList ∧ r.nextOffset = frame.offset) ∨
      (Printable r.sequence ∧ Printable r.nextOffset))

section Shown

variable {frame : UploadFrame} {text : Text} {form : ReplyForm}

/-- The forms differ in their heads. -/
lemma form_ne {form form' : ReplyForm} (h : form.head ≠ form'.head) : form ≠ form' :=
  fun heq => h (congrArg ReplyForm.head heq)

/-- The branch of a form that returns what its fields hold, on complete numerals. -/
lemma printed_fields {x : Except ReplyError DeviceResponse}
    (codec : Codec x ↔ ∀ fields, parseFields text = .ok fields → form.Complete fields →
      form.Numeric fields)
    (holds : ∀ r, x = .ok r → ∃ fields, parseFields text = .ok fields ∧ form.Complete fields ∧
      (Printed frame r ↔ Shown frame form fields))
    (returns : ∀ fields, parseFields text = .ok fields → form.Complete fields →
      form.Numeric fields → ∃ r, x = .ok r) :
    (Codec x ∧ ∀ r, x = .ok r → Printed frame r) ↔ ∀ fields, parseFields text = .ok fields →
      form.Complete fields → form.Numeric fields ∧ Shown frame form fields := by
  constructor
  · rintro ⟨hcodec, hprinted⟩ fields hfields complete
    have numeric := codec.mp hcodec fields hfields complete
    obtain ⟨r, hr⟩ := returns fields hfields complete numeric
    obtain ⟨fields', hfields', -, hshown⟩ := holds r hr
    cases hfields.symm.trans hfields'
    exact ⟨numeric, hshown.mp (hprinted r hr)⟩
  · intro h
    refine ⟨codec.mpr fun fields hfields complete => (h fields hfields complete).1, fun r hr => ?_⟩
    obtain ⟨fields, hfields, complete, hshown⟩ := holds r hr
    exact hshown.mpr (h fields hfields complete).2

/-- An acknowledgement shows NEXT, to a DATA frame. -/
lemma parseAck_printed : (Codec (parseAck text) ∧ ∀ r, parseAck text = .ok r → Printed frame r) ↔
    ∀ fields, parseFields text = .ok fields → ReplyForm.ack.Complete fields →
      ReplyForm.ack.Numeric fields ∧ Shown frame .ack fields := by
  refine printed_fields (parseAck_codec text) (fun r hr => ?_) fun fields hfields _ numeric => ?_
  · obtain ⟨fields, s, n, hfields, hs, hn, rfl⟩ := parseAck_ok.mp hr
    refine ⟨fields, hfields, ?_, ?_⟩
    · unfold ReplyForm.Complete ReplyForm.ack
      simp only [List.forall_mem_cons]
      exact ⟨isSome_of_number hs, isSome_of_number hn, fun _ h => (nomatch h)⟩
    · have hne : ReplyForm.ack ≠ .nack := form_ne (by decide)
      unfold Printed Shown
      simp only [printableField_iff hn, hne, Bool.true_eq_false, false_implies, forall_const]
  · unfold ReplyForm.Numeric ReplyForm.ack at numeric
    simp only [List.forall_mem_cons, Option.isSome_iff_exists] at numeric
    obtain ⟨⟨s, hs⟩, ⟨n, hn⟩, -⟩ := numeric
    exact ⟨_, parseAck_ok.mpr ⟨fields, s, n, hfields, hs, hn, rfl⟩⟩

/-- A rejection shows SEQ and NEXT, unless it asks for the frame again. -/
lemma parseNack_printed : (Codec (parseNack text) ∧ ∀ r, parseNack text = .ok r → Printed frame r) ↔
    ∀ fields, parseFields text = .ok fields → ReplyForm.nack.Complete fields →
      ReplyForm.nack.Numeric fields ∧ Shown frame .nack fields := by
  refine printed_fields (parseNack_codec text) (fun r hr => ?_)
    fun fields hfields complete numeric => ?_
  · obtain ⟨fields, code, s, n, hfields, hcode, hs, hn, rfl⟩ := parseNack_ok.mp hr
    refine ⟨fields, hfields, ?_, ?_⟩
    · unfold ReplyForm.Complete ReplyForm.nack
      simp only [List.forall_mem_cons, hcode]
      exact ⟨rfl, isSome_of_number hs, isSome_of_number hn, fun _ h => (nomatch h)⟩
    · have hne : ReplyForm.nack ≠ .ack := form_ne (by decide)
      unfold Printed Shown
      simp only [printableField_iff hs, printableField_iff hn, hne, hcode, hn, Bool.false_eq_true,
        false_implies, forall_const, Option.some.injEq]
  · unfold ReplyForm.Numeric ReplyForm.nack at numeric
    unfold ReplyForm.Complete ReplyForm.nack at complete
    simp only [List.forall_mem_cons, Option.isSome_iff_exists] at numeric complete
    obtain ⟨⟨s, hs⟩, ⟨n, hn⟩, -⟩ := numeric
    obtain ⟨⟨code, hcode⟩, -⟩ := complete
    exact ⟨_, parseNack_ok.mpr ⟨fields, code, s, n, hfields, hcode, hs, hn, rfl⟩⟩

/-- The answer to COMMIT shows no number. -/
lemma parseStaged_printed :
    (Codec (parseStaged text) ∧ ∀ r, parseStaged text = .ok r → Printed frame r) ↔
      ∀ fields, parseFields text = .ok fields → ReplyForm.staged.Complete fields →
        ReplyForm.staged.Numeric fields ∧ Shown frame .staged fields := by
  refine printed_fields (parseStaged_codec text) (fun r hr => ?_)
    fun fields hfields complete numeric => ?_
  · obtain ⟨fields, version, crc, hfields, hversion, hcrc, rfl⟩ := parseStaged_ok.mp hr
    refine ⟨fields, hfields, ?_, ?_⟩
    · unfold ReplyForm.Complete ReplyForm.staged
      simp only [List.forall_mem_cons, hversion]
      exact ⟨rfl, isSome_of_number hcrc, fun _ h => (nomatch h)⟩
    · have hack : ReplyForm.staged ≠ .ack := form_ne (by decide)
      have hnack : ReplyForm.staged ≠ .nack := form_ne (by decide)
      have hzero : Printable 0 := printable_of_lt (by decide) (by decide)
      unfold Printed Shown
      simp [hack, hnack, hzero]
  · unfold ReplyForm.Numeric ReplyForm.staged at numeric
    unfold ReplyForm.Complete ReplyForm.staged at complete
    simp only [List.forall_mem_cons, Option.isSome_iff_exists] at numeric complete
    obtain ⟨⟨crc, hcrc⟩, -⟩ := numeric
    obtain ⟨⟨version, hversion⟩, -⟩ := complete
    exact ⟨_, parseStaged_ok.mpr ⟨fields, version, crc, hfields, hversion, hcrc, rfl⟩⟩

/-- A line can be read as the answer to a frame if and only if `parse_response` raises its own errors
only, and what it returns can be shown. -/
lemma readableAnswer_iff (frame : UploadFrame) (line : Bytes) : ReadableAnswer frame line ↔
    Codec (parseResponse line) ∧ ∀ r, parseResponse line = .ok r → Printed frame r := by
  unfold ReadableAnswer
  cases htext : decodeAscii line with
  -- a line that is not ASCII raises at the decoding
  | none =>
    have hvalue : parseResponse line = .error .value := by
      unfold parseResponse replyText
      rw [htext]
      rfl
    rw [hvalue]
    constructor
    · rintro ⟨text, h, -⟩
      cases h
    · exact fun h => absurd rfl h.1
  -- otherwise it is read in one of the forms, or refused
  | some text =>
    have hreply : parseResponse line = parseReply (strip text) := by
      unfold parseResponse replyText
      rw [htext]
      rfl
    rw [hreply]
    have hcases : (Codec (parseReply (strip text)) ∧
        ∀ r, parseReply (strip text) = .ok r → Printed frame r) ↔
          ∀ f, ReplyForm.find? (strip text) = some f → ∀ fields, f.fields (strip text) = .ok fields →
            f.Complete fields → f.Numeric fields ∧ Shown frame f fields := by
      refine find?_cases (strip text) (P := fun form x =>
        (Codec x ∧ ∀ r, x = .ok r → Printed frame r) ↔ ∀ f, form = some f → ∀ fields,
          f.fields (strip text) = .ok fields → f.Complete fields →
            f.Numeric fields ∧ Shown frame f fields) ?_ ?_ ?_ ?_
      · refine Iff.trans ?_ forall_form.symm
        exact parseAck_printed
      · refine Iff.trans ?_ forall_form.symm
        exact parseNack_printed
      · refine Iff.trans ?_ forall_form.symm
        exact parseStaged_printed
      · exact ⟨fun _ _ h => (nomatch h), fun _ => ⟨fun h => (nomatch h), fun _ h => (nomatch h)⟩⟩
    rw [hcases]
    constructor
    · rintro ⟨text', h, hfields⟩
      cases h
      exact hfields
    · exact fun h => ⟨text, rfl, h⟩

end Shown

/-- The lines that came right behind something sent, each with what was sent. -/
def answers : List WireEvent → List (Bytes × Bytes)
  | [] => []
  | .sent data :: .heard (some line) :: events => (data, line) :: answers events
  | _ :: events => answers events

section Answers

variable (crc32 : Bytes → UInt32)

/-- Where the line is read as the reply to what was sent, it can be read, and what an error about it
shows can be printed. -/
def Readable (data line : Bytes) : Prop :=
  if data = beginCommand then
    asciiBytes "+OTA:READY,".toList <+: stripBytes line → ReadyLine line
  else ∀ frame, decodeFrame crc32 data = .ok frame → ReadableAnswer frame line

/-- Every answer can be read. -/
def AllReadable (events : List WireEvent) : Prop := ∀ a ∈ answers events, Readable crc32 a.1 a.2

end Answers

/-- Where the handshake was completed and MAX is negative, MAX can be printed: it is then less than
any image, and the error shows it. -/
def Sized (events : List WireEvent) : Prop :=
  ∀ ready ok rest, events = .sent beginCommand :: .heard (some ready) :: .heard (some ok) :: rest →
    stripBytes ok = asciiBytes "OK".toList → ∀ text fields max, decodeAscii ready = some text →
      ReplyForm.ready.fields (strip text) = .ok fields → number fields "MAX" 0 = some max →
        0 ≤ max ∨ Printable max

/-- All that was heard can be read and shown. -/
def Clear (crc32 : Bytes → UInt32) (events : List WireEvent) : Prop :=
  AllReadable crc32 events ∧ Sized events

/-- What was sent last has been answered, or has not been in time. -/
def Settled (events : List WireEvent) : Prop := ∀ data, events.getLast? ≠ some (.sent data)

/-- What is settled is settled without its first event. -/
lemma Settled.tail {event : WireEvent} {events : List WireEvent} (settled : Settled (event :: events)) :
    Settled events := by
  intro data hlast
  refine settled data ?_
  rw [List.getLast?_cons, hlast]
  rfl

/-- A line just heard leaves all settled. -/
lemma settled_heard (events : List WireEvent) (line : Option Bytes) :
    Settled (events ++ [.heard line]) := by
  intro data hlast
  rw [List.getLast?_concat] at hlast
  cases hlast

/-- Behind what is settled, the answers are those of both parts. -/
lemma answers_append {before : List WireEvent} (settled : Settled before) (after : List WireEvent) :
    answers (before ++ after) = answers before ++ answers after := by
  induction before using answers.induct with
  | case1 => rfl
  | case2 data line events ih =>
    show (data, line) :: answers (events ++ after) = _
    rw [ih settled.tail.tail]
    rfl
  | case3 event events other ih =>
    have hskip : ∀ rest, answers (event :: events ++ rest) = answers (events ++ rest) := by
      intro rest
      cases event with
      | heard line => rfl
      | sent data =>
        cases events with
        | nil => exact absurd rfl (settled data)
        | cons next events =>
          cases next with
          | sent data' => rfl
          | heard line =>
            cases line with
            | none => rfl
            | some line => exact (other data line events rfl rfl).elim
    have hself := hskip []
    rw [List.append_nil, List.append_nil] at hself
    rw [hskip, hself, ih settled.tail]

/-- The handshake is over with the third event, and nothing behind it matters for its size. -/
lemma sized_append {before : List WireEvent} (begun : 3 ≤ before.length) (after : List WireEvent) :
    Sized (before ++ after) ↔ Sized before := by
  obtain ⟨a, b, c, rest, rfl⟩ : ∃ a b c rest, before = a :: b :: c :: rest := by
    obtain _ | ⟨a, _ | ⟨b, _ | ⟨c, rest⟩⟩⟩ := before
    · simp at begun
    · simp at begun
    · simp at begun
    · exact ⟨a, b, c, rest, rfl⟩
  unfold Sized
  constructor
  · intro h ready ok rest' heq
    refine h ready ok (rest' ++ after) ?_
    rw [heq]
    rfl
  · intro h ready ok rest' heq
    rw [List.cons_append, List.cons_append, List.cons_append, List.cons.injEq, List.cons.injEq,
      List.cons.injEq] at heq
    obtain ⟨rfl, rfl, rfl, -⟩ := heq
    exact h ready ok rest rfl

/-- Before its third event the handshake is not complete. -/
lemma sized_of_short {events : List WireEvent} (short : events.length < 3) : Sized events := by
  rintro ready ok rest rfl
  exact absurd short (by simp)

/-- The errors that `upload` may raise. -/
def UploadError.Declared : UploadError → Prop
  | .package _ => True
  | .upload _ _ => True
  | .cancelled => True
  | .codec _ => False
  | .value => False
  | .transport => False

/-- What shows integers is declared if and only if they can be printed. -/
lemma showing_declared {numbers : List Int} {error : UploadError} (declared : error.Declared) :
    (showing numbers error).Declared ↔ ∀ n ∈ numbers, Printable n := by
  unfold showing
  split
  · rename_i h
    exact ⟨fun _ => h, fun _ => declared⟩
  · rename_i h
    exact ⟨fun hvalue => hvalue.elim, fun hall => absurd hall h⟩

section Triples

variable {crc32 : Bytes → UInt32} {α : Type}

variable (crc32) in
/-- A failure is a declared one if and only if all could be read and shown. -/
def Declares (error : UploadError) (log : WireLog) : Prop :=
  error.Declared ↔ Clear crc32 log.events

/-- The handshake is over and was sized, and all is settled. -/
structure Begun (events : List WireEvent) : Prop where
  settled : Settled events
  sized : Sized events
  length : 3 ≤ events.length

variable (crc32) in
/-- The handshake is over, all is settled, and could be read and shown. -/
def Good (log : WireLog) : Prop := Begun log.events ∧ AllReadable crc32 log.events

variable (crc32) in
/-- Something was just sent. -/
def Asked (data : Bytes) (log : WireLog) : Prop :=
  ∃ events, Begun events ∧ AllReadable crc32 events ∧ log.events = events ++ [.sent data]

variable (crc32) in
/-- It was just answered, or not in time. -/
def Replied (data : Bytes) (line : Option Bytes) (log : WireLog) : Prop :=
  Begun log.events ∧ (AllReadable crc32 log.events ↔ ∀ l, line = some l → Readable crc32 data l)

variable (crc32) in
/-- A frame was just acknowledged; where it is a DATA frame its NEXT is still to be shown. -/
def Confirmed (frame : UploadFrame) (response : DeviceResponse) (log : WireLog) : Prop :=
  Begun log.events ∧ (AllReadable crc32 log.events ↔
    (frame.frameType = .data → Printable response.nextOffset))

variable (crc32) in
/-- Triples over the wire whose failures are declared where all could be read and shown. -/
abbrev Declaring (P : WireLog → Prop) (p : Upload α) (Q : α → WireLog → Prop) : Prop :=
  TripleEx wireWorld P p Q (Declares crc32)

/-- Sequencing. -/
lemma Declaring.bind {β : Type} {P : WireLog → Prop} {p : Upload α} {f : α → Upload β}
    {R : α → WireLog → Prop} {Q : β → WireLog → Prop} (hp : Declaring crc32 P p R)
    (hf : ∀ a, Declaring crc32 (R a) (f a) Q) : Declaring crc32 P (p >>= f) Q :=
  TripleEx.bind (fun _ => wireWorld_stable _) hp hf

/-- What is good is clear. -/
lemma Good.clear {log : WireLog} (h : Good crc32 log) : Clear crc32 log.events := ⟨h.2, h.1.sized⟩

/-- Raising an error that is declared exactly where all is clear. -/
lemma throw_declares {P : WireLog → Prop} {error : UploadError}
    (h : ∀ log, P log → (error.Declared ↔ Clear crc32 log.events)) {Q : α → WireLog → Prop} :
    Declaring crc32 P (throw error) Q := TripleEx.throw (wireWorld_stable _) h

/-- Raising a declared error where all is clear. -/
lemma throw_clear {P : WireLog → Prop} {error : UploadError} (declared : error.Declared)
    (clear : ∀ log, P log → Clear crc32 log.events) {Q : α → WireLog → Prop} :
    Declaring crc32 P (throw error) Q :=
  throw_declares fun log h => iff_of_true declared (clear log h)

/-- Raising a declared error where all is good. -/
lemma throw_declaring {error : UploadError} (declared : error.Declared) {Q : α → WireLog → Prop} :
    Declaring crc32 (Good crc32) (throw error) Q := throw_clear declared fun _ => Good.clear

/-- Raising an error that is not declared, where something could not be read or shown. -/
lemma throw_undeclared {P : WireLog → Prop} {error : UploadError} (undeclared : ¬ error.Declared)
    (unclear : ∀ log, P log → ¬ Clear crc32 log.events) {Q : α → WireLog → Prop} :
    Declaring crc32 P (throw error) Q :=
  throw_declares fun log h => iff_of_false undeclared (unclear log h)

/-- Refusing with a declared error, where that happens behind clear events only. -/
lemma refuseIf_clear {P : WireLog → Prop} {bad : Prop} [Decidable bad] {error : UploadError}
    (declared : error.Declared) (clear : bad → ∀ log, P log → Clear crc32 log.events) :
    Declaring crc32 P (refuseIf bad error) fun _ log => ¬ bad ∧ P log := by
  unfold refuseIf
  split
  · rename_i hbad
    exact throw_clear declared (clear hbad)
  · rename_i hgood
    exact TripleEx.pure (wireWorld_stable _) fun log hlog => ⟨hgood, hlog⟩

/-- Refusing with a declared error where all is good. -/
lemma refuseIf_declaring {bad : Prop} [Decidable bad] {error : UploadError}
    (declared : error.Declared) :
    Declaring crc32 (Good crc32) (refuseIf bad error) fun _ log => ¬ bad ∧ Good crc32 log :=
  refuseIf_clear declared fun _ _ => Good.clear

/-- The fields of a READY line, or an error that is not declared. -/
lemma readyFields_declaring {ready : Bytes} {P : WireLog → Prop}
    (parses : ∀ log, P log → Clear crc32 log.events → ∃ fields, parseReady ready = .ok fields) :
    Declaring crc32 P (readyFields ready) fun fields log =>
      parseReady ready = .ok fields ∧ P log := by
  unfold readyFields
  cases hparse : parseReady ready with
  | ok fields => exact TripleEx.pure (wireWorld_stable _) fun log hlog => ⟨rfl, hlog⟩
  | error e =>
    have hbad (log : WireLog) (hlog : P log) : ¬ Clear crc32 log.events := by
      intro hclear
      obtain ⟨fields, hfields⟩ := parses log hlog hclear
      cases hparse.symm.trans hfields
    cases e with
    | codec e => exact throw_undeclared id hbad
    | value => exact throw_undeclared id hbad

/-- Progress changes nothing. -/
lemma notify_declaring {sent total : Nat} {phase : Phase} :
    Declaring crc32 (Good crc32) (notify sent total phase) fun _ => Good crc32 := by
  refine TripleEx.perform (wireWorld_stable _) ?_ fun _ => wireWorld_stable _
  rintro log r log' hgood rfl
  exact hgood

/-- What comes behind something settled is read for itself. -/
lemma AllReadable.append {before after : List WireEvent} (settled : Settled before) :
    AllReadable crc32 (before ++ after) ↔ AllReadable crc32 before ∧ AllReadable crc32 after := by
  unfold AllReadable
  rw [answers_append settled, List.forall_mem_append]

/-- Nothing has answered what was just sent. -/
lemma allReadable_sent (data : Bytes) : AllReadable crc32 [.sent data] := fun _ h => (nomatch h)

/-- A line by itself answers nothing. -/
lemma allReadable_heard (line : Option Bytes) : AllReadable crc32 [.heard line] :=
  fun _ h => (nomatch h)

/-- An answer can be read if it can be read as the reply to what was sent. -/
lemma allReadable_answer {data : Bytes} {line : Option Bytes} :
    AllReadable crc32 [.sent data, .heard line] ↔ ∀ l, line = some l → Readable crc32 data l := by
  unfold AllReadable
  cases line with
  | none => exact ⟨fun _ l hl => (nomatch hl), fun _ a ha => (nomatch ha)⟩
  | some line =>
    show (∀ a ∈ [(data, line)], Readable crc32 a.1 a.2) ↔ _
    rw [List.forall_mem_singleton]
    refine ⟨fun h l hl => ?_, fun h => h line rfl⟩
    cases hl
    exact h

/-- Whatever was heard last, the handshake stays over and sized. -/
lemma Begun.heard {before : List WireEvent} (begun : Begun before) (events : List WireEvent)
    (line : Option Bytes) : Begun (before ++ (events ++ [.heard line])) := by
  refine ⟨?_, (sized_append begun.length _).mpr begun.sized, ?_⟩
  · rw [← List.append_assoc]
    exact settled_heard _ _
  · rw [List.length_append]
    exact begun.length.trans (Nat.le_add_right _ _)

/-- A line that answers nothing is not parsed. -/
lemma readline_declaring {timeout : ℚ} :
    Declaring crc32 (Good crc32) (readline timeout) fun _ => Good crc32 := by
  refine TripleEx.perform (wireWorld_stable _) ?_ fun _ => wireWorld_stable _
  rintro log line log' ⟨begun, readable⟩ rfl
  exact ⟨begun.heard [] line,
    (AllReadable.append begun.settled).mpr ⟨readable, allReadable_heard line⟩⟩

/-- Sending asks. -/
lemma send_declaring {data : Bytes} :
    Declaring crc32 (Good crc32) (send data) fun _ => Asked crc32 data := by
  intro log r log' hgood hrun
  have hat : At log.events log := rfl
  have hwritten : TripleEx wireWorld (At log.events) (send data)
      (fun _ => At (log.events ++ [.sent data])) (Declares crc32) := send_at
  have hsent := hwritten log r log' hat hrun
  exact ⟨fun a ha => ⟨log.events, hgood.1, hgood.2, hsent.1 a ha⟩, hsent.2⟩

/-- Reading a line answers. -/
lemma answer_declaring {data : Bytes} {timeout : ℚ} :
    Declaring crc32 (Asked crc32 data) (readline timeout) (Replied crc32 data) := by
  refine TripleEx.perform (wireWorld_stable _) ?_ fun _ => wireWorld_stable _
  rintro log line log' ⟨events, begun, readable, hevents⟩ rfl
  have hsplit : (log.push (.heard line)).events = events ++ [.sent data, .heard line] := by
    unfold WireLog.push
    rw [hevents, List.append_assoc]
    rfl
  refine ⟨?_, ?_⟩
  · rw [hsplit]
    exact begun.heard [.sent data] line
  · rw [hsplit, AllReadable.append begun.settled, and_iff_right readable, allReadable_answer]

/-- An answer that can be read. -/
lemma Replied.good {data : Bytes} {line : Option Bytes} {log : WireLog}
    (h : Replied crc32 data line log) (readable : ∀ l, line = some l → Readable crc32 data l) :
    Good crc32 log := ⟨h.1, h.2.mpr readable⟩

/-- An answer that cannot. -/
lemma Replied.unclear {data line : Bytes} {log : WireLog} (h : Replied crc32 data (some line) log)
    (unreadable : ¬ Readable crc32 data line) : ¬ Clear crc32 log.events :=
  fun hclear => unreadable (h.2.mp hclear.1 line rfl)

/-- A check of the cancel flag goes on, or ends the upload with the cancellation. -/
lemma checkCancelled_declaring {sequence offset : Int} {P : List WireEvent → Prop}
    (clear : ∀ events, P events → Clear crc32 events ∧ ∀ data, Clear crc32 (events ++ [.sent data])) :
    Declaring crc32 (fun log => P log.events) (checkCancelled crc32 sequence offset)
      fun _ log => P log.events := by
  refine Declaring.bind (R := fun _ log => P log.events)
    (TripleEx.perform (wireWorld_stable _) ?_ fun _ => wireWorld_stable _) fun requested => ?_
  · rintro log requested log' hgood rfl
    exact hgood
  · cases requested with
    | false => exact TripleEx.pure (wireWorld_stable _) fun log hgood => hgood
    | true =>
      refine Declaring.bind (R := fun _ log => Clear crc32 log.events) ?_ fun _ => ?_
      · unfold cancel
        split
        · exact TripleEx.pure (wireWorld_stable _) fun log hlog => (clear _ hlog).1
        · refine Declaring.bind (R := fun _ log => Clear crc32 log.events)
            (TripleEx.perform (wireWorld_stable _) ?_ fun _ => wireWorld_stable _) fun _ => ?_
          · rintro log sent log' hlog ⟨-, rfl⟩
            exact (clear _ hlog).2 _
          · exact TripleEx.pure (wireWorld_stable _) fun log hlog => hlog
      · exact throw_clear (by exact trivial) fun _ h => h

/-- The check where all is good. -/
lemma checkCancelled_good {sequence offset : Int} :
    Declaring crc32 (Good crc32) (checkCancelled crc32 sequence offset) fun _ => Good crc32 := by
  refine checkCancelled_declaring (P := fun events => Begun events ∧ AllReadable crc32 events) ?_
  rintro events ⟨begun, readable⟩
  refine ⟨⟨readable, begun.sized⟩, fun data => ⟨?_, ?_⟩⟩
  · exact (AllReadable.append begun.settled).mpr ⟨readable, allReadable_sent data⟩
  · exact (sized_append begun.length _).mpr begun.sized

/-- The answer to a frame is what `parse_response` reads, and what an error about it shows. -/
lemma readable_frame {frame : UploadFrame} {data : Bytes} (line : Bytes)
    (encoded : encodeFrame crc32 frame = .ok data) : Readable crc32 data line ↔
      Codec (parseResponse line) ∧ ∀ r, parseResponse line = .ok r → Printed frame r := by
  unfold Readable
  rw [if_neg (encoded_ne_beginCommand encoded), decodeFrame_encodeFrame encoded,
    ← readableAnswer_iff]
  refine ⟨fun h => h frame rfl, fun h frame' heq => ?_⟩
  cases heq
  exact h

/-- A rejection is declared if its numbers can be printed. -/
lemma rejected_declared {frame : UploadFrame} {response : DeviceResponse} :
    (OtaUploader.rejected frame response).Declared ↔
      ∀ n ∈ [response.sequence, response.nextOffset], Printable n := by
  unfold OtaUploader.rejected
  exact showing_declared (by exact trivial)

/-- So is the error about an offset. -/
lemma unexpectedOffset_declared {nextOffset : Int} :
    (OtaUploader.unexpectedOffset nextOffset).Declared ↔ Printable nextOffset := by
  unfold OtaUploader.unexpectedOffset
  rw [showing_declared (by exact trivial)]
  exact List.forall_mem_singleton

/-- And the one about the size of the image. -/
lemma imageTooLarge_declared {imageSize : Nat} {maxImage : Int} :
    (OtaUploader.imageTooLarge imageSize maxImage).Declared ↔ Printable maxImage := by
  unfold OtaUploader.imageTooLarge
  rw [showing_declared (by exact trivial)]
  exact List.forall_mem_singleton

section Replied

variable {frame : UploadFrame} {data line : Bytes} {response : DeviceResponse}

/-- Of an acknowledgement only the number of a DATA frame is shown. -/
lemma printed_acknowledged (ack : response.acknowledged = true) :
    Printed frame response ↔ (frame.frameType = .data → Printable response.nextOffset) := by
  unfold Printed
  simp [ack]

/-- Where the frame is sent again nothing is shown. -/
lemma printed_again (nack : response.acknowledged = false)
    (again : response.code = some "OFFSET".toList ∧ response.nextOffset = frame.offset) :
    Printed frame response := by
  unfold Printed
  simp [nack, again]

/-- Of a rejection both numbers are. -/
lemma printed_rejected (nack : response.acknowledged = false)
    (other : ¬ (response.code = some "OFFSET".toList ∧ response.nextOffset = frame.offset)) :
    Printed frame response ↔ ∀ n ∈ [response.sequence, response.nextOffset], Printable n := by
  unfold Printed
  simp only [nack, other, Bool.false_eq_true, false_implies, true_and, false_or,
    forall_const, List.forall_mem_cons, List.not_mem_nil, and_true]

/-- An answer that can be read leaves all good. -/
lemma good_of_readable (readable : Readable crc32 data line) (log : WireLog)
    (h : Replied crc32 data (some line) log) : Good crc32 log := by
  refine h.good fun l hl => ?_
  cases hl
  exact readable

/-- A reply is readable if what an error about it shows can be printed. -/
lemma readable_reply (encoded : encodeFrame crc32 frame = .ok data)
    (hparse : parseResponse line = .ok response) :
    Readable crc32 data line ↔ Printed frame response := by
  rw [readable_frame line encoded, hparse]
  refine ⟨fun h => h.2 response rfl, fun h => ⟨fun h => (nomatch h), fun r hr => ?_⟩⟩
  cases hr
  exact h

/-- A rejection is raised as it is if its numbers can be printed, and as a bare error otherwise. -/
lemma reject_declaring
    (readable : Readable crc32 data line ↔
      ∀ n ∈ [response.sequence, response.nextOffset], Printable n)
    {Q : DeviceResponse → WireLog → Prop} :
    Declaring crc32 (Replied crc32 data (some line))
      (throw (OtaUploader.rejected frame response)) Q := by
  refine throw_declares fun log hlog => ?_
  rw [rejected_declared, ← readable]
  exact ⟨fun h => (good_of_readable h log hlog).clear, fun hclear => hlog.2.mp hclear.1 line rfl⟩

end Replied

/-- The attempts of a frame end with its acknowledgement, or in an error that is declared if the
answers could be read and shown. -/
lemma attempts_declaring {frame : UploadFrame} {data : Bytes} (timeout : ℚ)
    (encoded : encodeFrame crc32 frame = .ok data) (left : Nat) :
    Declaring crc32 (Good crc32) (OtaUploader.attempts crc32 data frame timeout left)
      (Confirmed crc32 frame) := by
  induction left with
  | zero => exact throw_declaring (by exact trivial)
  | succ left ih =>
    refine Declaring.bind checkCancelled_good fun _ => ?_
    refine Declaring.bind send_declaring fun _ => ?_
    refine Declaring.bind answer_declaring fun line => ?_
    cases line with
    | none =>
      exact TripleEx.weaken ih (fun log hlog => hlog.good fun l hl => (nomatch hl)) fun _ _ h => h
    | some line =>
      cases hparse : parseResponse line with
      | error e =>
        simp only [hparse]
        have hreadable := readable_frame line encoded
        rw [hparse] at hreadable
        cases e with
        | codec e =>
          have hread := hreadable.mpr ⟨fun h => (nomatch h), fun _ h => (nomatch h)⟩
          exact throw_clear (by exact trivial) fun log hlog => (good_of_readable hread log hlog).clear
        | value =>
          refine throw_undeclared id fun log hlog => hlog.unclear fun h => ?_
          exact (hreadable.mp h).1 rfl
      | ok response =>
        have hprinted := readable_reply encoded hparse
        simp only [hparse]
        split
        · -- the acknowledgement, whose number is shown in the DATA loop only
          rename_i hack
          refine TripleEx.pure (wireWorld_stable _) fun log hlog => ⟨hlog.1, hlog.2.trans ?_⟩
          have hshown : Printed frame response ↔ _ := printed_acknowledged hack
          refine ⟨fun h => hshown.mp (hprinted.mp (h line rfl)), fun h l hl => ?_⟩
          cases hl
          exact hprinted.mpr (hshown.mpr h)
        · rename_i hnack
          have hfalse : response.acknowledged = false := Bool.eq_false_iff.mpr hnack
          split
          · rename_i hagain
            have hread := hprinted.mpr (printed_again hfalse hagain)
            exact TripleEx.weaken ih (good_of_readable hread) fun _ _ h => h
          · rename_i hother
            exact reject_declaring (hprinted.trans (printed_rejected hfalse hother))

/-- An exchange of a frame that can be encoded. -/
lemma exchange_declaring {u : OtaUploader} {frame : UploadFrame} {timeout : ℚ}
    (encodable : Encodable frame) :
    Declaring crc32 (Good crc32) (u.exchange crc32 frame timeout) (Confirmed crc32 frame) := by
  obtain ⟨data, hdata⟩ := encodable.encode crc32
  unfold OtaUploader.exchange
  rw [hdata]
  exact attempts_declaring timeout hdata _

/-- The acknowledgement of BEGIN or COMMIT, of which no number is shown. -/
lemma exchange_control {u : OtaUploader} {frame : UploadFrame} {timeout : ℚ}
    (encodable : Encodable frame) (control : frame.frameType ≠ .data) :
    Declaring crc32 (Good crc32) (u.exchange crc32 frame timeout) fun _ => Good crc32 :=
  TripleEx.weaken (exchange_declaring encodable) (fun _ h => h) fun _ _ h =>
    ⟨h.1, h.2.mpr fun hdata => absurd hdata control⟩

/-- An acknowledgement of DATA with the offset that was expected, or an error that shows the other. -/
lemma expected_declaring {frame : UploadFrame} (data : frame.frameType = .data)
    {response : DeviceResponse} {next : Nat} (small : next < 2 ^ 64) :
    Declaring crc32 (Confirmed crc32 frame response)
      (refuseIf (response.nextOffset ≠ next) (OtaUploader.unexpectedOffset response.nextOffset))
      fun _ => Good crc32 := by
  unfold refuseIf
  split
  · refine throw_declares fun log h => ?_
    rw [unexpectedOffset_declared]
    exact ⟨fun hprint => ⟨h.2.mpr fun _ => hprint, h.1.sized⟩, fun hclear => h.2.mp hclear.1 data⟩
  · rename_i hnext
    refine TripleEx.pure (wireWorld_stable _) fun log h => ⟨h.1, h.2.mpr fun _ => ?_⟩
    rw [not_not.mp hnext]
    exact printable_of_lt (by omega) (by exact_mod_cast small)

/-- What the handshake says of a first line that is no READY line is declared. -/
lemma notReady_declared (line : Bytes) : (notReady line).Declared := by
  unfold notReady
  dsimp only
  split
  · exact trivial
  · exact trivial

/-- The events of a complete handshake. -/
def shaken (ready ok : Bytes) : List WireEvent :=
  [.sent beginCommand, .heard (some ready), .heard (some ok)]

/-- The first answer is the reply to the handshake command. -/
lemma readable_begin (line : Bytes) : Readable crc32 beginCommand line ↔
    (asciiBytes "+OTA:READY,".toList <+: stripBytes line → ReadyLine line) := by
  unfold Readable
  rw [if_pos rfl]

/-- The handshake, which leaves nothing but its own events. -/
lemma handshake_declaring {u : OtaUploader} :
    Declaring crc32 (At []) (u.handshake crc32) fun fields log => ∃ ready ok,
      (parseReady ready = .ok fields ∧ stripBytes ok = asciiBytes "OK".toList) ∧
        At (shaken ready ok) log := by
  have hshort (events : List WireEvent) (short : events.length < 3)
      (readable : AllReadable crc32 events) : Clear crc32 events :=
    ⟨readable, sized_of_short short⟩
  refine Declaring.bind (R := fun _ => At []) (checkCancelled_declaring (P := (· = [])) ?_)
    fun _ => ?_
  · rintro events rfl
    exact ⟨hshort _ (by simp) fun _ h => (nomatch h),
      fun data => hshort _ (by simp) (allReadable_sent data)⟩
  refine Declaring.bind send_at fun _ => ?_
  refine Declaring.bind readline_at fun line => ?_
  have hanswer : AllReadable crc32 ([] ++ [.sent beginCommand] ++ [.heard line]) ↔
      ∀ l, line = some l → Readable crc32 beginCommand l := allReadable_answer
  cases line with
  | none =>
    refine throw_clear (by exact trivial) fun log hat => ?_
    rw [hat]
    exact hshort _ (by simp) (hanswer.mpr fun l hl => (nomatch hl))
  | some ready =>
    have hreadable : AllReadable crc32 ([] ++ [.sent beginCommand] ++ [.heard (some ready)]) ↔
        (asciiBytes "+OTA:READY,".toList <+: stripBytes ready → ReadyLine ready) := by
      rw [hanswer, ← readable_begin]
      refine ⟨fun h => h ready rfl, fun h l hl => ?_⟩
      cases hl
      exact h
    -- a line that is no READY line at all can be read, and is refused
    refine Declaring.bind (refuseIf_clear (notReady_declared ready) ?_)
      fun _ => TripleEx.assume fun hready => ?_
    · intro hother log hat
      rw [hat]
      exact hshort _ (by simp) (hreadable.mpr fun h => absurd h hother)
    refine Declaring.bind (readyFields_declaring ?_) fun fields => TripleEx.assume fun hfields => ?_
    · intro log hat hclear
      rw [hat] at hclear
      exact (hreadable.mp hclear.1 (not_not.mp hready)).parse
    refine Declaring.bind readline_at fun okLine => ?_
    -- without OK the handshake is not complete, and MAX is not shown
    refine Declaring.bind (refuseIf_clear (by exact trivial) ?_)
      fun _ => TripleEx.assume fun hok => ?_
    · intro hother log hat
      rw [hat]
      refine ⟨?_, ?_⟩
      · have hsettled : Settled ([] ++ [.sent beginCommand] ++ [.heard (some ready)]) :=
          settled_heard _ _
        refine (AllReadable.append hsettled).mpr ⟨hreadable.mpr fun _ => ?_, allReadable_heard _⟩
        exact (ReadyLine.of_parse hfields).1
      · rintro ready' ok rest heq hstrip
        cases heq
        exact absurd (congrArg some hstrip) hother
    have hok := not_not.mp hok
    refine TripleEx.pure (wireWorld_stable _) fun log hat => ?_
    cases okLine with
    | none => cases hok
    | some ok => exact ⟨ready, ok, ⟨hfields, Option.some.inj hok⟩, hat⟩

/-- Behind a complete handshake all could be read; it was sized if MAX is no negative number that
cannot be printed. -/
lemma begun_shaken {ready ok : Bytes} {maxImage chunk : Int}
    (parsed : parseReady ready = .ok (maxImage, chunk))
    (answered : stripBytes ok = asciiBytes "OK".toList) :
    Settled (shaken ready ok) ∧ AllReadable crc32 (shaken ready ok) ∧
      (Sized (shaken ready ok) ↔ 0 ≤ maxImage ∨ Printable maxImage) := by
  obtain ⟨hready, text, fields, htext, hfields, hmax⟩ := ReadyLine.of_parse parsed
  refine ⟨settled_heard [.sent beginCommand, .heard (some ready)] (some ok), ?_, ?_⟩
  · have hsettled : Settled [.sent beginCommand, .heard (some ready)] :=
      settled_heard [.sent beginCommand] (some ready)
    rw [show shaken ready ok = [.sent beginCommand, .heard (some ready)] ++ [.heard (some ok)] from rfl,
      AllReadable.append hsettled]
    refine ⟨allReadable_answer.mpr fun l hl => ?_, allReadable_heard _⟩
    cases hl
    exact (readable_begin ready).mpr fun _ => hready
  · constructor
    · exact fun h => h ready ok [] rfl answered text fields maxImage htext hfields hmax
    · rintro h ready' ok' rest heq - text' fields' max' htext' hfields' hmax'
      cases heq
      cases htext.symm.trans htext'
      cases hfields.symm.trans hfields'
      cases hmax.symm.trans hmax'
      exact h

/-- An image that the device takes, or an error that shows the device's maximum. -/
lemma imageTooLarge_declaring {ready ok : Bytes} {maxImage chunk : Int} {imageSize : Nat}
    (parsed : parseReady ready = .ok (maxImage, chunk))
    (answered : stripBytes ok = asciiBytes "OK".toList) (small : imageSize < 2 ^ 64) :
    Declaring crc32 (At (shaken ready ok))
      (refuseIf ((imageSize : Int) > maxImage) (OtaUploader.imageTooLarge imageSize maxImage))
      fun _ => Good crc32 := by
  obtain ⟨settled, readable, sized⟩ : Settled (shaken ready ok) ∧
      AllReadable crc32 (shaken ready ok) ∧ (Sized (shaken ready ok) ↔ _) :=
    begun_shaken parsed answered
  unfold refuseIf
  split
  · rename_i hlarge
    refine throw_declares fun log hat => ?_
    rw [imageTooLarge_declared, hat]
    refine ⟨fun hprint => ⟨readable, sized.mpr (.inr hprint)⟩, fun hclear => ?_⟩
    -- a maximum below the size of an image has few digits, unless it is negative
    exact (sized.mp hclear.2).elim (fun h => printable_of_lt (by omega) (by omega)) id
  · rename_i hfits
    refine TripleEx.pure (wireWorld_stable _) fun log hat => ?_
    unfold Good
    rw [hat]
    exact ⟨⟨settled, sized.mpr (.inl (by omega)), le_refl 3⟩, readable⟩

/-- The DATA frames that are sent can be encoded. -/
lemma encodable_dataFrame {image : Bytes} {limit sequence offset : Nat}
    (hlimit : limit ≤ frameMaxPayload) (hsequence : sequence < 2 ^ 32) (hoffset : offset < 2 ^ 32) :
    Encodable (OtaUploader.dataFrame image limit sequence offset) := by
  refine ⟨(List.length_take_le _ _).trans hlimit, fun h => (nomatch h), fun h => ?_, ?_, ?_⟩
  · rcases h with h | h <;> cases h
  · constructor <;> simp only [OtaUploader.dataFrame] <;> omega
  · constructor <;> simp only [OtaUploader.dataFrame] <;> omega

/-- The DATA loop. -/
lemma dataLoop_declaring {u : OtaUploader} {image : Bytes} {limit : Nat} (hpos : 0 < limit)
    (hlimit : limit ≤ frameMaxPayload) (small : image.length < 2 ^ 32) (fuel : Nat)
    {sequence offset : Nat} (hsequence : sequence < 2 ^ 32) (hoffset : offset ≤ image.length) :
    Declaring crc32 (Good crc32) (u.dataLoop crc32 image limit fuel sequence offset) fun last log =>
      (last.1 < 2 ^ 32 ∧ last.2 ≤ image.length) ∧ Good crc32 log := by
  induction fuel generalizing sequence offset with
  | zero => exact TripleEx.pure (wireWorld_stable _) fun log hlog => ⟨⟨hsequence, hoffset⟩, hlog⟩
  | succ fuel ih =>
    rw [OtaUploader.dataLoop]
    split
    · rename_i hlt
      obtain ⟨-, -, hle⟩ := OtaUploader.dataFrame_length sequence hpos hlt
      refine Declaring.bind checkCancelled_good fun _ => ?_
      refine Declaring.bind (exchange_declaring
        (encodable_dataFrame hlimit hsequence (hlt.trans small))) fun response => ?_
      have hnext := (hle.trans_lt small).trans (show 2 ^ 32 < 2 ^ 64 by decide)
      refine Declaring.bind (expected_declaring rfl hnext) fun _ => ?_
      refine Declaring.bind notify_declaring fun _ => ?_
      exact ih (Nat.mod_lt _ (by decide)) hle
    · exact TripleEx.pure (wireWorld_stable _) fun log hlog => ⟨⟨hsequence, hoffset⟩, hlog⟩

/-- The DATA payloads of a chunk size that is not refused. -/
lemma payloadLimit_bounds {chunk : Int} (h : 0 < OtaUploader.payloadLimit chunk) :
    0 < (OtaUploader.payloadLimit chunk).toNat ∧
      (OtaUploader.payloadLimit chunk).toNat ≤ frameMaxPayload := by
  unfold OtaUploader.payloadLimit at *
  simp only [frameMaxPayload] at *
  split at h
  · rename_i hzero
    rw [if_pos hzero]
    decide
  · rename_i hchunk
    rw [if_neg hchunk]
    omega

/-- Before anything has passed, all is clear. -/
lemma clear_nil : Clear crc32 [] := ⟨fun _ h => (nomatch h), sized_of_short (by decide)⟩

/-- The upload, phase by phase. -/
lemma upload_declaring (u : OtaUploader) (package expectedTargetId : Bytes) :
    Declaring crc32 (At []) (u.upload crc32 package expectedTargetId) fun _ => Good crc32 := by
  have hstart (log : WireLog) (hat : At [] log) : Clear crc32 log.events := by
    rw [hat]
    exact clear_nil
  refine Declaring.bind (R := fun manifest log => validatePackage crc32 package = .ok manifest ∧
    At [] log) ?_ fun manifest => TripleEx.assume fun hvalid => ?_
  · unfold OtaUploader.checkPackage
    cases hv : validatePackage crc32 package with
    | ok manifest => exact TripleEx.pure (wireWorld_stable _) fun log hlog => ⟨rfl, hlog⟩
    | error error => exact throw_clear (by exact trivial) hstart
  obtain ⟨hblock, himage, -, hflash, -⟩ := validatePackage_length hvalid
  have small : (package.drop manifestBlockSize).length < 2 ^ 32 := by
    have hle : (package.drop manifestBlockSize).length ≤ appFlashSize := himage ▸ hflash
    exact hle.trans_lt (by decide)
  refine Declaring.bind (refuseIf_clear (by exact trivial) fun _ => hstart)
    fun _ => TripleEx.assume fun _ => ?_
  refine Declaring.bind notify_at fun _ => ?_
  -- until here nothing was read; behind the handshake all is good or declared
  refine Declaring.bind handshake_declaring fun fields => ?_
  obtain ⟨maxImage, chunk⟩ := fields
  refine TripleEx.choose fun ready => TripleEx.choose fun ok => TripleEx.assume fun hshaken => ?_
  refine Declaring.bind (imageTooLarge_declaring hshaken.1 hshaken.2
    (small.trans (by decide))) fun _ => ?_
  refine Declaring.bind (refuseIf_declaring trivial) fun _ => TripleEx.assume fun hlimit => ?_
  obtain ⟨hpos, hle⟩ := payloadLimit_bounds (not_le.mp hlimit)
  refine Declaring.bind notify_declaring fun _ => ?_
  refine Declaring.bind (exchange_control (encodable_beginFrame hblock) fun h => (nomatch h))
    fun response => ?_
  refine Declaring.bind (refuseIf_declaring trivial) fun _ => TripleEx.assume fun _ => ?_
  refine Declaring.bind notify_declaring fun _ => ?_
  refine Declaring.bind (dataLoop_declaring hpos hle small _ (by decide) (Nat.zero_le _))
    fun last => TripleEx.assume fun hlast => ?_
  refine Declaring.bind notify_declaring fun _ => ?_
  refine Declaring.bind checkCancelled_good fun _ => ?_
  refine Declaring.bind (exchange_control
    (encodable_commitFrame hlast.1 (hlast.2.trans_lt small)) fun h => (nomatch h)) fun response => ?_
  refine Declaring.bind (refuseIf_declaring trivial) fun _ => TripleEx.assume fun _ => ?_
  refine Declaring.bind readline_declaring fun line => ?_
  refine Declaring.bind notify_declaring fun _ => ?_
  exact TripleEx.pure (wireWorld_stable _) fun log hlog => hlog

end Triples

/-- The parsers of replies raise `OtaCodecError` or nothing if and only if the line is readable; and an
upload, of any package and whatever the transport answers, returns or raises an error that it
declares if and only if every answer to what it sent could be read, and every integer that an error
about it shows can be printed. -/
theorem upload_declares_iff (crc32 : Bytes → UInt32) :
    (∀ line, parseResponse line ≠ .error .value ↔ ReadableReply line) ∧
    (∀ line, parseReady line ≠ .error .value ↔ ReadableReady line) ∧
    ∀ (u : OtaUploader) (package expectedTargetId : Bytes) (peer : Peer),
      let (result, log) := Fallible.interp peer.handle (u.upload crc32 package expectedTargetId) {}
      (∀ error, result = .error error → error.Declared) ↔ Clear crc32 log.events := by
  refine ⟨parseResponse_codec, parseReady_codec, ?_⟩
  intro u package expectedTargetId peer
  have hrun := run_peer peer (u.upload crc32 package expectedTargetId) {}
  obtain ⟨hreturn, hfail⟩ := upload_declaring u package expectedTargetId {} _ _ rfl hrun
  generalize Fallible.interp peer.handle (u.upload crc32 package expectedTargetId) {} = outcome at *
  obtain ⟨result, log⟩ := outcome
  cases result with
  | ok summary => exact ⟨fun _ => (hreturn summary rfl).clear, fun _ _ h => (nomatch h)⟩
  | error error =>
    refine ⟨fun h => (hfail error rfl).mp (h error rfl), fun h error' heq => ?_⟩
    cases heq
    exact (hfail error rfl).mpr h

/-- A device that acknowledges BEGIN with a sequence that is no numeral. -/
def Peer.garbled : Peer where
  line _ log := (asciiBytes <$> [[], "+OTA:READY,MAX=327680,CHUNK=512".toList, "OK".toList,
    [], "+OTA:ACK,SEQ=x,NEXT=0".toList])[log.events.length]?
  cancelled _ := false

set_option maxRecDepth 4000 in
/-- Its line ends `parse_response`, and the upload, with a bare `ValueError`. -/
theorem upload_garbled :
    parseResponse (asciiBytes "+OTA:ACK,SEQ=x,NEXT=0".toList) = .error .value ∧
      (Fallible.interp Peer.garbled.handle
        (OtaUploader.upload zlibCrc32 {} (packageOf smallImage)) {}).1 = .error .value := by
  constructor
  · decide +kernel
  · decide +kernel

end SensorHost.Ota
