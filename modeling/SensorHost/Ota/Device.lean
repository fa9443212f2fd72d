import SensorHost.Ota.Uploader

/-!
# The simulated device

Model of the OTA part of `FakeTransport`: `write_raw` and `_handle_ota_frame` with the reply lines
they queue. The advertised limits are parameters; `DeviceLimits` has the simulator's as defaults.

The device carries one ghost field, the images it held at each COMMIT it processed.

The second half reads the device's reply lines back with the host's parsers.

A frame is handled as in the source: what does not decode is refused, data are taken if they come at
the next offset and acknowledged either way, and a COMMIT is answered with the checksum of what was
taken. The reply lines are put together from fields, and reading them back is one argument for all
of them: fields of plain texts are joined and split again (`splitOn_joinFields`).
-/

namespace SensorHost.Ota
open SensorHost.Lib

/-- `NAME=value`. -/
def fieldItem (field : Text × Text) : Text := field.1 ++ '=' :: field.2

/-- Fields separated by commas. -/
def joinFields : List (Text × Text) → Text
  | [] => []
  | [field] => fieldItem field
  | field :: next :: fields => fieldItem field ++ ',' :: joinFields (next :: fields)

/-- `+OTA:` and the kind of the reply. -/
def replyHead (kind : Text) : Text := "+OTA:".toList ++ kind ++ ",".toList

/-- A bare reply line with its line end. -/
def replyLine (kind : Text) (fields : List (Text × Text)) : Bytes :=
  asciiBytes (replyHead kind ++ joinFields fields ++ "\r\n".toList)

/-- `+OTA:READY,PROTO=1,MAX=..,CHUNK=..`. -/
def readyLine (maxImage chunk : Nat) : Bytes :=
  replyLine "READY".toList [("PROTO".toList, "1".toList), ("MAX".toList, renderNat maxImage),
    ("CHUNK".toList, renderNat chunk)]

/-- `+OTA:ACK,SEQ=..,NEXT=..`. -/
def ackLine (sequence : Int) (next : Nat) : Bytes :=
  replyLine "ACK".toList [("SEQ".toList, renderInt sequence), ("NEXT".toList, renderNat next)]

/-- `+OTA:NACK,CODE=FRAME_CRC,SEQ=0,NEXT=..`. -/
def nackLine (next : Nat) : Bytes :=
  replyLine "NACK".toList [("CODE".toList, "FRAME_CRC".toList), ("SEQ".toList, "0".toList),
    ("NEXT".toList, renderNat next)]

/-- `+OTA:STAGED,VERSION=1.0.0,CRC=..`. -/
def stagedLine (crc : Nat) : Bytes :=
  replyLine "STAGED".toList [("VERSION".toList, "1.0.0".toList), ("CRC".toList, renderHex8 crc)]

/-- `OK` with its line end. -/
def okReplyLine : Bytes := asciiBytes "OK\r\n".toList

/-- What the device advertises. -/
structure DeviceLimits where
  maxImage : Nat := 327680
  chunk : Nat := 512

/-- The OTA state of the device. -/
structure OtaDevice where
  active : Bool := false
  nextOffset : Nat := 0
  image : Bytes := []
  commits : List Bytes := []
  deriving DecidableEq

variable (crc32 : Bytes → UInt32)

/-- `_handle_ota_frame`, with the reply as its lines. -/
def OtaDevice.handleFrame (d : OtaDevice) (payload : Bytes) : OtaDevice × List Bytes :=
  match decodeFrame crc32 payload with
  | .error _ => (d, [nackLine d.nextOffset])
  | .ok frame =>
    match frame.frameType with
    | .begin => (d, [ackLine 0 0])
    | .cancel => ({ d with active := false }, [ackLine frame.sequence d.nextOffset])
    | .commit =>
      ({ d with active := false, commits := d.commits ++ [d.image] },
        [stagedLine (crc32 d.image).toNat, okReplyLine])
    | .data =>
      let d :=
        if frame.offset = d.nextOffset then
          { d with
            image := d.image ++ frame.payload
            nextOffset := d.nextOffset + frame.payload.length }
        else d
      (d, [ackLine frame.sequence d.nextOffset])

/-- `write_raw`; an empty burst is refused without effect. -/
def OtaDevice.writeRaw (limits : DeviceLimits) (d : OtaDevice) (data : Bytes) :
    OtaDevice × List Bytes :=
  if data = [] then (d, [])
  else if asciiBytes "AT+OTA".toList <+: data then
    ({ d with active := true, nextOffset := 0, image := [] },
      [readyLine limits.maxImage limits.chunk, okReplyLine])
  else d.handleFrame crc32 data

/-- Text without commas and spaces, in ASCII. -/
def PlainText (text : Text) : Prop :=
  ∀ c ∈ text, c ≠ ',' ∧ isSpaceChar c = false ∧ c.toNat < 0x80

instance (text : Text) : Decidable (PlainText text) := inferInstanceAs (Decidable (∀ _ ∈ _, _))

/-- A field whose text has no separator in it. -/
structure PlainField (field : Text × Text) : Prop where
  name : PlainText field.1
  noEquals : '=' ∉ field.1
  value : PlainText field.2

/-- Two plain texts make a plain one. -/
lemma PlainText.append {a b : Text} (ha : PlainText a) (hb : PlainText b) : PlainText (a ++ b) := by
  intro c hc
  rcases List.mem_append.mp hc with hc | hc
  · exact ha c hc
  · exact hb c hc

/-- A numeral is plain text. -/
lemma plainText_of_numeral {text : Text} (h : ∀ c ∈ text, c ∈ numeralChars) : PlainText text := by
  intro c hc
  obtain ⟨-, -, -, -, -, hascii, -, -, -, -, hcomma⟩ := numeralChars_plain c (h c hc)
  exact ⟨hcomma, numeralChars_noSpace c (h c hc), hascii⟩

/-- A number is written plainly. -/
lemma plainText_renderNat (n : Nat) : PlainText (renderNat n) := plainText_of_numeral toDigits_mem

/-- So is one with eight hexadecimal digits. -/
lemma plainText_renderHex8 (n : Nat) : PlainText (renderHex8 n) :=
  plainText_of_numeral renderHex8_mem

/-- A plain key and a plain value make a plain text. -/
lemma PlainField.item {field : Text × Text} (h : PlainField field) : PlainText (fieldItem field) :=
  h.name.append (PlainText.append (a := ['=']) (by decide) h.value)

/-- Plain fields are joined without a blank, in ASCII. -/
lemma joinFields_chars {fields : List (Text × Text)} (h : ∀ f ∈ fields, PlainField f) :
    ∀ c ∈ joinFields fields, isSpaceChar c = false ∧ c.toNat < 0x80 := by
  induction fields using joinFields.induct with
  | case1 => simp [joinFields]
  | case2 field =>
    intro c hc
    exact ((h field (by simp)).item c hc).2
  | case3 field next fields ih =>
    intro c hc
    rw [joinFields] at hc
    rcases List.mem_append.mp hc with hc | hc
    · exact ((h field (by simp)).item c hc).2
    · rcases List.mem_cons.mp hc with rfl | hc
      · decide
      · exact ih (fun f hf => h f (List.mem_cons_of_mem _ hf)) c hc

/-- Plain fields that were joined are taken apart again. -/
lemma splitOn_joinFields {fields : List (Text × Text)} (hne : fields ≠ [])
    (h : ∀ f ∈ fields, PlainField f) : splitOn ',' (joinFields fields) = fields.map fieldItem := by
  have hcomma : ∀ f ∈ fields, ',' ∉ fieldItem f := fun f hf hc => ((h f hf).item _ hc).1 rfl
  induction fields using joinFields.induct with
  | case1 => exact absurd rfl hne
  | case2 field => exact splitOn_of_not_mem (hcomma field (by simp))
  | case3 field next fields ih =>
    rw [joinFields, splitOn_append (hcomma field (by simp)), ih (by simp)
      (fun f hf => h f (List.mem_cons_of_mem _ hf))
      (fun f hf => hcomma f (List.mem_cons_of_mem _ hf))]
    rfl

/-- Rendered fields parse back, the last one first. -/
lemma parseFields_joinFields {fields : List (Text × Text)} (hne : fields ≠ [])
    (h : ∀ f ∈ fields, PlainField f) : parseFields (joinFields fields) = .ok fields.reverse := by
  have hfold : ∀ (fs acc : List (Text × Text)), (∀ f ∈ fs, PlainField f) →
      (fs.map fieldItem).foldlM parseField acc = .ok (fs.reverse ++ acc) := by
    intro fs
    induction fs with
    | nil => intro acc _; rfl
    | cons f fs ih =>
      intro acc hf
      have hitem : parseField acc (fieldItem f) = .ok (f :: acc) := by
        have hsplit := splitOnce_append (hf f (by simp)).noEquals f.2
        have hempty : (fieldItem f).isEmpty = false := by simp [fieldItem]
        rw [parseField, hempty, fieldItem, hsplit]
        rfl
      have hrest := ih (f :: acc) fun g hg => hf g (List.mem_cons_of_mem _ hg)
      rw [List.map_cons, List.foldlM_cons, hitem, List.reverse_cons, List.append_assoc]
      exact hrest
  rw [parseFields, splitOn_joinFields hne h, hfold fields [] h, List.append_nil]

/-- The text of a reply line, as the parsers see it. -/
lemma replyText_replyLine (kind : Text) {fields : List (Text × Text)} (hk : PlainText kind)
    (h : ∀ f ∈ fields, PlainField f) :
    replyText (replyLine kind fields) = .ok (replyHead kind ++ joinFields fields) := by
  have hhead : ∀ c ∈ replyHead kind, isSpaceChar c = false ∧ c.toNat < 0x80 := by
    intro c hc
    simp only [replyHead, List.mem_append] at hc
    rcases hc with (hc | hc) | hc
    · exact (by decide : ∀ c ∈ "+OTA:".toList, isSpaceChar c = false ∧ c.toNat < 0x80) c hc
    · exact (hk c hc).2
    · exact (by decide : ∀ c ∈ ",".toList, isSpaceChar c = false ∧ c.toNat < 0x80) c hc
  have hcore : ∀ c ∈ replyHead kind ++ joinFields fields,
      isSpaceChar c = false ∧ c.toNat < 0x80 := by
    intro c hc
    rcases List.mem_append.mp hc with hc | hc
    · exact hhead c hc
    · exact joinFields_chars h c hc
  have hne : replyHead kind ++ joinFields fields ≠ [] := by simp [replyHead]
  have hascii : IsAscii (replyHead kind ++ joinFields fields ++ "\r\n".toList) := by
    intro c hc
    rcases List.mem_append.mp hc with hc | hc
    · exact (hcore c hc).2
    · exact (by decide : ∀ c ∈ "\r\n".toList, c.toNat < 0x80) c hc
  have hstrip : strip (replyHead kind ++ joinFields fields ++ "\r\n".toList) =
      replyHead kind ++ joinFields fields :=
    stripBy_append_of_all hne (hcore _ (List.head_mem hne)).1 (hcore _ (List.getLast_mem hne)).1
      (by decide)
  rw [replyLine, replyText, decodeAscii_asciiBytes hascii]
  exact congrArg _ hstrip

/-- A natural number is written like an integer. -/
lemma renderInt_natCast (n : Nat) : renderInt (n : Int) = renderNat n := by
  simp [renderInt]

/-- A field with a fixed name. -/
lemma plainField_mk {name value : Text} (hn : PlainText name ∧ '=' ∉ name) (hv : PlainText value) :
    PlainField (name, value) := ⟨hn.1, hn.2, hv⟩

/-- An ACK line parses to its two numbers. -/
lemma parseResponse_ackLine {sequence next : Nat} (hs : sequence < 10 ^ maxStrDigits)
    (hn : next < 10 ^ maxStrDigits) :
    parseResponse (ackLine sequence next) =
      .ok { acknowledged := true, sequence := sequence, nextOffset := next } := by
  have hplain : ∀ f ∈ [("SEQ".toList, renderNat sequence), ("NEXT".toList, renderNat next)],
      PlainField f := by
    simp only [List.forall_mem_cons, List.not_mem_nil, false_imp_iff, implies_true, and_true]
    exact ⟨plainField_mk (by decide) (plainText_renderNat _),
      plainField_mk (by decide) (plainText_renderNat _)⟩
  have htext := replyText_replyLine "ACK".toList (by decide) hplain
  have hparse : parseAck (joinFields [("SEQ".toList, renderNat sequence),
      ("NEXT".toList, renderNat next)]) =
      .ok { acknowledged := true, sequence := sequence, nextOffset := next } := by
    rw [parseAck, parseFields_joinFields (by simp) hplain]
    simp [requireField, intField, parseInt_renderNat hs, parseInt_renderNat hn, List.lookup_cons, bind,
      Except.bind, pure, Except.pure]
  rw [parseResponse, ackLine, renderInt_natCast, htext, show replyHead "ACK".toList =
    "+OTA:ACK,".toList from rfl]
  simp only [bind, Except.bind, startsWith_append, removePrefix_append, if_true, hparse]

/-- A STAGED line parses to a STAGED response. -/
lemma parseResponse_stagedLine (crc : Nat) :
    parseResponse (stagedLine crc) =
      .ok {
        acknowledged := true
        sequence := 0
        nextOffset := 0
        code := some "STAGED".toList
        version := some "1.0.0".toList
        crc := some crc } := by
  have hplain : ∀ f ∈ [("VERSION".toList, "1.0.0".toList), ("CRC".toList, renderHex8 crc)],
      PlainField f := by
    simp only [List.forall_mem_cons, List.not_mem_nil, false_imp_iff, implies_true, and_true]
    exact ⟨plainField_mk (by decide) (by decide),
      plainField_mk (by decide) (plainText_renderHex8 _)⟩
  have htext := replyText_replyLine "STAGED".toList (by decide) hplain
  have hparse : parseStaged (joinFields [("VERSION".toList, "1.0.0".toList),
      ("CRC".toList, renderHex8 crc)]) =
      .ok {
        acknowledged := true
        sequence := 0
        nextOffset := 0
        code := some "STAGED".toList
        version := some "1.0.0".toList
        crc := some crc } := by
    rw [parseStaged, parseFields_joinFields (by simp) hplain]
    simp [requireField, intField, parseInt_renderHex8, List.lookup_cons, bind, Except.bind, pure,
      Except.pure]
  have hack (rest : Text) : startsWith ("+OTA:STAGED,".toList ++ rest) "+OTA:ACK,".toList = false :=
    rfl
  have hnack (rest : Text) :
      startsWith ("+OTA:STAGED,".toList ++ rest) "+OTA:NACK,".toList = false := rfl
  rw [parseResponse, stagedLine, htext, show replyHead "STAGED".toList =
    "+OTA:STAGED,".toList from rfl]
  simp only [bind, Except.bind, hack, hnack, startsWith_append, removePrefix_append, if_true,
    Bool.false_eq_true, if_false, hparse]

/-- The fields of the READY reply are plain. -/
lemma plain_readyFields (maxImage chunk : Nat) :
    ∀ f ∈ [("PROTO".toList, "1".toList), ("MAX".toList, renderNat maxImage),
      ("CHUNK".toList, renderNat chunk)], PlainField f := by
  simp only [List.forall_mem_cons, List.not_mem_nil, false_imp_iff, implies_true, and_true]
  exact ⟨plainField_mk (by decide) (by decide),
    plainField_mk (by decide) (plainText_renderNat _),
    plainField_mk (by decide) (plainText_renderNat _)⟩

/-- A READY line parses to the limits it advertises. -/
lemma parseReady_readyLine {maxImage chunk : Nat} (hm : maxImage < 10 ^ maxStrDigits)
    (hc : chunk < 10 ^ maxStrDigits) :
    parseReady (readyLine maxImage chunk) = .ok (maxImage, chunk) := by
  have hplain := plain_readyFields maxImage chunk
  have htext := replyText_replyLine "READY".toList (by decide) hplain
  have hparse : parseReadyFields (joinFields [("PROTO".toList, "1".toList),
      ("MAX".toList, renderNat maxImage), ("CHUNK".toList, renderNat chunk)]) =
      .ok (maxImage, chunk) := by
    rw [parseReadyFields, parseFields_joinFields (by simp) hplain]
    simp [requireField, intField, parseInt_renderNat hm, parseInt_renderNat hc, List.lookup_cons, bind,
      Except.bind, pure, Except.pure]
  rw [parseReady, readyLine, htext, show replyHead "READY".toList =
    "+OTA:READY,".toList from rfl]
  simp only [bind, Except.bind, startsWith_append, removePrefix_append, if_true, hparse]

/-- A READY line is no answer to a frame. -/
lemma parseResponse_readyLine (maxImage chunk : Nat) (r : DeviceResponse) :
    parseResponse (readyLine maxImage chunk) ≠ .ok r := by
  have htext := replyText_replyLine "READY".toList (by decide)
    (plain_readyFields maxImage chunk)
  have hack (rest : Text) : startsWith ("+OTA:READY,".toList ++ rest) "+OTA:ACK,".toList = false :=
    rfl
  have hnack (rest : Text) :
      startsWith ("+OTA:READY,".toList ++ rest) "+OTA:NACK,".toList = false := rfl
  have hstaged (rest : Text) :
      startsWith ("+OTA:READY,".toList ++ rest) "+OTA:STAGED,".toList = false := rfl
  rw [parseResponse, readyLine, htext, show replyHead "READY".toList =
    "+OTA:READY,".toList from rfl]
  simp only [bind, Except.bind, hack, hnack, hstaged, Bool.false_eq_true, if_false]
  exact fun h => by cases h

/-- An OK line is no answer to a frame. -/
lemma parseResponse_okReplyLine (r : DeviceResponse) : parseResponse okReplyLine ≠ .ok r := by
  have herr : parseResponse okReplyLine =
      .error (.codec ⟨"unexpected device response: 'OK'".toList⟩) := by decide
  rw [herr]
  exact fun h => by cases h

end SensorHost.Ota
