import SensorHost.Lib.Numeral

/-!
# The OTAF codec

Model of `ota/codec.py`: encoding and decoding of upstream OTAF frames, and parsing of the bare
reply lines a device sends back. The checksum is an arbitrary function of the bytes.

Decoding inverts encoding (`decodeFrame_encodeFrame`).

`encodeFault` is the first thing that `struct.pack` or the checks before it refuse, in the order of
the source, and `Encodable` is the condition that there is none. `Decoded` lists what the decoder
checks. Both directions of `codec_bijective` go through the body of the frame, whose fields are read
back one by one (`frameBody_fields`).

The parsers of the reply lines are written with the messages of their errors; which lines they take
is the subject of `Ota.Malformed`.
-/

namespace SensorHost.Ota
open SensorHost.Lib

/-- `OTAF`. -/
def frameMagic : Bytes := [0x4F, 0x54, 0x41, 0x46]

@[simp] def frameVersion : Nat := 1
@[simp] def frameHeaderSize : Nat := 20
@[simp] def frameMaxPayload : Nat := 512
@[simp] def frameCrcSize : Nat := 4
@[simp] def beginPayloadSize : Nat := 80

/-- `OtaCodecError`, with its message. -/
structure OtaCodecError where
  message : Text
  deriving DecidableEq

/-- The four upstream frame kinds. -/
inductive FrameType where
  | begin
  | data
  | commit
  | cancel
  deriving DecidableEq

/-- `int(frame_type)`. -/
def FrameType.value : FrameType → Nat
  | .begin => 1
  | .data => 2
  | .commit => 3
  | .cancel => 4

/-- `FrameType(value)`; `none` is its `ValueError`. -/
def FrameType.ofValue : Nat → Option FrameType
  | 1 => some .begin
  | 2 => some .data
  | 3 => some .commit
  | 4 => some .cancel
  | _ => none

/-- `frame_type.name`. -/
def FrameType.name : FrameType → Text
  | .begin => "BEGIN".toList
  | .data => "DATA".toList
  | .commit => "COMMIT".toList
  | .cancel => "CANCEL".toList

/-- One upstream frame before encoding. -/
structure UploadFrame where
  frameType : FrameType
  sequence : Int
  offset : Int
  payload : Bytes
  deriving DecidableEq

/-- A value fits in an unsigned 32-bit field. -/
def fitsU32 (v : Int) : Bool := 0 ≤ v && v ≤ 0xFFFFFFFF

/-- The header and the payload of a frame, `<4sBBHIIHH`. -/
def frameBody (frame : UploadFrame) : Bytes :=
  frameMagic ++ leBytes 1 frameVersion ++ leBytes 1 frame.frameType.value ++
    leBytes 2 frameHeaderSize ++ leBytes 4 frame.sequence.toNat ++ leBytes 4 frame.offset.toNat ++
    leBytes 2 frame.payload.length ++ leBytes 2 0 ++ frame.payload

/-- The checks of `encode_frame`, in its order. -/
def encodeFault (frame : UploadFrame) : Option String :=
  if frame.payload.length > frameMaxPayload then some "frame payload exceeds 512 bytes"
  else if frame.frameType = .begin ∧
      (frame.sequence ≠ 0 ∨ frame.offset ≠ 0 ∨ frame.payload.length ≠ beginPayloadSize) then
    some "BEGIN frame fields are invalid"
  else if (frame.frameType = .commit ∨ frame.frameType = .cancel) ∧ frame.payload ≠ [] then
    some "control frame must not contain payload"
  else if !fitsU32 frame.sequence then some "sequence must fit in 32 bits"
  else if !fitsU32 frame.offset then some "offset must fit in 32 bits"
  else none

/-- `encode_frame`. -/
def encodeFrame (crc32 : Bytes → UInt32) (frame : UploadFrame) : Except OtaCodecError Bytes :=
  match encodeFault frame with
  | some message => .error ⟨message.toList⟩
  | none => .ok (frameBody frame ++ leBytes frameCrcSize (crc32 (frameBody frame)).toNat)

/-- `decode_frame`. -/
def decodeFrame (crc32 : Bytes → UInt32) (data : Bytes) : Except OtaCodecError UploadFrame :=
  if data.length < frameHeaderSize + frameCrcSize then .error ⟨"frame is truncated".toList⟩
  else
    let magic := data.take 4
    let version := leField data 4 1
    let frameType := leField data 5 1
    let headerSize := leField data 6 2
    let sequence := leField data 8 4
    let offset := leField data 12 4
    let length := leField data 16 2
    let reserved := leField data 18 2
    if magic ≠ frameMagic ∨ version ≠ frameVersion then .error ⟨"frame header is invalid".toList⟩
    else if headerSize ≠ frameHeaderSize ∨ reserved ≠ 0 ∨ length > frameMaxPayload then
      .error ⟨"frame header fields are invalid".toList⟩
    else if data.length ≠ frameHeaderSize + length + frameCrcSize then
      .error ⟨"frame length is invalid".toList⟩
    else if leField data (frameHeaderSize + length) 4 ≠
        (crc32 (data.take (frameHeaderSize + length))).toNat then
      .error ⟨"frame CRC is invalid".toList⟩
    else
      match FrameType.ofValue frameType with
      | none => .error ⟨"frame type is invalid".toList⟩
      | some decodedType =>
        .ok {
          frameType := decodedType
          sequence := sequence
          offset := offset
          payload := (data.take (frameHeaderSize + length)).drop frameHeaderSize }

/-- One decoded reply line. -/
structure DeviceResponse where
  acknowledged : Bool
  sequence : Int
  nextOffset : Int
  code : Option Text := none
  version : Option Text := none
  crc : Option Int := none
  deriving DecidableEq

/-- `staged`: whether this is the terminal STAGED event. -/
def DeviceResponse.staged (r : DeviceResponse) : Bool := r.code == some "STAGED".toList

/-- What a reply parser raises: its own error, or a `ValueError` of `decode` or `int`. -/
inductive ReplyError where
  | codec (error : OtaCodecError)
  | value
  deriving DecidableEq

/-- Raise `OtaCodecError(message)`. -/
def codecError {α : Type} (message : Text) : Except ReplyError α := .error (.codec ⟨message⟩)

/-- `int(text, base)` on a field of a reply. -/
def intField (base : Nat) (text : Text) : Except ReplyError Int :=
  match parseInt base text with
  | some v => .ok v
  | none => .error .value

/-- The stripped text of a line, or the `UnicodeDecodeError` of a strict ASCII decode. -/
def replyText (line : Bytes) : Except ReplyError Text :=
  match decodeAscii line with
  | some text => .ok (strip text)
  | none => .error .value

/-- One pass of the `_parse_fields` loop; the newest binding comes first. -/
def parseField (fields : List (Text × Text)) (item : Text) :
    Except ReplyError (List (Text × Text)) :=
  if item.isEmpty then .ok fields
  else
    match splitOnce '=' item with
    | none => codecError "response field is malformed".toList
    | some (name, value) => .ok ((name, value) :: fields)

/-- `_parse_fields`. -/
def parseFields (text : Text) : Except ReplyError (List (Text × Text)) :=
  (splitOn ',' text).foldlM parseField []

/-- `fields[name]`, or the error that names are missing. -/
def requireField (fields : List (Text × Text)) (name : String) (missing : String) :
    Except ReplyError Text :=
  match fields.lookup name.toList with
  | some value => .ok value
  | none => codecError missing.toList

/-- The ACK branch of `parse_response`, on the text behind its head. -/
def parseAck (text : Text) : Except ReplyError DeviceResponse := do
  let fields ← parseFields text
  let sequence ← requireField fields "SEQ" "ACK fields are missing"
  let next ← requireField fields "NEXT" "ACK fields are missing"
  let sequence ← intField 0 sequence
  let next ← intField 0 next
  return { acknowledged := true, sequence := sequence, nextOffset := next }

/-- The NACK branch of `parse_response`. -/
def parseNack (text : Text) : Except ReplyError DeviceResponse := do
  let fields ← parseFields text
  let code ← requireField fields "CODE" "NACK fields are missing"
  let sequence ← requireField fields "SEQ" "NACK fields are missing"
  let next ← requireField fields "NEXT" "NACK fields are missing"
  let sequence ← intField 0 sequence
  let next ← intField 0 next
  return { acknowledged := false, sequence := sequence, nextOffset := next, code := some code }

/-- The STAGED branch of `parse_response`. -/
def parseStaged (text : Text) : Except ReplyError DeviceResponse := do
  let fields ← parseFields text
  let version ← requireField fields "VERSION" "STAGED fields are missing"
  let crc ← requireField fields "CRC" "STAGED fields are missing"
  let crc ← intField 16 crc
  return {
    acknowledged := true
    sequence := 0
    nextOffset := 0
    code := some "STAGED".toList
    version := some version
    crc := some crc }

/-- `parse_response`. -/
def parseResponse (line : Bytes) : Except ReplyError DeviceResponse := do
  let text ← replyText line
  if startsWith text "+OTA:ACK,".toList then parseAck (removePrefix text "+OTA:ACK,".toList)
  else if startsWith text "+OTA:NACK,".toList then
    parseNack (removePrefix text "+OTA:NACK,".toList)
  else if startsWith text "+OTA:STAGED,".toList then
    parseStaged (removePrefix text "+OTA:STAGED,".toList)
  else codecError ("unexpected device response: ".toList ++ reprText text)

/-- What `parse_ready` does with the text behind its head. -/
def parseReadyFields (text : Text) : Except ReplyError (Int × Int) := do
  let fields ← parseFields text
  let max ← requireField fields "MAX" "READY fields are missing"
  let chunk ← requireField fields "CHUNK" "READY fields are missing"
  let max ← intField 0 max
  let chunk ← intField 0 chunk
  return (max, chunk)

/-- `parse_ready`: the device's maximum image and chunk size. -/
def parseReady (line : Bytes) : Except ReplyError (Int × Int) := do
  let text ← replyText line
  if startsWith text "+OTA:READY,".toList then
    parseReadyFields (removePrefix text "+OTA:READY,".toList)
  else codecError ("unexpected handshake reply: ".toList ++ reprText text)

/-- The byte of a frame type is read back as the type. -/
lemma FrameType.ofValue_value (t : FrameType) : FrameType.ofValue t.value = some t := by
  cases t <;> rfl

/-- A frame without its checksum is as long as its header and its payload. -/
lemma length_frameBody (frame : UploadFrame) :
    (frameBody frame).length = frameHeaderSize + frame.payload.length := by
  simp [frameBody, frameMagic]
  omega

/-- What an encodable frame satisfies. -/
structure Encodable (frame : UploadFrame) : Prop where
  payload_le : frame.payload.length ≤ frameMaxPayload
  begin_eq : frame.frameType = .begin →
    frame.sequence = 0 ∧ frame.offset = 0 ∧ frame.payload.length = beginPayloadSize
  control_nil : frame.frameType = .commit ∨ frame.frameType = .cancel → frame.payload = []
  sequence_fits : 0 ≤ frame.sequence ∧ frame.sequence ≤ 0xFFFFFFFF
  offset_fits : 0 ≤ frame.offset ∧ frame.offset ≤ 0xFFFFFFFF

/-- `struct.pack` takes a number in 32 bits exactly if it is in range. -/
lemma fitsU32_iff {v : Int} : fitsU32 v = true ↔ 0 ≤ v ∧ v ≤ 0xFFFFFFFF := by
  simp [fitsU32]

/-- Nothing is wrong with a frame exactly if it can be encoded. -/
lemma encodeFault_eq_none_iff {frame : UploadFrame} :
    encodeFault frame = none ↔ Encodable frame := by
  unfold encodeFault
  constructor
  · intro h
    split at h
    · cases h
    · rename_i hpayload
      split at h
      · cases h
      · rename_i hbegin
        split at h
        · cases h
        · rename_i hcontrol
          split at h
          · cases h
          · rename_i hseq
            split at h
            · cases h
            · rename_i hoff
              simp only [Bool.not_eq_true, Bool.not_eq_false'] at hseq hoff
              exact ⟨not_lt.mp hpayload, fun ht => by tauto, fun ht => by tauto,
                fitsU32_iff.mp hseq, fitsU32_iff.mp hoff⟩
  · rintro ⟨hpayload, hbegin, hcontrol, hseq, hoff⟩
    rw [if_neg (not_lt.mpr hpayload), if_neg (by tauto), if_neg (by tauto),
      fitsU32_iff.mpr hseq, fitsU32_iff.mpr hoff]
    rfl

variable {crc32 : Bytes → UInt32}

/-- A frame that can be encoded is its body and the checksum of it, and no other is encoded. -/
lemma encodeFrame_eq_ok_iff {frame : UploadFrame} {data : Bytes} :
    encodeFrame crc32 frame = .ok data ↔
      Encodable frame ∧
        data = frameBody frame ++ leBytes frameCrcSize (crc32 (frameBody frame)).toNat := by
  unfold encodeFrame
  cases hf : encodeFault frame with
  | none =>
    have he := encodeFault_eq_none_iff.mp hf
    simp [he, eq_comm]
  | some message =>
    have he : ¬ Encodable frame := fun he => by
      rw [encodeFault_eq_none_iff.mpr he] at hf
      cases hf
    simp [he]

/-- The fields of an encoded body, whatever follows it. -/
lemma frameBody_fields (frame : UploadFrame) (post : Bytes) :
    let data := frameBody frame ++ post
    data.take 4 = frameMagic ∧ leField data 4 1 = frameVersion ∧
      leField data 5 1 = frame.frameType.value % 256 ∧ leField data 6 2 = frameHeaderSize ∧
      leField data 8 4 = frame.sequence.toNat % 256 ^ 4 ∧
      leField data 12 4 = frame.offset.toNat % 256 ^ 4 ∧
      leField data 16 2 = frame.payload.length % 256 ^ 2 ∧ leField data 18 2 = 0 := by
  intro data
  have hdata : data = frameMagic ++ (leBytes 1 frameVersion ++ (leBytes 1 frame.frameType.value ++
      (leBytes 2 frameHeaderSize ++ (leBytes 4 frame.sequence.toNat ++
      (leBytes 4 frame.offset.toNat ++ (leBytes 2 frame.payload.length ++ (leBytes 2 0 ++
      (frame.payload ++ post)))))))) := by
    simp only [data, frameBody, List.append_assoc]
  have skip (offset width : Nat) (rest : Bytes) :
      leField (frameMagic ++ rest) (4 + offset) width = leField rest offset width :=
    leField_append_right rfl rest offset width
  have past (n v offset width : Nat) (rest : Bytes) :
      leField (leBytes n v ++ rest) (n + offset) width = leField rest offset width :=
    leField_append_right (length_leBytes n v) rest offset width
  rw [hdata]
  refine ⟨rfl, ?_, ?_, ?_, ?_, ?_, ?_, ?_⟩
  · rw [skip 0, leField_leBytes]
    rfl
  · rw [skip 1, past 1 _ 0, leField_leBytes]
    rfl
  · rw [skip 2, past 1 _ 1, past 1 _ 0, leField_leBytes]
    rfl
  · rw [skip 4, past 1 _ 3, past 1 _ 2, past 2 _ 0, leField_leBytes]
  · rw [skip 8, past 1 _ 7, past 1 _ 6, past 2 _ 4, past 4 _ 0, leField_leBytes]
  · rw [skip 12, past 1 _ 11, past 1 _ 10, past 2 _ 8, past 4 _ 4, past 4 _ 0, leField_leBytes]
  · rw [skip 14, past 1 _ 13, past 1 _ 12, past 2 _ 10, past 4 _ 6, past 4 _ 2, past 2 _ 0,
      leField_leBytes]
    rfl

/-- Decoding inverts encoding. -/
theorem decodeFrame_encodeFrame {frame : UploadFrame} {data : Bytes}
    (h : encodeFrame crc32 frame = .ok data) : decodeFrame crc32 data = .ok frame := by
  obtain ⟨he, rfl⟩ := encodeFrame_eq_ok_iff.mp h
  obtain ⟨hmagic, hversion, htype, hheader, hsequence, hoffset, hlength, hreserved⟩ :=
    frameBody_fields frame (leBytes frameCrcSize (crc32 (frameBody frame)).toNat)
  have hbody := length_frameBody frame
  have hpayload := he.payload_le
  obtain ⟨hs0, hs⟩ := he.sequence_fits
  obtain ⟨ho0, ho⟩ := he.offset_fits
  simp only [frameHeaderSize, frameMaxPayload, frameCrcSize] at *
  -- no field loses anything in its width
  have hlength' : frame.payload.length % 256 ^ 2 = frame.payload.length :=
    Nat.mod_eq_of_lt (by omega)
  have htype' : frame.frameType.value % 256 = frame.frameType.value := by
    cases frame.frameType <;> rfl
  have hsequence' : ((frame.sequence.toNat % 256 ^ 4 : Nat) : Int) = frame.sequence := by
    rw [Nat.mod_eq_of_lt (by omega)]
    omega
  have hoffset' : ((frame.offset.toNat % 256 ^ 4 : Nat) : Int) = frame.offset := by
    rw [Nat.mod_eq_of_lt (by omega)]
    omega
  -- the checksum stands behind the payload
  have hcrc : leField (frameBody frame ++ leBytes 4 (crc32 (frameBody frame)).toNat)
      (20 + frame.payload.length) 4 = (crc32 (frameBody frame)).toNat := by
    have hread := leField_leBytes 4 (crc32 (frameBody frame)).toNat []
    rw [List.append_nil] at hread
    have hskip := leField_append_right hbody (leBytes 4 (crc32 (frameBody frame)).toNat) 0 4
    rw [Nat.add_zero] at hskip
    rw [hskip, hread]
    exact Nat.mod_eq_of_lt (crc32 (frameBody frame)).toNat_lt
  have htake : (frameBody frame ++ leBytes 4 (crc32 (frameBody frame)).toNat).take
      (20 + frame.payload.length) = frameBody frame := List.take_left' hbody
  have hdrop : (frameBody frame).drop 20 = frame.payload := by
    refine List.drop_left' ?_
    simp [frameMagic]
  have hlen : (frameBody frame ++ leBytes 4 (crc32 (frameBody frame)).toNat).length =
      20 + frame.payload.length + 4 := by
    rw [List.length_append, hbody, length_leBytes]
  unfold decodeFrame
  simp only [frameHeaderSize, frameMaxPayload, frameCrcSize]
  simp only [hmagic, hversion, htype, htype', hheader, hsequence, hsequence', hoffset, hoffset',
    hlength, hlength', hreserved, hcrc, htake, hdrop, hlen, FrameType.ofValue_value]
  rw [if_neg (by omega), if_neg (by simp), if_neg (by omega), if_neg (by simp),
    if_neg (by simp)]

/-- A byte that is read as a type is the byte of that type. -/
lemma FrameType.value_ofValue {v : Nat} {t : FrameType} (h : FrameType.ofValue v = some t) :
    t.value = v := by
  unfold FrameType.ofValue at h
  split at h
  · cases h
    rfl
  · cases h
    rfl
  · cases h
    rfl
  · cases h
    rfl
  · cases h

/-- What the decoder has checked, and what it returns. -/
structure Decoded (crc32 : Bytes → UInt32) (data : Bytes) (frame : UploadFrame) : Prop where
  magic : data.take 4 = frameMagic
  version : leField data 4 1 = frameVersion
  frameType : frame.frameType.value = leField data 5 1
  headerSize : leField data 6 2 = frameHeaderSize
  sequence : frame.sequence = leField data 8 4
  offset : frame.offset = leField data 12 4
  size : leField data 16 2 = frame.payload.length
  reserved : leField data 18 2 = 0
  length : data.length = frameHeaderSize + frame.payload.length + frameCrcSize
  payload : data.take (frameHeaderSize + frame.payload.length) =
    data.take frameHeaderSize ++ frame.payload
  crc : leField data (frameHeaderSize + frame.payload.length) 4 =
    (crc32 (data.take (frameHeaderSize + frame.payload.length))).toNat

/-- What is decoded from the bytes stands in them. -/
lemma decodeFrame_ok {data : Bytes} {frame : UploadFrame} (h : decodeFrame crc32 data = .ok frame) :
    Decoded crc32 data frame := by
  unfold decodeFrame at h
  dsimp only at h
  split at h
  · cases h
  · split at h
    · cases h
    · rename_i hmagic
      obtain ⟨hmagic, hversion⟩ := not_or.mp hmagic
      split at h
      · cases h
      · rename_i hheader
        obtain ⟨hheader, hreserved⟩ := not_or.mp hheader
        obtain ⟨hreserved, hsize⟩ := not_or.mp hreserved
        split at h
        · cases h
        · rename_i hlength
          split at h
          · cases h
          · rename_i hcrc
            cases htype : FrameType.ofValue (leField data 5 1) with
            | none =>
              rw [htype] at h
              cases h
            | some t =>
              rw [htype] at h
              cases h
              -- behind every check: the bytes are the header, the payload and the checksum
              have hlength := not_not.mp hlength
              have hpayload : ((data.take (frameHeaderSize + leField data 16 2)).drop
                  frameHeaderSize).length = leField data 16 2 := by
                rw [List.length_drop, List.length_take, hlength]
                omega
              refine ⟨not_not.mp hmagic, not_not.mp hversion, FrameType.value_ofValue htype,
                not_not.mp hheader, rfl, rfl, hpayload.symm, not_not.mp hreserved, ?_, ?_, ?_⟩
              · rw [hpayload]
                exact hlength
              · rw [hpayload]
                conv_lhs => rw [← List.take_append_drop frameHeaderSize
                  (data.take (frameHeaderSize + leField data 16 2))]
                rw [List.take_take, min_eq_left (Nat.le_add_right _ _)]
              · rw [hpayload]
                exact not_not.mp hcrc

/-- The decoded bytes are the header, the payload and the CRC of the frame. -/
lemma Decoded.data_eq {data : Bytes} {frame : UploadFrame} (h : Decoded crc32 data frame) :
    data = frameBody frame ++ leBytes frameCrcSize (crc32 (frameBody frame)).toNat := by
  have hlength := h.length
  simp only [frameHeaderSize, frameCrcSize] at hlength
  have hfield (offset width : Nat) (hle : offset + width ≤ 20) :
      data.take (offset + width) = data.take offset ++ leBytes width (leField data offset width) :=
    take_add_field (by omega)
  -- the header, field by field
  have hheader : data.take 20 = frameMagic ++ leBytes 1 frameVersion ++
      leBytes 1 frame.frameType.value ++ leBytes 2 frameHeaderSize ++
        leBytes 4 frame.sequence.toNat ++ leBytes 4 frame.offset.toNat ++
          leBytes 2 frame.payload.length ++ leBytes 2 0 := by
    rw [hfield 18 2 (by omega), hfield 16 2 (by omega), hfield 12 4 (by omega),
      hfield 8 4 (by omega), hfield 6 2 (by omega), hfield 5 1 (by omega), hfield 4 1 (by omega),
      h.magic, h.version, h.frameType, h.headerSize, h.sequence, h.offset, h.size, h.reserved]
    rfl
  have hbody : data.take (frameHeaderSize + frame.payload.length) = frameBody frame := by
    rw [h.payload, show frameHeaderSize = 20 from rfl, hheader]
    rfl
  have hcrc : data.take (frameHeaderSize + frame.payload.length + frameCrcSize) =
      data.take (frameHeaderSize + frame.payload.length) ++
        leBytes frameCrcSize (leField data (frameHeaderSize + frame.payload.length) 4) :=
    take_add_field h.length.ge
  rw [h.crc, hbody] at hcrc
  rw [← hcrc]
  exact (List.take_of_length_le h.length.le).symm

/-- The codec is a bijection on its image: decoding inverts encoding, and a byte string that decodes
to a frame that can be encoded is its encoding. -/
theorem codec_bijective (crc32 : Bytes → UInt32) :
    (∀ frame data, encodeFrame crc32 frame = .ok data → decodeFrame crc32 data = .ok frame) ∧
      ∀ frame data, decodeFrame crc32 data = .ok frame →
        (∃ encoded, encodeFrame crc32 frame = .ok encoded) → encodeFrame crc32 frame = .ok data := by
  refine ⟨fun frame data => decodeFrame_encodeFrame, ?_⟩
  intro frame data hdecoded hencodes
  obtain ⟨encoded, hencoded⟩ := hencodes
  obtain ⟨he, -⟩ := encodeFrame_eq_ok_iff.mp hencoded
  exact encodeFrame_eq_ok_iff.mpr ⟨he, (decodeFrame_ok hdecoded).data_eq⟩

/-- A CANCEL frame, there and back. -/
theorem codec_bijective_cancel :
    let crc32 : Bytes → UInt32 := fun bytes => UInt32.ofNat bytes.length
    let frame : UploadFrame := { frameType := .cancel, sequence := 7, offset := 0, payload := [] }
    let data := frameBody frame ++ [20, 0, 0, 0]
    decodeFrame crc32 data = .ok frame ∧ encodeFrame crc32 frame = .ok data := by
  intro crc32 frame data
  have hencoded : encodeFrame crc32 frame = .ok data := by decide
  have hdecoded := (codec_bijective crc32).1 frame data hencoded
  exact ⟨hdecoded, (codec_bijective crc32).2 frame data hdecoded ⟨data, hencoded⟩⟩

end SensorHost.Ota
