import SensorHost.Protocol.Resync

/-!
# Valid frames

A valid frame is a byte string that the parser takes whole and for which it emits a frame
(`ValidFrame`). Whether it emits one is decided by the bytes alone, not by the state of the decoder
(`Decoder.accept_isSome`). A stream of valid frames is scanned into these frames, however it is cut
(`StreamParser.feed_frames`).

`encodeFrameV1` is the encoder of V1 frames, and `ValidFrame.jy` is what it makes of a JY61PL sample.

The structure `ValidFrame` carries the proof that its bytes are taken whole and accepted, so
theorems over streams of frames have no side conditions. What the parser does with such a frame is
one equation (`ValidFrame.event_eq`), and what it does with a list of them is the fold
`Decoder.frames`.

For frames that are built, `takes_wire` says when a header with a body and the checksum behind it is
taken.
-/

namespace SensorHost.Protocol
open SensorHost.Lib

namespace Decoder

/-- `_decode_frame` succeeds or fails by the candidate alone. -/
lemma decodeFrame_isSome (d e : Decoder) (common : Frame) :
    (d.decodeFrame common).2.isSome = (e.decodeFrame common).2.isSome := by
  unfold decodeFrame
  cases common.messageType with
  | iis3dwbFifo =>
    dsimp only
    split
    · rfl
    · split <;> split <;> rfl
  | jy61plSample =>
    dsimp only
    split <;> rfl
  | status =>
    dsimp only
    split <;> rfl
  | cliResponse => rfl

/-- What a decoded frame keeps of the common fields, and what the decoder keeps. -/
lemma decodeFrame_some {d d' : Decoder} {common frame : Frame}
    (h : d.decodeFrame common = (d', some frame)) :
    frame.rawBytes = common.rawBytes ∧ frame.flags = common.flags ∧
      frame.messageType = common.messageType ∧ frame.deviceUuid = common.deviceUuid ∧
      d'.stats = d.stats ∧ d'.lastSequence = d.lastSequence := by
  unfold decodeFrame payloadError at h
  cases hm : common.messageType with
  | iis3dwbFifo =>
    simp only [hm] at h
    split at h
    · cases h
    · split at h
      · cases h
        exact ⟨rfl, rfl, hm, rfl, rfl, rfl⟩
      · cases h
        exact ⟨rfl, rfl, rfl, rfl, rfl, rfl⟩
  | jy61plSample =>
    simp only [hm] at h
    split at h
    · cases h
    · cases h
      exact ⟨rfl, rfl, rfl, rfl, rfl, rfl⟩
  | status =>
    simp only [hm] at h
    split at h
    · cases h
    · cases h
      exact ⟨rfl, rfl, rfl, rfl, rfl, rfl⟩
  | cliResponse =>
    simp only [hm] at h
    cases h
    exact ⟨rfl, rfl, rfl, rfl, rfl, rfl⟩

/-- A control frame does not depend on the decoder, and leaves it alone. -/
lemma decodeFrame_control {d d' : Decoder} {common frame : Frame}
    (hm : common.messageType.isSensor = false) (h : d.decodeFrame common = (d', some frame))
    (e : Decoder) : e.decodeFrame common = (e, some frame) := by
  unfold decodeFrame payloadError at h ⊢
  cases ht : common.messageType with
  | iis3dwbFifo =>
    rw [ht] at hm
    cases hm
  | jy61plSample =>
    rw [ht] at hm
    cases hm
  | status =>
    simp only [ht] at h ⊢
    split at h
    · cases h
    · rename_i hrule
      rw [if_neg hrule]
      cases h
      rfl
  | cliResponse =>
    simp only [ht] at h ⊢
    cases h
    rfl

/-- `feed` emits a frame or not by the candidate alone. -/
lemma accept_isSome (d e : Decoder) (h : Header) (candidate : Bytes) :
    (d.accept h candidate).2.isSome = (e.accept h candidate).2.isSome := by
  unfold accept
  split
  · rfl
  · cases MessageType.ofValue h.messageType with
    | none => rfl
    | some messageType =>
      dsimp only
      split
      · rfl
      · have hsame := decodeFrame_isSome d e (commonFields messageType h candidate)
        cases hd : d.decodeFrame (commonFields messageType h candidate) with
        | mk d' frame =>
          cases he : e.decodeFrame (commonFields messageType h candidate) with
          | mk e' frame' =>
            rw [hd, he] at hsame
            cases frame <;> cases frame' <;> first | rfl | cases hsame

/-- Count an emitted frame; a sensor frame also advances the sequence. -/
def countFrame (d : Decoder) (messageType : MessageType) (sequence : Nat) : Decoder :=
  let d := if messageType.isSensor then d.recordSequence sequence else d
  { d with stats.frames := d.stats.frames + 1 }

/-- An emitted frame, as `_decode_frame` gives it. -/
lemma accept_some {d : Decoder} {h : Header} {candidate : Bytes}
    (hsome : (d.accept h candidate).2.isSome) :
    ∃ messageType d' frame, MessageType.ofValue h.messageType = some messageType ∧
      (messageType.isSensor = false → h.version ≠ Sdf1.dataVersion) ∧
      d.decodeFrame (commonFields messageType h candidate) = (d', some frame) ∧
      d.accept h candidate = (d'.countFrame messageType h.sequence, some frame) := by
  unfold accept at hsome ⊢
  split at hsome
  · cases hsome
  · rename_i hversion
    rw [if_neg hversion]
    cases hm : MessageType.ofValue h.messageType with
    | none =>
      rw [hm] at hsome
      cases hsome
    | some messageType =>
      simp only [hm] at hsome ⊢
      split at hsome
      · cases hsome
      · rename_i hsensor
        rw [if_neg hsensor]
        cases hd : d.decodeFrame (commonFields messageType h candidate) with
        | mk d' frame =>
          rw [hd] at hsome
          cases frame with
          | none => cases hsome
          | some frame =>
            refine ⟨messageType, d', frame, rfl, fun hc hv => hsensor ⟨hv, ?_⟩, hd, rfl⟩
            simp [hc]

end Decoder

/-- A frame the parser takes whole and emits. -/
structure ValidFrame (crc32 : Bytes → UInt32) where
  bytes : Bytes
  takes : Takes crc32 bytes bytes.length .candidate
  emits : (Decoder.accept {} (Header.unpack bytes) bytes).2.isSome = true

namespace ValidFrame

variable {crc32 : Bytes → UInt32} (f : ValidFrame crc32)

/-- The header of the frame. -/
def header : Header := Header.unpack f.bytes

/-- The ARCHIVE_EXPORT bit of the frame. -/
def archive : Bool := f.header.flags &&& archiveFlag != 0

/-- The frame is an IIS or JY61PL frame. -/
def isSensor : Bool := (MessageType.ofValue f.header.messageType).any MessageType.isSensor

/-- The segment the parser takes. -/
def segment : Bytes × Event := (f.bytes, .candidate)

/-- A valid frame is taken whole, as a candidate. -/
lemma item : (sdf1 crc32).Item f.bytes .candidate := lookSdf1_take_iff.mpr f.takes

/-- It is not empty. -/
lemma ne_nil : f.bytes ≠ [] := f.item.ne_nil

/-- It is a good candidate. -/
lemma good : GoodCandidate crc32 f.bytes := goodCandidate_iff.mpr (f.takes.size_eq ▸ f.takes)

/-- The decoder behind the frame, and the frame it emits. -/
lemma event_eq (d : Decoder) :
    ∃ (messageType : MessageType) (d' : Decoder) (frame : Frame),
      MessageType.ofValue f.header.messageType = some messageType ∧
      d.event f.bytes .candidate = (d'.countFrame messageType f.header.sequence, [frame]) ∧
      d'.stats = d.stats ∧ d'.lastSequence = d.lastSequence ∧
      frame.rawBytes = f.bytes ∧ frame.archiveExport = f.archive ∧
      frame.messageType = messageType := by
  have hsome : (d.accept f.header f.bytes).2.isSome := by
    rw [d.accept_isSome {} f.header f.bytes]
    exact f.emits
  obtain ⟨messageType, d', frame, htype, -, hdecode, haccept⟩ := Decoder.accept_some hsome
  obtain ⟨hraw, hflags, hm, -, hstats, hlast⟩ := Decoder.decodeFrame_some hdecode
  refine ⟨messageType, d', frame, htype, ?_, hstats, hlast, hraw, ?_, hm⟩
  · simp only [Decoder.event]
    rw [show Header.unpack f.bytes = f.header from rfl, haccept]
    rfl
  · rw [Frame.archiveExport, hflags]
    rfl

/-- A control frame is the same frame for every decoder, and only counts. -/
lemma event_control (hf : f.isSensor = false) :
    ∃ frame : Frame, frame.deviceUuid = none ∧ frame.archiveExport = f.archive ∧
      frame.rawBytes = f.bytes ∧
      ∀ d : Decoder, d.event f.bytes .candidate =
        ({ d with stats.frames := d.stats.frames + 1 }, [frame]) := by
  obtain ⟨messageType, d', frame, htype, hversion, hdecode, -⟩ := Decoder.accept_some f.emits
  obtain ⟨hraw, hflags, -, huuid, -⟩ := Decoder.decodeFrame_some hdecode
  have hcontrol : messageType.isSensor = false := by
    rw [isSensor, header, htype] at hf
    exact hf
  refine ⟨frame, ?_, ?_, hraw, fun d => ?_⟩
  · rw [huuid]
    exact if_neg (hversion hcontrol)
  · rw [Frame.archiveExport, hflags]
    rfl
  · have hsome : (d.accept f.header f.bytes).2.isSome := by
      rw [d.accept_isSome {} f.header f.bytes]
      exact f.emits
    obtain ⟨messageType', d'', frame', htype', -, hdecode', haccept⟩ := Decoder.accept_some hsome
    rw [show f.header.messageType = (Header.unpack f.bytes).messageType from rfl, htype] at htype'
    cases htype'
    have hsame := Decoder.decodeFrame_control (by exact hcontrol) hdecode d
    rw [show Header.unpack f.bytes = f.header from rfl, hdecode'] at hsame
    cases hsame
    simp only [Decoder.event]
    rw [show Header.unpack f.bytes = f.header from rfl, haccept, Decoder.countFrame, hcontrol]
    rfl

end ValidFrame

variable {crc32 : Bytes → UInt32}

/-- The bytes of a sequence of frames. -/
def bytesOf (frames : List (ValidFrame crc32)) : Bytes := (frames.map ValidFrame.bytes).flatten

/-- The decoder over a sequence of valid frames. -/
def Decoder.frames (d : Decoder) (frames : List (ValidFrame crc32)) : Decoder × List Frame :=
  d.events (frames.map ValidFrame.segment)

/-- Frames are handled one after the other. -/
lemma Decoder.frames_append (d : Decoder) (as bs : List (ValidFrame crc32)) :
    d.frames (as ++ bs) =
      (((d.frames as).1.frames bs).1, (d.frames as).2 ++ ((d.frames as).1.frames bs).2) := by
  rw [Decoder.frames, List.map_append, Decoder.events_append]
  rfl

/-- Every valid frame of a stream is emitted, once and in order. -/
lemma Decoder.frames_rawBytes (d : Decoder) (frames : List (ValidFrame crc32)) :
    (d.frames frames).2.map Frame.rawBytes = frames.map ValidFrame.bytes := by
  induction frames generalizing d with
  | nil => rfl
  | cons f frames ih =>
    obtain ⟨messageType, d', frame, -, hevent, -, -, hraw, -⟩ := f.event_eq d
    simp only [Decoder.frames, List.map_cons, ValidFrame.segment, Decoder.events, hevent,
      List.singleton_append, hraw]
    exact congrArg _ (ih _)

/-- The parser over a stream of valid frames that ends where it waits. -/
theorem StreamParser.feed_frames (p : StreamParser) (data rest : Bytes)
    (frames : List (ValidFrame crc32)) (h : p.buffer ++ data = bytesOf frames ++ rest)
    (hrest : (sdf1 crc32).look rest = .wait) :
    p.feed crc32 data =
      ({ toDecoder := (p.toDecoder.frames frames).1, buffer := rest },
        (p.toDecoder.frames frames).2) := by
  have hscan := (sdf1 crc32).scan_items ValidFrame.bytes (fun _ => .candidate) frames
    (fun f _ => f.item) hrest
  rw [StreamParser.feed_eq, h, bytesOf, hscan]
  rfl

/-- The header `_HEADER.pack` gets for a V1 frame. -/
def headerV1 (messageType : MessageType) (flags sequence timestampUs itemCount payloadSize : Nat) :
    Header :=
  { magic := Sdf1.magic
    version := Sdf1.version
    messageType := messageType.value
    flags := flags
    headerSize := Sdf1.headerSize
    payloadSize := payloadSize
    sequence := sequence
    timestampUs := timestampUs
    itemCount := itemCount
    reserved := 0 }

/-- A V1 frame on the wire. -/
def encodeFrameV1 (crc32 : Bytes → UInt32) (messageType : MessageType)
    (flags sequence timestampUs itemCount : Nat) (payload : Bytes) : Bytes :=
  let content :=
    (headerV1 messageType flags sequence timestampUs itemCount payload.length).pack ++ payload
  content ++ leBytes Sdf1.crcSize (crc32 content).toNat

/-- Every field of the header fits its place. -/
structure Header.Fits (h : Header) : Prop where
  magic : h.magic.length = 4
  version : h.version < 256
  messageType : h.messageType < 256
  flags : h.flags < 256 ^ 2
  headerSize : h.headerSize < 256 ^ 2
  payloadSize : h.payloadSize < 256 ^ 2
  sequence : h.sequence < 256 ^ 4
  timestampUs : h.timestampUs < 256 ^ 8
  itemCount : h.itemCount < 256 ^ 2
  reserved : h.reserved < 256 ^ 2

/-- Unpacking inverts packing, whatever follows the header. -/
lemma Header.unpack_pack {h : Header} (fits : h.Fits) (post : Bytes) :
    Header.unpack (h.pack ++ post) = h := by
  have hpack : h.pack ++ post = h.magic ++ (leBytes 1 h.version ++ (leBytes 1 h.messageType ++
      (leBytes 2 h.flags ++ (leBytes 2 h.headerSize ++ (leBytes 2 h.payloadSize ++
      (leBytes 4 h.sequence ++ (leBytes 8 h.timestampUs ++ (leBytes 2 h.itemCount ++
      (leBytes 2 h.reserved ++ post))))))))) := by
    simp only [Header.pack, List.append_assoc]
  have skip (offset width : Nat) (rest : Bytes) :
      leField (h.magic ++ rest) (4 + offset) width = leField rest offset width :=
    leField_append_right fits.magic rest offset width
  have past (n v offset width : Nat) (rest : Bytes) :
      leField (leBytes n v ++ rest) (n + offset) width = leField rest offset width :=
    leField_append_right (length_leBytes n v) rest offset width
  have read (n v : Nat) (rest : Bytes) (hv : v < 256 ^ n) :
      leField (leBytes n v ++ rest) 0 n = v := by
    rw [leField_leBytes, Nat.mod_eq_of_lt hv]
  -- each field is read behind those before it
  rw [hpack]
  obtain ⟨magic, version, messageType, flags, headerSize, payloadSize, sequence, timestampUs,
    itemCount, reserved⟩ := h
  simp only [Header.unpack, Header.mk.injEq]
  refine ⟨List.take_left' fits.magic, ?_, ?_, ?_, ?_, ?_, ?_, ?_, ?_, ?_⟩
  · exact (skip 0 _ _).trans (read _ _ _ (by simpa using fits.version))
  · rw [skip 1, past 1 _ 0]
    exact read _ _ _ (by simpa using fits.messageType)
  · rw [skip 2, past 1 _ 1, past 1 _ 0]
    exact read _ _ _ fits.flags
  · rw [skip 4, past 1 _ 3, past 1 _ 2, past 2 _ 0]
    exact read _ _ _ fits.headerSize
  · rw [skip 6, past 1 _ 5, past 1 _ 4, past 2 _ 2, past 2 _ 0]
    exact read _ _ _ fits.payloadSize
  · rw [skip 8, past 1 _ 7, past 1 _ 6, past 2 _ 4, past 2 _ 2, past 2 _ 0]
    exact read _ _ _ fits.sequence
  · rw [skip 12, past 1 _ 11, past 1 _ 10, past 2 _ 8, past 2 _ 6, past 2 _ 4, past 4 _ 0]
    exact read _ _ _ fits.timestampUs
  · rw [skip 20, past 1 _ 19, past 1 _ 18, past 2 _ 16, past 2 _ 14, past 2 _ 12, past 4 _ 8,
      past 8 _ 0]
    exact read _ _ _ fits.itemCount
  · rw [skip 22, past 1 _ 21, past 1 _ 20, past 2 _ 18, past 2 _ 16, past 2 _ 14, past 4 _ 10,
      past 8 _ 2, past 2 _ 0]
    exact read _ _ _ fits.reserved

/-- A header has its size. -/
lemma Header.length_pack {h : Header} (hmagic : h.magic.length = 4) :
    h.pack.length = Sdf1.headerSize := by
  simp [Header.pack, hmagic]

/-- A header and what follows it, with the CRC of both. -/
def wire (crc32 : Bytes → UInt32) (h : Header) (body : Bytes) : Bytes :=
  h.pack ++ body ++ leBytes Sdf1.crcSize (crc32 (h.pack ++ body)).toNat

section Wire

variable {h : Header} {body : Bytes}

/-- The header is read back from the wire. -/
lemma unpack_wire (fits : h.Fits) : Header.unpack (wire crc32 h body) = h := by
  unfold wire
  rw [List.append_assoc]
  exact Header.unpack_pack fits _

/-- A frame is as long as its header, its body and its checksum. -/
lemma length_wire (fits : h.Fits) :
    (wire crc32 h body).length = Sdf1.headerSize + body.length + Sdf1.crcSize := by
  unfold wire
  rw [List.length_append, List.length_append, Header.length_pack fits.magic, length_leBytes]

/-- Without its CRC it is the header and what follows it. -/
lemma take_wire (fits : h.Fits) :
    (wire crc32 h body).take ((wire crc32 h body).length - Sdf1.crcSize) = h.pack ++ body := by
  have hcontent : (wire crc32 h body).length - Sdf1.crcSize = (h.pack ++ body).length := by
    rw [length_wire fits, List.length_append, Header.length_pack fits.magic]
    exact Nat.add_sub_cancel _ _
  rw [hcontent]
  exact List.take_left

/-- The parser takes it whole, if the header announces just that. -/
lemma takes_wire (fits : h.Fits) (hmagic : h.magic = Sdf1.magic) (hfault : h.fault = none)
    (hsize : h.frameSize = Sdf1.headerSize + body.length + Sdf1.crcSize) :
    Takes crc32 (wire crc32 h body) (wire crc32 h body).length .candidate := by
  have hheader : Header.unpack (wire crc32 h body) = h := unpack_wire fits
  have hlen : (wire crc32 h body).length = Sdf1.headerSize + body.length + Sdf1.crcSize :=
    length_wire fits
  refine .candidate ?_ ?_ ?_ ?_ le_rfl ?_
  · rw [hheader, hlen, hsize]
  · unfold wire Header.pack
    rw [hmagic]
    simp only [List.append_assoc]
    exact List.prefix_append _ _
  · rw [hheader]
    exact hfault
  · omega
  · have hcontent : (wire crc32 h body).length - Sdf1.crcSize = (h.pack ++ body).length := by
      rw [hlen, List.length_append, Header.length_pack fits.magic]
      exact Nat.add_sub_cancel _ _
    have hread : leField (wire crc32 h body) (h.pack ++ body).length 4 =
        (crc32 (h.pack ++ body)).toNat := by
      have hsmall : (crc32 (h.pack ++ body)).toNat < 256 ^ 4 := (crc32 (h.pack ++ body)).toNat_lt
      have hfield := leField_leBytes 4 (crc32 (h.pack ++ body)).toNat []
      rw [List.append_nil, Nat.mod_eq_of_lt hsmall] at hfield
      exact (leField_append_right rfl _ 0 4).trans hfield
    rw [crcHolds, List.take_length, hcontent, hread, beq_iff_eq]
    unfold wire
    rw [List.take_left]

/-- The payload the parser reads is what follows the header it announces. -/
lemma payload_wire (fits : h.Fits) (messageType : MessageType) :
    (Decoder.commonFields messageType h (wire crc32 h body)).payload =
      (h.pack ++ body).drop h.headerSize :=
  congrArg (List.drop h.headerSize) (take_wire fits)

end Wire

section EncodeFrameV1

variable {messageType : MessageType} {flags sequence timestampUs itemCount : Nat} {payload : Bytes}

/-- The fields of a header are in range. -/
lemma fits_headerV1 (hflags : flags < 2 ^ 16) (hsequence : sequence < 2 ^ 32)
    (htime : timestampUs < 2 ^ 64) (hitems : itemCount < 2 ^ 16)
    (hpayload : payload.length ≤ Sdf1.maxPayloadSize) :
    (headerV1 messageType flags sequence timestampUs itemCount payload.length).Fits where
  magic := rfl
  version := by simp [headerV1]
  messageType := by cases messageType <;> simp [headerV1, MessageType.value]
  flags := hflags
  headerSize := by simp [headerV1]
  payloadSize := by
    simp only [Sdf1.maxPayloadSize] at hpayload
    simp only [headerV1]
    omega
  sequence := hsequence
  timestampUs := htime
  itemCount := hitems
  reserved := by simp [headerV1]

/-- The header of an encoded frame. -/
lemma unpack_encodeFrameV1 (hflags : flags < 2 ^ 16) (hsequence : sequence < 2 ^ 32)
    (htime : timestampUs < 2 ^ 64) (hitems : itemCount < 2 ^ 16)
    (hpayload : payload.length ≤ Sdf1.maxPayloadSize) :
    Header.unpack
        (encodeFrameV1 crc32 messageType flags sequence timestampUs itemCount payload) =
      headerV1 messageType flags sequence timestampUs itemCount payload.length :=
  unpack_wire (fits_headerV1 hflags hsequence htime hitems hpayload)

/-- A frame is as long as its header, its payload and its checksum. -/
lemma length_encodeFrameV1 :
    (encodeFrameV1 crc32 messageType flags sequence timestampUs itemCount payload).length =
      Sdf1.headerSize + payload.length + Sdf1.crcSize := by
  rw [encodeFrameV1, List.length_append, List.length_append, Header.length_pack (by rfl),
    length_leBytes]

/-- The parser takes an encoded frame whole. -/
lemma takes_encodeFrameV1 (hflags : flags < 2 ^ 16) (hsequence : sequence < 2 ^ 32)
    (htime : timestampUs < 2 ^ 64) (hitems : itemCount < 2 ^ 16)
    (hpayload : payload.length ≤ Sdf1.maxPayloadSize) :
    let bytes := encodeFrameV1 crc32 messageType flags sequence timestampUs itemCount payload
    Takes crc32 bytes bytes.length .candidate := by
  refine takes_wire (fits_headerV1 hflags hsequence htime hitems hpayload) rfl ?_ rfl
  exact headerRules_iff.mp
    ⟨⟨le_rfl, by simp [headerV1]⟩, fun _ => rfl, fun hv => absurd hv (by simp [headerV1]), hpayload⟩

end EncodeFrameV1

/-- A V1 CLI candidate is emitted. -/
lemma accept_cli_isSome {h : Header} (hversion : h.version = Sdf1.version)
    (htype : h.messageType = 4) (candidate : Bytes) :
    (Decoder.accept {} h candidate).2.isSome = true := by
  have hversions : ¬ (h.version ≠ Sdf1.version ∧ h.version ≠ Sdf1.dataVersion) :=
    fun hne => hne.1 hversion
  have hdata : ¬ (h.version = Sdf1.dataVersion ∧ (!MessageType.cliResponse.isSensor) = true) := by
    rw [hversion]
    exact fun hv => absurd hv.1 (by decide)
  rw [Decoder.accept, if_neg hversions, htype]
  simp only [MessageType.ofValue]
  rw [if_neg hdata]
  rfl

/-- A V1 JY61PL candidate with one sample is emitted. -/
lemma accept_jy_isSome {h : Header} {candidate : Bytes} (hversion : h.version = Sdf1.version)
    (htype : h.messageType = 2) (hitems : h.itemCount = 1)
    (hlen : (Decoder.commonFields .jy61plSample h candidate).payload.length = 14) :
    (Decoder.accept {} h candidate).2.isSome = true := by
  have hversions : ¬ (h.version ≠ Sdf1.version ∧ h.version ≠ Sdf1.dataVersion) :=
    fun hne => hne.1 hversion
  have hdata : ¬ (h.version = Sdf1.dataVersion ∧ (!MessageType.jy61plSample.isSensor) = true) := by
    rw [hversion]
    exact fun hv => absurd hv.1 (by decide)
  have hrule : ¬ ((Decoder.commonFields .jy61plSample h candidate).payload.length ≠ 14 ∨
      (Decoder.commonFields .jy61plSample h candidate).itemCount ≠ 1) := by
    rintro (hne | hne)
    · exact hne hlen
    · exact hne hitems
  have hdecode : ∃ frame, Decoder.decodeFrame {} (Decoder.commonFields .jy61plSample h candidate) =
      ({}, some frame) := ⟨_, if_neg hrule⟩
  obtain ⟨frame, hdecode⟩ := hdecode
  rw [Decoder.accept, if_neg hversions, htype]
  simp only [MessageType.ofValue]
  rw [if_neg hdata, hdecode]
  rfl

/-- The CLI and the JY61PL frames of the encoder are emitted. -/
lemma emits_encodeFrameV1 {messageType : MessageType} {flags sequence timestampUs itemCount : Nat}
    {payload : Bytes} (hflags : flags < 2 ^ 16) (hsequence : sequence < 2 ^ 32)
    (htime : timestampUs < 2 ^ 64) (hitems : itemCount < 2 ^ 16)
    (hpayload : payload.length ≤ Sdf1.maxPayloadSize)
    (hrule : messageType = .cliResponse ∨
      messageType = .jy61plSample ∧ payload.length = 14 ∧ itemCount = 1) :
    (Decoder.accept {}
      (Header.unpack (encodeFrameV1 crc32 messageType flags sequence timestampUs itemCount payload))
      (encodeFrameV1 crc32 messageType flags sequence timestampUs itemCount payload)).2.isSome =
        true := by
  have fits : (headerV1 messageType flags sequence timestampUs itemCount payload.length).Fits :=
    fits_headerV1 hflags hsequence htime hitems hpayload
  have hwire : encodeFrameV1 crc32 messageType flags sequence timestampUs itemCount payload =
      wire crc32 (headerV1 messageType flags sequence timestampUs itemCount payload.length)
        payload := rfl
  rw [hwire, unpack_wire fits]
  rcases hrule with rfl | ⟨rfl, hlen, rfl⟩
  · exact accept_cli_isSome rfl rfl _
  · refine accept_jy_isSome rfl rfl rfl ?_
    have hdrop : ((headerV1 .jy61plSample flags sequence timestampUs 1 payload.length).pack ++
        payload).drop Sdf1.headerSize = payload := List.drop_left' (Header.length_pack fits.magic)
    rw [payload_wire fits]
    exact (congrArg List.length hdrop).trans hlen

/-- A JY61PL frame with a payload of zeros. -/
def ValidFrame.jy (crc32 : Bytes → UInt32) (flags sequence : Nat) (hflags : flags < 2 ^ 16)
    (hsequence : sequence < 2 ^ 32) : ValidFrame crc32 where
  bytes := encodeFrameV1 crc32 .jy61plSample flags sequence 0 1 (List.replicate 14 0)
  takes := takes_encodeFrameV1 hflags hsequence (by decide) (by decide) (by decide)
  emits := emits_encodeFrameV1 hflags hsequence (by decide) (by decide) (by decide)
    (.inr ⟨rfl, rfl, rfl⟩)

/-- A CLI frame. -/
def ValidFrame.cli (crc32 : Bytes → UInt32) (flags : Nat) (payload : Bytes) (hflags : flags < 2 ^ 16)
    (hpayload : payload.length ≤ Sdf1.maxPayloadSize) : ValidFrame crc32 where
  bytes := encodeFrameV1 crc32 .cliResponse flags 1 0 1 payload
  takes := takes_encodeFrameV1 hflags (by decide) (by decide) (by decide) hpayload
  emits := emits_encodeFrameV1 hflags (by decide) (by decide) (by decide) hpayload (.inl rfl)

end SensorHost.Protocol
