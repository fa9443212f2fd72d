import SensorHost.Lib.Crc32
import SensorHost.Protocol.Valid

/-!
# The round trip of the encoders

What the encoders of the virtual transport put on the wire (`SentFrame`), with garbage before,
between and behind the frames, comes out of the parser as it went in (`round_trip`): the garbage is
discarded or kept as a possible beginning of the magic, byte for byte, and nothing else is counted.

`SentFrame` carries the rules that the encoder keeps by itself, such as the length of a payload, so
that what cannot be encoded cannot be stated. `SentFrame.wired` is the one fact that the proofs use
of a frame: it is a header in range, a body and their checksum, and the decoder emits its fields.

The scan of a stream is put together from the scan of garbage, which drops byte after byte as long
as no magic begins (`scan_garbage`), and that of one frame. Behind the last frame what may begin a
magic is kept.
-/

namespace SensorHost.Protocol
open SensorHost.Lib

/-- `uuid.bytes`: sixteen bytes, most significant first. -/
def Uuid.bytes (uuid : Uuid) : Bytes := (leBytes 16 uuid.toNat).reverse

/-- A UUID has sixteen bytes. -/
lemma Uuid.length_bytes (uuid : Uuid) : (Uuid.bytes uuid).length = 16 := by
  unfold Uuid.bytes
  rw [List.length_reverse, length_leBytes]

/-- They are read back as the UUID. -/
lemma Uuid.ofBytes_bytes (uuid : Uuid) : Uuid.ofBytes (Uuid.bytes uuid) = uuid := by
  have hlt : uuid.toNat < 256 ^ 16 := uuid.isLt
  unfold Uuid.ofBytes Uuid.bytes
  rw [List.reverse_reverse, leNat_leBytes_of_lt hlt, BitVec.ofNat_toNat, BitVec.setWidth_eq]

/-- The header `_encode_data_frame` packs. -/
def headerV2 (messageType : MessageType) (flags sequence timestampUs itemCount payloadSize : Nat) :
    Header :=
  { magic := Sdf1.magic
    version := Sdf1.dataVersion
    messageType := messageType.value
    flags := flags
    headerSize := Sdf1.dataHeaderSize
    payloadSize := payloadSize
    sequence := sequence
    timestampUs := timestampUs
    itemCount := itemCount
    reserved := 0 }

/-- `_encode_data_frame`, for a device. -/
def encodeDataFrame (crc32 : Bytes → UInt32) (deviceUuid : Uuid) (messageType : MessageType)
    (payload : Bytes) (itemCount sequence timestampUs flags : Nat) : Bytes :=
  let header := (headerV2 messageType flags sequence timestampUs itemCount payload.length).pack
  let content := header ++ Uuid.bytes deviceUuid ++ payload
  content ++ leBytes Sdf1.crcSize (crc32 content).toNat

/-- The frame `_queue_cli` builds, with any flags, sequence and timestamp. -/
def encodeCli (crc32 : Bytes → UInt32) (payload : Bytes) (sequence timestampUs flags : Nat) :
    Bytes :=
  encodeFrameV1 crc32 .cliResponse flags sequence timestampUs 1 payload

/-- What is sent in a frame, with the rule for its payload. -/
inductive SentBody where
  | iis (deviceUuid : Uuid) (itemCount : Nat) (payload : Bytes)
      (words : payload.length = itemCount * iisWordSize)
      (fits : payload.length ≤ Sdf1.maxPayloadSize)
  | jy (deviceUuid : Uuid) (payload : Bytes) (size : payload.length = 14)
  | cli (payload : Bytes) (fits : payload.length ≤ Sdf1.maxPayloadSize)

/-- A frame that is sent. -/
structure SentFrame where
  flags : UInt16
  sequence : UInt32
  timestampUs : UInt64
  body : SentBody

namespace SentFrame

/-- The bytes of the frame. -/
def encode (crc32 : Bytes → UInt32) (f : SentFrame) : Bytes :=
  match f.body with
  | .iis deviceUuid itemCount payload _ _ =>
    encodeDataFrame crc32 deviceUuid .iis3dwbFifo payload itemCount f.sequence.toNat
      f.timestampUs.toNat f.flags.toNat
  | .jy deviceUuid payload _ =>
    encodeDataFrame crc32 deviceUuid .jy61plSample payload 1 f.sequence.toNat f.timestampUs.toNat
      f.flags.toNat
  | .cli payload _ =>
    encodeCli crc32 payload f.sequence.toNat f.timestampUs.toNat f.flags.toNat

/-- The fields of the frame. -/
def fields (crc32 : Bytes → UInt32) (f : SentFrame) : Frame :=
  let frame (messageType : MessageType) (itemCount : Nat) (payload : Bytes)
      (deviceUuid : Option Uuid) : Frame :=
    { messageType := messageType
      flags := f.flags.toNat
      sequence := f.sequence.toNat
      timestampUs := f.timestampUs.toNat
      itemCount := itemCount
      payload := payload
      rawBytes := f.encode crc32
      deviceUuid := deviceUuid }
  match f.body with
  | .iis deviceUuid itemCount payload _ _ => frame .iis3dwbFifo itemCount payload (some deviceUuid)
  | .jy deviceUuid payload _ => frame .jy61plSample 1 payload (some deviceUuid)
  | .cli payload _ => frame .cliResponse 1 payload none

end SentFrame

/-- The frame without what its payload is decoded to. -/
def Frame.fields (frame : Frame) : Frame :=
  { frame with
    iisTsUs := none
    iisAccelG := none
    iisRaw := none
    jy61pl := none
    status := none
    cliText := none }

variable {crc32 : Bytes → UInt32}

/-- Decoding the payload leaves the other fields. -/
lemma Decoder.decodeFrame_fields {d d' : Decoder} {common frame : Frame}
    (h : d.decodeFrame common = (d', some frame)) : frame.fields = common.fields := by
  unfold decodeFrame payloadError at h
  cases hm : common.messageType with
  | iis3dwbFifo =>
    simp only [hm] at h
    split at h
    · cases h
    · split at h
      · cases h
        rfl
      · cases h
        unfold Frame.fields
        rw [hm]
  | jy61plSample =>
    simp only [hm] at h
    split at h
    · cases h
    · cases h
      unfold Frame.fields
      rw [hm]
  | status =>
    simp only [hm] at h
    split at h
    · cases h
    · cases h
      unfold Frame.fields
      rw [hm]
  | cliResponse =>
    simp only [hm] at h
    cases h
    unfold Frame.fields
    rw [hm]

section DataFrame

variable {messageType : MessageType} {flags sequence timestampUs itemCount : Nat} {payload : Bytes}
  {deviceUuid : Uuid}

/-- The fields of a data header are in range. -/
lemma fits_headerV2 (hflags : flags < 2 ^ 16) (hsequence : sequence < 2 ^ 32)
    (htime : timestampUs < 2 ^ 64) (hitems : itemCount < 2 ^ 16)
    (hpayload : payload.length ≤ Sdf1.maxPayloadSize) :
    (headerV2 messageType flags sequence timestampUs itemCount payload.length).Fits where
  magic := rfl
  version := by simp [headerV2]
  messageType := by cases messageType <;> simp [headerV2, MessageType.value]
  flags := hflags
  headerSize := by simp [headerV2]
  payloadSize := by
    simp only [Sdf1.maxPayloadSize] at hpayload
    simp only [headerV2]
    omega
  sequence := hsequence
  timestampUs := htime
  itemCount := hitems
  reserved := by simp [headerV2]

/-- A data frame is its header, its content and the checksum. -/
lemma encodeDataFrame_eq : encodeDataFrame crc32 deviceUuid messageType payload itemCount sequence
    timestampUs flags = wire crc32 (headerV2 messageType flags sequence timestampUs itemCount
      payload.length) (Uuid.bytes deviceUuid ++ payload) := by
  unfold encodeDataFrame wire
  dsimp only
  rw [List.append_assoc (headerV2 messageType flags sequence timestampUs itemCount
    payload.length).pack]

/-- A data header has no fault. -/
lemma headerV2_fault (hpayload : payload.length ≤ Sdf1.maxPayloadSize) :
    (headerV2 messageType flags sequence timestampUs itemCount payload.length).fault = none :=
  headerRules_iff.mp ⟨⟨by simp [headerV2], by simp [headerV2]⟩,
    fun hv => absurd hv (by simp [headerV2]), fun _ => rfl, hpayload⟩

/-- It tells the size of the frame. -/
lemma headerV2_size :
    (headerV2 messageType flags sequence timestampUs itemCount payload.length).frameSize =
      Sdf1.headerSize + (Uuid.bytes deviceUuid ++ payload).length + Sdf1.crcSize := by
  rw [List.length_append, Uuid.length_bytes, ← Nat.add_assoc]
  rfl

/-- What the parser reads of a data frame. -/
lemma commonFields_wire (hflags : flags < 2 ^ 16) (hsequence : sequence < 2 ^ 32)
    (htime : timestampUs < 2 ^ 64) (hitems : itemCount < 2 ^ 16)
    (hpayload : payload.length ≤ Sdf1.maxPayloadSize) :
    let h := headerV2 messageType flags sequence timestampUs itemCount payload.length
    let bytes := wire crc32 h (Uuid.bytes deviceUuid ++ payload)
    Decoder.commonFields messageType h bytes =
      { messageType := messageType
        flags := flags
        sequence := sequence
        timestampUs := timestampUs
        itemCount := itemCount
        payload := payload
        rawBytes := bytes
        deviceUuid := some deviceUuid } := by
  intro h bytes
  have fits : h.Fits := fits_headerV2 hflags hsequence htime hitems hpayload
  have hpack : (h.pack ++ Uuid.bytes deviceUuid).length = Sdf1.dataHeaderSize := by
    rw [List.length_append, Header.length_pack fits.magic, Uuid.length_bytes]
    rfl
  have hversion : h.version = Sdf1.dataVersion := rfl
  have hread : (Decoder.commonFields messageType h bytes).payload = payload := by
    rw [payload_wire fits, ← List.append_assoc]
    exact List.drop_left' hpack
  -- the UUID fills what the second version adds to the header
  have huuid : (bytes.take Sdf1.dataHeaderSize).drop Sdf1.headerSize = Uuid.bytes deviceUuid := by
    have hbytes : bytes = h.pack ++ Uuid.bytes deviceUuid ++ (payload ++ leBytes Sdf1.crcSize
        (crc32 (h.pack ++ (Uuid.bytes deviceUuid ++ payload))).toNat) := by
      unfold bytes wire
      simp only [List.append_assoc]
    rw [hbytes, List.take_left' hpack, List.drop_left' (Header.length_pack fits.magic)]
  have hdevice : (Decoder.commonFields messageType h bytes).deviceUuid = some deviceUuid := by
    have hsome : (Decoder.commonFields messageType h bytes).deviceUuid =
        some (Uuid.ofBytes ((bytes.take Sdf1.dataHeaderSize).drop Sdf1.headerSize)) := by
      unfold Decoder.commonFields
      dsimp only
      rw [if_pos hversion]
    rw [hsome, huuid, Uuid.ofBytes_bytes]
  unfold Decoder.commonFields at hread hdevice ⊢
  dsimp only at hread hdevice
  rw [hread, hdevice]
  rfl

end DataFrame

/-- What makes the parser take a frame and emit its fields. -/
structure SentFrame.Wired (crc32 : Bytes → UInt32) (f : SentFrame) (h : Header) (body : Bytes)
    (messageType : MessageType) : Prop where
  encode : f.encode crc32 = wire crc32 h body
  fits : h.Fits
  magic : h.magic = Sdf1.magic
  fault : h.fault = none
  size : h.frameSize = Sdf1.headerSize + body.length + Sdf1.crcSize
  version : h.version = Sdf1.version ∨ h.version = Sdf1.dataVersion
  type : MessageType.ofValue h.messageType = some messageType
  sensor : messageType.isSensor = false → h.version ≠ Sdf1.dataVersion
  common : Decoder.commonFields messageType h (wire crc32 h body) = f.fields crc32
  decodes : ∀ d : Decoder, (d.decodeFrame (f.fields crc32)).2.isSome = true

namespace SentFrame

variable {f : SentFrame} {h : Header} {body : Bytes} {messageType : MessageType}

/-- What a frame says has no more fields than those. -/
lemma fields_fields (f : SentFrame) : (f.fields crc32).fields = f.fields crc32 := by
  obtain ⟨flags, sequence, timestampUs, body⟩ := f
  cases body with
  | iis deviceUuid itemCount payload words fits => rfl
  | jy deviceUuid payload size => rfl
  | cli payload fits => rfl

/-- Every frame that is sent is a header, a body and their checksum, with the rules of the format
kept. -/
lemma wired (crc32 : Bytes → UInt32) (f : SentFrame) :
    ∃ h body messageType, f.Wired crc32 h body messageType := by
  obtain ⟨flags, sequence, timestampUs, body⟩ := f
  have hflags : flags.toNat < 2 ^ 16 := flags.toNat_lt
  have hsequence : sequence.toNat < 2 ^ 32 := sequence.toNat_lt
  have htime : timestampUs.toNat < 2 ^ 64 := timestampUs.toNat_lt
  cases body with
  | iis deviceUuid itemCount payload words fits =>
    -- the payload holds the words, so their count fits its field
    have hitems : itemCount < 2 ^ 16 := by
      simp only [iisWordSize, Sdf1.maxPayloadSize] at words fits
      omega
    refine ⟨_, Uuid.bytes deviceUuid ++ payload, .iis3dwbFifo, {
      encode := encodeDataFrame_eq
      fits := fits_headerV2 hflags hsequence htime hitems fits
      magic := rfl
      fault := headerV2_fault fits
      size := headerV2_size
      version := .inr rfl
      type := rfl
      sensor := fun hs => nomatch hs
      common := (commonFields_wire hflags hsequence htime hitems fits).trans ?_
      decodes := ?_ }⟩
    · unfold SentFrame.fields SentFrame.encode
      dsimp only
      rw [encodeDataFrame_eq]
    · intro d
      unfold SentFrame.fields Decoder.decodeFrame
      dsimp only
      rw [if_neg (not_not.mpr words)]
      split
      · rfl
      · rfl
  | jy deviceUuid payload size =>
    have hpayload : payload.length ≤ Sdf1.maxPayloadSize := by
      rw [size]
      decide
    refine ⟨_, Uuid.bytes deviceUuid ++ payload, .jy61plSample, {
      encode := encodeDataFrame_eq
      fits := fits_headerV2 hflags hsequence htime (by decide) hpayload
      magic := rfl
      fault := headerV2_fault hpayload
      size := headerV2_size
      version := .inr rfl
      type := rfl
      sensor := fun hs => nomatch hs
      common := (commonFields_wire hflags hsequence htime (by decide) hpayload).trans ?_
      decodes := ?_ }⟩
    · unfold SentFrame.fields SentFrame.encode
      dsimp only
      rw [encodeDataFrame_eq]
    · intro d
      unfold SentFrame.fields Decoder.decodeFrame
      dsimp only
      rw [if_neg (by rw [size]; decide)]
      rfl
  | cli payload fits =>
    have hfits : (headerV1 .cliResponse flags.toNat sequence.toNat timestampUs.toNat 1
        payload.length).Fits := fits_headerV1 hflags hsequence htime (by decide) fits
    have hread : (Decoder.commonFields .cliResponse (headerV1 .cliResponse flags.toNat
        sequence.toNat timestampUs.toNat 1 payload.length) (wire crc32 _ payload)).payload =
          payload :=
      (payload_wire hfits .cliResponse).trans (List.drop_left' (Header.length_pack hfits.magic))
    refine ⟨_, payload, .cliResponse, {
      encode := rfl
      fits := hfits
      magic := rfl
      fault := headerRules_iff.mp
        ⟨⟨le_rfl, by simp [headerV1]⟩, fun _ => rfl, fun hv => absurd hv (by simp [headerV1]), fits⟩
      size := rfl
      version := .inl rfl
      type := rfl
      sensor := fun _ hv => absurd hv (by simp [headerV1])
      common := ?_
      decodes := fun _ => rfl }⟩
    unfold Decoder.commonFields at hread ⊢
    dsimp only at hread
    rw [hread]
    rfl

/-- The parser takes the frame whole, and emits its fields. -/
lemma event (crc32 : Bytes → UInt32) (f : SentFrame) (d : Decoder) :
    Takes crc32 (f.encode crc32) (f.encode crc32).length .candidate ∧
      ∃ (d' : Decoder) (messageType : MessageType) (sequence : Nat) (frame : Frame),
        d.event (f.encode crc32) .candidate = (d'.countFrame messageType sequence, [frame]) ∧
          d'.stats = d.stats ∧ frame.fields = f.fields crc32 := by
  obtain ⟨h, body, messageType, wired⟩ := f.wired crc32
  rw [wired.encode]
  refine ⟨takes_wire wired.fits wired.magic wired.fault wired.size, ?_⟩
  have hdecode := wired.decodes d
  have hsome : (d.accept h (wire crc32 h body)).2.isSome = true := by
    unfold Decoder.accept
    rw [if_neg (by
        intro hne
        exact wired.version.elim hne.1 hne.2), wired.type]
    dsimp only
    rw [if_neg (by
        intro hcontrol
        have hs := wired.sensor (by simpa using hcontrol.2)
        exact hs hcontrol.1), wired.common]
    revert hdecode
    cases d.decodeFrame (f.fields crc32) with
    | mk d' frame =>
      cases frame with
      | none => exact fun h => nomatch h
      | some frame => exact fun _ => rfl
  obtain ⟨messageType', d', frame, htype, -, hframe, haccept⟩ := Decoder.accept_some hsome
  cases wired.type.symm.trans htype
  rw [wired.common] at hframe
  obtain ⟨-, -, -, -, hstats, -⟩ := Decoder.decodeFrame_some hframe
  refine ⟨d', messageType, h.sequence, frame, ?_, hstats, ?_⟩
  · unfold Decoder.event
    dsimp only
    rw [unpack_wire wired.fits, haccept]
    rfl
  · rw [Decoder.decodeFrame_fields hframe, f.fields_fields]

end SentFrame

/-- A candidate begins with the magic. -/
lemma Takes.magic {bs : Bytes} {n : Nat} (h : Takes crc32 bs n .candidate) :
    Sdf1.magic <+: bs := by
  cases h with
  | candidate _ hmagic _ _ _ _ => exact hmagic

/-- So does a frame that is sent. -/
lemma SentFrame.magic (crc32 : Bytes → UInt32) (f : SentFrame) : Sdf1.magic <+: f.encode crc32 :=
  (f.event crc32 {}).1.magic

/-- No magic begins in garbage that is followed by a magic. -/
lemma no_magic_append {garbage rest : Bytes} (hg : ¬ Sdf1.magic <:+: garbage) (hne : garbage ≠ [])
    (hrest : Sdf1.magic <+: rest) : ¬ Sdf1.magic <+: garbage ++ rest := by
  intro hp
  by_cases hlen : 4 ≤ garbage.length
  · exact hg ((magic_prefix_append hlen rest).mp hp).isInfix
  · -- a magic that begins in the last three bytes would be continued by a magic
    obtain ⟨t, rfl⟩ := hrest
    match garbage, hne, hlen with
    | [a], _, _ => simp [Sdf1.magic] at hp
    | [a, b], _, _ => simp [Sdf1.magic] at hp
    | [a, b, c], _, _ => simp [Sdf1.magic] at hp
    | a :: b :: c :: d :: g, _, hlen => simp at hlen

/-- The bytes of garbage, each a segment. -/
def garbageSegments (garbage : Bytes) : List (Bytes × Event) := garbage.map fun b => ([b], .garbage)

/-- Garbage is discarded, byte by byte. -/
lemma events_garbageSegments (garbage : Bytes) (d : Decoder) :
    d.events (garbageSegments garbage) = (d.discard garbage.length, []) := by
  induction garbage generalizing d with
  | nil => rfl
  | cons b garbage ih =>
    have hcons : garbageSegments (b :: garbage) = ([b], .garbage) :: garbageSegments garbage := rfl
    have hone : d.event [b] .garbage = (d.discard 1, []) := rfl
    have htwo : (d.discard 1).discard garbage.length = d.discard (b :: garbage).length := by
      rw [List.length_cons, Nat.add_comm]
      unfold Decoder.discard
      simp only [Nat.add_assoc]
    rw [hcons, Decoder.events, hone, ih, htwo]
    rfl

/-- A byte before which no magic stands is garbage. -/
lemma scan_garbage_cons {b : UInt8} {rest : Bytes} (hlen : 4 ≤ (b :: rest).length)
    (hmagic : ¬ Sdf1.magic <+: b :: rest) :
    (sdf1 crc32).scan (b :: rest) =
      (([b], .garbage) :: ((sdf1 crc32).scan rest).1, ((sdf1 crc32).scan rest).2) := by
  have htake : (sdf1 crc32).look (b :: rest) = .take 1 .garbage :=
    lookSdf1_take_iff.mpr (.garbage hlen hmagic)
  rw [Scanner.scan_take _ htake]
  rfl

/-- Garbage before a magic is passed over byte by byte. -/
lemma scan_garbage_append {garbage rest : Bytes} (hg : ¬ Sdf1.magic <:+: garbage)
    (hrest : Sdf1.magic <+: rest) :
    (sdf1 crc32).scan (garbage ++ rest) =
      (garbageSegments garbage ++ ((sdf1 crc32).scan rest).1, ((sdf1 crc32).scan rest).2) := by
  induction garbage with
  | nil => rfl
  | cons b garbage ih =>
    have hlen : 4 ≤ (b :: (garbage ++ rest)).length := by
      have := magic_length_le hrest
      simp only [List.length_cons, List.length_append]
      omega
    have hmagic : ¬ Sdf1.magic <+: b :: (garbage ++ rest) :=
      no_magic_append hg (List.cons_ne_nil b garbage) hrest
    have hg' : ¬ Sdf1.magic <:+: garbage :=
      fun hi => hg (hi.trans (List.suffix_cons b garbage).isInfix)
    rw [List.cons_append, scan_garbage_cons hlen hmagic, ih hg']
    rfl

/-- Garbage at the end is passed over but for the last bytes, which may begin a magic. -/
lemma scan_garbage (crc32 : Bytes → UInt32) {garbage : Bytes} (hg : ¬ Sdf1.magic <:+: garbage) :
    ∃ dropped kept, garbage = dropped ++ kept ∧
      (sdf1 crc32).scan garbage = (garbageSegments dropped, kept) := by
  induction garbage with
  | nil => exact ⟨[], [], rfl, Scanner.scan_wait _ ((Waits.short (by simp)).look crc32)⟩
  | cons b garbage ih =>
    by_cases hlen : 4 ≤ (b :: garbage).length
    · have hg' : ¬ Sdf1.magic <:+: garbage :=
        fun hi => hg (hi.trans (List.suffix_cons b garbage).isInfix)
      obtain ⟨dropped, kept, rfl, hscan⟩ := ih hg'
      refine ⟨b :: dropped, kept, rfl, ?_⟩
      rw [scan_garbage_cons hlen fun hp => hg hp.isInfix, hscan]
      rfl
    · exact ⟨[], b :: garbage, rfl,
        Scanner.scan_wait _ ((Waits.short (not_le.mp hlen)).look crc32)⟩

/-- A stream of frames, each behind its garbage, with garbage at the end. -/
def stream (crc32 : Bytes → UInt32) (sent : List (Bytes × SentFrame)) (after : Bytes) : Bytes :=
  (sent.map fun s => s.1 ++ s.2.encode crc32).flatten ++ after

/-- The garbage in a stream. -/
def garbageLength (sent : List (Bytes × SentFrame)) (after : Bytes) : Nat :=
  (sent.map (·.1.length)).sum + after.length

/-- The decoder `d'` has counted no more errors than `d`, and `n` bytes as garbage. -/
structure OnlyDiscards (d d' : Decoder) (n : Nat) : Prop where
  discarded : d'.stats.bytesDiscarded = d.stats.bytesDiscarded + n
  crcErrors : d'.stats.crcErrors = d.stats.crcErrors
  headerErrors : d'.stats.headerErrors = d.stats.headerErrors
  lengthErrors : d'.stats.lengthErrors = d.stats.lengthErrors

/-- Discarding only discards. -/
lemma OnlyDiscards.discard (d : Decoder) (n : Nat) : OnlyDiscards d (d.discard n) n :=
  ⟨rfl, rfl, rfl, rfl⟩

/-- What is discarded one after the other adds up. -/
lemma OnlyDiscards.trans {d₁ d₂ d₃ : Decoder} {m n : Nat} (h : OnlyDiscards d₁ d₂ m)
    (h' : OnlyDiscards d₂ d₃ n) : OnlyDiscards d₁ d₃ (m + n) where
  discarded := by rw [h'.discarded, h.discarded, Nat.add_assoc]
  crcErrors := h'.crcErrors.trans h.crcErrors
  headerErrors := h'.headerErrors.trans h.headerErrors
  lengthErrors := h'.lengthErrors.trans h.lengthErrors

/-- A frame that is emitted counts no error. -/
lemma OnlyDiscards.countFrame {d d' : Decoder} (h : d'.stats = d.stats) (messageType : MessageType)
    (sequence : Nat) : OnlyDiscards d (d'.countFrame messageType sequence) 0 := by
  unfold Decoder.countFrame Decoder.recordSequence
  split <;> constructor <;> simp [h]

/-- Scanning a frame at the head of a view. -/
lemma SentFrame.scan_append (f : SentFrame) (rest : Bytes) :
    (sdf1 crc32).scan (f.encode crc32 ++ rest) =
      ((f.encode crc32, .candidate) :: ((sdf1 crc32).scan rest).1,
        ((sdf1 crc32).scan rest).2) := by
  have htake : (sdf1 crc32).look (f.encode crc32 ++ rest) =
      .take (f.encode crc32).length .candidate :=
    lookSdf1_take_iff.mpr ((f.event crc32 {}).1.append rest)
  rw [Scanner.scan_take _ htake, List.take_left, List.drop_left]

/-- The segments of a stream, and what the decoder makes of them: one step for each frame. -/
lemma stream_spec (crc32 : Bytes → UInt32) (sent : List (Bytes × SentFrame)) {after : Bytes}
    (hsent : ∀ s ∈ sent, ¬ Sdf1.magic <:+: s.1) (hafter : ¬ Sdf1.magic <:+: after) (d : Decoder) :
    let scan := (sdf1 crc32).scan (stream crc32 sent after)
    ∃ n, OnlyDiscards d (d.events scan.1).1 n ∧
      (d.events scan.1).2.map Frame.fields = sent.map (fun s => s.2.fields crc32) ∧
      n + scan.2.length = garbageLength sent after := by
  intro scan
  induction sent generalizing d with
  | nil =>
    obtain ⟨dropped, kept, rfl, hscan⟩ := scan_garbage crc32 hafter
    have hscan' : scan = (garbageSegments dropped, kept) := hscan
    rw [hscan', events_garbageSegments]
    refine ⟨dropped.length, OnlyDiscards.discard d _, rfl, ?_⟩
    simp [garbageLength]
  | cons s sent ih =>
    obtain ⟨garbage, f⟩ := s
    have hg : ¬ Sdf1.magic <:+: garbage := hsent (garbage, f) List.mem_cons_self
    have hstream : stream crc32 ((garbage, f) :: sent) after =
        garbage ++ (f.encode crc32 ++ stream crc32 sent after) := by
      simp [stream]
    -- the garbage is discarded up to the magic, and the frame is taken whole
    have hscan : scan = (garbageSegments garbage ++ (f.encode crc32, .candidate) ::
        ((sdf1 crc32).scan (stream crc32 sent after)).1,
          ((sdf1 crc32).scan (stream crc32 sent after)).2) := by
      unfold scan
      rw [hstream, scan_garbage_append hg ((f.magic crc32).trans (List.prefix_append ..)),
        f.scan_append]
    obtain ⟨-, d', messageType, sequence, frame, hevent, hstats, hfields⟩ :=
      f.event crc32 (d.discard garbage.length)
    obtain ⟨n, honly, hframes, hlength⟩ := ih (fun s hs => hsent s (List.mem_cons_of_mem _ hs))
      (d'.countFrame messageType sequence)
    rw [hscan, Decoder.events_append, events_garbageSegments]
    simp only [Decoder.events, hevent, List.nil_append, List.singleton_append, List.map_cons]
    refine ⟨garbage.length + (0 + n), ?_, ?_, ?_⟩
    · exact (OnlyDiscards.discard d _).trans ((OnlyDiscards.countFrame hstats _ _).trans honly)
    · rw [hfields, hframes]
    · simp only [garbageLength, List.map_cons, List.sum_cons] at hlength ⊢
      omega

/-- Frames that are sent with garbage between them, before and behind come out as they were, in
order, however the stream is cut; no CRC, header or length error is counted, and all the garbage is
discarded or retained. -/
theorem round_trip (crc32 : Bytes → UInt32) (decodeSensorPayload : Bool)
    (sent : List (Bytes × SentFrame)) (after : Bytes)
    (hsent : ∀ s ∈ sent, ¬ Sdf1.magic <:+: s.1) (hafter : ¬ Sdf1.magic <:+: after)
    (chunks : List Bytes) (hchunks : chunks.flatten = stream crc32 sent after) :
    let (parser, frames) :=
      StreamParser.feedAll crc32 { decodeSensorPayload := decodeSensorPayload } chunks
    frames.map Frame.fields = sent.map (fun s => s.2.fields crc32) ∧
      parser.stats.crcErrors = 0 ∧ parser.stats.headerErrors = 0 ∧
      parser.stats.lengthErrors = 0 ∧
      parser.stats.bytesDiscarded + parser.buffer.length = garbageLength sent after := by
  obtain ⟨n, honly, hframes, hlength⟩ := stream_spec crc32 sent hsent hafter
    { decodeSensorPayload := decodeSensorPayload }
  rw [feedAll_eq_feed, StreamParser.feed_eq, hchunks, List.nil_append]
  refine ⟨hframes, honly.crcErrors, honly.headerErrors, honly.lengthErrors, ?_⟩
  rw [honly.discarded]
  simpa using hlength

/-- A reply with no flags. -/
def cliReply (sequence : UInt32) (text : Bytes) (fits : text.length ≤ Sdf1.maxPayloadSize) :
    SentFrame :=
  { flags := 0, sequence := sequence, timestampUs := 1700000000000000, body := .cli text fits }

/-- A reply behind `SD`, a JY frame behind nothing, and `SDF` at the end, in two chunks. -/
theorem round_trip_two :
    let reply := cliReply 7 [0x4F, 0x4B, 0x0D, 0x0A] (by decide)
    let sample : SentFrame :=
      { flags := 0x8000, sequence := 0xFFFFFFFF, timestampUs := 5,
        body := .jy (0x550e8400e29b41d4a716446655440000 : BitVec 128) (List.replicate 14 0x53) rfl }
    let sent := [([0x53, 0x44], reply), ([], sample)]
    let bytes := stream zlibCrc32 sent [0x53, 0x44, 0x46]
    let (parser, frames) :=
      StreamParser.feedAll zlibCrc32 { decodeSensorPayload := true } [bytes.take 40, bytes.drop 40]
    frames.map Frame.fields = [reply.fields zlibCrc32, sample.fields zlibCrc32] ∧
      parser.stats.crcErrors = 0 ∧ parser.stats.headerErrors = 0 ∧
      parser.stats.lengthErrors = 0 ∧ parser.stats.bytesDiscarded + parser.buffer.length = 5 := by
  intro reply sample sent bytes
  refine round_trip zlibCrc32 true sent [0x53, 0x44, 0x46] ?_ ?_ [bytes.take 40, bytes.drop 40] ?_
  · intro s hs
    rcases List.mem_pair.mp hs with rfl | rfl
    · decide
    · decide
  · decide
  · simp [bytes]

end SensorHost.Protocol
