import SensorHost.Lib.Crc32
import SensorHost.Protocol.Valid
import SensorHost.Protocol.Walker
import SensorHost.Storage.ArchiveLibrary

/-!
# The index and the parser

`build_playback_index` is a second reader of the format. On a file of valid frames it lists what the
parser emits: one pass of its loop on a valid frame notes the frame the decoder emits for it
(`indexLoop_frame`), and so the scan of the file notes all of them (`indexLoop_frames`).

The two readers share the header only: the index does not decode and the parser does not seek.
`read_frame` gives the bytes that the scan reads at a frame, `accelerationWords_eq` says that it
counts in the payload what the decoder emits as samples, and `noteAll` is what the scan is to be
behind some frames. A file that ends behind its last frame ends the loop (`indexLoop_end`).
-/

namespace SensorHost.Protocol
open SensorHost.Lib

/-- The number of acceleration samples decoded from a frame. -/
def Frame.accelerationSamples (f : Frame) : Nat := (f.iisAccelG.getD []).length

/-- The decoded samples are the words with tag 2. -/
lemma length_processPayload (r : IisTimestampReconstructor) (payload : Bytes) (timestampUs : Nat) :
    (r.processPayload payload timestampUs).2.2.1.length =
      (iisWords payload).countP (fun w => w.tag >>> 3 == 2) := by
  have hcount := length_flatnonzero (· == 2) ((iisWords payload).map fun w => w.tag >>> 3)
  rw [List.countP_map] at hcount
  rw [show (fun w : IisWord => w.tag >>> 3 == 2) =
    (fun x => x == 2) ∘ fun w : IisWord => w.tag >>> 3 from rfl, ← hcount]
  unfold IisTimestampReconstructor.processPayload
  dsimp only
  split
  · rename_i hzero
    exact hzero.symm
  · split <;> simp only [List.length_map]

/-- What indexing needs to know of a decoded frame. -/
lemma Decoder.decodeFrame_samples {d d' : Decoder} {common frame : Frame}
    (hdecodes : d.decodeSensorPayload = true) (hfresh : common.iisAccelG = none)
    (h : d.decodeFrame common = (d', some frame)) :
    frame.timestampUs = common.timestampUs ∧ d'.decodeSensorPayload = true ∧
      (common.messageType = .iis3dwbFifo → common.payload.length % iisWordSize = 0 ∧
        frame.accelerationSamples =
          (iisWords common.payload).countP fun w => w.tag >>> 3 == 2) ∧
      (common.messageType ≠ .iis3dwbFifo → frame.accelerationSamples = 0) := by
  unfold decodeFrame payloadError at h
  cases hm : common.messageType with
  | iis3dwbFifo =>
    simp only [hm, hdecodes] at h
    split at h
    · cases h
    · rename_i hlength
      cases h
      refine ⟨rfl, rfl, fun _ => ⟨?_, ?_⟩, fun hne => absurd rfl hne⟩
      · rw [not_not.mp hlength]
        exact Nat.mul_mod_left _ _
      · exact length_processPayload d.iisTime common.payload common.timestampUs
  | jy61plSample =>
    simp only [hm] at h
    split at h
    · cases h
    · cases h
      exact ⟨rfl, hdecodes, nofun, fun _ => by simp [Frame.accelerationSamples, hfresh]⟩
  | status =>
    simp only [hm] at h
    split at h
    · cases h
    · cases h
      exact ⟨rfl, hdecodes, nofun, fun _ => by simp [Frame.accelerationSamples, hfresh]⟩
  | cliResponse =>
    simp only [hm] at h
    cases h
    exact ⟨rfl, hdecodes, nofun, fun _ => by simp [Frame.accelerationSamples, hfresh]⟩

namespace ValidFrame

variable {crc32 : Bytes → UInt32} (f : ValidFrame crc32)

/-- The payload of the frame. -/
def payload : Bytes := (f.bytes.take (f.bytes.length - Sdf1.crcSize)).drop f.header.headerSize

/-- What the parser has checked about the header of the frame. -/
lemma header_checked :
    f.bytes.length = f.header.frameSize ∧ f.bytes.take 4 = Sdf1.magic ∧
      (f.header.version = Sdf1.version ∨ f.header.version = Sdf1.dataVersion) ∧
      f.header.headerSize =
        (if f.header.version = Sdf1.dataVersion then Sdf1.dataHeaderSize else Sdf1.headerSize) ∧
      f.header.payloadSize ≤ Sdf1.maxPayloadSize := by
  have hversion : f.header.version = Sdf1.version ∨ f.header.version = Sdf1.dataVersion := by
    -- the parser gives no frame of another version
    have hemits : (Decoder.accept {} f.header f.bytes).2.isSome = true := f.emits
    by_contra hnot
    have hnot : f.header.version ≠ Sdf1.version ∧ f.header.version ≠ Sdf1.dataVersion :=
      not_or.mp hnot
    rw [Decoder.accept, if_pos hnot] at hemits
    cases hemits
  have htakes := f.takes
  generalize hn : f.bytes.length = n at htakes
  cases htakes with
  | candidate hsize hmagic hgood hheader hlen hcrc =>
    have hgood : f.header.fault = none := hgood
    unfold Header.fault at hgood
    split at hgood
    · cases hgood
    · split at hgood
      · cases hgood
      · rename_i hv1
        split at hgood
        · cases hgood
        · rename_i hv2
          split at hgood
          · cases hgood
          · rename_i hpayload
            refine ⟨hsize, (List.prefix_iff_eq_take.mp hmagic).symm, hversion, ?_,
              not_lt.mp hpayload⟩
            split
            · rename_i h2
              exact not_not.mp fun hne => hv2 ⟨h2, hne⟩
            · rename_i h2
              exact not_not.mp fun hne => hv1 ⟨hversion.resolve_right h2, hne⟩

/-- The decoder behind the frame, and what indexing needs to know of the frame it emits. -/
lemma event_samples {d : Decoder} (hdecodes : d.decodeSensorPayload = true) :
    ∃ (messageType : MessageType) (d' : Decoder) (frame : Frame),
      MessageType.ofValue f.header.messageType = some messageType ∧
      d.event f.bytes .candidate = (d', [frame]) ∧ d'.decodeSensorPayload = true ∧
      frame.messageType = messageType ∧ frame.timestampUs = f.header.timestampUs ∧
      (messageType = .iis3dwbFifo → f.payload.length % iisWordSize = 0 ∧
        frame.accelerationSamples = (iisWords f.payload).countP fun w => w.tag >>> 3 == 2) ∧
      (messageType ≠ .iis3dwbFifo → frame.accelerationSamples = 0) := by
  have hsome : (d.accept f.header f.bytes).2.isSome := by
    rw [d.accept_isSome {} f.header f.bytes]
    exact f.emits
  obtain ⟨messageType, d', frame, htype, -, hdecode, haccept⟩ := Decoder.accept_some hsome
  obtain ⟨-, -, hm, -, -, -⟩ := Decoder.decodeFrame_some hdecode
  obtain ⟨htime, hdecodes', hiis, hother⟩ := Decoder.decodeFrame_samples hdecodes rfl hdecode
  refine ⟨messageType, d'.countFrame messageType f.header.sequence, frame, htype, ?_, ?_, hm, htime,
    hiis, hother⟩
  · simp only [Decoder.event]
    rw [show Header.unpack f.bytes = f.header from rfl, haccept]
    rfl
  · unfold Decoder.countFrame
    dsimp only
    split
    · exact hdecodes'
    · exact hdecodes'

end ValidFrame

end SensorHost.Protocol

namespace SensorHost.Storage
open SensorHost.Lib SensorHost.Protocol

/-- In a payload of whole words, every seventh byte is the tag of a word. -/
lemma accelerationWords_eq {payload : Bytes} (h : payload.length % iisWordSize = 0) :
    accelerationWords payload = (iisWords payload).countP fun w => w.tag >>> 3 == 2 := by
  simp only [iisWordSize] at h
  have hcount : (payload.length + (iisWordSize - 1)) / iisWordSize =
      payload.length / iisWordSize := by
    simp only [iisWordSize]
    omega
  rw [accelerationWords, hcount, iisWords, List.countP_map]
  congr 1
  funext i
  have htag : leField ((payload.drop (i * iisWordSize)).take iisWordSize) 0 1 =
      leField payload (i * iisWordSize) 1 := by
    rw [leField, leField, List.drop_zero, List.take_take]
    rfl
  simp only [Function.comp_apply, IisWord.ofBytes, htag]

namespace IndexScan

variable (R : Rounding)

/-- The entry of an emitted frame that starts at `offset`. -/
def note (s : IndexScan) (offset : Nat) (frame : Frame) : IndexScan :=
  let total := s.totalSamples + frame.accelerationSamples
  let isIis := frame.messageType == .iis3dwbFifo
  { offsets := s.offsets ++ [offset]
    timestamps := s.timestamps ++ [R.round frame.timestampUs]
    cumSamples := s.cumSamples ++ [total]
    kinds := s.kinds ++ [frameKind frame.messageType.value]
    totalSamples := total
    firstIisUs :=
      if isIis && s.firstIisUs.isNone then some (R.round frame.timestampUs) else s.firstIisUs
    lastIisUs := if isIis then some (R.round frame.timestampUs) else s.lastIisUs }

end IndexScan

variable (R : Rounding) {crc32 : Bytes → UInt32}

/-- A value that is read as a type is the value of that type. -/
lemma messageType_value {v : Nat} {t : MessageType} (h : MessageType.ofValue v = some t) :
    v = t.value := by
  unfold MessageType.ofValue at h
  split at h
  · cases h
    rfl
  · cases h
    rfl
  · cases h
    rfl
  · cases h
    rfl
  · cases h

/-- What the loop reads at a valid frame. -/
lemma read_frame {content pre rest : Bytes} {f : ValidFrame crc32}
    (hcontent : content = pre ++ (f.bytes ++ rest)) :
    let header := (content.drop pre.length).take Sdf1.dataHeaderSize
    Sdf1.headerSize ≤ header.length ∧ header.take 4 = Sdf1.magic ∧ Header.unpack header = f.header ∧
      (content.drop (pre.length + f.header.headerSize)).take f.header.payloadSize = f.payload ∧
      f.payload.length = f.header.payloadSize := by
  intro header
  obtain ⟨hlength, hmagic, -, hheader, -⟩ := f.header_checked
  rw [Header.frameSize, Sdf1.crcSize] at hlength
  have hge : Sdf1.headerSize ≤ f.header.headerSize := by
    rw [hheader]
    split <;> decide
  have hlong : Sdf1.headerSize + 4 ≤ f.bytes.length := by
    rw [hlength]
    omega
  -- the scan stands at the frame
  have hrest : content.drop pre.length = f.bytes ++ rest := by
    rw [hcontent]
    exact List.drop_left
  have hwide : Sdf1.headerSize ≤ (f.bytes ++ rest).length := by
    rw [List.length_append]
    omega
  refine ⟨?_, ?_, ?_, ?_, ?_⟩
  · rw [show header = (f.bytes ++ rest).take Sdf1.dataHeaderSize by rw [← hrest],
      List.length_take]
    exact le_min (by decide) hwide
  · rw [show header = (f.bytes ++ rest).take Sdf1.dataHeaderSize by rw [← hrest],
      List.take_take, List.take_append_of_le_length (by simp only [Sdf1.headerSize] at hlong; omega)]
    exact hmagic
  · rw [show header = (f.bytes ++ rest).take Sdf1.dataHeaderSize by rw [← hrest],
      Header.unpack_take (by decide) hwide, Header.unpack_append (by omega)]
    rfl
  · rw [← List.drop_drop, hrest, List.drop_append_of_le_length (by omega),
      List.take_append_of_le_length (by rw [List.length_drop]; omega), ValidFrame.payload,
      List.drop_take]
    congr 1
    rw [hlength, Sdf1.crcSize]
    omega
  · rw [ValidFrame.payload, List.length_drop, List.length_take, hlength, Sdf1.crcSize]
    omega

/-- One pass of the loop on a valid frame notes the frame that the decoder emits. -/
lemma indexLoop_frame {content pre rest : Bytes} {f : ValidFrame crc32}
    (hcontent : content = pre ++ (f.bytes ++ rest)) {d d' : Decoder} {frame : Frame}
    (hdecodes : d.decodeSensorPayload = true)
    (hevent : d.event f.bytes .candidate = (d', [frame])) (fuel : Nat) (s : IndexScan) :
    indexLoop R content (fuel + 1) pre.length s =
      indexLoop R content fuel (pre ++ f.bytes).length (s.note R pre.length frame) := by
  obtain ⟨hlong, hmagic, hunpack, hpayload, hpayloadLength⟩ := read_frame hcontent
  obtain ⟨hlength, -, hversion, hheader, hsize⟩ := f.header_checked
  obtain ⟨messageType, d'', frame', htype, hevent', -, hm, htime, hiis, hother⟩ :=
    f.event_samples hdecodes
  rw [hevent] at hevent'
  cases hevent'
  have hvalue := messageType_value htype
  have hne : (content.drop pre.length).take Sdf1.dataHeaderSize ≠ [] := by
    intro hnil
    rw [hnil] at hlong
    exact absurd hlong (by decide)
  have hnext : pre.length + f.header.frameSize = (pre ++ f.bytes).length := by
    rw [List.length_append, hlength]
  rw [indexLoop]
  dsimp only
  -- every check of the scan lets a valid frame pass
  rw [if_neg hne, if_neg (not_or.mpr ⟨not_lt.mpr hlong, not_not.mpr hmagic⟩), hunpack,
    if_neg (fun h => not_lt.mpr hlong h.2), if_neg (fun h => hversion.elim h.1 h.2),
    if_neg (not_or.mpr ⟨not_not.mpr hheader, not_lt.mpr hsize⟩), hpayload,
    if_neg (not_not.mpr hpayloadLength), hnext]
  split
  · -- only of an IIS frame the samples are counted
    rename_i h1
    have hmt : messageType = .iis3dwbFifo := by
      rw [h1] at htype
      cases htype
      rfl
    obtain ⟨hwhole, hsamples⟩ := hiis hmt
    congr 1
    rw [IndexScan.append, IndexScan.countSamples, IndexScan.note, htime, hm, hsamples,
      accelerationWords_eq hwhole, hvalue, hmt]
    rfl
  · rename_i h1
    have hmt : messageType ≠ .iis3dwbFifo := by
      rintro rfl
      exact h1 hvalue
    congr 1
    rw [IndexScan.append, IndexScan.note, htime, hm, hother hmt, hvalue]
    cases messageType with
    | iis3dwbFifo => exact absurd rfl hmt
    | jy61plSample => rfl
    | status => rfl
    | cliResponse => rfl

/-- The entries of a sequence of emitted frames, the first of which starts at `offset`. -/
def IndexScan.noteAll (offset : Nat) (s : IndexScan) : List Frame → IndexScan
  | [] => s
  | frame :: frames =>
    IndexScan.noteAll (offset + frame.rawBytes.length) (s.note R offset frame) frames

/-- The decoder over a valid frame and the frames behind it. -/
lemma frames_cons {d d' : Decoder} {f : ValidFrame crc32} {frame : Frame}
    (hevent : d.event f.bytes .candidate = (d', [frame])) (frames : List (ValidFrame crc32)) :
    (d.frames (f :: frames)).2 = frame :: (d'.frames frames).2 := by
  simp only [Decoder.frames, List.map_cons, ValidFrame.segment, Decoder.events, hevent,
    List.singleton_append]

/-- The loop over the valid frames of a file notes what the decoder emits, and goes on behind them. -/
lemma indexLoop_through {content rest : Bytes} (frames : List (ValidFrame crc32)) {pre : Bytes}
    (hcontent : content = pre ++ (bytesOf frames ++ rest)) {d : Decoder}
    (hdecodes : d.decodeSensorPayload = true) (fuel : Nat) (s : IndexScan) :
    indexLoop R content (frames.length + fuel) pre.length s =
      indexLoop R content fuel (pre ++ bytesOf frames).length
        (s.noteAll R pre.length (d.frames frames).2) := by
  induction frames generalizing pre d s with
  | nil =>
    rw [List.length_nil, Nat.zero_add, bytesOf, List.map_nil, List.flatten_nil, List.append_nil]
    rfl
  | cons f frames ih =>
    obtain ⟨messageType, d', frame, -, hevent, hdecodes', -, -, -, -⟩ := f.event_samples hdecodes
    have hraw := Decoder.frames_rawBytes d [f]
    rw [frames_cons hevent] at hraw
    have hbytes : frame.rawBytes = f.bytes := (List.cons.inj hraw).1
    have hcons : bytesOf (f :: frames) = f.bytes ++ bytesOf frames := by
      rw [bytesOf, bytesOf, List.map_cons, List.flatten_cons]
    have hsplit : content = pre ++ (f.bytes ++ (bytesOf frames ++ rest)) := by
      rw [hcontent, hcons, List.append_assoc]
    have hfuel : (f :: frames).length + fuel = frames.length + fuel + 1 := by
      rw [List.length_cons]
      omega
    rw [hfuel, indexLoop_frame R hsplit hdecodes hevent, frames_cons hevent, IndexScan.noteAll,
      hbytes, hcons, ← List.append_assoc, ← List.length_append]
    exact ih (by rw [hsplit, List.append_assoc]) hdecodes' _

/-- The loop stops at the end of the file. -/
lemma indexLoop_end {content : Bytes} {offset : Nat} (h : content.length ≤ offset) (fuel : Nat)
    (s : IndexScan) : indexLoop R content fuel offset s = s := by
  cases fuel with
  | zero => rfl
  | succ fuel =>
    rw [indexLoop]
    dsimp only
    rw [List.drop_eq_nil_of_le h, if_pos List.take_nil]

/-- The loop over a file of valid frames notes what the decoder emits. -/
lemma indexLoop_frames {content : Bytes} (frames : List (ValidFrame crc32)) {pre : Bytes}
    (hcontent : content = pre ++ bytesOf frames) {d : Decoder}
    (hdecodes : d.decodeSensorPayload = true) {fuel : Nat} (hfuel : frames.length < fuel)
    (s : IndexScan) :
    indexLoop R content fuel pre.length s = s.noteAll R pre.length (d.frames frames).2 := by
  obtain ⟨left, rfl⟩ := Nat.exists_eq_add_of_lt hfuel
  have hrest : content = pre ++ (bytesOf frames ++ []) := by
    rw [hcontent, List.append_nil]
  rw [Nat.add_assoc, indexLoop_through R frames hrest hdecodes]
  exact indexLoop_end R (by rw [hcontent]) _ _

/-- The frames that the decoder emits for valid frames carry the timestamps of their headers. -/
lemma frames_timestampUs (frames : List (ValidFrame crc32)) {d : Decoder}
    (hdecodes : d.decodeSensorPayload = true) :
    (d.frames frames).2.map Frame.timestampUs = frames.map fun f => f.header.timestampUs := by
  induction frames generalizing d with
  | nil => rfl
  | cons f frames ih =>
    obtain ⟨messageType, d', frame, -, hevent, hdecodes', -, htime, -, -⟩ :=
      f.event_samples hdecodes
    rw [frames_cons hevent, List.map_cons, List.map_cons, htime, ih hdecodes']

/-- What the entries of a sequence of frames hold. -/
lemma noteAll_fields (frames : List Frame) (offset : Nat) (s : IndexScan) :
    (s.noteAll R offset frames).offsets = s.offsets ++ (List.range frames.length).map (fun k =>
        offset + ((frames.take k).map Frame.rawBytes).flatten.length) ∧
      (s.noteAll R offset frames).timestamps =
        s.timestamps ++ frames.map (fun f => R.round f.timestampUs) ∧
      (s.noteAll R offset frames).kinds =
        s.kinds ++ frames.map (fun f => frameKind f.messageType.value) ∧
      (s.noteAll R offset frames).cumSamples =
        s.cumSamples ++ (List.range frames.length).map (fun k =>
          s.totalSamples + ((frames.take (k + 1)).map Frame.accelerationSamples).sum) ∧
      (s.noteAll R offset frames).totalSamples =
        s.totalSamples + (frames.map Frame.accelerationSamples).sum := by
  induction frames generalizing offset s with
  | nil => simp [IndexScan.noteAll]
  | cons frame frames ih =>
    obtain ⟨hoffsets, htimestamps, hkinds, hcum, htotal⟩ :=
      ih (offset + frame.rawBytes.length) (s.note R offset frame)
    rw [IndexScan.noteAll, hoffsets, htimestamps, hkinds, hcum, htotal, List.length_cons,
      List.range_succ_eq_map]
    refine ⟨?_, ?_, ?_, ?_, ?_⟩
    · simp [IndexScan.note, Function.comp_def, Nat.add_assoc]
    · simp [IndexScan.note]
    · simp [IndexScan.note]
    · simp [IndexScan.note, Function.comp_def, Nat.add_assoc]
    · simp [IndexScan.note, Nat.add_assoc]

/-- The index that the locals of the loop make. -/
def IndexScan.index (s : IndexScan) : PlaybackIndex where
  offsets := s.offsets
  timestampsUs := s.timestamps
  cumSamples := s.cumSamples
  kinds := s.kinds
  totalSamples := s.totalSamples
  firstTimestampUs := s.firstIisUs.getD 0
  lastTimestampUs := s.lastIisUs.getD 0

/-- The index is what the loop makes of the whole file. -/
lemma buildPlaybackIndex_eq (content : Bytes) :
    buildPlaybackIndex R content =
      (indexLoop R content (content.length + 1) ([] : Bytes).length {}).index := rfl

/-- There are no more frames than bytes. -/
lemma length_le_bytesOf (frames : List (ValidFrame crc32)) :
    frames.length ≤ (bytesOf frames).length := by
  have hle := List.length_le_sum_of_one_le (frames.map fun f => f.bytes.length) (by
    intro n hn
    obtain ⟨f, -, rfl⟩ := List.mem_map.mp hn
    exact List.length_pos_of_ne_nil f.ne_nil)
  rw [List.length_map] at hle
  rw [bytesOf, List.length_flatten, List.map_map]
  exact hle

/-- The index of a file of valid frames is made of their entries. -/
lemma buildPlaybackIndex_noteAll (frames : List (ValidFrame crc32)) :
    buildPlaybackIndex R (bytesOf frames) =
      (IndexScan.noteAll R 0 {} (({} : Decoder).frames frames).2).index := by
  rw [buildPlaybackIndex_eq, indexLoop_frames R frames (List.nil_append _).symm (d := {}) rfl
    (Nat.lt_succ_of_le (length_le_bytesOf frames)) {}]
  rfl

/-- The index of a file of frames that the parser emits lists these frames: one entry for each, in
order, with its start, its timestamp, its kind and the acceleration samples decoded so far. -/
theorem buildPlaybackIndex_frames (R : Rounding) (frames : List (ValidFrame crc32))
    (small : ∀ f ∈ frames, f.header.timestampUs < 2 ^ 53) :
    let emitted := (StreamParser.feed crc32 {} (bytesOf frames)).2
    let index := buildPlaybackIndex R (bytesOf frames)
    emitted.map Frame.rawBytes = frames.map ValidFrame.bytes ∧
      index.offsets = (List.range emitted.length).map (fun k =>
        ((emitted.take k).map Frame.rawBytes).flatten.length) ∧
      index.timestampsUs = emitted.map (fun f => (f.timestampUs : ℚ)) ∧
      index.kinds = emitted.map (fun f =>
        match f.messageType with
        | .iis3dwbFifo => 1
        | .jy61plSample => 2
        | _ => 0) ∧
      index.cumSamples = (List.range emitted.length).map (fun k =>
        ((emitted.take (k + 1)).map Frame.accelerationSamples).sum) ∧
      index.totalSamples = (emitted.map Frame.accelerationSamples).sum := by
  intro emitted index
  have hfeed := StreamParser.feed_frames ({} : StreamParser) (bytesOf frames) [] frames
    (List.append_nil _).symm rfl
  have hemitted : emitted = (({} : Decoder).frames frames).2 := congrArg Prod.snd hfeed
  obtain ⟨hoffsets, htimestamps, hkinds, hcum, htotal⟩ := noteAll_fields R emitted 0 {}
  -- the scan is a fold over the frames that the parser emits
  have hindex : index = (IndexScan.noteAll R 0 {} emitted).index := by
    rw [hemitted]
    exact buildPlaybackIndex_noteAll R frames
  unfold IndexScan.index at hindex
  rw [hindex]
  refine ⟨?_, ?_, ?_, ?_, ?_, ?_⟩
  · rw [hemitted, Decoder.frames_rawBytes]
  · rw [hoffsets]
    simp
  · have htimes := frames_timestampUs frames (d := {}) rfl
    rw [← hemitted] at htimes
    rw [htimestamps, List.nil_append]
    apply List.map_congr_left
    intro frame hframe
    have hmem : frame.timestampUs ∈ emitted.map Frame.timestampUs := List.mem_map_of_mem hframe
    rw [htimes, List.mem_map] at hmem
    obtain ⟨f, hf, heq⟩ := hmem
    -- below 2 ^ 53 a timestamp is a float
    exact R.natCast _ (heq ▸ small f hf)
  · rw [hkinds, List.nil_append]
    apply List.map_congr_left
    intro frame hframe
    cases frame.messageType <;> rfl
  · rw [hcum]
    simp
  · rw [htotal]
    simp

/-- An IIS frame with one acceleration word. -/
def iisFrame (timestampUs : Nat) (h : timestampUs < 2 ^ 64) : ValidFrame zlibCrc32 where
  bytes := encodeFrameV1 zlibCrc32 .iis3dwbFifo 0 0 timestampUs 1 [0x10, 0, 0, 0, 0, 0, 0]
  takes := takes_encodeFrameV1 (by decide) (by decide) h (by decide) (by decide)
  emits := by
    rw [unpack_encodeFrameV1 (by decide) (by decide) h (by decide) (by decide)]
    rfl

/-- The index of an orientation frame and an IIS frame. -/
theorem buildPlaybackIndex_frames_two :
    let frames := [ValidFrame.jy zlibCrc32 0 1 (by decide) (by decide), iisFrame 1000 (by decide)]
    let index := buildPlaybackIndex .exact (bytesOf frames)
    index.offsets = [0, 46] ∧ index.timestampsUs = [0, 1000] ∧ index.kinds = [2, 1] ∧
      index.cumSamples = [0, 1] ∧ index.totalSamples = 1 := by
  intro frames index
  have hsmall : ∀ f ∈ frames, f.header.timestampUs < 2 ^ 53 := by
    intro f hf
    rcases List.mem_pair.mp hf with rfl | rfl
    · decide +kernel
    · decide +kernel
  obtain ⟨-, hoffsets, htimestamps, hkinds, hcum, htotal⟩ :=
    buildPlaybackIndex_frames .exact frames hsmall
  rw [StreamParser.feed_frames ({} : StreamParser) (bytesOf frames) [] frames
    (List.append_nil _).symm rfl] at hoffsets htimestamps hkinds hcum htotal
  refine ⟨hoffsets.trans ?_, htimestamps.trans ?_, hkinds.trans ?_, hcum.trans ?_, htotal.trans ?_⟩
  · decide +kernel
  · decide +kernel
  · decide +kernel
  · decide +kernel
  · decide +kernel

end SensorHost.Storage
