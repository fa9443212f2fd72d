import SensorHost.Protocol.Replay

/-!
# The devices of frames

Each frame that the parser emits is that of a valid frame, with the UUID that the bytes carry
(`StreamParser.feed_valid`). What the parser emits for a part of a recording are frames of the
recording (`feed_prefix`).

A frame that is emitted has the raw bytes of the candidate it was decoded from, and these bytes are
a valid frame: the decision whether a candidate is accepted does not depend on what came before.
`ValidFrame.event_reads` is the step, and the two theorems are its induction over the segments.
-/

namespace SensorHost.Protocol
open SensorHost.Lib

variable {crc32 : Bytes → UInt32}

/-- The UUID that a frame carries. -/
def ValidFrame.deviceUuid (f : ValidFrame crc32) : Option Uuid :=
  if f.header.version = Sdf1.dataVersion then
    some (Uuid.ofBytes ((f.bytes.take Sdf1.dataHeaderSize).drop Sdf1.headerSize))
  else none

/-- The frame carries no UUID, or the one that is known. -/
def ValidFrame.From (known : Option Uuid) (f : ValidFrame crc32) : Prop :=
  ∀ uuid, f.deviceUuid = some uuid → known = some uuid

/-- The frame has the bytes and the UUID of a valid frame. -/
structure Frame.Reads (frame : Frame) (f : ValidFrame crc32) : Prop where
  rawBytes : frame.rawBytes = f.bytes
  deviceUuid : frame.deviceUuid = f.deviceUuid

/-- A valid frame is emitted, by every decoder. -/
lemma ValidFrame.event_reads (f : ValidFrame crc32) (d : Decoder) :
    ∃ d' frame, d.event f.bytes .candidate = (d', [frame]) ∧ frame.Reads f := by
  have hsome : (d.accept f.header f.bytes).2.isSome := by
    rw [d.accept_isSome {} f.header f.bytes]
    exact f.emits
  obtain ⟨messageType, d', frame, -, -, hdecode, haccept⟩ := Decoder.accept_some hsome
  obtain ⟨hraw, -, -, huuid, -⟩ := Decoder.decodeFrame_some hdecode
  refine ⟨d'.countFrame messageType f.header.sequence, frame, ?_, hraw, huuid⟩
  simp only [Decoder.event]
  rw [show Header.unpack f.bytes = f.header from rfl, haccept]
  rfl

/-- What the decoder emits for valid frames are these frames. -/
lemma Decoder.frames_reads (d : Decoder) (frames : List (ValidFrame crc32)) :
    ∀ frame ∈ (d.frames frames).2, ∃ f ∈ frames, frame.Reads f := by
  induction frames generalizing d with
  | nil => exact nofun
  | cons f frames ih =>
    intro frame hframe
    obtain ⟨d', first, hevent, hreads⟩ := f.event_reads d
    simp only [Decoder.frames, List.map_cons, ValidFrame.segment, Decoder.events, hevent,
      List.singleton_append] at hframe
    cases List.mem_cons.mp hframe with
    | inl heq => exact ⟨f, List.mem_cons_self, heq ▸ hreads⟩
    | inr hlater =>
      obtain ⟨f', hf', hreads'⟩ := ih d' frame hlater
      exact ⟨f', List.mem_cons_of_mem f hf', hreads'⟩

/-- Each frame that a scan emits is that of a valid frame. -/
lemma Decoder.events_valid (d : Decoder) (segments : List (Bytes × Event))
    (htaken : ∀ segment ∈ segments, Taken crc32 segment) :
    ∀ frame ∈ (d.events segments).2, ∃ f : ValidFrame crc32, frame.Reads f := by
  induction segments generalizing d with
  | nil => exact nofun
  | cons segment segments ih =>
    intro frame hframe
    have hrest := fun s hs => htaken s (List.mem_cons_of_mem segment hs)
    have hmem : frame ∈ (d.event segment.1 segment.2).2 ++
        ((d.event segment.1 segment.2).1.events segments).2 := hframe
    cases List.mem_append.mp hmem with
    | inl hnow =>
      cases (htaken segment List.mem_cons_self).cases with
      | inl hvalid =>
        obtain ⟨f, rfl⟩ := hvalid
        obtain ⟨d', frame', hevent, hreads⟩ := f.event_reads d
        have hone : frame ∈ (d.event f.bytes .candidate).2 := hnow
        rw [hevent] at hone
        cases List.mem_singleton.mp hone
        exact ⟨f, hreads⟩
      | inr hrefused =>
        rw [(hrefused d).1] at hnow
        cases hnow
    | inr hlater => exact ih _ hrest frame hlater

/-- Each frame that the parser emits is that of a valid frame. -/
theorem StreamParser.feed_valid (p : StreamParser) (data : Bytes) :
    ∀ frame ∈ (p.feed crc32 data).2, ∃ f : ValidFrame crc32, frame.Reads f := by
  rw [StreamParser.feed_eq]
  refine Decoder.events_valid _ _ ?_
  intro segment hmem
  obtain ⟨view, n, hlook, hbytes⟩ := (sdf1 crc32).scan_mem hmem
  exact ⟨view, n, lookSdf1_take_iff.mp hlook, hbytes⟩

/-- What the parser emits for the first bytes of a recording are frames of the recording. -/
theorem feed_prefix (decodeSensorPayload : Bool) (frames : List (ValidFrame crc32)) {data : Bytes}
    (h : data <+: bytesOf frames) :
    ∀ frame ∈ (StreamParser.feed crc32 { decodeSensorPayload := decodeSensorPayload } data).2,
      ∃ f ∈ frames, frame.Reads f := by
  obtain ⟨rest, hrest⟩ := h
  have hwaits : (sdf1 crc32).look [] = .wait := Waits.look crc32 (.short (by decide))
  have hwhole := StreamParser.feed_frames { decodeSensorPayload := decodeSensorPayload }
    (data ++ rest) [] frames (by rw [List.append_nil, hrest]; rfl) hwaits
  have hcut := feedAll_eq_feed crc32 decodeSensorPayload [data, rest]
  rw [List.flatten_cons, List.flatten_singleton, hwhole] at hcut
  intro frame hframe
  have hmem : frame ∈ (StreamParser.feedAll crc32
      { decodeSensorPayload := decodeSensorPayload } [data, rest]).2 :=
    List.mem_append_left _ hframe
  rw [hcut] at hmem
  exact Decoder.frames_reads _ frames frame hmem

end SensorHost.Protocol
