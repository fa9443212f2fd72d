import SensorHost.Lib.Crc32
import SensorHost.Protocol.Clock

/-!
# Recording and replaying

A recording holds the raw bytes of the frames that a parser emitted, one after the other, and
nothing of what it refused. The candidates it refused leave no trace in the clock of the decoder
(`Decoder.refused`), and each frame it emitted is a valid frame. So a fresh parser reads the
recording as the same frames, whatever chunks it is read in (`replay_faithful`).

`Replays` relates the decoder of the live stream to the one that reads the recording: the second has
seen only the frames, and agrees with the first in its clock. One event keeps this
(`Replays.event`): a candidate that is refused changes only counters in the first decoder and is not
in the recording, and one that is accepted is a valid frame that the second decoder accepts too.
`feedAll_replays` runs it over the stream.
-/

namespace SensorHost.Protocol
open SensorHost.Lib

variable {crc32 : Bytes → UInt32}

/-- `replay_chunks` of a file with the bytes `recording`; `chunkSize` is positive. -/
def replayChunks (chunkSize : Nat) (recording : Bytes) : List Bytes :=
  if recording = [] ∨ chunkSize = 0 then []
  else recording.take chunkSize :: replayChunks chunkSize (recording.drop chunkSize)
termination_by recording.length
decreasing_by
  rename_i h
  rw [not_or] at h
  have := List.length_pos_iff.mpr h.1
  rw [List.length_drop]
  omega

/-- The chunks of a recording are its bytes. -/
lemma flatten_replayChunks {chunkSize : Nat} (hsize : 0 < chunkSize) (recording : Bytes) :
    (replayChunks chunkSize recording).flatten = recording := by
  fun_induction replayChunks chunkSize recording with
  | case1 recording h =>
    cases h with
    | inl hnil => rw [hnil, List.flatten_nil]
    | inr hzero => omega
  | case2 recording h ih =>
    rw [List.flatten_cons, ih]
    exact List.take_append_drop chunkSize recording

/-- The counters of what is refused. -/
def ParserStats.errors (s : ParserStats) : ParserStats := { s with frames := 0, sequenceGaps := 0 }

/-- Without errors the counters are those of what went well. -/
lemma ParserStats.of_errors {s : ParserStats} (h : s.errors = {}) :
    s = { frames := s.frames, sequenceGaps := s.sequenceGaps } := by
  have hkeep (t : ParserStats) :
      { t.errors with frames := t.frames, sequenceGaps := t.sequenceGaps } = t := rfl
  rw [← hkeep s, h]

/-- The decoder `e` has seen only frames, and its clock and counts are those of `d`. -/
structure Replays (d e : Decoder) : Prop where
  clock : SameClock d e
  frames : e.stats.frames = d.stats.frames
  quiet : e.stats.errors = {}

/-- A fresh decoder has seen nothing. -/
lemma Replays.fresh (decodeSensorPayload : Bool) :
    Replays { decodeSensorPayload := decodeSensorPayload }
      { decodeSensorPayload := decodeSensorPayload } := ⟨SameClock.refl _, rfl, rfl⟩

/-- A step that changes error counters only. -/
structure Decoder.Refused (d d' : Decoder) : Prop where
  clock : SameClock d' d
  frames : d'.stats.frames = d.stats.frames

/-- Nothing done refuses nothing. -/
lemma Decoder.Refused.refl (d : Decoder) : d.Refused d := ⟨SameClock.refl d, rfl⟩

/-- A frame that is not decoded has not touched the IIS clock. -/
lemma Decoder.decodeFrame_none {d d' : Decoder} {common : Frame}
    (h : d.decodeFrame common = (d', none)) : d.Refused d' := by
  unfold Decoder.decodeFrame Decoder.payloadError at h
  cases hm : common.messageType with
  | iis3dwbFifo =>
    simp only [hm] at h
    split at h
    · cases h
      exact ⟨⟨rfl, rfl, rfl, rfl⟩, rfl⟩
    · split at h
      · cases h
      · cases h
  | jy61plSample =>
    simp only [hm] at h
    split at h
    · cases h
      exact ⟨⟨rfl, rfl, rfl, rfl⟩, rfl⟩
    · cases h
  | status =>
    simp only [hm] at h
    split at h
    · cases h
      exact ⟨⟨rfl, rfl, rfl, rfl⟩, rfl⟩
    · cases h
  | cliResponse =>
    simp only [hm] at h
    cases h

/-- A candidate for which no frame is emitted leaves the clock alone. -/
lemma Decoder.accept_none {d : Decoder} {h : Header} {candidate : Bytes}
    (hnone : (d.accept h candidate).2 = none) : d.Refused (d.accept h candidate).1 := by
  unfold Decoder.accept at hnone ⊢
  split
  · exact ⟨⟨rfl, rfl, rfl, rfl⟩, rfl⟩
  · rename_i hversion
    rw [if_neg hversion] at hnone
    cases hm : MessageType.ofValue h.messageType with
    | none => exact ⟨⟨rfl, rfl, rfl, rfl⟩, rfl⟩
    | some messageType =>
      simp only [hm] at hnone ⊢
      split
      · exact ⟨⟨rfl, rfl, rfl, rfl⟩, rfl⟩
      · rename_i hsensor
        rw [if_neg hsensor] at hnone
        cases hd : d.decodeFrame (commonFields messageType h candidate) with
        | mk d' frame =>
          rw [hd] at hnone
          cases frame with
          | none => exact Decoder.decodeFrame_none hd
          | some frame => cases hnone

/-- A segment that the scanner took. -/
def Taken (crc32 : Bytes → UInt32) (segment : Bytes × Event) : Prop :=
  ∃ view n, Takes crc32 view n segment.2 ∧ segment.1 = view.take n

/-- A candidate taken from a view is taken whole. -/
lemma Takes.whole {view : Bytes} {n : Nat} (h : Takes crc32 view n .candidate) :
    Takes crc32 (view.take n) (view.take n).length .candidate := by
  have hlen : (view.take n).length = n := List.length_take_of_le h.le_length
  cases h with
  | candidate hsize hm hf hh hle hcrc =>
    have hge : Sdf1.headerSize ≤ n := by
      rw [hsize]
      exact (Nat.le_add_right _ _).trans (Header.frameSize_ge hf)
    have hheader : Header.unpack (view.take n) = Header.unpack view := Header.unpack_take hge hh
    apply Takes.candidate
    · rw [hheader, hlen]
      exact hsize
    · have h4 : Sdf1.magic.length ≤ (view.take n).length := by
        rw [hlen, Sdf1.length_magic]
        exact le_trans (by decide) hge
      exact List.prefix_of_prefix_length_le hm (List.take_prefix n view) h4
    · rw [hheader]
      exact hf
    · rw [hlen]
      exact hge
    · exact le_rfl
    · rw [List.take_length, hlen]
      exact hcrc

/-- Every segment is a valid frame, or one that leaves the clock alone. -/
lemma Taken.cases {segment : Bytes × Event} (h : Taken crc32 segment) :
    (∃ f : ValidFrame crc32, segment = f.segment) ∨
      ∀ d : Decoder, (d.event segment.1 segment.2).2 = [] ∧
        d.Refused (d.event segment.1 segment.2).1 := by
  obtain ⟨bytes, e⟩ := segment
  obtain ⟨view, n, htake, rfl⟩ := h
  cases e with
  | garbage => exact .inr fun d => ⟨rfl, ⟨rfl, rfl, rfl, rfl⟩, rfl⟩
  | fault fault =>
    right
    intro d
    cases fault with
    | headerError => exact ⟨rfl, ⟨rfl, rfl, rfl, rfl⟩, rfl⟩
    | lengthError => exact ⟨rfl, ⟨rfl, rfl, rfl, rfl⟩, rfl⟩
  | badCrc => exact .inr fun d => ⟨rfl, ⟨rfl, rfl, rfl, rfl⟩, rfl⟩
  | candidate =>
    dsimp only at htake ⊢
    cases hemit : (Decoder.accept {} (Header.unpack (view.take n)) (view.take n)).2.isSome with
    | true => exact .inl ⟨⟨view.take n, htake.whole, hemit⟩, rfl⟩
    | false =>
      right
      intro d
      have hnone : (d.accept (Header.unpack (view.take n)) (view.take n)).2 = none := by
        rw [← Option.not_isSome_iff_eq_none, d.accept_isSome {}, hemit]
        exact Bool.false_ne_true
      refine ⟨?_, ?_⟩
      · simp only [Decoder.event, hnone, Option.toList_none]
      · exact Decoder.accept_none hnone

/-- A refused segment is not replayed. -/
lemma Replays.skip {d d' e : Decoder} (h : Replays d e) (hd : d.Refused d') : Replays d' e where
  clock := hd.clock.trans h.clock
  frames := h.frames.trans hd.frames.symm
  quiet := h.quiet

/-- A frame that is counted is one more. -/
lemma Decoder.countFrame_frames (d : Decoder) (messageType : MessageType) (sequence : Nat) :
    (d.countFrame messageType sequence).stats.frames = d.stats.frames + 1 := by
  unfold Decoder.countFrame
  dsimp only
  split <;> rfl

/-- It is no error. -/
lemma Decoder.countFrame_errors (d : Decoder) (messageType : MessageType) (sequence : Nat) :
    (d.countFrame messageType sequence).stats.errors = d.stats.errors := by
  unfold Decoder.countFrame
  dsimp only
  split <;> rfl

/-- A valid frame is replayed as the same frame. -/
lemma Replays.event {d e : Decoder} (h : Replays d e) (f : ValidFrame crc32) :
    (d.event f.bytes .candidate).2 = (e.event f.bytes .candidate).2 ∧
      Replays (d.event f.bytes .candidate).1 (e.event f.bytes .candidate).1 := by
  obtain ⟨hframe, hclock⟩ := h.clock.event f
  obtain ⟨messageType, d', frame, -, hd, hdstats, -⟩ := f.event_eq d
  obtain ⟨messageType', e', frame', -, he, hestats, -⟩ := f.event_eq e
  refine ⟨hframe, hclock, ?_, ?_⟩
  · rw [hd, he, Decoder.countFrame_frames, Decoder.countFrame_frames, hdstats, hestats, h.frames]
  · rw [he, Decoder.countFrame_errors, hestats]
    exact h.quiet

/-- The frames of a scan are those of its valid frames, and a decoder that sees these alone has the
same clock and the same counts. -/
lemma Replays.events {d e : Decoder} (h : Replays d e) (segments : List (Bytes × Event))
    (htaken : ∀ segment ∈ segments, Taken crc32 segment) :
    ∃ frames : List (ValidFrame crc32), (d.events segments).2 = (e.frames frames).2 ∧
      Replays (d.events segments).1 (e.frames frames).1 := by
  induction segments generalizing d e with
  | nil => exact ⟨[], rfl, h⟩
  | cons segment segments ih =>
    have hrest := fun s hs => htaken s (List.mem_cons_of_mem segment hs)
    cases (htaken segment List.mem_cons_self).cases with
    | inl hvalid =>
      obtain ⟨f, rfl⟩ := hvalid
      obtain ⟨hframe, hnow⟩ := h.event f
      obtain ⟨frames, hframes, hlater⟩ := ih hnow hrest
      refine ⟨f :: frames, ?_, hlater⟩
      exact congrArg₂ (· ++ ·) hframe hframes
    | inr hrefused =>
      obtain ⟨hnil, hd⟩ := hrefused d
      obtain ⟨frames, hframes, hlater⟩ := ih (h.skip hd) hrest
      refine ⟨frames, ?_, hlater⟩
      rw [← hframes]
      exact congrArg (· ++ _) hnil

/-- The frames of a stream are those of valid frames, and a decoder that sees these alone has the same
clock and the same counts. -/
lemma feedAll_replays (crc32 : Bytes → UInt32) (decodeSensorPayload : Bool)
    (chunks : List Bytes) :
    let stream := StreamParser.feedAll crc32 { decodeSensorPayload := decodeSensorPayload } chunks
    let fresh : Decoder := { decodeSensorPayload := decodeSensorPayload }
    ∃ frames : List (ValidFrame crc32), stream.2 = (fresh.frames frames).2 ∧
      Replays stream.1.toDecoder (fresh.frames frames).1 := by
  intro stream fresh
  have hchunks : stream = _ := StreamParser.feedAll_eq crc32 _ chunks
  have hwaits : (sdf1 crc32).look [] = .wait := Waits.look crc32 (.short (by decide))
  have hscan := (sdf1 crc32).scanChunks_eq hwaits chunks
  have htaken : ∀ segment ∈ ((sdf1 crc32).scan chunks.flatten).1, Taken crc32 segment := by
    intro segment hmem
    obtain ⟨view, n, hlook, hbytes⟩ := (sdf1 crc32).scan_mem hmem
    exact ⟨view, n, lookSdf1_take_iff.mp hlook, hbytes⟩
  rw [List.nil_append] at hscan
  rw [show ({ decodeSensorPayload := decodeSensorPayload } : StreamParser).buffer = [] from rfl,
    hscan] at hchunks
  rw [hchunks]
  exact (Replays.fresh decodeSensorPayload).events _ htaken

/-- Recording then replaying is faithful: a fresh parser that reads the raw bytes of the frames
emitted for a stream, in any chunks, emits the same frames, discards nothing, counts no error, keeps
no byte, and ends with the same counts and the same last sequence. -/
theorem replay_faithful (decodeSensorPayload : Bool) (chunks replay : List Bytes)
    (hreplay : replay.flatten =
      ((StreamParser.feedAll crc32 { decodeSensorPayload := decodeSensorPayload } chunks).2.map
        Frame.rawBytes).flatten) :
    let original := StreamParser.feedAll crc32 { decodeSensorPayload := decodeSensorPayload } chunks
    let again := StreamParser.feedAll crc32 { decodeSensorPayload := decodeSensorPayload } replay
    again.2 = original.2 ∧
      again.1.stats = { frames := original.1.stats.frames
                        sequenceGaps := original.1.stats.sequenceGaps } ∧
      again.1.buffer = [] ∧ again.1.lastSequence = original.1.lastSequence := by
  intro original again
  have hwaits : (sdf1 crc32).look [] = .wait := Waits.look crc32 (.short (by decide))
  obtain ⟨frames, hframes, hreplays⟩ := feedAll_replays crc32 decodeSensorPayload chunks
  have hbytes : replay.flatten = bytesOf frames := by
    rw [hreplay, bytesOf, ← Decoder.frames_rawBytes _ frames, ← hframes]
  have hfeed := StreamParser.feed_frames { decodeSensorPayload := decodeSensorPayload }
    replay.flatten [] frames (by rw [List.append_nil, ← hbytes]; rfl) hwaits
  have hagain : again = _ := (feedAll_eq_feed crc32 decodeSensorPayload replay).trans hfeed
  rw [hagain]
  refine ⟨hframes.symm, ?_, rfl, hreplays.clock.lastSequence.symm⟩
  rw [← hreplays.frames, hreplays.clock.gaps]
  exact ParserStats.of_errors hreplays.quiet

/-- A stream of two samples with a byte before it, replayed ten bytes at a time. -/
theorem replay_faithful_samples :
    let stream : List Bytes :=
      [[0x53], (ValidFrame.jy zlibCrc32 0 4 (by decide) (by decide)).bytes,
        (ValidFrame.jy zlibCrc32 0 9 (by decide) (by decide)).bytes]
    let original := StreamParser.feedAll zlibCrc32 {} stream
    (StreamParser.feedAll zlibCrc32 {}
        (replayChunks 10 (original.2.map Frame.rawBytes).flatten)).2 = original.2 :=
  (replay_faithful true _ _ (flatten_replayChunks (by decide) _)).1

end SensorHost.Protocol
