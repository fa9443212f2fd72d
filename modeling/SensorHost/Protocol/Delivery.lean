import SensorHost.Protocol.Accounting
import SensorHost.Protocol.Replay
import SensorHost.Protocol.RoundTrip
import SensorHost.Protocol.Sequence

/-!
# What the parser has made of a stream

The parser counts `frames`, `last_sequence` and `sequence_gaps` from the frames it emits and from
nothing else (`feedAll_ledger`), and every frame comes from `_decode_frame` (`feedAll_forall`). What
it has made of a beginning of a stream it does not take back (`feed_stays`). Bytes without a possible
beginning of the magic are garbage wherever they stand (`Inert`).

`Ledger` says of two decoders that the counters of the second are those of the first behind some
frames. One event adds its own frames (`Decoder.event_ledger`), ledgers are put one behind the
other, and so the events of a whole scan have one (`Decoder.events_ledger`).

A prefix of a stream is scanned into a prefix of the segments, so its frames are a prefix of the
frames and its errors are not more (`Decoder.events_below`).
-/

namespace SensorHost.Protocol
open SensorHost.Lib

variable {crc32 : Bytes → UInt32}

/-- What `_record_sequence` counts between two numbers. -/
def countedGap (last sequence : Nat) : Nat :=
  let gap := Decoder.sequenceGap last sequence
  if gap < 0x80000000 then gap else 0

/-- What it counts along a list of numbers. -/
def countedGaps : List Nat → Nat
  | last :: sequence :: later => countedGap last sequence + countedGaps (sequence :: later)
  | _ => 0

/-- The numbers of the sensor frames, in order. -/
def sensorSequences (frames : List Frame) : List Nat :=
  (frames.filter fun frame => frame.messageType.isSensor).map Frame.sequence

/-- The counters of `d'` are those of `d` behind these frames. -/
structure Ledger (d : Decoder) (frames : List Frame) (d' : Decoder) : Prop where
  count : d'.stats.frames = d.stats.frames + frames.length
  last : d'.lastSequence = (d.lastSequence.toList ++ sensorSequences frames).getLast?
  gaps : d'.stats.sequenceGaps =
    d.stats.sequenceGaps + countedGaps (d.lastSequence.toList ++ sensorSequences frames)

/-- The gaps in two sequences are those in the first, and those from its last number on. -/
lemma countedGaps_append (xs ys : List Nat) :
    countedGaps (xs ++ ys) = countedGaps xs + countedGaps (xs.getLast?.toList ++ ys) := by
  induction xs with
  | nil => exact (Nat.zero_add _).symm
  | cons x xs ih =>
    cases xs with
    | nil => exact (Nat.zero_add _).symm
    | cons y xs =>
      rw [List.getLast?_cons_cons, List.cons_append, List.cons_append, countedGaps, countedGaps,
        ← List.cons_append, ih, Nat.add_assoc]

/-- Frames are numbered one after the other. -/
lemma sensorSequences_append (frames later : List Frame) :
    sensorSequences (frames ++ later) = sensorSequences frames ++ sensorSequences later := by
  unfold sensorSequences
  rw [List.filter_append, List.map_append]

/-- Decoding the payload is no part of the ledger. -/
lemma sensorSequences_fields (frames : List Frame) :
    sensorSequences (frames.map Frame.fields) = sensorSequences frames := by
  unfold sensorSequences
  rw [List.filter_map, List.map_map]
  rfl

namespace Ledger

variable {d d' d'' : Decoder} {frames later : List Frame}

/-- A ledger is continued. -/
lemma trans (h : Ledger d frames d') (h' : Ledger d' later d'') :
    Ledger d (frames ++ later) d'' where
  count := by rw [h'.count, h.count, List.length_append, Nat.add_assoc]
  last := by
    rw [h'.last, h.last, sensorSequences_append, ← List.append_assoc, List.getLast?_append,
      List.getLast?_append (l := _ ++ _)]
    cases (d.lastSequence.toList ++ sensorSequences frames).getLast? <;> rfl
  gaps := by
    rw [h'.gaps, h.gaps, h.last, sensorSequences_append, ← List.append_assoc,
      countedGaps_append (_ ++ _), Nat.add_assoc]

/-- A segment for which no frame is emitted. -/
lemma refused (h : d.Refused d') : Ledger d [] d' where
  count := h.frames
  last := by
    rw [h.clock.lastSequence]
    cases d.lastSequence <;> rfl
  gaps := by
    rw [h.clock.gaps]
    cases d.lastSequence <;> rfl

/-- A frame is counted with its own number. -/
lemma countFrame (frame : Frame) (hstats : d'.stats = d.stats)
    (hlast : d'.lastSequence = d.lastSequence) :
    Ledger d [frame] (d'.countFrame frame.messageType frame.sequence) := by
  cases hs : frame.messageType.isSensor with
  -- a sensor frame is counted and is the last one then
  | true =>
    have hnumbers : sensorSequences [frame] = [frame.sequence] := by
      unfold sensorSequences
      rw [List.filter_cons_of_pos (by exact hs)]
      rfl
    obtain ⟨hlast', hgaps⟩ := countFrame_sensor d' frame.sequence hs
    refine ⟨?_, ?_, ?_⟩
    · unfold Decoder.countFrame Decoder.recordSequence
      rw [if_pos hs]
      dsimp only
      rw [hstats]
      rfl
    · rw [hlast', hnumbers, List.getLast?_concat]
    · rw [hgaps, hnumbers]
      unfold Decoder.recordSequence
      rw [hlast, hstats]
      cases d.lastSequence with
      | none => rfl
      | some last =>
        have hone : countedGaps [last, frame.sequence] = countedGap last frame.sequence := rfl
        rw [Option.toList_some, List.singleton_append, hone]
        unfold countedGap
        dsimp only
        split <;> rfl
  -- a control frame is counted only
  | false =>
    have hnumbers : sensorSequences [frame] = [] := by
      unfold sensorSequences
      rw [List.filter_cons_of_neg (by rw [hs]; exact Bool.false_ne_true)]
      rfl
    obtain ⟨hlast', hgaps⟩ := countFrame_control d' frame.sequence hs
    refine ⟨?_, ?_, ?_⟩
    · unfold Decoder.countFrame
      dsimp only
      rw [hs, if_neg Bool.false_ne_true, hstats]
      rfl
    · rw [hlast', hlast, hnumbers]
      cases d.lastSequence <;> rfl
    · rw [hgaps, hstats, hnumbers]
      cases d.lastSequence <;> rfl

end Ledger

/-- One segment. -/
lemma Decoder.event_ledger (d : Decoder) (segment : Bytes) (e : Event) :
    Ledger d (d.event segment e).2 (d.event segment e).1 := by
  cases e with
  | garbage => exact .refused ⟨⟨rfl, rfl, rfl, rfl⟩, rfl⟩
  | fault fault => cases fault <;> exact .refused ⟨⟨rfl, rfl, rfl, rfl⟩, rfl⟩
  | badCrc => exact .refused ⟨⟨rfl, rfl, rfl, rfl⟩, rfl⟩
  | candidate =>
    unfold Decoder.event
    dsimp only
    cases hframe : (d.accept (Header.unpack segment) segment).2 with
    | none => exact .refused (Decoder.accept_none hframe)
    | some frame =>
      obtain ⟨messageType, d', frame', -, -, hdecode, haccept⟩ :=
        Decoder.accept_some (Option.isSome_iff_exists.mpr ⟨frame, hframe⟩)
      rw [haccept] at hframe ⊢
      obtain rfl : frame' = frame := Option.some.inj hframe
      obtain ⟨-, -, htype, -, hstats, hlast⟩ := Decoder.decodeFrame_some hdecode
      have hsequence : frame'.sequence = (Header.unpack segment).sequence :=
        congrArg Frame.sequence (Decoder.decodeFrame_fields hdecode)
      have hcount := Ledger.countFrame frame' hstats hlast
      rw [htype, hsequence] at hcount
      exact hcount

/-- Every sequence of segments. -/
lemma Decoder.events_ledger (d : Decoder) (segments : List (Bytes × Event)) :
    Ledger d (d.events segments).2 (d.events segments).1 := by
  induction segments generalizing d with
  | nil => exact .refused (.refl d)
  | cons s segments ih => exact (d.event_ledger s.1 s.2).trans (ih _)

/-- Whatever bytes arrive in whatever chunks, the parser counts the frames that it emits: their number,
the last number of a sensor frame, and the gaps between the numbers of the sensor frames. What it
rejects has no part in them. -/
theorem feedAll_ledger (crc32 : Bytes → UInt32) (decodeSensorPayload : Bool) (chunks : List Bytes) :
    let fed := StreamParser.feedAll crc32 { decodeSensorPayload := decodeSensorPayload } chunks
    fed.1.stats.frames = fed.2.length ∧
      fed.1.lastSequence = (sensorSequences fed.2).getLast? ∧
      fed.1.stats.sequenceGaps = countedGaps (sensorSequences fed.2) := by
  dsimp only
  rw [feedAll_eq_feed, StreamParser.feed_eq]
  obtain ⟨hcount, hlast, hgaps⟩ := Decoder.events_ledger
    { decodeSensorPayload := decodeSensorPayload } ((sdf1 crc32).scan ([] ++ chunks.flatten)).1
  exact ⟨hcount.trans (Nat.zero_add _), hlast, hgaps.trans (Nat.zero_add _)⟩

/-- No error is counted in `s` that is not counted in `t`. -/
structure Below (s t : ParserStats) : Prop where
  discarded : s.bytesDiscarded ≤ t.bytesDiscarded
  crcErrors : s.crcErrors ≤ t.crcErrors
  headerErrors : s.headerErrors ≤ t.headerErrors
  lengthErrors : s.lengthErrors ≤ t.lengthErrors

/-- Counters are no more than themselves. -/
lemma Below.refl (s : ParserStats) : Below s s := ⟨le_rfl, le_rfl, le_rfl, le_rfl⟩

/-- Counters only go up. -/
lemma Below.trans {s t u : ParserStats} (h : Below s t) (h' : Below t u) : Below s u where
  discarded := h.discarded.trans h'.discarded
  crcErrors := h.crcErrors.trans h'.crcErrors
  headerErrors := h.headerErrors.trans h'.headerErrors
  lengthErrors := h.lengthErrors.trans h'.lengthErrors

/-- A candidate only adds to the counters. -/
lemma Settles.below {s t : ParserStats} {control : Bool} (h : Settles s control t) : Below s t := by
  cases h with
  | control => exact ⟨le_rfl, le_rfl, Nat.le_succ _, le_rfl⟩
  | _ => exact ⟨le_rfl, le_rfl, le_rfl, le_rfl⟩

/-- Counters only grow. -/
lemma Decoder.event_below (d : Decoder) (segment : Bytes) (e : Event) :
    Below d.stats (d.event segment e).1.stats := by
  cases e with
  | garbage => exact ⟨Nat.le_add_right _ _, le_rfl, le_rfl, le_rfl⟩
  | fault fault =>
    cases fault with
    | headerError => exact ⟨Nat.le_add_right _ _, le_rfl, Nat.le_succ _, le_rfl⟩
    | lengthError => exact ⟨Nat.le_add_right _ _, le_rfl, le_rfl, Nat.le_succ _⟩
  | badCrc => exact ⟨Nat.le_add_right _ _, Nat.le_succ _, le_rfl, le_rfl⟩
  | candidate => exact (d.accept_settles segment).below

/-- So do the events of a scan. -/
lemma Decoder.events_below (d : Decoder) (segments : List (Bytes × Event)) :
    Below d.stats (d.events segments).1.stats := by
  induction segments generalizing d with
  | nil => exact .refl _
  | cons s segments ih => exact (d.event_below s.1 s.2).trans (ih _)

/-- What is emitted for the beginning of a stream stays emitted, and what is counted stays counted. -/
theorem feed_stays (crc32 : Bytes → UInt32) (p : StreamParser) (xs ys : Bytes) :
    (p.feed crc32 xs).2 <+: (p.feed crc32 (xs ++ ys)).2 ∧
      Below (p.feed crc32 xs).1.stats (p.feed crc32 (xs ++ ys)).1.stats := by
  rw [StreamParser.feed_eq, StreamParser.feed_eq, ← List.append_assoc,
    Scanner.scan_append _ (p.buffer ++ xs)]
  dsimp only
  rw [Decoder.events_append]
  exact ⟨List.prefix_append _ _, Decoder.events_below _ _⟩

/-- No magic begins in the bytes, whatever stands behind them. -/
def Inert (bytes : Bytes) : Prop :=
  bytes.IsChain (fun a b => a = 0x53 → b ≠ 0x44) ∧ bytes.getLast? ≠ some 0x53

instance (bytes : Bytes) : Decidable (Inert bytes) := inferInstanceAs (Decidable (_ ∧ _))

/-- No bytes are inert. -/
lemma inert_nil : Inert [] := ⟨List.isChain_nil, nofun⟩

/-- Bytes without an `S`. -/
lemma inert_of_not_mem {bytes : Bytes} (h : 0x53 ∉ bytes) : Inert bytes := by
  refine ⟨?_, fun hlast => h (List.mem_of_getLast? hlast)⟩
  induction bytes with
  | nil => exact List.isChain_nil
  | cons b bytes ih =>
    rw [List.mem_cons, not_or] at h
    refine List.isChain_cons.mpr ⟨fun c _ hb => absurd hb.symm h.1, ih h.2⟩

/-- Inert bytes are so one behind the other. -/
lemma Inert.append {xs ys : Bytes} (hx : Inert xs) (hy : Inert ys) : Inert (xs ++ ys) := by
  refine ⟨hx.1.append hy.1 fun a ha b _ hs => absurd ?_ hx.2, fun hlast => ?_⟩
  · rw [← hs]
    exact ha
  · rw [List.getLast?_append] at hlast
    cases hys : ys.getLast? with
    | none =>
      rw [hys] at hlast
      exact hx.2 hlast
    | some b =>
      rw [hys] at hlast
      exact hy.2 (hys.trans hlast)

/-- So are any number of them. -/
lemma inert_flatten {lines : List Bytes} (h : ∀ line ∈ lines, Inert line) :
    Inert lines.flatten := by
  induction lines with
  | nil => exact inert_nil
  | cons line lines ih =>
    rw [List.flatten_cons]
    exact (h line List.mem_cons_self).append (ih fun l hl => h l (List.mem_cons_of_mem _ hl))

/-- There is no magic in inert bytes. -/
lemma Inert.no_magic {bytes : Bytes} (h : Inert bytes) : ¬ Sdf1.magic <:+: bytes := by
  rintro ⟨before, after, rfl⟩
  exact absurd h.1.left_of_append.right_of_append (by decide)

/-- What holds of every frame that a candidate is decoded to holds of every frame that is emitted. -/
lemma Decoder.event_forall {P : Frame → Prop}
    (h : ∀ {d d' : Decoder} {messageType : MessageType} {header : Header} {candidate : Bytes}
      {frame : Frame}, d.decodeFrame (Decoder.commonFields messageType header candidate) =
        (d', some frame) → P frame) (d : Decoder) (segment : Bytes) (e : Event) :
    ∀ frame ∈ (d.event segment e).2, P frame := by
  cases e with
  | candidate =>
    intro frame hframe
    have hout : (d.event segment .candidate).2 =
        (d.accept (Header.unpack segment) segment).2.toList := rfl
    rw [hout, Option.mem_toList] at hframe
    obtain ⟨messageType, d', frame', -, -, hdecode, haccept⟩ :=
      Decoder.accept_some (Option.isSome_iff_exists.mpr ⟨frame, hframe⟩)
    rw [haccept] at hframe
    cases hframe
    exact h hdecode
  | _ => exact fun _ hframe => (List.not_mem_nil hframe).elim

/-- The same of the events of a scan. -/
lemma Decoder.events_forall {P : Frame → Prop}
    (h : ∀ {d d' : Decoder} {messageType : MessageType} {header : Header} {candidate : Bytes}
      {frame : Frame}, d.decodeFrame (Decoder.commonFields messageType header candidate) =
        (d', some frame) → P frame) (d : Decoder) (segments : List (Bytes × Event)) :
    ∀ frame ∈ (d.events segments).2, P frame := by
  induction segments generalizing d with
  | nil => exact fun _ hframe => (List.not_mem_nil hframe).elim
  | cons segment segments ih =>
    intro frame hframe
    cases List.mem_append.mp hframe with
    | inl hnow => exact d.event_forall h _ _ frame hnow
    | inr hlater => exact ih _ frame hlater

/-- What holds of every frame that a candidate is decoded to holds of every frame of a stream. -/
lemma StreamParser.feedAll_forall (crc32 : Bytes → UInt32) {P : Frame → Prop}
    (h : ∀ {d d' : Decoder} {messageType : MessageType} {header : Header} {candidate : Bytes}
      {frame : Frame}, d.decodeFrame (Decoder.commonFields messageType header candidate) =
        (d', some frame) → P frame) (p : StreamParser) (chunks : List Bytes) :
    ∀ frame ∈ (p.feedAll crc32 chunks).2, P frame := by
  rw [p.feedAll_eq crc32 chunks]
  exact p.toDecoder.events_forall h _

end SensorHost.Protocol
