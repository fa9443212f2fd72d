import SensorHost.Protocol.Replay

/-!
# Sequence gaps

The parser sees the low 32 bits of the numbers of sensor frames. Where each number is at most `2 ^ 31`
past the one before, the low bits still tell how many were skipped (`sequenceGap_low`), and nothing
but an emitted sensor frame counts, so the total is the number of sensor frames that are missing
(`sequenceGaps_missing`).

A stream is a list of pieces, valid frames and bytes that the parser rejects, so that garbage and
frames with a bad payload may stand anywhere. `event_sequence` says what one event does to the last
number and to the count, and `frames_missing` is the induction with the true number of the last
sensor frame as what is carried along. Numbers between two that follow each other are counted once,
so their total is the size of a set of missing numbers (`card_missing`).
-/

namespace SensorHost.Protocol
open SensorHost.Lib

variable {crc32 : Bytes → UInt32}

/-- A sensor frame is the last one, and its gap is counted. -/
lemma countFrame_sensor (d : Decoder) {messageType : MessageType} (sequence : Nat)
    (h : messageType.isSensor = true) :
    (d.countFrame messageType sequence).lastSequence = some sequence ∧
      (d.countFrame messageType sequence).stats.sequenceGaps =
        (d.recordSequence sequence).stats.sequenceGaps := by
  unfold Decoder.countFrame
  rw [if_pos h]
  exact ⟨rfl, rfl⟩

/-- A control frame is not. -/
lemma countFrame_control (d : Decoder) {messageType : MessageType} (sequence : Nat)
    (h : messageType.isSensor = false) :
    (d.countFrame messageType sequence).lastSequence = d.lastSequence ∧
      (d.countFrame messageType sequence).stats.sequenceGaps = d.stats.sequenceGaps := by
  unfold Decoder.countFrame
  rw [if_neg (by simp [h])]
  exact ⟨rfl, rfl⟩

/-- Gaps are only added. -/
lemma le_recordSequence (d : Decoder) (sequence : Nat) :
    d.stats.sequenceGaps ≤ (d.recordSequence sequence).stats.sequenceGaps := by
  simp only [Decoder.recordSequence]
  split
  · split
    · exact Nat.le_add_right _ _
    · exact le_rfl
  · exact le_rfl

/-- A valid frame advances the sequence if it is a sensor frame. -/
lemma event_sequence (d : Decoder) (f : ValidFrame crc32) :
    (d.event f.bytes .candidate).1.lastSequence =
        (if f.isSensor then some f.header.sequence else d.lastSequence) ∧
      (d.event f.bytes .candidate).1.stats.sequenceGaps =
        if f.isSensor then (d.recordSequence f.header.sequence).stats.sequenceGaps
        else d.stats.sequenceGaps := by
  obtain ⟨messageType, d', frame, htype, hevent, hstats, hlast, -⟩ := f.event_eq d
  have hsensor : f.isSensor = messageType.isSensor := by
    rw [ValidFrame.isSensor, htype]
    rfl
  rw [hevent, hsensor]
  cases hm : messageType.isSensor with
  | true =>
    obtain ⟨hlast', hgaps⟩ := countFrame_sensor d' f.header.sequence hm
    refine ⟨hlast', hgaps.trans ?_⟩
    simp only [Decoder.recordSequence, hlast, hstats, if_true]
  | false =>
    obtain ⟨hlast', hgaps⟩ := countFrame_control d' f.header.sequence hm
    exact ⟨hlast'.trans hlast, hgaps.trans (congrArg ParserStats.sequenceGaps hstats)⟩

/-- The live JY61PL frame of a number. -/
lemma jy_live (crc32 : Bytes → UInt32) (sequence : Nat) (h : sequence < 2 ^ 32) :
    let f := ValidFrame.jy crc32 0 sequence (by decide) h
    f.archive = false ∧ f.isSensor = true ∧ f.header.sequence = sequence := by
  have hheader : (ValidFrame.jy crc32 0 sequence (by decide) h).header =
      headerV1 .jy61plSample 0 sequence 0 1 14 :=
    unpack_encodeFrameV1 (by decide) h (by decide) (by decide) (by decide)
  refine ⟨?_, ?_, ?_⟩
  · rw [ValidFrame.archive, hheader]
    exact (by decide : (0 &&& archiveFlag != 0) = false)
  · rw [ValidFrame.isSensor, hheader]
    rfl
  · rw [hheader]
    rfl

/-- Numbers of successive sensor frames of which the low bits tell the distance. -/
def Follows (a b : Nat) : Prop := a < b ∧ b - a ≤ 2 ^ 31

/-- Behind the low bits of a number, those of a later number tell how many were skipped. -/
lemma sequenceGap_low {a b : Nat} (h : Follows a b) :
    Decoder.sequenceGap (a % 2 ^ 32) (b % 2 ^ 32) = b - a - 1 := by
  obtain ⟨hlt, hstep⟩ := h
  unfold Decoder.sequenceGap
  omega

/-- A step of less than 2^31 counts what it leaves out, across the wrap. -/
lemma recordSequence_low {d : Decoder} {a b : Nat} (hlast : d.lastSequence = some (a % 2 ^ 32))
    (h : Follows a b) :
    (d.recordSequence (b % 2 ^ 32)).stats.sequenceGaps = d.stats.sequenceGaps + (b - a - 1) := by
  obtain ⟨hlt, hstep⟩ := h
  unfold Decoder.recordSequence
  simp only [hlast]
  rw [sequenceGap_low ⟨hlt, hstep⟩, if_pos (by omega)]

/-- The sensor frames behind a sensor frame. -/
lemma frames_missing {d : Decoder} {frames : List (ValidFrame crc32)} {a : Nat} {later : List Nat}
    (hlast : d.lastSequence = some (a % 2 ^ 32))
    (hnumbers : (frames.filter ValidFrame.isSensor).map (fun f => f.header.sequence) =
      later.map (· % 2 ^ 32))
    (hsteps : (a :: later).IsChain Follows) :
    (d.frames frames).1.stats.sequenceGaps + later.length + a =
      d.stats.sequenceGaps + later.getLastD a := by
  induction frames generalizing d a later with
  | nil =>
    rw [List.filter_nil, List.map_nil, eq_comm, List.map_eq_nil_iff] at hnumbers
    subst hnumbers
    rfl
  | cons f frames ih =>
    obtain ⟨hlast', hgaps⟩ := event_sequence d f
    have hcons : (d.frames (f :: frames)).1 =
        ((d.event f.bytes .candidate).1.frames frames).1 := rfl
    cases hf : f.isSensor with
    | false =>
      rw [List.filter_cons_of_neg (by rw [hf]; exact Bool.false_ne_true)] at hnumbers
      rw [hf, if_neg Bool.false_ne_true] at hlast' hgaps
      rw [hcons, ih (hlast'.trans hlast) hnumbers hsteps, hgaps]
    | true =>
      rw [List.filter_cons_of_pos hf, List.map_cons] at hnumbers
      rw [hf, if_pos rfl] at hlast' hgaps
      cases later with
      | nil => cases hnumbers
      | cons b later =>
        obtain ⟨hb, hnumbers⟩ := List.cons.inj hnumbers
        obtain ⟨hstep, hsteps⟩ := List.isChain_cons_cons.mp hsteps
        rw [hb] at hlast' hgaps
        have hnow := ih hlast' hnumbers hsteps
        rw [hgaps, recordSequence_low hlast hstep] at hnow
        rw [hcons, List.length_cons, List.getLastD_cons]
        have hlt := hstep.1
        omega

/-- The sensor frames of a parser that has seen none. -/
lemma frames_missing_first {d : Decoder} {frames : List (ValidFrame crc32)} {first : Nat}
    {later : List Nat} (hlast : d.lastSequence = none)
    (hnumbers : (frames.filter ValidFrame.isSensor).map (fun f => f.header.sequence) =
      (first :: later).map (· % 2 ^ 32))
    (hsteps : (first :: later).IsChain Follows) :
    (d.frames frames).1.stats.sequenceGaps + later.length + first =
      d.stats.sequenceGaps + later.getLastD first := by
  induction frames generalizing d with
  | nil => cases hnumbers
  | cons f frames ih =>
    obtain ⟨hlast', hgaps⟩ := event_sequence d f
    have hcons : (d.frames (f :: frames)).1 =
        ((d.event f.bytes .candidate).1.frames frames).1 := rfl
    cases hf : f.isSensor with
    | false =>
      rw [List.filter_cons_of_neg (by rw [hf]; exact Bool.false_ne_true)] at hnumbers
      rw [hf, if_neg Bool.false_ne_true] at hlast' hgaps
      rw [hcons, ih (hlast'.trans hlast) hnumbers, hgaps]
    | true =>
      rw [List.filter_cons_of_pos hf, List.map_cons] at hnumbers
      rw [hf, if_pos rfl] at hlast' hgaps
      obtain ⟨hfirst, hnumbers⟩ := List.cons.inj hnumbers
      rw [hfirst] at hlast' hgaps
      have hrecord : (d.recordSequence (first % 2 ^ 32)).stats.sequenceGaps =
          d.stats.sequenceGaps := by
        unfold Decoder.recordSequence
        simp only [hlast]
      rw [hcons, frames_missing hlast' hnumbers hsteps, hgaps, hrecord]

/-- The numbers between the first and the last of a chain that are not in it. -/
lemma card_missing {first : Nat} {later : List Nat} (hsteps : (first :: later).IsChain Follows) :
    (Finset.Icc first (later.getLastD first) \ (first :: later).toFinset).card + later.length +
      first = later.getLastD first := by
  have hpair : (first :: later).Pairwise (· < ·) :=
    List.isChain_iff_pairwise.mp (hsteps.imp fun _ _ h => h.1)
  have hlast : (first :: later).getLast (List.cons_ne_nil _ _) = later.getLastD first :=
    List.getLast_eq_getLastD _
  have hsub : (first :: later).toFinset ⊆ Finset.Icc first (later.getLastD first) := by
    intro x hx
    rw [List.mem_toFinset] at hx
    have hle : (first :: later).Pairwise (· ≤ ·) := hpair.imp fun h => h.le
    rw [Finset.mem_Icc, ← hlast]
    exact ⟨hle.rel_head hx, hle.rel_getLast hx⟩
  have hcard := Finset.card_sdiff_add_card_eq_card hsub
  have hfirst : first ≤ later.getLastD first := by
    have hmem : first ∈ (first :: later).toFinset := List.mem_toFinset.mpr List.mem_cons_self
    exact (Finset.mem_Icc.mp (hsub hmem)).2
  rw [List.toFinset_card_of_nodup (hpair.imp fun h => h.ne), Nat.card_Icc, List.length_cons] at hcard
  omega

/-- A part of a stream: a valid frame, or bytes that are none, such as a frame with a bad payload. -/
inductive Piece (crc32 : Bytes → UInt32) where
  | frame (f : ValidFrame crc32)
  | rejected (bytes : Bytes)

namespace Piece

/-- The bytes of a piece. -/
def bytes : Piece crc32 → Bytes
  | .frame f => f.bytes
  | .rejected bytes => bytes

/-- The frame of a piece. -/
def frame? : Piece crc32 → Option (ValidFrame crc32)
  | .frame f => some f
  | .rejected _ => none

end Piece

/-- The stream of pieces. -/
def streamOf (pieces : List (Piece crc32)) : Bytes := (pieces.map Piece.bytes).flatten

/-- The frames among pieces. -/
def framesOf (pieces : List (Piece crc32)) : List (ValidFrame crc32) := pieces.filterMap Piece.frame?

/-- The parser emits the frames of the pieces and rejects the rest. -/
def RejectsRest (decodeSensorPayload : Bool) (pieces : List (Piece crc32)) : Prop :=
  (StreamParser.feed crc32 { decodeSensorPayload := decodeSensorPayload } (streamOf pieces)).2.map
    Frame.rawBytes = (framesOf pieces).map ValidFrame.bytes

/-- A frame is its bytes. -/
lemma ValidFrame.bytes_injective :
    Function.Injective (ValidFrame.bytes : ValidFrame crc32 → Bytes) := by
  rintro ⟨bytes, _, _⟩ ⟨_, _, _⟩ rfl
  rfl

/-- Where the sensor frames of a stream carry the low 32 bits of growing numbers, each at most `2 ^ 31`
past the one before, `sequence_gaps` is the number of sensor frames that are missing, whatever control
frames and rejected bytes lie between them and in whatever chunks the stream comes. -/
theorem sequenceGaps_missing (decodeSensorPayload : Bool) (pieces : List (Piece crc32))
    (hrejects : RejectsRest decodeSensorPayload pieces) (chunks : List Bytes)
    (hchunks : chunks.flatten = streamOf pieces) (first : Nat) (later : List Nat)
    (hnumbers : ((framesOf pieces).filter ValidFrame.isSensor).map (fun f => f.header.sequence) =
      (first :: later).map (· % 2 ^ 32))
    (hsteps : (first :: later).IsChain fun a b => a < b ∧ b - a ≤ 2 ^ 31) :
    let stats := (StreamParser.feedAll crc32 { decodeSensorPayload := decodeSensorPayload }
      chunks).1.stats
    stats.sequenceGaps = later.getLastD first - first - later.length ∧
      stats.sequenceGaps =
        (Finset.Icc first (later.getLastD first) \ (first :: later).toFinset).card := by
  intro stats
  obtain ⟨frames, hframes, hreplays⟩ := feedAll_replays crc32 decodeSensorPayload chunks
  have heq : frames = framesOf pieces := by
    refine List.map_injective_iff.mpr ValidFrame.bytes_injective ?_
    rw [← hrejects, ← hchunks, ← feedAll_eq_feed, hframes, Decoder.frames_rawBytes]
  have hgaps := frames_missing_first (d := { decodeSensorPayload := decodeSensorPayload }) rfl
    (heq ▸ hnumbers) hsteps
  rw [← hreplays.clock.gaps] at hgaps
  have hgaps : stats.sequenceGaps + later.length + first = later.getLastD first :=
    hgaps.trans (Nat.zero_add _)
  have hmissing := card_missing hsteps
  refine ⟨?_, ?_⟩
  · omega
  · omega

/-- Two samples on both sides of a wrap, with a bad start of a frame between them. -/
theorem sequenceGaps_missing_wrap :
    let pieces : List (Piece fun _ => 0) :=
      [.frame (.jy _ 0 (2 ^ 32 - 2) (by decide) (by decide)), .rejected [0x53, 0x44],
        .frame (.jy _ 0 3 (by decide) (by decide))]
    (StreamParser.feedAll (fun _ => 0) {} [streamOf pieces]).1.stats.sequenceGaps = 4 := by
  intro pieces
  have hrejects : RejectsRest true pieces := by
    unfold RejectsRest
    decide +kernel
  have hnumbers : ((framesOf pieces).filter ValidFrame.isSensor).map
      (fun f => f.header.sequence) = [2 ^ 32 - 2, 2 ^ 32 + 3].map (· % 2 ^ 32) := by
    rfl
  exact (sequenceGaps_missing true pieces hrejects [streamOf pieces] (List.append_nil _)
    (2 ^ 32 - 2) [2 ^ 32 + 3] hnumbers (by decide)).1

end SensorHost.Protocol
