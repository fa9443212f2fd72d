import SensorHost.Protocol.Scan

/-!
# The parser's accounts

Every byte that was fed is retained, discarded or part of a candidate that was consumed, and every
such candidate is counted once: as a frame, by one of three error counters, or as a V2 candidate
with a control type. The accounts are balanced segment by segment of the scan.

`Decoder.event_discarded` and `Decoder.event_settled` say it of one segment, and folding them over
the segments gives the two sums for a scan. `Balanced` carries these sums from call to call together
with the list of the candidates that were consumed, and `Balanced.feed` is its step lemma. A reset
throws away what is retained and starts the books anew, so `bytes_accounted` speaks of what was fed
since.

The bound on what is retained comes from the reasons to wait: a scanner that waits has less than a
header or less than a whole candidate before it (`Waits.length_le`).
-/

namespace SensorHost.Protocol
open SensorHost.Lib

/-- The calls that change a parser. -/
inductive ParserCall where
  | feed (data : Bytes)
  | resetSession

/-- What happened since the last reset: how many bytes were fed, and which candidates were
consumed. -/
structure Intake where
  fed : Nat := 0
  candidates : List Bytes := []

/-- One call, noted in the intake. -/
def StreamParser.call (crc32 : Bytes → UInt32) (state : StreamParser × Intake) :
    ParserCall → StreamParser × Intake
  | .feed data =>
    ((state.1.feed crc32 data).1,
      { fed := state.2.fed + data.length
        candidates := state.2.candidates ++ (state.1.feedRun crc32 data).consumed.map Prod.snd })
  | .resetSession => (state.1.resetSession, {})

/-- A parser after a history of calls, with its intake. -/
def StreamParser.history (crc32 : Bytes → UInt32) (decodeSensorPayload : Bool)
    (calls : List ParserCall) : StreamParser × Intake :=
  calls.foldl (StreamParser.call crc32) ({ decodeSensorPayload }, {})

/-- The candidate has a V2 header and a control type, which `feed` counts as a header error. -/
def isControlV2 (candidate : Bytes) : Bool :=
  (Header.unpack candidate).version == Sdf1.dataVersion &&
    (MessageType.ofValue (Header.unpack candidate).messageType).any fun t => !t.isSensor

/-- The candidates that the counters of the parser account for. -/
def ParserStats.settled (s : ParserStats) : Nat :=
  s.frames + s.unknownVersions + s.unknownTypes + s.payloadErrors

variable {crc32 : Bytes → UInt32}

/-- A payload is decoded and nothing is counted, or it is rejected and that is counted. -/
lemma Decoder.decodeFrame_stats (d : Decoder) (common : Frame) :
    (d.decodeFrame common).2 ≠ none ∧ (d.decodeFrame common).1.stats = d.stats ∨
      (d.decodeFrame common).2 = none ∧ (d.decodeFrame common).1.stats =
        { d.stats with payloadErrors := d.stats.payloadErrors + 1 } := by
  unfold Decoder.decodeFrame
  split
  · split
    · exact .inr ⟨rfl, rfl⟩
    · split
      · exact .inl ⟨Option.some_ne_none _, rfl⟩
      · exact .inl ⟨Option.some_ne_none _, rfl⟩
  · split
    · exact .inr ⟨rfl, rfl⟩
    · exact .inl ⟨Option.some_ne_none _, rfl⟩
  · split
    · exact .inr ⟨rfl, rfl⟩
    · exact .inl ⟨Option.some_ne_none _, rfl⟩
  · exact .inl ⟨Option.some_ne_none _, rfl⟩

/-- What a candidate does to the counters. -/
inductive Settles (stats : ParserStats) : Bool → ParserStats → Prop
  | version : Settles stats false { stats with unknownVersions := stats.unknownVersions + 1 }
  | type : Settles stats false { stats with unknownTypes := stats.unknownTypes + 1 }
  | control : Settles stats true { stats with headerErrors := stats.headerErrors + 1 }
  | payload : Settles stats false { stats with payloadErrors := stats.payloadErrors + 1 }
  | frame (gaps : Nat) :
      Settles stats false { stats with sequenceGaps := gaps, frames := stats.frames + 1 }

/-- A candidate is counted once. -/
lemma Decoder.accept_settles (d : Decoder) (candidate : Bytes) :
    Settles d.stats (isControlV2 candidate)
      (d.accept (Header.unpack candidate) candidate).1.stats := by
  unfold Decoder.accept isControlV2
  generalize Header.unpack candidate = h
  split
  · rename_i hversion
    rw [beq_eq_false_iff_ne.mpr hversion.2, Bool.false_and]
    exact .version
  · cases htype : MessageType.ofValue h.messageType with
    | none =>
      rw [Option.any_none, Bool.and_false]
      exact .type
    | some t =>
      dsimp only
      split
      · rename_i hcontrol
        rw [beq_iff_eq.mpr hcontrol.1, Option.any_some, hcontrol.2]
        exact .control
      · rename_i hsensor
        -- every other candidate is decoded, and its payload may be rejected
        have hfalse : (h.version == Sdf1.dataVersion && (some t).any fun t => !t.isSensor) =
            false := by
          rw [Option.any_some, Bool.and_eq_false_iff]
          by_cases hversion : h.version = Sdf1.dataVersion
          · exact .inr (Bool.eq_false_of_not_eq_true fun h => hsensor ⟨hversion, h⟩)
          · exact .inl (beq_eq_false_iff_ne.mpr hversion)
        rw [hfalse]
        have hstats := d.decodeFrame_stats (commonFields t h candidate)
        generalize d.decodeFrame (commonFields t h candidate) = result at hstats
        obtain ⟨d', frame⟩ := result
        cases frame with
        | none =>
          obtain ⟨hsome, -⟩ | ⟨-, hnone⟩ := hstats
          · exact absurd rfl hsome
          · dsimp only at hnone ⊢
            rw [hnone]
            exact .payload
        | some frame =>
          obtain ⟨-, hsome⟩ | ⟨hnone, -⟩ := hstats
          · dsimp only at hsome ⊢
            rw [← hsome]
            split
            · exact .frame _
            · exact .frame _
          · exact absurd hnone (Option.some_ne_none _)

/-- The bytes of a segment are discarded, or are those of a candidate. -/
def candidateBytes : Bytes × Event → Nat
  | (segment, .candidate) => segment.length
  | _ => 0

/-- What is passed is a candidate or is discarded. -/
lemma Decoder.event_discarded (d : Decoder) (segment : Bytes) (e : Event) :
    (d.event segment e).1.stats.bytesDiscarded + candidateBytes (segment, e) =
      d.stats.bytesDiscarded + segment.length := by
  cases e with
  | garbage => rfl
  | fault f =>
    cases f with
    | headerError => rfl
    | lengthError => rfl
  | badCrc => rfl
  | candidate =>
    have hsettles := d.accept_settles segment
    show (d.accept (Header.unpack segment) segment).1.stats.bytesDiscarded + segment.length = _
    generalize (d.accept (Header.unpack segment) segment).1.stats = stats at hsettles
    generalize isControlV2 segment = control at hsettles
    cases hsettles with
    | _ => rfl

/-- How many candidates a segment is, and how many of them are V2 with a control type. -/
def candidateCount : Bytes × Event → Nat
  | (_, .candidate) => 1
  | _ => 0

def controlCount : Bytes × Event → Nat
  | (segment, .candidate) => (isControlV2 segment).toNat
  | _ => 0

/-- A candidate is settled, unless it is a control frame of the data version. -/
lemma Decoder.event_settled (d : Decoder) (segment : Bytes) (e : Event) :
    (d.event segment e).1.stats.settled + controlCount (segment, e) =
      d.stats.settled + candidateCount (segment, e) := by
  cases e with
  | garbage => rfl
  | fault f =>
    cases f with
    | headerError => rfl
    | lengthError => rfl
  | badCrc => rfl
  | candidate =>
    have hsettles := d.accept_settles segment
    show (d.accept (Header.unpack segment) segment).1.stats.settled +
      (isControlV2 segment).toNat = d.stats.settled + 1
    generalize (d.accept (Header.unpack segment) segment).1.stats = stats at hsettles
    generalize isControlV2 segment = control at hsettles
    unfold ParserStats.settled
    cases hsettles with
    | control =>
      rw [Bool.toNat_true]
    | _ =>
      rw [Bool.toNat_false]
      dsimp only
      omega

/-- What was passed was candidates or was discarded. -/
lemma Decoder.events_discarded (d : Decoder) (segments : List (Bytes × Event)) :
    (d.events segments).1.stats.bytesDiscarded + (segments.map candidateBytes).sum =
      d.stats.bytesDiscarded + bytesTaken segments := by
  induction segments generalizing d with
  | nil => rfl
  | cons s segments ih =>
    obtain ⟨segment, e⟩ := s
    have hnow := d.event_discarded segment e
    have hlater := ih (d.event segment e).1
    unfold bytesTaken at hlater ⊢
    rw [List.map_cons, List.map_cons, List.sum_cons, List.sum_cons]
    show ((d.event segment e).1.events segments).1.stats.bytesDiscarded + _ = _
    dsimp only at hnow ⊢
    omega

/-- So are all the candidates. -/
lemma Decoder.events_settled (d : Decoder) (segments : List (Bytes × Event)) :
    (d.events segments).1.stats.settled + (segments.map controlCount).sum =
      d.stats.settled + (segments.map candidateCount).sum := by
  induction segments generalizing d with
  | nil => rfl
  | cons s segments ih =>
    obtain ⟨segment, e⟩ := s
    have hnow := d.event_settled segment e
    have hlater := ih (d.event segment e).1
    rw [List.map_cons, List.map_cons, List.sum_cons, List.sum_cons]
    show ((d.event segment e).1.events segments).1.stats.settled + _ = _
    omega

/-- The candidates of a scan hold its candidate bytes, and are as many as it counts. -/
lemma candidatesFrom_sums (pos : Nat) (segments : List (Bytes × Event)) :
    let candidates := (candidatesFrom pos segments).map Prod.snd
    (candidates.map List.length).sum = (segments.map candidateBytes).sum ∧
      candidates.length = (segments.map candidateCount).sum ∧
      candidates.countP isControlV2 = (segments.map controlCount).sum := by
  induction segments generalizing pos with
  | nil => exact ⟨rfl, rfl, rfl⟩
  | cons s segments ih =>
    obtain ⟨segment, e⟩ := s
    obtain ⟨hbytes, hcount, hcontrol⟩ := ih (pos + segment.length)
    cases e with
    | candidate =>
      refine ⟨?_, ?_, ?_⟩
      · exact congrArg (segment.length + ·) hbytes
      · exact (congrArg (· + 1) hcount).trans (Nat.add_comm _ 1)
      · show List.countP isControlV2 (segment :: _) = (isControlV2 segment).toNat + _
        rw [List.countP_cons, hcontrol, Nat.add_comm]
        cases isControlV2 segment with
        | false => rfl
        | true => rfl
    | _ =>
      refine ⟨?_, ?_, ?_⟩
      · exact hbytes.trans (Nat.zero_add _).symm
      · exact hcount.trans (Nat.zero_add _).symm
      · exact hcontrol.trans (Nat.zero_add _).symm

/-- A candidate is one of the segments. -/
lemma candidatesFrom_mem {pos : Nat} {segments : List (Bytes × Event)} {candidate : Bytes}
    (h : candidate ∈ (candidatesFrom pos segments).map Prod.snd) :
    (candidate, Event.candidate) ∈ segments := by
  induction segments generalizing pos with
  | nil => cases h
  | cons s segments ih =>
    obtain ⟨segment, e⟩ := s
    cases e with
    | candidate =>
      cases List.mem_cons.mp h with
      | inl heq =>
        rw [heq]
        exact List.mem_cons_self
      | inr hlater => exact List.mem_cons_of_mem _ (ih hlater)
    | _ => exact List.mem_cons_of_mem _ (ih h)

/-- The books of a parser balance. -/
structure Balanced (crc32 : Bytes → UInt32) (p : StreamParser) (i : Intake) : Prop where
  waits : Waits p.buffer
  bytes : i.fed = p.buffer.length + p.stats.bytesDiscarded + (i.candidates.map List.length).sum
  count : i.candidates.length = p.stats.settled + i.candidates.countP isControlV2
  valid : ∀ candidate ∈ i.candidates, crcHolds crc32 candidate candidate.length = true

/-- Nothing is owed at first. -/
lemma balanced_fresh (decodeSensorPayload : Bool) :
    Balanced crc32 { decodeSensorPayload } {} :=
  ⟨.short (Nat.zero_lt_succ 3), rfl, rfl, fun _ h => absurd h List.not_mem_nil⟩

/-- A chunk keeps the balance. -/
lemma Balanced.feed {p : StreamParser} {i : Intake} (balanced : Balanced crc32 p i)
    (data : Bytes) :
    Balanced crc32 (p.feed crc32 data).1
      { fed := i.fed + data.length
        candidates := i.candidates ++ (p.feedRun crc32 data).consumed.map Prod.snd } := by
  have hrun : p.feedRun crc32 data = _ := feedLoop_eq crc32 _ _ (Nat.lt_succ_self _)
  have hconsumed : (p.feedRun crc32 data).consumed =
      candidatesFrom 0 ((sdf1 crc32).scan (p.buffer ++ data)).1 := by
    rw [hrun]
    rfl
  have hconserve := congrArg List.length ((sdf1 crc32).scan_conserve (p.buffer ++ data))
  rw [List.length_append, List.length_append, List.length_flatten, List.map_map] at hconserve
  have htaken : (((sdf1 crc32).scan (p.buffer ++ data)).1.map (List.length ∘ Prod.fst)).sum =
      bytesTaken ((sdf1 crc32).scan (p.buffer ++ data)).1 := rfl
  have hdiscarded := p.toDecoder.events_discarded ((sdf1 crc32).scan (p.buffer ++ data)).1
  have hsettled := p.toDecoder.events_settled ((sdf1 crc32).scan (p.buffer ++ data)).1
  obtain ⟨hbytes, hcount, hcontrol⟩ :=
    candidatesFrom_sums 0 ((sdf1 crc32).scan (p.buffer ++ data)).1
  have hfed := balanced.bytes
  have hcounted := balanced.count
  refine ⟨StreamParser.waits_feed crc32 p data, ?_, ?_, ?_⟩
  · rw [hconsumed, StreamParser.feed_eq]
    dsimp only at hbytes ⊢
    rw [List.map_append, List.sum_append, hbytes]
    omega
  · rw [hconsumed, StreamParser.feed_eq]
    dsimp only at hcount hcontrol ⊢
    rw [List.length_append, List.countP_append, hcount, hcontrol]
    omega
  · rw [hconsumed]
    intro candidate hmem
    cases List.mem_append.mp hmem with
    | inl hbefore => exact balanced.valid candidate hbefore
    | inr hnew =>
      -- the scanner took it, so its checksum was right
      obtain ⟨ys, n, hlook, heq⟩ := (sdf1 crc32).scan_mem (candidatesFrom_mem hnew)
      dsimp only at hlook heq
      cases lookSdf1_take_iff.mp hlook with
      | candidate hsize magic good header len crc =>
        have hlength : (ys.take n).length = n := List.length_take_of_le len
        rw [heq, hlength]
        exact crc

/-- The parser waits for less than the longest candidate. -/
lemma Waits.length_le {bs : Bytes} (h : Waits bs) : bs.length ≤ 3836 := by
  cases h with
  | short len => omega
  | header magic len =>
    rw [Sdf1.headerSize] at len
    omega
  | body magic header good len =>
    unfold Header.fault at good
    split at good
    · cases good
    · rename_i hheader
      split at good
      · cases good
      · split at good
        · cases good
        · split at good
          · cases good
          · rename_i hpayload
            unfold Header.frameSize at len
            rw [Sdf1.maxHeaderSize, not_or] at hheader
            rw [Sdf1.maxPayloadSize] at hpayload
            rw [Sdf1.crcSize] at len
            omega

/-- After any history of calls: every byte fed since construction or the last reset is retained,
discarded or part of a candidate with a valid CRC; every such candidate is counted once; less than the
longest candidate is retained; and an empty chunk changes nothing. -/
theorem bytes_accounted (crc32 : Bytes → UInt32) (decodeSensorPayload : Bool)
    (calls : List ParserCall) :
    let p := (StreamParser.history crc32 decodeSensorPayload calls).1
    let i := (StreamParser.history crc32 decodeSensorPayload calls).2
    i.fed = p.buffer.length + p.stats.bytesDiscarded + (i.candidates.map List.length).sum ∧
      (∀ candidate ∈ i.candidates, crcHolds crc32 candidate candidate.length = true) ∧
      i.candidates.length = p.stats.frames + p.stats.unknownVersions + p.stats.unknownTypes +
        p.stats.payloadErrors + i.candidates.countP isControlV2 ∧
      p.buffer.length ≤ 3836 ∧ p.feed crc32 [] = (p, []) := by
  intro p i
  have balanced : Balanced crc32 p i := by
    suffices h : ∀ (calls : List ParserCall) (state : StreamParser × Intake),
        Balanced crc32 state.1 state.2 →
          Balanced crc32 (calls.foldl (StreamParser.call crc32) state).1
            (calls.foldl (StreamParser.call crc32) state).2 from
      h calls _ (balanced_fresh decodeSensorPayload)
    intro calls
    induction calls with
    | nil => exact fun _ h => h
    | cons call calls ih =>
      intro state hstate
      refine ih _ ?_
      cases call with
      | feed data => exact hstate.feed data
      | resetSession => exact balanced_fresh state.1.decodeSensorPayload
  refine ⟨balanced.bytes, balanced.valid, balanced.count, balanced.waits.length_le, ?_⟩
  rw [StreamParser.feed_eq, List.append_nil,
    Scanner.scan_wait _ (balanced.waits.look crc32)]
  rfl

end SensorHost.Protocol
