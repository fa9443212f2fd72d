import SensorHost.Ota.Demux

/-!
# The demultiplexer conserves bytes

Whatever is read, in whatever chunks: what the demultiplexer hands to the parser, and still holds, is
the input without the lines that it claimed (`Demuxed`). Each pass of its loop removes one segment
from the residue, so this is an induction along the scan of the residue.

`Demuxed` is a relation between the input, the lines that were claimed and the rest, with one rule
for bytes that are kept and one for a segment that is claimed. It is closed under concatenation
(`Demuxed.append`), so the account of a call is put behind that of the calls before it
(`StreamDemultiplexer.Conserves.call`). What is held back is shorter than the longest line or than a
frame with its header, whichever is more (`StreamDemultiplexer.residue_le`).
-/

namespace SensorHost.Ota
open SensorHost.Lib SensorHost.Protocol

/-- `rest` is the input in its order, without the newline-terminated segments that were claimed as
reply lines; `lines` are these segments, stripped. -/
inductive Demuxed : Bytes → List Bytes → Bytes → Prop
  | nil : Demuxed [] [] []
  | keep (bytes : Bytes) {input lines rest} (later : Demuxed input lines rest) :
      Demuxed (bytes ++ input) lines (bytes ++ rest)
  | line (line : Bytes) {input lines rest} (single : newline ∉ line)
      (claimed : otaPrefix <+: stripBytes line ∨ stripBytes line = okLine)
      (later : Demuxed input lines rest) :
      Demuxed (line ++ newline :: input) (stripBytes line :: lines) rest

/-- The calls that change a demultiplexer. -/
inductive DemuxCall where
  | feed (chunk : Bytes)
  | flush
  | reset

/-- What went in and came out since construction or the last reset. -/
structure DemuxTally where
  input : Bytes := []
  lines : List Bytes := []
  parser : Bytes := []

namespace StreamDemultiplexer

/-- One call, noted in the tally. -/
def call (state : StreamDemultiplexer × DemuxTally) : DemuxCall → StreamDemultiplexer × DemuxTally
  | .feed chunk =>
    let (d, lines, parser) := state.1.feed chunk
    (d, { input := state.2.input ++ chunk
          lines := state.2.lines ++ lines
          parser := state.2.parser ++ parser })
  | .flush =>
    let (d, residue) := state.1.flush
    (d, { state.2 with parser := state.2.parser ++ residue })
  | .reset => (state.1.reset, {})

/-- A demultiplexer after a sequence of calls, with its tally. -/
def history (maxLine : Nat) (h : 0 < maxLine) (calls : List DemuxCall) :
    StreamDemultiplexer × DemuxTally :=
  calls.foldl call ({ maxLine, maxLine_pos := h }, {})

end StreamDemultiplexer

variable {input input' rest rest' : Bytes} {lines lines' : List Bytes}

/-- Two inputs that are divided are divided as one. -/
lemma Demuxed.append (h : Demuxed input lines rest) (h' : Demuxed input' lines' rest') :
    Demuxed (input ++ input') (lines ++ lines') (rest ++ rest') := by
  induction h with
  | nil => exact h'
  | keep bytes later ih =>
    rw [List.append_assoc, List.append_assoc]
    exact .keep bytes ih
  | line line single claimed later ih =>
    rw [List.append_assoc, List.cons_append]
    exact .line line single claimed ih

/-- All bytes are kept. -/
lemma demuxed_self (bytes : Bytes) : Demuxed bytes [] bytes := by
  have h := Demuxed.keep bytes .nil
  rw [List.append_nil] at h
  exact h

/-- The segment that a pass removes is kept whole, or is a line that is claimed. -/
lemma demuxed_pass {pending : Bytes} {n : Nat} {part : Part} (h : pass pending = some (n, part)) :
    Demuxed (pending.take n) (otaLines [part]) (parserBytes [part]) := by
  obtain ⟨-, -, rfl, rfl⟩ | ⟨-, -, -, rfl⟩ | ⟨-, i, hi, rfl, hpart⟩ := pass_cases h
  · show Demuxed (pending.take 1) [] (pending.take 1 ++ [])
    rw [List.append_nil]
    exact demuxed_self _
  · show Demuxed (pending.take n) [] (pending.take n ++ [])
    rw [List.append_nil]
    exact demuxed_self _
  · obtain ⟨hlt, heol, hbefore⟩ := List.findIdx?_eq_some_iff_getElem.mp hi
    have hsegment : pending.take (i + 1) = pending.take i ++ [newline] := by
      rw [List.take_succ_eq_append_getElem hlt, beq_iff_eq.mp heol]
    have hsingle : newline ∉ pending.take i := by
      intro hmem
      obtain ⟨j, hj, hnewline⟩ := List.getElem_of_mem hmem
      rw [List.getElem_take] at hnewline
      rw [List.length_take] at hj
      exact hbefore j (lt_of_lt_of_le hj (min_le_left _ _)) (beq_iff_eq.mpr hnewline)
    rw [hsegment]
    split at hpart
    · rename_i hclaimed
      rw [hpart]
      refine .line _ hsingle ?_ .nil
      obtain hprefix | hok := Bool.or_eq_true_iff.mp hclaimed
      · exact .inl (List.isPrefixOf_iff_prefix.mp hprefix)
      · exact .inr (beq_iff_eq.mp hok)
    · rw [hpart]
      show Demuxed _ [] ((pending.take i ++ [newline]) ++ [])
      rw [List.append_nil]
      exact demuxed_self _

/-- The loop of `feed` removes segments from the residue. -/
lemma demuxed_scan (pending : Bytes) :
    ∃ taken, pending = taken ++ (mixed.scan pending).2 ∧
      Demuxed taken (otaLines ((mixed.scan pending).1.map Prod.snd))
        (parserBytes ((mixed.scan pending).1.map Prod.snd)) := by
  induction pending using mixed.scan_induction with
  | wait pending h =>
    rw [mixed.scan_wait h]
    exact ⟨[], rfl, .nil⟩
  | take pending n part h ih =>
    obtain ⟨taken, heq, hdemuxed⟩ := ih
    rw [mixed.scan_take h]
    refine ⟨pending.take n ++ taken, ?_, ?_⟩
    · dsimp only
      rw [List.append_assoc, ← heq, List.take_append_drop]
    · have hnow := (demuxed_pass (mixed_take.mp h)).append hdemuxed
      have hlines : ∀ parts, otaLines (part :: parts) = otaLines [part] ++ otaLines parts := by
        intro parts
        exact List.filterMap_append (l := [part])
      have hparser : ∀ parts,
          parserBytes (part :: parts) = parserBytes [part] ++ parserBytes parts := by
        intro parts
        exact @List.flatMap_append _ _ [part] _ _
      rw [List.map_cons, hlines, hparser]
      exact hnow

/-- What a call of `feed` takes off the residue and the chunk, and how much it still holds. -/
lemma StreamDemultiplexer.demuxed_feed (d : StreamDemultiplexer) (chunk : Bytes) :
    ∃ taken, d.pending ++ chunk = taken ++ (d.feed chunk).1.pending ∧
      Demuxed taken (d.feed chunk).2.1 (d.feed chunk).2.2 := by
  obtain ⟨taken, heq, hdemuxed⟩ := demuxed_scan (d.pending ++ chunk)
  unfold StreamDemultiplexer.feed
  rw [drain_eq _ _ (Nat.lt_succ_self _)]
  dsimp only
  split
  · refine ⟨d.pending ++ chunk, (List.append_nil _).symm, ?_⟩
    have hall := hdemuxed.append (demuxed_self (mixed.scan (d.pending ++ chunk)).2)
    rw [← heq, List.append_nil] at hall
    exact hall
  · exact ⟨taken, heq, hdemuxed⟩

/-- An incomplete frame is shorter than the longest one. -/
lemma sdf1FrameLength_none {pending : Bytes} (h : sdf1FrameLength pending = none) :
    pending.length ≤ 3836 := by
  unfold sdf1FrameLength at h
  split at h
  · rename_i hlen
    rw [headerLengthBytes] at hlen
    omega
  · dsimp only at h
    split at h
    · cases h
    · rename_i hheader
      split at h
      · cases h
      · rename_i hpayload
        split at h
        · rename_i hlen
          rw [Sdf1.maxHeaderSize, not_or] at hheader
          rw [Sdf1.maxPayloadSize] at hpayload
          rw [Sdf1.crcSize] at hlen
          omega
        · cases h

/-- Where the loop stops, what is not released is an incomplete frame or a short line. -/
lemma StreamDemultiplexer.residue_le (d : StreamDemultiplexer) (hstop : pass d.pending = none)
    (hheld : d.releases = false) : d.pending.length ≤ max d.maxLine 3836 := by
  by_cases hstarts : startsSdf1Frame d.pending = true
  · unfold pass at hstop
    rw [if_pos hstarts] at hstop
    refine le_max_of_le_right (sdf1FrameLength_none ?_)
    cases hlength : sdf1FrameLength d.pending with
    | none => rfl
    | some n =>
      rw [hlength] at hstop
      cases n with
      | zero => cases hstop
      | succ n => cases hstop
  · unfold StreamDemultiplexer.releases at hheld
    split at hheld
    · rename_i hprefix
      unfold isFramePrefix at hprefix
      rw [Bool.eq_false_of_not_eq_true hstarts, Bool.false_or, Bool.and_eq_true_iff] at hprefix
      have hshort := of_decide_eq_true hprefix.1
      rw [Sdf1.length_magic] at hshort
      exact le_max_of_le_right (by omega)
    · exact le_max_of_le_left (not_lt.mp (of_decide_eq_false hheld))

/-- What is held back is no longer than a line or a frame may be. -/
lemma StreamDemultiplexer.feed_residue_le (d : StreamDemultiplexer) (chunk : Bytes) :
    (d.feed chunk).1.pending.length ≤ max d.maxLine 3836 := by
  have hstop := mixed_wait (mixed.look_residue (d.pending ++ chunk))
  unfold StreamDemultiplexer.feed
  rw [drain_eq _ _ (Nat.lt_succ_self _)]
  dsimp only
  split
  · exact Nat.zero_le _
  · rename_i hheld
    exact StreamDemultiplexer.residue_le { d with pending := (mixed.scan (d.pending ++ chunk)).2 }
      hstop (Bool.eq_false_of_not_eq_true hheld)

/-- The tally of a demultiplexer balances. -/
structure StreamDemultiplexer.Conserves (maxLine : Nat) (d : StreamDemultiplexer)
    (t : DemuxTally) : Prop where
  bound : d.maxLine = maxLine
  taken : ∃ taken, t.input = taken ++ d.pending ∧ Demuxed taken t.lines t.parser
  residue : d.pending.length ≤ max maxLine 3836

/-- A demultiplexer that holds nothing has nothing to account for. -/
lemma StreamDemultiplexer.conserves_empty {d : StreamDemultiplexer} (hempty : d.pending = []) :
    d.Conserves d.maxLine {} := by
  refine ⟨rfl, ⟨[], ?_, .nil⟩, ?_⟩
  · rw [hempty]
    rfl
  · rw [hempty]
    exact Nat.zero_le _

/-- No chunk changes the longest line. -/
lemma StreamDemultiplexer.feed_maxLine (d : StreamDemultiplexer) (chunk : Bytes) :
    (d.feed chunk).1.maxLine = d.maxLine := by
  unfold StreamDemultiplexer.feed
  dsimp only
  split
  · rfl
  · rfl

/-- Every call keeps the account. -/
lemma StreamDemultiplexer.Conserves.call {maxLine : Nat} {d : StreamDemultiplexer} {t : DemuxTally}
    (conserves : d.Conserves maxLine t) (c : DemuxCall) :
    (StreamDemultiplexer.call (d, t) c).1.Conserves maxLine
      (StreamDemultiplexer.call (d, t) c).2 := by
  obtain ⟨hbound, ⟨taken, heq, hdemuxed⟩, hresidue⟩ := conserves
  cases c with
  | feed chunk =>
    obtain ⟨taken', heq', hdemuxed'⟩ := d.demuxed_feed chunk
    refine ⟨(d.feed_maxLine chunk).trans hbound, ⟨taken ++ taken', ?_, ?_⟩, ?_⟩
    · show t.input ++ chunk = taken ++ taken' ++ (d.feed chunk).1.pending
      rw [heq, List.append_assoc, heq', ← List.append_assoc]
    · exact hdemuxed.append hdemuxed'
    · exact hbound ▸ d.feed_residue_le chunk
  | flush =>
    refine ⟨hbound, ⟨t.input, (List.append_nil _).symm, ?_⟩, Nat.zero_le _⟩
    have hall := hdemuxed.append (demuxed_self d.pending)
    rw [← heq, List.append_nil] at hall
    exact hall
  | reset => exact hbound ▸ StreamDemultiplexer.conserves_empty (d := d.reset) rfl

/-- After any sequence of calls: the bytes returned for the parser, followed by those still held, are
the input without the segments of the claimed lines, in its order; the residue is bounded; and `flush`
returns the residue. -/
theorem demultiplexer_conserves (maxLine : Nat) (h : 0 < maxLine) (calls : List DemuxCall) :
    let d := (StreamDemultiplexer.history maxLine h calls).1
    let t := (StreamDemultiplexer.history maxLine h calls).2
    Demuxed t.input t.lines (t.parser ++ d.pending) ∧
      d.pending.length ≤ max maxLine 3836 ∧ d.flush.2 = d.pending ∧ d.flush.1.pending = [] := by
  intro d t
  have conserves : d.Conserves maxLine t := by
    suffices hcalls : ∀ (calls : List DemuxCall) (state : StreamDemultiplexer × DemuxTally),
        state.1.Conserves maxLine state.2 →
          (calls.foldl StreamDemultiplexer.call state).1.Conserves maxLine
            (calls.foldl StreamDemultiplexer.call state).2 from
      hcalls calls _ (StreamDemultiplexer.conserves_empty (d := { maxLine, maxLine_pos := h }) rfl)
    intro calls
    induction calls with
    | nil => exact fun _ hstate => hstate
    | cons c calls ih => exact fun state hstate => ih _ (hstate.call c)
  obtain ⟨-, ⟨taken, heq, hdemuxed⟩, hresidue⟩ := conserves
  refine ⟨?_, hresidue, rfl, rfl⟩
  have hall := hdemuxed.append (demuxed_self d.pending)
  rw [← heq, List.append_nil] at hall
  exact hall

/-- The reply OK is taken out from between two bytes for the parser, in two chunks. -/
theorem demultiplexer_conserves_one :
    let d := (StreamDemultiplexer.history 8 (by decide) [.feed [0x0A, 0x4F], .feed [0x4B, 0x0A, 0x41]]).1
    let t := (StreamDemultiplexer.history 8 (by decide) [.feed [0x0A, 0x4F], .feed [0x4B, 0x0A, 0x41]]).2
    (t.input = [0x0A, 0x4F, 0x4B, 0x0A, 0x41] ∧ t.lines = [[0x4F, 0x4B]] ∧
      t.parser ++ d.pending = [0x0A, 0x41]) ∧
      Demuxed t.input t.lines (t.parser ++ d.pending) ∧ d.pending.length ≤ max 8 3836 ∧
      d.flush.2 = d.pending ∧ d.flush.1.pending = [] :=
  ⟨by decide, demultiplexer_conserves 8 (by decide) _⟩

end SensorHost.Ota
