import SensorHost.Protocol.Valid

/-!
# Decoders with the same clock

What a decoder makes of later frames depends on its last sequence number, its IIS clock and its
configuration, and not on its counters. Two decoders that agree on these emit equal frames for a
valid frame, and still agree behind it (`SameClock.event`).

The induction over a stream is done where it is needed, from `SameClock.event` for one event;
`SameClock.decodeFrame` and `SameClock.countFrame` are its two halves. Counters of errors may differ
between the two decoders, which is what a recording without the refused candidates, and a stream
without its archive frames, are compared by.
-/

namespace SensorHost.Protocol
open SensorHost.Lib

variable {crc32 : Bytes → UInt32}

/-- The decoders agree on what later frames depend on, and on the gaps. -/
structure SameClock (d e : Decoder) : Prop where
  lastSequence : d.lastSequence = e.lastSequence
  iisTime : d.iisTime = e.iisTime
  decodes : d.decodeSensorPayload = e.decodeSensorPayload
  gaps : d.stats.sequenceGaps = e.stats.sequenceGaps

/-- A decoder has its own clock. -/
lemma SameClock.refl (d : Decoder) : SameClock d d := ⟨rfl, rfl, rfl, rfl⟩

/-- Clocks are compared one after the other. -/
lemma SameClock.trans {d e g : Decoder} (h : SameClock d e) (h' : SameClock e g) : SameClock d g where
  lastSequence := h.lastSequence.trans h'.lastSequence
  iisTime := h.iisTime.trans h'.iisTime
  decodes := h.decodes.trans h'.decodes
  gaps := h.gaps.trans h'.gaps

/-- On the same clock a frame is decoded to the same, and the clocks stay the same. -/
lemma SameClock.decodeFrame {d e : Decoder} (h : SameClock d e) (common : Frame) :
    (d.decodeFrame common).2 = (e.decodeFrame common).2 ∧
      SameClock (d.decodeFrame common).1 (e.decodeFrame common).1 := by
  obtain ⟨hlast, htime, hdecodes, hgaps⟩ := h
  unfold Decoder.decodeFrame Decoder.payloadError
  split
  · split
    · exact ⟨rfl, hlast, htime, hdecodes, hgaps⟩
    · rw [hdecodes]
      split
      · exact ⟨rfl, hlast, htime, hdecodes, hgaps⟩
      · rw [htime]
        exact ⟨rfl, hlast, rfl, rfl, hgaps⟩
  · split <;> exact ⟨rfl, hlast, htime, hdecodes, hgaps⟩
  · split <;> exact ⟨rfl, hlast, htime, hdecodes, hgaps⟩
  · exact ⟨rfl, hlast, htime, hdecodes, hgaps⟩

/-- Counting a frame leaves the clock alone. -/
lemma SameClock.countFrame {d e : Decoder} (h : SameClock d e) (messageType : MessageType)
    (sequence : Nat) :
    SameClock (d.countFrame messageType sequence) (e.countFrame messageType sequence) := by
  obtain ⟨hlast, htime, hdecodes, hgaps⟩ := h
  unfold Decoder.countFrame
  dsimp only
  split
  · refine ⟨rfl, htime, hdecodes, ?_⟩
    simp only [Decoder.recordSequence, hlast, hgaps]
  · exact ⟨hlast, htime, hdecodes, hgaps⟩

/-- A valid frame gives the same frame in both decoders. -/
lemma SameClock.event {d e : Decoder} (h : SameClock d e) (f : ValidFrame crc32) :
    (d.event f.bytes .candidate).2 = (e.event f.bytes .candidate).2 ∧
      SameClock (d.event f.bytes .candidate).1 (e.event f.bytes .candidate).1 := by
  have hd : (d.accept f.header f.bytes).2.isSome := by
    rw [d.accept_isSome {} f.header f.bytes]
    exact f.emits
  have he : (e.accept f.header f.bytes).2.isSome := by
    rw [e.accept_isSome {} f.header f.bytes]
    exact f.emits
  obtain ⟨messageType, d', frame, htype, -, hdecode, haccept⟩ := Decoder.accept_some hd
  obtain ⟨messageType', e', frame', htype', -, hdecode', haccept'⟩ := Decoder.accept_some he
  rw [htype] at htype'
  cases htype'
  have hsame := h.decodeFrame (Decoder.commonFields messageType f.header f.bytes)
  rw [hdecode, hdecode'] at hsame
  obtain ⟨hframe, hclock⟩ := hsame
  cases hframe
  have hcount := hclock.countFrame messageType f.header.sequence
  simp only [Decoder.event]
  rw [show Header.unpack f.bytes = f.header from rfl, haccept, haccept']
  exact ⟨rfl, hcount⟩

end SensorHost.Protocol
