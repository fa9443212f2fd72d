import SensorHost.Presentation.PlaybackController
import SensorHost.Storage.Indexing

/-!
# Playback

What a playback has applied since its decoder restarted is, after every seek and every tick, the
longest run of sensor frames from the restart offset that are due (`playback_on_time`). A pass of
`_fill_until` takes due frames from the queue in order and reads on only with an empty queue, and
between restarts the playhead never goes back.

A tick at the end of the archive stops the playback exactly if every sensor frame from the restart
offset on is due at the archive's duration (`tick_playing_iff`).

`Reads` is the invariant of the decoder: the parser has been fed what was read since the restart,
and what it gave is applied or waits in the queue. `release_eq` and `Reads.readBlock` are its step
lemmas, `fillLoop_rule` carries it through the loop, and the loop ends since every pass behind an
empty queue reads something or ends the file (`fillLoop_ends`). `Ready` is the invariant between
operations, and `Arrived` what a seek and a tick add to it: nothing that is due is left.

Times are compared as the source compares them, rounded, so what the proofs need of rounding is that
it is monotone (`cutoffUs_mono`) and keeps a value that is rounded (`durationS_exact`).
-/

namespace SensorHost.Protocol
open SensorHost.Lib

variable (crc32 : Bytes → UInt32)

/-- The IIS and JY61PL frames that a new parser emits for these bytes. -/
def sensorFrames (bytes : Bytes) : List Frame :=
  (StreamParser.feed crc32 {} bytes).2.filter (·.messageType.isSensor)

/-- A new parser may stop at any point and go on. -/
lemma feed_append (fed chunk : Bytes) :
    StreamParser.feed crc32 {} (fed ++ chunk) =
      (((StreamParser.feed crc32 {} fed).1.feed crc32 chunk).1,
        (StreamParser.feed crc32 {} fed).2 ++
          ((StreamParser.feed crc32 {} fed).1.feed crc32 chunk).2) := by
  have hchunks := feedAll_eq_feed crc32 true [fed, chunk]
  rw [List.flatten_cons, List.flatten_cons, List.flatten_nil, List.append_nil] at hchunks
  rw [← hchunks]
  simp only [StreamParser.feedAll, List.append_nil]

/-- The sensor frames of a block come behind those before it. -/
lemma sensorFrames_append (fed chunk : Bytes) :
    sensorFrames crc32 (fed ++ chunk) = sensorFrames crc32 fed ++
      ((StreamParser.feed crc32 {} fed).1.feed crc32 chunk).2.filter (·.messageType.isSensor) := by
  rw [sensorFrames, feed_append, List.filter_append, sensorFrames]

/-- A decoder goes on decoding payloads, or not. -/
lemma Decoder.decodeFrame_decodes (d : Decoder) (common : Frame) :
    (d.decodeFrame common).1.decodeSensorPayload = d.decodeSensorPayload := by
  unfold decodeFrame payloadError
  split
  · split
    · rfl
    · split
      · rfl
      · rfl
  · split <;> rfl
  · split <;> rfl
  · rfl

/-- No segment changes whether the decoder decodes sensor payloads. -/
lemma Decoder.event_decodes (d : Decoder) (segment : Bytes) (e : Event) :
    (d.event segment e).1.decodeSensorPayload = d.decodeSensorPayload := by
  cases e with
  | garbage => rfl
  | fault fault => cases fault <;> rfl
  | badCrc => rfl
  | candidate =>
    simp only [event, accept]
    split
    · rfl
    · split
      · rfl
      · rename_i messageType _
        split
        · rfl
        · have hdecodes :=
            d.decodeFrame_decodes (commonFields messageType (Header.unpack segment) segment)
          split
          · rename_i hd
            rwa [hd] at hdecodes
          · rename_i hd
            rw [hd] at hdecodes
            dsimp only
            split
            · exact hdecodes
            · exact hdecodes

/-- So it is behind all events. -/
lemma Decoder.events_decodes (segments : List (Bytes × Event)) (d : Decoder) :
    (d.events segments).1.decodeSensorPayload = d.decodeSensorPayload := by
  induction segments generalizing d with
  | nil => rfl
  | cons segment segments ih =>
    rw [Decoder.events]
    exact (ih _).trans (d.event_decodes segment.1 segment.2)

/-- Resetting a parser that has fed some bytes since it was new makes it new again. -/
lemma resetSession_feed (fed : Bytes) :
    (StreamParser.feed crc32 {} fed).1.resetSession = {} := by
  have hdecodes : (StreamParser.feed crc32 {} fed).1.decodeSensorPayload = true := by
    rw [StreamParser.feed_eq]
    exact Decoder.events_decodes _ _
  rw [StreamParser.resetSession, hdecodes]

end SensorHost.Protocol

namespace SensorHost.Presentation
open SensorHost.Lib SensorHost.Protocol SensorHost.Acquisition SensorHost.Storage

variable (R : Rounding) {crc32 : Bytes → UInt32}

/-- A frame is due at a cutoff. -/
def due (cutoffUs : ℚ) (frame : Frame) : Bool := (frame.timestampUs : ℚ) ≤ cutoffUs

/-- Since the decoder restarted it has read `fed`; the sensor frames of it are applied or pending. -/
structure Reads (crc32 : Bytes → UInt32) (c : PlaybackController) (s : ArchiveStream)
    (fed : Bytes) : Prop where
  stream : c.stream = some s
  content : s.content.drop c.restartOffset = fed ++ s.rest
  parser : c.parser = (StreamParser.feed crc32 {} fed).1
  frames : sensorFrames crc32 fed = c.applied ++ c.pendingFrames
  eof : c.eof = true → s.rest = []
  store : c.store = c.applied.foldl applyFrame c.restartStore
  cleared : c.restartStore.chunks = []

namespace PlaybackController

/-- The inner loop applies the due frames at the head of the queue. -/
lemma release_eq (cutoffUs : ℚ) (frames : List Frame) (c : PlaybackController) :
    release cutoffUs frames c =
      { c with
        store := (frames.takeWhile (due cutoffUs)).foldl applyFrame c.store
        applied := c.applied ++ frames.takeWhile (due cutoffUs)
        pendingFrames := frames.dropWhile (due cutoffUs) } := by
  induction frames generalizing c with
  | nil => simp [release]
  | cons frame frames ih =>
    rw [release]
    split
    · rename_i hdue
      have hdue : due cutoffUs frame = true := decide_eq_true hdue
      rw [ih, List.takeWhile_cons_of_pos hdue, List.dropWhile_cons_of_pos hdue, List.foldl_cons,
        List.append_assoc, List.singleton_append]
    · rename_i hlate
      have hlate : ¬ due cutoffUs frame = true := fun h => hlate (of_decide_eq_true h)
      rw [List.takeWhile_cons_of_neg hlate, List.dropWhile_cons_of_neg hlate, List.append_nil]
      rfl

end PlaybackController

open PlaybackController

/-- Frames that are released are applied or pending. -/
lemma Reads.release {c : PlaybackController} {s : ArchiveStream} {fed : Bytes}
    (h : Reads crc32 c s fed) (cutoffUs : ℚ) :
    Reads crc32 (release cutoffUs c.pendingFrames c) s fed := by
  rw [release_eq]
  refine ⟨h.stream, h.content, h.parser, ?_, h.eof, ?_, h.cleared⟩
  · rw [h.frames, List.append_assoc, List.takeWhile_append_dropWhile]
  · rw [List.foldl_append, ← h.store]

/-- Reading a block: the end of the file is noted, or a block is decoded. -/
lemma Reads.readBlock {c : PlaybackController} {s : ArchiveStream} {fed : Bytes}
    (h : Reads crc32 c s fed) :
    (s.rest = [] ∧ Reads crc32 (c.readBlock crc32) s fed ∧ (c.readBlock crc32).eof = true) ∨
      ∃ s' fed', s'.content = s.content ∧ s'.rest.length < s.rest.length ∧
        Reads crc32 (c.readBlock crc32) s' fed' := by
  unfold PlaybackController.readBlock
  rw [h.stream]
  dsimp only [ArchiveStream.read]
  split
  · rename_i hchunk
    have hrest : s.rest = [] := by
      rw [List.take_eq_nil_iff] at hchunk
      exact hchunk.resolve_left (by decide)
    -- an empty read is the end of the file
    refine .inl ⟨hrest, ⟨?_, h.content, h.parser, h.frames, fun _ => hrest, h.store, h.cleared⟩, rfl⟩
    rw [hchunk]
    rfl
  · rename_i hchunk
    generalize hc : s.rest.take readChunkBytes = chunk at hchunk
    have hsplit : s.rest = chunk ++ s.rest.drop readChunkBytes := by
      rw [← hc, List.take_append_drop]
    have hrest : ({ s with position := s.position + chunk.length } : ArchiveStream).rest =
        s.rest.drop readChunkBytes := by
      have hdrop : s.rest.drop chunk.length = s.rest.drop readChunkBytes := by
        conv_lhs => rw [hsplit]
        exact List.drop_left
      rw [← hdrop, ArchiveStream.rest, ArchiveStream.rest, List.drop_drop]
    refine .inr ⟨{ s with position := s.position + chunk.length }, fed ++ chunk, rfl, ?_, ?_⟩
    · rw [hrest]
      conv_rhs => rw [hsplit, List.length_append]
      -- each block shortens the rest, which ends the fill loop
      have hpos := List.length_pos_of_ne_nil hchunk
      omega
    · refine ⟨rfl, ?_, ?_, ?_, fun heof => ?_, h.store, h.cleared⟩
      · rw [hrest, List.append_assoc, ← hsplit]
        exact h.content
      · rw [feed_append, ← h.parser]
      · rw [sensorFrames_append, h.frames, ← h.parser, List.append_assoc]
      · have hnil := h.eof heof
        rw [hnil] at hsplit
        exact absurd (List.append_eq_nil_iff.mp hsplit.symm).1 hchunk

/-- What filling does not touch. -/
structure Kept (c c' : PlaybackController) : Prop where
  index : c'.index = c.index
  playing : c'.playing = c.playing
  playheadS : c'.playheadS = c.playheadS
  speed : c'.speed = c.speed
  lastTickS : c'.lastTickS = c.lastTickS
  restartOffset : c'.restartOffset = c.restartOffset

/-- What is not touched is so one after the other. -/
lemma Kept.trans {a b c : PlaybackController} (h : Kept a b) (h' : Kept b c) : Kept a c :=
  ⟨h'.index.trans h.index, h'.playing.trans h.playing, h'.playheadS.trans h.playheadS,
    h'.speed.trans h.speed, h'.lastTickS.trans h.lastTickS,
    h'.restartOffset.trans h.restartOffset⟩

/-- Releasing frames does not touch the rest. -/
lemma kept_release (cutoffUs : ℚ) (frames : List Frame) (c : PlaybackController) :
    Kept c (release cutoffUs frames c) := by
  rw [release_eq]
  exact ⟨rfl, rfl, rfl, rfl, rfl, rfl⟩

/-- Nor does reading a block. -/
lemma kept_readBlock (crc32 : Bytes → UInt32) (c : PlaybackController) :
    Kept c (c.readBlock crc32) := by
  unfold PlaybackController.readBlock
  split
  · exact ⟨rfl, rfl, rfl, rfl, rfl, rfl⟩
  · dsimp only
    split
    · exact ⟨rfl, rfl, rfl, rfl, rfl, rfl⟩
    · exact ⟨rfl, rfl, rfl, rfl, rfl, rfl⟩

/-- Reading a block applies nothing. -/
lemma applied_readBlock (crc32 : Bytes → UInt32) (c : PlaybackController) :
    (c.readBlock crc32).applied = c.applied := by
  unfold PlaybackController.readBlock
  split
  · rfl
  · dsimp only
    split
    · rfl
    · rfl

/-- What holds when filling to a cutoff has ended: everything applied is due, and either the queue
starts with a frame that is not, or the file has been read to its end. -/
structure Filled (crc32 : Bytes → UInt32) (cutoffUs : ℚ) (content : Bytes)
    (c : PlaybackController) : Prop where
  reads : ∃ s fed, s.content = content ∧ Reads crc32 c s fed
  applied : ∀ f ∈ c.applied, due cutoffUs f = true
  ends : (∃ f frames, c.pendingFrames = f :: frames ∧ due cutoffUs f = false) ∨
    c.pendingFrames = [] ∧ c.eof = true

/-- A block that is read leaves fewer bytes; otherwise the end of the file is noted. -/
lemma unread_readBlock (crc32 : Bytes → UInt32) (c : PlaybackController) :
    (c.readBlock crc32).eof = true ∨ (c.readBlock crc32).unread < c.unread := by
  unfold PlaybackController.readBlock PlaybackController.unread
  cases c.stream with
  | none => exact .inl rfl
  | some s =>
    dsimp only [ArchiveStream.read]
    split
    · exact .inl rfl
    · rename_i hchunk
      have hpos := List.length_pos_of_ne_nil hchunk
      have hle := List.length_take_le' readChunkBytes s.rest
      refine .inr ?_
      simp only [ArchiveStream.rest, List.length_drop] at hpos hle ⊢
      omega

/-- The loop of `_fill_until` ends, within two passes more than there are bytes to read. -/
lemma fillLoop_ends (crc32 : Bytes → UInt32) (cutoffUs : ℚ) {passes : Nat} {c : PlaybackController}
    (hpasses : (if c.eof then 0 else c.unread + 1) < passes) :
    ∃ c', fillLoop crc32 cutoffUs passes c = some c' := by
  induction passes generalizing c with
  | zero => exact absurd hpasses (Nat.not_lt_zero _)
  | succ passes ih =>
    have heof : (release cutoffUs c.pendingFrames c).eof = c.eof := by rw [release_eq]
    have hunread : (release cutoffUs c.pendingFrames c).unread = c.unread := by rw [release_eq]; rfl
    rw [fillLoop]
    generalize release cutoffUs c.pendingFrames c = c₁ at heof hunread ⊢
    split
    · exact ⟨c₁, rfl⟩
    · rename_i hgoes
      have hnot : c.eof = false := by
        rw [← heof]
        exact Bool.eq_false_iff.mpr (not_or.mp hgoes).2
      rw [hnot] at hpasses
      have hpasses : c.unread + 1 < passes + 1 := hpasses
      apply ih
      rcases unread_readBlock crc32 c₁ with hend | hlt
      · rw [if_pos hend]
        omega
      · split <;> omega

/-- What applying due frames and reading blocks preserve holds when the loop has ended, and then the
queue starts with a frame that is not due, or the file has been read to its end. -/
lemma fillLoop_rule {P : PlaybackController → Prop} {cutoffUs : ℚ}
    (hrelease : ∀ c, P c → P (release cutoffUs c.pendingFrames c))
    (hread : ∀ c, P c → P (c.readBlock crc32)) {passes : Nat} {c c' : PlaybackController}
    (hloop : fillLoop crc32 cutoffUs passes c = some c') (h : P c) :
    P c' ∧ ((∃ f frames, c'.pendingFrames = f :: frames ∧ due cutoffUs f = false) ∨
      c'.pendingFrames = [] ∧ c'.eof = true) := by
  induction passes generalizing c with
  | zero => cases hloop
  | succ passes ih =>
    have hpending : (release cutoffUs c.pendingFrames c).pendingFrames =
        c.pendingFrames.dropWhile (due cutoffUs) := by rw [release_eq]
    have hreleased := hrelease c h
    rw [fillLoop] at hloop
    generalize release cutoffUs c.pendingFrames c = c₁ at hloop hpending hreleased
    split at hloop
    · rename_i hstops
      cases hloop
      refine ⟨hreleased, ?_⟩
      cases hqueue : c'.pendingFrames with
      | nil => exact .inr ⟨rfl, hstops.resolve_left (not_not.mpr hqueue)⟩
      | cons f frames =>
        rw [hqueue] at hpending
        have hhead := List.head_dropWhile_not (due cutoffUs) (l := c.pendingFrames)
          (by rw [← hpending]; exact List.cons_ne_nil f frames)
        exact .inl ⟨f, frames, rfl, by simpa only [← hpending, List.head_cons] using hhead⟩
    · exact ih hloop (hread c₁ hreleased)

/-- Filling to a cutoff at which everything applied is due. -/
lemma fillUntil_filled {c : PlaybackController} {s : ArchiveStream} {fed : Bytes} {timeS : ℚ}
    (h : Reads crc32 c s fed) (hdue : ∀ f ∈ c.applied, due (c.cutoff R timeS) f = true) :
    Kept c (c.fillUntil R crc32 timeS) ∧
      Filled crc32 (c.cutoff R timeS) s.content (c.fillUntil R crc32 timeS) := by
  have hpasses : (if c.eof then 0 else c.unread + 1) < c.unread + 2 := by split <;> omega
  obtain ⟨c', hloop⟩ := fillLoop_ends crc32 (c.cutoff R timeS) hpasses
  have hfill : c.fillUntil R crc32 timeS = c' := by rw [fillUntil, hloop]; rfl
  rw [hfill]
  obtain ⟨⟨hkept, ⟨s', fed', hs', hreads⟩, happlied⟩, hends⟩ := fillLoop_rule
    (P := fun c' => Kept c c' ∧ (∃ s' fed', s'.content = s.content ∧ Reads crc32 c' s' fed') ∧
      ∀ f ∈ c'.applied, due (c.cutoff R timeS) f = true)
    (fun c₁ ⟨hkept, ⟨s', fed', hs', hreads⟩, happlied⟩ => by
      refine ⟨hkept.trans (kept_release _ _ _), ⟨s', fed', hs', hreads.release _⟩, ?_⟩
      rw [release_eq]
      intro f hf
      rcases List.mem_append.mp hf with hf | hf
      · exact happlied f hf
      · exact List.mem_takeWhile_imp hf)
    (fun c₁ ⟨hkept, ⟨s', fed', hs', hreads⟩, happlied⟩ => by
      refine ⟨hkept.trans (kept_readBlock crc32 c₁), ?_, ?_⟩
      · rcases hreads.readBlock with ⟨-, hreads, -⟩ | ⟨s'', fed'', hs'', -, hreads⟩
        · exact ⟨s', fed', hs', hreads⟩
        · exact ⟨s'', fed'', hs''.trans hs', hreads⟩
      · rw [applied_readBlock]
        exact happlied)
    hloop ⟨⟨rfl, rfl, rfl, rfl, rfl, rfl⟩, ⟨s, fed, rfl, h⟩, hdue⟩
  exact ⟨hkept, ⟨s', fed', hs', hreads⟩, happlied, hends⟩

/-- When filling has ended, the applied frames are the longest due run of the sensor frames from the
restart offset. -/
lemma Filled.applied_eq {cutoffUs : ℚ} {content : Bytes} {c : PlaybackController}
    (h : Filled crc32 cutoffUs content c) :
    c.applied = (sensorFrames crc32 (content.drop c.restartOffset)).takeWhile (due cutoffUs) := by
  obtain ⟨s, fed, hs, hreads⟩ := h.reads
  rw [← hs, hreads.content]
  rcases h.ends with ⟨f, frames, hqueue, hlate⟩ | ⟨hqueue, hend⟩
  · rw [sensorFrames_append, hreads.frames, List.append_assoc,
      List.takeWhile_append_of_pos h.applied, hqueue, List.cons_append,
      List.takeWhile_cons_of_neg (by rw [hlate]; exact Bool.false_ne_true), List.append_nil]
  · rw [hreads.eof hend, List.append_nil, hreads.frames, hqueue, List.append_nil,
      List.takeWhile_eq_self_iff.mpr h.applied]

/-- A duration is not negative. -/
lemma durationS_nonneg (ix : PlaybackIndex) : 0 ≤ ix.durationS R := by
  unfold PlaybackIndex.durationS
  split
  · rfl
  · rename_i hlt
    apply R.round_nonneg
    apply div_nonneg
    · exact R.round_nonneg (sub_nonneg.mpr (not_le.mp hlt).le)
    · norm_num

/-- It is a number of the format. -/
lemma durationS_exact (ix : PlaybackIndex) : R.Exact (ix.durationS R) := by
  unfold PlaybackIndex.durationS
  split
  · exact R.exact_zero
  · exact R.exact_round _

/-- A later time has no earlier cutoff. -/
lemma cutoffUs_mono (ix : PlaybackIndex) {s t : ℚ} (h : s ≤ t) :
    cutoffUs R ix s ≤ cutoffUs R ix t := by
  apply R.mono
  apply add_le_add le_rfl
  apply R.mono
  exact mul_le_mul_of_nonneg_right h (by norm_num)

/-- What is due at a time is due later. -/
lemma due_mono {a b : ℚ} (h : a ≤ b) {f : Frame} (hf : due a f = true) : due b f = true :=
  decide_eq_true ((of_decide_eq_true hf).trans h)

/-- A playback of an open archive: the playhead is inside, and what is applied is due at it. -/
structure Loaded (R : Rounding) (crc32 : Bytes → UInt32) (c : PlaybackController)
    (ix : PlaybackIndex) (s : ArchiveStream) (fed : Bytes) : Prop where
  index : c.index = some ix
  reads : Reads crc32 c s fed
  playhead_le : c.playheadS ≤ ix.durationS R
  playhead_exact : R.Exact c.playheadS
  applied : ∀ f ∈ c.applied, due (cutoffUs R ix c.playheadS) f = true

/-- What holds of a playback controller between two operations. -/
structure Ready (R : Rounding) (crc32 : Bytes → UInt32) (c : PlaybackController) : Prop where
  speed_pos : 0 < c.speed
  parser : c.parser.resetSession = {}
  loaded : c.index = none ∨ ∃ ix s fed, Loaded R crc32 c ix s fed

variable {R}

/-- A restart begins a new reading. -/
lemma reads_restartDecoder {c : PlaybackController} {ix : PlaybackIndex} {s : ArchiveStream}
    (hindex : c.index = some ix) (hstream : c.stream = some s)
    (hparser : c.parser.resetSession = {}) (hstore : c.store.chunks = []) (timeS : ℚ) :
    Reads crc32 (c.restartDecoder R timeS) { s with position := ix.offsetForTime R timeS } [] ∧
      c.restartDecoder R timeS = { c with
        stream := some { s with position := ix.offsetForTime R timeS }
        parser := {}
        pendingFrames := []
        eof := false
        restartOffset := ix.offsetForTime R timeS
        restartStore := c.store
        applied := [] } := by
  have heq : c.restartDecoder R timeS = { c with
      stream := some { s with position := ix.offsetForTime R timeS }
      parser := {}
      pendingFrames := []
      eof := false
      restartOffset := ix.offsetForTime R timeS
      restartStore := c.store
      applied := [] } := by
    unfold PlaybackController.restartDecoder
    rw [hindex, hstream]
    dsimp only
    rw [hparser]
  refine ⟨?_, heq⟩
  rw [heq]
  exact ⟨rfl, rfl, rfl, rfl, nofun, rfl, hstore⟩

/-- When filling to the playhead has ended, the controller is ready again. -/
lemma Filled.ready {c : PlaybackController} {ix : PlaybackIndex} {content : Bytes}
    (h : Filled crc32 (cutoffUs R ix c.playheadS) content c) (hindex : c.index = some ix)
    (hspeed : 0 < c.speed) (hle : c.playheadS ≤ ix.durationS R) (hexact : R.Exact c.playheadS) :
    Ready R crc32 c := by
  obtain ⟨s, fed, -, hreads⟩ := h.reads
  refine ⟨hspeed, ?_, .inr ⟨ix, s, fed, hindex, hreads, hle, hexact, h.applied⟩⟩
  rw [hreads.parser]
  exact resetSession_feed crc32 fed

/-- What filling to the playhead leaves. -/
structure Arrived (R : Rounding) (crc32 : Bytes → UInt32) (c : PlaybackController)
    (ix : PlaybackIndex) (content : Bytes) : Prop where
  index : c.index = some ix
  filled : Filled crc32 (cutoffUs R ix c.playheadS) content c
  ready : Ready R crc32 c

/-- Filling to the playhead, when everything applied is due at it. -/
lemma arrived_fillUntil {c : PlaybackController} {ix : PlaybackIndex} {s : ArchiveStream}
    {fed : Bytes} {timeS : ℚ} (hreads : Reads crc32 c s fed) (hindex : c.index = some ix)
    (htime : c.playheadS = timeS) (hdue : ∀ f ∈ c.applied, due (cutoffUs R ix timeS) f = true)
    (hspeed : 0 < c.speed) (hle : timeS ≤ ix.durationS R) (hexact : R.Exact timeS) :
    Kept c (c.fillUntil R crc32 timeS) ∧
      Arrived R crc32 (c.fillUntil R crc32 timeS) ix s.content := by
  have hcutoff : c.cutoff R timeS = cutoffUs R ix timeS := by
    rw [PlaybackController.cutoff, hindex]
  obtain ⟨hkept, hfilled⟩ := fillUntil_filled R hreads (by rw [hcutoff]; exact hdue)
  have hplayhead : (c.fillUntil R crc32 timeS).playheadS = timeS := hkept.playheadS.trans htime
  have hindex' := hkept.index.trans hindex
  have hfilled' : Filled crc32 (cutoffUs R ix (c.fillUntil R crc32 timeS).playheadS) s.content
      (c.fillUntil R crc32 timeS) := by
    rw [hplayhead, ← hcutoff]
    exact hfilled
  refine ⟨hkept, hindex', hfilled', hfilled'.ready hindex' ?_ ?_ ?_⟩
  · rw [hkept.speed]
    exact hspeed
  · rw [hplayhead]
    exact hle
  · rw [hplayhead]
    exact hexact

/-- Behind a seek what is due is applied. -/
lemma arrived_seek {c : PlaybackController} {ix : PlaybackIndex} {s : ArchiveStream} {fed : Bytes}
    (hready : Ready R crc32 c) (h : Loaded R crc32 c ix s fed) (timeS : ℚ) (window : Option ℚ) :
    Arrived R crc32 (c.seek R crc32 timeS window) ix s.content := by
  unfold PlaybackController.seek
  rw [h.index]
  dsimp only
  generalize htarget : min (max 0 (R.round timeS)) (ix.durationS R) = target
  -- the restart of the controller that `seek` has moved and cleared
  obtain ⟨hreads, heq⟩ := reads_restartDecoder (c := { c with
    index := some ix, playheadS := target, store := c.store.clearSamples }) (R := R) rfl
      h.reads.stream hready.parser rfl (max 0 (R.round (target - windowSeconds window)))
  generalize PlaybackController.restartDecoder R _
    (max 0 (R.round (target - windowSeconds window))) = restarted at hreads heq ⊢
  have hexact : R.Exact target := by
    rw [← htarget]
    exact (R.exact_zero.max (R.exact_round timeS)).min (durationS_exact R ix)
  have happlied : restarted.applied = [] := by rw [heq]
  refine (arrived_fillUntil hreads ?_ ?_ ?_ ?_ (htarget ▸ min_le_right _ _) hexact).2
  · rw [heq]
  · rw [heq]
  · rw [happlied]
    exact nofun
  · rw [heq]
    exact hready.speed_pos

/-- A tick moves the playhead forward, if at all. -/
lemma playhead_le_advanced {c : PlaybackController} (hspeed : 0 < c.speed)
    (hexact : R.Exact c.playheadS) (nowS : ℚ) : c.playheadS ≤ c.advanced R nowS := by
  apply hexact.le_round_add
  apply R.round_nonneg
  exact mul_nonneg (le_max_left _ _) hspeed.le

/-- A tick fills to the advanced playhead, and then may stop playing. -/
lemma tick_filled {c : PlaybackController} {ix : PlaybackIndex} {s : ArchiveStream} {fed : Bytes}
    (hready : Ready R crc32 c) (h : Loaded R crc32 c ix s fed) (nowS : ℚ) :
    ∃ c', Arrived R crc32 c' ix s.content ∧
      c'.playheadS = min (c.advanced R nowS) (ix.durationS R) ∧
      c'.restartOffset = c.restartOffset ∧ c'.playing = c.playing ∧
      c.tick R crc32 nowS =
        if R.round (ix.durationS R - endEpsilonS R) ≤ c.advanced R nowS ∧ c'.eof ∧
            c'.pendingFrames = [] then
          { c' with playing := false }
        else c' := by
  generalize htarget : min (c.advanced R nowS) (ix.durationS R) = target
  have hforward : c.playheadS ≤ target := by
    rw [← htarget]
    exact le_min (playhead_le_advanced hready.speed_pos h.playhead_exact nowS) h.playhead_le
  have hexact : R.Exact target := by
    rw [← htarget]
    exact (R.exact_round _).min (durationS_exact R ix)
  have hreads : Reads crc32 { c with
      index := some ix, lastTickS := nowS, playheadS := target } s fed :=
    ⟨h.reads.stream, h.reads.content, h.reads.parser, h.reads.frames, h.reads.eof, h.reads.store,
      h.reads.cleared⟩
  obtain ⟨hkept, harrived⟩ := arrived_fillUntil hreads (show some ix = some ix from rfl) rfl
    (fun f hf => due_mono (cutoffUs_mono R ix hforward) (h.applied f hf)) hready.speed_pos
    (htarget ▸ min_le_right _ _) hexact
  refine ⟨_, harrived, hkept.playheadS, hkept.restartOffset, hkept.playing, ?_⟩
  unfold PlaybackController.tick
  rw [h.index]
  dsimp only
  rw [htarget]

/-- Playing, the clock of the last tick and the speed do not matter to what has been read. -/
lemma Ready.setPlaying {c : PlaybackController} (h : Ready R crc32 c) (playing : Bool)
    (lastTickS : ℚ) {speed : ℚ} (hspeed : 0 < speed) :
    Ready R crc32 { c with playing, lastTickS, speed } := by
  refine ⟨hspeed, h.parser, h.loaded.imp id ?_⟩
  rintro ⟨ix, s, fed, hl⟩
  exact ⟨ix, s, fed, hl.index, ⟨hl.reads.stream, hl.reads.content, hl.reads.parser,
    hl.reads.frames, hl.reads.eof, hl.reads.store, hl.reads.cleared⟩, hl.playhead_le,
    hl.playhead_exact, hl.applied⟩

/-- Whether the controller plays does not matter to what has been filled. -/
lemma Arrived.setPlaying {c : PlaybackController} {ix : PlaybackIndex} {content : Bytes}
    (h : Arrived R crc32 c ix content) (playing : Bool) :
    Arrived R crc32 { c with playing } ix content := by
  obtain ⟨s, fed, hs, hreads⟩ := h.filled.reads
  have hreads' : Reads crc32 { c with playing } s fed :=
    ⟨hreads.stream, hreads.content, hreads.parser, hreads.frames, hreads.eof, hreads.store,
      hreads.cleared⟩
  exact ⟨h.index, ⟨⟨s, fed, hs, hreads'⟩, h.filled.applied, h.filled.ends⟩,
    h.ready.setPlaying playing c.lastTickS h.ready.speed_pos⟩

/-- So it is behind a tick. -/
lemma arrived_tick {c : PlaybackController} {ix : PlaybackIndex} {s : ArchiveStream} {fed : Bytes}
    (hready : Ready R crc32 c) (h : Loaded R crc32 c ix s fed) (nowS : ℚ) :
    Arrived R crc32 (c.tick R crc32 nowS) ix s.content := by
  obtain ⟨c', harrived, -, -, -, htick⟩ := tick_filled hready h nowS
  rw [htick]
  split
  · exact harrived.setPlaying false
  · exact harrived

/-- A new controller is ready. -/
lemma ready_new : Ready R crc32 {} := ⟨by norm_num, rfl, .inl rfl⟩

/-- Without an archive nothing but the speed matters. -/
lemma Ready.of_unloaded {c : PlaybackController} (hspeed : 0 < c.speed)
    (hparser : c.parser.resetSession = {}) (hindex : c.index = none) : Ready R crc32 c :=
  ⟨hspeed, hparser, .inl hindex⟩

/-- A restart at the start of the archive. -/
lemma ready_restart {c : PlaybackController} {ix : PlaybackIndex} {s : ArchiveStream}
    (hspeed : 0 < c.speed) (hparser : c.parser.resetSession = {}) (hindex : c.index = some ix)
    (hstream : c.stream = some s) (hstore : c.store.chunks = []) (hplayhead : c.playheadS = 0) :
    Ready R crc32 (c.restartDecoder R 0) := by
  obtain ⟨hreads, heq⟩ : Reads crc32 (c.restartDecoder R 0) _ [] ∧ _ :=
    reads_restartDecoder hindex hstream hparser hstore 0
  refine ⟨?_, ?_, .inr ⟨ix, _, [], ?_, hreads, ?_, ?_, ?_⟩⟩
  · rw [heq]
    exact hspeed
  · rw [heq]
    rfl
  · rw [heq]
    exact hindex
  · rw [heq]
    exact hplayhead.le.trans (durationS_nonneg R ix)
  · rw [heq]
    exact (congrArg R.Exact hplayhead).mpr R.exact_zero
  · rw [heq]
    exact nofun

/-- A pause only stops playing. -/
lemma pause_eq (c : PlaybackController) : c.pause = { c with playing := false } := by
  unfold PlaybackController.pause
  split
  · rfl
  · rename_i hplaying
    rw [← Bool.eq_false_iff.mpr hplaying]

/-- Every operation leaves the controller ready. -/
lemma ready_step {c : PlaybackController} (h : Ready R crc32 c) (e : PlaybackEvent) :
    Ready R crc32 (c.step R crc32 e) := by
  have hpaused : Ready R crc32 { c with playing := false } :=
    h.setPlaying false c.lastTickS h.speed_pos
  cases e with
  | load content index =>
    rw [PlaybackController.step, PlaybackController.load, pause_eq]
    exact ready_restart h.speed_pos h.parser rfl rfl rfl rfl
  | play nowS window =>
    rw [PlaybackController.step, PlaybackController.play]
    rcases h.loaded with hindex | ⟨ix, s, fed, hloaded⟩
    · rw [hindex]
      exact h
    · rw [hloaded.index]
      dsimp only
      have hseek := (arrived_seek h hloaded 0 window).ready
      split
      · split
        · exact hseek
        · exact hseek.setPlaying true nowS hseek.speed_pos
      · split
        · exact h
        · exact h.setPlaying true nowS h.speed_pos
  | pause =>
    rw [PlaybackController.step, pause_eq]
    exact hpaused
  | stop =>
    rw [PlaybackController.step, PlaybackController.stop]
    dsimp only
    split
    · exact hpaused
    · rename_i hindex
      rcases h.loaded with hnone | ⟨ix, s, fed, hloaded⟩
      · rw [hnone] at hindex
        cases hindex
      · exact ready_restart h.speed_pos h.parser hindex hloaded.reads.stream rfl rfl
  | seek timeS window =>
    rcases h.loaded with hindex | ⟨ix, s, fed, hloaded⟩
    · rw [PlaybackController.step, PlaybackController.seek, hindex]
      exact h
    · exact (arrived_seek h hloaded timeS window).ready
  | setSpeed speed =>
    rw [PlaybackController.step, PlaybackController.setSpeed]
    split
    · rename_i hallowed
      have hpos : 0 < speed := by
        simp only [allowedSpeeds, List.mem_cons, List.not_mem_nil, or_false] at hallowed
        rcases hallowed with rfl | rfl | rfl | rfl <;> norm_num
      exact h.setPlaying c.playing c.lastTickS hpos
    · exact h
  | tick nowS =>
    rcases h.loaded with hindex | ⟨ix, s, fed, hloaded⟩
    · rw [PlaybackController.step, PlaybackController.tick, hindex, pause_eq]
      exact hpaused
    · exact (arrived_tick h hloaded nowS).ready
  | close =>
    rw [PlaybackController.step, PlaybackController.close, pause_eq]
    exact .of_unloaded h.speed_pos h.parser rfl

/-- A controller is ready behind every run. -/
lemma ready_run (events : List PlaybackEvent) :
    Ready R crc32 (PlaybackController.run R crc32 events) := by
  induction events using List.reverseRecOn with
  | nil => exact ready_new
  | append_singleton events e ih =>
    rw [PlaybackController.run, List.foldl_append]
    exact ready_step ih e

/-- What is applied to the store since the decoder restarted, with an archive loaded: the longest
run of the sensor frames from the restart offset that are due at the playhead. -/
def OnTime (R : Rounding) (crc32 : Bytes → UInt32) (c : PlaybackController) : Prop :=
  ∀ ix s, c.index = some ix → c.stream = some s →
    c.applied = (sensorFrames crc32 (s.content.drop c.restartOffset)).takeWhile
        (fun f => (f.timestampUs : ℚ) ≤
          R.round (ix.firstTimestampUs + R.round (c.playheadS * 1000000))) ∧
      c.store = c.applied.foldl applyFrame c.restartStore ∧ c.restartStore.chunks = []

/-- What has arrived is on time. -/
lemma Arrived.onTime {c : PlaybackController} {ix : PlaybackIndex} {content : Bytes}
    (h : Arrived R crc32 c ix content) : OnTime R crc32 c := by
  intro ix' s hindex hstream
  obtain ⟨s', fed, hs, hreads⟩ := h.filled.reads
  have happlied := h.filled.applied_eq
  rw [← hs] at happlied
  rw [h.index] at hindex
  rw [hreads.stream] at hstream
  cases hindex
  cases hstream
  exact ⟨happlied, hreads.store, hreads.cleared⟩

/-- After every run that ends with a seek or a tick, the playback has applied each due sensor frame
once and in order; and the loop of `_fill_until` always ends. -/
theorem playback_on_time (R : Rounding) (crc32 : Bytes → UInt32) :
    (∀ events timeS window,
      OnTime R crc32 (PlaybackController.run R crc32 (events ++ [.seek timeS window]))) ∧
      (∀ events nowS, OnTime R crc32 (PlaybackController.run R crc32 (events ++ [.tick nowS]))) ∧
      ∀ (c : PlaybackController) timeS,
        fillLoop crc32 (c.cutoff R timeS) (c.unread + 2) c = some (c.fillUntil R crc32 timeS) := by
  refine ⟨?_, ?_, ?_⟩
  · intro events timeS window
    have hready : Ready R crc32 (PlaybackController.run R crc32 events) := ready_run events
    rw [PlaybackController.run, List.foldl_append]
    change OnTime R crc32
      ((PlaybackController.run R crc32 events).seek R crc32 timeS window)
    rcases hready.loaded with hindex | ⟨ix, s, fed, hloaded⟩
    · intro ix s hindex'
      rw [PlaybackController.seek, hindex] at hindex'
      rw [hindex] at hindex'
      cases hindex'
    · exact (arrived_seek hready hloaded timeS window).onTime
  · intro events nowS
    have hready : Ready R crc32 (PlaybackController.run R crc32 events) := ready_run events
    rw [PlaybackController.run, List.foldl_append]
    change OnTime R crc32 ((PlaybackController.run R crc32 events).tick R crc32 nowS)
    rcases hready.loaded with hindex | ⟨ix, s, fed, hloaded⟩
    · intro ix s hindex'
      rw [PlaybackController.tick, hindex, pause_eq] at hindex'
      rw [hindex] at hindex'
      cases hindex'
    · exact (arrived_tick hready hloaded nowS).onTime
  · intro c timeS
    have hpasses : (if c.eof then 0 else c.unread + 1) < c.unread + 2 := by split <;> omega
    obtain ⟨c', hloop⟩ := fillLoop_ends crc32 (c.cutoff R timeS) hpasses
    rw [fillUntil, hloop]
    rfl

/-- The file has been read to its end with an empty queue exactly if all its sensor frames from the
restart offset on are due. -/
lemma Filled.ends_iff {cutoffUs : ℚ} {content : Bytes} {c : PlaybackController}
    (h : Filled crc32 cutoffUs content c) :
    (c.eof = true ∧ c.pendingFrames = []) ↔
      ∀ f ∈ sensorFrames crc32 (content.drop c.restartOffset), due cutoffUs f = true := by
  obtain ⟨s, fed, hs, hreads⟩ := h.reads
  rw [← hs, hreads.content]
  constructor
  · rintro ⟨hend, hqueue⟩
    rw [hreads.eof hend, List.append_nil, hreads.frames, hqueue, List.append_nil]
    exact h.applied
  · intro hall
    rcases h.ends with ⟨f, frames, hqueue, hlate⟩ | ⟨hqueue, hend⟩
    · have hmem : f ∈ sensorFrames crc32 (fed ++ s.rest) := by
        rw [sensorFrames_append, hreads.frames, hqueue]
        simp
      rw [hall f hmem] at hlate
      cases hlate
    · exact ⟨hend, hqueue⟩

/-- A tick whose playhead reaches the duration stops a playback exactly if every sensor frame from
the restart offset on is due at the duration. -/
lemma tick_playing_iff {c : PlaybackController} {ix : PlaybackIndex} {s : ArchiveStream}
    {fed : Bytes} (hready : Ready R crc32 c) (h : Loaded R crc32 c ix s fed)
    (hplaying : c.playing = true) {nowS : ℚ} (hreaches : ix.durationS R ≤ c.advanced R nowS) :
    (c.tick R crc32 nowS).playing = false ↔
      ∀ f ∈ sensorFrames crc32 (s.content.drop c.restartOffset),
        (f.timestampUs : ℚ) ≤ cutoffUs R ix (ix.durationS R) := by
  obtain ⟨c', harrived, hplayhead, hoffset, hplaying', htick⟩ := tick_filled hready h nowS
  rw [min_eq_right hreaches] at hplayhead
  have hend : R.round (ix.durationS R - endEpsilonS R) ≤ c.advanced R nowS := by
    have hepsilon : 0 ≤ endEpsilonS R := R.round_nonneg (by norm_num)
    calc R.round (ix.durationS R - endEpsilonS R)
        ≤ R.round (ix.durationS R) := R.mono (sub_le_self _ hepsilon)
      _ = ix.durationS R := durationS_exact R ix
      _ ≤ c.advanced R nowS := hreaches
  have hends := harrived.filled.ends_iff
  rw [hplayhead, hoffset] at hends
  have hdue : (∀ f ∈ sensorFrames crc32 (s.content.drop c.restartOffset),
      (f.timestampUs : ℚ) ≤ cutoffUs R ix (ix.durationS R)) ↔ c'.eof = true ∧ c'.pendingFrames = [] := by
    rw [hends]
    exact forall₂_congr fun f _ => decide_eq_true_iff.symm
  rw [hdue, htick]
  constructor
  · intro hstopped
    by_contra hnot
    rw [if_neg (fun hall => hnot hall.2), hplaying', hplaying] at hstopped
    cases hstopped
  · intro hdone
    rw [if_pos ⟨hend, hdone⟩]

/-- In every run, a tick whose playhead reaches the duration of the archive stops the playback
exactly if no sensor frame from the last restart on is stamped later than the cutoff there. -/
theorem playback_ends_iff (R : Rounding) (crc32 : Bytes → UInt32) (events : List PlaybackEvent)
    (nowS : ℚ) :
    let c := PlaybackController.run R crc32 events
    ∀ ix s, c.index = some ix → c.stream = some s → c.playing = true →
      ix.durationS R ≤ c.advanced R nowS →
        ((c.tick R crc32 nowS).playing = false ↔
          ∀ f ∈ sensorFrames crc32 (s.content.drop c.restartOffset),
            (f.timestampUs : ℚ) ≤ cutoffUs R ix (ix.durationS R)) := by
  intro c ix s hindex hstream hplaying hreaches
  have hready : Ready R crc32 c := ready_run events
  rcases hready.loaded with hnone | ⟨ix', s', fed, hloaded⟩
  · rw [hnone] at hindex
    cases hindex
  · rw [hloaded.index] at hindex
    rw [hloaded.reads.stream] at hstream
    cases hindex
    cases hstream
    exact tick_playing_iff hready hloaded hplaying hreaches

/-- A playback of one IIS frame stops. -/
theorem playback_ends_iff_one :
    let content := bytesOf [iisFrame 1000 (by decide)]
    let c := PlaybackController.run .exact zlibCrc32
      [.load content (buildPlaybackIndex .exact content), .play 0 none]
    (c.tick .exact zlibCrc32 10).playing = false := by
  intro content c
  have hends := playback_ends_iff .exact zlibCrc32
    [.load content (buildPlaybackIndex .exact content), .play 0 none] 10
    (buildPlaybackIndex .exact content) { content, position := 39 } (by decide +kernel)
    (by decide +kernel) (by decide +kernel) (by decide +kernel)
  exact hends.mpr (by decide +kernel)

/-- A JY61PL frame. -/
def jyFrame (timestampUs : Nat) (h : timestampUs < 2 ^ 64) : ValidFrame zlibCrc32 where
  bytes := encodeFrameV1 zlibCrc32 .jy61plSample 0 1 timestampUs 1 (List.replicate 14 0)
  takes := takes_encodeFrameV1 (by decide) (by decide) h (by decide) (by decide)
  emits := emits_encodeFrameV1 (by decide) (by decide) h (by decide) (by decide)
    (.inr ⟨rfl, rfl, rfl⟩)

/-- An orientation frame behind the last IIS frame stays pending, and the playback goes on. -/
theorem playback_goes_on :
    let frames := [iisFrame 1000 (by decide), jyFrame 2000 (by decide)]
    let c := PlaybackController.run .exact zlibCrc32
      [.load (bytesOf frames) (buildPlaybackIndex .exact (bytesOf frames)), .play 0 none]
    c.playing = true ∧ c.durationS .exact ≤ c.advanced .exact 10 ∧
      (c.tick .exact zlibCrc32 10).playing = true := by
  decide +kernel

end SensorHost.Presentation
