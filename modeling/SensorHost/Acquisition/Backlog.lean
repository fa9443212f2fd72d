import SensorHost.Acquisition.HandOff
import SensorHost.Lib.Crc32
import SensorHost.Lib.Runs
import SensorHost.Protocol.Valid

/-!
# Gaps in the backlog

A live frame that does not fit into the backlog is left out, and a smaller one behind it is taken again,
which leaves a gap. In a run where every frame behind one left out does not fit either, the backlog is a
front of what was handled since the deferral began, and such runs are the only ones
(`backlog_front_iff`).

`GapFree` is what the claim says of one state: the backlog is a front, and what comes first behind
it has no room. The condition on the run, `Sticks`, is about the state before a frame and the length
of the frame. That it is enough is an invariant (`Sound.step`); that it is necessary is shown at the
first frame that violates it, behind which the backlog has a gap (`Sound.step_refused`). The run of
the counterexample has frames of the greatest length up to the real bound, so it is given by lemmas
on its three parts and not computed.
-/

namespace SensorHost.Acquisition
open SensorHost.Lib SensorHost.Protocol SensorHost.Storage

namespace HandOff

/-- The frame is recorded or deferred: it is no archive frame and has no other identity. -/
def Live (s : HandOff) (frame : Frame) : Prop :=
  frame.archiveExport = false ∧
    AcquisitionController.Accepts s.controller.deviceUuid frame.deviceUuid

/-- While recording is deferred, some of what was handled since is not in the backlog. -/
def Refused (s : HandOff) : Prop :=
  s.controller.recorder = none ∧
    ∃ log, s.since = some log ∧ s.controller.deferredRecordingFrames ≠ log

/-- While recording is deferred, the backlog is a front of what was handled since. -/
def Front (s : HandOff) : Prop :=
  s.controller.recorder = none → ∀ log, s.since = some log →
    s.controller.deferredRecordingFrames <+: log

/-- Behind a frame that was left out nothing is added to the backlog. -/
def Sticky (s : HandOff) : HandOffEvent → Prop
  | .frame frame => s.Refused → s.Live frame →
    (s.step (.frame frame)).controller.deferredRecordingFrames =
      s.controller.deferredRecordingFrames
  | _ => True

/-- Behind a frame that was left out no frame comes that fits. -/
def Sticks (s : HandOff) : HandOffEvent → Prop
  | .frame frame => s.Refused → s.Live frame →
    deferredRecordingCapacityBytes <
      s.controller.deferredRecordingBytes + frame.rawBytes.length
  | _ => True

end HandOff

/-- The backlog is a front of what was handled since, and what comes first behind it has no room. -/
structure GapFree (p : AcquisitionController.Filing) (since : Option (List Bytes)) : Prop where
  front : p.recorder = none → ∀ log, since = some log → p.deferred <+: log
  full : p.recorder = none → ∀ bytes rest, since = some (p.deferred ++ bytes :: rest) →
    deferredRecordingCapacityBytes < p.deferredBytes + bytes.length

variable {p p' : AcquisitionController.Filing} {since : Option (List Bytes)}
  {recorders R : Recorders} {frame : Frame}

/-- Nothing was handled since, or there is a recorder. -/
lemma gapFree_idle (h : p.recorder = none → since = none) : GapFree p since where
  front := fun hfree _ hlog => nomatch (h hfree).symm.trans hlog
  full := fun hfree _ _ hlog => nomatch (h hfree).symm.trans hlog

/-- A deferral that begins. -/
lemma gapFree_nil (h : p.deferred = []) : GapFree p (some []) where
  front := by
    rintro - log hlog
    cases hlog
    rw [h]
  full := by
    rintro - bytes rest hlog
    rw [h] at hlog
    cases hlog

/-- A live frame that is deferred, where none was left out. -/
lemma gapFree_defers {log : List Bytes} (hlog : since = some log) (hwhole : p.deferred = log)
    (bytes : Bytes) :
    GapFree { p with
      deferred := p.deferred ++ [bytes]
      deferredBytes := p.deferredBytes + bytes.length } (since.map (· ++ [bytes])) where
  front := by
    rintro - log' hlog'
    rw [hlog] at hlog'
    cases hlog'
    rw [hwhole]
  full := by
    rintro - next rest hlog'
    rw [hlog, hwhole] at hlog'
    exact absurd (congrArg List.length (Option.some.inj hlog')) (by simp)

/-- A live frame that is left out. -/
lemma GapFree.overflow (h : GapFree p since) (hfree : p.recorder = none) {bytes : Bytes}
    (hfull : deferredRecordingCapacityBytes < p.deferredBytes + bytes.length) :
    GapFree p (since.map (· ++ [bytes])) where
  front := by
    rintro - log' hlog'
    obtain ⟨log, hlog, rfl⟩ := Option.map_eq_some_iff.mp hlog'
    exact (h.front hfree log hlog).trans (List.prefix_append log [bytes])
  full := by
    rintro - next rest hlog'
    obtain ⟨log, hlog, heq⟩ := Option.map_eq_some_iff.mp hlog'
    obtain ⟨later, rfl⟩ := h.front hfree log hlog
    rw [List.append_assoc, List.append_cancel_left_eq] at heq
    cases later with
    | nil =>
      cases heq
      exact hfull
    | cons first later =>
      obtain ⟨rfl, -⟩ := List.cons.inj heq
      exact h.full hfree first later hlog

/-- Where the bytes of a frame go, no gap comes up. -/
lemma GapFree.routes (h : GapFree p since) (keeping : Keeping p since)
    (hroutes : AcquisitionController.Routes p recorders frame p' R)
    (hsticks : frame.archiveExport = false → p.recorder = none → ∀ log, since = some log →
      p.deferred ≠ log → deferredRecordingCapacityBytes < p.deferredBytes + frame.rawBytes.length) :
    GapFree p' (if frame.archiveExport then since else since.map (· ++ [frame.rawBytes])) := by
  cases hroutes with
  | unarchived archive _ =>
    rw [if_pos archive]
    exact h
  | archiveRaises archive _ _ =>
    rw [if_pos archive]
    exact ⟨h.front, h.full⟩
  | archived archive _ _ =>
    rw [if_pos archive]
    exact ⟨h.front, h.full⟩
  | recordRaises _ attached _ => exact gapFree_idle fun hfree => nomatch hfree.symm.trans attached
  | recorded _ attached _ => exact gapFree_idle fun hfree => nomatch hfree.symm.trans attached
  | deferred live free defers fits =>
    rw [live]
    cases hsince : since with
    | none => exact gapFree_idle fun _ => rfl
    | some log =>
      by_cases hwhole : p.deferred = log
      · exact gapFree_defers rfl hwhole frame.rawBytes
      · exact absurd fits (not_le.mpr (hsticks live free log hsince hwhole))
  | overflow live free _ full =>
    rw [live]
    exact h.overflow free full
  | unrecorded live free idle =>
    rw [live]
    have hnone : since = none := by
      refine Option.not_isSome_iff_eq_none.mp fun hsome => ?_
      exact absurd (idle.symm.trans (keeping.deferring hsome free)) Bool.false_ne_true
    rw [hnone]
    exact gapFree_idle fun _ => rfl

namespace HandOff

/-- The controller keeps its backlog, and the backlog has no gap. -/
structure Sound (s : HandOff) : Prop where
  keeping : Keeping s.controller.filing s.since
  gapFree : GapFree s.controller.filing s.since

/-- A step that leaves no gap keeps the backlog without one. -/
lemma Sound.step {s : HandOff} (h : s.Sound) {e : HandOffEvent} (hsticks : s.Sticks e) :
    (s.step e).Sound := by
  obtain ⟨keeping, gapFree⟩ := h
  refine ⟨keeping.step e, ?_⟩
  cases e with
  | frame frame =>
    rw [step_frame_since]
    have hfiles := s.controller.handleFrame_files s.recorders frame
    have hcontroller : (s.step (.frame frame)).controller =
        (s.controller.handleFrame s.recorders frame).1 := rfl
    rw [hcontroller]
    generalize (s.controller.handleFrame s.recorders frame).1.filing = p' at hfiles ⊢
    generalize (s.controller.handleFrame s.recorders frame).2.1 = R at hfiles
    cases hfiles with
    | refused contradicts =>
      rw [if_neg contradicts]
      exact gapFree
    | routed known routes =>
      rw [if_pos known]
      -- the condition is asked for only where the frame goes to the backlog
      refine gapFree.routes keeping routes fun live free log hlog hne => ?_
      exact hsticks ⟨free, log, hlog, hne⟩ ⟨live, known⟩
  | defer =>
    unfold HandOff.step AcquisitionController.deferRecordingUntilIdentity
    dsimp only
    cases hrecorder : s.controller.recorder with
    | some id => exact gapFree_idle fun hfree => nomatch hfree.symm.trans hrecorder
    | none =>
      cases hsince : s.since with
      -- deferring begins a log, or goes on with the one there is
      | none => exact gapFree_nil (keeping.idle hsince).2.2
      | some log =>
        rw [hsince] at gapFree
        exact ⟨fun _ => gapFree.front hrecorder, fun _ => gapFree.full hrecorder⟩
  | cancel =>
    unfold HandOff.step
    dsimp only
    split
    · rename_i hsome
      refine gapFree_idle fun hfree => ?_
      have hfree : s.controller.recorder = none := hfree
      rw [hfree] at hsome
      cases hsome
    · exact gapFree_idle fun _ => rfl
  | setRecorder id passes =>
    cases id with
    | none => exact gapFree_idle fun _ => rfl
    | some id =>
      obtain ⟨lastError, heq⟩ := setRecorderAmid_some s.controller s.recorders passes id
      unfold HandOff.step
      dsimp only
      rw [heq]
      exact gapFree_idle fun hfree => nomatch hfree
  | setArchiveRecorder id => exact ⟨gapFree.front, gapFree.full⟩
  | writer id outcome => exact gapFree

/-- At its start a session has no gap. -/
lemma sound_start (recorders : Recorders) : (start recorders).Sound :=
  ⟨keeping_none rfl rfl rfl rfl, gapFree_idle fun _ => rfl⟩

/-- A live frame that comes while recording is deferred is taken if it fits, and else is left out. -/
lemma step_deferring {s : HandOff} (hfree : s.controller.recorder = none)
    (hdefers : s.controller.deferRecording = true) {frame : Frame} (hlive : s.Live frame) :
    (s.controller.deferredRecordingBytes + frame.rawBytes.length ≤ deferredRecordingCapacityBytes ∧
      (s.step (.frame frame)).controller.filing = { s.controller.filing with
        deferred := s.controller.deferredRecordingFrames ++ [frame.rawBytes]
        deferredBytes := s.controller.deferredRecordingBytes + frame.rawBytes.length }) ∨
    (deferredRecordingCapacityBytes < s.controller.deferredRecordingBytes + frame.rawBytes.length ∧
      (s.step (.frame frame)).controller.filing = s.controller.filing) := by
  have hfiles := s.controller.handleFrame_files s.recorders frame
  have hfiling : (s.step (.frame frame)).controller.filing =
      (s.controller.handleFrame s.recorders frame).1.filing := rfl
  rw [hfiling]
  generalize (s.controller.handleFrame s.recorders frame).1.filing = p' at hfiles ⊢
  generalize (s.controller.handleFrame s.recorders frame).2.1 = R at hfiles
  cases hfiles with
  | refused contradicts => exact absurd hlive.2 contradicts
  | routed _ routes =>
    cases routes with
    | unarchived archive _ => exact absurd (hlive.1.symm.trans archive) Bool.false_ne_true
    | archiveRaises archive _ _ => exact absurd (hlive.1.symm.trans archive) Bool.false_ne_true
    | archived archive _ _ => exact absurd (hlive.1.symm.trans archive) Bool.false_ne_true
    | recordRaises _ attached _ => cases hfree.symm.trans attached
    | recorded _ attached _ => cases hfree.symm.trans attached
    | deferred _ _ _ fits => exact .inl ⟨fits, rfl⟩
    | overflow _ _ _ full => exact .inr ⟨full, rfl⟩
    | unrecorded _ _ idle => exact absurd (hdefers.symm.trans idle) Bool.false_ne_true.symm

/-- A live frame is among what was handled since the deferral began. -/
lemma step_live_since {s : HandOff} {frame : Frame} (hlive : s.Live frame) :
    (s.step (.frame frame)).since = s.since.map (· ++ [frame.rawBytes]) := by
  rw [step_frame_since, if_pos hlive.2, hlive.1]
  rfl

/-- A live frame that comes while one is left out already. -/
lemma Sound.step_refused {s : HandOff} (h : s.Sound) (hrefused : s.Refused) {frame : Frame}
    (hlive : s.Live frame) :
    (s.step (.frame frame)).controller.recorder = none ∧
      ((s.controller.deferredRecordingBytes + frame.rawBytes.length ≤
          deferredRecordingCapacityBytes ∧
        (s.step (.frame frame)).controller.deferredRecordingFrames =
          s.controller.deferredRecordingFrames ++ [frame.rawBytes]) ∨
      (deferredRecordingCapacityBytes <
          s.controller.deferredRecordingBytes + frame.rawBytes.length ∧
        (s.step (.frame frame)).controller.deferredRecordingFrames =
          s.controller.deferredRecordingFrames)) := by
  obtain ⟨hfree, log, hlog, -⟩ := hrefused
  have hdefers : s.controller.deferRecording = true :=
    h.keeping.deferring (by rw [hlog]; rfl) hfree
  obtain ⟨fits, hfiling⟩ | ⟨full, hfiling⟩ := step_deferring hfree hdefers hlive
  · have hrecorder := congrArg AcquisitionController.Filing.recorder hfiling
    exact ⟨hrecorder.trans hfree,
      .inl ⟨fits, congrArg AcquisitionController.Filing.deferred hfiling⟩⟩
  · have hrecorder := congrArg AcquisitionController.Filing.recorder hfiling
    exact ⟨hrecorder.trans hfree,
      .inr ⟨full, congrArg AcquisitionController.Filing.deferred hfiling⟩⟩

/-- Where there is no gap yet, the frames behind one left out do not fit exactly when they are left
out. -/
lemma Sound.sticky_iff {s : HandOff} (h : s.Sound) (e : HandOffEvent) :
    s.Sticky e ↔ s.Sticks e := by
  cases e with
  | frame frame =>
    refine forall_congr' fun hrefused => forall_congr' fun hlive => ?_
    obtain ⟨-, ⟨fits, htook⟩ | ⟨full, hleft⟩⟩ := h.step_refused hrefused hlive
    · rw [htook, List.append_right_eq_self]
      exact ⟨fun heq => absurd heq (List.cons_ne_nil _ _), fun hfull => absurd fits (not_le.mpr hfull)⟩
    · exact iff_of_true hleft full
  | _ => exact Iff.rfl

/-- Where there is no gap yet and none comes up, the frame behind one left out does not fit. -/
lemma Sound.sticks {s : HandOff} (h : s.Sound) {e : HandOffEvent} (hfront : (s.step e).Front) :
    s.Sticks e := by
  cases e with
  | frame frame =>
    intro hrefused hlive
    obtain ⟨hfree', ⟨fits, htook⟩ | ⟨full, -⟩⟩ := h.step_refused hrefused hlive
    · obtain ⟨hfree, log, hlog, hne⟩ := hrefused
      obtain ⟨rest, rfl⟩ := h.gapFree.front hfree log hlog
      have hsince : (s.step (.frame frame)).since =
          some (s.controller.deferredRecordingFrames ++ rest ++ [frame.rawBytes]) := by
        rw [step_live_since hlive, hlog]
        rfl
      have hprefix := hfront hfree' _ hsince
      rw [htook, List.append_assoc, List.prefix_append_right_inj] at hprefix
      cases rest with
      | nil => exact absurd (List.append_nil _).symm hne
      | cons first rest =>
        -- the frame is the one left out first, which did not fit into the same backlog
        obtain ⟨rfl, -⟩ := List.cons_prefix_cons.mp hprefix
        exact absurd fits (not_le.mpr (h.gapFree.full hfree frame.rawBytes rest hlog))
    · exact full
  | _ => exact trivial

/-- The backlog is a front of what was handled since the deferral began, in every state of a run, exactly
if no frame that fits comes behind one that was left out; and behind one that was left out nothing is
taken exactly if no frame that fits comes there. -/
theorem backlog_front_iff (recorders : Recorders) (events : List HandOffEvent) :
    ((∀ n, ((start recorders).run (events.take n)).Front) ↔
      Along step Sticks (start recorders) events) ∧
    (Along step Sticky (start recorders) events ↔
      Along step Sticks (start recorders) events) := by
  have hkeep : ∀ s e, Sound s → Sticks s e → (step s e).Sound := fun s e h hsticks => h.step hsticks
  refine ⟨?_, ?_⟩
  · refine Along.throughout_iff_of hkeep (fun s h => ?_) (fun s e h => h.sticks)
      (sound_start recorders) events
    exact h.gapFree.front
  · exact (Along.congr_of hkeep (fun s e h => (h.sticky_iff e).symm) (sound_start recorders)
      events).symm

/-- Recording is deferred, with these frames in the backlog and these handled since. -/
structure Deferring (s : HandOff) (kept log : List Bytes) : Prop where
  free : s.controller.recorder = none
  defers : s.controller.deferRecording = true
  frames : s.controller.deferredRecordingFrames = kept
  bytes : s.controller.deferredRecordingBytes = kept.flatten.length
  since : s.since = some log

variable {s : HandOff} {kept log : List Bytes} {frame : Frame}

/-- A frame that fits is taken. -/
lemma Deferring.takes (h : s.Deferring kept log) (hlive : s.Live frame)
    (hfits : kept.flatten.length + frame.rawBytes.length ≤ deferredRecordingCapacityBytes) :
    (s.step (.frame frame)).Deferring (kept ++ [frame.rawBytes]) (log ++ [frame.rawBytes]) := by
  obtain ⟨-, hfiling⟩ | ⟨full, -⟩ := step_deferring h.free h.defers hlive
  · exact {
      free := (congrArg AcquisitionController.Filing.recorder hfiling).trans h.free
      defers := (congrArg AcquisitionController.Filing.deferRecording hfiling).trans h.defers
      frames := by
        rw [← h.frames]
        exact congrArg AcquisitionController.Filing.deferred hfiling
      bytes := by
        rw [List.flatten_append, List.length_append, List.flatten_singleton, ← h.bytes]
        exact congrArg AcquisitionController.Filing.deferredBytes hfiling
      since := by
        rw [step_live_since hlive, h.since]
        rfl }
  · rw [h.bytes] at full
    exact absurd hfits (not_le.mpr full)

/-- One that does not is left. -/
lemma Deferring.leaves (h : s.Deferring kept log) (hlive : s.Live frame)
    (hfull : deferredRecordingCapacityBytes < kept.flatten.length + frame.rawBytes.length) :
    (s.step (.frame frame)).Deferring kept (log ++ [frame.rawBytes]) := by
  obtain ⟨fits, -⟩ | ⟨-, hfiling⟩ := step_deferring h.free h.defers hlive
  · rw [h.bytes] at fits
    exact absurd fits (not_le.mpr hfull)
  · exact {
      free := (congrArg AcquisitionController.Filing.recorder hfiling).trans h.free
      defers := (congrArg AcquisitionController.Filing.deferRecording hfiling).trans h.defers
      frames := (congrArg AcquisitionController.Filing.deferred hfiling).trans h.frames
      bytes := (congrArg AcquisitionController.Filing.deferredBytes hfiling).trans h.bytes
      since := by
        rw [step_live_since hlive, h.since]
        rfl }

/-- Copies of some bytes are as long as all of them. -/
lemma length_flatten_replicate (n : Nat) (bytes : Bytes) :
    (List.replicate n bytes).flatten.length = n * bytes.length := by
  rw [List.length_flatten, List.map_replicate, List.sum_replicate, smul_eq_mul]

/-- A frame that comes again and again, as long as it fits. -/
lemma Deferring.takes_all (h : s.Deferring kept log) (hlive : ∀ s : HandOff, s.Live frame) :
    (n : Nat) → kept.flatten.length + n * frame.rawBytes.length ≤ deferredRecordingCapacityBytes →
    (s.run (List.replicate n (.frame frame))).Deferring (kept ++ List.replicate n frame.rawBytes)
      (log ++ List.replicate n frame.rawBytes)
  | 0, _ => by
    simpa [HandOff.run] using h
  | n + 1, hfits => by
    have hfits' : kept.flatten.length + n * frame.rawBytes.length + frame.rawBytes.length ≤
        deferredRecordingCapacityBytes := by
      rw [Nat.succ_mul] at hfits
      omega
    have hn := takes_all h hlive n (by omega)
    have hnow := hn.takes (hlive _) (by
      rw [List.flatten_append, List.length_append, length_flatten_replicate]
      exact hfits')
    rw [List.append_assoc, List.append_assoc, ← List.replicate_succ'] at hnow
    rw [HandOff.run, List.replicate_succ', List.foldl_append]
    exact hnow

/-- A CLI response as the parser emits it. -/
def replyFrame (payload : Bytes) : Frame where
  messageType := .cliResponse
  flags := 0
  sequence := 0
  timestampUs := 0
  itemCount := 0
  payload := payload
  rawBytes := encodeFrameV1 zlibCrc32 .cliResponse 0 0 0 0 payload
  cliText := some (decodeUtf8Replace payload)

/-- A reply is recorded or deferred. -/
lemma live_replyFrame (payload : Bytes) (s : HandOff) : s.Live (replyFrame payload) :=
  ⟨by simp [Frame.archiveExport, replyFrame], fun _ h => nomatch h⟩

/-- A reply is as long as its header, its payload and its checksum. -/
lemma length_replyFrame (payload : Bytes) :
    (replyFrame payload).rawBytes.length = 32 + payload.length :=
  length_encodeFrameV1.trans (by simp; omega)

/-- A run, its first and its last two events apart. -/
lemma run_around (s : HandOff) (e first last : HandOffEvent) (es : List HandOffEvent) :
    s.run (e :: (es ++ [first, last])) = (((s.step e).run es).step first).step last := by
  simp only [run, List.foldl_cons, List.foldl_append, List.foldl_nil]

/-- A reply of the greatest length. -/
def longFrame : Frame := replyFrame (List.replicate Sdf1.maxPayloadSize 0x20)

/-- The longest reply comes until one is left out, and an empty one behind it is taken. -/
theorem backlog_front_gap :
    ¬ ((start runningRecorders).run (.defer :: (List.replicate 1162 (.frame longFrame) ++
      [.frame longFrame, .frame (replyFrame [])]))).Front := by
  unfold longFrame
  have hlong := length_replyFrame (List.replicate Sdf1.maxPayloadSize 0x20)
  rw [List.length_replicate] at hlong
  have hlive := live_replyFrame (List.replicate Sdf1.maxPayloadSize 0x20)
  generalize replyFrame (List.replicate Sdf1.maxPayloadSize 0x20) = long at hlong hlive ⊢
  have hbegin : ((start runningRecorders).step .defer).Deferring [] [] := ⟨rfl, rfl, rfl, rfl, rfl⟩
  have hfull := hbegin.takes_all hlive 1162 (by rw [hlong]; decide)
  rw [List.nil_append] at hfull
  -- 646 bytes are left, so the next one does not fit, but the short one does
  have hroom : (List.replicate 1162 long.rawBytes).flatten.length = 4193658 := by
    rw [length_flatten_replicate, hlong]
    rfl
  have hleft := hfull.leaves (hlive _) (by rw [hroom, hlong]; decide)
  have hend := hleft.takes (live_replyFrame [] _) (by rw [hroom, length_replyFrame]; decide)
  rw [run_around]
  intro hfront
  have hprefix := hfront hend.free _ hend.since
  rw [hend.frames, List.append_assoc, List.prefix_append_right_inj] at hprefix
  obtain ⟨heq, -⟩ := List.cons_prefix_cons.mp hprefix
  have hlength := congrArg List.length heq
  rw [hlong, length_replyFrame, Sdf1.maxPayloadSize, List.length_nil] at hlength
  omega

end HandOff

end SensorHost.Acquisition
