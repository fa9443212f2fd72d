import SensorHost.Acquisition.Handling

/-!
# Handing over the deferred frames

The critical sections under the recorder lock of `AcquisitionController`, in any order: frames the
worker handles, deferral and its end, and recorders that are set, with the writers of the recorders
between them and between the chunks of a backlog. While recording is deferred the backlog is what
was handled since (`Keeping`), and behind the hand-over the recorder has received just that and all
that follows (`handOff_complete`).

A hand-over submits the chunks of the backlog one by one while the lock is held, and the writer may
take some of them meanwhile. `submitBacklogAmid_fits` shows that a fresh recorder has room for all
of them: the capacity of the backlog is no more than that of its queue. Behind the hand-over
`Received` is the invariant: what the recorder has received is what was handled since, or it has
failed and says so. That a recorder without a failure has had none is an induction of its own
(`failure_run`).
-/

namespace SensorHost.Acquisition
open SensorHost.Lib SensorHost.Protocol SensorHost.Storage

/-- The backlog handed to a recorder, with the passes its writer makes before each chunk. -/
def submitBacklogAmid (r : RawSessionRecorder) : List Bytes → List (List WriterOutcome) →
    RawSessionRecorder × Bool
  | [], _ => (r, true)
  | chunk :: chunks, passes =>
    let r := r.writerSteps (passes.headD [])
    match r.submit chunk with
    | .ok (r, true) => submitBacklogAmid r chunks passes.tail
    | .ok (r, false) => (r, false)
    | .error _ => (r, false)

/-- `set_recorder`, with the passes of the writer. -/
def AcquisitionController.setRecorderAmid (c : AcquisitionController) (recorders : Recorders)
    (passes : List (List WriterOutcome)) : Option Nat → AcquisitionController × Recorders
  | none => ({ c.dropDeferred with recorder := none }, recorders)
  | some id =>
    let (r, accepted) := submitBacklogAmid (recorders id) c.deferredRecordingFrames passes
    let c := if accepted then c else { c with lastError := r.failure }
    ({ c.dropDeferred with recorder := some id }, Function.update recorders id r)

/-- What happens to a session's recording. -/
inductive HandOffEvent where
  | frame (frame : Frame)
  | defer
  | cancel
  | setRecorder (id : Option Nat) (passes : List (List WriterOutcome))
  | setArchiveRecorder (id : Option Nat)
  | writer (id : Nat) (outcome : WriterOutcome)

/-- A controller and the recorders. -/
structure HandOff where
  controller : AcquisitionController
  recorders : Recorders
  /-- The live frames handled since recording was asked for, with what was deferred. -/
  since : Option (List Bytes) := none

namespace HandOff

/-- One critical section. -/
def step (s : HandOff) : HandOffEvent → HandOff
  | .frame frame =>
    let (c, recorders, _) := s.controller.handleFrame s.recorders frame
    let live : Bool :=
      !frame.archiveExport && decide (AcquisitionController.Accepts s.controller.deviceUuid
        frame.deviceUuid)
    { controller := c
      recorders := recorders
      since := if live then s.since.map (· ++ [frame.rawBytes]) else s.since }
  | .defer =>
    { s with
      controller := s.controller.deferRecordingUntilIdentity
      since := some (s.since.getD []) }
  | .cancel =>
    { s with
      controller := s.controller.cancelDeferredRecording
      since := if s.controller.recorder.isSome then s.since else none }
  | .setRecorder id passes =>
    let (c, recorders) := s.controller.setRecorderAmid s.recorders passes id
    { controller := c
      recorders := recorders
      since := id.map fun _ => if s.controller.recorder.isSome then [] else s.since.getD [] }
  | .setArchiveRecorder id => { s with controller := s.controller.setArchiveRecorder id }
  | .writer id outcome =>
    { s with
      recorders := Function.update s.recorders id ((s.recorders id).writerStep outcome) }

/-- Some events. -/
def run (s : HandOff) (events : List HandOffEvent) : HandOff := events.foldl step s

end HandOff

/-- Without passes of the writer it is `set_recorder`. -/
theorem setRecorderAmid_nil (c : AcquisitionController) (recorders : Recorders) (id : Option Nat) :
    c.setRecorderAmid recorders [] id = c.setRecorder recorders id := by
  have hbacklog : ∀ (r : RawSessionRecorder) (chunks : List Bytes),
      submitBacklogAmid r chunks [] = AcquisitionController.submitBacklog r chunks := by
    intro r chunks
    induction chunks generalizing r with
    | nil => rfl
    | cons chunk chunks ih =>
      unfold submitBacklogAmid AcquisitionController.submitBacklog
      have hstep : r.writerSteps (([] : List (List WriterOutcome)).headD []) = r := rfl
      dsimp only
      rw [hstep]
      cases hsubmit : r.submit chunk with
      | error error => rfl
      | ok result =>
        obtain ⟨r', accepted⟩ := result
        cases accepted with
        | true => exact ih r'
        | false => rfl
  cases id with
  | none => rfl
  | some id =>
    unfold AcquisitionController.setRecorderAmid AcquisitionController.setRecorder
    dsimp only
    rw [hbacklog]

/-- A recorder that is set is given the backlog, and the controller keeps none of it. -/
lemma setRecorderAmid_some (c : AcquisitionController) (recorders : Recorders)
    (passes : List (List WriterOutcome)) (id : Nat) :
    ∃ lastError, c.setRecorderAmid recorders passes (some id) =
      ({ c.dropDeferred with recorder := some id, lastError := lastError },
        Function.update recorders id
          (submitBacklogAmid (recorders id) c.deferredRecordingFrames passes).1) := by
  unfold AcquisitionController.setRecorderAmid
  dsimp only
  split
  · exact ⟨c.lastError, rfl⟩
  · exact ⟨_, rfl⟩

/-- A recorder that was just started, with the default capacity. -/
structure Fresh (r : RawSessionRecorder) : Prop where
  active : r.isActive = true
  capacity : r.queueCapacityBytes = defaultQueueCapacityBytes
  queuedBytes : r.queuedBytes = 0
  failure : r.failure = none
  received : r.received = []

/-- A backlog does not end a session. -/
lemma submitBacklogAmid_isActive (r : RawSessionRecorder) (chunks : List Bytes)
    (passes : List (List WriterOutcome)) :
    (submitBacklogAmid r chunks passes).1.isActive = r.isActive := by
  induction chunks generalizing r passes with
  | nil => rfl
  | cons chunk chunks ih =>
    have hbusy := RawSessionRecorder.writerSteps_isActive r (passes.headD [])
    unfold submitBacklogAmid
    dsimp only
    cases hsubmit : (r.writerSteps (passes.headD [])).submit chunk with
    | error error => exact hbusy
    | ok result =>
      obtain ⟨r', accepted⟩ := result
      have hactive := (RawSessionRecorder.submit_isActive hsubmit).trans hbusy
      cases accepted with
      | true => exact (ih r' passes.tail).trans hactive
      | false => exact hactive

/-- Without a failure the recorder has taken the backlog, chunk behind chunk. -/
lemma submitBacklogAmid_received {r : RawSessionRecorder} {chunks : List Bytes}
    {passes : List (List WriterOutcome)} (hactive : r.isActive = true)
    (hfine : (submitBacklogAmid r chunks passes).1.failure = none) :
    r.failure = none ∧ (submitBacklogAmid r chunks passes).2 = true ∧
      (submitBacklogAmid r chunks passes).1.received = r.received ++ chunks.flatten := by
  induction chunks generalizing r passes with
  | nil => exact ⟨hfine, rfl, (List.append_nil _).symm⟩
  | cons chunk chunks ih =>
    have hbusy : (r.writerSteps (passes.headD [])).isActive = true :=
      (RawSessionRecorder.writerSteps_isActive r _).trans hactive
    obtain ⟨r', accepted, hsubmit, hactive'⟩ := RawSessionRecorder.submit_of_active hbusy chunk
    unfold submitBacklogAmid at hfine ⊢
    dsimp only at hfine ⊢
    rw [hsubmit] at hfine ⊢
    cases accepted with
    | false =>
      obtain ⟨-, hfalse, -⟩ := RawSessionRecorder.submit_received hsubmit hfine
      cases hfalse
    | true =>
      obtain ⟨hfine', htook, hreceived⟩ := ih hactive' hfine
      obtain ⟨hfine'', -, hchunk⟩ := RawSessionRecorder.submit_received hsubmit hfine'
      obtain ⟨hfirst, hpasses⟩ := RawSessionRecorder.writerSteps_received hfine''
      refine ⟨hfirst, htook, ?_⟩
      rw [List.flatten_cons, ← List.append_assoc, ← hpasses, ← hchunk]
      exact hreceived

/-- The writer only gives room, unless it fails. -/
lemma writerSteps_room {r : RawSessionRecorder} {outcomes : List WriterOutcome}
    (hok : ∀ outcome ∈ outcomes, outcome = .ok) (hfine : r.failure = none) :
    (r.writerSteps outcomes).failure = none ∧
      (r.writerSteps outcomes).queuedBytes ≤ r.queuedBytes ∧
      (r.writerSteps outcomes).queueCapacityBytes = r.queueCapacityBytes := by
  induction outcomes generalizing r with
  | nil => exact ⟨hfine, le_rfl, rfl⟩
  | cons outcome outcomes ih =>
    have hfirst := hok outcome List.mem_cons_self
    have hstep : (r.writerStep outcome).failure = none ∧
        (r.writerStep outcome).queuedBytes ≤ r.queuedBytes ∧
        (r.writerStep outcome).queueCapacityBytes = r.queueCapacityBytes := by
      rw [hfirst]
      unfold RawSessionRecorder.writerStep
      split
      · exact ⟨hfine, le_rfl, rfl⟩
      · split
        · exact ⟨hfine, le_rfl, rfl⟩
        · dsimp only
          split
          · exact ⟨hfine, le_rfl, rfl⟩
          · refine ⟨hfine, ?_, rfl⟩
            dsimp only
            omega
    obtain ⟨hfine', hroom, hcapacity⟩ :=
      ih (fun o ho => hok o (List.mem_cons_of_mem _ ho)) hstep.1
    exact ⟨hfine', hroom.trans hstep.2.1, hcapacity.trans hstep.2.2⟩

/-- A backlog that fits is taken. -/
lemma submitBacklogAmid_fits {r : RawSessionRecorder} {chunks : List Bytes}
    {passes : List (List WriterOutcome)} (hok : ∀ outcomes ∈ passes, ∀ o ∈ outcomes, o = .ok)
    (hactive : r.isActive = true) (hfine : r.failure = none)
    (hfits : r.queuedBytes + chunks.flatten.length ≤ r.queueCapacityBytes) :
    (submitBacklogAmid r chunks passes).2 = true := by
  induction chunks generalizing r passes with
  | nil => rfl
  | cons chunk chunks ih =>
    have hhead : ∀ o ∈ passes.headD [], o = .ok := by
      cases passes with
      | nil =>
        intro o ho
        cases ho
      | cons outcomes passes => exact hok outcomes List.mem_cons_self
    -- the writer only makes room
    obtain ⟨hfine', hroom, hcapacity⟩ := writerSteps_room hhead hfine
    have hbusy : (r.writerSteps (passes.headD [])).isActive = true :=
      (RawSessionRecorder.writerSteps_isActive r _).trans hactive
    rw [List.flatten_cons, List.length_append] at hfits
    unfold submitBacklogAmid
    dsimp only
    generalize r.writerSteps (passes.headD []) = r' at *
    by_cases hempty : chunk = []
    · have hsubmit : r'.submit chunk = .ok (r', true) := by
        unfold RawSessionRecorder.submit
        exact if_pos hempty
      rw [hsubmit]
      refine ih (fun outcomes h => hok outcomes (List.mem_of_mem_tail h)) hbusy hfine' ?_
      push_cast at hfits
      omega
    · have hsubmit : r'.submit chunk = .ok ({ r' with
          queuedBytes := r'.queuedBytes + chunk.length
          queue := r'.queue ++ [some chunk] }, true) := by
        unfold RawSessionRecorder.submit
        rw [if_neg hempty, if_neg (by rw [hbusy]; exact Bool.false_ne_true),
          if_neg (by rw [hfine']; exact Bool.false_ne_true), if_neg (by push_cast at hfits; omega)]
      rw [hsubmit]
      refine ih (fun outcomes h => hok outcomes (List.mem_of_mem_tail h)) hbusy hfine' ?_
      push_cast at hfits
      dsimp only
      omega

/-- The backlog is what was handled since, as long as that fits. -/
structure Keeping (p : AcquisitionController.Filing) (since : Option (List Bytes)) : Prop where
  bytes : p.deferredBytes = p.deferred.flatten.length
  bound : p.deferredBytes ≤ deferredRecordingCapacityBytes
  idle : since = none → p.recorder = none ∧ p.deferRecording = false ∧ p.deferred = []
  deferring : since.isSome = true → p.recorder = none → p.deferRecording = true
  attached : p.recorder.isSome = true → p.deferRecording = false ∧ p.deferred = []
  backlog : p.recorder = none → ∀ log, since = some log →
    log.flatten.length ≤ deferredRecordingCapacityBytes → p.deferred = log

variable {p p' : AcquisitionController.Filing} {since : Option (List Bytes)}

/-- Nothing is deferred. -/
lemma keeping_none (h : p.deferred = []) (hbytes : p.deferredBytes = 0)
    (hdefer : p.deferRecording = false) (hsome : p.recorder.isSome = since.isSome) :
    Keeping p since where
  bytes := by
    rw [h, hbytes]
    rfl
  bound := by
    rw [hbytes]
    exact Nat.zero_le _
  idle := by
    intro hnone
    rw [hnone] at hsome
    exact ⟨Option.not_isSome_iff_eq_none.mp (by rw [hsome]; exact Bool.false_ne_true), hdefer, h⟩
  deferring := by
    intro hs hnone
    rw [hnone, hs] at hsome
    cases hsome
  attached := fun _ => ⟨hdefer, h⟩
  backlog := by
    intro hnone log hlog
    rw [hnone, hlog] at hsome
    cases hsome

/-- A change that keeps the backlog and the recorder. -/
lemma Keeping.same (keeping : Keeping p since) (hrecorder : p'.recorder = p.recorder)
    (hdefer : p'.deferRecording = p.deferRecording) (hdeferred : p'.deferred = p.deferred)
    (hbytes : p'.deferredBytes = p.deferredBytes) : Keeping p' since where
  bytes := by
    rw [hbytes, hdeferred]
    exact keeping.bytes
  bound := by
    rw [hbytes]
    exact keeping.bound
  idle := by
    rw [hrecorder, hdefer, hdeferred]
    exact keeping.idle
  deferring := by
    rw [hrecorder, hdefer]
    exact keeping.deferring
  attached := by
    rw [hrecorder, hdefer, hdeferred]
    exact keeping.attached
  backlog := by
    rw [hrecorder, hdeferred]
    exact keeping.backlog

/-- A live frame that goes to a recorder. -/
lemma Keeping.recorded (keeping : Keeping p since) (hsome : p.recorder.isSome = true)
    (bytes : Bytes) : Keeping p (since.map (· ++ [bytes])) where
  bytes := keeping.bytes
  bound := keeping.bound
  idle := fun h => keeping.idle (Option.map_eq_none_iff.mp h)
  deferring := fun h => keeping.deferring ((Option.isSome_map).symm.trans h)
  attached := keeping.attached
  backlog := by
    intro hnone
    rw [hnone] at hsome
    cases hsome

/-- A live frame while nothing is recorded. -/
lemma Keeping.unrecorded (keeping : Keeping p since) (hfree : p.recorder = none)
    (hidle : p.deferRecording = false) (bytes : Bytes) : Keeping p (since.map (· ++ [bytes])) := by
  have hnone : since = none := by
    refine Option.not_isSome_iff_eq_none.mp ?_
    intro hsome
    exact absurd (hidle.symm.trans (keeping.deferring hsome hfree)) Bool.false_ne_true
  rw [hnone] at keeping ⊢
  exact keeping

/-- A live frame that is deferred. -/
lemma Keeping.defers (keeping : Keeping p since) (hfree : p.recorder = none)
    (hdefers : p.deferRecording = true) (bytes : Bytes)
    (hfits : p.deferredBytes + bytes.length ≤ deferredRecordingCapacityBytes) :
    Keeping { p with
      deferred := p.deferred ++ [bytes]
      deferredBytes := p.deferredBytes + bytes.length } (since.map (· ++ [bytes])) where
  bytes := by
    dsimp only
    rw [keeping.bytes, List.flatten_append, List.length_append, List.flatten_singleton]
  bound := hfits
  idle := by
    intro h
    have hidle := (keeping.idle (Option.map_eq_none_iff.mp h)).2.1
    exact absurd (hidle.symm.trans hdefers) Bool.false_ne_true
  deferring := fun _ _ => hdefers
  attached := by
    intro hsome
    dsimp only at hsome
    rw [hfree] at hsome
    cases hsome
  backlog := by
    intro _ log' hlog' hbytes
    obtain ⟨log, hlog, rfl⟩ := Option.map_eq_some_iff.mp hlog'
    rw [List.flatten_append, List.length_append] at hbytes
    dsimp only
    rw [keeping.backlog hfree log hlog ((Nat.le_add_right _ _).trans hbytes)]

/-- A live frame for which the backlog has no room. -/
lemma Keeping.overflow (keeping : Keeping p since) (hfree : p.recorder = none)
    (bytes : Bytes) (hfull : deferredRecordingCapacityBytes < p.deferredBytes + bytes.length) :
    Keeping p (since.map (· ++ [bytes])) where
  bytes := keeping.bytes
  bound := keeping.bound
  idle := fun h => keeping.idle (Option.map_eq_none_iff.mp h)
  deferring := fun h => keeping.deferring ((Option.isSome_map).symm.trans h)
  attached := keeping.attached
  backlog := by
    intro _ log' hlog' hbytes
    obtain ⟨log, hlog, rfl⟩ := Option.map_eq_some_iff.mp hlog'
    rw [List.flatten_append, List.length_append, List.flatten_singleton] at hbytes
    have hbacklog := keeping.backlog hfree log hlog ((Nat.le_add_right _ _).trans hbytes)
    rw [keeping.bytes, hbacklog] at hfull
    exact absurd hbytes (not_le.mpr hfull)

/-- Where the bytes of a frame go, the backlog follows. -/
lemma Keeping.routes (keeping : Keeping p since) {recorders R : Recorders} {frame : Frame}
    (h : AcquisitionController.Routes p recorders frame p' R) :
    Keeping p' (if frame.archiveExport then since else since.map (· ++ [frame.rawBytes])) := by
  cases h with
  | unarchived archive _ =>
    rw [if_pos archive]
    exact keeping
  | archiveRaises archive _ _ =>
    rw [if_pos archive]
    exact keeping.same rfl rfl rfl rfl
  | archived archive _ _ =>
    rw [if_pos archive]
    exact keeping.same rfl rfl rfl rfl
  | recordRaises live attached _ =>
    rw [live]
    exact keeping.recorded (by rw [attached]; rfl) frame.rawBytes
  | recorded live attached _ =>
    rw [live]
    exact keeping.recorded (by rw [attached]; rfl) frame.rawBytes
  | deferred live free defers fits =>
    rw [live]
    exact keeping.defers free defers frame.rawBytes fits
  | overflow live free _ full =>
    rw [live]
    exact keeping.overflow free frame.rawBytes full
  | unrecorded live free idle =>
    rw [live]
    exact keeping.unrecorded free idle frame.rawBytes

/-- What `since` is behind a frame. -/
lemma HandOff.step_frame_since (s : HandOff) (frame : Frame) :
    (s.step (.frame frame)).since =
      if AcquisitionController.Accepts s.controller.deviceUuid frame.deviceUuid then
        (if frame.archiveExport then s.since else s.since.map (· ++ [frame.rawBytes]))
      else s.since := by
  unfold HandOff.step
  dsimp only
  cases frame.archiveExport with
  | true =>
    rw [Bool.not_true, Bool.false_and, if_neg Bool.false_ne_true, if_pos rfl, ite_self]
  | false =>
    rw [Bool.not_false, Bool.true_and, if_neg Bool.false_ne_true]
    exact if_congr decide_eq_true_iff rfl rfl

/-- Every step keeps what was handled since. -/
lemma Keeping.step {s : HandOff} (keeping : Keeping s.controller.filing s.since)
    (e : HandOffEvent) :
    Keeping (s.step e).controller.filing (s.step e).since := by
  cases e with
  | frame frame =>
    rw [HandOff.step_frame_since]
    have hfiles := s.controller.handleFrame_files s.recorders frame
    have hcontroller : (s.step (.frame frame)).controller =
        (s.controller.handleFrame s.recorders frame).1 := rfl
    rw [hcontroller]
    generalize (s.controller.handleFrame s.recorders frame).1.filing = p' at hfiles ⊢
    generalize (s.controller.handleFrame s.recorders frame).2.1 = R at hfiles
    cases hfiles with
    | refused contradicts =>
      rw [if_neg contradicts]
      exact keeping
    | routed known routes =>
      rw [if_pos known]
      exact keeping.routes routes
  | defer =>
    unfold HandOff.step AcquisitionController.deferRecordingUntilIdentity
    dsimp only
    cases hrecorder : s.controller.recorder with
    -- deferring with a recorder attached changes nothing
    | some id =>
      obtain ⟨log, hlog⟩ : ∃ log, s.since = some log := by
        refine Option.ne_none_iff_exists'.mp ?_
        intro hnone
        exact absurd (hrecorder.symm.trans (keeping.idle hnone).1) (by rintro ⟨⟩)
      rw [hlog] at keeping ⊢
      exact keeping
    -- without one the log begins anew, or goes on
    | none =>
      exact {
        bytes := keeping.bytes
        bound := keeping.bound
        idle := fun h => nomatch h
        deferring := fun _ _ => rfl
        attached := by
          intro hsome
          exact absurd hsome Bool.false_ne_true
        backlog := by
          intro hfree log hlog hbytes
          cases hlog
          cases hsince : s.since with
          | none => exact (keeping.idle hsince).2.2
          | some log =>
            rw [hsince] at hbytes
            exact keeping.backlog hrecorder log hsince hbytes }
  | cancel =>
    unfold HandOff.step
    dsimp only
    split
    · rename_i hsome
      refine keeping_none rfl rfl rfl ?_
      refine hsome.trans ?_
      symm
      refine Option.isSome_iff_ne_none.mpr ?_
      intro hnone
      have hfree : s.controller.recorder = none := (keeping.idle hnone).1
      rw [hfree] at hsome
      cases hsome
    · rename_i hfree
      refine keeping_none rfl rfl rfl ?_
      exact Bool.eq_false_of_not_eq_true hfree
  | setRecorder id passes =>
    cases id with
    | none => exact keeping_none rfl rfl rfl rfl
    | some id =>
      obtain ⟨lastError, heq⟩ := setRecorderAmid_some s.controller s.recorders passes id
      unfold HandOff.step
      dsimp only
      rw [heq]
      exact keeping_none rfl rfl rfl rfl
  | setArchiveRecorder id => exact keeping.same rfl rfl rfl rfl
  | writer id outcome => exact keeping

/-- So does a run. -/
lemma Keeping.run {s : HandOff} (keeping : Keeping s.controller.filing s.since)
    (events : List HandOffEvent) :
    Keeping (s.run events).controller.filing (s.run events).since := by
  induction events generalizing s with
  | nil => exact keeping
  | cons e events ih => exact ih (keeping.step e)

/-- The recorder is not taken away, and gets no archive frames. -/
def HandOffEvent.Keeps (id : Nat) : HandOffEvent → Prop
  | setRecorder _ _ => False
  | setArchiveRecorder other => other ≠ some id
  | _ => True

/-- The recorder has received what was handled since, unless it has failed. -/
structure Received (p : AcquisitionController.Filing) (recorders : Recorders)
    (since : Option (List Bytes)) (id : Nat) : Prop where
  recorder : p.recorder = some id
  archive : p.archiveRecorder ≠ some id
  active : (recorders id).isActive = true
  asked : since.isSome = true
  received : (recorders id).failure = none → ∀ log, since = some log →
    (recorders id).received = log.flatten

variable {recorders R : Recorders} {frame : Frame} {id : Nat}

/-- What is written to other recorders does not matter. -/
lemma Received.other (h : Received p recorders since id) (hrecorder : p'.recorder = p.recorder)
    (harchive : p'.archiveRecorder = p.archiveRecorder) (hsame : R id = recorders id) :
    Received p' R since id where
  recorder := hrecorder.trans h.recorder
  archive := by
    rw [harchive]
    exact h.archive
  active := by
    rw [hsame]
    exact h.active
  asked := h.asked
  received := by
    rw [hsame]
    exact h.received

/-- A live frame goes to the recorder. -/
lemma Received.recorded (h : Received p recorders since id) {r : RawSessionRecorder}
    {chunk : Bytes} {accepted : Bool} (hsubmit : (recorders id).submit chunk = .ok (r, accepted)) :
    Received p (Function.update recorders id r) (since.map (· ++ [chunk])) id where
  recorder := h.recorder
  archive := h.archive
  active := by
    rw [Function.update_self, RawSessionRecorder.submit_isActive hsubmit]
    exact h.active
  asked := Option.isSome_map.trans h.asked
  received := by
    intro hfine log' hlog'
    obtain ⟨log, hlog, rfl⟩ := Option.map_eq_some_iff.mp hlog'
    rw [Function.update_self] at hfine ⊢
    obtain ⟨hfine', -, hreceived⟩ := RawSessionRecorder.submit_received hsubmit hfine
    rw [hreceived, h.received hfine' log hlog, List.flatten_append, List.flatten_singleton]

/-- A frame that is handled is received. -/
lemma Received.routes (h : Received p recorders since id)
    (hroutes : AcquisitionController.Routes p recorders frame p' R) :
    Received p' R (if frame.archiveExport then since else since.map (· ++ [frame.rawBytes]))
      id := by
  cases hroutes with
  | unarchived archive _ =>
    rw [if_pos archive]
    exact h
  | archiveRaises archive _ _ =>
    rw [if_pos archive]
    exact h.other rfl rfl rfl
  | archived archive attached _ =>
    rw [if_pos archive]
    refine h.other rfl rfl (Function.update_of_ne ?_ _ _)
    rintro rfl
    exact h.archive attached
  | recordRaises _ attached raises =>
    cases h.recorder.symm.trans attached
    obtain ⟨r, accepted, hsubmit, -⟩ := RawSessionRecorder.submit_of_active h.active frame.rawBytes
    cases raises.symm.trans hsubmit
  | recorded live attached submitted =>
    cases h.recorder.symm.trans attached
    rw [live]
    exact h.recorded submitted
  | deferred _ free _ _ => cases h.recorder.symm.trans free
  | overflow _ free _ _ => cases h.recorder.symm.trans free
  | unrecorded _ free _ => cases h.recorder.symm.trans free

/-- A pass of a writer takes nothing back. -/
lemma Received.writer (h : Received p recorders since id) (other : Nat) (outcome : WriterOutcome) :
    Received p (Function.update recorders other ((recorders other).writerStep outcome)) since
      id := by
  by_cases heq : id = other
  · rw [← heq]
    exact {
      recorder := h.recorder
      archive := h.archive
      active := by
        rw [Function.update_self, RawSessionRecorder.writerStep_isActive]
        exact h.active
      asked := h.asked
      received := by
        intro hfine log hlog
        rw [Function.update_self] at hfine ⊢
        obtain ⟨hfine', hreceived⟩ := RawSessionRecorder.writerStep_received hfine
        rw [hreceived]
        exact h.received hfine' log hlog }
  · exact h.other rfl rfl (Function.update_of_ne heq _ _)

/-- So it is with every step. -/
lemma Received.step {s : HandOff} (h : Received s.controller.filing s.recorders s.since id)
    {e : HandOffEvent} (keeps : e.Keeps id) :
    Received (s.step e).controller.filing (s.step e).recorders (s.step e).since id := by
  cases e with
  | frame frame =>
    rw [HandOff.step_frame_since]
    have hfiles := s.controller.handleFrame_files s.recorders frame
    have hstep : (s.step (.frame frame)).controller =
          (s.controller.handleFrame s.recorders frame).1 ∧
        (s.step (.frame frame)).recorders = (s.controller.handleFrame s.recorders frame).2.1 :=
      ⟨rfl, rfl⟩
    rw [hstep.1, hstep.2]
    generalize (s.controller.handleFrame s.recorders frame).1.filing = p' at hfiles ⊢
    generalize (s.controller.handleFrame s.recorders frame).2.1 = R at hfiles ⊢
    cases hfiles with
    -- a frame that is refused is neither recorded nor logged
    | refused contradicts =>
      rw [if_neg contradicts]
      exact h
    | routed known routes =>
      rw [if_pos known]
      exact h.routes routes
  | defer =>
    obtain ⟨log, hlog⟩ := Option.isSome_iff_exists.mp h.asked
    have hrecorder : s.controller.recorder = some id := h.recorder
    unfold HandOff.step AcquisitionController.deferRecordingUntilIdentity
    dsimp only
    rw [hlog] at h ⊢
    rw [hrecorder]
    exact h
  | cancel =>
    have hrecorder : s.controller.recorder = some id := h.recorder
    unfold HandOff.step
    dsimp only
    rw [hrecorder]
    exact h.other rfl rfl rfl
  -- another attachment is excluded
  | setRecorder other passes => exact absurd keeps fun h => h
  | setArchiveRecorder other =>
    exact {
      recorder := h.recorder
      archive := keeps
      active := h.active
      asked := h.asked
      received := h.received }
  | writer other outcome => exact h.writer other outcome

/-- So it is with a run. -/
lemma Received.run {s : HandOff} (h : Received s.controller.filing s.recorders s.since id)
    {events : List HandOffEvent} (keeps : ∀ e ∈ events, e.Keeps id) :
    Received (s.run events).controller.filing (s.run events).recorders (s.run events).since id := by
  induction events generalizing s with
  | nil => exact h
  | cons e events ih =>
    exact ih (h.step (keeps e List.mem_cons_self))
      fun e' he' => keeps e' (List.mem_cons_of_mem _ he')

/-- A recorder that has no failure had none. -/
lemma failure_routes (hroutes : AcquisitionController.Routes p recorders frame p' R)
    (hfine : (R id).failure = none) : (recorders id).failure = none := by
  have hupdate : ∀ {k : Nat} {r : RawSessionRecorder} {accepted : Bool},
      (recorders k).submit frame.rawBytes = .ok (r, accepted) →
        (Function.update recorders k r id).failure = none → (recorders id).failure = none := by
    intro k r accepted hsubmit hfine
    by_cases hk : id = k
    · subst hk
      rw [Function.update_self] at hfine
      exact (RawSessionRecorder.submit_received hsubmit hfine).1
    · rw [Function.update_of_ne hk] at hfine
      exact hfine
  cases hroutes with
  | archived _ _ submitted => exact hupdate submitted hfine
  | recorded _ _ submitted => exact hupdate submitted hfine
  | _ => exact hfine

/-- A recorder without an error had none. -/
lemma failure_step {s : HandOff} {e : HandOffEvent} (keeps : e.Keeps id)
    (hfine : ((s.step e).recorders id).failure = none) : (s.recorders id).failure = none := by
  cases e with
  | frame frame =>
    have hfiles := s.controller.handleFrame_files s.recorders frame
    have hstep : (s.step (.frame frame)).recorders =
        (s.controller.handleFrame s.recorders frame).2.1 := rfl
    rw [hstep] at hfine
    generalize (s.controller.handleFrame s.recorders frame).1.filing = p' at hfiles
    generalize (s.controller.handleFrame s.recorders frame).2.1 = R at hfiles hfine
    cases hfiles with
    | refused _ => exact hfine
    | routed _ routes => exact failure_routes routes hfine
  | setRecorder other passes => exact absurd keeps fun h => h
  | writer other outcome =>
    unfold HandOff.step at hfine
    dsimp only at hfine
    by_cases heq : id = other
    · rw [← heq, Function.update_self] at hfine
      exact (RawSessionRecorder.writerStep_received hfine).1
    · rw [Function.update_of_ne heq] at hfine
      exact hfine
  | _ => exact hfine

/-- So it is behind a run. -/
lemma failure_run {s : HandOff} {events : List HandOffEvent} (keeps : ∀ e ∈ events, e.Keeps id)
    (hfine : ((s.run events).recorders id).failure = none) : (s.recorders id).failure = none := by
  induction events generalizing s with
  | nil => exact hfine
  | cons e events ih =>
    have hrest := fun e' he' => keeps e' (List.mem_cons_of_mem _ he')
    exact failure_step (keeps e List.mem_cons_self) (ih hrest hfine)

/-- What the session's worker handles at its start. -/
def HandOff.start (recorders : Recorders) : HandOff := { controller := {}, recorders := recorders }

/-- In whatever order frames were handled and deferral began, ended and began again: if what was
handled since it last began fits, a fresh recorder takes the whole backlog, and has from then on
received just what was handled since, as long as it reports no failure. -/
theorem handOff_complete (recorders : Recorders) (before after : List HandOffEvent) (id : Nat)
    (passes : List (List WriterOutcome)) (log : List Bytes)
    (hfree : ((HandOff.start recorders).run before).controller.recorder = none)
    (hsince : ((HandOff.start recorders).run before).since = some log)
    (hbytes : log.flatten.length ≤ deferredRecordingCapacityBytes)
    (hfresh : Fresh (((HandOff.start recorders).run before).recorders id))
    (harchive : ((HandOff.start recorders).run before).controller.archiveRecorder ≠ some id)
    (hafter : ∀ e ∈ after, e.Keeps id) :
    let s := (HandOff.start recorders).run before
    let backlog := submitBacklogAmid (s.recorders id) s.controller.deferredRecordingFrames passes
    let s' := (s.step (.setRecorder (some id) passes)).run after
    ((∀ outcomes ∈ passes, ∀ outcome ∈ outcomes, outcome = .ok) → backlog.2 = true) ∧
      ((s'.recorders id).failure = none → backlog.2 = true ∧
        ∃ log', s'.since = some log' ∧ (s'.recorders id).received = log'.flatten) := by
  intro s backlog s'
  have hnew : Keeping (HandOff.start recorders).controller.filing (HandOff.start recorders).since :=
    keeping_none rfl rfl rfl rfl
  have keeping : Keeping s.controller.filing s.since := hnew.run before
  -- below the bound the backlog is all that came since it was asked for
  have hframes : s.controller.deferredRecordingFrames = log :=
    keeping.backlog hfree log hsince hbytes
  -- the recorder was fresh, so what it has received is the backlog
  have htook : backlog.1.failure = none →
      backlog.2 = true ∧ backlog.1.received = log.flatten := by
    intro hfine
    obtain ⟨-, htook, hreceived⟩ := submitBacklogAmid_received hfresh.active hfine
    refine ⟨htook, hreceived.trans ?_⟩
    rw [hfresh.received, hframes]
    rfl
  obtain ⟨lastError, hset⟩ := setRecorderAmid_some s.controller s.recorders passes id
  have hrecorders : (s.step (.setRecorder (some id) passes)).recorders id = backlog.1 := by
    unfold HandOff.step
    dsimp only
    rw [hset]
    exact Function.update_self _ _ _
  -- from the attachment on the invariant holds, and the rest of the run keeps it
  have hattached : Received (s.step (.setRecorder (some id) passes)).controller.filing
      (s.step (.setRecorder (some id) passes)).recorders
      (s.step (.setRecorder (some id) passes)).since id := by
    have hlog : (s.step (.setRecorder (some id) passes)).since = some log := by
      unfold HandOff.step
      dsimp only
      rw [hfree, hsince]
      rfl
    have hfiling : (s.step (.setRecorder (some id) passes)).controller.filing.recorder = some id ∧
        (s.step (.setRecorder (some id) passes)).controller.filing.archiveRecorder =
          s.controller.archiveRecorder := by
      unfold HandOff.step
      dsimp only
      rw [hset]
      exact ⟨rfl, rfl⟩
    exact {
      recorder := hfiling.1
      archive := by
        rw [hfiling.2]
        exact harchive
      active := by
        rw [hrecorders, submitBacklogAmid_isActive]
        exact hfresh.active
      asked := by
        rw [hlog]
        rfl
      received := by
        intro hfine log' hlog'
        rw [hrecorders] at hfine ⊢
        rw [hlog] at hlog'
        cases hlog'
        exact (htook hfine).2 }
  refine ⟨?_, ?_⟩
  · intro hok
    refine submitBacklogAmid_fits hok hfresh.active hfresh.failure ?_
    rw [hfresh.queuedBytes, hfresh.capacity, hframes]
    have hroom : log.flatten.length ≤ defaultQueueCapacityBytes := hbytes
    omega
  · intro hfine
    have hfine' := failure_run hafter hfine
    rw [hrecorders] at hfine'
    have hend := hattached.run hafter
    obtain ⟨log', hlog'⟩ := Option.isSome_iff_exists.mp hend.asked
    exact ⟨(htook hfine').1, log', hlog', hend.received hfine log' hlog'⟩

/-- A status frame with these bytes. -/
def statusFrame (bytes : Bytes) : Frame where
  messageType := .status
  flags := 0
  sequence := 0
  timestampUs := 0
  itemCount := 0
  payload := []
  rawBytes := bytes

/-- Recorders that are all running. -/
def runningRecorders : Recorders := fun _ => { isActive := true, writerAlive := true }

/-- One frame comes before the deferral, two in it, and one behind the hand-over. -/
theorem handOff_complete_four :
    let s := (HandOff.start runningRecorders).run
      [.frame (statusFrame [1]), .defer, .frame (statusFrame [2]), .frame (statusFrame [3])]
    let backlog := submitBacklogAmid (s.recorders 7) s.controller.deferredRecordingFrames [[.ok]]
    let s' := (s.step (.setRecorder (some 7) [[.ok]])).run
      [.frame (statusFrame [4]), .writer 7 .ok]
    ((∀ outcomes ∈ [[WriterOutcome.ok]], ∀ outcome ∈ outcomes, outcome = .ok) →
        backlog.2 = true) ∧
      ((s'.recorders 7).failure = none → backlog.2 = true ∧
        ∃ log', s'.since = some log' ∧ (s'.recorders 7).received = log'.flatten) :=
  handOff_complete runningRecorders _ _ 7 [[.ok]] [[2], [3]] rfl rfl (by decide)
    ⟨rfl, rfl, rfl, rfl, rfl⟩ (by rintro ⟨⟩) (by simp [HandOffEvent.Keeps])

example : (((HandOff.start runningRecorders).run [.frame (statusFrame [1]), .defer,
    .frame (statusFrame [2]), .frame (statusFrame [3]), .setRecorder (some 7) [[.ok]],
    .frame (statusFrame [4]), .writer 7 .ok]).recorders 7).received = [2, 3, 4] := by
  decide

end SensorHost.Acquisition
