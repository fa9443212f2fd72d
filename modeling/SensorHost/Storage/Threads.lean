import SensorHost.Storage.Recorder

/-!
# The threads of the recorder

`RawSessionRecorder` at the grain of its lock: the thread that calls `start`, `submit` and `stop`,
and the writer thread. Each is at a control point, and takes one critical section, or one operation
on the queue or the file, at a time. What is in the buffer of the stream counts as in the file. The
metadata is written behind the last step of `stop` here, when the recorder is no longer active.

A session is told by the calls of `submit` there were since `start`. The calls of `Recorder` are
runs of the two threads (`run_submit`, `run_writerStep`).

The invariant `Sound` says where an accepted chunk may be: in the file, in the hands of the writer,
in the queue before the sentinel, or in the hands of the caller. It has one lemma for each step of
either thread (`Sound.submit`, `Sound.callerStep`, `Sound.writerStep` and so on), which differ in
what moves from where to where. Chunks that `submit` accepts after `stop` was called, while its join
has timed out, come behind the sentinel and are told apart as `late`.
-/

namespace SensorHost.Storage
open SensorHost.Lib SensorHost.Protocol

/-- Where the calling thread is. -/
inductive Caller where
  | idle
  /-- In `submit`, before the chunk is put into the queue. -/
  | putting (chunk : Bytes)
  /-- In `stop`, before the sentinel is put into the queue. -/
  | stopping
  /-- In `stop`, waiting for the writer. -/
  | joining
  /-- In `stop`, behind the writer. -/
  | joined
  deriving DecidableEq

/-- Where the writer thread is. -/
inductive Writer where
  | waiting
  | writing (chunk : Bytes)
  | accounting (chunk : Bytes)
  | flushing
  | closing
  | ended
  deriving DecidableEq

/-- What happened since `start`. -/
structure Session where
  /-- The calls of `submit` with a chunk up to the call of `stop`, and what they returned. -/
  calls : List (Bytes × Bool) := []
  /-- Those behind a `stop` that did not come back in time. -/
  late : List (Bytes × Bool) := []
  stopCalled : Bool := false
  ioError : Bool := false
  /-- What `stop` returned. -/
  summary : Option RecordingSummary := none

namespace Session

/-- A call of `submit`. -/
def submitted (s : Session) (chunk : Bytes) (accepted : Bool) : Session :=
  if s.stopCalled then { s with late := s.late ++ [(chunk, accepted)] }
  else { s with calls := s.calls ++ [(chunk, accepted)] }

/-- All calls of `submit`. -/
def all (s : Session) : List (Bytes × Bool) := s.calls ++ s.late

end Session

/-- The chunks that were accepted. -/
def accepted (calls : List (Bytes × Bool)) : List Bytes := (calls.filter Prod.snd).map Prod.fst

/-- The recorder with its threads. -/
structure Threads where
  recorder : RawSessionRecorder
  caller : Caller := .idle
  writer : Writer := .ended
  session : Session := {}

/-- A step of one of the threads. -/
inductive Action where
  | start (path : Path) (deviceUuid : Option Uuid) (opens : Bool)
  | submit (chunk : Bytes)
  | stop
  /-- The caller goes on in its call. -/
  | caller
  /-- The caller has waited for the writer for five seconds. -/
  | joinTimesOut
  | writer (outcome : WriterOutcome)
  deriving DecidableEq

/-- Whether a session is to begin. -/
def Action.isStart : Action → Bool
  | start _ _ _ => true
  | _ => false

namespace Threads

/-- `RawSessionRecorder(queue_capacity_bytes)`. -/
def new (queueCapacityBytes : Nat) (h : 0 < queueCapacityBytes) : Threads where
  recorder := { queueCapacityBytes := queueCapacityBytes, capacity_pos := h }

/-- `start`; the queue is as it was. -/
def start (t : Threads) (path : Path) (deviceUuid : Option Uuid) (opens : Bool) : Threads :=
  match t.recorder.start path deviceUuid with
  | .error _ => t
  | .ok r =>
    if opens then { recorder := r, writer := .waiting }
    else { recorder := { r with isActive := false, writerAlive := false } }

/-- `submit`, up to the end of its critical section. -/
def submit (t : Threads) (chunk : Bytes) : Threads :=
  let r := t.recorder
  if chunk = [] then t
  else if !r.isActive then t
  else if r.failure.isSome then { t with session := t.session.submitted chunk false }
  else if r.queuedBytes + chunk.length > r.queueCapacityBytes then
    { t with
      recorder := { r with failure := some queueCapacityError }
      session := t.session.submitted chunk false }
  else
    { t with
      recorder := { r with queuedBytes := r.queuedBytes + chunk.length }
      caller := .putting chunk
      session := t.session.submitted chunk true }

/-- `stop`, up to the end of its first critical section. -/
def stop (t : Threads) : Threads :=
  if !t.recorder.isActive then t
  else { t with caller := .stopping, session := { t.session with stopCalled := true } }

/-- `put_nowait`. -/
def put (t : Threads) (item : Option Bytes) : Threads :=
  { t with recorder := { t.recorder with queue := t.recorder.queue ++ [item] } }

/-- The caller goes on in its call. -/
def callerStep (t : Threads) : Threads :=
  match t.caller with
  | .idle => t
  | .putting chunk => { t.put (some chunk) with caller := .idle }
  | .stopping => { t.put none with caller := .joining }
  | .joining => if t.writer = .ended then { t with caller := .joined } else t
  | .joined =>
    { t with
      recorder := { t.recorder with isActive := false }
      caller := .idle
      session := { t.session with summary := some {
        path := t.recorder.path
        bytesWritten := t.recorder.bytesWritten
        failure := t.recorder.failure } } }

/-- The join comes back; `stop` raises if the writer is still alive. -/
def joinTimesOut (t : Threads) : Threads :=
  match t.caller with
  | .joining => { t with caller := if t.writer = .ended then .joined else .idle }
  | _ => t

/-- The writer catches an `OSError`. -/
def writerFails (t : Threads) (message : Text) (left : Bytes) : Threads :=
  { t with
    recorder := { t.recorder.writerFails message left with writerAlive := t.recorder.writerAlive }
    writer := .closing
    session := { t.session with ioError := true } }

/-- The writer goes on in its loop. -/
def writerStep (t : Threads) (outcome : WriterOutcome) : Threads :=
  let r := t.recorder
  match t.writer with
  | .waiting =>
    match r.queue with
    | [] => t
    | none :: queue => { t with recorder := { r with queue }, writer := .flushing }
    | some chunk :: queue => { t with recorder := { r with queue }, writer := .writing chunk }
  | .writing chunk =>
    match outcome with
    | .ok => { t with recorder := { r with stream := r.stream ++ chunk }, writer := .accounting chunk }
    | .osError message kept => t.writerFails message ((r.stream ++ chunk).take kept)
  | .accounting chunk =>
    { t with
      recorder := { r with
        queuedBytes := r.queuedBytes - chunk.length
        bytesWritten := r.bytesWritten + chunk.length }
      writer := .waiting }
  | .flushing =>
    match outcome with
    | .ok => { t with writer := .closing }
    | .osError message kept => t.writerFails message (r.stream.take kept)
  | .closing => { t with recorder := { r with writerAlive := false }, writer := .ended }
  | .ended => t

/-- A step; one call comes behind the other. -/
def step (t : Threads) : Action → Threads
  | .start path deviceUuid opens => if t.caller = .idle then t.start path deviceUuid opens else t
  | .submit chunk => if t.caller = .idle then t.submit chunk else t
  | .stop => if t.caller = .idle then t.stop else t
  | .caller => t.callerStep
  | .joinTimesOut => t.joinTimesOut
  | .writer outcome => t.writerStep outcome

/-- Some steps. -/
def run (t : Threads) (actions : List Action) : Threads := actions.foldl step t

end Threads

/-- The chunks the writer takes before it takes a sentinel. -/
def ahead : List (Option Bytes) → List Bytes
  | [] => []
  | none :: _ => []
  | some chunk :: queue => chunk :: ahead queue

/-- Behind a sentinel nothing is ahead. -/
lemma ahead_append_of_mem {queue : List (Option Bytes)} (h : none ∈ queue)
    (items : List (Option Bytes)) : ahead (queue ++ items) = ahead queue := by
  induction queue with
  | nil => cases h
  | cons item queue ih =>
    cases item with
    | none => rfl
    | some chunk =>
      have hrest : none ∈ queue := (List.mem_cons.mp h).resolve_left (by rintro ⟨⟩)
      exact congrArg (chunk :: ·) (ih hrest)

/-- What is put into a queue without a sentinel is ahead, if it is a chunk. -/
lemma ahead_append_of_not_mem {queue : List (Option Bytes)} (h : none ∉ queue)
    (item : Option Bytes) : ahead (queue ++ [item]) = ahead queue ++ item.toList := by
  induction queue with
  | nil =>
    cases item with
    | none => rfl
    | some chunk => rfl
  | cons first queue ih =>
    cases first with
    | none => exact absurd List.mem_cons_self h
    | some chunk => exact congrArg (chunk :: ·) (ih fun hmem => h (List.mem_cons_of_mem _ hmem))

/-- Calls are accepted one after the other. -/
lemma accepted_append (calls more : List (Bytes × Bool)) :
    accepted (calls ++ more) = accepted calls ++ accepted more := by
  unfold accepted
  rw [List.filter_append, List.map_append]

namespace Session

variable {s : Session} {chunk : Bytes}

/-- A chunk does not stop a session. -/
lemma submitted_stopCalled (accepted : Bool) :
    (s.submitted chunk accepted).stopCalled = s.stopCalled := by
  unfold submitted
  split
  · rfl
  · rfl

/-- It is no error. -/
lemma submitted_ioError (accepted : Bool) : (s.submitted chunk accepted).ioError = s.ioError := by
  unfold submitted
  split
  · rfl
  · rfl

/-- It is no summary. -/
lemma submitted_summary (accepted : Bool) : (s.submitted chunk accepted).summary = s.summary := by
  unfold submitted
  split
  · rfl
  · rfl

/-- Before `stop` no chunk is late. -/
lemma submitted_late (h : s.stopCalled = false → s.late = []) (accepted : Bool) :
    (s.submitted chunk accepted).stopCalled = false → (s.submitted chunk accepted).late = [] := by
  rw [submitted_stopCalled]
  intro hstop
  unfold submitted
  rw [hstop]
  exact h hstop

/-- A call comes behind all others. -/
lemma submitted_all (h : s.stopCalled = false → s.late = []) (accepted : Bool) :
    (s.submitted chunk accepted).all = s.all ++ [(chunk, accepted)] := by
  unfold submitted all
  split
  · exact (List.append_assoc _ _ _).symm
  · rename_i hstop
    rw [h (Bool.eq_false_of_not_eq_true hstop), List.append_nil, List.append_nil]

/-- The chunks accepted before `stop` is called. -/
lemma submitted_calls (answer : Bool) :
    accepted (s.submitted chunk answer).calls =
      accepted s.calls ++ if answer && !s.stopCalled then [chunk] else [] := by
  unfold submitted
  cases s.stopCalled with
  | true =>
    rw [if_pos rfl, Bool.not_true, Bool.and_false]
    exact (List.append_nil _).symm
  | false =>
    rw [if_neg Bool.false_ne_true, accepted_append, Bool.not_false, Bool.and_true]
    cases answer with
    | true => rfl
    | false => rfl

end Session

/-- The writer is in its loop. -/
def Writer.inLoop : Writer → Bool
  | waiting => true
  | writing _ => true
  | accounting _ => true
  | _ => false

/-- What the writer has taken and not written. -/
def Writer.inHand : Writer → Bytes
  | writing chunk => chunk
  | _ => []

/-- What the caller has reserved and not put into the queue. -/
def Caller.inHand : Caller → Bytes
  | putting chunk => chunk
  | _ => []

namespace Threads

/-- In a session that began with an empty queue, what was accepted before `stop` was called is in
the file, in the hands of the writer, in the queue or in the hands of the caller. -/
structure Sound (t : Threads) : Prop where
  active : t.recorder.isActive = false → t.caller = .idle ∧ t.writer = .ended
  stops : t.caller = .stopping ∨ t.caller = .joining ∨ t.caller = .joined →
    t.session.stopCalled = true
  joined : t.caller = .joined → t.writer = .ended
  late : t.session.stopCalled = false → t.session.late = []
  summary : ∀ summary, t.session.summary = some summary → t.recorder.isActive = false ∧
    summary.bytesWritten = t.recorder.bytesWritten
  healthy : t.writer.inLoop = true → t.session.ioError = false
  sealed : t.writer.inLoop = true → none ∈ t.recorder.queue → t.session.stopCalled = true
  sentinel : t.writer.inLoop = true → t.session.stopCalled = true →
    none ∈ t.recorder.queue ∨ t.caller = .stopping
  kept : t.writer.inLoop = true →
    (accepted t.session.calls).flatten = t.recorder.stream ++ t.writer.inHand ++
      (ahead t.recorder.queue).flatten ++
        if none ∈ t.recorder.queue then [] else t.caller.inHand
  written : t.writer.inLoop = false → t.recorder.stream <+: (accepted t.session.calls).flatten
  drained : t.writer.inLoop = false → t.session.ioError = false →
    t.recorder.stream = (accepted t.session.calls).flatten ∧
      (t.recorder.isActive = true → t.session.stopCalled = true)

variable {t : Threads}

/-- Without a session nothing is to keep. -/
lemma sound_idle (r : RawSessionRecorder) (hactive : r.isActive = false) (hstream : r.stream = []) :
    ({ recorder := r } : Threads).Sound where
  active := fun _ => ⟨rfl, rfl⟩
  stops := by rintro (h | h | h) <;> cases h
  joined := fun h => nomatch h
  late := fun _ => rfl
  summary := fun _ h => nomatch h
  healthy := fun h => nomatch h
  sealed := fun h => nomatch h
  sentinel := fun h => nomatch h
  kept := fun h => nomatch h
  written := by
    intro _
    dsimp only
    rw [hstream]
    exact List.nil_prefix
  drained := fun _ _ => ⟨hstream, fun h => absurd (hactive.symm.trans h) Bool.false_ne_true⟩

/-- A session begins. -/
lemma sound_started (r : RawSessionRecorder) (hactive : r.isActive = true) (hstream : r.stream = [])
    (hqueue : r.queue = []) : ({ recorder := r, writer := .waiting } : Threads).Sound where
  active := fun h => absurd (hactive.symm.trans h) Bool.true_eq_false.mp
  stops := by rintro (h | h | h) <;> cases h
  joined := fun h => nomatch h
  late := fun _ => rfl
  summary := fun _ h => nomatch h
  healthy := fun _ => rfl
  sealed := by
    intro _ hmem
    dsimp only at hmem
    rw [hqueue] at hmem
    cases hmem
  sentinel := fun _ h => nomatch h
  kept := by
    intro _
    dsimp only
    rw [hqueue, hstream]
    rfl
  written := fun h => nomatch h
  drained := fun h => nomatch h

/-- What `start` does. -/
lemma start_cases (path : Path) (deviceUuid : Option Uuid) (opens : Bool) :
    t.start path deviceUuid opens = t ∨ t.recorder.isActive = false ∧
      ∃ r : RawSessionRecorder, r.stream = [] ∧ r.queue = t.recorder.queue ∧
        r.queueCapacityBytes = t.recorder.queueCapacityBytes ∧ r.queuedBytes = 0 ∧
        r.bytesWritten = 0 ∧ r.failure = none ∧
        (r.isActive = true ∧ t.start path deviceUuid opens = { recorder := r, writer := .waiting } ∨
          r.isActive = false ∧ t.start path deviceUuid opens = { recorder := r }) := by
  unfold start RawSessionRecorder.start
  by_cases hactive : t.recorder.isActive = true
  · rw [if_pos hactive]
    exact .inl rfl
  · rw [if_neg hactive]
    refine .inr ⟨Bool.eq_false_of_not_eq_true hactive, ?_⟩
    refine ⟨{ t.recorder with
      queuedBytes := 0
      bytesWritten := 0
      failure := none
      path := path
      deviceUuid := deviceUuid
      stream := []
      isActive := opens
      writerAlive := opens }, rfl, rfl, rfl, rfl, rfl, rfl, ?_⟩
    cases opens with
    | true => exact .inl ⟨rfl, rfl⟩
    | false => exact .inr ⟨rfl, rfl⟩

/-- A session that finds the queue empty is sound. -/
lemma Sound.start (sound : t.Sound) (hqueue : t.recorder.isActive = false → t.recorder.queue = [])
    (path : Path) (deviceUuid : Option Uuid) (opens : Bool) :
    (t.start path deviceUuid opens).Sound := by
  obtain heq | ⟨hactive, r, hstream, hq, -, -, -, -, ⟨hr, heq⟩ | ⟨hr, heq⟩⟩ :=
    t.start_cases path deviceUuid opens
  · rw [heq]
    exact sound
  · rw [heq]
    exact sound_started r hr hstream (hq.trans (hqueue hactive))
  · rw [heq]
    exact sound_idle r hr hstream

/-- What `submit` does in a session. -/
lemma submit_cases (chunk : Bytes) :
    t.submit chunk = t ∨ chunk ≠ [] ∧ t.recorder.isActive = true ∧
      ((t.recorder.failure.isSome = true ∧
          t.submit chunk = { t with session := t.session.submitted chunk false }) ∨
        (t.recorder.failure = none ∧ t.submit chunk = { t with
          recorder := { t.recorder with failure := some queueCapacityError }
          session := t.session.submitted chunk false }) ∨
        (t.recorder.failure = none ∧
          t.recorder.queuedBytes + chunk.length ≤ t.recorder.queueCapacityBytes ∧
          t.submit chunk = { t with
            recorder := { t.recorder with
              queuedBytes := t.recorder.queuedBytes + chunk.length }
            caller := .putting chunk
            session := t.session.submitted chunk true })) := by
  unfold submit
  dsimp only
  split
  · exact .inl rfl
  · rename_i hchunk
    split
    · exact .inl rfl
    · rename_i hactive
      refine .inr ⟨hchunk, by simpa using hactive, ?_⟩
      split
      · rename_i hfailed
        exact .inl ⟨hfailed, rfl⟩
      · rename_i hfine
        have hnone := Option.not_isSome_iff_eq_none.mp hfine
        split
        · exact .inr (.inl ⟨hnone, rfl⟩)
        · rename_i hroom
          exact .inr (.inr ⟨hnone, not_lt.mp hroom, rfl⟩)

/-- A call that is refused. -/
lemma Sound.refuses (sound : t.Sound) (chunk : Bytes) (failure : Option Text) :
    Sound { t with
      recorder := { t.recorder with failure := failure }
      session := t.session.submitted chunk false } := by
  have hcalls : accepted (t.session.submitted chunk false).calls = accepted t.session.calls := by
    rw [Session.submitted_calls, Bool.false_and]
    exact List.append_nil _
  have hstop := @Session.submitted_stopCalled t.session chunk false
  have herror := @Session.submitted_ioError t.session chunk false
  exact {
    active := sound.active
    stops := fun h => hstop.trans (sound.stops h)
    joined := sound.joined
    late := Session.submitted_late sound.late false
    summary := by
      intro summary h
      exact sound.summary summary ((Session.submitted_summary false).symm.trans h)
    healthy := fun h => herror.trans (sound.healthy h)
    sealed := fun h hmem => hstop.trans (sound.sealed h hmem)
    sentinel := fun h hs => sound.sentinel h (hstop.symm.trans hs)
    kept := by
      intro h
      dsimp only
      rw [hcalls]
      exact sound.kept h
    written := by
      intro h
      dsimp only
      rw [hcalls]
      exact sound.written h
    drained := by
      intro h he
      dsimp only
      rw [hcalls, hstop]
      exact sound.drained h (herror.symm.trans he) }

/-- A call that is accepted. -/
lemma Sound.accepts (sound : t.Sound) (hidle : t.caller = .idle)
    (hactive : t.recorder.isActive = true) (chunk : Bytes) (queuedBytes : Int) :
    Sound { t with
      recorder := { t.recorder with queuedBytes := queuedBytes }
      caller := .putting chunk
      session := t.session.submitted chunk true } := by
  -- a chunk behind `stop` is late, and no call of the session
  have hcalls : accepted (t.session.submitted chunk true).calls =
      accepted t.session.calls ++ if t.session.stopCalled then [] else [chunk] := by
    rw [Session.submitted_calls, Bool.true_and]
    cases t.session.stopCalled with
    | true => rfl
    | false => rfl
  have hstop := @Session.submitted_stopCalled t.session chunk true
  have herror := @Session.submitted_ioError t.session chunk true
  exact {
    active := fun h => absurd (hactive.symm.trans h) Bool.true_eq_false.mp
    stops := by rintro (h | h | h) <;> cases h
    joined := fun h => nomatch h
    late := Session.submitted_late sound.late true
    summary := by
      intro summary h
      exact sound.summary summary ((Session.submitted_summary true).symm.trans h)
    healthy := fun h => herror.trans (sound.healthy h)
    sealed := fun h hmem => hstop.trans (sound.sealed h hmem)
    sentinel := by
      intro h hs
      refine (sound.sentinel h (hstop.symm.trans hs)).imp_right ?_
      intro hstopping
      exact absurd (hidle.symm.trans hstopping) (by rintro ⟨⟩)
    kept := by
      intro h
      have hkept := sound.kept h
      rw [hidle] at hkept
      dsimp only
      rw [hcalls, List.flatten_append, hkept]
      by_cases hmem : none ∈ t.recorder.queue
      · rw [if_pos hmem, if_pos hmem, sound.sealed h hmem, if_pos rfl, List.flatten_nil]
        exact List.append_nil _
      · -- without a sentinel in the queue `stop` has not put one, so it was not called
        have hrun : t.session.stopCalled = false := by
          refine Bool.eq_false_of_not_eq_true ?_
          intro hs
          refine (sound.sentinel h hs).elim hmem ?_
          intro hstopping
          exact absurd (hidle.symm.trans hstopping) (by rintro ⟨⟩)
        rw [if_neg hmem, if_neg hmem, hrun, if_neg Bool.false_ne_true, List.flatten_singleton]
        exact congrArg (· ++ chunk) (List.append_nil _)
    written := by
      intro h
      dsimp only
      rw [hcalls, List.flatten_append]
      exact (sound.written h).trans (List.prefix_append _ _)
    drained := by
      intro h he
      obtain ⟨hstream, hstopped⟩ := sound.drained h (herror.symm.trans he)
      dsimp only
      rw [hcalls, hstop, hstopped hactive, if_pos rfl, List.append_nil]
      exact ⟨hstream, fun _ => rfl⟩ }

/-- A chunk that is accepted is in the hands of the caller. -/
lemma Sound.submit (sound : t.Sound) (hidle : t.caller = .idle) (chunk : Bytes) :
    (t.submit chunk).Sound := by
  obtain heq | ⟨-, hactive, ⟨-, heq⟩ | ⟨-, heq⟩ | ⟨-, -, heq⟩⟩ := t.submit_cases chunk
  · rw [heq]
    exact sound
  · rw [heq]
    exact sound.refuses chunk t.recorder.failure
  · rw [heq]
    exact sound.refuses chunk (some queueCapacityError)
  · rw [heq]
    exact sound.accepts hidle hactive chunk _

/-- `stop` leaves everything where it is. -/
lemma Sound.stop (sound : t.Sound) (hidle : t.caller = .idle) : t.stop.Sound := by
  unfold Threads.stop
  split
  · exact sound
  · rename_i hactive
    exact {
      active := fun h => absurd (by rw [h]; rfl) hactive
      stops := fun _ => rfl
      joined := fun h => nomatch h
      late := fun h => nomatch h
      summary := sound.summary
      healthy := sound.healthy
      sealed := fun _ _ => rfl
      sentinel := fun _ _ => .inr rfl
      kept := by
        intro h
        have hkept := sound.kept h
        rw [hidle] at hkept
        exact hkept
      written := sound.written
      drained := fun h he => ⟨(sound.drained h he).1, fun _ => rfl⟩ }

/-- An item is put into the queue. -/
lemma Sound.put (sound : t.Sound) (item : Option Bytes) (caller : Caller)
    (hactive : t.recorder.isActive = true) (hcaller : caller = .idle ∨ caller = .joining)
    (hstops : caller = .joining → t.session.stopCalled = true)
    (hsentinel : item = none → t.session.stopCalled = true)
    (hpending : t.caller = .stopping → item = none)
    (hitem : t.caller.inHand = item.getD []) : Sound { t.put item with caller := caller } where
  active := fun h => absurd (hactive.symm.trans h) Bool.true_eq_false.mp
  stops := by
    intro h
    dsimp only at h
    obtain rfl | rfl := hcaller
    · obtain h | h | h := h <;> cases h
    · exact hstops rfl
  joined := by
    intro h
    dsimp only at h
    obtain rfl | rfl := hcaller <;> cases h
  late := sound.late
  summary := sound.summary
  healthy := sound.healthy
  sealed := by
    intro h hmem
    cases List.mem_append.mp hmem with
    | inl hold => exact sound.sealed h hold
    | inr hnew => exact hsentinel (List.mem_singleton.mp hnew).symm
  sentinel := by
    intro h hs
    refine .inl ?_
    cases sound.sentinel h hs with
    | inl hold => exact List.mem_append_left _ hold
    | inr hstopping =>
      rw [hpending hstopping]
      exact List.mem_append_right _ (List.mem_singleton.mpr rfl)
  kept := by
    intro h
    have hnone : caller.inHand = [] := by obtain rfl | rfl := hcaller <;> rfl
    refine (sound.kept h).trans ?_
    unfold Threads.put
    dsimp only
    rw [hnone, ite_self, List.append_nil]
    by_cases hmem : none ∈ t.recorder.queue
    · -- behind the sentinel nothing reaches the writer
      rw [if_pos hmem, ahead_append_of_mem hmem, List.append_nil]
    · rw [if_neg hmem, ahead_append_of_not_mem hmem, List.flatten_append, hitem, List.append_assoc,
        List.append_assoc, List.append_assoc]
      cases item with
      | none => rfl
      | some chunk => rw [Option.toList_some, List.flatten_singleton, Option.getD_some]
  written := sound.written
  drained := sound.drained

/-- The join comes back. -/
lemma Sound.waited (sound : t.Sound) (hjoining : t.caller = .joining) (caller : Caller)
    (hcaller : caller = .idle ∨ caller = .joined ∧ t.writer = .ended) :
    Sound { t with caller := caller } where
  active := by
    intro h
    have hidle := (sound.active h).1
    rw [hjoining] at hidle
    cases hidle
  stops := fun _ => sound.stops (.inr (.inl hjoining))
  joined := by
    intro h
    dsimp only at h
    obtain rfl | ⟨-, hended⟩ := hcaller
    · cases h
    · exact hended
  late := sound.late
  summary := sound.summary
  healthy := sound.healthy
  sealed := sound.sealed
  sentinel := by
    intro h hs
    refine .inl ((sound.sentinel h hs).resolve_right ?_)
    rw [hjoining]
    rintro ⟨⟩
  kept := by
    intro h
    have hkept := sound.kept h
    rw [hjoining] at hkept
    obtain rfl | ⟨rfl, -⟩ := hcaller
    · exact hkept
    · exact hkept
  written := sound.written
  drained := sound.drained

/-- The session is over. -/
lemma Sound.finished (sound : t.Sound) (hjoined : t.caller = .joined) (path : Path)
    (failure : Option Text) : Sound { t with
      recorder := { t.recorder with isActive := false }
      caller := .idle
      session := { t.session with summary := some {
        path := path
        bytesWritten := t.recorder.bytesWritten
        failure := failure } } } := by
  have hended := sound.joined hjoined
  have hout : t.writer.inLoop = false := by
    rw [hended]
    rfl
  exact {
    active := fun _ => ⟨rfl, hended⟩
    stops := by rintro (h | h | h) <;> cases h
    joined := fun h => nomatch h
    late := sound.late
    summary := by
      intro summary h
      cases h
      exact ⟨rfl, rfl⟩
    healthy := fun h => absurd (hout.symm.trans h) Bool.false_ne_true
    sealed := fun h => absurd (hout.symm.trans h) Bool.false_ne_true
    sentinel := fun h => absurd (hout.symm.trans h) Bool.false_ne_true
    kept := fun h => absurd (hout.symm.trans h) Bool.false_ne_true
    written := sound.written
    drained := fun h he => ⟨(sound.drained h he).1, fun h => nomatch h⟩ }

/-- What the caller has in its hands it puts into the queue. -/
lemma Sound.callerStep (sound : t.Sound) : t.callerStep.Sound := by
  have hactive : t.caller ≠ .idle → t.recorder.isActive = true := by
    intro hbusy
    by_contra h
    exact hbusy (sound.active (Bool.eq_false_of_not_eq_true h)).1
  unfold Threads.callerStep
  cases hcaller : t.caller with
  | idle => exact sound
  | putting chunk =>
    rw [hcaller] at hactive
    refine sound.put (some chunk) .idle (hactive (by rintro ⟨⟩)) (.inl rfl) (fun h => nomatch h)
      (fun h => nomatch h) ?_ ?_
    · intro h
      exact absurd (hcaller.symm.trans h) (by rintro ⟨⟩)
    · rw [hcaller]
      rfl
  | stopping =>
    rw [hcaller] at hactive
    have hs := sound.stops (.inl hcaller)
    refine sound.put none .joining (hactive (by rintro ⟨⟩)) (.inr rfl) (fun _ => hs) (fun _ => hs)
      (fun _ => rfl) ?_
    rw [hcaller]
    rfl
  | joining =>
    dsimp only
    split
    · rename_i hended
      exact sound.waited hcaller .joined (.inr ⟨rfl, hended⟩)
    · exact sound
  | joined => exact sound.finished hcaller _ _

/-- A join that times out leaves everything where it is. -/
lemma Sound.joinTimesOut (sound : t.Sound) : t.joinTimesOut.Sound := by
  unfold Threads.joinTimesOut
  split
  · rename_i hjoining
    refine sound.waited hjoining _ ?_
    split
    · rename_i hended
      exact .inr ⟨rfl, hended⟩
    · exact .inl rfl
  · exact sound

/-- The writer ends on an error, which leaves a part of what it was to write. -/
lemma Sound.writerFails (sound : t.Sound) (hwriter : t.writer ≠ .ended) (message : Text)
    (left : Bytes) (hleft : left <+: (accepted t.session.calls).flatten) :
    (t.writerFails message left).Sound := by
  have hactive : t.recorder.isActive = true := by
    by_contra h
    exact hwriter (sound.active (Bool.eq_false_of_not_eq_true h)).2
  exact {
    active := fun h => absurd (hactive.symm.trans h) Bool.true_eq_false.mp
    stops := sound.stops
    joined := fun h => absurd (sound.joined h) hwriter
    late := sound.late
    summary := sound.summary
    healthy := fun h => nomatch h
    sealed := fun h => nomatch h
    sentinel := fun h => nomatch h
    kept := fun h => nomatch h
    written := fun _ => hleft
    drained := fun _ h => nomatch h }

/-- The writer takes the sentinel: everything that was accepted before is in the file. -/
lemma Sound.took_sentinel (sound : t.Sound) (hwriter : t.writer = .waiting)
    {queue : List (Option Bytes)} (hqueue : t.recorder.queue = none :: queue) :
    Sound { t with recorder := { t.recorder with queue := queue }, writer := .flushing } := by
  have hin : t.writer.inLoop = true := by
    rw [hwriter]
    rfl
  have hmem : none ∈ t.recorder.queue := by
    rw [hqueue]
    exact List.mem_cons_self
  have hkept := sound.kept hin
  rw [if_pos hmem, hwriter, hqueue] at hkept
  have hstream : (accepted t.session.calls).flatten = t.recorder.stream :=
    hkept.trans (by simp [ahead, Writer.inHand])
  exact {
    active := by
      intro h
      have hended := (sound.active h).2
      rw [hwriter] at hended
      cases hended
    stops := sound.stops
    joined := by
      intro h
      have hended := sound.joined h
      rw [hwriter] at hended
      cases hended
    late := sound.late
    summary := sound.summary
    healthy := fun h => nomatch h
    sealed := fun h => nomatch h
    sentinel := fun h => nomatch h
    kept := fun h => nomatch h
    written := by
      intro _
      rw [hstream]
    drained := fun _ _ => ⟨hstream.symm, fun _ => sound.sealed hin hmem⟩ }

/-- The writer goes on in its loop. -/
lemma Sound.loops (sound : t.Sound) (hin : t.writer.inLoop = true) (r : RawSessionRecorder)
    (writer : Writer) (hin' : writer.inLoop = true) (hr : r.isActive = t.recorder.isActive)
    (hmem : none ∈ r.queue ↔ none ∈ t.recorder.queue)
    (hdata : r.stream ++ writer.inHand ++ (ahead r.queue).flatten =
      t.recorder.stream ++ t.writer.inHand ++ (ahead t.recorder.queue).flatten) :
    Sound { t with recorder := r, writer := writer } := by
  have hbusy : t.writer ≠ .ended := by
    intro h
    rw [h] at hin
    cases hin
  have hactive : t.recorder.isActive = true := by
    by_contra h
    exact hbusy (sound.active (Bool.eq_false_of_not_eq_true h)).2
  exact {
    active := fun h => absurd (hactive.symm.trans (hr.symm.trans h)) Bool.true_eq_false.mp
    stops := sound.stops
    joined := fun h => absurd (sound.joined h) hbusy
    late := sound.late
    summary := by
      intro summary h
      exact absurd (hactive.symm.trans (sound.summary summary h).1) Bool.true_eq_false.mp
    healthy := fun _ => sound.healthy hin
    sealed := fun _ h => sound.sealed hin (hmem.mp h)
    sentinel := fun _ hs => (sound.sentinel hin hs).imp_left hmem.mpr
    kept := by
      intro _
      refine (sound.kept hin).trans ?_
      dsimp only
      rw [hdata, if_congr hmem.symm rfl rfl]
    written := fun h => absurd (hin'.symm.trans h) Bool.true_eq_false.mp
    drained := fun h => absurd (hin'.symm.trans h) Bool.true_eq_false.mp }

/-- The writer goes on behind its loop. -/
lemma Sound.leaves (sound : t.Sound) (hout : t.writer.inLoop = false) (hbusy : t.writer ≠ .ended)
    (alive : Bool) (writer : Writer) (hout' : writer.inLoop = false) :
    Sound { t with recorder := { t.recorder with writerAlive := alive }, writer := writer } where
  active := fun h => absurd (sound.active h).2 hbusy
  stops := sound.stops
  joined := fun h => absurd (sound.joined h) hbusy
  late := sound.late
  summary := sound.summary
  healthy := fun h => absurd (h.symm.trans hout') Bool.true_eq_false.mp
  sealed := fun h => absurd (h.symm.trans hout') Bool.true_eq_false.mp
  sentinel := fun h => absurd (h.symm.trans hout') Bool.true_eq_false.mp
  kept := fun h => absurd (h.symm.trans hout') Bool.true_eq_false.mp
  written := fun _ => sound.written hout
  drained := fun _ => sound.drained hout

/-- The writer takes what is ahead, and writes it. -/
lemma Sound.writerStep (sound : t.Sound) (outcome : WriterOutcome) :
    (t.writerStep outcome).Sound := by
  have hin : ∀ writer : Writer, t.writer = writer → t.writer.inLoop = writer.inLoop :=
    fun _ h => congrArg Writer.inLoop h
  unfold Threads.writerStep
  cases hwriter : t.writer with
  | waiting =>
    dsimp only
    cases hqueue : t.recorder.queue with
    | nil => exact sound
    | cons item queue =>
      cases item with
      | none => exact sound.took_sentinel hwriter hqueue
      -- the chunk goes from the queue into the hands of the writer
      | some chunk =>
        refine sound.loops (hin _ hwriter) _ (.writing chunk) rfl rfl ?_ ?_
        · rw [hqueue]
          exact ⟨List.mem_cons_of_mem _, fun h => (List.mem_cons.mp h).resolve_left (by rintro ⟨⟩)⟩
        · rw [hwriter, hqueue]
          simp [Writer.inHand, ahead]
  | writing chunk =>
    cases outcome with
    | ok =>
      refine sound.loops (hin _ hwriter) _ (.accounting chunk) rfl rfl Iff.rfl ?_
      rw [hwriter]
      exact congrArg (· ++ (ahead t.recorder.queue).flatten) (List.append_nil _)
    | osError message kept =>
      refine sound.writerFails (by rw [hwriter]; rintro ⟨⟩) message _ ?_
      rw [sound.kept (hin _ hwriter), hwriter, List.append_assoc]
      exact (List.take_prefix _ _).trans (List.prefix_append _ _)
  | accounting chunk =>
    refine sound.loops (hin _ hwriter) _ .waiting rfl rfl Iff.rfl ?_
    rw [hwriter]
    rfl
  | flushing =>
    cases outcome with
    | ok => exact sound.leaves (hin _ hwriter) (by rw [hwriter]; rintro ⟨⟩) _ .closing rfl
    | osError message kept =>
      refine sound.writerFails (by rw [hwriter]; rintro ⟨⟩) message _ ?_
      exact (List.take_prefix _ _).trans (sound.written (hin _ hwriter))
  | closing => exact sound.leaves (hin _ hwriter) (by rw [hwriter]; rintro ⟨⟩) false .ended rfl
  | ended => exact sound

/-- A step keeps the law, if a session begins with an empty queue. -/
lemma Sound.step (sound : t.Sound) (a : Action)
    (hqueue : a.isStart = true → t.recorder.isActive = false → t.recorder.queue = []) :
    (t.step a).Sound := by
  unfold Threads.step
  cases a with
  | start path deviceUuid opens =>
    dsimp only
    split
    · exact sound.start (hqueue rfl) path deviceUuid opens
    · exact sound
  | submit chunk =>
    dsimp only
    split
    · rename_i hidle
      exact sound.submit hidle chunk
    · exact sound
  | stop =>
    dsimp only
    split
    · rename_i hidle
      exact sound.stop hidle
    · exact sound
  | caller => exact sound.callerStep
  | joinTimesOut => exact sound.joinTimesOut
  | writer outcome => exact sound.writerStep outcome

/-- `submit` without interruption. -/
theorem run_submit (hidle : t.caller = .idle) {chunk : Bytes} {r : RawSessionRecorder}
    {accepted : Bool} (h : t.recorder.submit chunk = .ok (r, accepted)) :
    (t.run [.submit chunk, .caller]).recorder = r ∧
      (t.run [.submit chunk, .caller]).caller = .idle := by
  have hrun : t.run [.submit chunk, .caller] = (t.submit chunk).callerStep := by
    unfold run Threads.step
    rw [List.foldl_cons, List.foldl_cons, List.foldl_nil]
    dsimp only
    rw [if_pos hidle]
  have hstays : ∀ t' : Threads, t'.caller = .idle → t'.callerStep = t' := by
    intro t' hidle'
    unfold Threads.callerStep
    rw [hidle']
  rw [hrun]
  unfold RawSessionRecorder.submit at h
  unfold Threads.submit
  dsimp only
  split at h
  · rename_i hchunk
    cases h
    rw [if_pos hchunk, hstays t hidle]
    exact ⟨rfl, hidle⟩
  · rename_i hchunk
    rw [if_neg hchunk]
    split at h
    · cases h
    · rename_i hactive
      rw [if_neg hactive]
      split at h
      · rename_i hfailed
        cases h
        rw [if_pos hfailed, hstays { t with session := t.session.submitted chunk false } hidle]
        exact ⟨rfl, hidle⟩
      · rename_i hfine
        rw [if_neg hfine]
        split at h
        · rename_i hfull
          cases h
          rw [if_pos hfull, hstays { t with
            recorder := { t.recorder with failure := some queueCapacityError }
            session := t.session.submitted chunk false } hidle]
          exact ⟨rfl, hidle⟩
        · rename_i hroom
          cases h
          rw [if_neg hroom]
          exact ⟨rfl, rfl⟩

/-- The writer is before `get`, or gone, and the recorder knows. -/
def Between (t : Threads) : Prop :=
  t.writer = .waiting ∧ t.recorder.writerAlive = true ∨
    t.writer = .ended ∧ t.recorder.writerAlive = false

/-- A pass of the writer without interruption. -/
theorem run_writerStep (between : t.Between) (outcome : WriterOutcome) :
    (t.run [.writer .ok, .writer outcome, .writer .ok]).recorder = t.recorder.writerStep outcome ∧
      (t.run [.writer .ok, .writer outcome, .writer .ok]).Between ∧
      (t.run [.writer .ok, .writer outcome, .writer .ok]).caller = t.caller := by
  have hrun : t.run [.writer .ok, .writer outcome, .writer .ok] =
      ((t.writerStep .ok).writerStep outcome).writerStep .ok := rfl
  rw [hrun]
  unfold RawSessionRecorder.writerStep
  obtain ⟨hwriter, halive⟩ | ⟨hwriter, halive⟩ := between
  · rw [if_neg (by rw [halive]; simp)]
    cases hqueue : t.recorder.queue with
    | nil =>
      have hblocked : ∀ outcome, t.writerStep outcome = t := by
        intro outcome
        unfold Threads.writerStep
        dsimp only
        rw [hwriter]
        dsimp only
        rw [hqueue]
      rw [hblocked, hblocked, hblocked]
      exact ⟨rfl, .inl ⟨hwriter, halive⟩, rfl⟩
    | cons item queue =>
      cases item with
      | none =>
        have htake : t.writerStep .ok =
            { t with recorder := { t.recorder with queue }, writer := .flushing } := by
          unfold Threads.writerStep
          dsimp only
          rw [hwriter]
          dsimp only
          rw [hqueue]
        rw [htake]
        cases outcome with
        | ok => exact ⟨rfl, .inr ⟨rfl, rfl⟩, rfl⟩
        | osError message kept =>
          refine ⟨?_, .inr ⟨rfl, rfl⟩, rfl⟩
          dsimp only
          rw [Option.getD_none, List.append_nil]
          rfl
      | some chunk =>
        have htake : t.writerStep .ok =
            { t with recorder := { t.recorder with queue }, writer := .writing chunk } := by
          unfold Threads.writerStep
          dsimp only
          rw [hwriter]
          dsimp only
          rw [hqueue]
        rw [htake]
        cases outcome with
        | ok => exact ⟨rfl, .inl ⟨rfl, halive⟩, rfl⟩
        | osError message kept => exact ⟨rfl, .inr ⟨rfl, rfl⟩, rfl⟩
  · have hgone : ∀ outcome, t.writerStep outcome = t := by
      intro outcome
      unfold Threads.writerStep
      dsimp only
      rw [hwriter]
    rw [if_pos (by rw [halive]; rfl), hgone, hgone, hgone]
    exact ⟨rfl, .inr ⟨hwriter, halive⟩, rfl⟩

/-- Passes of the writer. -/
def passes (outcomes : List WriterOutcome) : List Action :=
  outcomes.flatMap fun outcome => [.writer .ok, .writer outcome, .writer .ok]

/-- Whole passes of the writer are the `writerSteps` of the recorder. -/
theorem run_writerSteps (between : t.Between) (outcomes : List WriterOutcome) :
    (t.run (passes outcomes)).recorder = t.recorder.writerSteps outcomes ∧
      (t.run (passes outcomes)).Between ∧ (t.run (passes outcomes)).caller = t.caller := by
  induction outcomes generalizing t with
  | nil => exact ⟨rfl, between, rfl⟩
  | cons outcome outcomes ih =>
    obtain ⟨hrecorder, hbetween, hcaller⟩ := run_writerStep between outcome
    obtain ⟨hrecorder', hbetween', hcaller'⟩ := ih hbetween
    have hrun : t.run (passes (outcome :: outcomes)) =
        (t.run [.writer .ok, .writer outcome, .writer .ok]).run (passes outcomes) := rfl
    rw [hrun]
    refine ⟨hrecorder'.trans ?_, hbetween', hcaller'.trans hcaller⟩
    rw [hrecorder]
    rfl

/-- `stop` without interruption but for the writer. -/
theorem run_stop (between : t.Between) (hidle : t.caller = .idle)
    (hactive : t.recorder.isActive = true) (outcomes : List WriterOutcome)
    (metadataError : Option Text) :
    (t.run ([.stop, .caller] ++ passes outcomes ++ [.joinTimesOut, .caller])).recorder =
      (t.recorder.stop outcomes metadataError).1 := by
  rw [RawSessionRecorder.stop_fst]
  have hput : t.run [.stop, .caller] = { t.put none with
      caller := .joining, session := { t.session with stopCalled := true } } := by
    unfold run Threads.step Threads.stop
    rw [List.foldl_cons, List.foldl_cons, List.foldl_nil]
    dsimp only
    rw [if_pos hidle, hactive]
    rfl
  obtain ⟨hrecorder, hbetween, hcaller⟩ := run_writerSteps (t := t.run [.stop, .caller])
    (by rw [hput]; exact between) outcomes
  have hsplit : t.run ([.stop, .caller] ++ passes outcomes ++ [.joinTimesOut, .caller]) =
      ((t.run [.stop, .caller]).run (passes outcomes)).joinTimesOut.callerStep := by
    unfold run
    rw [List.foldl_append, List.foldl_append]
    rfl
  rw [hsplit]
  generalize (t.run [.stop, .caller]).run (passes outcomes) = joining at *
  rw [hput] at hrecorder hcaller
  have hrecorder' : joining.recorder =
      { t.recorder with queue := t.recorder.queue ++ [none] }.writerSteps outcomes := hrecorder
  have hon : ¬(!t.recorder.isActive) = true := by
    rw [hactive]
    exact Bool.false_ne_true
  have hcaller' : joining.caller = .joining := hcaller
  unfold RawSessionRecorder.drain Threads.joinTimesOut
  rw [if_neg hon, hcaller']
  dsimp only
  rw [← hrecorder']
  obtain ⟨hwriter, halive⟩ | ⟨hwriter, halive⟩ := hbetween
  · have hbusy : joining.writer ≠ .ended := by
      rw [hwriter]
      rintro ⟨⟩
    rw [if_pos halive, if_neg hbusy]
    rfl
  · have hdead : ¬joining.recorder.writerAlive = true := by
      rw [halive]
      exact Bool.false_ne_true
    rw [if_neg hdead, if_pos hwriter]
    rfl

end Threads

end SensorHost.Storage
