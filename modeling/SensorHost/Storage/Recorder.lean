import SensorHost.Protocol.Frame

/-!
# The raw session recorder

Model of `RawSessionRecorder`: chunks are queued with a bound on the queued bytes, and a writer
thread appends them to the file. The writer is a step function (`writerStep`) whose outcome, success
or an `OSError`, is given from outside; `stop` is given the outcomes of the steps the writer takes
while it is joined. Of the session metadata only the UUID is kept.

`submit` refuses a chunk that does not fit and raises behind an error of the writer, with the texts
of the source. The writer takes one item at a time; it ends at the sentinel or at an `OSError`,
behind which what was in its buffer may be lost. `stop` waits for it, and ends by writing the
metadata, whose `OSError` it passes on. The field `received` is a ghost: everything that was
accepted since the start.
-/

namespace SensorHost.Storage
open SensorHost.Lib SensorHost.Protocol

/-- The parts of a path. -/
abbrev Path := List Text

/-- `queue_capacity_bytes` by default. -/
def defaultQueueCapacityBytes : Nat := 4 * 1024 * 1024

def queueCapacityError : Text := "recording queue capacity exceeded".toList

/-- The `RuntimeError`s of a recorder. -/
inductive RecorderError where
  | alreadyActive
  | notActive
  | didNotStop
  deriving DecidableEq

/-- The message of the error. -/
def RecorderError.message : RecorderError → Text
  | .alreadyActive => "recording is already active".toList
  | .notActive => "recording is not active".toList
  | .didNotStop => "recording writer did not stop within five seconds".toList

/-- What `stop` raises: a `RuntimeError`, or the `OSError` of writing the metadata. -/
inductive StopError where
  | runtime (error : RecorderError)
  | osError (message : Text)
  deriving DecidableEq

/-- The queue has room by default. -/
lemma defaultQueueCapacityBytes_pos : 0 < defaultQueueCapacityBytes := by decide

/-- `RawSessionRecorder`; `stream` is the content of the file at `path`. -/
structure RawSessionRecorder where
  queueCapacityBytes : Nat := defaultQueueCapacityBytes
  capacity_pos : 0 < queueCapacityBytes := by first | exact defaultQueueCapacityBytes_pos | decide
  queue : List (Option Bytes) := []
  queuedBytes : Int := 0
  bytesWritten : Nat := 0
  failure : Option Text := none
  isActive : Bool := false
  path : Path := []
  deviceUuid : Option Uuid := none
  stream : Bytes := []
  writerAlive : Bool := false

/-- What `stop` returns. -/
structure RecordingSummary where
  path : Path
  bytesWritten : Nat
  failure : Option Text
  deriving DecidableEq

/-- How one step of the writer ends: an `OSError` leaves the first `kept` bytes of what was written
so far and in this step. -/
inductive WriterOutcome where
  | ok
  | osError (message : Text) (kept : Nat)
  deriving DecidableEq

namespace RawSessionRecorder

/-- `start(path, metadata)`, once the file is open. -/
def start (r : RawSessionRecorder) (path : Path) (deviceUuid : Option Uuid) :
    Except RecorderError RawSessionRecorder :=
  if r.isActive then .error .alreadyActive
  else
    .ok { r with
      queuedBytes := 0
      bytesWritten := 0
      failure := none
      path := path
      deviceUuid := deviceUuid
      stream := []
      isActive := true
      writerAlive := true }

/-- `submit`: whether the chunk was accepted. -/
def submit (r : RawSessionRecorder) (chunk : Bytes) :
    Except RecorderError (RawSessionRecorder × Bool) :=
  if chunk = [] then .ok (r, true)
  else if !r.isActive then .error .notActive
  else if r.failure.isSome then .ok (r, false)
  else if r.queuedBytes + chunk.length > r.queueCapacityBytes then
    .ok ({ r with failure := some queueCapacityError }, false)
  else
    .ok ({ r with
      queuedBytes := r.queuedBytes + chunk.length
      queue := r.queue ++ [some chunk] }, true)

/-- The writer ends on an `OSError`; only the first failure is kept. -/
def writerFails (r : RawSessionRecorder) (message : Text) (left : Bytes) : RawSessionRecorder :=
  { r with
    failure := r.failure.or (some ("recording write failed: ".toList ++ message))
    stream := left
    writerAlive := false }

/-- One pass of `_writer_loop`; an empty queue blocks it, and `none` in the queue ends it. -/
def writerStep (r : RawSessionRecorder) (outcome : WriterOutcome) : RawSessionRecorder :=
  if !r.writerAlive then r
  else
    match r.queue with
    | [] => r
    | item :: queue =>
      let r := { r with queue }
      match outcome with
      | .osError message kept =>
        r.writerFails message ((r.stream ++ item.getD []).take kept)
      | .ok =>
        match item with
        | none => { r with writerAlive := false }
        | some chunk =>
          { r with
            queuedBytes := r.queuedBytes - chunk.length
            bytesWritten := r.bytesWritten + chunk.length
            stream := r.stream ++ chunk }

/-- Several passes of the writer. -/
def writerSteps (r : RawSessionRecorder) (outcomes : List WriterOutcome) : RawSessionRecorder :=
  outcomes.foldl writerStep r

/-- `stop` up to its last step, where the writer takes the given steps before the join returns. -/
def drain (r : RawSessionRecorder) (outcomes : List WriterOutcome) :
    RawSessionRecorder × Except RecorderError RecordingSummary :=
  if !r.isActive then (r, .error .notActive)
  else
    let r := { r with queue := r.queue ++ [none] }.writerSteps outcomes
    if r.writerAlive then (r, .error .didNotStop)
    else
      ({ r with isActive := false },
        .ok { path := r.path, bytesWritten := r.bytesWritten, failure := r.failure })

/-- `stop`. Its last step, `_write_metadata`, may raise an `OSError`; the recorder is inactive by
then. -/
def stop (r : RawSessionRecorder) (outcomes : List WriterOutcome) (metadataError : Option Text) :
    RawSessionRecorder × Except StopError RecordingSummary :=
  match r.drain outcomes with
  | (r, .error error) => (r, .error (.runtime error))
  | (r, .ok summary) =>
    match metadataError with
    | some message => (r, .error (.osError message))
    | none => (r, .ok summary)

/-- Writing the metadata changes nothing of the recorder. -/
lemma stop_fst (r : RawSessionRecorder) (outcomes : List WriterOutcome)
    (metadataError : Option Text) : (r.stop outcomes metadataError).1 = (r.drain outcomes).1 := by
  unfold stop
  obtain ⟨r', error | summary⟩ := r.drain outcomes
  · rfl
  · cases metadataError with
    | none => rfl
    | some message => rfl

/-- The writer does not end a session. -/
lemma writerStep_isActive (r : RawSessionRecorder) (outcome : WriterOutcome) :
    (r.writerStep outcome).isActive = r.isActive := by
  unfold writerStep
  split
  · rfl
  · split
    · rfl
    · cases outcome with
      | osError message kept => rfl
      | ok =>
        dsimp only
        split <;> rfl

/-- Submitting to an active recorder does not raise, and leaves it active. -/
lemma submit_of_active {r : RawSessionRecorder} (h : r.isActive = true) (chunk : Bytes) :
    ∃ r' accepted, r.submit chunk = .ok (r', accepted) ∧ r'.isActive = true := by
  unfold submit
  rw [h]
  split
  · exact ⟨r, true, rfl, h⟩
  · rw [if_neg (by simp)]
    split
    · exact ⟨r, false, rfl, h⟩
    · split
      · exact ⟨_, false, rfl, rfl⟩
      · exact ⟨_, true, rfl, rfl⟩

/-- What `submit` does: nothing, note that the queue is full, or queue the chunk. -/
lemma submit_cases {r r' : RawSessionRecorder} {chunk : Bytes} {accepted : Bool}
    (h : r.submit chunk = .ok (r', accepted)) :
    (r' = r ∧ (chunk = [] ∨ r.failure.isSome = true)) ∨
      (r' = { r with failure := some queueCapacityError }) ∨
      (r.failure = none ∧ r' = { r with
        queuedBytes := r.queuedBytes + chunk.length
        queue := r.queue ++ [some chunk] }) := by
  unfold submit at h
  split at h
  · rename_i hempty
    cases h
    exact .inl ⟨rfl, .inl hempty⟩
  · split at h
    · cases h
    · split at h
      · rename_i hfailed
        cases h
        exact .inl ⟨rfl, .inr hfailed⟩
      · rename_i hfine
        split at h
        · cases h
          exact .inr (.inl rfl)
        · cases h
          exact .inr (.inr ⟨Option.not_isSome_iff_eq_none.mp hfine, rfl⟩)

/-- Submitting neither starts nor stops a recorder. -/
lemma submit_isActive {r r' : RawSessionRecorder} {chunk : Bytes} {accepted : Bool}
    (h : r.submit chunk = .ok (r', accepted)) : r'.isActive = r.isActive := by
  obtain ⟨rfl, -⟩ | rfl | ⟨-, rfl⟩ := submit_cases h
  · rfl
  · rfl
  · rfl

/-- The bytes in the file, and behind them those in the queue. -/
def received (r : RawSessionRecorder) : Bytes :=
  r.stream ++ (r.queue.filterMap id).flatten

/-- Without a failure, what was received before is followed by the chunk. -/
lemma submit_received {r r' : RawSessionRecorder} {chunk : Bytes} {accepted : Bool}
    (h : r.submit chunk = .ok (r', accepted)) (hfine : r'.failure = none) :
    r.failure = none ∧ accepted = true ∧ r'.received = r.received ++ chunk := by
  unfold submit at h
  split at h
  · rename_i hempty
    cases h
    rw [hempty, List.append_nil]
    exact ⟨hfine, rfl, rfl⟩
  · split at h
    · cases h
    · split at h
      · rename_i hfailed
        cases h
        rw [hfine] at hfailed
        cases hfailed
      · rename_i hnone
        split at h
        · cases h
          cases hfine
        · cases h
          refine ⟨Option.not_isSome_iff_eq_none.mp hnone, rfl, ?_⟩
          unfold received
          rw [List.filterMap_append, List.flatten_append, ← List.append_assoc]
          exact congrArg (_ ++ ·) (List.append_nil chunk)

/-- The writer moves bytes from the queue to the file. -/
lemma writerStep_received {r : RawSessionRecorder} {outcome : WriterOutcome}
    (hfine : (r.writerStep outcome).failure = none) :
    r.failure = none ∧ (r.writerStep outcome).received = r.received := by
  unfold writerStep at hfine ⊢
  split at hfine
  · rename_i hdead
    rw [if_pos hdead]
    exact ⟨hfine, rfl⟩
  · rename_i halive
    rw [if_neg halive]
    cases hqueue : r.queue with
    | nil =>
      rw [hqueue] at hfine
      exact ⟨hfine, rfl⟩
    | cons item queue =>
      rw [hqueue] at hfine
      cases outcome with
      | osError message kept =>
        unfold writerFails at hfine
        dsimp only at hfine
        cases (Option.or_eq_none_iff.mp hfine).2
      | ok =>
        unfold received
        rw [hqueue]
        cases item with
        | none => exact ⟨hfine, rfl⟩
        | some chunk => exact ⟨hfine, List.append_assoc _ _ _⟩

/-- Passes behind which there is no error had none before, and lose nothing. -/
lemma writerSteps_received {r : RawSessionRecorder} {outcomes : List WriterOutcome}
    (hfine : (r.writerSteps outcomes).failure = none) :
    r.failure = none ∧ (r.writerSteps outcomes).received = r.received := by
  induction outcomes generalizing r with
  | nil => exact ⟨hfine, rfl⟩
  | cons outcome outcomes ih =>
    obtain ⟨hfine', hrest⟩ := ih hfine
    obtain ⟨hfirst, hstep⟩ := writerStep_received hfine'
    exact ⟨hfirst, hrest.trans hstep⟩

/-- Nor do its passes. -/
lemma writerSteps_isActive (r : RawSessionRecorder) (outcomes : List WriterOutcome) :
    (r.writerSteps outcomes).isActive = r.isActive := by
  induction outcomes generalizing r with
  | nil => rfl
  | cons outcome outcomes ih => exact (ih _).trans (writerStep_isActive r outcome)

/-- The path of the file, and the device it was started for. -/
def file (r : RawSessionRecorder) : Path × Option Uuid := (r.path, r.deviceUuid)

/-- Submitting a chunk does not change the file. -/
lemma submit_file {r r' : RawSessionRecorder} {chunk : Bytes} {accepted : Bool}
    (h : r.submit chunk = .ok (r', accepted)) : r'.file = r.file := by
  obtain ⟨rfl, -⟩ | rfl | ⟨-, rfl⟩ := submit_cases h
  · rfl
  · rfl
  · rfl

/-- Nor does a pass of the writer. -/
lemma writerStep_file (r : RawSessionRecorder) (outcome : WriterOutcome) :
    (r.writerStep outcome).file = r.file := by
  unfold writerStep
  split
  · rfl
  · split
    · rfl
    · cases outcome with
      | osError message kept => rfl
      | ok =>
        dsimp only
        split
        · rfl
        · rfl

/-- Nor do several. -/
lemma writerSteps_file (r : RawSessionRecorder) (outcomes : List WriterOutcome) :
    (r.writerSteps outcomes).file = r.file := by
  induction outcomes generalizing r with
  | nil => rfl
  | cons outcome outcomes ih => exact (ih _).trans (writerStep_file r outcome)

/-- Stopping keeps the file. -/
lemma drain_file (r : RawSessionRecorder) (outcomes : List WriterOutcome) :
    (r.drain outcomes).1.file = r.file := by
  have hsteps := writerSteps_file { r with queue := r.queue ++ [none] } outcomes
  unfold drain
  split
  · rfl
  · dsimp only
    split
    · exact hsteps
    · exact hsteps

end RawSessionRecorder

/-- The recorders there are, by identity. -/
abbrev Recorders := Nat → RawSessionRecorder

end SensorHost.Storage
