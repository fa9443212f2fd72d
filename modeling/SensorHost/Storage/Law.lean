import SensorHost.Storage.Threads

/-!
# What a session of the recorder keeps

The bytes are accounted for at every step (`Counted`), so in a session without an I/O error the file
is what was accepted (`session_law`). A session has nothing to do with the ones before it if it
begins with an empty queue (`sessions_isolated`); `start` does not see to that
(`not_always_isolated`).

`Counted` is the second invariant beside `Sound` of `Storage.Threads`: the queued bytes are the
accepted bytes less the written ones. Both are kept by every step, and a history whose sessions
begin with an empty queue (`Clean`) has both behind it. `InTime` is about the last part of a
session: as long as no join times out, `stop` is answered by a recorder whose writer is gone, so no
chunk is accepted behind it.
-/

namespace SensorHost.Storage
open SensorHost.Lib SensorHost.Protocol

/-- What the writer has written and not accounted for. -/
def Writer.unaccounted : Writer → Bytes
  | accounting chunk => chunk
  | _ => []

namespace Threads

/-- The bytes of the accepted chunks are queued or written, and behind a refusal nothing is
accepted. -/
structure Counted (t : Threads) : Prop where
  total : t.recorder.queuedBytes + t.recorder.bytesWritten =
    ((accepted t.session.all).flatten.length : Int)
  bound : t.recorder.queuedBytes ≤ t.recorder.queueCapacityBytes
  nonempty : ∀ call ∈ t.session.all, call.1 ≠ []
  order : t.session.all.Pairwise fun earlier later => earlier.2 = false → later.2 = false
  refused : t.recorder.failure = none → ∀ call ∈ t.session.all, call.2 = true
  balance : t.session.ioError = false →
    t.recorder.bytesWritten + t.writer.unaccounted.length = t.recorder.stream.length

variable {t : Threads}

/-- Before the first call. -/
lemma counted_fresh (r : RawSessionRecorder) (writer : Writer) (hqueued : r.queuedBytes = 0)
    (hwritten : r.bytesWritten = 0) (hstream : r.stream = []) (hwriter : writer.unaccounted = []) :
    ({ recorder := r, writer := writer } : Threads).Counted where
  total := by
    dsimp only
    rw [hqueued, hwritten]
    rfl
  bound := by
    dsimp only
    rw [hqueued]
    exact Int.natCast_nonneg _
  nonempty := fun _ h => nomatch h
  order := List.Pairwise.nil
  refused := fun _ _ h => nomatch h
  balance := by
    intro _
    dsimp only
    rw [hwritten, hstream, hwriter]
    rfl

/-- A session begins with nothing to count. -/
lemma Counted.start (counted : t.Counted) (path : Path) (deviceUuid : Option Uuid) (opens : Bool) :
    (t.start path deviceUuid opens).Counted := by
  obtain heq | ⟨-, r, hstream, -, -, hqueued, hwritten, -, ⟨-, heq⟩ | ⟨-, heq⟩⟩ :=
    t.start_cases path deviceUuid opens
  · rw [heq]
    exact counted
  · rw [heq]
    exact counted_fresh r .waiting hqueued hwritten hstream rfl
  · rw [heq]
    exact counted_fresh r .ended hqueued hwritten hstream rfl

/-- A refused call. -/
lemma Counted.refuses (counted : t.Counted) (sound : t.Sound) {chunk : Bytes} (hchunk : chunk ≠ [])
    (failure : Option Text) (hfailure : failure ≠ none) : Counted { t with
      recorder := { t.recorder with failure := failure }
      session := t.session.submitted chunk false } := by
  have hall := @Session.submitted_all t.session chunk sound.late false
  exact {
    total := by
      dsimp only
      rw [hall, accepted_append]
      exact counted.total.trans (congrArg (fun n : Nat => (n : Int)) (by simp [accepted]))
    bound := counted.bound
    nonempty := by
      intro call hcall
      dsimp only at hcall
      rw [hall] at hcall
      cases List.mem_append.mp hcall with
      | inl hold => exact counted.nonempty call hold
      | inr hnew =>
        rw [List.mem_singleton.mp hnew]
        exact hchunk
    order := by
      dsimp only
      rw [hall, List.pairwise_append]
      refine ⟨counted.order, List.pairwise_singleton _ _, ?_⟩
      intro earlier _ later hlater _
      rw [List.mem_singleton.mp hlater]
    refused := fun h => absurd h hfailure
    balance := fun h => counted.balance ((Session.submitted_ioError false).symm.trans h) }

/-- An accepted call. -/
lemma Counted.accepts (counted : t.Counted) (sound : t.Sound) {chunk : Bytes} (hchunk : chunk ≠ [])
    (hfailure : t.recorder.failure = none)
    (hroom : t.recorder.queuedBytes + chunk.length ≤ t.recorder.queueCapacityBytes) :
    Counted { t with
      recorder := { t.recorder with queuedBytes := t.recorder.queuedBytes + chunk.length }
      caller := .putting chunk
      session := t.session.submitted chunk true } := by
  have hall := @Session.submitted_all t.session chunk sound.late true
  exact {
    total := by
      have htotal := counted.total
      dsimp only
      rw [hall, accepted_append, List.flatten_append, List.length_append]
      have hnew : (accepted [(chunk, true)]).flatten = chunk := by simp [accepted]
      rw [hnew]
      push_cast
      omega
    bound := hroom
    nonempty := by
      intro call hcall
      dsimp only at hcall
      rw [hall] at hcall
      cases List.mem_append.mp hcall with
      | inl hold => exact counted.nonempty call hold
      | inr hnew =>
        rw [List.mem_singleton.mp hnew]
        exact hchunk
    order := by
      dsimp only
      rw [hall, List.pairwise_append]
      refine ⟨counted.order, List.pairwise_singleton _ _, ?_⟩
      intro earlier hearlier later _ hfalse
      -- behind a refusal the recorder has failed, and accepts nothing more
      rw [counted.refused hfailure earlier hearlier] at hfalse
      cases hfalse
    refused := by
      intro _ call hcall
      dsimp only at hcall
      rw [hall] at hcall
      cases List.mem_append.mp hcall with
      | inl hold => exact counted.refused hfailure call hold
      | inr hnew => rw [List.mem_singleton.mp hnew]
    balance := fun h => counted.balance ((Session.submitted_ioError true).symm.trans h) }

/-- A chunk is counted if it is accepted. -/
lemma Counted.submit (counted : t.Counted) (sound : t.Sound) (chunk : Bytes) :
    (t.submit chunk).Counted := by
  obtain heq | ⟨hchunk, -, ⟨hfailed, heq⟩ | ⟨-, heq⟩ | ⟨hfine, hroom, heq⟩⟩ := t.submit_cases chunk
  · rw [heq]
    exact counted
  · rw [heq]
    refine counted.refuses sound hchunk t.recorder.failure ?_
    intro hnone
    rw [hnone] at hfailed
    cases hfailed
  · rw [heq]
    exact counted.refuses sound hchunk (some queueCapacityError) (by rintro ⟨⟩)
  · rw [heq]
    exact counted.accepts sound hchunk hfine hroom

/-- A step that touches neither the counters nor the calls. -/
lemma Counted.of_eq (counted : t.Counted) {t' : Threads}
    (hrecorder : t'.recorder.queuedBytes = t.recorder.queuedBytes ∧
      t'.recorder.bytesWritten = t.recorder.bytesWritten ∧
      t'.recorder.queueCapacityBytes = t.recorder.queueCapacityBytes)
    (hfailure : t'.recorder.failure = none → t.recorder.failure = none)
    (hall : t'.session.all = t.session.all)
    (hbalance : t'.session.ioError = false → t.session.ioError = false ∧
      t'.writer.unaccounted.length + t.recorder.stream.length =
        t.writer.unaccounted.length + t'.recorder.stream.length) : t'.Counted where
  total := by
    rw [hrecorder.1, hrecorder.2.1, hall]
    exact counted.total
  bound := by
    rw [hrecorder.1, hrecorder.2.2]
    exact counted.bound
  nonempty := by
    rw [hall]
    exact counted.nonempty
  order := by
    rw [hall]
    exact counted.order
  refused := by
    rw [hall]
    exact fun h => counted.refused (hfailure h)
  balance := by
    intro h
    obtain ⟨he, hlength⟩ := hbalance h
    have hold := counted.balance he
    rw [hrecorder.2.1]
    omega

/-- `stop` counts nothing. -/
lemma Counted.stop (counted : t.Counted) : t.stop.Counted := by
  unfold Threads.stop
  split
  · exact counted
  · exact counted.of_eq ⟨rfl, rfl, rfl⟩ id rfl fun h => ⟨h, rfl⟩

/-- Nor does the caller on its way. -/
lemma Counted.callerStep (counted : t.Counted) : t.callerStep.Counted := by
  unfold Threads.callerStep
  cases t.caller with
  | idle => exact counted
  | putting chunk => exact counted.of_eq ⟨rfl, rfl, rfl⟩ id rfl fun h => ⟨h, rfl⟩
  | stopping => exact counted.of_eq ⟨rfl, rfl, rfl⟩ id rfl fun h => ⟨h, rfl⟩
  | joining =>
    dsimp only
    split
    · exact counted.of_eq ⟨rfl, rfl, rfl⟩ id rfl fun h => ⟨h, rfl⟩
    · exact counted
  | joined => exact counted.of_eq ⟨rfl, rfl, rfl⟩ id rfl fun h => ⟨h, rfl⟩

/-- Nor does a join that times out. -/
lemma Counted.joinTimesOut (counted : t.Counted) : t.joinTimesOut.Counted := by
  unfold Threads.joinTimesOut
  split
  · exact counted.of_eq ⟨rfl, rfl, rfl⟩ id rfl fun h => ⟨h, rfl⟩
  · exact counted

/-- What a failing writer has lost is counted with the error. -/
lemma Counted.writerFails (counted : t.Counted) (message : Text) (left : Bytes) :
    (t.writerFails message left).Counted := by
  refine counted.of_eq ⟨rfl, rfl, rfl⟩ ?_ rfl fun h => nomatch h
  intro h
  unfold Threads.writerFails RawSessionRecorder.writerFails at h
  dsimp only at h
  exact (Option.or_eq_none_iff.mp h).1

/-- The writer counts what it has written. -/
lemma Counted.writerStep (counted : t.Counted) (outcome : WriterOutcome) :
    (t.writerStep outcome).Counted := by
  unfold Threads.writerStep
  cases hwriter : t.writer with
  | waiting =>
    dsimp only
    split
    · exact counted
    · refine counted.of_eq ⟨rfl, rfl, rfl⟩ id rfl fun h => ⟨h, ?_⟩
      rw [hwriter]
      rfl
    · refine counted.of_eq ⟨rfl, rfl, rfl⟩ id rfl fun h => ⟨h, ?_⟩
      rw [hwriter]
      rfl
  | writing chunk =>
    cases outcome with
    | ok =>
      refine counted.of_eq ⟨rfl, rfl, rfl⟩ id rfl fun h => ⟨h, ?_⟩
      rw [hwriter]
      simp only [Writer.unaccounted, List.length_append, List.length_nil]
      omega
    | osError message kept => exact counted.writerFails _ _
  -- the one step that moves bytes from the queued to the written
  | accounting chunk =>
    have htotal := counted.total
    have hbound := counted.bound
    exact {
      total := by
        dsimp only
        rw [← htotal]
        push_cast
        omega
      bound := by
        dsimp only
        omega
      nonempty := counted.nonempty
      order := counted.order
      refused := counted.refused
      balance := by
        intro h
        have hbalance := counted.balance h
        rw [hwriter] at hbalance
        exact hbalance }
  | flushing =>
    cases outcome with
    | ok =>
      refine counted.of_eq ⟨rfl, rfl, rfl⟩ id rfl fun h => ⟨h, ?_⟩
      rw [hwriter]
      rfl
    | osError message kept => exact counted.writerFails _ _
  | closing =>
    refine counted.of_eq ⟨rfl, rfl, rfl⟩ id rfl fun h => ⟨h, ?_⟩
    rw [hwriter]
    rfl
  | ended => exact counted

/-- Every step keeps the count. -/
lemma Counted.step (counted : t.Counted) (sound : t.Sound) (a : Action) : (t.step a).Counted := by
  unfold Threads.step
  cases a with
  | start path deviceUuid opens =>
    dsimp only
    split
    · exact counted.start path deviceUuid opens
    · exact counted
  | submit chunk =>
    dsimp only
    split
    · exact counted.submit sound chunk
    · exact counted
  | stop =>
    dsimp only
    split
    · exact counted.stop
    · exact counted
  | caller => exact counted.callerStep
  | joinTimesOut => exact counted.joinTimesOut
  | writer outcome => exact counted.writerStep outcome

/-- Every session begins with an empty queue. -/
def Clean (t : Threads) : List Action → Prop
  | [] => True
  | a :: actions =>
    (a.isStart = true → t.recorder.isActive = false → t.recorder.queue = []) ∧
      Clean (t.step a) actions

instance decidableClean : ∀ (t : Threads) (actions : List Action), Decidable (t.Clean actions)
  | _, [] => .isTrue trivial
  | t, a :: actions =>
    have := decidableClean (t.step a) actions
    inferInstanceAs (Decidable (_ ∧ _))

/-- So is a history whose sessions begin with an empty queue. -/
lemma Sound.run (sound : t.Sound) {actions : List Action} (clean : t.Clean actions) :
    (t.run actions).Sound := by
  induction actions generalizing t with
  | nil => exact sound
  | cons a actions ih => exact ih (sound.step a clean.1) clean.2

/-- It keeps the count. -/
lemma Counted.run (counted : t.Counted) (sound : t.Sound) {actions : List Action}
    (clean : t.Clean actions) : (t.run actions).Counted := by
  induction actions generalizing t with
  | nil => exact counted
  | cons a actions ih => exact ih (counted.step sound a) (sound.step a clean.1) clean.2

/-- What is in the file was accepted in this session. -/
lemma Sound.stream_prefix (sound : t.Sound) :
    t.recorder.stream <+: (accepted t.session.calls).flatten := by
  cases hwriter : t.writer.inLoop with
  | false => exact sound.written hwriter
  | true =>
    rw [sound.kept hwriter, List.append_assoc, List.append_assoc]
    exact List.prefix_append _ _

/-- Nothing is accepted behind a refused call. -/
lemma accepted_leading {calls : List (Bytes × Bool)}
    (h : calls.Pairwise fun earlier later => earlier.2 = false → later.2 = false) :
    accepted calls <+: calls.map Prod.fst := by
  induction calls with
  | nil => exact List.nil_prefix
  | cons call calls ih =>
    obtain ⟨hlater, hrest⟩ := List.pairwise_cons.mp h
    unfold accepted
    cases hcall : call.2 with
    | true =>
      rw [List.filter_cons_of_pos hcall, List.map_cons, List.map_cons]
      exact (List.prefix_cons_inj _).mpr (ih hrest)
    | false =>
      have hnone : calls.filter Prod.snd = [] := by
        rw [List.filter_eq_nil_iff]
        intro later hmem
        rw [hlater later hmem hcall]
        exact Bool.false_ne_true
      rw [List.filter_cons_of_neg (by rw [hcall]; exact Bool.false_ne_true), hnone]
      exact List.nil_prefix

/-- Without an error, no more is written than was queued. -/
lemma Counted.queued_nonneg (counted : t.Counted) (sound : t.Sound)
    (herror : t.session.ioError = false) : 0 ≤ t.recorder.queuedBytes := by
  have hbalance := counted.balance herror
  have htotal := counted.total
  have hstream := sound.stream_prefix.length_le
  have hall : (accepted t.session.calls).flatten.length ≤
      (accepted t.session.all).flatten.length := by
    unfold Session.all
    rw [accepted_append, List.flatten_append, List.length_append]
    exact Nat.le_add_right _ _
  omega

end Threads

/-- A step within a session, without an I/O error. -/
def Action.InSession : Action → Prop
  | start _ _ _ => False
  | writer (.osError _ _) => False
  | _ => True

namespace Threads

variable {t : Threads}

/-- Within a session no other begins. -/
lemma clean_inSession {actions : List Action} (h : ∀ a ∈ actions, a.InSession) :
    t.Clean actions := by
  induction actions generalizing t with
  | nil => trivial
  | cons a actions ih =>
    refine ⟨?_, ih fun b hb => h b (List.mem_cons_of_mem _ hb)⟩
    intro hstart
    cases a with
    | start path deviceUuid opens => exact absurd (h _ List.mem_cons_self) id
    | _ => cases hstart

/-- A step within a session leaves the capacity, and there is no error. -/
lemma step_inSession {a : Action} (h : a.InSession) :
    (t.step a).session.ioError = t.session.ioError ∧
      (t.step a).recorder.queueCapacityBytes = t.recorder.queueCapacityBytes := by
  cases a with
  | start path deviceUuid opens => cases h
  | submit chunk =>
    unfold step
    dsimp only
    split
    · obtain heq | ⟨-, -, ⟨-, heq⟩ | ⟨-, heq⟩ | ⟨-, -, heq⟩⟩ := t.submit_cases chunk
      · rw [heq]
        exact ⟨rfl, rfl⟩
      all_goals
        rw [heq]
        exact ⟨Session.submitted_ioError _, rfl⟩
    · exact ⟨rfl, rfl⟩
  | stop =>
    unfold step stop
    dsimp only
    split
    · split
      · exact ⟨rfl, rfl⟩
      · exact ⟨rfl, rfl⟩
    · exact ⟨rfl, rfl⟩
  | caller =>
    unfold step callerStep
    dsimp only
    split
    · exact ⟨rfl, rfl⟩
    · exact ⟨rfl, rfl⟩
    · exact ⟨rfl, rfl⟩
    · split
      · exact ⟨rfl, rfl⟩
      · exact ⟨rfl, rfl⟩
    · exact ⟨rfl, rfl⟩
  | joinTimesOut =>
    unfold step joinTimesOut
    dsimp only
    split
    · exact ⟨rfl, rfl⟩
    · exact ⟨rfl, rfl⟩
  | writer outcome =>
    cases outcome with
    | osError message kept => cases h
    | ok =>
      unfold step writerStep
      dsimp only
      split
      · split
        · exact ⟨rfl, rfl⟩
        · exact ⟨rfl, rfl⟩
        · exact ⟨rfl, rfl⟩
      · exact ⟨rfl, rfl⟩
      · exact ⟨rfl, rfl⟩
      · exact ⟨rfl, rfl⟩
      · exact ⟨rfl, rfl⟩
      · exact ⟨rfl, rfl⟩

/-- A session keeps its capacity and has the errors that it had. -/
lemma run_inSession {actions : List Action} (h : ∀ a ∈ actions, a.InSession) :
    (t.run actions).session.ioError = t.session.ioError ∧
      (t.run actions).recorder.queueCapacityBytes = t.recorder.queueCapacityBytes := by
  induction actions generalizing t with
  | nil => exact ⟨rfl, rfl⟩
  | cons a actions ih =>
    obtain ⟨herror, hcapacity⟩ := step_inSession (t := t) (h a List.mem_cons_self)
    obtain ⟨herror', hcapacity'⟩ := ih (t := t.step a) fun b hb => h b (List.mem_cons_of_mem _ hb)
    exact ⟨herror'.trans herror, hcapacity'.trans hcapacity⟩

/-- `stop` has not come back without the writer: nothing is submitted behind it. -/
structure InTime (t : Threads) : Prop where
  late : t.session.late = []
  stopped : t.session.stopCalled = true →
    (t.caller = .stopping ∨ t.caller = .joining ∨ t.caller = .joined) ∨
      t.recorder.isActive = false

/-- In a session every step but a join that times out keeps it so: behind `stop` the caller is busy
with it, or the session is over. -/
lemma InTime.step (inTime : t.InTime) {a : Action} (h : a.InSession)
    (htime : a ≠ .joinTimesOut) : (t.step a).InTime := by
  cases a with
  | start path deviceUuid opens => cases h
  | joinTimesOut => exact absurd rfl htime
  | submit chunk =>
    unfold Threads.step
    dsimp only
    split
    · rename_i hidle
      -- behind `stop` the caller is busy, or the session is over
      have hrun : t.recorder.isActive = true → t.session.stopCalled = false := by
        intro hactive
        refine Bool.eq_false_of_not_eq_true ?_
        intro hstop
        obtain (h | h | h) | h := inTime.stopped hstop
        · exact absurd (hidle.symm.trans h) (by rintro ⟨⟩)
        · exact absurd (hidle.symm.trans h) (by rintro ⟨⟩)
        · exact absurd (hidle.symm.trans h) (by rintro ⟨⟩)
        · exact absurd (hactive.symm.trans h) Bool.true_eq_false.mp
      have hsubmitted : ∀ answer, t.session.stopCalled = false →
          (t.session.submitted chunk answer).late = [] := by
        intro answer hstop
        exact Session.submitted_late (fun _ => inTime.late) answer
          ((Session.submitted_stopCalled answer).trans hstop)
      have hfresh : ∀ answer, t.session.stopCalled = false →
          (t.session.submitted chunk answer).stopCalled ≠ true := by
        intro answer hstop h
        rw [Session.submitted_stopCalled, hstop] at h
        cases h
      obtain heq | ⟨-, hactive, ⟨-, heq⟩ | ⟨-, heq⟩ | ⟨-, -, heq⟩⟩ := t.submit_cases chunk
      · rw [heq]
        exact inTime
      all_goals
        have hstop := hrun hactive
        rw [heq]
        exact ⟨hsubmitted _ hstop, fun h => absurd h (hfresh _ hstop)⟩
    · exact inTime
  | stop =>
    unfold Threads.step Threads.stop
    dsimp only
    split
    · split
      · exact inTime
      · exact ⟨inTime.late, fun _ => .inl (.inl rfl)⟩
    · exact inTime
  | caller =>
    unfold Threads.step Threads.callerStep
    dsimp only
    cases hcaller : t.caller with
    | idle => exact inTime
    | putting chunk =>
      refine ⟨inTime.late, fun hstop => ?_⟩
      obtain (h | h | h) | h := inTime.stopped hstop
      · exact absurd (hcaller.symm.trans h) (by rintro ⟨⟩)
      · exact absurd (hcaller.symm.trans h) (by rintro ⟨⟩)
      · exact absurd (hcaller.symm.trans h) (by rintro ⟨⟩)
      · exact .inr h
    | stopping => exact ⟨inTime.late, fun _ => .inl (.inr (.inl rfl))⟩
    | joining =>
      dsimp only
      split
      · exact ⟨inTime.late, fun _ => .inl (.inr (.inr rfl))⟩
      · exact inTime
    | joined => exact ⟨inTime.late, fun _ => .inr rfl⟩
  | writer outcome =>
    cases outcome with
    | osError message kept => cases h
    | ok =>
      unfold Threads.step Threads.writerStep
      dsimp only
      split
      · split
        · exact inTime
        · exact ⟨inTime.late, inTime.stopped⟩
        · exact ⟨inTime.late, inTime.stopped⟩
      · exact ⟨inTime.late, inTime.stopped⟩
      · exact ⟨inTime.late, inTime.stopped⟩
      · exact ⟨inTime.late, inTime.stopped⟩
      · exact ⟨inTime.late, inTime.stopped⟩
      · exact inTime

/-- So it is behind any steps of the session. -/
lemma InTime.run (inTime : t.InTime) {actions : List Action}
    (h : ∀ a ∈ actions, a.InSession) (htime : .joinTimesOut ∉ actions) :
    (t.run actions).InTime := by
  induction actions generalizing t with
  | nil => exact inTime
  | cons a actions ih =>
    refine ih (inTime.step (h a List.mem_cons_self) ?_)
      (fun b hb => h b (List.mem_cons_of_mem _ hb))
      (fun hmem => htime (List.mem_cons_of_mem _ hmem))
    rintro rfl
    exact htime List.mem_cons_self

/-- A recorder with its first session. -/
def started (queueCapacityBytes : Nat) (h : 0 < queueCapacityBytes) (path : Path)
    (deviceUuid : Option Uuid) : Threads :=
  (new queueCapacityBytes h).start path deviceUuid true

/-- However the calls and the writer interleave: the queued bytes keep their bound, they and the
written ones are the bytes that were accepted; the accepted chunks are those submitted up to the
first that is refused; and the file `stop` leaves is their concatenation, as long as it says. -/
theorem session_law (queueCapacityBytes : Nat) (hcapacity : 0 < queueCapacityBytes) (path : Path)
    (deviceUuid : Option Uuid) (actions : List Action) (h : ∀ a ∈ actions, a.InSession) :
    let t := (started queueCapacityBytes hcapacity path deviceUuid).run actions
    (0 ≤ t.recorder.queuedBytes ∧ t.recorder.queuedBytes ≤ queueCapacityBytes) ∧
      t.recorder.queuedBytes + t.recorder.bytesWritten =
        ((accepted t.session.all).flatten.length : Int) ∧
      (accepted t.session.all <+: t.session.all.map Prod.fst ∧
        (∀ call ∈ t.session.all, call.1 ≠ []) ∧
        (t.session.all.Pairwise fun earlier later => earlier.2 = false → later.2 = false) ∧
        ((∃ call ∈ t.session.all, call.2 = false) → t.recorder.failure.isSome = true)) ∧
      (∀ summary, t.session.summary = some summary →
        t.recorder.stream = (accepted t.session.calls).flatten ∧
          summary.bytesWritten = t.recorder.stream.length) ∧
      (.joinTimesOut ∉ actions → t.session.all = t.session.calls) := by
  intro t
  have clean := clean_inSession (t := started queueCapacityBytes hcapacity path deviceUuid) h
  have hsound : (started queueCapacityBytes hcapacity path deviceUuid).Sound :=
    sound_started _ rfl rfl rfl
  have sound : t.Sound := hsound.run clean
  have counted : t.Counted :=
    (counted_fresh _ .waiting rfl rfl rfl rfl : (started queueCapacityBytes hcapacity path
      deviceUuid).Counted).run hsound clean
  obtain ⟨herror, hbound⟩ := run_inSession
    (t := started queueCapacityBytes hcapacity path deviceUuid) h
  have hqueued := counted.bound
  rw [hbound] at hqueued
  refine ⟨⟨counted.queued_nonneg sound herror, hqueued⟩, counted.total,
    ⟨accepted_leading counted.order, counted.nonempty, counted.order, ?_⟩, ?_, ?_⟩
  · intro hrefused
    obtain ⟨call, hcall, hfalse⟩ := hrefused
    rw [Option.isSome_iff_ne_none]
    intro hnone
    rw [counted.refused hnone call hcall] at hfalse
    cases hfalse
  · intro summary hsummary
    obtain ⟨hactive, hwritten⟩ := sound.summary summary hsummary
    -- a summary is there only when the writer has ended
    have hended := (sound.active hactive).2
    have hout : t.writer.inLoop = false := by
      rw [hended]
      rfl
    have hbalance := counted.balance herror
    rw [hended] at hbalance
    exact ⟨(sound.drained hout herror).1, hwritten.trans hbalance⟩
  · intro htime
    have hnew : (started queueCapacityBytes hcapacity path deviceUuid).InTime :=
      ⟨rfl, fun hstop => absurd hstop Bool.false_ne_true⟩
    have inTime : t.InTime := hnew.run h htime
    unfold Session.all
    rw [inTime.late, List.append_nil]

/-- Two chunks, of which the second does not fit behind the first, and `stop`. -/
theorem session_law_full :
    let actions : List Action := [.submit [1, 2], .caller, .submit [3], .stop, .caller, .writer .ok,
      .writer .ok, .writer .ok, .writer .ok, .writer .ok, .writer .ok, .caller, .caller]
    let t := (started 2 (by decide) [] none).run actions
    (0 ≤ t.recorder.queuedBytes ∧ t.recorder.queuedBytes ≤ (2 : Nat)) ∧
      t.recorder.queuedBytes + t.recorder.bytesWritten =
        ((accepted t.session.all).flatten.length : Int) ∧
      (accepted t.session.all <+: t.session.all.map Prod.fst ∧
        (∀ call ∈ t.session.all, call.1 ≠ []) ∧
        (t.session.all.Pairwise fun earlier later => earlier.2 = false → later.2 = false) ∧
        ((∃ call ∈ t.session.all, call.2 = false) → t.recorder.failure.isSome = true)) ∧
      (∀ summary, t.session.summary = some summary →
        t.recorder.stream = (accepted t.session.calls).flatten ∧
          summary.bytesWritten = t.recorder.stream.length) ∧
      (.joinTimesOut ∉ actions → t.session.all = t.session.calls) :=
  session_law 2 (by decide) [] none _ (by simp [Action.InSession])

example : ((started 2 (by decide) [] none).run [.submit [1, 2], .caller, .submit [3], .stop, .caller,
    .writer .ok, .writer .ok, .writer .ok, .writer .ok, .writer .ok, .writer .ok, .caller,
    .caller]).session.summary =
    some { path := [], bytesWritten := 2, failure := some queueCapacityError } := by
  decide

/-- The file holds chunks of this session only, and behind a `stop` without an I/O error all of them.
The chunks are those that were accepted before `stop` was called; one that comes behind its sentinel,
while the join has timed out, is not among them. -/
def Isolated (t : Threads) : Prop :=
  t.recorder.stream <+: (accepted t.session.calls).flatten ∧
    (t.session.summary.isSome = true → t.session.ioError = false →
      t.recorder.stream = (accepted t.session.calls).flatten)

instance (t : Threads) : Decidable t.Isolated := by
  unfold Isolated
  infer_instance

/-- A sound session has its file for itself. -/
lemma Sound.isolated (sound : t.Sound) : t.Isolated := by
  refine ⟨sound.stream_prefix, fun hsummary herror => ?_⟩
  obtain ⟨summary, hsome⟩ := Option.isSome_iff_exists.mp hsummary
  have hended := (sound.active (sound.summary summary hsome).1).2
  refine (sound.drained ?_ herror).1
  rw [hended]
  rfl

/-- A clean history was clean before. -/
lemma Clean.of_prefix {earlier actions : List Action} (clean : t.Clean actions)
    (h : earlier <+: actions) : t.Clean earlier := by
  induction earlier generalizing t actions with
  | nil => trivial
  | cons a earlier ih =>
    obtain ⟨later, rfl⟩ := h
    exact ⟨clean.1, ih clean.2 (List.prefix_append _ _)⟩

/-- Where every session begins with an empty queue, no session has anything of another. -/
theorem sessions_isolated (queueCapacityBytes : Nat) (hcapacity : 0 < queueCapacityBytes)
    (actions : List Action) (clean : (new queueCapacityBytes hcapacity).Clean actions) :
    ∀ earlier, earlier <+: actions → ((new queueCapacityBytes hcapacity).run earlier).Isolated :=
  fun _ h => ((sound_idle _ rfl rfl : (new queueCapacityBytes hcapacity).Sound).run
    (clean.of_prefix h)).isolated

/-- A chunk is written, `stop` comes back, and the recorder is started again. -/
def restart : List Action :=
  [.start [] none true, .submit [1], .caller, .writer .ok, .writer .ok, .writer .ok, .stop, .caller,
    .writer .ok, .writer .ok, .writer .ok, .caller, .caller, .start [] none true]

/-- Two sessions, one after the other. -/
theorem sessions_isolated_restart : ((new 4 (by decide)).run restart).Isolated :=
  sessions_isolated 4 (by decide) restart (by decide) restart List.prefix_rfl

/-- The disk fails at the first of two chunks; the recorder is stopped, and started again. -/
def failed : List Action :=
  [.start [] none true, .submit [1], .caller, .submit [2], .caller, .writer .ok,
    .writer (.osError "disk full".toList 0), .writer .ok, .stop, .caller, .caller, .caller,
    .start [] none true, .writer .ok, .writer .ok]

/-- The second file begins with a chunk of the first session. -/
theorem not_always_isolated :
    ¬ ∀ actions : List Action, ((new 4 (by decide)).run actions).Isolated := by
  intro h
  exact absurd (h failed) (by decide)

end Threads

end SensorHost.Storage
