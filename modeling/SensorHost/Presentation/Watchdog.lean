import SensorHost.Presentation.Evidence

/-!
# The export watchdog

The watchdog ends an export that received nothing in time, but for the phase that an earlier export
of the session left (`watchdog_fires_iff`): it takes that phase for the end of its own.

`Overdue` is the claim's premise and `Fired` what is to follow from it. `stop_of_active` says when
stopping a recorder gives its summary: the writer has ended, with no error, and the metadata was
written; otherwise the watchdog reports that error in the place of the stall. The phase is looked at
before all this. In the poll the finaliser comes first, and it leaves an export alone that is
overdue (`Overdue.finalizeCompletedExport`), so the equivalence holds there too.
-/

namespace SensorHost.Presentation
open SensorHost.Lib SensorHost.Protocol SensorHost.Storage SensorHost.Acquisition SensorHost.Ota
  SensorHost.Transport

namespace AppController

/-- The export has received nothing in time, and no event has ended it. -/
structure Overdue (c : AppController) (h : Host) (s : ManagedSession) (id : Nat) : Prop where
  attached : s.archiveRecorder = some id
  late : exportFirstByteTimeoutS ≤ h.now - s.archiveStartedS
  empty : (c.recorders id).bytesWritten = 0
  uncancelled : s.archiveCancelRequested = false
  unended : ∀ state, s.controlState = some state → state.exportRevision ≤ s.archiveStartRevision

/-- Between `c` and `c'` the export is detached and closed, and reported as stalled. -/
structure Fired (c c' : AppController) (s : ManagedSession) (id : Nat) : Prop where
  detached : ∀ u ∈ c'.sessions, u.sid = s.sid →
    u.archiveRecorder = none ∧ u.acquisition.archiveRecorder = none
  closed : (c'.recorders id).isActive = false
  reported : c'.finished =
    c.finished ++ [.exportFinished s.nodeId "STALLED".toList (c.recorders id).path]

/-- The session remembers the end of no export. -/
def remembersNoEnd (s : ManagedSession) : Prop :=
  isClosedPhase (s.controlState.bind (·.exportPhase)) = false

/-- The writer ends while `stop` joins it. -/
def WriterEnds (c : AppController) (h : Host) (id : Nat) : Prop :=
  ({ c.recorders id with queue := (c.recorders id).queue ++ [none] }.writerSteps
    (h.writerRuns id)).writerAlive = false

end AppController

variable {crc32 : Bytes → UInt32} {c d : AppController} {s t : ManagedSession} {h : Host} {id : Nat}

/-- An active recorder stops if and only if its writer ends and its metadata can be written. -/
lemma stop_of_active {r : RawSessionRecorder} (outcomes : List WriterOutcome)
    (metadataError : Option Text) (active : r.isActive = true) :
    (∃ summary, (r.stop outcomes metadataError).2 = .ok summary ∧ summary.path = r.path ∧
        (r.drain outcomes).1.isActive = false ∧
        ({ r with queue := r.queue ++ [none] }.writerSteps outcomes).writerAlive = false ∧
          metadataError = none) ∨
      (∃ error, (r.stop outcomes metadataError).2 = .error error) ∧
        ¬ (({ r with queue := r.queue ++ [none] }.writerSteps outcomes).writerAlive = false ∧
          metadataError = none) := by
  have hfile := congrArg Prod.fst (RawSessionRecorder.writerSteps_file
    { r with queue := r.queue ++ [none] } outcomes)
  have hguard : ¬ (!r.isActive) = true := by
    rw [active]
    exact Bool.false_ne_true
  unfold RawSessionRecorder.stop RawSessionRecorder.drain
  rw [if_neg hguard]
  dsimp only
  generalize { r with queue := r.queue ++ [none] }.writerSteps outcomes = r' at hfile ⊢
  cases halive : r'.writerAlive with
  | true =>
    rw [if_pos rfl]
    exact .inr ⟨⟨_, rfl⟩, fun h => Bool.false_ne_true h.1.symm⟩
  | false =>
    rw [if_neg Bool.false_ne_true]
    cases metadataError with
    | none => exact .inl ⟨_, rfl, hfile, rfl, rfl, rfl⟩
    | some message => exact .inr ⟨⟨_, rfl⟩, fun h => Option.some_ne_none message h.2⟩

/-- The finaliser leaves an overdue export to the watchdog. -/
lemma AppController.Overdue.finalizeCompletedExport (overdue : c.Overdue h s id) :
    c.finalizeCompletedExport h s = c := by
  refine finalizeCompletedExport_idle (.inr ?_)
  cases hcloses : AppController.closingPhase s with
  | none => rfl
  | some phase =>
    have hunconfirmed : AppController.cancelConfirmed s = false := by
      unfold AppController.cancelConfirmed
      rw [overdue.uncancelled, Bool.false_and]
    obtain ⟨state, hstate, hlater, -⟩ := closingPhase_some hunconfirmed hcloses
    exact absurd (overdue.unended state hstate) (not_le.mpr hlater)

/-- The watchdog fires on an overdue export, if and only if the session remembers the end of no
export, the writer ends and the metadata can be written. -/
lemma AppController.Overdue.fired_iff (overdue : c.Overdue h s id) (wf : WellFormed c)
    (live : s ∈ c.sessions) :
    c.Fired (c.watchdogStalledExport h s) s id ↔
      AppController.remembersNoEnd s ∧ c.WriterEnds h id ∧ h.metadataError id = none := by
  have hactive : (c.recorders id).isActive = true :=
    (wf.formed s live).active id (.inr overdue.attached)
  have hlead : Leads (fun _ => 0) (fun _ => True) c (c.watchdogStalledExport h s) :=
    leads_watchdogStalledExport h trivial trivial live
  have hwf := (hlead wf).wellFormed wf
  by_cases hopened : isClosedPhase (s.controlState.bind (·.exportPhase)) = false
  · have hstalled : c.IsStalled h s id :=
      ⟨overdue.empty, overdue.uncancelled, overdue.late, hopened⟩
    obtain ⟨new, hends, hmem, hreports, hstopped⟩ :=
      watchdogStalledExport_stalled live overdue.attached hstalled
    obtain ⟨summary, hok, hpath, hinactive, hended⟩ | ⟨⟨error, herror⟩, hleft⟩ :=
      stop_of_active (h.writerRuns id) (h.metadataError id) hactive
    · refine ⟨fun _ => ⟨hopened, hended⟩, fun _ => ⟨?_, ?_, ?_⟩⟩
      · intro u hu hsid
        rw [hwf.eq_of_sid hu hmem hsid]
        exact ⟨rfl, rfl⟩
      · rw [hstopped]
        exact hinactive
      · cases hends with
        | failed stop => cases hok.symm.trans stop
        | reported stop =>
          cases hok.symm.trans stop
          rw [hreports, hpath]
    · refine ⟨fun hfired => ?_, fun hboth => absurd hboth.2 hleft⟩
      -- what `stop` raises, nothing is reported behind it
      have hnone : new = [] := by
        cases hends with
        | failed stop => rfl
        | reported stop => cases herror.symm.trans stop
      have hreported := hfired.reported
      rw [hreports, hnone] at hreported
      exact absurd (List.append_cancel_left hreported) (List.cons_ne_nil _ _).symm
  · refine ⟨fun hfired => ?_, fun hboth => absurd hboth.1 hopened⟩
    have hsame : c.watchdogStalledExport h s = c := by
      refine watchdogStalledExport_idle fun k _ hk => hopened hk.opened
    have hdetached := (hfired.detached s (by rw [hsame]; exact live) rfl).1
    rw [overdue.attached] at hdetached
    cases hdetached

/-- The watchdog fires on an export that is overdue, in every state, if and only if the session
remembers the end of no earlier export, the writer ends and the metadata can be written. So it does
where the poll comes to it, and there the finaliser has left the export alone. -/
theorem watchdog_fires_iff (crc32 : Bytes → UInt32) (aliases : List (Text × Text))
    (events : List Event) :
    let c := AppController.run crc32 aliases events
    (∀ h s id, s ∈ c.sessions → c.Overdue h s id →
      (c.Fired (c.watchdogStalledExport h s) s id ↔
        AppController.remembersNoEnd s ∧ c.WriterEnds h id ∧ h.metadataError id = none)) ∧
    ∀ h d t id, c.Finalizes h d t → d.Overdue h t id →
      d.finalizeCompletedExport h t = d ∧
      (d.Fired (d.watchdogStalledExport h t) t id ↔
        AppController.remembersNoEnd t ∧ d.WriterEnds h id ∧ h.metadataError id = none) := by
  intro c
  have wf : WellFormed c := (wellFormed_run crc32 aliases events).1
  refine ⟨?_, ?_⟩
  · intro h s id live overdue
    exact overdue.fired_iff wf live
  · intro h d t id hfinal overdue
    obtain ⟨hwf, s, -, hmem, -⟩ := hfinal.exporting wf
    exact ⟨overdue.finalizeCompletedExport, overdue.fired_iff hwf hmem⟩

/-- The events of a second export of the device, which it does not answer. -/
def Event.unansweredExport : List Event :=
  Event.emptyExport ++ [.publishSnapshots {}, .operation {} (.startExportFor "wifi-1".toList)]

/-- Behind the empty export the watchdog does not fire on the second one. -/
theorem watchdog_fires_not : ∃ s ∈ (AppController.run zlibCrc32 [] Event.unansweredExport).sessions,
    (AppController.run zlibCrc32 [] Event.unansweredExport).Overdue { now := 11 } s 1 ∧
      ¬ (AppController.run zlibCrc32 [] Event.unansweredExport).Fired
        ((AppController.run zlibCrc32 [] Event.unansweredExport).watchdogStalledExport
          { now := 11 } s) s 1 := by
  generalize hc : AppController.run zlibCrc32 [] Event.unansweredExport = c
  have hoverdue : (c.sessionBySid? 0).any (fun s => s.archiveRecorder == some 1 &&
      decide (exportFirstByteTimeoutS ≤ 11 - s.archiveStartedS) &&
      (c.recorders 1).bytesWritten == 0 && !s.archiveCancelRequested &&
      s.controlState.all (fun state => decide (state.exportRevision ≤ s.archiveStartRevision)) &&
      ((c.watchdogStalledExport { now := 11 } s).recorders 1).isActive) = true := by
    rw [← hc]
    decide +kernel
  obtain ⟨s, hsession, hs⟩ := (Option.any_eq_true _ _).mp hoverdue
  rw [Bool.and_eq_true, Bool.and_eq_true, Bool.and_eq_true, Bool.and_eq_true, Bool.and_eq_true,
    beq_iff_eq, beq_iff_eq, decide_eq_true_iff, Bool.not_eq_true', Option.all_eq_true] at hs
  obtain ⟨⟨⟨⟨⟨hattached, hlate⟩, hempty⟩, huncancelled⟩, hunended⟩, hactive⟩ := hs
  refine ⟨s, (sessionBySid?_some hsession).1, ⟨hattached, hlate, hempty, huncancelled, ?_⟩, ?_⟩
  · intro state hstate
    exact of_decide_eq_true (hunended state hstate)
  · intro hfired
    exact Bool.false_ne_true (hfired.closed.symm.trans hactive)

/-- The events of a first export, which the device does not answer. -/
def Event.silentExport : List Event :=
  Event.exportReady ++ [.operation {} (.startExportFor "wifi-1".toList)]

/-- The watchdog fires on it. -/
theorem watchdog_fires_silent : ∃ s ∈ (AppController.run zlibCrc32 [] Event.silentExport).sessions,
    (AppController.run zlibCrc32 [] Event.silentExport).Fired
      ((AppController.run zlibCrc32 [] Event.silentExport).watchdogStalledExport
        { now := 11, writerRuns := fun _ => [.ok] } s) s 0 := by
  have hoverdue : ((AppController.run zlibCrc32 [] Event.silentExport).sessionBySid? 0).any (fun s =>
      s.archiveRecorder == some 0 &&
      decide (exportFirstByteTimeoutS ≤ 11 - s.archiveStartedS) && !s.archiveCancelRequested &&
      s.controlState.all (fun state => decide (state.exportRevision ≤ s.archiveStartRevision)) &&
      !isClosedPhase (s.controlState.bind (·.exportPhase))) = true := by
    decide +kernel
  obtain ⟨s, hsession, hs⟩ := (Option.any_eq_true _ _).mp hoverdue
  rw [Bool.and_eq_true, Bool.and_eq_true, Bool.and_eq_true, Bool.and_eq_true, beq_iff_eq,
    decide_eq_true_iff, Bool.not_eq_true', Bool.not_eq_true', Option.all_eq_true] at hs
  obtain ⟨⟨⟨⟨hattached, hlate⟩, huncancelled⟩, hunended⟩, hopened⟩ := hs
  have live := (sessionBySid?_some hsession).1
  refine ⟨s, live, ?_⟩
  have hfires := (watchdog_fires_iff zlibCrc32 [] Event.silentExport).1
    { now := 11, writerRuns := fun _ => [.ok] } s 0 live
    ⟨hattached, hlate, by decide +kernel, huncancelled,
      fun state hstate => of_decide_eq_true (hunended state hstate)⟩
  exact hfires.mpr ⟨hopened, by unfold AppController.WriterEnds; decide +kernel, rfl⟩

end SensorHost.Presentation
