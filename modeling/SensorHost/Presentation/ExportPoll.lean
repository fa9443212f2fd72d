import SensorHost.Presentation.Finished
import SensorHost.Protocol.ExportEvents

/-!
# The exports in a poll

What one pass of the poll makes of the export of its session: it closes it (`Closed`), finds it
stalled (`Stalled`), or leaves it alone. A pass reports the end of one export at most, and then its
recorder is detached (`finished_publishSession`).

The pass of a session opens with its queued identities and replies (`AppController.opened`), which
touch no recorder; then the finaliser looks at the export, and then the watchdog. `passed_opened`
goes through the outcomes of these two, and `finished_polled` counts the reports of a whole poll by
induction on the sessions.

`Finalizes` says which state and which session the finaliser meets in the poll of a state; the
theorems about it are stated there and not at the state before the poll.
-/

namespace SensorHost.Presentation
open SensorHost.Lib SensorHost.Protocol SensorHost.Storage SensorHost.Acquisition SensorHost.Ota
  SensorHost.Transport

namespace AppController

/-- The poll over the given sessions. -/
def polled (c : AppController) (h : Host) (sids : List Nat) : AppController :=
  sids.foldl (fun c sid => c.onSession sid fun c s => c.publishSession h s) c

/-- The poll behind `c` comes to the session `t` in the state `d`, and looks at its export. -/
def Finalizes (c : AppController) (h : Host) (d : AppController) (t : ManagedSession) : Prop :=
  c.timerActive = true ∧ ∃ before sid after s,
    c.sessions.map ManagedSession.sid = before ++ sid :: after ∧
    (c.polled h before).sessionBySid? sid = some s ∧ d = (c.polled h before).opened h s ∧
    d.sessionBySid? sid = some t

/-- The session whose aborted export is asked for again. -/
def retried (c : AppController) (h : Host) (s : ManagedSession) (path : Path) : ManagedSession :=
  let s := { detachArchive s with archiveRetries := s.archiveRetries + 1 }
  let target := if s.archiveTarget = [] then exportTargetOf s.transportKind else s.archiveTarget
  { c.archiving h s with
    archivePath := some path
    archiveTarget := target
    acquisition := (c.archiving h s).acquisition.queueCommand ("AT+EXPORT=" ++ String.ofList target) }

end AppController

/-- What `_finalize_completed_export` makes of a session whose export is over, and what it reports. -/
inductive Closed (c : AppController) (h : Host) (s : ManagedSession) (id : Nat) (phase : Text) :
    ManagedSession → List Signal → Prop
  | failed {error : StopError}
      (stop : ((c.recorders id).stop (h.writerRuns id) (h.metadataError id)).2 = .error error) :
      Closed c h s id phase (AppController.detachArchive s) []
  | retried (path : Path) (retries : c.Retries h s id)
      (starts : (c.deviceUuid s.nodeId).isSome = true ∧ h.fileError c.nextRecorder = none) :
      Closed c h s id phase (c.retried h s path) []
  | refused (retries : c.Retries h s id)
      (fails : c.deviceUuid s.nodeId = none ∨ h.fileError c.nextRecorder ≠ none) :
      Closed c h s id phase
        { AppController.detachArchive s with archiveRetries := s.archiveRetries + 1 } []
  | reported {summary : RecordingSummary}
      (stop : ((c.recorders id).stop (h.writerRuns id) (h.metadataError id)).2 = .ok summary)
      (final : ¬ c.Retries h s id) :
      Closed c h s id phase (AppController.detachArchive s)
        [.exportFinished s.nodeId phase summary.path]

/-- What `_watchdog_stalled_export` reports of a session whose export is stalled. -/
inductive Stalled (c : AppController) (h : Host) (s : ManagedSession) (id : Nat) :
    List Signal → Prop
  | failed {error : StopError}
      (stop : ((c.recorders id).stop (h.writerRuns id) (h.metadataError id)).2 = .error error) :
      Stalled c h s id []
  | reported {summary : RecordingSummary}
      (stop : ((c.recorders id).stop (h.writerRuns id) (h.metadataError id)).2 = .ok summary) :
      Stalled c h s id [.exportFinished s.nodeId "STALLED".toList summary.path]

/-- The watchdog takes the export for stalled. -/
structure AppController.IsStalled (c : AppController) (h : Host) (s : ManagedSession) (id : Nat) :
    Prop where
  empty : (c.recorders id).bytesWritten = 0
  uncancelled : s.archiveCancelRequested = false
  late : exportFirstByteTimeoutS ≤ h.now - s.archiveStartedS
  opened : isClosedPhase (s.controlState.bind (·.exportPhase)) = false

variable {crc32 : Bytes → UInt32} {P : Label → Prop} {c c' d : AppController}
  {s s' t : ManagedSession} {h : Host} {id : Nat} {phase : Text}

/-- Without a summary `stop` has raised. -/
lemma stopRecorder_none (hstop : (c.stopRecorder h id).2 = none) :
    ∃ error, ((c.recorders id).stop (h.writerRuns id) (h.metadataError id)).2 = .error error := by
  unfold AppController.stopRecorder at hstop
  cases hresult : (c.recorders id).stop (h.writerRuns id) (h.metadataError id) with
  | mk r result =>
    rw [hresult] at hstop
    cases result with
    | ok summary => cases hstop
    | error error => exact ⟨error, rfl⟩

/-- The recorder is the one that `stop` leaves. -/
lemma stopRecorder_recorders (c : AppController) (h : Host) (id : Nat) :
    (c.stopRecorder h id).1.recorders id = ((c.recorders id).drain (h.writerRuns id)).1 := by
  have hstopped := RawSessionRecorder.stop_fst (c.recorders id) (h.writerRuns id)
    (h.metadataError id)
  unfold AppController.stopRecorder
  cases hresult : (c.recorders id).stop (h.writerRuns id) (h.metadataError id) with
  | mk r result =>
    rw [hresult] at hstopped
    rw [← hstopped]
    cases result with
    | ok summary => exact Function.update_self id r c.recorders
    | error error =>
      cases error with
      | runtime error => exact Function.update_self id r c.recorders
      | osError message => exact Function.update_self id r c.recorders

/-- Where no export is over nothing is finalized. -/
lemma finalizeCompletedExport_idle
    (idle : s.archiveRecorder = none ∨ AppController.closingPhase s = none) :
    c.finalizeCompletedExport h s = c := by
  unfold AppController.finalizeCompletedExport
  cases hattached : s.archiveRecorder with
  | none => rfl
  | some id =>
    rw [idle.resolve_left (by rw [hattached]; exact Option.some_ne_none id)]

/-- An export that is asked for again starts, unless its UUID is not bound or its file does not
open. -/
lemma retryExportAfterAbort_cases (live : { AppController.detachArchive s with
      archiveRetries := s.archiveRetries + 1 } ∈ c.sessions) :
    (c.retryExportAfterAbort h { AppController.detachArchive s with
        archiveRetries := s.archiveRetries + 1 }).finished = c.finished ∧
      ((∃ path, c.retried h s path ∈ (c.retryExportAfterAbort h
          { AppController.detachArchive s with
            archiveRetries := s.archiveRetries + 1 }).sessions) ∧
        (c.deviceUuid s.nodeId).isSome = true ∧ h.fileError c.nextRecorder = none ∨
      { AppController.detachArchive s with archiveRetries := s.archiveRetries + 1 } ∈
          (c.retryExportAfterAbort h { AppController.detachArchive s with
            archiveRetries := s.archiveRetries + 1 }).sessions ∧
        (c.deviceUuid s.nodeId = none ∨ h.fileError c.nextRecorder ≠ none)) := by
  have hretried : ∀ path, c.retried h s path = { c.archiving h
      { AppController.detachArchive s with archiveRetries := s.archiveRetries + 1 } with
        archivePath := some path
        archiveTarget := (c.retried h s path).archiveTarget
        acquisition := (c.retried h s path).acquisition } := fun _ => rfl
  generalize ht : { AppController.detachArchive s with
    archiveRetries := s.archiveRetries + 1 } = t at live hretried ⊢
  have hfree : t.archiveRecorder = none := by rw [← ht]; rfl
  have hnode : t.nodeId = s.nodeId := by rw [← ht]; rfl
  have hfinished := AppController.finished_startArchiveRecording (c := c) h t
  unfold AppController.retryExportAfterAbort
  dsimp only
  obtain ⟨c', message, hstart, houtside, hwhy⟩ | ⟨counts, uuid, path, -, hbound, hfile, hstart⟩ :=
    startArchiveRecording_cases c h t
  · rw [hstart] at hfinished ⊢
    refine ⟨(AppController.finished_raiseError message).trans hfinished, .inr ⟨?_, ?_⟩⟩
    · show t ∈ c'.sessions
      rw [houtside.field AppController.sessions fun _ => rfl]
      exact live
    · rw [← hnode]
      refine hwhy.resolve_left ?_
      rw [hfree]
      exact Bool.false_ne_true
  · rw [hstart] at hfinished ⊢
    refine ⟨?_, .inl ⟨⟨path, ?_⟩, ?_, hfile⟩⟩
    · refine (AppController.finished_emit rfl).trans ((AppController.finished_raiseError _).trans ?_)
      exact hfinished
    · have hmem := mem_withArchive h counts uuid path live
      rw [← ht] at hmem ⊢
      exact AppController.mem_setSession_self hmem rfl
    · rw [← hnode, hbound]
      rfl

/-- The poll closes an export that is over. -/
lemma finalizeCompletedExport_closed (live : s ∈ c.sessions) (attached : s.archiveRecorder = some id)
    (closes : AppController.closingPhase s = some phase) :
    ∃ s' new, Closed c h s id phase s' new ∧ s' ∈ (c.finalizeCompletedExport h s).sessions ∧
      (c.finalizeCompletedExport h s).finished = c.finished ++ new := by
  unfold AppController.finalizeCompletedExport
  rw [attached, closes]
  dsimp only
  have hmem : AppController.detachArchive s ∈
      ((c.setSession (AppController.detachArchive s)).stopRecorder h id).1.sessions :=
    mem_stopRecorder h id live rfl
  have hfinished : ((c.setSession (AppController.detachArchive s)).stopRecorder h id).1.finished =
      c.finished := AppController.finished_stopRecorder h id
  have hok : ∀ summary,
      ((c.setSession (AppController.detachArchive s)).stopRecorder h id).2 = some summary →
        ((c.recorders id).stop (h.writerRuns id) (h.metadataError id)).2 = .ok summary := fun _ => stopRecorder_some
  have herror : ((c.setSession (AppController.detachArchive s)).stopRecorder h id).2 = none →
      ∃ error, ((c.recorders id).stop (h.writerRuns id) (h.metadataError id)).2 = .error error := stopRecorder_none
  have hsame : ∃ R signals,
      ((c.setSession (AppController.detachArchive s)).stopRecorder h id).1 =
        { c.setSession (AppController.detachArchive s) with recorders := R, signals := signals } :=
    stopRecorder_eq _ h id
  cases hresult : (c.setSession (AppController.detachArchive s)).stopRecorder h id with
  | mk d result =>
    rw [hresult] at hmem hfinished hok herror hsame
    cases result with
    | none =>
      obtain ⟨error, hstop⟩ := herror rfl
      exact ⟨_, [], .failed hstop, hmem, by rw [List.append_nil]; exact hfinished⟩
    | some summary =>
      have hstop := hok summary rfl
      dsimp only
      have hretries := retries_iff (c := c) closes hstop
      -- an ABORTED export that is asked for again is not reported
      by_cases hagain : c.Retries h s id
      · obtain ⟨haborted, hfirst⟩ := hretries.mp hagain
        obtain ⟨R, signals, heq⟩ := hsame
        have hlive : { AppController.detachArchive s with archiveRetries := s.archiveRetries + 1 } ∈
            (d.setSession { AppController.detachArchive s with
              archiveRetries := s.archiveRetries + 1 }).sessions :=
          AppController.mem_setSession_self hmem rfl
        obtain ⟨hreports, hretry⟩ := retryExportAfterAbort_cases (h := h) hlive
        rw [if_pos haborted, if_pos (show (AppController.detachArchive s).archiveRetries < _ from
          hfirst)]
        have hnew : ∀ e : AppController, e.finished = d.finished → e.finished = c.finished ++ [] := by
          intro e he
          rw [List.append_nil]
          exact he.trans hfinished
        obtain ⟨⟨path, hpath⟩, hstarts⟩ | ⟨hrefused, hfails⟩ := hretry
        · refine ⟨_, [], .retried path hagain ?_, ?_, hnew _ hreports⟩
          · cases heq
            exact hstarts
          · cases heq
            exact hpath
        · refine ⟨_, [], .refused hagain ?_, hrefused, hnew _ hreports⟩
          cases heq
          exact hfails
      · have hreported : Closed c h s id phase _ _ := .reported hstop hagain
        refine ⟨_, _, hreported, ?_⟩
        have hfinal : ∀ e : AppController, AppController.detachArchive s ∈ e.sessions →
            e.finished = c.finished →
            AppController.detachArchive s ∈
              (e.emit (.exportFinished s.nodeId phase summary.path)).sessions ∧
            (e.emit (.exportFinished s.nodeId phase summary.path)).finished =
              c.finished ++ [.exportFinished s.nodeId phase summary.path] := by
          intro e he hfin
          refine ⟨he, ?_⟩
          rw [AppController.finished_report rfl, hfin]
        split
        · rename_i haborted
          split
          · rename_i hfirst
            exact absurd (hretries.mpr ⟨haborted, hfirst⟩) hagain
          · exact hfinal _ hmem ((AppController.finished_raiseError _).trans hfinished)
        · split
          · exact hfinal _ hmem ((AppController.finished_raiseError _).trans hfinished)
          · exact hfinal _ hmem hfinished

/-- These three phases end an export. -/
lemma isClosedPhase_iff (p : Option Text) : isClosedPhase p = true ↔
    p = some "COMPLETE".toList ∨ p = some "EMPTY".toList ∨ p = some "ABORTED".toList := by
  unfold isClosedPhase
  rw [Bool.or_eq_true, Bool.or_eq_true, beq_iff_eq, beq_iff_eq, beq_iff_eq]
  tauto

/-- Where no export is stalled the watchdog does nothing. -/
lemma watchdogStalledExport_idle (idle : ∀ id, s.archiveRecorder = some id → ¬ c.IsStalled h s id) :
    c.watchdogStalledExport h s = c := by
  unfold AppController.watchdogStalledExport
  cases hattached : s.archiveRecorder with
  | none => rfl
  | some id =>
    dsimp only
    split
    · rfl
    · rename_i hempty
      split
      · rfl
      · rename_i hlate
        split
        · rfl
        · rename_i hopen
          rw [← isClosedPhase_iff] at hopen
          rw [not_or, not_not] at hempty
          refine absurd ⟨hempty.1, ?_, not_lt.mp hlate, ?_⟩ (idle id hattached)
          · exact Bool.eq_false_iff.mpr hempty.2
          · exact Bool.eq_false_iff.mpr hopen

/-- The watchdog closes a stalled export. -/
lemma watchdogStalledExport_stalled (live : s ∈ c.sessions) (attached : s.archiveRecorder = some id)
    (stalled : c.IsStalled h s id) :
    ∃ new, Stalled c h s id new ∧ s.unarchived ∈ (c.watchdogStalledExport h s).sessions ∧
      (c.watchdogStalledExport h s).finished = c.finished ++ new ∧
      (c.watchdogStalledExport h s).recorders id = ((c.recorders id).drain (h.writerRuns id)).1 := by
  obtain ⟨hempty, huncancelled, hlate, hopen⟩ := stalled
  unfold AppController.watchdogStalledExport
  rw [attached]
  dsimp only
  have hguard : ¬ ((c.recorders id).bytesWritten ≠ 0 ∨ s.archiveCancelRequested = true) := by
    rw [hempty, huncancelled, not_or]
    exact ⟨fun h => h rfl, Bool.false_ne_true⟩
  have hphase := mt (isClosedPhase_iff _).mpr (Bool.eq_false_iff.mp hopen)
  rw [if_neg hguard, if_neg (not_lt.mpr hlate), if_neg hphase]
  have hmem : s.unarchived ∈ ((c.setSession s.unarchived).stopRecorder h id).1.sessions :=
    mem_stopRecorder h id live rfl
  have hfinished : ((c.setSession s.unarchived).stopRecorder h id).1.finished = c.finished :=
    AppController.finished_stopRecorder h id
  have hstopped : ((c.setSession s.unarchived).stopRecorder h id).1.recorders id =
      ((c.recorders id).drain (h.writerRuns id)).1 :=
    stopRecorder_recorders (c.setSession s.unarchived) h id
  have hok : ∀ summary, ((c.setSession s.unarchived).stopRecorder h id).2 = some summary →
      ((c.recorders id).stop (h.writerRuns id) (h.metadataError id)).2 = .ok summary := fun _ => stopRecorder_some
  have herror : ((c.setSession s.unarchived).stopRecorder h id).2 = none →
      ∃ error, ((c.recorders id).stop (h.writerRuns id) (h.metadataError id)).2 = .error error := stopRecorder_none
  unfold ManagedSession.unarchived at hmem hfinished hstopped hok herror
  split
  · rename_i heq
    rw [heq] at hmem hfinished hstopped herror
    obtain ⟨error, hstop⟩ := herror rfl
    exact ⟨[], .failed hstop, hmem, by rw [List.append_nil]; exact hfinished, hstopped⟩
  · rename_i heq
    rw [heq] at hmem hfinished hstopped hok
    refine ⟨_, .reported (hok _ rfl), hmem, ?_, hstopped⟩
    rw [AppController.finished_report rfl, AppController.finished_raiseError, hfinished]

/-- What the poll makes of the export of a session: nothing, or it closes it, or finds it stalled. -/
inductive Passed (c : AppController) (h : Host) (s : ManagedSession) (c' : AppController) : Prop
  | idle (opened : s.archiveRecorder = none ∨ AppController.closingPhase s = none)
      (watched : ∀ id, s.archiveRecorder = some id → ¬ c.IsStalled h s id) (same : c' = c) :
      Passed c h s c'
  | closed {id : Nat} {phase : Text} {s' : ManagedSession} {new : List Signal}
      (attached : s.archiveRecorder = some id) (closes : AppController.closingPhase s = some phase)
      (ends : Closed c h s id phase s' new) (mem : s' ∈ c'.sessions)
      (reports : c'.finished = c.finished ++ new) : Passed c h s c'
  | stalled {id : Nat} {new : List Signal} (attached : s.archiveRecorder = some id)
      (opened : AppController.closingPhase s = none) (stalls : c.IsStalled h s id)
      (ends : Stalled c h s id new) (mem : s.unarchived ∈ c'.sessions)
      (reports : c'.finished = c.finished ++ new) : Passed c h s c'

/-- A session whose export is closed keeps its identity. -/
lemma Closed.sid {s' : ManagedSession} {new : List Signal} (hclosed : Closed c h s id phase s' new) :
    s'.sid = s.sid := by
  cases hclosed with
  | _ => rfl

/-- An export that was just closed is not stalled. -/
lemma Closed.not_stalled {s' : ManagedSession} {new : List Signal}
    (hclosed : Closed c h s id phase s' new) (d : AppController) (k : Nat)
    (attached : s'.archiveRecorder = some k) : ¬ d.IsStalled h s' k := by
  cases hclosed with
  | retried path retries starts =>
    intro hstalled
    have hlate : exportFirstByteTimeoutS ≤ h.now - h.now := hstalled.late
    rw [sub_self] at hlate
    exact absurd hlate (by unfold exportFirstByteTimeoutS; norm_num)
  | _ => cases attached

/-- The poll of a session, from where it looks at its export. -/
lemma passed_opened (wf : WellFormed d) (live : t ∈ d.sessions) :
    Passed d h t ((d.finalizeCompletedExport h t).onSession t.sid fun c s =>
      c.watchdogStalledExport h s) := by
  have hlead : Leads (fun _ => 0) (fun _ => True) d (d.finalizeCompletedExport h t) :=
    leads_finalizeCompletedExport h trivial trivial (fun _ _ _ => ⟨trivial, trivial, trivial⟩)
      (fun _ => trivial) live
  have hwf := (hlead wf).wellFormed wf
  by_cases hidle : t.archiveRecorder = none ∨ AppController.closingPhase t = none
  · rw [finalizeCompletedExport_idle hidle, wf.onSession live]
    by_cases hstalled : ∃ id, t.archiveRecorder = some id ∧ d.IsStalled h t id
    · obtain ⟨id, hid, hstalled⟩ := hstalled
      obtain ⟨new, hends, hmem, hreports, -⟩ := watchdogStalledExport_stalled live hid hstalled
      refine .stalled hid (hidle.resolve_left ?_) hstalled hends hmem hreports
      rw [hid]
      exact Option.some_ne_none id
    · have hwatched : ∀ id, t.archiveRecorder = some id → ¬ d.IsStalled h t id :=
        fun id hid hd => hstalled ⟨id, hid, hd⟩
      exact .idle hidle hwatched (watchdogStalledExport_idle hwatched)
  · rw [not_or] at hidle
    obtain ⟨id, hid⟩ := Option.ne_none_iff_exists'.mp hidle.1
    obtain ⟨phase, hphase⟩ := Option.ne_none_iff_exists'.mp hidle.2
    obtain ⟨t', new, hclosed, hmem, hreports⟩ := finalizeCompletedExport_closed live hid hphase
    refine .closed hid hphase hclosed ?_ ?_
    · rw [← hclosed.sid, hwf.onSession hmem,
        watchdogStalledExport_idle (hclosed.not_stalled _)]
      exact hmem
    · rw [← hclosed.sid, hwf.onSession hmem,
        watchdogStalledExport_idle (hclosed.not_stalled _)]
      exact hreports

/-- Before the poll looks at the export it reports no end of one. -/
lemma finished_opened (h : Host) (s : ManagedSession) : (c.opened h s).finished = c.finished := by
  refine (AppController.finished_onSession fun t => AppController.finished_publishReplies t).trans ?_
  unfold AppController.consumeIdentityUpdates
  exact AppController.finished_bindIdentities h _ _

/-- The poll of a session comes to its export as it was. -/
lemma publishSession_passed (h : Host) (wf : WellFormed c) (live : s ∈ c.sessions) :
    ∃ t, Exporting c s (c.opened h s) t ∧ WellFormed (c.opened h s) ∧
      Passed (c.opened h s) h t (c.publishSession h s) := by
  obtain ⟨t, ht, heq⟩ := publishSession_opened h wf live
  have hwf : WellFormed (c.opened h s) := (@chain_opened (fun _ => 0) _ _ h wf live).wellFormed wf
  refine ⟨t, ht, hwf, ?_⟩
  rw [heq, ← ht.2.1]
  exact passed_opened hwf ht.1

/-- A pass reports the end of one export at most, and then its recorder is detached. -/
lemma finished_publishSession (h : Host) (wf : WellFormed c) (live : s ∈ c.sessions) :
    ∃ new, (c.publishSession h s).finished = c.finished ++ new ∧ (new = [] ∨
      ∃ phase path, new = [.exportFinished s.nodeId phase path] ∧ s.archiveRecorder.isSome = true ∧
        ∀ u ∈ (c.publishSession h s).sessions, u.sid = s.sid → u.archiveRecorder = none) := by
  have hlead : Leads (fun _ => 0) _ c (c.publishSession h s) := publishSession_own h live
  have hwf' := (hlead wf).wellFormed wf
  obtain ⟨t, ⟨hmem, hsid, hsame, -⟩, hwf, hpassed⟩ := publishSession_passed h wf live
  have hnode : t.nodeId = s.nodeId := exporting_field ManagedSession.nodeId (fun _ => rfl) hsame
  have harchive : t.archiveRecorder = s.archiveRecorder :=
    exporting_field ManagedSession.archiveRecorder (fun _ => rfl) hsame
  have hopened := finished_opened (c := c) h s
  rw [← hnode, ← harchive, ← hsid]
  have hnone : ∀ t', t' ∈ (c.publishSession h s).sessions → t'.sid = t.sid →
      t'.archiveRecorder = none →
      ∀ u ∈ (c.publishSession h s).sessions, u.sid = t.sid → u.archiveRecorder = none := by
    intro t' ht' hid hfree u hu husid
    rw [hwf'.eq_of_sid hu ht' (husid.trans hid.symm)]
    exact hfree
  cases hpassed with
  | idle _ _ same =>
    refine ⟨[], ?_, .inl rfl⟩
    rw [same, hopened, List.append_nil]
  | closed attached closes ends mem reports =>
    refine ⟨_, reports.trans (by rw [hopened]), ?_⟩
    cases ends with
    | reported stop final =>
      exact .inr ⟨_, _, rfl, by rw [attached]; rfl, hnone _ mem rfl rfl⟩
    | _ => exact .inl rfl
  | stalled attached opened stalls ends mem reports =>
    refine ⟨_, reports.trans (by rw [hopened]), ?_⟩
    cases ends with
    | reported stop => exact .inr ⟨_, _, rfl, by rw [attached]; rfl, hnone _ mem rfl rfl⟩
    | failed stop => exact .inl rfl

/-- What is done to one session leaves the others as they were. -/
lemma Chain.others {x : Nat} (hchain : Chain crc32 (Label.Own x) c c') (wf : WellFormed c) :
    ∀ u ∈ c'.sessions, u.sid ≠ x → u ∈ c.sessions := by
  refine Chain.invariant (I := fun d => ∀ u ∈ d.sessions, u.sid ≠ x → u ∈ c.sessions) ?_ hchain wf
    fun u hu _ => hu
  intro a l b _ ha hl hstep u hu hne
  cases hstep.change hu with
  | inl hold =>
    obtain ⟨v, hv, hvu⟩ := hold
    have hsid := hvu.sid
    cases hvu with
    | same => exact ha u hv hne
    | session heq h =>
      rw [heq] at hl
      exact absurd (hsid.trans hl) hne
    | attach heq free lastError =>
      rw [heq] at hl
      exact absurd hl hne
    | exportAttach heq free startedS uuid bound =>
      rw [heq] at hl
      exact absurd hl hne
  | inr hnew =>
    rw [hnew.1] at hl
    exact hl.elim

/-- The sessions are polled one after the other. -/
lemma polled_cons (c : AppController) (h : Host) (sid : Nat) (sids : List Nat) :
    c.polled h (sid :: sids) =
      (c.onSession sid fun c s => c.publishSession h s).polled h sids := rfl

/-- The poll reports the exports of different sessions, and detaches their recorders. -/
lemma finished_polled (h : Host) (wf : WellFormed c) {sids : List Nat} (nodup : sids.Nodup) :
    ∃ (new : List Signal) (reporters : List ManagedSession),
      (c.polled h sids).finished = c.finished ++ new ∧
      List.Forall₂ (fun g r => ∃ phase path, g = .exportFinished r.nodeId phase path) new reporters ∧
      (reporters.map ManagedSession.sid).Sublist sids ∧
      ∀ r ∈ reporters, r ∈ c.sessions ∧ r.archiveRecorder.isSome = true ∧
        ∀ u ∈ (c.polled h sids).sessions, u.sid = r.sid → u.archiveRecorder = none := by
  induction sids generalizing c with
  | nil =>
    refine ⟨[], [], (List.append_nil _).symm, .nil, .slnil, ?_⟩
    intro r hr
    cases hr
  | cons sid sids ih =>
    obtain ⟨hfresh, hrest⟩ := List.nodup_cons.mp nodup
    rw [polled_cons]
    cases hsession : c.sessionBySid? sid with
    | none =>
      have hnone : (c.onSession sid fun c s => c.publishSession h s) = c := by
        unfold AppController.onSession
        rw [hsession]
      rw [hnone]
      obtain ⟨new, reporters, hreports, hfor, hsub, hall⟩ := ih wf hrest
      exact ⟨new, reporters, hreports, hfor, hsub.cons _, hall⟩
    | some s =>
      obtain ⟨live, rfl⟩ := sessionBySid?_some hsession
      rw [wf.onSession live]
      have hown : Chain (fun _ => 0) (Label.Own s.sid) c (c.publishSession h s) :=
        publishSession_own h live wf
      have hwf := hown.wellFormed wf
      obtain ⟨first, hfirst, hone⟩ := finished_publishSession h wf live
      obtain ⟨new, reporters, hreports, hfor, hsub, hall⟩ := ih hwf hrest
      -- the later turns are those of other sessions, so they leave this one as it was
      have hall' : ∀ r ∈ reporters, r ∈ c.sessions ∧ r.archiveRecorder.isSome = true ∧
          ∀ u ∈ ((c.publishSession h s).polled h sids).sessions, u.sid = r.sid →
            u.archiveRecorder = none := by
        intro r hr
        obtain ⟨hmem, hattached, hdetached⟩ := hall r hr
        refine ⟨hown.others wf r hmem ?_, hattached, hdetached⟩
        intro heq
        exact hfresh (heq ▸ hsub.subset (List.mem_map_of_mem hr))
      obtain rfl | ⟨phase, path, rfl, hattached, hdetached⟩ := hone
      · refine ⟨new, reporters, ?_, hfor, hsub.cons _, hall'⟩
        rw [hreports, hfirst, List.append_nil]
      · refine ⟨_ :: new, s :: reporters, ?_, .cons ⟨phase, path, rfl⟩ hfor, hsub.cons_cons _, ?_⟩
        · rw [hreports, hfirst, List.append_assoc]
          rfl
        · intro r hr
          cases List.mem_cons.mp hr with
          | inr hlater => exact hall' r hlater
          | inl heq =>
            rw [heq]
            refine ⟨live, hattached, ?_⟩
            intro u hu husid
            have hloop : Chain (fun _ => 0) (Label.Spares s.sid) (c.publishSession h s)
                ((c.publishSession h s).polled h sids) :=
              chain_loop (fun d t ht => publishSession_own h ht) sids hfresh hwf
            have hkeeps := hloop.keeps (fun _ hl => hl) hwf
              ((wf.lt s live).trans_le hown.nextSession_le)
            exact hdetached u ((hkeeps.sessions u husid).mp hu) husid

/-- The poll comes to the export of a session as it was when the poll began. -/
lemma AppController.Finalizes.exporting (hfinal : c.Finalizes h d t) (wf : WellFormed c) :
    WellFormed d ∧ ∃ s ∈ c.sessions, Exporting c s d t := by
  obtain ⟨-, before, sid, after, s, hsplit, hsession, rfl, ht⟩ := hfinal
  have hnodup := wf.nodup
  rw [hsplit, List.nodup_append, List.nodup_cons] at hnodup
  have hfresh : sid ∉ before := fun hmem => hnodup.2.2 sid hmem sid List.mem_cons_self rfl
  have hmem : sid ∈ c.sessions.map ManagedSession.sid := by
    rw [hsplit]
    exact List.mem_append_right _ List.mem_cons_self
  obtain ⟨s₀, live, rfl⟩ := List.mem_map.mp hmem
  have hloop : Chain (fun _ => 0) (Label.Spares s₀.sid) c (c.polled h before) :=
    chain_loop (fun d t ht => publishSession_own h ht) before hfresh wf
  have hwf := hloop.wellFormed wf
  have hkeeps := hloop.keeps (fun _ hl => hl) wf (wf.lt s₀ live)
  have live' := (hkeeps.sessions s₀ rfl).mpr live
  cases (hwf.sessionBySid? live').symm.trans hsession
  obtain ⟨t', ht', -⟩ := publishSession_opened h hwf live'
  have hwf' := (@chain_opened (fun _ => 0) _ _ h hwf live').wellFormed hwf
  have hfound := hwf'.sessionBySid? ht'.1
  rw [ht'.2.1] at hfound
  cases hfound.symm.trans ht
  obtain ⟨hmem', hsid, hsame, hrecorders⟩ := ht'
  refine ⟨hwf', s, live, hmem', hsid, hsame, ?_⟩
  intro id hid
  exact (hrecorders id hid).trans (hkeeps.recorders s live rfl id (.inr hid))

end SensorHost.Presentation
