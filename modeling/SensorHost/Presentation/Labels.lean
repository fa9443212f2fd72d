import SensorHost.Presentation.Leads

/-!
# The labels of the operations

One lemma for each operation with the labels that it uses. Where an operation takes a step only under
a condition, the label is asked for under that condition (`Retries`, `Completes`), so that a property
may exclude it.

The labels in `Leads crc32 P` are asked for as hypotheses `P l`, and the lemma of an operation asks
for those only that it uses. The poll of one session is taken in two parts: what it does before it
looks at the export (`chain_opened`, with what a session keeps there in `Exporting`), and the
finaliser and the watchdog behind it, which may detach a recorder and start the export again
(`leads_finalizeCompletedExport`, `leads_watchdogStalledExport`). `publishSession_own` says that all
this is the business of one session.
-/

namespace SensorHost.Presentation
open SensorHost.Lib SensorHost.Protocol SensorHost.Storage SensorHost.Acquisition SensorHost.Ota
  SensorHost.Transport

variable {crc32 : Bytes → UInt32} {P Q : Label → Prop} {c c' d : AppController}
  {s s' : ManagedSession}

/-- What `set_recording` does, step by step. -/
lemma leads_setRecording (h : Host) (enabled : Bool) (path : Option Path) (hout : P .outside)
    (hrecording : P .recording) (hattach : ∀ sid, P (.attach sid))
    (hdetach : ∀ sid, P (.session sid .detach))
    (hcancel : ∀ sid, P (.session sid .cancelDeferral)) :
    Leads crc32 P c (c.setRecording h enabled path) := by
  unfold AppController.setRecording
  cases enabled with
  | true =>
    rw [if_pos rfl]
    split
    · exact .outside hout (outside_raiseError _ _)
    · split
      · exact .refl c
      · split
        · exact .outside hout (outside_raiseError _ _)
        · dsimp only
          generalize path.getD _ = batch
          have hbegin : Leads crc32 P c { c with recordingActive := true, recordingBatchPath := some batch } := by
            have hout' : Outside { c with recordingActive := true }
                { c with recordingActive := true, recordingBatchPath := some batch } :=
              .of_core rfl le_rfl rfl
            exact Leads.trans (.step hrecording (.recording true)) (.outside hout hout')
          refine hbegin.trans (Leads.trans (leads_forSessions ?_) (.outside hout (outside_emitNodes _)))
          intro c s live
          split
          · exact leads_startSessionRecording h hout (hattach _) live
          · exact .refl c
  | false =>
    rw [if_neg Bool.false_ne_true]
    have hloop : Leads crc32 P { c with recordingActive := false }
        ({ c with recordingActive := false }.forSessions fun c s => c.stopSessionRecording h s) :=
      leads_forSessions fun c s live =>
        leads_stopSessionRecording h hout live (hdetach _) (hcancel _)
    refine Leads.trans (.step hrecording (.recording false)) (hloop.trans ?_)
    dsimp only
    generalize ({ c with recordingActive := false }.forSessions _) = d
    have hpath : Outside d { d with recordingBatchPath := none } := .of_core rfl le_rfl rfl
    exact .outside hout (hpath.trans (outside_emitNodes _))

/-- The session with the recorder that `_start_archive_recording` gives it. -/
def AppController.archiving (c : AppController) (h : Host) (s : ManagedSession) : ManagedSession :=
  { s with
    archiveRecorder := some c.nextRecorder
    archiveStartRevision := (s.controlState.map FirmwareControlState.exportRevision).getD 0
    archiveStartedS := h.now
    acquisition := s.acquisition.setArchiveRecorder (some c.nextRecorder) }

/-- The controller behind `_start_archive_recording`. -/
def AppController.withArchive (c : AppController) (h : Host) (s : ManagedSession)
    (counts : List (Text × Nat)) (uuid : Uuid) (path : Path) : AppController :=
  { c with
    exportCounts := counts
    nextRecorder := c.nextRecorder + 1
    recorders := Function.update c.recorders c.nextRecorder
      (startedRecorder path (some uuid)) }.setSession (c.archiving h s)

/-- An archive recording starts unless one is active, the UUID is not known or the file does not
open. -/
lemma startArchiveRecording_cases (c : AppController) (h : Host) (s : ManagedSession) :
    (∃ c' message, c.startArchiveRecording h s = (c', .error message) ∧ Outside c c' ∧
      (s.archiveRecorder.isSome = true ∨ c.deviceUuid s.nodeId = none ∨
        h.fileError c.nextRecorder ≠ none)) ∨
    ∃ counts uuid path, s.archiveRecorder = none ∧ c.deviceUuid s.nodeId = some uuid ∧
      h.fileError c.nextRecorder = none ∧
      c.startArchiveRecording h s =
        (c.withArchive h s counts uuid path, .ok (c.archiving h s, path)) := by
  unfold AppController.startArchiveRecording
  split
  · rename_i hactive
    exact .inl ⟨c, _, rfl, .refl c, .inl hactive⟩
  · rename_i hfree
    cases hsummary : c.sessionIndex.summary s.nodeId with
    | error error =>
      refine .inl ⟨c, _, rfl, .refl c, .inr (.inl ?_)⟩
      unfold AppController.deviceUuid
      rw [hsummary]
    | ok summary =>
      have hbound : c.deviceUuid s.nodeId = summary.deviceUuid := by
        unfold AppController.deviceUuid
        rw [hsummary]
      dsimp only
      cases huuid : summary.deviceUuid with
      | none => exact .inl ⟨c, _, rfl, .refl c, .inr (.inl (hbound.trans huuid))⟩
      | some uuid =>
        dsimp only
        generalize AppController.putCount c.exportCounts _ _ = counts
        generalize h.dataRoot ++ _ = path
        cases hr : AppController.newRecorder h c.nextRecorder path (some uuid) with
        | error message =>
          refine .inl ⟨_, _, rfl, .of_core rfl (Nat.le_succ _) rfl, .inr (.inr ?_)⟩
          intro hfile
          unfold AppController.newRecorder at hr
          rw [hfile] at hr
          cases hr
        | ok r =>
          obtain ⟨hfile, rfl⟩ := newRecorder_ok hr
          exact .inr ⟨counts, uuid, path, Option.not_isSome_iff_eq_none.mp hfree,
            hbound.trans huuid, hfile, rfl⟩

/-- The session with the archive recorder is there. -/
lemma mem_withArchive (h : Host) (counts : List (Text × Nat)) (uuid : Uuid) (path : Path)
    (live : s ∈ c.sessions) : c.archiving h s ∈ (c.withArchive h s counts uuid path).sessions := by
  have hsid : (c.archiving h s).sid = s.sid := rfl
  exact (AppController.mem_setSession live hsid).mpr (.inl rfl)

/-- What a start of an archive recording does. -/
lemma leads_withArchive (h : Host) (counts : List (Text × Nat)) {uuid : Uuid} (path : Path)
    (hout : P .outside) (hattach : P (.exportAttach s.sid)) (live : s ∈ c.sessions)
    (free : s.archiveRecorder = none) (bound : c.deviceUuid s.nodeId = some uuid) :
    Leads crc32 P c (c.withArchive h s counts uuid path) := by
  have hcounts : Outside c { c with exportCounts := counts } := .of_core rfl le_rfl rfl
  refine Leads.trans (.outside hout hcounts) (.step hattach ?_)
  exact .exportAttach (c := { c with exportCounts := counts }) path h.now uuid live free bound

/-- A session that was written back is changed once more. -/
lemma Leads.setSession_again {l : SessionLabel} {t : ManagedSession} (live : s ∈ c.sessions)
    (h : Leads crc32 P c (c.setSession s')) (hsid : s'.sid = s.sid) (hP : P (.session s.sid l))
    (hstep : SessionStep crc32 s' c.recorders l t c.recorders) :
    Leads crc32 P c (c.setSession t) := by
  have hmem : s' ∈ (c.setSession s').sessions := (AppController.mem_setSession live hsid).mpr (.inl rfl)
  have hnext : Leads crc32 P (c.setSession s') ((c.setSession s').setSession t) :=
    .setSession (hsid ▸ hP) hmem hstep
  rw [setSession_setSession hstep.sid] at hnext
  exact h.trans hnext

/-- What `send_command_to` does, step by step. -/
lemma leads_sendCommandTo (h : Host) (nodeId command : Text) (hout : P .outside)
    (hattach : AppController.isExportCommand command = true →
      ∀ s ∈ c.sessions, s.nodeId = nodeId → P (.exportAttach s.sid))
    (hqueue : ∀ s ∈ c.sessions, s.nodeId = nodeId → ∀ encoded,
      encodeAscii (strip command) = some encoded →
        P (.session s.sid (.queue (commandKind encoded)))) :
    Leads crc32 P c (c.sendCommandTo h nodeId command) := by
  unfold AppController.sendCommandTo
  refine leads_withSession hout ?_
  intro s live hnode
  split
  · rename_i hexport
    obtain ⟨c', message, heq, houtside, -⟩ | ⟨counts, uuid, path, free, bound, -, heq⟩ :=
      startArchiveRecording_cases c h s
    · rw [heq]
      exact .outside hout (houtside.trans (outside_raiseError _ _))
    · rw [heq]
      refine Leads.trans
        (leads_withArchive h counts path hout (hattach hexport s live hnode) live free bound) ?_
      exact leads_enqueue hout (mem_withArchive h counts uuid path live) (hqueue s live hnode)
  · exact leads_enqueue hout live (hqueue s live hnode)

/-- What `start_export_for` does, step by step. -/
lemma leads_startExportFor (h : Host) (nodeId : Text) (hout : P .outside)
    (hexport : ∀ s ∈ c.sessions, s.nodeId = nodeId → (s.otaActive || s.otaAwaitingRestart) = false →
      P (.exportAttach s.sid) ∧ P (.session s.sid .exportNote) ∧
        P (.session s.sid (.queue .archiveExport))) :
    Leads crc32 P c (c.startExportFor h nodeId) := by
  unfold AppController.startExportFor
  refine leads_withSession hout ?_
  intro s live hnode
  split
  · exact .outside hout (outside_raiseError _ _)
  · rename_i hfree
    obtain ⟨hattach, hnote, hqueue⟩ := hexport s live hnode (Bool.eq_false_iff.mpr hfree)
    split
    · exact .outside hout (outside_raiseError _ _)
    · cases hstate : s.controlState with
      | none => exact .outside hout (outside_raiseError _ _)
      | some state =>
        dsimp only
        split
        · exact .outside hout (outside_raiseError _ _)
        · split
          · exact .outside hout (outside_raiseError _ _)
          · obtain ⟨c', message, heq, houtside, -⟩ | ⟨counts, uuid, path, free, bound, -, heq⟩ :=
              startArchiveRecording_cases c h s
            · rw [heq]
              exact .outside hout (houtside.trans (outside_raiseError _ _))
            · rw [heq]
              have hmem := mem_withArchive h counts uuid path live
              refine Leads.trans (leads_withArchive h counts path hout hattach live free bound) ?_
              refine Leads.trans ?_ (.outside hout (.emit rfl))
              have hnoted : Leads crc32 P _ _ := Leads.setSession (s := c.archiving h s) hnote hmem
                (.exportNote (state.sdUsed.getD 0) (some path)
                  (AppController.exportTargetOf s.transportKind) 0 false (fun h => by cases h))
              exact Leads.setSession_again hmem hnoted rfl hqueue
                (.queue _ .archiveExport (commandKind_exportTo _))

/-- What `cancel_export_for` does, step by step. -/
lemma leads_cancelExportFor (nodeId : Text) (hout : P .outside)
    (hcancel : ∀ sid, P (.session sid .exportCancel)) :
    Leads crc32 P c (c.cancelExportFor nodeId) := by
  unfold AppController.cancelExportFor
  refine leads_withSession hout ?_
  intro s live _
  split
  · exact .refl c
  · rename_i hactive
    rw [not_or] at hactive
    refine .setSession (hcancel _) live (.exportCancel ?_ ?_)
    · exact Option.isSome_iff_ne_none.mpr fun h => hactive.1 (by rw [h]; rfl)
    · exact Bool.eq_false_iff.mpr hactive.2

/-- What `clear_sd_for` does, step by step. -/
lemma leads_clearSdFor (nodeId : Text) (hout : P .outside)
    (hqueue : ∀ sid, P (.session sid (.queue .sdClear))) :
    Leads crc32 P c (c.clearSdFor nodeId) := by
  unfold AppController.clearSdFor
  refine leads_withSession hout ?_
  intro s live _
  split
  · exact .outside hout (outside_raiseError _ _)
  · cases s.controlState with
    | none => exact .outside hout (outside_raiseError _ _)
    | some state =>
      dsimp only
      split
      · exact .outside hout (outside_raiseError _ _)
      · exact leads_queueCommand live (by decide +kernel) (hqueue _)

/-- The poll closes an aborted export and asks for it again. -/
structure AppController.Retries (c : AppController) (h : Host) (s : ManagedSession) (id : Nat) :
    Prop where
  aborted : AppController.closingPhase s = some "ABORTED".toList
  uncancelled : AppController.cancelConfirmed s = false
  first : s.archiveRetries < exportAutoRetries
  empty : ∃ summary,
    ((c.recorders id).stop (h.writerRuns id) (h.metadataError id)).2 = .ok summary ∧
      summary.bytesWritten = 0

/-- A summary is what `stop` has returned. -/
lemma stopRecorder_some {h : Host} {id : Nat} {summary : RecordingSummary}
    (hstop : (c.stopRecorder h id).2 = some summary) :
    ((c.recorders id).stop (h.writerRuns id) (h.metadataError id)).2 = .ok summary := by
  unfold AppController.stopRecorder at hstop
  cases hresult : (c.recorders id).stop (h.writerRuns id) (h.metadataError id) with
  | mk r result =>
    rw [hresult] at hstop
    cases result with
    | ok summary' =>
      cases hstop
      rfl
    | error error =>
      cases error with
      | runtime error => cases hstop
      | osError message => cases hstop

/-- What `_retry_export_after_abort` does, step by step. -/
lemma leads_retryExportAfterAbort (h : Host) (hout : P .outside)
    (hattach : P (.exportAttach s.sid)) (hnote : P (.session s.sid .exportNote))
    (hqueue : P (.session s.sid (.queue .archiveExport))) (live : s ∈ c.sessions) :
    Leads crc32 P c (c.retryExportAfterAbort h s) := by
  unfold AppController.retryExportAfterAbort
  dsimp only
  generalize (if s.archiveTarget = [] then AppController.exportTargetOf s.transportKind
    else s.archiveTarget) = target
  obtain ⟨c', message, heq, houtside, -⟩ | ⟨counts, uuid, path, free, bound, -, heq⟩ :=
    startArchiveRecording_cases c h s
  · rw [heq]
    exact .outside hout (houtside.trans (outside_raiseError _ _))
  · rw [heq]
    have hmem := mem_withArchive h counts uuid path live
    refine Leads.trans (leads_withArchive h counts path hout hattach live free bound) ?_
    refine Leads.trans ?_ (.outside hout (Outside.trans (outside_raiseError _ _) (.emit rfl)))
    have hnoted : Leads crc32 P _ _ := Leads.setSession (s := c.archiving h s) hnote hmem
      (.exportNote s.archiveTotalBytes (some path) target s.archiveRetries
        s.archiveCancelRequested (fun h => h))
    exact Leads.setSession_again hmem hnoted rfl hqueue
      (.queue _ .archiveExport (commandKind_exportTo _))

/-- What taking the archive recorder away does. -/
lemma leads_detachArchive (h : Host) (hout : P .outside) (hexport : P (.session s.sid .exportDetach))
    (live : s ∈ c.sessions) {id : Nat} (attached : s.archiveRecorder = some id) :
    Leads crc32 P c ((c.setSession (AppController.detachArchive s)).stopRecorder h id).1 := by
  have hstep : Leads crc32 P c
      ({ c with
        recorders := Function.update c.recorders id
          ((c.recorders id).drain (h.writerRuns id)).1 }.setSession (AppController.detachArchive s)) :=
    .session hexport live (.exportDetach id attached false (h.writerRuns id))
  exact hstep.trans
    (.outside hout (outside_stopRecorder (c.setSession (AppController.detachArchive s)) h id))

/-- The session is there when its recorder is stopped. -/
lemma mem_stopRecorder (h : Host) (id : Nat) (live : s ∈ c.sessions) (hsid : s'.sid = s.sid) :
    s' ∈ ((c.setSession s').stopRecorder h id).1.sessions := by
  obtain ⟨R, signals, heq⟩ := stopRecorder_eq (c.setSession s') h id
  rw [heq]
  exact (AppController.mem_setSession live hsid).mpr (.inl rfl)

/-- The retry in the words of the finaliser, when the recorder has stopped. -/
lemma retries_iff {h : Host} {id : Nat} {phase : Text} {summary : RecordingSummary}
    (closes : AppController.closingPhase s = some phase)
    (hstop : ((c.recorders id).stop (h.writerRuns id) (h.metadataError id)).2 = .ok summary) :
    c.Retries h s id ↔ (phase = "ABORTED".toList ∧ summary.bytesWritten = 0 ∧
      (!AppController.cancelConfirmed s) = true) ∧ s.archiveRetries < exportAutoRetries := by
  constructor
  · rintro ⟨haborted, huncancelled, hfirst, summary', hstop', hzero⟩
    cases closes.symm.trans haborted
    cases hstop.symm.trans hstop'
    exact ⟨⟨rfl, hzero, by rw [huncancelled]; rfl⟩, hfirst⟩
  · rintro ⟨⟨rfl, hzero, huncancelled⟩, hfirst⟩
    exact ⟨closes, Bool.not_eq_true' _ ▸ huncancelled, hfirst, summary, hstop, hzero⟩

/-- Closing an export: it is asked for again, or reported. -/
lemma leads_finalizeCompletedExport (h : Host) (hout : P .outside)
    (hexport : P (.session s.sid .exportDetach))
    (hretry : ∀ id, s.archiveRecorder = some id → c.Retries h s id →
      P (.exportAttach s.sid) ∧ P (.session s.sid .exportNote) ∧
        P (.session s.sid (.queue .archiveExport)))
    (hcomplete : AppController.closingPhase s = some "COMPLETE".toList → P .complete)
    (live : s ∈ c.sessions) : Leads crc32 P c (c.finalizeCompletedExport h s) := by
  unfold AppController.finalizeCompletedExport
  cases hattached : s.archiveRecorder with
  | none => exact .refl c
  | some id =>
    cases hphase : AppController.closingPhase s with
    | none => exact .refl c
    | some phase =>
      dsimp only
      have hlead : Leads crc32 P c _ := leads_detachArchive h hout hexport live hattached
      have hmem : AppController.detachArchive s ∈
          ((c.setSession (AppController.detachArchive s)).stopRecorder h id).1.sessions :=
        mem_stopRecorder h id live rfl
      have hstop : ∀ summary,
          ((c.setSession (AppController.detachArchive s)).stopRecorder h id).2 = some summary →
            ((c.recorders id).stop (h.writerRuns id) (h.metadataError id)).2 = .ok summary :=
        fun _ => stopRecorder_some
      cases hresult : (c.setSession (AppController.detachArchive s)).stopRecorder h id with
      | mk d result =>
        rw [hresult] at hlead hmem hstop
        cases result with
        | none => exact hlead
        | some summary =>
          dsimp only
          refine Leads.trans hlead ?_
          split
          · rename_i haborted
            split
            · rename_i hfirst
              -- the retry is the one branch that queues a command
              have hP := hretry id hattached
                ((retries_iff hphase (hstop summary rfl)).mpr ⟨haborted, hfirst⟩)
              have hnoted : Leads crc32 P d _ :=
                Leads.setSession (s := AppController.detachArchive s) hP.2.1 hmem
                  (.exportNote s.archiveTotalBytes s.archivePath s.archiveTarget
                    (s.archiveRetries + 1) false (fun h => by cases h))
              refine hnoted.trans ?_
              refine leads_retryExportAfterAbort h hout ?_ ?_ ?_ ?_
              · exact hP.1
              · exact hP.2.1
              · exact hP.2.2
              · exact AppController.mem_setSession_self hmem rfl
            · obtain ⟨habort, -, -⟩ := haborted
              refine .outside hout (Outside.trans (outside_raiseError _ _) (.emit ?_))
              rw [habort]
              rfl
          · have hempty : Outside d (if phase = "EMPTY".toList then
                d.raiseError "device SD ring is empty; nothing to export".toList else d) := by
              split
              · exact outside_raiseError _ _
              · exact .refl d
            refine Leads.trans (.outside hout hempty) ?_
            by_cases hdone : phase = "COMPLETE".toList
            · rw [hdone]
              exact .step (hcomplete (hdone ▸ hphase)) (.complete _ _)
            · exact .outside hout (.emit (bne_iff_ne.mpr hdone))

/-- What `_watchdog_stalled_export` does, step by step. -/
lemma leads_watchdogStalledExport (h : Host) (hout : P .outside)
    (hexport : P (.session s.sid .exportDetach)) (live : s ∈ c.sessions) :
    Leads crc32 P c (c.watchdogStalledExport h s) := by
  unfold AppController.watchdogStalledExport
  cases hattached : s.archiveRecorder with
  | none => exact .refl c
  | some id =>
    dsimp only
    split
    · exact .refl c
    · split
      · exact .refl c
      · split
        · exact .refl c
        · have hlead : Leads crc32 P c _ := leads_unarchived h hout hexport live hattached
          unfold ManagedSession.unarchived at hlead
          split
          · rename_i heq
            rw [heq] at hlead
            exact hlead
          · rename_i heq
            rw [heq] at hlead
            exact hlead.trans
              (.outside hout (Outside.trans (outside_raiseError _ _) (.emit (by rfl))))

/-- A session that is there is found. -/
lemma WellFormed.onSession (wf : WellFormed c) (live : s ∈ c.sessions)
    (f : AppController → ManagedSession → AppController) : c.onSession s.sid f = f c s := by
  unfold AppController.onSession
  rw [wf.sessionBySid? live]

/-- Binding the UUID of a session: a duplicate ends the session, and a recording may start. -/
lemma leads_bindIdentity (h : Host) (uuid : Uuid) (hout : P .outside) (hbind : P (.bind s.sid))
    (hattach : P (.attach s.sid)) (hthread : P (.session s.sid .thread)) (live : s ∈ c.sessions)
    (seen : s.acquisition.deviceUuid = some uuid) :
    Leads crc32 P c (c.bindIdentities h s.sid [uuid]) := by
  unfold AppController.bindIdentities
  cases hsession : c.sessionBySid? s.sid with
  | none => exact .refl c
  | some t =>
    intro wf
    have heq := (wf.sessionBySid? live).symm.trans hsession
    cases heq
    dsimp only
    cases hbound : c.sessionIndex.bindIdentity s.nodeId uuid with
    | error error =>
      have hstep : Leads crc32 P c _ := .setSession hthread live
        (.thread s.worker false true (some error.message) (.inl rfl))
      exact hstep.trans (.outside hout (outside_raiseError _ _)) wf
    | ok sessionIndex =>
      refine Leads.trans (.step hbind (.bind uuid live seen hbound)) ?_ wf
      have hend : ∀ d : AppController, d.emitNodes.bindIdentities h s.sid [] = d.emitNodes := by
        intro d
        unfold AppController.bindIdentities
        rfl
      dsimp only
      rw [hend]
      refine Leads.trans ?_ (.outside hout (outside_emitNodes _))
      split
      · exact leads_startSessionRecording h hout hattach live
      · exact .refl _

/-- What `_consume_identity_updates` does, step by step. -/
lemma leads_consumeIdentityUpdates (h : Host) (hout : P .outside) (hbind : P (.bind s.sid))
    (hattach : P (.attach s.sid)) (hthread : P (.session s.sid .thread))
    (hidentities : P (.session s.sid .identities)) (live : s ∈ c.sessions) :
    Leads crc32 P c (c.consumeIdentityUpdates h s) := by
  have hnil : ∀ d : AppController, d.bindIdentities h s.sid [] = d := by
    intro d
    unfold AppController.bindIdentities
    rfl
  unfold AppController.consumeIdentityUpdates AcquisitionController.drainIdentityUpdates
  intro wf
  have hdrained : Leads crc32 P c _ := Leads.setSession hidentities live .identities
  cases (wf.formed s live).identity with
  | inl hnone =>
    rw [hnone]
    dsimp only
    rw [hnil]
    exact hdrained wf
  | inr hone =>
    obtain ⟨uuid, hone, hknown⟩ := hone
    rw [hone]
    exact hdrained.trans (leads_bindIdentity
      (s := { s with acquisition := { s.acquisition with identityUpdates := [] } }) h uuid hout hbind
      hattach hthread (AppController.mem_setSession_self live rfl) hknown) wf

/-- Plain signals are outside the core. -/
lemma outside_emitAll (c : AppController) (f : Text → Signal) (hf : ∀ t, (f t).plain = true)
    (responses : List Text) :
    Outside c (responses.foldl (fun c text => c.emit (f text)) c) := by
  induction responses generalizing c with
  | nil => exact .refl c
  | cons text responses ih => exact Outside.trans (.emit (hf text)) (ih _)

/-- What publishing replies does. -/
lemma leads_publishReplies (hout : P .outside) (hreplies : P (.session s.sid .replies))
    (live : s ∈ c.sessions) : Leads crc32 P c (c.publishReplies s) := by
  unfold AppController.publishReplies AcquisitionController.drainCliResponses
  dsimp only
  refine Leads.trans (.setSession hreplies live .replies) (.outside hout ?_)
  have hfrom := outside_emitAll
    (c.setAcquisition s { s.acquisition with cliResponses := [] })
    (fun text => .cliResponseFrom s.nodeId text) (fun _ => rfl) s.acquisition.cliResponses
  split
  · exact hfrom.trans (outside_emitAll _ (fun text => .cliResponse text) (fun _ => rfl) _)
  · exact hfrom

/-- The labels of the poll of one session before it looks at the export. -/
def Label.Opens (sid : Nat) : Label → Prop
  | .outside => True
  | .session x .thread | .session x .identities | .session x .replies | .bind x | .attach x => x = sid
  | _ => False

/-- The session without what the poll changes before it looks at the export. -/
def ManagedSession.exporting (s : ManagedSession) : ManagedSession :=
  { s with
    worker := .running
    transportOpen := true
    stopRequested := false
    recorder := none
    failure := none
    acquisition := { s.acquisition with
      recorder := none
      deferRecording := false
      deferredRecordingFrames := []
      deferredRecordingBytes := 0
      lastError := none
      identityUpdates := []
      cliResponses := [] } }

/-- What the poll does not change first stays. -/
lemma exporting_field {β : Type} (get : ManagedSession → β) (hget : ∀ s, get s.exporting = get s)
    (h : s'.exporting = s.exporting) : get s' = get s := by
  rw [← hget s', h, hget]

/-- The session is there, up to what the poll changes first, with its archive recorder as it was. -/
def Exporting (c : AppController) (s : ManagedSession) (d : AppController) (t : ManagedSession) :
    Prop :=
  t ∈ d.sessions ∧ t.sid = s.sid ∧ t.exporting = s.exporting ∧
    ∀ id, s.archiveRecorder = some id → d.recorders id = c.recorders id

/-- The session stays up to what the poll changes first. -/
lemma Chain.exporting (h : Chain crc32 (Label.Opens s.sid) c d) (wf : WellFormed c)
    (live : s ∈ c.sessions) : ∃ t, Exporting c s d t := by
  refine Chain.invariant (I := fun d => ∃ t, Exporting c s d t) ?_ h wf
    ⟨s, live, rfl, rfl, fun _ _ => rfl⟩
  intro a l b wfa ha hl hstep
  obtain ⟨t, ht, hsid, hsame, hrecorders⟩ := ha
  have harchive : t.archiveRecorder = s.archiveRecorder :=
    exporting_field ManagedSession.archiveRecorder (fun _ => rfl) hsame
  cases hstep with
  | outside h =>
    refine ⟨t, ?_, hsid, hsame, ?_⟩
    · rw [h.field AppController.sessions fun _ => rfl]
      exact ht
    · rw [h.field AppController.recorders fun _ => rfl]
      exact hrecorders
  | @session u u' l R live' h =>
    have hu : u.sid = s.sid := by
      cases l with
      | thread => exact hl
      | identities => exact hl
      | replies => exact hl
      | _ => exact hl.elim
    cases wfa.eq_of_sid live' ht (hu.trans hsid.symm)
    cases h with
    | thread _ _ _ _ _ =>
      exact ⟨_, AppController.mem_setSession_self ht rfl, hsid, hsame, hrecorders⟩
    | identities => exact ⟨_, AppController.mem_setSession_self ht rfl, hsid, hsame, hrecorders⟩
    | replies => exact ⟨_, AppController.mem_setSession_self ht rfl, hsid, hsame, hrecorders⟩
    | _ => exact hl.elim
  | bind uuid live' seen accepted => exact ⟨t, ht, hsid, hsame, hrecorders⟩
  | @attach u path live' free =>
    cases wfa.eq_of_sid live' ht (Eq.trans hl hsid.symm)
    obtain ⟨lastError, heq⟩ := t.acquisition.setRecorder_some
      (Function.update a.recorders a.nextRecorder (startedRecorder path (a.deviceUuid t.nodeId)))
      a.nextRecorder
    rw [heq]
    refine ⟨_, AppController.mem_setSession_self ht rfl, hsid, hsame, ?_⟩
    intro id hid
    -- the live recording opened here has a fresh number, so the archive file is another
    have hlt := (wfa.formed t ht).lt id (.inr (harchive.trans hid))
    refine Eq.trans ?_ (hrecorders id hid)
    show Function.update (Function.update a.recorders a.nextRecorder _) a.nextRecorder _ id = _
    rw [Function.update_of_ne hlt.ne, Function.update_of_ne hlt.ne]
  | _ => exact hl.elim

/-- The poll of a session, up to its export. -/
def AppController.opened (c : AppController) (h : Host) (s : ManagedSession) : AppController :=
  (c.consumeIdentityUpdates h s).onSession s.sid AppController.publishReplies

/-- Before the poll looks at the export it takes these steps only. -/
lemma chain_opened (h : Host) (wf : WellFormed c) (live : s ∈ c.sessions) :
    Chain crc32 (Label.Opens s.sid) c (c.opened h s) := by
  have hconsume : Chain crc32 (Label.Opens s.sid) c (c.consumeIdentityUpdates h s) :=
    leads_consumeIdentityUpdates h trivial rfl rfl rfl rfl live wf
  refine Relation.ReflTransGen.trans hconsume ?_
  refine leads_onSession ?_ (hconsume.wellFormed wf)
  intro t ht hsid
  exact leads_publishReplies trivial hsid ht

/-- The poll of a session comes to its export with the export as it was. -/
lemma publishSession_opened (h : Host) (wf : WellFormed c) (live : s ∈ c.sessions) :
    ∃ t, Exporting c s (c.opened h s) t ∧
      c.publishSession h s = ((c.opened h s).finalizeCompletedExport h t).onSession s.sid
        fun c s => c.watchdogStalledExport h s := by
  -- any checksum will do, since the poll reads no bytes
  have hopened := @chain_opened (fun _ => 0) _ _ h wf live
  obtain ⟨t, ht⟩ := hopened.exporting wf live
  refine ⟨t, ht, ?_⟩
  have hon := (hopened.wellFormed wf).onSession ht.1 fun c s => c.finalizeCompletedExport h s
  rw [ht.2.1] at hon
  have hsplit : c.publishSession h s = ((c.opened h s).onSession s.sid fun c s =>
      c.finalizeCompletedExport h s).onSession s.sid fun c s => c.watchdogStalledExport h s := rfl
  rw [hsplit, hon]

/-- The poll of a session ends with its export and the watchdog. -/
lemma publishSession_split (h : Host) (wf : WellFormed c) (live : s ∈ c.sessions) :
    ∃ d t, Chain crc32 (Label.Opens s.sid) c d ∧ Exporting c s d t ∧
      c.publishSession h s = (d.finalizeCompletedExport h t).onSession s.sid fun c s =>
        c.watchdogStalledExport h s := by
  obtain ⟨t, ht, heq⟩ := publishSession_opened h wf live
  exact ⟨_, t, chain_opened h wf live, ht, heq⟩

/-- An export that is to be tried again was so before. -/
lemma Exporting.retries {h : Host} {id : Nat} {t : ManagedSession} (hexporting : Exporting c s d t)
    (hid : s.archiveRecorder = some id) (hretries : d.Retries h t id) : c.Retries h s id := by
  obtain ⟨-, -, hsame, hrecorders⟩ := hexporting
  obtain ⟨haborted, huncancelled, hfirst, hempty⟩ := hretries
  rw [exporting_field AppController.closingPhase (fun _ => rfl) hsame] at haborted
  rw [exporting_field AppController.cancelConfirmed (fun _ => rfl) hsame] at huncancelled
  rw [exporting_field ManagedSession.archiveRetries (fun _ => rfl) hsame] at hfirst
  rw [hrecorders id hid] at hempty
  exact ⟨haborted, huncancelled, hfirst, hempty⟩

/-- The poll of one session. -/
lemma leads_publishSession (h : Host) (hopens : ∀ l, l.Opens s.sid → P l)
    (hexport : P (.session s.sid .exportDetach))
    (hretry : ∀ id, s.archiveRecorder = some id → c.Retries h s id →
      P (.exportAttach s.sid) ∧ P (.session s.sid .exportNote) ∧
        P (.session s.sid (.queue .archiveExport)))
    (hcomplete : AppController.closingPhase s = some "COMPLETE".toList → P .complete)
    (live : s ∈ c.sessions) : Leads crc32 P c (c.publishSession h s) := by
  intro wf
  obtain ⟨d, t, hchain, hexporting, heq⟩ := @publishSession_split crc32 _ _ h wf live
  obtain ⟨ht, hsid, hsame, -⟩ := id hexporting
  have hout : P .outside := hopens _ trivial
  have hdone : Leads crc32 P d (d.finalizeCompletedExport h t) := by
    refine leads_finalizeCompletedExport h hout (hsid ▸ hexport) ?_ ?_ ht
    · intro id hid hretries
      have hid' : s.archiveRecorder = some id :=
        (exporting_field ManagedSession.archiveRecorder (fun _ => rfl) hsame).symm.trans hid
      rw [hsid]
      exact hretry id hid' (hexporting.retries hid' hretries)
    · intro hphase
      rw [exporting_field AppController.closingPhase (fun _ => rfl) hsame] at hphase
      exact hcomplete hphase
  rw [heq]
  have hwatch : ∀ u ∈ (d.finalizeCompletedExport h t).sessions, u.sid = s.sid →
      Leads crc32 P (d.finalizeCompletedExport h t)
        ((d.finalizeCompletedExport h t).watchdogStalledExport h u) :=
    fun u hu hu' => leads_watchdogStalledExport h hout (hu' ▸ hexport) hu
  have hlead : Leads crc32 P d ((d.finalizeCompletedExport h t).onSession s.sid fun c s =>
      c.watchdogStalledExport h s) := hdone.trans (leads_onSession hwatch)
  exact Relation.ReflTransGen.trans (hchain.mono hopens) (hlead (hchain.wellFormed wf))

/-- The step is one of a session's own, or of none. -/
def Label.Own (sid : Nat) : Label → Prop
  | .outside | .complete => True
  | .session x _ | .bind x | .attach x | .exportAttach x => x = sid
  | _ => False

/-- What a session does leaves the others alone. -/
lemma Label.Own.spares {x y : Nat} {l : Label} (h : l.Own x) (hne : x ≠ y) : l.Spares y := by
  cases l with
  | session z l => exact fun heq => hne (h.symm.trans heq)
  | attach z => exact fun heq => hne (h.symm.trans heq)
  | exportAttach z => exact fun heq => hne (h.symm.trans heq)
  | outside => exact trivial
  | complete => exact trivial
  | bind z => exact trivial
  | _ => exact h.elim

/-- What the poll does first is the session's own. -/
lemma Label.Opens.own {x : Nat} {l : Label} (h : l.Opens x) : l.Own x := by
  cases l with
  | session z l =>
    cases l with
    | thread => exact h
    | identities => exact h
    | replies => exact h
    | _ => exact h.elim
  | outside => exact trivial
  | bind z => exact h
  | attach z => exact h
  | _ => exact h.elim

section Loop

variable {f : AppController → ManagedSession → AppController}
  (hf : ∀ d, ∀ t ∈ d.sessions, Leads crc32 (Label.Own t.sid) d (f d t))

include hf in
/-- The other sessions of a loop leave a session alone. -/
lemma chain_loop {x : Nat} (sids : List Nat) (hx : x ∉ sids) (wf : WellFormed c) :
    Chain crc32 (Label.Spares x) c (sids.foldl (fun c sid => c.onSession sid f) c) := by
  induction sids generalizing c with
  | nil => exact .refl
  | cons sid sids ih =>
    rw [List.foldl_cons]
    rw [List.mem_cons, not_or] at hx
    have hfirst : Chain crc32 (Label.Spares x) c (c.onSession sid f) := by
      refine leads_onSession ?_ wf
      intro s hs hsid
      refine (hf c s hs).mono ?_
      intro l hl
      refine hl.spares ?_
      rw [hsid]
      exact fun heq => hx.1 heq.symm
    exact Relation.ReflTransGen.trans hfirst (ih hx.2 (hfirst.wellFormed wf))

end Loop

/-- The poll of one session, by its own labels. -/
lemma publishSession_own (h : Host) (live : s ∈ c.sessions) :
    Leads crc32 (Label.Own s.sid) c (c.publishSession h s) :=
  leads_publishSession h (fun _ hl => hl.own) rfl (fun _ _ _ => ⟨rfl, rfl, rfl⟩) (fun _ => trivial)
    live

end SensorHost.Presentation
