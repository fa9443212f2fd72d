import SensorHost.Presentation.Watchdog

/-!
# Refused commands

A command that `send_command_to` reports an error for leaves the export of its session as it was,
but for an export command that starts its recorder before the check refuses it
(`refused_command_iff`).

The archive of a session is four fields (`archiveState`), and a report is an `errorRaised` among the
new signals. `enqueueCommand_sendable` says which commands the check lets pass. A command that is no
export reaches the session only if it passes; an export command comes to the recorder first, and
where that cannot start the command goes no further (`startArchiveRecording_cases`).

The witnesses are an export that is started for nothing, and one that is running and stays.
-/

namespace SensorHost.Presentation
open SensorHost.Lib SensorHost.Protocol SensorHost.Storage SensorHost.Acquisition SensorHost.Ota
  SensorHost.Transport

/-- What a session keeps of its export. -/
def ManagedSession.archiveState (s : ManagedSession) : Option Nat × Option Nat × Nat × ℚ :=
  (s.archiveRecorder, s.acquisition.archiveRecorder, s.archiveStartRevision, s.archiveStartedS)

namespace AppController

/-- Between `c` and `c'` an error was reported, and nothing else. -/
def Reports (c c' : AppController) : Prop :=
  ∃ message, c'.signals = c.signals ++ [.errorRaised message]

/-- In `c'` the export of the session is as it was. -/
def SameArchive (c' : AppController) (s : ManagedSession) : Prop :=
  ∀ s' ∈ c'.sessions, s'.sid = s.sid → s'.archiveState = s.archiveState

/-- The check of `enqueue_command`. -/
def Sendable (command : Text) : Prop :=
  ∃ encoded, encodeAscii (strip command) = some encoded ∧ encoded ≠ [] ∧
    encoded.length ≤ maximumCommandBytes ∧ 0 ∉ encoded

/-- The recorder of an export of the session can start. -/
def CanArchive (c : AppController) (h : Host) (s : ManagedSession) : Prop :=
  s.archiveRecorder = none ∧ (c.deviceUuid s.nodeId).isSome = true ∧
    h.fileError c.nextRecorder = none

end AppController

variable {crc32 : Bytes → UInt32} {c : AppController} {s : ManagedSession} {h : Host}
  {nodeId command : Text}

/-- `enqueue_command` checks the command alone. -/
lemma enqueueCommand_sendable (a : AcquisitionController) (command : Text) :
    (AppController.Sendable command ∧ ∃ encoded,
        a.enqueueCommand command = .ok { a with commands := a.commands ++ [encoded] }) ∨
      ¬ AppController.Sendable command ∧ ∃ message, a.enqueueCommand command = .error message := by
  unfold AcquisitionController.enqueueCommand AppController.Sendable
  cases hencoded : encodeAscii (strip command) with
  | none =>
    refine .inr ⟨?_, _, rfl⟩
    rintro ⟨encoded, heq, -⟩
    cases heq
  | some encoded =>
    dsimp only
    split
    · rename_i hbad
      refine .inr ⟨?_, _, rfl⟩
      rintro ⟨encoded', heq, hne, hle, hzero⟩
      cases heq
      rcases hbad with h | h | h
      · exact hne h
      · exact not_lt.mpr hle h
      · exact hzero h
    · rename_i hgood
      rw [not_or, not_or] at hgood
      exact .inl ⟨⟨encoded, rfl, hgood.1, not_lt.mp hgood.2.1, hgood.2.2⟩, encoded, rfl⟩

/-- The session that was written back is the one with its number. -/
lemma sameArchive_iff {c' : AppController} {s s' : ManagedSession} (wf : WellFormed c')
    (live : s' ∈ c'.sessions) (hsid : s'.sid = s.sid) :
    c'.SameArchive s ↔ s'.archiveState = s.archiveState := by
  refine ⟨fun h => h s' live hsid, fun h u hu husid => ?_⟩
  rw [wf.eq_of_sid hu live (husid.trans hsid.symm)]
  exact h

/-- An error is reported, and nothing else. -/
lemma reports_raiseError (c : AppController) (message : Text) : c.Reports (c.raiseError message) :=
  ⟨message, rfl⟩

/-- Queueing a command reports an error, or keeps all but the commands. -/
lemma enqueue_sendable (c : AppController) (s : ManagedSession) (command : Text) :
    AppController.Sendable command ∧
        (c.enqueue s (s.acquisition.enqueueCommand command)).signals = c.signals ∨
      ¬ AppController.Sendable command ∧
        ∃ message, c.enqueue s (s.acquisition.enqueueCommand command) = c.raiseError message := by
  obtain ⟨hgood, encoded, heq⟩ | ⟨hbad, message, heq⟩ := enqueueCommand_sendable s.acquisition command
  · rw [heq]
    exact .inl ⟨hgood, rfl⟩
  · rw [heq]
    exact .inr ⟨hbad, message, rfl⟩

/-- Nothing is reported where there are no more signals. -/
lemma not_reports_of_signals {c' : AppController} (h : c'.signals = c.signals) : ¬ c.Reports c' := by
  rintro ⟨message, heq⟩
  rw [h, List.self_eq_append_right] at heq
  cases heq

/-- A command for a session of the application. -/
lemma sendCommandTo_refused (wf : WellFormed c) (found : c.session? nodeId = some s) :
    (c.Reports (c.sendCommandTo h nodeId command) →
        (c.sendCommandTo h nodeId command).SameArchive s) ↔
      ¬ (AppController.isExportCommand command = true ∧ ¬ AppController.Sendable command ∧
        c.CanArchive h s) := by
  obtain ⟨live, -⟩ := session?_some found
  have hlead : Leads (fun _ => 0) (fun _ => True) c (c.sendCommandTo h nodeId command) :=
    leads_sendCommandTo h nodeId command trivial (fun _ _ _ _ => trivial) fun _ _ _ _ _ => trivial
  have hwf := (hlead wf).wellFormed wf
  unfold AppController.sendCommandTo AppController.withSession at *
  rw [found] at *
  dsimp only at *
  have hsame : ∀ c' : AppController, c'.sessions = c.sessions → c'.SameArchive s := by
    intro c' hsessions u hu hsid
    rw [hsessions] at hu
    rw [wf.eq_of_sid hu live hsid]
  cases hexport : AppController.isExportCommand command with
  | false =>
    rw [if_neg Bool.false_ne_true]
    refine ⟨fun _ hall => Bool.false_ne_true hall.1, fun _ hreports => ?_⟩
    obtain ⟨-, hsignals⟩ | ⟨-, message, heq⟩ := enqueue_sendable c s command
    · exact absurd hreports (not_reports_of_signals hsignals)
    · rw [heq]
      exact hsame _ rfl
  | true =>
    rw [hexport, if_pos rfl] at hwf
    rw [if_pos rfl]
    obtain ⟨c', message, heq, houtside, hwhy⟩ | ⟨counts, uuid, path, hfree, hbound, hfile, heq⟩ :=
      startArchiveRecording_cases c h s
    · rw [heq] at hwf ⊢
      refine ⟨fun _ hall => ?_, fun _ _ => ?_⟩
      · obtain ⟨-, -, hfree, hbound, hfile⟩ := hall
        rcases hwhy with h | h | h
        · rw [hfree] at h
          cases h
        · rw [h] at hbound
          cases hbound
        · exact h hfile
      · exact hsame _ (houtside.field AppController.sessions fun _ => rfl)
    · rw [heq] at hwf ⊢
      have hcan : c.CanArchive h s := ⟨hfree, by rw [hbound]; rfl, hfile⟩
      have hmem := mem_withArchive h counts uuid path live
      obtain ⟨hgood, hsignals⟩ | ⟨hbad, message, hraise⟩ :=
        enqueue_sendable (c.withArchive h s counts uuid path) (c.archiving h s) command
      · exact ⟨fun _ hall => hall.2.1 hgood,
          fun _ hreports => absurd hreports (not_reports_of_signals hsignals)⟩
      · dsimp only at hwf ⊢
        rw [hraise] at hwf ⊢
        -- the defect: the refused command leaves the archive that was opened for it
        refine ⟨fun hkeeps => ?_, fun hnot => absurd ⟨rfl, hbad, hcan⟩ hnot⟩
        have hreports : c.Reports ((c.withArchive h s counts uuid path).raiseError message) :=
          reports_raiseError _ message
        have hkept := (sameArchive_iff (s := s) hwf hmem rfl).mp (hkeeps hreports)
        have hrecorder : (c.archiving h s).archiveRecorder = s.archiveRecorder :=
          congrArg Prod.fst hkept
        rw [hfree] at hrecorder
        cases hrecorder

/-- A command that is refused leaves the export of its session as it was, in every reachable state,
unless it is an export command that the check of commands refuses and the recorder can start. -/
theorem refused_command_iff (crc32 : Bytes → UInt32) (aliases : List (Text × Text))
    (events : List Event) (h : Host) (nodeId command : Text) {s : ManagedSession}
    (found : (AppController.run crc32 aliases events).session? nodeId = some s) :
    let c := AppController.run crc32 aliases events
    (c.Reports (c.sendCommandTo h nodeId command) →
        (c.sendCommandTo h nodeId command).SameArchive s) ↔
      ¬ (AppController.isExportCommand command = true ∧ ¬ AppController.Sendable command ∧
        c.CanArchive h s) :=
  sendCommandTo_refused (wellFormed_run crc32 aliases events).1 found

/-- An export command of a hundred characters. -/
def longExport : Text := "AT+EXPORT=".toList ++ List.replicate 90 'A'

/-- The command to a node that is ready leaves an export behind. -/
theorem refused_command_phantom :
    ∃ s, (AppController.run zlibCrc32 [] Event.exportReady).session? "wifi-1".toList = some s ∧
      (AppController.run zlibCrc32 [] Event.exportReady).Reports
        ((AppController.run zlibCrc32 [] Event.exportReady).sendCommandTo {} "wifi-1".toList
          longExport) ∧
      ¬ ((AppController.run zlibCrc32 [] Event.exportReady).sendCommandTo {} "wifi-1".toList
          longExport).SameArchive s := by
  generalize hc : AppController.run zlibCrc32 [] Event.exportReady = c
  have hrun : (c.session? "wifi-1".toList).any (fun s => s.archiveRecorder == none &&
      (c.sendCommandTo {} "wifi-1".toList longExport).sessions.any fun s' =>
        s'.sid == s.sid && s'.archiveRecorder != none) = true := by
    rw [← hc]
    decide +kernel
  have hsignals : (c.sendCommandTo {} "wifi-1".toList longExport).signals = c.signals ++
      [.errorRaised "command must contain 1..94 ASCII bytes without NUL".toList] := by
    rw [← hc]
    decide +kernel
  obtain ⟨s, hsession, hs⟩ := (Option.any_eq_true _ _).mp hrun
  rw [Bool.and_eq_true, beq_iff_eq, List.any_eq_true] at hs
  obtain ⟨hfree, s', hmem, hs'⟩ := hs
  rw [Bool.and_eq_true, beq_iff_eq, bne_iff_ne] at hs'
  refine ⟨s, hsession, ⟨_, hsignals⟩, fun hsame => hs'.2 ?_⟩
  rw [← hfree]
  exact congrArg Prod.fst (hsame s' hmem hs'.1)

/-- The same command while the node exports leaves that export as it was. -/
theorem refused_command_exporting :
    ∃ s, (AppController.run zlibCrc32 [] Event.silentExport).session? "wifi-1".toList = some s ∧
      ((AppController.run zlibCrc32 [] Event.silentExport).sendCommandTo {} "wifi-1".toList
          longExport).SameArchive s := by
  have hrun : ((AppController.run zlibCrc32 [] Event.silentExport).session? "wifi-1".toList).any
      (fun s => s.archiveRecorder != none) = true := by
    decide +kernel
  have hreports : (AppController.run zlibCrc32 [] Event.silentExport).Reports
      ((AppController.run zlibCrc32 [] Event.silentExport).sendCommandTo {} "wifi-1".toList
        longExport) := by
    refine ⟨"an archive export is already active for this node".toList, ?_⟩
    decide +kernel
  obtain ⟨s, hsession, hs⟩ := (Option.any_eq_true _ _).mp hrun
  refine ⟨s, hsession, ?_⟩
  refine (refused_command_iff zlibCrc32 [] Event.silentExport {} "wifi-1".toList longExport
    hsession).mpr (fun hall => ?_) hreports
  exact bne_iff_ne.mp hs hall.2.2.1

end SensorHost.Presentation
