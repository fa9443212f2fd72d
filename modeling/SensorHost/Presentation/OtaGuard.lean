import SensorHost.Presentation.OtaOwner

/-!
# Commands during an OTA

While a node is being flashed, no operation may start its acquisition, export its archive or clear its
SD. `guarded_iff` says which operations keep to this: the two that queue a command without a look at
the flags do not, when nothing else stops them (`Unguarded`).

A command is judged by its lines, since a text that is typed may carry several to the node and is
written to the transport as it is: it is `Harmless` if none of them is one of the three requests. The
condition reads the text, the flags and what the operation checks before it queues, and nothing that
the operation computes.

For the operations that do not queue a text of the caller the labels of their steps settle it
(`guarded_labels`); those that look at the flags have a lemma each, and `guarded_sendCommandTo` is the
equivalence for a text. The counterexample clears the SD of a node that is being flashed.
-/

namespace SensorHost.Presentation
open SensorHost.Lib SensorHost.Protocol SensorHost.Storage SensorHost.Acquisition SensorHost.Ota
  SensorHost.Transport

variable {crc32 : Bytes → UInt32} {P : Label → Prop} {c c' d : AppController}
  {s t : ManagedSession}

/-- A queued command starts, exports and clears nothing: none of the lines that the device reads it
as does. -/
def Harmless (command : Bytes) : Prop := ∀ line ∈ commandLines command, lineKind line = .other

instance (command : Bytes) : Decidable (Harmless command) :=
  inferInstanceAs (Decidable (∀ line ∈ commandLines command, _))

/-- The session has the commands of before, and others that start, export and clear nothing. -/
def AddsHarmless (s t : ManagedSession) : Prop :=
  ∃ added, t.acquisition.commands = s.acquisition.commands ++ added ∧
    ∀ command ∈ added, Harmless command

/-- The operation queues no command that starts, exports or clears on a session that is being
flashed. -/
def AppController.Guarded (crc32 : Bytes → UInt32) (c : AppController) (h : Host) (o : Operation) :
    Prop :=
  ∀ s ∈ c.sessions, s.flashing = true →
    ∀ t ∈ (c.operate crc32 h o).sessions, t.sid = s.sid → AddsHarmless s t

/-- `enqueue_command` takes the bytes. -/
def Acceptable (encoded : Bytes) : Prop :=
  encoded ≠ [] ∧ encoded.length ≤ maximumCommandBytes ∧ 0 ∉ encoded

instance (encoded : Bytes) : Decidable (Acceptable encoded) :=
  inferInstanceAs (Decidable (_ ∧ _ ∧ _))

/-- A typed command that starts, exports or clears reaches a node that is being flashed. -/
def AppController.Unguards (c : AppController) (h : Host) (nodeId command : Text) : Prop :=
  ∃ s encoded, c.session? nodeId = some s ∧ s.flashing = true ∧
    encodeAscii (strip command) = some encoded ∧ Acceptable encoded ∧
    ¬ Harmless encoded ∧
    (AppController.isExportCommand command = true → s.archiveRecorder = none ∧
      (c.deviceUuid nodeId).isSome = true ∧ h.fileError c.nextRecorder = none)

/-- The operations that pass every check there is, and reach a node that is being flashed. -/
def AppController.Unguarded (c : AppController) (h : Host) : Operation → Prop
  | .sendCommandTo nodeId command => c.Unguards h nodeId command
  | .sendCommand command => ∃ nodeId, c.selectedNodeId = some nodeId ∧ c.Unguards h nodeId command
  | .clearSdFor nodeId => ∃ s state, c.session? nodeId = some s ∧ s.flashing = true ∧
      s.archiveRecorder = none ∧ s.controlState = some state ∧
      (state.acquisitionState = some "IDLE".toList ∨ state.acquisitionState = some "ERROR".toList)
  | _ => False

/-- A command of no kind starts, exports and clears nothing. -/
lemma harmless_of_kind {command : Bytes} (h : commandKind command = .other) : Harmless command :=
  commandKind_eq_other.mp h

/-- Nothing done adds nothing. -/
lemma AddsHarmless.refl (s : ManagedSession) : AddsHarmless s s :=
  ⟨[], (List.append_nil _).symm, fun _ h => by cases h⟩

/-- Nor does what leaves the commands alone. -/
lemma AddsHarmless.of_commands (h : t.acquisition.commands = s.acquisition.commands) :
    AddsHarmless s t := ⟨[], by rw [h, List.append_nil], fun _ h => by cases h⟩

/-- A chain that queues nothing else on a session keeps it harmless. -/
lemma Chain.addsHarmless (h : Chain crc32 P c c') (wf : WellFormed c) (live : s ∈ c.sessions)
    (hsend : ¬ P (.session s.sid .send))
    (hqueue : ∀ kind, kind ≠ .other → ¬ P (.session s.sid (.queue kind))) (ht : t ∈ c'.sessions)
    (hsid : t.sid = s.sid) : AddsHarmless s t := by
  have hall : s.sid < c'.nextSession ∧ ∀ t ∈ c'.sessions, t.sid = s.sid → AddsHarmless s t := by
    refine Chain.invariant (I := fun d => s.sid < d.nextSession ∧
      ∀ t ∈ d.sessions, t.sid = s.sid → AddsHarmless s t) ?_ h wf ⟨wf.lt s live, ?_⟩
    · intro a l b wfa ha hl hstep
      refine ⟨ha.1.trans_le hstep.nextSession_le, ?_⟩
      intro t ht hsid
      cases hstep.change ht with
      | inl hold =>
        obtain ⟨u, hu, hchange⟩ := hold
        have husid : u.sid = s.sid := hchange.sid.symm.trans hsid
        obtain ⟨added, hadded, hother⟩ := ha.2 u hu husid
        obtain ⟨added', hadded', hother'⟩ := hchange.commands (by
          rw [husid]
          exact fun heq => hsend (heq ▸ hl))
        refine ⟨added ++ added', ?_, ?_⟩
        · rw [hadded', hadded, List.append_assoc]
        · intro command hcommand
          cases List.mem_append.mp hcommand with
          | inl h => exact hother command h
          | inr h =>
            cases hother' command h with
            | inl h => exact harmless_of_kind h
            | inr heq =>
              by_contra hharmful
              rw [husid] at heq
              refine hqueue _ ?_ (heq ▸ hl)
              exact fun hkind => hharmful (harmless_of_kind hkind)
      | inr hadd =>
        -- a new session is another one
        obtain ⟨-, nodeId, peer, kind, heq⟩ := hadd
        have hnew : t.sid = a.nextSession := by rw [heq]; rfl
        exact absurd ha.1 (not_lt.mpr (hnew.symm.trans hsid).le)
    · intro t ht hsid
      rw [wf.eq_of_sid ht live hsid]
      exact .refl s
  exact hall.2 t ht hsid

/-- With a command that does harm, a session has more than harmless ones. -/
lemma not_addsHarmless {command : Bytes} (hkind : ¬ Harmless command)
    (h : t.acquisition.commands = s.acquisition.commands ++ [command]) : ¬ AddsHarmless s t := by
  intro hharmless
  obtain ⟨added, hadded, hother⟩ := hharmless
  have heq := List.append_cancel_left (h.symm.trans hadded)
  exact hkind (hother command (heq ▸ List.mem_singleton_self _))

/-- An operation that leaves the sessions alone, or changes one that is not being flashed. -/
lemma guarded_of_setSession (wf : WellFormed c) {s' : ManagedSession} (live : s ∈ c.sessions)
    (hsid : s'.sid = s.sid) (hs' : s.flashing = true → AddsHarmless s s')
    {u : ManagedSession} (hu : u ∈ c.sessions) (hflashing : u.flashing = true)
    (ht : t ∈ (c.setSession s').sessions) (htu : t.sid = u.sid) : AddsHarmless u t := by
  cases (AppController.mem_setSession live hsid).mp ht with
  | inl heq =>
    rw [heq] at htu ⊢
    rw [wf.eq_of_sid hu live (htu.symm.trans hsid)] at hflashing ⊢
    exact hs' hflashing
  | inr h =>
    rw [wf.eq_of_sid h.1 hu htu]
    exact .refl u

/-- An operation that leaves the sessions as they are adds nothing to any. -/
lemma addsHarmless_of_sessions (wf : WellFormed c) {d : AppController}
    (hsessions : d.sessions = c.sessions) (live : s ∈ c.sessions) (ht : t ∈ d.sessions)
    (hsid : t.sid = s.sid) : AddsHarmless s t := by
  rw [hsessions] at ht
  rw [wf.eq_of_sid ht live hsid]
  exact .refl s

/-- An archive recording can start. -/
def AppController.ArchiveStarts (c : AppController) (h : Host) (s : ManagedSession) : Prop :=
  s.archiveRecorder = none ∧ (c.deviceUuid s.nodeId).isSome = true ∧
    h.fileError c.nextRecorder = none

/-- A command is queued if its bytes are acceptable, and refused otherwise. -/
lemma enqueueCommand_cases (a : AcquisitionController) (command : Text) :
    (∃ encoded, encodeAscii (strip command) = some encoded ∧ Acceptable encoded ∧
      a.enqueueCommand command = .ok { a with commands := a.commands ++ [encoded] }) ∨
    ((∀ encoded, encodeAscii (strip command) = some encoded → ¬ Acceptable encoded) ∧
      ∃ message, a.enqueueCommand command = .error message) := by
  unfold AcquisitionController.enqueueCommand
  cases hencode : encodeAscii (strip command) with
  | none => exact .inr ⟨nofun, _, rfl⟩
  | some encoded =>
    dsimp only
    by_cases hbad : encoded = [] ∨ encoded.length > maximumCommandBytes ∨ 0 ∈ encoded
    · rw [if_pos hbad]
      refine .inr ⟨?_, _, rfl⟩
      intro encoded' heq haccept
      cases heq
      obtain ⟨hne, hle, hzero⟩ := haccept
      obtain h | h | h := hbad
      · exact hne h
      · exact not_lt.mpr hle h
      · exact hzero h
    · rw [if_neg hbad]
      rw [not_or, not_or] at hbad
      exact .inl ⟨encoded, rfl, ⟨hbad.1, not_lt.mp hbad.2.1, hbad.2.2⟩, rfl⟩

/-- What blocks an archive recording. -/
lemma archiveStarts_of_not_isSome {h : Host}
    (hblocked : s.archiveRecorder.isSome = true ∨ c.deviceUuid s.nodeId = none ∨
      h.fileError c.nextRecorder ≠ none) : ¬ c.ArchiveStarts h s := by
  intro hstarts
  obtain ⟨hfree, hbound, hfile⟩ := hstarts
  obtain hactive | hunknown | herror := hblocked
  · rw [hfree] at hactive
    cases hactive
  · rw [hunknown] at hbound
    cases hbound
  · exact herror hfile

/-- A typed command is queued behind every check, or nothing is. -/
lemma sendCommandTo_cases (wf : WellFormed c) (h : Host) {nodeId : Text} (command : Text)
    (hsession : c.session? nodeId = some s) :
    (∃ encoded, encodeAscii (strip command) = some encoded ∧ Acceptable encoded ∧
      (AppController.isExportCommand command = true → c.ArchiveStarts h s) ∧
      ∃ s', s'.sid = s.sid ∧ (c.sendCommandTo h nodeId command).sessions = (c.setSession s').sessions ∧
        s'.acquisition.commands = s.acquisition.commands ++ [encoded]) ∨
    ((∀ encoded, encodeAscii (strip command) = some encoded → Acceptable encoded →
      ¬ (AppController.isExportCommand command = true → c.ArchiveStarts h s)) ∧
      ∃ s', s'.sid = s.sid ∧ (c.sendCommandTo h nodeId command).sessions = (c.setSession s').sessions ∧
        s'.acquisition.commands = s.acquisition.commands) := by
  have live := (session?_some hsession).1
  have hself : c.sessions = (c.setSession s).sessions := by rw [wf.setSession_self live]
  unfold AppController.sendCommandTo AppController.withSession
  rw [hsession]
  dsimp only
  split
  · -- for AT+EXPORT the archive file is opened before the command is queued
    rename_i hexport
    obtain ⟨c', message, heq, houtside, hblocked⟩ | ⟨counts, uuid, path, free, bound, hfile, heq⟩ :=
      startArchiveRecording_cases c h s
    · rw [heq]
      refine .inr ⟨?_, s, rfl, ?_, rfl⟩
      · exact fun _ _ _ hstarts => archiveStarts_of_not_isSome hblocked (hstarts hexport)
      · exact (houtside.field AppController.sessions fun _ => rfl).trans hself
    · rw [heq]
      have hstarts : c.ArchiveStarts h s := ⟨free, by rw [bound]; rfl, hfile⟩
      dsimp only
      obtain ⟨encoded, hencode, haccept, hok⟩ | ⟨hbad, message, herror⟩ :=
        enqueueCommand_cases (c.archiving h s).acquisition command
      · rw [hok]
        refine .inl ⟨encoded, hencode, haccept, fun _ => hstarts,
          (c.archiving h s).queued encoded, rfl, ?_, rfl⟩
        -- the archive and the command are written to the same session
        have hagain : ∀ d : AppController,
            ((d.setSession (c.archiving h s)).setSession
              ((c.archiving h s).queued encoded)).sessions =
              (d.setSession ((c.archiving h s).queued encoded)).sessions :=
          fun d => congrArg AppController.sessions (setSession_setSession rfl)
        exact hagain { c with
          exportCounts := counts
          nextRecorder := c.nextRecorder + 1
          recorders := Function.update c.recorders c.nextRecorder
            (startedRecorder path (some uuid)) }
      · rw [herror]
        refine .inr ⟨fun encoded hencode haccept => absurd haccept (hbad encoded hencode),
          c.archiving h s, rfl, rfl, rfl⟩
  · rename_i hplain
    obtain ⟨encoded, hencode, haccept, hok⟩ | ⟨hbad, message, herror⟩ :=
      enqueueCommand_cases s.acquisition command
    · rw [hok]
      exact .inl ⟨encoded, hencode, haccept, fun hexport => absurd hexport hplain,
        s.queued encoded, rfl, rfl, rfl⟩
    · rw [herror]
      refine .inr ⟨fun encoded hencode haccept => absurd haccept (hbad encoded hencode),
        s, rfl, hself, rfl⟩

/-- A typed command is guarded exactly if it asks for nothing that a flash forbids, or does not pass
the checks, or reaches another node. -/
lemma guarded_sendCommandTo (wf : WellFormed c) (h : Host) (nodeId command : Text) :
    (∀ s ∈ c.sessions, s.flashing = true → ∀ t ∈ (c.sendCommandTo h nodeId command).sessions,
      t.sid = s.sid → AddsHarmless s t) ↔ ¬ c.Unguards h nodeId command := by
  cases hsession : c.session? nodeId with
  | none =>
    have hsame : c.sendCommandTo h nodeId command =
        c.raiseError ("unknown node: ".toList ++ nodeId) := by
      unfold AppController.sendCommandTo AppController.withSession
      rw [hsession]
    refine iff_of_true ?_ ?_
    · intro s live _ t ht hsid
      have hsessions : (c.sendCommandTo h nodeId command).sessions = c.sessions := by
        rw [hsame]
        rfl
      exact addsHarmless_of_sessions wf hsessions live ht hsid
    · intro hunguards
      obtain ⟨s, -, hs, -⟩ := hunguards
      rw [hsession] at hs
      cases hs
  | some s =>
    obtain ⟨live, hnode⟩ := session?_some hsession
    have hcases := sendCommandTo_cases wf h command hsession
    unfold AppController.ArchiveStarts at hcases
    rw [hnode] at hcases
    cases hcases with
    | inl hqueued =>
      obtain ⟨encoded, hencode, haccept, hstarts, s', hsid, hsessions, hcommands⟩ := hqueued
      rw [hsessions]
      constructor
      · intro hguarded hunguards
        obtain ⟨u, encoded', hu, hflashing, hencode', -, hkind, -⟩ := hunguards
        cases hsession.symm.trans hu
        cases hencode.symm.trans hencode'
        exact not_addsHarmless hkind hcommands
          (hguarded s live hflashing s' (AppController.mem_setSession_self live hsid) hsid)
      · intro hunguards u hu hflashing t ht htu
        refine guarded_of_setSession wf live hsid ?_ hu hflashing ht htu
        intro hflashing
        -- no command was asked for but this one
        refine ⟨[encoded], hcommands, ?_⟩
        intro command' hcommand'
        rw [List.mem_singleton.mp hcommand']
        by_contra hkind
        exact hunguards ⟨s, encoded, hsession, hflashing, hencode, haccept, hkind, hstarts⟩
    | inr hrefused =>
      obtain ⟨hblocked, s', hsid, hsessions, hcommands⟩ := hrefused
      rw [hsessions]
      refine iff_of_true ?_ ?_
      · intro u hu hflashing t ht htu
        exact guarded_of_setSession wf live hsid (fun _ => .of_commands hcommands) hu hflashing ht htu
      · intro hunguards
        obtain ⟨u, encoded, hu, -, hencode, haccept, -, hstarts⟩ := hunguards
        cases hsession.symm.trans hu
        exact hblocked encoded hencode haccept hstarts

/-- An operation whose labels queue nothing of the kind is guarded. -/
lemma guarded_labels {h : Host} {o : Operation} (wf : WellFormed c)
    (hlabels : ∀ kind : CommandKind, kind ≠ .other →
      o.labels.contains (.session 0 (.queue kind)) = false)
    (hsend : o.labels.contains (.session 0 .send) = false) : c.Guarded crc32 h o := by
  intro s live _ t ht hsid
  refine (operate_leads h o wf).addsHarmless wf live ?_ ?_ ht hsid
  · exact fun hl => Bool.false_ne_true (hsend.symm.trans hl)
  · exact fun kind hkind hl => Bool.false_ne_true ((hlabels kind hkind).symm.trans hl)

/-- Steps of sessions that are not being flashed add nothing to one that is. -/
lemma addsHarmless_of_free (wf : WellFormed c) {d : AppController}
    {Q : ManagedSession → Label → Prop}
    (hsend : ∀ u sid, ¬ Q u (.session sid .send))
    (hqueue : ∀ u sid kind, Q u (.session sid (.queue kind)) → sid = u.sid)
    (hleads : Leads zlibCrc32
      (fun l => l = .outside ∨ ∃ u ∈ c.sessions, u.flashing = false ∧ Q u l) c d)
    (live : s ∈ c.sessions) (hflashing : s.flashing = true) (ht : t ∈ d.sessions)
    (hsid : t.sid = s.sid) : AddsHarmless s t := by
  refine (hleads wf).addsHarmless wf live ?_ ?_ ht hsid
  · intro hl
    obtain hl | ⟨u, -, -, hl⟩ := hl
    · cases hl
    · exact hsend u _ hl
  · intro kind _ hl
    obtain hl | ⟨u, hu, hfree, hl⟩ := hl
    · cases hl
    · rw [wf.eq_of_sid live hu (hqueue u _ kind hl), hfree] at hflashing
      cases hflashing

/-- Starting the acquisition looks at the flags. -/
lemma guarded_startAcquisitionFor (wf : WellFormed c) (nodeId : Text) :
    ∀ s ∈ c.sessions, s.flashing = true → ∀ t ∈ (c.startAcquisitionFor nodeId).sessions,
      t.sid = s.sid → AddsHarmless s t := by
  intro s live hflashing t ht hsid
  refine addsHarmless_of_free wf (Q := fun u l => l = .session u.sid (.queue .start)) ?_ ?_ ?_
    live hflashing ht hsid
  · intro u sid hl
    injection hl with _ hl
    cases hl
  · intro u sid kind hl
    injection hl
  · refine leads_withSession (.inl rfl) ?_
    intro u hu _
    split
    · exact .outside (.inl rfl) (outside_raiseError _ _)
    · rename_i hfree
      exact leads_queueCommand (k := .start) hu (by decide +kernel)
        (.inr ⟨u, hu, Bool.eq_false_iff.mpr hfree, rfl⟩)

/-- So does starting an export. -/
lemma guarded_startExportFor (wf : WellFormed c) (h : Host) (nodeId : Text) :
    ∀ s ∈ c.sessions, s.flashing = true → ∀ t ∈ (c.startExportFor h nodeId).sessions,
      t.sid = s.sid → AddsHarmless s t := by
  intro s live hflashing t ht hsid
  refine addsHarmless_of_free wf (Q := fun u l => l = .exportAttach u.sid ∨
    l = .session u.sid .exportNote ∨ l = .session u.sid (.queue .archiveExport)) ?_ ?_ ?_
    live hflashing ht hsid
  · intro u sid hl
    obtain hl | hl | hl := hl
    · cases hl
    · injection hl with _ hl
      cases hl
    · injection hl with _ hl
      cases hl
  · intro u sid kind hl
    obtain hl | hl | hl := hl
    · cases hl
    · injection hl
    · injection hl
  · refine leads_startExportFor h nodeId (.inl rfl) ?_
    intro u hu _ hfree
    exact ⟨.inr ⟨u, hu, hfree, .inl rfl⟩, .inr ⟨u, hu, hfree, .inr (.inl rfl)⟩,
      .inr ⟨u, hu, hfree, .inr (.inr rfl)⟩⟩

/-- Clearing the SD leaves the sessions as they are, or passes every check and queues its command. -/
lemma clearSdFor_cases (c : AppController) (nodeId : Text) :
    ((c.clearSdFor nodeId).sessions = c.sessions ∧ ¬ c.Unguarded {} (.clearSdFor nodeId)) ∨
      ∃ s, c.session? nodeId = some s ∧
        (s.flashing = true → c.Unguarded {} (.clearSdFor nodeId)) ∧
        c.clearSdFor nodeId = c.setSession (s.queued (asciiBytes "AT+SDCLEAR=CONFIRM".toList)) := by
  unfold AppController.clearSdFor AppController.withSession
  cases hsession : c.session? nodeId with
  | none =>
    refine .inl ⟨rfl, ?_⟩
    intro h
    obtain ⟨s, state, hs, -⟩ := h
    cases hsession.symm.trans hs
  | some s =>
    dsimp only
    split
    · rename_i hactive
      refine .inl ⟨rfl, ?_⟩
      intro h
      obtain ⟨u, state, hu, -, hfree, -⟩ := h
      cases hsession.symm.trans hu
      rw [hfree] at hactive
      cases hactive
    · rename_i hfree
      cases hstate : s.controlState with
      | none =>
        refine .inl ⟨rfl, ?_⟩
        intro h
        obtain ⟨u, state, hu, -, -, hu', -⟩ := h
        cases hsession.symm.trans hu
        rw [hstate] at hu'
        cases hu'
      | some state =>
        dsimp only
        split
        · rename_i hbusy
          refine .inl ⟨rfl, ?_⟩
          intro h
          obtain ⟨u, state', hu, -, -, hu', hidle⟩ := h
          cases hsession.symm.trans hu
          cases hstate.symm.trans hu'
          obtain h | h := hidle
          · exact hbusy.1 h
          · exact hbusy.2 h
        · rename_i hidle
          refine .inr ⟨s, rfl, ?_, rfl⟩
          intro hflashing
          refine ⟨s, state, hsession, hflashing, Option.not_isSome_iff_eq_none.mp hfree, hstate, ?_⟩
          rw [not_and_or, not_not, not_not] at hidle
          exact hidle

/-- Clearing the SD does not look at the flags. -/
lemma guarded_clearSdFor (wf : WellFormed c) (nodeId : Text) :
    (∀ s ∈ c.sessions, s.flashing = true → ∀ t ∈ (c.clearSdFor nodeId).sessions,
      t.sid = s.sid → AddsHarmless s t) ↔
        ¬ c.Unguarded {} (.clearSdFor nodeId) := by
  cases clearSdFor_cases c nodeId with
  | inl h =>
    refine iff_of_true ?_ h.2
    exact fun s live _ t ht hsid => addsHarmless_of_sessions wf h.1 live ht hsid
  | inr h =>
    obtain ⟨s, hsession, hpassed, heq⟩ := h
    have live := (session?_some hsession).1
    have hkind : ¬ Harmless (asciiBytes "AT+SDCLEAR=CONFIRM".toList) := by decide +kernel
    rw [heq]
    constructor
    · intro hguarded hunguarded
      obtain ⟨u, state, hu, hflashing, -⟩ := hunguarded
      cases hsession.symm.trans hu
      exact not_addsHarmless hkind rfl
        (hguarded s live hflashing _ (AppController.mem_setSession_self live rfl) rfl)
    · intro hunguarded u hu hflashing t ht htu
      refine guarded_of_setSession wf live ?_ ?_ hu hflashing ht htu
      · rfl
      · exact fun hflashing => absurd (hpassed hflashing) hunguarded

/-- In every reachable state, an operation queues no command that starts, exports or clears on a
session that is being flashed, unless it is a typed command or a request to clear the SD, and passes
every other check. -/
theorem guarded_iff (crc32 : Bytes → UInt32) (aliases : List (Text × Text)) (events : List Event)
    (h : Host) (o : Operation) :
    (AppController.run crc32 aliases events).Guarded crc32 h o ↔
      ¬ (AppController.run crc32 aliases events).Unguarded h o := by
  have wf := (wellFormed_run crc32 aliases events).1
  generalize AppController.run crc32 aliases events = c at wf
  have hlabels := fun hkind hsend => @guarded_labels crc32 c h o wf hkind hsend
  -- without a selected node nothing is queued at all
  have hselected : ∀ {message : String} {f : Text → AppController},
      c.selectedNodeId = none → (c.withSelected message f).sessions = c.sessions := by
    intro message f hnone
    unfold AppController.withSelected
    rw [hnone]
    rfl
  have hsame : ∀ d : AppController, d.sessions = c.sessions → ∀ s ∈ c.sessions,
      s.flashing = true → ∀ t ∈ d.sessions, t.sid = s.sid → AddsHarmless s t :=
    fun d hd s live _ t ht hsid => addsHarmless_of_sessions wf hd live ht hsid
  cases o with
  | sendCommandTo nodeId command => exact guarded_sendCommandTo wf h nodeId command
  | sendCommand command =>
    cases hnode : c.selectedNodeId with
    | none =>
      refine iff_of_true (hsame _ (hselected hnode)) ?_
      intro hunguarded
      obtain ⟨nodeId, hsome, -⟩ := hunguarded
      rw [hnode] at hsome
      cases hsome
    | some nodeId =>
      have hstep : c.operate crc32 h (.sendCommand command) = c.sendCommandTo h nodeId command := by
        show c.sendCommand h command = _
        unfold AppController.sendCommand AppController.withSelected
        rw [hnode]
      have hunguarded : c.Unguarded h (.sendCommand command) ↔ c.Unguards h nodeId command := by
        constructor
        · intro hsome
          obtain ⟨nodeId', hsome, hunguards⟩ := hsome
          cases hnode.symm.trans hsome
          exact hunguards
        · exact fun hunguards => ⟨nodeId, hnode, hunguards⟩
      unfold AppController.Guarded
      rw [hstep, hunguarded]
      exact guarded_sendCommandTo wf h nodeId command
  | clearSdFor nodeId => exact guarded_clearSdFor wf nodeId
  | startAcquisitionFor nodeId =>
    exact iff_of_true (guarded_startAcquisitionFor wf nodeId) id
  | startAcquisition =>
    refine iff_of_true ?_ id
    cases hnode : c.selectedNodeId with
    | none => exact hsame _ (hselected hnode)
    | some nodeId =>
      have hstep : c.operate crc32 h .startAcquisition = c.startAcquisitionFor nodeId := by
        show c.startAcquisition = _
        unfold AppController.startAcquisition AppController.withSelected
        rw [hnode]
      unfold AppController.Guarded
      rw [hstep]
      exact guarded_startAcquisitionFor wf nodeId
  | startExportFor nodeId => exact iff_of_true (guarded_startExportFor wf h nodeId) id
  | _ =>
    refine iff_of_true (hlabels ?_ rfl) id
    intro kind hkind
    cases kind with
    | other => exact absurd rfl hkind
    | _ => rfl

/-- The SD is cleared while an upload writes to it. -/
theorem guarded_clears_sd :
    ¬ (AppController.run zlibCrc32 [] Event.firstUpload).Guarded zlibCrc32 {}
      (.clearSdFor "wifi-1".toList) := by
  intro hguarded
  refine (guarded_clearSdFor (wellFormed_run zlibCrc32 [] Event.firstUpload).1 _).mp hguarded ?_
  have hpassed : ((AppController.run zlibCrc32 [] Event.firstUpload).session? "wifi-1".toList).any
      (fun s => s.flashing && s.archiveRecorder.isNone && s.controlState.any fun state =>
        state.acquisitionState == some "IDLE".toList) = true := by
    decide +kernel
  obtain ⟨s, hsession, hs⟩ := (Option.any_eq_true _ _).mp hpassed
  rw [Bool.and_eq_true, Bool.and_eq_true] at hs
  obtain ⟨⟨hflashing, hfree⟩, hstate⟩ := hs
  obtain ⟨state, hstate, hidle⟩ := (Option.any_eq_true _ _).mp hstate
  exact ⟨s, state, hsession, hflashing, Option.isNone_iff_eq_none.mp hfree, hstate,
    .inl (beq_iff_eq.mp hidle)⟩

/-- A command that hides behind a line end is found, and one that only begins like a start is none. -/
example : ¬ Harmless (asciiBytes "AT+STATE?\r\nAT+SDCLEAR=CONFIRM".toList) ∧
    Harmless (asciiBytes "AT+STARTUP?".toList) := by
  decide +kernel

end SensorHost.Presentation
