import SensorHost.Lib.Crc32
import SensorHost.Presentation.Listed
import SensorHost.Protocol.Valid

/-!
# What a step does to a session

A session behind a step is new, or is what the step made of one that was there (`Step.change`). So an
invariant about single sessions is shown by cases on the change and not on the label.

`Change` lists what a session can become: it stays as it is, takes a step of its own, or gives up
what a disconnect ends. `Step.change` reads this off a step, `Chain.sessions` carries a property of
single sessions along a chain, and `Chain.session_kept` does so for one session that the chain
keeps.

The lemmas behind them say for single fields which label a session needs to change them:
`Change.commands` for the queued commands, `Change.shown` for the control state and the UUID that a
connection has shown. At the end are the sessions behind a disconnect and behind the stop of the
listener, where none is left.
-/

namespace SensorHost.Presentation
open SensorHost.Lib SensorHost.Protocol SensorHost.Storage SensorHost.Acquisition SensorHost.Ota
  SensorHost.Transport

/-- The events by which a reply reaches a session. -/
def Event.reply (sid : Nat) (text : String) : List Event :=
  [.read sid (encodeFrameV1 zlibCrc32 .cliResponse 0 1 0 1 (asciiBytes text.toList)),
    .handle sid []]

/-- The events by which a gateway connects and its device reports that it is idle. -/
def Event.gatewayReady (sid : Nat) : List Event :=
  [.acceptSocket "10.0.0.2:5000".toList, .gatewayEnvelope] ++
    Event.reply sid "+STATE:IDLE\r\n+SD:READY=1\r\n+OTA:STATE=OFF\r\n"

/-- What a step makes of a session: nothing, what the label names, or the session with a recorder. -/
inductive Change (crc32 : Bytes → UInt32) (c : AppController) (l : Label) (s : ManagedSession) :
    ManagedSession → Prop
  | same : Change crc32 c l s s
  | session {sl : SessionLabel} {t : ManagedSession} {R : Recorders} (hl : l = .session s.sid sl)
      (h : SessionStep crc32 s c.recorders sl t R) : Change crc32 c l s t
  | attach (hl : l = .attach s.sid) (free : s.recorder = none) (lastError : Option Text) :
      Change crc32 c l s { s with
        recorder := some c.nextRecorder
        acquisition := { s.acquisition.dropDeferred with
          recorder := some c.nextRecorder
          lastError := lastError } }
  | exportAttach (hl : l = .exportAttach s.sid) (free : s.archiveRecorder = none) (startedS : ℚ)
      (uuid : Uuid) (bound : c.deviceUuid s.nodeId = some uuid) :
      Change crc32 c l s { s with
        archiveRecorder := some c.nextRecorder
        archiveStartRevision := (s.controlState.map FirmwareControlState.exportRevision).getD 0
        archiveStartedS := startedS
        acquisition := s.acquisition.setArchiveRecorder (some c.nextRecorder) }

variable {crc32 : Bytes → UInt32} {P : Label → Prop} {c c' d : AppController}
  {s s' t : ManagedSession} {l : Label}

/-- A session stays the one that it is. -/
lemma Change.identity (h : Change crc32 c l s t) : t.identity = s.identity := by
  cases h with
  | session hl h => exact h.identity
  | _ => rfl

/-- It keeps its identity. -/
lemma Change.sid (h : Change crc32 c l s t) : t.sid = s.sid := congrArg Prod.fst h.identity

/-- It keeps its node. -/
lemma Change.nodeId (h : Change crc32 c l s t) : t.nodeId = s.nodeId :=
  congrArg (fun t => t.2.1) h.identity

/-- A session behind a step of one session is that session, changed, or one that was there. -/
lemma change_setSession {R : Recorders} {bound : Nat} (live : s ∈ c.sessions)
    (hsid : s'.sid = s.sid) (h : Change crc32 c l s s')
    (ht : t ∈ ({ c with recorders := R, nextRecorder := bound }.setSession s').sessions) :
    ∃ s ∈ c.sessions, Change crc32 c l s t := by
  cases (AppController.mem_setSession (c := { c with recorders := R, nextRecorder := bound })
    live hsid).mp ht with
  | inl heq =>
    rw [heq]
    exact ⟨s, live, h⟩
  | inr h => exact ⟨t, h.1, .same⟩

/-- A session behind a step is new, or one that was there with the change that the label names. -/
theorem Step.change (h : Step crc32 c l c') (ht : t ∈ c'.sessions) :
    (∃ s ∈ c.sessions, Change crc32 c l s t) ∨
      l = .add ∧ ∃ nodeId peer kind, t =
        AppController.newSession c.nextSession nodeId peer kind c.recordingActive := by
  cases h with
  | outside h =>
    rw [h.field AppController.sessions fun _ => rfl] at ht
    exact .inl ⟨t, ht, .same⟩
  | session live h => exact .inl (change_setSession live h.sid (.session rfl h) ht)
  | add nodeId peer kind accepted =>
    cases List.mem_append.mp ht with
    | inl h => exact .inl ⟨t, h, .same⟩
    | inr h => exact .inr ⟨rfl, nodeId, peer, kind, List.mem_singleton.mp h⟩
  | attach path live free =>
    rename_i s
    obtain ⟨lastError, heq⟩ := s.acquisition.setRecorder_some
      (Function.update c.recorders c.nextRecorder (startedRecorder path (c.deviceUuid s.nodeId)))
      c.nextRecorder
    rw [heq] at ht
    have hchange : Change crc32 c (.attach s.sid) s _ := .attach rfl free lastError
    exact .inl (change_setSession live hchange.sid hchange ht)
  | exportAttach path startedS uuid live free bound =>
    rename_i s
    have hchange : Change crc32 c (.exportAttach s.sid) s _ := .exportAttach rfl free startedS uuid bound
    exact .inl (change_setSession live hchange.sid hchange ht)
  | drop _ _ _ _ _ _ => exact .inl ⟨t, List.mem_of_mem_filter ht, .same⟩
  | reset => cases ht
  | _ => exact .inl ⟨t, ht, .same⟩

/-- A session ahead of a step that removes none is there behind it, with the change that the label
names. -/
theorem Step.change_of_mem (h : Step crc32 c l c') (wf : WellFormed c) (live : s ∈ c.sessions)
    (hdrop : l ≠ .drop s.sid) (hreset : l ≠ .reset) : ∃ t ∈ c'.sessions, Change crc32 c l s t := by
  have hother : ∀ (R : Recorders) (bound : Nat) (u u' : ManagedSession), u ∈ c.sessions →
      u'.sid = u.sid → Change crc32 c l u u' →
        ∃ t ∈ ({ c with recorders := R, nextRecorder := bound }.setSession u').sessions,
          Change crc32 c l s t := by
    intro R bound u u' hu hsid hchange
    have hmem := fun t => AppController.mem_setSession (t := t)
      (c := { c with recorders := R, nextRecorder := bound }) hu hsid
    by_cases heq : s.sid = u.sid
    · rw [wf.eq_of_sid live hu heq]
      exact ⟨u', (hmem u').mpr (.inl rfl), hchange⟩
    · exact ⟨s, (hmem s).mpr (.inr ⟨live, heq⟩), .same⟩
  cases h with
  | outside h =>
    refine ⟨s, ?_, .same⟩
    rw [h.field AppController.sessions fun _ => rfl]
    exact live
  | session live' h => exact hother _ _ _ _ live' h.sid (.session rfl h)
  | add nodeId peer kind accepted => exact ⟨s, List.mem_append_left _ live, .same⟩
  | attach path live' free =>
    rename_i u
    obtain ⟨lastError, heq⟩ := u.acquisition.setRecorder_some
      (Function.update c.recorders c.nextRecorder (startedRecorder path (c.deviceUuid u.nodeId)))
      c.nextRecorder
    rw [heq]
    exact hother _ _ _ _ live' rfl (.attach rfl free lastError)
  | exportAttach path startedS uuid live' free bound =>
    exact hother _ _ _ _ live' rfl (.exportAttach rfl free startedS uuid bound)
  | drop _ _ _ live' _ _ =>
    refine ⟨s, List.mem_filter.mpr ⟨live, bne_iff_ne.mpr ?_⟩, .same⟩
    intro heq
    exact hdrop (by rw [heq])
  | reset => exact absurd rfl hreset
  | _ => exact ⟨s, live, .same⟩

/-- The label says what is queued; only sending empties the queue. -/
lemma Change.commands (h : Change crc32 c l s t) (hsend : l ≠ .session s.sid .send) :
    ∃ added, t.acquisition.commands = s.acquisition.commands ++ added ∧ ∀ command ∈ added,
      commandKind command = .other ∨ l = .session s.sid (.queue (commandKind command)) := by
  have hsame : ∀ {commands : List Bytes}, commands = s.acquisition.commands →
      ∃ added, commands = s.acquisition.commands ++ added ∧ ∀ command ∈ added,
        commandKind command = .other ∨ l = .session s.sid (.queue (commandKind command)) :=
    fun heq => ⟨[], by rw [heq, List.append_nil], fun _ h => by cases h⟩
  cases h with
  | session hl h =>
    cases h with
    | queue command kind asks =>
      refine ⟨[command], rfl, ?_⟩
      intro command' hcommand
      rw [List.mem_singleton.mp hcommand, asks]
      exact .inr hl
    -- cancelling an export queues AT+STOP and AT+STATE?, which ask for nothing guarded
    | exportCancel active first =>
      refine ⟨[asciiBytes "AT+STOP".toList, asciiBytes "AT+STATE?".toList], ?_, ?_⟩
      · exact List.append_assoc _ _ _
      · intro command hcommand
        left
        cases List.mem_cons.mp hcommand with
        | inl heq =>
          rw [heq]
          decide +kernel
        | inr h =>
          rw [List.mem_singleton.mp h]
          decide +kernel
    | send running => exact absurd hl hsend
    | handle running message =>
      obtain ⟨worker, transportOpen, heq, -⟩ := s.handled_eq c.recorders message
      rw [heq]
      exact hsame (AcquisitionController.handleNext_field AcquisitionController.commands
        (fun _ _ => rfl) s.acquisition c.recorders)
    | read running handled chunk =>
      exact hsame (AcquisitionController.readChunk_field AcquisitionController.commands
        (fun _ => rfl) crc32 s.acquisition chunk)
    | _ => exact hsame rfl
  | _ => exact hsame rfl

/-- What holds of new sessions and is kept by each change holds of all sessions behind a chain. -/
lemma Chain.sessions {I : ManagedSession → Prop} (h : Chain crc32 P c c') (wf : WellFormed c)
    (hnew : P .add → ∀ sid nodeId peer kind recordingActive,
      I (AppController.newSession sid nodeId peer kind recordingActive))
    (hchange : ∀ a l s t, WellFormed a → s ∈ a.sessions → P l → Change crc32 a l s t → I s → I t)
    (hc : ∀ s ∈ c.sessions, I s) : ∀ s ∈ c'.sessions, I s := by
  refine Chain.invariant (I := fun c => ∀ s ∈ c.sessions, I s) ?_ h wf hc
  intro a l b wfa ha hl hstep t ht
  cases hstep.change ht with
  | inl hold =>
    obtain ⟨s, hs, hst⟩ := hold
    exact hchange a l s t wfa hs hl hst (ha s hs)
  | inr hadd =>
    obtain ⟨rfl, nodeId, peer, kind, rfl⟩ := hadd
    exact hnew hl _ _ _ _ _

/-- What each change keeps of a session holds of it behind a chain that removes none. -/
lemma Chain.session_kept {I : ManagedSession → Prop} (h : Chain crc32 P c c') (wf : WellFormed c)
    (hdrop : ∀ sid, ¬ P (.drop sid)) (hreset : ¬ P .reset)
    (hchange : ∀ a l s t, WellFormed a → s ∈ a.sessions → P l → Change crc32 a l s t → I s → I t)
    (live : s ∈ c.sessions) (hs : I s) : ∃ t ∈ c'.sessions, t.sid = s.sid ∧ I t := by
  refine Chain.invariant (I := fun d => ∃ t ∈ d.sessions, t.sid = s.sid ∧ I t) ?_ h wf
    ⟨s, live, rfl, hs⟩
  intro a l b wfa ha hl hstep
  obtain ⟨u, hu, hsid, hI⟩ := ha
  obtain ⟨t, ht, hut⟩ := hstep.change_of_mem wfa hu (fun heq => hdrop _ (heq ▸ hl))
    (fun heq => hreset (heq ▸ hl))
  exact ⟨t, ht, hut.sid.trans hsid, hchange a l u t wfa hu hl hut hI⟩

/-- What handles no frame leaves what the session knows of the device's state. -/
lemma Change.shown (h : Change crc32 c l s t) (hl : l ≠ .session s.sid .handle) :
    t.acquisition.shown = s.acquisition.shown := by
  cases h with
  | session heq h =>
    cases h with
    | handle running message => exact absurd heq hl
    | read running handled chunk =>
      exact AcquisitionController.readChunk_field AcquisitionController.shown (fun _ => rfl) crc32
        s.acquisition chunk
    | _ => rfl
  | _ => rfl

/-- Behind a chain that handles no frame, a session shows what it did before, or is new. -/
lemma Chain.shown (h : Chain crc32 P c c') (wf : WellFormed c)
    (hP : ∀ sid, ¬ P (.session sid .handle)) (ht : t ∈ c'.sessions) :
    (∃ s ∈ c.sessions, s.sid = t.sid ∧ t.acquisition.shown = s.acquisition.shown) ∨
      c.nextSession ≤ t.sid ∧ t.acquisition.shown = ({}, none) := by
  have hall : c.nextSession ≤ c'.nextSession ∧ ∀ t ∈ c'.sessions,
      (∃ s ∈ c.sessions, s.sid = t.sid ∧ t.acquisition.shown = s.acquisition.shown) ∨
        c.nextSession ≤ t.sid ∧ t.acquisition.shown = ({}, none) := by
    refine Chain.invariant (I := fun a => c.nextSession ≤ a.nextSession ∧ ∀ t ∈ a.sessions,
      (∃ s ∈ c.sessions, s.sid = t.sid ∧ t.acquisition.shown = s.acquisition.shown) ∨
        c.nextSession ≤ t.sid ∧ t.acquisition.shown = ({}, none)) ?_ h wf
      ⟨le_rfl, fun t ht => .inl ⟨t, ht, rfl, rfl⟩⟩
    intro a l b wfa ha hl hstep
    refine ⟨ha.1.trans hstep.nextSession_le, ?_⟩
    intro t ht
    cases hstep.change ht with
    | inl hold =>
      obtain ⟨u, hu, hut⟩ := hold
      have hshown := hut.shown fun heq => hP _ (heq ▸ hl)
      rw [hut.sid, hshown]
      exact ha.2 u hu
    | inr hnew =>
      obtain ⟨-, nodeId, peer, kind, rfl⟩ := hnew
      refine .inr ⟨ha.1, ?_⟩
      cases a.recordingActive with
      | true => rfl
      | false => rfl
  exact hall.2 t ht

/-- The worker handles the next frame of its session. -/
lemma step_handle (crc32 : Bytes → UInt32) (c : AppController) (sid : Nat) (message : Text) :
    c.step crc32 (.handle sid message) =
      match c.sessionBySid? sid with
      | none => c
      | some s =>
        if s.worker = .running then
          { c with recorders := (s.handled c.recorders message).2 }.setSession
            (s.handled c.recorders message).1
        else c := by
  unfold AppController.step AppController.onWorker AppController.onSession
  dsimp only
  cases c.sessionBySid? sid with
  | none => rfl
  | some s =>
    dsimp only
    split
    · unfold AppController.handleStep ManagedSession.handled
      cases s.acquisition.handleNext c.recorders with
      | mk acquisition rest =>
        obtain ⟨R, error⟩ := rest
        cases error with
        | none => rfl
        | some error => rfl
    · rfl

/-- What a loop over the sessions does not touch in one pass it does not touch. -/
lemma forSessions_field {β : Type} (get : AppController → β)
    {f : AppController → ManagedSession → AppController} (hf : ∀ a s, get (f a s) = get a)
    (c : AppController) : get (c.forSessions f) = get c := by
  unfold AppController.forSessions
  generalize c.sessions.map ManagedSession.sid = sids
  induction sids generalizing c with
  | nil => rfl
  | cons sid sids ih =>
    rw [List.foldl_cons, ih]
    cases c.sessionBySid? sid with
    | none => rfl
    | some s => exact hf c s

/-- A disconnect leaves no session. -/
lemma disconnectDevice_sessions (c : AppController) (h : Host) :
    (c.disconnectDevice h).sessions = [] := by
  unfold AppController.disconnectDevice
  dsimp only
  generalize AppController.forSessions _ _ = d
  exact (outside_emitNodes { d.teardownOtaWorker.clearOtaContext with
    sessions := []
    selectedNodeId := none
    recordingActive := false
    recordingBatchPath := none
    isStopping := false }).field AppController.sessions fun _ => rfl

/-- Stopping the Wi-Fi leaves no session. -/
lemma stopWifiServer_sessions (c : AppController) (h : Host) :
    (c.stopWifiServer h).sessions = [] := by
  unfold AppController.stopWifiServer
  dsimp only
  generalize c.stopWifiResources h = d
  by_cases hlive : d.sessions = []
  · rw [if_neg (not_not.mpr hlive)]
    exact hlive
  · rw [if_pos hlive]
    exact disconnectDevice_sessions d h

end SensorHost.Presentation
