import SensorHost.Presentation.OtaOwner
import SensorHost.Protocol.Replies

/-!
# The report of a reconnect

RECONNECTED is reported by a poll that takes a session for the flashed device because the control
state that the session has cached shows no OTA. The cached state outlives the upload, and the poll
does not ask how old it is.

A poll is right where what it goes by must have come from a reply behind the STAGED. That is so if the
cached state is not the one that stood there when the STAGED was handled, and if it is the state of a
device at all: the first reply of a connection, whatever it is about, makes a state without an OTA.
`answered_of_renewed` is the induction over the run. A cached state changes only by a reply
(`handled_state`), and one that shows no OTA and has changed was made so by a reply that says so
(`updatedFromCli_reports`).
-/

namespace SensorHost.Presentation
open SensorHost.Lib SensorHost.Protocol SensorHost.Storage SensorHost.Acquisition SensorHost.Ota
  SensorHost.Transport

/-- A state that was reported without an OTA, or with one that is OFF. -/
def showsNoOta (state : FirmwareControlState) : Bool :=
  state.otaState == some "OFF".toList || state.otaState.isNone && state.acquisitionState.isSome

/-- The reply says itself that there is no OTA. -/
def reportsNoOta (text : Text) : Bool :=
  match FirmwareControlState.updatedFromCli {} text with
  | .ok state => showsNoOta state
  | .error _ => false

/-- The acquisition state and the OTA state that a session has cached. -/
def ManagedSession.reported (s : ManagedSession) : Option Text × Option Text :=
  (s.controlState.bind FirmwareControlState.acquisitionState,
    s.controlState.bind FirmwareControlState.otaState)

/-- The reply that the worker of a session handles next. -/
def ManagedSession.nextReply (s : ManagedSession) : Option Text :=
  match s.acquisition.inbox with
  | [] => none
  | frame :: _ =>
    if s.worker = .running ∧
        AcquisitionController.Accepts s.acquisition.deviceUuid frame.deviceUuid ∧
        frame.archiveExport = false ∧ frame.messageType = .cliResponse then
      frame.cliText
    else none

/-- What is noted of the replies and of the cached states since a STAGED: the sessions that have
handled a reply that there is no OTA, and the cached states of then that have stood ever since. -/
structure Restart where
  answered : List Nat := []
  standing : List (Nat × Option Text × Option Text) := []

namespace AppController

/-- The session handles a reply that there is no OTA. -/
def hears (c : AppController) (sid : Nat) : Bool :=
  match c.sessionBySid? sid with
  | none => false
  | some s =>
    match s.nextReply with
    | none => false
    | some text => reportsNoOta text

/-- The session has cached these two. -/
def Caches (c : AppController) (entry : Nat × Option Text × Option Text) : Prop :=
  (c.sessionBySid? entry.1).map ManagedSession.reported = some entry.2

instance (c : AppController) : DecidablePred c.Caches :=
  fun entry => inferInstanceAs (Decidable (_ = some entry.2))

/-- What the event adds to the record: a STAGED of the current OTA starts it anew. -/
def noted (c : AppController) (g : Restart) : Event → Restart
  | .otaOutcome _ upload (.staged _ _) =>
    if (c.upload? upload).isSome ∧ c.otaContext.isSome then
      { standing := c.sessions.map fun s => (s.sid, s.reported) }
    else g
  | .handle sid _ => if c.hears sid then { g with answered := sid :: g.answered } else g
  | _ => g

/-- The record behind an event. A cached state that the event changes has not stood. -/
def restart (crc32 : Bytes → UInt32) (c : AppController) (g : Restart) (e : Event) : Restart :=
  { c.noted g e with
    standing := (c.noted g e).standing.filter fun entry => (c.step crc32 e).Caches entry }

/-- The session that the reconnect poll takes for the device. -/
def takes (c : AppController) : Event → Option ManagedSession
  | .pollOtaReconnect h =>
    if c.otaReconnectTimerActive then
      c.otaReconnect.bind fun info =>
        if info.deadlineS < h.now then none else c.sessions.find? (c.reconnects info.deviceUuid)
    else none
  | _ => none

/-- The event reports RECONNECTED. -/
def Reconnected (crc32 : Bytes → UInt32) (c : AppController) (e : Event) : Prop :=
  ∃ nodeId detail, .otaState nodeId "RECONNECTED".toList detail ∈
    (c.step crc32 e).signals.drop c.signals.length

/-- RECONNECTED is reported only for a session that has handled a reply since the STAGED that there is
no OTA. -/
def Answered (crc32 : Bytes → UInt32) (x : AppController × Restart) (e : Event) : Prop :=
  x.1.Reconnected crc32 e → ∃ s, x.1.takes e = some s ∧ s.sid ∈ x.2.answered

/-- The poll takes no session by a cached state that has stood there since the STAGED was handled, and
none that has cached neither an acquisition state nor an OTA state. -/
def Renewed (x : AppController × Restart) (e : Event) : Prop :=
  ∀ s ∈ x.1.takes e, (s.sid, s.reported) ∉ x.2.standing ∧ s.reported ≠ (none, none)

instance (x : AppController × Restart) (e : Event) : Decidable (Renewed x e) :=
  inferInstanceAs (Decidable (∀ s ∈ x.1.takes e, _ ∧ _))

end AppController

variable {crc32 : Bytes → UInt32} {P : Label → Prop} {c c' d : AppController}
  {s t : ManagedSession} {g : Restart}

/-- Only a reply that says so makes a state show no OTA that shows another one. -/
lemma overlay_reports {base a b : FirmwareControlState} (h : Overlay base a b)
    (hb : showsNoOta b = true) : showsNoOta a = true ∨
      b.acquisitionState = base.acquisitionState ∧ b.otaState = base.otaState := by
  have hota := h.otaState
  have hacq := h.acquisitionState
  cases hown : a.otaState with
  | some ota =>
    left
    unfold showsNoOta at hb ⊢
    rw [hota, hown] at hb
    rw [hown]
    exact hb
  | none =>
    rw [hown, Option.none_or] at hota
    cases hown' : a.acquisitionState with
    | some acq =>
      left
      unfold showsNoOta
      rw [hown, hown']
      rfl
    | none =>
      rw [hown', Option.none_or] at hacq
      exact .inr ⟨hacq, hota⟩

/-- A reply that leaves a state without an OTA says so itself, or leaves the two states alone. -/
lemma updatedFromCli_reports {base new : FirmwareControlState} {text : Text}
    (h : base.updatedFromCli text = .ok new) (hno : showsNoOta new = true) :
    reportsNoOta text = true ∨
      new.acquisitionState = base.acquisitionState ∧ new.otaState = base.otaState := by
  unfold reportsNoOta
  have halike := updatedFromCli_overlay base text
  rw [h] at halike
  revert halike
  generalize FirmwareControlState.updatedFromCli {} text = own
  intro halike
  cases halike with
  | ok hover => exact overlay_reports hover hno

/-- What a session has cached is what it goes on from. -/
lemma SessionFormed.reported {R : Recorders} {bound : Nat} (formed : SessionFormed R bound s) :
    s.reported = (s.acquisition.controlState.acquisitionState,
      s.acquisition.controlState.otaState) := by
  unfold ManagedSession.reported
  cases formed.state with
  | inl h =>
    rw [h.1, h.2]
    rfl
  | inr h =>
    rw [h]
    rfl

/-- A cached state that lets the poll take the session shows no OTA, if it is one of a device. -/
lemma otaOff_shows {R : Recorders} {bound : Nat} (formed : SessionFormed R bound s)
    (hoff : AppController.otaOff s = true) (hreported : s.reported ≠ (none, none)) :
    showsNoOta s.acquisition.controlState = true := by
  rw [formed.reported] at hreported
  unfold AppController.otaOff at hoff
  unfold showsNoOta
  cases formed.state with
  | inl h =>
    rw [h.1] at hoff
    cases hoff
  | inr h =>
    rw [h, Option.any_some] at hoff
    cases hota : s.acquisition.controlState.otaState with
    | none =>
      rw [hota] at hreported
      cases hacq : s.acquisition.controlState.acquisitionState with
      | none =>
        rw [hacq] at hreported
        exact absurd rfl hreported
      | some acq => rfl
    | some ota =>
      rw [hota, Option.isNone_some, Bool.false_or] at hoff
      rw [hoff]
      rfl

/-- Handling a frame changes the acquisition part of a session as the controller does it. -/
lemma handled_acquisition (s : ManagedSession) (R : Recorders) (message : Text) :
    (s.handled R message).1.acquisition = (s.acquisition.handleNext R).1 := by
  obtain ⟨worker, transportOpen, heq, -⟩ := s.handled_eq R message
  rw [heq]

/-- Handling a frame leaves the state alone, or reads the next reply. -/
lemma handled_state (R : Recorders) (message : Text) (running : s.worker = .running) :
    (s.handled R message).1.acquisition.controlState = s.acquisition.controlState ∨
      ∃ text new, s.nextReply = some text ∧
        s.acquisition.controlState.updatedFromCli text = .ok new ∧
        (s.handled R message).1.acquisition.controlState = new := by
  rw [handled_acquisition]
  cases hinbox : s.acquisition.inbox with
  | nil =>
    left
    unfold AcquisitionController.handleNext
    rw [hinbox]
  | cons frame frames =>
    have hreads : AcquisitionController.Reads frame s.acquisition.deviceUuid
        s.acquisition.controlState s.acquisition.store.firmwareControlState
        (s.acquisition.handleNext R).1.controlState
        (s.acquisition.handleNext R).1.store.firmwareControlState :=
      AcquisitionController.handleNext_reads hinbox
    revert hreads
    generalize (s.acquisition.handleNext R).1.controlState = state,
      (s.acquisition.handleNext R).1.store.firmwareControlState = shown
    intro hreads
    cases hreads with
    | same => exact .inl rfl
    | reply accepted live cli isText updated =>
      refine .inr ⟨_, _, ?_, updated, rfl⟩
      unfold ManagedSession.nextReply
      rw [hinbox]
      exact (if_pos ⟨running, accepted, live, cli⟩).trans isText

/-- The next reply is read. -/
lemma handled_reply {R : Recorders} {bound : Nat} (formed : SessionFormed R bound s) {text : Text}
    {new : FirmwareControlState} (message : Text) (hreply : s.nextReply = some text)
    (updated : s.acquisition.controlState.updatedFromCli text = .ok new) :
    (s.handled R message).1.acquisition.controlState = new := by
  rw [handled_acquisition]
  unfold ManagedSession.nextReply at hreply
  cases hinbox : s.acquisition.inbox with
  | nil =>
    rw [hinbox] at hreply
    cases hreply
  | cons frame frames =>
    rw [hinbox] at hreply
    dsimp only at hreply
    split at hreply
    · rename_i hnext
      obtain ⟨-, accepted, live, cli⟩ := hnext
      have hactive : ∀ id, s.acquisition.recorder = some id → (R id).isActive = true := by
        intro id hid
        rw [formed.recorder] at hid
        exact formed.active id (.inl hid)
      exact congrArg Prod.fst
        (AcquisitionController.handleNext_reply hinbox accepted live cli hreply updated hactive)
    · cases hreply

/-- Only a worker that runs has a next reply. -/
lemma running_of_nextReply {text : Text} (h : s.nextReply = some text) : s.worker = .running := by
  unfold ManagedSession.nextReply at h
  split at h
  · cases h
  · split at h
    · rename_i hnext
      exact hnext.1
    · cases h

/-- The record explains every cached state that shows no OTA: a reply has said so since the STAGED, or
the state has stood since then. -/
def Heard (c : AppController) (g : Restart) : Prop :=
  ∀ s ∈ c.sessions, showsNoOta s.acquisition.controlState = true →
    s.sid ∈ g.answered ∨ (s.sid, s.reported) ∈ g.standing

/-- What a session has cached is found by its identity. -/
lemma WellFormed.caches (wf : WellFormed c) (live : s ∈ c.sessions) :
    c.Caches (s.sid, s.reported) := by
  unfold AppController.Caches
  rw [wf.sessionBySid? live]
  rfl

/-- Behind an event it is enough that the additions explain what the sessions have cached now. -/
lemma Heard.of_noted {e : Event} (wf : WellFormed (c.step crc32 e))
    (h : Heard (c.step crc32 e) (c.noted g e)) :
    Heard (c.step crc32 e) (c.restart crc32 g e) := by
  intro t ht hshows
  obtain hanswered | hstanding := h t ht hshows
  · exact .inl hanswered
  · exact .inr (List.mem_filter.mpr ⟨hstanding, decide_eq_true (wf.caches ht)⟩)

/-- Events that handle no frame keep what the sessions have cached, and new sessions have cached
nothing. -/
lemma Heard.chain (heard : Heard c g) (h : Chain crc32 P c c') (wf : WellFormed c)
    (hP : ∀ sid, ¬ P (.session sid .handle)) : Heard c' g := by
  have wf' := h.wellFormed wf
  intro t ht hshows
  cases h.shown wf hP ht with
  | inl hold =>
    obtain ⟨s, hs, hsid, hshown⟩ := hold
    have hstate : t.acquisition.controlState = s.acquisition.controlState :=
      congrArg Prod.fst hshown
    rw [hstate] at hshows
    have hreported : t.reported = s.reported := by
      rw [(wf'.formed t ht).reported, (wf.formed s hs).reported, hstate]
    rw [← hsid, hreported]
    exact heard s hs hshows
  | inr hnew =>
    have hstate : t.acquisition.controlState = {} := congrArg Prod.fst hnew.2
    rw [hstate] at hshows
    cases hshows

/-- When a STAGED is handled, everything that is cached stands. -/
lemma heard_staged (c : AppController) :
    Heard c { standing := c.sessions.map fun s => (s.sid, s.reported) } :=
  fun s hs _ => .inr (List.mem_map.mpr ⟨s, hs, rfl⟩)

/-- Behind a frame a session shows no OTA because the frame is a reply that says so, or as before. -/
lemma handled_shows {R : Recorders} (message : Text) (running : s.worker = .running)
    (hno : showsNoOta (s.handled R message).1.acquisition.controlState = true) :
    (∃ text, s.nextReply = some text ∧ reportsNoOta text = true) ∨
      (s.handled R message).1.acquisition.controlState.acquisitionState =
          s.acquisition.controlState.acquisitionState ∧
        (s.handled R message).1.acquisition.controlState.otaState =
          s.acquisition.controlState.otaState := by
  cases handled_state R message running with
  | inl hsame =>
    rw [hsame]
    exact .inr ⟨rfl, rfl⟩
  | inr hread =>
    obtain ⟨text, new, hreply, hupdated, hnew⟩ := hread
    rw [hnew] at hno ⊢
    exact (updatedFromCli_reports hupdated hno).imp_left fun h => ⟨text, hreply, h⟩

/-- Handling a frame keeps the record. -/
lemma Heard.handle (heard : Heard c g) (wf : WellFormed c) (sid : Nat) (message : Text) :
    Heard (c.step crc32 (.handle sid message)) (c.noted g (.handle sid message)) := by
  -- nobody is taken off the record
  have hkept : ∀ {t : ManagedSession}, (t.sid ∈ g.answered ∨ (t.sid, t.reported) ∈ g.standing) →
      t.sid ∈ (c.noted g (.handle sid message)).answered ∨
        (t.sid, t.reported) ∈ (c.noted g (.handle sid message)).standing := by
    intro t h
    unfold AppController.noted
    dsimp only
    split
    · exact h.imp_left (List.mem_cons_of_mem _)
    · exact h
  intro t ht hshows
  have wf' := (wellFormed_step crc32 (.handle sid message) wf)
  have formed' := wf'.formed t ht
  rw [step_handle] at ht
  cases hsession : c.sessionBySid? sid with
  | none =>
    rw [hsession] at ht
    exact hkept (heard t ht hshows)
  | some s =>
    rw [hsession] at ht
    obtain ⟨live, rfl⟩ := sessionBySid?_some hsession
    by_cases running : s.worker = .running
    · have hid : (s.handled c.recorders message).1.sid = s.sid :=
        (SessionStep.handle running message : SessionStep crc32 s c.recorders .handle _ _).sid
      dsimp only at ht
      rw [if_pos running] at ht
      cases (AppController.mem_setSession (c := { c with
          recorders := (s.handled c.recorders message).2 }) live hid).mp ht with
      | inl heq =>
        rw [heq] at hshows formed'
        obtain ⟨text, hreply, hsays⟩ | ⟨hacq, hota⟩ := handled_shows message running hshows
        · -- the session is put on the record
          have hears : c.hears s.sid = true := by
            unfold AppController.hears
            rw [hsession]
            dsimp only
            rw [hreply]
            exact hsays
          unfold AppController.noted
          dsimp only
          rw [if_pos hears, heq, hid]
          exact .inl List.mem_cons_self
        · have hreported : (s.handled c.recorders message).1.reported = s.reported := by
            rw [formed'.reported, (wf.formed s live).reported, hacq, hota]
          refine hkept ?_
          rw [heq, hid, hreported]
          refine heard s live ?_
          unfold showsNoOta at hshows ⊢
          rwa [← hacq, ← hota]
      | inr h => exact hkept (heard t h.1 hshows)
    · dsimp only at ht
      rw [if_neg running] at ht
      exact hkept (heard t ht hshows)

/-- Every event keeps the record. -/
lemma Heard.step (heard : Heard c g) (wf : WellFormed c) (e : Event) :
    Heard (c.step crc32 e) (c.restart crc32 g e) := by
  refine .of_noted (wellFormed_step crc32 e wf) ?_
  have hlabels : ∀ {g : Restart}, e.labels.contains (.session 0 .handle) = false → Heard c g →
      Heard (c.step crc32 e) g := by
    intro g hnone heard
    refine heard.chain (step_leads e wf) wf ?_
    exact fun sid h => Bool.false_ne_true (hnone.symm.trans h)
  cases e with
  | handle sid message => exact heard.handle wf sid message
  | otaOutcome h upload outcome =>
    cases outcome with
    | staged version crc =>
      unfold AppController.noted
      dsimp only
      split
      · exact hlabels rfl (heard_staged c)
      · exact hlabels rfl heard
    | _ => exact hlabels rfl heard
  | operation h o =>
    refine hlabels ?_ heard
    have hcommand : ∀ command : Text,
        (commandLabels command).contains (.session 0 .handle) = false := by
      intro command
      unfold commandLabels
      cases AppController.isExportCommand command with
      | true => rfl
      | false => rfl
    cases o with
    | sendCommand command => exact hcommand command
    | sendCommandTo nodeId command => exact hcommand command
    | _ => rfl
  | _ => exact hlabels rfl heard

/-- The signal reports RECONNECTED. -/
def Signal.isReconnected : Signal → Bool
  | .otaState _ state _ => state == "RECONNECTED".toList
  | _ => false

/-- The signals grow by some, none of which reports RECONNECTED. -/
def Unreported (c c' : AppController) : Prop :=
  ∃ new, c'.signals = c.signals ++ new ∧ ∀ signal ∈ new, signal.isReconnected = false

/-- Nothing is reported where there are no more signals. -/
lemma Unreported.of_eq (h : c'.signals = c.signals) : Unreported c c' :=
  ⟨[], by rw [h, List.append_nil], fun _ h => by cases h⟩

/-- Nothing is reported one after the other. -/
lemma Unreported.trans (h : Unreported c c') (h' : Unreported c' d) : Unreported c d := by
  obtain ⟨new, hnew, hnone⟩ := h
  obtain ⟨new', hnew', hnone'⟩ := h'
  refine ⟨new ++ new', by rw [hnew', hnew, List.append_assoc], ?_⟩
  intro signal hsignal
  cases List.mem_append.mp hsignal with
  | inl h => exact hnone signal h
  | inr h => exact hnone' signal h

/-- Only the poll reports. -/
lemma Step.unreported {l : Label} (h : Step crc32 c l c') (hl : l ≠ .reconnected) :
    Unreported c c' := by
  cases h with
  | outside h =>
    obtain ⟨new, hnew, hplain⟩ := h.signals
    refine ⟨new, hnew, ?_⟩
    intro signal hsignal
    have hsignal := hplain signal hsignal
    unfold Signal.plain at hsignal
    unfold Signal.isReconnected
    cases signal with
    | otaState nodeId state detail => exact beq_eq_false_iff_ne.mpr (bne_iff_ne.mp hsignal)
    | _ => rfl
  | complete nodeId path =>
    refine ⟨_, rfl, ?_⟩
    intro signal hsignal
    rw [List.mem_singleton.mp hsignal]
    rfl
  | reconnected nodeId detail => exact absurd rfl hl
  | _ => exact .of_eq rfl

/-- So a chain without it does not. -/
lemma Chain.unreported (h : Chain crc32 P c c') (wf : WellFormed c) (hP : ¬ P .reconnected) :
    Unreported c c' := by
  refine Chain.invariant (I := Unreported c) ?_ h wf (.of_eq rfl)
  intro a l b _ ha hl hstep
  exact ha.trans (hstep.unreported fun heq => hP (heq ▸ hl))

/-- An event that reports nothing does not report RECONNECTED. -/
lemma Unreported.not_reconnected {e : Event} (h : Unreported c (c.step crc32 e)) :
    ¬ c.Reconnected crc32 e := by
  intro hreconnected
  obtain ⟨nodeId, detail, hmem⟩ := hreconnected
  obtain ⟨new, hnew, hnone⟩ := h
  rw [hnew, List.drop_left] at hmem
  have hreports := hnone _ hmem
  cases hreports

/-- The end of the reconnect is reported. -/
lemma finishOtaReconnect_signals (c : AppController) (status detail : String) :
    ∃ nodeId rest, (c.finishOtaReconnect status detail).signals =
      c.signals ++ .otaState nodeId status.toList detail.toList :: rest := by
  have happend : ∀ a : AppController, ∃ rest,
      (if status ≠ "RECONNECTED" then a.raiseError detail.toList else a).emitOtaAvailability.signals =
        a.signals ++ rest := by
    intro a
    have hout : Outside a
        (if status ≠ "RECONNECTED" then a.raiseError detail.toList else a).emitOtaAvailability := by
      split
      · exact Outside.trans (outside_raiseError _ _) (outside_emitOtaAvailability _)
      · exact outside_emitOtaAvailability _
    obtain ⟨rest, hrest, -⟩ := hout.signals
    exact ⟨rest, hrest⟩
  unfold AppController.finishOtaReconnect
  dsimp only
  cases c.otaReconnect with
  | some info =>
    obtain ⟨rest, hrest⟩ := happend ({ c with
      otaReconnectTimerActive := false
      otaReconnect := none }.clearOtaContext.emit
        (.otaState info.nodeId status.toList detail.toList))
    exact ⟨info.nodeId, rest, hrest.trans (List.append_assoc _ _ _)⟩
  | none =>
    obtain ⟨rest, hrest⟩ := happend ({ c with
      otaReconnectTimerActive := false
      otaReconnect := none }.clearOtaContext.emit
        (.otaState (c.otaNodeId.getD []) status.toList detail.toList))
    exact ⟨c.otaNodeId.getD [], rest, hrest.trans (List.append_assoc _ _ _)⟩

/-- The session that a poll takes is there, and shows no OTA. -/
lemma takes_some {e : Event} (h : c.takes e = some s) :
    s ∈ c.sessions ∧ AppController.otaOff s = true := by
  unfold AppController.takes at h
  split at h
  · split at h
    · cases hinfo : c.otaReconnect with
      | none =>
        rw [hinfo] at h
        cases h
      | some info =>
        rw [hinfo, Option.bind_some] at h
        split at h
        · cases h
        · have hon := List.find?_some h
          unfold AppController.reconnects at hon
          exact ⟨List.mem_of_find?_eq_some h, (Bool.and_eq_true_iff.mp hon).2⟩
    · cases h
  · cases h

/-- A poll reports RECONNECTED exactly if it takes a session. -/
lemma reconnected_pollOtaReconnect (wf : WellFormed c) (h : Host) :
    c.Reconnected crc32 (.pollOtaReconnect h) ↔ (c.takes (.pollOtaReconnect h)).isSome = true := by
  have hunreported : ∀ {d : AppController}, c.step crc32 (.pollOtaReconnect h) = d →
      Unreported c d → ¬ c.Reconnected crc32 (.pollOtaReconnect h) := by
    intro d heq hd
    exact Unreported.not_reconnected (heq ▸ hd)
  unfold AppController.takes
  dsimp only
  by_cases htimer : c.otaReconnectTimerActive = true
  · rw [if_pos htimer]
    have hstep : c.step crc32 (.pollOtaReconnect h) = c.pollOtaReconnect h := if_pos htimer
    cases hinfo : c.otaReconnect with
    | none =>
      refine iff_of_false (hunreported hstep ?_) ?_
      · unfold AppController.pollOtaReconnect
        rw [hinfo]
        exact .of_eq rfl
      · exact Bool.false_ne_true
    | some info =>
      rw [Option.bind_some]
      cases pollOtaReconnect_split crc32 h wf hinfo with
      | inl hlate =>
        rw [if_pos hlate.1]
        refine iff_of_false (hunreported (hstep.trans hlate.2) ?_) Bool.false_ne_true
        have hfinish : Chain crc32 (fun l => l ≠ .reconnected) c
            (c.finishOtaReconnect "RECONNECT_TIMEOUT" "设备复位后未在预期时间内重连") := by
          refine leads_finishOtaReconnect _ _ ?_ ?_ ?_ wf
          · exact nofun
          · exact nofun
          · intro hstatus
            exact absurd hstatus (by decide)
        -- a timeout is reported, but not as RECONNECTED
        exact hfinish.unreported wf fun h => h rfl
      | inr htime =>
        obtain ⟨hearly, d, hchain, hend⟩ := htime
        rw [if_neg hearly]
        have hasked : Unreported c d := by
          refine hchain.unreported wf (Label.Polls.not ?_ ?_ ?_)
          · exact nofun
          · exact nofun
          · exact id
        cases hend with
        | inl hnone =>
          refine iff_of_false (hunreported (hstep.trans hnone.2) hasked) ?_
          rw [List.find?_eq_none.mpr fun s hs => Bool.eq_false_iff.mp (hnone.1 s hs)]
          exact Bool.false_ne_true
        | inr hsome =>
          obtain ⟨s, live, hon, hfinish⟩ := hsome
          refine iff_of_true ?_ (List.find?_isSome.mpr ⟨s, live, hon⟩)
          obtain ⟨nodeId, rest, hsignals⟩ :=
            finishOtaReconnect_signals d "RECONNECTED" "设备已重连，OTA 状态 OFF，实时流恢复"
          obtain ⟨new, hnew, -⟩ := hasked
          refine ⟨nodeId, "设备已重连，OTA 状态 OFF，实时流恢复".toList, ?_⟩
          rw [hstep, hfinish, hsignals, hnew, List.append_assoc, List.drop_left]
          exact List.mem_append_right _ List.mem_cons_self
  · rw [if_neg htimer]
    exact iff_of_false (hunreported (if_neg htimer) (.of_eq rfl)) Bool.false_ne_true

/-- RECONNECTED is reported exactly by a poll that takes a session. -/
lemma reconnected_iff (wf : WellFormed c) (e : Event) :
    c.Reconnected crc32 e ↔ (c.takes e).isSome = true := by
  have hlabels : e.labels.contains .reconnected = false → ¬ c.Reconnected crc32 e := by
    intro hnone
    refine Unreported.not_reconnected ((step_leads e wf).unreported wf ?_)
    exact fun h => Bool.false_ne_true (hnone.symm.trans h)
  cases e with
  | pollOtaReconnect h => exact reconnected_pollOtaReconnect wf h
  | operation h o =>
    refine iff_of_false (hlabels ?_) Bool.false_ne_true
    have hcommand : ∀ command : Text, (commandLabels command).contains .reconnected = false := by
      intro command
      unfold commandLabels
      cases AppController.isExportCommand command with
      | true => rfl
      | false => rfl
    cases o with
    | sendCommand command => exact hcommand command
    | sendCommandTo nodeId command => exact hcommand command
    | _ => rfl
  | _ => exact iff_of_false (hlabels rfl) Bool.false_ne_true

/-- The image of a first upload is staged. -/
def Event.firstStaged : List Event :=
  Event.firstUpload ++ [.otaOutcome {} 0 (.staged "1.0.0".toList (some 0))]

/-- The connection of the first gateway ends, and the gateway connects again and answers. -/
def Event.cameBack : List Event :=
  Event.firstStaged ++
    [.raises 0 "connection reset".toList, .workerFailed 0, .threadFinished {} 0] ++
      Event.gatewayReady 1

end SensorHost.Presentation
