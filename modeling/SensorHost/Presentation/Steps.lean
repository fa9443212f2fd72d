import SensorHost.Acquisition.Handling
import SensorHost.Acquisition.Inventory
import SensorHost.Presentation.Run
import SensorHost.Transport.Control

/-!
# Steps

An event is a chain of small steps (`Step`), each named by a label. A step changes one thing: one
session in one way, the inventory, a recorder, or the ownership of the OTA; what no property speaks
of is `Outside`. Invariants of runs are proved about the labels, not about the events.

Steps keep well-formed states (`WellFormed`): sessions are told apart by their identity, a recorder
belongs to one session and one role, and a session's identity update names its device. A step of one
session leaves the others and their recorders alone (`Step.keeps`).

A step of a session is a `SessionStep` and comes with what it does to the recorders.
`Step.wellFormed` is the one case split over all steps for the invariant of well-formed states, and
`Step.keeps` that for what a step leaves alone; with `SessionStep.other` and `SessionStep.active` it
says that two sessions never write into one recorder.

A label names what a step does and to whom. Those of commands say what the command asks for:
`commandKind` reads every line of the queued bytes, as a node does that takes them line by line.
-/

namespace SensorHost.Presentation
open SensorHost.Lib SensorHost.Protocol SensorHost.Storage SensorHost.Acquisition SensorHost.Ota
  SensorHost.Transport

/-- The controller without the fields that only the display, the paths and the listener use. -/
def AppController.core (c : AppController) : AppController :=
  { sessionIndex := c.sessionIndex.core
    sessions := c.sessions
    recordingActive := c.recordingActive
    otaReconnect := c.otaReconnect
    otaNodeId := c.otaNodeId
    otaWorker := c.otaWorker
    otaContext := c.otaContext
    recorders := c.recorders
    nextSession := c.nextSession }

/-- The signals that report nothing of interest: not a complete export, not a reconnect. -/
def Signal.plain : Signal → Bool
  | .exportFinished _ phase _ => phase != "COMPLETE".toList
  | .otaState _ state _ => state != "RECONNECTED".toList
  | _ => true

/-- A change outside the core, with plain signals only. -/
structure Outside (c c' : AppController) : Prop where
  core : c'.core = c.core
  nextRecorder : c.nextRecorder ≤ c'.nextRecorder
  signals : ∃ new, c'.signals = c.signals ++ new ∧ ∀ g ∈ new, g.plain = true

/-- Nothing done is outside the core. -/
lemma Outside.refl (c : AppController) : Outside c c :=
  ⟨rfl, le_rfl, [], (List.append_nil _).symm, fun _ h => by cases h⟩

/-- Changes outside the core are so one after the other. -/
lemma Outside.trans {a b c : AppController} (h : Outside a b) (h' : Outside b c) : Outside a c := by
  obtain ⟨new, hnew, hplain⟩ := h.signals
  obtain ⟨new', hnew', hplain'⟩ := h'.signals
  refine ⟨h'.core.trans h.core, h.nextRecorder.trans h'.nextRecorder, new ++ new', ?_, ?_⟩
  · rw [hnew', hnew, List.append_assoc]
  · intro g hg
    cases List.mem_append.mp hg with
    | inl hg => exact hplain g hg
    | inr hg => exact hplain' g hg

/-- A plain signal is outside the core. -/
lemma Outside.emit {c : AppController} {g : Signal} (hg : g.plain = true) : Outside c (c.emit g) := by
  refine ⟨rfl, le_rfl, [g], rfl, ?_⟩
  intro g' hmem
  rw [List.mem_singleton.mp hmem]
  exact hg

/-- What is read off the core is not changed outside. -/
lemma Outside.field {c c' : AppController} {β : Type} (h : Outside c c') (get : AppController → β)
    (hget : ∀ c, get c.core = get c) : get c' = get c := by
  rw [← hget c', h.core, hget]

/-- What a command asks the device for. -/
inductive CommandKind where
  | start
  | archiveExport
  | sdClear
  | other
  deriving DecidableEq

/-- The text of a queued command. -/
def commandText (command : Bytes) : Text := command.map fun b => Char.ofNat b.toNat

/-- The lines that a device reads a queued command as: the transport writes the bytes as they are, so
that a line end inside of them is the end of a line. -/
def commandLines (command : Bytes) : List Bytes := command.splitOnP isLineByte

/-- The line is the command, alone or with a value. -/
def isRequest (verb line : Text) : Bool := line == verb || startsWith line (verb ++ ['='])

/-- What a line asks for. -/
def lineKind (line : Bytes) : CommandKind :=
  let text := upper (strip (commandText line))
  if isRequest "AT+START".toList text then .start
  else if isRequest "AT+EXPORT".toList text then .archiveExport
  else if isRequest "AT+SDCLEAR".toList text then .sdClear
  else .other

/-- What a queued command asks for: the first of its lines that asks for anything. -/
def commandKind (command : Bytes) : CommandKind :=
  (((commandLines command).map lineKind).find? (· != .other)).getD .other

/-- The session and the recorders behind the next frame of the last read. -/
def ManagedSession.handled (s : ManagedSession) (recorders : Recorders) (message : Text) :
    ManagedSession × Recorders :=
  match s.acquisition.handleNext recorders with
  | (acquisition, recorders, none) => ({ s with acquisition }, recorders)
  | (acquisition, recorders, some error) =>
    ({ s with
      acquisition := acquisition
      worker := .failing (workerMessage message error)
      transportOpen := false }, recorders)

/-- The session with one more command in its queue. -/
def ManagedSession.queued (s : ManagedSession) (command : Bytes) : ManagedSession :=
  { s with acquisition := { s.acquisition with commands := s.acquisition.commands ++ [command] } }

/-- What can happen to a session. -/
inductive SessionLabel where
  | thread
  | queue (kind : CommandKind)
  | replies
  | identities
  | samples
  | otaStart
  | otaEnd
  | bridge
  | send
  | read
  | handle
  | detach
  | cancelDeferral
  | exportDetach
  | exportNote
  | exportCancel
  deriving DecidableEq

variable (crc32 : Bytes → UInt32)

/-- A session and the recorders, before and behind what the label names. -/
inductive SessionStep (s : ManagedSession) (R : Recorders) :
    SessionLabel → ManagedSession → Recorders → Prop
  | thread (worker : WorkerPhase) (transportOpen stopRequested : Bool) (failure : Option Text)
      (ended : worker = s.worker ∨ worker ≠ .running) :
      SessionStep s R .thread { s with worker, transportOpen, stopRequested, failure } R
  | queue (command : Bytes) (kind : CommandKind) (asks : commandKind command = kind) :
      SessionStep s R (.queue kind) (s.queued command) R
  | replies :
      SessionStep s R .replies { s with acquisition := { s.acquisition with cliResponses := [] } } R
  | identities :
      SessionStep s R .identities
        { s with acquisition := { s.acquisition with identityUpdates := [] } } R
  | samples :
      SessionStep s R .samples
        { s with acquisition := { s.acquisition with store := s.acquisition.store.clearSamples } } R
  | otaStart :
      SessionStep s R .otaStart { s with otaActive := true, acquisition := s.acquisition.startOta } R
  | otaEnd (awaiting : Bool) :
      SessionStep s R .otaEnd (AppController.endUpload awaiting s) R
  | bridge (otaReplies otaOutbound : List Bytes) :
      SessionStep s R .bridge
        { s with acquisition := { s.acquisition with otaReplies, otaOutbound } } R
  | send (running : s.worker = .running) :
      SessionStep s R .send { s with acquisition := s.acquisition.sendPending } R
  | read (running : s.worker = .running) (handled : s.acquisition.inbox = []) (chunk : Bytes) :
      SessionStep s R .read { s with acquisition := s.acquisition.readChunk crc32 chunk } R
  | handle (running : s.worker = .running) (message : Text) :
      SessionStep s R .handle (s.handled R message).1 (s.handled R message).2
  | detach (id : Nat) (attached : s.recorder = some id) (outcomes : List WriterOutcome) :
      SessionStep s R .detach
        { s with recorder := none, acquisition := (s.acquisition.setRecorder R none).1 }
        (Function.update R id ((R id).drain outcomes).1)
  | cancelDeferral (free : s.recorder = none) :
      SessionStep s R .cancelDeferral
        { s with acquisition := s.acquisition.cancelDeferredRecording } R
  | exportDetach (id : Nat) (attached : s.archiveRecorder = some id) (cancel : Bool)
      (outcomes : List WriterOutcome) :
      SessionStep s R .exportDetach
        { s with
          archiveRecorder := none
          archiveCancelRequested := cancel && s.archiveCancelRequested
          acquisition := s.acquisition.setArchiveRecorder none }
        (Function.update R id ((R id).drain outcomes).1)
  | exportNote (total : Nat) (path : Option Path) (target : Text) (retries : Nat) (cancel : Bool)
      (fresh : cancel = true → s.archiveCancelRequested = true) :
      SessionStep s R .exportNote
        { s with
          archiveTotalBytes := total
          archivePath := path
          archiveTarget := target
          archiveRetries := retries
          archiveCancelRequested := cancel } R
  | exportCancel (active : s.archiveRecorder.isSome) (first : s.archiveCancelRequested = false) :
      SessionStep s R .exportCancel
        { s with
          archiveCancelRequested := true
          acquisition := s.acquisition.stopAcquisition.requestStatus } R

/-- What can happen to the controller. -/
inductive Label where
  | outside
  | session (sid : Nat) (l : SessionLabel)
  | add
  | bind (sid : Nat)
  | attach (sid : Nat)
  | exportAttach (sid : Nat)
  | drop (sid : Nat)
  | forget
  | unlist
  | reset
  | recording
  | own
  | write
  | complete
  | reconnected
  deriving DecidableEq

/-- A recorder that was just started. -/
def startedRecorder (path : Path) (deviceUuid : Option Uuid) : RawSessionRecorder :=
  { path, deviceUuid, isActive := true, writerAlive := true }

/-- The controller before and behind what the label names. -/
inductive Step (c : AppController) : Label → AppController → Prop
  | outside {c' : AppController} (h : Outside c c') : Step c .outside c'
  | session {s s' : ManagedSession} {l : SessionLabel} {R : Recorders} (live : s ∈ c.sessions)
      (h : SessionStep crc32 s c.recorders l s' R) :
      Step c (.session s.sid l) ({ c with recorders := R }.setSession s')
  | add {sessionIndex : NodeSessionManager} (nodeId peer : Text) (kind : TransportKind)
      (accepted : c.sessionIndex.addSession nodeId kind peer = .ok sessionIndex) :
      Step c .add
        { c with
          sessionIndex := sessionIndex
          sessions := c.sessions ++
            [AppController.newSession c.nextSession nodeId peer kind c.recordingActive]
          nextSession := c.nextSession + 1 }
  | bind {sessionIndex : NodeSessionManager} {s : ManagedSession} (uuid : Uuid)
      (live : s ∈ c.sessions) (seen : s.acquisition.deviceUuid = some uuid)
      (accepted : c.sessionIndex.bindIdentity s.nodeId uuid = .ok sessionIndex) :
      Step c (.bind s.sid) { c with sessionIndex := sessionIndex }
  | attach {s : ManagedSession} (path : Path) (live : s ∈ c.sessions) (free : s.recorder = none) :
      Step c (.attach s.sid)
        (let attached := s.acquisition.setRecorder
          (Function.update c.recorders c.nextRecorder (startedRecorder path (c.deviceUuid s.nodeId)))
          (some c.nextRecorder)
        { c with
          nextRecorder := c.nextRecorder + 1
          recorders := attached.2 }.setSession
            { s with recorder := some c.nextRecorder, acquisition := attached.1 })
  | exportAttach {s : ManagedSession} (path : Path) (startedS : ℚ) (uuid : Uuid)
      (live : s ∈ c.sessions) (free : s.archiveRecorder = none)
      (bound : c.deviceUuid s.nodeId = some uuid) :
      Step c (.exportAttach s.sid)
        ({ c with
          nextRecorder := c.nextRecorder + 1
          recorders := Function.update c.recorders c.nextRecorder
            (startedRecorder path (some uuid)) }.setSession
          { s with
            archiveRecorder := some c.nextRecorder
            archiveStartRevision := (s.controlState.map FirmwareControlState.exportRevision).getD 0
            archiveStartedS := startedS
            acquisition := s.acquisition.setArchiveRecorder (some c.nextRecorder) })
  | drop {sessionIndex : NodeSessionManager} {s : ManagedSession} (state : ConnectionState)
      (reason : Option Text) (gone : state = .reconnecting ∨ state = .offline)
      (live : s ∈ c.sessions) (free : s.recorder = none ∧ s.archiveRecorder = none)
      (marked : c.sessionIndex.markUnavailable state s.nodeId reason = .ok sessionIndex ∨
        c.sessionIndex.requireNode s.nodeId = .error (.unknownNode s.nodeId) ∧
          sessionIndex = c.sessionIndex) :
      Step c (.drop s.sid)
        { c with
          sessionIndex := sessionIndex
          sessions := c.sessions.filter fun t => t.sid != s.sid }
  | forget (nodeId : Text) (dead : ∀ s ∈ c.sessions, s.nodeId ≠ nodeId) :
      Step c .forget { c with sessionIndex := c.sessionIndex.remove nodeId }
  | unlist (nodeId : Text) :
      Step c .unlist { c with sessionIndex := c.sessionIndex.remove nodeId }
  | reset : Step c .reset { c with sessions := [], recordingActive := false }
  | recording (active : Bool) : Step c .recording { c with recordingActive := active }
  | own {otaReconnect : Option OtaReconnect} {otaNodeId : Option Text} {otaWorker : Option Nat}
      {otaContext : Option OtaContext} :
      Step c .own { c with otaReconnect, otaNodeId, otaWorker, otaContext }
  | write (id : Nat) (outcome : WriterOutcome) :
      Step c .write
        { c with recorders := Function.update c.recorders id ((c.recorders id).writerStep outcome) }
  | complete (nodeId : Text) (path : Path) :
      Step c .complete (c.emit (.exportFinished nodeId "COMPLETE".toList path))
  | reconnected (nodeId detail : Text) :
      Step c .reconnected (c.emit (.otaState nodeId "RECONNECTED".toList detail))

/-- A chain of steps, each with a label of the given kind. -/
def Chain (P : Label → Prop) : AppController → AppController → Prop :=
  Relation.ReflTransGen fun c c' => ∃ l, P l ∧ Step crc32 c l c'

/-- The session has the recorder, for live or for archive frames. -/
def ManagedSession.Owns (s : ManagedSession) (id : Nat) : Prop :=
  s.recorder = some id ∨ s.archiveRecorder = some id

/-- What a session and the recorders owe each other. -/
structure SessionFormed (R : Recorders) (bound : Nat) (s : ManagedSession) : Prop where
  recorder : s.acquisition.recorder = s.recorder
  archive : s.acquisition.archiveRecorder = s.archiveRecorder
  identity : s.acquisition.identityUpdates = [] ∨
    ∃ uuid, s.acquisition.identityUpdates = [uuid] ∧ s.acquisition.deviceUuid = some uuid
  state : s.controlState = none ∧ s.acquisition.controlState = {} ∨
    s.controlState = some s.acquisition.controlState
  lt : ∀ id, s.Owns id → id < bound
  active : ∀ id, s.Owns id → (R id).isActive = true
  apart : ∀ id, s.recorder = some id → s.archiveRecorder ≠ some id

/-- The sessions are told apart, each owns its recorders, and so are the nodes. -/
structure WellFormed (c : AppController) : Prop where
  nodup : (c.sessions.map ManagedSession.sid).Nodup
  lt : ∀ s ∈ c.sessions, s.sid < c.nextSession
  formed : ∀ s ∈ c.sessions, SessionFormed c.recorders c.nextRecorder s
  apart : ∀ s ∈ c.sessions, ∀ t ∈ c.sessions, s.sid ≠ t.sid → ∀ id, s.Owns id → ¬ t.Owns id
  keyed : c.sessionIndex.Keyed

section Session

variable {crc32} {s s' : ManagedSession} {R R' : Recorders} {l : SessionLabel} {bound : Nat}

/-- Handling a frame changes the connection, the worker and whether the transport is open. -/
lemma ManagedSession.handled_eq (s : ManagedSession) (R : Recorders) (message : Text) :
    ∃ worker transportOpen, s.handled R message =
        ({ s with
          acquisition := (s.acquisition.handleNext R).1
          worker := worker
          transportOpen := transportOpen }, (s.acquisition.handleNext R).2.1) ∧
      (worker = s.worker ∨ worker ≠ .running) := by
  unfold ManagedSession.handled
  cases hnext : s.acquisition.handleNext R with
  | mk acquisition rest =>
    obtain ⟨R', error⟩ := rest
    cases error with
    | none => exact ⟨s.worker, s.transportOpen, rfl, .inl rfl⟩
    | some error =>
      refine ⟨_, _, rfl, .inr ?_⟩
      intro h
      cases h

/-- Who the session is. -/
def ManagedSession.identity (s : ManagedSession) : Nat × Text × Text × TransportKind :=
  (s.sid, s.nodeId, s.peer, s.transportKind)

/-- A session stays the one that it is. -/
lemma SessionStep.identity (h : SessionStep crc32 s R l s' R') : s'.identity = s.identity := by
  cases h with
  | handle running message =>
    obtain ⟨worker, transportOpen, heq, -⟩ := s.handled_eq R message
    rw [heq]
    rfl
  | _ => rfl

/-- It keeps its identity. -/
lemma SessionStep.sid (h : SessionStep crc32 s R l s' R') : s'.sid = s.sid :=
  congrArg Prod.fst h.identity

/-- It keeps its node. -/
lemma SessionStep.nodeId (h : SessionStep crc32 s R l s' R') : s'.nodeId = s.nodeId :=
  congrArg (fun t => t.2.1) h.identity

/-- A session step attaches no recorder. -/
lemma SessionStep.owns (h : SessionStep crc32 s R l s' R') {id : Nat} (hid : s'.Owns id) :
    s.Owns id := by
  cases h with
  | handle running message =>
    obtain ⟨worker, transportOpen, heq, -⟩ := s.handled_eq R message
    rw [heq] at hid
    exact hid
  | detach _ _ _ =>
    cases hid with
    | inl hrecorder => cases hrecorder
    | inr harchive => exact .inr harchive
  | exportDetach _ _ _ _ =>
    cases hid with
    | inl hrecorder => exact .inl hrecorder
    | inr harchive => cases harchive
  | _ => exact hid

/-- A session step leaves the recorders of others alone. -/
lemma SessionStep.other (h : SessionStep crc32 s R l s' R') (formed : SessionFormed R bound s)
    {id : Nat} (hid : ¬ s.Owns id) : R' id = R id := by
  cases h with
  | handle running message =>
    obtain ⟨worker, transportOpen, heq, -⟩ := s.handled_eq R message
    rw [heq]
    refine s.acquisition.handleNext_other R ?_ ?_
    · rw [formed.recorder]
      exact fun h => hid (.inl h)
    · rw [formed.archive]
      exact fun h => hid (.inr h)
  | detach k attached _ =>
    refine Function.update_of_ne ?_ _ _
    rintro rfl
    exact hid (.inl attached)
  | exportDetach k attached _ _ =>
    refine Function.update_of_ne ?_ _ _
    rintro rfl
    exact hid (.inr attached)
  | _ => rfl

/-- Of its own recorders, a session step stops only those that it gives up. -/
lemma SessionStep.active (h : SessionStep crc32 s R l s' R') (formed : SessionFormed R bound s)
    {id : Nat} (hid : s'.Owns id) : (R' id).isActive = true := by
  have hactive := formed.active id (h.owns hid)
  cases h with
  | handle running message =>
    obtain ⟨worker, transportOpen, heq, -⟩ := s.handled_eq R message
    rw [heq]
    exact (s.acquisition.handleNext_isActive R id).trans hactive
  | detach k attached _ =>
    rw [Function.update_of_ne]
    · exact hactive
    · rintro rfl
      cases hid with
      | inl hrecorder => cases hrecorder
      | inr harchive => exact formed.apart _ attached harchive
  | exportDetach k attached _ _ =>
    rw [Function.update_of_ne]
    · exact hactive
    · rintro rfl
      cases hid with
      | inl hrecorder => exact formed.apart _ hrecorder attached
      | inr harchive => cases harchive
  | _ => exact hactive

/-- What a session knows of its device, and has queued for the inventory. -/
lemma SessionFormed.learns {d : AcquisitionController} {known : Option Uuid} {updates : List Uuid}
    (h : updates = [] ∨ ∃ uuid, updates = [uuid] ∧ known = some uuid)
    (hlearns : AcquisitionController.Identified known updates d.deviceUuid d.identityUpdates) :
    d.identityUpdates = [] ∨
      ∃ uuid, d.identityUpdates = [uuid] ∧ d.deviceUuid = some uuid := by
  revert hlearns
  generalize d.deviceUuid = known', d.identityUpdates = updates'
  intro hlearns
  cases hlearns with
  | same => exact h
  | learned uuid =>
    right
    refine ⟨uuid, ?_, rfl⟩
    cases h with
    | inl hnil => rw [hnil, List.nil_append]
    | inr hone =>
      obtain ⟨uuid', -, hsome⟩ := hone
      cases hsome

/-- The control state of a session, as the poll and the updates read it. -/
lemma SessionFormed.reads {frame : Frame} {known : Option Uuid} {state state' : FirmwareControlState}
    {shown shown' : Option FirmwareControlState}
    (h : shown = none ∧ state = {} ∨ shown = some state)
    (hreads : AcquisitionController.Reads frame known state shown state' shown') :
    shown' = none ∧ state' = {} ∨ shown' = some state' := by
  cases hreads with
  | same => exact h
  | reply _ _ _ _ _ => exact .inr rfl

/-- Handling a frame keeps what the session and the recorders owe each other. -/
lemma SessionStep.handled_formed (formed : SessionFormed R bound s) (running : s.worker = .running)
    (message : Text) :
    SessionFormed (s.handled R message).2 bound (s.handled R message).1 := by
  have h : SessionStep (fun _ => 0) s R .handle (s.handled R message).1
      (s.handled R message).2 := .handle running message
  have howns : ∀ {id : Nat}, (s.handled R message).1.Owns id → s.Owns id := h.owns
  have hactive : ∀ {id : Nat}, (s.handled R message).1.Owns id →
      ((s.handled R message).2 id).isActive = true := h.active formed
  obtain ⟨worker, transportOpen, heq, -⟩ := s.handled_eq R message
  rw [heq] at howns hactive ⊢
  have hrecorder := AcquisitionController.handleNext_field AcquisitionController.recorder
    (fun _ _ => rfl) s.acquisition R
  have harchive := AcquisitionController.handleNext_field AcquisitionController.archiveRecorder
    (fun _ _ => rfl) s.acquisition R
  refine ⟨hrecorder.trans formed.recorder, harchive.trans formed.archive,
    SessionFormed.learns formed.identity (s.acquisition.handleNext_learns R), ?_,
    fun id hid => formed.lt id (howns hid), fun id hid => hactive hid, formed.apart⟩
  cases hinbox : s.acquisition.inbox with
  | nil =>
    have hsame : (s.acquisition.handleNext R).1 = s.acquisition := by
      unfold AcquisitionController.handleNext
      rw [hinbox]
    show (s.acquisition.handleNext R).1.store.firmwareControlState = none ∧ _ ∨
      (s.acquisition.handleNext R).1.store.firmwareControlState = some _
    rw [hsame]
    exact formed.state
  | cons frame frames =>
    exact SessionFormed.reads formed.state (AcquisitionController.handleNext_reads hinbox)

/-- A session step keeps the session well-formed. -/
lemma SessionStep.formed (h : SessionStep crc32 s R l s' R') (formed : SessionFormed R bound s) :
    SessionFormed R' bound s' := by
  have hlt : ∀ id, s'.Owns id → id < bound := fun id hid => formed.lt id (h.owns hid)
  have hactive : ∀ id, s'.Owns id → (R' id).isActive = true := fun id hid => h.active formed hid
  cases h with
  | handle running message => exact handled_formed formed running message
  | read running handled chunk =>
    have hfield := fun {β : Type} (get : AcquisitionController → β)
      (hget : ∀ c, get c.unread = get c) =>
        AcquisitionController.readChunk_field get hget crc32 s.acquisition chunk
    have hidentity : (s.acquisition.readChunk crc32 chunk).identityUpdates = [] ∨
        ∃ uuid, (s.acquisition.readChunk crc32 chunk).identityUpdates = [uuid] ∧
          (s.acquisition.readChunk crc32 chunk).deviceUuid = some uuid := by
      rw [hfield AcquisitionController.identityUpdates (fun _ => rfl),
        hfield AcquisitionController.deviceUuid (fun _ => rfl)]
      exact formed.identity
    have hstate : (s.acquisition.readChunk crc32 chunk).store.firmwareControlState = none ∧
          (s.acquisition.readChunk crc32 chunk).controlState = {} ∨
        (s.acquisition.readChunk crc32 chunk).store.firmwareControlState =
          some (s.acquisition.readChunk crc32 chunk).controlState := by
      rw [hfield (fun c => c.store.firmwareControlState) (fun _ => rfl),
        hfield AcquisitionController.controlState (fun _ => rfl)]
      exact formed.state
    exact ⟨(hfield AcquisitionController.recorder (fun _ => rfl)).trans formed.recorder,
      (hfield AcquisitionController.archiveRecorder (fun _ => rfl)).trans formed.archive,
      hidentity, hstate, hlt, hactive, formed.apart⟩
  | identities =>
    exact ⟨formed.recorder, formed.archive, .inl rfl, formed.state, hlt, hactive, formed.apart⟩
  | detach _ _ _ =>
    refine ⟨rfl, formed.archive, formed.identity, formed.state, hlt, hactive, ?_⟩
    intro id hid
    cases hid
  | exportDetach _ _ _ _ =>
    refine ⟨formed.recorder, rfl, formed.identity, formed.state, hlt, hactive, ?_⟩
    intro id _ harchive
    cases harchive
  | _ => exact ⟨formed.recorder, formed.archive, formed.identity, formed.state, hlt, hactive,
      formed.apart⟩

end Session

section Keeps

variable {crc32} {c c' : AppController} {s s' t : ManagedSession} {l : Label}

/-- A session that is put there takes the place of the one with its identity. -/
lemma AppController.mem_setSession (live : s ∈ c.sessions) (hsid : s'.sid = s.sid) :
    t ∈ (c.setSession s').sessions ↔ t = s' ∨ t ∈ c.sessions ∧ t.sid ≠ s.sid := by
  unfold AppController.setSession
  rw [List.mem_map]
  constructor
  · intro h
    obtain ⟨u, hu, heq⟩ := h
    split at heq
    · exact .inl heq.symm
    · rename_i hne
      rw [← heq]
      exact .inr ⟨hu, hsid ▸ hne⟩
  · intro h
    cases h with
    | inl heq => exact ⟨s, live, by rw [if_pos hsid.symm, heq]⟩
    | inr h => exact ⟨t, h.1, if_neg (hsid ▸ h.2)⟩

/-- It is there. -/
lemma AppController.mem_setSession_self (live : s ∈ c.sessions) (hsid : s'.sid = s.sid) :
    s' ∈ (c.setSession s').sessions :=
  (AppController.mem_setSession live hsid).mpr (.inl rfl)

/-- The identities stay. -/
lemma AppController.setSession_sids (c : AppController) (s' : ManagedSession) :
    (c.setSession s').sessions.map ManagedSession.sid = c.sessions.map ManagedSession.sid := by
  unfold AppController.setSession
  rw [List.map_map]
  refine List.map_congr_left ?_
  intro u _
  rw [Function.comp_apply]
  split
  · rename_i heq
    exact heq.symm
  · rfl

/-- A session is known by its identity. -/
lemma WellFormed.eq_of_sid (wf : WellFormed c) (hs : s ∈ c.sessions) (ht : t ∈ c.sessions)
    (h : s.sid = t.sid) : s = t := List.inj_on_of_nodup_map wf.nodup hs ht h

/-- A controller that has changed one session, and recorders that no other session has, is
well-formed if the session is. -/
lemma WellFormed.setSession (wf : WellFormed c) {R : Recorders} {bound : Nat}
    (live : s ∈ c.sessions) (hsid : s'.sid = s.sid) (hbound : c.nextRecorder ≤ bound)
    (formed : SessionFormed R bound s')
    (owns : ∀ id, s'.Owns id → s.Owns id ∨ c.nextRecorder ≤ id)
    (other : ∀ id, ¬ s.Owns id → id < c.nextRecorder → R id = c.recorders id) :
    WellFormed ({ c with recorders := R, nextRecorder := bound }.setSession s') := by
  have hmem := fun t => AppController.mem_setSession (t := t)
    (c := { c with recorders := R, nextRecorder := bound }) live hsid
  -- a file of the changed session is one of before or a fresh one
  have hothers : ∀ t ∈ c.sessions, t.sid ≠ s.sid → ∀ id, t.Owns id → ¬ s'.Owns id := by
    intro t ht hne id htid hsid'
    cases owns id hsid' with
    | inl hown => exact wf.apart t ht s live hne id htid hown
    | inr hge => exact absurd ((wf.formed t ht).lt id htid) (not_lt.mpr hge)
  refine ⟨?_, ?_, ?_, ?_, wf.keyed⟩
  · rw [AppController.setSession_sids]
    exact wf.nodup
  · intro t ht
    cases (hmem t).mp ht with
    | inl heq =>
      rw [heq, hsid]
      exact wf.lt s live
    | inr h => exact wf.lt t h.1
  · intro t ht
    cases (hmem t).mp ht with
    | inl heq =>
      rw [heq]
      exact formed
    | inr h =>
      have ft := wf.formed t h.1
      refine ⟨ft.recorder, ft.archive, ft.identity, ft.state,
        fun id hid => (ft.lt id hid).trans_le hbound, ?_, ft.apart⟩
      intro id hid
      have hfree : ¬ s.Owns id := wf.apart t h.1 s live h.2 id hid
      exact (congrArg RawSessionRecorder.isActive (other id hfree (ft.lt id hid))).trans
        (ft.active id hid)
  · intro t ht u hu hne id htid huid
    cases (hmem t).mp ht with
    | inl heq =>
      subst heq
      cases (hmem u).mp hu with
      | inl heq' => exact hne (heq' ▸ rfl)
      | inr h => exact hothers u h.1 h.2 id huid htid
    | inr h =>
      cases (hmem u).mp hu with
      | inl heq' =>
        subst heq'
        exact hothers t h.1 h.2 id htid huid
      | inr h' => exact wf.apart t h.1 u h'.1 hne id htid huid

/-- A controller with other recorders is well-formed if none was stopped. -/
lemma WellFormed.of_sessions (wf : WellFormed c) (hsessions : c'.sessions = c.sessions)
    (hnext : c.nextSession ≤ c'.nextSession) (hbound : c.nextRecorder ≤ c'.nextRecorder)
    (hactive : ∀ id, (c'.recorders id).isActive = (c.recorders id).isActive)
    (keyed : c'.sessionIndex.Keyed) : WellFormed c' := by
  refine ⟨?_, ?_, ?_, ?_, keyed⟩
  · rw [hsessions]
    exact wf.nodup
  · rw [hsessions]
    exact fun t ht => (wf.lt t ht).trans_le hnext
  · rw [hsessions]
    intro t ht
    have ft := wf.formed t ht
    exact ⟨ft.recorder, ft.archive, ft.identity, ft.state,
      fun id hid => (ft.lt id hid).trans_le hbound,
      fun id hid => (hactive id).trans (ft.active id hid), ft.apart⟩
  · rw [hsessions]
    exact wf.apart

/-- A new session owes nothing. -/
lemma newSession_formed (R : Recorders) (bound sid : Nat) (nodeId peer : Text) (kind : TransportKind)
    (recordingActive : Bool) :
    SessionFormed R bound (AppController.newSession sid nodeId peer kind recordingActive) := by
  have hfree : ∀ id, ¬ (AppController.newSession sid nodeId peer kind recordingActive).Owns id := by
    intro id hid
    cases hid with
    | inl h => cases h
    | inr h => cases h
  cases recordingActive with
  | true =>
    exact ⟨rfl, rfl, .inl rfl, .inl ⟨rfl, rfl⟩, fun id hid => absurd hid (hfree id),
      fun id hid => absurd hid (hfree id), fun _ h => by cases h⟩
  | false =>
    exact ⟨rfl, rfl, .inl rfl, .inl ⟨rfl, rfl⟩, fun id hid => absurd hid (hfree id),
      fun id hid => absurd hid (hfree id), fun _ h => by cases h⟩

/-- A session that is added is told apart. -/
lemma WellFormed.add (wf : WellFormed c) {sessionIndex : NodeSessionManager} (nodeId peer : Text)
    (kind : TransportKind) (keyed : sessionIndex.Keyed) :
    WellFormed { c with
      sessionIndex := sessionIndex
      sessions := c.sessions ++
        [AppController.newSession c.nextSession nodeId peer kind c.recordingActive]
      nextSession := c.nextSession + 1 } := by
  refine ⟨?_, ?_, ?_, ?_, keyed⟩
  · dsimp only
    rw [List.map_append, List.nodup_append]
    refine ⟨wf.nodup, List.nodup_singleton _, ?_⟩
    intro a ha b hb heq
    obtain ⟨t, ht, rfl⟩ := List.mem_map.mp ha
    rw [List.map_singleton, List.mem_singleton] at hb
    have hlt := wf.lt t ht
    rw [heq, hb] at hlt
    exact lt_irrefl _ hlt
  · intro t ht
    cases List.mem_append.mp ht with
    | inl h => exact (wf.lt t h).trans (Nat.lt_succ_self _)
    | inr h =>
      rw [List.mem_singleton.mp h]
      exact Nat.lt_succ_self _
  · intro t ht
    cases List.mem_append.mp ht with
    | inl h => exact wf.formed t h
    | inr h =>
      rw [List.mem_singleton.mp h]
      exact newSession_formed _ _ _ _ _ _ _
  · intro t ht u hu hne id htid huid
    cases List.mem_append.mp ht with
    | inl h =>
      cases List.mem_append.mp hu with
      | inl h' => exact wf.apart t h u h' hne id htid huid
      | inr h' =>
        rw [List.mem_singleton.mp h'] at huid
        cases huid with
        | inl h => cases h
        | inr h => cases h
    | inr h =>
      rw [List.mem_singleton.mp h] at htid
      cases htid with
      | inl h => cases h
      | inr h => cases h

/-- Sessions that are left are. -/
lemma WellFormed.filter (wf : WellFormed c) (p : ManagedSession → Bool)
    {sessionIndex : NodeSessionManager} (keyed : sessionIndex.Keyed) :
    WellFormed { c with sessionIndex := sessionIndex, sessions := c.sessions.filter p } := by
  have hsub : ∀ t ∈ c.sessions.filter p, t ∈ c.sessions := fun t ht => List.mem_of_mem_filter ht
  refine ⟨?_, ?_, ?_, ?_, keyed⟩
  · exact wf.nodup.sublist (List.filter_sublist.map _)
  · exact fun t ht => wf.lt t (hsub t ht)
  · exact fun t ht => wf.formed t (hsub t ht)
  · exact fun t ht u hu => wf.apart t (hsub t ht) u (hsub u hu)

/-- Every step keeps a state well-formed. -/
theorem Step.wellFormed (h : Step crc32 c l c') (wf : WellFormed c) : WellFormed c' := by
  cases h with
  | outside h =>
    have hsessions := h.field AppController.sessions fun _ => rfl
    have hrecorders := h.field AppController.recorders fun _ => rfl
    have hnext := h.field AppController.nextSession fun _ => rfl
    exact wf.of_sessions hsessions hnext.ge h.nextRecorder (fun id => by rw [hrecorders])
      (wf.keyed.of_core (congrArg AppController.sessionIndex h.core))
  | session live h =>
    exact wf.setSession live h.sid le_rfl (h.formed (wf.formed _ live))
      (fun id hid => .inl (h.owns hid)) (fun id hid _ => h.other (wf.formed _ live) hid)
  | add nodeId peer kind accepted => exact wf.add nodeId peer kind (wf.keyed.addSession accepted)
  | bind uuid live seen accepted =>
    exact wf.of_sessions rfl le_rfl le_rfl (fun _ => rfl) (wf.keyed.bindIdentity accepted)
  | attach path live free =>
    rename_i s
    have fs := wf.formed s live
    obtain ⟨lastError, heq⟩ := s.acquisition.setRecorder_some
      (Function.update c.recorders c.nextRecorder (startedRecorder path (c.deviceUuid s.nodeId)))
      c.nextRecorder
    rw [heq]
    dsimp only
    rw [Function.update_self, Function.update_idem]
    refine wf.setSession live rfl (Nat.le_succ _) ⟨rfl, fs.archive, fs.identity, fs.state, ?_, ?_, ?_⟩
      ?_ ?_
    · intro id hid
      cases hid with
      | inl hrecorder =>
        cases hrecorder
        exact Nat.lt_succ_self _
      | inr harchive => exact (fs.lt id (.inr harchive)).trans (Nat.lt_succ_self _)
    · intro id hid
      cases hid with
      | inl hrecorder =>
        cases hrecorder
        rw [Function.update_self]
        exact AcquisitionController.submitBacklog_isActive _ _
      | inr harchive =>
        rw [Function.update_of_ne (fs.lt id (.inr harchive)).ne]
        exact fs.active id (.inr harchive)
    · intro id hrecorder harchive
      cases hrecorder
      exact lt_irrefl _ (fs.lt _ (.inr harchive))
    · intro id hid
      cases hid with
      | inl hrecorder =>
        cases hrecorder
        exact .inr le_rfl
      | inr harchive => exact .inl (.inr harchive)
    · intro id _ hlt
      exact Function.update_of_ne hlt.ne _ _
  | exportAttach path startedS uuid live free bound =>
    rename_i s
    have fs := wf.formed s live
    refine wf.setSession live rfl (Nat.le_succ _) ⟨fs.recorder, rfl, fs.identity, fs.state, ?_, ?_, ?_⟩
      ?_ ?_
    · intro id hid
      cases hid with
      | inl hrecorder => exact (fs.lt id (.inl hrecorder)).trans (Nat.lt_succ_self _)
      | inr harchive =>
        cases harchive
        exact Nat.lt_succ_self _
    · intro id hid
      cases hid with
      | inl hrecorder =>
        rw [Function.update_of_ne (fs.lt id (.inl hrecorder)).ne]
        exact fs.active id (.inl hrecorder)
      | inr harchive =>
        cases harchive
        rw [Function.update_self]
        rfl
    · intro id hrecorder harchive
      cases harchive
      exact lt_irrefl _ (fs.lt _ (.inl hrecorder))
    · intro id hid
      cases hid with
      | inl hrecorder => exact .inl (.inl hrecorder)
      | inr harchive =>
        cases harchive
        exact .inr le_rfl
    · intro id _ hlt
      exact Function.update_of_ne hlt.ne _ _
  | drop state reason gone live free marked =>
    refine wf.filter _ ?_
    cases marked with
    | inl hmarked => exact wf.keyed.markUnavailable hmarked
    | inr hnone =>
      rw [hnone.2]
      exact wf.keyed
  | forget nodeId dead =>
    exact wf.of_sessions rfl le_rfl le_rfl (fun _ => rfl) (wf.keyed.remove nodeId)
  | unlist nodeId =>
    exact wf.of_sessions rfl le_rfl le_rfl (fun _ => rfl) (wf.keyed.remove nodeId)
  | reset =>
    refine ⟨List.nodup_nil, ?_, ?_, ?_, wf.keyed⟩
    · intro t ht
      cases ht
    · intro t ht
      cases ht
    · intro t ht
      cases ht
  | recording active => exact wf.of_sessions rfl le_rfl le_rfl (fun _ => rfl) wf.keyed
  | own => exact wf.of_sessions rfl le_rfl le_rfl (fun _ => rfl) wf.keyed
  | write id outcome =>
    refine wf.of_sessions rfl le_rfl le_rfl ?_ wf.keyed
    intro k
    by_cases hk : k = id
    · subst hk
      show (Function.update c.recorders k _ k).isActive = _
      rw [Function.update_self]
      exact RawSessionRecorder.writerStep_isActive _ _
    · show (Function.update c.recorders id _ k).isActive = _
      rw [Function.update_of_ne hk]
  | complete nodeId path => exact wf.of_sessions rfl le_rfl le_rfl (fun _ => rfl) wf.keyed
  | reconnected nodeId detail => exact wf.of_sessions rfl le_rfl le_rfl (fun _ => rfl) wf.keyed

/-- Sessions are only added. -/
lemma Step.nextSession_le (h : Step crc32 c l c') : c.nextSession ≤ c'.nextSession := by
  cases h with
  | outside h => exact (h.field AppController.nextSession fun _ => rfl).ge
  | add _ _ _ _ => exact Nat.le_succ _
  | _ => exact le_rfl

/-- The step leaves the session with the given identity alone. -/
def Label.Spares (x : Nat) : Label → Prop
  | .session sid _ | .attach sid | .exportAttach sid | .drop sid => sid ≠ x
  | .reset | .write => False
  | _ => True

/-- The session with the given identity, and its recorders, stay as they are. -/
structure Keeps (x : Nat) (c c' : AppController) : Prop where
  sessions : ∀ s, s.sid = x → (s ∈ c'.sessions ↔ s ∈ c.sessions)
  recorders : ∀ s ∈ c.sessions, s.sid = x → ∀ id, s.Owns id → c'.recorders id = c.recorders id

/-- Nothing done leaves the session alone. -/
lemma Keeps.refl (x : Nat) (c : AppController) : Keeps x c c := ⟨fun _ _ => .rfl, fun _ _ _ _ _ => rfl⟩

/-- It is left alone one after the other. -/
lemma Keeps.trans {x : Nat} {a b c : AppController} (h : Keeps x a b) (h' : Keeps x b c) :
    Keeps x a c where
  sessions s hs := (h'.sessions s hs).trans (h.sessions s hs)
  recorders s hs hx id hid :=
    (h'.recorders s ((h.sessions s hx).mpr hs) hx id hid).trans (h.recorders s hs hx id hid)

/-- A change of another session leaves it alone. -/
lemma keeps_setSession {x : Nat} {R : Recorders} {bound : Nat} (live : s ∈ c.sessions)
    (hsid : s'.sid = s.sid) (hx : s.sid ≠ x)
    (other : ∀ t ∈ c.sessions, t.sid = x → ∀ id, t.Owns id → R id = c.recorders id) :
    Keeps x c ({ c with recorders := R, nextRecorder := bound }.setSession s') := by
  refine ⟨?_, other⟩
  intro t ht
  rw [AppController.mem_setSession (c := { c with recorders := R, nextRecorder := bound }) live hsid]
  constructor
  · intro h
    cases h with
    | inl heq => exact absurd (hsid ▸ heq ▸ ht) hx
    | inr h => exact h.1
  · exact fun h => .inr ⟨h, fun heq => hx (heq ▸ ht)⟩

/-- A step that spares a session keeps it. -/
theorem Step.keeps (h : Step crc32 c l c') (wf : WellFormed c) {x : Nat} (hl : l.Spares x)
    (hx : x < c.nextSession) : Keeps x c c' := by
  cases h with
  | outside h =>
    have hsessions := h.field AppController.sessions fun _ => rfl
    have hrecorders := h.field AppController.recorders fun _ => rfl
    exact ⟨fun s _ => by rw [hsessions], fun s _ _ id _ => by rw [hrecorders]⟩
  | session live h =>
    refine keeps_setSession live h.sid hl ?_
    intro t ht htx id hid
    exact h.other (wf.formed _ live) (wf.apart t ht _ live (fun heq => hl (heq ▸ htx)) id hid)
  | add nodeId peer kind accepted =>
    refine ⟨?_, fun _ _ _ _ _ => rfl⟩
    intro t ht
    rw [List.mem_append, List.mem_singleton]
    constructor
    · intro h
      cases h with
      | inl h => exact h
      | inr h =>
        rw [h] at ht
        -- a session added now has a number above `x`
        exact absurd hx (not_lt.mpr ht.le)
    · exact .inl
  | attach path live free =>
    rename_i s
    obtain ⟨lastError, heq⟩ := s.acquisition.setRecorder_some
      (Function.update c.recorders c.nextRecorder (startedRecorder path (c.deviceUuid s.nodeId)))
      c.nextRecorder
    rw [heq]
    dsimp only
    rw [Function.update_self, Function.update_idem]
    refine keeps_setSession live rfl hl ?_
    intro t ht _ id hid
    exact Function.update_of_ne ((wf.formed t ht).lt id hid).ne _ _
  | exportAttach path startedS uuid live free bound =>
    refine keeps_setSession live rfl hl ?_
    intro t ht _ id hid
    exact Function.update_of_ne ((wf.formed t ht).lt id hid).ne _ _
  | drop state reason gone live free marked =>
    refine ⟨?_, fun _ _ _ _ _ => rfl⟩
    intro t ht
    rw [List.mem_filter]
    constructor
    · exact fun h => h.1
    · intro h
      refine ⟨h, bne_iff_ne.mpr ?_⟩
      rw [ht]
      exact fun heq => hl heq.symm
  | reset => exact hl.elim
  | write id outcome => exact hl.elim
  | _ => exact ⟨fun _ _ => .rfl, fun _ _ _ _ _ => rfl⟩

end Keeps

end SensorHost.Presentation
