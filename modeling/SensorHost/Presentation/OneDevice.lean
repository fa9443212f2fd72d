import SensorHost.Acquisition.Devices
import SensorHost.Presentation.Paths
import SensorHost.Protocol.RoundTrip
import SensorHost.Storage.Disk

/-!
# One device for each file

What a recorder writes is of the device that it was started for: the session that has the recorder has
let no frame of another device pass (`OneDevice`, with one lemma for each step). What the path of the
recorder holds in the end is another matter, since the recorder of another device may be given the same
path. It then empties the file, and both write to it.

So the run is carried along with the disk (`stored`). As long as no two starts clash, each path is the
path of one recorder, and holds its stream (`disk_stream`).

A frame of another device ends its session and changes nothing else (`step_contradicted`), and a session
queues one identity update at most (`queuedUpdates_length`). `one_device` puts the three together.
-/

namespace SensorHost.Presentation
open SensorHost.Lib SensorHost.Protocol SensorHost.Storage SensorHost.Acquisition SensorHost.Ota
  SensorHost.Transport

variable {crc32 : Bytes → UInt32} {P : Label → Prop} {c c' : AppController}
  {s s' t : ManagedSession} {R R' : Recorders} {l : SessionLabel}

/-- Every recorder holds frames of its own device, and every session is that of one device. -/
structure OneDevice (crc32 : Bytes → UInt32) (c : AppController) : Prop where
  recorders : RecordersHold crc32 c.recorders
  sessions : ∀ s ∈ c.sessions, s.acquisition.OneDevice crc32 c.recorders

/-- Recorders that are for the devices they were for, as far as the connection has them. -/
lemma oneDevice_recorders {a : AcquisitionController} (h : a.OneDevice crc32 R)
    (hsame : ∀ id, a.recorder = some id ∨ a.archiveRecorder = some id →
      (R' id).deviceUuid = (R id).deviceUuid) : a.OneDevice crc32 R' where
  inbox := h.inbox
  deferred := h.deferred
  recorders id hid uuid huuid := h.recorders id hid uuid ((hsame id hid).symm.trans huuid)

/-- A recorder that is stopped is for the device it was for, and holds what it held. -/
lemma recordersHold_stop (hold : RecordersHold crc32 R) (id : Nat) (outcomes : List WriterOutcome) :
    RecordersHold crc32 (Function.update R id ((R id).drain outcomes).1) ∧
      ∀ k, (Function.update R id ((R id).drain outcomes).1 k).deviceUuid = (R k).deviceUuid := by
  have hfile := (R id).drain_file outcomes
  have huuid : ((R id).drain outcomes).1.deviceUuid = (R id).deviceUuid := congrArg Prod.snd hfile
  refine ⟨hold.update fun uuid h => (hold id uuid (huuid.symm.trans h)).drain outcomes, ?_⟩
  exact fun k => congrArg Prod.snd (file_update hfile k)

/-- A session step keeps the session to its device, and every recorder. -/
lemma SessionStep.oneDevice (h : SessionStep crc32 s R l s' R')
    (hs : s.acquisition.OneDevice crc32 R) (hold : RecordersHold crc32 R) :
    s'.acquisition.OneDevice crc32 R' ∧ RecordersHold crc32 R' ∧
      ∀ id, (R' id).deviceUuid = (R id).deviceUuid := by
  cases h with
  | read running handled chunk => exact ⟨hs.readChunk chunk, hold, fun _ => rfl⟩
  | handle running message =>
    obtain ⟨worker, transportOpen, heq, -⟩ := s.handled_eq R message
    obtain ⟨hnext, hnextHold⟩ := hs.handleNext hold
    rw [heq]
    exact ⟨hnext, hnextHold, fun id => congrArg Prod.snd (s.acquisition.handleNext_file R id)⟩
  | detach id attached outcomes =>
    obtain ⟨hstopped, hsame⟩ := recordersHold_stop hold id outcomes
    refine ⟨⟨hs.inbox, nofun, ?_⟩, hstopped, hsame⟩
    intro k hk uuid huuid
    refine hs.recorders k (hk.imp_left fun hnone => ?_) uuid ((hsame k).symm.trans huuid)
    cases hnone
  | cancelDeferral free => exact ⟨⟨hs.inbox, nofun, hs.recorders⟩, hold, fun _ => rfl⟩
  | exportDetach id attached cancel outcomes =>
    obtain ⟨hstopped, hsame⟩ := recordersHold_stop hold id outcomes
    refine ⟨⟨hs.inbox, hs.deferred, ?_⟩, hstopped, hsame⟩
    intro k hk uuid huuid
    refine hs.recorders k (hk.imp_right fun hnone => ?_) uuid ((hsame k).symm.trans huuid)
    cases hnone
  | _ => exact ⟨⟨hs.inbox, hs.deferred, hs.recorders⟩, hold, fun _ => rfl⟩

/-- A recorder that was just started holds nothing. -/
lemma holds_startedRecorder (path : Path) (deviceUuid : Option Uuid) (uuid : Uuid) :
    (startedRecorder path deviceUuid).Holds crc32 uuid :=
  ⟨nofun, [], nofun, .inl rfl⟩

/-- The device that the inventory has for a session is the one that the session has seen. -/
lemma Listed.deviceUuid (listed : Listed c) (live : s ∈ c.sessions) {uuid : Uuid}
    (bound : c.deviceUuid s.nodeId = some uuid) : s.acquisition.deviceUuid = some uuid := by
  unfold AppController.deviceUuid NodeSessionManager.summary at bound
  cases hnode : c.sessionIndex.requireNode s.nodeId with
  | error error =>
    rw [hnode] at bound
    cases bound
  | ok n =>
    rw [hnode] at bound
    obtain ⟨hmem, hid⟩ := NodeSessionManager.requireNode_ok hnode
    have hbound : n.deviceUuid = some uuid := bound
    obtain hnone | hseen := listed.known s live n hmem hid
    · rw [hbound] at hnone
      cases hnone
    · exact hseen.symm.trans hbound

/-- One session and the recorders change. -/
lemma OneDevice.setSession (hc : OneDevice crc32 c) (bound : Nat) (live : s ∈ c.sessions)
    (hsid : s'.sid = s.sid) (hold : RecordersHold crc32 R)
    (hs' : s'.acquisition.OneDevice crc32 R)
    (hothers : ∀ t ∈ c.sessions, t.sid ≠ s.sid → ∀ id,
      t.acquisition.recorder = some id ∨ t.acquisition.archiveRecorder = some id →
        (R id).deviceUuid = (c.recorders id).deviceUuid) :
    OneDevice crc32 ({ c with recorders := R, nextRecorder := bound }.setSession s') := by
  refine ⟨hold, ?_⟩
  intro t ht
  cases (AppController.mem_setSession (c := { c with recorders := R, nextRecorder := bound })
    live hsid).mp ht with
  | inl heq =>
    rw [heq]
    exact hs'
  | inr hother => exact oneDevice_recorders (hc.sessions t hother.1) (hothers t hother.1 hother.2)

/-- A fresh recorder is started for the device of a session. -/
lemma OneDevice.attach (hc : OneDevice crc32 c) (wf : WellFormed c) (live : s ∈ c.sessions)
    (hsid : s'.sid = s.sid) {r : RawSessionRecorder}
    (hr : ∀ uuid, r.deviceUuid = some uuid → r.Holds crc32 uuid)
    (hs' : s'.acquisition.OneDevice crc32 (Function.update c.recorders c.nextRecorder r)) :
    OneDevice crc32 ({ c with
      recorders := Function.update c.recorders c.nextRecorder r
      nextRecorder := c.nextRecorder + 1 }.setSession s') := by
  refine hc.setSession _ live hsid (hc.recorders.update hr) hs' ?_
  intro t ht _ id hid
  have formed := wf.formed t ht
  rw [formed.recorder, formed.archive] at hid
  rw [Function.update_of_ne (formed.lt id hid).ne]

/-- Every step keeps files and sessions to their devices. -/
theorem Step.oneDevice {l : Label} (h : Step crc32 c l c') (wf : WellFormed c)
    (hc : OneDevice crc32 c)
    (hlisted : (∃ sid, l = .attach sid ∨ l = .exportAttach sid) → Listed c) : OneDevice crc32 c' := by
  cases h with
  | outside h =>
    have hsessions := h.field AppController.sessions fun _ => rfl
    have hrecorders := h.field AppController.recorders fun _ => rfl
    refine ⟨?_, ?_⟩
    · rw [hrecorders]
      exact hc.recorders
    · rw [hsessions, hrecorders]
      exact hc.sessions
  | session live h =>
    obtain ⟨hs', hold, hsame⟩ := h.oneDevice (hc.sessions _ live) hc.recorders
    exact hc.setSession c.nextRecorder live h.sid hold hs' fun _ _ _ id _ => hsame id
  | add nodeId peer kind accepted =>
    refine ⟨hc.recorders, ?_⟩
    intro t ht
    cases List.mem_append.mp ht with
    | inl hold => exact hc.sessions t hold
    | inr hnew =>
      rw [List.mem_singleton.mp hnew]
      unfold AppController.newSession
      dsimp only
      split
      · exact AcquisitionController.oneDevice_fresh rfl rfl rfl rfl
      · exact AcquisitionController.oneDevice_fresh rfl rfl rfl rfl
  | bind uuid live seen accepted => exact ⟨hc.recorders, hc.sessions⟩
  | attach path live free =>
    rename_i s
    have listed := hlisted ⟨_, .inl rfl⟩
    have hs := hc.sessions s live
    obtain ⟨lastError, heq⟩ := s.acquisition.setRecorder_some
      (Function.update c.recorders c.nextRecorder (startedRecorder path (c.deviceUuid s.nodeId)))
      c.nextRecorder
    have hkept : (AcquisitionController.submitBacklog (startedRecorder path (c.deviceUuid s.nodeId))
        s.acquisition.deferredRecordingFrames).1.deviceUuid = c.deviceUuid s.nodeId :=
      congrArg Prod.snd
        (AcquisitionController.submitBacklog_kept RawSessionRecorder.submit_file _ _)
    rw [heq]
    dsimp only
    rw [Function.update_self, Function.update_idem]
    refine hc.attach wf live ?_ ?_ ⟨hs.inbox, fun _ hmem => (List.not_mem_nil hmem).elim, ?_⟩
    · rfl
    · intro uuid huuid
      -- the file is opened for the UUID of the node, which is the one its frames carry
      have hseen := listed.deviceUuid live (hkept.symm.trans huuid)
      exact AcquisitionController.holds_submitBacklog (holds_startedRecorder path _ uuid)
        fun chunk hchunk => hseen ▸ hs.deferred chunk hchunk
    · intro id hid uuid huuid
      -- the backlog goes to the new file and to no other
      by_cases hnew : id = c.nextRecorder
      · rw [hnew, Function.update_self, hkept] at huuid
        exact listed.deviceUuid live huuid
      · rw [Function.update_of_ne hnew] at huuid
        refine hs.recorders id (hid.imp_left fun hself => ?_) uuid huuid
        exact absurd (Option.some.inj hself).symm hnew
  | exportAttach path startedS uuid live free bound =>
    rename_i s
    have listed := hlisted ⟨_, .inr rfl⟩
    have hs := hc.sessions s live
    refine hc.attach wf live ?_ ?_ ⟨hs.inbox, hs.deferred, ?_⟩
    · rfl
    · exact fun uuid' _ => holds_startedRecorder path (some uuid) uuid'
    · intro id hid uuid' huuid
      by_cases hnew : id = c.nextRecorder
      · rw [hnew, Function.update_self] at huuid
        exact (listed.deviceUuid live bound).trans huuid
      · rw [Function.update_of_ne hnew] at huuid
        refine hs.recorders id (hid.imp_right fun hself => ?_) uuid' huuid
        exact absurd (Option.some.inj hself).symm hnew
  | drop _ _ _ _ _ _ => exact ⟨hc.recorders, fun t ht => hc.sessions t (List.mem_of_mem_filter ht)⟩
  | reset => exact ⟨hc.recorders, fun t ht => by cases ht⟩
  | write id outcome =>
    have hfile := (c.recorders id).writerStep_file outcome
    have huuid : ((c.recorders id).writerStep outcome).deviceUuid = (c.recorders id).deviceUuid :=
      congrArg Prod.snd hfile
    refine ⟨hc.recorders.update fun uuid h =>
      (hc.recorders id uuid (huuid.symm.trans h)).writerStep outcome, ?_⟩
    intro t ht
    refine oneDevice_recorders (hc.sessions t ht) ?_
    intro k _
    exact congrArg Prod.snd (file_update hfile k)
  | _ => exact ⟨hc.recorders, hc.sessions⟩

/-- Every event keeps files and sessions to their devices. -/
lemma oneDevice_step (e : Event) (hc : OneDevice crc32 c) (listed : Listed c) (wf : WellFormed c) :
    OneDevice crc32 (c.step crc32 e) := by
  -- either nothing is attached, or the inventory is right throughout
  have hattached : e.labels.contains (.attach 0) = false →
      e.labels.contains (.exportAttach 0) = false → OneDevice crc32 (c.step crc32 e) := by
    intro hattach hexport
    refine Chain.invariant (I := OneDevice crc32) ?_ (step_leads e wf) wf hc
    intro a l b wfa ha hl hstep
    refine hstep.oneDevice wfa ha ?_
    rintro ⟨sid, rfl | rfl⟩
    · exact absurd (hattach.symm.trans hl) Bool.false_ne_true
    · exact absurd (hexport.symm.trans hl) Bool.false_ne_true
  have hlisted : e.labels.contains .reset = false → e.labels.contains .unlist = false →
      OneDevice crc32 (c.step crc32 e) := by
    intro hreset hunlist
    have hboth : Listed (c.step crc32 e) ∧ OneDevice crc32 (c.step crc32 e) := by
      refine Chain.invariant (I := fun d => Listed d ∧ OneDevice crc32 d) ?_ (step_leads e wf) wf
        ⟨listed, hc⟩
      intro a l b wfa ha hl hstep
      refine ⟨hstep.listed wfa ha.1 ?_, hstep.oneDevice wfa ha.2 fun _ => ha.1⟩
      intro hdisconnects
      cases l with
      | reset => exact Bool.false_ne_true (hreset.symm.trans hl)
      | unlist => exact Bool.false_ne_true (hunlist.symm.trans hl)
      | _ => exact hdisconnects
    exact hboth.2
  cases e with
  | operation h o =>
    cases o with
    | disconnectDevice => exact hattached rfl rfl
    | stopWifiServer => exact hattached rfl rfl
    | sendCommand command =>
      exact hlisted (commandLabels_keep command).1 (commandLabels_keep command).2
    | sendCommandTo nodeId command =>
      exact hlisted (commandLabels_keep command).1 (commandLabels_keep command).2
    | _ => exact hlisted rfl rfl
  | _ => exact hlisted rfl rfl

/-- There is no recorder and no session at first. -/
lemma oneDevice_initial (crc32 : Bytes → UInt32) (aliases : List (Text × Text)) :
    OneDevice crc32 (AppController.initial aliases) := by
  refine ⟨?_, ?_⟩
  · intro id uuid huuid
    cases huuid
  · intro s hs
    cases hs

/-- In every run files and sessions keep to their devices. -/
lemma oneDevice_run (crc32 : Bytes → UInt32) (aliases : List (Text × Text)) (events : List Event) :
    OneDevice crc32 (AppController.run crc32 aliases events) := by
  suffices hrun : (WellFormed (AppController.run crc32 aliases events) ∧
      Listed (AppController.run crc32 aliases events)) ∧
      OneDevice crc32 (AppController.run crc32 aliases events) from hrun.2
  refine runFrom_invariant (I := fun c => (WellFormed c ∧ Listed c) ∧ OneDevice crc32 c) ?_
    ⟨⟨wellFormed_initial aliases, listed_initial aliases⟩, oneDevice_initial crc32 aliases⟩ events
  intro c e hc
  exact ⟨⟨wellFormed_step crc32 e hc.1.1, listed_step e hc.1.2 hc.1.1⟩,
    oneDevice_step e hc.2 hc.1.2 hc.1.1⟩

/-- The session behind a frame of another device. -/
def ManagedSession.contradicted (s : ManagedSession) (frames : List Frame) (expected observed : Uuid) :
    ManagedSession :=
  { s with
    acquisition := { s.acquisition with inbox := frames }
    worker := .failing ("connection changed UUID from ".toList ++ uuidText expected ++
      " to ".toList ++ uuidText observed)
    transportOpen := false }

/-- A frame of another device ends the worker, and changes nothing else. -/
lemma step_contradicted (crc32 : Bytes → UInt32) (wf : WellFormed c) (live : s ∈ c.sessions) (running : s.worker = .running)
    {frame : Frame} {frames : List Frame} {expected observed : Uuid} (message : Text)
    (hinbox : s.acquisition.inbox = frame :: frames)
    (hknown : s.acquisition.deviceUuid = some expected)
    (hseen : frame.deviceUuid = some observed) (hne : observed ≠ expected) :
    c.step crc32 (.handle s.sid message) =
      c.setSession (s.contradicted frames expected observed) := by
  have hcontradicts : ¬ AcquisitionController.Accepts
      { s.acquisition with inbox := frames }.deviceUuid frame.deviceUuid := by
    intro haccepts
    cases haccepts observed hseen with
    | inl hnone =>
      rw [show s.acquisition.deviceUuid = none from hnone] at hknown
      cases hknown
    | inr hsame => exact hne (Option.some.inj (hsame.symm.trans hknown))
  obtain ⟨expected', observed', hexpected, hobserved, -, hframe⟩ :
      ∃ expected observed, { s.acquisition with inbox := frames }.deviceUuid = some expected ∧
        frame.deviceUuid = some observed ∧ expected ≠ observed ∧
        { s.acquisition with inbox := frames }.handleFrame c.recorders frame =
          ({ s.acquisition with inbox := frames }, c.recorders,
            some (.deviceIdentity expected observed)) :=
    AcquisitionController.handleFrame_refused hcontradicts
  cases hexpected.symm.trans hknown
  cases hobserved.symm.trans hseen
  have hnext : s.acquisition.handleNext c.recorders = ({ s.acquisition with inbox := frames },
      c.recorders, some (.deviceIdentity expected observed)) := by
    unfold AcquisitionController.handleNext
    rw [hinbox]
    dsimp only
    rw [hframe]
  have hhandled : s.handled c.recorders message =
      (s.contradicted frames expected observed, c.recorders) := by
    unfold ManagedSession.handled
    rw [hnext]
    rfl
  rw [step_handle, wf.sessionBySid? live]
  dsimp only
  rw [if_pos running, hhandled]

/-- The worker of the session does not run, and no other session will have its name. -/
def Ended (sid : Nat) (c : AppController) : Prop :=
  sid < c.nextSession ∧ ∀ t ∈ c.sessions, t.sid = sid → t.worker ≠ .running

/-- A worker that has ended does not run again. -/
lemma Change.ended {l : Label} (h : Change crc32 c l s t) (ended : s.worker ≠ .running) :
    t.worker ≠ .running := by
  cases h with
  | session hl h =>
    cases h with
    | thread worker transportOpen stopRequested failure hends =>
      obtain hsame | hother := hends
      · exact hsame ▸ ended
      · exact hother
    | send running => exact absurd running ended
    | read running handled chunk => exact absurd running ended
    | handle running message => exact absurd running ended
    | _ => exact ended
  | _ => exact ended

/-- A session that has ended stays so. -/
lemma ended_step {sid : Nat} (e : Event) (wf : WellFormed c) (ended : Ended sid c) :
    Ended sid (c.step crc32 e) := by
  refine Chain.invariant (I := Ended sid) ?_ (step_leads e wf) wf ended
  intro a l b _ ha _ hstep
  refine ⟨ha.1.trans_le hstep.nextSession_le, ?_⟩
  intro t ht htsid
  cases hstep.change ht with
  | inl hold =>
    obtain ⟨u, hu, hchange⟩ := hold
    exact hchange.ended (ha.2 u hu (hchange.sid.symm.trans htsid))
  | inr hnew =>
    obtain ⟨-, nodeId, peer, kind, rfl⟩ := hnew
    exact absurd htsid ha.1.ne'

/-- The events of a worker that has ended do nothing. -/
lemma Ended.onWorker {sid : Nat} (ended : Ended sid c)
    (f : AppController → ManagedSession → AppController) : c.onWorker sid f = c := by
  unfold AppController.onWorker AppController.onSession
  cases hsession : c.sessionBySid? sid with
  | none => rfl
  | some s =>
    obtain ⟨live, hsid⟩ := sessionBySid?_some hsession
    exact if_neg (ended.2 s live hsid)

/-- It does in every run. -/
lemma Ended.run {sid : Nat} (ended : Ended sid c) (wf : WellFormed c) (later : List Event) :
    Ended sid (runFrom (AppController.step crc32) c later) := by
  have hboth : WellFormed (runFrom (AppController.step crc32) c later) ∧
      Ended sid (runFrom (AppController.step crc32) c later) := by
    refine runFrom_invariant (I := fun d => WellFormed d ∧ Ended sid d) ?_ ⟨wf, ended⟩ later
    exact fun d e hd => ⟨wellFormed_step crc32 e hd.1, ended_step e hd.1 hd.2⟩
  exact hboth.2

/-- A frame of another device ends the session. -/
lemma ended_contradicted (wf : WellFormed c) (live : s ∈ c.sessions) (frames : List Frame)
    (expected observed : Uuid) :
    Ended s.sid (c.setSession (s.contradicted frames expected observed)) := by
  refine ⟨wf.lt s live, ?_⟩
  intro t ht htsid
  have hsid : (s.contradicted frames expected observed).sid = s.sid := rfl
  cases (AppController.mem_setSession live hsid).mp ht with
  | inl heq =>
    rw [heq]
    exact nofun
  | inr hother => exact absurd htsid hother.2

namespace AppController

/-- The identity updates that wait at a connection. -/
def identityUpdates (c : AppController) (sid : Nat) : List Uuid :=
  ((c.sessionBySid? sid).map fun s => s.acquisition.identityUpdates).getD []

/-- The identity updates that a run queues at a connection, behind those that wait. -/
def queuedUpdates (crc32 : Bytes → UInt32) (sid : Nat) : AppController → List Event → List Uuid
  | _, [] => []
  | c, e :: events =>
    ((c.step crc32 e).identityUpdates sid).drop (c.identityUpdates sid).length ++
      queuedUpdates crc32 sid (c.step crc32 e) events

end AppController

/-- The connection can still learn its identity. -/
def CanLearn (sid : Nat) (c : AppController) : Prop :=
  c.nextSession ≤ sid ∨ ∃ s ∈ c.sessions, s.sid = sid ∧ s.acquisition.deviceUuid = none

/-- What a session knows of its device and has queued comes from what it knew and had queued: its
identity is learned once, and what is queued may be taken. -/
inductive Identifies (a b : AcquisitionController) : Prop
  | same (known : b.deviceUuid = a.deviceUuid)
      (queued : b.identityUpdates = a.identityUpdates ∨ b.identityUpdates = [])
  | learned (uuid : Uuid) (fresh : a.deviceUuid = none) (known : b.deviceUuid = some uuid)
      (queued : b.identityUpdates = a.identityUpdates ++ [uuid])

/-- A step that handles no frame teaches no identity. -/
lemma Change.identifies {l : Label} (h : Change crc32 c l s t) (hl : l ≠ .session s.sid .handle) :
    t.acquisition.deviceUuid = s.acquisition.deviceUuid ∧
      (t.acquisition.identityUpdates = s.acquisition.identityUpdates ∨
        t.acquisition.identityUpdates = []) := by
  cases h with
  | session heq h =>
    cases h with
    | read running handled chunk =>
      exact ⟨AcquisitionController.readChunk_field AcquisitionController.deviceUuid (fun _ => rfl)
          crc32 s.acquisition chunk,
        .inl (AcquisitionController.readChunk_field AcquisitionController.identityUpdates
          (fun _ => rfl) crc32 s.acquisition chunk)⟩
    | handle running message => exact absurd heq hl
    | identities => exact ⟨rfl, .inr rfl⟩
    | _ => exact ⟨rfl, .inl rfl⟩
  | _ => exact ⟨rfl, .inl rfl⟩

/-- A session behind a chain that handles no frame is new, or knows what it knew. -/
lemma Chain.identifies (hchain : Chain crc32 P c c') (wf : WellFormed c)
    (hP : ∀ sid, ¬ P (.session sid .handle)) : ∀ t ∈ c'.sessions,
    (∃ s ∈ c.sessions, s.sid = t.sid ∧ Identifies s.acquisition t.acquisition) ∨
      c.nextSession ≤ t.sid ∧ t.acquisition.deviceUuid = none ∧ t.acquisition.identityUpdates = [] := by
  have hall : c.nextSession ≤ c'.nextSession ∧ ∀ t ∈ c'.sessions,
      (∃ s ∈ c.sessions, s.sid = t.sid ∧ t.acquisition.deviceUuid = s.acquisition.deviceUuid ∧
        (t.acquisition.identityUpdates = s.acquisition.identityUpdates ∨
          t.acquisition.identityUpdates = [])) ∨
      c.nextSession ≤ t.sid ∧ t.acquisition.deviceUuid = none ∧
        t.acquisition.identityUpdates = [] := by
    refine Chain.invariant (I := fun d => c.nextSession ≤ d.nextSession ∧ ∀ t ∈ d.sessions,
      (∃ s ∈ c.sessions, s.sid = t.sid ∧ t.acquisition.deviceUuid = s.acquisition.deviceUuid ∧
        (t.acquisition.identityUpdates = s.acquisition.identityUpdates ∨
          t.acquisition.identityUpdates = [])) ∨
      c.nextSession ≤ t.sid ∧ t.acquisition.deviceUuid = none ∧
        t.acquisition.identityUpdates = []) ?_ hchain wf
      ⟨le_rfl, fun t ht => .inl ⟨t, ht, rfl, rfl, .inl rfl⟩⟩
    intro a l b _ ha hl hstep
    refine ⟨ha.1.trans hstep.nextSession_le, ?_⟩
    intro t ht
    cases hstep.change ht with
    | inl hold =>
      obtain ⟨u, hu, hchange⟩ := hold
      obtain ⟨hknown, hqueued⟩ := hchange.identifies fun heq => hP u.sid (heq ▸ hl)
      rw [hchange.sid, hknown]
      obtain ⟨s, hs, hsid, hsknown, hsqueued⟩ | ⟨hfresh, hnone, hnil⟩ := ha.2 u hu
      · refine .inl ⟨s, hs, hsid, hsknown, ?_⟩
        -- taking the queue empties it, nothing else but a frame adds to it
        obtain hsame | hdrained := hqueued
        · rw [hsame]
          exact hsqueued
        · exact .inr hdrained
      · refine .inr ⟨hfresh, hnone, ?_⟩
        obtain hsame | hdrained := hqueued
        · exact hsame.trans hnil
        · exact hdrained
    | inr hnew =>
      obtain ⟨-, nodeId, peer, kind, rfl⟩ := hnew
      refine .inr ⟨ha.1, ?_⟩
      unfold AppController.newSession
      dsimp only
      split
      · exact ⟨rfl, rfl⟩
      · exact ⟨rfl, rfl⟩
  intro t ht
  obtain ⟨s, hs, hsid, hknown, hqueued⟩ | hnew := hall.2 t ht
  · exact .inl ⟨s, hs, hsid, .same hknown hqueued⟩
  · exact .inr hnew

/-- A session behind an event is new, or its identity comes from what it was. -/
lemma identifies_step (e : Event) (wf : WellFormed c) : ∀ t ∈ (c.step crc32 e).sessions,
    (∃ s ∈ c.sessions, s.sid = t.sid ∧ Identifies s.acquisition t.acquisition) ∨
      c.nextSession ≤ t.sid ∧ t.acquisition.deviceUuid = none ∧ t.acquisition.identityUpdates = [] := by
  have hleads : Leads crc32 e.Allows c (c.step crc32 e) := step_leads e
  have hchain : e.labels.contains (.session 0 .handle) = false → _ :=
    fun hlabels => (hleads wf).identifies wf
      fun sid h => Bool.false_ne_true (hlabels.symm.trans h)
  cases e with
  | handle sid message =>
    intro t ht
    left
    have hsame : t ∈ c.sessions →
        ∃ s ∈ c.sessions, s.sid = t.sid ∧ Identifies s.acquisition t.acquisition :=
      fun hmem => ⟨t, hmem, rfl, .same rfl (.inl rfl)⟩
    rw [step_handle] at ht
    cases hsession : c.sessionBySid? sid with
    | none =>
      rw [hsession] at ht
      exact hsame ht
    | some s =>
      obtain ⟨live, rfl⟩ := sessionBySid?_some hsession
      rw [hsession] at ht
      dsimp only at ht
      split at ht
      · obtain ⟨worker, transportOpen, heq, -⟩ := s.handled_eq c.recorders message
        have hsid : (s.handled c.recorders message).1.sid = s.sid := by rw [heq]
        cases (AppController.mem_setSession
          (c := { c with recorders := (s.handled c.recorders message).2 }) live hsid).mp ht with
        | inl hnow =>
          refine ⟨s, live, by rw [hnow, hsid], ?_⟩
          rw [hnow, heq]
          have hlearns := s.acquisition.handleNext_learns c.recorders
          generalize hnext : (s.acquisition.handleNext c.recorders).1 = a at hlearns
          unfold AcquisitionController.Learns at hlearns
          generalize hknown : s.acquisition.deviceUuid = known at hlearns
          generalize hqueued : s.acquisition.identityUpdates = updates at hlearns
          generalize hknown' : a.deviceUuid = known' at hlearns
          generalize hqueued' : a.identityUpdates = updates' at hlearns
          -- a frame teaches the UUID only where none is known
          cases hlearns with
          | same => exact .same (hknown'.trans hknown.symm) (.inl (hqueued'.trans hqueued.symm))
          | learned uuid =>
            exact .learned uuid hknown hknown' (hqueued'.trans (congrArg (· ++ [uuid]) hqueued.symm))
        | inr hother => exact hsame hother.1
      · exact hsame ht
  | operation h o =>
    cases o with
    | sendCommand command =>
      refine hchain ?_
      show (commandLabels command).contains _ = false
      unfold commandLabels
      split
      · rfl
      · rfl
    | sendCommandTo nodeId command =>
      refine hchain ?_
      show (commandLabels command).contains _ = false
      unfold commandLabels
      split
      · rfl
      · rfl
    | _ => exact hchain rfl
  | _ => exact hchain rfl

/-- The updates of a session are those of its connection. -/
lemma WellFormed.identityUpdates (wf : WellFormed c) (live : s ∈ c.sessions) :
    c.identityUpdates s.sid = s.acquisition.identityUpdates := by
  unfold AppController.identityUpdates
  rw [wf.sessionBySid? live]
  rfl

/-- An event queues nothing, or it teaches the connection its identity and queues that. -/
lemma queued_step (crc32 : Bytes → UInt32) (sid : Nat) (e : Event) (wf : WellFormed c) :
    ((c.step crc32 e).identityUpdates sid).drop (c.identityUpdates sid).length = [] ∧
        (CanLearn sid (c.step crc32 e) → CanLearn sid c) ∨
      (∃ uuid, ((c.step crc32 e).identityUpdates sid).drop (c.identityUpdates sid).length = [uuid]) ∧
        CanLearn sid c ∧ ¬ CanLearn sid (c.step crc32 e) := by
  have hwf := wellFormed_step crc32 e wf
  have hle : c.nextSession ≤ (c.step crc32 e).nextSession := ((step_leads e) wf).nextSession_le
  cases hsession : (c.step crc32 e).sessionBySid? sid with
  | none =>
    have hnil : (c.step crc32 e).identityUpdates sid = [] := by
      unfold AppController.identityUpdates
      rw [hsession]
      rfl
    refine .inl ⟨by rw [hnil, List.drop_nil], ?_⟩
    rintro (hnew | ⟨t, ht, rfl, -⟩)
    · exact .inl (hle.trans hnew)
    · rw [hwf.sessionBySid? ht] at hsession
      cases hsession
  | some t =>
    obtain ⟨live, rfl⟩ := sessionBySid?_some hsession
    have hone : CanLearn t.sid (c.step crc32 e) → t.acquisition.deviceUuid = none := by
      rintro (hnew | ⟨u, hu, husid, hfresh⟩)
      · exact absurd (hwf.lt t live) (not_lt.mpr hnew)
      · exact hwf.eq_of_sid hu live husid ▸ hfresh
    rw [hwf.identityUpdates live]
    obtain ⟨s, hs, hsid, hidentifies⟩ | ⟨hfresh, -, hnil⟩ := identifies_step e wf t live
    · rw [← hsid, wf.identityUpdates hs]
      cases hidentifies with
      | same known queued =>
        refine .inl ⟨?_, fun hlearn => .inr ⟨s, hs, rfl, ?_⟩⟩
        · obtain hsame | hdrained := queued
          · rw [hsame, List.drop_length]
          · rw [hdrained, List.drop_nil]
        · exact known.symm.trans (hone (hsid ▸ hlearn))
      | learned uuid fresh known queued =>
        -- the session has learned its UUID now, and cannot learn one again
        refine .inr ⟨⟨uuid, by rw [queued, List.drop_left]⟩, .inr ⟨s, hs, rfl, fresh⟩, ?_⟩
        intro hlearn
        rw [hone (hsid ▸ hlearn)] at known
        cases known
    · exact .inl ⟨by rw [hnil, List.drop_nil], fun _ => .inl hfresh⟩

/-- A run queues one identity update at most, and none at a connection that knows its identity. -/
lemma queuedUpdates_length (sid : Nat) (events : List Event) (wf : WellFormed c) :
    (c.queuedUpdates crc32 sid events).length ≤ 1 ∧
      (¬ CanLearn sid c → c.queuedUpdates crc32 sid events = []) := by
  induction events generalizing c with
  | nil => exact ⟨Nat.zero_le 1, fun _ => rfl⟩
  | cons e events ih =>
    obtain ⟨hlength, hnone⟩ := ih (wellFormed_step crc32 e wf)
    unfold AppController.queuedUpdates
    obtain ⟨hnil, hlearn⟩ | ⟨⟨uuid, hone⟩, hcan, hcannot⟩ := queued_step crc32 sid e wf
    · rw [hnil, List.nil_append]
      exact ⟨hlength, fun hcannot => hnone fun h => hcannot (hlearn h)⟩
    · rw [hone, hnone hcannot]
      exact ⟨le_rfl, fun h => absurd hcan h⟩

/-- The bytes begin a sequence of frames of no other device, and so read back have no frame of
another. -/
def OfDevice (crc32 : Bytes → UInt32) (uuid : Uuid) (content : Bytes) : Prop :=
  (∃ frames : List (ValidFrame crc32), (∀ f ∈ frames, f.From (some uuid)) ∧
    content <+: bytesOf frames) ∧
  ∀ (decodeSensorPayload : Bool) (chunks : List Bytes), chunks.flatten = content →
    ∀ frame ∈ (StreamParser.feedAll crc32 { decodeSensorPayload := decodeSensorPayload } chunks).2,
      ∀ observed, frame.deviceUuid = some observed → observed = uuid

/-- What a recorder has written is of its device. -/
lemma ofDevice_stream {r : RawSessionRecorder} {uuid : Uuid} (h : r.Holds crc32 uuid) :
    OfDevice crc32 uuid r.stream := by
  obtain ⟨frames, hfrom, hprefix⟩ := h.begins
  refine ⟨⟨frames, hfrom, hprefix⟩, ?_⟩
  intro decodeSensorPayload chunks hchunks frame hframe observed hobserved
  rw [feedAll_eq_feed, hchunks] at hframe
  obtain ⟨f, hf, hreads⟩ := feed_prefix decodeSensorPayload frames hprefix frame hframe
  have hsame := hfrom f hf observed (hreads.deviceUuid.symm.trans hobserved)
  exact (Option.some.inj hsame).symm

namespace AppController

/-- The disk behind an event: in it each recorder has its turn. Where recorders share no path, the order
of their turns makes no difference. -/
def stored (F : Spelling) (crc32 : Bytes → UInt32) (c : AppController) (disk : Disk) (e : Event) :
    Disk :=
  turns F.path (c.step crc32 e).nextRecorder c.recorders (c.step crc32 e).recorders disk

/-- The controller and the disk behind a sequence of events. The disk is empty at first. -/
def runOnDisk (F : Spelling) (crc32 : Bytes → UInt32) (aliases : List (Text × Text))
    (events : List Event) : AppController × Disk :=
  runFrom (watched (step crc32) (stored F crc32)) (initial aliases, fun _ => []) events

/-- What the path of a recorder holds. -/
def onDisk (F : Spelling) (x : AppController × Disk) (id : Nat) : Bytes :=
  x.2 (F.path (x.1.recorders id).path)

end AppController

/-- A recorder has its file as long as it is there, and those that are not there have none. -/
lemma Book.Leads.files {b b' : Book} (h : b.Leads b') :
    b.nextRecorder ≤ b'.nextRecorder ∧ ∀ id < b.nextRecorder, b'.files id = b.files id := by
  induction h with
  | refl => exact ⟨le_rfl, fun _ _ => rfl⟩
  | tail _ hstep ih =>
    obtain ⟨f, opens, -, rfl⟩ := hstep
    obtain ⟨hle, hkept⟩ := ih
    refine ⟨Nat.le_succ_of_le hle, fun id hid => ?_⟩
    rw [← hkept id hid]
    unfold Book.start
    dsimp only
    split
    · exact Function.update_of_ne (hid.trans_le hle).ne _ _
    · rfl

/-- A file that is for a device has a path. -/
lemma Book.Leads.opened {b b' : Book} (h : b.Leads b')
    (hb : ∀ id, (b.files id).2.isSome = true → (b.files id).1 ≠ []) :
    ∀ id, (b'.files id).2.isSome = true → (b'.files id).1 ≠ [] := by
  induction h with
  | refl => exact hb
  | @tail b' _ _ hstep ih =>
    obtain ⟨f, opens, -, rfl⟩ := hstep
    intro id hid
    unfold Book.start at hid ⊢
    dsimp only at hid ⊢
    split at hid
    · rename_i hopens
      rw [if_pos hopens]
      by_cases hnew : id = b'.nextRecorder
      · rw [hnew, Function.update_self]
        exact f.path_ne_nil
      · rw [Function.update_of_ne hnew] at hid ⊢
        exact ih id hid
    · rename_i hopens
      rw [if_neg hopens]
      exact ih id hid

/-- No two recorders have paths that the file system takes for one. -/
def Apart (F : Spelling) (c : AppController) : Prop :=
  ∀ i j, i ≠ j → (c.recorders i).path ≠ [] → (c.recorders j).path ≠ [] →
    F.path (c.recorders i).path ≠ F.path (c.recorders j).path

/-- The recorders that are not there yet have no path. -/
lemma run_fresh (crc32 : Bytes → UInt32) (aliases : List (Text × Text)) (events : List Event) :
    ∀ id, ((AppController.run crc32 aliases events).recorders id).path ≠ [] →
      id < (AppController.run crc32 aliases events).nextRecorder := by
  obtain ⟨starts, hstarts⟩ := (run_book crc32 aliases events).starts
  intro id hpath
  by_contra hid
  exact hpath ((hstarts.paths rfl (fun kind uuid => by cases kind <;> rfl) fun _ => rfl).2 id
    (not_lt.mp hid))

/-- Started paths that are told apart are those of the recorders. -/
lemma apart_of_nodup (F : Spelling) {events : List Event} {aliases : List (Text × Text)}
    (h : ((AppController.run crc32 aliases events).startedPaths.map F.path).Nodup) :
    Apart F (AppController.run crc32 aliases events) := by
  have hfresh := run_fresh crc32 aliases events
  revert h hfresh
  generalize AppController.run crc32 aliases events = c
  intro h hfresh
  unfold AppController.startedPaths Book.paths at h
  rw [List.Nodup, List.pairwise_map, List.pairwise_filter, List.pairwise_map] at h
  intro i j hne hi hj
  have hsymm : Std.Symm fun i j : Nat => decide ((c.book.files i).1 ≠ []) = true →
      decide ((c.book.files j).1 ≠ []) = true →
        F.path (c.book.files i).1 ≠ F.path (c.book.files j).1 :=
    ⟨fun i j hij hj hi => (hij hi hj).symm⟩
  exact h.forall (List.mem_range.mpr (hfresh i hi)) (List.mem_range.mpr (hfresh j hj)) hne
    (decide_eq_true hi) (decide_eq_true hj)

/-- An event leaves the streams at the paths, if the paths behind it are told apart. -/
lemma stored_stream (F : Spelling) (e : Event) (wf : WellFormed c) {disk : Disk}
    (hold : ∀ id, (c.recorders id).path ≠ [] → id < c.nextRecorder)
    (hnew : ∀ id, ((c.step crc32 e).recorders id).path ≠ [] → id < (c.step crc32 e).nextRecorder)
    (apart : Apart F (c.step crc32 e))
    (hdisk : Apart F c → ∀ id, (c.recorders id).path ≠ [] →
      disk (F.path (c.recorders id).path) = (c.recorders id).stream) :
    ∀ id, ((c.step crc32 e).recorders id).path ≠ [] →
      c.stored F crc32 disk e (F.path ((c.step crc32 e).recorders id).path) =
        ((c.step crc32 e).recorders id).stream := by
  have hkept := (step_book crc32 e wf.nodup).files.2
  have hpath : ∀ id, (c.recorders id).path ≠ [] →
      ((c.step crc32 e).recorders id).path = (c.recorders id).path :=
    fun id hid => congrArg Prod.fst (hkept id (hold id hid))
  have hbefore : Apart F c := by
    intro i j hne hi hj
    rw [← hpath i hi, ← hpath j hj]
    refine apart i j hne ?_ ?_
    · rw [hpath i hi]
      exact hi
    · rw [hpath j hj]
      exact hj
  intro id hopen
  refine turns_sole (hnew id hopen) hopen ?_ ?_
  · exact fun k _ hne hk => apart k id hne hk hopen
  · intro hfirst
    rw [hpath id hfirst]
    exact hdisk hbefore id hfirst

/-- Each recorder of a run whose paths are told apart finds its stream at its path. -/
theorem disk_stream (F : Spelling) (crc32 : Bytes → UInt32) (aliases : List (Text × Text))
    (events : List Event) :
    Apart F (AppController.run crc32 aliases events) →
    ∀ id, ((AppController.run crc32 aliases events).recorders id).path ≠ [] →
      (AppController.runOnDisk F crc32 aliases events).2
          (F.path ((AppController.run crc32 aliases events).recorders id).path) =
        ((AppController.run crc32 aliases events).recorders id).stream := by
  induction events using List.reverseRecOn with
  | nil => exact fun _ id hpath => absurd rfl hpath
  | append_singleton events e ih =>
    have hnew := run_fresh crc32 aliases (events ++ [e])
    have hrun : AppController.run crc32 aliases (events ++ [e]) =
        (AppController.run crc32 aliases events).step crc32 e := runFrom_append _ _ _ _
    have hdisk : (AppController.runOnDisk F crc32 aliases (events ++ [e])).2 =
        (AppController.run crc32 aliases events).stored F crc32
          (AppController.runOnDisk F crc32 aliases events).2 e := by
      have hfst : (AppController.runOnDisk F crc32 aliases events).1 =
          AppController.run crc32 aliases events := runFrom_watched _ _ _
      rw [← hfst]
      exact congrArg Prod.snd (runFrom_append _ _ events [e])
    rw [hrun] at hnew ⊢
    rw [hdisk]
    exact fun apart => stored_stream F e (wellFormed_run crc32 aliases events).1
      (run_fresh crc32 aliases events) hnew apart ih

/-- In every run in whose history no two starts clash, the path of a file that was started for a device
holds frames of that device only. In every run, a frame of another device ends its connection, on which
nothing is read or handled any more, and changes nothing else; and a connection queues one identity
update at most. -/
theorem one_device (F : Spelling) (crc32 : Bytes → UInt32) (aliases : List (Text × Text))
    (events : List Event) :
    let c := AppController.run crc32 aliases events
    (∀ starts, (AppController.initial aliases).book.Starts starts c.book →
      ((openings [] starts).Pairwise fun x y => ¬ F.Clash x y) →
      ∀ id uuid, (c.recorders id).deviceUuid = some uuid →
        OfDevice crc32 uuid
          (AppController.onDisk F (AppController.runOnDisk F crc32 aliases events) id)) ∧
    (∀ s ∈ c.sessions, s.worker = .running → ∀ frame frames expected observed message,
      s.acquisition.inbox = frame :: frames → s.acquisition.deviceUuid = some expected →
      frame.deviceUuid = some observed → observed ≠ expected →
      c.step crc32 (.handle s.sid message) = c.setSession (s.contradicted frames expected observed) ∧
      ∀ later message' chunk,
        let d := runFrom (AppController.step crc32) (c.step crc32 (.handle s.sid message)) later
        d.step crc32 (.handle s.sid message') = d ∧ d.step crc32 (.read s.sid chunk) = d) ∧
    ∀ sid, ((AppController.initial aliases).queuedUpdates crc32 sid events).length ≤ 1 := by
  intro c
  have wf := (wellFormed_run crc32 aliases events).1
  refine ⟨?_, ?_, ?_⟩
  · intro starts hstarts hclash id uuid huuid
    have hpath : (c.recorders id).path ≠ [] := by
      refine (run_book crc32 aliases events).opened ?_ id ?_
      · exact fun id hid => (Bool.false_ne_true hid).elim
      · show (c.recorders id).deviceUuid.isSome = true
        rw [huuid]
        rfl
    have apart := apart_of_nodup F ((startedPaths_apart F hstarts).mpr hclash)
    have hstream := disk_stream F crc32 aliases events apart id hpath
    -- where no path is opened twice the disk holds what the recorder wrote
    have hcontent : AppController.onDisk F (AppController.runOnDisk F crc32 aliases events) id =
        (c.recorders id).stream := by
      have hfst : (AppController.runOnDisk F crc32 aliases events).1 = c := runFrom_watched _ _ _
      unfold AppController.onDisk
      rw [hfst]
      exact hstream
    rw [hcontent]
    exact ofDevice_stream ((oneDevice_run crc32 aliases events).recorders id uuid huuid)
  · intro s live running frame frames expected observed message hinbox hknown hseen hne
    have hstep := step_contradicted crc32 wf live running message hinbox hknown hseen hne
    refine ⟨hstep, ?_⟩
    intro later message' chunk d
    have hwf := wellFormed_step crc32 (.handle s.sid message) wf
    have hended : Ended s.sid (c.step crc32 (.handle s.sid message)) := by
      rw [hstep]
      exact ended_contradicted wf live frames expected observed
    -- an ended worker never runs again
    have hover : Ended s.sid d := hended.run hwf later
    exact ⟨hover.onWorker _, hover.onWorker _⟩
  · exact fun sid => (queuedUpdates_length sid events (wellFormed_initial aliases)).1

/-- A frame with one sample of a device. -/
def sampleFrame (uuid : Uuid) : Bytes :=
  encodeDataFrame zlibCrc32 uuid .jy61plSample (List.replicate 14 0) 1 1 0 0

/-- The events by which the file of one device is recorded. -/
def Event.recordOne : List Event :=
  [.operation {} (.startWifiServer "0.0.0.0:9000".toList)] ++ Event.gatewayReady 0 ++
    Event.reply 0 "+UUID:00000000-0000-0000-0000-000000000001\r\n" ++
    [.publishSnapshots {}, .operation {} (.setRecording true none), .read 0 (sampleFrame 1),
      .handle 0 [], .write 0 .ok]

/-- A file with a frame is of its device. -/
theorem one_device_recorded :
    OfDevice zlibCrc32 1 (sampleFrame 1) := by
  obtain ⟨starts, hstarts⟩ := (run_book zlibCrc32 [] Event.recordOne).starts
  have hclash := (startedPaths_apart Spelling.exact hstarts).mp (by decide +kernel)
  have hfile := (one_device Spelling.exact zlibCrc32 [] Event.recordOne).1 starts hstarts hclash 0 1
    (by decide +kernel)
  have hcontent : AppController.onDisk Spelling.exact
      (AppController.runOnDisk Spelling.exact zlibCrc32 [] Event.recordOne) 0 = sampleFrame 1 := by
    decide +kernel
  rwa [hcontent] at hfile

/-- The events by which two devices are recorded into one file, which takes a frame of the second. -/
def Event.recordShared : List Event :=
  Event.recordTwo ++ [.read 1 (sampleFrame 2), .handle 1 [], .write 1 .ok]

/-- The file that was started for the first device has a frame of the second. -/
theorem one_device_shared :
    ¬ ∀ id uuid,
      ((AppController.run zlibCrc32 [] Event.recordShared).recorders id).deviceUuid = some uuid →
      OfDevice zlibCrc32 uuid (AppController.onDisk Spelling.exact
        (AppController.runOnDisk Spelling.exact zlibCrc32 [] Event.recordShared) id) := by
  intro h
  have hread := (h 0 1 (by decide +kernel)).2 true [sampleFrame 2] (by decide +kernel)
  have hother : (StreamParser.feedAll zlibCrc32 {} [sampleFrame 2]).2.map Frame.deviceUuid =
      [some 2] := by
    decide +kernel
  obtain ⟨frame, hframe, huuid⟩ := List.mem_map.mp
    (show some 2 ∈ (StreamParser.feedAll zlibCrc32 {} [sampleFrame 2]).2.map Frame.deviceUuid by
      rw [hother]
      exact List.mem_cons_self)
  exact absurd (hread frame hframe 2 huuid) (by decide)

end SensorHost.Presentation
