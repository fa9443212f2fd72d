import SensorHost.Presentation.OtaOwner

/-!
# Outcomes of uploads that were torn down

An upload worker reports its outcome by a signal that names its node only. When the controller has
torn the worker down, as a disconnect does, the signal may still come, and meet a later OTA on a node
of the same name. `outcomes_harmless_iff` says along which runs such a signal changes nothing.

`Harmless` is what is wanted of such an outcome: it leaves the OTA as it is (`SameOta`). `Ignores`
is the condition, on the state before: no upload is running, no context is left that the outcome
would clear or arm anew, and its session has no flag that it would change. `harmless_iff` is the
equivalence for one event and `Along.congr` that for a run. That there is never more than one OTA at
a time is the invariant `Owned`, which only such an outcome can break, so it is carried along the
runs that meet the condition.
-/

namespace SensorHost.Presentation
open SensorHost.Lib SensorHost.Protocol SensorHost.Storage SensorHost.Acquisition SensorHost.Ota
  SensorHost.Transport

variable {crc32 : Bytes → UInt32} {c c' d : AppController} {s t : ManagedSession}

/-- The upload has yet to report its outcome, but its worker was torn down. -/
def AppController.TornDown (c : AppController) (upload : Nat) : Prop :=
  (c.upload? upload).isSome = true ∧ c.otaWorker ≠ some upload

/-- The OTA, its reconnect and the sessions are as they were. -/
structure SameOta (c c' : AppController) : Prop where
  context : c'.otaContext = c.otaContext
  nodeId : c'.otaNodeId = c.otaNodeId
  worker : c'.otaWorker = c.otaWorker
  reconnect : c'.otaReconnect = c.otaReconnect
  timer : c'.otaReconnectTimerActive = c.otaReconnectTimerActive
  sessions : c'.sessions = c.sessions

/-- An outcome of an upload that was torn down changes nothing. -/
def AppController.Harmless (crc32 : Bytes → UInt32) (c : AppController) : Event → Prop
  | .otaOutcome h upload outcome => c.TornDown upload →
      SameOta c (c.step crc32 (.otaOutcome h upload outcome))
  | _ => True

/-- No second upload can be started beside the current one. -/
def AppController.Exclusive (crc32 : Bytes → UInt32) (c : AppController) : Prop :=
  c.otaWorker.isSome = true →
    ∀ nodeId package, (c.startOtaFor crc32 nodeId package).uploads = c.uploads

/-- The session has no flags left that the end of an upload would change. -/
structure ManagedSession.Settled (s : ManagedSession) (staged : Prop) : Prop where
  active : s.otaActive = false
  restart : staged → s.otaAwaitingRestart = true
  bridge : s.acquisition.otaActive = false
  reset : s.acquisition.otaResetPending = false

/-- The reconnect that the context calls for is on its way, with this deadline. -/
def AppController.Armed (c : AppController) (context : OtaContext) (deadlineS : ℚ) : Prop :=
  c.otaReconnectTimerActive = true ∧ c.otaReconnect = some {
    kind := context.kind
    deviceUuid := context.deviceUuid
    deviceId := context.deviceId
    nodeId := context.nodeId
    deadlineS := deadlineS }

/-- An outcome of an upload that was torn down meets no OTA that it could disturb. -/
def AppController.Ignores (c : AppController) : Event → Prop
  | .otaOutcome h upload (.staged _ _) => ∀ u, c.upload? upload = some u →
      c.otaWorker ≠ some upload → c.otaWorker = none ∧
        (∀ context, c.otaContext = some context → c.Armed context (h.now + otaReconnectTimeoutS)) ∧
        ∀ s, c.session? u.nodeId = some s → s.Settled True
  | .otaOutcome _ upload _ => ∀ u, c.upload? upload = some u →
      c.otaWorker ≠ some upload → c.otaWorker = none ∧ c.otaContext = none ∧ c.otaNodeId = none ∧
        ∀ s, c.session? u.nodeId = some s → s.Settled False
  | _ => True

/-- The end of an upload changes a session unless it is settled. -/
lemma endUpload_eq_self {awaiting : Bool} :
    AppController.endUpload awaiting s = s ↔ s.Settled (awaiting = true) := by
  constructor
  · intro h
    refine ⟨?_, ?_, ?_, ?_⟩
    · rw [← h]
      rfl
    · intro hawaiting
      rw [← h, hawaiting]
      rfl
    · rw [← h]
      rfl
    · rw [← h]
      rfl
  · intro h
    have hacquisition : s.acquisition.endOta = s.acquisition := by
      have hbridge := h.bridge
      have hreset := h.reset
      generalize s.acquisition = a at hbridge hreset
      cases a
      cases hbridge
      cases hreset
      rfl
    have hawaiting : (awaiting || s.otaAwaitingRestart) = s.otaAwaitingRestart := by
      cases awaiting with
      | false => rfl
      | true => exact (h.restart rfl).symm
    have hactive := h.active
    unfold AppController.endUpload
    rw [hacquisition, hawaiting]
    cases s
    cases hactive
    rfl

/-- The session of the node is the only one that may change. -/
lemma changeSession_sessions (wf : WellFormed c) (nodeId : Text)
    {f : ManagedSession → ManagedSession} (hsid : ∀ s, (f s).sid = s.sid) :
    (c.changeSession nodeId f).sessions = c.sessions ↔
      ∀ s, c.session? nodeId = some s → f s = s := by
  unfold AppController.changeSession
  cases hsession : c.session? nodeId with
  | none =>
    dsimp only
    refine ⟨?_, fun _ => rfl⟩
    intro _ s hs
    cases hs
  | some s =>
    have live := (session?_some hsession).1
    constructor
    · intro h t ht
      cases ht
      have hmem : f s ∈ (c.setSession (f s)).sessions :=
        AppController.mem_setSession_self live (hsid s)
      rw [h] at hmem
      exact wf.eq_of_sid hmem live (hsid s)
    · intro h
      dsimp only
      rw [h s rfl, wf.setSession_self live]

/-- The end of an upload changes sessions only. -/
lemma changeSession_eq (c : AppController) (nodeId : Text) (f : ManagedSession → ManagedSession) :
    ∃ sessions, c.changeSession nodeId f = { c with sessions := sessions } := by
  unfold AppController.changeSession
  cases c.session? nodeId with
  | none => exact ⟨c.sessions, rfl⟩
  | some s => exact ⟨_, rfl⟩

/-- It changes none exactly if the session of the node is settled. -/
lemma settled_iff (wf : WellFormed c) (nodeId : Text) (awaiting : Bool) :
    (c.changeSession nodeId (AppController.endUpload awaiting)).sessions = c.sessions ↔
      ∀ s, c.session? nodeId = some s → s.Settled (awaiting = true) := by
  have hsid : ∀ s, (AppController.endUpload awaiting s).sid = s.sid := fun _ => rfl
  rw [changeSession_sessions wf nodeId hsid]
  exact forall₂_congr fun s _ => endUpload_eq_self

/-- The end of an upload without an image leaves everything alone if there is nothing to clear. -/
lemma sameOta_withoutOta (wf : WellFormed c) (nodeId : Text) :
    SameOta c (c.withoutOta nodeId) ↔ c.otaWorker = none ∧ c.otaContext = none ∧
      c.otaNodeId = none ∧ ∀ s, c.session? nodeId = some s → s.Settled False := by
  have hsettled := settled_iff wf nodeId false
  have hfalse : (false = true) = False := eq_false Bool.false_ne_true
  rw [hfalse] at hsettled
  rw [← hsettled]
  unfold AppController.withoutOta
  obtain ⟨sessions, heq⟩ := changeSession_eq c nodeId (AppController.endUpload false)
  rw [heq]
  constructor
  · intro h
    exact ⟨h.worker.symm, h.context.symm, h.nodeId.symm, h.sessions⟩
  · intro h
    obtain ⟨hworker, hcontext, hnode, hsessions⟩ := h
    exact ⟨hcontext.symm, hnode.symm, hworker.symm, rfl, rfl, hsessions⟩

/-- A staged image leaves everything alone if its reconnect is on its way, or there is no OTA. -/
lemma sameOta_withStaged (wf : WellFormed c) (h : Host) (nodeId : Text) :
    SameOta c (c.withStaged h nodeId) ↔ c.otaWorker = none ∧
      (∀ context, c.otaContext = some context → c.Armed context (h.now + otaReconnectTimeoutS)) ∧
        ∀ s, c.session? nodeId = some s → s.Settled True := by
  have hsettled := settled_iff wf nodeId true
  have htrue : (true = true) = True := eq_true rfl
  rw [htrue] at hsettled
  rw [← hsettled]
  unfold AppController.withStaged AppController.armOtaReconnect AppController.teardownOtaWorker
  obtain ⟨sessions, heq⟩ := changeSession_eq c nodeId (AppController.endUpload true)
  rw [heq]
  cases hcontext : c.otaContext with
  | none =>
    dsimp only
    constructor
    · intro h
      exact ⟨h.worker.symm, nofun, h.sessions⟩
    · intro h
      exact ⟨hcontext.symm, rfl, h.1.symm, rfl, rfl, h.2.2⟩
  | some context =>
    dsimp only
    constructor
    · intro h
      refine ⟨h.worker.symm, ?_, h.sessions⟩
      intro context' hcontext'
      cases hcontext'
      exact ⟨h.timer.symm, h.reconnect.symm⟩
    · intro h
      obtain ⟨hworker, harmed, hsessions⟩ := h
      have harmed := harmed context rfl
      exact ⟨hcontext.symm, rfl, hworker.symm, harmed.2.symm, harmed.1.symm, hsessions⟩

/-- Signals leave the OTA as it is. -/
lemma Emits.sameOta (h : Emits c' d) : SameOta c d ↔ SameOta c c' := by
  obtain ⟨signals, rfl⟩ := h
  exact ⟨fun h => ⟨h.context, h.nodeId, h.worker, h.reconnect, h.timer, h.sessions⟩,
    fun h => ⟨h.context, h.nodeId, h.worker, h.reconnect, h.timer, h.sessions⟩⟩

/-- An outcome changes nothing exactly if it meets no OTA. -/
lemma harmless_iff (wf : WellFormed c) (e : Event) : c.Harmless crc32 e ↔ c.Ignores e := by
  cases e with
  | otaOutcome h upload outcome =>
    show (c.TornDown upload → SameOta c (c.onOtaOutcome h upload outcome)) ↔ _
    unfold AppController.TornDown AppController.onOtaOutcome
    cases hupload : c.upload? upload with
    | none =>
      -- of an upload that is not known the slot does nothing
      refine iff_of_true (fun h => by cases h.1) ?_
      cases outcome with
      | staged version crc =>
        intro u hu
        rw [hupload] at hu
        cases hu
      | failed code message =>
        intro u hu
        rw [hupload] at hu
        cases hu
      | cancelled =>
        intro u hu
        rw [hupload] at hu
        cases hu
    | some u =>
      have hone : ∀ {Q : OtaUpload → Prop}, (∀ u, c.upload? upload = some u → Q u) ↔ Q u := by
        intro Q
        rw [hupload]
        constructor
        · exact fun h => h u rfl
        · intro h v hv
          cases hv
          exact h
      have htorn : (some u).isSome = true ∧ c.otaWorker ≠ some upload ↔
          c.otaWorker ≠ some upload := ⟨fun h => h.2, fun h => ⟨rfl, h⟩⟩
      rw [htorn]
      dsimp only
      generalize hd : ({ c with uploads := _ } : AppController) = d
      have wfd : WellFormed d := by
        rw [← hd]
        exact wf.of_sessions rfl le_rfl le_rfl (fun _ => rfl) wf.keyed
      have hsame : ∀ e, SameOta c e ↔ SameOta d e := by
        intro e
        rw [← hd]
        exact ⟨fun h => ⟨h.context, h.nodeId, h.worker, h.reconnect, h.timer, h.sessions⟩,
          fun h => ⟨h.context, h.nodeId, h.worker, h.reconnect, h.timer, h.sessions⟩⟩
      cases outcome with
      | staged version crc =>
        rw [AppController.Ignores, hone, hsame, (emits_onOtaStaged d h u.nodeId version crc).sameOta,
          sameOta_withStaged wfd h u.nodeId, ← hd]
        exact .rfl
      | failed code message =>
        rw [AppController.Ignores, hone, hsame, (emits_onOtaFailed d u.nodeId code message).sameOta,
          sameOta_withoutOta wfd u.nodeId, ← hd]
        · exact .rfl
        · exact nofun
      | cancelled =>
        rw [AppController.Ignores, hone, hsame, (emits_onOtaCancelled d u.nodeId).sameOta,
          sameOta_withoutOta wfd u.nodeId, ← hd]
        · exact .rfl
        · exact nofun
  | _ => exact .rfl

/-- A worker has an owner and no reconnect behind it yet; a reconnect has an owner too. -/
structure Owned (c : AppController) : Prop where
  worker : c.otaWorker.isSome = true → c.otaNodeId.isSome = true ∧ c.otaReconnect = none
  reconnect : c.otaReconnect.isSome = true → c.otaNodeId.isSome = true

/-- Who owns an OTA is told by the ownership. -/
lemma Owned.of_ownership (owned : Owned c) (h : c'.ownership = c.ownership) : Owned c' := by
  have hreconnect : c'.otaReconnect = c.otaReconnect := congrArg (fun o => o.1) h
  have hnode : c'.otaNodeId = c.otaNodeId := congrArg (fun o => o.2.1) h
  have hworker : c'.otaWorker = c.otaWorker := congrArg (fun o => o.2.2.1) h
  refine ⟨?_, ?_⟩
  · rw [hworker, hnode, hreconnect]
    exact owned.worker
  · rw [hreconnect, hnode]
    exact owned.reconnect

/-- Signals keep the owner. -/
lemma Owned.emits (owned : Owned c) (h : Emits c c') : Owned c' :=
  owned.of_ownership (h.field AppController.ownership fun _ _ => rfl)

/-- Nobody owns anything. -/
lemma owned_free (hreconnect : c.otaReconnect = none) (hworker : c.otaWorker = none) : Owned c := by
  refine ⟨?_, ?_⟩
  · rw [hworker]
    exact nofun
  · rw [hreconnect]
    exact nofun

/-- An OTA that is owned is the only one. -/
lemma Owned.exclusive (owned : Owned c) : c.Exclusive crc32 := by
  intro hworker nodeId package
  have howner := (owned.worker hworker).1
  cases startOtaFor_cases crc32 c nodeId package with
  | inl h => exact h.field AppController.uploads fun _ _ => rfl
  | inr h =>
    obtain ⟨s, -, context, upload, -, hfree, -⟩ := h
    rw [hfree] at howner
    cases howner

/-- An upload that is started has an owner. -/
lemma owned_startOtaFor (owned : Owned c) (nodeId : Text) (package : PackageSource) :
    Owned (c.startOtaFor crc32 nodeId package) := by
  cases startOtaFor_cases crc32 c nodeId package with
  | inl h => exact owned.emits h
  | inr h =>
    obtain ⟨s, -, context, upload, -, hfree, hemits, -⟩ := h
    refine Owned.emits ?_ hemits
    refine ⟨fun _ => ⟨rfl, ?_⟩, fun _ => rfl⟩
    show c.otaReconnect = none
    cases hreconnect : c.otaReconnect with
    | none => rfl
    | some info =>
      have howner := owned.reconnect (by rw [hreconnect]; rfl)
      rw [hfree] at howner
      cases howner

/-- The reconnect poll keeps or ends the ownership. -/
lemma owned_pollOtaReconnect (owned : Owned c) (wf : WellFormed c) (h : Host) :
    Owned (c.pollOtaReconnect h) := by
  cases hinfo : c.otaReconnect with
  | none =>
    refine owned.of_ownership ?_
    unfold AppController.pollOtaReconnect AppController.ownership
    rw [hinfo]
  | some info =>
    have hfree : c.otaWorker = none := by
      cases hworker : c.otaWorker with
      | none => rfl
      | some upload =>
        have hnone := (owned.worker (by rw [hworker]; rfl)).2
        rw [hinfo] at hnone
        cases hnone
    have hfinish : ∀ (d : AppController) (status detail : String), d.otaWorker = none →
        Owned (d.finishOtaReconnect status detail) := by
      intro d status detail hd
      exact Owned.emits (c := d.withoutReconnect) (owned_free rfl hd) (emits_finishOtaReconnect d status detail)
    cases pollOtaReconnect_split zlibCrc32 h wf hinfo with
    | inl hlate =>
      rw [hlate.2]
      exact hfinish c _ _ hfree
    | inr hpoll =>
      obtain ⟨-, d, hchain, hd⟩ := hpoll
      have hsame := hchain.ownership (Label.Polls.not nofun nofun id)
      cases hd with
      | inl hnone =>
        rw [hnone.2]
        exact owned.of_ownership hsame
      | inr hsome =>
        obtain ⟨s, -, -, heq⟩ := hsome
        rw [heq]
        exact hfinish d _ _ ((congrArg (fun o => o.2.2.1) hsame).trans hfree)

/-- The outcome of the current upload hands the ownership on, or gives it up. -/
lemma owned_onOtaOutcome (owned : Owned c) (wf : WellFormed c) (h : Host) (upload : Nat)
    (outcome : OtaOutcome) (hignores : c.Ignores (.otaOutcome h upload outcome)) :
    Owned (c.onOtaOutcome h upload outcome) := by
  by_cases htorn : c.TornDown upload
  · have hsame : SameOta c (c.onOtaOutcome h upload outcome) :=
      (@harmless_iff zlibCrc32 c wf _).mpr hignores htorn
    refine owned.of_ownership ?_
    unfold AppController.ownership
    rw [hsame.reconnect, hsame.nodeId, hsame.worker, hsame.context]
  · unfold AppController.onOtaOutcome
    cases hupload : c.upload? upload with
    | none => exact owned
    | some u =>
      have hcurrent : c.otaWorker = some upload := by
        by_contra hne
        refine htorn ⟨?_, hne⟩
        rw [hupload]
        rfl
      -- an outcome of the current worker comes while it owns the node
      have howner := owned.worker (by rw [hcurrent]; rfl)
      dsimp only
      generalize hd : ({ c with uploads := _ } : AppController) = d
      have hnode : d.otaNodeId.isSome = true := by
        rw [← hd]
        exact howner.1
      have hreconnect : d.otaReconnect = none := by
        rw [← hd]
        exact howner.2
      have hfailed : Owned (d.withoutOta u.nodeId) := by
        unfold AppController.withoutOta
        obtain ⟨sessions, heq⟩ := changeSession_eq d u.nodeId (AppController.endUpload false)
        rw [heq]
        exact owned_free hreconnect rfl
      cases outcome with
      | staged version crc =>
        refine Owned.emits ?_ (emits_onOtaStaged d h u.nodeId version crc)
        unfold AppController.withStaged AppController.armOtaReconnect
          AppController.teardownOtaWorker
        obtain ⟨sessions, heq⟩ := changeSession_eq d u.nodeId (AppController.endUpload true)
        rw [heq]
        dsimp only
        cases d.otaContext with
        | none => exact ⟨nofun, fun _ => hnode⟩
        | some context => exact ⟨nofun, fun _ => hnode⟩
      | failed code message => exact hfailed.emits (emits_onOtaFailed d u.nodeId code message)
      | cancelled => exact hfailed.emits (emits_onOtaCancelled d u.nodeId)

/-- Every event that is no stale signal keeps the owner. -/
lemma owned_step (e : Event) (owned : Owned c) (wf : WellFormed c) (hignores : c.Ignores e) :
    Owned (c.step crc32 e) := by
  have hlabels : e.labels.contains .own = false → Owned (c.step crc32 e) := by
    intro hown
    refine owned.of_ownership ((step_leads e wf).ownership ?_)
    exact fun h => Bool.false_ne_true (hown.symm.trans h)
  have hcommand : ∀ command : Text, (commandLabels command).contains .own = false := by
    intro command
    unfold commandLabels
    split
    · rfl
    · rfl
  cases e with
  | operation h o =>
    cases o with
    | startOtaFor nodeId package => exact owned_startOtaFor owned nodeId package
    | disconnectDevice =>
      have hfree := disconnectDevice_ownership c h
      exact owned_free (congrArg (fun o => o.1) hfree) (congrArg (fun o => o.2.2.1) hfree)
    | stopWifiServer =>
      show Owned (c.stopWifiServer h)
      unfold AppController.stopWifiServer
      dsimp only
      have hstopped : (c.stopWifiResources h).ownership = c.ownership :=
        (outside_stopWifiResources c h).field AppController.ownership fun _ => rfl
      refine Owned.emits ?_ (.emit _ _)
      split
      · -- with sessions left the stop of the server is a disconnect
        have hfree := disconnectDevice_ownership (c.stopWifiResources h) h
        exact owned_free (congrArg (fun o => o.1) hfree) (congrArg (fun o => o.2.2.1) hfree)
      · exact owned.of_ownership hstopped
    | sendCommand command => exact hlabels (hcommand command)
    | sendCommandTo nodeId command => exact hlabels (hcommand command)
    | _ => exact hlabels rfl
  | pollOtaReconnect h =>
    show Owned (if c.otaReconnectTimerActive then c.pollOtaReconnect h else c)
    split
    · exact owned_pollOtaReconnect owned wf h
    · exact owned
  | otaOutcome h upload outcome => exact owned_onOtaOutcome owned wf h upload outcome hignores
  | _ => exact hlabels rfl

/-- Along a run, an outcome of an upload that was torn down changes nothing, and no second upload is
started beside the current one, exactly if each such outcome finds no OTA that it could disturb. -/
theorem outcomes_harmless_iff (crc32 : Bytes → UInt32) (aliases : List (Text × Text))
    (events : List Event) :
    (Along (AppController.step crc32) (AppController.Harmless crc32)
        (AppController.initial aliases) events ∧
      ∀ n, (AppController.run crc32 aliases (events.take n)).Exclusive crc32) ↔
      Along (AppController.step crc32) AppController.Ignores (AppController.initial aliases)
        events := by
  have hiff : Along (AppController.step crc32) (AppController.Harmless crc32)
        (AppController.initial aliases) events ↔
      Along (AppController.step crc32) AppController.Ignores
        (AppController.initial aliases) events :=
    Along.congr (fun c e wf => wellFormed_step crc32 e wf) (fun c e wf => harmless_iff wf e)
      (wellFormed_initial aliases) events
  constructor
  · exact fun h => hiff.mp h.1
  · intro h
    refine ⟨hiff.mpr h, ?_⟩
    intro n
    have howned : WellFormed (AppController.run crc32 aliases (events.take n)) ∧
        Owned (AppController.run crc32 aliases (events.take n)) := by
      refine Along.invariant (I := fun c => WellFormed c ∧ Owned c) ?_ (h.take n)
        ⟨wellFormed_initial aliases, owned_free rfl rfl⟩
      intro c e hc hignores
      exact ⟨wellFormed_step crc32 e hc.1, owned_step e hc.2 hc.1 hignores⟩
    exact howned.2.exclusive

/-- The listener is restarted behind a first upload, so that the second one is to a `wifi-1` too. -/
def Event.secondUpload : List Event :=
  Event.firstUpload ++
    [.operation {} .disconnectDevice, .operation {} (.startWifiServer "0.0.0.0:9000".toList)] ++
      Event.gatewayReady 1 ++
        [.operation {} (.startOtaFor "wifi-1".toList (.prepared samplePackage))]

/-- What harmless means for a failure. -/
lemma AppController.Harmless.failed {h : Host} {upload : Nat} {code message : Text}
    (hharmless : c.Harmless crc32 (.otaOutcome h upload (.failed code message)))
    (htorn : c.TornDown upload) : c.otaNodeId = none := by
  have hstep := (hharmless htorn).nodeId
  have hnone : (c.step crc32 (.otaOutcome h upload (.failed code message))).otaNodeId = none := by
    show (c.onOtaOutcome h upload (.failed code message)).otaNodeId = none
    unfold AppController.onOtaOutcome
    cases hupload : c.upload? upload with
    | none =>
      have hsome := htorn.1
      rw [hupload] at hsome
      cases hsome
    | some u => exact (emits_onOtaFailed _ u.nodeId code message).field AppController.otaNodeId fun _ _ => rfl
  rw [hnone] at hstep
  exact hstep.symm

/-- The first upload reports its failure during the second one, and ends it. -/
theorem outcomes_late_failure :
    ¬ (Along (AppController.step zlibCrc32) (AppController.Harmless zlibCrc32)
        (AppController.initial [])
        (Event.secondUpload ++ [Event.otaOutcome {} 0 (.failed [] "bridge closed".toList)]) ∧
      ∀ n, (AppController.run zlibCrc32 []
        ((Event.secondUpload ++
          [Event.otaOutcome {} 0 (.failed [] "bridge closed".toList)]).take n)).Exclusive
            zlibCrc32) := by
  intro h
  have hlast := ((along_append _ _).mp h.1).2.1
  have htorn : (runFrom (AppController.step zlibCrc32) (AppController.initial [])
      Event.secondUpload).TornDown 0 := ⟨by decide +kernel, by decide +kernel⟩
  have hbefore : (runFrom (AppController.step zlibCrc32) (AppController.initial [])
      Event.secondUpload).otaNodeId ≠ none := by
    decide +kernel
  exact hbefore (hlast.failed htorn)

end SensorHost.Presentation
