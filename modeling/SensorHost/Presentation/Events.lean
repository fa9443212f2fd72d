import SensorHost.Presentation.Labels

/-!
# The labels of the events

`Event.labels` lists the labels that an event may use, with 0 for every session, and `step_leads` says
that it uses no others. So an invariant of all runs is a fact about labels, and an event that does not
use a label needs no argument about it.

The first half has the lemmas `leads_…` for the operations of the OTA, of the connections and of the
poll, as `Presentation.Labels` has them for the others. `Event.labels` is a list, so that whether an
event uses a label (`Event.Allows`) is a matter of computation, and `step_leads` goes through the
events once, with `operate_leads` for the public operations.

The labels of an event are more than it may use in a given state: the poll, for one, has those of an
export that is started again, though it may start none.
-/

namespace SensorHost.Presentation
open SensorHost.Lib SensorHost.Protocol SensorHost.Storage SensorHost.Acquisition SensorHost.Ota
  SensorHost.Transport

variable {crc32 : Bytes → UInt32} {P Q : Label → Prop} {c c' d : AppController}
  {s s' : ManagedSession}

/-- The ownership of the OTA changes hands. -/
lemma leads_own (hown : P .own) (c' : AppController)
    (h : { c with
      otaReconnect := c'.otaReconnect
      otaNodeId := c'.otaNodeId
      otaWorker := c'.otaWorker
      otaContext := c'.otaContext } = c') : Leads crc32 P c c' := by
  rw [← h]
  exact .step hown .own

/-- A cancel that is asked for is outside the core. -/
lemma outside_requestOtaCancel (c : AppController) : Outside c c.requestOtaCancel :=
  .of_core rfl le_rfl rfl

/-- `cancel_ota_for` is outside the core. -/
lemma outside_cancelOtaFor (c : AppController) (nodeId : Text) : Outside c (c.cancelOtaFor nodeId) := by
  unfold AppController.cancelOtaFor
  split
  · exact outside_requestOtaCancel c
  · exact .refl c

/-- What `start_ota_for` does, step by step. -/
lemma leads_startOtaFor (nodeId : Text) (package : PackageSource) (hout : P .outside)
    (hown : P .own) (hstart : ∀ sid, P (.session sid .otaStart)) :
    Leads crc32 P c (c.startOtaFor crc32 nodeId package) := by
  unfold AppController.startOtaFor
  refine leads_withSession hout ?_
  intro s live _
  split
  · exact .outside hout (Outside.trans (.emit rfl) (outside_raiseError _ _))
  · split
    · exact .outside hout (outside_raiseError _ _)
    · split
      · exact .outside hout (outside_raiseError _ _)
      · split
        · exact .outside hout (outside_raiseError _ _)
        · cases s.controlState with
          | none => exact .outside hout (outside_raiseError _ _)
          | some state =>
            dsimp only
            split
            · exact .outside hout (outside_raiseError _ _)
            · split
              · exact .outside hout (Outside.trans (.emit rfl) (outside_raiseError _ _))
              · rename_i otaPackage _
                -- a node that acquires is only announced as stopping, the firmware stops it
                generalize hd : (if state.acquisitionState = some "ACQUIRE".toList then _ else c) = d
                have hstopping : Outside c d := by
                  rw [← hd]
                  split
                  · exact .emit rfl
                  · exact .refl c
                have hlive : s ∈ d.sessions := by
                  rw [hstopping.field AppController.sessions fun _ => rfl]
                  exact live
                have hupload : Outside d { d with
                    uploads := d.uploads ++ [{
                      identity := d.nextUpload
                      nodeId := nodeId
                      session := s.sid
                      package := otaPackage.data }]
                    nextUpload := d.nextUpload + 1 } := .of_core rfl le_rfl rfl
                refine Leads.trans (.outside hout (hstopping.trans hupload)) ?_
                refine Leads.trans (leads_own hown { d with
                  otaNodeId := some nodeId
                  otaContext := some {
                    nodeId := nodeId
                    kind := s.transportKind
                    deviceUuid := d.deviceUuid nodeId
                    deviceId := s.peer
                    version := otaPackage.versionText
                    crc := otaPackage.crcText }
                  otaWorker := some d.nextUpload
                  uploads := d.uploads ++ [{
                    identity := d.nextUpload
                    nodeId := nodeId
                    session := s.sid
                    package := otaPackage.data }]
                  nextUpload := d.nextUpload + 1 } rfl) ?_
                refine Leads.trans (.setSession (hstart s.sid) hlive .otaStart) ?_
                exact .outside hout (Outside.trans (.emit rfl) (outside_emitOtaAvailability _))

/-- What the end of an upload does to the session of its node. -/
lemma leads_changeSession (nodeId : Text) (awaiting : Bool) (hend : ∀ sid, P (.session sid .otaEnd)) :
    Leads crc32 P c (c.changeSession nodeId (AppController.endUpload awaiting)) := by
  unfold AppController.changeSession
  cases hsession : c.session? nodeId with
  | none => exact .refl c
  | some s => exact .setSession (hend _) (session?_some hsession).1 (.otaEnd awaiting)

/-- The end of `_on_ota_staged`. -/
lemma leads_armOtaReconnect (h : Host) {g : Signal} (hg : g.plain = true) (hout : P .outside)
    (hown : P .own) :
    Leads crc32 P c ((c.emit g).teardownOtaWorker.armOtaReconnect h).emitOtaAvailability := by
  have htear : Leads crc32 P (c.emit g) (c.emit g).teardownOtaWorker := leads_own hown _ rfl
  refine Leads.trans (.outside hout (.emit hg)) (htear.trans ?_)
  generalize (c.emit g).teardownOtaWorker = d
  refine Leads.trans ?_ (.outside hout (outside_emitOtaAvailability _))
  unfold AppController.armOtaReconnect
  cases d.otaContext with
  | none => exact .refl d
  | some context =>
    have htimer : Outside d { d with otaReconnectTimerActive := true } := .of_core rfl le_rfl rfl
    exact Leads.trans (.outside hout htimer) (leads_own hown _ rfl)

/-- What `_on_ota_staged` does, step by step. -/
lemma leads_onOtaStaged (h : Host) (nodeId version : Text) (crc : Option Int) (hout : P .outside)
    (hown : P .own) (hend : ∀ sid, P (.session sid .otaEnd)) :
    Leads crc32 P c (c.onOtaStaged h nodeId version crc) := by
  have htail : ∀ d e : AppController, ∀ g : Signal, g.plain = true → Outside d e →
      Leads crc32 P d ((e.emit g).teardownOtaWorker.armOtaReconnect h).emitOtaAvailability :=
    fun d e g hg he => Leads.trans (.outside hout he) (leads_armOtaReconnect h hg hout hown)
  unfold AppController.onOtaStaged
  refine Leads.trans (leads_changeSession nodeId true hend) (htail _ _ _ rfl ?_)
  generalize c.changeSession nodeId (AppController.endUpload true) = d
  split
  · split
    · exact .emit rfl
    · exact Outside.trans (.emit rfl) (outside_raiseError _ _)
  · split
    · exact .emit rfl
    · exact Outside.trans (.emit rfl) (outside_raiseError _ _)

/-- What the two failing outcomes share. -/
lemma leads_endOta (nodeId : Text) (hown : P .own) (hend : ∀ sid, P (.session sid .otaEnd)) :
    Leads crc32 P c (c.changeSession nodeId
      (AppController.endUpload false)).teardownOtaWorker.clearOtaContext :=
  Leads.trans (leads_changeSession nodeId false hend) (leads_own hown _ rfl)

/-- What `_on_ota_failed` does, step by step. -/
lemma leads_onOtaFailed (nodeId code message : Text) (hout : P .outside) (hown : P .own)
    (hend : ∀ sid, P (.session sid .otaEnd)) :
    Leads crc32 P c (c.onOtaFailed nodeId code message) := by
  unfold AppController.onOtaFailed
  refine Leads.trans (leads_endOta nodeId hown hend) (.outside hout ?_)
  exact Outside.trans (.emit rfl) (Outside.trans (outside_raiseError _ _)
    (outside_emitOtaAvailability _))

/-- What `_on_ota_cancelled` does, step by step. -/
lemma leads_onOtaCancelled (nodeId : Text) (hout : P .outside) (hown : P .own)
    (hend : ∀ sid, P (.session sid .otaEnd)) :
    Leads crc32 P c (c.onOtaCancelled nodeId) := by
  unfold AppController.onOtaCancelled
  refine Leads.trans (leads_endOta nodeId hown hend) (.outside hout ?_)
  exact Outside.trans (.emit rfl) (outside_emitOtaAvailability _)

/-- What the signals of an upload do. -/
lemma leads_onOtaOutcome (h : Host) (upload : Nat) (outcome : OtaOutcome) (hout : P .outside)
    (hown : P .own) (hend : ∀ sid, P (.session sid .otaEnd)) :
    Leads crc32 P c (c.onOtaOutcome h upload outcome) := by
  unfold AppController.onOtaOutcome
  cases c.upload? upload with
  | none => exact .refl c
  | some u =>
    have htaken : Outside c { c with
        uploads := c.uploads.filter fun u => u.identity != upload } := .of_core rfl le_rfl rfl
    refine Leads.trans (.outside hout htaken) ?_
    cases outcome with
    | staged version crc => exact leads_onOtaStaged h u.nodeId version crc hout hown hend
    | failed code message => exact leads_onOtaFailed u.nodeId code message hout hown hend
    | cancelled => exact leads_onOtaCancelled u.nodeId hout hown hend

/-- The end of the reconnect, whatever is reported. -/
lemma leads_finishOtaReconnect (status detail : String) (hout : P .outside) (hown : P .own)
    (hreport : status.toList = "RECONNECTED".toList → P .reconnected) :
    Leads crc32 P c (c.finishOtaReconnect status detail) := by
  have hreported : ∀ (d : AppController) (nodeId : Text), Leads crc32 P d
      (if status ≠ "RECONNECTED" then
        (d.emit (.otaState nodeId status.toList detail.toList)).raiseError detail.toList
      else d.emit (.otaState nodeId status.toList detail.toList)).emitOtaAvailability := by
    intro d nodeId
    have hstate : Leads crc32 P d (d.emit (.otaState nodeId status.toList detail.toList)) := by
      by_cases hstatus : status.toList = "RECONNECTED".toList
      · rw [hstatus]
        exact .step (hreport hstatus) (.reconnected nodeId detail.toList)
      · exact .outside hout (.emit (bne_iff_ne.mpr hstatus))
    refine hstate.trans ?_
    split
    · exact .outside hout (Outside.trans (outside_raiseError _ _) (outside_emitOtaAvailability _))
    · exact .outside hout (outside_emitOtaAvailability _)
  have htimer : Outside c { c with otaReconnectTimerActive := false } := .of_core rfl le_rfl rfl
  have hcleared : Leads crc32 P { c with otaReconnectTimerActive := false }
      { c with otaReconnectTimerActive := false, otaReconnect := none }.clearOtaContext :=
    leads_own hown _ rfl
  unfold AppController.finishOtaReconnect
  exact Leads.trans (.outside hout htimer) (hcleared.trans (hreported _ _))

/-- `select_node` is outside the core. -/
lemma outside_selectNode (c : AppController) (nodeId : Text) : Outside c (c.selectNode nodeId) := by
  unfold AppController.selectNode AppController.withSession
  cases c.session? nodeId with
  | none => exact outside_raiseError _ _
  | some s =>
    have hselected : Outside c { c with selectedNodeId := some nodeId } := .of_core rfl le_rfl rfl
    exact hselected.trans (Outside.trans (.emit rfl) (outside_emitOtaAvailability _))

/-- What `_add_session` does behind the session. -/
lemma outside_added (c : AppController) (nodeId peer : Text) :
    Outside c (({ (if c.selectedNodeId.isNone = true then c.selectNode nodeId else c) with
      timerActive := true
      statusTimerActive := true }.emit (.connectionChanged true peer)).emitNodes) := by
  have hselected : Outside c (if c.selectedNodeId.isNone = true then c.selectNode nodeId else c) := by
    split
    · exact outside_selectNode c nodeId
    · exact .refl c
  revert hselected
  generalize (if c.selectedNodeId.isNone = true then c.selectNode nodeId else c) = d
  intro hselected
  have htimers : Outside d { d with timerActive := true, statusTimerActive := true } :=
    .of_core rfl le_rfl rfl
  exact hselected.trans (htimers.trans (Outside.trans (.emit rfl) (outside_emitNodes _)))

/-- What `_add_session` does, step by step. -/
lemma leads_addSession {nodeId peer : Text} {kind : TransportKind} (hout : P .outside)
    (hadd : P .add) (h : c.addSession nodeId peer kind = .ok c') : Leads crc32 P c c' := by
  unfold AppController.addSession at h
  cases hindex : c.sessionIndex.addSession nodeId kind peer with
  | error error =>
    rw [hindex] at h
    cases h
  | ok sessionIndex =>
    rw [hindex] at h
    cases h
    exact Leads.trans (.step hadd (.add nodeId peer kind hindex))
      (.outside hout (outside_added _ nodeId peer))

/-- What `connect_device` does, step by step. -/
lemma leads_connectDevice (h : Host) (deviceId : Text) (hout : P .outside) (hadd : P .add) :
    Leads crc32 P c (c.connectDevice h deviceId) := by
  unfold AppController.connectDevice
  split
  · exact .outside hout (outside_raiseError _ _)
  · split
    · exact .outside hout (outside_raiseError _ _)
    · cases h.portError with
      | some message => exact .outside hout (Outside.trans (outside_raiseError _ _) (.emit rfl))
      | none =>
        dsimp only
        split
        · rename_i hadded
          exact leads_addSession hout hadd hadded
        · exact .outside hout (Outside.trans (outside_raiseError _ _) (.emit rfl))

/-- What `accept_gateway_client` does, step by step. -/
lemma leads_acceptGatewayClient (client : AcceptedGatewayClient) (hout : P .outside)
    (hadd : P .add) : Leads crc32 P c (c.acceptGatewayClient client) := by
  unfold AppController.acceptGatewayClient
  split
  · exact .outside hout (Outside.trans (outside_releaseGatewayClient _ _) (outside_raiseError _ _))
  · split
    · rename_i hadded
      exact leads_addSession hout hadd hadded
    · exact .outside hout (Outside.trans (outside_releaseGatewayClient _ _) (outside_raiseError _ _))

/-- `_stop_wifi_resources` is outside the core. -/
lemma outside_stopWifiResources (c : AppController) (h : Host) :
    Outside c (c.stopWifiResources h) := by
  have hstopped : Outside c { c with
      gatewayListener := none
      acceptRunning := false
      wifiServerLabel := [] } := .of_core rfl le_rfl rfl
  unfold AppController.stopWifiResources
  dsimp only
  split
  · exact hstopped.trans (outside_raiseError _ _)
  · exact hstopped

/-- `start_wifi_server` is outside the core. -/
lemma outside_startWifiServer (c : AppController) (h : Host) (endpoint : Text) :
    Outside c (c.startWifiServer h endpoint) := by
  unfold AppController.startWifiServer
  split
  · exact outside_raiseError _ _
  · cases h.listenerError with
    | some message => exact outside_raiseError _ _
    | none =>
      dsimp only
      refine Outside.trans ?_ (.emit rfl)
      exact .of_core rfl le_rfl rfl

/-- What `disconnect_device` does, step by step. -/
lemma leads_disconnectDevice (h : Host) (hout : P .outside) (hown : P .own) (hreset : P .reset)
    (hunlist : P .unlist) (hthread : ∀ sid, P (.session sid .thread))
    (hdetach : ∀ sid, P (.session sid .detach))
    (hexport : ∀ sid, P (.session sid .exportDetach)) :
    Leads crc32 P c (c.disconnectDevice h) := by
  unfold AppController.disconnectDevice
  dsimp only
  have hstopping : Outside c { c with isStopping := true } := .of_core rfl le_rfl rfl
  refine Leads.trans (.outside hout (hstopping.trans (outside_stopWifiResources _ h))) ?_
  generalize { c with isStopping := true }.stopWifiResources h = d
  have htimers : Outside d { d with
      timerActive := false
      statusTimerActive := false
      otaReconnectTimerActive := false } := .of_core rfl le_rfl rfl
  refine Leads.trans (.outside hout htimers) ?_
  refine Leads.trans (leads_own hown { d with
    timerActive := false
    statusTimerActive := false
    otaReconnectTimerActive := false
    otaReconnect := none } rfl) ?_
  generalize { d with
    timerActive := false
    statusTimerActive := false
    otaReconnectTimerActive := false
    otaReconnect := none } = e
  refine Leads.trans (.outside hout (outside_requestOtaCancel e)) ?_
  have hstopped : Leads crc32 P e.requestOtaCancel (e.requestOtaCancel.mapSessions fun s =>
      { s with stopRequested := true, transportOpen := false }) :=
    leads_mapSessions fun s =>
      .inr ⟨.thread, hthread s.sid, .thread s.worker false true s.failure (.inl rfl)⟩
  refine hstopped.trans ?_
  generalize e.requestOtaCancel.mapSessions _ = a
  have hloop : Leads crc32 P a (a.forSessions fun c s =>
      let c := if h.threadStops s.sid then c
        else c.raiseError ("acquisition thread for ".toList ++ s.peer ++
          " did not stop within three seconds".toList)
      let c := c.finalizeSessionRecorders h s
      { c with sessionIndex := c.sessionIndex.remove s.nodeId }) := leads_forSessions ?_
  · -- after the loop over the sessions only the run-wide fields are cleared
    refine hloop.trans ?_
    generalize a.forSessions _ = b
    refine Leads.trans (leads_own hown b.teardownOtaWorker.clearOtaContext rfl) ?_
    generalize b.teardownOtaWorker.clearOtaContext = b
    refine Leads.trans (.step hreset .reset) (.outside hout ?_)
    refine Outside.trans ?_ (Outside.trans (outside_emitNodes _) (Outside.trans (.emit rfl) (.emit rfl)))
    exact .of_core rfl le_rfl rfl
  · -- one turn waits for the thread, closes the files and takes the node off the list
    intro c s live
    dsimp only
    generalize hd : (if h.threadStops s.sid = true then c else _) = d
    have hwaited : Outside c d := by
      rw [← hd]
      split
      · exact .refl c
      · exact outside_raiseError _ _
    have hlive : s ∈ d.sessions := by
      rw [hwaited.field AppController.sessions fun _ => rfl]
      exact live
    refine Leads.trans (.outside hout hwaited) ?_
    refine Leads.trans (leads_finalizeSessionRecorders h hout (hdetach _) (hexport _) hlive) ?_
    exact .step hunlist (.unlist s.nodeId)

/-- What `stop_wifi_server` does, step by step. -/
lemma leads_stopWifiServer (h : Host) (hout : P .outside) (hown : P .own) (hreset : P .reset)
    (hunlist : P .unlist) (hthread : ∀ sid, P (.session sid .thread))
    (hdetach : ∀ sid, P (.session sid .detach))
    (hexport : ∀ sid, P (.session sid .exportDetach)) :
    Leads crc32 P c (c.stopWifiServer h) := by
  unfold AppController.stopWifiServer
  refine Leads.trans (.outside hout (outside_stopWifiResources c h)) ?_
  dsimp only
  generalize c.stopWifiResources h = d
  refine Leads.trans ?_ (.outside hout (.emit rfl))
  split
  · exact leads_disconnectDevice h hout hown hreset hunlist hthread hdetach hexport
  · exact .refl d

/-- What `remove_offline_node` does, step by step. -/
lemma leads_removeOfflineNode (nodeId : Text) (hout : P .outside) (hforget : P .forget) :
    Leads crc32 P c (c.removeOfflineNode nodeId) := by
  unfold AppController.removeOfflineNode
  split
  · exact .outside hout (outside_raiseError _ _)
  · rename_i hdead
    have hdead : ∀ s ∈ c.sessions, s.nodeId ≠ nodeId := by
      intro s live heq
      exact List.find?_eq_none.mp (Option.not_isSome_iff_eq_none.mp hdead) s live
        (beq_iff_eq.mpr heq)
    cases c.sessionIndex.summary nodeId with
    | error error => exact .outside hout (outside_raiseError _ _)
    | ok summary =>
      dsimp only
      split
      · exact .outside hout (outside_raiseError _ _)
      · exact Leads.trans (.step hforget (.forget nodeId hdead)) (.outside hout (outside_emitNodes _))

/-- What `set_alias` does, step by step. -/
lemma leads_setAlias (nodeId name : Text) (hout : P .outside) :
    Leads crc32 P c (c.setAlias nodeId name) := by
  unfold AppController.setAlias
  cases hset : c.sessionIndex.setAlias nodeId name with
  | error error => exact .outside hout (outside_raiseError _ _)
  | ok result =>
    obtain ⟨sessionIndex, summary⟩ := result
    intro wf
    have hnamed : Outside c { c with sessionIndex := sessionIndex } := by
      refine .of_core ?_ le_rfl rfl
      unfold AppController.core
      dsimp only
      rw [wf.keyed.setAlias_core hset]
    refine Leads.outside hout (hnamed.trans ?_) wf
    dsimp only
    cases summary.deviceUuid with
    | none => exact outside_emitNodes _
    | some uuid =>
      have hsettings : Outside { c with sessionIndex := sessionIndex } { c with
          sessionIndex := sessionIndex
          settingsAliases := NodeSessionManager.putAlias c.settingsAliases (uuidText uuid)
            summary.aliasName } := .of_core rfl le_rfl rfl
      exact hsettings.trans (outside_emitNodes _)

/-- What `_attempt_ota_cdc_reopen` does, step by step. -/
lemma leads_attemptOtaCdcReopen (h : Host) (deviceId : Text) (hout : P .outside) (hadd : P .add) :
    Leads crc32 P c (c.attemptOtaCdcReopen h deviceId) := by
  unfold AppController.attemptOtaCdcReopen
  split
  · exact .refl c
  · split
    · rename_i hadded
      exact leads_addSession hout hadd hadded
    · exact .refl c

/-- What the reconnect poll does with the sessions that it looks at. -/
lemma leads_pollSessions (expected : Option Uuid) (sids : List Nat) (hout : P .outside)
    (hown : P .own) (hqueue : ∀ sid, P (.session sid (.queue .other))) (hreport : P .reconnected) :
    Leads crc32 P c (c.pollSessions expected sids) := by
  induction sids generalizing c with
  | nil => exact .refl c
  | cons sid sids ih =>
    unfold AppController.pollSessions
    cases hsession : c.sessionBySid? sid with
    | none => exact ih
    | some s =>
      dsimp only
      split
      · have hasked : Leads crc32 P c (c.setAcquisition s s.acquisition.requestStatus) :=
          leads_queueCommand (sessionBySid?_some hsession).1 (by decide +kernel) (hqueue _)
        refine hasked.trans ?_
        split
        · exact leads_finishOtaReconnect _ _ hout hown fun _ => hreport
        · exact ih
      · exact ih

/-- What `_poll_ota_reconnect` does, step by step. -/
lemma leads_pollOtaReconnect (h : Host) (hout : P .outside) (hown : P .own) (hadd : P .add)
    (hqueue : ∀ sid, P (.session sid (.queue .other))) (hreport : P .reconnected) :
    Leads crc32 P c (c.pollOtaReconnect h) := by
  unfold AppController.pollOtaReconnect
  split
  · exact .outside hout (.of_core rfl le_rfl rfl)
  · rename_i info _
    split
    · exact leads_finishOtaReconnect _ _ hout hown fun _ => hreport
    · split
      · exact Leads.trans (leads_attemptOtaCdcReopen h info.deviceId hout hadd)
          (leads_pollSessions _ _ hout hown hqueue hreport)
      · exact leads_pollSessions _ _ hout hown hqueue hreport

/-- What `_on_worker_failed` does, step by step. -/
lemma leads_onWorkerFailed (message : Text) (hout : P .outside)
    (hthread : P (.session s.sid .thread)) (live : s ∈ c.sessions) :
    Leads crc32 P c (c.onWorkerFailed { s with worker := .finishing } message) := by
  unfold AppController.onWorkerFailed
  dsimp only
  refine Leads.trans (.setSession hthread live (.thread .finishing s.transportOpen s.stopRequested
    (some message) (.inr (by intro h; cases h)))) ?_
  split
  · exact .outside hout (outside_raiseError _ _)
  · exact .refl _

/-- What `_on_thread_finished` does behind the removal of the session. -/
lemma outside_finished (c : AppController) (s : ManagedSession) :
    Outside c
      (let targetReplaced := c.selectedNodeId = some s.nodeId
      let c := if targetReplaced then
          { c with selectedNodeId := c.sessions.head?.map ManagedSession.nodeId }
        else c
      let c := c.emitNodes
      let c := if targetReplaced then
          c.emit (.selectedNodeChanged (c.selectedNodeId.getD []))
        else c
      if c.sessions = [] then
        let c := { c with timerActive := false, statusTimerActive := false }
        let c := if c.acceptRunning then c.emit (.wifiServerChanged true c.wifiServerLabel)
          else c.emit (.connectionChanged false [])
        c.emit .displayClearRequested
      else c) := by
  dsimp only
  have hlast : ∀ d : AppController, Outside d
      (if d.sessions = [] then
        (if d.acceptRunning = true then
          { d with timerActive := false, statusTimerActive := false }.emit
            (.wifiServerChanged true d.wifiServerLabel)
        else { d with timerActive := false, statusTimerActive := false }.emit
          (.connectionChanged false [])).emit .displayClearRequested
      else d) := by
    intro d
    have htimers : Outside d { d with timerActive := false, statusTimerActive := false } :=
      .of_core rfl le_rfl rfl
    split
    · split
      · exact htimers.trans (Outside.trans (.emit rfl) (.emit rfl))
      · exact htimers.trans (Outside.trans (.emit rfl) (.emit rfl))
    · exact .refl d
  by_cases hreplaced : c.selectedNodeId = some s.nodeId
  · rw [if_pos hreplaced, if_pos hreplaced]
    have hselected : Outside c
        { c with selectedNodeId := c.sessions.head?.map ManagedSession.nodeId } :=
      .of_core rfl le_rfl rfl
    exact hselected.trans (Outside.trans (outside_emitNodes _)
      (Outside.trans (.emit rfl) (hlast _)))
  · rw [if_neg hreplaced, if_neg hreplaced]
    exact Outside.trans (outside_emitNodes c) (hlast _)

/-- A session that gives its recorders up keeps its identity. -/
lemma released_sid (s : ManagedSession) (R : Recorders) : (s.released R).sid = s.sid := rfl

/-- What `_on_thread_finished` does, step by step. -/
lemma leads_onThreadFinished (h : Host) (hout : P .outside) (hdrop : P (.drop s.sid))
    (hdetach : P (.session s.sid .detach)) (hexport : P (.session s.sid .exportDetach))
    (live : s ∈ c.sessions) : Leads crc32 P c (c.onThreadFinished h s) := by
  unfold AppController.onThreadFinished
  split
  · exact .refl c
  · refine Leads.trans (leads_finalizeSessionRecorders h hout hdetach hexport live) ?_
    obtain ⟨R, signals, heq⟩ := finalizeSessionRecorders_eq c h s
    have hmem : s.released c.recorders ∈ (c.finalizeSessionRecorders h s).sessions := by
      rw [heq]
      exact AppController.mem_setSession_self live (released_sid s c.recorders)
    dsimp only
    generalize c.finalizeSessionRecorders h s = d at hmem ⊢
    -- the inventory keeps the node as unavailable, if it has it
    have hdropped : ∀ (state : ConnectionState), state = .reconnecting ∨ state = .offline →
        Leads crc32 P d ({ d with sessions := d.sessions.filter fun t => t.sid != s.sid }.withIndex
          (d.sessionIndex.markUnavailable state s.nodeId s.failure)) := by
      intro state hgone
      unfold AppController.withIndex
      cases hmarked : d.sessionIndex.markUnavailable state s.nodeId s.failure with
      | ok sessionIndex =>
        exact .step hdrop
          (.drop (s := s.released c.recorders) state s.failure hgone hmem ⟨rfl, rfl⟩ (.inl hmarked))
      | error error =>
        have hnone : d.sessionIndex.requireNode s.nodeId = .error (.unknownNode s.nodeId) := by
          unfold NodeSessionManager.markUnavailable at hmarked
          cases hrequire : d.sessionIndex.requireNode s.nodeId with
          | ok current =>
            rw [hrequire] at hmarked
            cases hmarked
          | error error' =>
            rw [(NodeSessionManager.requireNode_error hrequire).1]
        exact .step hdrop (.drop (s := s.released c.recorders) state s.failure hgone hmem ⟨rfl, rfl⟩
          (.inr ⟨hnone, rfl⟩))
    split
    · refine Leads.trans (hdropped .reconnecting (.inl rfl)) (.outside hout ?_)
      refine Outside.trans ?_ (outside_finished _ s)
      unfold AppController.withIndex AppController.releaseGatewayClient NodeSessionManager.markReconnecting
      dsimp only
      split
      · exact .of_core rfl le_rfl rfl
      · exact .of_core rfl le_rfl rfl
    · exact Leads.trans (hdropped .offline (.inr rfl)) (.outside hout (outside_finished _ s))

/-- The label, with 0 for the session. -/
def Label.kind : Label → Label
  | .session _ l => .session 0 l
  | .bind _ => .bind 0
  | .attach _ => .attach 0
  | .exportAttach _ => .exportAttach 0
  | .drop _ => .drop 0
  | l => l

/-- The labels of a disconnect. -/
def disconnectLabels : List Label :=
  [.outside, .own, .reset, .unlist, .session 0 .thread, .session 0 .detach, .session 0 .exportDetach]

/-- The labels of a command that is typed in. -/
def commandLabels (command : Text) : List Label :=
  [.outside, .session 0 (.queue .start), .session 0 (.queue .archiveExport),
    .session 0 (.queue .sdClear), .session 0 (.queue .other)] ++
    if AppController.isExportCommand command then [.exportAttach 0] else []

/-- The labels of a public operation. -/
def Operation.labels : Operation → List Label
  | .startWifiServer _ | .selectNode _ | .cancelOtaFor _ | .setAlias _ _ => [.outside]
  | .stopWifiServer | .disconnectDevice => disconnectLabels
  | .connectDevice _ | .acceptGatewayClient _ => [.outside, .add]
  | .removeOfflineNode _ => [.outside, .forget]
  | .sendCommand command | .sendCommandTo _ command => commandLabels command
  | .startAcquisition | .startAcquisitionFor _ => [.outside, .session 0 (.queue .start)]
  | .stopAcquisition | .stopAcquisitionFor _ | .setWatermark _ | .setWatermarkFor _ _
  | .setLivestream _ | .setLivestreamFor _ _ | .requestLivestream | .requestStatusAll =>
    [.outside, .session 0 (.queue .other)]
  | .startExportFor _ =>
    [.outside, .exportAttach 0, .session 0 .exportNote, .session 0 (.queue .archiveExport)]
  | .cancelExportFor _ => [.outside, .session 0 .exportCancel]
  | .clearSdFor _ => [.outside, .session 0 (.queue .sdClear)]
  | .startOtaFor _ _ => [.outside, .own, .session 0 .otaStart]
  | .clearDisplaySamples => [.session 0 .samples]
  | .setRecording _ _ =>
    [.outside, .recording, .attach 0, .session 0 .detach, .session 0 .cancelDeferral]

/-- The labels of an event. -/
def Event.labels : Event → List Label
  | .operation _ o => o.labels
  | .publishSnapshots _ =>
    [.outside, .complete, .bind 0, .attach 0, .exportAttach 0, .session 0 .thread,
      .session 0 .identities, .session 0 .replies, .session 0 .exportDetach, .session 0 .exportNote,
      .session 0 (.queue .archiveExport)]
  | .requestStatus => [.session 0 (.queue .other)]
  | .pollOtaReconnect _ => [.outside, .own, .add, .reconnected, .session 0 (.queue .other)]
  | .workerFailed _ => [.outside, .session 0 .thread]
  | .threadFinished _ _ => [.outside, .drop 0, .session 0 .detach, .session 0 .exportDetach]
  | .otaProgress _ _ _ _ | .acceptFailed _ | .acceptSocket _ => [.outside]
  | .otaOutcome _ _ _ => [.outside, .own, .session 0 .otaEnd]
  | .gatewayEnvelope => [.outside, .add]
  | .send _ => [.session 0 .send]
  | .read _ _ => [.session 0 .read]
  | .handle _ _ => [.session 0 .handle]
  | .raises _ _ | .returns _ => [.session 0 .thread]
  | .write _ _ => [.write]
  | .uploaderSends _ _ | .uploaderReads _ => [.session 0 .bridge]

/-- The label is one of those of the event. -/
def Event.Allows (e : Event) (l : Label) : Prop := e.labels.contains l.kind = true

/-- What a typed text does is told by its lines. -/
lemma leads_sendCommand_labels (h : Host) (nodeId command : Text) :
    Leads crc32 (fun l => (commandLabels command).contains l.kind = true) c (c.sendCommandTo h nodeId command) := by
  refine leads_sendCommandTo h nodeId command ?_ ?_ ?_
  · rfl
  · intro hexport s _ _
    unfold commandLabels
    rw [if_pos hexport]
    rfl
  · intro s _ _ encoded _
    unfold commandLabels
    cases commandKind encoded with
    | start => rfl
    | archiveExport => rfl
    | sdClear => rfl
    | other => rfl

/-- A public operation is a chain of steps with its labels. -/
lemma operate_leads (h : Host) (o : Operation) :
    Leads crc32 (fun l => o.labels.contains l.kind = true) c (c.operate crc32 h o) := by
  have hother : ∀ {s : ManagedSession} {command : String}, s ∈ c.sessions →
      commandKind (asciiBytes command.toList) = .other →
        Leads crc32 (fun l => [Label.outside, .session 0 (.queue .other)].contains l.kind = true) c
          (c.setAcquisition s (s.acquisition.queueCommand command)) :=
    fun live asks => leads_queueCommand live asks rfl
  cases o with
  | startWifiServer endpoint => exact .outside rfl (outside_startWifiServer c h endpoint)
  | stopWifiServer =>
    exact leads_stopWifiServer h rfl rfl rfl rfl
      (fun _ => rfl) (fun _ => rfl) (fun _ => rfl)
  | connectDevice deviceId => exact leads_connectDevice h deviceId rfl rfl
  | acceptGatewayClient client => exact leads_acceptGatewayClient client rfl rfl
  | disconnectDevice =>
    exact leads_disconnectDevice h rfl rfl rfl rfl
      (fun _ => rfl) (fun _ => rfl) (fun _ => rfl)
  | selectNode nodeId => exact .outside rfl (outside_selectNode c nodeId)
  | removeOfflineNode nodeId => exact leads_removeOfflineNode nodeId rfl rfl
  | sendCommand command =>
    have hout : (commandLabels command).contains Label.outside.kind = true := rfl
    exact leads_withSelected hout fun nodeId => leads_sendCommand_labels h nodeId command
  | sendCommandTo nodeId command => exact leads_sendCommand_labels h nodeId command
  | startAcquisition =>
    refine leads_withSelected rfl fun nodeId => leads_withSession rfl ?_
    intro s live _
    split
    · exact .outside rfl (outside_raiseError _ _)
    · exact leads_queueCommand (k := .start) live (by decide +kernel) rfl
  | startAcquisitionFor nodeId =>
    refine leads_withSession rfl ?_
    intro s live _
    split
    · exact .outside rfl (outside_raiseError _ _)
    · exact leads_queueCommand (k := .start) live (by decide +kernel) rfl
  | stopAcquisition =>
    refine leads_withSelected rfl fun nodeId => leads_withSession rfl ?_
    exact fun s live _ => hother live (by decide +kernel)
  | stopAcquisitionFor nodeId =>
    refine leads_withSession rfl ?_
    exact fun s live _ => hother live (by decide +kernel)
  | setWatermark words =>
    show Leads crc32 _ c (c.setWatermark words)
    unfold AppController.setWatermark
    split
    · exact .refl c
    · refine leads_withSession rfl ?_
      exact fun s live _ => leads_setWatermark rfl live rfl
  | setWatermarkFor nodeId words =>
    refine leads_withSession rfl ?_
    exact fun s live _ => leads_setWatermark rfl live rfl
  | setLivestream target =>
    refine leads_withSelected rfl fun nodeId => leads_withSession rfl ?_
    exact fun s live _ => leads_setLivestream rfl live rfl
  | setLivestreamFor nodeId target =>
    refine leads_withSession rfl ?_
    exact fun s live _ => leads_setLivestream rfl live rfl
  | requestLivestream =>
    show Leads crc32 _ c c.requestLivestream
    unfold AppController.requestLivestream AppController.selectedSession
    cases hselected : c.selectedNodeId.bind c.session? with
    | none => exact .refl c
    | some s =>
      obtain ⟨nodeId, -, hsession⟩ := Option.bind_eq_some_iff.mp hselected
      exact hother (session?_some hsession).1 (by decide +kernel)
  | requestStatusAll =>
    refine leads_mapSessions ?_
    exact fun s => .inr ⟨.queue .other, rfl, .queue _ .other (by decide +kernel)⟩
  | startExportFor nodeId =>
    exact leads_startExportFor h nodeId rfl fun _ _ _ _ => ⟨rfl, rfl, rfl⟩
  | cancelExportFor nodeId => exact leads_cancelExportFor nodeId rfl (fun _ => rfl)
  | clearSdFor nodeId => exact leads_clearSdFor nodeId rfl (fun _ => rfl)
  | startOtaFor nodeId package =>
    exact leads_startOtaFor nodeId package rfl rfl (fun _ => rfl)
  | cancelOtaFor nodeId => exact .outside rfl (outside_cancelOtaFor c nodeId)
  | clearDisplaySamples =>
    show Leads crc32 _ c c.clearDisplaySamples
    unfold AppController.clearDisplaySamples AppController.selectedSession
    cases hselected : c.selectedNodeId.bind c.session? with
    | none => exact .refl c
    | some s =>
      obtain ⟨nodeId, -, hsession⟩ := Option.bind_eq_some_iff.mp hselected
      exact .setSession (l := .samples) rfl (session?_some hsession).1 .samples
  | setRecording enabled path =>
    exact leads_setRecording h enabled path rfl rfl (fun _ => rfl)
      (fun _ => rfl) (fun _ => rfl)
  | setAlias nodeId name => exact leads_setAlias nodeId name rfl

/-- What a worker does, it does to its own session. -/
lemma leads_onWorker {sid : Nat} {f : AppController → ManagedSession → AppController}
    (h : ∀ s ∈ c.sessions, s.sid = sid → s.worker = .running → Leads crc32 P c (f c s)) :
    Leads crc32 P c (c.onWorker sid f) := by
  refine leads_onSession ?_
  intro s live hsid
  split
  · rename_i hrunning
    exact h s live hsid hrunning
  · exact .refl c

/-- What handling a frame does. -/
lemma leads_handleStep (message : Text) (hP : P (.session s.sid .handle)) (live : s ∈ c.sessions)
    (running : s.worker = .running) : Leads crc32 P c (c.handleStep message s) := by
  have hstep : Leads crc32 P c
      ({ c with recorders := (s.handled c.recorders message).2 }.setSession
        (s.handled c.recorders message).1) := .session hP live (.handle running message)
  unfold ManagedSession.handled at hstep
  unfold AppController.handleStep
  cases hnext : s.acquisition.handleNext c.recorders with
  | mk acquisition rest =>
    obtain ⟨R, error⟩ := rest
    rw [hnext] at hstep
    cases error with
    | none => exact hstep
    | some error => exact hstep

/-- What an upload does, it does to the connection that it goes over. -/
lemma leads_onUpload {upload : Nat} {f : AcquisitionController → AcquisitionController}
    (h : ∀ s ∈ c.sessions, Leads crc32 P c (c.setAcquisition s (f s.acquisition))) :
    Leads crc32 P c (c.onUpload upload f) := by
  unfold AppController.onUpload
  cases c.upload? upload with
  | none => exact .refl c
  | some u => exact leads_onSession fun s live _ => h s live

/-- An event is a chain of steps with its labels. -/
theorem step_leads (e : Event) : Leads crc32 e.Allows c (c.step crc32 e) := by
  cases e with
  | operation h o => exact operate_leads h o
  | publishSnapshots h =>
    show Leads crc32 _ c (if c.timerActive then c.publishSnapshots h else c)
    split
    · refine leads_forSessions ?_
      intro c s live
      refine leads_publishSession h ?_ rfl (fun _ _ _ => ⟨rfl, rfl, rfl⟩) (fun _ => rfl) live
      intro l hl
      cases l with
      | session x l =>
        cases l with
        | thread => rfl
        | identities => rfl
        | replies => rfl
        | _ => exact hl.elim
      | outside => rfl
      | bind x => rfl
      | attach x => rfl
      | _ => exact hl.elim
    · exact .refl c
  | requestStatus =>
    show Leads crc32 _ c (if c.statusTimerActive then c.requestStatus else c)
    split
    · refine leads_mapSessions ?_
      intro s
      split
      · exact .inr ⟨.queue .other, rfl, .queue _ .other (by decide +kernel)⟩
      · exact .inl rfl
    · exact .refl c
  | pollOtaReconnect h =>
    show Leads crc32 _ c (if c.otaReconnectTimerActive then c.pollOtaReconnect h else c)
    split
    · exact leads_pollOtaReconnect h rfl rfl rfl (fun _ => rfl)
        rfl
    · exact .refl c
  | workerFailed sid =>
    unfold AppController.step
    refine leads_onSession ?_
    intro s live _
    cases s.worker with
    | failing message => exact leads_onWorkerFailed message rfl rfl live
    | running => exact .refl c
    | finishing => exact .refl c
  | threadFinished h sid =>
    unfold AppController.step
    refine leads_onSession ?_
    intro s live _
    split
    · exact leads_onThreadFinished h rfl rfl rfl rfl live
    · exact .refl c
  | otaProgress upload sent total phase =>
    rw [AppController.step]
    split
    · exact .refl c
    · exact .outside rfl (.emit rfl)
  | otaOutcome h upload outcome =>
    exact leads_onOtaOutcome h upload outcome rfl rfl (fun _ => rfl)
  | gatewayEnvelope =>
    rw [AppController.step]
    split
    · exact .refl c
    · rename_i envelope envelopes _
      have htaken : Outside c { c with envelopes := envelopes } := .of_core rfl le_rfl rfl
      refine Leads.trans (.outside rfl htaken) ?_
      unfold AppController.acceptGatewayEnvelope
      split
      · exact leads_acceptGatewayClient envelope.client rfl rfl
      · exact .refl _
  | acceptFailed message =>
    show Leads crc32 _ c (if c.acceptRunning then
      { c with acceptRunning := false }.raiseError message else c)
    split
    · have hstopped : Outside c { c with acceptRunning := false } := .of_core rfl le_rfl rfl
      exact .outside rfl (hstopped.trans (outside_raiseError _ _))
    · exact .refl c
  | acceptSocket peer =>
    refine .outside rfl ?_
    rw [AppController.step]
    split
    · exact .of_core rfl le_rfl rfl
    · exact .refl c
  | send sid =>
    refine leads_onWorker ?_
    intro s live _ running
    split
    · exact .setSession (l := .send) (by rfl) live (.send running)
    · exact .refl c
  | read sid chunk =>
    refine leads_onWorker ?_
    intro s live _ running
    split
    · rename_i hready
      exact .setSession (l := .read) (by rfl) live (.read running hready.1 chunk)
    · exact .refl c
  | handle sid message =>
    exact leads_onWorker fun s live _ running => leads_handleStep message rfl live running
  | raises sid message =>
    refine leads_onWorker ?_
    intro s live _ _
    split
    · refine .setSession (l := .thread) (by rfl) live
        (.thread (.failing message) false s.stopRequested s.failure (.inr ?_))
      intro h
      cases h
    · exact .refl c
  | returns sid =>
    refine leads_onWorker ?_
    intro s live _ _
    split
    · refine .setSession (l := .thread) (by rfl) live
        (.thread .finishing false s.stopRequested s.failure (.inr ?_))
      intro h
      cases h
    · exact .refl c
  | write recorder outcome => exact .step (by rfl) (.write recorder outcome)
  | uploaderSends upload data =>
    unfold AppController.step
    refine leads_onUpload ?_
    intro s live
    exact .setSession (l := .bridge) (by rfl) live
      (.bridge s.acquisition.otaReplies (s.acquisition.otaOutbound ++ [data]))
  | uploaderReads upload =>
    unfold AppController.step
    refine leads_onUpload ?_
    intro s live
    unfold AcquisitionController.nextOtaReply
    split
    · intro wf
      have hself : c.setAcquisition s s.acquisition = c := wf.setSession_self live
      rw [hself]
      exact .refl
    · rename_i line lines _
      exact .setSession (l := .bridge) (by rfl) live (.bridge lines s.acquisition.otaOutbound)

end SensorHost.Presentation
