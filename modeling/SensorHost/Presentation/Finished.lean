import SensorHost.Presentation.Changes

/-!
# Who reports the end of an export

Only the poll emits `exportFinished` (`finished_step`): every other event leaves the reports that there
are (`AppController.finished`) alone.

There is a lemma for each operation and for each helper that emits a signal, in the order of the
source. Most are an unfolding and a case split over the branches, in each of which the signals
emitted are other ones (`finished_emit`); loops and lookups of a session have their own rules
(`finished_onSession`, `finished_withSession`). What the poll reports is the subject of
`Presentation.ExportPoll`.
-/

namespace SensorHost.Presentation
open SensorHost.Lib SensorHost.Protocol SensorHost.Storage SensorHost.Acquisition SensorHost.Ota
  SensorHost.Transport

/-- The signal reports the end of an export. -/
def Signal.isFinished : Signal → Bool
  | .exportFinished _ _ _ => true
  | _ => false

namespace AppController

/-- The ends of exports that were reported. -/
def finished (c : AppController) : List Signal := c.signals.filter Signal.isFinished

variable {c d : AppController} {s : ManagedSession} {h : Host} {sid : Nat} {nodeId : Text}

/-- A signal that reports no end of an export. -/
lemma finished_emit {g : Signal} (hg : g.isFinished = false) : (c.emit g).finished = c.finished := by
  unfold finished emit
  rw [List.filter_append, List.filter_cons_of_neg (Bool.eq_false_iff.mp hg), List.filter_nil,
    List.append_nil]

/-- The end of an export that is reported is the last one. -/
lemma finished_report {g : Signal} (hg : g.isFinished = true) :
    (c.emit g).finished = c.finished ++ [g] := by
  unfold finished emit
  rw [List.filter_append, List.filter_cons_of_pos hg, List.filter_nil]

/-- An error is no end of an export. -/
@[simp]
lemma finished_raiseError (message : Text) : (c.raiseError message).finished = c.finished :=
  finished_emit rfl

/-- Nor is a change of a session. -/
@[simp]
lemma finished_setSession (s : ManagedSession) : (c.setSession s).finished = c.finished := rfl

/-- Nor is one of its connection. -/
@[simp]
lemma finished_setAcquisition (s : ManagedSession) (a : AcquisitionController) :
    (c.setAcquisition s a).finished = c.finished := rfl

/-- Nor is one of all the sessions. -/
@[simp]
lemma finished_mapSessions (f : ManagedSession → ManagedSession) :
    (c.mapSessions f).finished = c.finished := rfl

/-- `_emit_ota_availability` reports no end of an export. -/
@[simp]
lemma finished_emitOtaAvailability : c.emitOtaAvailability.finished = c.finished := by
  unfold emitOtaAvailability
  split
  · exact finished_emit rfl
  · split
    · exact finished_emit rfl
    · split
      · exact finished_emit rfl
      · exact finished_emit rfl

/-- `_emit_nodes` reports no end of an export. -/
@[simp]
lemma finished_emitNodes : c.emitNodes.finished = c.finished := by
  unfold emitNodes
  exact finished_emitOtaAvailability.trans (finished_emit rfl)

/-- Nor is one of the inventory. -/
@[simp]
lemma finished_withIndex (result : Except SessionError NodeSessionManager) :
    (c.withIndex result).finished = c.finished := by
  unfold withIndex
  split
  · rfl
  · rfl

/-- Nor is the stop of a recorder. -/
@[simp]
lemma finished_stopRecorder (h : Host) (id : Nat) : (c.stopRecorder h id).1.finished = c.finished := by
  unfold stopRecorder
  split
  · rfl
  · exact finished_raiseError _
  · rfl

/-- Where neither branch reports an end none is reported. -/
lemma finished_ite {p : Prop} [Decidable p] {a b : AppController} (ha : a.finished = c.finished)
    (hb : b.finished = c.finished) : (if p then a else b).finished = c.finished := by
  split
  · exact ha
  · exact hb

/-- Nor is one reported where the session is looked up first. -/
lemma finished_withSession {f : ManagedSession → AppController}
    (hf : ∀ s, (f s).finished = c.finished) : (c.withSession nodeId f).finished = c.finished := by
  unfold withSession
  split
  · exact finished_raiseError _
  · exact hf _

/-- Nor is one where the node has to be selected. -/
lemma finished_withSelected {message : String} {f : Text → AppController}
    (hf : ∀ nodeId, (f nodeId).finished = c.finished) :
    (c.withSelected message f).finished = c.finished := by
  unfold withSelected
  split
  · exact finished_raiseError _
  · exact hf _

/-- Nor is one where the session may be gone. -/
lemma finished_onSession {f : AppController → ManagedSession → AppController}
    (hf : ∀ s, (f c s).finished = c.finished) : (c.onSession sid f).finished = c.finished := by
  unfold onSession
  split
  · rfl
  · exact hf _

/-- `_start_session_recording` reports no end of an export. -/
lemma finished_startSessionRecording (h : Host) (s : ManagedSession) :
    (c.startSessionRecording h s).finished = c.finished := by
  unfold startSessionRecording
  split
  · rfl
  · split
    · rfl
    · dsimp only
      split
      · exact finished_raiseError _
      · exact (finished_withIndex _).trans (finished_setSession _)

/-- `_stop_session_recording` reports no end of an export. -/
lemma finished_stopSessionRecording (h : Host) (s : ManagedSession) :
    (c.stopSessionRecording h s).finished = c.finished := by
  unfold stopSessionRecording
  split
  · rfl
  · exact (finished_withIndex _).trans (finished_stopRecorder h _)

/-- `_finalize_session_recorders` reports no end of an export. -/
lemma finished_finalizeSessionRecorders (h : Host) (s : ManagedSession) :
    (c.finalizeSessionRecorders h s).finished = c.finished := by
  unfold finalizeSessionRecorders
  dsimp only
  split
  · split
    · rfl
    · exact finished_stopRecorder h _
  · refine (finished_stopRecorder h _).trans ?_
    split
    · rfl
    · exact finished_stopRecorder h _

/-- `set_recording` reports no end of an export. -/
lemma finished_setRecording (h : Host) (enabled : Bool) (path : Option Path) :
    (c.setRecording h enabled path).finished = c.finished := by
  unfold setRecording
  split
  · split
    · exact finished_raiseError _
    · split
      · rfl
      · split
        · exact finished_raiseError _
        · refine finished_emitNodes.trans (forSessions_field finished ?_ _)
          intro a s
          split
          · exact finished_startSessionRecording h s
          · rfl
  · refine finished_emitNodes.trans (forSessions_field (c := { c with recordingActive := false })
      finished ?_)
    exact fun a s => finished_stopSessionRecording h s

/-- `_stop_wifi_resources` reports no end of an export. -/
lemma finished_stopWifiResources (h : Host) : (c.stopWifiResources h).finished = c.finished := by
  unfold stopWifiResources
  dsimp only
  split
  · exact finished_raiseError _
  · rfl

/-- `select_node` reports no end of an export. -/
lemma finished_selectNode (nodeId : Text) : (c.selectNode nodeId).finished = c.finished :=
  finished_withSession fun _ => finished_emitOtaAvailability.trans (finished_emit rfl)

/-- `_add_session` reports no end of an export. -/
lemma finished_addSession {nodeId peer : Text} {kind : TransportKind}
    (hadd : c.addSession nodeId peer kind = .ok d) : d.finished = c.finished := by
  unfold addSession at hadd
  split at hadd
  · cases hadd
  · cases hadd
    refine finished_emitNodes.trans ((finished_emit rfl).trans ?_)
    split
    · exact finished_selectNode nodeId
    · rfl

/-- `start_wifi_server` reports no end of an export. -/
lemma finished_startWifiServer (h : Host) (endpoint : Text) :
    (c.startWifiServer h endpoint).finished = c.finished := by
  unfold startWifiServer
  split
  · exact finished_raiseError _
  · split
    · exact finished_raiseError _
    · exact finished_emit rfl

/-- `connect_device` reports no end of an export. -/
lemma finished_connectDevice (h : Host) (deviceId : Text) :
    (c.connectDevice h deviceId).finished = c.finished := by
  unfold connectDevice
  split
  · exact finished_raiseError _
  · split
    · exact finished_raiseError _
    · split
      · exact (finished_emit rfl).trans (finished_raiseError _)
      · split
        · rename_i hadd
          exact finished_addSession hadd
        · exact (finished_emit rfl).trans (finished_raiseError _)

/-- `accept_gateway_client` reports no end of an export. -/
lemma finished_acceptGatewayClient (client : AcceptedGatewayClient) :
    (c.acceptGatewayClient client).finished = c.finished := by
  unfold acceptGatewayClient
  split
  · exact finished_raiseError _
  · split
    · rename_i hadd
      exact finished_addSession hadd
    · exact finished_raiseError _

/-- `disconnect_device` reports no end of an export. -/
lemma finished_disconnectDevice (h : Host) : (c.disconnectDevice h).finished = c.finished := by
  unfold disconnectDevice
  dsimp only
  refine (finished_emit rfl).trans ((finished_emit rfl).trans (finished_emitNodes.trans ?_))
  refine (forSessions_field finished ?_ _).trans ?_
  · intro a s
    refine (finished_finalizeSessionRecorders h s).trans ?_
    split
    · rfl
    · exact finished_raiseError _
  · exact finished_stopWifiResources (c := { c with isStopping := true }) h

/-- `stop_wifi_server` reports no end of an export. -/
lemma finished_stopWifiServer (h : Host) : (c.stopWifiServer h).finished = c.finished := by
  unfold stopWifiServer
  dsimp only
  refine (finished_emit rfl).trans ?_
  split
  · exact (finished_disconnectDevice h).trans (finished_stopWifiResources h)
  · exact finished_stopWifiResources h

/-- `remove_offline_node` reports no end of an export. -/
lemma finished_removeOfflineNode (nodeId : Text) :
    (c.removeOfflineNode nodeId).finished = c.finished := by
  unfold removeOfflineNode
  split
  · exact finished_raiseError _
  · split
    · exact finished_raiseError _
    · split
      · exact finished_raiseError _
      · exact finished_emitNodes

/-- `set_alias` reports no end of an export. -/
lemma finished_setAlias (nodeId name : Text) : (c.setAlias nodeId name).finished = c.finished := by
  unfold setAlias
  split
  · exact finished_raiseError _
  · dsimp only
    refine finished_emitNodes.trans ?_
    split
    · rfl
    · rfl

/-- Queueing a command reports no end of an export. -/
lemma finished_enqueue (s : ManagedSession) (result : Except Text AcquisitionController) :
    (c.enqueue s result).finished = c.finished := by
  unfold enqueue
  split
  · rfl
  · exact finished_raiseError _

/-- `_start_archive_recording` reports no end of an export. -/
lemma finished_startArchiveRecording (h : Host) (s : ManagedSession) :
    (c.startArchiveRecording h s).1.finished = c.finished := by
  unfold startArchiveRecording
  split
  · rfl
  · split
    · rfl
    · split
      · rfl
      · dsimp only
        split
        · rfl
        · rfl

/-- `send_command_to` reports no end of an export. -/
lemma finished_sendCommandTo (h : Host) (nodeId command : Text) :
    (c.sendCommandTo h nodeId command).finished = c.finished := by
  refine finished_withSession fun s => ?_
  have harchive := finished_startArchiveRecording (c := c) h s
  split
  · split
    · rename_i heq
      rw [heq] at harchive
      exact (finished_raiseError _).trans harchive
    · rename_i heq
      rw [heq] at harchive
      exact (finished_enqueue _ _).trans harchive
  · exact finished_enqueue _ _

/-- `start_acquisition_for` reports no end of an export. -/
lemma finished_startAcquisitionFor (nodeId : Text) :
    (c.startAcquisitionFor nodeId).finished = c.finished := by
  refine finished_withSession fun s => ?_
  split
  · exact finished_raiseError _
  · rfl

/-- `start_export_for` reports no end of an export. -/
lemma finished_startExportFor (h : Host) (nodeId : Text) :
    (c.startExportFor h nodeId).finished = c.finished := by
  refine finished_withSession fun s => ?_
  have harchive := finished_startArchiveRecording (c := c) h s
  split
  · exact finished_raiseError _
  · split
    · exact finished_raiseError _
    · split
      · exact finished_raiseError _
      · split
        · exact finished_raiseError _
        · split
          · exact finished_raiseError _
          · dsimp only
            split
            · rename_i heq
              rw [heq] at harchive
              exact (finished_raiseError _).trans harchive
            · rename_i heq
              rw [heq] at harchive
              exact (finished_emit rfl).trans harchive

/-- `cancel_export_for` reports no end of an export. -/
lemma finished_cancelExportFor (nodeId : Text) :
    (c.cancelExportFor nodeId).finished = c.finished := by
  refine finished_withSession fun s => ?_
  split
  · rfl
  · rfl

/-- `clear_sd_for` reports no end of an export. -/
lemma finished_clearSdFor (nodeId : Text) : (c.clearSdFor nodeId).finished = c.finished := by
  refine finished_withSession fun s => ?_
  split
  · exact finished_raiseError _
  · split
    · exact finished_raiseError _
    · split
      · exact finished_raiseError _
      · rfl

/-- Binding identities reports none. -/
lemma finished_bindIdentities (h : Host) (sid : Nat) (uuids : List Uuid) :
    (c.bindIdentities h sid uuids).finished = c.finished := by
  induction uuids generalizing c with
  | nil => rfl
  | cons uuid uuids ih =>
    rw [bindIdentities]
    split
    · rfl
    · split
      · exact finished_raiseError _
      · refine ih.trans (finished_emitNodes.trans (finished_ite ?_ rfl))
        exact finished_startSessionRecording h _

/-- Publishing replies reports none. -/
lemma finished_publishReplies (s : ManagedSession) : (c.publishReplies s).finished = c.finished := by
  have hall : ∀ (f : Text → Signal) (texts : List Text) (d : AppController),
      (∀ text, (f text).isFinished = false) →
        (texts.foldl (fun d text => d.emit (f text)) d).finished = d.finished := by
    intro f texts d hf
    induction texts generalizing d with
    | nil => rfl
    | cons text texts ih => exact (ih _).trans (finished_emit (hf text))
  unfold publishReplies
  dsimp only
  refine finished_ite ?_ ?_
  · exact (hall .cliResponse _ _ fun _ => rfl).trans (hall (.cliResponseFrom s.nodeId) _ _ fun _ => rfl)
  · exact hall (.cliResponseFrom s.nodeId) _ _ fun _ => rfl

/-- `start_ota_for` reports no end of an export. -/
lemma finished_startOtaFor (crc32 : Bytes → UInt32) (nodeId : Text) (package : PackageSource) :
    (c.startOtaFor crc32 nodeId package).finished = c.finished := by
  refine finished_withSession fun s => ?_
  split
  · exact (finished_raiseError _).trans (finished_emit rfl)
  · split
    · exact finished_raiseError _
    · split
      · exact finished_raiseError _
      · split
        · exact finished_raiseError _
        · split
          · exact finished_raiseError _
          · split
            · exact finished_raiseError _
            · dsimp only
              split
              · exact (finished_raiseError _).trans (finished_emit rfl)
              · refine finished_emitOtaAvailability.trans ((finished_emit rfl).trans ?_)
                show finished (ite _ _ _) = _
                split
                · exact finished_emit rfl
                · rfl

/-- The end of an upload reports none. -/
lemma finished_changeSession (nodeId : Text) (f : ManagedSession → ManagedSession) :
    (c.changeSession nodeId f).finished = c.finished := by
  unfold changeSession
  split
  · rfl
  · rfl

/-- `_arm_ota_reconnect` reports no end of an export. -/
lemma finished_armOtaReconnect (h : Host) : (c.armOtaReconnect h).finished = c.finished := by
  unfold armOtaReconnect
  split
  · rfl
  · rfl

/-- No signal of an upload reports one. -/
lemma finished_onOtaOutcome (h : Host) (upload : Nat) (outcome : OtaOutcome) :
    (c.onOtaOutcome h upload outcome).finished = c.finished := by
  have hend : ∀ (d : AppController) (nodeId : Text) (awaiting : Bool),
      (d.changeSession nodeId (endUpload awaiting)).teardownOtaWorker.finished = d.finished :=
    fun d nodeId awaiting => finished_changeSession nodeId _
  unfold onOtaOutcome
  split
  · rfl
  · cases outcome with
    | staged version crc =>
      unfold onOtaStaged
      refine finished_emitOtaAvailability.trans ((finished_armOtaReconnect h).trans ?_)
      refine (finished_emit rfl).trans ?_
      have hstaged : ∀ (d : AppController) (nodeId crcText : Text) (matching : Bool),
          ((d.changeSession nodeId (endUpload true)).emit
            (.otaStaged nodeId version crcText matching)).finished = d.finished :=
        fun d nodeId crcText matching => (finished_emit rfl).trans (finished_changeSession _ _)
      refine finished_ite ?_ ?_
      · exact hstaged _ _ _ _
      · exact (finished_raiseError _).trans (hstaged _ _ _ _)
    | failed code message =>
      unfold onOtaFailed
      refine finished_emitOtaAvailability.trans ((finished_raiseError _).trans ?_)
      exact (finished_emit rfl).trans (hend _ _ _)
    | cancelled =>
      unfold onOtaCancelled
      exact finished_emitOtaAvailability.trans ((finished_emit rfl).trans (hend _ _ _))

/-- `_finish_ota_reconnect` reports no end of an export. -/
lemma finished_finishOtaReconnect (status detail : String) :
    (c.finishOtaReconnect status detail).finished = c.finished := by
  unfold finishOtaReconnect
  dsimp only
  refine finished_emitOtaAvailability.trans ?_
  split
  · exact (finished_raiseError _).trans (finished_emit rfl)
  · exact finished_emit rfl

/-- `_attempt_ota_cdc_reopen` reports no end of an export. -/
lemma finished_attemptOtaCdcReopen (h : Host) (deviceId : Text) :
    (c.attemptOtaCdcReopen h deviceId).finished = c.finished := by
  unfold attemptOtaCdcReopen
  split
  · rfl
  · split
    · rename_i hadd
      exact finished_addSession hadd
    · rfl

/-- The reconnect poll reports none. -/
lemma finished_pollSessions (expected : Option Uuid) (sids : List Nat) :
    (pollSessions expected c sids).finished = c.finished := by
  induction sids generalizing c with
  | nil => rfl
  | cons sid sids ih =>
    rw [pollSessions]
    split
    · exact ih
    · split
      · dsimp only
        split
        · exact finished_finishOtaReconnect _ _
        · exact ih
      · exact ih

/-- `_poll_ota_reconnect` reports no end of an export. -/
lemma finished_pollOtaReconnect (h : Host) : (c.pollOtaReconnect h).finished = c.finished := by
  unfold pollOtaReconnect
  split
  · rfl
  · split
    · exact finished_finishOtaReconnect _ _
    · dsimp only
      refine (finished_pollSessions _ _).trans ?_
      split
      · exact finished_attemptOtaCdcReopen h _
      · rfl

/-- `_on_worker_failed` reports no end of an export. -/
lemma finished_onWorkerFailed (s : ManagedSession) (message : Text) :
    (c.onWorkerFailed s message).finished = c.finished := by
  unfold onWorkerFailed
  dsimp only
  split
  · exact finished_raiseError _
  · rfl

/-- What `_on_thread_finished` does behind the removal of the session. -/
lemma finished_displayed (c : AppController) (s : ManagedSession) :
    (let targetReplaced := c.selectedNodeId = some s.nodeId
      let c := if targetReplaced then
          { c with selectedNodeId := c.sessions.head?.map ManagedSession.nodeId }
        else c
      let c := c.emitNodes
      let c := if targetReplaced then
          c.emit (.selectedNodeChanged (c.selectedNodeId.getD []))
        else c
      if c.sessions = [] then
        let c := { c with timerActive := false, statusTimerActive := false }
        let c := if c.acceptRunning then c.emit (.wifiServerChanged true c.wifiServerLabel)
          else c.emit (.connectionChanged false [])
        c.emit .displayClearRequested
      else c).finished = c.finished := by
  dsimp only
  have hlast : ∀ d : AppController, (if d.sessions = [] then
      (if d.acceptRunning = true then
        { d with timerActive := false, statusTimerActive := false }.emit
          (.wifiServerChanged true d.wifiServerLabel)
      else { d with timerActive := false, statusTimerActive := false }.emit
        (.connectionChanged false [])).emit .displayClearRequested
      else d).finished = d.finished := by
    intro d
    refine finished_ite ((finished_emit rfl).trans (finished_ite ?_ ?_)) rfl
    · exact finished_emit rfl
    · exact finished_emit rfl
  by_cases hreplaced : c.selectedNodeId = some s.nodeId
  · rw [if_pos hreplaced, if_pos hreplaced]
    exact (hlast _).trans ((finished_emit rfl).trans finished_emitNodes)
  · rw [if_neg hreplaced, if_neg hreplaced]
    exact (hlast _).trans finished_emitNodes

/-- `_on_thread_finished` reports no end of an export. -/
lemma finished_onThreadFinished (h : Host) (s : ManagedSession) :
    (c.onThreadFinished h s).finished = c.finished := by
  unfold onThreadFinished
  split
  · rfl
  · refine (finished_displayed _ s).trans (finished_ite ?_ ?_)
    · exact (finished_withIndex _).trans (finished_finalizeSessionRecorders h s)
    · exact (finished_withIndex _).trans (finished_finalizeSessionRecorders h s)

/-- What a worker does reports none. -/
lemma finished_onWorker {f : AppController → ManagedSession → AppController}
    (hf : ∀ s, (f c s).finished = c.finished) : (c.onWorker sid f).finished = c.finished := by
  refine finished_onSession fun s => ?_
  split
  · exact hf s
  · rfl

/-- What an upload does to its connection reports none. -/
lemma finished_onUpload {upload : Nat} {f : AcquisitionController → AcquisitionController} :
    (c.onUpload upload f).finished = c.finished := by
  unfold onUpload
  split
  · rfl
  · exact finished_onSession fun s => rfl

/-- No operation reports one. -/
lemma finished_operate (crc32 : Bytes → UInt32) (h : Host) (o : Operation) :
    (c.operate crc32 h o).finished = c.finished := by
  cases o with
  | startWifiServer endpoint => exact finished_startWifiServer h endpoint
  | stopWifiServer => exact finished_stopWifiServer h
  | connectDevice deviceId => exact finished_connectDevice h deviceId
  | acceptGatewayClient client => exact finished_acceptGatewayClient client
  | disconnectDevice => exact finished_disconnectDevice h
  | selectNode nodeId => exact finished_selectNode nodeId
  | removeOfflineNode nodeId => exact finished_removeOfflineNode nodeId
  | sendCommand command =>
    exact finished_withSelected fun nodeId => finished_sendCommandTo h nodeId command
  | sendCommandTo nodeId command => exact finished_sendCommandTo h nodeId command
  | startAcquisition => exact finished_withSelected fun nodeId => finished_startAcquisitionFor nodeId
  | startAcquisitionFor nodeId => exact finished_startAcquisitionFor nodeId
  | stopAcquisition =>
    exact finished_withSelected fun nodeId => finished_withSession fun s => finished_setAcquisition s _
  | stopAcquisitionFor nodeId => exact finished_withSession fun s => finished_setAcquisition s _
  | setWatermark words =>
    unfold operate setWatermark
    dsimp only
    split
    · rfl
    · exact finished_withSession fun s => finished_enqueue s _
  | setWatermarkFor nodeId words => exact finished_withSession fun s => finished_enqueue s _
  | setLivestream target =>
    exact finished_withSelected fun nodeId => finished_withSession fun s => finished_enqueue s _
  | setLivestreamFor nodeId target => exact finished_withSession fun s => finished_enqueue s _
  | requestLivestream =>
    unfold operate requestLivestream
    dsimp only
    split
    · rfl
    · rfl
  | requestStatusAll => rfl
  | startExportFor nodeId => exact finished_startExportFor h nodeId
  | cancelExportFor nodeId => exact finished_cancelExportFor nodeId
  | clearSdFor nodeId => exact finished_clearSdFor nodeId
  | startOtaFor nodeId package => exact finished_startOtaFor crc32 nodeId package
  | cancelOtaFor nodeId =>
    unfold operate cancelOtaFor
    dsimp only
    split
    · rfl
    · rfl
  | clearDisplaySamples =>
    unfold operate clearDisplaySamples
    dsimp only
    split
    · rfl
    · rfl
  | setRecording enabled path => exact finished_setRecording h enabled path
  | setAlias nodeId name => exact finished_setAlias nodeId name

/-- Only the poll reports the end of an export. -/
theorem finished_step (crc32 : Bytes → UInt32) (c : AppController) {e : Event}
    (he : ∀ h, e ≠ .publishSnapshots h) : (c.step crc32 e).finished = c.finished := by
  cases e with
  -- the poll is the one event that reports an export
  | publishSnapshots h => exact absurd rfl (he h)
  | operation h o => exact finished_operate crc32 h o
  | requestStatus =>
    unfold step
    dsimp only
    split
    · rfl
    · rfl
  | pollOtaReconnect h =>
    unfold step
    dsimp only
    split
    · exact finished_pollOtaReconnect h
    · rfl
  | workerFailed sid =>
    refine finished_onSession fun s => ?_
    split
    · exact finished_onWorkerFailed _ _
    · rfl
  | threadFinished h sid =>
    refine finished_onSession fun s => ?_
    split
    · exact finished_onThreadFinished h s
    · rfl
  | otaProgress upload sent total phase =>
    unfold step
    dsimp only
    split
    · rfl
    · exact finished_emit rfl
  | otaOutcome h upload outcome => exact finished_onOtaOutcome h upload outcome
  | gatewayEnvelope =>
    unfold step
    dsimp only
    split
    · rfl
    · unfold acceptGatewayEnvelope
      split
      · exact finished_acceptGatewayClient _
      · rfl
  | acceptFailed message =>
    unfold step
    dsimp only
    split
    · exact finished_raiseError _
    · rfl
  | acceptSocket peer =>
    unfold step
    dsimp only
    split
    · rfl
    · rfl
  | send sid =>
    refine finished_onWorker fun s => ?_
    split
    · rfl
    · rfl
  | read sid chunk =>
    refine finished_onWorker fun s => ?_
    split
    · rfl
    · rfl
  | handle sid message =>
    refine finished_onWorker fun s => ?_
    unfold handleStep
    split
    · rfl
    · rfl
  | raises sid message =>
    refine finished_onWorker fun s => ?_
    split
    · rfl
    · rfl
  | returns sid =>
    refine finished_onWorker fun s => ?_
    split
    · rfl
    · rfl
  | write recorder outcome => rfl
  | uploaderSends upload data => exact finished_onUpload
  | uploaderReads upload => exact finished_onUpload

end AppController

end SensorHost.Presentation
