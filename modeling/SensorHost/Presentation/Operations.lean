import SensorHost.Presentation.AppController

/-!
# Commands, exports and the OTA

The operations of `AppController` that reach a node: its commands, the archive export with its
automatic retry and its watchdog, and the OTA upload with the reconnect behind it. The texts are
those of the source.

An operation that the source looks up in its dictionary of sessions is written with `withSession`,
and one on the selected node with `withSelected`. An exception that an operation catches is a
branch; the texts of those that it turns into a signal are in the model. The poll works on the
sessions in their order (`publishSnapshots`), each time on the session as the passes before have
left it.

`describeNack` and the texts of the outcomes are the source's own, Chinese ones too, since the
signals carry them.
-/

namespace SensorHost.Presentation
open SensorHost.Lib SensorHost.Protocol SensorHost.Storage SensorHost.Acquisition SensorHost.Ota
  SensorHost.Transport

/-- `f"{value}"` of a text that may be `None`. -/
def pyText : Option Text → Text
  | some text => text
  | none => "None".toList

/-- `NACK_CODE_ZH`. -/
def nackCodeZh : List (String × String) :=
  [("NONE", "无错误"),
    ("FRAME_CRC", "帧 CRC 校验失败"),
    ("FORMAT", "帧格式或 manifest 头无效"),
    ("TARGET", "目标 ID 不匹配"),
    ("SEQUENCE", "序列号错误"),
    ("OFFSET", "偏移不连续（前跳或乱序）"),
    ("SD_IO", "SD 写入失败"),
    ("IMAGE_CRC", "镜像 CRC 校验失败"),
    ("TIMEOUT", "固件 30 秒不活动已中止会话"),
    ("STATE", "会话状态错误")]

/-- `describe_nack`, for a code that is given. -/
def describeNack (code : Text) : Text :=
  match nackCodeZh.find? fun entry => entry.1.toList == code with
  | some entry => entry.2.toList
  | none => "未知错误代码 ".toList ++ code

/-- What `start_ota_for` takes: a package, or the name of a file and what reading it gives. -/
inductive PackageSource where
  | prepared (package : OtaPackage)
  | file (name : Text) (content : Except Text Bytes)

/-- How an upload ends. -/
inductive OtaOutcome where
  | staged (version : Text) (crc : Option Int)
  | failed (code message : Text)
  | cancelled
  deriving DecidableEq

namespace AppController

variable (c : AppController)

/-- `command.strip().upper().startswith("AT+EXPORT")`. -/
def isExportCommand (command : Text) : Bool := startsWith (upper (strip command)) "AT+EXPORT".toList

/-- Queue a command, or raise the error of its check. -/
def enqueue (s : ManagedSession) (result : Except Text AcquisitionController) : AppController :=
  match result with
  | .ok acquisition => c.setAcquisition s acquisition
  | .error message => c.raiseError message

/-- An operation on the selected node, or an error if there is none. -/
def withSelected (message : String) (f : Text → AppController) : AppController :=
  match c.selectedNodeId with
  | none => c.raiseError message.toList
  | some nodeId => f nodeId

/-- `_start_archive_recording`: the session with its recorder and the path, or what it raises. -/
def startArchiveRecording (h : Host) (s : ManagedSession) :
    AppController × Except Text (ManagedSession × Path) :=
  if s.archiveRecorder.isSome then
    (c, .error "an archive export is already active for this node".toList)
  else
    match c.sessionIndex.summary s.nodeId with
    | .error error => (c, .error error.message)
    | .ok summary =>
      match summary.deviceUuid with
      | none => (c, .error "wait for node UUID before exporting an archive".toList)
      | some uuid =>
        let exportNumber := countOf c.exportCounts (uuidText uuid) + 1
        let c := { c with exportCounts := putCount c.exportCounts (uuidText uuid) exportNumber }
        let path := h.dataRoot ++ ["exports".toList, h.utcStamp, safeNodeDirectory summary,
          "export-".toList ++ render3 exportNumber ++ ".sdf1".toList]
        let id := c.nextRecorder
        let c := { c with nextRecorder := id + 1 }
        match newRecorder h id path (some uuid) with
        | .error message => (c, .error message)
        | .ok r =>
          let s := { s with
            archiveRecorder := some id
            archiveStartRevision := (s.controlState.map (·.exportRevision)).getD 0
            archiveStartedS := h.now
            acquisition := s.acquisition.setArchiveRecorder (some id) }
          ({ c with recorders := Function.update c.recorders id r }.setSession s, .ok (s, path))

/-- `send_command_to`. -/
def sendCommandTo (h : Host) (nodeId command : Text) : AppController :=
  c.withSession nodeId fun s =>
    if isExportCommand command then
      match c.startArchiveRecording h s with
      | (c, .error message) => c.raiseError message
      | (c, .ok (s, _)) => c.enqueue s (s.acquisition.enqueueCommand command)
    else c.enqueue s (s.acquisition.enqueueCommand command)

/-- `send_command`. -/
def sendCommand (h : Host) (command : Text) : AppController :=
  c.withSelected "select a connected node before sending commands" fun nodeId =>
    c.sendCommandTo h nodeId command

/-- `start_acquisition_for`. -/
def startAcquisitionFor (nodeId : Text) : AppController :=
  c.withSession nodeId fun s =>
    if s.otaActive || s.otaAwaitingRestart then
      c.raiseError "OTA in progress; acquisition start is blocked".toList
    else c.setAcquisition s s.acquisition.startAcquisition

/-- `start_acquisition`. -/
def startAcquisition : AppController :=
  c.withSelected "select a connected node before starting acquisition" c.startAcquisitionFor

/-- `stop_acquisition_for`. -/
def stopAcquisitionFor (nodeId : Text) : AppController :=
  c.withSession nodeId fun s => c.setAcquisition s s.acquisition.stopAcquisition

/-- `stop_acquisition`. -/
def stopAcquisition : AppController :=
  c.withSelected "select a connected node before stopping acquisition" c.stopAcquisitionFor

/-- `set_watermark_for`. -/
def setWatermarkFor (nodeId : Text) (words : Int) : AppController :=
  c.withSession nodeId fun s => c.enqueue s (s.acquisition.setWatermark words)

/-- `set_watermark`; without a selected node it does nothing. -/
def setWatermark (words : Int) : AppController :=
  match c.selectedNodeId with
  | none => c
  | some nodeId => c.setWatermarkFor nodeId words

/-- `set_livestream_for`. -/
def setLivestreamFor (nodeId target : Text) : AppController :=
  c.withSession nodeId fun s => c.enqueue s (s.acquisition.setLivestream target)

/-- `set_livestream`. -/
def setLivestream (target : Text) : AppController :=
  c.withSelected "select a connected node before choosing a live target" fun nodeId =>
    c.setLivestreamFor nodeId target

/-- `request_livestream`. -/
def requestLivestream : AppController :=
  match c.selectedSession with
  | none => c
  | some s => c.setAcquisition s s.acquisition.requestLivestream

/-- `request_status_all`. -/
def requestStatusAll : AppController :=
  c.mapSessions fun s => { s with acquisition := s.acquisition.requestStatus }

/-- `_request_status`: the nodes that export or upload are left alone. -/
def requestStatus : AppController :=
  c.mapSessions fun s =>
    if s.archiveRecorder.isNone ∧ !s.otaActive then
      { s with acquisition := s.acquisition.requestStatus }
    else s

/-- `clear_display_samples`. -/
def clearDisplaySamples : AppController :=
  match c.selectedSession with
  | none => c
  | some s => c.setAcquisition s { s.acquisition with store := s.acquisition.store.clearSamples }

/-- The target of a node's own transport path. -/
def exportTargetOf (kind : TransportKind) : Text :=
  if kind = .cdc then "CDC".toList else "UART".toList

/-- `start_export_for`. -/
def startExportFor (h : Host) (nodeId : Text) : AppController :=
  c.withSession nodeId fun s =>
    if s.otaActive || s.otaAwaitingRestart then
      c.raiseError "OTA in progress; export is blocked".toList
    else if s.archiveRecorder.isSome then
      c.raiseError "an archive export is already active for this node".toList
    else
      match s.controlState with
      | none => c.raiseError "device SD is not ready; refresh status before exporting".toList
      | some state =>
        if state.sdReady ≠ some true then
          c.raiseError "device SD is not ready; refresh status before exporting".toList
        else if state.acquisitionState.isSome ∧ state.acquisitionState ≠ some "IDLE".toList then
          c.raiseError ("stop acquisition before exporting; the firmware rejects export while ".toList
            ++ pyText state.acquisitionState)
        else
          let target := exportTargetOf s.transportKind
          match c.startArchiveRecording h s with
          | (c, .error message) => c.raiseError message
          | (c, .ok (s, path)) =>
            let total := state.sdUsed.getD 0
            let s := { s with
              archiveTotalBytes := total
              archivePath := some path
              archiveTarget := target
              archiveRetries := 0
              archiveCancelRequested := false }
            (c.setSession { s with
                acquisition := s.acquisition.queueCommand ("AT+EXPORT=" ++ String.ofList target) }).emit
              (.exportStarted nodeId path total)

/-- `cancel_export_for`: STOP, and a state query whose reply confirms it. -/
def cancelExportFor (nodeId : Text) : AppController :=
  c.withSession nodeId fun s =>
    if s.archiveRecorder.isNone ∨ s.archiveCancelRequested then c
    else
      c.setSession { s with
        archiveCancelRequested := true
        acquisition := s.acquisition.stopAcquisition.requestStatus }

/-- `clear_sd_for`. -/
def clearSdFor (nodeId : Text) : AppController :=
  c.withSession nodeId fun s =>
    if s.archiveRecorder.isSome then
      c.raiseError "cancel the active export before clearing device SD".toList
    else
      match s.controlState with
      | none => c.raiseError "refresh status before clearing device SD".toList
      | some state =>
        if state.acquisitionState ≠ some "IDLE".toList ∧
            state.acquisitionState ≠ some "ERROR".toList then
          c.raiseError ("device SD can only be cleared while IDLE or ERROR; current state is ".toList
            ++ pyText state.acquisitionState)
        else c.setAcquisition s s.acquisition.clearSd

/-- `_retry_export_after_abort`. -/
def retryExportAfterAbort (h : Host) (s : ManagedSession) : AppController :=
  let target := if s.archiveTarget = [] then exportTargetOf s.transportKind else s.archiveTarget
  match c.startArchiveRecording h s with
  | (c, .error message) => c.raiseError message
  | (c, .ok (s, path)) =>
    let c := c.setSession { s with
      archivePath := some path
      archiveTarget := target
      acquisition := s.acquisition.queueCommand ("AT+EXPORT=" ++ String.ofList target) }
    (c.raiseError ("firmware aborted the export before the first frame; automatic retry ".toList ++
      renderNat s.archiveRetries ++ "/".toList ++ renderNat exportAutoRetries ++
        " started".toList)).emit
      (.exportStarted s.nodeId path s.archiveTotalBytes)

/-- The firmware has confirmed a cancel: IDLE, with no export target. -/
def cancelConfirmed (s : ManagedSession) : Bool :=
  s.archiveCancelRequested && s.controlState.any fun state =>
    state.acquisitionState == some "IDLE".toList && state.exportTarget == some "NONE".toList

/-- The phase with which `_finalize_completed_export` closes the export, if it does. -/
def closingPhase (s : ManagedSession) : Option Text :=
  if cancelConfirmed s then some "ABORTED".toList
  else
    match s.controlState with
    | none => none
    | some state =>
      if (state.exportPhase = some "EMPTY".toList ∨ state.exportPhase = some "COMPLETE".toList ∨
          state.exportPhase = some "ABORTED".toList) ∧
          s.archiveStartRevision < state.exportRevision then state.exportPhase
      else none

/-- The session behind an export that is closed. -/
def detachArchive (s : ManagedSession) : ManagedSession :=
  { s with
    acquisition := s.acquisition.setArchiveRecorder none
    archiveRecorder := none
    archiveCancelRequested := false }

/-- `_finalize_completed_export`. -/
def finalizeCompletedExport (h : Host) (s : ManagedSession) : AppController :=
  match s.archiveRecorder with
  | none => c
  | some id =>
    match closingPhase s with
    | none => c
    | some phase =>
      let explicitlyCancelled := cancelConfirmed s
      let s := detachArchive s
      match (c.setSession s).stopRecorder h id with
      | (c, none) => c
      | (c, some summary) =>
        if phase = "ABORTED".toList ∧ summary.bytesWritten = 0 ∧ !explicitlyCancelled then
          if s.archiveRetries < exportAutoRetries then
            let s := { s with archiveRetries := s.archiveRetries + 1 }
            (c.setSession s).retryExportAfterAbort h s
          else
            (c.raiseError ("firmware aborted the export before transmitting any frame; ".toList ++
              "retry after STOP and inspect the CONSOLE EXPORT_* lines".toList)).emit
                (.exportFinished s.nodeId phase summary.path)
        else
          let c := if phase = "EMPTY".toList then
              c.raiseError "device SD ring is empty; nothing to export".toList
            else c
          c.emit (.exportFinished s.nodeId phase summary.path)

/-- `_watchdog_stalled_export`. -/
def watchdogStalledExport (h : Host) (s : ManagedSession) : AppController :=
  match s.archiveRecorder with
  | none => c
  | some id =>
    let phase := s.controlState.bind (·.exportPhase)
    if (c.recorders id).bytesWritten ≠ 0 ∨ s.archiveCancelRequested then c
    else if h.now - s.archiveStartedS < exportFirstByteTimeoutS then c
    else if phase = some "COMPLETE".toList ∨ phase = some "EMPTY".toList ∨
        phase = some "ABORTED".toList then c
    else
      let s := { s with
        acquisition := s.acquisition.setArchiveRecorder none
        archiveRecorder := none }
      match (c.setSession s).stopRecorder h id with
      | (c, none) => c
      | (c, some summary) =>
        (c.raiseError ("export stalled: no archive bytes within 10 s (firmware phase ".toList ++
          (if phase.getD [] = [] then "unknown".toList else phase.getD []) ++
          "); check CONSOLE for EXPORT_/ERROR lines".toList)).emit
            (.exportFinished s.nodeId "STALLED".toList summary.path)

/-- The loop of `_consume_identity_updates`, which ends at a duplicate. -/
def bindIdentities (h : Host) (sid : Nat) : AppController → List Uuid → AppController
  | c, [] => c
  | c, uuid :: uuids =>
    match c.sessionBySid? sid with
    | none => c
    | some s =>
      match c.sessionIndex.bindIdentity s.nodeId uuid with
      | .error error =>
        (c.setSession { s with
          failure := some error.message
          stopRequested := true
          transportOpen := false }).raiseError error.message
      | .ok sessionIndex =>
        let c := { c with sessionIndex }
        let c := if c.recordingActive ∧ s.recorder.isNone then c.startSessionRecording h s else c
        bindIdentities h sid c.emitNodes uuids

/-- `_consume_identity_updates`. -/
def consumeIdentityUpdates (h : Host) (s : ManagedSession) : AppController :=
  let (acquisition, uuids) := s.acquisition.drainIdentityUpdates
  bindIdentities h s.sid (c.setAcquisition s acquisition) uuids

/-- Run an operation on a session, if it is there. -/
def onSession (sid : Nat) (f : AppController → ManagedSession → AppController) : AppController :=
  match c.sessionBySid? sid with
  | none => c
  | some s => f c s

/-- Hand the replies of a session on. -/
def publishReplies (s : ManagedSession) : AppController :=
  let (acquisition, responses) := s.acquisition.drainCliResponses
  let c := c.setAcquisition s acquisition
  let c := responses.foldl (fun c text => c.emit (.cliResponseFrom s.nodeId text)) c
  if c.selectedNodeId = some s.nodeId then
    responses.foldl (fun c text => c.emit (.cliResponse text)) c
  else c

/-- `_publish_snapshots`, for one session. -/
def publishSession (h : Host) (s : ManagedSession) : AppController :=
  let c := c.consumeIdentityUpdates h s
  let c := c.onSession s.sid publishReplies
  let c := c.onSession s.sid fun c s => c.finalizeCompletedExport h s
  c.onSession s.sid fun c s => c.watchdogStalledExport h s

/-- `_publish_snapshots`. -/
def publishSnapshots (h : Host) : AppController := c.forSessions fun c s => c.publishSession h s

/-- `start_ota_for`. -/
def startOtaFor (crc32 : Bytes → UInt32) (nodeId : Text) (package : PackageSource) :
    AppController :=
  c.withSession nodeId fun s =>
    if s.transportKind ≠ .wifi then
      let message := ("OTA 仅支持 UART 来源链路（Wi-Fi 网关）；" ++
        "CDC 会话会被固件以 ERROR:SOURCE 拒绝").toList
      (c.emit (.otaState nodeId "SOURCE_REJECTED".toList message)).raiseError message
    else if c.otaNodeId.isSome then c.raiseError "an OTA session is already in progress".toList
    else if s.archiveRecorder.isSome then
      c.raiseError "cancel the active export before starting OTA".toList
    else if c.recordingActive then c.raiseError "stop recording before starting OTA".toList
    else
      match s.controlState with
      | none => c.raiseError "refresh device status before starting OTA".toList
      | some state =>
        if state.sdReady ≠ some true ∨ state.sdFormatRequired = some true then
          c.raiseError "device SD must be READY and not require format before OTA".toList
        else
          let loaded : Except OtaPackageError OtaPackage := match package with
            | .prepared package => .ok package
            | .file name content => loadPackage crc32 name content
          match loaded with
          | .error error =>
            (c.emit (.otaState nodeId "PACKAGE_REJECTED".toList error.message)).raiseError
              error.message
          | .ok otaPackage =>
            let c := if state.acquisitionState = some "ACQUIRE".toList then
                c.emit (.otaState nodeId "STOPPING_ACQUISITION".toList
                  "设备正在采集，固件将先停止采集再进入 OTA".toList)
              else c
            let upload : OtaUpload :=
              { identity := c.nextUpload, nodeId, session := s.sid, package := otaPackage.data }
            let label := match package with
              | .file name _ => name
              | .prepared _ => otaPackage.versionText ++ " (auto-packaged)".toList
            let c := { c with
              otaNodeId := some nodeId
              otaContext := some {
                nodeId := nodeId
                kind := s.transportKind
                deviceUuid := c.deviceUuid nodeId
                deviceId := s.peer
                version := otaPackage.versionText
                crc := otaPackage.crcText }
              otaWorker := some upload.identity
              uploads := c.uploads ++ [upload]
              nextUpload := c.nextUpload + 1 }
            let c := c.setSession { s with
              otaActive := true
              acquisition := s.acquisition.startOta }
            (c.emit (.otaState nodeId "STARTED".toList ("开始上传 ".toList ++ label))).emitOtaAvailability

/-- `cancel_ota_for`. -/
def cancelOtaFor (nodeId : Text) : AppController :=
  if c.otaNodeId = some nodeId then c.requestOtaCancel else c

/-- `_arm_ota_reconnect`. -/
def armOtaReconnect (h : Host) : AppController :=
  match c.otaContext with
  | none => c
  | some context =>
    { c with
      otaReconnect := some {
        kind := context.kind
        deviceUuid := context.deviceUuid
        deviceId := context.deviceId
        nodeId := context.nodeId
        deadlineS := h.now + otaReconnectTimeoutS }
      otaReconnectTimerActive := true }

/-- The session behind an upload that is over. -/
def endUpload (awaiting : Bool) (s : ManagedSession) : ManagedSession :=
  { s with
    otaActive := false
    otaAwaitingRestart := awaiting || s.otaAwaitingRestart
    acquisition := s.acquisition.endOta }

/-- Change the session of a node, if there is one. -/
def changeSession (nodeId : Text) (f : ManagedSession → ManagedSession) : AppController :=
  match c.session? nodeId with
  | none => c
  | some s => c.setSession (f s)

/-- `_on_ota_staged`. -/
def onOtaStaged (h : Host) (nodeId version : Text) (crc : Option Int) : AppController :=
  let crcText := match crc with
    | some crc => formatCrc (crc % 2 ^ 32).toNat
    | none => []
  let expectedVersion := (c.otaContext.map (·.version)).getD []
  let expectedCrc := (c.otaContext.map (·.crc)).getD []
  let c := c.changeSession nodeId (endUpload true)
  let matching : Bool := version == expectedVersion && crcText == expectedCrc
  let c := c.emit (.otaStaged nodeId version crcText matching)
  let c := if matching then c
    else c.raiseError ("设备回读的 STAGED 与本地包不一致（设备 ".toList ++ version ++ "/".toList ++
      crcText ++ " vs 本地 ".toList ++ expectedVersion ++ "/".toList ++ expectedCrc ++ "）".toList)
  let c := c.emit (.otaState nodeId "WAIT_RESTART".toList
    "镜像已暂存，设备将自动复位并从 SD 安装；等待设备重启…".toList)
  (c.teardownOtaWorker.armOtaReconnect h).emitOtaAvailability

/-- `_on_ota_failed`. -/
def onOtaFailed (nodeId code message : Text) : AppController :=
  let c := c.changeSession nodeId (endUpload false)
  let c := c.teardownOtaWorker.clearOtaContext
  let detail := if code ≠ [] then describeNack code else message
  let c := c.emit (.otaState nodeId "FAILED".toList detail)
  let c := c.raiseError (if code ≠ [] then
      "OTA 失败：".toList ++ detail ++ "（".toList ++ message ++ "）".toList
    else "OTA 失败：".toList ++ message)
  c.emitOtaAvailability

/-- `_on_ota_cancelled`. -/
def onOtaCancelled (nodeId : Text) : AppController :=
  let c := c.changeSession nodeId (endUpload false)
  let c := c.teardownOtaWorker.clearOtaContext
  (c.emit (.otaState nodeId "CANCELLED".toList "已发送 CANCEL，OTA 会话已取消".toList)).emitOtaAvailability

/-- `_finish_ota_reconnect`. -/
def finishOtaReconnect (status : String) (detail : String) : AppController :=
  let nodeId := match c.otaReconnect with
    | some info => info.nodeId
    | none => c.otaNodeId.getD []
  let c := { c with otaReconnectTimerActive := false, otaReconnect := none }.clearOtaContext
  let c := c.emit (.otaState nodeId status.toList detail.toList)
  let c := if status ≠ "RECONNECTED" then c.raiseError detail.toList else c
  c.emitOtaAvailability

/-- `_attempt_ota_cdc_reopen`; the session that it adds is not refused. -/
def attemptOtaCdcReopen (h : Host) (deviceId : Text) : AppController :=
  if deviceId = [] ∨ c.sessions ≠ [] ∨ c.acceptRunning ∨ h.portError.isSome then c
  else
    match c.addSession ("cdc:".toList ++ deviceId) deviceId .cdc with
    | .ok c => c
    | .error _ => c

/-- The node is online, and is the flashed device as far as that is known. -/
def reconnectMatches (expected : Option Uuid) (s : ManagedSession) : Bool :=
  match c.sessionIndex.summary s.nodeId with
  | .error _ => false
  | .ok summary =>
    (summary.connectionState == .connected || summary.connectionState == .streaming) &&
      (expected.isNone || summary.deviceUuid == expected)

/-- The state of the device shows no OTA. -/
def otaOff (s : ManagedSession) : Bool :=
  s.controlState.any fun state => state.otaState.isNone || state.otaState == some "OFF".toList

/-- The loop of `_poll_ota_reconnect` over the sessions. -/
def pollSessions (expected : Option Uuid) : AppController → List Nat → AppController
  | c, [] => c
  | c, sid :: sids =>
    match c.sessionBySid? sid with
    | none => pollSessions expected c sids
    | some s =>
      if c.reconnectMatches expected s then
        let c := c.setAcquisition s s.acquisition.requestStatus
        if otaOff s then
          c.finishOtaReconnect "RECONNECTED" "设备已重连，OTA 状态 OFF，实时流恢复"
        else pollSessions expected c sids
      else pollSessions expected c sids

/-- `_poll_ota_reconnect`. -/
def pollOtaReconnect (h : Host) : AppController :=
  match c.otaReconnect with
  | none => { c with otaReconnectTimerActive := false }
  | some info =>
    if info.deadlineS < h.now then
      c.finishOtaReconnect "RECONNECT_TIMEOUT" "设备复位后未在预期时间内重连"
    else
      let c := if info.kind = .cdc ∧ c.sessions = [] then c.attemptOtaCdcReopen h info.deviceId
        else c
      pollSessions info.deviceUuid c (c.sessions.map ManagedSession.sid)

/-- `_on_worker_failed`; the reset behind a staged image is no error. -/
def onWorkerFailed (s : ManagedSession) (message : Text) : AppController :=
  let c := c.setSession { s with failure := some message }
  let otaInflight := c.otaContext.any fun context => context.nodeId == s.nodeId
  if !c.isStopping && !otaInflight && !s.otaAwaitingRestart then c.raiseError message else c

/-- `_on_thread_finished`. -/
def onThreadFinished (h : Host) (s : ManagedSession) : AppController :=
  if c.isStopping then c
  else
    let c := c.finalizeSessionRecorders h s
    let c := { c with sessions := c.sessions.filter fun t => t.sid != s.sid }
    let c := if s.transportKind = .wifi then
        (c.releaseGatewayClient s.nodeId).withIndex
          (c.sessionIndex.markReconnecting s.nodeId s.failure)
      else c.withIndex (c.sessionIndex.markOffline s.nodeId s.failure)
    let targetReplaced := c.selectedNodeId = some s.nodeId
    let c := if targetReplaced then
        { c with selectedNodeId := c.sessions.head?.map ManagedSession.nodeId }
      else c
    let c := c.emitNodes
    let c := if targetReplaced then c.emit (.selectedNodeChanged (c.selectedNodeId.getD [])) else c
    if c.sessions = [] then
      let c := { c with timerActive := false, statusTimerActive := false }
      let c := if c.acceptRunning then c.emit (.wifiServerChanged true c.wifiServerLabel)
        else c.emit (.connectionChanged false [])
      c.emit .displayClearRequested
    else c

end AppController

end SensorHost.Presentation
