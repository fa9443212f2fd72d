import SensorHost.Presentation.Events

/-!
# What the other operations leave alone

The selection, the listener and who the sessions are (`Routing`) are the business of a few
operations only; the counts behind the numbers of the files, and the files themselves (`Book`),
change only where a recording or an export is started. Every other operation is `Quiet`: it keeps the
routing, and does no more to the book than starting files, each under the name that the counts give.

There is one lemma for each operation, in the order of the source. A lemma about a part that an
operation runs behind other parts takes `Quiet c d` and gives `Quiet c` of the part's result
(`Quiet.emit`, `Quiet.setSession`, `Quiet.stopRecorder`), so that a sequence is a chain of them. A
session is replaced quietly if its identity is one that is there (`Known`).

The start of a recording or an export is quiet too: it counts the number of the device up by one and
opens the file of that number (`quiet_start`), and `Book.Leads` allows this and nothing else.
`quiet_step` collects the events.
-/

namespace SensorHost.Presentation
open SensorHost.Lib SensorHost.Protocol SensorHost.Storage SensorHost.Acquisition SensorHost.Ota
  SensorHost.Transport

/-- Who the sessions are, which of them is selected, and the listener. -/
structure Routing where
  identities : List (Nat × Text × Text × TransportKind)
  selectedNodeId : Option Text
  gatewayListener : Option GatewayListener
  acceptRunning : Bool
  envelopes : List GatewayEnvelope
  nextListener : Nat
  nextSession : Nat

/-- The routing of a controller. -/
def AppController.routing (c : AppController) : Routing :=
  { identities := c.sessions.map ManagedSession.identity
    selectedNodeId := c.selectedNodeId
    gatewayListener := c.gatewayListener
    acceptRunning := c.acceptRunning
    envelopes := c.envelopes
    nextListener := c.nextListener
    nextSession := c.nextSession }

/-- The sessions are those of the routing. -/
lemma AppController.routing_sids (c : AppController) :
    c.routing.identities.map Prod.fst = c.sessions.map ManagedSession.sid := List.map_map

/-- Wherever the session is, it is who it is here. -/
def Known (c : AppController) (s : ManagedSession) : Prop :=
  ∀ i ∈ c.routing.identities, i.1 = s.sid → i = s.identity

/-- What a file holds. -/
inductive FileKind where
  | segment
  | archive
  deriving DecidableEq

/-- What the path of a file is made of. -/
structure FileName where
  kind : FileKind
  base : Path
  aliasName : Text
  uuid : Uuid
  number : Nat

/-- The first eight digits of a UUID, as they stand in a path. -/
def shortUuid (uuid : Uuid) : Text := (uuidHex uuid).take 8

/-- The directory of a device. -/
def nodeDirectory (aliasName : Text) (uuid : Uuid) : Text :=
  AppController.safeNodeDirectory
    { nodeId := [], transportKind := .wifi, peer := [], connectionState := .connected
      deviceUuid := some uuid, aliasName }

/-- The name of a file in its directory. -/
def FileKind.fileName (number : Nat) : FileKind → Text
  | .segment => "segment-".toList ++ AppController.render3 number ++ ".sdf1".toList
  | .archive => "export-".toList ++ AppController.render3 number ++ ".sdf1".toList

/-- The path of a file. -/
def FileName.path (f : FileName) : Path :=
  f.base ++ [nodeDirectory f.aliasName f.uuid, f.kind.fileName f.number]

/-- The counts of the files, and the file of each recorder. -/
structure Book where
  segmentCounts : List (Text × Nat)
  exportCounts : List (Text × Nat)
  nextRecorder : Nat
  files : Nat → Path × Option Uuid

/-- The book of a controller. -/
def AppController.book (c : AppController) : Book :=
  { segmentCounts := c.segmentCounts
    exportCounts := c.exportCounts
    nextRecorder := c.nextRecorder
    files := fun id => (c.recorders id).file }

/-- The counts of a kind. -/
def Book.counts (b : Book) : FileKind → List (Text × Nat)
  | .segment => b.segmentCounts
  | .archive => b.exportCounts

/-- How often a file of the kind was started for a device. -/
def Book.count (b : Book) (kind : FileKind) (uuid : Uuid) : Nat :=
  AppController.countOf (b.counts kind) (uuidText uuid)

/-- The book behind the start of a file, which may not open. -/
def Book.start (b : Book) (f : FileName) (opens : Bool) : Book :=
  { segmentCounts := match f.kind with
      | .segment => AppController.putCount b.segmentCounts (uuidText f.uuid) f.number
      | .archive => b.segmentCounts
    exportCounts := match f.kind with
      | .segment => b.exportCounts
      | .archive => AppController.putCount b.exportCounts (uuidText f.uuid) f.number
    nextRecorder := b.nextRecorder + 1
    files := if opens then Function.update b.files b.nextRecorder (f.path, some f.uuid)
      else b.files }

/-- Files are started, each with the next number of its device. -/
def Book.Leads : Book → Book → Prop :=
  Relation.ReflTransGen fun b b' =>
    ∃ f opens, f.number = b.count f.kind f.uuid + 1 ∧ b' = b.start f opens

/-- The routing is kept, and the book changes only by files that are started. -/
structure Quiet (c c' : AppController) : Prop where
  routing : c'.routing = c.routing
  book : c.book.Leads c'.book

variable {crc32 : Bytes → UInt32} {c d : AppController} {s s' : ManagedSession}

/-- What keeps the routing and the book. -/
lemma Quiet.of_eq (hrouting : d.routing = c.routing) (hbook : d.book = c.book) : Quiet c d :=
  ⟨hrouting, hbook ▸ .refl⟩

/-- Nothing done. -/
lemma Quiet.refl (c : AppController) : Quiet c c := .of_eq rfl rfl

/-- One after the other. -/
lemma Quiet.trans {e : AppController} (h : Quiet c d) (h' : Quiet d e) : Quiet c e :=
  ⟨h'.routing.trans h.routing, h.book.trans h'.book⟩

/-- A session that is known stays so. -/
lemma Known.of_quiet (known : Known c s) (h : Quiet c d) : Known d s := by
  unfold Known
  rw [h.routing]
  exact known

/-- A session that is there is known, as no other has its identity. -/
lemma known_of_mem (apart : (c.sessions.map ManagedSession.sid).Nodup) (live : s ∈ c.sessions) :
    Known c s := by
  intro i hi hsid
  obtain ⟨t, ht, rfl⟩ := List.mem_map.mp hi
  rw [List.inj_on_of_nodup_map apart ht live hsid]

/-- The sids are those of the routing. -/
lemma Quiet.sids (h : Quiet c d) :
    d.sessions.map ManagedSession.sid = c.sessions.map ManagedSession.sid := by
  have hids : d.sessions.map ManagedSession.identity = c.sessions.map ManagedSession.identity :=
    congrArg Routing.identities h.routing
  have hsids := congrArg (List.map Prod.fst) hids
  rw [List.map_map, List.map_map] at hsids
  exact hsids

/-- A session that is changed stays who it is. -/
lemma quiet_setSession (known : Known c s) : Quiet c (c.setSession s) := by
  refine .of_eq ?_ rfl
  have hids : (c.setSession s).sessions.map ManagedSession.identity =
      c.sessions.map ManagedSession.identity := by
    unfold AppController.setSession
    rw [List.map_map]
    refine List.map_congr_left ?_
    intro t ht
    rw [Function.comp_apply]
    split
    · rename_i hsid
      exact (known t.identity (List.mem_map_of_mem ht) hsid).symm
    · rfl
  unfold AppController.routing
  rw [hids]
  rfl

/-- A session may be changed besides. -/
lemma Quiet.setSession (h : Quiet c d) (known : Known c s) : Quiet c (d.setSession s) :=
  h.trans (quiet_setSession (known.of_quiet h))

/-- A signal may be emitted besides. -/
lemma Quiet.emit (h : Quiet c d) (g : Signal) : Quiet c (d.emit g) := h.trans (.of_eq rfl rfl)

/-- An error may be reported besides. -/
lemma Quiet.raiseError (h : Quiet c d) (message : Text) : Quiet c (d.raiseError message) := h.emit _

/-- `_emit_ota_availability` keeps the routing, and starts files at most. -/
lemma Quiet.emitOtaAvailability (h : Quiet c d) : Quiet c d.emitOtaAvailability := by
  unfold AppController.emitOtaAvailability
  split
  · exact h.emit _
  · split
    · exact h.emit _
    · split
      · exact h.emit _
      · exact h.emit _

/-- `_emit_nodes` keeps the routing, and starts files at most. -/
lemma Quiet.emitNodes (h : Quiet c d) : Quiet c d.emitNodes := (h.emit _).emitOtaAvailability

/-- The inventory may be changed besides. -/
lemma Quiet.withIndex (h : Quiet c d) (result : Except SessionError NodeSessionManager) :
    Quiet c (d.withIndex result) := by
  cases result with
  | ok sessionIndex => exact h.trans (.of_eq rfl rfl)
  | error error => exact h

/-- Recorders that keep their files. -/
lemma Quiet.recorders (h : Quiet c d) {R : Recorders}
    (hfile : ∀ id, (R id).file = (d.recorders id).file) : Quiet c { d with recorders := R } := by
  refine h.trans (.of_eq rfl ?_)
  unfold AppController.book
  congr 1
  funext id
  exact hfile id

/-- A recorder with the same file leaves the files as they are. -/
lemma file_update {R : Recorders} {id : Nat} {r : RawSessionRecorder} (h : r.file = (R id).file)
    (k : Nat) : (Function.update R id r k).file = (R k).file := by
  by_cases hk : k = id
  · rw [hk, Function.update_self, h]
  · rw [Function.update_of_ne hk]

/-- A recorder may be stopped besides. -/
lemma Quiet.stopRecorder (h : Quiet c d) (host : Host) (id : Nat) :
    Quiet c (d.stopRecorder host id).1 := by
  have hfile := RawSessionRecorder.drain_file (d.recorders id) (host.writerRuns id)
  rw [← RawSessionRecorder.stop_fst _ _ (host.metadataError id)] at hfile
  unfold AppController.stopRecorder
  cases hstop : (d.recorders id).stop (host.writerRuns id) (host.metadataError id) with
  | mk r result =>
    rw [hstop] at hfile
    cases result with
    | ok summary => exact h.recorders (file_update hfile)
    | error error =>
      cases error with
      | runtime error => exact (h.recorders (file_update hfile)).raiseError _
      | osError message => exact h.recorders (file_update hfile)

/-- Where the session is looked up first. -/
lemma quiet_withSession {nodeId : Text} {f : ManagedSession → AppController}
    (apart : (c.sessions.map ManagedSession.sid).Nodup)
    (hf : ∀ s, Known c s → Quiet c (f s)) : Quiet c (c.withSession nodeId f) := by
  unfold AppController.withSession
  cases hsession : c.session? nodeId with
  | none => exact (Quiet.refl c).raiseError _
  | some s => exact hf s (known_of_mem apart (session?_some hsession).1)

/-- Where the node has to be selected. -/
lemma quiet_withSelected {message : String} {f : Text → AppController}
    (hf : ∀ nodeId, Quiet c (f nodeId)) : Quiet c (c.withSelected message f) := by
  unfold AppController.withSelected
  split
  · exact (Quiet.refl c).raiseError _
  · exact hf _

/-- Where the session may be gone. -/
lemma Quiet.onSession (h : Quiet c d) {sid : Nat}
    {f : AppController → ManagedSession → AppController}
    (apart : (c.sessions.map ManagedSession.sid).Nodup)
    (hf : ∀ s, Known d s → Quiet d (f d s)) : Quiet c (d.onSession sid f) := by
  unfold AppController.onSession
  cases hsession : d.sessionBySid? sid with
  | none => exact h
  | some s => exact h.trans (hf s (known_of_mem (h.sids ▸ apart) (sessionBySid?_some hsession).1))

/-- One session after the other. -/
lemma Quiet.forSessions (h : Quiet c d) {f : AppController → ManagedSession → AppController}
    (apart : (c.sessions.map ManagedSession.sid).Nodup)
    (hf : ∀ d s, Known d s → (d.sessions.map ManagedSession.sid).Nodup → Quiet d (f d s)) :
    Quiet c (d.forSessions f) := by
  unfold AppController.forSessions
  generalize d.sessions.map ManagedSession.sid = sids
  induction sids generalizing d with
  | nil => exact h
  | cons sid sids ih =>
    have happart : (d.sessions.map ManagedSession.sid).Nodup := h.sids ▸ apart
    rw [List.foldl_cons]
    cases hsession : d.sessionBySid? sid with
    | none => exact ih h
    | some s =>
      exact ih (h.trans (hf d s (known_of_mem happart (sessionBySid?_some hsession).1) happart))

/-- All the sessions, each of which stays who it is. -/
lemma Quiet.mapSessions (h : Quiet c d) {f : ManagedSession → ManagedSession}
    (hf : ∀ s, (f s).identity = s.identity) : Quiet c (d.mapSessions f) := by
  refine h.trans (.of_eq ?_ rfl)
  unfold AppController.mapSessions AppController.routing
  dsimp only
  rw [List.map_map]
  congr 1
  exact List.map_congr_left fun s _ => hf s

/-- The directory of a node whose UUID is known. -/
lemma safeNodeDirectory_eq {summary : NodeSummary} {uuid : Uuid}
    (h : summary.deviceUuid = some uuid) :
    AppController.safeNodeDirectory summary = nodeDirectory summary.aliasName uuid := by
  unfold nodeDirectory AppController.safeNodeDirectory
  rw [h]

/-- The book behind a file that does not open, or that does. -/
lemma quiet_start (f : FileName) (opens : Bool)
    (number : f.number = c.book.count f.kind f.uuid + 1) (hrouting : d.routing = c.routing)
    (hbook : d.book = c.book.start f opens) : Quiet c d :=
  ⟨hrouting, .single ⟨f, opens, number, hbook⟩⟩

/-- A recorder that is started has its file, and the others have theirs. -/
lemma file_started (R : Recorders) (id : Nat) {r : RawSessionRecorder} {f : FileName}
    (hr : r.file = (f.path, some f.uuid)) :
    (fun k => (Function.update R id r k).file) =
      Function.update (fun k => (R k).file) id (f.path, some f.uuid) := by
  funext k
  by_cases hk : k = id
  · rw [hk, Function.update_self, Function.update_self, hr]
  · rw [Function.update_of_ne hk, Function.update_of_ne hk]

/-- `_start_session_recording` keeps the routing, and starts files at most. -/
lemma quiet_startSessionRecording (h : Host) {uuid : Uuid} (known : Known c s)
    (bound : c.deviceUuid s.nodeId = some uuid) : Quiet c (c.startSessionRecording h s) := by
  unfold AppController.startSessionRecording
  split
  · exact .refl c
  · cases hsummary : c.sessionIndex.summary s.nodeId with
    | error error => exact .refl c
    | ok summary =>
      have huuid : summary.deviceUuid = some uuid := by
        unfold AppController.deviceUuid at bound
        rw [hsummary] at bound
        exact bound
      -- the name that the path is made of, numbered by the count of its UUID
      let f : FileName :=
        { kind := .segment, base := c.recordingBatchPath.getD [], aliasName := summary.aliasName,
          uuid, number := AppController.countOf c.segmentCounts (uuidText uuid) + 1 }
      dsimp only
      rw [safeNodeDirectory_eq huuid, huuid]
      dsimp only
      have hpath : c.recordingBatchPath.getD [] ++ [nodeDirectory summary.aliasName uuid,
          "segment-".toList ++ AppController.render3 (AppController.countOf c.segmentCounts
            (uuidText uuid) + 1) ++ ".sdf1".toList] = f.path := rfl
      rw [hpath]
      split
      · refine Quiet.raiseError ?_ _
        exact quiet_start f false rfl rfl rfl
      · rename_i r hr
        obtain ⟨-, rfl⟩ := newRecorder_ok hr
        obtain ⟨lastError, heq⟩ := s.acquisition.setRecorder_some
          (Function.update c.recorders c.nextRecorder (startedRecorder f.path (some uuid)))
          c.nextRecorder
        have hrecorder := AcquisitionController.submitBacklog_kept RawSessionRecorder.submit_file
          (startedRecorder f.path (some uuid)) s.acquisition.deferredRecordingFrames
        rw [heq]
        dsimp only
        rw [Function.update_self, Function.update_idem]
        refine Quiet.withIndex ?_ _
        refine Quiet.setSession ?_ known
        refine quiet_start f true rfl rfl ?_
        unfold AppController.book Book.start
        dsimp only
        rw [file_started c.recorders c.nextRecorder hrecorder]
        rfl

/-- `_stop_session_recording` keeps the routing, and starts files at most. -/
lemma quiet_stopSessionRecording (h : Host) (known : Known c s) :
    Quiet c (c.stopSessionRecording h s) := by
  unfold AppController.stopSessionRecording
  cases hrecorder : s.recorder with
  | none => exact quiet_setSession known
  | some id =>
    refine Quiet.withIndex ?_ _
    refine Quiet.stopRecorder ?_ h id
    exact quiet_setSession known

/-- `_finalize_session_recorders` keeps the routing, and starts files at most. -/
lemma quiet_finalizeSessionRecorders (h : Host) (known : Known c s) :
    Quiet c (c.finalizeSessionRecorders h s) := by
  unfold AppController.finalizeSessionRecorders
  cases s.recorder with
  | none =>
    cases s.archiveRecorder with
    | none => exact quiet_setSession known
    | some id' =>
      refine Quiet.stopRecorder ?_ h id'
      exact quiet_setSession known
  | some id =>
    cases s.archiveRecorder with
    | none =>
      refine Quiet.stopRecorder ?_ h id
      exact quiet_setSession known
    | some id' =>
      refine Quiet.stopRecorder ?_ h id'
      refine Quiet.stopRecorder ?_ h id
      exact quiet_setSession known

/-- `set_recording` keeps the routing, and starts files at most. -/
lemma quiet_setRecording (h : Host) (enabled : Bool) (path : Option Path)
    (apart : (c.sessions.map ManagedSession.sid).Nodup) :
    Quiet c (c.setRecording h enabled path) := by
  unfold AppController.setRecording
  cases enabled with
  | true =>
    rw [if_pos rfl]
    split
    · exact (Quiet.refl c).raiseError _
    · split
      · exact .refl c
      · split
        · exact (Quiet.refl c).raiseError _
        · refine Quiet.emitNodes ?_
          refine Quiet.forSessions ?_ apart ?_
          · exact .of_eq rfl rfl
          intro d s known _
          cases hbound : d.deviceUuid s.nodeId with
          | none => exact .refl d
          | some uuid => exact quiet_startSessionRecording h known hbound
  | false =>
    rw [if_neg Bool.false_ne_true]
    refine Quiet.emitNodes ?_
    have hstopped : Quiet c ({ c with recordingActive := false }.forSessions fun c s =>
        c.stopSessionRecording h s) := by
      refine Quiet.forSessions ?_ apart ?_
      · exact .of_eq rfl rfl
      · exact fun d s known _ => quiet_stopSessionRecording h known
    refine hstopped.trans ?_
    exact .of_eq rfl rfl

/-- A session that is who it was is known. -/
lemma Known.of_identity {t : ManagedSession} (known : Known c s) (h : t.identity = s.identity) :
    Known c t := by
  unfold Known
  rw [h, show t.sid = s.sid from congrArg Prod.fst h]
  exact known

/-- A command may be queued besides. -/
lemma Quiet.enqueue (h : Quiet c d) (known : Known c s)
    (result : Except Text AcquisitionController) : Quiet c (d.enqueue s result) := by
  cases result with
  | ok acquisition => exact h.setSession known
  | error message => exact h.raiseError message

/-- `_start_archive_recording` keeps the routing, and starts files at most. -/
lemma quiet_startArchiveRecording (h : Host) (known : Known c s) :
    Quiet c (c.startArchiveRecording h s).1 ∧
      ∀ t path, (c.startArchiveRecording h s).2 = .ok (t, path) → t.identity = s.identity := by
  unfold AppController.startArchiveRecording
  split
  · exact ⟨.refl c, fun t path hok => nomatch hok⟩
  · cases c.sessionIndex.summary s.nodeId with
    | error error => exact ⟨.refl c, fun t path hok => nomatch hok⟩
    | ok summary =>
      cases huuid : summary.deviceUuid with
      | none =>
        dsimp only
        rw [huuid]
        exact ⟨.refl c, fun t path hok => nomatch hok⟩
      | some uuid =>
        let f : FileName :=
          { kind := .archive, base := h.dataRoot ++ ["exports".toList, h.utcStamp],
            aliasName := summary.aliasName, uuid,
            number := AppController.countOf c.exportCounts (uuidText uuid) + 1 }
        have hpath : h.dataRoot ++ ["exports".toList, h.utcStamp,
            nodeDirectory summary.aliasName uuid, "export-".toList ++ AppController.render3
              (AppController.countOf c.exportCounts (uuidText uuid) + 1) ++ ".sdf1".toList] =
            f.path :=
          (List.append_assoc h.dataRoot ["exports".toList, h.utcStamp] [_, _]).symm
        dsimp only
        rw [safeNodeDirectory_eq huuid, huuid]
        dsimp only
        rw [hpath]
        split
        · refine ⟨?_, fun t path hok => nomatch hok⟩
          exact quiet_start f false rfl rfl rfl
        · rename_i r hr
          obtain ⟨-, rfl⟩ := newRecorder_ok hr
          refine ⟨?_, ?_⟩
          · refine Quiet.setSession ?_ known
            refine quiet_start f true rfl rfl ?_
            unfold AppController.book Book.start
            dsimp only
            rw [file_started c.recorders c.nextRecorder rfl]
            rfl
          · intro t path hok
            cases hok
            rfl

/-- An operation that starts an archive recording, and goes on with the session. -/
lemma quiet_archiving (h : Host) (known : Known c s)
    {fails : AppController → Text → AppController}
    {goes : AppController → ManagedSession → Path → AppController}
    (hfails : ∀ d message, Quiet c d → Quiet c (fails d message))
    (hgoes : ∀ d t path, Quiet c d → Known c t → Quiet c (goes d t path)) :
    Quiet c (match c.startArchiveRecording h s with
      | (c, .error message) => fails c message
      | (c, .ok (s, path)) => goes c s path) := by
  obtain ⟨hquiet, hidentity⟩ := quiet_startArchiveRecording h known
  cases hstart : c.startArchiveRecording h s with
  | mk d result =>
    rw [hstart] at hquiet hidentity
    cases result with
    | error message => exact hfails d message hquiet
    | ok result => exact hgoes d result.1 result.2 hquiet (known.of_identity (hidentity _ _ rfl))

section Operations

variable (apart : (c.sessions.map ManagedSession.sid).Nodup)

include apart

/-- `send_command_to` keeps the routing, and starts files at most. -/
lemma quiet_sendCommandTo (h : Host) (nodeId command : Text) :
    Quiet c (c.sendCommandTo h nodeId command) := by
  refine quiet_withSession apart fun s known => ?_
  split
  · refine quiet_archiving h known ?_ ?_
    · exact fun d message hquiet => hquiet.raiseError message
    · exact fun d t path hquiet hknown => hquiet.enqueue hknown _
  · exact (Quiet.refl c).enqueue known _

/-- `start_acquisition_for` keeps the routing, and starts files at most. -/
lemma quiet_startAcquisitionFor (nodeId : Text) : Quiet c (c.startAcquisitionFor nodeId) := by
  refine quiet_withSession apart fun s known => ?_
  split
  · exact (Quiet.refl c).raiseError _
  · exact quiet_setSession known

/-- `stop_acquisition_for` keeps the routing, and starts files at most. -/
lemma quiet_stopAcquisitionFor (nodeId : Text) : Quiet c (c.stopAcquisitionFor nodeId) :=
  quiet_withSession apart fun _ known => quiet_setSession known

/-- `set_watermark_for` keeps the routing, and starts files at most. -/
lemma quiet_setWatermarkFor (nodeId : Text) (words : Int) :
    Quiet c (c.setWatermarkFor nodeId words) :=
  quiet_withSession apart fun _ known => (Quiet.refl c).enqueue known _

/-- `set_livestream_for` keeps the routing, and starts files at most. -/
lemma quiet_setLivestreamFor (nodeId target : Text) :
    Quiet c (c.setLivestreamFor nodeId target) :=
  quiet_withSession apart fun _ known => (Quiet.refl c).enqueue known _

/-- Where the selected session is looked up first. -/
lemma quiet_selectedSession {f : ManagedSession → AppController}
    (hf : ∀ s, Known c s → Quiet c (f s)) :
    Quiet c (match c.selectedSession with
      | none => c
      | some s => f s) := by
  cases hselected : c.selectedSession with
  | none => exact .refl c
  | some s =>
    obtain ⟨nodeId, -, hsession⟩ := Option.bind_eq_some_iff.mp hselected
    exact hf s (known_of_mem apart (session?_some hsession).1)

/-- `start_export_for` keeps the routing, and starts files at most. -/
lemma quiet_startExportFor (h : Host) (nodeId : Text) : Quiet c (c.startExportFor h nodeId) := by
  refine quiet_withSession apart fun s known => ?_
  split
  · exact (Quiet.refl c).raiseError _
  · split
    · exact (Quiet.refl c).raiseError _
    · split
      · exact (Quiet.refl c).raiseError _
      · split
        · exact (Quiet.refl c).raiseError _
        · split
          · exact (Quiet.refl c).raiseError _
          · refine quiet_archiving h known ?_ ?_
            · exact fun d message hquiet => hquiet.raiseError message
            · intro d t path hquiet hknown
              refine Quiet.emit ?_ _
              refine Quiet.setSession hquiet ?_
              exact hknown

/-- `cancel_export_for` keeps the routing, and starts files at most. -/
lemma quiet_cancelExportFor (nodeId : Text) : Quiet c (c.cancelExportFor nodeId) := by
  refine quiet_withSession apart fun s known => ?_
  split
  · exact .refl c
  · exact quiet_setSession known

/-- `clear_sd_for` keeps the routing, and starts files at most. -/
lemma quiet_clearSdFor (nodeId : Text) : Quiet c (c.clearSdFor nodeId) := by
  refine quiet_withSession apart fun s known => ?_
  split
  · exact (Quiet.refl c).raiseError _
  · split
    · exact (Quiet.refl c).raiseError _
    · split
      · exact (Quiet.refl c).raiseError _
      · exact quiet_setSession known

end Operations

/-- `_retry_export_after_abort` keeps the routing, and starts files at most. -/
lemma quiet_retryExportAfterAbort (h : Host) (known : Known c s) :
    Quiet c (c.retryExportAfterAbort h s) := by
  refine quiet_archiving h known ?_ ?_
  · exact fun d message hquiet => hquiet.raiseError message
  · intro d t path hquiet hknown
    refine Quiet.emit ?_ _
    refine Quiet.raiseError ?_ _
    refine Quiet.setSession hquiet ?_
    exact hknown

/-- `_finalize_completed_export` keeps the routing, and starts files at most. -/
lemma quiet_finalizeCompletedExport (h : Host) (known : Known c s) :
    Quiet c (c.finalizeCompletedExport h s) := by
  unfold AppController.finalizeCompletedExport
  split
  · exact .refl c
  · rename_i id _
    split
    · exact .refl c
    · have hstopped : Quiet c
          ((c.setSession (AppController.detachArchive s)).stopRecorder h id).1 := by
        refine Quiet.stopRecorder ?_ h id
        exact quiet_setSession known
      dsimp only
      generalize (c.setSession (AppController.detachArchive s)).stopRecorder h id = result at *
      obtain ⟨d, summary⟩ := result
      cases summary with
      | none => exact hstopped
      | some summary =>
        dsimp only at hstopped ⊢
        have hretry : ∀ t : ManagedSession, t.identity = s.identity →
            Quiet c ((d.setSession t).retryExportAfterAbort h t) := by
          intro t hidentity
          have hset := hstopped.setSession (known.of_identity hidentity)
          refine hset.trans (quiet_retryExportAfterAbort h ?_)
          exact (known.of_identity hidentity).of_quiet hset
        split
        · split
          · exact hretry _ rfl
          · exact (hstopped.raiseError _).emit _
        · split
          · exact (hstopped.raiseError _).emit _
          · exact hstopped.emit _

/-- `_watchdog_stalled_export` keeps the routing, and starts files at most. -/
lemma quiet_watchdogStalledExport (h : Host) (known : Known c s) :
    Quiet c (c.watchdogStalledExport h s) := by
  unfold AppController.watchdogStalledExport
  split
  · exact .refl c
  · rename_i id _
    dsimp only
    split
    · exact .refl c
    · split
      · exact .refl c
      · split
        · exact .refl c
        · have hstopped : Quiet c ((c.setSession s.unarchived).stopRecorder h id).1 := by
            refine Quiet.stopRecorder ?_ h id
            exact quiet_setSession known
          unfold ManagedSession.unarchived at hstopped
          revert hstopped
          generalize AppController.stopRecorder _ h id = result
          obtain ⟨d, summary⟩ := result
          intro hstopped
          cases summary with
          | none => exact hstopped
          | some summary => exact (hstopped.raiseError _).emit _

/-- A node that is bound has the UUID. -/
lemma bindIdentity_deviceUuid {nodeId : Text} {uuid : Uuid} {sessionIndex : NodeSessionManager}
    (h : c.sessionIndex.bindIdentity nodeId uuid = .ok sessionIndex) :
    AppController.deviceUuid { c with sessionIndex } nodeId = some uuid := by
  obtain ⟨current, aliasName, hcurrent, hid, hmem⟩ := NodeSessionManager.mem_bindIdentity h
  unfold AppController.deviceUuid NodeSessionManager.summary
  dsimp only
  cases hfound : sessionIndex.requireNode nodeId with
  | error error =>
    have hnode := (hmem { current with deviceUuid := some uuid, aliasName }).mpr (.inl rfl)
    exact ((NodeSessionManager.requireNode_error hfound).2 _ hnode hid).elim
  | ok n =>
    obtain ⟨hn, hnode⟩ := NodeSessionManager.requireNode_ok hfound
    cases (hmem n).mp hn with
    | inl heq => rw [heq]
    | inr h => exact absurd hnode h.2.1

/-- Identities may be bound besides, which may start files. -/
lemma Quiet.bindIdentities (h : Quiet c d) (apart : (c.sessions.map ManagedSession.sid).Nodup)
    (host : Host) (sid : Nat) (uuids : List Uuid) :
    Quiet c (AppController.bindIdentities host sid d uuids) := by
  induction uuids generalizing d with
  | nil => exact h
  | cons uuid uuids ih =>
    rw [AppController.bindIdentities]
    split
    · exact h
    · rename_i s hsession
      have known : Known d s := known_of_mem (h.sids ▸ apart) (sessionBySid?_some hsession).1
      split
      · refine Quiet.raiseError ?_ _
        refine h.trans ?_
        exact quiet_setSession known
      · rename_i sessionIndex hbind
        have hbound : Quiet c { d with sessionIndex } := h.trans (.of_eq rfl rfl)
        refine ih ?_
        refine Quiet.emitNodes ?_
        split
        · refine hbound.trans ?_
          exact quiet_startSessionRecording host known (bindIdentity_deviceUuid hbind)
        · exact hbound

/-- Publishing replies keeps the routing, and starts files at most. -/
lemma quiet_publishReplies (known : Known c s) : Quiet c (c.publishReplies s) := by
  have hall : ∀ {d : AppController} (f : Text → Signal) (texts : List Text), Quiet c d →
      Quiet c (texts.foldl (fun c text => c.emit (f text)) d) := by
    intro d f texts h
    induction texts generalizing d with
    | nil => exact h
    | cons text texts ih => exact ih (h.emit _)
  have hset : Quiet c (c.setAcquisition s s.acquisition.drainCliResponses.1) :=
    quiet_setSession known
  unfold AppController.publishReplies
  dsimp only
  split
  · exact hall _ _ (hall _ _ hset)
  · exact hall _ _ hset

/-- `_publish_snapshots` keeps the routing, and starts files at most. -/
lemma quiet_publishSnapshots (h : Host) (apart : (c.sessions.map ManagedSession.sid).Nodup) :
    Quiet c (c.publishSnapshots h) := by
  refine Quiet.forSessions (.refl c) apart fun d s known happart => ?_
  unfold AppController.publishSession
  refine Quiet.onSession ?_ happart fun t hknown => quiet_watchdogStalledExport h hknown
  refine Quiet.onSession ?_ happart fun t hknown => quiet_finalizeCompletedExport h hknown
  refine Quiet.onSession ?_ happart fun t hknown => quiet_publishReplies hknown
  unfold AppController.consumeIdentityUpdates
  refine Quiet.bindIdentities ?_ happart h s.sid _
  exact quiet_setSession known

section Ota

variable (apart : (c.sessions.map ManagedSession.sid).Nodup)

include apart

/-- `start_ota_for` keeps the routing, and starts files at most. -/
lemma quiet_startOtaFor (crc32 : Bytes → UInt32) (nodeId : Text) (package : PackageSource) :
    Quiet c (c.startOtaFor crc32 nodeId package) := by
  refine quiet_withSession apart fun s known => ?_
  split
  · exact ((Quiet.refl c).emit _).raiseError _
  · split
    · exact (Quiet.refl c).raiseError _
    · split
      · exact (Quiet.refl c).raiseError _
      · split
        · exact (Quiet.refl c).raiseError _
        · split
          · exact (Quiet.refl c).raiseError _
          · split
            · exact (Quiet.refl c).raiseError _
            · dsimp only
              split
              · exact ((Quiet.refl c).emit _).raiseError _
              · refine Quiet.emitOtaAvailability ?_
                refine Quiet.emit ?_ _
                refine Quiet.setSession ?_ known
                split
                · exact .of_eq rfl rfl
                · exact .of_eq rfl rfl

/-- A session that stays who it is may be changed. -/
lemma quiet_changeSession {f : ManagedSession → ManagedSession} (nodeId : Text)
    (hf : ∀ s, (f s).identity = s.identity) : Quiet c (c.changeSession nodeId f) := by
  unfold AppController.changeSession
  cases hsession : c.session? nodeId with
  | none => exact .refl c
  | some s =>
    refine quiet_setSession (Known.of_identity ?_ (hf s))
    exact known_of_mem apart (session?_some hsession).1

/-- `_on_ota_staged` keeps the routing, and starts files at most. -/
lemma quiet_onOtaStaged (h : Host) (nodeId version : Text) (crc : Option Int) :
    Quiet c (c.onOtaStaged h nodeId version crc) := by
  have hchanged : Quiet c (c.changeSession nodeId (AppController.endUpload true)) :=
    quiet_changeSession apart nodeId fun _ => rfl
  have harm : ∀ d : AppController, Quiet d (d.armOtaReconnect h) := by
    intro d
    unfold AppController.armOtaReconnect
    split
    · exact .refl d
    · exact .of_eq rfl rfl
  unfold AppController.onOtaStaged
  dsimp only
  refine Quiet.emitOtaAvailability ?_
  refine Quiet.trans ?_ (harm _)
  have hteardown : ∀ {d : AppController}, Quiet c d → Quiet c d.teardownOtaWorker :=
    fun hd => hd.trans (.of_eq rfl rfl)
  refine hteardown (Quiet.emit ?_ _)
  have hreported : ∀ (matching : Bool) (g : Signal) (message : Text), Quiet c
      (if matching then (c.changeSession nodeId (AppController.endUpload true)).emit g
        else ((c.changeSession nodeId (AppController.endUpload true)).emit g).raiseError
          message) := by
    intro matching g message
    split
    · exact hchanged.emit _
    · exact (hchanged.emit _).raiseError _
  exact hreported _ _ _

/-- `_on_ota_failed` keeps the routing, and starts files at most. -/
lemma quiet_onOtaFailed (nodeId code message : Text) :
    Quiet c (c.onOtaFailed nodeId code message) := by
  refine Quiet.emitOtaAvailability (Quiet.raiseError (Quiet.emit ?_ _) _)
  refine Quiet.trans (quiet_changeSession apart nodeId fun _ => ?_) (.of_eq rfl rfl)
  rfl

/-- `_on_ota_cancelled` keeps the routing, and starts files at most. -/
lemma quiet_onOtaCancelled (nodeId : Text) : Quiet c (c.onOtaCancelled nodeId) := by
  refine Quiet.emitOtaAvailability (Quiet.emit ?_ _)
  refine Quiet.trans (quiet_changeSession apart nodeId fun _ => ?_) (.of_eq rfl rfl)
  rfl

/-- The signals of an upload keep the routing, and start files at most. -/
lemma quiet_onOtaOutcome (h : Host) (upload : Nat) (outcome : OtaOutcome) :
    Quiet c (c.onOtaOutcome h upload outcome) := by
  unfold AppController.onOtaOutcome
  split
  · exact .refl c
  · have hdone : Quiet c { c with uploads := c.uploads.filter fun u => u.identity != upload } :=
      .of_eq rfl rfl
    refine hdone.trans ?_
    cases outcome with
    | staged version crc => exact quiet_onOtaStaged (by exact apart) h _ version crc
    | failed code message => exact quiet_onOtaFailed (by exact apart) _ code message
    | cancelled => exact quiet_onOtaCancelled (by exact apart) _

end Ota

/-- `_finish_ota_reconnect` keeps the routing, and starts files at most. -/
lemma quiet_finishOtaReconnect (status detail : String) :
    Quiet c (c.finishOtaReconnect status detail) := by
  unfold AppController.finishOtaReconnect
  dsimp only
  refine Quiet.emitOtaAvailability ?_
  have hcleared : ∀ nodeId state text, Quiet c
      ({ c with otaReconnectTimerActive := false, otaReconnect := none }.clearOtaContext.emit
        (.otaState nodeId state text)) := by
    intro nodeId state text
    refine Quiet.emit ?_ _
    exact .of_eq rfl rfl
  split
  · exact (hcleared _ _ _).raiseError _
  · exact hcleared _ _ _

/-- The reconnect poll may look at sessions besides. -/
lemma Quiet.pollSessions (h : Quiet c d) (apart : (c.sessions.map ManagedSession.sid).Nodup)
    (expected : Option Uuid) (sids : List Nat) :
    Quiet c (AppController.pollSessions expected d sids) := by
  induction sids generalizing d with
  | nil => exact h
  | cons sid sids ih =>
    rw [AppController.pollSessions]
    split
    · exact ih h
    · rename_i s hsession
      have known : Known d s := known_of_mem (h.sids ▸ apart) (sessionBySid?_some hsession).1
      have hset : Quiet c (d.setAcquisition s s.acquisition.requestStatus) := by
        refine h.trans ?_
        exact quiet_setSession known
      split
      · dsimp only
        split
        · exact hset.trans (quiet_finishOtaReconnect _ _)
        · exact ih hset
      · exact ih h

/-- `_on_worker_failed` keeps the routing, and starts files at most. -/
lemma quiet_onWorkerFailed (message : Text) (known : Known c s) :
    Quiet c (c.onWorkerFailed s message) := by
  have hset : Quiet c (c.setSession { s with failure := some message }) := quiet_setSession known
  unfold AppController.onWorkerFailed
  dsimp only
  split
  · exact hset.raiseError _
  · exact hset

/-- Handling a frame keeps the routing, and starts files at most. -/
lemma quiet_handleStep (message : Text) (known : Known c s) :
    Quiet c (c.handleStep message s) := by
  have hfile := s.acquisition.handleNext_file c.recorders
  unfold AppController.handleStep
  cases hnext : s.acquisition.handleNext c.recorders with
  | mk acquisition rest =>
    obtain ⟨R, error⟩ := rest
    rw [hnext] at hfile
    cases error with
    | none =>
      refine Quiet.setSession ?_ known
      exact (Quiet.refl c).recorders hfile
    | some error =>
      refine Quiet.setSession ?_ known
      exact (Quiet.refl c).recorders hfile

/-- What a worker does. -/
lemma quiet_onWorker (apart : (c.sessions.map ManagedSession.sid).Nodup) {sid : Nat}
    {f : AppController → ManagedSession → AppController}
    (hf : ∀ s, Known c s → Quiet c (f c s)) : Quiet c (c.onWorker sid f) := by
  refine Quiet.onSession (.refl c) apart fun s known => ?_
  split
  · exact hf s known
  · exact .refl c

/-- What an upload does to its connection. -/
lemma quiet_onUpload (apart : (c.sessions.map ManagedSession.sid).Nodup) (upload : Nat)
    (f : AcquisitionController → AcquisitionController) : Quiet c (c.onUpload upload f) := by
  unfold AppController.onUpload
  split
  · exact .refl c
  · exact Quiet.onSession (.refl c) apart fun s known => quiet_setSession known

/-- `remove_offline_node` keeps the routing, and starts files at most. -/
lemma quiet_removeOfflineNode (nodeId : Text) : Quiet c (c.removeOfflineNode nodeId) := by
  unfold AppController.removeOfflineNode
  split
  · exact (Quiet.refl c).raiseError _
  · split
    · exact (Quiet.refl c).raiseError _
    · split
      · exact (Quiet.refl c).raiseError _
      · refine Quiet.emitNodes ?_
        exact .of_eq rfl rfl

/-- `set_alias` keeps the routing, and starts files at most. -/
lemma quiet_setAlias (nodeId name : Text) : Quiet c (c.setAlias nodeId name) := by
  unfold AppController.setAlias
  split
  · exact (Quiet.refl c).raiseError _
  · refine Quiet.emitNodes ?_
    split
    · exact .of_eq rfl rfl
    · exact .of_eq rfl rfl

/-- The events that may change the routing. -/
def Event.Routes : Event → Prop
  | .operation _ o => match o with
    | .startWifiServer _ | .stopWifiServer | .connectDevice _ | .acceptGatewayClient _
    | .disconnectDevice | .selectNode _ => True
    | _ => False
  | .pollOtaReconnect _ | .threadFinished _ _ | .gatewayEnvelope | .acceptFailed _
  | .acceptSocket _ => True
  | _ => False

/-- Every other event is quiet. -/
theorem quiet_step (crc32 : Bytes → UInt32) {e : Event} (he : ¬ e.Routes)
    (apart : (c.sessions.map ManagedSession.sid).Nodup) : Quiet c (c.step crc32 e) := by
  cases e with
  | operation h o =>
    cases o with
    | removeOfflineNode nodeId => exact quiet_removeOfflineNode nodeId
    | sendCommand command => exact quiet_withSelected fun _ => quiet_sendCommandTo apart h _ _
    | sendCommandTo nodeId command => exact quiet_sendCommandTo apart h nodeId command
    | startAcquisition => exact quiet_withSelected fun _ => quiet_startAcquisitionFor apart _
    | startAcquisitionFor nodeId => exact quiet_startAcquisitionFor apart nodeId
    | stopAcquisition => exact quiet_withSelected fun _ => quiet_stopAcquisitionFor apart _
    | stopAcquisitionFor nodeId => exact quiet_stopAcquisitionFor apart nodeId
    | setWatermark words =>
      show Quiet c (c.setWatermark words)
      unfold AppController.setWatermark
      split
      · exact .refl c
      · exact quiet_setWatermarkFor apart _ words
    | setWatermarkFor nodeId words => exact quiet_setWatermarkFor apart nodeId words
    | setLivestream target => exact quiet_withSelected fun _ => quiet_setLivestreamFor apart _ _
    | setLivestreamFor nodeId target => exact quiet_setLivestreamFor apart nodeId target
    | requestLivestream => exact quiet_selectedSession apart fun s known => quiet_setSession known
    | requestStatusAll => exact (Quiet.refl c).mapSessions fun _ => rfl
    | startExportFor nodeId => exact quiet_startExportFor apart h nodeId
    | cancelExportFor nodeId => exact quiet_cancelExportFor apart nodeId
    | clearSdFor nodeId => exact quiet_clearSdFor apart nodeId
    | startOtaFor nodeId package => exact quiet_startOtaFor apart crc32 nodeId package
    | cancelOtaFor nodeId =>
      show Quiet c (c.cancelOtaFor nodeId)
      unfold AppController.cancelOtaFor
      split
      · exact .of_eq rfl rfl
      · exact .refl c
    | clearDisplaySamples =>
      exact quiet_selectedSession apart fun s known => quiet_setSession known
    | setRecording enabled path => exact quiet_setRecording h enabled path apart
    | setAlias nodeId name => exact quiet_setAlias nodeId name
    | _ => exact absurd trivial he
  | publishSnapshots h =>
    show Quiet c (if c.timerActive then c.publishSnapshots h else c)
    split
    · exact quiet_publishSnapshots h apart
    · exact .refl c
  | requestStatus =>
    show Quiet c (if c.statusTimerActive then c.requestStatus else c)
    split
    · refine (Quiet.refl c).mapSessions fun s => ?_
      split
      · rfl
      · rfl
    · exact .refl c
  | workerFailed sid =>
    rw [AppController.step]
    refine Quiet.onSession (.refl c) apart fun s known => ?_
    split
    · exact quiet_onWorkerFailed _ known
    · exact .refl c
  | otaProgress upload sent total phase =>
    rw [AppController.step]
    split
    · exact .refl c
    · exact (Quiet.refl c).emit _
  | otaOutcome h upload outcome => exact quiet_onOtaOutcome apart h upload outcome
  | send sid =>
    refine quiet_onWorker apart fun s known => ?_
    split
    · exact quiet_setSession known
    · exact .refl c
  | read sid chunk =>
    refine quiet_onWorker apart fun s known => ?_
    split
    · exact quiet_setSession known
    · exact .refl c
  | handle sid message => exact quiet_onWorker apart fun s known => quiet_handleStep message known
  | raises sid message =>
    refine quiet_onWorker apart fun s known => ?_
    split
    · exact quiet_setSession known
    · exact .refl c
  | returns sid =>
    refine quiet_onWorker apart fun s known => ?_
    split
    · exact quiet_setSession known
    · exact .refl c
  | write recorder outcome =>
    exact (Quiet.refl c).recorders
      (file_update (RawSessionRecorder.writerStep_file (c.recorders recorder) outcome))
  | uploaderSends upload data =>
    exact quiet_onUpload apart upload fun a => a.sendOtaFrame data
  | uploaderReads upload => exact quiet_onUpload apart upload fun a => a.nextOtaReply.1
  | _ => exact absurd trivial he

end SensorHost.Presentation
