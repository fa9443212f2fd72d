import SensorHost.Acquisition.Controller
import SensorHost.Lib.Crc32
import SensorHost.Lib.Marked
import SensorHost.Protocol.Clock
import SensorHost.Protocol.Sequence

/-!
# Archive frames and the live path

Two runs of a session's worker are compared: one over a stream of valid frames, and one over the same
stream, cut at the same places, without its archive frames. What the archive frames must not change
is `live` of the controller, the live recorder, and the sequence gaps.

Routing sets an archive frame apart only after the parser has used it, and an IIS or JY61PL frame
advances the parser's sequence. So the archive frames go unnoticed among all live frames exactly if
none of them is a sensor frame (`archive_unnoticed_iff`).

The proof runs both workers side by side. `Matched` says that the second has read what the first
has, less the archive frames and less the part of the next frame that is not complete. Each event
keeps it (`Matched.step`): a read of the first is a read of the second with fewer bytes, and frames
that are live are handled alike (`handleFrame_live`). The sequence gaps need the condition, and only
they; `frames_sequence` says what the parser counts over a list of frames.
-/

namespace SensorHost.Acquisition
open SensorHost.Lib SensorHost.Protocol SensorHost.Storage

variable {crc32 : Bytes → UInt32}

/-- Control archive frames among the frames leave the decoder's clock and the live frames alone. -/
lemma sameClock_frames {d e : Decoder} (h : SameClock d e) (frames : List (ValidFrame crc32))
    (hcontrol : ∀ f ∈ frames, f.archive = true → f.isSensor = false) :
    SameClock (d.frames frames).1 (e.frames (frames.filter fun f => !f.archive)).1 ∧
      (e.frames (frames.filter fun f => !f.archive)).2 =
        (d.frames frames).2.filter (fun frame => !frame.archiveExport) ∧
      ∀ frame ∈ (d.frames frames).2, frame.archiveExport = true → frame.deviceUuid = none := by
  induction frames generalizing d e with
  | nil => exact ⟨h, rfl, fun _ hm => by cases hm⟩
  | cons f frames ih =>
    have hrest := fun f' hf' => hcontrol f' (List.mem_cons_of_mem _ hf')
    have hcons (d : Decoder) (fs : List (ValidFrame crc32)) : d.frames (f :: fs) =
        (((d.event f.bytes .candidate).1.frames fs).1,
          (d.event f.bytes .candidate).2 ++ ((d.event f.bytes .candidate).1.frames fs).2) := rfl
    cases harchive : f.archive with
    | true =>
      -- an archive frame of the control kind moves no clock
      obtain ⟨frame, huuid, hflag, -, hevent⟩ := f.event_control (hcontrol f List.mem_cons_self harchive)
      have hclock : SameClock { d with stats.frames := d.stats.frames + 1 } e :=
        ⟨h.lastSequence, h.iisTime, h.decodes, h.gaps⟩
      obtain ⟨hsame, hframes, hnone⟩ := ih hclock hrest
      rw [List.filter_cons_of_neg (by simp [harchive]), hcons, hevent]
      refine ⟨hsame, ?_, ?_⟩
      · rw [hframes, List.singleton_append, List.filter_cons_of_neg (by simp [hflag, harchive])]
      · intro frame' hmem hflag'
        rcases List.mem_cons.mp hmem with rfl | hmem
        · exact huuid
        · exact hnone frame' hmem hflag'
    | false =>
      obtain ⟨messageType, d', frame, -, hevent, -, -, -, hflag, -⟩ := f.event_eq d
      obtain ⟨hout, hclock⟩ := h.event f
      obtain ⟨hsame, hframes, hnone⟩ := ih hclock hrest
      rw [List.filter_cons_of_pos (by simp [harchive]), hcons, hcons, ← hout]
      refine ⟨hsame, ?_, ?_⟩
      · have hkeep : [frame].filter (fun frame => !frame.archiveExport) = [frame] := by
          simp [hflag, harchive]
        rw [hframes, List.filter_append, hevent, hkeep]
      · intro frame' hmem hflag'
        rw [hevent] at hmem
        rcases List.mem_cons.mp hmem with rfl | hmem
        · rw [hflag, harchive] at hflag'
          cases hflag'
        · rw [hevent] at hnone
          exact hnone frame' hmem hflag'

/-- The controller without its parser, the parser's counters in the store, the counts of bytes and
frames, the last error and the frames not yet handled. -/
def AcquisitionController.live (c : AcquisitionController) : AcquisitionController :=
  { c with
    store := { c.store with parserStats := {} }
    parser := {}
    bytesReceived := 0
    framesReceived := 0
    lastError := none
    inbox := []
    archiveHandled := [] }

/-- The archive recorder, if there is one, is active and is not the live recorder. -/
def ArchiveReady (c : AcquisitionController) (recorders : Recorders) : Prop :=
  ∀ id, c.archiveRecorder = some id → (recorders id).isActive = true ∧ c.recorder ≠ some id

/-- The two controllers and their recorders differ in what the archive owns only. -/
structure SameLive (c : AcquisitionController) (recorders : Recorders) (d : AcquisitionController)
    (recorders' : Recorders) : Prop where
  live : c.live = d.live
  recorders : ∀ id, c.archiveRecorder ≠ some id → recorders id = recorders' id

section Handling

variable {c d : AcquisitionController} {recorders recorders' : Recorders} {frame : Frame}

/-- What reads the live part only treats controllers with the same live part alike. -/
lemma live_congr {β : Type} {f : AcquisitionController → AcquisitionController × β}
    (hf : ∀ c, (f c.live).2 = (f c).2 ∧ (f c.live).1.live = (f c).1.live) (h : c.live = d.live) :
    (f c).2 = (f d).2 ∧ (f c).1.live = (f d).1.live := by
  rw [← (hf c).1, ← (hf c).2, h]
  exact hf d

/-- What is told by the live path is the same where the live path is. -/
lemma live_field {β : Type} (get : AcquisitionController → β) (hget : ∀ c, get c.live = get c)
    (h : c.live = d.live) : get d = get c := by
  rw [← hget d, ← h, hget]

/-- An identity does the same to the same live path. -/
lemma observeIdentity_live (h : c.live = d.live) (uuid : Uuid) :
    (c.observeIdentity uuid).2 = (d.observeIdentity uuid).2 ∧
      (c.observeIdentity uuid).1.live = (d.observeIdentity uuid).1.live := by
  refine live_congr (f := fun c => c.observeIdentity uuid) (fun c => ?_) h
  unfold AcquisitionController.observeIdentity
  cases hu : c.deviceUuid with
  | none =>
    rw [show c.live.deviceUuid = none from hu]
    exact ⟨rfl, rfl⟩
  | some expected =>
    rw [show c.live.deviceUuid = some expected from hu]
    dsimp only
    split <;> exact ⟨rfl, rfl⟩

/-- So does a reply. -/
lemma handleCli_live (h : c.live = d.live) (text : Text) :
    (c.handleCli text).2 = (d.handleCli text).2 ∧
      (c.handleCli text).1.live = (d.handleCli text).1.live := by
  refine live_congr (f := fun c => c.handleCli text) (fun c => ?_) h
  unfold AcquisitionController.handleCli
  rw [show c.live.controlState = c.controlState from rfl]
  cases c.controlState.updatedFromCli text with
  | error e => cases e <;> exact ⟨rfl, rfl⟩
  | ok state =>
    dsimp only
    cases state.deviceUuid with
    | none => exact ⟨rfl, rfl⟩
    | some uuid =>
      have hseen := observeIdentity_live
        (c := { c.live with
          controlState := state
          store := c.live.store.updateControlState state })
        (d := { c with
          controlState := state
          store := c.store.updateControlState state }) rfl uuid
      dsimp only
      revert hseen
      generalize AcquisitionController.observeIdentity _ uuid = r
      generalize AcquisitionController.observeIdentity _ uuid = r'
      obtain ⟨c₁, e⟩ := r
      obtain ⟨c₂, e'⟩ := r'
      rintro ⟨rfl, hlive⟩
      cases e with
      | none =>
        refine ⟨rfl, ?_⟩
        exact congrArg (fun c : AcquisitionController =>
          { c with cliResponses := c.cliResponses ++ [text] }) hlive
      | some error => exact ⟨rfl, hlive⟩

/-- So does a frame that is stored. -/
lemma storeFrame_live (h : c.live = d.live) (frame : Frame) :
    (c.storeFrame frame).2 = (d.storeFrame frame).2 ∧
      (c.storeFrame frame).1.live = (d.storeFrame frame).1.live := by
  refine live_congr (f := fun c => c.storeFrame frame) (fun c => ?_) h
  unfold AcquisitionController.storeFrame
  cases frame.messageType with
  | iis3dwbFifo =>
    cases frame.iisTsUs with
    | none => exact ⟨rfl, rfl⟩
    | some times =>
      cases frame.iisAccelG with
      | none => exact ⟨rfl, rfl⟩
      | some accel =>
        dsimp only
        unfold RealtimeSampleStore.appendIisArrays
        split <;> exact ⟨rfl, rfl⟩
  | jy61plSample => cases frame.jy61pl <;> exact ⟨rfl, rfl⟩
  | status => cases frame.status <;> exact ⟨rfl, rfl⟩
  | cliResponse =>
    cases frame.cliText with
    | none => exact ⟨rfl, rfl⟩
    | some text => exact handleCli_live (c := c.live) (d := c) rfl text

/-- So does one that is recorded. -/
lemma recordFrame_live (h : c.live = d.live) (recorders : Recorders) (frame : Frame) :
    (c.recordFrame recorders frame).2 = (d.recordFrame recorders frame).2 ∧
      (c.recordFrame recorders frame).1.live = (d.recordFrame recorders frame).1.live := by
  refine live_congr (f := fun c => c.recordFrame recorders frame) (fun c => ?_) h
  unfold AcquisitionController.recordFrame
  cases hr : c.recorder with
  | some id =>
    rw [show c.live.recorder = some id from hr]
    dsimp only
    cases AcquisitionController.submitTo recorders id frame.rawBytes with
    | error error => exact ⟨rfl, rfl⟩
    | ok result =>
      obtain ⟨recorders, accepted⟩ := result
      cases accepted <;> exact ⟨rfl, rfl⟩
  | none =>
    rw [show c.live.recorder = none from hr,
      show c.live.deferRecording = c.deferRecording from rfl,
      show c.live.deferredRecordingBytes = c.deferredRecordingBytes from rfl]
    dsimp only
    split
    · split <;> exact ⟨rfl, rfl⟩
    · exact ⟨rfl, rfl⟩

/-- A live frame goes to the live recorder, whatever the archive recorder holds. -/
lemma recordFrame_recorders (ready : ArchiveReady c recorders)
    (hsame : ∀ id, c.archiveRecorder ≠ some id → recorders id = recorders' id) (frame : Frame) :
    (c.recordFrame recorders frame).2.2 = (c.recordFrame recorders' frame).2.2 ∧
      (c.recordFrame recorders frame).1.live = (c.recordFrame recorders' frame).1.live ∧
      (∀ id, c.archiveRecorder ≠ some id →
        (c.recordFrame recorders frame).2.1 id = (c.recordFrame recorders' frame).2.1 id) ∧
      ∀ id, c.archiveRecorder = some id →
        (c.recordFrame recorders frame).2.1 id = recorders id := by
  unfold AcquisitionController.recordFrame
  split
  · rename_i id hr
    have hid : recorders id = recorders' id := hsame id fun ha => (ready id ha).2 hr
    simp only [AcquisitionController.submitTo, ← hid]
    cases (recorders id).submit frame.rawBytes with
    | error error => exact ⟨rfl, rfl, hsame, fun _ _ => rfl⟩
    | ok result =>
      obtain ⟨r, accepted⟩ := result
      have hupdate : ∀ i, c.archiveRecorder ≠ some i →
          Function.update recorders id r i = Function.update recorders' id r i := by
        intro i hi
        by_cases heq : i = id
        · rw [heq, Function.update_self, Function.update_self]
        · rw [Function.update_of_ne heq, Function.update_of_ne heq]
          exact hsame i hi
      have hother : ∀ i, c.archiveRecorder = some i → Function.update recorders id r i = recorders i := by
        intro i hi
        refine Function.update_of_ne ?_ _ _
        rintro rfl
        exact (ready i hi).2 hr
      cases accepted <;> exact ⟨rfl, rfl, hupdate, hother⟩
  · split
    · dsimp only
      split <;> exact ⟨rfl, rfl, hsame, fun _ _ => rfl⟩
    · exact ⟨rfl, rfl, hsame, fun _ _ => rfl⟩

/-- The archive recorder is still the one it was. -/
lemma ArchiveReady.of_shell (ready : ArchiveReady c recorders) (hshell : d.shell = c.shell)
    (hkeep : ∀ id, c.archiveRecorder = some id →
      (recorders' id).isActive = (recorders id).isActive) : ArchiveReady d recorders' := by
  intro id hid
  have harchive : d.archiveRecorder = c.archiveRecorder :=
    AcquisitionController.shell_field (·.archiveRecorder) (fun _ => rfl) hshell
  have hrecorder : d.recorder = c.recorder :=
    AcquisitionController.shell_field (·.recorder) (fun _ => rfl) hshell
  rw [harchive] at hid
  rw [hkeep id hid, hrecorder]
  exact ready id hid

/-- An archive frame without identity stays with the archive. -/
lemma handleFrame_archive (ready : ArchiveReady c recorders) (harchive : frame.archiveExport = true)
    (huuid : frame.deviceUuid = none) :
    (c.handleFrame recorders frame).2.2 = none ∧
      SameLive (c.handleFrame recorders frame).1 (c.handleFrame recorders frame).2.1 c recorders ∧
      ArchiveReady (c.handleFrame recorders frame).1 (c.handleFrame recorders frame).2.1 := by
  have hhandle : c.handleFrame recorders frame = c.handleArchiveFrame recorders frame := by
    rw [AcquisitionController.handleFrame, huuid]
    exact if_pos harchive
  have hshell := c.handleArchiveFrame_shell recorders frame
  rw [hhandle]
  unfold AcquisitionController.handleArchiveFrame at hshell ⊢
  split
  · exact ⟨rfl, ⟨rfl, fun _ _ => rfl⟩, ready⟩
  · rename_i id ha
    obtain ⟨r, accepted, hsubmit, hactive⟩ :=
      RawSessionRecorder.submit_of_active (ready id ha).1 frame.rawBytes
    have hother : ∀ i, c.archiveRecorder ≠ some i →
        Function.update recorders id r i = recorders i := by
      intro i hi
      refine Function.update_of_ne ?_ _ _
      rintro rfl
      exact hi ha
    have hkeep : ∀ i, c.archiveRecorder = some i →
        (Function.update recorders id r i).isActive = (recorders i).isActive := by
      intro i hi
      obtain rfl : id = i := Option.some.inj (ha.symm.trans hi)
      rw [Function.update_self, hactive, (ready id ha).1]
    simp only [AcquisitionController.submitTo, hsubmit]
    cases accepted with
    | true => exact ⟨rfl, ⟨rfl, hother⟩, ready.of_shell rfl hkeep⟩
    | false => exact ⟨rfl, ⟨rfl, hother⟩, ready.of_shell rfl hkeep⟩

/-- Recording a live frame does the same on both sides. -/
lemma recordFrame_same (h : SameLive c recorders d recorders') (ready : ArchiveReady c recorders)
    (frame : Frame) :
    (c.recordFrame recorders frame).2.2 = (d.recordFrame recorders' frame).2.2 ∧
      SameLive (c.recordFrame recorders frame).1 (c.recordFrame recorders frame).2.1
        (d.recordFrame recorders' frame).1 (d.recordFrame recorders' frame).2.1 ∧
      ArchiveReady (c.recordFrame recorders frame).1 (c.recordFrame recorders frame).2.1 := by
  obtain ⟨herror, hlive, hrecorders, hkeep⟩ := recordFrame_recorders ready h.recorders frame
  obtain ⟨hsecond, hlive'⟩ := recordFrame_live h.live recorders' frame
  have hshell := c.recordFrame_shell recorders frame
  have harchive := AcquisitionController.shell_field (·.archiveRecorder) (fun _ => rfl) hshell
  refine ⟨herror.trans (congrArg Prod.snd hsecond), ⟨hlive.trans hlive', fun id hid => ?_⟩, ?_⟩
  · rw [← congrArg Prod.fst hsecond]
    exact hrecorders id (harchive ▸ hid)
  · exact ready.of_shell hshell fun id hid => by rw [hkeep id hid]

/-- A live frame does the same on both sides, past its identity. -/
lemma routeFrame_live (h : SameLive c recorders d recorders') (ready : ArchiveReady c recorders)
    (hframe : frame.archiveExport = false) :
    (c.routeFrame recorders frame).2.2 = (d.routeFrame recorders' frame).2.2 ∧
      SameLive (c.routeFrame recorders frame).1 (c.routeFrame recorders frame).2.1
        (d.routeFrame recorders' frame).1 (d.routeFrame recorders' frame).2.1 ∧
      ArchiveReady (c.routeFrame recorders frame).1 (c.routeFrame recorders frame).2.1 := by
  have hlive : ¬ frame.archiveExport = true := by simp [hframe]
  rw [AcquisitionController.routeFrame, if_neg hlive, AcquisitionController.routeFrame, if_neg hlive]
  have hrecord := recordFrame_same h ready frame
  revert hrecord
  generalize c.recordFrame recorders frame = r
  generalize d.recordFrame recorders' frame = r'
  obtain ⟨c₁, recorders₁, e⟩ := r
  obtain ⟨d₁, recorders₁', e'⟩ := r'
  rintro ⟨rfl, hsame, hready⟩
  cases e with
  | some error => exact ⟨rfl, hsame, hready⟩
  | none =>
    obtain ⟨herror, hstored⟩ := storeFrame_live hsame.live frame
    have hshell := c₁.storeFrame_shell frame
    have harchive := AcquisitionController.shell_field (·.archiveRecorder) (fun _ => rfl) hshell
    exact ⟨herror, ⟨hstored, fun id hid => hsame.recorders id (harchive ▸ hid)⟩,
      hready.of_shell hshell fun _ _ => rfl⟩

/-- A live frame does the same on both sides. -/
lemma handleFrame_live (h : SameLive c recorders d recorders') (ready : ArchiveReady c recorders)
    (hframe : frame.archiveExport = false) :
    (c.handleFrame recorders frame).2.2 = (d.handleFrame recorders' frame).2.2 ∧
      SameLive (c.handleFrame recorders frame).1 (c.handleFrame recorders frame).2.1
        (d.handleFrame recorders' frame).1 (d.handleFrame recorders' frame).2.1 ∧
      ArchiveReady (c.handleFrame recorders frame).1 (c.handleFrame recorders frame).2.1 := by
  unfold AcquisitionController.handleFrame
  cases frame.deviceUuid with
  | none => exact routeFrame_live h ready hframe
  | some uuid =>
    dsimp only
    have hseen := observeIdentity_live h.live uuid
    have hshell := c.observeIdentity_shell uuid
    revert hseen hshell
    generalize c.observeIdentity uuid = r
    generalize d.observeIdentity uuid = r'
    obtain ⟨c₁, e⟩ := r
    obtain ⟨d₁, e'⟩ := r'
    rintro ⟨rfl, hlive⟩ hshell
    have harchive := AcquisitionController.shell_field (·.archiveRecorder) (fun _ => rfl) hshell
    have hsame : SameLive c₁ recorders d₁ recorders' :=
      ⟨hlive, fun id hid => h.recorders id (harchive ▸ hid)⟩
    have hready : ArchiveReady c₁ recorders := ready.of_shell hshell fun _ _ => rfl
    cases e with
    | some error => exact ⟨rfl, hsame, hready⟩
    | none => exact routeFrame_live hsame hready hframe

/-- Only the live path counts. -/
lemma SameLive.of_live {c' d' : AcquisitionController} (h : SameLive c recorders d recorders')
    (hc : c'.live = c.live) (hd : d'.live = d.live) : SameLive c' recorders d' recorders' := by
  refine ⟨hc.trans (h.live.trans hd.symm), fun id hid => h.recorders id ?_⟩
  rwa [live_field (·.archiveRecorder) (fun _ => rfl) hc]

/-- So it is with whether the archive is ready. -/
lemma ArchiveReady.of_live {c' : AcquisitionController} (h : ArchiveReady c recorders)
    (hc : c'.live = c.live) : ArchiveReady c' recorders := by
  intro id hid
  rw [← live_field (·.archiveRecorder) (fun _ => rfl) hc] at hid
  rw [← live_field (·.recorder) (fun _ => rfl) hc]
  exact h id hid

end Handling

/-- The loop of `run` over the frames of a read, until one of them raises. -/
def AcquisitionController.handleFrames (c : AcquisitionController) (recorders : Recorders) :
    List Frame → AcquisitionController × Recorders × Option WorkerError
  | [] => (c, recorders, none)
  | _ :: frames =>
    match c.handleNext recorders with
    | (c, recorders, some error) => (c, recorders, some error)
    | (c, recorders, none) => handleFrames c recorders frames

section Frames

variable {c d : AcquisitionController} {recorders recorders' : Recorders} {frame : Frame}

/-- Handling writes to the fields of `shell` only, and leaves nothing to handle unless it raises. -/
lemma handleFrames_shell {frames : List Frame} (recorders : Recorders) (h : c.inbox = frames) :
    ∃ left, (c.handleFrames recorders frames).1.shell = { c with inbox := left }.shell ∧
      ((c.handleFrames recorders frames).2.2 = none → left = []) := by
  induction frames generalizing c recorders with
  | nil => exact ⟨c.inbox, rfl, fun _ => h⟩
  | cons frame frames ih =>
    have hshell := AcquisitionController.handleNext_shell recorders h
    unfold AcquisitionController.handleFrames
    generalize c.handleNext recorders = r at hshell ⊢
    obtain ⟨c₁, recorders₁, e⟩ := r
    cases e with
    | some error => exact ⟨frames, hshell, fun he => by cases he⟩
    | none =>
      have hinbox : c₁.inbox = frames :=
        AcquisitionController.shell_field (·.inbox) (fun _ => rfl) hshell
      obtain ⟨left, hsame, hnil⟩ := ih recorders₁ hinbox
      refine ⟨left, hsame.trans ?_, hnil⟩
      exact congrArg (fun c : AcquisitionController => { c with inbox := left }) hshell

/-- An archive frame leaves the live path alone. -/
lemma handleNext_archive {frames : List Frame} (ready : ArchiveReady c recorders)
    (h : c.inbox = frame :: frames) (harchive : frame.archiveExport = true)
    (huuid : frame.deviceUuid = none) :
    (c.handleNext recorders).2.2 = none ∧
      SameLive (c.handleNext recorders).1 (c.handleNext recorders).2.1 c recorders ∧
      ArchiveReady (c.handleNext recorders).1 (c.handleNext recorders).2.1 := by
  have hready : ArchiveReady { c with inbox := frames } recorders := ready.of_live rfl
  obtain ⟨herror, hsame, hready'⟩ := handleFrame_archive hready harchive huuid
  obtain ⟨c', heq, rfl | rfl⟩ :=
    AcquisitionController.handleNext_cons recorders h
  · rw [heq]
    exact ⟨herror, hsame.of_live rfl rfl, hready'⟩
  · rw [heq]
    exact ⟨herror, hsame.of_live rfl rfl, hready'.of_live rfl⟩

/-- A live frame does the same to the same live path. -/
lemma handleNext_live {frames frames' : List Frame} (hsame : SameLive c recorders d recorders')
    (ready : ArchiveReady c recorders) (hc : c.inbox = frame :: frames)
    (hd : d.inbox = frame :: frames') (hframe : frame.archiveExport = false) :
    (c.handleNext recorders).2.2 = (d.handleNext recorders').2.2 ∧
      SameLive (c.handleNext recorders).1 (c.handleNext recorders).2.1
        (d.handleNext recorders').1 (d.handleNext recorders').2.1 ∧
      ArchiveReady (c.handleNext recorders).1 (c.handleNext recorders).2.1 := by
  have hready : ArchiveReady { c with inbox := frames } recorders := ready.of_live rfl
  have hsame' : SameLive { c with inbox := frames } recorders { d with inbox := frames' }
    recorders' := hsame.of_live rfl rfl
  obtain ⟨herror, hlive, hready'⟩ := handleFrame_live hsame' hready hframe
  obtain ⟨c', hceq, hc'⟩ := AcquisitionController.handleNext_cons recorders hc
  obtain ⟨d', hdeq, hd'⟩ := AcquisitionController.handleNext_cons recorders' hd
  have hcl : c'.live = (AcquisitionController.handleFrame { c with inbox := frames } recorders
      frame).1.live := by
    rcases hc' with rfl | rfl <;> rfl
  have hdl : d'.live = (AcquisitionController.handleFrame { d with inbox := frames' } recorders'
      frame).1.live := by
    rcases hd' with rfl | rfl <;> rfl
  rw [hceq, hdeq]
  exact ⟨herror, hlive.of_live hcl hdl, hready'.of_live hcl⟩

/-- The frames of a read, and the live ones among them, do the same to the live path. -/
lemma handleFrames_live {frames : List Frame} (hsame : SameLive c recorders d recorders')
    (ready : ArchiveReady c recorders) (hc : c.inbox = frames)
    (hd : d.inbox = frames.filter fun frame => !frame.archiveExport)
    (huuid : ∀ frame ∈ frames, frame.archiveExport = true → frame.deviceUuid = none) :
    (c.handleFrames recorders frames).2.2 =
        (d.handleFrames recorders' (frames.filter fun frame => !frame.archiveExport)).2.2 ∧
      SameLive (c.handleFrames recorders frames).1 (c.handleFrames recorders frames).2.1
        (d.handleFrames recorders' (frames.filter fun frame => !frame.archiveExport)).1
        (d.handleFrames recorders' (frames.filter fun frame => !frame.archiveExport)).2.1 ∧
      ArchiveReady (c.handleFrames recorders frames).1 (c.handleFrames recorders frames).2.1 := by
  induction frames generalizing c d recorders recorders' with
  | nil => exact ⟨rfl, hsame, ready⟩
  | cons frame frames ih =>
    have hrest := fun f hf => huuid f (List.mem_cons_of_mem _ hf)
    have hcshell := AcquisitionController.handleNext_shell recorders hc
    cases hflag : frame.archiveExport with
    | true =>
      rw [List.filter_cons_of_neg (by simp [hflag])] at hd ⊢
      -- the archive frame is handled on one side only
      have hnext := handleNext_archive ready hc hflag (huuid frame List.mem_cons_self hflag)
      rw [AcquisitionController.handleFrames]
      generalize c.handleNext recorders = r at hnext hcshell ⊢
      obtain ⟨c₁, recorders₁, e⟩ := r
      obtain ⟨rfl, hback, hready⟩ := hnext
      have hinbox : c₁.inbox = frames :=
        AcquisitionController.shell_field (·.inbox) (fun _ => rfl) hcshell
      have harchive : c₁.archiveRecorder = c.archiveRecorder :=
        AcquisitionController.shell_field (c := { c with inbox := frames }) (·.archiveRecorder)
          (fun _ => rfl) hcshell
      have hsame₁ : SameLive c₁ recorders₁ d recorders' :=
        ⟨hback.live.trans hsame.live, fun id hid =>
          (hback.recorders id hid).trans (hsame.recorders id (harchive ▸ hid))⟩
      exact ih hsame₁ hready hinbox hd hrest
    | false =>
      rw [List.filter_cons_of_pos (by simp [hflag])] at hd ⊢
      have hdshell := AcquisitionController.handleNext_shell recorders' hd
      -- the live frame is handled on both sides, with the same outcome
      have hnext := handleNext_live hsame ready hc hd hflag
      rw [AcquisitionController.handleFrames, AcquisitionController.handleFrames]
      generalize c.handleNext recorders = r at hnext hcshell ⊢
      generalize d.handleNext recorders' = r' at hnext hdshell ⊢
      obtain ⟨c₁, recorders₁, e⟩ := r
      obtain ⟨d₁, recorders₁', e'⟩ := r'
      obtain ⟨rfl, hsame₁, hready⟩ := hnext
      cases e with
      | some error => exact ⟨rfl, hsame₁, hready⟩
      | none =>
        have hcinbox : c₁.inbox = frames :=
          AcquisitionController.shell_field (·.inbox) (fun _ => rfl) hcshell
        have hdinbox : d₁.inbox = _ :=
          AcquisitionController.shell_field (·.inbox) (fun _ => rfl) hdshell
        exact ih hsame₁ hready hcinbox hdinbox hrest

end Frames

/-- The worker of a session, with the recorders. Past an error it handles nothing. -/
structure Worker where
  controller : AcquisitionController
  recorders : Recorders
  error : Option WorkerError := none

/-- What happens around a worker: a read, or a pass of a recorder's writer. -/
inductive WorkerEvent (α : Type) where
  | read (data : α)
  | write (id : Nat) (outcome : WriterOutcome)

/-- The event with the data of its read changed. -/
def WorkerEvent.map {α β : Type} (f : α → β) : WorkerEvent α → WorkerEvent β
  | .read data => .read (f data)
  | .write id outcome => .write id outcome

/-- The data of the event. -/
def WorkerEvent.data {α : Type} : WorkerEvent (List α) → List α
  | .read data => data
  | .write _ _ => []

namespace Worker

/-- One event. -/
def step (crc32 : Bytes → UInt32) (w : Worker) : WorkerEvent Bytes → Worker
  | .read data =>
    if w.error.isSome then w
    else
      let c := w.controller.readChunk crc32 data
      let (controller, recorders, error) := c.handleFrames w.recorders c.inbox
      { controller, recorders, error }
  | .write id outcome =>
    { w with recorders := Function.update w.recorders id ((w.recorders id).writerStep outcome) }

/-- A sequence of events. -/
def run (crc32 : Bytes → UInt32) (w : Worker) (events : List (WorkerEvent Bytes)) : Worker :=
  events.foldl (step crc32) w

/-- The live path of both workers is the same. -/
structure LiveUnchanged (w v : Worker) : Prop where
  samples : w.controller.store.chunks = v.controller.store.chunks
  orientation : w.controller.store.latestOrientation = v.controller.store.latestOrientation
  status : w.controller.store.firmwareStatus = v.controller.store.firmwareStatus
  controlState : w.controller.store.firmwareControlState = v.controller.store.firmwareControlState
  recorder : ∀ id, w.controller.recorder = some id → w.recorders id = v.recorders id
  deferred : w.controller.deferredRecordingFrames = v.controller.deferredRecordingFrames
  gaps : w.controller.parser.stats.sequenceGaps = v.controller.parser.stats.sequenceGaps

end Worker

/-- The bridge is off, and everything read and not parsed is `held`. -/
structure Holds (c : AcquisitionController) (held : Bytes) : Prop where
  idle : c.otaActive = false
  flushed : c.otaDemux.pending = []
  handled : c.inbox = []
  buffer : c.parser.buffer = held

/-- A worker that has seen no frame yet. -/
structure Worker.Fresh (w : Worker) : Prop where
  alive : w.error = none
  holds : Holds w.controller []
  sequence : w.controller.parser.lastSequence = none
  ready : ArchiveReady w.controller w.recorders

/-- At a part of a valid frame the parser waits. -/
lemma look_of_held {p : Bytes} {todo : List (ValidFrame crc32)}
    (h : Partial p (todo.map ValidFrame.bytes)) : (sdf1 crc32).look p = .wait := by
  rcases h with rfl | ⟨b, bs, htodo, hpre, hlt⟩
  · rfl
  · obtain ⟨f, fs, -, rfl, -⟩ := List.map_eq_cons_iff.mp htodo
    exact f.item.look_prefix hpre hlt

/-- A read of the bytes of valid frames, which may be empty. -/
lemma readChunk_frames {c : AcquisitionController} {held data rest : Bytes}
    {frames : List (ValidFrame crc32)} (h : Holds c held)
    (hheld : (sdf1 crc32).look held = .wait) (hcut : held ++ data = bytesOf frames ++ rest)
    (hrest : (sdf1 crc32).look rest = .wait) :
    (c.readChunk crc32 data).live = c.live ∧
      (c.readChunk crc32 data).parser =
        { toDecoder := (c.parser.toDecoder.frames frames).1, buffer := rest } ∧
      (c.readChunk crc32 data).inbox = (c.parser.toDecoder.frames frames).2 := by
  obtain ⟨hidle, hflushed, hhandled, hbuffer⟩ := h
  subst hbuffer
  have hfeed := c.parser.feed_frames data rest frames hcut hrest
  unfold AcquisitionController.readChunk
  by_cases hdata : data = []
  · -- feeding nothing leaves the parser as it is
    have hstay := c.parser.feed_frames data c.parser.buffer ([] : List (ValidFrame crc32))
      (by rw [hdata]; simp [bytesOf]) hheld
    rw [hfeed] at hstay
    obtain ⟨hparser, hframes⟩ := Prod.ext_iff.mp hstay
    rw [if_pos hdata]
    exact ⟨rfl, hparser.symm, hhandled.trans hframes.symm⟩
  · have hparse : ∀ n, AcquisitionController.parseChunk { c with bytesReceived := n } crc32 data =
        ({ c with
          bytesReceived := n
          parser := { toDecoder := (c.parser.toDecoder.frames frames).1, buffer := rest } },
          (c.parser.toDecoder.frames frames).2, []) := by
      intro n
      have hactive : ¬ c.otaActive = true := by simp [hidle]
      rw [AcquisitionController.parseChunk, if_neg hactive, if_neg (not_not.mpr hflushed)]
      simp only [AcquisitionController.feedParser, hfeed]
    rw [if_neg hdata, hparse]
    dsimp only
    split <;> exact ⟨rfl, rfl, rfl⟩

/-- Handling the frames of a read leaves the parser and the bridge alone. -/
lemma handleFrames_holds {c : AcquisitionController} {held : Bytes} (recorders : Recorders)
    (hidle : c.otaActive = false) (hflushed : c.otaDemux.pending = [])
    (hbuffer : c.parser.buffer = held) :
    (c.handleFrames recorders c.inbox).1.parser = c.parser ∧
      ((c.handleFrames recorders c.inbox).2.2 = none →
        Holds (c.handleFrames recorders c.inbox).1 held) := by
  obtain ⟨left, hshell, hnil⟩ := handleFrames_shell recorders (rfl : c.inbox = c.inbox)
  have field {β : Type} (get : AcquisitionController → β) (hget : ∀ c, get c.shell = get c) :
      get (c.handleFrames recorders c.inbox).1 = get { c with inbox := left } :=
    AcquisitionController.shell_field get hget hshell
  have hparser := field (·.parser) fun _ => rfl
  refine ⟨hparser, fun herror => ⟨?_, ?_, ?_, ?_⟩⟩
  · exact (field (·.otaActive) fun _ => rfl).trans hidle
  · exact (field (·.otaDemux.pending) fun _ => rfl).trans hflushed
  · exact (field (·.inbox) fun _ => rfl).trans (hnil herror)
  · rw [hparser]
    exact hbuffer

/-- The run over the whole stream and the run without its archive frames, where the first has read
a part `p` of the next frame. -/
structure Matched (w v : Worker) (p : List (UInt8 × Bool)) : Prop where
  error : w.error = v.error
  same : SameLive w.controller w.recorders v.controller v.recorders
  ready : ArchiveReady w.controller w.recorders
  clock : SameClock w.controller.parser.toDecoder v.controller.parser.toDecoder
  holds : w.error = none → Holds w.controller (unmark p) ∧ Holds v.controller (keep p)

/-- Runs that match have the same live path. -/
lemma Matched.liveUnchanged {w v : Worker} {p : List (UInt8 × Bool)} (h : Matched w v p) :
    Worker.LiveUnchanged w v where
  samples := (live_field (·.store.chunks) (fun _ => rfl) h.same.live).symm
  orientation := (live_field (·.store.latestOrientation) (fun _ => rfl) h.same.live).symm
  status := (live_field (·.store.firmwareStatus) (fun _ => rfl) h.same.live).symm
  controlState := (live_field (·.store.firmwareControlState) (fun _ => rfl) h.same.live).symm
  recorder id hid := h.same.recorders id fun ha => (h.ready id ha).2 hid
  deferred := (live_field (·.deferredRecordingFrames) (fun _ => rfl) h.same.live).symm
  gaps := h.clock.gaps

/-- One event, and what it leaves of the stream. -/
lemma Matched.step {w v : Worker} {p later : List (UInt8 × Bool)} {todo : List (ValidFrame crc32)}
    (h : Matched w v p) (hp : Partial p (todo.map (markItem ValidFrame.bytes ValidFrame.archive)))
    {e : WorkerEvent (List (UInt8 × Bool))}
    (hstream : p ++ e.data ++ later = markStream ValidFrame.bytes ValidFrame.archive todo)
    (hcontrol : ∀ f ∈ todo, f.archive = true → f.isSensor = false) :
    ∃ (done rest : List (ValidFrame crc32)) (q : List (UInt8 × Bool)), todo = done ++ rest ∧
      Matched (w.step crc32 (e.map unmark)) (v.step crc32 (e.map keep)) q ∧
      Partial q (rest.map (markItem ValidFrame.bytes ValidFrame.archive)) ∧
      q ++ later = markStream ValidFrame.bytes ValidFrame.archive rest := by
  cases e with
  | write id outcome =>
    rw [WorkerEvent.data, List.append_nil] at hstream
    refine ⟨[], todo, p, rfl, ⟨h.error, ⟨h.same.live, fun i hi => ?_⟩, fun i hi => ?_, h.clock,
      h.holds⟩, hp, hstream⟩
    · -- the writer takes the same item on both sides
      have hsame := h.same.recorders i hi
      by_cases heq : i = id
      · subst heq
        simp only [Worker.step, WorkerEvent.map, Function.update_self, hsame]
      · simp only [Worker.step, WorkerEvent.map, Function.update_of_ne heq, hsame]
    · refine ⟨?_, (h.ready i hi).2⟩
      by_cases heq : i = id
      · subst heq
        simp only [Worker.step, WorkerEvent.map, Function.update_self,
          RawSessionRecorder.writerStep_isActive]
        exact (h.ready i hi).1
      · simp only [Worker.step, WorkerEvent.map, Function.update_of_ne heq]
        exact (h.ready i hi).1
  | read data =>
    -- the chunk completes some frames and leaves a part of the next
    obtain ⟨done, rest, q, rfl, hcut, hlater, hq⟩ := cut_markStream hstream
    refine ⟨done, rest, q, rfl, ?_, hq, hlater⟩
    simp only [WorkerEvent.data] at hcut
    have herror := h.error
    cases hw : w.error with
    | some error =>
      have hv : v.error = some error := by rw [← herror, hw]
      simp only [Worker.step, WorkerEvent.map, hw, hv, Option.isSome_some, if_true]
      exact ⟨herror, h.same, h.ready, h.clock, fun hn => by rw [hw] at hn; cases hn⟩
    | none =>
      have hv : v.error = none := by rw [← herror, hw]
      obtain ⟨hwholds, hvholds⟩ := h.holds hw
      -- the same cut, seen with the archive frames and without
      have hwcut : unmark p ++ unmark data = bytesOf done ++ unmark q := by
        rw [← unmark_append, hcut, unmark_append, unmark_markStream]
        rfl
      have hvcut : keep p ++ keep data =
          bytesOf (done.filter fun f => !f.archive) ++ keep q := by
        rw [← keep_append, hcut, keep_append, keep_markStream]
        rfl
      obtain ⟨hwlive, hwparser, hwinbox⟩ := readChunk_frames hwholds
        (look_of_held hp.unmark) hwcut (look_of_held hq.unmark)
      obtain ⟨hvlive, hvparser, hvinbox⟩ := readChunk_frames hvholds
        (look_of_held hp.keep) hvcut (look_of_held hq.keep)
      obtain ⟨hclock, hframes, huuid⟩ :=
        sameClock_frames h.clock done fun f hf => hcontrol f (List.mem_append_left _ hf)
      have hinbox : (v.controller.readChunk crc32 (keep data)).inbox =
          (w.controller.readChunk crc32 (unmark data)).inbox.filter
            fun frame => !frame.archiveExport := by
        rw [hvinbox, hwinbox, hframes]
      obtain ⟨herror', hsame, hready⟩ := handleFrames_live (h.same.of_live hwlive hvlive)
        (h.ready.of_live hwlive) rfl hinbox (by rwa [hwinbox])
      rw [← hinbox] at herror' hsame
      have hwstep := handleFrames_holds w.recorders
        (c := w.controller.readChunk crc32 (unmark data))
        ((live_field (·.otaActive) (fun _ => rfl) hwlive).symm.trans hwholds.idle)
        ((live_field (·.otaDemux.pending) (fun _ => rfl) hwlive).symm.trans hwholds.flushed)
        (congrArg StreamParser.buffer hwparser)
      have hvstep := handleFrames_holds v.recorders
        (c := v.controller.readChunk crc32 (keep data))
        ((live_field (·.otaActive) (fun _ => rfl) hvlive).symm.trans hvholds.idle)
        ((live_field (·.otaDemux.pending) (fun _ => rfl) hvlive).symm.trans hvholds.flushed)
        (congrArg StreamParser.buffer hvparser)
      simp only [Worker.step, WorkerEvent.map, hw, hv, Option.isSome_none, Bool.false_eq_true,
        if_false]
      refine ⟨herror', hsame, hready, ?_, fun hn => ⟨hwstep.2 hn, hvstep.2 (herror' ▸ hn)⟩⟩
      rw [hwstep.1, hvstep.1, hwparser, hvparser]
      exact hclock

/-- A run of both workers from any point inside a frame. -/
lemma Matched.run {w v : Worker} {p : List (UInt8 × Bool)} {todo : List (ValidFrame crc32)}
    (h : Matched w v p) (hp : Partial p (todo.map (markItem ValidFrame.bytes ValidFrame.archive)))
    {events : List (WorkerEvent (List (UInt8 × Bool)))}
    (hstream : p ++ (events.map WorkerEvent.data).flatten =
      markStream ValidFrame.bytes ValidFrame.archive todo)
    (hcontrol : ∀ f ∈ todo, f.archive = true → f.isSensor = false) :
    Worker.LiveUnchanged (w.run crc32 (events.map (.map unmark)))
      (v.run crc32 (events.map (.map keep))) := by
  induction events generalizing w v p todo with
  | nil => exact h.liveUnchanged
  | cons e events ih =>
    rw [List.map_cons, List.flatten_cons, ← List.append_assoc] at hstream
    obtain ⟨done, rest, q, rfl, hstep, hq, hlater⟩ := h.step hp hstream hcontrol
    exact ih hstep hq hlater fun f hf => hcontrol f (List.mem_append_right _ hf)

/-- Behind a sensor frame there is a last sequence. -/
lemma frames_sequence (d : Decoder) (frames : List (ValidFrame crc32))
    (h : (∃ f ∈ frames, f.isSensor = true) ∨ d.lastSequence.isSome) :
    (d.frames frames).1.lastSequence.isSome := by
  induction frames generalizing d with
  | nil =>
    rcases h with ⟨f, hf, -⟩ | h
    · cases hf
    · exact h
  | cons f frames ih =>
    refine ih (d.event f.bytes .candidate).1 ?_
    rw [(event_sequence d f).1]
    cases hs : f.isSensor with
    | true => exact .inr rfl
    | false =>
      refine h.imp_left fun ⟨g, hg, hgs⟩ => ?_
      rcases List.mem_cons.mp hg with rfl | hg
      · rw [hs] at hgs
        cases hgs
      · exact ⟨g, hg, hgs⟩

/-- Frames only add gaps. -/
lemma le_frames_gaps (d : Decoder) (frames : List (ValidFrame crc32)) :
    d.stats.sequenceGaps ≤ (d.frames frames).1.stats.sequenceGaps := by
  induction frames generalizing d with
  | nil => exact le_rfl
  | cons f frames ih =>
    refine le_trans ?_ (ih (d.event f.bytes .candidate).1)
    rw [(event_sequence d f).2]
    split
    · exact le_recordSequence d _
    · exact le_rfl

/-- A number that is left out is a gap of one. -/
lemma sequenceGap_skip (s : Nat) : Decoder.sequenceGap s ((s + 2) % 2 ^ 32) = 1 := by
  unfold Decoder.sequenceGap
  omega

/-- The gaps behind the live frame of a number. -/
lemma gaps_jy (crc32 : Bytes → UInt32) (d : Decoder) (sequence : Nat) (h : sequence < 2 ^ 32) :
    (d.frames [ValidFrame.jy crc32 0 sequence (by decide) h]).1.stats.sequenceGaps =
      (d.recordSequence sequence).stats.sequenceGaps := by
  obtain ⟨-, hsensor, hsequence⟩ := jy_live crc32 sequence h
  generalize ValidFrame.jy crc32 0 sequence (by decide) h = f at hsensor hsequence ⊢
  have hgaps := (event_sequence d f).2
  rw [if_pos hsensor, hsequence] at hgaps
  exact hgaps

/-- A read of valid frames, past every frame of it. -/
lemma Worker.Fresh.run_read {w : Worker} (fresh : w.Fresh) (frames : List (ValidFrame crc32)) :
    (w.run crc32 [.read (bytesOf frames)]).controller.parser.toDecoder =
      (w.controller.parser.toDecoder.frames frames).1 := by
  have hcut : [] ++ bytesOf frames = bytesOf frames ++ [] := by simp
  obtain ⟨hlive, hparser, -⟩ := readChunk_frames fresh.holds rfl hcut rfl
  have hstep := handleFrames_holds w.recorders
    (c := w.controller.readChunk crc32 (bytesOf frames))
    ((live_field (·.otaActive) (fun _ => rfl) hlive).symm.trans fresh.holds.idle)
    ((live_field (·.otaDemux.pending) (fun _ => rfl) hlive).symm.trans fresh.holds.flushed)
    (congrArg StreamParser.buffer hparser)
  simp only [Worker.run, List.foldl_cons, List.foldl_nil, Worker.step, fresh.alive,
    Option.isSome_none, Bool.false_eq_true, if_false]
  rw [hstep.1, hparser]

/-- Among all live frames, in all positions and for all chunks, archive frames leave the store, the
live recorder and the sequence gaps alone exactly if none of them is an IIS or JY61PL frame. -/
theorem archive_unnoticed_iff (archived : List (ValidFrame crc32))
    (harchived : ∀ f ∈ archived, f.archive = true) (w : Worker) (fresh : w.Fresh) :
    (∀ (frames : List (ValidFrame crc32)) (events : List (WorkerEvent (List (UInt8 × Bool)))),
      frames.filter ValidFrame.archive = archived →
      (events.map WorkerEvent.data).flatten =
        markStream ValidFrame.bytes ValidFrame.archive frames →
      Worker.LiveUnchanged (w.run crc32 (events.map (.map unmark)))
        (w.run crc32 (events.map (.map keep)))) ↔
      ∀ f ∈ archived, f.isSensor = false := by
  constructor
  · intro hall f hf
    by_contra hsensor
    rw [Bool.not_eq_false] at hsensor
    -- a live frame whose number skips one behind the last sensor frame of the archive
    have hlast := frames_sequence w.controller.parser.toDecoder archived (.inl ⟨f, hf, hsensor⟩)
    obtain ⟨s, hs⟩ := Option.isSome_iff_exists.mp hlast
    have hnumber : (s + 2) % 2 ^ 32 < 2 ^ 32 := Nat.mod_lt _ (by decide)
    obtain ⟨hlive, -, -⟩ := jy_live crc32 ((s + 2) % 2 ^ 32) hnumber
    have hgaps := fun d => gaps_jy crc32 d ((s + 2) % 2 ^ 32) hnumber
    generalize ValidFrame.jy crc32 0 ((s + 2) % 2 ^ 32) (by decide) hnumber = g at hlive hgaps
    have hfilter : (archived ++ [g]).filter ValidFrame.archive = archived := by
      rw [List.filter_append, List.filter_eq_self.mpr harchived,
        List.filter_cons_of_neg (by simp [hlive]), List.filter_nil, List.append_nil]
    have hunchanged := hall (archived ++ [g])
      [.read (markStream ValidFrame.bytes ValidFrame.archive (archived ++ [g]))] hfilter
      (by simp [WorkerEvent.data])
    have hgap := hunchanged.gaps
    simp only [List.map_cons, List.map_nil, WorkerEvent.map, unmark_markStream, keep_markStream]
      at hgap
    have hkept : (archived ++ [g]).filter (fun f => !f.archive) = [g] := by
      rw [List.filter_append, List.filter_eq_nil_iff.mpr fun f hf => by simp [harchived f hf],
        List.filter_cons_of_pos (by simp [hlive]), List.filter_nil, List.nil_append]
    have hfull := fresh.run_read (archived ++ [g])
    have halone := fresh.run_read [g]
    rw [hkept] at hgap
    simp only [bytesOf] at hfull halone
    rw [hfull, halone, Decoder.frames_append] at hgap
    simp only [hgaps, Decoder.recordSequence, hs, fresh.sequence, sequenceGap_skip] at hgap
    have hle := le_frames_gaps w.controller.parser.toDecoder archived
    rw [if_pos (by decide)] at hgap
    omega
  · intro hcontrol frames events hfilter hstream
    have hmatched : Matched w w [] :=
      ⟨rfl, ⟨rfl, fun _ _ => rfl⟩, fresh.ready, SameClock.refl _, fun _ => ⟨fresh.holds, fresh.holds⟩⟩
    refine hmatched.run (.inl rfl) hstream fun f hf harchive => hcontrol f ?_
    rw [← hfilter]
    exact List.mem_filter.mpr ⟨hf, harchive⟩

/-- A worker at its start, without recorders. -/
def freshWorker : Worker where
  controller := {}
  recorders _ := {}

/-- The worker at its start is fresh. -/
lemma freshWorker_fresh : freshWorker.Fresh where
  alive := rfl
  holds := ⟨rfl, rfl, rfl, rfl⟩
  sequence := rfl
  ready := nofun

/-- A CLI frame with the archive bit. -/
def archiveText : ValidFrame zlibCrc32 :=
  .cli zlibCrc32 archiveFlag (asciiBytes "OK".toList) (by decide) (by decide)

/-- The CLI frame of an archive goes unnoticed between two live frames. -/
theorem archive_unnoticed_text :
    let events : List (WorkerEvent (List (UInt8 × Bool))) :=
      [.read (markStream ValidFrame.bytes ValidFrame.archive
        [.jy zlibCrc32 0 1 (by decide) (by decide), archiveText,
          .jy zlibCrc32 0 2 (by decide) (by decide)])]
    Worker.LiveUnchanged (freshWorker.run zlibCrc32 (events.map (.map unmark)))
      (freshWorker.run zlibCrc32 (events.map (.map keep))) :=
  (archive_unnoticed_iff [archiveText] (by decide +kernel) freshWorker freshWorker_fresh).mpr
    (by decide +kernel)
    [.jy zlibCrc32 0 1 (by decide) (by decide), archiveText,
      .jy zlibCrc32 0 2 (by decide) (by decide)] _ (by rfl) (List.append_nil _)

/-- An archive frame numbered 100 between the live frames 1 and 2 leaves a gap of 98. -/
theorem archive_leaves_gap :
    ¬ ∀ (frames : List (ValidFrame zlibCrc32)) (events : List (WorkerEvent (List (UInt8 × Bool)))),
      (events.map WorkerEvent.data).flatten =
        markStream ValidFrame.bytes ValidFrame.archive frames →
      Worker.LiveUnchanged (freshWorker.run zlibCrc32 (events.map (.map unmark)))
        (freshWorker.run zlibCrc32 (events.map (.map keep))) := by
  intro h
  have hgaps := (h [.jy zlibCrc32 0 1 (by decide) (by decide),
    .jy zlibCrc32 archiveFlag 100 (by decide) (by decide),
    .jy zlibCrc32 0 2 (by decide) (by decide)] [.read _] (List.append_nil _)).gaps
  revert hgaps
  decide +kernel

end SensorHost.Acquisition
