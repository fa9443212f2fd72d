import SensorHost.Acquisition.Controller

/-!
# What handling a frame does

One lemma for each thing that handling a frame may do: learn the identity of the device (`Learns`),
give the bytes of the frame to a recorder or to the backlog (`Files`), and read a reply (`Reads`).
Properties of runs use these and do not unfold the handling of a frame. A frame that contradicts the
identity of the connection does nothing but end the worker (`handleFrame_refused`).

The lemmas come in families, one for each part of the handling: `handleArchiveFrame_learns`,
`recordFrame_learns` and so on for the identity, the same for the recordings with `Routes`, and for
what is shown. A family ends in one statement about the next frame of the inbox
(`handleNext_learns`, `handleNext_files`, `handleNext_reads`), which is what the invariants of the
application use.
-/

namespace SensorHost.Acquisition
open SensorHost.Lib SensorHost.Protocol SensorHost.Storage

namespace AcquisitionController

variable {c d : AcquisitionController} {recorders : Recorders} {frame : Frame}

/-- The identity stays what it is, or is learned and queued as an update. -/
inductive Identified : Option Uuid → List Uuid → Option Uuid → List Uuid → Prop
  | same {known : Option Uuid} {updates : List Uuid} : Identified known updates known updates
  | learned {updates : List Uuid} (uuid : Uuid) :
      Identified none updates (some uuid) (updates ++ [uuid])

/-- What the second controller knows of the identity, and has queued, comes from the first. -/
abbrev Learns (c d : AcquisitionController) : Prop :=
  Identified c.deviceUuid c.identityUpdates d.deviceUuid d.identityUpdates

/-- An identity is learned once. -/
lemma Identified.trans {k k' k'' : Option Uuid} {us us' us'' : List Uuid}
    (h : Identified k us k' us') (h' : Identified k' us' k'' us'') : Identified k us k'' us'' := by
  cases h with
  | same => exact h'
  | learned uuid =>
    cases h' with
    | same => exact .learned uuid

/-- A known identity stays. -/
lemma Identified.known {k' : Option Uuid} {us us' : List Uuid} {uuid : Uuid}
    (h : Identified (some uuid) us k' us') : k' = some uuid ∧ us' = us := by
  cases h
  exact ⟨rfl, rfl⟩

/-- Observing an identity keeps the one that is known, or learns it. -/
lemma observeIdentity_learns (c : AcquisitionController) (uuid : Uuid) :
    Learns c (c.observeIdentity uuid).1 := by
  unfold observeIdentity
  cases hknown : c.deviceUuid with
  | none =>
    rw [Learns, hknown]
    exact .learned uuid
  | some expected =>
    dsimp only
    split
    · exact .same
    · exact .same

/-- An identity that is accepted is the one of the connection. -/
lemma observeIdentity_known {uuid : Uuid} (h : (c.observeIdentity uuid).2 = none) :
    (c.observeIdentity uuid).1.deviceUuid = some uuid := by
  unfold observeIdentity at h ⊢
  cases hknown : c.deviceUuid with
  | none => rfl
  | some expected =>
    rw [hknown] at h
    dsimp only at h ⊢
    split at h
    · cases h
    · rename_i heq
      rw [if_neg heq, hknown, not_not.mp heq]

/-- So does an archive frame. -/
lemma handleArchiveFrame_learns (c : AcquisitionController) (recorders : Recorders) (frame : Frame) :
    Learns c (c.handleArchiveFrame recorders frame).1 := by
  unfold handleArchiveFrame
  split
  · exact .same
  · dsimp only
    split
    · exact .same
    · exact .same
    · exact .same

/-- So does recording. -/
lemma recordFrame_learns (c : AcquisitionController) (recorders : Recorders) (frame : Frame) :
    Learns c (c.recordFrame recorders frame).1 := by
  unfold recordFrame
  split
  · split
    · exact .same
    · exact .same
    · exact .same
  · split
    · dsimp only
      split
      · exact .same
      · exact .same
    · exact .same

/-- So does a reply. -/
lemma handleCli_learns (c : AcquisitionController) (text : Text) :
    Learns c (c.handleCli text).1 := by
  unfold handleCli
  split
  · exact .same
  · exact .same
  · rename_i state _
    dsimp only
    split
    · exact .same
    · rename_i uuid _
      have hseen := observeIdentity_learns
        { c with controlState := state, store := c.store.updateControlState state } uuid
      split
      · rename_i heq
        rw [heq] at hseen
        exact hseen
      · rename_i heq
        rw [heq] at hseen
        exact hseen

/-- So does a frame that is stored. -/
lemma storeFrame_learns (c : AcquisitionController) (frame : Frame) :
    Learns c (c.storeFrame frame).1 := by
  unfold storeFrame
  split
  · split
    · exact .same
    · exact .same
  · split
    · exact .same
    · exact .same
  · split
    · exact .same
    · exact .same
  · split
    · exact c.handleCli_learns _
    · exact .same

/-- So does a frame on its way. -/
lemma routeFrame_learns (c : AcquisitionController) (recorders : Recorders) (frame : Frame) :
    Learns c (c.routeFrame recorders frame).1 := by
  unfold routeFrame
  split
  · exact c.handleArchiveFrame_learns recorders frame
  · have hrecord := c.recordFrame_learns recorders frame
    split
    · rename_i heq
      rw [heq] at hrecord
      exact hrecord
    · rename_i heq
      rw [heq] at hrecord
      exact hrecord.trans (storeFrame_learns _ frame)

/-- Handling a frame keeps the identity, or learns it. -/
lemma handleFrame_learns (c : AcquisitionController) (recorders : Recorders) (frame : Frame) :
    Learns c (c.handleFrame recorders frame).1 := by
  unfold handleFrame
  split
  · exact c.routeFrame_learns recorders frame
  · rename_i uuid _
    have hseen := c.observeIdentity_learns uuid
    split
    · rename_i heq
      rw [heq] at hseen
      exact hseen
    · rename_i heq
      rw [heq] at hseen
      exact hseen.trans (routeFrame_learns _ recorders frame)

/-- So does the next frame. -/
lemma handleNext_learns (c : AcquisitionController) (recorders : Recorders) :
    Learns c (c.handleNext recorders).1 := by
  cases hinbox : c.inbox with
  | nil =>
    rw [handleNext, hinbox]
    exact .same
  | cons frame frames =>
    have hlearns := handleFrame_learns { c with inbox := frames } recorders frame
    obtain ⟨c', heq, rfl | rfl⟩ := handleNext_cons recorders hinbox
    · rw [heq]
      exact hlearns
    · rw [heq]
      exact hlearns

/-- What a controller records with, and has recorded itself. -/
structure Filing where
  recorder : Option Nat
  archiveRecorder : Option Nat
  deferRecording : Bool
  handled : List Bytes
  deferred : List Bytes
  deferredBytes : Nat

/-- The part of the controller that records. -/
def filing (c : AcquisitionController) : Filing where
  recorder := c.recorder
  archiveRecorder := c.archiveRecorder
  deferRecording := c.deferRecording
  handled := c.archiveHandled
  deferred := c.deferredRecordingFrames
  deferredBytes := c.deferredRecordingBytes

/-- The bytes of a frame go to the archive recorder, to the recorder or to the backlog, or
nowhere. -/
inductive Routes (p : Filing) (recorders : Recorders) (frame : Frame) : Filing → Recorders → Prop
  | unarchived (archive : frame.archiveExport = true) (free : p.archiveRecorder = none) :
      Routes p recorders frame p recorders
  | archiveRaises (archive : frame.archiveExport = true) {id : Nat} {error : RecorderError}
      (attached : p.archiveRecorder = some id)
      (raises : (recorders id).submit frame.rawBytes = .error error) :
      Routes p recorders frame { p with handled := p.handled ++ [frame.rawBytes] } recorders
  | archived (archive : frame.archiveExport = true) {id : Nat} {r : RawSessionRecorder}
      {accepted : Bool} (attached : p.archiveRecorder = some id)
      (submitted : (recorders id).submit frame.rawBytes = .ok (r, accepted)) :
      Routes p recorders frame { p with handled := p.handled ++ [frame.rawBytes] }
        (Function.update recorders id r)
  | recordRaises (live : frame.archiveExport = false) {id : Nat} {error : RecorderError}
      (attached : p.recorder = some id)
      (raises : (recorders id).submit frame.rawBytes = .error error) :
      Routes p recorders frame p recorders
  | recorded (live : frame.archiveExport = false) {id : Nat} {r : RawSessionRecorder}
      {accepted : Bool} (attached : p.recorder = some id)
      (submitted : (recorders id).submit frame.rawBytes = .ok (r, accepted)) :
      Routes p recorders frame p (Function.update recorders id r)
  | deferred (live : frame.archiveExport = false) (free : p.recorder = none)
      (defers : p.deferRecording = true)
      (fits : p.deferredBytes + frame.rawBytes.length ≤ deferredRecordingCapacityBytes) :
      Routes p recorders frame
        { p with
          deferred := p.deferred ++ [frame.rawBytes]
          deferredBytes := p.deferredBytes + frame.rawBytes.length } recorders
  | overflow (live : frame.archiveExport = false) (free : p.recorder = none)
      (defers : p.deferRecording = true)
      (full : deferredRecordingCapacityBytes < p.deferredBytes + frame.rawBytes.length) :
      Routes p recorders frame p recorders
  | unrecorded (live : frame.archiveExport = false) (free : p.recorder = none)
      (idle : p.deferRecording = false) : Routes p recorders frame p recorders

/-- Observing an identity leaves the recordings alone. -/
lemma observeIdentity_filing (c : AcquisitionController) (uuid : Uuid) :
    (c.observeIdentity uuid).1.filing = c.filing := by
  unfold observeIdentity
  split
  · rfl
  · split
    · rfl
    · rfl

/-- Nor does a reply. -/
lemma handleCli_filing (c : AcquisitionController) (text : Text) :
    (c.handleCli text).1.filing = c.filing := by
  unfold handleCli
  split
  · rfl
  · rfl
  · rename_i state _
    dsimp only
    split
    · rfl
    · rename_i uuid _
      have hseen := observeIdentity_filing
        { c with controlState := state, store := c.store.updateControlState state } uuid
      split
      · rename_i heq
        rw [heq] at hseen
        exact hseen
      · rename_i heq
        rw [heq] at hseen
        exact hseen

/-- Storing a frame records nothing. -/
lemma storeFrame_filing (c : AcquisitionController) (frame : Frame) :
    (c.storeFrame frame).1.filing = c.filing := by
  unfold storeFrame
  split
  · split
    · rfl
    · rfl
  · split
    · rfl
    · rfl
  · split
    · rfl
    · rfl
  · split
    · exact c.handleCli_filing _
    · rfl

/-- An archive frame goes to the archive recorder. -/
lemma handleArchiveFrame_routes (archive : frame.archiveExport = true) :
    Routes c.filing recorders frame (c.handleArchiveFrame recorders frame).1.filing
      (c.handleArchiveFrame recorders frame).2.1 := by
  unfold handleArchiveFrame submitTo
  split
  · rename_i hfree
    exact .unarchived archive hfree
  · rename_i id hattached
    cases hsubmit : (recorders id).submit frame.rawBytes with
    | error error => exact .archiveRaises (p := c.filing) archive hattached hsubmit
    | ok result =>
      obtain ⟨r, accepted⟩ := result
      cases accepted with
      | true => exact .archived (p := c.filing) archive hattached hsubmit
      | false => exact .archived (p := c.filing) archive hattached hsubmit

/-- A live frame goes to the recorder or to the backlog. -/
lemma recordFrame_routes (live : frame.archiveExport = false) :
    Routes c.filing recorders frame (c.recordFrame recorders frame).1.filing
      (c.recordFrame recorders frame).2.1 := by
  unfold recordFrame submitTo
  split
  · rename_i id hattached
    cases hsubmit : (recorders id).submit frame.rawBytes with
    | error error => exact .recordRaises (p := c.filing) live hattached hsubmit
    | ok result =>
      obtain ⟨r, accepted⟩ := result
      cases accepted with
      | true => exact .recorded (p := c.filing) live hattached hsubmit
      | false => exact .recorded (p := c.filing) live hattached hsubmit
  · rename_i hfree
    split
    · rename_i hdefer
      dsimp only
      split
      · rename_i hfits
        exact .deferred (p := c.filing) live hfree hdefer hfits
      · rename_i hfull
        exact .overflow (p := c.filing) live hfree hdefer (not_le.mp hfull)
    · rename_i hidle
      exact .unrecorded (p := c.filing) live hfree (Bool.eq_false_iff.mpr hidle)

/-- So every frame has its place. -/
lemma routeFrame_routes (c : AcquisitionController) (recorders : Recorders) (frame : Frame) :
    Routes c.filing recorders frame (c.routeFrame recorders frame).1.filing
      (c.routeFrame recorders frame).2.1 := by
  unfold routeFrame
  cases harchive : frame.archiveExport with
  | true => exact handleArchiveFrame_routes harchive
  | false =>
    have hroutes : Routes c.filing recorders frame _ _ := recordFrame_routes harchive
    cases hrecord : c.recordFrame recorders frame with
    | mk d rest =>
      obtain ⟨R, error⟩ := rest
      rw [hrecord] at hroutes
      cases error with
      | some error => exact hroutes
      | none =>
        have hfiling := d.storeFrame_filing frame
        show Routes c.filing recorders frame (d.storeFrame frame).1.filing R
        rw [hfiling]
        exact hroutes

/-- The frame carries no identity, or one that the connection does not contradict. -/
def Accepts (known seen : Option Uuid) : Prop :=
  ∀ uuid, seen = some uuid → known = none ∨ known = some uuid

instance (known seen : Option Uuid) : Decidable (Accepts known seen) :=
  match seen with
  | none => isTrue fun _ h => by cases h
  | some uuid => decidable_of_iff (known = none ∨ known = some uuid)
    ⟨fun h _ heq => Option.some.inj heq ▸ h, fun h => h uuid rfl⟩

/-- What handling a frame does to the recordings. -/
inductive Files (c : AcquisitionController) (recorders : Recorders) (frame : Frame) :
    Filing → Recorders → Prop
  | refused (contradicts : ¬ Accepts c.deviceUuid frame.deviceUuid) :
      Files c recorders frame c.filing recorders
  | routed {p : Filing} {R : Recorders} (known : Accepts c.deviceUuid frame.deviceUuid)
      (routes : Routes c.filing recorders frame p R) : Files c recorders frame p R

/-- An identity that is refused changes nothing. -/
lemma observeIdentity_error {uuid : Uuid} {error : WorkerError}
    (h : (c.observeIdentity uuid).2 = some error) :
    (c.observeIdentity uuid).1 = c ∧ ¬ Accepts c.deviceUuid (some uuid) := by
  unfold observeIdentity at h ⊢
  cases hknown : c.deviceUuid with
  | none =>
    rw [hknown] at h
    cases h
  | some expected =>
    rw [hknown] at h
    dsimp only at h ⊢
    split at h
    · rename_i hne
      rw [if_pos hne]
      refine ⟨rfl, ?_⟩
      intro haccepts
      cases haccepts uuid rfl with
      | inl hnone => cases hnone
      | inr heq => exact hne (Option.some.inj heq)
    · cases h

/-- An identity that is observed without an error is accepted. -/
lemma observeIdentity_accepts {uuid : Uuid} (h : (c.observeIdentity uuid).2 = none) :
    Accepts c.deviceUuid (some uuid) := by
  have hknown := observeIdentity_known h
  have hlearns := observeIdentity_learns c uuid
  intro seen hseen
  cases hseen
  cases hc : c.deviceUuid with
  | none => exact .inl rfl
  | some expected =>
    rw [Learns, hc] at hlearns
    exact .inr (hlearns.known.1.symm.trans hknown)

/-- Where the bytes of a frame go. -/
lemma handleFrame_files (c : AcquisitionController) (recorders : Recorders) (frame : Frame) :
    Files c recorders frame (c.handleFrame recorders frame).1.filing
      (c.handleFrame recorders frame).2.1 := by
  unfold handleFrame
  cases hseen : frame.deviceUuid with
  | none =>
    refine .routed ?_ (c.routeFrame_routes recorders frame)
    rw [hseen]
    intro uuid huuid
    cases huuid
  | some uuid =>
    dsimp only
    have hfiling := c.observeIdentity_filing uuid
    cases hobserve : c.observeIdentity uuid with
    | mk d error =>
      rw [hobserve] at hfiling
      cases error with
      | some error =>
        have hrefused : _ ∧ ¬ Accepts c.deviceUuid (some uuid) :=
          observeIdentity_error (congrArg Prod.snd hobserve)
        dsimp only
        rw [hfiling]
        exact .refused (hseen ▸ hrefused.2)
      | none =>
        have haccepts := observeIdentity_accepts (congrArg Prod.snd hobserve)
        have hroutes := d.routeFrame_routes recorders frame
        rw [hfiling] at hroutes
        exact .routed (hseen ▸ haccepts) hroutes

/-- A frame of another device ends the worker, and changes nothing. -/
lemma handleFrame_refused (h : ¬ Accepts c.deviceUuid frame.deviceUuid) :
    ∃ expected uuid, c.deviceUuid = some expected ∧ frame.deviceUuid = some uuid ∧ expected ≠ uuid ∧
      c.handleFrame recorders frame = (c, recorders, some (.deviceIdentity expected uuid)) := by
  cases hseen : frame.deviceUuid with
  | none =>
    refine absurd ?_ h
    rw [hseen]
    intro uuid huuid
    cases huuid
  | some uuid =>
    cases hknown : c.deviceUuid with
    | none => exact absurd (fun _ _ => .inl hknown) h
    | some expected =>
      have hne : expected ≠ uuid := by
        rintro rfl
        refine h ?_
        rw [hseen, hknown]
        exact fun _ hsame => .inr hsame
      refine ⟨expected, uuid, rfl, rfl, hne, ?_⟩
      unfold handleFrame observeIdentity
      rw [hseen, hknown]
      dsimp only
      rw [if_pos hne]

/-- Behind a frame that is accepted, its identity is that of the connection. -/
lemma handleFrame_known {uuid : Uuid} (known : Accepts c.deviceUuid frame.deviceUuid)
    (h : frame.deviceUuid = some uuid) :
    (c.handleFrame recorders frame).1.deviceUuid = some uuid := by
  unfold handleFrame
  rw [h]
  dsimp only
  cases hobserve : c.observeIdentity uuid with
  | mk d error =>
    cases error with
    | some error =>
      exact absurd (h ▸ known) (observeIdentity_error (congrArg Prod.snd hobserve)).2
    | none =>
      have hknown := observeIdentity_known (congrArg Prod.snd hobserve)
      rw [hobserve] at hknown
      have hlearns := d.routeFrame_learns recorders frame
      rw [Learns, hknown] at hlearns
      exact hlearns.known.1

/-- Handling a frame is what it does to the recordings. -/
lemma handleNext_files {frames : List Frame} (h : c.inbox = frame :: frames) :
    Files c recorders frame (c.handleNext recorders).1.filing (c.handleNext recorders).2.1 := by
  have hfiles := handleFrame_files { c with inbox := frames } recorders frame
  have hcast : ∀ {p : Filing} {R : Recorders},
      Files { c with inbox := frames } recorders frame p R → Files c recorders frame p R := by
    intro p R hp
    cases hp with
    | refused contradicts => exact .refused contradicts
    | routed known routes => exact .routed known routes
  obtain ⟨c', heq, rfl | rfl⟩ := handleNext_cons recorders h
  · rw [heq]
    exact hcast hfiles
  · rw [heq]
    exact hcast hfiles

/-- The recorders that the controller does not record with are left alone. -/
lemma Routes.other {p p' : Filing} {R : Recorders} (h : Routes p recorders frame p' R) {id : Nat}
    (live : p.recorder ≠ some id) (archive : p.archiveRecorder ≠ some id) :
    R id = recorders id := by
  cases h with
  | archived _ attached _ =>
    refine Function.update_of_ne ?_ _ _
    rintro rfl
    exact archive attached
  | recorded _ attached _ =>
    refine Function.update_of_ne ?_ _ _
    rintro rfl
    exact live attached
  | _ => rfl

/-- What submitting keeps of a recorder, handling a frame keeps. -/
lemma Routes.kept {β : Type} {get : RawSessionRecorder → β}
    (hget : ∀ {r r' chunk accepted}, r.submit chunk = .ok (r', accepted) → get r' = get r)
    {p p' : Filing} {R : Recorders} (h : Routes p recorders frame p' R) (id : Nat) :
    get (R id) = get (recorders id) := by
  have hupdate : ∀ {k : Nat} {r : RawSessionRecorder} {accepted : Bool},
      (recorders k).submit frame.rawBytes = .ok (r, accepted) →
        get (Function.update recorders k r id) = get (recorders id) := by
    intro k r accepted hsubmit
    by_cases hk : id = k
    · subst hk
      rw [Function.update_self]
      exact hget hsubmit
    · rw [Function.update_of_ne hk]
  cases h with
  | archived _ _ submitted => exact hupdate submitted
  | recorded _ _ submitted => exact hupdate submitted
  | _ => rfl

/-- A recorder that the controller does not have gets nothing. -/
lemma Files.other {p : Filing} {R : Recorders} (h : Files c recorders frame p R) {id : Nat}
    (live : c.recorder ≠ some id) (archive : c.archiveRecorder ≠ some id) :
    R id = recorders id := by
  cases h with
  | refused _ => rfl
  | routed _ routes => exact routes.other live archive

/-- What submitting a chunk keeps is kept. -/
lemma Files.kept {β : Type} {get : RawSessionRecorder → β}
    (hget : ∀ {r r' chunk accepted}, r.submit chunk = .ok (r', accepted) → get r' = get r)
    {p : Filing} {R : Recorders} (h : Files c recorders frame p R) (id : Nat) :
    get (R id) = get (recorders id) := by
  cases h with
  | refused _ => rfl
  | routed _ routes => exact routes.kept hget id

/-- So it is when the next frame is handled. -/
lemma handleNext_kept {β : Type} {get : RawSessionRecorder → β}
    (hget : ∀ {r r' chunk accepted}, r.submit chunk = .ok (r', accepted) → get r' = get r)
    (c : AcquisitionController) (recorders : Recorders) (id : Nat) :
    get ((c.handleNext recorders).2.1 id) = get (recorders id) := by
  cases hinbox : c.inbox with
  | nil =>
    unfold handleNext
    rw [hinbox]
  | cons frame frames => exact (handleNext_files hinbox).kept hget id

/-- Handling the next frame stops no recorder. -/
lemma handleNext_isActive (c : AcquisitionController) (recorders : Recorders) (id : Nat) :
    ((c.handleNext recorders).2.1 id).isActive = (recorders id).isActive :=
  handleNext_kept RawSessionRecorder.submit_isActive c recorders id

/-- Handling the next frame moves no file. -/
lemma handleNext_file (c : AcquisitionController) (recorders : Recorders) (id : Nat) :
    ((c.handleNext recorders).2.1 id).file = (recorders id).file :=
  handleNext_kept RawSessionRecorder.submit_file c recorders id

/-- Handling the next frame writes to the recorders of the controller only. -/
lemma handleNext_other (c : AcquisitionController) (recorders : Recorders) {id : Nat}
    (live : c.recorder ≠ some id) (archive : c.archiveRecorder ≠ some id) :
    (c.handleNext recorders).2.1 id = recorders id := by
  cases hinbox : c.inbox with
  | nil =>
    unfold handleNext
    rw [hinbox]
  | cons frame frames => exact (handleNext_files hinbox).other live archive

/-- The control state and what the store shows of it stay, or are brought up to date by a reply. -/
inductive Reads (frame : Frame) (known : Option Uuid) (state : FirmwareControlState)
    (shown : Option FirmwareControlState) :
    FirmwareControlState → Option FirmwareControlState → Prop
  | same : Reads frame known state shown state shown
  | reply {text : Text} {new : FirmwareControlState} (accepted : Accepts known frame.deviceUuid)
      (live : frame.archiveExport = false) (cli : frame.messageType = .cliResponse)
      (isText : frame.cliText = some text) (updated : state.updatedFromCli text = .ok new) :
      Reads frame known state shown new (some new)

/-- The control state, as the controller and as its store have it. -/
def shown (c : AcquisitionController) : FirmwareControlState × Option FirmwareControlState :=
  (c.controlState, c.store.firmwareControlState)

/-- Observing an identity changes no control state. -/
lemma observeIdentity_shown (c : AcquisitionController) (uuid : Uuid) :
    (c.observeIdentity uuid).1.shown = c.shown := by
  unfold observeIdentity
  split
  · rfl
  · split
    · rfl
    · rfl

/-- Nor does recording. -/
lemma recordFrame_shown (c : AcquisitionController) (recorders : Recorders) (frame : Frame) :
    (c.recordFrame recorders frame).1.shown = c.shown := by
  unfold recordFrame
  split
  · split
    · rfl
    · rfl
    · rfl
  · split
    · dsimp only
      split
      · rfl
      · rfl
    · rfl

/-- Nor does an archive frame. -/
lemma handleArchiveFrame_shown (c : AcquisitionController) (recorders : Recorders) (frame : Frame) :
    (c.handleArchiveFrame recorders frame).1.shown = c.shown := by
  unfold handleArchiveFrame
  split
  · rfl
  · dsimp only
    split
    · rfl
    · rfl
    · rfl

/-- A reply that is taken in is shown. -/
lemma handleCli_ok {text : Text} {new : FirmwareControlState}
    (updated : c.controlState.updatedFromCli text = .ok new) :
    (c.handleCli text).1.shown = (new, some new) := by
  unfold handleCli
  rw [updated]
  dsimp only
  split
  · rfl
  · rename_i uuid _
    have hseen := observeIdentity_shown
      { c with controlState := new, store := c.store.updateControlState new } uuid
    split
    · rename_i heq
      rw [heq] at hseen
      exact hseen
    · rename_i heq
      rw [heq] at hseen
      exact hseen

/-- A reply changes nothing, or is taken in and shown. -/
lemma handleCli_shown (c : AcquisitionController) (text : Text) :
    (c.handleCli text).1.shown = c.shown ∨
      ∃ new, c.controlState.updatedFromCli text = .ok new ∧
        (c.handleCli text).1.shown = (new, some new) := by
  cases hupdate : c.controlState.updatedFromCli text with
  | ok state => exact .inr ⟨state, rfl, handleCli_ok hupdate⟩
  | error error =>
    left
    unfold handleCli
    rw [hupdate]
    cases error with
    | value => rfl
    | parse message => rfl

/-- So it is with a frame that is stored; only a reply is taken in. -/
lemma storeFrame_shown (c : AcquisitionController) (frame : Frame) :
    (c.storeFrame frame).1.shown = c.shown ∨
      ∃ text new, frame.messageType = .cliResponse ∧ frame.cliText = some text ∧
        c.controlState.updatedFromCli text = .ok new ∧
        (c.storeFrame frame).1.shown = (new, some new) := by
  unfold storeFrame
  cases htype : frame.messageType with
  | iis3dwbFifo =>
    left
    dsimp only
    split
    · unfold RealtimeSampleStore.appendIisArrays
      dsimp only [shown]
      split
      · rfl
      · rfl
    · rfl
  | jy61plSample =>
    left
    dsimp only
    split
    · rfl
    · rfl
  | status =>
    left
    dsimp only
    split
    · rfl
    · rfl
  | cliResponse =>
    cases htext : frame.cliText with
    | none => exact .inl rfl
    | some text =>
      cases c.handleCli_shown text with
      | inl hsame => exact .inl hsame
      | inr hnew =>
        obtain ⟨new, hupdated, hshown⟩ := hnew
        exact .inr ⟨text, new, rfl, rfl, hupdated, hshown⟩

/-- Handling a frame reads a reply, or leaves the control state alone. -/
lemma handleFrame_reads (c : AcquisitionController) (recorders : Recorders) (frame : Frame) :
    Reads frame c.deviceUuid c.controlState c.store.firmwareControlState
      (c.handleFrame recorders frame).1.controlState
      (c.handleFrame recorders frame).1.store.firmwareControlState := by
  have hsame : ∀ {d : AcquisitionController}, d.shown = c.shown →
      Reads frame c.deviceUuid c.controlState c.store.firmwareControlState d.controlState
        d.store.firmwareControlState := by
    intro d hd
    have h1 : d.controlState = c.controlState := congrArg Prod.fst hd
    have h2 : d.store.firmwareControlState = c.store.firmwareControlState := congrArg Prod.snd hd
    rw [h1, h2]
    exact .same
  -- behind the check of the UUID, whatever the frame is
  have hroute : ∀ {d : AcquisitionController}, Accepts c.deviceUuid frame.deviceUuid →
      d.shown = c.shown →
      Reads frame c.deviceUuid c.controlState c.store.firmwareControlState
        (d.routeFrame recorders frame).1.controlState
        (d.routeFrame recorders frame).1.store.firmwareControlState := by
    intro d haccepts hd
    unfold routeFrame
    cases harchive : frame.archiveExport with
    | true => exact hsame ((d.handleArchiveFrame_shown recorders frame).trans hd)
    | false =>
      have hrecorded := (d.recordFrame_shown recorders frame).trans hd
      cases hrecord : d.recordFrame recorders frame with
      | mk e rest =>
        obtain ⟨R, error⟩ := rest
        rw [hrecord] at hrecorded
        cases error with
        -- a recorder that refuses the frame ends the connection before the frame is stored
        | some error => exact hsame hrecorded
        | none =>
          cases e.storeFrame_shown frame with
          | inl hstored => exact hsame (hstored.trans hrecorded)
          | inr hreply =>
            obtain ⟨text, new, hcli, htext, hupdated, hshown⟩ := hreply
            have hstate : e.controlState = c.controlState := congrArg Prod.fst hrecorded
            have h1 : (e.storeFrame frame).1.controlState = new := congrArg Prod.fst hshown
            have h2 : (e.storeFrame frame).1.store.firmwareControlState = some new :=
              congrArg Prod.snd hshown
            show Reads frame _ _ _ (e.storeFrame frame).1.controlState
              (e.storeFrame frame).1.store.firmwareControlState
            rw [h1, h2]
            exact .reply haccepts harchive hcli htext (hstate ▸ hupdated)
  unfold handleFrame
  cases hseen : frame.deviceUuid with
  | none =>
    refine hroute ?_ rfl
    rw [hseen]
    intro uuid huuid
    cases huuid
  | some uuid =>
    dsimp only
    have hshown := c.observeIdentity_shown uuid
    cases hobserve : c.observeIdentity uuid with
    | mk d error =>
      rw [hobserve] at hshown
      cases error with
      | some error => exact hsame hshown
      | none =>
        refine hroute ?_ hshown
        rw [hseen]
        exact observeIdentity_accepts (congrArg Prod.snd hobserve)

/-- So it is with the next frame. -/
lemma handleNext_reads {frames : List Frame} (h : c.inbox = frame :: frames) :
    Reads frame c.deviceUuid c.controlState c.store.firmwareControlState
      (c.handleNext recorders).1.controlState
      (c.handleNext recorders).1.store.firmwareControlState := by
  have hreads := handleFrame_reads { c with inbox := frames } recorders frame
  obtain ⟨c', heq, rfl | rfl⟩ := handleNext_cons recorders h
  · rw [heq]
    exact hreads
  · rw [heq]
    exact hreads

/-- An active recorder takes a live frame, or refuses it, but does not raise. -/
lemma recordFrame_active (active : ∀ id, c.recorder = some id → (recorders id).isActive = true) :
    (c.recordFrame recorders frame).2.2 = none := by
  unfold recordFrame
  cases hrecorder : c.recorder with
  | none =>
    dsimp only
    split
    · split
      · rfl
      · rfl
    · rfl
  | some id =>
    obtain ⟨r, accepted, hsubmit, -⟩ :=
      RawSessionRecorder.submit_of_active (active id hrecorder) frame.rawBytes
    unfold submitTo
    dsimp only
    rw [hsubmit]
    cases accepted with
    | true => rfl
    | false => rfl

/-- A reply that is handled brings the control state up to date. -/
lemma handleFrame_reply {text : Text} {new : FirmwareControlState}
    (known : Accepts c.deviceUuid frame.deviceUuid) (live : frame.archiveExport = false)
    (cli : frame.messageType = .cliResponse) (isText : frame.cliText = some text)
    (updated : c.controlState.updatedFromCli text = .ok new)
    (active : ∀ id, c.recorder = some id → (recorders id).isActive = true) :
    (c.handleFrame recorders frame).1.shown = (new, some new) := by
  have hroute : ∀ {d : AcquisitionController}, d.shown = c.shown → d.recorder = c.recorder →
      (d.routeFrame recorders frame).1.shown = (new, some new) := by
    intro d hd hrecorder
    have hrecorded := (d.recordFrame_shown recorders frame).trans hd
    -- the recorder may refuse the chunk, but does not raise
    have hfine : (d.recordFrame recorders frame).2.2 = none :=
      recordFrame_active fun id hid => active id (hrecorder ▸ hid)
    unfold routeFrame
    rw [live]
    cases hrecord : d.recordFrame recorders frame with
    | mk e rest =>
      obtain ⟨R, error⟩ := rest
      rw [hrecord] at hrecorded hfine
      cases hfine
      have hstate : e.controlState = c.controlState := congrArg Prod.fst hrecorded
      dsimp only
      unfold storeFrame
      rw [cli, isText]
      exact handleCli_ok (hstate ▸ updated)
  unfold handleFrame
  cases hseen : frame.deviceUuid with
  | none => exact hroute rfl rfl
  | some uuid =>
    dsimp only
    have hshown := c.observeIdentity_shown uuid
    have hshell := c.observeIdentity_shell uuid
    cases hobserve : c.observeIdentity uuid with
    | mk d error =>
      rw [hobserve] at hshown hshell
      cases error with
      | some error =>
        exact absurd (hseen ▸ known) (observeIdentity_error (congrArg Prod.snd hobserve)).2
      | none => exact hroute hshown (shell_field AcquisitionController.recorder (fun _ => rfl) hshell)

/-- The next frame is taken in, if it is a reply that can be. -/
lemma handleNext_reply {frames : List Frame} {text : Text} {new : FirmwareControlState}
    (h : c.inbox = frame :: frames) (known : Accepts c.deviceUuid frame.deviceUuid)
    (live : frame.archiveExport = false) (cli : frame.messageType = .cliResponse)
    (isText : frame.cliText = some text) (updated : c.controlState.updatedFromCli text = .ok new)
    (active : ∀ id, c.recorder = some id → (recorders id).isActive = true) :
    (c.handleNext recorders).1.shown = (new, some new) := by
  have hshown : ({ c with inbox := frames }.handleFrame recorders frame).1.shown = (new, some new) :=
    handleFrame_reply known live cli isText updated active
  obtain ⟨c', heq, rfl | rfl⟩ := handleNext_cons recorders h
  · rw [heq]
    exact hshown
  · rw [heq]
    exact hshown

/-- What submitting keeps of a recorder, handing over the backlog keeps. -/
lemma submitBacklog_kept {β : Type} {get : RawSessionRecorder → β}
    (hget : ∀ {r r' chunk accepted}, r.submit chunk = .ok (r', accepted) → get r' = get r)
    (r : RawSessionRecorder) (chunks : List Bytes) :
    get (submitBacklog r chunks).1 = get r := by
  induction chunks generalizing r with
  | nil => rfl
  | cons chunk chunks ih =>
    rw [submitBacklog]
    cases hsubmit : r.submit chunk with
    | error error => rfl
    | ok result =>
      obtain ⟨r', accepted⟩ := result
      cases accepted with
      | true => exact (ih r').trans (hget hsubmit)
      | false => exact hget hsubmit

/-- Handing over the backlog neither starts nor stops the recorder. -/
lemma submitBacklog_isActive (r : RawSessionRecorder) (chunks : List Bytes) :
    (submitBacklog r chunks).1.isActive = r.isActive :=
  submitBacklog_kept RawSessionRecorder.submit_isActive r chunks

/-- A recorder that is set is given the backlog, and the controller keeps none of it. -/
lemma setRecorder_some (c : AcquisitionController) (recorders : Recorders) (id : Nat) :
    ∃ lastError, c.setRecorder recorders (some id) =
      ({ c.dropDeferred with recorder := some id, lastError := lastError },
        Function.update recorders id
          (submitBacklog (recorders id) c.deferredRecordingFrames).1) := by
  unfold setRecorder
  dsimp only
  split
  · exact ⟨c.lastError, rfl⟩
  · exact ⟨_, rfl⟩

/-- A field that handling a frame does not write. -/
lemma handleNext_field {β : Type} (get : AcquisitionController → β)
    (hget : ∀ c frames, get { c with inbox := frames }.shell = get c) (c : AcquisitionController)
    (recorders : Recorders) : get (c.handleNext recorders).1 = get c := by
  cases hinbox : c.inbox with
  | nil =>
    unfold handleNext
    rw [hinbox]
  | cons frame frames =>
    have hshell := handleNext_shell recorders hinbox
    calc get (c.handleNext recorders).1
        = get (c.handleNext recorders).1.shell := (hget _ (c.handleNext recorders).1.inbox).symm
      _ = get { c with inbox := frames }.shell := congrArg get hshell
      _ = get c := hget c frames

/-- The controller without the fields that a read may write. -/
def unread (c : AcquisitionController) : AcquisitionController :=
  { c with
    store := c.store.updateParserStats {}
    parser := {}
    bytesReceived := 0
    framesReceived := 0
    otaResetPending := false
    otaDemux := {}
    otaReplies := []
    inbox := [] }

/-- Parsing a chunk does not touch the other fields. -/
lemma parseChunk_unread (crc32 : Bytes → UInt32) (c : AcquisitionController) (chunk : Bytes) :
    (c.parseChunk crc32 chunk).1.unread = c.unread := by
  unfold parseChunk
  split
  · dsimp only
    split
    · split
      · rfl
      · rfl
    · split
      · rfl
      · rfl
  · split
    · rfl
    · rfl

/-- A read writes to the fields of `unread` only. -/
lemma readChunk_unread (crc32 : Bytes → UInt32) (c : AcquisitionController) (chunk : Bytes) :
    (c.readChunk crc32 chunk).unread = c.unread := by
  unfold readChunk
  split
  · rfl
  · have hparse := parseChunk_unread crc32
      { c with bytesReceived := c.bytesReceived + chunk.length } chunk
    dsimp only
    split
    · exact hparse
    · exact hparse

/-- A field that a read does not write. -/
lemma readChunk_field {β : Type} (get : AcquisitionController → β)
    (hget : ∀ c, get c.unread = get c) (crc32 : Bytes → UInt32) (c : AcquisitionController)
    (chunk : Bytes) : get (c.readChunk crc32 chunk) = get c := by
  rw [← hget, readChunk_unread, hget]

end AcquisitionController

end SensorHost.Acquisition
