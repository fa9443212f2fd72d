import SensorHost.Acquisition.Handling
import SensorHost.Protocol.Devices

/-!
# The devices of recordings

A recorder that was started for a device holds frames of no other (`RawSessionRecorder.Holds`). A
connection hands on only frames of its own device: what waits to be recorded are frames of that device,
and its recorders were started for it (`AcquisitionController.OneDevice`).

A chunk that is recorded is the bytes of one frame from the device (`FrameFrom`), so what a recorder
has written is a beginning of such frames, one after the other (`Holds.begins`); a failing disk may
cut the last one. The invariant of a connection is kept by handling a frame
(`OneDevice.handleNext`), through the description of what this does to the recordings, and by
reading a chunk (`OneDevice.readChunk`), since every frame that is parsed has the UUID in its bytes.
-/

namespace SensorHost.Storage
open SensorHost.Lib SensorHost.Protocol

variable {crc32 : Bytes → UInt32} {known : Option Uuid} {uuid : Uuid}

/-- The bytes are a frame, of no other device than the one that is known. -/
def FrameFrom (crc32 : Bytes → UInt32) (known : Option Uuid) (chunk : Bytes) : Prop :=
  ∃ f : ValidFrame crc32, f.bytes = chunk ∧ f.From known

/-- A device that becomes known is that of the frames so far. -/
lemma FrameFrom.learn {known' : Option Uuid} {chunk : Bytes} (h : FrameFrom crc32 known chunk)
    (hknown : known = none ∨ known' = known) : FrameFrom crc32 known' chunk := by
  obtain ⟨f, hbytes, hfrom⟩ := h
  refine ⟨f, hbytes, ?_⟩
  intro uuid huuid
  cases hknown with
  | inl hnone =>
    have hsome := hfrom uuid huuid
    rw [hnone] at hsome
    cases hsome
  | inr hsame => exact hsame.trans (hfrom uuid huuid)

namespace RawSessionRecorder

variable {r r' : RawSessionRecorder}

/-- The queue and the file have frames of the device; a write that failed may have cut the last. -/
structure Holds (crc32 : Bytes → UInt32) (uuid : Uuid) (r : RawSessionRecorder) : Prop where
  queued : ∀ chunk, some chunk ∈ r.queue → FrameFrom crc32 (some uuid) chunk
  written : ∃ frames : List (ValidFrame crc32), (∀ f ∈ frames, f.From (some uuid)) ∧
    (r.stream = bytesOf frames ∨ r.writerAlive = false ∧ r.stream <+: bytesOf frames)

/-- The file is the beginning of a sequence of frames of the device. -/
lemma Holds.begins (h : r.Holds crc32 uuid) :
    ∃ frames : List (ValidFrame crc32), (∀ f ∈ frames, f.From (some uuid)) ∧
      r.stream <+: bytesOf frames := by
  obtain ⟨frames, hfrom, heq | hcut⟩ := h.written
  · exact ⟨frames, hfrom, heq ▸ List.prefix_rfl⟩
  · exact ⟨frames, hfrom, hcut.2⟩

/-- A chunk of the device may be submitted. -/
lemma Holds.submit {chunk : Bytes} {accepted : Bool} (h : r.Holds crc32 uuid)
    (hchunk : FrameFrom crc32 (some uuid) chunk) (hsubmit : r.submit chunk = .ok (r', accepted)) :
    r'.Holds crc32 uuid := by
  obtain ⟨rfl, -⟩ | rfl | ⟨-, rfl⟩ := submit_cases hsubmit
  · exact h
  · exact ⟨h.queued, h.written⟩
  · refine ⟨?_, h.written⟩
    intro chunk' hmem
    cases List.mem_append.mp hmem with
    | inl hold => exact h.queued chunk' hold
    | inr hnew =>
      cases List.mem_singleton.mp hnew
      exact hchunk

/-- The writer keeps to what was submitted. -/
lemma Holds.writerStep (h : r.Holds crc32 uuid) (outcome : WriterOutcome) :
    (r.writerStep outcome).Holds crc32 uuid := by
  unfold RawSessionRecorder.writerStep
  split
  · exact h
  · rename_i halive
    cases hqueue : r.queue with
    | nil => exact h
    | cons item queue =>
      obtain ⟨frames, hfrom, hstream⟩ := h.written
      have hwhole : r.stream = bytesOf frames := by
        cases hstream with
        | inl heq => exact heq
        | inr hcut =>
          rw [hcut.1] at halive
          exact absurd rfl halive
      have hrest : ∀ chunk, some chunk ∈ queue → FrameFrom crc32 (some uuid) chunk :=
        fun chunk hmem => h.queued chunk (hqueue ▸ List.mem_cons_of_mem item hmem)
      -- with the item, the file is still a sequence of frames
      have hitem : ∃ frames' : List (ValidFrame crc32), (∀ f ∈ frames', f.From (some uuid)) ∧
          r.stream ++ item.getD [] = bytesOf frames' := by
        cases item with
        | none => exact ⟨frames, hfrom, (List.append_nil _).trans hwhole⟩
        | some chunk =>
          obtain ⟨f, hbytes, hf⟩ := h.queued chunk (hqueue ▸ List.mem_cons_self)
          refine ⟨frames ++ [f], ?_, ?_⟩
          · intro f' hf'
            cases List.mem_append.mp hf' with
            | inl hold => exact hfrom f' hold
            | inr hnew => exact List.mem_singleton.mp hnew ▸ hf
          · rw [hwhole, Option.getD_some, ← hbytes]
            unfold bytesOf
            rw [List.map_append, List.flatten_append]
            exact congrArg (_ ++ ·) (List.append_nil _).symm
      obtain ⟨frames', hfrom', hbytes'⟩ := hitem
      cases outcome with
      | osError message kept =>
        refine ⟨hrest, frames', hfrom', .inr ⟨rfl, ?_⟩⟩
        rw [← hbytes']
        exact List.take_prefix kept _
      | ok =>
        cases item with
        | none => exact ⟨hrest, frames, hfrom, .inl hwhole⟩
        | some chunk => exact ⟨hrest, frames', hfrom', .inl hbytes'⟩

/-- So do its passes. -/
lemma Holds.writerSteps (h : r.Holds crc32 uuid) (outcomes : List WriterOutcome) :
    (r.writerSteps outcomes).Holds crc32 uuid := by
  induction outcomes generalizing r with
  | nil => exact h
  | cons outcome outcomes ih => exact ih (h.writerStep outcome)

/-- So does the end of its work. -/
lemma Holds.drain (h : r.Holds crc32 uuid) (outcomes : List WriterOutcome) :
    (r.drain outcomes).1.Holds crc32 uuid := by
  unfold RawSessionRecorder.drain
  split
  · exact h
  · have hend : { r with queue := r.queue ++ [none] }.Holds crc32 uuid := by
      refine ⟨?_, h.written⟩
      intro chunk hmem
      cases List.mem_append.mp hmem with
      | inl hold => exact h.queued chunk hold
      | inr hnew => cases List.mem_singleton.mp hnew
    have hsteps := hend.writerSteps outcomes
    dsimp only
    split
    · exact hsteps
    · exact ⟨hsteps.queued, hsteps.written⟩

end RawSessionRecorder

end SensorHost.Storage

namespace SensorHost.Acquisition
open SensorHost.Lib SensorHost.Protocol SensorHost.Storage

variable {crc32 : Bytes → UInt32} {R R' : Recorders}

/-- Every recorder holds frames of no other device than its own. -/
def RecordersHold (crc32 : Bytes → UInt32) (R : Recorders) : Prop :=
  ∀ id uuid, (R id).deviceUuid = some uuid → (R id).Holds crc32 uuid

/-- A recorder is replaced. -/
lemma RecordersHold.update (h : RecordersHold crc32 R) {id : Nat} {r : RawSessionRecorder}
    (hr : ∀ uuid, r.deviceUuid = some uuid → r.Holds crc32 uuid) :
    RecordersHold crc32 (Function.update R id r) := by
  intro k uuid
  by_cases hk : k = id
  · rw [hk, Function.update_self]
    exact hr uuid
  · rw [Function.update_of_ne hk]
    exact h k uuid

namespace AcquisitionController

variable {c d : AcquisitionController}

/-- Handing over a backlog of frames of the device. -/
lemma holds_submitBacklog {r : RawSessionRecorder} {uuid : Uuid} (h : r.Holds crc32 uuid)
    {chunks : List Bytes} (hchunks : ∀ chunk ∈ chunks, FrameFrom crc32 (some uuid) chunk) :
    (submitBacklog r chunks).1.Holds crc32 uuid := by
  induction chunks generalizing r with
  | nil => exact h
  | cons chunk chunks ih =>
    have hrest := fun b hb => hchunks b (List.mem_cons_of_mem chunk hb)
    rw [submitBacklog]
    cases hsubmit : r.submit chunk with
    | error error => exact h
    | ok result =>
      obtain ⟨r', accepted⟩ := result
      have hr' := h.submit (hchunks chunk List.mem_cons_self) hsubmit
      cases accepted with
      | true => exact ih hr' hrest
      | false => exact hr'

/-- The connection has frames of one device, and records for that device. -/
structure OneDevice (crc32 : Bytes → UInt32) (R : Recorders) (c : AcquisitionController) : Prop where
  inbox : ∀ frame ∈ c.inbox, ∃ f : ValidFrame crc32, frame.Reads f
  deferred : ∀ chunk ∈ c.deferredRecordingFrames, FrameFrom crc32 c.deviceUuid chunk
  recorders : ∀ id, c.recorder = some id ∨ c.archiveRecorder = some id →
    ∀ uuid, (R id).deviceUuid = some uuid → c.deviceUuid = some uuid

/-- A connection that has no frame and no recorder. -/
lemma oneDevice_fresh (hinbox : c.inbox = []) (hdeferred : c.deferredRecordingFrames = [])
    (hrecorder : c.recorder = none) (harchive : c.archiveRecorder = none) :
    c.OneDevice crc32 R := by
  refine ⟨?_, ?_, ?_⟩
  · rw [hinbox]
    exact fun frame hmem => (List.not_mem_nil hmem).elim
  · rw [hdeferred]
    exact fun chunk hmem => (List.not_mem_nil hmem).elim
  · rw [hrecorder, harchive]
    rintro id (hid | hid)
    · cases hid
    · cases hid

/-- Where the frame of an accepted device goes. -/
lemma Routes.oneDevice {p p' : Filing} {frame : Frame} {known : Option Uuid}
    (h : Routes p R frame p' R') (hold : RecordersHold crc32 R)
    (hframe : FrameFrom crc32 known frame.rawBytes)
    (hdeferred : ∀ chunk ∈ p.deferred, FrameFrom crc32 known chunk)
    (hrecorders : ∀ id, p.recorder = some id ∨ p.archiveRecorder = some id →
      ∀ uuid, (R id).deviceUuid = some uuid → known = some uuid) :
    RecordersHold crc32 R' ∧ ∀ chunk ∈ p'.deferred, FrameFrom crc32 known chunk := by
  have hsubmitted : ∀ {id : Nat} {r : RawSessionRecorder} {accepted : Bool},
      (p.recorder = some id ∨ p.archiveRecorder = some id) →
      (R id).submit frame.rawBytes = .ok (r, accepted) →
        RecordersHold crc32 (Function.update R id r) := by
    intro id r accepted hid hsubmit
    refine hold.update ?_
    intro uuid huuid
    have hbefore : (R id).deviceUuid = some uuid :=
      (congrArg Prod.snd (RawSessionRecorder.submit_file hsubmit)).symm.trans huuid
    exact (hold id uuid hbefore).submit (hrecorders id hid uuid hbefore ▸ hframe) hsubmit
  cases h with
  | archived _ attached submitted => exact ⟨hsubmitted (.inr attached) submitted, hdeferred⟩
  | recorded _ attached submitted => exact ⟨hsubmitted (.inl attached) submitted, hdeferred⟩
  | deferred _ _ _ _ =>
    refine ⟨hold, ?_⟩
    intro chunk hmem
    cases List.mem_append.mp hmem with
    | inl h => exact hdeferred chunk h
    | inr h => exact List.mem_singleton.mp h ▸ hframe
  | _ => exact ⟨hold, hdeferred⟩

/-- Behind a frame that is accepted, its identity is that of the connection. -/
lemma handleNext_known {frame : Frame} {frames : List Frame} {uuid : Uuid}
    (hinbox : c.inbox = frame :: frames) (known : Accepts c.deviceUuid frame.deviceUuid)
    (h : frame.deviceUuid = some uuid) : (c.handleNext R).1.deviceUuid = some uuid := by
  have hknown : ({ c with inbox := frames }.handleFrame R frame).1.deviceUuid = some uuid :=
    handleFrame_known known h
  obtain ⟨c', heq, rfl | rfl⟩ := handleNext_cons R hinbox
  · rw [heq]
    exact hknown
  · rw [heq]
    exact hknown

/-- A device that is known stays known. -/
lemma Learns.keeps (h : Learns c d) : c.deviceUuid = none ∨ d.deviceUuid = c.deviceUuid := by
  cases hknown : c.deviceUuid with
  | none => exact .inl rfl
  | some uuid =>
    rw [Learns, hknown] at h
    exact .inr h.known.1

/-- Handling a frame keeps a connection to its device. -/
lemma OneDevice.handleNext (h : c.OneDevice crc32 R) (hold : RecordersHold crc32 R) :
    (c.handleNext R).1.OneDevice crc32 (c.handleNext R).2.1 ∧
      RecordersHold crc32 (c.handleNext R).2.1 := by
  cases hinbox : c.inbox with
  | nil =>
    have heq : c.handleNext R = (c, R, none) := by
      unfold AcquisitionController.handleNext
      rw [hinbox]
    rw [heq]
    exact ⟨h, hold⟩
  | cons frame frames =>
    have hlearns := (c.handleNext_learns R).keeps
    have hrest : (c.handleNext R).1.inbox = frames :=
      shell_field AcquisitionController.inbox (fun _ => rfl) (handleNext_shell R hinbox)
    have hrecorder : (c.handleNext R).1.recorder = c.recorder :=
      handleNext_field AcquisitionController.recorder (fun _ _ => rfl) c R
    have harchive : (c.handleNext R).1.archiveRecorder = c.archiveRecorder :=
      handleNext_field AcquisitionController.archiveRecorder (fun _ _ => rfl) c R
    -- a recorder is attached behind the first UUID only, which does not change then
    have hattached : ∀ id, c.recorder = some id ∨ c.archiveRecorder = some id →
        ∀ uuid, (R id).deviceUuid = some uuid → (c.handleNext R).1.deviceUuid = some uuid := by
      intro id hid uuid huuid
      have hbefore := h.recorders id hid uuid huuid
      cases hlearns with
      | inl hnone =>
        rw [hbefore] at hnone
        cases hnone
      | inr hsame => exact hsame.trans hbefore
    have hkept : ∀ chunk ∈ c.filing.deferred,
        FrameFrom crc32 (c.handleNext R).1.deviceUuid chunk :=
      fun chunk hchunk => (h.deferred chunk hchunk).learn hlearns
    have hfiled : RecordersHold crc32 (c.handleNext R).2.1 ∧
        ∀ chunk ∈ (c.handleNext R).1.filing.deferred,
          FrameFrom crc32 (c.handleNext R).1.deviceUuid chunk := by
      have hfiles : Files c R frame (c.handleNext R).1.filing (c.handleNext R).2.1 :=
        handleNext_files hinbox
      generalize (c.handleNext R).1.filing = p at hfiles ⊢
      generalize hR : (c.handleNext R).2.1 = R' at hfiles ⊢
      cases hfiles with
      -- a frame of another device is delivered nowhere
      | refused _ => exact ⟨hold, hkept⟩
      | routed known routes =>
        obtain ⟨f, hreads⟩ := h.inbox frame (hinbox ▸ List.mem_cons_self)
        refine routes.oneDevice hold ⟨f, hreads.rawBytes.symm, ?_⟩ hkept hattached
        intro uuid huuid
        exact handleNext_known hinbox known (hreads.deviceUuid.trans huuid)
    refine ⟨⟨?_, hfiled.2, ?_⟩, hfiled.1⟩
    · rw [hrest]
      exact fun frame' hmem => h.inbox frame' (hinbox ▸ List.mem_cons_of_mem frame hmem)
    · rw [hrecorder, harchive]
      intro id hid uuid huuid
      refine hattached id hid uuid ?_
      rw [← huuid]
      exact (congrArg Prod.snd (c.handleNext_file R id)).symm

/-- The frames of a read are those of valid frames. -/
lemma parseChunk_valid (crc32 : Bytes → UInt32) (c : AcquisitionController) (chunk : Bytes) :
    ∀ frame ∈ (c.parseChunk crc32 chunk).2.1, ∃ f : ValidFrame crc32, frame.Reads f := by
  unfold parseChunk
  split
  · dsimp only
    split
    · split
      · exact fun frame hmem => (List.not_mem_nil hmem).elim
      · exact StreamParser.feed_valid _ _
    · split
      · exact fun frame hmem => (List.not_mem_nil hmem).elim
      · exact StreamParser.feed_valid _ _
  · split
    · exact StreamParser.feed_valid _ _
    · exact StreamParser.feed_valid _ _

/-- Reading keeps a connection to its device. -/
lemma OneDevice.readChunk (h : c.OneDevice crc32 R) (chunk : Bytes) :
    (c.readChunk crc32 chunk).OneDevice crc32 R := by
  have hfield : ∀ {β : Type} (get : AcquisitionController → β), (∀ c, get c.unread = get c) →
      get (c.readChunk crc32 chunk) = get c :=
    fun get hget => readChunk_field get hget crc32 c chunk
  refine ⟨?_, ?_, ?_⟩
  · unfold AcquisitionController.readChunk
    split
    · exact h.inbox
    · have hvalid := parseChunk_valid crc32
        { c with bytesReceived := c.bytesReceived + chunk.length } chunk
      dsimp only
      split
      · exact hvalid
      · exact hvalid
  · rw [hfield AcquisitionController.deferredRecordingFrames fun _ => rfl,
      hfield AcquisitionController.deviceUuid fun _ => rfl]
    exact h.deferred
  · rw [hfield AcquisitionController.recorder fun _ => rfl,
      hfield AcquisitionController.archiveRecorder fun _ => rfl,
      hfield AcquisitionController.deviceUuid fun _ => rfl]
    exact h.recorders

end AcquisitionController

end SensorHost.Acquisition
