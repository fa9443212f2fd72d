import SensorHost.Acquisition.Controller
import SensorHost.Lib.Crc32
import SensorHost.Lib.Runs

/-!
# The reply queue across uploads

The worker puts the reply lines in a queue, and the uploader takes them out. A line belongs to the
upload during which it was queued: uploads are numbered by the calls of `start_ota`. The queue is
emptied not by `start_ota` but by the first read behind it.

`replies_isolated_iff` shows when this is soon enough: no upload is handed a line of an earlier one
exactly if the uploader never asks while a `start_ota` that found lines in the queue still waits for
its read. `replies_late_drain` is a run in which it does.

`Numbered` is the invariant: each line in the queue has the number of its upload; as long as no
reset is owed all are of this one, and otherwise the first is of an earlier one. The condition
`Prompt` is about the state before the uploader asks, and the theorem is an equivalence over each
run, since a call that violates the condition is handed an old line at once (`handed_step`).
-/

namespace SensorHost.Acquisition
open SensorHost.Lib SensorHost.Protocol SensorHost.Ota

/-- What the worker, the GUI and the uploader do to the bridge of one session. -/
inductive ReplyEvent where
  | chunk (data : Bytes)
  | startOta
  | endOta
  | sendOtaFrame (data : Bytes)
  | nextOtaReply
  deriving DecidableEq

/-- A controller, with the number of the upload of each queued line, the lines handed out with
their upload and the one that asked, and whether a `start_ota` still owes the queue its reset. -/
structure ReplyQueue where
  controller : AcquisitionController := {}
  upload : Nat := 0
  queued : List Nat := []
  handed : List (Nat × Nat) := []
  owed : Bool := false

namespace ReplyQueue

variable (crc32 : Bytes → UInt32)

/-- One pass of the worker over a read: what is pending goes out, and the bytes are parsed. -/
def readPass (q : ReplyQueue) (data : Bytes) : ReplyQueue :=
  let c := q.controller.sendPending
  let resets := data ≠ [] ∧ c.otaActive = true ∧ c.otaResetPending = true
  let kept := if resets then [] else q.queued
  let c := c.readChunk crc32 data
  { q with
    controller := c
    queued := kept ++ List.replicate (c.otaReplies.length - kept.length) q.upload
    owed := q.owed && (data == [] || !q.controller.otaActive) }

/-- One event. -/
def step (q : ReplyQueue) : ReplyEvent → ReplyQueue
  | .chunk data => q.readPass crc32 data
  | .startOta =>
    { q with
      controller := q.controller.startOta
      upload := q.upload + 1
      owed := q.controller.otaReplies != [] }
  | .endOta => { q with controller := q.controller.endOta }
  | .sendOtaFrame data => { q with controller := q.controller.sendOtaFrame data }
  | .nextOtaReply =>
    match q.controller.nextOtaReply with
    | (c, none) => { q with controller := c }
    | (c, some _) =>
      { q with
        controller := c
        queued := q.queued.tail
        handed := q.handed ++ q.queued.head?.toList.map fun line => (line, q.upload) }

/-- The state of a controller before the first upload. -/
def start (c : AcquisitionController) : ReplyQueue :=
  { controller := c, queued := c.otaReplies.map fun _ => 0 }

/-- No line was handed to another upload than its own. -/
def Isolated (q : ReplyQueue) : Prop := ∀ h ∈ q.handed, h.1 = h.2

instance (q : ReplyQueue) : Decidable q.Isolated :=
  inferInstanceAs (Decidable (∀ _ ∈ _, _))

/-- The uploader does not ask while the queue is owed a reset. -/
def Prompt (q : ReplyQueue) (e : ReplyEvent) : Prop := e = .nextOtaReply → q.owed = false

end ReplyQueue

/-- What a read does to the bridge. -/
lemma AcquisitionController.parseChunk_bridge (crc32 : Bytes → UInt32) (c : AcquisitionController)
    (data : Bytes) :
    (c.parseChunk crc32 data).1.otaActive = c.otaActive ∧
      (c.parseChunk crc32 data).1.otaResetPending = (c.otaResetPending && !c.otaActive) ∧
      ∃ lines, (c.parseChunk crc32 data).1.otaReplies =
        (if c.otaActive = true ∧ c.otaResetPending = true then [] else c.otaReplies) ++ lines := by
  unfold AcquisitionController.parseChunk
  by_cases ha : c.otaActive = true
  · rw [if_pos ha]
    by_cases hp : c.otaResetPending = true
    · rw [if_pos hp, if_pos ⟨ha, hp⟩, ha, hp]
      dsimp only
      split
      · exact ⟨rfl, rfl, _, rfl⟩
      · exact ⟨rfl, rfl, _, rfl⟩
    · rw [if_neg hp, if_neg (fun h : _ ∧ _ => hp h.2), ha, Bool.not_true, Bool.and_false]
      rw [Bool.not_eq_true] at hp
      dsimp only
      split
      · exact ⟨ha, hp, _, rfl⟩
      · exact ⟨ha, hp, _, rfl⟩
  · rw [if_neg ha, if_neg (fun h : c.otaActive = true ∧ _ => ha h.1)]
    rw [Bool.not_eq_true] at ha
    rw [ha, Bool.not_false, Bool.and_true]
    by_cases hflush : c.otaDemux.pending ≠ []
    · rw [if_pos hflush]
      exact ⟨rfl, rfl, [], (List.append_nil _).symm⟩
    · rw [if_neg hflush]
      exact ⟨ha, rfl, [], (List.append_nil _).symm⟩

/-- What a pass over a read does to the bridge; an empty read does nothing to it. -/
lemma AcquisitionController.readChunk_bridge (crc32 : Bytes → UInt32) (c : AcquisitionController)
    (data : Bytes) :
    (c.readChunk crc32 data).otaActive = c.otaActive ∧
      (c.readChunk crc32 data).otaResetPending =
        (c.otaResetPending && !(data != [] && c.otaActive)) ∧
      ∃ lines, (c.readChunk crc32 data).otaReplies =
        (if data ≠ [] ∧ c.otaActive = true ∧ c.otaResetPending = true then [] else c.otaReplies) ++
          lines := by
  unfold AcquisitionController.readChunk
  by_cases hdata : data = []
  · subst hdata
    rw [if_pos rfl, if_neg (fun h : ([] : Bytes) ≠ [] ∧ _ => h.1 rfl)]
    exact ⟨rfl, (Bool.and_true _).symm, [], (List.append_nil _).symm⟩
  · obtain ⟨hactive, hpending, lines, hreplies⟩ := AcquisitionController.parseChunk_bridge crc32
      { c with bytesReceived := c.bytesReceived + data.length } data
    have hne : (data != []) = true := bne_iff_ne.mpr hdata
    rw [if_neg hdata, hne, Bool.true_and]
    simp only [ne_eq, hdata, not_false_eq_true, true_and]
    split
    · exact ⟨hactive, hpending, lines, hreplies⟩
    · exact ⟨hactive, hpending, lines, hreplies⟩

namespace ReplyQueue

/-- The numbers are those of the queued lines; without a debt they are all of this upload, and with
one the first is of an earlier upload, and arming has not taken effect. -/
structure Numbered (q : ReplyQueue) : Prop where
  length : q.queued.length = q.controller.otaReplies.length
  le : ∀ line ∈ q.queued, line ≤ q.upload
  current : q.owed = false → ∀ line ∈ q.queued, line = q.upload
  stale : q.owed = true → ∃ line lines, q.queued = line :: lines ∧ line < q.upload
  pending : q.owed = true → q.controller.otaActive = true → q.controller.otaResetPending = true

variable {crc32 : Bytes → UInt32} {q : ReplyQueue}

/-- Before the first upload nothing is owed. -/
lemma start_numbered (c : AcquisitionController) : (start c).Numbered where
  length := List.length_map _
  le line hline := by
    obtain ⟨-, -, rfl⟩ := List.mem_map.mp hline
    exact le_rfl
  current _ line hline := by
    obtain ⟨-, -, rfl⟩ := List.mem_map.mp hline
    rfl
  stale h := by cases h
  pending h := by cases h

/-- A read takes the reset, or adds lines to those that are queued. -/
lemma readPass_cases (h : q.Numbered) (data : Bytes) :
    ∃ lines : List Bytes,
      (q.readPass crc32 data).controller.otaActive = q.controller.otaActive ∧
      ((q.readPass crc32 data).owed = false ∧
          (q.readPass crc32 data).controller.otaReplies = lines ∧
          (q.readPass crc32 data).queued = List.replicate lines.length q.upload ∨
        (q.readPass crc32 data).owed = q.owed ∧
          (q.readPass crc32 data).controller.otaResetPending = q.controller.otaResetPending ∧
          (q.readPass crc32 data).controller.otaReplies = q.controller.otaReplies ++ lines ∧
          (q.readPass crc32 data).queued = q.queued ++ List.replicate lines.length q.upload) := by
  obtain ⟨hactive, hpending, lines, hreplies⟩ :=
    AcquisitionController.readChunk_bridge crc32 q.controller.sendPending data
  refine ⟨lines, hactive, ?_⟩
  by_cases hreset : data ≠ [] ∧ q.controller.sendPending.otaActive = true ∧
      q.controller.sendPending.otaResetPending = true
  · -- the flush of the new upload empties the queue
    left
    rw [if_pos hreset, List.nil_append] at hreplies
    refine ⟨?_, hreplies, ?_⟩
    · have ha : q.controller.otaActive = true := hreset.2.1
      simp [readPass, ha, hreset.1]
    · simp only [readPass]
      rw [if_pos hreset, hreplies, List.nil_append, List.length_nil, Nat.sub_zero]
  · -- without it the replies are appended
    right
    rw [if_neg hreset] at hreplies
    have hkeep : q.owed = true → data ≠ [] → q.controller.otaActive = true → False :=
      fun howed hdata ha => hreset ⟨hdata, ha, h.pending howed ha⟩
    refine ⟨?_, ?_, hreplies, ?_⟩
    · simp only [readPass]
      cases howed : q.owed with
      | false => rfl
      | true =>
        by_cases hdata : data = []
        · simp [hdata]
        · have ha : q.controller.otaActive = false := by
            simpa using hkeep howed hdata
          simp [ha]
    · refine hpending.trans ?_
      have hno : ¬ (data ≠ [] ∧ q.controller.otaActive = true ∧
          q.controller.otaResetPending = true) := hreset
      revert hno
      dsimp only [AcquisitionController.sendPending]
      cases q.controller.otaResetPending with
      | false => exact fun _ => rfl
      | true =>
        intro hno
        cases ha : q.controller.otaActive with
        | false => simp
        | true =>
          have hdata : data = [] := by simpa [ha] using hno
          simp [hdata]
    · simp only [readPass]
      rw [if_neg hreset, hreplies, List.length_append, h.length]
      exact congrArg (fun n => q.queued ++ List.replicate n q.upload) (Nat.add_sub_cancel_left ..)

/-- Every event but an early request keeps the numbers. -/
lemma Numbered.step (h : q.Numbered) {e : ReplyEvent} (hprompt : q.Prompt e) :
    (q.step crc32 e).Numbered := by
  cases e with
  | chunk data =>
    obtain ⟨lines, hactive, hpaid | hkept⟩ := @readPass_cases crc32 q h data
    · -- behind the flush all that is queued is of the current upload
      obtain ⟨howed, hreplies, hqueued⟩ := hpaid
      have hall : ∀ line ∈ (q.readPass crc32 data).queued, line = q.upload :=
        fun line hline => List.eq_of_mem_replicate (hqueued ▸ hline)
      refine ⟨?_, fun line hline => (hall line hline).le, fun _ => hall, ?_, ?_⟩
      · exact (congrArg List.length hqueued).trans
          (List.length_replicate.trans (congrArg List.length hreplies).symm)
      · exact fun hdebt => absurd (howed.symm.trans hdebt) Bool.false_ne_true
      · exact fun hdebt => absurd (howed.symm.trans hdebt) Bool.false_ne_true
    · -- what was queued stays in front of the new lines
      obtain ⟨howed, hpending, hreplies, hqueued⟩ := hkept
      have hmem : ∀ line ∈ (q.readPass crc32 data).queued, line ∈ q.queued ∨ line = q.upload := by
        intro line hline
        rw [hqueued] at hline
        exact (List.mem_append.mp hline).imp_right List.eq_of_mem_replicate
      refine ⟨?_, ?_, ?_, ?_, ?_⟩
      · refine (congrArg List.length hqueued).trans ?_
        refine Eq.trans ?_ (congrArg List.length hreplies).symm
        rw [List.length_append, List.length_append, List.length_replicate, h.length]
      · intro line hline
        cases hmem line hline with
        | inl hold => exact h.le line hold
        | inr hnew => exact hnew.le
      · intro hfree line hline
        cases hmem line hline with
        | inl hold => exact h.current (howed.symm.trans hfree) line hold
        | inr hnew => exact hnew
      · intro hdebt
        obtain ⟨line, queue, hqueue, hlt⟩ := h.stale (howed.symm.trans hdebt)
        refine ⟨line, queue ++ List.replicate lines.length q.upload, ?_, hlt⟩
        exact hqueued.trans (congrArg (· ++ _) hqueue)
      · intro hdebt ha
        exact hpending.trans (h.pending (howed.symm.trans hdebt) (hactive.symm.trans ha))
  | startOta =>
    refine ⟨h.length, fun line hline => Nat.le_succ_of_le (h.le line hline), ?_, ?_, fun _ _ => rfl⟩
    · intro hfree line hline
      -- nothing is owed only if nothing was queued
      have hnil : q.controller.otaReplies = [] := by simpa using bne_eq_false_iff_eq.mp hfree
      have hempty : q.queued = [] := by
        rw [← List.length_eq_zero_iff, h.length, hnil, List.length_nil]
      rw [show (q.step crc32 .startOta).queued = q.queued from rfl, hempty] at hline
      cases hline
    · intro hdebt
      have hne : q.controller.otaReplies ≠ [] := bne_iff_ne.mp hdebt
      cases hqueue : q.queued with
      | nil =>
        have hlength := h.length
        rw [hqueue, List.length_nil] at hlength
        exact absurd (List.length_eq_zero_iff.mp hlength.symm) hne
      | cons line lines =>
        refine ⟨line, lines, hqueue, ?_⟩
        exact Nat.lt_succ_of_le (h.le line (hqueue ▸ List.mem_cons_self))
  | endOta => exact ⟨h.length, h.le, h.current, h.stale, fun _ ha => by cases ha⟩
  | sendOtaFrame data => exact ⟨h.length, h.le, h.current, h.stale, h.pending⟩
  | nextOtaReply =>
    have hfree : q.owed = false := hprompt rfl
    have hlength := h.length
    unfold ReplyQueue.step AcquisitionController.nextOtaReply
    cases hreplies : q.controller.otaReplies with
    | nil => exact ⟨h.length, h.le, h.current, h.stale, h.pending⟩
    | cons reply replies =>
      have hcurrent := h.current hfree
      refine ⟨?_, ?_, ?_, ?_, ?_⟩
      · dsimp only
        rw [List.length_tail, hlength, hreplies, List.length_cons, Nat.add_sub_cancel]
      · exact fun line hline => h.le line (List.mem_of_mem_tail hline)
      · exact fun _ line hline => hcurrent line (List.mem_of_mem_tail hline)
      · exact fun hdebt => absurd (hfree.symm.trans hdebt) Bool.false_ne_true
      · exact fun hdebt => absurd (hfree.symm.trans hdebt) Bool.false_ne_true

/-- A request takes the first line, if there is one. -/
lemma step_nextOtaReply (h : q.Numbered) :
    (q.step crc32 .nextOtaReply).handed =
      q.handed ++ q.queued.head?.toList.map fun line => (line, q.upload) := by
  have hlength := h.length
  unfold ReplyQueue.step AcquisitionController.nextOtaReply
  cases hreplies : q.controller.otaReplies with
  | nil =>
    rw [hreplies, List.length_nil] at hlength
    rw [List.length_eq_zero_iff.mp hlength]
    exact (List.append_nil _).symm
  | cons reply replies => rfl

/-- What was handed out stays handed out. -/
lemma handed_step (q : ReplyQueue) (e : ReplyEvent) : q.handed ⊆ (q.step crc32 e).handed := by
  cases e with
  | nextOtaReply =>
    dsimp only [ReplyQueue.step]
    split
    · exact fun _ h => h
    · exact List.subset_append_left _ _
  | _ => exact fun _ h => h

end ReplyQueue

/-- Over every run, no line of an earlier upload is handed out exactly if the uploader never asks
while a `start_ota` that found lines in the queue waits for the first read with OTA armed. -/
theorem replies_isolated_iff (crc32 : Bytes → UInt32) (c : AcquisitionController)
    (events : List ReplyEvent) :
    (runFrom (ReplyQueue.step crc32) (ReplyQueue.start c) events).Isolated ↔
      Along (ReplyQueue.step crc32) ReplyQueue.Prompt (ReplyQueue.start c) events := by
  apply Along.goal_iff (I := ReplyQueue.Numbered)
  · exact fun q e hisolated handed hmem => hisolated handed (q.handed_step e hmem)
  · intro q e hnumbered hisolated hprompt
    refine ⟨hnumbered.step hprompt, ?_⟩
    cases e with
    | nextOtaReply =>
      intro handed hmem
      rw [ReplyQueue.step_nextOtaReply hnumbered] at hmem
      cases List.mem_append.mp hmem with
      | inl hold => exact hisolated handed hold
      | inr hnew =>
        obtain ⟨line, hline, rfl⟩ := List.mem_map.mp hnew
        have hqueued := List.mem_of_mem_head? (Option.mem_toList.mp hline)
        exact hnumbered.current (hprompt rfl) line hqueued
    | _ => exact hisolated
  · intro q e hnumbered hearly hisolated
    obtain ⟨rfl, howed⟩ : e = .nextOtaReply ∧ q.owed = true := by
      unfold ReplyQueue.Prompt at hearly
      simpa using hearly
    obtain ⟨line, lines, hqueued, hlt⟩ := hnumbered.stale howed
    have hstep := @ReplyQueue.step_nextOtaReply crc32 _ hnumbered
    rw [hqueued] at hstep
    have hmem : (line, q.upload) ∈ (q.step crc32 .nextOtaReply).handed := by
      rw [hstep]
      exact List.mem_append_right _ List.mem_cons_self
    exact hlt.ne (hisolated _ hmem)
  · exact ReplyQueue.start_numbered c
  · exact fun handed hmem => by cases hmem

/-- The reply to the last frame of an upload arrives before the upload ends, and the next upload
starts before the worker reads again: it is handed the reply. -/
theorem replies_late_drain :
    ¬ (runFrom (ReplyQueue.step zlibCrc32) (ReplyQueue.start {})
      [.startOta, .chunk (asciiBytes "+OTA:ACK,SEQ=3,NEXT=0\r\n".toList), .endOta, .startOta,
        .nextOtaReply]).Isolated := by
  decide +kernel

end SensorHost.Acquisition
