import SensorHost.Presentation.ExportPoll
import SensorHost.Presentation.Reconnected
import SensorHost.Presentation.Routed

/-!
# What an export has heard

A run is watched: for each session the export events since its archive recorder was attached and
whether its export was cancelled, and the recorders whose exports were reported (`ExportWatch`). The
revision and the phase of the control state are what the watch says (`Tracked`), in every run
(`tracked_run`).

`ExportWatch` is a record beside the run, which no operation reads. `Traced` relates it to one
session: the revision at the attachment and the events heard since add up to the revision of the
control state, and its phase is that of the last known event. `Tracked` adds that the reported
recorders are no longer attached anywhere, so that none is reported twice.

The step lemma takes the parts one by one: cancelling (`Tracked.cancelled`), what the sessions have
heard (`Tracked.traced_step`), and the reports of the poll (`reported_poll`).
-/

namespace SensorHost.Presentation
open SensorHost.Lib SensorHost.Protocol SensorHost.Storage SensorHost.Acquisition SensorHost.Ota
  SensorHost.Transport

/-- The export events in the reply that the session takes in next. -/
def ManagedSession.exportEvents (s : ManagedSession) : List Text :=
  match s.nextReply with
  | none => []
  | some text =>
    match s.acquisition.controlState.updatedFromCli text with
    | .ok _ => exportLines text
    | .error _ => []

/-- The export events that the sessions have received since their archive recorders were attached, the
exports that were cancelled, and the recorders whose exports were reported as finished. -/
structure ExportWatch where
  heard : Nat → List Text := fun _ => []
  cancelled : Nat → Bool := fun _ => false
  reported : List (Option Nat) := []

namespace AppController

/-- The archive recorder of a session. -/
def archiveOf (c : AppController) (sid : Nat) : Option Nat :=
  (c.sessionBySid? sid).bind ManagedSession.archiveRecorder

/-- The export events that an event brings to a session. -/
def exportEvents (c : AppController) (sid : Nat) : Event → List Text
  | .handle x _ =>
    if x = sid then
      match c.sessionBySid? sid with
      | none => []
      | some s => s.exportEvents
    else []
  | _ => []

/-- The event cancels the export of a session. -/
def cancels (c : AppController) (sid : Nat) : Event → Bool
  | .operation _ (.cancelExportFor nodeId) =>
    (c.session? nodeId).any fun s => s.sid == sid && s.archiveRecorder.isSome
  | _ => false

/-- The recorders of the exports that an event reports as finished: the node of the report had it. -/
def reported (crc32 : Bytes → UInt32) (c : AppController) (e : Event) : List (Option Nat) :=
  ((c.step crc32 e).finished.drop c.finished.length).map fun
    | .exportFinished nodeId _ _ => (c.session? nodeId).bind ManagedSession.archiveRecorder
    | _ => none

/-- The watch behind an event: it starts anew for a session whose archive recorder changes. -/
def watchExports (crc32 : Bytes → UInt32) (c : AppController) (w : ExportWatch) (e : Event) :
    ExportWatch where
  heard sid := if (c.step crc32 e).archiveOf sid = c.archiveOf sid then
      w.heard sid ++ c.exportEvents sid e
    else []
  cancelled sid := if (c.step crc32 e).archiveOf sid = c.archiveOf sid then
      w.cancelled sid || c.cancels sid e
    else false
  reported := w.reported ++ c.reported crc32 e

end AppController

/-- The control state is as the watch says, and so is a cancelled export. -/
structure Traced (s : ManagedSession) (heard : List Text) (cancelled : Bool) : Prop where
  revision : s.archiveRecorder.isSome = true →
    s.acquisition.controlState.exportRevision = s.archiveStartRevision + heard.length
  phase : s.archiveRecorder.isSome = true → ∀ line, heard.getLast? = some line →
    isExportEvent line = true → s.acquisition.controlState.exportPhase = some (eventPhase line)
  cancelled : s.archiveCancelRequested = true → s.archiveRecorder.isSome = true ∧ cancelled = true

/-- The watch is right about every session, and no recorder that was reported is attached. -/
structure Tracked (c : AppController) (w : ExportWatch) : Prop where
  traced : ∀ s ∈ c.sessions, Traced s (w.heard s.sid) (w.cancelled s.sid)
  reported : ∃ ids : List Nat, w.reported = ids.map some ∧ ids.Nodup ∧
    ∀ id ∈ ids, id < c.nextRecorder ∧ ∀ s ∈ c.sessions, s.archiveRecorder ≠ some id

variable {crc32 : Bytes → UInt32} {P : Label → Prop} {c c' d : AppController}
  {s s' t : ManagedSession} {w : ExportWatch} {h : Host} {id : Nat}

/-- What a change leaves of the archive recorder of a session, or attaches. -/
lemma Change.archive {l : Label} (hchange : Change crc32 c l s t) (hid : t.archiveRecorder = some id) :
    s.archiveRecorder = some id ∧ t.archiveStartRevision = s.archiveStartRevision ∨
      id = c.nextRecorder ∧ s.archiveRecorder = none ∧ t.archiveStartRevision =
        (s.controlState.map FirmwareControlState.exportRevision).getD 0 := by
  cases hchange with
  | session hl h =>
    left
    cases h with
    | handle running message =>
      obtain ⟨worker, transportOpen, heq, -⟩ := s.handled_eq c.recorders message
      rw [heq] at hid ⊢
      exact ⟨hid, rfl⟩
    | exportDetach _ _ _ _ => cases hid
    | _ => exact ⟨hid, rfl⟩
  | exportAttach hl free startedS uuid bound =>
    cases hid
    exact .inr ⟨rfl, free, rfl⟩
  | _ => exact .inl ⟨hid, rfl⟩

/-- The control state that a session shows has the revision of the one it keeps. -/
lemma SessionFormed.revision {R : Recorders} {bound : Nat} (formed : SessionFormed R bound s) :
    (s.controlState.map FirmwareControlState.exportRevision).getD 0 =
      s.acquisition.controlState.exportRevision := by
  cases formed.state with
  | inl h =>
    rw [h.1, h.2]
    rfl
  | inr h =>
    rw [h]
    rfl

/-- The phase that is shown is the one that was received. -/
lemma SessionFormed.phase {R : Recorders} {bound : Nat} (formed : SessionFormed R bound s) :
    s.controlState.bind (·.exportPhase) = s.acquisition.controlState.exportPhase := by
  cases formed.state with
  | inl h =>
    rw [h.1, h.2]
    rfl
  | inr h =>
    rw [h]
    rfl

/-- Recorders are only added. -/
lemma Step.nextRecorder_le {l : Label} (hstep : Step crc32 c l c') :
    c.nextRecorder ≤ c'.nextRecorder := by
  cases hstep with
  | outside h => exact h.nextRecorder
  | attach path live free => exact Nat.le_succ _
  | exportAttach path startedS uuid live free bound => exact Nat.le_succ _
  | _ => exact le_rfl

/-- Behind a chain that handles no frame, an archive recorder was there before, with the same control
state, or was attached at the revision that the control state has. -/
lemma Chain.archive (hchain : Chain crc32 P c c') (wf : WellFormed c)
    (hP : ∀ sid, ¬ P (.session sid .handle)) (ht : t ∈ c'.sessions)
    (hid : t.archiveRecorder = some id) :
    (∃ s ∈ c.sessions, s.sid = t.sid ∧ s.archiveRecorder = some id ∧
      t.archiveStartRevision = s.archiveStartRevision ∧
      t.acquisition.controlState = s.acquisition.controlState) ∨
    c.nextRecorder ≤ id ∧ t.archiveStartRevision = t.acquisition.controlState.exportRevision := by
  have hall : c.nextRecorder ≤ c'.nextRecorder ∧ ∀ t ∈ c'.sessions, t.archiveRecorder = some id →
      (∃ s ∈ c.sessions, s.sid = t.sid ∧ s.archiveRecorder = some id ∧
        t.archiveStartRevision = s.archiveStartRevision ∧
        t.acquisition.controlState = s.acquisition.controlState) ∨
      c.nextRecorder ≤ id ∧
        t.archiveStartRevision = t.acquisition.controlState.exportRevision := by
    refine Chain.invariant (I := fun a => c.nextRecorder ≤ a.nextRecorder ∧
      ∀ t ∈ a.sessions, t.archiveRecorder = some id →
        (∃ s ∈ c.sessions, s.sid = t.sid ∧ s.archiveRecorder = some id ∧
          t.archiveStartRevision = s.archiveStartRevision ∧
          t.acquisition.controlState = s.acquisition.controlState) ∨
        c.nextRecorder ≤ id ∧
          t.archiveStartRevision = t.acquisition.controlState.exportRevision) ?_ hchain wf
      ⟨le_rfl, fun t ht hid => .inl ⟨t, ht, rfl, hid, rfl, rfl⟩⟩
    intro a l b wfa ha hl hstep
    refine ⟨ha.1.trans hstep.nextRecorder_le, ?_⟩
    intro t ht hid
    cases hstep.change ht with
    | inl hold =>
      obtain ⟨u, hu, hut⟩ := hold
      have hshown : t.acquisition.controlState = u.acquisition.controlState :=
        congrArg Prod.fst (hut.shown fun heq => hP _ (heq ▸ hl))
      rw [hut.sid, hshown]
      obtain ⟨hkept, hstart⟩ | ⟨hnew, -, hstart⟩ := hut.archive hid
      · rw [hstart]
        exact ha.2 u hu hkept
      · right
        rw [hstart, (wfa.formed u hu).revision]
        exact ⟨hnew ▸ ha.1, rfl⟩
    | inr hnew =>
      obtain ⟨-, nodeId, peer, kind, rfl⟩ := hnew
      cases hid
  exact hall.2 t ht hid

/-- A session is found with its archive recorder. -/
lemma WellFormed.archiveOf (wf : WellFormed c) (live : s ∈ c.sessions) :
    c.archiveOf s.sid = s.archiveRecorder := by
  unfold AppController.archiveOf
  rw [wf.sessionBySid? live]
  rfl

/-- An event that is not the handling of a frame brings no export event. -/
lemma Traced.chain (wf : WellFormed c) (tracked : Tracked c w) (hchain : Chain crc32 P c c')
    (hP : ∀ sid, ¬ P (.session sid .handle)) (ht : t ∈ c'.sessions) {cancelled : Bool}
    (hcancelled : t.archiveCancelRequested = true →
      t.archiveRecorder.isSome = true ∧ cancelled = true) :
    Traced t (if c'.archiveOf t.sid = c.archiveOf t.sid then w.heard t.sid else []) cancelled := by
  have hwf := hchain.wellFormed wf
  have hcase : ∀ id, t.archiveRecorder = some id →
      (∃ s ∈ c.sessions, s.sid = t.sid ∧ s.archiveRecorder = some id ∧
        c'.archiveOf t.sid = c.archiveOf t.sid ∧
        t.archiveStartRevision = s.archiveStartRevision ∧
        t.acquisition.controlState = s.acquisition.controlState) ∨
      c'.archiveOf t.sid ≠ c.archiveOf t.sid ∧
        t.archiveStartRevision = t.acquisition.controlState.exportRevision := by
    intro id hid
    obtain ⟨s, hs, hsid, hattached, hstart, hstate⟩ | ⟨hnew, hstart⟩ := hchain.archive wf hP ht hid
    · refine .inl ⟨s, hs, hsid, hattached, ?_, hstart, hstate⟩
      rw [hwf.archiveOf ht, ← hsid, wf.archiveOf hs, hid, hattached]
    · refine .inr ⟨?_, hstart⟩
      rw [hwf.archiveOf ht, hid]
      intro heq
      unfold AppController.archiveOf at heq
      obtain ⟨s, hs, hattached⟩ := Option.bind_eq_some_iff.mp heq.symm
      obtain ⟨live, -⟩ := sessionBySid?_some hs
      exact absurd ((wf.formed s live).lt id (.inr hattached)) (not_lt.mpr hnew)
  refine ⟨?_, ?_, hcancelled⟩
  · intro hsome
    obtain ⟨id, hid⟩ := Option.isSome_iff_exists.mp hsome
    obtain ⟨s, hs, hsid, hattached, hkept, hstart, hstate⟩ | ⟨hnew, hstart⟩ := hcase id hid
    · rw [if_pos hkept, hstart, hstate, ← hsid]
      exact (tracked.traced s hs).revision (by rw [hattached]; rfl)
    · rw [if_neg hnew, hstart]
      rfl
  · intro hsome line hline
    obtain ⟨id, hid⟩ := Option.isSome_iff_exists.mp hsome
    obtain ⟨s, hs, hsid, hattached, hkept, hstart, hstate⟩ | ⟨hnew, hstart⟩ := hcase id hid
    · rw [if_pos hkept, ← hsid] at hline
      rw [hstate]
      exact (tracked.traced s hs).phase (by rw [hattached]; rfl) line hline
    · rw [if_neg hnew] at hline
      cases hline

/-- Only exports that were cancelled are. -/
def CancelsKept (c c' : AppController) : Prop :=
  ∀ t ∈ c'.sessions, t.archiveCancelRequested = true → ∃ s ∈ c.sessions, s.sid = t.sid ∧
    s.archiveCancelRequested = true ∧ s.archiveRecorder = t.archiveRecorder

/-- Nothing done cancels nothing. -/
lemma CancelsKept.refl (c : AppController) : CancelsKept c c :=
  fun t ht hflag => ⟨t, ht, rfl, hflag, rfl⟩

/-- What cancels nothing does so one after the other. -/
lemma CancelsKept.trans (hkept : CancelsKept c c') (hkept' : CancelsKept c' d) :
    CancelsKept c d := by
  intro u hu hflag
  obtain ⟨t, ht, hsid, hflag', hsame⟩ := hkept' u hu hflag
  obtain ⟨s, hs, hsid', hflag'', hsame'⟩ := hkept t ht hflag'
  exact ⟨s, hs, hsid'.trans hsid, hflag'', hsame'.trans hsame⟩

/-- Sessions that were there were cancelled before. -/
lemma CancelsKept.of_mem (hmem : ∀ t ∈ c'.sessions, t ∈ c.sessions) : CancelsKept c c' :=
  fun t ht hflag => ⟨t, hmem t ht, rfl, hflag, rfl⟩

/-- A step that neither cancels nor detaches cancels nothing, if only attached recorders are cancelled. -/
lemma CancelsKept.chain (hchain : Chain crc32 P c c') (wf : WellFormed c)
    (hcancel : ∀ sid, ¬ P (.session sid .exportCancel))
    (hdetach : ∀ sid, ¬ P (.session sid .exportDetach))
    (hc : ∀ s ∈ c.sessions, s.archiveCancelRequested = true → s.archiveRecorder.isSome = true) :
    CancelsKept c c' := by
  have hall : ∀ t ∈ c'.sessions, t.archiveCancelRequested = true →
      t.archiveRecorder.isSome = true ∧ ∃ s ∈ c.sessions, s.sid = t.sid ∧
        s.archiveCancelRequested = true ∧ s.archiveRecorder = t.archiveRecorder := by
    refine hchain.sessions (I := fun t => t.archiveCancelRequested = true →
      t.archiveRecorder.isSome = true ∧ ∃ s ∈ c.sessions, s.sid = t.sid ∧
        s.archiveCancelRequested = true ∧ s.archiveRecorder = t.archiveRecorder) wf ?_ ?_
      fun t ht hflag => ⟨hc t ht hflag, t, ht, rfl, hflag, rfl⟩
    · intro _ sid nodeId peer kind recordingActive hflag
      cases hflag
    · intro a l u v _ _ hl huv hu hflag
      rw [huv.sid]
      cases huv with
      | session heq hstep =>
        cases hstep with
        | handle running message =>
          obtain ⟨worker, transportOpen, heq, -⟩ := u.handled_eq a.recorders message
          rw [heq] at hflag ⊢
          exact hu hflag
        | exportDetach _ _ _ _ => exact absurd (heq ▸ hl) (hdetach _)
        | exportCancel _ _ => exact absurd (heq ▸ hl) (hcancel _)
        | exportNote total path target retries cancel fresh => exact hu (fresh hflag)
        | _ => exact hu hflag
      | exportAttach heq free startedS uuid bound =>
        have hsome := (hu hflag).1
        rw [free] at hsome
        cases hsome
      | _ => exact hu hflag
  exact fun t ht hflag => (hall t ht hflag).2

/-- An export that is closed is no longer cancelled. -/
lemma Closed.uncancelled {phase : Text} {new : List Signal} (hclosed : Closed c h s id phase s' new) :
    s'.archiveCancelRequested = false := by
  cases hclosed with
  | _ => rfl

/-- A pass of the poll that closes an export forgets that it was cancelled. -/
lemma cancelsKept_publishSession (h : Host) (wf : WellFormed c) (live : s ∈ c.sessions) :
    CancelsKept c (c.publishSession h s) := by
  have hown : Chain (fun _ => 0) (Label.Own s.sid) c (c.publishSession h s) :=
    publishSession_own h live wf
  have hwf' := hown.wellFormed wf
  obtain ⟨t, ⟨hmem, hsid, hsame, -⟩, hwf, hpassed⟩ := publishSession_passed h wf live
  have hflag : t.archiveCancelRequested = s.archiveCancelRequested :=
    exporting_field ManagedSession.archiveCancelRequested (fun _ => rfl) hsame
  have harchive : t.archiveRecorder = s.archiveRecorder :=
    exporting_field ManagedSession.archiveRecorder (fun _ => rfl) hsame
  intro u hu hcancelled
  by_cases husid : u.sid = s.sid
  · have hone : ∀ t' ∈ (c.publishSession h s).sessions, t'.sid = t.sid → u = t' :=
      fun t' ht' hid => hwf'.eq_of_sid hu ht' (husid.trans (hsid.symm.trans hid.symm))
    cases hpassed with
    | idle _ _ same =>
      have heq := hone t (same ▸ hmem) rfl
      rw [heq] at hcancelled ⊢
      exact ⟨s, live, hsid.symm, hflag ▸ hcancelled, harchive.symm⟩
    | closed attached closes ends mem reports =>
      rw [hone _ mem ends.sid, ends.uncancelled] at hcancelled
      cases hcancelled
    | stalled attached opened stalls ends mem reports =>
      rw [hone _ mem rfl] at hcancelled
      exact absurd (stalls.uncancelled.symm.trans hcancelled) Bool.false_ne_true
  · exact ⟨u, hown.others wf u hu husid, rfl, hcancelled, rfl⟩

/-- The poll cancels nothing. -/
lemma cancelsKept_polled (h : Host) (wf : WellFormed c) (sids : List Nat) :
    CancelsKept c (c.polled h sids) := by
  induction sids generalizing c with
  | nil => exact .refl c
  | cons sid sids ih =>
    rw [polled_cons]
    cases hsession : c.sessionBySid? sid with
    | none =>
      have hnone : (c.onSession sid fun c s => c.publishSession h s) = c := by
        unfold AppController.onSession
        rw [hsession]
      rw [hnone]
      exact ih wf
    | some s =>
      obtain ⟨live, rfl⟩ := sessionBySid?_some hsession
      rw [wf.onSession live]
      have hown : Chain (fun _ => 0) (Label.Own s.sid) c (c.publishSession h s) :=
        publishSession_own h live wf
      exact (cancelsKept_publishSession h wf live).trans (ih (hown.wellFormed wf))

/-- The end of a worker leaves the other sessions as they were. -/
lemma sessions_onThreadFinished (h : Host) (wf : WellFormed c) (live : s ∈ c.sessions) :
    ∀ t ∈ (c.onThreadFinished h s).sessions, t ∈ c.sessions := by
  cases hrunning : c.isStopping with
  | true =>
    unfold AppController.onThreadFinished
    rw [if_pos hrunning]
    exact fun t ht => ht
  | false =>
    intro t ht
    have hids := congrArg Routing.identities
      (onThreadFinished_eq h (known_of_mem wf.nodup live) hrunning).1
    have hin : t.identity ∈ (c.onThreadFinished h s).routing.identities := List.mem_map_of_mem ht
    rw [hids] at hin
    obtain ⟨hmem, hne⟩ := List.mem_filter.mp hin
    have hne : s.sid ≠ t.sid := fun heq => bne_iff_ne.mp hne heq.symm
    obtain ⟨u, hu, hidentity⟩ := List.mem_map.mp hmem
    have hlt : t.sid < c.nextSession := by
      rw [← show u.sid = t.sid from congrArg Prod.fst hidentity]
      exact wf.lt u hu
    have hspared : Leads (fun _ => 0) (Label.Spares t.sid) c (c.onThreadFinished h s) :=
      leads_onThreadFinished h trivial hne hne hne live
    exact (((hspared wf).keeps (fun _ hl => hl) wf hlt).sessions t rfl).mp ht

/-- Every event but a cancel keeps the exports uncancelled that are. -/
lemma cancelsKept_step (wf : WellFormed c) (e : Event)
    (he : ∀ h nodeId, e ≠ .operation h (.cancelExportFor nodeId))
    (hc : ∀ s ∈ c.sessions, s.archiveCancelRequested = true → s.archiveRecorder.isSome = true) :
    CancelsKept c (c.step crc32 e) := by
  have hlabels : e.labels.contains (.session 0 .exportCancel) = false →
      e.labels.contains (.session 0 .exportDetach) = false → CancelsKept c (c.step crc32 e) := by
    intro hcancel hdetach
    refine CancelsKept.chain (step_leads e wf) wf ?_ ?_ hc
    · exact fun sid h => Bool.false_ne_true (hcancel.symm.trans h)
    · exact fun sid h => Bool.false_ne_true (hdetach.symm.trans h)
  have hnone : ∀ {d : AppController}, d.sessions = [] → CancelsKept c d := by
    intro d hd t ht
    rw [hd] at ht
    cases ht
  cases e with
  | publishSnapshots h =>
    unfold AppController.step
    dsimp only
    split
    · exact cancelsKept_polled h wf _
    · exact .refl c
  | threadFinished h sid =>
    unfold AppController.step AppController.onSession
    dsimp only
    split
    · exact .refl c
    · rename_i hsession
      split
      · exact .of_mem (sessions_onThreadFinished h wf (sessionBySid?_some hsession).1)
      · exact .refl c
  | operation h o =>
    have hcommand : ∀ command : Text, ∀ l, l = Label.session 0 .exportCancel ∨
        l = Label.session 0 .exportDetach → (commandLabels command).contains l = false := by
      intro command l hl
      unfold commandLabels
      obtain rfl | rfl := hl
      · cases AppController.isExportCommand command with
        | true => rfl
        | false => rfl
      · cases AppController.isExportCommand command with
        | true => rfl
        | false => rfl
    cases o with
    | cancelExportFor nodeId => exact absurd rfl (he h nodeId)
    | disconnectDevice => exact hnone (disconnectDevice_sessions c h)
    | stopWifiServer => exact hnone (stopWifiServer_sessions c h)
    | sendCommand command => exact hlabels (hcommand command _ (.inl rfl)) (hcommand command _ (.inr rfl))
    | sendCommandTo nodeId command =>
      exact hlabels (hcommand command _ (.inl rfl)) (hcommand command _ (.inr rfl))
    | _ => exact hlabels rfl rfl
  | _ => exact hlabels rfl rfl

/-- An export is cancelled behind an event if the watch says so. -/
lemma Tracked.cancelled (tracked : Tracked c w) (wf : WellFormed c) (e : Event)
    (ht : t ∈ (c.step crc32 e).sessions) (hflag : t.archiveCancelRequested = true) :
    t.archiveRecorder.isSome = true ∧ (c.watchExports crc32 w e).cancelled t.sid = true := by
  have hwf := wellFormed_step crc32 e wf
  have hsame : ∀ s ∈ c.sessions, s.sid = t.sid → s.archiveRecorder = t.archiveRecorder →
      t.archiveRecorder.isSome = true → (w.cancelled s.sid || c.cancels s.sid e) = true →
      t.archiveRecorder.isSome = true ∧ (c.watchExports crc32 w e).cancelled t.sid = true := by
    intro s hs hsid harchive hsome hcancelled
    refine ⟨hsome, ?_⟩
    unfold AppController.watchExports
    dsimp only
    rw [hwf.archiveOf ht, ← harchive, ← hsid, wf.archiveOf hs, if_pos rfl]
    exact hcancelled
  have hcancel : ∀ s ∈ c.sessions, s.archiveCancelRequested = true →
      s.archiveRecorder.isSome = true := fun s hs h => ((tracked.traced s hs).cancelled h).1
  -- only `cancelExportFor` sets the flag, every other event carries it over
  by_cases he : ∀ h nodeId, e ≠ .operation h (.cancelExportFor nodeId)
  · obtain ⟨s, hs, hsid, hsflag, harchive⟩ :=
      cancelsKept_step wf e he hcancel t ht hflag
    obtain ⟨hsome, hcancelled⟩ := (tracked.traced s hs).cancelled hsflag
    exact hsame s hs hsid harchive (harchive ▸ hsome) (by rw [hcancelled]; rfl)
  · push Not at he
    obtain ⟨h, nodeId, rfl⟩ := he
    have hold : t ∈ c.sessions → t.archiveRecorder.isSome = true ∧
        (c.watchExports crc32 w (.operation h (.cancelExportFor nodeId))).cancelled t.sid = true := by
      intro hmem
      obtain ⟨hsome, hcancelled⟩ := (tracked.traced t hmem).cancelled hflag
      exact hsame t hmem rfl rfl hsome (by rw [hcancelled]; rfl)
    have ht' : t ∈ (c.cancelExportFor nodeId).sessions := ht
    unfold AppController.cancelExportFor AppController.withSession at ht'
    split at ht'
    · exact hold ht'
    · rename_i s hsession
      obtain ⟨live, hnode⟩ := session?_some hsession
      dsimp only at ht'
      split at ht'
      · exact hold ht'
      · rename_i hactive
        rw [not_or] at hactive
        have hsome : s.archiveRecorder.isSome = true := by
          rw [Option.isSome_iff_ne_none]
          exact fun h => hactive.1 (by rw [h]; rfl)
        have hid : ({ s with
            archiveCancelRequested := true
            acquisition := s.acquisition.stopAcquisition.requestStatus } : ManagedSession).sid =
              s.sid := rfl
        cases (AppController.mem_setSession live hid).mp ht' with
        | inl heq =>
          have hcancels : c.cancels s.sid (.operation h (.cancelExportFor nodeId)) = true := by
            unfold AppController.cancels
            dsimp only
            rw [hsession, Option.any_some, hsome, Bool.and_true]
            exact beq_self_eq_true s.sid
          refine hsame s live ?_ ?_ ?_ ?_
          · rw [heq]
          · rw [heq]
          · rw [heq]
            exact hsome
          · rw [hcancels, Bool.or_true]
        | inr hother => exact hold hother.1

/-- The reply that a session takes in has no export event, or has one. -/
lemma handled_exports {R : Recorders} {bound : Nat} (formed : SessionFormed R bound s)
    (message : Text) (running : s.worker = .running) :
    s.exportEvents = [] ∧ (s.handled R message).1.acquisition.controlState.export =
        s.acquisition.controlState.export ∨
      ∃ line, s.exportEvents = [line] ∧
        (s.handled R message).1.acquisition.controlState.exportRevision =
          s.acquisition.controlState.exportRevision + 1 ∧
        (isExportEvent line = true →
          (s.handled R message).1.acquisition.controlState.exportPhase = some (eventPhase line)) := by
  have hsame : s.exportEvents = [] → (s.handled R message).1.acquisition.controlState =
      s.acquisition.controlState → s.exportEvents = [] ∧
        (s.handled R message).1.acquisition.controlState.export =
          s.acquisition.controlState.export := by
    intro hnone heq
    exact ⟨hnone, by rw [heq]⟩
  cases hreply : s.nextReply with
  -- without a reply in the frame the control state stays as it was
  | none =>
    left
    refine hsame (by unfold ManagedSession.exportEvents; rw [hreply]) ?_
    cases handled_state R message running with
    | inl heq => exact heq
    | inr hread =>
      obtain ⟨text, new, htext, -⟩ := hread
      rw [hreply] at htext
      cases htext
  | some text =>
    cases hupdate : s.acquisition.controlState.updatedFromCli text with
    | error error =>
      left
      refine hsame (by unfold ManagedSession.exportEvents; rw [hreply]; dsimp only; rw [hupdate]) ?_
      cases handled_state R message running with
      | inl heq => exact heq
      | inr hread =>
        obtain ⟨text', new, htext, hupdated, -⟩ := hread
        cases hreply.symm.trans htext
        cases hupdate.symm.trans hupdated
    | ok new =>
      have hevents : s.exportEvents = exportLines text := by
        unfold ManagedSession.exportEvents
        rw [hreply]
        dsimp only
        rw [hupdate]
      rw [hevents, handled_reply formed message hreply hupdate]
      exact updatedFromCli_exports _ text new hupdate

/-- Handling a frame keeps what is traced of its session. -/
lemma Traced.handled {R : Recorders} {bound : Nat} {heard : List Text} {cancelled : Bool}
    (traced : Traced s heard cancelled) (formed : SessionFormed R bound s) (message : Text)
    (running : s.worker = .running) :
    Traced (s.handled R message).1 (heard ++ s.exportEvents) cancelled := by
  have hevents := handled_exports formed message running
  obtain ⟨worker, transportOpen, heq, -⟩ := s.handled_eq R message
  have harchive : (s.handled R message).1.archiveRecorder = s.archiveRecorder := by rw [heq]
  have hstart : (s.handled R message).1.archiveStartRevision = s.archiveStartRevision := by rw [heq]
  have hflag : (s.handled R message).1.archiveCancelRequested = s.archiveCancelRequested := by
    rw [heq]
  refine ⟨?_, ?_, ?_⟩
  · rw [harchive, hstart]
    intro hsome
    have hbefore := traced.revision hsome
    obtain ⟨hnone, hkept⟩ | ⟨line, hone, hrevision, -⟩ := hevents
    · rw [hnone, List.append_nil, ← hbefore]
      exact congrArg Prod.snd hkept
    · rw [hone, hrevision, hbefore, List.length_append]
      rfl
  · rw [harchive]
    intro hsome line hlast hevent
    obtain ⟨hnone, hkept⟩ | ⟨line', hone, -, hphase⟩ := hevents
    · rw [hnone, List.append_nil] at hlast
      exact (congrArg Prod.fst hkept).trans (traced.phase hsome line hlast hevent)
    · rw [hone, List.getLast?_concat] at hlast
      cases hlast
      exact hphase hevent
  · rw [harchive, hflag]
    exact traced.cancelled

/-- Every event keeps what is traced. -/
lemma Tracked.traced_step (tracked : Tracked c w) (wf : WellFormed c) (e : Event)
    (ht : t ∈ (c.step crc32 e).sessions) :
    Traced t ((c.watchExports crc32 w e).heard t.sid)
      ((c.watchExports crc32 w e).cancelled t.sid) := by
  have hcancelled := tracked.cancelled wf e ht
  have hchain : (∀ sid message, e ≠ .handle sid message) →
      e.labels.contains (.session 0 .handle) = false →
      Traced t ((c.watchExports crc32 w e).heard t.sid)
        ((c.watchExports crc32 w e).cancelled t.sid) := by
    intro he hlabels
    have htraced := Traced.chain wf tracked (step_leads e wf)
      (fun sid h => Bool.false_ne_true (hlabels.symm.trans h)) ht hcancelled
    have hnone : c.exportEvents t.sid e = [] := by
      cases e with
      | handle sid message => exact absurd rfl (he sid message)
      | _ => rfl
    have hheard : (c.watchExports crc32 w e).heard t.sid =
        if (c.step crc32 e).archiveOf t.sid = c.archiveOf t.sid then w.heard t.sid else [] := by
      unfold AppController.watchExports
      dsimp only
      rw [hnone, List.append_nil]
    rw [hheard]
    exact htraced
  cases e with
  | handle sid message =>
    have hwf := wellFormed_step crc32 (.handle sid message) wf
    -- an archive recorder that stays where it was is watched on
    have hkept : ∀ s ∈ c.sessions, s.sid = t.sid → t.archiveRecorder = s.archiveRecorder →
        Traced t (w.heard t.sid ++ c.exportEvents t.sid (.handle sid message)) (w.cancelled t.sid) →
        Traced t ((c.watchExports crc32 w (.handle sid message)).heard t.sid)
          ((c.watchExports crc32 w (.handle sid message)).cancelled t.sid) := by
      intro s hs hsid harchive htraced
      unfold AppController.watchExports
      dsimp only
      rw [hwf.archiveOf ht, harchive, ← hsid, wf.archiveOf hs, if_pos rfl, if_pos rfl, hsid]
      have hno : c.cancels t.sid (.handle sid message) = false := rfl
      rw [hno, Bool.or_false]
      exact htraced
    have hquiet : t ∈ c.sessions → (t.sid = sid → t.worker ≠ .running) →
        Traced t ((c.watchExports crc32 w (.handle sid message)).heard t.sid)
          ((c.watchExports crc32 w (.handle sid message)).cancelled t.sid) := by
      intro hmem hidle
      refine hkept t hmem rfl rfl ?_
      have hnone : c.exportEvents t.sid (.handle sid message) = [] := by
        unfold AppController.exportEvents
        dsimp only
        split
        · rename_i heq
          rw [wf.sessionBySid? hmem]
          have hreply : t.nextReply = none := by
            by_contra hsome
            obtain ⟨text, htext⟩ := Option.ne_none_iff_exists'.mp hsome
            exact hidle heq.symm (running_of_nextReply htext)
          unfold ManagedSession.exportEvents
          dsimp only
          rw [hreply]
        · rfl
      rw [hnone, List.append_nil]
      exact tracked.traced t hmem
    rw [step_handle] at ht
    cases hsession : c.sessionBySid? sid with
    | none =>
      rw [hsession] at ht
      refine hquiet ht ?_
      rintro rfl
      rw [wf.sessionBySid? ht] at hsession
      cases hsession
    | some s =>
      obtain ⟨live, rfl⟩ := sessionBySid?_some hsession
      rw [hsession] at ht
      dsimp only at ht
      by_cases hrunning : s.worker = .running
      · rw [if_pos hrunning] at ht
        have hid : (s.handled c.recorders message).1.sid = s.sid :=
          (SessionStep.handle hrunning message : SessionStep crc32 s c.recorders .handle _ _).sid
        cases (AppController.mem_setSession
          (c := { c with recorders := (s.handled c.recorders message).2 }) live hid).mp ht with
        | inl heq =>
          obtain ⟨worker, transportOpen, hhandled, -⟩ := s.handled_eq c.recorders message
          have htraced := (tracked.traced s live).handled (wf.formed s live) message hrunning
          refine hkept s live ?_ ?_ ?_
          · rw [heq, hid]
          · rw [heq, hhandled]
          · have hevents : c.exportEvents s.sid (.handle s.sid message) = s.exportEvents := by
              unfold AppController.exportEvents
              dsimp only
              rw [if_pos rfl, hsession]
            rw [heq, hid, hevents]
            exact htraced
        | inr hother => exact hquiet hother.1 fun heq => absurd heq hother.2
      · rw [if_neg hrunning] at ht
        refine hquiet ht ?_
        intro heq
        rw [wf.eq_of_sid ht live heq]
        exact hrunning
  | operation h o =>
    refine hchain (fun _ _ => nofun) ?_
    cases o with
    | sendCommand command =>
      show (commandLabels command).contains _ = false
      unfold commandLabels
      cases AppController.isExportCommand command with
      | true => rfl
      | false => rfl
    | sendCommandTo nodeId command =>
      show (commandLabels command).contains _ = false
      unfold commandLabels
      cases AppController.isExportCommand command with
      | true => rfl
      | false => rfl
    | _ => rfl
  | _ => exact hchain (fun _ _ => nofun) rfl

/-- Behind a chain, an archive recorder was there before, or is new. -/
lemma Chain.attached (hchain : Chain crc32 P c c') (wf : WellFormed c) :
    c.nextRecorder ≤ c'.nextRecorder ∧ ∀ t ∈ c'.sessions, ∀ id, t.archiveRecorder = some id →
      c.nextRecorder ≤ id ∨ ∃ s ∈ c.sessions, s.sid = t.sid ∧ s.archiveRecorder = some id := by
  refine Chain.invariant (I := fun a => c.nextRecorder ≤ a.nextRecorder ∧ ∀ t ∈ a.sessions, ∀ id,
    t.archiveRecorder = some id →
      c.nextRecorder ≤ id ∨ ∃ s ∈ c.sessions, s.sid = t.sid ∧ s.archiveRecorder = some id) ?_ hchain wf
    ⟨le_rfl, fun t ht id hid => .inr ⟨t, ht, rfl, hid⟩⟩
  intro a l b _ ha hl hstep
  refine ⟨ha.1.trans hstep.nextRecorder_le, ?_⟩
  intro t ht id hid
  cases hstep.change ht with
  | inl hold =>
    obtain ⟨u, hu, hut⟩ := hold
    rw [hut.sid]
    obtain ⟨hkept, -⟩ | ⟨hnew, -⟩ := hut.archive hid
    · exact ha.2 u hu id hkept
    · exact .inl (hnew ▸ ha.1)
  | inr hnew =>
    obtain ⟨-, nodeId, peer, kind, rfl⟩ := hnew
    cases hid

/-- The poll reports the exports of recorders that were attached, each once, and detaches them. -/
lemma reported_poll (wf : WellFormed c) (listed : Listed c) (e : Event) :
    ∃ ids : List Nat, c.reported crc32 e = ids.map some ∧ ids.Nodup ∧ ∀ id ∈ ids,
      (∃ s ∈ c.sessions, s.archiveRecorder = some id) ∧
      ∀ t ∈ (c.step crc32 e).sessions, t.archiveRecorder ≠ some id := by
  have hnone : (c.step crc32 e).finished = c.finished → ∃ ids : List Nat,
      c.reported crc32 e = ids.map some ∧ ids.Nodup ∧ ∀ id ∈ ids,
      (∃ s ∈ c.sessions, s.archiveRecorder = some id) ∧
      ∀ t ∈ (c.step crc32 e).sessions, t.archiveRecorder ≠ some id := by
    intro hsame
    refine ⟨[], ?_, List.nodup_nil, ?_⟩
    · unfold AppController.reported
      rw [hsame, List.drop_length]
      rfl
    · intro id hid
      cases hid
  by_cases he : ∃ h, e = .publishSnapshots h ∧ c.timerActive = true
  · obtain ⟨h, rfl, hactive⟩ := he
    have hpolled : c.step crc32 (.publishSnapshots h) =
        c.polled h (c.sessions.map ManagedSession.sid) := if_pos hactive
    have hattached := (@Chain.attached crc32 _ _ _ (step_leads (.publishSnapshots h) wf) wf).2
    obtain ⟨new, reporters, hreports, hfor, hsub, hall⟩ := finished_polled h wf wf.nodup
    rw [hpolled] at hattached ⊢
    have hsessions : ∀ r ∈ reporters, (c.session? r.nodeId).bind ManagedSession.archiveRecorder =
        r.archiveRecorder := by
      intro r hr
      obtain ⟨live, -⟩ := hall r hr
      cases hsession : c.session? r.nodeId with
      | none =>
        unfold AppController.session? at hsession
        have hno := List.find?_eq_none.mp hsession r live
        rw [beq_self_eq_true] at hno
        exact absurd rfl hno
      | some u =>
        obtain ⟨hu, hnode⟩ := session?_some hsession
        rw [wf.eq_of_sid hu live (listed.distinct u hu r live hnode)]
        rfl
    have hids : c.reported crc32 (.publishSnapshots h) =
        reporters.map ManagedSession.archiveRecorder := by
      unfold AppController.reported
      rw [hpolled, hreports, List.drop_left]
      clear hreports hsub
      induction hfor with
      | nil => rfl
      | cons hone _ ih =>
        obtain ⟨phase, path, rfl⟩ := hone
        rw [List.map_cons, List.map_cons]
        refine congrArg₂ _ (hsessions _ List.mem_cons_self) (ih ?_ ?_)
        · exact fun r hr => hall r (List.mem_cons_of_mem _ hr)
        · exact fun r hr => hsessions r (List.mem_cons_of_mem _ hr)
    -- different sessions have different recorders
    have hget : ∀ r ∈ reporters, ∃ id, r.archiveRecorder = some id := fun r hr =>
      Option.isSome_iff_exists.mp (hall r hr).2.1
    refine ⟨reporters.map fun r => r.archiveRecorder.getD 0, ?_, ?_, ?_⟩
    · rw [hids, List.map_map]
      refine List.map_congr_left fun r hr => ?_
      obtain ⟨id, hid⟩ := hget r hr
      rw [Function.comp_apply, hid]
      rfl
    · have hnodup : (reporters.map ManagedSession.sid).Nodup := hsub.nodup wf.nodup
      refine List.Nodup.map_on ?_ (List.Nodup.of_map _ hnodup)
      intro r hr u hu heq
      obtain ⟨id, hid⟩ := hget r hr
      obtain ⟨id', hid'⟩ := hget u hu
      rw [hid, hid'] at heq
      cases heq
      by_contra hne
      have hsid : r.sid ≠ u.sid := fun h => hne (wf.eq_of_sid (hall r hr).1 (hall u hu).1 h)
      exact wf.apart r (hall r hr).1 u (hall u hu).1 hsid _ (.inr hid) (.inr hid')
    · intro id hid
      obtain ⟨r, hr, rfl⟩ := List.mem_map.mp hid
      obtain ⟨live, -, hdetached⟩ := hall r hr
      obtain ⟨id, hid⟩ := hget r hr
      rw [hid]
      refine ⟨⟨r, live, hid⟩, ?_⟩
      intro t ht heq
      cases hattached t ht id heq with
      | inl hge => exact absurd ((wf.formed r live).lt id (.inr hid)) (not_lt.mpr hge)
      | inr hold =>
        obtain ⟨s, hs, hsid, hs'⟩ := hold
        have hsr : s.sid = r.sid := by
          by_contra hne
          exact wf.apart s hs r live hne _ (.inr hs') (.inr hid)
        rw [hdetached t ht (hsid.symm.trans hsr)] at heq
        cases heq
  · apply hnone
    cases e with
    | publishSnapshots h =>
      unfold AppController.step
      dsimp only
      rw [if_neg fun hactive => he ⟨h, rfl, hactive⟩]
    | _ => exact AppController.finished_step crc32 c (fun _ => nofun)

/-- Every event keeps the watch right. -/
lemma Tracked.step (tracked : Tracked c w) (wf : WellFormed c) (listed : Listed c) (e : Event) :
    Tracked (c.step crc32 e) (c.watchExports crc32 w e) := by
  refine ⟨fun t ht => tracked.traced_step wf e ht, ?_⟩
  obtain ⟨hnext, hattached⟩ := (step_leads e wf : Chain crc32 _ c (c.step crc32 e)).attached wf
  obtain ⟨ids, heq, hnodup, hall⟩ := tracked.reported
  obtain ⟨ids', heq', hnodup', hall'⟩ := @reported_poll crc32 c wf listed e
  refine ⟨ids ++ ids', ?_, ?_, ?_⟩
  · unfold AppController.watchExports
    rw [heq, heq', List.map_append]
  · refine List.nodup_append.mpr ⟨hnodup, hnodup', ?_⟩
    rintro id hid id' hid' rfl
    obtain ⟨s, hs, hsid⟩ := (hall' id hid').1
    exact (hall id hid).2 s hs hsid
  · intro id hid
    cases List.mem_append.mp hid with
    | inl hold =>
      obtain ⟨hlt, hfree⟩ := hall id hold
      refine ⟨hlt.trans_le hnext, ?_⟩
      intro t ht heq
      cases hattached t ht id heq with
      | inl hge => exact absurd hlt (not_lt.mpr hge)
      | inr h =>
        obtain ⟨s, hs, -, hsid⟩ := h
        exact hfree s hs hsid
    | inr hnew =>
      obtain ⟨⟨s, hs, hsid⟩, hfree⟩ := hall' id hnew
      exact ⟨((wf.formed s hs).lt id (.inr hsid)).trans_le hnext, hfree⟩

/-- There is nothing to watch at first. -/
lemma tracked_initial (aliases : List (Text × Text)) :
    Tracked (AppController.initial aliases) {} := by
  refine ⟨?_, [], rfl, List.nodup_nil, ?_⟩
  · intro s hs
    cases hs
  · intro id hid
    cases hid

/-- In every run the watch is right. -/
lemma tracked_run (crc32 : Bytes → UInt32) (aliases : List (Text × Text)) (events : List Event) :
    let x := runFrom (watched (AppController.step crc32) (AppController.watchExports crc32))
      (AppController.initial aliases, {}) events
    WellFormed x.1 ∧ Listed x.1 ∧ Tracked x.1 x.2 := by
  refine runFrom_invariant (I := fun x : AppController × ExportWatch =>
    WellFormed x.1 ∧ Listed x.1 ∧ Tracked x.1 x.2) ?_
    ⟨wellFormed_initial aliases, listed_initial aliases, tracked_initial aliases⟩ events
  rintro x e ⟨wf, listed, tracked⟩
  exact ⟨wellFormed_step crc32 e wf, listed_step e listed wf, tracked.step wf listed e⟩

end SensorHost.Presentation
