import SensorHost.Presentation.Changes

/-!
# Who owns the OTA

What the operations of the OTA do to its ownership, which the controller keeps in its context and each
session in its two flags. `Unblocked` is the law that an OTA that is over blocks no session. It holds
behind every part of a run exactly if each event that ends the ownership finds the sessions ready for
it (`unblocked_iff`); a session that outlives the reset of its device is not.

The first half gives each operation of the OTA a normal form: the state is as before but for what
the form names, up to signals (`Emits`). `startOtaFor_cases`, `pollSessions_split` and
`pollOtaReconnect_split` are those with loops and conditions.

`Releases` is the condition on the state and the event: where the poll ends the OTA no session has a
flag, and an outcome finds flags on no other session than its own. The lemmas about the poll and the
outcomes have an equivalence each, which is carried along a run by `Along`.
-/

namespace SensorHost.Presentation
open SensorHost.Lib SensorHost.Protocol SensorHost.Storage SensorHost.Acquisition SensorHost.Ota
  SensorHost.Transport

variable {crc32 : Bytes → UInt32} {c c' d : AppController} {s t : ManagedSession} {l : Label}

/-- Only signals are emitted. -/
def Emits (c c' : AppController) : Prop := ∃ signals, c' = { c with signals := signals }

/-- Nothing done emits nothing. -/
lemma Emits.refl (c : AppController) : Emits c c := ⟨c.signals, rfl⟩

/-- One more signal. -/
lemma Emits.emit (c : AppController) (g : Signal) : Emits c (c.emit g) := ⟨_, rfl⟩

/-- Signals are emitted one after the other. -/
lemma Emits.trans (h : Emits c c') (h' : Emits c' d) : Emits c d := by
  obtain ⟨signals, rfl⟩ := h
  obtain ⟨signals', rfl⟩ := h'
  exact ⟨signals', rfl⟩

/-- Signals change no other field. -/
lemma Emits.field {β : Type} (h : Emits c c') (get : AppController → β)
    (hget : ∀ c signals, get { c with signals := signals } = get c) : get c' = get c := by
  obtain ⟨signals, rfl⟩ := h
  exact hget c signals

/-- An error is a signal. -/
lemma emits_raiseError (c : AppController) (message : Text) : Emits c (c.raiseError message) :=
  .emit c _

/-- So is the report whether an OTA can be started. -/
lemma emits_emitOtaAvailability (c : AppController) : Emits c c.emitOtaAvailability := by
  unfold AppController.emitOtaAvailability
  split
  · exact .emit c _
  · split
    · exact .emit c _
    · split
      · exact .emit c _
      · exact .emit c _

/-- The controller behind the start of an upload. -/
def AppController.withOta (c : AppController) (s : ManagedSession) (context : OtaContext)
    (upload : OtaUpload) : AppController :=
  { c.setSession { s with otaActive := true, acquisition := s.acquisition.startOta } with
    otaNodeId := some context.nodeId
    otaContext := some context
    otaWorker := some c.nextUpload
    uploads := c.uploads ++ [upload]
    nextUpload := c.nextUpload + 1 }

/-- Starting an OTA is refused, or takes the ownership that no one had. -/
lemma startOtaFor_cases (crc32 : Bytes → UInt32) (c : AppController) (nodeId : Text)
    (package : PackageSource) :
    Emits c (c.startOtaFor crc32 nodeId package) ∨
    ∃ s ∈ c.sessions, ∃ context upload, s.nodeId = nodeId ∧ c.otaNodeId = none ∧
      Emits (c.withOta s context upload) (c.startOtaFor crc32 nodeId package) ∧
      upload.identity = c.nextUpload ∧ upload.nodeId = nodeId ∧ upload.session = s.sid ∧
      context.nodeId = nodeId ∧ context.deviceUuid = c.deviceUuid nodeId ∧
      s.archiveRecorder = none ∧ c.recordingActive = false := by
  unfold AppController.startOtaFor AppController.withSession
  cases hsession : c.session? nodeId with
  | none => exact .inl (emits_raiseError c _)
  | some s =>
    obtain ⟨live, hnode⟩ := session?_some hsession
    dsimp only
    split
    · exact .inl (Emits.trans (.emit c _) (emits_raiseError _ _))
    · split
      · exact .inl (emits_raiseError c _)
      · rename_i hfree
        split
        · exact .inl (emits_raiseError c _)
        · rename_i harchive
          split
          · exact .inl (emits_raiseError c _)
          · rename_i hrecording
            cases s.controlState with
            | none => exact .inl (emits_raiseError c _)
            | some state =>
              dsimp only
              split
              · exact .inl (emits_raiseError c _)
              · split
                · exact .inl (Emits.trans (.emit c _) (emits_raiseError _ _))
                · rename_i otaPackage _
                  -- every check is passed: the upload is the owner from here
                  right
                  generalize hd : (if state.acquisitionState = some "ACQUIRE".toList then _ else c) = d
                  have hstopping : Emits c d := by
                    rw [← hd]
                    split
                    · exact .emit c _
                    · exact .refl c
                  obtain ⟨signals, rfl⟩ := hstopping
                  refine ⟨s, live,
                    { nodeId := nodeId
                      kind := s.transportKind
                      deviceUuid := c.deviceUuid nodeId
                      deviceId := s.peer
                      version := otaPackage.versionText
                      crc := otaPackage.crcText },
                    { identity := c.nextUpload
                      nodeId := nodeId
                      session := s.sid
                      package := otaPackage.data },
                    hnode, Option.not_isSome_iff_eq_none.mp hfree, ?_, rfl, rfl, rfl, rfl, rfl,
                    Option.not_isSome_iff_eq_none.mp harchive, Bool.eq_false_iff.mpr hrecording⟩
                  obtain ⟨signals', hsignals⟩ := Emits.trans (.emit _ _)
                    (emits_emitOtaAvailability (AppController.emit _ _))
                  exact ⟨signals', hsignals⟩

/-- An upload that failed or was cancelled gives up the ownership. -/
def AppController.withoutOta (c : AppController) (nodeId : Text) : AppController :=
  (c.changeSession nodeId (AppController.endUpload false)).teardownOtaWorker.clearOtaContext

/-- An upload that failed gives up the ownership, and that is reported. -/
lemma emits_onOtaFailed (c : AppController) (nodeId code message : Text) :
    Emits (c.withoutOta nodeId) (c.onOtaFailed nodeId code message) :=
  Emits.trans (.emit _ _) (Emits.trans (emits_raiseError _ _) (emits_emitOtaAvailability _))

/-- So does one that was cancelled. -/
lemma emits_onOtaCancelled (c : AppController) (nodeId : Text) :
    Emits (c.withoutOta nodeId) (c.onOtaCancelled nodeId) :=
  Emits.trans (.emit _ _) (emits_emitOtaAvailability _)

/-- The reconnect is armed alike whatever was reported before. -/
lemma emits_armOtaReconnect (h : Host) (hc : Emits c c') :
    Emits (c.teardownOtaWorker.armOtaReconnect h) (c'.teardownOtaWorker.armOtaReconnect h) := by
  obtain ⟨signals, rfl⟩ := hc
  unfold AppController.armOtaReconnect AppController.teardownOtaWorker
  dsimp only
  cases c.otaContext with
  | none => exact ⟨signals, rfl⟩
  | some context => exact ⟨signals, rfl⟩

/-- An image that is staged arms the reconnect. -/
def AppController.withStaged (c : AppController) (h : Host) (nodeId : Text) : AppController :=
  (c.changeSession nodeId (AppController.endUpload true)).teardownOtaWorker.armOtaReconnect h

/-- An image that is staged arms the reconnect, and that is reported. -/
lemma emits_onOtaStaged (c : AppController) (h : Host) (nodeId version : Text) (crc : Option Int) :
    Emits (c.withStaged h nodeId) (c.onOtaStaged h nodeId version crc) := by
  unfold AppController.onOtaStaged AppController.withStaged
  dsimp only
  refine Emits.trans (emits_armOtaReconnect h ?_) (emits_emitOtaAvailability _)
  refine Emits.trans ?_ (.emit _ _)
  cases crc with
  | none =>
    dsimp only
    split
    · exact .emit _ _
    · exact Emits.trans (.emit _ _) (emits_raiseError _ _)
  | some crc =>
    dsimp only
    split
    · exact .emit _ _
    · exact Emits.trans (.emit _ _) (emits_raiseError _ _)

/-- The reconnect is over, and with it the OTA. -/
def AppController.withoutReconnect (c : AppController) : AppController :=
  { c with otaReconnectTimerActive := false, otaReconnect := none }.clearOtaContext

/-- The end of the reconnect gives up the ownership, and that is reported. -/
lemma emits_finishOtaReconnect (c : AppController) (status detail : String) :
    Emits c.withoutReconnect (c.finishOtaReconnect status detail) := by
  unfold AppController.finishOtaReconnect AppController.withoutReconnect
  dsimp only
  refine Emits.trans ?_ (emits_emitOtaAvailability _)
  split
  · exact Emits.trans (.emit _ _) (emits_raiseError _ _)
  · exact .emit _ _

/-- The poll takes the session for the device that came back. -/
def AppController.reconnects (c : AppController) (expected : Option Uuid) (s : ManagedSession) :
    Bool :=
  c.reconnectMatches expected s && AppController.otaOff s

/-- The label of a request for the status. -/
def Label.Asks : Label → Prop
  | .session _ (.queue .other) => True
  | _ => False

/-- The poll asks sessions for their status until it takes one. -/
lemma pollSessions_split (crc32 : Bytes → UInt32) (expected : Option Uuid) (sids : List Nat)
    (wf : WellFormed c) :
    ∃ d, Chain crc32 Label.Asks c d ∧
      ((∀ s ∈ c.sessions, s.sid ∈ sids → c.reconnects expected s = false) ∧
          c.pollSessions expected sids = d ∨
        ∃ s ∈ c.sessions, s.sid ∈ sids ∧ c.reconnects expected s = true ∧
          c.pollSessions expected sids =
            d.finishOtaReconnect "RECONNECTED" "设备已重连，OTA 状态 OFF，实时流恢复") := by
  induction sids generalizing c with
  | nil =>
    refine ⟨c, .refl, .inl ⟨?_, rfl⟩⟩
    intro s _ hs
    cases hs
  | cons sid sids ih =>
    unfold AppController.pollSessions
    cases hsession : c.sessionBySid? sid with
    | none =>
      have habsent : ∀ s ∈ c.sessions, s.sid ∈ sid :: sids → s.sid ∈ sids := by
        intro s hs hmem
        cases List.mem_cons.mp hmem with
        | inl heq => exact absurd (beq_iff_eq.mpr heq) (List.find?_eq_none.mp hsession s hs)
        | inr h => exact h
      obtain ⟨d, hchain, hd⟩ := ih wf
      refine ⟨d, hchain, ?_⟩
      cases hd with
      | inl h => exact .inl ⟨fun s hs hmem => h.1 s hs (habsent s hs hmem), h.2⟩
      | inr h =>
        obtain ⟨s, hs, hmem, h⟩ := h
        exact .inr ⟨s, hs, List.mem_cons_of_mem _ hmem, h⟩
    | some s =>
      obtain ⟨live, hsid⟩ := sessionBySid?_some hsession
      dsimp only
      -- what later sessions show does not depend on the request
      have hrest : ∀ c', Chain crc32 Label.Asks c c' → c.reconnects expected s = false →
          (∀ t ∈ c'.sessions, t.sid ≠ s.sid → t ∈ c.sessions) →
          (∀ t ∈ c.sessions, t.sid ≠ s.sid → t ∈ c'.sessions) →
          (∀ t ∈ c'.sessions, t.sid = s.sid → c'.reconnects expected t = false) →
          c'.sessionIndex = c.sessionIndex → WellFormed c' →
          ∃ d, Chain crc32 Label.Asks c d ∧
            ((∀ s ∈ c.sessions, s.sid ∈ sid :: sids → c.reconnects expected s = false) ∧
                c'.pollSessions expected sids = d ∨
              ∃ s ∈ c.sessions, s.sid ∈ sid :: sids ∧ c.reconnects expected s = true ∧
                c'.pollSessions expected sids =
                  d.finishOtaReconnect "RECONNECTED" "设备已重连，OTA 状态 OFF，实时流恢复") := by
        intro c' hchain hoff hback hforth hsame hindex wf'
        have hmatches : ∀ t, c'.reconnects expected t = c.reconnects expected t := by
          intro t
          unfold AppController.reconnects AppController.reconnectMatches
          rw [hindex]
        obtain ⟨d, hchain', hd⟩ := ih wf'
        refine ⟨d, Relation.ReflTransGen.trans hchain hchain', ?_⟩
        cases hd with
        | inl h =>
          refine .inl ⟨?_, h.2⟩
          intro t ht hmem
          by_cases heq : t.sid = s.sid
          · rw [wf.eq_of_sid ht live heq]
            exact hoff
          · rw [← hmatches]
            refine h.1 t (hforth t ht heq) ?_
            cases List.mem_cons.mp hmem with
            | inl h => exact absurd (h.trans hsid.symm) heq
            | inr h => exact h
        | inr h =>
          obtain ⟨t, ht, hmem, hon, hfinish⟩ := h
          have hne : t.sid ≠ s.sid := by
            intro heq
            rw [hsame t ht heq] at hon
            cases hon
          rw [hmatches] at hon
          exact .inr ⟨t, hback t ht hne, List.mem_cons_of_mem _ hmem, hon, hfinish⟩
      split
      · rename_i hmatch
        have hasked : Chain crc32 Label.Asks c (c.setAcquisition s s.acquisition.requestStatus) :=
          leads_queueCommand live (k := .other) (by decide +kernel) trivial wf
        split
        · rename_i hoff
          refine ⟨_, hasked, .inr ⟨s, live, hsid ▸ List.mem_cons_self, ?_, rfl⟩⟩
          unfold AppController.reconnects
          rw [hmatch, hoff]
          rfl
        · rename_i hon
          have hoff : c.reconnects expected s = false := by
            unfold AppController.reconnects
            rw [Bool.eq_false_iff.mpr hon, Bool.and_false]
          have hmem : ∀ t, t ∈ (c.setAcquisition s s.acquisition.requestStatus).sessions ↔
              t = { s with acquisition := s.acquisition.requestStatus } ∨
                t ∈ c.sessions ∧ t.sid ≠ s.sid :=
            fun _ => AppController.mem_setSession live rfl
          refine hrest _ hasked hoff ?_ ?_ ?_ rfl (hasked.wellFormed wf)
          · intro t ht hne
            cases (hmem t).mp ht with
            | inl heq => exact absurd (heq ▸ rfl) hne
            | inr h => exact h.1
          · exact fun t ht hne => (hmem t).mpr (.inr ⟨ht, hne⟩)
          · intro t ht heq
            cases (hmem t).mp ht with
            | inl heq =>
              rw [heq]
              exact hoff
            | inr h => exact absurd heq h.2
      · rename_i hother
        have hoff : c.reconnects expected s = false := by
          unfold AppController.reconnects
          rw [Bool.eq_false_iff.mpr hother, Bool.false_and]
        refine hrest c .refl hoff (fun t ht _ => ht) (fun t ht _ => ht) ?_ rfl wf
        intro t ht heq
        rw [wf.eq_of_sid ht live heq]
        exact hoff

/-- A port that is opened again is a session that has received nothing. -/
lemma attemptOtaCdcReopen_sessions (h : Host) (deviceId : Text) (wf : WellFormed c) :
    ∀ s ∈ (c.attemptOtaCdcReopen h deviceId).sessions, s ∈ c.sessions ∨ s.controlState = none := by
  have hleads : Chain (fun _ => 0) (fun l => l = .outside ∨ l = .add) c
      (c.attemptOtaCdcReopen h deviceId) :=
    leads_attemptOtaCdcReopen h deviceId (.inl rfl) (.inr rfl) wf
  refine hleads.sessions (I := fun s => s ∈ c.sessions ∨ s.controlState = none) wf ?_ ?_
    fun s hs => .inl hs
  · intro _ sid nodeId peer kind recordingActive
    cases recordingActive with
    | true => exact .inr rfl
    | false => exact .inr rfl
  · intro a l s t _ _ hl hchange hs
    obtain rfl | rfl := hl
    · cases hchange with
      | same => exact hs
      | session hl _ => cases hl
      | attach hl _ _ => cases hl
      | exportAttach hl _ _ _ _ => cases hl
    · cases hchange with
      | same => exact hs
      | session hl _ => cases hl
      | attach hl _ _ => cases hl
      | exportAttach hl _ _ _ _ => cases hl

/-- The labels of the reconnect poll before it ends the OTA. -/
def Label.Polls (l : Label) : Prop := l = .outside ∨ l = .add ∨ l.Asks

/-- What a label of the reconnect poll is not. -/
lemma Label.Polls.not {l : Label} (hout : l ≠ .outside) (hadd : l ≠ .add) (hask : ¬ l.Asks) :
    ¬ l.Polls := by
  intro hl
  obtain hl | hl | hl := hl
  · exact hout hl
  · exact hadd hl
  · exact hask hl

/-- The reconnect poll comes to its end late, or with a session that it takes for the device; else it
leaves the ownership alone. -/
lemma pollOtaReconnect_split (crc32 : Bytes → UInt32) (h : Host) (wf : WellFormed c)
    {info : OtaReconnect} (hinfo : c.otaReconnect = some info) :
    (info.deadlineS < h.now ∧ c.pollOtaReconnect h =
      c.finishOtaReconnect "RECONNECT_TIMEOUT" "设备复位后未在预期时间内重连") ∨
    ¬ info.deadlineS < h.now ∧ ∃ d, Chain crc32 Label.Polls c d ∧
      ((∀ s ∈ c.sessions, c.reconnects info.deviceUuid s = false) ∧ c.pollOtaReconnect h = d ∨
        ∃ s ∈ c.sessions, c.reconnects info.deviceUuid s = true ∧ c.pollOtaReconnect h =
          d.finishOtaReconnect "RECONNECTED" "设备已重连，OTA 状态 OFF，实时流恢复") := by
  unfold AppController.pollOtaReconnect
  rw [hinfo]
  dsimp only
  split
  · rename_i hlate
    exact .inl ⟨hlate, rfl⟩
  · rename_i hlate
    refine .inr ⟨hlate, ?_⟩
    have hasks : ∀ l : Label, l.Asks → l.Polls := fun l hl => .inr (.inr hl)
    by_cases hreopen : info.kind = .cdc ∧ c.sessions = []
    · rw [if_pos hreopen]
      have hopened : Chain crc32 Label.Polls c (c.attemptOtaCdcReopen h info.deviceId) :=
        leads_attemptOtaCdcReopen h info.deviceId (.inl rfl) (.inr (.inl rfl)) wf
      have hnone := attemptOtaCdcReopen_sessions h info.deviceId wf
      generalize c.attemptOtaCdcReopen h info.deviceId = c' at hopened hnone ⊢
      obtain ⟨d, hchain, hd⟩ := pollSessions_split crc32 info.deviceUuid
        (c'.sessions.map ManagedSession.sid) (hopened.wellFormed wf)
      have hempty : ∀ s ∈ c.sessions, c.reconnects info.deviceUuid s = false := by
        rw [hreopen.2]
        intro s hs
        cases hs
      refine ⟨d, Relation.ReflTransGen.trans hopened (hchain.mono hasks), .inl ⟨hempty, ?_⟩⟩
      cases hd with
      | inl h => exact h.2
      | inr h =>
        -- a session that was just added has shown nothing yet
        obtain ⟨s, hs, -, hon, -⟩ := h
        cases hnone s hs with
        | inl h =>
          rw [hreopen.2] at h
          cases h
        | inr h =>
          unfold AppController.reconnects AppController.otaOff at hon
          rw [h, Option.any_none, Bool.and_false] at hon
          cases hon
    · rw [if_neg hreopen]
      obtain ⟨d, hchain, hd⟩ := pollSessions_split crc32 info.deviceUuid
        (c.sessions.map ManagedSession.sid) wf
      refine ⟨d, hchain.mono hasks, ?_⟩
      cases hd with
      | inl h => exact .inl ⟨fun s hs => h.1 s hs (List.mem_map_of_mem hs), h.2⟩
      | inr h =>
        obtain ⟨s, hs, -, h⟩ := h
        exact .inr ⟨s, hs, h⟩

/-- Where the controller keeps the ownership. -/
def AppController.ownership (c : AppController) :
    Option OtaReconnect × Option Text × Option Nat × Option OtaContext :=
  (c.otaReconnect, c.otaNodeId, c.otaWorker, c.otaContext)

/-- Only one step touches the ownership. -/
lemma Step.ownership (h : Step crc32 c l c') (hl : l ≠ .own) : c'.ownership = c.ownership := by
  cases h with
  | outside h => exact h.field AppController.ownership fun _ => rfl
  | own => exact absurd rfl hl
  | _ => rfl

/-- Only its own steps change the ownership. -/
lemma Chain.ownership {P : Label → Prop} (h : Chain crc32 P c c') (hP : ¬ P .own) :
    c'.ownership = c.ownership := by
  induction h with
  | refl => rfl
  | tail _ hstep ih =>
    obtain ⟨l, hl, hstep⟩ := hstep
    exact (hstep.ownership fun heq => hP (heq ▸ hl)).trans ih

/-- A disconnect gives up the ownership. -/
lemma disconnectDevice_ownership (c : AppController) (h : Host) :
    (c.disconnectDevice h).ownership = (none, none, none, none) := by
  unfold AppController.disconnectDevice
  dsimp only
  generalize hd : AppController.mapSessions _ _ = d
  have hreconnect : d.otaReconnect = none := by
    rw [← hd]
    rfl
  refine ((outside_emitNodes _).field AppController.ownership fun _ => rfl).trans (Prod.ext ?_ rfl)
  refine (forSessions_field AppController.otaReconnect ?_ d).trans hreconnect
  -- the loop over the sessions has nothing to do with the OTA
  intro a s
  generalize he : (if h.threadStops s.sid = true then a else _) = e
  have hwaited : e.otaReconnect = a.otaReconnect := by
    rw [← he]
    split
    · rfl
    · rfl
  obtain ⟨R, signals, heq⟩ := finalizeSessionRecorders_eq e h s
  rw [heq]
  exact hwaited

/-- `ota_active_node`. -/
def AppController.otaActiveNode (c : AppController) : Option Text := c.otaNodeId

/-- The flags by which the operations take a session for one that is being flashed. -/
def ManagedSession.flashing (s : ManagedSession) : Bool := s.otaActive || s.otaAwaitingRestart

/-- Only the start and the end of an upload change the flags of a session. -/
lemma Change.flags (h : Change crc32 c l s t) (hstart : l ≠ .session s.sid .otaStart)
    (hend : l ≠ .session s.sid .otaEnd) :
    t.otaActive = s.otaActive ∧ t.otaAwaitingRestart = s.otaAwaitingRestart := by
  cases h with
  | session hl h =>
    cases h with
    | otaStart => exact absurd hl hstart
    | otaEnd awaiting => exact absurd hl hend
    | handle running message =>
      obtain ⟨worker, transportOpen, heq, -⟩ := s.handled_eq c.recorders message
      rw [heq]
      exact ⟨rfl, rfl⟩
    | _ => exact ⟨rfl, rfl⟩
  | _ => exact ⟨rfl, rfl⟩

/-- An OTA that is over blocks no session. -/
def AppController.Unblocked (c : AppController) : Prop :=
  c.otaActiveNode = none → ∀ s ∈ c.sessions, s.flashing = false

instance (c : AppController) : Decidable c.Unblocked :=
  inferInstanceAs (Decidable (_ → _))

/-- A session that is not blocked starts its acquisition when asked to. -/
lemma AppController.Unblocked.startAcquisitionFor (h : c.Unblocked) (hover : c.otaActiveNode = none)
    {nodeId : Text} (hsession : c.session? nodeId = some s) :
    c.startAcquisitionFor nodeId = c.setAcquisition s s.acquisition.startAcquisition := by
  have hfree := h hover s (session?_some hsession).1
  unfold AppController.startAcquisitionFor AppController.withSession
  rw [hsession]
  exact if_neg (Bool.eq_false_iff.mp hfree)

/-- The reconnect poll ends the OTA: it is late, or it takes a session for the device. -/
def AppController.pollEnds (c : AppController) (h : Host) : Bool :=
  c.otaReconnectTimerActive && c.otaReconnect.any fun info =>
    decide (info.deadlineS < h.now) || c.sessions.any (c.reconnects info.deviceUuid)

/-- An event that ends the OTA, or marks a session for its restart, finds the flags as it needs
them. -/
def AppController.Releases (c : AppController) : Event → Prop
  | .pollOtaReconnect h => c.pollEnds h = true → ∀ s ∈ c.sessions, s.flashing = false
  | .otaOutcome _ upload (.staged _ _) => ∀ u, c.upload? upload = some u → c.otaNodeId = none →
      ∀ s ∈ c.sessions, s.nodeId ≠ u.nodeId
  | .otaOutcome _ upload _ => ∀ u, c.upload? upload = some u → ∀ s ∈ c.sessions,
      s.otaAwaitingRestart = false ∧ (s.otaActive = true → s.nodeId = u.nodeId)
  | _ => True

section Chains

variable {P : Label → Prop} (hstart : ∀ sid, ¬ P (.session sid .otaStart))
  (hend : ∀ sid, ¬ P (.session sid .otaEnd))

include hstart hend in
/-- Steps that neither start nor end an upload keep the flags. -/
lemma Change.flashing (h : Change crc32 c l s t) (hl : P l) : t.flashing = s.flashing := by
  have hflags := h.flags (fun heq => hstart _ (heq ▸ hl)) (fun heq => hend _ (heq ▸ hl))
  rw [ManagedSession.flashing, hflags.1, hflags.2]
  rfl

include hstart hend in
/-- Without a start of an upload no session is flashed. -/
lemma Chain.flashing (h : Chain crc32 P c c') (wf : WellFormed c)
    (hc : ∀ s ∈ c.sessions, s.flashing = false) : ∀ s ∈ c'.sessions, s.flashing = false := by
  refine h.sessions (I := fun s => s.flashing = false) wf ?_ ?_ hc
  · intro _ sid nodeId peer kind recordingActive
    rfl
  · intro a l s t _ _ hl hchange hs
    exact (hchange.flashing hstart hend hl).trans hs

include hstart hend in
/-- A chain without steps of the OTA does not change who is blocked. -/
lemma Chain.unblocked (h : Chain crc32 P c c') (wf : WellFormed c) (hown : ¬ P .own)
    (hc : c.Unblocked) : c'.Unblocked := by
  have hnode : c'.otaNodeId = c.otaNodeId := congrArg (fun o => o.2.1) (h.ownership hown)
  intro hover
  rw [AppController.otaActiveNode, hnode] at hover
  exact h.flashing hstart hend wf (hc hover)

end Chains

/-- An event without steps of the OTA does not change who is blocked. -/
lemma unblocked_labels {e : Event} (wf : WellFormed c) (hown : e.labels.contains .own = false)
    (hstart : e.labels.contains (.session 0 .otaStart) = false)
    (hend : e.labels.contains (.session 0 .otaEnd) = false) (hc : c.Unblocked) :
    (c.step crc32 e).Unblocked := by
  refine Chain.unblocked ?_ ?_ (step_leads e wf) wf ?_ hc
  · exact fun sid h => Bool.false_ne_true (hstart.symm.trans h)
  · exact fun sid h => Bool.false_ne_true (hend.symm.trans h)
  · exact fun h => Bool.false_ne_true (hown.symm.trans h)

/-- `start_ota_for` blocks no session that no OTA owns. -/
lemma unblocked_startOtaFor (nodeId : Text) (package : PackageSource) (hc : c.Unblocked) :
    (c.startOtaFor crc32 nodeId package).Unblocked := by
  cases startOtaFor_cases crc32 c nodeId package with
  | inl h =>
    obtain ⟨signals, heq⟩ := h
    rw [heq]
    exact hc
  | inr h =>
    obtain ⟨s, -, context, upload, -, -, hemits, -⟩ := h
    intro hover
    have htaken := hemits.field AppController.otaNodeId fun _ _ => rfl
    have hsome : (c.withOta s context upload).otaNodeId = some context.nodeId := rfl
    rw [AppController.otaActiveNode, htaken, hsome] at hover
    cases hover

/-- The session of the node, if there is one, behind the change. -/
lemma changeSession_cases (c : AppController) (nodeId : Text) (f : ManagedSession → ManagedSession) :
    (c.changeSession nodeId f = c ∧ ∀ s ∈ c.sessions, s.nodeId ≠ nodeId) ∨
      ∃ s ∈ c.sessions, s.nodeId = nodeId ∧ c.changeSession nodeId f = c.setSession (f s) := by
  unfold AppController.changeSession
  cases hsession : c.session? nodeId with
  | none =>
    refine .inl ⟨rfl, ?_⟩
    intro s hs heq
    exact List.find?_eq_none.mp hsession s hs (beq_iff_eq.mpr heq)
  | some s =>
    obtain ⟨live, hnode⟩ := session?_some hsession
    exact .inr ⟨s, live, hnode, rfl⟩

/-- An upload that failed or was cancelled leaves no flag exactly if only its node has one, and is
not about to restart. -/
lemma unblocked_withoutOta (wf : WellFormed c) (listed : Listed c) (nodeId : Text) :
    (c.withoutOta nodeId).Unblocked ↔ ∀ s ∈ c.sessions,
      s.otaAwaitingRestart = false ∧ (s.otaActive = true → s.nodeId = nodeId) := by
  have hover : (c.withoutOta nodeId).Unblocked ↔
      ∀ s ∈ (c.changeSession nodeId (AppController.endUpload false)).sessions, s.flashing = false :=
    ⟨fun h => h rfl, fun h _ => h⟩
  have hflags : ∀ s : ManagedSession, s.flashing = false ↔
      s.otaActive = false ∧ s.otaAwaitingRestart = false := fun s => Bool.or_eq_false_iff
  rw [hover]
  cases changeSession_cases c nodeId (AppController.endUpload false) with
  | inl h =>
    rw [h.1]
    constructor
    · intro hall s hs
      have hfree := (hflags s).mp (hall s hs)
      refine ⟨hfree.2, ?_⟩
      rw [hfree.1]
      intro h
      cases h
    · intro hall s hs
      refine (hflags s).mpr ⟨Bool.eq_false_iff.mpr fun hactive => ?_, (hall s hs).1⟩
      exact h.2 s hs ((hall s hs).2 hactive)
  | inr h =>
    obtain ⟨s, live, hnode, heq⟩ := h
    have hmem : ∀ t, t ∈ (c.setSession (AppController.endUpload false s)).sessions ↔
        t = AppController.endUpload false s ∨ t ∈ c.sessions ∧ t.sid ≠ s.sid :=
      fun _ => AppController.mem_setSession live rfl
    rw [heq]
    constructor
    · intro hall t ht
      by_cases hsid : t.sid = s.sid
      · rw [wf.eq_of_sid ht live hsid]
        have hfree := (hflags _).mp (hall _ ((hmem _).mpr (.inl rfl)))
        exact ⟨hfree.2, fun _ => hnode⟩
      · have hfree := (hflags t).mp (hall t ((hmem t).mpr (.inr ⟨ht, hsid⟩)))
        refine ⟨hfree.2, ?_⟩
        rw [hfree.1]
        intro h
        cases h
    · intro hall t ht
      cases (hmem t).mp ht with
      | inl heq =>
        rw [heq]
        exact (hflags _).mpr ⟨rfl, (hall s live).1⟩
      | inr h =>
        refine (hflags t).mpr ⟨Bool.eq_false_iff.mpr fun hactive => ?_, (hall t h.1).1⟩
        -- no two live sessions share a node
        exact h.2 (listed.distinct t h.1 s live (((hall t h.1).2 hactive).trans hnode.symm))

/-- A staged image marks a session only while the OTA has an owner, or there is none to mark. -/
lemma unblocked_withStaged (h : Host) (nodeId : Text) (hc : c.Unblocked) :
    (c.withStaged h nodeId).Unblocked ↔
      (c.otaNodeId = none → ∀ s ∈ c.sessions, s.nodeId ≠ nodeId) := by
  have harm : ∀ d : AppController, (d.teardownOtaWorker.armOtaReconnect h).Unblocked ↔
      (d.otaNodeId = none → ∀ s ∈ d.sessions, s.flashing = false) := by
    intro d
    unfold AppController.teardownOtaWorker AppController.armOtaReconnect
    cases d.otaContext with
    | none => exact .rfl
    | some context => exact .rfl
  unfold AppController.withStaged
  rw [harm]
  cases changeSession_cases c nodeId (AppController.endUpload true) with
  | inl h =>
    rw [h.1]
    exact ⟨fun _ _ => h.2, fun _ => hc⟩
  | inr h =>
    obtain ⟨s, live, hnode, heq⟩ := h
    rw [heq]
    constructor
    · intro hall hover
      have hmarked := hall hover _ (AppController.mem_setSession_self live rfl)
      have hflashing : (AppController.endUpload true s).flashing = true := rfl
      rw [hflashing] at hmarked
      cases hmarked
    · intro hall hover
      exact absurd hnode (hall hover s live)

/-- Signals block nothing. -/
lemma Emits.unblocked (h : Emits c c') : c'.Unblocked ↔ c.Unblocked := by
  obtain ⟨signals, rfl⟩ := h
  exact .rfl

/-- The signals of an upload block no session exactly if they find the flags as they need them. -/
lemma unblocked_onOtaOutcome (wf : WellFormed c) (listed : Listed c) (h : Host) (upload : Nat)
    (outcome : OtaOutcome) (hc : c.Unblocked) :
    (c.onOtaOutcome h upload outcome).Unblocked ↔ c.Releases (.otaOutcome h upload outcome) := by
  unfold AppController.onOtaOutcome
  cases hupload : c.upload? upload with
  | none =>
    have hnone : ∀ u, c.upload? upload ≠ some u := by
      intro u hu
      rw [hupload] at hu
      cases hu
    refine iff_of_true hc ?_
    cases outcome with
    | staged version crc => exact fun u hu => absurd hu (hnone u)
    | failed code message => exact fun u hu => absurd hu (hnone u)
    | cancelled => exact fun u hu => absurd hu (hnone u)
  | some u =>
    have hone : ∀ {Q : OtaUpload → Prop}, (∀ u, c.upload? upload = some u → Q u) ↔ Q u := by
      intro Q
      rw [hupload]
      constructor
      · exact fun h => h u rfl
      · intro h v hv
        cases hv
        exact h
    dsimp only
    generalize hd : ({ c with uploads := _ } : AppController) = d
    have hsessions : d.sessions = c.sessions := by rw [← hd]
    have hnode : d.otaNodeId = c.otaNodeId := by rw [← hd]
    have wfd : WellFormed d := by
      rw [← hd]
      exact wf.of_sessions rfl le_rfl le_rfl (fun _ => rfl) wf.keyed
    have listedd : Listed d := by
      rw [← hd]
      exact listed.of_eq rfl rfl
    have hcd : d.Unblocked := by
      rw [← hd]
      exact hc
    cases outcome with
    | staged version crc =>
      rw [AppController.Releases, hone, (emits_onOtaStaged d h u.nodeId version crc).unblocked,
        unblocked_withStaged h u.nodeId hcd, hsessions, hnode]
    | failed code message =>
      rw [AppController.Releases, hone, (emits_onOtaFailed d u.nodeId code message).unblocked,
        unblocked_withoutOta wfd listedd, hsessions]
      exact nofun
    | cancelled =>
      rw [AppController.Releases, hone, (emits_onOtaCancelled d u.nodeId).unblocked,
        unblocked_withoutOta wfd listedd, hsessions]
      exact nofun

/-- The end of the reconnect blocks none exactly if no flag is left. -/
lemma unblocked_pollOtaReconnect (wf : WellFormed c) (h : Host) (hc : c.Unblocked)
    (htimer : c.otaReconnectTimerActive = true) :
    (c.pollOtaReconnect h).Unblocked ↔
      (c.pollEnds h = true → ∀ s ∈ c.sessions, s.flashing = false) := by
  have hends : c.pollEnds h = c.otaReconnect.any fun info =>
      decide (info.deadlineS < h.now) || c.sessions.any (c.reconnects info.deviceUuid) := by
    unfold AppController.pollEnds
    rw [htimer, Bool.true_and]
  have hfinish : ∀ (d : AppController) (status detail : String),
      (d.finishOtaReconnect status detail).Unblocked ↔ ∀ s ∈ d.sessions, s.flashing = false := by
    intro d status detail
    obtain ⟨signals, heq⟩ := emits_finishOtaReconnect d status detail
    rw [heq]
    exact ⟨fun h => h rfl, fun h _ => h⟩
  cases hinfo : c.otaReconnect with
  | none =>
    rw [hends, hinfo]
    unfold AppController.pollOtaReconnect
    rw [hinfo]
    refine ⟨?_, fun _ => hc⟩
    intro _ h
    cases h
  | some info =>
    rw [hends, hinfo, Option.any_some]
    cases pollOtaReconnect_split zlibCrc32 h wf hinfo with
    -- past the deadline the wait is given up, whatever the devices say
    | inl hlate =>
      rw [hlate.2, hfinish, decide_eq_true hlate.1, Bool.true_or]
      exact ⟨fun h _ => h, fun h => h rfl⟩
    | inr hpoll =>
      obtain ⟨hlate, d, hchain, hd⟩ := hpoll
      have hstart := fun sid => Label.Polls.not (l := .session sid .otaStart) nofun nofun id
      have hend := fun sid => Label.Polls.not (l := .session sid .otaEnd) nofun nofun id
      rw [decide_eq_false hlate, Bool.false_or, List.any_eq_true]
      cases hd with
      | inl hnone =>
        rw [hnone.2]
        constructor
        · intro _ hsome
          obtain ⟨s, hs, hon⟩ := hsome
          exact absurd ((hnone.1 s hs).symm.trans hon) Bool.false_ne_true
        · intro _
          -- asking the devices neither starts nor ends an upload
          exact hchain.unblocked hstart hend wf (Label.Polls.not nofun nofun id) hc
      | inr hsome =>
        obtain ⟨s, hs, hon, heq⟩ := hsome
        rw [heq, hfinish]
        constructor
        · intro hall _ t ht
          obtain ⟨u, hu, -, hsame⟩ := hchain.session_kept
            (I := fun u => u.flashing = t.flashing) wf
            (fun sid => Label.Polls.not nofun nofun id) (Label.Polls.not nofun nofun id)
            (fun a l u v _ _ hl hchange hu => (hchange.flashing hstart hend hl).trans hu) ht rfl
          exact hsame.symm.trans (hall u hu)
        · intro hall
          exact hchain.flashing hstart hend wf (hall ⟨s, hs, hon⟩)

/-- An OTA that is over blocks no session, behind every part of a run, exactly if each event of the
run that ends the OTA, or marks a session for its restart, finds the flags as it needs them. -/
theorem unblocked_iff (crc32 : Bytes → UInt32) (aliases : List (Text × Text))
    (events : List Event) :
    (∀ n, (AppController.run crc32 aliases (events.take n)).Unblocked) ↔
      Along (AppController.step crc32) AppController.Releases (AppController.initial aliases)
        events := by
  refine Along.throughout_iff (I := fun c => WellFormed c ∧ Listed c) ?_ ?_
    ⟨wellFormed_initial aliases, listed_initial aliases⟩ ?_ events
  · intro c e hc
    exact ⟨wellFormed_step crc32 e hc.1, listed_step e hc.2 hc.1⟩
  · intro c e hc hq
    have hlabels := fun hown hstart hend =>
      @unblocked_labels crc32 c e hc.1 hown hstart hend hq
    have hempty : ∀ {d : AppController}, d.sessions = [] → d.Unblocked := by
      intro d hd _
      rw [hd]
      intro s hs
      cases hs
    have hcommand : ∀ command : Text, (commandLabels command).contains .own = false ∧
        (commandLabels command).contains (.session 0 .otaStart) = false ∧
          (commandLabels command).contains (.session 0 .otaEnd) = false := by
      intro command
      unfold commandLabels
      split
      · exact ⟨rfl, rfl, rfl⟩
      · exact ⟨rfl, rfl, rfl⟩
    cases e with
    | operation h o =>
      -- no operation frees the owner while a session is flashing still
      refine iff_of_true ?_ trivial
      cases o with
      | startOtaFor nodeId package => exact unblocked_startOtaFor nodeId package hq
      | disconnectDevice => exact hempty (disconnectDevice_sessions c h)
      | stopWifiServer => exact hempty (stopWifiServer_sessions c h)
      | sendCommand command =>
        obtain ⟨hown, hstart, hend⟩ := hcommand command
        exact hlabels hown hstart hend
      | sendCommandTo nodeId command =>
        obtain ⟨hown, hstart, hend⟩ := hcommand command
        exact hlabels hown hstart hend
      | _ => exact hlabels rfl rfl rfl
    | pollOtaReconnect h =>
      show (if c.otaReconnectTimerActive then c.pollOtaReconnect h else c).Unblocked ↔ _
      cases htimer : c.otaReconnectTimerActive with
      | true => exact unblocked_pollOtaReconnect hc.1 h hq htimer
      -- with its timer off the poll does not run
      | false =>
        refine iff_of_true hq ?_
        intro hends
        unfold AppController.pollEnds at hends
        rw [htimer, Bool.false_and] at hends
        cases hends
    | otaOutcome h upload outcome =>
      exact unblocked_onOtaOutcome hc.1 hc.2 h upload outcome hq
    | _ => exact iff_of_true (hlabels rfl rfl rfl) trivial
  · intro _ s hs
    cases hs

/-- A package of version 1.2.0, as `pack_ota` makes it. -/
def samplePackage : OtaPackage :=
  let data := (packOta zlibCrc32 [1, 2, 3, 4, 5, 6, 7, 8] (.fields [1, 2, 0]) (.fields [1, 0, 0]) 1
    (List.replicate 12 7)).toOption.getD []
  { data, manifest := Manifest.unpack data }

/-- The events by which an upload to the first gateway starts. -/
def Event.firstUpload : List Event :=
  [.operation {} (.startWifiServer "0.0.0.0:9000".toList)] ++ Event.gatewayReady 0 ++
    [.operation {} (.startOtaFor "wifi-1".toList (.prepared samplePackage))]

/-- A Wi-Fi session that outlives the reset of its device: the poll takes it for the device that came
back and ends the OTA, but the session stays marked for its restart. -/
theorem unblocked_survivor :
    ¬ (AppController.run zlibCrc32 []
      (Event.firstUpload ++
        [.otaOutcome {} 0 (.staged "1.2.0".toList (some 0)), .pollOtaReconnect {}])).Unblocked := by
  decide +kernel

end SensorHost.Presentation
