import SensorHost.Presentation.Events

/-!
# The inventory and the sessions

In every reachable state each session has its own CONNECTED entry in the inventory, and each
CONNECTED entry belongs to a session (`Listed`). An entry knows no other UUID than the one that the
connection of its session has shown. All steps keep this but those of a disconnect, which drops the
sessions and their entries together (`listed_disconnectDevice`).

Each step has a lemma that names what it does to sessions and inventory: `Listed.setSession`,
`Listed.add`, `Listed.bind`, `Listed.drop` and `Listed.forget`, and `Step.listed` puts them
together. Behind the steps of a disconnect the sessions that are still to go have their entries, and
no others (`Leaving`); the loop over them ends with no session.

`wellFormed_run` gives both invariants for every reachable state. The other modules start from it.
-/

namespace SensorHost.Presentation
open SensorHost.Lib SensorHost.Protocol SensorHost.Storage SensorHost.Acquisition SensorHost.Ota
  SensorHost.Transport

/-- The sessions and the CONNECTED entries belong together. -/
structure Listed (c : AppController) : Prop where
  listed : ∀ s ∈ c.sessions, ∃ n ∈ c.sessionIndex.nodes,
    n.nodeId = s.nodeId ∧ n.connectionState = .connected
  distinct : ∀ s ∈ c.sessions, ∀ t ∈ c.sessions, s.nodeId = t.nodeId → s.sid = t.sid
  live : ∀ n ∈ c.sessionIndex.nodes, n.connectionState = .connected →
    ∃ s ∈ c.sessions, s.nodeId = n.nodeId
  states : ∀ n ∈ c.sessionIndex.nodes, n.connectionState = .connected ∨
    n.connectionState = .reconnecting ∨ n.connectionState = .offline
  known : ∀ s ∈ c.sessions, ∀ n ∈ c.sessionIndex.nodes, n.nodeId = s.nodeId →
    n.deviceUuid = none ∨ n.deviceUuid = s.acquisition.deviceUuid

variable {crc32 : Bytes → UInt32} {c c' d : AppController} {s s' : ManagedSession}
  {R R' : Recorders} {l : SessionLabel}

/-- A device that is known stays known. -/
lemma SessionStep.deviceUuid (h : SessionStep crc32 s R l s' R') :
    s.acquisition.deviceUuid = none ∨ s'.acquisition.deviceUuid = s.acquisition.deviceUuid := by
  cases h with
  | handle running message =>
    obtain ⟨worker, transportOpen, heq, -⟩ := s.handled_eq R message
    have hlearns := s.acquisition.handleNext_learns R
    rw [heq]
    dsimp only
    cases hknown : s.acquisition.deviceUuid with
    | none => exact .inl rfl
    | some uuid =>
      rw [AcquisitionController.Learns, hknown] at hlearns
      exact .inr hlearns.known.1
  | read running handled chunk =>
    exact .inr (AcquisitionController.readChunk_field AcquisitionController.deviceUuid
      (fun _ => rfl) crc32 s.acquisition chunk)
  | _ => exact .inr rfl

/-- Writing a session back keeps the list, if what the session was called and what it knows stay. -/
lemma Listed.setSession (listed : Listed c) (wf : WellFormed c) (live : s ∈ c.sessions) (hsid : s'.sid = s.sid)
    (hnode : s'.nodeId = s.nodeId)
    (hknown : s.acquisition.deviceUuid = none ∨
      s'.acquisition.deviceUuid = s.acquisition.deviceUuid) (bound : Nat) (R : Recorders) :
    Listed ({ c with recorders := R, nextRecorder := bound }.setSession s') := by
  have hmem := fun t => AppController.mem_setSession (t := t)
    (c := { c with recorders := R, nextRecorder := bound }) live hsid
  -- each session behind the change stands for one before it
  have hback : ∀ t ∈ ({ c with recorders := R, nextRecorder := bound }.setSession s').sessions,
      ∃ u ∈ c.sessions, u.sid = t.sid ∧ u.nodeId = t.nodeId ∧
        (u.acquisition.deviceUuid = none ∨ t.acquisition.deviceUuid = u.acquisition.deviceUuid) := by
    intro t ht
    cases (hmem t).mp ht with
    | inl heq =>
      rw [heq]
      exact ⟨s, live, hsid.symm, hnode.symm, hknown⟩
    | inr h => exact ⟨t, h.1, rfl, rfl, .inr rfl⟩
  refine ⟨?_, ?_, ?_, listed.states, ?_⟩
  · intro t ht
    obtain ⟨u, hu, -, hunode, -⟩ := hback t ht
    rw [← hunode]
    exact listed.listed u hu
  · intro t ht t' ht' heq
    obtain ⟨u, hu, husid, hunode, -⟩ := hback t ht
    obtain ⟨u', hu', husid', hunode', -⟩ := hback t' ht'
    rw [← husid, ← husid']
    exact listed.distinct u hu u' hu' (hunode.trans (heq.trans hunode'.symm))
  · intro n hn hconnected
    obtain ⟨t, ht, htnode⟩ := listed.live n hn hconnected
    by_cases heq : t.sid = s.sid
    · rw [wf.eq_of_sid ht live heq] at htnode
      exact ⟨s', (hmem s').mpr (.inl rfl), hnode.trans htnode⟩
    · exact ⟨t, (hmem t).mpr (.inr ⟨ht, heq⟩), htnode⟩
  · intro t ht n hn hnode'
    obtain ⟨u, hu, -, hunode, huknown⟩ := hback t ht
    have hbefore := listed.known u hu n hn (hnode'.trans hunode.symm)
    cases huknown with
    | inl hnone =>
      rw [hnone] at hbefore
      exact .inl (hbefore.elim (fun h => h) (fun h => h))
    | inr hsame =>
      rw [hsame]
      exact hbefore

/-- The inventory and the sessions are all that counts. -/
lemma Listed.of_eq (listed : Listed c) (hsessions : c'.sessions = c.sessions)
    (hindex : c'.sessionIndex = c.sessionIndex) : Listed c' := by
  refine ⟨?_, ?_, ?_, ?_, ?_⟩
  · rw [hsessions, hindex]
    exact listed.listed
  · rw [hsessions]
    exact listed.distinct
  · rw [hsessions, hindex]
    exact listed.live
  · rw [hindex]
    exact listed.states
  · rw [hsessions, hindex]
    exact listed.known

/-- The two entries differ in names and marks only. -/
def SameEntry (n n' : NodeSummary) : Prop :=
  n.nodeId = n'.nodeId ∧ n.connectionState = n'.connectionState ∧ n.deviceUuid = n'.deviceUuid ∧
    n.transportKind = n'.transportKind

/-- Each entry stands for one that differs in names and marks only. -/
lemma entry_of_core {m m' : NodeSessionManager} (h : m'.core = m.core) {n : NodeSummary}
    (hn : n ∈ m'.nodes) : ∃ n' ∈ m.nodes, SameEntry n' n := by
  have hmem : coreEntry n ∈ m'.core.nodes := List.mem_map_of_mem hn
  rw [h] at hmem
  obtain ⟨n', hn', heq⟩ := List.mem_map.mp hmem
  refine ⟨n', hn', ?_, ?_, ?_, ?_⟩
  · exact (show (coreEntry n').nodeId = (coreEntry n).nodeId by rw [heq])
  · exact (show (coreEntry n').connectionState = (coreEntry n).connectionState by rw [heq])
  · exact (show (coreEntry n').deviceUuid = (coreEntry n).deviceUuid by rw [heq])
  · exact (show (coreEntry n').transportKind = (coreEntry n).transportKind by rw [heq])

/-- A change outside the core keeps them together. -/
lemma Listed.outside (listed : Listed c) (h : Outside c c') : Listed c' := by
  have hsessions := h.field AppController.sessions fun _ => rfl
  have hcore : c'.sessionIndex.core = c.sessionIndex.core :=
    congrArg AppController.sessionIndex h.core
  refine ⟨?_, ?_, ?_, ?_, ?_⟩
  · rw [hsessions]
    intro t ht
    obtain ⟨n, hn, hnode, hconnected⟩ := listed.listed t ht
    obtain ⟨n', hn', hsame⟩ := entry_of_core hcore.symm hn
    exact ⟨n', hn', hsame.1.trans hnode, hsame.2.1.trans hconnected⟩
  · rw [hsessions]
    exact listed.distinct
  · rw [hsessions]
    intro n hn hconnected
    obtain ⟨n', hn', hsame⟩ := entry_of_core hcore hn
    obtain ⟨t, ht, htnode⟩ := listed.live n' hn' (hsame.2.1.trans hconnected)
    exact ⟨t, ht, htnode.trans hsame.1⟩
  · intro n hn
    obtain ⟨n', hn', hsame⟩ := entry_of_core hcore hn
    rw [← hsame.2.1]
    exact listed.states n' hn'
  · rw [hsessions]
    intro t ht n hn hnode
    obtain ⟨n', hn', hsame⟩ := entry_of_core hcore hn
    rw [← hsame.2.2.1]
    exact listed.known t ht n' hn' (hsame.1.trans hnode)

/-- A session that is added has its entry. -/
lemma Listed.add (listed : Listed c) {sessionIndex : NodeSessionManager} {nodeId peer : Text}
    {kind : TransportKind}
    (accepted : c.sessionIndex.addSession nodeId kind peer = .ok sessionIndex) :
    Listed { c with
      sessionIndex := sessionIndex
      sessions := c.sessions ++
        [AppController.newSession c.nextSession nodeId peer kind c.recordingActive]
      nextSession := c.nextSession + 1 } := by
  obtain ⟨hfresh, rfl⟩ := NodeSessionManager.addSession_ok accepted
  -- no session was called so, as its entry would have been there
  have hnew : ∀ t ∈ c.sessions, t.nodeId ≠ nodeId := by
    intro t ht heq
    obtain ⟨n, hn, hnode, -⟩ := listed.listed t ht
    exact hfresh n hn (hnode.trans heq)
  refine ⟨?_, ?_, ?_, ?_, ?_⟩
  · intro t ht
    cases List.mem_append.mp ht with
    | inl h =>
      obtain ⟨n, hn, hentry⟩ := listed.listed t h
      exact ⟨n, List.mem_append_left _ hn, hentry⟩
    | inr h =>
      rw [List.mem_singleton.mp h]
      exact ⟨_, List.mem_append_right _ (List.mem_singleton_self _), rfl, rfl⟩
  · intro t ht u hu heq
    cases List.mem_append.mp ht with
    | inl h =>
      cases List.mem_append.mp hu with
      | inl h' => exact listed.distinct t h u h' heq
      | inr h' =>
        rw [List.mem_singleton.mp h'] at heq
        exact absurd heq (hnew t h)
    | inr h =>
      cases List.mem_append.mp hu with
      | inl h' =>
        rw [List.mem_singleton.mp h] at heq
        exact absurd heq.symm (hnew u h')
      | inr h' => rw [List.mem_singleton.mp h, List.mem_singleton.mp h']
  · intro n hn hconnected
    cases List.mem_append.mp hn with
    | inl h =>
      obtain ⟨t, ht, htnode⟩ := listed.live n h hconnected
      exact ⟨t, List.mem_append_left _ ht, htnode⟩
    | inr h =>
      rw [List.mem_singleton.mp h]
      exact ⟨_, List.mem_append_right _ (List.mem_singleton_self _), rfl⟩
  · intro n hn
    cases List.mem_append.mp hn with
    | inl h => exact listed.states n h
    | inr h =>
      rw [List.mem_singleton.mp h]
      exact .inl rfl
  · intro t ht n hn hnode
    cases List.mem_append.mp ht with
    | inl h =>
      cases List.mem_append.mp hn with
      | inl h' => exact listed.known t h n h' hnode
      | inr h' =>
        rw [List.mem_singleton.mp h']
        exact .inl rfl
    | inr h =>
      rw [List.mem_singleton.mp h] at hnode
      cases List.mem_append.mp hn with
      | inl h' => exact absurd hnode (hfresh n h')
      | inr h' =>
        rw [List.mem_singleton.mp h']
        exact .inl rfl

/-- A session that is bound keeps its entry, and another one with the UUID has no session. -/
lemma Listed.bind (listed : Listed c) (wf : WellFormed c) {sessionIndex : NodeSessionManager}
    {uuid : Uuid} (live : s ∈ c.sessions) (seen : s.acquisition.deviceUuid = some uuid)
    (accepted : c.sessionIndex.bindIdentity s.nodeId uuid = .ok sessionIndex) :
    Listed { c with sessionIndex := sessionIndex } := by
  obtain ⟨-, -, -, -, halone, -⟩ := NodeSessionManager.bindIdentity_ok accepted
  obtain ⟨current, aliasName, hcurrent, hid, hmem⟩ := NodeSessionManager.mem_bindIdentity accepted
  -- the entry of a session stays, or is the one that takes the UUID
  have hkept : ∀ n ∈ c.sessionIndex.nodes, n.nodeId ≠ s.nodeId → n.connectionState = .connected →
      n ∈ sessionIndex.nodes := by
    intro n hn hne hconnected
    exact (hmem n).mpr (.inr ⟨hn, hne, fun huuid => halone n hn hne huuid hconnected⟩)
  refine ⟨?_, listed.distinct, ?_, ?_, ?_⟩
  · intro t ht
    obtain ⟨n, hn, hnode, hconnected⟩ := listed.listed t ht
    by_cases heq : n.nodeId = s.nodeId
    · have hsame : n = current := wf.keyed.eq_of_nodeId hn hcurrent (heq.trans hid.symm)
      refine ⟨_, (hmem _).mpr (.inl rfl), hid.trans (heq.symm.trans hnode), ?_⟩
      exact hsame ▸ hconnected
    · exact ⟨n, hkept n hn heq hconnected, hnode, hconnected⟩
  · intro n hn hconnected
    cases (hmem n).mp hn with
    | inl heq =>
      rw [heq]
      exact ⟨s, live, hid.symm⟩
    | inr h => exact listed.live n h.1 hconnected
  · intro n hn
    cases (hmem n).mp hn with
    | inl heq =>
      rw [heq]
      exact listed.states current hcurrent
    | inr h => exact listed.states n h.1
  · intro t ht n hn hnode
    cases (hmem n).mp hn with
    | inl heq =>
      rw [heq] at hnode ⊢
      have hsame := listed.distinct t ht s live (hnode.symm.trans hid)
      rw [wf.eq_of_sid ht live hsame]
      exact .inr seen.symm
    | inr h => exact listed.known t ht n h.1 hnode

/-- A session that goes leaves no CONNECTED entry. -/
lemma Listed.drop (listed : Listed c) (wf : WellFormed c) {sessionIndex : NodeSessionManager}
    {state : ConnectionState} {reason : Option Text} (live : s ∈ c.sessions)
    (gone : state = .reconnecting ∨ state = .offline)
    (marked : c.sessionIndex.markUnavailable state s.nodeId reason = .ok sessionIndex) :
    Listed { c with
      sessionIndex := sessionIndex
      sessions := c.sessions.filter fun t => t.sid != s.sid } := by
  obtain ⟨current, hcurrent, hid, rfl⟩ := NodeSessionManager.markUnavailable_ok marked
  have hmem := fun n => NodeSessionManager.mem_setNode (t := n) (m := c.sessionIndex)
    { current with connectionState := state, isRecording := false, alert := reason } hcurrent rfl
  have hother : ∀ t ∈ c.sessions.filter (fun t => t.sid != s.sid),
      t ∈ c.sessions ∧ t.nodeId ≠ current.nodeId := by
    intro t ht
    obtain ⟨hlive, hne⟩ := List.mem_filter.mp ht
    refine ⟨hlive, fun heq => bne_iff_ne.mp hne ?_⟩
    exact listed.distinct t hlive s live (heq.trans hid)
  -- the node stays in the inventory, marked as gone
  have hgone : state ≠ .connected := by
    obtain rfl | rfl := gone
    · decide
    · decide
  refine ⟨?_, ?_, ?_, ?_, ?_⟩
  · intro t ht
    obtain ⟨hlive, hne⟩ := hother t ht
    obtain ⟨n, hn, hnode, hconnected⟩ := listed.listed t hlive
    exact ⟨n, (hmem n).mpr (.inr ⟨hn, hnode ▸ hne⟩), hnode, hconnected⟩
  · exact fun t ht u hu => listed.distinct t (hother t ht).1 u (hother u hu).1
  · intro n hn hconnected
    cases (hmem n).mp hn with
    | inl heq =>
      rw [heq] at hconnected
      exact absurd hconnected hgone
    | inr h =>
      obtain ⟨t, ht, htnode⟩ := listed.live n h.1 hconnected
      refine ⟨t, List.mem_filter.mpr ⟨ht, bne_iff_ne.mpr ?_⟩, htnode⟩
      intro heq
      rw [wf.eq_of_sid ht live heq] at htnode
      exact h.2 (htnode.symm.trans hid.symm)
  · intro n hn
    cases (hmem n).mp hn with
    | inl heq =>
      rw [heq]
      exact .inr gone
    | inr h => exact listed.states n h.1
  · intro t ht n hn hnode
    obtain ⟨hlive, hne⟩ := hother t ht
    cases (hmem n).mp hn with
    | inl heq =>
      rw [heq] at hnode
      exact absurd hnode.symm hne
    | inr h => exact listed.known t hlive n h.1 hnode

/-- An entry without a session may go. -/
lemma Listed.forget (listed : Listed c) {nodeId : Text}
    (dead : ∀ s ∈ c.sessions, s.nodeId ≠ nodeId) :
    Listed { c with sessionIndex := c.sessionIndex.remove nodeId } := by
  have hback : ∀ n ∈ (c.sessionIndex.remove nodeId).nodes, n ∈ c.sessionIndex.nodes :=
    fun n hn => (NodeSessionManager.mem_remove.mp hn).1
  refine ⟨?_, listed.distinct, ?_, ?_, ?_⟩
  · intro t ht
    obtain ⟨n, hn, hnode, hconnected⟩ := listed.listed t ht
    exact ⟨n, NodeSessionManager.mem_remove.mpr ⟨hn, hnode ▸ dead t ht⟩, hnode, hconnected⟩
  · exact fun n hn => listed.live n (hback n hn)
  · exact fun n hn => listed.states n (hback n hn)
  · exact fun t ht n hn => listed.known t ht n (hback n hn)

/-- The steps of a disconnect, which take sessions and entries away one after the other. -/
def Label.Disconnects : Label → Prop
  | .reset | .unlist => True
  | _ => False

/-- Every other step keeps sessions and entries together. -/
theorem Step.listed {l : Label} (h : Step crc32 c l c') (wf : WellFormed c) (listed : Listed c)
    (hl : ¬ l.Disconnects) : Listed c' := by
  cases h with
  | outside h => exact listed.outside h
  | session live h => exact listed.setSession wf live h.sid h.nodeId h.deviceUuid _ _
  | add nodeId peer kind accepted => exact listed.add accepted
  | bind uuid live seen accepted => exact listed.bind wf live seen accepted
  | attach path live free =>
    rename_i s
    obtain ⟨lastError, heq⟩ := s.acquisition.setRecorder_some
      (Function.update c.recorders c.nextRecorder (startedRecorder path (c.deviceUuid s.nodeId)))
      c.nextRecorder
    rw [heq]
    dsimp only
    refine listed.setSession wf live ?_ ?_ ?_ _ _
    · rfl
    · rfl
    · exact .inr rfl
  | exportAttach path startedS uuid live free bound =>
    refine listed.setSession wf live ?_ ?_ ?_ _ _
    · rfl
    · rfl
    · exact .inr rfl
  | @drop sessionIndex s state reason gone live free marked =>
    cases marked with
    | inl hmarked => exact listed.drop wf live gone hmarked
    -- a live session is listed, so marking its node cannot fail
    | inr hnone =>
      obtain ⟨n, hn, hnode, -⟩ := listed.listed s live
      exact absurd hnode ((NodeSessionManager.requireNode_error hnone.1).2 n hn)
  | forget nodeId dead => exact listed.forget dead
  -- these two happen inside `disconnectDevice` alone, which is proved as a whole
  | unlist nodeId => exact absurd trivial hl
  | reset => exact absurd trivial hl
  | recording active => exact listed.of_eq rfl rfl
  | own => exact listed.of_eq rfl rfl
  | write id outcome => exact listed.of_eq rfl rfl
  | complete nodeId path => exact listed.of_eq rfl rfl
  | reconnected nodeId detail => exact listed.of_eq rfl rfl

/-- The loop of a disconnect has these sessions before it: only they have CONNECTED entries. -/
structure Leaving (sids : List Nat) (c : AppController) : Prop where
  nodup : (c.sessions.map ManagedSession.sid).Nodup
  live : ∀ n ∈ c.sessionIndex.nodes, n.connectionState = .connected →
    ∃ s ∈ c.sessions, s.nodeId = n.nodeId ∧ s.sid ∈ sids
  states : ∀ n ∈ c.sessionIndex.nodes, n.connectionState = .connected ∨
    n.connectionState = .reconnecting ∨ n.connectionState = .offline

/-- A session that is removed has its entry marked. -/
lemma Leaving.remove {sid : Nat} {sids : List Nat} (leaving : Leaving (sid :: sids) c)
    (live : s ∈ c.sessions) (hsid : s.sid = sid) (hs : s'.sid = s.sid)
    (hsessions : d.sessions = (c.setSession s').sessions)
    (hindex : d.sessionIndex = c.sessionIndex.remove s.nodeId) : Leaving sids d := by
  have hback : ∀ n ∈ d.sessionIndex.nodes, n ∈ c.sessionIndex.nodes ∧ n.nodeId ≠ s.nodeId := by
    rw [hindex]
    exact fun n hn => NodeSessionManager.mem_remove.mp hn
  refine ⟨?_, ?_, fun n hn => leaving.states n (hback n hn).1⟩
  · rw [hsessions, AppController.setSession_sids]
    exact leaving.nodup
  · intro n hn hconnected
    obtain ⟨hn, hne⟩ := hback n hn
    obtain ⟨t, ht, htnode, htsid⟩ := leaving.live n hn hconnected
    -- it is not the session that goes, which is known by its identity
    have htne : t.sid ≠ s.sid := by
      intro heq
      rw [List.inj_on_of_nodup_map leaving.nodup ht live heq] at htnode
      exact hne htnode.symm
    refine ⟨t, ?_, htnode, ?_⟩
    · rw [hsessions]
      exact (AppController.mem_setSession live hs).mpr (.inr ⟨ht, htne⟩)
    · cases List.mem_cons.mp htsid with
      | inl heq => exact absurd (heq.trans hsid.symm) htne
      | inr h => exact h

/-- Behind the loop no session and no CONNECTED entry is left. -/
lemma Leaving.forSessions (leaving : Leaving (c.sessions.map ManagedSession.sid) c)
    {f : AppController → ManagedSession → AppController}
    (hf : ∀ d s, ∃ s', s'.sid = s.sid ∧ (f d s).sessions = (d.setSession s').sessions ∧
      (f d s).sessionIndex = d.sessionIndex.remove s.nodeId) : Leaving [] (c.forSessions f) := by
  unfold AppController.forSessions
  generalize c.sessions.map ManagedSession.sid = sids at leaving
  induction sids generalizing c with
  | nil => exact leaving
  | cons sid sids ih =>
    rw [List.foldl_cons]
    refine ih ?_
    cases hsession : c.sessionBySid? sid with
    | none =>
      refine ⟨leaving.nodup, ?_, leaving.states⟩
      intro n hn hconnected
      obtain ⟨t, ht, htnode, htsid⟩ := leaving.live n hn hconnected
      refine ⟨t, ht, htnode, ?_⟩
      cases List.mem_cons.mp htsid with
      | inl heq => exact absurd (beq_iff_eq.mpr heq) (List.find?_eq_none.mp hsession t ht)
      | inr h => exact h
    | some s =>
      obtain ⟨s', hs, hsessions, hindex⟩ := hf c s
      obtain ⟨live, hsid⟩ := sessionBySid?_some hsession
      exact leaving.remove live hsid hs hsessions hindex

/-- A disconnect leaves no session and no CONNECTED entry. -/
lemma listed_disconnectDevice (listed : Listed c) (wf : WellFormed c) (h : Host) :
    Listed (c.disconnectDevice h) := by
  unfold AppController.disconnectDevice
  dsimp only
  have hstopped := outside_stopWifiResources { c with isStopping := true } h
  have hsessions : ({ c with isStopping := true }.stopWifiResources h).sessions = c.sessions :=
    hstopped.field AppController.sessions fun _ => rfl
  have hlisted : Listed ({ c with isStopping := true }.stopWifiResources h) :=
    Listed.outside (c := { c with isStopping := true }) (listed.of_eq rfl rfl) hstopped
  generalize { c with isStopping := true }.stopWifiResources h = d at hsessions hlisted ⊢
  generalize hstop : AppController.requestOtaCancel _ = e
  have hsame : e.sessions = d.sessions ∧ e.sessionIndex = d.sessionIndex := by
    rw [← hstop]
    exact ⟨rfl, rfl⟩
  have hsids : (e.mapSessions fun s =>
      { s with stopRequested := true, transportOpen := false }).sessions.map ManagedSession.sid =
        c.sessions.map ManagedSession.sid := by
    show (e.sessions.map _).map _ = _
    rw [List.map_map, hsame.1, hsessions]
    rfl
  -- in the loop a node may be off the list while its session is there still
  have hleaving : Leaving ((e.mapSessions fun s =>
      { s with stopRequested := true, transportOpen := false }).sessions.map ManagedSession.sid)
        (e.mapSessions fun s => { s with stopRequested := true, transportOpen := false }) := by
    refine ⟨hsids ▸ wf.nodup, ?_, ?_⟩
    · intro n hn hconnected
      obtain ⟨s, hs, hnode⟩ := hlisted.live n (hsame.2 ▸ hn) hconnected
      have hmem := List.mem_map_of_mem
        (f := fun s : ManagedSession => { s with stopRequested := true, transportOpen := false })
        (hsame.1 ▸ hs : s ∈ e.sessions)
      exact ⟨_, hmem, hnode, List.mem_map_of_mem hmem⟩
    · exact fun n hn => hlisted.states n (hsame.2 ▸ hn)
  generalize e.mapSessions _ = a at hleaving ⊢
  have hgone := hleaving.forSessions (f := fun c s =>
    { ((if h.threadStops s.sid then c
      else c.raiseError ("acquisition thread for ".toList ++ s.peer ++
        " did not stop within three seconds".toList)).finalizeSessionRecorders h s) with
      sessionIndex := ((if h.threadStops s.sid then c
        else c.raiseError ("acquisition thread for ".toList ++ s.peer ++
          " did not stop within three seconds".toList)).finalizeSessionRecorders h
            s).sessionIndex.remove s.nodeId }) ?_
  · revert hgone
    generalize a.forSessions _ = b
    intro hgone
    refine Listed.outside (c := { b.teardownOtaWorker.clearOtaContext with
      sessions := []
      selectedNodeId := none
      recordingActive := false
      recordingBatchPath := none
      isStopping := false }) ?_ ?_
    · refine ⟨?_, ?_, ?_, hgone.states, ?_⟩
      · intro s hs
        cases hs
      · intro s hs
        cases hs
      · intro n hn hconnected
        obtain ⟨s, -, -, hs⟩ := hgone.live n hn hconnected
        cases hs
      · intro s hs
        cases hs
    · exact Outside.trans (outside_emitNodes _) (Outside.trans (.emit rfl) (.emit rfl))
  · intro d s
    generalize hd : (if h.threadStops s.sid = true then d else _) = d'
    have hwaited : d'.sessions = d.sessions ∧ d'.sessionIndex = d.sessionIndex := by
      rw [← hd]
      split
      · exact ⟨rfl, rfl⟩
      · exact ⟨rfl, rfl⟩
    obtain ⟨R, signals, heq⟩ := finalizeSessionRecorders_eq d' h s
    refine ⟨s.released d'.recorders, rfl, ?_, ?_⟩
    · rw [heq]
      unfold AppController.setSession
      rw [hwaited.1]
    · rw [heq]
      unfold AppController.setSession
      rw [hwaited.2]

/-- An event that neither resets nor unlists keeps them together. -/
lemma listed_labels {e : Event} (listed : Listed c) (wf : WellFormed c)
    (hreset : e.labels.contains .reset = false) (hunlist : e.labels.contains .unlist = false) :
    Listed (c.step crc32 e) := by
  refine Chain.invariant (I := Listed) ?_ (step_leads e wf) wf listed
  intro a l b wfa listeda hl hstep
  refine hstep.listed wfa listeda ?_
  intro hdisconnects
  cases l with
  | reset => exact Bool.false_ne_true (hreset.symm.trans hl)
  | unlist => exact Bool.false_ne_true (hunlist.symm.trans hl)
  | _ => exact hdisconnects

/-- A command takes no session and no entry away. -/
lemma commandLabels_keep (command : Text) : (commandLabels command).contains .reset = false ∧
    (commandLabels command).contains .unlist = false := by
  unfold commandLabels
  split
  · exact ⟨rfl, rfl⟩
  · exact ⟨rfl, rfl⟩

/-- Every event keeps sessions and entries together. -/
lemma listed_step (e : Event) (listed : Listed c) (wf : WellFormed c) :
    Listed (c.step crc32 e) := by
  cases e with
  | operation h o =>
    cases o with
    | disconnectDevice => exact listed_disconnectDevice listed wf h
    | stopWifiServer =>
      show Listed (c.stopWifiServer h)
      unfold AppController.stopWifiServer
      have hstopped := outside_stopWifiResources c h
      have hlisted := listed.outside hstopped
      have hwf : WellFormed (c.stopWifiResources h) :=
        (Step.outside hstopped : Step crc32 _ _ _).wellFormed wf
      dsimp only
      refine Listed.outside ?_ (.emit rfl)
      split
      · exact listed_disconnectDevice hlisted hwf h
      · exact hlisted
    | sendCommand command =>
      exact listed_labels listed wf (commandLabels_keep command).1 (commandLabels_keep command).2
    | sendCommandTo _ command =>
      exact listed_labels listed wf (commandLabels_keep command).1 (commandLabels_keep command).2
    | _ => exact listed_labels listed wf rfl rfl
  | _ => exact listed_labels listed wf rfl rfl

variable (crc32)

/-- Every event keeps the controller well formed. -/
lemma wellFormed_step (e : Event) (wf : WellFormed c) : WellFormed (c.step crc32 e) :=
  (step_leads e wf).wellFormed wf

/-- It is well formed at first. -/
lemma wellFormed_initial (aliases : List (Text × Text)) :
    WellFormed (AppController.initial aliases) := by
  refine ⟨List.nodup_nil, ?_, ?_, ?_, ?_⟩
  · intro s hs
    cases hs
  · intro s hs
    cases hs
  · intro s hs
    cases hs
  · exact List.nodup_nil

/-- There is no session and no entry at first. -/
lemma listed_initial (aliases : List (Text × Text)) : Listed (AppController.initial aliases) := by
  refine ⟨?_, ?_, ?_, ?_, ?_⟩
  · intro s hs
    cases hs
  · intro s hs
    cases hs
  · intro n hn
    cases hn
  · intro n hn
    cases hn
  · intro s hs
    cases hs

/-- In every reachable state the sessions are told apart, and they and the entries of the inventory
belong together. -/
theorem wellFormed_run (aliases : List (Text × Text)) (events : List Event) :
    WellFormed (AppController.run crc32 aliases events) ∧
      Listed (AppController.run crc32 aliases events) := by
  refine runFrom_invariant (I := fun c => WellFormed c ∧ Listed c) ?_
    ⟨wellFormed_initial aliases, listed_initial aliases⟩ events
  intro c e hc
  exact ⟨wellFormed_step crc32 e hc.1, listed_step e hc.2 hc.1⟩

end SensorHost.Presentation
