import SensorHost.Acquisition.Registry
import SensorHost.Presentation.Listed
import SensorHost.Presentation.Routed

/-!
# The live sessions and the selection

The sessions are all Wi-Fi or one CDC, and a node is selected exactly while there is a session, which
it then names (`Routing.Selects`). Every rule of the routing keeps this, and so does a client that is
handed over directly. The inventory has at most as many CONNECTED nodes as it may
(`NodeSessionManager.Bounded`), through every step.

`Selects` is proved about the rules (`Routing.Moves.selects`) and for the two ways in which a client
comes (`Routing.Admits.selects`, `Routing.Accepts.selects`). Most of the argument is in the end of a
session, behind which the selection moves to another session if there is one.

The theorem about all reachable states is `sessions_consistent`, by induction on the run with the
four invariants together; its parts are read off them.
-/

namespace SensorHost.Presentation
open SensorHost.Lib SensorHost.Protocol SensorHost.Storage SensorHost.Acquisition SensorHost.Ota
  SensorHost.Transport

/-- The sessions of one kind, and the selected one. -/
structure Routing.Selects (r : Routing) : Prop where
  kinds : (∀ i ∈ r.identities, i.2.2.2 = .wifi) ∨ ∃ i, r.identities = [i] ∧ i.2.2.2 = .cdc
  free : r.selectedNodeId = none ↔ r.identities = []
  live : ∀ nodeId, r.selectedNodeId = some nodeId → ∃ i ∈ r.identities, i.2.1 = nodeId

variable {crc32 : Bytes → UInt32} {c c' : AppController} {r r' : Routing} {l : Label}

/-- Who the sessions are and which is selected are all that counts. -/
lemma Routing.Selects.of_eq (selects : r.Selects) (hids : r'.identities = r.identities)
    (hselected : r'.selectedNodeId = r.selectedNodeId) : r'.Selects := by
  refine ⟨?_, ?_, ?_⟩
  · rw [hids]
    exact selects.kinds
  · rw [hids, hselected]
    exact selects.free
  · rw [hids, hselected]
    exact selects.live

/-- A session that is added is selected, or another one was. -/
lemma Routing.Selects.add (selects : r.Selects) {nodeId peer : Text} {kind : TransportKind}
    (hkinds : (∀ i ∈ r.identities, i.2.2.2 = .wifi) ∧ kind = .wifi ∨
      r.identities = [] ∧ kind = .cdc) : (r.add nodeId peer kind).Selects := by
  refine ⟨?_, ?_, ?_⟩
  · cases hkinds with
    | inl h =>
      refine .inl fun i hi => ?_
      cases List.mem_append.mp hi with
      | inl hold => exact h.1 i hold
      | inr hnew =>
        rw [List.mem_singleton.mp hnew]
        exact h.2
    | inr h =>
      refine .inr ⟨(r.nextSession, nodeId, peer, kind), ?_, h.2⟩
      show r.identities ++ [(r.nextSession, nodeId, peer, kind)] = _
      rw [h.1, List.nil_append]
  · constructor
    · intro hnone
      have hor : r.selectedNodeId.or (some nodeId) = none := hnone
      exact absurd (Option.or_eq_none_iff.mp hor).2 (Option.some_ne_none nodeId)
    · intro hnil
      exact absurd hnil (List.append_ne_nil_of_right_ne_nil _ (List.cons_ne_nil _ _))
  · intro selected hselected
    have hor : r.selectedNodeId.or (some nodeId) = some selected := hselected
    cases hbefore : r.selectedNodeId with
    | some before =>
      rw [hbefore] at hor
      cases hor
      obtain ⟨i, hi, hname⟩ := selects.live selected hbefore
      exact ⟨i, List.mem_append_left _ hi, hname⟩
    | none =>
      rw [hbefore] at hor
      cases hor
      exact ⟨_, List.mem_append_right _ (List.mem_singleton_self _), rfl⟩

/-- A client that is admitted keeps the selection. -/
lemma Routing.Selects.admits (selects : r.Selects) {client : AcceptedGatewayClient}
    (admits : r.Admits client r') : r'.Selects := by
  cases admits with
  | refused => exact selects.of_eq rfl rfl
  | admitted wifi => exact selects.add (.inl ⟨wifi, rfl⟩)

/-- The first of the other sessions takes the place of a session that ends. -/
lemma Routing.Selects.finish (selects : r.Selects) (apart : (r.identities.map Prod.fst).Nodup)
    {i : Nat × Text × Text × TransportKind} (live : i ∈ r.identities) : (r.finish i).Selects := by
  have hids : (r.finish i).identities = r.identities.filter fun j => j.1 != i.1 := rfl
  have hfreed : (if i.2.2.2 = .wifi then r.release i.2.1 else r).selectedNodeId =
      r.selectedNodeId := by
    split
    · rfl
    · rfl
  have hselected : (r.finish i).selectedNodeId = if r.selectedNodeId = some i.2.1 then
      (r.identities.filter fun j => j.1 != i.1).head?.map fun j => j.2.1 else r.selectedNodeId := by
    rw [← hfreed]
    rfl
  -- another session that is selected stays
  have hkept : r.selectedNodeId ≠ some i.2.1 → ∀ nodeId, r.selectedNodeId = some nodeId →
      ∃ j ∈ r.identities.filter (fun j => j.1 != i.1), j.2.1 = nodeId := by
    intro hother nodeId hnode
    obtain ⟨j, hj, hname⟩ := selects.live nodeId hnode
    refine ⟨j, List.mem_filter.mpr ⟨hj, bne_iff_ne.mpr ?_⟩, hname⟩
    intro heq
    rw [List.inj_on_of_nodup_map apart hj live heq] at hname
    exact hother (hnode.trans (congrArg some hname.symm))
  refine ⟨?_, ?_, ?_⟩
  · rw [hids]
    left
    intro j hj
    obtain ⟨hmem, hne⟩ := List.mem_filter.mp hj
    cases selects.kinds with
    | inl hwifi => exact hwifi j hmem
    | inr hcdc =>
      obtain ⟨k, hone, -⟩ := hcdc
      rw [hone] at hmem live
      rw [List.mem_singleton.mp hmem, List.mem_singleton.mp live] at hne
      exact absurd rfl (bne_iff_ne.mp hne)
  · rw [hids, hselected]
    split
    · rw [Option.map_eq_none_iff, List.head?_eq_none_iff]
    · rename_i hother
      constructor
      · intro hnone
        have hnil := selects.free.mp hnone
        rw [hnil] at live
        exact absurd live List.not_mem_nil
      · intro hnil
        cases hselected' : r.selectedNodeId with
        | none => rfl
        | some nodeId =>
          obtain ⟨j, hj, -⟩ := hkept hother nodeId hselected'
          rw [hnil] at hj
          exact absurd hj List.not_mem_nil
  · rw [hids, hselected]
    intro nodeId hnode
    split at hnode
    · obtain ⟨j, hhead, hname⟩ := Option.map_eq_some_iff.mp hnode
      exact ⟨j, List.mem_of_mem_head? hhead, hname⟩
    · rename_i hother
      exact hkept hother nodeId hnode

/-- Every rule keeps the selection. -/
lemma Routing.Moves.selects (moves : r.Moves r') (selects : r.Selects)
    (apart : (r.identities.map Prod.fst).Nodup) : r'.Selects := by
  cases moves with
  | stay => exact selects
  | listen idle stopped => exact selects.of_eq rfl rfl
  | unlisten idle => exact selects.of_eq rfl rfl
  | disconnect =>
    refine ⟨?_, ?_, ?_⟩
    · exact .inl fun i hi => absurd hi List.not_mem_nil
    · exact ⟨fun _ => rfl, fun _ => rfl⟩
    · intro nodeId hnode
      cases hnode
  | cdc nodeId peer idle => exact selects.add (.inr ⟨idle, rfl⟩)
  | select nodeId live =>
    refine ⟨selects.kinds, ?_, ?_⟩
    · constructor
      · intro hnone
        cases hnone
      · intro hnil
        obtain ⟨i, hi, -⟩ := live
        have hempty : r.identities = [] := hnil
        rw [hempty] at hi
        exact absurd hi List.not_mem_nil
    · intro selected hselected
      cases hselected
      exact live
  | fail => exact selects.of_eq rfl rfl
  | finish i live => exact selects.finish apart live

/-- So does an envelope that is taken. -/
lemma Routing.Delivers.selects (delivers : r.Delivers r') (selects : r.Selects) : r'.Selects := by
  cases delivers with
  | none empty => exact selects
  | drop queued stale => exact selects.of_eq rfl rfl
  | @deliver envelope rest _ queued current admits =>
    have hdequeued : { r with envelopes := rest }.Selects := selects.of_eq rfl rfl
    exact hdequeued.admits admits

/-- So does a peer that reaches the listener. -/
lemma Routing.Accepts.selects {peer : Text} (accepts : r.Accepts peer r') (selects : r.Selects) :
    r'.Selects := by
  cases accepts with
  | none => exact selects
  | accepted listener current => exact selects.of_eq rfl rfl

/-- So does every event. -/
lemma selects_step (crc32 : Bytes → UInt32) (e : Event) (wf : WellFormed c)
    (selects : c.routing.Selects) : (c.step crc32 e).routing.Selects := by
  by_cases he : e.Clients
  · cases e with
    | operation h o =>
      cases o with
      | acceptGatewayClient client => exact selects.admits (admits_acceptGatewayClient client)
      | _ => exact he.elim
    | gatewayEnvelope => exact delivers_gatewayEnvelope.selects selects
    | acceptSocket peer => exact (accepts_acceptSocket peer).selects selects
    | _ => exact he.elim
  · exact (step_moves crc32 he wf.nodup).selects selects (c.routing_sids ▸ wf.nodup)

/-- The inventory may have so many CONNECTED nodes, and has no more. -/
def Bounded (m : NodeSessionManager) : Prop :=
  m.maximumSessions = maximumWifiSessions ∧
    (m.nodes.countP fun n => n.connectionState == .connected) ≤ maximumWifiSessions

/-- CONNECTED nodes are counted in the core. -/
lemma countP_core (m : NodeSessionManager) :
    (m.core.nodes.countP fun n => n.connectionState == .connected) =
      m.nodes.countP fun n => n.connectionState == .connected := List.countP_map

/-- The bound is about the core. -/
lemma Bounded.of_core {m m' : NodeSessionManager} (bounded : Bounded m) (h : m'.core = m.core) :
    Bounded m' := by
  obtain ⟨hmaximum, hcount⟩ := bounded
  refine ⟨?_, ?_⟩
  · have hsame : m'.core.maximumSessions = m.core.maximumSessions := by rw [h]
    exact hsame.trans hmaximum
  · rw [← countP_core, h, countP_core]
    exact hcount

/-- An entry that goes keeps the bound. -/
lemma Bounded.remove {m : NodeSessionManager} (bounded : Bounded m) (nodeId : Text) :
    Bounded (m.remove nodeId) :=
  ⟨bounded.1, (List.filter_sublist.countP_le).trans bounded.2⟩

/-- Every step keeps the bound, those of a disconnect too. -/
lemma Step.bounded (h : Step crc32 c l c') (wf : WellFormed c) (bounded : Bounded c.sessionIndex) :
    Bounded c'.sessionIndex := by
  cases h with
  | outside h => exact bounded.of_core (congrArg AppController.sessionIndex h.core)
  | add nodeId peer kind accepted =>
    have hcount := NodeSessionManager.countP_addSession_le accepted
    rw [bounded.1] at hcount
    obtain ⟨-, rfl⟩ := NodeSessionManager.addSession_ok accepted
    exact ⟨bounded.1, hcount⟩
  | bind uuid live seen accepted =>
    have hcount := NodeSessionManager.countP_bindIdentity_le wf.keyed accepted
    obtain ⟨current, aliasName, -, -, -, rfl⟩ := NodeSessionManager.bindIdentity_ok accepted
    exact ⟨bounded.1, hcount.trans bounded.2⟩
  | attach path live free => exact bounded
  | @drop sessionIndex s state reason gone live free marked =>
    cases marked with
    | inl hmarked =>
      have hstate : state ≠ .connected := by
        obtain rfl | rfl := gone
        · exact ConnectionState.noConfusion
        · exact ConnectionState.noConfusion
      have hcount := NodeSessionManager.countP_markUnavailable_le wf.keyed hstate hmarked
      obtain ⟨current, -, -, rfl⟩ := NodeSessionManager.markUnavailable_ok hmarked
      exact ⟨bounded.1, hcount.trans bounded.2⟩
    | inr hnone => exact hnone.2 ▸ bounded
  | forget nodeId dead => exact bounded.remove nodeId
  | unlist nodeId => exact bounded.remove nodeId
  | _ => exact bounded

/-- So does every event. -/
lemma bounded_step (e : Event) (wf : WellFormed c) (bounded : Bounded c.sessionIndex) :
    Bounded (c.step crc32 e).sessionIndex := by
  refine Chain.invariant (I := fun c => Bounded c.sessionIndex) ?_ (step_leads e wf) wf bounded
  intro a l b wfa boundeda _ hstep
  exact hstep.bounded wfa boundeda

/-- In every reachable state, whatever happens and in whatever order: the sessions are all Wi-Fi or
one CDC, each has its CONNECTED entry, no more nodes are CONNECTED than may be, and a node is selected
exactly while there is a session, which is then the one that commands reach. -/
theorem sessions_consistent (crc32 : Bytes → UInt32) (aliases : List (Text × Text))
    (events : List Event) :
    let c := AppController.run crc32 aliases events
    ((∀ s ∈ c.sessions, s.transportKind = .wifi) ∨
      ∃ s, c.sessions = [s] ∧ s.transportKind = .cdc) ∧
    (∀ s ∈ c.sessions, ∃ n, c.sessionIndex.summary s.nodeId = .ok n ∧
      n.connectionState = .connected) ∧
    (c.sessionIndex.nodes.countP fun n => n.connectionState == .connected) ≤ 16 ∧
    (c.selectedNodeId = none ↔ c.sessions = []) ∧
    ∀ nodeId, c.selectedNodeId = some nodeId →
      ∃ s ∈ c.sessions, c.selectedSession = some s ∧ s.nodeId = nodeId := by
  intro c
  obtain ⟨⟨wf, listed⟩, selects, bounded⟩ : (WellFormed c ∧ Listed c) ∧ c.routing.Selects ∧
      Bounded c.sessionIndex := by
    refine runFrom_invariant (I := fun c => (WellFormed c ∧ Listed c) ∧ c.routing.Selects ∧
      Bounded c.sessionIndex) ?_ ?_ events
    · intro d e hd
      obtain ⟨⟨wf, listed⟩, selects, bounded⟩ := hd
      exact ⟨⟨wellFormed_step crc32 e wf, listed_step e listed wf⟩,
        selects_step crc32 e wf selects, bounded_step e wf bounded⟩
    · refine ⟨⟨wellFormed_initial aliases, listed_initial aliases⟩, ⟨?_, ?_, ?_⟩, rfl, ?_⟩
      · exact .inl fun i hi => absurd hi List.not_mem_nil
      · exact ⟨fun _ => rfl, fun _ => rfl⟩
      · intro nodeId hnode
        cases hnode
      · exact Nat.zero_le _
  refine ⟨?_, ?_, bounded.2, ?_, ?_⟩
  · cases selects.kinds with
    | inl hwifi => exact .inl fun s hs => hwifi s.identity (List.mem_map_of_mem hs)
    | inr hcdc =>
      obtain ⟨i, hone, hkind⟩ := hcdc
      obtain ⟨s, hs, rfl⟩ := List.map_eq_singleton_iff.mp hone
      exact .inr ⟨s, hs, hkind⟩
  · intro s hs
    obtain ⟨n, hn, hnode, hconnected⟩ := listed.listed s hs
    exact ⟨n, hnode ▸ wf.keyed.requireNode hn, hconnected⟩
  · exact selects.free.trans List.map_eq_nil_iff
  · intro nodeId hselected
    obtain ⟨i, hi, hname⟩ := selects.live nodeId hselected
    obtain ⟨t, ht, rfl⟩ := List.mem_map.mp hi
    cases hsession : c.session? nodeId with
    | none => exact absurd (beq_iff_eq.mpr hname) (List.find?_eq_none.mp hsession t ht)
    | some s =>
      obtain ⟨live, hnode⟩ := session?_some hsession
      refine ⟨s, live, ?_, hnode⟩
      unfold AppController.selectedSession
      rw [hselected]
      exact hsession

end SensorHost.Presentation
