import SensorHost.Acquisition.Sessions

/-!
# The entries of the inventory

What each operation of `NodeSessionManager` does to the entries: which there are behind it
(`mem_setNode` and the like), and that node ids stay distinct (`Keyed`), as the keys of a dictionary
are. Names and marks decide nothing, so an entry counts up to `coreEntry`.

The lemmas are about the list of entries, as the operations of `NodeSessionManager` are. `core` of
an inventory leaves out what decides nothing, and an operation on names or marks keeps it
(`Keyed.setAlias_core`, `Keyed.setRecording_core`), so that invariants about connected nodes pass
over these operations in one step.
-/

namespace SensorHost.Acquisition
open SensorHost.Lib SensorHost.Protocol

/-- The part of an entry that decides something. -/
def coreEntry (n : NodeSummary) : NodeSummary :=
  { n with peer := [], aliasName := [], isRecording := false, alert := none }

namespace NodeSessionManager

/-- The inventory without names and marks. -/
def core (m : NodeSessionManager) : NodeSessionManager :=
  { m with aliases := [], nodes := m.nodes.map coreEntry }

/-- The node ids are distinct. -/
def Keyed (m : NodeSessionManager) : Prop := (m.nodes.map NodeSummary.nodeId).Nodup

variable {m m' : NodeSessionManager} {nodeId : Text} {n : NodeSummary}

/-- An entry is known by its node id. -/
lemma Keyed.eq_of_nodeId (keyed : m.Keyed) {n n' : NodeSummary} (hn : n ∈ m.nodes)
    (hn' : n' ∈ m.nodes) (h : n.nodeId = n'.nodeId) : n = n' :=
  List.inj_on_of_nodup_map keyed hn hn' h

/-- Equal cores have the same keys. -/
lemma nodeIds_core (m : NodeSessionManager) :
    m.core.nodes.map NodeSummary.nodeId = m.nodes.map NodeSummary.nodeId := by
  unfold core
  rw [List.map_map]
  exact List.map_congr_left fun _ _ => rfl

/-- The ids are in the core. -/
lemma Keyed.of_core (keyed : m.Keyed) (h : m'.core = m.core) : m'.Keyed := by
  unfold Keyed
  rw [← nodeIds_core, h, nodeIds_core]
  exact keyed

/-- A node that is found is there. -/
lemma requireNode_ok (h : m.requireNode nodeId = .ok n) : n ∈ m.nodes ∧ n.nodeId = nodeId := by
  unfold requireNode at h
  split at h
  · rename_i found hfind
    cases h
    have hid := List.find?_some hfind
    exact ⟨List.mem_of_find?_eq_some hfind, beq_iff_eq.mp hid⟩
  · cases h

/-- A node that is there is found. -/
lemma Keyed.requireNode (keyed : m.Keyed) (h : n ∈ m.nodes) :
    m.requireNode n.nodeId = .ok n := by
  cases hfind : m.requireNode n.nodeId with
  | ok found =>
    obtain ⟨hfound, heq⟩ := requireNode_ok hfind
    rw [keyed.eq_of_nodeId hfound h heq]
  | error error =>
    unfold NodeSessionManager.requireNode at hfind
    split at hfind
    · cases hfind
    · rename_i hnone
      exact absurd (List.find?_eq_none.mp hnone n h) (by rw [beq_self_eq_true]; exact fun h => h rfl)

/-- A node that is not found is unknown. -/
lemma requireNode_error {error : SessionError} (h : m.requireNode nodeId = .error error) :
    error = .unknownNode nodeId ∧ ∀ n ∈ m.nodes, n.nodeId ≠ nodeId := by
  unfold requireNode at h
  split at h
  · cases h
  · rename_i hnone
    cases h
    refine ⟨rfl, ?_⟩
    intro n hn heq
    exact List.find?_eq_none.mp hnone n hn (beq_iff_eq.mpr heq)

/-- An entry that is set takes the place of the one with its id. -/
lemma mem_setNode (updated : NodeSummary) (current : n ∈ m.nodes)
    (hid : n.nodeId = updated.nodeId) {t : NodeSummary} :
    t ∈ (m.setNode updated).nodes ↔ t = updated ∨ t ∈ m.nodes ∧ t.nodeId ≠ updated.nodeId := by
  unfold setNode
  rw [List.mem_map]
  constructor
  · intro h
    obtain ⟨u, hu, heq⟩ := h
    split at heq
    · exact .inl heq.symm
    · rename_i hne
      rw [← heq]
      exact .inr ⟨hu, hne⟩
  · intro h
    cases h with
    | inl heq => exact ⟨n, current, by rw [if_pos hid, heq]⟩
    | inr h => exact ⟨t, h.1, if_neg h.2⟩

/-- The ids stay. -/
lemma setNode_nodeIds (m : NodeSessionManager) (updated : NodeSummary) :
    (m.setNode updated).nodes.map NodeSummary.nodeId = m.nodes.map NodeSummary.nodeId := by
  unfold setNode
  rw [List.map_map]
  refine List.map_congr_left ?_
  intro u _
  rw [Function.comp_apply]
  split
  · rename_i heq
    exact heq.symm
  · rfl

/-- They stay distinct. -/
lemma Keyed.setNode (keyed : m.Keyed) (updated : NodeSummary) : (m.setNode updated).Keyed := by
  unfold Keyed
  rw [setNode_nodeIds]
  exact keyed

/-- A new name or mark leaves the core alone. -/
lemma Keyed.setNode_core (keyed : m.Keyed) (updated : NodeSummary) (current : n ∈ m.nodes)
    (h : coreEntry updated = coreEntry n) : (m.setNode updated).core = m.core := by
  have hid : (coreEntry updated).nodeId = (coreEntry n).nodeId := by rw [h]
  unfold NodeSessionManager.setNode core
  dsimp only
  congr 1
  rw [List.map_map]
  refine List.map_congr_left ?_
  intro u hu
  rw [Function.comp_apply]
  split
  · rename_i heq
    rw [h, keyed.eq_of_nodeId hu current (heq.trans hid)]
  · rfl

/-- A session that is added is a new entry at the end. -/
lemma addSession_ok {kind : TransportKind} {peer : Text}
    (h : m.addSession nodeId kind peer = .ok m') :
    (∀ n ∈ m.nodes, n.nodeId ≠ nodeId) ∧
      m' = { m with
        nodes := m.nodes ++ [{
          nodeId := nodeId
          transportKind := kind
          peer := peer
          connectionState := .connected
          aliasName := peer }] } := by
  unfold addSession at h
  split at h
  · cases h
  · split at h
    · cases h
    · split at h
      · cases h
      · rename_i hnone
        cases h
        refine ⟨?_, rfl⟩
        intro n hn heq
        exact hnone (List.any_eq_true.mpr ⟨n, hn, beq_iff_eq.mpr heq⟩)

/-- A node is added if it has a name, there is room, and its name is free. -/
lemma addSession_free {kind : TransportKind} {peer : Text} (hid : nodeId ≠ []) (hpeer : peer ≠ [])
    (hroom : (m.nodes.countP fun n => n.connectionState == .connected) < m.maximumSessions)
    (hfree : ∀ n ∈ m.nodes, n.nodeId ≠ nodeId) :
    ∃ m', m.addSession nodeId kind peer = .ok m' := by
  have hany : (m.nodes.any fun n => n.nodeId == nodeId) = false := by
    rw [List.any_eq_false]
    intro n hn heq
    exact hfree n hn (beq_iff_eq.mp heq)
  unfold addSession
  rw [if_neg (not_or.mpr ⟨hid, hpeer⟩), if_neg (not_le.mpr hroom), hany]
  exact ⟨_, rfl⟩

/-- Its id is a new one. -/
lemma Keyed.addSession {kind : TransportKind} {peer : Text} (keyed : m.Keyed)
    (h : m.addSession nodeId kind peer = .ok m') : m'.Keyed := by
  obtain ⟨hfresh, rfl⟩ := addSession_ok h
  unfold Keyed
  rw [List.map_append, List.nodup_append]
  refine ⟨keyed, List.nodup_singleton _, ?_⟩
  intro a ha b hb heq
  obtain ⟨n, hn, rfl⟩ := List.mem_map.mp ha
  rw [List.map_singleton, List.mem_singleton] at hb
  exact hfresh n hn (heq.trans hb)

/-- Binding needs the node, and no other node online with the UUID; the entry of the node takes the
UUID, and the other entries with it go. -/
lemma bindIdentity_ok {uuid : Uuid} (h : m.bindIdentity nodeId uuid = .ok m') :
    ∃ current aliasName, current ∈ m.nodes ∧ current.nodeId = nodeId ∧
      (∀ n ∈ m.nodes, n.nodeId ≠ nodeId → n.deviceUuid = some uuid →
        n.connectionState ≠ .connected) ∧
      m' = { m with nodes := m.nodes.filter fun n =>
          !(n.nodeId != nodeId && n.deviceUuid == some uuid) }.setNode
        { current with deviceUuid := some uuid, aliasName := aliasName } := by
  unfold bindIdentity at h
  cases hcurrent : m.requireNode nodeId with
  | error error =>
    rw [hcurrent] at h
    cases h
  | ok current =>
    rw [hcurrent] at h
    obtain ⟨hmem, hid⟩ := requireNode_ok hcurrent
    dsimp only [bind, Except.bind] at h
    split at h
    · cases h
    · rename_i hnone
      cases h
      refine ⟨current, _, hmem, hid, ?_, rfl⟩
      intro n hn hne huuid hconnected
      refine hnone (List.any_eq_true.mpr ⟨n, hn, ?_⟩)
      rw [huuid, hconnected, bne_iff_ne.mpr hne, beq_self_eq_true, beq_self_eq_true]
      rfl

/-- An entry that is bound has the UUID, and the other entries with it go. -/
lemma mem_bindIdentity {uuid : Uuid} (h : m.bindIdentity nodeId uuid = .ok m') :
    ∃ current aliasName, current ∈ m.nodes ∧ current.nodeId = nodeId ∧
      ∀ t, t ∈ m'.nodes ↔ t = { current with deviceUuid := some uuid, aliasName := aliasName } ∨
        t ∈ m.nodes ∧ t.nodeId ≠ nodeId ∧ t.deviceUuid ≠ some uuid := by
  obtain ⟨current, aliasName, hmem, hid, -, rfl⟩ := bindIdentity_ok h
  refine ⟨current, aliasName, hmem, hid, ?_⟩
  intro t
  have hkept : current ∈ m.nodes.filter fun n =>
      !(n.nodeId != nodeId && n.deviceUuid == some uuid) := by
    rw [List.mem_filter, hid, bne_self_eq_false]
    exact ⟨hmem, rfl⟩
  rw [mem_setNode (m := { m with nodes := m.nodes.filter fun n =>
    !(n.nodeId != nodeId && n.deviceUuid == some uuid) })
    { current with deviceUuid := some uuid, aliasName := aliasName } hkept rfl]
  refine or_congr_right ?_
  dsimp only
  rw [List.mem_filter, hid, Bool.not_eq_true', Bool.and_eq_false_iff, bne_eq_false_iff_eq,
    beq_eq_false_iff_ne]
  constructor
  · intro ht
    cases ht.1.2 with
    | inl heq => exact absurd heq ht.2
    | inr hne => exact ⟨ht.1.1, ht.2, hne⟩
  · exact fun ht => ⟨⟨ht.1, .inr ht.2.2⟩, ht.2.1⟩

/-- The ids stay distinct. -/
lemma Keyed.bindIdentity {uuid : Uuid} (keyed : m.Keyed)
    (h : m.bindIdentity nodeId uuid = .ok m') : m'.Keyed := by
  obtain ⟨current, aliasName, -, -, -, rfl⟩ := bindIdentity_ok h
  refine Keyed.setNode ?_ _
  exact List.Nodup.sublist (List.filter_sublist.map _) keyed

/-- An entry that is marked has the new state. -/
lemma markUnavailable_ok {state : ConnectionState} {reason : Option Text}
    (h : m.markUnavailable state nodeId reason = .ok m') :
    ∃ current, current ∈ m.nodes ∧ current.nodeId = nodeId ∧
      m' = m.setNode
        { current with connectionState := state, isRecording := false, alert := reason } := by
  unfold markUnavailable at h
  cases hcurrent : m.requireNode nodeId with
  | error error =>
    rw [hcurrent] at h
    cases h
  | ok current =>
    rw [hcurrent] at h
    obtain ⟨hmem, hid⟩ := requireNode_ok hcurrent
    cases h
    exact ⟨current, hmem, hid, rfl⟩

/-- The ids stay distinct. -/
lemma Keyed.markUnavailable {state : ConnectionState} {reason : Option Text} (keyed : m.Keyed)
    (h : m.markUnavailable state nodeId reason = .ok m') : m'.Keyed := by
  obtain ⟨current, -, -, rfl⟩ := markUnavailable_ok h
  exact keyed.setNode _

/-- An entry that is removed goes. -/
lemma mem_remove {t : NodeSummary} :
    t ∈ (m.remove nodeId).nodes ↔ t ∈ m.nodes ∧ t.nodeId ≠ nodeId := by
  unfold remove
  rw [List.mem_filter, bne_iff_ne]

/-- The ids stay distinct. -/
lemma Keyed.remove (keyed : m.Keyed) (nodeId : Text) : (m.remove nodeId).Keyed :=
  List.Nodup.sublist (List.filter_sublist.map _) keyed

/-- The mark of a recording decides nothing. -/
lemma Keyed.setRecording_core {isRecording : Bool} (keyed : m.Keyed)
    (h : m.setRecording nodeId isRecording = .ok m') : m'.core = m.core := by
  unfold NodeSessionManager.setRecording at h
  cases hcurrent : m.requireNode nodeId with
  | error error =>
    rw [hcurrent] at h
    cases h
  | ok current =>
    rw [hcurrent] at h
    cases h
    exact keyed.setNode_core _ (requireNode_ok hcurrent).1 rfl

/-- Nor does a name. -/
lemma Keyed.setAlias_core {name : Text} {summary : NodeSummary} (keyed : m.Keyed)
    (h : m.setAlias nodeId name = .ok (m', summary)) : m'.core = m.core := by
  unfold NodeSessionManager.setAlias at h
  dsimp only at h
  split at h
  · cases h
  · cases hcurrent : m.requireNode nodeId with
    | error error =>
      rw [hcurrent] at h
      cases h
    | ok current =>
      rw [hcurrent] at h
      have hcore := keyed.setNode_core { current with aliasName := strip name }
        (requireNode_ok hcurrent).1 rfl
      dsimp only [bind, Except.bind] at h
      split at h
      · cases h
        exact hcore
      · cases h
        exact hcore

end NodeSessionManager

end SensorHost.Acquisition
