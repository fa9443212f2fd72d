import SensorHost.Presentation.Listed
import SensorHost.Presentation.Routed

/-!
# The slots of the listener

A slot of the current listener is held by a Wi-Fi session, or by a client on its way to the GUI thread
(`Routing.Slotted`). Every rule of the routing keeps this account.

`wifiNodes` are the names of the sessions and `inFlight` those of the clients on the way, and the
occupants of the listener are the two together, up to their order. A client that is accepted adds
one to the way, an envelope that is delivered moves it to the sessions or frees its slot, and a
session that ends frees its own (`Routing.Slotted.finish`). A listener that starts finds no client
on the way to it, since its number is new (`Routing.Slotted.inFlight_next`).
-/

namespace SensorHost.Presentation
open SensorHost.Lib SensorHost.Protocol SensorHost.Storage SensorHost.Acquisition SensorHost.Ota
  SensorHost.Transport

variable {crc32 : Bytes → UInt32} {r r' : Routing} {i : Nat × Text × Text × TransportKind}

/-- The Wi-Fi sessions. -/
def Routing.wifiNodes (r : Routing) : List Text :=
  (r.identities.filter fun i => i.2.2.2 = .wifi).map fun i => i.2.1

/-- The clients of a listener that are on their way. -/
def Routing.inFlight (r : Routing) (listener : Nat) : List Text :=
  (r.envelopes.filter fun envelope => envelope.listener = listener).map
    fun envelope => envelope.client.connectionId

/-- The slots of the current listener are those of the Wi-Fi sessions and of its clients on their way;
without a listener there is no Wi-Fi session. -/
structure Routing.Slotted (r : Routing) : Prop where
  idle : r.gatewayListener = none → ∀ i ∈ r.identities, i.2.2.2 ≠ .wifi
  held : ∀ l, r.gatewayListener = some l →
    l.identity < r.nextListener ∧ l.Holds (r.wifiNodes ++ r.inFlight l.identity)
  sent : ∀ envelope ∈ r.envelopes, envelope.listener < r.nextListener

/-- Listener, envelopes and sessions are all that counts. -/
lemma Routing.Slotted.of_eq (slotted : r.Slotted) (hids : r'.identities = r.identities)
    (hlistener : r'.gatewayListener = r.gatewayListener) (henvelopes : r'.envelopes = r.envelopes)
    (hnext : r'.nextListener = r.nextListener) : r'.Slotted := by
  refine ⟨?_, ?_, ?_⟩
  · rw [hids, hlistener]
    exact slotted.idle
  · unfold Routing.wifiNodes Routing.inFlight
    rw [hids, hlistener, henvelopes, hnext]
    exact slotted.held
  · rw [henvelopes, hnext]
    exact slotted.sent

/-- Without sessions no Wi-Fi session holds a slot. -/
lemma Routing.wifiNodes_nil (h : r.identities = []) : r.wifiNodes = [] := by
  unfold Routing.wifiNodes
  rw [h]
  rfl

/-- Nobody holds a slot of a listener that is to come. -/
lemma Routing.Slotted.inFlight_next (slotted : r.Slotted) : r.inFlight r.nextListener = [] := by
  unfold Routing.inFlight
  refine List.map_eq_nil_iff.mpr (List.filter_eq_nil_iff.mpr ?_)
  intro envelope hmem heq
  exact Nat.ne_of_lt (slotted.sent envelope hmem) (of_decide_eq_true heq)

/-- A listener behind a release was there before. -/
lemma Routing.release_listener (r : Routing) (name : Text) {l : GatewayListener}
    (h : (r.release name).gatewayListener = some l) :
    ∃ l', r.gatewayListener = some l' ∧ l = l'.release name :=  by
  obtain ⟨l', hl', heq⟩ := Option.map_eq_some_iff.mp h
  exact ⟨l', hl', heq.symm⟩

/-- A Wi-Fi session that ends is the only one that held its slot. -/
lemma Routing.occupants_finish (apart : (r.identities.map Prod.fst).Nodup) (live : i ∈ r.identities)
    (hwifi : i.2.2.2 = .wifi) {k : Nat} (hnodup : (r.wifiNodes ++ r.inFlight k).Nodup) :
    ((r.identities.filter fun j => j.1 != i.1).filter fun j => j.2.2.2 = .wifi).map
        (fun j => j.2.1) ++ r.inFlight k =
      (r.wifiNodes ++ r.inFlight k).filter (· ≠ i.2.1) := by
  obtain ⟨hnames, -, hdisjoint⟩ := List.nodup_append.mp hnodup
  have hmem : i ∈ r.identities.filter fun j => j.2.2.2 = .wifi :=
    List.mem_filter.mpr ⟨live, decide_eq_true hwifi⟩
  have hothers : (r.inFlight k).filter (· ≠ i.2.1) = r.inFlight k := by
    refine List.filter_eq_self.mpr ?_
    intro name hname
    refine decide_eq_true ?_
    exact fun heq => hdisjoint i.2.1 (List.mem_map_of_mem hmem) name hname heq.symm
  rw [List.filter_append, hothers]
  congr 1
  unfold Routing.wifiNodes
  rw [List.filter_map, List.filter_filter, List.filter_filter]
  congr 1
  refine List.filter_congr ?_
  intro j hj
  rw [Function.comp_apply]
  -- among the Wi-Fi sessions, sid and name tell the same
  by_cases hkind : j.2.2.2 = .wifi
  · have hsame : j.1 = i.1 ↔ j.2.1 = i.2.1 := by
      constructor
      · intro hsid
        rw [List.inj_on_of_nodup_map apart hj live hsid]
      · intro hname
        have hjmem : j ∈ r.identities.filter fun j => j.2.2.2 = .wifi :=
          List.mem_filter.mpr ⟨hj, decide_eq_true hkind⟩
        rw [List.inj_on_of_nodup_map hnames hjmem hmem hname]
    rw [decide_eq_true hkind, Bool.true_and, Bool.and_true]
    by_cases hsid : j.1 = i.1
    · rw [bne_eq_false_iff_eq.mpr hsid, decide_eq_false (not_not.mpr (hsame.mp hsid))]
    · have hname : j.2.1 ≠ i.2.1 := fun h => hsid (hsame.mpr h)
      rw [bne_iff_ne.mpr hsid, decide_eq_true hname]
  · rw [decide_eq_false hkind, Bool.false_and, Bool.and_false]

/-- The end of a session frees its slot. -/
lemma Routing.Slotted.finish (slotted : r.Slotted) (apart : (r.identities.map Prod.fst).Nodup)
    (live : i ∈ r.identities) : (r.finish i).Slotted := by
  have hids : (r.finish i).identities = r.identities.filter fun j => j.1 != i.1 := rfl
  by_cases hwifi : i.2.2.2 = .wifi
  · have hreleased : (r.finish i).gatewayListener = (r.release i.2.1).gatewayListener ∧
        (r.finish i).envelopes = r.envelopes ∧ (r.finish i).nextListener = r.nextListener := by
      unfold Routing.finish
      dsimp only
      rw [if_pos hwifi]
      exact ⟨rfl, rfl, rfl⟩
    obtain ⟨hlistener, henvelopes, hnext⟩ := hreleased
    refine ⟨?_, ?_, ?_⟩
    · rw [hlistener, hids]
      intro hnone j hj
      exact slotted.idle (Option.map_eq_none_iff.mp hnone) j (List.mem_of_mem_filter hj)
    · rw [hlistener, hnext]
      intro l hl
      obtain ⟨l', hl', rfl⟩ := r.release_listener i.2.1 hl
      obtain ⟨hlt, hholds⟩ := slotted.held l' hl'
      refine ⟨hlt, ?_⟩
      have hoccupants := Routing.occupants_finish apart live hwifi hholds.nodup
      unfold Routing.inFlight at hoccupants ⊢
      unfold Routing.wifiNodes
      rw [hids, henvelopes, show (l'.release i.2.1).identity = l'.identity from rfl, hoccupants]
      exact hholds.release i.2.1
    · rw [henvelopes, hnext]
      exact slotted.sent
  · have hkept : (r.finish i).gatewayListener = r.gatewayListener ∧
        (r.finish i).envelopes = r.envelopes ∧ (r.finish i).nextListener = r.nextListener := by
      unfold Routing.finish
      dsimp only
      rw [if_neg hwifi]
      exact ⟨rfl, rfl, rfl⟩
    obtain ⟨hlistener, henvelopes, hnext⟩ := hkept
    have hnodes : (r.finish i).wifiNodes = r.wifiNodes := by
      unfold Routing.wifiNodes
      rw [hids, List.filter_filter]
      congr 1
      refine List.filter_congr ?_
      intro j hj
      by_cases hkind : j.2.2.2 = .wifi
      · -- numbers are not shared, so the filter takes out this session alone
        have hne : j.1 ≠ i.1 := by
          intro hsid
          rw [List.inj_on_of_nodup_map apart hj live hsid] at hkind
          exact hwifi hkind
        rw [bne_iff_ne.mpr hne, Bool.and_true]
      · rw [decide_eq_false hkind, Bool.false_and]
    refine ⟨?_, ?_, ?_⟩
    · rw [hlistener, hids]
      exact fun hnone j hj => slotted.idle hnone j (List.mem_of_mem_filter hj)
    · unfold Routing.inFlight
      rw [hlistener, hnext, hnodes, henvelopes]
      exact slotted.held
    · rw [henvelopes, hnext]
      exact slotted.sent

/-- Every rule keeps the account of the slots. -/
lemma Routing.Moves.slotted (moves : r.Moves r') (slotted : r.Slotted)
    (apart : (r.identities.map Prod.fst).Nodup) : r'.Slotted := by
  cases moves with
  | stay => exact slotted
  | listen idle stopped =>
    refine ⟨?_, ?_, ?_⟩
    · exact fun hnone => absurd hnone (Option.some_ne_none _)
    · rintro l ⟨⟩
      refine ⟨Nat.lt_succ_self _, ?_⟩
      have hnodes : Routing.wifiNodes { r with
          gatewayListener := some { identity := r.nextListener }
          nextListener := r.nextListener + 1
          acceptRunning := true } = [] := Routing.wifiNodes_nil idle
      rw [hnodes]
      show GatewayListener.Holds _ (r.inFlight r.nextListener)
      -- no envelope names a listener that is not there yet
      rw [slotted.inFlight_next]
      exact .new _
    · exact fun envelope hmem => Nat.lt_succ_of_lt (slotted.sent envelope hmem)
  | unlisten idle =>
    refine ⟨?_, fun l hl => (nomatch hl), slotted.sent⟩
    intro _ i hi
    have hempty : i ∈ r.identities := hi
    rw [idle] at hempty
    exact absurd hempty List.not_mem_nil
  | disconnect =>
    refine ⟨?_, fun l hl => (nomatch hl), slotted.sent⟩
    exact fun _ i hi => absurd hi List.not_mem_nil
  | cdc nodeId peer idle =>
    have hnodes : (r.add nodeId peer .cdc).wifiNodes = r.wifiNodes := by
      unfold Routing.wifiNodes Routing.add
      rw [List.filter_append]
      exact congrArg _ (List.append_nil _)
    refine ⟨?_, ?_, slotted.sent⟩
    · intro hnone i hi
      cases List.mem_append.mp hi with
      | inl hold => exact slotted.idle hnone i hold
      | inr hnew =>
        rw [List.mem_singleton.mp hnew]
        exact TransportKind.noConfusion
    · intro l hl
      rw [hnodes]
      exact slotted.held l hl
  | select nodeId live => exact slotted.of_eq rfl rfl rfl rfl
  | fail => exact slotted.of_eq rfl rfl rfl rfl
  | finish i live => exact slotted.finish apart live

/-- One more envelope is one more client on its way, if the listener is its own. -/
lemma Routing.inFlight_append (r : Routing) (envelopes : List GatewayEnvelope) (k : Nat) :
    { r with envelopes := r.envelopes ++ envelopes }.inFlight k = r.inFlight k ++
      (envelopes.filter fun envelope => envelope.listener = k).map
        fun envelope => envelope.client.connectionId := by
  unfold Routing.inFlight
  rw [List.filter_append, List.map_append]

/-- The envelopes of clients of the listener are all its own. -/
lemma ownEnvelopes (clients : List AcceptedGatewayClient) (k : Nat) :
    ((clients.map fun client => ({ listener := k, client } : GatewayEnvelope)).filter
        fun envelope => envelope.listener = k).map (fun envelope => envelope.client.connectionId) =
      clients.map AcceptedGatewayClient.connectionId := by
  have hall : (clients.map fun client => ({ listener := k, client } : GatewayEnvelope)).filter
      (fun envelope => envelope.listener = k) = clients.map fun client => { listener := k, client } := by
    refine List.filter_eq_self.mpr ?_
    intro envelope hmem
    obtain ⟨client, -, rfl⟩ := List.mem_map.mp hmem
    exact decide_eq_true rfl
  rw [hall, List.map_map]
  rfl

/-- A peer that is accepted takes a slot. -/
lemma Routing.Accepts.slotted {peer : Text} (accepts : r.Accepts peer r') (slotted : r.Slotted) :
    r'.Slotted := by
  cases accepts with
  | none => exact slotted
  | accepted listener current =>
    obtain ⟨hlt, hholds⟩ := slotted.held listener current
    refine ⟨?_, ?_, ?_⟩
    · exact fun hnone => absurd hnone (Option.some_ne_none _)
    · rintro l ⟨⟩
      have hidentity := listener.accept_identity peer
      refine ⟨hidentity.trans_lt hlt, ?_⟩
      have hflight : (r.accept listener peer).inFlight listener.identity =
          r.inFlight listener.identity ++
            (listener.accept peer).2.toList.map AcceptedGatewayClient.connectionId := by
        rw [← ownEnvelopes _ listener.identity]
        exact r.inFlight_append _ _
      rw [hidentity, hflight, ← List.append_assoc]
      exact hholds.accept peer
    · intro envelope hmem
      cases List.mem_append.mp hmem with
      | inl hold => exact slotted.sent envelope hold
      | inr hnew =>
        obtain ⟨client, -, rfl⟩ := List.mem_map.mp hnew
        exact hlt

/-- Of elements that come once, one is taken out of the middle. -/
lemma filter_middle {α : Type*} [DecidableEq α] {xs ys : List α} {a : α}
    (h : (xs ++ a :: ys).Nodup) : (xs ++ a :: ys).filter (· ≠ a) = xs ++ ys := by
  have hfresh := (List.nodup_cons.mp (List.nodup_middle.mp h)).1
  have hothers : (xs ++ ys).filter (· ≠ a) = xs ++ ys := by
    refine List.filter_eq_self.mpr ?_
    intro b hb
    exact decide_eq_true (ne_of_mem_of_not_mem hb hfresh)
  have hself : ¬ decide (a ≠ a) = true := fun h => (of_decide_eq_true h) rfl
  rw [List.filter_append, List.filter_cons, if_neg hself, ← List.filter_append, hothers]

/-- The session that a client becomes holds its slot, and a client that is refused holds none. -/
lemma Routing.Admits.slotted {envelope : GatewayEnvelope} {rest : List GatewayEnvelope}
    (admits : { r with envelopes := rest }.Admits envelope.client r') (slotted : r.Slotted)
    (queued : r.envelopes = envelope :: rest)
    (current : r.gatewayListener.map GatewayListener.identity = some envelope.listener) :
    r'.Slotted := by
  obtain ⟨listener, hlistener, hidentity⟩ := Option.map_eq_some_iff.mp current
  obtain ⟨hlt, hholds⟩ := slotted.held listener hlistener
  have hflight : r.inFlight listener.identity =
      envelope.client.connectionId :: { r with envelopes := rest }.inFlight listener.identity := by
    unfold Routing.inFlight
    rw [queued, List.filter_cons, if_pos (decide_eq_true hidentity.symm)]
    rfl
  have hsent : ∀ envelope ∈ rest, envelope.listener < r.nextListener := fun envelope hmem =>
    slotted.sent envelope (queued ▸ List.mem_cons_of_mem _ hmem)
  -- the slot of the envelope becomes the slot of the session
  rw [hflight] at hholds
  cases admits with
  | refused =>
    refine ⟨?_, ?_, hsent⟩
    · exact fun hnone => slotted.idle (Option.map_eq_none_iff.mp hnone)
    · intro l hl
      obtain ⟨l', hl', rfl⟩ := Routing.release_listener _ _ hl
      have hsame : l' = listener := Option.some_injective _ (hl'.symm.trans hlistener)
      rw [hsame]
      refine ⟨hlt, ?_⟩
      have hfreed := hholds.release envelope.client.connectionId
      rw [filter_middle hholds.nodup] at hfreed
      exact hfreed
  | admitted wifi =>
    refine ⟨?_, ?_, hsent⟩
    · intro hnone
      exact absurd (hnone.symm.trans hlistener) (Option.some_ne_none _).symm
    · intro l hl
      have hsame : l = listener := Option.some_injective _ (hl.symm.trans hlistener)
      rw [hsame]
      refine ⟨hlt, ?_⟩
      have hnodes : Routing.wifiNodes
          (Routing.add { r with envelopes := rest } envelope.client.connectionId
            envelope.client.peer .wifi) = r.wifiNodes ++ [envelope.client.connectionId] := by
        unfold Routing.wifiNodes Routing.add
        dsimp only
        rw [List.filter_append, List.map_append]
        rfl
      rw [hnodes, List.append_assoc]
      exact hholds

/-- An envelope that is taken keeps or frees its slot. -/
lemma Routing.Delivers.slotted (delivers : r.Delivers r') (slotted : r.Slotted) : r'.Slotted := by
  cases delivers with
  | none empty => exact slotted
  | @drop envelope rest queued stale =>
    refine ⟨slotted.idle, ?_, ?_⟩
    · intro l hl
      obtain ⟨hlt, hholds⟩ := slotted.held l hl
      refine ⟨hlt, ?_⟩
      have hne : envelope.listener ≠ l.identity := by
        intro heq
        refine stale ?_
        rw [heq]
        exact congrArg (Option.map GatewayListener.identity) hl
      have hflight : r.inFlight l.identity = { r with envelopes := rest }.inFlight l.identity := by
        unfold Routing.inFlight
        rw [queued, List.filter_cons, if_neg (fun h => hne (of_decide_eq_true h))]
      rw [hflight] at hholds
      exact hholds
    · exact fun envelope hmem => slotted.sent envelope (queued ▸ List.mem_cons_of_mem _ hmem)
  | deliver queued current admits => exact admits.slotted slotted queued current

end SensorHost.Presentation
