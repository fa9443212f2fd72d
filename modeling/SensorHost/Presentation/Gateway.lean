import SensorHost.Lib.Crc32
import SensorHost.Presentation.Slots

/-!
# Listeners that were stopped

The accept thread of a listener that was stopped may still be in `accept`, and its clients may still be
on their way. A `Gateway` is the application with these listeners, and with a record of the names that
each listener gave and of the sessions that each admitted.

The main theorem is `slots_accounted`: behind every run of the application with its stopped
listeners, the names given are all different, a Wi-Fi session was admitted by the current listener
and by no other, and the slots of the current listener are those of its sessions and of its clients
on the way; a late connection or envelope of a stopped listener changes no session and no slot of
the current one.

The invariant `Gateway.Accounted` has three parts. `Slotted` is that of `Presentation.Slots`;
`Names` and `Admissions` are about the records, and each has one lemma for the rules of the routing
(`Moves`), one for a client that is accepted and one for an envelope that is delivered. That a
client is handed over directly, without an envelope, is excluded: then its listener knows nothing of
it.
-/

namespace SensorHost.Presentation
open SensorHost.Lib SensorHost.Protocol SensorHost.Storage SensorHost.Acquisition SensorHost.Ota
  SensorHost.Transport

/-- The application, the listeners that were stopped, the names that were given (with the listener) and
the sessions that were admitted (with the listener of the client). -/
structure Gateway where
  controller : AppController
  stopped : List GatewayListener := []
  issued : List (Nat × Text) := []
  admitted : List (Nat × Nat) := []

/-- What happens: an event of the application, or a client that a stopped listener still accepts. -/
inductive GatewayEvent where
  | event (e : Event)
  | lateAccept (listener : Nat) (peer : Text)

/-- The listener that is let go. -/
def Routing.letGo (r r' : Routing) : List GatewayListener :=
  r.gatewayListener.toList.filter fun l =>
    r'.gatewayListener.map GatewayListener.identity ≠ some l.identity

/-- The listener of the first envelope frees its slot, if it was stopped. -/
def Routing.releaseStale (r : Routing) (stopped : List GatewayListener) : List GatewayListener :=
  match r.envelopes with
  | [] => stopped
  | envelope :: _ => stopped.map fun l =>
    if l.identity = envelope.listener then l.release envelope.client.connectionId else l

/-- The names of the clients that are on their way since. -/
def Routing.sentSince (r r' : Routing) : List (Nat × Text) :=
  (r'.envelopes.drop r.envelopes.length).map fun envelope =>
    (envelope.listener, envelope.client.connectionId)

/-- The session that was made of the first envelope. -/
def Routing.admittedSince (r r' : Routing) : List (Nat × Nat) :=
  match r.envelopes with
  | [] => []
  | envelope :: _ =>
    if r'.nextSession = r.nextSession then [] else [(r.nextSession, envelope.listener)]

/-- One event. -/
def Gateway.step (crc32 : Bytes → UInt32) (g : Gateway) : GatewayEvent → Gateway
  | .event e =>
    let controller := g.controller.step crc32 e
    let r := g.controller.routing
    match e with
    | .acceptSocket _ =>
      { g with controller, issued := g.issued ++ r.sentSince controller.routing }
    | .gatewayEnvelope =>
      { g with
        controller
        stopped := r.releaseStale g.stopped
        admitted := g.admitted ++ r.admittedSince controller.routing }
    | _ => { g with controller, stopped := g.stopped ++ r.letGo controller.routing }
  | .lateAccept listener peer =>
    match g.stopped.find? fun l => l.identity == listener with
    | none => g
    | some l =>
      let (l', client) := l.accept peer
      { g with
        controller := { g.controller with
          envelopes := g.controller.envelopes ++
            client.toList.map fun client => { listener := l.identity, client } }
        stopped := g.stopped.map fun k => if k.identity = l.identity then l' else k
        issued := g.issued ++ client.toList.map fun client => (l.identity, client.connectionId) }

/-- The gateway behind a sequence of events. -/
def Gateway.run (crc32 : Bytes → UInt32) (aliases : List (Text × Text))
    (events : List GatewayEvent) : Gateway :=
  runFrom (Gateway.step crc32) { controller := AppController.initial aliases } events

/-- A client that is handed over directly, past the listener. -/
def GatewayEvent.handsOver : GatewayEvent → Bool
  | .event (.operation _ (.acceptGatewayClient _)) => true
  | _ => false

/-- The event is about a client of a listener that was stopped: it is still accepted, or its envelope
is next. -/
def Gateway.Stale (g : Gateway) : GatewayEvent → Prop
  | .lateAccept _ _ => True
  | .event .gatewayEnvelope => ∃ envelope rest, g.controller.envelopes = envelope :: rest ∧
    g.controller.gatewayListener.map GatewayListener.identity ≠ some envelope.listener
  | _ => False

variable {crc32 : Bytes → UInt32} {g : Gateway} {e : Event} {r r' : Routing}
  {ls ls' : List GatewayListener} {l : GatewayListener} {next : Nat} {issued : List (Nat × Text)}
  {admitted : List (Nat × Nat)}

/-- The listeners are told apart, and no name was given twice by one of them. -/
structure Names (ls : List GatewayListener) (next : Nat) (issued : List (Nat × Text)) : Prop where
  distinct : (ls.map GatewayListener.identity).Nodup
  lt : ∀ l ∈ ls, l.identity < next
  once : issued.Nodup
  given : ∀ p ∈ issued, p.1 < next ∧ ∀ l ∈ ls, l.identity = p.1 → l.Issued p.2

/-- Listeners that forget no name. -/
lemma Names.follow (names : Names ls next issued)
    (hids : ls'.map GatewayListener.identity = ls.map GatewayListener.identity)
    (hback : ∀ l' ∈ ls', ∃ l ∈ ls, l.identity = l'.identity ∧ ∀ name, l.Issued name → l'.Issued name) :
    Names ls' next issued := by
  refine ⟨hids ▸ names.distinct, ?_, names.once, ?_⟩
  · intro l' hl'
    obtain ⟨l, hl, heq, -⟩ := hback l' hl'
    exact heq ▸ names.lt l hl
  · intro p hp
    obtain ⟨hlt, hgiven⟩ := names.given p hp
    refine ⟨hlt, ?_⟩
    intro l' hl' hidentity
    obtain ⟨l, hl, heq, hkept⟩ := hback l' hl'
    exact hkept p.2 (hgiven l hl (heq.trans hidentity))

/-- A new listener has given no name. -/
lemma Names.listen (names : Names ls next issued) :
    Names (ls ++ [{ identity := next }]) (next + 1) issued := by
  refine ⟨?_, ?_, names.once, ?_⟩
  · rw [List.map_append]
    refine List.nodup_append.mpr ⟨names.distinct, List.nodup_singleton _, ?_⟩
    intro a ha b hb hab
    obtain ⟨l, hl, rfl⟩ := List.mem_map.mp ha
    rw [List.map_singleton, List.mem_singleton] at hb
    exact Nat.ne_of_lt (names.lt l hl) (hab.trans hb)
  · intro l hl
    cases List.mem_append.mp hl with
    | inl hold => exact Nat.lt_succ_of_lt (names.lt l hold)
    | inr hnew =>
      rw [List.mem_singleton.mp hnew]
      exact Nat.lt_succ_self next
  · intro p hp
    obtain ⟨hlt, hgiven⟩ := names.given p hp
    refine ⟨Nat.lt_succ_of_lt hlt, ?_⟩
    intro l hl hidentity
    cases List.mem_append.mp hl with
    | inl hold => exact hgiven l hold hidentity
    | inr hnew =>
      rw [List.mem_singleton.mp hnew] at hidentity
      exact absurd hidentity.symm (Nat.ne_of_lt hlt)

/-- The name that a listener gives to a client is new. -/
lemma Names.accept (names : Names ls next issued) (hl : l ∈ ls) (peer : Text)
    (hids : ls'.map GatewayListener.identity = ls.map GatewayListener.identity)
    (hcases : ∀ l' ∈ ls', l' = (l.accept peer).1 ∨ l' ∈ ls ∧ l'.identity ≠ l.identity) :
    Names ls' next (issued ++
      (l.accept peer).2.toList.map fun client => (l.identity, client.connectionId)) := by
  have hkept : Names ls' next issued := by
    refine names.follow hids ?_
    intro l' hl'
    cases hcases l' hl' with
    | inl heq =>
      rw [heq]
      exact ⟨l, hl, (l.accept_identity peer).symm, fun name h => h.accept peer⟩
    | inr h => exact ⟨l', h.1, rfl, fun _ h => h⟩
  rcases l.accept_cases peer with hfull | ⟨-, haccepted⟩
  · rw [hfull]
    show Names ls' next (issued ++ [])
    rw [List.append_nil]
    exact hkept
  · rw [haccepted] at hcases ⊢
    -- names are numbered upwards, and every one given so far is below the next number
    have hnew : (l.identity, GatewayListener.connectionId l.nextConnectionNumber) ∉ issued :=
      fun hmem => l.not_issued_next ((names.given _ hmem).2 l hl rfl)
    refine ⟨hkept.distinct, hkept.lt, ?_, ?_⟩
    · refine List.nodup_append.mpr ⟨names.once, List.nodup_singleton _, ?_⟩
      intro a ha b hb hab
      have hb : b = (l.identity, GatewayListener.connectionId l.nextConnectionNumber) :=
        List.mem_singleton.mp hb
      exact hnew (hb ▸ hab ▸ ha)
    · intro p hp
      cases List.mem_append.mp hp with
      | inl hold => exact hkept.given p hold
      | inr hlast =>
        have heq : p = (l.identity, GatewayListener.connectionId l.nextConnectionNumber) :=
          List.mem_singleton.mp hlast
        rw [heq]
        refine ⟨names.lt l hl, ?_⟩
        intro l' hl' hidentity
        cases hcases l' hl' with
        | inl hsame =>
          rw [hsame]
          exact ⟨l.nextConnectionNumber, Nat.lt_succ_self _, rfl⟩
        | inr h => exact absurd hidentity h.2

/-- The listener is kept, or a slot of it is freed. -/
def Releases (f : GatewayListener → GatewayListener) : Prop :=
  ∀ l, f l = l ∨ ∃ name, f l = l.release name

/-- A slot that is freed leaves the listener the one that it is. -/
lemma Releases.identity {f : GatewayListener → GatewayListener} (h : Releases f)
    (l : GatewayListener) : (f l).identity = l.identity := by
  obtain heq | ⟨name, heq⟩ := h l
  · rw [heq]
  · rw [heq]
    rfl

/-- So it is where there may be none. -/
lemma Releases.map_identity {f : GatewayListener → GatewayListener} (h : Releases f)
    (o : Option GatewayListener) :
    (o.map f).map GatewayListener.identity = o.map GatewayListener.identity := by
  rw [Option.map_map]
  exact congrArg (fun g => o.map g) (funext h.identity)

/-- A name that was given stays given. -/
lemma Releases.keeps {f : GatewayListener → GatewayListener} (h : Releases f) {name : Text}
    (hissued : l.Issued name) : (f l).Issued name := by
  obtain heq | ⟨other, heq⟩ := h l
  · rw [heq]
    exact hissued
  · rw [heq]
    exact hissued

/-- Freeing slots forgets no name. -/
lemma Names.released {stopped : List GatewayListener} {o : Option GatewayListener}
    {f f' : GatewayListener → GatewayListener} (names : Names (stopped ++ o.toList) next issued)
    (hf : Releases f) (hf' : Releases f') :
    Names (stopped.map f ++ (o.map f').toList) next issued := by
  refine names.follow ?_ ?_
  · rw [List.map_append, List.map_append, List.map_map]
    congr 1
    · exact List.map_congr_left fun l _ => hf.identity l
    · rw [← Option.toList_map, ← Option.toList_map, hf'.map_identity]
  · intro l' hl'
    cases List.mem_append.mp hl' with
    | inl hstopped =>
      obtain ⟨l, hl, rfl⟩ := List.mem_map.mp hstopped
      exact ⟨l, List.mem_append_left _ hl, (hf.identity l).symm, fun _ => hf.keeps⟩
    | inr hcurrent =>
      obtain ⟨l, hl, rfl⟩ := Option.map_eq_some_iff.mp (Option.mem_toList.mp hcurrent)
      exact ⟨l, List.mem_append_right _ (Option.mem_toList.mpr hl), (hf'.identity l).symm,
        fun _ => hf'.keeps⟩

/-- Each Wi-Fi session was admitted by the current listener, and by no other. -/
structure Admissions (r : Routing) (admitted : List (Nat × Nat)) : Prop where
  joined : ∀ i ∈ r.identities, i.2.2.2 = .wifi →
    ∃ k, (i.1, k) ∈ admitted ∧ r.gatewayListener.map GatewayListener.identity = some k
  current : ∀ i ∈ r.identities, ∀ k, (i.1, k) ∈ admitted →
    i.2.2.2 = .wifi ∧ r.gatewayListener.map GatewayListener.identity = some k
  lt : ∀ i ∈ r.identities, i.1 < r.nextSession
  fresh : ∀ p ∈ admitted, p.1 < r.nextSession

/-- Sessions that go, while the listener stays. -/
lemma Admissions.sub (admissions : Admissions r admitted)
    (hids : ∀ i ∈ r'.identities, i ∈ r.identities)
    (hlistener : r'.gatewayListener.map GatewayListener.identity =
      r.gatewayListener.map GatewayListener.identity)
    (hnext : r'.nextSession = r.nextSession) : Admissions r' admitted := by
  refine ⟨?_, ?_, ?_, ?_⟩
  · rw [hlistener]
    exact fun i hi => admissions.joined i (hids i hi)
  · rw [hlistener]
    exact fun i hi => admissions.current i (hids i hi)
  · rw [hnext]
    exact fun i hi => admissions.lt i (hids i hi)
  · rw [hnext]
    exact admissions.fresh

/-- All sessions are gone. -/
lemma Admissions.nil (admissions : Admissions r admitted) (hids : r'.identities = [])
    (hnext : r'.nextSession = r.nextSession) : Admissions r' admitted := by
  refine ⟨?_, ?_, ?_, hnext ▸ admissions.fresh⟩
  · rw [hids]
    exact fun i hi => absurd hi List.not_mem_nil
  · rw [hids]
    exact fun i hi => absurd hi List.not_mem_nil
  · rw [hids]
    exact fun i hi => absurd hi List.not_mem_nil

/-- The end of a session frees its slot at most. -/
lemma releases_finish (i : Nat × Text × Text × TransportKind) :
    Releases fun l => if i.2.2.2 = .wifi then l.release i.2.1 else l := by
  intro l
  dsimp only
  split
  · exact .inr ⟨i.2.1, rfl⟩
  · exact .inl rfl

/-- It does so at the listener of then. -/
lemma Routing.finish_listener (r : Routing) (i : Nat × Text × Text × TransportKind) :
    (r.finish i).gatewayListener = r.gatewayListener.map
        (fun l => if i.2.2.2 = .wifi then l.release i.2.1 else l) ∧
      (r.finish i).nextListener = r.nextListener ∧ (r.finish i).nextSession = r.nextSession := by
  unfold Routing.finish
  dsimp only
  split
  · exact ⟨rfl, rfl, rfl⟩
  · exact ⟨Option.map_id'.symm, rfl, rfl⟩

/-- The other events keep the admissions. -/
lemma Routing.Moves.admissions (moves : r.Moves r') (admissions : Admissions r admitted) :
    Admissions r' admitted := by
  cases moves with
  | stay => exact admissions
  | listen idle stopped => exact admissions.nil idle rfl
  | unlisten idle => exact admissions.nil idle rfl
  | disconnect => exact admissions.nil rfl rfl
  | cdc nodeId peer idle =>
    have hone : (r.add nodeId peer .cdc).identities = [(r.nextSession, nodeId, peer, .cdc)] := by
      unfold Routing.add
      rw [idle, List.nil_append]
    refine ⟨?_, ?_, ?_, ?_⟩
    · rw [hone]
      intro i hi hwifi
      rw [List.mem_singleton.mp hi] at hwifi
      cases hwifi
    · rw [hone]
      intro i hi k hk
      rw [List.mem_singleton.mp hi] at hk
      exact absurd (admissions.fresh _ hk) (Nat.lt_irrefl _)
    · rw [hone]
      intro i hi
      rw [List.mem_singleton.mp hi]
      exact Nat.lt_succ_self _
    · exact fun p hp => Nat.lt_succ_of_lt (admissions.fresh p hp)
  | select nodeId live => exact admissions.sub (fun _ h => h) rfl rfl
  | fail => exact admissions.sub (fun _ h => h) rfl rfl
  | finish i live =>
    obtain ⟨hlistener, -, hnext⟩ := r.finish_listener i
    refine admissions.sub (fun _ h => List.mem_of_mem_filter h) ?_ hnext
    rw [hlistener]
    exact (releases_finish i).map_identity _

/-- Only a client of the current listener is admitted. -/
lemma Routing.Delivers.admissions (delivers : r.Delivers r') (admissions : Admissions r admitted) :
    Admissions r' (admitted ++ r.admittedSince r') := by
  cases delivers with
  | none empty =>
    unfold Routing.admittedSince
    rw [empty]
    dsimp only
    rw [List.append_nil]
    exact admissions
  -- a client of a stopped listener is dropped, and no session is named
  | drop queued stale =>
    unfold Routing.admittedSince
    rw [queued]
    dsimp only
    rw [if_pos rfl, List.append_nil]
    exact admissions.sub (fun _ h => h) rfl rfl
  | @deliver envelope rest _ queued current admits =>
    unfold Routing.admittedSince
    rw [queued]
    cases admits with
    | refused =>
      have hnext : (Routing.release { r with envelopes := rest }
          envelope.client.connectionId).nextSession = r.nextSession := rfl
      dsimp only
      rw [if_pos hnext, List.append_nil]
      exact admissions.sub (fun _ h => h) (Releases.map_identity (fun _ => .inr ⟨_, rfl⟩) _) rfl
    | admitted wifi =>
      have hnext : (Routing.add { r with envelopes := rest } envelope.client.connectionId
          envelope.client.peer .wifi).nextSession = r.nextSession + 1 := rfl
      dsimp only
      rw [if_neg (by rw [hnext]; exact Nat.succ_ne_self _)]
      refine ⟨?_, ?_, ?_, ?_⟩
      · intro i hi hkind
        cases List.mem_append.mp hi with
        | inl hold =>
          obtain ⟨k, hk, hlistener⟩ := admissions.joined i hold hkind
          exact ⟨k, List.mem_append_left _ hk, hlistener⟩
        | inr hnew =>
          rw [List.mem_singleton.mp hnew]
          exact ⟨envelope.listener, List.mem_append_right _ (List.mem_singleton_self _), current⟩
      · intro i hi k hk
        cases List.mem_append.mp hi with
        | inl hold =>
          cases List.mem_append.mp hk with
          | inl hbefore => exact admissions.current i hold k hbefore
          | inr hlast =>
            have hsid : i.1 = r.nextSession := congrArg Prod.fst (List.mem_singleton.mp hlast)
            exact absurd hsid (Nat.ne_of_lt (admissions.lt i hold))
        | inr hnew =>
          rw [List.mem_singleton.mp hnew] at hk ⊢
          cases List.mem_append.mp hk with
          -- session numbers are never used again
          | inl hbefore => exact absurd (admissions.fresh _ hbefore) (Nat.lt_irrefl _)
          | inr hlast =>
            have hlistener : k = envelope.listener :=
              congrArg Prod.snd (List.mem_singleton.mp hlast)
            exact ⟨rfl, hlistener ▸ current⟩
      · intro i hi
        cases List.mem_append.mp hi with
        | inl hold => exact Nat.lt_succ_of_lt (admissions.lt i hold)
        | inr hnew =>
          rw [List.mem_singleton.mp hnew]
          exact Nat.lt_succ_self _
      · intro p hp
        cases List.mem_append.mp hp with
        | inl hbefore => exact Nat.lt_succ_of_lt (admissions.fresh p hbefore)
        | inr hlast =>
          rw [List.mem_singleton.mp hlast]
          exact Nat.lt_succ_self _

/-- So does a peer that reaches the listener. -/
lemma Routing.Accepts.admissions {peer : Text} (accepts : r.Accepts peer r')
    (admissions : Admissions r admitted) : Admissions r' admitted := by
  cases accepts with
  | none => exact admissions
  | accepted listener current =>
    refine admissions.sub (fun _ h => h) ?_ rfl
    rw [current]
    exact congrArg some (listener.accept_identity peer)

/-- All listeners there are or were. -/
def Routing.listeners (r : Routing) (stopped : List GatewayListener) : List GatewayListener :=
  stopped ++ r.gatewayListener.toList

/-- A listener that keeps its identity is not let go. -/
lemma Routing.letGo_kept (h : r'.gatewayListener.map GatewayListener.identity =
    r.gatewayListener.map GatewayListener.identity) : r.letGo r' = [] := by
  unfold Routing.letGo
  refine List.filter_eq_nil_iff.mpr ?_
  intro l hl hgone
  rw [h, Option.mem_toList.mp hl] at hgone
  exact of_decide_eq_true hgone rfl

/-- A listener that is no longer there was let go. -/
lemma Routing.letGo_gone (h : ∀ l, r.gatewayListener = some l →
    r'.gatewayListener.map GatewayListener.identity ≠ some l.identity) :
    r.letGo r' = r.gatewayListener.toList := by
  unfold Routing.letGo
  refine List.filter_eq_self.mpr ?_
  intro l hl
  exact decide_eq_true (h l (Option.mem_toList.mp hl))

/-- The other events keep the names apart. -/
lemma Routing.Moves.names {stopped : List GatewayListener} (moves : r.Moves r')
    (names : Names (r.listeners stopped) r.nextListener issued) :
    Names (r'.listeners (stopped ++ r.letGo r')) r'.nextListener issued := by
  have hkept : ∀ {r' : Routing}, r'.gatewayListener = r.gatewayListener →
      r'.nextListener = r.nextListener →
      Names (r'.listeners (stopped ++ r.letGo r')) r'.nextListener issued := by
    intro r' hlistener hnext
    unfold Routing.listeners
    rw [Routing.letGo_kept (congrArg (Option.map GatewayListener.identity) hlistener),
      List.append_nil, hlistener, hnext]
    exact names
  have hstopped : ∀ {r' : Routing}, r'.gatewayListener = none → r'.nextListener = r.nextListener →
      Names (r'.listeners (stopped ++ r.letGo r')) r'.nextListener issued := by
    intro r' hlistener hnext
    have hgone : r.letGo r' = r.gatewayListener.toList := by
      refine Routing.letGo_gone ?_
      intro l _ hsame
      rw [hlistener] at hsame
      cases hsame
    unfold Routing.listeners
    rw [hgone, hlistener, hnext, Option.toList_none, List.append_nil]
    exact names
  cases moves with
  | stay => exact hkept rfl rfl
  | listen idle stopped =>
    have hgone : r.letGo { r with
        gatewayListener := some { identity := r.nextListener }
        nextListener := r.nextListener + 1
        acceptRunning := true } = r.gatewayListener.toList := by
      refine Routing.letGo_gone ?_
      intro l hl hsame
      -- the new listener has a number above every earlier one
      have hlt := names.lt l (List.mem_append_right _ (Option.mem_toList.mpr hl))
      exact Nat.ne_of_lt hlt (Option.some_injective _ hsame).symm
    rw [hgone]
    exact names.listen
  | unlisten idle => exact hstopped rfl rfl
  | disconnect => exact hstopped rfl rfl
  | cdc nodeId peer idle => exact hkept rfl rfl
  | select nodeId live => exact hkept rfl rfl
  | fail => exact hkept rfl rfl
  -- the end of a session gives its slot back and issues nothing
  | finish i live =>
    obtain ⟨hlistener, hnext, -⟩ := r.finish_listener i
    have hreleases := releases_finish i
    have hsame : (r.finish i).gatewayListener.map GatewayListener.identity =
        r.gatewayListener.map GatewayListener.identity := by
      rw [hlistener]
      exact hreleases.map_identity _
    have hreleased := names.released (f := id) (fun _ => .inl rfl) hreleases
    rw [List.map_id] at hreleased
    unfold Routing.listeners
    rw [Routing.letGo_kept hsame, List.append_nil, hlistener, hnext]
    exact hreleased

/-- So does an envelope that is taken. -/
lemma Routing.Delivers.names {stopped : List GatewayListener} (delivers : r.Delivers r')
    (names : Names (r.listeners stopped) r.nextListener issued) :
    Names (r'.listeners (r.releaseStale stopped)) r'.nextListener issued := by
  have hstale : ∃ f, Releases f ∧ r.releaseStale stopped = stopped.map f := by
    unfold Routing.releaseStale
    split
    · exact ⟨id, fun _ => .inl rfl, (List.map_id _).symm⟩
    · rename_i envelope _ _
      refine ⟨_, ?_, rfl⟩
      intro l
      dsimp only
      split
      · exact .inr ⟨_, rfl⟩
      · exact .inl rfl
  obtain ⟨f, hf, heq⟩ := hstale
  have hreleased : ∀ {r' : Routing} (f' : GatewayListener → GatewayListener), Releases f' →
      r'.gatewayListener = r.gatewayListener.map f' → r'.nextListener = r.nextListener →
      Names (r'.listeners (r.releaseStale stopped)) r'.nextListener issued := by
    intro r' f' hf' hlistener hnext
    unfold Routing.listeners
    rw [heq, hlistener, hnext]
    exact Names.released names hf hf'
  have hsame : Releases id := fun _ => .inl rfl
  cases delivers with
  | none empty => exact hreleased id hsame Option.map_id'.symm rfl
  | drop queued stale => exact hreleased id hsame Option.map_id'.symm rfl
  | deliver queued current admits =>
    cases admits with
    | refused => exact hreleased _ (fun _ => .inr ⟨_, rfl⟩) rfl rfl
    | admitted wifi => exact hreleased id hsame Option.map_id'.symm rfl

/-- A client that is accepted is given a new name. -/
lemma Routing.Accepts.names {stopped : List GatewayListener} {peer : Text}
    (accepts : r.Accepts peer r') (names : Names (r.listeners stopped) r.nextListener issued) :
    Names (r'.listeners stopped) r'.nextListener (issued ++ r.sentSince r') := by
  cases accepts with
  | none =>
    unfold Routing.sentSince
    rw [List.drop_length]
    show Names _ _ (issued ++ [])
    rw [List.append_nil]
    exact names
  | accepted listener current =>
    have hsent : r.sentSince (r.accept listener peer) =
        (listener.accept peer).2.toList.map fun client =>
          (listener.identity, client.connectionId) := by
      unfold Routing.sentSince Routing.accept
      dsimp only
      rw [List.drop_left, List.map_map]
      rfl
    have hbefore : r.listeners stopped = stopped ++ [listener] := by
      unfold Routing.listeners
      rw [current]
      rfl
    rw [hbefore] at names
    rw [hsent]
    refine names.accept (List.mem_append_right _ (List.mem_singleton_self _)) peer ?_ ?_
    · show (stopped ++ [(listener.accept peer).1]).map GatewayListener.identity = _
      rw [List.map_append, List.map_append, List.map_singleton, List.map_singleton,
        listener.accept_identity]
    · intro l hl
      cases List.mem_append.mp hl with
      | inr hnew => exact .inl (List.mem_singleton.mp hnew)
      | inl hold =>
        refine .inr ⟨List.mem_append_left _ hold, ?_⟩
        have hdistinct := names.distinct
        rw [List.map_append] at hdistinct
        exact (List.nodup_append.mp hdistinct).2.2 _ (List.mem_map_of_mem hold) _
          (List.mem_singleton_self _)

/-- The slots, the names and the sessions are accounted for. -/
structure Gateway.Accounted (g : Gateway) : Prop where
  formed : WellFormed g.controller
  slotted : g.controller.routing.Slotted
  names : Names (g.controller.routing.listeners g.stopped) g.controller.nextListener g.issued
  admissions : Admissions g.controller.routing g.admitted

/-- A listener that was stopped takes no slot of the current one. -/
lemma Gateway.Accounted.lateAccept (accounted : g.Accounted) (listener : Nat) (peer : Text) :
    (g.step crc32 (.lateAccept listener peer)).Accounted := by
  unfold Gateway.step
  dsimp only
  split
  · exact accounted
  · rename_i l hfound
    have hl : l ∈ g.stopped := List.mem_of_find?_eq_some hfound
    have hlisted : l ∈ g.controller.routing.listeners g.stopped := List.mem_append_left _ hl
    have hdistinct := accounted.names.distinct
    unfold Routing.listeners at hdistinct
    rw [List.map_append] at hdistinct
    obtain ⟨hstopped, -, hcurrent⟩ := List.nodup_append.mp hdistinct
    -- it is not the current listener
    have hother : ∀ l', g.controller.gatewayListener = some l' → l'.identity ≠ l.identity := by
      intro l' hl' heq
      refine hcurrent _ (List.mem_map_of_mem hl) _ (List.mem_map_of_mem ?_) heq.symm
      exact Option.mem_toList.mpr hl'
    refine ⟨?_, ?_, ?_, ?_⟩
    · exact ⟨accounted.formed.nodup, accounted.formed.lt, accounted.formed.formed,
        accounted.formed.apart, accounted.formed.keyed⟩
    · refine ⟨accounted.slotted.idle, ?_, ?_⟩
      · intro l' hl'
        obtain ⟨hlt, hholds⟩ := accounted.slotted.held l' hl'
        refine ⟨hlt, ?_⟩
        have hnone : ((l.accept peer).2.toList.map fun client =>
            ({ listener := l.identity, client } : GatewayEnvelope)).filter
              (fun envelope => envelope.listener = l'.identity) = [] := by
          refine List.filter_eq_nil_iff.mpr ?_
          intro envelope hmem heq
          obtain ⟨client, -, rfl⟩ := List.mem_map.mp hmem
          exact hother l' hl' (of_decide_eq_true heq).symm
        have hflight := g.controller.routing.inFlight_append ((l.accept peer).2.toList.map
          fun client => { listener := l.identity, client }) l'.identity
        rw [hnone, List.map_nil, List.append_nil] at hflight
        have hoccupants := congrArg (g.controller.routing.wifiNodes ++ ·) hflight.symm
        exact hoccupants ▸ hholds
      · intro envelope hmem
        cases List.mem_append.mp hmem with
        | inl hold => exact accounted.slotted.sent envelope hold
        | inr hnew =>
          obtain ⟨client, -, rfl⟩ := List.mem_map.mp hnew
          exact accounted.names.lt l hlisted
    · refine accounted.names.accept hlisted peer ?_ ?_
      · show List.map _ (List.map _ g.stopped ++ g.controller.gatewayListener.toList) = _
        unfold Routing.listeners
        rw [List.map_append, List.map_append, List.map_map]
        congr 1
        refine List.map_congr_left ?_
        intro k _
        rw [Function.comp_apply]
        split
        · rename_i heq
          exact (l.accept_identity peer).trans heq.symm
        · rfl
      · intro l' hl'
        cases List.mem_append.mp hl' with
        | inr hcur => exact .inr ⟨List.mem_append_right _ hcur, hother l' (Option.mem_toList.mp hcur)⟩
        | inl hold =>
          obtain ⟨k, hk, rfl⟩ := List.mem_map.mp hold
          split
          · exact .inl rfl
          · rename_i hne
            exact .inr ⟨List.mem_append_left _ hk, hne⟩
    · exact accounted.admissions.sub (fun _ h => h) rfl rfl

/-- Every event keeps the account. -/
lemma Gateway.Accounted.step (accounted : g.Accounted) {e : GatewayEvent} (he : e.handsOver = false) :
    (g.step crc32 e).Accounted := by
  cases e with
  | lateAccept listener peer => exact accounted.lateAccept listener peer
  | event e =>
    have hformed := wellFormed_step crc32 e accounted.formed
    by_cases hclients : e.Clients
    · cases e with
      | operation h o =>
        cases o with
        | acceptGatewayClient client => cases he
        | _ => exact hclients.elim
      | gatewayEnvelope =>
        have hdelivers : g.controller.routing.Delivers
            (g.controller.step crc32 .gatewayEnvelope).routing := delivers_gatewayEnvelope
        exact ⟨hformed, hdelivers.slotted accounted.slotted, hdelivers.names accounted.names,
          hdelivers.admissions accounted.admissions⟩
      | acceptSocket peer =>
        have haccepts : g.controller.routing.Accepts peer
            (g.controller.step crc32 (.acceptSocket peer)).routing := accepts_acceptSocket peer
        exact ⟨hformed, haccepts.slotted accounted.slotted, haccepts.names accounted.names,
          haccepts.admissions accounted.admissions⟩
      | _ => exact hclients.elim
    · have hmoves := step_moves crc32 hclients accounted.formed.nodup
      have hstep : g.step crc32 (.event e) = { g with
          controller := g.controller.step crc32 e
          stopped := g.stopped ++
            g.controller.routing.letGo (g.controller.step crc32 e).routing } := by
        cases e with
        | gatewayEnvelope => exact absurd trivial hclients
        | acceptSocket peer => exact absurd trivial hclients
        | _ => rfl
      rw [hstep]
      have hapart := g.controller.routing_sids ▸ accounted.formed.nodup
      exact ⟨hformed, hmoves.slotted accounted.slotted hapart, hmoves.names accounted.names,
        hmoves.admissions accounted.admissions⟩

/-- Initially there is nothing to account for. -/
lemma accounted_initial (aliases : List (Text × Text)) :
    Gateway.Accounted { controller := AppController.initial aliases } := by
  refine ⟨wellFormed_initial aliases, ⟨?_, ?_, ?_⟩, ⟨?_, ?_, List.nodup_nil, ?_⟩, ⟨?_, ?_, ?_, ?_⟩⟩
  · exact fun _ i hi => absurd hi List.not_mem_nil
  · exact fun l hl => (nomatch hl)
  · exact fun envelope hmem => absurd hmem List.not_mem_nil
  · exact List.nodup_nil
  · exact fun l hl => absurd hl List.not_mem_nil
  · exact fun p hp => absurd hp List.not_mem_nil
  · exact fun i hi => absurd hi List.not_mem_nil
  · exact fun i hi => absurd hi List.not_mem_nil
  · exact fun i hi => absurd hi List.not_mem_nil
  · exact fun p hp => absurd hp List.not_mem_nil

/-- The clients of stopped listeners change no session and no slot. -/
lemma Gateway.Stale.harmless {e : GatewayEvent} (h : g.Stale e) :
    (g.step crc32 e).controller =
      { g.controller with envelopes := (g.step crc32 e).controller.envelopes } := by
  cases e with
  | lateAccept listener peer =>
    unfold Gateway.step
    dsimp only
    split
    · rfl
    · rfl
  | event e =>
    cases e with
    | gatewayEnvelope =>
      obtain ⟨envelope, rest, hqueued, hstale⟩ := h
      have hstep : g.controller.step crc32 .gatewayEnvelope =
          { g.controller with envelopes := rest } := by
        rw [AppController.step, hqueued]
        exact if_neg hstale
      show g.controller.step crc32 .gatewayEnvelope = { g.controller with
        envelopes := (g.controller.step crc32 .gatewayEnvelope).envelopes }
      rw [hstep]
    | _ => exact h.elim

/-- Whatever is accepted, delivered, refused, ended, stopped and started, in whatever order: the slots
of the current listener are those of the sessions that it admitted and of its clients on their way,
and there are never more than it may have; no listener gives a name twice; every Wi-Fi session was
admitted by the current listener and by no other, and a client of a listener that was stopped changes
no session and no slot. -/
theorem slots_accounted (crc32 : Bytes → UInt32) (aliases : List (Text × Text))
    (events : List GatewayEvent) (queued : ∀ e ∈ events, e.handsOver = false) :
    let g := Gateway.run crc32 aliases events
    let c := g.controller
    (∀ l, c.gatewayListener = some l →
      l.activeConnections.Nodup ∧ l.activeConnections.length ≤ l.maximumClients ∧
      l.activeConnections.Perm
        ((c.sessions.filter fun s => (s.sid, l.identity) ∈ g.admitted).map ManagedSession.nodeId ++
          (c.envelopes.filter fun envelope => envelope.listener = l.identity).map
            fun envelope => envelope.client.connectionId)) ∧
    g.issued.Nodup ∧
    (∀ s ∈ c.sessions, s.transportKind = .wifi →
      ∃ l, c.gatewayListener = some l ∧ (s.sid, l.identity) ∈ g.admitted) ∧
    (∀ s ∈ c.sessions, ∀ k, (s.sid, k) ∈ g.admitted →
      s.transportKind = .wifi ∧ c.gatewayListener.map GatewayListener.identity = some k) ∧
    ∀ e, g.Stale e →
      (g.step crc32 e).controller = { c with envelopes := (g.step crc32 e).controller.envelopes } := by
  intro g c
  have accounted : g.Accounted := by
    refine Along.invariant (I := Gateway.Accounted) (P := fun _ e => e.handsOver = false) ?_ ?_
      (accounted_initial aliases)
    · exact fun _ _ haccounted he => haccounted.step he
    · exact along_of_forall fun e he _ => queued e he
  obtain ⟨-, slotted, names, admissions⟩ := accounted
  refine ⟨?_, names.once, ?_, ?_, ?_⟩
  · intro l hl
    obtain ⟨-, hholds⟩ := slotted.held l hl
    refine ⟨hholds.distinct, hholds.capacity, ?_⟩
    -- the sessions with WiFi are those that this listener's envelopes became
    have hadmitted : c.routing.wifiNodes =
        (c.sessions.filter fun s => (s.sid, l.identity) ∈ g.admitted).map ManagedSession.nodeId := by
      unfold Routing.wifiNodes AppController.routing
      dsimp only
      rw [List.filter_map, List.map_map]
      refine congrArg (List.map _) (List.filter_congr ?_)
      intro s hs
      rw [Function.comp_apply]
      refine decide_eq_decide.mpr ?_
      constructor
      · intro hwifi
        obtain ⟨k, hk, hlistener⟩ := admissions.joined s.identity (List.mem_map_of_mem hs) hwifi
        have hsame : some l.identity = some k :=
          (congrArg (Option.map GatewayListener.identity) hl).symm.trans hlistener
        exact Option.some_injective _ hsame ▸ hk
      · exact fun hmem => (admissions.current s.identity (List.mem_map_of_mem hs) _ hmem).1
    rw [← hadmitted]
    exact hholds.slots
  · intro s hs hwifi
    obtain ⟨k, hk, hlistener⟩ := admissions.joined s.identity (List.mem_map_of_mem hs) hwifi
    obtain ⟨l, hl, rfl⟩ := Option.map_eq_some_iff.mp hlistener
    exact ⟨l, hl, hk⟩
  · exact fun s hs k hk => admissions.current s.identity (List.mem_map_of_mem hs) k hk
  · exact fun e he => he.harmless

/-- A listener is stopped with a client on its way and replaced; the old one still accepts a client. -/
def staleClients : List GatewayEvent :=
  [.event (.operation {} (.startWifiServer [])), .event (.acceptSocket "a".toList),
    .event .gatewayEnvelope, .event (.acceptSocket "b".toList), .event (.operation {} .disconnectDevice),
    .event (.operation {} (.startWifiServer [])), .event (.acceptSocket "c".toList),
    .lateAccept 0 "d".toList, .event .gatewayEnvelope, .event .gatewayEnvelope]

/-- Behind it the new listener has the slot of the one client that it was handed, while a client of the
old one is still on its way. -/
theorem slots_accounted_stale :
    (∃ l, (Gateway.run zlibCrc32 [] staleClients).controller.gatewayListener = some l ∧
      l.activeConnections.Perm ["wifi-1".toList] ∧
      l.activeConnections.length ≤ l.maximumClients) ∧
    (Gateway.run zlibCrc32 [] staleClients).controller.envelopes.length = 1 ∧
    (Gateway.run zlibCrc32 [] staleClients).issued.Nodup ∧
    (Gateway.run zlibCrc32 [] staleClients).issued.length = 4 := by
  obtain ⟨hslots, honce, -⟩ := slots_accounted zlibCrc32 [] staleClients (by decide)
  have hlistener : (Gateway.run zlibCrc32 [] staleClients).controller.gatewayListener.map
      GatewayListener.identity = some 1 := by
    decide +kernel
  obtain ⟨l, hl, hidentity⟩ := Option.map_eq_some_iff.mp hlistener
  obtain ⟨-, hcapacity, hperm⟩ := hslots l hl
  have hadmitted : ((Gateway.run zlibCrc32 [] staleClients).controller.sessions.filter fun s =>
      (s.sid, 1) ∈ (Gateway.run zlibCrc32 [] staleClients).admitted).map ManagedSession.nodeId =
        ["wifi-1".toList] := by
    decide +kernel
  have hqueued : ((Gateway.run zlibCrc32 [] staleClients).controller.envelopes.filter fun envelope =>
      envelope.listener = 1) = [] := by
    decide +kernel
  rw [hidentity, hadmitted, hqueued] at hperm
  exact ⟨⟨l, hl, hperm, hcapacity⟩, by decide +kernel, honce, by decide +kernel⟩

end SensorHost.Presentation
