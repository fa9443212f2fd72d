import SensorHost.Presentation.Quiet

/-!
# How the routing moves

A client of the listener is accepted (`Routing.Accepts`), waits as an envelope, and is delivered or
dropped (`Routing.Delivers`). Every other event keeps the routing or changes it by one rule of
`Routing.Moves`: a listener starts or stops, a session is opened, ends or is selected. The invariants
of the routing are proved about the rules, not about the operations.

The rules are few and speak of the routing alone, so an invariant of it has one case for a rule and
none for an operation. An operation is taken apart by what it does first: `disconnectDevice_eq` and
`onThreadFinished_eq` write it as a rule of the routing with quiet parts around it, and `moves_…`
reads the rule off. `step_moves` is the case split over the events that may change the routing; the
others are quiet (`quiet_step`).
-/

namespace SensorHost.Presentation
open SensorHost.Lib SensorHost.Protocol SensorHost.Storage SensorHost.Acquisition SensorHost.Ota
  SensorHost.Transport

/-- The routing with one more session. -/
def Routing.add (r : Routing) (nodeId peer : Text) (kind : TransportKind) : Routing :=
  { r with
    identities := r.identities ++ [(r.nextSession, nodeId, peer, kind)]
    selectedNodeId := r.selectedNodeId.or (some nodeId)
    nextSession := r.nextSession + 1 }

/-- The routing without its listener. -/
def Routing.unlisten (r : Routing) : Routing :=
  { r with gatewayListener := none, acceptRunning := false }

/-- The routing with a slot of the listener free. -/
def Routing.release (r : Routing) (connectionId : Text) : Routing :=
  { r with gatewayListener := r.gatewayListener.map fun l => l.release connectionId }

/-- The routing behind the end of a node, which is not selected any longer. -/
def Routing.reselect (r : Routing) (nodeId : Text) : Routing :=
  { r with
    selectedNodeId := if r.selectedNodeId = some nodeId then r.identities.head?.map fun j => j.2.1
      else r.selectedNodeId }

/-- The routing without a session. -/
def Routing.finish (r : Routing) (i : Nat × Text × Text × TransportKind) : Routing :=
  let freed := if i.2.2.2 = .wifi then r.release i.2.1 else r
  { freed with identities := r.identities.filter fun j => j.1 != i.1 }.reselect i.2.1

/-- A client that reaches the controller becomes a session, or its slot is freed. -/
inductive Routing.Admits (r : Routing) (client : AcceptedGatewayClient) : Routing → Prop
  | refused : Admits r client (r.release client.connectionId)
  | admitted (wifi : ∀ i ∈ r.identities, i.2.2.2 = .wifi) :
      Admits r client (r.add client.connectionId client.peer .wifi)

/-- The routing behind a peer that connects. -/
def Routing.accept (r : Routing) (listener : GatewayListener) (peer : Text) : Routing :=
  { r with
    gatewayListener := some (listener.accept peer).1
    envelopes := r.envelopes ++ (listener.accept peer).2.toList.map fun client =>
      { listener := listener.identity, client } }

/-- A peer reaches the listener, if there is one. -/
inductive Routing.Accepts (r : Routing) (peer : Text) : Routing → Prop
  | none : Accepts r peer r
  | accepted (listener : GatewayListener) (current : r.gatewayListener = some listener) :
      Accepts r peer (r.accept listener peer)

/-- The first envelope, if there is one, is taken; that of a listener that was stopped is dropped. -/
inductive Routing.Delivers (r : Routing) : Routing → Prop
  | none (empty : r.envelopes = []) : Delivers r r
  | drop {envelope rest} (queued : r.envelopes = envelope :: rest)
      (stale : r.gatewayListener.map GatewayListener.identity ≠ some envelope.listener) :
      Delivers r { r with envelopes := rest }
  | deliver {envelope rest r'} (queued : r.envelopes = envelope :: rest)
      (current : r.gatewayListener.map GatewayListener.identity = some envelope.listener)
      (admits : { r with envelopes := rest }.Admits envelope.client r') : Delivers r r'

/-- The rules by which the other events change the routing. -/
inductive Routing.Moves (r : Routing) : Routing → Prop
  | stay : Moves r r
  | listen (idle : r.identities = []) (stopped : r.acceptRunning = false) :
      Moves r { r with
        gatewayListener := some { identity := r.nextListener }
        nextListener := r.nextListener + 1
        acceptRunning := true }
  | unlisten (idle : r.identities = []) : Moves r r.unlisten
  | disconnect : Moves r { r.unlisten with identities := [], selectedNodeId := none }
  | cdc (nodeId peer : Text) (idle : r.identities = []) : Moves r (r.add nodeId peer .cdc)
  | select (nodeId : Text) (live : ∃ i ∈ r.identities, i.2.1 = nodeId) :
      Moves r { r with selectedNodeId := some nodeId }
  | fail : Moves r { r with acceptRunning := false }
  | finish (i : Nat × Text × Text × TransportKind) (live : i ∈ r.identities) :
      Moves r (r.finish i)

variable {crc32 : Bytes → UInt32} {c d : AppController} {s : ManagedSession}

/-- Telling the nodes keeps the routing. -/
lemma routing_emitNodes (c : AppController) : c.emitNodes.routing = c.routing :=
  (Quiet.refl c).emitNodes.routing

/-- A node is selected if it has a session. -/
lemma routing_selectNode (c : AppController) (nodeId : Text) :
    (c.selectNode nodeId).routing = c.routing ∧ c.session? nodeId = none ∨
      (c.selectNode nodeId).routing = { c.routing with selectedNodeId := some nodeId } ∧
        ∃ s ∈ c.sessions, s.nodeId = nodeId := by
  unfold AppController.selectNode AppController.withSession
  cases hsession : c.session? nodeId with
  | none => exact .inl ⟨rfl, rfl⟩
  | some s =>
    obtain ⟨live, hnode⟩ := session?_some hsession
    refine .inr ⟨?_, s, live, hnode⟩
    exact (Quiet.refl _).emitOtaAvailability.routing

/-- A session that was added is selected, if no other is. -/
lemma routing_selectAdded (nodeId : Text) (live : ∃ s ∈ c.sessions, s.nodeId = nodeId) :
    (if c.selectedNodeId.isNone then c.selectNode nodeId else c).routing =
      { c.routing with selectedNodeId := c.routing.selectedNodeId.or (some nodeId) } := by
  cases hselected : c.selectedNodeId with
  | some selected =>
    rw [if_neg (by rw [Option.isNone_some]; exact Bool.false_ne_true)]
    unfold AppController.routing
    rw [hselected]
    rfl
  | none =>
    rw [if_pos Option.isNone_none]
    rcases routing_selectNode c nodeId with ⟨-, hmissing⟩ | ⟨heq, -⟩
    · obtain ⟨s, hs, hnode⟩ := live
      exact absurd (beq_iff_eq.mpr hnode) (List.find?_eq_none.mp hmissing s hs)
    · rw [heq]
      unfold AppController.routing
      rw [hselected]
      rfl

/-- A session that is added is routed. -/
lemma routing_addSession {nodeId peer : Text} {kind : TransportKind}
    (h : c.addSession nodeId peer kind = .ok d) :
    d.routing = c.routing.add nodeId peer kind := by
  unfold AppController.addSession at h
  cases hadd : c.sessionIndex.addSession nodeId kind peer with
  | error error =>
    rw [hadd] at h
    cases h
  | ok sessionIndex =>
    rw [hadd] at h
    dsimp only at h
    cases h
    let e : AppController := { c with
      sessionIndex := sessionIndex
      sessions := c.sessions ++
        [AppController.newSession c.nextSession nodeId peer kind c.recordingActive]
      nextSession := c.nextSession + 1 }
    have hlive : ∃ s ∈ e.sessions, s.nodeId = nodeId := by
      refine ⟨_, List.mem_append_right _ (List.mem_singleton_self _), ?_⟩
      rfl
    have hids : e.routing.identities =
        c.routing.identities ++ [(c.nextSession, nodeId, peer, kind)] := List.map_append
    rw [routing_emitNodes]
    calc
      _ = (if e.selectedNodeId.isNone then e.selectNode nodeId else e).routing := rfl
      _ = { e.routing with selectedNodeId := e.routing.selectedNodeId.or (some nodeId) } :=
          routing_selectAdded nodeId hlive
      _ = { c.routing with
            identities := e.routing.identities
            selectedNodeId := c.routing.selectedNodeId.or (some nodeId)
            nextSession := c.routing.nextSession + 1 } := rfl
      _ = c.routing.add nodeId peer kind := by
          rw [hids]
          rfl

/-- `connect_device` keeps to the rules. -/
lemma moves_connectDevice (h : Host) (deviceId : Text) :
    c.routing.Moves (c.connectDevice h deviceId).routing := by
  unfold AppController.connectDevice
  split
  · exact .stay
  · split
    · exact .stay
    · rename_i hidle
      have hids : c.routing.identities = [] := List.map_eq_nil_iff.mpr (not_not.mp hidle)
      split
      · exact .stay
      · split
        · rename_i hadd
          rw [routing_addSession hadd]
          exact .cdc _ _ hids
        · exact .stay

/-- A client becomes a session, or its slot is freed. -/
lemma admits_acceptGatewayClient (client : AcceptedGatewayClient) :
    c.routing.Admits client (c.acceptGatewayClient client).routing := by
  unfold AppController.acceptGatewayClient
  split
  · exact .refused
  · rename_i hcdc
    split
    · rename_i hadd
      rw [routing_addSession hadd]
      refine .admitted ?_
      intro i hi
      obtain ⟨s, hs, rfl⟩ := List.mem_map.mp hi
      cases hkind : s.transportKind with
      | wifi => exact hkind
      | cdc =>
        refine absurd (List.any_eq_true.mpr ⟨s, hs, ?_⟩) hcdc
        rw [hkind]
        rfl
    · exact .refused

/-- An envelope is taken. -/
lemma delivers_gatewayEnvelope : c.routing.Delivers (c.step crc32 .gatewayEnvelope).routing := by
  rw [AppController.step]
  cases henvelopes : c.envelopes with
  | nil => exact .none henvelopes
  | cons envelope rest =>
    unfold AppController.acceptGatewayEnvelope
    dsimp only
    split
    · rename_i hcurrent
      refine .deliver henvelopes hcurrent ?_
      exact admits_acceptGatewayClient (c := { c with envelopes := rest }) envelope.client
    · rename_i hstale
      exact .drop henvelopes hstale

/-- `start_wifi_server` keeps to the rules. -/
lemma moves_startWifiServer (h : Host) (endpoint : Text) :
    c.routing.Moves (c.startWifiServer h endpoint).routing := by
  unfold AppController.startWifiServer
  split
  · exact .stay
  · rename_i hidle
    obtain ⟨hsessions, hstopped⟩ := not_or.mp hidle
    split
    · exact .stay
    · exact .listen (List.map_eq_nil_iff.mpr (not_not.mp hsessions))
        (Bool.eq_false_of_not_eq_true hstopped)

/-- The controller without its listener. -/
def AppController.unlistened (c : AppController) : AppController :=
  { c with gatewayListener := none, acceptRunning := false }

/-- Behind `_stop_wifi_resources` the listener is gone, and the rest of the routing is kept. -/
lemma quiet_stopWifiResources (h : Host) : Quiet c.unlistened (c.stopWifiResources h) := by
  unfold AppController.stopWifiResources
  dsimp only
  split
  · refine Quiet.raiseError ?_ _
    exact .of_eq rfl rfl
  · exact .of_eq rfl rfl

/-- A peer reaches the listener. -/
lemma accepts_acceptSocket (peer : Text) :
    c.routing.Accepts peer (c.step crc32 (.acceptSocket peer)).routing := by
  rw [AppController.step]
  split
  · rename_i listener _ hlistener
    exact .accepted listener hlistener
  · exact .none

/-- A disconnect stops the listener and the recorders before the sessions are dropped. -/
lemma disconnectDevice_eq (h : Host) (apart : (c.sessions.map ManagedSession.sid).Nodup) :
    ∃ d, Quiet c.unlistened d ∧ (c.disconnectDevice h).book = d.book ∧
      (c.disconnectDevice h).routing =
        { d.routing with identities := [], selectedNodeId := none } := by
  unfold AppController.disconnectDevice
  dsimp only
  have hapart : (c.unlistened.sessions.map ManagedSession.sid).Nodup := apart
  have hstopped : Quiet c.unlistened ({ c with isStopping := true }.stopWifiResources h) := by
    refine Quiet.trans ?_ (quiet_stopWifiResources h)
    exact .of_eq rfl rfl
  generalize { c with isStopping := true }.stopWifiResources h = d at *
  have hcancelled : Quiet c.unlistened { d with
      timerActive := false
      statusTimerActive := false
      otaReconnectTimerActive := false
      otaReconnect := none }.requestOtaCancel := by
    refine hstopped.trans ?_
    exact .of_eq rfl rfl
  generalize { d with
    timerActive := false
    statusTimerActive := false
    otaReconnectTimerActive := false
    otaReconnect := none }.requestOtaCancel = e at *
  have hasked : Quiet c.unlistened (e.mapSessions fun s =>
      { s with stopRequested := true, transportOpen := false }) :=
    hcancelled.mapSessions fun _ => rfl
  refine ⟨_, hasked.forSessions hapart ?_, rfl, rfl⟩
  intro b s known _
  generalize hd : (if h.threadStops s.sid = true then b else _) = a
  have hwaited : Quiet b a := by
    rw [← hd]
    split
    · exact .refl b
    · exact (Quiet.refl b).raiseError _
  have hfinal := hwaited.trans (quiet_finalizeSessionRecorders h (known.of_quiet hwaited))
  refine hfinal.trans ?_
  exact .of_eq rfl rfl

/-- Behind a disconnect there is no session and no listener. -/
lemma routing_disconnectDevice (h : Host) (apart : (c.sessions.map ManagedSession.sid).Nodup) :
    (c.disconnectDevice h).routing =
      { c.routing.unlisten with identities := [], selectedNodeId := none } := by
  obtain ⟨d, hquiet, -, hrouting⟩ := disconnectDevice_eq h apart
  rw [hrouting, hquiet.routing]
  rfl

/-- `disconnect_device` keeps to the rules. -/
lemma moves_disconnectDevice (h : Host) (apart : (c.sessions.map ManagedSession.sid).Nodup) :
    c.routing.Moves (c.disconnectDevice h).routing := by
  rw [routing_disconnectDevice h apart]
  exact .disconnect

/-- So does `stop_wifi_server`. -/
lemma moves_stopWifiServer (h : Host) (apart : (c.sessions.map ManagedSession.sid).Nodup) :
    c.routing.Moves (c.stopWifiServer h).routing := by
  have hquiet := quiet_stopWifiResources (c := c) h
  have happart : ((c.stopWifiResources h).sessions.map ManagedSession.sid).Nodup :=
    hquiet.sids ▸ apart
  unfold AppController.stopWifiServer
  dsimp only
  split
  · have hrouting := routing_disconnectDevice h happart
    rw [hquiet.routing] at hrouting
    refine hrouting.symm ▸ ?_
    exact .disconnect
  · rename_i hempty
    have hids : c.routing.identities = [] :=
      (congrArg Routing.identities hquiet.routing).symm.trans
        (List.map_eq_nil_iff.mpr (not_not.mp hempty))
    refine hquiet.routing.symm ▸ ?_
    exact .unlisten hids

/-- The display behind the end of a session. -/
lemma quiet_displayed (c : AppController) :
    Quiet c (if c.sessions = [] then
      (if c.acceptRunning = true then
        { c with timerActive := false, statusTimerActive := false }.emit
          (.wifiServerChanged true c.wifiServerLabel)
      else { c with timerActive := false, statusTimerActive := false }.emit
        (.connectionChanged false [])).emit .displayClearRequested
    else c) := by
  have htimers : Quiet c { c with timerActive := false, statusTimerActive := false } :=
    .of_eq rfl rfl
  split
  · split
    · exact (htimers.emit _).emit _
    · exact (htimers.emit _).emit _
  · exact .refl c

/-- Where the selected node goes another one is selected. -/
lemma routing_reselect (c : AppController) (nodeId : Text) :
    (if c.selectedNodeId = some nodeId then
        { c with selectedNodeId := c.sessions.head?.map ManagedSession.nodeId }
      else c).routing = c.routing.reselect nodeId := by
  have hhead : c.sessions.head?.map ManagedSession.nodeId =
      (c.sessions.map ManagedSession.identity).head?.map fun j => j.2.1 := by
    rw [List.head?_map, Option.map_map]
    rfl
  unfold Routing.reselect AppController.routing
  dsimp only
  rw [hhead]
  split
  · rfl
  · rfl

/-- The inventory does not touch the routing and the book. -/
lemma finished_withIndex (result : Except SessionError NodeSessionManager) :
    (c.withIndex result).routing = c.routing ∧ (c.withIndex result).book = c.book := by
  cases result with
  | ok sessionIndex => exact ⟨rfl, rfl⟩
  | error error => exact ⟨rfl, rfl⟩

/-- The end of a session: its recorders are closed, and the routing loses it. -/
lemma onThreadFinished_eq (h : Host) (known : Known c s) (running : c.isStopping = false) :
    (c.onThreadFinished h s).routing = c.routing.finish s.identity ∧
      c.book.Leads (c.onThreadFinished h s).book := by
  have hclosed := quiet_finalizeSessionRecorders h known
  rw [← hclosed.routing]
  unfold AppController.onThreadFinished
  rw [if_neg (by rw [running]; exact Bool.false_ne_true)]
  generalize c.finalizeSessionRecorders h s = d at *
  dsimp only
  generalize he : (if s.transportKind = .wifi then
      ({ d with sessions := d.sessions.filter fun t => t.sid != s.sid }.releaseGatewayClient
        s.nodeId).withIndex (d.sessionIndex.markReconnecting s.nodeId s.failure)
    else { d with sessions := d.sessions.filter fun t => t.sid != s.sid }.withIndex
      (d.sessionIndex.markOffline s.nodeId s.failure)) = e
  have hids : (d.sessions.filter fun t => t.sid != s.sid).map ManagedSession.identity =
      d.routing.identities.filter fun j => j.1 != s.sid := by
    unfold AppController.routing
    dsimp only
    rw [List.filter_map]
    rfl
  -- only a WiFi session holds a slot of the listener
  have hfreed : e.routing = { (if s.transportKind = .wifi then d.routing.release s.nodeId
      else d.routing) with identities := d.routing.identities.filter fun j => j.1 != s.sid } ∧
      e.book = d.book := by
    rw [← he, ← hids]
    split
    · exact finished_withIndex _
    · exact finished_withIndex _
  have hchosen := routing_reselect e s.nodeId
  have hbook : (if e.selectedNodeId = some s.nodeId then
      { e with selectedNodeId := e.sessions.head?.map ManagedSession.nodeId } else e).book =
      e.book := by
    split
    · rfl
    · rfl
  generalize (if e.selectedNodeId = some s.nodeId then
      { e with selectedNodeId := e.sessions.head?.map ManagedSession.nodeId } else e) = f at *
  have hemitted : Quiet f (if e.selectedNodeId = some s.nodeId then
      f.emitNodes.emit (.selectedNodeChanged (f.emitNodes.selectedNodeId.getD []))
    else f.emitNodes) := by
    split
    · exact (Quiet.refl f).emitNodes.emit _
    · exact (Quiet.refl f).emitNodes
  have hlast := hemitted.trans (quiet_displayed _)
  refine ⟨hlast.routing.trans ?_, ?_⟩
  · rw [hchosen, hfreed.1]
    rfl
  · refine hclosed.book.trans ?_
    rw [← hfreed.2, ← hbook]
    exact hlast.book

/-- The end of a thread keeps to the rules. -/
lemma moves_onThreadFinished (h : Host) (known : Known c s) (live : s ∈ c.sessions) :
    c.routing.Moves (c.onThreadFinished h s).routing := by
  cases hrunning : c.isStopping with
  | true =>
    unfold AppController.onThreadFinished
    rw [if_pos hrunning]
    exact .stay
  | false =>
    rw [(onThreadFinished_eq h known hrunning).1]
    exact .finish s.identity (List.mem_map_of_mem live)

/-- So does `select_node`. -/
lemma moves_selectNode (nodeId : Text) : c.routing.Moves (c.selectNode nodeId).routing := by
  rcases routing_selectNode c nodeId with ⟨heq, -⟩ | ⟨heq, s, live, hnode⟩
  · rw [heq]
    exact .stay
  · rw [heq]
    exact .select nodeId ⟨s.identity, List.mem_map_of_mem live, hnode⟩

/-- The reopened port becomes the only session. -/
lemma attemptOtaCdcReopen_eq (h : Host) (deviceId : Text)
    (apart : (c.sessions.map ManagedSession.sid).Nodup) :
    c.routing.Moves (c.attemptOtaCdcReopen h deviceId).routing ∧
      ((c.attemptOtaCdcReopen h deviceId).sessions.map ManagedSession.sid).Nodup := by
  unfold AppController.attemptOtaCdcReopen
  split
  · exact ⟨.stay, apart⟩
  · rename_i hidle
    have hsessions : c.sessions = [] := not_not.mp (not_or.mp (not_or.mp hidle).2).1
    have hids : c.routing.identities = [] := List.map_eq_nil_iff.mpr hsessions
    split
    · rename_i d hadd
      have hrouting := routing_addSession hadd
      refine ⟨?_, ?_⟩
      · rw [hrouting]
        exact .cdc _ _ hids
      · have hadded : d.sessions.map ManagedSession.identity =
            c.routing.identities ++ [(c.nextSession, "cdc:".toList ++ deviceId, deviceId, .cdc)] :=
          congrArg Routing.identities hrouting
        have hsids := congrArg (List.map Prod.fst) hadded
        rw [List.map_map, hids] at hsids
        exact hsids ▸ List.nodup_singleton _
    · exact ⟨.stay, apart⟩

/-- So does the reconnect poll. -/
lemma moves_pollOtaReconnect (h : Host) (apart : (c.sessions.map ManagedSession.sid).Nodup) :
    c.routing.Moves (c.pollOtaReconnect h).routing := by
  unfold AppController.pollOtaReconnect
  split
  · exact .stay
  · rename_i info _
    split
    · rw [(quiet_finishOtaReconnect _ _).routing]
      exact .stay
    · dsimp only
      split
      · obtain ⟨hmoves, hnodup⟩ := attemptOtaCdcReopen_eq h info.deviceId apart
        rw [(Quiet.pollSessions (.refl _) hnodup _ _).routing]
        exact hmoves
      · rw [(Quiet.pollSessions (.refl _) apart _ _).routing]
        exact .stay

/-- The events of a client: it is accepted, its envelope is taken, or it is handed over directly. -/
def Event.Clients : Event → Prop
  | .operation _ (.acceptGatewayClient _) | .gatewayEnvelope | .acceptSocket _ => True
  | _ => False

/-- Every other event follows a rule. -/
theorem step_moves (crc32 : Bytes → UInt32) {e : Event} (he : ¬ e.Clients)
    (apart : (c.sessions.map ManagedSession.sid).Nodup) :
    c.routing.Moves (c.step crc32 e).routing := by
  by_cases hroutes : e.Routes
  · cases e with
    | operation h o =>
      cases o with
      | startWifiServer endpoint => exact moves_startWifiServer h endpoint
      | stopWifiServer => exact moves_stopWifiServer h apart
      | connectDevice deviceId => exact moves_connectDevice h deviceId
      | disconnectDevice => exact moves_disconnectDevice h apart
      | selectNode nodeId => exact moves_selectNode nodeId
      | acceptGatewayClient client => exact absurd trivial he
      | _ => exact hroutes.elim
    | pollOtaReconnect h =>
      rw [AppController.step]
      split
      · exact moves_pollOtaReconnect h apart
      · exact .stay
    | threadFinished h sid =>
      rw [AppController.step]
      unfold AppController.onSession
      split
      · exact .stay
      · rename_i s hsession
        have live := (sessionBySid?_some hsession).1
        dsimp only
        split
        · exact moves_onThreadFinished h (known_of_mem apart live) live
        · exact .stay
    | acceptFailed message =>
      rw [AppController.step]
      split
      · exact .fail
      · exact .stay
    | gatewayEnvelope => exact absurd trivial he
    | acceptSocket peer => exact absurd trivial he
    | _ => exact hroutes.elim
  · rw [(quiet_step crc32 hroutes apart).routing]
    exact .stay

end SensorHost.Presentation
