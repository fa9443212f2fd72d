import SensorHost.Presentation.Changes

/-!
# Registering a connection

A connection that reaches the controller while its kind of transport is admissible, under an id that
no session has and with room left, is registered exactly if the inventory has no entry of an earlier
connection under that id (`registers_iff`). An entry outlives its session when the worker fails or
returns: it is marked OFFLINE or RECONNECTING, and nothing removes it when the same port opens again
or when a restarted listener counts from `wifi-1` again.

`arrival` says which connection an event brings and `Admits` what the source asks of it before it
comes to the inventory. The theorem compares the sessions behind the event with those before
(`sessionsWith`): for each kind of event they are what `addSession` makes of them
(`arrival_registers`), and that succeeds exactly if the inventory has no entry under the id
(`sessionsWith_iff`). In a reachable state `Stale` can be only an entry whose session is gone, since
`Listed` gives every session a CONNECTED one.
-/

namespace SensorHost.Presentation
open SensorHost.Lib SensorHost.Protocol SensorHost.Storage SensorHost.Acquisition SensorHost.Ota
  SensorHost.Transport

/-- A physical connection, as it is to be registered. -/
structure Arrival where
  nodeId : Text
  peer : Text
  kind : TransportKind
  deriving DecidableEq

namespace AppController

/-- The connection that an event brings: a CDC port that opens, or a client of the current
listener. -/
def arrival (c : AppController) : Event → Option Arrival
  | .operation h (.connectDevice deviceId) =>
    if h.portError = none then some ⟨"cdc:".toList ++ deviceId, deviceId, .cdc⟩ else none
  | .operation _ (.acceptGatewayClient client) => some ⟨client.connectionId, client.peer, .wifi⟩
  | .gatewayEnvelope =>
    match c.envelopes with
    | [] => none
    | envelope :: _ =>
      if c.gatewayListener.map GatewayListener.identity = some envelope.listener then
        some ⟨envelope.client.connectionId, envelope.client.peer, .wifi⟩
      else none
  | .pollOtaReconnect h =>
    match c.otaReconnect with
    | none => none
    | some info =>
      if c.otaReconnectTimerActive ∧ ¬ info.deadlineS < h.now ∧ info.kind = .cdc ∧
          h.portError = none then
        some ⟨"cdc:".toList ++ info.deviceId, info.deviceId, .cdc⟩
      else none
  | _ => none

/-- CDC comes alone and without a listener, Wi-Fi without CDC. -/
def Admissible (c : AppController) : TransportKind → Prop
  | .cdc => c.acceptRunning = false ∧ c.sessions = []
  | .wifi => ∀ s ∈ c.sessions, s.transportKind ≠ .cdc

/-- The connection is one that has to be registered. -/
structure Admits (c : AppController) (a : Arrival) : Prop where
  nodeId : a.nodeId ≠ []
  peer : a.peer ≠ []
  admissible : c.Admissible a.kind
  free : ∀ s ∈ c.sessions, s.nodeId ≠ a.nodeId
  room : (c.sessionIndex.nodes.countP fun n => n.connectionState == .connected) < maximumWifiSessions

/-- The connection that the event brings has a session behind it. -/
def Registers (crc32 : Bytes → UInt32) (c : AppController) (e : Event) : Prop :=
  ∀ a, c.arrival e = some a → c.Admits a → ∃ s ∈ (c.step crc32 e).sessions, s.nodeId = a.nodeId

/-- The inventory has an entry of an earlier connection under the id. -/
def Stale (c : AppController) (nodeId : Text) : Prop :=
  ∃ n ∈ c.sessionIndex.nodes, n.nodeId = nodeId ∧
    (n.connectionState = .reconnecting ∨ n.connectionState = .offline)

/-- The sessions when a connection was added or refused. -/
def sessionsWith (c : AppController) (a : Arrival) : List ManagedSession :=
  match c.sessionIndex.addSession a.nodeId a.kind a.peer with
  | .ok _ => c.sessions ++ [newSession c.nextSession a.nodeId a.peer a.kind c.recordingActive]
  | .error _ => c.sessions

end AppController

variable {crc32 : Bytes → UInt32} {c c' : AppController} {a : Arrival} {l : Label}

/-- A step keeps the bound of the inventory. -/
lemma Step.maximumSessions (h : Step crc32 c l c') :
    c'.sessionIndex.maximumSessions = c.sessionIndex.maximumSessions := by
  cases h with
  | outside h => exact h.field (fun c => c.sessionIndex.maximumSessions) fun _ => rfl
  | add nodeId peer kind accepted => rw [(NodeSessionManager.addSession_ok accepted).2]
  | bind uuid live seen accepted =>
    obtain ⟨current, aliasName, -, -, -, rfl⟩ := NodeSessionManager.bindIdentity_ok accepted
    rfl
  | drop state reason gone live free marked =>
    cases marked with
    | inl hmarked =>
      obtain ⟨current, -, -, rfl⟩ := NodeSessionManager.markUnavailable_ok hmarked
      rfl
    | inr hnone => rw [hnone.2]
  | _ => rfl

/-- No run changes the limit of the sessions. -/
lemma maximumSessions_run (aliases : List (Text × Text)) (events : List Event) :
    (AppController.run crc32 aliases events).sessionIndex.maximumSessions = maximumWifiSessions := by
  have hboth : WellFormed (AppController.run crc32 aliases events) ∧
      (AppController.run crc32 aliases events).sessionIndex.maximumSessions =
        maximumWifiSessions := by
    refine runFrom_invariant
      (I := fun c => WellFormed c ∧ c.sessionIndex.maximumSessions = maximumWifiSessions) ?_
      ⟨wellFormed_initial aliases, rfl⟩ events
    intro c e hc
    refine ⟨wellFormed_step crc32 e hc.1, ?_⟩
    refine Chain.invariant
      (I := fun c => c.sessionIndex.maximumSessions = maximumWifiSessions) ?_
      (step_leads e hc.1) hc.1 hc.2
    intro a l b _ ha _ hstep
    exact hstep.maximumSessions.trans ha
  exact hboth.2

/-- A connection that has to be registered is, exactly if no earlier one has left its entry. -/
lemma sessionsWith_iff (listed : Listed c)
    (hbound : c.sessionIndex.maximumSessions = maximumWifiSessions) (admits : c.Admits a) :
    (∃ s ∈ c.sessionsWith a, s.nodeId = a.nodeId) ↔ ¬ c.Stale a.nodeId := by
  unfold AppController.sessionsWith
  constructor
  · intro hsome hstale
    obtain ⟨n, hn, hid, -⟩ := hstale
    obtain ⟨s, hs, hnode⟩ := hsome
    cases hadd : c.sessionIndex.addSession a.nodeId a.kind a.peer with
    | ok m => exact (NodeSessionManager.addSession_ok hadd).1 n hn hid
    | error error =>
      rw [hadd] at hs
      exact admits.free s hs hnode
  · intro hfresh
    have hfree : ∀ n ∈ c.sessionIndex.nodes, n.nodeId ≠ a.nodeId := by
      intro n hn hid
      cases listed.states n hn with
      | inl hconnected =>
        obtain ⟨s, hs, hnode⟩ := listed.live n hn hconnected
        exact admits.free s hs (hnode.trans hid)
      | inr hgone => exact hfresh ⟨n, hn, hid, hgone⟩
    have hroom := admits.room
    rw [← hbound] at hroom
    obtain ⟨m, hadd⟩ := @NodeSessionManager.addSession_free c.sessionIndex a.nodeId a.kind a.peer
      admits.nodeId admits.peer hroom hfree
    rw [hadd]
    exact ⟨_, List.mem_append_right _ (List.mem_singleton.mpr rfl), rfl⟩

/-- A session that is added comes last. -/
lemma addSession_ok_sessions {nodeId peer : Text} {kind : TransportKind}
    (h : c.addSession nodeId peer kind = .ok c') :
    c'.sessions = c.sessions ++
      [AppController.newSession c.nextSession nodeId peer kind c.recordingActive] := by
  unfold AppController.addSession at h
  cases hindex : c.sessionIndex.addSession nodeId kind peer with
  | error error =>
    rw [hindex] at h
    cases h
  | ok sessionIndex =>
    rw [hindex] at h
    cases h
    exact (outside_added _ _ _).field AppController.sessions fun _ => rfl

/-- A connection becomes a session if the inventory takes it. -/
lemma addSession_sessions (c : AppController) (a : Arrival) :
    (match c.addSession a.nodeId a.peer a.kind with
      | .ok c' => c'.sessions
      | .error _ => c.sessions) = c.sessionsWith a := by
  unfold AppController.addSession AppController.sessionsWith
  cases c.sessionIndex.addSession a.nodeId a.kind a.peer with
  | error error => rfl
  | ok sessionIndex => exact (outside_added _ _ _).field AppController.sessions fun _ => rfl

/-- So it is with a port that opens. -/
lemma connectDevice_sessions {h : Host} (hport : h.portError = none) {deviceId : Text}
    (admissible : c.Admissible .cdc) :
    (c.connectDevice h deviceId).sessions =
      c.sessionsWith ⟨"cdc:".toList ++ deviceId, deviceId, .cdc⟩ := by
  rw [← addSession_sessions]
  unfold AppController.connectDevice
  rw [if_neg (by rw [admissible.1]; exact Bool.false_ne_true), if_neg (not_not.mpr admissible.2),
    hport]
  dsimp only
  cases c.addSession ("cdc:".toList ++ deviceId) deviceId .cdc with
  | ok c' => rfl
  | error error => rfl

/-- So it is with a client of the gateway. -/
lemma acceptGatewayClient_sessions {client : AcceptedGatewayClient}
    (admissible : c.Admissible .wifi) :
    (c.acceptGatewayClient client).sessions =
      c.sessionsWith ⟨client.connectionId, client.peer, .wifi⟩ := by
  have hwifi : ¬ (c.sessions.any fun s => s.transportKind == .cdc) = true := by
    intro hany
    obtain ⟨s, hs, hcdc⟩ := List.any_eq_true.mp hany
    exact admissible s hs (beq_iff_eq.mp hcdc)
  rw [← addSession_sessions]
  unfold AppController.acceptGatewayClient
  rw [if_neg hwifi]
  dsimp only
  cases c.addSession client.connectionId client.peer .wifi with
  | ok c' => rfl
  | error error => rfl

/-- A session that a poll of the reconnect meets stays. -/
lemma pollSessions_kept (wf : WellFormed c) (expected : Option Uuid) (sids : List Nat)
    {s : ManagedSession} (live : s ∈ c.sessions) :
    ∃ t ∈ (c.pollSessions expected sids).sessions, t.nodeId = s.nodeId := by
  have hchain : Chain (fun _ => 0) (fun l => l ≠ .reset ∧ ∀ sid, l ≠ .drop sid) c
      (c.pollSessions expected sids) := by
    refine leads_pollSessions expected sids ?_ ?_ ?_ ?_ wf
    · exact ⟨nofun, nofun⟩
    · exact ⟨nofun, nofun⟩
    · exact fun sid => ⟨nofun, nofun⟩
    · exact ⟨nofun, nofun⟩
  obtain ⟨t, ht, -, hnode⟩ := hchain.session_kept (I := fun t => t.nodeId = s.nodeId) wf
    (fun sid h => h.2 sid rfl) (fun h => h.1 rfl)
    (fun a l s t _ _ _ hchange hs => hchange.nodeId.trans hs) live rfl
  exact ⟨t, ht, hnode⟩

/-- So it is with a port that the reconnect poll opens again. -/
lemma pollOtaReconnect_registers (wf : WellFormed c) {h : Host} {info : OtaReconnect}
    (hinfo : c.otaReconnect = some info) (hearly : ¬ info.deadlineS < h.now)
    (hkind : info.kind = .cdc) (hport : h.portError = none) (hid : info.deviceId ≠ [])
    (admissible : c.Admissible .cdc) :
    (∃ s ∈ (c.pollOtaReconnect h).sessions, s.nodeId = "cdc:".toList ++ info.deviceId) ↔
      ∃ s ∈ c.sessionsWith ⟨"cdc:".toList ++ info.deviceId, info.deviceId, .cdc⟩,
        s.nodeId = "cdc:".toList ++ info.deviceId := by
  have hopen : ¬ (info.deviceId = [] ∨ c.sessions ≠ [] ∨ c.acceptRunning = true ∨
      h.portError.isSome = true) := by
    rw [admissible.1, admissible.2, hport]
    intro h
    obtain h | h | h | h := h
    · exact hid h
    · exact h rfl
    · exact Bool.false_ne_true h
    · exact Bool.false_ne_true h
  have hadded := addSession_sessions c ⟨"cdc:".toList ++ info.deviceId, info.deviceId, .cdc⟩
  unfold AppController.pollOtaReconnect
  rw [hinfo]
  dsimp only
  rw [if_neg hearly, if_pos ⟨hkind, admissible.2⟩]
  unfold AppController.attemptOtaCdcReopen
  rw [if_neg hopen]
  dsimp only at hadded ⊢
  cases hresult : c.addSession ("cdc:".toList ++ info.deviceId) info.deviceId .cdc with
  | error error =>
    rw [hresult] at hadded
    rw [← hadded]
    -- a refused port leaves no session to ask
    have hnone : c.pollSessions info.deviceUuid (c.sessions.map ManagedSession.sid) = c := by
      rw [admissible.2]
      rfl
    rw [hnone]
  | ok c' =>
    rw [hresult] at hadded
    rw [← hadded]
    have hwf : WellFormed c' := by
      have hlead : Chain (fun _ => 0) (fun _ => True) c c' :=
        leads_addSession trivial trivial hresult wf
      exact hlead.wellFormed wf
    have hnew : ∃ s ∈ c'.sessions, s.nodeId = "cdc:".toList ++ info.deviceId := by
      have hsessions := addSession_ok_sessions hresult
      rw [hsessions]
      exact ⟨_, List.mem_append_right _ (List.mem_singleton.mpr rfl), rfl⟩
    refine iff_of_true ?_ hnew
    obtain ⟨s, live, hnode⟩ := hnew
    obtain ⟨t, ht, heq⟩ := pollSessions_kept hwf info.deviceUuid
      (c'.sessions.map ManagedSession.sid) live
    exact ⟨t, ht, heq.trans hnode⟩

/-- What is registered behind the event that brings a connection. -/
lemma arrival_registers (wf : WellFormed c) {e : Event} (harrival : c.arrival e = some a)
    (admits : c.Admits a) :
    (∃ s ∈ (c.step crc32 e).sessions, s.nodeId = a.nodeId) ↔
      ∃ s ∈ c.sessionsWith a, s.nodeId = a.nodeId := by
  cases e with
  | operation h o =>
    cases o with
    | connectDevice deviceId =>
      unfold AppController.arrival at harrival
      dsimp only at harrival
      split at harrival
      · rename_i hport
        -- a client is an arrival only if its listener is the current one
        cases harrival
        rw [← connectDevice_sessions hport admits.admissible]
        rfl
      · cases harrival
    | acceptGatewayClient client =>
      cases harrival
      rw [← acceptGatewayClient_sessions admits.admissible]
      rfl
    | _ => cases harrival
  | gatewayEnvelope =>
    unfold AppController.arrival at harrival
    dsimp only at harrival
    split at harrival
    · cases harrival
    · rename_i envelope envelopes henvelopes
      split at harrival
      · rename_i hcurrent
        cases harrival
        have hstep : c.step crc32 .gatewayEnvelope =
            { c with envelopes := envelopes }.acceptGatewayClient envelope.client := by
          unfold AppController.step
          dsimp only
          rw [henvelopes]
          dsimp only
          unfold AppController.acceptGatewayEnvelope
          exact if_pos hcurrent
        have hsessions : ({ c with envelopes := envelopes }.acceptGatewayClient
            envelope.client).sessions = _ :=
          acceptGatewayClient_sessions admits.admissible
        rw [hstep, hsessions]
        rfl
      · cases harrival
  | pollOtaReconnect h =>
    unfold AppController.arrival at harrival
    dsimp only at harrival
    split at harrival
    · cases harrival
    · rename_i info hinfo
      split at harrival
      · rename_i hpoll
        obtain ⟨htimer, hearly, hkind, hport⟩ := hpoll
        cases harrival
        have hstep : c.step crc32 (.pollOtaReconnect h) = c.pollOtaReconnect h := if_pos htimer
        rw [hstep]
        exact pollOtaReconnect_registers wf hinfo hearly hkind hport admits.peer admits.admissible
      · cases harrival
  | _ => cases harrival

/-- In every reachable state, a connection that has to be registered is, exactly if the inventory has
no entry of an earlier connection under its id. -/
theorem registers_iff (crc32 : Bytes → UInt32) (aliases : List (Text × Text)) (events : List Event)
    (e : Event) :
    (AppController.run crc32 aliases events).Registers crc32 e ↔
      ∀ a, (AppController.run crc32 aliases events).arrival e = some a →
        (AppController.run crc32 aliases events).Admits a →
          ¬ (AppController.run crc32 aliases events).Stale a.nodeId := by
  obtain ⟨wf, listed⟩ := wellFormed_run crc32 aliases events
  have hbound := @maximumSessions_run crc32 aliases events
  generalize AppController.run crc32 aliases events = c at wf listed hbound
  refine forall_congr' fun a => forall_congr' fun harrival => forall_congr' fun admits => ?_
  rw [← sessionsWith_iff listed hbound admits]
  exact arrival_registers wf harrival admits

/-- A CDC port is opened and unplugged. -/
def Event.unplugged : List Event :=
  [.operation {} (.connectDevice "COM3".toList), .raises 0 "device lost".toList, .workerFailed 0,
    .threadFinished {} 0]

/-- A gateway is lost, and connects to the restarted listener. -/
def Event.restarted : List Event :=
  [.operation {} (.startWifiServer "0.0.0.0:9000".toList), .acceptSocket "10.0.0.2:5000".toList,
    .gatewayEnvelope, .raises 0 "connection reset".toList, .workerFailed 0, .threadFinished {} 0,
    .operation {} .stopWifiServer, .operation {} (.startWifiServer "0.0.0.0:9000".toList),
    .acceptSocket "10.0.0.2:5001".toList]

/-- The unplugged port is refused, and so is the client of the restarted listener. -/
theorem registers_refused :
    ¬ (AppController.run zlibCrc32 [] Event.unplugged).Registers zlibCrc32
        (.operation {} (.connectDevice "COM3".toList)) ∧
      ¬ (AppController.run zlibCrc32 [] Event.restarted).Registers zlibCrc32 .gatewayEnvelope := by
  constructor
  · intro h
    have hsome := h ⟨"cdc:COM3".toList, "COM3".toList, .cdc⟩ (by decide +kernel)
      ⟨by decide, by decide, ⟨by decide +kernel, by decide +kernel⟩, by decide +kernel,
        by decide +kernel⟩
    revert hsome
    decide +kernel
  · intro h
    have halone : ∀ s ∈ (AppController.run zlibCrc32 [] Event.restarted).sessions,
        s.transportKind ≠ .cdc := by decide +kernel
    have hsome := h ⟨"wifi-1".toList, "10.0.0.2:5001".toList, .wifi⟩ (by decide +kernel)
      ⟨by decide, by decide, halone, by decide +kernel, by decide +kernel⟩
    revert hsome
    decide +kernel

end SensorHost.Presentation
