import SensorHost.Lib.Numeral

/-!
# The gateway listener

Model of the part of `GatewayListener` that numbers and bounds its clients. A listener is named by
its identity, since a restart makes a new one that numbers its clients from 1 again.

`accept` names the client by the next number and refuses it when as many are active as may be;
`release` frees a name. `Holds` relates the listener to those who occupy its slots, and is kept by
both (`Holds.accept`, `Holds.release`). A name is never given twice (`not_issued_next`), which is
what tells a late release from that of a later client.
-/

namespace SensorHost.Transport
open SensorHost.Lib

/-- `GatewayListener` while it listens. -/
structure GatewayListener where
  identity : Nat
  maximumClients : Nat := 16
  activeConnections : List Text := []
  nextConnectionNumber : Nat := 1
  rejectedClients : Nat := 0
  deriving DecidableEq

/-- `AcceptedGatewayClient`, without the socket. -/
structure AcceptedGatewayClient where
  connectionId : Text
  peer : Text
  deriving DecidableEq

namespace GatewayListener

/-- `accept`, once a peer has connected. -/
def accept (l : GatewayListener) (peer : Text) : GatewayListener × Option AcceptedGatewayClient :=
  if l.maximumClients ≤ l.activeConnections.length then
    ({ l with rejectedClients := l.rejectedClients + 1 }, none)
  else
    let connectionId := "wifi-".toList ++ renderNat l.nextConnectionNumber
    ({ l with
      nextConnectionNumber := l.nextConnectionNumber + 1
      activeConnections := l.activeConnections ++ [connectionId] },
      some { connectionId, peer })

/-- `release`. -/
def release (l : GatewayListener) (connectionId : Text) : GatewayListener :=
  { l with activeConnections := l.activeConnections.filter (· ≠ connectionId) }

/-- The name of the client with the number. -/
def connectionId (n : Nat) : Text := "wifi-".toList ++ renderNat n

/-- A name tells its number. -/
lemma connectionId_injective : Function.Injective connectionId := by
  intro m n h
  exact renderNat_injective (List.append_cancel_left h)

/-- The listener is full, or names the next client. -/
lemma accept_cases (l : GatewayListener) (peer : Text) :
    l.accept peer = ({ l with rejectedClients := l.rejectedClients + 1 }, none) ∨
      l.activeConnections.length < l.maximumClients ∧
        l.accept peer = ({ l with
            nextConnectionNumber := l.nextConnectionNumber + 1
            activeConnections := l.activeConnections ++ [connectionId l.nextConnectionNumber] },
          some { connectionId := connectionId l.nextConnectionNumber, peer }) := by
  unfold accept
  split
  · exact .inl rfl
  · rename_i hroom
    exact .inr ⟨not_le.mp hroom, rfl⟩

/-- A listener stays the one that it is. -/
lemma accept_identity (l : GatewayListener) (peer : Text) :
    (l.accept peer).1.identity = l.identity := by
  rcases l.accept_cases peer with heq | ⟨-, heq⟩
  · rw [heq]
  · rw [heq]

/-- The listener has given the name. -/
def Issued (l : GatewayListener) (name : Text) : Prop :=
  ∃ n < l.nextConnectionNumber, name = connectionId n

/-- The slots are held by these clients, each by one. -/
structure Holds (l : GatewayListener) (occupants : List Text) : Prop where
  distinct : l.activeConnections.Nodup
  slots : l.activeConnections.Perm occupants
  capacity : l.activeConnections.length ≤ l.maximumClients
  issued : ∀ name ∈ l.activeConnections, l.Issued name

variable {l : GatewayListener} {occupants others : List Text} {name : Text}

/-- The next name was not given before. -/
lemma not_issued_next (l : GatewayListener) : ¬ l.Issued (connectionId l.nextConnectionNumber) := by
  rintro ⟨n, hlt, heq⟩
  exact Nat.ne_of_lt hlt (connectionId_injective heq).symm

/-- Names that were given stay given. -/
lemma Issued.accept (h : l.Issued name) (peer : Text) : (l.accept peer).1.Issued name := by
  obtain ⟨n, hlt, heq⟩ := h
  rcases l.accept_cases peer with hfull | ⟨-, haccepted⟩
  · rw [hfull]
    exact ⟨n, hlt, heq⟩
  · rw [haccepted]
    exact ⟨n, Nat.lt_succ_of_lt hlt, heq⟩

/-- A new listener has no slots taken. -/
lemma Holds.new (identity : Nat) : Holds { identity } [] :=
  ⟨List.nodup_nil, .refl [], Nat.zero_le _, fun _ h => absurd h List.not_mem_nil⟩

/-- No slot is taken twice. -/
lemma Holds.nodup (h : l.Holds occupants) : occupants.Nodup := h.slots.nodup_iff.mp h.distinct

/-- A client that is accepted takes a slot. -/
lemma Holds.accept (h : l.Holds occupants) (peer : Text) :
    (l.accept peer).1.Holds
      (occupants ++ (l.accept peer).2.toList.map AcceptedGatewayClient.connectionId) := by
  rcases l.accept_cases peer with heq | ⟨hroom, heq⟩
  · rw [heq]
    show Holds _ (occupants ++ [])
    rw [List.append_nil]
    exact ⟨h.distinct, h.slots, h.capacity, h.issued⟩
  · rw [heq]
    refine ⟨?_, ?_, ?_, ?_⟩
    · refine List.nodup_append.mpr ⟨h.distinct, List.nodup_singleton _, ?_⟩
      intro a ha b hb hab
      rw [List.mem_singleton.mp hb] at hab
      exact l.not_issued_next (hab ▸ h.issued a ha)
    · exact h.slots.append_right _
    · exact (List.length_append).trans_le hroom
    · intro a ha
      cases List.mem_append.mp ha with
      | inl hold =>
        obtain ⟨n, hlt, hname⟩ := h.issued a hold
        exact ⟨n, Nat.lt_succ_of_lt hlt, hname⟩
      | inr hnew =>
        rw [List.mem_singleton.mp hnew]
        exact ⟨l.nextConnectionNumber, Nat.lt_succ_self _, rfl⟩

/-- A name that is released frees its slot. -/
lemma Holds.release (h : l.Holds occupants) (name : Text) :
    (l.release name).Holds (occupants.filter (· ≠ name)) := by
  refine ⟨h.distinct.filter _, h.slots.filter _, ?_, ?_⟩
  · exact (List.length_filter_le _ _).trans h.capacity
  · exact fun a ha => h.issued a (List.mem_of_mem_filter ha)

end GatewayListener

end SensorHost.Transport
