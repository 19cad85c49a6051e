import TcpUdp.ServerTables
import TcpUdp.Lib.Run
import Mathlib.Data.List.Perm.Basic

/-!
# Reconnects of single slots

One `Client::PrepareVC` and the `ReconnectSingleSlot` handshakes that follow it, at both
ends. The server takes the first connections in any order, which fixes the slots of its
channel; afterwards a handshake carries the connection id that the client holds for the slot
and the client's number of the slot. The client draws a new id with every handshake and sends
it with the next one of that slot.

Handshakes are processed in order, one at a time, between two total outages.
-/

namespace TcpUdp

open Lib

/-- A TCP connection between the client and the server, by the number of earlier ones. -/
abbrev Link := ℕ

/-- How the connections of a `PrepareVC` reach the server. -/
structure Arrival where
  clientId : ClientId
  /-- `nextConnectionId` at the start. -/
  firstConnId : ℕ
  /-- The `j`-th connection that the server accepts is the client's `order[j]`-th. -/
  order : List ℕ
  perm : order.Perm (List.range vcTcpConnections)
  /-- What `accept` returns for each of them; all are open at the end. -/
  fd : ℕ → SocketFd
  fd_injective : ∀ i < vcTcpConnections, ∀ j < vcTcpConnections, fd i = fd j → i = j
  /-- The server before, which does not know the client. -/
  tables : ServerTables
  unknown : tables.vcs clientId = none ∧ tables.peers clientId = none
    ∧ tables.clientConnSlots clientId = none

structure SlotPairing where
  /-- `tcpConnectionIds` of the client, by its slots. -/
  tcpConnectionIds : List ConnectionId
  nextConnectionId : ConnectionId
  /-- The connections in the client's channel. -/
  clientEnds : List Link
  clientDown : Link → Bool := fun _ => false
  tables : ServerTables
  /-- The connections in the server's channel. -/
  serverEnds : List Link
  serverDown : Link → Bool := fun _ => false
  nextLink : Link

namespace Arrival

variable (a : Arrival)

/-- `nextConnectionId++` for the client's `i`-th connection. -/
def connId (i : ℕ) : ConnectionId := (a.firstConnId + i) % uint32Size

def bindMsg (i : ℕ) : MsgBind := { clientId := a.clientId, connectionId := a.connId i }

/-- The server after it has accepted the connections in `order`. -/
def accepted (order : List ℕ) : ServerTables :=
  order.foldl (fun t i => t.accumulate (a.fd i) (a.bindMsg i)) a.tables

/-- Both ends when the channels have been created. -/
def channels : SlotPairing where
  tcpConnectionIds := (List.range vcTcpConnections).map a.connId
  nextConnectionId := a.connId vcTcpConnections
  clientEnds := List.range vcTcpConnections
  tables :=
    match (a.accepted a.order).enoughSockets a.clientId with
    | some fds => (a.accepted a.order).createVc a.clientId 0 fds
    | none => a.accepted a.order
  serverEnds := a.order
  nextLink := vcTcpConnections

end Arrival

namespace SlotPairing

/-- `getDeadSlots()` of the server's channel. -/
def getDeadSlots (s : SlotPairing) : List ℕ :=
  (List.range s.serverEnds.length).filter fun slot =>
    s.serverEnds[slot]?.any fun link => s.serverDown link

/-- What the client sends for the slot. -/
def bindMsg (clientId : ClientId) (s : SlotPairing) (slotIndex : ℕ) : MsgBind where
  clientId := clientId
  slotIndex := slotIndex
  connectionId := s.tcpConnectionIds.getD slotIndex 0

/-- The slot that the server passes to `replaceConnection`, or `-1`. -/
def targetSlot (clientId : ClientId) (s : SlotPairing) (slotIndex : ℕ) : ℤ :=
  decideReplaceSlot (s.tables.connIdSlot (s.bindMsg clientId slotIndex)) slotIndex
    vcTcpConnections s.getDeadSlots

/-- The watchdog reconnects the slots that the client has seen die. -/
def Dead (s : SlotPairing) (slotIndex : ℕ) : Prop :=
  ∃ link, s.clientEnds[slotIndex]? = some link ∧ s.clientDown link = true

instance (s : SlotPairing) (slotIndex : ℕ) : Decidable (s.Dead slotIndex) :=
  decidable_of_iff (s.clientEnds[slotIndex]?.any s.clientDown = true) <| by
    simp [Dead, Option.any_eq_true]

/-- `nextConnectionId++`. -/
def drawId (s : SlotPairing) : SlotPairing :=
  { s with nextConnectionId := (s.nextConnectionId + 1) % uint32Size }

/-- The server takes the new connection. -/
def acceptReplacement (clientId : ClientId) (s : SlotPairing) (slotIndex : ℕ) : SlotPairing :=
  let target := s.targetSlot clientId slotIndex
  if target < 0 then { s with serverDown := Function.update s.serverDown s.nextLink true }
  else
    { s with
      serverEnds := s.serverEnds.set target.toNat s.nextLink
      tables := s.tables.registerReplacement (s.bindMsg clientId slotIndex) target.toNat }

/-- `ReconnectSingleSlot` with its handshake. -/
def reconnectSingleSlot (clientId : ClientId) (s : SlotPairing) (slotIndex : ℕ) : SlotPairing :=
  if s.Dead slotIndex then
    let newConnId := s.nextConnectionId
    let s := s.drawId.acceptReplacement clientId slotIndex
    { s with
      tcpConnectionIds := s.tcpConnectionIds.set slotIndex newConnId
      clientEnds := s.clientEnds.set slotIndex s.nextLink
      nextLink := s.nextLink + 1 }
  else s

inductive Event where
  /-- The client, or the server, finds its end of the connection dead. -/
  | clientDies (link : Link)
  | serverDies (link : Link)
  /-- A `ReconnectSingleSlot` that gives up after it has drawn an id. -/
  | abort (slotIndex : ℕ)
  | reconnect (slotIndex : ℕ)
  deriving DecidableEq, Repr

def step (clientId : ClientId) (s : SlotPairing) : Event → SlotPairing
  | .clientDies link => { s with clientDown := Function.update s.clientDown link true }
  | .serverDies link => { s with serverDown := Function.update s.serverDown link true }
  | .abort slotIndex => if s.Dead slotIndex then s.drawId else s
  | .reconnect slotIndex => s.reconnectSingleSlot clientId slotIndex

def stateAt (a : Arrival) (events : ℕ → Event) (n : ℕ) : SlotPairing :=
  runState (step a.clientId) a.channels events n

/-! ## Both ends replace the same connection -/

/-- The connection that a handshake replaces at the server is the one it replaces at the
client. -/
def ReplacesSameConnection (clientId : ClientId) (s : SlotPairing) (e : Event) : Prop :=
  ∀ slotIndex, e = .reconnect slotIndex → s.Dead slotIndex →
    ∃ target : ℕ, s.targetSlot clientId slotIndex = target
      ∧ s.serverEnds[target]? = s.clientEnds[slotIndex]?

end SlotPairing
end TcpUdp
