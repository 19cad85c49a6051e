import TcpUdp.Handshake
import TcpUdp.Sessions

/-!
# What an accepted socket sets off

`AcceptConnections` from the handshake to `open()`, with the results of `recv` and of the two
calls that make the UDP socket as inputs, between the deaths of connections and the disconnect
callbacks. Three actions of the loop are kept apart, so that a callback can run in between:
the handshake with `VcManager::Get`, what is done about a channel that was found, and what is
done without one. A callback is one access to the tables after the other.
-/

namespace TcpUdp

open Lib

namespace AcceptLoop

/-- A `TcpConnection`, by the number of earlier ones. -/
structure Connection where
  id : ConnId
  /-- `none` when it is disconnected. -/
  socketFd : Option SocketFd
  deriving DecidableEq, Repr

/-- The callback that the loop sets on a channel, by its next action. -/
inductive CallbackPc where
  /-- It has not been called. -/
  | idle
  /-- `VcManager::Remove`, if there is a channel. -/
  | removingVc
  /-- `PeerManager::RemovePeer`. -/
  | removingPeer
  /-- `SocketClose(udpSocket)`. -/
  | closingUdp
  /-- `clientConnSlots.erase`. -/
  | erasingSlots
  | returned
  deriving DecidableEq, Repr

structure Channel where
  clientId : ClientId := 0
  connections : List Connection := []
  opened : Bool := false
  hasReceiveCallback : Bool := false
  hasDisconnectCallback : Bool := false
  /-- The UDP socket of the callbacks is open. -/
  udpOpen : Bool := false
  callback : CallbackPc := .idle
  deriving DecidableEq, Repr

inductive LoopPc where
  /-- In `accept()`, or in `RecvTcpDataWithSize`. -/
  | accepting
  /-- `VcManager` has the channel `vc` of the client. -/
  | found (clientSocket : SocketFd) (bindMsg : MsgBind) (vc : VcId)
  | accumulating (clientSocket : SocketFd) (bindMsg : MsgBind)
  /-- Out of the loop. -/
  | stopped
  deriving DecidableEq, Repr

/-- `SocketCreate` and `SocketBind` of the UDP socket. -/
inductive UdpResult where
  | createFails
  | bindFails
  | bound
  deriving DecidableEq, Repr

inductive Event where
  /-- `accept()` returns the socket, and `RecvTcpDataWithSize` returns. -/
  | accepted (clientSocket : SocketFd) (results : List RecvReturn)
  /-- The next action of the loop. -/
  | accept (udp : UdpResult)
  /-- A thread of the channel finds a connection dead. -/
  | die (vc : VcId) (slotIndex : ℕ)
  /-- `disconnectCB` finds all connections dead. -/
  | allDead (vc : VcId)
  /-- The next action of the disconnect callback. -/
  | callback (vc : VcId)
  deriving DecidableEq, Repr

end AcceptLoop

open AcceptLoop

structure AcceptLoop where
  tables : ServerTables := {}
  channels : VcId → Channel := fun _ => {}
  nextVc : VcId := 0
  nextConn : ConnId := 0
  /-- The TCP sockets that are open. -/
  isOpen : SocketFd → Bool := fun _ => false
  loop : LoopPc := .accepting

namespace AcceptLoop

def setChannel (s : AcceptLoop) (vc : VcId) (channel : Channel) : AcceptLoop :=
  { s with channels := Function.update s.channels vc channel }

def setTables (s : AcceptLoop) (tables : ServerTables) : AcceptLoop := { s with tables := tables }

def goto (s : AcceptLoop) (pc : LoopPc) : AcceptLoop := { s with loop := pc }

def openSocket (s : AcceptLoop) (clientSocket : SocketFd) : AcceptLoop :=
  { s with isOpen := Function.update s.isOpen clientSocket true }

/-- `SocketClose` on each. -/
def socketClose (s : AcceptLoop) (fds : List SocketFd) : AcceptLoop :=
  { s with isOpen := fun fd => if fd ∈ fds then false else s.isOpen fd }

/-! ## Channels -/

namespace Channel

def getDeadSlots (channel : Channel) : List ℕ :=
  (List.range channel.connections.length).filter fun slot =>
    (channel.connections[slot]?.bind Connection.socketFd).isNone

/-- The sockets of the connections that are not disconnected. -/
def socketFds (channel : Channel) : List SocketFd :=
  channel.connections.filterMap Connection.socketFd

/-- `disconnect()` on all connections. -/
def disconnectAll (channel : Channel) : Channel :=
  { channel with connections := channel.connections.map fun conn => { conn with socketFd := none } }

/-- All connections are dead. -/
def Dead (channel : Channel) : Prop := ∀ conn ∈ channel.connections, conn.socketFd = none

instance (channel : Channel) : Decidable channel.Dead :=
  inferInstanceAs (Decidable (∀ conn ∈ channel.connections, _))

end Channel

/-- `close()`: the connections are disconnected if the channel was open. No callback runs. -/
def closeVc (s : AcceptLoop) (vc : VcId) : AcceptLoop :=
  let channel := s.channels vc
  if channel.opened then
    (s.socketClose channel.socketFds).setChannel vc { channel.disconnectAll with opened := false }
  else s

/-- `replaceConnection`; the destructor of the connection that it replaces closes its socket. -/
def replaceConnection (s : AcceptLoop) (vc : VcId) (slotIndex : ℕ) (newFd : SocketFd) :
    AcceptLoop :=
  let channel := s.channels vc
  if slotIndex < channel.connections.length then
    { (s.socketClose (channel.connections[slotIndex]?.bind Connection.socketFd).toList).setChannel vc
        { channel with connections := channel.connections.set slotIndex ⟨s.nextConn, some newFd⟩ } with
      nextConn := s.nextConn + 1 }
  else s

/-! ## The loop -/

/-- The handshake, and `VcManager::Get`. -/
def accepted (s : AcceptLoop) (clientSocket : SocketFd) (results : List RecvReturn) : AcceptLoop :=
  if s.loop = .accepting ∧ s.isOpen clientSocket = false then
    match receiveBind results with
    -- still in `recv`
    | none => s
    | some none => (s.openSocket clientSocket).socketClose [clientSocket]
    | some (some bindMsg) =>
      match s.tables.vcs bindMsg.clientId with
      | some vc => (s.openSocket clientSocket).goto (.found clientSocket bindMsg vc)
      | none => (s.openSocket clientSocket).goto (.accumulating clientSocket bindMsg)
  else s

/-- The slot for an incoming replacement; `-1` when the socket is excess. -/
def targetSlot (s : AcceptLoop) (bindMsg : MsgBind) (vc : VcId) : ℤ :=
  decideReplaceSlot (s.tables.connIdSlot bindMsg) bindMsg.slotIndex vcTcpConnections
    (s.channels vc).getDeadSlots

/-- A stale channel is closed and removed; otherwise the socket goes to a slot of the channel. -/
def handleFound (s : AcceptLoop) (clientSocket : SocketFd) (bindMsg : MsgBind) (vc : VcId) :
    AcceptLoop :=
  if bindMsg.slotIndex < 0 then
    -- the client has started again
    ((s.closeVc vc).setTables (s.tables.removeVc bindMsg.clientId)).goto
      (.accumulating clientSocket bindMsg)
  else
    let targetSlot := s.targetSlot bindMsg vc
    -- excess
    if targetSlot < 0 then (s.socketClose [clientSocket]).goto .accepting
    else
      ((s.replaceConnection vc targetSlot.toNat clientSocket).setTables
        (s.tables.registerReplacement bindMsg targetSlot.toNat)).goto .accepting

/-- The channel is created and registered. -/
def createVc (s : AcceptLoop) (clientId : ClientId) (fds : List SocketFd) : AcceptLoop :=
  { s.setChannel s.nextVc
      { clientId := clientId
        connections := fds.mapIdx fun i fd => ⟨s.nextConn + i, some fd⟩ } with
    tables := s.tables.createVc clientId s.nextVc fds
    nextVc := s.nextVc + 1
    nextConn := s.nextConn + fds.length }

/-- The UDP socket, the callbacks, and `open()`. -/
def setUp (s : AcceptLoop) (vc : VcId) : UdpResult → AcceptLoop
  -- `AcceptConnections` returns, and the channel stays in `VcManager`
  | .createFails | .bindFails => s.goto .stopped
  | .bound =>
    (s.setChannel vc
      { s.channels vc with
        hasReceiveCallback := true, hasDisconnectCallback := true, udpOpen := true
        opened := true }).goto .accepting

/-- From `AddPeer` on. -/
def accumulate (s : AcceptLoop) (clientSocket : SocketFd) (bindMsg : MsgBind) (udp : UdpResult) :
    AcceptLoop :=
  let closed := Sessions.closedByAccumulate s.tables clientSocket bindMsg
  let s := (s.socketClose closed).setTables (s.tables.accumulate clientSocket bindMsg)
  match s.tables.enoughSockets bindMsg.clientId with
  | some fds => (s.createVc bindMsg.clientId fds).setUp s.nextVc udp
  | none => s.goto .accepting

def acceptStep (s : AcceptLoop) (udp : UdpResult) : AcceptLoop :=
  match s.loop with
  | .found clientSocket bindMsg vc => s.handleFound clientSocket bindMsg vc
  | .accumulating clientSocket bindMsg => s.accumulate clientSocket bindMsg udp
  | .accepting | .stopped => s

/-! ## The threads of the channels -/

def die (s : AcceptLoop) (vc : VcId) (slotIndex : ℕ) : AcceptLoop :=
  let channel := s.channels vc
  match channel.connections[slotIndex]? with
  | some conn =>
    if channel.opened then
      (s.socketClose conn.socketFd.toList).setChannel vc
        { channel with connections := channel.connections.set slotIndex { conn with socketFd := none } }
    else s
  | none => s

def allDead (s : AcceptLoop) (vc : VcId) : AcceptLoop :=
  let channel := s.channels vc
  if channel.opened ∧ channel.Dead then
    s.setChannel vc
      { channel with
        opened := false
        -- between `Add` and `open()` there is no callback yet
        callback := if channel.hasDisconnectCallback then .removingVc else channel.callback }
  else s

def callbackStep (s : AcceptLoop) (vc : VcId) : AcceptLoop :=
  let channel := s.channels vc
  match channel.callback with
  | .removingVc =>
    (s.setChannel vc { channel with callback := .removingPeer }).setTables
      (s.tables.removeVc channel.clientId)
  | .removingPeer =>
    (s.setChannel vc { channel with callback := .closingUdp }).setTables
      (s.tables.removePeer channel.clientId)
  | .closingUdp => s.setChannel vc { channel with callback := .erasingSlots, udpOpen := false }
  | .erasingSlots =>
    (s.setChannel vc { channel with callback := .returned }).setTables
      (s.tables.eraseSlots channel.clientId)
  | .idle | .returned => s

def step (s : AcceptLoop) : Event → AcceptLoop
  | .accepted clientSocket results => s.accepted clientSocket results
  | .accept udp => s.acceptStep udp
  | .die vc slotIndex => s.die vc slotIndex
  | .allDead vc => s.allDead vc
  | .callback vc => s.callbackStep vc

def stateAt (events : ℕ → Event) (n : ℕ) : AcceptLoop := runState step {} events n

/-- One iteration of the loop, with nothing in between. -/
def acceptConnection (s : AcceptLoop) (clientSocket : SocketFd) (results : List RecvReturn)
    (udp : UdpResult) : AcceptLoop :=
  ((s.accepted clientSocket results).acceptStep udp).acceptStep udp

end AcceptLoop
end TcpUdp
