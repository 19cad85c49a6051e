import TcpUdp.LifecycleTheorems

/-!
# The client and its TCP sockets

`PrepareVC`, `ReconnectSingleSlot`, `ReconnectVC`, `Stop` and `TeardownVc` run one after
another; the machine below takes them action by action. In between, the IO and send threads
of a channel find connections dead and run `disconnectCB`, as in `Lifecycle`: every
`TcpVirtualChannel` that the client has made is a `Lifecycle` of its own, which also goes
through `open()`, `close()` and `replaceConnection` there.

A socket is named by the `SocketCreate` call that it comes from, so that a number which the
system hands out again is another socket. `closed` and `teardowns` are history.
-/

namespace TcpUdp

open Lib

/-- A socket obtained from `SocketCreate`: the number of the call. -/
abbrev SocketId := ℕ

namespace Client

/-- A `TcpVirtualChannel`, with the sockets its connections have been made of. -/
structure Channel where
  life : Lifecycle
  fds : ConnId → SocketId

/-! ## Operations in progress -/

inductive Operation where
  | prepareVC
  /-- The watchdog found the slot dead. -/
  | reconnectSingleSlot (slotIndex : ℕ)
  | reconnectVC (maxRetries : ℕ)
  | stop
  | teardownVc
  deriving DecidableEq, Repr

/-- What called `PrepareVC`: the client's user, or the loop of `ReconnectVC`. -/
inductive Caller where
  | user
  | reconnectVC (maxRetries retryCount : ℕ)
  deriving DecidableEq, Repr

/-- What comes after `TeardownVc`. -/
inductive AfterTeardown where
  | done
  /-- `PrepareVC` creates its sockets. -/
  | prepare (caller : Caller)
  /-- `PrepareVC` returns false. -/
  | fail (caller : Caller)
  deriving DecidableEq, Repr

/-- The next action of the operation. -/
inductive OperationPc where
  | idle
  | teardown (next : AfterTeardown)
  /-- `TeardownVc` is in `vc->close()`. -/
  | teardownClosing (v : ℕ) (next : AfterTeardown)
  /-- `PrepareVC`, socket `i`: `SocketCreate`. -/
  | socketCreate (caller : Caller) (i : ℕ)
  | socketConnect (caller : Caller) (i : ℕ) (tcpSocket : SocketId)
  /-- The bind message is sent. -/
  | sendBind (caller : Caller) (i : ℕ) (tcpSocket : SocketId)
  /-- `VirtualChannelFactory::create`. -/
  | createVc (caller : Caller)
  /-- `vc->open()`. -/
  | openVc (caller : Caller) (v : ℕ)
  | startWatchdog (caller : Caller)
  /-- `Stop` is in `vc->close()`. -/
  | stopClosing (v : ℕ)
  /-- The head of the loop in `ReconnectVC`. -/
  | reconnectLoop (maxRetries retryCount : ℕ)
  /-- `ReconnectVC` is in `vc->close()`. -/
  | reconnectClosing (v maxRetries retryCount : ℕ)
  /-- `tcpSockets.clear()`, and the check of `running` behind it. -/
  | reconnectCleared (maxRetries retryCount : ℕ)
  /-- `ReconnectSingleSlot`: the watchdog check and `SocketCreate`. -/
  | slotCreate (slotIndex epochAtStart : ℕ)
  | slotConnect (slotIndex epochAtStart : ℕ) (tcpSocket : SocketId)
  /-- The checks of the watchdog and of the epoch. -/
  | slotCheck (slotIndex epochAtStart : ℕ) (tcpSocket : SocketId)
  | slotBind (slotIndex epochAtStart newConnId : ℕ) (tcpSocket : SocketId)
  /-- `vcMutex` is locked: `if (!vc || !vc->isOpen())`. -/
  | slotOpenCheck (slotIndex epochAtStart newConnId : ℕ) (tcpSocket : SocketId)
  /-- `vc->replaceConnection`. -/
  | slotReplace (v slotIndex : ℕ) (tcpSocket : SocketId)
  deriving DecidableEq, Repr

/-- The socket that is in a local variable of the operation. -/
def OperationPc.socket? : OperationPc → Option SocketId
  | socketConnect _ _ tcpSocket | sendBind _ _ tcpSocket | slotConnect _ _ tcpSocket
  | slotCheck _ _ tcpSocket | slotBind _ _ _ tcpSocket | slotOpenCheck _ _ _ tcpSocket
  | slotReplace _ _ tcpSocket => some tcpSocket
  | _ => none

end Client

open Client

structure Client where
  running : Bool := false
  watchdogRunning : Bool := false
  reconnectEpoch : ℕ := 0
  tcpSockets : List SocketId := []
  tcpConnectionIds : List ℕ := []
  nextConnectionId : ℕ := 1
  /-- `vc`, by its place among the channels. -/
  vc : Option ℕ := none
  /-- Every channel made so far. -/
  channels : List Channel := []
  pc : OperationPc := .idle
  nextSocket : SocketId := 0
  /-- The sockets passed to `SocketClose`, latest first. -/
  closed : List SocketId := []
  /-- For each `TeardownVc` that has returned, how many sockets had been obtained. -/
  teardowns : List ℕ := []

namespace Client

/-! ## Elementary actions -/

def goto (s : Client) (pc : OperationPc) : Client := { s with pc := pc }

/-- `SocketClose(tcpSocket)`. -/
def socketClose (s : Client) (tcpSocket : SocketId) : Client :=
  { s with closed := tcpSocket :: s.closed }

/-- `SocketCreate`, which succeeds. -/
def socketCreate (s : Client) : Client := { s with nextSocket := s.nextSocket + 1 }

/-- `StopWatchdog`; no slot is being reconnected, so there is nothing to wait for. -/
def stopWatchdog (s : Client) : Client := { s with watchdogRunning := false }

/-- `tcpSockets.clear()` and `tcpConnectionIds.clear()`. -/
def clearSockets (s : Client) : Client := { s with tcpSockets := [], tcpConnectionIds := [] }

/-- The sockets that `disconnect()` closes between two states of a channel: those of the
connections that were connected before and are not any more. -/
def Channel.dropped (ch : Channel) (life : Lifecycle) : List SocketId :=
  ((List.range ch.life.nextConn).filter fun c => ch.life.connected c && !life.connected c).map
    ch.fds

/-- One action inside channel `v`. A new notification is a call of the client's disconnect
callback, which stops the watchdog; the `ReconnectVC` that it starts is an operation. -/
def channelStep (s : Client) (v : ℕ) (e : Lifecycle.Event) : Client :=
  match s.channels[v]? with
  | none => s
  | some ch =>
    let life := Lifecycle.step ch.life e
    { s with
      channels := s.channels.set v { ch with life := life }
      closed := ch.dropped life ++ s.closed
      watchdogRunning :=
        s.watchdogRunning && decide (life.notifications.length ≤ ch.life.notifications.length) }

/-- The state of channel `v`, if there is one. -/
def life? (s : Client) (v : ℕ) : Option Lifecycle := (s.channels[v]?).map Channel.life

/-- `vc->close()` has returned. -/
def closeReturned (s : Client) (v : ℕ) : Bool :=
  match s.life? v with
  | some life => life.closes 0 = .idle
  | none => true

def isOpen (s : Client) (v : ℕ) : Bool :=
  match s.life? v with
  | some life => life.opened
  | none => false

/-! ## `PrepareVC` and `TeardownVc` -/

/-- `PrepareVC` returns. -/
def prepareReturned (s : Client) (caller : Caller) (ok : Bool) : Client :=
  match caller with
  | .user => s.goto .idle
  | .reconnectVC maxRetries retryCount =>
    if ok then s.goto .idle
    else if !s.running then s.goto .idle
    else s.goto (.reconnectLoop maxRetries (retryCount + 1))

/-- The sockets are forgotten, and `TeardownVc` returns. -/
def teardownReturned (s : Client) (next : AfterTeardown) : Client :=
  let s := { s.clearSockets with teardowns := s.nextSocket :: s.teardowns }
  match next with
  | .done => s.goto .idle
  | .prepare caller => s.goto (.socketCreate caller 0)
  | .fail caller => s.prepareReturned caller false

/-- `TeardownVc`, up to `vc->close()`; without a channel it closes the sockets itself. -/
def teardown (s : Client) (next : AfterTeardown) : Client :=
  let s := s.stopWatchdog
  match s.vc with
  | some v => (s.channelStep v (.callClose 0)).goto (.teardownClosing v next)
  | none => { s with closed := s.tcpSockets ++ s.closed }.teardownReturned next

/-- Connection `c` is made of the socket in place `c`; the client sets a disconnect callback. -/
def Channel.create (fds : List SocketId) : Channel where
  life := Lifecycle.init fds.length true
  fds c := fds.getD c 0

def createVc (s : Client) (caller : Caller) : Client :=
  { s with
    channels := s.channels ++ [Channel.create s.tcpSockets]
    vc := some s.channels.length }.goto (.openVc caller s.channels.length)

/-! ## `ReconnectSingleSlot` -/

/-- The slot is dead, as `getDeadSlots()` says; without a channel there is none to be dead. -/
def isDeadSlot (s : Client) (slotIndex : ℕ) : Bool :=
  match s.vc.bind s.life? with
  | none => true
  | some life =>
    match life.connections[slotIndex]? with
    | some c => !life.connected c
    | none => false

/-- `tcpSockets[slotIndex]` and `tcpConnectionIds[slotIndex]`, if the slot is in range. -/
def recordSlot (s : Client) (slotIndex : ℕ) (tcpSocket : SocketId) (newConnId : ℕ) : Client :=
  { s with
    tcpSockets := s.tcpSockets.set slotIndex tcpSocket
    tcpConnectionIds := s.tcpConnectionIds.set slotIndex newConnId }

/-- `vc->replaceConnection`, once it can lock the mutex. An index out of range is refused, and
the socket is left to nobody. -/
def replaceConnection (s : Client) (v slotIndex : ℕ) (tcpSocket : SocketId) : Client :=
  match s.channels[v]? with
  | none => s.goto .idle
  | some ch =>
    if slotIndex ≥ ch.life.connections.length then s.goto .idle
    else if ch.life.disconnectMutex = none then
      { s with
        channels := s.channels.set v
          { life := Lifecycle.step ch.life (.replaceConnection slotIndex)
            fds := Function.update ch.fds ch.life.nextConn tcpSocket } }.goto .idle
    else s

/-! ## One action of the operation -/

/-- `ok` is the result of the system call that the action makes, if it makes one. -/
def run (s : Client) (ok : Bool) : Client :=
  match s.pc with
  | .idle => s
  | .teardown next => s.teardown next
  | .teardownClosing v next =>
    if s.closeReturned v then { s with vc := none }.teardownReturned next
    else s.channelStep v (.close 0)
  | .socketCreate caller i =>
    if i < vcTcpConnections then
      if ok then s.socketCreate.goto (.socketConnect caller i s.nextSocket)
      else s.goto (.teardown (.fail caller))
    else s.goto (.createVc caller)
  | .socketConnect caller i tcpSocket =>
    if ok then s.goto (.sendBind caller i tcpSocket)
    else (s.socketClose tcpSocket).goto (.teardown (.fail caller))
  | .sendBind caller i tcpSocket =>
    let connId := s.nextConnectionId
    let s := { s with nextConnectionId := (connId + 1) % uint32Size }
    if ok then
      { s with
        tcpSockets := s.tcpSockets ++ [tcpSocket]
        tcpConnectionIds := s.tcpConnectionIds ++ [connId] }.goto (.socketCreate caller (i + 1))
    else (s.socketClose tcpSocket).goto (.teardown (.fail caller))
  | .createVc caller => if ok then s.createVc caller else s.goto (.teardown (.fail caller))
  | .openVc caller v =>
    match s.life? v with
    | some life =>
      if life.openPc = .returned then s.goto (.startWatchdog caller)
      else s.channelStep v .opening
    | none => s
  | .startWatchdog caller => { s with watchdogRunning := true }.prepareReturned caller true
  | .stopClosing v => if s.closeReturned v then s.goto .idle else s.channelStep v (.close 0)
  | .reconnectLoop maxRetries retryCount =>
    if s.running ∧ retryCount < maxRetries then
      match s.vc with
      | some v =>
        (s.channelStep v (.callClose 0)).goto (.reconnectClosing v maxRetries retryCount)
      | none => s.clearSockets.goto (.reconnectCleared maxRetries retryCount)
    else s.goto .idle
  | .reconnectClosing v maxRetries retryCount =>
    if s.closeReturned v then
      { s with vc := none }.clearSockets.goto (.reconnectCleared maxRetries retryCount)
    else s.channelStep v (.close 0)
  | .reconnectCleared maxRetries retryCount =>
    if s.running then s.goto (.teardown (.prepare (.reconnectVC maxRetries retryCount)))
    else s.goto .idle
  | .slotCreate slotIndex epochAtStart =>
    if !s.watchdogRunning then s.goto .idle
    else if ok then s.socketCreate.goto (.slotConnect slotIndex epochAtStart s.nextSocket)
    else s.goto .idle
  | .slotConnect slotIndex epochAtStart tcpSocket =>
    if ok then s.goto (.slotCheck slotIndex epochAtStart tcpSocket)
    else (s.socketClose tcpSocket).goto .idle
  | .slotCheck slotIndex epochAtStart tcpSocket =>
    if !s.watchdogRunning ∨ s.reconnectEpoch ≠ epochAtStart then
      (s.socketClose tcpSocket).goto .idle
    else
      { s with nextConnectionId := (s.nextConnectionId + 1) % uint32Size }.goto
        (.slotBind slotIndex epochAtStart s.nextConnectionId tcpSocket)
  | .slotBind slotIndex epochAtStart newConnId tcpSocket =>
    if s.reconnectEpoch ≠ epochAtStart then (s.socketClose tcpSocket).goto .idle
    else if ok then s.goto (.slotOpenCheck slotIndex epochAtStart newConnId tcpSocket)
    else (s.socketClose tcpSocket).goto .idle
  | .slotOpenCheck slotIndex epochAtStart newConnId tcpSocket =>
    match s.vc with
    | none => (s.socketClose tcpSocket).goto .idle
    | some v =>
      if !s.isOpen v then (s.socketClose tcpSocket).goto .idle
      else if s.reconnectEpoch ≠ epochAtStart then (s.socketClose tcpSocket).goto .idle
      else (s.recordSlot slotIndex tcpSocket newConnId).goto (.slotReplace v slotIndex tcpSocket)
  | .slotReplace v slotIndex tcpSocket => s.replaceConnection v slotIndex tcpSocket

/-! ## Runs -/

/-- An operation begins. -/
def call (s : Client) : Operation → Client
  | .prepareVC => s.goto (.teardown (.prepare .user))
  | .teardownVc => s.goto (.teardown .done)
  | .stop =>
    let s := { s with running := false }.stopWatchdog
    match s.vc with
    | some v => (s.channelStep v (.callClose 0)).goto (.stopClosing v)
    | none => s
  | .reconnectVC maxRetries =>
    { s with reconnectEpoch := s.reconnectEpoch + 1 }.stopWatchdog.goto
      (.reconnectLoop maxRetries 0)
  | .reconnectSingleSlot slotIndex => s.goto (.slotCreate slotIndex s.reconnectEpoch)

/-- An action of the IO or the send thread of a channel. -/
inductive WorkerEvent where
  | death (k : ℕ) (c : ConnId)
  | callback (k : ℕ)
  deriving DecidableEq, Repr

def WorkerEvent.toLifecycle : WorkerEvent → Lifecycle.Event
  | death k c => .death k c
  | callback k => .callback k

/-- A channel that nothing points to: not the client, and not its own threads, whose callbacks
hold it. -/
def Unreferenced (s : Client) (v : ℕ) (ch : Channel) : Prop :=
  s.vc ≠ some v ∧ ch.life.ioThread = none ∧ ch.life.sendThread = none

instance (s : Client) (v : ℕ) (ch : Channel) : Decidable (s.Unreferenced v ch) :=
  inferInstanceAs (Decidable (_ ∧ _))

/-- The channel is destroyed, and its connections with it; a destructor closes the socket of a
connection that is still connected. -/
def destroy (s : Client) (v : ℕ) : Client :=
  match s.channels[v]? with
  | none => s
  | some ch =>
    if s.Unreferenced v ch then
      let life := { ch.life with connected := fun _ => false }
      { s with
        channels := s.channels.set v { ch with life := life }
        closed := ch.dropped life ++ s.closed }
    else s

inductive Event where
  /-- `Start()` sets `running`. -/
  | start
  | call (op : Operation)
  | run (ok : Bool)
  | worker (v : ℕ) (e : WorkerEvent)
  | destroy (v : ℕ)
  deriving DecidableEq, Repr

/-- An operation begins when no other is in progress, and a slot is reconnected when it is
dead. -/
def enabled (s : Client) : Operation → Bool
  | .reconnectSingleSlot slotIndex => decide (s.pc = .idle) && s.isDeadSlot slotIndex
  | _ => decide (s.pc = .idle)

def step (s : Client) : Event → Client
  | .start => if s.pc = .idle then { s with running := true } else s
  | .call op => if s.enabled op then s.call op else s
  | .run ok => s.run ok
  | .worker v e => s.channelStep v e.toLifecycle
  | .destroy v => s.destroy v

def stateAt (events : ℕ → Event) (n : ℕ) : Client := runState step {} events n

/-- No socket is closed twice, and by the time a `TeardownVc` has returned, every socket that
was obtained before is closed. -/
structure ClosesOnce (s : Client) : Prop where
  nodup : s.closed.Nodup
  all : ∀ m ∈ s.teardowns, ∀ tcpSocket < m, tcpSocket ∈ s.closed

end Client
end TcpUdp
