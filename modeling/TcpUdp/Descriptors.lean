import TcpUdp.SendThread
import TcpUdp.Lib.Custody

/-!
# Connections and their descriptors

A `TcpConnection` gives its descriptor back in `disconnect()` or in its destructor, and the
operating system may hand the number out again at once. The machine below has the
operating system's table of open descriptors, the connection objects with the references
that keep them alive, any number of calls of `disconnect()`, `replaceConnection` and
`getDeadSlots()` in progress at the same time, and destructors.

Each step is one action that other threads can come between. `closes` and `disconnected`
are history.
-/

namespace TcpUdp

open Lib

abbrev SocketFd := ℤ

namespace Descriptors

/-! ## Objects, references and calls -/

/-- Who may use an open descriptor. -/
inductive Owner where
  | conn (c : ConnId)
  /-- A socket no `TcpConnection` has been made of, or of another part of the program. -/
  | outside
  deriving DecidableEq, Repr

/-- The fields of a `TcpConnection` that have to do with its socket. -/
structure TcpConnection where
  socketFd : SocketFd := -1
  connected : Bool := true
  /-- The call of `disconnect()` that has locked the mutex. -/
  disconnectMutex : Option ℕ := none
  deriving DecidableEq, Repr

def TcpConnection.setMutex (conn : TcpConnection) (holder : Option ℕ) : TcpConnection :=
  { conn with disconnectMutex := holder }

/-- `socketFd = -1`. -/
def TcpConnection.clearFd (conn : TcpConnection) : TcpConnection := { conn with socketFd := -1 }

/-- `connected.store(false)`. -/
def TcpConnection.clearConnected (conn : TcpConnection) : TcpConnection :=
  { conn with connected := false }

/-- A call of `TcpConnection::disconnect()`, by its next action. -/
inductive DisconnectPc where
  | idle
  | locking (c : ConnId)
  /-- `if (!connected.load())`. -/
  | checking (c : ConnId)
  /-- `SocketClose`, unless there is no descriptor any more. -/
  | closing (c : ConnId)
  /-- `socketFd = -1`. -/
  | clearing (c : ConnId)
  /-- `connected.store(false)`. -/
  | marking (c : ConnId)
  | unlocking (c : ConnId)
  deriving DecidableEq, Repr

namespace DisconnectPc

def conn? : DisconnectPc → Option ConnId
  | idle => none
  | locking c | checking c | closing c | clearing c | marking c | unlocking c => some c

/-- The connection whose mutex the call has locked. -/
def locked? : DisconnectPc → Option ConnId
  | idle | locking _ => none
  | checking c | closing c | clearing c | marking c | unlocking c => some c

end DisconnectPc

/-- A call of `TcpVirtualChannel::replaceConnection`, by the next vector to be written. -/
inductive ReplacePc where
  | idle
  | publishing (slotIndex : ℕ) (newConn : ConnId)
  | toIoThread (slotIndex : ℕ) (newConn : ConnId)
  | toSendThread (slotIndex : ℕ) (newConn : ConnId)
  deriving DecidableEq, Repr

def ReplacePc.conn? : ReplacePc → Option ConnId
  | idle => none
  | publishing _ c | toIoThread _ c | toSendThread _ c => some c

/-- A call of `getDeadSlots()`. `before` is what had been disconnected when it took the
lock, `after` when it returned. -/
inductive DeadSlotsPc where
  | idle
  | looking (i : ℕ) (dead : List ℕ) (before : List ConnId)
  | returned (dead : List ℕ) (connections before after : List ConnId)
  deriving DecidableEq, Repr

/-- What a reference outside the vectors belongs to. -/
inductive Holder where
  | disconnectCall (k : ℕ)
  | replaceCall (k : ℕ)
  /-- A copy in a local variable, a snapshot or a closure. -/
  | copy (k : ℕ)
  deriving DecidableEq, Repr

/-- A `SocketClose`: the connection that called it, and whose the descriptor was. -/
structure Close where
  conn : ConnId
  fd : SocketFd
  owner : Option Owner
  deriving DecidableEq, Repr

end Descriptors

open Descriptors in
structure Descriptors where
  /-- The table of the operating system. -/
  owner : SocketFd → Option Owner
  conns : ConnId → Descriptors.TcpConnection
  nextConn : ConnId
  destroyed : List ConnId := []
  /-- `TcpVirtualChannel::connections`. -/
  connections : List ConnId
  /-- `TcpVCIoThread::connections`. -/
  ioConnections : List ConnId
  connGeneration : ℕ := 0
  /-- The copy the IO loop works with. -/
  ioSnapshot : List ConnId := []
  /-- `TcpVCSendThread::connections`. -/
  sendConnections : List ConnId
  /-- `TcpVirtualChannel::disconnectMutex`, with the call of `getDeadSlots()` that has it. -/
  disconnectMutex : Option ℕ := none
  held : List (Holder × ConnId) := []
  disconnects : ℕ → DisconnectPc := fun _ => .idle
  replaces : ℕ → ReplacePc := fun _ => .idle
  queries : ℕ → DeadSlotsPc := fun _ => .idle
  closes : List Close := []
  disconnected : List ConnId := []

namespace Descriptors

/-! ## Elementary actions -/

/-- The elements of the vectors of connections. -/
def vectors (s : Descriptors) : List ConnId :=
  s.connections ++ s.ioConnections ++ s.ioSnapshot ++ s.sendConnections

/-- Some `shared_ptr` points to the object. -/
def Referenced (s : Descriptors) (c : ConnId) : Prop :=
  c ∈ s.vectors ∨ c ∈ s.held.map Prod.snd

instance (s : Descriptors) (c : ConnId) : Decidable (s.Referenced c) :=
  inferInstanceAs (Decidable (_ ∨ _))

def hold (s : Descriptors) (h : Holder) (c : ConnId) : Descriptors :=
  { s with held := (h, c) :: s.held }

def release (s : Descriptors) (h : Holder) : Descriptors :=
  { s with held := s.held.filter fun ref => ref.1 ≠ h }

def setConn (s : Descriptors) (c : ConnId) (f : TcpConnection → TcpConnection) : Descriptors :=
  { s with conns := Function.update s.conns c (f (s.conns c)) }

def setDisconnect (s : Descriptors) (k : ℕ) (pc : DisconnectPc) : Descriptors :=
  { s with disconnects := Function.update s.disconnects k pc }

def setReplace (s : Descriptors) (k : ℕ) (pc : ReplacePc) : Descriptors :=
  { s with replaces := Function.update s.replaces k pc }

def setQuery (s : Descriptors) (k : ℕ) (pc : DeadSlotsPc) : Descriptors :=
  { s with queries := Function.update s.queries k pc }

/-- `SocketClose(socketFd)`, whoever the descriptor belongs to by now. -/
def socketClose (s : Descriptors) (c : ConnId) : Descriptors :=
  let fd := (s.conns c).socketFd
  { s with
    owner := Function.update s.owner fd none
    closes := ⟨c, fd, s.owner fd⟩ :: s.closes }

/-! ## `disconnect()` -/

def markDisconnected (s : Descriptors) (c : ConnId) : Descriptors :=
  { s.setConn c .clearConnected with disconnected := c :: s.disconnected }

/-- The caller has a reference to the object, and keeps it for the time of the call. -/
def callDisconnect (s : Descriptors) (k : ℕ) (c : ConnId) : Descriptors :=
  if s.disconnects k = .idle ∧ s.Referenced c then
    (s.hold (.disconnectCall k) c).setDisconnect k (.locking c)
  else s

def disconnectStep (s : Descriptors) (k : ℕ) : Descriptors :=
  match s.disconnects k with
  | .idle => s
  | .locking c =>
    if (s.conns c).disconnectMutex = none then
      (s.setConn c fun conn => conn.setMutex (some k)).setDisconnect k (.checking c)
    else s
  | .checking c => s.setDisconnect k (if (s.conns c).connected then .closing c else .unlocking c)
  | .closing c =>
    if (s.conns c).socketFd ≠ -1 then (s.socketClose c).setDisconnect k (.clearing c)
    else s.setDisconnect k (.marking c)
  | .clearing c => (s.setConn c .clearFd).setDisconnect k (.marking c)
  | .marking c => (s.markDisconnected c).setDisconnect k (.unlocking c)
  | .unlocking c =>
    ((s.setConn c fun conn => conn.setMutex none).setDisconnect k .idle).release
      (.disconnectCall k)

/-! ## The destructor -/

def markDestroyed (s : Descriptors) (c : ConnId) : Descriptors :=
  { s with destroyed := c :: s.destroyed }

/-- `~TcpConnection`, when no reference is left. -/
def destroy (s : Descriptors) (c : ConnId) : Descriptors :=
  if c < s.nextConn ∧ c ∉ s.destroyed ∧ ¬ s.Referenced c then
    if (s.conns c).socketFd ≠ -1 then
      ((s.markDestroyed c).socketClose c).setConn c .clearFd
    else s.markDestroyed c
  else s

/-! ## `replaceConnection` -/

/-- `make_shared<TcpConnection>(newFd)`. -/
def construct (s : Descriptors) (newFd : SocketFd) : Descriptors :=
  { s with
    owner := Function.update s.owner newFd (some (.conn s.nextConn))
    conns := Function.update s.conns s.nextConn { socketFd := newFd }
    nextConn := s.nextConn + 1 }

/-- The new socket is one the caller has opened; from now on the new connection owns it. -/
def callReplace (s : Descriptors) (k : ℕ) (slotIndex : ℤ) (newFd : SocketFd) : Descriptors :=
  if slotIndex < 0 ∨ slotIndex ≥ s.connections.length then s
  else if s.replaces k = .idle ∧ s.owner newFd = some .outside then
    ((s.construct newFd).hold (.replaceCall k) s.nextConn).setReplace k
      (.publishing slotIndex.toNat s.nextConn)
  else s

def publish (s : Descriptors) (slotIndex : ℕ) (newConn : ConnId) : Descriptors :=
  { s with connections := s.connections.set slotIndex newConn }

/-- `TcpVCIoThread::replaceConnection`. -/
def toIoThread (s : Descriptors) (slotIndex : ℕ) (newConn : ConnId) : Descriptors :=
  { s with
    ioConnections := s.ioConnections.set slotIndex newConn
    connGeneration := (s.connGeneration + 1) % uint64Size }

/-- `TcpVCSendThread::replaceConnection`. -/
def toSendThread (s : Descriptors) (slotIndex : ℕ) (newConn : ConnId) : Descriptors :=
  { s with sendConnections := s.sendConnections.set slotIndex newConn }

/-- `hasThread` says whether the pointer to the thread is set. -/
def replaceStep (s : Descriptors) (k : ℕ) (hasThread : Bool) : Descriptors :=
  match s.replaces k with
  | .idle => s
  | .publishing slotIndex newConn =>
    if s.disconnectMutex = none then
      (s.publish slotIndex newConn).setReplace k (.toIoThread slotIndex newConn)
    else s
  | .toIoThread slotIndex newConn =>
    (if hasThread then s.toIoThread slotIndex newConn else s).setReplace k
      (.toSendThread slotIndex newConn)
  | .toSendThread slotIndex newConn =>
    ((if hasThread then s.toSendThread slotIndex newConn else s).setReplace k .idle).release
      (.replaceCall k)

/-! ## `getDeadSlots()` -/

def setMutex (s : Descriptors) (holder : Option ℕ) : Descriptors :=
  { s with disconnectMutex := holder }

def callGetDeadSlots (s : Descriptors) (k : ℕ) : Descriptors :=
  if s.disconnectMutex = none then
    (s.setMutex (some k)).setQuery k (.looking 0 [] s.disconnected)
  else s

def getDeadSlotsStep (s : Descriptors) (k : ℕ) : Descriptors :=
  match s.queries k with
  | .looking i dead before =>
    match s.connections[i]? with
    | some c =>
      s.setQuery k (.looking (i + 1) (if !(s.conns c).connected then dead ++ [i] else dead) before)
    | none =>
      (s.setMutex none).setQuery k (.returned dead s.connections before s.disconnected)
  | _ => s

/-! ## Runs -/

/-- The IO loop copies its vector. -/
def refreshSnapshot (s : Descriptors) : Descriptors := { s with ioSnapshot := s.ioConnections }

inductive Event where
  /-- A socket is opened anywhere in the program, under any free number. -/
  | openSocket (fd : SocketFd)
  /-- A socket that belongs to no connection is closed. -/
  | closeSocket (fd : SocketFd)
  | callDisconnect (k : ℕ) (c : ConnId)
  | disconnect (k : ℕ)
  | callReplace (k : ℕ) (slotIndex : ℤ) (newFd : SocketFd)
  | replace (k : ℕ) (hasThread : Bool)
  | callGetDeadSlots (k : ℕ)
  | getDeadSlots (k : ℕ)
  | takeCopy (k : ℕ) (c : ConnId)
  | dropCopy (k : ℕ)
  | refreshSnapshot
  | destroy (c : ConnId)
  deriving DecidableEq, Repr

def step (s : Descriptors) : Event → Descriptors
  | .openSocket fd =>
    if 0 ≤ fd ∧ s.owner fd = none then
      { s with owner := Function.update s.owner fd (some .outside) }
    else s
  | .closeSocket fd =>
    if s.owner fd = some .outside then { s with owner := Function.update s.owner fd none } else s
  | .callDisconnect k c => s.callDisconnect k c
  | .disconnect k => s.disconnectStep k
  | .callReplace k slotIndex newFd => s.callReplace k slotIndex newFd
  | .replace k hasThread => s.replaceStep k hasThread
  | .callGetDeadSlots k => s.callGetDeadSlots k
  | .getDeadSlots k => s.getDeadSlotsStep k
  | .takeCopy k c => if s.Referenced c then s.hold (.copy k) c else s
  | .dropCopy k => s.release (.copy k)
  | .refreshSnapshot => s.refreshSnapshot
  | .destroy c => s.destroy c

/-- Open sockets for the slots of a channel. -/
structure OpenSockets where
  fds : List SocketFd
  nodup : fds.Nodup
  open_of_mem : ∀ fd ∈ fds, 0 ≤ fd

/-- A channel that has just been constructed and opened. Connection `i` owns descriptor
`i` of the list. -/
def init (sockets : OpenSockets) : Descriptors :=
  let ids := List.range sockets.fds.length
  { owner := fun fd => if fd ∈ sockets.fds then some (.conn (sockets.fds.idxOf fd)) else none
    conns := fun c => { socketFd := sockets.fds.getD c (-1) }
    nextConn := sockets.fds.length
    connections := ids, ioConnections := ids, sendConnections := ids }

def stateAt (sockets : OpenSockets) (events : ℕ → Event) (n : ℕ) : Descriptors :=
  runState step (init sockets) events n

end Descriptors
end TcpUdp
