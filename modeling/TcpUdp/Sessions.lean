import TcpUdp.ServerTables
import TcpUdp.Lib.Run

/-!
# Which sockets become a channel

The server and its clients over many attempts. A client connects 32 sockets for a
`PrepareVC`, may stop after any of them and start again, and reconnects single slots in
between; the server takes each socket in turn, finds its own connections dead, and tears a
channel down when all of them are. Each step is one iteration of `AcceptConnections`, one
`disconnect()` or one disconnect callback with nothing in between, and the sockets of a
client are accepted in the order in which it connected them.

A file descriptor is a number: a channel or a peer that keeps the number of a socket that
was closed keeps whatever the operating system opens under it next.
-/

namespace TcpUdp

open Lib

/-- The client's end of an accepted socket. -/
structure Origin where
  clientId : ClientId
  /-- The `PrepareVC` attempts and the reconnects of a client are numbered together. -/
  activity : ℕ
  /-- The number of earlier sockets of the attempt. -/
  position : ℕ
  slotIndex : ℤ
  deriving DecidableEq, Repr

/-- The activity of a client that is under way or comes next. -/
structure Activity where
  number : ℕ := 0
  position : ℕ := 0
  deriving DecidableEq, Repr

/-- The client's activity after one more socket. -/
def Activity.next (activity : Activity) (slotIndex : ℤ) : Activity :=
  if slotIndex < 0 ∧ activity.position + 1 < vcTcpConnections then
    { activity with position := activity.position + 1 }
  else { number := activity.number + 1 }

namespace Sessions

inductive Event where
  /-- The next socket of the client's `PrepareVC`. -/
  | connect (clientId : ClientId) (connectionId : ConnectionId) (clientSocket : SocketFd)
  /-- The attempt ends: it fails, or the client is restarted. -/
  | stop (clientId : ClientId)
  /-- A reconnect of a single slot; not during a `PrepareVC`. -/
  | reconnect (clientId : ClientId) (slotIndex : ℕ) (connectionId : ConnectionId)
      (clientSocket : SocketFd)
  /-- The server disconnects a dead connection. -/
  | die (clientId : ClientId) (slotIndex : ℕ)
  /-- All connections are dead: the disconnect callback. -/
  | teardown (clientId : ClientId)
  deriving DecidableEq, Repr

/-- The socket that an event brings to the server. -/
def incoming (origin : SocketFd → Option Origin) (clients : ClientId → Activity) :
    Event → Option (Origin × SocketFd × ConnectionId)
  | .connect clientId connectionId clientSocket =>
    let activity := clients clientId
    if origin clientSocket = none then
      some (⟨clientId, activity.number, activity.position, -1⟩, clientSocket, connectionId)
    else none
  | .reconnect clientId slotIndex connectionId clientSocket =>
    let activity := clients clientId
    if origin clientSocket = none ∧ activity.position = 0 then
      some (⟨clientId, activity.number, 0, slotIndex⟩, clientSocket, connectionId)
    else none
  | _ => none

end Sessions

structure Sessions where
  tables : ServerTables := {}
  /-- The connections of each channel; `none` when disconnected. -/
  channels : VcId → List (Option SocketFd) := fun _ => []
  nextVc : VcId := 0
  /-- The open sockets. -/
  origin : SocketFd → Option Origin := fun _ => none
  clients : ClientId → Activity := fun _ => {}
  /-- The channels that were created, with the open sockets behind their descriptors. -/
  created : List (ClientId × List (Option Origin)) := []

namespace Sessions

def setClient (s : Sessions) (clientId : ClientId) (activity : Activity) : Sessions :=
  { s with clients := Function.update s.clients clientId activity }

/-- `SocketClose` on each. -/
def socketClose (s : Sessions) (fds : List SocketFd) : Sessions :=
  { s with origin := fun fd => if fd ∈ fds then none else s.origin fd }

/-- `close()`: what is connected is disconnected. -/
def closeVc (s : Sessions) (vc : VcId) : Sessions :=
  { s.socketClose ((s.channels vc).filterMap id) with
    channels := Function.update s.channels vc ((s.channels vc).map fun _ => none) }

def getDeadSlots (s : Sessions) (vc : VcId) : List ℕ :=
  (List.range (s.channels vc).length).filter fun slot => (s.channels vc)[slot]? = some none

/-- `replaceConnection`; the connection that it replaces is closed when it is destroyed. -/
def replaceConnection (s : Sessions) (vc : VcId) (slotIndex : ℕ) (newFd : SocketFd) : Sessions :=
  if slotIndex < (s.channels vc).length then
    let replaced := ((s.channels vc)[slotIndex]?.join).toList
    { s.socketClose replaced with
      channels := Function.update s.channels vc ((s.channels vc).set slotIndex (some newFd)) }
  else s

/-- A socket for a channel that exists. -/
def acceptReplacement (s : Sessions) (vc : VcId) (clientSocket : SocketFd) (bindMsg : MsgBind) :
    Sessions :=
  let targetSlot := decideReplaceSlot (s.tables.connIdSlot bindMsg) bindMsg.slotIndex
    vcTcpConnections (s.getDeadSlots vc)
  if targetSlot < 0 then s.socketClose [clientSocket]
  else
    { s.replaceConnection vc targetSlot.toNat clientSocket with
      tables := s.tables.registerReplacement bindMsg targetSlot.toNat }

/-- What `AddPeer` and `AddSocket` close. -/
def closedByAccumulate (t : ServerTables) (clientSocket : SocketFd) (bindMsg : MsgBind) :
    List SocketFd :=
  let t := t.registerSocket clientSocket bindMsg
  let peer := ((t.addPeer bindMsg.clientId).peers bindMsg.clientId).getD {}
  t.flushedByAddPeer bindMsg.clientId ++ if peer.Excess then [clientSocket] else []

/-- The channel is created when there are enough sockets. -/
def createEnough (s : Sessions) (clientId : ClientId) : Sessions :=
  match s.tables.enoughSockets clientId with
  | some fds =>
    { s with
      tables := s.tables.createVc clientId s.nextVc fds
      channels := Function.update s.channels s.nextVc (fds.map some)
      nextVc := s.nextVc + 1
      created := (clientId, fds.map s.origin) :: s.created }
  | none => s

/-- A socket for a channel that does not exist. -/
def acceptInitial (s : Sessions) (clientSocket : SocketFd) (bindMsg : MsgBind) : Sessions :=
  { s.socketClose (closedByAccumulate s.tables clientSocket bindMsg) with
    tables := s.tables.accumulate clientSocket bindMsg }.createEnough bindMsg.clientId

/-- One iteration of `AcceptConnections`. -/
def acceptConnection (s : Sessions) (clientSocket : SocketFd) (bindMsg : MsgBind) : Sessions :=
  match s.tables.vcs bindMsg.clientId with
  | some vc =>
    if bindMsg.slotIndex < 0 then
      let s := s.closeVc vc
      { s with tables := s.tables.removeVc bindMsg.clientId }.acceptInitial clientSocket bindMsg
    else s.acceptReplacement vc clientSocket bindMsg
  | none => s.acceptInitial clientSocket bindMsg

/-- The socket is opened and accepted. The operating system gives it a number that is not
in use. -/
def openSocket (s : Sessions) (clientSocket : SocketFd) (origin : Origin)
    (connectionId : ConnectionId) : Sessions :=
  { s with origin := Function.update s.origin clientSocket (some origin) }.acceptConnection
    clientSocket ⟨origin.clientId, origin.slotIndex, connectionId⟩

def disconnectSlot (s : Sessions) (vc : VcId) (slotIndex : ℕ) : Sessions :=
  match (s.channels vc)[slotIndex]? with
  | some (some fd) =>
    { s.socketClose [fd] with
      channels := Function.update s.channels vc ((s.channels vc).set slotIndex none) }
  | _ => s

/-- The disconnect callback of a channel without a living connection. -/
def teardown (s : Sessions) (clientId : ClientId) : Sessions :=
  match s.tables.vcs clientId with
  | some vc =>
    if ∀ conn ∈ s.channels vc, conn = none then
      { s with tables := ((s.tables.removeVc clientId).removePeer clientId).eraseSlots clientId }
    else s
  | none => s

def step (s : Sessions) (e : Event) : Sessions :=
  match incoming s.origin s.clients e with
  | some (origin, clientSocket, connectionId) =>
    (s.openSocket clientSocket origin connectionId).setClient origin.clientId
      ((s.clients origin.clientId).next origin.slotIndex)
  | none =>
    match e with
    | .stop clientId => s.setClient clientId { number := (s.clients clientId).number + 1 }
    | .die clientId slotIndex =>
      match s.tables.vcs clientId with
      | some vc => s.disconnectSlot vc slotIndex
      | none => s
    | .teardown clientId => s.teardown clientId
    | _ => s

def stateAt (events : ℕ → Event) (n : ℕ) : Sessions := runState step {} events n

/-! ## Session agreement -/

/-- The sockets of one `PrepareVC` attempt, in its order. -/
def attempt (clientId : ClientId) (activity : ℕ) : List Origin :=
  (List.range vcTcpConnections).map fun i => ⟨clientId, activity, i, -1⟩

/-- Every channel was created from the sockets of one attempt. -/
def Agreement (s : Sessions) : Prop :=
  ∀ c ∈ s.created, ∃ activity, c.2 = (attempt c.1 activity).map some

/-- The sockets in the client's peer. -/
def waiting (s : Sessions) (clientId : ClientId) : List SocketFd :=
  ((s.tables.peers clientId).getD {}).sockets

/-- The condition on a step. The socket that completes a set of 32 is an initial socket of the
attempt whose first socket is the oldest of the set. -/
def FromOneAttempt (s : Sessions) (e : Event) : Prop :=
  ∀ o fd id, incoming s.origin s.clients e = some (o, fd, id) →
    s.tables.vcs o.clientId = none ∨ o.slotIndex < 0 →
    vcTcpConnections ≤ (s.waiting o.clientId).length + 1 →
    (s.waiting o.clientId).length + 1 = vcTcpConnections ∧ o.slotIndex = -1
      ∧ ∃ first ∈ (s.waiting o.clientId).head?, s.origin first = some { o with position := 0 }

end Sessions
end TcpUdp
