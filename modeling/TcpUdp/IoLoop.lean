import TcpUdp.Descriptors
import TcpUdp.IoThread

/-!
# The loop of the IO thread

`TcpVCIoThread::run` over the machine of `Descriptors`: between any two of its steps other
threads may disconnect and replace connections and open and close sockets. The loop works
on a copy of the vector of connections and decides by the descriptor number of a slot
whether the slot's `ReadBuffer` still belongs to the slot's connection.

`readFromConnection` loads the descriptor of the connection and then receives from it, in
two steps. What `recv` returns comes from whoever owns the descriptor by then.

In a `Slot` the field `origins` says from which socket each unprocessed byte came, and
`prevConn` which connection the slot had when its descriptor was last looked at; both are
history.
-/

namespace TcpUdp

open Lib

namespace IoLoop

inductive LoopPc where
  | loopHead
  /-- A generation other than `cachedGen` was loaded. -/
  | refreshing (gen : ℕ)
  /-- The first loop over the slots. -/
  | visiting (i : ℕ)
  | polling
  /-- The second loop over the slots. -/
  | serving (i : ℕ)
  /-- The head of the receive loop. -/
  | receiving (i : ℕ)
  /-- `RecvTcpDirect` with the descriptor that was loaded. -/
  | receivingFrom (i : ℕ) (fd : SocketFd)
  | parsing (i : ℕ)
  /-- In `conn->disconnect()`. -/
  | disconnecting (i : ℕ) (called : Bool)
  | afterRead (i : ℕ)
  | stopped
  deriving DecidableEq, Repr

namespace LoopPc

def visiting? : LoopPc → Option ℕ
  | visiting i => some i
  | _ => none

def receivingFrom? : LoopPc → Option (ℕ × SocketFd)
  | receivingFrom i fd => some (i, fd)
  | _ => none

end LoopPc

/-- What the operating system answers to a step of the loop. -/
structure Answer where
  pollFailed : Bool := false
  /-- The slots for which `SocketPollMany` reports an event. -/
  ready : List ℕ := []
  recv : RecvResult := .wouldBlock

/-! ## A slot -/

/-- What the loop keeps for a slot: the elements of `readBuffers`, `prevFds` and `pollfds`. -/
structure Slot where
  readBuffer : ReadBuffer := {}
  prevFd : SocketFd := -1
  pollFd : SocketFd := -1
  origins : List Descriptors.Owner := []
  prevConn : Option ConnId := none

namespace Slot

/-- The body of the first loop: an empty buffer when the descriptor has changed. -/
def visit (slot : Slot) (currFd : SocketFd) (conn : Option ConnId) : Slot :=
  let slot :=
    if currFd ≠ slot.prevFd then { slot with readBuffer := {}, origins := [] } else slot
  { slot with prevFd := currFd, pollFd := currFd, prevConn := conn }

/-- `n > 0`: the bytes are those of the socket that has the descriptor. -/
def receive (slot : Slot) (owner : Descriptors.Owner) (chunk : List UInt8) : Slot :=
  { slot with
    readBuffer := slot.readBuffer.append chunk
    origins := slot.origins ++ List.replicate chunk.length owner }

/-- The parse loop; the callbacks it makes do not touch the buffers. -/
def parse (slot : Slot) : Slot :=
  let buf := slot.readBuffer
  let buf' := (parsePackets buf.available buf).2
  { slot with
    readBuffer := buf'
    origins := slot.origins.drop (buf.available - buf'.available) }

end Slot

end IoLoop

open IoLoop

structure IoLoop where
  os : Descriptors
  running : Bool := true
  pc : LoopPc := .loopHead
  cachedGen : ℕ := uint64Size - 1
  slots : ℕ → Slot := fun _ => {}
  ready : List ℕ := []

namespace IoLoop

/-- `connections.size()`, which never changes. -/
def numConns (s : IoLoop) : ℕ := s.os.ioConnections.length

/-- The connection the loop has in slot `i`. -/
def conn? (s : IoLoop) (i : ℕ) : Option ConnId := s.os.ioSnapshot[i]?

/-- `-1` for a slot without a connected connection. -/
def currFd (s : IoLoop) (i : ℕ) : SocketFd :=
  match s.conn? i with
  | some c => if (s.os.conns c).connected then (s.os.conns c).socketFd else -1
  | none => -1

def setSlot (s : IoLoop) (i : ℕ) (f : Slot → Slot) : IoLoop :=
  { s with slots := Function.update s.slots i (f (s.slots i)) }

def goto (s : IoLoop) (pc : LoopPc) : IoLoop := { s with pc := pc }

/-- Receiving from a descriptor that is not open is an error. -/
def receive (s : IoLoop) (i : ℕ) (fd : SocketFd) (result : RecvResult) : IoLoop :=
  match s.os.owner fd with
  | none => s.goto (.disconnecting i false)
  | some owner =>
    match result with
    | .bytes chunk => (s.setSlot i fun slot => slot.receive owner chunk).goto (.receiving i)
    | .closed | .other => s.goto (.disconnecting i false)
    | .wouldBlock | .timeout | .interrupted => s.goto (.parsing i)

/-- `conn->disconnect()` as call 0; `disconnectCallback`, which comes after it, is an
action of the channel. -/
def disconnect (s : IoLoop) (i : ℕ) (called : Bool) : IoLoop :=
  match called, s.conn? i with
  | false, some c => { s with os := s.os.callDisconnect 0 c }.goto (.disconnecting i true)
  | false, none => s.goto (.afterRead i)
  | true, _ =>
    if s.os.disconnects 0 = .idle then s.goto (.afterRead i)
    else { s with os := s.os.disconnectStep 0 }

/-- The head of `readFromConnection`. -/
def callRead (s : IoLoop) (i : ℕ) : IoLoop :=
  match s.conn? i with
  | some c => s.goto (if (s.os.conns c).connected then .receiving i else .afterRead i)
  | none => s.goto (.afterRead i)

/-- One step of the IO thread. -/
def ioStep (s : IoLoop) (answer : Answer) : IoLoop :=
  match s.pc with
  | .loopHead =>
    if s.running then
      if s.os.connGeneration ≠ s.cachedGen then s.goto (.refreshing s.os.connGeneration)
      else s.goto (.visiting 0)
    else s.goto .stopped
  | .refreshing gen =>
    { s with os := s.os.refreshSnapshot, cachedGen := gen }.goto (.visiting 0)
  | .visiting i =>
    if i < s.numConns then
      (s.setSlot i fun slot => slot.visit (s.currFd i) (s.conn? i)).goto (.visiting (i + 1))
    else s.goto .polling
  | .polling =>
    if answer.pollFailed then s.goto .loopHead
    else { s with ready := answer.ready }.goto (.serving 0)
  | .serving i =>
    if i < s.numConns then
      if (s.slots i).pollFd = -1 ∨ i ∉ s.ready then s.goto (.serving (i + 1)) else s.callRead i
    else s.goto .loopHead
  | .receiving i =>
    if s.running then
      match s.conn? i with
      | some c => s.goto (.receivingFrom i (s.os.conns c).socketFd)
      | none => s.goto (.parsing i)
    else s.goto (.parsing i)
  | .receivingFrom i fd => s.receive i fd answer.recv
  | .parsing i => (s.setSlot i .parse).goto (.afterRead i)
  | .disconnecting i called => s.disconnect i called
  | .afterRead i => s.goto (if s.running then .serving (i + 1) else .stopped)
  | .stopped => s

inductive Event where
  | io (answer : Answer)
  /-- Another thread, or the operating system. -/
  | other (e : Descriptors.Event)
  /-- `setRunning(false)`. -/
  | stop

def Event.answer? : Event → Option Answer
  | io answer => some answer
  | _ => none

/-- Call 0 of `disconnect()` and the snapshot are the IO thread's own. -/
def ofIoThread : Descriptors.Event → Bool
  | .callDisconnect k _ | .disconnect k => k == 0
  | .refreshSnapshot => true
  | _ => false

def step (s : IoLoop) : Event → IoLoop
  | .io answer => s.ioStep answer
  | .other e => if ofIoThread e then s else { s with os := Descriptors.step s.os e }
  | .stop => { s with running := false }

def stateAt (sockets : Descriptors.OpenSockets) (events : ℕ → Event) (n : ℕ) : IoLoop :=
  runState step { os := Descriptors.init sockets } events n

/-! ## What is claimed, and when -/

/-- The buffer that is about to be parsed holds bytes of the slot's connection only. -/
def ParsesOwnBytes (s : IoLoop) : Prop :=
  ∀ i c, s.pc = .parsing i → s.conn? i = some c →
    ∀ owner ∈ (s.slots i).origins, owner = .conn c

/-- A visit that finds the descriptor number of the visit before finds the connection of
the visit before, or an empty buffer. -/
def KeepsConnection (s : IoLoop) (i : ℕ) : Prop :=
  s.currFd i = (s.slots i).prevFd → s.currFd i ≠ -1 →
    s.conn? i = (s.slots i).prevConn ∨ (s.slots i).readBuffer.available = 0

/-- The descriptor that was loaded is closed, or still belongs to the slot's connection. -/
def ReceivesOwn (s : IoLoop) (i : ℕ) (fd : SocketFd) : Prop :=
  s.os.owner fd = none ∨ s.os.owner fd = (s.conn? i).map .conn

/-- The condition on a step: it visits a slot, or receives bytes, without taking one
connection for another. -/
def KeepsStreams (s : IoLoop) (e : Event) : Prop :=
  ∀ answer ∈ e.answer?,
    (∀ i ∈ s.pc.visiting?, i < s.numConns → s.KeepsConnection i)
    ∧ ∀ place ∈ s.pc.receivingFrom?, answer.recv.isBytes → s.ReceivesOwn place.1 place.2

instance (s : IoLoop) (i : ℕ) : Decidable (s.KeepsConnection i) :=
  inferInstanceAs (Decidable (_ → _ → _))

instance (s : IoLoop) (i : ℕ) (fd : SocketFd) : Decidable (s.ReceivesOwn i fd) :=
  inferInstanceAs (Decidable (_ ∨ _))

instance (s : IoLoop) (e : Event) : Decidable (s.KeepsStreams e) :=
  inferInstanceAs (Decidable (∀ answer ∈ e.answer?, _ ∧ _))

end IoLoop
end TcpUdp
