import TcpUdp.Queues
import TcpUdp.ConnectionOrder
import TcpUdp.Lib.Run
import TcpUdp.Lib.StreamWriter

/-!
# The send thread

`TcpVCSendThread::run` as a machine: `Pc` is the place in the loop with the locals that
live there, and one step of the thread runs from one interaction with the outside
(a send, a poll, a clock reading) to the next. What the outside answers is the input
`Io`; what other threads do in between are the other events. All of it is arbitrary.

A `TcpConnection` object outlives its slot, so the objects live in a heap (`conns`), and
the vector `connections` holds references that may be null. `written` is what a socket
accepted so far; a write to a disconnected connection writes nothing.

The fields `dequeued` and `completed` are history: nothing reads them.
-/

namespace TcpUdp

open Lib

abbrev ConnId := ℕ

/-- A `TcpConnection` object, with the `ConnSendStats` that is created and replaced
together with it. -/
structure TcpConnection where
  connected : Bool := true
  written : List UInt8 := []
  stats : ConnSendStats := {}

def TcpConnection.disconnect (conn : TcpConnection) : TcpConnection :=
  { conn with connected := false }

/-- `reenqueueCount.fetch_add(1)`. -/
def TcpConnection.countFailure (conn : TcpConnection) : TcpConnection :=
  { conn with
    stats := { conn.stats with
      reenqueueCount := (conn.stats.reenqueueCount + 1) % uint64Size } }

/-- The statistics of a packet that went out whole. -/
def TcpConnection.countSent (conn : TcpConnection) (messageId : ℕ) (nowMs : ℤ) : TcpConnection :=
  { conn with
    stats :=
      { lastTxMessageId := messageId, lastTxTimeMs := nowMs,
        txCount := (conn.stats.txCount + 1) % uint64Size, reenqueueCount := 0,
        valid := true } }

/-! ## The outside -/

/-- A result of `SendTcpDirect`: the number of bytes taken, or an error code. -/
inductive SendResult where
  | sent (n : ℕ)
  | wouldBlock
  | closed
  | interrupted
  deriving DecidableEq, Repr

/-- The answers of the operating system during one step of the thread. -/
structure Io where
  sendResult : SendResult := .wouldBlock
  writable : Bool := false
  now : ℤ := 0
  runtimeInfo : ℕ → TcpConnectionRuntimeInfo := fun _ => {}

/-- `SendTcpDirect` on a connection's socket: at most the bytes given are taken. The
socket of a disconnected connection is closed, and sending on it is an error. -/
def sendTcpDirect (conn : TcpConnection) (data : List UInt8) (result : SendResult) :
    SendResult × TcpConnection :=
  if conn.connected then
    match result with
    | .sent n =>
      let n := min n data.length
      (.sent n, { conn with written := conn.written ++ data.take n })
    | result => (result, conn)
  else (.closed, conn)

/-! ## Places in the loop -/

/-- The partial-send loop on one connection: `totalSent` bytes of the packet are out. -/
structure Flush where
  conn : ConnId
  totalSent : ℕ
  partialStart : ℤ

/-- The attempt loop of a normal send. -/
structure SendJob where
  data : Packet
  connSnap : List (Option ConnId)
  scores : List ℤ
  order : List ℕ
  rank : ℕ

/-- The slot the loop is at, `order[rank]`. -/
def SendJob.idx (job : SendJob) : ℕ := job.order.getD job.rank 0

def SendJob.next (job : SendJob) : SendJob := { job with rank := job.rank + 1 }

/-- The attempt loop of `sendOnResendConn`; `resendBatch` is the caller's counter. -/
structure ResendJob where
  data : Packet
  conns : List (Option ConnId)
  attempt : ℕ
  aliveCount : ℕ
  resendBatch : ℕ

def ResendJob.next (job : ResendJob) : ResendJob := { job with attempt := job.attempt + 1 }

def ResendJob.resendCount (job : ResendJob) : ℕ := job.conns.length - vcFirstResendConnIndex

inductive Pc where
  /-- `while (this->isRunning())`. -/
  | loopHead
  /-- The batch loop over the resend queue. -/
  | drainResend (resendBatch : ℕ)
  | resendAttempt (job : ResendJob)
  | resendFlush (job : ResendJob) (flush : Flush)
  /-- Use the retained packet or dequeue one. -/
  | takePacket
  /-- A packet is in hand and nothing has been tried yet. -/
  | startPacket (data : Packet)
  | sendAttempt (job : SendJob)
  | sendFlush (job : SendJob) (flush : Flush)
  | stopped

/-- The two users of the partial-send loop. -/
inductive SendPath where
  | data
  | resend
  deriving DecidableEq, Repr

/-- A packet that was written to its last byte. -/
structure Completion where
  path : SendPath
  slot : ℕ
  conn : ConnId
  packet : Packet

structure SendThread where
  running : Bool := true
  conns : ConnId → TcpConnection
  connections : List (Option ConnId)
  sendQueue : BlockingQueue := {}
  resendQueue : BlockingQueue := {}
  messageTracker : MessageTracker
  resendRetryCount : SortedMap ℕ ℕ := SortedMap.empty
  roundRobinStart : ℕ := 0
  resendRoundRobin : ℕ := 0
  pendingDataVec : Option Packet := none
  pc : Pc := .loopHead
  /-- Packets taken from `sendQueue` so far, in order. -/
  dequeued : List Packet := []
  /-- Packets written to the last byte so far, in order. -/
  completed : List Completion := []

namespace SendThread

def partialSendBudgetMs : ℤ := 3000
def maxResendRetries : ℕ := 6
def maxResendBatch : ℕ := 8
def maxResendTracked : ℕ := 2000

/-- Slots from `vcFirstResendConnIndex` on are for resends when there are that many. -/
def numDataConns (s : SendThread) : ℕ :=
  if s.connections.length > vcFirstResendConnIndex then vcFirstResendConnIndex
  else s.connections.length

def setConn (s : SendThread) (c : ConnId) (f : TcpConnection → TcpConnection) : SendThread :=
  { s with conns := Function.update s.conns c (f (s.conns c)) }

def isConnected (s : SendThread) (slot : Option ConnId) : Bool :=
  match slot with
  | some c => (s.conns c).connected
  | none => false

/-- `rateConnection` on a slot of the snapshot. -/
def rateConnection (s : SendThread) (connSnap : List (Option ConnId)) (io : Io) (idx : ℕ) : ℤ :=
  match connSnap.getD idx none with
  | some c =>
    if (s.conns c).connected then rateConnected (io.runtimeInfo idx) (s.conns c).stats else -1
  | none => -1

/-! ## The partial-send loop -/

/-- How one pass of the partial-send loop ends. -/
inductive FlushStep where
  | again (flush : Flush)
  | leave

/-- One pass of `while (totalSent < data->size())`, the same in both send paths. -/
def flushPass (s : SendThread) (data : Packet) (flush : Flush) (io : Io) :
    SendThread × FlushStep :=
  let budgetSpent := io.now - flush.partialStart ≥ partialSendBudgetMs
  if flush.totalSent < data.length then
    if !(s.conns flush.conn).connected || !s.running then (s, .leave)
    -- `IsSocketWritable` failed: poll again until the budget is spent
    else if !io.writable then
      if budgetSpent then (s, .leave) else (s, .again flush)
    else
      let (r, conn) :=
        sendTcpDirect (s.conns flush.conn) (data.drop flush.totalSent) io.sendResult
      let s := s.setConn flush.conn fun _ => conn
      match r with
      | .sent n =>
        -- a send of no bytes counts as a failure
        if n > 0 then (s, .again { flush with totalSent := flush.totalSent + n })
        else (s, .leave)
      | .wouldBlock | .interrupted => if budgetSpent then (s, .leave) else (s, .again flush)
      | .closed => (s, .leave)
  else (s, .leave)

/-! ## The resend queue -/

def anyResendAlive (s : SendThread) : Bool :=
  (s.connections.drop vcFirstResendConnIndex).any fun slot => s.isConnected slot

/-- The resend batch is over: bound the retry table and go for a normal packet. -/
def leaveResend (s : SendThread) : SendThread :=
  { s with
    resendRetryCount :=
      if s.resendRetryCount.size > maxResendTracked then SortedMap.empty
      else s.resendRetryCount
    pc := .takePacket }

def stepLoopHead (s : SendThread) : SendThread :=
  if s.running then
    if s.anyResendAlive then { s with pc := .drainResend 0 } else s.leaveResend
  else { s with pc := .stopped }

/-- Take one packet of the batch and enter `sendOnResendConn`. -/
def stepDrainResend (s : SendThread) (resendBatch : ℕ) : SendThread :=
  if resendBatch < maxResendBatch then
    match s.resendQueue.tryDequeue with
    | none => s.leaveResend
    | some (data, resendQueue) =>
      let s := { s with resendQueue := resendQueue }
      -- no resend connections any more: the packet is dropped
      if s.connections.length ≤ vcFirstResendConnIndex then
        { s with pc := .drainResend (resendBatch + 1) }
      else
        { s with
          pc := .resendAttempt
            { data := data, conns := s.connections, attempt := 0, aliveCount := 0,
              resendBatch := resendBatch } }
  else s.leaveResend

/-- No resend connection took the packet: count a retry if one was alive, and put the
packet back unless the retries are spent. -/
def resendFailed (s : SendThread) (job : ResendJob) : SendThread :=
  let messageId := headerMessageId job.data
  let retryCount := (s.resendRetryCount.find? messageId).getD 0
  let countThisRetry : Bool := job.aliveCount > 0
  -- `operator[]` puts a zero into the table before the check
  let table := s.resendRetryCount.tryEmplace messageId 0
  let s := { s with
    resendRoundRobin := (s.resendRoundRobin + 1) % job.resendCount
    pc := .drainResend (job.resendBatch + 1) }
  if !countThisRetry || retryCount < maxResendRetries then
    { s with
      resendRetryCount :=
        if countThisRetry then table.insertOrAssign messageId (retryCount + 1) else table
      resendQueue := s.resendQueue.enqueue job.data }
  else { s with resendRetryCount := table.erase messageId }

/-- One pass of the attempt loop of `sendOnResendConn`. -/
def stepResendAttempt (s : SendThread) (job : ResendJob) (io : Io) : SendThread :=
  if job.attempt < job.resendCount then
    let idx := vcFirstResendConnIndex + (s.resendRoundRobin + job.attempt) % job.resendCount
    match job.conns.getD idx none with
    | none => { s with pc := .resendAttempt job.next }
    | some c =>
      if !(s.conns c).connected then { s with pc := .resendAttempt job.next }
      else if (io.runtimeInfo idx).isInExponentialBackoff then
        { s with pc := .resendAttempt job.next }
      else
        let job := { job with aliveCount := job.aliveCount + 1 }
        let (r, conn) := sendTcpDirect (s.conns c) job.data io.sendResult
        let s := s.setConn c fun _ => conn
        match r with
        | .sent n =>
          if n > 0 then
            { s with
              pc := .resendFlush job { conn := c, totalSent := n, partialStart := io.now } }
          else { s with pc := .resendAttempt job.next }
        | .closed =>
          { s.setConn c TcpConnection.disconnect with pc := .resendAttempt job.next }
        | _ => { s with pc := .resendAttempt job.next }
  else s.resendFailed job

/-- One pass of the partial-send loop of a resend, and what follows when it is left. -/
def stepResendFlush (s : SendThread) (job : ResendJob) (flush : Flush) (io : Io) : SendThread :=
  match s.flushPass job.data flush io with
  | (s, .again flush) => { s with pc := .resendFlush job flush }
  | (s, .leave) =>
    if flush.totalSent < job.data.length then
      { s.setConn flush.conn TcpConnection.disconnect with pc := .resendAttempt job.next }
    else
      let idx := vcFirstResendConnIndex + (s.resendRoundRobin + job.attempt) % job.resendCount
      { s with
        resendRoundRobin := (s.resendRoundRobin + 1) % job.resendCount
        resendRetryCount := s.resendRetryCount.erase (headerMessageId job.data)
        completed := s.completed ++ [⟨.resend, idx, flush.conn, job.data⟩]
        pc := .drainResend (job.resendBatch + 1) }

/-! ## Normal sends -/

/-- The idle wait when there is no packet changes nothing and leads back to the head. -/
def stepTakePacket (s : SendThread) : SendThread :=
  match s.pendingDataVec with
  | some data => { s with pendingDataVec := none, pc := .startPacket data }
  | none =>
    match s.sendQueue.tryDequeue with
    | some (data, sendQueue) =>
      { s with sendQueue := sendQueue, dequeued := s.dequeued ++ [data],
               pc := .startPacket data }
    | none => { s with pc := .loopHead }

/-- Snapshot, rating and order for the packet in hand. A shutdown, or a vector without a
connection in slot 0, drops the packet. -/
def stepStartPacket (s : SendThread) (data : Packet) (io : Io) : SendThread :=
  if s.running then
    let connSnap := s.connections
    if s.numDataConns = 0 ∨ connSnap.getD 0 none = none then { s with pc := .loopHead }
    else
      let scores := (List.range s.numDataConns).map fun i => s.rateConnection connSnap io i
      { s with
        pc := .sendAttempt
          { data := data, connSnap := connSnap, scores := scores,
            order := connectionOrder scores s.roundRobinStart, rank := 0 }
        roundRobinStart := (s.roundRobinStart + 1) % s.numDataConns }
  else { s with pc := .stopped }

/-- The connection is passed over: not connected when nothing is eligible, else of
negative score. -/
def skips (s : SendThread) (job : SendJob) : Bool :=
  if bestScore job.scores ≥ 0 then job.scores.getD job.idx (-1) < 0
  else !s.isConnected (job.connSnap.getD job.idx none)

/-- One pass of the attempt loop; at its end the packet is retained. -/
def stepSendAttempt (s : SendThread) (job : SendJob) (io : Io) : SendThread :=
  if job.rank < s.numDataConns then
    if s.skips job then { s with pc := .sendAttempt job.next }
    else
      match job.connSnap.getD job.idx none with
      | none => { s with pc := .sendAttempt job.next }
      | some c =>
        let (r, conn) := sendTcpDirect (s.conns c) job.data io.sendResult
        let s := s.setConn c fun _ => conn
        match r with
        | .sent n =>
          if n > 0 then
            { s with
              pc := .sendFlush job { conn := c, totalSent := n, partialStart := io.now } }
          else { s.setConn c TcpConnection.countFailure with pc := .sendAttempt job.next }
        | .closed =>
          { s.setConn c fun conn => conn.countFailure.disconnect with
            pc := .sendAttempt job.next }
        | _ => { s.setConn c TcpConnection.countFailure with pc := .sendAttempt job.next }
  else { s with pendingDataVec := some job.data, pc := .loopHead }

/-- One pass of the partial-send loop of a normal send, and what follows when it is left. -/
def stepSendFlush (s : SendThread) (job : SendJob) (flush : Flush) (io : Io) : SendThread :=
  match s.flushPass job.data flush io with
  | (s, .again flush) => { s with pc := .sendFlush job flush }
  | (s, .leave) =>
    if flush.totalSent < job.data.length then
      -- the stream ends inside the packet, so the connection is of no more use
      { s.setConn flush.conn fun conn => conn.disconnect.countFailure with
        pc := .sendAttempt job.next }
    else
      let messageId := headerMessageId job.data
      { s.setConn flush.conn fun conn => conn.countSent messageId io.now with
        messageTracker := s.messageTracker.recordMessage messageId job.idx
        completed := s.completed ++ [⟨.data, job.idx, flush.conn, job.data⟩]
        pc := .loopHead }

/-! ## Steps and runs -/

/-- One step of the thread. -/
def threadStep (s : SendThread) (io : Io) : SendThread :=
  match s.pc with
  | .loopHead => s.stepLoopHead
  | .drainResend resendBatch => s.stepDrainResend resendBatch
  | .resendAttempt job => s.stepResendAttempt job io
  | .resendFlush job flush => s.stepResendFlush job flush io
  | .takePacket => s.stepTakePacket
  | .startPacket data => s.stepStartPacket data io
  | .sendAttempt job => s.stepSendAttempt job io
  | .sendFlush job flush => s.stepSendFlush job flush io
  | .stopped => s

/-- A step of the thread, or an action of another thread. -/
inductive Event where
  | thread (io : Io)
  | enqueueSend (data : Packet)
  | enqueueResend (data : Packet)
  | cancelWait
  | disconnect (c : ConnId)
  | replaceConnection (slot : ℤ) (c : ConnId)
  | setRunning (value : Bool)

/-- `TcpVCSendThread::replaceConnection`; a slot out of range is ignored. -/
def replaceConnection (s : SendThread) (slot : ℤ) (c : ConnId) : SendThread :=
  if slot < 0 ∨ slot.toNat ≥ s.connections.length then s
  else { s with connections := s.connections.set slot.toNat (some c) }

def step (s : SendThread) : Event → SendThread
  | .thread io => s.threadStep io
  | .enqueueSend data => { s with sendQueue := s.sendQueue.enqueue data }
  | .enqueueResend data => { s with resendQueue := s.resendQueue.enqueue data }
  | .cancelWait =>
    { s with sendQueue := s.sendQueue.cancelWait, resendQueue := s.resendQueue.cancelWait }
  | .disconnect c => s.setConn c TcpConnection.disconnect
  | .replaceConnection slot c => s.replaceConnection slot c
  | .setRunning value => { s with running := value }

/-- A thread that has not run yet: queues empty, nothing written to any connection. -/
structure Initial (s : SendThread) : Prop where
  written : ∀ c, (s.conns c).written = []
  sendQueue : s.sendQueue = {}
  resendQueue : s.resendQueue = {}
  pendingDataVec : s.pendingDataVec = none
  pc : s.pc = .loopHead
  dequeued : s.dequeued = []
  completed : s.completed = []

/-- The packet being written, if the thread is in a partial-send loop. -/
def flushing (s : SendThread) : Option (ConnId × Packet × ℕ) :=
  match s.pc with
  | .resendFlush job flush => some (flush.conn, job.data, flush.totalSent)
  | .sendFlush job flush => some (flush.conn, job.data, flush.totalSent)
  | _ => none

end SendThread
end TcpUdp
