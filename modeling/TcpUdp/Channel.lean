import TcpUdp.IoThread
import TcpUdp.SentState
import TcpUdp.SendThread
import TcpUdp.Reorder

/-!
# A virtual channel

`TcpVirtualChannel` after `open()`: what its callers, its IO thread, its send thread and its
reorder thread do to the state they share. One event is what one of them does between two
moments at which another could get in: a call of `send`, one step of the send thread, one
call of `readFromConnection` or one callback of it, one dequeue of the reorder thread or the
rest of its iteration.

The bytes that the peer has written to each connection, `wire`, come from outside. A
connection carries them to this end in any pieces, and stops anywhere.

The fields `received`, `used`, `accepted` and `delivered` are history.
-/

namespace TcpUdp

open Lib

/-! ## The IO thread -/

/-- What ends the receive loop of `readFromConnection` when no more bytes come. -/
inductive RecvEnd where
  /-- `isRunning()` turned false. -/
  | stopped
  | wouldBlock
  | timeout
  | closed
  | interrupted
  | other

def RecvEnd.results : RecvEnd → List RecvResult
  | .stopped => []
  | .wouldBlock => [.wouldBlock]
  | .timeout => [.timeout]
  | .closed => [.closed]
  | .interrupted => [.interrupted]
  | .other => [.other]

/-- The results of `RecvTcpDirect` when the bytes `available` arrive in pieces of the given
sizes. -/
def recvResults : List UInt8 → List ℕ → RecvEnd → List RecvResult
  | _, [], last => last.results
  | available, size :: sizes, last =>
    .bytes (available.take size) :: recvResults (available.drop size) sizes last

structure TcpVCIoThread where
  running : Bool := true
  /-- `connections` and `readBuffers`, slot by slot. -/
  slots : List (ConnId × ReadBuffer)
  /-- The callbacks that the call in progress has still to make, with their slot. -/
  callbacks : List (ℤ × IoCallback) := []
  /-- The bytes taken from each connection so far. -/
  received : ConnId → List UInt8 := fun _ => []
  /-- The connections that have been in a slot. -/
  used : List ConnId

/-- `TcpVCIoThread::replaceConnection`, when the loop has taken notice of it. The new
connection starts with an empty buffer. It is a new object, so it was in no slot before. -/
def TcpVCIoThread.replaceConnection (io : TcpVCIoThread) (slot : ℤ) (c : ConnId) :
    TcpVCIoThread :=
  if slot < 0 ∨ slot.toNat ≥ io.slots.length ∨ c ∈ io.used then io
  else { io with slots := io.slots.set slot.toNat (c, {}), used := c :: io.used }

/-! ## The channel -/

structure TcpVirtualChannel where
  config : ReorderConfig
  opened : Bool := true
  connections : List ConnId
  lastSendMessageId : ℕ := 0
  sentDataCache : SentDataCache
  pendingResendIds : SortedMap ℕ ℤ := SortedMap.empty
  socketStatuses : List SocketStatus
  /-- With `sendQueue`, `resendQueue` and `messageTracker`. -/
  sendThread : SendThread
  ioThread : TcpVCIoThread
  connReceiveQueues : List (SpscQueue DeliveryItem)
  reorder : Reorder := {}
  /-- The queue that the reorder thread drains, and what it has dequeued in this iteration. -/
  queueIndex : ℕ := 0
  arrivals : List DeliveryItem := []
  /-- The payloads that `send` took. -/
  accepted : List (List UInt8) := []
  /-- The items passed to `receiveCallback`. -/
  delivered : List DeliveryItem := []

namespace TcpVirtualChannel

/-- A channel constructed over the given connections and opened. -/
def opening (config : ReorderConfig) (connections : List ConnId) : TcpVirtualChannel where
  config := config
  connections := connections
  sentDataCache := .init connections.length 128
  socketStatuses := List.replicate connections.length {}
  sendThread :=
    { conns := fun _ => {}
      connections := connections.map some
      messageTracker := .init connections.length }
  ioThread := { slots := connections.map fun c => (c, {}), used := connections }
  connReceiveQueues := List.replicate connections.length {}

/-! ## Sending -/

/-- `send`, after its checks. -/
def accept (ch : TcpVirtualChannel) (data : List UInt8) : TcpVirtualChannel :=
  let messageId := ch.lastSendMessageId
  let packet := vcDataPacket messageId data
  { ch with
    lastSendMessageId := (messageId + 1) % uint64Size
    sentDataCache := ch.sentDataCache.insert messageId packet
    sendThread := ch.sendThread.step (.enqueueSend packet)
    accepted := ch.accepted ++ [data] }

/-- `TcpVirtualChannel::send`. -/
def send (ch : TcpVirtualChannel) (data : List UInt8) : TcpVirtualChannel :=
  if !ch.opened then ch
  else if data.length = 0 then ch
  else if data.length > vcMaxDataPayloadSize then ch
  else if ch.sendThread.sendQueue.approxQueueSize > sendQueueDropThreshold then ch
  else ch.accept data

/-- The default `resendCallback`. -/
def resendCallback (ch : TcpVirtualChannel) (messageId : ℕ) (data : List UInt8) :
    TcpVirtualChannel :=
  if !ch.opened then ch
  else { ch with sendThread := ch.sendThread.step (.enqueueResend (vcDataPacket messageId data)) }

/-- The default `missingNotifyCallback`. -/
def missingNotifyCallback (ch : TcpVirtualChannel) (missingIds : List ℕ) : TcpVirtualChannel :=
  if !ch.opened then ch
  else { ch with sendThread := ch.sendThread.step (.enqueueSend (vcMissingNotify missingIds)) }

/-! ## What the IO thread calls back -/

/-- `TcpVirtualChannel::processReceivedData`; a full queue drops the item. -/
def processReceivedData (ch : TcpVirtualChannel) (messageId : ℕ) (data : List UInt8)
    (sourceConnIndex : ℤ) : TcpVirtualChannel :=
  if 0 ≤ sourceConnIndex then
    -- an index beyond the queues is ignored like a negative one
    match ch.connReceiveQueues[sourceConnIndex.toNat]? with
    | none => ch
    | some queue =>
      match queue.tryEnqueue ⟨messageId, data, sourceConnIndex⟩ with
      | none => ch
      | some queue =>
        { ch with
          connReceiveQueues := ch.connReceiveQueues.set sourceConnIndex.toNat queue }
  else ch

/-- The connection that carried the message last is marked degraded. -/
def markDegraded (ch : TcpVirtualChannel) (messageId : ℕ) (now : ℤ) : TcpVirtualChannel :=
  match ch.sendThread.messageTracker.getConnectionIndex messageId with
  | none => ch
  | some connIndex =>
    { ch with
      socketStatuses := ch.socketStatuses.modify connIndex fun status => status.markDegraded now }

/-- `TcpVirtualChannel::processResendRequest`. -/
def processResendRequest (ch : TcpVirtualChannel) (messageId : ℕ) (now : ℤ) :
    TcpVirtualChannel :=
  let ch := ch.markDegraded messageId now
  match ch.sentDataCache.find messageId with
  | some dataVec => ch.resendCallback messageId (resendPayload dataVec)
  | none => ch

/-- The loop body of `processMissingNotify`: resend unless a resend is pending. -/
def resendMissing (now : ℤ) (ch : TcpVirtualChannel) (messageId : ℕ) : TcpVirtualChannel :=
  let ch := ch.markDegraded messageId now
  match ch.pendingResendIds.find? messageId with
  | some _ => ch
  | none =>
    match ch.sentDataCache.find messageId with
    | some dataVec =>
      let ch := ch.resendCallback messageId (resendPayload dataVec)
      { ch with pendingResendIds := ch.pendingResendIds.insertOrAssign messageId now }
    | none => ch

/-- `TcpVirtualChannel::processMissingNotify`: forget the pending resends that are not
listed or too old, then resend what is not pending. -/
def processMissingNotify (ch : TcpVirtualChannel) (missingIds : List ℕ) (now : ℤ) :
    TcpVirtualChannel :=
  let ch := { ch with
    pendingResendIds := ch.pendingResendIds.retain fun id since =>
      id ∈ missingIds ∧ now - since < pendingResendTtl }
  missingIds.foldl (resendMissing now) ch

/-! ## The threads -/

/-- The disconnect callback that `open` gives to the threads. When no connection is left,
the loop that disconnects those that are connected has nothing to do. -/
def disconnectCB (ch : TcpVirtualChannel) : TcpVirtualChannel :=
  if !ch.opened then ch
  else if ch.connections.any fun c => (ch.sendThread.conns c).connected then ch
  else
    { ch with
      opened := false
      ioThread := { ch.ioThread with running := false }
      sendThread := (ch.sendThread.step .cancelWait).step (.setRunning false) }

/-- A call of `readFromConnection` on a connected connection, up to the callbacks. -/
def receive (ch : TcpVirtualChannel) (slot : ℕ) (c : ConnId) (readBuffer : ReadBuffer)
    (results : List RecvResult) : TcpVirtualChannel :=
  let (cbs, ioSlot) := readFromConnection { readBuffer := readBuffer } results
  let received := ch.ioThread.received c ++ recvBytes results
  { ch with
    ioThread := { ch.ioThread with
      slots := ch.ioThread.slots.set slot (c, ioSlot.readBuffer)
      callbacks := cbs.map fun cb => ((slot : ℤ), cb)
      received := Function.update ch.ioThread.received c received }
    sendThread :=
      if ioSlot.connected then ch.sendThread else ch.sendThread.step (.disconnect c) }

/-- The loop of the IO thread comes to a slot. It reads connected connections only, and goes
on when the callbacks of the call before are made. -/
def read (ch : TcpVirtualChannel) (wire : ConnId → List UInt8) (slot : ℕ) (sizes : List ℕ)
    (last : RecvEnd) : TcpVirtualChannel :=
  match ch.ioThread.slots[slot]? with
  | none => ch
  | some (c, readBuffer) =>
    if ch.ioThread.running ∧ ch.ioThread.callbacks = []
        ∧ (ch.sendThread.conns c).connected then
      ch.receive slot c readBuffer
        (recvResults ((wire c).drop (ch.ioThread.received c).length) sizes last)
    else ch

/-- The call in progress has the given callbacks still to make. -/
def withCallbacks (ch : TcpVirtualChannel) (callbacks : List (ℤ × IoCallback)) :
    TcpVirtualChannel :=
  { ch with ioThread := { ch.ioThread with callbacks := callbacks } }

/-- The next callback of the call in progress. -/
def callback (ch : TcpVirtualChannel) (now : ℤ) : TcpVirtualChannel :=
  match ch.ioThread.callbacks with
  | [] => ch
  | (connIndex, cb) :: callbacks =>
    let ch := ch.withCallbacks callbacks
    match cb with
    | .dataCallback messageId data => ch.processReceivedData messageId data connIndex
    | .resendRequestCallback messageId => ch.processResendRequest messageId now
    | .missingNotifyCallback missingIds => ch.processMissingNotify missingIds now

/-- The rest of an iteration of `reorderThreadFunc`, when all queues are drained. -/
def finishIteration (ch : TcpVirtualChannel) (gapNow notifyNow waitNow : ℤ) :
    TcpVirtualChannel :=
  let it := ch.reorder.reorderIteration ch.config ⟨ch.arrivals, gapNow, notifyNow, waitNow⟩
  let ch := match it.notified with
    | some missingIds => ch.missingNotifyCallback missingIds
    | none => ch
  { ch with
    reorder := it.state
    queueIndex := 0
    arrivals := []
    delivered := ch.delivered ++ it.delivered }

/-- One step of `reorderThreadFunc`. -/
def reorderStep (ch : TcpVirtualChannel) (gapNow notifyNow waitNow : ℤ) : TcpVirtualChannel :=
  match ch.connReceiveQueues[ch.queueIndex]? with
  | none => ch.finishIteration gapNow notifyNow waitNow
  | some queue =>
    match queue.tryDequeue with
    | none => { ch with queueIndex := ch.queueIndex + 1 }
    | some (item, queue) =>
      { ch with
        connReceiveQueues := ch.connReceiveQueues.set ch.queueIndex queue
        arrivals := ch.arrivals ++ [item] }

/-! ## Replacing a connection

`TcpVirtualChannel::replaceConnection` is the function below, then
`TcpVCIoThread::replaceConnection` and `TcpVCSendThread::replaceConnection`; the threads run
in between. -/

/-- The channel's own part of `replaceConnection`. -/
def installConnection (ch : TcpVirtualChannel) (slot : ℤ) (c : ConnId) : TcpVirtualChannel :=
  if slot < 0 ∨ slot.toNat ≥ ch.connections.length then ch
  else
    { ch with
      socketStatuses := ch.socketStatuses.set slot.toNat {}
      connections := ch.connections.set slot.toNat c }

/-! ## Events -/

inductive Event where
  | send (data : List UInt8)
  | sendThread (io : Io)
  | read (slot : ℕ) (sizes : List ℕ) (last : RecvEnd)
  | callback (now : ℤ)
  | reorderThread (gapNow notifyNow waitNow : ℤ)
  /-- A connection dies. -/
  | disconnect (c : ConnId)
  | disconnectCB
  | installConnection (slot : ℤ) (c : ConnId)
  | ioReplaceConnection (slot : ℤ) (c : ConnId)
  | sendReplaceConnection (slot : ℤ) (c : ConnId)

def step (wire : ConnId → List UInt8) (ch : TcpVirtualChannel) : Event → TcpVirtualChannel
  | .send data => ch.send data
  | .sendThread io => { ch with sendThread := ch.sendThread.step (.thread io) }
  | .read slot sizes last => ch.read wire slot sizes last
  | .callback now => ch.callback now
  | .reorderThread gapNow notifyNow waitNow => ch.reorderStep gapNow notifyNow waitNow
  | .disconnect c => { ch with sendThread := ch.sendThread.step (.disconnect c) }
  | .disconnectCB => ch.disconnectCB
  | .installConnection slot c => ch.installConnection slot c
  | .ioReplaceConnection slot c =>
    { ch with ioThread := ch.ioThread.replaceConnection slot c }
  | .sendReplaceConnection slot c =>
    { ch with sendThread := ch.sendThread.step (.replaceConnection slot c) }

/-- What this end has written to each connection. -/
def wire (ch : TcpVirtualChannel) (c : ConnId) : List UInt8 := (ch.sendThread.conns c).written

end TcpVirtualChannel
end TcpUdp
