import TcpUdp.Queues
import TcpUdp.SentWindow
import TcpUdp.Lib.Run

/-!
# Calls of `send` at the same time

`TcpVirtualChannel::send` in the steps that other threads can see: the load of `opened`, the
load of the queue's depth, the `fetch_add` on `lastSendMessageId`, the insertion in
`sentDataCache` and the push to `sendQueue`. The threads are those of an arbitrary type, each
with one call at a time. Beside them the missing-notify callback pushes to the same queue, the
send thread takes packets off it, and `close()` runs.

`accepted`, `inserted` and `dequeued` are a history that no operation reads.
-/

namespace TcpUdp

open Lib

namespace SendCalls

/-- The data that `send` makes a packet of. -/
def Payload := { data : List UInt8 // 0 < data.length ∧ data.length ≤ vcMaxDataPayloadSize }

instance : DecidableEq Payload := inferInstanceAs (DecidableEq (Subtype _))

/-- Where a thread is in a call of `send`. -/
inductive Place where
  | idle
  /-- The depth of the queue is to be loaded. -/
  | checked (data : Payload)
  /-- The depth was no obstacle, the id is to be taken. -/
  | admitted (data : Payload)
  /-- The packet is to be cached. -/
  | numbered (messageId : ℕ) (data : Payload)
  /-- The packet is to be pushed. -/
  | cached (messageId : ℕ) (data : Payload)
  deriving DecidableEq

/-- The id that the call has taken, with its data, until the packet is pushed. -/
def Place.held? : Place → Option (ℕ × Payload)
  | .numbered messageId data | .cached messageId data => some (messageId, data)
  | .idle | .checked _ | .admitted _ => none

def packet (messageId : ℕ) (data : Payload) : Packet := vcDataPacket messageId data.val

end SendCalls

open SendCalls

structure SendCalls (τ : Type) where
  opened : Bool := true
  lastSendMessageId : ℕ := 0
  sentDataCache : SentDataCache
  sendQueue : BlockingQueue := {}
  place : τ → Place := fun _ => .idle
  /-- The payloads that were given an id, in the order of the ids. -/
  accepted : List Payload := []
  /-- The insertions since the cache was last cleared. -/
  inserted : List (ℕ × Packet) := []
  /-- The packets that the send thread has taken. -/
  dequeued : List Packet := []

namespace SendCalls

variable {τ : Type} [DecidableEq τ]

/-! ## `send` -/

def moveTo (s : SendCalls τ) (t : τ) (place : Place) : SendCalls τ :=
  { s with place := Function.update s.place t place }

/-- The checks before the depth is loaded. -/
def start (s : SendCalls τ) (t : τ) (data : List UInt8) : SendCalls τ :=
  match s.place t with
  | .idle =>
    if !s.opened then s
    else if hempty : data.length = 0 then s
    else if hsize : data.length > vcMaxDataPayloadSize then s
    else s.moveTo t (.checked ⟨data, Nat.pos_of_ne_zero hempty, not_lt.mp hsize⟩)
  | _ => s

/-- What `approxSize` loads may lag behind the queue, so it is an input. -/
def loadDepth (s : SendCalls τ) (t : τ) (quesize : ℕ) : SendCalls τ :=
  match s.place t with
  | .checked data =>
    if quesize > sendQueueDropThreshold then s.moveTo t .idle else s.moveTo t (.admitted data)
  | _ => s

/-- `lastSendMessageId.fetch_add(1)`. -/
def takeId (s : SendCalls τ) (t : τ) : SendCalls τ :=
  match s.place t with
  | .admitted data =>
    { s with
      lastSendMessageId := (s.lastSendMessageId + 1) % uint64Size
      place := Function.update s.place t (.numbered s.lastSendMessageId data)
      accepted := s.accepted ++ [data] }
  | _ => s

/-- `sentDataCache.insert`, under the mutex of the shard. -/
def insert (s : SendCalls τ) (t : τ) : SendCalls τ :=
  match s.place t with
  | .numbered messageId data =>
    { s with
      sentDataCache := s.sentDataCache.insert messageId (packet messageId data)
      place := Function.update s.place t (.cached messageId data)
      inserted := s.inserted ++ [(messageId, packet messageId data)] }
  | _ => s

/-- `sendQueue->enqueue`, under the mutex of the queue. -/
def enqueue (s : SendCalls τ) (t : τ) : SendCalls τ :=
  match s.place t with
  | .cached messageId data =>
    { s with
      sendQueue := s.sendQueue.enqueue (packet messageId data)
      place := Function.update s.place t .idle }
  | _ => s

/-! ## Beside it -/

/-- The default missing-notify callback. -/
def missingNotifyCallback (s : SendCalls τ) (missingIds : List ℕ) : SendCalls τ :=
  if !s.opened then s
  else { s with sendQueue := s.sendQueue.enqueue (vcMissingNotify missingIds) }

/-- The send thread takes a packet. -/
def tryDequeue (s : SendCalls τ) : SendCalls τ :=
  match s.sendQueue.tryDequeue with
  | none => s
  | some (data, queue) => { s with sendQueue := queue, dequeued := s.dequeued ++ [data] }

/-- The beginning of `close()`: `opened.exchange(false)` and, if it was open, `cancelWait`. -/
def close (s : SendCalls τ) : SendCalls τ :=
  if s.opened then { s with opened := false, sendQueue := s.sendQueue.cancelWait } else s

/-- The end of `close()`. -/
def clear (s : SendCalls τ) : SendCalls τ :=
  { s with sentDataCache := s.sentDataCache.clear, inserted := [] }

/-! ## Runs -/

inductive Event (τ : Type) where
  | start (t : τ) (data : List UInt8)
  | loadDepth (t : τ) (quesize : ℕ)
  | takeId (t : τ)
  | insert (t : τ)
  | enqueue (t : τ)
  | missingNotifyCallback (missingIds : List ℕ)
  | tryDequeue
  | close
  | clear
  deriving DecidableEq

def step (s : SendCalls τ) : Event τ → SendCalls τ
  | .start t data => s.start t data
  | .loadDepth t quesize => s.loadDepth t quesize
  | .takeId t => s.takeId t
  | .insert t => s.insert t
  | .enqueue t => s.enqueue t
  | .missingNotifyCallback missingIds => s.missingNotifyCallback missingIds
  | .tryDequeue => s.tryDequeue
  | .close => s.close
  | .clear => s.clear

/-- A channel of `numConns` connections whose cache keeps `capacityPerConn` packets for each. -/
def opening (numConns capacityPerConn : ℕ) : SendCalls τ :=
  { sentDataCache := .init numConns capacityPerConn }

def stateAt (numConns capacityPerConn : ℕ) (events : ℕ → Event τ) (n : ℕ) : SendCalls τ :=
  runState step (opening numConns capacityPerConn) events n

/-! ## What the queue has carried -/

/-- The DATA packets that were pushed: those that the send thread took, and those still there. -/
def pushed (s : SendCalls τ) : List Packet :=
  (s.dequeued ++ s.sendQueue.queue).filter fun pkt => headerType pkt = VcPacketType.data.toByte

/-- The call of `t` has taken the id and has not pushed its packet. -/
def Holds (s : SendCalls τ) (t : τ) (messageId : ℕ) : Prop :=
  ∃ data, (s.place t).held? = some (messageId, data)

end SendCalls
end TcpUdp
