import TcpUdp.Queues
import TcpUdp.Lib.Run
import Mathlib.Algebra.BigOperators.Group.Finset.Piecewise

/-!
# The depth of a `BlockingQueue`

`enqueue`, `tryDequeue`, `dequeue` and `cancelWait` of one queue in the steps that other
threads can see: `approxQueueSize` is changed by an atomic operation of its own, after
`queueMutex` is released in `enqueue` and `dequeue`, before it is released in `tryDequeue`.
The threads are those of an arbitrary finite type.

The numbers `started` to `decremented` are a history that no operation reads.
-/

namespace TcpUdp

open Lib

namespace QueueDepth

/-- Where a thread is in an operation of the queue. -/
inductive Place where
  | idle
  /-- In `enqueue`, before the push. -/
  | enqueueing (data : Packet)
  /-- In `enqueue`, the increment is to come. -/
  | pushed
  /-- In `tryDequeue`, holding `queueMutex`; the decrement is to come. -/
  | popped (result : Packet)
  /-- In `dequeue`, `queueMutex` is released and the decrement is to come. -/
  | released (result : Packet)
  deriving DecidableEq, Repr

end QueueDepth

open QueueDepth

structure QueueDepth (τ : Type) where
  queue : BlockingQueue := {}
  /-- The thread in `tryDequeue`; everybody else holds `queueMutex` within one step. -/
  queueMutex : Option τ := none
  place : τ → Place := fun _ => .idle
  /-- The calls of `enqueue`, and those that have pushed and that have incremented. -/
  started : ℕ := 0
  pushed : ℕ := 0
  incremented : ℕ := 0
  /-- The calls of `tryDequeue` and `dequeue` that have decremented. -/
  decremented : ℕ := 0

namespace QueueDepth

variable {τ : Type} [DecidableEq τ]

/-! ## The operations -/

def startEnqueue (s : QueueDepth τ) (t : τ) (data : Packet) : QueueDepth τ :=
  match s.place t with
  | .idle =>
    { s with place := Function.update s.place t (.enqueueing data), started := s.started + 1 }
  | _ => s

def push (s : QueueDepth τ) (t : τ) : QueueDepth τ :=
  match s.place t with
  | .enqueueing data =>
    if s.queueMutex.isNone then
      { s with
        queue := { s.queue with queue := s.queue.queue ++ [data] }
        place := Function.update s.place t .pushed
        pushed := s.pushed + 1 }
    else s
  | _ => s

/-- `approxQueueSize.fetch_add(1)`. -/
def increment (s : QueueDepth τ) (t : τ) : QueueDepth τ :=
  match s.place t with
  | .pushed =>
    { s with
      queue := { s.queue with approxQueueSize := (s.queue.approxQueueSize + 1) % uint64Size }
      place := Function.update s.place t .idle
      incremented := s.incremented + 1 }
  | _ => s

/-- The pop of both dequeuing operations; `blocking` is `dequeue`, which waits while the
queue is empty. -/
def pop (s : QueueDepth τ) (t : τ) (blocking : Bool) : QueueDepth τ :=
  match s.place t, s.queue.queue with
  | .idle, data :: queue =>
    if s.queueMutex.isNone && !s.queue.cancelled then
      { s with
        queue := { s.queue with queue := queue }
        queueMutex := if blocking then none else some t
        place := Function.update s.place t (if blocking then .released data else .popped data) }
    else s
  | _, _ => s

def tryDequeue (s : QueueDepth τ) (t : τ) : QueueDepth τ := s.pop t false

def dequeue (s : QueueDepth τ) (t : τ) : QueueDepth τ := s.pop t true

/-- `approxQueueSize.fetch_sub(1)`; an unsigned zero wraps. -/
def subtract (s : QueueDepth τ) (t : τ) (queueMutex : Option τ) : QueueDepth τ :=
  { s with
    queue :=
      { s.queue with
        approxQueueSize :=
          if s.queue.approxQueueSize = 0 then uint64Size - 1 else s.queue.approxQueueSize - 1 }
    queueMutex := queueMutex
    place := Function.update s.place t .idle
    decremented := s.decremented + 1 }

def decrement (s : QueueDepth τ) (t : τ) : QueueDepth τ :=
  match s.place t with
  | .popped _ => s.subtract t none
  | .released _ => s.subtract t s.queueMutex
  | _ => s

def cancelWait (s : QueueDepth τ) : QueueDepth τ :=
  if s.queueMutex.isNone then { s with queue := s.queue.cancelWait } else s

def approxSize (s : QueueDepth τ) : ℕ := s.queue.approxQueueSize

/-- `TcpVirtualChannel::send` drops the packet it was given. -/
def dropsPacket (s : QueueDepth τ) : Bool := decide (s.approxSize > sendQueueDropThreshold)

/-! ## Runs -/

inductive Event (τ : Type) where
  | startEnqueue (t : τ) (data : Packet)
  | push (t : τ)
  | increment (t : τ)
  | tryDequeue (t : τ)
  | dequeue (t : τ)
  | decrement (t : τ)
  | cancelWait

def step (s : QueueDepth τ) : Event τ → QueueDepth τ
  | .startEnqueue t data => s.startEnqueue t data
  | .push t => s.push t
  | .increment t => s.increment t
  | .tryDequeue t => s.tryDequeue t
  | .dequeue t => s.dequeue t
  | .decrement t => s.decrement t
  | .cancelWait => s.cancelWait

def stateAt (events : ℕ → Event τ) (n : ℕ) : QueueDepth τ := runState step {} events n

/-! ## What is claimed, and when -/

/-- The counter promises no more than what is not dequeued, and `send` drops a packet only
when enough of the packets in the queue are not dequeued. -/
def DepthSound (s : QueueDepth τ) : Prop :=
  s.approxSize + s.decremented ≤ s.started
    ∧ (s.dropsPacket = true → sendQueueDropThreshold + s.decremented ≤ s.pushed)

/-- The step takes one off the counter. -/
def decrements (s : QueueDepth τ) : Event τ → Bool
  | .decrement t =>
    match s.place t with
    | .popped _ | .released _ => true
    | .idle | .enqueueing _ | .pushed => false
  | _ => false

/-- The condition on a step: the `k`-th decrement comes after the `k`-th increment. -/
def InOrder (s : QueueDepth τ) (e : Event τ) : Prop :=
  s.decrements e = true → s.decremented < s.incremented

instance (s : QueueDepth τ) (e : Event τ) : Decidable (s.InOrder e) :=
  inferInstanceAs (Decidable (_ → _))

end QueueDepth
end TcpUdp
