import TcpUdp.Reorder

/-!
# Waking the reorder thread

`TcpVirtualChannel::processReceivedData`, run by the IO thread, and the loop of
`reorderThreadFunc` as interleaved atomic steps: an enqueue and the increment of
`reorderEnqueueSeq` on one side; on the other the dequeuing of one queue after the other,
the load of `reorderEnqueueSeq` into `lastProcessedSeq`, the rest of the iteration and the
evaluation of the wait predicate.

An item is named by its queue and its number in that queue. The history fields `enqueued`,
`dequeued`, `counted`, `iterationStart` and `arrivals` are read by nothing.
-/

namespace TcpUdp

open Lib

namespace Wakeup

/-! ## The two threads -/

/-- The IO thread in `processReceivedData`. -/
inductive IoPc where
  | idle
  /-- The item is in its queue, the increment is still to come. -/
  | enqueued (sourceConnIndex position : ℕ)
  deriving DecidableEq, Repr

/-- The reorder thread in its loop. -/
inductive ReorderPc where
  | loopHead
  /-- The next dequeue is from queue `i`; past the last queue it is the load. -/
  | draining (i : ℕ)
  /-- From the load to the end of the missing notification. -/
  | processing
  | beforeWait
  | timedWait
  | untimedWait
  | stopped
  deriving DecidableEq, Repr

end Wakeup

open Wakeup

structure Wakeup where
  connReceiveQueues : ℕ → SpscQueue DeliveryItem := fun _ => {}
  reorderEnqueueSeq : ℕ := 0
  lastProcessedSeq : ℕ := 0
  reorderRunning : Bool := true
  reorder : Reorder := {}
  gotAny : Bool := false
  io : IoPc := .idle
  pc : ReorderPc := .loopHead
  /-- The number of items put into each queue. -/
  enqueued : ℕ → ℕ := fun _ => 0
  /-- The number of items taken out of each queue. -/
  dequeued : ℕ → ℕ := fun _ => 0
  /-- The items whose increment has taken place. -/
  counted : List (ℕ × ℕ) := []
  /-- What the iteration started from. -/
  iterationStart : Reorder := {}
  /-- What the iteration has dequeued. -/
  arrivals : List DeliveryItem := []

namespace Wakeup

/-- `numQueues` is `connReceiveQueues.size()`. An item for no queue, or for a full one, is
not counted. -/
def processReceivedData (numQueues : ℕ) (s : Wakeup) (item : DeliveryItem) : Wakeup :=
  match s.io with
  | .enqueued _ _ => s
  | .idle =>
    let i := item.sourceConnIndex.toNat
    if 0 ≤ item.sourceConnIndex ∧ i < numQueues then
      match (s.connReceiveQueues i).tryEnqueue item with
      | none => s
      | some queue =>
        { s with
          connReceiveQueues := Function.update s.connReceiveQueues i queue
          enqueued := Function.update s.enqueued i (s.enqueued i + 1)
          io := .enqueued i (s.enqueued i) }
    else s

/-- `reorderEnqueueSeq.fetch_add(1)`. -/
def increment (s : Wakeup) : Wakeup :=
  match s.io with
  | .idle => s
  | .enqueued i position =>
    { s with
      reorderEnqueueSeq := (s.reorderEnqueueSeq + 1) % uint64Size
      counted := (i, position) :: s.counted
      io := .idle }

/-- One `try_dequeue`, or the load after the last queue. -/
def drain (numQueues : ℕ) (s : Wakeup) (i : ℕ) : Wakeup :=
  if i < numQueues then
    match (s.connReceiveQueues i).tryDequeue with
    | none => { s with pc := .draining (i + 1) }
    | some (item, queue) =>
      let (reorder, gotAny) := Reorder.absorb (s.reorder, s.gotAny) item
      { s with
        connReceiveQueues := Function.update s.connReceiveQueues i queue
        reorder := reorder
        gotAny := gotAny
        dequeued := Function.update s.dequeued i (s.dequeued i + 1)
        arrivals := s.arrivals ++ [item] }
  else { s with lastProcessedSeq := s.reorderEnqueueSeq, pc := .processing }

/-- The body of the loop between the load and the wait. -/
def process (cfg : ReorderConfig) (s : Wakeup) (gapNow notifyNow : ℤ) : Wakeup :=
  let (_, reorder) := s.reorder.drainReceivedDataMap
  let (reorder, _, _) := reorder.checkGap cfg gapNow
  let (reorder, _) := reorder.sendMissingNotifications cfg notifyNow
  { s with reorder := reorder, pc := .beforeWait }

def enterWait (cfg : ReorderConfig) (s : Wakeup) (now : ℤ) : ReorderPc :=
  if s.gotAny then .loopHead
  else if s.reorder.gapTimerActive then
    if cfg.reorderTimeoutMs - (now - s.reorder.gapFirstSeen) > 0 then .timedWait else .loopHead
  else .untimedWait

/-- The predicate of both waits. -/
def waitPredicate (s : Wakeup) : Bool :=
  decide (s.reorderEnqueueSeq > s.lastProcessedSeq) || !s.reorderRunning

/-- One step of the reorder thread. The clock readings are used where the place has any. -/
def reorderStep (cfg : ReorderConfig) (numQueues : ℕ) (s : Wakeup) (now notifyNow : ℤ) :
    Wakeup :=
  match s.pc with
  | .loopHead =>
    if s.reorderRunning then
      { s with
        gotAny := false, pc := .draining 0, iterationStart := s.reorder, arrivals := [] }
    else { s with pc := .stopped }
  | .draining i => s.drain numQueues i
  | .processing => s.process cfg now notifyNow
  | .beforeWait => { s with pc := s.enterWait cfg now }
  | .timedWait => if s.waitPredicate then { s with pc := .loopHead } else s
  | .untimedWait => if s.waitPredicate then { s with pc := .loopHead } else s
  | .stopped => s

inductive Event where
  /-- The IO thread calls `processReceivedData`. -/
  | receive (item : DeliveryItem)
  /-- The IO thread increments `reorderEnqueueSeq`. -/
  | increment
  /-- The reorder thread takes a step. -/
  | reorder (now notifyNow : ℤ)
  /-- The deadline of a timed wait passes. -/
  | timeout
  /-- `close()` stores `false` into `reorderRunning`. -/
  | stop

def step (cfg : ReorderConfig) (numQueues : ℕ) (s : Wakeup) : Event → Wakeup
  | .receive item => s.processReceivedData numQueues item
  | .increment => s.increment
  | .reorder now notifyNow => s.reorderStep cfg numQueues now notifyNow
  | .timeout => if s.pc = .timedWait then { s with pc := .loopHead } else s
  | .stop => { s with reorderRunning := false }

/-- The state of a fresh channel after `n` steps. -/
def stateAt (cfg : ReorderConfig) (numQueues : ℕ) (events : ℕ → Event) (n : ℕ) : Wakeup :=
  runState (step cfg numQueues) {} events n

/-! ## What is claimed, and when -/

def Dequeued (s : Wakeup) (item : ℕ × ℕ) : Prop := item.2 < s.dequeued item.1

/-- The thread is in the untimed wait and the predicate lets it sleep. -/
def Asleep (s : Wakeup) : Prop := s.pc = .untimedWait ∧ s.waitPredicate = false

/-- The thread has left queue `i` and not yet loaded `reorderEnqueueSeq`. -/
def PastQueue (s : Wakeup) (i : ℕ) : Prop := ∃ j, s.pc = .draining j ∧ i < j

/-- The value loaded in this iteration is still to be compared. -/
def ComparesLater (s : Wakeup) : Prop :=
  s.pc = .processing ∨ s.pc = .beforeWait ∨ s.pc = .untimedWait

/-- The condition on a step. An increment for an item still in its queue does not come
between the thread's passing of that queue and its load, and the counter does not wrap
between a load and the comparison with it. -/
def CountsInTime (s : Wakeup) (e : Event) : Prop :=
  e = .increment → ∀ i position, s.io = .enqueued i position →
    (s.PastQueue i → s.Dequeued (i, position))
    ∧ (s.ComparesLater → s.reorderEnqueueSeq + 1 < uint64Size)

end Wakeup
end TcpUdp
