import TcpUdp.Wakeup
import TcpUdp.Lib.CondVar

/-!
# Joining the reorder thread

The end of `TcpVirtualChannel::close` against the loop of `reorderThreadFunc`: the store
into `reorderRunning`, `notify_one` and `join` on one side; on the other the thread of
`Wakeup` with its two waits taken apart into the steps of a condition variable. Nobody but
the reorder thread ever takes `reorderMutex`, so its lock never waits.

The IO thread still notifies while it is running. When `close` found the channel open it
has joined the IO thread before it comes to the reorder thread; when the channel was closed
by the loss of its last connection it has not.
-/

namespace TcpUdp

open Lib

namespace ReorderJoin

/-- `close()` from the point where it turns to the reorder thread. -/
inductive ClosePc where
  | before
  /-- `reorderRunning.store(false)` was executed. -/
  | stored
  | joining
  | returned
  deriving DecidableEq, Repr

end ReorderJoin

open ReorderJoin

structure ReorderJoin where
  thread : Wakeup := {}
  /-- `reorderCv`; the one call that is followed is the one in `close()`. -/
  reorderCv : CondVar Unit := {}
  closing : ClosePc := .before
  wasOpen : Bool := true
  ioRunning : Bool := true
  /-- The IO thread is about to call `notify_one`. -/
  ioNotifies : Bool := false

namespace ReorderJoin

/-! ## The reorder thread -/

/-- One step inside a wait. A predicate that holds ends it. -/
def waitStep (cfg : ReorderConfig) (numQueues : ℕ) (s : ReorderJoin) (now notifyNow : ℤ) :
    ReorderJoin :=
  match s.reorderCv.waiter with
  | .outside | .woken => { s with reorderCv := s.reorderCv.acquire }
  | .evaluating =>
    { s with
      reorderCv := s.reorderCv.evaluate s.thread.waitPredicate
      thread := s.thread.reorderStep cfg numQueues now notifyNow }
  | .blocking => { s with reorderCv := s.reorderCv.block }
  | .blocked => s

def reorderStep (cfg : ReorderConfig) (numQueues : ℕ) (s : ReorderJoin) (now notifyNow : ℤ) :
    ReorderJoin :=
  if s.thread.pc = .timedWait ∨ s.thread.pc = .untimedWait then
    s.waitStep cfg numQueues now notifyNow
  else { s with thread := s.thread.reorderStep cfg numQueues now notifyNow }

/-- The deadline of a timed wait passes. -/
def timeout (cfg : ReorderConfig) (numQueues : ℕ) (s : ReorderJoin) : ReorderJoin :=
  if s.thread.pc = .timedWait ∧ s.reorderCv.waiter = .blocked then
    { s with
      thread := s.thread.step cfg numQueues .timeout, reorderCv := s.reorderCv.leave }
  else s

/-! ## The IO thread -/

/-- Whether the IO thread is inside `processReceivedData`. -/
def ioBusy (s : ReorderJoin) : Bool := s.ioNotifies || decide (s.thread.io ≠ .idle)

/-- An item for no queue is not counted, but announced; one for a full queue is dropped. -/
def receive (numQueues : ℕ) (s : ReorderJoin) (item : DeliveryItem) : ReorderJoin :=
  if s.ioRunning && !s.ioBusy then
    { s with
      thread := s.thread.processReceivedData numQueues item
      ioNotifies :=
        !decide (0 ≤ item.sourceConnIndex ∧ item.sourceConnIndex.toNat < numQueues) }
  else s

def increment (s : ReorderJoin) : ReorderJoin :=
  if s.thread.io ≠ .idle then { s with thread := s.thread.increment, ioNotifies := true } else s

/-- `reorderCv.notify_one()` at the end of `processReceivedData`. -/
def ioNotify (s : ReorderJoin) : ReorderJoin :=
  if s.ioNotifies then { s with reorderCv := s.reorderCv.wake, ioNotifies := false } else s

def ioEnd (s : ReorderJoin) : ReorderJoin := if s.ioBusy then s else { s with ioRunning := false }

/-! ## `close()` -/

/-- `reorderRunning.store(false)`. -/
def closeStore (s : ReorderJoin) : ReorderJoin :=
  if s.closing = .before ∧ (s.wasOpen = true → s.ioRunning = false) then
    { s with
      thread := { s.thread with reorderRunning := false }
      reorderCv := s.reorderCv.change ()
      closing := .stored }
  else s

/-- `reorderCv.notify_one()`. -/
def closeNotify (s : ReorderJoin) : ReorderJoin :=
  if s.closing = .stored then
    { s with reorderCv := s.reorderCv.notify (), closing := .joining }
  else s

/-- `reorderThread.join()` returns. -/
def closeJoin (s : ReorderJoin) : ReorderJoin :=
  if s.closing = .joining ∧ s.thread.pc = .stopped then { s with closing := .returned } else s

/-! ## Runs -/

inductive Event where
  | receive (item : DeliveryItem)
  | increment
  | ioNotify
  | ioEnd
  | reorder (now notifyNow : ℤ)
  | timeout
  /-- A blocked thread may wake without a notification. -/
  | spurious
  | closeStore
  | closeNotify
  | closeJoin

def step (cfg : ReorderConfig) (numQueues : ℕ) (s : ReorderJoin) : Event → ReorderJoin
  | .receive item => s.receive numQueues item
  | .increment => s.increment
  | .ioNotify => s.ioNotify
  | .ioEnd => s.ioEnd
  | .reorder now notifyNow => s.reorderStep cfg numQueues now notifyNow
  | .timeout => s.timeout cfg numQueues
  | .spurious => { s with reorderCv := s.reorderCv.wake }
  | .closeStore => s.closeStore
  | .closeNotify => s.closeNotify
  | .closeJoin => s.closeJoin

/-- The state after `n` steps of a channel that `close()` finds open or not. -/
def stateAt (cfg : ReorderConfig) (numQueues : ℕ) (wasOpen : Bool) (events : ℕ → Event)
    (n : ℕ) : ReorderJoin :=
  runState (step cfg numQueues) { wasOpen := wasOpen } events n

/-! ## What is claimed, and when -/

/-- `close()` waits for a thread that sleeps without a deadline, and no notification is
under way. -/
def Hangs (s : ReorderJoin) : Prop :=
  s.closing = .joining ∧ s.thread.reorderRunning = false ∧ s.thread.pc = .untimedWait
    ∧ s.reorderCv.waiter = .blocked ∧ s.ioBusy = false

/-- The thread found the predicate of its untimed wait false and is about to block. -/
def FallingAsleep (s : ReorderJoin) : Prop :=
  s.thread.pc = .untimedWait ∧ s.reorderCv.waiter = .blocking

/-- The condition on a step. -/
def NotifiesInTime (s : ReorderJoin) (e : Event) : Prop :=
  e = .closeNotify → s.closing = .stored → ¬s.FallingAsleep

end ReorderJoin
end TcpUdp
