import TcpUdp.QueueDepth
import TcpUdp.Lib.CondVar

/-!
# The waker of the send thread

The idle wait of `TcpVCSendThread::run` against `BlockingQueue::enqueue` on its two queues
and `setRunning(false)`. An enqueue counts its packet and then runs the notifier that the
constructor of the thread has registered: it takes `waker->mtx`, releases it and notifies.
`setRunning(false)` does the same after it has stored the flag. The timeout of the wait is
left out, so that nothing but a notification wakes the thread.

The threads that call are those of an arbitrary type, each one call at a time; `sender` is
the send thread. A packet that the send thread puts back itself is enqueued by one of the
others: its own call would be complete before it waits.
-/

namespace TcpUdp

open Lib

namespace SendWaker

/-- The send thread in `run`. -/
inductive SendPc where
  | loopHead
  | resending (resendBatch : ℕ)
  | takingSend
  | sending (dataVec : Packet)
  | idleWait
  | stopped

inductive Which where
  | sendQueue
  | resendQueue
  deriving DecidableEq, Repr

end SendWaker

open SendWaker

structure SendWaker (τ : Type) where
  sendQueue : QueueDepth τ := {}
  resendQueue : QueueDepth τ := {}
  waker : CondVar τ := {}
  running : Bool := true
  pc : SendPc := .loopHead
  /-- `anyResendAlive` of this iteration. -/
  resendDrainable : Bool := false
  pendingDataVec : Option Packet := none

namespace SendWaker

variable {τ : Type} [DecidableEq τ]

def maxResendBatch : ℕ := 8

def queue (s : SendWaker τ) : Which → QueueDepth τ
  | .sendQueue => s.sendQueue
  | .resendQueue => s.resendQueue

def setQueue (s : SendWaker τ) (which : Which) (queue : QueueDepth τ) : SendWaker τ :=
  match which with
  | .sendQueue => { s with sendQueue := queue }
  | .resendQueue => { s with resendQueue := queue }

/-! ## The send thread -/

/-- The predicate of the idle wait. -/
def waitPredicate (s : SendWaker τ) : Bool :=
  !s.running || decide (0 < s.sendQueue.approxSize)
    || (s.resendDrainable && decide (0 < s.resendQueue.approxSize))

/-- One step of the drain loop. Only the send thread keeps `queueMutex` over a step, so a
`tryDequeue` that pops nothing has returned `nullptr`. -/
def resendStep (sender : τ) (s : SendWaker τ) (resendBatch : ℕ) : SendWaker τ :=
  match s.resendQueue.place sender with
  | .popped _ =>
    { s with
      resendQueue := s.resendQueue.decrement sender, pc := .resending (resendBatch + 1) }
  | _ =>
    if resendBatch < maxResendBatch then
      let queue := s.resendQueue.tryDequeue sender
      match queue.place sender with
      | .popped _ => { s with resendQueue := queue }
      | _ => { s with pc := .takingSend }
    else { s with pc := .takingSend }

def takeStep (sender : τ) (s : SendWaker τ) : SendWaker τ :=
  match s.pendingDataVec, s.sendQueue.place sender with
  | some dataVec, _ => { s with pendingDataVec := none, pc := .sending dataVec }
  | none, .popped dataVec =>
    { s with sendQueue := s.sendQueue.decrement sender, pc := .sending dataVec }
  | none, _ =>
    let queue := s.sendQueue.tryDequeue sender
    match queue.place sender with
    | .popped _ => { s with sendQueue := queue }
    | _ => { s with pc := .idleWait }

def waitStep (s : SendWaker τ) : SendWaker τ :=
  match s.waker.waiter with
  | .outside | .woken => { s with waker := s.waker.acquire }
  | .evaluating =>
    { s with
      waker := s.waker.evaluate s.waitPredicate
      pc := if s.waitPredicate then .loopHead else .idleWait }
  | .blocking => { s with waker := s.waker.block }
  | .blocked => s

/-- One step of the thread. `anyResendAlive` is what the loop head finds; `allFail` says that
no connection took the packet, which is then retained. -/
def senderStep (sender : τ) (s : SendWaker τ) (anyResendAlive allFail : Bool) : SendWaker τ :=
  match s.pc with
  | .loopHead =>
    if s.running then
      { s with
        resendDrainable := anyResendAlive
        pc := if anyResendAlive then .resending 0 else .takingSend }
    else { s with pc := .stopped }
  | .resending resendBatch => s.resendStep sender resendBatch
  | .takingSend => s.takeStep sender
  | .sending dataVec =>
    if s.running then
      { s with pc := .loopHead, pendingDataVec := if allFail then some dataVec else none }
    else { s with pc := .stopped }
  | .idleWait => s.waitStep
  | .stopped => s

/-! ## The calls -/

/-- A thread is in no call. -/
def Free (s : SendWaker τ) (t : τ) : Prop :=
  s.sendQueue.place t = .idle ∧ s.resendQueue.place t = .idle ∧ s.waker.call t = .idle

instance (s : SendWaker τ) (t : τ) : Decidable (s.Free t) :=
  inferInstanceAs (Decidable (_ ∧ _ ∧ _))

def startEnqueue (sender : τ) (s : SendWaker τ) (which : Which) (t : τ) (data : Packet) :
    SendWaker τ :=
  if t ≠ sender ∧ s.Free t then s.setQueue which ((s.queue which).startEnqueue t data) else s

/-- `approxQueueSize.fetch_add(1)`; the notifier comes next. -/
def increment (s : SendWaker τ) (which : Which) (t : τ) : SendWaker τ :=
  match (s.queue which).place t with
  | .pushed =>
    { s.setQueue which ((s.queue which).increment t) with waker := s.waker.change t }
  | _ => s

/-- The store of `setRunning(false)`. -/
def stop (sender : τ) (s : SendWaker τ) (t : τ) : SendWaker τ :=
  if t ≠ sender ∧ s.Free t then { s with running := false, waker := s.waker.change t } else s

/-- `waker->cv.notify_one()`. -/
def notify (s : SendWaker τ) (t : τ) : SendWaker τ :=
  if s.waker.call t = .passed then { s with waker := s.waker.notify t } else s

/-! ## Runs -/

inductive Event (τ : Type) where
  | sender (anyResendAlive allFail : Bool)
  /-- A blocked thread may wake without a notification. -/
  | spurious
  | startEnqueue (which : Which) (t : τ) (data : Packet)
  | push (which : Which) (t : τ)
  | increment (which : Which) (t : τ)
  /-- `setRunning(false)`. -/
  | stop (t : τ)
  | lock (t : τ)
  | unlock (t : τ)
  | notify (t : τ)
  | cancelWait (which : Which)

def step (sender : τ) (s : SendWaker τ) : Event τ → SendWaker τ
  | .sender anyResendAlive allFail => s.senderStep sender anyResendAlive allFail
  | .spurious => { s with waker := s.waker.wake }
  | .startEnqueue which t data => s.startEnqueue sender which t data
  | .push which t => s.setQueue which ((s.queue which).push t)
  | .increment which t => s.increment which t
  | .stop t => s.stop sender t
  | .lock t => { s with waker := s.waker.lock t }
  | .unlock t => { s with waker := s.waker.unlock t }
  | .notify t => s.notify t
  | .cancelWait which => s.setQueue which (s.queue which).cancelWait

def stateAt (sender : τ) (events : ℕ → Event τ) (n : ℕ) : SendWaker τ :=
  runState (step sender) {} events n

/-! ## What is claimed -/

/-- Thread `t` is inside `enqueue`, with or without its notifier, or `setRunning`. -/
def InCall (s : SendWaker τ) (t : τ) : Prop :=
  (∃ which data, (s.queue which).place t = .enqueueing data)
    ∨ (∃ which, (s.queue which).place t = .pushed) ∨ s.waker.call t ≠ .idle

/-- The send thread is blocked, nobody is in a call, and there is something to wake up for. -/
def SleepsOverWork (s : SendWaker τ) : Prop :=
  s.waker.waiter = .blocked ∧ (∀ t, ¬s.InCall t)
    ∧ (s.running = false ∨ 0 < s.sendQueue.approxSize
      ∨ (s.resendDrainable = true ∧ 0 < s.resendQueue.approxSize))

end SendWaker
end TcpUdp
