import TcpUdp.Queues
import TcpUdp.Lib.Run
import TcpUdp.Lib.WaitSet

/-!
# Waiting in `BlockingQueue::dequeue`

Any number of threads call `enqueue`, `dequeue`, `tryDequeue` and `cancelWait` of one queue. What
happens under `queueMutex` is one step; `notify_one` and `notify_all` come after the mutex is
released, and a waiting thread may also wake for no reason. `approxQueueSize` is `QueueDepth`.

`enqueued` and `handedOut` are a history that no operation reads.
-/

namespace TcpUdp

open Lib

namespace DequeueWait

/-- Where a thread is in an operation of the queue. -/
inductive Place where
  | idle
  /-- In `enqueue`; the data is pushed, `notify_one` is to come. -/
  | pushed
  /-- In `dequeue`, before the predicate is evaluated for the first time. -/
  | entering
  /-- In `dequeue`, in the wait. -/
  | blocked
  | woken
  /-- In `cancelWait`; the flag is set, `notify_all` is to come. -/
  | cancelling
  deriving DecidableEq, Repr

def Place.role : Place → Role
  | .pushed => .notifying
  | .blocked => .blocked
  | .woken => .woken
  | .idle | .entering | .cancelling => .other

end DequeueWait

open DequeueWait

structure DequeueWait (τ : Type) where
  queue : List Packet := []
  cancelled : Bool := false
  place : τ → Place := fun _ => .idle
  enqueued : List Packet := []
  /-- The packets that were returned, with the thread that got them. -/
  handedOut : List (τ × Packet) := []

namespace DequeueWait

variable {τ : Type} [DecidableEq τ]

def moveTo (s : DequeueWait τ) (t : τ) (place : Place) : DequeueWait τ :=
  { s with place := Function.update s.place t place }

/-! ## The operations -/

/-- `enqueue`, under the mutex. -/
def push (s : DequeueWait τ) (t : τ) (data : Packet) : DequeueWait τ :=
  match s.place t with
  | .idle =>
    { s with
      queue := s.queue ++ [data]
      place := Function.update s.place t .pushed
      enqueued := s.enqueued ++ [data] }
  | _ => s

/-- `notify_one` wakes a thread that waits, which one is open; without one it does nothing. -/
def notifyOne [Fintype τ] (s : DequeueWait τ) (t u : τ) : DequeueWait τ :=
  match s.place t with
  | .pushed =>
    if s.place u = .blocked then (s.moveTo u .woken).moveTo t .idle
    else if ∀ v, s.place v ≠ .blocked then s.moveTo t .idle
    else s
  | _ => s

def startDequeue (s : DequeueWait τ) (t : τ) : DequeueWait τ :=
  match s.place t with
  | .idle => s.moveTo t .entering
  | _ => s

/-- The oldest packet goes to `t`, whose call ends. -/
def pop (s : DequeueWait τ) (t : τ) : DequeueWait τ :=
  match s.queue with
  | data :: queue =>
    { s with
      queue := queue
      place := Function.update s.place t .idle
      handedOut := s.handedOut ++ [(t, data)] }
  | [] => s

/-- The predicate of the wait, under the mutex, and what follows. -/
def evaluate (s : DequeueWait τ) (t : τ) : DequeueWait τ :=
  match s.place t with
  | .entering | .woken =>
    if s.queue.isEmpty && !s.cancelled then s.moveTo t .blocked
    else if s.cancelled then s.moveTo t .idle
    else s.pop t
  | _ => s

/-- A spurious wake-up. -/
def wake (s : DequeueWait τ) (t : τ) : DequeueWait τ :=
  match s.place t with
  | .blocked => s.moveTo t .woken
  | _ => s

def tryDequeue (s : DequeueWait τ) (t : τ) : DequeueWait τ :=
  match s.place t with
  | .idle => if s.queue.isEmpty || s.cancelled then s else s.pop t
  | _ => s

/-- `cancelWait`, under the mutex. -/
def cancel (s : DequeueWait τ) (t : τ) : DequeueWait τ :=
  match s.place t with
  | .idle => { s with cancelled := true, place := Function.update s.place t .cancelling }
  | _ => s

def notifyAll (s : DequeueWait τ) (t : τ) : DequeueWait τ :=
  match s.place t with
  | .cancelling =>
    { s with
      place := fun u =>
        if u = t then .idle else if s.place u = .blocked then .woken else s.place u }
  | _ => s

/-! ## Runs -/

inductive Event (τ : Type) where
  | push (t : τ) (data : Packet)
  | notifyOne (t u : τ)
  | startDequeue (t : τ)
  | evaluate (t : τ)
  | wake (t : τ)
  | tryDequeue (t : τ)
  | cancel (t : τ)
  | notifyAll (t : τ)
  deriving DecidableEq

def step [Fintype τ] (s : DequeueWait τ) : Event τ → DequeueWait τ
  | .push t data => s.push t data
  | .notifyOne t u => s.notifyOne t u
  | .startDequeue t => s.startDequeue t
  | .evaluate t => s.evaluate t
  | .wake t => s.wake t
  | .tryDequeue t => s.tryDequeue t
  | .cancel t => s.cancel t
  | .notifyAll t => s.notifyAll t

def stateAt [Fintype τ] (events : ℕ → Event τ) (n : ℕ) : DequeueWait τ :=
  runState step {} events n

/-! ## What waiting threads are owed -/

/-- The threads that were woken and have not looked, and the calls of `enqueue` that have not
notified. -/
def onTheWay [Fintype τ] (s : DequeueWait τ) : Finset τ :=
  Finset.univ.filter fun t => s.place t = .woken ∨ s.place t = .pushed

/-- A thread that is blocked while the predicate holds is going to be woken. -/
structure NoLostWakeup [Fintype τ] (s : DequeueWait τ) : Prop where
  packets : s.cancelled = false → ∀ t, s.place t = .blocked → s.queue.length ≤ s.onTheWay.card
  cancelled : s.cancelled = true → ∀ t, s.place t = .blocked → ∃ u, s.place u = .cancelling

/-- First in, first out, whoever asks, and every packet goes to one thread. -/
def Fifo (s : DequeueWait τ) : Prop :=
  s.enqueued = s.handedOut.map Prod.snd ++ s.queue

end DequeueWait
end TcpUdp
