import TcpUdp.Queues
import TcpUdp.Lib.Ring
import TcpUdp.Lib.Run

/-!
# `SpscQueue` step by step

`try_enqueue` and `try_dequeue` of one producer and one consumer, each load, each access to
a cell and each store a step of its own. A cell is `none` when its item was moved out or it
never had one. Each thread loads its own index first; what it then knows of the index of
the other may be out of date by the time it uses it.

`accepted` and `returned` are a history: the items of the successful calls, in order.
-/

namespace TcpUdp

open Lib

namespace SpscRing

/-- The producer in `try_enqueue`. -/
inductive ProducerPc (T : Type) where
  | idle
  /-- `writePos` is loaded. -/
  | loaded (item : T) (w : ℕ)
  /-- There is room; the cell is written next. -/
  | writing (item : T) (w nextW : ℕ)
  /-- `writePos` is stored next. -/
  | storing (item : T) (nextW : ℕ)
  deriving DecidableEq, Repr

/-- The consumer in `try_dequeue`. -/
inductive ConsumerPc (T : Type) where
  | idle
  /-- `readPos` is loaded. -/
  | loaded (r : ℕ)
  /-- There is an item; the cell is read next. -/
  | reading (r : ℕ)
  /-- `readPos` is stored next. -/
  | storing (item : Option T) (r : ℕ)
  deriving DecidableEq, Repr

end SpscRing

open SpscRing

structure SpscRing (T : Type) where
  writePos : ℕ := 0
  readPos : ℕ := 0
  buffer : ℕ → Option T := fun _ => none
  producer : ProducerPc T := .idle
  consumer : ConsumerPc T := .idle
  accepted : List T := []
  returned : List (Option T) := []

namespace SpscRing

variable {T : Type}

/-! ## The two threads -/

/-- The comparison of `try_enqueue` with `readPos` finds the ring full. -/
def seesFull (Capacity : ℕ) (s : SpscRing T) : Bool :=
  match s.producer with
  | .loaded _ w => decide ((w + 1) % Capacity = s.readPos)
  | _ => false

/-- The comparison of `try_dequeue` with `writePos` finds the ring empty. -/
def seesEmpty (s : SpscRing T) : Bool :=
  match s.consumer with
  | .loaded r => decide (r = s.writePos)
  | _ => false

/-- One step of the producer. A call begins with `item`; a full ring ends it with `false`. -/
def produce (Capacity : ℕ) (s : SpscRing T) (item : T) : SpscRing T :=
  match s.producer with
  | .idle => { s with producer := .loaded item s.writePos }
  | .loaded item w =>
    if s.seesFull Capacity then { s with producer := .idle }
    else { s with producer := .writing item w ((w + 1) % Capacity) }
  | .writing item w nextW =>
    { s with
      buffer := Function.update s.buffer w (some item), producer := .storing item nextW }
  | .storing item nextW =>
    { s with writePos := nextW, producer := .idle, accepted := s.accepted ++ [item] }

/-- One step of the consumer. An empty ring ends a call with `false`. -/
def consume (Capacity : ℕ) (s : SpscRing T) : SpscRing T :=
  match s.consumer with
  | .idle => { s with consumer := .loaded s.readPos }
  | .loaded r =>
    if s.seesEmpty then { s with consumer := .idle } else { s with consumer := .reading r }
  | .reading r =>
    { s with
      buffer := Function.update s.buffer r none, consumer := .storing (s.buffer r) r }
  | .storing item r =>
    { s with
      readPos := (r + 1) % Capacity, consumer := .idle, returned := s.returned ++ [item] }

/-! ## Runs -/

inductive Event (T : Type) where
  | produce (item : T)
  | consume

def step (Capacity : ℕ) (s : SpscRing T) : Event T → SpscRing T
  | .produce item => s.produce Capacity item
  | .consume => s.consume Capacity

def stateAt (Capacity : ℕ) (events : ℕ → Event T) (n : ℕ) : SpscRing T :=
  runState (step Capacity) {} events n

/-! ## What is claimed -/

/-- The items accepted and not yet returned. -/
def unread (s : SpscRing T) : ℕ := s.accepted.length - s.returned.length

/-- The consumer is reading cell `r`, or has read it and not yet given it back. -/
def Reads (s : SpscRing T) (r : ℕ) : Prop :=
  s.consumer = .reading r ∨ ∃ item, s.consumer = .storing item r

structure BoundedFifo (Capacity : ℕ) (s : SpscRing T) : Prop where
  /-- What was returned is the beginning of what was accepted. -/
  fifo : s.returned <+: s.accepted.map some
  /-- A cell about to be written has no item, is none of the cells of unread items, and is
  not being read. -/
  free : ∀ item w nextW, s.producer = .writing item w nextW → s.buffer w = none
    ∧ (∀ i < s.unread, (s.readPos + i) % Capacity ≠ w) ∧ ¬s.Reads w
  /-- `try_enqueue` fails only on a full ring. -/
  full : s.seesFull Capacity = true → s.unread = Capacity - 1
  /-- `try_dequeue` fails only on an empty one. -/
  empty : s.seesEmpty = true → s.unread = 0

end SpscRing
end TcpUdp
