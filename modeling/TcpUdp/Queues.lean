import TcpUdp.VcProtocol

/-!
# Queues between the threads of a channel

`BlockingQueue` carries packets to the send thread, `SpscQueue` carries received items
from the IO thread to the reorder thread. Both are first in, first out; what a full or a
cancelled queue does is part of the operations.
-/

namespace TcpUdp

/-! ## `BlockingQueue` -/

structure BlockingQueue where
  queue : List Packet := []
  cancelled : Bool := false
  approxQueueSize : ℕ := 0

namespace BlockingQueue

def enqueue (q : BlockingQueue) (data : Packet) : BlockingQueue :=
  { q with queue := q.queue ++ [data], approxQueueSize := q.approxQueueSize + 1 }

/-- Nothing is handed out of an empty or a cancelled queue. -/
def tryDequeue (q : BlockingQueue) : Option (Packet × BlockingQueue) :=
  match q.queue with
  | [] => none
  | data :: queue =>
    if q.cancelled then none
    else some (data, { q with queue := queue, approxQueueSize := q.approxQueueSize - 1 })

def cancelWait (q : BlockingQueue) : BlockingQueue := { q with cancelled := true }

/-- What is handed out is the oldest packet, and the others stay in order. -/
lemma tryDequeue_eq_some {q q' : BlockingQueue} {data : Packet}
    (h : q.tryDequeue = some (data, q')) : q.queue = data :: q'.queue := by
  rw [tryDequeue] at h
  split at h
  · cases h
  · rename_i d queue hq
    split_ifs at h
    cases h
    exact hq

lemma cancelled_of_tryDequeue {q q' : BlockingQueue} {data : Packet}
    (h : q.tryDequeue = some (data, q')) : q'.cancelled = q.cancelled := by
  rw [tryDequeue] at h
  split at h
  · cases h
  · split_ifs at h
    cases h
    rfl

end BlockingQueue

/-! ## `SpscQueue` -/

/-- A ring of `Capacity` cells holds at most `Capacity - 1` items. -/
structure SpscQueue (T : Type) (Capacity : ℕ := 1024) where
  items : List T := []

namespace SpscQueue

variable {T : Type} {Capacity : ℕ}

/-- `none` when the queue is full: the item is not taken. -/
def tryEnqueue (q : SpscQueue T Capacity) (item : T) : Option (SpscQueue T Capacity) :=
  if q.items.length + 1 < Capacity then some { items := q.items ++ [item] } else none

def tryDequeue (q : SpscQueue T Capacity) : Option (T × SpscQueue T Capacity) :=
  match q.items with
  | [] => none
  | item :: items => some (item, { items := items })

lemma tryEnqueue_eq_some {q q' : SpscQueue T Capacity} {item : T}
    (h : q.tryEnqueue item = some q') : q'.items = q.items ++ [item] := by
  rw [tryEnqueue] at h
  split_ifs at h
  cases h
  rfl

lemma tryDequeue_eq_none {q : SpscQueue T Capacity} (h : q.tryDequeue = none) :
    q.items = [] := by
  rw [tryDequeue] at h
  split at h
  · assumption
  · cases h

lemma tryDequeue_eq_some {q q' : SpscQueue T Capacity} {item : T}
    (h : q.tryDequeue = some (item, q')) : q.items = item :: q'.items := by
  rw [tryDequeue] at h
  split at h
  · cases h
  · rename_i i items hq
    cases h
    exact hq

end SpscQueue
end TcpUdp
