import TcpUdp.IoThread
import TcpUdp.Lib.Run

/-!
# The read buffer as a queue of bytes

A queue of bytes is what has been appended to it, less what has been consumed. `ReadBuffer`
represents one with the consumed bytes it has not erased yet in front (`Represents`), and
`consume` never leaves a dead prefix that is both long and half of the buffer (`Compact`).
-/

namespace TcpUdp

open Lib

/-- All bytes ever appended, and how many of them are consumed. -/
structure ByteQueue where
  appended : List UInt8 := []
  consumed : ℕ := 0

namespace ByteQueue

def contents (queue : ByteQueue) : List UInt8 := queue.appended.drop queue.consumed

inductive Op where
  | append (chunk : List UInt8)
  | consume (n : ℕ)

def apply (queue : ByteQueue) : Op → ByteQueue
  | .append chunk => { queue with appended := queue.appended ++ chunk }
  | .consume n => { queue with consumed := queue.consumed + n }

end ByteQueue

namespace ReadBuffer

open ByteQueue

variable {buf : ReadBuffer} {queue : ByteQueue}

def apply (buf : ReadBuffer) : Op → ReadBuffer
  | .append chunk => buf.append chunk
  | .consume n => buf.consume n

/-- What the parse loop keeps to: `consume` takes no more than there is. -/
def Allows (buf : ReadBuffer) : Op → Prop
  | .append _ => True
  | .consume n => n ≤ buf.available

instance (buf : ReadBuffer) (op : Op) : Decidable (buf.Allows op) :=
  match op with
  | .append _ => inferInstanceAs (Decidable True)
  | .consume n => inferInstanceAs (Decidable (n ≤ buf.available))

/-- The dead prefix is short or about half of the buffer at most. -/
def Compact (buf : ReadBuffer) : Prop :=
  buf.readOffset ≤ 4096 ∨ 2 * buf.readOffset ≤ buf.data.length + 1

/-- The buffer holds what the queue holds. -/
structure Represents (buf : ReadBuffer) (queue : ByteQueue) : Prop where
  wf : buf.Wf
  consumed_le : queue.consumed ≤ queue.appended.length
  begin_eq : buf.begin = queue.contents

lemma represents_empty : Represents {} {} := ⟨wf_empty, le_rfl, rfl⟩

lemma Represents.available_eq (h : Represents buf queue) :
    buf.available = queue.appended.length - queue.consumed := by
  rw [← length_begin, h.begin_eq, contents, List.length_drop]

lemma Represents.append (h : Represents buf queue) (chunk : List UInt8) :
    Represents (buf.append chunk) (queue.apply (.append chunk)) where
  wf := wf_append h.wf chunk
  consumed_le := by
    rw [ByteQueue.apply, List.length_append]
    exact Nat.le_add_right_of_le h.consumed_le
  begin_eq := by
    rw [begin_append h.wf, h.begin_eq, contents, contents, ByteQueue.apply,
      List.drop_append_of_le_length h.consumed_le]

lemma Represents.consume (h : Represents buf queue) {n : ℕ} (hn : n ≤ buf.available) :
    Represents (buf.consume n) (queue.apply (.consume n)) where
  wf := wf_consume hn h.wf
  consumed_le := by
    have hle := h.consumed_le
    rw [h.available_eq] at hn
    show queue.consumed + n ≤ queue.appended.length
    omega
  begin_eq := by
    rw [begin_consume, h.begin_eq, contents, contents, ByteQueue.apply, List.drop_drop]

lemma Represents.apply (h : Represents buf queue) {op : Op} (hop : buf.Allows op) :
    Represents (buf.apply op) (queue.apply op) := by
  cases op with
  | append chunk => exact h.append chunk
  | consume n => exact h.consume hop

/-- Either the prefix is erased, or the test that would have erased it failed. -/
lemma compact_consume (buf : ReadBuffer) (n : ℕ) : (buf.consume n).Compact := by
  rw [Compact, consume]
  split_ifs with h
  · exact Or.inl (Nat.zero_le _)
  · dsimp only
    omega

/-! ## Runs -/

def bufferAt (ops : ℕ → Op) (n : ℕ) : ReadBuffer := runState apply {} ops n

def queueAt (ops : ℕ → Op) (n : ℕ) : ByteQueue := runState ByteQueue.apply {} ops n

lemma represents_run {ops : ℕ → Op} {n : ℕ} (hops : ∀ m < n, (bufferAt ops m).Allows (ops m)) :
    Represents (bufferAt ops n) (queueAt ops n) := by
  induction n with
  | zero => exact represents_empty
  | succ n ih =>
    have hrun := ih fun m hm => hops m (Nat.lt_succ_of_lt hm)
    exact hrun.apply (hops n (Nat.lt_succ_self n))

theorem refines_byteQueue (ops : ℕ → Op) (n : ℕ)
    (hops : ∀ m < n, (bufferAt ops m).Allows (ops m)) :
    (bufferAt ops n).readOffset ≤ (bufferAt ops n).data.length
      ∧ (bufferAt ops n).data.drop (bufferAt ops n).readOffset
        = (queueAt ops n).appended.drop (queueAt ops n).consumed
      ∧ ∀ m k, n = m + 1 → ops m = .consume k →
        (bufferAt ops n).readOffset ≤ 4096
          ∨ 2 * (bufferAt ops n).readOffset ≤ (bufferAt ops n).data.length + 1 := by
  have hrun := represents_run hops
  refine ⟨hrun.wf, hrun.begin_eq, ?_⟩
  intro m k hn hk
  have hlast : bufferAt ops n = (bufferAt ops m).consume k := by
    rw [hn]
    show (bufferAt ops m).apply (ops m) = _
    rw [hk]
    rfl
  rw [hlast]
  exact compact_consume _ k

/-- Three bytes come and two are consumed. -/
theorem refines_byteQueue_threeBytes :
    (bufferAt (listInputs [.append [1, 2, 3], .consume 2] (.consume 0)) 2).begin = [3] :=
  (refines_byteQueue (listInputs [.append [1, 2, 3], .consume 2] (.consume 0)) 2 (by decide)).2.1

end ReadBuffer
end TcpUdp
