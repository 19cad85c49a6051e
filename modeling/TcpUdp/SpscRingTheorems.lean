import TcpUdp.SpscRing
import Mathlib.Data.List.Infix

/-!
# The ring is a bounded queue

What each thread knows of the indices stays true while the other goes on: the producer's
room can only grow, and an item the consumer has seen stays. `inv_step` keeps this through
every point of both operations; `boundedFifo_stateAt` is what it says of every run, and
`abs_step` that a call takes effect as the operation of `SpscQueue` in one of its steps.
-/

namespace TcpUdp
namespace SpscRing

open Lib

variable {T : Type} {Capacity : ℕ} {s : SpscRing T}

/-! ## The invariant -/

/-- The item in a cell that is not yet accepted. -/
def ProducerPc.inHand : ProducerPc T → List T
  | .storing item _ => [item]
  | _ => []

/-- What was read out of a cell and is not yet returned. -/
def ConsumerPc.inHand : ConsumerPc T → List (Option T)
  | .storing item _ => [item]
  | _ => []

/-- The items put into cells, and what was taken out of them. -/
def puts (s : SpscRing T) : List T := s.accepted ++ s.producer.inHand

def taken (s : SpscRing T) : List (Option T) := s.returned ++ s.consumer.inHand

def ProducerKnows (Capacity : ℕ) (s : SpscRing T) : Prop :=
  match s.producer with
  | .idle => True
  | .loaded _ w => w = s.accepted.length % Capacity
  | .writing _ w nextW => w = s.accepted.length % Capacity
      ∧ nextW = (s.accepted.length + 1) % Capacity
      ∧ s.accepted.length + 1 < s.returned.length + Capacity
  | .storing _ nextW => nextW = (s.accepted.length + 1) % Capacity

def ConsumerKnows (Capacity : ℕ) (s : SpscRing T) : Prop :=
  match s.consumer with
  | .idle => True
  | .loaded r => r = s.returned.length % Capacity
  | .reading r => r = s.returned.length % Capacity ∧ s.returned.length < s.accepted.length
  | .storing _ r => r = s.returned.length % Capacity

structure Inv (Capacity : ℕ) (s : SpscRing T) : Prop where
  writePos : s.writePos = s.accepted.length % Capacity
  readPos : s.readPos = s.returned.length % Capacity
  order : s.taken <+: s.accepted.map some
  room : s.puts.length < s.returned.length + Capacity
  cells : Stores s.buffer Capacity s.taken.length s.puts
  producer : s.ProducerKnows Capacity
  consumer : s.ConsumerKnows Capacity

lemma inv_init (hcap : 0 < Capacity) : Inv Capacity ({} : SpscRing T) where
  writePos := (Nat.zero_mod Capacity).symm
  readPos := (Nat.zero_mod Capacity).symm
  order := List.prefix_refl []
  room := by show 0 < 0 + Capacity; omega
  cells := Stores.empty Capacity
  producer := trivial
  consumer := trivial

lemma length_returned_le_taken (s : SpscRing T) : s.returned.length ≤ s.taken.length := by
  rw [taken, List.length_append]
  exact Nat.le_add_right _ _

lemma length_accepted_le_puts (s : SpscRing T) : s.accepted.length ≤ s.puts.length := by
  rw [puts, List.length_append]
  exact Nat.le_add_right _ _

namespace Inv

lemma taken_le (hs : Inv Capacity s) : s.taken.length ≤ s.accepted.length := by
  have h := hs.order.length_le
  rwa [List.length_map] at h

lemma returned_le (hs : Inv Capacity s) : s.returned.length ≤ s.accepted.length :=
  s.length_returned_le_taken.trans hs.taken_le

lemma accepted_lt (hs : Inv Capacity s) : s.accepted.length < s.returned.length + Capacity :=
  lt_of_le_of_lt s.length_accepted_le_puts hs.room

end Inv

/-! ## The producer -/

/-- A step of the producer that touches no cell and no index. -/
lemma Inv.producer_step (hs : Inv Capacity s) {producer : ProducerPc T}
    (hold : s.producer.inHand = []) (hnew : producer.inHand = [])
    (h : ProducerKnows Capacity { s with producer := producer }) :
    Inv Capacity { s with producer := producer } where
  writePos := hs.writePos
  readPos := hs.readPos
  order := hs.order
  room := by
    have hroom := hs.room
    rw [puts, hold] at hroom
    show (s.accepted ++ producer.inHand).length < _
    rw [hnew]
    exact hroom
  cells := by
    have hcells := hs.cells
    rw [puts, hold] at hcells
    show Stores s.buffer Capacity s.taken.length (s.accepted ++ producer.inHand)
    rw [hnew]
    exact hcells
  producer := h
  consumer := hs.consumer

/-- The full comparison fails: there is room for one more item, now and later. -/
lemma Inv.room_of_not_full (hs : Inv Capacity s)
    (h : (s.accepted.length + 1) % Capacity ≠ s.readPos) :
    s.accepted.length + 1 < s.returned.length + Capacity := by
  have hlt := hs.accepted_lt
  have hne : s.accepted.length + 1 ≠ s.returned.length + Capacity := fun heq => h (by
    rw [heq, Nat.add_mod_right, hs.readPos])
  omega

/-- The cell that is written is the one of the next item. -/
lemma inv_write (hs : Inv Capacity s) {item : T} {w nextW : ℕ}
    (hpc : s.producer = .writing item w nextW) :
    Inv Capacity { s with
      buffer := Function.update s.buffer w (some item), producer := .storing item nextW } := by
  obtain ⟨hw, hnext, hroom⟩ : w = s.accepted.length % Capacity
      ∧ nextW = (s.accepted.length + 1) % Capacity
      ∧ s.accepted.length + 1 < s.returned.length + Capacity := by
    have h := hs.producer
    simpa only [ProducerKnows, hpc] using h
  have hputs : s.puts = s.accepted := by
    rw [puts, hpc]
    exact List.append_nil _
  have hcells := hs.cells
  rw [hputs] at hcells
  refine ⟨hs.writePos, hs.readPos, hs.order, ?_, ?_, hnext, hs.consumer⟩
  · show (s.accepted ++ [item]).length < _
    rw [List.length_append, List.length_singleton]
    exact hroom
  · show Stores (Function.update s.buffer w (some item)) Capacity s.taken.length
      (s.accepted ++ [item])
    have hle := s.length_returned_le_taken
    rw [hw]
    exact hcells.append hs.taken_le (by omega) item

lemma inv_publish (hs : Inv Capacity s) {item : T} {nextW : ℕ}
    (hpc : s.producer = .storing item nextW) :
    Inv Capacity { s with
      writePos := nextW, producer := .idle, accepted := s.accepted ++ [item] } := by
  have hnext : nextW = (s.accepted.length + 1) % Capacity := by
    have h := hs.producer
    simpa only [ProducerKnows, hpc] using h
  have hputs : s.puts = s.accepted ++ [item] := by rw [puts, hpc]; rfl
  have hputs' : (s.accepted ++ [item]) ++ ([] : List T) = s.puts := by rw [hputs, List.append_nil]
  have hlen : (s.accepted ++ [item]).length = s.accepted.length + 1 := List.length_append
  refine ⟨?_, hs.readPos, ?_, ?_, ?_, trivial, ?_⟩
  · show nextW = (s.accepted ++ [item]).length % Capacity
    rw [hlen]
    exact hnext
  · show s.taken <+: (s.accepted ++ [item]).map some
    rw [List.map_append]
    exact hs.order.trans (List.prefix_append _ _)
  · show ((s.accepted ++ [item]) ++ ([] : List T)).length < _
    rw [hputs']
    exact hs.room
  · show Stores s.buffer Capacity s.taken.length ((s.accepted ++ [item]) ++ ([] : List T))
    rw [hputs']
    exact hs.cells
  · -- what the consumer has seen stays there
    have h := hs.consumer
    unfold ConsumerKnows at h ⊢
    split at h
    · rename_i hc
      simp only [hc]
    · rename_i hc
      simp only [hc]
      exact h
    · rename_i hc
      simp only [hc, hlen]
      exact ⟨h.1, Nat.lt_succ_of_lt h.2⟩
    · rename_i hc
      simp only [hc]
      exact h

lemma inv_produce (hs : Inv Capacity s) (item : T) : Inv Capacity (s.produce Capacity item) := by
  have hproducer := hs.producer
  unfold produce
  split
  · rename_i hpc
    exact hs.producer_step (by rw [hpc]; rfl) rfl hs.writePos
  · rename_i item w hpc
    simp only [ProducerKnows, hpc] at hproducer
    split_ifs with hfull
    · exact hs.producer_step (by rw [hpc]; rfl) rfl trivial
    · refine hs.producer_step (by rw [hpc]; rfl) rfl ?_
      simp only [seesFull, hpc, decide_eq_true_eq] at hfull
      rw [hproducer, mod_add_one_mod] at hfull
      exact ⟨hproducer, by rw [hproducer, mod_add_one_mod], hs.room_of_not_full hfull⟩
  · rename_i hpc
    exact inv_write hs hpc
  · rename_i hpc
    exact inv_publish hs hpc

/-! ## The consumer -/

/-- A step of the consumer that touches no cell and no index. -/
lemma Inv.consumer_step (hs : Inv Capacity s) {consumer : ConsumerPc T}
    (hold : s.consumer.inHand = []) (hnew : consumer.inHand = [])
    (h : ConsumerKnows Capacity { s with consumer := consumer }) :
    Inv Capacity { s with consumer := consumer } := by
  have htaken : s.returned ++ consumer.inHand = s.taken := by rw [taken, hold, hnew]
  refine ⟨hs.writePos, hs.readPos, ?_, hs.room, ?_, hs.producer, h⟩
  · show s.returned ++ consumer.inHand <+: _
    rw [htaken]
    exact hs.order
  · show Stores s.buffer Capacity (s.returned ++ consumer.inHand).length s.puts
    rw [htaken]
    exact hs.cells

/-- The cell that is read holds the oldest item not returned. -/
lemma inv_read (hs : Inv Capacity s) (hcap : 0 < Capacity) {r : ℕ}
    (hpc : s.consumer = .reading r) :
    Inv Capacity { s with
      buffer := Function.update s.buffer r none, consumer := .storing (s.buffer r) r } := by
  obtain ⟨hr, hlt⟩ : r = s.returned.length % Capacity
      ∧ s.returned.length < s.accepted.length := by
    have h := hs.consumer
    simpa only [ConsumerKnows, hpc] using h
  have htaken : s.taken = s.returned := by
    rw [taken, hpc]
    exact List.append_nil _
  have hcells := hs.cells
  have horder := hs.order
  rw [htaken] at hcells horder
  have hitem : s.buffer r = s.accepted[s.returned.length]? := by
    rw [hr, hcells s.returned.length le_rfl (by omega), puts, List.getElem?_append_left hlt]
  refine ⟨hs.writePos, hs.readPos, ?_, hs.room, ?_, hs.producer, hr⟩
  · show s.returned ++ [s.buffer r] <+: s.accepted.map some
    have hlen : s.returned.length < (s.accepted.map some).length := by
      rw [List.length_map]
      exact hlt
    have hnext := List.concat_get_prefix horder hlen
    rw [List.get_eq_getElem, List.getElem_map, ← List.getElem?_eq_getElem hlt] at hnext
    rw [hitem]
    exact hnext
  · show Stores (Function.update s.buffer r none) Capacity (s.returned ++ [s.buffer r]).length s.puts
    rw [List.length_append, hr]
    exact hcells.advance hs.room.le hcap

lemma inv_release (hs : Inv Capacity s) {item : Option T} {r : ℕ}
    (hpc : s.consumer = .storing item r) :
    Inv Capacity { s with
      readPos := (r + 1) % Capacity, consumer := .idle, returned := s.returned ++ [item] } := by
  have hr : r = s.returned.length % Capacity := by
    have h := hs.consumer
    simpa only [ConsumerKnows, hpc] using h
  have htaken : (s.returned ++ [item]) ++ ([] : List (Option T)) = s.taken := by
    rw [List.append_nil, taken, hpc]
    rfl
  have hlen : (s.returned ++ [item]).length = s.returned.length + 1 := List.length_append
  refine ⟨hs.writePos, ?_, ?_, ?_, ?_, ?_, trivial⟩
  · show (r + 1) % Capacity = (s.returned ++ [item]).length % Capacity
    rw [hlen, hr, mod_add_one_mod]
  · show (s.returned ++ [item]) ++ ([] : List (Option T)) <+: _
    rw [htaken]
    exact hs.order
  · show s.puts.length < (s.returned ++ [item]).length + Capacity
    have hroom := hs.room
    rw [hlen]
    omega
  · show Stores s.buffer Capacity ((s.returned ++ [item]) ++ ([] : List (Option T))).length s.puts
    rw [htaken]
    exact hs.cells
  · -- the producer's room only grows
    have h := hs.producer
    unfold ProducerKnows at h ⊢
    split at h
    · rename_i hp
      simp only [hp]
    · rename_i hp
      simp only [hp]
      exact h
    · rename_i hp
      simp only [hp, hlen]
      exact ⟨h.1, h.2.1, by omega⟩
    · rename_i hp
      simp only [hp]
      exact h

lemma inv_consume (hs : Inv Capacity s) (hcap : 0 < Capacity) :
    Inv Capacity (s.consume Capacity) := by
  have hconsumer := hs.consumer
  unfold consume
  split
  · rename_i hpc
    exact hs.consumer_step (by rw [hpc]; rfl) rfl hs.readPos
  · rename_i r hpc
    simp only [ConsumerKnows, hpc] at hconsumer
    split_ifs with hempty
    · exact hs.consumer_step (by rw [hpc]; rfl) rfl trivial
    · refine hs.consumer_step (by rw [hpc]; rfl) rfl ⟨hconsumer, ?_⟩
      simp only [seesEmpty, hpc, decide_eq_true_eq] at hempty
      refine lt_of_le_of_ne hs.returned_le fun heq => hempty ?_
      rw [hconsumer, hs.writePos]
      exact congrArg (· % Capacity) heq
  · rename_i hpc
    exact inv_read hs hcap hpc
  · rename_i hpc
    exact inv_release hs hpc

theorem inv_step (hcap : 0 < Capacity) (hs : Inv Capacity s) (e : Event T) :
    Inv Capacity (s.step Capacity e) := by
  cases e with
  | produce item => exact inv_produce hs item
  | consume => exact inv_consume hs hcap

/-! ## What the invariant says -/

namespace Inv

/-- The cell of the next item is not one of those the consumer has still to give back. -/
lemma cell_ne (hs : Inv Capacity s) {i : ℕ} (hi : i < s.unread) :
    (s.readPos + i) % Capacity ≠ s.accepted.length % Capacity := by
  have hlt := hs.accepted_lt
  rw [hs.readPos, Nat.mod_add_mod]
  unfold unread at hi
  intro h
  have heq := eq_of_mod_eq_mod s.returned.length (by omega) (by omega) (by omega) hlt h
  omega

/-- A cell that is being read is the first of those. -/
lemma reads_eq (hs : Inv Capacity s) {r : ℕ} (hr : s.Reads r) :
    r = s.readPos % Capacity ∧ 0 < s.unread := by
  have hmod : s.returned.length % Capacity = s.readPos % Capacity := by
    rw [hs.readPos, Nat.mod_mod]
  have hconsumer := hs.consumer
  unfold unread
  rcases hr with hpc | ⟨item, hpc⟩
  · simp only [ConsumerKnows, hpc] at hconsumer
    exact ⟨hconsumer.1.trans hmod, Nat.sub_pos_of_lt hconsumer.2⟩
  · simp only [ConsumerKnows, hpc] at hconsumer
    have htaken := hs.taken_le
    rw [taken, hpc] at htaken
    have hlen : (s.returned ++ [item]).length = s.returned.length + 1 := List.length_append
    have hle : (s.returned ++ [item]).length ≤ s.accepted.length := htaken
    exact ⟨hconsumer.trans hmod, by omega⟩

lemma boundedFifo (hs : Inv Capacity s) : BoundedFifo Capacity s where
  fifo := (List.prefix_append _ _).trans hs.order
  free item w nextW hpc := by
    have hproducer := hs.producer
    simp only [ProducerKnows, hpc] at hproducer
    have hputs : s.puts = s.accepted := by
      rw [puts, hpc]
      exact List.append_nil _
    have hcells := hs.cells
    rw [hputs] at hcells
    have hle := s.length_returned_le_taken
    rw [hproducer.1]
    refine ⟨hcells.next_eq_none hs.taken_le (by omega), fun i hi => hs.cell_ne hi, fun hr => ?_⟩
    have ⟨heq, hpos⟩ := hs.reads_eq hr
    exact hs.cell_ne hpos heq.symm
  full hfull := by
    have hlt := hs.accepted_lt
    have hle := hs.returned_le
    unfold seesFull at hfull
    split at hfull
    · rename_i item w hpc
      have hproducer := hs.producer
      simp only [ProducerKnows, hpc] at hproducer
      have hfull := of_decide_eq_true hfull
      rw [hproducer, mod_add_one_mod, hs.readPos,
        ← Nat.add_mod_right s.returned.length Capacity] at hfull
      have heq := eq_of_mod_eq_mod (s.returned.length + 1) (by omega) (by omega) (by omega)
        (by omega) hfull
      unfold unread
      omega
    · cases hfull
  empty hempty := by
    have hlt := hs.accepted_lt
    have hle := hs.returned_le
    unfold seesEmpty at hempty
    split at hempty
    · rename_i r hpc
      have hconsumer := hs.consumer
      simp only [ConsumerKnows, hpc] at hconsumer
      have hempty := of_decide_eq_true hempty
      rw [hconsumer, hs.writePos] at hempty
      have heq := eq_of_mod_eq_mod s.returned.length (by omega) (by omega) hle hlt hempty
      unfold unread
      omega
    · cases hempty

end Inv

/-- In every run of one producer and one consumer the ring is a bounded queue. -/
theorem boundedFifo_stateAt (hcap : 0 < Capacity) (events : ℕ → Event T) (n : ℕ) :
    BoundedFifo Capacity (stateAt Capacity events n) :=
  Inv.boundedFifo (runState_invariant (Q := fun _ => True) (inv_init hcap)
    (fun _ e _ hs => inv_step hcap hs e) (fun _ => trivial) n)

/-- A ring of two cells is full with one item. -/
def fillsTwoCells : List (Event ℕ) := List.replicate 5 (.produce 7)

theorem boundedFifo_fillsTwoCells :
    (stateAt 2 (listInputs fillsTwoCells .consume) 5).seesFull 2 = true
      ∧ BoundedFifo 2 (stateAt 2 (listInputs fillsTwoCells .consume) 5) :=
  ⟨by decide, boundedFifo_stateAt (by decide) (listInputs fillsTwoCells .consume) 5⟩

/-! ## The ring is `SpscQueue`

A call takes effect when it stores its index, or when its comparison makes it fail. -/

/-- The queue that the ring stands for. -/
def abs (Capacity : ℕ) (s : SpscRing T) : SpscQueue T Capacity where
  items := s.accepted.drop s.returned.length

lemma length_abs (Capacity : ℕ) (s : SpscRing T) : (s.abs Capacity).items.length = s.unread :=
  List.length_drop

theorem abs_accept (hs : Inv Capacity s) {item : T} {nextW : ℕ}
    (hpc : s.producer = .storing item nextW) (next : T) :
    (s.abs Capacity).tryEnqueue item = some ((s.produce Capacity next).abs Capacity) := by
  have hproduce : (s.produce Capacity next).abs Capacity
      = { items := (s.accepted ++ [item]).drop s.returned.length } := by
    simp only [produce, hpc, abs]
  have hroom : s.unread + 1 < Capacity := by
    have h := hs.room
    have hle := hs.returned_le
    rw [puts, hpc] at h
    have hlen : (s.accepted ++ [item]).length = s.accepted.length + 1 := List.length_append
    have h' : (s.accepted ++ [item]).length < s.returned.length + Capacity := h
    unfold unread
    omega
  rw [SpscQueue.tryEnqueue, length_abs, if_pos hroom, hproduce,
    List.drop_append_of_le_length hs.returned_le]
  rfl

theorem abs_full (hs : Inv Capacity s) (hcap : 0 < Capacity) (h : s.seesFull Capacity = true)
    (item : T) : (s.abs Capacity).tryEnqueue item = none := by
  have hfull := hs.boundedFifo.full h
  rw [SpscQueue.tryEnqueue, length_abs, if_neg (by omega)]

theorem abs_return (hs : Inv Capacity s) {item : Option T} {r : ℕ}
    (hpc : s.consumer = .storing item r) :
    ∃ x, item = some x
      ∧ (s.abs Capacity).tryDequeue = some (x, (s.consume Capacity).abs Capacity) := by
  have htaken : s.taken = s.returned ++ [item] := by rw [taken, hpc]; rfl
  have horder := hs.order
  rw [htaken] at horder
  have hlt : s.returned.length < s.accepted.length := by
    have h := horder.length_le
    rw [List.length_append, List.length_map] at h
    exact h
  have hlen : s.returned.length < (s.returned ++ [item]).length := by
    rw [List.length_append]
    exact Nat.lt_succ_self _
  have hitem := horder.getElem hlen
  rw [List.getElem_concat_length rfl, List.getElem_map] at hitem
  have hconsume : (s.consume Capacity).abs Capacity
      = { items := s.accepted.drop (s.returned.length + 1) } := by
    simp only [consume, hpc, abs, List.length_append, List.length_singleton]
  refine ⟨_, hitem, ?_⟩
  have hitems : (s.abs Capacity).items
      = s.accepted[s.returned.length] :: s.accepted.drop (s.returned.length + 1) :=
    List.drop_eq_getElem_cons hlt
  rw [SpscQueue.tryDequeue, hitems, hconsume]

theorem abs_empty (hs : Inv Capacity s) (h : s.seesEmpty = true) :
    (s.abs Capacity).tryDequeue = none := by
  have hitems : (s.abs Capacity).items = [] := by
    apply List.eq_nil_of_length_eq_zero
    rw [length_abs]
    exact hs.boundedFifo.empty h
  rw [SpscQueue.tryDequeue, hitems]

/-- No other step changes the queue. -/
theorem abs_produce (h : ∀ item nextW, s.producer ≠ .storing item nextW) (next : T) :
    (s.produce Capacity next).abs Capacity = s.abs Capacity := by
  unfold produce
  split
  · rfl
  · split_ifs <;> rfl
  · rfl
  · rename_i hpc
    exact absurd hpc (h _ _)

theorem abs_consume (h : ∀ item r, s.consumer ≠ .storing item r) :
    (s.consume Capacity).abs Capacity = s.abs Capacity := by
  unfold consume
  split
  · rfl
  · split_ifs <;> rfl
  · rfl
  · rename_i hpc
    exact absurd hpc (h _ _)

end SpscRing
end TcpUdp
