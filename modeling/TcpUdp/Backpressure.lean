import TcpUdp.QueueDepthTheorems
import Mathlib.Algebra.Order.BigOperators.Group.Finset
import Mathlib.Data.Fintype.BigOperators

/-!
# What the drop threshold is good for

`TcpVirtualChannel::send` drops a packet when `approxSize` is over the threshold; otherwise it
enqueues it, some steps later. The counter lags behind the queue in both directions and may even
wrap, other threads pass the check at the same time, and missing notifications are enqueued without
any check. All the same the data packets in the queue are never more than the threshold and the
number of threads together (`dataQueued_le`).
-/

namespace TcpUdp

open Lib

structure Backpressure (τ : Type) where
  depth : QueueDepth τ := {}
  /-- The `send` of the thread has found the depth no obstacle, and `enqueue` is to come. -/
  admitted : τ → Bool := fun _ => false

namespace Backpressure

open QueueDepth

variable {τ : Type} [DecidableEq τ] {s : Backpressure τ} {t : τ}

/-! ## The callers of the queue -/

/-- `send` loads the depth. -/
def send (s : Backpressure τ) (t : τ) : Backpressure τ :=
  if s.depth.place t = .idle ∧ s.admitted t = false ∧ s.depth.dropsPacket = false then
    { s with admitted := Function.update s.admitted t true }
  else s

/-- `send` enters `sendQueue->enqueue`. -/
def enqueue (s : Backpressure τ) (t : τ) (messageId : ℕ) (data : List UInt8) : Backpressure τ :=
  if s.admitted t then
    { depth := s.depth.startEnqueue t (vcDataPacket messageId data)
      admitted := Function.update s.admitted t false }
  else s

/-- What a thread does that is not in `send`. -/
def aside (s : Backpressure τ) (t : τ) (depth : QueueDepth τ) : Backpressure τ :=
  if s.admitted t then s else { s with depth := depth }

inductive Event (τ : Type) where
  | send (t : τ)
  | enqueue (t : τ) (messageId : ℕ) (data : List UInt8)
  /-- The missing-notify callback enters `enqueue`. -/
  | notify (t : τ) (missingIds : List ℕ)
  | push (t : τ)
  | increment (t : τ)
  | tryDequeue (t : τ)
  | dequeue (t : τ)
  | decrement (t : τ)
  | cancelWait

def step (s : Backpressure τ) : Event τ → Backpressure τ
  | .send t => s.send t
  | .enqueue t messageId data => s.enqueue t messageId data
  | .notify t missingIds => s.aside t (s.depth.startEnqueue t (vcMissingNotify missingIds))
  | .push t => s.aside t (s.depth.push t)
  | .increment t => s.aside t (s.depth.increment t)
  | .tryDequeue t => s.aside t (s.depth.tryDequeue t)
  | .dequeue t => s.aside t (s.depth.dequeue t)
  | .decrement t => s.aside t (s.depth.decrement t)
  | .cancelWait => { s with depth := s.depth.cancelWait }

def stateAt (events : ℕ → Event τ) (n : ℕ) : Backpressure τ := runState step {} events n

/-! ## What is counted -/

def isData (packet : Packet) : Bool := headerType packet == VcPacketType.data.toByte

/-- The data packets in the queue. -/
def dataQueued (depth : QueueDepth τ) : ℕ := depth.queue.queue.countP isData

/-- A data packet that is not pushed yet. -/
def unpushed : Place → ℕ
  | .enqueueing data => if isData data then 1 else 0
  | _ => 0

/-- A packet that is popped, and the counter does not show it yet. -/
def taken : Place → ℕ
  | .popped _ | .released _ => 1
  | _ => 0

variable [Fintype τ]

/-- The counter is right up to what is on its way to it, and up to wraps. -/
def Counted (depth : QueueDepth τ) : Prop :=
  (depth.queue.approxQueueSize + ∑ t, (depth.place t).uncounted) % uint64Size
    = (depth.queue.queue.length + ∑ t, taken (depth.place t)) % uint64Size

/-- The data packets that are in the queue or in a call of `enqueue` on the way to it. -/
def dataHeld (depth : QueueDepth τ) : ℕ := dataQueued depth + ∑ t, unpushed (depth.place t)

/-! ## Operations of the queue -/

/-- A step of the thread that is not in `send`: the counter stays right, and there is no more data
than before. -/
structure Neutral (depth : QueueDepth τ) (t : τ) (depth' : QueueDepth τ) : Prop where
  others : ∀ x, x ≠ t → depth'.place x = depth.place x
  counted : Counted depth → Counted depth'
  held : dataHeld depth' ≤ dataHeld depth

omit [DecidableEq τ] in
lemma Neutral.refl (depth : QueueDepth τ) (t : τ) : Neutral depth t depth :=
  ⟨fun _ _ => rfl, id, le_rfl⟩

variable {depth depth' : QueueDepth τ}

lemma Counted.move {place : Place} (h : Counted depth)
    (hplace : depth'.place = Function.update depth.place t place)
    (hcounted : (depth'.queue.approxQueueSize + place.uncounted
        + (depth.queue.queue.length + taken (depth.place t))) % uint64Size
      = (depth.queue.approxQueueSize + (depth.place t).uncounted
        + (depth'.queue.queue.length + taken place)) % uint64Size) : Counted depth' := by
  have huncounted := sum_update Place.uncounted depth.place t place
  have htaken := sum_update taken depth.place t place
  rw [← hplace] at huncounted htaken
  unfold Counted at h ⊢
  unfold uint64Size at h hcounted ⊢
  omega

/-- A step of one thread, by what it changes in the sums and besides them. -/
lemma Neutral.move {place : Place} (hplace : depth'.place = Function.update depth.place t place)
    (hcounted : (depth'.queue.approxQueueSize + place.uncounted
        + (depth.queue.queue.length + taken (depth.place t))) % uint64Size
      = (depth.queue.approxQueueSize + (depth.place t).uncounted
        + (depth'.queue.queue.length + taken place)) % uint64Size)
    (hheld : dataQueued depth' + unpushed place ≤ dataQueued depth + unpushed (depth.place t)) :
    Neutral depth t depth' := by
  refine ⟨fun x hx => ?_, fun h => h.move hplace hcounted, ?_⟩
  · rw [hplace, Function.update_of_ne hx]
  · have hunpushed := sum_update unpushed depth.place t place
    rw [← hplace] at hunpushed
    unfold dataHeld
    omega

lemma neutral_startEnqueue (depth : QueueDepth τ) (t : τ) {data : Packet}
    (hdata : isData data = false) : Neutral depth t (depth.startEnqueue t data) := by
  unfold startEnqueue
  split
  · rename_i hplace
    refine .move rfl ?_ ?_
    · rw [hplace]
      rfl
    · rw [hplace, unpushed, hdata]
      exact le_rfl
  · exact .refl depth t

lemma neutral_push (depth : QueueDepth τ) (t : τ) : Neutral depth t (depth.push t) := by
  unfold QueueDepth.push
  split
  · rename_i data hplace
    split_ifs
    · refine .move rfl ?_ ?_
      · rw [hplace]
        simp only [List.length_append, List.length_singleton, Place.uncounted, taken]
        congr 1
        omega
      · rw [hplace, dataQueued, List.countP_append, List.countP_singleton]
        exact le_rfl
    · exact .refl depth t
  · exact .refl depth t

lemma neutral_increment (depth : QueueDepth τ) (t : τ) : Neutral depth t (depth.increment t) := by
  unfold QueueDepth.increment
  split
  · rename_i hplace
    refine .move rfl ?_ ?_
    · rw [hplace]
      simp only [Place.uncounted, taken, uint64Size]
      omega
    · rw [hplace]
      exact le_rfl
  · exact .refl depth t

lemma neutral_pop (depth : QueueDepth τ) (t : τ) (blocking : Bool) :
    Neutral depth t (depth.pop t blocking) := by
  unfold pop
  split
  · rename_i hplace hqueue
    split_ifs
    · refine .move rfl ?_ ?_
      · rw [hplace, hqueue]
        simp only [List.length_cons, Place.uncounted, taken]
      · rw [hplace, dataQueued, dataQueued, hqueue, List.countP_cons]
        exact Nat.add_le_add_right (Nat.le_add_right _ _) _
    · refine .move rfl ?_ ?_
      · rw [hplace, hqueue]
        simp only [List.length_cons, Place.uncounted, taken]
      · rw [hplace, dataQueued, dataQueued, hqueue, List.countP_cons]
        exact Nat.add_le_add_right (Nat.le_add_right _ _) _
    · exact .refl depth t
  · exact .refl depth t

lemma neutral_subtract (htaken : taken (depth.place t) = 1)
    (huncounted : (depth.place t).uncounted = 0) (queueMutex : Option τ) :
    Neutral depth t (depth.subtract t queueMutex) := by
  unfold subtract
  refine .move rfl ?_ (Nat.add_le_add_left (Nat.zero_le _) _)
  rw [htaken, huncounted]
  simp only [Place.uncounted, taken, uint64Size]
  split_ifs <;> omega

lemma neutral_decrement (depth : QueueDepth τ) (t : τ) : Neutral depth t (depth.decrement t) := by
  unfold QueueDepth.decrement
  split
  · rename_i hplace
    apply neutral_subtract
    · rw [hplace]
      rfl
    · rw [hplace]
      rfl
  · rename_i hplace
    apply neutral_subtract
    · rw [hplace]
      rfl
    · rw [hplace]
      rfl
  · exact .refl depth t

/-! ## The bound -/

structure Inv (s : Backpressure τ) : Prop where
  idle : ∀ t, s.admitted t = true → s.depth.place t = .idle
  counted : Counted s.depth
  bounded : dataHeld s.depth + ∑ t, (s.admitted t).toNat
    ≤ sendQueueDropThreshold + Fintype.card τ

omit [DecidableEq τ] in
lemma inv_init : Inv ({} : Backpressure τ) := by
  refine ⟨?_, ?_, ?_⟩
  · intro t ht
    cases ht
  · rw [Counted]
    simp [Place.uncounted, taken]
  · rw [dataHeld, dataQueued]
    simp [unpushed]

omit [DecidableEq τ] in
lemma inv_aside (hs : Inv s) (hop : Neutral s.depth t depth') : Inv (s.aside t depth') := by
  unfold aside
  split_ifs with hadmitted
  · exact hs
  · refine ⟨fun x hx => ?_, hop.counted hs.counted, ?_⟩
    · have hne : x ≠ t := fun heq => hadmitted (heq ▸ hx)
      exact (hop.others x hne).trans (hs.idle x hx)
    · exact (Nat.add_le_add_right hop.held _).trans hs.bounded

omit [DecidableEq τ] in
/-- When the depth is no obstacle, the queue is no longer than what the threshold and the pushes
that are not counted yet allow. -/
lemma length_le_of_not_dropsPacket (hcounted : Counted s.depth)
    (hsize : s.depth.queue.queue.length + Fintype.card τ < uint64Size)
    (hdepth : s.depth.dropsPacket = false) :
    s.depth.queue.queue.length ≤ sendQueueDropThreshold + ∑ t, (s.depth.place t).uncounted := by
  have htaken : ∑ t, taken (s.depth.place t) ≤ Fintype.card τ := by
    rw [Fintype.card_eq_sum_ones]
    apply Finset.sum_le_sum
    intro x _
    cases s.depth.place x <;> simp [taken]
  have happrox : s.depth.queue.approxQueueSize ≤ sendQueueDropThreshold :=
    not_lt.mp (of_decide_eq_false hdepth)
  calc s.depth.queue.queue.length
      ≤ s.depth.queue.queue.length + ∑ t, taken (s.depth.place t) := Nat.le_add_right _ _
    _ = (s.depth.queue.queue.length + ∑ t, taken (s.depth.place t)) % uint64Size :=
      (Nat.mod_eq_of_lt (by omega)).symm
    _ = (s.depth.queue.approxQueueSize + ∑ t, (s.depth.place t).uncounted) % uint64Size :=
      hcounted.symm
    _ ≤ s.depth.queue.approxQueueSize + ∑ t, (s.depth.place t).uncounted := Nat.mod_le _ _
    _ ≤ sendQueueDropThreshold + ∑ t, (s.depth.place t).uncounted :=
      Nat.add_le_add_right happrox _

omit [DecidableEq τ] in
/-- A thread is at one place at a time, and one is at none of these. -/
lemma sum_places_lt (hs : Inv s) (hplace : s.depth.place t = .idle)
    (hadmitted : s.admitted t = false) :
    ∑ x, (s.depth.place x).uncounted + ∑ x, unpushed (s.depth.place x)
      + ∑ x, (s.admitted x).toNat < Fintype.card τ := by
  rw [← Finset.sum_add_distrib, ← Finset.sum_add_distrib, Fintype.card_eq_sum_ones]
  apply Finset.sum_lt_sum
  · intro x _
    cases hx : s.admitted x with
    | true =>
      rw [hs.idle x hx]
      exact le_rfl
    | false =>
      cases hp : s.depth.place x with
      | enqueueing data =>
        rw [unpushed]
        split_ifs <;> simp [Place.uncounted]
      | _ => simp [Place.uncounted, unpushed]
  · refine ⟨t, Finset.mem_univ t, ?_⟩
    rw [hplace, hadmitted]
    exact Nat.one_pos

lemma inv_send (hs : Inv s) (hsize : s.depth.queue.queue.length + Fintype.card τ < uint64Size) :
    Inv (s.send t) := by
  unfold send
  split_ifs with h
  · obtain ⟨hplace, hadmitted, hdepth⟩ := h
    refine ⟨fun x hx => ?_, hs.counted, ?_⟩
    · by_cases heq : x = t
      · exact heq ▸ hplace
      · exact hs.idle x ((Function.update_of_ne heq _ _).symm.trans hx)
    · have hlength := length_le_of_not_dropsPacket hs.counted hsize hdepth
      have hplaces := sum_places_lt hs hplace hadmitted
      have hdata : dataQueued s.depth ≤ s.depth.queue.queue.length := List.countP_le_length
      have hsum := sum_update Bool.toNat s.admitted t true
      rw [hadmitted] at hsum
      simp only [Bool.toNat_true, Bool.toNat_false] at hsum
      rw [dataHeld]
      dsimp only
      omega
  · exact hs

/-- The data packet is held where the admission was. -/
lemma inv_enqueue (hs : Inv s) (messageId : ℕ) (data : List UInt8) :
    Inv (s.enqueue t messageId data) := by
  unfold enqueue
  split_ifs with hadmitted
  swap
  · exact hs
  have hplace := hs.idle t hadmitted
  have hdata : isData (vcDataPacket messageId data) = true := by
    rw [← List.append_nil (vcDataPacket messageId data), isData, headerType_vcDataPacket]
    exact beq_self_eq_true _
  have henqueue : s.depth.startEnqueue t (vcDataPacket messageId data)
      = { s.depth with
          place := Function.update s.depth.place t (.enqueueing (vcDataPacket messageId data))
          started := s.depth.started + 1 } := by
    rw [startEnqueue, hplace]
  rw [henqueue]
  refine ⟨fun x hx => ?_, hs.counted.move rfl ?_, ?_⟩
  · have hne : x ≠ t := by
      rintro rfl
      have hself : Function.update s.admitted x false x = true := hx
      rw [Function.update_self] at hself
      cases hself
    exact (Function.update_of_ne hne _ _).trans
      (hs.idle x ((Function.update_of_ne hne _ _).symm.trans hx))
  · rw [hplace]
    rfl
  · have hunpushed := sum_update unpushed s.depth.place t
      (.enqueueing (vcDataPacket messageId data))
    have hsum := sum_update Bool.toNat s.admitted t false
    have hone : unpushed (.enqueueing (vcDataPacket messageId data)) = 1 := by
      rw [unpushed, if_pos hdata]
    have hbounded := hs.bounded
    rw [hplace, hone, show unpushed .idle = 0 from rfl] at hunpushed
    rw [hadmitted, Bool.toNat_true, Bool.toNat_false] at hsum
    rw [dataHeld, dataQueued] at hbounded ⊢
    dsimp only
    omega

theorem inv_step (hs : Inv s) (e : Event τ)
    (hsize : s.depth.queue.queue.length + Fintype.card τ < uint64Size) : Inv (s.step e) := by
  cases e with
  | send t => exact inv_send hs hsize
  | enqueue t messageId data => exact inv_enqueue hs messageId data
  | notify t missingIds =>
    refine inv_aside hs (neutral_startEnqueue _ t ?_)
    rw [← List.append_nil (vcMissingNotify missingIds), isData, headerType_vcMissingNotify]
    decide
  | push t => exact inv_aside hs (neutral_push _ t)
  | increment t => exact inv_aside hs (neutral_increment _ t)
  | tryDequeue t => exact inv_aside hs (neutral_pop _ t false)
  | dequeue t => exact inv_aside hs (neutral_pop _ t true)
  | decrement t => exact inv_aside hs (neutral_decrement _ t)
  | cancelWait =>
    unfold step QueueDepth.cancelWait
    dsimp only
    split_ifs
    · exact ⟨hs.idle, hs.counted, hs.bounded⟩
    · exact hs

/-- Over any run of any number of threads, as long as the queue does not hold nearly `2 ^ 64`
packets: the data packets in it are no more than the threshold and the threads together. -/
theorem dataQueued_le (events : ℕ → Event τ) (n : ℕ)
    (hsize : ∀ m < n, (stateAt events m).depth.queue.queue.length + Fintype.card τ < uint64Size) :
    dataQueued (stateAt events n).depth ≤ sendQueueDropThreshold + Fintype.card τ := by
  have hinv : Inv (stateAt events n) :=
    runState_invariant_of_steps (Q := fun s _ =>
      s.depth.queue.queue.length + Fintype.card τ < uint64Size) inv_init
      (fun _ e hsize hs => inv_step hs e hsize) hsize
  have hbounded := hinv.bounded
  rw [dataHeld] at hbounded
  omega

/-- The counter wraps, so a packet is dropped; the next one is admitted and pushed. -/
def wrapsAndRecovers : List (Event (Fin 3)) :=
  [.send 0, .enqueue 0 0 [7], .push 0, .tryDequeue 1, .decrement 1, .send 2, .increment 0, .send 2,
    .enqueue 2 1 [8], .push 2]

theorem dataQueued_le_wrapsAndRecovers :
    (stateAt (listInputs wrapsAndRecovers .cancelWait) 6).admitted 2 = false
      ∧ dataQueued (stateAt (listInputs wrapsAndRecovers .cancelWait) 10).depth = 1
      ∧ dataQueued (stateAt (listInputs wrapsAndRecovers .cancelWait) 10).depth
        ≤ sendQueueDropThreshold + Fintype.card (Fin 3) := by
  refine ⟨by decide, by decide, dataQueued_le (listInputs wrapsAndRecovers .cancelWait) 10 ?_⟩
  have hall : allSteps step (fun s _ => decide
      (s.depth.queue.queue.length + Fintype.card (Fin 3) < uint64Size)) {} wrapsAndRecovers = true := by
    decide
  exact fun m hm => of_decide_eq_true (of_allSteps hall .cancelWait m hm)

end Backpressure
end TcpUdp
