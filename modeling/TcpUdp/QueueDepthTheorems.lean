import TcpUdp.QueueDepth
import Mathlib.Data.Fintype.Basic

/-!
# When the depth counter can be trusted

An `enqueue` counts its packet after the packet can be dequeued, so a decrement may come
first; the unsigned counter then wraps. `depthSound_of_inOrder` is what holds when every
decrement has an increment of its own before it, `inOrder_of_depthSound` that nothing less
is enough, and `drops_at_depth_zero` a run in which `send` finds the counter wrapped.
-/

namespace TcpUdp
namespace QueueDepth

open Lib

variable {τ : Type} [DecidableEq τ] {s : QueueDepth τ} {t : τ}

/-! ## Alone, the steps are the operations of `BlockingQueue` -/

theorem enqueue_alone (hplace : s.place t = .idle) (hmutex : s.queueMutex = none)
    (hsize : s.queue.approxQueueSize + 1 < uint64Size) (data : Packet) :
    (((s.startEnqueue t data).push t).increment t).queue = s.queue.enqueue data := by
  simp only [startEnqueue, hplace, push, Function.update_self, hmutex, Option.isNone_none,
    if_true, increment, BlockingQueue.enqueue, Nat.mod_eq_of_lt hsize]

theorem tryDequeue_alone (hplace : s.place t = .idle) (hmutex : s.queueMutex = none)
    (hsize : s.queue.approxQueueSize ≠ 0) :
    ((s.tryDequeue t).decrement t).queue
      = match s.queue.tryDequeue with
        | none => s.queue
        | some (_, queue) => queue := by
  cases hq : s.queue.queue with
  | nil => simp only [tryDequeue, pop, hplace, hq, decrement, BlockingQueue.tryDequeue]
  | cons data queue =>
    cases hcancelled : s.queue.cancelled with
    | true =>
      simp only [tryDequeue, pop, hplace, hq, hmutex, hcancelled, decrement,
        BlockingQueue.tryDequeue, Option.isNone_none, Bool.not_true, Bool.and_false,
        Bool.false_eq_true, if_false, if_true]
    | false =>
      simp only [tryDequeue, pop, hplace, hq, hmutex, hcancelled, decrement, subtract, hsize,
        BlockingQueue.tryDequeue, Option.isNone_none, Bool.not_false, Bool.and_true,
        Bool.false_eq_true, if_false, if_true, Function.update_self]

/-! ## The counter -/

/-- Decrements have not overtaken increments, and the counter is their difference. -/
structure Tracks (s : QueueDepth τ) : Prop where
  le : s.decremented ≤ s.incremented
  approxSize : s.approxSize = (s.incremented - s.decremented) % uint64Size

omit [DecidableEq τ] in
lemma Tracks.congr (hs : Tracks s) {s' : QueueDepth τ} (hsize : s'.approxSize = s.approxSize)
    (hinc : s'.incremented = s.incremented) (hdec : s'.decremented = s.decremented) :
    Tracks s' where
  le := by rw [hinc, hdec]; exact hs.le
  approxSize := by rw [hsize, hinc, hdec]; exact hs.approxSize

lemma tracks_increment (hs : Tracks s) : Tracks (s.increment t) := by
  unfold increment
  split
  · refine ⟨Nat.le_succ_of_le hs.le, ?_⟩
    show (s.approxSize + 1) % uint64Size = (s.incremented + 1 - s.decremented) % uint64Size
    rw [hs.approxSize, Nat.mod_add_mod, Nat.sub_add_comm hs.le]
  · exact hs

lemma pred_mod {x m : ℕ} (hx : 0 < x) (hm : 0 < m) :
    (x - 1) % m = if x % m = 0 then m - 1 else x % m - 1 := by
  obtain ⟨y, rfl⟩ := Nat.exists_eq_succ_of_ne_zero hx.ne'
  have hlt := Nat.mod_lt y hm
  have hsucc : (y + 1) % m = (y % m + 1) % m := (Nat.mod_add_mod y m 1).symm
  show y % m = if (y + 1) % m = 0 then m - 1 else (y + 1) % m - 1
  by_cases hwrap : y % m + 1 = m
  · rw [hsucc, hwrap, Nat.mod_self, if_pos rfl]
    omega
  · have hmod : (y % m + 1) % m = y % m + 1 := Nat.mod_eq_of_lt (by omega)
    rw [hsucc, hmod, if_neg (Nat.succ_ne_zero _), Nat.add_sub_cancel]

/-- With an increment left to take back the counter goes down by one. -/
lemma tracks_subtract (hs : Tracks s) (h : s.decremented < s.incremented)
    (queueMutex : Option τ) : Tracks (s.subtract t queueMutex) := by
  have hpred := pred_mod (Nat.sub_pos_of_lt h) (Nat.two_pow_pos 64)
  refine ⟨h, ?_⟩
  show (if s.approxSize = 0 then uint64Size - 1 else s.approxSize - 1)
    = (s.incremented - (s.decremented + 1)) % uint64Size
  rw [hs.approxSize, Nat.sub_add_eq]
  exact hpred.symm

/-- A thread past its pop takes one off the counter, any other does nothing. -/
lemma decrement_eq (s : QueueDepth τ) (t : τ) :
    (s.decrements (.decrement t) = true ∧ ∃ m, s.decrement t = s.subtract t m)
      ∨ (s.decrements (.decrement t) = false ∧ s.decrement t = s) := by
  cases hp : s.place t with
  | popped result => exact Or.inl ⟨by simp only [decrements, hp], none, by simp only [decrement, hp]⟩
  | released result =>
    exact Or.inl ⟨by simp only [decrements, hp], s.queueMutex, by simp only [decrement, hp]⟩
  | idle => exact Or.inr ⟨by simp only [decrements, hp], by simp only [decrement, hp]⟩
  | enqueueing data => exact Or.inr ⟨by simp only [decrements, hp], by simp only [decrement, hp]⟩
  | pushed => exact Or.inr ⟨by simp only [decrements, hp], by simp only [decrement, hp]⟩

lemma step_of_decrements {e : Event τ} (h : s.decrements e = true) :
    ∃ t m, s.step e = s.subtract t m := by
  cases e with
  | decrement t =>
    rcases decrement_eq s t with ⟨_, m, hsub⟩ | ⟨hfalse, _⟩
    · exact ⟨t, m, hsub⟩
    · rw [hfalse] at h
      cases h
  | _ => cases h

lemma tracks_decrement (hs : Tracks s) (h : s.InOrder (.decrement t)) : Tracks (s.decrement t) := by
  rcases decrement_eq s t with ⟨hdec, m, hsub⟩ | ⟨_, hsame⟩
  · rw [hsub]
    exact tracks_subtract hs (h hdec) m
  · rw [hsame]
    exact hs

lemma tracks_pop (hs : Tracks s) (blocking : Bool) : Tracks (s.pop t blocking) := by
  unfold pop
  split
  · split_ifs <;> exact hs.congr rfl rfl rfl
  · exact hs

theorem tracks_step (hs : Tracks s) (e : Event τ) (h : s.InOrder e) : Tracks (s.step e) := by
  cases e with
  | startEnqueue t data =>
    show Tracks (s.startEnqueue t data)
    unfold startEnqueue
    split
    · exact hs.congr rfl rfl rfl
    · exact hs
  | push t =>
    show Tracks (s.push t)
    unfold push
    split
    · split_ifs
      · exact hs.congr rfl rfl rfl
      · exact hs
    · exact hs
  | increment t => exact tracks_increment hs
  | tryDequeue t => exact tracks_pop hs false
  | dequeue t => exact tracks_pop hs true
  | decrement t => exact tracks_decrement hs h
  | cancelWait =>
    show Tracks s.cancelWait
    unfold cancelWait
    split_ifs
    · exact hs.congr rfl rfl rfl
    · exact hs

/-! ## Counting calls and threads -/

/-- Whether a thread is in `enqueue`, and whether it is there past its push. -/
def Place.inEnqueue : Place → ℕ
  | .enqueueing _ | .pushed => 1
  | _ => 0

def Place.uncounted : Place → ℕ
  | .pushed => 1
  | _ => 0

variable [Fintype τ]

lemma sum_update {β : Type} (weight : β → ℕ) (place : τ → β) (t : τ) (v : β) :
    ∑ x, weight (Function.update place t v x) + weight (place t)
      = ∑ x, weight (place x) + weight v := by
  rw [← Finset.add_sum_erase _ _ (Finset.mem_univ t),
    ← Finset.add_sum_erase Finset.univ (fun x => weight (place x)) (Finset.mem_univ t),
    Function.update_self]
  have hsum : ∑ x ∈ Finset.univ.erase t, weight (Function.update place t v x)
      = ∑ x ∈ Finset.univ.erase t, weight (place x) := by
    apply Finset.sum_congr rfl
    intro x hx
    rw [Function.update_of_ne (Finset.ne_of_mem_erase hx)]
  rw [hsum]
  omega

/-- Every call that has started and not incremented is the call of a thread. -/
structure Counts (s : QueueDepth τ) : Prop where
  started : s.started = s.incremented + ∑ t, (s.place t).inEnqueue
  pushed : s.pushed = s.incremented + ∑ t, (s.place t).uncounted

omit [DecidableEq τ] in
lemma counts_init : Counts ({} : QueueDepth τ) where
  started := by
    show 0 = 0 + ∑ _ : τ, Place.inEnqueue .idle
    rw [Nat.zero_add]
    exact (Finset.sum_eq_zero fun _ _ => rfl).symm
  pushed := by
    show 0 = 0 + ∑ _ : τ, Place.uncounted .idle
    rw [Nat.zero_add]
    exact (Finset.sum_eq_zero fun _ _ => rfl).symm

/-- A step of one thread that accounts for what it does. -/
lemma Counts.move (hs : Counts s) {s' : QueueDepth τ} {v : Place}
    (hplace : s'.place = Function.update s.place t v)
    (hstarted : s'.started + s.incremented + (s.place t).inEnqueue
      = s.started + s'.incremented + v.inEnqueue)
    (hpushed : s'.pushed + s.incremented + (s.place t).uncounted
      = s.pushed + s'.incremented + v.uncounted) : Counts s' where
  started := by
    have hsum := sum_update Place.inEnqueue s.place t v
    have h := hs.started
    rw [hplace]
    omega
  pushed := by
    have hsum := sum_update Place.uncounted s.place t v
    have h := hs.pushed
    rw [hplace]
    omega

lemma counts_startEnqueue (hs : Counts s) (data : Packet) : Counts (s.startEnqueue t data) := by
  unfold startEnqueue
  split
  · rename_i hp
    refine hs.move rfl ?_ ?_
    · rw [hp]
      show s.started + 1 + s.incremented + 0 = s.started + s.incremented + 1
      omega
    · rw [hp]
      rfl
  · exact hs

lemma counts_push (hs : Counts s) : Counts (s.push t) := by
  unfold push
  split
  · rename_i data hp
    split_ifs
    · refine hs.move rfl ?_ ?_
      · rw [hp]
        rfl
      · rw [hp]
        show s.pushed + 1 + s.incremented + 0 = s.pushed + s.incremented + 1
        omega
    · exact hs
  · exact hs

lemma counts_increment (hs : Counts s) : Counts (s.increment t) := by
  unfold increment
  split
  · rename_i hp
    refine hs.move rfl ?_ ?_
    · rw [hp]
      show s.started + s.incremented + 1 = s.started + (s.incremented + 1) + 0
      omega
    · rw [hp]
      show s.pushed + s.incremented + 1 = s.pushed + (s.incremented + 1) + 0
      omega
  · exact hs

/-- The dequeuing operations are not counted here. -/
lemma Counts.dequeues (hs : Counts s) {s' : QueueDepth τ} {v : Place}
    (hplace : s'.place = Function.update s.place t v)
    (hold : (s.place t).inEnqueue = 0 ∧ (s.place t).uncounted = 0)
    (hnew : v.inEnqueue = 0 ∧ v.uncounted = 0) (hstarted : s'.started = s.started)
    (hpushed : s'.pushed = s.pushed) (hinc : s'.incremented = s.incremented) : Counts s' := by
  refine hs.move hplace ?_ ?_
  · rw [hstarted, hinc, hold.1, hnew.1]
  · rw [hpushed, hinc, hold.2, hnew.2]

lemma counts_pop (hs : Counts s) (blocking : Bool) : Counts (s.pop t blocking) := by
  unfold pop
  split
  · rename_i hp hq
    split_ifs
    · exact hs.dequeues rfl (by rw [hp]; exact ⟨rfl, rfl⟩) ⟨rfl, rfl⟩ rfl rfl rfl
    · exact hs.dequeues rfl (by rw [hp]; exact ⟨rfl, rfl⟩) ⟨rfl, rfl⟩ rfl rfl rfl
    · exact hs
  · exact hs

lemma counts_subtract (hs : Counts s) (h : (s.place t).inEnqueue = 0)
    (h' : (s.place t).uncounted = 0) (queueMutex : Option τ) : Counts (s.subtract t queueMutex) := by
  have hnew : Place.idle.inEnqueue = 0 ∧ Place.idle.uncounted = 0 := ⟨rfl, rfl⟩
  unfold subtract
  exact hs.dequeues rfl ⟨h, h'⟩ hnew rfl rfl rfl

lemma counts_decrement (hs : Counts s) : Counts (s.decrement t) := by
  unfold decrement
  split
  · rename_i hp
    exact counts_subtract hs (by rw [hp]; rfl) (by rw [hp]; rfl) none
  · rename_i hp
    exact counts_subtract hs (by rw [hp]; rfl) (by rw [hp]; rfl) s.queueMutex
  · exact hs

lemma counts_step (hs : Counts s) (e : Event τ) : Counts (s.step e) := by
  cases e with
  | startEnqueue t data => exact counts_startEnqueue hs data
  | push t => exact counts_push hs
  | increment t => exact counts_increment hs
  | tryDequeue t => exact counts_pop hs false
  | dequeue t => exact counts_pop hs true
  | decrement t => exact counts_decrement hs
  | cancelWait =>
    show Counts s.cancelWait
    unfold cancelWait
    split_ifs
    · exact ⟨hs.started, hs.pushed⟩
    · exact hs

omit [DecidableEq τ] in
lemma Counts.le_started (hs : Counts s) : s.incremented ≤ s.started := by
  have h := hs.started
  omega

omit [DecidableEq τ] in
lemma Counts.le_pushed (hs : Counts s) : s.incremented ≤ s.pushed := by
  have h := hs.pushed
  omega

omit [DecidableEq τ] in
lemma depthSound_of_tracks (hcounts : Counts s) (hs : Tracks s) : s.DepthSound := by
  have hle : s.approxSize + s.decremented ≤ s.incremented := by
    have h := Nat.mod_le (s.incremented - s.decremented) uint64Size
    have h' := hs.le
    rw [hs.approxSize]
    omega
  refine ⟨hle.trans hcounts.le_started, fun hdrop => ?_⟩
  have hdepth : sendQueueDropThreshold < s.approxSize := of_decide_eq_true hdrop
  have hpushed := hcounts.le_pushed
  omega

/-! ## Runs -/

variable {events : ℕ → Event τ} {n : ℕ}

lemma counts_stateAt (events : ℕ → Event τ) (n : ℕ) : Counts (stateAt events n) :=
  runState_invariant (Q := fun _ => True) counts_init (fun _ e _ hs => counts_step hs e)
    (fun _ => trivial) n

omit [Fintype τ] in
lemma tracks_stateAt (h : ∀ m < n, (stateAt events m).InOrder (events m)) :
    Tracks (stateAt events n) := by
  have hinit : Tracks ({} : QueueDepth τ) := ⟨le_rfl, rfl⟩
  exact runState_invariant_of_steps hinit (fun _ e h hs => tracks_step hs e h) h

/-- When every decrement has an increment of its own before it, the counter never says more
than the calls account for, and a packet is dropped only before a long queue. -/
theorem depthSound_of_inOrder (events : ℕ → Event τ) (n : ℕ)
    (h : ∀ m < n, (stateAt events m).InOrder (events m)) : (stateAt events n).DepthSound :=
  depthSound_of_tracks (counts_stateAt events n) (tracks_stateAt h)

omit [Fintype τ] in
/-- A decrement without an increment of its own shows at once, as long as the calls can be
counted in 64 bits. -/
theorem inOrder_of_depthSound (events : ℕ → Event τ) (n : ℕ)
    (hstarted : ∀ m ≤ n, (stateAt events m).started < uint64Size)
    (h : ∀ m ≤ n, (stateAt events m).DepthSound) :
    ∀ m < n, (stateAt events m).InOrder (events m) := by
  intro m
  induction m using Nat.strong_induction_on with
  | _ m ih =>
    intro hm hdec
    have htracks := tracks_stateAt fun k hk => ih k hk (hk.trans hm)
    by_contra hnot
    have hzero : (stateAt events m).approxSize = 0 := by
      have hle := htracks.le
      rw [htracks.approxSize, show (stateAt events m).incremented
        - (stateAt events m).decremented = 0 by omega, Nat.zero_mod]
    obtain ⟨t, mutex, hnext⟩ := step_of_decrements hdec
    have hnext : stateAt events (m + 1) = (stateAt events m).subtract t mutex := hnext
    have hsound := (h (m + 1) hm).1
    have hwrap : (stateAt events (m + 1)).approxSize = uint64Size - 1 := by
      rw [hnext]
      exact if_pos hzero
    have hpos : (stateAt events (m + 1)).decremented = (stateAt events m).decremented + 1 := by
      rw [hnext]
      rfl
    have hlt := hstarted (m + 1) hm
    omega

/-- The queue of two threads in step: nothing is dequeued before it is counted. -/
def countsFirst : List (Event (Fin 2)) :=
  [.startEnqueue 0 [7], .push 0, .increment 0, .tryDequeue 1, .decrement 1]

theorem depthSound_countsFirst :
    (stateAt (listInputs countsFirst .cancelWait) 5).decremented = 1
      ∧ (stateAt (listInputs countsFirst .cancelWait) 5).DepthSound := by
  have hall : allSteps step (fun s e => decide (s.InOrder e)) {} countsFirst = true := by decide
  refine ⟨by decide, depthSound_of_inOrder (listInputs countsFirst .cancelWait) 5 fun m hm => ?_⟩
  exact of_decide_eq_true (of_allSteps hall .cancelWait m hm)

/-- The send thread dequeues a packet between its push and its increment. -/
def dequeuesUncounted : List (Event (Fin 2)) :=
  [.startEnqueue 0 [7], .push 0, .tryDequeue 1, .decrement 1]

/-- The queue is empty, one packet has gone through it, and `send` would drop the next. -/
theorem drops_at_depth_zero :
    (stateAt (listInputs dequeuesUncounted .cancelWait) 4).queue.queue = []
      ∧ (stateAt (listInputs dequeuesUncounted .cancelWait) 4).started = 1
      ∧ (stateAt (listInputs dequeuesUncounted .cancelWait) 4).approxSize = uint64Size - 1
      ∧ (stateAt (listInputs dequeuesUncounted .cancelWait) 4).dropsPacket = true
      ∧ ¬(stateAt (listInputs dequeuesUncounted .cancelWait) 4).DepthSound := by
  unfold DepthSound
  decide

end QueueDepth
end TcpUdp
