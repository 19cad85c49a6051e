import TcpUdp.SendWaker

/-!
# The send thread does not sleep over its work

Only the send thread dequeues, and not while it waits. What makes the predicate true during
its wait is therefore an increment or the stored flag, and the call that did it passes
`waker->mtx` before it notifies: `Lib.CondVar.Covered`.
-/

namespace TcpUdp
namespace SendWaker

open Lib

variable {τ : Type} {s : SendWaker τ}

/-! ## The invariant -/

structure Inv (s : SendWaker τ) : Prop where
  outside : s.pc ≠ .idleWait → s.waker.waiter = .outside
  covered : s.waker.Covered (s.waitPredicate = true)

lemma inv_init : Inv ({} : SendWaker τ) where
  outside _ := rfl
  covered := CondVar.Covered.of_not_sleeping (fun h => by cases h) (fun h => by cases h)

/-- Outside the wait the thread may do anything to its queues: it does not sleep. -/
lemma inv_awake (hw : s.waker.waiter = .outside) : Inv s where
  outside _ := hw
  covered := by
    apply CondVar.Covered.of_not_sleeping
    · exact fun h => by cases hw.symm.trans h
    · exact fun h => by cases hw.symm.trans h

/-- Inside the wait the condition variable takes a step. -/
lemma inv_waiting (hpc : s.pc = .idleWait) {waker : CondVar τ}
    (h : waker.Covered (s.waitPredicate = true)) : Inv { s with waker := waker } where
  outside hne := absurd hpc hne
  covered := h

/-- A step of the condition variable that takes nobody out of the wait but a blocked thread. -/
lemma inv_waker (hs : Inv s) {waker : CondVar τ} (hcovered : waker.Covered (s.waitPredicate = true))
    (hw : s.waker.waiter = .outside → waker.waiter = .outside) : Inv { s with waker := waker } where
  outside h := hw (hs.outside h)
  covered := hcovered

/-- A step on a queue that leaves its counter alone. -/
lemma inv_setQueue (hs : Inv s) (which : Which) {queue : QueueDepth τ}
    (h : queue.approxSize = (s.queue which).approxSize) : Inv (s.setQueue which queue) := by
  have hpred : (s.setQueue which queue).waitPredicate = s.waitPredicate := by
    cases which with
    | sendQueue => show (!s.running || decide (0 < queue.approxSize) || _) = _; rw [h]; rfl
    | resendQueue => show (!s.running || _ || (_ && decide (0 < queue.approxSize))) = _; rw [h]; rfl
  have hwaker : (s.setQueue which queue).waker = s.waker := by cases which <;> rfl
  have hpc : (s.setQueue which queue).pc = s.pc := by cases which <;> rfl
  refine ⟨?_, ?_⟩
  · rw [hpc, hwaker]
    exact hs.outside
  · rw [hpred, hwaker]
    exact hs.covered

variable [DecidableEq τ] {sender : τ}

/-! ## The send thread -/

lemma resendStep_waker (resendBatch : ℕ) : (s.resendStep sender resendBatch).waker = s.waker := by
  unfold resendStep
  split
  · rfl
  · split_ifs
    · dsimp only
      split <;> rfl
    · rfl

lemma takeStep_waker : (s.takeStep sender).waker = s.waker := by
  unfold takeStep
  split
  · rfl
  · rfl
  · dsimp only
    split <;> rfl

omit [DecidableEq τ] in
lemma inv_waitStep (hs : Inv s) (hpc : s.pc = .idleWait) : Inv s.waitStep := by
  unfold waitStep
  split
  · exact inv_waiting hpc hs.covered.acquire
  · exact inv_waiting hpc hs.covered.acquire
  · rename_i hw
    by_cases hpred : s.waitPredicate = true
    · refine inv_awake ?_
      show (s.waker.evaluate s.waitPredicate).waiter = .outside
      rw [s.waker.evaluate_waiter _ hw, if_pos hpred]
    · refine ⟨fun hne => absurd (if_neg hpred) hne, ?_⟩
      exact hs.covered.evaluate fun _ => hpred
  · exact inv_waiting hpc hs.covered.block
  · exact hs

lemma inv_senderStep (hs : Inv s) (anyResendAlive allFail : Bool) :
    Inv (s.senderStep sender anyResendAlive allFail) := by
  unfold senderStep
  split
  · rename_i hpc
    have hw := hs.outside (by rw [hpc]; exact fun h => by cases h)
    split_ifs <;> exact inv_awake hw
  · rename_i resendBatch hpc
    have hw := hs.outside (by rw [hpc]; exact fun h => by cases h)
    exact inv_awake (by rw [resendStep_waker]; exact hw)
  · rename_i hpc
    have hw := hs.outside (by rw [hpc]; exact fun h => by cases h)
    exact inv_awake (by rw [takeStep_waker]; exact hw)
  · rename_i hpc
    have hw := hs.outside (by rw [hpc]; exact fun h => by cases h)
    split_ifs <;> exact inv_awake hw
  · rename_i hpc
    exact inv_waitStep hs hpc
  · exact hs

/-! ## The calls -/

/-- A change is covered by the call that makes it. -/
lemma inv_change (hs : Inv s) {s' : SendWaker τ} {t : τ} (hpc : s'.pc = s.pc)
    (hwaker : s'.waker = s.waker.change t) : Inv s' where
  outside := by rw [hpc, hwaker]; exact hs.outside
  covered := by rw [hwaker]; exact CondVar.Covered.change

lemma inv_increment (hs : Inv s) (which : Which) (t : τ) : Inv (s.increment which t) := by
  unfold increment
  split
  · refine inv_change hs ?_ rfl
    cases which <;> rfl
  · exact hs

lemma inv_stop (hs : Inv s) (t : τ) : Inv (s.stop sender t) := by
  unfold stop
  split_ifs
  · exact inv_change hs rfl rfl
  · exact hs

lemma inv_notify (hs : Inv s) (t : τ) : Inv (s.notify t) := by
  unfold notify
  split_ifs with hpassed
  · exact inv_waker hs (hs.covered.notify hpassed) CondVar.wake_waiter_outside
  · exact hs

lemma startEnqueue_approxSize (queue : QueueDepth τ) (t : τ) (data : Packet) :
    (queue.startEnqueue t data).approxSize = queue.approxSize := by
  unfold QueueDepth.startEnqueue
  split <;> rfl

lemma push_approxSize (queue : QueueDepth τ) (t : τ) :
    (queue.push t).approxSize = queue.approxSize := by
  unfold QueueDepth.push
  split
  · split_ifs <;> rfl
  · rfl

omit [DecidableEq τ] in
lemma cancelWait_approxSize (queue : QueueDepth τ) :
    queue.cancelWait.approxSize = queue.approxSize := by
  unfold QueueDepth.cancelWait
  split_ifs <;> rfl

theorem inv_step (hs : Inv s) (e : Event τ) : Inv (s.step sender e) := by
  cases e with
  | sender anyResendAlive allFail => exact inv_senderStep hs anyResendAlive allFail
  | spurious => exact inv_waker hs hs.covered.wake CondVar.wake_waiter_outside
  | startEnqueue which t data =>
    show Inv (s.startEnqueue sender which t data)
    unfold startEnqueue
    split_ifs
    · exact inv_setQueue hs which (startEnqueue_approxSize _ t data)
    · exact hs
  | push which t => exact inv_setQueue hs which (push_approxSize _ t)
  | increment which t => exact inv_increment hs which t
  | stop t => exact inv_stop hs t
  | lock t => exact inv_waker hs hs.covered.lock (by rw [CondVar.lock_waiter]; exact id)
  | unlock t => exact inv_waker hs hs.covered.unlock (by rw [CondVar.unlock_waiter]; exact id)
  | notify t => exact inv_notify hs t
  | cancelWait which => exact inv_setQueue hs which (cancelWait_approxSize _)

/-! ## Runs -/

theorem not_sleepsOverWork (sender : τ) (events : ℕ → Event τ) (n : ℕ) :
    ¬(stateAt sender events n).SleepsOverWork := by
  intro ⟨hblocked, hcalls, hwork⟩
  have hs : Inv (stateAt sender events n) :=
    runState_invariant (Q := fun _ => True) inv_init (fun _ e _ hs => inv_step hs e)
      (fun _ => trivial) n
  have hidle : ∀ t, (stateAt sender events n).waker.call t = .idle := fun t =>
    by_contra fun h => hcalls t (Or.inr (Or.inr h))
  apply hs.covered.not_of_blocked hblocked hidle
  rw [waitPredicate, Bool.or_eq_true, Bool.or_eq_true, Bool.not_eq_true', Bool.and_eq_true,
    decide_eq_true_iff, decide_eq_true_iff, or_assoc]
  exact hwork

/-- The thread goes to sleep, and an enqueue wakes it. -/
example :
    let asleep := List.replicate 5 (Event.sender false false)
    let enqueues := [Event.startEnqueue .sendQueue 1 [7], .push .sendQueue 1,
      .increment .sendQueue 1, .lock 1, .unlock 1, .notify (1 : Fin 2)]
    (stateAt 0 (listInputs (asleep ++ enqueues) .spurious) 5).waker.waiter = .blocked
      ∧ (stateAt 0 (listInputs (asleep ++ enqueues) .spurious) 11).waker.waiter = .woken := by
  decide

end SendWaker
end TcpUdp
