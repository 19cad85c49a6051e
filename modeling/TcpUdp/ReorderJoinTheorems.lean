import TcpUdp.ReorderJoin

/-!
# When `close()` returns from the join

The flag is stored and the notification sent without `reorderMutex`. A thread that found
the predicate false just before the store is not woken by a notification that comes before
it is blocked: `hangs_of_fallingAsleep`. `inv_step` says that this is the only way: as long
as the notification does not fall there, a thread in its untimed wait that is to stop is
covered by a notification still to come.
-/

namespace TcpUdp
namespace ReorderJoin

open Lib

variable {cfg : ReorderConfig} {numQueues : ℕ} {s : ReorderJoin}

/-! ## The thread is the one of `Wakeup` -/

/-- The thread stands still or takes a step of `Wakeup`. -/
def ThreadMove (cfg : ReorderConfig) (numQueues : ℕ) (s s' : ReorderJoin) : Prop :=
  s'.thread = s.thread ∨ ∃ e, s'.thread = s.thread.step cfg numQueues e

lemma threadMove_waitStep (now notifyNow : ℤ) :
    ThreadMove cfg numQueues s (s.waitStep cfg numQueues now notifyNow) := by
  unfold waitStep
  split
  · exact Or.inl rfl
  · exact Or.inl rfl
  · exact Or.inr ⟨.reorder now notifyNow, rfl⟩
  · exact Or.inl rfl
  · exact Or.inl rfl

lemma threadMove_step (e : Event) : ThreadMove cfg numQueues s (s.step cfg numQueues e) := by
  cases e with
  | receive item =>
    show ThreadMove cfg numQueues s (s.receive numQueues item)
    unfold receive
    split_ifs
    · exact Or.inr ⟨.receive item, rfl⟩
    · exact Or.inl rfl
  | increment =>
    show ThreadMove cfg numQueues s s.increment
    unfold increment
    split_ifs
    · exact Or.inr ⟨.increment, rfl⟩
    · exact Or.inl rfl
  | ioNotify =>
    show ThreadMove cfg numQueues s s.ioNotify
    unfold ioNotify
    split_ifs <;> exact Or.inl rfl
  | ioEnd =>
    show ThreadMove cfg numQueues s s.ioEnd
    unfold ioEnd
    split_ifs <;> exact Or.inl rfl
  | reorder now notifyNow =>
    show ThreadMove cfg numQueues s (s.reorderStep cfg numQueues now notifyNow)
    unfold reorderStep
    split_ifs
    · exact threadMove_waitStep now notifyNow
    · exact Or.inr ⟨.reorder now notifyNow, rfl⟩
  | timeout =>
    show ThreadMove cfg numQueues s (s.timeout cfg numQueues)
    unfold timeout
    split_ifs
    · exact Or.inr ⟨.timeout, rfl⟩
    · exact Or.inl rfl
  | spurious => exact Or.inl rfl
  | closeStore =>
    show ThreadMove cfg numQueues s s.closeStore
    unfold closeStore
    split_ifs
    · exact Or.inr ⟨.stop, rfl⟩
    · exact Or.inl rfl
  | closeNotify =>
    show ThreadMove cfg numQueues s s.closeNotify
    unfold closeNotify
    split_ifs <;> exact Or.inl rfl
  | closeJoin =>
    show ThreadMove cfg numQueues s s.closeJoin
    unfold closeJoin
    split_ifs <;> exact Or.inl rfl

/-- What is true of the thread in every run of `Wakeup` is true of it here. -/
theorem thread_stateAt (wasOpen : Bool) (events : ℕ → Event) (n : ℕ) :
    ∃ u m, (stateAt cfg numQueues wasOpen events n).thread = Wakeup.stateAt cfg numQueues u m := by
  induction n with
  | zero => exact ⟨fun _ => .increment, 0, rfl⟩
  | succ n ih =>
    obtain ⟨u, m, hm⟩ := ih
    have hmove : ThreadMove cfg numQueues (stateAt cfg numQueues wasOpen events n)
        (stateAt cfg numQueues wasOpen events (n + 1)) := threadMove_step (events n)
    rcases hmove with h | ⟨e, h⟩
    · exact ⟨u, m, h.trans hm⟩
    · have hextend : ∃ v, v m = e ∧ runState (Wakeup.step cfg numQueues) {} v m
          = runState (Wakeup.step cfg numQueues) {} u m := exists_runState_extend u m e
      obtain ⟨v, hv, hrun⟩ := hextend
      refine ⟨v, m + 1, ?_⟩
      calc (stateAt cfg numQueues wasOpen events (n + 1)).thread
          = (Wakeup.stateAt cfg numQueues u m).step cfg numQueues e := by rw [h, hm]
        _ = (Wakeup.stateAt cfg numQueues v m).step cfg numQueues (v m) := by
          rw [hv, Wakeup.stateAt, Wakeup.stateAt, hrun]

/-! ## The invariant -/

/-- The thread is in its untimed wait although it is to stop. -/
def MustWake (s : ReorderJoin) : Prop :=
  s.thread.reorderRunning = false ∧ s.thread.pc = .untimedWait

structure Inv (s : ReorderJoin) : Prop where
  outside : s.thread.pc ≠ .timedWait → s.thread.pc ≠ .untimedWait → s.reorderCv.waiter = .outside
  call : s.closing ≠ .stored → s.reorderCv.call () = .idle
  covered : s.reorderCv.Covered s.MustWake

lemma inv_init (wasOpen : Bool) : Inv { wasOpen := wasOpen } where
  outside _ _ := rfl
  call _ := rfl
  covered := CondVar.Covered.of_not_sleeping (fun h => by cases h) (fun h => by cases h)

/-- Steps that leave the wait, `close()` and what the thread waits for alone. -/
lemma Inv.congr (hs : Inv s) {s' : ReorderJoin} (hpc : s'.thread.pc = s.thread.pc)
    (hrun : s'.thread.reorderRunning = s.thread.reorderRunning)
    (hcv : s'.reorderCv = s.reorderCv) (hclose : s'.closing = s.closing) : Inv s' where
  outside := by rw [hpc, hcv]; exact hs.outside
  call := by rw [hclose, hcv]; exact hs.call
  covered := by unfold MustWake; rw [hpc, hrun, hcv]; exact hs.covered

lemma Inv.wake (hs : Inv s) : Inv { s with reorderCv := s.reorderCv.wake } where
  outside h h' := CondVar.wake_waiter_outside (hs.outside h h')
  call h := by
    show s.reorderCv.wake.call () = .idle
    rw [CondVar.wake_call]
    exact hs.call h
  covered := hs.covered.wake

/-! ## What one step preserves -/

lemma thread_receive (numQueues : ℕ) (t : Wakeup) (item : DeliveryItem) :
    (t.processReceivedData numQueues item).pc = t.pc
      ∧ (t.processReceivedData numQueues item).reorderRunning = t.reorderRunning := by
  unfold Wakeup.processReceivedData
  split
  · exact ⟨rfl, rfl⟩
  · dsimp only
    split_ifs
    · split <;> exact ⟨rfl, rfl⟩
    · exact ⟨rfl, rfl⟩

lemma thread_increment (t : Wakeup) :
    t.increment.pc = t.pc ∧ t.increment.reorderRunning = t.reorderRunning := by
  unfold Wakeup.increment
  split <;> exact ⟨rfl, rfl⟩

lemma inv_receive (hs : Inv s) (item : DeliveryItem) : Inv (s.receive numQueues item) := by
  unfold receive
  split_ifs
  · have ⟨hpc, hrun⟩ := thread_receive numQueues s.thread item
    exact hs.congr hpc hrun rfl rfl
  · exact hs

lemma inv_increment (hs : Inv s) : Inv s.increment := by
  unfold increment
  split_ifs
  · have ⟨hpc, hrun⟩ := thread_increment s.thread
    exact hs.congr hpc hrun rfl rfl
  · exact hs

lemma inv_ioNotify (hs : Inv s) : Inv s.ioNotify := by
  unfold ioNotify
  split_ifs
  · exact hs.wake.congr rfl rfl rfl rfl
  · exact hs

lemma inv_ioEnd (hs : Inv s) : Inv s.ioEnd := by
  unfold ioEnd
  split_ifs
  · exact hs
  · exact hs.congr rfl rfl rfl rfl

/-- A thread outside its waits may go anywhere: it does not sleep. -/
lemma inv_running (hs : Inv s) (hw : s.reorderCv.waiter = .outside) (thread : Wakeup) :
    Inv { s with thread := thread } where
  outside _ _ := hw
  call := hs.call
  covered := by
    apply CondVar.Covered.of_not_sleeping
    · exact fun h => by cases hw.symm.trans h
    · exact fun h => by cases hw.symm.trans h

/-- Inside a wait the condition variable takes a step. -/
lemma inv_waiting (hs : Inv s) (hpc : s.thread.pc = .timedWait ∨ s.thread.pc = .untimedWait)
    {cv : CondVar Unit} (hcall : cv.call = s.reorderCv.call) (hcv : cv.Covered s.MustWake) :
    Inv { s with reorderCv := cv } where
  outside h h' := (hpc.elim h h').elim
  call h := by show cv.call () = .idle; rw [hcall]; exact hs.call h
  covered := hcv

/-- The thread falls asleep only when it is to run on. -/
lemma inv_evaluate (hs : Inv s) (hpc : s.thread.pc = .timedWait ∨ s.thread.pc = .untimedWait)
    (hw : s.reorderCv.waiter = .evaluating) (now notifyNow : ℤ) :
    Inv { s with
      reorderCv := s.reorderCv.evaluate s.thread.waitPredicate
      thread := s.thread.reorderStep cfg numQueues now notifyNow } := by
  have hwaiter := s.reorderCv.evaluate_waiter s.thread.waitPredicate hw
  have hcall := s.reorderCv.evaluate_call s.thread.waitPredicate
  by_cases hpred : s.thread.waitPredicate = true
  · rw [hpred, if_pos rfl] at hwaiter
    have hcv : (s.reorderCv.evaluate s.thread.waitPredicate).Covered s.MustWake := by
      rw [hpred]
      exact hs.covered.evaluate (fun h => by cases h)
    exact inv_running (inv_waiting hs hpc hcall hcv) (by rw [hpred]; exact hwaiter) _
  · have hstay : s.thread.reorderStep cfg numQueues now notifyNow = s.thread := by
      unfold Wakeup.reorderStep
      rcases hpc with h | h <;> rw [h] <;> exact if_neg hpred
    rw [hstay]
    refine inv_waiting hs hpc hcall (hs.covered.evaluate fun h hmust => ?_)
    rw [Wakeup.waitPredicate, hmust.1] at h
    cases Bool.or_eq_false_iff.mp h |>.2

lemma inv_reorderStep (hs : Inv s) (now notifyNow : ℤ) :
    Inv (s.reorderStep cfg numQueues now notifyNow) := by
  unfold reorderStep
  split_ifs with hpc
  · unfold waitStep
    split
    · exact inv_waiting hs hpc (CondVar.acquire_call _) hs.covered.acquire
    · exact inv_waiting hs hpc (CondVar.acquire_call _) hs.covered.acquire
    · exact inv_evaluate hs hpc (by assumption) now notifyNow
    · exact inv_waiting hs hpc (CondVar.block_call _) hs.covered.block
    · exact hs
  · rw [not_or] at hpc
    exact inv_running hs (hs.outside hpc.1 hpc.2) _

lemma inv_timeout (hs : Inv s) : Inv (s.timeout cfg numQueues) := by
  unfold timeout
  split_ifs with h
  · have hleave : Inv { s with reorderCv := s.reorderCv.leave } :=
      inv_waiting hs (Or.inl h.1) rfl CondVar.Covered.leave
    exact inv_running hleave rfl _
  · exact hs

lemma inv_closeStore (hs : Inv s) : Inv s.closeStore := by
  unfold closeStore
  split_ifs
  · exact ⟨hs.outside, fun h => absurd rfl h, CondVar.Covered.change⟩
  · exact hs

/-- The notification is sent without the mutex. -/
lemma inv_closeNotify (hs : Inv s) (h : s.NotifiesInTime .closeNotify) : Inv s.closeNotify := by
  unfold closeNotify
  split_ifs with hstored
  · refine ⟨fun h h' => ?_, fun _ => ?_, ?_⟩
    · exact hs.wake.outside h h'
    · show Function.update s.reorderCv.call () .idle () = .idle
      exact Function.update_self () _ _
    · exact CondVar.Covered.notify_unlocked fun hmust hw => h rfl hstored ⟨hmust.2, hw⟩
  · exact hs

lemma inv_closeJoin (hs : Inv s) : Inv s.closeJoin := by
  unfold closeJoin
  split_ifs with h
  · exact ⟨hs.outside, fun _ => hs.call (by rw [h.1]; exact fun h => by cases h), hs.covered⟩
  · exact hs

theorem inv_step (hs : Inv s) (e : Event) (h : s.NotifiesInTime e) :
    Inv (s.step cfg numQueues e) := by
  cases e with
  | receive item => exact inv_receive hs item
  | increment => exact inv_increment hs
  | ioNotify => exact inv_ioNotify hs
  | ioEnd => exact inv_ioEnd hs
  | reorder now notifyNow => exact inv_reorderStep hs now notifyNow
  | timeout => exact inv_timeout hs
  | spurious => exact hs.wake
  | closeStore => exact inv_closeStore hs
  | closeNotify => exact inv_closeNotify hs h
  | closeJoin => exact inv_closeJoin hs

/-! ## The join -/

/-- In a run in which the notification never comes between the thread's last look at the
predicate and its blocking, `close()` does not wait for a thread that sleeps. -/
theorem not_hangs_of_notifiesInTime (cfg : ReorderConfig) (numQueues : ℕ) (wasOpen : Bool)
    (events : ℕ → Event) (n : ℕ)
    (h : ∀ m < n, (stateAt cfg numQueues wasOpen events m).NotifiesInTime (events m)) :
    ¬(stateAt cfg numQueues wasOpen events n).Hangs := by
  intro ⟨hclosing, hrun, hpc, hw, _⟩
  have hs : Inv (stateAt cfg numQueues wasOpen events n) :=
    runState_invariant_of_steps (Q := fun s e => s.NotifiesInTime e) (inv_init wasOpen)
      (fun s e h hs => inv_step hs e h) h
  have hcall := hs.call (by rw [hclosing]; exact fun h => by cases h)
  exact hs.covered.not_of_blocked hw (fun _ => hcall) ⟨hrun, hpc⟩

/-- Every step of this run meets the condition: the thread is asleep before the store. -/
def closesAsleep : List Event :=
  List.replicate 9 (.reorder 0 0) ++ [.ioEnd, .closeStore, .closeNotify]

theorem not_hangs_closesAsleep :
    (stateAt {} 2 true (listInputs closesAsleep .ioEnd) 9).reorderCv.waiter = .blocked
      ∧ ¬(stateAt {} 2 true (listInputs closesAsleep .ioEnd) 12).Hangs := by
  refine ⟨by decide, ?_⟩
  refine not_hangs_of_notifiesInTime {} 2 true (listInputs closesAsleep .ioEnd) 12 fun m hm => ?_
  have hall : allSteps (step {} 2) (fun s _ => s.reorderCv.waiter ≠ .blocking
      || s.closing ≠ .stored) { wasOpen := true } closesAsleep = true := by decide
  intro _ hstored hasleep
  have h := of_allSteps hall .ioEnd m hm
  rw [show runState (step {} 2) { wasOpen := true } (listInputs closesAsleep .ioEnd) m
    = stateAt {} 2 true (listInputs closesAsleep .ioEnd) m from rfl, hasleep.2, hstored] at h
  cases h

/-- A notification that comes too early leaves `close()` in the join. -/
lemma hangs_of_fallingAsleep (hclosing : s.closing = .stored)
    (hrun : s.thread.reorderRunning = false) (hasleep : s.FallingAsleep) (hio : s.ioBusy = false)
    (now notifyNow : ℤ) :
    ((s.step cfg numQueues .closeNotify).step cfg numQueues (.reorder now notifyNow)).Hangs := by
  have ⟨hpc, hw⟩ := hasleep
  have hwake : s.reorderCv.wake = s.reorderCv :=
    s.reorderCv.wake_of_ne (by rw [hw]; exact fun h => by cases h)
  have hnotify : s.step cfg numQueues .closeNotify
      = { s with reorderCv := s.reorderCv.notify (), closing := .joining } := if_pos hclosing
  have hw' : (s.reorderCv.notify ()).waiter = .blocking := by
    show s.reorderCv.wake.waiter = _
    rw [hwake, hw]
  have hblock : (s.step cfg numQueues .closeNotify).step cfg numQueues (.reorder now notifyNow)
      = { s with reorderCv := (s.reorderCv.notify ()).block, closing := .joining } := by
    rw [hnotify, step, reorderStep, if_pos (Or.inr hpc), waitStep]
    simp only [hw']
  rw [hblock]
  refine ⟨rfl, hrun, hpc, ?_, hio⟩
  show (s.reorderCv.notify ()).block.waiter = .blocked
  rw [CondVar.block, if_pos hw']

/-- Once nobody notifies any more, only a spurious wake-up ends it. -/
lemma hangs_step (hs : s.Hangs) (hio : s.ioRunning = false) {e : Event} (he : e ≠ .spurious) :
    s.step cfg numQueues e = s := by
  obtain ⟨hclosing, _, hpc, hw, hbusy⟩ := hs
  have ⟨hnotifies, hidle⟩ := Bool.or_eq_false_iff.mp hbusy
  cases e with
  | receive item =>
    show s.receive numQueues item = s
    rw [receive, hio, Bool.false_and, if_neg Bool.false_ne_true]
  | increment => exact if_neg (of_decide_eq_false hidle)
  | ioNotify => exact if_neg (by rw [hnotifies]; exact Bool.false_ne_true)
  | ioEnd =>
    show s.ioEnd = s
    rw [ioEnd, hbusy, if_neg Bool.false_ne_true, ← hio]
  | reorder now notifyNow =>
    show s.reorderStep cfg numQueues now notifyNow = s
    rw [reorderStep, if_pos (Or.inr hpc), waitStep]
    simp only [hw]
  | timeout => exact if_neg (by rw [hpc]; exact fun h => by cases h.1)
  | spurious => exact absurd rfl he
  | closeStore => exact if_neg (by rw [hclosing]; exact fun h => by cases h.1)
  | closeNotify => exact if_neg (by rw [hclosing]; exact fun h => by cases h)
  | closeJoin => exact if_neg (by rw [hpc]; exact fun h => by cases h.2)

theorem hangs_forever {wasOpen : Bool} {events : ℕ → Event} {n : ℕ}
    (hs : (stateAt cfg numQueues wasOpen events n).Hangs)
    (hio : (stateAt cfg numQueues wasOpen events n).ioRunning = false)
    (h : ∀ m, n ≤ m → events m ≠ .spurious) (k : ℕ) :
    stateAt cfg numQueues wasOpen events (n + k) = stateAt cfg numQueues wasOpen events n := by
  induction k with
  | zero => rfl
  | succ k ih =>
    show (stateAt cfg numQueues wasOpen events (n + k)).step cfg numQueues (events (n + k)) = _
    rw [ih]
    exact hangs_step hs hio (h (n + k) (Nat.le_add_right n k))

/-- The thread has found the predicate false when the flag is stored, and blocks after the
notification. -/
def closesTooEarly : List Event :=
  List.replicate 8 (.reorder 0 0) ++ [.ioEnd, .closeStore, .closeNotify, .reorder 0 0]

theorem hangs_closesTooEarly :
    (stateAt {} 2 true (listInputs closesTooEarly .ioEnd) 12).Hangs
      ∧ (stateAt {} 2 true (listInputs closesTooEarly .ioEnd) 12).ioRunning = false := by
  unfold Hangs
  decide

end ReorderJoin
end TcpUdp
