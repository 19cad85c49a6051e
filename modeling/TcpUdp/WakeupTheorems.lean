import TcpUdp.Wakeup
import Mathlib.Tactic.IntervalCases

/-!
# When the reorder thread sleeps

The counter says how many items were counted, not which queues they are in. A load that
comes after an increment, but before the next look into that item's queue, makes the item
invisible to the wait predicate. `counted_dequeued` is what holds when no increment falls
there, and `sleeps_over_item` a run in which one does.

`iteration_stateAt` connects the machine to `Reorder`: what the interleaved thread does
between two visits of the loop head is one `Reorder.reorderIteration`.
-/

namespace TcpUdp
namespace Wakeup

open Lib

variable {cfg : ReorderConfig} {numQueues : ℕ} {s : Wakeup}

/-! ## Counting and dequeuing -/

/-- Between the load and the comparison the counter does not go back, and as long as it has
not moved everything counted has been dequeued. -/
structure Inv (numQueues : ℕ) (s : Wakeup) : Prop where
  lengths : ∀ i, s.enqueued i = s.dequeued i + (s.connReceiveQueues i).items.length
  pending : ∀ i position, s.io = .enqueued i position → i < numQueues ∧ position < s.enqueued i
  counted : ∀ item ∈ s.counted, item.1 < numQueues ∧ item.2 < s.enqueued item.1
  passed : ∀ item ∈ s.counted, s.PastQueue item.1 → s.Dequeued item
  loaded : s.ComparesLater → s.lastProcessedSeq ≤ s.reorderEnqueueSeq
    ∧ (s.lastProcessedSeq = s.reorderEnqueueSeq → ∀ item ∈ s.counted, s.Dequeued item)

lemma inv_init : Inv numQueues {} where
  lengths _ := rfl
  pending _ _ h := by cases h
  counted _ h := by cases h
  passed _ h := by cases h
  loaded h := by rcases h with h | h | h <;> cases h

/-- A step that changes neither the queues nor the counter, and goes to a place where
nothing is claimed or where the same is claimed as before. -/
lemma Inv.move (hs : Inv numQueues s) {s' : Wakeup}
    (hqueues : s'.connReceiveQueues = s.connReceiveQueues) (henq : s'.enqueued = s.enqueued)
    (hdeq : s'.dequeued = s.dequeued) (hcounted : s'.counted = s.counted) (hio : s'.io = s.io)
    (hseq : s'.reorderEnqueueSeq = s.reorderEnqueueSeq)
    (hlast : s'.lastProcessedSeq = s.lastProcessedSeq)
    (hpast : ∀ i, s'.PastQueue i → s.PastQueue i)
    (hcompares : s'.ComparesLater → s.ComparesLater) : Inv numQueues s' where
  lengths i := by rw [henq, hdeq, hqueues]; exact hs.lengths i
  pending := by rw [hio, henq]; exact hs.pending
  counted := by rw [hcounted, henq]; exact hs.counted
  passed item hitem h := by
    rw [Dequeued, hdeq]
    exact hs.passed item (hcounted ▸ hitem) (hpast _ h)
  loaded h := by
    rw [hseq, hlast, hcounted]
    simp only [Dequeued, hdeq]
    exact hs.loaded (hcompares h)

lemma inv_processReceivedData (hs : Inv numQueues s) (item : DeliveryItem) :
    Inv numQueues (s.processReceivedData numQueues item) := by
  rw [processReceivedData]
  split
  · exact hs
  · dsimp only
    split_ifs with hi
    · split
      · exact hs
      · rename_i queue hq
        have hitems := SpscQueue.tryEnqueue_eq_some hq
        have hmono : ∀ k, s.enqueued k
            ≤ Function.update s.enqueued item.sourceConnIndex.toNat
                (s.enqueued item.sourceConnIndex.toNat + 1) k := by
          intro k
          rw [Function.update_apply]
          split_ifs with hk
          · rw [hk]; omega
          · exact le_rfl
        refine ⟨fun k => ?_, fun k position h => ?_, fun it hit => ?_, hs.passed, hs.loaded⟩
        · dsimp only
          by_cases hk : k = item.sourceConnIndex.toNat
          · rw [hk, Function.update_self, Function.update_self, hitems, hs.lengths,
              List.length_append, List.length_singleton, Nat.add_assoc]
          · rw [Function.update_of_ne hk, Function.update_of_ne hk]
            exact hs.lengths k
        · cases h
          refine ⟨hi.2, ?_⟩
          dsimp only
          rw [Function.update_self]
          exact Nat.lt_succ_self _
        · have h := hs.counted it hit
          exact ⟨h.1, lt_of_lt_of_le h.2 (hmono it.1)⟩
    · exact hs

lemma inv_increment (hs : Inv numQueues s) (h : s.CountsInTime .increment) :
    Inv numQueues s.increment := by
  rw [increment]
  split
  · exact hs
  · rename_i i position hio
    have ⟨hpast, hwrap⟩ := h rfl i position hio
    refine ⟨hs.lengths, nofun, ?_, ?_, fun hlater => ?_⟩
    · intro item hitem
      rcases List.mem_cons.mp hitem with rfl | hitem
      · exact hs.pending i position hio
      · exact hs.counted item hitem
    · intro item hitem hp
      rcases List.mem_cons.mp hitem with rfl | hitem
      · exact hpast hp
      · exact hs.passed item hitem hp
    · -- the counter moves on past the value that was loaded
      have hle := (hs.loaded hlater).1
      have hlt := hwrap hlater
      dsimp only
      rw [Nat.mod_eq_of_lt hlt]
      exact ⟨by omega, fun heq => by omega⟩

lemma inv_drain (hs : Inv numQueues s) {i : ℕ} (hpc : s.pc = .draining i) :
    Inv numQueues (s.drain numQueues i) := by
  rw [drain]
  split_ifs with hi
  · split
    · -- queue `i` is empty, so what was counted in it is out
      rename_i hempty
      refine ⟨hs.lengths, hs.pending, hs.counted, ?_, fun h => ?_⟩
      · rintro item hitem ⟨j, hj, hlt⟩
        cases hj
        rcases Nat.lt_or_ge item.1 i with h | h
        · exact hs.passed item hitem ⟨i, hpc, h⟩
        · have hi' : item.1 = i := by omega
          have hlen := hs.lengths i
          have hcount := (hs.counted item hitem).2
          rw [SpscQueue.tryDequeue_eq_none hempty, List.length_nil] at hlen
          show item.2 < s.dequeued item.1
          rw [hi'] at hcount ⊢
          omega
      · rcases h with h | h | h <;> cases h
    · rename_i item queue hq
      have hitems := SpscQueue.tryDequeue_eq_some hq
      have hmono : ∀ k, s.dequeued k
          ≤ Function.update s.dequeued i (s.dequeued i + 1) k := by
        intro k
        rw [Function.update_apply]
        split_ifs with hk
        · rw [hk]; omega
        · exact le_rfl
      refine ⟨fun k => ?_, hs.pending, hs.counted, fun it hit h => ?_, fun h => ?_⟩
      · dsimp only
        by_cases hk : k = i
        · rw [hk, Function.update_self, Function.update_self, hs.lengths, hitems,
            List.length_cons]
          omega
        · rw [Function.update_of_ne hk, Function.update_of_ne hk]
          exact hs.lengths k
      · exact lt_of_lt_of_le (hs.passed it hit h) (hmono it.1)
      · rcases h with h | h | h <;> exact absurd (hpc.symm.trans h) (by simp)
  · -- the load: every queue has been passed
    refine ⟨hs.lengths, hs.pending, hs.counted, ?_, fun _ => ⟨le_rfl, fun _ item hitem => ?_⟩⟩
    · rintro item - ⟨j, hj, -⟩
      cases hj
    · exact hs.passed item hitem ⟨i, hpc, by have := (hs.counted item hitem).1; omega⟩

lemma inv_reorderStep (hs : Inv numQueues s) (now notifyNow : ℤ) :
    Inv numQueues (s.reorderStep cfg numQueues now notifyNow) := by
  rw [reorderStep]
  split
  · split_ifs
    · refine hs.move rfl rfl rfl rfl rfl rfl rfl ?_ ?_
      · rintro i ⟨j, hj, hlt⟩
        cases hj
        exact absurd hlt (Nat.not_lt_zero i)
      · rintro (h | h | h) <;> cases h
    · refine hs.move rfl rfl rfl rfl rfl rfl rfl ?_ ?_
      · rintro i ⟨j, hj, -⟩
        cases hj
      · rintro (h | h | h) <;> cases h
  · rename_i i hpc
    exact inv_drain hs hpc
  · rename_i hpc
    refine hs.move rfl rfl rfl rfl rfl rfl rfl ?_ fun _ => Or.inl hpc
    rintro i ⟨j, hj, -⟩
    cases hj
  · rename_i hpc
    refine hs.move rfl rfl rfl rfl rfl rfl rfl ?_ fun _ => Or.inr (Or.inl hpc)
    rintro i ⟨j, hj, -⟩
    exact absurd hj (by simp only [enterWait]; split_ifs <;> simp)
  all_goals try exact hs
  all_goals
    split_ifs
    · refine hs.move rfl rfl rfl rfl rfl rfl rfl ?_ ?_
      · rintro i ⟨j, hj, -⟩
        cases hj
      · rintro (h | h | h) <;> cases h
    · exact hs

lemma inv_step (hs : Inv numQueues s) (e : Event) (h : s.CountsInTime e) :
    Inv numQueues (step cfg numQueues s e) := by
  cases e with
  | receive item => exact inv_processReceivedData hs item
  | increment => exact inv_increment hs h
  | reorder now notifyNow => exact inv_reorderStep hs now notifyNow
  | timeout =>
    simp only [step]
    split_ifs
    · refine hs.move rfl rfl rfl rfl rfl rfl rfl ?_ ?_
      · rintro i ⟨j, hj, -⟩
        cases hj
      · rintro (h | h | h) <;> cases h
    · exact hs
  | stop => exact hs.move rfl rfl rfl rfl rfl rfl rfl (fun _ h => h) (fun h => h)

/-- A predicate that is false means that the counter has not moved since the load. -/
lemma Inv.dequeued_of_asleep (hs : Inv numQueues s) (h : s.Asleep) :
    ∀ item ∈ s.counted, s.Dequeued item := by
  obtain ⟨hpc, hpred⟩ := h
  obtain ⟨hle, hall⟩ := hs.loaded (Or.inr (Or.inr hpc))
  rw [waitPredicate, Bool.or_eq_false_iff, decide_eq_false_iff_not] at hpred
  exact hall (by omega)

/-- If every increment comes in time, the reorder thread sleeps only after everything that
was counted has been dequeued. -/
theorem counted_dequeued (cfg : ReorderConfig) (numQueues : ℕ) (events : ℕ → Event) (n : ℕ)
    (hsteps : ∀ m < n, (stateAt cfg numQueues events m).CountsInTime (events m))
    (hasleep : (stateAt cfg numQueues events n).Asleep) :
    ∀ item ∈ (stateAt cfg numQueues events n).counted,
      (stateAt cfg numQueues events n).Dequeued item := by
  have hinv : Inv numQueues (stateAt cfg numQueues events n) :=
    runState_invariant_of_steps inv_init (fun _ e h hs => inv_step hs e h) hsteps
  exact hinv.dequeued_of_asleep hasleep

/-- The given events, and after them the IO thread finds nothing to count. -/
def script (events : List Event) (n : ℕ) : Event := events.getD n .increment

/-- One queue: the item comes and is counted before the thread looks. -/
def countedBefore : ℕ → Event :=
  script ([.receive ⟨0, [7], 0⟩, .increment] ++ List.replicate 11 (.reorder 0 0))

lemma countsInTime_of_loopHead (h : s.pc = .loopHead) (e : Event) : s.CountsInTime e := by
  intro _ i position _
  constructor
  · rintro ⟨j, hj, -⟩
    exact absurd (h.symm.trans hj) (by simp)
  · rintro (hp | hp | hp) <;> exact absurd (h.symm.trans hp) (by simp)

theorem counted_dequeued_countedBefore :
    (stateAt {} 1 countedBefore 13).counted = [(0, 0)]
      ∧ (stateAt {} 1 countedBefore 13).Dequeued (0, 0) := by
  refine ⟨by decide, counted_dequeued {} 1 countedBefore 13 (fun m hm => ?_) ⟨rfl, rfl⟩ (0, 0)
    (by decide)⟩
  rcases Nat.lt_or_ge m 2 with h | h
  · apply countsInTime_of_loopHead
    interval_cases m <;> rfl
  · intro he
    interval_cases m <;> cases he

/-- One queue: the item comes and is counted between the last dequeue and the load. -/
def countedBetween : ℕ → Event :=
  script ([.reorder 0 0, .reorder 0 0, .receive ⟨0, [7], 0⟩, .increment]
    ++ List.replicate 3 (.reorder 0 0))

/-- The load has counted an item that is still in its queue. -/
theorem sleeps_over_item :
    ¬ ∀ (cfg : ReorderConfig) (numQueues : ℕ) (events : ℕ → Event) (n : ℕ),
      (stateAt cfg numQueues events n).Asleep → ∀ item ∈ (stateAt cfg numQueues events n).counted,
        (stateAt cfg numQueues events n).Dequeued item := by
  intro h
  exact absurd (h {} 1 countedBetween 7 ⟨rfl, rfl⟩ (0, 0) (by decide)) (Nat.lt_irrefl 0)

/-! ## Iterations of the machine are iterations of `Reorder` -/

/-- `r` is the state of a channel after some number of iterations. -/
def Reached (cfg : ReorderConfig) (r : Reorder) : Prop :=
  ∃ ticks n, Reorder.stateAt cfg ticks n = r

/-- The iteration after a reached state is iteration `n` of a run. -/
lemma Reached.exists_iterationAt {r : Reorder} (hr : Reached cfg r) (tick : Tick) :
    ∃ ticks n, ticks n = tick ∧ Reorder.iterationAt cfg ticks n = r.reorderIteration cfg tick := by
  obtain ⟨u, n, rfl⟩ := hr
  obtain ⟨ticks, htick, hstate⟩ := exists_runState_extend u n tick
  refine ⟨ticks, n, htick, ?_⟩
  rw [Reorder.iterationAt, htick, Reorder.stateAt, hstate]
  rfl

lemma Reached.iterate {r : Reorder} (hr : Reached cfg r) (tick : Tick) :
    Reached cfg (r.reorderIteration cfg tick).state := by
  obtain ⟨ticks, n, -, h⟩ := hr.exists_iterationAt tick
  exact ⟨ticks, n + 1, by rw [Reorder.stateAt_succ, h]⟩

/-- `tick` with the iteration's start gives what the thread has computed. -/
def Follows (cfg : ReorderConfig) (s : Wakeup) (tick : Tick) : Prop :=
  tick.arrivals = s.arrivals
    ∧ (s.iterationStart.reorderIteration cfg tick).state = s.reorder
    ∧ (s.iterationStart.reorderIteration cfg tick).gotAny = s.gotAny

/-- What the place in the loop says about the iteration. -/
def Iterating (cfg : ReorderConfig) (s : Wakeup) : Prop :=
  match s.pc with
  | .loopHead | .stopped => Reached cfg s.reorder
  | .draining _ | .processing => Reached cfg s.iterationStart
      ∧ s.iterationStart.absorbAll s.arrivals = (s.reorder, s.gotAny)
  | .beforeWait | .timedWait => Reached cfg s.iterationStart ∧ ∃ tick, Follows cfg s tick
  | .untimedWait => (Reached cfg s.iterationStart ∧ ∃ tick, Follows cfg s tick)
      ∧ s.gotAny = false ∧ s.reorder.gapTimerActive = false

lemma iterating_init : Iterating cfg {} := ⟨fun _ => {}, 0, rfl⟩

/-- Only the fields of the reorder thread matter. -/
lemma Iterating.congr (hs : Iterating cfg s) {s' : Wakeup} (hpc : s'.pc = s.pc)
    (hreorder : s'.reorder = s.reorder) (hgot : s'.gotAny = s.gotAny)
    (hstart : s'.iterationStart = s.iterationStart) (harr : s'.arrivals = s.arrivals) :
    Iterating cfg s' := by
  rw [Iterating] at hs ⊢
  simp only [Follows, hpc, hreorder, hgot, hstart, harr] at hs ⊢
  exact hs

lemma reached_of_follows (h : Reached cfg s.iterationStart ∧ ∃ tick, Follows cfg s tick) :
    Reached cfg s.reorder := by
  obtain ⟨hstart, tick, -, hstate, -⟩ := h
  exact hstate ▸ hstart.iterate tick

lemma iterating_drain (hs : Iterating cfg s) {i : ℕ} (hpc : s.pc = .draining i) :
    Iterating cfg (s.drain numQueues i) := by
  simp only [Iterating, hpc] at hs
  obtain ⟨hstart, habsorb⟩ := hs
  rw [drain]
  split_ifs
  · split
    · exact ⟨hstart, habsorb⟩
    · rename_i item queue _
      simp only [Iterating, hpc]
      refine ⟨hstart, ?_⟩
      rw [Reorder.absorbAll] at habsorb ⊢
      rw [List.foldl_append, habsorb]
      rfl
  · exact ⟨hstart, habsorb⟩

lemma iterating_process (hs : Iterating cfg s) (hpc : s.pc = .processing) (gapNow notifyNow : ℤ) :
    Iterating cfg (s.process cfg gapNow notifyNow) := by
  simp only [Iterating, hpc] at hs
  obtain ⟨hstart, habsorb⟩ := hs
  refine ⟨hstart, ⟨s.arrivals, gapNow, notifyNow, 0⟩, rfl, ?_, ?_⟩
  · simp only [Reorder.reorderIteration, process, habsorb]
  · simp only [Reorder.reorderIteration, process, habsorb]

lemma iterating_enterWait (hs : Iterating cfg s) (hpc : s.pc = .beforeWait) (now : ℤ) :
    Iterating cfg { s with pc := s.enterWait cfg now } := by
  simp only [Iterating, hpc] at hs
  have hreached := reached_of_follows hs
  rw [Iterating, enterWait]
  split_ifs with hgot htimer hleft
  · exact hreached
  · exact hs
  · exact hreached
  · exact ⟨hs, by simpa using hgot, by simpa using htimer⟩

lemma iterating_reorderStep (hs : Iterating cfg s) (now notifyNow : ℤ) :
    Iterating cfg (s.reorderStep cfg numQueues now notifyNow) := by
  rw [reorderStep]
  split
  · rename_i hpc
    simp only [Iterating, hpc] at hs
    split_ifs
    · exact ⟨hs, rfl⟩
    · exact hs
  · rename_i hpc
    exact iterating_drain hs hpc
  · rename_i hpc
    exact iterating_process hs hpc now notifyNow
  · rename_i hpc
    exact iterating_enterWait hs hpc now
  · rename_i hpc
    split_ifs
    · simp only [Iterating, hpc] at hs
      exact reached_of_follows hs
    · exact hs
  · rename_i hpc
    split_ifs
    · simp only [Iterating, hpc] at hs
      exact reached_of_follows hs.1
    · exact hs
  · exact hs

lemma iterating_step (hs : Iterating cfg s) (e : Event) :
    Iterating cfg (step cfg numQueues s e) := by
  cases e with
  | receive item =>
    simp only [step, processReceivedData]
    split
    · exact hs
    · split_ifs
      · split
        · exact hs
        · exact hs.congr rfl rfl rfl rfl rfl
      · exact hs
  | increment =>
    simp only [step, increment]
    split
    · exact hs
    · exact hs.congr rfl rfl rfl rfl rfl
  | reorder now notifyNow => exact iterating_reorderStep hs now notifyNow
  | timeout =>
    simp only [step]
    split_ifs with hpc
    · simp only [Iterating, hpc] at hs
      exact reached_of_follows hs
    · exact hs
  | stop => exact hs.congr rfl rfl rfl rfl rfl

/-- A thread that waits without a deadline has done an iteration of `Reorder`, with what it
dequeued as the arrivals, and waits as `Reorder.waitAfter` says. -/
theorem iteration_of_untimedWait (cfg : ReorderConfig) (numQueues : ℕ) (events : ℕ → Event)
    (n : ℕ) (hpc : (stateAt cfg numQueues events n).pc = .untimedWait) :
    ∃ ticks k, (ticks k).arrivals = (stateAt cfg numQueues events n).arrivals
      ∧ Reorder.stateAt cfg ticks (k + 1) = (stateAt cfg numQueues events n).reorder
      ∧ Reorder.waitAfter cfg (Reorder.iterationAt cfg ticks k) (ticks k).waitNow = .untimed := by
  have hs : Iterating cfg (stateAt cfg numQueues events n) :=
    runState_invariant iterating_init (fun _ e _ hs => iterating_step hs e)
      (Q := fun _ => True) (fun _ => trivial) n
  simp only [Iterating, hpc] at hs
  obtain ⟨⟨hstart, tick, harr, hstate, hgot⟩, hnews, htimer⟩ := hs
  obtain ⟨ticks, k, htick, hit⟩ := hstart.exists_iterationAt tick
  refine ⟨ticks, k, by rw [htick, harr], by rw [Reorder.stateAt_succ, hit, hstate], ?_⟩
  rw [Reorder.waitAfter, hit, hgot, hnews, hstate, htimer]
  rfl

end Wakeup
end TcpUdp
