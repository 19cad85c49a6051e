import TcpUdp.ReorderTheorems

/-!
# The gap timer

There is one timer for all gaps, and it follows the buffer, not the gap: it is stopped by a
skip and by an empty buffer only. Two things go wrong with that. A skip that delivers up to
a second gap leaves the buffer filled and the timer off, and if nothing new arrived the
thread then waits without a deadline (`untimedWait_empty_iff`). And when the awaited id
arrives while a second gap keeps the buffer filled, the second gap inherits the time that
was waited for the first (`blocked_for_timeout`).
-/

namespace TcpUdp
namespace Reorder

open Lib

variable {cfg : ReorderConfig} {s : Reorder} {tick : Tick}

/-! ## The wait without a deadline -/

lemma waitAfter_eq_untimed {it : Iteration} {now : ℤ} :
    waitAfter cfg it now = .untimed ↔ it.gotAny = false ∧ it.state.gapTimerActive = false := by
  unfold waitAfter
  dsimp only
  split_ifs with h1 h2 h3 <;> simp_all

/-- The timeout fires without news while an id is missing between two buffered ones. -/
structure StrandsBuffer (cfg : ReorderConfig) (s : Reorder) (tick : Tick) : Prop where
  noNews : ∀ item ∈ tick.arrivals, item.messageId < s.nextMessageId
  active : s.gapTimerActive = true
  expired : cfg.reorderTimeoutMs ≤ tick.gapNow - s.gapFirstSeen
  secondGap : ∃ k₁ ∈ s.receivedDataMap.keys, ∃ gap ∉ s.receivedDataMap.keys,
    ∃ k₂ ∈ s.receivedDataMap.keys, k₁ < gap ∧ gap < k₂

lemma kept_eq_nil_iff : s.kept tick.arrivals = []
    ↔ ∀ item ∈ tick.arrivals, item.messageId < s.nextMessageId := by
  simp only [kept, List.filter_eq_nil_iff, decide_eq_true_eq, not_le]

/-- Without news nothing happens before the gap check. -/
lemma beforeGap_of_noNews (h : Resting s) (hnews : s.kept tick.arrivals = []) :
    s.beforeGap tick = s := by
  have hdequeued : s.dequeued tick = s := by rw [dequeued_eq, hnews]; rfl
  rw [beforeGap, hdequeued, drain_of_stuck h.stuck]

/-- After an iteration without news the thread waits without a deadline on a filled buffer
exactly when the timeout fired with a second gap behind the first. -/
lemma stranded_iff (h : Resting s) : (((s.reorderIteration cfg tick).gotAny = false
      ∧ (s.reorderIteration cfg tick).state.gapTimerActive = false)
      ∧ (s.reorderIteration cfg tick).state.receivedDataMap.keys ≠ [])
    ↔ StrandsBuffer cfg s tick := by
  obtain ⟨hmap, -, hactive, -⟩ := state_eq cfg s tick
  rw [gotAny_eq, hmap, hactive]
  by_cases hnews : s.kept tick.arrivals = []
  swap
  · have hgot : (!(s.kept tick.arrivals).isEmpty) = true := by
      rw [Bool.not_eq_true', Bool.eq_false_iff]
      exact fun hempty => hnews (List.isEmpty_iff.mp hempty)
    rw [hgot]
    exact ⟨fun hleft => absurd hleft.1.1 (by decide), fun hs =>
      absurd (kept_eq_nil_iff.mpr hs.noNews) hnews⟩
  -- without news the gap check sees the state as it was left
  rw [hnews, beforeNotify, beforeGap_of_noNews h hnews]
  rcases checkGap_cases cfg s tick.gapNow with ⟨hempty, heq⟩ | ⟨-, hoff, heq⟩
    | ⟨-, hon, hearly, heq⟩ | ⟨hon, hexpired, skipTo, hmem, hmin, heq⟩
  · rw [heq]
    refine ⟨fun hleft => absurd hempty hleft.2, fun hs => ?_⟩
    obtain ⟨k, hk, -⟩ := hs.secondGap
    rw [hempty] at hk
    cases hk
  · rw [heq]
    exact ⟨fun hleft => absurd hleft.1.2 (by simp), fun hs =>
      absurd hs.active (by rw [hoff]; decide)⟩
  · rw [heq]
    exact ⟨fun hleft => absurd hleft.1.2 (by rw [hon]; decide), fun hs =>
      absurd hs.expired (not_le.mpr hearly)⟩
  · -- the skip: what is left behind a second gap is stranded
    have hahead := ahead_skipped h.ahead hmem hmin
    have hdrained := drained hahead
    rw [heq, hdrained.left_iff hahead]
    constructor
    · rintro ⟨-, gap, k, hle, hlt, hgap, hk⟩
      refine ⟨kept_eq_nil_iff.mp hnews, hon, hexpired, skipTo, hmem, gap, hgap, k, hk, ?_, hlt⟩
      exact lt_of_le_of_ne hle fun heq => hgap (heq ▸ hmem)
    · intro hs
      obtain ⟨k₁, hk₁, gap, hgap, k₂, hk₂, hlt₁, hlt₂⟩ := hs.secondGap
      refine ⟨⟨rfl, hdrained.gapTimerActive⟩, gap, k₂, ?_, hlt₂, hgap, hk₂⟩
      exact le_trans (hmin k₁ hk₁) (le_of_lt hlt₁)

/-- In every run: the thread enters the wait without a deadline with an empty buffer, if and
only if the timeout did not fire, without news, with a second gap behind the first. -/
theorem untimedWait_empty_iff {ticks : ℕ → Tick} (hids : IdsBelow uint64Size ticks) (n : ℕ) :
    (waitAfter cfg (iterationAt cfg ticks n) (ticks n).waitNow = .untimed →
        (iterationAt cfg ticks n).state.receivedDataMap.keys = [])
      ↔ ¬ StrandsBuffer cfg (stateAt cfg ticks n) (ticks n) := by
  rw [waitAfter_eq_untimed, ← stranded_iff (resting_stateAt _ hids n), iterationAt, not_and, not_not]

/-- Ids 1 and 3 arrive and nothing else does. -/
def twoGaps : ℕ → Tick := script
  [tickAt 0 [⟨1, [11], 0⟩, ⟨3, [13], 0⟩], tickAt 0 [], tickAt 4000 []] 4000

theorem untimedWait_empty_iff_twoGaps :
    StrandsBuffer {} (stateAt {} twoGaps 2) (twoGaps 2) := by
  by_contra h
  exact absurd ((untimedWait_empty_iff (idsBelow_script (by decide)) 2).mpr h (by decide))
    (by decide)

/-- After the skip to id 1, id 3 stays in the buffer and no timer runs. -/
theorem twoGaps_stranded :
    ¬ ∀ (cfg : ReorderConfig) (ticks : ℕ → Tick), IdsBelow uint64Size ticks →
      MonotoneClock ticks → ∀ n,
        waitAfter cfg (iterationAt cfg ticks n) (ticks n).waitNow = .untimed →
          (iterationAt cfg ticks n).state.receivedDataMap.keys = [] := by
  intro h
  exact absurd (h {} twoGaps (idsBelow_script (by decide)) (monotoneClock_script (by decide)) 2
    (by decide)) (by decide)

/-! ## The time a gap gets -/

/-- Buffered, or about to be: a copy that is not below the counter has arrived. -/
def Held (s : Reorder) (tick : Tick) (id : ℕ) : Prop :=
  id ∈ s.receivedDataMap.keys
    ∨ s.nextMessageId ≤ id ∧ ∃ item ∈ tick.arrivals, item.messageId = id

/-- The awaited id arrives while the timer runs, and a further id is missing below one that
is held. -/
structure InheritsTimer (s : Reorder) (tick : Tick) : Prop where
  active : s.gapTimerActive = true
  filled : ∃ item ∈ tick.arrivals, item.messageId = s.nextMessageId
  nextGap : ∃ gap k, s.nextMessageId ≤ gap ∧ gap < k ∧ ¬ Held s tick gap ∧ Held s tick k

/-- Delivery has been blocked at `m` with a filled buffer since some iteration before `n`,
for at least the reorder timeout when iteration `n` looks at the clock. -/
def BlockedForTimeout (cfg : ReorderConfig) (ticks : ℕ → Tick) (n m : ℕ) : Prop :=
  ∃ k < n, (∀ i, k < i → i ≤ n → (stateAt cfg ticks i).nextMessageId = m
      ∧ (stateAt cfg ticks i).receivedDataMap.keys ≠ [])
    ∧ cfg.reorderTimeoutMs ≤ (ticks n).gapNow - (ticks k).gapNow

/-- What is buffered after the first delivery pass comes with a missing id below it. -/
lemma beforeGap_left_iff (h : Resting s)
    (hids : ∀ item ∈ tick.arrivals, item.messageId < uint64Size) :
    (s.beforeGap tick).receivedDataMap.keys ≠ []
      ↔ ∃ gap k, s.nextMessageId ≤ gap ∧ gap < k ∧ ¬ Held s tick gap ∧ Held s tick k := by
  have hahead := ahead_dequeued h.ahead hids
  have hnext : (s.dequeued tick).nextMessageId = s.nextMessageId := by rw [dequeued_eq]
  rw [(drained_beforeGap hahead).left_iff hahead, hnext]
  simp only [mem_keys_dequeued, Held]

/-- While the timer runs, the counter moves only when the buffer runs empty or the next gap
inherits the timer. -/
lemma next_beforeGap (h : Resting s)
    (hids : ∀ item ∈ tick.arrivals, item.messageId < uint64Size)
    (hactive : s.gapTimerActive = true) (hinherit : ¬ InheritsTimer s tick)
    (hleft : (s.beforeGap tick).receivedDataMap.keys ≠ []) :
    (s.beforeGap tick).nextMessageId = s.nextMessageId := by
  have hahead := ahead_dequeued h.ahead hids
  have hdrained := drained_beforeGap hahead
  have hnext : (s.dequeued tick).nextMessageId = s.nextMessageId := by rw [dequeued_eq]
  cases hout : (s.dequeued tick).drainReceivedDataMap.1 with
  | nil =>
    rw [hdrained.next, hout, hnext, List.length_nil, Nat.add_zero,
      Nat.mod_eq_of_lt h.ahead.next_lt]
  | cons d out =>
    -- the awaited id was delivered, so it arrived in this iteration
    exfalso
    obtain ⟨item, hitem, hid⟩ := hdrained.mem_ids.mpr (show (s.dequeued tick).nextMessageId
        ≤ s.nextMessageId ∧ s.nextMessageId < (s.dequeued tick).nextMessageId
          + (s.dequeued tick).drainReceivedDataMap.1.length by
      rw [hnext, hout, List.length_cons]; omega)
    have hkey := (SortedMap.mem_keys_iff _).mpr ⟨_, hdrained.items item hitem⟩
    rw [hid, mem_keys_dequeued] at hkey
    have harrived := hkey.resolve_left fun hk => lt_irrefl _ (h.lt_of_mem_keys hk)
    exact hinherit ⟨hactive, harrived.2, (beforeGap_left_iff h hids).mp hleft⟩

/-- The phases before the gap check leave the timer alone. -/
lemma timer_beforeGap (h : Resting s)
    (hids : ∀ item ∈ tick.arrivals, item.messageId < uint64Size) :
    (s.beforeGap tick).gapTimerActive = s.gapTimerActive
      ∧ (s.beforeGap tick).gapFirstSeen = s.gapFirstSeen := by
  have hdrained := drained_beforeGap (ahead_dequeued h.ahead hids)
  rw [hdrained.gapTimerActive, hdrained.gapFirstSeen, dequeued_eq]
  exact ⟨rfl, rfl⟩

/-- A skip means that the timer was running, had expired, and that something was left behind
a missing id. -/
lemma skip_eq_some (h : Resting s)
    (hids : ∀ item ∈ tick.arrivals, item.messageId < uint64Size) {skip : Skip}
    (hskip : (s.reorderIteration cfg tick).skip = some skip) :
    s.gapTimerActive = true ∧ cfg.reorderTimeoutMs ≤ tick.gapNow - s.gapFirstSeen
      ∧ skip.missingStart = (s.beforeGap tick).nextMessageId
      ∧ (s.beforeGap tick).receivedDataMap.keys ≠ [] := by
  obtain ⟨htimer, hfirst⟩ := timer_beforeGap h hids
  have houtput : (s.reorderIteration cfg tick).skip
      = ((s.beforeGap tick).checkGap cfg tick.gapNow).2.2 := rfl
  rw [houtput] at hskip
  rcases checkGap_cases cfg (s.beforeGap tick) tick.gapNow with ⟨-, heq⟩ | ⟨-, -, heq⟩
    | ⟨-, -, -, heq⟩ | ⟨hon, hexpired, skipTo, hmem, -, heq⟩
  · rw [heq] at hskip; cases hskip
  · rw [heq] at hskip; cases hskip
  · rw [heq] at hskip; cases hskip
  · rw [heq] at hskip
    cases hskip
    exact ⟨htimer ▸ hon, hfirst ▸ hexpired, rfl, List.ne_nil_of_mem hmem⟩

/-- A timer that runs after the gap check was armed there, or was running before. Either way
no skip fired. -/
lemma timer_running (h : Resting s)
    (hids : ∀ item ∈ tick.arrivals, item.messageId < uint64Size)
    (hactive : (s.beforeNotify cfg tick).gapTimerActive = true) :
    (s.reorderIteration cfg tick).skip = none
      ∧ (s.beforeNotify cfg tick).nextMessageId = (s.beforeGap tick).nextMessageId
      ∧ (s.beforeGap tick).receivedDataMap.keys ≠ []
      ∧ ((s.gapTimerActive = false ∧ (s.beforeNotify cfg tick).gapFirstSeen = tick.gapNow)
        ∨ (s.gapTimerActive = true
          ∧ (s.beforeNotify cfg tick).gapFirstSeen = s.gapFirstSeen)) := by
  obtain ⟨htimer, hfirst⟩ := timer_beforeGap h hids
  have houtput : (s.reorderIteration cfg tick).skip
      = ((s.beforeGap tick).checkGap cfg tick.gapNow).2.2 := rfl
  rw [houtput]
  rw [beforeNotify] at hactive ⊢
  rcases checkGap_cases cfg (s.beforeGap tick) tick.gapNow with ⟨-, heq⟩ | ⟨hne, hoff, heq⟩
    | ⟨hne, hon, -, heq⟩ | ⟨-, -, skipTo, hmem, hmin, heq⟩
  · rw [heq] at hactive
    exact absurd hactive Bool.false_ne_true
  · rw [heq]
    exact ⟨rfl, rfl, hne, Or.inl ⟨htimer ▸ hoff, rfl⟩⟩
  · rw [heq]
    exact ⟨rfl, rfl, hne, Or.inr ⟨htimer ▸ hon, hfirst⟩⟩
  · -- a skip stops the timer, and the delivery after it does not start it
    rw [heq] at hactive
    have hahead := ahead_dequeued h.ahead hids
    have hskipped := ahead_skipped ((drained_beforeGap hahead).ahead hahead) hmem hmin
    rw [(drained hskipped).gapTimerActive] at hactive
    exact absurd hactive Bool.false_ne_true

section Run

variable {ticks : ℕ → Tick}

/-- A running timer was armed in an iteration since which delivery has been blocked at the
same id. -/
lemma armed_since (hids : IdsBelow uint64Size ticks) {n : ℕ}
    (hinherit : ∀ i < n, ¬ InheritsTimer (stateAt cfg ticks i) (ticks i))
    (hactive : (stateAt cfg ticks n).gapTimerActive = true) :
    ∃ k < n, (stateAt cfg ticks n).gapFirstSeen = (ticks k).gapNow ∧
      ∀ i, k < i → i ≤ n →
        (stateAt cfg ticks i).nextMessageId = (stateAt cfg ticks n).nextMessageId
          ∧ (stateAt cfg ticks i).receivedDataMap.keys ≠ [] := by
  induction n with
  | zero => exact absurd hactive (by simp [stateAt])
  | succ n ih =>
    have hrest := resting_stateAt cfg hids n
    have hfilled := (resting_stateAt cfg hids (n + 1)).timed hactive
    obtain ⟨-, hnext, htimer, hfirst⟩ := state_eq cfg (stateAt cfg ticks n) (ticks n)
    rw [← iterationAt, ← stateAt_succ] at hnext htimer hfirst
    rw [htimer] at hactive
    obtain ⟨-, hnext', hne, harmed⟩ := timer_running hrest (hids n) hactive
    -- the iterations before the last one, and the last one by itself
    have hlast : ∀ {k i}, k < i → i ≤ n + 1 → (k < i ∧ i ≤ n) ∨ i = n + 1 := by omega
    rcases harmed with ⟨-, hnow⟩ | ⟨hon, hseen'⟩
    · refine ⟨n, Nat.lt_succ_self n, hfirst.trans hnow, fun i hi hin => ?_⟩
      rw [show i = n + 1 by omega]
      exact ⟨rfl, hfilled⟩
    · have hsame := next_beforeGap hrest (hids n) hon (hinherit n (Nat.lt_succ_self n)) hne
      obtain ⟨k, hk, hseen, hblocked⟩ := ih (fun i hi => hinherit i (by omega)) hon
      refine ⟨k, by omega, by rw [hfirst, hseen', hseen], fun i hi hin => ?_⟩
      rcases hlast hi hin with ⟨hi, hin⟩ | rfl
      · rw [hnext, hnext', hsame]
        exact hblocked i hi hin
      · exact ⟨rfl, hfilled⟩

/-- As long as no gap inherits the timer of the gap before, a skip happens only after
delivery was blocked for the whole timeout at the id that is skipped. -/
theorem blocked_for_timeout (hids : IdsBelow uint64Size ticks) {n : ℕ} {skip : Skip}
    (hinherit : ∀ i ≤ n, ¬ InheritsTimer (stateAt cfg ticks i) (ticks i))
    (hskip : (iterationAt cfg ticks n).skip = some skip) :
    BlockedForTimeout cfg ticks n skip.missingStart := by
  have hrest := resting_stateAt cfg hids n
  obtain ⟨hon, hexpired, hstart, hleft⟩ := skip_eq_some hrest (hids n) hskip
  have hsame := next_beforeGap hrest (hids n) hon (hinherit n le_rfl) hleft
  obtain ⟨k, hk, hseen, hblocked⟩ := armed_since hids (fun i hi => hinherit i (le_of_lt hi)) hon
  rw [hstart, hsame]
  rw [hseen] at hexpired
  exact ⟨k, hk, hblocked, hexpired⟩

end Run

/-- Id 0 never arrives. -/
def neverFilled : ℕ → Tick := script [tickAt 0 [⟨1, [11], 0⟩], tickAt 4000 []] 4000

theorem blocked_for_timeout_neverFilled :
    (stateAt {} neverFilled 2).nextMessageId = 2 ∧ BlockedForTimeout {} neverFilled 1 0 := by
  have hskip : ∃ m, (iterationAt {} neverFilled 1).skip = some ⟨0, 1, m⟩ := ⟨_, rfl⟩
  obtain ⟨m, hskip⟩ := hskip
  refine ⟨by decide, blocked_for_timeout (idsBelow_script (by decide)) (fun i hi h => ?_) hskip⟩
  rcases Nat.le_one_iff_eq_zero_or_eq_one.mp hi with rfl | rfl
  · exact absurd h.active (by decide)
  · obtain ⟨item, hitem, -⟩ := h.filled
    cases hitem

/-- Id 0 arrives just before its timeout, together with id 3, and id 2 is skipped one
millisecond later. -/
def filledLate : ℕ → Tick := script
  [tickAt 0 [⟨1, [11], 0⟩], tickAt 3999 [⟨0, [10], 0⟩, ⟨3, [13], 0⟩], tickAt 4000 []] 4000

/-- The second gap gets what was left of the first one's timeout. -/
theorem filledLate_cut_short :
    ¬ ∀ (cfg : ReorderConfig) (ticks : ℕ → Tick), IdsBelow uint64Size ticks →
      MonotoneClock ticks → ∀ n skip, (iterationAt cfg ticks n).skip = some skip →
        BlockedForTimeout cfg ticks n skip.missingStart := by
  intro h
  obtain ⟨k, hk, hblocked, helapsed⟩ := h {} filledLate (idsBelow_script (by decide))
    (monotoneClock_script (by decide)) 2 ⟨2, 3, _⟩ rfl
  rcases Nat.le_one_iff_eq_zero_or_eq_one.mp (Nat.le_of_lt_succ hk) with rfl | rfl
  · exact absurd (hblocked 1 (by decide) (by decide)).1 (by decide)
  · exact absurd helapsed (by decide)

end Reorder
end TcpUdp
