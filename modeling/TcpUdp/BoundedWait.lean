import TcpUdp.GapTimer
import Mathlib.Data.Finset.Interval
import Mathlib.Order.Interval.Finset.Nat
import Mathlib.Tactic.IntervalCases

/-!
# How long a buffered packet waits

A packet in the buffer is never skipped. It waits as long as ids below it are missing, and each of
them can hold it up for one firing of the reorder timeout at most: if the thread comes back in
time, and does not go to sleep over the buffer, the packet is delivered within that time
(`delivered_in_time`).
-/

namespace TcpUdp

/-- The packet that is buffered under `id`. -/
def ReceivedItem.delivery (item : ReceivedItem) (id : ℕ) : DeliveryItem :=
  ⟨id, item.data, item.sourceConnIndex⟩

namespace Reorder

open Lib

variable {cfg : ReorderConfig} {s s' : Reorder} {tick : Tick} {id : ℕ}

/-! ## A buffered packet stays or is delivered -/

lemma Drained.kept_or_delivered {out : List DeliveryItem} (h : Drained s out s')
    {item : ReceivedItem} (hitem : s.receivedDataMap.find? id = some item) :
    s'.receivedDataMap.find? id = some item ∨ item.delivery id ∈ out := by
  by_cases hid : s.nextMessageId ≤ id ∧ id < s.nextMessageId + out.length
  · right
    obtain ⟨d, hd, rfl⟩ := h.mem_ids.mpr hid
    have hsame := h.items d hd
    rw [hitem] at hsame
    obtain rfl := Option.some.inj hsame
    exact hd
  · left
    rw [h.find?, if_neg hid, hitem]

lemma find?_dequeued {item : ReceivedItem} (hitem : s.receivedDataMap.find? id = some item) :
    (s.dequeued tick).receivedDataMap.find? id = some item := by
  rw [dequeued_eq, find?_emplaceAll, hitem, Option.some_or]

/-- What is buffered when the queues have been drained is buffered after the iteration, or is
delivered in it. -/
lemma kept_or_delivered (cfg : ReorderConfig) (h : Resting s)
    (hids : ∀ item ∈ tick.arrivals, item.messageId < uint64Size) {item : ReceivedItem}
    (hitem : (s.dequeued tick).receivedDataMap.find? id = some item) :
    (s.step cfg tick).receivedDataMap.find? id = some item
      ∨ item.delivery id ∈ (s.reorderIteration cfg tick).delivered := by
  have hahead := ahead_dequeued h.ahead hids
  have hdrained := drained_beforeGap hahead
  have hmap : (s.step cfg tick).receivedDataMap = (s.beforeNotify cfg tick).receivedDataMap :=
    (state_eq cfg s tick).1
  have hdelivered : (s.reorderIteration cfg tick).delivered
      = (s.dequeued tick).drainReceivedDataMap.1
        ++ ((s.beforeGap tick).checkGap cfg tick.gapNow).2.1 := rfl
  rw [hmap, hdelivered, List.mem_append]
  rcases hdrained.kept_or_delivered hitem with hkept | hout
  swap
  · exact Or.inr (Or.inl hout)
  rw [beforeNotify]
  rcases checkGap_cases cfg (s.beforeGap tick) tick.gapNow with ⟨-, heq⟩ | ⟨-, -, heq⟩
    | ⟨-, -, -, heq⟩ | ⟨-, -, skipTo, hmem, hmin, heq⟩
  · rw [heq]
    exact Or.inl hkept
  · rw [heq]
    exact Or.inl hkept
  · rw [heq]
    exact Or.inl hkept
  · rw [heq]
    -- the skip goes to the first buffered id, so it leaves nothing out that is buffered
    have hskipped := ahead_skipped (hdrained.ahead hahead) hmem hmin
    exact ((drained hskipped).kept_or_delivered hkept).imp_right Or.inr

/-! ## The missing ids below it -/

/-- The ids below `id` that have still to come. -/
def missingBelow (s : Reorder) (id : ℕ) : Finset ℕ :=
  (Finset.Ico s.nextMessageId id).filter fun i => i ∉ s.receivedDataMap.keys

lemma mem_missingBelow {i : ℕ} : i ∈ s.missingBelow id
    ↔ (s.nextMessageId ≤ i ∧ i < id) ∧ i ∉ s.receivedDataMap.keys := by
  rw [missingBelow, Finset.mem_filter, Finset.mem_Ico]

/-- Delivering changes nothing about them. -/
lemma Drained.missingBelow_eq {out : List DeliveryItem} (hs : Ahead s) (h : Drained s out s')
    (hid : id ∈ s'.receivedDataMap.keys) : s'.missingBelow id = s.missingBelow id := by
  obtain ⟨hnext, -⟩ := h.le_of_mem_keys hs hid
  have hpresent : ∀ i, s.nextMessageId ≤ i → i < s.nextMessageId + out.length →
      i ∈ s.receivedDataMap.keys := by
    intro i hle hlt
    obtain ⟨d, hd, rfl⟩ := h.mem_ids.mpr ⟨hle, hlt⟩
    exact (SortedMap.mem_keys_iff _).mpr ⟨_, h.items d hd⟩
  ext i
  rw [mem_missingBelow, mem_missingBelow, h.mem_keys, hnext]
  constructor
  · rintro ⟨⟨hle, hlt⟩, hmissing⟩
    exact ⟨⟨by omega, hlt⟩, fun hmem => hmissing ⟨hmem, by omega⟩⟩
  · rintro ⟨⟨hle, hlt⟩, hmissing⟩
    refine ⟨⟨?_, hlt⟩, fun hmem => hmissing hmem.1⟩
    by_contra hbelow
    exact hmissing (hpresent i hle (not_le.mp hbelow))

lemma missingBelow_dequeued : (s.dequeued tick).missingBelow id ⊆ s.missingBelow id := by
  have hnext : (s.dequeued tick).nextMessageId = s.nextMessageId := by rw [dequeued_eq]
  intro i
  rw [mem_missingBelow, mem_missingBelow, hnext]
  rintro ⟨hrange, hmissing⟩
  exact ⟨hrange, fun hmem => hmissing (mem_keys_dequeued.mpr (Or.inl hmem))⟩

/-- A skip gives up at least the id that was awaited. -/
lemma missingBelow_skipped {skipTo : ℕ} (hlt : s.nextMessageId < skipTo) (hle : skipTo ≤ id)
    (hstuck : s.receivedDataMap.find? s.nextMessageId = none) :
    (s.skipped skipTo).missingBelow id ⊂ s.missingBelow id := by
  rw [Finset.ssubset_iff_of_subset]
  · refine ⟨s.nextMessageId, ?_, fun hmem => ?_⟩
    · rw [mem_missingBelow]
      exact ⟨⟨le_rfl, by omega⟩, (SortedMap.find?_eq_none_iff _).mp hstuck⟩
    · have hge := (mem_missingBelow.mp hmem).1.1
      exact absurd hge (not_le.mpr hlt)
  · intro i hi
    obtain ⟨⟨hge, hlow⟩, hmissing⟩ := mem_missingBelow.mp hi
    have hge : skipTo ≤ i := hge
    exact mem_missingBelow.mpr ⟨⟨by omega, hlow⟩, hmissing⟩

/-! ## One iteration -/

/-- An iteration that leaves the packet in the buffer: it leaves the timer running, which has not
expired, or it is a skip. -/
inductive Turn (cfg : ReorderConfig) (s : Reorder) (tick : Tick) (id : ℕ) (s' : Reorder) : Prop
  | runs (missing : s'.missingBelow id ⊆ (s.dequeued tick).missingBelow id)
      (active : s'.gapTimerActive = true)
      (since : s'.gapFirstSeen = if s.gapTimerActive then s.gapFirstSeen else tick.gapNow)
      (early : tick.gapNow ≤ s'.gapFirstSeen + cfg.reorderTimeoutMs)
  | skips (missing : s'.missingBelow id ⊂ (s.dequeued tick).missingBelow id)
      (active : s.gapTimerActive = true) (stopped : s'.gapTimerActive = false)

lemma turn (htimeout : 0 ≤ cfg.reorderTimeoutMs) (h : Resting s)
    (hids : ∀ item ∈ tick.arrivals, item.messageId < uint64Size)
    (hleft : id ∈ (s.step cfg tick).receivedDataMap.keys) :
    Turn cfg s tick id (s.step cfg tick) := by
  have hahead := ahead_dequeued h.ahead hids
  have hdrained := drained_beforeGap hahead
  obtain ⟨hactive, hfirst⟩ := timer_beforeGap h hids
  obtain ⟨hmap, hnext, hactive', hfirst'⟩ := state_eq cfg s tick
  have hmissing' : (s.step cfg tick).missingBelow id = (s.beforeNotify cfg tick).missingBelow id := by
    rw [missingBelow, missingBelow, step, hmap, hnext]
  rw [step, hmap] at hleft
  have hbefore : id ∈ (s.beforeGap tick).receivedDataMap.keys →
      (s.beforeGap tick).missingBelow id = (s.dequeued tick).missingBelow id :=
    hdrained.missingBelow_eq hahead
  rw [beforeNotify] at hleft hmissing' hactive' hfirst'
  rcases checkGap_cases cfg (s.beforeGap tick) tick.gapNow with ⟨hempty, heq⟩ | ⟨-, hoff, heq⟩
    | ⟨-, hon, hearly, heq⟩ | ⟨hon, -, skipTo, hmem, hmin, heq⟩
  · rw [heq] at hleft
    rw [show _ = [] from hempty] at hleft
    cases hleft
  · rw [heq] at hleft hmissing' hactive' hfirst'
    refine .runs ?_ hactive' ?_ ?_
    · rw [hmissing']
      exact (hbefore hleft).subset
    · rw [step, hfirst', ← hactive, hoff]
      rfl
    · rw [step, hfirst']
      simpa using htimeout
  · rw [heq] at hleft hmissing' hactive' hfirst'
    refine .runs ?_ (hactive'.trans hon) ?_ ?_
    · rw [hmissing']
      exact (hbefore hleft).subset
    · rw [step, hfirst', hfirst, ← hactive, hon]
      rfl
    · rw [step, hfirst']
      show tick.gapNow ≤ (s.beforeGap tick).gapFirstSeen + cfg.reorderTimeoutMs
      omega
  · rw [heq] at hleft hmissing' hactive' hfirst'
    have hskipped := ahead_skipped (hdrained.ahead hahead) hmem hmin
    have hdrained' := drained hskipped
    have hid : id ∈ (s.beforeGap tick).receivedDataMap.keys := (hdrained'.mem_keys.mp hleft).1
    refine .skips ?_ (hactive.symm.trans hon) (hactive'.trans hdrained'.gapTimerActive)
    rw [hmissing', hdrained'.missingBelow_eq hskipped hleft, ← hbefore hid]
    apply missingBelow_skipped _ (hmin id hid) hdrained.stuck
    exact (hdrained.le_of_mem_keys hahead hmem).2

/-! ## Runs -/

section Run

variable {ticks : ℕ → Tick} {slack limit : ℤ}

/-- After iteration `n` the thread starts the next one within `slack` of the moment it waits
for. -/
def Punctual (cfg : ReorderConfig) (slack : ℤ) (ticks : ℕ → Tick) (n : ℕ) : Prop :=
  match waitAfter cfg (iterationAt cfg ticks n) (ticks n).waitNow with
  | .none => (ticks (n + 1)).gapNow ≤ (ticks n).gapNow + slack
  | .timed remaining => (ticks (n + 1)).gapNow ≤ (ticks n).waitNow + remaining + slack
  -- only an enqueue ends this wait
  | .untimed => True

/-- The time that the missing ids below `id` can take. -/
def waitBound (cfg : ReorderConfig) (slack : ℤ) (s : Reorder) (id : ℕ) : ℤ :=
  (s.missingBelow id).card * (cfg.reorderTimeoutMs + 2 * slack)

lemma waitBound_mono (htimeout : 0 ≤ cfg.reorderTimeoutMs) (hslack : 0 ≤ slack)
    (h : s'.missingBelow id ⊆ s.missingBelow id) :
    waitBound cfg slack s' id ≤ waitBound cfg slack s id := by
  have hcard : ((s'.missingBelow id).card : ℤ) ≤ (s.missingBelow id).card := by
    exact_mod_cast Finset.card_le_card h
  apply mul_le_mul_of_nonneg_right hcard
  omega

lemma waitBound_lt (htimeout : 0 ≤ cfg.reorderTimeoutMs) (hslack : 0 ≤ slack)
    (h : s'.missingBelow id ⊂ s.missingBelow id) :
    waitBound cfg slack s' id + (cfg.reorderTimeoutMs + 2 * slack) ≤ waitBound cfg slack s id := by
  have hcard : ((s'.missingBelow id).card : ℤ) + 1 ≤ (s.missingBelow id).card := by
    exact_mod_cast Finset.card_lt_card h
  calc waitBound cfg slack s' id + (cfg.reorderTimeoutMs + 2 * slack)
      = ((s'.missingBelow id).card + 1) * (cfg.reorderTimeoutMs + 2 * slack) := by
        rw [waitBound]
        ring
    _ ≤ waitBound cfg slack s id := by
        apply mul_le_mul_of_nonneg_right hcard
        omega

/-- Between two iterations at rest something is missing below what is buffered. -/
lemma Resting.le_waitBound (h : Resting s) (htimeout : 0 ≤ cfg.reorderTimeoutMs)
    (hslack : 0 ≤ slack) (hid : id ∈ s.receivedDataMap.keys) :
    cfg.reorderTimeoutMs + 2 * slack ≤ waitBound cfg slack s id := by
  have hmem : s.nextMessageId ∈ s.missingBelow id :=
    mem_missingBelow.mpr ⟨⟨le_rfl, h.lt_of_mem_keys hid⟩,
      (SortedMap.find?_eq_none_iff _).mp h.stuck⟩
  have hcard : (1 : ℤ) ≤ (s.missingBelow id).card := by
    exact_mod_cast Finset.card_pos.mpr ⟨_, hmem⟩
  calc cfg.reorderTimeoutMs + 2 * slack
      = 1 * (cfg.reorderTimeoutMs + 2 * slack) := by ring
    _ ≤ waitBound cfg slack s id := by
        apply mul_le_mul_of_nonneg_right hcard
        omega

/-- After an iteration at `now`, the packet under `id` can be delivered by `limit`. -/
structure InTime (cfg : ReorderConfig) (slack limit : ℤ) (id : ℕ) (s : Reorder) (now : ℤ) :
    Prop where
  running : s.gapTimerActive = true →
    s.gapFirstSeen + waitBound cfg slack s id ≤ limit + slack
      ∧ now ≤ s.gapFirstSeen + cfg.reorderTimeoutMs
  stopped : s.gapTimerActive = false → now + waitBound cfg slack s id ≤ limit

lemma InTime.le_limit {now : ℤ} (h : InTime cfg slack limit id s now) (hrest : Resting s)
    (htimeout : 0 ≤ cfg.reorderTimeoutMs) (hslack : 0 ≤ slack)
    (hid : id ∈ s.receivedDataMap.keys) : now ≤ limit := by
  have hbound := hrest.le_waitBound htimeout hslack hid
  cases hactive : s.gapTimerActive with
  | true =>
    obtain ⟨hsum, hnow⟩ := h.running hactive
    omega
  | false =>
    have hsum := h.stopped hactive
    omega

/-- The next iteration comes before the timer has expired by more than the slack. -/
lemma Punctual.before_deadline {n : ℕ} (h : Punctual cfg slack ticks n)
    (hactive : (stateAt cfg ticks (n + 1)).gapTimerActive = true)
    (hearly : (ticks n).gapNow
      ≤ (stateAt cfg ticks (n + 1)).gapFirstSeen + cfg.reorderTimeoutMs) :
    (ticks (n + 1)).gapNow
      ≤ (stateAt cfg ticks (n + 1)).gapFirstSeen + cfg.reorderTimeoutMs + slack := by
  rw [stateAt_succ] at hactive hearly ⊢
  unfold Punctual waitAfter at h
  dsimp only at h
  rw [hactive] at h
  split_ifs at h with hgot hon hremaining
  · have hnext : (ticks (n + 1)).gapNow ≤ (ticks n).gapNow + slack := h
    omega
  · have hnext : (ticks (n + 1)).gapNow ≤ (ticks n).waitNow + _ + slack := h
    omega
  · have hnext : (ticks (n + 1)).gapNow ≤ (ticks n).gapNow + slack := h
    omega
  · exact absurd rfl hon

/-- A thread that does not go to sleep over the buffer comes back at once after a skip. -/
lemma Punctual.after_skip {n : ℕ} (h : Punctual cfg slack ticks n)
    (hids : IdsBelow uint64Size ticks)
    (hstrands : ¬ StrandsBuffer cfg (stateAt cfg ticks n) (ticks n))
    (hstopped : (stateAt cfg ticks (n + 1)).gapTimerActive = false)
    (hid : id ∈ (stateAt cfg ticks (n + 1)).receivedDataMap.keys) :
    (ticks (n + 1)).gapNow ≤ (ticks n).gapNow + slack := by
  rw [stateAt_succ] at hstopped hid
  have hgot : (iterationAt cfg ticks n).gotAny = true := by
    by_contra hgot
    apply hstrands
    rw [← stranded_iff (resting_stateAt cfg hids n)]
    exact ⟨⟨Bool.not_eq_true _ ▸ hgot, hstopped⟩, List.ne_nil_of_mem hid⟩
  unfold Punctual waitAfter at h
  rw [if_pos hgot] at h
  exact h

lemma InTime.next (htimeout : 0 ≤ cfg.reorderTimeoutMs) (hslack : 0 ≤ slack)
    (hids : IdsBelow uint64Size ticks) {n : ℕ} (hpunctual : Punctual cfg slack ticks n)
    (hstrands : ¬ StrandsBuffer cfg (stateAt cfg ticks n) (ticks n))
    (h : InTime cfg slack limit id (stateAt cfg ticks (n + 1)) (ticks n).gapNow)
    (hid : id ∈ (stateAt cfg ticks (n + 1)).receivedDataMap.keys)
    (hleft : id ∈ (stateAt cfg ticks (n + 2)).receivedDataMap.keys) :
    InTime cfg slack limit id (stateAt cfg ticks (n + 2)) (ticks (n + 1)).gapNow := by
  have hrest := resting_stateAt cfg hids (n + 1)
  have hsucc : stateAt cfg ticks (n + 2)
      = (stateAt cfg ticks (n + 1)).step cfg (ticks (n + 1)) := rfl
  rw [hsucc] at hleft ⊢
  cases turn htimeout hrest (hids (n + 1)) hleft with
  | runs hmissing hactive hsince hearly =>
    have hmono := waitBound_mono htimeout hslack (hmissing.trans missingBelow_dequeued)
    refine ⟨fun _ => ⟨?_, hearly⟩, fun hoff => absurd (hactive.symm.trans hoff) (by decide)⟩
    cases hbefore : (stateAt cfg ticks (n + 1)).gapTimerActive with
    | true =>
      rw [hbefore, if_pos rfl] at hsince
      have hsum := (h.running hbefore).1
      omega
    | false =>
      -- the timer is armed anew
      rw [hbefore, if_neg (by decide)] at hsince
      have hsum := h.stopped hbefore
      have hnext := hpunctual.after_skip hids hstrands hbefore hid
      omega
  | skips hmissing hactive hstopped =>
    have hless := waitBound_lt htimeout hslack (hmissing.trans_subset missingBelow_dequeued)
    obtain ⟨hsum, hearly⟩ := h.running hactive
    have hnext := hpunctual.before_deadline hactive hearly
    refine ⟨fun hon => absurd (hon.symm.trans hstopped) (by decide), fun _ => ?_⟩
    omega

/-- The timer was armed by a clock that does not run backwards. -/
lemma gapFirstSeen_le (cfg : ReorderConfig) (hids : IdsBelow uint64Size ticks) (hclock : MonotoneClock ticks) (n : ℕ)
    (hactive : (stateAt cfg ticks (n + 1)).gapTimerActive = true) :
    (stateAt cfg ticks (n + 1)).gapFirstSeen ≤ (ticks n).gapNow := by
  induction n with
  | zero =>
    obtain ⟨-, -, htimer, hfirst⟩ := state_eq cfg (stateAt cfg ticks 0) (ticks 0)
    rw [← iterationAt, ← stateAt_succ] at htimer hfirst
    rw [htimer] at hactive
    obtain ⟨-, -, -, ⟨-, hnow⟩ | ⟨hon, -⟩⟩ :=
      timer_running (resting_stateAt cfg hids 0) (hids 0) hactive
    · rw [hfirst, hnow]
    · exact absurd hon Bool.false_ne_true
  | succ n ih =>
    obtain ⟨-, -, htimer, hfirst⟩ := state_eq cfg (stateAt cfg ticks (n + 1)) (ticks (n + 1))
    rw [← iterationAt, ← stateAt_succ] at htimer hfirst
    rw [htimer] at hactive
    obtain ⟨-, -, -, ⟨-, hnow⟩ | ⟨hon, hsame⟩⟩ :=
      timer_running (resting_stateAt cfg hids (n + 1)) (hids (n + 1)) hactive
    · rw [hfirst, hnow]
    · have hseen := ih hon
      have hruns := hclock n
      omega

/-- The iteration that takes the packet off its queue, or a later one. -/
lemma inTime_start (htimeout : 0 ≤ cfg.reorderTimeoutMs) (hslack : 0 ≤ slack)
    (hids : IdsBelow uint64Size ticks) (hclock : MonotoneClock ticks) {n : ℕ}
    (hid : id ∈ (stateAt cfg ticks (n + 1)).receivedDataMap.keys) :
    InTime cfg slack
      ((ticks n).gapNow + waitBound cfg slack ((stateAt cfg ticks n).dequeued (ticks n)) id) id
      (stateAt cfg ticks (n + 1)) (ticks n).gapNow := by
  have hsucc : stateAt cfg ticks (n + 1) = (stateAt cfg ticks n).step cfg (ticks n) := rfl
  have hseen := gapFirstSeen_le cfg hids hclock n
  rw [hsucc] at hid hseen ⊢
  cases turn htimeout (resting_stateAt cfg hids n) (hids n) hid with
  | runs hmissing hactive _ hearly =>
    have hmono := waitBound_mono htimeout hslack hmissing
    have hseen := hseen hactive
    exact ⟨fun _ => ⟨by omega, hearly⟩, fun hoff => absurd (hactive.symm.trans hoff) (by decide)⟩
  | skips hmissing _ hstopped =>
    have hmono := waitBound_mono htimeout hslack hmissing.subset
    exact ⟨fun hon => absurd (hon.symm.trans hstopped) (by decide), fun _ => by omega⟩

/-- A packet that iteration `n` has in the buffer after draining the queues is delivered by any
later iteration that comes after its missing ids have each had the reorder timeout and twice the
slack. -/
theorem delivered_in_time (htimeout : 0 ≤ cfg.reorderTimeoutMs) (hslack : 0 ≤ slack)
    (hids : IdsBelow uint64Size ticks) (hclock : MonotoneClock ticks) {n m : ℕ} (hm : n ≤ m)
    (hpunctual : ∀ i, n ≤ i → i < m → Punctual cfg slack ticks i)
    (hstrands : ∀ i, n ≤ i → i < m → ¬ StrandsBuffer cfg (stateAt cfg ticks i) (ticks i))
    {item : ReceivedItem}
    (hitem : ((stateAt cfg ticks n).dequeued (ticks n)).receivedDataMap.find? id = some item)
    (hlate : (ticks n).gapNow + waitBound cfg slack ((stateAt cfg ticks n).dequeued (ticks n)) id
      < (ticks m).gapNow) :
    ∃ i, n ≤ i ∧ i ≤ m ∧ item.delivery id ∈ (iterationAt cfg ticks i).delivered := by
  by_contra hnot
  have hnot : ∀ i, n ≤ i → i ≤ m → item.delivery id ∉ (iterationAt cfg ticks i).delivered :=
    fun i hi him hmem => hnot ⟨i, hi, him, hmem⟩
  -- the packet stays in the buffer, and its time is not over
  have hkept : ∀ k, n ≤ k → k ≤ m →
      (stateAt cfg ticks (k + 1)).receivedDataMap.find? id = some item
      ∧ InTime cfg slack
        ((ticks n).gapNow + waitBound cfg slack ((stateAt cfg ticks n).dequeued (ticks n)) id) id
        (stateAt cfg ticks (k + 1)) (ticks k).gapNow := by
    intro k hk
    induction k, hk using Nat.le_induction with
    | base =>
      intro hnm
      have hstays := (kept_or_delivered cfg (resting_stateAt cfg hids n) (hids n)
        hitem).resolve_right (hnot n le_rfl hnm)
      refine ⟨hstays, inTime_start htimeout hslack hids hclock ?_⟩
      exact (SortedMap.mem_keys_iff _).mpr ⟨item, hstays⟩
    | succ k hk ih =>
      intro hkm
      obtain ⟨hbuffered, htime⟩ := ih (by omega)
      have hstays := (kept_or_delivered cfg (resting_stateAt cfg hids (k + 1)) (hids (k + 1))
        (find?_dequeued hbuffered)).resolve_right (hnot (k + 1) (by omega) hkm)
      refine ⟨hstays, htime.next htimeout hslack hids (hpunctual k hk (by omega))
        (hstrands k hk (by omega)) ?_ ?_⟩
      · exact (SortedMap.mem_keys_iff _).mpr ⟨item, hbuffered⟩
      · exact (SortedMap.mem_keys_iff _).mpr ⟨item, hstays⟩
  obtain ⟨hbuffered, htime⟩ := hkept m hm le_rfl
  have hlimit := htime.le_limit (resting_stateAt cfg hids (m + 1)) htimeout hslack
    ((SortedMap.mem_keys_iff _).mpr ⟨item, hbuffered⟩)
  omega

end Run

/-- Ids 1 and 2 arrive, and id 0 never does. -/
def firstLost : ℕ → Tick := script
  [tickAt 0 [⟨1, [11], 0⟩, ⟨2, [12], 0⟩], tickAt 0 [], tickAt 4000 []] 4001

theorem delivered_in_time_firstLost :
    ∃ i, 0 ≤ i ∧ i ≤ 3 ∧ (⟨2, [12], 0⟩ : DeliveryItem) ∈ (iterationAt {} firstLost i).delivered := by
  have hpunctual : ∀ i, 0 ≤ i → i < 3 → Punctual {} 0 firstLost i := by
    intro i _ hi
    interval_cases i
    · exact (by decide : (0 : ℤ) ≤ 0 + 0)
    · exact (by decide : (4000 : ℤ) ≤ 0 + 4000 + 0)
    · exact trivial
  have hstrands : ∀ i, 0 ≤ i → i < 3 →
      ¬ StrandsBuffer {} (stateAt {} firstLost i) (firstLost i) := by
    intro i _ hi h
    interval_cases i
    · exact absurd h.active (by decide)
    · exact absurd h.expired (by decide)
    · obtain ⟨k₁, hk₁, gap, -, k₂, hk₂, hlt₁, hlt₂⟩ := h.secondGap
      have hkeys : ∀ k ∈ (stateAt {} firstLost 2).receivedDataMap.keys, 1 ≤ k ∧ k ≤ 2 := by decide
      have hlow := hkeys k₁ hk₁
      have hhigh := hkeys k₂ hk₂
      omega
  have hitem : ((stateAt {} firstLost 0).dequeued (firstLost 0)).receivedDataMap.find? 2
      = some ⟨[12], 0⟩ := rfl
  exact delivered_in_time (by decide) le_rfl (idsBelow_script (by decide))
    (monotoneClock_script (by decide)) (Nat.zero_le 3) hpunctual hstrands hitem (by decide)

end Reorder
end TcpUdp
