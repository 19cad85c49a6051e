import TcpUdp.GapTimer
import TcpUdp.SentState

/-!
# Asking for missing ids

What the receiver's notifications promise over a run. An id is listed when the scan of
`sendMissingNotifications` comes to it, unless the receiver remembers having listed it, and
the memory of an id that stays missing goes in two ways only: a skip empties it, and so does
a notification that finds more than 1000 ids in it.

Three readings of the notifications fail on that, and each comes with the condition under
which it holds: that no id is given up without having been asked for (`skip_asked`), that an
id absent from a notification is not missing any more (`absent_obtained_iff`), and that an
id which stays missing is asked for again (`asked_again_iff`).
-/

namespace TcpUdp
namespace Reorder

open Lib

variable {cfg : ReorderConfig} {s : Reorder} {tick : Tick} {ticks : ℕ → Tick}

/-! ## One iteration and one missing id -/

/-- The iteration delivers `x` or skips it. -/
def Passes (it : Iteration) (x : ℕ) : Prop :=
  (∃ d ∈ it.delivered, d.messageId = x)
    ∨ ∃ skip, it.skip = some skip ∧ skip.missingStart ≤ x ∧ x < skip.skipTo

/-- `x` is at or beyond the counter and below the buffered id `k`. -/
structure Below (s : Reorder) (x k : ℕ) : Prop where
  next_le : s.nextMessageId ≤ x
  lt : x < k
  mem : k ∈ s.receivedDataMap.keys

/-- A delivery pass that does not deliver `x` stops before `x`. -/
lemma Drained.below {s' : Reorder} {out : List DeliveryItem} (hs : Ahead s)
    (h : Drained s out s') {x k : ℕ} (hx : ∀ d ∈ out, d.messageId ≠ x) (hb : Below s x k) :
    Below s' x k ∧ (x ∈ s'.notifiedMissingIds ↔ x ∈ s.notifiedMissingIds) := by
  have hrange : ¬ (s.nextMessageId ≤ x ∧ x < s.nextMessageId + out.length) := fun hrange => by
    obtain ⟨d, hd, hdx⟩ := h.mem_ids.mpr hrange
    exact hx d hd hdx
  have hle := hb.next_le
  have hlt := hb.lt
  have hk : k ∈ s'.receivedDataMap.keys := h.mem_keys.mpr ⟨hb.mem, by omega⟩
  have hnext := (h.le_of_mem_keys hs hk).1
  refine ⟨⟨by omega, hlt, hk⟩, ?_⟩
  rw [h.notified, and_iff_left hrange]

/-- An iteration that does not pass `x` leaves it below `k`; the memory of `x` goes with a
skip. -/
lemma below_beforeNotify (h : Resting s)
    (hids : ∀ item ∈ tick.arrivals, item.messageId < uint64Size) {x k : ℕ}
    (hx : ¬ Passes (s.reorderIteration cfg tick) x) (hb : Below s x k) :
    Below (s.beforeNotify cfg tick) x k ∧
      (x ∈ (s.beforeNotify cfg tick).notifiedMissingIds
        ↔ x ∈ s.notifiedMissingIds ∧ (s.reorderIteration cfg tick).skip = none) := by
  have hahead := ahead_dequeued h.ahead hids
  have hdrained := drained_beforeGap hahead
  have hout : (s.reorderIteration cfg tick).delivered
      = (s.dequeued tick).drainReceivedDataMap.1
        ++ ((s.beforeGap tick).checkGap cfg tick.gapNow).2.1 := rfl
  have hskip : (s.reorderIteration cfg tick).skip
      = ((s.beforeGap tick).checkGap cfg tick.gapNow).2.2 := rfl
  -- neither delivery pass may contain `x`
  have hnotDelivered : ∀ d ∈ (s.reorderIteration cfg tick).delivered, d.messageId ≠ x :=
    fun d hd hdx => hx (Or.inl ⟨d, hd, hdx⟩)
  rw [hout] at hnotDelivered
  have hb' : Below (s.dequeued tick) x k := by
    refine ⟨?_, hb.lt, mem_keys_dequeued.mpr (Or.inl hb.mem)⟩
    rw [dequeued_eq]; exact hb.next_le
  obtain ⟨hgap, hmemory⟩ := hdrained.below hahead
    (fun d hd => hnotDelivered d (List.mem_append_left _ hd)) hb'
  have hmemory' : x ∈ (s.beforeGap tick).notifiedMissingIds ↔ x ∈ s.notifiedMissingIds := by
    rw [hmemory, dequeued_eq]
  rw [beforeNotify, hskip]
  rcases checkGap_cases cfg (s.beforeGap tick) tick.gapNow with ⟨-, heq⟩ | ⟨-, -, heq⟩
    | ⟨-, -, -, heq⟩ | ⟨-, -, skipTo, hmem, hmin, heq⟩
  · rw [heq]; exact ⟨⟨hgap.next_le, hgap.lt, hgap.mem⟩, by simpa using hmemory'⟩
  · rw [heq]; exact ⟨⟨hgap.next_le, hgap.lt, hgap.mem⟩, by simpa using hmemory'⟩
  · rw [heq]; exact ⟨hgap, by simpa using hmemory'⟩
  · -- the skip does not go beyond `x`, and neither does the second delivery pass
    have hle : skipTo ≤ x := by
      by_contra hlt
      refine hx (Or.inr ⟨_, by rw [hskip, heq], hgap.next_le, not_le.mp hlt⟩)
    have hskipped := ahead_skipped (hdrained.ahead hahead) hmem hmin
    obtain ⟨hafter, hforgot⟩ := (drained hskipped).below hskipped (x := x) (k := k)
      (fun d hd => hnotDelivered d (List.mem_append_right _ (by rw [heq]; exact hd)))
      ⟨hle, hgap.lt, hgap.mem⟩
    rw [heq]
    refine ⟨hafter, ?_⟩
    rw [hforgot]
    simp [skipped]

/-- What the state remembers after an iteration. -/
lemma mem_notified_state {x : ℕ} : x ∈ (s.reorderIteration cfg tick).state.notifiedMissingIds ↔
    match (s.reorderIteration cfg tick).notified with
    | none => x ∈ (s.beforeNotify cfg tick).notifiedMissingIds
    | some ids => x ∈ ids ∨ (x ∈ (s.beforeNotify cfg tick).notifiedMissingIds
        ∧ (s.beforeNotify cfg tick).notifiedMissingIds.card ≤ maxNotifiedMissingIds) := by
  have hstate : (s.reorderIteration cfg tick).state
      = ((s.beforeNotify cfg tick).sendMissingNotifications cfg tick.notifyNow).1 := rfl
  have hnotified : (s.reorderIteration cfg tick).notified
      = ((s.beforeNotify cfg tick).sendMissingNotifications cfg tick.notifyNow).2 := rfl
  rw [hstate, hnotified]
  rcases sendMissingNotifications_cases cfg (s.beforeNotify cfg tick) tick.notifyNow
    with ⟨-, h⟩ | ⟨-, h⟩
  · rw [h]
    simp only [rememberNotified, Finset.mem_union, List.mem_toFinset]
    split_ifs with hcard
    · simp [not_le.mpr hcard]
    · rw [and_iff_left (not_lt.mp hcard), or_comm]
  · rw [h]

/-- A notification goes out exactly when its conditions hold, and lists `missingIds`. -/
lemma notified_eq_some_iff {ids : List ℕ} :
    (s.reorderIteration cfg tick).notified = some ids
      ↔ Notifies cfg (s.beforeNotify cfg tick) tick.notifyNow
        ∧ ids = (s.beforeNotify cfg tick).missingIds := by
  have hnotified : (s.reorderIteration cfg tick).notified
      = ((s.beforeNotify cfg tick).sendMissingNotifications cfg tick.notifyNow).2 := rfl
  rw [hnotified]
  rcases sendMissingNotifications_cases cfg (s.beforeNotify cfg tick) tick.notifyNow
    with ⟨h, heq⟩ | ⟨h, heq⟩
  · rw [heq, and_iff_right h, Option.some.injEq, eq_comm]
  · rw [heq]
    exact ⟨fun hnone => (nomatch hnone), fun hsome => absurd hsome.1 h⟩

/-- Between two iterations the memory only loses ids. -/
lemma notified_beforeNotify_sub (h : Resting s)
    (hids : ∀ item ∈ tick.arrivals, item.messageId < uint64Size) {x : ℕ}
    (hx : x ∈ (s.beforeNotify cfg tick).notifiedMissingIds) : x ∈ s.notifiedMissingIds := by
  have hahead := ahead_dequeued h.ahead hids
  have hdrained := drained_beforeGap hahead
  have hgap : x ∈ (s.beforeGap tick).notifiedMissingIds → x ∈ s.notifiedMissingIds := by
    intro hx
    have := ((hdrained.notified x).mp hx).1
    rwa [dequeued_eq] at this
  rw [beforeNotify] at hx
  rcases checkGap_cases cfg (s.beforeGap tick) tick.gapNow with ⟨-, heq⟩ | ⟨-, -, heq⟩
    | ⟨-, -, -, heq⟩ | ⟨-, -, skipTo, hmem, hmin, heq⟩
  · rw [heq] at hx; exact hgap hx
  · rw [heq] at hx; exact hgap hx
  · rw [heq] at hx; exact hgap hx
  · rw [heq] at hx
    -- a skip leaves nothing in the memory
    have hskipped := ahead_skipped (hdrained.ahead hahead) hmem hmin
    have := (((drained hskipped).notified x).mp hx).1
    simp [skipped] at this

/-! ## Given up without having been asked for -/

/-- `x` was listed in a notification before iteration `n`. -/
def Asked (cfg : ReorderConfig) (ticks : ℕ → Tick) (n x : ℕ) : Prop :=
  ∃ i < n, ∃ ids, (iterationAt cfg ticks i).notified = some ids ∧ x ∈ ids

/-- What is remembered was asked for. -/
lemma asked_of_mem_notified (hids : IdsBelow uint64Size ticks) {n x : ℕ}
    (hx : x ∈ (stateAt cfg ticks n).notifiedMissingIds) : Asked cfg ticks n x := by
  induction n with
  | zero => cases hx
  | succ n ih =>
    -- the memory is from before, or the notification of this iteration put `x` in
    have hold : x ∈ ((stateAt cfg ticks n).beforeNotify cfg (ticks n)).notifiedMissingIds →
        Asked cfg ticks (n + 1) x := by
      intro hmem
      obtain ⟨i, hi, hlisted⟩ :=
        ih (notified_beforeNotify_sub (resting_stateAt _ hids n) (hids n) hmem)
      exact ⟨i, by omega, hlisted⟩
    rw [stateAt_succ, iterationAt, mem_notified_state] at hx
    split at hx
    · exact hold hx
    · rename_i ids hnotified
      rcases hx with hx | ⟨hx, -⟩
      · exact ⟨n, Nat.lt_succ_self n, ids, hnotified, hx⟩
      · exact hold hx

/-- When the timeout finds something held behind a missing id, the awaited id does not
arrive in the same iteration, and the iteration before made its notification check when the
notification interval of this gap was over. -/
def CheckedInTime (cfg : ReorderConfig) (ticks : ℕ → Tick) (n : ℕ) : Prop :=
  (stateAt cfg ticks n).gapTimerActive = true →
  cfg.reorderTimeoutMs ≤ (ticks n).gapNow - (stateAt cfg ticks n).gapFirstSeen →
  (∃ gap k, (stateAt cfg ticks n).nextMessageId ≤ gap ∧ gap < k
    ∧ ¬ Held (stateAt cfg ticks n) (ticks n) gap ∧ Held (stateAt cfg ticks n) (ticks n) k) →
  (∀ item ∈ (ticks n).arrivals, item.messageId ≠ (stateAt cfg ticks n).nextMessageId) ∧
  ∃ p, p + 1 = n ∧
    cfg.missingNotifyIntervalMs ≤ (ticks p).notifyNow - (stateAt cfg ticks n).gapFirstSeen

/-- A check after the interval lists the awaited id, unless it is remembered. -/
lemma asked_of_check (hids : IdsBelow uint64Size ticks) {p : ℕ}
    (hactive : (stateAt cfg ticks (p + 1)).gapTimerActive = true)
    (hinterval : cfg.missingNotifyIntervalMs
      ≤ (ticks p).notifyNow - (stateAt cfg ticks (p + 1)).gapFirstSeen) :
    Asked cfg ticks (p + 1) (stateAt cfg ticks (p + 1)).nextMessageId := by
  have hrest := resting_stateAt cfg hids (p + 1)
  obtain ⟨hmap, hnext, htimer, hfirst⟩ := state_eq cfg (stateAt cfg ticks p) (ticks p)
  rw [← iterationAt, ← stateAt_succ] at hmap hnext htimer hfirst
  have hne := hrest.timed hactive
  have hahead : ∀ k ∈ (stateAt cfg ticks (p + 1)).receivedDataMap.keys,
      (stateAt cfg ticks (p + 1)).nextMessageId < k := fun k hk => hrest.lt_of_mem_keys hk
  rw [hmap] at hne hahead
  rw [hnext] at hahead ⊢
  rw [hfirst] at hinterval
  rw [htimer] at hactive
  obtain ⟨key, hkey⟩ := List.exists_mem_of_ne_nil _ hne
  -- either the id is remembered, or this check lists it first of all
  by_cases hmem : ((stateAt cfg ticks p).beforeNotify cfg (ticks p)).nextMessageId
      ∈ ((stateAt cfg ticks p).beforeNotify cfg (ticks p)).notifiedMissingIds
  · have hasked : Asked cfg ticks p _ := asked_of_mem_notified hids
      (notified_beforeNotify_sub (resting_stateAt _ hids p) (hids p) hmem)
    obtain ⟨i, hi, hlisted⟩ := hasked
    exact ⟨i, by omega, hlisted⟩
  · have hlist := next_mem_missingIds hkey hahead hmem
    refine ⟨p, Nat.lt_succ_self p, _, notified_eq_some_iff.mpr ⟨⟨hne, hactive, hinterval, ?_⟩,
      rfl⟩, hlist⟩
    exact List.ne_nil_of_mem hlist

/-- An id that the timeout gives up was asked for, if the notification check came in time. -/
theorem skip_asked (hids : IdsBelow uint64Size ticks) {n : ℕ} {skip : Skip}
    (hcheck : CheckedInTime cfg ticks n) (hskip : (iterationAt cfg ticks n).skip = some skip) :
    Asked cfg ticks n skip.missingStart := by
  have hrest := resting_stateAt cfg hids n
  obtain ⟨hon, hexpired, hstart, hleft⟩ := skip_eq_some hrest (hids n) hskip
  obtain ⟨hawaited, p, rfl, hinterval⟩ :=
    hcheck hon hexpired ((beforeGap_left_iff hrest (hids n)).mp hleft)
  -- the awaited id did not arrive, so it is the one that is skipped
  have hinherit : ¬ InheritsTimer (stateAt cfg ticks (p + 1)) (ticks (p + 1)) := by
    intro h
    obtain ⟨item, hitem, hid⟩ := h.filled
    exact hawaited item hitem hid
  rw [hstart, next_beforeGap hrest (hids (p + 1)) hon hinherit hleft]
  exact asked_of_check hids hon hinterval

/-- A copy of id 1 wakes the thread after the notification interval. -/
def wokenInTime : ℕ → Tick := script
  [tickAt 0 [⟨1, [11], 0⟩], tickAt 300 [⟨1, [11], 1⟩], tickAt 4000 []] 4000

theorem skip_asked_wokenInTime : Asked {} wokenInTime 2 0 := by
  have hskip : ∃ m, (iterationAt {} wokenInTime 2).skip = some ⟨0, 1, m⟩ := ⟨_, rfl⟩
  obtain ⟨m, hskip⟩ := hskip
  have hcheck : CheckedInTime {} wokenInTime 2 := fun _ _ _ =>
    ⟨fun _ hitem => (nomatch hitem), 1, rfl, by decide⟩
  exact skip_asked (idsBelow_script (by decide)) hcheck hskip

/-- Id 1 arrives, id 0 is lost, and then the traffic stops. -/
def trafficStops : ℕ → Tick := script
  [tickAt 0 [⟨1, [11], 0⟩], tickAt 0 [], tickAt 4000 []] 4000

/-- The thread sleeps through the notification interval until the reorder timeout, and gives
up id 0 without having asked for it. -/
theorem trafficStops_not_asked :
    ¬ ∀ (cfg : ReorderConfig) (ticks : ℕ → Tick), IdsBelow uint64Size ticks →
      MonotoneClock ticks → cfg.missingNotifyIntervalMs < cfg.reorderTimeoutMs →
      ∀ n, (∀ i < n, Woken cfg (iterationAt cfg ticks i) (ticks i) (ticks (i + 1))) →
        ∀ skip, (iterationAt cfg ticks n).skip = some skip →
          Asked cfg ticks n skip.missingStart := by
  intro h
  have hwoken : ∀ i < 2, Woken {} (iterationAt {} trafficStops i) (trafficStops i)
      (trafficStops (i + 1)) := by
    intro i hi
    rcases Nat.le_one_iff_eq_zero_or_eq_one.mp (Nat.le_of_lt_succ hi) with rfl | rfl
    · exact trivial
    · exact Or.inr (by decide)
  obtain ⟨i, hi, ids, hnotified, -⟩ := h {} trafficStops (idsBelow_script (by decide))
    (monotoneClock_script (by decide)) (by decide) 2 hwoken ⟨0, 1, _⟩ rfl
  rcases Nat.le_one_iff_eq_zero_or_eq_one.mp (Nat.le_of_lt_succ hi) with rfl | rfl
  · cases hnotified
  · cases hnotified

/-! ## What absence from a notification means -/

lemma below_state {x k : ℕ} (hb : Below (s.beforeNotify cfg tick) x k) :
    Below (s.reorderIteration cfg tick).state x k := by
  obtain ⟨hmap, hnext, -⟩ := state_eq cfg s tick
  exact ⟨hnext ▸ hb.next_le, hb.lt, hmap ▸ hb.mem⟩

/-- What was listed lies below a buffered id and is remembered. -/
lemma listed_below {i x : ℕ} {ids : List ℕ} (h : (iterationAt cfg ticks i).notified = some ids)
    (hx : x ∈ ids) : (∃ k, Below (stateAt cfg ticks (i + 1)) x k)
      ∧ x ∈ (stateAt cfg ticks (i + 1)).notifiedMissingIds := by
  constructor
  · obtain ⟨-, rfl⟩ := notified_eq_some_iff.mp h
    obtain ⟨hle, -, k, hk, hlt⟩ := of_mem_missingIds hx
    exact ⟨k, below_state ⟨hle, hlt, hk⟩⟩
  · rw [iterationAt] at h
    rw [stateAt_succ, iterationAt, mem_notified_state, h]
    exact Or.inl hx

/-- An id stays below a buffered one as long as no iteration passes it. -/
lemma below_run (hids : IdsBelow uint64Size ticks) {i r x k : ℕ} (hir : i < r)
    (hb : Below (stateAt cfg ticks (i + 1)) x k)
    (hpass : ∀ q, i < q → q < r → ¬ Passes (iterationAt cfg ticks q) x) :
    Below (stateAt cfg ticks r) x k := by
  induction r, hir using Nat.le_induction with
  | base => exact hb
  | succ r hr ih =>
    have hprev := ih fun q hq hqr => hpass q hq (by omega)
    exact below_state (below_beforeNotify (resting_stateAt _ hids r) (hids r)
      (hpass r hr (Nat.lt_succ_self r)) hprev).1

/-- Without a notification in between, a listed id that was not passed is remembered exactly
as long as no skip fires. -/
lemma remembered_run (hids : IdsBelow uint64Size ticks) {i r x k : ℕ} (hir : i < r)
    (hb : Below (stateAt cfg ticks (i + 1)) x k)
    (hmem : x ∈ (stateAt cfg ticks (i + 1)).notifiedMissingIds)
    (hpass : ∀ q, i < q → q < r → ¬ Passes (iterationAt cfg ticks q) x)
    (hquiet : ∀ q, i < q → q < r → (iterationAt cfg ticks q).notified = none) :
    x ∈ (stateAt cfg ticks r).notifiedMissingIds
      ↔ ∀ q, i < q → q < r → (iterationAt cfg ticks q).skip = none := by
  induction r, hir using Nat.le_induction with
  | base => exact ⟨fun _ q hq hqr => by omega, fun _ => hmem⟩
  | succ r hr ih =>
    have hprev := ih (fun q hq hqr => hpass q hq (by omega)) fun q hq hqr =>
      hquiet q hq (by omega)
    have hbelow := below_run hids hr hb fun q hq hqr => hpass q hq (by omega)
    have hstep := (below_beforeNotify (resting_stateAt _ hids r) (hids r)
      (hpass r hr (Nat.lt_succ_self r)) hbelow).2
    -- without a notification the memory of `x` is that of `beforeNotify`
    have hsilent := hquiet r hr (Nat.lt_succ_self r)
    rw [iterationAt] at hsilent
    rw [stateAt_succ, iterationAt, mem_notified_state, hsilent]
    dsimp only
    rw [hstep, hprev, ← iterationAt]
    constructor
    · rintro ⟨hall, hlast⟩ q hq hqr
      rcases Nat.lt_succ_iff_lt_or_eq.mp hqr with hqr | rfl
      · exact hall q hq hqr
      · exact hlast
    · intro hall
      exact ⟨fun q hq hqr => hall q hq (by omega), hall r hr (Nat.lt_succ_self r)⟩

/-- Notifications of two iterations with none in between. -/
structure Successive (cfg : ReorderConfig) (ticks : ℕ → Tick) (i j : ℕ) (ids ids' : List ℕ) :
    Prop where
  lt : i < j
  first : (iterationAt cfg ticks i).notified = some ids
  second : (iterationAt cfg ticks j).notified = some ids'
  quiet : ∀ q, i < q → q < j → (iterationAt cfg ticks q).notified = none

/-- By the end of iteration `j`, `x` is buffered, or since iteration `i` it was delivered
or passed by the counter. -/
def Obtained (cfg : ReorderConfig) (ticks : ℕ → Tick) (i j x : ℕ) : Prop :=
  x ∈ (iterationAt cfg ticks j).state.receivedDataMap.keys
    ∨ ∃ q, i < q ∧ q ≤ j ∧ Passes (iterationAt cfg ticks q) x

/-- Every id of a notification that the next one leaves out has been obtained, if and only
if each of its ids that is still missing was forgotten through a skip in between and comes
up among the first 64 entries of the scan. -/
theorem absent_obtained_iff (hids : IdsBelow uint64Size ticks) {i j : ℕ} {ids ids' : List ℕ}
    (h : Successive cfg ticks i j ids ids') :
    (∀ x ∈ ids, x ∉ ids' → Obtained cfg ticks i j x) ↔
      ∀ x ∈ ids, ¬ Obtained cfg ticks i j x →
        (∃ q, i < q ∧ q < j ∧ (iterationAt cfg ticks q).skip ≠ none) ∧
        ((stateAt cfg ticks j).beforeNotify cfg (ticks j)).entriesBefore x
          < vcMaxMissingIdsPerNotify := by
  -- for an id that is still missing, being listed again is the condition
  have hlist : ∀ x ∈ ids, ¬ Obtained cfg ticks i j x → (x ∈ ids' ↔
      (∃ q, i < q ∧ q < j ∧ (iterationAt cfg ticks q).skip ≠ none) ∧
      ((stateAt cfg ticks j).beforeNotify cfg (ticks j)).entriesBefore x
        < vcMaxMissingIdsPerNotify) := by
    intro x hx hmissing
    have hpass : ∀ q, i < q → q ≤ j → ¬ Passes (iterationAt cfg ticks q) x :=
      fun q hq hqj hpass => hmissing (Or.inr ⟨q, hq, hqj, hpass⟩)
    obtain ⟨⟨k, hb⟩, hmem⟩ := listed_below h.first hx
    have hrest := resting_stateAt cfg hids j
    have hbelow := below_run hids h.lt hb fun q hq hqj => hpass q hq (le_of_lt hqj)
    have hremembered := remembered_run hids h.lt hb hmem
      (fun q hq hqj => hpass q hq (le_of_lt hqj)) h.quiet
    obtain ⟨hnotifies, hids'⟩ := notified_eq_some_iff.mp h.second
    obtain ⟨hskip, -⟩ := timer_running hrest (hids j) hnotifies.active
    obtain ⟨hb', hmem'⟩ := below_beforeNotify hrest (hids j) (hpass j h.lt le_rfl) hbelow
    rw [hids', mem_missingIds_iff hb'.next_le hb'.mem hb'.lt, hmem', and_iff_left hskip,
      hremembered]
    refine and_congr_left fun _ => ?_
    simp only [not_forall, exists_prop, ne_eq]
  constructor
  · intro hlaw x hx hmissing
    exact (hlist x hx hmissing).mp (by_contra fun hnot => hmissing (hlaw x hx hnot))
  · intro hcond x hx hnot
    by_contra hmissing
    exact hnot ((hlist x hx hmissing).mpr (hcond x hx hmissing))

/-- Id 0 is asked for and arrives, and then id 2 is asked for. -/
def askedAndObtained : ℕ → Tick := script
  [tickAt 0 [⟨1, [11], 0⟩], tickAt 200 [⟨1, [11], 1⟩],
    tickAt 300 [⟨0, [10], 0⟩, ⟨3, [13], 0⟩]] 300

lemma successive_askedAndObtained : Successive {} askedAndObtained 1 2 [0] [2] :=
  ⟨by decide, by decide, by decide, fun q hq hqj => by omega⟩

theorem absent_obtained_askedAndObtained : Obtained {} askedAndObtained 1 2 0 := by
  refine (absent_obtained_iff (idsBelow_script (by decide)) successive_askedAndObtained).mpr
    (fun x hx hmissing => absurd ?_ hmissing) 0 (by decide) (by decide)
  rw [List.mem_singleton.mp hx]
  exact Or.inr ⟨2, by decide, le_rfl, Or.inl ⟨⟨0, [10], 0⟩, by decide, rfl⟩⟩

/-- Id 0 is asked for, and the next notification names the ids that became known since. -/
def askedOnce : ℕ → Tick := script
  [tickAt 0 [⟨1, [11], 0⟩], tickAt 200 [⟨1, [11], 1⟩], tickAt 300 [⟨3, [13], 0⟩]] 300

lemma successive_askedOnce : Successive {} askedOnce 1 2 [0] [1, 2] :=
  ⟨by decide, by decide, by decide, fun q hq hqj => by omega⟩

/-- Id 0 is absent from the second notification and still missing. -/
theorem askedOnce_still_missing :
    ¬ ∀ (cfg : ReorderConfig) (ticks : ℕ → Tick), IdsBelow uint64Size ticks →
      MonotoneClock ticks → ∀ i j ids ids', Successive cfg ticks i j ids ids' →
        ∀ x ∈ ids, x ∉ ids' → Obtained cfg ticks i j x := by
  intro h
  rcases h {} askedOnce (idsBelow_script (by decide)) (monotoneClock_script (by decide)) 1 2
    [0] [1, 2] successive_askedOnce 0 (by decide) (by decide) with hbuffered | ⟨q, hq, hqj, hpass⟩
  · exact absurd hbuffered (by decide)
  · obtain rfl : q = 2 := by omega
    rcases hpass with ⟨d, hd, -⟩ | ⟨skip, hskip, -⟩
    · cases hd
    · cases hskip

/-! ## Asking again -/

/-- How many ids are missing below the last buffered one. -/
def missingCount (s : Reorder) : ℕ :=
  ((List.range' s.nextMessageId
    (s.receivedDataMap.keys.getLastD s.nextMessageId - s.nextMessageId)).filter
      fun id => id ∉ s.receivedDataMap.keys).length

/-- `x` is listed in iteration `i` and stays missing, under a timer that keeps running, up
to iteration `j`, which is later by the time the sender takes a resend for lost. -/
structure AwaitsResend (cfg : ReorderConfig) (ticks : ℕ → Tick) (i j x : ℕ) : Prop where
  lt : i < j
  listed : ∃ ids, (iterationAt cfg ticks i).notified = some ids ∧ x ∈ ids
  missing : ∀ q, i ≤ q → q ≤ j → x ∉ (iterationAt cfg ticks q).state.receivedDataMap.keys
  notPassed : ∀ q, i < q → q ≤ j → ¬ Passes (iterationAt cfg ticks q) x
  active : ∀ q, i ≤ q → q ≤ j → (iterationAt cfg ticks q).state.gapTimerActive = true
  few : ∀ q ≤ j, (iterationAt cfg ticks q).state.missingCount < vcMaxMissingIdsPerNotify
  timeout : pendingResendTtl + cfg.missingNotifyIntervalMs < cfg.reorderTimeoutMs
  late : (ticks i).notifyNow + pendingResendTtl ≤ (ticks j).notifyNow

/-- There is an id to list. -/
def HasUnnotified (s : Reorder) : Prop :=
  ∃ id key, s.nextMessageId ≤ id ∧ id < key ∧ key ∈ s.receivedDataMap.keys
    ∧ id ∉ s.notifiedMissingIds

lemma missingIds_ne_nil_iff : s.missingIds ≠ [] ↔ s.HasUnnotified := by
  constructor
  · intro hne
    obtain ⟨id, hid⟩ := List.exists_mem_of_ne_nil _ hne
    obtain ⟨hle, hnew, key, hkey, hlt⟩ := of_mem_missingIds hid
    exact ⟨id, key, hle, hlt, hkey, hnew⟩
  · rintro ⟨id, key, hle, hlt, hkey, hnew⟩ hnil
    rw [missingIds_eq, List.take_eq_nil_iff] at hnil
    have hmem : id ∈ s.receivedDataMap.keys.flatMap s.unnotified :=
      List.mem_flatMap.mpr ⟨key, hkey, mem_unnotified.mpr ⟨⟨hle, hlt⟩, hnew⟩⟩
    rw [hnil.resolve_left (by decide)] at hmem
    cases hmem

/-- The memory is too large when a notification goes out, and is emptied. -/
def Overflows (s : Reorder) : Prop :=
  maxNotifiedMissingIds < s.notifiedMissingIds.card ∧ s.HasUnnotified

lemma notifyNow_mono (hclock : MonotoneClock ticks) {m n : ℕ} (hmn : m ≤ n) :
    (ticks m).notifyNow ≤ (ticks n).notifyNow := by
  induction n, hmn using Nat.le_induction with
  | base => exact le_rfl
  | succ n _ ih =>
    obtain ⟨-, hwait, hnext⟩ := hclock n
    exact ih.trans (hwait.trans (hnext.trans (hclock (n + 1)).1))

section Again

variable {i j x : ℕ}

lemma AwaitsResend.active_state (h : AwaitsResend cfg ticks i j x) {q : ℕ} (hiq : i ≤ q)
    (hqj : q ≤ j) : ((stateAt cfg ticks q).beforeNotify cfg (ticks q)).gapTimerActive = true := by
  have := h.active q hiq hqj
  rwa [iterationAt, (state_eq cfg (stateAt cfg ticks q) (ticks q)).2.2.1] at this

/-- In every iteration of the wait, `x` is below a buffered id and in memory as before. -/
lemma AwaitsResend.below (hids : IdsBelow uint64Size ticks) (h : AwaitsResend cfg ticks i j x)
    {q : ℕ} (hiq : i < q) (hqj : q ≤ j) :
    (∃ k, Below ((stateAt cfg ticks q).beforeNotify cfg (ticks q)) x k) ∧
      (x ∈ ((stateAt cfg ticks q).beforeNotify cfg (ticks q)).notifiedMissingIds
        ↔ x ∈ (stateAt cfg ticks q).notifiedMissingIds) := by
  obtain ⟨ids, hnotified, hx⟩ := h.listed
  obtain ⟨⟨k, hb⟩, -⟩ := listed_below hnotified hx
  have hrest := resting_stateAt cfg hids q
  have hbelow := below_run hids hiq hb fun r hr hrq => h.notPassed r hr (by omega)
  obtain ⟨hb', hmem⟩ := below_beforeNotify hrest (hids q) (h.notPassed q hiq hqj) hbelow
  obtain ⟨hskip, -⟩ := timer_running hrest (hids q) (h.active_state (le_of_lt hiq) hqj)
  exact ⟨⟨k, hb'⟩, by rw [hmem, and_iff_left hskip]⟩

/-- The notification interval of the running timer is over throughout the wait. -/
lemma AwaitsResend.interval (hids : IdsBelow uint64Size ticks) (hclock : MonotoneClock ticks)
    (h : AwaitsResend cfg ticks i j x) {q : ℕ} (hiq : i ≤ q) (hqj : q ≤ j) :
    cfg.missingNotifyIntervalMs ≤ (ticks q).notifyNow
      - ((stateAt cfg ticks q).beforeNotify cfg (ticks q)).gapFirstSeen := by
  -- the timer was armed before the listing, and time only goes on
  suffices hseen : ((stateAt cfg ticks q).beforeNotify cfg (ticks q)).gapFirstSeen
      = ((stateAt cfg ticks i).beforeNotify cfg (ticks i)).gapFirstSeen by
    obtain ⟨ids, hnotified, -⟩ := h.listed
    have hlisted := (notified_eq_some_iff.mp hnotified).1.interval
    have := notifyNow_mono hclock hiq
    rw [hseen]
    omega
  induction q, hiq using Nat.le_induction with
  | base => rfl
  | succ q hiq ih =>
    -- the timer was running before, so it was not armed again
    have hrest := resting_stateAt cfg hids (q + 1)
    obtain ⟨-, -, -, harmed⟩ := timer_running hrest (hids (q + 1)) (h.active_state (by omega) hqj)
    have hon : (stateAt cfg ticks (q + 1)).gapTimerActive = true := h.active q hiq (by omega)
    rcases harmed with ⟨hoff, -⟩ | ⟨-, hsame⟩
    · rw [hon] at hoff
      cases hoff
    · rw [hsame, ← ih (by omega), stateAt_succ, iterationAt,
        (state_eq cfg (stateAt cfg ticks q) (ticks q)).2.2.2]

/-- During the wait a notification goes out whenever there is an id to list. -/
lemma AwaitsResend.notifies (hids : IdsBelow uint64Size ticks) (hclock : MonotoneClock ticks)
    (h : AwaitsResend cfg ticks i j x) {q : ℕ} (hiq : i < q) (hqj : q ≤ j)
    (hne : ((stateAt cfg ticks q).beforeNotify cfg (ticks q)).missingIds ≠ []) :
    (iterationAt cfg ticks q).notified
      = some ((stateAt cfg ticks q).beforeNotify cfg (ticks q)).missingIds := by
  obtain ⟨⟨k, hb⟩, -⟩ := h.below hids hiq hqj
  exact notified_eq_some_iff.mpr ⟨⟨List.ne_nil_of_mem hb.mem,
    h.active_state (le_of_lt hiq) hqj, h.interval hids hclock (le_of_lt hiq) hqj, hne⟩, rfl⟩

/-- An id that was listed and stays missing is listed again by iteration `j`, if and only if
in between a notification emptied the memory, and in a later iteration up to `j` the id
comes up among the first 64 entries of the scan. -/
theorem asked_again_iff (hids : IdsBelow uint64Size ticks) (hclock : MonotoneClock ticks)
    (h : AwaitsResend cfg ticks i j x) :
    (∃ k, i < k ∧ k ≤ j ∧ ∃ ids, (iterationAt cfg ticks k).notified = some ids ∧ x ∈ ids) ↔
      ∃ k₀ k, i < k₀ ∧ k₀ < k ∧ k ≤ j
        ∧ ((stateAt cfg ticks k₀).beforeNotify cfg (ticks k₀)).Overflows
        ∧ ((stateAt cfg ticks k).beforeNotify cfg (ticks k)).entriesBefore x
          < vcMaxMissingIdsPerNotify := by
  constructor
  · rintro ⟨k, hik, hkj, ids, hnotified, hx⟩
    obtain ⟨⟨key, hb⟩, hmem⟩ := h.below hids hik hkj
    obtain ⟨-, rfl⟩ := notified_eq_some_iff.mp hnotified
    obtain ⟨hforgot, hentries⟩ := (mem_missingIds_iff hb.next_le hb.mem hb.lt).mp hx
    by_contra hnone
    -- without an overflow the id would still be remembered
    have hremembered : ∀ q, i < q → q ≤ k → x ∈ (stateAt cfg ticks q).notifiedMissingIds := by
      intro q hiq
      induction q, hiq using Nat.le_induction with
      | base =>
        intro _
        obtain ⟨ids, hnotified, hx⟩ := h.listed
        exact (listed_below hnotified hx).2
      | succ q hiq ih =>
        intro hqk
        have hx' := ((h.below hids hiq (by omega)).2).mpr (ih (by omega))
        rw [stateAt_succ, iterationAt, mem_notified_state]
        split
        · exact hx'
        · rename_i ids hsome
          have hmissing := (notified_eq_some_iff.mp hsome).1.missing
          refine Or.inr ⟨hx', not_lt.mp fun hcard => hnone ?_⟩
          exact ⟨q, k, hiq, by omega, hkj, ⟨hcard, missingIds_ne_nil_iff.mp hmissing⟩, hentries⟩
    exact hforgot (hmem.mpr (hremembered k hik le_rfl))
  · rintro ⟨k₀, k, hik₀, hk₀k, hkj, ⟨hcard, hnew⟩, hentries⟩
    by_contra hnever
    -- after the overflow the id is not remembered, and that stays so until it is listed
    have hforgotten : ∀ q, k₀ < q → q ≤ k → x ∉ (stateAt cfg ticks q).notifiedMissingIds := by
      intro q hq
      induction q, hq using Nat.le_induction with
      | base =>
        intro _ hx
        have hsent := h.notifies hids hclock hik₀ (by omega) (missingIds_ne_nil_iff.mpr hnew)
        have hsent' := hsent
        rw [iterationAt] at hsent'
        rw [stateAt_succ, iterationAt, mem_notified_state, hsent'] at hx
        rcases hx with hx | ⟨-, hsmall⟩
        · exact hnever ⟨k₀, hik₀, by omega, _, hsent, hx⟩
        · omega
      | succ q hq ih =>
        intro hqk hx
        have hiq : i < q := by omega
        have hx' : x ∉ ((stateAt cfg ticks q).beforeNotify cfg (ticks q)).notifiedMissingIds :=
          fun hmem => ih (by omega) (((h.below hids hiq (by omega)).2).mp hmem)
        rw [stateAt_succ, iterationAt, mem_notified_state] at hx
        split at hx
        · exact hx' hx
        · rename_i ids hsome
          rcases hx with hx | ⟨hx, -⟩
          · exact hnever ⟨q, hiq, by omega, ids, hsome, hx⟩
          · exact hx' hx
    obtain ⟨⟨key, hb⟩, hmem⟩ := h.below hids (show i < k by omega) hkj
    have hlisted := (mem_missingIds_iff hb.next_le hb.mem hb.lt).mpr
      ⟨fun hx => hforgotten k hk₀k le_rfl (hmem.mp hx), hentries⟩
    exact hnever ⟨k, by omega, hkj, _, h.notifies hids hclock (by omega) hkj
      (List.ne_nil_of_mem hlisted), hlisted⟩

end Again

/-- Id 0 is asked for at 200 ms, and its resend is lost too. -/
def lostResend : ℕ → Tick := script
  [tickAt 0 [⟨1, [11], 0⟩], tickAt 200 [⟨1, [11], 1⟩], tickAt 2300 [⟨1, [11], 1⟩]] 2300

lemma awaitsResend_lostResend : AwaitsResend {} lostResend 1 2 0 where
  lt := by decide
  listed := ⟨[0], by decide, by decide⟩
  missing q hq hqj := by
    obtain rfl | rfl : q = 1 ∨ q = 2 := by omega
    · decide
    · decide
  notPassed q hq hqj := by
    obtain rfl : q = 2 := by omega
    rintro (⟨d, hd, -⟩ | ⟨skip, hskip, -⟩)
    · cases hd
    · cases hskip
  active q hq hqj := by
    obtain rfl | rfl : q = 1 ∨ q = 2 := by omega
    · decide
    · decide
  few q hqj := by
    obtain rfl | rfl | rfl : q = 0 ∨ q = 1 ∨ q = 2 := by omega
    · decide
    · decide
    · decide
  timeout := by decide
  late := by decide

/-- In the last iteration id 0 is not listed again. -/
lemma lostResend_silent : ¬ ∃ k, 1 < k ∧ k ≤ 2 ∧
    ∃ ids, (iterationAt {} lostResend k).notified = some ids ∧ 0 ∈ ids := by
  rintro ⟨k, hk, hkj, ids, hnotified, -⟩
  obtain rfl : k = 2 := by omega
  cases hnotified

theorem asked_again_iff_lostResend : ¬ ∃ k₀ k, 1 < k₀ ∧ k₀ < k ∧ k ≤ 2
    ∧ ((stateAt {} lostResend k₀).beforeNotify {} (lostResend k₀)).Overflows
    ∧ ((stateAt {} lostResend k).beforeNotify {} (lostResend k)).entriesBefore 0
      < vcMaxMissingIdsPerNotify := fun hcond =>
  lostResend_silent ((asked_again_iff (idsBelow_script (by decide))
    (monotoneClock_script (by decide)) awaitsResend_lostResend).mpr hcond)

/-- A lost resend is not asked for again. -/
theorem lostResend_not_asked_again :
    ¬ ∀ (cfg : ReorderConfig) (ticks : ℕ → Tick), IdsBelow uint64Size ticks →
      MonotoneClock ticks → ∀ i j x, AwaitsResend cfg ticks i j x →
        ∃ k, i < k ∧ k ≤ j ∧
          ∃ ids, (iterationAt cfg ticks k).notified = some ids ∧ x ∈ ids := by
  intro h
  exact lostResend_silent (h {} lostResend (idsBelow_script (by decide))
    (monotoneClock_script (by decide)) 1 2 0 awaitsResend_lostResend)

end Reorder
end TcpUdp
