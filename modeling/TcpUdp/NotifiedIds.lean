import TcpUdp.ReorderTheorems

/-!
# The memory of notified ids

Four places edit `notifiedMissingIds`: a notification adds up to 64 ids, a memory of more than
1000 ids is emptied before that, a delivery takes its id out, and a skip empties it. Every phase
of an iteration keeps the ids at or beyond `nextMessageId`, and their number at or below 1064.

The scan for missing ids passes over what it remembers and stops at 64 others, so its length does
not depend on how far ahead the buffered ids are: `scanBelow_le`.
-/

namespace TcpUdp
namespace Reorder

open Lib

variable {s s' : Reorder} {tick : Tick}

/-! ## The ids the scan looks at -/

/-- `collectBelow`, with the number of ids looked at. -/
def scanBelow (notified : Finset ℕ) : ℕ → ℕ → List ℕ → List ℕ × ℕ
  | 0, _, missingIds => (missingIds, 0)
  | count + 1, id, missingIds =>
    if id ∉ notified then
      let missingIds := missingIds ++ [id]
      if missingIds.length ≥ vcMaxMissingIdsPerNotify then (missingIds, 1)
      else
        let (missingIds, visited) := scanBelow notified count (id + 1) missingIds
        (missingIds, visited + 1)
    else
      let (missingIds, visited) := scanBelow notified count (id + 1) missingIds
      (missingIds, visited + 1)

/-- `collectMissing`, with the number of ids looked at for each buffered id it comes to. -/
def scanMissing (notified : Finset ℕ) (expected : ℕ) : List ℕ → List ℕ → List ℕ × List ℕ
  | [], missingIds => (missingIds, [])
  | key :: keys, missingIds =>
    let (missingIds, visited) := scanBelow notified (key - expected) expected missingIds
    if missingIds.length ≥ vcMaxMissingIdsPerNotify then (missingIds, [visited])
    else
      let (missingIds, visits) := scanMissing notified expected keys missingIds
      (missingIds, visited :: visits)

/-- How many ids `sendMissingNotifications` looks at, for each buffered id it comes to. -/
def visits (cfg : ReorderConfig) (s : Reorder) (now : ℤ) : List ℕ :=
  if s.receivedDataMap.entries.isEmpty || !s.gapTimerActive then []
  else if now - s.gapFirstSeen < cfg.missingNotifyIntervalMs then []
  else (scanMissing s.notifiedMissingIds s.nextMessageId s.receivedDataMap.keys []).2

lemma scanBelow_fst (notified : Finset ℕ) (count id : ℕ) (acc : List ℕ) :
    (scanBelow notified count id acc).1 = collectBelow notified count id acc := by
  induction count generalizing id acc with
  | zero => rfl
  | succ count ih =>
    rw [scanBelow, collectBelow]
    by_cases hid : id ∉ notified
    · rw [if_pos hid, if_pos hid]
      simp only
      split_ifs
      · rfl
      · exact ih _ _
    · rw [if_neg hid, if_neg hid]
      exact ih _ _

/-- The scan that counts finds what the scan finds. -/
lemma scanMissing_fst (notified : Finset ℕ) (expected : ℕ) (keys acc : List ℕ) :
    (scanMissing notified expected keys acc).1 = collectMissing notified expected keys acc := by
  induction keys generalizing acc with
  | nil => rfl
  | cons key keys ih =>
    have hround := scanBelow_fst notified (key - expected) expected acc
    rw [scanMissing, collectMissing]
    simp only [hround]
    split_ifs
    · rfl
    · exact ih _

/-- What is looked at is remembered, or fills up the list. -/
lemma scanBelow_le (notified : Finset ℕ) (count id : ℕ) {acc : List ℕ}
    (h : acc.length < vcMaxMissingIdsPerNotify) :
    (scanBelow notified count id acc).2
      ≤ (notified.filter fun j => id ≤ j).card + (vcMaxMissingIdsPerNotify - acc.length) := by
  induction count generalizing id acc with
  | zero => exact Nat.zero_le _
  | succ count ih =>
    have hsub : (notified.filter fun j => id + 1 ≤ j) ⊆ notified.filter fun j => id ≤ j :=
      Finset.monotone_filter_right _ fun _ _ hj => Nat.le_of_succ_le hj
    rw [scanBelow]
    by_cases hid : id ∉ notified
    · rw [if_pos hid]
      simp only
      split_ifs with hfull
      · omega
      · have hrest := ih (id + 1) (not_le.mp hfull)
        have hcard := Finset.card_le_card hsub
        rw [List.length_append, List.length_singleton] at hrest
        simp only
        omega
    · rw [if_neg hid]
      have hrest := ih (id + 1) h
      -- `id` is one of those remembered from here on
      have hcard := Finset.card_lt_card (Finset.ssubset_iff_subset_ne.mpr ⟨hsub, fun heq => by
        have hmem : id ∈ notified.filter fun j => id ≤ j :=
          Finset.mem_filter.mpr ⟨not_not.mp hid, le_rfl⟩
        rw [← heq, Finset.mem_filter] at hmem
        omega⟩)
      simp only
      omega

lemma scanMissing_le (notified : Finset ℕ) (expected : ℕ) (keys : List ℕ) {acc : List ℕ}
    (h : acc.length < vcMaxMissingIdsPerNotify) :
    (scanMissing notified expected keys acc).2.length ≤ keys.length
      ∧ ∀ visited ∈ (scanMissing notified expected keys acc).2,
        visited ≤ notified.card + vcMaxMissingIdsPerNotify := by
  induction keys generalizing acc with
  | nil => exact ⟨le_rfl, fun _ hv => absurd hv List.not_mem_nil⟩
  | cons key keys ih =>
    have hround : (scanBelow notified (key - expected) expected acc).2
        ≤ notified.card + vcMaxMissingIdsPerNotify := by
      have hle := scanBelow_le notified (key - expected) expected h
      have hcard := Finset.card_filter_le notified fun j => expected ≤ j
      omega
    rw [scanMissing]
    simp only
    split_ifs with hfull
    · refine ⟨Nat.succ_le_succ (Nat.zero_le _), fun visited hv => ?_⟩
      rw [List.mem_singleton.mp hv]
      exact hround
    · obtain ⟨hlength, hvisits⟩ := ih (not_le.mp hfull)
      refine ⟨Nat.succ_le_succ hlength, fun visited hv => ?_⟩
      rcases List.mem_cons.mp hv with rfl | hv
      · exact hround
      · exact hvisits visited hv

/-- For each buffered id, no more ids are looked at than are remembered, and 64. -/
lemma visits_le (cfg : ReorderConfig) (s : Reorder) (now : ℤ) :
    (s.visits cfg now).length ≤ s.receivedDataMap.size
      ∧ ∀ visited ∈ s.visits cfg now,
        visited ≤ s.notifiedMissingIds.card + vcMaxMissingIdsPerNotify := by
  have hempty : ([] : List ℕ).length < vcMaxMissingIdsPerNotify := by decide
  have hscan := scanMissing_le s.notifiedMissingIds s.nextMessageId s.receivedDataMap.keys hempty
  have hkeys : s.receivedDataMap.keys.length = s.receivedDataMap.size := List.length_map _
  rw [hkeys] at hscan
  rw [visits]
  split_ifs
  · exact ⟨Nat.zero_le _, fun _ hv => absurd hv List.not_mem_nil⟩
  · exact ⟨Nat.zero_le _, fun _ hv => absurd hv List.not_mem_nil⟩
  · exact hscan

/-! ## The memory through an iteration -/

/-- The most that a notification leaves in the memory. -/
def notifiedBound : ℕ := maxNotifiedMissingIds + vcMaxMissingIdsPerNotify

structure Relevant (s : Reorder) : Prop where
  ahead : ∀ id ∈ s.notifiedMissingIds, s.nextMessageId ≤ id
  card : s.notifiedMissingIds.card ≤ notifiedBound

lemma relevant_of_empty (h : s.notifiedMissingIds = ∅) : Relevant s := by
  refine ⟨fun id hid => ?_, ?_⟩
  · rw [h] at hid
    exact absurd hid (Finset.notMem_empty id)
  · rw [h, Finset.card_empty]
    exact Nat.zero_le _

/-- A delivered id is not remembered any more, so that the counter passes none that is. -/
lemma Relevant.drained (h : Relevant s) {out : List DeliveryItem} (hd : Drained s out s') :
    Relevant s' := by
  refine ⟨fun id hid => ?_, (Finset.card_le_card fun id hid => ?_).trans h.card⟩
  · -- the ids delivered are those from the counter on, one after the other
    obtain ⟨hmem, hout⟩ := (hd.notified id).mp hid
    have hle := h.ahead id hmem
    have hnext : s'.nextMessageId ≤ s.nextMessageId + out.length := by
      rw [hd.next]
      exact Nat.mod_le _ _
    omega
  · exact ((hd.notified id).mp hid).1

lemma Relevant.dequeued (h : Relevant s) (tick : Tick) : Relevant (s.dequeued tick) := by
  rw [dequeued_eq]
  exact ⟨h.ahead, h.card⟩

lemma Relevant.checkGap (h : Relevant s) (hs : Ahead s) (cfg : ReorderConfig) (now : ℤ) :
    Relevant (s.checkGap cfg now).1 := by
  rcases checkGap_cases cfg s now with ⟨-, heq⟩ | ⟨-, -, heq⟩ | ⟨-, -, -, heq⟩
    | ⟨-, -, skipTo, hmem, hmin, heq⟩
  · rw [heq]
    exact ⟨h.ahead, h.card⟩
  · rw [heq]
    exact ⟨h.ahead, h.card⟩
  · rw [heq]
    exact h
  · rw [heq]
    have hskipped : Relevant (s.skipped skipTo) := relevant_of_empty rfl
    exact hskipped.drained (Reorder.drained (ahead_skipped hs hmem hmin))

lemma length_missingIds_le (s : Reorder) : s.missingIds.length ≤ vcMaxMissingIdsPerNotify := by
  rw [missingIds_eq]
  exact List.length_take_le _ _

lemma Relevant.rememberNotified (h : Relevant s) : Relevant (s.rememberNotified s.missingIds) := by
  have hlisted : s.missingIds.toFinset.card ≤ vcMaxMissingIdsPerNotify :=
    (List.toFinset_card_le _).trans (length_missingIds_le s)
  -- the memory is emptied before the ids are added, not after
  have hcleared : (if s.notifiedMissingIds.card > maxNotifiedMissingIds then ∅
      else s.notifiedMissingIds).card ≤ maxNotifiedMissingIds := by
    split_ifs with hlarge
    · exact Nat.zero_le _
    · exact not_lt.mp hlarge
  refine ⟨fun id hid => ?_, ?_⟩
  · rcases Finset.mem_union.mp hid with hid | hid
    · split_ifs at hid
      · exact absurd hid (Finset.notMem_empty id)
      · exact h.ahead id hid
    · exact (of_mem_missingIds (List.mem_toFinset.mp hid)).1
  · exact (Finset.card_union_le _ _).trans (Nat.add_le_add hcleared hlisted)

lemma Relevant.sendMissingNotifications (h : Relevant s) (cfg : ReorderConfig) (now : ℤ) :
    Relevant (s.sendMissingNotifications cfg now).1 := by
  rcases sendMissingNotifications_cases cfg s now with ⟨-, heq⟩ | ⟨-, heq⟩
  · rw [heq]
    exact h.rememberNotified
  · rw [heq]
    exact h

lemma Relevant.step (h : Relevant s) (hs : Ahead s) (cfg : ReorderConfig)
    (hids : ∀ item ∈ tick.arrivals, item.messageId < uint64Size) : Relevant (s.step cfg tick) := by
  have hahead := ahead_dequeued hs hids
  have hdrained := drained_beforeGap hahead
  have hbefore := (h.dequeued tick).drained hdrained
  exact (hbefore.checkGap (hdrained.ahead hahead) cfg tick.gapNow).sendMissingNotifications cfg _

lemma relevant_stateAt (cfg : ReorderConfig) {ticks : ℕ → Tick} (hids : IdsBelow uint64Size ticks)
    (n : ℕ) : Relevant (stateAt cfg ticks n) := by
  induction n with
  | zero => exact relevant_of_empty rfl
  | succ n ih => exact ih.step (resting_stateAt cfg hids n).ahead cfg (hids n)

/-- After every iteration the memory holds at most 1064 ids, none of them passed, and the timer
runs only with something buffered; and every scan is bounded by the memory. -/
theorem notifiedIds_bounded (cfg : ReorderConfig) {ticks : ℕ → Tick}
    (hids : IdsBelow uint64Size ticks) (n : ℕ) :
    (∀ id ∈ (stateAt cfg ticks n).notifiedMissingIds, (stateAt cfg ticks n).nextMessageId ≤ id)
    ∧ (stateAt cfg ticks n).notifiedMissingIds.card ≤ 1064
    ∧ ((stateAt cfg ticks n).gapTimerActive = true →
      (stateAt cfg ticks n).receivedDataMap.keys ≠ [])
    ∧ ∀ (s : Reorder) (now : ℤ),
      (scanMissing s.notifiedMissingIds s.nextMessageId s.receivedDataMap.keys []).1 = s.missingIds
      ∧ (s.visits cfg now).length ≤ s.receivedDataMap.size
      ∧ ∀ visited ∈ s.visits cfg now, visited ≤ s.notifiedMissingIds.card + 64 := by
  have hrelevant := relevant_stateAt cfg hids n
  exact ⟨hrelevant.ahead, hrelevant.card, (resting_stateAt cfg hids n).timed, fun s now =>
    ⟨scanMissing_fst _ _ _ _, visits_le cfg s now⟩⟩

/-- Id 5 comes first, and after 300 ms the five before it are asked for. -/
theorem notifiedIds_bounded_fiveMissing :
    (stateAt {} (script [tickAt 0 [⟨5, [1], 0⟩], tickAt 300 []] 300) 2).notifiedMissingIds.card
        ≤ 1064
      ∧ (stateAt {} (script [tickAt 0 [⟨5, [1], 0⟩]] 100) 1).visits {} 300 = [5] := by
  have hids : IdsBelow uint64Size (script [tickAt 0 [⟨5, [1], 0⟩], tickAt 300 []] 300) :=
    idsBelow_script (by decide)
  obtain ⟨-, hcard, -⟩ := notifiedIds_bounded {} hids 2
  exact ⟨hcard, by decide⟩

end Reorder
end TcpUdp
