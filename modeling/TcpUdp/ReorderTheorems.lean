import TcpUdp.Reorder
import Mathlib.Data.List.TakeWhile

/-!
# What an iteration of the reorder thread does

One lemma for each phase of `reorderIteration`: `absorbAll_eq` for dequeuing, `Drained` for
delivering, `checkGap_cases` for the gap timer, `sendMissingNotifications_cases` for the
notification. The properties of runs are derived from these alone.
-/

namespace TcpUdp
namespace Reorder

open Lib

variable {s : Reorder} {tick : Tick}

/-! ## Dequeuing -/

/-- The items that are not below `nextMessageId`. -/
def kept (s : Reorder) (arrivals : List DeliveryItem) : List DeliveryItem :=
  arrivals.filter fun item => s.nextMessageId ≤ item.messageId

/-- The buffer after the items of a list were inserted in order. -/
def emplaceAll (m : SortedMap ℕ ReceivedItem) (items : List DeliveryItem) :
    SortedMap ℕ ReceivedItem :=
  items.foldl (fun m item => m.tryEmplace item.messageId item.received) m

lemma mem_kept {arrivals : List DeliveryItem} {item : DeliveryItem} :
    item ∈ s.kept arrivals ↔ item ∈ arrivals ∧ s.nextMessageId ≤ item.messageId := by
  rw [kept, List.mem_filter, decide_eq_true_eq]

lemma foldl_absorb (arrivals : List DeliveryItem) (m : SortedMap ℕ ReceivedItem) (b : Bool) :
    arrivals.foldl absorb ({ s with receivedDataMap := m }, b)
      = ({ s with receivedDataMap := emplaceAll m (s.kept arrivals) },
          b || !(s.kept arrivals).isEmpty) := by
  induction arrivals generalizing m b with
  | nil => rw [List.foldl_nil, kept, List.filter_nil]; simp [emplaceAll]
  | cons item arrivals ih =>
    rw [List.foldl_cons, absorb]
    dsimp only
    by_cases h : item.messageId < s.nextMessageId
    · rw [if_pos h, ih, kept, kept, List.filter_cons_of_neg (by simpa using h)]
    · rw [if_neg h, ih, kept, kept, List.filter_cons_of_pos (by simpa using h)]
      simp [emplaceAll]

/-- Dequeuing inserts the kept items and touches nothing else. -/
lemma absorbAll_eq (s : Reorder) (arrivals : List DeliveryItem) :
    s.absorbAll arrivals
      = ({ s with receivedDataMap := emplaceAll s.receivedDataMap (s.kept arrivals) },
          !(s.kept arrivals).isEmpty) := by
  rw [absorbAll, show s = { s with receivedDataMap := s.receivedDataMap } from rfl,
    foldl_absorb, Bool.false_or]

/-- What was buffered stays; else the first of the items with the id is buffered. -/
lemma find?_emplaceAll (m : SortedMap ℕ ReceivedItem) (items : List DeliveryItem) (id : ℕ) :
    (emplaceAll m items).find? id = (m.find? id).or
      ((items.find? fun item => item.messageId = id).map DeliveryItem.received) := by
  induction items generalizing m with
  | nil => rw [emplaceAll, List.foldl_nil, List.find?_nil, Option.map_none, Option.or_none]
  | cons item items ih =>
    have hfold : emplaceAll m (item :: items)
        = emplaceAll (m.tryEmplace item.messageId item.received) items := rfl
    rw [hfold, ih, SortedMap.find?_tryEmplace]
    by_cases h : item.messageId = id
    · rw [if_pos h.symm, List.find?_cons_of_pos (by simpa using h), h]
      cases m.find? id <;> rfl
    · rw [if_neg (Ne.symm h), List.find?_cons_of_neg (by simpa using h)]

lemma mem_keys_emplaceAll {m : SortedMap ℕ ReceivedItem} {items : List DeliveryItem} {id : ℕ} :
    id ∈ (emplaceAll m items).keys ↔ id ∈ m.keys ∨ ∃ item ∈ items, item.messageId = id := by
  induction items generalizing m with
  | nil => simp [emplaceAll]
  | cons item items ih =>
    have hfold : emplaceAll m (item :: items)
        = emplaceAll (m.tryEmplace item.messageId item.received) items := rfl
    rw [hfold, ih, SortedMap.mem_keys_tryEmplace]
    simp only [List.exists_mem_cons_iff, or_assoc, eq_comm (a := id), or_left_comm]

/-! ## Delivering -/

/-- No buffered id is below `nextMessageId`, and all are 64-bit. -/
structure Ahead (s : Reorder) : Prop where
  next_lt : s.nextMessageId < uint64Size
  keys : ∀ k ∈ s.receivedDataMap.keys, s.nextMessageId ≤ k ∧ k < uint64Size

/-- `out` are the consecutive buffered items from `nextMessageId` on, and `s'` is the state
with these delivered. After the last 64-bit id the counter is back at zero. -/
structure Drained (s : Reorder) (out : List DeliveryItem) (s' : Reorder) : Prop where
  ids : out.map DeliveryItem.messageId = List.range' s.nextMessageId out.length
  bound : s.nextMessageId + out.length ≤ uint64Size
  next : s'.nextMessageId = (s.nextMessageId + out.length) % uint64Size
  items : ∀ item ∈ out, s.receivedDataMap.find? item.messageId = some item.received
  find? : ∀ id, s'.receivedDataMap.find? id
    = if s.nextMessageId ≤ id ∧ id < s.nextMessageId + out.length then none
      else s.receivedDataMap.find? id
  notified : ∀ id, id ∈ s'.notifiedMissingIds ↔ id ∈ s.notifiedMissingIds
    ∧ ¬ (s.nextMessageId ≤ id ∧ id < s.nextMessageId + out.length)
  gapTimerActive : s'.gapTimerActive = s.gapTimerActive
  gapFirstSeen : s'.gapFirstSeen = s.gapFirstSeen
  stuck : s'.receivedDataMap.find? s'.nextMessageId = none

lemma drained_nil (h : Ahead s) (hstuck : s.receivedDataMap.find? s.nextMessageId = none) :
    Drained s [] s where
  ids := rfl
  bound := le_of_lt h.next_lt
  next := (Nat.mod_eq_of_lt h.next_lt).symm
  items := fun _ hitem => (nomatch hitem)
  find? := fun id => by rw [List.length_nil, if_neg (by omega)]
  notified := fun id => by rw [List.length_nil]; exact ⟨fun hid => ⟨hid, by omega⟩, And.left⟩
  gapTimerActive := rfl
  gapFirstSeen := rfl
  stuck := hstuck

/-- The state after one pass of the loop. -/
def deliverNext (s : Reorder) : Reorder :=
  { s with
    notifiedMissingIds := s.notifiedMissingIds.erase s.nextMessageId
    receivedDataMap := s.receivedDataMap.erase s.nextMessageId
    nextMessageId := (s.nextMessageId + 1) % uint64Size }

lemma drainLoop_of_some {fuel : ℕ} {item : ReceivedItem}
    (h : s.receivedDataMap.find? s.nextMessageId = some item) :
    drainLoop (fuel + 1) s
      = (⟨s.nextMessageId, item.data, item.sourceConnIndex⟩ :: (drainLoop fuel s.deliverNext).1,
          (drainLoop fuel s.deliverNext).2) := by
  rw [drainLoop, h]
  rfl

/-- Either the counter goes up by one, or the last 64-bit id was delivered and nothing is
left in the buffer. -/
lemma ahead_deliverNext (h : Ahead s) : Ahead s.deliverNext ∧
    (s.deliverNext.nextMessageId = s.nextMessageId + 1 ∨
      (s.nextMessageId + 1 = uint64Size ∧ s.deliverNext.receivedDataMap.keys = [])) := by
  have hlt := h.next_lt
  have hkeys : ∀ k ∈ s.deliverNext.receivedDataMap.keys,
      s.nextMessageId + 1 ≤ k ∧ k < uint64Size := by
    intro k hk
    obtain ⟨hne, hk⟩ := (SortedMap.mem_keys_erase _ _ _).mp hk
    have := h.keys k hk
    omega
  have hnext : s.deliverNext.nextMessageId = (s.nextMessageId + 1) % uint64Size := rfl
  rcases Nat.lt_or_ge (s.nextMessageId + 1) uint64Size with hsucc | hwrap
  · rw [Nat.mod_eq_of_lt hsucc] at hnext
    exact ⟨⟨hnext ▸ hsucc, fun k hk => hnext ▸ hkeys k hk⟩, Or.inl hnext⟩
  · -- the last 64-bit id was delivered, and no buffered id can be beyond it
    have hempty : s.deliverNext.receivedDataMap.keys = [] := by
      refine List.eq_nil_iff_forall_not_mem.mpr fun k hk => ?_
      have := hkeys k hk
      omega
    refine ⟨⟨hnext ▸ Nat.mod_lt _ (by decide), fun k hk => ?_⟩, Or.inr ⟨by omega, hempty⟩⟩
    rw [hempty] at hk
    cases hk

/-- One item, and then what the rest of the loop delivers. -/
lemma Drained.cons {s' : Reorder} {out : List DeliveryItem} {item : ReceivedItem} (hs : Ahead s)
    (hitem : s.receivedDataMap.find? s.nextMessageId = some item)
    (h : Drained s.deliverNext out s') :
    Drained s (⟨s.nextMessageId, item.data, item.sourceConnIndex⟩ :: out) s' := by
  have hfind : ∀ id, s.deliverNext.receivedDataMap.find? id
      = if id = s.nextMessageId then none else s.receivedDataMap.find? id :=
    SortedMap.find?_erase _ _
  have hmem : ∀ id, id ∈ s.deliverNext.notifiedMissingIds
      ↔ id ≠ s.nextMessageId ∧ id ∈ s.notifiedMissingIds := fun id => Finset.mem_erase
  have hlt := hs.next_lt
  have hnext : s.deliverNext.nextMessageId = (s.nextMessageId + 1) % uint64Size := rfl
  -- where the counter stands, and that nothing more is delivered when it is back at zero
  have hcases : out = [] ∨ s.deliverNext.nextMessageId = s.nextMessageId + 1 := by
    rcases (ahead_deliverNext hs).2 with hsucc | ⟨-, hempty⟩
    · exact Or.inr hsucc
    · refine Or.inl (List.eq_nil_iff_forall_not_mem.mpr fun it hit => ?_)
      have hsome := h.items it hit
      have hnone := (SortedMap.find?_eq_none_iff _).mpr
        (List.eq_nil_iff_forall_not_mem.mp hempty it.messageId)
      rw [hnone] at hsome
      cases hsome
  have hrange : ∀ id, (s.nextMessageId ≤ id ∧ id < s.nextMessageId + (out.length + 1)) ↔
      id = s.nextMessageId ∨ (s.deliverNext.nextMessageId ≤ id
        ∧ id < s.deliverNext.nextMessageId + out.length) := by
    intro id
    rcases hcases with rfl | hsucc
    · rw [List.length_nil]; omega
    · omega
  refine ⟨?_, ?_, ?_, ?_, fun id => ?_, fun id => ?_, h.gapTimerActive, h.gapFirstSeen, h.stuck⟩
  · rw [List.map_cons, List.length_cons, List.range'_succ, h.ids]
    rcases hcases with rfl | hsucc
    · rfl
    · rw [hsucc]
  · rcases hcases with rfl | hsucc
    · exact hlt
    · have := h.bound
      rw [List.length_cons]
      omega
  · rw [h.next, hnext, List.length_cons, Nat.mod_add_mod, Nat.add_assoc, Nat.add_comm 1]
  · intro it hit
    rcases List.mem_cons.mp hit with rfl | hit
    · exact hitem
    · have hsome := h.items it hit
      rw [hfind] at hsome
      split_ifs at hsome
      exact hsome
  · rw [h.find?, hfind, List.length_cons]
    simp only [hrange]
    split_ifs <;> first | rfl | omega
  · rw [h.notified, hmem, List.length_cons, hrange]
    tauto

lemma drained_drainLoop (fuel : ℕ) (hs : Ahead s) (hfuel : s.receivedDataMap.size ≤ fuel) :
    Drained s (drainLoop fuel s).1 (drainLoop fuel s).2 := by
  induction fuel generalizing s with
  | zero =>
    -- out of fuel, which the size of the buffer allows only when it is empty
    have hempty : s.receivedDataMap.entries = [] := List.length_eq_zero_iff.mp (by
      rw [SortedMap.size] at hfuel; omega)
    refine drained_nil hs ?_
    rw [SortedMap.find?, hempty]
    rfl
  | succ fuel ih =>
    cases hfind : s.receivedDataMap.find? s.nextMessageId with
    | none =>
      rw [drainLoop, hfind]
      exact drained_nil hs hfind
    | some item =>
      rw [drainLoop_of_some hfind]
      -- one item less in the buffer pays for one pass
      have hmem : s.nextMessageId ∈ s.receivedDataMap.keys :=
        (SortedMap.mem_keys_iff _).mpr ⟨item, hfind⟩
      have hsize := SortedMap.size_erase_lt _ hmem
      exact (ih (ahead_deliverNext hs).1
        (show (s.receivedDataMap.erase s.nextMessageId).size ≤ fuel by omega)).cons hs hfind

/-- What `drainReceivedDataMap` does: its size bounds its passes. -/
lemma drained (hs : Ahead s) :
    Drained s s.drainReceivedDataMap.1 s.drainReceivedDataMap.2 :=
  drained_drainLoop _ hs le_rfl

lemma Drained.next_of_ne {s' : Reorder} {out : List DeliveryItem} (h : Drained s out s')
    (hne : s.nextMessageId + out.length ≠ uint64Size) :
    s'.nextMessageId = s.nextMessageId + out.length := by
  rw [h.next, Nat.mod_eq_of_lt (lt_of_le_of_ne h.bound hne)]

lemma Drained.mem_keys {s' : Reorder} {out : List DeliveryItem} (h : Drained s out s') {k : ℕ} :
    k ∈ s'.receivedDataMap.keys ↔ k ∈ s.receivedDataMap.keys
      ∧ ¬ (s.nextMessageId ≤ k ∧ k < s.nextMessageId + out.length) := by
  rw [SortedMap.mem_keys_iff, SortedMap.mem_keys_iff, h.find?]
  split_ifs with hk <;> simp [hk]

/-- The ids delivered are the ones between the old and the new counter. -/
lemma Drained.mem_ids {s' : Reorder} {out : List DeliveryItem} (h : Drained s out s') {id : ℕ} :
    (∃ item ∈ out, item.messageId = id)
      ↔ s.nextMessageId ≤ id ∧ id < s.nextMessageId + out.length := by
  rw [← List.mem_range'_1, ← h.ids, List.mem_map]

/-- A buffered id that is left is beyond everything that was delivered. -/
lemma Drained.le_of_mem_keys {s' : Reorder} {out : List DeliveryItem} (hs : Ahead s)
    (h : Drained s out s') {k : ℕ} (hk : k ∈ s'.receivedDataMap.keys) :
    s'.nextMessageId = s.nextMessageId + out.length ∧ s'.nextMessageId < k := by
  obtain ⟨hmem, hout⟩ := h.mem_keys.mp hk
  have hkey := hs.keys k hmem
  have hnext := h.next_of_ne (by omega)
  refine ⟨hnext, lt_of_le_of_ne (by omega) fun heq => ?_⟩
  exact (SortedMap.find?_eq_none_iff _).mp h.stuck (heq ▸ hk)

lemma Drained.ahead {s' : Reorder} {out : List DeliveryItem} (hs : Ahead s)
    (h : Drained s out s') : Ahead s' :=
  ⟨h.next ▸ Nat.mod_lt _ (by decide), fun _ hk =>
    ⟨le_of_lt (h.le_of_mem_keys hs hk).2, (hs.keys _ (h.mem_keys.mp hk).1).2⟩⟩

/-- Something is left in the buffer exactly when an id is missing below a buffered one. -/
lemma Drained.left_iff {s' : Reorder} {out : List DeliveryItem} (hs : Ahead s)
    (h : Drained s out s') : s'.receivedDataMap.keys ≠ [] ↔
      ∃ gap k, s.nextMessageId ≤ gap ∧ gap < k ∧ gap ∉ s.receivedDataMap.keys
        ∧ k ∈ s.receivedDataMap.keys := by
  constructor
  · intro hne
    obtain ⟨k, hk⟩ := List.exists_mem_of_ne_nil _ hne
    obtain ⟨hnext, hlt⟩ := h.le_of_mem_keys hs hk
    refine ⟨s'.nextMessageId, k, by omega, hlt, fun hmem => ?_, (h.mem_keys.mp hk).1⟩
    -- the id where delivery stopped is not buffered now, and was not delivered
    have hnot := (SortedMap.find?_eq_none_iff _).mp h.stuck
    exact hnot (h.mem_keys.mpr ⟨hmem, by omega⟩)
  · rintro ⟨gap, k, hle, hlt, hgap, hk⟩ hnil
    -- were everything delivered, the missing id would be too
    have hgone : k ∉ s'.receivedDataMap.keys := by rw [hnil]; exact List.not_mem_nil
    have hrange : s.nextMessageId ≤ k ∧ k < s.nextMessageId + out.length := by
      by_contra hrange
      exact hgone (h.mem_keys.mpr ⟨hk, hrange⟩)
    obtain ⟨item, hitem, rfl⟩ := h.mem_ids.mpr (show s.nextMessageId ≤ gap
      ∧ gap < s.nextMessageId + out.length by omega)
    exact hgap ((SortedMap.mem_keys_iff _).mpr ⟨_, h.items item hitem⟩)

lemma drain_of_stuck (h : s.receivedDataMap.find? s.nextMessageId = none) :
    s.drainReceivedDataMap = ([], s) := by
  rw [drainReceivedDataMap]
  cases s.receivedDataMap.size with
  | zero => rfl
  | succ fuel => rw [drainLoop, h]

/-! ## The phases of an iteration -/

/-- After dequeuing. -/
def dequeued (s : Reorder) (tick : Tick) : Reorder := (s.absorbAll tick.arrivals).1

/-- After the first delivery pass. -/
def beforeGap (s : Reorder) (tick : Tick) : Reorder :=
  (s.dequeued tick).drainReceivedDataMap.2

/-- After the gap check. -/
def beforeNotify (cfg : ReorderConfig) (s : Reorder) (tick : Tick) : Reorder :=
  ((s.beforeGap tick).checkGap cfg tick.gapNow).1

/-- What the timeout branch does before it delivers again. -/
def skipped (s : Reorder) (skipTo : ℕ) : Reorder :=
  { s with nextMessageId := skipTo, notifiedMissingIds := ∅, gapTimerActive := false }

lemma dequeued_eq (s : Reorder) (tick : Tick) : s.dequeued tick
    = { s with receivedDataMap := emplaceAll s.receivedDataMap (s.kept tick.arrivals) } := by
  rw [dequeued, absorbAll_eq]

lemma gotAny_eq (cfg : ReorderConfig) (s : Reorder) (tick : Tick) :
    (s.reorderIteration cfg tick).gotAny = !(s.kept tick.arrivals).isEmpty := by
  have h : (s.reorderIteration cfg tick).gotAny = (s.absorbAll tick.arrivals).2 := rfl
  rw [h, absorbAll_eq]

lemma mem_keys_dequeued {tick : Tick} {id : ℕ} :
    id ∈ (s.dequeued tick).receivedDataMap.keys ↔ id ∈ s.receivedDataMap.keys
      ∨ s.nextMessageId ≤ id ∧ ∃ item ∈ tick.arrivals, item.messageId = id := by
  rw [dequeued_eq, mem_keys_emplaceAll]
  refine or_congr_right ⟨?_, ?_⟩
  · rintro ⟨item, hitem, rfl⟩
    obtain ⟨hmem, hle⟩ := mem_kept.mp hitem
    exact ⟨hle, item, hmem, rfl⟩
  · rintro ⟨hle, item, hmem, rfl⟩
    exact ⟨item, mem_kept.mpr ⟨hmem, hle⟩, rfl⟩

lemma ahead_dequeued (h : Ahead s) {tick : Tick}
    (hids : ∀ item ∈ tick.arrivals, item.messageId < uint64Size) : Ahead (s.dequeued tick) := by
  have hnext : (s.dequeued tick).nextMessageId = s.nextMessageId := by rw [dequeued_eq]
  refine ⟨hnext ▸ h.next_lt, fun k hk => ?_⟩
  rw [hnext]
  rcases mem_keys_dequeued.mp hk with hk | ⟨hle, item, hitem, rfl⟩
  · exact h.keys k hk
  · exact ⟨hle, hids item hitem⟩

/-- The gap check does one of four things: the buffer is empty, the timer is armed, the
timer is running, or the timeout has come. -/
lemma checkGap_cases (cfg : ReorderConfig) (s : Reorder) (now : ℤ) :
    (s.receivedDataMap.keys = [] ∧
      s.checkGap cfg now = ({ s with gapTimerActive := false }, [], none)) ∨
    (s.receivedDataMap.keys ≠ [] ∧ s.gapTimerActive = false ∧
      s.checkGap cfg now = ({ s with gapFirstSeen := now, gapTimerActive := true }, [], none)) ∨
    (s.receivedDataMap.keys ≠ [] ∧ s.gapTimerActive = true ∧
      now - s.gapFirstSeen < cfg.reorderTimeoutMs ∧ s.checkGap cfg now = (s, [], none)) ∨
    (s.gapTimerActive = true ∧ cfg.reorderTimeoutMs ≤ now - s.gapFirstSeen ∧
      ∃ skipTo ∈ s.receivedDataMap.keys, (∀ k ∈ s.receivedDataMap.keys, skipTo ≤ k) ∧
        s.checkGap cfg now = ((s.skipped skipTo).drainReceivedDataMap.2,
          (s.skipped skipTo).drainReceivedDataMap.1,
          some ⟨s.nextMessageId, skipTo, s.receivedDataMap⟩)) := by
  unfold checkGap
  cases hhead : s.receivedDataMap.entries.head? with
  | none =>
    refine Or.inl ⟨(SortedMap.keys_eq_nil_iff _).mpr (List.head?_eq_none_iff.mp hhead), rfl⟩
  | some entry =>
    obtain ⟨skipTo, item⟩ := entry
    have hmem := s.receivedDataMap.head_mem_keys hhead
    have hne : s.receivedDataMap.keys ≠ [] := List.ne_nil_of_mem hmem
    refine Or.inr ?_
    dsimp only
    cases hactive : s.gapTimerActive with
    | false => exact Or.inl ⟨hne, rfl, rfl⟩
    | true =>
      refine Or.inr ?_
      by_cases helapsed : now - s.gapFirstSeen ≥ cfg.reorderTimeoutMs
      · refine Or.inr ⟨rfl, helapsed, skipTo, hmem,
          fun k hk => s.receivedDataMap.head_le_of_mem_keys hhead hk, ?_⟩
        simp only [Bool.not_true, Bool.false_eq_true, if_false, if_pos helapsed]
        rfl
      · refine Or.inl ⟨hne, rfl, not_le.mp helapsed, ?_⟩
        simp only [Bool.not_true, Bool.false_eq_true, if_false, if_neg helapsed]

/-! ## The ids of a notification -/

/-- The ids from `nextMessageId` up to `limit` that are not remembered as notified: what one
round of the outer loop looks for. -/
def unnotified (s : Reorder) (limit : ℕ) : List ℕ :=
  (List.range' s.nextMessageId (limit - s.nextMessageId)).filter
    fun id => id ∉ s.notifiedMissingIds

lemma mem_unnotified {limit id : ℕ} : id ∈ s.unnotified limit
    ↔ (s.nextMessageId ≤ id ∧ id < limit) ∧ id ∉ s.notifiedMissingIds := by
  rw [unnotified, List.mem_filter, List.mem_range'_1, decide_eq_true_eq]
  refine and_congr_left fun _ => ?_
  omega

lemma collectBelow_eq (notified : Finset ℕ) (count id : ℕ) {acc : List ℕ}
    (h : acc.length < vcMaxMissingIdsPerNotify) : collectBelow notified count id acc
      = (acc ++ (List.range' id count).filter fun id => id ∉ notified).take
          vcMaxMissingIdsPerNotify := by
  induction count generalizing id acc with
  | zero =>
    rw [collectBelow, List.range'_zero, List.filter_nil, List.append_nil,
      List.take_of_length_le (le_of_lt h)]
  | succ count ih =>
    rw [collectBelow, List.range'_succ]
    by_cases hid : id ∉ notified
    · rw [if_pos hid, List.filter_cons_of_pos (by simpa using hid),
        List.append_cons acc id (List.filter _ _)]
      dsimp only
      split_ifs with hfull
      · -- the list is full with `id`, and the cut falls right behind it
        have hlen : (acc ++ [id]).length = vcMaxMissingIdsPerNotify := by
          rw [List.length_append, List.length_singleton] at hfull ⊢
          omega
        rw [← hlen, List.take_left]
      · exact ih (id + 1) (not_le.mp hfull)
    · rw [if_neg hid, List.filter_cons_of_neg (by simpa using hid)]
      exact ih (id + 1) h

lemma collectMissing_eq (s : Reorder) (keys : List ℕ) {acc : List ℕ}
    (h : acc.length < vcMaxMissingIdsPerNotify) :
    collectMissing s.notifiedMissingIds s.nextMessageId keys acc
      = (acc ++ keys.flatMap s.unnotified).take vcMaxMissingIdsPerNotify := by
  induction keys generalizing acc with
  | nil =>
    rw [collectMissing, List.flatMap_nil, List.append_nil, List.take_of_length_le (le_of_lt h)]
  | cons key keys ih =>
    have hround : collectBelow s.notifiedMissingIds (key - s.nextMessageId) s.nextMessageId acc
        = (acc ++ s.unnotified key).take vcMaxMissingIdsPerNotify := collectBelow_eq _ _ _ h
    rw [collectMissing, List.flatMap_cons, ← List.append_assoc, hround, List.length_take]
    split_ifs with hfull
    · -- this round fills the list, so later rounds do not matter
      have hlen : vcMaxMissingIdsPerNotify ≤ (acc ++ s.unnotified key).length := by
        rw [List.length_append]
        rw [List.length_append] at hfull
        exact le_trans hfull (min_le_right _ _)
      rw [List.take_append_of_le_length hlen]
    · have hlen : (acc ++ s.unnotified key).length < vcMaxMissingIdsPerNotify := by
        rw [not_le, min_lt_iff] at hfull
        exact hfull.resolve_left (lt_irrefl _)
      rw [List.take_of_length_le (le_of_lt hlen)]
      exact ih hlen

/-- Every round starts at `nextMessageId` again, and the first 64 entries are listed. -/
lemma missingIds_eq (s : Reorder) : s.missingIds
    = (s.receivedDataMap.keys.flatMap s.unnotified).take vcMaxMissingIdsPerNotify := by
  rw [missingIds, collectMissing_eq s _ (by decide), List.nil_append]

/-- What is listed lies below a buffered id and was not remembered. -/
lemma of_mem_missingIds {id : ℕ} (h : id ∈ s.missingIds) : s.nextMessageId ≤ id ∧
    id ∉ s.notifiedMissingIds ∧ ∃ key ∈ s.receivedDataMap.keys, id < key := by
  rw [missingIds_eq] at h
  obtain ⟨key, hkey, hid⟩ := List.mem_flatMap.mp (List.mem_of_mem_take h)
  obtain ⟨⟨hle, hlt⟩, hnew⟩ := mem_unnotified.mp hid
  exact ⟨hle, hnew, key, hkey, hlt⟩

/-- How many entries the scan makes before it comes to `id`: all of the rounds for buffered
ids up to `id`, and the beginning of the next round. -/
def entriesBefore (s : Reorder) (id : ℕ) : ℕ :=
  ((s.receivedDataMap.keys.takeWhile (· ≤ id)).flatMap s.unnotified).length
    + (s.unnotified id).length

lemma mem_take_append_cons {l rest : List ℕ} {x m : ℕ} (hx : x ∉ l) :
    x ∈ (l ++ x :: rest).take m ↔ l.length < m := by
  rw [List.take_append, List.mem_append, or_iff_right fun h => hx (List.mem_of_mem_take h)]
  constructor
  · intro h
    by_contra hle
    rw [Nat.sub_eq_zero_of_le (not_lt.mp hle), List.take_zero] at h
    cases h
  · intro h
    obtain ⟨k, hk⟩ := Nat.exists_eq_add_of_lt h
    rw [show m - l.length = k + 1 by omega, List.take_succ_cons]
    exact List.mem_cons_self

/-- A list that contains something beyond `id` splits at the first such element. -/
lemma split_at_first_gt {l : List ℕ} {id key : ℕ} (hkey : key ∈ l) (hlt : id < key) :
    ∃ k ks, l = l.takeWhile (· ≤ id) ++ k :: ks ∧ id < k := by
  induction l with
  | nil => cases hkey
  | cons a l ih =>
    by_cases ha : a ≤ id
    · have hmem : key ∈ l := (List.mem_cons.mp hkey).resolve_left (by omega)
      obtain ⟨k, ks, hl, hk⟩ := ih hmem
      refine ⟨k, ks, ?_, hk⟩
      rw [List.takeWhile_cons_of_pos (by simpa using ha), List.cons_append, ← hl]
    · refine ⟨a, l, ?_, not_le.mp ha⟩
      rw [List.takeWhile_cons_of_neg (by simpa using ha), List.nil_append]

/-- A round that goes beyond `id` begins with the round up to `id`. -/
lemma unnotified_split {id limit : ℕ} (hle : s.nextMessageId ≤ id) (hlt : id < limit)
    (hnew : id ∉ s.notifiedMissingIds) :
    ∃ rest, s.unnotified limit = s.unnotified id ++ id :: rest := by
  obtain ⟨m, rfl⟩ : ∃ m, id = s.nextMessageId + m := ⟨id - s.nextMessageId, by omega⟩
  obtain ⟨n, rfl⟩ : ∃ n, limit = s.nextMessageId + m + (n + 1) :=
    ⟨limit - (s.nextMessageId + m) - 1, by omega⟩
  refine ⟨(List.range' (s.nextMessageId + m + 1) n).filter fun id => id ∉ s.notifiedMissingIds,
    ?_⟩
  rw [unnotified, unnotified, Nat.add_sub_cancel_left,
    show s.nextMessageId + m + (n + 1) - s.nextMessageId = m + (n + 1) by omega,
    ← List.range'_append_1, List.range'_succ, List.filter_append,
    List.filter_cons_of_pos (by simpa using hnew)]

/-- An id that is below a buffered one and not remembered is listed if and only if fewer
than 64 entries come before it. -/
lemma mem_missingIds_iff {id key : ℕ} (hle : s.nextMessageId ≤ id)
    (hkey : key ∈ s.receivedDataMap.keys) (hlt : id < key) :
    id ∈ s.missingIds
      ↔ id ∉ s.notifiedMissingIds ∧ s.entriesBefore id < vcMaxMissingIdsPerNotify := by
  by_cases hnew : id ∈ s.notifiedMissingIds
  · exact ⟨fun h => absurd hnew (of_mem_missingIds h).2.1, fun h => absurd hnew h.1⟩
  rw [and_iff_right hnew, missingIds_eq, entriesBefore, ← List.length_append]
  obtain ⟨k, ks, hks, hk⟩ := split_at_first_gt hkey hlt
  obtain ⟨rest, hround⟩ := unnotified_split hle hk hnew
  have hlist : s.receivedDataMap.keys.flatMap s.unnotified
      = ((s.receivedDataMap.keys.takeWhile (· ≤ id)).flatMap s.unnotified ++ s.unnotified id)
        ++ id :: (rest ++ ks.flatMap s.unnotified) := by
    conv_lhs => rw [hks]
    rw [List.flatMap_append, List.flatMap_cons, hround]
    simp only [List.append_assoc, List.cons_append]
  rw [hlist]
  -- no entry before that place is `id`
  refine mem_take_append_cons fun hmem => ?_
  rcases List.mem_append.mp hmem with hmem | hmem
  · obtain ⟨key', hkey', hid⟩ := List.mem_flatMap.mp hmem
    have hle' : key' ≤ id := by simpa using List.mem_takeWhile_imp hkey'
    have := (mem_unnotified.mp hid).1
    omega
  · have := (mem_unnotified.mp hmem).1
    omega

/-- The first missing id is listed unless it is remembered: it is the first entry. -/
lemma next_mem_missingIds {key : ℕ} (hkey : key ∈ s.receivedDataMap.keys)
    (hahead : ∀ k ∈ s.receivedDataMap.keys, s.nextMessageId < k)
    (hnew : s.nextMessageId ∉ s.notifiedMissingIds) : s.nextMessageId ∈ s.missingIds := by
  refine (mem_missingIds_iff le_rfl hkey (hahead key hkey)).mpr ⟨hnew, ?_⟩
  have hnone : s.receivedDataMap.keys.takeWhile (· ≤ s.nextMessageId) = [] := by
    refine List.eq_nil_iff_forall_not_mem.mpr fun k hk => ?_
    have hle : k ≤ s.nextMessageId := by simpa using List.mem_takeWhile_imp hk
    have := hahead k (List.takeWhile_subset _ hk)
    omega
  have hself : s.unnotified s.nextMessageId = [] := by
    rw [unnotified, Nat.sub_self, List.range'_zero, List.filter_nil]
  rw [entriesBefore, hnone, hself]
  exact (by decide : 0 + 0 < vcMaxMissingIdsPerNotify)

/-- A notification goes out when the interval is over and there is something to list. -/
structure Notifies (cfg : ReorderConfig) (s : Reorder) (now : ℤ) : Prop where
  nonempty : s.receivedDataMap.keys ≠ []
  active : s.gapTimerActive = true
  interval : cfg.missingNotifyIntervalMs ≤ now - s.gapFirstSeen
  missing : s.missingIds ≠ []

lemma sendMissingNotifications_cases (cfg : ReorderConfig) (s : Reorder) (now : ℤ) :
    (Notifies cfg s now ∧ s.sendMissingNotifications cfg now
      = (s.rememberNotified s.missingIds, some s.missingIds)) ∨
    (¬ Notifies cfg s now ∧ s.sendMissingNotifications cfg now = (s, none)) := by
  unfold sendMissingNotifications
  split_ifs with h1 h2 h3
  · refine Or.inr ⟨fun h => ?_, rfl⟩
    rw [Bool.or_eq_true, List.isEmpty_iff, ← SortedMap.keys_eq_nil_iff, h.active] at h1
    exact h.nonempty (h1.resolve_right (by decide))
  · exact Or.inr ⟨fun h => absurd h.interval (not_le.mpr h2), rfl⟩
  · exact Or.inr ⟨fun h => h.missing (List.isEmpty_iff.mp h3), rfl⟩
  · rw [Bool.or_eq_true, List.isEmpty_iff, ← SortedMap.keys_eq_nil_iff, not_or] at h1
    exact Or.inl ⟨⟨h1.1, by simpa using h1.2, not_lt.mp h2,
      fun h => h3 (List.isEmpty_iff.mpr h)⟩, rfl⟩

/-! ## The state between iterations -/

lemma drained_beforeGap (h : Ahead (s.dequeued tick)) :
    Drained (s.dequeued tick) (s.dequeued tick).drainReceivedDataMap.1 (s.beforeGap tick) :=
  drained h

/-- The notification check changes nothing but the memory of notified ids. -/
lemma state_eq (cfg : ReorderConfig) (s : Reorder) (tick : Tick) :
    (s.reorderIteration cfg tick).state.receivedDataMap = (s.beforeNotify cfg tick).receivedDataMap
      ∧ (s.reorderIteration cfg tick).state.nextMessageId = (s.beforeNotify cfg tick).nextMessageId
      ∧ (s.reorderIteration cfg tick).state.gapTimerActive
        = (s.beforeNotify cfg tick).gapTimerActive
      ∧ (s.reorderIteration cfg tick).state.gapFirstSeen
        = (s.beforeNotify cfg tick).gapFirstSeen := by
  have hstate : (s.reorderIteration cfg tick).state
      = ((s.beforeNotify cfg tick).sendMissingNotifications cfg tick.notifyNow).1 := rfl
  rw [hstate]
  rcases sendMissingNotifications_cases cfg (s.beforeNotify cfg tick) tick.notifyNow
    with ⟨-, h⟩ | ⟨-, h⟩
  · rw [h]; exact ⟨rfl, rfl, rfl, rfl⟩
  · rw [h]; exact ⟨rfl, rfl, rfl, rfl⟩

/-- What holds whenever no iteration is under way: nothing can be delivered, and the timer
runs only when something is buffered. -/
structure Resting (s : Reorder) : Prop where
  ahead : Ahead s
  stuck : s.receivedDataMap.find? s.nextMessageId = none
  timed : s.gapTimerActive = true → s.receivedDataMap.keys ≠ []

lemma Resting.lt_of_mem_keys (h : Resting s) {k : ℕ} (hk : k ∈ s.receivedDataMap.keys) :
    s.nextMessageId < k := by
  refine lt_of_le_of_ne (h.ahead.keys k hk).1 fun heq => ?_
  exact (SortedMap.find?_eq_none_iff _).mp h.stuck (heq ▸ hk)

lemma resting_init : Resting {} :=
  ⟨⟨by decide, fun _ hk => (nomatch hk)⟩, rfl, fun h => absurd h (by decide)⟩

lemma ahead_skipped {skipTo : ℕ} (h : Ahead s) (hmem : skipTo ∈ s.receivedDataMap.keys)
    (hmin : ∀ k ∈ s.receivedDataMap.keys, skipTo ≤ k) : Ahead (s.skipped skipTo) :=
  ⟨(h.keys skipTo hmem).2, fun k hk => ⟨hmin k hk, (h.keys k hk).2⟩⟩

lemma resting_beforeNotify (cfg : ReorderConfig) {tick : Tick} (h : Ahead (s.beforeGap tick))
    (hstuck : (s.beforeGap tick).receivedDataMap.find? (s.beforeGap tick).nextMessageId = none) :
    Resting (s.beforeNotify cfg tick) := by
  rw [beforeNotify]
  rcases checkGap_cases cfg (s.beforeGap tick) tick.gapNow with ⟨-, heq⟩ | ⟨hne, -, heq⟩
    | ⟨hne, -, -, heq⟩ | ⟨-, -, skipTo, hmem, hmin, heq⟩
  · rw [heq]
    exact ⟨⟨h.next_lt, h.keys⟩, hstuck, fun hactive => absurd hactive Bool.false_ne_true⟩
  · rw [heq]
    exact ⟨⟨h.next_lt, h.keys⟩, hstuck, fun _ => hne⟩
  · rw [heq]
    exact ⟨h, hstuck, fun _ => hne⟩
  · rw [heq]
    -- the skip stops the timer, whatever the second delivery pass leaves
    have hahead := ahead_skipped h hmem hmin
    have hdrained := drained hahead
    refine ⟨hdrained.ahead hahead, hdrained.stuck, fun hactive => ?_⟩
    rw [hdrained.gapTimerActive] at hactive
    exact absurd hactive Bool.false_ne_true

/-- An iteration leads from rest to rest. -/
lemma Resting.step (h : Resting s) (cfg : ReorderConfig) {tick : Tick}
    (hids : ∀ item ∈ tick.arrivals, item.messageId < uint64Size) :
    Resting (s.step cfg tick) := by
  have hahead := ahead_dequeued h.ahead hids
  have hdrained := drained_beforeGap hahead
  have hrest := resting_beforeNotify cfg (hdrained.ahead hahead) hdrained.stuck
  obtain ⟨hmap, hnext, hactive, -⟩ := state_eq cfg s tick
  refine ⟨⟨?_, ?_⟩, ?_, ?_⟩
  · rw [Reorder.step, hnext]; exact hrest.ahead.next_lt
  · rw [Reorder.step, hnext, hmap]; exact hrest.ahead.keys
  · rw [Reorder.step, hnext, hmap]; exact hrest.stuck
  · rw [Reorder.step, hactive, hmap]; exact hrest.timed

/-- Every state of a run is at rest. -/
theorem resting_stateAt (cfg : ReorderConfig) {ticks : ℕ → Tick}
    (hids : IdsBelow uint64Size ticks) (n : ℕ) : Resting (stateAt cfg ticks n) :=
  runState_invariant (P := Resting) (Q := fun tick : Tick => ∀ item ∈ tick.arrivals,
    item.messageId < uint64Size) resting_init (fun _ _ hids h => h.step cfg hids) hids n

end Reorder
end TcpUdp
