import TcpUdp.ReorderTheorems

/-!
# Conservation in the reorder buffer

`History` records what a run dequeued, kept, delivered and skipped. `Conserved` relates it
to the buffer: what was kept is buffered or delivered, the delivered ids increase, and an id
that was passed without being delivered was passed by a skip. Each phase of an iteration
preserves it, so it holds along every run (`conserved_run`).

Ids stay below `2^64 - 1`, so the counter does not come round.
-/

namespace TcpUdp
namespace Reorder

open Lib

/-- What has happened so far, in order. -/
structure History where
  /-- Every item taken off a receive queue. -/
  dequeued : List DeliveryItem := []
  /-- Those that were not below `nextMessageId` when they were taken. -/
  kept : List DeliveryItem := []
  delivered : List DeliveryItem := []
  skips : List Skip := []

def historyAt (cfg : ReorderConfig) (ticks : ℕ → Tick) : ℕ → History
  | 0 => {}
  | n + 1 =>
    let h := historyAt cfg ticks n
    let it := iterationAt cfg ticks n
    { dequeued := h.dequeued ++ (ticks n).arrivals
      kept := h.kept ++ (stateAt cfg ticks n).kept (ticks n).arrivals
      delivered := h.delivered ++ it.delivered
      skips := h.skips ++ it.skip.toList }

/-- The first copy of `id` in a list of items. -/
def firstCopy (items : List DeliveryItem) (id : ℕ) : Option DeliveryItem :=
  items.find? fun item => item.messageId = id

/-- The id was passed by the skip while it was not buffered. -/
def PassedBy (skip : Skip) (id : ℕ) : Prop :=
  skip.missingStart ≤ id ∧ id < skip.skipTo ∧ id ∉ skip.receivedDataMap.keys

structure Conserved (s : Reorder) (h : History) : Prop where
  next_le : s.nextMessageId ≤ uint64Size - 1
  keys : ∀ k ∈ s.receivedDataMap.keys, s.nextMessageId ≤ k ∧ k < uint64Size - 1
  delivered_lt : ∀ d ∈ h.delivered, d.messageId < s.nextMessageId
  increasing : (h.delivered.map DeliveryItem.messageId).Pairwise (· < ·)
  first : ∀ d ∈ h.delivered, firstCopy h.kept d.messageId = some d
  buffered : ∀ id r, s.receivedDataMap.find? id = some r →
    ∃ item, firstCopy h.kept id = some item ∧ item.received = r
  accounted : ∀ item ∈ h.kept, item.messageId ∈ s.receivedDataMap.keys
    ∨ ∃ d ∈ h.delivered, d.messageId = item.messageId
  passed : ∀ id < s.nextMessageId, (∃ d ∈ h.delivered, d.messageId = id)
    ∨ ∃ skip ∈ h.skips, PassedBy skip id
  gapless : h.skips = [] →
    h.delivered.map DeliveryItem.messageId = List.range s.nextMessageId
  seen : ∀ item ∈ h.dequeued, item.messageId < s.nextMessageId
    ∨ item.messageId ∈ s.receivedDataMap.keys
  kept_sub : ∀ item ∈ h.kept, item ∈ h.dequeued

variable {s s' : Reorder} {h : History}

/-! ## The phases -/

lemma firstCopy_append (items rest : List DeliveryItem) (id : ℕ) :
    firstCopy (items ++ rest) id = (firstCopy items id).or (firstCopy rest id) :=
  List.find?_append

lemma messageId_firstCopy {items : List DeliveryItem} {id : ℕ} {item : DeliveryItem}
    (h : firstCopy items id = some item) : item ∈ items ∧ item.messageId = id :=
  ⟨List.mem_of_find?_eq_some h, by simpa using List.find?_some h⟩

lemma conserved_init : Conserved {} {} where
  next_le := by decide
  keys := fun _ hk => (nomatch hk)
  delivered_lt := fun _ hd => (nomatch hd)
  increasing := List.Pairwise.nil
  first := fun _ hd => (nomatch hd)
  buffered := fun _ _ hr => (nomatch hr)
  accounted := fun _ hitem => (nomatch hitem)
  passed := fun id hid => absurd hid (Nat.not_lt_zero id)
  gapless := fun _ => rfl
  seen := fun _ hitem => (nomatch hitem)
  kept_sub := fun _ hitem => (nomatch hitem)

/-- Only the buffer and the counter matter. -/
lemma Conserved.of_eq (hc : Conserved s h) (hmap : s'.receivedDataMap = s.receivedDataMap)
    (hnext : s'.nextMessageId = s.nextMessageId) : Conserved s' h := by
  constructor
  · rw [hnext]; exact hc.next_le
  · rw [hnext, hmap]; exact hc.keys
  · rw [hnext]; exact hc.delivered_lt
  · exact hc.increasing
  · exact hc.first
  · rw [hmap]; exact hc.buffered
  · rw [hmap]; exact hc.accounted
  · rw [hnext]; exact hc.passed
  · rw [hnext]; exact hc.gapless
  · rw [hnext, hmap]; exact hc.seen
  · exact hc.kept_sub

/-- Dequeuing: the buffer takes the first copies of new ids. -/
lemma Conserved.dequeue (hc : Conserved s h) {tick : Tick}
    (hids : ∀ item ∈ tick.arrivals, item.messageId < uint64Size - 1) :
    Conserved (s.dequeued tick) { h with
      dequeued := h.dequeued ++ tick.arrivals, kept := h.kept ++ s.kept tick.arrivals } := by
  have hnext : (s.dequeued tick).nextMessageId = s.nextMessageId := by rw [dequeued_eq]
  have hmap : (s.dequeued tick).receivedDataMap
      = emplaceAll s.receivedDataMap (s.kept tick.arrivals) := by rw [dequeued_eq]
  have hkey : ∀ {k}, k ∈ s.receivedDataMap.keys → k ∈ (s.dequeued tick).receivedDataMap.keys :=
    fun hk => mem_keys_dequeued.mpr (Or.inl hk)
  constructor
  · rw [hnext]; exact hc.next_le
  · intro k hk
    rw [hnext]
    rcases mem_keys_dequeued.mp hk with hk | ⟨hle, item, hitem, rfl⟩
    · exact hc.keys k hk
    · exact ⟨hle, hids item hitem⟩
  · rw [hnext]; exact hc.delivered_lt
  · exact hc.increasing
  · intro d hd
    rw [firstCopy_append, hc.first d hd]
    rfl
  · intro id r hr
    rw [hmap, find?_emplaceAll] at hr
    -- what is buffered is a first copy: an old one, or one that is new now
    cases hold : s.receivedDataMap.find? id with
    | some old =>
      rw [hold] at hr
      obtain ⟨item, hitem, heq⟩ := hc.buffered id old hold
      refine ⟨item, ?_, heq.trans (Option.some.inj hr)⟩
      rw [firstCopy_append, hitem]
      rfl
    | none =>
      rw [hold, Option.none_or, Option.map_eq_some_iff] at hr
      obtain ⟨item, hitem, heq⟩ := hr
      have hmem := messageId_firstCopy hitem
      refine ⟨item, ?_, heq⟩
      -- an older copy would be buffered, or delivered and so below the counter
      have hnone : firstCopy h.kept id = none := by
        refine Option.eq_none_iff_forall_not_mem.mpr fun old hmemold => ?_
        obtain ⟨holdmem, holdid⟩ := messageId_firstCopy hmemold
        rcases hc.accounted old holdmem with hk | ⟨d, hd, hdid⟩
        · exact (SortedMap.find?_eq_none_iff _).mp hold (holdid ▸ hk)
        · have hlt := hc.delivered_lt d hd
          have hle := (mem_kept.mp hmem.1).2
          omega
      rw [firstCopy_append, hnone, Option.none_or]
      exact hitem
  · intro item hitem
    rcases List.mem_append.mp hitem with hitem | hitem
    · exact (hc.accounted item hitem).imp_left hkey
    · obtain ⟨hmem, hle⟩ := mem_kept.mp hitem
      exact Or.inl (mem_keys_dequeued.mpr (Or.inr ⟨hle, item, hmem, rfl⟩))
  · rw [hnext]; exact hc.passed
  · rw [hnext]; exact hc.gapless
  · intro item hitem
    rw [hnext]
    rcases List.mem_append.mp hitem with hitem | hitem
    · exact (hc.seen item hitem).imp_right hkey
    · rcases Nat.lt_or_ge item.messageId s.nextMessageId with hlt | hle
      · exact Or.inl hlt
      · exact Or.inr (mem_keys_dequeued.mpr (Or.inr ⟨hle, item, hitem, rfl⟩))
  · intro item hitem
    rcases List.mem_append.mp hitem with hitem | hitem
    · exact List.mem_append_left _ (hc.kept_sub item hitem)
    · exact List.mem_append_right _ (mem_kept.mp hitem).1

lemma Conserved.ahead (hc : Conserved s h) : Ahead s := by
  have hsize : uint64Size = uint64Size - 1 + 1 := by decide
  have hnext := hc.next_le
  refine ⟨by omega, fun k hk => ?_⟩
  have := hc.keys k hk
  omega

/-- The counter does not come round: the last id delivered is below `2^64 - 1`. -/
lemma Conserved.next_drained (hc : Conserved s h) {out : List DeliveryItem}
    (hd : Drained s out s') : s'.nextMessageId = s.nextMessageId + out.length
      ∧ s.nextMessageId + out.length ≤ uint64Size - 1 := by
  have hsize : uint64Size = uint64Size - 1 + 1 := by decide
  have hle := hc.next_le
  have hbound : s.nextMessageId + out.length ≤ uint64Size - 1 := by
    cases out with
    | nil => exact hle
    | cons d out =>
      obtain ⟨item, hitem, hid⟩ := hd.mem_ids.mpr
        (show s.nextMessageId ≤ s.nextMessageId + out.length ∧ s.nextMessageId + out.length
          < s.nextMessageId + (d :: out).length by rw [List.length_cons]; omega)
      have hmem := (SortedMap.mem_keys_iff _).mpr ⟨_, hd.items item hitem⟩
      have := (hc.keys _ hmem).2
      rw [List.length_cons]
      omega
  exact ⟨hd.next_of_ne (by omega), hbound⟩

/-- A delivery pass: the consecutive ids go from the buffer to the delivered ones. -/
lemma Conserved.deliver (hc : Conserved s h) {out : List DeliveryItem}
    (hd : Drained s out s') :
    Conserved s' { h with delivered := h.delivered ++ out } := by
  obtain ⟨hnext, hbound⟩ := hc.next_drained hd
  have hout : ∀ d ∈ out, s.nextMessageId ≤ d.messageId ∧ d.messageId < s'.nextMessageId := by
    intro d hdo
    rw [hnext]
    exact hd.mem_ids.mp ⟨d, hdo, rfl⟩
  -- a buffered id is still there or has just been delivered
  have hleft : ∀ {k}, k ∈ s.receivedDataMap.keys → k ∈ s'.receivedDataMap.keys
      ∨ ∃ d ∈ out, d.messageId = k := by
    intro k hk
    by_cases hrange : s.nextMessageId ≤ k ∧ k < s.nextMessageId + out.length
    · exact Or.inr (hd.mem_ids.mpr hrange)
    · exact Or.inl (hd.mem_keys.mpr ⟨hk, hrange⟩)
  constructor
  · rw [hnext]; exact hbound
  · intro k hk
    obtain ⟨hk, hrange⟩ := hd.mem_keys.mp hk
    have := hc.keys k hk
    omega
  · intro d hmem
    rcases List.mem_append.mp hmem with hmem | hmem
    · have := hc.delivered_lt d hmem
      omega
    · exact (hout d hmem).2
  · rw [List.map_append, List.pairwise_append]
    -- new ids are consecutive, and all of them are beyond the old counter
    refine ⟨hc.increasing, by rw [hd.ids]; exact List.pairwise_lt_range', ?_⟩
    intro a ha b hb
    obtain ⟨d, hdmem, rfl⟩ := List.mem_map.mp ha
    obtain ⟨e, hemem, rfl⟩ := List.mem_map.mp hb
    exact lt_of_lt_of_le (hc.delivered_lt d hdmem) (hout e hemem).1
  · intro d hmem
    rcases List.mem_append.mp hmem with hmem | hmem
    · exact hc.first d hmem
    · obtain ⟨item, hitem, heq⟩ := hc.buffered _ _ (hd.items d hmem)
      have hid := (messageId_firstCopy hitem).2
      -- the item is rebuilt from the buffer with the id it was stored under
      have : item = d := by
        cases item; cases d
        simp only [DeliveryItem.received, ReceivedItem.mk.injEq] at heq hid ⊢
        rw [heq.1, heq.2, hid]
      exact this ▸ hitem
  · intro id r hr
    rw [hd.find?] at hr
    split_ifs at hr
    exact hc.buffered id r hr
  · intro item hitem
    rcases hc.accounted item hitem with hk | ⟨d, hdmem, hid⟩
    · refine (hleft hk).imp_right fun ⟨d, hdmem, hid⟩ => ⟨d, ?_, hid⟩
      exact List.mem_append_right _ hdmem
    · exact Or.inr ⟨d, List.mem_append_left _ hdmem, hid⟩
  · intro id hid
    rcases Nat.lt_or_ge id s.nextMessageId with hlt | hle
    · refine (hc.passed id hlt).imp_left fun ⟨d, hdmem, hdid⟩ => ⟨d, ?_, hdid⟩
      exact List.mem_append_left _ hdmem
    · obtain ⟨d, hdmem, hdid⟩ := hd.mem_ids.mpr ⟨hle, by omega⟩
      exact Or.inl ⟨d, List.mem_append_right _ hdmem, hdid⟩
  · intro hskips
    rw [List.map_append, hc.gapless hskips, hd.ids, hnext, List.range_eq_range',
      List.range_eq_range', ← List.range'_append_1, Nat.zero_add]
  · intro item hitem
    rcases hc.seen item hitem with hlt | hk
    · exact Or.inl (by omega)
    · rcases hleft hk with hk | ⟨d, hdmem, hid⟩
      · exact Or.inr hk
      · exact Or.inl (hid ▸ (hout d hdmem).2)
  · exact hc.kept_sub

/-- A skip to the first buffered id passes ids that are not buffered. -/
lemma Conserved.skip (hc : Conserved s h) {skipTo : ℕ}
    (hmem : skipTo ∈ s.receivedDataMap.keys)
    (hmin : ∀ k ∈ s.receivedDataMap.keys, skipTo ≤ k) :
    Conserved (s.skipped skipTo) { h with
      skips := h.skips ++ [⟨s.nextMessageId, skipTo, s.receivedDataMap⟩] } := by
  obtain ⟨hle, hlt⟩ := hc.keys skipTo hmem
  constructor
  · exact le_of_lt hlt
  · exact fun k hk => ⟨hmin k hk, (hc.keys k hk).2⟩
  · exact fun d hd => lt_of_lt_of_le (hc.delivered_lt d hd) hle
  · exact hc.increasing
  · exact hc.first
  · exact hc.buffered
  · exact hc.accounted
  · intro id hid
    rcases Nat.lt_or_ge id s.nextMessageId with hbefore | hafter
    · refine (hc.passed id hbefore).imp_right fun ⟨skip, hskip, hpass⟩ => ⟨skip, ?_, hpass⟩
      exact List.mem_append_left _ hskip
    · -- an id between the old and the new counter cannot be buffered
      refine Or.inr ⟨_, List.mem_append_right _ List.mem_cons_self, hafter, hid, fun hk => ?_⟩
      exact absurd (hmin id hk) (not_le.mpr hid)
  · exact fun hskips => absurd hskips (List.append_ne_nil_of_right_ne_nil _ (List.cons_ne_nil _ _))
  · exact fun item hitem => (hc.seen item hitem).imp_left fun hbefore => lt_of_lt_of_le hbefore hle
  · exact hc.kept_sub

/-! ## Iterations and runs -/

/-- The gap check: nothing happens to buffer and counter, or a skip and a second delivery
pass. -/
lemma Conserved.checkGap (hc : Conserved s h) (cfg : ReorderConfig) (now : ℤ) :
    Conserved (s.checkGap cfg now).1 { h with
      delivered := h.delivered ++ (s.checkGap cfg now).2.1
      skips := h.skips ++ (s.checkGap cfg now).2.2.toList } := by
  have hsame : Conserved s { h with
      delivered := h.delivered ++ [], skips := h.skips ++ [] } := by
    rw [List.append_nil, List.append_nil]
    exact hc
  rcases checkGap_cases cfg s now with ⟨-, heq⟩ | ⟨-, -, heq⟩ | ⟨-, -, -, heq⟩
    | ⟨-, -, skipTo, hmem, hmin, heq⟩
  · rw [heq]; exact hsame.of_eq rfl rfl
  · rw [heq]; exact hsame.of_eq rfl rfl
  · rw [heq]; exact hsame
  · rw [heq]
    have hskip := hc.skip hmem hmin
    exact hskip.deliver (drained hskip.ahead)

lemma conserved_iteration (hc : Conserved s h) (cfg : ReorderConfig) {tick : Tick}
    (hids : ∀ item ∈ tick.arrivals, item.messageId < uint64Size - 1) :
    Conserved (s.reorderIteration cfg tick).state
      { dequeued := h.dequeued ++ tick.arrivals
        kept := h.kept ++ s.kept tick.arrivals
        delivered := h.delivered ++ (s.reorderIteration cfg tick).delivered
        skips := h.skips ++ (s.reorderIteration cfg tick).skip.toList } := by
  have hdequeued := hc.dequeue hids
  have hdelivered := hdequeued.deliver (drained_beforeGap hdequeued.ahead)
  have hchecked := hdelivered.checkGap cfg tick.gapNow
  obtain ⟨hmap, hnext, -⟩ := state_eq cfg s tick
  have houtput : (s.reorderIteration cfg tick).delivered
      = (s.dequeued tick).drainReceivedDataMap.1
        ++ ((s.beforeGap tick).checkGap cfg tick.gapNow).2.1 := rfl
  rw [houtput, ← List.append_assoc]
  exact hchecked.of_eq hmap hnext

lemma conserved_run (cfg : ReorderConfig) {ticks : ℕ → Tick}
    (hids : IdsBelow (uint64Size - 1) ticks) (n : ℕ) :
    Conserved (stateAt cfg ticks n) (historyAt cfg ticks n) := by
  induction n with
  | zero => exact conserved_init
  | succ n ih => exact conserved_iteration ih cfg (hids n)

lemma idsBelow_mono {ticks : ℕ → Tick} {a b : ℕ} (hab : a ≤ b) (h : IdsBelow a ticks) :
    IdsBelow b ticks := fun n item hitem => lt_of_lt_of_le (h n item hitem) hab

/-- In a list of increasing ids, an id stands for one item. -/
lemma filter_messageId {l : List DeliveryItem}
    (h : (l.map DeliveryItem.messageId).Pairwise (· < ·)) {d : DeliveryItem} (hd : d ∈ l) :
    l.filter (fun x => x.messageId = d.messageId) = [d] := by
  induction l with
  | nil => cases hd
  | cons a l ih =>
    rw [List.map_cons, List.pairwise_cons] at h
    have hlt : ∀ x ∈ l, a.messageId < x.messageId := fun x hx =>
      h.1 _ (List.mem_map_of_mem hx)
    rcases List.mem_cons.mp hd with rfl | hd
    · rw [List.filter_cons_of_pos (by simp), List.filter_eq_nil_iff.mpr fun x hx => ?_]
      simpa using ne_of_gt (hlt x hx)
    · rw [List.filter_cons_of_neg (by simpa using ne_of_lt (hlt d hd)), ih h.2 hd]

/-- Nothing is lost in the reorder buffer, nothing comes out twice or out of order, and what
was not delivered was passed by a timeout skip while it was not there. -/
theorem buffer_conserves (cfg : ReorderConfig) {ticks : ℕ → Tick}
    (hids : IdsBelow (uint64Size - 1) ticks) (n : ℕ) :
    (∀ k ∈ (stateAt cfg ticks n).receivedDataMap.keys,
      (stateAt cfg ticks n).nextMessageId < k) ∧
    ((historyAt cfg ticks n).delivered.map DeliveryItem.messageId).Pairwise (· < ·) ∧
    (∀ id item, firstCopy (historyAt cfg ticks n).kept id = some item →
      ((stateAt cfg ticks n).receivedDataMap.find? id = some item.received
        ∧ ∀ d ∈ (historyAt cfg ticks n).delivered, d.messageId ≠ id)
      ∨ ((stateAt cfg ticks n).receivedDataMap.find? id = none
        ∧ (historyAt cfg ticks n).delivered.filter (fun d => d.messageId = id) = [item])) ∧
    (∀ id < (stateAt cfg ticks n).nextMessageId,
      (∀ d ∈ (historyAt cfg ticks n).delivered, d.messageId ≠ id) →
        ∃ skip ∈ (historyAt cfg ticks n).skips, PassedBy skip id) ∧
    ((historyAt cfg ticks n).skips = [] →
      (∀ id < (stateAt cfg ticks n).nextMessageId,
        ∃ item ∈ (historyAt cfg ticks n).dequeued, item.messageId = id) ∧
      (∀ item ∈ (historyAt cfg ticks n).dequeued,
        item.messageId ≠ (stateAt cfg ticks n).nextMessageId) ∧
      (historyAt cfg ticks n).delivered.map DeliveryItem.messageId
        = List.range (stateAt cfg ticks n).nextMessageId) := by
  have hc := conserved_run cfg hids n
  have hrest := resting_stateAt cfg (idsBelow_mono (Nat.sub_le _ _) hids) n
  refine ⟨fun k hk => hrest.lt_of_mem_keys hk, hc.increasing, fun id item hitem => ?_,
    fun id hid hnot => ?_, fun hskips => ⟨fun id hid => ?_, fun item hitem => ?_,
      hc.gapless hskips⟩⟩
  · -- the buffer tells which of the two places the item is in
    cases hfind : (stateAt cfg ticks n).receivedDataMap.find? id with
    | some r =>
      obtain ⟨first, hfirst, hr⟩ := hc.buffered id r hfind
      rw [hitem] at hfirst
      cases hfirst
      refine Or.inl ⟨by rw [hr], fun d hd hdid => ?_⟩
      have hlt := hc.delivered_lt d hd
      have hgt := hrest.lt_of_mem_keys ((SortedMap.mem_keys_iff _).mpr ⟨r, hfind⟩)
      omega
    | none =>
      obtain ⟨hmem, hid⟩ := messageId_firstCopy hitem
      obtain ⟨d, hd, hdid⟩ := (hc.accounted item hmem).resolve_left
        ((SortedMap.find?_eq_none_iff _).mp (by rw [hid]; exact hfind))
      have hfirst := hc.first d hd
      rw [hdid, hid, hitem] at hfirst
      cases hfirst
      exact Or.inr ⟨rfl, hid ▸ filter_messageId hc.increasing hd⟩
  · exact (hc.passed id hid).resolve_left fun ⟨d, hd, hdid⟩ => hnot d hd hdid
  · have hmem : id ∈ List.range (stateAt cfg ticks n).nextMessageId := List.mem_range.mpr hid
    rw [← hc.gapless hskips] at hmem
    obtain ⟨d, hd, rfl⟩ := List.mem_map.mp hmem
    exact ⟨d, hc.kept_sub d (messageId_firstCopy (hc.first d hd)).1, rfl⟩
  · rcases hc.seen item hitem with hlt | hk
    · exact ne_of_lt hlt
    · exact ne_of_gt (hrest.lt_of_mem_keys hk)

/-- Id 1 comes twice and waits for id 0, which does not come before the timeout and is
dropped when it comes later. -/
def lateCopy : ℕ → Tick := script
  [tickAt 0 [⟨1, [11], 0⟩, ⟨1, [12], 1⟩], tickAt 4000 [], tickAt 4001 [⟨0, [10], 0⟩]] 4001

theorem buffer_conserves_lateCopy :
    (historyAt {} lateCopy 3).delivered = [⟨1, [11], 0⟩] ∧
    ∃ skip ∈ (historyAt {} lateCopy 3).skips, PassedBy skip 0 :=
  ⟨by decide, (buffer_conserves {} (idsBelow_script (by decide)) 3).2.2.2.1 0 (by decide)
    (by decide)⟩

end Reorder
end TcpUdp
