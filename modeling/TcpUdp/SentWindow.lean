import TcpUdp.SentState
import TcpUdp.Lib.RecentWindow

/-!
# What the cache of sent packets still holds

A shard evicts its oldest insertion, so it holds the last `capacityPerConn` of the insertions
that fell into it (`Holds`). The ids that `send` gives out are consecutive and go round the
shards, so the whole cache holds the last `capacityPerConn * numConns` of them.
-/

namespace TcpUdp

open Lib

/-! ## One shard -/

/-- The shard holds the last insertions of its log. -/
structure ConnShard.Holds (shard : ConnShard) (capacity : ℕ) (log : List (ℕ × Packet)) : Prop where
  insertionOrder : shard.insertionOrder = (log.rtake capacity).map Prod.fst
  find? : ∀ id data, shard.items.find? id = some data ↔ (id, data) ∈ log.rtake capacity

namespace ConnShard

variable {shard : ConnShard} {capacity : ℕ} {log : List (ℕ × Packet)}

lemma holds_empty (capacity : ℕ) : ({} : ConnShard).Holds capacity [] := by
  constructor
  · simp
  · intro id data
    rw [List.rtake_nil]
    exact ⟨fun h => (nomatch h), fun h => (nomatch h)⟩

lemma insertionOrder_insert (shard : ConnShard) (capacity id : ℕ) (data : Packet) :
    (shard.insert capacity id data).insertionOrder
      = pushRecent capacity shard.insertionOrder id := by
  rw [insert, pushRecent]
  split_ifs with hfull
  · cases shard.insertionOrder with
    | nil => rfl
    | cons oldest order => rfl
  · rfl

/-- The id at the front of the order is evicted when the order overflows. -/
lemma find?_insert_eq (shard : ConnShard) (capacity id j : ℕ) (data : Packet) :
    (shard.insert capacity id data).items.find? j =
      if (shard.insertionOrder ++ [id]).length > capacity
          ∧ (shard.insertionOrder ++ [id]).head? = some j then none
      else if j = id then some data else shard.items.find? j := by
  rw [insert]
  by_cases hfull : (shard.insertionOrder ++ [id]).length > capacity
  · obtain ⟨oldest, order, heq⟩ : ∃ oldest order, shard.insertionOrder ++ [id] = oldest :: order :=
      List.exists_cons_of_ne_nil (by simp)
    rw [if_pos hfull, heq]
    dsimp only
    rw [SortedMap.find?_erase, SortedMap.find?_insertOrAssign, List.head?_cons]
    rw [heq] at hfull
    by_cases hj : j = oldest
    · rw [if_pos hj, if_pos ⟨hfull, by rw [hj]⟩]
    · have hhead : ¬ ((oldest :: order).length > capacity ∧ some oldest = some j) :=
        fun h => hj (Option.some.inj h.2).symm
      rw [if_neg hj, if_neg hhead]
  · rw [if_neg hfull, if_neg fun h => hfull h.1]
    exact SortedMap.find?_insertOrAssign _ _ _ _

/-- In a log without repeated ids, the entries behind the first are the others. -/
lemma mem_tail_iff {l : List (ℕ × Packet)} (hl : (l.map Prod.fst).Nodup) {id : ℕ}
    {data : Packet} : (id, data) ∈ l.tail ↔ (id, data) ∈ l ∧ (l.map Prod.fst).head? ≠ some id := by
  cases l with
  | nil => simp
  | cons e l =>
    rw [List.map_cons, List.nodup_cons] at hl
    rw [List.tail_cons, List.map_cons, List.head?_cons, List.mem_cons, Ne, Option.some_inj]
    constructor
    · intro hmem
      refine ⟨Or.inr hmem, fun heq => hl.1 ?_⟩
      rw [heq]
      exact List.mem_map.mpr ⟨(id, data), hmem, rfl⟩
    · rintro ⟨heq | hmem, hne⟩
      · exact absurd (by rw [← heq]) hne
      · exact hmem

/-- An id that is new to the shard becomes its latest. -/
lemma Holds.insert (h : shard.Holds capacity log) {id : ℕ} (data : Packet)
    (hlog : ((log ++ [(id, data)]).map Prod.fst).Nodup) :
    (shard.insert capacity id data).Holds capacity (log ++ [(id, data)]) := by
  have hpush := pushRecent_rtake capacity log (id, data)
  have hmap : shard.insertionOrder ++ [id]
      = (log.rtake capacity ++ [(id, data)]).map Prod.fst := by
    rw [h.insertionOrder, List.map_append, List.map_singleton]
  have hsub : (log.rtake capacity ++ [(id, data)]).Sublist (log ++ [(id, data)]) :=
    (rtake_sublist _ _).append_right _
  have hnodup := hlog.sublist (hsub.map Prod.fst)
  constructor
  · rw [insertionOrder_insert, h.insertionOrder, map_rtake, pushRecent_rtake, map_rtake,
      List.map_append, List.map_singleton]
  · intro j d
    have hassign : (if j = id then some data else shard.items.find? j) = some d
        ↔ (j, d) ∈ log.rtake capacity ++ [(id, data)] := by
      rw [List.mem_append, List.mem_singleton, Prod.mk.injEq, ← h.find?]
      by_cases hj : j = id
      · -- the ids of the log are distinct, so the shard does not have this one yet
        have hnew : shard.items.find? j = none := by
          rw [Option.eq_none_iff_forall_ne_some]
          intro d' hd'
          rw [hj, h.find?] at hd'
          rw [List.map_append, List.nodup_append] at hnodup
          exact hnodup.2.2 id (List.mem_map.mpr ⟨(id, d'), hd', rfl⟩) id
            (List.mem_singleton_self id) rfl
        rw [if_pos hj, hnew]
        simp [hj, eq_comm]
      · simp [hj]
    rw [find?_insert_eq, ← hpush, pushRecent, hmap, List.length_map]
    by_cases hfull : (log.rtake capacity ++ [(id, data)]).length > capacity
    · rw [if_pos hfull, mem_tail_iff hnodup, ← hassign]
      by_cases hhead : ((log.rtake capacity ++ [(id, data)]).map Prod.fst).head? = some j
      · rw [if_pos ⟨hfull, hhead⟩]
        exact ⟨fun hd => absurd hd.symm (Option.some_ne_none d), fun hd => absurd hhead hd.2⟩
      · rw [if_neg fun hboth => hhead hboth.2]
        exact ⟨fun hd => ⟨hd, hhead⟩, And.left⟩
    · rw [if_neg hfull, if_neg fun hboth => hfull hboth.1]
      exact hassign

/-- What the shard of a log without repeated ids looks like. -/
lemma Holds.wellFormed (h : shard.Holds capacity log) (hlog : (log.map Prod.fst).Nodup) :
    shard.insertionOrder.Nodup
      ∧ (∀ id, id ∈ shard.insertionOrder ↔ id ∈ shard.items.keys)
      ∧ shard.insertionOrder.length ≤ capacity := by
  refine ⟨?_, fun id => ?_, ?_⟩
  · rw [h.insertionOrder]
    exact hlog.sublist ((rtake_sublist _ _).map _)
  · rw [h.insertionOrder, SortedMap.mem_keys_iff]
    simp only [h.find?, List.mem_map, Prod.exists, exists_and_right, exists_eq_right]
  · rw [h.insertionOrder, List.length_map, length_rtake]
    exact min_le_left _ _

end ConnShard

/-! ## The cache -/

namespace SentDataCache

variable {numConns capacity : ℕ}

def insertAll (cache : SentDataCache) (log : List (ℕ × Packet)) : SentDataCache :=
  log.foldl (fun cache entry => cache.insert entry.1 entry.2) cache

lemma insertAll_append (cache : SentDataCache) (log : List (ℕ × Packet)) (entry : ℕ × Packet) :
    cache.insertAll (log ++ [entry]) = (cache.insertAll log).insert entry.1 entry.2 :=
  List.foldl_append

/-- A cleared cache is a new one. -/
lemma clear_eq_init (cache : SentDataCache) :
    cache.clear = init cache.shards.length cache.capacityPerConn := by
  rw [clear, init, List.map_const']

/-- The insertions that fall into a shard. -/
def shardLog (numConns : ℕ) (log : List (ℕ × Packet)) (i : ℕ) : List (ℕ × Packet) :=
  log.filter fun entry => entry.1 % numConns = i

/-- Every shard holds the last insertions that fell into it. -/
structure Holds (cache : SentDataCache) (numConns capacity : ℕ) (log : List (ℕ × Packet)) :
    Prop where
  capacityPerConn : cache.capacityPerConn = capacity
  length : cache.shards.length = numConns
  shards : ∀ (i : ℕ) (shard : ConnShard), cache.shards[i]? = some shard →
    shard.Holds capacity (shardLog numConns log i)

lemma holds_init (numConns capacity : ℕ) : (init numConns capacity).Holds numConns capacity [] := by
  refine ⟨rfl, List.length_replicate .., ?_⟩
  intro i shard hshard
  rw [init, List.getElem?_replicate] at hshard
  split_ifs at hshard
  cases hshard
  exact ConnShard.holds_empty capacity

lemma Holds.insert {cache : SentDataCache} {log : List (ℕ × Packet)}
    (h : cache.Holds numConns capacity log) {id : ℕ} (data : Packet)
    (hlog : ((log ++ [(id, data)]).map Prod.fst).Nodup) :
    (cache.insert id data).Holds numConns capacity (log ++ [(id, data)]) := by
  refine ⟨h.capacityPerConn, by rw [SentDataCache.insert, List.length_modify, h.length], ?_⟩
  intro i shard hshard
  rw [SentDataCache.insert, List.getElem?_modify, h.length, h.capacityPerConn,
    Option.map_eq_map, Option.map_eq_some_iff] at hshard
  obtain ⟨old, hold, rfl⟩ := hshard
  have hshard := h.shards i old hold
  rw [shardLog, List.filter_append]
  by_cases hi : id % numConns = i
  · rw [List.filter_cons_of_pos (by simpa using hi), List.filter_nil, if_pos hi]
    refine hshard.insert data ?_
    have hsub : (shardLog numConns log i ++ [(id, data)]).Sublist (log ++ [(id, data)]) :=
      List.filter_sublist.append_right _
    exact hlog.sublist (hsub.map Prod.fst)
  · rw [List.filter_cons_of_neg (by simpa using hi), List.filter_nil, List.append_nil, if_neg hi]
    exact hshard

/-- Insertions of distinct ids, one after the other. -/
lemma holds_insertAll (numConns capacity : ℕ) {log : List (ℕ × Packet)}
    (hlog : (log.map Prod.fst).Nodup) :
    ((init numConns capacity).insertAll log).Holds numConns capacity log := by
  induction log using List.reverseRecOn with
  | nil => exact holds_init numConns capacity
  | append_singleton log entry ih =>
    rw [insertAll_append]
    refine Holds.insert (ih ?_) entry.2 hlog
    rw [List.map_append] at hlog
    exact hlog.of_append_left

/-- An id is found while it is among the last of its shard. -/
lemma Holds.find_eq_some_iff {cache : SentDataCache} {log : List (ℕ × Packet)}
    (h : cache.Holds numConns capacity log) (hpos : 0 < numConns) {id : ℕ} {data : Packet} :
    cache.find id = some data
      ↔ (id, data) ∈ (shardLog numConns log (id % numConns)).rtake capacity := by
  have hlt : id % numConns < cache.shards.length := by
    rw [h.length]
    exact Nat.mod_lt _ hpos
  have hshard := h.shards _ _ (List.getElem?_eq_getElem hlt)
  rw [← hshard.find?, find, Option.bind_eq_some_iff, h.length]
  constructor
  · rintro ⟨shard, hget, hfind⟩
    rw [List.getElem?_eq_getElem hlt] at hget
    rwa [Option.some.inj hget]
  · exact fun hfind => ⟨_, List.getElem?_eq_getElem hlt, hfind⟩

/-- The ids `0, 1, …, n - 1`, each with its data. -/
def consecutive (data : ℕ → Packet) (n : ℕ) : List (ℕ × Packet) :=
  (List.range n).map fun id => (id, data id)

lemma map_fst_consecutive (data : ℕ → Packet) (n : ℕ) :
    (consecutive data n).map Prod.fst = List.range n := by
  rw [consecutive, List.map_map]
  exact List.map_id _

lemma shardLog_consecutive (data : ℕ → Packet) (n i : ℕ) :
    shardLog numConns (consecutive data n) i
      = ((List.range n).filter fun id => id % numConns = i).map fun id => (id, data id) := by
  rw [shardLog, consecutive, List.filter_map]
  rfl

/-- Of consecutive ids each shard gets every `numConns`-th. -/
lemma mem_rtake_shard (hpos : 0 < numConns) (n id : ℕ) :
    id ∈ ((List.range n).filter fun j => j % numConns = id % numConns).rtake capacity
      ↔ n ≤ id + capacity * numConns ∧ id < n := by
  rw [mem_rtake_iff (List.pairwise_lt_range.filter _), List.filter_filter]
  -- the later ids of the shard are those that can have evicted this one
  have hlater : ((List.range n).filter fun j =>
      (decide (id < j) && decide (j % numConns = id % numConns))).length
      = (n - 1 - id) / numConns := by
    rw [← length_later hpos]
    congr 1
    refine List.filter_congr fun j _ => ?_
    rw [Bool.and_comm, Bool.decide_and]
  rw [hlater, List.mem_filter, List.mem_range, Nat.div_lt_iff_lt_mul hpos, and_comm]
  simp only [decide_true, and_true]
  refine and_congr_left fun hlt => ?_
  omega

theorem keeps_most_recent (numConns capacity : ℕ) (hpos : 1 ≤ numConns) :
    (∀ (data : ℕ → Packet) (n id : ℕ),
      ((init numConns capacity).insertAll (consecutive data n)).find id =
        if (n : ℤ) - capacity * numConns ≤ id ∧ id < n then some (data id) else none)
    ∧ ∀ log : List (ℕ × Packet), (log.map Prod.fst).Nodup →
      ∀ shard ∈ ((init numConns capacity).insertAll log).shards,
        shard.insertionOrder.Nodup
          ∧ (∀ id, id ∈ shard.insertionOrder ↔ id ∈ shard.items.keys)
          ∧ shard.insertionOrder.length ≤ capacity := by
  constructor
  · intro data n id
    have hdistinct : ((consecutive data n).map Prod.fst).Nodup := by
      rw [map_fst_consecutive]
      exact List.nodup_range
    have hfind : ∀ d, ((init numConns capacity).insertAll (consecutive data n)).find id = some d
        ↔ (n ≤ id + capacity * numConns ∧ id < n) ∧ d = data id := by
      intro d
      rw [(holds_insertAll numConns capacity hdistinct).find_eq_some_iff hpos,
        shardLog_consecutive, ← map_rtake, ← mem_rtake_shard hpos]
      simp only [List.mem_map, Prod.mk.injEq]
      constructor
      · rintro ⟨j, hj, rfl, hd⟩
        exact ⟨hj, hd.symm⟩
      · rintro ⟨hid, hd⟩
        exact ⟨id, hid, rfl, hd.symm⟩
    have hrange : ((n : ℤ) - capacity * numConns ≤ id ∧ id < n)
        ↔ n ≤ id + capacity * numConns ∧ id < n := by
      refine and_congr_left fun _ => ?_
      rw [sub_le_iff_le_add]
      exact_mod_cast Iff.rfl
    rw [if_congr hrange rfl rfl]
    split_ifs with hin
    · exact (hfind _).mpr ⟨hin, rfl⟩
    · rw [Option.eq_none_iff_forall_ne_some]
      exact fun d hd => hin ((hfind d).mp hd).1
  · intro log hlog shard hmem
    obtain ⟨i, hi, rfl⟩ := List.getElem_of_mem hmem
    have hshard := (holds_insertAll numConns capacity hlog).shards i _ (List.getElem?_eq_getElem hi)
    refine hshard.wellFormed ?_
    exact hlog.sublist (List.filter_sublist.map Prod.fst)

/-- Two shards of one packet each keep the last two ids. -/
theorem keeps_most_recent_two :
    ((init 2 1).insertAll (consecutive (fun id => [UInt8.ofNat id]) 3)).find 0 = none
      ∧ ((init 2 1).insertAll (consecutive (fun id => [UInt8.ofNat id]) 3)).find 1 = some [1] :=
  ⟨(keeps_most_recent 2 1 (by decide)).1 (fun id => [UInt8.ofNat id]) 3 0,
    (keeps_most_recent 2 1 (by decide)).1 (fun id => [UInt8.ofNat id]) 3 1⟩

end SentDataCache
end TcpUdp
