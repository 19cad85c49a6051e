import TcpUdp.VcProtocol
import TcpUdp.Lib.SortedMap

/-!
# What the sending side remembers

The cache of sent packets that resends are served from, the tracker of which connection
carried which message, and the per-connection statistics and degradation status. Cache
and tracker are sharded by `messageId % shards.size()`.
-/

namespace TcpUdp

open Lib

/-! ## `SentDataCache` -/

structure ConnShard where
  items : SortedMap ℕ Packet := SortedMap.empty
  insertionOrder : List ℕ := []

/-- The shard's part of `SentDataCache::insert`: the oldest insertion goes when the
order grows past the capacity. -/
def ConnShard.insert (shard : ConnShard) (capacityPerConn messageId : ℕ) (data : Packet) :
    ConnShard :=
  let items := shard.items.insertOrAssign messageId data
  let insertionOrder := shard.insertionOrder ++ [messageId]
  if insertionOrder.length > capacityPerConn then
    match insertionOrder with
    | oldest :: rest => { items := items.erase oldest, insertionOrder := rest }
    | [] => { items := items, insertionOrder := [] }
  else { items := items, insertionOrder := insertionOrder }

structure SentDataCache where
  shards : List ConnShard
  capacityPerConn : ℕ := 128

namespace SentDataCache

/-- `SentDataCache(numConns, capacityPerConn)`. -/
def init (numConns capacityPerConn : ℕ) : SentDataCache :=
  { shards := List.replicate numConns {}, capacityPerConn := capacityPerConn }

def insert (cache : SentDataCache) (messageId : ℕ) (data : Packet) : SentDataCache :=
  let idx := messageId % cache.shards.length
  { cache with
    shards := cache.shards.modify idx fun shard =>
      shard.insert cache.capacityPerConn messageId data }

def find (cache : SentDataCache) (messageId : ℕ) : Option Packet :=
  let idx := messageId % cache.shards.length
  (cache.shards[idx]?).bind fun shard => shard.items.find? messageId

def clear (cache : SentDataCache) : SentDataCache :=
  { cache with
    shards := cache.shards.map fun shard =>
      { shard with items := SortedMap.empty, insertionOrder := [] } }

lemma find_init (numConns capacityPerConn messageId : ℕ) :
    (init numConns capacityPerConn).find messageId = none := by
  rw [find, init, Option.bind_eq_none_iff]
  intro shard hshard
  rw [List.getElem?_replicate] at hshard
  split_ifs at hshard
  cases hshard
  rfl

end SentDataCache

lemma ConnShard.find?_insert {shard : ConnShard} {capacity id j : ℕ} {data d : Packet}
    (h : (shard.insert capacity id data).items.find? j = some d) :
    (j = id ∧ d = data) ∨ shard.items.find? j = some d := by
  -- eviction only removes, so the assignment decides
  have hassign : ∀ {m : SortedMap ℕ Packet}, m = shard.items.insertOrAssign id data →
      m.find? j = some d → (j = id ∧ d = data) ∨ shard.items.find? j = some d := by
    rintro m rfl hm
    rw [SortedMap.find?_insertOrAssign] at hm
    split_ifs at hm with hj
    · exact Or.inl ⟨hj, (Option.some.inj hm).symm⟩
    · exact Or.inr hm
  rw [ConnShard.insert] at h
  split_ifs at h
  · split at h
    · rw [SortedMap.find?_erase] at h
      split_ifs at h
      exact hassign rfl h
    · exact hassign rfl h
  · exact hassign rfl h

/-- A packet found in the cache is the one just inserted, or was there before. -/
lemma SentDataCache.find_insert {cache : SentDataCache} {id j : ℕ} {data d : Packet}
    (h : (cache.insert id data).find j = some d) :
    (j = id ∧ d = data) ∨ cache.find j = some d := by
  rw [find, Option.bind_eq_some_iff] at h
  obtain ⟨shard, hshard, hd⟩ := h
  rw [insert] at hshard
  simp only [List.length_modify, List.getElem?_modify] at hshard
  rw [find]
  simp only [Option.bind_eq_some_iff]
  split_ifs at hshard with hidx
  · obtain ⟨old, hold, rfl⟩ := Option.map_eq_some_iff.mp hshard
    exact (ConnShard.find?_insert hd).imp_right fun h => ⟨old, hold, h⟩
  · exact Or.inr ⟨shard, by simpa using hshard, hd⟩

/-! ## `MessageTracker` -/

structure MessageTracker where
  shards : List (SortedMap ℕ ℕ)

namespace MessageTracker

def init (numShards : ℕ) : MessageTracker :=
  { shards := List.replicate numShards SortedMap.empty }

def recordMessage (tracker : MessageTracker) (messageId connectionIndex : ℕ) : MessageTracker :=
  let idx := messageId % tracker.shards.length
  { shards := tracker.shards.modify idx fun shard =>
      shard.insertOrAssign messageId connectionIndex }

/-- `none` is the source's `-1`. -/
def getConnectionIndex (tracker : MessageTracker) (messageId : ℕ) : Option ℕ :=
  let idx := messageId % tracker.shards.length
  (tracker.shards[idx]?).bind fun shard => shard.find? messageId

end MessageTracker

/-! ## `ConnSendStats` and `SocketStatus` -/

structure ConnSendStats where
  lastTxMessageId : ℕ := 0
  lastTxTimeMs : ℤ := 0
  txCount : ℕ := 0
  reenqueueCount : ℕ := 0
  valid : Bool := false

structure SocketStatus where
  isDegraded : Bool := false
  degradedSinceMs : ℤ := 0
  degradationCount : ℕ := 0

def SocketStatus.markDegraded (status : SocketStatus) (nowMs : ℤ) : SocketStatus :=
  { isDegraded := true, degradedSinceMs := nowMs,
    degradationCount := status.degradationCount + 1 }

/-- `1LL << amount`, of which the machine takes the six low bits of `amount`. -/
def shiftedOne (amount : ℤ) : ℤ := (2 ^ (amount % 64).toNat : ℤ).bmod (2 ^ 64)

/-- The time for which a connection counts as degraded doubles with each mark, up to eight
times `maxDurationMs`. -/
def SocketStatus.isCurrentlyDegraded (status : SocketStatus) (nowMs maxDurationMs : ℤ) : Bool :=
  if !status.isDegraded then false
  else
    let elapsedMs := nowMs - status.degradedSinceMs
    let effectiveMs :=
      (maxDurationMs * shiftedOne (min ((status.degradationCount : ℤ) - 1) 3)).bmod (2 ^ 64)
    decide (elapsedMs < effectiveMs)

/-! ## `pendingResendIds` -/

/-- How long an id asked for counts as being resent. -/
def pendingResendTtl : ℤ := 2000

end TcpUdp
