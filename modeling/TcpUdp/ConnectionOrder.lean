import TcpUdp.SentState
import Mathlib.Data.List.Sort
import Mathlib.Data.List.Rotate
import Mathlib.Data.Int.Order.Basic

/-!
# Choosing connections for a packet

`rateConnection` scores one connection, and the send loop turns the scores into the order
in which it tries the data connections: best first, the leading tie group rotated by the
round-robin counter.

The score is an `int`; every result that can leave the range is wrapped to 32 bits.
-/

namespace TcpUdp

/-- `TcpConnection::TcpConnectionRuntimeInfo`, the fields the rating reads. -/
structure TcpConnectionRuntimeInfo where
  isInExponentialBackoff : Bool := false
  smoothedRttUs : ℕ := 0
  congestionWindowBytes : ℕ := 0
  bytesInFlight : ℕ := 0
  timeoutEpisodes : ℕ := 0

/-- Conversion to a 32-bit signed integer. -/
def toInt32 (x : ℤ) : ℤ := x.bmod (2 ^ 32)

/-- `rateConnection` for a slot whose connection is connected: `-1` in exponential
backoff, else a score that is not negative. -/
def rateConnected (info : TcpConnectionRuntimeInfo) (stats : ConnSendStats) : ℤ :=
  if info.isInExponentialBackoff then -1
  else
    let score : ℤ := 10000 + (info.congestionWindowBytes / 200 : ℕ)
    let score := score - (info.smoothedRttUs / 200 : ℕ)
    let score := score - (info.bytesInFlight / 200 : ℕ)
    -- `timeoutEpisodes * 200` is unsigned 32-bit arithmetic
    let score := toInt32 (score - (info.timeoutEpisodes * 200 % 2 ^ 32 : ℕ))
    let score := toInt32 (score - toInt32 (toInt32 stats.reenqueueCount * 200))
    if score > 0 then score else 0

/-- `bestScore` after the rating loop. -/
def bestScore (scores : List ℤ) : ℤ := scores.foldl max (-1)

def uniformScores (scores : List ℤ) : Bool := scores.all fun score => score = scores.getD 0 (-1)

/-- The indices best-scored first, equal scores in natural order. The sort is skipped
when all scores are the same. -/
def sortedOrder (scores : List ℤ) : List ℕ :=
  let order := List.range scores.length
  if uniformScores scores then order
  -- stable, like the source's `std::stable_sort`
  else order.insertionSort fun a b => scores.getD a (-1) ≥ scores.getD b (-1)

/-- How many leading indices take part in the rotation: the tie group at the top, or
all of them when no connection is eligible. -/
def rotateCount (scores : List ℤ) (order : List ℕ) : ℕ :=
  if bestScore scores ≥ 0 then
    (order.takeWhile fun i => scores.getD i (-1) = bestScore scores).length
  else scores.length

/-- The order in which the connections are tried. -/
def connectionOrder (scores : List ℤ) (roundRobinStart : ℕ) : List ℕ :=
  let order := sortedOrder scores
  let count := rotateCount scores order
  if count > 1 then
    (order.take count).rotate (roundRobinStart % count) ++ order.drop count
  else order

lemma sortedOrder_perm (scores : List ℤ) : (sortedOrder scores).Perm (List.range scores.length) := by
  unfold sortedOrder
  dsimp only
  split_ifs
  · exact List.Perm.refl _
  · exact List.perm_insertionSort _ _

/-- Every data connection has exactly one place in the order. -/
lemma connectionOrder_perm (scores : List ℤ) (roundRobinStart : ℕ) :
    (connectionOrder scores roundRobinStart).Perm (List.range scores.length) := by
  refine List.Perm.trans ?_ (sortedOrder_perm scores)
  unfold connectionOrder
  dsimp only
  split_ifs
  · refine (List.Perm.append_right _ (List.rotate_perm _ _)).trans ?_
    rw [List.take_append_drop]
  · exact List.Perm.refl _

end TcpUdp
