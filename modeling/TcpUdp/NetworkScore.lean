import TcpUdp.RuntimeInfo
import TcpUdp.SentState
import TcpUdp.Lib.Interpolation
import TcpUdp.Lib.Rounding
import Mathlib.Data.Rat.Floor

/-!
# The network score

`NetworkScoreCalculator::compute`: counts over the connections, and four scores with a weighted
mean of them. What the code computes in `double` is rational here; a conversion to `int`
truncates, and `std::round` takes halves away from zero.
-/

namespace TcpUdp

open Lib

structure NetworkScore where
  overall : ℤ := 0
  latency : ℤ := 0
  throughput : ℤ := 0
  stability : ℤ := 0
  queueHealth : ℤ := 0
  avgRttMs : ℚ := 0
  avgCwndKB : ℚ := 0
  totalTxCount : ℕ := 0
  totalReenqueueCount : ℕ := 0
  degradedCount : ℤ := 0
  deadCount : ℤ := 0
  aliveCount : ℤ := 0
  sendQueueDepth : ℕ := 0

namespace NetworkScoreCalculator

/-! ## The four scores -/

/-- Round trip times in milliseconds and their scores. -/
def kThresholds : List (ℚ × ℚ) :=
  [(0, 100), (80, 100), (160, 75), (300, 50), (600, 25), (1500, 10), (3000, 0)]

def scoreLatency (avgRttMs : ℚ) : ℤ :=
  -- no data
  if avgRttMs ≤ 0 then 100
  else if avgRttMs ≥ 3000 then 0
  else
    match interpolate kThresholds avgRttMs with
    | some rawScore => roundAway rawScore
    | none => 0

/-- The score of a congestion window, or `connScore` where none is known. -/
def cwndScore (avgCwndKB : ℚ) (connScore : ℤ) : ℤ :=
  if avgCwndKB > 0 then
    if avgCwndKB ≥ 128 then 100
    else if avgCwndKB ≥ 64 then 85
    else if avgCwndKB ≥ 32 then 70
    else if avgCwndKB ≥ 16 then 50
    else if avgCwndKB ≥ 8 then 30
    else 10
  else connScore

/-- The connections alive, in percent. -/
def connScore (aliveCount totalConnections : ℤ) : ℤ :=
  let aliveRatio : ℚ := if totalConnections > 0 then aliveCount / totalConnections else 0
  truncate (aliveRatio * 100)

def scoreThroughput (avgCwndKB : ℚ) (totalTxCount : ℕ) (aliveCount totalConnections : ℤ) : ℤ :=
  -- no data is flowing yet
  if totalTxCount = 0 then if aliveCount > 0 then 70 else 0
  else
    let connScore := connScore aliveCount totalConnections
    truncate ((cwndScore avgCwndKB connScore : ℚ) * (6 / 10) + (connScore : ℚ) * (4 / 10))

/-- The deduction for the share of sends that failed. -/
def reenqueuePenalty (totalReenqueueCount totalTxCount : ℕ) : ℤ :=
  if totalTxCount > 0 then
    let reenqueueRate : ℚ := totalReenqueueCount / totalTxCount
    if reenqueueRate > 20 / 100 then 40
    else if reenqueueRate > 10 / 100 then 30
    else if reenqueueRate > 5 / 100 then 20
    else if reenqueueRate > 1 / 100 then 10
    else 0
  else 0

def scoreStability (totalReenqueueCount totalTxCount : ℕ)
    (degradedCount deadCount aliveCount : ℤ) : ℤ :=
  let score : ℤ := 100
  let score := score - deadCount * 15
  let score := score - degradedCount * 8
  let score := score - reenqueuePenalty totalReenqueueCount totalTxCount
  let score := if aliveCount = 0 ∧ deadCount > 0 then 0 else score
  max 0 (min 100 score)

def scoreQueueHealth (sendQueueDepth : ℕ) : ℤ :=
  if sendQueueDepth = 0 then 100
  else if sendQueueDepth ≥ sendQueueDropThreshold then 0
  else
    let ratio : ℚ := sendQueueDepth / sendQueueDropThreshold
    roundAway (100 * (1 - ratio))

/-! ## The connections -/

/-- What is known of the connection of a slot, and the clock when it is looked at. -/
structure Slot where
  info : RuntimeInfo
  sendStats : Option ConnSendStats
  status : Option SocketStatus
  nowMs : ℤ

/-- The counters of the loop. -/
structure Metrics where
  aliveCount : ℤ := 0
  deadCount : ℤ := 0
  degradedCount : ℤ := 0
  totalRttUs : ℚ := 0
  totalCwndBytes : ℚ := 0
  rttSamples : ℤ := 0
  cwndSamples : ℤ := 0
  totalTxCount : ℕ := 0
  totalReenqueueCount : ℕ := 0

/-- Without runtime info, a connection is alive if it has sent. -/
def isAlive (info : RuntimeInfo) (sendStats : Option ConnSendStats) : Bool :=
  if !info.supported && sendStats.any (·.valid) then true else info.valid

def isDegraded (slot : Slot) : Bool :=
  slot.status.any fun status => status.isCurrentlyDegraded slot.nowMs 10000

/-- The counters for an alive connection. -/
def countAlive (m : Metrics) (slot : Slot) : Metrics :=
  let m := { m with aliveCount := m.aliveCount + 1 }
  let m :=
    if slot.info.supported && decide (slot.info.smoothedRttUs > 0) then
      { m with totalRttUs := m.totalRttUs + slot.info.smoothedRttUs, rttSamples := m.rttSamples + 1 }
    else m
  let m :=
    if slot.info.supported && decide (slot.info.congestionWindowBytes > 0) then
      { m with
        totalCwndBytes := m.totalCwndBytes + slot.info.congestionWindowBytes
        cwndSamples := m.cwndSamples + 1 }
    else m
  if isDegraded slot then { m with degradedCount := m.degradedCount + 1 } else m

/-- The send statistics count for dead connections too. -/
def addSendStats (m : Metrics) (stats : ConnSendStats) : Metrics :=
  { m with
    totalTxCount := (m.totalTxCount + stats.txCount) % uint64Size
    totalReenqueueCount := (m.totalReenqueueCount + stats.reenqueueCount) % uint64Size }

/-- One pass of the loop. -/
def countSlot (m : Metrics) (slot : Slot) : Metrics :=
  let m :=
    if isAlive slot.info slot.sendStats then countAlive m slot
    else { m with deadCount := m.deadCount + 1 }
  match slot.sendStats with
  | some stats => addSendStats m stats
  | none => m

/-- The slots for which all three vectors have an entry; `clock i` is the time at which the
loop comes to slot `i`. -/
def slots (infos : List RuntimeInfo) (sendStats : List (Option ConnSendStats))
    (statuses : List (Option SocketStatus)) (clock : ℕ → ℤ) : List Slot :=
  (infos.zip (sendStats.zip statuses)).mapIdx fun i entry =>
    { info := entry.1, sendStats := entry.2.1, status := entry.2.2, nowMs := clock i }

def compute (infos : List RuntimeInfo) (sendStats : List (Option ConnSendStats))
    (statuses : List (Option SocketStatus)) (clock : ℕ → ℤ) (sendQueueDepth : ℕ) :
    NetworkScore :=
  let n := min infos.length (min sendStats.length statuses.length)
  let m := (slots infos sendStats statuses clock).foldl countSlot {}
  let avgRttMs : ℚ := if m.rttSamples > 0 then m.totalRttUs / m.rttSamples / 1000 else 0
  let avgCwndKB : ℚ := if m.cwndSamples > 0 then m.totalCwndBytes / m.cwndSamples / 1024 else 0
  let latency := scoreLatency avgRttMs
  let throughput := scoreThroughput avgCwndKB m.totalTxCount m.aliveCount n
  let stability :=
    scoreStability m.totalReenqueueCount m.totalTxCount m.degradedCount m.deadCount m.aliveCount
  let queueHealth := scoreQueueHealth sendQueueDepth
  { overall :=
      truncate ((latency : ℚ) * (25 / 100) + (throughput : ℚ) * (25 / 100)
        + (stability : ℚ) * (35 / 100) + (queueHealth : ℚ) * (15 / 100))
    latency, throughput, stability, queueHealth, avgRttMs, avgCwndKB
    totalTxCount := m.totalTxCount
    totalReenqueueCount := m.totalReenqueueCount
    degradedCount := m.degradedCount
    deadCount := m.deadCount
    aliveCount := m.aliveCount
    sendQueueDepth }

end NetworkScoreCalculator
end TcpUdp
