import TcpUdp.NetworkScore
import TcpUdp.Scoring
import Mathlib.Data.List.GetD

/-!
# The network score is normalised and monotone

Each score lies between 0 and 100, and falls or stays when what it measures gets worse. For the
latency that is a fact about interpolation in a falling table, so it holds across the brackets.
`scores_normalised_and_monotone` puts the parts together.
-/

namespace TcpUdp.NetworkScoreCalculator

open Lib

def InRange (score : ℤ) : Prop := 0 ≤ score ∧ score ≤ 100

/-! ## Latency -/

lemma falling_kThresholds : Falling kThresholds := by
  rw [Falling, kThresholds]
  decide

/-- Between 0 and 3000 ms the score is an interpolated one. -/
lemma scoreLatency_between {rtt : ℚ} (h0 : 0 < rtt) (h3000 : rtt < 3000) :
    ∃ raw, interpolate kThresholds rtt = some raw ∧ 0 ≤ raw ∧ raw ≤ 100
      ∧ scoreLatency rtt = roundAway raw := by
  have hlast : ∃ q ∈ kThresholds.tail, rtt < q.1 := ⟨(3000, 0), by decide, h3000⟩
  obtain ⟨raw, hraw⟩ := exists_interpolate (p := ((0, 100) : ℚ × ℚ)) h0.le hlast
  have hlow : ∀ r ∈ kThresholds, (0 : ℚ) ≤ r.2 := by decide
  refine ⟨raw, hraw, le_interpolate falling_kThresholds hlow hraw,
    (interpolate_le falling_kThresholds hraw).2, ?_⟩
  have hscore : interpolate kThresholds rtt = some raw := hraw
  rw [scoreLatency, if_neg (not_le.mpr h0), if_neg (not_le.mpr h3000), hscore]

lemma scoreLatency_inRange (rtt : ℚ) : InRange (scoreLatency rtt) := by
  rcases le_or_gt rtt 0 with h0 | h0
  · rw [scoreLatency, if_pos h0]
    exact ⟨by decide, le_rfl⟩
  · rcases le_or_gt 3000 rtt with h3000 | h3000
    · rw [scoreLatency, if_neg (not_le.mpr h0), if_pos h3000]
      exact ⟨le_rfl, by decide⟩
    · obtain ⟨raw, -, hlow, hhigh, hscore⟩ := scoreLatency_between h0 h3000
      rw [hscore]
      exact roundAway_mem (by exact_mod_cast hlow) (by exact_mod_cast hhigh)

lemma scoreLatency_antitone {rtt rtt' : ℚ} (hle : rtt ≤ rtt') :
    scoreLatency rtt' ≤ scoreLatency rtt := by
  rcases le_or_gt rtt 0 with h0 | h0
  · have hbest : scoreLatency rtt = 100 := by rw [scoreLatency, if_pos h0]
    rw [hbest]
    exact (scoreLatency_inRange rtt').2
  · have h0' : 0 < rtt' := lt_of_lt_of_le h0 hle
    rcases le_or_gt 3000 rtt' with h3000 | h3000
    · have hworst : scoreLatency rtt' = 0 := by
        rw [scoreLatency, if_neg (not_le.mpr h0'), if_pos h3000]
      rw [hworst]
      exact (scoreLatency_inRange rtt).1
    · obtain ⟨raw, hraw, -, -, hscore⟩ := scoreLatency_between h0 (lt_of_le_of_lt hle h3000)
      obtain ⟨raw', hraw', -, -, hscore'⟩ := scoreLatency_between h0' h3000
      rw [hscore, hscore']
      exact roundAway_mono (interpolate_antitone falling_kThresholds hle hraw hraw')

/-! ## Throughput -/

/-- A weighted mean of scores is a score. -/
lemma inRange_truncate {x : ℚ} (hlow : 0 ≤ x) (hhigh : x ≤ 100) : InRange (truncate x) :=
  truncate_mem (by exact_mod_cast hlow) (by exact_mod_cast hhigh)

lemma InRange.cast {score : ℤ} (h : InRange score) : (0 : ℚ) ≤ score ∧ (score : ℚ) ≤ 100 :=
  ⟨by exact_mod_cast h.1, by exact_mod_cast h.2⟩

lemma connScore_inRange {alive total : ℤ} (h0 : 0 ≤ alive) (hle : alive ≤ total) :
    InRange (connScore alive total) := by
  rw [connScore]
  apply inRange_truncate
  all_goals
    split_ifs with hpos
    · have htotal : (0 : ℚ) < total := by exact_mod_cast hpos
      have hratio : (alive : ℚ) / total ≤ 1 := (div_le_one htotal).mpr (by exact_mod_cast hle)
      have hnonneg : (0 : ℚ) ≤ alive / total := div_nonneg (by exact_mod_cast h0) htotal.le
      linarith
    · norm_num

lemma cwndScore_inRange (avgCwndKB : ℚ) {score : ℤ} (h : InRange score) :
    InRange (cwndScore avgCwndKB score) := by
  rw [cwndScore]
  split_ifs
  iterate 6 exact ⟨by decide, by decide⟩
  exact h

lemma scoreThroughput_inRange (avgCwndKB : ℚ) (totalTxCount : ℕ) {alive total : ℤ}
    (h0 : 0 ≤ alive) (hle : alive ≤ total) :
    InRange (scoreThroughput avgCwndKB totalTxCount alive total) := by
  rw [scoreThroughput]
  split_ifs
  · exact ⟨by decide, by decide⟩
  · exact ⟨by decide, by decide⟩
  · obtain ⟨hconn, hconn'⟩ := (connScore_inRange h0 hle).cast
    obtain ⟨hcwnd, hcwnd'⟩ := (cwndScore_inRange avgCwndKB (connScore_inRange h0 hle)).cast
    exact inRange_truncate (by linarith) (by linarith)

/-! ## Stability -/

lemma scoreStability_inRange (reenqueued tx : ℕ) (degraded dead alive : ℤ) :
    InRange (scoreStability reenqueued tx degraded dead alive) :=
  ⟨le_max_left _ _, max_le (by decide) (min_le_left _ _)⟩

lemma reenqueuePenalty_mono {reenqueued reenqueued' : ℕ} (tx : ℕ) (h : reenqueued ≤ reenqueued') :
    reenqueuePenalty reenqueued tx ≤ reenqueuePenalty reenqueued' tx := by
  rw [reenqueuePenalty, reenqueuePenalty]
  by_cases htx : tx > 0
  · have hrate : (reenqueued : ℚ) / tx ≤ reenqueued' / tx :=
      div_le_div_of_nonneg_right (by exact_mod_cast h) (Nat.cast_nonneg tx)
    rw [if_pos htx, if_pos htx]
    simp only
    split_ifs <;> first | decide | linarith
  · rw [if_neg htx, if_neg htx]

lemma scoreStability_antitone {reenqueued reenqueued' : ℕ} (tx : ℕ)
    {degraded degraded' dead dead' : ℤ} (alive : ℤ) (hreenqueued : reenqueued ≤ reenqueued')
    (hdegraded : degraded ≤ degraded') (hdead : dead ≤ dead') :
    scoreStability reenqueued' tx degraded' dead' alive
      ≤ scoreStability reenqueued tx degraded dead alive := by
  have hpenalty := reenqueuePenalty_mono tx hreenqueued
  by_cases hall : alive = 0 ∧ dead' > 0
  · have hzero : scoreStability reenqueued' tx degraded' dead' alive = 0 := by
      rw [scoreStability]
      simp only [if_pos hall]
      decide
    rw [hzero]
    exact (scoreStability_inRange _ _ _ _ _).1
  · have hnone : ¬ (alive = 0 ∧ dead > 0) := fun h => hall ⟨h.1, lt_of_lt_of_le h.2 hdead⟩
    rw [scoreStability, scoreStability]
    simp only [if_neg hall, if_neg hnone]
    apply max_le_max le_rfl
    apply min_le_min le_rfl
    linarith

/-! ## Queue health -/

lemma scoreQueueHealth_between {depth : ℕ} (h0 : depth ≠ 0) (h : depth < sendQueueDropThreshold) :
    scoreQueueHealth depth = roundAway (100 * (1 - (depth : ℚ) / sendQueueDropThreshold)) := by
  rw [scoreQueueHealth, if_neg h0, if_neg (not_le.mpr h)]

lemma threshold_pos : (0 : ℚ) < sendQueueDropThreshold := by
  rw [sendQueueDropThreshold]
  norm_num

lemma scoreQueueHealth_inRange (depth : ℕ) : InRange (scoreQueueHealth depth) := by
  by_cases h0 : depth = 0
  · rw [h0]
    exact ⟨by decide, le_rfl⟩
  · rcases le_or_gt sendQueueDropThreshold depth with hfull | hless
    · rw [scoreQueueHealth, if_neg h0, if_pos hfull]
      exact ⟨le_rfl, by decide⟩
    · rw [scoreQueueHealth_between h0 hless]
      have hratio : (depth : ℚ) / sendQueueDropThreshold ≤ 1 :=
        (div_le_one threshold_pos).mpr (by exact_mod_cast hless.le)
      have hnonneg : (0 : ℚ) ≤ depth / sendQueueDropThreshold :=
        div_nonneg (Nat.cast_nonneg depth) threshold_pos.le
      exact roundAway_mem (by push_cast; linarith) (by push_cast; linarith)

lemma scoreQueueHealth_antitone {depth depth' : ℕ} (hle : depth ≤ depth') :
    scoreQueueHealth depth' ≤ scoreQueueHealth depth := by
  by_cases h0 : depth = 0
  · rw [h0]
    exact (scoreQueueHealth_inRange depth').2
  · have h0' : depth' ≠ 0 := fun h => h0 (Nat.le_zero.mp (h ▸ hle))
    rcases le_or_gt sendQueueDropThreshold depth' with hfull | hless
    · have hworst : scoreQueueHealth depth' = 0 := by
        rw [scoreQueueHealth, if_neg h0', if_pos hfull]
      rw [hworst]
      exact (scoreQueueHealth_inRange depth).1
    · rw [scoreQueueHealth_between h0 (lt_of_le_of_lt hle hless), scoreQueueHealth_between h0' hless]
      have hratio : (depth : ℚ) / sendQueueDropThreshold ≤ depth' / sendQueueDropThreshold :=
        div_le_div_of_nonneg_right (by exact_mod_cast hle) threshold_pos.le
      exact roundAway_mono (by linarith)

/-! ## The counts -/

lemma countAlive_counts (m : Metrics) (slot : Slot) :
    (countAlive m slot).aliveCount = m.aliveCount + 1
      ∧ (countAlive m slot).deadCount = m.deadCount
      ∧ (countAlive m slot).degradedCount
        = m.degradedCount + if isDegraded slot then 1 else 0 := by
  rw [countAlive]
  split_ifs <;> exact ⟨rfl, rfl, by first | rfl | exact (add_zero _).symm⟩

/-- A slot is counted as alive or as dead, and as degraded only if it is alive. -/
lemma countSlot_counts (m : Metrics) (slot : Slot) :
    (countSlot m slot).aliveCount
        = m.aliveCount + (if isAlive slot.info slot.sendStats then 1 else 0)
      ∧ (countSlot m slot).deadCount
        = m.deadCount + (if isAlive slot.info slot.sendStats then 0 else 1)
      ∧ (countSlot m slot).degradedCount
        = m.degradedCount
          + if isAlive slot.info slot.sendStats && isDegraded slot then 1 else 0 := by
  obtain ⟨halive, hdead, hdegraded⟩ := countAlive_counts m slot
  rw [countSlot]
  by_cases h : isAlive slot.info slot.sendStats = true
  · simp only [h, if_true, Bool.true_and, add_zero]
    cases slot.sendStats <;> exact ⟨halive, hdead, hdegraded⟩
  · simp only [Bool.eq_false_iff.mpr h, Bool.false_and, Bool.false_eq_true, if_false, add_zero]
    cases slot.sendStats <;> exact ⟨rfl, rfl, rfl⟩

lemma foldl_counts (l : List Slot) (m : Metrics) :
    (l.foldl countSlot m).aliveCount
        = m.aliveCount + l.countP (fun slot => isAlive slot.info slot.sendStats)
      ∧ (l.foldl countSlot m).deadCount
        = m.deadCount + l.countP (fun slot => !isAlive slot.info slot.sendStats)
      ∧ (l.foldl countSlot m).degradedCount
        = m.degradedCount
          + l.countP (fun slot => isAlive slot.info slot.sendStats && isDegraded slot) := by
  induction l generalizing m with
  | nil => exact ⟨(add_zero _).symm, (add_zero _).symm, (add_zero _).symm⟩
  | cons slot l ih =>
    obtain ⟨halive, hdead, hdegraded⟩ := ih (countSlot m slot)
    obtain ⟨halive', hdead', hdegraded'⟩ := countSlot_counts m slot
    rw [List.foldl_cons, halive, hdead, hdegraded, halive', hdead', hdegraded', List.countP_cons,
      List.countP_cons, List.countP_cons]
    push_cast
    refine ⟨by ring, ?_, by ring⟩
    -- a slot is counted dead where it is not counted alive
    cases isAlive slot.info slot.sendStats
    · simp only [Bool.not_false, if_true, Bool.false_eq_true, if_false]
      ring
    · simp only [Bool.not_true, if_true, Bool.false_eq_true, if_false]
      ring

lemma length_slots (infos : List RuntimeInfo) (sendStats : List (Option ConnSendStats))
    (statuses : List (Option SocketStatus)) (clock : ℕ → ℤ) :
    (slots infos sendStats statuses clock).length
      = min infos.length (min sendStats.length statuses.length) := by
  rw [slots, List.length_mapIdx, List.length_zip, List.length_zip]

lemma deadCount_compute (infos : List RuntimeInfo) (sendStats : List (Option ConnSendStats))
    (statuses : List (Option SocketStatus)) (clock : ℕ → ℤ) (depth : ℕ) :
    (compute infos sendStats statuses clock depth).deadCount
      = (slots infos sendStats statuses clock).countP fun slot =>
        !isAlive slot.info slot.sendStats := by
  obtain ⟨-, hdead, -⟩ := foldl_counts (slots infos sendStats statuses clock) {}
  rw [zero_add] at hdead
  exact hdead

lemma getD_slots {infos : List RuntimeInfo} {sendStats : List (Option ConnSendStats)}
    {statuses : List (Option SocketStatus)} (clock : ℕ → ℤ) {i : ℕ} (hinfo : i < infos.length)
    (hstats : i < sendStats.length) (hstatus : i < statuses.length) (d : Slot) :
    (slots infos sendStats statuses clock).getD i d
      = { info := infos.getD i {}, sendStats := sendStats.getD i none
          status := statuses.getD i none, nowMs := clock i } := by
  have hlen : i < (slots infos sendStats statuses clock).length := by
    rw [length_slots]
    omega
  rw [List.getD_eq_getElem _ _ hlen, List.getD_eq_getElem _ _ hinfo, List.getD_eq_getElem _ _ hstats,
    List.getD_eq_getElem _ _ hstatus]
  simp only [slots, List.getElem_mapIdx, List.getElem_zip]

/-- The counts of a score: none is negative, and what is degraded is alive. -/
lemma compute_counts (infos : List RuntimeInfo) (sendStats : List (Option ConnSendStats))
    (statuses : List (Option SocketStatus)) (clock : ℕ → ℤ) (depth : ℕ) {score : NetworkScore}
    (hscore : compute infos sendStats statuses clock depth = score) :
    score.aliveCount + score.deadCount
        = (min infos.length (min sendStats.length statuses.length) : ℕ)
      ∧ 0 ≤ score.deadCount ∧ 0 ≤ score.degradedCount ∧ score.degradedCount ≤ score.aliveCount := by
  obtain ⟨halive, hdead, hdegraded⟩ := foldl_counts (slots infos sendStats statuses clock) {}
  have hlength := List.length_eq_countP_add_countP
    (fun slot : Slot => isAlive slot.info slot.sendStats)
    (l := slots infos sendStats statuses clock)
  simp only [Bool.not_eq_true, Bool.decide_eq_false] at hlength
  have hsub : (slots infos sendStats statuses clock).countP
        (fun slot => isAlive slot.info slot.sendStats && isDegraded slot)
      ≤ (slots infos sendStats statuses clock).countP
        (fun slot => isAlive slot.info slot.sendStats) :=
    List.countP_mono_left fun slot _ h => (Bool.and_eq_true_iff.mp h).1
  rw [zero_add] at halive hdead hdegraded
  rw [length_slots] at hlength
  subst hscore
  rw [compute]
  simp only [halive, hdead, hdegraded]
  omega

/-- Up to 143 million connections no `int` of the computation overflows. -/
lemma compute_int32 {infos : List RuntimeInfo} (sendStats : List (Option ConnSendStats))
    (statuses : List (Option SocketStatus)) (clock : ℕ → ℤ) (depth : ℕ) {score : NetworkScore}
    (hscore : compute infos sendStats statuses clock depth = score)
    (hsmall : infos.length ≤ 143165570) {penalty : ℤ} (hpenalty : 0 ≤ penalty ∧ penalty ≤ 40) :
    IsInt32 score.aliveCount ∧ IsInt32 (score.deadCount * 15) ∧ IsInt32 (score.degradedCount * 8)
      ∧ IsInt32 (100 - score.deadCount * 15)
      ∧ IsInt32 (100 - score.deadCount * 15 - score.degradedCount * 8)
      ∧ IsInt32 (100 - score.deadCount * 15 - score.degradedCount * 8 - penalty) := by
  obtain ⟨hsum, hdead, hdegraded, hle⟩ := compute_counts _ _ _ _ _ hscore
  have hn : min infos.length (min sendStats.length statuses.length) ≤ infos.length :=
    min_le_left _ _
  simp only [IsInt32]
  omega

/-! ## The score -/

lemma inRange_overall {latency throughput stability queueHealth : ℤ} (hlatency : InRange latency)
    (hthroughput : InRange throughput) (hstability : InRange stability)
    (hqueue : InRange queueHealth) :
    InRange (truncate ((latency : ℚ) * (25 / 100) + (throughput : ℚ) * (25 / 100)
      + (stability : ℚ) * (35 / 100) + (queueHealth : ℚ) * (15 / 100))) := by
  obtain ⟨_, _⟩ := hlatency.cast
  obtain ⟨_, _⟩ := hthroughput.cast
  obtain ⟨_, _⟩ := hstability.cast
  obtain ⟨_, _⟩ := hqueue.cast
  exact inRange_truncate (by linarith) (by linarith)

/-- All scores are between 0 and 100, every connection is counted once, and scores fall or stay
when what they measure rises. -/
theorem scores_normalised_and_monotone :
    (∀ (infos : List RuntimeInfo) (sendStats : List (Option ConnSendStats))
      (statuses : List (Option SocketStatus)) (clock : ℕ → ℤ) (sendQueueDepth : ℕ),
      let score := compute infos sendStats statuses clock sendQueueDepth
      InRange score.latency ∧ InRange score.throughput ∧ InRange score.stability
        ∧ InRange score.queueHealth ∧ InRange score.overall
        ∧ score.aliveCount + score.deadCount
          = (min infos.length (min sendStats.length statuses.length) : ℕ)
        ∧ score.degradedCount ≤ score.aliveCount)
    ∧ (∀ rtt rtt' : ℚ, rtt ≤ rtt' → scoreLatency rtt' ≤ scoreLatency rtt)
    ∧ (∀ depth depth' : ℕ, depth ≤ depth' → scoreQueueHealth depth' ≤ scoreQueueHealth depth)
    ∧ ∀ (tx : ℕ) (alive : ℤ) (reenqueued reenqueued' : ℕ) (degraded degraded' dead dead' : ℤ),
      reenqueued ≤ reenqueued' → degraded ≤ degraded' → dead ≤ dead' →
        scoreStability reenqueued' tx degraded' dead' alive
          ≤ scoreStability reenqueued tx degraded dead alive := by
  refine ⟨?_, fun _ _ => scoreLatency_antitone, fun _ _ => scoreQueueHealth_antitone,
    fun tx alive _ _ _ _ _ _ => scoreStability_antitone tx alive⟩
  intro infos sendStats statuses clock depth score
  obtain ⟨hsum, hdead, hdegraded, hle⟩ := compute_counts infos sendStats statuses clock depth rfl
  have hlatency : InRange score.latency := scoreLatency_inRange _
  have hthroughput : InRange score.throughput := by
    apply scoreThroughput_inRange _ _ (hdegraded.trans hle)
    rw [← hsum]
    exact Int.le_add_of_nonneg_right hdead
  have hstability : InRange score.stability := scoreStability_inRange _ _ _ _ _
  have hqueue : InRange score.queueHealth := scoreQueueHealth_inRange depth
  exact ⟨hlatency, hthroughput, hstability, hqueue,
    inRange_overall hlatency hthroughput hstability hqueue, hsum, hle⟩

theorem scores_normalised_and_monotone_twoSlots :
    InRange (compute [{ supported := true, valid := true, smoothedRttUs := 120000 }, {}]
      [some { txCount := 5, reenqueueCount := 1 }] [none, none, none] (fun _ => 0) 100).overall
    ∧ scoreLatency 1500 ≤ scoreLatency 120
    ∧ scoreQueueHealth 333 ≤ scoreQueueHealth 100
    ∧ scoreStability 3 100 1 2 5 ≤ scoreStability 3 100 1 1 5 := by
  obtain ⟨hscores, hlatency, hqueue, hstability⟩ := scores_normalised_and_monotone
  obtain ⟨-, -, -, -, hoverall, -⟩ :=
    hscores [{ supported := true, valid := true, smoothedRttUs := 120000 }, {}]
      [some { txCount := 5, reenqueueCount := 1 }] [none, none, none] (fun _ => 0) 100
  exact ⟨hoverall, hlatency 120 1500 (by decide), hqueue 100 333 (by decide),
    hstability 100 5 3 3 1 1 1 2 le_rfl le_rfl (by decide)⟩

end TcpUdp.NetworkScoreCalculator
