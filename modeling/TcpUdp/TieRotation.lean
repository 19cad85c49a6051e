import TcpUdp.AttemptLoop

/-!
# Whose turn it is among equals

`roundRobinStart` advances modulo the number of data connections, and the group of equally
good connections is turned by it modulo the size of the group. `selected_in_turn_iff` says
when the packets of a window, as many as there are connections in the group, go to each of
them once.
-/

namespace TcpUdp

open Lib

/-- The connections tied at the best score. -/
def tiedAtBest (scores : List ℤ) : List ℕ :=
  (List.range scores.length).filter fun i => decide (scores.getD i (-1) = bestScore scores)

/-- The connection that the loop tries first. -/
def SendJob.firstChoice (job : SendJob) : ℕ := job.order.getD 0 0

/-- The first choices of a window: all different, and each tied connection is one of them,
once. -/
structure SelectedInTurn (scores : List ℤ) (picks : List ℕ) : Prop where
  distinct : picks.Nodup
  exactlyOnce : picks.Perm (tiedAtBest scores)

namespace SendThread

variable {s s₀ : SendThread} {u : ℕ → Event}

/-- The job that a step starts. -/
def started? (s : SendThread) : Event → Option SendJob
  | .thread io =>
    match s.pc with
    | .startPacket data => (s.stepStartPacket data io).job?
    | _ => none
  | _ => none

/-- The jobs started in the first `n` steps, in order: one for each packet, and one more
each time a packet that nobody took is tried again. -/
def selections (s₀ : SendThread) (u : ℕ → Event) : ℕ → List SendJob
  | 0 => []
  | n + 1 => selections s₀ u n ++ ((runState step s₀ u n).started? (u n)).toList

/-! ## The counter -/

/-- The steps that start no job leave the counter alone. -/
lemma roundRobinStart_stepLoopHead : s.stepLoopHead.roundRobinStart = s.roundRobinStart := by
  unfold stepLoopHead
  split_ifs <;> rfl

lemma roundRobinStart_stepDrainResend (resendBatch : ℕ) :
    (s.stepDrainResend resendBatch).roundRobinStart = s.roundRobinStart := by
  unfold stepDrainResend
  split_ifs
  · split
    · rfl
    · dsimp only
      split_ifs <;> rfl
  · rfl

lemma roundRobinStart_stepResendAttempt (job : ResendJob) (io : Io) :
    (s.stepResendAttempt job io).roundRobinStart = s.roundRobinStart := by
  unfold stepResendAttempt
  dsimp only
  split
  · split
    · rfl
    · split
      · rfl
      · split
        · rfl
        · split
          · split <;> rfl
          · rfl
          · rfl
  · unfold resendFailed
    dsimp only
    split_ifs <;> rfl

lemma roundRobinStart_stepResendFlush (job : ResendJob) (flush : Flush) (io : Io) :
    (s.stepResendFlush job flush io).roundRobinStart = s.roundRobinStart := by
  unfold stepResendFlush
  rcases flushPass_cases s job.data flush io with heq | ⟨_, heq⟩ | ⟨n, _, _, _, heq⟩
  · rw [heq]
    dsimp only
    split_ifs <;> rfl
  · rw [heq]
  · rw [heq]
    rfl

lemma roundRobinStart_stepTakePacket : s.stepTakePacket.roundRobinStart = s.roundRobinStart := by
  unfold stepTakePacket
  split
  · rfl
  · split <;> rfl

lemma roundRobinStart_stepSendAttempt (job : SendJob) (io : Io) :
    (s.stepSendAttempt job io).roundRobinStart = s.roundRobinStart := by
  unfold stepSendAttempt
  split
  · split
    · rfl
    · split
      · rfl
      · dsimp only
        split
        · split <;> rfl
        · rfl
        · rfl
  · rfl

lemma roundRobinStart_stepSendFlush (job : SendJob) (flush : Flush) (io : Io) :
    (s.stepSendFlush job flush io).roundRobinStart = s.roundRobinStart := by
  unfold stepSendFlush
  rcases flushPass_cases s job.data flush io with heq | ⟨_, heq⟩ | ⟨n, _, _, _, heq⟩
  · rw [heq]
    dsimp only
    split_ifs <;> rfl
  · rw [heq]
  · rw [heq]
    rfl

/-- A step moves the counter by one if it starts a job, and not otherwise. -/
inductive CounterStep (s : SendThread) (e : Event) : Prop
  | starts (data : Packet) (io : Io) (job : SendJob) (hstarts : s.started? e = some job)
      (hpc : (s.stepStartPacket data io).pc = .sendAttempt job)
      (hcounter : (s.step e).roundRobinStart = (s.roundRobinStart + 1) % s.numDataConns)
  | keeps (hstarts : s.started? e = none)
      (hcounter : (s.step e).roundRobinStart = s.roundRobinStart)

lemma counterStep_stepStartPacket {data : Packet} (io : Io) (hpc : s.pc = .startPacket data) :
    CounterStep s (.thread io) := by
  have hstep : s.step (.thread io) = s.stepStartPacket data io := by
    show s.threadStep io = _
    rw [threadStep, hpc]
  have hstarted : s.started? (.thread io) = (s.stepStartPacket data io).job? := by
    simp only [started?, hpc]
  by_cases hjob : ∃ job, (s.stepStartPacket data io).pc = .sendAttempt job
  · obtain ⟨job, hjob⟩ := hjob
    refine .starts data io job ?_ hjob ?_
    · rw [hstarted, job?, hjob]
    · rw [hstep]
      exact (started hjob).roundRobinStart
  · have hnone : (s.stepStartPacket data io).job? = none
        ∧ (s.stepStartPacket data io).roundRobinStart = s.roundRobinStart := by
      unfold stepStartPacket at hjob ⊢
      dsimp only at hjob ⊢
      split_ifs at hjob ⊢
      · exact ⟨rfl, rfl⟩
      · exact absurd ⟨_, rfl⟩ hjob
      · exact ⟨rfl, rfl⟩
    exact .keeps (hstarted.trans hnone.1) (by rw [hstep]; exact hnone.2)

theorem counterStep (s : SendThread) (e : Event) : CounterStep s e := by
  cases e with
  | thread io =>
    have hkeeps : ∀ {s' : SendThread}, s.threadStep io = s' → s.started? (.thread io) = none →
        s'.roundRobinStart = s.roundRobinStart → CounterStep s (.thread io) := by
      intro s' hs' hnone hcounter
      refine .keeps hnone ?_
      show (s.threadStep io).roundRobinStart = _
      rw [hs', hcounter]
    cases hpc : s.pc with
    | startPacket data => exact counterStep_stepStartPacket io hpc
    | loopHead =>
      exact hkeeps (by rw [threadStep, hpc]) (by simp only [started?, hpc])
        roundRobinStart_stepLoopHead
    | drainResend resendBatch =>
      exact hkeeps (by rw [threadStep, hpc]) (by simp only [started?, hpc])
        (roundRobinStart_stepDrainResend resendBatch)
    | resendAttempt job =>
      exact hkeeps (by rw [threadStep, hpc]) (by simp only [started?, hpc])
        (roundRobinStart_stepResendAttempt job io)
    | resendFlush job flush =>
      exact hkeeps (by rw [threadStep, hpc]) (by simp only [started?, hpc])
        (roundRobinStart_stepResendFlush job flush io)
    | takePacket =>
      exact hkeeps (by rw [threadStep, hpc]) (by simp only [started?, hpc])
        roundRobinStart_stepTakePacket
    | sendAttempt job =>
      exact hkeeps (by rw [threadStep, hpc]) (by simp only [started?, hpc])
        (roundRobinStart_stepSendAttempt job io)
    | sendFlush job flush =>
      exact hkeeps (by rw [threadStep, hpc]) (by simp only [started?, hpc])
        (roundRobinStart_stepSendFlush job flush io)
    | stopped => exact hkeeps (by rw [threadStep, hpc]) (by simp only [started?, hpc]) rfl
  | replaceConnection slot c =>
    refine .keeps rfl ?_
    show (s.replaceConnection slot c).roundRobinStart = _
    unfold SendThread.replaceConnection
    split_ifs <;> rfl
  | _ => exact .keeps rfl rfl

/-- The jobs started by step `n`: the counter is their number, and the `i`-th of them was
ordered with the counter at `i`. -/
structure CountedJobs (s₀ : SendThread) (u : ℕ → Event) (n : ℕ) : Prop where
  counter : (runState step s₀ u n).roundRobinStart
    = (selections s₀ u n).length % s₀.numDataConns
  order : ∀ i job, (selections s₀ u n)[i]? = some job → Rated job.scores ∧
    job.scores.length = s₀.numDataConns ∧
    job.order = connectionOrder job.scores (i % s₀.numDataConns)

theorem countedJobs (h₀ : s₀.roundRobinStart = 0) (u : ℕ → Event) (n : ℕ) :
    CountedJobs s₀ u n := by
  induction n with
  | zero =>
    refine ⟨h₀.trans (Nat.zero_mod _).symm, ?_⟩
    intro i job hjob
    exact absurd hjob (by simp [selections])
  | succ n ih =>
    cases counterStep (runState step s₀ u n) (u n) with
    | starts data io job hstarts hpc hcounter =>
      have hsel : selections s₀ u (n + 1) = selections s₀ u n ++ [job] := by
        rw [selections, hstarts]
        rfl
      have hstarted := started hpc
      constructor
      · rw [runState, hcounter, numDataConns_run, ih.counter, hsel, List.length_append,
          Nat.mod_add_mod]
        rfl
      · intro i job' hget
        rw [hsel] at hget
        rcases Nat.lt_or_ge i (selections s₀ u n).length with hlt | hge
        · rw [List.getElem?_append_left hlt] at hget
          exact ih.order i job' hget
        · rw [List.getElem?_append_right hge] at hget
          obtain ⟨hi, hjob⟩ := List.getElem?_eq_some_iff.mp hget
          have hzero : i - (selections s₀ u n).length = 0 := Nat.lt_one_iff.mp hi
          have hcount : i = (selections s₀ u n).length := by omega
          have hlast : job = job' := by simpa [hzero] using hjob
          rw [← hlast]
          refine ⟨hstarted.rated, ?_, ?_⟩
          · rw [hstarted.length_scores, numDataConns_run]
          · rw [hstarted.order, ih.counter, hcount]
    | keeps hstarts hcounter =>
      have hsel : selections s₀ u (n + 1) = selections s₀ u n := by
        rw [selections, hstarts]
        exact List.append_nil _
      constructor
      · rw [runState, hcounter, hsel]
        exact ih.counter
      · rw [hsel]
        exact ih.order

/-! ## A window of packets -/

/-- The `k` jobs from the `i`-th on. -/
def window (jobs : List SendJob) (i k : ℕ) : List SendJob := (jobs.drop i).take k

end SendThread

section Turns

variable {scores : List ℤ} {k start : ℕ}

/-- The place of the first choice: the counter modulo the size of the group. -/
lemma getD_connectionOrder_zero (h : Rated scores) (hpos : 0 < tieCount scores) (r : ℕ) :
    (connectionOrder scores r).getD 0 0
      = (sortedByScore scores).getD (r % tieCount scores) 0 := by
  have hlt : r % tieCount scores < tieCount scores := Nat.mod_lt r hpos
  have hle : tieCount scores ≤ (sortedByScore scores).length := by
    rw [length_sortedByScore]
    exact tieCount_le
  rw [List.getD_eq_getElem?_getD, ← List.head?_eq_getElem?, connectionOrder_eq h,
    head?_rotateHead hlt hle, List.getD_eq_getElem?_getD]

lemma nodup_sortedByScore : (sortedByScore scores).Nodup :=
  sortedByScore_perm.nodup_iff.mpr List.nodup_range

lemma length_tiedAtBest : (tiedAtBest scores).length = tieCount scores := by
  rw [tieCount, count_eq_countP_range, List.countP_eq_length_filter]
  rfl

/-- As many different members of the group as it has are all of them. -/
lemma perm_tiedAtBest {picks : List ℕ} (hnodup : picks.Nodup)
    (hlen : picks.length = tieCount scores) (hmem : ∀ c ∈ picks, c ∈ tiedAtBest scores) :
    picks.Perm (tiedAtBest scores) := by
  have hsub : picks.Subperm (tiedAtBest scores) := hnodup.subperm hmem
  exact hsub.perm_of_length_le (by rw [length_tiedAtBest, hlen])

/-- The first choices of `tieCount scores` jobs with the same scores, the counter being at
`start` for the first. -/
def picks (scores : List ℤ) (start : ℕ) : List ℕ :=
  (List.range (tieCount scores)).map fun j =>
    (sortedByScore scores).getD ((start + j) % scores.length % tieCount scores) 0

lemma mem_tiedAtBest_of_picks (h : Rated scores) {c : ℕ} (hc : c ∈ picks scores start) :
    c ∈ tiedAtBest scores := by
  obtain ⟨j, hj, rfl⟩ := List.mem_map.mp hc
  have hpos : 0 < tieCount scores := Nat.zero_lt_of_lt (List.mem_range.mp hj)
  have hlt : (start + j) % scores.length % tieCount scores < tieCount scores :=
    Nat.mod_lt _ hpos
  have hlen : tieCount scores ≤ (sortedByScore scores).length := by
    rw [length_sortedByScore]
    exact tieCount_le
  have hmem : (sortedByScore scores).getD ((start + j) % scores.length % tieCount scores) 0
      ∈ (sortedByScore scores).take (tieCount scores) := by
    rw [List.getD_eq_getElem _ _ (hlt.trans_le hlen)]
    exact List.mem_take_iff_getElem.mpr ⟨_, lt_min hlt (hlt.trans_le hlen), rfl⟩
  have hrange := sortedByScore_perm.mem_iff.mp (List.mem_of_mem_take hmem)
  exact List.mem_filter.mpr ⟨hrange, decide_eq_true (scoreAt_of_mem_take h hmem)⟩

/-- Different places of the counter are different connections. -/
lemma nodup_picks_iff (hs : start < scores.length) :
    (picks scores start).Nodup ↔ tieCount scores ∣ scores.length
      ∨ start + tieCount scores ≤ scores.length := by
  have hplace : ∀ j < tieCount scores,
      (start + j) % scores.length % tieCount scores < (sortedByScore scores).length := by
    intro j hj
    rw [length_sortedByScore]
    exact (Nat.mod_lt _ (Nat.zero_lt_of_lt hj)).trans_le tieCount_le
  have hinj : ∀ i j, i < tieCount scores → j < tieCount scores →
      ((sortedByScore scores).getD ((start + i) % scores.length % tieCount scores) 0
        = (sortedByScore scores).getD ((start + j) % scores.length % tieCount scores) 0
      ↔ (start + i) % scores.length % tieCount scores
        = (start + j) % scores.length % tieCount scores) := by
    intro i j hi hj
    rw [List.getD_eq_getElem _ _ (hplace i hi), List.getD_eq_getElem _ _ (hplace j hj)]
    exact nodup_sortedByScore.getElem_inj_iff
  rw [← counter_injOn_iff hs tieCount_le, picks, List.nodup_map_iff_inj_on List.nodup_range]
  constructor
  · intro h i j hij hj heq
    have hi : i < tieCount scores := hij.trans hj
    have := h i (List.mem_range.mpr hi) j (List.mem_range.mpr hj) ((hinj i j hi hj).mpr heq)
    omega
  · intro h i hi j hj heq
    have hi := List.mem_range.mp hi
    have hj := List.mem_range.mp hj
    have hmod := (hinj i j hi hj).mp heq
    rcases Nat.lt_trichotomy i j with hlt | heq | hgt
    · exact absurd hmod (h i j hlt hj)
    · exact heq
    · exact absurd hmod.symm (h j i hgt hi)

end Turns

namespace SendThread

/-- The first choices of a window of jobs with the same scores. -/
lemma map_firstChoice_window {s₀ : SendThread} (h₀ : s₀.roundRobinStart = 0) {u : ℕ → Event}
    {n i : ℕ} {scores : List ℤ}
    (hlen : (window (selections s₀ u n) i (tieCount scores)).length = tieCount scores)
    (hsame : ∀ job ∈ window (selections s₀ u n) i (tieCount scores), job.scores = scores) :
    (window (selections s₀ u n) i (tieCount scores)).map SendJob.firstChoice
      = picks scores (i % scores.length) := by
  have hjobs := (countedJobs h₀ u n).order
  apply List.ext_getElem
  · rw [List.length_map, hlen, picks, List.length_map, List.length_range]
  · intro j hj _
    rw [List.length_map] at hj
    have hpos : 0 < tieCount scores := by omega
    have hmem := List.getElem_mem hj
    have hget : (selections s₀ u n)[i + j]?
        = some ((window (selections s₀ u n) i (tieCount scores))[j]) := by
      rw [← List.getElem?_drop, ← List.getElem?_eq_getElem hj, window,
        List.getElem?_take_of_lt (by omega)]
    obtain ⟨hrated, hlength, horder⟩ := hjobs (i + j) _ hget
    rw [hsame _ hmem] at hrated hlength horder
    rw [List.getElem_map, SendJob.firstChoice, horder, getD_connectionOrder_zero hrated hpos,
      ← hlength]
    simp only [picks, List.getElem_map, List.getElem_range, Nat.mod_add_mod]

/-- Where the scores stay the same, as many consecutive packets as there are connections
tied at the best score are sent first on each of these once, just when their number divides
that of the data connections or the counter does not wrap between the packets. -/
theorem selected_in_turn_iff {s₀ : SendThread} (h₀ : s₀.roundRobinStart = 0) (u : ℕ → Event)
    (n i : ℕ) (scores : List ℤ) (htie : 2 ≤ tieCount scores)
    (hlen : (window (selections s₀ u n) i (tieCount scores)).length = tieCount scores)
    (hsame : ∀ job ∈ window (selections s₀ u n) i (tieCount scores), job.scores = scores) :
    SelectedInTurn scores
        ((window (selections s₀ u n) i (tieCount scores)).map SendJob.firstChoice)
      ↔ tieCount scores ∣ scores.length
        ∨ i % scores.length + tieCount scores ≤ scores.length := by
  have hpos : 0 < scores.length := by
    have hle : tieCount scores ≤ scores.length := tieCount_le
    omega
  have hrated : Rated scores := by
    have hj : 0 < (window (selections s₀ u n) i (tieCount scores)).length := by omega
    have hmem := List.getElem_mem hj
    have hin := List.mem_of_mem_drop (List.mem_of_mem_take hmem)
    obtain ⟨k, hk⟩ := List.getElem?_of_mem hin
    have h := ((countedJobs h₀ u n).order k _ hk).1
    rwa [hsame _ hmem] at h
  rw [map_firstChoice_window h₀ hlen hsame, ← nodup_picks_iff (Nat.mod_lt i hpos)]
  constructor
  · exact SelectedInTurn.distinct
  · intro hnodup
    refine ⟨hnodup, perm_tiedAtBest hnodup ?_ fun c hc => mem_tiedAtBest_of_picks hrated hc⟩
    rw [picks, List.length_map, List.length_range]

/-- Three connections, the last of which is in exponential backoff. -/
def threeConnections : SendThread :=
  { conns := fun _ => {}, connections := [some 0, some 1, some 2], messageTracker := .init 3 }

def thirdInBackoff : Io :=
  { sendResult := .sent 1, runtimeInfo := fun i => { isInExponentialBackoff := i == 2 } }

/-- Four packets of one byte, all taken at once. -/
def fourPackets : ℕ → Event :=
  listInputs [.enqueueSend [1], .enqueueSend [2], .enqueueSend [3], .enqueueSend [4]]
    (.thread thirdInBackoff)

lemma initial_threeConnections : Initial threeConnections :=
  ⟨fun _ => rfl, rfl, rfl, rfl, rfl, rfl, rfl⟩

theorem selected_in_turn_iff_fourPackets :
    SelectedInTurn [10000, 10000, -1]
      ((window (selections threeConnections fourPackets 22) 0 2).map SendJob.firstChoice) :=
  (selected_in_turn_iff rfl fourPackets 22 0 [10000, 10000, -1] (by decide) rfl
    (by decide)).mpr (by decide)

/-- The third and the fourth packet begin with the same connection. -/
theorem seam_picks_same_connection :
    Initial threeConnections ∧ threeConnections.roundRobinStart = 0 ∧
    tieCount [10000, 10000, -1] = 2 ∧
    (∀ job ∈ window (selections threeConnections fourPackets 22) 2 2,
      job.scores = [10000, 10000, -1]) ∧
    (window (selections threeConnections fourPackets 22) 2 2).map SendJob.firstChoice = [0, 0] ∧
    ¬ SelectedInTurn [10000, 10000, -1]
      ((window (selections threeConnections fourPackets 22) 2 2).map SendJob.firstChoice) := by
  have hpicks : (window (selections threeConnections fourPackets 22) 2 2).map
      SendJob.firstChoice = [0, 0] := by rfl
  refine ⟨initial_threeConnections, rfl, rfl, by decide, hpicks, ?_⟩
  rw [hpicks]
  intro h
  exact absurd h.distinct (by decide)

end SendThread

end TcpUdp
