import TcpUdp.ResendCall

/-!
# How often a packet is resent

`resendRetryCount` counts, for a message, the calls of `sendOnResendConn` that found a
connection and failed. The count starts again where the entry is erased, by a call that
wrote the packet or gave it up, or where the table is cleared. `resend_budget` says that it
is right over any run, so that a packet is only given up after seven such calls.
-/

namespace TcpUdp

open Lib

namespace SendThread

variable {s s₀ s' : SendThread} {u : ℕ → Event} {job : ResendJob} {e : Event} {id : ℕ}

/-! ## How a call returns -/

/-- The return of `sendOnResendConn`, by what it does to the queue and the retry table. -/
inductive Returns (s : SendThread) (job : ResendJob) (s' : SendThread) : Prop
  | written (c : Completion) (hcompleted : s'.completed = s.completed ++ [c])
      (hqueue : s'.resendQueue = s.resendQueue)
      (hretries : s'.resendRetryCount = s.resendRetryCount.erase (headerMessageId job.data))
  | putBack (hcompleted : s'.completed = s.completed)
      (hqueue : s'.resendQueue = s.resendQueue.enqueue job.data)
      (hretries : s'.resendRetryCount
        = if 0 < job.aliveCount then
            (s.resendRetryCount.tryEmplace (headerMessageId job.data) 0).insertOrAssign
              (headerMessageId job.data)
              ((s.resendRetryCount.find? (headerMessageId job.data)).getD 0 + 1)
          else s.resendRetryCount.tryEmplace (headerMessageId job.data) 0)
  | dropped (hcompleted : s'.completed = s.completed) (hqueue : s'.resendQueue = s.resendQueue)
      (hretries : s'.resendRetryCount
        = (s.resendRetryCount.tryEmplace (headerMessageId job.data) 0).erase
            (headerMessageId job.data))
      (hfound : 0 < job.aliveCount)
      (hspent : maxResendRetries
        ≤ (s.resendRetryCount.find? (headerMessageId job.data)).getD 0)

lemma returns_resendFailed (s : SendThread) (job : ResendJob) :
    Returns s job (s.resendFailed job) := by
  rw [resendFailed]
  dsimp only
  split_ifs with hback hfound
  · exact .putBack rfl rfl (if_pos (of_decide_eq_true hfound)).symm
  · exact .putBack rfl rfl (if_neg fun hpos => hfound (decide_eq_true hpos)).symm
  · rw [Bool.or_eq_true, Bool.not_eq_true', decide_eq_false_iff_not, decide_eq_true_iff,
      not_or, not_not] at hback
    exact .dropped rfl rfl rfl hback.1 (not_lt.mp hback.2)

/-- Inside a call a pass leaves the table alone, or it is the return. -/
lemma returns_or_keeps_attempt (hpc : s.pc = .resendAttempt job) (io : Io) :
    ((s.stepResendAttempt job io).resendJob? = none
      ∧ Returns s job (s.stepResendAttempt job io)) ∨
    ((s.stepResendAttempt job io).resendJob? ≠ none
      ∧ (s.stepResendAttempt job io).resendRetryCount = s.resendRetryCount) := by
  rcases resendAttempt_cases hpc io with ⟨_, _, hstep⟩ | ⟨_, _, hstep⟩ |
    ⟨_, _, c, _, _, ⟨n, _, _, hstep⟩ | ⟨f, _, hstep⟩⟩
  · rw [hstep]
    exact Or.inl ⟨resendJob_resendFailed s job, returns_resendFailed s job⟩
  all_goals
    rw [hstep]
    exact Or.inr ⟨Option.some_ne_none _, rfl⟩

lemma returns_or_keeps_flush (s : SendThread) (job : ResendJob) (flush : Flush) (io : Io) :
    ((s.stepResendFlush job flush io).resendJob? = none
      ∧ Returns s job (s.stepResendFlush job flush io)) ∨
    ((s.stepResendFlush job flush io).resendJob? ≠ none
      ∧ (s.stepResendFlush job flush io).resendRetryCount = s.resendRetryCount) := by
  unfold stepResendFlush
  rcases flushPass_cases s job.data flush io with heq | ⟨_, heq⟩ | ⟨n, _, _, _, heq⟩
  · rw [heq]
    dsimp only
    split_ifs
    · exact Or.inr ⟨Option.some_ne_none _, rfl⟩
    · exact Or.inl ⟨rfl, .written _ rfl rfl rfl⟩
  all_goals
    rw [heq]
    exact Or.inr ⟨Option.some_ne_none _, rfl⟩

lemma returns_or_keeps (hjob : s.resendJob? = some job) (e : Event) :
    ((s.step e).resendJob? = none ∧ Returns s job (s.step e)) ∨
    ((s.step e).resendJob? ≠ none ∧ (s.step e).resendRetryCount = s.resendRetryCount) := by
  have hin : s.resendJob? ≠ none := by
    rw [hjob]
    exact Option.some_ne_none _
  cases e with
  | thread io =>
    show ((s.threadStep io).resendJob? = none ∧ Returns s job (s.threadStep io)) ∨
      ((s.threadStep io).resendJob? ≠ none
        ∧ (s.threadStep io).resendRetryCount = s.resendRetryCount)
    rcases pc_of_resendJob hjob with hpc | ⟨flush, hpc⟩
    · rw [threadStep, hpc]
      exact returns_or_keeps_attempt hpc io
    · rw [threadStep, hpc]
      exact returns_or_keeps_flush s job flush io
  | replaceConnection slot c =>
    right
    show (s.replaceConnection slot c).resendJob? ≠ none
      ∧ (s.replaceConnection slot c).resendRetryCount = s.resendRetryCount
    unfold SendThread.replaceConnection
    split_ifs
    · exact ⟨hin, rfl⟩
    · exact ⟨hin, rfl⟩
  | _ => exact Or.inr ⟨hin, rfl⟩

/-! ## The history of a message -/

/-- The call that returns in this step. -/
def callEnds (s : SendThread) (e : Event) : Option ResendJob :=
  if (s.step e).resendJob?.isNone then s.resendJob? else none

/-- A packet is written to its end in this step. -/
def completes (s : SendThread) (e : Event) : Bool :=
  s.completed.length < (s.step e).completed.length

/-- A packet joins the resend queue in this step. -/
def requeues (s : SendThread) (e : Event) : Bool :=
  s.resendQueue.queue.length < (s.step e).resendQueue.queue.length

/-- A call for the message returns that found a connection, alive and not in backoff, and
did not write the packet. -/
def failedCall (s : SendThread) (e : Event) (id : ℕ) : Bool :=
  match s.callEnds e with
  | some job => !s.completes e && decide (0 < job.aliveCount) && headerMessageId job.data == id
  | none => false

/-- The retry table is cleared on the way from the resend queue to the normal packets. -/
def clearsTable (s : SendThread) (e : Event) : Bool :=
  match e, (s.step e).pc with
  | .thread _, .takePacket => decide (s.resendRetryCount.size > maxResendTracked)
  | _, _ => false

/-- The entry of the message is erased, or the table is cleared. -/
def forgets (s : SendThread) (e : Event) (id : ℕ) : Bool :=
  match s.callEnds e with
  | some job => (s.completes e || !s.requeues e) && headerMessageId job.data == id
  | none => s.clearsTable e

/-- A packet of the message is given up: its call returns without having written it or put
it back, or it is taken from the queue and no call is made. -/
def drops (s : SendThread) (e : Event) (id : ℕ) : Bool :=
  match s.callEnds e with
  | some job => !s.completes e && !s.requeues e && headerMessageId job.data == id
  | none =>
    match e, s.pc, (s.step e).pc, s.resendQueue.tryDequeue with
    | .thread _, .drainResend _, .drainResend _, some (data, _) => headerMessageId data == id
    | _, _, _, _ => false

/-- How many calls for the message have failed in the first `n` steps since its entry was
last erased or the table was last cleared. -/
def failuresSince (s₀ : SendThread) (u : ℕ → Event) (id : ℕ) : ℕ → ℕ
  | 0 => 0
  | n + 1 =>
    if (runState step s₀ u n).forgets (u n) id then 0
    else failuresSince s₀ u id n + if (runState step s₀ u n).failedCall (u n) id then 1 else 0

/-! ## What a step does to the table -/

/-- The normal sends do not come near the table. -/
structure Apart (s s' : SendThread) : Prop where
  retries : s'.resendRetryCount = s.resendRetryCount
  pc : s'.pc ≠ .takePacket

lemma apart_stepTakePacket : Apart s s.stepTakePacket := by
  unfold stepTakePacket
  split
  · exact ⟨rfl, by simp⟩
  · split
    · exact ⟨rfl, by simp⟩
    · exact ⟨rfl, by simp⟩

lemma apart_stepStartPacket (data : Packet) (io : Io) : Apart s (s.stepStartPacket data io) := by
  unfold stepStartPacket
  dsimp only
  split_ifs
  · exact ⟨rfl, by simp⟩
  · exact ⟨rfl, by simp⟩
  · exact ⟨rfl, by simp⟩

lemma apart_stepSendAttempt (job : SendJob) (io : Io) : Apart s (s.stepSendAttempt job io) := by
  unfold stepSendAttempt
  split
  · split
    · exact ⟨rfl, by simp⟩
    · split
      · exact ⟨rfl, by simp⟩
      · dsimp only
        split
        · split
          · exact ⟨rfl, by simp⟩
          · exact ⟨rfl, by simp⟩
        · exact ⟨rfl, by simp⟩
        · exact ⟨rfl, by simp⟩
  · exact ⟨rfl, by simp⟩

lemma apart_stepSendFlush (job : SendJob) (flush : Flush) (io : Io) :
    Apart s (s.stepSendFlush job flush io) := by
  unfold stepSendFlush
  rcases flushPass_cases s job.data flush io with heq | ⟨_, heq⟩ | ⟨n, _, _, _, heq⟩
  · rw [heq]
    dsimp only
    split_ifs
    · exact ⟨rfl, by simp⟩
    · exact ⟨rfl, by simp⟩
  · rw [heq]
    exact ⟨rfl, by simp⟩
  · rw [heq]
    exact ⟨rfl, by simp⟩

/-- Every step, by what it does to the table. -/
inductive TableStep (s : SendThread) (e : Event) : Prop
  | returns (job : ResendJob) (hends : s.callEnds e = some job) (h : Returns s job (s.step e))
  | clears (hends : s.callEnds e = none) (hclears : s.clearsTable e = true)
      (h : (s.step e).resendRetryCount = SortedMap.empty)
  | keeps (hends : s.callEnds e = none) (hclears : s.clearsTable e = false)
      (h : (s.step e).resendRetryCount = s.resendRetryCount)

lemma clearsTable_of_pc (hpc : (s.step e).pc ≠ .takePacket) : s.clearsTable e = false := by
  unfold clearsTable
  split
  · rename_i heq
    exact absurd heq hpc
  · rfl

lemma callEnds_of_none (hjob : s.resendJob? = none) : s.callEnds e = none := by
  rw [callEnds, hjob, ite_self]

/-- The two ways on from the resend queue, to a call or to the normal packets. -/
lemma tableStep_of_leaveResend {io : Io} (hjob : s.resendJob? = none)
    (hstep : s.step (.thread io) = s.leaveResend) : TableStep s (.thread io) := by
  have hretries : (s.step (.thread io)).resendRetryCount
      = if s.resendRetryCount.size > maxResendTracked then SortedMap.empty
        else s.resendRetryCount := by
    rw [hstep]
    rfl
  have hclears : s.clearsTable (.thread io)
      = decide (s.resendRetryCount.size > maxResendTracked) := by
    unfold clearsTable
    rw [hstep]
    rfl
  by_cases hsize : s.resendRetryCount.size > maxResendTracked
  · rw [if_pos hsize] at hretries
    exact .clears (callEnds_of_none hjob) (hclears.trans (decide_eq_true hsize)) hretries
  · rw [if_neg hsize] at hretries
    exact .keeps (callEnds_of_none hjob) (hclears.trans (decide_eq_false hsize)) hretries

lemma tableStep_of_apart (hjob : s.resendJob? = none) (h : Apart s (s.step e)) : TableStep s e :=
  .keeps (callEnds_of_none hjob) (clearsTable_of_pc h.pc) h.retries

/-- The thread goes on to the normal packets, or it does not come near the table. -/
lemma leaves_or_apart_stepLoopHead (s : SendThread) :
    s.stepLoopHead = s.leaveResend ∨ Apart s s.stepLoopHead := by
  unfold stepLoopHead
  split_ifs
  · exact Or.inr ⟨rfl, by simp⟩
  · exact Or.inl rfl
  · exact Or.inr ⟨rfl, by simp⟩

lemma leaves_or_apart_stepDrainResend (s : SendThread) (resendBatch : ℕ) :
    s.stepDrainResend resendBatch = s.leaveResend ∨ Apart s (s.stepDrainResend resendBatch) := by
  unfold stepDrainResend
  split_ifs
  · split
    · exact Or.inl rfl
    · dsimp only
      split_ifs
      · exact Or.inr ⟨rfl, by simp⟩
      · exact Or.inr ⟨rfl, by simp⟩
  · exact Or.inl rfl

/-- A step of the thread outside the calls. -/
lemma tableStep_thread (hjob : s.resendJob? = none) (io : Io) : TableStep s (.thread io) := by
  have hcases : s.threadStep io = s.leaveResend ∨ Apart s (s.threadStep io) := by
    cases hpc : s.pc with
    | loopHead =>
      rw [threadStep, hpc]
      exact leaves_or_apart_stepLoopHead s
    | drainResend resendBatch =>
      rw [threadStep, hpc]
      exact leaves_or_apart_stepDrainResend s resendBatch
    | resendAttempt job | resendFlush job flush =>
      rw [resendJob?, hpc] at hjob
      cases hjob
    | takePacket =>
      rw [threadStep, hpc]
      exact Or.inr apart_stepTakePacket
    | startPacket data =>
      rw [threadStep, hpc]
      exact Or.inr (apart_stepStartPacket data io)
    | sendAttempt job =>
      rw [threadStep, hpc]
      exact Or.inr (apart_stepSendAttempt job io)
    | sendFlush job flush =>
      rw [threadStep, hpc]
      exact Or.inr (apart_stepSendFlush job flush io)
    | stopped =>
      rw [threadStep, hpc]
      exact Or.inr ⟨rfl, by simp [hpc]⟩
  rcases hcases with hleave | h
  · exact tableStep_of_leaveResend hjob hleave
  · exact tableStep_of_apart hjob h

theorem tableStep (s : SendThread) (e : Event) : TableStep s e := by
  cases hjob : s.resendJob? with
  | some job =>
    rcases returns_or_keeps hjob e with ⟨hends, h⟩ | ⟨hstays, h⟩
    · refine .returns job ?_ h
      rw [callEnds, hends, hjob]
      rfl
    · refine .keeps ?_ (clearsTable_of_pc ?_) h
      · rw [callEnds, if_neg]
        rw [Option.isNone_iff_eq_none]
        exact hstays
      · intro hpc
        exact hstays (by rw [resendJob?, hpc])
  | none =>
    cases e with
    | thread io => exact tableStep_thread hjob io
    | replaceConnection slot c =>
      refine .keeps (callEnds_of_none hjob) rfl ?_
      show (s.replaceConnection slot c).resendRetryCount = _
      unfold SendThread.replaceConnection
      split_ifs <;> rfl
    | _ => exact .keeps (callEnds_of_none hjob) rfl rfl

/-! ## The count is right -/

/-- What the table says about a message. -/
def retriesOf (s : SendThread) (id : ℕ) : ℕ := (s.resendRetryCount.find? id).getD 0

lemma completes_eq_false (h : (s.step e).completed = s.completed) : s.completes e = false := by
  rw [completes, h]
  exact decide_eq_false (lt_irrefl _)

/-- The count of a message through the return of a call. -/
lemma retriesOf_returns (hends : s.callEnds e = some job) (h : Returns s job (s.step e)) (id : ℕ) :
    (s.step e).retriesOf id
      = if s.forgets e id then 0
        else s.retriesOf id + if s.failedCall e id then 1 else 0 := by
  have hforgets : s.forgets e id
      = ((s.completes e || !s.requeues e) && headerMessageId job.data == id) := by
    rw [forgets, hends]
  have hfailed : s.failedCall e id
      = (!s.completes e && decide (0 < job.aliveCount) && headerMessageId job.data == id) := by
    rw [failedCall, hends]
  cases h with
  | written c hcompleted hqueue hretries =>
    have hcompletes : s.completes e = true := by
      rw [completes, hcompleted]
      simp
    rw [hforgets, hfailed, hcompletes, retriesOf, hretries, SortedMap.find?_erase, retriesOf]
    -- the other messages keep their counts
    by_cases hid : headerMessageId job.data = id
    · simp [hid]
    · simp [hid, Ne.symm hid]
  | putBack hcompleted hqueue hretries =>
    have hrequeues : s.requeues e = true := by
      rw [requeues, hqueue]
      simp [BlockingQueue.enqueue]
    rw [hforgets, hfailed, completes_eq_false hcompleted, hrequeues, retriesOf, hretries, retriesOf]
    -- a call that found no connection only makes an entry
    by_cases hfound : 0 < job.aliveCount
    · rw [if_pos hfound, SortedMap.find?_insertOrAssign, SortedMap.find?_tryEmplace]
      by_cases hid : headerMessageId job.data = id
      · simp [hid, hfound]
      · simp [hid, Ne.symm hid]
    · rw [if_neg hfound, SortedMap.find?_tryEmplace]
      by_cases hid : headerMessageId job.data = id
      · simp [hid, hfound]
      · simp [hid, Ne.symm hid]
  | dropped hcompleted hqueue hretries hfound hspent =>
    have hrequeues : s.requeues e = false := by
      rw [requeues, hqueue]
      simp
    rw [hforgets, hfailed, completes_eq_false hcompleted, hrequeues, retriesOf, hretries,
      SortedMap.find?_erase, SortedMap.find?_tryEmplace, retriesOf]
    by_cases hid : headerMessageId job.data = id
    · simp [hid]
    · simp [hid, Ne.symm hid]

/-- The count of a message through one step. -/
lemma retriesOf_step (s : SendThread) (e : Event) (id : ℕ) :
    (s.step e).retriesOf id
      = if s.forgets e id then 0
        else s.retriesOf id + if s.failedCall e id then 1 else 0 := by
  cases tableStep s e with
  | clears hends hclears h =>
    have hforgets : s.forgets e id = true := by
      rw [forgets, hends]
      exact hclears
    rw [if_pos hforgets, retriesOf, h]
    rfl
  | keeps hends hclears h =>
    have hforgets : s.forgets e id = false := by
      rw [forgets, hends]
      exact hclears
    have hfailed : s.failedCall e id = false := by rw [failedCall, hends]
    rw [hforgets, hfailed, retriesOf, h]
    rfl
  | returns job hends h => exact retriesOf_returns hends h id

lemma retriesOf_run (hempty : s₀.resendRetryCount = SortedMap.empty) (u : ℕ → Event) (id n : ℕ) :
    (runState step s₀ u n).retriesOf id = failuresSince s₀ u id n := by
  induction n with
  | zero =>
    rw [runState_zero, retriesOf, hempty]
    rfl
  | succ n ih => rw [runState, retriesOf_step, failuresSince, ih]

/-- With resend slots, every packet taken from the resend queue gets its call. -/
lemma callEnds_of_drops (hslots : vcFirstResendConnIndex < s.connections.length)
    (h : s.drops e id = true) : ∃ job, s.callEnds e = some job := by
  cases hends : s.callEnds e with
  | some job => exact ⟨job, rfl⟩
  | none =>
    unfold drops at h
    rw [hends] at h
    dsimp only at h
    split at h
    · rename_i io resendBatch resendBatch' data resendQueue hpc htake hpc'
      have hstep : s.step (.thread io) = s.stepDrainResend resendBatch := by
        show s.threadStep io = _
        rw [threadStep, hpc]
      rw [hstep] at hpc'
      unfold stepDrainResend at hpc'
      rw [htake] at hpc'
      dsimp only at hpc'
      split_ifs at hpc' with _ hfew
      · exact absurd hslots (not_lt.mpr hfew)
      · cases hpc'
    · cases h

/-- The call that gives a packet up has failed, and the count is at its limit. -/
lemma failedCall_of_drops (hslots : vcFirstResendConnIndex < s.connections.length)
    (h : s.drops e id = true) : s.failedCall e id = true ∧ maxResendRetries ≤ s.retriesOf id := by
  obtain ⟨job, hends⟩ := callEnds_of_drops hslots h
  unfold drops at h
  rw [hends] at h
  simp only [Bool.and_eq_true, Bool.not_eq_true', beq_iff_eq] at h
  obtain ⟨⟨hcompletes, hrequeues⟩, hid⟩ := h
  cases tableStep s e with
  | clears hnone => exact absurd (hnone.symm.trans hends) (by simp)
  | keeps hnone => exact absurd (hnone.symm.trans hends) (by simp)
  | returns job' hends' hreturns =>
    obtain rfl : job' = job := Option.some.inj (hends'.symm.trans hends)
    cases hreturns with
    | written c hcompleted _ _ =>
      rw [completes, hcompleted] at hcompletes
      simp at hcompletes
    | putBack _ hqueue _ =>
      rw [requeues, hqueue] at hrequeues
      simp [BlockingQueue.enqueue] at hrequeues
    | dropped _ _ _ hfound hspent =>
      rw [hid] at hspent
      refine ⟨?_, hspent⟩
      rw [failedCall, hends]
      simp [hcompletes, hfound, hid]

/-- The thread enters a call through the resend queue only. -/
lemma callBegins_stepDrainResend {resendBatch : ℕ}
    (h : (s.stepDrainResend resendBatch).resendJob? = some job) :
    CallBegins (s.stepDrainResend resendBatch) job := by
  unfold stepDrainResend at h ⊢
  split_ifs at h ⊢
  · split at h
    · cases h
    · dsimp only at h ⊢
      split_ifs at h ⊢ with hfew
      · cases h
      · rename_i data resendQueue htake
        have hjob := Option.some.inj h
        rw [← hjob]
        exact ⟨rfl, rfl, rfl, not_le.mp hfew⟩
  · cases h

/-- A call of `sendOnResendConn` has one outcome, and over any run a packet is given up only
by a failed call, when six more have failed since its retry entry was last erased or the
table was last cleared. -/
theorem resend_budget :
    (∀ (s₀ : SendThread) (job₀ : ResendJob) (u : ℕ → Event), CallBegins s₀ job₀ →
      (∀ n, (∀ k < n, (runState step s₀ u k).resendJob? ≠ none) → OneOutcome s₀ job₀ u n) ∧
      (ClockRuns u → ∃ n, (runState step s₀ u n).resendJob? = none)) ∧
    ∀ (s₀ : SendThread) (u : ℕ → Event) (n id : ℕ),
      vcFirstResendConnIndex < s₀.connections.length →
      s₀.resendRetryCount = SortedMap.empty →
      (runState step s₀ u n).drops (u n) id = true →
      (runState step s₀ u n).failedCall (u n) id = true ∧
      maxResendRetries + 1 ≤ failuresSince s₀ u id n + 1 := by
  constructor
  · intro s₀ job₀ u h
    exact ⟨fun n hin => h.oneOutcome hin, h.ends⟩
  · intro s₀ u n id hslots hempty hdrops
    have hslots' : vcFirstResendConnIndex < (runState step s₀ u n).connections.length := by
      rw [length_connections_run]
      exact hslots
    obtain ⟨hfailed, hspent⟩ := failedCall_of_drops hslots' hdrops
    rw [retriesOf_run hempty] at hspent
    exact ⟨hfailed, Nat.succ_le_succ hspent⟩

/-- A resend connection that is always full, and a packet to resend on it. -/
def fullResendConn : SendThread :=
  { conns := fun _ => {}, connections := (List.range 25).map some,
    messageTracker := .init 25, resendQueue := { queue := [[7]], approxQueueSize := 1 } }

def wouldBlock : ℕ → Event := fun n => .thread { now := n }

/-- The packet is given up by the seventh call; and its first call has one outcome. -/
theorem resend_budget_wouldBlock :
    (runState step fullResendConn wouldBlock 21).drops (wouldBlock 21) (headerMessageId [7])
      = true ∧
    ((runState step fullResendConn wouldBlock 21).failedCall (wouldBlock 21) (headerMessageId [7])
        = true ∧
      maxResendRetries + 1 ≤ failuresSince fullResendConn wouldBlock (headerMessageId [7]) 21 + 1) ∧
    ∃ job₀, CallBegins (runState step fullResendConn wouldBlock 2) job₀ ∧
      OneOutcome (runState step fullResendConn wouldBlock 2) job₀ wouldBlock 2 ∧
      ∃ n, (runState step (runState step fullResendConn wouldBlock 2) wouldBlock n).resendJob?
        = none := by
  have hdrops : (runState step fullResendConn wouldBlock 21).drops (wouldBlock 21)
      (headerMessageId [7]) = true := by rfl
  have hbegins : CallBegins (runState step fullResendConn wouldBlock 2)
      { data := [7], conns := (List.range 25).map some, attempt := 0, aliveCount := 0,
        resendBatch := 0 } := ⟨rfl, rfl, rfl, by decide⟩
  have hclock : ClockRuns wouldBlock := by
    constructor
    · intro n
      exact ⟨n, le_rfl, _, rfl⟩
    · intro time
      refine ⟨time.toNat, fun k io hk hio => ?_⟩
      obtain rfl := Event.thread.inj hio
      show time ≤ (k : ℤ)
      omega
  have hcall := resend_budget.1 _ _ wouldBlock hbegins
  refine ⟨hdrops, resend_budget.2 _ _ _ _ (by decide) rfl hdrops, _, hbegins, hcall.1 2 ?_,
    hcall.2 hclock⟩
  intro k hk
  match k with
  | 0 => exact Option.some_ne_none _
  | 1 => exact Option.some_ne_none _
  | k + 2 => omega

end SendThread

end TcpUdp
