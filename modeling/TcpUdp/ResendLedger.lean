import TcpUdp.ResendBudget

/-!
# What becomes of a resend

A packet put on the resend queue is still there, or in hand in `sendOnResendConn`, or it was
written to its last byte on a resend connection, or it was given up at one of two places in the
code (`givesUp`). `resends_accounted` is the balance of the four over any run.
-/

namespace TcpUdp

open Lib
open scoped List

namespace SendThread

variable {s s₀ s' : SendThread} {u : ℕ → Event} {act : BlockingQueue → BlockingQueue}
  {given : Option Packet} {arrived : List Packet}

/-! ## The four places of a packet -/

/-- The packet in `sendOnResendConn`. -/
def resendInHand (s : SendThread) : Option Packet := s.resendJob?.map ResendJob.data

/-- The packets written to the last byte by `sendOnResendConn`, in order. -/
def sentOnResend (s : SendThread) : List Packet :=
  (s.completed.filter fun e => e.path = .resend).map Completion.packet

/-- The packet that a step gives up: there are no resend slots to send it on, or the last attempt
of a call has failed and the retries of the message are spent. -/
def givesUp (s : SendThread) : Event → Option Packet
  | .thread _ =>
    match s.pc with
    | .drainResend resendBatch =>
      if resendBatch < maxResendBatch ∧ s.connections.length ≤ vcFirstResendConnIndex then
        s.resendQueue.tryDequeue.map Prod.fst
      else none
    | .resendAttempt job =>
      if ¬ job.attempt < job.resendCount ∧ 0 < job.aliveCount
          ∧ maxResendRetries ≤ s.retriesOf (headerMessageId job.data) then some job.data
      else none
    | _ => none
  | _ => none

/-- The packets given up in the first `n` steps. -/
def givenUp (s₀ : SendThread) (u : ℕ → Event) : ℕ → List Packet
  | 0 => []
  | n + 1 => givenUp s₀ u n ++ ((runState step s₀ u n).givesUp (u n)).toList

/-- What another thread puts on the resend queue. -/
def Event.resends : Event → List Packet
  | .enqueueResend data => [data]
  | _ => []

/-- What another thread does to the resend queue. -/
def Event.onResendQueue : Event → BlockingQueue → BlockingQueue
  | .enqueueResend data, q => q.enqueue data
  | .cancelWait, q => q.cancelWait
  | _, q => q

/-- The packets put on the resend queue by other threads in the first `n` steps. -/
def resendsQueued (u : ℕ → Event) : ℕ → List Packet
  | 0 => []
  | n + 1 => resendsQueued u n ++ (u n).resends

/-! ## One step -/

/-- A step, by what it does to the resends: another thread's action on the queue, and the packet
that is given up. -/
inductive ResendStep (s s' : SendThread) : (BlockingQueue → BlockingQueue) → Option Packet → Prop
  | aside {act : BlockingQueue → BlockingQueue} (queue : s'.resendQueue = act s.resendQueue)
      (hand : s'.resendInHand = s.resendInHand) (sent : s'.sentOnResend = s.sentOnResend) :
      ResendStep s s' act none
  | begins {data : Packet} {resendBatch : ℕ} (pc : s.pc = .drainResend resendBatch)
      (taken : s.resendQueue.tryDequeue = some (data, s'.resendQueue))
      (pc' : s'.pc = .resendAttempt
        { data := data, conns := s.connections, attempt := 0, aliveCount := 0,
          resendBatch := resendBatch })
      (sent : s'.sentOnResend = s.sentOnResend) : ResendStep s s' id none
  | discards {data : Packet} (few : s.connections.length ≤ vcFirstResendConnIndex)
      (taken : s.resendQueue.tryDequeue = some (data, s'.resendQueue))
      (hand : s.resendInHand = none) (hand' : s'.resendInHand = none)
      (sent : s'.sentOnResend = s.sentOnResend) : ResendStep s s' id (some data)
  | writes {data : Packet} (hand : s.resendInHand = some data)
      (queue : s'.resendQueue = s.resendQueue) (hand' : s'.resendInHand = none)
      (sent : s'.sentOnResend = s.sentOnResend ++ [data]) : ResendStep s s' id none
  | putsBack {data : Packet} (hand : s.resendInHand = some data)
      (queue : s'.resendQueue = s.resendQueue.enqueue data) (hand' : s'.resendInHand = none)
      (sent : s'.sentOnResend = s.sentOnResend) : ResendStep s s' id none
  | drops {data : Packet} (hand : s.resendInHand = some data)
      (queue : s'.resendQueue = s.resendQueue) (hand' : s'.resendInHand = none)
      (sent : s'.sentOnResend = s.sentOnResend) : ResendStep s s' id (some data)

lemma queue_onResendQueue (e : Event) (q : BlockingQueue) :
    (e.onResendQueue q).queue = q.queue ++ e.resends := by
  cases e with
  | enqueueResend data => rfl
  | _ => exact (List.append_nil _).symm

lemma resendInHand_of_job {job : ResendJob} (h : s.resendJob? = some job) :
    s.resendInHand = some job.data := by
  rw [resendInHand, h]
  rfl

lemma resendInHand_eq_none (h : s.resendJob? = none) : s.resendInHand = none := by
  rw [resendInHand, h]
  rfl

/-- The thread is not at the resend queue, before the step and after it. -/
lemma ResendStep.apart (hjob : s.resendJob? = none) (hjob' : s'.resendJob? = none)
    (queue : s'.resendQueue = s.resendQueue) (completed : s'.completed = s.completed) :
    ResendStep s s' id none := by
  refine .aside ?_ ?_ ?_
  · rw [queue, id]
  · rw [resendInHand_eq_none hjob, resendInHand_eq_none hjob']
  · rw [sentOnResend, completed, sentOnResend]

/-- The call goes on with the packet. -/
lemma ResendStep.within {job job' : ResendJob} (hjob : s.resendJob? = some job)
    (hjob' : s'.resendJob? = some job') (hdata : job'.data = job.data)
    (queue : s'.resendQueue = s.resendQueue) (completed : s'.completed = s.completed) :
    ResendStep s s' id none := by
  refine .aside ?_ ?_ ?_
  · rw [queue, id]
  · rw [resendInHand_of_job hjob, resendInHand_of_job hjob', hdata]
  · rw [sentOnResend, completed, sentOnResend]

lemma sentOnResend_append {e : Completion} (h : s'.completed = s.completed ++ [e]) :
    s'.sentOnResend = s.sentOnResend ++ if e.path = .resend then [e.packet] else [] := by
  rw [sentOnResend, h, List.filter_append, List.map_append, sentOnResend]
  by_cases hpath : e.path = .resend <;> simp [hpath]

lemma resendStep_stepLoopHead (hpc : s.pc = .loopHead) :
    ResendStep s s.stepLoopHead id none := by
  have hjob : s.resendJob? = none := by rw [resendJob?, hpc]
  unfold stepLoopHead
  split_ifs
  · exact .apart hjob rfl rfl rfl
  · exact .apart hjob rfl rfl rfl
  · exact .apart hjob rfl rfl rfl

lemma resendStep_stepDrainResend {resendBatch : ℕ} (hpc : s.pc = .drainResend resendBatch)
    (io : Io) :
    ResendStep s (s.stepDrainResend resendBatch) id (s.givesUp (.thread io)) := by
  have hjob : s.resendJob? = none := by rw [resendJob?, hpc]
  rw [givesUp, hpc]
  dsimp only
  unfold stepDrainResend
  by_cases hbatch : resendBatch < maxResendBatch
  swap
  · rw [if_neg hbatch, if_neg fun h => hbatch h.1]
    exact .apart hjob rfl rfl rfl
  rw [if_pos hbatch]
  cases htake : s.resendQueue.tryDequeue with
  | none =>
    rw [Option.map_none, ite_self]
    exact .apart hjob rfl rfl rfl
  | some taken =>
    obtain ⟨data, resendQueue⟩ := taken
    dsimp only
    by_cases hslots : s.connections.length ≤ vcFirstResendConnIndex
    · rw [if_pos hslots, if_pos ⟨hbatch, hslots⟩]
      exact .discards hslots htake (resendInHand_eq_none hjob) rfl rfl
    · rw [if_neg hslots, if_neg fun h => hslots h.2]
      exact .begins hpc htake rfl rfl

lemma resendStep_resendFailed {job : ResendJob} (hpc : s.pc = .resendAttempt job)
    (hend : ¬ job.attempt < job.resendCount) (io : Io) :
    ResendStep s (s.resendFailed job) id (s.givesUp (.thread io)) := by
  have hhand : s.resendInHand = some job.data := by rw [resendInHand, resendJob?, hpc]; rfl
  have hhand' : (s.resendFailed job).resendInHand = none :=
    resendInHand_eq_none (resendJob_resendFailed s job)
  have hgives : s.givesUp (.thread io) = if 0 < job.aliveCount
      ∧ maxResendRetries ≤ s.retriesOf (headerMessageId job.data) then some job.data else none := by
    rw [givesUp, hpc]
    simp only [hend, not_false_eq_true, true_and]
  rw [hgives]
  unfold SendThread.resendFailed at hhand' ⊢
  dsimp only at hhand' ⊢
  by_cases hspent : 0 < job.aliveCount
      ∧ maxResendRetries ≤ s.retriesOf (headerMessageId job.data)
  · have hback : ¬ (!decide (0 < job.aliveCount) || decide ((s.resendRetryCount.find?
        (headerMessageId job.data)).getD 0 < maxResendRetries)) = true := by
      rw [retriesOf] at hspent
      simp [hspent.1, hspent.2]
    rw [if_pos hspent]
    rw [if_neg hback] at hhand' ⊢
    exact .drops hhand rfl hhand' rfl
  · have hback : (!decide (0 < job.aliveCount) || decide ((s.resendRetryCount.find?
        (headerMessageId job.data)).getD 0 < maxResendRetries)) = true := by
      rw [retriesOf] at hspent
      rw [Bool.or_eq_true, Bool.not_eq_true', decide_eq_false_iff_not, decide_eq_true_iff]
      omega
    rw [if_neg hspent]
    rw [if_pos hback] at hhand' ⊢
    exact .putsBack hhand rfl hhand' rfl

lemma resendStep_stepResendAttempt {job : ResendJob} (hpc : s.pc = .resendAttempt job)
    (io : Io) :
    ResendStep s (s.stepResendAttempt job io) id (s.givesUp (.thread io)) := by
  have hjob : s.resendJob? = some job := by rw [resendJob?, hpc]
  have hquiet : job.attempt < job.resendCount → s.givesUp (.thread io) = none := by
    intro hlt
    rw [givesUp, hpc]
    exact if_neg fun h => h.1 hlt
  rcases resendAttempt_cases hpc io with ⟨hend, -, hstep⟩ | ⟨hlt, -, hstep⟩ |
    ⟨hlt, -, c, -, -, ⟨n, -, -, hstep⟩ | ⟨f, -, hstep⟩⟩
  · rw [hstep]
    exact resendStep_resendFailed hpc hend io
  · rw [hstep, hquiet hlt]
    exact .within hjob rfl rfl rfl rfl
  · rw [hstep, hquiet hlt]
    exact .within hjob rfl rfl rfl rfl
  · rw [hstep, hquiet hlt]
    exact .within hjob rfl rfl rfl rfl

lemma resendStep_stepResendFlush {job : ResendJob} {flush : Flush}
    (hpc : s.pc = .resendFlush job flush) (io : Io) :
    ResendStep s (s.stepResendFlush job flush io) id none := by
  have hjob : s.resendJob? = some job := by rw [resendJob?, hpc]
  unfold stepResendFlush
  rcases flushPass_cases s job.data flush io with heq | ⟨-, heq⟩ | ⟨n, -, -, -, heq⟩
  · rw [heq]
    dsimp only
    split_ifs
    · exact .within hjob rfl rfl rfl rfl
    · refine .writes (resendInHand_of_job hjob) rfl rfl ?_
      rw [sentOnResend_append (s := s) rfl]
      rfl
  · rw [heq]
    exact .within hjob rfl rfl rfl rfl
  · rw [heq]
    exact .within hjob rfl rfl rfl rfl

lemma resendStep_stepTakePacket (hpc : s.pc = .takePacket) :
    ResendStep s s.stepTakePacket id none := by
  have hjob : s.resendJob? = none := by rw [resendJob?, hpc]
  unfold stepTakePacket
  split
  · exact .apart hjob rfl rfl rfl
  · split
    · exact .apart hjob rfl rfl rfl
    · exact .apart hjob rfl rfl rfl

lemma resendStep_stepStartPacket {data : Packet} (hpc : s.pc = .startPacket data) (io : Io) :
    ResendStep s (s.stepStartPacket data io) id none := by
  have hjob : s.resendJob? = none := by rw [resendJob?, hpc]
  unfold stepStartPacket
  dsimp only
  split_ifs
  · exact .apart hjob rfl rfl rfl
  · exact .apart hjob rfl rfl rfl
  · exact .apart hjob rfl rfl rfl

lemma resendStep_stepSendAttempt {job : SendJob} (hpc : s.pc = .sendAttempt job) (io : Io) :
    ResendStep s (s.stepSendAttempt job io) id none := by
  have hjob : s.resendJob? = none := by rw [resendJob?, hpc]
  unfold stepSendAttempt
  split
  · split
    · exact .apart hjob rfl rfl rfl
    · split
      · exact .apart hjob rfl rfl rfl
      · dsimp only
        split
        · split
          · exact .apart hjob rfl rfl rfl
          · exact .apart hjob rfl rfl rfl
        · exact .apart hjob rfl rfl rfl
        · exact .apart hjob rfl rfl rfl
  · exact .apart hjob rfl rfl rfl

/-- A packet that goes out here is not a resend. -/
lemma resendStep_stepSendFlush {job : SendJob} {flush : Flush}
    (hpc : s.pc = .sendFlush job flush) (io : Io) :
    ResendStep s (s.stepSendFlush job flush io) id none := by
  have hjob : s.resendJob? = none := by rw [resendJob?, hpc]
  unfold stepSendFlush
  rcases flushPass_cases s job.data flush io with heq | ⟨-, heq⟩ | ⟨n, -, -, -, heq⟩
  · rw [heq]
    dsimp only
    split_ifs
    · exact .apart hjob rfl rfl rfl
    · refine .aside rfl ?_ ?_
      · rw [resendInHand_eq_none hjob]
        rfl
      · rw [sentOnResend_append (s := s) (e := ⟨.data, job.idx, flush.conn, job.data⟩) rfl]
        exact List.append_nil _
  · rw [heq]
    exact .apart hjob rfl rfl rfl
  · rw [heq]
    exact .apart hjob rfl rfl rfl

lemma resendStep_threadStep (s : SendThread) (io : Io) :
    ResendStep s (s.threadStep io) id (s.givesUp (.thread io)) := by
  rw [threadStep]
  cases hpc : s.pc with
  | loopHead =>
    have hgives : s.givesUp (.thread io) = none := by rw [givesUp, hpc]
    exact hgives ▸ resendStep_stepLoopHead hpc
  | drainResend resendBatch => exact resendStep_stepDrainResend hpc io
  | resendAttempt job => exact resendStep_stepResendAttempt hpc io
  | resendFlush job flush =>
    have hgives : s.givesUp (.thread io) = none := by rw [givesUp, hpc]
    exact hgives ▸ resendStep_stepResendFlush hpc io
  | takePacket =>
    have hgives : s.givesUp (.thread io) = none := by rw [givesUp, hpc]
    exact hgives ▸ resendStep_stepTakePacket hpc
  | startPacket data =>
    have hgives : s.givesUp (.thread io) = none := by rw [givesUp, hpc]
    exact hgives ▸ resendStep_stepStartPacket hpc io
  | sendAttempt job =>
    have hgives : s.givesUp (.thread io) = none := by rw [givesUp, hpc]
    exact hgives ▸ resendStep_stepSendAttempt hpc io
  | sendFlush job flush =>
    have hgives : s.givesUp (.thread io) = none := by rw [givesUp, hpc]
    exact hgives ▸ resendStep_stepSendFlush hpc io
  | stopped =>
    have hgives : s.givesUp (.thread io) = none := by rw [givesUp, hpc]
    exact hgives ▸ .aside rfl rfl rfl

theorem resendStep (s : SendThread) (e : Event) :
    ResendStep s (s.step e) e.onResendQueue (s.givesUp e) := by
  cases e with
  | thread io => exact resendStep_threadStep s io
  | enqueueResend data => exact .aside rfl rfl rfl
  | replaceConnection slot c =>
    show ResendStep s (s.replaceConnection slot c) id none
    unfold SendThread.replaceConnection
    split_ifs
    · exact .aside rfl rfl rfl
    · exact .aside rfl rfl rfl
  | _ => exact .aside rfl rfl rfl

/-! ## The balance -/

/-- The packets that are not given up. -/
def resends (s : SendThread) : List Packet :=
  s.sentOnResend ++ s.resendInHand.toList ++ s.resendQueue.queue

lemma resends_step (h : ResendStep s s' act given)
    (hact : (act s.resendQueue).queue = s.resendQueue.queue ++ arrived) :
    (s'.resends ++ given.toList).Perm (s.resends ++ arrived) := by
  rw [resends, resends]
  have hnothing : act = id → arrived = [] := by
    rintro rfl
    exact List.self_eq_append_right.mp hact
  cases h with
  | aside queue hand sent =>
    rw [queue, hact, hand, sent, Option.toList_none]
    simp
  | begins pc taken pc' sent =>
    have hand : s.resendInHand = none := resendInHand_eq_none (by rw [resendJob?, pc])
    rw [hand, BlockingQueue.tryDequeue_eq_some taken,
      resendInHand_of_job (by rw [resendJob?, pc']), sent, hnothing rfl]
    simp
  | discards few taken hand hand' sent =>
    rw [hand, BlockingQueue.tryDequeue_eq_some taken, hand', sent, hnothing rfl]
    simpa using (List.perm_append_singleton _ _).append_left _
  | writes hand queue hand' sent =>
    rw [hand, queue, hand', sent, hnothing rfl]
    simp
  | putsBack hand queue hand' sent =>
    rw [hand, queue, hand', sent, BlockingQueue.enqueue, hnothing rfl]
    simpa using (List.perm_append_singleton _ _).append_left _
  | drops hand queue hand' sent =>
    rw [hand, queue, hand', sent, hnothing rfl]
    simpa using (List.perm_append_singleton _ _).append_left _

/-- Over any run the packets put on the resend queue are the ones still there, the one in hand,
the ones written by `sendOnResendConn` and the ones given up, each as often as it was put there. -/
theorem resends_accounted (hinit : Initial s₀) (u : ℕ → Event) (n : ℕ) :
    ((runState step s₀ u n).sentOnResend ++ (runState step s₀ u n).resendInHand.toList
      ++ (runState step s₀ u n).resendQueue.queue ++ givenUp s₀ u n).Perm (resendsQueued u n) := by
  show ((runState step s₀ u n).resends ++ givenUp s₀ u n).Perm (resendsQueued u n)
  induction n with
  | zero =>
    have hjob : s₀.resendJob? = none := by rw [resendJob?, hinit.pc]
    rw [runState_zero, resends, resendInHand_eq_none hjob, sentOnResend, hinit.completed,
      hinit.resendQueue]
    exact .rfl
  | succ n ih =>
    have hstep := resends_step (resendStep (runState step s₀ u n) (u n)) (queue_onResendQueue _ _)
    rw [givenUp, resendsQueued]
    calc ((runState step s₀ u n).step (u n)).resends
          ++ (givenUp s₀ u n ++ ((runState step s₀ u n).givesUp (u n)).toList)
      _ ~ ((runState step s₀ u n).step (u n)).resends
          ++ (((runState step s₀ u n).givesUp (u n)).toList ++ givenUp s₀ u n) :=
        List.perm_append_comm.append_left _
      _ ~ (runState step s₀ u n).resends ++ (u n).resends ++ givenUp s₀ u n := by
        rw [← List.append_assoc]
        exact hstep.append_right _
      _ ~ (runState step s₀ u n).resends ++ givenUp s₀ u n ++ (u n).resends := by
        rw [List.append_assoc, List.append_assoc]
        exact List.perm_append_comm.append_left _
      _ ~ resendsQueued u n ++ (u n).resends := ih.append_right _

/-- All slots have connections, and one of them is for resends. -/
def oneResendSlot : SendThread :=
  { conns := fun _ => {}, connections := (List.range 25).map some, messageTracker := .init 25 }

lemma initial_oneResendSlot : Initial oneResendSlot := ⟨fun _ => rfl, rfl, rfl, rfl, rfl, rfl, rfl⟩

/-- A packet that no connection takes. -/
def refused : ℕ → Event
  | 0 => .enqueueResend [7]
  | n + 1 => .thread { now := n }

/-- It is given up by the seventh call. -/
theorem resends_accounted_refused : givenUp oneResendSlot refused 23 = [[7]] ∧
    ((runState step oneResendSlot refused 23).sentOnResend
      ++ (runState step oneResendSlot refused 23).resendInHand.toList
      ++ (runState step oneResendSlot refused 23).resendQueue.queue
      ++ givenUp oneResendSlot refused 23).Perm [[7]] :=
  ⟨by rfl, resends_accounted initial_oneResendSlot refused 23⟩

end SendThread
end TcpUdp
