import TcpUdp.AttemptLoop
import TcpUdp.ResendCall
import TcpUdp.Lib.LeadsTo
import Mathlib.Data.Prod.Lex

/-!
# The send thread makes progress

Whatever the sockets answer, the thread comes back to its send queue as long as it is scheduled
and its clock runs: `Pc.rank` goes down with every step that does not wait in a partial-send loop,
and such a loop waits no longer than its budget. Resends are bounded by their batch. So a single
data connection that takes bytes is enough for every packet to be written (`eventually_sent`),
however many resends are queued and whatever becomes of the other connections.
-/

namespace TcpUdp

open Lib

/-! ## What is left of a pass through the loop -/

/-- What the attempts from `rank` on can take; the loop over the bytes of one attempt is what
its last summand leaves room for. -/
def attemptsLeft (slots rank length : ℕ) : ℕ := (slots - rank) * (length + 2)

/-- What is left until the thread next looks at its send queue: first the packet in hand, then
the batch of resends, and inside both the slots and bytes. -/
def Pc.rank : Pc → ℕ ×ₗ ℕ ×ₗ ℕ
  | .startPacket _ => toLex (3, toLex (1, 0))
  | .sendAttempt job =>
    toLex (3, toLex (0, attemptsLeft vcFirstResendConnIndex job.rank job.data.length))
  | .sendFlush job flush =>
    toLex (3, toLex (0, attemptsLeft vcFirstResendConnIndex (job.rank + 1) job.data.length
      + (job.data.length - flush.totalSent) + 1))
  | .loopHead => toLex (2, toLex (0, 0))
  | .drainResend resendBatch =>
    toLex (1, toLex (2 * (SendThread.maxResendBatch - resendBatch) + 1, 0))
  | .resendAttempt job =>
    toLex (1, toLex (2 * (SendThread.maxResendBatch - (job.resendBatch + 1)) + 2,
      attemptsLeft job.resendCount job.attempt job.data.length))
  | .resendFlush job flush =>
    toLex (1, toLex (2 * (SendThread.maxResendBatch - (job.resendBatch + 1)) + 2,
      attemptsLeft job.resendCount (job.attempt + 1) job.data.length
        + (job.data.length - flush.totalSent) + 1))
  | .takePacket => toLex (0, toLex (0, 0))
  | .stopped => toLex (0, toLex (0, 0))

/-- The place in the loop is a partial send whose budget is spent at `now`, or no partial
send. -/
def Pc.Spent (now : ℤ) : Pc → Prop
  | .resendFlush _ flush => now - flush.partialStart ≥ SendThread.partialSendBudgetMs
  | .sendFlush _ flush => now - flush.partialStart ≥ SendThread.partialSendBudgetMs
  | _ => True

lemma attemptsLeft_next {slots rank : ℕ} (h : rank < slots) (length : ℕ) :
    attemptsLeft slots rank length = attemptsLeft slots (rank + 1) length + (length + 2) := by
  have hslots : slots - rank = slots - (rank + 1) + 1 := by omega
  rw [attemptsLeft, attemptsLeft, hslots, Nat.add_mul, Nat.one_mul]

lemma rank_lt_of_phase {a b : ℕ} {x y : ℕ ×ₗ ℕ} (h : a < b) :
    (toLex (a, x) : ℕ ×ₗ ℕ ×ₗ ℕ) < toLex (b, y) :=
  Prod.Lex.toLex_lt_toLex.mpr (Or.inl h)

lemma rank_lt_of_batch {a b c x y : ℕ} (h : b < c) :
    (toLex (a, toLex (b, x)) : ℕ ×ₗ ℕ ×ₗ ℕ) < toLex (a, toLex (c, y)) :=
  Prod.Lex.toLex_lt_toLex.mpr (Or.inr ⟨rfl, Prod.Lex.toLex_lt_toLex.mpr (Or.inl h)⟩)

lemma rank_lt_of_left {a b x y : ℕ} (h : x < y) :
    (toLex (a, toLex (b, x)) : ℕ ×ₗ ℕ ×ₗ ℕ) < toLex (a, toLex (b, y)) :=
  Prod.Lex.toLex_lt_toLex.mpr (Or.inr ⟨rfl, Prod.Lex.toLex_lt_toLex.mpr (Or.inr ⟨rfl, h⟩)⟩)

namespace SendThread

variable {s s₀ : SendThread} {u : ℕ → Event}

/-! ## One step of the thread -/

lemma rank_takePacket_lt (h : s.pc ≠ .takePacket) (hstopped : s.pc ≠ .stopped) :
    Pc.takePacket.rank < s.pc.rank := by
  cases hpc : s.pc with
  | takePacket => exact absurd hpc h
  | stopped => exact absurd hpc hstopped
  | _ => exact rank_lt_of_phase (by decide)

lemma rank_stepLoopHead (hpc : s.pc = .loopHead) : s.stepLoopHead.pc.rank < s.pc.rank := by
  rw [hpc]
  unfold stepLoopHead
  split_ifs <;> exact rank_lt_of_phase (by decide)

lemma rank_stepDrainResend {resendBatch : ℕ} (hpc : s.pc = .drainResend resendBatch) :
    (s.stepDrainResend resendBatch).pc.rank < s.pc.rank := by
  rw [hpc]
  unfold stepDrainResend
  split_ifs with hbatch
  · split
    · exact rank_lt_of_phase (by decide)
    · dsimp only
      split_ifs
      · apply rank_lt_of_batch
        omega
      · apply rank_lt_of_batch
        show 2 * (maxResendBatch - (resendBatch + 1)) + 2 < 2 * (maxResendBatch - resendBatch) + 1
        omega
  · exact rank_lt_of_phase (by decide)

lemma pc_resendFailed (job : ResendJob) :
    (s.resendFailed job).pc = .drainResend (job.resendBatch + 1) := by
  unfold resendFailed
  dsimp only
  split_ifs <;> rfl

/-- The call of `sendOnResendConn` returns to the batch loop. -/
lemma rank_drainResend_lt {batch left : ℕ} :
    (Pc.drainResend (batch + 1)).rank
      < toLex (1, toLex (2 * (maxResendBatch - (batch + 1)) + 2, left)) :=
  rank_lt_of_batch (by omega)

lemma rank_stepResendAttempt {job : ResendJob} (io : Io) (hpc : s.pc = .resendAttempt job) :
    (s.stepResendAttempt job io).pc.rank < s.pc.rank := by
  rw [hpc]
  rcases resendAttempt_cases hpc io with ⟨-, -, hstep⟩ | ⟨hlt, -, hstep⟩ |
    ⟨hlt, -, c, -, -, ⟨n, hn, -, hstep⟩ | ⟨f, -, hstep⟩⟩
  · rw [hstep, pc_resendFailed]
    exact rank_drainResend_lt
  all_goals
    rw [hstep]
    apply rank_lt_of_left
    rw [attemptsLeft_next hlt]
  · exact Nat.lt_add_of_pos_right (by omega)
  · show attemptsLeft job.resendCount (job.attempt + 1) job.data.length + (job.data.length - n) + 1
      < attemptsLeft job.resendCount (job.attempt + 1) job.data.length + (job.data.length + 2)
    omega
  · exact Nat.lt_add_of_pos_right (by omega)

/-- A pass of a partial-send loop waits, or leaves less to do. -/
lemma rank_stepResendFlush {job : ResendJob} {flush : Flush} (io : Io)
    (hpc : s.pc = .resendFlush job flush) :
    s.flushPass job.data flush io = (s, .again flush)
        ∧ (s.stepResendFlush job flush io).pc = s.pc
      ∨ (s.stepResendFlush job flush io).pc.rank < s.pc.rank := by
  rw [hpc]
  unfold stepResendFlush
  rcases flushPass_cases s job.data flush io with heq | ⟨-, heq⟩ | ⟨n, hn, hle, -, heq⟩
  · rw [heq]
    right
    dsimp only
    split_ifs
    · apply rank_lt_of_left
      show attemptsLeft job.resendCount (job.attempt + 1) job.data.length < _
      omega
    · exact rank_drainResend_lt
  · rw [heq]
    exact Or.inl ⟨rfl, rfl⟩
  · rw [heq]
    right
    apply rank_lt_of_left
    show _ + (job.data.length - (flush.totalSent + n)) + 1 < _
    omega

/-- One pass of the attempt loop of a packet: the round is over, a slot is passed over, or the
packet is sent on the connection of the slot, which takes some bytes or none. -/
lemma sendAttempt_cases (s : SendThread) (job : SendJob) (io : Io) :
    (¬ job.rank < s.numDataConns
      ∧ s.stepSendAttempt job io = { s with pendingDataVec := some job.data, pc := .loopHead }) ∨
    (job.rank < s.numDataConns
      ∧ (s.skips job = true ∨ job.connSnap.getD job.idx none = none)
      ∧ s.stepSendAttempt job io = { s with pc := .sendAttempt job.next }) ∨
    ∃ c, job.rank < s.numDataConns ∧ job.connSnap.getD job.idx none = some c ∧
      ((∃ n, 0 < n ∧ n ≤ job.data.length ∧ s.stepSendAttempt job io =
          { s.setConn c fun conn => { conn with written := conn.written ++ job.data.take n } with
            pc := .sendFlush job { conn := c, totalSent := n, partialStart := io.now } }) ∨
        ∃ f r, Calm f ∧ (∀ n, r = .sent n → n = 0)
          ∧ sendTcpDirect (s.conns c) job.data io.sendResult = (r, s.conns c)
          ∧ s.stepSendAttempt job io = { s.setConn c f with pc := .sendAttempt job.next }) := by
  unfold stepSendAttempt
  by_cases hrank : job.rank < s.numDataConns
  swap
  · exact Or.inl ⟨hrank, if_neg hrank⟩
  right
  rw [if_pos hrank]
  by_cases hskip : s.skips job = true
  · exact Or.inl ⟨hrank, Or.inl hskip, if_pos hskip⟩
  rw [if_neg hskip]
  cases hslot : job.connSnap.getD job.idx none with
  | none => exact Or.inl ⟨hrank, Or.inr rfl, rfl⟩
  | some c =>
    refine Or.inr ⟨c, hrank, rfl, ?_⟩
    dsimp only
    rcases sendTcpDirect_cases (s.conns c) job.data io.sendResult with
      ⟨n, hn, hle, -, heq⟩ | ⟨r, hr, heq⟩
    · rw [heq]
      exact Or.inl ⟨n, hn, hle, if_pos hn⟩
    · rw [heq, setConn_self]
      right
      cases r with
      | sent n =>
        refine ⟨_, _, calm_countFailure, hr, rfl, ?_⟩
        rw [hr n rfl]
        rfl
      | closed =>
        exact ⟨_, _, calm_disconnect.comp calm_countFailure, hr, rfl, rfl⟩
      | wouldBlock => exact ⟨_, _, calm_countFailure, hr, rfl, rfl⟩
      | interrupted => exact ⟨_, _, calm_countFailure, hr, rfl, rfl⟩

lemma rank_stepSendAttempt {job : SendJob} (io : Io) (hpc : s.pc = .sendAttempt job) :
    (s.stepSendAttempt job io).pc.rank < s.pc.rank := by
  rw [hpc]
  rcases sendAttempt_cases s job io with ⟨-, hstep⟩ | ⟨hlt, -, hstep⟩ |
    ⟨c, hlt, -, ⟨n, hn, -, hstep⟩ | ⟨f, r, -, -, -, hstep⟩⟩
  · rw [hstep]
    exact rank_lt_of_phase (by decide)
  all_goals
    rw [hstep]
    apply rank_lt_of_left
    rw [attemptsLeft_next (lt_of_lt_of_le hlt s.numDataConns_le)]
  · exact Nat.lt_add_of_pos_right (by omega)
  · show _ + (job.data.length - n) + 1 < _ + (job.data.length + 2)
    omega
  · exact Nat.lt_add_of_pos_right (by omega)

lemma rank_stepSendFlush {job : SendJob} {flush : Flush} (io : Io)
    (hpc : s.pc = .sendFlush job flush) :
    s.flushPass job.data flush io = (s, .again flush) ∧ (s.stepSendFlush job flush io).pc = s.pc
      ∨ (s.stepSendFlush job flush io).pc.rank < s.pc.rank := by
  rw [hpc]
  unfold stepSendFlush
  rcases flushPass_cases s job.data flush io with heq | ⟨-, heq⟩ | ⟨n, hn, hle, -, heq⟩
  · rw [heq]
    right
    dsimp only
    split_ifs
    · apply rank_lt_of_left
      show attemptsLeft vcFirstResendConnIndex (job.rank + 1) job.data.length < _
      omega
    · exact rank_lt_of_phase (by decide)
  · rw [heq]
    exact Or.inl ⟨rfl, rfl⟩
  · rw [heq]
    right
    apply rank_lt_of_left
    show _ + (job.data.length - (flush.totalSent + n)) + 1 < _
    omega

lemma rank_stepStartPacket {data : Packet} (io : Io) (hpc : s.pc = .startPacket data) :
    (s.stepStartPacket data io).pc.rank < s.pc.rank := by
  rw [hpc]
  unfold stepStartPacket
  dsimp only
  split_ifs
  · exact rank_lt_of_phase (by decide)
  · exact rank_lt_of_batch (by decide)
  · exact rank_lt_of_phase (by decide)

/-- Between two looks at the send queue every step of the thread leaves less to do, unless it
waits in a partial send; and it does not wait when the budget is spent. -/
lemma rank_threadStep (htake : s.pc ≠ .takePacket) (hstopped : s.pc ≠ .stopped) (io : Io) :
    ((s.threadStep io).pc = s.pc ∨ (s.threadStep io).pc.rank < s.pc.rank)
      ∧ (Pc.Spent io.now s.pc → (s.threadStep io).pc.rank < s.pc.rank) := by
  have hless : (s.threadStep io).pc.rank < s.pc.rank →
      ((s.threadStep io).pc = s.pc ∨ (s.threadStep io).pc.rank < s.pc.rank)
        ∧ (Pc.Spent io.now s.pc → (s.threadStep io).pc.rank < s.pc.rank) :=
    fun h => ⟨Or.inr h, fun _ => h⟩
  cases hpc : s.pc with
  | takePacket => exact absurd hpc htake
  | stopped => exact absurd hpc hstopped
  | resendFlush job flush =>
    have hstep : s.threadStep io = s.stepResendFlush job flush io := by rw [threadStep, hpc]
    rw [hstep, ← hpc]
    rcases rank_stepResendFlush io hpc with ⟨hwaits, hsame⟩ | hlt
    · refine ⟨Or.inl hsame, fun hspent => ?_⟩
      rw [hpc] at hspent
      exact absurd hwaits (flushPass_ne_waits hspent)
    · exact ⟨Or.inr hlt, fun _ => hlt⟩
  | sendFlush job flush =>
    have hstep : s.threadStep io = s.stepSendFlush job flush io := by rw [threadStep, hpc]
    rw [hstep, ← hpc]
    rcases rank_stepSendFlush io hpc with ⟨hwaits, hsame⟩ | hlt
    · refine ⟨Or.inl hsame, fun hspent => ?_⟩
      rw [hpc] at hspent
      exact absurd hwaits (flushPass_ne_waits hspent)
    · exact ⟨Or.inr hlt, fun _ => hlt⟩
  | loopHead =>
    have hstep : s.threadStep io = s.stepLoopHead := by rw [threadStep, hpc]
    rw [← hpc]
    exact hless (hstep ▸ rank_stepLoopHead hpc)
  | drainResend resendBatch =>
    have hstep : s.threadStep io = s.stepDrainResend resendBatch := by rw [threadStep, hpc]
    rw [← hpc]
    exact hless (hstep ▸ rank_stepDrainResend hpc)
  | resendAttempt job =>
    have hstep : s.threadStep io = s.stepResendAttempt job io := by rw [threadStep, hpc]
    rw [← hpc]
    exact hless (hstep ▸ rank_stepResendAttempt io hpc)
  | startPacket data =>
    have hstep : s.threadStep io = s.stepStartPacket data io := by rw [threadStep, hpc]
    rw [← hpc]
    exact hless (hstep ▸ rank_stepStartPacket io hpc)
  | sendAttempt job =>
    have hstep : s.threadStep io = s.stepSendAttempt job io := by rw [threadStep, hpc]
    rw [← hpc]
    exact hless (hstep ▸ rank_stepSendAttempt io hpc)

/-! ## What other threads cannot do -/

/-- Only the thread itself moves on in its loop. -/
lemma pc_step_of_ne {e : Event} (h : ∀ io, e ≠ .thread io) : (s.step e).pc = s.pc := by
  cases e with
  | thread io => exact absurd rfl (h io)
  | replaceConnection slot c =>
    show (s.replaceConnection slot c).pc = s.pc
    unfold SendThread.replaceConnection
    split_ifs <;> rfl
  | _ => rfl

/-- A running thread does not stop. -/
lemma threadStep_ne_stopped (hrunning : s.running = true) (h : s.pc ≠ .stopped) (io : Io) :
    (s.threadStep io).pc ≠ .stopped := by
  unfold threadStep
  split
  · unfold stepLoopHead
    rw [if_pos hrunning]
    split_ifs <;> simp [leaveResend]
  · unfold stepDrainResend
    split_ifs
    · split
      · simp [leaveResend]
      · dsimp only
        split_ifs <;> simp
    · simp [leaveResend]
  · rename_i job hpc
    rcases resendAttempt_cases hpc io with ⟨-, -, hstep⟩ | ⟨-, -, hstep⟩ |
      ⟨-, -, c, -, -, ⟨n, -, -, hstep⟩ | ⟨f, -, hstep⟩⟩
    · rw [hstep, pc_resendFailed]
      simp
    all_goals
      rw [hstep]
      simp
  · rename_i job flush hpc
    unfold stepResendFlush
    rcases flushPass_cases s job.data flush io with heq | ⟨-, heq⟩ | ⟨n, -, -, -, heq⟩
    · rw [heq]
      dsimp only
      split_ifs <;> simp
    · rw [heq]
      simp
    · rw [heq]
      simp
  · unfold stepTakePacket
    split
    · simp
    · split <;> simp
  · unfold stepStartPacket
    rw [if_pos hrunning]
    dsimp only
    split_ifs <;> simp
  · rename_i job hpc
    rcases sendAttempt_cases s job io with ⟨-, hstep⟩ | ⟨-, -, hstep⟩ |
      ⟨c, -, -, ⟨n, -, -, hstep⟩ | ⟨f, r, -, -, -, hstep⟩⟩
    all_goals
      rw [hstep]
      simp
  · rename_i job flush hpc
    unfold stepSendFlush
    rcases flushPass_cases s job.data flush io with heq | ⟨-, heq⟩ | ⟨n, -, -, -, heq⟩
    · rw [heq]
      dsimp only
      split_ifs <;> simp
    · rw [heq]
      simp
    · rw [heq]
      simp
  · exact h

lemma step_ne_stopped (hrunning : s.running = true) (h : s.pc ≠ .stopped) (e : Event) :
    (s.step e).pc ≠ .stopped := by
  by_cases hthread : ∃ io, e = .thread io
  · obtain ⟨io, rfl⟩ := hthread
    exact threadStep_ne_stopped hrunning h io
  · rw [pc_step_of_ne fun io heq => hthread ⟨io, heq⟩]
    exact h

/-! ## The thread comes back to its send queue -/

/-- At some later step of the thread a budget that runs at this place is spent. -/
lemma ClockRuns.exists_thread (hclock : ClockRuns u) (pc : Pc) (n : ℕ) :
    ∃ m, n ≤ m ∧ ∃ io, u m = .thread io ∧ pc.Spent io.now := by
  have hlate : ∃ late, ∀ k io, late ≤ k → u k = .thread io → pc.Spent io.now := by
    cases pc with
    | resendFlush job flush =>
      obtain ⟨late, hlate⟩ := hclock.passes (flush.partialStart + partialSendBudgetMs)
      refine ⟨late, fun k io hk hio => ?_⟩
      have := hlate k io hk hio
      show io.now - flush.partialStart ≥ partialSendBudgetMs
      omega
    | sendFlush job flush =>
      obtain ⟨late, hlate⟩ := hclock.passes (flush.partialStart + partialSendBudgetMs)
      refine ⟨late, fun k io hk hio => ?_⟩
      have := hlate k io hk hio
      show io.now - flush.partialStart ≥ partialSendBudgetMs
      omega
    | _ => exact ⟨0, fun _ _ _ _ => trivial⟩
  obtain ⟨late, hlate⟩ := hlate
  obtain ⟨m, hm, io, hio⟩ := hclock.scheduled (max n late)
  exact ⟨m, (le_max_left n late).trans hm, io, hio,
    hlate m io ((le_max_right n late).trans hm) hio⟩

/-- A predicate that lasts while the thread is away from its send queue leads to what it ends in:
the rank cannot go down for ever. -/
lemma leadsTo_of_rank (hclock : ClockRuns u) {P Q : ℕ → Prop}
    (haway : ∀ n, P n → (runState step s₀ u n).pc ≠ .takePacket
      ∧ (runState step s₀ u n).pc ≠ .stopped)
    (hkeep : ∀ n, P n → Q (n + 1) ∨ P (n + 1)) : LeadsTo P Q := by
  refine LeadsTo.of_measure (fun n => (runState step s₀ u n).pc) Pc.rank ?_ ?_
  · intro n hn
    refine (hkeep n hn).imp_right fun hnext => ⟨hnext, ?_⟩
    show (step (runState step s₀ u n) (u n)).pc = _ ∨ (step (runState step s₀ u n) (u n)).pc.rank < _
    by_cases hthread : ∃ io, u n = .thread io
    · obtain ⟨io, hio⟩ := hthread
      rw [hio]
      exact (rank_threadStep (haway n hn).1 (haway n hn).2 io).1
    · exact Or.inl (pc_step_of_ne fun io heq => hthread ⟨io, heq⟩)
  · intro n hn
    obtain ⟨m, hm, io, hio, hspent⟩ := hclock.exists_thread (runState step s₀ u n).pc n
    refine ⟨m, hm, fun hp hsame => Or.inr ?_⟩
    show (step (runState step s₀ u m) (u m)).pc.rank < _
    rw [hio]
    exact (rank_threadStep (haway m hp).1 (haway m hp).2 io).2 (hsame ▸ hspent)

/-- However its sockets behave, a thread that is not told to stop looks at its send queue again
and again. -/
lemma leadsTo_takePacket (hclock : ClockRuns u)
    (hrunning : ∀ n, (runState step s₀ u n).running = true) (hstart : s₀.pc ≠ .stopped) :
    LeadsTo (fun _ => True) fun n => (runState step s₀ u n).pc = .takePacket := by
  have hruns : ∀ n, (runState step s₀ u n).pc ≠ .stopped := by
    intro n
    induction n with
    | zero => exact hstart
    | succ n ih => exact step_ne_stopped (hrunning n) ih (u n)
  have haway : LeadsTo (fun n => (runState step s₀ u n).pc ≠ .takePacket)
      fun n => (runState step s₀ u n).pc = .takePacket :=
    leadsTo_of_rank hclock (fun n hn => ⟨hn, hruns n⟩) fun n _ => Classical.em _
  intro n _
  by_cases hn : (runState step s₀ u n).pc = .takePacket
  · exact ⟨n, le_rfl, hn⟩
  · exact haway n hn

end SendThread
end TcpUdp
