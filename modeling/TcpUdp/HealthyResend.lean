import TcpUdp.HealthyConnection
import TcpUdp.ResendLedger

/-!
# One healthy resend connection is enough

With one resend connection that stays up and takes bytes whenever it is asked, no resend is put
back or given up any more, and all that is on the resend queue is written, in the order of the
queue (`eventually_resent`): the batches end, the thread comes back to the queue after them, and
every call comes to the slot of that connection.
-/

namespace TcpUdp

open Lib

namespace SendThread

variable {s s₀ s' : SendThread} {u : ℕ → Event} {slot : ℕ} {c : ConnId} {data : Packet}

/-! ## The healthy connection -/

/-- The step sends bytes of a resend on `c`, if it is the thread's and the connection is up. -/
def ResendsOn (s : SendThread) (c : ConnId) : Prop :=
  match s.pc with
  | .resendAttempt job => job.conns.getD (s.resendSlot job job.attempt) none = some c
  | .resendFlush _ flush => flush.conn = c
  | _ => False

/-- At a moment of the run: the connection is in its resend slot, connected and not in backoff,
and takes bytes if it is asked. -/
structure HealthyResend (slot : ℕ) (c : ConnId) (s : SendThread) (e : Event) : Prop where
  le_slot : vcFirstResendConnIndex ≤ slot
  slot_lt : slot < s.connections.length
  connection : s.connections.getD slot none = some c
  connected : (s.conns c).connected = true
  eligible : ∀ io, e = .thread io → (io.runtimeInfo slot).isInExponentialBackoff = false
  takes : ∀ io, e = .thread io → s.ResendsOn c →
    io.writable = true ∧ ∃ n, 0 < n ∧ io.sendResult = .sent n

lemma HealthyResend.anyResendAlive {e : Event} (h : HealthyResend slot c s e) :
    s.anyResendAlive = true := by
  have hslot := h.connection
  rw [List.getD_eq_getElem _ _ h.slot_lt] at hslot
  rw [SendThread.anyResendAlive, List.any_eq_true]
  refine ⟨some c, ?_, h.connected⟩
  rw [List.mem_drop_iff_getElem]
  have hle := h.le_slot
  refine ⟨slot - vcFirstResendConnIndex, ?_, ?_⟩
  · have hlt := h.slot_lt
    omega
  · simp only [Nat.add_sub_cancel' hle]
    exact hslot

/-- The round of a call comes to the slot, if it goes on from `attempt`. -/
structure ReachesResend (slot : ℕ) (c : ConnId) (s : SendThread) (job : ResendJob)
    (attempt : ℕ) : Prop where
  data : job.data ≠ []
  connection : job.conns.getD slot none = some c
  later : ∃ k, attempt ≤ k ∧ k < job.resendCount ∧ s.resendSlot job k = slot

/-- The packet in hand will be sent on the slot at the latest. -/
def CarryingResend (slot : ℕ) (c : ConnId) (s : SendThread) : Prop :=
  match s.pc with
  | .resendAttempt job => ReachesResend slot c s job job.attempt
  | .resendFlush job flush => flush.conn = c ∨ ReachesResend slot c s job (job.attempt + 1)
  | _ => False

/-- A round that starts anywhere comes to every resend slot. -/
lemma exists_resendSlot (s : SendThread) (job : ResendJob) (hle : vcFirstResendConnIndex ≤ slot)
    (hlt : slot < job.conns.length) : ∃ k < job.resendCount, s.resendSlot job k = slot := by
  have hcount : slot - vcFirstResendConnIndex < job.resendCount := by
    rw [ResendJob.resendCount]
    omega
  have hstart := Nat.mod_lt s.resendRoundRobin (Nat.zero_lt_of_lt hcount)
  refine ⟨(slot - vcFirstResendConnIndex + (job.resendCount - s.resendRoundRobin % job.resendCount))
    % job.resendCount, Nat.mod_lt _ (Nat.zero_lt_of_lt hcount), ?_⟩
  rw [resendSlot, Nat.add_mod_mod, ← Nat.mod_add_mod]
  have hsum : s.resendRoundRobin % job.resendCount + (slot - vcFirstResendConnIndex
      + (job.resendCount - s.resendRoundRobin % job.resendCount))
      = slot - vcFirstResendConnIndex + job.resendCount := by
    omega
  rw [hsum, Nat.add_mod_right, Nat.mod_eq_of_lt hcount]
  omega

lemma ReachesResend.attempt_lt {job : ResendJob} {attempt : ℕ}
    (h : ReachesResend slot c s job attempt) : attempt < job.resendCount := by
  obtain ⟨k, hk, hlt, -⟩ := h.later
  exact lt_of_le_of_lt hk hlt

/-- The round goes to the next slot, or it is at this one. -/
lemma ReachesResend.next {job : ResendJob} (h : ReachesResend slot c s job job.attempt)
    (hslot : s.resendSlot job job.attempt ≠ slot) :
    ReachesResend slot c s job (job.attempt + 1) := by
  obtain ⟨k, hk, hlt, hat⟩ := h.later
  have hne : job.attempt ≠ k := fun heq => hslot (heq ▸ hat)
  exact ⟨h.data, h.connection, k, by omega, hlt, hat⟩

/-! ## A call does not fail -/

/-- The healthy connection takes the first bytes. -/
lemma stepResendAttempt_healthy {job : ResendJob} {io : Io}
    (hhealthy : HealthyResend slot c s (.thread io)) (hpc : s.pc = .resendAttempt job)
    (hreaches : ReachesResend slot c s job job.attempt)
    (hslot : s.resendSlot job job.attempt = slot) :
    ∃ job' flush, (s.stepResendAttempt job io).pc = .resendFlush job' flush ∧ flush.conn = c := by
  have hconn : job.conns.getD (s.resendSlot job job.attempt) none = some c :=
    hslot ▸ hreaches.connection
  obtain ⟨-, n, hn, hsent⟩ := hhealthy.takes io rfl (by rw [ResendsOn, hpc]; exact hconn)
  have hbackoff := hslot ▸ hhealthy.eligible io rfl
  obtain ⟨hsend, hpos⟩ := sendTcpDirect_healthy hhealthy.connected hreaches.data hn
  rw [resendSlot] at hconn hbackoff
  rw [← hsent] at hsend
  refine ⟨{ job with aliveCount := job.aliveCount + 1 },
    { conn := c, totalSent := min n job.data.length, partialStart := io.now }, ?_, rfl⟩
  unfold stepResendAttempt
  rw [if_pos hreaches.attempt_lt]
  dsimp only
  rw [hconn]
  dsimp only
  rw [hhealthy.connected, hbackoff, hsend]
  simp only [Bool.not_true, Bool.false_eq_true, if_false, if_pos hpos, gt_iff_lt]

lemma carrying_stepResendAttempt {job : ResendJob} {io : Io}
    (hhealthy : HealthyResend slot c s (.thread io)) (hpc : s.pc = .resendAttempt job)
    (hreaches : ReachesResend slot c s job job.attempt) :
    CarryingResend slot c (s.stepResendAttempt job io) := by
  by_cases hslot : s.resendSlot job job.attempt = slot
  · obtain ⟨job', flush, hpc', hflush⟩ := stepResendAttempt_healthy hhealthy hpc hreaches hslot
    rw [CarryingResend, hpc']
    exact Or.inl hflush
  · have hnext := hreaches.next hslot
    rcases resendAttempt_cases hpc io with ⟨hend, -, -⟩ | ⟨-, -, hstep⟩ |
      ⟨-, -, c', -, -, ⟨n, -, -, hstep⟩ | ⟨f, -, hstep⟩⟩
    · exact absurd hreaches.attempt_lt hend
    · rw [hstep]
      exact ⟨hnext.data, hnext.connection, hnext.later⟩
    · rw [hstep]
      exact Or.inr ⟨hnext.data, hnext.connection, hnext.later⟩
    · rw [hstep]
      exact ⟨hnext.data, hnext.connection, hnext.later⟩

/-- The packet is written out, or it is still on its way. -/
lemma carrying_stepResendFlush {job : ResendJob} {flush : Flush} {io : Io}
    (hhealthy : HealthyResend slot c s (.thread io)) (hrunning : s.running = true)
    (hpc : s.pc = .resendFlush job flush)
    (hcarrying : flush.conn = c ∨ ReachesResend slot c s job (job.attempt + 1)) :
    (∃ p, (s.stepResendFlush job flush io).sentOnResend = s.sentOnResend ++ [p])
      ∨ CarryingResend slot c (s.stepResendFlush job flush io) := by
  have hleaves : s.flushPass job.data flush io = (s, .leave) → flush.conn = c →
      ¬ flush.totalSent < job.data.length := by
    intro heq hconn
    obtain ⟨hwritable, n, hn, hsent⟩ := hhealthy.takes io rfl (by rw [ResendsOn, hpc]; exact hconn)
    exact flushPass_healthy (hconn ▸ hhealthy.connected) hrunning hwritable hn hsent (by rw [heq])
  unfold stepResendFlush
  rcases flushPass_cases s job.data flush io with heq | ⟨-, heq⟩ | ⟨n, -, -, -, heq⟩
  · rw [heq]
    dsimp only
    split_ifs with hshort
    · have hnext := hcarrying.resolve_left fun hconn => hleaves heq hconn hshort
      exact Or.inr ⟨hnext.data, hnext.connection, hnext.later⟩
    · refine Or.inl ⟨job.data, ?_⟩
      rw [sentOnResend_append (s := s) rfl]
      rfl
  · rw [heq]
    exact Or.inr (hcarrying.imp_right fun h => ⟨h.data, h.connection, h.later⟩)
  · rw [heq]
    exact Or.inr (hcarrying.imp_right fun h => ⟨h.data, h.connection, h.later⟩)

lemma resendRoundRobin_step_of_ne {e : Event} (h : ∀ io, e ≠ .thread io) :
    (s.step e).resendRoundRobin = s.resendRoundRobin := by
  cases e with
  | thread io => exact absurd rfl (h io)
  | replaceConnection slot c =>
    show (s.replaceConnection slot c).resendRoundRobin = s.resendRoundRobin
    unfold SendThread.replaceConnection
    split_ifs <;> rfl
  | _ => rfl

lemma carryingResend_step (hcarrying : CarryingResend slot c s) {e : Event}
    (hhealthy : HealthyResend slot c s e) (hrunning : s.running = true) :
    (∃ p, (s.step e).sentOnResend = s.sentOnResend ++ [p]) ∨ CarryingResend slot c (s.step e) := by
  by_cases hthread : ∃ io, e = .thread io
  swap
  · right
    have hne : ∀ io, e ≠ .thread io := fun io heq => hthread ⟨io, heq⟩
    have hreaches : ∀ job attempt, ReachesResend slot c s job attempt →
        ReachesResend slot c (s.step e) job attempt := by
      rintro job attempt ⟨hdata, hconn, k, hk, hlt, hat⟩
      refine ⟨hdata, hconn, k, hk, hlt, ?_⟩
      rw [resendSlot, resendRoundRobin_step_of_ne hne, ← resendSlot]
      exact hat
    unfold CarryingResend at hcarrying ⊢
    rw [pc_step_of_ne hne]
    split at hcarrying
    · exact hreaches _ _ hcarrying
    · exact hcarrying.imp_right (hreaches _ _)
    · exact hcarrying.elim
  obtain ⟨io, rfl⟩ := hthread
  show (∃ p, (s.threadStep io).sentOnResend = s.sentOnResend ++ [p])
    ∨ CarryingResend slot c (s.threadStep io)
  unfold CarryingResend at hcarrying
  rw [threadStep]
  cases hpc : s.pc with
  | resendAttempt job =>
    rw [hpc] at hcarrying
    exact Or.inr (carrying_stepResendAttempt hhealthy hpc hcarrying)
  | resendFlush job flush =>
    rw [hpc] at hcarrying
    exact carrying_stepResendFlush hhealthy hrunning hpc hcarrying
  | _ =>
    rw [hpc] at hcarrying
    exact hcarrying.elim

/-! ## Back to the resend queue -/

/-- The thread is busy with a normal packet. -/
def SendsData (s : SendThread) : Prop :=
  match s.pc with
  | .startPacket _ | .sendAttempt _ | .sendFlush _ _ => True
  | _ => False

/-- From the send queue the way leads through one packet to the head of the loop. -/
lemma sendsData_threadStep (hrunning : s.running = true) (h : s.pc = .takePacket ∨ s.SendsData)
    (io : Io) : (s.threadStep io).pc = .loopHead ∨ (s.threadStep io).SendsData := by
  rw [threadStep]
  cases hpc : s.pc with
  | takePacket =>
    dsimp only
    unfold stepTakePacket
    split
    · exact Or.inr trivial
    · split
      · exact Or.inr trivial
      · exact Or.inl rfl
  | startPacket data =>
    dsimp only
    unfold stepStartPacket
    dsimp only
    rw [if_pos hrunning]
    split_ifs
    · exact Or.inl rfl
    · exact Or.inr trivial
  | sendAttempt job =>
    dsimp only
    rcases sendAttempt_cases s job io with ⟨-, hstep⟩ | ⟨-, -, hstep⟩ |
      ⟨c, -, -, ⟨n, -, -, hstep⟩ | ⟨f, r, -, -, -, hstep⟩⟩
    · rw [hstep]
      exact Or.inl rfl
    all_goals
      rw [hstep]
      exact Or.inr trivial
  | sendFlush job flush =>
    dsimp only
    unfold stepSendFlush
    rcases flushPass_cases s job.data flush io with heq | ⟨-, heq⟩ | ⟨n, -, -, -, heq⟩
    · rw [heq]
      dsimp only
      split_ifs
      · exact Or.inr trivial
      · exact Or.inl rfl
    · rw [heq]
      exact Or.inr trivial
    · rw [heq]
      exact Or.inr trivial
  | _ =>
    rw [hpc, SendsData, hpc] at h
    rcases h with h | h
    · cases h
    · exact h.elim

section Run

variable {first : ℕ}

/-- The thread stays where it is until it is scheduled. -/
lemma leadsTo_thread (s₀ : SendThread) (hclock : ClockRuns u) (pc : Pc) :
    LeadsTo (fun n => (runState step s₀ u n).pc = pc)
      fun n => (runState step s₀ u n).pc = pc ∧ ∃ io, u n = .thread io := by
  apply LeadsTo.until_next
  · intro n hpc hother
    exact (pc_step_of_ne fun io heq => hother ⟨io, heq⟩).trans hpc
  · exact hclock.scheduled

lemma leadsTo_loopHead (hclock : ClockRuns u)
    (hrunning : ∀ n, (runState step s₀ u n).running = true) :
    LeadsTo (fun n => (runState step s₀ u n).pc = .takePacket)
      fun n => (runState step s₀ u n).pc = .loopHead := by
  -- one packet is sent
  have hdata : LeadsTo (fun n => (runState step s₀ u n).SendsData)
      fun n => (runState step s₀ u n).pc = .loopHead := by
    apply leadsTo_of_rank hclock
    · intro n hn
      rw [SendsData] at hn
      constructor
      · intro hpc
        rw [hpc] at hn
        exact hn
      · intro hpc
        rw [hpc] at hn
        exact hn
    · intro n hn
      by_cases hthread : ∃ io, u n = .thread io
      · obtain ⟨io, hio⟩ := hthread
        rw [runState, hio]
        exact sendsData_threadStep (hrunning n) (Or.inr hn) io
      · right
        rw [runState, SendsData, pc_step_of_ne fun io heq => hthread ⟨io, heq⟩]
        exact hn
  refine ((leadsTo_thread s₀ hclock .takePacket).trans (LeadsTo.of_next ?_)).cancel hdata
  rintro n ⟨hpc, io, hio⟩
  rw [runState, hio]
  exact sendsData_threadStep (hrunning n) (Or.inl hpc) io

/-- With a healthy resend connection the thread looks at the resend queue again and again. -/
lemma leadsTo_drainResend (hinit : Initial s₀) (hclock : ClockRuns u)
    (hrunning : ∀ n, (runState step s₀ u n).running = true)
    (hhealthy : ∀ n, first ≤ n → HealthyResend slot c (runState step s₀ u n) (u n)) :
    LeadsTo (fun n => True ∧ first ≤ n)
      fun n => (runState step s₀ u n).pc = .drainResend 0 ∧ ∃ io, u n = .thread io := by
  have hstart : s₀.pc ≠ .stopped := by
    rw [hinit.pc]
    simp
  have hhead := ((leadsTo_takePacket hclock hrunning hstart).trans
    (leadsTo_loopHead hclock hrunning)).trans (leadsTo_thread s₀ hclock .loopHead)
  have hlater := hhead.and_stable (R := fun n => first ≤ n) fun n hn => hn.trans n.le_succ
  refine (hlater.trans (LeadsTo.of_next ?_)).trans (leadsTo_thread s₀ hclock (.drainResend 0))
  rintro n ⟨⟨hpc, io, hio⟩, hn⟩
  rw [runState, hio, step, threadStep, hpc]
  dsimp only
  rw [stepLoopHead, if_pos (hrunning n), if_pos (hhealthy n hn).anyResendAlive]

end Run

/-! ## One packet after the other -/

/-- What was written begins with `base`, and what is queued with `q`. -/
structure Lined (base q : List Packet) (s : SendThread) : Prop where
  sent : base <+: s.sentOnResend
  queue : q <+: s.resendQueue.queue

/-- The packet before `q` is in hand, and will be written. -/
structure Taken (slot : ℕ) (c : ConnId) (base : List Packet) (data : Packet) (q : List Packet)
    (s : SendThread) : Prop where
  lined : Lined base q s
  carrying : CarryingResend slot c s
  hand : s.resendInHand = some data

/-- It has just been written. -/
structure Written (base : List Packet) (data : Packet) (q : List Packet) (s : SendThread) :
    Prop where
  sent : ∃ l, base <+: l ∧ s.sentOnResend = l ++ [data]
  queue : q <+: s.resendQueue.queue

variable {base q : List Packet} {act : BlockingQueue → BlockingQueue} {given : Option Packet}

lemma prefix_onResendQueue (e : Event) (q : BlockingQueue) : q.queue <+: (e.onResendQueue q).queue := by
  rw [queue_onResendQueue]
  exact List.prefix_append _ _

lemma CarryingResend.resendInHand_ne (h : CarryingResend slot c s) : s.resendInHand ≠ none := by
  rw [CarryingResend] at h
  split at h
  · rename_i hpc
    rw [resendInHand_of_job (by rw [resendJob?, hpc])]
    exact Option.some_ne_none _
  · rename_i hpc
    rw [resendInHand_of_job (by rw [resendJob?, hpc])]
    exact Option.some_ne_none _
  · exact h.elim

/-- A call that begins now comes to the healthy connection. -/
lemma carrying_of_begins {e : Event} {resendBatch : ℕ} (hhealthy : HealthyResend slot c s e)
    (hdata : data ≠ []) (hpc : s'.pc = .resendAttempt
      { data := data, conns := s.connections, attempt := 0, aliveCount := 0,
        resendBatch := resendBatch }) : CarryingResend slot c s' := by
  rw [CarryingResend, hpc]
  obtain ⟨k, hk, hat⟩ := exists_resendSlot s' ⟨data, s.connections, 0, 0, resendBatch⟩
    hhealthy.le_slot hhealthy.slot_lt
  exact ⟨hdata, hhealthy.connection, k, Nat.zero_le k, hk, hat⟩

lemma Lined.step {e : Event} (h : Lined base (data :: q) s) (hhealthy : HealthyResend slot c s e)
    (hdata : data ≠ []) :
    Lined base (data :: q) (s.step e) ∨ Taken slot c base data q (s.step e) := by
  have hqueue := h.queue
  have hstep := resendStep s e
  generalize hact : e.onResendQueue = act, s.givesUp e = given at hstep
  cases hstep with
  | aside queue hand sent =>
    left
    rw [← hact] at queue
    exact ⟨sent ▸ h.sent, queue ▸ hqueue.trans (prefix_onResendQueue e _)⟩
  | begins pc taken pc' sent =>
    right
    rw [BlockingQueue.tryDequeue_eq_some taken, List.cons_prefix_cons] at hqueue
    obtain ⟨rfl, hqueue⟩ := hqueue
    exact ⟨⟨sent ▸ h.sent, hqueue⟩, carrying_of_begins hhealthy hdata pc',
      resendInHand_of_job (by rw [resendJob?, pc'])⟩
  | discards few =>
    exact absurd (hhealthy.le_slot.trans_lt hhealthy.slot_lt) (not_lt.mpr few)
  | writes hand queue hand' sent =>
    left
    exact ⟨sent ▸ h.sent.trans (List.prefix_append _ _), queue ▸ hqueue⟩
  | putsBack hand queue hand' sent =>
    left
    exact ⟨sent ▸ h.sent, queue ▸ hqueue.trans (List.prefix_append _ _)⟩
  | drops hand queue hand' sent =>
    left
    exact ⟨sent ▸ h.sent, queue ▸ hqueue⟩

lemma Taken.step {e : Event} (h : Taken slot c base data q s) (hhealthy : HealthyResend slot c s e)
    (hrunning : s.running = true) :
    Written base data q (s.step e) ∨ Taken slot c base data q (s.step e) := by
  have hcarrying := carryingResend_step h.carrying hhealthy hrunning
  -- a step that writes nothing keeps the packet on its way
  have hkeeps : (s.step e).sentOnResend = s.sentOnResend → CarryingResend slot c (s.step e) := by
    intro hsent
    refine hcarrying.resolve_left ?_
    rintro ⟨p, happend⟩
    rw [hsent] at happend
    exact absurd (List.self_eq_append_right.mp happend) (by simp)
  have hhand := h.hand
  have hstep := resendStep s e
  generalize hact : e.onResendQueue = act, s.givesUp e = given at hstep
  cases hstep with
  | aside queue hand sent =>
    right
    rw [← hact] at queue
    exact ⟨⟨sent ▸ h.lined.sent, queue ▸ h.lined.queue.trans (prefix_onResendQueue e _)⟩,
      hkeeps sent, hand.trans hhand⟩
  | begins pc =>
    rw [resendInHand, resendJob?, pc] at hhand
    cases hhand
  | discards few taken hand =>
    rw [hand] at hhand
    cases hhand
  | writes hand queue hand' sent =>
    left
    obtain rfl := Option.some.inj (hand.symm.trans hhand)
    exact ⟨⟨_, h.lined.sent, sent⟩, queue ▸ h.lined.queue⟩
  | putsBack hand queue hand' sent => exact absurd hand' (hkeeps sent).resendInHand_ne
  | drops hand queue hand' sent => exact absurd hand' (hkeeps sent).resendInHand_ne

/-- At the head of the batch loop the first packet is taken. -/
lemma Lined.taken {io : Io} (h : Lined base (data :: q) s)
    (hhealthy : HealthyResend slot c s (.thread io)) (hopen : s.resendQueue.cancelled = false)
    (hdata : data ≠ []) (hpc : s.pc = .drainResend 0) :
    Taken slot c base data q (s.step (.thread io)) := by
  obtain ⟨rest, hqueue⟩ := h.queue
  have htake : s.resendQueue.tryDequeue = some (data, { s.resendQueue with
      queue := q ++ rest, approxQueueSize := s.resendQueue.approxQueueSize - 1 }) := by
    rw [BlockingQueue.tryDequeue, ← hqueue]
    dsimp only [List.cons_append]
    rw [hopen, if_neg (by decide)]
  have hslots : ¬ s.connections.length ≤ vcFirstResendConnIndex :=
    not_le.mpr (hhealthy.le_slot.trans_lt hhealthy.slot_lt)
  rw [SendThread.step, threadStep, hpc]
  dsimp only
  rw [stepDrainResend, if_pos (by decide), htake]
  dsimp only
  rw [if_neg hslots]
  exact ⟨⟨h.sent, List.prefix_append _ _⟩, carrying_of_begins hhealthy hdata rfl, rfl⟩

section Run

variable {first : ℕ}

/-- While nothing is cancelled the queue hands out its packets. -/
lemma resendQueue_open (hinit : Initial s₀) (hkept : ∀ n, u n ≠ .cancelWait) (n : ℕ) :
    (runState step s₀ u n).resendQueue.cancelled = false := by
  induction n with
  | zero =>
    rw [runState_zero, hinit.resendQueue]
  | succ n ih =>
    have hsame : ((u n).onResendQueue (runState step s₀ u n).resendQueue).cancelled
        = (runState step s₀ u n).resendQueue.cancelled := by
      cases hevent : u n with
      | cancelWait => exact absurd hevent (hkept n)
      | _ => rfl
    rw [runState, ← ih]
    have hstep := resendStep (runState step s₀ u n) (u n)
    generalize hact : (u n).onResendQueue = act, (runState step s₀ u n).givesUp (u n) = given
      at hstep
    cases hstep with
    | aside queue => rw [queue, ← hact, hsame]
    | begins pc taken => exact BlockingQueue.cancelled_of_tryDequeue taken
    | discards few taken => exact BlockingQueue.cancelled_of_tryDequeue taken
    | writes hand queue => rw [queue]
    | putsBack hand queue => rw [queue, BlockingQueue.enqueue]
    | drops hand queue => rw [queue]

lemma leadsTo_taken (hinit : Initial s₀) (hclock : ClockRuns u) (hkept : ∀ n, u n ≠ .cancelWait)
    (hrunning : ∀ n, (runState step s₀ u n).running = true)
    (hhealthy : ∀ n, first ≤ n → HealthyResend slot c (runState step s₀ u n) (u n))
    (hdata : data ≠ []) :
    LeadsTo (fun n => (True ∧ first ≤ n)
        ∧ first ≤ n ∧ Lined base (data :: q) (runState step s₀ u n))
      fun n => first ≤ n ∧ Taken slot c base data q (runState step s₀ u n) := by
  refine ((leadsTo_drainResend hinit hclock hrunning hhealthy).and_unless ?_).cancel
    (LeadsTo.of_next ?_)
  · rintro n ⟨hn, hlined⟩
    exact (hlined.step (hhealthy n hn) hdata).imp (fun h => ⟨hn.trans n.le_succ, h⟩)
      fun h => ⟨hn.trans n.le_succ, h⟩
  · rintro n ⟨⟨hpc, io, hio⟩, hn, hlined⟩
    have hhealthy' := hhealthy n hn
    rw [hio] at hhealthy'
    rw [runState, hio]
    exact ⟨hn.trans n.le_succ,
      hlined.taken hhealthy' (resendQueue_open hinit hkept n) hdata hpc⟩

lemma leadsTo_written (hclock : ClockRuns u)
    (hrunning : ∀ n, (runState step s₀ u n).running = true)
    (hhealthy : ∀ n, first ≤ n → HealthyResend slot c (runState step s₀ u n) (u n)) :
    LeadsTo (fun n => first ≤ n ∧ Taken slot c base data q (runState step s₀ u n))
      fun n => first ≤ n ∧ Written base data q (runState step s₀ u n) := by
  apply leadsTo_of_rank hclock
  · rintro n ⟨-, htaken⟩
    have hcarrying := htaken.carrying
    rw [CarryingResend] at hcarrying
    constructor
    · intro hpc
      rw [hpc] at hcarrying
      exact hcarrying
    · intro hpc
      rw [hpc] at hcarrying
      exact hcarrying
  · rintro n ⟨hn, htaken⟩
    exact (htaken.step (hhealthy n hn) (hrunning n)).imp (fun h => ⟨hn.trans n.le_succ, h⟩)
      fun h => ⟨hn.trans n.le_succ, h⟩

/-- In every run in which the thread is scheduled, its clock runs, and it is not told to stop: from
the moment on that a resend connection is healthy, all that is on the resend queue is written, in
order. -/
theorem eventually_resent (hinit : Initial s₀) (hpackets : ∀ n, ∀ p ∈ (u n).packets, p ≠ [])
    (hrunning : ∀ n, (runState step s₀ u n).running = true) (hkept : ∀ n, u n ≠ .cancelWait)
    (hclock : ClockRuns u)
    (hhealthy : ∀ n, first ≤ n → HealthyResend slot c (runState step s₀ u n) (u n)) {n : ℕ}
    (hn : first ≤ n) :
    ∃ m, n ≤ m ∧ ∃ later, (runState step s₀ u m).sentOnResend
        = (runState step s₀ u n).sentOnResend ++ later
      ∧ (runState step s₀ u n).resendQueue.queue.Sublist later := by
  -- the packets of the queue one by one
  have hall : ∀ q n, first ≤ n → q <+: (runState step s₀ u n).resendQueue.queue →
      ∃ m, n ≤ m ∧ ∃ later, (runState step s₀ u m).sentOnResend
          = (runState step s₀ u n).sentOnResend ++ later ∧ q.Sublist later := by
    intro q
    induction q with
    | nil => exact fun n _ _ => ⟨n, le_rfl, [], (List.append_nil _).symm, List.Sublist.slnil⟩
    | cons data q ih =>
      intro n hn hqueue
      have hdata : data ≠ [] := (holds_run hinit hpackets n).resendQueue data
        (hqueue.subset List.mem_cons_self)
      have hlined : Lined (runState step s₀ u n).sentOnResend (data :: q) (runState step s₀ u n) :=
        ⟨List.prefix_rfl, hqueue⟩
      obtain ⟨i, hi, hfirst, htaken⟩ := leadsTo_taken hinit hclock hkept hrunning hhealthy hdata n
        ⟨⟨trivial, hn⟩, hn, hlined⟩
      obtain ⟨j, hj, hfirst', hwritten⟩ := leadsTo_written hclock hrunning hhealthy i
        ⟨hfirst, htaken⟩
      obtain ⟨l, ⟨before, hbefore⟩, hsent⟩ := hwritten.sent
      obtain ⟨m, hm, later, hlater, hsub⟩ := ih j hfirst' hwritten.queue
      refine ⟨m, hi.trans (hj.trans hm), before ++ data :: later, ?_, ?_⟩
      · rw [hlater, hsent, ← hbefore, List.append_assoc, List.append_assoc]
        rfl
      · exact (hsub.cons_cons data).trans (List.sublist_append_right _ _)
  exact hall _ n hn List.prefix_rfl

end Run

/-! ## A run on one resend slot -/

/-- One packet of three bytes, and sockets that take two bytes at a time. -/
def twoAtATime : ℕ → Event
  | 0 => .enqueueResend [1, 2, 3]
  | n + 1 => .thread { sendResult := .sent 2, writable := true, now := n }

/-- The thread has nothing to send, and the resend connection is up. -/
structure AtRest (s : SendThread) : Prop where
  pc : s.pc = .loopHead ∨ s.pc = .drainResend 0 ∨ s.pc = .takePacket
  running : s.running = true
  connections : s.connections = oneResendSlot.connections
  connected : (s.conns 24).connected = true
  sendQueue : s.sendQueue.queue = []
  resendQueue : s.resendQueue.queue = []
  pendingDataVec : s.pendingDataVec = none

lemma atRest_threadStep (h : AtRest s) (io : Io) : AtRest (s.threadStep io) := by
  have hsend : s.sendQueue.tryDequeue = none := by rw [BlockingQueue.tryDequeue, h.sendQueue]
  have hresend : s.resendQueue.tryDequeue = none := by rw [BlockingQueue.tryDequeue, h.resendQueue]
  obtain ⟨hpc, hrunning, hconns, hup, hqueue, hresends, hpending⟩ := h
  rw [threadStep]
  rcases hpc with hpc | hpc | hpc
  · rw [hpc]
    dsimp only
    rw [stepLoopHead, if_pos hrunning]
    split_ifs
    · exact ⟨Or.inr (Or.inl rfl), hrunning, hconns, hup, hqueue, hresends, hpending⟩
    · exact ⟨Or.inr (Or.inr rfl), hrunning, hconns, hup, hqueue, hresends, hpending⟩
  · rw [hpc]
    dsimp only
    rw [stepDrainResend, if_pos (by decide), hresend]
    exact ⟨Or.inr (Or.inr rfl), hrunning, hconns, hup, hqueue, hresends, hpending⟩
  · have hstep : s.stepTakePacket = { s with pc := .loopHead } := by
      rw [stepTakePacket, hpending, hsend]
    rw [hpc]
    dsimp only
    rw [hstep]
    exact ⟨Or.inl rfl, hrunning, hconns, hup, hqueue, hresends, hpending⟩

lemma atRest_twoAtATime {n : ℕ} (h : 8 ≤ n) :
    AtRest (runState step oneResendSlot twoAtATime n) := by
  induction n, h using Nat.le_induction with
  | base => exact ⟨Or.inl rfl, rfl, rfl, rfl, rfl, rfl, rfl⟩
  | succ n hn ih =>
    obtain ⟨k, rfl⟩ := Nat.exists_eq_add_of_le' (Nat.one_le_of_lt hn)
    exact atRest_threadStep ih _

lemma up_twoAtATime (n : ℕ) : (runState step oneResendSlot twoAtATime n).running = true
    ∧ (runState step oneResendSlot twoAtATime n).connections = oneResendSlot.connections
    ∧ ((runState step oneResendSlot twoAtATime n).conns 24).connected = true := by
  rcases Nat.lt_or_ge n 8 with hn | hn
  · interval_cases n <;> exact ⟨rfl, rfl, rfl⟩
  · have h := atRest_twoAtATime hn
    exact ⟨h.running, h.connections, h.connected⟩

theorem eventually_resent_twoAtATime :
    ∃ m, 1 ≤ m ∧ ∃ later, (runState step oneResendSlot twoAtATime m).sentOnResend
        = (runState step oneResendSlot twoAtATime 1).sentOnResend ++ later
      ∧ [[1, 2, 3]].Sublist later := by
  have hpackets : ∀ n, ∀ p ∈ (twoAtATime n).packets, p ≠ [] := by
    intro n p hp
    cases n with
    | zero => exact List.mem_singleton.mp hp ▸ by decide
    | succ n => cases hp
  have hkept : ∀ n, twoAtATime n ≠ .cancelWait := by
    intro n
    cases n <;> simp [twoAtATime]
  have hhealthy : ∀ n, 0 ≤ n →
      HealthyResend 24 24 (runState step oneResendSlot twoAtATime n) (twoAtATime n) := by
    intro n _
    obtain ⟨-, hconnections, hconnected⟩ := up_twoAtATime n
    refine ⟨by decide, by rw [hconnections]; decide, by rw [hconnections]; rfl, hconnected,
      fun io hio => ?_, fun io hio _ => ?_⟩
    · cases n <;> cases hio
      rfl
    · cases n <;> cases hio
      exact ⟨rfl, 2, by decide, rfl⟩
  exact eventually_resent initial_oneResendSlot hpackets (fun n => (up_twoAtATime n).1) hkept
    (clockRuns_of_now fun _ => ⟨_, rfl, rfl⟩) hhealthy (Nat.zero_le 1)

end SendThread
end TcpUdp
