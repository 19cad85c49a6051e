import TcpUdp.SendProgress
import Mathlib.Tactic.IntervalCases

/-!
# One healthy connection is enough

A data connection is healthy if it stays in its slot and connected, is not in exponential backoff,
and takes bytes whenever it is asked. With one such connection every packet on the send queue is
written, in order, however the other connections behave and however many resends there are
(`eventually_sent`).
-/

namespace TcpUdp

open Lib

namespace SendThread

variable {s s₀ : SendThread} {u : ℕ → Event} {slot : ℕ} {c : ConnId}

/-! ## What has been queued -/

/-- The packets put on the send queue by the first `n` events. -/
def queued (u : ℕ → Event) : ℕ → List Packet
  | 0 => []
  | n + 1 => queued u n ++ match u n with
    | .enqueueSend data => [data]
    | _ => []

lemma queued_grows (u : ℕ → Event) {n m : ℕ} (h : n ≤ m) : queued u n <+: queued u m := by
  induction m, h using Nat.le_induction with
  | base => exact List.prefix_rfl
  | succ m _ ih => exact ih.trans (List.prefix_append _ _)

/-- Nothing is lost between the send queue and the hand, and the thread does not stop by itself. -/
lemma taken_threadStep (io : Io) : (s.threadStep io).dequeued ++ (s.threadStep io).sendQueue.queue
      = s.dequeued ++ s.sendQueue.queue
    ∧ (s.threadStep io).sendQueue.cancelled = s.sendQueue.cancelled
    ∧ (s.threadStep io).running = s.running := by
  unfold threadStep
  split
  · unfold stepLoopHead
    split_ifs <;> exact ⟨rfl, rfl, rfl⟩
  · unfold stepDrainResend
    split_ifs
    · split
      · exact ⟨rfl, rfl, rfl⟩
      · dsimp only
        split_ifs <;> exact ⟨rfl, rfl, rfl⟩
    · exact ⟨rfl, rfl, rfl⟩
  · rename_i job hpc
    rcases resendAttempt_cases hpc io with ⟨-, -, hstep⟩ | ⟨-, -, hstep⟩ |
      ⟨-, -, c, -, -, ⟨n, -, -, hstep⟩ | ⟨f, -, hstep⟩⟩
    · rw [hstep, resendFailed]
      dsimp only
      split_ifs <;> exact ⟨rfl, rfl, rfl⟩
    all_goals
      rw [hstep]
      exact ⟨rfl, rfl, rfl⟩
  · rename_i job flush hpc
    unfold stepResendFlush
    rcases flushPass_cases s job.data flush io with heq | ⟨-, heq⟩ | ⟨n, -, -, -, heq⟩
    · rw [heq]
      dsimp only
      split_ifs <;> exact ⟨rfl, rfl, rfl⟩
    all_goals
      rw [heq]
      exact ⟨rfl, rfl, rfl⟩
  · unfold stepTakePacket
    split
    · exact ⟨rfl, rfl, rfl⟩
    · split
      · rename_i data sendQueue htake
        refine ⟨?_, ?_, rfl⟩
        · show s.dequeued ++ [data] ++ sendQueue.queue = s.dequeued ++ s.sendQueue.queue
          rw [BlockingQueue.tryDequeue_eq_some htake, List.append_assoc, List.singleton_append]
        · exact BlockingQueue.cancelled_of_tryDequeue htake
      · exact ⟨rfl, rfl, rfl⟩
  · unfold stepStartPacket
    dsimp only
    split_ifs <;> exact ⟨rfl, rfl, rfl⟩
  · rename_i job hpc
    rcases sendAttempt_cases s job io with ⟨-, hstep⟩ | ⟨-, -, hstep⟩ |
      ⟨c, -, -, ⟨n, -, -, hstep⟩ | ⟨f, r, -, -, -, hstep⟩⟩
    all_goals
      rw [hstep]
      exact ⟨rfl, rfl, rfl⟩
  · rename_i job flush hpc
    unfold stepSendFlush
    rcases flushPass_cases s job.data flush io with heq | ⟨-, heq⟩ | ⟨n, -, -, -, heq⟩
    · rw [heq]
      dsimp only
      split_ifs <;> exact ⟨rfl, rfl, rfl⟩
    all_goals
      rw [heq]
      exact ⟨rfl, rfl, rfl⟩
  · exact ⟨rfl, rfl, rfl⟩

/-- Only what is put on the queue is added to what was taken and what waits. -/
lemma taken_step (s : SendThread) (e : Event) :
    (s.step e).dequeued ++ (s.step e).sendQueue.queue
      = s.dequeued ++ s.sendQueue.queue ++ match e with
        | .enqueueSend data => [data]
        | _ => [] := by
  cases e with
  | thread io =>
    rw [List.append_nil]
    exact (taken_threadStep io).1
  | enqueueSend data =>
    rw [List.append_assoc]
    rfl
  | replaceConnection slot c =>
    rw [List.append_nil, step, replaceConnection]
    split_ifs <;> rfl
  | _ =>
    rw [List.append_nil]
    rfl

lemma running_step (s : SendThread) {e : Event} (he : ∀ value, e ≠ .setRunning value) :
    (s.step e).running = s.running := by
  cases e with
  | thread io => exact (taken_threadStep io).2.2
  | replaceConnection slot c =>
    rw [step, replaceConnection]
    split_ifs <;> rfl
  | setRunning value => exact absurd rfl (he value)
  | _ => rfl

lemma taken_grows (s : SendThread) (e : Event) :
    s.dequeued ++ s.sendQueue.queue <+: (s.step e).dequeued ++ (s.step e).sendQueue.queue := by
  rw [taken_step]
  exact List.prefix_append _ _

/-- While the queue is not cancelled, what was put on it was taken off it or is still there. -/
lemma taken_run (hinit : Initial s₀) (hkept : ∀ n, u n ≠ .cancelWait) (n : ℕ) :
    (runState step s₀ u n).dequeued ++ (runState step s₀ u n).sendQueue.queue = queued u n
      ∧ (runState step s₀ u n).sendQueue.cancelled = false := by
  induction n with
  | zero =>
    rw [runState_zero, hinit.dequeued, hinit.sendQueue]
    exact ⟨rfl, rfl⟩
  | succ n ih =>
    obtain ⟨htaken, hopen⟩ := ih
    refine ⟨?_, ?_⟩
    · rw [runState, taken_step, htaken, queued]
    · show (step _ (u n)).sendQueue.cancelled = false
      cases hevent : u n with
      | thread io => exact (taken_threadStep io).2.1.trans hopen
      | cancelWait => exact absurd hevent (hkept n)
      | replaceConnection slot c =>
        rw [step, replaceConnection]
        split_ifs <;> exact hopen
      | _ => exact hopen

lemma completed_step (s : SendThread) (e : Event) : s.completed <+: (s.step e).completed := by
  cases records_step s e with
  | nothing h => rw [h.completed]
  | start hcompleted _ _ _ => rw [hcompleted]
  | byRun _ _ _ hcompleted _ _ _ => exact hcompleted ▸ List.prefix_append _ _
  | byResend _ _ _ _ hcompleted _ _ _ => exact hcompleted ▸ List.prefix_append _ _

/-- What was written on the data connections stays written. -/
lemma sentOnData_step (s : SendThread) (e : Event) : s.sentOnData <+: (s.step e).sentOnData := by
  have hnum : (s.step e).numDataConns = s.numDataConns :=
    numDataConns_of_length (length_connections_step s e)
  rw [sentOnData, sentOnData, hnum]
  exact ((completed_step s e).filter _).map _

lemma sentOnData_run (s₀ : SendThread) (u : ℕ → Event) {n m : ℕ} (h : n ≤ m) :
    (runState step s₀ u n).sentOnData <+: (runState step s₀ u m).sentOnData := by
  induction m, h using Nat.le_induction with
  | base => exact List.prefix_rfl
  | succ m _ ih => exact ih.trans (sentOnData_step _ _)

/-! ## The healthy connection -/

/-- The step sends bytes of a packet on `c`, if it is the thread's. -/
def SendsOn (s : SendThread) (c : ConnId) : Prop :=
  match s.pc with
  | .sendAttempt job => job.connSnap.getD job.idx none = some c
  | .sendFlush _ flush => flush.conn = c
  | _ => False

/-- At a moment of the run: the connection is in its slot, connected and not in backoff, and takes
bytes if it is asked. -/
structure Healthy (slot : ℕ) (c : ConnId) (s : SendThread) (e : Event) : Prop where
  slot_lt : slot < s.numDataConns
  connection : s.connections.getD slot none = some c
  connected : (s.conns c).connected = true
  eligible : ∀ io, e = .thread io → (io.runtimeInfo slot).isInExponentialBackoff = false
  takes : ∀ io, e = .thread io → s.SendsOn c →
    io.writable = true ∧ ∃ n, 0 < n ∧ io.sendResult = .sent n

/-- The attempt loop comes to the slot, if it goes on from place `rank` of its order. -/
structure Reaches (slot : ℕ) (c : ConnId) (numDataConns : ℕ) (job : SendJob) (rank : ℕ) : Prop where
  data : job.data ≠ []
  connSnap : job.connSnap.getD slot none = some c
  length : job.order.length = numDataConns
  later : slot ∈ job.order.drop rank
  scored : 0 ≤ bestScore job.scores → 0 ≤ job.scores.getD slot (-1)

/-- The packet in hand will be sent on the slot at the latest. -/
def Carrying (slot : ℕ) (c : ConnId) (s : SendThread) : Prop :=
  match s.pc with
  | .startPacket data => data ≠ []
  | .sendAttempt job => Reaches slot c s.numDataConns job job.rank
  | .sendFlush job flush => flush.conn = c ∨ Reaches slot c s.numDataConns job (job.rank + 1)
  | _ => False

/-- A connection that takes bytes is sent some. -/
lemma sendTcpDirect_healthy {conn : TcpConnection} {data : List UInt8} {n : ℕ}
    (hconn : conn.connected = true) (hdata : data ≠ []) (hn : 0 < n) :
    sendTcpDirect conn data (.sent n) = (.sent (min n data.length),
      { conn with written := conn.written ++ data.take (min n data.length) })
      ∧ 0 < min n data.length := by
  rw [sendTcpDirect, if_pos hconn]
  exact ⟨rfl, lt_min hn (List.length_pos_iff.mpr hdata)⟩

/-- The loop goes to the next place, or it is at the slot. -/
lemma Reaches.next {job : SendJob} {numDataConns : ℕ}
    (h : Reaches slot c numDataConns job job.rank) (hidx : job.idx ≠ slot) :
    Reaches slot c numDataConns job (job.rank + 1) := by
  refine ⟨h.data, h.connSnap, h.length, ?_, h.scored⟩
  have hlater := h.later
  have hlt : job.rank < job.order.length := by
    by_contra hge
    rw [List.drop_of_length_le (not_lt.mp hge)] at hlater
    cases hlater
  rw [List.drop_eq_getElem_cons hlt, List.mem_cons] at hlater
  refine hlater.resolve_left fun heq => hidx ?_
  rw [heq, SendJob.idx, List.getD_eq_getElem _ _ hlt]

lemma Reaches.goesOn {job : SendJob} {numDataConns : ℕ}
    (h : Reaches slot c numDataConns job (job.rank + 1)) :
    Reaches slot c numDataConns job.next job.next.rank :=
  ⟨h.data, h.connSnap, h.length, h.later, h.scored⟩

lemma Reaches.rank_lt {job : SendJob} {numDataConns : ℕ}
    (h : Reaches slot c numDataConns job job.rank) : job.rank < numDataConns := by
  by_contra hge
  have hlater := h.later
  rw [List.drop_of_length_le (by rw [h.length]; exact not_lt.mp hge)] at hlater
  cases hlater

/-- At the slot itself the loop neither skips nor fails. -/
lemma Reaches.not_skips {job : SendJob} (h : Reaches slot c s.numDataConns job job.rank)
    (hidx : job.idx = slot) (hconn : (s.conns c).connected = true) : s.skips job = false := by
  rw [skips, hidx, h.connSnap]
  split_ifs with hbest
  · exact decide_eq_false (not_lt.mpr (h.scored hbest))
  · rw [isConnected, hconn]
    rfl

lemma carrying_stepStartPacket {data : Packet} {io : Io}
    (hhealthy : Healthy slot c s (.thread io)) (hrunning : s.running = true)
    (hnull : none ∉ s.connections) (hdata : data ≠ []) :
    Carrying slot c (s.stepStartPacket data io) := by
  have hne : s.connections ≠ [] := by
    intro hnil
    have hslot := hhealthy.slot_lt
    rw [numDataConns, hnil] at hslot
    exact absurd hslot (Nat.not_lt_zero _)
  have hfirst : ¬ (s.numDataConns = 0 ∨ s.connections.getD 0 none = none) := by
    rintro (hzero | hnone)
    · exact absurd hzero (Nat.ne_of_gt (numDataConns_pos hne))
    · obtain ⟨first, rest, hconns⟩ := List.exists_cons_of_ne_nil hne
      rw [hconns] at hnone hnull
      have hfirst : first = none := hnone
      exact hnull (hfirst ▸ List.mem_cons_self)
  have hlength : ((List.range s.numDataConns).map
      fun i => s.rateConnection s.connections io i).length = s.numDataConns := by
    rw [List.length_map, List.length_range]
  unfold stepStartPacket
  dsimp only
  rw [if_pos hrunning, if_neg hfirst]
  have hperm := connectionOrder_perm
    ((List.range s.numDataConns).map fun i => s.rateConnection s.connections io i) s.roundRobinStart
  rw [hlength] at hperm
  refine ⟨hdata, hhealthy.connection, ?_, ?_, fun _ => ?_⟩
  · exact hperm.length_eq.trans List.length_range
  · rw [List.drop_zero]
    exact hperm.mem_iff.mpr (List.mem_range.mpr hhealthy.slot_lt)
  · rw [List.getD_eq_getElem?_getD, List.getElem?_map, List.getElem?_range hhealthy.slot_lt]
    show 0 ≤ s.rateConnection s.connections io slot
    rw [rateConnection, hhealthy.connection]
    dsimp only
    rw [if_pos hhealthy.connected, rateConnected, if_neg (by rw [hhealthy.eligible io rfl]; decide)]
    dsimp only
    split_ifs <;> omega

lemma carrying_stepSendAttempt {job : SendJob} {io : Io}
    (hhealthy : Healthy slot c s (.thread io)) (hpc : s.pc = .sendAttempt job)
    (hreaches : Reaches slot c s.numDataConns job job.rank) :
    Carrying slot c (s.stepSendAttempt job io) := by
  by_cases hidx : job.idx = slot
  · -- the slot takes the first bytes
    have hslot : job.connSnap.getD job.idx none = some c := hidx ▸ hreaches.connSnap
    obtain ⟨-, n, hn, hsent⟩ := hhealthy.takes io rfl (by rw [SendsOn, hpc]; exact hslot)
    obtain ⟨hsend, hpos⟩ := sendTcpDirect_healthy hhealthy.connected hreaches.data hn
    rcases sendAttempt_cases s job io with ⟨hend, -⟩ | ⟨-, hskip | hnone, -⟩ |
      ⟨c', -, hc', ⟨k, -, -, hstep⟩ | ⟨f, r, -, hnothing, hsame, -⟩⟩
    · exact absurd hreaches.rank_lt hend
    · rw [hreaches.not_skips hidx hhealthy.connected] at hskip
      cases hskip
    · rw [hslot] at hnone
      cases hnone
    · rw [hstep]
      exact Or.inl (Option.some.inj (hc'.symm.trans hslot))
    · obtain rfl := Option.some.inj (hc'.symm.trans hslot)
      rw [hsent, hsend] at hsame
      have hzero := hnothing _ (congrArg Prod.fst hsame).symm
      omega
  · rcases sendAttempt_cases s job io with ⟨hend, -⟩ | ⟨-, -, hstep⟩ |
      ⟨c', -, -, ⟨k, -, -, hstep⟩ | ⟨f, r, -, -, -, hstep⟩⟩
    · exact absurd hreaches.rank_lt hend
    · rw [hstep]
      exact (hreaches.next hidx).goesOn
    · rw [hstep]
      exact Or.inr (hreaches.next hidx)
    · rw [hstep]
      exact (hreaches.next hidx).goesOn

/-- A partial send on the healthy connection does not end before its last byte. -/
lemma flushPass_healthy {data : Packet} {flush : Flush} {io : Io}
    (hconn : (s.conns flush.conn).connected = true) (hrunning : s.running = true)
    (hwritable : io.writable = true) {n : ℕ} (hn : 0 < n) (hsent : io.sendResult = .sent n)
    (hleave : (s.flushPass data flush io).2 = .leave) : ¬ flush.totalSent < data.length := by
  intro hlt
  have hdata : data.drop flush.totalSent ≠ [] := by
    intro hnil
    exact absurd (List.drop_eq_nil_iff.mp hnil) (not_le.mpr hlt)
  obtain ⟨hsend, hpos⟩ := sendTcpDirect_healthy hconn hdata hn
  rw [flushPass] at hleave
  dsimp only at hleave
  rw [if_pos hlt, hconn, hrunning, hwritable, hsent, hsend] at hleave
  simp only [Bool.not_true, Bool.or_self, Bool.false_eq_true, if_false, if_pos hpos] at hleave
  cases hleave

/-- The packet is written out, or it is still on its way. -/
lemma carrying_stepSendFlush {job : SendJob} {flush : Flush} {io : Io}
    (hhealthy : Healthy slot c s (.thread io)) (hrunning : s.running = true)
    (hpc : s.pc = .sendFlush job flush) (horder : ∀ i ∈ job.order, i < s.numDataConns)
    (hcarrying : flush.conn = c ∨ Reaches slot c s.numDataConns job (job.rank + 1)) :
    (∃ p, (s.stepSendFlush job flush io).sentOnData = s.sentOnData ++ [p])
      ∨ Carrying slot c (s.stepSendFlush job flush io) := by
  have hidx : job.idx < s.numDataConns := by
    rw [SendJob.idx, List.getD_eq_getElem?_getD]
    cases hget : job.order[job.rank]? with
    | none => exact Nat.zero_lt_of_lt hhealthy.slot_lt
    | some i => exact horder i (List.mem_of_getElem? hget)
  have hleaves : s.flushPass job.data flush io = (s, .leave) → flush.conn = c →
      ¬ flush.totalSent < job.data.length := by
    intro heq hconn
    obtain ⟨hwritable, n, hn, hsent⟩ := hhealthy.takes io rfl (by rw [SendsOn, hpc]; exact hconn)
    exact flushPass_healthy (hconn ▸ hhealthy.connected) hrunning hwritable hn hsent (by rw [heq])
  unfold stepSendFlush
  rcases flushPass_cases s job.data flush io with heq | ⟨-, heq⟩ | ⟨n, -, -, -, heq⟩
  · rw [heq]
    dsimp only
    split_ifs with hshort
    · exact Or.inr (hcarrying.resolve_left fun hconn => hleaves heq hconn hshort).goesOn
    · refine Or.inl ⟨job.data, ?_⟩
      rw [sentOnData_append (s := s) (e := ⟨.data, job.idx, flush.conn, job.data⟩) (by rfl)
        (by rfl), if_pos hidx]
  · rw [heq]
    exact Or.inr hcarrying
  · rw [heq]
    exact Or.inr hcarrying

/-- What other threads do leaves the packet on its way. -/
lemma carrying_of_pc {s' : SendThread} (h : Carrying slot c s) (hpc : s'.pc = s.pc)
    (hnum : s'.numDataConns = s.numDataConns) : Carrying slot c s' := by
  rw [Carrying, hpc, hnum]
  exact h

lemma carrying_step (hcarrying : Carrying slot c s) {e : Event} (hhealthy : Healthy slot c s e)
    (hrunning : s.running = true) (horder : DataInOrder False s) :
    (∃ p, (s.step e).sentOnData = s.sentOnData ++ [p]) ∨ Carrying slot c (s.step e) := by
  by_cases hthread : ∃ io, e = .thread io
  swap
  · right
    apply carrying_of_pc hcarrying (pc_step_of_ne fun io heq => hthread ⟨io, heq⟩)
    exact numDataConns_of_length (length_connections_step s e)
  obtain ⟨io, rfl⟩ := hthread
  show (∃ p, (s.threadStep io).sentOnData = s.sentOnData ++ [p])
    ∨ Carrying slot c (s.threadStep io)
  unfold Carrying at hcarrying
  rw [threadStep]
  cases hpc : s.pc with
  | startPacket data =>
    rw [hpc] at hcarrying
    exact Or.inr (carrying_stepStartPacket hhealthy hrunning horder.noNull hcarrying)
  | sendAttempt job =>
    rw [hpc] at hcarrying
    exact Or.inr (carrying_stepSendAttempt hhealthy hpc hcarrying)
  | sendFlush job flush =>
    rw [hpc] at hcarrying
    refine carrying_stepSendFlush hhealthy hrunning hpc ?_ hcarrying
    have hjob := horder.jobOrder
    rw [SendThread.jobOrder, hpc] at hjob
    exact hjob
  | _ =>
    rw [hpc] at hcarrying
    exact hcarrying.elim

/-! ## Runs -/

section Run

variable {first : ℕ}

/-- There is a data connection in the run, so there was one at its start. -/
lemma Healthy.connections_ne_nil {n : ℕ} {e : Event}
    (h : Healthy slot c (runState step s₀ u n) e) : s₀.connections ≠ [] := by
  intro hnil
  have hslot := h.slot_lt
  rw [numDataConns_run, numDataConns, hnil] at hslot
  exact absurd hslot (Nat.not_lt_zero _)

lemma length_sentOnData_run (s₀ : SendThread) (u : ℕ → Event) {k n m : ℕ} (h : n ≤ m)
    (hk : k ≤ (runState step s₀ u n).sentOnData.length) :
    k ≤ (runState step s₀ u m).sentOnData.length :=
  hk.trans (sentOnData_run s₀ u h).length_le

lemma Initial.dataInOrder {toldToStop : Prop} (hinit : Initial s₀)
    (hnonempty : s₀.connections ≠ []) (hnull : none ∉ s₀.connections) :
    DataInOrder toldToStop s₀ := by
  have hdata : s₀.dataPacket = none := by simp only [dataPacket, hinit.pc]
  refine ⟨hnonempty, hnull, fun i hi => ?_, fun hne => absurd hdata hne, none, ?_, Or.inl ?_⟩
  · simp [jobOrder, hinit.pc] at hi
  · simp [sentOnData, hinit.dequeued, hinit.completed]
  · simp [inHand, hdata, hinit.pendingDataVec]

/-- The thread is not told to stop, so nothing is dropped. -/
lemma dataInOrder_run (hinit : Initial s₀) (hnonempty : s₀.connections ≠ [])
    (hnull : none ∉ s₀.connections) (hrunning : ∀ n, (runState step s₀ u n).running = true)
    (n : ℕ) : DataInOrder False (runState step s₀ u n) := by
  induction n with
  | zero => exact hinit.dataInOrder hnonempty hnull
  | succ n ih =>
    exact dataInOrder_step ih (fun hstop => absurd (hstop.symm.trans (hrunning n)) (by decide)) (u n)

lemma holds_run {P : Packet → Prop} (hinit : Initial s₀) (hpackets : ∀ n, ∀ p ∈ (u n).packets, P p)
    (n : ℕ) : Holds P (runState step s₀ u n) := by
  refine runState_invariant (P := Holds P) (Q := fun e : Event => ∀ p ∈ e.packets, P p) ?_
    (fun _ _ he h => holds_step h he) hpackets n
  refine ⟨?_, ?_, ?_, ?_⟩
  · simp [hinit.sendQueue]
  · simp [hinit.resendQueue]
  · simp [hinit.pendingDataVec]
  · simp [currentPacket, hinit.pc]

/-- A packet on its way is written. -/
lemma leadsTo_sent (hclock : ClockRuns u)
    (hrunning : ∀ n, (runState step s₀ u n).running = true)
    (horder : ∀ n, DataInOrder False (runState step s₀ u n))
    (hhealthy : ∀ n, first ≤ n → Healthy slot c (runState step s₀ u n) (u n)) (k : ℕ) :
    LeadsTo (fun n => first ≤ n ∧ Carrying slot c (runState step s₀ u n)
        ∧ k ≤ (runState step s₀ u n).sentOnData.length)
      fun n => k < (runState step s₀ u n).sentOnData.length := by
  apply leadsTo_of_rank hclock
  · rintro n ⟨-, hcarrying, -⟩
    rw [Carrying] at hcarrying
    constructor
    · intro hpc
      rw [hpc] at hcarrying
      exact hcarrying
    · intro hpc
      rw [hpc] at hcarrying
      exact hcarrying
  · rintro n ⟨hn, hcarrying, hk⟩
    rcases carrying_step hcarrying (hhealthy n hn) (hrunning n) (horder n) with ⟨p, hsent⟩ | hcarrying'
    · left
      show k < (step _ (u n)).sentOnData.length
      rw [hsent, List.length_append, List.length_singleton]
      omega
    · exact Or.inr ⟨hn.trans n.le_succ, hcarrying', length_sentOnData_run s₀ u n.le_succ hk⟩

/-- A thread at its send queue takes the next packet, if one is waiting. -/
lemma leadsTo_carrying (slot first : ℕ) (c : ConnId) (hinit : Initial s₀) (hclock : ClockRuns u)
    (hkept : ∀ n, u n ≠ .cancelWait)
    (hpackets : ∀ n, ∀ p ∈ (u n).packets, p ≠ [])
    (horder : ∀ n, DataInOrder False (runState step s₀ u n)) (k : ℕ) :
    LeadsTo (fun n => (runState step s₀ u n).pc = .takePacket ∧ first ≤ n
        ∧ k ≤ (runState step s₀ u n).sentOnData.length ∧ k < (queued u n).length)
      fun n => k < (runState step s₀ u n).sentOnData.length
        ∨ first ≤ n ∧ Carrying slot c (runState step s₀ u n)
          ∧ k ≤ (runState step s₀ u n).sentOnData.length := by
  -- a step of the thread takes a packet in hand
  have htakes : ∀ n io, u n = .thread io → first ≤ n → (runState step s₀ u n).pc = .takePacket →
      k ≤ (runState step s₀ u n).sentOnData.length → k < (queued u n).length →
      k < (runState step s₀ u (n + 1)).sentOnData.length
        ∨ first ≤ n + 1 ∧ Carrying slot c (runState step s₀ u (n + 1))
          ∧ k ≤ (runState step s₀ u (n + 1)).sentOnData.length := by
    intro n io hio hn hpc hk hqueued
    have hk' := length_sentOnData_run s₀ u n.le_succ hk
    by_cases hless : k < (runState step s₀ u n).sentOnData.length
    · exact Or.inl (length_sentOnData_run s₀ u n.le_succ hless)
    refine Or.inr ⟨hn.trans n.le_succ, ?_, hk'⟩
    obtain ⟨htaken, hopen⟩ := taken_run hinit hkept n
    have hholds := holds_run hinit hpackets n
    have hdequeued := (horder n).order_of_ne (by rw [hpc]; simp)
    have hnext : runState step s₀ u (n + 1) = (runState step s₀ u n).stepTakePacket := by
      rw [runState, hio, step, threadStep, hpc]
    rw [hnext]
    unfold stepTakePacket
    split
    · rename_i data hpending
      exact hholds.pendingDataVec data hpending
    · rename_i hpending
      have hhand : (runState step s₀ u n).inHand = none := by
        rw [inHand, dataPacket, hpc, hpending]
        rfl
      rw [hhand, Option.toList_none, List.append_nil] at hdequeued
      cases hqueue : (runState step s₀ u n).sendQueue.queue with
      | nil =>
        rw [hqueue, List.append_nil] at htaken
        rw [← htaken, hdequeued] at hqueued
        omega
      | cons data rest =>
        have htake : (runState step s₀ u n).sendQueue.tryDequeue
            = some (data, { (runState step s₀ u n).sendQueue with
              queue := rest
              approxQueueSize := (runState step s₀ u n).sendQueue.approxQueueSize - 1 }) := by
          rw [BlockingQueue.tryDequeue, hqueue]
          dsimp only
          rw [hopen, if_neg (by decide)]
        rw [htake]
        exact hholds.sendQueue data (hqueue ▸ List.mem_cons_self)
  refine LeadsTo.of_measure (fun n => (runState step s₀ u n).pc) Pc.rank ?_ ?_
  · rintro n ⟨hpc, hn, hk, hqueued⟩
    by_cases hthread : ∃ io, u n = .thread io
    · obtain ⟨io, hio⟩ := hthread
      exact Or.inl (htakes n io hio hn hpc hk hqueued)
    · have hsame : (runState step s₀ u (n + 1)).pc = (runState step s₀ u n).pc :=
        pc_step_of_ne fun io heq => hthread ⟨io, heq⟩
      refine Or.inr ⟨⟨hsame.trans hpc, hn.trans n.le_succ, ?_, ?_⟩, Or.inl hsame⟩
      · exact length_sentOnData_run s₀ u n.le_succ hk
      · exact lt_of_lt_of_le hqueued (queued_grows u n.le_succ).length_le
  · rintro n -
    obtain ⟨m, hm, io, hio⟩ := hclock.scheduled n
    refine ⟨m, hm, ?_⟩
    rintro ⟨hpc, hfirst, hk, hqueued⟩ -
    exact Or.inl (htakes m io hio hfirst hpc hk hqueued)

/-- Of the packets put on the send queue, one more is written, and so any number of them. -/
lemma exists_sent (hinit : Initial s₀) (hnull : none ∉ s₀.connections)
    (hpackets : ∀ n, ∀ p ∈ (u n).packets, p ≠ [])
    (hrunning : ∀ n, (runState step s₀ u n).running = true) (hkept : ∀ n, u n ≠ .cancelWait)
    (hclock : ClockRuns u)
    (hhealthy : ∀ n, first ≤ n → Healthy slot c (runState step s₀ u n) (u n)) (n k : ℕ)
    (hk : k ≤ (queued u n).length) :
    ∃ m, max n first ≤ m ∧ k ≤ (runState step s₀ u m).sentOnData.length := by
  have horder := dataInOrder_run hinit (hhealthy first le_rfl).connections_ne_nil hnull hrunning
  have hstart : s₀.pc ≠ .stopped := by
    rw [hinit.pc]
    simp
  have hmore : ∀ k, LeadsTo (fun n => True ∧ first ≤ n
      ∧ k ≤ (runState step s₀ u n).sentOnData.length ∧ k < (queued u n).length)
      fun n => k < (runState step s₀ u n).sentOnData.length := by
    intro k
    have hcomes := (leadsTo_takePacket hclock hrunning hstart).and_stable
      (R := fun n => first ≤ n ∧ k ≤ (runState step s₀ u n).sentOnData.length
        ∧ k < (queued u n).length) (by
          rintro n ⟨hn, hk, hqueued⟩
          exact ⟨hn.trans n.le_succ, length_sentOnData_run s₀ u n.le_succ hk,
            hqueued.trans_le (queued_grows u n.le_succ).length_le⟩)
    have hcarrying := leadsTo_carrying slot first c hinit hclock hkept hpackets horder k
    exact (hcomes.trans hcarrying).cancel (leadsTo_sent hclock hrunning horder hhealthy k)
  induction k with
  | zero => exact ⟨max n first, le_rfl, Nat.zero_le _⟩
  | succ k ih =>
    obtain ⟨m, hm, hsent⟩ := ih (by omega)
    have hqueued := (queued_grows u ((le_max_left n first).trans hm)).length_le
    obtain ⟨i, hi, hsent'⟩ := hmore k m ⟨trivial, (le_max_right n first).trans hm, hsent, by omega⟩
    exact ⟨i, hm.trans hi, hsent'⟩

/-- What is written was put on the send queue, in the same order. -/
lemma sentOnData_prefix_queued {n : ℕ} (hinit : Initial s₀) (hkept : ∀ n, u n ≠ .cancelWait)
    (horder : DataInOrder False (runState step s₀ u n)) :
    (runState step s₀ u n).sentOnData <+: queued u n := by
  obtain ⟨htaken, -⟩ := taken_run hinit hkept n
  obtain ⟨last, hlast, -⟩ := horder.order
  rw [← htaken, hlast, List.append_assoc]
  exact List.prefix_append _ _

/-- In every run in which the thread is scheduled, its clock runs, and it is not told to stop: with
a data connection that is healthy from some moment on, all that is put on the send queue is written
on the data connections, in order. -/
theorem eventually_sent (hinit : Initial s₀) (hnull : none ∉ s₀.connections)
    (hpackets : ∀ n, ∀ p ∈ (u n).packets, p ≠ [])
    (hrunning : ∀ n, (runState step s₀ u n).running = true) (hkept : ∀ n, u n ≠ .cancelWait)
    (hclock : ClockRuns u)
    (hhealthy : ∀ n, first ≤ n → Healthy slot c (runState step s₀ u n) (u n)) (n : ℕ) :
    ∃ m, queued u n <+: (runState step s₀ u m).sentOnData := by
  have horder := dataInOrder_run hinit (hhealthy first le_rfl).connections_ne_nil hnull hrunning
  obtain ⟨m, hm, hlength⟩ := exists_sent hinit hnull hpackets hrunning hkept hclock hhealthy n _
    le_rfl
  have hsent := sentOnData_prefix_queued hinit hkept (horder m)
  exact ⟨m, List.prefix_of_prefix_length_le (queued_grows u ((le_max_left n first).trans hm))
    hsent hlength⟩

end Run

/-! ## A run on one connection -/

/-- One packet of three bytes, and a socket that takes two bytes at a time. -/
def alwaysTakes : ℕ → Event
  | 0 => .enqueueSend [1, 2, 3]
  | n + 1 => .thread { sendResult := .sent 2, writable := true, now := n }

/-- The thread has nothing to send, and its connection is up. -/
structure Idle (s : SendThread) : Prop where
  pc : s.pc = .loopHead ∨ s.pc = .takePacket
  running : s.running = true
  connections : s.connections = [some 0]
  connected : (s.conns 0).connected = true
  sendQueue : s.sendQueue.queue = []
  pendingDataVec : s.pendingDataVec = none

lemma idle_threadStep (h : Idle s) (io : Io) : Idle (s.threadStep io) := by
  have hnone : s.anyResendAlive = false := by rw [anyResendAlive, h.connections]; rfl
  have hempty : s.sendQueue.tryDequeue = none := by rw [BlockingQueue.tryDequeue, h.sendQueue]
  rw [threadStep]
  rcases h.pc with hpc | hpc
  · rw [hpc]
    dsimp only
    rw [stepLoopHead, if_pos h.running, hnone, if_neg (by decide)]
    exact ⟨Or.inr rfl, h.running, h.connections, h.connected, h.sendQueue, h.pendingDataVec⟩
  · rw [hpc]
    dsimp only
    have hstep : s.stepTakePacket = { s with pc := .loopHead } := by
      rw [stepTakePacket, h.pendingDataVec, hempty]
    rw [hstep]
    exact ⟨Or.inl rfl, h.running, h.connections, h.connected, h.sendQueue, h.pendingDataVec⟩

lemma idle_alwaysTakes {n : ℕ} (h : 7 ≤ n) : Idle (runState step oneConnection alwaysTakes n) := by
  induction n, h using Nat.le_induction with
  | base => exact ⟨Or.inl rfl, rfl, rfl, rfl, rfl, rfl⟩
  | succ n hn ih =>
    obtain ⟨k, rfl⟩ := Nat.exists_eq_add_of_le' (Nat.one_le_of_lt hn)
    exact idle_threadStep ih _

lemma up_alwaysTakes (n : ℕ) : (runState step oneConnection alwaysTakes n).running = true
    ∧ (runState step oneConnection alwaysTakes n).connections = [some 0]
    ∧ ((runState step oneConnection alwaysTakes n).conns 0).connected = true := by
  rcases Nat.lt_or_ge n 7 with hn | hn
  · interval_cases n <;> exact ⟨rfl, rfl, rfl⟩
  · have h := idle_alwaysTakes hn
    exact ⟨h.running, h.connections, h.connected⟩

/-- From the second event on the thread runs alone, and its clock counts its steps. -/
lemma clockRuns_of_now (h : ∀ n : ℕ, ∃ io, u (n + 1) = .thread io ∧ io.now = n) :
    ClockRuns u where
  scheduled n := by
    obtain ⟨io, hio, -⟩ := h n
    exact ⟨n + 1, n.le_succ, io, hio⟩
  passes time := by
    refine ⟨time.toNat + 1, fun k io hk hio => ?_⟩
    obtain ⟨k, rfl⟩ := Nat.exists_eq_add_of_le' (Nat.one_le_of_lt hk)
    obtain ⟨io', hio', hnow⟩ := h k
    obtain rfl := Event.thread.inj (hio.symm.trans hio')
    rw [hnow]
    omega

theorem eventually_sent_alwaysTakes :
    ∃ m, [[1, 2, 3]] <+: (runState step oneConnection alwaysTakes m).sentOnData := by
  have hpackets : ∀ n, ∀ p ∈ (alwaysTakes n).packets, p ≠ [] := by
    intro n p hp
    cases n with
    | zero => exact List.mem_singleton.mp hp ▸ by decide
    | succ n => cases hp
  have hkept : ∀ n, alwaysTakes n ≠ .cancelWait := by
    intro n
    cases n <;> simp [alwaysTakes]
  have hhealthy : ∀ n, 0 ≤ n →
      Healthy 0 0 (runState step oneConnection alwaysTakes n) (alwaysTakes n) := by
    intro n _
    obtain ⟨-, hconnections, hconnected⟩ := up_alwaysTakes n
    refine ⟨?_, by rw [hconnections]; rfl, hconnected, fun io hio => ?_, fun io hio _ => ?_⟩
    · rw [numDataConns_run]
      decide
    · cases n <;> cases hio
      rfl
    · cases n <;> cases hio
      exact ⟨rfl, 2, by decide, rfl⟩
  exact eventually_sent initial_oneConnection (by decide) hpackets
    (fun n => (up_alwaysTakes n).1) hkept (clockRuns_of_now fun _ => ⟨_, rfl, rfl⟩) hhealthy 1

end SendThread
end TcpUdp
