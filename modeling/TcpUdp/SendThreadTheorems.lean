import TcpUdp.SendThread

/-!
# What the send thread does to the streams and to the packets

The thread is an instance of `Lib.StreamWriter`: `writer_step` shows that each step of the
thread, and each action of another thread, is one step of the abstract writer. The packets
it writes are packets that were put on one of its queues (`holds_step`).

For normal sends there is more to say. A packet taken from `sendQueue` is either written
out or still in hand, so the packets written on the data connections and the packet in hand
are the packets dequeued, in order (`DataInOrder`). Only a thread that is told to stop lets
go of the packet in hand.
-/

namespace TcpUdp
namespace SendThread

open Lib

variable {P : Packet → Prop} {s : SendThread}

/-- The thread as a writer of packets to byte streams. -/
def writer (s : SendThread) : StreamWriter ConnId UInt8 where
  written c := (s.conns c).written
  connected c := (s.conns c).connected
  flushing := s.flushing
  completed := s.completed.map fun e => (e.conn, e.packet)

/-- The packet the thread is busy with. -/
def currentPacket (s : SendThread) : Option Packet :=
  match s.pc with
  | .resendAttempt job => some job.data
  | .resendFlush job _ => some job.data
  | .startPacket data => some data
  | .sendAttempt job => some job.data
  | .sendFlush job _ => some job.data
  | _ => none

/-- Every packet in the queues and in the thread satisfies `P`. -/
structure Holds (P : Packet → Prop) (s : SendThread) : Prop where
  sendQueue : ∀ p ∈ s.sendQueue.queue, P p
  resendQueue : ∀ p ∈ s.resendQueue.queue, P p
  pendingDataVec : ∀ p, s.pendingDataVec = some p → P p
  currentPacket : ∀ p, s.currentPacket = some p → P p

/-! ## The elementary actions -/

@[simp] lemma conns_setConn (s : SendThread) (c : ConnId) (f : TcpConnection → TcpConnection) :
    (s.setConn c f).conns = Function.update s.conns c (f (s.conns c)) := rfl

lemma setConn_self (c : ConnId) : (s.setConn c fun _ => s.conns c) = s := by
  rw [setConn, Function.update_eq_self]

/-- A change to a connection that writes nothing and does not connect it. -/
def Calm (f : TcpConnection → TcpConnection) : Prop :=
  ∀ conn, (f conn).written = conn.written ∧ ((f conn).connected = true → conn.connected = true)

lemma calm_disconnect : Calm TcpConnection.disconnect :=
  fun _ => ⟨rfl, fun h => absurd h (by simp [TcpConnection.disconnect])⟩

lemma calm_countFailure : Calm TcpConnection.countFailure := fun _ => ⟨rfl, fun h => h⟩

lemma calm_countSent (messageId : ℕ) (nowMs : ℤ) :
    Calm fun conn => conn.countSent messageId nowMs := fun _ => ⟨rfl, fun h => h⟩

lemma Calm.comp {f g : TcpConnection → TcpConnection} (hf : Calm f) (hg : Calm g) :
    Calm fun conn => f (g conn) :=
  fun conn => ⟨(hf (g conn)).1.trans (hg conn).1, fun h => (hg conn).2 ((hf (g conn)).2 h)⟩

lemma Calm.setConn {f : TcpConnection → TcpConnection} (hf : Calm f) (s : SendThread)
    (c c' : ConnId) : ((s.setConn c f).conns c').written = (s.conns c').written
      ∧ (((s.setConn c f).conns c').connected = true → (s.conns c').connected = true) := by
  rw [conns_setConn, Function.update_apply]
  split_ifs with h
  · rw [h]; exact hf _
  · exact ⟨rfl, fun h => h⟩

/-- Either at least one byte goes out on a connected socket, or nothing changes. -/
lemma sendTcpDirect_cases (conn : TcpConnection) (data : List UInt8) (result : SendResult) :
    (∃ n, 0 < n ∧ n ≤ data.length ∧ conn.connected = true ∧
      sendTcpDirect conn data result
        = (.sent n, { conn with written := conn.written ++ data.take n })) ∨
    (∃ r, (∀ n, r = .sent n → n = 0) ∧ sendTcpDirect conn data result = (r, conn)) := by
  unfold sendTcpDirect
  by_cases hconn : conn.connected = true
  · rw [if_pos hconn]
    cases result with
    | sent n =>
      rcases Nat.eq_zero_or_pos (min n data.length) with h | h
      · refine Or.inr ⟨.sent 0, fun m hm => (SendResult.sent.inj hm).symm, ?_⟩
        dsimp only
        rw [h, List.take_zero, List.append_nil]
      · exact Or.inl ⟨_, h, Nat.min_le_right _ _, hconn, rfl⟩
    | wouldBlock => exact Or.inr ⟨.wouldBlock, fun _ h => (nomatch h), rfl⟩
    | closed => exact Or.inr ⟨.closed, fun _ h => (nomatch h), rfl⟩
    | interrupted => exact Or.inr ⟨.interrupted, fun _ h => (nomatch h), rfl⟩
  · rw [if_neg hconn]
    exact Or.inr ⟨.closed, fun _ h => (nomatch h), rfl⟩

/-- A pass of the partial-send loop changes nothing, or writes the next bytes of the
packet on the same connection. The loop is only repeated while bytes are missing. -/
lemma flushPass_cases (s : SendThread) (data : Packet) (flush : Flush) (io : Io) :
    s.flushPass data flush io = (s, .leave) ∨
    (flush.totalSent < data.length ∧ s.flushPass data flush io = (s, .again flush)) ∨
    ∃ n, 0 < n ∧ flush.totalSent + n ≤ data.length ∧
      (s.conns flush.conn).connected = true ∧
      s.flushPass data flush io =
        (s.setConn flush.conn fun conn =>
            { conn with written := conn.written ++ (data.drop flush.totalSent).take n },
          .again { flush with totalSent := flush.totalSent + n }) := by
  rw [flushPass]
  dsimp only
  by_cases hlt : flush.totalSent < data.length
  swap
  · exact Or.inl (if_neg hlt)
  -- the two places where the budget decides
  have hwait : ∀ x, x = (if io.now - flush.partialStart ≥ partialSendBudgetMs then (s, .leave)
      else (s, .again flush) : SendThread × FlushStep) →
      x = (s, .leave) ∨ (flush.totalSent < data.length ∧ x = (s, .again flush)) := by
    rintro x rfl
    split_ifs
    · exact Or.inl rfl
    · exact Or.inr ⟨hlt, rfl⟩
  rw [if_pos hlt]
  split
  · exact Or.inl rfl
  split
  · exact (hwait _ rfl).imp_right Or.inl
  rcases sendTcpDirect_cases (s.conns flush.conn) (data.drop flush.totalSent)
    io.sendResult with ⟨n, hn, hle, hconn, heq⟩ | ⟨r, hr, heq⟩
  · rw [List.length_drop] at hle
    refine Or.inr (Or.inr ⟨n, hn, by omega, hconn, ?_⟩)
    rw [heq]
    exact if_pos hn
  · rw [heq, setConn_self]
    cases r with
    | sent n =>
      rw [hr n rfl]
      exact Or.inl rfl
    | closed => exact Or.inl rfl
    | wouldBlock => exact (hwait _ rfl).imp_right Or.inl
    | interrupted => exact (hwait _ rfl).imp_right Or.inl

/-! ## The thread is a stream writer -/

lemma quiet_step {s' : SendThread}
    (hconns : ∀ c, (s'.conns c).written = (s.conns c).written
      ∧ ((s'.conns c).connected = true → (s.conns c).connected = true))
    (hflushing : s'.flushing = s.flushing) (hcompleted : s'.completed = s.completed) :
    StreamWriter.Step P s.writer s'.writer := by
  refine .quiet _ _ (funext fun c => (hconns c).1) hflushing ?_ fun c => (hconns c).2
  show s'.completed.map _ = s.completed.map _
  rw [hcompleted]

/-- Nothing happens to the connections and no packet is begun or ended. -/
lemma quiet_step_of_eq {s' : SendThread} (hconns : s'.conns = s.conns)
    (hflushing : s'.flushing = s.flushing) (hcompleted : s'.completed = s.completed) :
    StreamWriter.Step P s.writer s'.writer :=
  quiet_step (fun c => by rw [hconns]; exact ⟨rfl, fun h => h⟩) hflushing hcompleted

/-- The streams after `bytes` were written on `c`. -/
lemma writer_write {s' : SendThread} {c : ConnId} {bytes : List UInt8}
    (hconns : s'.conns = Function.update s.conns c
      { s.conns c with written := (s.conns c).written ++ bytes }) :
    s'.writer.written = Function.update s.writer.written c (s.writer.written c ++ bytes)
      ∧ s'.writer.connected = s.writer.connected := by
  constructor <;> funext c' <;> simp only [writer, hconns, Function.update_apply]
  · split_ifs <;> rfl
  · split_ifs with h
    · rw [h]
    · rfl

/-- The first bytes of a packet go out on `c`. -/
lemma start_step {s' : SendThread} {c : ConnId} {data : Packet} {n : ℕ} (hP : P data)
    (hidle : s.flushing = none) (hconn : (s.conns c).connected = true) (hn : n ≤ data.length)
    (hconns : s'.conns = Function.update s.conns c
      { s.conns c with written := (s.conns c).written ++ data.take n })
    (hflushing : s'.flushing = some (c, data, n)) (hcompleted : s'.completed = s.completed) :
    StreamWriter.Step P s.writer s'.writer := by
  obtain ⟨hwritten, hconnected⟩ := writer_write hconns
  exact .start _ _ c data n hP hidle hconn hn hwritten hflushing
    (by simp only [writer, hcompleted]) hconnected

/-- More bytes of the packet go out. -/
lemma more_step {s' : SendThread} {c : ConnId} {data : Packet} {t n : ℕ}
    (hflush : s.flushing = some (c, data, t)) (hconn : (s.conns c).connected = true)
    (hn : t + n ≤ data.length)
    (hconns : s'.conns = Function.update s.conns c
      { s.conns c with written := (s.conns c).written ++ (data.drop t).take n })
    (hflushing : s'.flushing = some (c, data, t + n)) (hcompleted : s'.completed = s.completed) :
    StreamWriter.Step P s.writer s'.writer := by
  obtain ⟨hwritten, hconnected⟩ := writer_write hconns
  exact .more _ _ c data t n hflush hconn hn hwritten hflushing
    (by simp only [writer, hcompleted]) hconnected

/-- The packet is out; only the statistics of its connection change. -/
lemma finish_step {s' : SendThread} {c : ConnId} {data : Packet} {t : ℕ} {path : SendPath}
    {slot : ℕ} (hflush : s.flushing = some (c, data, t)) (ht : data.length ≤ t)
    (hwritten : ∀ c', (s'.conns c').written = (s.conns c').written)
    (hconnected : ∀ c', (s'.conns c').connected = (s.conns c').connected)
    (hflushing : s'.flushing = none)
    (hcompleted : s'.completed = s.completed ++ [⟨path, slot, c, data⟩]) :
    StreamWriter.Step P s.writer s'.writer := by
  refine .finish _ _ c data t hflush ht (funext hwritten) hflushing ?_ (funext hconnected)
  simp only [writer, hcompleted, List.map_append, List.map_cons, List.map_nil]

/-- The packet is given up on `c`, and `c` is disconnected. -/
lemma abandon_step {s' : SendThread} {c : ConnId} {data : Packet} {t : ℕ}
    {f : TcpConnection → TcpConnection} (hf : Calm f) (hcut : ∀ conn, (f conn).connected = false)
    (hflush : s.flushing = some (c, data, t)) (ht : t < data.length)
    (hconns : s'.conns = (s.setConn c f).conns) (hflushing : s'.flushing = none)
    (hcompleted : s'.completed = s.completed) :
    StreamWriter.Step P s.writer s'.writer := by
  refine .abandon _ _ c data t hflush ht (funext fun c' => ?_) hflushing
    (by simp only [writer, hcompleted]) fun c' hc' => ?_
  · show (s'.conns c').written = _
    rw [hconns]
    exact (hf.setConn s c c').1
  · simp only [writer, hconns] at hc' ⊢
    refine ⟨?_, (hf.setConn s c c').2 hc'⟩
    rintro rfl
    rw [conns_setConn, Function.update_self, hcut] at hc'
    exact absurd hc' (by decide)

lemma writer_stepLoopHead (hidle : s.flushing = none) :
    StreamWriter.Step P s.writer s.stepLoopHead.writer := by
  unfold stepLoopHead
  split_ifs
  · exact quiet_step_of_eq rfl hidle.symm rfl
  · exact quiet_step_of_eq rfl hidle.symm rfl
  · exact quiet_step_of_eq rfl hidle.symm rfl

lemma writer_stepDrainResend (resendBatch : ℕ) (hidle : s.flushing = none) :
    StreamWriter.Step P s.writer (s.stepDrainResend resendBatch).writer := by
  unfold stepDrainResend
  split_ifs
  · split
    · exact quiet_step_of_eq rfl hidle.symm rfl
    · dsimp only
      split_ifs
      · exact quiet_step_of_eq rfl hidle.symm rfl
      · exact quiet_step_of_eq rfl hidle.symm rfl
  · exact quiet_step_of_eq rfl hidle.symm rfl

lemma writer_stepTakePacket (hidle : s.flushing = none) :
    StreamWriter.Step P s.writer s.stepTakePacket.writer := by
  unfold stepTakePacket
  split
  · exact quiet_step_of_eq rfl hidle.symm rfl
  · split
    · exact quiet_step_of_eq rfl hidle.symm rfl
    · exact quiet_step_of_eq rfl hidle.symm rfl

lemma writer_stepStartPacket (data : Packet) (io : Io) (hidle : s.flushing = none) :
    StreamWriter.Step P s.writer (s.stepStartPacket data io).writer := by
  unfold stepStartPacket
  dsimp only
  split_ifs
  · exact quiet_step_of_eq rfl hidle.symm rfl
  · exact quiet_step_of_eq rfl hidle.symm rfl
  · exact quiet_step_of_eq rfl hidle.symm rfl

lemma writer_resendFailed (job : ResendJob) (hidle : s.flushing = none) :
    StreamWriter.Step P s.writer (s.resendFailed job).writer := by
  unfold resendFailed
  dsimp only
  split_ifs
  · exact quiet_step_of_eq rfl hidle.symm rfl
  · exact quiet_step_of_eq rfl hidle.symm rfl
  · exact quiet_step_of_eq rfl hidle.symm rfl

lemma writer_stepResendAttempt (job : ResendJob) (io : Io) (hP : P job.data)
    (hidle : s.flushing = none) :
    StreamWriter.Step P s.writer (s.stepResendAttempt job io).writer := by
  unfold stepResendAttempt
  dsimp only
  split
  swap
  · exact writer_resendFailed job hidle
  split
  · exact quiet_step_of_eq rfl hidle.symm rfl
  rename_i c _
  split
  · exact quiet_step_of_eq rfl hidle.symm rfl
  split
  · exact quiet_step_of_eq rfl hidle.symm rfl
  rcases sendTcpDirect_cases (s.conns c) job.data io.sendResult
    with ⟨n, hn, hle, hconn, heq⟩ | ⟨r, hr, heq⟩
  · rw [heq]
    simp only [gt_iff_lt, hn, if_true]
    exact start_step hP hidle hconn hle rfl rfl rfl
  · rw [heq, setConn_self]
    cases r with
    | sent n =>
      simp only [hr n rfl, gt_iff_lt, lt_irrefl, if_false]
      exact quiet_step_of_eq rfl hidle.symm rfl
    | closed => exact quiet_step (calm_disconnect.setConn s c) hidle.symm rfl
    | wouldBlock => exact quiet_step_of_eq rfl hidle.symm rfl
    | interrupted => exact quiet_step_of_eq rfl hidle.symm rfl

lemma writer_stepSendAttempt (job : SendJob) (io : Io) (hP : P job.data)
    (hidle : s.flushing = none) :
    StreamWriter.Step P s.writer (s.stepSendAttempt job io).writer := by
  unfold stepSendAttempt
  split
  swap
  · exact quiet_step_of_eq rfl hidle.symm rfl
  split
  · exact quiet_step_of_eq rfl hidle.symm rfl
  split
  · exact quiet_step_of_eq rfl hidle.symm rfl
  rename_i c _
  dsimp only
  rcases sendTcpDirect_cases (s.conns c) job.data io.sendResult
    with ⟨n, hn, hle, hconn, heq⟩ | ⟨r, hr, heq⟩
  · rw [heq]
    simp only [gt_iff_lt, hn, if_true]
    exact start_step hP hidle hconn hle rfl rfl rfl
  · rw [heq, setConn_self]
    cases r with
    | sent n =>
      simp only [hr n rfl, gt_iff_lt, lt_irrefl, if_false]
      exact quiet_step (calm_countFailure.setConn s c) hidle.symm rfl
    | closed =>
      exact quiet_step ((calm_disconnect.comp calm_countFailure).setConn s c) hidle.symm rfl
    | wouldBlock => exact quiet_step (calm_countFailure.setConn s c) hidle.symm rfl
    | interrupted => exact quiet_step (calm_countFailure.setConn s c) hidle.symm rfl

lemma writer_stepResendFlush (job : ResendJob) (flush : Flush) (io : Io)
    (hflush : s.flushing = some (flush.conn, job.data, flush.totalSent)) :
    StreamWriter.Step P s.writer (s.stepResendFlush job flush io).writer := by
  unfold stepResendFlush
  rcases flushPass_cases s job.data flush io with h | ⟨_, h⟩ | ⟨n, _, hle, hconn, h⟩
  · rw [h]
    dsimp only
    split_ifs with hlt
    · exact abandon_step calm_disconnect (fun _ => rfl) hflush hlt rfl rfl rfl
    · exact finish_step hflush (not_lt.mp hlt) (fun _ => rfl) (fun _ => rfl) rfl rfl
  · rw [h]
    exact quiet_step_of_eq rfl hflush.symm rfl
  · rw [h]
    exact more_step hflush hconn hle rfl rfl rfl

lemma writer_stepSendFlush (job : SendJob) (flush : Flush) (io : Io)
    (hflush : s.flushing = some (flush.conn, job.data, flush.totalSent)) :
    StreamWriter.Step P s.writer (s.stepSendFlush job flush io).writer := by
  unfold stepSendFlush
  rcases flushPass_cases s job.data flush io with h | ⟨_, h⟩ | ⟨n, _, hle, hconn, h⟩
  · rw [h]
    dsimp only
    split_ifs with hlt
    · exact abandon_step (calm_countFailure.comp calm_disconnect) (fun _ => rfl) hflush hlt
        rfl rfl rfl
    · have hcalm := (calm_countSent (headerMessageId job.data) io.now).setConn s flush.conn
      refine finish_step hflush (not_lt.mp hlt) (fun c => (hcalm c).1) (fun c => ?_) rfl rfl
      rw [conns_setConn, Function.update_apply]
      split_ifs with hc
      · rw [hc]; rfl
      · rfl
  · rw [h]
    exact quiet_step_of_eq rfl hflush.symm rfl
  · rw [h]
    exact more_step hflush hconn hle rfl rfl rfl

/-- Every step, of the thread or of another one, is a step of the abstract writer. -/
theorem writer_step (h : Holds P s) (e : Event) :
    StreamWriter.Step P s.writer (s.step e).writer := by
  cases e with
  | thread io =>
    have hP := h.currentPacket
    show StreamWriter.Step P s.writer (s.threadStep io).writer
    unfold threadStep
    cases hpc : s.pc with
    | loopHead => exact writer_stepLoopHead (by simp only [flushing, hpc])
    | drainResend resendBatch =>
      exact writer_stepDrainResend resendBatch (by simp only [flushing, hpc])
    | resendAttempt job =>
      exact writer_stepResendAttempt job io (hP _ (by simp only [currentPacket, hpc]))
        (by simp only [flushing, hpc])
    | resendFlush job flush =>
      exact writer_stepResendFlush job flush io (by simp only [flushing, hpc])
    | takePacket => exact writer_stepTakePacket (by simp only [flushing, hpc])
    | startPacket data => exact writer_stepStartPacket data io (by simp only [flushing, hpc])
    | sendAttempt job =>
      exact writer_stepSendAttempt job io (hP _ (by simp only [currentPacket, hpc]))
        (by simp only [flushing, hpc])
    | sendFlush job flush =>
      exact writer_stepSendFlush job flush io (by simp only [flushing, hpc])
    | stopped => exact quiet_step_of_eq rfl rfl rfl
  | enqueueSend data => exact quiet_step_of_eq rfl rfl rfl
  | enqueueResend data => exact quiet_step_of_eq rfl rfl rfl
  | cancelWait => exact quiet_step_of_eq rfl rfl rfl
  | disconnect c => exact quiet_step (calm_disconnect.setConn s c) rfl rfl
  | replaceConnection slot c =>
    show StreamWriter.Step P s.writer (s.replaceConnection slot c).writer
    unfold SendThread.replaceConnection
    split_ifs
    · exact quiet_step_of_eq rfl rfl rfl
    · exact quiet_step_of_eq rfl rfl rfl
  | setRunning value => exact quiet_step_of_eq rfl rfl rfl

/-! ## Where the packets come from -/

/-- The queues and the retained packet are as before; only the packet in hand changed. -/
lemma Holds.of_eq {s' : SendThread} (h : Holds P s) (hsend : s'.sendQueue = s.sendQueue)
    (hresend : s'.resendQueue = s.resendQueue) (hpending : s'.pendingDataVec = s.pendingDataVec)
    (hcurrent : ∀ p, s'.currentPacket = some p → P p) : Holds P s' :=
  ⟨hsend ▸ h.sendQueue, hresend ▸ h.resendQueue, hpending ▸ h.pendingDataVec, hcurrent⟩

/-- As `Holds.of_eq`, with no packet in hand afterwards. -/
lemma Holds.of_none {s' : SendThread} (h : Holds P s) (hsend : s'.sendQueue = s.sendQueue)
    (hresend : s'.resendQueue = s.resendQueue) (hpending : s'.pendingDataVec = s.pendingDataVec)
    (hcurrent : s'.currentPacket = none) : Holds P s' :=
  h.of_eq hsend hresend hpending fun p hp => by rw [hcurrent] at hp; cases hp

lemma holds_stepLoopHead (h : Holds P s) : Holds P s.stepLoopHead := by
  unfold stepLoopHead
  split_ifs
  · exact h.of_none rfl rfl rfl rfl
  · exact h.of_none rfl rfl rfl rfl
  · exact h.of_none rfl rfl rfl rfl

lemma holds_stepDrainResend (resendBatch : ℕ) (h : Holds P s) :
    Holds P (s.stepDrainResend resendBatch) := by
  unfold stepDrainResend
  split_ifs
  · split
    · exact h.of_none rfl rfl rfl rfl
    · rename_i data resendQueue hdeq
      have hqueue := h.resendQueue
      rw [BlockingQueue.tryDequeue_eq_some hdeq] at hqueue
      have hrest : ∀ p ∈ resendQueue.queue, P p := fun p hp =>
        hqueue p (List.mem_cons_of_mem _ hp)
      dsimp only
      split_ifs
      · exact ⟨h.sendQueue, hrest, h.pendingDataVec, fun _ hp => (nomatch hp)⟩
      · refine ⟨h.sendQueue, hrest, h.pendingDataVec, fun p hp => ?_⟩
        cases hp
        exact hqueue _ List.mem_cons_self
  · exact h.of_none rfl rfl rfl rfl

lemma holds_resendFailed (job : ResendJob) (hP : P job.data) (h : Holds P s) :
    Holds P (s.resendFailed job) := by
  have henq : ∀ p ∈ (s.resendQueue.enqueue job.data).queue, P p := by
    intro p hp
    rcases List.mem_append.mp hp with hp | hp
    · exact h.resendQueue p hp
    · rw [List.mem_singleton.mp hp]; exact hP
  unfold resendFailed
  dsimp only
  split_ifs
  · exact ⟨h.sendQueue, henq, h.pendingDataVec, fun _ hp => (nomatch hp)⟩
  · exact ⟨h.sendQueue, henq, h.pendingDataVec, fun _ hp => (nomatch hp)⟩
  · exact h.of_none rfl rfl rfl rfl

lemma holds_stepResendAttempt (job : ResendJob) (io : Io) (hP : P job.data) (h : Holds P s) :
    Holds P (s.stepResendAttempt job io) := by
  have hdata : ∀ p, some job.data = some p → P p := fun p hp => by cases hp; exact hP
  unfold stepResendAttempt
  dsimp only
  split
  swap
  · exact holds_resendFailed job hP h
  split
  · exact h.of_eq rfl rfl rfl hdata
  split
  · exact h.of_eq rfl rfl rfl hdata
  split
  · exact h.of_eq rfl rfl rfl hdata
  split
  · split
    · exact h.of_eq rfl rfl rfl hdata
    · exact h.of_eq rfl rfl rfl hdata
  · exact h.of_eq rfl rfl rfl hdata
  · exact h.of_eq rfl rfl rfl hdata

lemma holds_stepSendAttempt (job : SendJob) (io : Io) (hP : P job.data) (h : Holds P s) :
    Holds P (s.stepSendAttempt job io) := by
  have hdata : ∀ p, some job.data = some p → P p := fun p hp => by cases hp; exact hP
  unfold stepSendAttempt
  split
  swap
  · exact ⟨h.sendQueue, h.resendQueue, hdata, fun _ hp => (nomatch hp)⟩
  split
  · exact h.of_eq rfl rfl rfl hdata
  split
  · exact h.of_eq rfl rfl rfl hdata
  dsimp only
  split
  · split
    · exact h.of_eq rfl rfl rfl hdata
    · exact h.of_eq rfl rfl rfl hdata
  · exact h.of_eq rfl rfl rfl hdata
  · exact h.of_eq rfl rfl rfl hdata

lemma holds_stepResendFlush (job : ResendJob) (flush : Flush) (io : Io) (hP : P job.data)
    (h : Holds P s) : Holds P (s.stepResendFlush job flush io) := by
  have hdata : ∀ p, some job.data = some p → P p := fun p hp => by cases hp; exact hP
  unfold stepResendFlush
  rcases flushPass_cases s job.data flush io with heq | ⟨_, heq⟩ | ⟨n, _, _, _, heq⟩
  · rw [heq]
    dsimp only
    split_ifs
    · exact h.of_eq rfl rfl rfl hdata
    · exact h.of_none rfl rfl rfl rfl
  · rw [heq]
    exact h.of_eq rfl rfl rfl hdata
  · rw [heq]
    exact h.of_eq rfl rfl rfl hdata

lemma holds_stepSendFlush (job : SendJob) (flush : Flush) (io : Io) (hP : P job.data)
    (h : Holds P s) : Holds P (s.stepSendFlush job flush io) := by
  have hdata : ∀ p, some job.data = some p → P p := fun p hp => by cases hp; exact hP
  unfold stepSendFlush
  rcases flushPass_cases s job.data flush io with heq | ⟨_, heq⟩ | ⟨n, _, _, _, heq⟩
  · rw [heq]
    dsimp only
    split_ifs
    · exact h.of_eq rfl rfl rfl hdata
    · exact h.of_none rfl rfl rfl rfl
  · rw [heq]
    exact h.of_eq rfl rfl rfl hdata
  · rw [heq]
    exact h.of_eq rfl rfl rfl hdata

lemma holds_stepTakePacket (h : Holds P s) : Holds P s.stepTakePacket := by
  unfold stepTakePacket
  split
  · rename_i data hpending
    exact ⟨h.sendQueue, h.resendQueue, fun _ hp => (nomatch hp), fun p hp => by
      cases hp; exact h.pendingDataVec _ hpending⟩
  · split
    · rename_i data sendQueue hdeq
      have hqueue := h.sendQueue
      rw [BlockingQueue.tryDequeue_eq_some hdeq] at hqueue
      refine ⟨fun p hp => hqueue p (List.mem_cons_of_mem _ hp), h.resendQueue,
        h.pendingDataVec, fun p hp => ?_⟩
      cases hp
      exact hqueue _ List.mem_cons_self
    · exact h.of_none rfl rfl rfl rfl

lemma holds_stepStartPacket (data : Packet) (io : Io) (hP : P data) (h : Holds P s) :
    Holds P (s.stepStartPacket data io) := by
  unfold stepStartPacket
  dsimp only
  split_ifs
  · exact h.of_none rfl rfl rfl rfl
  · exact h.of_eq rfl rfl rfl fun p hp => by cases hp; exact hP
  · exact h.of_none rfl rfl rfl rfl

/-- The packets that an event brings in. -/
def Event.packets : Event → List Packet
  | .enqueueSend data => [data]
  | .enqueueResend data => [data]
  | _ => []

/-- The thread makes no packets: all it has were put on its queues. -/
theorem holds_step (h : Holds P s) {e : Event} (he : ∀ p ∈ e.packets, P p) :
    Holds P (s.step e) := by
  have henqueue : ∀ {q : BlockingQueue} {data : Packet}, (∀ p ∈ q.queue, P p) → P data →
      ∀ p ∈ (q.enqueue data).queue, P p := by
    intro q data hq hdata p hp
    rcases List.mem_append.mp hp with hp | hp
    · exact hq p hp
    · rw [List.mem_singleton.mp hp]; exact hdata
  cases e with
  | thread io =>
    have hP := h.currentPacket
    show Holds P (s.threadStep io)
    unfold threadStep
    cases hpc : s.pc with
    | loopHead => exact holds_stepLoopHead h
    | drainResend resendBatch => exact holds_stepDrainResend resendBatch h
    | resendAttempt job =>
      exact holds_stepResendAttempt job io (hP _ (by simp only [currentPacket, hpc])) h
    | resendFlush job flush =>
      exact holds_stepResendFlush job flush io (hP _ (by simp only [currentPacket, hpc])) h
    | takePacket => exact holds_stepTakePacket h
    | startPacket data =>
      exact holds_stepStartPacket data io (hP _ (by simp only [currentPacket, hpc])) h
    | sendAttempt job =>
      exact holds_stepSendAttempt job io (hP _ (by simp only [currentPacket, hpc])) h
    | sendFlush job flush =>
      exact holds_stepSendFlush job flush io (hP _ (by simp only [currentPacket, hpc])) h
    | stopped => exact h
  | enqueueSend data =>
    exact ⟨henqueue h.sendQueue (he data List.mem_cons_self), h.resendQueue, h.pendingDataVec,
      h.currentPacket⟩
  | enqueueResend data =>
    exact ⟨h.sendQueue, henqueue h.resendQueue (he data List.mem_cons_self), h.pendingDataVec,
      h.currentPacket⟩
  | cancelWait => exact ⟨h.sendQueue, h.resendQueue, h.pendingDataVec, h.currentPacket⟩
  | disconnect c => exact ⟨h.sendQueue, h.resendQueue, h.pendingDataVec, h.currentPacket⟩
  | replaceConnection slot c =>
    show Holds P (s.replaceConnection slot c)
    unfold SendThread.replaceConnection
    split_ifs
    · exact h
    · exact ⟨h.sendQueue, h.resendQueue, h.pendingDataVec, h.currentPacket⟩
  | setRunning value => exact ⟨h.sendQueue, h.resendQueue, h.pendingDataVec, h.currentPacket⟩

/-! ## Stream integrity -/

/-- `p` was put on a queue by one of the first `n` events. -/
def Enqueued (events : ℕ → Event) (n : ℕ) (p : Packet) : Prop :=
  ∃ k < n, p ∈ (events k).packets

/-- Both invariants hold along a run, for packets enqueued up to any later moment. -/
lemma run_integrity {s₀ : SendThread} (hinit : Initial s₀) (events : ℕ → Event) {m n : ℕ}
    (hmn : m ≤ n) : Holds (Enqueued events n) (runState step s₀ events m)
      ∧ StreamWriter.Integrity (Enqueued events n) (runState step s₀ events m).writer := by
  induction m with
  | zero =>
    have hflushing : s₀.flushing = none := by simp only [flushing, hinit.pc]
    have hcurrent : s₀.currentPacket = none := by simp only [currentPacket, hinit.pc]
    refine ⟨⟨?_, ?_, ?_, ?_⟩, StreamWriter.integrity_of_empty hinit.written hflushing ?_⟩
    · rw [runState_zero, hinit.sendQueue]; exact fun _ h => (nomatch h)
    · rw [runState_zero, hinit.resendQueue]; exact fun _ h => (nomatch h)
    · rw [runState_zero, hinit.pendingDataVec]; exact fun _ h => (nomatch h)
    · rw [runState_zero, hcurrent]; exact fun _ h => (nomatch h)
    · simp only [writer, runState_zero, hinit.completed, List.map_nil]
  | succ m ih =>
    -- a step needs to know that the packets in the thread were enqueued
    obtain ⟨hholds, hint⟩ := ih (by omega)
    exact ⟨holds_step hholds fun p hp => ⟨m, by omega, hp⟩,
      StreamWriter.integrity_step hint (writer_step hholds (events m))⟩

/-- What a disconnected connection has taken never changes. -/
lemma run_written_frozen {s₀ : SendThread} (hinit : Initial s₀) (events : ℕ → Event) {c : ConnId}
    {n m : ℕ} (hnm : n ≤ m) (hc : ((runState step s₀ events n).conns c).connected = false) :
    ((runState step s₀ events m).conns c).connected = false
      ∧ ((runState step s₀ events m).conns c).written
        = ((runState step s₀ events n).conns c).written := by
  induction m, hnm using Nat.le_induction with
  | base => exact ⟨hc, rfl⟩
  | succ m _ ih =>
    obtain ⟨hdown, hsame⟩ := ih
    have hstep := writer_step (run_integrity hinit events (le_refl m)).1 (events m)
    refine ⟨?_, (hstep.written_frozen hdown).trans hsame⟩
    rw [Bool.eq_false_iff] at hdown ⊢
    exact fun hup => hdown (hstep.connected_of hup)

/-- Whenever the thread is not in the middle of a packet on connection `c`, the bytes
written to `c` are whole packets and at most one incomplete packet. If there is an
incomplete one, `c` is disconnected and nothing is written to it any more. -/
theorem written_whole_packets {s₀ : SendThread} (hinit : Initial s₀) (events : ℕ → Event)
    (n : ℕ) (c : ConnId)
    (hbetween : ∀ data t, (runState step s₀ events n).flushing ≠ some (c, data, t)) :
    ∃ (packets : List Packet) (tail : List UInt8),
      ((runState step s₀ events n).conns c).written = packets.flatten ++ tail ∧
      (∀ p ∈ packets, Enqueued events n p) ∧
      (tail = [] ∨
        (∃ p, Enqueued events n p ∧ tail <+: p ∧ tail ≠ p) ∧
        ((runState step s₀ events n).conns c).connected = false ∧
        ∀ m, n ≤ m → ((runState step s₀ events m).conns c).written
          = ((runState step s₀ events n).conns c).written) := by
  have hint := (run_integrity hinit events (le_refl n)).2
  obtain ⟨tail, hwritten, htail⟩ := hint.streams c
  refine ⟨_, tail, hwritten, fun p hp => hint.of_completedOn hp, ?_⟩
  rcases htail.settled hbetween with hnil | ⟨hdown, hincomplete⟩
  · exact Or.inl hnil
  · exact Or.inr ⟨hincomplete, hdown, fun m hm => (run_written_frozen hinit events hm hdown).2⟩

/-! ## Normal sends -/

/-- The packet of the send loop. -/
def dataPacket (s : SendThread) : Option Packet :=
  match s.pc with
  | .startPacket data => some data
  | .sendAttempt job => some job.data
  | .sendFlush job _ => some job.data
  | _ => none

/-- The packet retained as `pendingDataVec` or in the attempt in progress. -/
def inHand (s : SendThread) : Option Packet := s.dataPacket.or s.pendingDataVec

/-- The order in which the send loop tries the data connections. -/
def jobOrder (s : SendThread) : List ℕ :=
  match s.pc with
  | .sendAttempt job => job.order
  | .sendFlush job _ => job.order
  | _ => []

/-- The packets written to the last byte on data connections, in order. -/
def sentOnData (s : SendThread) : List Packet :=
  (s.completed.filter fun e => e.slot < s.numDataConns).map Completion.packet

/-- What was dequeued is what was sent, and the packet in hand. Only a thread that has
stopped may have let go of that packet, and then it was told to stop. -/
structure DataInOrder (toldToStop : Prop) (s : SendThread) : Prop where
  nonempty : s.connections ≠ []
  noNull : none ∉ s.connections
  jobOrder : ∀ i ∈ s.jobOrder, i < s.numDataConns
  pending : s.dataPacket ≠ none → s.pendingDataVec = none
  order : ∃ last : Option Packet, s.dequeued = s.sentOnData ++ last.toList
    ∧ (last = s.inHand ∨ (toldToStop ∧ s.pc = .stopped))

variable {toldToStop : Prop}

lemma DataInOrder.order_of_ne (h : DataInOrder toldToStop s) (hpc : s.pc ≠ .stopped) :
    s.dequeued = s.sentOnData ++ s.inHand.toList := by
  obtain ⟨last, hlast, hhand⟩ := h.order
  rw [hlast, hhand.resolve_right fun ⟨_, hstop⟩ => hpc hstop]

lemma numDataConns_pos (h : s.connections ≠ []) : 0 < s.numDataConns := by
  have := List.length_pos_iff.mpr h
  unfold numDataConns
  split_ifs
  · decide
  · exact this

lemma numDataConns_le (s : SendThread) : s.numDataConns ≤ vcFirstResendConnIndex := by
  unfold numDataConns
  split_ifs with h
  · exact le_rfl
  · exact not_lt.mp h

lemma numDataConns_of_length {s' : SendThread}
    (h : s'.connections.length = s.connections.length) : s'.numDataConns = s.numDataConns := by
  rw [numDataConns, numDataConns, h]

lemma numDataConns_of_eq {s' : SendThread} (h : s'.connections = s.connections) :
    s'.numDataConns = s.numDataConns := numDataConns_of_length (congrArg List.length h)

/-- A packet completed on a slot beyond the data connections does not count. -/
lemma sentOnData_append {s' : SendThread} {e : Completion}
    (hconnections : s'.connections = s.connections)
    (hcompleted : s'.completed = s.completed ++ [e]) :
    s'.sentOnData = s.sentOnData ++ if e.slot < s.numDataConns then [e.packet] else [] := by
  rw [sentOnData, sentOnData, hcompleted, numDataConns_of_eq hconnections,
    List.filter_append, List.map_append]
  congr 1
  split_ifs with h <;> simp [h]

/-- The step concerns neither the packet in hand nor what was dequeued and sent. -/
lemma DataInOrder.of_same {s' : SendThread} (h : DataInOrder toldToStop s)
    (hconnections : s'.connections = s.connections)
    (hpending : s'.pendingDataVec = s.pendingDataVec)
    (hdequeued : s'.dequeued = s.dequeued) (hsent : s'.sentOnData = s.sentOnData)
    (hdata : s'.dataPacket = s.dataPacket) (horder : s'.jobOrder ⊆ s.jobOrder)
    (hpc : s.pc ≠ .stopped) : DataInOrder toldToStop s' := by
  have hhand : s'.inHand = s.inHand := by rw [inHand, inHand, hdata, hpending]
  refine ⟨hconnections ▸ h.nonempty, hconnections ▸ h.noNull, fun i hi => ?_, ?_,
    s'.inHand, ?_, Or.inl rfl⟩
  · rw [numDataConns_of_eq hconnections]
    exact h.jobOrder i (horder hi)
  · rw [hdata, hpending]; exact h.pending
  · rw [hdequeued, hsent, hhand, h.order_of_ne hpc]

lemma dataInOrder_stepLoopHead (h : DataInOrder toldToStop s) (hpc : s.pc = .loopHead) :
    DataInOrder toldToStop s.stepLoopHead := by
  have hrun : s.pc ≠ .stopped := by rw [hpc]; exact fun h => (nomatch h)
  have hdata : s.dataPacket = none := by simp only [dataPacket, hpc]
  unfold stepLoopHead
  split_ifs
  · exact h.of_same rfl rfl rfl rfl hdata.symm (List.nil_subset _) hrun
  · exact h.of_same rfl rfl rfl rfl hdata.symm (List.nil_subset _) hrun
  · exact h.of_same rfl rfl rfl rfl hdata.symm (List.nil_subset _) hrun

lemma dataInOrder_stepDrainResend (h : DataInOrder toldToStop s) {resendBatch : ℕ}
    (hpc : s.pc = .drainResend resendBatch) : DataInOrder toldToStop (s.stepDrainResend resendBatch) := by
  have hrun : s.pc ≠ .stopped := by rw [hpc]; exact fun h => (nomatch h)
  have hdata : s.dataPacket = none := by simp only [dataPacket, hpc]
  unfold stepDrainResend
  split_ifs
  · split
    · exact h.of_same rfl rfl rfl rfl hdata.symm (List.nil_subset _) hrun
    · dsimp only
      split_ifs
      · exact h.of_same rfl rfl rfl rfl hdata.symm (List.nil_subset _) hrun
      · exact h.of_same rfl rfl rfl rfl hdata.symm (List.nil_subset _) hrun
  · exact h.of_same rfl rfl rfl rfl hdata.symm (List.nil_subset _) hrun

lemma dataInOrder_stepResendAttempt (h : DataInOrder toldToStop s) {job : ResendJob} (io : Io)
    (hpc : s.pc = .resendAttempt job) : DataInOrder toldToStop (s.stepResendAttempt job io) := by
  have hrun : s.pc ≠ .stopped := by rw [hpc]; exact fun h => (nomatch h)
  have hdata : s.dataPacket = none := by simp only [dataPacket, hpc]
  unfold stepResendAttempt
  dsimp only
  split
  swap
  · unfold resendFailed
    dsimp only
    split_ifs
    · exact h.of_same rfl rfl rfl rfl hdata.symm (List.nil_subset _) hrun
    · exact h.of_same rfl rfl rfl rfl hdata.symm (List.nil_subset _) hrun
    · exact h.of_same rfl rfl rfl rfl hdata.symm (List.nil_subset _) hrun
  split
  · exact h.of_same rfl rfl rfl rfl hdata.symm (List.nil_subset _) hrun
  split
  · exact h.of_same rfl rfl rfl rfl hdata.symm (List.nil_subset _) hrun
  split
  · exact h.of_same rfl rfl rfl rfl hdata.symm (List.nil_subset _) hrun
  split
  · split
    · exact h.of_same rfl rfl rfl rfl hdata.symm (List.nil_subset _) hrun
    · exact h.of_same rfl rfl rfl rfl hdata.symm (List.nil_subset _) hrun
  · exact h.of_same rfl rfl rfl rfl hdata.symm (List.nil_subset _) hrun
  · exact h.of_same rfl rfl rfl rfl hdata.symm (List.nil_subset _) hrun

/-- A resend that went out is on a slot beyond the data connections. -/
lemma dataInOrder_stepResendFlush (h : DataInOrder toldToStop s) {job : ResendJob} {flush : Flush} (io : Io)
    (hpc : s.pc = .resendFlush job flush) : DataInOrder toldToStop (s.stepResendFlush job flush io) := by
  have hrun : s.pc ≠ .stopped := by rw [hpc]; exact fun h => (nomatch h)
  have hdata : s.dataPacket = none := by simp only [dataPacket, hpc]
  unfold stepResendFlush
  rcases flushPass_cases s job.data flush io with heq | ⟨_, heq⟩ | ⟨n, _, _, _, heq⟩
  · rw [heq]
    dsimp only
    split_ifs
    · exact h.of_same rfl rfl rfl rfl hdata.symm (List.nil_subset _) hrun
    · refine h.of_same rfl rfl rfl ?_ hdata.symm (List.nil_subset _) hrun
      rw [sentOnData_append (s := s)
        (e := ⟨.resend, vcFirstResendConnIndex + (s.resendRoundRobin + job.attempt)
          % job.resendCount, flush.conn, job.data⟩) (by rfl) (by rfl)]
      -- resend slots come after all data slots
      rw [if_neg (not_lt.mpr (s.numDataConns_le.trans (Nat.le_add_right _ _))),
        List.append_nil]
  · rw [heq]
    exact h.of_same rfl rfl rfl rfl hdata.symm (List.nil_subset _) hrun
  · rw [heq]
    exact h.of_same rfl rfl rfl rfl hdata.symm (List.nil_subset _) hrun

/-- The retained packet, or a new one: there is no packet in hand when one is dequeued. -/
lemma dataInOrder_stepTakePacket (h : DataInOrder toldToStop s) (hpc : s.pc = .takePacket) :
    DataInOrder toldToStop s.stepTakePacket := by
  have hrun : s.pc ≠ .stopped := by rw [hpc]; exact fun h => (nomatch h)
  have hdata : s.dataPacket = none := by simp only [dataPacket, hpc]
  -- nothing is in the send loop, so only a retained packet can be outstanding
  have horder : s.dequeued = s.sentOnData ++ s.pendingDataVec.toList := by
    rw [h.order_of_ne hrun, inHand, hdata, Option.none_or]
  unfold stepTakePacket
  split
  · rename_i data hsome
    refine ⟨h.nonempty, h.noNull, fun _ hi => (nomatch hi), fun _ => rfl, some data, ?_,
      Or.inl rfl⟩
    rw [← hsome]
    exact horder
  · rename_i hnone
    split
    · rename_i data sendQueue _
      refine ⟨h.nonempty, h.noNull, fun _ hi => (nomatch hi), fun _ => hnone, some data, ?_,
        Or.inl rfl⟩
      show s.dequeued ++ [data] = s.sentOnData ++ [data]
      rw [horder, hnone, Option.toList_none, List.append_nil]
    · exact h.of_same rfl rfl rfl rfl hdata.symm (List.nil_subset _) hrun

lemma mem_connectionOrder {scores : List ℤ} {start i : ℕ}
    (hi : i ∈ connectionOrder scores start) : i < scores.length :=
  List.mem_range.mp ((connectionOrder_perm scores start).mem_iff.mp hi)

/-- The packet is dropped by a thread that was told to stop, and by no other: there is a
data connection, and slot 0 is not null. -/
lemma dataInOrder_stepStartPacket (h : DataInOrder toldToStop s)
    (hstop : s.running = false → toldToStop) {data : Packet} (io : Io)
    (hpc : s.pc = .startPacket data) : DataInOrder toldToStop (s.stepStartPacket data io) := by
  have hrun : s.pc ≠ .stopped := by rw [hpc]; exact fun h => (nomatch h)
  have hdata : s.dataPacket = some data := by simp only [dataPacket, hpc]
  have horder := h.order_of_ne hrun
  unfold stepStartPacket
  dsimp only
  split_ifs with hrunning hnull
  · exfalso
    -- the branch that drops the packet: there is no such vector of connections
    rcases hnull with hzero | hnone
    · exact absurd hzero (Nat.ne_of_gt (numDataConns_pos h.nonempty))
    · obtain ⟨slot, rest, hconns⟩ := List.exists_cons_of_ne_nil h.nonempty
      rw [hconns] at hnone
      have hslot : slot = none := hnone
      exact h.noNull (by rw [hconns, hslot]; exact List.mem_cons_self)
  · refine ⟨h.nonempty, h.noNull, fun i hi => ?_,
      fun _ => h.pending (by rw [hdata]; exact Option.some_ne_none _), s.inHand, horder,
      Or.inl ?_⟩
    · have := mem_connectionOrder hi
      rwa [List.length_map, List.length_range] at this
    · rw [inHand, hdata]; rfl
  · exact ⟨h.nonempty, h.noNull, fun _ hi => (nomatch hi), fun hne => absurd rfl hne, s.inHand,
      horder, Or.inr ⟨hstop (by simpa using hrunning), rfl⟩⟩

/-- Whatever an attempt does, the packet stays in hand; after the last attempt it is
retained. -/
lemma dataInOrder_stepSendAttempt (h : DataInOrder toldToStop s) {job : SendJob} (io : Io)
    (hpc : s.pc = .sendAttempt job) : DataInOrder toldToStop (s.stepSendAttempt job io) := by
  have hrun : s.pc ≠ .stopped := by rw [hpc]; exact fun h => (nomatch h)
  have hdata : s.dataPacket = some job.data := by simp only [dataPacket, hpc]
  have horder : job.order ⊆ s.jobOrder := by simp only [jobOrder, hpc]; exact List.Subset.refl _
  unfold stepSendAttempt
  split
  swap
  · -- all connections were tried: the packet becomes `pendingDataVec`
    refine ⟨h.nonempty, h.noNull, fun _ hi => (nomatch hi), fun hne => absurd rfl hne,
      s.inHand, h.order_of_ne hrun, Or.inl ?_⟩
    rw [inHand, hdata]; rfl
  split
  · exact h.of_same rfl rfl rfl rfl hdata.symm horder hrun
  split
  · exact h.of_same rfl rfl rfl rfl hdata.symm horder hrun
  dsimp only
  split
  · split
    · exact h.of_same rfl rfl rfl rfl hdata.symm horder hrun
    · exact h.of_same rfl rfl rfl rfl hdata.symm horder hrun
  · exact h.of_same rfl rfl rfl rfl hdata.symm horder hrun
  · exact h.of_same rfl rfl rfl rfl hdata.symm horder hrun

/-- Only a packet that is out to its last byte leaves the hand. -/
lemma dataInOrder_stepSendFlush (h : DataInOrder toldToStop s) {job : SendJob} {flush : Flush} (io : Io)
    (hpc : s.pc = .sendFlush job flush) : DataInOrder toldToStop (s.stepSendFlush job flush io) := by
  have hrun : s.pc ≠ .stopped := by rw [hpc]; exact fun h => (nomatch h)
  have hdata : s.dataPacket = some job.data := by simp only [dataPacket, hpc]
  have horder : s.jobOrder = job.order := by simp only [jobOrder, hpc]
  have hsub : job.order ⊆ s.jobOrder := by rw [horder]; exact List.Subset.refl _
  unfold stepSendFlush
  rcases flushPass_cases s job.data flush io with heq | ⟨_, heq⟩ | ⟨n, _, _, _, heq⟩
  · rw [heq]
    dsimp only
    split_ifs
    · exact h.of_same rfl rfl rfl rfl hdata.symm hsub hrun
    · -- the slot is a data slot, as the order is one of the data connections
      have hidx : job.idx < s.numDataConns := by
        rw [SendJob.idx, List.getD_eq_getElem?_getD]
        cases hget : job.order[job.rank]? with
        | none => exact numDataConns_pos h.nonempty
        | some i => exact h.jobOrder i (horder ▸ List.mem_of_getElem? hget)
      -- the packet in the loop is the only one outstanding, so none is left
      have hpending : s.pendingDataVec = none :=
        h.pending (by rw [hdata]; exact Option.some_ne_none _)
      refine ⟨h.nonempty, h.noNull, fun _ hi => (nomatch hi), fun hne => absurd rfl hne, none,
        ?_, Or.inl hpending.symm⟩
      rw [Option.toList_none, List.append_nil, sentOnData_append (s := s)
        (e := ⟨.data, job.idx, flush.conn, job.data⟩) (by rfl) (by rfl), if_pos hidx]
      refine (h.order_of_ne hrun).trans ?_
      rw [inHand, hdata]
      rfl
  · rw [heq]
    exact h.of_same rfl rfl rfl rfl hdata.symm hsub hrun
  · rw [heq]
    exact h.of_same rfl rfl rfl rfl hdata.symm hsub hrun

/-- A connection put into a slot leaves the number of slots, and no slot null. -/
lemma dataInOrder_replaceConnection (h : DataInOrder toldToStop s) (slot : ℤ) (c : ConnId) :
    DataInOrder toldToStop (s.replaceConnection slot c) := by
  unfold SendThread.replaceConnection
  split_ifs
  · exact h
  · have hnum : ({ s with connections := s.connections.set slot.toNat (some c) }
        : SendThread).numDataConns = s.numDataConns := numDataConns_of_length List.length_set
    refine ⟨?_, fun hmem => ?_, fun i hi => ?_, h.pending, ?_⟩
    · exact fun hnil => h.nonempty ((List.set_eq_nil_iff _ _).mp hnil)
    · rcases List.mem_or_eq_of_mem_set hmem with hmem | heq
      · exact h.noNull hmem
      · cases heq
    · rw [hnum]; exact h.jobOrder i hi
    · rw [sentOnData, hnum]; exact h.order

/-- Other threads put packets on the queues and connections into slots; what was sent and
what is in hand stay. -/
theorem dataInOrder_step (h : DataInOrder toldToStop s) (hstop : s.running = false → toldToStop)
    (e : Event) : DataInOrder toldToStop (s.step e) := by
  cases e with
  | thread io =>
    show DataInOrder toldToStop (s.threadStep io)
    unfold threadStep
    cases hpc : s.pc with
    | loopHead => exact dataInOrder_stepLoopHead h hpc
    | drainResend resendBatch => exact dataInOrder_stepDrainResend h hpc
    | resendAttempt job => exact dataInOrder_stepResendAttempt h io hpc
    | resendFlush job flush => exact dataInOrder_stepResendFlush h io hpc
    | takePacket => exact dataInOrder_stepTakePacket h hpc
    | startPacket data => exact dataInOrder_stepStartPacket h hstop io hpc
    | sendAttempt job => exact dataInOrder_stepSendAttempt h io hpc
    | sendFlush job flush => exact dataInOrder_stepSendFlush h io hpc
    | stopped => exact h
  | enqueueSend data => exact ⟨h.nonempty, h.noNull, h.jobOrder, h.pending, h.order⟩
  | enqueueResend data => exact ⟨h.nonempty, h.noNull, h.jobOrder, h.pending, h.order⟩
  | cancelWait => exact ⟨h.nonempty, h.noNull, h.jobOrder, h.pending, h.order⟩
  | disconnect c => exact ⟨h.nonempty, h.noNull, h.jobOrder, h.pending, h.order⟩
  | setRunning value => exact ⟨h.nonempty, h.noNull, h.jobOrder, h.pending, h.order⟩
  | replaceConnection slot c => exact dataInOrder_replaceConnection h slot c

/-- What was dequeued is what was completely written on the data connections, in order,
and at most one more packet. That one is in hand, unless the thread was told to stop. What
counts as completely written is in the streams. -/
theorem data_sends_in_order {s₀ : SendThread} (hinit : Initial s₀) (hnonempty : s₀.connections ≠ [])
    (hnull : none ∉ s₀.connections) (events : ℕ → Event) (n : ℕ) :
    (∃ last : Option Packet, (runState step s₀ events n).dequeued
        = (runState step s₀ events n).sentOnData ++ last.toList ∧
      (last = (runState step s₀ events n).inHand
        ∨ ∃ k < n, (runState step s₀ events k).running = false)) ∧
    ∀ c, ((runState step s₀ events n).writer.completedOn c).flatten
      <+: ((runState step s₀ events n).conns c).written := by
  constructor
  · suffices hrun : ∀ m ≤ n, DataInOrder (∃ k < n, (runState step s₀ events k).running = false)
        (runState step s₀ events m) by
      obtain ⟨last, hlast, hhand⟩ := (hrun n le_rfl).order
      exact ⟨last, hlast, hhand.imp_right And.left⟩
    intro m
    induction m with
    | zero =>
      intro _
      have hdata : s₀.dataPacket = none := by simp only [dataPacket, hinit.pc]
      have horder : s₀.jobOrder = [] := by simp only [jobOrder, hinit.pc]
      refine ⟨hnonempty, hnull, fun i hi => ?_, fun hne => absurd hdata hne, none, ?_, Or.inl ?_⟩
      · rw [runState_zero, horder] at hi; cases hi
      · simp only [runState_zero, sentOnData, hinit.dequeued, hinit.completed, List.filter_nil,
          List.map_nil, Option.toList_none, List.append_nil]
      · rw [runState_zero, inHand, hdata, hinit.pendingDataVec]; rfl
    | succ m ih =>
      intro hm
      exact dataInOrder_step (ih (by omega)) (fun hstop => ⟨m, by omega, hstop⟩) (events m)
  · intro c
    obtain ⟨tail, hwritten, -⟩ := (run_integrity hinit events (le_refl n)).2.streams c
    exact ⟨tail, hwritten.symm⟩

/-! ## Two short runs -/

/-- A thread with one connection, before its first step. -/
def oneConnection : SendThread :=
  { conns := fun _ => {}, connections := [some 0], messageTracker := .init 1 }

lemma initial_oneConnection : Initial oneConnection :=
  ⟨fun _ => rfl, rfl, rfl, rfl, rfl, rfl, rfl⟩

/-- A packet of three bytes, two of which the socket takes before it reports an error. -/
def cutShort : ℕ → Event := fun n =>
  [.enqueueSend [1, 2, 3], .thread {}, .thread {}, .thread {},
    .thread { sendResult := .sent 2 },
    .thread { sendResult := .closed, writable := true }].getD n .cancelWait

theorem written_whole_packets_cutShort :
    ((runState step oneConnection cutShort 6).conns 0).written = [1, 2] ∧
    ∃ (packets : List Packet) (tail : List UInt8),
      ((runState step oneConnection cutShort 6).conns 0).written = packets.flatten ++ tail ∧
      (∀ p ∈ packets, Enqueued cutShort 6 p) ∧
      (tail = [] ∨
        (∃ p, Enqueued cutShort 6 p ∧ tail <+: p ∧ tail ≠ p) ∧
        ((runState step oneConnection cutShort 6).conns 0).connected = false ∧
        ∀ m, 6 ≤ m → ((runState step oneConnection cutShort m).conns 0).written
          = ((runState step oneConnection cutShort 6).conns 0).written) :=
  ⟨rfl, written_whole_packets initial_oneConnection cutShort 6 0 fun _ _ h => nomatch h⟩

theorem data_sends_in_order_cutShort :
    (runState step oneConnection cutShort 6).inHand = some [1, 2, 3] ∧
    (∃ last : Option Packet, (runState step oneConnection cutShort 6).dequeued
        = (runState step oneConnection cutShort 6).sentOnData ++ last.toList ∧
      (last = (runState step oneConnection cutShort 6).inHand
        ∨ ∃ k < 6, (runState step oneConnection cutShort k).running = false)) ∧
    ∀ c, ((runState step oneConnection cutShort 6).writer.completedOn c).flatten
      <+: ((runState step oneConnection cutShort 6).conns c).written :=
  ⟨rfl, data_sends_in_order initial_oneConnection (by decide) (by decide) cutShort 6⟩

/-- The thread is told to stop between dequeuing a packet and sending it. -/
def stoppedWithPacket : ℕ → Event := fun n =>
  [.enqueueSend [1], .thread {}, .thread {}, .setRunning false, .thread {}].getD n .cancelWait

/-- A thread that was told to stop lets go of a packet that it has dequeued. -/
theorem stopped_packet_discarded :
    ¬ ∀ s₀ : SendThread, Initial s₀ → s₀.connections ≠ [] → none ∉ s₀.connections →
      ∀ (events : ℕ → Event) (n : ℕ),
        (runState step s₀ events n).dequeued = (runState step s₀ events n).sentOnData ∨
        ((runState step s₀ events n).running = true ∧
          ∃ last, (runState step s₀ events n).inHand = some last ∧
            (runState step s₀ events n).dequeued
              = (runState step s₀ events n).sentOnData ++ [last]) := by
  intro h
  rcases h oneConnection initial_oneConnection (by decide) (by decide) stoppedWithPacket 5
    with hsent | ⟨hrunning, _⟩
  · exact absurd hsent (by decide)
  · exact absurd hrunning (by decide)

end SendThread
end TcpUdp
