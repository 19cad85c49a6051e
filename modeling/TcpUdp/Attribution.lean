import TcpUdp.Channel
import TcpUdp.SendThreadTheorems

/-!
# Which connection a loss is attributed to

`MessageTracker` says for a message id which slot is blamed when the peer misses it. Only
`run` records there, and it records whatever it has written, by the id in the header.
`attributed_iff` says of every run of the send thread when the slot recorded for an id is
the one that carried its DATA packet last: `sendOnResendConn` does not record, and a
`VCMissingNotify`, whose header id is 0, is recorded for the message 0.
-/

namespace TcpUdp

open Lib

/-! ## The tracker -/

namespace MessageTracker

lemma getConnectionIndex_init (numShards messageId : ℕ) :
    (init numShards).getConnectionIndex messageId = none := by
  rw [getConnectionIndex, init, Option.bind_eq_none_iff]
  intro shard hshard
  rw [List.getElem?_replicate] at hshard
  split_ifs at hshard
  cases hshard
  rfl

lemma getConnectionIndex_recordMessage {tracker : MessageTracker} (h : 0 < tracker.shards.length)
    (messageId connectionIndex id : ℕ) :
    (tracker.recordMessage messageId connectionIndex).getConnectionIndex id
      = if id = messageId then some connectionIndex else tracker.getConnectionIndex id := by
  obtain ⟨shard, hshard⟩ : ∃ shard, tracker.shards[id % tracker.shards.length]? = some shard :=
    ⟨_, List.getElem?_eq_getElem (Nat.mod_lt id h)⟩
  rw [getConnectionIndex, getConnectionIndex, recordMessage]
  dsimp only
  rw [List.length_modify, List.getElem?_modify, hshard]
  show (if messageId % tracker.shards.length = id % tracker.shards.length
    then shard.insertOrAssign messageId connectionIndex else shard).find? id
      = if id = messageId then some connectionIndex else shard.find? id
  by_cases hid : id = messageId
  · rw [if_pos hid, hid, if_pos rfl, SortedMap.find?_insertOrAssign, if_pos rfl]
  · rw [if_neg hid]
    split_ifs
    · rw [SortedMap.find?_insertOrAssign, if_neg hid]
    · rfl

end MessageTracker

/-! ## The last of a log -/

/-- The last entry of a list with a property. -/
def lastWhere {α : Type} (p : α → Bool) (l : List α) : Option α := l.reverse.find? p

lemma lastWhere_concat {α : Type} (p : α → Bool) (l : List α) (a : α) :
    lastWhere p (l ++ [a]) = if p a then some a else lastWhere p l := by
  rw [lastWhere, List.reverse_append, List.reverse_singleton, List.singleton_append,
    List.find?_cons]
  cases p a <;> rfl

lemma mem_of_lastWhere {α : Type} {p : α → Bool} {l : List α} {a : α}
    (h : lastWhere p l = some a) : a ∈ l ∧ p a = true :=
  ⟨List.mem_reverse.mp (List.mem_of_find?_eq_some h), List.find?_some h⟩

namespace SendThread

/-- A DATA packet of the message was written, by `run` or by `sendOnResendConn`. -/
def isDataWrite (id : ℕ) (e : Completion) : Bool :=
  decide (headerType e.packet = VcPacketType.data.toByte) && decide (headerMessageId e.packet = id)

/-- `run` wrote a packet, of any type, with the id in its header. -/
def isRunWrite (id : ℕ) (e : Completion) : Bool :=
  decide (e.path = .data) && decide (headerMessageId e.packet = id)

/-! ## What a step records -/

variable {s : SendThread}

/-- The attempt loop of a normal send that the thread is in. -/
def job? (s : SendThread) : Option SendJob :=
  match s.pc with
  | .sendAttempt job => some job
  | .sendFlush job _ => some job
  | _ => none

/-- The job tries data slots, and there are some. -/
def JobFits (s : SendThread) : Prop :=
  ∀ job, s.job? = some job →
    s.connections ≠ [] ∧ ∀ i ∈ job.order, i < vcFirstResendConnIndex

/-- Nothing was written to its end, and the thread is in the same job or in none. -/
structure Unrecorded (s s' : SendThread) : Prop where
  completed : s'.completed = s.completed
  messageTracker : s'.messageTracker = s.messageTracker
  connections : s'.connections = s.connections
  job : ∀ job, s'.job? = some job → ∃ old, s.job? = some old ∧ job.order = old.order

lemma Unrecorded.of_none {s' : SendThread} (hcompleted : s'.completed = s.completed)
    (htracker : s'.messageTracker = s.messageTracker) (hconns : s'.connections = s.connections)
    (hjob : s'.job? = none) : Unrecorded s s' :=
  ⟨hcompleted, htracker, hconns, fun job h => by rw [hjob] at h; cases h⟩

lemma unrecorded_leaveResend : Unrecorded s s.leaveResend := .of_none rfl rfl rfl rfl

lemma unrecorded_stepLoopHead : Unrecorded s s.stepLoopHead := by
  unfold stepLoopHead
  split_ifs
  · exact .of_none rfl rfl rfl rfl
  · exact unrecorded_leaveResend
  · exact .of_none rfl rfl rfl rfl

lemma unrecorded_stepDrainResend (resendBatch : ℕ) :
    Unrecorded s (s.stepDrainResend resendBatch) := by
  unfold stepDrainResend
  split_ifs
  · split
    · exact unrecorded_leaveResend
    · dsimp only
      split_ifs <;> exact .of_none rfl rfl rfl rfl
  · exact unrecorded_leaveResend

lemma unrecorded_resendFailed (job : ResendJob) : Unrecorded s (s.resendFailed job) := by
  unfold resendFailed
  dsimp only
  split_ifs <;> exact .of_none rfl rfl rfl rfl

lemma unrecorded_stepResendAttempt (job : ResendJob) (io : Io) :
    Unrecorded s (s.stepResendAttempt job io) := by
  unfold stepResendAttempt
  split
  · dsimp only
    split
    · exact .of_none rfl rfl rfl rfl
    · split
      · exact .of_none rfl rfl rfl rfl
      · split
        · exact .of_none rfl rfl rfl rfl
        · split
          · split <;> exact .of_none rfl rfl rfl rfl
          · exact .of_none rfl rfl rfl rfl
          · exact .of_none rfl rfl rfl rfl
  · exact unrecorded_resendFailed job

lemma unrecorded_stepTakePacket : Unrecorded s s.stepTakePacket := by
  unfold stepTakePacket
  split
  · exact .of_none rfl rfl rfl rfl
  · split <;> exact .of_none rfl rfl rfl rfl

lemma unrecorded_stepSendAttempt {job : SendJob} (io : Io) (hpc : s.pc = .sendAttempt job) :
    Unrecorded s (s.stepSendAttempt job io) := by
  have hjob : s.job? = some job := by simp only [job?, hpc]
  -- wherever the step leads inside the job, the order is the same
  have hsame : ∀ {s' : SendThread} {job' : SendJob}, s'.completed = s.completed →
      s'.messageTracker = s.messageTracker → s'.connections = s.connections →
      s'.job? = some job' → job'.order = job.order → Unrecorded s s' := by
    intro s' job' hcompleted htracker hconns hjob' horder
    refine ⟨hcompleted, htracker, hconns, fun new hnew => ⟨job, hjob, ?_⟩⟩
    rw [← horder, Option.some.inj (hnew.symm.trans hjob')]
  unfold stepSendAttempt
  split
  · split
    · exact hsame rfl rfl rfl rfl rfl
    · split
      · exact hsame rfl rfl rfl rfl rfl
      · dsimp only
        split
        · split
          · exact hsame rfl rfl rfl rfl rfl
          · exact hsame rfl rfl rfl rfl rfl
        · exact hsame rfl rfl rfl rfl rfl
        · exact hsame rfl rfl rfl rfl rfl
  · exact .of_none rfl rfl rfl rfl

/-- Every step, by what it does to the log and to the tracker. -/
inductive Records (s s' : SendThread) : Prop
  | nothing (h : Unrecorded s s')
  | start (hcompleted : s'.completed = s.completed)
      (htracker : s'.messageTracker = s.messageTracker)
      (hlength : s'.connections.length = s.connections.length) (hfits : s.JobFits → s'.JobFits)
  | byRun (job : SendJob) (conn : ConnId) (hjob : s.job? = some job)
      (hcompleted : s'.completed = s.completed ++ [⟨.data, job.idx, conn, job.data⟩])
      (htracker : s'.messageTracker
        = s.messageTracker.recordMessage (headerMessageId job.data) job.idx)
      (hconns : s'.connections = s.connections) (hjob' : s'.job? = none)
  | byResend (slot : ℕ) (conn : ConnId) (packet : Packet) (hslot : vcFirstResendConnIndex ≤ slot)
      (hcompleted : s'.completed = s.completed ++ [⟨.resend, slot, conn, packet⟩])
      (htracker : s'.messageTracker = s.messageTracker) (hconns : s'.connections = s.connections)
      (hjob' : s'.job? = none)

lemma records_stepStartPacket (data : Packet) (io : Io) :
    Records s (s.stepStartPacket data io) := by
  unfold stepStartPacket
  split
  · dsimp only
    split_ifs with hnull
    · exact .nothing (.of_none rfl rfl rfl rfl)
    · refine .start rfl rfl rfl fun _ job hjob => ?_
      have hjob := Option.some.inj hjob
      rw [← hjob]
      refine ⟨fun hnil => hnull (Or.inl ?_), fun i hi => ?_⟩
      · have hnil : s.connections = [] := hnil
        rw [numDataConns, hnil]
        rfl
      · have hlt := mem_connectionOrder hi
        rw [List.length_map, List.length_range] at hlt
        exact hlt.trans_le s.numDataConns_le
  · exact .nothing (.of_none rfl rfl rfl rfl)

lemma records_stepResendFlush (job : ResendJob) (flush : Flush) (io : Io) :
    Records s (s.stepResendFlush job flush io) := by
  unfold stepResendFlush
  rcases flushPass_cases s job.data flush io with heq | ⟨_, heq⟩ | ⟨n, _, _, _, heq⟩
  · rw [heq]
    dsimp only
    split_ifs
    · exact .nothing (.of_none rfl rfl rfl rfl)
    · exact .byResend _ _ _ (Nat.le_add_right _ _) rfl rfl rfl rfl
  · rw [heq]
    exact .nothing (.of_none rfl rfl rfl rfl)
  · rw [heq]
    exact .nothing (.of_none rfl rfl rfl rfl)

lemma records_stepSendFlush {job : SendJob} {flush : Flush} (io : Io)
    (hpc : s.pc = .sendFlush job flush) : Records s (s.stepSendFlush job flush io) := by
  have hjob : s.job? = some job := by simp only [job?, hpc]
  unfold stepSendFlush
  rcases flushPass_cases s job.data flush io with heq | ⟨_, heq⟩ | ⟨n, _, _, _, heq⟩
  · rw [heq]
    dsimp only
    split_ifs
    · refine .nothing ⟨rfl, rfl, rfl, fun new hnew => ⟨job, hjob, ?_⟩⟩
      rw [← Option.some.inj hnew]
      rfl
    · exact .byRun job flush.conn hjob rfl rfl rfl rfl
  · rw [heq]
    refine .nothing ⟨rfl, rfl, rfl, fun new hnew => ⟨job, hjob, ?_⟩⟩
    rw [← Option.some.inj hnew]
  · rw [heq]
    refine .nothing ⟨rfl, rfl, rfl, fun new hnew => ⟨job, hjob, ?_⟩⟩
    rw [← Option.some.inj hnew]

lemma records_replaceConnection (slot : ℤ) (c : ConnId) :
    Records s (s.replaceConnection slot c) := by
  unfold SendThread.replaceConnection
  split_ifs
  · exact .nothing ⟨rfl, rfl, rfl, fun job h => ⟨job, h, rfl⟩⟩
  · refine .start rfl rfl List.length_set fun hfits job hjob => ?_
    have ⟨hne, hlt⟩ := hfits job hjob
    exact ⟨fun hnil => hne ((List.set_eq_nil_iff _ _).mp hnil), hlt⟩

theorem records_step (s : SendThread) (e : Event) : Records s (s.step e) := by
  cases e with
  | thread io =>
    show Records s (s.threadStep io)
    unfold threadStep
    split
    · exact .nothing unrecorded_stepLoopHead
    · exact .nothing (unrecorded_stepDrainResend _)
    · exact .nothing (unrecorded_stepResendAttempt _ io)
    · exact records_stepResendFlush _ _ io
    · exact .nothing unrecorded_stepTakePacket
    · exact records_stepStartPacket _ io
    · exact .nothing (unrecorded_stepSendAttempt io (by assumption))
    · exact records_stepSendFlush io (by assumption)
    · exact .nothing ⟨rfl, rfl, rfl, fun job h => ⟨job, h, rfl⟩⟩
  | replaceConnection slot c => exact records_replaceConnection slot c
  | _ => exact .nothing ⟨rfl, rfl, rfl, fun job h => ⟨job, h, rfl⟩⟩

lemma length_connections_step (s : SendThread) (e : Event) :
    (s.step e).connections.length = s.connections.length := by
  cases records_step s e with
  | nothing h => rw [h.connections]
  | start _ _ hlength _ => exact hlength
  | byRun _ _ _ _ _ hconns _ => rw [hconns]
  | byResend _ _ _ _ _ _ hconns _ => rw [hconns]

lemma length_connections_run (s₀ : SendThread) (u : ℕ → Event) (n : ℕ) :
    (runState step s₀ u n).connections.length = s₀.connections.length := by
  induction n with
  | zero => rfl
  | succ n ih => exact (length_connections_step _ _).trans ih

/-- The number of data connections is that of the start, as `run` has it. -/
lemma numDataConns_run (s₀ : SendThread) (u : ℕ → Event) (n : ℕ) :
    (runState step s₀ u n).numDataConns = s₀.numDataConns :=
  numDataConns_of_length (length_connections_run s₀ u n)

/-! ## The invariant -/

/-- The tracker says where `run` last wrote a packet with that id in its header; `run` writes
to data slots and `sendOnResendConn` to resend slots. -/
structure Recorded (s : SendThread) : Prop where
  shards : s.messageTracker.shards.length = s.connections.length
  job : s.JobFits
  runSlot : ∀ e ∈ s.completed, e.path = .data → e.slot < vcFirstResendConnIndex
  resendSlot : ∀ e ∈ s.completed, e.path = .resend → vcFirstResendConnIndex ≤ e.slot
  tracker : ∀ id, s.messageTracker.getConnectionIndex id
    = (lastWhere (isRunWrite id) s.completed).map Completion.slot

lemma recorded_initial (hinit : Initial s)
    (htracker : s.messageTracker = .init s.connections.length) : Recorded s where
  shards := by
    rw [htracker]
    exact List.length_replicate
  job job hjob := by
    rw [job?, hinit.pc] at hjob
    cases hjob
  runSlot e he := by
    rw [hinit.completed] at he
    exact absurd he List.not_mem_nil
  resendSlot e he := by
    rw [hinit.completed] at he
    exact absurd he List.not_mem_nil
  tracker id := by
    rw [htracker, MessageTracker.getConnectionIndex_init, hinit.completed]
    rfl

lemma idx_lt {job : SendJob} (h : ∀ i ∈ job.order, i < vcFirstResendConnIndex) :
    job.idx < vcFirstResendConnIndex := by
  rw [SendJob.idx, List.getD_eq_getElem?_getD]
  cases hget : job.order[job.rank]? with
  | none => decide
  | some i => exact h i (List.mem_of_getElem? hget)

/-- Nothing is written, and nothing recorded. -/
lemma Recorded.congr {s' : SendThread} (hs : Recorded s) (hcompleted : s'.completed = s.completed)
    (htracker : s'.messageTracker = s.messageTracker)
    (hlength : s'.connections.length = s.connections.length) (hfits : s'.JobFits) :
    Recorded s' := by
  refine ⟨?_, hfits, ?_, ?_, ?_⟩
  · rw [htracker, hlength]
    exact hs.shards
  · rw [hcompleted]
    exact hs.runSlot
  · rw [hcompleted]
    exact hs.resendSlot
  · rw [hcompleted, htracker]
    exact hs.tracker

theorem recorded_step (hs : Recorded s) (e : Event) : Recorded (s.step e) := by
  cases records_step s e with
  | nothing h =>
    refine hs.congr h.completed h.messageTracker (by rw [h.connections]) fun job hjob => ?_
    obtain ⟨old, hold, horder⟩ := h.job job hjob
    rw [h.connections, horder]
    exact hs.job old hold
  | start hcompleted htracker hlength hfits =>
    exact hs.congr hcompleted htracker hlength (hfits hs.job)
  | byRun job conn hjob hcompleted htracker hconns hjob' =>
    have ⟨hne, horder⟩ := hs.job job hjob
    have hshards : 0 < s.messageTracker.shards.length := by
      rw [hs.shards]
      exact List.length_pos_iff.mpr hne
    refine ⟨?_, fun new hnew => ?_, fun e he hpath => ?_, fun e he hpath => ?_, fun id => ?_⟩
    · rw [htracker, hconns, MessageTracker.recordMessage, List.length_modify]
      exact hs.shards
    · rw [hjob'] at hnew
      cases hnew
    · rw [hcompleted, List.mem_append, List.mem_singleton] at he
      rcases he with he | rfl
      · exact hs.runSlot e he hpath
      · exact idx_lt horder
    · rw [hcompleted, List.mem_append, List.mem_singleton] at he
      rcases he with he | rfl
      · exact hs.resendSlot e he hpath
      · cases hpath
    · rw [hcompleted, htracker, lastWhere_concat,
        MessageTracker.getConnectionIndex_recordMessage hshards, hs.tracker id]
      by_cases hid : id = headerMessageId job.data
      · rw [if_pos hid, if_pos (by rw [isRunWrite, hid]; simp)]
        rfl
      · rw [if_neg hid, if_neg (by rw [isRunWrite]; simp [Ne.symm hid])]
  | byResend slot conn packet hslot hcompleted htracker hconns hjob' =>
    refine ⟨?_, fun new hnew => ?_, fun e he hpath => ?_, fun e he hpath => ?_, fun id => ?_⟩
    · rw [htracker, hconns]
      exact hs.shards
    · rw [hjob'] at hnew
      cases hnew
    · rw [hcompleted, List.mem_append, List.mem_singleton] at he
      rcases he with he | rfl
      · exact hs.runSlot e he hpath
      · cases hpath
    · rw [hcompleted, List.mem_append, List.mem_singleton] at he
      rcases he with he | rfl
      · exact hs.resendSlot e he hpath
      · exact hslot
    · rw [hcompleted, htracker, lastWhere_concat, hs.tracker id]
      rfl

/-! ## Who is blamed -/

/-- The slot is the one recorded for the message, and the one that a resend request or a
notification for the message marks as degraded. -/
def Blames (s : SendThread) (id slot : ℕ) : Prop :=
  s.messageTracker.getConnectionIndex id = some slot
    ∧ ∀ ch : TcpVirtualChannel, ch.sendThread = s → ∀ now,
      (ch.processResendRequest id now).socketStatuses
          = ch.socketStatuses.modify slot (fun status => status.markDegraded now)
        ∧ (TcpVirtualChannel.resendMissing now ch id).socketStatuses
          = ch.socketStatuses.modify slot (fun status => status.markDegraded now)

lemma resendCallback_socketStatuses (ch : TcpVirtualChannel) (id : ℕ) (data : List UInt8) :
    (ch.resendCallback id data).socketStatuses = ch.socketStatuses := by
  unfold TcpVirtualChannel.resendCallback
  split_ifs <;> rfl

lemma blames_iff {id slot : ℕ} :
    s.Blames id slot ↔ s.messageTracker.getConnectionIndex id = some slot := by
  refine ⟨And.left, fun h => ⟨h, fun ch hch now => ?_⟩⟩
  have hmark : (ch.markDegraded id now).socketStatuses
      = ch.socketStatuses.modify slot (fun status => status.markDegraded now) := by
    rw [TcpVirtualChannel.markDegraded, hch, h]
  constructor
  · unfold TcpVirtualChannel.processResendRequest
    dsimp only
    split
    · rw [resendCallback_socketStatuses, hmark]
    · exact hmark
  · unfold TcpVirtualChannel.resendMissing
    dsimp only
    split
    · exact hmark
    · split
      · show ((ch.markDegraded id now).resendCallback id _).socketStatuses = _
        rw [resendCallback_socketStatuses, hmark]
      · exact hmark

/-- After the DATA packet of a message was written whole, last with completion `c`, the slot
of `c` is blamed for it if and only if `run` wrote it, and the last packet that `run` wrote
with this id in its header went to that slot too. -/
theorem attributed_iff {s₀ : SendThread} (hinit : Initial s₀)
    (htracker : s₀.messageTracker = .init s₀.connections.length) (u : ℕ → Event) (n id : ℕ)
    {c : Completion} (hc : lastWhere (isDataWrite id) (runState step s₀ u n).completed = some c) :
    (runState step s₀ u n).Blames id c.slot
      ↔ c.path = .data ∧ ∀ d, lastWhere (isRunWrite id) (runState step s₀ u n).completed = some d →
          d.slot = c.slot := by
  have hs : Recorded (runState step s₀ u n) :=
    runState_invariant (Q := fun _ => True) (recorded_initial hinit htracker)
      (fun _ e _ hs => recorded_step hs e) (fun _ => trivial) n
  have ⟨hmem, hdata⟩ := mem_of_lastWhere hc
  rw [blames_iff, hs.tracker id, Option.map_eq_some_iff]
  constructor
  · rintro ⟨d, hd, hslot⟩
    have ⟨hdmem, hrun⟩ := mem_of_lastWhere hd
    have hpath : d.path = .data := of_decide_eq_true (Bool.and_eq_true_iff.mp hrun).1
    have hlt := hs.runSlot d hdmem hpath
    refine ⟨?_, fun d' hd' => ?_⟩
    · cases hcpath : c.path with
      | data => rfl
      | resend =>
        have hle := hs.resendSlot c hmem hcpath
        omega
    · rw [Option.some.inj (hd'.symm.trans hd)]
      exact hslot
  · rintro ⟨hpath, hlast⟩
    have hid : headerMessageId c.packet = id :=
      of_decide_eq_true (Bool.and_eq_true_iff.mp hdata).2
    have hrun : isRunWrite id c = true := by rw [isRunWrite, hpath, hid]; simp
    have hsome : (lastWhere (isRunWrite id) (runState step s₀ u n).completed).isSome := by
      rw [lastWhere, List.find?_isSome]
      exact ⟨c, List.mem_reverse.mpr hmem, hrun⟩
    obtain ⟨d, hd⟩ := Option.isSome_iff_exists.mp hsome
    exact ⟨d, hd, hlast d hd⟩

/-! ## Two short runs -/

lemma initial_opening (config : ReorderConfig) (connections : List ConnId) :
    Initial (TcpVirtualChannel.opening config connections).sendThread :=
  ⟨fun _ => rfl, rfl, rfl, rfl, rfl, rfl, rfl⟩

/-- The send thread of a channel with two connections. -/
def twoConnections : SendThread := (TcpVirtualChannel.opening {} [0, 1]).sendThread

lemma initial_twoConnections : Initial twoConnections := initial_opening {} [0, 1]

/-- The message 0 goes to slot 0, then a notification about the message 5 to slot 1. -/
def dataThenNotify : ℕ → Event :=
  let sendOne := [.thread {}, .thread {}, .thread {}, .thread { sendResult := .sent 100 },
    .thread {}]
  listInputs ([.enqueueSend (vcDataPacket 0 [7]), .enqueueSend (vcMissingNotify [5])]
    ++ sendOne ++ sendOne) .cancelWait

/-- Between the two, slot 0 is blamed. -/
theorem attributed_before_notify :
    lastWhere (isDataWrite 0) (runState step twoConnections dataThenNotify 7).completed
        = some ⟨.data, 0, 0, vcDataPacket 0 [7]⟩
      ∧ (runState step twoConnections dataThenNotify 7).Blames 0 0 := by
  have hc : lastWhere (isDataWrite 0) (runState step twoConnections dataThenNotify 7).completed
      = some ⟨.data, 0, 0, vcDataPacket 0 [7]⟩ := rfl
  have hrun : lastWhere (isRunWrite 0) (runState step twoConnections dataThenNotify 7).completed
      = some ⟨.data, 0, 0, vcDataPacket 0 [7]⟩ := rfl
  refine ⟨hc, (attributed_iff initial_twoConnections rfl dataThenNotify 7 0 hc).mpr ⟨rfl, ?_⟩⟩
  intro d hd
  exact congrArg Completion.slot (Option.some.inj (hd.symm.trans hrun))

theorem notify_blames_other_slot :
    lastWhere (isDataWrite 0) (runState step twoConnections dataThenNotify 12).completed
        = some ⟨.data, 0, 0, vcDataPacket 0 [7]⟩
      ∧ (runState step twoConnections dataThenNotify 12).messageTracker.getConnectionIndex 0
        = some 1
      ∧ ¬(runState step twoConnections dataThenNotify 12).Blames 0 0 := by
  have htracker :
      (runState step twoConnections dataThenNotify 12).messageTracker.getConnectionIndex 0
        = some 1 := rfl
  refine ⟨rfl, htracker, fun h => ?_⟩
  rw [blames_iff, htracker] at h
  cases h

end SendThread
end TcpUdp
