import TcpUdp.SendBursts
import TcpUdp.PayloadCustody
import TcpUdp.ReceiverProgress

/-!
# Every accepted payload arrives, or there is a reason

The progress of the two sides put together. If the threads of both ends are scheduled, the sender
has one healthy data connection and stays open, then every payload that `send` has accepted is
delivered in the end, unless its first copy went over a connection that does not bring all its
bytes, came to a full receive queue, or was passed by the gap timer (`eventually_delivered`).
-/

namespace TcpUdp

open Lib

namespace SendThread

lemma completedOn_step (s : SendThread) (e : Event) (c : ConnId) :
    s.writer.completedOn c <+: (s.step e).writer.completedOn c :=
  (((completed_step s e).map _).filter _).map _

end SendThread

namespace TcpVirtualChannel

variable {ch : TcpVirtualChannel} {wire : ConnId → List UInt8} {e : Event}

/-- The step of the send thread in an event. -/
def turn : Event → SendThread.Event
  | .sendThread io => .thread io
  | _ => SendThread.noTurn

lemma vcDataPacket_ne_nil (messageId : ℕ) (data : List UInt8) : vcDataPacket messageId data ≠ [] :=
  List.cons_ne_nil _ _

lemma Resends.burst {ch' : TcpVirtualChannel} {turn : SendThread.Event} (h : Resends ch ch')
    (hturn : turn = SendThread.noTurn) : ∃ es, SendThread.Burst turn es
      ∧ ch'.sendThread = es.foldl SendThread.step ch.sendThread := by
  obtain ⟨es, statuses, pendingIds, hes, rfl⟩ := h
  refine ⟨es, .packets hturn fun e he => ?_, rfl⟩
  obtain ⟨messageId, data, rfl⟩ := hes e he
  exact ⟨_, vcDataPacket_ne_nil messageId data, Or.inr rfl⟩

/-- An event of a channel that stays open is a burst of its send thread. -/
lemma step_burst (hopen : (ch.step wire e).opened = true) : ∃ es, SendThread.Burst (turn e) es
    ∧ (ch.step wire e).sendThread = es.foldl SendThread.step ch.sendThread := by
  have hnothing : turn e = SendThread.noTurn → (ch.step wire e).sendThread = ch.sendThread →
      ∃ es, SendThread.Burst (turn e) es
        ∧ (ch.step wire e).sendThread = es.foldl SendThread.step ch.sendThread :=
    fun hturn hsame => ⟨[], .nothing hturn, hsame⟩
  cases e with
  | send data =>
    show ∃ es, _ ∧ (ch.send data).sendThread = _
    rw [send]
    split_ifs
    case neg =>
      refine ⟨[.enqueueSend (vcDataPacket ch.lastSendMessageId data)], .packets rfl ?_, rfl⟩
      intro e he
      exact ⟨_, vcDataPacket_ne_nil _ _, Or.inl (List.mem_singleton.mp he)⟩
    all_goals exact ⟨[], .nothing rfl, rfl⟩
  | sendThread io => exact ⟨[.thread io], .thread io rfl rfl, rfl⟩
  | read slot sizes last =>
    show ∃ es, _ ∧ (ch.read wire slot sizes last).sendThread = _
    rw [read]
    split
    · exact ⟨[], .nothing rfl, rfl⟩
    · split_ifs
      · rename_i c readBuffer _ _
        rw [receive]
        dsimp only
        split_ifs
        · exact ⟨[], .nothing rfl, rfl⟩
        · exact ⟨[.disconnect c], .connection (.disconnect c) rfl rfl (Or.inl ⟨c, rfl⟩), rfl⟩
      · exact ⟨[], .nothing rfl, rfl⟩
  | callback now =>
    rcases callback_resends ch now with ⟨messageId, data, connIndex, heq⟩ | hresends
    · obtain ⟨queues, hqueues⟩ := processReceivedData_eq
        (ch.withCallbacks ch.ioThread.callbacks.tail) messageId data connIndex
      refine hnothing rfl ?_
      show (ch.callback now).sendThread = _
      rw [heq, hqueues]
      rfl
    · exact hresends.burst rfl
  | reorderThread gapNow notifyNow waitNow =>
    show ∃ es, _ ∧ (ch.reorderStep gapNow notifyNow waitNow).sendThread = _
    rw [reorderStep]
    split
    · rw [finishIteration]
      dsimp only
      split
      · rename_i missingIds _
        rw [missingNotifyCallback]
        split_ifs
        · exact ⟨[], .nothing rfl, rfl⟩
        · refine ⟨[.enqueueSend (vcMissingNotify missingIds)], .packets rfl ?_, rfl⟩
          intro e he
          exact ⟨_, List.cons_ne_nil _ _, Or.inl (List.mem_singleton.mp he)⟩
      · exact ⟨[], .nothing rfl, rfl⟩
    · split
      · exact ⟨[], .nothing rfl, rfl⟩
      · exact ⟨[], .nothing rfl, rfl⟩
  | disconnect c => exact ⟨[.disconnect c], .connection _ rfl rfl (Or.inl ⟨c, rfl⟩), rfl⟩
  | disconnectCB =>
    have hopen' : ch.disconnectCB.opened = true := hopen
    refine hnothing rfl ?_
    show ch.disconnectCB.sendThread = ch.sendThread
    rw [disconnectCB] at hopen' ⊢
    split_ifs at hopen' ⊢
    · rfl
    · rfl
  | installConnection slot c =>
    refine hnothing rfl ?_
    show (ch.installConnection slot c).sendThread = ch.sendThread
    rw [installConnection]
    split_ifs <;> rfl
  | ioReplaceConnection slot c => exact hnothing rfl rfl
  | sendReplaceConnection slot c =>
    exact ⟨[.replaceConnection slot c], .connection _ rfl rfl (Or.inr ⟨slot, c, rfl⟩), rfl⟩

end TcpVirtualChannel
end TcpUdp
