import TcpUdp.ChannelSending
import TcpUdp.ReorderConservation

/-!
# What a channel delivers

The receiving side of a channel, against the streams `wire` of its peer and the payloads
`accepted` that the peer took. Each slot has parsed a prefix of its connection's stream
(`Intake`), so what it calls back is genuine; what is dequeued is genuine (`Carries`), and so
is what the reorder buffer delivers, in the order of the ids (`Delivers`). Hence the
delivered payloads are a subsequence of the accepted ones (`Delivers.sublist`).
-/

namespace TcpUdp
namespace TcpVirtualChannel

open Lib

variable {ch ch' : TcpVirtualChannel} {wire wire' : ConnId → List UInt8}
  {accepted accepted' : List (List UInt8)}

/-! ## Reading the connections -/

/-- Each slot has its own connection, and what it has taken of it is parsed up to what its
buffer holds. -/
structure Intake (wire : ConnId → List UInt8) (ch : TcpVirtualChannel) : Prop where
  taken : ∀ c, ch.ioThread.received c <+: wire c
  untouched : ∀ c, c ∉ ch.ioThread.used → ch.ioThread.received c = []
  used : ∀ e ∈ ch.ioThread.slots, e.1 ∈ ch.ioThread.used
  distinct : (ch.ioThread.slots.map Prod.fst).Nodup
  parsed : ∀ e ∈ ch.ioThread.slots, (ch.sendThread.conns e.1).connected = true →
    ∃ cbs, Received { readBuffer := e.2 } (ch.ioThread.received e.1) cbs

lemma intake_opening (config : ReorderConfig) {connections : List ConnId}
    (hdistinct : connections.Nodup) : Intake wire (opening config connections) := by
  have hslots : (opening config connections).ioThread.slots
      = connections.map fun c => (c, {}) := rfl
  refine ⟨fun _ => List.nil_prefix, fun _ _ => rfl, fun e he => ?_, ?_, fun e he _ => ?_⟩
  · rw [hslots] at he
    obtain ⟨c, hc, rfl⟩ := List.mem_map.mp he
    exact hc
  · rw [hslots, List.map_map]
    exact (List.map_id connections).symm ▸ hdistinct
  · rw [hslots] at he
    obtain ⟨c, hc, rfl⟩ := List.mem_map.mp he
    exact ⟨[], received_empty⟩

/-- The peer may have written more. -/
lemma Intake.mono (h : Intake wire ch) (hwire : ∀ c, wire c <+: wire' c) : Intake wire' ch :=
  ⟨fun c => (h.taken c).trans (hwire c), h.untouched, h.used, h.distinct, h.parsed⟩

/-- The slots are as before; connections may have died. -/
lemma Intake.of_drives (h : Intake wire ch) {P : Packet → Prop}
    (hdrives : SendThread.Drives P ch.sendThread ch'.sendThread)
    (hslots : ch'.ioThread.slots = ch.ioThread.slots)
    (hreceived : ch'.ioThread.received = ch.ioThread.received)
    (hused : ch'.ioThread.used = ch.ioThread.used) : Intake wire ch' := by
  constructor
  · rw [hreceived]; exact h.taken
  · rw [hreceived, hused]; exact h.untouched
  · rw [hslots, hused]; exact h.used
  · rw [hslots]; exact h.distinct
  · rw [hslots, hreceived]
    exact fun e he hconn => h.parsed e he (hdrives.connected_of hconn)

/-- A new connection has an empty buffer, and nothing of it was read before. -/
lemma Intake.replace (h : Intake wire ch) (slot : ℕ) {c : ConnId} (hc : c ∉ ch.ioThread.used) :
    Intake wire { ch with ioThread := { ch.ioThread with
      slots := ch.ioThread.slots.set slot (c, {}), used := c :: ch.ioThread.used } } := by
  have hnew : c ∉ ch.ioThread.slots.map Prod.fst := fun hmem => by
    obtain ⟨e, he, rfl⟩ := List.mem_map.mp hmem
    exact hc (h.used e he)
  refine ⟨h.taken, fun c' hc' => h.untouched c' fun hmem => hc' (List.mem_cons_of_mem _ hmem),
    fun e he => ?_, ?_, fun e he hconn => ?_⟩
  · rcases List.mem_or_eq_of_mem_set he with he | rfl
    · exact List.mem_cons_of_mem _ (h.used e he)
    · exact List.mem_cons_self
  · rw [List.map_set]
    exact h.distinct.set hnew
  · rcases List.mem_or_eq_of_mem_set he with he | rfl
    · exact h.parsed e he hconn
    · show ∃ cbs, Received {} (ch.ioThread.received c) cbs
      rw [h.untouched c hc]
      exact ⟨[], received_empty⟩

/-- The peer's connections carry genuine packets. -/
def Authenticated (accepted : List (List UInt8)) (wire : ConnId → List UInt8) : Prop :=
  ∀ c, ∃ cbs t, vcFormat.IsStream cbs t (wire c) ∧ ∀ cb ∈ cbs, Genuine accepted cb

section Read

variable {c : ConnId} {readBuffer : ReadBuffer} {results : List RecvResult}

/-- The bytes that a call takes continue those that were taken before. -/
lemma Intake.taken_append (h : Intake wire ch)
    (hbytes : recvBytes results <+: (wire c).drop (ch.ioThread.received c).length) :
    ch.ioThread.received c ++ recvBytes results <+: wire c := by
  obtain ⟨rest, hrest⟩ := h.taken c
  rw [← hrest, List.drop_left] at hbytes
  rw [← hrest]
  exact (List.prefix_append_right_inj _).mpr hbytes

/-- A call calls back genuine packets, and leaves the rest in the buffer unless it finds the
connection dead. -/
lemma read_genuine (hwire : Authenticated accepted wire) {x : List UInt8}
    {cbs : List IoCallback} (h : Received { readBuffer := readBuffer } x cbs)
    (hx : x ++ recvBytes results <+: wire c) :
    (∀ cb ∈ (readFromConnection { readBuffer := readBuffer } results).1, Genuine accepted cb) ∧
    ((readFromConnection { readBuffer := readBuffer } results).2.connected = true →
      Received { readBuffer :=
          (readFromConnection { readBuffer := readBuffer } results).2.readBuffer }
        (x ++ recvBytes results)
        (cbs ++ (readFromConnection { readBuffer := readBuffer } results).1)) := by
  by_cases hlive : Live results
  · obtain ⟨as, t, hstream, hgenuine⟩ := hwire c
    -- what was taken so far is a stream of the first few genuine packets
    obtain ⟨k, t', hpre⟩ := hstream.of_prefix hx
    have hread := h.read hlive hpre
    obtain ⟨heq, -⟩ := hread.stream.unique hpre
    refine ⟨fun cb hcb => ?_, fun hconn => ⟨rfl, hread.wf, hread.stream⟩⟩
    refine hgenuine cb (List.mem_of_mem_take (i := k) ?_)
    rw [← heq]
    exact List.mem_append_right _ hcb
  · obtain ⟨hnone, hdead⟩ := @readFromConnection_dead { readBuffer := readBuffer } rfl _ hlive
    refine ⟨fun cb hcb => ?_, fun hconn => ?_⟩
    · rw [hnone] at hcb; cases hcb
    · rw [hdead] at hconn; cases hconn

/-- A call leaves the other slots alone, and its own in order. -/
lemma Intake.receive (h : Intake wire ch) (hwire : Authenticated accepted wire) {slot : ℕ}
    (hslot : ch.ioThread.slots[slot]? = some (c, readBuffer))
    (hconn : (ch.sendThread.conns c).connected = true)
    (hbytes : recvBytes results <+: (wire c).drop (ch.ioThread.received c).length) :
    Intake wire (ch.receive slot c readBuffer results) := by
  have hmem := List.mem_of_getElem? hslot
  have hx := h.taken_append hbytes
  obtain ⟨cbs, hparsed⟩ := h.parsed _ hmem hconn
  have hkept := (read_genuine hwire hparsed hx).2
  -- a call changes the buffer of its slot and no connection
  have hkeys : ((ch.receive slot c readBuffer results).ioThread.slots).map Prod.fst
      = ch.ioThread.slots.map Prod.fst := by
    obtain ⟨hlt, heq⟩ := List.getElem?_eq_some_iff.mp hslot
    show (ch.ioThread.slots.set slot (c, _)).map Prod.fst = _
    rw [List.map_set]
    refine List.ext_getElem (by simp) fun i hi _ => ?_
    rw [List.getElem_set]
    split_ifs with hi'
    · subst hi'
      rw [List.getElem_map, heq]
    · rfl
  have hdistinct := hkeys ▸ h.distinct
  -- the slot that was read is the only one with its connection
  have hself : (c, (readFromConnection { readBuffer := readBuffer } results).2.readBuffer)
      ∈ (ch.receive slot c readBuffer results).ioThread.slots :=
    List.mem_iff_getElem?.mpr ⟨slot, List.getElem?_set_self (List.getElem?_eq_some_iff.mp hslot).1⟩
  refine ⟨fun c' => ?_, fun c' hc' => ?_, fun e he => ?_, hdistinct, fun e he hup => ?_⟩
  · show Function.update ch.ioThread.received c _ c' <+: wire c'
    rw [Function.update_apply]
    split_ifs with hc
    · rw [hc]; exact hx
    · exact h.taken c'
  · have hne : c' ≠ c := fun hc => hc' (hc ▸ h.used _ hmem)
    show Function.update ch.ioThread.received c _ c' = []
    rw [Function.update_of_ne hne]
    exact h.untouched c' hc'
  · have he' : e.1 ∈ ch.ioThread.slots.map Prod.fst := hkeys ▸ List.mem_map_of_mem he
    obtain ⟨old, hold, heq⟩ := List.mem_map.mp he'
    exact heq ▸ h.used old hold
  · have hup' := (drives_receive (P := fun _ => True) slot c readBuffer results).connected_of hup
    show ∃ cbs, Received _ (Function.update ch.ioThread.received c _ e.1) cbs
    by_cases hc : e.1 = c
    · obtain rfl : e = (c, _) := List.inj_on_of_nodup_map hdistinct he hself hc
      rw [Function.update_self]
      refine ⟨_, hkept ?_⟩
      -- a connection found dead is disconnected
      by_contra hdead
      have hthread : (ch.receive slot c readBuffer results).sendThread
          = ch.sendThread.step (.disconnect c) := if_neg hdead
      rw [hthread] at hup
      have hcut : ((ch.sendThread.step (.disconnect c)).conns c).connected = false := by
        show (Function.update ch.sendThread.conns c (ch.sendThread.conns c).disconnect c).connected
          = false
        rw [Function.update_self]
        rfl
      exact absurd hup (by rw [hcut]; exact Bool.false_ne_true)
    · rw [Function.update_of_ne hc]
      rcases List.mem_or_eq_of_mem_set he with he | rfl
      · exact h.parsed e he hup'
      · exact absurd rfl hc

end Read

/-! ## Delivering -/

/-- What the reorder thread has dequeued is genuine, and what it delivered is what the
reorder buffer makes of that. -/
def Delivers (accepted : List (List UInt8)) (ch : TcpVirtualChannel) : Prop :=
  ∃ h : Reorder.History, Reorder.Conserved ch.reorder h ∧ h.delivered = ch.delivered ∧
    ∀ item ∈ h.dequeued, accepted[item.messageId]? = some item.data

lemma Delivers.mono (h : Delivers accepted ch) (hpre : accepted <+: accepted') :
    Delivers accepted' ch := by
  obtain ⟨history, hconserved, hdelivered, hdequeued⟩ := h
  exact ⟨history, hconserved, hdelivered, fun item hitem =>
    accepted_mono hpre (hdequeued item hitem)⟩

lemma Delivers.of_eq (h : Delivers accepted ch) (hreorder : ch'.reorder = ch.reorder)
    (hdelivered : ch'.delivered = ch.delivered) : Delivers accepted ch' := by
  rw [Delivers, hreorder, hdelivered]
  exact h

/-- Genuine items with increasing ids are a subsequence of what was accepted. -/
lemma sublist_of_increasing {items : List DeliveryItem} {k : ℕ}
    (hincreasing : (items.map DeliveryItem.messageId).Pairwise (· < ·))
    (hfrom : ∀ item ∈ items, k ≤ item.messageId)
    (hgenuine : ∀ item ∈ items, accepted[item.messageId]? = some item.data) :
    (items.map DeliveryItem.data).Sublist (accepted.drop k) := by
  induction items generalizing k with
  | nil => exact List.nil_sublist _
  | cons item items ih =>
    rw [List.map_cons, List.pairwise_cons] at hincreasing
    obtain ⟨hlt, hdata⟩ := List.getElem?_eq_some_iff.mp (hgenuine item List.mem_cons_self)
    have hrest := ih hincreasing.2
      (fun later hlater => hincreasing.1 _ (List.mem_map_of_mem hlater))
      fun later hlater => hgenuine later (List.mem_cons_of_mem _ hlater)
    -- the first item is the element at its id; the others lie beyond it
    refine List.Sublist.trans ?_
      (List.drop_sublist_drop_left accepted (hfrom item List.mem_cons_self))
    rw [List.map_cons, List.drop_eq_getElem_cons hlt, hdata]
    exact hrest.cons_cons _

theorem Delivers.sublist (h : Delivers accepted ch) :
    (ch.delivered.map DeliveryItem.data).Sublist accepted := by
  obtain ⟨history, hconserved, hdelivered, hdequeued⟩ := h
  rw [← hdelivered]
  exact sublist_of_increasing (k := 0) hconserved.increasing (fun _ _ => Nat.zero_le _)
    fun item hitem => hdequeued item
      (hconserved.kept_sub item (Reorder.messageId_firstCopy (hconserved.first item hitem)).1)

/-! ## The receiving side -/

structure Receiving (accepted : List (List UInt8)) (wire : ConnId → List UInt8)
    (ch : TcpVirtualChannel) : Prop where
  intake : Intake wire ch
  carries : Carries (fun messageId data => accepted[messageId]? = some data) ch
  delivers : Delivers accepted ch

lemma receiving_opening (config : ReorderConfig) {connections : List ConnId}
    (hdistinct : connections.Nodup) : Receiving accepted wire (opening config connections) := by
  refine ⟨intake_opening config hdistinct, ⟨fun _ _ _ h => (nomatch h), fun queue hqueue => ?_,
    fun _ h => (nomatch h)⟩, ⟨{}, Reorder.conserved_init, rfl, fun _ h => (nomatch h)⟩⟩
  rw [List.eq_of_mem_replicate hqueue]
  exact fun _ h => (nomatch h)

/-- The peer may have accepted and written more. -/
lemma Receiving.mono (h : Receiving accepted wire ch) (haccepted : accepted <+: accepted')
    (hwire : ∀ c, wire c <+: wire' c) : Receiving accepted' wire' ch where
  intake := h.intake.mono hwire
  carries :=
    ⟨fun slot id data hmem => accepted_mono haccepted (h.carries.callbacks slot id data hmem),
      fun queue hqueue item hitem =>
        accepted_mono haccepted (h.carries.queues queue hqueue item hitem),
      fun item hitem => accepted_mono haccepted (h.carries.arrivals item hitem)⟩
  delivers := h.delivers.mono haccepted

theorem receiving_step (h : Receiving accepted wire ch) (hwire : Authenticated accepted wire)
    (hcount : accepted.length < uint64Size - 1) (e : Event) :
    Receiving accepted wire (ch.step wire e) := by
  have hcarries : Carries (fun messageId data => accepted[messageId]? = some data)
      (ch.step wire e) := by
    refine carries_step h.carries e fun slot sizes last _ connIndex id data hmem => ?_
    rcases mem_callbacks_read hmem
      with hmem | ⟨c, readBuffer, results, hslot, hconn, hbytes, hmem⟩
    · exact h.carries.callbacks connIndex id data hmem
    · obtain ⟨cbs, hparsed⟩ := h.intake.parsed _ (List.mem_of_getElem? hslot) hconn
      exact (read_genuine hwire hparsed (h.intake.taken_append hbytes)).1 _ hmem
  refine ⟨?_, hcarries, ?_⟩
  · rcases step_cases (P := fun _ => True) (fun _ _ _ => trivial) wire e
      with hquiet | ⟨data, -, heq⟩ | ⟨slot, c, readBuffer, results, hslot, hconn, hbytes, heq⟩
      | ⟨gapNow, notifyNow, waitNow, heq⟩ | ⟨slot, c, hc, heq⟩
    · exact h.intake.of_drives hquiet.drives hquiet.slots hquiet.received hquiet.used
    · have hdrives := step_drives wire ch e
      rw [heq] at hdrives ⊢
      exact h.intake.of_drives hdrives rfl rfl rfl
    · rw [heq]
      exact h.intake.receive hwire hslot hconn hbytes
    · obtain ⟨ch', he, heq'⟩ := finishIteration_eq ch gapNow notifyNow waitNow
      rw [heq, heq']
      exact h.intake.of_drives he.drives (congrArg TcpVCIoThread.slots he.ioThread)
        (congrArg TcpVCIoThread.received he.ioThread) (congrArg TcpVCIoThread.used he.ioThread)
    · rw [heq]
      exact h.intake.replace slot hc
  · rcases reorder_step wire ch e with ⟨hsame, hsame'⟩ | ⟨tick, harrivals, hstep, hstep'⟩
    · exact h.delivers.of_eq hsame hsame'
    · -- an iteration of the reorder thread over the items it has dequeued
      obtain ⟨history, hconserved, hdelivered, hdequeued⟩ := h.delivers
      have hgenuine := h.carries.arrivals
      rw [← harrivals] at hgenuine
      have hids : ∀ item ∈ tick.arrivals, item.messageId < uint64Size - 1 := fun item hitem =>
        lt_trans (List.getElem?_eq_some_iff.mp (hgenuine item hitem)).1 hcount
      rw [Delivers, hstep, hstep']
      refine ⟨_, Reorder.conserved_iteration hconserved ch.config hids, ?_, fun item hitem => ?_⟩
      · rw [hdelivered]
      · rcases List.mem_append.mp hitem with hitem | hitem
        · exact hdequeued item hitem
        · exact hgenuine item hitem

end TcpVirtualChannel
end TcpUdp
