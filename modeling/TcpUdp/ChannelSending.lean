import TcpUdp.ChannelTheorems

/-!
# What a channel writes to its connections

Every stream of a channel is a stream of packets that carry accepted payloads under the ids
that `send` gave them, or notifications (`Sending`, `Sending.isStream`). Resends are no
exception: the cache holds what `send` built.

The notifications come from the channel's own receiving side, so their ids have to fit into
64 bits, which they do because the ids that the parse loop reads are read from eight bytes
(`IdsFit`).
-/

namespace TcpUdp
namespace TcpVirtualChannel

open Lib

variable {ch ch' : TcpVirtualChannel} {wire : ConnId → List UInt8}
  {accepted accepted' : List (List UInt8)}

/-! ## Ids on the receiving side -/

structure IdsFit (ch : TcpVirtualChannel) : Prop where
  carries : Carries (fun messageId _ => messageId < uint64Size) ch
  resting : Reorder.Resting ch.reorder

lemma idsFit_opening (config : ReorderConfig) (connections : List ConnId) :
    IdsFit (opening config connections) := by
  refine ⟨⟨fun _ _ _ h => (nomatch h), fun queue hqueue => ?_, fun _ h => (nomatch h)⟩,
    Reorder.resting_init⟩
  rw [List.eq_of_mem_replicate hqueue]
  exact fun _ h => (nomatch h)

lemma idsFit_step (h : IdsFit ch) (e : Event) : IdsFit (ch.step wire e) := by
  constructor
  · refine carries_step h.carries e fun slot sizes last _ connIndex id data hmem => ?_
    rcases mem_callbacks_read hmem with hmem | ⟨c, readBuffer, results, -, -, -, hmem⟩
    · exact h.carries.callbacks connIndex id data hmem
    · exact readFromConnection_dataCallback hmem
  · rcases reorder_step wire ch e with ⟨hsame, -⟩ | ⟨tick, harrivals, hstep, -⟩
    · rw [hsame]
      exact h.resting
    · rw [hstep]
      exact h.resting.step ch.config (harrivals ▸ h.carries.arrivals)

/-! ## Authentic packets -/

/-- What the callback hands on is what `send` accepted under its id. -/
def Genuine (accepted : List (List UInt8)) : IoCallback → Prop
  | .dataCallback messageId data => accepted[messageId]? = some data
  | _ => True

/-- The packet is a notification or carries what `send` accepted under its id. -/
def Authentic (accepted : List (List UInt8)) (p : Packet) : Prop :=
  ∃ cb, ValidPacket cb ∧ Genuine accepted cb ∧ p = encodePacket cb

lemma accepted_mono (h : accepted <+: accepted') {messageId : ℕ} {data : List UInt8}
    (hdata : accepted[messageId]? = some data) : accepted'[messageId]? = some data := by
  obtain ⟨hlt, rfl⟩ := List.getElem?_eq_some_iff.mp hdata
  exact List.prefix_iff_getElem?.mp h messageId hlt

lemma Genuine.mono (h : accepted <+: accepted') {cb : IoCallback} (hcb : Genuine accepted cb) :
    Genuine accepted' cb := by
  cases cb with
  | dataCallback messageId data => exact accepted_mono h hcb
  | resendRequestCallback messageId => trivial
  | missingNotifyCallback missingIds => trivial

lemma Authentic.mono (h : accepted <+: accepted') {p : Packet} (hp : Authentic accepted p) :
    Authentic accepted' p := by
  obtain ⟨cb, hvalid, hgenuine, heq⟩ := hp
  exact ⟨cb, hvalid, hgenuine.mono h, heq⟩

lemma authentic_vcDataPacket (hcount : accepted.length < uint64Size) {messageId : ℕ}
    {data : List UInt8} (hsize : data.length ≤ vcMaxDataPayloadSize)
    (hdata : accepted[messageId]? = some data) :
    Authentic accepted (vcDataPacket messageId data) := by
  have hid := (List.getElem?_eq_some_iff.mp hdata).1
  exact ⟨.dataCallback messageId data, ⟨lt_trans hid hcount, hsize⟩, hdata, rfl⟩

/-! ## The sending side -/

/-- Ids count the accepted payloads, and packets in the cache, on the queues and on the
connections carry them. -/
structure Sending (ch : TcpVirtualChannel) : Prop where
  next : ch.lastSendMessageId = ch.accepted.length
  sizes : ∀ data ∈ ch.accepted, data.length ≤ vcMaxDataPayloadSize
  cached : ∀ messageId dataVec, ch.sentDataCache.find messageId = some dataVec →
    ∃ data, ch.accepted[messageId]? = some data ∧ dataVec = vcDataPacket messageId data
  holds : SendThread.Holds (Authentic ch.accepted) ch.sendThread
  streams : StreamWriter.Integrity (Authentic ch.accepted) ch.sendThread.writer

lemma sending_opening (config : ReorderConfig) (connections : List ConnId) :
    Sending (opening config connections) where
  next := rfl
  sizes := fun _ h => (nomatch h)
  cached := fun messageId dataVec h => by
    rw [opening, SentDataCache.find_init] at h
    cases h
  holds := ⟨fun _ h => (nomatch h), fun _ h => (nomatch h), fun _ h => (nomatch h),
    fun _ h => (nomatch h)⟩
  streams := StreamWriter.integrity_of_empty (fun _ => rfl) rfl rfl

/-- A rebuilt packet carries the payload that was cached. -/
lemma Sending.cacheGives (h : Sending ch) (hcount : ch.accepted.length < uint64Size) :
    CacheGives (Authentic ch.accepted) ch := by
  intro messageId dataVec hfind
  obtain ⟨data, hdata, rfl⟩ := h.cached messageId dataVec hfind
  have hsize := h.sizes data (List.mem_of_getElem? hdata)
  rw [resendPayload_vcDataPacket hsize]
  exact authentic_vcDataPacket hcount hsize hdata

/-- Events of the send thread that bring in authentic packets. -/
lemma Sending.of_drives (h : Sending ch)
    (hdrives : SendThread.Drives (Authentic ch.accepted) ch.sendThread ch'.sendThread)
    (hlast : ch'.lastSendMessageId = ch.lastSendMessageId)
    (hcache : ch'.sentDataCache = ch.sentDataCache) (haccepted : ch'.accepted = ch.accepted) :
    Sending ch' := by
  obtain ⟨hholds, hstreams⟩ := hdrives.integrity h.holds h.streams
  constructor
  · rw [hlast, haccepted]; exact h.next
  · rw [haccepted]; exact h.sizes
  · rw [hcache, haccepted]; exact h.cached
  · rw [haccepted]; exact hholds
  · rw [haccepted]; exact hstreams

/-- A new payload gets the next id. -/
lemma Sending.accept (h : Sending ch) {data : List UInt8}
    (hsize : data.length ≤ vcMaxDataPayloadSize)
    (hcount : (ch.accept data).accepted.length < uint64Size) : Sending (ch.accept data) := by
  have hpre : ch.accepted <+: ch.accepted ++ [data] := List.prefix_append _ _
  have hlen : (ch.accepted ++ [data]).length < uint64Size := hcount
  -- the id of the new payload is its place in the list
  have hself : (ch.accepted ++ [data])[ch.accepted.length]? = some data := by
    rw [List.getElem?_append_right le_rfl, Nat.sub_self]
    rfl
  have hpacket := authentic_vcDataPacket hlen hsize hself
  obtain ⟨hholds, hstreams⟩ := (SendThread.drives_enqueueSend hpacket).integrity
    (h.holds.mono fun _ => Authentic.mono hpre) (h.streams.mono fun _ => Authentic.mono hpre)
  rw [← h.next] at hself hholds hstreams
  refine ⟨?_, fun d hd => ?_, fun messageId dataVec hfind => ?_, hholds, hstreams⟩
  · show (ch.lastSendMessageId + 1) % uint64Size = (ch.accepted ++ [data]).length
    rw [List.length_append, List.length_singleton] at hlen ⊢
    rw [h.next, Nat.mod_eq_of_lt hlen]
  · rcases List.mem_append.mp hd with hd | hd
    · exact h.sizes d hd
    · rw [List.mem_singleton.mp hd]; exact hsize
  · rcases SentDataCache.find_insert hfind with ⟨rfl, rfl⟩ | hold
    · exact ⟨data, hself, rfl⟩
    · obtain ⟨old, hget, heq⟩ := h.cached messageId dataVec hold
      exact ⟨old, accepted_mono hpre hget, heq⟩

theorem sending_step (h : Sending ch) (hfit : IdsFit ch) (e : Event)
    (hcount : (ch.step wire e).accepted.length < uint64Size) : Sending (ch.step wire e) := by
  have hbefore : ch.accepted.length < uint64Size :=
    lt_of_le_of_lt (accepted_grows wire ch e).length_le hcount
  rcases step_cases (h.cacheGives hbefore) wire e
    with hquiet | ⟨data, hsize, heq⟩ | ⟨slot, c, readBuffer, results, -, -, -, heq⟩
    | ⟨gapNow, notifyNow, waitNow, heq⟩ | ⟨slot, c, -, heq⟩
  · exact h.of_drives hquiet.drives hquiet.lastSendMessageId hquiet.sentDataCache hquiet.accepted
  · rw [heq] at hcount ⊢
    exact h.accept hsize hcount
  · rw [heq]
    exact h.of_drives (drives_receive slot c readBuffer results) rfl rfl rfl
  · -- the notification of the iteration
    obtain ⟨ch', he, heq'⟩ := finishIteration_eq ch gapNow notifyNow waitNow
    rw [heq, heq']
    refine h.of_drives (he.drives.mono fun p hp => ?_) he.lastSendMessageId he.sentDataCache
      he.accepted
    obtain ⟨ids, hnotified, rfl⟩ := hp
    exact ⟨.missingNotifyCallback ids,
      Reorder.valid_notified hfit.resting hfit.carries.arrivals hnotified, trivial, rfl⟩
  · rw [heq]
    exact h.of_drives (.refl _) rfl rfl rfl

/-- Each connection carries a stream of genuine packets. -/
theorem Sending.isStream (h : Sending ch) (c : ConnId) :
    ∃ cbs t, vcFormat.IsStream cbs t (ch.wire c) ∧ ∀ cb ∈ cbs, Genuine ch.accepted cb :=
  h.streams.isStream (F := vcFormat) (fun _ hp => hp) c

end TcpVirtualChannel
end TcpUdp
