import TcpUdp.Channel
import TcpUdp.PacketStream
import TcpUdp.SendThreadTheorems
import TcpUdp.MissingNotify

/-!
# Sending and receiving in one channel

What a channel does to its send thread are events of the send thread (`Drives`), so what is
proved of the thread holds in the channel: the packets on its queues and streams are packets
that `send`, the default `resendCallback` or the default `missingNotifyCallback` built from
accepted payloads (`Sending`).

On the way from the IO thread to the reorder thread, items are handed on and dropped, but
none is made: what holds of all that the parse loop calls back holds of all that the reorder
thread dequeues (`Carries`).
-/

namespace TcpUdp

open Lib

/-! ## Events of the send thread -/

namespace SendThread

variable {P : Packet → Prop} {t t' t'' : SendThread}

/-- `t'` is `t` after some events that bring in packets satisfying `P`. -/
def Drives (P : Packet → Prop) (t t' : SendThread) : Prop :=
  ∃ es : List Event, (∀ e ∈ es, ∀ p ∈ e.packets, P p) ∧ t' = es.foldl step t

lemma Drives.refl (t : SendThread) : Drives P t t := ⟨[], fun _ he => (nomatch he), rfl⟩

lemma Drives.trans (h : Drives P t t') (h' : Drives P t' t'') : Drives P t t'' := by
  obtain ⟨es, hes, rfl⟩ := h
  obtain ⟨es', hes', rfl⟩ := h'
  refine ⟨es ++ es', fun e he => ?_, by rw [List.foldl_append]⟩
  rcases List.mem_append.mp he with he | he
  · exact hes e he
  · exact hes' e he

lemma drives_step {e : Event} (he : ∀ p ∈ e.packets, P p) : Drives P t (t.step e) :=
  ⟨[e], fun _ he' => (List.mem_singleton.mp he') ▸ he, rfl⟩

lemma Drives.mono {Q : Packet → Prop} (hPQ : ∀ p, P p → Q p) (h : Drives P t t') :
    Drives Q t t' := by
  obtain ⟨es, hes, heq⟩ := h
  exact ⟨es, fun e he p hp => hPQ p (hes e he p hp), heq⟩

/-- An event that brings in no packet. -/
lemma drives_silent (e : Event) (he : e.packets = []) : Drives P t (t.step e) :=
  drives_step fun p hp => by rw [he] at hp; cases hp

lemma drives_enqueueSend {p : Packet} (hp : P p) : Drives P t (t.step (.enqueueSend p)) :=
  drives_step fun _ hq => (List.mem_singleton.mp hq) ▸ hp

lemma drives_enqueueResend {p : Packet} (hp : P p) : Drives P t (t.step (.enqueueResend p)) :=
  drives_step fun _ hq => (List.mem_singleton.mp hq) ▸ hp

/-- What every event preserves holds after any number of them. -/
lemma Drives.keeps (h : Drives P t t') {I : SendThread → Prop}
    (hstep : ∀ u e, (∀ p ∈ Event.packets e, P p) → I u → I (u.step e)) (ht : I t) : I t' := by
  obtain ⟨es, hes, rfl⟩ := h
  induction es generalizing t with
  | nil => exact ht
  | cons e es ih =>
    exact ih (hstep t e (hes e List.mem_cons_self) ht) fun e' he' =>
      hes e' (List.mem_cons_of_mem _ he')

lemma Drives.integrity (h : Drives P t t') (hholds : Holds P t)
    (hint : StreamWriter.Integrity P t.writer) :
    Holds P t' ∧ StreamWriter.Integrity P t'.writer :=
  h.keeps (I := fun u => Holds P u ∧ StreamWriter.Integrity P u.writer)
    (fun _ e he hu => ⟨holds_step hu.1 he, StreamWriter.integrity_step hu.2 (writer_step hu.1 e)⟩)
    ⟨hholds, hint⟩

/-- Whatever the packets are, the thread is a writer. -/
lemma writer_step_any (t : SendThread) (e : Event) :
    StreamWriter.Step (fun _ => True) t.writer (t.step e).writer :=
  writer_step ⟨fun _ _ => trivial, fun _ _ => trivial, fun _ _ => trivial, fun _ _ => trivial⟩ e

/-- A connection that was disconnected stays so. -/
lemma Drives.connected_of (h : Drives P t t') {c : ConnId}
    (hc : (t'.conns c).connected = true) : (t.conns c).connected = true :=
  h.keeps (I := fun u => (u.conns c).connected = true → (t.conns c).connected = true)
    (fun u e _ hu hstep => hu ((writer_step_any u e).connected_of hstep)) id hc

/-- Bytes that were written stay written. -/
lemma Drives.written_grows (h : Drives P t t') (c : ConnId) :
    (t.conns c).written <+: (t'.conns c).written :=
  h.keeps (I := fun u => (t.conns c).written <+: (u.conns c).written)
    (fun u e _ hu => hu.trans ((writer_step_any u e).written_grows c)) List.prefix_rfl

lemma Holds.mono {Q : Packet → Prop} (hPQ : ∀ p, P p → Q p) (h : Holds P t) : Holds Q t :=
  ⟨fun p hp => hPQ p (h.sendQueue p hp), fun p hp => hPQ p (h.resendQueue p hp),
    fun p hp => hPQ p (h.pendingDataVec p hp), fun p hp => hPQ p (h.currentPacket p hp)⟩

end SendThread

/-! ## Ids that fit -/

lemma headerMessageId_lt (pkt : List UInt8) : headerMessageId pkt < uint64Size := by
  have hlen : ((pkt.drop 1).take 8).length ≤ 8 := by rw [List.length_take]; omega
  calc headerMessageId pkt < 256 ^ ((pkt.drop 1).take 8).length := LittleEndian.load_lt _
    _ ≤ 256 ^ 8 := Nat.pow_le_pow_right (by decide) hlen

lemma scanPacket_dataCallback {b data : List UInt8} {id size : ℕ}
    (h : scanPacket b = .frame (.dataCallback id data) size) : id < uint64Size := by
  unfold scanPacket at h
  dsimp only at h
  split_ifs at h <;> cases h
  exact headerMessageId_lt b

lemma parsePackets_dataCallback {fuel : ℕ} {buf : ReadBuffer} {id : ℕ} {data : List UInt8}
    (h : .dataCallback id data ∈ (parsePackets fuel buf).1) : id < uint64Size := by
  induction fuel generalizing buf with
  | zero => cases h
  | succ fuel ih =>
    rw [parsePackets] at h
    cases hscan : scanPacket buf.begin with
    | frame cb size =>
      rw [hscan] at h
      rcases List.mem_cons.mp h with h | h
      · exact scanPacket_dataCallback (h ▸ hscan)
      · exact ih h
    | wait => rw [hscan] at h; cases h
    | reject => rw [hscan] at h; cases h

/-- The ids that a call of `readFromConnection` calls back have 64 bits, whatever the bytes. -/
lemma readFromConnection_dataCallback {slot : IoSlot} {rs : List RecvResult} {id : ℕ}
    {data : List UInt8} (h : .dataCallback id data ∈ (readFromConnection slot rs).1) :
    id < uint64Size := by
  rw [readFromConnection] at h
  split_ifs at h
  · split at h
    · cases h
    · exact parsePackets_dataCallback h
  · cases h

/-- A notification has ids, not too many, and they are below a buffered id. -/
lemma Reorder.valid_notified {cfg : ReorderConfig} {s : Reorder} {tick : Tick} {ids : List ℕ}
    (h : Resting s) (hids : ∀ item ∈ tick.arrivals, item.messageId < uint64Size)
    (hnotified : (s.reorderIteration cfg tick).notified = some ids) :
    ValidPacket (.missingNotifyCallback ids) := by
  obtain ⟨hnotifies, rfl⟩ := notified_eq_some_iff.mp hnotified
  have hrest : Resting ((s.reorderIteration cfg tick).state) := h.step cfg hids
  obtain ⟨hmap, -⟩ := state_eq cfg s tick
  refine ⟨List.length_pos_iff.mpr hnotifies.missing, ?_, fun id hid => ?_⟩
  · rw [missingIds_eq]
    exact List.length_take_le _ _
  · obtain ⟨-, -, key, hkey, hlt⟩ := of_mem_missingIds hid
    exact lt_trans hlt (hrest.ahead.keys key (hmap ▸ hkey)).2

namespace TcpVirtualChannel

variable {P : Packet → Prop} {ch ch' ch'' : TcpVirtualChannel}

/-! ## Packets put on the queues -/

/-- `ch'` is `ch` after packets that satisfy `P` were put on its queues. -/
structure Enqueues (P : Packet → Prop) (ch ch' : TcpVirtualChannel) : Prop where
  drives : SendThread.Drives P ch.sendThread ch'.sendThread
  lastSendMessageId : ch'.lastSendMessageId = ch.lastSendMessageId
  sentDataCache : ch'.sentDataCache = ch.sentDataCache
  accepted : ch'.accepted = ch.accepted
  ioThread : ch'.ioThread = ch.ioThread
  connReceiveQueues : ch'.connReceiveQueues = ch.connReceiveQueues
  arrivals : ch'.arrivals = ch.arrivals
  reorder : ch'.reorder = ch.reorder
  delivered : ch'.delivered = ch.delivered

lemma Enqueues.refl (ch : TcpVirtualChannel) : Enqueues P ch ch :=
  ⟨.refl _, rfl, rfl, rfl, rfl, rfl, rfl, rfl, rfl⟩

lemma Enqueues.trans (h : Enqueues P ch ch') (h' : Enqueues P ch' ch'') : Enqueues P ch ch'' where
  drives := h.drives.trans h'.drives
  lastSendMessageId := h'.lastSendMessageId.trans h.lastSendMessageId
  sentDataCache := h'.sentDataCache.trans h.sentDataCache
  accepted := h'.accepted.trans h.accepted
  ioThread := h'.ioThread.trans h.ioThread
  connReceiveQueues := h'.connReceiveQueues.trans h.connReceiveQueues
  arrivals := h'.arrivals.trans h.arrivals
  reorder := h'.reorder.trans h.reorder
  delivered := h'.delivered.trans h.delivered

lemma enqueues_resendCallback {messageId : ℕ} {data : List UInt8}
    (hP : P (vcDataPacket messageId data)) :
    Enqueues P ch (ch.resendCallback messageId data) := by
  rw [resendCallback]
  split_ifs
  · exact .refl ch
  · exact ⟨SendThread.drives_enqueueResend hP, rfl, rfl, rfl, rfl, rfl, rfl, rfl, rfl⟩

lemma enqueues_missingNotifyCallback {missingIds : List ℕ} (hP : P (vcMissingNotify missingIds)) :
    Enqueues P ch (ch.missingNotifyCallback missingIds) := by
  rw [missingNotifyCallback]
  split_ifs
  · exact .refl ch
  · exact ⟨SendThread.drives_enqueueSend hP, rfl, rfl, rfl, rfl, rfl, rfl, rfl, rfl⟩

lemma enqueues_markDegraded (messageId : ℕ) (now : ℤ) :
    Enqueues P ch (ch.markDegraded messageId now) := by
  rw [markDegraded]
  split
  · exact .refl ch
  · exact ⟨.refl _, rfl, rfl, rfl, rfl, rfl, rfl, rfl, rfl⟩

/-- The packets rebuilt from the cache satisfy `P`. -/
def CacheGives (P : Packet → Prop) (ch : TcpVirtualChannel) : Prop :=
  ∀ messageId dataVec, ch.sentDataCache.find messageId = some dataVec →
    P (vcDataPacket messageId (resendPayload dataVec))

lemma enqueues_processResendRequest (hcache : CacheGives P ch) (messageId : ℕ) (now : ℤ) :
    Enqueues P ch (ch.processResendRequest messageId now) := by
  have hmark : Enqueues P ch (ch.markDegraded messageId now) := enqueues_markDegraded _ _
  rw [processResendRequest]
  split
  · rename_i dataVec hfind
    rw [hmark.sentDataCache] at hfind
    exact hmark.trans (enqueues_resendCallback (hcache _ _ hfind))
  · exact hmark

lemma enqueues_resendMissing (hcache : CacheGives P ch) (now : ℤ) (messageId : ℕ) :
    Enqueues P ch (resendMissing now ch messageId) := by
  have hmark : Enqueues P ch (ch.markDegraded messageId now) := enqueues_markDegraded _ _
  rw [resendMissing]
  dsimp only
  split
  · exact hmark
  · split
    · rename_i dataVec hfind
      rw [hmark.sentDataCache] at hfind
      have hresend := hmark.trans (enqueues_resendCallback (hcache _ _ hfind))
      exact hresend.trans ⟨.refl _, rfl, rfl, rfl, rfl, rfl, rfl, rfl, rfl⟩
    · exact hmark

lemma enqueues_processMissingNotify (hcache : CacheGives P ch) (missingIds : List ℕ) (now : ℤ) :
    Enqueues P ch (ch.processMissingNotify missingIds now) := by
  -- resends do not touch the cache, so each one finds it as it was
  have hloop : ∀ (ids : List ℕ) (ch' : TcpVirtualChannel), Enqueues P ch ch' →
      Enqueues P ch (ids.foldl (resendMissing now) ch') := by
    intro ids
    induction ids with
    | nil => exact fun _ h => h
    | cons id ids ih =>
      intro ch' h
      have hcache' : CacheGives P ch' := fun messageId dataVec hfind =>
        hcache messageId dataVec (h.sentDataCache ▸ hfind)
      exact ih _ (h.trans (enqueues_resendMissing hcache' now id))
  exact hloop missingIds _ ⟨.refl _, rfl, rfl, rfl, rfl, rfl, rfl, rfl, rfl⟩

/-! ## From the IO thread to the reorder thread -/

variable {Q : ℕ → List UInt8 → Prop} {wire : ConnId → List UInt8}

/-- Every item on the way to the reorder thread satisfies `Q`. -/
structure Carries (Q : ℕ → List UInt8 → Prop) (ch : TcpVirtualChannel) : Prop where
  callbacks : ∀ slot id data, (slot, .dataCallback id data) ∈ ch.ioThread.callbacks → Q id data
  queues : ∀ queue ∈ ch.connReceiveQueues, ∀ item ∈ queue.items, Q item.messageId item.data
  arrivals : ∀ item ∈ ch.arrivals, Q item.messageId item.data

lemma Carries.of_enqueues (h : Carries Q ch) (he : Enqueues P ch ch') : Carries Q ch' :=
  ⟨he.ioThread ▸ h.callbacks, he.connReceiveQueues ▸ h.queues, he.arrivals ▸ h.arrivals⟩

lemma carries_processReceivedData (h : Carries Q ch) {messageId : ℕ} {data : List UInt8}
    (hQ : Q messageId data) (sourceConnIndex : ℤ) :
    Carries Q (ch.processReceivedData messageId data sourceConnIndex) := by
  rw [processReceivedData]
  split_ifs
  swap
  · exact h
  split
  · exact h
  rename_i queue hqueue
  split
  · exact h
  rename_i queue' henqueue
  refine ⟨h.callbacks, fun q hq item hitem => ?_, h.arrivals⟩
  rcases List.mem_or_eq_of_mem_set hq with hq | rfl
  · exact h.queues q hq item hitem
  · rw [SpscQueue.tryEnqueue_eq_some henqueue] at hitem
    rcases List.mem_append.mp hitem with hitem | hitem
    · exact h.queues queue (List.mem_of_getElem? hqueue) item hitem
    · rw [List.mem_singleton.mp hitem]
      exact hQ

/-- What a callback does: it hands on a received item, or puts packets on the queues. -/
lemma callback_cases (ch : TcpVirtualChannel) (now : ℤ) :
    ch.callback now = ch ∨
    ∃ connIndex cb callbacks, ch.ioThread.callbacks = (connIndex, cb) :: callbacks ∧
      ((∃ messageId data, cb = .dataCallback messageId data ∧ ch.callback now
          = (ch.withCallbacks callbacks).processReceivedData messageId data connIndex) ∨
        ∀ P, CacheGives P ch → Enqueues P (ch.withCallbacks callbacks) (ch.callback now)) := by
  rw [callback]
  split
  · exact Or.inl rfl
  rename_i connIndex cb callbacks hcallbacks
  refine Or.inr ⟨connIndex, cb, callbacks, hcallbacks, ?_⟩
  have hcache : ∀ {P}, CacheGives P ch → CacheGives P (ch.withCallbacks callbacks) := fun h => h
  cases cb with
  | dataCallback messageId data => exact Or.inl ⟨messageId, data, rfl, rfl⟩
  | resendRequestCallback messageId =>
    exact Or.inr fun P h => enqueues_processResendRequest (hcache h) messageId now
  | missingNotifyCallback missingIds =>
    exact Or.inr fun P h => enqueues_processMissingNotify (hcache h) missingIds now

lemma carries_callback (h : Carries Q ch) (now : ℤ) : Carries Q (ch.callback now) := by
  rcases callback_cases ch now with heq | ⟨connIndex, cb, callbacks, hcallbacks, hcases⟩
  · rw [heq]; exact h
  have hrest : Carries Q (ch.withCallbacks callbacks) := by
    refine ⟨fun slot id data hmem => h.callbacks slot id data ?_, h.queues, h.arrivals⟩
    rw [hcallbacks]
    exact List.mem_cons_of_mem _ hmem
  rcases hcases with ⟨messageId, data, rfl, heq⟩ | henqueues
  · rw [heq]
    refine carries_processReceivedData hrest (h.callbacks connIndex messageId data ?_) _
    rw [hcallbacks]
    exact List.mem_cons_self
  · exact hrest.of_enqueues (henqueues (fun _ => True) fun _ _ _ => trivial)

/-- The notification of an iteration goes on the send queue; the rest of it stays on the
receiving side. -/
lemma finishIteration_eq (ch : TcpVirtualChannel) (gapNow notifyNow waitNow : ℤ) :
    ∃ ch', Enqueues (fun p => ∃ ids, (ch.reorder.reorderIteration ch.config
        ⟨ch.arrivals, gapNow, notifyNow, waitNow⟩).notified = some ids ∧ p = vcMissingNotify ids)
        ch ch' ∧
      ch.finishIteration gapNow notifyNow waitNow = { ch' with
        reorder := (ch.reorder.reorderIteration ch.config
          ⟨ch.arrivals, gapNow, notifyNow, waitNow⟩).state
        queueIndex := 0
        arrivals := []
        delivered := ch.delivered ++ (ch.reorder.reorderIteration ch.config
          ⟨ch.arrivals, gapNow, notifyNow, waitNow⟩).delivered } := by
  rw [finishIteration]
  cases hnotified : (ch.reorder.reorderIteration ch.config
    ⟨ch.arrivals, gapNow, notifyNow, waitNow⟩).notified with
  | none => exact ⟨ch, .refl ch, rfl⟩
  | some ids =>
    -- the callback leaves the delivered items alone
    have he : Enqueues (fun p => ∃ ids', some ids = some ids' ∧ p = vcMissingNotify ids') ch
        (ch.missingNotifyCallback ids) := enqueues_missingNotifyCallback ⟨ids, rfl, rfl⟩
    exact ⟨_, he, by rw [← he.delivered]⟩

lemma carries_reorderStep (h : Carries Q ch) (gapNow notifyNow waitNow : ℤ) :
    Carries Q (ch.reorderStep gapNow notifyNow waitNow) := by
  rw [reorderStep]
  split
  · obtain ⟨ch', he, heq⟩ := finishIteration_eq ch gapNow notifyNow waitNow
    rw [heq]
    have h' := h.of_enqueues he
    exact ⟨h'.callbacks, h'.queues, fun _ hitem => (nomatch hitem)⟩
  rename_i queue hqueue
  have hmem := List.mem_of_getElem? hqueue
  split
  · exact ⟨h.callbacks, h.queues, h.arrivals⟩
  rename_i item queue' hdequeue
  -- the item moves from the head of its queue to the arrivals
  have hitems := h.queues queue hmem
  rw [SpscQueue.tryDequeue_eq_some hdequeue] at hitems
  refine ⟨h.callbacks, fun q hq item' hitem' => ?_, fun item' hitem' => ?_⟩
  · rcases List.mem_or_eq_of_mem_set hq with hq | rfl
    · exact h.queues q hq item' hitem'
    · exact hitems item' (List.mem_cons_of_mem _ hitem')
  · rcases List.mem_append.mp hitem' with hitem' | hitem'
    · exact h.arrivals item' hitem'
    · rw [List.mem_singleton.mp hitem']
      exact hitems item List.mem_cons_self

/-- If what a call of `readFromConnection` calls back satisfies `Q`, so does everything on
the way. -/
theorem carries_step (h : Carries Q ch) (e : Event)
    (hread : ∀ slot sizes last, e = .read slot sizes last → ∀ connIndex id data,
      (connIndex, .dataCallback id data) ∈ (ch.read wire slot sizes last).ioThread.callbacks →
        Q id data) :
    Carries Q (ch.step wire e) := by
  cases e with
  | send data =>
    show Carries Q (ch.send data)
    unfold send
    split_ifs
    · exact h
    · exact h
    · exact h
    · exact h
    · exact ⟨h.callbacks, h.queues, h.arrivals⟩
  | read slot sizes last =>
    have hsame : (ch.read wire slot sizes last).connReceiveQueues = ch.connReceiveQueues
        ∧ (ch.read wire slot sizes last).arrivals = ch.arrivals := by
      rw [read]
      split
      · exact ⟨rfl, rfl⟩
      · split_ifs
        · exact ⟨rfl, rfl⟩
        · exact ⟨rfl, rfl⟩
    exact ⟨hread slot sizes last rfl, hsame.1 ▸ h.queues, hsame.2 ▸ h.arrivals⟩
  | callback now => exact carries_callback h now
  | reorderThread gapNow notifyNow waitNow => exact carries_reorderStep h gapNow notifyNow waitNow
  | disconnectCB =>
    show Carries Q ch.disconnectCB
    unfold disconnectCB
    split_ifs
    · exact h
    · exact h
    · exact ⟨h.callbacks, h.queues, h.arrivals⟩
  | installConnection slot c =>
    show Carries Q (ch.installConnection slot c)
    unfold installConnection
    split_ifs
    · exact h
    · exact ⟨h.callbacks, h.queues, h.arrivals⟩
  | ioReplaceConnection slot c =>
    have hsame : (ch.ioThread.replaceConnection slot c).callbacks = ch.ioThread.callbacks := by
      rw [TcpVCIoThread.replaceConnection]
      split_ifs
      · rfl
      · rfl
    refine ⟨fun slot id data hmem => h.callbacks slot id data (hsame ▸ hmem), h.queues, h.arrivals⟩
  | sendThread io => exact ⟨h.callbacks, h.queues, h.arrivals⟩
  | disconnect c => exact ⟨h.callbacks, h.queues, h.arrivals⟩
  | sendReplaceConnection slot c => exact ⟨h.callbacks, h.queues, h.arrivals⟩

/-! ## What an event can do -/

/-- `ch'` is `ch` after packets that satisfy `P` were put on its queues and events of the
send thread. Nothing was read, delivered or accepted. -/
structure Quiet (P : Packet → Prop) (ch ch' : TcpVirtualChannel) : Prop where
  drives : SendThread.Drives P ch.sendThread ch'.sendThread
  lastSendMessageId : ch'.lastSendMessageId = ch.lastSendMessageId
  sentDataCache : ch'.sentDataCache = ch.sentDataCache
  accepted : ch'.accepted = ch.accepted
  slots : ch'.ioThread.slots = ch.ioThread.slots
  received : ch'.ioThread.received = ch.ioThread.received
  used : ch'.ioThread.used = ch.ioThread.used
  reorder : ch'.reorder = ch.reorder
  delivered : ch'.delivered = ch.delivered

lemma Quiet.refl (ch : TcpVirtualChannel) : Quiet P ch ch :=
  ⟨.refl _, rfl, rfl, rfl, rfl, rfl, rfl, rfl, rfl⟩

lemma quiet_of_drives {t : SendThread} (h : SendThread.Drives P ch.sendThread t) :
    Quiet P ch { ch with sendThread := t } := ⟨h, rfl, rfl, rfl, rfl, rfl, rfl, rfl, rfl⟩

lemma quiet_processReceivedData (messageId : ℕ) (data : List UInt8) (sourceConnIndex : ℤ) :
    Quiet P ch (ch.processReceivedData messageId data sourceConnIndex) := by
  rw [processReceivedData]
  split_ifs
  · split
    · exact .refl ch
    · split
      · exact .refl ch
      · exact ⟨.refl _, rfl, rfl, rfl, rfl, rfl, rfl, rfl, rfl⟩
  · exact .refl ch

lemma quiet_callback (hcache : CacheGives P ch) (now : ℤ) : Quiet P ch (ch.callback now) := by
  rcases callback_cases ch now with heq | ⟨connIndex, cb, callbacks, -, hcases⟩
  · rw [heq]; exact .refl ch
  rcases hcases with ⟨messageId, data, -, heq⟩ | henqueues
  · rw [heq]
    have h : Quiet P (ch.withCallbacks callbacks) _ :=
      quiet_processReceivedData messageId data connIndex
    exact ⟨h.drives, h.lastSendMessageId, h.sentDataCache, h.accepted, h.slots, h.received,
      h.used, h.reorder, h.delivered⟩
  · have h := henqueues P hcache
    exact ⟨h.drives, h.lastSendMessageId, h.sentDataCache, h.accepted, by rw [h.ioThread]; rfl,
      by rw [h.ioThread]; rfl, by rw [h.ioThread]; rfl, h.reorder, h.delivered⟩

lemma quiet_disconnectCB : Quiet P ch ch.disconnectCB := by
  rw [disconnectCB]
  split_ifs
  · exact .refl ch
  · exact .refl ch
  · exact ⟨(SendThread.drives_silent .cancelWait rfl).trans
      (SendThread.drives_silent (.setRunning false) rfl), rfl, rfl, rfl, rfl, rfl, rfl, rfl, rfl⟩

lemma recvBytes_recvResults (available : List UInt8) (sizes : List ℕ) (last : RecvEnd) :
    recvBytes (recvResults available sizes last) <+: available := by
  induction sizes generalizing available with
  | nil =>
    have hnil : recvBytes last.results = [] := by cases last <;> rfl
    rw [recvResults, hnil]
    exact List.nil_prefix
  | cons size sizes ih =>
    rw [recvResults, recvBytes]
    conv_rhs => rw [← List.take_append_drop size available]
    exact (List.prefix_append_right_inj _).mpr (ih _)

/-- An event is quiet, or it accepts a payload, reads a connection, ends an iteration of the
reorder thread or puts a new connection into a slot. -/
theorem step_cases (hcache : CacheGives P ch) (wire : ConnId → List UInt8) (e : Event) :
    Quiet P ch (ch.step wire e) ∨
    (∃ data, data.length ≤ vcMaxDataPayloadSize ∧ ch.step wire e = ch.accept data) ∨
    (∃ slot c readBuffer results, ch.ioThread.slots[slot]? = some (c, readBuffer) ∧
      (ch.sendThread.conns c).connected = true ∧
      recvBytes results <+: (wire c).drop (ch.ioThread.received c).length ∧
      ch.step wire e = ch.receive slot c readBuffer results) ∨
    (∃ gapNow notifyNow waitNow,
      ch.step wire e = ch.finishIteration gapNow notifyNow waitNow) ∨
    ∃ slot c, c ∉ ch.ioThread.used ∧ ch.step wire e = { ch with ioThread := { ch.ioThread with
      slots := ch.ioThread.slots.set slot (c, {}), used := c :: ch.ioThread.used } } := by
  cases e with
  | send data =>
    show Quiet P ch (ch.send data) ∨ _
    rw [step, send]
    split_ifs with _ _ hsize
    · exact Or.inl (.refl ch)
    · exact Or.inl (.refl ch)
    · exact Or.inl (.refl ch)
    · exact Or.inl (.refl ch)
    · exact Or.inr (Or.inl ⟨data, not_lt.mp hsize, rfl⟩)
  | sendThread io =>
    exact Or.inl (quiet_of_drives (SendThread.drives_silent (.thread io) rfl))
  | read slot sizes last =>
    rw [step, read]
    split
    · exact Or.inl (.refl ch)
    rename_i c readBuffer hslot
    split_ifs with hready
    · exact Or.inr (Or.inr (Or.inl ⟨slot, c, readBuffer, _, hslot, hready.2.2,
        recvBytes_recvResults _ _ _, rfl⟩))
    · exact Or.inl (.refl ch)
  | callback now => exact Or.inl (quiet_callback hcache now)
  | reorderThread gapNow notifyNow waitNow =>
    rw [step, reorderStep]
    split
    · exact Or.inr (Or.inr (Or.inr (Or.inl ⟨gapNow, notifyNow, waitNow, rfl⟩)))
    · refine Or.inl ?_
      split
      · exact ⟨.refl _, rfl, rfl, rfl, rfl, rfl, rfl, rfl, rfl⟩
      · exact ⟨.refl _, rfl, rfl, rfl, rfl, rfl, rfl, rfl, rfl⟩
  | disconnect c =>
    exact Or.inl (quiet_of_drives (SendThread.drives_silent (.disconnect c) rfl))
  | disconnectCB => exact Or.inl quiet_disconnectCB
  | installConnection slot c =>
    rw [step, installConnection]
    split_ifs
    · exact Or.inl (.refl ch)
    · exact Or.inl ⟨.refl _, rfl, rfl, rfl, rfl, rfl, rfl, rfl, rfl⟩
  | ioReplaceConnection slot c =>
    rw [step, TcpVCIoThread.replaceConnection]
    split_ifs with hslot
    · exact Or.inl (.refl ch)
    · exact Or.inr (Or.inr (Or.inr (Or.inr ⟨slot.toNat, c,
        fun hc => hslot (Or.inr (Or.inr hc)), rfl⟩)))
  | sendReplaceConnection slot c =>
    exact Or.inl (quiet_of_drives (SendThread.drives_silent (.replaceConnection slot c) rfl))

lemma drives_receive (slot : ℕ) (c : ConnId) (readBuffer : ReadBuffer)
    (results : List RecvResult) :
    SendThread.Drives P ch.sendThread (ch.receive slot c readBuffer results).sendThread := by
  rw [receive]
  dsimp only
  split_ifs
  · exact .refl _
  · exact SendThread.drives_silent (.disconnect c) rfl

/-- What the call in progress has to call back is left from before, or was parsed in the call
that just began. -/
lemma mem_callbacks_read {slot : ℕ} {sizes : List ℕ} {last : RecvEnd} {connIndex : ℤ}
    {cb : IoCallback}
    (h : (connIndex, cb) ∈ (ch.read wire slot sizes last).ioThread.callbacks) :
    (connIndex, cb) ∈ ch.ioThread.callbacks ∨
    ∃ c readBuffer results, ch.ioThread.slots[slot]? = some (c, readBuffer) ∧
      (ch.sendThread.conns c).connected = true ∧
      recvBytes results <+: (wire c).drop (ch.ioThread.received c).length ∧
      cb ∈ (readFromConnection { readBuffer := readBuffer } results).1 := by
  rw [read] at h
  split at h
  · exact Or.inl h
  rename_i c readBuffer hslot
  split_ifs at h with hready
  · obtain ⟨cb', hcb, heq⟩ := List.mem_map.mp h
    cases heq
    exact Or.inr ⟨c, readBuffer, _, hslot, hready.2.2, recvBytes_recvResults _ _ _, hcb⟩
  · exact Or.inl h

/-- Every event only drives the send thread. -/
lemma step_drives (wire : ConnId → List UInt8) (ch : TcpVirtualChannel) (e : Event) :
    SendThread.Drives (fun _ => True) ch.sendThread (ch.step wire e).sendThread := by
  rcases step_cases (P := fun _ => True) (fun _ _ _ => trivial) wire e
    with hquiet | ⟨data, -, heq⟩ | ⟨slot, c, readBuffer, results, -, -, -, heq⟩
    | ⟨gapNow, notifyNow, waitNow, heq⟩ | ⟨slot, c, -, heq⟩
  · exact hquiet.drives
  · rw [heq]; exact SendThread.drives_enqueueSend trivial
  · rw [heq]; exact drives_receive slot c readBuffer results
  · obtain ⟨ch', he, heq'⟩ := finishIteration_eq ch gapNow notifyNow waitNow
    rw [heq, heq']
    exact he.drives.mono fun _ _ => trivial
  · rw [heq]; exact .refl _

/-- The reorder buffer and the delivered items change when an iteration of the reorder thread
ends, and at no other time. -/
lemma reorder_step (wire : ConnId → List UInt8) (ch : TcpVirtualChannel) (e : Event) :
    ((ch.step wire e).reorder = ch.reorder ∧ (ch.step wire e).delivered = ch.delivered) ∨
    ∃ tick : Tick, tick.arrivals = ch.arrivals ∧
      (ch.step wire e).reorder = (ch.reorder.reorderIteration ch.config tick).state ∧
      (ch.step wire e).delivered
        = ch.delivered ++ (ch.reorder.reorderIteration ch.config tick).delivered := by
  rcases step_cases (P := fun _ => True) (fun _ _ _ => trivial) wire e
    with hquiet | ⟨data, -, heq⟩ | ⟨slot, c, readBuffer, results, -, -, -, heq⟩
    | ⟨gapNow, notifyNow, waitNow, heq⟩ | ⟨slot, c, -, heq⟩
  · exact Or.inl ⟨hquiet.reorder, hquiet.delivered⟩
  · exact Or.inl (heq ▸ ⟨rfl, rfl⟩)
  · exact Or.inl (heq ▸ ⟨rfl, rfl⟩)
  · obtain ⟨ch', -, heq'⟩ := finishIteration_eq ch gapNow notifyNow waitNow
    rw [heq, heq']
    exact Or.inr ⟨⟨ch.arrivals, gapNow, notifyNow, waitNow⟩, rfl, rfl, rfl⟩
  · exact Or.inl (heq ▸ ⟨rfl, rfl⟩)

/-- `send` only adds to what was accepted. -/
lemma accepted_grows (wire : ConnId → List UInt8) (ch : TcpVirtualChannel) (e : Event) :
    ch.accepted <+: (ch.step wire e).accepted := by
  rcases step_cases (P := fun _ => True) (fun _ _ _ => trivial) wire e
    with hquiet | ⟨data, -, heq⟩ | ⟨slot, c, readBuffer, results, -, -, -, heq⟩
    | ⟨gapNow, notifyNow, waitNow, heq⟩ | ⟨slot, c, -, heq⟩
  · rw [hquiet.accepted]
  · rw [heq]; exact List.prefix_append _ _
  · rw [heq]; exact List.prefix_rfl
  · obtain ⟨ch', he, heq'⟩ := finishIteration_eq ch gapNow notifyNow waitNow
    rw [heq, heq', he.accepted]
  · rw [heq]

end TcpVirtualChannel
end TcpUdp
