import TcpUdp.GaplessDelivery

/-!
# The ledger of the receiving side

Every data packet that a call of `readFromConnection` finds is in one place: among the callbacks
that the call has still to make, in the receive queue of its slot, among the items that the
reorder thread has gathered, taken by an iteration of that thread, or dropped because its queue
was full (`ledger_step`). The calls find all the packets of the bytes that they take, except for
the call that finds its connection closed, which parses nothing (`heard_step`).
-/

namespace TcpUdp

open Lib

namespace TcpVirtualChannel

variable {ch ch' : TcpVirtualChannel} {wire wire' : ConnId → List UInt8}
  {accepted : List (List UInt8)} {e : Event}

/-! ## The calls of `readFromConnection` -/

structure Reading where
  slot : ℕ
  conn : ConnId
  readBuffer : ReadBuffer
  results : List RecvResult

/-- The callbacks of the call, and the slot after it. -/
def Reading.outcome (r : Reading) : List IoCallback × IoSlot :=
  readFromConnection { readBuffer := r.readBuffer } r.results

/-- The call that the event is. -/
def reading? (wire : ConnId → List UInt8) (ch : TcpVirtualChannel) : Event → Option Reading
  | .read slot sizes last =>
    match ch.ioThread.slots[slot]? with
    | none => none
    | some (c, readBuffer) =>
      if ch.ioThread.running ∧ ch.ioThread.callbacks = []
          ∧ (ch.sendThread.conns c).connected then
        some ⟨slot, c, readBuffer,
          recvResults ((wire c).drop (ch.ioThread.received c).length) sizes last⟩
      else none
  | _ => none

structure ReadBy (wire : ConnId → List UInt8) (ch ch' : TcpVirtualChannel) (r : Reading) :
    Prop where
  slot : ch.ioThread.slots[r.slot]? = some (r.conn, r.readBuffer)
  callbacks : ch.ioThread.callbacks = []
  connected : (ch.sendThread.conns r.conn).connected = true
  bytes : recvBytes r.results <+: (wire r.conn).drop (ch.ioThread.received r.conn).length
  eq : ch' = ch.receive r.slot r.conn r.readBuffer r.results

lemma readBy_of_reading? {r : Reading} (h : ch.reading? wire e = some r) :
    ReadBy wire ch (ch.step wire e) r := by
  cases e with
  | read slot sizes last =>
    rw [reading?] at h
    split at h
    · cases h
    · rename_i c readBuffer hslot
      split_ifs at h with hready
      cases h
      refine ⟨hslot, hready.2.1, hready.2.2, recvBytes_recvResults _ _ _, ?_⟩
      rw [step, read, hslot]
      exact if_pos hready
  | _ => cases h

lemma read_of_no_reading {slot : ℕ} {sizes : List ℕ} {last : RecvEnd}
    (h : ch.reading? wire (.read slot sizes last) = none) :
    ch.step wire (.read slot sizes last) = ch := by
  rw [reading?] at h
  rw [step, read]
  split
  · rfl
  · rename_i c readBuffer hslot
    rw [hslot] at h
    dsimp only at h
    split_ifs at h ⊢
    rfl

/-- The bytes that the IO thread has taken change in such a call only. -/
lemma received_of_no_reading (h : ch.reading? wire e = none) :
    (ch.step wire e).ioThread.received = ch.ioThread.received := by
  have hcache : CacheGives (fun _ => True) ch := fun _ _ _ => trivial
  cases e with
  | send data =>
    rw [step, send]
    split_ifs <;> rfl
  | read slot sizes last => rw [read_of_no_reading h]
  | callback now => exact (quiet_callback hcache now).received
  | reorderThread gapNow notifyNow waitNow =>
    rw [step, reorderStep]
    split
    · obtain ⟨ch', henqueues, heq⟩ := finishIteration_eq ch gapNow notifyNow waitNow
      rw [heq, henqueues.ioThread]
    · split <;> rfl
  | disconnectCB =>
    have hquiet : Quiet (fun _ => True) ch ch.disconnectCB := quiet_disconnectCB
    exact hquiet.received
  | installConnection slot c =>
    rw [step, installConnection]
    split_ifs <;> rfl
  | ioReplaceConnection slot c =>
    rw [step, TcpVCIoThread.replaceConnection]
    split_ifs <;> rfl
  | _ => rfl

/-! ## Items on their way -/

/-- The item that a callback gives to `processReceivedData`. -/
def callbackItem? : ℤ × IoCallback → Option DeliveryItem
  | (connIndex, .dataCallback messageId data) => some ⟨messageId, data, connIndex⟩
  | _ => none

/-- The items of the callbacks that are still to be made. -/
def pending (ch : TcpVirtualChannel) : List DeliveryItem :=
  ch.ioThread.callbacks.filterMap callbackItem?

/-- The items between the parse loop and the reorder buffer. -/
def held (ch : TcpVirtualChannel) : List DeliveryItem :=
  ch.pending ++ ch.connReceiveQueues.flatMap SpscQueue.items ++ ch.arrivals

/-- The items that a call finds. -/
def called (wire : ConnId → List UInt8) (ch : TcpVirtualChannel) (e : Event) :
    List DeliveryItem :=
  match ch.reading? wire e with
  | none => []
  | some r => (r.outcome.1.map fun cb => ((r.slot : ℤ), cb)).filterMap callbackItem?

/-- The item that an event drops, because the receive queue of its slot is full. -/
def dropped (ch : TcpVirtualChannel) : Event → List DeliveryItem
  | .callback _ =>
    match ch.ioThread.callbacks.head?.bind callbackItem? with
    | none => []
    | some item =>
      match ch.connReceiveQueues[item.sourceConnIndex.toNat]? with
      | none => []
      | some queue => if (queue.tryEnqueue item).isNone then [item] else []
  | _ => []

/-- What an event does to the items on their way. -/
inductive Flow (wire : ConnId → List UInt8) (ch ch' : TcpVirtualChannel) (e : Event) : Prop
  | aside (hpending : ch'.pending = ch.pending)
      (hqueues : ch'.connReceiveQueues = ch.connReceiveQueues)
      (harrivals : ch'.arrivals = ch.arrivals) (hcalled : ch.called wire e = [])
      (htaken : ch.taken e = []) (hdropped : ch.dropped e = [])
  | reads (hpending : ch.pending = []) (hpending' : ch'.pending = ch.called wire e)
      (hqueues : ch'.connReceiveQueues = ch.connReceiveQueues)
      (harrivals : ch'.arrivals = ch.arrivals)
      (htaken : ch.taken e = []) (hdropped : ch.dropped e = [])
  /-- `processReceivedData` ignores a slot without a queue. -/
  | ignores (item : DeliveryItem) (hpending : ch.pending = item :: ch'.pending)
      (hqueue : item.sourceConnIndex < 0
        ∨ ch.connReceiveQueues[item.sourceConnIndex.toNat]? = none)
      (hqueues : ch'.connReceiveQueues = ch.connReceiveQueues)
      (harrivals : ch'.arrivals = ch.arrivals) (hcalled : ch.called wire e = [])
      (htaken : ch.taken e = [])
  | drops (item : DeliveryItem) (hpending : ch.pending = item :: ch'.pending)
      (hqueues : ch'.connReceiveQueues = ch.connReceiveQueues)
      (harrivals : ch'.arrivals = ch.arrivals) (hcalled : ch.called wire e = [])
      (htaken : ch.taken e = []) (hdropped : ch.dropped e = [item])
  | queues (item : DeliveryItem) (i : ℕ) (queue queue' : SpscQueue DeliveryItem)
      (hpending : ch.pending = item :: ch'.pending) (hqueue : ch.connReceiveQueues[i]? = some queue)
      (hitems : queue'.items = queue.items ++ [item])
      (hqueues : ch'.connReceiveQueues = ch.connReceiveQueues.set i queue')
      (harrivals : ch'.arrivals = ch.arrivals) (hcalled : ch.called wire e = [])
      (htaken : ch.taken e = []) (hdropped : ch.dropped e = [])
  | gathers (item : DeliveryItem) (i : ℕ) (queue queue' : SpscQueue DeliveryItem)
      (hpending : ch'.pending = ch.pending) (hqueue : ch.connReceiveQueues[i]? = some queue)
      (hitems : queue.items = item :: queue'.items)
      (hqueues : ch'.connReceiveQueues = ch.connReceiveQueues.set i queue')
      (harrivals : ch'.arrivals = ch.arrivals ++ [item]) (hcalled : ch.called wire e = [])
      (htaken : ch.taken e = []) (hdropped : ch.dropped e = [])
  | ends (hpending : ch'.pending = ch.pending)
      (hqueues : ch'.connReceiveQueues = ch.connReceiveQueues) (harrivals : ch'.arrivals = [])
      (hcalled : ch.called wire e = []) (htaken : ch.taken e = ch.arrivals)
      (hdropped : ch.dropped e = [])

lemma called_of_reading? {r : Reading} (h : ch.reading? wire e = some r) :
    ch.called wire e = (r.outcome.1.map fun cb => ((r.slot : ℤ), cb)).filterMap callbackItem? := by
  rw [called, h]

lemma called_of_no_reading (h : ch.reading? wire e = none) : ch.called wire e = [] := by
  rw [called, h]

lemma pending_of_cons {callbacks : List (ℤ × IoCallback)} {connIndex : ℤ} {cb : IoCallback}
    (h : ch.ioThread.callbacks = (connIndex, cb) :: callbacks)
    (hcb : callbackItem? (connIndex, cb) = none) :
    (ch.withCallbacks callbacks).pending = ch.pending := by
  rw [pending, pending, h, List.filterMap_cons_none hcb]
  rfl

lemma flow_processReceivedData (wire : ConnId → List UInt8) {callbacks : List (ℤ × IoCallback)}
    {messageId : ℕ} {data : List UInt8} {connIndex : ℤ} (now : ℤ)
    (h : ch.ioThread.callbacks = (connIndex, .dataCallback messageId data) :: callbacks) :
    Flow wire ch ((ch.withCallbacks callbacks).processReceivedData messageId data connIndex)
      (.callback now) := by
  have hpending : ch.pending
      = ⟨messageId, data, connIndex⟩ :: (ch.withCallbacks callbacks).pending := by
    rw [pending, h]
    rfl
  have hdropped : ch.dropped (.callback now)
      = match ch.connReceiveQueues[connIndex.toNat]? with
        | none => []
        | some queue => if (queue.tryEnqueue ⟨messageId, data, connIndex⟩).isNone
          then [⟨messageId, data, connIndex⟩] else [] := by
    rw [dropped, h]
    rfl
  rw [processReceivedData]
  split_ifs with hindex
  swap
  · exact .ignores _ hpending (Or.inl (not_le.mp hindex)) rfl rfl rfl rfl
  split
  · rename_i hqueue
    exact .ignores _ hpending (Or.inr hqueue) rfl rfl rfl rfl
  · rename_i queue hqueue
    have hqueue' : ch.connReceiveQueues[connIndex.toNat]? = some queue := hqueue
    rw [hqueue'] at hdropped
    dsimp only at hdropped
    split
    · rename_i hfull
      rw [hfull] at hdropped
      exact .drops _ hpending rfl rfl rfl rfl hdropped
    · rename_i queue' henqueue
      rw [henqueue] at hdropped
      exact .queues _ _ queue queue' hpending hqueue' (SpscQueue.tryEnqueue_eq_some henqueue) rfl
        rfl rfl rfl hdropped

lemma flow_callback (wire : ConnId → List UInt8) (ch : TcpVirtualChannel) (now : ℤ) :
    Flow wire ch (ch.callback now) (.callback now) := by
  rw [callback]
  split
  · rename_i hnone
    refine .aside rfl rfl rfl rfl rfl ?_
    rw [dropped, hnone]
    rfl
  rename_i connIndex cb callbacks hcallbacks
  have hcache : CacheGives (fun _ => True) (ch.withCallbacks callbacks) := fun _ _ _ => trivial
  -- the other callbacks only put packets on the queues of the send thread
  have haside : ∀ {ch'}, callbackItem? (connIndex, cb) = none →
      Enqueues (fun _ => True) (ch.withCallbacks callbacks) ch' →
      Flow wire ch ch' (.callback now) := by
    intro ch' hitem henqueues
    refine .aside ?_ henqueues.connReceiveQueues henqueues.arrivals rfl rfl ?_
    · rw [← pending_of_cons hcallbacks hitem, pending, henqueues.ioThread]
      rfl
    · rw [dropped, hcallbacks, List.head?_cons, Option.bind_some, hitem]
  cases cb with
  | dataCallback messageId data => exact flow_processReceivedData wire now hcallbacks
  | resendRequestCallback messageId =>
    exact haside rfl (enqueues_processResendRequest hcache messageId now)
  | missingNotifyCallback missingIds =>
    exact haside rfl (enqueues_processMissingNotify hcache missingIds now)

lemma flow_reorderStep (wire : ConnId → List UInt8) (ch : TcpVirtualChannel)
    (gapNow notifyNow waitNow : ℤ) : Flow wire ch (ch.reorderStep gapNow notifyNow waitNow)
      (.reorderThread gapNow notifyNow waitNow) := by
  rw [reorderStep]
  split
  · rename_i hqueue
    obtain ⟨ch', henqueues, heq⟩ := finishIteration_eq ch gapNow notifyNow waitNow
    rw [heq]
    refine .ends ?_ henqueues.connReceiveQueues rfl rfl ?_ rfl
    · rw [pending, pending, henqueues.ioThread]
    · rw [taken, tick?, hqueue]
  · rename_i queue hqueue
    have htaken : ch.taken (.reorderThread gapNow notifyNow waitNow) = [] := by
      rw [taken, tick?, hqueue]
    split
    · exact .aside rfl rfl rfl rfl htaken rfl
    · rename_i item queue' hdequeue
      exact .gathers item _ queue queue' rfl hqueue (SpscQueue.tryDequeue_eq_some hdequeue) rfl rfl
        rfl htaken rfl

lemma flow_step (wire : ConnId → List UInt8) (ch : TcpVirtualChannel) (e : Event) :
    Flow wire ch (ch.step wire e) e := by
  cases e with
  | send data =>
    rw [step, send]
    split_ifs <;> exact .aside rfl rfl rfl rfl rfl rfl
  | read slot sizes last =>
    cases hreading : ch.reading? wire (.read slot sizes last) with
    | none =>
      rw [read_of_no_reading hreading]
      exact .aside rfl rfl rfl (called_of_no_reading hreading) rfl rfl
    | some r =>
      have hread := readBy_of_reading? hreading
      refine .reads (by rw [pending, hread.callbacks, List.filterMap_nil]) ?_ ?_ ?_ rfl rfl
      · rw [hread.eq, called_of_reading? hreading]
        rfl
      · rw [hread.eq]
        rfl
      · rw [hread.eq]
        rfl
  | callback now => exact flow_callback wire ch now
  | reorderThread gapNow notifyNow waitNow => exact flow_reorderStep wire ch gapNow notifyNow waitNow
  | disconnectCB =>
    rw [step, disconnectCB]
    split_ifs <;> exact .aside rfl rfl rfl rfl rfl rfl
  | installConnection slot c =>
    rw [step, installConnection]
    split_ifs <;> exact .aside rfl rfl rfl rfl rfl rfl
  | ioReplaceConnection slot c =>
    rw [step, TcpVCIoThread.replaceConnection]
    split_ifs <;> exact .aside rfl rfl rfl rfl rfl rfl
  | _ => exact .aside rfl rfl rfl rfl rfl rfl

/-! ## The ledger -/

/-- Setting a place of a list exchanges what the place contributes. -/
lemma flatMap_set {α β : Type} [DecidableEq β] (f : α → List β) {l : List α} {i : ℕ} {a b : α}
    (h : l[i]? = some a) : ((l.set i b).flatMap f ++ f a).Perm (l.flatMap f ++ f b) := by
  induction l generalizing i with
  | nil => cases h
  | cons c l ih =>
    cases i with
    | zero =>
      obtain rfl : c = a := by simpa using h
      apply List.perm_iff_count.mpr
      intro x
      simp only [List.set_cons_zero, List.flatMap_cons, List.count_append]
      omega
    | succ i =>
      rw [List.set_cons_succ, List.flatMap_cons, List.flatMap_cons, List.append_assoc,
        List.append_assoc]
      exact (ih (by simpa using h)).append_left _

lemma count_item (x item : DeliveryItem) (items : List DeliveryItem) :
    List.count x (item :: items) = List.count x [item] + List.count x items := by
  rw [← List.count_append, List.singleton_append]

/-- Every slot has a receive queue. -/
structure Indexed (ch : TcpVirtualChannel) : Prop where
  slots : ch.ioThread.slots.length = ch.connReceiveQueues.length
  pending : ∀ item ∈ ch.pending, ∃ i < ch.connReceiveQueues.length, item.sourceConnIndex = i

lemma Indexed.has_queue (h : Indexed ch) {item : DeliveryItem} (hitem : item ∈ ch.pending) :
    ¬ (item.sourceConnIndex < 0
      ∨ ch.connReceiveQueues[item.sourceConnIndex.toNat]? = none) := by
  obtain ⟨i, hi, hindex⟩ := h.pending item hitem
  rw [hindex, Int.toNat_natCast, List.getElem?_eq_getElem hi]
  simp

lemma indexed_opening (config : ReorderConfig) (connections : List ConnId) :
    Indexed (opening config connections) := by
  refine ⟨?_, ?_⟩
  · simp [opening]
  · intro item hitem
    cases hitem

lemma length_slots_step (wire : ConnId → List UInt8) (ch : TcpVirtualChannel) (e : Event) :
    (ch.step wire e).ioThread.slots.length = ch.ioThread.slots.length := by
  rcases step_cases (P := fun _ => True) (fun _ _ _ => trivial) wire e
    with hquiet | ⟨data, -, heq⟩ | ⟨slot, c, readBuffer, results, -, -, -, heq⟩
    | ⟨gapNow, notifyNow, waitNow, heq⟩ | ⟨slot, c, -, heq⟩
  · rw [hquiet.slots]
  · rw [heq]
    rfl
  · rw [heq]
    exact List.length_set
  · obtain ⟨ch', henqueues, heq'⟩ := finishIteration_eq ch gapNow notifyNow waitNow
    rw [heq, heq', henqueues.ioThread]
  · rw [heq]
    exact List.length_set

lemma Flow.length_queues (h : Flow wire ch ch' e) :
    ch'.connReceiveQueues.length = ch.connReceiveQueues.length := by
  cases h with
  | queues item i queue queue' hpending hqueue hitems hqueues => rw [hqueues, List.length_set]
  | gathers item i queue queue' hpending hqueue hitems hqueues => rw [hqueues, List.length_set]
  | _ => simp only [*]

lemma Flow.mem_pending (h : Flow wire ch ch' e) {item : DeliveryItem} (hitem : item ∈ ch'.pending) :
    item ∈ ch.pending ∨ item ∈ ch.called wire e := by
  cases h with
  | reads hpending hpending' => exact Or.inr (hpending' ▸ hitem)
  | aside hpending => exact Or.inl (hpending ▸ hitem)
  | gathers item i queue queue' hpending => exact Or.inl (hpending ▸ hitem)
  | ends hpending => exact Or.inl (hpending ▸ hitem)
  | ignores item hpending => exact Or.inl (hpending ▸ List.mem_cons_of_mem _ hitem)
  | drops item hpending => exact Or.inl (hpending ▸ List.mem_cons_of_mem _ hitem)
  | queues item i queue queue' hpending => exact Or.inl (hpending ▸ List.mem_cons_of_mem _ hitem)

/-- A call finds items under the index of its slot. -/
lemma mem_called {item : DeliveryItem} (h : item ∈ ch.called wire e) :
    ∃ r, ch.reading? wire e = some r ∧ item.sourceConnIndex = r.slot
      ∧ .dataCallback item.messageId item.data ∈ r.outcome.1 := by
  cases hreading : ch.reading? wire e with
  | none =>
    rw [called_of_no_reading hreading] at h
    cases h
  | some r =>
    rw [called_of_reading? hreading, List.mem_filterMap] at h
    obtain ⟨pair, hpair, hitem⟩ := h
    obtain ⟨cb, hcb, rfl⟩ := List.mem_map.mp hpair
    refine ⟨r, rfl, ?_⟩
    cases cb with
    | dataCallback messageId data =>
      cases hitem
      exact ⟨rfl, hcb⟩
    | resendRequestCallback messageId => cases hitem
    | missingNotifyCallback missingIds => cases hitem

lemma indexed_step (h : Indexed ch) (e : Event) : Indexed (ch.step wire e) := by
  have hflow := flow_step wire ch e
  refine ⟨?_, ?_⟩
  · rw [length_slots_step, hflow.length_queues]
    exact h.slots
  · intro item hitem
    rw [hflow.length_queues]
    rcases hflow.mem_pending hitem with hitem | hitem
    · exact h.pending item hitem
    · obtain ⟨r, hreading, hindex, -⟩ := mem_called hitem
      obtain ⟨hslot, -⟩ := List.getElem?_eq_some_iff.mp (readBy_of_reading? hreading).slot
      exact ⟨r.slot, h.slots ▸ hslot, hindex⟩

theorem ledger_step (hindexed : Indexed ch) (wire : ConnId → List UInt8) (e : Event) :
    ((ch.step wire e).held ++ ch.taken e ++ ch.dropped e).Perm (ch.held ++ ch.called wire e) := by
  apply List.perm_iff_count.mpr
  intro x
  simp only [held, List.count_append]
  cases flow_step wire ch e with
  | aside hpending hqueues harrivals hcalled htaken hdropped =>
    rw [hpending, hqueues, harrivals, hcalled, htaken, hdropped]
    rfl
  | reads hpending hpending' hqueues harrivals htaken hdropped =>
    rw [hpending, hpending', hqueues, harrivals, htaken, hdropped, List.count_nil]
    omega
  | ignores item hpending hqueue hqueues harrivals hcalled htaken =>
    exact absurd hqueue (hindexed.has_queue (hpending ▸ List.mem_cons_self))
  | drops item hpending hqueues harrivals hcalled htaken hdropped =>
    rw [hpending, hqueues, harrivals, hcalled, htaken, hdropped,
      count_item x item (ch.step wire e).pending, List.count_nil]
    omega
  | queues item i queue queue' hpending hqueue hitems hqueues harrivals hcalled htaken hdropped =>
    have hset := (flatMap_set SpscQueue.items (b := queue') hqueue).count_eq x
    rw [hitems, List.count_append, List.count_append, List.count_append] at hset
    rw [hpending, hqueues, harrivals, hcalled, htaken, hdropped,
      count_item x item (ch.step wire e).pending, List.count_nil]
    omega
  | gathers item i queue queue' hpending hqueue hitems hqueues harrivals hcalled htaken hdropped =>
    have hset := (flatMap_set SpscQueue.items (b := queue') hqueue).count_eq x
    rw [hitems, List.count_append, List.count_append, count_item] at hset
    rw [hpending, hqueues, harrivals, hcalled, htaken, hdropped, List.count_append,
      List.count_nil]
    omega
  | ends hpending hqueues harrivals hcalled htaken hdropped =>
    rw [hpending, hqueues, harrivals, hcalled, htaken, hdropped, List.count_nil]
    omega

/-! ## What the calls find -/

/-- The connection that a call finds closed, and how many bytes of it were taken before. -/
def cut (wire : ConnId → List UInt8) (ch : TcpVirtualChannel) (e : Event) : List (ConnId × ℕ) :=
  match ch.reading? wire e with
  | none => []
  | some r =>
    if r.outcome.2.connected then [] else [(r.conn, (ch.ioThread.received r.conn).length)]

/-- The bytes `heard` of the connection went through the parse loop, and it found all of their
data packets. Only the call that found the connection closed has taken more. -/
structure HeardOn (called : List DeliveryItem) (cuts : List (ConnId × ℕ)) (ch : TcpVirtualChannel)
    (c : ConnId) (heard : List UInt8) (cbs : List IoCallback) : Prop where
  grows : heard <+: ch.ioThread.received c
  stream : ∃ t, vcFormat.IsStream cbs t heard
  found : ∀ messageId data, .dataCallback messageId data ∈ cbs →
    ∃ item ∈ called, item.messageId = messageId ∧ item.data = data
  whole : heard = ch.ioThread.received c
    ∨ (c, heard.length) ∈ cuts ∧ (ch.sendThread.conns c).connected = false

def Heard (called : List DeliveryItem) (cuts : List (ConnId × ℕ)) (ch : TcpVirtualChannel) : Prop :=
  ∀ c, ∃ heard cbs, HeardOn called cuts ch c heard cbs

variable {found : List DeliveryItem} {cuts : List (ConnId × ℕ)} {c : ConnId} {heard : List UInt8}
  {cbs : List IoCallback}

lemma heard_opening (config : ReorderConfig) (connections : List ConnId) :
    Heard [] [] (opening config connections) := by
  intro c
  refine ⟨[], [], List.nil_prefix, ⟨[], received_empty.stream⟩, ?_, Or.inl rfl⟩
  intro messageId data hmem
  cases hmem

/-- Nothing more of the connection is taken. -/
lemma HeardOn.keeps (h : HeardOn found cuts ch c heard cbs) {found' : List DeliveryItem}
    {cuts' : List (ConnId × ℕ)} (hreceived : ch'.ioThread.received c = ch.ioThread.received c)
    (hconn : (ch'.sendThread.conns c).connected = true → (ch.sendThread.conns c).connected = true)
    (hfound : found ⊆ found') (hcuts : cuts ⊆ cuts') :
    HeardOn found' cuts' ch' c heard cbs where
  grows := hreceived ▸ h.grows
  stream := h.stream
  found messageId data hmem := by
    obtain ⟨item, hitem, hids⟩ := h.found messageId data hmem
    exact ⟨item, hfound hitem, hids⟩
  whole := by
    rcases h.whole with hwhole | ⟨hcut, hdead⟩
    · exact Or.inl (hwhole.trans hreceived.symm)
    · refine Or.inr ⟨hcuts hcut, Bool.eq_false_iff.mpr ?_⟩
      intro hup
      exact absurd (hconn hup) (by rw [hdead]; decide)

/-- A call finds all data packets of the bytes it takes, or takes no notice of them. -/
lemma HeardOn.reading {r : Reading} (h : HeardOn found cuts ch r.conn heard cbs)
    (hintake : Intake wire ch) (hwire : Authenticated accepted wire)
    (hreading : ch.reading? wire e = some r) :
    ∃ heard' cbs', HeardOn (found ++ ch.called wire e) (cuts ++ ch.cut wire e) (ch.step wire e)
      r.conn heard' cbs' := by
  have hread := readBy_of_reading? hreading
  have hwhole : heard = ch.ioThread.received r.conn := by
    refine h.whole.resolve_right ?_
    rintro ⟨-, hdead⟩
    exact absurd hread.connected (by rw [hdead]; decide)
  have hreceived : (ch.step wire e).ioThread.received r.conn = heard ++ recvBytes r.results := by
    rw [hread.eq, hwhole]
    exact Function.update_self _ _ _
  have hcut : ch.cut wire e
      = if r.outcome.2.connected then [] else [(r.conn, heard.length)] := by
    rw [cut, hreading, hwhole]
  have hold : ∀ messageId data, .dataCallback messageId data ∈ cbs →
      ∃ item ∈ found ++ ch.called wire e, item.messageId = messageId ∧ item.data = data := by
    intro messageId data hmem
    obtain ⟨item, hitem, hids⟩ := h.found messageId data hmem
    exact ⟨item, List.mem_append_left _ hitem, hids⟩
  by_cases hlive : r.outcome.2.connected = true
  · obtain ⟨cbs₀, hparsed⟩ := hintake.parsed _ (List.mem_of_getElem? hread.slot) hread.connected
    obtain ⟨t, hstream⟩ := h.stream
    obtain ⟨rfl, -⟩ := (hwhole ▸ hparsed.stream).unique hstream
    have hnow := (read_genuine hwire hparsed (hintake.taken_append hread.bytes)).2 hlive
    rw [← hwhole] at hnow
    refine ⟨_, _, hreceived ▸ List.prefix_rfl, ⟨_, hnow.stream⟩, ?_, Or.inl hreceived.symm⟩
    intro messageId data hmem
    rcases List.mem_append.mp hmem with hmem | hmem
    · exact hold messageId data hmem
    · refine ⟨⟨messageId, data, r.slot⟩, List.mem_append_right _ ?_, rfl, rfl⟩
      rw [called_of_reading? hreading, List.mem_filterMap]
      exact ⟨_, List.mem_map_of_mem hmem, rfl⟩
  · -- the connection is disconnected, so there is no later call
    rw [if_neg hlive] at hcut
    have hgrows : heard <+: (ch.step wire e).ioThread.received r.conn :=
      hreceived ▸ List.prefix_append _ _
    refine ⟨heard, cbs, hgrows, h.stream, hold, Or.inr ⟨?_, ?_⟩⟩
    · rw [hcut]
      exact List.mem_append_right _ List.mem_cons_self
    · have hthread : (ch.step wire e).sendThread = ch.sendThread.step (.disconnect r.conn) := by
        rw [hread.eq]
        exact if_neg hlive
      rw [hthread]
      show (Function.update ch.sendThread.conns r.conn (ch.sendThread.conns r.conn).disconnect
        r.conn).connected = false
      rw [Function.update_self]
      rfl

lemma heard_step (h : Heard found cuts ch) (hintake : Intake wire ch)
    (hwire : Authenticated accepted wire) (e : Event) :
    Heard (found ++ ch.called wire e) (cuts ++ ch.cut wire e) (ch.step wire e) := by
  intro c
  obtain ⟨heard, cbs, hheard⟩ := h c
  have hkeeps : (ch.step wire e).ioThread.received c = ch.ioThread.received c →
      ∃ heard cbs, HeardOn (found ++ ch.called wire e) (cuts ++ ch.cut wire e) (ch.step wire e)
        c heard cbs := by
    intro hreceived
    exact ⟨heard, cbs, hheard.keeps hreceived (step_drives wire ch e).connected_of
      (List.subset_append_left _ _) (List.subset_append_left _ _)⟩
  cases hreading : ch.reading? wire e with
  | none => exact hkeeps (congrFun (received_of_no_reading hreading) c)
  | some r =>
    by_cases hc : c = r.conn
    · subst hc
      exact hheard.reading hintake hwire hreading
    · apply hkeeps
      rw [(readBy_of_reading? hreading).eq]
      exact Function.update_of_ne hc _ _

end TcpVirtualChannel

/-! ## Over a run of the system -/

/-- What has happened on the receiving side. -/
structure Log where
  /-- The items that the calls of `readFromConnection` found. -/
  called : List DeliveryItem := []
  /-- Those that an iteration of the reorder thread took. -/
  taken : List DeliveryItem := []
  /-- Those that `processReceivedData` dropped because a queue was full. -/
  dropped : List DeliveryItem := []
  /-- The connections that a call found closed, with the number of bytes taken before. -/
  cuts : List (ConnId × ℕ) := []
  /-- The skips of the reorder thread. -/
  skips : List Skip := []

def Log.add (log : Log) (wire : ConnId → List UInt8) (ch : TcpVirtualChannel)
    (e : TcpVirtualChannel.Event) : Log where
  called := log.called ++ ch.called wire e
  taken := log.taken ++ ch.taken e
  dropped := log.dropped ++ ch.dropped e
  cuts := log.cuts ++ ch.cut wire e
  skips := log.skips ++ (ch.skip? e).toList

namespace System

open TcpVirtualChannel

variable {config config' : ReorderConfig} {connections connections' : List ConnId}
  {events : ℕ → Event} {n : ℕ} {log : Log} {s : System}

def record (log : Log) (s : System) : Event → Log
  | .sender _ => log
  | .receiver e => log.add s.sender.wire s.receiver e

def logAt (config config' : ReorderConfig) (connections connections' : List ConnId)
    (events : ℕ → Event) : ℕ → Log
  | 0 => {}
  | n + 1 => record (logAt config config' connections connections' events n)
    (stateAt config config' connections connections' events n) (events n)

/-- What the log says about the receiving side. -/
structure Logged (log : Log) (s : System) : Prop where
  indexed : Indexed s.receiver
  ledger : (s.receiver.held ++ log.taken ++ log.dropped).Perm log.called
  heard : Heard log.called log.cuts s.receiver
  recorded : Recorded s.sender.accepted log.taken log.skips s.receiver

lemma logged_joined (config config' : ReorderConfig) (connections connections' : List ConnId) :
    Logged {} (joined config config' connections connections') := by
  refine ⟨indexed_opening config' connections', ?_, heard_opening config' connections',
    recorded_opening config' connections'⟩
  have hempty : (opening config' connections').held = [] := by simp [held, pending, opening]
  show ((opening config' connections').held ++ [] ++ []).Perm []
  rw [hempty]
  exact .refl _

lemma logged_step (h : Logged log s) (hinv : Inv s)
    (hcount : s.sender.accepted.length < uint64Size - 1) (e : Event) :
    Logged (record log s e) (s.step e) := by
  cases e with
  | sender e => exact ⟨h.indexed, h.ledger, h.heard, h.recorded.mono (accepted_grows _ _ e)⟩
  | receiver e =>
    refine ⟨indexed_step h.indexed e, ?_, ?_, ?_⟩
    · apply List.perm_iff_count.mpr
      intro x
      have hbefore := h.ledger.count_eq x
      have hstep := (ledger_step h.indexed s.sender.wire e).count_eq x
      simp only [List.count_append] at hbefore hstep
      show List.count x ((s.receiver.step s.sender.wire e).held ++ (log.taken ++ s.receiver.taken e)
          ++ (log.dropped ++ s.receiver.dropped e))
        = List.count x (log.called ++ s.receiver.called s.sender.wire e)
      simp only [List.count_append]
      omega
    · exact heard_step h.heard hinv.receiving.intake hinv.sending.isStream e
    · exact recorded_step h.recorded hinv.receiving.carries hcount _ e

lemma logged_stateAt (hdistinct : connections'.Nodup)
    (hcount : (stateAt config config' connections connections' events n).sender.accepted.length
      < uint64Size - 1) :
    Logged (logAt config config' connections connections' events n)
      (stateAt config config' connections connections' events n) := by
  induction n with
  | zero => exact logged_joined config config' connections connections'
  | succ n ih =>
    have hbefore := lt_of_le_of_lt (accepted_grows_step
      (stateAt config config' connections connections' events n) (events n)).length_le hcount
    have hinv := inv_run (inv_joined config config' connections hdistinct) events n hbefore
    exact logged_step (ih hbefore) hinv hbefore (events n)

/-- What the reorder thread has taken is in the buffer, or its id was delivered or skipped. -/
lemma Logged.of_taken (h : Logged log s) {item : DeliveryItem} (hitem : item ∈ log.taken) :
    (∃ received, s.receiver.reorder.receivedDataMap.find? item.messageId = some received
      ∧ received.data = item.data) ∨
    (∃ d ∈ s.receiver.delivered, d.messageId = item.messageId ∧ d.data = item.data) ∨
    ∃ skip ∈ log.skips, Reorder.PassedBy skip item.messageId := by
  obtain ⟨history, hconserved, hdelivered, hdequeued, hskips, hgenuine⟩ := h.recorded
  -- what is known under one id has the payload that was accepted under it
  have hsame : ∀ other ∈ history.kept, other.messageId = item.messageId →
      other.data = item.data := by
    intro other hother hid
    have hget := hgenuine other (hconserved.kept_sub other hother)
    rw [hid, hgenuine item (hdequeued ▸ hitem)] at hget
    exact (Option.some.inj hget).symm
  rcases hconserved.seen item (hdequeued ▸ hitem) with hpassed | hbuffered
  · right
    rcases hconserved.passed _ hpassed with ⟨d, hd, hid⟩ | ⟨skip, hskip, hskipped⟩
    · have hfirst := Reorder.messageId_firstCopy (hconserved.first d hd)
      exact Or.inl ⟨d, hdelivered ▸ hd, hid, hsame d hfirst.1 hid⟩
    · exact Or.inr ⟨skip, hskips ▸ hskip, hskipped⟩
  · left
    obtain ⟨received, hreceived⟩ := (SortedMap.mem_keys_iff _).mp hbuffered
    obtain ⟨other, hother, rfl⟩ := hconserved.buffered _ received hreceived
    obtain ⟨hmem, hid⟩ := Reorder.messageId_firstCopy hother
    exact ⟨_, hreceived, hsame other hmem hid⟩

end System
end TcpUdp
