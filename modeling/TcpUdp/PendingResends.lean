import TcpUdp.ChannelTheorems
import Mathlib.Order.Monotone.Basic
import Mathlib.Data.Int.Order.Basic

/-!
# How often a message is resent

`processMissingNotify` resends what the peer misses unless a resend is pending: an entry of
`pendingResendIds` suppresses a second resend for `pendingResendTtl`, or until the peer no
longer lists the message. `handedOver` are the ids that one call gives to `resendCallback`;
`resends_rate_limited` is the law of a sequence of calls, with anything else happening to
the channel in between.
-/

namespace TcpUdp

open Lib

namespace TcpVirtualChannel

variable {ch : TcpVirtualChannel} {now : ℤ} {id : ℕ}

/-! ## One message of a call -/

/-- The loop body calls `resendCallback` for this message. -/
def hands (ch : TcpVirtualChannel) (messageId : ℕ) : Bool :=
  (ch.pendingResendIds.find? messageId).isNone && (ch.sentDataCache.find messageId).isSome

/-- The ids that the loop gives to `resendCallback`, in order. -/
def handedIn (now : ℤ) : TcpVirtualChannel → List ℕ → List ℕ
  | _, [] => []
  | ch, messageId :: ids =>
    (if ch.hands messageId then [messageId] else [])
      ++ handedIn now (resendMissing now ch messageId) ids

/-- What the loop reads and nothing in it changes. -/
structure SameSource (ch ch' : TcpVirtualChannel) : Prop where
  sentDataCache : ch'.sentDataCache = ch.sentDataCache
  opened : ch'.opened = ch.opened

lemma markDegraded_pending (messageId : ℕ) :
    (ch.markDegraded messageId now).pendingResendIds = ch.pendingResendIds
      ∧ SameSource ch (ch.markDegraded messageId now)
      ∧ (ch.markDegraded messageId now).sendThread = ch.sendThread := by
  rw [markDegraded]
  split
  · exact ⟨rfl, ⟨rfl, rfl⟩, rfl⟩
  · exact ⟨rfl, ⟨rfl, rfl⟩, rfl⟩

lemma resendCallback_pending (messageId : ℕ) (data : List UInt8) :
    (ch.resendCallback messageId data).pendingResendIds = ch.pendingResendIds
      ∧ SameSource ch (ch.resendCallback messageId data) := by
  rw [resendCallback]
  split_ifs
  · exact ⟨rfl, ⟨rfl, rfl⟩⟩
  · exact ⟨rfl, ⟨rfl, rfl⟩⟩

lemma resendCallback_resendQueue (messageId : ℕ) (data : List UInt8) :
    (ch.resendCallback messageId data).sendThread.resendQueue.queue
      = ch.sendThread.resendQueue.queue
        ++ if ch.opened then [vcDataPacket messageId data] else [] := by
  rw [resendCallback]
  cases ch.opened
  · exact (List.append_nil _).symm
  · rfl

/-- The packet that a resend of a message puts on the resend queue. -/
def resendPacket (ch : TcpVirtualChannel) (messageId : ℕ) : List Packet :=
  match ch.sentDataCache.find messageId with
  | some dataVec => if ch.opened then [vcDataPacket messageId (resendPayload dataVec)] else []
  | none => []

/-- What the loop body does for a message: it resends and remembers that, or it does
nothing. -/
structure MessageStep (ch : TcpVirtualChannel) (now : ℤ) (id : ℕ) (ch' : TcpVirtualChannel) :
    Prop where
  source : SameSource ch ch'
  pending : ch'.pendingResendIds
    = if ch.hands id then ch.pendingResendIds.insertOrAssign id now else ch.pendingResendIds
  resendQueue : ch'.sendThread.resendQueue.queue
    = ch.sendThread.resendQueue.queue ++ if ch.hands id then ch.resendPacket id else []

lemma messageStep (ch : TcpVirtualChannel) (now : ℤ) (id : ℕ) :
    MessageStep ch now id (resendMissing now ch id) := by
  obtain ⟨hpending, ⟨hcache, hopened⟩, hthread⟩ := @markDegraded_pending ch now id
  have hnothing : ch.hands id = false → MessageStep ch now id (ch.markDegraded id now) := by
    intro hno
    refine ⟨⟨hcache, hopened⟩, ?_, ?_⟩
    · rw [hno, hpending]
      rfl
    · rw [hno, hthread]
      exact (List.append_nil _).symm
  rw [resendMissing]
  dsimp only
  split
  case h_1 since hsome =>
    apply hnothing
    rw [hands, ← hpending, hsome]
    rfl
  case h_2 hnone =>
    split
    case h_1 dataVec hfound =>
      have hyes : ch.hands id = true := by
        rw [hands, ← hpending, hnone, ← hcache, hfound]
        rfl
      obtain ⟨hpending', hcache', hopened'⟩ :=
        @resendCallback_pending (ch.markDegraded id now) id (resendPayload dataVec)
      refine ⟨⟨hcache'.trans hcache, hopened'.trans hopened⟩, ?_, ?_⟩
      · rw [hyes, hpending', hpending]
        rfl
      · rw [hyes]
        show ((ch.markDegraded id now).resendCallback id _).sendThread.resendQueue.queue = _
        rw [resendCallback_resendQueue, resendPacket, ← hcache, hfound, hopened, hthread]
        rfl
    case h_2 hmiss =>
      apply hnothing
      rw [hands, ← hcache, hmiss, Bool.and_eq_false_iff]
      exact Or.inr rfl

/-! ## The loop of a call -/

lemma hands_eq_true_iff : ch.hands id = true ↔
    ch.pendingResendIds.find? id = none ∧ (ch.sentDataCache.find id).isSome := by
  rw [hands, Bool.and_eq_true, Option.isNone_iff_eq_none]

/-- What the loop leaves pending: what was, and what it handed over. -/
lemma find?_foldl (ids : List ℕ) (j : ℕ) :
    (ids.foldl (resendMissing now) ch).pendingResendIds.find? j
      = if j ∈ handedIn now ch ids then some now else ch.pendingResendIds.find? j := by
  induction ids generalizing ch with
  | nil => rfl
  | cons id ids ih =>
    have hstep := messageStep ch now id
    rw [List.foldl_cons, ih, hstep.pending, handedIn]
    by_cases hhands : ch.hands id = true
    · rw [if_pos hhands, if_pos hhands, SortedMap.find?_insertOrAssign]
      by_cases hj : j = id
      · rw [if_pos hj, if_pos (List.mem_append_left _ (hj ▸ List.mem_singleton_self id)), ite_self]
      · simp only [List.mem_append, List.mem_singleton, hj, false_or, if_false]
    · rw [if_neg hhands, if_neg hhands, List.nil_append]

/-- A message is handed over when it is listed, cached and not pending. -/
lemma mem_handedIn {ids : List ℕ} {j : ℕ} : j ∈ handedIn now ch ids ↔
    j ∈ ids ∧ (ch.sentDataCache.find j).isSome ∧ ch.pendingResendIds.find? j = none := by
  induction ids generalizing ch with
  | nil => simp [handedIn]
  | cons id ids ih =>
    have hstep := messageStep ch now id
    rw [handedIn, List.mem_append, ih, hstep.source.sentDataCache, hstep.pending, List.mem_cons]
    by_cases hhands : ch.hands id = true
    · obtain ⟨hnone, hfound⟩ := hands_eq_true_iff.mp hhands
      rw [if_pos hhands, if_pos hhands, SortedMap.find?_insertOrAssign, List.mem_singleton]
      by_cases hj : j = id
      · rw [hj]
        simp [hnone, hfound]
      · simp [hj]
    · rw [if_neg hhands, if_neg hhands]
      by_cases hj : j = id
      · have hno : ¬ ((ch.sentDataCache.find j).isSome ∧ ch.pendingResendIds.find? j = none) := by
          intro h
          rw [hj] at h
          exact hhands (hands_eq_true_iff.mpr ⟨h.2, h.1⟩)
        simp only [hno, and_false, List.not_mem_nil, or_false]
      · simp [hj]

lemma nodup_handedIn (ids : List ℕ) : (handedIn now ch ids).Nodup := by
  induction ids generalizing ch with
  | nil => exact List.nodup_nil
  | cons id ids ih =>
    rw [handedIn]
    by_cases hhands : ch.hands id = true
    · rw [if_pos hhands, List.singleton_append, List.nodup_cons]
      refine ⟨fun hmem => ?_, ih⟩
      -- it is pending from now on
      have hpending := (mem_handedIn.mp hmem).2.2
      rw [(messageStep ch now id).pending, if_pos hhands, SortedMap.find?_insertOrAssign,
        if_pos rfl] at hpending
      cases hpending
    · rw [if_neg hhands, List.nil_append]
      exact ih

lemma resendQueue_foldl (ids : List ℕ) :
    (ids.foldl (resendMissing now) ch).sendThread.resendQueue.queue
      = ch.sendThread.resendQueue.queue ++ (handedIn now ch ids).flatMap ch.resendPacket := by
  induction ids generalizing ch with
  | nil => exact (List.append_nil _).symm
  | cons id ids ih =>
    have hstep := messageStep ch now id
    have hpacket : (resendMissing now ch id).resendPacket = ch.resendPacket := by
      funext j
      rw [resendPacket, resendPacket, hstep.source.sentDataCache, hstep.source.opened]
    rw [List.foldl_cons, ih, hstep.resendQueue, hpacket, handedIn, List.flatMap_append,
      List.append_assoc]
    by_cases hhands : ch.hands id = true
    · rw [if_pos hhands, if_pos hhands, List.flatMap_singleton]
    · rw [if_neg hhands, if_neg hhands]
      rfl

/-! ## One call -/

/-- The channel after the first loop of the call. -/
def expirePending (ch : TcpVirtualChannel) (missingIds : List ℕ) (now : ℤ) : TcpVirtualChannel :=
  { ch with
    pendingResendIds := ch.pendingResendIds.retain fun id since =>
      id ∈ missingIds ∧ now - since < pendingResendTtl }

/-- The ids that a call gives to `resendCallback`, in order. -/
def handedOver (ch : TcpVirtualChannel) (missingIds : List ℕ) (now : ℤ) : List ℕ :=
  handedIn now (ch.expirePending missingIds now) missingIds

/-- A resend of the message is pending and has not expired. -/
def PendingAt (ch : TcpVirtualChannel) (now : ℤ) (id : ℕ) : Prop :=
  ∃ since, ch.pendingResendIds.find? id = some since ∧ now - since < pendingResendTtl

lemma find?_expirePending {missingIds : List ℕ} {since : ℤ} :
    (ch.expirePending missingIds now).pendingResendIds.find? id = some since ↔
      ch.pendingResendIds.find? id = some since ∧ id ∈ missingIds
        ∧ now - since < pendingResendTtl := by
  rw [expirePending, SortedMap.find?_retain, Option.filter_eq_some_iff]
  simp

/-- Each id handed over is one packet more on the resend queue, while the channel is open. -/
lemma resendQueue_processMissingNotify (missingIds : List ℕ) :
    (ch.processMissingNotify missingIds now).sendThread.resendQueue.queue
      = ch.sendThread.resendQueue.queue
        ++ (ch.handedOver missingIds now).flatMap ch.resendPacket :=
  resendQueue_foldl missingIds

lemma mem_handedOver {missingIds : List ℕ} : id ∈ ch.handedOver missingIds now ↔
    id ∈ missingIds ∧ (ch.sentDataCache.find id).isSome ∧ ¬ ch.PendingAt now id := by
  rw [handedOver, mem_handedIn]
  refine and_congr_right fun hlisted => and_congr_right fun _ => ?_
  rw [Option.eq_none_iff_forall_ne_some]
  constructor
  · rintro h ⟨since, hsince, hfresh⟩
    exact h since (find?_expirePending.mpr ⟨hsince, hlisted, hfresh⟩)
  · intro h since hsince
    obtain ⟨hsome, -, hfresh⟩ := find?_expirePending.mp hsince
    exact h ⟨since, hsome, hfresh⟩

/-- What is pending after a call. -/
lemma find?_processMissingNotify {missingIds : List ℕ} {since : ℤ} :
    (ch.processMissingNotify missingIds now).pendingResendIds.find? id = some since ↔
      (id ∈ ch.handedOver missingIds now ∧ since = now) ∨
      (id ∉ ch.handedOver missingIds now ∧ ch.pendingResendIds.find? id = some since
        ∧ id ∈ missingIds ∧ now - since < pendingResendTtl) := by
  have h : (ch.processMissingNotify missingIds now).pendingResendIds.find? id
      = if id ∈ ch.handedOver missingIds now then some now
        else (ch.expirePending missingIds now).pendingResendIds.find? id := find?_foldl _ _
  rw [h]
  by_cases hmem : id ∈ ch.handedOver missingIds now
  · simp [hmem, eq_comm]
  · rw [if_neg hmem, find?_expirePending]
    simp [hmem]

/-! ## What else happens to the channel -/

lemma pendingResendIds_processReceivedData (ch : TcpVirtualChannel) (messageId : ℕ)
    (data : List UInt8) (sourceConnIndex : ℤ) :
    (ch.processReceivedData messageId data sourceConnIndex).pendingResendIds
      = ch.pendingResendIds := by
  unfold processReceivedData
  split
  · split
    · rfl
    · split <;> rfl
  · rfl

lemma pendingResendIds_processResendRequest (ch : TcpVirtualChannel) (messageId : ℕ) (now : ℤ) :
    (ch.processResendRequest messageId now).pendingResendIds = ch.pendingResendIds := by
  unfold processResendRequest
  dsimp only
  split
  · rw [(resendCallback_pending _ _).1, (markDegraded_pending _).1]
  · rw [(markDegraded_pending _).1]

lemma pendingResendIds_reorderStep (ch : TcpVirtualChannel) (gapNow notifyNow waitNow : ℤ) :
    (ch.reorderStep gapNow notifyNow waitNow).pendingResendIds = ch.pendingResendIds := by
  unfold reorderStep
  split
  · unfold finishIteration
    dsimp only
    split
    · unfold missingNotifyCallback
      split_ifs <;> rfl
    · rfl
  · split <;> rfl

/-- Only a notification from the peer changes what is pending. -/
lemma pendingResendIds_step (wire : ConnId → List UInt8) (e : Event) :
    (ch.step wire e).pendingResendIds = ch.pendingResendIds ∨
      ∃ (missingIds : List ℕ) (now : ℤ) (ch' : TcpVirtualChannel),
        ch'.pendingResendIds = ch.pendingResendIds ∧
        ch.step wire e = ch'.processMissingNotify missingIds now := by
  cases e with
  | callback now =>
    rw [step, callback]
    split
    · exact Or.inl rfl
    · rename_i connIndex cb callbacks _
      cases cb with
      | dataCallback messageId data =>
        exact Or.inl (pendingResendIds_processReceivedData _ messageId data connIndex)
      | resendRequestCallback messageId =>
        exact Or.inl (pendingResendIds_processResendRequest _ messageId now)
      | missingNotifyCallback missingIds =>
        exact Or.inr ⟨missingIds, now, ch.withCallbacks callbacks, rfl, rfl⟩
  | send data =>
    left
    show (ch.send data).pendingResendIds = _
    unfold send
    split_ifs <;> rfl
  | read slot sizes last =>
    left
    show (ch.read wire slot sizes last).pendingResendIds = _
    unfold read
    split
    · rfl
    · split_ifs <;> rfl
  | reorderThread gapNow notifyNow waitNow =>
    exact Or.inl (pendingResendIds_reorderStep ch gapNow notifyNow waitNow)
  | disconnectCB =>
    left
    show ch.disconnectCB.pendingResendIds = _
    unfold disconnectCB
    split_ifs <;> rfl
  | installConnection slot c =>
    left
    show (ch.installConnection slot c).pendingResendIds = _
    unfold installConnection
    split_ifs <;> rfl
  | _ => exact Or.inl rfl

/-! ## A sequence of calls -/

/-- One call, in the state that the channel is in then. -/
structure NotifyCall where
  ch : TcpVirtualChannel
  missingIds : List ℕ
  now : ℤ

namespace NotifyCall

def after (call : NotifyCall) : TcpVirtualChannel :=
  call.ch.processMissingNotify call.missingIds call.now

def handed (call : NotifyCall) : List ℕ := call.ch.handedOver call.missingIds call.now

end NotifyCall

/-- The calls of one channel in their order: what is pending is carried from one to the next,
and time does not go back. The rest of the channel is arbitrary at each call. -/
structure Successive (calls : ℕ → NotifyCall) : Prop where
  pending : ∀ k, (calls (k + 1)).ch.pendingResendIds = (calls k).after.pendingResendIds
  now : ∀ k m, k ≤ m → (calls k).now ≤ (calls m).now

variable {calls : ℕ → NotifyCall}

/-- A resend stays pending, at the time it was made, while the message is listed and the time
is not up. -/
lemma pending_of_handed (h : Successive calls) {i m : ℕ} (him : i < m)
    (hhanded : id ∈ (calls i).handed) (hlisted : ∀ k, i < k → k < m → id ∈ (calls k).missingIds)
    (hfresh : ∀ k, i < k → k < m → (calls k).now - (calls i).now < pendingResendTtl) :
    (calls m).ch.pendingResendIds.find? id = some (calls i).now := by
  induction m, Nat.succ_le_of_lt him using Nat.le_induction with
  | base =>
    rw [h.pending]
    exact find?_processMissingNotify.mpr (Or.inl ⟨hhanded, rfl⟩)
  | succ m hm ih =>
    have him' : i < m := hm
    have hpending := ih him' (fun k hik hkm => hlisted k hik (Nat.lt_succ_of_lt hkm))
      fun k hik hkm => hfresh k hik (Nat.lt_succ_of_lt hkm)
    have hnow := hfresh m him' (Nat.lt_succ_self m)
    rw [h.pending]
    refine find?_processMissingNotify.mpr (Or.inr ⟨?_, hpending, ?_, hnow⟩)
    · intro hagain
      exact (mem_handedOver.mp hagain).2.2 ⟨(calls i).now, hpending, hnow⟩
    · exact hlisted m him' (Nat.lt_succ_self m)

/-- Two resends of a message are `pendingResendTtl` apart, or the peer did not list it in
between. -/
lemma resends_apart (h : Successive calls) {i j : ℕ} (hij : i < j) (hi : id ∈ (calls i).handed)
    (hj : id ∈ (calls j).handed) :
    (calls j).now - (calls i).now ≥ pendingResendTtl ∨
      ∃ k, i < k ∧ k < j ∧ id ∉ (calls k).missingIds := by
  by_contra hcon
  obtain ⟨hsoon, hnone⟩ := not_or.mp hcon
  have hfresh : ∀ k, i < k → k ≤ j → (calls k).now - (calls i).now < pendingResendTtl := by
    intro k _ hkj
    have hle : (calls k).now ≤ (calls j).now := h.now k j hkj
    omega
  have hlisted : ∀ k, i < k → k < j → id ∈ (calls k).missingIds := by
    intro k hik hkj
    by_contra hmissing
    exact hnone ⟨k, hik, hkj, hmissing⟩
  have hpending := pending_of_handed h hij hi hlisted fun k hik hkj => hfresh k hik hkj.le
  exact (mem_handedOver.mp hj).2.2 ⟨(calls i).now, hpending, hfresh j hij le_rfl⟩

/-- What is remembered is listed, a call resends nothing twice and just what is listed,
cached and not pending, and resends of a message are rate limited. -/
theorem resends_rate_limited (h : Successive calls) :
    (∀ k, (∀ id ∈ (calls k).after.pendingResendIds.keys, id ∈ (calls k).missingIds) ∧
      (calls k).handed.Nodup ∧
      ∀ id, id ∈ (calls k).handed ↔ id ∈ (calls k).missingIds ∧
        ((calls k).ch.sentDataCache.find id).isSome ∧ ¬ (calls k).ch.PendingAt (calls k).now id) ∧
    ∀ i j id, i < j → id ∈ (calls i).handed → id ∈ (calls j).handed →
      (calls j).now - (calls i).now ≥ pendingResendTtl ∨
        ∃ k, i < k ∧ k < j ∧ id ∉ (calls k).missingIds := by
  refine ⟨fun k => ⟨?_, nodup_handedIn _, fun id => mem_handedOver⟩, ?_⟩
  · intro id hid
    obtain ⟨since, hsince⟩ := (SortedMap.mem_keys_iff _).mp hid
    rcases find?_processMissingNotify.mp hsince with ⟨hhanded, _⟩ | ⟨_, _, hlisted, _⟩
    · exact (mem_handedOver.mp hhanded).1
    · exact hlisted
  · intro i j id hij hi hj
    exact resends_apart h hij hi hj

/-- Message 0 is cached, and the peer lists it twice in every notification, one a second. -/
def listedTwice : ℕ → NotifyCall
  | 0 =>
    { ch := (opening {} [0]).accept [7], missingIds := [0, 0], now := 0 }
  | k + 1 =>
    { ch := (listedTwice k).after, missingIds := [0, 0], now := (listedTwice k).now + 1000 }

lemma successive_listedTwice : Successive listedTwice where
  pending k := rfl
  now := by
    intro k m hkm
    induction hkm with
    | refl => exact le_rfl
    | step _ ih =>
      apply le_trans ih
      show (listedTwice _).now ≤ (listedTwice _).now + 1000
      omega

/-- It is resent in the first second and in the third. -/
theorem resends_rate_limited_listedTwice :
    (listedTwice 0).handed = [0] ∧ (listedTwice 1).handed = [] ∧ (listedTwice 2).handed = [0] ∧
    ((listedTwice 2).now - (listedTwice 0).now ≥ pendingResendTtl ∨
      ∃ k, 0 < k ∧ k < 2 ∧ 0 ∉ (listedTwice k).missingIds) := by
  have hfirst : (listedTwice 0).handed = [0] := by decide
  have hthird : (listedTwice 2).handed = [0] := by decide
  refine ⟨hfirst, by decide, hthird, ?_⟩
  apply (resends_rate_limited successive_listedTwice).2 0 2 0 (by decide)
  · rw [hfirst]
    decide
  · rw [hthird]
    decide

end TcpVirtualChannel

end TcpUdp
