import TcpUdp.IoThread

/-!
# Packets as frames of a stream

The three packet builders and the parse loop of the IO thread fit together as a
`Lib.FrameFormat`: `vcFormat`. With that, whatever a channel puts on a connection is
called back on the other side exactly, however the bytes are cut (`readAll_callbacks`).
-/

namespace TcpUdp

open Lib

/-! ## Fields of an incomplete packet -/

section Prefix

variable {p : List UInt8} (q : List UInt8)

lemma headerType_append (h : 1 ≤ p.length) : headerType (p ++ q) = headerType p := by
  cases p with
  | nil => exact absurd h (by decide)
  | cons b p => rfl

/-- A field that ends inside `p` is read from `p`. -/
lemma take_drop_append {a w : ℕ} (h : a + w ≤ p.length) :
    ((p ++ q).drop a).take w = (p.drop a).take w := by
  rw [List.drop_append_of_le_length (by omega),
    List.take_append_of_le_length (by rw [List.length_drop]; omega)]

lemma dataLength_append (h : sizeofVCDataPacket ≤ p.length) :
    dataLength (p ++ q) = dataLength p := by
  rw [dataLength, dataLength, take_drop_append q h]

lemma notifyCount_append (h : sizeofVCHeader + 1 ≤ p.length) :
    notifyCount (p ++ q) = notifyCount p := by
  have hhead : ∀ l : List UInt8,
      notifyCount l = (((l.drop sizeofVCHeader).take 1).headD 0).toNat := by
    intro l
    rw [notifyCount]
    cases l.drop sizeofVCHeader <;> rfl
  rw [hhead, hhead, take_drop_append q h]

end Prefix

/-! ## The format -/

/-- The packet a callback answers to. -/
def encodePacket : IoCallback → Packet
  | .dataCallback messageId data => vcDataPacket messageId data
  | .resendRequestCallback messageId => vcResendRequest messageId
  | .missingNotifyCallback missingIds => vcMissingNotify missingIds

/-- What fits the fields and the limits of the protocol. A notification without ids is
shorter than the shortest packet the parse loop looks at. -/
def ValidPacket : IoCallback → Prop
  | .dataCallback messageId data =>
    messageId < uint64Size ∧ data.length ≤ vcMaxDataPayloadSize
  | .resendRequestCallback messageId => messageId < uint64Size
  | .missingNotifyCallback missingIds =>
    1 ≤ missingIds.length ∧ missingIds.length ≤ vcMaxMissingIdsPerNotify
      ∧ ∀ id ∈ missingIds, id < uint64Size

lemma length_encodePacket {cb : IoCallback} (h : ValidPacket cb) :
    vcMinDataPacketSize ≤ (encodePacket cb).length := by
  cases cb with
  | dataCallback messageId data =>
    rw [encodePacket, length_vcDataPacket]
    exact Nat.le_add_right _ _
  | resendRequestCallback messageId =>
    rw [encodePacket, length_vcResendRequest]
    decide
  | missingNotifyCallback missingIds =>
    obtain ⟨hpos, hmax, -⟩ := h
    rw [encodePacket, length_vcMissingNotify hmax]
    simp only [vcMinDataPacketSize, sizeofVCDataPacket, sizeofVCHeader]
    omega

/-! A whole packet at the front of the buffer is taken, whatever follows it. -/

lemma scanPacket_vcDataPacket {id : ℕ} {data : List UInt8} (hid : id < uint64Size)
    (hsize : data.length ≤ vcMaxDataPayloadSize) (rest : List UInt8) :
    scanPacket (vcDataPacket id data ++ rest)
      = .frame (.dataCallback id data) (vcDataPacket id data).length := by
  have h16 : data.length < 2 ^ 16 := lt_of_le_of_lt hsize (by decide)
  have htotal := length_vcDataPacket id data
  have hlen : (vcDataPacket id data ++ rest).length
      = (vcDataPacket id data).length + rest.length := List.length_append
  have hmin : vcMinDataPacketSize = sizeofVCDataPacket := rfl
  unfold scanPacket
  dsimp only
  rw [if_neg (by omega), headerType_vcDataPacket, if_pos rfl, if_neg (by omega),
    dataLength_vcDataPacket rest id h16, if_neg (by omega), if_neg (by omega),
    headerMessageId_vcDataPacket rest hid, packetData_vcDataPacket, List.take_left, htotal]

lemma scanPacket_vcResendRequest {id : ℕ} (hid : id < uint64Size) (rest : List UInt8) :
    scanPacket (vcResendRequest id ++ rest)
      = .frame (.resendRequestCallback id) (vcResendRequest id).length := by
  have htotal := length_vcResendRequest id
  have hlen : (vcResendRequest id ++ rest).length
      = (vcResendRequest id).length + rest.length := List.length_append
  have hmin : vcMinDataPacketSize ≤ sizeofVCResendRequest := by decide
  unfold scanPacket
  rw [if_neg (by omega), headerType_vcResendRequest, if_neg (by decide), if_pos rfl,
    if_neg (by omega), missingMessageId_vcResendRequest rest hid, htotal]

lemma scanPacket_vcMissingNotify {ids : List ℕ} (hpos : 1 ≤ ids.length)
    (hmax : ids.length ≤ vcMaxMissingIdsPerNotify) (hids : ∀ id ∈ ids, id < uint64Size)
    (rest : List UInt8) :
    scanPacket (vcMissingNotify ids ++ rest)
      = .frame (.missingNotifyCallback ids) (vcMissingNotify ids).length := by
  have htotal := length_vcMissingNotify hmax
  have hlen : (vcMissingNotify ids ++ rest).length
      = (vcMissingNotify ids).length + rest.length := List.length_append
  have hmin : vcMinDataPacketSize = sizeofVCHeader + 2 := rfl
  unfold scanPacket
  dsimp only
  rw [if_neg (by omega), headerType_vcMissingNotify, if_neg (by decide), if_neg (by decide),
    if_pos rfl, if_neg (by omega), notifyCount_vcMissingNotify rest hmax,
    if_neg (not_lt.mpr hmax), if_neg (by omega),
    notifyMissingIds_vcMissingNotify rest hmax hids, htotal]

/-! A packet that is not complete is left in the buffer: its length fields are inside the
eleven bytes without which the loop does not look at it. -/

section Partial

variable {p q : List UInt8}

lemma scanPacket_short (h : p.length < vcMinDataPacketSize) : scanPacket p = .wait := by
  unfold scanPacket
  rw [if_pos h]

lemma scanPacket_vcDataPacket_partial {id : ℕ} {data : List UInt8}
    (hsize : data.length ≤ vcMaxDataPayloadSize) (hpq : p ++ q = vcDataPacket id data)
    (hq : q ≠ []) : scanPacket p = .wait := by
  by_cases hmin : p.length < vcMinDataPacketSize
  · exact scanPacket_short hmin
  have hmin' : sizeofVCDataPacket ≤ p.length := not_lt.mp hmin
  have h16 : data.length < 2 ^ 16 := lt_of_le_of_lt hsize (by decide)
  have hlen : p.length + q.length = sizeofVCDataPacket + data.length := by
    rw [← List.length_append, hpq, length_vcDataPacket]
  have hqpos := List.length_pos_iff.mpr hq
  have htype : headerType p = VcPacketType.data.toByte := by
    rw [← headerType_append q (le_trans (by decide) hmin'), hpq]
    rfl
  have hdata : dataLength p = data.length := by
    rw [← dataLength_append q hmin', hpq, ← List.append_nil (vcDataPacket id data)]
    exact dataLength_vcDataPacket [] id h16
  unfold scanPacket
  dsimp only
  rw [if_neg hmin, if_pos htype, if_neg (not_lt.mpr hmin'), hdata, if_neg (not_lt.mpr hsize),
    if_pos (by omega)]

lemma scanPacket_vcResendRequest_partial {id : ℕ} (hpq : p ++ q = vcResendRequest id)
    (hq : q ≠ []) : scanPacket p = .wait := by
  by_cases hmin : p.length < vcMinDataPacketSize
  · exact scanPacket_short hmin
  have hlen : p.length + q.length = sizeofVCResendRequest := by
    rw [← List.length_append, hpq, length_vcResendRequest]
  have hqpos := List.length_pos_iff.mpr hq
  have htype : headerType p = VcPacketType.resendRequest.toByte := by
    rw [← headerType_append q (le_trans (by decide) (not_lt.mp hmin)), hpq]
    rfl
  unfold scanPacket
  rw [if_neg hmin, if_neg (by rw [htype]; decide), if_pos htype, if_pos (by omega)]

lemma scanPacket_vcMissingNotify_partial {ids : List ℕ}
    (hmax : ids.length ≤ vcMaxMissingIdsPerNotify) (hpq : p ++ q = vcMissingNotify ids)
    (hq : q ≠ []) : scanPacket p = .wait := by
  by_cases hmin : p.length < vcMinDataPacketSize
  · exact scanPacket_short hmin
  have hmin' : sizeofVCHeader + 1 ≤ p.length := le_trans (by decide) (not_lt.mp hmin)
  have hlen : p.length + q.length = sizeofVCHeader + 1 + ids.length * 8 := by
    rw [← List.length_append, hpq, length_vcMissingNotify hmax]
  have hqpos := List.length_pos_iff.mpr hq
  have htype : headerType p = VcPacketType.missingNotify.toByte := by
    rw [← headerType_append q (le_trans (by decide) hmin'), hpq]
    rfl
  have hcount : notifyCount p = ids.length := by
    rw [← notifyCount_append q hmin', hpq, ← List.append_nil (vcMissingNotify ids)]
    exact notifyCount_vcMissingNotify [] hmax
  unfold scanPacket
  dsimp only
  rw [if_neg hmin, if_neg (by rw [htype]; decide), if_neg (by rw [htype]; decide),
    if_pos htype, if_neg (not_lt.mpr hmin'), hcount, if_neg (not_lt.mpr hmax),
    if_pos (by omega)]

end Partial

/-- The packets of a virtual channel as frames. -/
def vcFormat : FrameFormat IoCallback UInt8 where
  encode := encodePacket
  scan := scanPacket
  Valid := ValidPacket
  encode_pos _ h := lt_of_lt_of_le (by decide) (length_encodePacket h)
  scan_nil := rfl
  scan_encode cb rest h :=
    match cb, h with
    | .dataCallback _ _, h => scanPacket_vcDataPacket h.1 h.2 rest
    | .resendRequestCallback _, h => scanPacket_vcResendRequest h rest
    | .missingNotifyCallback _, h => scanPacket_vcMissingNotify h.1 h.2.1 h.2.2 rest
  scan_partial cb p h hp hne := by
    obtain ⟨q, hpq⟩ := hp
    have hq : q ≠ [] := fun hnil => hne (by rw [← hpq, hnil, List.append_nil])
    cases cb with
    | dataCallback id data => exact scanPacket_vcDataPacket_partial h.2 hpq hq
    | resendRequestCallback id => exact scanPacket_vcResendRequest_partial hpq hq
    | missingNotifyCallback ids => exact scanPacket_vcMissingNotify_partial h.2.1 hpq hq

/-! ## What a live connection calls back -/

/-- The slot has received the bytes `x`, called back `cbs`, and kept what is not complete. -/
structure Received (slot : IoSlot) (x : List UInt8) (cbs : List IoCallback) : Prop where
  connected : slot.connected = true
  wf : slot.readBuffer.Wf
  stream : vcFormat.IsStream cbs slot.readBuffer.begin x

lemma received_empty : Received {} [] [] :=
  ⟨rfl, ReadBuffer.wf_empty, rfl, fun _ h => (nomatch h), Or.inl rfl⟩

/-- One call on a live connection calls back the packets it completes. -/
lemma Received.read {slot : IoSlot} {x : List UInt8} {cbs : List IoCallback}
    (h : Received slot x cbs) {rs : List RecvResult} (hlive : Live rs) {as : List IoCallback}
    {t : List UInt8} (hx : vcFormat.IsStream as t (x ++ recvBytes rs)) :
    Received (readFromConnection slot rs).2 (x ++ recvBytes rs)
      (cbs ++ (readFromConnection slot rs).1) := by
  obtain ⟨cs, rfl, hcs⟩ := hx.rest h.stream
  obtain ⟨hcb, hbegin, hconn, hwf⟩ := readFromConnection_live h.connected h.wf hlive rfl
  have hdecode : decode scanPacket (slot.readBuffer.begin ++ recvBytes rs).length
      (slot.readBuffer.begin ++ recvBytes rs) = (cs, t) := hcs.decode hcs.length_le
  rw [hdecode] at hcb hbegin
  exact ⟨hconn, hwf, by rw [hcb, hbegin]; exact hx⟩

lemma Received.readAll {reads : List (List RecvResult)} (hlive : ∀ rs ∈ reads, Live rs)
    {slot : IoSlot} {x : List UInt8} {cbs : List IoCallback} (h : Received slot x cbs)
    {as : List IoCallback} {t : List UInt8}
    (hx : vcFormat.IsStream as t (x ++ reads.flatMap recvBytes)) :
    Received (readAll slot reads).2 (x ++ reads.flatMap recvBytes)
      (cbs ++ (TcpUdp.readAll slot reads).1) := by
  induction reads generalizing slot x cbs with
  | nil =>
    rw [List.flatMap_nil, List.append_nil, TcpUdp.readAll, List.append_nil]
    exact h
  | cons rs reads ih =>
    rw [List.flatMap_cons, ← List.append_assoc] at hx ⊢
    -- what arrives up to this call is a stream of the first few packets
    obtain ⟨k, t', hk⟩ := hx.of_prefix (List.prefix_append _ _)
    have hnext := h.read (hlive rs List.mem_cons_self) hk
    have := ih (fun rs' h' => hlive rs' (List.mem_cons_of_mem _ h')) hnext hx
    rwa [List.append_assoc cbs] at this

/-! ## What a channel emits -/

lemma resendPayload_vcDataPacket {id : ℕ} {data : List UInt8}
    (hsize : data.length ≤ vcMaxDataPayloadSize) : resendPayload (vcDataPacket id data) = data := by
  have h16 : data.length < 2 ^ 16 := lt_of_le_of_lt hsize (by decide)
  have hdata := dataLength_vcDataPacket [] id h16
  have hbytes := packetData_vcDataPacket [] id data
  rw [List.append_nil] at hdata hbytes
  rw [resendPayload, hdata, hbytes, List.append_nil, List.take_length]

/-- A packet a channel puts on its connections. -/
inductive Emitted where
  /-- Built by `send`. -/
  | sent (messageId : ℕ) (data : List UInt8)
  /-- Rebuilt by the default `resendCallback` from the cached packet of `send`. -/
  | resent (messageId : ℕ) (data : List UInt8)
  /-- Built by the default `missingNotifyCallback`. -/
  | notified (missingIds : List ℕ)

namespace Emitted

def bytes : Emitted → Packet
  | sent messageId data => vcDataPacket messageId data
  | resent messageId data => vcDataPacket messageId (resendPayload (vcDataPacket messageId data))
  | notified missingIds => vcMissingNotify missingIds

/-- The callback the receiver is to make. -/
def callback : Emitted → IoCallback
  | sent messageId data => .dataCallback messageId data
  | resent messageId data => .dataCallback messageId data
  | notified missingIds => .missingNotifyCallback missingIds

/-- Payloads of 1 to 2000 bytes, 1 to 64 ids, 64-bit ids. -/
def Valid : Emitted → Prop
  | sent messageId data =>
    messageId < uint64Size ∧ 1 ≤ data.length ∧ data.length ≤ vcMaxDataPayloadSize
  | resent messageId data =>
    messageId < uint64Size ∧ 1 ≤ data.length ∧ data.length ≤ vcMaxDataPayloadSize
  | notified missingIds =>
    1 ≤ missingIds.length ∧ missingIds.length ≤ vcMaxMissingIdsPerNotify
      ∧ ∀ id ∈ missingIds, id < uint64Size

lemma Valid.packet {e : Emitted} (h : e.Valid) : ValidPacket e.callback := by
  cases e with
  | sent messageId data => exact ⟨h.1, h.2.2⟩
  | resent messageId data => exact ⟨h.1, h.2.2⟩
  | notified missingIds => exact h

lemma Valid.bytes_eq {e : Emitted} (h : e.Valid) : e.bytes = encodePacket e.callback := by
  cases e with
  | sent messageId data => rfl
  | resent messageId data => rw [bytes, resendPayload_vcDataPacket h.2.2]; rfl
  | notified missingIds => rfl

lemma flatMap_bytes {es : List Emitted} (h : ∀ e ∈ es, e.Valid) :
    es.flatMap bytes = (es.map callback).flatMap encodePacket := by
  rw [List.flatMap_map]
  exact List.flatMap_congr fun e he => (h e he).bytes_eq

end Emitted

/-- The callbacks of any number of calls are the packets complete within their bytes. -/
lemma readAll_eq_completed {es : List Emitted} (hvalid : ∀ e ∈ es, e.Valid)
    {reads : List (List RecvResult)} (hlive : ∀ rs ∈ reads, Live rs)
    (hbytes : reads.flatMap recvBytes <+: es.flatMap Emitted.bytes) :
    (readAll {} reads).1
      = vcFormat.completed (es.map Emitted.callback) (reads.flatMap recvBytes).length := by
  have hpacket : ∀ cb ∈ es.map Emitted.callback, vcFormat.Valid cb := by
    intro cb hcb
    obtain ⟨e, he, rfl⟩ := List.mem_map.mp hcb
    exact (hvalid e he).packet
  rw [Emitted.flatMap_bytes hvalid] at hbytes
  obtain ⟨t, ht⟩ := FrameFormat.isStream_completed (F := vcFormat) hpacket hbytes
  exact ((received_empty.readAll hlive ht).stream.unique ht).1

/-- However the encodings are cut into chunks and calls, after every call exactly the
packets that are complete within the bytes received so far have been called back, each
once and in order. A rebuilt packet is the packet `send` built. -/
theorem readAll_callbacks {es : List Emitted} (hvalid : ∀ e ∈ es, e.Valid)
    {reads : List (List RecvResult)} (hlive : ∀ rs ∈ reads, Live rs)
    (hbytes : reads.flatMap recvBytes <+: es.flatMap Emitted.bytes) :
    (∀ j, ∃ k ≤ es.length,
      (readAll {} (reads.take j)).1 = (es.take k).map Emitted.callback ∧
      ((es.take k).flatMap Emitted.bytes).length ≤ ((reads.take j).flatMap recvBytes).length ∧
      (k < es.length → ((reads.take j).flatMap recvBytes).length
        < ((es.take (k + 1)).flatMap Emitted.bytes).length)) ∧
    (reads.flatMap recvBytes = es.flatMap Emitted.bytes →
      (readAll {} reads).1 = es.map Emitted.callback) ∧
    ∀ messageId data, Emitted.resent messageId data ∈ es →
      (Emitted.resent messageId data).bytes = (Emitted.sent messageId data).bytes := by
  refine ⟨fun j => ?_, fun hall => ?_, fun messageId data hmem => ?_⟩
  · have hsplit : reads.flatMap recvBytes
        = (reads.take j).flatMap recvBytes ++ (reads.drop j).flatMap recvBytes := by
      rw [← List.flatMap_append, List.take_append_drop]
    -- the first `j` calls are calls in their own right, on a prefix of the stream
    have hcb := readAll_eq_completed hvalid
      (fun rs hrs => hlive rs (List.mem_of_mem_take hrs))
      ((List.prefix_append _ _).trans (hsplit ▸ hbytes))
    obtain ⟨k, hk, htake, hle, hlt⟩ := FrameFormat.completed_eq_take (F := vcFormat)
      (es.map Emitted.callback) ((reads.take j).flatMap recvBytes).length
    have hframes : ∀ i, ((es.map Emitted.callback).take i).flatMap vcFormat.encode
        = (es.take i).flatMap Emitted.bytes := by
      intro i
      rw [Emitted.flatMap_bytes fun e he => hvalid e (List.mem_of_mem_take he), List.map_take]
      rfl
    rw [List.length_map] at hk hlt
    rw [hframes] at hle hlt
    exact ⟨k, hk, by rw [hcb, htake, List.map_take], hle, hlt⟩
  · rw [readAll_eq_completed hvalid hlive hbytes, hall, Emitted.flatMap_bytes hvalid]
    exact FrameFormat.completed_length (F := vcFormat) _
  · have h := (hvalid _ hmem).bytes_eq
    rw [h]
    rfl

theorem readAll_callbacks_two_packets :
    (readAll {} [[.bytes [0, 5, 0], .wouldBlock],
        [.bytes [0, 0, 0, 0, 0, 0, 1, 0, 7, 3, 0, 0], .interrupted],
        [.bytes [0, 0, 0, 0, 0, 0, 1, 4], .bytes [0, 0, 0, 0, 0, 0, 0]]]).1
      = [.dataCallback 5 [7], .missingNotifyCallback [4]] :=
  (@readAll_callbacks [.resent 5 [7], .notified [4]]
    (by simp [Emitted.Valid, uint64Size, vcMaxDataPayloadSize, vcMaxMissingIdsPerNotify])
    _ (by simp [Live]) (by decide)).2.1 (by decide)

end TcpUdp
