import TcpUdp.ReadThread

/-!
# The two receive parsers

On well-formed packets the read thread does what the IO thread does, with one exception: it
takes a notification only when 522 bytes are there, so that a notification near the end of what
was sent waits in the buffer, with everything behind it. `parsers_agree_iff` says that this is
the only difference.
-/

namespace TcpUdp

open Lib

namespace ReadThread

/-! ## The first packet of a buffer -/

/-- How many bytes the read thread wants to see before it takes a packet. -/
def bytesNeeded : IoCallback → ℕ
  | .dataCallback id data => (vcDataPacket id data).length
  | .resendRequestCallback id => (vcResendRequest id).length
  | .missingNotifyCallback _ => vcMinMissingNotifySize

variable {cb : IoCallback} {b rest z : List UInt8}

lemma bytesNeeded_ge (h : ValidPacket cb) :
    (encodePacket cb).length ≤ bytesNeeded cb ∧ vcMinDataPacketSize ≤ bytesNeeded cb := by
  have hmin := length_encodePacket h
  cases cb with
  | dataCallback id data => exact ⟨le_rfl, hmin⟩
  | resendRequestCallback id => exact ⟨le_rfl, hmin⟩
  | missingNotifyCallback ids =>
    refine ⟨?_, show vcMinDataPacketSize ≤ vcMinMissingNotifySize by decide⟩
    show (vcMissingNotify ids).length ≤ vcMinMissingNotifySize
    rw [length_vcMissingNotify h.2.1]
    exact Nat.add_le_add_left (Nat.mul_le_mul_right 8 h.2.1) _

/-- The packet type is there with the first byte. -/
lemma headerType_of_prefix (hb : b ++ rest = encodePacket cb ++ z) (hlen : 1 ≤ b.length) :
    headerType b = headerType (encodePacket cb ++ z) := by
  rw [← hb, headerType_append rest hlen]

lemma hasEnoughData_data {id : ℕ} {data : List UInt8}
    (h : ValidPacket (.dataCallback id data))
    (hb : b ++ rest = encodePacket (.dataCallback id data) ++ z)
    (hlen : vcMinDataPacketSize ≤ b.length) :
    hasEnoughData b = .ok (decide (bytesNeeded (.dataCallback id data) ≤ b.length)) := by
  have hone : 1 ≤ b.length := le_trans (by decide) hlen
  have htype : headerType b = VcPacketType.data.toByte := headerType_of_prefix hb hone
  have h16 : data.length < 2 ^ 16 := lt_of_le_of_lt h.2 (by decide)
  have hdata : dataLength b = data.length := by
    rw [← dataLength_append rest hlen, hb]
    exact dataLength_vcDataPacket z id h16
  rw [hasEnoughData, if_neg (not_lt.mpr hlen), if_pos htype, hasEnoughDataForData,
    if_neg (not_lt.mpr hlen), hdata, if_neg (not_lt.mpr h.2), bytesNeeded, length_vcDataPacket]
  rfl

lemma hasEnoughData_resendRequest {id : ℕ}
    (hb : b ++ rest = encodePacket (.resendRequestCallback id) ++ z)
    (hlen : vcMinDataPacketSize ≤ b.length) :
    hasEnoughData b = .ok (decide (bytesNeeded (.resendRequestCallback id) ≤ b.length)) := by
  have hone : 1 ≤ b.length := le_trans (by decide) hlen
  have htype : headerType b = VcPacketType.resendRequest.toByte := headerType_of_prefix hb hone
  rw [hasEnoughData, if_neg (not_lt.mpr hlen), htype, if_neg (by decide), if_pos rfl,
    hasEnoughDataForResendRequest, bytesNeeded, length_vcResendRequest]
  rfl

lemma hasEnoughData_missingNotify {ids : List ℕ} (h : ValidPacket (.missingNotifyCallback ids))
    (hb : b ++ rest = encodePacket (.missingNotifyCallback ids) ++ z)
    (hlen : vcMinDataPacketSize ≤ b.length) :
    hasEnoughData b = .ok (decide (bytesNeeded (.missingNotifyCallback ids) ≤ b.length)) := by
  have hone : 1 ≤ b.length := le_trans (by decide) hlen
  have htype : headerType b = VcPacketType.missingNotify.toByte := headerType_of_prefix hb hone
  have hcount : notifyCount b = ids.length := by
    rw [← notifyCount_append rest (le_trans (by decide) hlen), hb]
    exact notifyCount_vcMissingNotify z h.2.1
  rw [hasEnoughData, if_neg (not_lt.mpr hlen), htype, if_neg (by decide), if_neg (by decide),
    if_pos rfl, hasEnoughDataForMissingNotify, hcount, bytesNeeded]
  split_ifs with hshort
  · rw [decide_eq_false (not_le.mpr hshort)]
  · -- the packet is never longer than the structure
    have hstruct : sizeofVCHeader + 1 + ids.length * 8 ≤ vcMinMissingNotifySize :=
      Nat.add_le_add_left (Nat.mul_le_mul_right 8 h.2.1) _
    rw [decide_eq_true (not_lt.mp hshort), decide_eq_true (by omega)]

/-- On the beginning of a stream that begins with a packet, `hasEnoughData` does not throw and
compares lengths. -/
lemma hasEnoughData_eq (h : ValidPacket cb) (hb : b ++ rest = encodePacket cb ++ z) :
    hasEnoughData b = .ok (decide (bytesNeeded cb ≤ b.length)) := by
  by_cases hlen : vcMinDataPacketSize ≤ b.length
  · cases cb with
    | dataCallback id data => exact hasEnoughData_data h hb hlen
    | resendRequestCallback id => exact hasEnoughData_resendRequest hb hlen
    | missingNotifyCallback ids => exact hasEnoughData_missingNotify h hb hlen
  · have hneeded := (bytesNeeded_ge h).2
    rw [hasEnoughData, if_pos (not_le.mp hlen), decide_eq_false (by omega)]

/-- A whole packet at the front is called back. -/
lemma processBuffer_eq (h : ValidPacket cb) (tail : List UInt8) :
    processBuffer (encodePacket cb ++ tail) = .ok (cb, (encodePacket cb).length) := by
  cases cb with
  | dataCallback id data =>
    have h16 : data.length < 2 ^ 16 := lt_of_le_of_lt h.2 (by decide)
    rw [processBuffer, encodePacket, headerType_vcDataPacket, if_pos rfl, processDataBuffer,
      dataLength_vcDataPacket tail id h16, if_neg (not_lt.mpr h.2),
      headerMessageId_vcDataPacket tail h.1, packetData_vcDataPacket, List.take_left,
      length_vcDataPacket]
  | resendRequestCallback id =>
    rw [processBuffer, encodePacket, headerType_vcResendRequest, if_neg (by decide), if_pos rfl,
      processResendRequestBuffer, missingMessageId_vcResendRequest tail h, length_vcResendRequest]
  | missingNotifyCallback ids =>
    rw [processBuffer, encodePacket, headerType_vcMissingNotify, if_neg (by decide),
      if_neg (by decide), if_pos rfl, processMissingNotifyBuffer,
      notifyCount_vcMissingNotify tail h.2.1, notifyMissingIds_vcMissingNotify tail h.2.1 h.2.2,
      length_vcMissingNotify h.2.1]

/-! ## The loop over the packets -/

/-- The first packet of `todo` is not given enough bytes by the whole of `todo`. -/
def Fits (todo : List IoCallback) : Prop :=
  ∀ cb ∈ todo.head?, bytesNeeded cb ≤ (todo.flatMap encodePacket).length

/-- Of the packets `packets`, `done` are called back and `todo` are not, the first of which needs
more bytes than are in the buffer. -/
structure Parsed (packets done todo : List IoCallback) (buffer rest : List UInt8) : Prop where
  eq : packets = done ++ todo
  bytes : buffer ++ rest = todo.flatMap encodePacket
  waits : ∀ cb ∈ todo.head?, buffer.length < bytesNeeded cb
  fits : ∀ t, t <:+ packets → todo.length < t.length → Fits t

/-- One pass that takes the packet at the front. -/
lemma processPackets_taken (h : ValidPacket cb) {tail : List UInt8}
    (hb : encodePacket cb ++ tail ++ rest = encodePacket cb ++ z)
    (hlen : bytesNeeded cb ≤ (encodePacket cb ++ tail).length) (fuel : ℕ) :
    processPackets (fuel + 1) (encodePacket cb ++ tail)
      = (cb :: (processPackets fuel tail).1, (processPackets fuel tail).2) := by
  have henough := hasEnoughData_eq h hb
  have hmin : 0 < vcMinDataPacketSize := by decide
  have hpos : 0 < (encodePacket cb).length := lt_of_lt_of_le hmin (length_encodePacket h)
  have hdrop : (if (encodePacket cb).length = (encodePacket cb ++ tail).length then []
      else (encodePacket cb ++ tail).drop (encodePacket cb).length) = tail := by
    split_ifs with hall
    · rw [List.length_append, Nat.left_eq_add] at hall
      exact (List.length_eq_zero_iff.mp hall).symm
    · exact List.drop_left
  rw [decide_eq_true hlen] at henough
  rw [processPackets, henough]
  simp only [processBuffer_eq h tail]
  rw [if_pos hpos, hdrop]

/-- No pass takes a packet that needs more bytes. -/
lemma processPackets_waiting (h : ValidPacket cb) (hb : b ++ rest = encodePacket cb ++ z)
    (hlen : ¬ bytesNeeded cb ≤ b.length) (fuel : ℕ) : processPackets fuel b = ([], b, none) := by
  have henough := hasEnoughData_eq h hb
  rw [decide_eq_false hlen] at henough
  cases fuel with
  | zero => rfl
  | succ fuel => rw [processPackets, henough]

lemma parsed_nil : Parsed [] [] [] [] [] := by
  refine ⟨rfl, rfl, fun _ h => (nomatch h), fun t ht hlt => ?_⟩
  rw [List.suffix_nil.mp ht] at hlt
  exact absurd hlt (Nat.lt_irrefl 0)

/-- Nothing is taken where the first packet waits. -/
lemma Parsed.wait {packets : List IoCallback} (hb : b ++ rest = (cb :: packets).flatMap encodePacket)
    (hlen : ¬ bytesNeeded cb ≤ b.length) : Parsed (cb :: packets) [] (cb :: packets) b rest := by
  refine ⟨rfl, hb, fun cb' hcb' => ?_, fun t ht hlt => absurd ht.length_le (not_le.mpr hlt)⟩
  rw [List.head?_cons, Option.mem_some_iff] at hcb'
  rw [← hcb']
  exact not_le.mp hlen

/-- A packet that is taken, with what is taken behind it. -/
lemma Parsed.take {packets done todo : List IoCallback} {buffer tail : List UInt8}
    (h : Parsed packets done todo buffer rest) (htail : tail ++ rest = packets.flatMap encodePacket)
    (hlen : bytesNeeded cb ≤ (encodePacket cb ++ tail).length) :
    Parsed (cb :: packets) (cb :: done) todo buffer rest := by
  refine ⟨?_, h.bytes, h.waits, fun t ht hlt => ?_⟩
  · rw [h.eq, List.cons_append]
  · rcases List.suffix_cons_iff.mp ht with rfl | ht
    · intro cb' hcb'
      rw [List.head?_cons, Option.mem_some_iff] at hcb'
      rw [List.length_append] at hlen
      rw [← hcb', List.flatMap_cons, ← htail, List.length_append, List.length_append]
      omega
    · exact h.fits t ht hlt

lemma processPackets_eq {packets : List IoCallback} (hvalid : ∀ p ∈ packets, ValidPacket p)
    {fuel : ℕ} (hfuel : b.length ≤ fuel) (hb : b ++ rest = packets.flatMap encodePacket) :
    ∃ done todo buffer, processPackets fuel b = (done, buffer, none)
      ∧ Parsed packets done todo buffer rest := by
  induction packets generalizing b fuel with
  | nil =>
    obtain ⟨rfl, rfl⟩ := List.append_eq_nil_iff.mp hb
    have hproc : processPackets fuel [] = ([], [], none) := by cases fuel <;> rfl
    exact ⟨[], [], [], hproc, parsed_nil⟩
  | cons cb packets ih =>
    have hcb := hvalid cb List.mem_cons_self
    have hcons := hb
    rw [List.flatMap_cons] at hcons
    by_cases hlen : bytesNeeded cb ≤ b.length
    · have hneeded := bytesNeeded_ge hcb
      have hmin : 0 < vcMinDataPacketSize := by decide
      have hpos : 0 < (encodePacket cb).length := lt_of_lt_of_le hmin (length_encodePacket hcb)
      obtain ⟨fuel, rfl⟩ : ∃ m, fuel = m + 1 := ⟨fuel - 1, by omega⟩
      -- what is needed is at least the packet, so that all of it is there
      have hpre : encodePacket cb <+: b :=
        List.prefix_of_prefix_length_le ⟨_, hcons.symm⟩ ⟨rest, rfl⟩ (by omega)
      obtain ⟨tail, rfl⟩ := hpre
      have hproc := processPackets_taken hcb hcons hlen fuel
      rw [List.append_assoc] at hcons
      have htail := List.append_cancel_left hcons
      rw [List.length_append] at hfuel
      have hshorter : tail.length ≤ fuel := by omega
      obtain ⟨done, todo, buffer, hrest, hparsed⟩ :=
        ih (fun p hp => hvalid p (List.mem_cons_of_mem _ hp)) hshorter htail
      rw [hrest] at hproc
      exact ⟨cb :: done, todo, buffer, hproc, hparsed.take htail hlen⟩
    · exact ⟨[], cb :: packets, b, processPackets_waiting hcb hcons hlen fuel, .wait hb hlen⟩

/-! ## The thread -/

/-- Between two calls of `receive`. -/
structure Progress (packets : List IoCallback) (s : ReadThread) (rest : List UInt8) : Prop where
  running : s.running = true
  exception : s.exception = none
  parsed : ∃ todo, Parsed packets s.callbacks todo s.bufferVector rest

lemma Progress.receive {packets : List IoCallback} (hvalid : ∀ p ∈ packets, ValidPacket p)
    {s : ReadThread} {chunk : List UInt8} (h : Progress packets s (chunk ++ rest))
    (hne : chunk ≠ []) : Progress packets (s.receive chunk) rest := by
  obtain ⟨todo, hparsed⟩ := h.parsed
  have htodo : ∀ p ∈ todo, ValidPacket p := by
    intro p hp
    apply hvalid
    rw [hparsed.eq]
    exact List.mem_append_right _ hp
  have hbytes := hparsed.bytes
  rw [← List.append_assoc] at hbytes
  obtain ⟨done, todo', buffer, hproc, hnext⟩ := processPackets_eq htodo le_rfl hbytes
  have hreceive : s.receive chunk
      = { bufferVector := buffer, callbacks := s.callbacks ++ done, running := true,
          exception := none } := by
    rw [ReadThread.receive, h.running, List.isEmpty_eq_false_iff.mpr hne]
    simp only [hproc]
    rfl
  rw [hreceive]
  refine ⟨rfl, rfl, todo', ?_, hnext.bytes, hnext.waits, ?_⟩
  · rw [List.append_assoc, ← hnext.eq, ← hparsed.eq]
  · intro t ht hlt
    rcases Nat.lt_or_ge todo.length t.length with hlong | hshort
    · exact hparsed.fits t ht hlong
    · -- only these could be taken with the new bytes
      have hsuffix : todo <:+ packets := ⟨s.callbacks, hparsed.eq.symm⟩
      exact hnext.fits t (List.suffix_of_suffix_length_le ht hsuffix hshort) hlt

lemma progress_foldl {packets : List IoCallback} (hvalid : ∀ p ∈ packets, ValidPacket p)
    {chunks : List (List UInt8)} (hne : ∀ chunk ∈ chunks, chunk ≠ []) {s : ReadThread}
    (h : Progress packets s (chunks.flatten ++ rest)) :
    Progress packets (chunks.foldl ReadThread.receive s) rest := by
  induction chunks generalizing s with
  | nil => exact h
  | cons chunk chunks ih =>
    rw [List.flatten_cons, List.append_assoc] at h
    exact ih (fun c hc => hne c (List.mem_cons_of_mem _ hc))
      (h.receive hvalid (hne chunk List.mem_cons_self))

lemma progress_run {packets : List IoCallback} (hvalid : ∀ p ∈ packets, ValidPacket p)
    {chunks : List (List UInt8)} (hne : ∀ chunk ∈ chunks, chunk ≠ [])
    (hbytes : chunks.flatten = packets.flatMap encodePacket) : Progress packets (run chunks) [] := by
  refine progress_foldl hvalid hne ⟨rfl, rfl, packets, rfl, ?_, ?_, ?_⟩
  · rw [List.append_nil]
    exact hbytes
  · intro cb hcb
    have hmem : cb ∈ packets := List.mem_of_mem_head? hcb
    exact lt_of_lt_of_le (by decide) (bytesNeeded_ge (hvalid cb hmem)).2
  · intro t ht hlt
    exact absurd ht.length_le (not_le.mpr hlt)

/-- Everything is called back exactly if every packet fits into what follows it. -/
lemma callbacks_eq_iff {packets : List IoCallback} {s : ReadThread} (h : Progress packets s []) :
    s.callbacks = packets ↔ ∀ t, t <:+ packets → Fits t := by
  obtain ⟨todo, hparsed⟩ := h.parsed
  have hbytes := hparsed.bytes
  rw [List.append_nil] at hbytes
  constructor
  · intro hall t ht
    have hnil : todo = [] := by
      have heq := hparsed.eq
      rw [hall, List.self_eq_append_right] at heq
      exact heq
    cases t with
    | nil => exact fun _ h => (nomatch h)
    | cons cb t =>
      apply hparsed.fits _ ht
      rw [hnil, List.length_nil, List.length_cons]
      exact Nat.succ_pos _
  · intro hfits
    have hnil : todo = [] := by
      cases todo with
      | nil => rfl
      | cons cb todo =>
        -- all bytes are there, and the first packet that is left still waits
        have hfit := hfits _ ⟨s.callbacks, hparsed.eq.symm⟩ cb rfl
        have hwait := hparsed.waits cb rfl
        rw [← hbytes] at hfit
        omega
    rw [hparsed.eq, hnil, List.append_nil]

/-- DATA packets and resend requests always fit. -/
lemma fits_iff {packets : List IoCallback} : (∀ t, t <:+ packets → Fits t) ↔
    ∀ ids post, .missingNotifyCallback ids :: post <:+ packets → vcMinMissingNotifySize
      ≤ ((.missingNotifyCallback ids :: post : List IoCallback).flatMap encodePacket).length := by
  constructor
  · exact fun h ids post hsuffix => h _ hsuffix _ rfl
  · intro h t ht cb hcb
    cases t with
    | nil => exact absurd hcb (by simp)
    | cons cb' post =>
      obtain rfl : cb' = cb := by simpa using hcb
      cases cb' with
      | dataCallback id data =>
        rw [List.flatMap_cons, List.length_append]
        exact Nat.le_add_right _ _
      | resendRequestCallback id =>
        rw [List.flatMap_cons, List.length_append]
        exact Nat.le_add_right _ _
      | missingNotifyCallback ids => exact h ids post ht

end ReadThread

/-! ## Both parsers on the same packets -/

/-- The IO thread calls back all packets that it has received completely. -/
lemma readAll_of_valid {packets : List IoCallback} (hvalid : ∀ p ∈ packets, ValidPacket p)
    {reads : List (List RecvResult)} (hlive : ∀ rs ∈ reads, Live rs)
    (hbytes : reads.flatMap recvBytes = packets.flatMap encodePacket) :
    (readAll {} reads).1 = packets := by
  have hstream : vcFormat.IsStream packets [] (reads.flatMap recvBytes) :=
    ⟨by rw [List.append_nil]; exact hbytes, hvalid, Or.inl rfl⟩
  exact ((received_empty.readAll hlive hstream).stream.unique hstream).1

/-- The two parsers make the same callbacks, and the read thread does not throw, if and only if
every notification has, with the packets behind it, 522 bytes. -/
theorem parsers_agree_iff {packets : List IoCallback} (hvalid : ∀ p ∈ packets, ValidPacket p)
    {chunks : List (List UInt8)} (hne : ∀ chunk ∈ chunks, chunk ≠ [])
    (hchunks : chunks.flatten = packets.flatMap encodePacket)
    {reads : List (List RecvResult)} (hlive : ∀ rs ∈ reads, Live rs)
    (hreads : reads.flatMap recvBytes = packets.flatMap encodePacket) :
    ((ReadThread.run chunks).callbacks = (readAll {} reads).1
        ∧ (ReadThread.run chunks).exception = none)
      ↔ ∀ ids post, .missingNotifyCallback ids :: post <:+ packets → vcMinMissingNotifySize
        ≤ ((.missingNotifyCallback ids :: post : List IoCallback).flatMap encodePacket).length := by
  have hprogress := ReadThread.progress_run hvalid hne hchunks
  rw [readAll_of_valid hvalid hlive hreads, ReadThread.callbacks_eq_iff hprogress,
    ReadThread.fits_iff]
  exact and_iff_left hprogress.exception

/-- A DATA packet with one payload byte, received in one piece by both. -/
theorem parsers_agree_iff_oneData :
    ((ReadThread.run [encodePacket (.dataCallback 5 [7])]).callbacks
        = (readAll {} [[.bytes (encodePacket (.dataCallback 5 [7]))]]).1
      ∧ (ReadThread.run [encodePacket (.dataCallback 5 [7])]).exception = none)
    ↔ ∀ ids post, .missingNotifyCallback ids :: post <:+ [.dataCallback 5 [7]]
      → vcMinMissingNotifySize
        ≤ ((.missingNotifyCallback ids :: post : List IoCallback).flatMap encodePacket).length := by
  apply parsers_agree_iff
  · intro p hp
    rw [List.mem_singleton.mp hp]
    exact ⟨by decide, by decide⟩
  · decide
  · decide
  · intro rs hrs
    rw [List.mem_singleton.mp hrs]
    trivial
  · decide

/-- A notification of one id, 18 bytes. -/
def shortNotify : IoCallback := .missingNotifyCallback [4]

theorem not_parsers_agree :
    ¬ ∀ (packets : List IoCallback), (∀ p ∈ packets, ValidPacket p) →
      ∀ chunks : List (List UInt8), (∀ chunk ∈ chunks, chunk ≠ []) →
      chunks.flatten = packets.flatMap encodePacket →
      ∀ reads : List (List RecvResult), (∀ rs ∈ reads, Live rs) →
      reads.flatMap recvBytes = packets.flatMap encodePacket →
      (ReadThread.run chunks).callbacks = (readAll {} reads).1
        ∧ (ReadThread.run chunks).exception = none := by
  intro h
  have hvalid : ∀ p ∈ [shortNotify], ValidPacket p := by
    intro p hp
    rw [List.mem_singleton.mp hp]
    exact ⟨by decide, by decide, by decide⟩
  have hlive : ∀ rs ∈ [[RecvResult.bytes (encodePacket shortNotify)]], Live rs := by
    intro rs hrs
    rw [List.mem_singleton.mp hrs]
    trivial
  have hread : (readAll {} [[.bytes (encodePacket shortNotify)]]).1 = [shortNotify] :=
    readAll_of_valid hvalid hlive rfl
  have hwaits : (ReadThread.run [encodePacket shortNotify]).callbacks = [] := rfl
  obtain ⟨hsame, -⟩ := h [shortNotify] hvalid [encodePacket shortNotify] (by decide) rfl
    [[.bytes (encodePacket shortNotify)]] hlive rfl
  rw [hread, hwaits] at hsame
  exact List.cons_ne_nil _ _ hsame.symm

end TcpUdp
