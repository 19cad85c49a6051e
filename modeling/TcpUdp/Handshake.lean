import TcpUdp.ServerTables
import TcpUdp.Lib.LittleEndian
import Mathlib.Data.List.Basic

/-!
# The handshake of an accepted socket

`AcceptConnections` reads a `MsgBind` into a buffer of zeros. `RecvTcpDataWithSize` returns
what it has read when the peer closes early, and the caller looks at the sign only: the
`MsgBind` of a connection that was closed in the middle is filled up with zeros. One that is
sent whole is read as it was sent, however TCP cuts it up (`receiveBind_appendMsgBind`).
-/

namespace TcpUdp

open Lib LittleEndian

/-- `clientId` at 0, `slotIndex` at 4, three bytes of padding, `connectionId` at 8. -/
def sizeofMsgBind : ℕ := 12

/-- What `recv` returns: an error, or the bytes it has read; none of them when the peer has
closed the connection. -/
inductive RecvReturn where
  | error
  | bytes (chunk : List UInt8)
  deriving DecidableEq, Repr

/-- `RecvTcpDataWithSize` on the results of `recv`, with what it returns and the bytes that
are then in the buffer; `none` while it waits for more. -/
def recvTcpDataWithSize (bytesToRead : ℕ) (buffer : List UInt8) :
    List RecvReturn → Option (ℤ × List UInt8)
  | [] => if buffer.length < bytesToRead then none else some (buffer.length, buffer)
  | result :: results =>
    if buffer.length < bytesToRead then
      match result with
      | .error => some (-1, buffer)
      | .bytes chunk =>
        -- `recv` is asked for no more than what is missing
        match chunk.take (bytesToRead - buffer.length) with
        | [] => some (buffer.length, buffer)
        | b :: bs => recvTcpDataWithSize bytesToRead (buffer ++ b :: bs) results
    else some (buffer.length, buffer)

def extractMsgBind (data : List UInt8) : Option MsgBind :=
  if data.length < sizeofMsgBind then none
  else some
    { clientId := load (data.take 4)
      slotIndex := (data.getD 4 0).toInt8.toInt
      connectionId := load ((data.drop 8).take 4) }

/-- `bindBuffer` after `RecvTcpDataWithSize` has put the bytes into it. -/
def bindBuffer (bytes : List UInt8) : List UInt8 :=
  bytes ++ List.replicate (sizeofMsgBind - bytes.length) 0

/-- What `AcceptConnections` takes from a socket: no message when it closes the socket. -/
def receiveBind (results : List RecvReturn) : Option (Option MsgBind) :=
  (recvTcpDataWithSize sizeofMsgBind [] results).map fun received =>
    if received.1 ≤ 0 then none else extractMsgBind (bindBuffer received.2)

/-! ## What is received -/

/-- It returns an error, or the number of the bytes in the buffer. -/
lemma recvTcpDataWithSize_spec {n : ℕ} {buffer bytes : List UInt8} {results : List RecvReturn}
    {received : ℤ} (hbuffer : buffer.length ≤ n)
    (h : recvTcpDataWithSize n buffer results = some (received, bytes)) :
    bytes.length ≤ n ∧ (received = -1 ∨ received = bytes.length) := by
  induction results generalizing buffer with
  | nil =>
    unfold recvTcpDataWithSize at h
    split_ifs at h
    cases h
    exact ⟨hbuffer, Or.inr rfl⟩
  | cons result results ih =>
    unfold recvTcpDataWithSize at h
    split_ifs at h with hlt
    · cases result with
      | error =>
        cases h
        exact ⟨hbuffer, Or.inl rfl⟩
      | bytes chunk =>
        simp only at h
        split at h
        · cases h
          exact ⟨hbuffer, Or.inr rfl⟩
        · rename_i b bs hchunk
          apply ih _ h
          have hlen := congrArg List.length hchunk
          rw [List.length_take, List.length_cons] at hlen
          rw [List.length_append, List.length_cons]
          omega
    · cases h
      exact ⟨hbuffer, Or.inr rfl⟩

lemma length_bindBuffer {bytes : List UInt8} (h : bytes.length ≤ sizeofMsgBind) :
    (bindBuffer bytes).length = sizeofMsgBind := by
  rw [bindBuffer, List.length_append, List.length_replicate]
  omega

/-- The buffer is always long enough for a `MsgBind`. -/
lemma extractMsgBind_bindBuffer {bytes : List UInt8} (h : bytes.length ≤ sizeofMsgBind) :
    ∃ bindMsg, extractMsgBind (bindBuffer bytes) = some bindMsg := by
  rw [extractMsgBind, if_neg (not_lt.mpr (length_bindBuffer h).ge)]
  exact ⟨_, rfl⟩

/-- The connection was closed after some bytes of the `MsgBind`, not all of them. -/
def Truncated (results : List RecvReturn) : Prop :=
  ∃ received ∈ recvTcpDataWithSize sizeofMsgBind [] results,
    0 < received.1 ∧ received.1 < sizeofMsgBind

instance (results : List RecvReturn) : Decidable (Truncated results) :=
  inferInstanceAs (Decidable (∃ received ∈ recvTcpDataWithSize sizeofMsgBind [] results, _ ∧ _))

/-- The `MsgBind` is decoded from bytes that were all received. -/
def Complete (results : List RecvReturn) : Prop :=
  ∃ received ∈ recvTcpDataWithSize sizeofMsgBind [] results,
    received.1 = sizeofMsgBind ∧ received.2.length = sizeofMsgBind
      ∧ receiveBind results = some (extractMsgBind received.2)

/-- A `MsgBind` that is decoded is complete or truncated. -/
lemma complete_iff {results : List RecvReturn} {bindMsg : MsgBind}
    (h : receiveBind results = some (some bindMsg)) : Complete results ↔ ¬ Truncated results := by
  obtain ⟨⟨received, bytes⟩, hrecv, hbind⟩ := Option.map_eq_some_iff.mp h
  simp only at hbind
  split_ifs at hbind with hpos
  have hspec := recvTcpDataWithSize_spec (Nat.zero_le _) hrecv
  constructor
  · rintro ⟨received₁, hmem₁, heq, -, -⟩ ⟨received₂, hmem₂, -, hlt⟩
    rw [Option.mem_unique hmem₁ hmem₂] at heq
    omega
  · intro hnot
    have hge : ¬ received < sizeofMsgBind := fun hlt => hnot ⟨_, hrecv, not_le.mp hpos, hlt⟩
    have hlen : bytes.length = sizeofMsgBind := by omega
    have hbuffer : bindBuffer bytes = bytes := by
      rw [bindBuffer, hlen, Nat.sub_self, List.replicate_zero, List.append_nil]
    refine ⟨_, hrecv, ?_, hlen, ?_⟩
    · show received = sizeofMsgBind
      omega
    · rw [h, ← hbind, hbuffer]

/-- Without a `MsgBind` the handshake was not truncated. -/
lemma not_truncated_of_none {results : List RecvReturn} (h : receiveBind results = some none) :
    ¬ Truncated results := by
  obtain ⟨⟨received, bytes⟩, hrecv, hbind⟩ := Option.map_eq_some_iff.mp h
  simp only at hbind
  split_ifs at hbind with hpos
  · rintro ⟨received', hmem, hlt, -⟩
    rw [Option.mem_unique hmem hrecv] at hlt
    exact hpos.not_gt hlt
  · obtain ⟨bindMsg, hextract⟩ :=
      extractMsgBind_bindBuffer (recvTcpDataWithSize_spec (Nat.zero_le _) hrecv).1
    rw [hextract] at hbind
    cases hbind

/-! ## A handshake that is sent -/

/-- The fields fit into their types. -/
structure MsgBind.Fits (bind : MsgBind) : Prop where
  clientId : bind.clientId < 2 ^ 32
  slotIndex : -128 ≤ bind.slotIndex ∧ bind.slotIndex < 128
  connectionId : bind.connectionId < 2 ^ 32

/-- The padding is what happens to be in the memory. -/
def appendMsgBind (bind : MsgBind) (padding : List UInt8) : List UInt8 :=
  store 4 bind.clientId ++ (Int8.ofInt bind.slotIndex).toUInt8 :: padding
    ++ store 4 bind.connectionId

variable {bind : MsgBind} {padding : List UInt8}

lemma length_appendMsgBind (hpadding : padding.length = 3) :
    (appendMsgBind bind padding).length = sizeofMsgBind := by
  simp only [appendMsgBind, List.length_append, List.length_cons, length_store, hpadding]
  rfl

/-- A `MsgBind` is read as it was written. -/
lemma extractMsgBind_appendMsgBind (h : bind.Fits) (hpadding : padding.length = 3) :
    extractMsgBind (appendMsgBind bind padding) = some bind := by
  have hclient : (appendMsgBind bind padding).take 4 = store 4 bind.clientId := by
    rw [appendMsgBind, List.append_assoc, List.take_left' (length_store 4 _)]
  have hrest : (appendMsgBind bind padding).drop 4
      = (Int8.ofInt bind.slotIndex).toUInt8 :: padding ++ store 4 bind.connectionId := by
    rw [appendMsgBind, List.append_assoc, List.drop_left' (length_store 4 _)]
  have hslot : (appendMsgBind bind padding).getD 4 0 = (Int8.ofInt bind.slotIndex).toUInt8 := by
    rw [List.getD_eq_getElem?_getD, ← List.head?_drop, hrest]
    rfl
  have hid : ((appendMsgBind bind padding).drop 8).take 4 = store 4 bind.connectionId := by
    have hdrop : (appendMsgBind bind padding).drop 8 = store 4 bind.connectionId := by
      rw [← List.drop_drop (i := 4) (j := 4), hrest]
      exact List.drop_left' (by rw [List.length_cons, hpadding])
    rw [hdrop]
    exact List.take_of_length_le (length_store 4 _).le
  have hint : (Int8.ofInt bind.slotIndex).toUInt8.toInt8.toInt = bind.slotIndex := by
    rw [Int8.toInt8_toUInt8]
    apply Int8.toInt_ofInt_of_le
    · exact h.slotIndex.1
    · exact h.slotIndex.2
  rw [extractMsgBind, length_appendMsgBind hpadding, if_neg (lt_irrefl _), hclient, hslot, hid, hint,
    load_store_of_lt h.clientId, load_store_of_lt h.connectionId]

/-- Bytes that all arrive are read to the number asked for, however they are cut up. -/
lemma recvTcpDataWithSize_chunks {n : ℕ} {buffer : List UInt8} {chunks : List (List UInt8)}
    (hne : ∀ chunk ∈ chunks, chunk ≠ []) (hbuffer : buffer.length ≤ n)
    (hlen : n ≤ (buffer ++ chunks.flatten).length) :
    recvTcpDataWithSize n buffer (chunks.map RecvReturn.bytes)
      = some ((n : ℤ), (buffer ++ chunks.flatten).take n) := by
  induction chunks generalizing buffer with
  | nil =>
    rw [List.flatten_nil, List.append_nil] at hlen ⊢
    have heq : buffer.length = n := Nat.le_antisymm hbuffer hlen
    rw [List.map_nil, recvTcpDataWithSize, if_neg (not_lt.mpr hlen), heq,
      List.take_of_length_le heq.le]
  | cons chunk chunks ih =>
    rw [List.map_cons, recvTcpDataWithSize]
    by_cases hlt : buffer.length < n
    · obtain ⟨b, bs, hchunk⟩ : ∃ b bs, chunk.take (n - buffer.length) = b :: bs := by
        apply List.exists_cons_of_ne_nil
        rw [Ne, List.take_eq_nil_iff]
        rintro (hzero | hnil)
        · omega
        · exact hne chunk (List.mem_cons_self ..) hnil
      have htaken : (buffer ++ chunk.take (n - buffer.length)).length
          = min n (buffer.length + chunk.length) := by
        rw [List.length_append, List.length_take]
        omega
      rw [List.flatten_cons, ← List.append_assoc] at hlen ⊢
      rw [List.length_append, List.length_append] at hlen
      rw [if_pos hlt]
      simp only [hchunk]
      rw [← hchunk, ih (fun c hc => hne c (List.mem_cons_of_mem _ hc)) (by omega)
        (by rw [List.length_append]; omega)]
      -- what is not read of the chunk is beyond the size asked for
      rcases Nat.le_total chunk.length (n - buffer.length) with hall | hcut
      · rw [List.take_of_length_le hall]
      · have hfull : (buffer ++ chunk.take (n - buffer.length)).length = n := by
          rw [htaken]
          omega
        have hwithin : n ≤ (buffer ++ chunk).length := by
          rw [List.length_append]
          omega
        rw [List.take_left' hfull, List.take_append_of_le_length hwithin, List.take_append,
          List.take_of_length_le hbuffer]
    · have heq : buffer.length = n := Nat.le_antisymm hbuffer (not_lt.mp hlt)
      rw [if_neg hlt, heq, List.take_left' heq]

/-- What the client sends is what `AcceptConnections` takes from the socket. -/
theorem receiveBind_appendMsgBind (h : bind.Fits) (hpadding : padding.length = 3)
    {chunks : List (List UInt8)} (hne : ∀ chunk ∈ chunks, chunk ≠ [])
    (hsent : appendMsgBind bind padding <+: chunks.flatten) :
    receiveBind (chunks.map RecvReturn.bytes) = some (some bind) := by
  have hlen : (appendMsgBind bind padding).length = sizeofMsgBind := length_appendMsgBind hpadding
  obtain ⟨rest, hrest⟩ := hsent
  have henough : sizeofMsgBind ≤ ([] ++ chunks.flatten).length := by
    rw [List.nil_append, ← hrest, List.length_append]
    omega
  have hrecv := recvTcpDataWithSize_chunks hne (Nat.zero_le _) henough
  rw [List.nil_append, ← hrest, List.take_left' hlen] at hrecv
  have hbuffer : bindBuffer (appendMsgBind bind padding) = appendMsgBind bind padding := by
    rw [bindBuffer, hlen, Nat.sub_self, List.replicate_zero, List.append_nil]
  have hpos : ¬ ((sizeofMsgBind : ℤ) ≤ 0) := by decide
  rw [receiveBind, hrecv, Option.map_some, if_neg hpos, hbuffer,
    extractMsgBind_appendMsgBind h hpadding]

end TcpUdp
