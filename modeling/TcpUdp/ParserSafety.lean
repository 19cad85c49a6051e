import TcpUdp.WellFormed
import TcpUdp.ByteQueue

/-!
# What the parse loop reads

The parse loop of `readFromConnection` once more, now with every access to the buffer checked:
a read of a byte that is not between `begin()` and the end of the data is `none`, and so is the
pass that makes it. `parsePass_eq` says that no pass makes one, whatever the bytes are, and that
a pass does what `scanPacket` says.
-/

namespace TcpUdp

open Lib LittleEndian

namespace ReadBuffer

variable (buf : ReadBuffer)

/-! ## Checked reads -/

/-- `begin()[offset]`. -/
def byte? (offset : ℕ) : Option UInt8 := buf.begin[offset]?

/-- `count` bytes from `begin() + offset` on. -/
def bytes? (offset count : ℕ) : Option (List UInt8) :=
  if offset + count ≤ buf.available then some ((buf.begin.drop offset).take count) else none

/-- An unsigned field of `width` bytes. -/
def field? (offset width : ℕ) : Option ℕ := (buf.bytes? offset width).map load

/-- `missingIds[0..count)`, one after the other. -/
def missingIds? : ℕ → Option (List ℕ)
  | 0 => some []
  | count + 1 => do
    let ids ← missingIds? count
    let id ← buf.field? (sizeofVCHeader + 1 + count * 8) 8
    return ids ++ [id]

variable {buf}

lemma byte?_zero (h : 1 ≤ buf.available) : buf.byte? 0 = some (headerType buf.begin) := by
  rw [← length_begin] at h
  rw [byte?, headerType]
  cases hbegin : buf.begin with
  | nil => rw [hbegin] at h; exact absurd h (by decide)
  | cons b rest => rfl

lemma byte?_count (h : sizeofVCHeader + 1 ≤ buf.available) :
    (buf.byte? sizeofVCHeader).map UInt8.toNat = some (notifyCount buf.begin) := by
  rw [← length_begin] at h
  rw [byte?, notifyCount, List.getElem?_eq_getElem (by omega), Option.map_some,
    List.drop_eq_getElem_cons (by omega), List.headD_cons]

lemma bytes?_eq {offset count : ℕ} (h : offset + count ≤ buf.available) :
    buf.bytes? offset count = some ((buf.begin.drop offset).take count) := if_pos h

lemma field?_eq {offset width : ℕ} (h : offset + width ≤ buf.available) :
    buf.field? offset width = some (load ((buf.begin.drop offset).take width)) := by
  rw [field?, bytes?_eq h, Option.map_some]

lemma field?_dataLength (h : sizeofVCHeader + 2 ≤ buf.available) :
    buf.field? sizeofVCHeader 2 = some (dataLength buf.begin) := field?_eq h

lemma missingIds?_eq {count : ℕ} (h : sizeofVCHeader + 1 + count * 8 ≤ buf.available) :
    buf.missingIds? count = some (notifyMissingIds buf.begin count) := by
  induction count with
  | zero => rfl
  | succ count ih =>
    rw [missingIds?, ih (by omega), field?_eq (by omega)]
    rfl

end ReadBuffer

/-! ## One pass -/

/-- How a pass ends: `return` and the loop guard leave the buffer as given, else a packet was
called back and `size` bytes are consumed. -/
inductive ParsePass where
  | returned (buf : ReadBuffer)
  | consumed (cb : IoCallback) (size : ℕ)

/-- case `VcPacketType::DATA`. -/
def parseData (buf : ReadBuffer) : Option ParsePass :=
  if buf.available < sizeofVCDataPacket then some (.returned buf)
  else do
    let dataLength ← buf.field? sizeofVCHeader 2
    if dataLength > vcMaxDataPayloadSize then return .returned buf
    else
      let totalSize := sizeofVCDataPacket + dataLength
      if buf.available < totalSize then return .returned buf
      else
        let data ← buf.bytes? sizeofVCDataPacket dataLength
        let messageId ← buf.field? 1 8
        return .consumed (.dataCallback messageId data) totalSize

/-- case `VcPacketType::RESEND_REQUEST`. -/
def parseResendRequest (buf : ReadBuffer) : Option ParsePass :=
  if buf.available < sizeofVCResendRequest then some (.returned buf)
  else do
    let missingMessageId ← buf.field? sizeofVCHeader 8
    return .consumed (.resendRequestCallback missingMessageId) sizeofVCResendRequest

/-- case `VcPacketType::MISSING_NOTIFY`. -/
def parseMissingNotify (buf : ReadBuffer) : Option ParsePass :=
  if buf.available < sizeofVCHeader + 1 then some (.returned buf)
  else do
    let count ← (buf.byte? sizeofVCHeader).map UInt8.toNat
    if count > vcMaxMissingIdsPerNotify then return .returned { data := [], readOffset := 0 }
    else
      let expectedSize := sizeofVCHeader + 1 + count * 8
      if buf.available < expectedSize then return .returned buf
      else
        let missingIds ← buf.missingIds? count
        return .consumed (.missingNotifyCallback missingIds) expectedSize

/-- The loop guard and the `switch`. -/
def parsePass (buf : ReadBuffer) : Option ParsePass :=
  if buf.available < vcMinDataPacketSize then some (.returned buf)
  else do
    let packetType ← buf.byte? 0
    if packetType = VcPacketType.data.toByte then parseData buf
    else if packetType = VcPacketType.resendRequest.toByte then parseResendRequest buf
    else if packetType = VcPacketType.missingNotify.toByte then parseMissingNotify buf
    else return .returned { data := [], readOffset := 0 }

/-- A pass that does what the scan of the unprocessed bytes says. -/
def passOf (buf : ReadBuffer) : Scan IoCallback → ParsePass
  | .frame cb size => .consumed cb size
  | .wait => .returned buf
  | .reject => .returned { data := [], readOffset := 0 }

variable {buf : ReadBuffer}

lemma parseData_eq (hguard : ¬ buf.available < vcMinDataPacketSize)
    (htype : headerType buf.begin = VcPacketType.data.toByte) :
    parseData buf = some (passOf buf (scanPacket buf.begin)) := by
  have hfixed : ¬ buf.available < sizeofVCDataPacket := hguard
  have hheader : sizeofVCHeader + 2 = sizeofVCDataPacket := rfl
  have hid : 1 + 8 ≤ sizeofVCDataPacket := by decide
  unfold scanPacket
  rw [ReadBuffer.length_begin, if_neg hguard, if_pos htype, if_neg hfixed, parseData,
    if_neg hfixed, ReadBuffer.field?_dataLength (by omega), Option.bind_eq_bind, Option.bind_some]
  dsimp only
  split_ifs with hlong hshort
  · rfl
  · rfl
  · rw [ReadBuffer.bytes?_eq (not_lt.mp hshort), ReadBuffer.field?_eq (by omega)]
    rfl

lemma parseResendRequest_eq (hguard : ¬ buf.available < vcMinDataPacketSize)
    (htype : headerType buf.begin = VcPacketType.resendRequest.toByte) :
    parseResendRequest buf = some (passOf buf (scanPacket buf.begin)) := by
  have hsize : sizeofVCHeader + 8 = sizeofVCResendRequest := rfl
  unfold scanPacket
  rw [ReadBuffer.length_begin, if_neg hguard, htype, if_neg (by decide), if_pos rfl,
    parseResendRequest]
  split_ifs with hshort
  · rfl
  · rw [ReadBuffer.field?_eq (by omega)]
    rfl

lemma parseMissingNotify_eq (hguard : ¬ buf.available < vcMinDataPacketSize)
    (htype : headerType buf.begin = VcPacketType.missingNotify.toByte) :
    parseMissingNotify buf = some (passOf buf (scanPacket buf.begin)) := by
  have hmin : sizeofVCHeader + 1 < vcMinDataPacketSize := by decide
  have hfixed : ¬ buf.available < sizeofVCHeader + 1 := by omega
  unfold scanPacket
  rw [ReadBuffer.length_begin, if_neg hguard, htype, if_neg (by decide), if_neg (by decide),
    if_pos rfl, if_neg hfixed, parseMissingNotify, if_neg hfixed,
    ReadBuffer.byte?_count (by omega), Option.bind_eq_bind, Option.bind_some]
  dsimp only
  split_ifs with hlong hshort
  · rfl
  · rfl
  · rw [ReadBuffer.missingIds?_eq (not_lt.mp hshort)]
    rfl

/-- No pass reads outside the available bytes. -/
lemma parsePass_eq (buf : ReadBuffer) :
    parsePass buf = some (passOf buf (scanPacket buf.begin)) := by
  by_cases hguard : buf.available < vcMinDataPacketSize
  · rw [parsePass, if_pos hguard, scanPacket_short (by rw [ReadBuffer.length_begin]; exact hguard)]
    rfl
  have hmin : 1 < vcMinDataPacketSize := by decide
  rw [parsePass, if_neg hguard, ReadBuffer.byte?_zero (by omega)]
  show (if headerType buf.begin = _ then _ else _) = _
  split_ifs with hdata hresend hnotify
  · exact parseData_eq hguard hdata
  · exact parseResendRequest_eq hguard hresend
  · exact parseMissingNotify_eq hguard hnotify
  · unfold scanPacket
    rw [ReadBuffer.length_begin, if_neg hguard, if_neg hdata, if_neg hresend, if_neg hnotify]
    rfl

/-! ## The loop -/

structure ParseState where
  buf : ReadBuffer
  callbacks : List IoCallback := []
  returned : Bool := false

/-- One iteration; a loop that has returned does nothing more. -/
def parseIteration (s : ParseState) : Option ParseState :=
  if s.returned then some s
  else do
    match ← parsePass s.buf with
    | .returned buf => return { s with buf := buf, returned := true }
    | .consumed cb size =>
      return { s with buf := s.buf.consume size, callbacks := s.callbacks ++ [cb] }

/-- The state after `n` iterations. -/
def parseLoop : ℕ → ParseState → Option ParseState
  | 0, s => some s
  | n + 1, s => parseIteration s >>= parseLoop n

/-- A payload of at most 2000 bytes, or at most 64 ids. -/
def IoCallback.Bounded : IoCallback → Prop
  | dataCallback _ data => data.length ≤ vcMaxDataPayloadSize
  | resendRequestCallback _ => True
  | missingNotifyCallback missingIds => missingIds.length ≤ vcMaxMissingIdsPerNotify

lemma length_notifyMissingIds (notify : List UInt8) (count : ℕ) :
    (notifyMissingIds notify count).length = count := by
  induction count with
  | zero => rfl
  | succ count ih => rw [notifyMissingIds, List.length_append, ih, List.length_singleton]

lemma bounded_of_isPacket {p : List UInt8} {cb : IoCallback} (h : IsPacket p cb) : cb.Bounded := by
  cases h with
  | data _ hsize hlen =>
    show (packetData p).length ≤ _
    rw [packetData, List.length_drop]
    omega
  | resendRequest => trivial
  | missingNotify _ hcount _ =>
    show (notifyMissingIds p (notifyCount p)).length ≤ _
    rw [length_notifyMissingIds]
    exact hcount

/-- What is true after every iteration. As long as the loop goes on, each iteration has taken
one packet, of ten bytes at least. -/
structure ParseState.Inv (start : ReadBuffer) (n : ℕ) (s : ParseState) : Prop where
  wf : s.buf.Wf
  bounded : ∀ cb ∈ s.callbacks, cb.Bounded
  taken : s.returned = false → s.callbacks.length = n ∧ s.buf.available + 10 * n ≤ start.available

variable {start : ReadBuffer} {n : ℕ} {s : ParseState}

/-- What an iteration of a loop that has not returned does: it returns, or it consumes a whole
packet and calls it back. -/
lemma parseIteration_cases (hs : s.returned = false) :
    (∃ buf', parsePass s.buf = some (.returned buf') ∧ (buf' = s.buf ∨ buf' = {})
      ∧ parseIteration s = some { s with buf := buf', returned := true })
    ∨ ∃ cb size, parsePass s.buf = some (.consumed cb size) ∧ 10 ≤ size ∧ size ≤ s.buf.available
      ∧ IsPacket (s.buf.begin.take size) cb
      ∧ parseIteration s
        = some { s with buf := s.buf.consume size, callbacks := s.callbacks ++ [cb] } := by
  have hpass := parsePass_eq s.buf
  cases hscan : scanPacket s.buf.begin with
  | wait =>
    rw [hscan] at hpass
    refine Or.inl ⟨s.buf, hpass, Or.inl rfl, ?_⟩
    rw [parseIteration, hs, hpass]
    rfl
  | reject =>
    rw [hscan] at hpass
    refine Or.inl ⟨{}, hpass, Or.inr rfl, ?_⟩
    rw [parseIteration, hs, hpass]
    rfl
  | frame cb size =>
    rw [hscan] at hpass
    obtain ⟨hten, hle⟩ := scanPacket_frame hscan
    rw [ReadBuffer.length_begin] at hle
    refine Or.inr ⟨cb, size, hpass, hten, hle, (isPacket_of_scanPacket _ _ _ hscan).2.2, ?_⟩
    rw [parseIteration, hs, hpass]
    rfl

lemma ParseState.Inv.iteration (h : s.Inv start n) :
    ∃ s', parseIteration s = some s' ∧ s'.Inv start (n + 1) := by
  cases hs : s.returned with
  | true =>
    refine ⟨s, by rw [parseIteration, hs]; rfl, h.wf, h.bounded, fun hgoes => ?_⟩
    rw [hs] at hgoes
    cases hgoes
  | false =>
    obtain ⟨hlen, havailable⟩ := h.taken hs
    rcases parseIteration_cases hs with ⟨buf', -, hbuf', heq⟩ | ⟨cb, size, -, hten, hle, hcb, heq⟩
    · refine ⟨_, heq, ?_, h.bounded, fun hgoes => (nomatch hgoes)⟩
      rcases hbuf' with rfl | rfl
      · exact h.wf
      · exact ReadBuffer.wf_empty
    · refine ⟨_, heq, ReadBuffer.wf_consume hle h.wf, ?_, fun _ => ⟨?_, ?_⟩⟩
      · intro cb' hmem
        rcases List.mem_append.mp hmem with hmem | hmem
        · exact h.bounded cb' hmem
        · rw [List.mem_singleton.mp hmem]
          exact bounded_of_isPacket hcb
      · rw [List.length_append, hlen, List.length_singleton]
      · show (s.buf.consume size).available + 10 * (n + 1) ≤ start.available
        rw [← ReadBuffer.length_begin, ReadBuffer.begin_consume, List.length_drop,
          ReadBuffer.length_begin]
        omega

lemma ParseState.Inv.loop (h : s.Inv start n) (m : ℕ) :
    ∃ s', parseLoop m s = some s' ∧ s'.Inv start (n + m) := by
  induction m generalizing s n with
  | zero => exact ⟨s, rfl, h⟩
  | succ m ih =>
    obtain ⟨s₁, hs₁, hinv₁⟩ := h.iteration
    obtain ⟨s₂, hs₂, hinv₂⟩ := ih hinv₁
    refine ⟨s₂, by rw [parseLoop, hs₁]; exact hs₂, ?_⟩
    rwa [Nat.add_assoc, Nat.add_comm 1] at hinv₂

lemma parseLoop_inv (hstart : start.Wf) (n : ℕ) :
    ∃ s, parseLoop n { buf := start } = some s ∧ s.Inv start n := by
  have hinv : ParseState.Inv start 0 { buf := start } :=
    ⟨hstart, fun _ h => (nomatch h), fun _ => ⟨rfl, le_rfl⟩⟩
  obtain ⟨s, hs, h⟩ := hinv.loop n
  rw [Nat.zero_add] at h
  exact ⟨s, hs, h⟩

lemma parseLoop_returned (hs : s.returned = true) (n : ℕ) : parseLoop n s = some s := by
  induction n with
  | zero => rfl
  | succ n ih =>
    rw [parseLoop, parseIteration, hs]
    exact ih

/-- The checked loop is the loop that `readFromConnection` is modelled with. -/
lemma parseLoop_eq_parsePackets (hs : s.returned = false) (n : ℕ) :
    ∃ s', parseLoop n s = some s' ∧ s'.callbacks = s.callbacks ++ (parsePackets n s.buf).1
      ∧ s'.buf = (parsePackets n s.buf).2 := by
  induction n generalizing s with
  | zero => exact ⟨s, rfl, (List.append_nil _).symm, rfl⟩
  | succ n ih =>
    have hpass := parsePass_eq s.buf
    rw [parseLoop, parsePackets, parseIteration, hs, hpass]
    cases hscan : scanPacket s.buf.begin with
    | frame cb size =>
      obtain ⟨s', hs', hcbs, hbuf⟩ :=
        ih (s := { buf := s.buf.consume size, callbacks := s.callbacks ++ [cb] }) rfl
      refine ⟨s', hs', ?_, hbuf⟩
      rw [hcbs, List.append_assoc, List.singleton_append]
    | wait =>
      exact ⟨_, parseLoop_returned (s := { s with buf := s.buf, returned := true }) rfl n,
        (List.append_nil _).symm, rfl⟩
    | reject =>
      exact ⟨_, parseLoop_returned (s := { s with buf := {}, returned := true }) rfl n,
        (List.append_nil _).symm, rfl⟩

/-- On any bytes the loop comes to an end, and until then every iteration reads inside the
available bytes only and returns or consumes one whole packet. -/
theorem parseLoop_safe (start : ReadBuffer) (hstart : start.readOffset ≤ start.data.length) :
    (∀ n, ∃ s, parseLoop n { buf := start } = some s ∧ s.buf.readOffset ≤ s.buf.data.length
      ∧ (∀ cb ∈ s.callbacks, cb.Bounded)
      ∧ (s.returned = false →
        (∃ buf', parsePass s.buf = some (.returned buf'))
        ∨ ∃ cb size, parsePass s.buf = some (.consumed cb size) ∧ 10 ≤ size
          ∧ size ≤ s.buf.available ∧ IsPacket (s.buf.begin.take size) cb))
    ∧ ∃ s, parseLoop (start.available / 10 + 1) { buf := start } = some s ∧ s.returned = true := by
  constructor
  · intro n
    obtain ⟨s, hs, hinv⟩ := parseLoop_inv hstart n
    refine ⟨s, hs, hinv.wf, hinv.bounded, fun hgoes => ?_⟩
    rcases parseIteration_cases hgoes with ⟨buf', hpass, -⟩ | ⟨cb, size, hpass, hten, hle, hcb, -⟩
    · exact Or.inl ⟨buf', hpass⟩
    · exact Or.inr ⟨cb, size, hpass, hten, hle, hcb⟩
  · obtain ⟨s, hs, hinv⟩ := parseLoop_inv hstart (start.available / 10 + 1)
    refine ⟨s, hs, ?_⟩
    by_contra hgoes
    -- every iteration so far has taken ten bytes
    have htaken := (hinv.taken (Bool.eq_false_iff.mpr hgoes)).2
    omega

/-- A notification without ids and one more byte: ten bytes are taken, the eleventh is left. -/
def emptyNotify : ReadBuffer := { data := [3, 0, 0, 0, 0, 0, 0, 0, 0, 0, 7] }

theorem parseLoop_safe_emptyNotify :
    ∃ s, parseLoop (emptyNotify.available / 10 + 1) { buf := emptyNotify } = some s
      ∧ s.returned = true :=
  (parseLoop_safe emptyNotify (by decide)).2

end TcpUdp
