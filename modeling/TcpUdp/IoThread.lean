import TcpUdp.VcProtocol
import TcpUdp.Lib.Framing

/-!
# The receive side of one connection

`TcpVCIoThread::readFromConnection` drains a socket into the slot's `ReadBuffer` and then
takes packets off the front of the buffer, calling back once per packet. The results
of `recv` are an input: any list of chunks and error codes.

`scanPacket` is the body of the parse loop, one pass over the unprocessed bytes;
`parsePackets` is the loop on the read-offset buffer, and `parsePackets_begin` says that
compaction never shows: on the unprocessed bytes the loop is plain `Lib.decode`.
-/

namespace TcpUdp

open Lib

/-! ## The read buffer -/

structure ReadBuffer where
  data : List UInt8 := []
  readOffset : ℕ := 0
  deriving DecidableEq

namespace ReadBuffer

def available (buf : ReadBuffer) : ℕ := buf.data.length - buf.readOffset

/-- The unprocessed bytes, from `begin()` to the end of the vector. -/
def begin (buf : ReadBuffer) : List UInt8 := buf.data.drop buf.readOffset

/-- Advance past consumed bytes, compacting when the offset is large. -/
def consume (buf : ReadBuffer) (n : ℕ) : ReadBuffer :=
  let readOffset := buf.readOffset + n
  -- at least half of a large vector is consumed: move the rest to its front
  if readOffset > 4096 ∧ readOffset ≥ buf.data.length / 2 then
    { data := buf.data.drop readOffset, readOffset := 0 }
  else
    { buf with readOffset := readOffset }

def append (buf : ReadBuffer) (chunk : List UInt8) : ReadBuffer :=
  { buf with data := buf.data ++ chunk }

lemma length_begin (buf : ReadBuffer) : buf.begin.length = buf.available :=
  List.length_drop

lemma begin_consume (buf : ReadBuffer) (n : ℕ) : (buf.consume n).begin = buf.begin.drop n := by
  rw [begin, begin, consume]
  split_ifs
  · rw [List.drop_zero, List.drop_drop]
  · rw [List.drop_drop]

/-- The offset never passes the end of the data. -/
def Wf (buf : ReadBuffer) : Prop := buf.readOffset ≤ buf.data.length

lemma wf_empty : Wf {} := le_refl 0

lemma begin_append {buf : ReadBuffer} (h : buf.Wf) (chunk : List UInt8) :
    (buf.append chunk).begin = buf.begin ++ chunk := List.drop_append_of_le_length h

lemma wf_append {buf : ReadBuffer} (h : buf.Wf) (chunk : List UInt8) :
    (buf.append chunk).Wf := by
  rw [Wf, append, List.length_append]
  exact Nat.le_add_right_of_le h

lemma wf_consume {buf : ReadBuffer} {n : ℕ} (hn : n ≤ buf.available) (h : buf.Wf) :
    (buf.consume n).Wf := by
  rw [Wf, consume]
  split_ifs
  · exact Nat.zero_le _
  · show buf.readOffset + n ≤ buf.data.length
    have : buf.readOffset ≤ buf.data.length := h
    rw [available] at hn
    omega

end ReadBuffer

/-! ## The parse loop -/

/-- A callback of the IO thread, with its arguments; the connection index is that of
the slot being read. -/
inductive IoCallback where
  | dataCallback (messageId : ℕ) (data : List UInt8)
  | resendRequestCallback (messageId : ℕ)
  | missingNotifyCallback (missingIds : List ℕ)
  deriving DecidableEq, Repr

/-- One pass of the parse loop over the unprocessed bytes `b`: the loop guard, then the
`switch` on the packet type. A DATA packet that is too long leaves the bytes where they
are (`return`), a notification with too many ids and an unknown type throw them away. -/
def scanPacket (b : List UInt8) : Scan IoCallback :=
  if b.length < vcMinDataPacketSize then .wait
  else if headerType b = VcPacketType.data.toByte then
    -- case `VcPacketType::DATA`
    if b.length < sizeofVCDataPacket then .wait
    else if dataLength b > vcMaxDataPayloadSize then .wait
    else
      let totalSize := sizeofVCDataPacket + dataLength b
      if b.length < totalSize then .wait
      else .frame (.dataCallback (headerMessageId b) ((packetData b).take (dataLength b))) totalSize
  else if headerType b = VcPacketType.resendRequest.toByte then
    -- case `VcPacketType::RESEND_REQUEST`
    if b.length < sizeofVCResendRequest then .wait
    else .frame (.resendRequestCallback (missingMessageId b)) sizeofVCResendRequest
  else if headerType b = VcPacketType.missingNotify.toByte then
    -- case `VcPacketType::MISSING_NOTIFY`
    if b.length < sizeofVCHeader + 1 then .wait
    else if notifyCount b > vcMaxMissingIdsPerNotify then .reject
    else
      let expectedSize := sizeofVCHeader + 1 + notifyCount b * 8
      if b.length < expectedSize then .wait
      else .frame (.missingNotifyCallback (notifyMissingIds b (notifyCount b))) expectedSize
  else .reject

/-- The parse loop, at most `fuel` packets: callbacks made, in order, and the buffer. -/
def parsePackets : ℕ → ReadBuffer → List IoCallback × ReadBuffer
  | 0, buf => ([], buf)
  | fuel + 1, buf =>
    match scanPacket buf.begin with
    | .frame cb size =>
      let (cbs, buf') := parsePackets fuel (buf.consume size)
      (cb :: cbs, buf')
    | .wait => ([], buf)
    | .reject => ([], { data := [], readOffset := 0 })

/-- A packet is taken only when all of it is there, and it has at least ten bytes. -/
lemma scanPacket_frame {b : List UInt8} {cb : IoCallback} {size : ℕ}
    (h : scanPacket b = .frame cb size) : 10 ≤ size ∧ size ≤ b.length := by
  unfold scanPacket at h
  dsimp only at h
  split_ifs at h <;> cases h <;>
    simp only [sizeofVCDataPacket, sizeofVCResendRequest, sizeofVCHeader] at * <;> omega

/-- On the unprocessed bytes the loop is the plain decoder, whatever the compaction. -/
lemma parsePackets_begin (fuel : ℕ) (buf : ReadBuffer) :
    (parsePackets fuel buf).1 = (decode scanPacket fuel buf.begin).1
      ∧ (parsePackets fuel buf).2.begin = (decode scanPacket fuel buf.begin).2 := by
  induction fuel generalizing buf with
  | zero => exact ⟨rfl, rfl⟩
  | succ fuel ih =>
    rw [parsePackets, decode]
    cases hscan : scanPacket buf.begin with
    | frame cb size =>
      obtain ⟨h1, h2⟩ := ih (buf.consume size)
      rw [ReadBuffer.begin_consume] at h1 h2
      exact ⟨by simp only [h1], h2⟩
    | wait => exact ⟨rfl, rfl⟩
    | reject => exact ⟨rfl, rfl⟩

lemma wf_parsePackets (fuel : ℕ) {buf : ReadBuffer} (h : buf.Wf) :
    (parsePackets fuel buf).2.Wf := by
  induction fuel generalizing buf with
  | zero => exact h
  | succ fuel ih =>
    rw [parsePackets]
    cases hscan : scanPacket buf.begin with
    | frame cb size =>
      have hsize := (scanPacket_frame hscan).2
      rw [ReadBuffer.length_begin] at hsize
      exact ih (ReadBuffer.wf_consume hsize h)
    | wait => exact h
    | reject => exact Nat.zero_le _

/-- The loop only takes bytes off the front of the buffer, or throws them all away. -/
lemma available_parsePackets_le (fuel : ℕ) (buf : ReadBuffer) :
    (parsePackets fuel buf).2.available ≤ buf.available := by
  induction fuel generalizing buf with
  | zero => exact le_rfl
  | succ fuel ih =>
    rw [parsePackets]
    cases hscan : scanPacket buf.begin with
    | frame cb size =>
      have hconsume : (buf.consume size).available ≤ buf.available := by
        rw [← ReadBuffer.length_begin, ← ReadBuffer.length_begin, ReadBuffer.begin_consume,
          List.length_drop]
        exact Nat.sub_le _ _
      exact (ih (buf.consume size)).trans hconsume
    | wait => exact le_rfl
    | reject => exact Nat.zero_le _

/-! ## Reading a connection -/

/-- A result of `RecvTcpDirect`: the bytes received, or one of the error codes. -/
inductive RecvResult where
  | bytes (chunk : List UInt8)
  | wouldBlock
  | timeout
  | closed
  | interrupted
  | other
  deriving DecidableEq, Repr

def RecvResult.isBytes : RecvResult → Bool
  | bytes _ => true
  | _ => false

/-- Why the receive loop ended: go on to parse, or the connection was torn down. -/
inductive RecvExit where
  | parse
  | disconnected
  deriving DecidableEq, Repr

/-- The receive loop. The results are consumed in order; when they run out the thread
has been told to stop (`isRunning()` is false), which also leads to the parse loop. -/
def recvLoop : List RecvResult → ReadBuffer → ReadBuffer × RecvExit
  | [], buf => (buf, .parse)
  | .bytes chunk :: rs, buf => recvLoop rs (buf.append chunk)
  | .closed :: _, buf => (buf, .disconnected)
  | .wouldBlock :: _, buf => (buf, .parse)
  | .timeout :: _, buf => (buf, .parse)
  | .interrupted :: _, buf => (buf, .parse)
  | .other :: _, buf => (buf, .disconnected)

/-- What the IO thread keeps for a slot: whether its connection is connected, and the
bytes not parsed yet. -/
structure IoSlot where
  connected : Bool := true
  readBuffer : ReadBuffer := {}
  deriving DecidableEq

/-- `TcpVCIoThread::readFromConnection`: the callbacks made and the slot afterwards. -/
def readFromConnection (slot : IoSlot) (results : List RecvResult) : List IoCallback × IoSlot :=
  if slot.connected then
    match recvLoop results slot.readBuffer with
    | (buf, .disconnected) => ([], { connected := false, readBuffer := buf })
    | (buf, .parse) =>
      let (cbs, buf') := parsePackets buf.available buf
      (cbs, { slot with readBuffer := buf' })
  else ([], slot)

/-- Several calls on the same slot, one result list for each. -/
def readAll (slot : IoSlot) : List (List RecvResult) → List IoCallback × IoSlot
  | [] => ([], slot)
  | rs :: rss =>
    let (cbs, slot') := readFromConnection slot rs
    let (cbs', slot'') := readAll slot' rss
    (cbs ++ cbs', slot'')

/-- The bytes a call takes from the socket. -/
def recvBytes : List RecvResult → List UInt8
  | .bytes chunk :: rs => chunk ++ recvBytes rs
  | _ => []

/-- The connection stays up during the call. -/
def Live : List RecvResult → Prop
  | .bytes _ :: rs => Live rs
  | .closed :: _ => False
  | .other :: _ => False
  | _ => True

lemma recvLoop_live {rs : List RecvResult} (h : Live rs) {buf : ReadBuffer} (hbuf : buf.Wf) :
    (recvLoop rs buf).2 = .parse ∧ (recvLoop rs buf).1.begin = buf.begin ++ recvBytes rs
      ∧ (recvLoop rs buf).1.Wf := by
  induction rs generalizing buf with
  | nil => exact ⟨rfl, (List.append_nil _).symm, hbuf⟩
  | cons r rs ih =>
    cases r with
    | bytes chunk =>
      obtain ⟨h1, h2, h3⟩ := ih h (ReadBuffer.wf_append hbuf chunk)
      refine ⟨h1, ?_, h3⟩
      rw [recvLoop, h2, ReadBuffer.begin_append hbuf, recvBytes, List.append_assoc]
    | closed => exact h.elim
    | other => exact h.elim
    | wouldBlock => exact ⟨rfl, (List.append_nil _).symm, hbuf⟩
    | timeout => exact ⟨rfl, (List.append_nil _).symm, hbuf⟩
    | interrupted => exact ⟨rfl, (List.append_nil _).symm, hbuf⟩

lemma recvLoop_dead {rs : List RecvResult} (h : ¬ Live rs) (buf : ReadBuffer) :
    (recvLoop rs buf).2 = .disconnected := by
  induction rs generalizing buf with
  | nil => exact absurd trivial h
  | cons r rs ih =>
    cases r with
    | bytes chunk => exact ih h _
    | closed => rfl
    | other => rfl
    | wouldBlock => exact absurd trivial h
    | timeout => exact absurd trivial h
    | interrupted => exact absurd trivial h

/-- A call that finds the connection dead calls nothing back and disconnects it. -/
lemma readFromConnection_dead {slot : IoSlot} (hconn : slot.connected = true)
    {rs : List RecvResult} (h : ¬ Live rs) :
    (readFromConnection slot rs).1 = [] ∧ (readFromConnection slot rs).2.connected = false := by
  obtain ⟨buf, hbuf⟩ : ∃ buf, recvLoop rs slot.readBuffer = (buf, .disconnected) :=
    ⟨_, Prod.ext rfl (recvLoop_dead h _)⟩
  rw [readFromConnection, if_pos hconn, hbuf]
  exact ⟨rfl, rfl⟩

/-- A call on a live connection decodes the kept bytes followed by the received ones. -/
lemma readFromConnection_live {slot : IoSlot} (hconn : slot.connected = true)
    (hwf : slot.readBuffer.Wf) {rs : List RecvResult} (h : Live rs) {b : List UInt8}
    (hb : b = slot.readBuffer.begin ++ recvBytes rs) :
    (readFromConnection slot rs).1 = (decode scanPacket b.length b).1
      ∧ (readFromConnection slot rs).2.readBuffer.begin = (decode scanPacket b.length b).2
      ∧ (readFromConnection slot rs).2.connected = true
      ∧ (readFromConnection slot rs).2.readBuffer.Wf := by
  obtain ⟨h1, h2, h3⟩ := recvLoop_live h hwf
  obtain ⟨buf, hbuf⟩ : ∃ buf, recvLoop rs slot.readBuffer = (buf, .parse) :=
    ⟨_, Prod.ext rfl h1⟩
  rw [hbuf] at h2 h3
  -- the fuel of the parse loop is the number of unprocessed bytes
  have hbegin : buf.begin = b := h2.trans hb.symm
  have hfuel : buf.available = b.length := by rw [← ReadBuffer.length_begin, hbegin]
  obtain ⟨hcb, hrest⟩ := parsePackets_begin buf.available buf
  have hread : readFromConnection slot rs = ((parsePackets buf.available buf).1,
      { slot with readBuffer := (parsePackets buf.available buf).2 }) := by
    rw [readFromConnection, if_pos hconn, hbuf]
  rw [hread]
  refine ⟨?_, ?_, hconn, wf_parsePackets _ h3⟩
  · rw [hcb, hbegin, hfuel]
  · rw [hrest, hbegin, hfuel]

end TcpUdp
