import TcpUdp.Lib.LittleEndian
import Mathlib.Data.List.Basic

/-!
# The wire format of a virtual channel

Packet layouts are byte-packed structures written in memory order, so the integers are
little-endian images of the given width. A packet (`std::vector<char>`) is a list of
bytes; the field readers below are the member accesses `pkt->header.type`,
`pkt->dataLength`, ... on such a list.
-/

namespace TcpUdp

open Lib.LittleEndian

/-- A packet as it is queued, cached and written: its bytes. -/
abbrev Packet := List UInt8

inductive VcPacketType where
  | data
  | resendRequest
  | resendResponse
  | missingNotify
  deriving DecidableEq, Repr

def VcPacketType.toByte : VcPacketType → UInt8
  | .data => 0x00
  | .resendRequest => 0x01
  | .resendResponse => 0x02
  | .missingNotify => 0x03

def sizeofVCHeader : ℕ := 9
def sizeofVCDataPacket : ℕ := 11
def sizeofVCResendRequest : ℕ := 17

def vcMaxMissingIdsPerNotify : ℕ := 64
def vcMinDataPacketSize : ℕ := sizeofVCDataPacket
def vcMaxDataPayloadSize : ℕ := 2000

def vcTcpConnections : ℕ := 32
def vcResendConnCount : ℕ := 8
def vcFirstResendConnIndex : ℕ := vcTcpConnections - vcResendConnCount

def sendQueueDropThreshold : ℕ := 1000

/-- `uint64_t` counters wrap here. -/
def uint64Size : ℕ := 2 ^ 64

/-- `uint32_t` ids and counters wrap here. -/
def uint32Size : ℕ := 2 ^ 32

/-! ## Field readers -/

/-- `pkt->header.type`, as the raw byte. -/
def headerType (pkt : List UInt8) : UInt8 := pkt.headD 0

/-- `pkt->header.messageId`. -/
def headerMessageId (pkt : List UInt8) : ℕ := load ((pkt.drop 1).take 8)

/-- `pkt->dataLength`. -/
def dataLength (pkt : List UInt8) : ℕ := load ((pkt.drop sizeofVCHeader).take 2)

/-- `pkt->data`, the bytes after the fixed part. -/
def packetData (pkt : List UInt8) : List UInt8 := pkt.drop sizeofVCDataPacket

/-- `req->missingMessageId`. -/
def missingMessageId (req : List UInt8) : ℕ := load ((req.drop sizeofVCHeader).take 8)

/-- `notify->count`. -/
def notifyCount (notify : List UInt8) : ℕ := ((notify.drop sizeofVCHeader).headD 0).toNat

/-- `notify->missingIds[0..count)`. -/
def notifyMissingIds (notify : List UInt8) : ℕ → List ℕ
  | 0 => []
  | count + 1 =>
    notifyMissingIds notify count
      ++ [load ((notify.drop (sizeofVCHeader + 1 + count * 8)).take 8)]

/-! ## Packet builders -/

structure VCHeader where
  type : VcPacketType
  messageId : ℕ

def VCHeader.bytes (h : VCHeader) : List UInt8 := h.type.toByte :: store 8 h.messageId

/-- A `VCDataPacket` with its flexible `data` member filled in. -/
def vcDataPacket (messageId : ℕ) (data : List UInt8) : Packet :=
  (VCHeader.mk .data messageId).bytes ++ store 2 data.length ++ data

/-- A `VCResendRequest`. -/
def vcResendRequest (messageId : ℕ) : Packet :=
  (VCHeader.mk .resendRequest 0).bytes ++ store 8 messageId

/-- The `VCMissingNotify` the default missing-notify callback serialises: at most
`vcMaxMissingIdsPerNotify` ids, the list cut short beyond that. -/
def vcMissingNotify (missingIds : List ℕ) : Packet :=
  let count := min missingIds.length vcMaxMissingIdsPerNotify
  (VCHeader.mk .missingNotify 0).bytes ++ [UInt8.ofNat count]
    ++ (missingIds.take count).flatMap (store 8)

/-- The bytes handed to a resend callback for a cached packet: `packet->data` and
`packet->dataLength`. -/
def resendPayload (cached : Packet) : List UInt8 := (packetData cached).take (dataLength cached)

/-! ## Reading back what was built -/

lemma length_header (h : VCHeader) : h.bytes.length = sizeofVCHeader := by
  simp [VCHeader.bytes, sizeofVCHeader]

lemma length_vcDataPacket (id : ℕ) (data : List UInt8) :
    (vcDataPacket id data).length = sizeofVCDataPacket + data.length := by
  simp only [vcDataPacket, List.length_append, length_header, length_store,
    sizeofVCHeader, sizeofVCDataPacket]

lemma length_vcResendRequest (id : ℕ) :
    (vcResendRequest id).length = sizeofVCResendRequest := by
  simp only [vcResendRequest, List.length_append, length_header, length_store,
    sizeofVCHeader, sizeofVCResendRequest]

lemma length_flatMap_store (ids : List ℕ) : (ids.flatMap (store 8)).length = 8 * ids.length := by
  induction ids with
  | nil => rfl
  | cons id ids ih =>
    rw [List.flatMap_cons, List.length_append, ih, length_store, List.length_cons]
    omega

lemma length_vcMissingNotify {ids : List ℕ} (h : ids.length ≤ vcMaxMissingIdsPerNotify) :
    (vcMissingNotify ids).length = sizeofVCHeader + 1 + ids.length * 8 := by
  simp only [vcMissingNotify, List.length_append, length_header, List.length_singleton,
    length_flatMap_store, List.length_take, Nat.min_eq_left h, Nat.min_self]
  omega

section Readers

variable (rest : List UInt8)

lemma drop_header_append (h : VCHeader) : (h.bytes ++ rest).drop sizeofVCHeader = rest := by
  rw [← length_header h, List.drop_left]

lemma headerMessageId_header_append (h : VCHeader) :
    headerMessageId (h.bytes ++ rest) = h.messageId % 256 ^ 8 := by
  have htake : ((h.bytes ++ rest).drop 1).take 8 = store 8 h.messageId := by
    rw [VCHeader.bytes, List.cons_append, List.drop_succ_cons, List.drop_zero]
    exact List.take_left' (length_store 8 _)
  rw [headerMessageId, htake, load_store]

lemma headerType_vcDataPacket (id : ℕ) (data : List UInt8) :
    headerType (vcDataPacket id data ++ rest) = VcPacketType.data.toByte := rfl

lemma headerMessageId_vcDataPacket {id : ℕ} (hid : id < uint64Size) (data : List UInt8) :
    headerMessageId (vcDataPacket id data ++ rest) = id := by
  rw [vcDataPacket, List.append_assoc, List.append_assoc, headerMessageId_header_append]
  exact Nat.mod_eq_of_lt hid

lemma dataLength_vcDataPacket (id : ℕ) {data : List UInt8} (h : data.length < 2 ^ 16) :
    dataLength (vcDataPacket id data ++ rest) = data.length := by
  rw [dataLength, vcDataPacket, List.append_assoc, List.append_assoc, drop_header_append,
    List.take_left' (length_store 2 _)]
  exact load_store_of_lt h

lemma packetData_vcDataPacket (id : ℕ) (data : List UInt8) :
    packetData (vcDataPacket id data ++ rest) = data ++ rest := by
  have hlen : ((VCHeader.mk .data id).bytes ++ store 2 data.length).length
      = sizeofVCDataPacket := by
    rw [List.length_append, length_header, length_store]; rfl
  rw [packetData, vcDataPacket, List.append_assoc, ← hlen, List.drop_left]

lemma headerType_vcResendRequest (id : ℕ) :
    headerType (vcResendRequest id ++ rest) = VcPacketType.resendRequest.toByte := rfl

lemma missingMessageId_vcResendRequest {id : ℕ} (hid : id < uint64Size) :
    missingMessageId (vcResendRequest id ++ rest) = id := by
  rw [missingMessageId, vcResendRequest, List.append_assoc, drop_header_append,
    List.take_left' (length_store 8 _)]
  exact load_store_of_lt hid

lemma headerType_vcMissingNotify (ids : List ℕ) :
    headerType (vcMissingNotify ids ++ rest) = VcPacketType.missingNotify.toByte := rfl

lemma notifyCount_vcMissingNotify {ids : List ℕ} (h : ids.length ≤ vcMaxMissingIdsPerNotify) :
    notifyCount (vcMissingNotify ids ++ rest) = ids.length := by
  have h256 : ids.length < 256 := lt_of_le_of_lt h (by decide)
  simp only [notifyCount, vcMissingNotify, List.append_assoc, drop_header_append,
    List.singleton_append, Nat.min_eq_left h]
  exact UInt8.toNat_ofNat_of_lt' h256

/-- The id block read at position `i` is the `i`-th id. -/
lemma load_flatMap_store {ids : List ℕ} {i : ℕ} (hi : i < ids.length)
    (hids : ∀ id ∈ ids, id < uint64Size) :
    load (((ids.flatMap (store 8) ++ rest).drop (i * 8)).take 8) = ids[i] := by
  induction ids generalizing i with
  | nil => exact absurd hi (Nat.not_lt_zero i)
  | cons id ids ih =>
    rw [List.flatMap_cons, List.append_assoc]
    cases i with
    | zero =>
      rw [Nat.zero_mul, List.drop_zero, List.take_left' (length_store 8 id)]
      exact load_store_of_lt (hids id List.mem_cons_self)
    | succ i =>
      -- skip the block of the first id
      have hdrop : (store 8 id ++ (ids.flatMap (store 8) ++ rest)).drop ((i + 1) * 8)
          = (ids.flatMap (store 8) ++ rest).drop (i * 8) := by
        rw [List.drop_append, length_store, List.drop_eq_nil_of_le (by simp),
          List.nil_append]
        congr 1; omega
      rw [hdrop]
      exact ih (Nat.lt_of_succ_lt_succ hi) fun x hx => hids x (List.mem_cons_of_mem _ hx)

lemma notifyMissingIds_vcMissingNotify {ids : List ℕ}
    (h : ids.length ≤ vcMaxMissingIdsPerNotify) (hids : ∀ id ∈ ids, id < uint64Size) :
    notifyMissingIds (vcMissingNotify ids ++ rest) ids.length = ids := by
  have hbody : ∀ n, (vcMissingNotify ids ++ rest).drop (sizeofVCHeader + 1 + n)
      = (ids.flatMap (store 8) ++ rest).drop n := by
    intro n
    have hdrop : (vcMissingNotify ids ++ rest).drop (sizeofVCHeader + 1)
        = ids.flatMap (store 8) ++ rest := by
      simp only [vcMissingNotify, Nat.min_eq_left h, List.take_length, List.append_assoc]
      rw [← List.drop_drop, drop_header_append]
      rfl
    rw [← List.drop_drop, hdrop]
  -- the ids read so far are a prefix of the list
  suffices hpre : ∀ n, n ≤ ids.length →
      notifyMissingIds (vcMissingNotify ids ++ rest) n = ids.take n by
    rw [hpre _ le_rfl, List.take_length]
  intro n
  induction n with
  | zero => intro _; rfl
  | succ n ih =>
    intro hn
    rw [notifyMissingIds, ih (by omega), hbody, load_flatMap_store rest hn hids,
      List.take_add_one, List.getElem?_eq_getElem hn]
    rfl

end Readers

end TcpUdp
