import TcpUdp.Lib.LittleEndian
import Mathlib.Data.List.Basic

/-!
# UDP over TCP

`AppendUdpData` puts a header of four bytes in front of the data: the length, the most
significant byte first, an id, and the XOR of the data. `ExtractUdpData` takes one such message
off the front of what it is given.

The round trip is `extractAll_appendAll`: what was appended comes out again, in order. A message
that is not complete is left alone, and one in which a byte of the data was changed makes
`ExtractUdpData` throw. All three are `extractUdpData_lossless`.
-/

namespace TcpUdp.UvtUtils

open Lib LittleEndian

/-- `htons` of a 16-bit number, on a little-endian machine. -/
def htons (v : ℕ) : ℕ := v % 256 * 256 + v / 256

def ntohs (v : ℕ) : ℕ := htons v

/-- The fields as they are in memory; `size` is in network order. -/
structure UvtHeader where
  size : ℕ
  id : UInt8
  checksum : UInt8

def headerSize : ℕ := 4

def UvtHeader.toBytes (header : UvtHeader) : List UInt8 :=
  store 2 header.size ++ [header.id, header.checksum]

/-- The `reinterpret_cast` of a buffer with at least `headerSize` bytes. -/
def UvtHeader.ofBytes (data : List UInt8) : UvtHeader :=
  { size := load (data.take 2), id := data.getD 2 0, checksum := data.getD 3 0 }

def xorChecksum (buffer : List UInt8) : UInt8 := buffer.foldl (· ^^^ ·) 0

def calculateChecksum (buffer : List UInt8) : UInt8 := xorChecksum buffer

/-- The cast to `uint16_t` keeps the length modulo 2^16. -/
def appendUdpData (data : List UInt8) (id : UInt8) (outputBuffer : List UInt8) : List UInt8 :=
  let header : UvtHeader :=
    { size := htons (data.length % 2 ^ 16), id := id, checksum := calculateChecksum data }
  outputBuffer ++ header.toBytes ++ data

/-- `outputBuffer`, which is cleared first, and what is returned or the text of the exception. -/
def extractUdpData (data : List UInt8) : List UInt8 × Except String (List UInt8) :=
  if data.length < headerSize then ([], .ok data)
  else
    let header := UvtHeader.ofBytes data
    let messageLength := ntohs header.size
    if headerSize + messageLength > data.length then ([], .ok data)
    else
      let messageData := (data.drop headerSize).take messageLength
      -- the id is not looked at
      if calculateChecksum messageData = header.checksum then
        (messageData, .ok (data.drop (headerSize + messageLength)))
      else ([], .error "ExtractUdpData: Checksum verify failed")

/-! ## Many messages -/

/-- The messages, each an id and data, appended in turn. -/
def appendAll (messages : List (UInt8 × List UInt8)) : List UInt8 :=
  messages.foldl (fun outputBuffer m => appendUdpData m.2 m.1 outputBuffer) []

/-- Calls on what the last call has returned while that is not empty, at most `fuel` of them:
the outputs, and the remainder or the exception. -/
def extractAll : ℕ → List UInt8 → List (List UInt8) × Except String (List UInt8)
  | 0, data => ([], .ok data)
  | fuel + 1, data =>
    if data.isEmpty then ([], .ok data)
    else
      match extractUdpData data with
      | (outputBuffer, .ok rest) =>
        let (outputs, remainder) := extractAll fuel rest
        (outputBuffer :: outputs, remainder)
      | (outputBuffer, .error what) => ([outputBuffer], .error what)

/-! ## The header -/

lemma htons_lt {v : ℕ} (h : v < 2 ^ 16) : htons v < 2 ^ 16 := by
  rw [htons]
  omega

lemma ntohs_htons {v : ℕ} (h : v < 2 ^ 16) : ntohs (htons v) = v := by
  rw [ntohs, htons, htons]
  omega

lemma length_toBytes (header : UvtHeader) : header.toBytes.length = headerSize := by
  rw [UvtHeader.toBytes, List.length_append, length_store]
  rfl

/-- Nothing behind the header is looked at. -/
lemma ofBytes_toBytes {header : UvtHeader} (h : header.size < 2 ^ 16) (rest : List UInt8) :
    UvtHeader.ofBytes (header.toBytes ++ rest) = header := by
  have hsize : load (store 2 header.size) = header.size := load_store_of_lt h
  have htake : (header.toBytes ++ rest).take 2 = store 2 header.size := rfl
  rw [UvtHeader.ofBytes, htake, hsize]
  rfl

variable {data : List UInt8} {id : UInt8}

/-- The header that is written in front of `data`. -/
def headerFor (data : List UInt8) (id : UInt8) : UvtHeader :=
  { size := htons data.length, id := id, checksum := calculateChecksum data }

lemma appendUdpData_eq (h : data.length ≤ 65535) (outputBuffer : List UInt8) :
    appendUdpData data id outputBuffer = outputBuffer ++ ((headerFor data id).toBytes ++ data) := by
  have hlt : data.length < 2 ^ 16 := Nat.lt_succ_of_le h
  rw [appendUdpData, Nat.mod_eq_of_lt hlt, List.append_assoc]
  rfl

lemma length_appendUdpData (h : data.length ≤ 65535) :
    (appendUdpData data id []).length = headerSize + data.length := by
  rw [appendUdpData_eq h, List.nil_append, List.length_append, length_toBytes]

lemma ofBytes_headerFor (h : data.length ≤ 65535) (rest : List UInt8) :
    UvtHeader.ofBytes ((headerFor data id).toBytes ++ rest) = headerFor data id :=
  ofBytes_toBytes (htons_lt (Nat.lt_succ_of_le h)) rest

/-- Behind a header for `data`, as many bytes as `data` has are checked against its XOR. -/
lemma extractUdpData_header (h : data.length ≤ 65535) {payload : List UInt8}
    (hlen : payload.length = data.length) (rest : List UInt8) :
    extractUdpData ((headerFor data id).toBytes ++ (payload ++ rest)) =
      if calculateChecksum payload = calculateChecksum data then (payload, .ok rest)
      else ([], .error "ExtractUdpData: Checksum verify failed") := by
  have hheader := length_toBytes (headerFor data id)
  have hsize : ntohs (headerFor data id).size = payload.length := by
    rw [hlen]
    exact ntohs_htons (Nat.lt_succ_of_le h)
  have htotal : ((headerFor data id).toBytes ++ (payload ++ rest)).length
      = headerSize + payload.length + rest.length := by
    rw [List.length_append, List.length_append, hheader, Nat.add_assoc]
  have hdrop : ((headerFor data id).toBytes ++ (payload ++ rest)).drop headerSize
      = payload ++ rest := List.drop_left' hheader
  have hrest : ((headerFor data id).toBytes ++ (payload ++ rest)).drop
      (headerSize + payload.length) = rest := by
    rw [← List.drop_drop, hdrop, List.drop_left]
  rw [extractUdpData, htotal, if_neg (by omega), ofBytes_headerFor h]
  simp only [hsize]
  rw [if_neg (by omega), hdrop, List.take_left, hrest]
  rfl

/-- A whole message at the front comes out. -/
lemma extractUdpData_append (h : data.length ≤ 65535) (rest : List UInt8) :
    extractUdpData (appendUdpData data id [] ++ rest) = (data, .ok rest) := by
  rw [appendUdpData_eq h, List.nil_append, List.append_assoc, extractUdpData_header h rfl,
    if_pos rfl]

/-- Of a message that is not complete nothing is taken. -/
lemma extractUdpData_prefix (h : data.length ≤ 65535) {p : List UInt8}
    (hp : p <+: appendUdpData data id []) (hne : p ≠ appendUdpData data id []) :
    extractUdpData p = ([], .ok p) := by
  have hshort : p.length < headerSize + data.length := by
    have hwhole : (appendUdpData data id []).length = headerSize + data.length :=
      length_appendUdpData h
    rw [← hwhole]
    exact lt_of_le_of_ne hp.length_le fun heq => hne (hp.eq_of_length heq)
  rw [extractUdpData]
  by_cases hlen : p.length < headerSize
  · rw [if_pos hlen]
  · -- the header is there
    rw [appendUdpData_eq h, List.nil_append] at hp
    obtain ⟨tail, rfl⟩ : (headerFor data id).toBytes <+: p := by
      apply List.prefix_of_prefix_length_le (List.prefix_append _ data) hp
      rw [length_toBytes]
      exact not_lt.mp hlen
    have hsize : ntohs (headerFor data id).size = data.length :=
      ntohs_htons (Nat.lt_succ_of_le h)
    rw [if_neg hlen, ofBytes_headerFor h]
    simp only [hsize]
    rw [if_pos hshort]

/-! ## The round trip -/

lemma foldl_appendUdpData {messages : List (UInt8 × List UInt8)}
    (h : ∀ m ∈ messages, m.2.length ≤ 65535) (outputBuffer : List UInt8) :
    messages.foldl (fun out m => appendUdpData m.2 m.1 out) outputBuffer
      = outputBuffer ++ appendAll messages := by
  induction messages generalizing outputBuffer with
  | nil => exact (List.append_nil _).symm
  | cons m messages ih =>
    have hm := h m List.mem_cons_self
    have htail : ∀ m' ∈ messages, m'.2.length ≤ 65535 := fun m' hm' =>
      h m' (List.mem_cons_of_mem _ hm')
    rw [appendAll, List.foldl_cons, List.foldl_cons, ih htail, ih htail, appendUdpData_eq hm,
      appendUdpData_eq hm, List.nil_append, List.append_assoc]

lemma appendAll_cons {m : UInt8 × List UInt8} {messages : List (UInt8 × List UInt8)}
    (h : ∀ m' ∈ m :: messages, m'.2.length ≤ 65535) :
    appendAll (m :: messages) = appendUdpData m.2 m.1 [] ++ appendAll messages := by
  rw [appendAll, List.foldl_cons]
  exact foldl_appendUdpData (fun m' hm' => h m' (List.mem_cons_of_mem _ hm')) _

lemma extractAll_appendAll {messages : List (UInt8 × List UInt8)}
    (h : ∀ m ∈ messages, m.2.length ≤ 65535) {fuel : ℕ} (hfuel : messages.length ≤ fuel) :
    extractAll fuel (appendAll messages) = (messages.map Prod.snd, .ok []) := by
  induction messages generalizing fuel with
  | nil => cases fuel <;> rfl
  | cons m messages ih =>
    obtain ⟨fuel, rfl⟩ : ∃ n, fuel = n + 1 := ⟨fuel - 1, by
      rw [List.length_cons] at hfuel
      omega⟩
    have hm := h m List.mem_cons_self
    have hne : (appendUdpData m.2 m.1 [] ++ appendAll messages).isEmpty = false := by
      rw [List.isEmpty_eq_false_iff, ← List.length_pos_iff, List.length_append,
        length_appendUdpData hm, headerSize]
      omega
    have hrest := ih (fun m' hm' => h m' (List.mem_cons_of_mem _ hm'))
      (Nat.le_of_succ_le_succ hfuel)
    rw [appendAll_cons h, extractAll, hne, extractUdpData_append hm]
    simp only [hrest]
    rfl

/-! ## A changed byte -/

lemma foldl_xor (buffer : List UInt8) (a : UInt8) :
    buffer.foldl (· ^^^ ·) a = a ^^^ xorChecksum buffer := by
  have hassoc : buffer.foldl (· ^^^ ·) (a ^^^ 0) = a ^^^ buffer.foldl (· ^^^ ·) 0 :=
    List.foldl_assoc
  rwa [UInt8.xor_zero] at hassoc

lemma xorChecksum_append (xs ys : List UInt8) :
    xorChecksum (xs ++ ys) = xorChecksum xs ^^^ xorChecksum ys := by
  rw [xorChecksum, List.foldl_append, foldl_xor]
  rfl

lemma xorChecksum_cons (b : UInt8) (bs : List UInt8) :
    xorChecksum (b :: bs) = b ^^^ xorChecksum bs := by
  rw [xorChecksum, List.foldl_cons, UInt8.zero_xor, foldl_xor]

/-- Two lists that differ in one place have different checksums. -/
lemma xorChecksum_set_ne {i : ℕ} (hi : i < data.length) {b : UInt8} (hb : b ≠ data[i]) :
    xorChecksum (data.set i b) ≠ xorChecksum data := by
  intro heq
  have hdata : data = data.take i ++ data[i] :: data.drop (i + 1) := by
    rw [← List.drop_eq_getElem_cons hi, List.take_append_drop]
  have hset : data.set i b = data.take i ++ b :: data.drop (i + 1) := by
    rw [List.set_eq_take_append_cons_drop, if_pos hi]
  -- what is before the place and what is behind it is the same in both
  rw [hset, xorChecksum_append, xorChecksum_cons] at heq
  conv_rhs at heq => rw [hdata, xorChecksum_append, xorChecksum_cons]
  rw [UInt8.xor_right_inj, UInt8.xor_left_inj] at heq
  exact hb heq

lemma extractUdpData_changed (h : data.length ≤ 65535) {i : ℕ} (hi : i < data.length)
    {b : UInt8} (hb : b ≠ data[i]) (rest : List UInt8) :
    extractUdpData ((appendUdpData data id []).set (headerSize + i) b ++ rest)
      = ([], .error "ExtractUdpData: Checksum verify failed") := by
  have hset : (appendUdpData data id []).set (headerSize + i) b
      = (headerFor data id).toBytes ++ data.set i b := by
    have hheader := length_toBytes (headerFor data id)
    rw [appendUdpData_eq h, List.nil_append,
      List.set_append_right _ _ (by rw [hheader]; exact Nat.le_add_right _ _), hheader,
      Nat.add_sub_cancel_left]
  have hne : calculateChecksum (data.set i b) ≠ calculateChecksum data := xorChecksum_set_ne hi hb
  rw [hset, List.append_assoc, extractUdpData_header h List.length_set, if_neg hne]

/-- What was appended comes out in order with nothing left, a part of a message is left alone, and
a changed byte of the data is noticed. -/
theorem extractUdpData_lossless :
    (∀ messages : List (UInt8 × List UInt8), (∀ m ∈ messages, m.2.length ≤ 65535) →
      ∀ fuel, messages.length ≤ fuel →
        extractAll fuel (appendAll messages) = (messages.map Prod.snd, .ok []))
    ∧ ∀ (data : List UInt8) (id : UInt8), data.length ≤ 65535 →
      (∀ p, p <+: appendUdpData data id [] → p ≠ appendUdpData data id [] →
        extractUdpData p = ([], .ok p))
      ∧ ∀ i, (hi : i < data.length) → ∀ b, b ≠ data[i] → ∀ rest,
        extractUdpData ((appendUdpData data id []).set (headerSize + i) b ++ rest)
          = ([], .error "ExtractUdpData: Checksum verify failed") :=
  ⟨fun _ h _ hfuel => extractAll_appendAll h hfuel, fun _ _ h =>
    ⟨fun _ hp hne => extractUdpData_prefix h hp hne, fun _ hi _ hb rest =>
      extractUdpData_changed h hi hb rest⟩⟩

theorem extractUdpData_lossless_twoMessages :
    extractAll 2 (appendAll [(1, [5, 6]), (2, [])]) = ([[5, 6], []], .ok [])
    ∧ extractUdpData [0, 2, 1, 3, 5] = ([], .ok [0, 2, 1, 3, 5])
    ∧ extractUdpData ([0, 2, 1, 3, 5, 7] ++ [9])
      = ([], .error "ExtractUdpData: Checksum verify failed") := by
  obtain ⟨hall, hone⟩ := extractUdpData_lossless
  obtain ⟨hpart, hchanged⟩ := hone [5, 6] 1 (by decide)
  exact ⟨hall [(1, [5, 6]), (2, [])] (by decide) 2 (by decide),
    hpart [0, 2, 1, 3, 5] (by decide) (by decide), hchanged 1 (by decide) 7 (by decide) [9]⟩

end TcpUdp.UvtUtils
