import TcpUdp.PacketStream
import TcpUdp.Lib.FrameGrammar
import Mathlib.Data.List.Induction

/-!
# Well-formed packets and malformed headers

`IsPacket` says which byte strings are a packet, whoever wrote them, and `Malformed` which
headers cannot begin one. The parse loop agrees with both, except that it does not look at
fewer than eleven bytes, and so not at a notification without ids that nothing follows.

`reading_readAll` says what any number of calls on a live connection have done with the
bytes they received: either the parser stands where the last whole packet ended, or it has
thrown bytes away at a malformed header and started again at a place that depends on how the
bytes were cut into calls.
-/

namespace TcpUdp

open Lib

/-! ## The bytes of a packet -/

/-- The bytes are one whole packet, which is to be called back as given. -/
inductive IsPacket : List UInt8 → IoCallback → Prop
  | data {p : List UInt8} (htype : headerType p = VcPacketType.data.toByte)
      (hsize : dataLength p ≤ vcMaxDataPayloadSize)
      (hlen : p.length = sizeofVCDataPacket + dataLength p) :
      IsPacket p (.dataCallback (headerMessageId p) (packetData p))
  | resendRequest {p : List UInt8} (htype : headerType p = VcPacketType.resendRequest.toByte)
      (hlen : p.length = sizeofVCResendRequest) :
      IsPacket p (.resendRequestCallback (missingMessageId p))
  | missingNotify {p : List UInt8} (htype : headerType p = VcPacketType.missingNotify.toByte)
      (hcount : notifyCount p ≤ vcMaxMissingIdsPerNotify)
      (hlen : p.length = sizeofVCHeader + 1 + notifyCount p * 8) :
      IsPacket p (.missingNotifyCallback (notifyMissingIds p (notifyCount p)))

/-- The bytes begin with a header that is complete and that no packet has. -/
inductive Malformed (m : List UInt8) : Prop
  | unknownType (hlen : sizeofVCHeader ≤ m.length)
      (hdata : headerType m ≠ VcPacketType.data.toByte)
      (hresend : headerType m ≠ VcPacketType.resendRequest.toByte)
      (hnotify : headerType m ≠ VcPacketType.missingNotify.toByte)
  | longData (htype : headerType m = VcPacketType.data.toByte)
      (hlen : sizeofVCDataPacket ≤ m.length) (hsize : vcMaxDataPayloadSize < dataLength m)
  | longNotify (htype : headerType m = VcPacketType.missingNotify.toByte)
      (hlen : sizeofVCHeader + 1 ≤ m.length)
      (hcount : vcMaxMissingIdsPerNotify < notifyCount m)

/-! ### Fields read from a longer buffer -/

section Append

variable {p : List UInt8} (q : List UInt8)

lemma headerMessageId_append (h : sizeofVCHeader ≤ p.length) :
    headerMessageId (p ++ q) = headerMessageId p := by
  rw [headerMessageId, headerMessageId, take_drop_append q h]

lemma missingMessageId_append (h : sizeofVCResendRequest ≤ p.length) :
    missingMessageId (p ++ q) = missingMessageId p := by
  rw [missingMessageId, missingMessageId, take_drop_append q h]

lemma notifyMissingIds_append {count : ℕ} (h : sizeofVCHeader + 1 + count * 8 ≤ p.length) :
    notifyMissingIds (p ++ q) count = notifyMissingIds p count := by
  induction count with
  | zero => rfl
  | succ count ih =>
    rw [notifyMissingIds, notifyMissingIds, ih (by omega), take_drop_append q (by omega)]

lemma packetData_append (h : p.length = sizeofVCDataPacket + dataLength p) :
    (packetData (p ++ q)).take (dataLength p) = packetData p := by
  have hlen : (packetData p).length = dataLength p := by
    rw [packetData, List.length_drop]
    omega
  rw [packetData, List.drop_append_of_le_length (by omega), ← packetData, List.take_left' hlen]

end Append

/-! ### The parse loop on packets and malformed headers -/

/-- A whole packet at the front is taken, if at least eleven bytes are there. -/
lemma scanPacket_of_isPacket {p q : List UInt8} {cb : IoCallback} (h : IsPacket p cb)
    (hlen : vcMinDataPacketSize ≤ (p ++ q).length) :
    scanPacket (p ++ q) = .frame cb p.length := by
  have hsum : (p ++ q).length = p.length + q.length := List.length_append
  unfold scanPacket
  dsimp only
  rw [if_neg (not_lt.mpr hlen)]
  cases h with
  | data htype hsize hp =>
    have hmin : vcMinDataPacketSize = sizeofVCDataPacket := rfl
    rw [headerType_append q (by rw [hp, sizeofVCDataPacket]; omega), htype, if_pos rfl,
      if_neg (by omega), dataLength_append q (by omega), if_neg (not_lt.mpr hsize),
      if_neg (by omega), headerMessageId_append q (by rw [hp, sizeofVCHeader, sizeofVCDataPacket]; omega),
      packetData_append q hp, hp]
  | resendRequest htype hp =>
    rw [headerType_append q (by rw [hp, sizeofVCResendRequest]; omega), htype,
      if_neg (by decide), if_pos rfl, if_neg (by omega),
      missingMessageId_append q (le_of_eq hp.symm), hp]
  | missingNotify htype hcount hp =>
    rw [headerType_append q (by rw [hp, sizeofVCHeader]; omega), htype, if_neg (by decide),
      if_neg (by decide), if_pos rfl, if_neg (by omega), notifyCount_append q (by omega),
      if_neg (not_lt.mpr hcount), if_neg (by omega),
      notifyMissingIds_append q (le_of_eq hp.symm), hp]

/-- What the loop takes is a whole packet. -/
lemma isPacket_of_scanPacket : ScanSound IsPacket scanPacket := by
  intro b cb n h
  obtain ⟨hn, hle⟩ := scanPacket_frame h
  refine ⟨by omega, hle, ?_⟩
  -- the fields are inside the first `n` bytes
  obtain ⟨p, q, rfl, rfl⟩ : ∃ p q, b = p ++ q ∧ p.length = n :=
    ⟨b.take n, b.drop n, (List.take_append_drop n b).symm, List.length_take_of_le hle⟩
  rw [List.take_left]
  unfold scanPacket at h
  dsimp only at h
  rw [headerType_append q (by omega)] at h
  split_ifs at h with hmin htype hlen hsize hall htype hlen htype hlen hcount hall
  · injection h with hcb hp
    have hdata := dataLength_append q (p := p) (by rw [← hp]; exact Nat.le_add_right _ _)
    rw [hdata] at hcb hp hsize
    rw [← hcb, headerMessageId_append q (by rw [sizeofVCHeader]; omega), packetData_append q hp.symm]
    exact .data htype (not_lt.mp hsize) hp.symm
  · injection h with hcb hp
    rw [← hcb, missingMessageId_append q (le_of_eq hp)]
    exact .resendRequest htype hp.symm
  · injection h with hcb hp
    have hnotify := notifyCount_append q (p := p) (by rw [← hp]; exact Nat.le_add_right _ _)
    rw [hnotify] at hcb hp hcount
    rw [← hcb, notifyMissingIds_append q (le_of_eq hp)]
    exact .missingNotify htype (not_lt.mp hcount) hp.symm

lemma length_pos_of_isPacket {p : List UInt8} {cb : IoCallback} (h : IsPacket p cb) :
    sizeofVCHeader + 1 ≤ p.length := by
  cases h with
  | data htype hsize hp => rw [hp, sizeofVCDataPacket, sizeofVCHeader]; omega
  | resendRequest htype hp => rw [hp]; decide
  | missingNotify htype hcount hp => omega

/-- A byte string has at most one packet at its front: the loop would find it. -/
lemma prefixFree_isPacket : PrefixFree IsPacket := by
  intro p q r s cb cb' hp hq heq
  have hpad : vcMinDataPacketSize ≤ (List.replicate vcMinDataPacketSize (0 : UInt8)).length :=
    le_of_eq List.length_replicate.symm
  have hscan := scanPacket_of_isPacket hp (q := r ++ List.replicate vcMinDataPacketSize 0)
    (by rw [List.length_append, List.length_append]; omega)
  have hscan' := scanPacket_of_isPacket hq (q := s ++ List.replicate vcMinDataPacketSize 0)
    (by rw [List.length_append, List.length_append]; omega)
  rw [← List.append_assoc, heq, List.append_assoc, hscan'] at hscan
  injection hscan with hcb hlen
  exact ⟨(List.append_inj heq hlen.symm).1, hcb.symm⟩

namespace Malformed

variable {m : List UInt8}

lemma length (h : Malformed m) : sizeofVCHeader ≤ m.length := by
  cases h with
  | unknownType hlen _ _ _ => exact hlen
  | longData _ hlen _ => exact le_trans (by decide) hlen
  | longNotify _ hlen _ => exact le_trans (by decide) hlen

lemma append (h : Malformed m) (y : List UInt8) : Malformed (m ++ y) := by
  have hsum : (m ++ y).length = m.length + y.length := List.length_append
  cases h with
  | unknownType hlen hdata hresend hnotify =>
    have htype := headerType_append y (le_trans (by decide) hlen)
    exact .unknownType (by omega) (by rwa [htype]) (by rwa [htype]) (by rwa [htype])
  | longData htype hlen hsize =>
    refine .longData ?_ (by omega) ?_
    · rwa [headerType_append y (le_trans (by decide) hlen)]
    · rwa [dataLength_append y hlen]
  | longNotify htype hlen hcount =>
    refine .longNotify ?_ (by omega) ?_
    · rwa [headerType_append y (le_trans (by decide) hlen)]
    · rwa [notifyCount_append y hlen]

/-- No packet is taken from bytes that begin with a malformed header. -/
lemma scanPacket_ne (h : Malformed m) (cb : IoCallback) (n : ℕ) :
    scanPacket m ≠ .frame cb n := by
  intro hscan
  unfold scanPacket at hscan
  dsimp only at hscan
  cases h with
  | unknownType hlen hdata hresend hnotify =>
    rw [if_neg hdata, if_neg hresend, if_neg hnotify] at hscan
    split_ifs at hscan
  | longData htype hlen hsize =>
    rw [if_pos htype, if_neg (not_lt.mpr hlen), if_pos hsize] at hscan
    split_ifs at hscan
  | longNotify htype hlen hcount =>
    have hdata : headerType m ≠ VcPacketType.data.toByte := by rw [htype]; decide
    have hresend : headerType m ≠ VcPacketType.resendRequest.toByte := by rw [htype]; decide
    rw [if_neg hdata, if_neg hresend, if_pos htype, if_neg (not_lt.mpr hlen),
      if_pos hcount] at hscan
    split_ifs at hscan

/-- A malformed header is not the front of a packet either. -/
lemma not_isPacket (h : Malformed m) {p : List UInt8} {cb : IoCallback} (hp : IsPacket p cb) :
    ¬ p <+: m := by
  rintro ⟨q, rfl⟩
  have hscan := scanPacket_of_isPacket hp (q := q ++ List.replicate vcMinDataPacketSize 0)
    (by rw [List.length_append, List.length_append, List.length_replicate]; omega)
  rw [← List.append_assoc] at hscan
  exact (h.append _).scanPacket_ne _ _ hscan

/-- No packet stands at the front of a malformed header and what follows it. -/
lemma framed_nil (h : Malformed m) {b : List UInt8} {cs : List IoCallback}
    (hcs : Framed IsPacket b cs m) : cs = [] := by
  cases cs with
  | nil => rfl
  | cons cb cs =>
    obtain ⟨p, hp, hpre⟩ := hcs.exists_frame
    exact absurd hpre (h.not_isPacket hp)

end Malformed

/-- The loop throws bytes away only at a malformed header, and not for its length field. -/
lemma malformed_of_scanPacket {b : List UInt8} (h : scanPacket b = .reject) :
    Malformed b ∧ headerType b ≠ VcPacketType.data.toByte := by
  unfold scanPacket at h
  dsimp only at h
  split_ifs at h with hmin hdata _ _ _ hresend _ hnotify hlen hcount
  · exact ⟨.longNotify hnotify (not_lt.mp hlen) hcount, hdata⟩
  · refine ⟨.unknownType ?_ hdata hresend hnotify, hdata⟩
    exact le_trans (by decide) (not_lt.mp hmin)

/-! ## Calls on a live connection -/

/-- The bytes carry the callbacks: they are the packets at the front, one after the other, and
no whole packet follows. Behind a malformed header there are no packets. -/
def Carries (cbs : List IoCallback) (x : List UInt8) : Prop :=
  ∃ t, Framed IsPacket t cbs x ∧ ∀ p cb, IsPacket p cb → ¬ p <+: t

/-- A malformed header is complete in the bytes, behind whole packets only. -/
def Broken (x : List UInt8) : Prop := ∃ sent m, Framed IsPacket m sent x ∧ Malformed m

lemma Broken.append {x : List UInt8} (h : Broken x) (y : List UInt8) : Broken (x ++ y) := by
  obtain ⟨sent, m, hx, hm⟩ := h
  exact ⟨sent, m ++ y, hx.append y, hm.append y⟩

lemma not_broken_nil : ¬ Broken [] := by
  rintro ⟨sent, m, hx, hm⟩
  have hle : m.length ≤ 0 := hx.length_le
  have hlen : 9 ≤ m.length := hm.length
  omega

/-- Among the calls, none after a malformed header finds a packet at the front of what it has
kept and received. -/
def SilentWhenBroken (reads : List (List RecvResult)) : Prop :=
  ∀ before rs, before ++ [rs] <+: reads → Broken (before.flatMap recvBytes) →
    ∀ cb n, scanPacket ((readAll {} before).2.readBuffer.begin ++ recvBytes rs) ≠ .frame cb n

section Concat

variable {reads : List (List RecvResult)} {rs : List RecvResult}

lemma readAll_concat (slot : IoSlot) : readAll slot (reads ++ [rs])
    = ((readAll slot reads).1 ++ (readFromConnection (readAll slot reads).2 rs).1,
      (readFromConnection (readAll slot reads).2 rs).2) := by
  induction reads generalizing slot with
  | nil => simp only [List.nil_append, readAll, List.append_nil]
  | cons rs' reads ih => simp only [List.cons_append, readAll, ih, List.append_assoc]

lemma silentWhenBroken_nil : SilentWhenBroken [] := fun _ _ hpre =>
  absurd (List.prefix_nil.mp hpre) (List.append_ne_nil_of_right_ne_nil _ (List.cons_ne_nil _ _))

lemma silentWhenBroken_concat : SilentWhenBroken (reads ++ [rs]) ↔
    SilentWhenBroken reads ∧ (Broken (reads.flatMap recvBytes) → ∀ cb n,
      scanPacket ((readAll {} reads).2.readBuffer.begin ++ recvBytes rs) ≠ .frame cb n) := by
  constructor
  · intro h
    exact ⟨fun before rs' hpre => h before rs' (hpre.trans (List.prefix_append _ _)),
      h reads rs (List.prefix_refl _)⟩
  · rintro ⟨hsilent, hlast⟩ before rs' hpre
    rcases List.prefix_concat_iff.mp hpre with heq | hpre
    · obtain ⟨rfl, hrs⟩ := List.append_inj' heq rfl
      obtain rfl := (List.cons.inj hrs).1
      exact hlast
    · exact hsilent before rs' hpre

end Concat

/-- After the calls, the parser stands at the end of the last whole packet; or it has thrown
away bytes at a malformed header, and what it has called back since is `extra`. -/
inductive Parsed (reads : List (List RecvResult)) : Prop
  | inStep (h : Framed IsPacket (readAll {} reads).2.readBuffer.begin (readAll {} reads).1
        (reads.flatMap recvBytes))
      (hwait : scanPacket (readAll {} reads).2.readBuffer.begin = .wait)
      (hsilent : SilentWhenBroken reads)
  | thrownAway (sent extra : List IoCallback) (m : List UInt8)
      (h : Framed IsPacket m sent (reads.flatMap recvBytes)) (hm : Malformed m)
      (htype : headerType m ≠ VcPacketType.data.toByte)
      (hcbs : (readAll {} reads).1 = sent ++ extra)
      (hextra : extra = [] ↔ SilentWhenBroken reads)

/-- A parser that is in step and whose bytes hold a malformed header stands before it. -/
lemma malformed_of_inStep {t x : List UInt8} {cbs : List IoCallback} (h : Framed IsPacket t cbs x)
    (hwait : scanPacket t = .wait) (hbroken : Broken x) : Malformed t := by
  obtain ⟨sent, m, hx, hm⟩ := hbroken
  rcases h.comparable prefixFree_isPacket hx with ⟨cs, -, hcs⟩ | ⟨cs, -, hcs⟩
  · cases hcs with
    | done => exact hm
    | @frame p y cb cs hp hy =>
      -- the loop has not looked at a packet of ten bytes, and nothing follows that
      have hshort : (p ++ y).length < vcMinDataPacketSize := by
        by_contra hlong
        rw [scanPacket_of_isPacket hp (not_lt.mp hlong)] at hwait
        cases hwait
      have hp' := length_pos_of_isPacket hp
      have hm' := hm.length
      have hle := hy.length_le
      rw [List.length_append, vcMinDataPacketSize, sizeofVCDataPacket] at hshort
      rw [sizeofVCHeader] at hp' hm'
      omega
  · cases hcs with
    | done => exact hm
    | frame hp hy => exact absurd (List.prefix_append _ _) (hm.not_isPacket hp)

/-- One call. -/
lemma parsed_concat {reads : List (List RecvResult)} {rs : List RecvResult} (h : Parsed reads)
    {b : List UInt8} (hb : b = (readAll {} reads).2.readBuffer.begin ++ recvBytes rs)
    (hcbs : (readFromConnection (readAll {} reads).2 rs).1 = (decode scanPacket b.length b).1)
    (hkept : (readFromConnection (readAll {} reads).2 rs).2.readBuffer.begin
      = (decode scanPacket b.length b).2) : Parsed (reads ++ [rs]) := by
  have hbytes : (reads ++ [rs]).flatMap recvBytes = reads.flatMap recvBytes ++ recvBytes rs := by
    rw [List.flatMap_append, List.flatMap_singleton]
  have hall : (readAll {} (reads ++ [rs])).1
      = (readAll {} reads).1 ++ (decode scanPacket b.length b).1 := by
    rw [readAll_concat, hcbs]
  have hslot : (readAll {} (reads ++ [rs])).2.readBuffer.begin
      = (decode scanPacket b.length b).2 := by
    rw [readAll_concat, hkept]
  cases h with
  | inStep hframed hwait hsilent =>
    obtain ⟨t, hdecoded, hend⟩ := decode_framed isPacket_of_scanPacket rfl (le_refl b.length)
    have hframed' : Framed IsPacket t (readAll {} (reads ++ [rs])).1
        ((reads ++ [rs]).flatMap recvBytes) := by
      rw [hbytes, hall]
      exact (hframed.append (recvBytes rs)).trans (hb ▸ hdecoded)
    -- if a malformed header was there before, the parser stands before it
    have hsilent' : SilentWhenBroken (reads ++ [rs]) := by
      refine silentWhenBroken_concat.mpr ⟨hsilent, fun hbroken => ?_⟩
      exact ((malformed_of_inStep hframed hwait hbroken).append _).scanPacket_ne
    rcases hend with ⟨hwait', heq⟩ | ⟨hreject, -⟩
    · rw [← hslot] at heq
      exact .inStep (heq ▸ hframed') (heq ▸ hwait') hsilent'
    · obtain ⟨hm, htype⟩ := malformed_of_scanPacket hreject
      exact .thrownAway _ [] t hframed' hm htype (List.append_nil _).symm
        ⟨fun _ => hsilent', fun _ => rfl⟩
  | thrownAway sent extra m hframed hm htype hsent hextra =>
    refine .thrownAway sent (extra ++ (decode scanPacket b.length b).1) (m ++ recvBytes rs) ?_
      (hm.append _) ?_ ?_ ?_
    · rw [hbytes]
      exact hframed.append _
    · rwa [headerType_append _ (le_trans (by decide) hm.length)]
    · rw [hall, hsent, List.append_assoc]
    · rw [List.append_eq_nil_iff, silentWhenBroken_concat, hextra, decode_eq_nil_iff rfl, hb]
      exact and_congr_right fun _ => ⟨fun h _ => h, fun h => h ⟨sent, m, hframed, hm⟩⟩

/-- Any number of calls on a live connection, whatever the bytes and however they are cut. -/
theorem reading_readAll {reads : List (List RecvResult)} (hlive : ∀ rs ∈ reads, Live rs) :
    (readAll {} reads).2.connected = true ∧ (readAll {} reads).2.readBuffer.Wf
      ∧ Parsed reads := by
  induction reads using List.reverseRecOn with
  | nil => exact ⟨rfl, ReadBuffer.wf_empty, .inStep .done rfl silentWhenBroken_nil⟩
  | append_singleton reads rs ih =>
    obtain ⟨hconn, hwf, hparsed⟩ := ih fun rs' h => hlive rs' (List.mem_append_left _ h)
    have hrs := hlive rs (List.mem_append_right _ List.mem_cons_self)
    obtain ⟨hcbs, hkept, hconn', hwf'⟩ := readFromConnection_live hconn hwf hrs rfl
    refine ⟨?_, ?_, parsed_concat hparsed rfl hcbs hkept⟩
    · rw [readAll_concat]
      exact hconn'
    · rw [readAll_concat]
      exact hwf'

end TcpUdp
