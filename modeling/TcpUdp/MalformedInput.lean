import TcpUdp.WellFormed

/-!
# Malformed input

At a malformed header `readFromConnection` logs, or not even that, and goes on: it throws the
buffer away, or leaves it as it is when the length of a DATA packet is too large. The
connection is never given up, so `not_failsStop` holds of every stream with such a header.
What becomes of the bytes behind the header depends on its kind: `callbacks_eq_iff` and
`kept_of_longData`.
-/

namespace TcpUdp

open Lib

/-- Reading stops at a malformed header: the packets before it are called back and nothing
else, less than a packet is kept after every call, and the connection is given up by the call
that completes the header. -/
structure FailsStop (reads : List (List RecvResult)) (sent : List IoCallback) : Prop where
  dispatched : (readAll {} reads).1 = sent
  retained : ∀ j, (readAll {} (reads.take j)).2.readBuffer.available
    < sizeofVCDataPacket + vcMaxDataPayloadSize
  disconnected : ∀ j, Broken ((reads.take j).flatMap recvBytes) →
    (readAll {} (reads.take j)).2.connected = false

variable {reads : List (List RecvResult)} {sent : List IoCallback} {m : List UInt8}

/-- Two malformed headers of one stream are the same one. -/
lemma malformed_unique {sent' : List IoCallback} {m' x : List UInt8}
    (h : Framed IsPacket m sent x) (hm : Malformed m) (h' : Framed IsPacket m' sent' x)
    (hm' : Malformed m') : sent' = sent ∧ m' = m := by
  have hsent : sent' = sent := by
    rcases h.comparable prefixFree_isPacket h' with ⟨cs, rfl, hcs⟩ | ⟨cs, rfl, hcs⟩
    · rw [hm.framed_nil hcs, List.append_nil]
    · rw [hm'.framed_nil hcs, List.append_nil]
  subst hsent
  exact ⟨rfl, h'.rest_unique prefixFree_isPacket h⟩

/-- The packets before the malformed header are called back, and exactly these if and only if
no later call finds a packet at the front of what it has kept and received. -/
theorem callbacks_eq_iff (hlive : ∀ rs ∈ reads, Live rs)
    (hstream : Framed IsPacket m sent (reads.flatMap recvBytes)) (hm : Malformed m) :
    sent <+: (readAll {} reads).1 ∧ ((readAll {} reads).1 = sent ↔ SilentWhenBroken reads) := by
  obtain ⟨-, -, hparsed⟩ := reading_readAll hlive
  cases hparsed with
  | inStep hframed hwait hsilent =>
    have hkept := malformed_of_inStep hframed hwait ⟨sent, m, hstream, hm⟩
    have hcbs := (malformed_unique hstream hm hframed hkept).1
    rw [hcbs]
    exact ⟨List.prefix_refl _, fun _ => hsilent, fun _ => rfl⟩
  | thrownAway sent' extra m' hframed hm' _ hcbs hextra =>
    obtain ⟨rfl, -⟩ := malformed_unique hstream hm hframed hm'
    rw [hcbs, ← hextra, List.append_right_eq_self]
    exact ⟨List.prefix_append _ _, Iff.rfl⟩

/-- A DATA packet that is too long stays at the front of the buffer, and everything that
arrives is kept behind it. -/
theorem kept_of_longData (hlive : ∀ rs ∈ reads, Live rs)
    (hstream : Framed IsPacket m sent (reads.flatMap recvBytes)) (hm : Malformed m)
    (hdata : headerType m = VcPacketType.data.toByte) :
    (readAll {} reads).1 = sent ∧ (readAll {} reads).2.readBuffer.begin = m := by
  obtain ⟨-, -, hparsed⟩ := reading_readAll hlive
  cases hparsed with
  | inStep hframed hwait hsilent =>
    have hkept := malformed_of_inStep hframed hwait ⟨sent, m, hstream, hm⟩
    exact malformed_unique hstream hm hframed hkept
  | thrownAway sent' extra m' hframed hm' htype hcbs hextra =>
    obtain ⟨-, rfl⟩ := malformed_unique hstream hm hframed hm'
    exact absurd hdata htype

/-- No stream with a malformed header stops the reading: the connection stays up. -/
theorem not_failsStop (hlive : ∀ rs ∈ reads, Live rs)
    (hstream : Framed IsPacket m sent (reads.flatMap recvBytes)) (hm : Malformed m) :
    ¬ FailsStop reads sent := by
  intro h
  have hdead := h.disconnected reads.length (by rw [List.take_length]; exact ⟨sent, m, hstream, hm⟩)
  rw [List.take_length, (reading_readAll hlive).1] at hdead
  cases hdead

/-- A packet of type 7, and in the next call a notification for id 4. -/
def unknownType : List (List RecvResult) :=
  [[.bytes [7, 0, 0, 0, 0, 0, 0, 0, 0, 0, 0], .wouldBlock],
    [.bytes [3, 0, 0, 0, 0, 0, 0, 0, 0, 1, 4, 0, 0, 0, 0, 0, 0, 0], .wouldBlock]]

lemma malformed_unknownType : Malformed (unknownType.flatMap recvBytes) :=
  .unknownType (by decide) (by decide) (by decide) (by decide)

theorem not_failsStop_unknownType : ¬ FailsStop unknownType [] :=
  not_failsStop (by simp [unknownType, Live]) .done malformed_unknownType

/-- The notification behind the malformed header is called back. -/
theorem unknownType_dispatches :
    ¬ ∀ (reads : List (List RecvResult)) (sent : List IoCallback) (m : List UInt8),
      (∀ rs ∈ reads, Live rs) → Framed IsPacket m sent (reads.flatMap recvBytes) →
        Malformed m → FailsStop reads sent := by
  intro h
  have hstop := h unknownType [] _ (by simp [unknownType, Live]) .done malformed_unknownType
  have hcbs : (readAll {} unknownType).1 = [.missingNotifyCallback [4]] := rfl
  cases hcbs.symm.trans hstop.dispatched

end TcpUdp
