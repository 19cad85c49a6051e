import TcpUdp.WellFormed

/-!
# The call that sees the close

`readFromConnection` reads until the socket has nothing left and parses only then. When the
last result is `SOCKET_ERROR_CLOSED` it returns before the parse loop, so what the same call
received is not parsed. `carries_closingCall_iff` says of any calls before it when nothing is
lost by that.
-/

namespace TcpUdp

open Lib

/-- The results of a call that receives the chunks and then finds the connection closed. -/
def closingCall (chunks : List (List UInt8)) : List RecvResult :=
  chunks.map .bytes ++ [.closed]

lemma not_live_closingCall (chunks : List (List UInt8)) : ¬ Live (closingCall chunks) := by
  induction chunks with
  | nil => exact id
  | cons chunk chunks ih => exact ih

variable {reads : List (List RecvResult)}

/-- The closing call calls nothing back and ends the connection. -/
lemma readAll_closingCall (hlive : ∀ rs ∈ reads, Live rs) (chunks : List (List UInt8)) :
    (readAll {} (reads ++ [closingCall chunks])).1 = (readAll {} reads).1
      ∧ (readAll {} (reads ++ [closingCall chunks])).2.connected = false := by
  obtain ⟨hconn, -, -⟩ := reading_readAll hlive
  obtain ⟨hcbs, hdead⟩ := readFromConnection_dead hconn (not_live_closingCall chunks)
  rw [readAll_concat, hcbs, List.append_nil]
  exact ⟨rfl, hdead⟩

/-- No whole packet stands at the front of what was kept before the closing call, followed by
what this call receives. -/
def ClosesBetween (reads : List (List RecvResult)) (chunks : List (List UInt8)) : Prop :=
  ∀ p cb, IsPacket p cb →
    ¬ p <+: (readAll {} reads).2.readBuffer.begin ++ recvBytes (closingCall chunks)

/-- All whole packets received before the close are called back, and nothing else, if and only
if the closing call completes no packet, and no call after a malformed header finds one. -/
theorem carries_closingCall_iff (hlive : ∀ rs ∈ reads, Live rs) (chunks : List (List UInt8)) :
    Carries (readAll {} (reads ++ [closingCall chunks])).1
        ((reads ++ [closingCall chunks]).flatMap recvBytes)
      ↔ SilentWhenBroken reads ∧
        (¬ Broken (reads.flatMap recvBytes) → ClosesBetween reads chunks) := by
  obtain ⟨-, -, hparsed⟩ := reading_readAll hlive
  rw [(readAll_closingCall hlive chunks).1, List.flatMap_append, List.flatMap_singleton]
  cases hparsed with
  | inStep hframed hwait hsilent =>
    rw [and_iff_right hsilent]
    have hall := hframed.append (recvBytes (closingCall chunks))
    constructor
    · rintro ⟨t, ht, hnone⟩ -
      rwa [ht.rest_unique prefixFree_isPacket hall] at hnone
    · intro hcloses
      refine ⟨_, hall, ?_⟩
      by_cases hbroken : Broken (reads.flatMap recvBytes)
      · -- the parser stands before the malformed header
        intro p cb hp
        exact ((malformed_of_inStep hframed hwait hbroken).append _).not_isPacket hp
      · exact hcloses hbroken
  | thrownAway sent extra m hframed hm _ hcbs hextra =>
    have hbroken : Broken (reads.flatMap recvBytes) := ⟨sent, m, hframed, hm⟩
    have hall := hframed.append (recvBytes (closingCall chunks))
    have hnone : ∀ p cb, IsPacket p cb → ¬ p <+: m ++ recvBytes (closingCall chunks) :=
      fun p cb hp => (hm.append _).not_isPacket hp
    rw [← hextra, and_iff_left (fun h => absurd hbroken h), hcbs]
    constructor
    · rintro ⟨t, ht, -⟩
      -- behind the malformed header there is nothing to call back
      rcases ht.comparable prefixFree_isPacket hall with ⟨cs, heq, -⟩ | ⟨cs, heq, hcs⟩
      · rw [List.append_assoc, List.self_eq_append_right, List.append_eq_nil_iff] at heq
        exact heq.1
      · obtain rfl := List.append_cancel_left heq
        exact (hm.append _).framed_nil hcs
    · rintro rfl
      rw [List.append_nil]
      exact ⟨_, hall, hnone⟩

/-- A call receives a packet of one byte, and the next one sees the close. -/
theorem carries_closedLater :
    Carries (readAll {} ([[.bytes [0, 5, 0, 0, 0, 0, 0, 0, 0, 1, 0, 7], .wouldBlock]]
        ++ [closingCall []])).1
      ([[.bytes [0, 5, 0, 0, 0, 0, 0, 0, 0, 1, 0, 7], .wouldBlock], closingCall []].flatMap
        recvBytes) := by
  refine (carries_closingCall_iff (by simp [Live]) []).mpr ⟨?_, fun _ p cb hp hpre => ?_⟩
  · exact silentWhenBroken_concat.mpr ⟨silentWhenBroken_nil, fun h => absurd h not_broken_nil⟩
  · have hlen : 10 ≤ p.length := length_pos_of_isPacket hp
    have hle : p.length ≤ 0 := hpre.length_le
    omega

/-- The same packet and the close in one call. -/
theorem closedAtOnce_not_carries :
    ¬ ∀ (reads : List (List RecvResult)), (∀ rs ∈ reads, Live rs) →
      ∀ chunks : List (List UInt8), Carries (readAll {} (reads ++ [closingCall chunks])).1
        ((reads ++ [closingCall chunks]).flatMap recvBytes) := by
  intro h
  obtain ⟨t, ht, hnone⟩ := h [] (fun _ h => (nomatch h)) [[0, 5, 0, 0, 0, 0, 0, 0, 0, 1, 0, 7]]
  have hframed : Framed IsPacket t [] [0, 5, 0, 0, 0, 0, 0, 0, 0, 1, 0, 7] := ht
  cases hframed
  exact hnone _ _ (.data rfl (by decide) (by decide)) (List.prefix_refl _)

end TcpUdp
