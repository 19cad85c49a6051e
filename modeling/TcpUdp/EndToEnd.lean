import TcpUdp.ChannelReceiving

/-!
# End-to-end delivery

Two virtual channels joined by TCP connections. Each end writes to its side of the
connections and reads what the other end wrote, as far as it arrives; everything else is
what the channels do by themselves, in any interleaving. Both ends run the same code and
may send, ask for missing messages and resend at the same time; the results are about one
direction, from `sender` to `receiver`.

`delivered_sublist_accepted`: whatever dies, is lost, resent, dropped or given up on the way,
the receiver hands out a subsequence of the payloads that the sender accepted.
-/

namespace TcpUdp

open Lib TcpVirtualChannel

structure System where
  sender : TcpVirtualChannel
  receiver : TcpVirtualChannel

namespace System

inductive Event where
  | sender (e : TcpVirtualChannel.Event)
  | receiver (e : TcpVirtualChannel.Event)

def step (s : System) : Event → System
  | .sender e => { s with sender := s.sender.step s.receiver.wire e }
  | .receiver e => { s with receiver := s.receiver.step s.sender.wire e }

/-- Two channels that were just opened, each over its list of the connections. -/
def joined (config config' : ReorderConfig) (connections connections' : List ConnId) : System where
  sender := .opening config connections
  receiver := .opening config' connections'

/-- The two channels after the first `n` events. -/
def stateAt (config config' : ReorderConfig) (connections connections' : List ConnId)
    (events : ℕ → Event) (n : ℕ) : System :=
  runState step (joined config config' connections connections') events n

/-! ## The invariant -/

structure Inv (s : System) : Prop where
  fit : IdsFit s.sender
  sending : Sending s.sender
  receiving : Receiving s.sender.accepted s.sender.wire s.receiver

lemma inv_joined (config config' : ReorderConfig) (connections : List ConnId)
    {connections' : List ConnId} (hdistinct : connections'.Nodup) :
    Inv (joined config config' connections connections') :=
  ⟨idsFit_opening config connections, sending_opening config connections,
    receiving_opening config' hdistinct⟩

lemma accepted_grows_step (s : System) (e : Event) :
    s.sender.accepted <+: (s.step e).sender.accepted := by
  cases e with
  | sender e => exact accepted_grows _ _ e
  | receiver e => exact List.prefix_rfl

lemma inv_step {s : System} (h : Inv s) (e : Event)
    (hcount : (s.step e).sender.accepted.length < uint64Size - 1) : Inv (s.step e) := by
  have hbefore := lt_of_le_of_lt (accepted_grows_step s e).length_le hcount
  cases e with
  | sender e =>
    refine ⟨idsFit_step h.fit e, sending_step h.sending h.fit e ?_, ?_⟩
    · exact lt_of_lt_of_le hcount (Nat.sub_le _ _)
    · exact h.receiving.mono (accepted_grows _ _ e)
        fun c => (step_drives s.receiver.wire s.sender e).written_grows c
  | receiver e =>
    -- the receiver reads what the sender has written, which the sender keeps genuine
    exact ⟨h.fit, h.sending, receiving_step h.receiving h.sending.isStream hbefore e⟩

lemma inv_run {s₀ : System} (h₀ : Inv s₀) (events : ℕ → Event) (n : ℕ)
    (hcount : (runState step s₀ events n).sender.accepted.length < uint64Size - 1) :
    Inv (runState step s₀ events n) := by
  -- fewer payloads were accepted before an event than after it
  refine runState_invariant
    (P := fun s => s.sender.accepted.length < uint64Size - 1 → Inv s) (Q := fun _ => True)
    (fun _ => h₀) (fun s e _ ih hafter => ?_) (fun _ => trivial) n hcount
  have hbefore := lt_of_le_of_lt (accepted_grows_step s e).length_le hafter
  exact inv_step (ih hbefore) e hafter

/-! ## Delivery -/

/-- At every moment of every run, the payloads passed to the receiver's `receiveCallback` are
a subsequence of the payloads that `send` accepted: in the same order, none more often than
it was accepted, none changed. -/
theorem delivered_sublist_accepted (config config' : ReorderConfig) (connections : List ConnId)
    {connections' : List ConnId} (hdistinct : connections'.Nodup) (events : ℕ → Event) (n : ℕ)
    (hcount : (stateAt config config' connections connections' events n).sender.accepted.length
      < uint64Size - 1) :
    ((stateAt config config' connections connections' events n).receiver.delivered.map
        DeliveryItem.data).Sublist
      (stateAt config config' connections connections' events n).sender.accepted :=
  (inv_run (inv_joined config config' connections hdistinct) events n
    hcount).receiving.delivers.sublist

/-- One connection; a payload is sent, written, read in two pieces and delivered. -/
def oneMessage : ℕ → Event := fun n =>
  [.sender (.send [7]), .sender (.sendThread {}), .sender (.sendThread {}),
    .sender (.sendThread {}), .sender (.sendThread { sendResult := .sent 12 }),
    .sender (.sendThread {}), .receiver (.read 0 [5, 7] .wouldBlock), .receiver (.callback 0),
    .receiver (.reorderThread 0 0 0), .receiver (.reorderThread 0 0 0),
    .receiver (.reorderThread 0 0 0)].getD n (.sender (.disconnect 0))

theorem delivered_sublist_accepted_oneMessage :
    (stateAt {} {} [0] [0] oneMessage 11).receiver.delivered = [⟨0, [7], 0⟩] ∧
    ((stateAt {} {} [0] [0] oneMessage 11).receiver.delivered.map DeliveryItem.data).Sublist
      (stateAt {} {} [0] [0] oneMessage 11).sender.accepted :=
  ⟨by decide, delivered_sublist_accepted {} {} [0] (by decide) oneMessage 11 (by decide)⟩

end System
end TcpUdp
