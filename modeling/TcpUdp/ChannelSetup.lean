import TcpUdp.TruncatedBind

/-!
# The set-up of a channel

The 32nd socket of a client: the channel is registered and its slots are entered in
`clientConnSlots` before the UDP socket is made, and a failure there leaves the accept loop
with all of that in place. So the set-up is all or nothing just when both calls succeed
(`allOrNothing_iff`); after a failure no client is served any more (`stopped_stateAt`).
-/

namespace TcpUdp
namespace AcceptLoop

open Lib ServerTables

variable {s : AcceptLoop} {clientSocket : SocketFd} {bindMsg : MsgBind}

/-- The client has a channel that is registered, has its callbacks, and is open. -/
def SetUp (s : AcceptLoop) (c : ClientId) : Prop :=
  ∃ vc, s.tables.vcs c = some vc ∧ (s.channels vc).hasReceiveCallback = true
    ∧ (s.channels vc).hasDisconnectCallback = true ∧ (s.channels vc).opened = true

/-- The client has neither a channel nor slots, and the loop goes on. -/
structure NotSetUp (s : AcceptLoop) (c : ClientId) : Prop where
  unregistered : s.tables.vcs c = none
  noSlots : s.tables.clientConnSlots c = none
  accepting : s.loop = .accepting

/-! ## Out of the loop -/

lemma loop_replaceConnection (s : AcceptLoop) (vc : VcId) (slotIndex : ℕ) (newFd : SocketFd) :
    (s.replaceConnection vc slotIndex newFd).loop = s.loop := by
  unfold replaceConnection
  simp only
  split_ifs <;> rfl

/-- The threads of the channels do not move the loop. -/
lemma loop_die (s : AcceptLoop) (vc : VcId) (slotIndex : ℕ) : (s.die vc slotIndex).loop = s.loop := by
  unfold die
  simp only
  split
  · split_ifs <;> rfl
  · rfl

lemma loop_allDead (s : AcceptLoop) (vc : VcId) : (s.allDead vc).loop = s.loop := by
  unfold allDead
  simp only
  split <;> rfl

lemma loop_callbackStep (s : AcceptLoop) (vc : VcId) : (s.callbackStep vc).loop = s.loop := by
  unfold callbackStep
  simp only
  split <;> rfl

lemma loop_step_of_stopped (h : s.loop = .stopped) (e : Event) : (step s e).loop = .stopped := by
  cases e with
  | accepted clientSocket results =>
    have hnot : ¬ (s.loop = .accepting ∧ s.isOpen clientSocket = false) := by
      rw [h]
      exact fun hand => absurd hand.1 (by decide)
    rw [step, accepted, if_neg hnot]
    exact h
  | accept udp =>
    rw [step, acceptStep_of_idle (Or.inr h)]
    exact h
  | die vc slotIndex =>
    rw [step, loop_die]
    exact h
  | allDead vc =>
    rw [step, loop_allDead]
    exact h
  | callback vc =>
    rw [step, loop_callbackStep]
    exact h

/-- Once it has left the loop, the server accepts nothing. -/
theorem stopped_stateAt {events : ℕ → Event} {n m : ℕ} (h : (stateAt events n).loop = .stopped)
    (hnm : n ≤ m) : (stateAt events m).loop = .stopped := by
  induction hnm with
  | refl => exact h
  | step _ ih => exact loop_step_of_stopped ih _

/-! ## All or nothing -/

lemma opened_createVc (s : AcceptLoop) (c : ClientId) (fds : List SocketFd) :
    ((s.createVc c fds).channels s.nextVc).opened = false := by
  simp only [createVc, setChannel, Function.update_self]

lemma channels_setUp_bound (s : AcceptLoop) (vc : VcId) :
    (s.setUp vc .bound).channels vc
      = { s.channels vc with
          hasReceiveCallback := true, hasDisconnectCallback := true, udpOpen := true
          opened := true } := Function.update_self ..

/-- A channel that is registered and not open is neither. -/
lemma not_allOrNothing {c : ClientId} {vc : VcId} (hvc : s.tables.vcs c = some vc)
    (hclosed : (s.channels vc).opened = false) : ¬ (s.SetUp c ∨ s.NotSetUp c) := by
  rintro (⟨vc', hvc', -, -, hopen⟩ | hnot)
  · cases hvc.symm.trans hvc'
    cases hclosed.symm.trans hopen
  · cases hvc.symm.trans hnot.unregistered

/-- The set-up of a channel is all or nothing, exactly when its UDP socket is created and
bound. -/
theorem allOrNothing_iff (events : ℕ → Event) (n : ℕ)
    (hloop : (stateAt events n).loop = .accumulating clientSocket bindMsg)
    (hlast : vcTcpConnections ≤ ((stateAt events n).waiting bindMsg.clientId).length + 1)
    (udp : UdpResult) :
    (((stateAt events n).acceptStep udp).SetUp bindMsg.clientId ∨
        ((stateAt events n).acceptStep udp).NotSetUp bindMsg.clientId) ↔ udp = .bound := by
  have hs := inv_stateAt events n
  have hvc : (stateAt events n).tables.vcs bindMsg.clientId = none := by
    have hok := hs.loop
    rw [hloop] at hok
    exact hok
  have hregistered := vcs_accumulate_of_full hvc hlast clientSocket udp
  rw [acceptStep_accumulating hloop]
  constructor
  · intro h
    cases udp with
    | bound => rfl
    | createFails | bindFails =>
      refine absurd h (not_allOrNothing hregistered ?_)
      rw [accumulate_of_full hvc hlast]
      exact opened_createVc ..
  · rintro rfl
    refine Or.inl ⟨_, hregistered, ?_⟩
    rw [accumulate_of_full hvc hlast, channels_setUp_bound]
    exact ⟨rfl, rfl, rfl⟩

/-- The last socket of client 7 completes its set. -/
lemma connects_last : (stateAt connects 63).loop = .accumulating 131 ⟨7, -1, 32⟩
    ∧ vcTcpConnections
      ≤ ((stateAt connects 63).waiting (⟨7, -1, 32⟩ : MsgBind).clientId).length + 1 := by
  decide +kernel

/-- The UDP socket is made. -/
theorem allOrNothing_iff_connects :
    ((stateAt connects 63).acceptStep .bound).SetUp 7 ∨
      ((stateAt connects 63).acceptStep .bound).NotSetUp 7 :=
  (allOrNothing_iff connects 63 connects_last.1 connects_last.2 .bound).mpr rfl

/-- Without a UDP socket the channel stays registered, and the loop ends. -/
theorem setUp_stops_halfway : ¬ ∀ (events : ℕ → Event) (n : ℕ) (clientSocket : SocketFd)
    (bindMsg : MsgBind) (udp : UdpResult),
    (stateAt events n).loop = .accumulating clientSocket bindMsg →
    vcTcpConnections ≤ ((stateAt events n).waiting bindMsg.clientId).length + 1 →
    (((stateAt events n).acceptStep udp).SetUp bindMsg.clientId ∨
      ((stateAt events n).acceptStep udp).NotSetUp bindMsg.clientId) := by
  intro h
  have hhalf : ((stateAt connects 63).acceptStep .createFails).tables.vcs 7 = some 0
      ∧ (((stateAt connects 63).acceptStep .createFails).channels 0).opened = false := by
    decide +kernel
  have hor := h connects 63 131 ⟨7, -1, 32⟩ .createFails connects_last.1 connects_last.2
  generalize (stateAt connects 63).acceptStep .createFails = s at hhalf hor
  exact not_allOrNothing hhalf.1 hhalf.2 hor

end AcceptLoop
end TcpUdp
