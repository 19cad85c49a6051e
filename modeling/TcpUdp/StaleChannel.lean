import TcpUdp.ChannelSetup

/-!
# The teardown of a stale channel

A client that starts again meets its old channel. The accept loop closes that channel and
removes it from `VcManager`, but `close()` does not run the disconnect callback: the peer keeps
its 32 sockets, so the new one is closed as excess and the old numbers become a channel. The
teardown is complete just when the channel's own `disconnectCB`, which has to clear `opened`
before `close()` does, has called back and closed the UDP socket by the time of `AddPeer`
(`tornDown_iff`).
-/

namespace TcpUdp
namespace AcceptLoop

open Lib ServerTables

variable {s s' : AcceptLoop} {clientSocket : SocketFd} {bindMsg : MsgBind} {vc : VcId}

/-- Nothing of the old channel is left, and the client's peer starts over. -/
structure TornDown (s s' : AcceptLoop) (bindMsg : MsgBind) (vc : VcId)
    (clientSocket : SocketFd) : Prop where
  unregistered : s'.tables.vcs bindMsg.clientId = none
  peer : s'.tables.peers bindMsg.clientId = some { sockets := [clientSocket] }
  socketOpen : s'.isOpen clientSocket = true
  noSlots : s'.tables.clientConnSlots bindMsg.clientId = none
  udpClosed : (s'.channels vc).udpOpen = false
  noneCreated : s'.nextVc = s.nextVc

/-- The loop handles a socket. -/
def LoopPc.Busy : LoopPc → Prop
  | .found _ _ _ | .accumulating _ _ => True
  | .accepting | .stopped => False

instance (pc : LoopPc) : Decidable pc.Busy := by
  cases pc <;> unfold LoopPc.Busy <;> infer_instance

/-- At step `n` the loop reads a `MsgBind` for an initial connection of a client whose channel
`vc` is registered and open, and at step `k` it takes the last action for this socket. -/
structure StaleHandling (events : ℕ → Event) (n k : ℕ) (clientSocket : SocketFd)
    (bindMsg : MsgBind) (vc : VcId) : Prop where
  accepting : (stateAt events n).loop = .accepting
  fresh : (stateAt events n).isOpen clientSocket = false
  received : ∃ results, events n = .accepted clientSocket results
    ∧ receiveBind results = some (some bindMsg)
  initial : bindMsg.slotIndex < 0
  registered : (stateAt events n).tables.vcs bindMsg.clientId = some vc
  opened : ((stateAt events n).channels vc).opened = true
  lt : n < k
  busy : ∀ m, n < m → m ≤ k → (stateAt events m).loop.Busy
  last : ∃ udp, events k = .accept udp
  accumulating : (stateAt events k).loop = .accumulating clientSocket bindMsg

/-- The callback has closed the UDP socket. -/
def CallbackPc.closedUdp : CallbackPc → Bool
  | .erasingSlots | .returned => true
  | _ => false

/-- The callback has removed the peer. -/
def CallbackPc.removedPeer : CallbackPc → Bool
  | .closingUdp | .erasingSlots | .returned => true
  | _ => false

/-- The old channel's callback has closed its UDP socket, the slots of the client are erased,
and nobody has closed the accepted socket through a stale descriptor. -/
structure CalledBack (s : AcceptLoop) (bindMsg : MsgBind) (vc : VcId)
    (clientSocket : SocketFd) : Prop where
  closedUdp : (s.channels vc).callback.closedUdp = true
  noSlots : s.tables.clientConnSlots bindMsg.clientId = none
  socketOpen : s.isOpen clientSocket = true

/-! ## While the socket is handled -/

/-- What holds of the old channel from the handshake to the last action. -/
structure Tearing (s : AcceptLoop) (clientSocket : SocketFd) (bindMsg : MsgBind) (vc : VcId)
    (nextVc : VcId) : Prop where
  loop : s.loop = .found clientSocket bindMsg vc ∨ s.loop = .accumulating clientSocket bindMsg
  owner : (s.channels vc).clientId = bindMsg.clientId
  nextVc : s.nextVc = nextVc
  peer : (s.channels vc).callback.removedPeer = true → s.tables.peers bindMsg.clientId = none
  udp : (s.channels vc).udpOpen = !(s.channels vc).callback.closedUdp

/-- The step leaves the callback of the channel alone and adds no peer. -/
structure Leaves (s s' : AcceptLoop) (bindMsg : MsgBind) (vc : VcId) : Prop where
  clientId : (s'.channels vc).clientId = (s.channels vc).clientId
  callback : (s'.channels vc).callback = (s.channels vc).callback
  udpOpen : (s'.channels vc).udpOpen = (s.channels vc).udpOpen
  nextVc : s'.nextVc = s.nextVc
  peers : s.tables.peers bindMsg.clientId = none → s'.tables.peers bindMsg.clientId = none

variable {nextVc : VcId}

lemma Tearing.of_leaves (hs : Tearing s clientSocket bindMsg vc nextVc)
    (h : Leaves s s' bindMsg vc)
    (hloop : s'.loop = .found clientSocket bindMsg vc ∨ s'.loop = .accumulating clientSocket bindMsg) :
    Tearing s' clientSocket bindMsg vc nextVc where
  loop := hloop
  owner := h.clientId.trans hs.owner
  nextVc := h.nextVc.trans hs.nextVc
  peer hremoved := h.peers (hs.peer (by rw [← h.callback]; exact hremoved))
  udp := by rw [h.udpOpen, h.callback, hs.udp]

/-- A step that changes one channel, and not its callback. -/
lemma leaves_of_update {vc' : VcId} {channel : Channel}
    (h : s'.channels = Function.update s.channels vc' channel)
    (hclient : channel.clientId = (s.channels vc').clientId)
    (hcallback : channel.callback = (s.channels vc').callback)
    (hudp : channel.udpOpen = (s.channels vc').udpOpen) (hnext : s'.nextVc = s.nextVc)
    (htables : s'.tables = s.tables) : Leaves s s' bindMsg vc := by
  have hpeers : s.tables.peers bindMsg.clientId = none → s'.tables.peers bindMsg.clientId = none := by
    rw [htables]
    exact id
  by_cases hvc : vc = vc'
  · subst hvc
    have hself : s'.channels vc = channel := by rw [h, Function.update_self]
    exact ⟨by rw [hself, hclient], by rw [hself, hcallback], by rw [hself, hudp], hnext, hpeers⟩
  · have hother : s'.channels vc = s.channels vc := by rw [h, Function.update_of_ne hvc]
    exact ⟨by rw [hother], by rw [hother], by rw [hother], hnext, hpeers⟩

lemma leaves_refl (s : AcceptLoop) (bindMsg : MsgBind) (vc : VcId) : Leaves s s bindMsg vc :=
  ⟨rfl, rfl, rfl, rfl, fun h => h⟩

lemma leaves_closeVc (s : AcceptLoop) (bindMsg : MsgBind) (vc vc' : VcId) :
    Leaves s (s.closeVc vc') bindMsg vc := by
  unfold closeVc
  simp only
  split_ifs
  · apply leaves_of_update
    all_goals rfl
  · exact leaves_refl s bindMsg vc

lemma leaves_die (s : AcceptLoop) (bindMsg : MsgBind) (vc vc' : VcId) (slotIndex : ℕ) :
    Leaves s (s.die vc' slotIndex) bindMsg vc := by
  unfold die
  simp only
  split
  · split_ifs
    · apply leaves_of_update
      all_goals rfl
    · exact leaves_refl s bindMsg vc
  · exact leaves_refl s bindMsg vc

/-- The callback of another channel. -/
lemma leaves_callbackStep (s : AcceptLoop) (bindMsg : MsgBind) {vc vc' : VcId} (hne : vc ≠ vc') :
    Leaves s (s.callbackStep vc') bindMsg vc := by
  have hother : ∀ channel, (s.setChannel vc' channel).channels vc = s.channels vc := fun channel =>
    Function.update_of_ne hne ..
  have hremove : s.tables.peers bindMsg.clientId = none →
      (s.tables.removePeer (s.channels vc').clientId).peers bindMsg.clientId = none := by
    intro h
    simp only [removePeer, Function.update_apply, h, ite_self]
  unfold callbackStep
  simp only
  split
  · exact ⟨by simp only [setTables, hother], by simp only [setTables, hother],
      by simp only [setTables, hother], rfl, fun h => h⟩
  · exact ⟨by simp only [setTables, hother], by simp only [setTables, hother],
      by simp only [setTables, hother], rfl, hremove⟩
  · exact ⟨by rw [hother], by rw [hother], by rw [hother], rfl, fun h => h⟩
  · exact ⟨by simp only [setTables, hother], by simp only [setTables, hother],
      by simp only [setTables, hother], rfl, fun h => h⟩
  · exact leaves_refl s bindMsg vc
  · exact leaves_refl s bindMsg vc

/-- The close and the removal of the stale channel. -/
lemma tearing_handleFound (ht : Tearing s clientSocket bindMsg vc nextVc)
    (hinit : bindMsg.slotIndex < 0) :
    Tearing (s.handleFound clientSocket bindMsg vc) clientSocket bindMsg vc nextVc := by
  have hclose := leaves_closeVc s bindMsg vc vc
  rw [handleFound_stale hinit]
  refine ht.of_leaves ?_ (Or.inr rfl)
  exact ⟨hclose.clientId, hclose.callback, hclose.udpOpen, hclose.nextVc, fun h => h⟩

/-- All connections are found dead: the callback comes next. -/
lemma tearing_allDead (hs : Inv s) (ht : Tearing s clientSocket bindMsg vc nextVc) (vc' : VcId) :
    Tearing (s.allDead vc') clientSocket bindMsg vc nextVc := by
  have hloop := ht.loop
  rw [← loop_allDead s vc'] at hloop
  unfold allDead at hloop ⊢
  simp only at hloop ⊢
  split at hloop
  · rename_i hdead
    rw [if_pos hdead]
    by_cases hvc : vc' = vc
    · -- the channel is still open, so nothing of its callback has run
      subst hvc
      obtain ⟨hidle, hudp⟩ := hs.opened vc' hdead.1
      refine ⟨hloop, ?_, ht.nextVc, ?_, ?_⟩
      all_goals simp only [setChannel, Function.update_self, hidle]
      · exact ht.owner
      · intro h
        split_ifs at h <;> cases h
      · split_ifs <;> exact hudp
    · have hother : (s.setChannel vc' { s.channels vc' with
          opened := false
          callback := if (s.channels vc').hasDisconnectCallback then .removingVc
            else (s.channels vc').callback }).channels vc = s.channels vc :=
        Function.update_of_ne (Ne.symm hvc) ..
      refine ht.of_leaves ?_ hloop
      exact ⟨by rw [hother], by rw [hother], by rw [hother], rfl, fun h => h⟩
  · rename_i hdead
    rw [if_neg hdead]
    exact ht

/-- The callback of the channel takes its next action. -/
lemma tearing_callbackStep (ht : Tearing s clientSocket bindMsg vc nextVc) (vc' : VcId) :
    Tearing (s.callbackStep vc') clientSocket bindMsg vc nextVc := by
  have hloop := ht.loop
  rw [← loop_callbackStep s vc'] at hloop
  by_cases hvc : vc = vc'
  · subst hvc
    have hudp := ht.udp
    have hpeer := ht.peer
    unfold callbackStep at hloop ⊢
    simp only at hloop ⊢
    split at hloop
    all_goals
      rename_i hpc
      rw [hpc] at hudp hpeer
    · refine ⟨hloop, ?_, ht.nextVc, ?_, ?_⟩
      all_goals simp only [setTables, setChannel, Function.update_self]
      · exact ht.owner
      · intro h
        cases h
      · exact hudp
    · refine ⟨hloop, ?_, ht.nextVc, ?_, ?_⟩
      all_goals simp only [setTables, setChannel, Function.update_self]
      · exact ht.owner
      · rw [ht.owner]
        exact fun _ => Function.update_self ..
      · exact hudp
    · refine ⟨hloop, ?_, ht.nextVc, ?_, ?_⟩
      all_goals simp only [setChannel, Function.update_self]
      · exact ht.owner
      · exact fun _ => hpeer rfl
      · rfl
    · refine ⟨hloop, ?_, ht.nextVc, ?_, ?_⟩
      all_goals simp only [setTables, setChannel, Function.update_self]
      · exact ht.owner
      · exact fun _ => hpeer rfl
      · exact hudp
    · exact ht
    · exact ht
  · exact ht.of_leaves (leaves_callbackStep s bindMsg hvc) hloop

lemma tearing_step (hs : Inv s) (ht : Tearing s clientSocket bindMsg vc nextVc)
    (hinit : bindMsg.slotIndex < 0) {e : Event} (hbusy : (step s e).loop.Busy) :
    Tearing (step s e) clientSocket bindMsg vc nextVc := by
  cases e with
  | accepted fd results =>
    have hnot : ¬ (s.loop = .accepting ∧ s.isOpen fd = false) := by
      rintro ⟨hacc, -⟩
      rcases ht.loop with hloop | hloop
      · cases hacc.symm.trans hloop
      · cases hacc.symm.trans hloop
    rw [step, accepted, if_neg hnot]
    exact ht
  | accept udp =>
    rcases ht.loop with hloop | hloop
    · have hstep : s.acceptStep udp = s.handleFound clientSocket bindMsg vc := by
        unfold acceptStep
        rw [hloop]
      rw [step, hstep]
      exact tearing_handleFound ht hinit
    · -- that is the last action
      rw [step, acceptStep_accumulating hloop] at hbusy
      rcases idle_accumulate s clientSocket bindMsg udp with hidle | hidle
      · rw [hidle] at hbusy
        exact hbusy.elim
      · rw [hidle] at hbusy
        exact hbusy.elim
  | die vc' slotIndex =>
    refine ht.of_leaves (leaves_die s bindMsg vc vc' slotIndex) ?_
    rw [step, loop_die]
    exact ht.loop
  | allDead vc' => exact tearing_allDead hs ht vc'
  | callback vc' => exact tearing_callbackStep ht vc'

variable {events : ℕ → Event} {n k : ℕ}

/-- The socket is handed over to the handling. -/
lemma StaleHandling.tearing_first (h : StaleHandling events n k clientSocket bindMsg vc) :
    Tearing (stateAt events (n + 1)) clientSocket bindMsg vc (stateAt events n).nextVc := by
  obtain ⟨results, hevent, hbind⟩ := h.received
  obtain ⟨hidle, hudp⟩ := (inv_stateAt events n).opened vc h.opened
  have hstep : stateAt events (n + 1)
      = ((stateAt events n).openSocket clientSocket).goto (.found clientSocket bindMsg vc) := by
    show step (stateAt events n) (events n) = _
    rw [hevent, step, accepted_eq h.accepting h.fresh, hbind]
    simp only [h.registered]
  rw [hstep]
  refine ⟨Or.inl rfl, (inv_stateAt events n).owner _ vc h.registered, rfl, ?_, ?_⟩
  · intro hremoved
    have hpc : ((stateAt events n).channels vc).callback.removedPeer = true := hremoved
    rw [hidle] at hpc
    cases hpc
  · show ((stateAt events n).channels vc).udpOpen = !((stateAt events n).channels vc).callback.closedUdp
    rw [hidle, hudp]
    rfl

lemma StaleHandling.tearing (h : StaleHandling events n k clientSocket bindMsg vc) {m : ℕ}
    (hnm : n < m) (hmk : m ≤ k) :
    Tearing (stateAt events m) clientSocket bindMsg vc (stateAt events n).nextVc := by
  induction m, Nat.succ_le_of_lt hnm using Nat.le_induction with
  | base => exact h.tearing_first
  | succ m hm ih =>
    have ht := ih hm (Nat.le_of_succ_le hmk)
    exact tearing_step (inv_stateAt events m) ht h.initial (h.busy (m + 1) hnm hmk)

/-! ## The teardown is complete -/

lemma nextVc_setUp (s : AcceptLoop) (vc : VcId) (udp : UdpResult) :
    (s.setUp vc udp).nextVc = s.nextVc := by
  cases udp <;> rfl

lemma removedPeer_of_closedUdp {pc : CallbackPc} (h : pc.closedUdp = true) :
    pc.removedPeer = true := by
  cases pc <;> first | rfl | cases h

/-- Nothing is created: the socket found room in the peer. -/
lemma room_of_nextVc (hvc : s.tables.vcs bindMsg.clientId = none) {udp : UdpResult}
    (h : (s.accumulate clientSocket bindMsg udp).nextVc = s.nextVc) :
    (s.waiting bindMsg.clientId).length + 1 < vcTcpConnections := by
  by_contra hroom
  rw [accumulate_of_full hvc (not_lt.mp hroom), nextVc_setUp] at h
  exact absurd h (Nat.succ_ne_self _)

/-- What is left for the last action when the callback has run. -/
lemma tornDown_of_calledBack (ht : Tearing s clientSocket bindMsg vc nextVc)
    (hvc : s.tables.vcs bindMsg.clientId = none) (h : CalledBack s bindMsg vc clientSocket)
    (udp : UdpResult) : s'.nextVc = nextVc →
    TornDown s' (s.accumulate clientSocket bindMsg udp) bindMsg vc clientSocket := by
  intro hnext
  obtain ⟨socketToConnId, hreg⟩ := registerSocket_eq s.tables clientSocket bindMsg
  have hpeer := ht.peer (removedPeer_of_closedUdp h.closedUdp)
  have hwaiting : s.waiting bindMsg.clientId = [] := by rw [waiting, hpeer]; rfl
  have hudp := ht.udp
  rw [h.closedUdp] at hudp
  rw [accumulate_of_room hvc (by rw [hwaiting]; decide), hwaiting, hreg]
  refine ⟨hvc, ?_, h.socketOpen, h.noSlots, hudp, ht.nextVc.trans hnext.symm⟩
  exact Function.update_self ..

/-- Whatever is left over, the last action does not clear it. -/
lemma calledBack_of_tornDown (ht : Tearing s clientSocket bindMsg vc nextVc)
    (hvc : s.tables.vcs bindMsg.clientId = none) {udp : UdpResult} (hnext : s'.nextVc = nextVc)
    (h : TornDown s' (s.accumulate clientSocket bindMsg udp) bindMsg vc clientSocket) :
    CalledBack s bindMsg vc clientSocket := by
  obtain ⟨socketToConnId, hreg⟩ := registerSocket_eq s.tables clientSocket bindMsg
  have hroom := room_of_nextVc hvc (h.noneCreated.trans (hnext.trans ht.nextVc.symm))
  rw [accumulate_of_room hvc hroom, hreg] at h
  refine ⟨?_, h.noSlots, h.socketOpen⟩
  -- only the callback closes the UDP socket
  have hudp := ht.udp
  rw [show (s.channels vc).udpOpen = false from h.udpClosed] at hudp
  cases hclosed : (s.channels vc).callback.closedUdp with
  | true => rfl
  | false =>
    rw [hclosed] at hudp
    cases hudp

/-- The teardown of a stale channel is complete exactly when its disconnect callback has got
as far as closing the UDP socket when the loop comes to `AddPeer`. -/
theorem tornDown_iff (h : StaleHandling events n k clientSocket bindMsg vc) :
    TornDown (stateAt events n) (stateAt events (k + 1)) bindMsg vc clientSocket ↔
      CalledBack (stateAt events k) bindMsg vc clientSocket := by
  have ht := h.tearing h.lt le_rfl
  have hvc : (stateAt events k).tables.vcs bindMsg.clientId = none := by
    have hok := (inv_stateAt events k).loop
    rw [h.accumulating] at hok
    exact hok
  obtain ⟨udp, hlast⟩ := h.last
  have hstep : stateAt events (k + 1)
      = (stateAt events k).accumulate clientSocket bindMsg udp := by
    show step (stateAt events k) (events k) = _
    rw [hlast, step, acceptStep_accumulating h.accumulating]
  rw [hstep]
  constructor
  · exact calledBack_of_tornDown ht hvc rfl
  · exact fun hcalled => tornDown_of_calledBack ht hvc hcalled udp rfl

/-- After the 32 sockets of client 7, the connections die, and a new initial connection comes
before `disconnectCB` has found them dead. -/
def restarts (n : ℕ) : Event :=
  if n < 64 then connects n
  else if n < 96 then .die 0 (n - 64)
  else [.accepted 200 [.bytes [7, 0, 0, 0, 255, 0, 0, 0, 33, 0, 0, 0]], .allDead 0, .callback 0,
    .callback 0, .callback 0, .callback 0, .accept .bound].getD (n - 96) (.accept .bound)

/-- The channel of client 7 is open when the new connection comes. -/
lemma restarts_start : (stateAt restarts 96).loop = .accepting
    ∧ (stateAt restarts 96).isOpen 200 = false
    ∧ (stateAt restarts 96).tables.vcs (⟨7, -1, 33⟩ : MsgBind).clientId = some 0
    ∧ ((stateAt restarts 96).channels 0).opened = true := by decide +kernel

/-- The callback has run in the meantime. -/
lemma restarts_last : (stateAt restarts 103).loop = .accumulating 200 ⟨7, -1, 33⟩
    ∧ CalledBack (stateAt restarts 103) ⟨7, -1, 33⟩ 0 200 := by
  have hlast : (stateAt restarts 103).loop = .accumulating 200 ⟨7, -1, 33⟩
      ∧ ((stateAt restarts 103).channels 0).callback.closedUdp = true
      ∧ (stateAt restarts 103).tables.clientConnSlots (⟨7, -1, 33⟩ : MsgBind).clientId = none
      ∧ (stateAt restarts 103).isOpen 200 = true := by decide +kernel
  exact ⟨hlast.1, hlast.2.1, hlast.2.2.1, hlast.2.2.2⟩

lemma staleHandling_restarts : StaleHandling restarts 96 103 200 ⟨7, -1, 33⟩ 0 where
  accepting := restarts_start.1
  fresh := restarts_start.2.1
  received := ⟨_, rfl, by decide +kernel⟩
  initial := by decide
  registered := restarts_start.2.2.1
  opened := restarts_start.2.2.2
  lt := by decide
  busy m hm hmk := by
    have hall : ∀ i < 7, (stateAt restarts (97 + i)).loop.Busy := by decide +kernel
    obtain ⟨i, rfl⟩ := Nat.exists_eq_add_of_le (Nat.succ_le_of_lt hm)
    exact hall i (by omega)
  last := ⟨.bound, rfl⟩
  accumulating := restarts_last.1

/-- The teardown is complete. -/
theorem tornDown_iff_restarts :
    TornDown (stateAt restarts 96) (stateAt restarts 104) ⟨7, -1, 33⟩ 0 200 :=
  (tornDown_iff staleHandling_restarts).mpr restarts_last.2

/-- A new initial connection while the channel lives. -/
def reconnects (n : ℕ) : Event :=
  if n = 64 then .accepted 200 [.bytes [7, 0, 0, 0, 255, 0, 0, 0, 33, 0, 0, 0]]
  else connects n

/-- The channel of client 7 is open, and the peer keeps its sockets. -/
lemma reconnects_start : (stateAt reconnects 64).loop = .accepting
    ∧ (stateAt reconnects 64).isOpen 200 = false
    ∧ (stateAt reconnects 64).tables.vcs (⟨7, -1, 33⟩ : MsgBind).clientId = some 0
    ∧ ((stateAt reconnects 64).channels 0).opened = true := by decide +kernel

lemma staleHandling_reconnects : StaleHandling reconnects 64 67 200 ⟨7, -1, 33⟩ 0 where
  accepting := reconnects_start.1
  fresh := reconnects_start.2.1
  received := ⟨_, rfl, by decide +kernel⟩
  initial := by decide
  registered := reconnects_start.2.2.1
  opened := reconnects_start.2.2.2
  lt := by decide
  busy m hm hmk := by
    have hall : ∀ i < 3, (stateAt reconnects (65 + i)).loop.Busy := by decide +kernel
    obtain ⟨i, rfl⟩ := Nat.exists_eq_add_of_le (Nat.succ_le_of_lt hm)
    exact hall i (by omega)
  last := ⟨.bound, rfl⟩
  accumulating := by decide +kernel

/-- The new socket is closed, and a channel is created from the old ones. -/
theorem stale_sockets_become_channel : ¬ ∀ (events : ℕ → Event) (n k : ℕ)
    (clientSocket : SocketFd) (bindMsg : MsgBind) (vc : VcId),
    StaleHandling events n k clientSocket bindMsg vc →
    TornDown (stateAt events n) (stateAt events (k + 1)) bindMsg vc clientSocket := by
  intro h
  have hclosed : (stateAt reconnects (67 + 1)).isOpen 200 = false := by decide +kernel
  have htorn := h reconnects 64 67 200 ⟨7, -1, 33⟩ 0 staleHandling_reconnects
  generalize stateAt reconnects (67 + 1) = s at hclosed htorn
  exact Bool.false_ne_true (hclosed.symm.trans htorn.socketOpen)

end AcceptLoop
end TcpUdp
