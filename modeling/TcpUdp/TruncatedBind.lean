import TcpUdp.AcceptLoopTheorems

/-!
# A handshake that breaks off

A connection that is closed after one to eleven bytes of its `MsgBind` is not refused: the
rest of the message is read as zeros, and the dead socket replaces slot 0 of the client's
channel, tears the channel down, or waits in the client's peer. Only where the zeros make it an
excess socket does nothing happen (`actsOnComplete_iff`).
-/

namespace TcpUdp
namespace AcceptLoop

open ServerTables

variable {s : AcceptLoop} {clientSocket : SocketFd} {results : List RecvReturn} {bindMsg : MsgBind}

/-- The tables, and the slots of the channels that exist. -/
structure Unchanged (s s' : AcceptLoop) : Prop where
  tables : s'.tables = s.tables
  slots : ∀ vc < s.nextVc, (s'.channels vc).connections = (s.channels vc).connections

/-- The iteration acts on a complete `MsgBind`, or it closes the socket and does nothing else. -/
def ActsOnComplete (s : AcceptLoop) (clientSocket : SocketFd) (results : List RecvReturn)
    (udp : UdpResult) : Prop :=
  Complete results ∨
    ((s.acceptConnection clientSocket results udp).isOpen clientSocket = false
      ∧ Unchanged s (s.acceptConnection clientSocket results udp))

/-- There is a channel of the client, and no slot of it for the socket. -/
def Excess (s : AcceptLoop) (bindMsg : MsgBind) : Prop :=
  0 ≤ bindMsg.slotIndex ∧
    ∃ vc, s.tables.vcs bindMsg.clientId = some vc ∧ s.targetSlot bindMsg vc < 0

/-! ## What an iteration does -/

/-- Between two sockets there is nothing to do. -/
def Idle (s : AcceptLoop) : Prop := s.loop = .accepting ∨ s.loop = .stopped

lemma acceptStep_of_idle (h : s.Idle) (udp : UdpResult) : s.acceptStep udp = s := by
  unfold acceptStep
  rcases h with hloop | hloop
  · rw [hloop]
  · rw [hloop]

lemma idle_accumulate (s : AcceptLoop) (clientSocket : SocketFd) (bindMsg : MsgBind)
    (udp : UdpResult) : (s.accumulate clientSocket bindMsg udp).Idle := by
  unfold accumulate
  simp only
  split
  · cases udp with
    | createFails | bindFails => exact Or.inr rfl
    | bound => exact Or.inl rfl
  · exact Or.inl rfl

lemma acceptStep_accumulating (h : s.loop = .accumulating clientSocket bindMsg) (udp : UdpResult) :
    s.acceptStep udp = s.accumulate clientSocket bindMsg udp := by
  unfold acceptStep
  rw [h]

/-- A stale channel is closed and removed. -/
lemma handleFound_stale (hinit : bindMsg.slotIndex < 0) (clientSocket : SocketFd) (vc : VcId) :
    s.handleFound clientSocket bindMsg vc
      = ((s.closeVc vc).setTables (s.tables.removeVc bindMsg.clientId)).goto
          (.accumulating clientSocket bindMsg) := if_pos hinit

/-- There is no slot for the socket. -/
lemma handleFound_excess (hslot : 0 ≤ bindMsg.slotIndex) {vc : VcId}
    (htarget : s.targetSlot bindMsg vc < 0) (clientSocket : SocketFd) :
    s.handleFound clientSocket bindMsg vc = (s.socketClose [clientSocket]).goto .accepting := by
  unfold handleFound
  rw [if_neg (not_lt.mpr hslot)]
  exact if_pos htarget

lemma handleFound_replaces (hslot : 0 ≤ bindMsg.slotIndex) {vc : VcId}
    (htarget : 0 ≤ s.targetSlot bindMsg vc) (clientSocket : SocketFd) :
    s.handleFound clientSocket bindMsg vc
      = ((s.replaceConnection vc (s.targetSlot bindMsg vc).toNat clientSocket).setTables
          (s.tables.registerReplacement bindMsg (s.targetSlot bindMsg vc).toNat)).goto
            .accepting := by
  unfold handleFound
  rw [if_neg (not_lt.mpr hslot)]
  exact if_neg (not_lt.mpr htarget)

section Iteration

variable (hloop : s.loop = .accepting) (hfresh : s.isOpen clientSocket = false)

include hloop hfresh

lemma accepted_eq : s.accepted clientSocket results =
    match receiveBind results with
    | none => s
    | some none => (s.openSocket clientSocket).socketClose [clientSocket]
    | some (some bindMsg) =>
      match s.tables.vcs bindMsg.clientId with
      | some vc => (s.openSocket clientSocket).goto (.found clientSocket bindMsg vc)
      | none => (s.openSocket clientSocket).goto (.accumulating clientSocket bindMsg) :=
  if_pos ⟨hloop, hfresh⟩

/-- No `MsgBind`: the socket is closed. -/
lemma acceptConnection_refused (hbind : receiveBind results = some none) (udp : UdpResult) :
    s.acceptConnection clientSocket results udp
      = (s.openSocket clientSocket).socketClose [clientSocket] := by
  unfold acceptConnection
  rw [accepted_eq hloop hfresh, hbind]
  have hidle : ((s.openSocket clientSocket).socketClose [clientSocket]).Idle := Or.inl hloop
  simp only [acceptStep_of_idle hidle]

lemma acceptConnection_initial (hbind : receiveBind results = some (some bindMsg))
    (hvc : s.tables.vcs bindMsg.clientId = none) (udp : UdpResult) :
    s.acceptConnection clientSocket results udp
      = ((s.openSocket clientSocket).goto (.accumulating clientSocket bindMsg)).accumulate
          clientSocket bindMsg udp := by
  unfold acceptConnection
  rw [accepted_eq hloop hfresh, hbind]
  simp only [hvc]
  have hstep := acceptStep_accumulating (s := (s.openSocket clientSocket).goto
    (.accumulating clientSocket bindMsg)) rfl udp
  rw [hstep, acceptStep_of_idle (idle_accumulate ..)]

lemma acceptConnection_found (hbind : receiveBind results = some (some bindMsg)) {vc : VcId}
    (hvc : s.tables.vcs bindMsg.clientId = some vc) (udp : UdpResult) :
    s.acceptConnection clientSocket results udp
      = (((s.openSocket clientSocket).goto (.found clientSocket bindMsg vc)).handleFound
          clientSocket bindMsg vc).acceptStep udp := by
  unfold acceptConnection
  rw [accepted_eq hloop hfresh, hbind]
  simp only [hvc]
  rfl

end Iteration

/-! ## What it changes -/

lemma tables_setUp (s : AcceptLoop) (vc : VcId) (udp : UdpResult) :
    (s.setUp vc udp).tables = s.tables := by
  cases udp <;> rfl

/-- Enough sockets: the client has the new channel. -/
lemma vcs_accumulate_of_full (hvc : s.tables.vcs bindMsg.clientId = none)
    (hfull : vcTcpConnections ≤ (s.waiting bindMsg.clientId).length + 1) (clientSocket : SocketFd)
    (udp : UdpResult) :
    (s.accumulate clientSocket bindMsg udp).tables.vcs bindMsg.clientId = some s.nextVc := by
  rw [accumulate_of_full hvc hfull, tables_setUp]
  exact Function.update_self ..

lemma peers_accumulate_of_room (hvc : s.tables.vcs bindMsg.clientId = none)
    (hroom : (s.waiting bindMsg.clientId).length + 1 < vcTcpConnections) (clientSocket : SocketFd)
    (udp : UdpResult) :
    (s.accumulate clientSocket bindMsg udp).waiting bindMsg.clientId
      = s.waiting bindMsg.clientId ++ [clientSocket] := by
  rw [accumulate_of_room hvc hroom]
  show (((Function.update _ _ _ : ClientId → Option Peer) _).getD {}).sockets = _
  rw [Function.update_self]
  rfl

/-- Either the socket is in the peer, or there is a channel. -/
lemma tables_accumulate_ne (hvc : s.tables.vcs bindMsg.clientId = none) (clientSocket : SocketFd)
    (udp : UdpResult) : (s.accumulate clientSocket bindMsg udp).tables ≠ s.tables := by
  intro heq
  by_cases hfull : vcTcpConnections ≤ (s.waiting bindMsg.clientId).length + 1
  · have hnew := vcs_accumulate_of_full hvc hfull clientSocket udp
    rw [heq, hvc] at hnew
    cases hnew
  · have hpeer := congrArg List.length
      (peers_accumulate_of_room hvc (not_le.mp hfull) clientSocket udp)
    rw [waiting, heq, List.length_append] at hpeer
    exact absurd hpeer.symm (Nat.succ_ne_self _)

/-- The client has no channel afterwards, or the new one. -/
lemma vcs_accumulate (hvc : s.tables.vcs bindMsg.clientId = none) (clientSocket : SocketFd)
    (udp : UdpResult) :
    (s.accumulate clientSocket bindMsg udp).tables.vcs bindMsg.clientId = none ∨
      (s.accumulate clientSocket bindMsg udp).tables.vcs bindMsg.clientId = some s.nextVc := by
  by_cases hfull : vcTcpConnections ≤ (s.waiting bindMsg.clientId).length + 1
  · exact Or.inr (vcs_accumulate_of_full hvc hfull clientSocket udp)
  · left
    obtain ⟨socketToConnId, hreg⟩ := registerSocket_eq s.tables clientSocket bindMsg
    rw [accumulate_of_room hvc (not_le.mp hfull), hreg]
    exact hvc

/-- A connection that is replaced is another one. -/
lemma slots_replaceConnection_ne (hs : Inv s) {vc : VcId} {slotIndex : ℕ}
    (hlt : slotIndex < (s.channels vc).connections.length) (newFd : SocketFd) :
    ((s.replaceConnection vc slotIndex newFd).channels vc).connections
      ≠ (s.channels vc).connections := by
  intro heq
  unfold replaceConnection at heq
  simp only [if_pos hlt, setChannel, Function.update_self] at heq
  have hget : (s.channels vc).connections[slotIndex]? = some ⟨s.nextConn, some newFd⟩ := by
    rw [← heq]
    exact List.getElem?_set_self hlt
  exact absurd (hs.fresh vc _ (List.mem_of_getElem? hget)) (lt_irrefl _)

/-- The stale channel is not registered any more. -/
lemma tables_handleFound_ne (hs : Inv s) {vc : VcId}
    (hvc : s.tables.vcs bindMsg.clientId = some vc) (hinit : bindMsg.slotIndex < 0)
    (clientSocket : SocketFd) (udp : UdpResult) :
    ((s.handleFound clientSocket bindMsg vc).acceptStep udp).tables ≠ s.tables := by
  have hfound := handleFound_stale (s := s) hinit clientSocket vc
  have hremoved : (s.handleFound clientSocket bindMsg vc).tables.vcs bindMsg.clientId = none := by
    rw [hfound]
    exact Function.update_self ..
  have hnext : (s.handleFound clientSocket bindMsg vc).nextVc = s.nextVc := by
    rw [hfound]
    exact nextVc_closeVc s vc
  rw [acceptStep_accumulating (by rw [hfound]; rfl)]
  intro heq
  rcases vcs_accumulate hremoved clientSocket udp with hnone | hnew
  · rw [heq, hvc] at hnone
    cases hnone
  · rw [heq, hvc, hnext] at hnew
    cases hnew
    exact absurd (hs.bounded.vcs _ _ hvc) (lt_irrefl _)

/-! ## Handshakes act on a complete message -/

/-- The socket of an excess connection is closed. -/
lemma unchanged_of_excess (hloop : s.loop = .accepting) (hfresh : s.isOpen clientSocket = false)
    (hbind : receiveBind results = some (some bindMsg)) (h : s.Excess bindMsg) (udp : UdpResult) :
    (s.acceptConnection clientSocket results udp).isOpen clientSocket = false
      ∧ Unchanged s (s.acceptConnection clientSocket results udp) := by
  obtain ⟨hslot, vc, hvc, htarget⟩ := h
  rw [acceptConnection_found hloop hfresh hbind hvc]
  rw [handleFound_excess (s := (s.openSocket clientSocket).goto (.found clientSocket bindMsg vc))
    hslot htarget, acceptStep_of_idle (Or.inl rfl)]
  exact ⟨if_pos (List.mem_singleton_self _), rfl, fun _ _ => rfl⟩

/-- Whatever else a message leads to changes something. -/
lemma excess_of_unchanged (hs : Inv s) (hloop : s.loop = .accepting)
    (hfresh : s.isOpen clientSocket = false) (hbind : receiveBind results = some (some bindMsg))
    {udp : UdpResult} (h : Unchanged s (s.acceptConnection clientSocket results udp)) :
    s.Excess bindMsg := by
  cases hvc : s.tables.vcs bindMsg.clientId with
  | none =>
    rw [acceptConnection_initial hloop hfresh hbind hvc] at h
    refine absurd h.tables ?_
    apply tables_accumulate_ne
    exact hvc
  | some vc =>
    have hlt := hs.bounded.vcs _ vc hvc
    have hopen : Inv ((s.openSocket clientSocket).goto (.found clientSocket bindMsg vc)) :=
      ⟨hs.bounded, hs.owner, hs.length, hs.fresh, hs.opened, hlt⟩
    rw [acceptConnection_found hloop hfresh hbind hvc] at h
    by_cases hinit : bindMsg.slotIndex < 0
    · refine absurd h.tables ?_
      exact tables_handleFound_ne hopen hvc hinit clientSocket udp
    unfold handleFound at h
    simp only [if_neg hinit] at h
    split_ifs at h with htarget
    · exact ⟨not_lt.mp hinit, vc, hvc, htarget⟩
    · rw [acceptStep_of_idle (Or.inl rfl)] at h
      refine absurd (h.slots vc hlt) ?_
      apply slots_replaceConnection_ne hopen
      have htarget := hopen.targetSlot_lt bindMsg hlt
      rw [hopen.length vc hlt]
      omega

/-- In every reachable state an iteration acts only on a complete `MsgBind`, exactly when the
`MsgBind` is not truncated or the zeros make it an excess socket. -/
theorem actsOnComplete_iff (events : ℕ → Event) (n : ℕ)
    (hloop : (stateAt events n).loop = .accepting)
    (hfresh : (stateAt events n).isOpen clientSocket = false)
    (hreturned : receiveBind results ≠ none) (udp : UdpResult) :
    ActsOnComplete (stateAt events n) clientSocket results udp ↔
      (Truncated results →
        ∃ bindMsg, receiveBind results = some (some bindMsg) ∧ (stateAt events n).Excess bindMsg) := by
  cases hbind : receiveBind results with
  | none => exact absurd hbind hreturned
  | some bind? =>
    cases bind? with
    | none =>
      have hacts : ActsOnComplete (stateAt events n) clientSocket results udp := by
        right
        rw [acceptConnection_refused hloop hfresh hbind]
        exact ⟨if_pos (List.mem_singleton_self _), rfl, fun _ _ => rfl⟩
      exact iff_of_true hacts fun htrunc => absurd htrunc (not_truncated_of_none hbind)
    | some bindMsg =>
      constructor
      · -- a truncated message that changes nothing is excess
        rintro (hcomplete | ⟨-, hsame⟩) htrunc
        · exact absurd htrunc ((complete_iff hbind).mp hcomplete)
        · exact ⟨bindMsg, rfl, excess_of_unchanged (inv_stateAt events n) hloop hfresh hbind hsame⟩
      · intro h
        by_cases htrunc : Truncated results
        · obtain ⟨bindMsg', heq, hexcess⟩ := h htrunc
          cases heq
          exact Or.inr (unchanged_of_excess hloop hfresh hbind hexcess udp)
        · exact Or.inl ((complete_iff hbind).mpr htrunc)

/-- The first 32 sockets of client 7, with the ids 1 to 32. -/
def connects (n : ℕ) : Event :=
  if n % 2 = 0 then
    .accepted (100 + (n / 2 : ℕ))
      [.bytes [7, 0, 0, 0, 255, 0, 0, 0, UInt8.ofNat (n / 2 + 1), 0, 0, 0]]
  else .accept .bound

/-- The channel of client 7 is there, and the loop accepts the next socket. -/
lemma connects_accepting : (stateAt connects 64).loop = .accepting
    ∧ (stateAt connects 64).isOpen 200 = false := by decide +kernel

/-- The connection breaks off after a slot that the channel does not have, and is refused. -/
theorem actsOnComplete_iff_excess :
    ActsOnComplete (stateAt connects 64) 200 [.bytes [7, 0, 0, 0, 40], .bytes []] .bound := by
  have hbind : receiveBind [.bytes [7, 0, 0, 0, 40], .bytes []] = some (some ⟨7, 40, 0⟩) := by
    decide +kernel
  refine (actsOnComplete_iff connects 64 connects_accepting.1 connects_accepting.2
    (by rw [hbind]; decide) .bound).mpr fun _ => ?_
  refine ⟨⟨7, 40, 0⟩, hbind, by decide, 0, ?_⟩
  decide +kernel

/-- The connection breaks off after the client id. -/
def brokenBind : List RecvReturn := [.bytes [7, 0], .bytes [0, 0], .bytes []]

/-- The dead socket has taken slot 0 of the client's channel. -/
lemma brokenBind_replaces_slot :
    ((stateAt connects 64).acceptConnection 200 brokenBind .bound).isOpen 200 = true := by
  decide +kernel

/-- A broken handshake that replaces a connection. -/
theorem acts_on_truncated : ¬ ∀ (events : ℕ → Event) (n : ℕ) (clientSocket : SocketFd)
    (results : List RecvReturn) (udp : UdpResult), (stateAt events n).loop = .accepting →
    (stateAt events n).isOpen clientSocket = false → receiveBind results ≠ none →
    ActsOnComplete (stateAt events n) clientSocket results udp := by
  intro h
  have hbind : receiveBind brokenBind = some (some ⟨7, 0, 0⟩) := by decide +kernel
  have htrunc : Truncated brokenBind := by
    unfold Truncated
    decide +kernel
  rcases h connects 64 200 brokenBind .bound connects_accepting.1 connects_accepting.2
    (by rw [hbind]; decide) with hcomplete | ⟨hclosed, -⟩
  · exact (complete_iff hbind).mp hcomplete htrunc
  · rw [brokenBind_replaces_slot] at hclosed
    cases hclosed

end AcceptLoop
end TcpUdp
