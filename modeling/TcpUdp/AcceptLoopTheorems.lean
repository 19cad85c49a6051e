import TcpUdp.AcceptLoop
import TcpUdp.SessionsTheorems
import Mathlib.Tactic.SplitIfs

/-!
# The accept loop in every reachable state

`Inv`: a channel that was created has 32 connections and the maps lead to slots that it has, a
peer holds at most 32 sockets, connections are numbered in the order of their creation, and an
open channel has its UDP socket and has not called back.
-/

namespace TcpUdp

open Lib

/-! ## Tables -/

namespace ServerTables

variable {t : ServerTables} {n : VcId} {c : ClientId}

/-- The tables of a server with `n` channels. -/
structure Bounded (t : ServerTables) (n : VcId) : Prop where
  vcs : ∀ c vc, t.vcs c = some vc → vc < n
  slots : ∀ c id slot, t.slotMapOf c id = some slot → slot < vcTcpConnections
  peers : ∀ c, ((t.peers c).getD {}).sockets.length ≤ vcTcpConnections

lemma bounded_init : Bounded {} 0 where
  vcs _ _ h := by cases h
  slots _ _ _ h := by cases h
  peers _ := Nat.zero_le _

lemma Bounded.removeVc (h : t.Bounded n) (c : ClientId) : (t.removeVc c).Bounded n where
  vcs c' vc hvc := by
    simp only [ServerTables.removeVc, Function.update_apply] at hvc
    split_ifs at hvc
    exact h.vcs c' vc hvc
  slots := h.slots
  peers := h.peers

lemma Bounded.removePeer (h : t.Bounded n) (c : ClientId) : (t.removePeer c).Bounded n where
  vcs := h.vcs
  slots := h.slots
  peers c' := by
    simp only [ServerTables.removePeer, Function.update_apply]
    split_ifs
    · exact Nat.zero_le _
    · exact h.peers c'

lemma Bounded.eraseSlots (h : t.Bounded n) (c : ClientId) : (t.eraseSlots c).Bounded n where
  vcs := h.vcs
  slots c' id slot hslot := by
    simp only [slotMapOf, ServerTables.eraseSlots, Function.update_apply] at hslot
    split_ifs at hslot
    · cases hslot
    · exact h.slots c' id slot hslot
  peers := h.peers

lemma slotMapOf_setSlotMap_of_ne {c' : ClientId} (hne : c' ≠ c) (slotMap : SlotMap) :
    (t.setSlotMap c slotMap).slotMapOf c' = t.slotMapOf c' := by
  simp only [slotMapOf, setSlotMap, Function.update_of_ne hne]

lemma Bounded.setSlotMap (h : t.Bounded n) {slotMap : SlotMap}
    (hslots : ∀ id slot, slotMap id = some slot → slot < vcTcpConnections) :
    (t.setSlotMap c slotMap).Bounded n where
  vcs := h.vcs
  slots c' id slot hslot := by
    by_cases hc : c' = c
    · subst hc
      rw [slotMapOf_setSlotMap] at hslot
      exact hslots id slot hslot
    · rw [slotMapOf_setSlotMap_of_ne hc] at hslot
      exact h.slots c' id slot hslot
  peers := h.peers

lemma Bounded.registerReplacement (h : t.Bounded n) (bindMsg : MsgBind) {targetSlot : ℕ}
    (htarget : targetSlot < vcTcpConnections) :
    (t.registerReplacement bindMsg targetSlot).Bounded n := by
  unfold ServerTables.registerReplacement
  split_ifs
  · apply h.setSlotMap
    intro id slot hslot
    simp only [Function.update_apply] at hslot
    split_ifs at hslot
    · cases hslot
      exact htarget
    · exact h.slots _ _ _ hslot
  · exact h

/-- Without a channel of the client, the peer gets the socket unless it has enough. -/
lemma Bounded.accumulate (h : t.Bounded n) {bindMsg : MsgBind}
    (hvc : t.vcs bindMsg.clientId = none) (clientSocket : SocketFd) :
    (t.accumulate clientSocket bindMsg).Bounded n := by
  obtain ⟨socketToConnId, hreg⟩ := registerSocket_eq t clientSocket bindMsg
  rw [accumulate_eq hvc, hreg]
  refine ⟨h.vcs, h.slots, fun c' => ?_⟩
  simp only [setPeer, Function.update_apply]
  split_ifs
  · have hle := h.peers bindMsg.clientId
    show (((t.peers bindMsg.clientId).getD {}).addSocket clientSocket).sockets.length ≤ _
    by_cases hexcess : ((t.peers bindMsg.clientId).getD {}).Excess
    · rw [Peer.addSocket_of_excess hexcess]
      exact hle
    · rw [Peer.sockets_addSocket hexcess, List.length_append]
      exact not_le.mp hexcess
  · exact h.peers c'

lemma assignSlots_lt {socketToConnId : SocketFd → Option ConnectionId} {slotMap : SlotMap}
    {fds : List SocketFd} {i slot : ℕ} {id : ConnectionId}
    (h : (assignSlots socketToConnId slotMap fds i).1 id = some slot) :
    slotMap id = some slot ∨ slot < i + fds.length := by
  induction fds generalizing socketToConnId slotMap i with
  | nil => exact Or.inl h
  | cons fd fds ih =>
    rw [List.length_cons]
    unfold assignSlots at h
    split at h
    · rcases ih h with hmap | hlt
      · rw [Function.update_apply] at hmap
        split_ifs at hmap
        · cases hmap
          omega
        · exact Or.inl hmap
      · omega
    · rcases ih h with hmap | hlt
      · exact Or.inl hmap
      · omega

lemma Bounded.createVc (h : t.Bounded n) {fds : List SocketFd}
    (hlen : fds.length = vcTcpConnections) : (t.createVc c n fds).Bounded (n + 1) := by
  have hadd : (t.addVc c n).Bounded (n + 1) := by
    refine ⟨fun c' vc hvc => ?_, h.slots, h.peers⟩
    simp only [addVc, Function.update_apply] at hvc
    split_ifs at hvc
    · cases hvc
      exact Nat.lt_succ_self n
    · exact Nat.lt_succ_of_lt (h.vcs c' vc hvc)
  have hmap : ∀ id slot,
      (assignSlots t.socketToConnId ((t.addVc c n).slotMapOf c) fds 0).1 id = some slot →
        slot < vcTcpConnections := by
    intro id slot hslot
    rcases assignSlots_lt hslot with hold | hlt
    · exact h.slots c id slot hold
    · omega
  have hset := hadd.setSlotMap (c := c) hmap
  exact ⟨hset.vcs, hset.slots, hset.peers⟩

lemma length_of_enoughSockets (h : t.Bounded n) {fds : List SocketFd}
    (hfds : t.enoughSockets c = some fds) : fds.length = vcTcpConnections := by
  have hle := h.peers c
  unfold enoughSockets at hfds
  split at hfds
  · rename_i peer hpeer
    rw [hpeer] at hle
    split_ifs at hfds with hge
    cases hfds
    exact Nat.le_antisymm hle hge
  · cases hfds

lemma connIdSlot_lt (h : t.Bounded n) (bindMsg : MsgBind) :
    t.connIdSlot bindMsg < vcTcpConnections := by
  by_cases hid : bindMsg.connectionId = 0
  · rw [connIdSlot, if_neg (not_not.mpr hid)]
    decide
  · rw [connIdSlot_eq hid]
    cases hslot : t.slotMapOf bindMsg.clientId bindMsg.connectionId with
    | none => decide
    | some slot => exact Nat.cast_lt.mpr (h.slots _ _ _ hslot)

end ServerTables

namespace AcceptLoop

open ServerTables

variable {s : AcceptLoop}

/-! ## The invariant -/

/-- What the loop has found is as it was. -/
def LoopOk (s : AcceptLoop) : LoopPc → Prop
  | .found _ _ vc => vc < s.nextVc
  | .accumulating _ bindMsg => s.tables.vcs bindMsg.clientId = none
  | .accepting | .stopped => True

structure Inv (s : AcceptLoop) : Prop where
  bounded : s.tables.Bounded s.nextVc
  owner : ∀ c vc, s.tables.vcs c = some vc → (s.channels vc).clientId = c
  length : ∀ vc < s.nextVc, (s.channels vc).connections.length = vcTcpConnections
  fresh : ∀ vc, ∀ conn ∈ (s.channels vc).connections, conn.id < s.nextConn
  opened : ∀ vc, (s.channels vc).opened = true →
    (s.channels vc).callback = .idle ∧ (s.channels vc).udpOpen = true
  loop : s.LoopOk s.loop

lemma inv_init : Inv {} where
  bounded := bounded_init
  owner _ _ h := by cases h
  length _ h := absurd h (Nat.not_lt_zero _)
  fresh _ _ h := by cases h
  opened _ h := by cases h
  loop := trivial

lemma Inv.socketClose (hs : Inv s) (fds : List SocketFd) : Inv (s.socketClose fds) :=
  ⟨hs.bounded, hs.owner, hs.length, hs.fresh, hs.opened, hs.loop⟩

lemma Inv.goto (hs : Inv s) (pc : LoopPc) (hpc : s.LoopOk pc) : Inv (s.goto pc) :=
  ⟨hs.bounded, hs.owner, hs.length, hs.fresh, hs.opened, by cases pc <;> exact hpc⟩

/-- No channel is registered by a step that only takes away. -/
lemma Inv.setTables (hs : Inv s) {t : ServerTables} (ht : t.Bounded s.nextVc)
    (hvcs : ∀ c vc, t.vcs c = some vc → s.tables.vcs c = some vc) : Inv (s.setTables t) where
  bounded := ht
  owner c vc h := hs.owner c vc (hvcs c vc h)
  length := hs.length
  fresh := hs.fresh
  opened := hs.opened
  loop := by
    have hloop := hs.loop
    show LoopOk (s.setTables t) s.loop
    cases hpc : s.loop with
    | accumulating fd bindMsg =>
      rw [hpc] at hloop
      apply Option.eq_none_iff_forall_ne_some.mpr
      intro vc hvc
      cases (hvcs _ vc hvc).symm.trans hloop
    | found fd bindMsg vc =>
      rw [hpc] at hloop
      exact hloop
    | accepting | stopped => trivial

lemma Inv.setChannel (hs : Inv s) (vc : VcId) {channel : Channel}
    (howner : channel.clientId = (s.channels vc).clientId)
    (hlen : channel.connections.length = (s.channels vc).connections.length)
    (hfresh : ∀ conn ∈ channel.connections, conn.id < s.nextConn)
    (hopened : channel.opened = true → channel.callback = .idle ∧ channel.udpOpen = true) :
    Inv (s.setChannel vc channel) where
  bounded := hs.bounded
  owner c vc' hvc' := by
    simp only [AcceptLoop.setChannel, Function.update_apply]
    split_ifs with heq
    · subst heq
      rw [howner]
      exact hs.owner c vc' hvc'
    · exact hs.owner c vc' hvc'
  length vc' hvc' := by
    simp only [AcceptLoop.setChannel, Function.update_apply]
    split_ifs with heq
    · subst heq
      rw [hlen]
      exact hs.length vc' hvc'
    · exact hs.length vc' hvc'
  fresh vc' conn hconn := by
    simp only [AcceptLoop.setChannel, Function.update_apply] at hconn
    split_ifs at hconn
    · exact hfresh conn hconn
    · exact hs.fresh vc' conn hconn
  opened vc' hopen := by
    simp only [AcceptLoop.setChannel, Function.update_apply] at hopen ⊢
    split_ifs at hopen ⊢
    · exact hopened hopen
    · exact hs.opened vc' hopen
  loop := hs.loop

/-! ## Each step keeps it -/

lemma tables_closeVc (s : AcceptLoop) (vc : VcId) : (s.closeVc vc).tables = s.tables := by
  unfold closeVc
  simp only
  split_ifs <;> rfl

lemma nextVc_closeVc (s : AcceptLoop) (vc : VcId) : (s.closeVc vc).nextVc = s.nextVc := by
  unfold closeVc
  simp only
  split_ifs <;> rfl

lemma tables_replaceConnection (s : AcceptLoop) (vc : VcId) (slotIndex : ℕ) (newFd : SocketFd) :
    (s.replaceConnection vc slotIndex newFd).tables = s.tables := by
  unfold replaceConnection
  simp only
  split_ifs <;> rfl

lemma nextVc_replaceConnection (s : AcceptLoop) (vc : VcId) (slotIndex : ℕ) (newFd : SocketFd) :
    (s.replaceConnection vc slotIndex newFd).nextVc = s.nextVc := by
  unfold replaceConnection
  simp only
  split_ifs <;> rfl

lemma Inv.closeVc (hs : Inv s) (vc : VcId) : Inv (s.closeVc vc) := by
  unfold AcceptLoop.closeVc
  simp only
  split_ifs
  · apply (hs.socketClose _).setChannel
    · rfl
    · exact List.length_map _
    · intro conn hconn
      obtain ⟨conn', hmem, rfl⟩ := List.mem_map.mp hconn
      exact hs.fresh vc conn' hmem
    · intro h
      cases h
  · exact hs

lemma Inv.replaceConnection (hs : Inv s) (vc : VcId) (slotIndex : ℕ) (newFd : SocketFd) :
    Inv (s.replaceConnection vc slotIndex newFd) := by
  unfold AcceptLoop.replaceConnection
  simp only
  split_ifs
  · have hnext : Inv { s with nextConn := s.nextConn + 1 } :=
      ⟨hs.bounded, hs.owner, hs.length, fun vc conn hconn => Nat.lt_succ_of_lt (hs.fresh vc conn hconn),
        hs.opened, hs.loop⟩
    apply (hnext.socketClose _).setChannel
    · rfl
    · exact List.length_set
    · intro conn hconn
      rcases List.mem_or_eq_of_mem_set hconn with hmem | rfl
      · exact Nat.lt_succ_of_lt (hs.fresh vc conn hmem)
      · exact Nat.lt_succ_self _
    · exact hs.opened vc
  · exact hs

lemma Inv.accepted (hs : Inv s) (clientSocket : SocketFd) (results : List RecvReturn) :
    Inv (s.accepted clientSocket results) := by
  have hopen : Inv (s.openSocket clientSocket) :=
    ⟨hs.bounded, hs.owner, hs.length, hs.fresh, hs.opened, hs.loop⟩
  unfold AcceptLoop.accepted
  split_ifs
  · split
    · exact hs
    · exact hopen.socketClose _
    · split
      · rename_i vc hvc
        exact hopen.goto _ (hs.bounded.vcs _ vc hvc)
      · rename_i hvc
        exact hopen.goto _ hvc
  · exact hs

/-- `Remove` registers nothing. -/
lemma vcs_of_removeVc {t : ServerTables} {c c' : ClientId} {vc : VcId}
    (h : (t.removeVc c).vcs c' = some vc) : t.vcs c' = some vc := by
  simp only [ServerTables.removeVc, Function.update_apply] at h
  split_ifs at h
  exact h

lemma vcs_registerReplacement_eq (t : ServerTables) (bindMsg : MsgBind) (slot : ℕ) :
    (t.registerReplacement bindMsg slot).vcs = t.vcs := by
  obtain ⟨clientConnSlots, heq⟩ := registerReplacement_eq t bindMsg slot
  rw [heq]

/-- The slot exists. -/
lemma Inv.targetSlot_lt (hs : Inv s) (bindMsg : MsgBind) {vc : VcId} (hvc : vc < s.nextVc) :
    s.targetSlot bindMsg vc < vcTcpConnections := by
  have hconn := connIdSlot_lt hs.bounded bindMsg
  unfold targetSlot decideReplaceSlot
  split_ifs with hmapped hslot
  · exact hconn
  · exact hslot.2
  · split
    · rename_i slot rest hdead
      have hmem : slot ∈ (s.channels vc).getDeadSlots := hdead ▸ List.mem_cons_self ..
      have hlt := List.mem_range.mp (List.mem_filter.mp hmem).1
      rw [hs.length vc hvc] at hlt
      exact Nat.cast_lt.mpr hlt
    · decide

lemma Inv.handleFound (hs : Inv s) (clientSocket : SocketFd) (bindMsg : MsgBind) {vc : VcId}
    (hvc : vc < s.nextVc) : Inv (s.handleFound clientSocket bindMsg vc) := by
  unfold AcceptLoop.handleFound
  simp only
  split_ifs with hinit htarget
  · have hclose := hs.closeVc vc
    have hremoved := hclose.setTables (t := s.tables.removeVc bindMsg.clientId)
      (by rw [nextVc_closeVc]; exact hs.bounded.removeVc _)
      (by rw [tables_closeVc]; exact fun c vc h => vcs_of_removeVc h)
    exact hremoved.goto (.accumulating clientSocket bindMsg) (Function.update_self ..)
  · exact (hs.socketClose _).goto .accepting trivial
  · have hlt := hs.targetSlot_lt bindMsg hvc
    have hreplace := hs.replaceConnection vc (s.targetSlot bindMsg vc).toNat clientSocket
    have hregistered := hreplace.setTables
      (t := s.tables.registerReplacement bindMsg (s.targetSlot bindMsg vc).toNat)
      (by
        rw [nextVc_replaceConnection]
        exact hs.bounded.registerReplacement bindMsg (by omega))
      (by
        rw [tables_replaceConnection, vcs_registerReplacement_eq]
        exact fun c vc h => h)
    exact hregistered.goto .accepting trivial

lemma Inv.createVc (hs : Inv s) (c : ClientId) {fds : List SocketFd}
    (hlen : fds.length = vcTcpConnections) : Inv ((s.createVc c fds).goto .accepting) where
  bounded := hs.bounded.createVc hlen
  owner c' vc hvc := by
    have hadd : (Function.update s.tables.vcs c (some s.nextVc)) c' = some vc := hvc
    simp only [AcceptLoop.goto, AcceptLoop.createVc, AcceptLoop.setChannel]
    rw [Function.update_apply] at hadd
    split_ifs at hadd with hc
    · cases hadd
      rw [Function.update_self]
      exact hc.symm
    · rw [Function.update_of_ne (Nat.ne_of_lt (hs.bounded.vcs c' vc hadd))]
      exact hs.owner c' vc hadd
  length vc hvc := by
    simp only [AcceptLoop.goto, AcceptLoop.createVc, AcceptLoop.setChannel, Function.update_apply]
    split_ifs with heq
    · exact List.length_mapIdx.trans hlen
    · exact hs.length vc (Nat.lt_of_le_of_ne (Nat.le_of_lt_succ hvc) heq)
  fresh vc conn hconn := by
    show conn.id < s.nextConn + fds.length
    simp only [AcceptLoop.goto, AcceptLoop.createVc, AcceptLoop.setChannel, Function.update_apply] at hconn
    split_ifs at hconn
    · obtain ⟨i, hi, rfl⟩ := List.mem_mapIdx.mp hconn
      exact Nat.add_lt_add_left hi _
    · exact Nat.lt_add_right _ (hs.fresh vc conn hconn)
  opened vc hopen := by
    simp only [AcceptLoop.goto, AcceptLoop.createVc, AcceptLoop.setChannel, Function.update_apply] at hopen ⊢
    split_ifs at hopen ⊢
    exact hs.opened vc hopen
  loop := trivial

lemma callback_createVc (s : AcceptLoop) (c : ClientId) (fds : List SocketFd) :
    ((s.createVc c fds).channels s.nextVc).callback = .idle := by
  simp only [AcceptLoop.createVc, AcceptLoop.setChannel, Function.update_self]

lemma Inv.setUp (hs : Inv (s.goto .accepting)) {vc : VcId}
    (hidle : (s.channels vc).callback = .idle) (udp : UdpResult) : Inv (s.setUp vc udp) := by
  cases udp with
  | createFails | bindFails => exact hs.goto .stopped trivial
  | bound => exact hs.setChannel vc rfl rfl (hs.fresh vc) fun _ => ⟨hidle, rfl⟩

lemma Inv.accumulate (hs : Inv s) (clientSocket : SocketFd) {bindMsg : MsgBind}
    (hvc : s.tables.vcs bindMsg.clientId = none) (udp : UdpResult) :
    Inv (s.accumulate clientSocket bindMsg udp) := by
  have hloop : Inv (s.goto .accepting) := hs.goto .accepting trivial
  have hvcs : ∀ c vc, (s.tables.accumulate clientSocket bindMsg).vcs c = some vc →
      s.tables.vcs c = some vc := by
    obtain ⟨socketToConnId, hreg⟩ := registerSocket_eq s.tables clientSocket bindMsg
    rw [accumulate_eq hvc, hreg]
    exact fun c vc h => h
  have hacc := (hloop.socketClose (Sessions.closedByAccumulate s.tables clientSocket bindMsg)).setTables
    (hs.bounded.accumulate hvc clientSocket) hvcs
  unfold AcceptLoop.accumulate
  simp only
  split
  · rename_i fds hfds
    have hcreate := hacc.createVc bindMsg.clientId (length_of_enoughSockets hacc.bounded hfds)
    exact Inv.setUp hcreate (callback_createVc _ _ _) udp
  · exact hacc

lemma Inv.acceptStep (hs : Inv s) (udp : UdpResult) : Inv (s.acceptStep udp) := by
  have hloop := hs.loop
  unfold AcceptLoop.acceptStep
  split
  · rename_i clientSocket bindMsg vc hpc
    rw [hpc] at hloop
    exact hs.handleFound clientSocket bindMsg hloop
  · rename_i clientSocket bindMsg hpc
    rw [hpc] at hloop
    exact hs.accumulate clientSocket hloop udp
  · exact hs
  · exact hs

lemma Inv.die (hs : Inv s) (vc : VcId) (slotIndex : ℕ) : Inv (s.die vc slotIndex) := by
  unfold AcceptLoop.die
  simp only
  split
  · rename_i conn hconn
    split_ifs with hopen
    · apply (hs.socketClose _).setChannel
      · rfl
      · exact List.length_set
      · intro conn' hconn'
        rcases List.mem_or_eq_of_mem_set hconn' with hmem | rfl
        · exact hs.fresh vc conn' hmem
        · exact hs.fresh vc conn (List.mem_of_getElem? hconn)
      · exact hs.opened vc
    · exact hs
  · exact hs

lemma Inv.allDead (hs : Inv s) (vc : VcId) : Inv (s.allDead vc) := by
  unfold AcceptLoop.allDead
  simp only
  split
  · apply hs.setChannel
    · rfl
    · rfl
    · exact hs.fresh vc
    · intro h
      cases h
  · exact hs

/-- A channel whose callback is running is not open. -/
lemma Inv.not_opened (hs : Inv s) {vc : VcId} (h : (s.channels vc).callback ≠ .idle) :
    ¬ (s.channels vc).opened = true := fun hopen => h (hs.opened vc hopen).1

lemma Inv.callbackStep (hs : Inv s) (vc : VcId) : Inv (s.callbackStep vc) := by
  -- the channel of a running callback is not open, and nothing more is asked of it
  have hset : ∀ {pc₀ : CallbackPc}, (s.channels vc).callback = pc₀ → pc₀ ≠ .idle →
      ∀ pc udpOpen,
        Inv (s.setChannel vc { s.channels vc with callback := pc, udpOpen := udpOpen }) := by
    intro pc₀ hpc hne pc udpOpen
    refine hs.setChannel vc rfl rfl (hs.fresh vc) fun hopen => ?_
    exact absurd hopen (hs.not_opened (by rw [hpc]; exact hne))
  unfold AcceptLoop.callbackStep
  simp only
  split
  · rename_i hpc
    exact (hset hpc nofun _ _).setTables (hs.bounded.removeVc _) fun _ _ h => vcs_of_removeVc h
  · rename_i hpc
    exact (hset hpc nofun _ _).setTables (hs.bounded.removePeer _) fun _ _ h => h
  · rename_i hpc
    exact hset hpc nofun _ _
  · rename_i hpc
    exact (hset hpc nofun _ _).setTables (hs.bounded.eraseSlots _) fun _ _ h => h
  · exact hs
  · exact hs

theorem inv_step (hs : Inv s) (e : Event) : Inv (step s e) := by
  cases e with
  | accepted clientSocket results => exact hs.accepted clientSocket results
  | accept udp => exact hs.acceptStep udp
  | die vc slotIndex => exact hs.die vc slotIndex
  | allDead vc => exact hs.allDead vc
  | callback vc => exact hs.callbackStep vc

theorem inv_stateAt (events : ℕ → Event) (n : ℕ) : Inv (stateAt events n) := by
  apply runState_invariant (Q := fun _ => True) inv_init
  · exact fun _ e _ hs => inv_step hs e
  · exact fun _ => trivial

/-! ## What accumulating does -/

section Accumulate

variable {bindMsg : MsgBind}

/-- The sockets in the client's peer. -/
def waiting (s : AcceptLoop) (c : ClientId) : List SocketFd :=
  ((s.tables.peers c).getD {}).sockets

lemma enoughSockets_accumulate (hvc : s.tables.vcs bindMsg.clientId = none)
    (clientSocket : SocketFd) :
    (s.tables.accumulate clientSocket bindMsg).enoughSockets bindMsg.clientId
      = if vcTcpConnections ≤ (s.waiting bindMsg.clientId).length + 1 then
          some (((s.tables.peers bindMsg.clientId).getD {}).addSocket clientSocket).sockets
        else none := by
  rw [accumulate_eq hvc, Sessions.enoughSockets_setPeer]
  by_cases hexcess : ((s.tables.peers bindMsg.clientId).getD {}).Excess
  · have hlen : vcTcpConnections ≤ (s.waiting bindMsg.clientId).length := hexcess
    rw [Peer.addSocket_of_excess hexcess, if_pos (Nat.le_succ_of_le hlen)]
    exact if_pos hlen
  · rw [Peer.sockets_addSocket hexcess, List.length_append]
    rfl

/-- The socket waits for more. -/
lemma accumulate_of_room (hvc : s.tables.vcs bindMsg.clientId = none)
    (hroom : (s.waiting bindMsg.clientId).length + 1 < vcTcpConnections) (clientSocket : SocketFd)
    (udp : UdpResult) :
    s.accumulate clientSocket bindMsg udp
      = (s.setTables ((s.tables.registerSocket clientSocket bindMsg).setPeer bindMsg.clientId
          { sockets := s.waiting bindMsg.clientId ++ [clientSocket] })).goto .accepting := by
  have hfew := enoughSockets_accumulate hvc clientSocket
  rw [if_neg (not_le.mpr hroom)] at hfew
  have hexcess : ¬ ((s.tables.peers bindMsg.clientId).getD {}).Excess :=
    not_le.mpr (Nat.lt_of_succ_lt hroom)
  have hclosed : s.socketClose (Sessions.closedByAccumulate s.tables clientSocket bindMsg) = s := by
    rw [Sessions.closedByAccumulate_eq hvc, if_neg hexcess]
    rfl
  have hpeer : ((s.tables.peers bindMsg.clientId).getD {}).addSocket clientSocket
      = { sockets := s.waiting bindMsg.clientId ++ [clientSocket] } := if_neg hexcess
  unfold accumulate
  simp only [hclosed, setTables, hfew]
  rw [accumulate_eq hvc, hpeer]

/-- There are enough sockets, and they become a channel. -/
lemma accumulate_of_full (hvc : s.tables.vcs bindMsg.clientId = none)
    (hfull : vcTcpConnections ≤ (s.waiting bindMsg.clientId).length + 1) (clientSocket : SocketFd)
    (udp : UdpResult) :
    s.accumulate clientSocket bindMsg udp
      = (((s.socketClose (Sessions.closedByAccumulate s.tables clientSocket bindMsg)).setTables
          (s.tables.accumulate clientSocket bindMsg)).createVc bindMsg.clientId
            (((s.tables.peers bindMsg.clientId).getD {}).addSocket clientSocket).sockets).setUp
          s.nextVc udp := by
  have henough := enoughSockets_accumulate hvc clientSocket
  rw [if_pos hfull] at henough
  unfold accumulate
  simp only [setTables, henough]
  rfl

end Accumulate

end AcceptLoop
end TcpUdp
