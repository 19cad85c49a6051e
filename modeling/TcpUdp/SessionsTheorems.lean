import TcpUdp.SessionLedger

/-!
# Session agreement

Each step of the server and its clients is a step of the ledger. A channel is made of the
sockets of one attempt exactly when the peer that it is made from was started by the first
socket of the attempt that completes it (`agreement_iff`). `mixes_attempts` is a run in which
an attempt that stopped after one socket has left that socket behind.
-/

namespace TcpUdp
namespace Sessions

open Lib ServerTables

variable {s : Sessions}

/-! ## Steps of the ledger -/

def ledger (s : Sessions) : Ledger where
  channelOf := s.tables.vcs
  waiting := s.waiting
  channels := s.channels
  nextVc := s.nextVc
  origin := s.origin
  clients := s.clients
  created := s.created

lemma waiting_setPeer (t : ServerTables) (c : ClientId) (peer : Peer) :
    (fun c' => (((t.setPeer c peer).peers c').getD {}).sockets)
      = Function.update (fun c' => ((t.peers c').getD {}).sockets) c peer.sockets := by
  funext c'
  rw [Function.update_apply]
  show ((Function.update t.peers c (some peer) c').getD {}).sockets = _
  rw [Function.update_apply]
  split_ifs <;> rfl

/-- Enough sockets: the count decides. -/
lemma enoughSockets_setPeer (t : ServerTables) (c : ClientId) (peer : Peer) :
    (t.setPeer c peer).enoughSockets c
      = if vcTcpConnections ≤ peer.sockets.length then some peer.sockets else none := by
  have hpeer : (t.setPeer c peer).peers c = some peer := Function.update_self ..
  unfold enoughSockets
  rw [hpeer]
  rfl

/-- What an initial socket closes: itself, when there are enough. -/
lemma closedByAccumulate_eq {t : ServerTables} {bindMsg : MsgBind}
    (h : t.vcs bindMsg.clientId = none) (clientSocket : SocketFd) :
    closedByAccumulate t clientSocket bindMsg
      = if ((t.peers bindMsg.clientId).getD {}).Excess then [clientSocket] else [] := by
  obtain ⟨socketToConnId, hreg⟩ := registerSocket_eq t clientSocket bindMsg
  rw [closedByAccumulate, hreg]
  simp only [flushedByAddPeer, addPeer, h]
  cases hpeer : t.peers bindMsg.clientId with
  | none =>
    simp only [setPeer, Function.update_self, Option.getD_some, Option.getD_none, List.nil_append]
  | some peer =>
    simp only [Option.isSome_none, Bool.false_eq_true, if_false, hpeer, Option.getD_some,
      List.nil_append]

/-- An initial socket of a client without a channel. -/
lemma ledger_acceptInitial {bindMsg : MsgBind} (h : s.tables.vcs bindMsg.clientId = none)
    (clientSocket : SocketFd) {peer : Peer}
    (hpeer : (s.tables.peers bindMsg.clientId).getD {} = peer) :
    (s.acceptInitial clientSocket bindMsg).ledger
      = if vcTcpConnections ≤ (peer.addSocket clientSocket).sockets.length
        then (s.ledger.close (if peer.Excess then [clientSocket] else [])).create bindMsg.clientId
          (peer.addSocket clientSocket).sockets
        else (s.ledger.close (if peer.Excess then [clientSocket] else [])).setWaiting
          bindMsg.clientId (peer.addSocket clientSocket).sockets := by
  obtain ⟨socketToConnId, hreg⟩ := registerSocket_eq s.tables clientSocket bindMsg
  have hwaiting := waiting_setPeer { s.tables with socketToConnId := socketToConnId }
    bindMsg.clientId (peer.addSocket clientSocket)
  rw [acceptInitial, closedByAccumulate_eq h, accumulate_eq h, hreg, hpeer, createEnough,
    enoughSockets_setPeer]
  split_ifs
  all_goals exact congrArg (fun w => Ledger.mk _ w _ _ _ _ _) hwaiting

lemma close_nil (l : Ledger) : l.close [] = l := by
  rw [Ledger.close]
  simp only [List.not_mem_nil, if_false]

/-- There is room: the socket waits, or completes the set. -/
lemma ledger_acceptInitial_of_room {bindMsg : MsgBind} (h : s.tables.vcs bindMsg.clientId = none)
    (hroom : (s.ledger.waiting bindMsg.clientId).length < vcTcpConnections)
    (clientSocket : SocketFd) :
    (s.acceptInitial clientSocket bindMsg).ledger
      = if vcTcpConnections ≤ (s.ledger.waiting bindMsg.clientId).length + 1
        then s.ledger.create bindMsg.clientId (s.ledger.waiting bindMsg.clientId ++ [clientSocket])
        else s.ledger.setWaiting bindMsg.clientId
          (s.ledger.waiting bindMsg.clientId ++ [clientSocket]) := by
  have hroom : ¬ ((s.tables.peers bindMsg.clientId).getD {}).Excess := not_le.mpr hroom
  rw [ledger_acceptInitial h clientSocket rfl, if_neg hroom, Peer.sockets_addSocket hroom, close_nil,
    List.length_append]
  rfl

/-- There are enough sockets already: the new one is closed, and they become the channel. -/
lemma ledger_acceptInitial_of_full {bindMsg : MsgBind} (h : s.tables.vcs bindMsg.clientId = none)
    (hfull : vcTcpConnections ≤ (s.ledger.waiting bindMsg.clientId).length)
    (clientSocket : SocketFd) :
    (s.acceptInitial clientSocket bindMsg).ledger
      = (s.ledger.close [clientSocket]).create bindMsg.clientId
          (s.ledger.waiting bindMsg.clientId) := by
  have hexcess : ((s.tables.peers bindMsg.clientId).getD {}).Excess := hfull
  rw [ledger_acceptInitial h clientSocket rfl, if_pos hexcess, Peer.addSocket_of_excess hexcess]
  exact if_pos hfull

lemma ledger_teardown (s : Sessions) (c : ClientId) :
    ledger { s with tables := ((s.tables.removeVc c).removePeer c).eraseSlots c }
      = { s.ledger.setWaiting c [] with
          channelOf := Function.update s.ledger.channelOf c none } := by
  refine congrArg (fun w => Ledger.mk _ w _ _ _ _ _) (funext fun c' => ?_)
  show ((Function.update s.tables.peers c none c').getD {}).sockets
    = Function.update s.ledger.waiting c [] c'
  rw [Function.update_apply, Function.update_apply]
  split_ifs <;> rfl

/-- A socket for a client without a channel. -/
lemma ledger_step_initial (hfull : s.ledger.Full) {e : Event} {o : Origin} {fd : SocketFd}
    {id : ConnectionId} (hin : incoming s.origin s.clients e = some (o, fd, id))
    (hvc : s.tables.vcs o.clientId = none) :
    s.ledger.Step e ((({ s with origin := Function.update s.origin fd (some o) } : Sessions).acceptInitial
      fd ⟨o.clientId, o.slotIndex, id⟩).ledger.setClient o.clientId
        ((s.clients o.clientId).next o.slotIndex)) := by
  have hlen := hfull.of_none o.clientId hvc
  rw [ledger_acceptInitial_of_room hvc hlen]
  split_ifs with henough
  · exact .create o fd id hin hvc (Nat.le_antisymm hlen henough)
  · exact .wait o fd id hin hvc (not_le.mp henough)

/-- An initial socket for a client with a channel. -/
lemma ledger_step_stale (hfull : s.ledger.Full) {e : Event} {o : Origin} {fd : SocketFd}
    {id : ConnectionId} {vc : VcId} (hin : incoming s.origin s.clients e = some (o, fd, id))
    (hvc : s.tables.vcs o.clientId = some vc) (hinit : o.slotIndex < 0) :
    s.ledger.Step e (({ ({ s with origin := Function.update s.origin fd (some o) } : Sessions).closeVc
        vc with tables := s.tables.removeVc o.clientId }.acceptInitial
      fd ⟨o.clientId, o.slotIndex, id⟩).ledger.setClient o.clientId
        ((s.clients o.clientId).next o.slotIndex)) := by
  have hlen := (hfull.of_some o.clientId vc hvc).1
  have hnone : (s.tables.removeVc o.clientId).vcs o.clientId = none := Function.update_self ..
  have hchannelOf : Function.update (Function.update s.tables.vcs o.clientId none) o.clientId
      (some s.nextVc) = Function.update s.tables.vcs o.clientId (some s.nextVc) :=
    Function.update_idem ..
  rw [ledger_acceptInitial_of_full hnone hlen.ge]
  show s.ledger.Step e ⟨Function.update (Function.update s.tables.vcs o.clientId none) o.clientId
    (some s.nextVc), _, _, _, _, _, _⟩
  rw [hchannelOf]
  exact .recreate o fd id vc hin hvc hinit

/-- A socket for a slot of a channel. -/
lemma ledger_step_replacement {e : Event} {o : Origin} {fd : SocketFd} {id : ConnectionId}
    {vc : VcId} (hin : incoming s.origin s.clients e = some (o, fd, id))
    (hvc : s.tables.vcs o.clientId = some vc) (hslot : 0 ≤ o.slotIndex) :
    s.ledger.Step e ((({ s with origin := Function.update s.origin fd (some o) } : Sessions).acceptReplacement
      vc fd ⟨o.clientId, o.slotIndex, id⟩).ledger.setClient o.clientId
        ((s.clients o.clientId).next o.slotIndex)) := by
  have hne : s.ledger.channelOf o.clientId ≠ none := by
    rw [show s.ledger.channelOf o.clientId = some vc from hvc]
    nofun
  rw [acceptReplacement]
  simp only
  split_ifs
  · exact .refuse o fd id [fd] hin hslot (fun fd' h => List.mem_singleton.mp h) hne
  · generalize (decideReplaceSlot _ _ _ _).toNat = slot
    obtain ⟨clientConnSlots, htables⟩ := registerReplacement_eq s.tables
      ⟨o.clientId, o.slotIndex, id⟩ slot
    rw [htables, replaceConnection]
    split_ifs with hlt
    · have hget : (s.channels vc)[slot]? = some (s.channels vc)[slot] := List.getElem?_eq_getElem hlt
      simp only [hget, Option.join_some]
      exact .replace o fd id vc slot _ hin hvc hslot hget
    · have hrefuse := Ledger.Step.refuse (l := s.ledger) (e := e) o fd id [] hin hslot nofun hne
      rw [close_nil] at hrefuse
      exact hrefuse

/-- A step of the server and its clients is a step of the ledger. -/
theorem ledger_step (hfull : s.ledger.Full) (e : Event) : s.ledger.Step e (step s e).ledger := by
  cases hin : incoming s.origin s.clients e with
  | none =>
    cases e with
    | connect c id fd =>
      simp only [step, hin]
      exact .idle hin
    | reconnect c slot id fd =>
      simp only [step, hin]
      exact .idle hin
    | stop c =>
      simp only [step, hin]
      exact .stop c hin
    | die c slot =>
      simp only [step, hin]
      cases hvc : s.tables.vcs c with
      | none => exact .idle hin
      | some vc =>
        simp only [disconnectSlot]
        split
        · exact .die c vc slot _ hin hvc ‹_›
        · exact .idle hin
    | teardown c =>
      simp only [step, hin, teardown]
      cases hvc : s.tables.vcs c with
      | none => exact .idle hin
      | some vc =>
        simp only
        split_ifs with hdead
        · rw [ledger_teardown]
          exact .teardown c vc hin hvc hdead
        · exact .idle hin
  | some socket =>
    obtain ⟨o, fd, id⟩ := socket
    simp only [step, hin, openSocket, acceptConnection]
    cases hvc : s.tables.vcs o.clientId with
    | none =>
      exact ledger_step_initial hfull hin hvc
    | some vc =>
      simp only
      split_ifs with hinit
      · exact ledger_step_stale hfull hin hvc hinit
      · exact ledger_step_replacement hin hvc (not_lt.mp hinit)

/-! ## Session agreement -/

/-- What holds in every run. -/
def Inv (s : Sessions) : Prop := s.ledger.Full ∧ s.ledger.Placed

lemma inv_init : Inv {} :=
  ⟨⟨nofun, fun _ _ => Nat.succ_pos 31, nofun⟩, nofun⟩

lemma inv_step (hs : Inv s) (e : Event) : Inv (step s e) :=
  ⟨Ledger.full_step hs.1 (ledger_step hs.1 e), Ledger.placed_step hs.2 hs.1 (ledger_step hs.1 e)⟩

lemma inv_stateAt (events : ℕ → Event) (n : ℕ) : Inv (stateAt events n) :=
  runState_invariant (Q := fun _ => True) inv_init (fun _ e _ hs => inv_step hs e)
    (fun _ => trivial) n

lemma orderly_init : Ledger.Orderly (ledger {}) :=
  ⟨fun _ _ => ⟨List.nodup_nil, [], rfl, nofun, List.isChain_nil, nofun⟩, nofun⟩

/-- Every channel is made of the sockets of one attempt exactly when every set is completed
by the attempt that started it. -/
theorem agreement_iff (events : ℕ → Event) :
    (∀ n, (stateAt events n).Agreement) ↔ ∀ n, (stateAt events n).FromOneAttempt (events n) := by
  constructor
  · intro h n
    obtain ⟨hfull, hplaced⟩ := inv_stateAt events n
    exact Ledger.fromOneAttempt_of_agreement hplaced hfull (ledger_step hfull (events n)) (h (n + 1))
  · intro h n
    refine (runState_invariant_of_steps
      (P := fun s => Inv s ∧ Ledger.Orderly s.ledger ∧ s.Agreement)
      ⟨inv_init, orderly_init, nofun⟩ (fun s e hcond hs => ?_) fun m _ => h m).2.2
    obtain ⟨⟨hfull, hplaced⟩, horderly, hagree⟩ := hs
    have hstep := ledger_step hfull e
    exact ⟨inv_step ⟨hfull, hplaced⟩ e, Ledger.orderly_step horderly hfull hcond hstep,
      Ledger.agreement_step (l := s.ledger) hagree horderly hfull hcond hstep⟩

/-- The first attempt stops after one socket; the second one connects all of its sockets. -/
def stopAfterOne (n : ℕ) : Event :=
  match n with
  | 0 => .connect 7 1 100
  | 1 => .stop 7
  | n + 2 => .connect 7 (n + 2) (101 + n)

/-- The channel has a socket of the abandoned attempt, and not the last one of the second. -/
theorem mixes_attempts : ¬ ∀ (events : ℕ → Event) (n : ℕ), (stateAt events n).Agreement := by
  intro h
  have hcreated : (stateAt stopAfterOne 33).created.map (fun c => (c.1, c.2.take 2))
      = [(7, [some ⟨7, 0, 0, -1⟩, some ⟨7, 1, 0, -1⟩])] := by decide +kernel
  obtain ⟨c, hc, hfar⟩ := List.mem_map.mp (hcreated ▸ List.mem_singleton_self _)
  obtain ⟨activity, hact⟩ := h stopAfterOne 33 c hc
  obtain ⟨hclient, htake⟩ := Prod.mk.inj hfar
  rw [hact, hclient] at htake
  have hfirst := congrArg (·[0]?) htake
  have hsecond := congrArg (·[1]?) htake
  cases Option.some.inj (Option.some.inj hfirst)
  cases Option.some.inj (Option.some.inj hsecond)

end Sessions
end TcpUdp
