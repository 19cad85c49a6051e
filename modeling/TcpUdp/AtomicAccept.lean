import TcpUdp.ChannelSetup

/-!
# The accept loop with nothing in between

In `Sessions` an iteration of the loop, a death and a disconnect callback are one step each.
Every such step is a run of the actions of `AcceptLoop` (`Refines.step`), and so is every run
(`refines_run`): what `Sessions` does the accept loop can do, with the bytes that a client
sends, a UDP socket that can be bound, and no callback in the middle of anything.
-/

namespace TcpUdp

open Lib ServerTables

namespace Sessions

variable {a : Sessions} {bindMsg : MsgBind}

/-- The client's numbers fit into the message that it sends. -/
def Event.Fits : Event → Prop
  | .connect clientId connectionId _ => clientId < 2 ^ 32 ∧ connectionId < 2 ^ 32
  | .reconnect clientId slotIndex connectionId _ =>
    clientId < 2 ^ 32 ∧ slotIndex < 128 ∧ connectionId < 2 ^ 32
  | .stop _ | .die _ _ | .teardown _ => True

lemma acceptConnection_initial (h : a.tables.vcs bindMsg.clientId = none)
    (clientSocket : SocketFd) :
    a.acceptConnection clientSocket bindMsg = a.acceptInitial clientSocket bindMsg := by
  rw [acceptConnection, h]

lemma acceptConnection_stale {vc : VcId} (h : a.tables.vcs bindMsg.clientId = some vc)
    (hinit : bindMsg.slotIndex < 0) (clientSocket : SocketFd) :
    a.acceptConnection clientSocket bindMsg
      = { a.closeVc vc with
          tables := a.tables.removeVc bindMsg.clientId }.acceptInitial clientSocket bindMsg := by
  rw [acceptConnection, h]
  exact if_pos hinit

lemma acceptConnection_replacement {vc : VcId} (h : a.tables.vcs bindMsg.clientId = some vc)
    (hslot : 0 ≤ bindMsg.slotIndex) (clientSocket : SocketFd) :
    a.acceptConnection clientSocket bindMsg = a.acceptReplacement vc clientSocket bindMsg := by
  rw [acceptConnection, h]
  exact if_neg (not_lt.mpr hslot)

end Sessions

namespace AcceptLoop

variable {s : AcceptLoop} {a : Sessions} {clientSocket : SocketFd} {bindMsg : MsgBind}

/-- The two states have the same tables, slots and sockets. -/
structure Matches (s : AcceptLoop) (a : Sessions) : Prop where
  tables : a.tables = s.tables
  channels : ∀ vc, a.channels vc = (s.channels vc).connections.map Connection.socketFd
  nextVc : a.nextVc = s.nextVc
  isOpen : ∀ fd, s.isOpen fd = (a.origin fd).isSome

/-- Every channel of `VcManager` is open and has its callback. -/
def AllSetUp (s : AcceptLoop) : Prop := ∀ c vc, s.tables.vcs c = some vc →
  (s.channels vc).opened = true ∧ (s.channels vc).hasDisconnectCallback = true

/-- Between two steps of `Sessions`. -/
structure Refines (s : AcceptLoop) (a : Sessions) : Prop where
  agrees : Matches s a
  loop : s.loop = .accepting
  setUp : s.AllSetUp

lemma matches_init : Matches {} {} := ⟨rfl, fun _ => rfl, rfl, fun _ => rfl⟩

lemma refines_init : Refines {} {} where
  agrees := matches_init
  loop := rfl
  setUp _ _ h := by cases h

/-! ## Channels and sockets -/

lemma Matches.goto (h : Matches s a) (pc : LoopPc) : Matches (s.goto pc) a :=
  ⟨h.tables, h.channels, h.nextVc, h.isOpen⟩

lemma Matches.setTables (h : Matches s a) (t : ServerTables) :
    Matches (s.setTables t) { a with tables := t } :=
  ⟨rfl, h.channels, h.nextVc, h.isOpen⟩

lemma Matches.openSocket (h : Matches s a) (fd : SocketFd) (origin : Origin) :
    Matches (s.openSocket fd)
      { a with origin := Function.update a.origin fd (some origin) } where
  tables := h.tables
  channels := h.channels
  nextVc := h.nextVc
  isOpen fd' := by
    simp only [AcceptLoop.openSocket, Function.update_apply]
    split_ifs
    · rfl
    · exact h.isOpen fd'

lemma Matches.socketClose (h : Matches s a) (fds : List SocketFd) :
    Matches (s.socketClose fds) (a.socketClose fds) where
  tables := h.tables
  channels := h.channels
  nextVc := h.nextVc
  isOpen fd := by
    simp only [AcceptLoop.socketClose, Sessions.socketClose]
    split_ifs
    · rfl
    · exact h.isOpen fd

lemma Matches.setChannel (h : Matches s a) (vc : VcId) (channel : Channel) :
    Matches (s.setChannel vc channel)
      { a with
        channels := Function.update a.channels vc
          (channel.connections.map Connection.socketFd) } where
  tables := h.tables
  channels vc' := by
    simp only [AcceptLoop.setChannel, Function.update_apply]
    split_ifs
    · rfl
    · exact h.channels vc'
  nextVc := h.nextVc
  isOpen := h.isOpen

/-- A change of a channel that leaves its slots alone. -/
lemma Matches.setFlags (h : Matches s a) {vc : VcId} {channel : Channel}
    (hconns : channel.connections = (s.channels vc).connections) :
    Matches (s.setChannel vc channel) a := by
  have hset := h.setChannel vc channel
  rw [hconns, ← h.channels vc, Function.update_eq_self] at hset
  exact hset

/-- `close()` of an open channel. -/
lemma Matches.closeVc (h : Matches s a) {vc : VcId} (hopen : (s.channels vc).opened = true) :
    Matches (s.closeVc vc) (a.closeVc vc) := by
  have hfds : (a.channels vc).filterMap id = (s.channels vc).socketFds := by
    rw [h.channels, List.filterMap_map]
    rfl
  have hdead : ((s.channels vc).disconnectAll.connections).map Connection.socketFd
      = (a.channels vc).map fun _ => none := by
    rw [h.channels, Channel.disconnectAll, List.map_map, List.map_map]
    rfl
  have hset := (h.socketClose (s.channels vc).socketFds).setChannel vc
    { (s.channels vc).disconnectAll with opened := false }
  simp only [hdead] at hset
  unfold AcceptLoop.closeVc Sessions.closeVc
  rw [hfds]
  simp only [hopen, if_true]
  exact hset

lemma Matches.getDeadSlots (h : Matches s a) (vc : VcId) :
    a.getDeadSlots vc = (s.channels vc).getDeadSlots := by
  unfold Sessions.getDeadSlots Channel.getDeadSlots
  rw [h.channels, List.length_map]
  apply List.filter_congr
  intro slot hslot
  have hlt := List.mem_range.mp hslot
  rw [List.getElem?_map, List.getElem?_eq_getElem hlt, Option.map_some, Option.bind_some]
  cases ((s.channels vc).connections[slot]).socketFd <;> rfl

lemma Matches.targetSlot (h : Matches s a) (bindMsg : MsgBind) (vc : VcId) :
    decideReplaceSlot (a.tables.connIdSlot bindMsg) bindMsg.slotIndex vcTcpConnections
      (a.getDeadSlots vc) = s.targetSlot bindMsg vc := by
  rw [h.getDeadSlots, h.tables]
  rfl

lemma Matches.replaceConnection (h : Matches s a) (vc : VcId) (slotIndex : ℕ) (newFd : SocketFd) :
    Matches (s.replaceConnection vc slotIndex newFd) (a.replaceConnection vc slotIndex newFd) := by
  have hlen : (a.channels vc).length = (s.channels vc).connections.length := by
    rw [h.channels, List.length_map]
  have hreplaced : (a.channels vc)[slotIndex]?.join
      = (s.channels vc).connections[slotIndex]?.bind Connection.socketFd := by
    rw [h.channels, List.getElem?_map]
    cases (s.channels vc).connections[slotIndex]? <;> rfl
  unfold AcceptLoop.replaceConnection Sessions.replaceConnection
  rw [hlen, hreplaced]
  simp only
  split_ifs
  · have hset := (h.socketClose
      ((s.channels vc).connections[slotIndex]?.bind Connection.socketFd).toList).setChannel vc
        { s.channels vc with
          connections := (s.channels vc).connections.set slotIndex ⟨s.nextConn, some newFd⟩ }
    simp only [List.map_set, ← h.channels vc] at hset
    exact ⟨hset.tables, hset.channels, hset.nextVc, hset.isOpen⟩
  · exact h

/-! ## An iteration of the loop -/

lemma Matches.createVc (h : Matches s a) (c : ClientId) (fds : List SocketFd)
    (created : List (ClientId × List (Option Origin))) :
    Matches (s.createVc c fds)
      { a with
        tables := a.tables.createVc c a.nextVc fds
        channels := Function.update a.channels a.nextVc (fds.map some)
        nextVc := a.nextVc + 1
        created := created } := by
  have hconns : (fds.mapIdx fun i fd => (⟨s.nextConn + i, some fd⟩ : Connection)).map
      Connection.socketFd = fds.map some := by
    apply List.ext_getElem?
    intro i
    rw [List.getElem?_map, List.getElem?_map, List.getElem?_mapIdx]
    cases fds[i]? <;> rfl
  have hset := h.setChannel s.nextVc
    { clientId := c, connections := fds.mapIdx fun i fd => ⟨s.nextConn + i, some fd⟩ }
  simp only [hconns] at hset
  rw [h.tables, h.nextVc]
  exact ⟨rfl, hset.channels, rfl, hset.isOpen⟩

lemma Matches.accumulate (h : Matches s a) (clientSocket : SocketFd) (bindMsg : MsgBind) :
    Matches (s.accumulate clientSocket bindMsg .bound) (a.acceptInitial clientSocket bindMsg) := by
  have hadd := (h.socketClose (Sessions.closedByAccumulate s.tables clientSocket bindMsg)).setTables
    (s.tables.accumulate clientSocket bindMsg)
  unfold AcceptLoop.accumulate Sessions.acceptInitial Sessions.createEnough
  simp only [h.tables, AcceptLoop.setTables]
  cases (s.tables.accumulate clientSocket bindMsg).enoughSockets bindMsg.clientId with
  | some fds =>
    apply Matches.goto
    exact (hadd.createVc bindMsg.clientId fds _).setFlags rfl
  | none => exact hadd.goto .accepting

lemma AllSetUp.setTables (h : s.AllSetUp) {t : ServerTables}
    (hvcs : ∀ c vc, t.vcs c = some vc → s.tables.vcs c = some vc) : (s.setTables t).AllSetUp :=
  fun c vc hvc => h c vc (hvcs c vc hvc)

lemma vcs_tablesAccumulate {t : ServerTables} (hvc : t.vcs bindMsg.clientId = none)
    (clientSocket : SocketFd) : (t.accumulate clientSocket bindMsg).vcs = t.vcs := by
  obtain ⟨socketToConnId, hreg⟩ := registerSocket_eq t clientSocket bindMsg
  rw [accumulate_eq hvc, hreg]
  rfl

/-- A channel that is created is set up at once. -/
lemma AllSetUp.accumulate (h : s.AllSetUp) (hs : Inv s)
    (hvc : s.tables.vcs bindMsg.clientId = none) (clientSocket : SocketFd) :
    (s.accumulate clientSocket bindMsg .bound).AllSetUp := by
  intro c vc hreg
  by_cases hfull : vcTcpConnections ≤ (s.waiting bindMsg.clientId).length + 1
  · -- the client has the new channel, and the others have theirs
    rw [accumulate_of_full hvc hfull] at hreg ⊢
    rw [tables_setUp] at hreg
    have hadd : Function.update (s.tables.accumulate clientSocket bindMsg).vcs bindMsg.clientId
        (some s.nextVc) c = some vc := hreg
    rw [vcs_tablesAccumulate hvc, Function.update_apply] at hadd
    split_ifs at hadd with hc
    · cases hadd
      rw [channels_setUp_bound]
      exact ⟨rfl, rfl⟩
    · -- the number of the new channel is not in use
      have hne : vc ≠ s.nextVc := Nat.ne_of_lt (hs.bounded.vcs c vc hadd)
      simp only [AcceptLoop.setUp, AcceptLoop.goto, AcceptLoop.createVc, AcceptLoop.setTables,
        AcceptLoop.setChannel, AcceptLoop.socketClose, Function.update_of_ne hne]
      exact h c vc hadd
  · rw [accumulate_of_room hvc (not_le.mp hfull)] at hreg ⊢
    obtain ⟨socketToConnId, heq⟩ := registerSocket_eq s.tables clientSocket bindMsg
    rw [heq] at hreg
    exact h c vc hreg

/-- Removing the stale channel leaves the channels of the other clients. -/
lemma AllSetUp.removeStale (h : s.AllSetUp) (hs : Inv s) {vc : VcId}
    (hvc : s.tables.vcs bindMsg.clientId = some vc) :
    ((s.closeVc vc).setTables (s.tables.removeVc bindMsg.clientId)).AllSetUp := by
  intro c vc' hreg
  have hkept : Function.update s.tables.vcs bindMsg.clientId none c = some vc' := hreg
  rw [Function.update_apply] at hkept
  split_ifs at hkept with hc
  -- a channel belongs to one client
  have hne : vc' ≠ vc := by
    rintro rfl
    exact hc ((hs.owner c vc' hkept).symm.trans (hs.owner _ vc' hvc))
  have hother : (s.closeVc vc).channels vc' = s.channels vc' := by
    unfold AcceptLoop.closeVc
    simp only
    split_ifs
    · exact Function.update_of_ne hne ..
    · rfl
  show ((s.closeVc vc).channels vc').opened = true
    ∧ ((s.closeVc vc).channels vc').hasDisconnectCallback = true
  rw [hother]
  exact h c vc' hkept

lemma loop_accumulate (s : AcceptLoop) (clientSocket : SocketFd) (bindMsg : MsgBind) :
    (s.accumulate clientSocket bindMsg .bound).loop = .accepting := by
  unfold AcceptLoop.accumulate
  simp only
  split <;> rfl

/-- A socket of a client without a channel. -/
lemma refines_initial (h : Matches s a) (hsetUp : s.AllSetUp) (hs : Inv s)
    (hvc : s.tables.vcs bindMsg.clientId = none) (clientSocket : SocketFd) :
    Refines (s.accumulate clientSocket bindMsg .bound) (a.acceptInitial clientSocket bindMsg) where
  agrees := h.accumulate clientSocket bindMsg
  loop := loop_accumulate s clientSocket bindMsg
  setUp := hsetUp.accumulate hs hvc clientSocket

/-- An initial socket of a client with a channel. -/
lemma refines_stale (h : Matches s a) (hsetUp : s.AllSetUp) (hs : Inv s) {vc : VcId}
    (hvc : s.tables.vcs bindMsg.clientId = some vc) (hinit : bindMsg.slotIndex < 0)
    (clientSocket : SocketFd) :
    Refines ((s.handleFound clientSocket bindMsg vc).acceptStep .bound)
      ({ a.closeVc vc with
          tables := a.tables.removeVc bindMsg.clientId }.acceptInitial clientSocket bindMsg) := by
  have hinv := hs.handleFound clientSocket bindMsg (hs.bounded.vcs _ vc hvc)
  have hclosed := (h.closeVc (hsetUp _ vc hvc).1).setTables (s.tables.removeVc bindMsg.clientId)
  have hremoved := hsetUp.removeStale hs hvc
  rw [handleFound_stale hinit] at hinv ⊢
  rw [acceptStep_accumulating rfl, h.tables]
  apply refines_initial (hclosed.goto _)
  · exact hremoved
  · exact hinv
  · exact Function.update_self ..

lemma AllSetUp.replaceConnection (h : s.AllSetUp) (vc : VcId) (slotIndex : ℕ)
    (newFd : SocketFd) : (s.replaceConnection vc slotIndex newFd).AllSetUp := by
  intro c vc' hreg
  rw [tables_replaceConnection] at hreg
  have hflags := h c vc' hreg
  unfold AcceptLoop.replaceConnection
  simp only
  split_ifs
  · simp only [AcceptLoop.setChannel, AcceptLoop.socketClose, Function.update_apply]
    split_ifs with heq
    · rw [heq] at hflags
      exact hflags
    · exact hflags
  · exact hflags

/-- A socket for a slot of a channel. -/
lemma refines_replacement (h : Matches s a) (hsetUp : s.AllSetUp)
    (hslot : 0 ≤ bindMsg.slotIndex) (vc : VcId) (clientSocket : SocketFd) :
    Refines ((s.handleFound clientSocket bindMsg vc).acceptStep .bound)
      (a.acceptReplacement vc clientSocket bindMsg) := by
  unfold Sessions.acceptReplacement
  simp only [h.targetSlot]
  by_cases htarget : s.targetSlot bindMsg vc < 0
  · rw [handleFound_excess hslot htarget, acceptStep_of_idle (Or.inl rfl), if_pos htarget]
    exact ⟨(h.socketClose _).goto _, rfl, hsetUp⟩
  · rw [handleFound_replaces hslot (not_lt.mp htarget), acceptStep_of_idle (Or.inl rfl),
      if_neg htarget, h.tables]
    refine ⟨((h.replaceConnection vc _ clientSocket).setTables _).goto _, rfl, ?_⟩
    apply (hsetUp.replaceConnection vc _ clientSocket).setTables
    intro c vc' hreg
    have hvcs := vcs_registerReplacement_eq s.tables bindMsg (s.targetSlot bindMsg vc).toNat
    rw [tables_replaceConnection]
    exact (congrFun hvcs c).symm.trans hreg

/-- An iteration of the loop is one of `Sessions`. -/
theorem Refines.acceptConnection (h : Refines s a) (hs : Inv s) {results : List RecvReturn}
    (hfree : a.origin clientSocket = none) (hbind : receiveBind results = some (some bindMsg))
    (origin : Origin) :
    Refines (s.acceptConnection clientSocket results .bound)
      ({ a with
          origin := Function.update a.origin clientSocket (some origin) }.acceptConnection
        clientSocket bindMsg) := by
  have hfresh : s.isOpen clientSocket = false := by
    rw [h.agrees.isOpen, hfree]
    rfl
  have hopen := h.agrees.openSocket clientSocket origin
  have hinv : Inv (s.openSocket clientSocket) :=
    ⟨hs.bounded, hs.owner, hs.length, hs.fresh, hs.opened, hs.loop⟩
  have htables := h.agrees.tables
  cases hvc : s.tables.vcs bindMsg.clientId with
  | none =>
    rw [acceptConnection_initial h.loop hfresh hbind hvc, Sessions.acceptConnection_initial]
    · apply refines_initial (hopen.goto _)
      · exact h.setUp
      · exact hinv.goto (.accumulating clientSocket bindMsg) hvc
      · exact hvc
    · rw [htables]
      exact hvc
  | some vc =>
    have hinv := hinv.goto (.found clientSocket bindMsg vc) (hs.bounded.vcs _ vc hvc)
    have hvcs : ({ a with origin := Function.update a.origin clientSocket (some origin) } :
        Sessions).tables.vcs bindMsg.clientId = some vc := by
      rw [htables]
      exact hvc
    rw [acceptConnection_found h.loop hfresh hbind hvc]
    by_cases hinit : bindMsg.slotIndex < 0
    · rw [Sessions.acceptConnection_stale hvcs hinit]
      apply refines_stale (hopen.goto _)
      · exact h.setUp
      · exact hinv
      · exact hvc
      · exact hinit
    · rw [Sessions.acceptConnection_replacement hvcs (not_lt.mp hinit)]
      exact refines_replacement (hopen.goto _) h.setUp (not_lt.mp hinit) vc clientSocket

/-! ## Deaths and disconnect callbacks -/

lemma AllSetUp.setChannel (h : s.AllSetUp) {vc : VcId} {channel : Channel}
    (hopened : channel.opened = (s.channels vc).opened)
    (hcallback : channel.hasDisconnectCallback = (s.channels vc).hasDisconnectCallback) :
    (s.setChannel vc channel).AllSetUp := by
  intro c vc' hvc'
  have hflags := h c vc' hvc'
  simp only [AcceptLoop.setChannel, Function.update_apply]
  split_ifs with heq
  · rw [hopened, hcallback, ← heq]
    exact hflags
  · exact hflags

/-- A thread of a channel finds a connection dead. -/
lemma Refines.die (h : Refines s a) {c : ClientId} {vc : VcId} (hvc : s.tables.vcs c = some vc)
    (slotIndex : ℕ) : Refines (s.die vc slotIndex) (a.disconnectSlot vc slotIndex) := by
  have hopen := (h.setUp c vc hvc).1
  have hslot : (a.channels vc)[slotIndex]?
      = (s.channels vc).connections[slotIndex]?.map Connection.socketFd := by
    rw [h.agrees.channels, List.getElem?_map]
  unfold AcceptLoop.die Sessions.disconnectSlot
  simp only [hslot]
  cases hconn : (s.channels vc).connections[slotIndex]? with
  | none => exact h
  | some conn =>
    have hset := (h.agrees.socketClose conn.socketFd.toList).setChannel vc
      { s.channels vc with
        connections := (s.channels vc).connections.set slotIndex { conn with socketFd := none } }
    simp only [List.map_set, ← h.agrees.channels vc] at hset
    rw [hconn] at hslot
    simp only [Option.map_some] at hslot ⊢
    rw [if_pos hopen]
    refine ⟨?_, h.loop, AllSetUp.setChannel h.setUp rfl rfl⟩
    cases hfd : conn.socketFd with
    | some fd =>
      rw [hfd] at hset
      exact hset
    | none =>
      -- it has been disconnected before, and its slot keeps the value
      have hsame : (a.channels vc).set slotIndex none = a.channels vc := by
        rw [hfd] at hslot
        obtain ⟨hlt, hget⟩ := List.getElem?_eq_some_iff.mp hslot
        rw [← hget, List.set_getElem_self]
      have hupdate : Function.update (a.socketClose none.toList).channels vc (a.channels vc)
          = a.channels := Function.update_eq_self ..
      rw [hfd, hsame, hupdate] at hset
      exact hset

/-- The callback of a channel from its first access to its return. -/
lemma foldl_callback (s : AcceptLoop) (vc : VcId) {channel : Channel}
    (h : channel.callback = .removingVc) :
    (List.replicate 4 (Event.callback vc)).foldl step (s.setChannel vc channel)
      = (s.setChannel vc { channel with callback := .returned, udpOpen := false }).setTables
          (((s.tables.removeVc channel.clientId).removePeer channel.clientId).eraseSlots
            channel.clientId) := by
  simp only [List.replicate, List.foldl_cons, List.foldl_nil, step, callbackStep, h,
    AcceptLoop.setTables, AcceptLoop.setChannel, Function.update_self, Function.update_idem]

lemma foldl_callback_of_idle {vc : VcId} (h : (s.channels vc).callback = .idle) (n : ℕ) :
    (List.replicate n (Event.callback vc)).foldl step s = s := by
  have hstep : step s (.callback vc) = s := by
    simp only [step, callbackStep, h]
  induction n with
  | zero => rfl
  | succ n ih => rw [List.replicate_succ, List.foldl_cons, hstep, ih]

/-- Nothing of the client is left in the tables. -/
lemma AllSetUp.removeAll (h : s.AllSetUp) (hs : Inv s) {c : ClientId} {vc : VcId}
    (hvc : s.tables.vcs c = some vc) (channel : Channel) :
    ((s.setChannel vc channel).setTables
      (((s.tables.removeVc c).removePeer c).eraseSlots c)).AllSetUp := by
  intro c' vc' hreg
  have hkept : Function.update s.tables.vcs c none c' = some vc' := hreg
  rw [Function.update_apply] at hkept
  split_ifs at hkept with hc
  have hne : vc' ≠ vc := by
    rintro rfl
    exact hc ((hs.owner c' vc' hkept).symm.trans (hs.owner c vc' hvc))
  simp only [AcceptLoop.setTables, AcceptLoop.setChannel, Function.update_of_ne hne]
  exact h c' vc' hkept

/-- `disconnectCB` finds all connections dead, or not, and the callback runs to its end. -/
lemma Refines.teardown (h : Refines s a) (hs : Inv s) {c : ClientId} {vc : VcId}
    (hvc : s.tables.vcs c = some vc) :
    Refines ((List.replicate 4 (Event.callback vc)).foldl step (s.allDead vc)) (a.teardown c) := by
  obtain ⟨hopen, hcallback⟩ := h.setUp c vc hvc
  have hiff : (∀ conn ∈ a.channels vc, conn = none) ↔ (s.channels vc).Dead := by
    rw [h.agrees.channels, List.forall_mem_map]
    rfl
  have hvc' : a.tables.vcs c = some vc := by
    rw [h.agrees.tables]
    exact hvc
  have howner := hs.owner c vc hvc
  unfold Sessions.teardown
  simp only [hvc', hiff]
  by_cases hdead : (s.channels vc).Dead
  · -- the last action but one closes the UDP socket, which `Sessions` does not have
    have hall : s.allDead vc = s.setChannel vc
        { s.channels vc with opened := false, callback := .removingVc } := by
      unfold AcceptLoop.allDead
      simp only
      rw [if_pos ⟨hopen, hdead⟩, if_pos hcallback]
    rw [if_pos hdead, hall, foldl_callback s vc rfl, h.agrees.tables]
    simp only [howner]
    refine ⟨Matches.setTables ?_ _, h.loop, h.setUp.removeAll hs hvc _⟩
    apply h.agrees.setFlags
    rfl
  · have hall : s.allDead vc = s := by
      unfold AcceptLoop.allDead
      simp only
      rw [if_neg fun hboth => hdead hboth.2]
    rw [if_neg hdead, hall, foldl_callback_of_idle (hs.opened vc hopen).1]
    exact h

/-! ## Runs -/

lemma inv_foldl (hs : Inv s) (l : List Event) : Inv (l.foldl step s) := by
  induction l generalizing s with
  | nil => exact hs
  | cons e l ih => exact ih (inv_step hs e)

/-- The client's side is not in the accept loop. -/
lemma Refines.setClient (h : Refines s a) (c : ClientId) (activity : Activity) :
    Refines s (a.setClient c activity) :=
  ⟨⟨h.agrees.tables, h.agrees.channels, h.agrees.nextVc, h.agrees.isOpen⟩, h.loop, h.setUp⟩

/-- The client sends its `MsgBind`, which the loop takes from the socket. -/
lemma exists_receiveBind {e : Sessions.Event} (he : e.Fits) {o : Origin} {fd : SocketFd}
    {id : ConnectionId} (hin : Sessions.incoming a.origin a.clients e = some (o, fd, id)) :
    ∃ results, receiveBind results = some (some ⟨o.clientId, o.slotIndex, id⟩) := by
  have hbind : (⟨o.clientId, o.slotIndex, id⟩ : MsgBind).Fits := by
    cases e with
    | connect c connectionId clientSocket =>
      simp only [Sessions.incoming] at hin
      split_ifs at hin
      cases hin
      exact ⟨he.1, (by decide : (-128 : ℤ) ≤ -1 ∧ (-1 : ℤ) < 128), he.2⟩
    | reconnect c slotIndex connectionId clientSocket =>
      simp only [Sessions.incoming] at hin
      split_ifs at hin
      cases hin
      obtain ⟨hclient, hslot, hid⟩ := he
      have hbounds : -128 ≤ (slotIndex : ℤ) ∧ (slotIndex : ℤ) < 128 := by omega
      exact ⟨hclient, hbounds, hid⟩
    | stop | die | teardown => cases hin
  have hlen : (appendMsgBind ⟨o.clientId, o.slotIndex, id⟩ [0, 0, 0]).length = sizeofMsgBind :=
    length_appendMsgBind rfl
  have hne : ∀ chunk ∈ [appendMsgBind ⟨o.clientId, o.slotIndex, id⟩ [0, 0, 0]], chunk ≠ [] := by
    intro chunk hchunk hnil
    rw [← List.mem_singleton.mp hchunk, hnil] at hlen
    cases hlen
  have hsent : appendMsgBind ⟨o.clientId, o.slotIndex, id⟩ [0, 0, 0]
      <+: [appendMsgBind ⟨o.clientId, o.slotIndex, id⟩ [0, 0, 0]].flatten := by
    rw [List.flatten_cons, List.flatten_nil, List.append_nil]
  exact ⟨_, receiveBind_appendMsgBind hbind rfl hne hsent⟩

/-- Every step of `Sessions` is a run of the actions of the loop and of the threads. -/
theorem Refines.step (h : Refines s a) (hs : Inv s) {e : Sessions.Event} (he : e.Fits) :
    ∃ l : List Event, Refines (l.foldl AcceptLoop.step s) (a.step e) := by
  unfold Sessions.step
  cases hin : Sessions.incoming a.origin a.clients e with
  | some socket =>
    obtain ⟨o, fd, id⟩ := socket
    obtain ⟨results, hbind⟩ := exists_receiveBind he hin
    have hfree := (incoming_spec hin).1
    refine ⟨[.accepted fd results, .accept .bound, .accept .bound], ?_⟩
    rw [List.foldl_cons, List.foldl_cons, List.foldl_cons, List.foldl_nil]
    exact (h.acceptConnection hs hfree hbind o).setClient ..
  | none =>
    cases e with
    | stop c => exact ⟨[], h.setClient ..⟩
    | die c slotIndex =>
      simp only [h.agrees.tables]
      cases hvc : s.tables.vcs c with
      | some vc => exact ⟨[.die vc slotIndex], h.die hvc slotIndex⟩
      | none => exact ⟨[], h⟩
    | teardown c =>
      cases hvc : s.tables.vcs c with
      | some vc =>
        refine ⟨.allDead vc :: List.replicate 4 (.callback vc), ?_⟩
        rw [List.foldl_cons]
        exact h.teardown hs hvc
      | none =>
        refine ⟨[], ?_⟩
        simp only [Sessions.teardown, h.agrees.tables, hvc]
        exact h
    | connect | reconnect => exact ⟨[], h⟩

/-- What `Sessions` reaches, the accept loop reaches. -/
theorem refines_run (events : ℕ → Sessions.Event) (hfits : ∀ n, (events n).Fits) (n : ℕ) :
    ∃ (actions : ℕ → Event) (m : ℕ),
      Refines (stateAt actions m) (Sessions.stateAt events n) := by
  have hrun : ∃ l : List Event, Refines (l.foldl AcceptLoop.step {}) (Sessions.stateAt events n) := by
    induction n with
    | zero => exact ⟨[], refines_init⟩
    | succ n ih =>
      obtain ⟨l, hl⟩ := ih
      obtain ⟨l', hl'⟩ := hl.step (inv_foldl inv_init l) (hfits n)
      refine ⟨l ++ l', ?_⟩
      rw [List.foldl_append]
      exact hl'
  obtain ⟨l, hl⟩ := hrun
  refine ⟨listInputs l (.accept .bound), l.length, ?_⟩
  rw [stateAt, runState_listInputs _ le_rfl, List.take_length]
  exact hl

end AcceptLoop
end TcpUdp
