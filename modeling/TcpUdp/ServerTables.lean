import TcpUdp.VcProtocol
import TcpUdp.Descriptors

/-!
# The tables of the server

What `Server::AcceptConnections` and the disconnect callback of a channel read and write:
`VcManager`, `PeerManager`, and the two maps that lead from a connection id to a slot. All of
them are looked up by the client id that a `MsgBind` carries, never by the socket.
-/

namespace TcpUdp

abbrev ClientId := ℕ
abbrev ConnectionId := ℕ

/-- A virtual channel, by its number in the order of creation. -/
abbrev VcId := ℕ

structure MsgBind where
  clientId : ClientId
  /-- `-1` for an initial connection. -/
  slotIndex : ℤ := -1
  /-- `0` when there is none. -/
  connectionId : ConnectionId := 0
  deriving DecidableEq, Repr

/-- Which slot an incoming replacement is swapped into; `-1` to reject it. -/
def decideReplaceSlot (connIdSlot slotIndex : ℤ) (numSlots : ℕ) (deadSlots : List ℕ) : ℤ :=
  if connIdSlot ≥ 0 then connIdSlot
  else if slotIndex ≥ 0 ∧ slotIndex < numSlots then slotIndex
  else match deadSlots with
    | slot :: _ => slot
    | [] => -1

lemma decideReplaceSlot_of_mapped {connIdSlot : ℤ} (h : 0 ≤ connIdSlot) (slotIndex : ℤ)
    (numSlots : ℕ) (deadSlots : List ℕ) :
    decideReplaceSlot connIdSlot slotIndex numSlots deadSlots = connIdSlot := if_pos h

lemma decideReplaceSlot_of_slotIndex {connIdSlot slotIndex : ℤ} {numSlots : ℕ}
    (h : connIdSlot < 0) (hslot : 0 ≤ slotIndex ∧ slotIndex < numSlots) (deadSlots : List ℕ) :
    decideReplaceSlot connIdSlot slotIndex numSlots deadSlots = slotIndex := by
  unfold decideReplaceSlot
  rw [if_neg (not_le.mpr h), if_pos hslot]

/-! ## Peers -/

structure Peer where
  sockets : List SocketFd := []
  deriving DecidableEq, Repr

namespace Peer

def getSocketCount (peer : Peer) : ℕ := peer.sockets.length

/-- There are enough sockets; one more is closed. -/
def Excess (peer : Peer) : Prop := vcTcpConnections ≤ peer.sockets.length

instance (peer : Peer) : Decidable peer.Excess :=
  inferInstanceAs (Decidable (vcTcpConnections ≤ peer.sockets.length))

def addSocket (peer : Peer) (socket : SocketFd) : Peer :=
  if peer.Excess then peer else { peer with sockets := peer.sockets ++ [socket] }

lemma addSocket_of_excess {peer : Peer} (h : peer.Excess) (socket : SocketFd) :
    peer.addSocket socket = peer := if_pos h

lemma sockets_addSocket {peer : Peer} (h : ¬ peer.Excess) (socket : SocketFd) :
    (peer.addSocket socket).sockets = peer.sockets ++ [socket] :=
  congrArg sockets (if_neg h)

end Peer

/-! ## The tables -/

abbrev SlotMap := ConnectionId → Option ℕ

structure ServerTables where
  /-- `VcManager`. -/
  vcs : ClientId → Option VcId := fun _ => none
  /-- `PeerManager`. -/
  peers : ClientId → Option Peer := fun _ => none
  clientConnSlots : ClientId → Option SlotMap := fun _ => none
  socketToConnId : SocketFd → Option ConnectionId := fun _ => none

namespace ServerTables

/-- `VcManager::Add`. -/
def addVc (t : ServerTables) (clientId : ClientId) (vc : VcId) : ServerTables :=
  { t with vcs := Function.update t.vcs clientId (some vc) }

/-- `VcManager::Remove`. -/
def removeVc (t : ServerTables) (clientId : ClientId) : ServerTables :=
  { t with vcs := Function.update t.vcs clientId none }

def setPeer (t : ServerTables) (clientId : ClientId) (peer : Peer) : ServerTables :=
  { t with peers := Function.update t.peers clientId (some peer) }

/-- `PeerManager::AddPeer`. A peer that is there is flushed only when `VcManager` has a
channel of the client; the sockets of `flushedByAddPeer` are then closed. -/
def addPeer (t : ServerTables) (clientId : ClientId) : ServerTables :=
  match t.peers clientId with
  | none => t.setPeer clientId {}
  | some _ => if (t.vcs clientId).isSome then t.setPeer clientId {} else t

def flushedByAddPeer (t : ServerTables) (clientId : ClientId) : List SocketFd :=
  match t.peers clientId with
  | none => []
  | some peer => if (t.vcs clientId).isSome then peer.sockets else []

/-- `PeerManager::RemovePeer`. -/
def removePeer (t : ServerTables) (clientId : ClientId) : ServerTables :=
  { t with peers := Function.update t.peers clientId none }

/-- `socketToConnId[clientSocket] = bindMsg.connectionId`. -/
def registerSocket (t : ServerTables) (clientSocket : SocketFd) (bindMsg : MsgBind) :
    ServerTables :=
  if bindMsg.connectionId ≠ 0 then
    { t with
      socketToConnId := Function.update t.socketToConnId clientSocket (some bindMsg.connectionId) }
  else t

/-- The slot that the connection id of a replacement leads to, or `-1`. -/
def connIdSlot (t : ServerTables) (bindMsg : MsgBind) : ℤ :=
  if bindMsg.connectionId ≠ 0 then
    match t.clientConnSlots bindMsg.clientId with
    | some slotMap => ((slotMap bindMsg.connectionId).map fun slot => (slot : ℤ)).getD (-1)
    | none => -1
  else -1

def setSlotMap (t : ServerTables) (clientId : ClientId) (slotMap : SlotMap) : ServerTables :=
  { t with clientConnSlots := Function.update t.clientConnSlots clientId (some slotMap) }

/-- `clientConnSlots[clientId]`, which makes an entry when there is none. -/
def slotMapOf (t : ServerTables) (clientId : ClientId) : SlotMap :=
  (t.clientConnSlots clientId).getD fun _ => none

/-- Entries that point at the slot are dropped, and the id that was sent gets it. -/
def registerReplacement (t : ServerTables) (bindMsg : MsgBind) (targetSlot : ℕ) : ServerTables :=
  if bindMsg.connectionId ≠ 0 then
    let slotMap := t.slotMapOf bindMsg.clientId
    let others : SlotMap := fun id => if slotMap id = some targetSlot then none else slotMap id
    t.setSlotMap bindMsg.clientId (Function.update others bindMsg.connectionId (some targetSlot))
  else t

/-- The loop that builds the map from connection ids to slots, from slot `i` on. -/
def assignSlots (socketToConnId : SocketFd → Option ConnectionId) (slotMap : SlotMap) :
    List SocketFd → ℕ → SlotMap × (SocketFd → Option ConnectionId)
  | [], _ => (slotMap, socketToConnId)
  | fd :: fds, i =>
    match socketToConnId fd with
    | some id =>
      assignSlots (Function.update socketToConnId fd none) (Function.update slotMap id (some i))
        fds (i + 1)
    | none => assignSlots socketToConnId slotMap fds (i + 1)

def buildSlotMap (t : ServerTables) (clientId : ClientId) (fds : List SocketFd) : ServerTables :=
  let built := assignSlots t.socketToConnId (t.slotMapOf clientId) fds 0
  { t.setSlotMap clientId built.1 with socketToConnId := built.2 }

/-- `clientConnSlots.erase(clientId)`. -/
def eraseSlots (t : ServerTables) (clientId : ClientId) : ServerTables :=
  { t with clientConnSlots := Function.update t.clientConnSlots clientId none }

/-- What the accept loop does with an initial connection, up to the count of the sockets. -/
def accumulate (t : ServerTables) (clientSocket : SocketFd) (bindMsg : MsgBind) : ServerTables :=
  let t := (t.registerSocket clientSocket bindMsg).addPeer bindMsg.clientId
  match t.peers bindMsg.clientId with
  | some peer => t.setPeer bindMsg.clientId (peer.addSocket clientSocket)
  | none => t

/-- The sockets of the channel that is created, when there are enough. -/
def enoughSockets (t : ServerTables) (clientId : ClientId) : Option (List SocketFd) :=
  match t.peers clientId with
  | some peer => if peer.getSocketCount ≥ vcTcpConnections then some peer.sockets else none
  | none => none

/-- What the creation of a channel writes. -/
def createVc (t : ServerTables) (clientId : ClientId) (vc : VcId) (fds : List SocketFd) :
    ServerTables :=
  (t.addVc clientId vc).buildSlotMap clientId fds

/-! ## Accumulating sockets -/

section Accumulate

variable {t : ServerTables} {bindMsg : MsgBind}

lemma registerSocket_eq (t : ServerTables) (clientSocket : SocketFd) (bindMsg : MsgBind) :
    ∃ socketToConnId, t.registerSocket clientSocket bindMsg
      = { t with socketToConnId := socketToConnId } := by
  rw [registerSocket]
  split_ifs
  · exact ⟨_, rfl⟩
  · exact ⟨t.socketToConnId, rfl⟩

/-- Without a channel of the client, its peer just gets the socket. -/
lemma accumulate_eq (h : t.vcs bindMsg.clientId = none) (clientSocket : SocketFd) :
    t.accumulate clientSocket bindMsg = (t.registerSocket clientSocket bindMsg).setPeer
      bindMsg.clientId (((t.peers bindMsg.clientId).getD {}).addSocket clientSocket) := by
  obtain ⟨socketToConnId, hreg⟩ := registerSocket_eq t clientSocket bindMsg
  rw [accumulate, hreg]
  simp only [addPeer, h]
  cases hpeer : t.peers bindMsg.clientId with
  | none =>
    simp only [setPeer, Function.update_self, Function.update_idem]
    rfl
  | some peer =>
    simp only [Option.isSome_none, Bool.false_eq_true, if_false, hpeer]
    rfl

end Accumulate

/-! ## From connection ids to slots -/

section Slots

variable {t : ServerTables} {bindMsg : MsgBind}

lemma connIdSlot_eq (h : bindMsg.connectionId ≠ 0) : t.connIdSlot bindMsg
    = ((t.slotMapOf bindMsg.clientId bindMsg.connectionId).map fun slot => (slot : ℤ)).getD (-1) := by
  rw [connIdSlot, if_pos h, slotMapOf]
  cases t.clientConnSlots bindMsg.clientId <;> rfl

lemma slotMapOf_setSlotMap (clientId : ClientId) (slotMap : SlotMap) :
    (t.setSlotMap clientId slotMap).slotMapOf clientId = slotMap := by
  show (Function.update t.clientConnSlots clientId (some slotMap) clientId).getD _ = _
  rw [Function.update_self]
  rfl

lemma registerReplacement_eq (t : ServerTables) (bindMsg : MsgBind) (targetSlot : ℕ) :
    ∃ clientConnSlots, t.registerReplacement bindMsg targetSlot
      = { t with clientConnSlots := clientConnSlots } := by
  rw [registerReplacement]
  split_ifs
  · exact ⟨_, rfl⟩
  · exact ⟨t.clientConnSlots, rfl⟩

lemma slotMapOf_registerReplacement (t : ServerTables) (bindMsg : MsgBind)
    (h : bindMsg.connectionId ≠ 0) (targetSlot : ℕ) (id : ConnectionId) :
    (t.registerReplacement bindMsg targetSlot).slotMapOf bindMsg.clientId id
      = if id = bindMsg.connectionId then some targetSlot
        else if t.slotMapOf bindMsg.clientId id = some targetSlot then none
        else t.slotMapOf bindMsg.clientId id := by
  rw [registerReplacement, if_pos h, slotMapOf_setSlotMap, Function.update_apply]

variable {socketToConnId : SocketFd → Option ConnectionId}

/-- An id that no socket of the list was registered with keeps its slot. -/
lemma assignSlots_other {fds : List SocketFd} {id : ConnectionId}
    (h : ∀ fd ∈ fds, socketToConnId fd ≠ some id) (slotMap : SlotMap) (i : ℕ) :
    (assignSlots socketToConnId slotMap fds i).1 id = slotMap id := by
  induction fds generalizing socketToConnId slotMap i with
  | nil => rfl
  | cons fd fds ih =>
    rw [assignSlots]
    split
    · rename_i id' hreg
      rw [ih, Function.update_of_ne]
      · rintro rfl
        exact h fd (List.mem_cons_self ..) hreg
      · intro fd' hfd' heq
        rw [Function.update_apply] at heq
        split_ifs at heq
        exact h fd' (List.mem_cons_of_mem _ hfd') heq
    · exact ih (fun fd' hfd' => h fd' (List.mem_cons_of_mem _ hfd')) slotMap (i + 1)

/-- The id of a socket leads to its place in the list. -/
lemma assignSlots_getElem {fds : List SocketFd} (hnodup : fds.Nodup)
    (hinj : ∀ fd ∈ fds, ∀ fd' ∈ fds, ∀ id, socketToConnId fd = some id →
      socketToConnId fd' = some id → fd = fd') (slotMap : SlotMap) (i : ℕ) {j : ℕ}
    (hj : j < fds.length) {id : ConnectionId} (hid : socketToConnId fds[j] = some id) :
    (assignSlots socketToConnId slotMap fds i).1 id = some (i + j) := by
  induction fds generalizing socketToConnId slotMap i j with
  | nil => exact absurd hj (Nat.not_lt_zero j)
  | cons fd fds ih =>
    obtain ⟨hfd, hnodup⟩ := List.nodup_cons.mp hnodup
    have hne : ∀ {fd'}, fd' ∈ fds → fd' ≠ fd := fun hfd' heq => hfd (heq ▸ hfd')
    have htail : ∀ fd₁ ∈ fds, ∀ fd₂ ∈ fds, ∀ id, socketToConnId fd₁ = some id →
        socketToConnId fd₂ = some id → fd₁ = fd₂ := fun fd₁ h₁ fd₂ h₂ =>
      hinj fd₁ (List.mem_cons_of_mem _ h₁) fd₂ (List.mem_cons_of_mem _ h₂)
    rw [assignSlots]
    cases j with
    | zero =>
      rw [List.getElem_cons_zero] at hid
      rw [hid]
      refine (assignSlots_other (fun fd' hfd' heq => ?_) _ _).trans (Function.update_self ..)
      rw [Function.update_of_ne (hne hfd')] at heq
      exact hne hfd' (hinj fd' (List.mem_cons_of_mem _ hfd') fd (List.mem_cons_self ..) id heq hid)
    | succ j =>
      rw [List.getElem_cons_succ] at hid
      have hj := Nat.lt_of_succ_lt_succ hj
      rw [Nat.add_comm j 1, ← Nat.add_assoc]
      split
      · refine ih hnodup (fun fd₁ h₁ fd₂ h₂ => ?_) _ _ hj ?_
        · rw [Function.update_of_ne (hne h₁), Function.update_of_ne (hne h₂)]
          exact htail fd₁ h₁ fd₂ h₂
        · rw [Function.update_of_ne (hne (List.getElem_mem hj))]
          exact hid
      · exact ih hnodup htail _ _ hj hid

end Slots

end ServerTables
end TcpUdp
