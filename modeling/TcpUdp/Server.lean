import TcpUdp.ServerTables
import TcpUdp.Lifecycle
import Mathlib.Data.Fintype.Defs
import Mathlib.Data.Finset.Insert

/-!
# The accept loop and the disconnect callbacks

`Server::AcceptConnections` beside the channels that it has created: their two workers, whose
`disconnectCB` ends in the callback that the loop has set, the thread that reads their UDP
socket, and their destructors. A step is one access to what the threads share, so a callback
may stand still anywhere while the loop takes in new sockets of the same client.

`VcManager` and a thread that runs keep a channel alive, and so do the locals of the loop.
-/

namespace TcpUdp

open Lib

/-- A channel, by its client and the number of channels of that client before it. -/
structure ChannelId where
  clientId : ClientId
  vc : VcId
  deriving DecidableEq, Repr

namespace Server

/-- The threads of a channel that run its `disconnectCB`. -/
inductive Worker where
  | io
  | send
  deriving DecidableEq, Repr

instance : Fintype Worker := ⟨{.io, .send}, fun w => by cases w <;> decide⟩

/-- The number of a worker's calls in the `Lifecycle` of its channel. -/
def Worker.call : Worker → ℕ
  | .io => 0
  | .send => 1

/-- The callback that the accept loop sets on a channel, by its next action. -/
inductive CleanupPc where
  /-- `VcManager::Exists`. -/
  | checkingVc
  /-- `VcManager::Remove`. -/
  | removingVc
  /-- `PeerManager::RemovePeer`. -/
  | removingPeer
  /-- `SocketClose(udpSocket)`. -/
  | closingUdp
  /-- `clientConnSlots.erase`. -/
  | erasingSlots
  deriving DecidableEq, Repr

/-- What the accept loop has read from a socket. -/
structure Accepted where
  clientSocket : SocketFd
  bindMsg : MsgBind
  deriving DecidableEq, Repr

def Accepted.clientId (a : Accepted) : ClientId := a.bindMsg.clientId

/-- The handling of an accepted socket, by its next action. -/
inductive HandlingPc where
  /-- `VcManager::Get`. -/
  | looking
  /-- In `close()` of the stale channel. -/
  | closing (vc : VcId)
  | checkingStale
  | removingStale
  /-- The look-up in `clientConnSlots`. -/
  | findingSlot (vc : VcId)
  | choosingSlot (vc : VcId) (connIdSlot : ℤ)
  | replacing (vc : VcId) (targetSlot : ℕ)
  | registering (vc : VcId) (targetSlot : ℕ)
  | addingPeer
  | gettingPeer
  | addingSocket
  | counting
  | gettingSockets
  /-- The channel is created, and `VcManager::Add`. -/
  | creating (fds : List SocketFd)
  | buildingSlots (vc : VcId) (fds : List SocketFd)
  | settingUdp (vc : VcId)
  | opening (vc : VcId)
  deriving DecidableEq, Repr

/-- `AcceptConnections()`. -/
inductive AcceptPc where
  /-- In `accept()`, or reading the `MsgBind`. -/
  | waiting
  | handling (a : Accepted) (pc : HandlingPc)
  /-- The loop has used the address of a `Peer` that was gone. -/
  | undefined
  /-- Out of the loop. -/
  | stopped
  deriving DecidableEq, Repr

end Server

open Server

structure Server where
  tables : ServerTables := {}
  channels : ChannelId → Lifecycle := fun _ => .init 0 true
  /-- The number of channels of each client. -/
  nextVc : ClientId → VcId := fun _ => 0
  cleanups : ChannelId → Worker → CleanupPc := fun _ _ => .checkingVc
  accept : AcceptPc := .waiting
  /-- The channels that the locals `existingVc` and `vc` of the loop refer to. -/
  held : List ChannelId := []
  /-- The UDP thread, which has a `vc` of its own, is running. -/
  udpThreads : ChannelId → Bool := fun _ => false
  /-- The destructor has been entered. -/
  destroyed : ChannelId → Bool := fun _ => false
  /-- The channel that a `Peer` was made, or is used again, for. -/
  peerOwner : ClientId → VcId := fun _ => 0
  /-- The channel that an entry of `clientConnSlots` was made or built for. -/
  slotsOwner : ClientId → VcId := fun _ => 0
  /-- The channels that the accept loop has closed. -/
  closedStale : List ChannelId := []

namespace Server

/-! ## Channels -/

def Created (s : Server) (ch : ChannelId) : Prop := ch.vc < s.nextVc ch.clientId

instance (s : Server) (ch : ChannelId) : Decidable (s.Created ch) :=
  inferInstanceAs (Decidable (ch.vc < s.nextVc ch.clientId))

def setChannel (s : Server) (ch : ChannelId) (l : Lifecycle) : Server :=
  { s with channels := fun ch' => if ch' = ch then l else s.channels ch' }

def stepChannel (s : Server) (ch : ChannelId) (e : Lifecycle.Event) : Server :=
  s.setChannel ch ((s.channels ch).step e)

def setTables (s : Server) (tables : ServerTables) : Server := { s with tables := tables }

/-- The worker has been started and not been joined. -/
def HasThread (s : Server) (ch : ChannelId) : Worker → Prop
  | .io => (s.channels ch).ioThread ≠ none
  | .send => (s.channels ch).sendThread ≠ none

instance (s : Server) (ch : ChannelId) : (w : Worker) → Decidable (s.HasThread ch w)
  | .io => inferInstanceAs (Decidable ((s.channels ch).ioThread ≠ none))
  | .send => inferInstanceAs (Decidable ((s.channels ch).sendThread ≠ none))

/-! ## The disconnect callback -/

def setCleanup (s : Server) (ch : ChannelId) (w : Worker) (pc : CleanupPc) : Server :=
  { s with cleanups := Function.update s.cleanups ch (Function.update (s.cleanups ch) w pc) }

def cleanupStep (s : Server) (ch : ChannelId) (w : Worker) : Server :=
  match s.cleanups ch w with
  | .checkingVc =>
    s.setCleanup ch w (if (s.tables.vcs ch.clientId).isSome then .removingVc else .removingPeer)
  | .removingVc => (s.setTables (s.tables.removeVc ch.clientId)).setCleanup ch w .removingPeer
  | .removingPeer => (s.setTables (s.tables.removePeer ch.clientId)).setCleanup ch w .closingUdp
  | .closingUdp => s.setCleanup ch w .erasingSlots
  | .erasingSlots =>
    ((s.setTables (s.tables.eraseSlots ch.clientId)).setCleanup ch w .checkingVc).stepChannel ch
      (.callback w.call)

/-- The worker goes on with its `disconnectCB`. -/
def disconnectCB (s : Server) (ch : ChannelId) (w : Worker) : Server :=
  if (s.channels ch).callbacks w.call = .inCallback then s.cleanupStep ch w
  else s.stepChannel ch (.callback w.call)

/-! ## The accept loop -/

def goto (s : Server) (a : Accepted) (pc : HandlingPc) : Server :=
  { s with accept := .handling a pc }

/-- The locals go out of scope. -/
def leave (s : Server) (pc : AcceptPc) : Server := { s with accept := pc, held := [] }

def look (s : Server) (a : Accepted) : Server :=
  match s.tables.vcs a.clientId with
  | some vc =>
    let s' := { s with held := [⟨a.clientId, vc⟩] }
    if a.bindMsg.slotIndex < 0 then
      (s'.stepChannel ⟨a.clientId, vc⟩ (.callClose 0)).goto a (.closing vc)
    else s'.goto a (.findingSlot vc)
  | none => s.goto a .addingPeer

/-- `stop()` waits until the thread has left its `disconnectCB`. -/
def Joinable (l : Lifecycle) : Prop :=
  (l.closes 0 = .stoppingSend → l.callbacks Worker.send.call = .idle)
    ∧ (l.closes 0 = .stoppingIo → l.callbacks Worker.io.call = .idle)

instance (l : Lifecycle) : Decidable (Joinable l) := inferInstanceAs (Decidable (_ ∧ _))

def closeStale (s : Server) (a : Accepted) (vc : VcId) : Server :=
  let ch : ChannelId := ⟨a.clientId, vc⟩
  if Joinable (s.channels ch) then
    let s' := s.stepChannel ch (.close 0)
    if (s'.channels ch).closes 0 = .idle then
      { s' with closedStale := ch :: s.closedStale }.goto a .checkingStale
    else s'
  else s

def getDeadSlots (l : Lifecycle) : List ℕ :=
  (List.range l.connections.length).filter fun i =>
    ((l.connections[i]?).map l.connected) != some true

def chooseSlot (s : Server) (a : Accepted) (vc : VcId) (connIdSlot : ℤ) : Server :=
  let l := s.channels ⟨a.clientId, vc⟩
  if l.disconnectMutex = none then
    let targetSlot :=
      decideReplaceSlot connIdSlot a.bindMsg.slotIndex vcTcpConnections (getDeadSlots l)
    if targetSlot < 0 then s.leave .waiting else s.goto a (.replacing vc targetSlot.toNat)
  else s

def replace (s : Server) (a : Accepted) (vc : VcId) (targetSlot : ℕ) : Server :=
  if (s.channels ⟨a.clientId, vc⟩).disconnectMutex = none then
    (s.stepChannel ⟨a.clientId, vc⟩ (.replaceConnection targetSlot)).goto a
      (.registering vc targetSlot)
  else s

def register (s : Server) (a : Accepted) (vc : VcId) (targetSlot : ℕ) : Server :=
  { s with
    tables := s.tables.registerReplacement a.bindMsg targetSlot
    slotsOwner := if a.bindMsg.connectionId ≠ 0 then Function.update s.slotsOwner a.clientId vc
      else s.slotsOwner }.leave .waiting

def addPeer (s : Server) (a : Accepted) : Server :=
  { s with
    tables := (s.tables.registerSocket a.clientSocket a.bindMsg).addPeer a.clientId
    peerOwner := Function.update s.peerOwner a.clientId (s.nextVc a.clientId) }.goto a .gettingPeer

/-- The loop uses the address that `GetPeerById` returned. -/
def withPeer (s : Server) (a : Accepted) (f : Peer → Server) : Server :=
  match s.tables.peers a.clientId with
  | some peer => f peer
  | none => { s with accept := .undefined }

def create (s : Server) (a : Accepted) (fds : List SocketFd) : Server :=
  let vc := s.nextVc a.clientId
  { s.setChannel ⟨a.clientId, vc⟩ (.init fds.length true) with
    tables := s.tables.addVc a.clientId vc
    nextVc := Function.update s.nextVc a.clientId (vc + 1)
    held := ⟨a.clientId, vc⟩ :: s.held }.goto a (.buildingSlots vc fds)

def buildSlots (s : Server) (a : Accepted) (vc : VcId) (fds : List SocketFd) : Server :=
  { s with
    tables := s.tables.buildSlotMap a.clientId fds
    slotsOwner := Function.update s.slotsOwner a.clientId vc }.goto a (.settingUdp vc)

/-- `peer->SetUdpSocket`, the callbacks and the UDP thread. -/
def setUdp (s : Server) (a : Accepted) (vc : VcId) : Server :=
  s.withPeer a fun _ =>
    { s with udpThreads := Function.update s.udpThreads ⟨a.clientId, vc⟩ true }.goto a (.opening vc)

def openVc (s : Server) (a : Accepted) (vc : VcId) : Server :=
  let s' := s.stepChannel ⟨a.clientId, vc⟩ .opening
  if (s'.channels ⟨a.clientId, vc⟩).openPc = .returned then s'.leave .waiting else s'

def handle (s : Server) (a : Accepted) : HandlingPc → Server
  | .looking => s.look a
  | .closing vc => s.closeStale a vc
  | .checkingStale =>
    s.goto a (if (s.tables.vcs a.clientId).isSome then .removingStale else .addingPeer)
  | .removingStale => (s.setTables (s.tables.removeVc a.clientId)).goto a .addingPeer
  | .findingSlot vc => s.goto a (.choosingSlot vc (s.tables.connIdSlot a.bindMsg))
  | .choosingSlot vc connIdSlot => s.chooseSlot a vc connIdSlot
  | .replacing vc targetSlot => s.replace a vc targetSlot
  | .registering vc targetSlot => s.register a vc targetSlot
  | .addingPeer => s.addPeer a
  | .gettingPeer =>
    if (s.tables.peers a.clientId).isSome then s.goto a .addingSocket else s.leave .waiting
  | .addingSocket => s.withPeer a fun peer =>
    (s.setTables (s.tables.setPeer a.clientId (peer.addSocket a.clientSocket))).goto a .counting
  | .counting => s.withPeer a fun peer =>
    if peer.getSocketCount ≥ vcTcpConnections then s.goto a .gettingSockets else s.leave .waiting
  | .gettingSockets => s.withPeer a fun peer => s.goto a (.creating peer.sockets)
  | .creating fds => s.create a fds
  | .buildingSlots vc fds => s.buildSlots a vc fds
  | .settingUdp vc => s.setUdp a vc
  | .opening vc => s.openVc a vc

/-- The next action of the accept loop, when it handles a socket. -/
def acceptStep (s : Server) : Server :=
  match s.accept with
  | .handling a pc => s.handle a pc
  | _ => s

/-- The UDP socket cannot be made, and the loop ends. -/
def udpFailure (s : Server) : Server :=
  match s.accept with
  | .handling _ (.settingUdp _) => s.leave .stopped
  | _ => s

/-! ## The destructor -/

/-- Nothing refers to the channel: not `VcManager`, the accept loop or the UDP thread, and
not the callbacks that its own threads hold. -/
def Unreferenced (s : Server) (ch : ChannelId) : Prop :=
  s.tables.vcs ch.clientId ≠ some ch.vc ∧ ch ∉ s.held ∧ s.udpThreads ch = false
    ∧ (s.channels ch).ioThread = none ∧ (s.channels ch).sendThread = none

instance (s : Server) (ch : ChannelId) : Decidable (s.Unreferenced ch) :=
  inferInstanceAs (Decidable (_ ∧ _))

/-- `close()` of the destructor. -/
def destructor (s : Server) (ch : ChannelId) : Server :=
  if s.destroyed ch then s.stepChannel ch (.close 1)
  else if s.Unreferenced ch then
    { s with destroyed := Function.update s.destroyed ch true }.stepChannel ch (.callClose 1)
  else s

/-! ## Runs -/

inductive Event where
  /-- `accept()` returns, and the `MsgBind` has been read. -/
  | accepted (a : Accepted)
  /-- The next action of the accept loop. -/
  | accept
  | udpFailure
  | death (ch : ChannelId) (w : Worker) (c : ConnId)
  | disconnectCB (ch : ChannelId) (w : Worker)
  /-- `recv` fails in the UDP thread. -/
  | udpExit (ch : ChannelId)
  | destructor (ch : ChannelId)
  deriving DecidableEq, Repr

def step (s : Server) : Event → Server
  | .accepted a => if s.accept = .waiting then s.goto a .looking else s
  | .accept => s.acceptStep
  | .udpFailure => s.udpFailure
  | .death ch w c =>
    if s.Created ch ∧ s.HasThread ch w then s.stepChannel ch (.death w.call c) else s
  | .disconnectCB ch w => if s.Created ch then s.disconnectCB ch w else s
  | .udpExit ch => { s with udpThreads := Function.update s.udpThreads ch false }
  | .destructor ch => if s.Created ch then s.destructor ch else s

def stateAt (events : ℕ → Event) (n : ℕ) : Server := runState step {} events n

end Server
end TcpUdp
