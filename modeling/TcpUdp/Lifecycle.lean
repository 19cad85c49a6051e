import TcpUdp.SendThread

/-!
# Opening, losing and closing a channel

`TcpVirtualChannel::open()`, the `disconnectCB` that it hands to its IO and send threads,
`replaceConnection` and `close()` as interleaved atomic steps. A worker that detects a death
disconnects the connection and then runs `disconnectCB`; any number of these calls, and of
calls of `close()`, may be in progress at the same time. `disconnectMutex` keeps the calls
of `disconnectCB` apart from each other and from `replaceConnection`, not from `close()`
and not from the deaths.

Waiting for a thread to end is not modelled: every step is possible at any time.
-/

namespace TcpUdp

open Lib

namespace Lifecycle

/-! ## Calls in progress -/

/-- `open()`, by its next action. -/
inductive OpenPc where
  /-- `reorderRunning = true`, and the reorder thread. -/
  | startingReorder
  | startingIo
  | startingSend
  /-- `opened = true`. -/
  | publishing
  | returned
  deriving DecidableEq, Repr

/-- A call of `disconnectCB`, by its next action. -/
inductive CallbackPc where
  | idle
  /-- The connection is disconnected; the lock comes next. -/
  | locking
  /-- `if (!self->opened)`. -/
  | checking
  | counting (i aliveCount : ℕ)
  /-- `self->opened = false`, and whether there is somebody to notify. -/
  | storing
  | stoppingIo (shouldNotify : Bool)
  | stoppingSend (shouldNotify : Bool)
  | disconnecting (i : ℕ) (shouldNotify : Bool)
  /-- The lock is released. -/
  | notifying (shouldNotify : Bool)
  /-- In the VC-level `disconnectCallback`. -/
  | inCallback
  deriving DecidableEq, Repr

namespace CallbackPc

/-- Between the lock and the unlock. -/
def inside : CallbackPc → Bool
  | checking | counting _ _ | storing | stoppingIo _ | stoppingSend _ | disconnecting _ _ => true
  | _ => false

/-- After the store of `false` into `opened`, with the flag that was decided there. -/
def stored? : CallbackPc → Option Bool
  | stoppingIo shouldNotify | stoppingSend shouldNotify | disconnecting _ shouldNotify
  | notifying shouldNotify => some shouldNotify
  | _ => none

/-- Between the check of `opened` and the store. -/
def deciding : CallbackPc → Bool
  | counting _ _ | storing => true
  | _ => false

end CallbackPc

/-- A call of `close()`, by its next action. -/
inductive ClosePc where
  | idle
  /-- `opened.exchange(false)`. -/
  | exchanging
  | stoppingSend
  | stoppingIo
  | disconnecting (i : ℕ)
  | stoppingReorder
  deriving DecidableEq, Repr

end Lifecycle

open Lifecycle

structure Lifecycle where
  connections : List ConnId
  connected : ConnId → Bool
  nextConn : ConnId
  opened : Bool := false
  openPc : OpenPc := .startingReorder
  /-- The `running` flag of the IO thread; `none` when the pointer is null. -/
  ioThread : Option Bool := none
  sendThread : Option Bool := none
  reorderRunning : Bool := false
  /-- `disconnectCallback != nullptr`. -/
  hasDisconnectCallback : Bool
  disconnectMutex : Option ℕ := none
  callbacks : ℕ → CallbackPc := fun _ => .idle
  closes : ℕ → ClosePc := fun _ => .idle
  /-- The calls that have invoked the VC-level callback. -/
  notifications : List ℕ := []
  /-- Some `close()` has been called. -/
  closeCalled : Bool := false
  /-- Some `close()` has taken its teardown branch. -/
  closeClaimed : Bool := false

namespace Lifecycle

/-! ## Steps -/

def setCallback (s : Lifecycle) (k : ℕ) (pc : CallbackPc) : Lifecycle :=
  { s with callbacks := Function.update s.callbacks k pc }

def setClose (s : Lifecycle) (k : ℕ) (pc : ClosePc) : Lifecycle :=
  { s with closes := Function.update s.closes k pc }

def disconnect (s : Lifecycle) (c : ConnId) : Lifecycle :=
  { s with connected := Function.update s.connected c false }

def setMutex (s : Lifecycle) (holder : Option ℕ) : Lifecycle :=
  { s with disconnectMutex := holder }

/-- `setRunning(false)`, if there is a thread. -/
def stopIo (s : Lifecycle) : Lifecycle := { s with ioThread := s.ioThread.map fun _ => false }

def stopSend (s : Lifecycle) : Lifecycle := { s with sendThread := s.sendThread.map fun _ => false }

/-- The body of the loops that disconnect what is left. -/
def disconnectSlot (s : Lifecycle) (i : ℕ) : Lifecycle :=
  match s.connections[i]? with
  | some c => if s.connected c then s.disconnect c else s
  | none => s

def openStep (s : Lifecycle) : Lifecycle :=
  match s.openPc with
  | .startingReorder => { s with reorderRunning := true, openPc := .startingIo }
  | .startingIo => { s with ioThread := some true, openPc := .startingSend }
  | .startingSend => { s with sendThread := some true, openPc := .publishing }
  | .publishing => { s with opened := true, openPc := .returned }
  | .returned => s

/-- Some worker thread is running. -/
def workersStarted (s : Lifecycle) : Bool :=
  match s.openPc with
  | .startingReorder | .startingIo => false
  | _ => true

/-- A worker finds connection `c` dead. -/
def death (s : Lifecycle) (k : ℕ) (c : ConnId) : Lifecycle :=
  if s.workersStarted ∧ s.callbacks k = .idle then (s.disconnect c).setCallback k .locking else s

def callbackStep (s : Lifecycle) (k : ℕ) : Lifecycle :=
  match s.callbacks k with
  | .idle => s
  | .locking =>
    if s.disconnectMutex = none then (s.setMutex (some k)).setCallback k .checking else s
  | .checking =>
    if s.opened then s.setCallback k (.counting 0 0) else (s.setMutex none).setCallback k .idle
  | .counting i aliveCount =>
    match s.connections[i]? with
    | some c => s.setCallback k (.counting (i + 1) (if s.connected c then aliveCount + 1 else aliveCount))
    | none =>
      if aliveCount > 0 then (s.setMutex none).setCallback k .idle else s.setCallback k .storing
  | .storing => { s with opened := false }.setCallback k (.stoppingIo s.hasDisconnectCallback)
  | .stoppingIo shouldNotify => s.stopIo.setCallback k (.stoppingSend shouldNotify)
  | .stoppingSend shouldNotify => s.stopSend.setCallback k (.disconnecting 0 shouldNotify)
  | .disconnecting i shouldNotify =>
    if i < s.connections.length then
      (s.disconnectSlot i).setCallback k (.disconnecting (i + 1) shouldNotify)
    else (s.setMutex none).setCallback k (.notifying shouldNotify)
  | .notifying shouldNotify =>
    if shouldNotify && s.hasDisconnectCallback then
      { s with notifications := k :: s.notifications }.setCallback k .inCallback
    else s.setCallback k .idle
  | .inCallback => s.setCallback k .idle

/-- `replaceConnection`; other slots do not exist. -/
def replaceConnection (s : Lifecycle) (slotIndex : ℕ) : Lifecycle :=
  if s.disconnectMutex = none ∧ slotIndex < s.connections.length then
    { s with
      connections := s.connections.set slotIndex s.nextConn
      connected := Function.update s.connected s.nextConn true
      nextConn := s.nextConn + 1 }
  else s

def callClose (s : Lifecycle) (k : ℕ) : Lifecycle :=
  if s.closes k = .idle then { s with closeCalled := true }.setClose k .exchanging else s

def closeStep (s : Lifecycle) (k : ℕ) : Lifecycle :=
  match s.closes k with
  | .idle => s
  | .exchanging =>
    let wasOpen := s.opened
    { s with opened := false, closeClaimed := s.closeClaimed || wasOpen }.setClose k
      (if wasOpen then .stoppingSend else .stoppingReorder)
  | .stoppingSend => { s with sendThread := none }.setClose k .stoppingIo
  | .stoppingIo => { s with ioThread := none }.setClose k (.disconnecting 0)
  | .disconnecting i =>
    if i < s.connections.length then (s.disconnectSlot i).setClose k (.disconnecting (i + 1))
    else s.setClose k .stoppingReorder
  | .stoppingReorder => { s with reorderRunning := false }.setClose k .idle

inductive Event where
  | opening
  | death (k : ℕ) (c : ConnId)
  | callback (k : ℕ)
  | replaceConnection (slotIndex : ℕ)
  | callClose (k : ℕ)
  | close (k : ℕ)
  deriving DecidableEq, Repr

def step (s : Lifecycle) : Event → Lifecycle
  | .opening => s.openStep
  | .death k c => s.death k c
  | .callback k => s.callbackStep k
  | .replaceConnection slotIndex => s.replaceConnection slotIndex
  | .callClose k => s.callClose k
  | .close k => s.closeStep k

/-- A channel with `numConns` connected connections, before `open()`. -/
def init (numConns : ℕ) (hasDisconnectCallback : Bool) : Lifecycle :=
  { connections := List.range numConns
    connected := fun _ => true
    nextConn := numConns
    hasDisconnectCallback := hasDisconnectCallback }

def stateAt (numConns : ℕ) (hasDisconnectCallback : Bool) (events : ℕ → Event) (n : ℕ) :
    Lifecycle :=
  runState step (init numConns hasDisconnectCallback) events n

/-- Some connection of the vector is connected. -/
def Alive (s : Lifecycle) : Prop := ∃ c ∈ s.connections, s.connected c = true

instance (s : Lifecycle) : Decidable s.Alive :=
  inferInstanceAs (Decidable (∃ c ∈ s.connections, s.connected c = true))

end Lifecycle
end TcpUdp
