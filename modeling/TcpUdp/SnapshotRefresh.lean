import TcpUdp.VcProtocol
import TcpUdp.Lib.Run
import Mathlib.Logic.Function.Basic

/-!
# The IO thread's snapshot of the connections

`TcpVCIoThread::replaceConnection`, called by the threads of an arbitrary type, and the refresh at
the head of the loop in `run`. The loop loads `connGeneration` without the lock and copies
`connections` under it only if the generation is not the recorded one.

One access to what is shared is one step; who waits for the mutex stays where it is. The history
keeps the replacements in the order of their increments, and counts them at the loads.
-/

namespace TcpUdp

open Lib

namespace SnapshotRefresh

inductive Holder (τ : Type) where
  | io
  | replacer (t : τ)
  deriving DecidableEq

/-- A call of `replaceConnection`, by what it has done. -/
inductive ReplacePc (γ : Type) where
  | idle
  | locked (slot : ℕ) (conn : γ)
  | written (slot : ℕ) (conn : γ)
  | incremented

/-- The refresh of `run`, by what it has done. `loadedAt` is the number of increments before the
load. -/
inductive IoPc where
  | polling
  | loaded (gen loadedAt : ℕ)
  /-- The generations differ. -/
  | locking (gen loadedAt : ℕ)
  | locked (gen loadedAt : ℕ)
  | copied (gen loadedAt : ℕ)
  | recorded (loadedAt : ℕ)
  deriving DecidableEq

end SnapshotRefresh

open SnapshotRefresh

structure SnapshotRefresh (τ γ : Type) where
  connections : List γ
  connGeneration : ℕ := 0
  connectionsMutex : Option (Holder τ) := none
  snapshot : List γ := []
  /-- `static_cast<uint64_t>(-1)`. -/
  cachedGen : ℕ := uint64Size - 1
  io : IoPc := .polling
  replacer : τ → ReplacePc γ := fun _ => .idle
  /-- Slot and connection of each replacement. -/
  replaced : List (ℕ × γ) := []
  /-- The number of increments before the last copy. -/
  copiedAt : Option ℕ := none
  /-- The number of increments before the load whose value is in `cachedGen`. -/
  recordedAt : Option ℕ := none
  /-- The number of increments before the load of the last check that is over. -/
  checkedAt : Option ℕ := none

namespace SnapshotRefresh

variable {τ γ : Type} [DecidableEq τ]

/-- One step of `replaceConnection(slot, conn)` in thread `t`; the arguments count for the first
one. -/
def replacerStep (s : SnapshotRefresh τ γ) (t : τ) (slot : ℕ) (conn : γ) : SnapshotRefresh τ γ :=
  match s.replacer t with
  | .idle =>
    if slot < s.connections.length ∧ s.connectionsMutex.isNone then
      { s with
        connectionsMutex := some (.replacer t)
        replacer := Function.update s.replacer t (.locked slot conn) }
    else s
  | .locked slot conn =>
    { s with
      connections := s.connections.set slot conn
      replacer := Function.update s.replacer t (.written slot conn) }
  | .written slot conn =>
    { s with
      connGeneration := (s.connGeneration + 1) % uint64Size
      replaced := s.replaced ++ [(slot, conn)]
      replacer := Function.update s.replacer t .incremented }
  | .incremented =>
    { s with connectionsMutex := none, replacer := Function.update s.replacer t .idle }

/-- One step of the refresh. -/
def ioStep (s : SnapshotRefresh τ γ) : SnapshotRefresh τ γ :=
  match s.io with
  | .polling => { s with io := .loaded s.connGeneration s.replaced.length }
  | .loaded gen loadedAt =>
    if gen ≠ s.cachedGen then { s with io := .locking gen loadedAt }
    else { s with io := .polling, checkedAt := some loadedAt }
  | .locking gen loadedAt =>
    if s.connectionsMutex.isNone then
      { s with connectionsMutex := some .io, io := .locked gen loadedAt }
    -- a replacer holds it
    else s
  | .locked gen loadedAt =>
    { s with
      snapshot := s.connections
      copiedAt := some s.replaced.length
      io := .copied gen loadedAt }
  | .copied gen loadedAt =>
    { s with cachedGen := gen, recordedAt := some loadedAt, io := .recorded loadedAt }
  | .recorded loadedAt =>
    { s with connectionsMutex := none, io := .polling, checkedAt := some loadedAt }

inductive Actor (τ γ : Type) where
  | replacer (t : τ) (slot : ℕ) (conn : γ)
  | io

def step (s : SnapshotRefresh τ γ) : Actor τ γ → SnapshotRefresh τ γ
  | .replacer t slot conn => s.replacerStep t slot conn
  | .io => s.ioStep

/-- The state after `n` steps of any threads. -/
def stateAt (connections : List γ) (actors : ℕ → Actor τ γ) (n : ℕ) : SnapshotRefresh τ γ :=
  runState step { connections := connections } actors n

/-- The generation has not gone round since the load that is recorded, and has not come to its
initial value in `cachedGen` while none is. -/
def NotRound (s : SnapshotRefresh τ γ) : Prop :=
  match s.recordedAt with
  | none => s.replaced.length < uint64Size - 1
  | some loadedAt => s.replaced.length < loadedAt + uint64Size

instance (s : SnapshotRefresh τ γ) : Decidable s.NotRound :=
  match hrec : s.recordedAt with
  | none => decidable_of_iff (s.replaced.length < uint64Size - 1) (by rw [NotRound, hrec])
  | some loadedAt =>
    decidable_of_iff (s.replaced.length < loadedAt + uint64Size) (by rw [NotRound, hrec])

end SnapshotRefresh
end TcpUdp
