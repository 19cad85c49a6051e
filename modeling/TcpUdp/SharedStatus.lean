import TcpUdp.ConnectionOrder
import TcpUdp.Lib.Run
import TcpUdp.Lib.Since
import Mathlib.Logic.Function.Basic

/-!
# A `SocketStatus` that threads share

`markDegraded`, `isCurrentlyDegraded` and `recover` in the steps that other threads can see: every
load, store and `fetch_add` of one of the three atomics is a step, in the order of the source. The
clock is read with the step that uses its value, and says anything. The threads are those of an
arbitrary type, and each makes any number of calls.

`marks` and `shifts` are a history that no operation reads.
-/

namespace TcpUdp

open Lib

namespace SharedStatus

/-- Where a thread is in an operation, by what it has done. -/
inductive Place where
  | idle
  /-- In `markDegraded`. -/
  | sinceStored
  | flagStored
  /-- In `isCurrentlyDegraded`, where the flag was set. -/
  | flagLoaded (maxDurationMs : ℤ)
  | sinceLoaded (maxDurationMs elapsedMs : ℤ)
  /-- In `recover`. -/
  | flagCleared
  deriving DecidableEq, Repr

end SharedStatus

open SharedStatus

structure SharedStatus (τ : Type) where
  isDegraded : Bool := false
  degradedSinceMs : ℤ := 0
  degradationCount : ℤ := 0
  place : τ → Place := fun _ => .idle
  /-- What the thread's last call of `isCurrentlyDegraded` has returned. -/
  returned : τ → Option Bool := fun _ => none
  /-- The calls of `markDegraded`. -/
  marks : ℕ := 0
  /-- The amounts by which `1LL` has been shifted. -/
  shifts : List ℤ := []

namespace SharedStatus

variable {τ : Type} [DecidableEq τ]

/-! ## `markDegraded` -/

def storeSince (s : SharedStatus τ) (t : τ) (nowMs : ℤ) : SharedStatus τ :=
  match s.place t with
  | .idle =>
    { s with
      degradedSinceMs := nowMs
      place := Function.update s.place t .sinceStored
      marks := s.marks + 1 }
  | _ => s

def storeDegraded (s : SharedStatus τ) (t : τ) : SharedStatus τ :=
  match s.place t with
  | .sinceStored =>
    { s with isDegraded := true, place := Function.update s.place t .flagStored }
  | _ => s

/-- `degradationCount.fetch_add(1)`, which wraps. -/
def increment (s : SharedStatus τ) (t : τ) : SharedStatus τ :=
  match s.place t with
  | .flagStored =>
    { s with
      degradationCount := toInt32 (s.degradationCount + 1)
      place := Function.update s.place t .idle }
  | _ => s

/-! ## `isCurrentlyDegraded` -/

def loadDegraded (s : SharedStatus τ) (t : τ) (maxDurationMs : ℤ) : SharedStatus τ :=
  match s.place t with
  | .idle =>
    if !s.isDegraded then { s with returned := Function.update s.returned t (some false) }
    else { s with place := Function.update s.place t (.flagLoaded maxDurationMs) }
  | _ => s

def loadSince (s : SharedStatus τ) (t : τ) (nowMs : ℤ) : SharedStatus τ :=
  match s.place t with
  | .flagLoaded maxDurationMs =>
    { s with
      place := Function.update s.place t (.sinceLoaded maxDurationMs (nowMs - s.degradedSinceMs)) }
  | _ => s

/-- The amount of the shift for a count. -/
def shiftAmount (count : ℤ) : ℤ := min (count - 1) 3

/-- The load of the count, and the rest of the call, which is local. -/
def loadCount (s : SharedStatus τ) (t : τ) : SharedStatus τ :=
  match s.place t with
  | .sinceLoaded maxDurationMs elapsedMs =>
    let amount := shiftAmount s.degradationCount
    let effectiveMs := (maxDurationMs * shiftedOne amount).bmod (2 ^ 64)
    { s with
      place := Function.update s.place t .idle
      returned := Function.update s.returned t (some (decide (elapsedMs < effectiveMs)))
      shifts := s.shifts ++ [amount] }
  | _ => s

/-! ## `recover` -/

def clearDegraded (s : SharedStatus τ) (t : τ) : SharedStatus τ :=
  match s.place t with
  | .idle => { s with isDegraded := false, place := Function.update s.place t .flagCleared }
  | _ => s

def clearCount (s : SharedStatus τ) (t : τ) : SharedStatus τ :=
  match s.place t with
  | .flagCleared => { s with degradationCount := 0, place := Function.update s.place t .idle }
  | _ => s

/-! ## Runs -/

inductive Event (τ : Type) where
  | storeSince (t : τ) (nowMs : ℤ)
  | storeDegraded (t : τ)
  | increment (t : τ)
  | loadDegraded (t : τ) (maxDurationMs : ℤ)
  | loadSince (t : τ) (nowMs : ℤ)
  | loadCount (t : τ)
  | clearDegraded (t : τ)
  | clearCount (t : τ)

def step (s : SharedStatus τ) : Event τ → SharedStatus τ
  | .storeSince t nowMs => s.storeSince t nowMs
  | .storeDegraded t => s.storeDegraded t
  | .increment t => s.increment t
  | .loadDegraded t maxDurationMs => s.loadDegraded t maxDurationMs
  | .loadSince t nowMs => s.loadSince t nowMs
  | .loadCount t => s.loadCount t
  | .clearDegraded t => s.clearDegraded t
  | .clearCount t => s.clearCount t

def stateAt (events : ℕ → Event τ) (n : ℕ) : SharedStatus τ := runState step {} events n

/-! ## What is claimed, and when -/

/-- No shift was by a negative amount, or by more than three. -/
def ShiftsDefined (s : SharedStatus τ) : Prop := ∀ amount ∈ s.shifts, 0 ≤ amount ∧ amount ≤ 3

instance (s : SharedStatus τ) : Decidable s.ShiftsDefined :=
  inferInstanceAs (Decidable (∀ amount ∈ s.shifts, _))

/-- The step counts a mark. -/
def increments (s : SharedStatus τ) : Event τ → Bool
  | .increment t => decide (s.place t = .flagStored)
  | _ => false

/-- The step sets the count back to zero. -/
def clears (s : SharedStatus τ) : Event τ → Bool
  | .clearCount t => decide (s.place t = .flagCleared)
  | _ => false

/-- The step loads the count. -/
def loadsCount (s : SharedStatus τ) : Event τ → Bool
  | .loadCount t =>
    match s.place t with
    | .sinceLoaded _ _ => true
    | _ => false
  | _ => false

/-- A mark has been counted, and the count has not been set back after that. -/
def Counted (events : ℕ → Event τ) (n : ℕ) : Prop :=
  Since (fun m => (stateAt events m).increments (events m) = true)
    (fun m => (stateAt events m).clears (events m) = true) n

/-- A thread in `isCurrentlyDegraded` that goes on to the count. -/
def Place.checking : Place → Bool
  | .flagLoaded _ | .sinceLoaded _ _ => true
  | .idle | .sinceStored | .flagStored | .flagCleared => false

/-- The flag is not found set while a mark that has stored it is not counted, and the count is
set back only while the flag is clear and nobody has found it set. -/
def Undisturbed (s : SharedStatus τ) : Event τ → Prop
  | .loadDegraded t _ =>
    s.place t = .idle → s.isDegraded = true → ∀ t', s.place t' ≠ .flagStored
  | .clearCount t =>
    s.place t = .flagCleared → s.isDegraded = false ∧ ∀ t', (s.place t').checking = false
  | _ => True

end SharedStatus
end TcpUdp
