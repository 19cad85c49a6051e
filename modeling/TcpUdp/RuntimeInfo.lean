import TcpUdp.ConnectionOrder
import TcpUdp.Lib.Record
import TcpUdp.Lib.Run
import Mathlib.Data.Fin.VecNotation
import Mathlib.Data.Fintype.Basic
import Mathlib.Tactic.FinCases

/-!
# The cached runtime info of a connection

The write section of `TcpConnection::refreshRuntimeInfoIfStale` and the loop of
`getLastRuntimeInfo`, each access to `runtimeInfoGeneration` and to a field of
`lastRuntimeInfo` a step of its own. `runtimeInfoMutex` lets one writer at a time into its
section; the readers are those of an arbitrary type and take no lock.

The history counts the increments of the generation, and keeps the values refreshed and
the values returned.
-/

namespace TcpUdp

open Lib

/-- All of `TcpConnection::TcpConnectionRuntimeInfo`. -/
structure RuntimeInfo where
  supported : Bool := false
  valid : Bool := false
  isInExponentialBackoff : Bool := false
  retransmissionIndicatorIsBytes : Bool := false
  rtoUs : ℕ := 0
  smoothedRttUs : ℕ := 0
  congestionWindowBytes : ℕ := 0
  bytesInFlight : ℕ := 0
  retransmissionIndicator : ℕ := 0
  timeoutEpisodes : ℕ := 0
  deriving DecidableEq, Repr

namespace RuntimeInfo

/-- What `rateConnection` reads of it. -/
def rated (info : RuntimeInfo) : TcpConnectionRuntimeInfo where
  isInExponentialBackoff := info.isInExponentialBackoff
  smoothedRttUs := info.smoothedRttUs
  congestionWindowBytes := info.congestionWindowBytes
  bytesInFlight := info.bytesInFlight
  timeoutEpisodes := info.timeoutEpisodes

def field : Fin 10 → RuntimeInfo → ℕ :=
  ![fun info => info.supported.toNat,
    fun info => info.valid.toNat,
    fun info => info.isInExponentialBackoff.toNat,
    fun info => info.retransmissionIndicatorIsBytes.toNat,
    rtoUs, smoothedRttUs, congestionWindowBytes, bytesInFlight, retransmissionIndicator,
    timeoutEpisodes]

/-- `dst` with one field of `src`. -/
def copyField : Fin 10 → RuntimeInfo → RuntimeInfo → RuntimeInfo :=
  ![fun src dst => { dst with supported := src.supported },
    fun src dst => { dst with valid := src.valid },
    fun src dst => { dst with isInExponentialBackoff := src.isInExponentialBackoff },
    fun src dst =>
      { dst with retransmissionIndicatorIsBytes := src.retransmissionIndicatorIsBytes },
    fun src dst => { dst with rtoUs := src.rtoUs },
    fun src dst => { dst with smoothedRttUs := src.smoothedRttUs },
    fun src dst => { dst with congestionWindowBytes := src.congestionWindowBytes },
    fun src dst => { dst with bytesInFlight := src.bytesInFlight },
    fun src dst => { dst with retransmissionIndicator := src.retransmissionIndicator },
    fun src dst => { dst with timeoutEpisodes := src.timeoutEpisodes }]

lemma toNat_inj {a b : Bool} (h : a.toNat = b.toNat) : a = b := by
  revert h
  cases a <;> cases b <;> decide

def record : Record RuntimeInfo 10 ℕ where
  field := field
  copy := copyField
  field_copy i j src dst := by fin_cases i <;> fin_cases j <;> rfl
  ext a b h := by
    obtain ⟨_, _, _, _, _, _, _, _, _, _⟩ := a
    obtain ⟨_, _, _, _, _, _, _, _, _, _⟩ := b
    rw [RuntimeInfo.mk.injEq]
    exact ⟨toNat_inj (h 0), toNat_inj (h 1), toNat_inj (h 2), toNat_inj (h 3), h 4, h 5, h 6,
      h 7, h 8, h 9⟩

end RuntimeInfo

namespace RuntimeInfoCache

/-- Whoever holds `runtimeInfoMutex`. -/
inductive WriterPc where
  | idle
  /-- `info` is sampled, the generation not yet incremented. -/
  | sampled (info : RuntimeInfo)
  /-- The first `fields` fields are stored. -/
  | writing (info : RuntimeInfo) (fields : ℕ)
  deriving DecidableEq, Repr

/-- A reader in `getLastRuntimeInfo`. The last component is the number of increments that
had taken place when the generation was loaded. -/
inductive ReaderPc where
  | idle
  /-- At the head of the loop. -/
  | loading (copy : RuntimeInfo)
  /-- The first `fields` fields are copied. -/
  | copying (gen : ℕ) (copy : RuntimeInfo) (fields loadedAt : ℕ)
  deriving DecidableEq, Repr

end RuntimeInfoCache

open RuntimeInfoCache

structure RuntimeInfoCache (ρ : Type) where
  runtimeInfoGeneration : ℕ := 0
  lastRuntimeInfo : RuntimeInfo := {}
  writer : WriterPc := .idle
  reader : ρ → ReaderPc := fun _ => .idle
  increments : ℕ := 0
  /-- The initial value and every value of a refresh. -/
  refreshed : List RuntimeInfo := [{}]
  returned : List RuntimeInfo := []

namespace RuntimeInfoCache

variable {ρ : Type} [DecidableEq ρ]

/-- `runtimeInfoGeneration.fetch_add(1)`. -/
def increment (s : RuntimeInfoCache ρ) : RuntimeInfoCache ρ :=
  { s with
    runtimeInfoGeneration := (s.runtimeInfoGeneration + 1) % uint32Size
    increments := s.increments + 1 }

/-- One step of the writer. A call begins with the value it has sampled. -/
def writerStep (s : RuntimeInfoCache ρ) (info : RuntimeInfo) : RuntimeInfoCache ρ :=
  match s.writer with
  | .idle => { s with writer := .sampled info, refreshed := info :: s.refreshed }
  | .sampled info => { s.increment with writer := .writing info 0 }
  | .writing info fields =>
    if h : fields < 10 then
      { s with
        lastRuntimeInfo := RuntimeInfo.record.copy ⟨fields, h⟩ info s.lastRuntimeInfo
        writer := .writing info (fields + 1) }
    else { s.increment with writer := .idle }

/-- One step of a reader. The load before the loop is not used by the code. -/
def readerStep (s : RuntimeInfoCache ρ) (r : ρ) : RuntimeInfoCache ρ :=
  match s.reader r with
  | .idle => { s with reader := Function.update s.reader r (.loading {}) }
  | .loading copy =>
    { s with
      reader := Function.update s.reader r
        (.copying s.runtimeInfoGeneration copy 0 s.increments) }
  | .copying gen copy fields loadedAt =>
    if h : fields < 10 then
      { s with
        reader := Function.update s.reader r
          (.copying gen (RuntimeInfo.record.copy ⟨fields, h⟩ s.lastRuntimeInfo copy) (fields + 1)
            loadedAt) }
    else if gen ≠ s.runtimeInfoGeneration then
      { s with reader := Function.update s.reader r (.loading copy) }
    else
      { s with
        reader := Function.update s.reader r .idle, returned := copy :: s.returned }

/-! ## Runs -/

inductive Event (ρ : Type) where
  | write (info : RuntimeInfo)
  | read (r : ρ)

def step (s : RuntimeInfoCache ρ) : Event ρ → RuntimeInfoCache ρ
  | .write info => s.writerStep info
  | .read r => s.readerStep r

def stateAt (events : ℕ → Event ρ) (n : ℕ) : RuntimeInfoCache ρ := runState step {} events n

/-! ## What is claimed, and when -/

/-- Every value returned is the initial one or a whole one of a refresh. -/
def NeverTorn (s : RuntimeInfoCache ρ) : Prop := ∀ info ∈ s.returned, info ∈ s.refreshed

/-- The condition on a step. When a reader has copied everything and finds the generation
unchanged, no write section was open when it loaded the generation, and the generation has
not gone round since. -/
def loadedAtRest (s : RuntimeInfoCache ρ) : Event ρ → Bool
  | .write _ => true
  | .read r =>
    match s.reader r with
    | .copying gen _ fields loadedAt =>
      decide (10 ≤ fields → gen = s.runtimeInfoGeneration →
        gen % 2 = 0 ∧ s.increments < loadedAt + uint32Size)
    | _ => true

end RuntimeInfoCache
end TcpUdp
