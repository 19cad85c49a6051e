import Mathlib.Data.Nat.Basic
import Mathlib.Logic.Function.Basic

/-!
# Runs of a deterministic machine

A machine with a total step function is driven by an infinite sequence of inputs; the
state after the first `n` of them stands for every finite run. Inputs carry all that the
machine does not decide itself (arrivals, clock readings, results of system calls,
actions of other threads), so a statement for every input sequence and every `n` is a
statement for every run.
-/

namespace TcpUdp.Lib

variable {σ ι : Type}

/-- The state after the first `n` inputs of `u`. -/
def runState (step : σ → ι → σ) (s₀ : σ) (u : ℕ → ι) : ℕ → σ
  | 0 => s₀
  | n + 1 => step (runState step s₀ u n) (u n)

variable {step : σ → ι → σ} {s₀ : σ} {u : ℕ → ι}

@[simp] lemma runState_zero : runState step s₀ u 0 = s₀ := rfl

lemma runState_congr {v : ℕ → ι} {n : ℕ} (h : ∀ m < n, u m = v m) :
    runState step s₀ u n = runState step s₀ v n := by
  induction n with
  | zero => rfl
  | succ n ih =>
    rw [runState, runState, ih fun m hm => h m (Nat.lt_succ_of_lt hm), h n (Nat.lt_succ_self n)]

/-- A run can go on with any input. -/
lemma exists_runState_extend (u : ℕ → ι) (n : ℕ) (i : ι) :
    ∃ v, v n = i ∧ runState step s₀ v n = runState step s₀ u n :=
  ⟨Function.update u n i, Function.update_self _ _ _,
    runState_congr fun _ hm => Function.update_of_ne (Nat.ne_of_lt hm) _ _⟩

/-- The invariant rule: true at the start, preserved by a step under inputs in `Q`. -/
theorem runState_invariant {P : σ → Prop} {Q : ι → Prop} (h₀ : P s₀)
    (hstep : ∀ s i, Q i → P s → P (step s i)) (hu : ∀ n, Q (u n)) (n : ℕ) :
    P (runState step s₀ u n) := by
  induction n with
  | zero => exact h₀
  | succ n ih => exact hstep _ _ (hu n) ih

/-- The invariant rule with a condition on the steps: on the state each of the first `n`
steps starts from and on its input. -/
theorem runState_invariant_of_steps {P : σ → Prop} {Q : σ → ι → Prop} (h₀ : P s₀)
    (hstep : ∀ s i, Q s i → P s → P (step s i)) {n : ℕ}
    (hu : ∀ m < n, Q (runState step s₀ u m) (u m)) : P (runState step s₀ u n) := by
  induction n with
  | zero => exact h₀
  | succ n ih =>
    exact hstep _ _ (hu n (Nat.lt_succ_self n)) (ih fun m hm => hu m (Nat.lt_succ_of_lt hm))

/-- The run on the inputs of a list, and on `i` after them. -/
def listInputs (l : List ι) (i : ι) (n : ℕ) : ι := l.getD n i

/-- Whether the steps on the inputs of a list meet a condition. -/
def allSteps (step : σ → ι → σ) (Q : σ → ι → Bool) : σ → List ι → Bool
  | _, [] => true
  | s, i :: l => Q s i && allSteps step Q (step s i) l

lemma runState_cons (s₀ : σ) (i d : ι) (l : List ι) (n : ℕ) :
    runState step s₀ (listInputs (i :: l) d) (n + 1)
      = runState step (step s₀ i) (listInputs l d) n := by
  induction n with
  | zero => rfl
  | succ n ih =>
    rw [runState, ih]
    rfl

/-- Within the list the run is a fold, by which it can be evaluated. -/
lemma runState_listInputs {l : List ι} {n : ℕ} (d : ι) (hn : n ≤ l.length) :
    runState step s₀ (listInputs l d) n = (l.take n).foldl step s₀ := by
  induction l generalizing s₀ n with
  | nil =>
    rw [Nat.le_zero.mp hn]
    rfl
  | cons i l ih =>
    cases n with
    | zero => rfl
    | succ n =>
      rw [runState_cons, ih (Nat.le_of_succ_le_succ hn), List.take_succ_cons, List.foldl_cons]

/-- One pass over the list checks every step of the run. -/
theorem of_allSteps {Q : σ → ι → Bool} {l : List ι} (h : allSteps step Q s₀ l = true) (d : ι) :
    ∀ m < l.length, Q (runState step s₀ (listInputs l d) m) (listInputs l d m) = true := by
  induction l generalizing s₀ with
  | nil => exact fun m hm => absurd hm (Nat.not_lt_zero m)
  | cons i l ih =>
    obtain ⟨hi, hl⟩ := Bool.and_eq_true_iff.mp h
    intro m hm
    cases m with
    | zero => exact hi
    | succ m =>
      rw [runState_cons]
      exact ih hl m (Nat.lt_of_succ_lt_succ hm)

end TcpUdp.Lib
