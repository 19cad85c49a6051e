import TcpUdp.Lib.Run
import Mathlib.Order.Monotone.Basic
import Mathlib.Tactic.Choose

/-!
# Runs in bursts

A machine that is driven by another one takes a list of inputs, a burst, for each step of the
other. When no burst is empty, they can be put one after another, and what is known of all runs of
the machine holds of this one.
-/

namespace TcpUdp.Lib

variable {σ ι : Type} {step : σ → ι → σ} {run : ℕ → σ} {bursts : ℕ → List ι} {u : ℕ → ι}

/-- The number of inputs before the `n`th burst. -/
def burstStart (bursts : ℕ → List ι) : ℕ → ℕ
  | 0 => 0
  | n + 1 => burstStart bursts n + (bursts n).length

lemma burstStart_mono (bursts : ℕ → List ι) : Monotone (burstStart bursts) :=
  monotone_nat_of_le_succ fun _ => Nat.le_add_right _ _

lemma le_burstStart (hne : ∀ n, bursts n ≠ []) (n : ℕ) : n ≤ burstStart bursts n := by
  induction n with
  | zero => exact Nat.zero_le _
  | succ n ih =>
    have hpos := List.length_pos_iff.mpr (hne n)
    rw [burstStart]
    omega

/-- Every input has its place in a burst. -/
lemma exists_burst (hne : ∀ n, bursts n ≠ []) (k : ℕ) :
    ∃ n i, i < (bursts n).length ∧ k = burstStart bursts n + i := by
  induction k with
  | zero => exact ⟨0, 0, List.length_pos_iff.mpr (hne 0), rfl⟩
  | succ k ih =>
    obtain ⟨n, i, hi, rfl⟩ := ih
    by_cases hlast : i + 1 < (bursts n).length
    · exact ⟨n, i + 1, hlast, rfl⟩
    · refine ⟨n + 1, 0, List.length_pos_iff.mpr (hne (n + 1)), ?_⟩
      rw [burstStart]
      omega

/-- A place in a later burst is a later place. -/
lemma burst_lt {n m i j : ℕ} (h : n < m) (hi : i < (bursts n).length) :
    burstStart bursts n + i < burstStart bursts m + j := by
  have hnext := burstStart_mono bursts (Nat.succ_le_of_lt h)
  rw [Nat.succ_eq_add_one, burstStart] at hnext
  omega

/-- The bursts, one after another. -/
theorem exists_inputs (hne : ∀ n, bursts n ≠ []) : ∃ u : ℕ → ι, ∀ n i (h : i < (bursts n).length),
    u (burstStart bursts n + i) = (bursts n)[i] := by
  choose place index hindex hplace using exists_burst hne
  refine ⟨fun k => (bursts (place k)).get ⟨index k, hindex k⟩, fun n i hi => ?_⟩
  have hsame := hplace (burstStart bursts n + i)
  have hn : place (burstStart bursts n + i) = n := by
    rcases Nat.lt_trichotomy (place (burstStart bursts n + i)) n with hlt | heq | hgt
    · have := burst_lt (j := i) hlt (hindex (burstStart bursts n + i))
      omega
    · exact heq
    · have := burst_lt (j := index (burstStart bursts n + i)) hgt hi
      omega
  have hi' : index (burstStart bursts n + i) = i := by
    rw [hn] at hsame
    omega
  simp only [List.get_eq_getElem, hn, hi']

/-- Inside a burst, the run is that of the machine on the inputs taken so far. -/
theorem runState_burst (hstep : ∀ n, run (n + 1) = (bursts n).foldl step (run n))
    (hu : ∀ n i (h : i < (bursts n).length), u (burstStart bursts n + i) = (bursts n)[i])
    (n i : ℕ) (hi : i ≤ (bursts n).length) :
    runState step (run 0) u (burstStart bursts n + i) = ((bursts n).take i).foldl step (run n) := by
  have hburst : ∀ n, runState step (run 0) u (burstStart bursts n) = run n → ∀ i,
      i ≤ (bursts n).length → runState step (run 0) u (burstStart bursts n + i)
        = ((bursts n).take i).foldl step (run n) := by
    intro n hstart i
    induction i with
    | zero => exact fun _ => hstart
    | succ i ih =>
      intro hi
      have hlt : i < (bursts n).length := hi
      rw [← Nat.add_assoc, runState, ih hlt.le, hu n i hlt, List.take_succ_eq_append_getElem hlt,
        List.foldl_append]
      rfl
  have hstart : ∀ n, runState step (run 0) u (burstStart bursts n) = run n := by
    intro n
    induction n with
    | zero => rfl
    | succ n ih => rw [burstStart, hburst n ih _ le_rfl, List.take_length, hstep]
  exact hburst n (hstart n) i hi

end TcpUdp.Lib
