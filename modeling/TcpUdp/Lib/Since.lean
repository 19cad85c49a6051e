import Mathlib.Data.Nat.Basic
import Mathlib.Tactic.SplitIfs

/-!
# Since

The past operator of temporal logic, for runs whose steps are numbered: something has happened,
and nothing after it has undone it. What is set by the one, cleared by the other and kept by
everything else holds exactly since then (`iff_since`).
-/

namespace TcpUdp.Lib

variable {p q r : ℕ → Prop}

/-- Before step `n` there is one with `p`, and none with `q` after that. -/
def Since (p q : ℕ → Prop) (n : ℕ) : Prop := ∃ j < n, p j ∧ ∀ k, j < k → k < n → ¬ q k

lemma not_since_zero : ¬ Since p q 0 := by
  rintro ⟨j, hj, -⟩
  exact Nat.not_lt_zero j hj

lemma since_succ (n : ℕ) : Since p q (n + 1) ↔ p n ∨ ¬ q n ∧ Since p q n := by
  constructor
  · rintro ⟨j, hj, hp, hq⟩
    rcases Nat.lt_succ_iff_lt_or_eq.mp hj with hlt | rfl
    · right
      refine ⟨hq n hlt (Nat.lt_succ_self n), j, hlt, hp, ?_⟩
      intro k hjk hk
      exact hq k hjk (Nat.lt_succ_of_lt hk)
    · exact Or.inl hp
  · rintro (hp | ⟨hn, j, hj, hp, hq⟩)
    · refine ⟨n, Nat.lt_succ_self n, hp, ?_⟩
      intro k hnk hk
      omega
    · refine ⟨j, Nat.lt_succ_of_lt hj, hp, ?_⟩
      intro k hjk hk
      rcases Nat.lt_succ_iff_lt_or_eq.mp hk with hlt | rfl
      · exact hq k hjk hlt
      · exact hn

/-- What `p` sets, `q` clears and every other step keeps. -/
theorem iff_since {n : ℕ} (hzero : ¬ r 0) (hset : ∀ m < n, p m → r (m + 1))
    (hclear : ∀ m < n, ¬ p m → q m → ¬ r (m + 1))
    (hkeep : ∀ m < n, ¬ p m → ¬ q m → (r (m + 1) ↔ r m)) : r n ↔ Since p q n := by
  induction n with
  | zero => exact iff_of_false hzero not_since_zero
  | succ n ih =>
    have hlast : n < n + 1 := Nat.lt_succ_self n
    have hrest := ih (fun m hm => hset m (Nat.lt_succ_of_lt hm))
      (fun m hm => hclear m (Nat.lt_succ_of_lt hm)) fun m hm => hkeep m (Nat.lt_succ_of_lt hm)
    rw [since_succ]
    by_cases hp : p n
    · exact iff_of_true (hset n hlast hp) (Or.inl hp)
    · by_cases hq : q n
      · apply iff_of_false (hclear n hlast hp hq)
        rintro (hp' | ⟨hn, -⟩)
        · exact hp hp'
        · exact hn hq
      · rw [hkeep n hlast hp hq, hrest]
        constructor
        · exact fun h => Or.inr ⟨hq, h⟩
        · rintro (hp' | ⟨-, h⟩)
          · exact absurd hp' hp
          · exact h

end TcpUdp.Lib
