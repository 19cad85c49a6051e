import Mathlib.Data.Nat.Find
import Mathlib.Order.WellFounded

/-!
# Leads-to

Progress of a run: `LeadsTo P Q` says that after every moment with `P` there is one with `Q`, or
it is that moment itself. A moment is the number of steps taken, so the predicates may speak of
the states, the inputs and anything else that happens in the run.
-/

namespace TcpUdp.Lib

variable {P Q R : ℕ → Prop}

/-- After every moment with `P` comes one with `Q`. -/
def LeadsTo (P Q : ℕ → Prop) : Prop := ∀ n, P n → ∃ m, n ≤ m ∧ Q m

namespace LeadsTo

lemma trans (hpq : LeadsTo P Q) (hqr : LeadsTo Q R) : LeadsTo P R := by
  intro n hn
  obtain ⟨m, hm, hq⟩ := hpq n hn
  obtain ⟨k, hk, hr⟩ := hqr m hq
  exact ⟨k, hm.trans hk, hr⟩

lemma of_next (h : ∀ n, P n → Q (n + 1)) : LeadsTo P Q :=
  fun n hn => ⟨n + 1, n.le_succ, h n hn⟩

lemma cancel (hpq : LeadsTo P fun n => Q n ∨ R n) (hrq : LeadsTo R Q) : LeadsTo P Q := by
  intro n hn
  obtain ⟨m, hm, hq | hr⟩ := hpq n hn
  · exact ⟨m, hm, hq⟩
  · obtain ⟨k, hk, hq⟩ := hrq m hr
    exact ⟨k, hm.trans hk, hq⟩

/-- What holds for good once it holds can be carried along. -/
lemma and_stable (h : LeadsTo P Q) (hstable : ∀ n, R n → R (n + 1)) :
    LeadsTo (fun n => P n ∧ R n) fun n => Q n ∧ R n := by
  intro n hn
  obtain ⟨m, hm, hq⟩ := h n hn.1
  refine ⟨m, hm, hq, ?_⟩
  exact Nat.le_induction hn.2 (fun k _ hk => hstable k hk) m hm

/-- On the way from `P` to `Q` a predicate `R` lasts, or it ends in `B`. -/
lemma and_unless {B : ℕ → Prop} (h : LeadsTo P Q) (hunless : ∀ n, R n → R (n + 1) ∨ B (n + 1)) :
    LeadsTo (fun n => P n ∧ R n) fun n => B n ∨ Q n ∧ R n := by
  intro n hn
  obtain ⟨m, hm, hq⟩ := h n hn.1
  have hlasts : ∀ k, n ≤ k → R k ∨ ∃ j, n ≤ j ∧ B j := by
    intro k hk
    induction k, hk using Nat.le_induction with
    | base => exact Or.inl hn.2
    | succ k hk ih =>
      rcases ih with hr | hb
      · exact (hunless k hr).imp_right fun hb => ⟨k + 1, hk.trans k.le_succ, hb⟩
      · exact Or.inr hb
  rcases hlasts m hm with hr | ⟨j, hj, hb⟩
  · exact ⟨m, hm, Or.inr ⟨hq, hr⟩⟩
  · exact ⟨j, hj, Or.inl hb⟩

/-- What lasts as long as `H` does not come is there when it comes. -/
lemma until_next {H : ℕ → Prop} (hkeep : ∀ n, P n → ¬ H n → P (n + 1))
    (hnext : ∀ n, ∃ m, n ≤ m ∧ H m) : LeadsTo P fun n => P n ∧ H n := by
  classical
  intro n hn
  have hfind := Nat.find_spec (hnext n)
  have hlasts : ∀ k, n ≤ k → k ≤ Nat.find (hnext n) → P k := by
    intro k hk
    induction k, hk using Nat.le_induction with
    | base => exact fun _ => hn
    | succ k hk ih =>
      intro hlt
      exact hkeep k (ih (Nat.le_of_succ_le hlt)) fun hH => Nat.find_min (hnext n) hlt ⟨hk, hH⟩
  exact ⟨_, hfind.1, hlasts _ hfind.1 le_rfl, hfind.2⟩

/-- The rule of progress: `P` lasts until `Q`; meanwhile the run stays at one place or moves on to
one of smaller measure; and at every place there comes a moment at which it does not stay. -/
theorem of_measure {β α : Type} [LT α] [WellFoundedLT α] (place : ℕ → β) (μ : β → α)
    (hkeep : ∀ n, P n →
      Q (n + 1) ∨ P (n + 1) ∧ (place (n + 1) = place n ∨ μ (place (n + 1)) < μ (place n)))
    (hhelp : ∀ n, P n →
      ∃ m, n ≤ m ∧ (P m → place m = place n → Q (m + 1) ∨ μ (place (m + 1)) < μ (place m))) :
    LeadsTo P Q := by
  intro n hn
  induction hplace : μ (place n) using WellFoundedLT.induction generalizing n with
  | ind a ih =>
    by_contra hnever
    have hnever : ∀ m, n ≤ m → ¬ Q m := fun m hm hq => hnever ⟨m, hm, hq⟩
    have hless : ∀ m, n ≤ m → P m → ¬ μ (place m) < μ (place n) := by
      intro m hm hp hlt
      obtain ⟨k, hk, hq⟩ := ih _ (hplace ▸ hlt) m hp rfl
      exact hnever k (hm.trans hk) hq
    -- so the run stays where it is
    have hstays : ∀ m, n ≤ m → P m ∧ place m = place n := by
      intro m hm
      induction m, hm using Nat.le_induction with
      | base => exact ⟨hn, rfl⟩
      | succ m hm ih =>
        obtain ⟨hp, hsame⟩ := ih
        rcases hkeep m hp with hq | ⟨hp', hsame' | hlt⟩
        · exact absurd hq (hnever (m + 1) (hm.trans (Nat.le_succ m)))
        · exact ⟨hp', hsame'.trans hsame⟩
        · rw [hsame] at hlt
          exact absurd hlt (hless (m + 1) (hm.trans (Nat.le_succ m)) hp')
    obtain ⟨m, hm, hhelps⟩ := hhelp n hn
    obtain ⟨hp, hsame⟩ := hstays m hm
    have hm' := hm.trans (Nat.le_succ m)
    rcases hhelps hp hsame with hq | hlt
    · exact hnever (m + 1) hm' hq
    · rw [hsame] at hlt
      exact hless (m + 1) hm' (hstays (m + 1) hm').1 hlt

end LeadsTo
end TcpUdp.Lib
