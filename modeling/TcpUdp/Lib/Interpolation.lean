import Mathlib.Algebra.Order.Field.Basic
import Mathlib.Tactic.Linarith
import Mathlib.Tactic.FieldSimp

/-!
# Piecewise linear interpolation

A table of points, in the order of their arguments, gives a function that is linear between
neighbours. Where the values do not rise from point to point, neither does the function, across
all points (`interpolate_antitone`), and it stays between the values of the table.
-/

namespace TcpUdp.Lib

variable {K : Type} [Field K] {p q : K × K}

/-- The line through `p` and `q`. -/
def onLine (p q : K × K) (x : K) : K := p.2 + (x - p.1) / (q.1 - p.1) * (q.2 - p.2)

lemma onLine_left : onLine p q p.1 = p.2 := by
  rw [onLine, sub_self, zero_div, zero_mul, add_zero]

variable [LinearOrder K]

/-- The value at `x`, in the first bracket that holds `x`. -/
def interpolate : List (K × K) → K → Option K
  | p :: q :: table, x =>
    if p.1 ≤ x ∧ x < q.1 then some (onLine p q x) else interpolate (q :: table) x
  | _, _ => none

/-- Arguments rise from point to point, and values do not. -/
def Falling (table : List (K × K)) : Prop := table.Pairwise fun p q => p.1 < q.1 ∧ q.2 ≤ p.2

variable {table : List (K × K)} {x x' y y' : K}

lemma onLine_right (h : p.1 < q.1) : onLine p q q.1 = q.2 := by
  rw [onLine, div_self (sub_ne_zero.mpr h.ne'), one_mul, add_sub_cancel]

/-- Between the first point and any other there is a value. -/
lemma exists_interpolate (hx : p.1 ≤ x) (hlast : ∃ q ∈ table, x < q.1) :
    ∃ y, interpolate (p :: table) x = some y := by
  induction table generalizing p with
  | nil =>
    obtain ⟨q, hq, -⟩ := hlast
    exact absurd hq List.not_mem_nil
  | cons q table ih =>
    rw [interpolate]
    split_ifs with hin
    · exact ⟨_, rfl⟩
    · have hqx : q.1 ≤ x := not_lt.mp fun hlt => hin ⟨hx, hlt⟩
      obtain ⟨r, hr, hxr⟩ := hlast
      rcases List.mem_cons.mp hr with rfl | hr
      · exact absurd hxr (not_lt.mpr hqx)
      · exact ih hqx ⟨r, hr, hxr⟩

variable [IsStrictOrderedRing K]

lemma onLine_antitone (h : p.1 < q.1 ∧ q.2 ≤ p.2) (hx : x ≤ x') :
    onLine p q x' ≤ onLine p q x := by
  have hrange : 0 ≤ q.1 - p.1 := sub_nonneg.mpr h.1.le
  have hratio : (x - p.1) / (q.1 - p.1) ≤ (x' - p.1) / (q.1 - p.1) :=
    div_le_div_of_nonneg_right (sub_le_sub_right hx _) hrange
  exact add_le_add_right
    (mul_le_mul_of_nonpos_right hratio (sub_nonpos.mpr h.2)) _

/-- A value is at least what the values of the table are. -/
lemma le_interpolate {c : K} (h : Falling table) (hc : ∀ r ∈ table, c ≤ r.2)
    (hy : interpolate table x = some y) : c ≤ y := by
  induction table with
  | nil => cases hy
  | cons p table ih =>
    cases table with
    | nil => cases hy
    | cons q table =>
      obtain ⟨hp, hrest⟩ := List.pairwise_cons.mp h
      rw [interpolate] at hy
      split_ifs at hy with hin
      · cases hy
        calc c ≤ q.2 := hc q (List.mem_cons_of_mem _ List.mem_cons_self)
          _ = onLine p q q.1 := (onLine_right (hp q List.mem_cons_self).1).symm
          _ ≤ onLine p q x := onLine_antitone (hp q List.mem_cons_self) hin.2.le
      · exact ih hrest (fun r hr => hc r (List.mem_cons_of_mem _ hr)) hy

/-- Nothing is found left of the first point, and no more than its value. -/
lemma interpolate_le (h : Falling (p :: table)) (hy : interpolate (p :: table) x = some y) :
    p.1 ≤ x ∧ y ≤ p.2 := by
  induction table generalizing p with
  | nil => cases hy
  | cons q table ih =>
    obtain ⟨hp, hrest⟩ := List.pairwise_cons.mp h
    have hpq := hp q List.mem_cons_self
    rw [interpolate] at hy
    split_ifs at hy with hin
    · cases hy
      refine ⟨hin.1, ?_⟩
      calc onLine p q x ≤ onLine p q p.1 := onLine_antitone hpq hin.1
        _ = p.2 := onLine_left
    · obtain ⟨hx, hval⟩ := ih hrest hy
      exact ⟨hpq.1.le.trans hx, hval.trans hpq.2⟩

/-- Larger arguments have no larger values, in the same bracket or another. -/
lemma interpolate_antitone (h : Falling table) (hx : x ≤ x')
    (hy : interpolate table x = some y) (hy' : interpolate table x' = some y') : y' ≤ y := by
  induction table with
  | nil => cases hy
  | cons p table ih =>
    cases table with
    | nil => cases hy
    | cons q table =>
      obtain ⟨hp, hrest⟩ := List.pairwise_cons.mp h
      have hpq := hp q List.mem_cons_self
      rw [interpolate] at hy hy'
      split_ifs at hy hy' with hin hin' hin'
      · cases hy
        cases hy'
        exact onLine_antitone hpq hx
      · -- the point `q` lies between
        cases hy
        calc y' ≤ q.2 := (interpolate_le hrest hy').2
          _ = onLine p q q.1 := (onLine_right hpq.1).symm
          _ ≤ onLine p q x := onLine_antitone hpq hin.2.le
      · exact absurd (hx.trans_lt hin'.2) (not_lt.mpr (interpolate_le hrest hy).1)
      · exact ih hrest hy hy'

end TcpUdp.Lib
