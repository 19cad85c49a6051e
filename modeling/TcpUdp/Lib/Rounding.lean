import Mathlib.Algebra.Order.Floor.Ring
import Mathlib.Algebra.Order.Field.Basic
import Mathlib.Tactic.Linarith

/-!
# Rounding to integers

Rounding towards zero, which is what a conversion to an integer type does, and rounding to the
nearest integer with halves away from zero. Both are monotone and leave integers alone, so that
a bound by integers survives them.
-/

namespace TcpUdp.Lib

variable {K : Type} [Field K] [LinearOrder K] [FloorRing K] {x y : K}

/-- The integer part. -/
def truncate (x : K) : ℤ := if 0 ≤ x then ⌊x⌋ else ⌈x⌉

/-- The nearest integer, of two the one that is further from zero. -/
def roundAway (x : K) : ℤ := if 0 ≤ x then ⌊x + 1 / 2⌋ else ⌈x - 1 / 2⌉

lemma truncate_mono (h : x ≤ y) : truncate x ≤ truncate y := by
  rw [truncate, truncate]
  split_ifs with hx hy hy
  · exact Int.floor_le_floor h
  · exact absurd (le_trans hx h) hy
  · have hneg : ⌈x⌉ ≤ 0 := Int.ceil_le.mpr (by rw [Int.cast_zero]; exact (not_le.mp hx).le)
    exact le_trans hneg (Int.floor_nonneg.mpr hy)
  · exact Int.ceil_le_ceil h

variable [IsStrictOrderedRing K]

lemma truncate_intCast (n : ℤ) : truncate (n : K) = n := by
  rw [truncate]
  split_ifs
  · exact Int.floor_intCast n
  · exact Int.ceil_intCast n

lemma roundAway_mono (h : x ≤ y) : roundAway x ≤ roundAway y := by
  rw [roundAway, roundAway]
  split_ifs with hx hy hy
  · exact Int.floor_le_floor (by linarith)
  · exact absurd (le_trans hx h) hy
  · have hneg : ⌈x - 1 / 2⌉ ≤ 0 := Int.ceil_le.mpr (by rw [Int.cast_zero]; linarith)
    exact le_trans hneg (Int.floor_nonneg.mpr (by linarith))
  · exact Int.ceil_le_ceil (by linarith)

lemma roundAway_intCast (n : ℤ) : roundAway (n : K) = n := by
  rw [roundAway]
  split_ifs
  · rw [Int.floor_eq_iff]
    constructor <;> linarith
  · rw [Int.ceil_eq_iff]
    constructor <;> linarith

lemma truncate_mem {a b : ℤ} (ha : (a : K) ≤ x) (hb : x ≤ b) :
    a ≤ truncate x ∧ truncate x ≤ b := by
  have hlow := truncate_mono ha
  have hhigh := truncate_mono hb
  rw [truncate_intCast] at hlow hhigh
  exact ⟨hlow, hhigh⟩

lemma roundAway_mem {a b : ℤ} (ha : (a : K) ≤ x) (hb : x ≤ b) :
    a ≤ roundAway x ∧ roundAway x ≤ b := by
  have hlow := roundAway_mono ha
  have hhigh := roundAway_mono hb
  rw [roundAway_intCast] at hlow hhigh
  exact ⟨hlow, hhigh⟩

end TcpUdp.Lib
