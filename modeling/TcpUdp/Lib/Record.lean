import Mathlib.Data.Nat.Notation
import Mathlib.Logic.Function.Basic

/-!
# Records copied field by field

A record type with numbered fields, as a copy that takes one field at a time sees it.
-/

namespace TcpUdp.Lib

structure Record (D : Type) (n : ℕ) (V : Type) where
  field : Fin n → D → V
  /-- `copy i src dst` is `dst` with field `i` of `src`. -/
  copy : Fin n → D → D → D
  field_copy : ∀ i j src dst, field j (copy i src dst) = if j = i then field i src else field j dst
  ext : ∀ a b, (∀ i, field i a = field i b) → a = b

namespace Record

variable {D V : Type} {n : ℕ} (R : Record D n V)

/-- The first `k` fields are the same. -/
def AgreeBelow (k : ℕ) (a b : D) : Prop := ∀ i : Fin n, i.val < k → R.field i a = R.field i b

variable {R}

lemma agreeBelow_zero (a b : D) : R.AgreeBelow 0 a b := fun _ h => absurd h (Nat.not_lt_zero _)

lemma AgreeBelow.eq {a b : D} (h : R.AgreeBelow n a b) : a = b := R.ext a b fun i => h i i.isLt

/-- Copying the next field from a record that agrees in it. -/
lemma AgreeBelow.copy {a src dst : D} {k : ℕ} (h : R.AgreeBelow k dst a) (hk : k < n)
    (hfield : R.field ⟨k, hk⟩ src = R.field ⟨k, hk⟩ a) :
    R.AgreeBelow (k + 1) (R.copy ⟨k, hk⟩ src dst) a := by
  intro i hi
  rw [R.field_copy]
  by_cases heq : i = ⟨k, hk⟩
  · rw [if_pos heq, heq]
    exact hfield
  · rw [if_neg heq]
    have hne : i.val ≠ k := fun hval => heq (Fin.ext hval)
    exact h i (by omega)

end Record
end TcpUdp.Lib
