import Mathlib.Data.Nat.Basic
import Mathlib.Tactic.Ring

/-!
# Little-endian integers

The memory image of an unsigned integer on a little-endian machine: `store w v` is the
value `v`, truncated to `w` bytes, and `load` reads such an image back.
-/

namespace TcpUdp.Lib.LittleEndian

/-- The `w` low bytes of `v`, least significant first. -/
def store : ℕ → ℕ → List UInt8
  | 0, _ => []
  | w + 1, v => UInt8.ofNat v :: store w (v / 256)

/-- The value of a byte list, least significant byte first. -/
def load : List UInt8 → ℕ
  | [] => 0
  | b :: bs => b.toNat + 256 * load bs

@[simp] lemma length_store (w v : ℕ) : (store w v).length = w := by
  induction w generalizing v with
  | zero => rfl
  | succ w ih => rw [store, List.length_cons, ih]

lemma load_lt (bs : List UInt8) : load bs < 256 ^ bs.length := by
  induction bs with
  | nil => exact Nat.one_pos
  | cons b bs ih =>
    have hb : b.toNat < 256 := b.toNat_lt
    rw [load, List.length_cons, pow_succ]
    omega

/-- Storing truncates to the width, and loading is exact on what was stored. -/
lemma load_store (w v : ℕ) : load (store w v) = v % 256 ^ w := by
  induction w generalizing v with
  | zero => rw [store, load, pow_zero, Nat.mod_one]
  | succ w ih =>
    have hb : (UInt8.ofNat v).toNat = v % 256 := UInt8.toNat_ofNat'
    rw [store, load, ih, hb, pow_succ, Nat.mul_comm (256 ^ w), Nat.mod_mul]

lemma load_store_of_lt {w v : ℕ} (h : v < 256 ^ w) : load (store w v) = v := by
  rw [load_store, Nat.mod_eq_of_lt h]

end TcpUdp.Lib.LittleEndian
