import Mathlib.Data.Nat.ModEq
import Mathlib.Order.Interval.Finset.Nat
import Mathlib.Tactic.SplitIfs

/-!
# A sequence in a ring of cells

The items of a growing sequence are put into `cap` cells one after the other, item `k` into
cell `k % cap`, and taken out in the same order. `Stores cells cap lo items` says that the
cells hold the items from number `lo` on, and nothing else.
-/

namespace TcpUdp.Lib

/-- Two numbers less than `cap` apart are in different cells. -/
lemma eq_of_mod_eq_mod (lo : ℕ) {cap k l : ℕ} (hk : lo ≤ k) (hk' : k < lo + cap) (hl : lo ≤ l)
    (hl' : l < lo + cap) (h : k % cap = l % cap) : k = l :=
  Nat.mod_injOn_Ico lo cap (Finset.mem_coe.mpr (Finset.mem_Ico.mpr ⟨hk, hk'⟩))
    (Finset.mem_coe.mpr (Finset.mem_Ico.mpr ⟨hl, hl'⟩)) h

lemma mod_add_one_mod (k cap : ℕ) : (k % cap + 1) % cap = (k + 1) % cap := Nat.mod_add_mod k cap 1

/-- The window of `cap` numbers from `lo` on covers every cell once. -/
def Stores {T : Type} (cells : ℕ → Option T) (cap lo : ℕ) (items : List T) : Prop :=
  ∀ k, lo ≤ k → k < lo + cap → cells (k % cap) = items[k]?

namespace Stores

variable {T : Type} {cells : ℕ → Option T} {cap lo : ℕ} {items : List T}

lemma empty (cap : ℕ) : Stores (fun _ => (none : Option T)) cap 0 [] := fun _ _ _ => rfl

/-- With room left the cell of the next item is empty. -/
lemma next_eq_none (h : Stores cells cap lo items) (hlo : lo ≤ items.length)
    (hroom : items.length < lo + cap) : cells (items.length % cap) = none := by
  rw [h items.length hlo hroom, List.getElem?_eq_none (le_refl _)]

lemma append (h : Stores cells cap lo items) (hlo : lo ≤ items.length)
    (hroom : items.length < lo + cap) (item : T) :
    Stores (Function.update cells (items.length % cap) (some item)) cap lo (items ++ [item]) := by
  intro k hk hk'
  by_cases heq : k = items.length
  · rw [heq, Function.update_self, List.getElem?_concat_length]
  · have hne : k % cap ≠ items.length % cap := fun hmod =>
      heq (eq_of_mod_eq_mod lo hk hk' hlo hroom hmod)
    rw [Function.update_of_ne hne, h k hk hk']
    rcases Nat.lt_or_gt_of_ne heq with hlt | hgt
    · rw [List.getElem?_append_left hlt]
    · rw [List.getElem?_eq_none (Nat.le_of_lt hgt), List.getElem?_eq_none]
      rw [List.length_append, List.length_singleton]
      exact hgt

/-- Taking out the oldest item empties its cell, which is then the last of the window. -/
lemma advance (h : Stores cells cap lo items) (hroom : items.length ≤ lo + cap) (hcap : 0 < cap) :
    Stores (Function.update cells (lo % cap) none) cap (lo + 1) items := by
  intro k hk hk'
  by_cases heq : k = lo + cap
  · rw [heq, Nat.add_mod_right, Function.update_self, List.getElem?_eq_none hroom]
  · have hne : k % cap ≠ lo % cap := fun hmod => by
      have hk : k = lo := eq_of_mod_eq_mod lo (by omega) (by omega) (le_refl lo) (by omega) hmod
      omega
    rw [Function.update_of_ne hne]
    exact h k (by omega) (by omega)

end Stores
end TcpUdp.Lib
