import Mathlib.Data.List.DropRight
import Mathlib.Data.List.Nodup
import Mathlib.Data.Finset.Card
import Mathlib.Data.Nat.ModEq

/-!
# The most recent entries of a log

A queue of bounded length that drops its oldest entry holds the last entries of the log of
everything appended to it: `List.rtake`. An entry of an increasing log is among the last `c`
exactly when fewer than `c` entries of the log are larger (`mem_rtake_iff`), and
`length_later` counts the larger ones in a residue class.
-/

namespace TcpUdp.Lib

variable {α : Type}

/-- Append to a queue of at most `c` entries. -/
def pushRecent (c : ℕ) (l : List α) (x : α) : List α :=
  if (l ++ [x]).length > c then (l ++ [x]).tail else l ++ [x]

lemma length_rtake (c : ℕ) (l : List α) : (l.rtake c).length = min c l.length := by
  rw [List.rtake, List.length_drop]
  omega

/-- The queue holds the last entries of its log. -/
lemma pushRecent_rtake (c : ℕ) (l : List α) (x : α) :
    pushRecent c (l.rtake c) x = (l ++ [x]).rtake c := by
  cases c with
  | zero => simp [pushRecent]
  | succ c =>
    have hlen := length_rtake (c + 1) l
    rw [List.rtake_concat_succ, pushRecent, List.length_append, List.length_singleton]
    split_ifs with hfull
    · -- the log has more than `c` entries, and the queue drops the first it holds
      have hdrop : l.rtake c = (l.rtake (c + 1)).tail := by
        rw [List.rtake, List.rtake, List.tail_drop]
        congr 1
        omega
      have hne : l.rtake (c + 1) ≠ [] := by
        intro hnil
        rw [hnil, List.length_nil] at hfull
        omega
      rw [hdrop, List.tail_append_of_ne_nil hne]
    · have hall : l.length ≤ c := by omega
      rw [List.rtake, List.rtake, Nat.sub_eq_zero_of_le hall,
        Nat.sub_eq_zero_of_le (Nat.le_succ_of_le hall)]

lemma rtake_cons (c : ℕ) (x : α) (l : List α) :
    (x :: l).rtake c = if c ≤ l.length then l.rtake c else x :: l := by
  rw [List.rtake, List.rtake, List.length_cons]
  split_ifs with h
  · rw [Nat.succ_sub h, List.drop_succ_cons]
  · rw [Nat.sub_eq_zero_of_le (not_le.mp h), List.drop_zero]

lemma map_rtake {β : Type} (f : α → β) (c : ℕ) (l : List α) :
    (l.rtake c).map f = (l.map f).rtake c := by
  rw [List.rtake, List.rtake, List.map_drop, List.length_map]

lemma rtake_sublist (c : ℕ) (l : List α) : (l.rtake c).Sublist l := List.drop_sublist _ _

/-- An entry with fewer than `c` behind it is recent. -/
lemma mem_rtake_append_cons {c : ℕ} (l₁ : List α) (x : α) {l₂ : List α} (h : l₂.length < c) :
    x ∈ (l₁ ++ x :: l₂).rtake c := by
  have hlen : (l₁ ++ x :: l₂).length - c ≤ l₁.length := by
    rw [List.length_append, List.length_cons]
    omega
  rw [List.rtake, List.drop_append_of_le_length hlen]
  exact List.mem_append_right _ List.mem_cons_self

/-- What is counted by `p` is counted by `q` or by `r`. -/
lemma countP_le_add {p q r : α → Bool} {l : List α}
    (h : ∀ x ∈ l, p x = true → q x = true ∨ r x = true) :
    l.countP p ≤ l.countP q + l.countP r := by
  induction l with
  | nil => exact Nat.zero_le _
  | cons a l ih =>
    have hrest := ih fun x hx => h x (List.mem_cons_of_mem a hx)
    have ha := h a List.mem_cons_self
    rw [List.countP_cons, List.countP_cons, List.countP_cons]
    by_cases hp : p a = true
    · rcases ha hp with hq | hr
      · simp only [hp, hq, if_true]
        omega
      · simp only [hp, hr, if_true]
        omega
    · rw [if_neg hp]
      omega

/-- In an increasing log an entry is recent when few entries are larger. -/
lemma mem_rtake_iff [LinearOrder α] {l : List α} (h : l.Pairwise (· < ·)) (c : ℕ) {x : α} :
    x ∈ l.rtake c ↔ x ∈ l ∧ (l.filter fun y => x < y).length < c := by
  induction l with
  | nil => simp
  | cons a l ih =>
    obtain ⟨ha, hl⟩ := List.pairwise_cons.mp h
    rw [rtake_cons]
    split_ifs with hc
    · rw [ih hl]
      constructor
      · rintro ⟨hx, hlt⟩
        rw [List.filter_cons_of_neg (by simpa using (ha x hx).le)]
        exact ⟨List.mem_cons_of_mem a hx, hlt⟩
      · rintro ⟨hx, hlt⟩
        rcases List.mem_cons.mp hx with rfl | hx
        · -- the first entry has all the others behind it
          have hall : l.filter (fun y => x < y) = l :=
            List.filter_eq_self.mpr fun y hy => by simpa using ha y hy
          rw [List.filter_cons_of_neg (by simp), hall] at hlt
          exact absurd hlt (not_lt.mpr hc)
        · rw [List.filter_cons_of_neg (by simpa using (ha x hx).le)] at hlt
          exact ⟨hx, hlt⟩
    · refine ⟨fun hx => ⟨hx, ?_⟩, And.left⟩
      refine lt_of_le_of_lt ?_ (not_le.mp hc)
      rcases List.mem_cons.mp hx with rfl | hx
      · rw [List.filter_cons_of_neg (by simp)]
        exact List.length_filter_le _ _
      · rw [List.filter_cons_of_neg (by simpa using (ha x hx).le)]
        exact List.length_filter_le _ _

/-- How many numbers below `n` are larger than `x` and in its class modulo `m`. -/
lemma length_later {m : ℕ} (hm : 0 < m) (n x : ℕ) :
    ((List.range n).filter fun y => y % m = x % m ∧ x < y).length = (n - 1 - x) / m := by
  have hnodup : ((List.range n).filter fun y => y % m = x % m ∧ x < y).Nodup :=
    List.nodup_range.filter _
  have himage : ((List.range n).filter fun y => y % m = x % m ∧ x < y).toFinset
      = (Finset.range ((n - 1 - x) / m)).image fun i => x + m * (i + 1) := by
    ext y
    simp only [List.mem_toFinset, List.mem_filter, List.mem_range, decide_eq_true_eq,
      Finset.mem_image, Finset.mem_range]
    constructor
    · rintro ⟨hy, hmod, hlt⟩
      obtain ⟨k, hk⟩ := (Nat.modEq_iff_dvd' hlt.le).mp hmod.symm
      cases k with
      | zero => omega
      | succ k =>
        refine ⟨k, ?_, by omega⟩
        rw [Nat.lt_iff_add_one_le, Nat.le_div_iff_mul_le hm, Nat.mul_comm]
        omega
    · rintro ⟨k, hk, rfl⟩
      rw [Nat.lt_iff_add_one_le, Nat.le_div_iff_mul_le hm, Nat.mul_comm] at hk
      have hpos : 0 < m * (k + 1) := Nat.mul_pos hm (Nat.succ_pos k)
      exact ⟨by omega, by rw [Nat.add_mul_mod_self_left], by omega⟩
  have hinj : Function.Injective fun i => x + m * (i + 1) := by
    intro i j hij
    exact Nat.succ_injective (Nat.eq_of_mul_eq_mul_left hm (Nat.add_left_cancel hij))
  rw [← List.toFinset_card_of_nodup hnodup, himage, Finset.card_image_of_injective _ hinj,
    Finset.card_range]

end TcpUdp.Lib
