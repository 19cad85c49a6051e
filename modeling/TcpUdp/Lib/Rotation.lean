import Mathlib.Data.List.Rotate
import Mathlib.Data.List.Pairwise
import Mathlib.Data.Nat.Notation

/-!
# Rotating the head of a sorted list

A round-robin choice among the best entries of a sorted list turns the leading group of
equals and leaves the rest in place. `rotateHead` is that operation on any list;
`counter_injOn_iff` says when a counter that runs modulo `n` and is read modulo `k` picks
different places.
-/

namespace TcpUdp.Lib

variable {α : Type}

/-- The first `k` entries turned by `i`, the others in place. -/
def rotateHead (k i : ℕ) (l : List α) : List α := (l.take k).rotate i ++ l.drop k

lemma rotateHead_perm (k i : ℕ) (l : List α) : (rotateHead k i l).Perm l := by
  refine (List.Perm.append_right _ (List.rotate_perm _ _)).trans ?_
  rw [List.take_append_drop]

lemma mem_rotateHead {k i : ℕ} {l : List α} {a : α} : a ∈ rotateHead k i l ↔ a ∈ l :=
  (rotateHead_perm k i l).mem_iff

lemma rotateHead_zero (k : ℕ) (l : List α) : rotateHead k 0 l = l := by
  rw [rotateHead, List.rotate_zero, List.take_append_drop]

/-- A relation that holds along a list, and both ways among the first `k` entries, holds
along the turned list. -/
lemma pairwise_rotateHead {R : α → α → Prop} {l : List α} (h : l.Pairwise R) {k : ℕ}
    (htie : ∀ a ∈ l.take k, ∀ b ∈ l.take k, R a b) (i : ℕ) : (rotateHead k i l).Pairwise R := by
  have hsplit : (l.take k ++ l.drop k).Pairwise R := by rwa [List.take_append_drop]
  obtain ⟨_, hdrop, hcross⟩ := List.pairwise_append.mp hsplit
  rw [rotateHead, List.pairwise_append]
  refine ⟨?_, hdrop, fun a ha b hb => hcross a (List.mem_rotate.mp ha) b hb⟩
  apply List.pairwise_of_forall_mem_list
  intro a ha b hb
  exact htie a (List.mem_rotate.mp ha) b (List.mem_rotate.mp hb)

lemma head?_rotateHead {k i : ℕ} {l : List α} (hi : i < k) (hk : k ≤ l.length) :
    (rotateHead k i l).head? = l[i]? := by
  have hlen : i < (l.take k).length := by
    rw [List.length_take]
    omega
  have hhead : ((l.take k).rotate i).head? = l[i]? := by
    rw [List.head?_rotate hlen, List.getElem?_take, if_pos hi]
  rw [rotateHead, List.head?_append, hhead, List.getElem?_eq_getElem (by omega)]
  rfl

/-- Where `p` never holds again once it has failed, its leading run is all of it. -/
lemma takeWhile_eq_filter_of_pairwise {p : α → Bool} {l : List α}
    (h : l.Pairwise fun a b => p b = true → p a = true) : l.takeWhile p = l.filter p := by
  induction l with
  | nil => rfl
  | cons a l ih =>
    obtain ⟨ha, hl⟩ := List.pairwise_cons.mp h
    rw [List.takeWhile_cons, List.filter_cons]
    by_cases hp : p a = true
    · rw [if_pos hp, if_pos hp, ih hl]
    · rw [if_neg hp, if_neg hp]
      refine (List.filter_eq_nil_iff.mpr ?_).symm
      intro b hb hpb
      exact hp (ha b hb hpb)

/-! ## A counter modulo `n`, read modulo `k` -/

lemma counter_before_wrap {n start j : ℕ} (h : start + j < n) : (start + j) % n = start + j :=
  Nat.mod_eq_of_lt h

lemma counter_after_wrap {n start j : ℕ} (hs : start < n) (hj : j ≤ n) (h : n ≤ start + j) :
    (start + j) % n = start + j - n := by
  rw [Nat.mod_eq_sub_mod h, Nat.mod_eq_of_lt]
  omega

lemma eq_of_mod_eq_of_lt {k a b : ℕ} (h : a % k = b % k) (hab : a ≤ b) (hlt : b < a + k) :
    a = b := by
  have hdvd : k ∣ b - a := Nat.dvd_of_mod_eq_zero (Nat.sub_mod_eq_zero_of_mod_eq h.symm)
  have hzero : b - a = 0 := Nat.eq_zero_of_dvd_of_lt hdvd (by omega)
  omega

/-- Where `n` is no multiple of `k` and the counter wraps inside the window, two of its
places are the same: they are `n % k` apart, one on each side of the seam. -/
lemma exists_counter_collision {n k start : ℕ} (hdvd : ¬ k ∣ n) (hs : start < n) (hkn : k ≤ n)
    (hwrap : n < start + k) :
    ∃ i j, i < j ∧ j < k ∧ (start + i) % n % k = (start + j) % n % k := by
  have hk : 0 < k := by
    rcases Nat.eq_zero_or_pos k with rfl | hk
    · omega
    · exact hk
  have hpos : 0 < n % k := Nat.pos_of_ne_zero fun h => hdvd (Nat.dvd_of_mod_eq_zero h)
  have hlt : n % k < k := Nat.mod_lt n hk
  have hdiv : n % k + k * (n / k) = n := Nat.mod_add_div n k
  -- `u` places before the seam and `n % k - u` after it
  obtain ⟨u, hu0, hun, hur, htail⟩ : ∃ u, 0 < u ∧ u ≤ n - start ∧ u ≤ n % k ∧
      n - start + (n % k - u) < k := by
    rcases Nat.lt_or_ge (n - start) (n % k) with h | h
    · exact ⟨n - start, by omega, le_rfl, by omega, by omega⟩
    · exact ⟨n % k, hpos, h, le_rfl, by omega⟩
  refine ⟨n - start - u, n - start + (n % k - u), by omega, htail, ?_⟩
  rw [counter_before_wrap (by omega), counter_after_wrap hs (by omega) (by omega)]
  have hbefore : start + (n - start - u) = n % k - u + k * (n / k) := by omega
  have hafter : start + (n - start + (n % k - u)) - n = n % k - u := by omega
  rw [hbefore, hafter, Nat.add_mul_mod_self_left]

/-- `k` consecutive values of a counter modulo `n` are different modulo `k` just when `n` is
a multiple of `k` or the counter does not wrap between them. -/
theorem counter_injOn_iff {n k start : ℕ} (hs : start < n) (hkn : k ≤ n) :
    (∀ i j, i < j → j < k → (start + i) % n % k ≠ (start + j) % n % k)
      ↔ k ∣ n ∨ start + k ≤ n := by
  constructor
  · intro h
    by_contra hcon
    obtain ⟨hdvd, hwrap⟩ := not_or.mp hcon
    obtain ⟨i, j, hij, hj, heq⟩ := exists_counter_collision hdvd hs hkn (by omega)
    exact h i j hij hj heq
  · intro h i j hij hj heq
    have hmod : (start + i) % k = (start + j) % k := by
      rcases h with hdvd | hle
      · rwa [Nat.mod_mod_of_dvd _ hdvd, Nat.mod_mod_of_dvd _ hdvd] at heq
      · have hi : start + i < n := by omega
        have hj : start + j < n := by omega
        rwa [counter_before_wrap hi, counter_before_wrap hj] at heq
    have hsame : start + i = start + j := eq_of_mod_eq_of_lt hmod (by omega) (by omega)
    omega

end TcpUdp.Lib
