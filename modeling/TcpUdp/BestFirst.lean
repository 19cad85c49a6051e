import TcpUdp.ConnectionOrder
import TcpUdp.Lib.Rotation
import Mathlib.Data.List.Count
import Mathlib.Data.List.GetD
import Mathlib.Data.List.TakeWhile

/-!
# The order in which a packet's connections are tried

Whatever the scores and the round-robin counter are, the order of `run` is the indices
sorted best-scored first, with the connections at the top turned among themselves: skipping
the sort and turning only a part change nothing about that.
-/

namespace TcpUdp

open Lib

/-! ## The best score -/

section Scores

variable {scores : List ℤ} {roundRobinStart : ℕ}

/-- What `rateConnection` returns is not below `-1`. -/
def Rated (scores : List ℤ) : Prop := ∀ score ∈ scores, -1 ≤ score

/-- The score of a connection by its index. -/
def scoreAt (scores : List ℤ) (i : ℕ) : ℤ := scores.getD i (-1)

lemma scoreAt_mem {i : ℕ} (hi : i < scores.length) : scoreAt scores i ∈ scores := by
  rw [scoreAt, List.getD_eq_getElem _ _ hi]
  exact List.getElem_mem hi

lemma Rated.scoreAt (h : Rated scores) (i : ℕ) : -1 ≤ scoreAt scores i := by
  by_cases hi : i < scores.length
  · exact h _ (scoreAt_mem hi)
  · rw [TcpUdp.scoreAt, List.getD_eq_default _ _ (not_lt.mp hi)]

lemma le_foldl_max (l : List ℤ) (a : ℤ) : a ≤ l.foldl max a ∧ ∀ x ∈ l, x ≤ l.foldl max a := by
  induction l generalizing a with
  | nil => exact ⟨le_rfl, fun x hx => absurd hx List.not_mem_nil⟩
  | cons b l ih =>
    obtain ⟨hhead, htail⟩ := ih (max a b)
    refine ⟨(le_max_left a b).trans hhead, fun x hx => ?_⟩
    rcases List.mem_cons.mp hx with rfl | hx
    · exact (le_max_right a x).trans hhead
    · exact htail x hx

lemma foldl_max_mem (l : List ℤ) (a : ℤ) : l.foldl max a = a ∨ l.foldl max a ∈ l := by
  induction l generalizing a with
  | nil => exact Or.inl rfl
  | cons b l ih =>
    rcases ih (max a b) with h | h
    · rw [List.foldl_cons, h]
      rcases max_choice a b with hab | hab
      · exact Or.inl hab
      · exact Or.inr (by rw [hab]; exact List.mem_cons_self)
    · exact Or.inr (List.mem_cons_of_mem b h)

lemma le_bestScore {score : ℤ} (h : score ∈ scores) : score ≤ bestScore scores :=
  (le_foldl_max scores (-1)).2 score h

lemma scoreAt_le_bestScore (i : ℕ) : scoreAt scores i ≤ bestScore scores := by
  by_cases hi : i < scores.length
  · exact le_bestScore (scoreAt_mem hi)
  · rw [scoreAt, List.getD_eq_default _ _ (not_lt.mp hi)]
    exact (le_foldl_max scores (-1)).1

/-- Some connection has the best score, unless it is that of none. -/
lemma bestScore_mem (h : 0 ≤ bestScore scores) : bestScore scores ∈ scores := by
  rcases foldl_max_mem scores (-1) with heq | hmem
  · have : bestScore scores = -1 := heq
    omega
  · exact hmem

lemma bestScore_nonneg_iff : 0 ≤ bestScore scores ↔ ∃ score ∈ scores, 0 ≤ score := by
  constructor
  · intro h
    exact ⟨_, bestScore_mem h, h⟩
  · rintro ⟨score, hmem, h⟩
    exact h.trans (le_bestScore hmem)

/-- Without an eligible connection all scores are the same. -/
lemma Rated.scoreAt_eq_bestScore (h : Rated scores) (hnone : ¬ 0 ≤ bestScore scores) (i : ℕ) :
    TcpUdp.scoreAt scores i = bestScore scores := by
  have hlow := h.scoreAt i
  have hhigh : TcpUdp.scoreAt scores i ≤ bestScore scores := scoreAt_le_bestScore i
  omega

/-! ## The sort -/

/-- The first index scores at least as high as the second. -/
def ScoresAtLeast (scores : List ℤ) (a b : ℕ) : Prop := scoreAt scores b ≤ scoreAt scores a

/-- The indices sorted best-scored first, whatever the scores are. -/
def sortedByScore (scores : List ℤ) : List ℕ :=
  (List.range scores.length).insertionSort fun a b => scores.getD a (-1) ≥ scores.getD b (-1)

/-- The order of the attempt loop with the sort always done. -/
def alwaysSortedOrder (scores : List ℤ) (roundRobinStart : ℕ) : List ℕ :=
  let order := sortedByScore scores
  let count := rotateCount scores order
  if count > 1 then
    (order.take count).rotate (roundRobinStart % count) ++ order.drop count
  else order

lemma sortedByScore_perm : (sortedByScore scores).Perm (List.range scores.length) :=
  List.perm_insertionSort _ _

lemma length_sortedByScore : (sortedByScore scores).length = scores.length :=
  sortedByScore_perm.length_eq.trans List.length_range

lemma pairwise_sortedByScore : (sortedByScore scores).Pairwise (ScoresAtLeast scores) := by
  have htotal : Std.Total fun a b => scores.getD a (-1) ≥ scores.getD b (-1) :=
    ⟨fun a b => le_total _ _⟩
  have htrans : IsTrans ℕ fun a b => scores.getD a (-1) ≥ scores.getD b (-1) :=
    ⟨fun a b c hab hbc => le_trans hbc hab⟩
  exact List.pairwise_insertionSort (fun a b => scores.getD a (-1) ≥ scores.getD b (-1)) _

/-- Uniform scores are in order as they stand, so nothing is lost by not sorting them. -/
lemma sortedOrder_eq : sortedOrder scores = sortedByScore scores := by
  unfold sortedOrder
  dsimp only
  split_ifs with huniform
  · refine (List.Pairwise.insertionSort_eq ?_).symm
    have hsame : ∀ i ∈ List.range scores.length, scores.getD i (-1) = scores.getD 0 (-1) := by
      intro i hi
      have hmem := scoreAt_mem (List.mem_range.mp hi)
      exact of_decide_eq_true (List.all_eq_true.mp huniform _ hmem)
    apply List.pairwise_of_forall_mem_list
    intro a ha b hb
    rw [hsame a ha, hsame b hb]
  · rfl

lemma connectionOrder_eq_alwaysSortedOrder :
    connectionOrder scores roundRobinStart = alwaysSortedOrder scores roundRobinStart := by
  rw [connectionOrder, alwaysSortedOrder, sortedOrder_eq]

/-! ## The group at the top -/

/-- How many connections have the best score. -/
def tieCount (scores : List ℤ) : ℕ := scores.count (bestScore scores)

lemma tieCount_le : tieCount scores ≤ scores.length := List.count_le_length

lemma count_eq_countP_range (score : ℤ) :
    scores.count score
      = (List.range scores.length).countP fun i => decide (scores.getD i (-1) = score) := by
  have hmap : (List.range scores.length).map (fun i => scores.getD i (-1)) = scores := by
    apply List.ext_getElem
    · rw [List.length_map, List.length_range]
    · intro i _ hi
      rw [List.getElem_map, List.getElem_range, List.getD_eq_getElem _ _ hi]
  rw [← hmap, List.count, List.countP_map, hmap]
  rfl

/-- The part that is turned is the connections with the best score. -/
lemma rotateCount_eq (h : Rated scores) :
    rotateCount scores (sortedByScore scores) = tieCount scores := by
  unfold rotateCount
  split_ifs with hbest
  · rw [takeWhile_eq_filter_of_pairwise, ← List.countP_eq_length_filter,
      sortedByScore_perm.countP_eq, tieCount, count_eq_countP_range]
    apply pairwise_sortedByScore.imp
    intro a b hab hb
    have hb : scoreAt scores b = bestScore scores := of_decide_eq_true hb
    apply decide_eq_true
    exact le_antisymm (scoreAt_le_bestScore a) (hb ▸ hab)
  · rw [tieCount, count_eq_countP_range, List.countP_eq_length_filter,
      List.filter_eq_self.mpr, List.length_range]
    intro i _
    exact decide_eq_true (h.scoreAt_eq_bestScore hbest i)

lemma scoreAt_of_mem_take (h : Rated scores) {i : ℕ}
    (hi : i ∈ (sortedByScore scores).take (tieCount scores)) :
    scoreAt scores i = bestScore scores := by
  by_cases hbest : 0 ≤ bestScore scores
  · rw [← rotateCount_eq h, rotateCount, if_pos hbest,
      ← List.prefix_iff_eq_take.mp (List.takeWhile_prefix _)] at hi
    have htie := List.mem_takeWhile_imp hi
    exact of_decide_eq_true htie
  · exact h.scoreAt_eq_bestScore hbest i

/-- The order of the attempt loop: sorted, and the group at the top turned. -/
lemma connectionOrder_eq (h : Rated scores) :
    connectionOrder scores roundRobinStart
      = rotateHead (tieCount scores) (roundRobinStart % tieCount scores) (sortedByScore scores) := by
  unfold connectionOrder
  dsimp only
  rw [sortedOrder_eq, rotateCount_eq h]
  split_ifs with hcount
  · rfl
  · -- a group of one is turned by nothing
    have hpick : (sortedByScore scores).take (tieCount scores) = []
        ∨ roundRobinStart % tieCount scores = 0 := by
      rcases Nat.eq_zero_or_pos (tieCount scores) with hzero | hpos
      · exact Or.inl (by rw [hzero, List.take_zero])
      · have hone : tieCount scores = 1 := by omega
        exact Or.inr (by rw [hone, Nat.mod_one])
    rcases hpick with hnil | hzero
    · rw [rotateHead, hnil, List.rotate_nil, ← hnil, List.take_append_drop]
    · rw [hzero, rotateHead_zero]

/-- All connections, each once, and never a better one after a worse one. -/
structure BestFirst (scores : List ℤ) (order : List ℕ) : Prop where
  perm : order.Perm (List.range scores.length)
  descending : order.Pairwise (ScoresAtLeast scores)

lemma bestFirst_connectionOrder (h : Rated scores) (roundRobinStart : ℕ) :
    BestFirst scores (connectionOrder scores roundRobinStart) where
  perm := connectionOrder_perm scores roundRobinStart
  descending := by
    rw [connectionOrder_eq h]
    apply pairwise_rotateHead pairwise_sortedByScore
    intro a ha b hb
    exact le_of_eq ((scoreAt_of_mem_take h hb).trans (scoreAt_of_mem_take h ha).symm)

end Scores

end TcpUdp
