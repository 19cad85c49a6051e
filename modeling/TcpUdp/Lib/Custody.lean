import Mathlib.Data.List.Nodup
import Mathlib.Logic.Function.Basic

/-!
# Custody of handles

Handles are numbers that are used again: a handle that was given back can be acquired by
another owner under the same name. `owner` is the table of whoever hands the handles out,
`has` is what each owner believes it still has to give back. The two must agree whenever
an owner gives a handle back, or it gives back the handle of somebody else.

Giving back is total: it goes by `has` alone and records in `returned` whose the handle
was. `Safe` says that it was always the right one, that no owner gives back twice, and that
nothing owned is forgotten.
-/

namespace TcpUdp.Lib

variable {H O : Type}

/-- A handle given back: by whom, which, and who owned it at that time. -/
structure Custody.Return (H O : Type) where
  giver : O
  handle : H
  owner : Option O

@[ext] structure Custody (H O : Type) where
  owner : H → Option O
  has : O → Option H
  returned : List (Custody.Return H O)

namespace Custody

variable [DecidableEq H] [DecidableEq O]

def acquire (s : Custody H O) (o : O) (h : H) : Custody H O :=
  { s with
    owner := Function.update s.owner h (some o)
    has := Function.update s.has o (some h) }

def giveBack (s : Custody H O) (o : O) (h : H) : Custody H O where
  owner := Function.update s.owner h none
  has := Function.update s.has o none
  returned := ⟨o, h, s.owner h⟩ :: s.returned

/-- An owner acquires one handle in its life, and only one that nobody owns. -/
inductive Step (s : Custody H O) : Custody H O → Prop
  | stutter : Step s s
  | acquire (o : O) (h : H) : s.owner h = none → s.has o = none →
      (∀ r ∈ s.returned, r.giver ≠ o) → Step s (s.acquire o h)
  | giveBack (o : O) (h : H) : s.has o = some h → Step s (s.giveBack o h)

structure Safe (s : Custody H O) : Prop where
  /-- An owner has what is its own, and nothing else. -/
  own : ∀ o h, s.has o = some h ↔ s.owner h = some o
  returned : ∀ r ∈ s.returned, r.owner = some r.giver ∧ s.has r.giver = none
  once : (s.returned.map Return.giver).Nodup

lemma Safe.acquire {s : Custody H O} (hs : s.Safe) {o : O} {h : H} (howner : s.owner h = none)
    (hhas : s.has o = none) (hnew : ∀ r ∈ s.returned, r.giver ≠ o) : (s.acquire o h).Safe where
  own o' h' := by
    have hown := hs.own o' h'
    simp only [Custody.acquire, Function.update_apply]
    split_ifs with ho hh hh
    · rw [ho, hh]
      exact iff_of_true rfl rfl
    · rw [ho, hhas] at hown
      rw [ho, ← hown, Option.some.injEq]
      exact iff_of_false (fun e => hh e.symm) (by simp)
    · rw [hh, howner] at hown
      rw [hh, hown, Option.some.injEq]
      exact iff_of_false (by simp) (fun e => ho e.symm)
    · exact hown
  returned r hr := by
    refine ⟨(hs.returned r hr).1, ?_⟩
    simp only [Custody.acquire, Function.update_apply]
    rw [if_neg (hnew r hr)]
    exact (hs.returned r hr).2
  once := hs.once

lemma Safe.giveBack {s : Custody H O} (hs : s.Safe) {o : O} {h : H} (hhas : s.has o = some h) :
    (s.giveBack o h).Safe where
  own o' h' := by
    have hown := hs.own o' h'
    have howner := (hs.own o h).mp hhas
    simp only [Custody.giveBack, Function.update_apply]
    split_ifs with ho hh hh
    · exact iff_of_false (by simp) (by simp)
    · rw [ho, hhas] at hown
      rw [ho, ← hown, Option.some.injEq]
      exact iff_of_false (by simp) (fun e => hh e.symm)
    · rw [hh, howner, Option.some.injEq] at hown
      rw [hh, hown]
      exact iff_of_false (fun e => ho e.symm) (by simp)
    · exact hown
  returned r hr := by
    simp only [Custody.giveBack, Function.update_apply]
    rcases List.mem_cons.mp hr with rfl | hr
    · exact ⟨(hs.own o h).mp hhas, if_pos rfl⟩
    · refine ⟨(hs.returned r hr).1, ?_⟩
      split_ifs
      · rfl
      · exact (hs.returned r hr).2
  once := by
    refine List.nodup_cons.mpr ⟨fun hmem => ?_, hs.once⟩
    obtain ⟨r, hr, hgiver⟩ := List.mem_map.mp hmem
    have hnone := (hs.returned r hr).2
    rw [hgiver, hhas] at hnone
    cases hnone

theorem Safe.step {s s' : Custody H O} (hs : s.Safe) (h : Step s s') : s'.Safe := by
  cases h with
  | stutter => exact hs
  | acquire o h howner hhas hnew => exact hs.acquire howner hhas hnew
  | giveBack o h hhas => exact hs.giveBack hhas

end Custody
end TcpUdp.Lib
