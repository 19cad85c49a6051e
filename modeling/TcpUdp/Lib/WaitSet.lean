import Mathlib.Data.Fintype.Card
import Mathlib.Logic.Function.Basic

/-!
# A condition variable with any number of waiting threads

Threads wait for units of a supply; whoever adds a unit notifies one waiting thread afterwards.
`Supplied n role` is the invariant behind "no wake-up is lost": while a thread is blocked, every
one of the `n` units has a notification to come or a thread that has been woken and has not
looked yet. Waking a thread for no reason keeps it, and so does a thread that takes a unit
without having waited.
-/

namespace TcpUdp.Lib

/-- What a thread is to the condition variable. -/
inductive Role where
  | other
  | blocked
  /-- Woken, and has not looked at the supply yet. -/
  | woken
  /-- Has added a unit, and has not notified yet. -/
  | notifying
  deriving DecidableEq, Repr

def Role.covers : Role → Bool
  | .woken | .notifying => true
  | .other | .blocked => false

namespace WaitSet

variable {τ : Type} [Fintype τ] {role : τ → Role} {t u : τ} {n : ℕ}

/-- The number of threads that will look at the supply, or have another thread look. -/
def cover (role : τ → Role) : ℕ := (Finset.univ.filter fun t => (role t).covers = true).card

def Supplied (n : ℕ) (role : τ → Role) : Prop := (∃ t, role t = .blocked) → n ≤ cover role

/-- With nothing to take a thread may block. -/
lemma supplied_zero (role : τ → Role) : Supplied 0 role := fun _ => Nat.zero_le _

lemma supplied_of_nobody (h : ∀ t, role t ≠ .blocked) : Supplied n role :=
  fun ⟨t, ht⟩ => absurd ht (h t)

/-- Where nobody is about to look or to notify, a blocked thread has nothing to take. -/
theorem Supplied.eq_zero (h : Supplied n role) (ht : role t = .blocked)
    (hrest : ∀ u, (role u).covers = false) : n = 0 := by
  have hcover : cover role = 0 := by
    rw [cover, Finset.card_eq_zero, Finset.filter_eq_empty_iff]
    intro u _
    simp [hrest u]
  have hle := h ⟨t, ht⟩
  omega

variable [DecidableEq τ]

lemma cover_update_of_covers {r : Role} (ht : (role t).covers = false) (hr : r.covers = true) :
    cover (Function.update role t r) = cover role + 1 := by
  have hnew : (Finset.univ.filter fun u => (Function.update role t r u).covers = true)
      = insert t (Finset.univ.filter fun u => (role u).covers = true) := by
    ext u
    by_cases hu : u = t
    · rw [hu]
      simp [hr]
    · simp [hu]
  rw [cover, hnew, Finset.card_insert_of_notMem (by simp [ht]), cover]

lemma cover_update_of_not_covers {r : Role} (ht : (role t).covers = true)
    (hr : r.covers = false) : cover (Function.update role t r) + 1 = cover role := by
  have hback : Function.update (Function.update role t r) t (role t) = role := by
    rw [Function.update_idem, Function.update_eq_self]
  have h : cover (Function.update (Function.update role t r) t (role t))
      = cover (Function.update role t r) + 1 :=
    cover_update_of_covers (by rw [Function.update_self, hr]) ht
  rw [hback] at h
  exact h.symm

lemma cover_update_of_eq {r : Role} (h : r.covers = (role t).covers) :
    cover (Function.update role t r) = cover role := by
  rw [cover, cover]
  congr 1
  ext u
  by_cases hu : u = t
  · rw [hu]
    simp [h]
  · simp [hu]

omit [Fintype τ] in
/-- A thread that does not become blocked leaves the blocked ones as they are. -/
lemma exists_blocked_of_update {r : Role} (hr : r ≠ .blocked)
    (h : ∃ u, Function.update role t r u = .blocked) : ∃ u, role u = .blocked := by
  obtain ⟨u, hu⟩ := h
  refine ⟨u, ?_⟩
  rw [← hu, Function.update_of_ne]
  rintro rfl
  rw [Function.update_self] at hu
  exact hr hu

namespace Supplied

omit [DecidableEq τ] in
lemma mono {m : ℕ} (h : Supplied n role) (hle : m ≤ n) : Supplied m role :=
  fun hb => le_trans hle (h hb)

/-- A new unit comes with its notification. -/
lemma offer (h : Supplied n role) (ht : (role t).covers = false) :
    Supplied (n + 1) (Function.update role t .notifying) := by
  intro hb
  have hle := h (exists_blocked_of_update (by decide) hb)
  rw [cover_update_of_covers ht rfl]
  omega

/-- The notification reaches a blocked thread. -/
lemma notify (h : Supplied n role) (ht : role t = .notifying) (hu : role u = .blocked) :
    Supplied n (Function.update (Function.update role u .woken) t .other) := by
  have hne : t ≠ u := by
    rintro rfl
    rw [ht] at hu
    cases hu
  intro _
  have hle := h ⟨u, hu⟩
  have hwoken : cover (Function.update role u .woken) = cover role + 1 :=
    cover_update_of_covers (by rw [hu]; rfl) rfl
  have hdone : cover (Function.update (Function.update role u .woken) t .other) + 1
      = cover (Function.update role u .woken) :=
    cover_update_of_not_covers (by rw [Function.update_of_ne hne, ht]; rfl) rfl
  omega

/-- A thread that takes a unit, whether it has waited for it or not. -/
lemma take (h : Supplied (n + 1) role) (t : τ) : Supplied n (Function.update role t .other) := by
  intro hb
  have hle := h (exists_blocked_of_update (by decide) hb)
  by_cases ht : (role t).covers = true
  · have hdrop := cover_update_of_not_covers (r := .other) ht rfl
    omega
  · have hsame : cover (Function.update role t .other) = cover role :=
      cover_update_of_eq (by rw [eq_false_of_ne_true ht]; rfl)
    omega

/-- A thread may wake without having been notified. -/
lemma wake (h : Supplied n role) (ht : role t = .blocked) :
    Supplied n (Function.update role t .woken) := by
  intro _
  have hle := h ⟨t, ht⟩
  rw [cover_update_of_covers (by rw [ht]; rfl) rfl]
  omega

end Supplied
end WaitSet
end TcpUdp.Lib
