import Mathlib.Logic.Function.Basic
import Mathlib.Tactic.SplitIfs

/-!
# A condition variable

One thread waits until a predicate holds; any number of calls change what the predicate
reads and notify. The waiting thread evaluates the predicate holding the mutex, blocking
releases the mutex in the same step, and a notification wakes the thread only when it is
blocked already.

What the predicate reads is not part of the state: the rules are about a proposition `p`
that says whether the predicate holds. `Covered` is the invariant behind "no wake-up is
lost": a call that can have made the predicate true is still going to notify. Passing the
mutex before the notification keeps it whatever the waiting thread does; a notification
without the mutex keeps it only when the thread is not on its way from the evaluation to
being blocked.
-/

namespace TcpUdp.Lib

/-- Where the waiting thread is. -/
inductive WaitPlace where
  | outside
  | evaluating
  /-- The predicate was false; the mutex is still held. -/
  | blocking
  | blocked
  /-- The mutex has to be taken again. -/
  | woken
  deriving DecidableEq, Repr

def WaitPlace.holds : WaitPlace → Bool
  | .evaluating | .blocking => true
  | .outside | .blocked | .woken => false

/-- Where a notifying call is. -/
inductive CallPlace where
  | idle
  /-- What the predicate reads is changed. -/
  | changed
  /-- The mutex was taken and released since. -/
  | passed
  deriving DecidableEq, Repr

structure CondVar (κ : Type) where
  waiter : WaitPlace := .outside
  call : κ → CallPlace := fun _ => .idle
  /-- The call that holds the mutex. -/
  holder : Option κ := none
  exclusive : waiter.holds = true → holder = none := by intro h; cases h

namespace CondVar

variable {κ : Type} {p q : Prop} {c : CondVar κ} {k : κ}

/-! ## The waiting thread -/

/-- Takes the mutex when it is free, at the beginning and after waking. -/
def acquire (c : CondVar κ) : CondVar κ :=
  if h : c.holder.isNone then
    match c.waiter with
    | .outside | .woken =>
      { c with waiter := .evaluating, exclusive := fun _ => Option.isNone_iff_eq_none.mp h }
    | .evaluating | .blocking | .blocked => c
  else c

/-- A true predicate ends the wait. -/
def evaluate (c : CondVar κ) (predicate : Bool) : CondVar κ :=
  if h : c.waiter = .evaluating then
    { c with
      waiter := if predicate then .outside else .blocking
      exclusive := fun _ => c.exclusive (by rw [h]; rfl) }
  else c

def block (c : CondVar κ) : CondVar κ :=
  if c.waiter = .blocking then { c with waiter := .blocked, exclusive := fun h => by cases h }
  else c

/-- The end of a timed wait. -/
def leave (c : CondVar κ) : CondVar κ :=
  { c with waiter := .outside, exclusive := fun h => by cases h }

def wake (c : CondVar κ) : CondVar κ :=
  if c.waiter = .blocked then { c with waiter := .woken, exclusive := fun h => by cases h }
  else c

/-! ## The calls -/

section

variable [DecidableEq κ]

/-- What the predicate reads has changed. -/
def change (c : CondVar κ) (k : κ) : CondVar κ :=
  { c with call := Function.update c.call k .changed }

def lock (c : CondVar κ) (k : κ) : CondVar κ :=
  if h : c.holder = none ∧ c.waiter.holds = false ∧ c.call k = .changed then
    { c with holder := some k, exclusive := fun hw => by rw [h.2.1] at hw; cases hw }
  else c

def unlock (c : CondVar κ) (k : κ) : CondVar κ :=
  if c.holder = some k then
    { c with holder := none, call := Function.update c.call k .passed, exclusive := fun _ => rfl }
  else c

def notify (c : CondVar κ) (k : κ) : CondVar κ :=
  { c.wake with call := Function.update c.call k .idle }

end

@[simp] lemma acquire_call (c : CondVar κ) : c.acquire.call = c.call := by
  unfold acquire
  split_ifs
  · split <;> rfl
  · rfl

@[simp] lemma evaluate_call (c : CondVar κ) (predicate : Bool) :
    (c.evaluate predicate).call = c.call := by
  unfold evaluate
  split_ifs <;> rfl

@[simp] lemma block_call (c : CondVar κ) : c.block.call = c.call := by
  unfold block
  split_ifs <;> rfl

@[simp] lemma wake_call (c : CondVar κ) : c.wake.call = c.call := by
  unfold wake
  split_ifs <;> rfl

lemma evaluate_waiter (c : CondVar κ) (predicate : Bool) (h : c.waiter = .evaluating) :
    (c.evaluate predicate).waiter = if predicate then .outside else .blocking := by
  unfold evaluate
  rw [dif_pos h]

lemma wake_of_ne (c : CondVar κ) (h : c.waiter ≠ .blocked) : c.wake = c := by
  unfold wake
  rw [if_neg h]

lemma wake_waiter_outside (h : c.waiter = .outside) : c.wake.waiter = .outside := by
  rw [c.wake_of_ne (by rw [h]; exact fun h => by cases h), h]

@[simp] lemma lock_waiter (c : CondVar κ) (k : κ) : (c.lock k).waiter = c.waiter := by
  unfold lock
  split_ifs <;> rfl

@[simp] lemma unlock_waiter [DecidableEq κ] (c : CondVar κ) (k : κ) :
    (c.unlock k).waiter = c.waiter := by
  unfold unlock
  split_ifs <;> rfl

/-! ## No wake-up is lost -/

/-- `p` says that the predicate holds. -/
structure Covered (p : Prop) (c : CondVar κ) : Prop where
  blocking : c.waiter = .blocking → p → ∃ k, c.call k = .changed
  blocked : c.waiter = .blocked → p → ∃ k, c.call k ≠ .idle

lemma wake_ne_blocked : c.wake.waiter ≠ .blocked := by
  unfold CondVar.wake
  split_ifs with h
  · exact fun h => by cases h
  · exact h

lemma wake_waiter_eq_blocking (h : c.wake.waiter = .blocking) : c.waiter = .blocking := by
  unfold CondVar.wake at h
  split_ifs at h
  exact h

namespace Covered

lemma mono (hc : Covered p c) (h : q → p) : Covered q c :=
  ⟨fun hw hq => hc.blocking hw (h hq), fun hw hq => hc.blocked hw (h hq)⟩

/-- Nothing is claimed of a thread that is not going to sleep. -/
lemma of_not_sleeping (h : c.waiter ≠ .blocking) (h' : c.waiter ≠ .blocked) : Covered p c :=
  ⟨fun hw => absurd hw h, fun hw => absurd hw h'⟩

/-- At rest a blocked thread has a false predicate. -/
theorem not_of_blocked (hc : Covered p c) (hw : c.waiter = .blocked)
    (hidle : ∀ k, c.call k = .idle) : ¬p := by
  intro hp
  have ⟨k, hk⟩ := hc.blocked hw hp
  exact hk (hidle k)

lemma acquire (hc : Covered p c) : Covered p c.acquire := by
  unfold CondVar.acquire
  split_ifs
  · split
    · exact of_not_sleeping (fun h => by cases h) (fun h => by cases h)
    · exact of_not_sleeping (fun h => by cases h) (fun h => by cases h)
    · exact hc
    · exact hc
    · exact hc
  · exact hc

lemma evaluate (hc : Covered p c) {predicate : Bool} (h : predicate = false → ¬p) :
    Covered p (c.evaluate predicate) := by
  unfold CondVar.evaluate
  split_ifs with _ hp
  · exact of_not_sleeping (fun h => by cases h) (fun h => by cases h)
  · exact ⟨fun _ h' => absurd h' (h (eq_false_of_ne_true hp)),
      (fun hw => by cases hw)⟩
  · exact hc

/-- A call that is only just under way is under way. -/
lemma block (hc : Covered p c) : Covered p c.block := by
  unfold CondVar.block
  split_ifs with hw
  · refine ⟨(fun h => by cases h), fun _ hp => ?_⟩
    have ⟨k, hk⟩ := hc.blocking hw hp
    exact ⟨k, by show c.call k ≠ .idle; rw [hk]; exact fun h => by cases h⟩
  · exact hc

lemma leave : Covered p c.leave := of_not_sleeping (fun h => by cases h) (fun h => by cases h)

lemma wake (hc : Covered p c) : Covered p c.wake := by
  unfold CondVar.wake
  split_ifs
  · exact of_not_sleeping (fun h => by cases h) (fun h => by cases h)
  · exact hc

lemma lock (hc : Covered p c) : Covered p (c.lock k) := by
  unfold CondVar.lock
  split_ifs
  · exact ⟨hc.blocking, hc.blocked⟩
  · exact hc

variable [DecidableEq κ]

/-- The call that makes the change covers it, whatever the predicate is now. -/
lemma change : Covered p (c.change k) := by
  have hk : (c.change k).call k = .changed := Function.update_self k _ _
  exact ⟨fun _ _ => ⟨k, hk⟩, fun _ _ => ⟨k, by rw [hk]; exact fun h => by cases h⟩⟩

/-- While a call holds the mutex the thread is not on its way to being blocked. -/
lemma unlock (hc : Covered p c) : Covered p (c.unlock k) := by
  unfold CondVar.unlock
  split_ifs with hk
  · refine ⟨fun hw => ?_, fun hw hp => ⟨k, ?_⟩⟩
    · have hnone := c.exclusive (by rw [show c.waiter = .blocking from hw]; rfl)
      rw [hnone] at hk
      cases hk
    · show Function.update c.call k .passed k ≠ .idle
      rw [Function.update_self]
      exact fun h => by cases h
  · exact hc

/-- A call that has passed the mutex is not what covers a thread that is still blocking. -/
lemma notify (hc : Covered p c) (hk : c.call k = .passed) : Covered p (c.notify k) := by
  refine ⟨fun hw hp => ?_, fun hw => absurd hw wake_ne_blocked⟩
  have ⟨l, hl⟩ := hc.blocking (wake_waiter_eq_blocking hw) hp
  refine ⟨l, ?_⟩
  show Function.update c.call k .idle l = .changed
  rw [Function.update_of_ne, hl]
  rintro rfl
  rw [hk] at hl
  cases hl

/-- Without the mutex the notification has to find the thread anywhere but between the
evaluation and being blocked. -/
lemma notify_unlocked (h : p → c.waiter ≠ .blocking) : Covered p (c.notify k) :=
  ⟨fun hw hp => absurd (wake_waiter_eq_blocking hw) (h hp), fun hw => absurd hw wake_ne_blocked⟩

end Covered
end CondVar
end TcpUdp.Lib
