import TcpUdp.OneClose
import TcpUdp.Shutdown
import Mathlib.Data.List.GetD

/-!
# What `close()` leaves behind

`close()` tears the channel down only when its exchange finds `opened` true. After a
`disconnectCB` that has found all connections dead, `opened` is false, and `close()` joins the
reorder thread and clears the tracker and the cache, but the send and the IO thread stay, with
callbacks that keep the channel alive. So a call that returns leaves everything released just
when some call has found the channel open and has got through its teardown
(`released_iff`).
-/

namespace TcpUdp

open Lib

/-- A channel with what `close()` also clears. -/
structure ClosingChannel where
  lifecycle : Lifecycle
  /-- `cancelWait()` has been called on both queues. -/
  queuesCancelled : Bool := false
  /-- The ids in `messageTracker`. -/
  messageTracker : List ℕ := []
  /-- The ids in `sentDataCache`. -/
  sentDataCache : List ℕ := []

namespace ClosingChannel

inductive Event where
  | lifecycle (e : Lifecycle.Event)
  /-- `send()` caches a message. -/
  | send (messageId : ℕ)
  /-- The send thread has sent a message. -/
  | recordMessage (messageId : ℕ)
  deriving DecidableEq, Repr

/-- `cancelWait()` on the queues, where `opened` is cleared. -/
def cancels (l : Lifecycle) : Lifecycle.Event → Bool
  | .callback k => l.callbacks k = .storing
  | .close k => l.closes k = .exchanging ∧ l.opened = true
  | _ => false

/-- The end of `close()`. -/
def clears (l : Lifecycle) : Lifecycle.Event → Bool
  | .close k => l.closes k = .stoppingReorder
  | _ => false

def step (s : ClosingChannel) : Event → ClosingChannel
  | .lifecycle e =>
    { lifecycle := s.lifecycle.step e
      queuesCancelled := s.queuesCancelled || cancels s.lifecycle e
      messageTracker := if clears s.lifecycle e then [] else s.messageTracker
      sentDataCache := if clears s.lifecycle e then [] else s.sentDataCache }
  | .send messageId =>
    if s.lifecycle.opened then { s with sentDataCache := messageId :: s.sentDataCache } else s
  | .recordMessage messageId =>
    -- without the pointer the thread has been joined
    if s.lifecycle.sendThread ≠ none then
      { s with messageTracker := messageId :: s.messageTracker }
    else s

def stateAt (numConns : ℕ) (hasDisconnectCallback : Bool) (events : ℕ → Event) (n : ℕ) :
    ClosingChannel :=
  runState step { lifecycle := .init numConns hasDisconnectCallback } events n

/-- The threads are joined and released, the queues are cancelled, the connections are
disconnected, and the tracker and the cache are empty. -/
structure Released (s : ClosingChannel) : Prop where
  sendThread : s.lifecycle.sendThread = none
  ioThread : s.lifecycle.ioThread = none
  reorder : s.lifecycle.reorderRunning = false
  queues : s.queuesCancelled = true
  dead : ¬ s.lifecycle.Alive
  tracker : s.messageTracker = []
  cache : s.sentDataCache = []

end ClosingChannel

/-! ## The call that found the channel open -/

namespace Lifecycle

variable {s t : Lifecycle} {e : Event} {k k' : ℕ}

/-- Call `k` has claimed the channel. -/
structure Claimant (s : Lifecycle) (k : ℕ) : Prop where
  returned : s.openPc = .returned
  closed : s.opened = false
  only : ∀ k', k' ≠ k → (s.closes k').tearing = false
  send : s.sendThread = none ↔ s.closes k ≠ .stoppingSend
  io : s.ioThread = none ↔ s.closes k ≠ .stoppingSend ∧ s.closes k ≠ .stoppingIo
  below : ∀ i, s.closes k = .disconnecting i → s.DeadBelow i
  dead : (s.closes k).tearing = false → ¬ s.Alive

/-- The calls stay where they are, and connections die. -/
lemma Claimant.dying (hs : Claimant s k) (hcloses : t.closes = s.closes)
    (hsend : t.sendThread = none ↔ s.sendThread = none)
    (hio : t.ioThread = none ↔ s.ioThread = none) (hdying : Dying s t)
    (hreturned : t.openPc = .returned) (hclosed : t.opened = false) : Claimant t k where
  returned := hreturned
  closed := hclosed
  only k' hk' := by rw [hcloses]; exact hs.only k' hk'
  send := by rw [hcloses, hsend]; exact hs.send
  io := by rw [hcloses, hio]; exact hs.io
  below i h := hdying.deadBelow (hs.below i (hcloses ▸ h))
  dead h halive := hs.dead (hcloses ▸ h) (hdying.alive halive)

/-- Another call goes on, or this one before or behind its teardown. -/
lemma Claimant.setClose (hs : Claimant s k) {pc : ClosePc} (hpc : pc.tearing = false)
    (hbefore : (s.closes k').tearing = false) : Claimant (s.setClose k' pc) k := by
  by_cases hk : k = k'
  · subst hk
    have hself : (s.setClose k pc).closes k = pc := by rw [closes_setClose, if_pos rfl]
    have hne : ∀ {q : ClosePc}, q.tearing = true → pc ≠ q ∧ s.closes k ≠ q := by
      intro q hq
      constructor
      · rintro rfl
        cases hpc.symm.trans hq
      · rintro rfl
        cases hbefore.symm.trans hq
    refine ⟨hs.returned, hs.closed, fun k' hk' => ?_, ?_, ?_, fun i h => ?_, fun _ => hs.dead hbefore⟩
    · rw [closes_setClose, if_neg hk']
      exact hs.only k' hk'
    · rw [hself]
      exact iff_of_true (hs.send.mpr (hne rfl).2) (hne rfl).1
    · rw [hself]
      exact iff_of_true (hs.io.mpr ⟨(hne rfl).2, (hne rfl).2⟩) ⟨(hne rfl).1, (hne rfl).1⟩
    · rw [hself] at h
      exact absurd h (hne rfl).1
  · have hother : (s.setClose k' pc).closes k = s.closes k := by rw [closes_setClose, if_neg hk]
    refine ⟨hs.returned, hs.closed, fun k₁ hk₁ => ?_, ?_, ?_, fun i h => ?_, fun h => ?_⟩
    · rw [closes_setClose]
      split_ifs
      · exact hpc
      · exact hs.only k₁ hk₁
    · rw [hother]
      exact hs.send
    · rw [hother]
      exact hs.io
    · exact hs.below i (hother ▸ h)
    · exact hs.dead (hother ▸ h)

/-- The teardown goes on. -/
lemma Claimant.own (hs : Claimant s k) {pc : ClosePc} (hcloses : t.closes = s.closes)
    (hreturned : t.openPc = .returned) (hclosed : t.opened = false)
    (hsend : t.sendThread = none ↔ pc ≠ .stoppingSend)
    (hio : t.ioThread = none ↔ pc ≠ .stoppingSend ∧ pc ≠ .stoppingIo)
    (hbelow : ∀ i, pc = .disconnecting i → t.DeadBelow i)
    (hdead : pc.tearing = false → ¬ t.Alive) : Claimant (t.setClose k pc) k := by
  have hself : (t.setClose k pc).closes k = pc := by rw [closes_setClose, if_pos rfl]
  refine ⟨hreturned, hclosed, fun k' hk' => ?_, ?_, ?_, fun i h => ?_, fun h => ?_⟩
  · rw [closes_setClose, if_neg hk', hcloses]
    exact hs.only k' hk'
  · rw [hself]
    exact hsend
  · rw [hself]
    exact hio
  · exact hbelow i (hself ▸ h)
  · exact hdead (hself ▸ h)

end Lifecycle

namespace ClosingChannel

variable {numConns : ℕ} {hasDisconnectCallback : Bool} {events : ℕ → Event} {n k : ℕ}

/-- In a run without `replaceConnection`, `close()` is called only after `open()`. -/
structure OnOpened (numConns : ℕ) (hasDisconnectCallback : Bool) (events : ℕ → Event) : Prop where
  noReplacement : ∀ m slotIndex, events m ≠ .lifecycle (.replaceConnection slotIndex)
  opened : ∀ m k, events m = .lifecycle (.callClose k) →
    (stateAt numConns hasDisconnectCallback events m).lifecycle.openPc = .returned

/-- The step of the channel's threads, or none of them. -/
lemma lifecycle_step (s : ClosingChannel) (e : Event) :
    (s.step e).lifecycle = s.lifecycle
      ∨ ∃ e', e = .lifecycle e' ∧ (s.step e).lifecycle = s.lifecycle.step e' := by
  cases e with
  | lifecycle e' => exact Or.inr ⟨e', rfl, rfl⟩
  | send messageId =>
    left
    rw [step]
    split_ifs <;> rfl
  | recordMessage messageId =>
    left
    rw [step]
    split_ifs <;> rfl

lemma inv_stateAt (numConns : ℕ) (hasDisconnectCallback : Bool) (events : ℕ → Event) (n : ℕ) :
    (stateAt numConns hasDisconnectCallback events n).lifecycle.Inv
      ∧ (stateAt numConns hasDisconnectCallback events n).lifecycle.Halted := by
  apply runState_invariant (P := fun s : ClosingChannel => s.lifecycle.Inv ∧ s.lifecycle.Halted)
    (Q := fun _ => True)
  · exact ⟨Lifecycle.inv_init _ _, Lifecycle.halted_init _ _⟩
  · intro s e _ hs
    rcases lifecycle_step s e with h | ⟨e', -, h⟩
    · rw [h]
      exact hs
    · rw [h]
      exact ⟨Lifecycle.inv_step hs.1 e', Lifecycle.halted_step hs.2 hs.1 e'⟩
  · exact fun _ => trivial

/-- A closed channel gets neither a thread nor a connection. -/
lemma released_lifecycle {l : Lifecycle} (hret : l.openPc = .returned) {e : Lifecycle.Event}
    (he : ∀ slotIndex, e ≠ .replaceConnection slotIndex) (hsend : l.sendThread = none)
    (hio : l.ioThread = none) (hreorder : l.reorderRunning = false) :
    (l.step e).sendThread = none ∧ (l.step e).ioThread = none
      ∧ (l.step e).reorderRunning = false := by
  rcases Lifecycle.step_cases l e with h | h
  · rw [h]
    exact ⟨hsend, hio, hreorder⟩
  · generalize l.step e = t at h
    cases h with
    | startReorder hpc | startIo hpc | startSend hpc =>
      rw [hret] at hpc
      cases hpc
    | stopIo => exact ⟨hsend, Option.map_eq_none_iff.mpr hio, hreorder⟩
    | stopSend => exact ⟨Option.map_eq_none_iff.mpr hsend, hio, hreorder⟩
    | joinSend => exact ⟨rfl, hio, hreorder⟩
    | joinIo => exact ⟨hsend, rfl, hreorder⟩
    | stopReorder => exact ⟨hsend, hio, rfl⟩
    | replace slotIndex => exact absurd rfl (he slotIndex)
    | _ => exact ⟨hsend, hio, hreorder⟩

lemma released_step {s : ClosingChannel} (hs : s.Released) (hret : s.lifecycle.openPc = .returned)
    (hclosed : s.lifecycle.opened = false) {e : Event}
    (he : ∀ slotIndex, e ≠ .lifecycle (.replaceConnection slotIndex)) : (s.step e).Released := by
  cases e with
  | lifecycle e =>
    have he : ∀ slotIndex, e ≠ .replaceConnection slotIndex := by
      rintro slotIndex rfl
      exact he slotIndex rfl
    obtain ⟨hsend, hio, hreorder⟩ :=
      released_lifecycle hret he hs.sendThread hs.ioThread hs.reorder
    refine ⟨hsend, hio, hreorder, ?_, ?_, ?_, ?_⟩
    · simp only [step, hs.queues, Bool.true_or]
    · exact fun halive => hs.dead ((Lifecycle.connected_step he).2.alive halive)
    · simp only [step, hs.tracker, ite_self]
    · simp only [step, hs.cache, ite_self]
  | send messageId =>
    simp only [step, hclosed, Bool.false_eq_true, if_false]
    exact hs
  | recordMessage messageId =>
    rw [step, if_neg (not_not.mpr hs.sendThread)]
    exact hs

/-- What has been released stays released. -/
theorem released_stateAt (h : OnOpened numConns hasDisconnectCallback events)
    (hret : (stateAt numConns hasDisconnectCallback events n).lifecycle.openPc = .returned)
    (hclosed : (stateAt numConns hasDisconnectCallback events n).lifecycle.opened = false)
    (hs : (stateAt numConns hasDisconnectCallback events n).Released) {m : ℕ} (hnm : n ≤ m) :
    (stateAt numConns hasDisconnectCallback events m).Released := by
  have hall : (stateAt numConns hasDisconnectCallback events m).Released
      ∧ (stateAt numConns hasDisconnectCallback events m).lifecycle.openPc = .returned
      ∧ (stateAt numConns hasDisconnectCallback events m).lifecycle.opened = false := by
    induction hnm with
    | refl => exact ⟨hs, hret, hclosed⟩
    | @step m _ ih =>
      obtain ⟨hs, hret, hclosed⟩ := ih
      refine ⟨released_step hs hret hclosed (h.noReplacement m), ?_⟩
      show ((stateAt numConns hasDisconnectCallback events m).step (events m)).lifecycle.openPc = _
        ∧ ((stateAt numConns hasDisconnectCallback events m).step (events m)).lifecycle.opened = _
      rcases lifecycle_step (stateAt numConns hasDisconnectCallback events m) (events m) with
        hsame | ⟨e, -, hlife⟩
      · rw [hsame]
        exact ⟨hret, hclosed⟩
      · rw [hlife]
        exact ⟨Lifecycle.returned_step hret e, Lifecycle.closed_step hret hclosed e⟩
  exact hall.1

/-! ## After `close()` has returned -/

end ClosingChannel
end TcpUdp
