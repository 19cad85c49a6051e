import TcpUdp.Lifecycle

/-!
# Who takes a channel down

`opened` goes from true to false in two places: the store of a `disconnectCB` and the
exchange of `close()`. The store is decided under `disconnectMutex`, which makes it happen
once in the life of a channel; the exchange is decided by itself. `Guarded` and `Claims`
are what the mutex and the flag give, `Counted` what a count of the connections means.
-/

namespace TcpUdp
namespace Lifecycle

open Lib

variable {s : Lifecycle}

lemma callbacks_setCallback (s : Lifecycle) (k k' : ℕ) (pc : CallbackPc) :
    (s.setCallback k pc).callbacks k' = if k' = k then pc else s.callbacks k' :=
  Function.update_apply ..

lemma closes_setClose (s : Lifecycle) (k k' : ℕ) (pc : ClosePc) :
    (s.setClose k pc).closes k' = if k' = k then pc else s.closes k' :=
  Function.update_apply ..

/-! ## What a step can do -/

/-- A step that does something. -/
inductive Move (s : Lifecycle) : Event → Lifecycle → Prop
  | startReorder : s.openPc = .startingReorder →
      Move s .opening { s with reorderRunning := true, openPc := .startingIo }
  | startIo : s.openPc = .startingIo →
      Move s .opening { s with ioThread := some true, openPc := .startingSend }
  | startSend : s.openPc = .startingSend →
      Move s .opening { s with sendThread := some true, openPc := .publishing }
  | publish : s.openPc = .publishing →
      Move s .opening { s with opened := true, openPc := .returned }
  | die (k : ℕ) (c : ConnId) : s.callbacks k = .idle →
      Move s (.death k c) ((s.disconnect c).setCallback k .locking)
  | lock (k : ℕ) : s.callbacks k = .locking → s.disconnectMutex = none →
      Move s (.callback k) ((s.setMutex (some k)).setCallback k .checking)
  /-- The channel is closed, or a connection is alive. -/
  | leave (k : ℕ) : s.callbacks k = .checking ∧ s.opened = false
      ∨ (∃ i aliveCount, s.callbacks k = .counting i aliveCount ∧ 0 < aliveCount) →
      Move s (.callback k) ((s.setMutex none).setCallback k .idle)
  | enter (k : ℕ) : s.callbacks k = .checking → s.opened = true →
      Move s (.callback k) (s.setCallback k (.counting 0 0))
  | count (k i aliveCount : ℕ) (c : ConnId) : s.callbacks k = .counting i aliveCount →
      s.connections[i]? = some c → Move s (.callback k) (s.setCallback k
        (.counting (i + 1) (if s.connected c then aliveCount + 1 else aliveCount)))
  | decide (k i : ℕ) : s.callbacks k = .counting i 0 → s.connections[i]? = none →
      Move s (.callback k) (s.setCallback k .storing)
  | store (k : ℕ) : s.callbacks k = .storing → Move s (.callback k)
      ({ s with opened := false }.setCallback k (.stoppingIo s.hasDisconnectCallback))
  | stopIo (k : ℕ) (b : Bool) : s.callbacks k = .stoppingIo b →
      Move s (.callback k) (s.stopIo.setCallback k (.stoppingSend b))
  | stopSend (k : ℕ) (b : Bool) : s.callbacks k = .stoppingSend b →
      Move s (.callback k) (s.stopSend.setCallback k (.disconnecting 0 b))
  | disconnectSlot (k i : ℕ) (b : Bool) (connected : ConnId → Bool) :
      s.callbacks k = .disconnecting i b → (∀ c, connected c = true → s.connected c = true) →
      Move s (.callback k) ({ s with connected := connected }.setCallback k (.disconnecting (i + 1) b))
  | unlock (k i : ℕ) (b : Bool) : s.callbacks k = .disconnecting i b →
      Move s (.callback k) ((s.setMutex none).setCallback k (.notifying b))
  | notify (k : ℕ) : s.callbacks k = .notifying true → Move s (.callback k)
      ({ s with notifications := k :: s.notifications }.setCallback k .inCallback)
  | finish (k : ℕ) : s.callbacks k = .inCallback ∨ (∃ b, s.callbacks k = .notifying b
      ∧ (b && s.hasDisconnectCallback) = false) → Move s (.callback k) (s.setCallback k .idle)
  | replace (slotIndex : ℕ) : s.disconnectMutex = none → slotIndex < s.connections.length →
      Move s (.replaceConnection slotIndex)
        { s with
          connections := s.connections.set slotIndex s.nextConn
          connected := Function.update s.connected s.nextConn true
          nextConn := s.nextConn + 1 }
  | callClose (k : ℕ) : s.closes k = .idle →
      Move s (.callClose k) ({ s with closeCalled := true }.setClose k .exchanging)
  | exchange (k : ℕ) : s.closes k = .exchanging → Move s (.close k)
      ({ s with opened := false, closeClaimed := s.closeClaimed || s.opened }.setClose k
        (if s.opened then .stoppingSend else .stoppingReorder))
  | joinSend (k : ℕ) : s.closes k = .stoppingSend →
      Move s (.close k) ({ s with sendThread := none }.setClose k .stoppingIo)
  | joinIo (k : ℕ) : s.closes k = .stoppingIo →
      Move s (.close k) ({ s with ioThread := none }.setClose k (.disconnecting 0))
  | closeSlot (k i : ℕ) (connected : ConnId → Bool) (pc : ClosePc) :
      s.closes k = .disconnecting i → (∀ c, connected c = true → s.connected c = true) →
      pc = .disconnecting (i + 1) ∨ pc = .stoppingReorder →
      Move s (.close k) ({ s with connected := connected }.setClose k pc)
  | stopReorder (k : ℕ) : s.closes k = .stoppingReorder →
      Move s (.close k) ({ s with reorderRunning := false }.setClose k .idle)

/-- The loops that disconnect what is left only disconnect. -/
lemma disconnectSlot_eq (s : Lifecycle) (i : ℕ) :
    ∃ connected, s.disconnectSlot i = { s with connected := connected }
      ∧ ∀ c, connected c = true → s.connected c = true := by
  rw [Lifecycle.disconnectSlot]
  split
  · rename_i c _
    split_ifs
    · refine ⟨_, rfl, fun c' h => ?_⟩
      rw [Function.update_apply] at h
      split_ifs at h
      exact h
    · exact ⟨s.connected, rfl, fun _ h => h⟩
  · exact ⟨s.connected, rfl, fun _ h => h⟩

lemma openStep_cases (s : Lifecycle) : s.openStep = s ∨ Move s .opening s.openStep := by
  rw [openStep]
  split
  · exact Or.inr (.startReorder ‹_›)
  · exact Or.inr (.startIo ‹_›)
  · exact Or.inr (.startSend ‹_›)
  · exact Or.inr (.publish ‹_›)
  · exact Or.inl rfl

lemma callbackStep_cases (s : Lifecycle) (k : ℕ) :
    s.callbackStep k = s ∨ Move s (.callback k) (s.callbackStep k) := by
  rw [callbackStep]
  split
  · exact Or.inl rfl
  all_goals rename_i hpc
  · split_ifs with hfree
    · exact Or.inr (.lock k hpc hfree)
    · exact Or.inl rfl
  all_goals right
  · split_ifs with hopen
    · exact .enter k hpc hopen
    · exact .leave k (Or.inl ⟨hpc, Bool.eq_false_of_not_eq_true hopen⟩)
  · split
    · rename_i c hc
      exact .count k _ _ c hpc hc
    · rename_i hnone
      split_ifs with hpos
      · exact .leave k (Or.inr ⟨_, _, hpc, hpos⟩)
      · rw [Nat.eq_zero_of_not_pos hpos] at hpc
        exact .decide k _ hpc hnone
  · exact .store k hpc
  · exact .stopIo k _ hpc
  · exact .stopSend k _ hpc
  · split_ifs
    · obtain ⟨connected, hslot, hdying⟩ := disconnectSlot_eq s ‹ℕ›
      rw [hslot]
      exact .disconnectSlot k _ _ connected hpc hdying
    · exact .unlock k _ _ hpc
  · split_ifs with hnotify
    · rw [Bool.and_eq_true] at hnotify
      rw [hnotify.1] at hpc
      exact .notify k hpc
    · exact .finish k (Or.inr ⟨_, hpc, Bool.eq_false_of_not_eq_true hnotify⟩)
  · exact .finish k (Or.inl hpc)

lemma closeStep_cases (s : Lifecycle) (k : ℕ) :
    s.closeStep k = s ∨ Move s (.close k) (s.closeStep k) := by
  rw [closeStep]
  split
  · exact Or.inl rfl
  all_goals rename_i hpc
  all_goals right
  · exact .exchange k hpc
  · exact .joinSend k hpc
  · exact .joinIo k hpc
  · split_ifs
    · obtain ⟨connected, hslot, hdying⟩ := disconnectSlot_eq s ‹ℕ›
      rw [hslot]
      exact .closeSlot k _ connected _ hpc hdying (Or.inl rfl)
    · exact .closeSlot k _ s.connected _ hpc (fun _ h => h) (Or.inr rfl)
  · exact .stopReorder k hpc

theorem step_cases (s : Lifecycle) (e : Event) : step s e = s ∨ Move s e (step s e) := by
  cases e with
  | opening => exact openStep_cases s
  | death k c =>
    simp only [step, death]
    split_ifs with h
    · exact Or.inr (.die k c h.2)
    · exact Or.inl rfl
  | callback k => exact callbackStep_cases s k
  | replaceConnection slotIndex =>
    simp only [step, replaceConnection]
    split_ifs with h
    · exact Or.inr (.replace slotIndex h.1 h.2)
    · exact Or.inl rfl
  | callClose k =>
    simp only [step, callClose]
    split_ifs with h
    · exact Or.inr (.callClose k h)
    · exact Or.inl rfl
  | close k => exact closeStep_cases s k

/-! ## What a step does to a call and to `opened` -/

variable {e : Event} {t : Lifecycle}

lemma closes_step (s : Lifecycle) (e : Event) (k : ℕ) :
    (step s e).closes k = s.closes k ∨ e = .callClose k ∨ e = .close k := by
  rcases step_cases s e with hstep | hstep
  · exact Or.inl (congrFun (congrArg closes hstep) k)
  · generalize step s e = t at hstep
    cases hstep with
    | callClose k' | exchange k' | joinSend k' | joinIo k' | closeSlot k' | stopReorder k' =>
      by_cases hk : k = k'
      · rw [hk]
        simp
      · rw [closes_setClose, if_neg hk]
        exact Or.inl rfl
    | _ => exact Or.inl rfl

lemma Move.callbacks (h : Move s e t) (k : ℕ) :
    t.callbacks k = s.callbacks k ∨ t.callbacks k = .locking ∨ e = .callback k := by
  by_cases heq : e = .callback k
  · exact Or.inr (Or.inr heq)
  · cases h with
    | startReorder | startIo | startSend | publish | replace | callClose | exchange | joinSend | joinIo
    | closeSlot | stopReorder =>
      exact Or.inl rfl
    | die =>
      rw [callbacks_setCallback]
      split_ifs
      · exact Or.inr (Or.inl rfl)
      · exact Or.inl rfl
    | _ =>
      rw [callbacks_setCallback, if_neg fun h => heq (congrArg Event.callback h.symm)]
      exact Or.inl rfl

/-- What a callback is found to be after a step, but not at its beginning, it was before, or it
has taken the step. -/
lemma callback_step {P : CallbackPc → Prop} (hlocking : ¬ P .locking) {k : ℕ}
    (h : P ((step s e).callbacks k)) :
    P (s.callbacks k) ∨ e = .callback k ∧ Move s (.callback k) (step s e) := by
  rcases step_cases s e with hstep | hstep
  · exact Or.inl (hstep ▸ h)
  · rcases hstep.callbacks k with heq | heq | rfl
    · exact Or.inl (heq ▸ h)
    · rw [heq] at h
      exact absurd h hlocking
    · exact Or.inr ⟨rfl, hstep⟩

/-- Call `k` finishes its count, with nothing alive. -/
def Decides (s : Lifecycle) (e : Event) (k : ℕ) : Prop :=
  e = .callback k ∧ ∃ i, s.callbacks k = .counting i 0 ∧ s.connections[i]? = none

lemma storing_step {k : ℕ} (h : (step s e).callbacks k = .storing) :
    s.callbacks k = .storing ∨ s.Decides e k := by
  rcases callback_step (P := (· = .storing)) nofun h with h | ⟨rfl, hstep⟩
  · exact Or.inl h
  · generalize step s _ = t at *
    cases hstep with
    | decide _ i hpc hnone => exact Or.inr ⟨rfl, i, hpc, hnone⟩
    | _ =>
      rw [callbacks_setCallback, if_pos rfl] at h
      cases h

lemma deciding_step {k : ℕ} (h : ((step s e).callbacks k).deciding = true) :
    (s.callbacks k).deciding = true ∨ s.opened = true := by
  rcases callback_step (P := fun pc => pc.deciding = true) nofun h with h | ⟨rfl, hstep⟩
  · exact Or.inl h
  · generalize step s _ = t at *
    cases hstep with
    | enter _ _ hopen => exact Or.inr hopen
    | count _ _ _ _ hpc | decide _ _ hpc =>
      rw [hpc]
      exact Or.inl rfl
    | _ =>
      rw [callbacks_setCallback, if_pos rfl] at h
      cases h

lemma stored_step {k : ℕ} {b : Bool} (h : ((step s e).callbacks k).stored? = some b) :
    (s.callbacks k).stored? = some b ∨ e = .callback k ∧ s.callbacks k = .storing := by
  rcases callback_step (P := fun pc => pc.stored? = some b) nofun h with h | ⟨rfl, hstep⟩
  · exact Or.inl h
  · generalize step s _ = t at *
    cases hstep with
    | store _ hpc => exact Or.inr ⟨rfl, hpc⟩
    | stopIo _ b' hpc | stopSend _ b' hpc | disconnectSlot _ _ b' _ hpc | unlock _ _ b' hpc =>
      rw [callbacks_setCallback, if_pos rfl] at h
      rw [hpc]
      exact Or.inl h
    | _ =>
      rw [callbacks_setCallback, if_pos rfl] at h
      cases h

lemma notifications_step {k : ℕ} (h : k ∈ (step s e).notifications) :
    k ∈ s.notifications ∨ e = .callback k ∧ s.callbacks k = .notifying true := by
  rcases step_cases s e with hstep | hstep
  · exact Or.inl (hstep ▸ h)
  · generalize step s e = t at *
    cases hstep with
    | notify k' hpc =>
      rcases List.mem_cons.mp h with rfl | h
      · exact Or.inr ⟨rfl, hpc⟩
      · exact Or.inl h
    | _ => exact Or.inl h

/-- `opened` goes back to false in two places. -/
lemma opened_step (hopen : s.opened = true) (e : Event) : (step s e).opened = true
    ∨ (∃ k, e = .callback k ∧ s.callbacks k = .storing)
    ∨ (∃ k, e = .close k ∧ s.closes k = .exchanging) ∧ (step s e).closeClaimed = true := by
  rcases step_cases s e with hstep | hstep
  · rw [hstep]
    exact Or.inl hopen
  · generalize step s e = t at *
    cases hstep with
    | publish => exact Or.inl rfl
    | store k hpc => exact Or.inr (Or.inl ⟨k, rfl, hpc⟩)
    | exchange k hpc =>
      refine Or.inr (Or.inr ⟨⟨k, rfl, hpc⟩, ?_⟩)
      show (s.closeClaimed || s.opened) = true
      rw [hopen, Bool.or_true]
    | _ => exact Or.inl hopen

/-- The exchange of `close()` claims only an open channel. -/
lemma closeClaimed_step (s : Lifecycle) (e : Event) :
    (step s e).closeClaimed = s.closeClaimed
      ∨ s.opened = true ∧ (step s e).closeClaimed = true ∧ ∃ k, e = .close k := by
  rcases step_cases s e with hstep | hstep
  · exact Or.inl (congrArg closeClaimed hstep)
  · generalize step s e = t at *
    cases hstep with
    | exchange k =>
      by_cases hopen : s.opened = true
      · refine Or.inr ⟨hopen, ?_, k, rfl⟩
        show (s.closeClaimed || s.opened) = true
        rw [hopen, Bool.or_true]
      · left
        show (s.closeClaimed || s.opened) = s.closeClaimed
        rw [Bool.eq_false_of_not_eq_true hopen, Bool.or_false]
    | _ => exact Or.inl rfl

/-- `open()` returns with `opened` set. -/
lemma opened_of_returned (h : s.openPc ≠ .returned) (hret : (step s e).openPc = .returned) :
    (step s e).opened = true := by
  rcases step_cases s e with hstep | hstep
  · exact absurd (hstep ▸ hret) h
  · generalize step s e = t at *
    cases hstep with
    | publish => rfl
    | startReorder | startIo | startSend => cases hret
    | _ => exact absurd hret h

/-! ## The lock -/

/-- Only the holder of the mutex is inside. -/
def Guarded (s : Lifecycle) : Prop :=
  ∀ k, (s.callbacks k).inside = true → s.disconnectMutex = some k

lemma Guarded.unique (hs : Guarded s) {k k' : ℕ} (h : (s.callbacks k).inside = true)
    (h' : (s.callbacks k').inside = true) : k = k' :=
  Option.some.inj ((hs k h).symm.trans (hs k' h'))

/-- A call goes on inside the lock, or stays outside. -/
lemma Guarded.setCallback (hs : Guarded s) {k : ℕ} {pc : CallbackPc}
    (h : pc.inside = true → (s.callbacks k).inside = true) : Guarded (s.setCallback k pc) := by
  intro k' hk'
  rw [callbacks_setCallback] at hk'
  split_ifs at hk' with heq
  · rw [heq]
    exact hs k (h hk')
  · exact hs k' hk'

lemma Guarded.lock (hs : Guarded s) (hfree : s.disconnectMutex = none) (k : ℕ) (pc : CallbackPc) :
    Guarded ((s.setMutex (some k)).setCallback k pc) := by
  intro k' hk'
  rw [callbacks_setCallback] at hk'
  split_ifs at hk' with heq
  · rw [heq]
    rfl
  · have hholds := hs k' hk'
    rw [hfree] at hholds
    cases hholds

lemma Guarded.unlock (hs : Guarded s) {k : ℕ} {pc : CallbackPc}
    (hk : (s.callbacks k).inside = true) (hpc : pc.inside = false) :
    Guarded ((s.setMutex none).setCallback k pc) := by
  intro k' hk'
  rw [callbacks_setCallback] at hk'
  split_ifs at hk' with heq
  · rw [hpc] at hk'
    cases hk'
  · exact absurd (hs.unique hk' hk) heq

lemma guarded_step (hs : Guarded s) (e : Event) : Guarded (step s e) := by
  have hinside : ∀ {k pc}, s.callbacks k = pc → pc.inside = true →
      (s.callbacks k).inside = true := fun h hpc => h ▸ hpc
  rcases step_cases s e with h | h
  · rw [h]
    exact hs
  · generalize step s e = t at h
    cases h with
    | die k c => exact Guarded.setCallback (s := s.disconnect c) hs nofun
    | lock k _ hfree => exact hs.lock hfree k _
    | leave k hpc =>
      rcases hpc with ⟨hpc, -⟩ | ⟨i, aliveCount, hpc, -⟩
      · exact hs.unlock (hinside hpc rfl) rfl
      · exact hs.unlock (hinside hpc rfl) rfl
    | enter k hpc => exact hs.setCallback fun _ => hinside hpc rfl
    | count k i aliveCount c hpc => exact hs.setCallback fun _ => hinside hpc rfl
    | decide k i hpc => exact hs.setCallback fun _ => hinside hpc rfl
    | store k hpc =>
      exact Guarded.setCallback (s := { s with opened := false }) hs fun _ => hinside hpc rfl
    | stopIo k b hpc => exact Guarded.setCallback (s := s.stopIo) hs fun _ => hinside hpc rfl
    | stopSend k b hpc => exact Guarded.setCallback (s := s.stopSend) hs fun _ => hinside hpc rfl
    | disconnectSlot k i b connected hpc =>
      exact Guarded.setCallback (s := { s with connected := connected }) hs fun _ =>
        hinside hpc rfl
    | unlock k i b hpc => exact hs.unlock (hinside hpc rfl) rfl
    | notify => exact Guarded.setCallback (s := { s with notifications := _ }) hs nofun
    | finish => exact hs.setCallback nofun
    | _ => exact hs

lemma inside_of_deciding {pc : CallbackPc} (h : pc.deciding = true) : pc.inside = true := by
  cases pc <;> first | rfl | cases h

/-- While a call decides, only `close()` can close the channel. -/
lemma opened_of_deciding (hguard : Guarded s) (hopen : s.opened = true) {k : ℕ}
    (hk : ((step s e).callbacks k).deciding = true) : (step s e).opened = true
      ∨ (∃ k', e = .close k' ∧ s.closes k' = .exchanging) ∧ (step s e).closeClaimed = true := by
  rcases opened_step hopen e with hopen | ⟨k', rfl, hpc⟩ | hclose
  · exact Or.inl hopen
  · -- the call that stores is the only one inside
    have hpc' : (step s (.callback k')).callbacks k' = .stoppingIo s.hasDisconnectCallback := by
      simp only [step, callbackStep, hpc]
      rw [callbacks_setCallback, if_pos rfl]
    have hsame : k = k' := (guarded_step hguard (.callback k')).unique (inside_of_deciding hk)
      (by rw [hpc']; rfl)
    rw [hsame, hpc'] at hk
    cases hk
  · exact Or.inr hclose

/-! ## The claim of a `disconnectCB` -/

/-- The transition of `opened` from true to false has been claimed. -/
def Spent (s : Lifecycle) : Prop :=
  (∃ k b, (s.callbacks k).stored? = some b) ∨ s.notifications ≠ [] ∨ s.closeClaimed = true

structure Claims (s : Lifecycle) : Prop where
  opened : s.opened = true → s.openPc = .returned
  spent : s.Spent → s.opened = false ∧ s.openPc = .returned
  /-- While one call decides, no call has claimed. -/
  deciding : ∀ k, (s.callbacks k).deciding = true → s.openPc = .returned
    ∧ (∀ k', (s.callbacks k').stored? = none) ∧ s.notifications = []
  single : ∀ k k' b b', (s.callbacks k).stored? = some b → (s.callbacks k').stored? = some b' →
    k = k'
  notified : s.notifications.length ≤ 1 ∧
    (s.notifications ≠ [] → ∀ k, (s.callbacks k).stored? = none)
  flag : ∀ k b, (s.callbacks k).stored? = some b → b = s.hasDisconnectCallback

/-- Before the claim nobody has claimed. -/
lemma Claims.not_stored (hs : Claims s) (h : s.opened = true) :
    (∀ k, (s.callbacks k).stored? = none) ∧ s.notifications = [] ∧ s.closeClaimed = false := by
  have hspent : ¬ s.Spent := fun hspent => by
    have := (hs.spent hspent).1
    rw [h] at this
    cases this
  refine ⟨fun k => ?_, ?_, ?_⟩
  · rw [Option.eq_none_iff_forall_ne_some]
    exact fun b hb => hspent (Or.inl ⟨k, b, hb⟩)
  · by_contra hne
    exact hspent (Or.inr (Or.inl hne))
  · rw [Bool.eq_false_iff]
    exact fun hclaimed => hspent (Or.inr (Or.inr hclaimed))

/-- A call that does not claim moves on; it starts to decide only when `opened` is true. -/
lemma Claims.setCallback (hs : Claims s) {k : ℕ} {pc : CallbackPc}
    (hstored : ∀ b, pc.stored? = some b → (s.callbacks k).stored? = some b)
    (hdeciding : pc.deciding = true → (s.callbacks k).deciding = true ∨ s.opened = true) :
    Claims (s.setCallback k pc) := by
  have hmono : ∀ k' b, ((s.setCallback k pc).callbacks k').stored? = some b →
      (s.callbacks k').stored? = some b := by
    intro k' b h
    rw [callbacks_setCallback] at h
    split_ifs at h with heq
    · exact heq ▸ hstored b h
    · exact h
  have hnone : (∀ k', (s.callbacks k').stored? = none) →
      ∀ k', ((s.setCallback k pc).callbacks k').stored? = none := by
    intro h k'
    rw [Option.eq_none_iff_forall_ne_some]
    intro b hb
    have := hmono k' b hb
    rw [h k'] at this
    cases this
  refine ⟨hs.opened, fun h => hs.spent ?_, fun k' h => ?_, fun k₁ k₂ b b' h h' =>
    hs.single k₁ k₂ b b' (hmono k₁ b h) (hmono k₂ b' h'), ⟨hs.notified.1, fun h =>
    hnone (hs.notified.2 h)⟩, fun k' b h => hs.flag k' b (hmono k' b h)⟩
  · exact h.imp_left fun ⟨k', b, h⟩ => ⟨k', b, hmono k' b h⟩
  · have hk' : (s.callbacks k').deciding = true ∨ s.opened = true := by
      rw [callbacks_setCallback] at h
      split_ifs at h with heq
      · exact heq ▸ hdeciding h
      · exact Or.inl h
    rcases hk' with hk' | hopen
    · obtain ⟨h₁, h₂, h₃⟩ := hs.deciding k' hk'
      exact ⟨h₁, hnone h₂, h₃⟩
    · obtain ⟨h₂, h₃, -⟩ := hs.not_stored hopen
      exact ⟨hs.opened hopen, hnone h₂, h₃⟩

/-- The store: nobody else decides, and nobody has claimed. -/
lemma claims_store (hs : Claims s) (hguard : Guarded s) {k : ℕ} (hpc : s.callbacks k = .storing) :
    Claims ({ s with opened := false }.setCallback k (.stoppingIo s.hasDisconnectCallback)) := by
  have hk : (s.callbacks k).deciding = true := by rw [hpc]; rfl
  obtain ⟨hret, hnone, hnotif⟩ := hs.deciding k hk
  have hstored : ∀ k' b, (({ s with opened := false }.setCallback k
      (.stoppingIo s.hasDisconnectCallback)).callbacks k').stored? = some b →
      k' = k ∧ b = s.hasDisconnectCallback := by
    intro k' b h
    rw [callbacks_setCallback] at h
    split_ifs at h with heq
    · exact ⟨heq, (Option.some.inj h).symm⟩
    · rw [hnone k'] at h
      cases h
  refine ⟨nofun, fun _ => ⟨rfl, hret⟩, fun k' h => ?_, fun k₁ k₂ b b' h h' =>
    (hstored k₁ b h).1.trans (hstored k₂ b' h').1.symm, ⟨hs.notified.1, fun h => absurd hnotif h⟩,
    fun k' b h => (hstored k' b h).2⟩
  rw [callbacks_setCallback] at h
  split_ifs at h with heq
  · cases h
  · exact absurd (hguard.unique (inside_of_deciding h) (inside_of_deciding hk)) heq

/-- The notification: it is the first one, and the claim is used up. -/
lemma claims_notify (hs : Claims s) {k : ℕ} (hpc : s.callbacks k = .notifying true) :
    Claims ({ s with notifications := k :: s.notifications }.setCallback k .inCallback) := by
  have hk : (s.callbacks k).stored? = some true := by rw [hpc]; rfl
  obtain ⟨hopened, hret⟩ := hs.spent (Or.inl ⟨k, true, hk⟩)
  have hfirst : s.notifications = [] := by
    by_contra hne
    have hnone := hs.notified.2 hne k
    rw [hk] at hnone
    cases hnone
  have hnone : ∀ k', (({ s with notifications := k :: s.notifications }.setCallback k
      .inCallback).callbacks k').stored? = none := by
    intro k'
    rw [callbacks_setCallback]
    split_ifs with heq
    · rfl
    · rw [Option.eq_none_iff_forall_ne_some]
      exact fun b hb => heq (hs.single k' k b true hb hk)
  refine ⟨hs.opened, fun _ => ⟨hopened, hret⟩, fun k' h => ?_, fun k₁ _ b _ h => ?_,
    ⟨?_, fun _ => hnone⟩, fun k' b h => ?_⟩
  · rw [callbacks_setCallback] at h
    split_ifs at h with heq
    · cases h
    · have := (hs.deciding k' h).2.1 k
      rw [hk] at this
      cases this
  · rw [hnone k₁] at h
    cases h
  · show (k :: s.notifications).length ≤ 1
    rw [hfirst]
    exact le_rfl
  · rw [hnone k'] at h
    cases h

/-- `connected`, the threads and the lock do not matter. -/
lemma Claims.congr (hs : Claims s) {t : Lifecycle} (hopened : t.opened = s.opened)
    (hpc : t.openPc = s.openPc) (hcallbacks : t.callbacks = s.callbacks)
    (hnotif : t.notifications = s.notifications) (hclose : t.closeClaimed = s.closeClaimed)
    (hflag : t.hasDisconnectCallback = s.hasDisconnectCallback) : Claims t where
  opened := by rw [hopened, hpc]; exact hs.opened
  spent h := by
    rw [Spent, hcallbacks, hnotif, hclose] at h
    rw [hopened, hpc]
    exact hs.spent h
  deciding := by rw [hcallbacks, hpc, hnotif]; exact hs.deciding
  single := by rw [hcallbacks]; exact hs.single
  notified := by rw [hnotif, hcallbacks]; exact hs.notified
  flag := by rw [hcallbacks, hflag]; exact hs.flag

lemma claims_opening (hs : Claims s) (hpc : s.openPc ≠ .returned) {t : Lifecycle}
    (hcallbacks : t.callbacks = s.callbacks) (hnotif : t.notifications = s.notifications)
    (hclose : t.closeClaimed = s.closeClaimed)
    (hflag : t.hasDisconnectCallback = s.hasDisconnectCallback)
    (hopened : t.opened = true → s.opened = true ∨ t.openPc = .returned) : Claims t where
  opened h := by
    rcases hopened h with h | h
    · exact absurd (hs.opened h) hpc
    · exact h
  spent h := by
    rw [Spent, hcallbacks, hnotif, hclose] at h
    exact absurd (hs.spent h).2 hpc
  deciding k h := absurd (hs.deciding k (hcallbacks ▸ h)).1 hpc
  single := by rw [hcallbacks]; exact hs.single
  notified := by rw [hnotif, hcallbacks]; exact hs.notified
  flag := by rw [hcallbacks, hflag]; exact hs.flag

lemma claims_step (hs : Claims s) (hguard : Guarded s) (e : Event) : Claims (step s e) := by
  rcases step_cases s e with h | h
  · rw [h]
    exact hs
  · generalize step s e = t at h
    cases h with
    | startReorder hpc | startIo hpc | startSend hpc =>
      exact claims_opening hs (by rw [hpc]; simp) rfl rfl rfl rfl Or.inl
    | publish hpc =>
      exact claims_opening hs (by rw [hpc]; simp) rfl rfl rfl rfl fun _ => Or.inr rfl
    | die k c =>
      exact Claims.setCallback (s := s.disconnect c) (hs.congr rfl rfl rfl rfl rfl rfl) nofun nofun
    | lock k =>
      exact Claims.setCallback (s := s.setMutex (some k)) (hs.congr rfl rfl rfl rfl rfl rfl)
        nofun nofun
    | leave =>
      exact Claims.setCallback (s := s.setMutex none) (hs.congr rfl rfl rfl rfl rfl rfl) nofun nofun
    | enter k _ hopen => exact hs.setCallback nofun fun _ => Or.inr hopen
    | count k i aliveCount c hpc => exact hs.setCallback nofun fun _ => Or.inl (by rw [hpc]; rfl)
    | decide k i hpc => exact hs.setCallback nofun fun _ => Or.inl (by rw [hpc]; rfl)
    | store k hpc => exact claims_store hs hguard hpc
    | stopIo k b hpc =>
      exact Claims.setCallback (s := s.stopIo) (hs.congr rfl rfl rfl rfl rfl rfl)
        (fun b' h => (congrArg CallbackPc.stored? hpc).trans h) nofun
    | stopSend k b hpc =>
      exact Claims.setCallback (s := s.stopSend) (hs.congr rfl rfl rfl rfl rfl rfl)
        (fun b' h => (congrArg CallbackPc.stored? hpc).trans h) nofun
    | disconnectSlot k i b connected hpc =>
      exact Claims.setCallback (s := { s with connected := connected })
        (hs.congr rfl rfl rfl rfl rfl rfl)
        (fun b' h => (congrArg CallbackPc.stored? hpc).trans h) nofun
    | unlock k i b hpc =>
      exact Claims.setCallback (s := s.setMutex none) (hs.congr rfl rfl rfl rfl rfl rfl)
        (fun b' h => (congrArg CallbackPc.stored? hpc).trans h) nofun
    | notify k hpc => exact claims_notify hs hpc
    | finish => exact hs.setCallback nofun nofun
    | exchange k =>
      -- the exchange claims only what was open
      refine ⟨nofun, fun h => ⟨rfl, ?_⟩, hs.deciding, hs.single, hs.notified, hs.flag⟩
      rcases h with h | h | h
      · exact (hs.spent (Or.inl h)).2
      · exact (hs.spent (Or.inr (Or.inl h))).2
      · rcases Bool.or_eq_true_iff.mp h with h | h
        · exact (hs.spent (Or.inr (Or.inr h))).2
        · exact hs.opened h
    | replace | callClose | joinSend | joinIo | closeSlot | stopReorder =>
      exact hs.congr rfl rfl rfl rfl rfl rfl

/-! ## The count -/

/-- The slots below `i` are dead. -/
def DeadBelow (s : Lifecycle) (i : ℕ) : Prop :=
  ∀ j < i, ∀ c, s.connections[j]? = some c → s.connected c = false

structure Counted (s : Lifecycle) : Prop where
  counting : ∀ k i, s.callbacks k = .counting i 0 → s.DeadBelow i
  storing : ∀ k, s.callbacks k = .storing → ¬ s.Alive

/-- Connections only die, and the vector stays. -/
def Dying (s t : Lifecycle) : Prop :=
  t.connections = s.connections ∧ ∀ c, t.connected c = true → s.connected c = true

lemma Dying.deadBelow {t : Lifecycle} (h : Dying s t) {i : ℕ} (hs : s.DeadBelow i) :
    t.DeadBelow i := by
  intro j hj c hc
  rw [h.1] at hc
  have hdead := hs j hj c hc
  rw [Bool.eq_false_iff] at hdead ⊢
  exact fun hconn => hdead (h.2 c hconn)

lemma Dying.alive {t : Lifecycle} (h : Dying s t) (ht : t.Alive) : s.Alive := by
  obtain ⟨c, hc, hconn⟩ := ht
  exact ⟨c, h.1 ▸ hc, h.2 c hconn⟩

lemma dying_disconnect (s : Lifecycle) (c : ConnId) : Dying s (s.disconnect c) := by
  refine ⟨rfl, fun c' h => ?_⟩
  simp only [disconnect, Function.update_apply] at h
  split_ifs at h
  exact h

/-- A dead vector has no connected connection, and the other way round. -/
lemma not_alive_of_deadBelow {i : ℕ} (hi : s.connections[i]? = none) (h : s.DeadBelow i) :
    ¬ s.Alive := by
  rintro ⟨c, hc, hconn⟩
  obtain ⟨j, hj, hget⟩ := List.getElem_of_mem hc
  have hlt : j < i := lt_of_lt_of_le hj (List.getElem?_eq_none_iff.mp hi)
  rw [h j hlt c (by rw [List.getElem?_eq_getElem hj, hget])] at hconn
  cases hconn

/-- Other calls keep what they know while connections die. -/
lemma Counted.move (hs : Counted s) {t : Lifecycle} (hdying : Dying s t)
    (hcallbacks : t.callbacks = s.callbacks) : Counted t where
  counting k i h := hdying.deadBelow (hs.counting k i (hcallbacks ▸ h))
  storing k h halive := hs.storing k (hcallbacks ▸ h) (hdying.alive halive)

lemma Counted.setCallback (hs : Counted s) {k : ℕ} {pc : CallbackPc}
    (hcounting : ∀ i, pc = .counting i 0 → s.DeadBelow i) (hstoring : pc = .storing → ¬ s.Alive) :
    Counted (s.setCallback k pc) where
  counting k' i h := by
    rw [callbacks_setCallback] at h
    split_ifs at h
    · exact hcounting i h
    · exact hs.counting k' i h
  storing k' h := by
    rw [callbacks_setCallback] at h
    split_ifs at h
    · exact hstoring h
    · exact hs.storing k' h


lemma counted_step (hs : Counted s) (hguard : Guarded s) (e : Event) : Counted (step s e) := by
  have hsame : ∀ {t : Lifecycle}, t.connections = s.connections → t.connected = s.connected →
      t.callbacks = s.callbacks → Counted t :=
    fun h₁ h₂ h₃ => hs.move ⟨h₁, fun c h => h₂ ▸ h⟩ h₃
  rcases step_cases s e with h | h
  · rw [h]
    exact hs
  · generalize step s e = t at h
    cases h with
    | die k c =>
      exact (hs.move (t := s.disconnect c) (dying_disconnect s c) rfl).setCallback nofun nofun
    | lock k => exact (hsame (t := s.setMutex (some k)) rfl rfl rfl).setCallback nofun nofun
    | leave => exact (hsame (t := s.setMutex none) rfl rfl rfl).setCallback nofun nofun
    | enter =>
      refine hs.setCallback (fun i h j hj => ?_) nofun
      cases h
      exact absurd hj (Nat.not_lt_zero j)
    | count k i aliveCount c hpc hc =>
      refine hs.setCallback (fun i' h j hj c' hc' => ?_) nofun
      -- the count stays zero only at a dead slot
      by_cases hconn : s.connected c = true
      · rw [if_pos hconn] at h
        cases h
      · rw [if_neg hconn] at h
        cases h
        rcases Nat.lt_succ_iff_lt_or_eq.mp hj with hj | rfl
        · exact hs.counting k i hpc j hj c' hc'
        · rw [hc] at hc'
          cases hc'
          exact Bool.eq_false_of_not_eq_true hconn
    | decide k i hpc hnone =>
      exact hs.setCallback nofun fun _ => not_alive_of_deadBelow hnone (hs.counting k i hpc)
    | store => exact (hsame (t := { s with opened := false }) rfl rfl rfl).setCallback nofun nofun
    | stopIo => exact (hsame (t := s.stopIo) rfl rfl rfl).setCallback nofun nofun
    | stopSend => exact (hsame (t := s.stopSend) rfl rfl rfl).setCallback nofun nofun
    | disconnectSlot k i b connected _ hdying =>
      exact (hs.move (t := { s with connected := connected }) ⟨rfl, hdying⟩ rfl).setCallback
        nofun nofun
    | unlock => exact (hsame (t := s.setMutex none) rfl rfl rfl).setCallback nofun nofun
    | notify k =>
      exact (hsame (t := { s with notifications := k :: s.notifications }) rfl rfl rfl).setCallback
        nofun nofun
    | finish => exact hs.setCallback nofun nofun
    | replace slotIndex hfree =>
      -- the lock is free, so nobody is counting
      have hout : ∀ k, (s.callbacks k).inside = false := by
        intro k
        rw [Bool.eq_false_iff]
        intro hk
        have := hguard k hk
        rw [hfree] at this
        cases this
      refine ⟨fun k i hk => ?_, fun k hk => ?_⟩
      · have := hout k
        rw [show s.callbacks k = _ from hk] at this
        cases this
      · have := hout k
        rw [show s.callbacks k = _ from hk] at this
        cases this
    | closeSlot k i connected pc _ hdying => exact hs.move ⟨rfl, hdying⟩ rfl
    | _ => exact hsame rfl rfl rfl

/-! ## Calls of `close()` -/

def Closing (s : Lifecycle) : Prop := ∀ k, s.closes k ≠ .idle → s.closeCalled = true

lemma closing_step (hs : Closing s) (e : Event) : Closing (step s e) := by
  rcases step_cases s e with h | h
  · rw [h]
    exact hs
  · generalize step s e = t at h
    cases h with
    | callClose => exact fun _ _ => rfl
    | exchange k hpc | joinSend k hpc | joinIo k hpc | closeSlot k _ _ _ hpc | stopReorder k hpc =>
      exact fun _ _ => hs k (by rw [hpc]; simp)
    | _ => exact hs

/-! ## Runs -/

structure Inv (s : Lifecycle) : Prop where
  guarded : Guarded s
  claims : Claims s
  counted : Counted s
  closing : Closing s

lemma inv_init (numConns : ℕ) (hasDisconnectCallback : Bool) :
    Inv (init numConns hasDisconnectCallback) where
  guarded _ h := by cases h
  claims :=
    ⟨nofun, by rintro (⟨k, b, h⟩ | h | h) <;> first | cases h | exact absurd rfl h, nofun, nofun,
      ⟨Nat.zero_le _, fun h => absurd rfl h⟩, nofun⟩
  counted := ⟨nofun, nofun⟩
  closing _ h := absurd rfl h

lemma inv_step (hs : Inv s) (e : Event) : Inv (step s e) where
  guarded := guarded_step hs.guarded e
  claims := claims_step hs.claims hs.guarded e
  counted := counted_step hs.counted hs.guarded e
  closing := closing_step hs.closing e

lemma inv_stateAt (numConns : ℕ) (hasDisconnectCallback : Bool) (events : ℕ → Event) (n : ℕ) :
    Inv (stateAt numConns hasDisconnectCallback events n) :=
  runState_invariant (Q := fun _ => True) (inv_init numConns hasDisconnectCallback)
    (fun _ e _ hs => inv_step hs e) (fun _ => trivial) n

end Lifecycle
end TcpUdp
