import TcpUdp.LifecycleTheorems

/-!
# A channel that has been taken down

`Settled` is the end of a channel's life: it stays, and no call of `disconnectCB` starts to
report any more. `Halted` is what the calls of `disconnectCB` and `close()` have told the
threads: a call that reports has stopped the IO and the send thread, and a thread is joined
only by a `close()` that has claimed the channel.
-/

namespace TcpUdp
namespace Lifecycle

variable {s : Lifecycle} {e : Event}

/-! ## The end -/

/-- Nobody can open the channel again, and nobody is about to take it down. -/
structure Settled (s : Lifecycle) : Prop where
  returned : s.openPc = .returned
  closed : s.opened = false
  undecided : ∀ k, (s.callbacks k).deciding = false

lemma returned_step (h : s.openPc = .returned) (e : Event) : (step s e).openPc = .returned := by
  rcases step_cases s e with hstep | hstep
  · rw [hstep]
    exact h
  · generalize step s e = t at hstep
    cases hstep with
    | startReorder hpc | startIo hpc | startSend hpc =>
      rw [hpc] at h
      cases h
    | publish => rfl
    | _ => exact h

lemma openPc_step (s : Lifecycle) (e : Event) : (step s e).openPc = s.openPc ∨ e = .opening := by
  rcases step_cases s e with hstep | hstep
  · exact Or.inl (congrArg openPc hstep)
  · generalize step s e = t at hstep
    cases hstep with
    | startReorder | startIo | startSend | publish => exact Or.inr rfl
    | _ => exact Or.inl rfl

lemma opened_of_step (h : (step s e).opened = true) :
    s.opened = true ∨ e = .opening ∧ s.openPc = .publishing := by
  rcases step_cases s e with hstep | hstep
  · exact Or.inl (hstep ▸ h)
  · generalize step s e = t at hstep h
    cases hstep with
    | publish hpc => exact Or.inr ⟨rfl, hpc⟩
    | store | exchange => cases h
    | _ => exact Or.inl h

lemma closed_step (hret : s.openPc = .returned) (h : s.opened = false) (e : Event) :
    (step s e).opened = false := by
  rw [Bool.eq_false_iff]
  intro hopen
  rcases opened_of_step hopen with hopen | ⟨-, hpc⟩
  · rw [h] at hopen
    cases hopen
  · rw [hret] at hpc
    cases hpc

lemma settled_step (hs : Settled s) (e : Event) : Settled (step s e) where
  returned := returned_step hs.returned e
  closed := closed_step hs.returned hs.closed e
  undecided k := by
    rw [Bool.eq_false_iff]
    intro hk
    rcases deciding_step hk with hk | hopen
    · rw [hs.undecided k] at hk
      cases hk
    · rw [hs.closed] at hopen
      cases hopen

/-- A channel that a call has claimed is settled. -/
lemma Inv.settled (hs : Inv s) (h : (∃ k b, (s.callbacks k).stored? = some b)
    ∨ s.notifications ≠ []) : Settled s := by
  obtain ⟨hclosed, hret⟩ := hs.claims.spent (h.imp_right Or.inl)
  refine ⟨hret, hclosed, fun k => ?_⟩
  rw [Bool.eq_false_iff]
  intro hk
  obtain ⟨-, hnone, hnotif⟩ := hs.claims.deciding k hk
  rcases h with ⟨k', b, hk'⟩ | hne
  · rw [hnone k'] at hk'
    cases hk'
  · exact hne hnotif

/-- In a settled channel no call begins to store. -/
lemma Settled.stored (hs : Settled s) {k : ℕ} {b : Bool}
    (h : ((step s e).callbacks k).stored? = some b) : (s.callbacks k).stored? = some b := by
  rcases stored_step h with h | ⟨-, h⟩
  · exact h
  · have := hs.undecided k
    rw [h] at this
    cases this

lemma inCallback_step {k : ℕ} (h : (step s e).callbacks k = .inCallback) :
    s.callbacks k = .inCallback ∨ e = .callback k ∧ s.callbacks k = .notifying true := by
  rcases callback_step (P := (· = .inCallback)) nofun h with h | ⟨rfl, hstep⟩
  · exact Or.inl h
  · generalize step s _ = t at *
    cases hstep with
    | notify _ hpc => exact Or.inr ⟨rfl, hpc⟩
    | _ =>
      rw [callbacks_setCallback, if_pos rfl] at h
      cases h

/-! ## Frames -/

lemma callbacks_step (s : Lifecycle) (e : Event) (k : ℕ) :
    (step s e).callbacks k = s.callbacks k ∨ (∃ c, e = .death k c) ∨ e = .callback k := by
  rcases step_cases s e with hstep | hstep
  · exact Or.inl (congrFun (congrArg callbacks hstep) k)
  · generalize step s e = t at hstep
    cases hstep with
    | startReorder | startIo | startSend | publish | replace | callClose | exchange | joinSend | joinIo
    | closeSlot | stopReorder => exact Or.inl rfl
    | die k' c =>
      by_cases hk : k = k'
      · exact Or.inr (Or.inl ⟨c, by rw [hk]⟩)
      · rw [callbacks_setCallback, if_neg hk]
        exact Or.inl rfl
    | lock k' | leave k' | enter k' | count k' | decide k' | store k' | stopIo k' | stopSend k'
    | disconnectSlot k' | unlock k' | notify k' | finish k' =>
      by_cases hk : k = k'
      · exact Or.inr (Or.inr (congrArg Event.callback hk.symm))
      · rw [callbacks_setCallback, if_neg hk]
        exact Or.inl rfl

lemma reorderRunning_step (s : Lifecycle) (e : Event) :
    (step s e).reorderRunning = s.reorderRunning
      ∨ e = .opening ∧ s.openPc = .startingReorder ∧ (step s e).reorderRunning = true
      ∨ ∃ k, e = .close k ∧ (step s e).closes k = .idle ∧ (step s e).reorderRunning = false := by
  rcases step_cases s e with hstep | hstep
  · exact Or.inl (congrArg reorderRunning hstep)
  · generalize step s e = t at hstep
    cases hstep with
    | startReorder hpc => exact Or.inr (Or.inl ⟨rfl, hpc, rfl⟩)
    | stopReorder k => exact Or.inr (Or.inr ⟨k, rfl, Function.update_self .., rfl⟩)
    | _ => exact Or.inl rfl

/-- The last thing that `close()` does is to stop the reorder thread. -/
lemma reorderRunning_of_closed {k : ℕ} (hbusy : s.closes k ≠ .idle)
    (hidle : (step s (.close k)).closes k = .idle) : (step s (.close k)).reorderRunning = false := by
  rcases step_cases s (.close k) with hstep | hstep
  · rw [hstep] at hidle
    exact absurd hidle hbusy
  · generalize step s (.close k) = t at hstep hidle
    cases hstep with
    | stopReorder => rfl
    | exchange =>
      rw [closes_setClose, if_pos rfl] at hidle
      split_ifs at hidle
    | joinSend | joinIo =>
      rw [closes_setClose, if_pos rfl] at hidle
      cases hidle
    | closeSlot _ i connected pc _ _ hpc =>
      rw [closes_setClose, if_pos rfl] at hidle
      rw [hidle] at hpc
      rcases hpc with hpc | hpc <;> cases hpc

/-! ## What the threads have been told -/

namespace CallbackPc

/-- The IO thread has been told to stop. -/
def ioStopped : CallbackPc → Bool
  | stoppingSend _ | disconnecting _ _ | notifying _ => true
  | _ => false

def sendStopped : CallbackPc → Bool
  | disconnecting _ _ | notifying _ => true
  | _ => false

lemma stored_of_ioStopped {pc : CallbackPc} (h : pc.ioStopped = true) : ∃ b, pc.stored? = some b := by
  cases pc with
  | stoppingSend b | disconnecting _ b | notifying b => exact ⟨b, rfl⟩
  | _ => cases h

lemma ioStopped_of_sendStopped {pc : CallbackPc} (h : pc.sendStopped = true) :
    pc.ioStopped = true := by
  cases pc <;> first | rfl | cases h

end CallbackPc

/-- `close()` in its teardown branch. -/
def ClosePc.tearing : ClosePc → Bool
  | .stoppingSend | .stoppingIo | .disconnecting _ => true
  | _ => false

def OpenPc.ioStarted : OpenPc → Bool
  | .startingSend | .publishing | .returned => true
  | _ => false

def OpenPc.sendStarted : OpenPc → Bool
  | .publishing | .returned => true
  | _ => false

structure Halted (s : Lifecycle) : Prop where
  reported : ∀ k, s.callbacks k = .inCallback → s.notifications ≠ []
  io : (∃ k, (s.callbacks k).ioStopped = true) ∨ s.notifications ≠ [] → s.ioThread ≠ some true
  send : (∃ k, (s.callbacks k).sendStopped = true) ∨ s.notifications ≠ [] →
    s.sendThread ≠ some true
  tearing : ∀ k, (s.closes k).tearing = true → s.closeClaimed = true
  ioThread : s.openPc.ioStarted = true → s.closeClaimed = false → s.ioThread ≠ none
  sendThread : s.openPc.sendStarted = true → s.closeClaimed = false → s.sendThread ≠ none

lemma halted_init (numConns : ℕ) (hasDisconnectCallback : Bool) :
    Halted (init numConns hasDisconnectCallback) :=
  ⟨nofun, fun _ => nofun, fun _ => nofun, nofun, nofun, nofun⟩

lemma notified_step (h : s.notifications ≠ []) (e : Event) : (step s e).notifications ≠ [] := by
  rcases step_cases s e with hstep | hstep
  · rw [hstep]
    exact h
  · generalize step s e = t at hstep
    cases hstep with
    | notify => exact List.cons_ne_nil _ _
    | _ => exact h

lemma ioStopped_step {k : ℕ} (h : ((step s e).callbacks k).ioStopped = true) :
    (s.callbacks k).ioStopped = true ∨ ∃ b, e = .callback k ∧ s.callbacks k = .stoppingIo b := by
  rcases callback_step (P := fun pc => pc.ioStopped = true) nofun h with h | ⟨rfl, hstep⟩
  · exact Or.inl h
  · generalize step s _ = t at *
    cases hstep with
    | stopIo _ b hpc => exact Or.inr ⟨b, rfl, hpc⟩
    | stopSend _ b hpc | disconnectSlot _ _ b _ hpc | unlock _ _ b hpc =>
      rw [hpc]
      exact Or.inl rfl
    | _ =>
      rw [callbacks_setCallback, if_pos rfl] at h
      cases h

lemma sendStopped_step {k : ℕ} (h : ((step s e).callbacks k).sendStopped = true) :
    (s.callbacks k).sendStopped = true
      ∨ ∃ b, e = .callback k ∧ s.callbacks k = .stoppingSend b := by
  rcases callback_step (P := fun pc => pc.sendStopped = true) nofun h with h | ⟨rfl, hstep⟩
  · exact Or.inl h
  · generalize step s _ = t at *
    cases hstep with
    | stopSend _ b hpc => exact Or.inr ⟨b, rfl, hpc⟩
    | disconnectSlot _ _ b _ hpc | unlock _ _ b hpc =>
      rw [hpc]
      exact Or.inl rfl
    | _ =>
      rw [callbacks_setCallback, if_pos rfl] at h
      cases h

/-- A stopped thread is started again by nobody but `open()`. -/
lemma ioThread_step (h : (step s e).ioThread = some true) :
    s.ioThread = some true ∨ s.openPc = .startingIo := by
  rcases step_cases s e with hstep | hstep
  · exact Or.inl (hstep ▸ h)
  · generalize step s e = t at hstep h
    cases hstep with
    | startIo hpc => exact Or.inr hpc
    | stopIo =>
      obtain ⟨_, -, hfalse⟩ := Option.map_eq_some_iff.mp h
      cases hfalse
    | joinIo => cases h
    | _ => exact Or.inl h

lemma sendThread_step (h : (step s e).sendThread = some true) :
    s.sendThread = some true ∨ s.openPc = .startingSend := by
  rcases step_cases s e with hstep | hstep
  · exact Or.inl (hstep ▸ h)
  · generalize step s e = t at hstep h
    cases hstep with
    | startSend hpc => exact Or.inr hpc
    | stopSend =>
      obtain ⟨_, -, hfalse⟩ := Option.map_eq_some_iff.mp h
      cases hfalse
    | joinSend => cases h
    | _ => exact Or.inl h

/-- The call that stops a thread does. -/
lemma ioThread_of_stoppingIo {k : ℕ} {b : Bool} (h : s.callbacks k = .stoppingIo b) :
    (step s (.callback k)).ioThread ≠ some true := by
  simp only [step, callbackStep, h]
  intro hio
  obtain ⟨_, -, hfalse⟩ := Option.map_eq_some_iff.mp hio
  cases hfalse

lemma sendThread_of_stoppingSend {k : ℕ} {b : Bool} (h : s.callbacks k = .stoppingSend b) :
    (step s (.callback k)).sendThread ≠ some true := by
  simp only [step, callbackStep, h]
  intro hsend
  obtain ⟨_, -, hfalse⟩ := Option.map_eq_some_iff.mp hsend
  cases hfalse

/-- A channel with a call that has stopped the IO thread has been opened. -/
lemma Inv.returned_of_ioStopped (hs : Inv s)
    (h : (∃ k, (s.callbacks k).ioStopped = true) ∨ s.notifications ≠ []) :
    s.openPc = .returned := by
  refine (hs.settled (h.imp_left fun ⟨k, hk⟩ => ?_)).returned
  obtain ⟨b, hb⟩ := CallbackPc.stored_of_ioStopped hk
  exact ⟨k, b, hb⟩

/-- A call that has told a thread to stop, or a notification, was there before, unless the step
tells the thread. -/
lemma stopped_step {stopped : CallbackPc → Bool} {stopping : Bool → CallbackPc}
    (hcall : ∀ k, stopped ((step s e).callbacks k) = true →
      stopped (s.callbacks k) = true ∨ ∃ b, e = .callback k ∧ s.callbacks k = stopping b)
    (hnotifying : stopped (.notifying true) = true)
    (h : (∃ k, stopped ((step s e).callbacks k) = true) ∨ (step s e).notifications ≠ []) :
    ((∃ k, stopped (s.callbacks k) = true) ∨ s.notifications ≠ [])
      ∨ ∃ k b, e = .callback k ∧ s.callbacks k = stopping b := by
  rcases h with ⟨k, hk⟩ | hne
  · rcases hcall k hk with hk | ⟨b, hk⟩
    · exact Or.inl (Or.inl ⟨k, hk⟩)
    · exact Or.inr ⟨k, b, hk⟩
  · obtain ⟨k, hmem⟩ := List.exists_mem_of_ne_nil _ hne
    rcases notifications_step hmem with hmem | ⟨-, hpc⟩
    · exact Or.inl (Or.inr (List.ne_nil_of_mem hmem))
    · refine Or.inl (Or.inl ⟨k, ?_⟩)
      rw [hpc]
      exact hnotifying

lemma halted_io_step (hs : Halted s) (hinv : Inv s)
    (h : (∃ k, ((step s e).callbacks k).ioStopped = true) ∨ (step s e).notifications ≠ []) :
    (step s e).ioThread ≠ some true := by
  rcases stopped_step (fun _ => ioStopped_step) rfl h with hstop | ⟨k, b, rfl, hpc⟩
  · intro hio
    rcases ioThread_step hio with hio | hpc
    · exact hs.io hstop hio
    · rw [hinv.returned_of_ioStopped hstop] at hpc
      cases hpc
  · exact ioThread_of_stoppingIo hpc

lemma halted_send_step (hs : Halted s) (hinv : Inv s)
    (h : (∃ k, ((step s e).callbacks k).sendStopped = true) ∨ (step s e).notifications ≠ []) :
    (step s e).sendThread ≠ some true := by
  rcases stopped_step (fun _ => sendStopped_step) rfl h with hstop | ⟨k, b, rfl, hpc⟩
  · intro hsend
    rcases sendThread_step hsend with hsend | hpc
    · exact hs.send hstop hsend
    · rw [hinv.returned_of_ioStopped
        (hstop.imp_left fun ⟨k, hk⟩ => ⟨k, CallbackPc.ioStopped_of_sendStopped hk⟩)] at hpc
      cases hpc
  · exact sendThread_of_stoppingSend hpc

lemma reported_step (hs : Halted s) {k : ℕ} (h : (step s e).callbacks k = .inCallback) :
    (step s e).notifications ≠ [] := by
  rcases inCallback_step h with hpc | ⟨rfl, hpc⟩
  · exact notified_step (hs.reported k hpc) e
  · simp only [step, callbackStep, hpc] at h ⊢
    split_ifs at h ⊢
    · exact List.cons_ne_nil _ _
    · rw [callbacks_setCallback, if_pos rfl] at h
      cases h

/-- The teardown is a claim. -/
lemma tearing_step (hs : Halted s) {k : ℕ} (h : ((step s e).closes k).tearing = true) :
    (step s e).closeClaimed = true := by
  have hclaimed : s.closeClaimed = true → (step s e).closeClaimed = true := fun h => by
    rcases closeClaimed_step s e with hsame | ⟨-, htrue, -⟩
    · exact hsame.trans h
    · exact htrue
  rcases step_cases s e with hstep | hstep
  · exact hclaimed (hs.tearing k (hstep ▸ h))
  · generalize step s e = t at *
    cases hstep with
    | callClose k' =>
      rw [closes_setClose] at h
      split_ifs at h
      · cases h
      · exact hclaimed (hs.tearing k h)
    | exchange k' =>
      rw [closes_setClose] at h
      split_ifs at h with heq hopen
      · show (s.closeClaimed || s.opened) = true
        rw [hopen, Bool.or_true]
      · cases h
      · exact hclaimed (hs.tearing k h)
    | joinSend k' hpc | joinIo k' hpc | closeSlot k' _ _ _ hpc =>
      rw [closes_setClose] at h
      split_ifs at h with heq
      · exact hclaimed (hs.tearing k' (by rw [hpc]; rfl))
      · exact hclaimed (hs.tearing k h)
    | stopReorder k' =>
      rw [closes_setClose] at h
      split_ifs at h
      · cases h
      · exact hclaimed (hs.tearing k h)
    | _ => exact hclaimed (hs.tearing k h)

/-- A thread that was started stays until a teardown joins it. -/
lemma started_step (hs : Halted s) (e : Event) (hclose : (step s e).closeClaimed = false) :
    ((step s e).openPc.ioStarted = true → (step s e).ioThread ≠ none)
      ∧ ((step s e).openPc.sendStarted = true → (step s e).sendThread ≠ none) := by
  have hbefore : s.closeClaimed = false := by
    rcases closeClaimed_step s e with hsame | ⟨-, htrue, -⟩
    · exact hsame.symm.trans hclose
    · rw [htrue] at hclose
      cases hclose
  have htearing : ∀ k, (s.closes k).tearing ≠ true := fun k hk => by
    have := hs.tearing k hk
    rw [hbefore] at this
    cases this
  have hio : s.openPc.ioStarted = true → s.ioThread ≠ none := fun h => hs.ioThread h hbefore
  have hsend : s.openPc.sendStarted = true → s.sendThread ≠ none :=
    fun h => hs.sendThread h hbefore
  rcases step_cases s e with hstep | hstep
  · rw [hstep]
    exact ⟨hio, hsend⟩
  · generalize step s e = t at *
    cases hstep with
    | startReorder => exact ⟨nofun, nofun⟩
    | startIo => exact ⟨fun _ => Option.some_ne_none _, nofun⟩
    | startSend hpc =>
      exact ⟨fun _ => hio (by rw [hpc]; rfl), fun _ => Option.some_ne_none _⟩
    | publish hpc =>
      exact ⟨fun _ => hio (by rw [hpc]; rfl), fun _ => hsend (by rw [hpc]; rfl)⟩
    | stopIo => exact ⟨fun h hnone => hio h (Option.map_eq_none_iff.mp hnone), hsend⟩
    | stopSend => exact ⟨hio, fun h hnone => hsend h (Option.map_eq_none_iff.mp hnone)⟩
    | joinSend k hpc | joinIo k hpc => exact absurd (by rw [hpc]; rfl) (htearing k)
    | _ => exact ⟨hio, hsend⟩

lemma halted_step (hs : Halted s) (hinv : Inv s) (e : Event) : Halted (step s e) where
  reported _ h := reported_step hs h
  io h := halted_io_step hs hinv h
  send h := halted_send_step hs hinv h
  tearing _ h := tearing_step hs h
  ioThread h hclose := (started_step hs e hclose).1 h
  sendThread h hclose := (started_step hs e hclose).2 h

end Lifecycle
end TcpUdp
