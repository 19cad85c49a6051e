import TcpUdp.LifecycleTheorems

/-!
# Outages and deliberate closes

What the owner of a channel is told. The VC-level callback is invoked at most once and only
for a total outage (`notified_once_for_outage`). An outage goes unnoticed in exactly one way:
all connections are dead and reported before `open()` says that the channel is open
(`noMissedOutage_iff`). A deliberate close is reported as an outage when its exchange falls
between a decision and its store (`close_reported_as_outage`).
-/

namespace TcpUdp
namespace Lifecycle

open Lib

variable {s : Lifecycle}

/-! ## An outage is not missed -/

/-- A call that has not looked at a living connection, and will look at all of them. -/
def Reporting : CallbackPc → Prop
  | .locking | .checking | .counting _ 0 | .storing => True
  | _ => False

/-- A call that has not looked at `opened`, or has seen that it is false. -/
def Early : CallbackPc → Prop
  | .idle | .locking | .checking => True
  | _ => False

def NoMissedOutage (s : Lifecycle) : Prop :=
  s.openPc = .returned → s.closeCalled = false → ¬ s.Alive → (∀ k, s.callbacks k = .idle) →
    s.opened = false ∧ (s.hasDisconnectCallback = true → s.notifications ≠ [])

/-- The condition on a step. When `open()` sets `opened`, some connection is alive, or some
`disconnectCB` has not looked at `opened` yet. -/
def PublishesInTime (s : Lifecycle) (e : Event) : Prop :=
  e = .opening → s.openPc = .publishing → s.closeCalled = false →
    s.Alive ∨ ∃ k, s.callbacks k = .locking ∨ s.callbacks k = .checking

/-- An open channel without a living connection has a report on its way, and a channel that
was taken down has told its owner or is about to. -/
structure Watched (s : Lifecycle) : Prop where
  reported : s.openPc = .returned → s.closeCalled = false → s.opened = true →
    s.Alive ∨ ∃ k, Reporting (s.callbacks k)
  told : s.openPc = .returned → s.closeCalled = false → s.opened = false →
    s.hasDisconnectCallback = true →
      s.notifications ≠ [] ∨ ∃ k, (s.callbacks k).stored? = some true
  early : s.openPc ≠ .returned → s.opened = false ∧ ∀ k, Early (s.callbacks k)

lemma Watched.noMissedOutage (hs : Watched s) : s.NoMissedOutage := by
  intro hret hclose hdead hidle
  have hopened : s.opened = false := by
    rw [Bool.eq_false_iff]
    intro hopen
    rcases hs.reported hret hclose hopen with halive | ⟨k, hk⟩
    · exact hdead halive
    · rw [hidle k] at hk
      exact hk
  refine ⟨hopened, fun hcb => ?_⟩
  rcases hs.told hret hclose hopened hcb with hnotif | ⟨k, hk⟩
  · exact hnotif
  · rw [hidle k] at hk
    cases hk

lemma watched_init (numConns : ℕ) (hasDisconnectCallback : Bool) :
    Watched (init numConns hasDisconnectCallback) :=
  ⟨nofun, nofun, fun _ => ⟨rfl, fun _ => trivial⟩⟩

/-- A call moves on, `opened` stays as it is, and a report is not lost. -/
lemma Watched.setCallback (hs : Watched s) (m : Option ℕ) {k : ℕ} {pc : CallbackPc}
    (hreport : s.opened = true → Reporting (s.callbacks k) → s.Alive ∨ Reporting pc)
    (hstored : s.hasDisconnectCallback = true → (s.callbacks k).stored? ≠ some true)
    (hearly : s.opened = false → Early (s.callbacks k) → Early pc) :
    Watched ((s.setMutex m).setCallback k pc) where
  reported hret hclose hopen := by
    rcases hs.reported hret hclose hopen with halive | ⟨k', hk'⟩
    · exact Or.inl halive
    · by_cases heq : k' = k
      · refine (hreport hopen (heq ▸ hk')).imp_right fun h => ⟨k, ?_⟩
        rw [callbacks_setCallback, if_pos rfl]
        exact h
      · refine Or.inr ⟨k', ?_⟩
        rw [callbacks_setCallback, if_neg heq]
        exact hk'
  told hret hclose hopen hflag := by
    rcases hs.told hret hclose hopen hflag with hnotif | ⟨k', hk'⟩
    · exact Or.inl hnotif
    · have hne : k' ≠ k := fun heq => hstored hflag (heq ▸ hk')
      refine Or.inr ⟨k', ?_⟩
      rw [callbacks_setCallback, if_neg hne]
      exact hk'
  early hret := by
    obtain ⟨hopen, hall⟩ := hs.early hret
    refine ⟨hopen, fun k' => ?_⟩
    rw [callbacks_setCallback]
    split_ifs
    · exact hearly hopen (hall k)
    · exact hall k'

/-- The channel is taken down; the owner is told, or will be by this call. -/
lemma watched_of_takenDown {t : Lifecycle} {k : ℕ} {pc : CallbackPc}
    (hdown : t.opened = false ∧ t.openPc = .returned)
    (htold : t.hasDisconnectCallback = true → t.notifications ≠ [] ∨ pc.stored? = some true) :
    Watched (t.setCallback k pc) where
  reported _ _ hopen := by
    have hclosed := hdown.1
    rw [show t.opened = true from hopen] at hclosed
    cases hclosed
  told _ _ _ hflag := by
    refine (htold hflag).imp_right fun h => ⟨k, ?_⟩
    rw [callbacks_setCallback, if_pos rfl]
    exact h
  early hret := absurd hdown.2 hret

/-- A call that has taken the channel down goes on to its report. -/
lemma watched_of_stored (hinv : Inv s) {k : ℕ} {b : Bool} {pc : CallbackPc}
    (hstored : (s.callbacks k).stored? = some b) (hpc : pc.stored? = some b) {t : Lifecycle}
    (hopened : t.opened = s.opened) (hopenPc : t.openPc = s.openPc)
    (hhas : t.hasDisconnectCallback = s.hasDisconnectCallback) : Watched (t.setCallback k pc) := by
  obtain ⟨hclosed, hret⟩ := hinv.claims.spent (Or.inl ⟨k, b, hstored⟩)
  refine watched_of_takenDown ⟨hopened.trans hclosed, hopenPc.trans hret⟩ fun hflag => Or.inr ?_
  rw [hhas] at hflag
  rw [hpc, hinv.claims.flag k b hstored, hflag]

/-- Nothing is said about a channel that its owner closes. -/
lemma watched_of_closeCalled (h : s.closeCalled = true)
    (hearly : s.openPc ≠ .returned → s.opened = false ∧ ∀ k, Early (s.callbacks k)) :
    Watched s where
  reported _ hclose := by rw [h] at hclose; cases hclose
  told _ hclose := by rw [h] at hclose; cases hclose
  early := hearly

lemma Watched.die (hs : Watched s) {k : ℕ} (hidle : s.callbacks k = .idle) (c : ConnId) :
    Watched ((s.disconnect c).setCallback k .locking) where
  reported _ _ _ := by
    refine Or.inr ⟨k, ?_⟩
    rw [callbacks_setCallback, if_pos rfl]
    trivial
  told hret hclose hopen hflag := by
    refine (hs.told hret hclose hopen hflag).imp_right fun ⟨k', hk'⟩ => ⟨k', ?_⟩
    have hne : k' ≠ k := fun heq => by
      rw [heq, hidle] at hk'
      cases hk'
    rw [callbacks_setCallback, if_neg hne]
    exact hk'
  early hret := by
    refine ⟨(hs.early hret).1, fun k' => ?_⟩
    rw [callbacks_setCallback]
    split_ifs
    · trivial
    · exact (hs.early hret).2 k'

/-- A step before `open()` returns. -/
lemma Watched.opening (hs : Watched s) {t : Lifecycle} (hpc : s.openPc ≠ .returned)
    (hret : t.openPc ≠ .returned) (hopened : t.opened = s.opened)
    (hcallbacks : t.callbacks = s.callbacks) : Watched t where
  reported h := absurd h hret
  told h := absurd h hret
  early _ := by
    rw [hopened, hcallbacks]
    exact hs.early hpc

lemma watched_step (hs : Watched s) (hinv : Inv s) (e : Event) (h : s.PublishesInTime e) :
    Watched (step s e) := by
  rcases step_cases s e with hstep | hstep
  · rw [hstep]
    exact hs
  · generalize step s e = t at hstep
    cases hstep with
    | startReorder hpc | startIo hpc | startSend hpc =>
      exact hs.opening (by rw [hpc]; simp) (by simp) rfl rfl
    | publish hpc =>
      refine ⟨fun _ hclose _ => ?_, nofun, fun h => absurd rfl h⟩
      rcases h rfl hpc hclose with halive | ⟨k, hk⟩
      · exact Or.inl halive
      · refine Or.inr ⟨k, ?_⟩
        show Reporting (s.callbacks k)
        rcases hk with hk | hk <;> (rw [hk]; trivial)
    | die k c hidle => exact hs.die hidle c
    | lock k hpc =>
      refine hs.setCallback (some k) (fun _ _ => Or.inr ?_) (by rw [hpc]; nofun) fun _ _ => ?_
      · show Reporting .checking
        trivial
      · show Early .checking
        trivial
    | leave k hpc =>
      rcases hpc with ⟨hpc, hclosed⟩ | ⟨i, aliveCount, hpc, hpos⟩
      · refine hs.setCallback none (fun hopen _ => ?_) (by rw [hpc]; nofun) fun _ _ => trivial
        rw [hclosed] at hopen
        cases hopen
      · refine hs.setCallback none (fun _ hreport => ?_) (by rw [hpc]; nofun) fun _ _ => trivial
        rw [hpc] at hreport
        obtain ⟨a, rfl⟩ := Nat.exists_eq_succ_of_ne_zero (Nat.ne_of_gt hpos)
        exact hreport.elim
    | enter k hpc hopen =>
      refine hs.setCallback s.disconnectMutex (fun _ _ => Or.inr ?_) (by rw [hpc]; nofun)
        fun hclosed => ?_
      · show Reporting (.counting 0 0)
        trivial
      · rw [hopen] at hclosed
        cases hclosed
    | count k i aliveCount c hpc hc =>
      refine hs.setCallback s.disconnectMutex (fun _ hreport => ?_) (by rw [hpc]; nofun)
        (by rw [hpc]; exact fun _ h => h.elim)
      rw [hpc] at hreport
      by_cases hconn : s.connected c = true
      · exact Or.inl ⟨c, List.mem_of_getElem? hc, hconn⟩
      · rw [if_neg hconn]
        right
        cases aliveCount with
        | zero => trivial
        | succ a => exact hreport.elim
    | decide k i hpc =>
      refine hs.setCallback s.disconnectMutex (fun _ _ => Or.inr ?_) (by rw [hpc]; nofun)
        (by rw [hpc]; exact fun _ h => h.elim)
      show Reporting .storing
      trivial
    | store k hpc =>
      have hret := (hinv.claims.deciding k (by rw [hpc]; rfl)).1
      exact watched_of_takenDown (t := { s with opened := false }) ⟨rfl, hret⟩ fun hflag =>
        Or.inr (congrArg some hflag)
    | stopIo k b hpc =>
      exact watched_of_stored hinv (t := s.stopIo) (by rw [hpc]; rfl) rfl rfl rfl rfl
    | stopSend k b hpc =>
      exact watched_of_stored hinv (t := s.stopSend) (by rw [hpc]; rfl) rfl rfl rfl rfl
    | disconnectSlot k i b connected hpc =>
      exact watched_of_stored hinv (t := { s with connected := connected }) (by rw [hpc]; rfl) rfl
        rfl rfl rfl
    | unlock k i b hpc =>
      exact watched_of_stored hinv (t := s.setMutex none) (by rw [hpc]; rfl) rfl rfl rfl rfl
    | notify k hpc =>
      have hclosed := hinv.claims.spent (Or.inl ⟨k, true, by rw [hpc]; rfl⟩)
      exact watched_of_takenDown (t := { s with notifications := k :: s.notifications }) hclosed
        fun _ => Or.inl (List.cons_ne_nil _ _)
    | finish k hpc =>
      rcases hpc with hpc | ⟨b, hpc, hb⟩
      · refine hs.setCallback s.disconnectMutex (fun _ hreport => ?_) (by rw [hpc]; nofun)
          fun _ _ => trivial
        rw [hpc] at hreport
        exact hreport.elim
      · refine hs.setCallback s.disconnectMutex (fun _ hreport => ?_) (fun hflag hstored => ?_)
          fun _ _ => trivial
        · rw [hpc] at hreport
          exact hreport.elim
        · rw [hpc] at hstored
          cases hstored
          rw [hflag] at hb
          cases hb
    | replace slotIndex _ hslot =>
      refine ⟨fun _ _ _ => Or.inl ⟨s.nextConn, ?_, Function.update_self ..⟩, hs.told, hs.early⟩
      exact List.mem_set hslot _
    | callClose => exact watched_of_closeCalled rfl hs.early
    | exchange k hpc =>
      exact watched_of_closeCalled (hinv.closing k (by rw [hpc]; simp)) fun hret =>
        ⟨rfl, (hs.early hret).2⟩
    | joinSend k hpc | joinIo k hpc | closeSlot k _ _ _ hpc | stopReorder k hpc =>
      exact watched_of_closeCalled (hinv.closing k (by rw [hpc]; simp)) hs.early

/-- An outage is missed in exactly one way: when `open()` sets `opened`, every connection is
dead and every report of it has already found the channel not open. -/
theorem noMissedOutage_iff (numConns : ℕ) (hasDisconnectCallback : Bool) (events : ℕ → Event) :
    (∀ n, (stateAt numConns hasDisconnectCallback events n).NoMissedOutage)
      ↔ ∀ n, (stateAt numConns hasDisconnectCallback events n).PublishesInTime (events n) := by
  have hwatched : ∀ n, (∀ m < n, (stateAt numConns hasDisconnectCallback events m).PublishesInTime
      (events m)) → Watched (stateAt numConns hasDisconnectCallback events n) := by
    intro n hsteps
    refine (runState_invariant_of_steps (P := fun s => Inv s ∧ Watched s)
      ⟨inv_init _ _, watched_init _ _⟩ (fun s e hstep hs => ?_) hsteps).2
    exact ⟨inv_step hs.1 e, watched_step hs.2 hs.1 e hstep⟩
  refine ⟨fun h n => ?_, fun h n => (hwatched n fun m _ => h m).noMissedOutage⟩
  induction n using Nat.strong_induction_on with
  | _ n ih =>
    intro hevent hpc hclose
    by_contra hcond
    rw [not_or, not_exists] at hcond
    obtain ⟨hdead, hlate⟩ := hcond
    have hearly := ((hwatched n ih).early (by rw [hpc]; simp)).2
    have hnext := h (n + 1)
    rw [stateAt, runState, ← stateAt, hevent] at hnext
    generalize stateAt numConns hasDisconnectCallback events n = s at *
    -- before `open()` returns, a call is idle or has not looked at `opened`
    have hidle : ∀ k, s.callbacks k = .idle := by
      intro k
      have hk := hearly k
      have hk' := hlate k
      generalize s.callbacks k = pc at *
      cases pc with
      | idle => rfl
      | locking => exact absurd (Or.inl rfl) hk'
      | checking => exact absurd (Or.inr rfl) hk'
      | _ => exact hk.elim
    simp only [step, openStep, hpc] at hnext
    exact absurd (hnext rfl hclose hdead hidle).1 (by simp)

def script (events : List Event) (n : ℕ) : Event := events.getD n (.callback 0)

/-- The only connection dies, and `disconnectCB` runs, while `open()` starts the threads. -/
def deathBeforeOpened : ℕ → Event :=
  script [.opening, .opening, .death 0 0, .callback 0, .callback 0, .opening, .opening]

theorem misses_outage :
    ¬ ∀ (numConns : ℕ) (hasDisconnectCallback : Bool) (events : ℕ → Event) (n : ℕ),
      (stateAt numConns hasDisconnectCallback events n).NoMissedOutage := by
  intro h
  have hidle : (stateAt 1 true deathBeforeOpened 7).callbacks = fun _ => .idle := by
    show Function.update (Function.update (Function.update (fun _ => CallbackPc.idle) 0
      CallbackPc.locking) 0 CallbackPc.checking) 0 CallbackPc.idle = _
    rw [Function.update_idem, Function.update_idem]
    exact Function.update_eq_self 0 _
  exact absurd (h 1 true deathBeforeOpened 7 rfl rfl (by decide) fun k => congrFun hidle k).1
    (by decide)

/-! ## At most one report, and only of an outage -/

/-- The call decides, has decided or has reported. -/
def Committed (s : Lifecycle) (k : ℕ) : Prop :=
  s.callbacks k = .storing ∨ (∃ b, (s.callbacks k).stored? = some b) ∨ k ∈ s.notifications

lemma committed_step {e : Event} {k : ℕ} (h : (step s e).Committed k) :
    s.Committed k ∨ s.Decides e k := by
  rcases h with h | ⟨b, h⟩ | h
  · exact (storing_step h).imp_left Or.inl
  · rcases stored_step h with h | ⟨-, h⟩
    · exact Or.inl (Or.inr (Or.inl ⟨b, h⟩))
    · exact Or.inl (Or.inl h)
  · rcases notifications_step h with h | ⟨-, h⟩
    · exact Or.inl (Or.inr (Or.inr h))
    · refine Or.inl (Or.inr (Or.inl ⟨true, ?_⟩))
      rw [h]
      rfl

/-- A call that decides holds the mutex, and nothing is alive. -/
lemma Inv.of_decides (hs : Inv s) {e : Event} {k : ℕ} (h : s.Decides e k) :
    s.disconnectMutex = some k ∧ ¬ s.Alive := by
  obtain ⟨-, i, hpc, hend⟩ := h
  refine ⟨hs.guarded k ?_, not_alive_of_deadBelow hend (hs.counted.counting k i hpc)⟩
  rw [hpc]
  rfl

lemma exists_decides (numConns : ℕ) (hasDisconnectCallback : Bool) (events : ℕ → Event) (k : ℕ)
    (n : ℕ) (h : (stateAt numConns hasDisconnectCallback events n).Committed k) :
    ∃ m < n, (stateAt numConns hasDisconnectCallback events m).Decides (events m) k := by
  induction n with
  | zero =>
    rcases h with h | ⟨b, h⟩ | h
    · cases h
    · cases h
    · cases h
  | succ n ih =>
    rcases committed_step h with h | h
    · obtain ⟨m, hm, hdecides⟩ := ih h
      exact ⟨m, Nat.lt_succ_of_lt hm, hdecides⟩
    · exact ⟨n, Nat.lt_succ_self n, h⟩

/-- A channel with a living connection stays open until somebody closes it. -/
lemma opened_of_alive (numConns : ℕ) (hasDisconnectCallback : Bool) (events : ℕ → Event) (n : ℕ)
    (halive : ∀ m ≤ n, (stateAt numConns hasDisconnectCallback events m).openPc = .returned →
      (stateAt numConns hasDisconnectCallback events m).Alive
        ∧ (stateAt numConns hasDisconnectCallback events m).closeCalled = false)
    (hret : (stateAt numConns hasDisconnectCallback events n).openPc = .returned) :
    (stateAt numConns hasDisconnectCallback events n).opened = true := by
  induction n with
  | zero => cases hret
  | succ n ih =>
    have hinv := inv_stateAt numConns hasDisconnectCallback events n
    have hn := halive n (Nat.le_succ n)
    have ih := ih fun m hm => halive m (Nat.le_succ_of_le hm)
    rw [stateAt, runState, ← stateAt] at hret ⊢
    generalize stateAt numConns hasDisconnectCallback events n = s at *
    by_cases hpc : s.openPc = .returned
    · obtain ⟨halive, hcalled⟩ := hn hpc
      rcases opened_step (ih hpc) (events n) with h | ⟨k, -, h⟩ | ⟨⟨k, -, h⟩, -⟩
      · exact h
      · exact absurd halive (hinv.counted.storing k h)
      · have hclosing := hinv.closing k (by rw [h]; simp)
        rw [hcalled] at hclosing
        cases hclosing
    · exact opened_of_returned hpc hret

/-- The owner is told at most once, and only when a count under the mutex found nothing
alive; and with a living connection all the time the channel stays open. -/
theorem notified_once_for_outage (numConns : ℕ) (hasDisconnectCallback : Bool)
    (events : ℕ → Event) :
    (∀ n, (stateAt numConns hasDisconnectCallback events n).notifications.length ≤ 1)
    ∧ (∀ n, ∀ k ∈ (stateAt numConns hasDisconnectCallback events n).notifications, ∃ m < n,
      (stateAt numConns hasDisconnectCallback events m).Decides (events m) k
      ∧ (stateAt numConns hasDisconnectCallback events m).disconnectMutex = some k
      ∧ ¬ (stateAt numConns hasDisconnectCallback events m).Alive)
    ∧ ∀ n, (∀ m ≤ n, (stateAt numConns hasDisconnectCallback events m).openPc = .returned →
        (stateAt numConns hasDisconnectCallback events m).Alive
          ∧ (stateAt numConns hasDisconnectCallback events m).closeCalled = false) →
      (stateAt numConns hasDisconnectCallback events n).openPc = .returned →
      (stateAt numConns hasDisconnectCallback events n).opened = true := by
  refine ⟨fun n => ?_, fun n k hk => ?_, opened_of_alive numConns hasDisconnectCallback events⟩
  · exact (inv_stateAt numConns hasDisconnectCallback events n).claims.notified.1
  · obtain ⟨m, hm, hdecides⟩ := exists_decides _ _ _ _ _ (Or.inr (Or.inr hk))
    have hinv := inv_stateAt numConns hasDisconnectCallback events m
    exact ⟨m, hm, hdecides, hinv.of_decides hdecides⟩

/-! ## One claim -/

/-- Some `disconnectCB` has taken the channel down. -/
def CallbackClaimed (s : Lifecycle) : Prop :=
  (∃ k b, (s.callbacks k).stored? = some b) ∨ s.notifications ≠ []

/-- A channel that `close()` took down was not taken down by a `disconnectCB`, and its owner
has heard nothing. -/
def OneClaim (s : Lifecycle) : Prop := s.closeClaimed = true → ¬ s.CallbackClaimed

/-- The condition on a step. A `disconnectCB` that stores `false` finds `opened` still true,
as it was when it looked. -/
def StoresOpened (s : Lifecycle) : Event → Prop
  | .callback k => s.callbacks k = .storing → s.opened = true
  | _ => True

instance (s : Lifecycle) : (e : Event) → Decidable (s.StoresOpened e)
  | .callback k => inferInstanceAs (Decidable (s.callbacks k = .storing → s.opened = true))
  | .opening | .death _ _ | .replaceConnection _ | .callClose _ | .close _ => .isTrue trivial

/-- While a call decides, only `close()` can close. -/
def Contended (s : Lifecycle) : Prop :=
  ∀ k, (s.callbacks k).deciding = true → s.opened = true ∨ s.closeClaimed = true

lemma callbackClaimed_step {e : Event} (h : (step s e).CallbackClaimed) :
    s.CallbackClaimed ∨ ∃ k, e = .callback k ∧ s.callbacks k = .storing := by
  rcases h with ⟨k, b, h⟩ | h
  · rcases stored_step h with h | h
    · exact Or.inl (Or.inl ⟨k, b, h⟩)
    · exact Or.inr ⟨k, h⟩
  · obtain ⟨k, hk⟩ := List.exists_mem_of_ne_nil _ h
    left
    rcases notifications_step hk with hk | ⟨-, hk⟩
    · exact Or.inr (List.ne_nil_of_mem hk)
    · refine Or.inl ⟨k, true, ?_⟩
      rw [hk]
      rfl

lemma oneClaim_step (hs : OneClaim s) (hinv : Inv s) {e : Event} (h : s.StoresOpened e) :
    OneClaim (step s e) := by
  intro hclosed hclaimed
  rcases callbackClaimed_step hclaimed with hclaimed | ⟨k, rfl, hpc⟩
  · rcases closeClaimed_step s e with hsame | ⟨hopen, -⟩
    · exact hs (hsame ▸ hclosed) hclaimed
    · obtain ⟨hnone, hnotif, -⟩ := hinv.claims.not_stored hopen
      rcases hclaimed with ⟨k, b, hk⟩ | hne
      · rw [hnone k] at hk
        cases hk
      · exact hne hnotif
  · rcases closeClaimed_step s (.callback k) with hsame | ⟨-, -, k', heq⟩
    · rw [hsame, (hinv.claims.not_stored (h hpc)).2.2] at hclosed
      cases hclosed
    · cases heq

lemma contended_step (hs : Contended s) (hguard : Guarded s) (e : Event) :
    Contended (step s e) := by
  intro k hk
  have hbefore : s.opened = true ∨ s.closeClaimed = true := by
    rcases deciding_step hk with hk | hopen
    · exact hs k hk
    · exact Or.inl hopen
  rcases closeClaimed_step s e with hsame | ⟨-, hclosed, -⟩
  · rcases hbefore with hopen | hclosed
    · exact (opened_of_deciding hguard hopen hk).imp_right And.right
    · exact Or.inr (hsame.trans hclosed)
  · exact Or.inr hclosed

lemma contended_stateAt (numConns : ℕ) (hasDisconnectCallback : Bool) (events : ℕ → Event)
    (n : ℕ) : Contended (stateAt numConns hasDisconnectCallback events n) := by
  refine (runState_invariant (P := fun s => Inv s ∧ Contended s) (Q := fun _ => True)
    ⟨inv_init _ _, fun _ h => by cases h⟩ (fun s e _ hs => ?_) (fun _ => trivial) n).2
  exact ⟨inv_step hs.1 e, contended_step hs.2 hs.1.guarded e⟩

/-- The owner hears of no outage after a deliberate close, and nobody else takes the channel
down, exactly as long as every `disconnectCB` that stores `false` finds `opened` true. -/
theorem oneClaim_iff (numConns : ℕ) (hasDisconnectCallback : Bool) (events : ℕ → Event) :
    (∀ n, (stateAt numConns hasDisconnectCallback events n).OneClaim)
      ↔ ∀ n, (stateAt numConns hasDisconnectCallback events n).StoresOpened (events n) := by
  refine ⟨fun h n => ?_, fun h n => ?_⟩
  · have hinv := inv_stateAt numConns hasDisconnectCallback events n
    have hcontended := contended_stateAt numConns hasDisconnectCallback events n
    have hnext := h (n + 1)
    rw [stateAt, runState, ← stateAt] at hnext
    generalize stateAt numConns hasDisconnectCallback events n = s at *
    generalize events n = e at *
    cases e with
    | callback k =>
      intro hpc
      rcases hcontended k (by rw [hpc]; rfl) with hopen | hclosed
      · exact hopen
      · -- the store is a second claim
        simp only [step, callbackStep, hpc] at hnext
        refine absurd (Or.inl ⟨k, s.hasDisconnectCallback, ?_⟩) (hnext hclosed)
        rw [callbacks_setCallback, if_pos rfl]
        rfl
    | _ => trivial
  · refine (runState_invariant_of_steps (P := fun s => Inv s ∧ OneClaim s)
      ⟨inv_init _ _, fun h => Bool.noConfusion h⟩ (fun s e hstep hs => ?_) fun m _ => h m).2
    exact ⟨inv_step hs.1 e, oneClaim_step hs.2 hs.1 hstep⟩

/-- The owner closes the channel after a `disconnectCB` has counted, and before it stores. -/
def closeBeforeStore : ℕ → Event :=
  script (List.replicate 4 .opening ++ [.death 0 0] ++ List.replicate 4 (.callback 0)
    ++ [.callClose 0, .close 0])

theorem close_reported_as_outage :
    ¬ ∀ (numConns : ℕ) (hasDisconnectCallback : Bool) (events : ℕ → Event) (n : ℕ),
      (stateAt numConns hasDisconnectCallback events n).closeClaimed = true →
      (stateAt numConns hasDisconnectCallback events n).notifications = [] := by
  intro h
  exact absurd (h 1 true closeBeforeStore 17 (by decide)) (by decide)

end Lifecycle
end TcpUdp
