import TcpUdp.ClientTheorems

/-!
# When `TeardownVc` leaves nothing open

`TeardownVc` closes the sockets itself when there is no channel, and trusts `vc->close()`
when there is one. That is right as long as a channel which is not open any more has no
connected connection. A reconnected slot breaks it: `ReconnectSingleSlot` looks at `isOpen()`
under `vcMutex`, which `disconnectCB` does not take, so the channel can be given up before
the new connection is put in. `splicesIntoOpen` excludes just that.
-/

namespace TcpUdp

open Lib

namespace Client

variable {s : Client}

/-- No connection of the channel is connected, not even one that was replaced. -/
def Spent (life : Lifecycle) : Prop := ∀ c < life.nextConn, life.connected c = false

lemma live_of_spent {ch : Channel} (h : Spent ch.life) : ch.live = [] := by
  rw [Channel.live, List.map_eq_nil_iff, List.filter_eq_nil_iff]
  intro c hc
  rw [h c (List.mem_range.mp hc)]
  exact Bool.false_ne_true

lemma Spent.dying {s t : Lifecycle} (h : Spent s) (hnext : t.nextConn = s.nextConn)
    (hdying : s.Dying t) : Spent t := by
  intro c hc
  rw [Bool.eq_false_iff]
  intro hconn
  have hdead := h c (hnext ▸ hc)
  rw [hdying.2 c hconn] at hdead
  cases hdead

/-- The slot holds no connected connection. -/
def DeadSlot (life : Lifecycle) (slotIndex : ℕ) : Prop :=
  ∀ c, life.connections[slotIndex]? = some c → life.connected c = false

lemma DeadSlot.dying {s t : Lifecycle} {slotIndex : ℕ} (h : DeadSlot s slotIndex)
    (hdying : s.Dying t) : DeadSlot t slotIndex := by
  intro c hc
  rw [hdying.1] at hc
  have hdead := h c hc
  rw [Bool.eq_false_iff] at hdead ⊢
  exact fun hconn => hdead (hdying.2 c hconn)

/-- `open()` has returned, and nobody is inside `close()`. -/
def AtRest (life : Lifecycle) : Prop := life.openPc = .returned ∧ life.closes 0 = .idle

/-- `close()` has been called. -/
def BeingClosed (life : Lifecycle) : Prop :=
  life.openPc = .returned ∧ (life.closes 0 = .idle → life.opened = false)

/-- What is known of the client's channel before an action. -/
def Current (life : Lifecycle) : OperationPc → Prop
  | .openVc _ _ => life.closes 0 = .idle
  | .teardownClosing _ _ | .stopClosing _ | .reconnectClosing _ _ _ => BeingClosed life
  | .slotCreate slotIndex _ | .slotConnect slotIndex _ _ | .slotCheck slotIndex _ _
  | .slotBind slotIndex _ _ _ | .slotOpenCheck slotIndex _ _ _ | .slotReplace _ slotIndex _ =>
    AtRest life ∧ DeadSlot life slotIndex
  | _ => AtRest life

structure Known (life : Lifecycle) (pc : OperationPc) : Prop where
  inv : life.Inv
  settles : life.Settles
  current : Current life pc

/-- The channels the client has given up are spent, and every `TeardownVc` that has returned
has left nothing open. -/
structure Settled (s : Client) : Prop where
  current : ∀ v ch, s.vc = some v → s.channels[v]? = some ch → Known ch.life s.pc
  others : ∀ v ch, s.channels[v]? = some ch → s.vc ≠ some v → Spent ch.life
  done : ∀ m ∈ s.teardowns, ∀ tcpSocket < m, tcpSocket ∈ s.closed

/-! ## What a channel's own steps keep -/

section Channel

variable {life : Lifecycle} {pc : OperationPc}

/-- `close()` has returned, so the channel is spent. -/
lemma Known.spent (h : Known life pc) (hret : life.openPc = .returned)
    (hidle : life.closes 0 = .idle) (hclosed : life.opened = false) : Spent life := by
  intro c hc
  rw [Bool.eq_false_iff]
  intro hconn
  exact h.settles.dead hret hclosed (Or.inl hidle) ⟨c, h.settles.placed c hc hconn, hconn⟩

lemma known_worker (h : Known life pc) (e : WorkerEvent) :
    Known (Lifecycle.step life e.toLifecycle) pc := by
  have he : (∃ k c, e.toLifecycle = .death k c) ∨ ∃ k, e.toLifecycle = .callback k := by
    cases e with
    | death k c => exact Or.inl ⟨k, c, rfl⟩
    | callback k => exact Or.inr ⟨k, rfl⟩
  obtain ⟨-, hdying⟩ := Lifecycle.connected_step (s := life) (toLifecycle_ne e)
  obtain ⟨hopenPc, hcloses, hopened⟩ := Lifecycle.worker_step (s := life) he
  refine ⟨Lifecycle.inv_step h.inv _, Lifecycle.settles_worker h.settles h.inv.counted he, ?_⟩
  have hcurrent := h.current
  cases pc with
  | openVc => exact (congrFun hcloses 0).trans hcurrent
  | teardownClosing | stopClosing | reconnectClosing =>
    refine ⟨hopenPc.trans hcurrent.1, fun hidle => ?_⟩
    rw [hcloses] at hidle
    rcases hopened with hopened | ⟨hopened, -⟩
    · rw [hopened]
      exact hcurrent.2 hidle
    · exact hopened
  | slotCreate | slotConnect | slotCheck | slotBind | slotOpenCheck | slotReplace =>
    exact ⟨⟨hopenPc.trans hcurrent.1.1, (congrFun hcloses 0).trans hcurrent.1.2⟩,
      hcurrent.2.dying hdying⟩
  | _ => exact ⟨hopenPc.trans hcurrent.1, (congrFun hcloses 0).trans hcurrent.2⟩

lemma known_callClose (h : Known life pc) (hret : life.openPc = .returned) {pc' : OperationPc}
    (hpc : ∀ t, BeingClosed t → Current t pc') :
    Known (Lifecycle.step life (.callClose 0)) pc' := by
  refine ⟨Lifecycle.inv_step h.inv _, Lifecycle.settles_callClose h.settles, ?_⟩
  show Current (life.callClose 0) pc'
  rw [Lifecycle.callClose]
  split_ifs with hidle
  · refine hpc _ ⟨hret, fun h => ?_⟩
    rw [Lifecycle.closes_setClose, if_pos rfl] at h
    cases h
  · exact hpc _ ⟨hret, fun h => absurd h hidle⟩

/-- When `close()` returns, the channel is not open any more. -/
lemma known_close (h : Known life pc) (hpc : ∀ t, Current t pc ↔ BeingClosed t) :
    Known (Lifecycle.step life (.close 0)) pc := by
  have hret := ((hpc life).mp h.current).1
  refine ⟨Lifecycle.inv_step h.inv _, Lifecycle.settles_close h.settles, ?_⟩
  rcases Lifecycle.step_cases life (.close 0) with hstep | hstep
  · rw [hstep]
    exact h.current
  · have hafter := h.settles.closed
    generalize Lifecycle.step life (.close 0) = t at hstep
    cases hstep with
    | exchange => exact (hpc _).mpr ⟨hret, fun _ => rfl⟩
    | joinSend _ hwhere | joinIo _ hwhere | stopReorder _ hwhere | closeSlot _ _ _ _ hwhere =>
      rw [hwhere] at hafter
      exact (hpc _).mpr ⟨hret, fun _ => hafter (by simp) (by simp)⟩

lemma known_opening {caller : Caller} {v : ℕ} (h : Known life (.openVc caller v)) :
    Known (Lifecycle.step life .opening) (.openVc caller v) := by
  have hidle : life.closes 0 = .idle := h.current
  refine ⟨Lifecycle.inv_step h.inv _, Lifecycle.settles_opening h.settles hidle, ?_⟩
  rcases Lifecycle.closes_step life .opening 0 with h | h | h
  · exact h.trans hidle
  · cases h
  · cases h

lemma known_replace {v slotIndex : ℕ} {tcpSocket : SocketId}
    (h : Known life (.slotReplace v slotIndex tcpSocket)) (hopen : life.opened = true) :
    Known (Lifecycle.step life (.replaceConnection slotIndex)) .idle := by
  obtain ⟨⟨hret, hidle⟩, hdead⟩ := h.current
  refine ⟨Lifecycle.inv_step h.inv _, Lifecycle.settles_replace h.settles hopen hdead, ?_⟩
  show Current (life.replaceConnection slotIndex) .idle
  rw [Lifecycle.replaceConnection]
  split_ifs
  · exact ⟨hret, hidle⟩
  · exact ⟨hret, hidle⟩

end Channel

/-! ## Actions of the client alone -/

lemma Settled.move (hs : Settled s) {t : Client} (hvc : t.vc = s.vc)
    (hchannels : t.channels = s.channels) (hteardowns : t.teardowns = s.teardowns)
    (hclosed : s.closed ⊆ t.closed)
    (hcurrent : ∀ v ch, s.vc = some v → s.channels[v]? = some ch → Current ch.life s.pc →
      Current ch.life t.pc) : Settled t where
  current v ch hv hch := by
    rw [hvc] at hv
    rw [hchannels] at hch
    obtain ⟨hinv, hsettles, hhere⟩ := hs.current v ch hv hch
    exact ⟨hinv, hsettles, hcurrent v ch hv hch hhere⟩
  others v ch hch hv := by
    rw [hvc] at hv
    rw [hchannels] at hch
    exact hs.others v ch hch hv
  done m hm tcpSocket hlt := by
    rw [hteardowns] at hm
    exact hclosed (hs.done m hm tcpSocket hlt)

lemma Settled.goto (hs : Settled s) {pc : OperationPc}
    (hcurrent : ∀ life, Current life s.pc → Current life pc) : Settled (s.goto pc) :=
  hs.move (t := s.goto pc) rfl rfl rfl (List.Subset.refl _) fun _ ch _ _ => hcurrent ch.life

/-- The operation closes the socket it holds. -/
lemma Settled.socketClose (hs : Settled s) (tcpSocket : SocketId) :
    Settled (s.socketClose tcpSocket) :=
  hs.move (t := s.socketClose tcpSocket) rfl rfl rfl (List.subset_cons_self _ _)
    fun _ _ _ _ h => h

/-- Without a channel there is nothing to know. -/
lemma Settled.goto_of_none (hs : Settled s) (hvc : s.vc = none) (pc : OperationPc) :
    Settled (s.goto pc) :=
  hs.move (t := s.goto pc) rfl rfl rfl (List.Subset.refl _) fun v _ hv => by
    rw [hvc] at hv
    cases hv

/-- The client forgets a channel that is spent. -/
lemma Settled.release (hs : Settled s) {v : ℕ} (hvc : s.vc = some v)
    (hspent : ∀ ch, s.channels[v]? = some ch → Spent ch.life) :
    Settled ({ s with vc := none } : Client) where
  current w ch hw := by cases hw
  others w ch hch _ := by
    by_cases hwv : w = v
    · exact hspent ch (hwv ▸ hch)
    · refine hs.others w ch hch fun h => hwv ?_
      exact (Option.some.inj (hvc.symm.trans h)).symm
  done := hs.done

lemma closes_of_closeReturned {v : ℕ} {ch : Channel} (h : s.closeReturned v = true)
    (hch : s.channels[v]? = some ch) : ch.life.closes 0 = .idle := by
  rw [closeReturned, life?, hch, Option.map_some] at h
  exact of_decide_eq_true h

/-- `close()` has returned, and the client forgets the channel. -/
lemma Settled.closed (hs : Settled s) {v : ℕ} (hvc : s.vc = some v)
    (hreturned : s.closeReturned v = true)
    (hcurrent : ∀ life, Current life s.pc → BeingClosed life) :
    Settled ({ s with vc := none } : Client) := by
  refine hs.release hvc fun ch hch => ?_
  have hknown := hs.current v ch hvc hch
  obtain ⟨hret, hclosed⟩ := hcurrent ch.life hknown.current
  have hidle := closes_of_closeReturned hreturned hch
  exact hknown.spent hret hidle (hclosed hidle)

/-! ## The end of `PrepareVC` and of `TeardownVc` -/

/-- `PrepareVC` leaves the channel at rest. -/
lemma prepareReturned_eq (s : Client) (caller : Caller) (ok : Bool) :
    ∃ pc, s.prepareReturned caller ok = s.goto pc ∧ ∀ life, AtRest life → Current life pc := by
  cases caller with
  | user => exact ⟨.idle, rfl, fun _ h => h⟩
  | reconnectVC maxRetries retryCount =>
    unfold prepareReturned
    dsimp only
    split_ifs
    · exact ⟨.idle, rfl, fun _ h => h⟩
    · exact ⟨.idle, rfl, fun _ h => h⟩
    · exact ⟨.reconnectLoop maxRetries (retryCount + 1), rfl, fun _ h => h⟩

/-- With every channel spent and no socket left in `tcpSockets`, all are closed. -/
lemma mem_closed (hs : Settled s) (hvc : s.vc = none) (hbal : s.clearSockets.Balanced [])
    {tcpSocket : SocketId} (hlt : tcpSocket < s.nextSocket) : tcpSocket ∈ s.closed := by
  have hlive : s.channels.flatMap Channel.live = [] := by
    rw [List.flatMap_eq_nil_iff]
    intro ch hch
    obtain ⟨w, hw⟩ := List.getElem?_of_mem hch
    refine live_of_spent (hs.others w ch hw ?_)
    rw [hvc]
    exact fun h => by cases h
  have h : 0 + (if s.vc = none then List.count tcpSocket [] else 0)
      + (s.channels.flatMap Channel.live).count tcpSocket + s.closed.count tcpSocket
        = if tcpSocket < s.nextSocket then 1 else 0 := hbal tcpSocket
  rw [hlive, if_pos hvc, if_pos hlt, List.count_nil] at h
  refine List.count_pos_iff.mp ?_
  omega

lemma settled_teardownReturned (hs : Settled s) (hvc : s.vc = none)
    (hbal : s.clearSockets.Balanced []) (next : AfterTeardown) :
    Settled (s.teardownReturned next) := by
  have hreturned : Settled { s.clearSockets with teardowns := s.nextSocket :: s.teardowns } := by
    refine ⟨fun v ch hv => ?_, hs.others, fun m hm tcpSocket hlt => ?_⟩
    · rw [show s.vc = some v from hv] at hvc
      cases hvc
    · rcases List.mem_cons.mp hm with rfl | hm
      · exact mem_closed hs hvc hbal hlt
      · exact hs.done m hm tcpSocket hlt
  unfold teardownReturned
  dsimp only
  cases next with
  | done => exact hreturned.goto_of_none hvc _
  | prepare caller => exact hreturned.goto_of_none hvc _
  | fail caller =>
    obtain ⟨pc, heq, -⟩ := prepareReturned_eq
      { s.clearSockets with teardowns := s.nextSocket :: s.teardowns } caller false
    dsimp only
    rw [heq]
    exact hreturned.goto_of_none hvc pc

/-! ## Actions inside a channel -/

lemma life_channelStep {v w : ℕ} {e : Lifecycle.Event} {ch' : Channel}
    (h : (s.channelStep v e).channels[w]? = some ch') :
    ∃ ch, s.channels[w]? = some ch
      ∧ ch'.life = if w = v then Lifecycle.step ch.life e else ch.life := by
  rw [channelStep] at h
  split at h
  · rename_i hnone
    refine ⟨ch', h, ?_⟩
    rw [if_neg]
    rintro rfl
    rw [hnone] at h
    cases h
  · rename_i ch hch
    have h : (s.channels.set v { ch with life := Lifecycle.step ch.life e })[w]? = some ch' := h
    rw [List.getElem?_set] at h
    by_cases hwv : v = w
    · rw [if_pos hwv] at h
      split_ifs at h
      obtain rfl := Option.some.inj h
      exact ⟨ch, hwv ▸ hch, by rw [if_pos hwv.symm]⟩
    · rw [if_neg hwv] at h
      exact ⟨ch', h, by rw [if_neg fun h => hwv h.symm]⟩

lemma history_channelStep (v : ℕ) (e : Lifecycle.Event) :
    (s.channelStep v e).teardowns = s.teardowns ∧ s.closed ⊆ (s.channelStep v e).closed := by
  rw [channelStep]
  split
  · exact ⟨rfl, List.Subset.refl _⟩
  · exact ⟨rfl, List.subset_append_right _ _⟩

lemma settled_channelStep (hs : Settled s) {v : ℕ} {e : Lifecycle.Event}
    (he : ∀ slotIndex, e ≠ .replaceConnection slotIndex) {pc : OperationPc}
    (hself : ∀ life, s.vc = some v → Known life s.pc → Known (Lifecycle.step life e) pc)
    (hrest : s.vc ≠ some v → pc = s.pc) : Settled ((s.channelStep v e).goto pc) := by
  obtain ⟨hvc, -, -, -, -⟩ := channelStep_eq (s := s) v e
  obtain ⟨hteardowns, hclosed⟩ := history_channelStep (s := s) v e
  refine ⟨fun w ch' hw hch' => ?_, fun w ch' hch' hw => ?_, fun m hm tcpSocket hlt => ?_⟩
  · have hw : s.vc = some w := hvc.symm.trans hw
    obtain ⟨ch, hch, hlife⟩ := life_channelStep (s := s) hch'
    have hknown := hs.current w ch hw hch
    rw [hlife]
    by_cases hwv : w = v
    · rw [if_pos hwv]
      exact hself ch.life (hwv ▸ hw) hknown
    · rw [if_neg hwv]
      have hne : s.vc ≠ some v := fun h => hwv (Option.some.inj (hw.symm.trans h))
      show Known ch.life pc
      rw [hrest hne]
      exact hknown
  · have hw : s.vc ≠ some w := fun h => hw (hvc.trans h)
    obtain ⟨ch, hch, hlife⟩ := life_channelStep (s := s) hch'
    have hspent := hs.others w ch hch hw
    rw [hlife]
    split_ifs
    · obtain ⟨hnext, hdying⟩ := Lifecycle.connected_step (s := ch.life) he
      exact hspent.dying hnext hdying
    · exact hspent
  · have hm : m ∈ (s.channelStep v e).teardowns := hm
    rw [hteardowns] at hm
    exact hclosed (hs.done m hm tcpSocket hlt)

lemma goto_channelStep (v : ℕ) (e : Lifecycle.Event) :
    (s.channelStep v e).goto s.pc = s.channelStep v e := by
  rw [channelStep]
  split
  · rfl
  · rfl

/-- `vc->close()` begins. -/
lemma settled_callClose (hs : Settled s) {v : ℕ} {pc : OperationPc} (hvc : s.vc = some v)
    (hrest : ∀ life, Current life s.pc → AtRest life)
    (hpc : ∀ life, BeingClosed life → Current life pc) :
    Settled ((s.channelStep v (.callClose 0)).goto pc) :=
  settled_channelStep hs (fun _ h => by cases h)
    (fun life _ hknown => known_callClose hknown (hrest life hknown.current).1 hpc)
    fun hne => absurd hvc hne

/-- `vc->close()` goes on. -/
lemma settled_close (hs : Settled s) {v : ℕ} (hvc : s.vc = some v)
    (hpc : ∀ life, Current life s.pc ↔ BeingClosed life) :
    Settled (s.channelStep v (.close 0)) := by
  rw [← goto_channelStep]
  exact settled_channelStep hs (fun _ h => by cases h)
    (fun _ _ hknown => known_close hknown hpc) fun hne => absurd hvc hne

lemma settled_createVc (hs : Settled s) (hvc : s.vc = none) (caller : Caller) :
    Settled (s.createVc caller) := by
  refine ⟨fun w ch hw hch => ?_, fun w ch hch hw => ?_, hs.done⟩
  · obtain rfl := Option.some.inj hw
    have hch : (s.channels ++ [Channel.create s.tcpSockets])[s.channels.length]? = some ch := hch
    rw [List.getElem?_append_right (le_refl _), Nat.sub_self] at hch
    obtain rfl := Option.some.inj hch
    exact ⟨Lifecycle.inv_init _ true, Lifecycle.settles_init _ true, rfl⟩
  · have hw : w ≠ s.channels.length := fun h => hw (by rw [h]; rfl)
    have hch : (s.channels ++ [Channel.create s.tcpSockets])[w]? = some ch := hch
    by_cases hlt : w < s.channels.length
    · rw [List.getElem?_append_left hlt] at hch
      refine hs.others w ch hch ?_
      rw [hvc]
      exact fun h => by cases h
    · have hlen : (s.channels ++ [Channel.create s.tcpSockets]).length ≤ w := by
        rw [List.length_append, List.length_singleton]
        omega
      rw [List.getElem?_eq_none hlen] at hch
      cases hch

/-! ## Every action -/

/-- A new connection goes into a channel that is open, as `ReconnectSingleSlot` has made
sure. -/
def splicesIntoOpen (s : Client) : Event → Bool
  | .run _ =>
    match s.pc with
    | .slotReplace v _ _ => s.isOpen v
    | _ => true
  | _ => true

lemma settled_replaceConnection (hs : Settled s) {v slotIndex : ℕ} {tcpSocket : SocketId}
    (hvc : s.vc = some v) (hpc : s.pc = .slotReplace v slotIndex tcpSocket)
    (hopen : s.isOpen v = true) : Settled (s.replaceConnection v slotIndex tcpSocket) := by
  have hidle : ∀ life, Current life s.pc → Current life .idle := fun life h => by
    rw [hpc] at h
    exact h.1
  rw [replaceConnection]
  split
  · exact hs.goto hidle
  · rename_i ch hch
    split_ifs
    · exact hs.goto hidle
    · refine ⟨fun w ch' hw hch' => ?_, fun w ch' hch' hw => ?_, hs.done⟩
      · obtain rfl := Option.some.inj (hvc.symm.trans hw)
        have hknown := hs.current v ch hvc hch
        rw [hpc] at hknown
        rw [isOpen, life?, hch, Option.map_some] at hopen
        have hlt := (List.getElem?_eq_some_iff.mp hch).1
        have hch' : (s.channels.set v _)[v]? = some ch' := hch'
        rw [List.getElem?_set_self hlt] at hch'
        obtain rfl := Option.some.inj hch'
        exact known_replace hknown hopen
      · have hw : s.vc ≠ some w := hw
        have hne : v ≠ w := fun h => hw (by rw [← h]; exact hvc)
        have hch' : (s.channels.set v _)[w]? = some ch' := hch'
        rw [List.getElem?_set_ne hne] at hch'
        exact hs.others w ch' hch' hw
    · exact hs

lemma settled_teardown (hs : Settled s) (hwf : Wf s) {next : AfterTeardown}
    (hpc : s.pc = .teardown next) : Settled (s.teardown next) := by
  have hbal : s.Balanced [] := by
    have h := hwf.balanced
    rwa [hpc] at h
  have hstopped : Settled s.stopWatchdog :=
    hs.move rfl rfl rfl (List.Subset.refl _) fun _ _ _ _ h => h
  unfold teardown
  dsimp only
  split
  · rename_i v hvc
    refine settled_callClose hstopped hvc (fun life h => ?_) fun _ hclosing => hclosing
    rw [show s.stopWatchdog.pc = .teardown next from hpc] at h
    exact h
  · rename_i hvc
    have hvc : s.vc = none := hvc
    refine settled_teardownReturned (s := { s.stopWatchdog with closed := s.tcpSockets ++ s.closed })
      ?_ hvc (balanced_closeSockets (s := s.stopWatchdog) hvc hbal) next
    exact hs.move rfl rfl rfl (List.subset_append_right _ _) fun _ _ _ _ h => h

lemma settled_prepareVC (hs : Settled s) (hwf : Wf s) (h : s.pc.inPrepareVC = true) (ok : Bool) :
    Settled (s.run ok) := by
  have hhere := hwf.here
  -- what is known before the action
  have hbefore : ∀ {pc : OperationPc}, s.pc = pc → ∀ life, Current life s.pc → Current life pc :=
    fun hpc life hcurrent => hpc ▸ hcurrent
  rw [run]
  cases hpc : s.pc with
  | socketCreate caller i =>
    rw [hpc] at hhere
    have hcreated : Settled s.socketCreate :=
      hs.move rfl rfl rfl (List.Subset.refl _) fun _ _ _ _ h => h
    dsimp only
    split_ifs
    · exact hcreated.goto_of_none hhere _
    · exact hs.goto_of_none hhere _
    · exact hs.goto_of_none hhere _
  | socketConnect caller i tcpSocket =>
    rw [hpc] at hhere
    dsimp only
    split_ifs
    · exact hs.goto_of_none hhere _
    · exact (hs.socketClose tcpSocket).goto_of_none hhere _
  | sendBind caller i tcpSocket =>
    rw [hpc] at hhere
    have hsent : Settled { s with nextConnectionId := (s.nextConnectionId + 1) % uint32Size } :=
      hs.move rfl rfl rfl (List.Subset.refl _) fun _ _ _ _ h => h
    have hkept : Settled { s with
        nextConnectionId := (s.nextConnectionId + 1) % uint32Size
        tcpSockets := s.tcpSockets ++ [tcpSocket]
        tcpConnectionIds := s.tcpConnectionIds ++ [s.nextConnectionId] } :=
      hs.move rfl rfl rfl (List.Subset.refl _) fun _ _ _ _ h => h
    dsimp only
    split_ifs
    · exact hkept.goto_of_none hhere _
    · exact (hsent.socketClose tcpSocket).goto_of_none hhere _
  | createVc caller =>
    rw [hpc] at hhere
    dsimp only
    split_ifs
    · exact settled_createVc hs hhere caller
    · exact hs.goto_of_none hhere _
  | openVc caller v =>
    rw [hpc] at hhere
    dsimp only
    split
    · rename_i life hlife
      split_ifs with hret
      · refine hs.move rfl rfl rfl (List.Subset.refl _) fun w ch hw hch hcurrent => ?_
        obtain rfl := Option.some.inj (hhere.symm.trans hw)
        rw [life?, hch, Option.map_some] at hlife
        obtain rfl := Option.some.inj hlife
        exact ⟨hret, hbefore hpc _ hcurrent⟩
      · rw [← goto_channelStep, hpc]
        refine settled_channelStep hs (fun _ h => by cases h) (fun life _ hknown => ?_)
          fun hne => absurd hhere hne
        rw [hpc] at hknown
        exact known_opening hknown
    · exact hs
  | startWatchdog caller =>
    obtain ⟨pc, heq, hrest⟩ := prepareReturned_eq
      { s with watchdogRunning := true, pc := .startWatchdog caller } caller true
    dsimp only
    rw [heq]
    exact hs.move rfl rfl rfl (List.Subset.refl _) fun _ ch _ _ hcurrent =>
      hrest ch.life (hbefore hpc _ hcurrent)
  | _ =>
    rw [hpc] at h
    cases h

/-- While a slot is reconnected the channel is at rest. -/
lemma current_idle {life : Lifecycle} {pc : OperationPc} (hpc : pc.inSlot = true)
    (h : Current life pc) : Current life .idle := by
  cases pc with
  | slotCreate | slotConnect | slotCheck | slotBind | slotOpenCheck | slotReplace =>
    exact h.1
  | _ => cases hpc

lemma settled_reconnectSingleSlot (hs : Settled s) (hwf : Wf s) (hslot : s.pc.inSlot = true)
    (ok : Bool) (h : s.splicesIntoOpen (.run ok) = true) : Settled (s.run ok) := by
  have hhere := hwf.here
  -- what is known before the action
  have hbefore : ∀ {pc : OperationPc}, s.pc = pc → ∀ life, Current life s.pc → Current life pc :=
    fun hpc life hcurrent => hpc ▸ hcurrent
  have hrest : ∀ life, Current life s.pc → Current life .idle := fun _ => current_idle hslot
  rw [run]
  cases hpc : s.pc with
  | slotCreate slotIndex epochAtStart =>
    dsimp only
    split_ifs
    · exact hs.goto hrest
    · exact hs.move rfl rfl rfl (List.Subset.refl _) fun _ ch _ _ => hbefore hpc ch.life
    · exact hs.goto hrest
  | slotConnect slotIndex epochAtStart tcpSocket =>
    have hnow := hbefore hpc
    dsimp only
    split_ifs
    · exact hs.goto hnow
    · exact (hs.socketClose tcpSocket).goto hrest
  | slotCheck slotIndex epochAtStart tcpSocket =>
    dsimp only
    split_ifs
    · exact (hs.socketClose tcpSocket).goto hrest
    · exact hs.move rfl rfl rfl (List.Subset.refl _) fun _ ch _ _ => hbefore hpc ch.life
  | slotBind slotIndex epochAtStart newConnId tcpSocket =>
    have hnow := hbefore hpc
    dsimp only
    split_ifs
    · exact (hs.socketClose tcpSocket).goto hrest
    · exact hs.goto hnow
    · exact (hs.socketClose tcpSocket).goto hrest
  | slotOpenCheck slotIndex epochAtStart newConnId tcpSocket =>
    dsimp only
    split
    · exact (hs.socketClose tcpSocket).goto hrest
    · split_ifs
      · exact (hs.socketClose tcpSocket).goto hrest
      · exact (hs.socketClose tcpSocket).goto hrest
      · exact hs.move rfl rfl rfl (List.Subset.refl _) fun _ ch _ _ => hbefore hpc ch.life
  | slotReplace v slotIndex tcpSocket =>
    rw [hpc] at hhere
    rw [splicesIntoOpen, hpc] at h
    exact settled_replaceConnection hs hhere.1 hpc h
  | _ =>
    rw [hpc] at hslot
    cases hslot

theorem settled_run (hs : Settled s) (hwf : Wf s) (ok : Bool)
    (h : s.splicesIntoOpen (.run ok) = true) : Settled (s.run ok) := by
  by_cases hprepare : s.pc.inPrepareVC = true
  · exact settled_prepareVC hs hwf hprepare ok
  by_cases hslot : s.pc.inSlot = true
  · exact settled_reconnectSingleSlot hs hwf hslot ok h
  have hhere := hwf.here
  have hbal := hwf.balanced
  -- what is known before the action
  have hbefore : ∀ {pc : OperationPc}, s.pc = pc → ∀ life, Current life s.pc → Current life pc :=
    fun hpc life hcurrent => hpc ▸ hcurrent
  rw [run]
  cases hpc : s.pc with
  | idle => exact hs
  | teardown next => exact settled_teardown hs hwf hpc
  | teardownClosing v next =>
    rw [hpc] at hhere hbal
    dsimp only
    split_ifs with hreturned
    · have hreleased := hs.closed hhere hreturned (hbefore hpc)
      exact settled_teardownReturned hreleased rfl (balanced_release hhere hbal) next
    · refine settled_close hs hhere ?_
      rw [hpc]
      exact fun _ => Iff.rfl
  | stopClosing v =>
    rw [hpc] at hhere
    dsimp only
    split_ifs with hreturned
    · refine hs.move rfl rfl rfl (List.Subset.refl _) fun w ch hw hch hcurrent => ?_
      obtain rfl := Option.some.inj (hhere.symm.trans hw)
      exact ⟨(hbefore hpc _ hcurrent).1, closes_of_closeReturned hreturned hch⟩
    · refine settled_close hs hhere ?_
      rw [hpc]
      exact fun _ => Iff.rfl
  | reconnectLoop maxRetries retryCount =>
    have hnow := hbefore hpc
    dsimp only
    split_ifs
    · split
      · rename_i v hv
        exact settled_callClose hs hv hnow fun _ hclosing => hclosing
      · exact hs.move rfl rfl rfl (List.Subset.refl _) fun _ ch _ _ => hnow ch.life
    · exact hs.goto hnow
  | reconnectClosing v maxRetries retryCount =>
    rw [hpc] at hhere
    dsimp only
    split_ifs with hreturned
    · have hreleased := hs.closed hhere hreturned (hbefore hpc)
      have hcleared : Settled ({ s with vc := none } : Client).clearSockets :=
        hreleased.move rfl rfl rfl (List.Subset.refl _) fun _ _ _ _ h => h
      exact hcleared.goto_of_none rfl _
    · refine settled_close hs hhere ?_
      rw [hpc]
      exact fun _ => Iff.rfl
  | reconnectCleared maxRetries retryCount =>
    have hnow := hbefore hpc
    dsimp only
    split_ifs
    · exact hs.goto hnow
    · exact hs.goto hnow
  | socketCreate | socketConnect | sendBind | createVc | openVc | startWatchdog =>
    rw [hpc] at hprepare
    exact absurd rfl hprepare
  | slotCreate | slotConnect | slotCheck | slotBind | slotOpenCheck | slotReplace =>
    rw [hpc] at hslot
    exact absurd rfl hslot

lemma settled_call (hs : Settled s) {op : Operation} (h : s.enabled op = true) :
    Settled (s.call op) := by
  have hpc := pc_of_enabled h
  have hbefore : ∀ life, Current life s.pc → AtRest life := fun life hcurrent => by
    rwa [hpc] at hcurrent
  cases op with
  | prepareVC => exact hs.goto hbefore
  | teardownVc => exact hs.goto hbefore
  | reconnectVC maxRetries =>
    exact hs.move rfl rfl rfl (List.Subset.refl _) fun _ ch _ _ => hbefore ch.life
  | stop =>
    have hstopped : Settled ({ s with running := false } : Client).stopWatchdog :=
      hs.move rfl rfl rfl (List.Subset.refl _) fun _ _ _ _ h => h
    unfold call
    dsimp only
    split
    · rename_i v hv
      exact settled_callClose hstopped hv hbefore fun _ hclosing => hclosing
    · exact hstopped
  | reconnectSingleSlot slotIndex =>
    refine hs.move rfl rfl rfl (List.Subset.refl _) fun v ch hv hch hcurrent => ?_
    refine ⟨hbefore ch.life hcurrent, fun c hc => ?_⟩
    have hdead := (Bool.and_eq_true_iff.mp h).2
    rw [isDeadSlot, hv, Option.bind_some, life?, hch, Option.map_some] at hdead
    dsimp only at hdead
    rw [hc] at hdead
    rwa [Bool.not_eq_true'] at hdead

lemma settled_destroy (hs : Settled s) (v : ℕ) : Settled (s.destroy v) := by
  rw [destroy]
  split
  · exact hs
  · rename_i ch hch
    split_ifs with hunref
    · have hget : ∀ w ch', (s.channels.set v
          { ch with life := { ch.life with connected := fun _ => false } })[w]? = some ch' →
            w = v ∧ Spent ch'.life ∨ w ≠ v ∧ s.channels[w]? = some ch' := by
        intro w ch' h
        by_cases hwv : w = v
        · subst hwv
          rw [List.getElem?_set_self (List.getElem?_eq_some_iff.mp hch).1] at h
          obtain rfl := Option.some.inj h
          exact Or.inl ⟨rfl, fun _ _ => rfl⟩
        · rw [List.getElem?_set_ne fun h => hwv h.symm] at h
          exact Or.inr ⟨hwv, h⟩
      refine ⟨fun w ch' hw hch' => ?_, fun w ch' hch' hw => ?_, fun m hm tcpSocket hlt => ?_⟩
      · rcases hget w ch' hch' with ⟨rfl, -⟩ | ⟨-, hch'⟩
        · exact absurd hw hunref.1
        · exact hs.current w ch' hw hch'
      · rcases hget w ch' hch' with ⟨-, hspent⟩ | ⟨-, hch'⟩
        · exact hspent
        · exact hs.others w ch' hch' hw
      · exact List.mem_append_right _ (hs.done m hm tcpSocket hlt)
    · exact hs

theorem settled_step (hs : Settled s) (hwf : Wf s) (e : Event) (h : s.splicesIntoOpen e = true) :
    Settled (step s e) := by
  cases e with
  | start =>
    show Settled (if s.pc = .idle then { s with running := true } else s)
    split_ifs
    · exact hs.move rfl rfl rfl (List.Subset.refl _) fun _ _ _ _ h => h
    · exact hs
  | call op =>
    show Settled (if s.enabled op then s.call op else s)
    split_ifs with henabled
    · exact settled_call hs henabled
    · exact hs
  | run ok => exact settled_run hs hwf ok h
  | worker v e =>
    show Settled (s.channelStep v e.toLifecycle)
    rw [← goto_channelStep]
    exact settled_channelStep hs (toLifecycle_ne e) (fun _ _ hknown => known_worker hknown e)
      fun _ => rfl
  | destroy v => exact settled_destroy hs v

lemma settled_init : Settled {} where
  current v ch h := by cases h
  others v ch h := by cases h
  done m h := by cases h

/-- In a run that puts new connections only into open channels, every socket is closed once,
and by the time a `TeardownVc` has returned all are. -/
theorem closesOnce_of_splicesIntoOpen (events : ℕ → Event) (n : ℕ)
    (h : ∀ m < n, (stateAt events m).splicesIntoOpen (events m) = true) :
    ClosesOnce (stateAt events n) := by
  have hs : Wf (stateAt events n) ∧ Settled (stateAt events n) :=
    runState_invariant_of_steps (P := fun s => Wf s ∧ Settled s)
      (Q := fun s e => splicesIntoOpen s e = true) ⟨wf_init, settled_init⟩
      (fun s e h hs => ⟨wf_step hs.1 e, settled_step hs.2 hs.1 e h⟩) h
  exact ⟨nodup_closed events n, hs.2.done⟩

/-- `PrepareVC`, up to where the threads of the channel run and the channel is not open yet. -/
def threadsStarted : List Event := .call .prepareVC :: List.replicate 102 (.run true)

/-- A thread finds connection `c` dead; the channel is not open, and `disconnectCB` leaves. -/
def diesEarly (c : ConnId) : List Event :=
  .worker 0 (.death 0 c) :: List.replicate 2 (.worker 0 (.callback 0))

/-- Connection 0 dies, its slot is reconnected, and the client tears the channel down. -/
def splicesInTime : List Event :=
  threadsStarted ++ diesEarly 0 ++ List.replicate 3 (.run true)
    ++ .call (.reconnectSingleSlot 0) :: List.replicate 6 (.run true)
    ++ .call .teardownVc :: List.replicate 39 (.run true)

theorem closesOnce_of_splicesInTime :
    (stateAt (listInputs splicesInTime .start) 156).teardowns = [33, 0]
      ∧ (stateAt (listInputs splicesInTime .start) 156).ClosesOnce := by
  have hall : allSteps step splicesIntoOpen {} splicesInTime = true := by decide +kernel
  refine ⟨?_, closesOnce_of_splicesIntoOpen (listInputs splicesInTime .start) 156
    (of_allSteps hall .start)⟩
  rw [stateAt, runState_listInputs _ (by decide +kernel)]
  decide +kernel

/-- All connections but one die, slot 0 is reconnected up to the check of `isOpen()`, and then
the last connection dies: the channel is given up, the new connection is put into it, and
`TeardownVc` finds nothing to close. -/
def splicesTooLate : List Event :=
  threadsStarted ++ (List.range 31).flatMap diesEarly ++ List.replicate 3 (.run true)
    ++ .call (.reconnectSingleSlot 0) :: List.replicate 5 (.run true)
    ++ .worker 0 (.death 0 31) :: List.replicate 72 (.worker 0 (.callback 0))
    ++ .run true :: List.replicate 2 (.worker 0 (.callback 0))
    ++ .call .teardownVc :: List.replicate 4 (.run true)

/-- `TeardownVc` has returned after 33 sockets had been obtained, and socket 32 is open. -/
theorem socket_left_open :
    (stateAt (listInputs splicesTooLate .start) 286).teardowns = [33, 0]
      ∧ 32 ∉ (stateAt (listInputs splicesTooLate .start) 286).closed
      ∧ ¬(stateAt (listInputs splicesTooLate .start) 286).ClosesOnce := by
  have hrun : (stateAt (listInputs splicesTooLate .start) 286).teardowns = [33, 0]
      ∧ 32 ∉ (stateAt (listInputs splicesTooLate .start) 286).closed := by
    rw [stateAt, runState_listInputs _ (by decide +kernel)]
    decide +kernel
  refine ⟨hrun.1, hrun.2, fun h => hrun.2 (h.all 33 ?_ 32 (by decide))⟩
  rw [hrun.1]
  exact List.mem_cons_self

end Client
end TcpUdp
