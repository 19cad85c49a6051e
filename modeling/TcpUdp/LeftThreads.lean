import TcpUdp.ServerTheorems

/-!
# The threads of a channel after an outage

A total outage stops the IO and the send thread of a channel, and nothing else: the reorder
thread is told to stop by `close()` alone, and after an outage `close()` is called only by the
accept loop, on a channel that it still finds in `VcManager`. The destructor would call it
too, but the IO thread of a channel that was not closed keeps the channel alive
(`noThreadsLeft_iff`).
-/

namespace TcpUdp
namespace Server

open Lib

variable {s : Server}

/-- The disconnect callback of the channel has run to its end. -/
def CallbackCompleted (s : Server) (ch : ChannelId) : Prop :=
  (s.channels ch).notifications ≠ [] ∧ ∀ w : Worker, (s.channels ch).callbacks w.call ≠ .inCallback

instance (s : Server) (ch : ChannelId) : Decidable (s.CallbackCompleted ch) :=
  inferInstanceAs (Decidable (_ ∧ _))

def ThreadsStopped (s : Server) (ch : ChannelId) : Prop :=
  (s.channels ch).ioThread ≠ some true ∧ (s.channels ch).sendThread ≠ some true
    ∧ (s.channels ch).reorderRunning = false

/-! ## Who stops the reorder thread -/

/-- A step that neither opens nor closes. -/
structure Calm (l l' : Lifecycle) : Prop where
  openPc : l'.openPc = l.openPc
  closeClaimed : l'.closeClaimed = l.closeClaimed
  reorderRunning : l'.reorderRunning = l.reorderRunning

lemma calm_step (l : Lifecycle) {e : Lifecycle.Event} (hopening : e ≠ .opening)
    (hclose : ∀ k, e ≠ .close k) : Calm l (l.step e) where
  openPc := (Lifecycle.openPc_step l e).resolve_right hopening
  closeClaimed := by
    rcases Lifecycle.closeClaimed_step l e with h | ⟨-, -, k, h⟩
    · exact h
    · exact absurd h (hclose k)
  reorderRunning := by
    rcases Lifecycle.reorderRunning_step l e with h | ⟨h, -⟩ | ⟨k, h, -⟩
    · exact h
    · exact absurd h hopening
    · exact absurd h (hclose k)

lemma calm_stepChannel (s : Server) (ch ch' : ChannelId) {e : Lifecycle.Event}
    (hopening : e ≠ .opening) (hclose : ∀ k, e ≠ .close k) :
    Calm (s.channels ch') ((s.stepChannel ch e).channels ch') := by
  rw [stepChannel, channels_setChannel]
  split_ifs with h
  · rw [h]
    exact calm_step _ hopening hclose
  · exact ⟨rfl, rfl, rfl⟩

lemma calm_cleanupStep (s : Server) (ch ch' : ChannelId) (w : Worker) :
    Calm (s.channels ch') ((s.cleanupStep ch w).channels ch') := by
  rw [cleanupStep]
  split
  · exact ⟨rfl, rfl, rfl⟩
  · exact ⟨rfl, rfl, rfl⟩
  · exact ⟨rfl, rfl, rfl⟩
  · exact ⟨rfl, rfl, rfl⟩
  · exact calm_stepChannel _ ch ch' (fun h => by cases h) fun k h => by cases h

/-- The reorder thread of a channel that was opened runs, until the accept loop has closed the
channel. -/
structure Reordering (s : Server) (ch : ChannelId) : Prop where
  claimed : (s.channels ch).closeClaimed = true →
    s.accept.closing? = some ch ∨ ch ∈ s.closedStale
  closed : ch ∈ s.closedStale → s.Created ch ∧ (s.channels ch).openPc = .returned
    ∧ (s.channels ch).reorderRunning = false
  running : (s.channels ch).openPc ≠ .startingReorder → (s.channels ch).reorderRunning = false →
    ch ∈ s.closedStale ∨ s.destroyed ch = true
  destroyed : s.destroyed ch = true → (s.channels ch).openPc = .returned → ch ∈ s.closedStale

lemma Reordering.calm {ch : ChannelId} (hs : Reordering s ch) {s' : Server}
    (hchannels : Calm (s.channels ch) (s'.channels ch)) (hcreated : s.Created ch → s'.Created ch)
    (hdestroyed : s'.destroyed ch = s.destroyed ch)
    (hclosing : s.accept.closing? = some ch → s'.accept.closing? = some ch)
    (hstale : ch ∈ s'.closedStale ↔ ch ∈ s.closedStale) : Reordering s' ch := by
  refine ⟨fun h => ?_, fun h => ?_, fun h h' => ?_, fun h h' => ?_⟩
  · rw [hchannels.closeClaimed] at h
    rw [hstale]
    exact (hs.claimed h).imp_left hclosing
  · obtain ⟨hc, hret, hreorder⟩ := hs.closed (hstale.mp h)
    rw [hchannels.openPc, hchannels.reorderRunning]
    exact ⟨hcreated hc, hret, hreorder⟩
  · rw [hchannels.openPc] at h
    rw [hchannels.reorderRunning] at h'
    rw [hstale, hdestroyed]
    exact hs.running h h'
  · rw [hdestroyed] at h
    rw [hchannels.openPc] at h'
    exact hstale.mpr (hs.destroyed h h')

lemma reordering_create (hs : ∀ ch, Reordering s ch) (hplaced : Placed s) {a : Accepted}
    {fds : List SocketFd} (h : s.accept = .handling a (.creating fds)) (ch : ChannelId) :
    Reordering (s.create a fds) ch := by
  by_cases hch : ch = ⟨a.clientId, s.nextVc a.clientId⟩
  · have hnew : ¬ s.Created ch := by
      rw [hch]
      exact Nat.lt_irrefl _
    have hinit : (s.create a fds).channels ch = .init fds.length true := if_pos hch
    refine ⟨fun hc => ?_, fun hc => absurd ((hs ch).closed hc).1 hnew, fun hpc => ?_, fun hd =>
      absurd ((hplaced.each ch).destroyed hd).1 hnew⟩
    · rw [hinit] at hc
      cases hc
    · rw [hinit] at hpc
      exact absurd rfl hpc
  · have hcalm : (s.create a fds).channels ch = s.channels ch := if_neg hch
    refine (hs ch).calm (by rw [hcalm]; exact ⟨rfl, rfl, rfl⟩) (fun hc => ?_) rfl (fun hcl => ?_)
      Iff.rfl
    · show ch.vc < Function.update s.nextVc a.clientId (s.nextVc a.clientId + 1) ch.clientId
      rw [Function.update_apply]
      split_ifs with hclient
      · exact Nat.lt_succ_of_lt (hclient ▸ hc)
      · exact hc
    · rw [h] at hcl
      cases hcl

lemma reordering_opening (hs : ∀ ch, Reordering s ch) (hplaced : Placed s) {a : Accepted}
    {vc : VcId} (h : s.accept = .handling a (.opening vc)) (ch : ChannelId) :
    Reordering (s.stepChannel ⟨a.clientId, vc⟩ .opening) ch := by
  by_cases hch : ch = ⟨a.clientId, vc⟩
  · have hat := hs ch
    have hb : s.accept.building? = some ch := by rw [h, hch]; rfl
    have hl : (s.stepChannel ⟨a.clientId, vc⟩ .opening).channels ch
        = (s.channels ch).step .opening := by
      rw [hch]
      exact channels_stepChannel ..
    have hdestroyed : s.destroyed ch ≠ true := fun hd =>
      ((hplaced.each ch).destroyed hd).2.2.2.1 hb
    refine ⟨fun hc => ?_, fun hc => ?_, fun hpc hreorder => ?_, fun hd => absurd hd hdestroyed⟩
    · rw [hl] at hc
      rcases Lifecycle.closeClaimed_step (s.channels ch) .opening with heq | ⟨-, -, k, heq⟩
      · exact hat.claimed (heq ▸ hc)
      · cases heq
    · obtain ⟨hcreated, hret, hreorder⟩ := hat.closed hc
      rw [hl]
      refine ⟨hcreated, Lifecycle.returned_step hret _, ?_⟩
      rcases Lifecycle.reorderRunning_step (s.channels ch) .opening with heq | ⟨-, hpc, -⟩
        | ⟨k, heq, -⟩
      · exact heq.trans hreorder
      · rw [hret] at hpc
        cases hpc
      · cases heq
    · rw [hl] at hreorder
      rcases Lifecycle.reorderRunning_step (s.channels ch) .opening with heq | ⟨-, -, htrue⟩
        | ⟨k, heq, -⟩
      · refine hat.running (fun hstart => ?_) (heq ▸ hreorder)
        -- the first step of `open()` starts the thread
        simp only [Lifecycle.step, Lifecycle.openStep, hstart] at hreorder
        cases hreorder
      · rw [htrue] at hreorder
        cases hreorder
      · cases heq
  · exact (hs ch).calm (by rw [stepChannel, channels_setChannel, if_neg hch]; exact ⟨rfl, rfl, rfl⟩)
      id rfl id Iff.rfl

/-- `close()` of the loop goes on. -/
lemma reordering_close (hs : ∀ ch, Reordering s ch) (hplaced : Placed s) {a : Accepted} {vc : VcId}
    (h : s.accept = .handling a (.closing vc))
    (hbusy : ((s.channels ⟨a.clientId, vc⟩).step (.close 0)).closes 0 ≠ .idle) (ch : ChannelId) :
    Reordering (s.stepChannel ⟨a.clientId, vc⟩ (.close 0)) ch := by
  by_cases hch : ch = ⟨a.clientId, vc⟩
  · have hat := hs ch
    have hcl : s.accept.closing? = some ch := by rw [h, hch]; rfl
    have hl : (s.stepChannel ⟨a.clientId, vc⟩ (.close 0)).channels ch
        = (s.channels ch).step (.close 0) := by
      rw [hch]
      exact channels_stepChannel ..
    rw [← hch] at hbusy
    have hreorder : ((s.channels ch).step (.close 0)).reorderRunning
        = (s.channels ch).reorderRunning := by
      rcases Lifecycle.reorderRunning_step (s.channels ch) (.close 0) with heq | ⟨heq, -⟩
        | ⟨k, heq, hidle, -⟩
      · exact heq
      · cases heq
      · cases heq
        exact absurd hidle hbusy
    refine ⟨fun _ => Or.inl hcl, fun hc => ?_, fun hpc hstop => ?_, fun hd =>
      absurd hcl ((hplaced.each ch).destroyed hd).2.2.2.2⟩
    · obtain ⟨hcreated, hret, hstop⟩ := hat.closed hc
      rw [hl, hreorder]
      exact ⟨hcreated, Lifecycle.returned_step hret _, hstop⟩
    · rw [hl] at hpc hstop
      refine hat.running (fun hstart => ?_) (hreorder ▸ hstop)
      rw [((hplaced.each ch).closing hcl).2.2.1] at hstart
      cases hstart
  · exact (hs ch).calm (by rw [stepChannel, channels_setChannel, if_neg hch]; exact ⟨rfl, rfl, rfl⟩)
      id rfl id Iff.rfl

/-- `close()` of the loop returns. -/
lemma reordering_closed (hs : ∀ ch, Reordering s ch) (hplaced : Placed s) {a : Accepted} {vc : VcId}
    (h : s.accept = .handling a (.closing vc))
    (hidle : ((s.channels ⟨a.clientId, vc⟩).step (.close 0)).closes 0 = .idle) (ch : ChannelId) :
    Reordering ({ s.stepChannel ⟨a.clientId, vc⟩ (.close 0) with
      closedStale := ⟨a.clientId, vc⟩ :: s.closedStale }.goto a .checkingStale) ch := by
  have hcl : s.accept.closing? = some ⟨a.clientId, vc⟩ := by rw [h]; rfl
  by_cases hch : ch = ⟨a.clientId, vc⟩
  · have hin : ch ∈ (⟨a.clientId, vc⟩ :: s.closedStale : List ChannelId) := by
      rw [hch]
      exact List.mem_cons_self ..
    refine ⟨fun _ => Or.inr hin, fun _ => ?_, fun _ _ => Or.inl hin, fun _ _ => hin⟩
    obtain ⟨hcreated, -, hret, hbusy, -⟩ := (hplaced.each _).closing hcl
    rw [hch]
    refine ⟨hcreated, ?_, ?_⟩
    · exact (congrArg Lifecycle.openPc (channels_stepChannel ..)).trans
        (Lifecycle.returned_step hret _)
    · exact (congrArg Lifecycle.reorderRunning (channels_stepChannel ..)).trans
        (Lifecycle.reorderRunning_of_closed hbusy hidle)
  · refine (hs ch).calm ?_ id rfl (fun heq => ?_) ?_
    · show Calm _ (if ch = _ then _ else s.channels ch)
      rw [if_neg hch]
      exact ⟨rfl, rfl, rfl⟩
    · exact absurd (Option.some.inj (heq.symm.trans hcl)) hch
    · exact List.mem_cons.trans (or_iff_right hch)

lemma reordering_destroy (hs : ∀ ch, Reordering s ch) (hinv : Inv s) {ch : ChannelId}
    (href : s.Unreferenced ch) (ch' : ChannelId) : Reordering
      ({ s with destroyed := Function.update s.destroyed ch true }.stepChannel ch (.callClose 1))
      ch' := by
  have hcalm := calm_stepChannel { s with destroyed := Function.update s.destroyed ch true } ch ch'
    (e := .callClose 1) nofun nofun
  by_cases hch : ch' = ch
  · have hat := hs ch'
    refine ⟨fun hc => hat.claimed (hcalm.closeClaimed ▸ hc), fun hc => ?_, fun _ _ => Or.inr ?_,
      fun _ hret => ?_⟩
    · obtain ⟨hcreated, hret, hstop⟩ := hat.closed hc
      exact ⟨hcreated, hcalm.openPc.trans hret, hcalm.reorderRunning.trans hstop⟩
    · rw [hch]
      exact Function.update_self ..
    · -- the IO thread of an opened channel is gone: the loop has closed the channel
      have hret : (s.channels ch').openPc = .returned := hcalm.openPc.symm.trans hret
      obtain ⟨-, hheld, -, hio, -⟩ := href
      rw [← hch] at hheld hio
      have hclaimed : (s.channels ch').closeClaimed = true := by
        by_contra hclaimed
        refine (hinv.sound.halted ch').ioThread ?_ (Bool.eq_false_of_not_eq_true hclaimed) hio
        rw [hret]
        rfl
      rcases hat.claimed hclaimed with hcl | hstale
      · exact absurd ((hinv.placed.each ch').closing hcl).2.1 hheld
      · exact hstale
  · exact (hs ch').calm hcalm id (Function.update_of_ne hch ..) id Iff.rfl

lemma reordering_destructor (hs : ∀ ch, Reordering s ch) (hplaced : Placed s) {ch : ChannelId}
    (hdestroyed : s.destroyed ch = true) (ch' : ChannelId) :
    Reordering (s.stepChannel ch (.close 1)) ch' := by
  by_cases hch : ch' = ch
  · rw [hch]
    have hat := hs ch
    have hpc : ((s.channels ch).step (.close 1)).openPc = (s.channels ch).openPc :=
      (Lifecycle.openPc_step _ _).resolve_right nofun
    refine ⟨fun hc => ?_, fun hc => ?_, fun _ _ => Or.inr hdestroyed, fun _ hret => ?_⟩
    · rw [channels_stepChannel] at hc
      rcases Lifecycle.closeClaimed_step (s.channels ch) (.close 1) with heq | ⟨hopen, -⟩
      · exact hat.claimed (heq ▸ hc)
      · rw [((hplaced.each ch).destroyed hdestroyed).2.1] at hopen
        cases hopen
    · obtain ⟨hcreated, hret, hstop⟩ := hat.closed hc
      rw [channels_stepChannel]
      refine ⟨hcreated, hpc.trans hret, ?_⟩
      rcases Lifecycle.reorderRunning_step (s.channels ch) (.close 1) with heq | ⟨heq, -⟩
        | ⟨k, -, -, hfalse⟩
      · exact heq.trans hstop
      · cases heq
      · exact hfalse
    · rw [channels_stepChannel] at hret
      exact hat.destroyed hdestroyed (hpc.symm.trans hret)
  · exact (hs ch').calm (by rw [stepChannel, channels_setChannel, if_neg hch]; exact ⟨rfl, rfl, rfl⟩)
      id rfl id Iff.rfl

lemma reordering_step (hs : ∀ ch, Reordering s ch) (hinv : Inv s) (e : Event) (ch : ChannelId) :
    Reordering (step s e) ch := by
  have hsame : Calm (s.channels ch) (s.channels ch) := ⟨rfl, rfl, rfl⟩
  rcases step_cases s e with h | h
  · rw [h]
    exact hs ch
  · generalize step s e = t at h
    cases h with
    | lookStale a vc h =>
      refine (hs ch).calm (calm_stepChannel _ ⟨a.clientId, vc⟩ ch (e := .callClose 0) nofun nofun) id
        rfl (fun hcl => ?_) Iff.rfl
      rw [h] at hcl
      cases hcl
    | close a vc h _ hbusy => exact reordering_close hs hinv.placed h hbusy ch
    | closed a vc h _ hidle => exact reordering_closed hs hinv.placed h hidle ch
    | replace a vc targetSlot h =>
      refine (hs ch).calm (calm_stepChannel s ⟨a.clientId, vc⟩ ch
        (e := .replaceConnection targetSlot) nofun nofun) id rfl (fun hcl => ?_) Iff.rfl
      rw [h] at hcl
      cases hcl
    | create a fds h => exact reordering_create hs hinv.placed h ch
    | openStep a vc h => exact reordering_opening hs hinv.placed h ch
    | opened a vc h =>
      refine (reordering_opening hs hinv.placed h ch).calm ⟨rfl, rfl, rfl⟩ id rfl (fun hcl => ?_)
        Iff.rfl
      have hcl : s.accept.closing? = some ch := hcl
      rw [h] at hcl
      cases hcl
    | death ch' w c =>
      exact (hs ch).calm (calm_stepChannel s ch' ch nofun nofun) id rfl id Iff.rfl
    | callback ch' w =>
      exact (hs ch).calm (calm_stepChannel s ch' ch nofun nofun) id rfl id Iff.rfl
    | cleanup ch' w =>
      obtain ⟨haccept, hnext, hdestroyed, hstale⟩ := s.cleanupStep_frame ch' w
      refine (hs ch).calm (calm_cleanupStep s ch' ch w) (fun hc => ?_) (congrFun hdestroyed ch)
        (fun hcl => haccept ▸ hcl) (by rw [hstale])
      rw [Created, hnext]
      exact hc
    | destroy ch' _ href => exact reordering_destroy hs hinv href ch
    | destructor ch' hdestroyed => exact reordering_destructor hs hinv.placed hdestroyed ch
    | udpExit => exact (hs ch).calm hsame id rfl id Iff.rfl
    | walk a pc pc' h hwalk =>
      refine (hs ch).calm hsame id rfl (fun hcl => ?_) Iff.rfl
      rw [h] at hcl
      cases hwalk with
      | undefined _ hpc =>
        rw [closing_of_usesPeer hpc] at hcl
        cases hcl
      | _ => cases hcl
    | leave a pc h hleaves =>
      refine (hs ch).calm hsame id rfl (fun hcl => ?_) Iff.rfl
      rw [h] at hcl
      cases hleaves <;> cases hcl
    | accepted a h | lookSlot a vc h | removeStale a h | register a vc targetSlot h | addPeer a h
    | addSocket a peer h | buildSlots a vc fds h | setUdp a vc h | udpFailure a vc h =>
      refine (hs ch).calm hsame id rfl (fun hcl => ?_) Iff.rfl
      rw [h] at hcl
      cases hcl

lemma reordering_stateAt (events : ℕ → Event) (n : ℕ) (ch : ChannelId) :
    Reordering (stateAt events n) ch := by
  refine (runState_invariant (P := fun s => Inv s ∧ ∀ ch, Reordering s ch) (Q := fun _ => True)
    ⟨⟨sound_init, placed_init⟩, fun ch => ⟨nofun, nofun, fun h => absurd rfl h, nofun⟩⟩
    (fun s e _ hs => ⟨?_, reordering_step hs.2 hs.1 e⟩) (fun _ => trivial) n).2 ch
  exact ⟨sound_step hs.1.sound e, placed_step hs.1.placed hs.1.sound e⟩

/-- After the disconnect callback of a channel, its IO thread and its send thread have been
told to stop; so has its reorder thread, exactly if the accept loop has closed the channel. -/
theorem noThreadsLeft_iff (events : ℕ → Event) (n : ℕ) (ch : ChannelId) :
    ((stateAt events n).CallbackCompleted ch → (stateAt events n).ThreadsStopped ch)
      ↔ ((stateAt events n).CallbackCompleted ch → ch ∈ (stateAt events n).closedStale) := by
  have hsound := (inv_stateAt events n).sound
  have hreorder := reordering_stateAt events n ch
  generalize stateAt events n = s at *
  refine forall_congr' fun ⟨hnotified, _⟩ => ⟨fun ⟨_, _, hstop⟩ => ?_, fun hstale => ?_⟩
  · have hret := ((hsound.life ch).settled (Or.inr hnotified)).returned
    rcases hreorder.running (by rw [hret]; nofun) hstop with hstale | hdestroyed
    · exact hstale
    · exact hreorder.destroyed hdestroyed hret
  · exact ⟨(hsound.halted ch).io (Or.inr hnotified), (hsound.halted ch).send (Or.inr hnotified),
      (hreorder.closed hstale).2.2⟩

/-- A client without connection ids. -/
def initial (clientSocket : SocketFd) : Accepted := ⟨clientSocket, ⟨0, -1, 0⟩⟩

def firstVc : ChannelId := ⟨0, 0⟩

/-- The client's 32 sockets become a channel. All but one of its connections die before `open()`
returns, and the last one afterwards; the IO thread gets to the disconnect callback. -/
def outage : List Event :=
  ((List.range vcTcpConnections).flatMap fun i =>
      .accepted (initial i) :: List.replicate 5 .accept)
    ++ List.replicate 6 .accept
    ++ ((List.range 31).flatMap fun c => .death firstVc .io c ::
      List.replicate 2 (.disconnectCB firstVc .io))
    ++ [.accept, .accept, .death firstVc .io 31]
    ++ List.replicate 72 (.disconnectCB firstVc .io)

theorem reorder_thread_left :
    ¬ ∀ (events : ℕ → Event) (n : ℕ) (ch : ChannelId),
      (stateAt events n).CallbackCompleted ch → (stateAt events n).ThreadsStopped ch := by
  intro h
  have hrun : (stateAt (listInputs (outage ++ List.replicate 5 (.disconnectCB firstVc .io))
        .accept) 371).CallbackCompleted firstVc
      ∧ ((stateAt (listInputs (outage ++ List.replicate 5 (.disconnectCB firstVc .io))
        .accept) 371).channels firstVc).reorderRunning = true := by
    rw [stateAt, runState_listInputs _ (by decide +kernel)]
    decide +kernel
  have hstopped := (h _ _ _ hrun.1).2.2
  rw [hrun.2] at hstopped
  cases hstopped

end Server
end TcpUdp
