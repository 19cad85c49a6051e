import TcpUdp.Server
import TcpUdp.Shutdown

/-!
# What a step of the server does

Every channel of the server runs the `Lifecycle` machine, and the accept loop, the callbacks
and the destructors are its callers. `Placed` says where they can be: who may be inside
`close()`, which channels have been opened, and that a `disconnectCB` that has begun to count
finds its channel open, unless the accept loop has just closed it and waits for its thread.
-/

namespace TcpUdp
namespace Server

open Lib

variable {s : Server} {e : Event}

/-! ## What a step can do -/

/-- The loop is about to use the address of a `Peer`. -/
def HandlingPc.usesPeer : HandlingPc → Bool
  | .addingSocket | .counting | .gettingSockets | .settingUdp _ => true
  | _ => false

/-- A step of the accept loop from one place to the next that reads at most. -/
inductive Walk (s : Server) (a : Accepted) : HandlingPc → AcceptPc → Prop
  | addPeer : s.tables.vcs a.clientId = none → Walk s a .looking (.handling a .addingPeer)
  | removeStale : Walk s a .checkingStale (.handling a .removingStale)
  | noStale : s.tables.vcs a.clientId = none →
      Walk s a .checkingStale (.handling a .addingPeer)
  | chooseSlot (vc : VcId) (connIdSlot : ℤ) :
      Walk s a (.findingSlot vc) (.handling a (.choosingSlot vc connIdSlot))
  | replace (vc : VcId) (connIdSlot : ℤ) (targetSlot : ℕ) :
      Walk s a (.choosingSlot vc connIdSlot) (.handling a (.replacing vc targetSlot))
  | addSocket : Walk s a .gettingPeer (.handling a .addingSocket)
  | getSockets : Walk s a .counting (.handling a .gettingSockets)
  | create (fds : List SocketFd) : Walk s a .gettingSockets (.handling a (.creating fds))
  | undefined (pc : HandlingPc) : pc.usesPeer = true → Walk s a pc .undefined

/-- The places from which the loop goes back to `accept()`. -/
inductive Leaves : HandlingPc → Prop
  | excess (vc : VcId) (connIdSlot : ℤ) : Leaves (.choosingSlot vc connIdSlot)
  | noPeer : Leaves .gettingPeer
  | tooFew : Leaves .counting

/-- A step that does something. -/
inductive Move (s : Server) : Event → Server → Prop
  | accepted (a : Accepted) : s.accept = .waiting → Move s (.accepted a) (s.goto a .looking)
  | walk (a : Accepted) (pc : HandlingPc) (pc' : AcceptPc) : s.accept = .handling a pc →
      Walk s a pc pc' → Move s .accept { s with accept := pc' }
  | leave (a : Accepted) (pc : HandlingPc) : s.accept = .handling a pc → Leaves pc →
      Move s .accept (s.leave .waiting)
  | lookStale (a : Accepted) (vc : VcId) : s.accept = .handling a .looking →
      s.tables.vcs a.clientId = some vc → Move s .accept
      (({ s with held := [⟨a.clientId, vc⟩] }.stepChannel ⟨a.clientId, vc⟩ (.callClose 0)).goto a
        (.closing vc))
  | lookSlot (a : Accepted) (vc : VcId) : s.accept = .handling a .looking →
      s.tables.vcs a.clientId = some vc →
      Move s .accept ({ s with held := [⟨a.clientId, vc⟩] }.goto a (.findingSlot vc))
  | close (a : Accepted) (vc : VcId) : s.accept = .handling a (.closing vc) →
      Joinable (s.channels ⟨a.clientId, vc⟩) →
      ((s.channels ⟨a.clientId, vc⟩).step (.close 0)).closes 0 ≠ .idle →
      Move s .accept (s.stepChannel ⟨a.clientId, vc⟩ (.close 0))
  | closed (a : Accepted) (vc : VcId) : s.accept = .handling a (.closing vc) →
      Joinable (s.channels ⟨a.clientId, vc⟩) →
      ((s.channels ⟨a.clientId, vc⟩).step (.close 0)).closes 0 = .idle →
      Move s .accept ({ s.stepChannel ⟨a.clientId, vc⟩ (.close 0) with
        closedStale := ⟨a.clientId, vc⟩ :: s.closedStale }.goto a .checkingStale)
  | removeStale (a : Accepted) : s.accept = .handling a .removingStale →
      Move s .accept ((s.setTables (s.tables.removeVc a.clientId)).goto a .addingPeer)
  | replace (a : Accepted) (vc : VcId) (targetSlot : ℕ) :
      s.accept = .handling a (.replacing vc targetSlot) → Move s .accept
        ((s.stepChannel ⟨a.clientId, vc⟩ (.replaceConnection targetSlot)).goto a
          (.registering vc targetSlot))
  | register (a : Accepted) (vc : VcId) (targetSlot : ℕ) :
      s.accept = .handling a (.registering vc targetSlot) →
      Move s .accept (s.register a vc targetSlot)
  | addPeer (a : Accepted) : s.accept = .handling a .addingPeer → Move s .accept (s.addPeer a)
  | addSocket (a : Accepted) (peer : Peer) : s.accept = .handling a .addingSocket →
      s.tables.peers a.clientId = some peer → Move s .accept
        ((s.setTables (s.tables.setPeer a.clientId (peer.addSocket a.clientSocket))).goto a .counting)
  | create (a : Accepted) (fds : List SocketFd) : s.accept = .handling a (.creating fds) →
      Move s .accept (s.create a fds)
  | buildSlots (a : Accepted) (vc : VcId) (fds : List SocketFd) :
      s.accept = .handling a (.buildingSlots vc fds) → Move s .accept (s.buildSlots a vc fds)
  | setUdp (a : Accepted) (vc : VcId) : s.accept = .handling a (.settingUdp vc) →
      Move s .accept ({ s with
        udpThreads := Function.update s.udpThreads ⟨a.clientId, vc⟩ true }.goto a (.opening vc))
  | openStep (a : Accepted) (vc : VcId) : s.accept = .handling a (.opening vc) →
      Move s .accept (s.stepChannel ⟨a.clientId, vc⟩ .opening)
  | opened (a : Accepted) (vc : VcId) : s.accept = .handling a (.opening vc) →
      ((s.channels ⟨a.clientId, vc⟩).step .opening).openPc = .returned →
      Move s .accept ((s.stepChannel ⟨a.clientId, vc⟩ .opening).leave .waiting)
  | udpFailure (a : Accepted) (vc : VcId) : s.accept = .handling a (.settingUdp vc) →
      Move s .udpFailure (s.leave .stopped)
  | death (ch : ChannelId) (w : Worker) (c : ConnId) : s.Created ch →
      Move s (.death ch w c) (s.stepChannel ch (.death w.call c))
  | callback (ch : ChannelId) (w : Worker) : s.Created ch →
      (s.channels ch).callbacks w.call ≠ .inCallback →
      Move s (.disconnectCB ch w) (s.stepChannel ch (.callback w.call))
  | cleanup (ch : ChannelId) (w : Worker) : s.Created ch →
      (s.channels ch).callbacks w.call = .inCallback →
      Move s (.disconnectCB ch w) (s.cleanupStep ch w)
  | udpExit (ch : ChannelId) :
      Move s (.udpExit ch) { s with udpThreads := Function.update s.udpThreads ch false }
  | destroy (ch : ChannelId) : s.Created ch → s.Unreferenced ch → Move s (.destructor ch)
      ({ s with destroyed := Function.update s.destroyed ch true }.stepChannel ch (.callClose 1))
  | destructor (ch : ChannelId) : s.destroyed ch = true →
      Move s (.destructor ch) (s.stepChannel ch (.close 1))

lemma channels_setChannel (s : Server) (ch ch' : ChannelId) (l : Lifecycle) :
    (s.setChannel ch l).channels ch' = if ch' = ch then l else s.channels ch' := rfl

lemma channels_stepChannel (s : Server) (ch : ChannelId) (e : Lifecycle.Event) :
    (s.stepChannel ch e).channels ch = (s.channels ch).step e := if_pos rfl

lemma cleanupStep_frame (s : Server) (ch : ChannelId) (w : Worker) :
    (s.cleanupStep ch w).accept = s.accept ∧ (s.cleanupStep ch w).nextVc = s.nextVc
      ∧ (s.cleanupStep ch w).destroyed = s.destroyed
      ∧ (s.cleanupStep ch w).closedStale = s.closedStale := by
  rw [cleanupStep]
  split <;> exact ⟨rfl, rfl, rfl, rfl⟩

lemma withPeer_cases (s : Server) (a : Accepted) (f : Peer → Server) :
    s.withPeer a f = { s with accept := .undefined }
      ∨ ∃ peer, s.tables.peers a.clientId = some peer ∧ s.withPeer a f = f peer := by
  rw [withPeer]
  cases h : s.tables.peers a.clientId with
  | none => exact Or.inl rfl
  | some peer => exact Or.inr ⟨peer, rfl, rfl⟩

lemma handle_cases {a : Accepted} {pc : HandlingPc} (h : s.accept = .handling a pc) :
    s.handle a pc = s ∨ Move s .accept (s.handle a pc) := by
  have hundefined : pc.usesPeer = true → Move s .accept { s with accept := .undefined } :=
    fun hpc => .walk a pc _ h (.undefined pc hpc)
  cases pc with
  | looking =>
    right
    simp only [handle, look]
    cases hvc : s.tables.vcs a.clientId with
    | none => exact .walk a _ _ h (.addPeer hvc)
    | some vc =>
      split_ifs
      · exact .lookStale a vc h hvc
      · exact .lookSlot a vc h hvc
  | closing vc =>
    simp only [handle, closeStale, channels_stepChannel]
    split_ifs with hjoin hidle
    · exact Or.inr (.closed a vc h hjoin hidle)
    · exact Or.inr (.close a vc h hjoin hidle)
    · exact Or.inl rfl
  | checkingStale =>
    right
    simp only [handle]
    split_ifs with hvc
    · exact .walk a _ _ h .removeStale
    · exact .walk a _ _ h (.noStale (Option.not_isSome_iff_eq_none.mp hvc))
  | removingStale => exact Or.inr (.removeStale a h)
  | findingSlot vc => exact Or.inr (.walk a _ _ h (.chooseSlot vc _))
  | choosingSlot vc connIdSlot =>
    simp only [handle, chooseSlot]
    split_ifs
    · exact Or.inr (.leave a _ h (.excess vc connIdSlot))
    · exact Or.inr (.walk a _ _ h (.replace vc connIdSlot _))
    · exact Or.inl rfl
  | replacing vc targetSlot =>
    simp only [handle, replace]
    split_ifs
    · exact Or.inr (.replace a vc targetSlot h)
    · exact Or.inl rfl
  | registering vc targetSlot => exact Or.inr (.register a vc targetSlot h)
  | addingPeer => exact Or.inr (.addPeer a h)
  | gettingPeer =>
    right
    simp only [handle]
    split_ifs
    · exact .walk a _ _ h .addSocket
    · exact .leave a _ h .noPeer
  | addingSocket =>
    right
    rcases withPeer_cases s a _ with heq | ⟨peer, hpeer, heq⟩
    · rw [handle, heq]
      exact hundefined rfl
    · rw [handle, heq]
      exact .addSocket a peer h hpeer
  | counting =>
    right
    rcases withPeer_cases s a _ with heq | ⟨peer, -, heq⟩
    · rw [handle, heq]
      exact hundefined rfl
    · rw [handle, heq]
      split_ifs
      · exact .walk a _ _ h .getSockets
      · exact .leave a _ h .tooFew
  | gettingSockets =>
    right
    rcases withPeer_cases s a _ with heq | ⟨peer, -, heq⟩
    · rw [handle, heq]
      exact hundefined rfl
    · rw [handle, heq]
      exact .walk a _ _ h (.create _)
  | creating fds => exact Or.inr (.create a fds h)
  | buildingSlots vc fds => exact Or.inr (.buildSlots a vc fds h)
  | settingUdp vc =>
    right
    rcases withPeer_cases s a _ with heq | ⟨peer, -, heq⟩
    · rw [handle, setUdp, heq]
      exact hundefined rfl
    · rw [handle, setUdp, heq]
      exact .setUdp a vc h
  | opening vc =>
    right
    simp only [handle, openVc, channels_stepChannel]
    split_ifs with hret
    · exact .opened a vc h hret
    · exact .openStep a vc h

theorem step_cases (s : Server) (e : Event) : step s e = s ∨ Move s e (step s e) := by
  cases e with
  | accepted a =>
    simp only [step]
    split_ifs with h
    · exact Or.inr (.accepted a h)
    · exact Or.inl rfl
  | accept =>
    simp only [step, acceptStep]
    cases h : s.accept with
    | handling a pc => exact handle_cases h
    | _ => exact Or.inl rfl
  | udpFailure =>
    simp only [step, udpFailure]
    split
    · exact Or.inr (.udpFailure _ _ ‹_›)
    · exact Or.inl rfl
  | death ch w c =>
    simp only [step]
    split_ifs with h
    · exact Or.inr (.death ch w c h.1)
    · exact Or.inl rfl
  | disconnectCB ch w =>
    simp only [step, disconnectCB]
    split_ifs with hcreated hin
    · exact Or.inr (.cleanup ch w hcreated hin)
    · exact Or.inr (.callback ch w hcreated hin)
    · exact Or.inl rfl
  | udpExit ch => exact Or.inr (.udpExit ch)
  | destructor ch =>
    simp only [step, destructor]
    split_ifs with hcreated hdestroyed href
    · exact Or.inr (.destructor ch hdestroyed)
    · exact Or.inr (.destroy ch hcreated href)
    · exact Or.inl rfl
    · exact Or.inl rfl

/-! ## The channels -/

lemma Worker.call_lt (w : Worker) : w.call < 2 := by cases w <;> decide

/-- What a step does to a channel. -/
inductive ChannelMove (s : Server) (ch : ChannelId) : Lifecycle → Prop
  | same : ChannelMove s ch (s.channels ch)
  | step (e : Lifecycle.Event) : (∀ k c, e = .death k c → k < 2) →
      ChannelMove s ch ((s.channels ch).step e)
  | create (numConns : ℕ) : ¬ s.Created ch → ChannelMove s ch (.init numConns true)

lemma channelMove_stepChannel (s : Server) (ch ch' : ChannelId) {e : Lifecycle.Event}
    (he : ∀ k c, e = .death k c → k < 2) :
    ChannelMove s ch' ((s.stepChannel ch e).channels ch') := by
  rw [stepChannel, channels_setChannel]
  split_ifs with h
  · rw [h]
    exact .step e he
  · exact .same

lemma channelMove_cleanupStep (s : Server) (ch ch' : ChannelId) (w : Worker) :
    ChannelMove s ch' ((s.cleanupStep ch w).channels ch') := by
  rw [cleanupStep]
  split
  · exact .same
  · exact .same
  · exact .same
  · exact .same
  · exact channelMove_stepChannel s ch ch' (e := .callback w.call) nofun

lemma channelMove_step (s : Server) (e : Event) (ch : ChannelId) :
    ChannelMove s ch ((step s e).channels ch) := by
  rcases step_cases s e with h | h
  · rw [h]
    exact .same
  · generalize step s e = t at h
    cases h with
    | lookStale a vc => exact channelMove_stepChannel s ⟨a.clientId, vc⟩ ch (e := .callClose 0) nofun
    | close a vc | closed a vc | replace a vc | openStep a vc | opened a vc =>
      exact channelMove_stepChannel s ⟨a.clientId, vc⟩ ch nofun
    | death ch' w c =>
      refine channelMove_stepChannel s ch' ch fun k c' h => ?_
      cases h
      exact w.call_lt
    | callback ch' w => exact channelMove_stepChannel s ch' ch nofun
    | cleanup ch' w => exact channelMove_cleanupStep s ch' ch w
    | destroy ch' => exact channelMove_stepChannel s ch' ch (e := .callClose 1) nofun
    | destructor ch' => exact channelMove_stepChannel s ch' ch nofun
    | create a fds =>
      show ChannelMove s ch (if ch = _ then _ else s.channels ch)
      split_ifs with hch
      · refine .create fds.length ?_
        rw [hch]
        exact Nat.lt_irrefl _
      · exact .same
    | _ => exact .same

structure Sound (s : Server) : Prop where
  life : ∀ ch, (s.channels ch).Inv
  halted : ∀ ch, (s.channels ch).Halted
  /-- The calls of `disconnectCB` are those of the two workers. -/
  calls : ∀ ch k, 2 ≤ k → (s.channels ch).callbacks k = .idle

lemma sound_init : Sound {} where
  life _ := Lifecycle.inv_init 0 true
  halted _ := Lifecycle.halted_init 0 true
  calls _ _ _ := rfl

lemma sound_step (hs : Sound s) (e : Event) : Sound (step s e) := by
  refine ⟨fun ch => ?_, fun ch => ?_, fun ch k hk => ?_⟩
  all_goals
    have hmove := channelMove_step s e ch
    generalize (step s e).channels ch = l at hmove
  · cases hmove with
    | same => exact hs.life ch
    | step e' => exact Lifecycle.inv_step (hs.life ch) e'
    | create numConns => exact Lifecycle.inv_init numConns true
  · cases hmove with
    | same => exact hs.halted ch
    | step e' => exact Lifecycle.halted_step (hs.halted ch) (hs.life ch) e'
    | create numConns => exact Lifecycle.halted_init numConns true
  · cases hmove with
    | same => exact hs.calls ch k hk
    | step e' hcall =>
      rcases Lifecycle.callbacks_step (s.channels ch) e' k with heq | ⟨c, rfl⟩ | rfl
      · exact heq.trans (hs.calls ch k hk)
      · exact absurd (hcall k c rfl) (Nat.not_lt.mpr hk)
      · -- an idle call stays idle
        simp only [Lifecycle.step, Lifecycle.callbackStep, hs.calls ch k hk]
    | create => rfl

/-! ## Where the accept loop is -/

namespace AcceptPc

/-- The channel that was created in this iteration. -/
def building? : AcceptPc → Option ChannelId
  | handling a (.buildingSlots vc _) | handling a (.settingUdp vc) | handling a (.opening vc) =>
    some ⟨a.clientId, vc⟩
  | _ => none

/-- The channel that the loop is closing. -/
def closing? : AcceptPc → Option ChannelId
  | handling a (.closing vc) => some ⟨a.clientId, vc⟩
  | _ => none

/-- The loop takes no more steps. -/
def ended : AcceptPc → Bool
  | undefined | stopped => true
  | _ => false

end AcceptPc

lemma closing_of_usesPeer {pc : HandlingPc} (h : pc.usesPeer = true) (a : Accepted) :
    (AcceptPc.handling a pc).closing? = none := by
  cases pc <;> first | rfl | cases h

/-- The loop waits for a thread of the channel; the others have been joined. -/
def Joining (l : Lifecycle) (k : ℕ) : Prop :=
  l.closes 0 = .stoppingSend ∨ l.closes 0 = .stoppingIo ∧ k = Worker.io.call

structure PlacedAt (s : Server) (ch : ChannelId) : Prop where
  returned : s.Created ch → (s.channels ch).openPc = .returned
    ∨ s.accept.building? = some ch ∨ s.accept.ended = true
  building : s.accept.building? = some ch → s.Created ch ∧ ch ∈ s.held
  closing : s.accept.closing? = some ch → s.Created ch ∧ ch ∈ s.held
    ∧ (s.channels ch).openPc = .returned ∧ (s.channels ch).closes 0 ≠ .idle
    ∧ ((s.channels ch).closes 0 = .exchanging ∨ (s.channels ch).opened = false)
  closes : ∀ k, (s.channels ch).closes k ≠ .idle →
    k = 0 ∧ s.accept.closing? = some ch ∨ k = 1 ∧ s.destroyed ch = true
  destroyed : s.destroyed ch = true → s.Created ch ∧ (s.channels ch).opened = false
    ∧ s.tables.vcs ch.clientId ≠ some ch.vc ∧ s.accept.building? ≠ some ch
    ∧ s.accept.closing? ≠ some ch
  deciding : ∀ k, ((s.channels ch).callbacks k).deciding = true →
    (s.channels ch).opened = true ∨ s.accept.closing? = some ch ∧ Joining (s.channels ch) k

structure Placed (s : Server) : Prop where
  newest : ∀ c v, s.tables.vcs c = some v → v + 1 = s.nextVc c
  each : ∀ ch, PlacedAt s ch

lemma placed_init : Placed {} where
  newest := nofun
  each _ := ⟨fun h => absurd h (Nat.not_lt_zero _), nofun, nofun, fun _ h => absurd rfl h, nofun,
    nofun⟩

/-- A step that does not touch the channel, or take the loop to it. -/
lemma PlacedAt.congr {ch : ChannelId} (hs : PlacedAt s ch) {s' : Server}
    (hchannels : s'.channels ch = s.channels ch) (hcreated : s'.Created ch ↔ s.Created ch)
    (hdestroyed : s'.destroyed ch = s.destroyed ch)
    (hvcs : s'.tables.vcs ch.clientId = some ch.vc → s.tables.vcs ch.clientId = some ch.vc)
    (hclosing : s'.accept.closing? = some ch ↔ s.accept.closing? = some ch)
    (hbuilding : s'.accept.building? = some ch → s.accept.building? = some ch)
    (hended : s.accept.building? = some ch ∨ s.accept.ended = true →
      s'.accept.building? = some ch ∨ s'.accept.ended = true)
    (hheld : s'.accept.building? = some ch ∨ s'.accept.closing? = some ch → ch ∈ s.held →
      ch ∈ s'.held) : PlacedAt s' ch := by
  refine ⟨fun h => ?_, fun h => ?_, fun h => ?_, fun k h => ?_, fun h => ?_, fun k h => ?_⟩
  · rw [hchannels]
    exact (hs.returned (hcreated.mp h)).imp_right hended
  · obtain ⟨hc, hin⟩ := hs.building (hbuilding h)
    exact ⟨hcreated.mpr hc, hheld (Or.inl h) hin⟩
  · obtain ⟨hc, hin, hrest⟩ := hs.closing (hclosing.mp h)
    rw [hchannels]
    exact ⟨hcreated.mpr hc, hheld (Or.inr h) hin, hrest⟩
  · rw [hchannels] at h
    rw [hclosing, hdestroyed]
    exact hs.closes k h
  · rw [hdestroyed] at h
    obtain ⟨hc, hopen, hvc, hb, hcl⟩ := hs.destroyed h
    rw [hchannels]
    exact ⟨hcreated.mpr hc, hopen, fun h => hvc (hvcs h), fun h => hb (hbuilding h),
      fun h => hcl (hclosing.mp h)⟩
  · rw [hchannels] at h ⊢
    rw [hclosing]
    exact hs.deciding k h

/-- A step that touches no channel. -/
lemma Placed.quiet (hs : Placed s) {s' : Server} (hchannels : s'.channels = s.channels)
    (hnext : s'.nextVc = s.nextVc) (hdestroyed : s'.destroyed = s.destroyed)
    (hvcs : ∀ c v, s'.tables.vcs c = some v → s.tables.vcs c = some v)
    (hclosing : s'.accept.closing? = s.accept.closing?)
    (hbuilding : s'.accept.building? = s.accept.building?
        ∧ (s.accept.ended = true → s'.accept.ended = true)
      ∨ s'.accept.building? = none ∧ s'.accept.ended = true)
    (hheld : s'.held = s.held ∨ s'.accept.building? = none ∧ s'.accept.closing? = none) :
    Placed s' where
  newest c v h := by
    rw [hnext]
    exact hs.newest c v (hvcs c v h)
  each ch := by
    refine (hs.each ch).congr (congrFun hchannels ch) ?_ (congrFun hdestroyed ch) (hvcs _ _) ?_
      (fun h => ?_) (fun h => ?_) fun h hin => ?_
    · rw [Created, Created, hnext]
    · rw [hclosing]
    · rcases hbuilding with ⟨heq, -⟩ | ⟨hnone, -⟩
      · exact heq ▸ h
      · rw [hnone] at h
        cases h
    · rcases hbuilding with ⟨heq, hkeep⟩ | ⟨-, hend⟩
      · rw [heq]
        exact h.imp_right hkeep
      · exact Or.inr hend
    · rcases hheld with heq | ⟨hb, hcl⟩
      · rw [heq]
        exact hin
      · rw [hb, hcl] at h
        rcases h with h | h <;> cases h

/-- A step of a worker. -/
lemma Placed.worker (hs : Placed s) {ch : ChannelId} (hinv : (s.channels ch).Inv)
    {e : Lifecycle.Event} (hopening : e ≠ .opening) (hcall : ∀ k, e ≠ .callClose k)
    (hclose : ∀ k, e ≠ .close k) : Placed (s.stepChannel ch e) where
  newest := hs.newest
  each ch' := by
    have hat := hs.each ch'
    by_cases hch : ch' = ch
    · rw [hch] at hat ⊢
      have hcloses : ∀ k, ((s.channels ch).step e).closes k = (s.channels ch).closes k := by
        intro k
        rcases Lifecycle.closes_step (s.channels ch) e k with h | h | h
        · exact h
        · exact absurd h (hcall k)
        · exact absurd h (hclose k)
      have hpc : ((s.channels ch).step e).openPc = (s.channels ch).openPc :=
        (Lifecycle.openPc_step _ e).resolve_right hopening
      have hopened : (s.channels ch).opened = false → ((s.channels ch).step e).opened = false := by
        intro h
        rw [Bool.eq_false_iff]
        intro hopen
        rcases Lifecycle.opened_of_step hopen with hopen | ⟨h, -⟩
        · rw [h] at hopen
          cases hopen
        · exact hopening h
      refine ⟨fun h => ?_, hat.building, fun h => ?_, fun k h => ?_, fun h => ?_, fun k h => ?_⟩
      · rw [channels_stepChannel, hpc]
        exact hat.returned h
      · obtain ⟨hc, hin, hret, hbusy, hex⟩ := hat.closing h
        rw [channels_stepChannel, hpc, hcloses]
        exact ⟨hc, hin, hret, hbusy, hex.imp_right hopened⟩
      · rw [channels_stepChannel, hcloses] at h
        exact hat.closes k h
      · obtain ⟨hc, hopen, hrest⟩ := hat.destroyed h
        rw [channels_stepChannel]
        exact ⟨hc, hopened hopen, hrest⟩
      · rw [channels_stepChannel] at h ⊢
        have hbefore : (s.channels ch).opened = true
            ∨ s.accept.closing? = some ch ∧ Joining (s.channels ch) k := by
          rcases Lifecycle.deciding_step h with hk | hopen
          · exact hat.deciding k hk
          · exact Or.inl hopen
        rcases hbefore with hopen | ⟨hcl, hjoin⟩
        · rcases Lifecycle.opened_of_deciding hinv.guarded hopen h with hopen | ⟨⟨k', heq, -⟩, -⟩
          · exact Or.inl hopen
          · exact absurd heq (hclose k')
        · refine Or.inr ⟨hcl, ?_⟩
          rw [Joining, hcloses]
          exact hjoin
    · exact hat.congr (if_neg hch) Iff.rfl rfl id Iff.rfl id id fun _ h => h

/-- A channel that was just created. -/
lemma Placed.create (hs : Placed s) {a : Accepted} {fds : List SocketFd}
    (h : s.accept = .handling a (.creating fds)) : Placed (s.create a fds) where
  newest c v hv := by
    have hv : Function.update s.tables.vcs a.clientId (some (s.nextVc a.clientId)) c = some v := hv
    show v + 1 = Function.update s.nextVc a.clientId (s.nextVc a.clientId + 1) c
    rw [Function.update_apply] at hv ⊢
    split_ifs at hv ⊢
    · rw [Option.some.inj hv]
    · exact hs.newest c v hv
  each ch := by
    have hb : s.accept.building? = none := by rw [h]; rfl
    have hcl : s.accept.closing? = none := by rw [h]; rfl
    have hend : s.accept.ended = false := by rw [h]; rfl
    have hnext : (s.create a fds).nextVc ch.clientId
        = if ch.clientId = a.clientId then s.nextVc a.clientId + 1 else s.nextVc ch.clientId :=
      Function.update_apply ..
    have hat := hs.each ch
    by_cases hch : ch = ⟨a.clientId, s.nextVc a.clientId⟩
    · have hnew : ¬ s.Created ch := by
        rw [hch]
        exact Nat.lt_irrefl _
      have hinit : (s.create a fds).channels ch = .init fds.length true := if_pos hch
      have hdestroyed : s.destroyed ch ≠ true := fun hd => hnew (hat.destroyed hd).1
      refine ⟨fun _ => Or.inr (Or.inl (by rw [hch]; rfl)), fun _ => ⟨?_, ?_⟩, nofun, fun k hk => ?_,
        fun hd => absurd hd hdestroyed, fun k hk => ?_⟩
      · rw [Created, hnext, hch]
        simp
      · rw [hch]
        exact List.mem_cons_self ..
      · rw [hinit] at hk
        exact absurd rfl hk
      · rw [hinit] at hk
        cases hk
    · have hcreated : (s.create a fds).Created ch ↔ s.Created ch := by
        rw [Created, Created, hnext]
        split_ifs with hc
        · have hne : ch.vc ≠ s.nextVc a.clientId := fun hv => hch (by
            cases ch
            cases hc
            cases hv
            rfl)
          rw [hc, Nat.lt_succ_iff_lt_or_eq, or_iff_left hne]
        · rfl
      refine hat.congr (if_neg hch) hcreated rfl (fun hv => ?_) ?_ (fun hbuild => ?_) (fun hret => ?_)
        fun _ hin => List.mem_cons_of_mem _ hin
      · have hv : Function.update s.tables.vcs a.clientId (some (s.nextVc a.clientId)) ch.clientId
          = some ch.vc := hv
        rw [Function.update_apply] at hv
        split_ifs at hv with hc
        · refine absurd ?_ hch
          cases ch
          cases hc
          cases hv
          rfl
        · exact hv
      · rw [hcl]
        exact iff_of_false nofun nofun
      · exact absurd (Option.some.inj hbuild).symm hch
      · rw [hb, hend] at hret
        rcases hret with hret | hret <;> cases hret

/-- A step of `open()`, on a channel that the loop has just created. -/
lemma Placed.opening (hs : Placed s) {a : Accepted} {vc : VcId}
    (h : s.accept = .handling a (.opening vc)) : Placed (s.stepChannel ⟨a.clientId, vc⟩ .opening) where
  newest := hs.newest
  each ch := by
    have hb : s.accept.building? = some ⟨a.clientId, vc⟩ := by rw [h]; rfl
    have hcl : s.accept.closing? = none := by rw [h]; rfl
    have hat := hs.each ch
    by_cases hch : ch = ⟨a.clientId, vc⟩
    · rw [hch] at hat ⊢
      refine ⟨fun _ => Or.inr (Or.inl hb), hat.building, fun hc => ?_, fun k hk => ?_, fun hd => ?_,
        fun k hk => ?_⟩
      · have hc : s.accept.closing? = _ := hc
        rw [hcl] at hc
        cases hc
      · rw [channels_stepChannel] at hk
        rcases Lifecycle.closes_step (s.channels ⟨a.clientId, vc⟩) .opening k with heq | heq | heq
        · exact hat.closes k (heq ▸ hk)
        · cases heq
        · cases heq
      · exact absurd hb (hat.destroyed hd).2.2.2.1
      · left
        rw [channels_stepChannel] at hk ⊢
        have hopen : (s.channels ⟨a.clientId, vc⟩).opened = true := by
          rcases Lifecycle.deciding_step hk with hk | hopen
          · rcases hat.deciding k hk with hopen | ⟨hc, -⟩
            · exact hopen
            · rw [hcl] at hc
              cases hc
          · exact hopen
        rcases Lifecycle.opened_step hopen .opening with h | ⟨k', heq, -⟩ | ⟨⟨k', heq, -⟩, -⟩
        · exact h
        · cases heq
        · cases heq
    · exact hat.congr (if_neg hch) Iff.rfl rfl id Iff.rfl id id fun _ h => h

/-- `open()` returns. -/
lemma Placed.opened (hs : Placed s) {a : Accepted} {vc : VcId}
    (h : s.accept = .handling a (.opening vc))
    (hret : ((s.channels ⟨a.clientId, vc⟩).step .opening).openPc = .returned) :
    Placed ((s.stepChannel ⟨a.clientId, vc⟩ .opening).leave .waiting) where
  newest := hs.newest
  each ch := by
    have hb : s.accept.building? = some ⟨a.clientId, vc⟩ := by rw [h]; rfl
    have hcl : s.accept.closing? = none := by rw [h]; rfl
    have hend : s.accept.ended = false := by rw [h]; rfl
    have hat := (hs.opening h).each ch
    refine ⟨fun hc => Or.inl ?_, nofun, nofun, fun k hk => ?_, fun hd => ?_, fun k hk => ?_⟩
    · by_cases hch : ch = ⟨a.clientId, vc⟩
      · rw [hch]
        exact (congrArg Lifecycle.openPc (channels_stepChannel ..)).trans hret
      · rcases hat.returned hc with h | h | h
        · exact h
        · exact absurd (Option.some.inj (h.symm.trans hb)) hch
        · exact absurd (h.symm.trans hend) nofun
    · rcases hat.closes k hk with ⟨-, h⟩ | h
      · exact absurd (h.symm.trans hcl) nofun
      · exact Or.inr h
    · obtain ⟨hc, hopen, hvc, -⟩ := hat.destroyed hd
      exact ⟨hc, hopen, hvc, nofun, nofun⟩
    · rcases hat.deciding k hk with hopen | ⟨h, -⟩
      · exact Or.inl hopen
      · exact absurd (h.symm.trans hcl) nofun

/-! ## `close()` -/

/-- A step of the loop's `close()`: the channel is closed, and only a call that the loop still
waits for can be deciding. -/
lemma PlacedAt.close {ch : ChannelId} (hat : PlacedAt s ch) (hsound : Sound s)
    (h : s.accept.closing? = some ch) (hjoin : Joinable (s.channels ch)) :
    ((s.channels ch).step (.close 0)).openPc = .returned
      ∧ ((s.channels ch).step (.close 0)).opened = false
      ∧ ∀ k, (((s.channels ch).step (.close 0)).callbacks k).deciding = true →
        Joining ((s.channels ch).step (.close 0)) k := by
  obtain ⟨-, -, hret, hbusy, hex⟩ := hat.closing h
  have hdeciding := hat.deciding
  have hcalls := hsound.calls ch
  generalize s.channels ch = l at *
  have hidle : ∀ {k}, (l.callbacks k).deciding = true → l.callbacks k ≠ .idle := by
    intro k hk hidle
    rw [hidle] at hk
    cases hk
  refine ⟨Lifecycle.returned_step hret _, ?_, fun k hk => ?_⟩
  · rcases hex with hex | hopen
    · simp only [Lifecycle.step, Lifecycle.closeStep, hex]
      rfl
    · exact Lifecycle.closed_step hret hopen _
  · have hk : (l.callbacks k).deciding = true := by
      rcases Lifecycle.callbacks_step l (.close 0) k with heq | ⟨c, heq⟩ | heq
      · exact heq ▸ hk
      · cases heq
      · cases heq
    have hbefore := hdeciding k hk
    simp only [Lifecycle.step, Lifecycle.closeStep]
    cases hpc : l.closes 0 with
    | idle => exact absurd hpc hbusy
    | exchanging =>
      -- the exchange finds the channel open, as the call that decides has
      have hopen : l.opened = true := by
        rcases hbefore with hopen | ⟨-, hj | ⟨hj, -⟩⟩
        · exact hopen
        · rw [hpc] at hj
          cases hj
        · rw [hpc] at hj
          cases hj
      left
      rw [Lifecycle.closes_setClose, if_pos rfl, hopen]
      rfl
    | stoppingSend =>
      refine Or.inr ⟨?_, ?_⟩
      · rw [Lifecycle.closes_setClose, if_pos rfl]
      · have hsend : k ≠ Worker.send.call := fun heq => hidle hk (heq ▸ hjoin.1 hpc)
        have hlt : k < 2 := Nat.lt_of_not_le fun hle => hidle hk (hcalls k hle)
        show k = 0
        have hne : k ≠ 1 := hsend
        omega
    | stoppingIo =>
      exfalso
      rcases hbefore with hopen | ⟨-, hj | ⟨-, rfl⟩⟩
      · rcases hex with hex | hclosed
        · rw [hpc] at hex
          cases hex
        · rw [hopen] at hclosed
          cases hclosed
      · rw [hpc] at hj
        cases hj
      · exact hidle hk (hjoin.2 hpc)
    | disconnecting | stoppingReorder =>
      exfalso
      rcases hbefore with hopen | ⟨-, hj | ⟨hj, -⟩⟩
      · rcases hex with hex | hclosed
        · rw [hpc] at hex
          cases hex
        · rw [hopen] at hclosed
          cases hclosed
      · rw [hpc] at hj
        cases hj
      · rw [hpc] at hj
        cases hj

/-- `close()` of the loop goes on, or returns. -/
lemma Placed.close (hs : Placed s) (hsound : Sound s) {a : Accepted} {vc : VcId}
    (h : s.accept = .handling a (.closing vc)) (hjoin : Joinable (s.channels ⟨a.clientId, vc⟩))
    {s' : Server} (hchannels : s'.channels = (s.stepChannel ⟨a.clientId, vc⟩ (.close 0)).channels)
    (hnext : s'.nextVc = s.nextVc) (hdestroyed : s'.destroyed = s.destroyed)
    (hvcs : s'.tables.vcs = s.tables.vcs) (hheld : s'.held = s.held)
    (hbuilding : s'.accept.building? = none) (hclosing : s'.accept.closing?
      = if ((s.channels ⟨a.clientId, vc⟩).step (.close 0)).closes 0 = .idle then none
        else some ⟨a.clientId, vc⟩) : Placed s' where
  newest c v hv := by
    rw [hnext]
    exact hs.newest c v (hvcs ▸ hv)
  each ch := by
    have hcl : s.accept.closing? = some ⟨a.clientId, vc⟩ := by rw [h]; rfl
    have hb : s.accept.building? = none := by rw [h]; rfl
    have hend : s.accept.ended = false := by rw [h]; rfl
    have hat := hs.each ch
    have hcreated : s'.Created ch ↔ s.Created ch := by rw [Created, Created, hnext]
    by_cases hch : ch = ⟨a.clientId, vc⟩
    · have hclose := hat.close hsound (hcl.trans (congrArg some hch.symm)) (hch ▸ hjoin)
      obtain ⟨hc, hin, hrest⟩ := hat.closing (hcl.trans (congrArg some hch.symm))
      have hl : s'.channels ch = (s.channels ch).step (.close 0) := by
        rw [hchannels, hch]
        exact channels_stepChannel ..
      have hcloses : ∀ k, k ≠ 0 → (s'.channels ch).closes k = (s.channels ch).closes k := by
        intro k hk
        rw [hl]
        rcases Lifecycle.closes_step (s.channels ch) (.close 0) k with heq | heq | heq
        · exact heq
        · cases heq
        · cases heq
          exact absurd rfl hk
      rw [← hch, ← hl] at hclosing
      rw [← hl] at hclose
      obtain ⟨hret, hopen, hdeciding⟩ := hclose
      refine ⟨fun _ => Or.inl hret, fun hbuild => ?_, fun hcl' => ?_, fun k hk => ?_, fun hd => ?_,
        fun k hk => ?_⟩
      · rw [hbuilding] at hbuild
        cases hbuild
      · refine ⟨hcreated.mpr hc, hheld ▸ hin, hret, fun hidle => ?_, Or.inr hopen⟩
        rw [hclosing, if_pos hidle] at hcl'
        cases hcl'
      · by_cases hk0 : k = 0
        · refine Or.inl ⟨hk0, ?_⟩
          rw [hclosing, if_neg (hk0 ▸ hk)]
        · rw [hcloses k hk0] at hk
          rw [hdestroyed]
          exact (hat.closes k hk).imp_left fun h => absurd h.1 hk0
      · rw [hdestroyed] at hd
        exact absurd (hcl.trans (congrArg some hch.symm)) (hat.destroyed hd).2.2.2.2
      · have hj := hdeciding k hk
        refine Or.inr ⟨?_, hj⟩
        rw [hclosing, if_neg]
        intro hidle
        rcases hj with hj | ⟨hj, -⟩
        · rw [hidle] at hj
          cases hj
        · rw [hidle] at hj
          cases hj
    · have hne : s.accept.closing? ≠ some ch := by
        rw [hcl]
        exact fun heq => hch (Option.some.inj heq).symm
      have hne' : s'.accept.closing? ≠ some ch := by
        rw [hclosing]
        split_ifs
        · nofun
        · exact fun heq => hch (Option.some.inj heq).symm
      refine hat.congr ?_ hcreated (congrFun hdestroyed ch) (fun hv => hvcs ▸ hv)
        (iff_of_false hne' hne) (fun hbuild => ?_) (fun hret => ?_) fun _ hin => hheld ▸ hin
      · rw [hchannels]
        exact if_neg hch
      · rw [hbuilding] at hbuild
        cases hbuild
      · rw [hb, hend] at hret
        rcases hret with hret | hret <;> cases hret

lemma Placed.lookStale (hs : Placed s) {a : Accepted} {vc : VcId}
    (h : s.accept = .handling a .looking) (hvc : s.tables.vcs a.clientId = some vc) :
    Placed (({ s with held := [⟨a.clientId, vc⟩] }.stepChannel ⟨a.clientId, vc⟩ (.callClose 0)).goto a
      (.closing vc)) where
  newest := hs.newest
  each ch := by
    have hb : s.accept.building? = none := by rw [h]; rfl
    have hcl : s.accept.closing? = none := by rw [h]; rfl
    have hend : s.accept.ended = false := by rw [h]; rfl
    have hat := hs.each ch
    by_cases hch : ch = ⟨a.clientId, vc⟩
    · have hcreated : s.Created ch := by
        rw [Created, hch, ← hs.newest a.clientId vc hvc]
        exact Nat.lt_succ_self vc
      have hidle : (s.channels ch).closes 0 = .idle := by
        by_contra hbusy
        rcases hat.closes 0 hbusy with ⟨-, hc⟩ | ⟨hk, -⟩
        · rw [hcl] at hc
          cases hc
        · cases hk
      have hret : (s.channels ch).openPc = .returned := by
        rcases hat.returned hcreated with hret | hret | hret
        · exact hret
        · rw [hb] at hret
          cases hret
        · rw [hend] at hret
          cases hret
      have hl : (({ s with held := [⟨a.clientId, vc⟩] }.stepChannel ⟨a.clientId, vc⟩
          (.callClose 0)).goto a (.closing vc)).channels ch
          = { s.channels ch with closeCalled := true }.setClose 0 .exchanging := by
        rw [hch] at hidle ⊢
        show (if _ then (s.channels ⟨a.clientId, vc⟩).callClose 0 else _) = _
        rw [if_pos rfl, Lifecycle.callClose, if_pos hidle]
      refine ⟨fun _ => Or.inl ?_, (fun h => by cases h), fun _ => ?_, fun k hk => ?_, fun hd => ?_,
        fun k hk => ?_⟩
      · rw [hl]
        exact hret
      · rw [hl, Lifecycle.closes_setClose, if_pos rfl]
        refine ⟨hcreated, ?_, hret, (fun h => by cases h), Or.inl rfl⟩
        rw [hch]
        exact List.mem_singleton.mpr rfl
      · rw [hl, Lifecycle.closes_setClose] at hk
        split_ifs at hk with hk0
        · exact Or.inl ⟨hk0, congrArg some hch.symm⟩
        · exact (hat.closes k hk).imp_left fun hand => absurd hand.1 hk0
      · exact absurd (by rw [hch]; exact hvc) (hat.destroyed hd).2.2.1
      · rw [hl] at hk ⊢
        rcases hat.deciding k hk with hopen | ⟨hc, -⟩
        · exact Or.inl hopen
        · rw [hcl] at hc
          cases hc
    · refine hat.congr (if_neg hch) Iff.rfl rfl id (iff_of_false ?_ ?_) (fun h => by cases h)
        (fun hret => ?_) fun hor _ => ?_
      · exact fun heq => hch (Option.some.inj heq).symm
      · rw [hcl]
        exact fun h => by cases h
      · rw [hb, hend] at hret
        rcases hret with hret | hret <;> cases hret
      · rcases hor with heq | heq
        · cases heq
        · exact absurd (Option.some.inj heq).symm hch

/-! ## The destructor -/

/-- A channel that nothing refers to has been closed, or has never been opened. -/
lemma closed_of_unreferenced (hsound : Sound s) {ch : ChannelId} (href : s.Unreferenced ch) :
    (s.channels ch).opened = false := by
  rw [Bool.eq_false_iff]
  intro hopen
  have hclaims := (hsound.life ch).claims
  refine (hsound.halted ch).ioThread ?_ (hclaims.not_stored hopen).2.2 href.2.2.2.1
  rw [hclaims.opened hopen]
  rfl

/-- The destructor changes no call of `disconnectCB`, and its calls of `close()` are its own. -/
lemma PlacedAt.destructor {ch : ChannelId} (hat : PlacedAt s ch) (hopen : (s.channels ch).opened = false)
    (hb : s.accept.building? ≠ some ch) (hcl : s.accept.closing? ≠ some ch)
    (hc : s.Created ch) (hvc : s.tables.vcs ch.clientId ≠ some ch.vc) {s' : Server}
    (hchannels : ∃ e, (e = .callClose 1 ∨ e = .close 1) ∧ s'.channels ch = (s.channels ch).step e)
    (hnext : s'.nextVc = s.nextVc) (hdestroyed : s'.destroyed ch = true)
    (hvcs : s'.tables.vcs = s.tables.vcs) (haccept : s'.accept = s.accept) : PlacedAt s' ch := by
  obtain ⟨e, he, hl⟩ := hchannels
  have hpc : (s'.channels ch).openPc = (s.channels ch).openPc := by
    rw [hl]
    rcases Lifecycle.openPc_step (s.channels ch) e with heq | heq
    · exact heq
    · rcases he with he | he <;> (rw [he] at heq; cases heq)
  have hopened : (s'.channels ch).opened = false := by
    rw [hl, Bool.eq_false_iff]
    intro hopened
    rcases Lifecycle.opened_of_step hopened with h | ⟨heq, -⟩
    · rw [hopen] at h
      cases h
    · rcases he with he | he <;> (rw [he] at heq; cases heq)
  have hcallbacks : ∀ k, (s'.channels ch).callbacks k = (s.channels ch).callbacks k := by
    intro k
    rw [hl]
    rcases Lifecycle.callbacks_step (s.channels ch) e k with heq | ⟨c, heq⟩ | heq
    · exact heq
    · rcases he with he | he <;> (rw [he] at heq; cases heq)
    · rcases he with he | he <;> (rw [he] at heq; cases heq)
  have hcloses : ∀ k, k ≠ 1 → (s'.channels ch).closes k = (s.channels ch).closes k := by
    intro k hk
    rw [hl]
    rcases Lifecycle.closes_step (s.channels ch) e k with heq | heq | heq
    · exact heq
    · rcases he with he | he <;> (rw [he] at heq; cases heq)
      exact absurd rfl hk
    · rcases he with he | he <;> (rw [he] at heq; cases heq)
      exact absurd rfl hk
  have hcreated : s'.Created ch := by
    rw [Created, hnext]
    exact hc
  refine ⟨fun _ => ?_, fun h => ?_, fun h => ?_, fun k hk => ?_, fun _ => ?_, fun k hk => ?_⟩
  · rw [hpc, haccept]
    exact hat.returned hc
  · rw [haccept] at h
    exact absurd h hb
  · rw [haccept] at h
    exact absurd h hcl
  · by_cases hk1 : k = 1
    · exact Or.inr ⟨hk1, hdestroyed⟩
    · rw [hcloses k hk1] at hk
      rcases hat.closes k hk with ⟨-, h⟩ | ⟨h, -⟩
      · exact absurd h hcl
      · exact absurd h hk1
  · rw [haccept, hvcs]
    exact ⟨hcreated, hopened, hvc, hb, hcl⟩
  · rw [hcallbacks] at hk
    rcases hat.deciding k hk with h | ⟨h, -⟩
    · rw [hopen] at h
      cases h
    · exact absurd h hcl

lemma Placed.destroy (hs : Placed s) (hsound : Sound s) {ch : ChannelId} (hc : s.Created ch)
    (href : s.Unreferenced ch) : Placed
      ({ s with destroyed := Function.update s.destroyed ch true }.stepChannel ch (.callClose 1)) where
  newest := hs.newest
  each ch' := by
    have hat := hs.each ch'
    by_cases hch : ch' = ch
    · rw [hch] at hat ⊢
      refine hat.destructor (closed_of_unreferenced hsound href) (fun h => ?_) (fun h => ?_) hc
        href.1 ⟨_, Or.inl rfl, if_pos rfl⟩ rfl (Function.update_self ..) rfl rfl
      · exact href.2.1 (hat.building h).2
      · exact href.2.1 (hat.closing h).2.1
    · exact hat.congr (if_neg hch) Iff.rfl (Function.update_of_ne hch ..) id Iff.rfl id id
        fun _ h => h

lemma Placed.destructor (hs : Placed s) {ch : ChannelId} (hdestroyed : s.destroyed ch = true) :
    Placed (s.stepChannel ch (.close 1)) where
  newest := hs.newest
  each ch' := by
    have hat := hs.each ch'
    by_cases hch : ch' = ch
    · rw [hch] at hat ⊢
      obtain ⟨hc, hopen, hvc, hb, hcl⟩ := hat.destroyed hdestroyed
      exact hat.destructor hopen hb hcl hc hvc ⟨_, Or.inr rfl, if_pos rfl⟩ rfl hdestroyed rfl rfl
    · exact hat.congr (if_neg hch) Iff.rfl rfl id Iff.rfl id id fun _ h => h

/-! ## Every step -/

lemma vcs_removeVc {t : ServerTables} {c c' : ClientId} {v : VcId}
    (h : (t.removeVc c').vcs c = some v) : t.vcs c = some v := by
  have h : Function.update t.vcs c' none c = some v := h
  rw [Function.update_apply] at h
  split_ifs at h
  exact h

lemma vcs_addPeer (t : ServerTables) (c : ClientId) : (t.addPeer c).vcs = t.vcs := by
  rw [ServerTables.addPeer]
  split
  · rfl
  · split_ifs <;> rfl

lemma vcs_registerSocket (t : ServerTables) (clientSocket : SocketFd) (bindMsg : MsgBind) :
    (t.registerSocket clientSocket bindMsg).vcs = t.vcs := by
  obtain ⟨socketToConnId, h⟩ := ServerTables.registerSocket_eq t clientSocket bindMsg
  rw [h]

lemma vcs_registerReplacement (t : ServerTables) (bindMsg : MsgBind) (targetSlot : ℕ) :
    (t.registerReplacement bindMsg targetSlot).vcs = t.vcs := by
  obtain ⟨clientConnSlots, h⟩ := ServerTables.registerReplacement_eq t bindMsg targetSlot
  rw [h]

/-- The loop walks outside `close()`, and with no channel of its own. -/
lemma Placed.walk (hs : Placed s) {a : Accepted} {pc : HandlingPc} {pc' : AcceptPc}
    (h : s.accept = .handling a pc) (hwalk : Walk s a pc pc') : Placed { s with accept := pc' } := by
  refine hs.quiet rfl rfl rfl (fun _ _ hv => hv) ?_ ?_ (Or.inl rfl)
  · rw [h]
    cases hwalk with
    | undefined _ hpc => exact (closing_of_usesPeer hpc a).symm
    | _ => rfl
  · rw [h]
    cases hwalk with
    | undefined => exact Or.inr ⟨rfl, rfl⟩
    | _ => exact Or.inl ⟨rfl, nofun⟩

lemma Placed.cleanupStep (hs : Placed s) (hsound : Sound s) (ch : ChannelId) (w : Worker) :
    Placed (s.cleanupStep ch w) := by
  have hquiet : ∀ {s' : Server}, s'.channels = s.channels → s'.nextVc = s.nextVc →
      s'.destroyed = s.destroyed → s'.accept = s.accept → s'.held = s.held →
      (∀ c v, s'.tables.vcs c = some v → s.tables.vcs c = some v) → Placed s' :=
    fun h₁ h₂ h₃ h₄ h₅ hvcs => hs.quiet h₁ h₂ h₃ hvcs (by rw [h₄])
      (Or.inl ⟨by rw [h₄], by rw [h₄]; exact id⟩) (Or.inl h₅)
  rw [Server.cleanupStep]
  split
  · exact hquiet rfl rfl rfl rfl rfl fun _ _ h => h
  · exact hquiet rfl rfl rfl rfl rfl fun _ _ => vcs_removeVc
  · exact hquiet rfl rfl rfl rfl rfl fun _ _ h => h
  · exact hquiet rfl rfl rfl rfl rfl fun _ _ h => h
  · refine Placed.worker (s := (s.setTables _).setCleanup ch w .checkingVc) ?_ (hsound.life ch)
      nofun nofun nofun
    exact hquiet rfl rfl rfl rfl rfl fun _ _ h => h

lemma placed_step (hs : Placed s) (hsound : Sound s) (e : Event) : Placed (step s e) := by
  rcases step_cases s e with h | h
  · rw [h]
    exact hs
  · generalize step s e = t at h
    cases h with
    | accepted a h =>
      exact hs.quiet rfl rfl rfl (fun _ _ hv => hv) (by rw [h]; rfl)
        (Or.inl ⟨by rw [h]; rfl, by rw [h]; nofun⟩) (Or.inl rfl)
    | walk a pc pc' h hwalk => exact hs.walk h hwalk
    | leave a pc h hleaves =>
      refine hs.quiet rfl rfl rfl (fun _ _ hv => hv) ?_ (Or.inl ⟨?_, ?_⟩) (Or.inr ⟨rfl, rfl⟩)
      all_goals rw [h]; cases hleaves <;> first | rfl | nofun
    | lookStale a vc h hvc => exact hs.lookStale h hvc
    | lookSlot a vc h =>
      exact hs.quiet rfl rfl rfl (fun _ _ hv => hv) (by rw [h]; rfl)
        (Or.inl ⟨by rw [h]; rfl, by rw [h]; nofun⟩) (Or.inr ⟨rfl, rfl⟩)
    | close a vc h hjoin hbusy =>
      refine hs.close hsound h hjoin rfl rfl rfl rfl rfl ?_ ?_
      · show s.accept.building? = none
        rw [h]
        rfl
      · show s.accept.closing? = _
        rw [h, if_neg hbusy]
        rfl
    | closed a vc h hjoin hidle =>
      refine hs.close hsound h hjoin rfl rfl rfl rfl rfl rfl ?_
      rw [if_pos hidle]
      rfl
    | removeStale a h =>
      exact hs.quiet rfl rfl rfl (fun _ _ => vcs_removeVc) (by rw [h]; rfl)
        (Or.inl ⟨by rw [h]; rfl, by rw [h]; nofun⟩) (Or.inl rfl)
    | replace a vc targetSlot h =>
      have haccept : (s.stepChannel ⟨a.clientId, vc⟩ (.replaceConnection targetSlot)).accept
        = .handling a (.replacing vc targetSlot) := h
      exact (hs.worker (hsound.life ⟨a.clientId, vc⟩) (e := .replaceConnection targetSlot)
        nofun nofun nofun).quiet rfl rfl rfl (fun _ _ hv => hv) (by rw [haccept]; rfl)
        (Or.inl ⟨by rw [haccept]; rfl, by rw [haccept]; nofun⟩) (Or.inl rfl)
    | register a vc targetSlot h =>
      refine hs.quiet rfl rfl rfl (fun c v hv => ?_) (by rw [h]; rfl)
        (Or.inl ⟨by rw [h]; rfl, by rw [h]; nofun⟩) (Or.inr ⟨rfl, rfl⟩)
      rw [← vcs_registerReplacement s.tables a.bindMsg targetSlot]
      exact hv
    | addPeer a h =>
      refine hs.quiet rfl rfl rfl (fun c v hv => ?_) (by rw [h]; rfl)
        (Or.inl ⟨by rw [h]; rfl, by rw [h]; nofun⟩) (Or.inl rfl)
      rw [← vcs_registerSocket s.tables a.clientSocket a.bindMsg, ← vcs_addPeer _ a.clientId]
      exact hv
    | addSocket a peer h =>
      exact hs.quiet rfl rfl rfl (fun _ _ hv => hv) (by rw [h]; rfl)
        (Or.inl ⟨by rw [h]; rfl, by rw [h]; nofun⟩) (Or.inl rfl)
    | create a fds h => exact hs.create h
    | buildSlots a vc fds h =>
      exact hs.quiet rfl rfl rfl (fun _ _ hv => hv) (by rw [h]; rfl)
        (Or.inl ⟨by rw [h]; rfl, by rw [h]; nofun⟩) (Or.inl rfl)
    | setUdp a vc h =>
      exact hs.quiet rfl rfl rfl (fun _ _ hv => hv) (by rw [h]; rfl)
        (Or.inl ⟨by rw [h]; rfl, by rw [h]; nofun⟩) (Or.inl rfl)
    | openStep a vc h => exact hs.opening h
    | opened a vc h hret => exact hs.opened h hret
    | udpFailure a vc h =>
      exact hs.quiet rfl rfl rfl (fun _ _ hv => hv) (by rw [h]; rfl) (Or.inr ⟨rfl, rfl⟩)
        (Or.inr ⟨rfl, rfl⟩)
    | death ch w c => exact hs.worker (hsound.life ch) nofun nofun nofun
    | callback ch w => exact hs.worker (hsound.life ch) nofun nofun nofun
    | cleanup ch w => exact hs.cleanupStep hsound ch w
    | udpExit =>
      exact hs.quiet rfl rfl rfl (fun _ _ hv => hv) rfl (Or.inl ⟨rfl, id⟩) (Or.inl rfl)
    | destroy ch hcreated href => exact hs.destroy hsound hcreated href
    | destructor ch hdestroyed => exact hs.destructor hdestroyed

structure Inv (s : Server) : Prop where
  sound : Sound s
  placed : Placed s

lemma inv_stateAt (events : ℕ → Event) (n : ℕ) : Inv (stateAt events n) :=
  runState_invariant (Q := fun _ => True) ⟨sound_init, placed_init⟩
    (fun _ e _ hs => ⟨sound_step hs.sound e, placed_step hs.placed hs.sound e⟩) (fun _ => trivial) n

end Server
end TcpUdp
