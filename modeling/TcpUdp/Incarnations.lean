import TcpUdp.LeftThreads

/-!
# Callbacks of earlier channels

The disconnect callback of a channel finds what it removes by the client, so when it runs late
it may find what a later channel of the same client has put there. As long as the accept loop
makes an entry only when no callback of an earlier channel has its removal from that table
still ahead, a callback takes away nothing that a later channel needs (`cleansUpOwn_of_inTime`).
-/

namespace TcpUdp
namespace Server

open Lib

variable {s : Server} {e : Event}

/-! ## Entries and their removal -/

/-- The tables that the callback cleans up. -/
inductive Table where
  | vcs
  | peers
  | clientConnSlots
  deriving DecidableEq, Repr

/-- The channel that the client's entry is for. -/
def owner (s : Server) (clientId : ClientId) : Table → Option VcId
  | .vcs => s.tables.vcs clientId
  | .peers => (s.tables.peers clientId).map fun _ => s.peerOwner clientId
  | .clientConnSlots => (s.tables.clientConnSlots clientId).map fun _ => s.slotsOwner clientId

/-- The callback has its removal from the table ahead. -/
def CleanupPc.ahead : CleanupPc → Table → Bool
  | .checkingVc, _ | .removingVc, _ => true
  | .removingPeer, .peers | .removingPeer, .clientConnSlots => true
  | .closingUdp, .clientConnSlots | .erasingSlots, .clientConnSlots => true
  | _, _ => false

/-- A worker has taken the channel down, and has its removal from the table ahead. -/
def RemovesLater (s : Server) (ch : ChannelId) (t : Table) : Prop :=
  ∃ w : Worker, ((s.channels ch).callbacks w.call).stored?.isSome = true
    ∨ (s.channels ch).callbacks w.call = .inCallback ∧ (s.cleanups ch w).ahead t = true

instance (s : Server) (ch : ChannelId) (t : Table) : Decidable (s.RemovesLater ch t) :=
  inferInstanceAs (Decidable (∃ _ : Worker, _ ∨ _ ∧ _))

/-- A step of a callback leaves what belongs to a later channel of the client. -/
def CleansUpOwn (s : Server) (e : Event) : Prop :=
  ∀ ch w, e = .disconnectCB ch w → ∀ t v, ch.vc < v → s.owner ch.clientId t = some v →
    (step s e).owner ch.clientId t = some v

/-- The entry that the next step of the accept loop makes, and the channel it is for. -/
def makes? (s : Server) : Option (ChannelId × Table) :=
  match s.accept with
  | .handling a .addingPeer => some (⟨a.clientId, s.nextVc a.clientId⟩, .peers)
  | .handling a (.creating _) => some (⟨a.clientId, s.nextVc a.clientId⟩, .vcs)
  | .handling a (.buildingSlots vc _) => some (⟨a.clientId, vc⟩, .clientConnSlots)
  | _ => none

/-- The condition on a step. When the accept loop makes an entry, no callback of an earlier
channel of the client has its removal from that table ahead. -/
def RegistersInTime (s : Server) (e : Event) : Prop :=
  e = .accept → ∀ ch t, s.makes? = some (ch, t) → ∀ u < ch.vc, ¬ s.RemovesLater ⟨ch.clientId, u⟩ t

instance (s : Server) (e : Event) : Decidable (s.RegistersInTime e) :=
  decidable_of_iff (e = .accept → ∀ m ∈ s.makes?, ∀ u < m.1.vc,
      ¬ s.RemovesLater ⟨m.1.clientId, u⟩ m.2)
    ⟨fun h he ch t hm => h he (ch, t) hm, fun h he m hm => h he m.1 m.2 hm⟩

/-! ## Channels that remove nothing any more -/

/-- Nobody takes the channel down, and nobody who has has a removal from the table ahead. -/
def Quiet (s : Server) (ch : ChannelId) (t : Table) : Prop :=
  (s.channels ch).Settled ∧ ¬ s.RemovesLater ch t

lemma settled_step (hc : s.Created ch) (hs : (s.channels ch).Settled) (e : Event) :
    ((step s e).channels ch).Settled := by
  have hmove := channelMove_step s e ch
  generalize (step s e).channels ch = l at hmove
  cases hmove with
  | same => exact hs
  | step e' => exact Lifecycle.settled_step hs e'
  | create numConns hnew => exact absurd hc hnew

lemma cleanups_setCleanup (s : Server) (ch ch' : ChannelId) (w w' : Worker) (pc : CleanupPc) :
    (s.setCleanup ch w pc).cleanups ch' w'
      = if ch' = ch ∧ w' = w then pc else s.cleanups ch' w' := by
  simp only [setCleanup, Function.update_apply]
  by_cases hch : ch' = ch
  · rw [if_pos hch, Function.update_apply]
    simp only [hch, true_and]
  · rw [if_neg hch, if_neg fun h => hch h.1]

/-- A callback goes on, and its removals come one after the other. -/
lemma ahead_cleanupStep {ch ch' : ChannelId} {w w' : Worker} {t : Table}
    (hbefore : (s.channels ch).callbacks w.call = .inCallback)
    (h : ((s.cleanupStep ch' w').channels ch).callbacks w.call = .inCallback)
    (ht : ((s.cleanupStep ch' w').cleanups ch w).ahead t = true) :
    (s.cleanups ch w).ahead t = true := by
  have hnext : ∀ (s' : Server) {pc : CleanupPc}, s'.cleanups = s.cleanups →
      (pc.ahead t = true → (s.cleanups ch' w').ahead t = true) →
      ((s'.setCleanup ch' w' pc).cleanups ch w).ahead t = true →
      (s.cleanups ch w).ahead t = true := by
    intro s' pc hsame hpc ht
    rw [cleanups_setCleanup, hsame] at ht
    split_ifs at ht with heq
    · rw [heq.1, heq.2]
      exact hpc ht
    · exact ht
  rw [cleanupStep] at h ht
  split at ht
  all_goals rename_i hpc
  · refine hnext s rfl (fun _ => ?_) ht
    rw [hpc]
    rfl
  · refine hnext (s.setTables _) rfl (fun _ => ?_) ht
    rw [hpc]
    rfl
  · refine hnext (s.setTables _) rfl (fun ht => ?_) ht
    rw [hpc]
    cases t with
    | clientConnSlots => rfl
    | _ => cases ht
  · refine hnext s rfl (fun ht => ?_) ht
    rw [hpc]
    cases t with
    | clientConnSlots => rfl
    | _ => cases ht
  · -- the call has returned
    by_cases heq : ch = ch' ∧ w = w'
    · exfalso
      obtain ⟨rfl, rfl⟩ := heq
      rw [hpc] at h
      simp only [channels_stepChannel, Lifecycle.step, Lifecycle.callbackStep] at h
      rw [show ((s.setTables (s.tables.eraseSlots ch.clientId)).setCleanup ch w
        .checkingVc).channels ch = s.channels ch from rfl, hbefore] at h
      simp only [Lifecycle.callbacks_setCallback, if_true] at h
      cases h
    · have ht : (((s.setTables _).setCleanup ch' w' .checkingVc).cleanups ch w).ahead t = true := ht
      rw [cleanups_setCleanup, if_neg heq] at ht
      exact ht

lemma ahead_step {ch : ChannelId} {w : Worker} {t : Table}
    (hbefore : (s.channels ch).callbacks w.call = .inCallback)
    (h : ((step s e).channels ch).callbacks w.call = .inCallback)
    (ht : ((step s e).cleanups ch w).ahead t = true) : (s.cleanups ch w).ahead t = true := by
  rcases step_cases s e with hstep | hstep
  · exact hstep ▸ ht
  · generalize step s e = s' at *
    cases hstep with
    | cleanup ch' w' => exact ahead_cleanupStep hbefore h ht
    | _ => exact ht

/-- What is quiet stays quiet. -/
lemma quiet_step {ch : ChannelId} {t : Table} (hc : s.Created ch) (hs : s.Quiet ch t) (e : Event) :
    (step s e).Quiet ch t := by
  obtain ⟨hsettled, hquiet⟩ := hs
  refine ⟨settled_step hc hsettled e, fun ⟨w, hw⟩ => hquiet ⟨w, ?_⟩⟩
  have hahead : (s.channels ch).callbacks w.call = .inCallback →
      ((step s e).channels ch).callbacks w.call = .inCallback →
      ((step s e).cleanups ch w).ahead t = true → (s.cleanups ch w).ahead t = true := ahead_step
  have hmove := channelMove_step s e ch
  generalize (step s e).channels ch = l at *
  cases hmove with
  | same => exact hw.imp_right fun ⟨hin, ht⟩ => ⟨hin, hahead hin hin ht⟩
  | create numConns hnew => exact absurd hc hnew
  | step e' =>
    rcases hw with hw | ⟨hin, ht⟩
    · left
      obtain ⟨b, hb⟩ := Option.isSome_iff_exists.mp hw
      rw [hsettled.stored hb]
      rfl
    · rcases Lifecycle.inCallback_step hin with hbefore | ⟨-, hpc⟩
      · exact Or.inr ⟨hbefore, hahead hbefore hin ht⟩
      · left
        rw [hpc]
        rfl

/-! ## Who an entry is for -/

lemma owner_congr {s s' : Server} (hvcs : s'.tables.vcs = s.tables.vcs)
    (hpeers : s'.tables.peers = s.tables.peers) (hslots : s'.tables.clientConnSlots
      = s.tables.clientConnSlots) (hpeerOwner : s'.peerOwner = s.peerOwner)
    (hslotsOwner : s'.slotsOwner = s.slotsOwner) (c : ClientId) (t : Table) :
    s'.owner c t = s.owner c t := by
  cases t with
  | vcs => exact congrFun hvcs c
  | peers => simp only [owner, hpeers, hpeerOwner]
  | clientConnSlots => simp only [owner, hslots, hslotsOwner]

lemma update_none_of_some {α : Type} {f : ClientId → Option α} {c c' : ClientId} {v : VcId}
    {g : α → VcId} (h : (Function.update f c' none c).map g = some v) : (f c).map g = some v := by
  rw [Function.update_apply] at h
  split_ifs at h
  · cases h
  · exact h

/-- Removals leave fewer entries. -/
lemma owner_removeVc {c c' : ClientId} {t : Table} {v : VcId}
    (h : (s.setTables (s.tables.removeVc c')).owner c t = some v) : s.owner c t = some v := by
  cases t with
  | vcs => exact vcs_removeVc h
  | _ => exact h

lemma owner_removePeer {c c' : ClientId} {t : Table} {v : VcId}
    (h : (s.setTables (s.tables.removePeer c')).owner c t = some v) : s.owner c t = some v := by
  cases t with
  | peers => exact update_none_of_some h
  | _ => exact h

lemma owner_eraseSlots {c c' : ClientId} {t : Table} {v : VcId}
    (h : (s.setTables (s.tables.eraseSlots c')).owner c t = some v) : s.owner c t = some v := by
  cases t with
  | clientConnSlots => exact update_none_of_some h
  | _ => exact h

lemma owner_cleanupStep {ch : ChannelId} {w : Worker} {c : ClientId} {t : Table} {v : VcId}
    (h : (s.cleanupStep ch w).owner c t = some v) : s.owner c t = some v := by
  rw [cleanupStep] at h
  split at h
  · exact (owner_congr rfl rfl rfl rfl rfl c t).symm.trans h
  · exact owner_removeVc ((owner_congr rfl rfl rfl rfl rfl c t).symm.trans h)
  · exact owner_removePeer ((owner_congr rfl rfl rfl rfl rfl c t).symm.trans h)
  · exact (owner_congr rfl rfl rfl rfl rfl c t).symm.trans h
  · exact owner_eraseSlots ((owner_congr rfl rfl rfl rfl rfl c t).symm.trans h)

lemma owner_register {a : Accepted} {vc : VcId} {targetSlot : ℕ} {c : ClientId} {t : Table} {v : VcId}
    (h : (s.register a vc targetSlot).owner c t = some v) :
    s.owner c t = some v ∨ t = .clientConnSlots ∧ a.clientId = c ∧ vc = v := by
  by_cases hid : a.bindMsg.connectionId ≠ 0
  · cases t with
    | clientConnSlots =>
      have hslots : (s.register a vc targetSlot).tables.clientConnSlots
          = (s.tables.registerReplacement a.bindMsg targetSlot).clientConnSlots := rfl
      have howner : (s.register a vc targetSlot).slotsOwner
          = Function.update s.slotsOwner a.clientId vc := if_pos hid
      rw [ServerTables.registerReplacement, if_pos hid] at hslots
      simp only [owner, hslots, howner] at h
      by_cases hc : a.clientId = c
      · refine Or.inr ⟨rfl, hc, ?_⟩
        rw [hc, Function.update_self] at h
        obtain ⟨_, -, hv⟩ := Option.map_eq_some_iff.mp h
        exact hv
      · left
        have hc' : c ≠ a.clientId := fun heq => hc heq.symm
        have hother : ∀ slotMap, (s.tables.setSlotMap a.bindMsg.clientId slotMap).clientConnSlots c
          = s.tables.clientConnSlots c := fun _ => Function.update_of_ne hc' ..
        rw [Function.update_of_ne hc', hother] at h
        exact h
    | vcs =>
      left
      rw [← h]
      show _ = (s.tables.registerReplacement a.bindMsg targetSlot).vcs c
      rw [vcs_registerReplacement]
      rfl
    | peers =>
      left
      obtain ⟨clientConnSlots, heq⟩ :=
        ServerTables.registerReplacement_eq s.tables a.bindMsg targetSlot
      have h : ((s.tables.registerReplacement a.bindMsg targetSlot).peers c).map
        (fun _ => s.peerOwner c) = some v := h
      rw [heq] at h
      exact h
  · left
    have hsame : s.register a vc targetSlot = s.leave .waiting := by
      rw [register, ServerTables.registerReplacement, if_neg hid, if_neg hid]
    rw [hsame] at h
    exact (owner_congr rfl rfl rfl rfl rfl c t).symm.trans h

lemma owner_addPeer {a : Accepted} {c : ClientId} {t : Table} {v : VcId}
    (h : (s.addPeer a).owner c t = some v) :
    s.owner c t = some v ∨ t = .peers ∧ a.clientId = c ∧ s.nextVc c = v := by
  obtain ⟨socketToConnId, heq⟩ :=
    ServerTables.registerSocket_eq s.tables a.clientSocket a.bindMsg
  have htables : (s.addPeer a).tables
      = ({ s.tables with socketToConnId := socketToConnId } : ServerTables).addPeer a.clientId := by
    rw [← heq]
    rfl
  have hset : ∃ peers, (s.addPeer a).tables
      = { s.tables with socketToConnId := socketToConnId, peers := peers }
      ∧ ∀ c', c' ≠ a.clientId → peers c' = s.tables.peers c' := by
    rw [htables, ServerTables.addPeer]
    split
    · exact ⟨_, rfl, fun c' hc' => Function.update_of_ne hc' ..⟩
    · split_ifs
      · exact ⟨_, rfl, fun c' hc' => Function.update_of_ne hc' ..⟩
      · exact ⟨s.tables.peers, rfl, fun _ _ => rfl⟩
  obtain ⟨peers, hpeers, hother⟩ := hset
  cases t with
  | vcs =>
    left
    simp only [owner, hpeers] at h
    exact h
  | clientConnSlots =>
    left
    simp only [owner, hpeers] at h
    exact h
  | peers =>
    have howner : (s.addPeer a).peerOwner
        = Function.update s.peerOwner a.clientId (s.nextVc a.clientId) := rfl
    simp only [owner, hpeers, howner] at h
    by_cases hc : c = a.clientId
    · refine Or.inr ⟨rfl, hc.symm, ?_⟩
      rw [hc, Function.update_self] at h
      obtain ⟨_, -, hv⟩ := Option.map_eq_some_iff.mp h
      rw [hc]
      exact hv
    · left
      rw [hother c hc, Function.update_of_ne hc] at h
      exact h

lemma owner_addSocket {a : Accepted} {peer peer' : Peer} (hpeer : s.tables.peers a.clientId = some peer)
    {c : ClientId} {t : Table} {v : VcId}
    (h : (s.setTables (s.tables.setPeer a.clientId peer')).owner c t = some v) :
    s.owner c t = some v := by
  cases t with
  | peers =>
    have h : (Function.update s.tables.peers a.clientId (some peer') c).map
        (fun _ => s.peerOwner c) = some v := h
    show (s.tables.peers c).map (fun _ => s.peerOwner c) = some v
    rw [Function.update_apply] at h
    split_ifs at h with hc
    · rw [hc, hpeer]
      exact hc ▸ h
    · exact h
  | _ => exact h

lemma owner_create {a : Accepted} {fds : List SocketFd} {c : ClientId} {t : Table} {v : VcId}
    (h : (s.create a fds).owner c t = some v) :
    s.owner c t = some v ∨ t = .vcs ∧ a.clientId = c ∧ s.nextVc c = v := by
  cases t with
  | vcs =>
    have h : Function.update s.tables.vcs a.clientId (some (s.nextVc a.clientId)) c = some v := h
    rw [Function.update_apply] at h
    split_ifs at h with hc
    · rw [hc]
      exact Or.inr ⟨rfl, rfl, Option.some.inj h⟩
    · exact Or.inl h
  | _ => exact Or.inl h

lemma owner_buildSlots {a : Accepted} {vc : VcId} {fds : List SocketFd} {c : ClientId} {t : Table}
    {v : VcId} (h : (s.buildSlots a vc fds).owner c t = some v) :
    s.owner c t = some v ∨ t = .clientConnSlots ∧ a.clientId = c ∧ vc = v := by
  cases t with
  | clientConnSlots =>
    have h : ((s.tables.buildSlotMap a.clientId fds).clientConnSlots c).map
        (fun _ => Function.update s.slotsOwner a.clientId vc c) = some v := h
    by_cases hc : c = a.clientId
    · refine Or.inr ⟨rfl, hc.symm, ?_⟩
      rw [hc, Function.update_self] at h
      obtain ⟨_, -, hv⟩ := Option.map_eq_some_iff.mp h
      exact hv
    · left
      have hother : (s.tables.buildSlotMap a.clientId fds).clientConnSlots c
        = s.tables.clientConnSlots c := Function.update_of_ne hc ..
      rw [Function.update_of_ne hc, hother] at h
      exact h
  | _ => exact Or.inl h

/-- Entries are made by the accept loop only. -/
lemma owner_step {c : ClientId} {t : Table} {v : VcId} (h : (step s e).owner c t = some v) :
    s.owner c t = some v ∨ e = .accept ∧ (s.makes? = some (⟨c, v⟩, t)
      ∨ t = .clientConnSlots ∧ ∃ a targetSlot, s.accept = .handling a (.registering v targetSlot)
        ∧ a.clientId = c) := by
  rcases step_cases s e with hstep | hstep
  · exact Or.inl (hstep ▸ h)
  · generalize step s e = s' at *
    cases hstep with
    | removeStale a =>
      exact Or.inl (owner_removeVc ((owner_congr rfl rfl rfl rfl rfl c t).symm.trans h))
    | cleanup ch w => exact Or.inl (owner_cleanupStep h)
    | register a vc targetSlot hpc =>
      rcases owner_register h with h | ⟨rfl, hc, rfl⟩
      · exact Or.inl h
      · exact Or.inr ⟨rfl, Or.inr ⟨rfl, a, targetSlot, hpc, hc⟩⟩
    | addPeer a hpc =>
      rcases owner_addPeer h with h | ⟨rfl, hc, hv⟩
      · exact Or.inl h
      · refine Or.inr ⟨rfl, Or.inl ?_⟩
        rw [makes?, hpc, ← hv, ← hc]
    | addSocket a peer _ hpeer =>
      exact Or.inl (owner_addSocket hpeer ((owner_congr rfl rfl rfl rfl rfl c t).symm.trans h))
    | create a fds hpc =>
      rcases owner_create h with h | ⟨rfl, hc, hv⟩
      · exact Or.inl h
      · refine Or.inr ⟨rfl, Or.inl ?_⟩
        rw [makes?, hpc, ← hv, ← hc]
    | buildSlots a vc fds hpc =>
      rcases owner_buildSlots h with h | ⟨rfl, hc, rfl⟩
      · exact Or.inl h
      · refine Or.inr ⟨rfl, Or.inl ?_⟩
        rw [makes?, hpc, ← hc]
    | _ => exact Or.inl ((owner_congr rfl rfl rfl rfl rfl c t).symm.trans h)

/-! ## Earlier channels -/

namespace HandlingPc

/-- At this place, the client's channel `v` is settled. -/
def settles : HandlingPc → VcId → Prop
  | looking, _ | findingSlot _, _ | choosingSlot _ _, _ | replacing _ _, _ | registering _ _, _ => False
  | closing vc, v => v ≠ vc
  | buildingSlots vc _, v | settingUdp vc, v | opening vc, v => v < vc
  | _, _ => True

/-- The channel that the loop swaps a connection of. -/
def target? : HandlingPc → Option VcId
  | findingSlot vc | choosingSlot vc _ | replacing vc _ | registering vc _ => some vc
  | _ => none

end HandlingPc

/-- An entry is for a channel after which no earlier one of the client removes anything. -/
structure Ordered (s : Server) : Prop where
  settled : ∀ ch, s.Created ch →
    (s.channels ch).Settled ∨ s.tables.vcs ch.clientId = some ch.vc
  position : ∀ a pc, s.accept = .handling a pc → ∀ v < s.nextVc a.clientId, pc.settles v →
    (s.channels ⟨a.clientId, v⟩).Settled
  target : ∀ a pc vc, s.accept = .handling a pc → pc.target? = some vc →
    s.Created ⟨a.clientId, vc⟩
  owned : ∀ c t w, s.owner c t = some w → w ≤ s.nextVc c ∧ ∀ v < w, s.Quiet ⟨c, v⟩ t
  registered : ∀ c v w, v < w → w < s.nextVc c →
    (∀ a fds, s.accept = .handling a (.buildingSlots w fds) → a.clientId ≠ c) →
    s.Quiet ⟨c, v⟩ .clientConnSlots

lemma ordered_init : Ordered {} where
  settled _ h := absurd h (Nat.not_lt_zero _)
  position := nofun
  target := nofun
  owned c t w h := by cases t <;> cases h
  registered _ _ _ _ h := absurd h (Nat.not_lt_zero _)

lemma nextVc_step (s : Server) (e : Event) : (step s e).nextVc = s.nextVc
    ∨ ∃ a fds, s.accept = .handling a (.creating fds) ∧ step s e = s.create a fds := by
  rcases step_cases s e with hstep | hstep
  · exact Or.inl (congrArg nextVc hstep)
  · generalize step s e = s' at *
    cases hstep with
    | create a fds h => exact Or.inr ⟨a, fds, h, rfl⟩
    | cleanup ch w => exact Or.inl (s.cleanupStep_frame ch w).2.1
    | _ => exact Or.inl rfl

lemma nextVc_create (s : Server) (a : Accepted) (fds : List SocketFd) (c : ClientId) :
    (s.create a fds).nextVc c
      = if c = a.clientId then s.nextVc a.clientId + 1 else s.nextVc c :=
  Function.update_apply ..

lemma nextVc_le_step (s : Server) (e : Event) (c : ClientId) :
    s.nextVc c ≤ (step s e).nextVc c := by
  rcases nextVc_step s e with h | ⟨a, fds, -, h⟩
  · rw [h]
  · rw [h, nextVc_create]
    split_ifs with hc
    · rw [hc]
      exact Nat.le_succ _
    · exact le_rfl

/-- The callback of a channel is in progress: it is settled. -/
lemma settled_of_inCallback (hsound : Sound s) {ch : ChannelId} {k : ℕ}
    (h : (s.channels ch).callbacks k = .inCallback) : (s.channels ch).Settled :=
  (hsound.life ch).settled (Or.inr ((hsound.halted ch).reported k h))

/-- The newest channel of a client is registered, and only its own callback removes it. -/
lemma registered_cleanupStep (hs : Ordered s) (hinv : Inv s) {ch ch' : ChannelId} {w : Worker}
    (hc' : s.Created ch') (hin : (s.channels ch').callbacks w.call = .inCallback)
    (h : s.tables.vcs ch.clientId = some ch.vc) : (s.channels ch).Settled
      ∨ (s.cleanupStep ch' w).tables.vcs ch.clientId = some ch.vc := by
  rw [cleanupStep]
  split
  · exact Or.inr h
  · rename_i hpc
    by_cases hclient : ch'.clientId = ch.clientId
    · left
      have hle : ch'.vc ≤ ch.vc := by
        rw [← Nat.lt_succ_iff]
        show ch'.vc < ch.vc + 1
        rw [hinv.placed.newest _ _ h, ← hclient]
        exact hc'
      rcases Nat.lt_or_eq_of_le hle with hlt | heq
      · have hquiet := ((hs.owned ch.clientId .vcs ch.vc h).2 ch'.vc hlt).2
        refine absurd ⟨w, Or.inr ⟨?_, ?_⟩⟩ hquiet
        · rw [← hclient]
          exact hin
        · rw [← hclient, hpc]
          rfl
      · have hsame : ch = ch' := by
          cases ch
          cases ch'
          cases hclient
          cases heq
          rfl
        rw [hsame]
        exact settled_of_inCallback hinv.sound hin
    · exact Or.inr ((Function.update_of_ne (Ne.symm hclient) ..).trans h)
  · exact Or.inr h
  · exact Or.inr h
  · exact Or.inr h

lemma registered_step (hs : Ordered s) (hinv : Inv s) {ch : ChannelId} (hc : s.Created ch)
    (h : s.tables.vcs ch.clientId = some ch.vc) (e : Event) :
    (s.channels ch).Settled ∨ (step s e).tables.vcs ch.clientId = some ch.vc := by
  have hfresh : ∀ {a pc}, s.accept = .handling a pc → pc.settles ch.vc → ch.clientId = a.clientId →
      (s.channels ch).Settled := by
    intro a pc haccept hpc hclient
    have hsettled := hs.position a pc haccept ch.vc
    rw [← hclient] at hsettled
    exact hsettled hc hpc
  rcases step_cases s e with hstep | hstep
  · rw [hstep]
    exact Or.inr h
  · generalize step s e = s' at hstep ⊢
    cases hstep with
    | removeStale a hpc =>
      by_cases hclient : ch.clientId = a.clientId
      · exact Or.inl (hfresh hpc trivial hclient)
      · exact Or.inr ((Function.update_of_ne hclient ..).trans h)
    | create a fds hpc =>
      by_cases hclient : ch.clientId = a.clientId
      · exact Or.inl (hfresh hpc trivial hclient)
      · exact Or.inr ((Function.update_of_ne hclient ..).trans h)
    | register a vc targetSlot =>
      right
      rw [← h]
      exact congrFun (vcs_registerReplacement s.tables a.bindMsg targetSlot) _
    | addPeer a =>
      right
      rw [← h, ← vcs_registerSocket s.tables a.clientSocket a.bindMsg,
        ← vcs_addPeer (s.tables.registerSocket a.clientSocket a.bindMsg) a.clientId]
      rfl
    | cleanup ch' w hc' hin => exact registered_cleanupStep hs hinv hc' hin h
    | _ => exact Or.inr h

/-- A channel that is not settled is registered. -/
lemma ordered_settled_step (hs : Ordered s) (hinv : Inv s) {ch : ChannelId}
    (hc' : (step s e).Created ch) : ((step s e).channels ch).Settled
      ∨ (step s e).tables.vcs ch.clientId = some ch.vc := by
  by_cases hc : s.Created ch
  · rcases hs.settled ch hc with h | h
    · exact Or.inl (settled_step hc h e)
    · exact (registered_step hs hinv hc h e).imp_left fun h => settled_step hc h e
  · rcases nextVc_step s e with h | ⟨a, fds, -, h⟩
    · rw [Created, h] at hc'
      exact absurd hc' hc
    · right
      rw [Created, h, nextVc_create] at hc'
      split_ifs at hc' with hclient
      · have hvc : ch.vc = s.nextVc a.clientId :=
          Nat.le_antisymm (Nat.lt_succ_iff.mp hc') (hclient ▸ Nat.not_lt.mp hc)
        rw [h, hclient, hvc]
        exact Function.update_self ..
      · exact absurd hc' hc

/-- Where the loop comes from. -/
lemma settles_walk {a : Accepted} {pc pc' : HandlingPc} (hwalk : Walk s a pc (.handling a pc'))
    {v : VcId} (hv : pc'.settles v) : pc.settles v ∨ s.tables.vcs a.clientId = none := by
  cases hwalk with
  | addPeer h | noStale h => exact Or.inr h
  | chooseSlot | replace => exact hv.elim
  | _ => exact Or.inl trivial

/-- When `close()` has returned, nobody is left who could decide. -/
lemma settled_closed (hinv : Inv s) {a : Accepted} {vc : VcId}
    (h : s.accept = .handling a (.closing vc)) (hjoin : Joinable (s.channels ⟨a.clientId, vc⟩))
    (hidle : ((s.channels ⟨a.clientId, vc⟩).step (.close 0)).closes 0 = .idle) :
    ((s.stepChannel ⟨a.clientId, vc⟩ (.close 0)).channels ⟨a.clientId, vc⟩).Settled := by
  have hcl : s.accept.closing? = some ⟨a.clientId, vc⟩ := by rw [h]; rfl
  obtain ⟨hret, hopen, hdeciding⟩ :=
    (hinv.placed.each ⟨a.clientId, vc⟩).close hinv.sound hcl hjoin
  rw [channels_stepChannel]
  refine ⟨hret, hopen, fun k => ?_⟩
  rw [Bool.eq_false_iff]
  intro hk
  rcases hdeciding k hk with hj | ⟨hj, -⟩
  · rw [hidle] at hj
    cases hj
  · rw [hidle] at hj
    cases hj

lemma position_step (hs : Ordered s) (hinv : Inv s) {a : Accepted} {pc : HandlingPc}
    (haccept : (step s e).accept = .handling a pc) {v : VcId}
    (hlt : v < (step s e).nextVc a.clientId) (hv : pc.settles v) :
    ((step s e).channels ⟨a.clientId, v⟩).Settled := by
  -- what was known before the step is enough, but at the end of `close()`
  have hbefore : v < s.nextVc a.clientId → (s.channels ⟨a.clientId, v⟩).Settled →
      ((step s e).channels ⟨a.clientId, v⟩).Settled := fun hc h =>
    settled_step (show s.Created ⟨a.clientId, v⟩ from hc) h e
  have hsettled : ∀ {c}, v < s.nextVc c → s.tables.vcs c ≠ some v →
      (s.channels ⟨c, v⟩).Settled := fun {c} hc hne => (hs.settled ⟨c, v⟩ hc).resolve_right hne
  rcases step_cases s e with hstep | hstep
  · rw [hstep] at haccept hlt ⊢
    exact hs.position a pc haccept v hlt hv
  · generalize step s e = s' at *
    cases hstep with
    | accepted a' | lookSlot a' | replace a' =>
      cases haccept
      exact hv.elim
    | leave | register | opened | udpFailure => cases haccept
    | walk a' pc₀ pc' h hwalk =>
      have haccept : pc' = .handling a pc := haccept
      rw [haccept] at hwalk
      have ha : a' = a := by cases hwalk <;> rfl
      refine hbefore hlt ?_
      rcases settles_walk (ha ▸ hwalk) hv with hv | hnone
      · exact hs.position a pc₀ (ha ▸ h) v hlt hv
      · exact hsettled hlt (by rw [hnone]; nofun)
    | lookStale a' vc h hvc =>
      cases haccept
      refine hbefore hlt (hsettled hlt ?_)
      rw [hvc]
      exact fun heq => hv (Option.some.inj heq).symm
    | closed a' vc h hjoin hidle =>
      cases haccept
      by_cases hvc : v = vc
      · rw [hvc]
        exact settled_closed hinv h hjoin hidle
      · exact hbefore hlt (hs.position a _ h v hlt hvc)
    | removeStale a' h | addPeer a' h | addSocket a' peer h =>
      cases haccept
      exact hbefore hlt (hs.position a _ h v hlt trivial)
    | create a' fds h =>
      cases haccept
      exact hbefore hv (hs.position a _ h v hv trivial)
    | buildSlots a' vc fds h | setUdp a' vc h =>
      cases haccept
      exact hbefore hlt (hs.position a _ h v hlt hv)
    | close a' vc h =>
      exact hbefore hlt (hs.position a pc haccept v hlt hv)
    | cleanup ch w =>
      obtain ⟨hpc, hnext, -⟩ := s.cleanupStep_frame ch w
      rw [hpc] at haccept
      rw [hnext] at hlt
      exact hbefore hlt (hs.position a pc haccept v hlt hv)
    | _ => exact hbefore hlt (hs.position a pc haccept v hlt hv)

lemma target_step (hs : Ordered s) (hinv : Inv s) {a : Accepted} {pc : HandlingPc} {vc : VcId}
    (haccept : (step s e).accept = .handling a pc) (hvc : pc.target? = some vc) :
    (step s e).Created ⟨a.clientId, vc⟩ := by
  refine lt_of_lt_of_le ?_ (nextVc_le_step s e a.clientId)
  show vc < s.nextVc a.clientId
  rcases step_cases s e with hstep | hstep
  · rw [hstep] at haccept
    exact hs.target a pc vc haccept hvc
  · generalize step s e = s' at *
    cases hstep with
    | accepted | lookStale | closed | removeStale | addPeer | addSocket | create | buildSlots
    | setUdp =>
      cases haccept
      cases hvc
    | leave | register | opened | udpFailure => cases haccept
    | walk a' pc₀ pc' h hwalk =>
      have haccept : pc' = .handling a pc := haccept
      rw [haccept] at hwalk
      have ha : a' = a := by cases hwalk <;> rfl
      refine hs.target a pc₀ vc (ha ▸ h) ?_
      cases hwalk with
      | chooseSlot | replace => exact hvc
      | _ => cases hvc
    | lookSlot a' vc' h hvcs =>
      cases haccept
      cases hvc
      rw [← hinv.placed.newest _ _ hvcs]
      exact Nat.lt_succ_self _
    | replace a' vc' targetSlot h =>
      cases haccept
      exact hs.target a _ vc h hvc
    | cleanup ch w =>
      rw [(s.cleanupStep_frame ch w).1] at haccept
      exact hs.target a pc vc haccept hvc
    | _ => exact hs.target a pc vc haccept hvc

/-- The channel that an entry is made for comes after settled ones. -/
lemma makes_settled (hs : Ordered s) (hinv : Inv s) {ch : ChannelId} {t : Table}
    (h : s.makes? = some (ch, t)) : ch.vc ≤ s.nextVc ch.clientId
      ∧ ∀ u < ch.vc, (s.channels ⟨ch.clientId, u⟩).Settled := by
  rw [makes?] at h
  cases haccept : s.accept with
  | handling a pc =>
    rw [haccept] at h
    cases pc with
    | addingPeer | creating =>
      cases h
      exact ⟨le_rfl, fun u hu => hs.position a _ haccept u hu trivial⟩
    | buildingSlots vc fds =>
      cases h
      have hb : s.accept.building? = some ⟨a.clientId, vc⟩ := by rw [haccept]; rfl
      have hc := ((hinv.placed.each _).building hb).1
      exact ⟨Nat.le_of_lt hc, fun u hu => hs.position a _ haccept u (hu.trans hc) hu⟩
    | _ => cases h
  | _ =>
    rw [haccept] at h
    cases h

/-- An entry that is made in time is for a channel after quiet ones. -/
lemma makes_quiet (hs : Ordered s) (hinv : Inv s) (h : s.RegistersInTime e) (he : e = .accept)
    {ch : ChannelId} {t : Table} (hmakes : s.makes? = some (ch, t)) :
    ∀ u < ch.vc, s.Quiet ⟨ch.clientId, u⟩ t :=
  fun u hu => ⟨(makes_settled hs hinv hmakes).2 u hu, h he ch t hmakes u hu⟩

lemma owned_step (hs : Ordered s) (hinv : Inv s) (h : s.RegistersInTime e) {c : ClientId}
    {t : Table} {w : VcId} (howner : (step s e).owner c t = some w) :
    w ≤ (step s e).nextVc c ∧ ∀ v < w, (step s e).Quiet ⟨c, v⟩ t := by
  have hbefore : w ≤ s.nextVc c ∧ ∀ v < w, s.Quiet ⟨c, v⟩ t := by
    rcases owner_step howner with howner | ⟨he, hmakes | ⟨rfl, a, targetSlot, haccept, rfl⟩⟩
    · exact hs.owned c t w howner
    · exact ⟨(makes_settled hs hinv hmakes).1, makes_quiet hs hinv h he hmakes⟩
    · have hc := hs.target a _ w haccept rfl
      refine ⟨Nat.le_of_lt hc, fun v hv => hs.registered a.clientId v w hv hc fun a' fds hpc => ?_⟩
      rw [haccept] at hpc
      cases hpc
  refine ⟨hbefore.1.trans (nextVc_le_step s e c), fun v hv => ?_⟩
  exact quiet_step (show s.Created ⟨c, v⟩ from lt_of_lt_of_le hv hbefore.1) (hbefore.2 v hv) e

/-- Once the slots of a channel are built, earlier channels remove nothing any more. -/
lemma quiet_of_registered_step (hs : Ordered s) (hinv : Inv s) (h : s.RegistersInTime e)
    {c : ClientId} {v w : VcId} (hv : v < w) (hw : w < (step s e).nextVc c)
    (hpc : ∀ a fds, (step s e).accept = .handling a (.buildingSlots w fds) → a.clientId ≠ c) :
    (step s e).Quiet ⟨c, v⟩ .clientConnSlots := by
  have hnext : w < s.nextVc c := by
    rcases nextVc_step s e with heq | ⟨a, fds, -, heq⟩
    · rw [heq] at hw
      exact hw
    · rw [heq, nextVc_create] at hw
      split_ifs at hw with hc
      · rw [hc]
        refine lt_of_le_of_ne (Nat.lt_succ_iff.mp hw) fun hnew => ?_
        refine hpc a fds ?_ hc.symm
        rw [heq, hnew]
        rfl
      · exact hw
  refine quiet_step (show s.Created ⟨c, v⟩ from hv.trans hnext) ?_ e
  by_cases hbuilding : ∃ a fds, s.accept = .handling a (.buildingSlots w fds) ∧ a.clientId = c
  · obtain ⟨a, fds, haccept, rfl⟩ := hbuilding
    have hmakes : s.makes? = some (⟨a.clientId, w⟩, .clientConnSlots) := by rw [makes?, haccept]
    have he : e = .accept := by
      by_contra he
      refine hpc a fds ?_ rfl
      rcases step_cases s e with hstep | hstep
      · rw [hstep]
        exact haccept
      · generalize step s e = s' at hstep ⊢
        cases hstep with
        | accepted _ hpc' | udpFailure _ _ hpc' =>
          rw [haccept] at hpc'
          cases hpc'
        | cleanup ch w' => exact (s.cleanupStep_frame ch w').1.trans haccept
        | death | callback | udpExit | destroy | destructor => exact haccept
        | _ => exact absurd rfl he
    exact makes_quiet hs hinv h he hmakes v hv
  · refine hs.registered c v w hv hnext fun a fds haccept hc => ?_
    exact hbuilding ⟨a, fds, haccept, hc⟩

lemma ordered_step (hs : Ordered s) (hinv : Inv s) (h : s.RegistersInTime e) :
    Ordered (step s e) where
  settled _ hc := ordered_settled_step hs hinv hc
  position _ _ haccept _ hlt hv := position_step hs hinv haccept hlt hv
  target _ _ _ haccept hvc := target_step hs hinv haccept hvc
  owned _ _ _ howner := owned_step hs hinv h howner
  registered _ _ _ hv hw hpc := quiet_of_registered_step hs hinv h hv hw hpc

/-- A callback removes from a table only while it has that ahead. -/
lemma owner_of_not_ahead {ch : ChannelId} {w : Worker} {t : Table}
    (h : (s.cleanups ch w).ahead t = false) :
    (s.cleanupStep ch w).owner ch.clientId t = s.owner ch.clientId t := by
  rw [cleanupStep]
  split
  all_goals
    rename_i hpc
    rw [hpc] at h
  · exact owner_congr rfl rfl rfl rfl rfl _ t
  · cases h
  · cases t with
    | vcs => rfl
    | _ => cases h
  · exact owner_congr rfl rfl rfl rfl rfl _ t
  · cases t with
    | clientConnSlots => cases h
    | _ => rfl

lemma Ordered.cleansUpOwn (hs : Ordered s) (e : Event) : s.CleansUpOwn e := by
  rintro ch w rfl t v hlt howner
  have hquiet := ((hs.owned ch.clientId t v howner).2 ch.vc hlt).2
  simp only [step, disconnectCB]
  split_ifs with hc hin
  · rw [owner_of_not_ahead]
    · exact howner
    · rw [Bool.eq_false_iff]
      exact fun ht => hquiet ⟨w, Or.inr ⟨hin, ht⟩⟩
  · exact (owner_congr rfl rfl rfl rfl rfl _ t).trans howner
  · exact howner

/-- As long as the accept loop makes an entry only when no callback of an earlier channel of
the client has its removal ahead, no callback removes an entry of a later channel. -/
theorem cleansUpOwn_of_inTime (events : ℕ → Event) (n : ℕ)
    (h : ∀ m < n, (stateAt events m).RegistersInTime (events m)) :
    (stateAt events n).CleansUpOwn (events n) := by
  refine (runState_invariant_of_steps (P := fun s => Inv s ∧ Ordered s)
    ⟨⟨sound_init, placed_init⟩, ordered_init⟩ (fun s e hstep hs => ⟨?_, ?_⟩) h).2.cleansUpOwn _
  · exact ⟨sound_step hs.1.sound e, placed_step hs.1.placed hs.1.sound e⟩
  · exact ordered_step hs.2 hs.1 hstep

/-- An outage whose callback has the tables to itself. -/
def cleanedUp : List Event := outage ++ List.replicate 4 (.disconnectCB firstVc .io)

/-- The last removal of the callback. -/
theorem cleansUpOwn_cleanedUp :
    (stateAt (listInputs cleanedUp (.disconnectCB firstVc .io)) cleanedUp.length).CleansUpOwn
      (listInputs cleanedUp (.disconnectCB firstVc .io) cleanedUp.length) := by
  refine cleansUpOwn_of_inTime _ _ fun m hm => ?_
  exact of_decide_eq_true (of_allSteps (Q := fun s e => decide (RegistersInTime s e))
    (by decide +kernel) _ m hm)

/-- The callback stands still while the client connects again: the loop closes the channel,
which is already closed, and makes another one of the peer that is still there. -/
def reconnected : List Event :=
  outage ++ [.accepted (initial 99)] ++ List.replicate 11 .accept ++ [.disconnectCB firstVc .io]

theorem removes_later_channel :
    ¬ ∀ (events : ℕ → Event) (n : ℕ), (stateAt events n).CleansUpOwn (events n) := by
  intro h
  have hevent : listInputs (reconnected ++ [.disconnectCB firstVc .io]) .accept reconnected.length
      = .disconnectCB firstVc .io := by decide +kernel
  have hrun : (stateAt (listInputs (reconnected ++ [.disconnectCB firstVc .io]) .accept)
        reconnected.length).owner firstVc.clientId .vcs = some 1
      ∧ (step (stateAt (listInputs (reconnected ++ [.disconnectCB firstVc .io]) .accept)
        reconnected.length) (.disconnectCB firstVc .io)).owner firstVc.clientId .vcs ≠ some 1 := by
    rw [stateAt, runState_listInputs _ (by decide +kernel)]
    decide +kernel
  have hkept := h _ _ firstVc .io hevent .vcs 1 Nat.zero_lt_one hrun.1
  rw [hevent] at hkept
  exact hrun.2 hkept

end Server
end TcpUdp
