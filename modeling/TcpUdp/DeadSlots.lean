import TcpUdp.DescriptorsTheorems

/-!
# Dead slots, and runs of the descriptor machine

`getDeadSlots()` looks at one slot after the other while connections go on dying, so what it
returns lies between what had been disconnected when it took the lock and what had been when
it returned (`DeadSlots`). The vector cannot change in between.

`no_cascade` puts this together with custody of the descriptors for every run.
-/

namespace TcpUdp
namespace Descriptors

open Lib

variable {s : Descriptors}

/-! ## One call -/

/-- `dead` are the slots whose connection had been disconnected: all that had been when the
call took the lock, and none that had not been when it returned. -/
structure DeadSlots (dead : List ℕ) (connections before after : List ConnId) : Prop where
  slots : ∀ i ∈ dead, i < connections.length
  sorted : dead.Pairwise (· < ·)
  complete : ∀ i c, connections[i]? = some c → c ∈ before → i ∈ dead
  sound : ∀ i c, connections[i]? = some c → i ∈ dead → c ∈ after

lemma DeadSlots.mono {dead : List ℕ} {connections before after after' : List ConnId}
    (h : DeadSlots dead connections before after) (hafter : ∀ c ∈ after, c ∈ after') :
    DeadSlots dead connections before after' :=
  ⟨h.slots, h.sorted, h.complete, fun i c hi hd => hafter c (h.sound i c hi hd)⟩

/-- The loop looks at one more slot. -/
lemma DeadSlots.look {dead : List ℕ} {connections before after : List ConnId}
    (h : DeadSlots dead connections before after) {c : ConnId} {isDead : Bool}
    (hdead : isDead = true ↔ c ∈ after) (hbefore : c ∈ before → c ∈ after) :
    DeadSlots (if isDead then dead ++ [connections.length] else dead) (connections ++ [c])
      before after := by
  have hmem : ∀ i, i ∈ (if isDead then dead ++ [connections.length] else dead) ↔
      i ∈ dead ∨ (isDead = true ∧ i = connections.length) := by
    intro i
    split_ifs with hd <;> simp [hd]
  have hget : ∀ i c', (connections ++ [c])[i]? = some c' →
      connections[i]? = some c' ∨ (i = connections.length ∧ c' = c) := by
    intro i c' hi
    rcases Nat.lt_trichotomy i connections.length with hlt | rfl | hgt
    · rw [List.getElem?_append_left hlt] at hi
      exact Or.inl hi
    · rw [List.getElem?_concat_length] at hi
      exact Or.inr ⟨rfl, (Option.some.inj hi).symm⟩
    · rw [List.getElem?_eq_none
        (by rw [List.length_append, List.length_singleton]; exact hgt)] at hi
      cases hi
  refine ⟨fun i hi => ?_, ?_, fun i c' hi hc' => ?_, fun i c' hi hd => ?_⟩
  · rw [List.length_append, List.length_singleton]
    rcases (hmem i).mp hi with hi | ⟨-, rfl⟩
    · exact Nat.lt_succ_of_lt (h.slots i hi)
    · exact Nat.lt_succ_self _
  · split_ifs
    · refine List.pairwise_append.mpr ⟨h.sorted, List.pairwise_singleton _ _, fun i hi j hj => ?_⟩
      rw [List.mem_singleton.mp hj]
      exact h.slots i hi
    · exact h.sorted
  · rw [hmem]
    rcases hget i c' hi with hi | ⟨rfl, rfl⟩
    · exact Or.inl (h.complete i c' hi hc')
    · exact Or.inr ⟨hdead.mpr (hbefore hc'), rfl⟩
  · rcases hget i c' hi with hi | ⟨rfl, rfl⟩
    · rcases (hmem i).mp hd with hd | ⟨-, rfl⟩
      · exact h.sound i c' hi hd
      · rw [List.getElem?_eq_none le_rfl] at hi
        cases hi
    · rcases (hmem _).mp hd with hd | ⟨hd, -⟩
      · exact absurd (h.slots _ hd) (Nat.lt_irrefl _)
      · exact hdead.mp hd

structure Queries (s : Descriptors) : Prop where
  flags : ∀ c < s.nextConn, (s.conns c).connected = false ↔ c ∈ s.disconnected
  looking : ∀ k i dead before, s.queries k = .looking i dead before →
    s.disconnectMutex = some k ∧ (∀ c ∈ before, c ∈ s.disconnected)
      ∧ DeadSlots dead (s.connections.take i) before s.disconnected
  returned : ∀ k dead connections before after,
    s.queries k = .returned dead connections before after →
      DeadSlots dead connections before after

/-- A step outside `getDeadSlots()`: the vector changes only when the lock is free, and
connections only ever become disconnected. -/
lemma Queries.other (hs : Queries s) {s' : Descriptors} (hq : s'.queries = s.queries)
    (hm : s'.disconnectMutex = s.disconnectMutex)
    (hv : s'.connections = s.connections ∨ s.disconnectMutex = none)
    (hd : ∀ c ∈ s.disconnected, c ∈ s'.disconnected)
    (hflags : ∀ c < s'.nextConn, (s'.conns c).connected = false ↔ c ∈ s'.disconnected) :
    Queries s' where
  flags := hflags
  looking k i dead before h := by
    obtain ⟨hk, hbefore, hdead⟩ := hs.looking k i dead before (hq ▸ h)
    rcases hv with hv | hv
    · rw [hm, hv]
      exact ⟨hk, fun c hc => hd c (hbefore c hc), hdead.mono hd⟩
    · rw [hk] at hv
      cases hv
  returned k dead connections before after h := hs.returned k dead connections before after (hq ▸ h)

lemma flags_setConn (hs : Queries s) (c : ConnId) {f : TcpConnection → TcpConnection}
    (hf : ∀ conn, (f conn).connected = conn.connected) :
    ∀ c' < s.nextConn, ((s.setConn c f).conns c').connected = false ↔ c' ∈ s.disconnected := by
  intro c' hc'
  simp only [setConn, Function.update_apply]
  split_ifs with h
  · rw [hf, ← h]
    exact hs.flags c' hc'
  · exact hs.flags c' hc'

lemma queries_disconnectStep (hs : Queries s) (k : ℕ) : Queries (s.disconnectStep k) := by
  have hsame : ∀ c ∈ s.disconnected, c ∈ s.disconnected := fun _ h => h
  rw [disconnectStep]
  split
  · exact hs
  all_goals rename_i c _
  · split_ifs
    · exact hs.other rfl rfl (Or.inl rfl) hsame
        (flags_setConn hs c (f := fun conn => conn.setMutex (some k)) fun _ => rfl)
    · exact hs
  · exact hs.other rfl rfl (Or.inl rfl) hsame hs.flags
  · split_ifs <;> exact hs.other rfl rfl (Or.inl rfl) hsame hs.flags
  · exact hs.other rfl rfl (Or.inl rfl) hsame
      (flags_setConn hs c (f := .clearFd) fun _ => rfl)
  · refine hs.other rfl rfl (Or.inl rfl) (fun _ h => List.mem_cons_of_mem _ h) fun c' hc' => ?_
    simp only [setDisconnect, markDisconnected, setConn, Function.update_apply, List.mem_cons]
    split_ifs with h
    · exact iff_of_true rfl (Or.inl h)
    · rw [or_iff_right h]
      exact hs.flags c' hc'
  · exact hs.other rfl rfl (Or.inl rfl) hsame
      (flags_setConn hs c (f := fun conn => conn.setMutex none) fun _ => rfl)

lemma queries_callGetDeadSlots (hs : Queries s) (k : ℕ) : Queries (s.callGetDeadSlots k) := by
  rw [callGetDeadSlots]
  split_ifs with hfree
  · refine ⟨hs.flags, fun k' i dead before h => ?_, fun k' dead connections before after h => ?_⟩
    · simp only [setQuery, setMutex, Function.update_apply] at h ⊢
      split_ifs at h with hk
      · cases h
        refine ⟨by rw [hk], fun _ h => h, ?_⟩
        rw [List.take_zero]
        exact ⟨fun i hi => absurd hi List.not_mem_nil, List.Pairwise.nil, fun i c hi => by simp at hi,
          fun i c hi => by simp at hi⟩
      · have := (hs.looking k' i dead before h).1
        rw [hfree] at this
        cases this
    · simp only [setQuery, setMutex, Function.update_apply] at h
      split_ifs at h
      exact hs.returned k' dead connections before after h
  · exact hs

lemma queries_getDeadSlotsStep (hs : Queries s) (hrefs : Refs s) (k : ℕ) :
    Queries (s.getDeadSlotsStep k) := by
  rw [getDeadSlotsStep]
  split
  · rename_i i dead before hq
    obtain ⟨hm, hbefore, hdead⟩ := hs.looking k i dead before hq
    split
    · rename_i c hc
      have hlt : c < s.nextConn := (hrefs.alive c (Or.inl (mem_vectors.mpr
        (Or.inl (List.mem_of_getElem? hc))))).1
      refine ⟨hs.flags, fun k' i' dead' before' h => ?_, fun k' dead' conns before' after h => ?_⟩
      · simp only [setQuery, Function.update_apply] at h ⊢
        by_cases hk : k' = k
        · rw [if_pos hk] at h
          cases h
          refine ⟨hk ▸ hm, hbefore, ?_⟩
          have hflag : (!(s.conns c).connected) = true ↔ c ∈ s.disconnected := by
            rw [← hs.flags c hlt]
            simp
          have hlook := hdead.look hflag (hbefore c)
          rw [List.length_take_of_le (Nat.le_of_lt (List.getElem?_eq_some_iff.mp hc).1)] at hlook
          rw [List.take_add_one, hc]
          exact hlook
        · rw [if_neg hk] at h
          exact hs.looking k' i' dead' before' h
      · simp only [setQuery, Function.update_apply] at h
        split_ifs at h
        exact hs.returned k' dead' conns before' after h
    · rename_i hnone
      rw [List.take_of_length_le (List.getElem?_eq_none_iff.mp hnone)] at hdead
      refine ⟨hs.flags, fun k' i' dead' before' h => ?_, fun k' dead' conns before' after h => ?_⟩
      · simp only [setQuery, setMutex, Function.update_apply] at h
        split_ifs at h with hk
        have hk' := (hs.looking k' i' dead' before' h).1
        rw [hm] at hk'
        exact absurd (Option.some.inj hk').symm hk
      · simp only [setQuery, setMutex, Function.update_apply] at h
        split_ifs at h
        · cases h
          exact hdead
        · exact hs.returned k' dead' conns before' after h
  · exact hs

lemma queries_step (hs : Queries s) (hwf : Wf s) (e : Event) : Queries (step s e) := by
  have hsame : ∀ c ∈ s.disconnected, c ∈ s.disconnected := fun _ h => h
  cases e with
  | openSocket fd =>
    simp only [step]
    split_ifs
    · exact hs.other rfl rfl (Or.inl rfl) hsame hs.flags
    · exact hs
  | closeSocket fd =>
    simp only [step]
    split_ifs
    · exact hs.other rfl rfl (Or.inl rfl) hsame hs.flags
    · exact hs
  | callDisconnect k c =>
    simp only [step, callDisconnect]
    split_ifs
    · exact hs.other rfl rfl (Or.inl rfl) hsame hs.flags
    · exact hs
  | disconnect k => exact queries_disconnectStep hs k
  | callReplace k slotIndex newFd =>
    simp only [step, callReplace]
    split_ifs
    · exact hs
    · refine hs.other rfl rfl (Or.inl rfl) hsame fun c hc => ?_
      simp only [setReplace, hold, construct, Function.update_apply]
      split_ifs with hnew
      · -- the new connection is connected, and nobody has disconnected it yet
        refine iff_of_false (by simp) fun hmem => ?_
        exact Nat.lt_irrefl _ (hnew ▸ hwf.known.disconnected c hmem)
      · exact hs.flags c (Nat.lt_of_le_of_ne (Nat.le_of_lt_succ hc) hnew)
    · exact hs
  | replace k hasThread =>
    simp only [step, replaceStep]
    split
    · exact hs
    · split_ifs with hfree
      · exact hs.other rfl rfl (Or.inr hfree) hsame hs.flags
      · exact hs
    · split_ifs <;> exact hs.other rfl rfl (Or.inl rfl) hsame hs.flags
    · split_ifs <;> exact hs.other rfl rfl (Or.inl rfl) hsame hs.flags
  | callGetDeadSlots k => exact queries_callGetDeadSlots hs k
  | getDeadSlots k => exact queries_getDeadSlotsStep hs hwf.refs k
  | takeCopy k c =>
    simp only [step]
    split_ifs
    · exact hs.other rfl rfl (Or.inl rfl) hsame hs.flags
    · exact hs
  | dropCopy k => exact hs.other rfl rfl (Or.inl rfl) hsame hs.flags
  | refreshSnapshot => exact hs.other rfl rfl (Or.inl rfl) hsame hs.flags
  | destroy c =>
    simp only [step, destroy]
    split_ifs
    · exact hs.other rfl rfl (Or.inl rfl) hsame
        (flags_setConn (s := s) hs c (f := .clearFd) fun _ => rfl)
    · exact hs.other rfl rfl (Or.inl rfl) hsame hs.flags
    · exact hs

/-! ## Runs -/

section Run

variable (sockets : OpenSockets)

lemma wf_init : Wf (init sockets) where
  refs := by
    refine ⟨fun c hc => ⟨?_, List.not_mem_nil⟩, nofun, nofun⟩
    rcases hc with hc | hc
    · rw [mem_vectors] at hc
      rcases hc with h | h | h | h
      all_goals first | exact List.mem_range.mp h | cases h
    · cases hc
  locks := fun _ _ h => by cases h
  known := by
    refine ⟨nofun, nofun, nofun, fun fd o h => ?_⟩
    simp only [init] at h
    split_ifs at h with hmem
    exact sockets.open_of_mem fd hmem

/-- Connection `i` has the `i`-th socket, and the table says so. -/
lemma custody_init : (custody (init sockets)).Safe := by
  refine ⟨fun c fd => ?_, nofun, List.nodup_nil⟩
  show (init sockets).handle c = some fd ↔ ownedBy ((init sockets).owner fd) = some c
  rw [handle_eq_some, ownedBy_eq_some]
  simp only [init, Released, List.getD_eq_getElem?_getD, reduceCtorEq, exists_false, or_false]
  constructor
  · rintro ⟨hc, -, rfl⟩
    rw [List.getElem?_eq_getElem hc, Option.getD_some, if_pos (List.getElem_mem hc),
      sockets.nodup.idxOf_getElem c hc]
  · intro h
    split_ifs at h with hmem
    cases h
    have hlt := List.idxOf_lt_length_of_mem hmem
    rw [List.getElem?_eq_getElem hlt, Option.getD_some, List.getElem_idxOf hlt]
    exact ⟨hlt, fun hneg => absurd (hneg ▸ sockets.open_of_mem fd hmem) (by decide), rfl⟩

lemma queries_init : Queries (init sockets) where
  flags c _ := iff_of_false (by simp [init]) List.not_mem_nil
  looking _ _ _ _ h := by cases h
  returned _ _ _ _ _ h := by cases h

variable (events : ℕ → Event) (n : ℕ)

theorem invariants_stateAt : Wf (stateAt sockets events n)
    ∧ (custody (stateAt sockets events n)).Safe ∧ Queries (stateAt sockets events n) := by
  refine runState_invariant (P := fun s => Wf s ∧ (custody s).Safe ∧ Queries s)
    ⟨wf_init sockets, custody_init sockets, queries_init sockets⟩ ?_ (Q := fun _ => True)
    (fun _ => trivial) n
  rintro s e - ⟨hwf, hsafe, hqueries⟩
  exact ⟨wf_step hwf e, hsafe.step (custody_step hwf e), queries_step hqueries hwf e⟩

/-- Killing or replacing a slot does not cascade. Every `SocketClose` of a connection hits a
descriptor of its own, no connection calls it twice, and `getDeadSlots()` returns the slots
whose connection has been disconnected. -/
theorem no_cascade :
    (∀ e ∈ (stateAt sockets events n).closes, e.owner = some (.conn e.conn))
      ∧ ((stateAt sockets events n).closes.map Close.conn).Nodup
      ∧ ∀ k dead connections before after,
        (stateAt sockets events n).queries k = .returned dead connections before after →
          DeadSlots dead connections before after := by
  obtain ⟨-, hsafe, hqueries⟩ := invariants_stateAt sockets events n
  refine ⟨fun e he => ?_, ?_, hqueries.returned⟩
  · exact ownedBy_eq_some.mp (hsafe.returned _ (List.mem_map_of_mem he)).1
  · have honce := hsafe.once
    rw [custody, List.map_map] at honce
    exact honce

/-- No call of `disconnect()` and no vector uses an object whose destructor has run. -/
theorem not_destroyed {c : ConnId} (h : (stateAt sockets events n).Referenced c) :
    c ∉ (stateAt sockets events n).destroyed :=
  ((invariants_stateAt sockets events n).1.refs.alive c h).2

/-- Nothing leaks: an open descriptor of a connection is the one in its `socketFd`. -/
theorem socketFd_of_owner {c : ConnId} {fd : SocketFd}
    (h : (stateAt sockets events n).owner fd = some (.conn c)) :
    ((stateAt sockets events n).conns c).socketFd = fd := by
  have hsafe := (invariants_stateAt sockets events n).2.1
  exact (handle_eq_some.mp ((hsafe.own c fd).mpr (ownedBy_eq_some.mpr h))).2.2

end Run

end Descriptors
end TcpUdp
