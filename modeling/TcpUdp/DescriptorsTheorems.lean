import TcpUdp.Descriptors

/-!
# Descriptors in custody

The machine of `Descriptors` keeps `Lib.Custody`: an owner is a connection, and what it
still has to give back is its `socketFd`, unless a call of `disconnect()` stands between
`SocketClose` and the assignment of `-1`. Two things make each step a step of custody: the
mutex of a connection keeps all but one call out of that place, and a reference of every
call keeps the destructor away.
-/

namespace TcpUdp
namespace Descriptors

open Lib

variable {s : Descriptors}

/-! ## References -/

/-- What is referenced is alive, and a call in progress has a reference. -/
structure Refs (s : Descriptors) : Prop where
  alive : ∀ c, s.Referenced c → c < s.nextConn ∧ c ∉ s.destroyed
  inDisconnect : ∀ k c, (s.disconnects k).conn? = some c → (.disconnectCall k, c) ∈ s.held
  inReplace : ∀ k c, (s.replaces k).conn? = some c → (.replaceCall k, c) ∈ s.held

lemma referenced_of_held {h : Holder} {c : ConnId} (hmem : (h, c) ∈ s.held) : s.Referenced c :=
  Or.inr (List.mem_map_of_mem hmem)

lemma Refs.lt_of_disconnect (hs : Refs s) {k : ℕ} {c : ConnId}
    (h : (s.disconnects k).conn? = some c) : c < s.nextConn :=
  (hs.alive c (referenced_of_held (hs.inDisconnect k c h))).1

lemma Refs.setConn (hs : Refs s) (c : ConnId) (f : TcpConnection → TcpConnection) :
    Refs (s.setConn c f) := ⟨hs.alive, hs.inDisconnect, hs.inReplace⟩

lemma Refs.socketClose (hs : Refs s) (c : ConnId) : Refs (s.socketClose c) :=
  ⟨hs.alive, hs.inDisconnect, hs.inReplace⟩

lemma Refs.markDisconnected (hs : Refs s) (c : ConnId) : Refs (s.markDisconnected c) :=
  ⟨hs.alive, hs.inDisconnect, hs.inReplace⟩

lemma Refs.setMutex (hs : Refs s) (holder : Option ℕ) : Refs (s.setMutex holder) :=
  ⟨hs.alive, hs.inDisconnect, hs.inReplace⟩

lemma Refs.setQuery (hs : Refs s) (k : ℕ) (pc : DeadSlotsPc) : Refs (s.setQuery k pc) :=
  ⟨hs.alive, hs.inDisconnect, hs.inReplace⟩

/-- The new reference is to an object that is alive. -/
lemma Refs.hold (hs : Refs s) (h : Holder) {c : ConnId}
    (hc : c < s.nextConn ∧ c ∉ s.destroyed) : Refs (s.hold h c) where
  alive c' hc' := by
    rcases hc' with hv | hheld
    · exact hs.alive c' (Or.inl hv)
    · rcases List.mem_cons.mp hheld with rfl | hheld
      · exact hc
      · exact hs.alive c' (Or.inr hheld)
  inDisconnect k c' hc' := List.mem_cons_of_mem _ (hs.inDisconnect k c' hc')
  inReplace k c' hc' := List.mem_cons_of_mem _ (hs.inReplace k c' hc')

/-- A call goes on with its connection, or starts with one it holds. -/
lemma Refs.setDisconnect (hs : Refs s) {k : ℕ} {pc : DisconnectPc}
    (h : ∀ c, pc.conn? = some c → (.disconnectCall k, c) ∈ s.held) :
    Refs (s.setDisconnect k pc) where
  alive := hs.alive
  inDisconnect k' c hc := by
    simp only [Descriptors.setDisconnect, Function.update_apply] at hc
    split_ifs at hc with hk
    · exact hk ▸ h c hc
    · exact hs.inDisconnect k' c hc
  inReplace := hs.inReplace

lemma Refs.setReplace (hs : Refs s) {k : ℕ} {pc : ReplacePc}
    (h : ∀ c, pc.conn? = some c → (.replaceCall k, c) ∈ s.held) : Refs (s.setReplace k pc) where
  alive := hs.alive
  inDisconnect := hs.inDisconnect
  inReplace k' c hc := by
    simp only [Descriptors.setReplace, Function.update_apply] at hc
    split_ifs at hc with hk
    · exact hk ▸ h c hc
    · exact hs.inReplace k' c hc

/-- Only the references of calls that are over, or copies, are given up. -/
lemma Refs.release (hs : Refs s) {h : Holder}
    (hd : ∀ k, h = .disconnectCall k → s.disconnects k = .idle)
    (hr : ∀ k, h = .replaceCall k → s.replaces k = .idle) : Refs (s.release h) where
  alive c hc := by
    apply hs.alive c
    rcases hc with hv | hheld
    · exact Or.inl hv
    · obtain ⟨ref, hmem, rfl⟩ := List.mem_map.mp hheld
      exact referenced_of_held (List.mem_of_mem_filter hmem)
  inDisconnect k c hc := by
    refine List.mem_filter.mpr ⟨hs.inDisconnect k c hc, decide_eq_true fun h' => ?_⟩
    have hidle := hd k h'.symm
    rw [show (s.release h).disconnects k = .idle from hidle] at hc
    cases hc
  inReplace k c hc := by
    refine List.mem_filter.mpr ⟨hs.inReplace k c hc, decide_eq_true fun h' => ?_⟩
    have hidle := hr k h'.symm
    rw [show (s.release h).replaces k = .idle from hidle] at hc
    cases hc

/-- The vectors get elements that are referenced already. -/
lemma Refs.setVectors (hs : Refs s) {s' : Descriptors} (hv : ∀ c ∈ s'.vectors, s.Referenced c)
    (hheld : s'.held = s.held) (hdis : s'.disconnects = s.disconnects)
    (hrep : s'.replaces = s.replaces) (hnext : s'.nextConn = s.nextConn)
    (hdest : s'.destroyed = s.destroyed) : Refs s' where
  alive c hc := by
    rw [hnext, hdest]
    rcases hc with hc | hc
    · exact hs.alive c (hv c hc)
    · exact hs.alive c (Or.inr (hheld ▸ hc))
  inDisconnect := by rw [hdis, hheld]; exact hs.inDisconnect
  inReplace := by rw [hrep, hheld]; exact hs.inReplace

lemma refs_callDisconnect (hs : Refs s) (k : ℕ) (c : ConnId) : Refs (s.callDisconnect k c) := by
  rw [callDisconnect]
  split_ifs with h
  · refine (hs.hold _ (hs.alive c h.2)).setDisconnect fun c' hc' => ?_
    cases hc'
    exact List.mem_cons_self
  · exact hs

lemma refs_disconnectStep (hs : Refs s) (k : ℕ) : Refs (s.disconnectStep k) := by
  have hheld := hs.inDisconnect k
  rw [disconnectStep]
  split
  · exact hs
  all_goals
    rename_i c hpc
    have hc := hheld c (by rw [hpc]; rfl)
  · split_ifs
    · exact (hs.setConn c _).setDisconnect fun c' h => by cases h; exact hc
    · exact hs
  · exact hs.setDisconnect fun c' h => by split_ifs at h <;> (cases h; exact hc)
  · split_ifs
    · exact (hs.socketClose c).setDisconnect fun c' h => by cases h; exact hc
    · exact hs.setDisconnect fun c' h => by cases h; exact hc
  · exact (hs.setConn c _).setDisconnect fun c' h => by cases h; exact hc
  · exact (hs.markDisconnected c).setDisconnect fun c' h => by cases h; exact hc
  · refine ((hs.setConn c _).setDisconnect fun c' h => by cases h).release (fun k' h => ?_) (fun _ h => nomatch h)
    cases h
    exact Function.update_self ..

lemma Refs.markDestroyed (hs : Refs s) {c : ConnId} (hc : ¬ s.Referenced c) :
    Refs (s.markDestroyed c) where
  alive c' hc' := by
    refine ⟨(hs.alive c' hc').1, fun hmem => ?_⟩
    rcases List.mem_cons.mp hmem with rfl | hmem
    · exact hc hc'
    · exact (hs.alive c' hc').2 hmem
  inDisconnect := hs.inDisconnect
  inReplace := hs.inReplace

lemma refs_destroy (hs : Refs s) (c : ConnId) : Refs (s.destroy c) := by
  rw [destroy]
  split_ifs with h
  · exact ((hs.markDestroyed h.2.2).socketClose c).setConn c _
  · exact hs.markDestroyed h.2.2
  · exact hs

lemma refs_callReplace (hs : Refs s) (hdest : ∀ c ∈ s.destroyed, c < s.nextConn) (k : ℕ)
    (slotIndex : ℤ) (newFd : SocketFd) : Refs (s.callReplace k slotIndex newFd) := by
  rw [callReplace]
  split_ifs
  · exact hs
  · have hnew : Refs (s.construct newFd) :=
      ⟨fun c hc => ⟨Nat.lt_succ_of_lt (hs.alive c hc).1, (hs.alive c hc).2⟩, hs.inDisconnect,
        hs.inReplace⟩
    refine (hnew.hold _ ⟨Nat.lt_succ_self _, fun h => ?_⟩).setReplace fun c hc => ?_
    · exact Nat.lt_irrefl _ (hdest _ h)
    · cases hc
      exact List.mem_cons_self
  · exact hs

lemma mem_vectors {c : ConnId} : c ∈ s.vectors ↔ c ∈ s.connections ∨ c ∈ s.ioConnections
    ∨ c ∈ s.ioSnapshot ∨ c ∈ s.sendConnections := by
  simp only [vectors, List.mem_append, or_assoc]

/-- Writing a slot of one vector brings in no other connection than the new one. -/
lemma Refs.setSlot (hs : Refs s) (slotIndex : ℕ) {c : ConnId} (hc : s.Referenced c) :
    Refs (s.publish slotIndex c) ∧ Refs (s.toIoThread slotIndex c)
      ∧ Refs (s.toSendThread slotIndex c) := by
  have hset : ∀ {l : List ConnId} {c'}, c' ∈ l.set slotIndex c → c' ∈ l ∨ c' = c :=
    fun h => List.mem_or_eq_of_mem_set h
  refine ⟨?_, ?_, ?_⟩
  all_goals
    refine hs.setVectors (fun c' hc' => ?_) rfl rfl rfl rfl rfl
    rw [mem_vectors] at hc'
  · rcases hc' with h | h
    · rcases hset h with h | rfl
      · exact Or.inl (mem_vectors.mpr (Or.inl h))
      · exact hc
    · exact Or.inl (mem_vectors.mpr (Or.inr h))
  · rcases hc' with h | h | h
    · exact Or.inl (mem_vectors.mpr (Or.inl h))
    · rcases hset h with h | rfl
      · exact Or.inl (mem_vectors.mpr (Or.inr (Or.inl h)))
      · exact hc
    · exact Or.inl (mem_vectors.mpr (Or.inr (Or.inr h)))
  · rcases hc' with h | h | h | h
    · exact Or.inl (mem_vectors.mpr (Or.inl h))
    · exact Or.inl (mem_vectors.mpr (Or.inr (Or.inl h)))
    · exact Or.inl (mem_vectors.mpr (Or.inr (Or.inr (Or.inl h))))
    · rcases hset h with h | rfl
      · exact Or.inl (mem_vectors.mpr (Or.inr (Or.inr (Or.inr h))))
      · exact hc

lemma refs_replaceStep (hs : Refs s) (k : ℕ) (hasThread : Bool) :
    Refs (s.replaceStep k hasThread) := by
  have hheld := hs.inReplace k
  rw [replaceStep]
  split
  · exact hs
  all_goals
    rename_i slotIndex newConn hpc
    have hc := hheld newConn (by rw [hpc]; rfl)
    obtain ⟨hpublish, hio, hsend⟩ := hs.setSlot slotIndex (referenced_of_held hc)
  · split_ifs
    · exact hpublish.setReplace fun c' h => by cases h; exact hc
    · exact hs
  · split_ifs
    · exact hio.setReplace fun c' h => by cases h; exact hc
    · exact hs.setReplace fun c' h => by cases h; exact hc
  · split_ifs
    · refine (hsend.setReplace fun c' h => by cases h).release nofun (fun k' h => ?_)
      cases h
      exact Function.update_self ..
    · refine (hs.setReplace fun c' h => by cases h).release nofun (fun k' h => ?_)
      cases h
      exact Function.update_self ..

lemma refs_refreshSnapshot (hs : Refs s) : Refs s.refreshSnapshot := by
  refine hs.setVectors (fun c hc => Or.inl ?_) rfl rfl rfl rfl rfl
  rw [mem_vectors] at hc ⊢
  rcases hc with h | h | h | h
  · exact Or.inl h
  · exact Or.inr (Or.inl h)
  · exact Or.inr (Or.inl h)
  · exact Or.inr (Or.inr (Or.inr h))

lemma refs_callGetDeadSlots (hs : Refs s) (k : ℕ) : Refs (s.callGetDeadSlots k) := by
  rw [callGetDeadSlots]
  split_ifs
  · exact (hs.setMutex _).setQuery k _
  · exact hs

lemma refs_getDeadSlotsStep (hs : Refs s) (k : ℕ) : Refs (s.getDeadSlotsStep k) := by
  rw [getDeadSlotsStep]
  split
  · split
    · exact hs.setQuery k _
    · exact (hs.setMutex _).setQuery k _
  · exact hs

/-! ## The mutex of a connection -/

/-- A call that is past the lock has the mutex, so it is the only one. -/
def Locks (s : Descriptors) : Prop :=
  ∀ k c, (s.disconnects k).locked? = some c → (s.conns c).disconnectMutex = some k

lemma conn?_of_locked? {pc : DisconnectPc} {c : ConnId} (h : pc.locked? = some c) :
    pc.conn? = some c := by
  cases pc <;> first | exact h | cases h

lemma Locks.unique (hs : Locks s) {k k' : ℕ} {c : ConnId}
    (h : (s.disconnects k).locked? = some c) (h' : (s.disconnects k').locked? = some c) :
    k = k' := Option.some.inj ((hs k c h).symm.trans (hs k' c h'))

lemma Locks.setConn (hs : Locks s) (c : ConnId) {f : TcpConnection → TcpConnection}
    (hf : ∀ conn, (f conn).disconnectMutex = conn.disconnectMutex) : Locks (s.setConn c f) := by
  intro k c' h
  simp only [Descriptors.setConn, Function.update_apply]
  split_ifs with hc
  · rw [hf, ← hc]
    exact hs k c' h
  · exact hs k c' h

/-- A call goes on inside the lock, or leaves it. -/
lemma Locks.setDisconnect (hs : Locks s) {k : ℕ} {pc : DisconnectPc}
    (h : ∀ c, pc.locked? = some c → (s.disconnects k).locked? = some c) :
    Locks (s.setDisconnect k pc) := by
  intro k' c hc
  simp only [Descriptors.setDisconnect, Function.update_apply] at hc
  split_ifs at hc with hk
  · exact hs k' c (hk ▸ h c hc)
  · exact hs k' c hc

/-- Locking a free mutex, and unlocking: no other call is inside. -/
lemma Locks.setMutex (hs : Locks s) {k : ℕ} {c : ConnId} {pc : DisconnectPc} {m : Option ℕ}
    (hothers : ∀ k', k' ≠ k → (s.disconnects k').locked? ≠ some c)
    (hpc : ∀ c', pc.locked? = some c' → c' = c ∧ m = some k) :
    Locks ((s.setConn c fun conn => conn.setMutex m).setDisconnect k pc) := by
  intro k' c' h
  simp only [Descriptors.setConn, Descriptors.setDisconnect, Function.update_apply] at h ⊢
  split_ifs at h with hk
  · obtain ⟨rfl, rfl⟩ := hpc c' h
    rw [if_pos rfl, TcpConnection.setMutex, hk]
  · rw [if_neg fun hc : c' = c => hothers k' hk (hc ▸ h)]
    exact hs k' c' h

lemma locks_disconnectStep (hs : Locks s) (k : ℕ) : Locks (s.disconnectStep k) := by
  rw [disconnectStep]
  split
  · exact hs
  · rename_i c hpc
    split_ifs with hfree
    · refine hs.setMutex (fun k' _ h => ?_) (fun c' h => ⟨(Option.some.inj h).symm, rfl⟩)
      rw [hs k' c h] at hfree
      cases hfree
    · exact hs
  all_goals
    rename_i c hpc
    have hc : (s.disconnects k).locked? = some c := by rw [hpc]; rfl
  · exact hs.setDisconnect fun c' h => by split_ifs at h <;> (cases h; exact hc)
  · split_ifs
    · exact Locks.setDisconnect (s := s.socketClose c) hs fun c' h => by cases h; exact hc
    · exact hs.setDisconnect fun c' h => by cases h; exact hc
  · have hs' := hs.setConn c (f := .clearFd) fun _ => rfl
    exact hs'.setDisconnect fun c' h => by cases h; exact hc
  · have hs' := hs.setConn c (f := .clearConnected) fun _ => rfl
    exact Locks.setDisconnect (s := s.markDisconnected c) hs' fun c' h => by cases h; exact hc
  · refine hs.setMutex (fun k' hk' h => hk' (hs.unique h hc)) fun c' h => ?_
    cases h

lemma locks_callDisconnect (hs : Locks s) (k : ℕ) (c : ConnId) : Locks (s.callDisconnect k c) := by
  rw [callDisconnect]
  split_ifs
  · exact Locks.setDisconnect (s := s.hold _ c) hs fun c' h => by cases h
  · exact hs

lemma locks_destroy (hs : Locks s) (c : ConnId) : Locks (s.destroy c) := by
  rw [destroy]
  split_ifs
  · exact Locks.setConn (s := (s.markDestroyed c).socketClose c) hs c fun _ => rfl
  · exact hs
  · exact hs

lemma locks_callReplace (hs : Locks s) (hrefs : Refs s) (k : ℕ) (slotIndex : ℤ)
    (newFd : SocketFd) : Locks (s.callReplace k slotIndex newFd) := by
  rw [callReplace]
  split_ifs
  · exact hs
  · -- nobody is in a call on the connection that is being constructed
    intro k' c h
    have hlt := hrefs.lt_of_disconnect (conn?_of_locked? h)
    have hne : c ≠ s.nextConn := Nat.ne_of_lt hlt
    have := hs k' c h
    simpa only [setReplace, hold, construct, Function.update_of_ne hne] using this
  · exact hs

/-! ## Custody of the descriptors -/

/-- The connection has no descriptor to give back any more. -/
def Released (s : Descriptors) (c : ConnId) : Prop :=
  (s.conns c).socketFd = -1 ∨ ∃ k, s.disconnects k = .clearing c

def ownedBy : Option Owner → Option ConnId
  | some (.conn c) => some c
  | _ => none

open Classical in
/-- What a connection still has to give back. -/
noncomputable def handle (s : Descriptors) (c : ConnId) : Option SocketFd :=
  if c < s.nextConn ∧ ¬ s.Released c then some (s.conns c).socketFd else none

/-- The descriptors of the connections, as custody of handles. -/
noncomputable def custody (s : Descriptors) : Custody SocketFd ConnId where
  owner fd := ownedBy (s.owner fd)
  has := s.handle
  returned := s.closes.map fun e => ⟨e.conn, e.fd, ownedBy e.owner⟩

lemma handle_eq_some {c : ConnId} {fd : SocketFd} : s.handle c = some fd ↔
    c < s.nextConn ∧ ¬ s.Released c ∧ (s.conns c).socketFd = fd := by
  rw [handle]
  split_ifs with h
  · simp [h]
  · simp only [false_iff]
    exact fun h' => h ⟨h'.1, h'.2.1⟩

lemma handle_eq_none {c : ConnId} (h : ¬ c < s.nextConn ∨ s.Released c) : s.handle c = none := by
  rw [handle, if_neg]
  rintro ⟨h₁, h₂⟩
  exact h.elim (fun h => h h₁) h₂

lemma handle_congr {s' : Descriptors} {c : ConnId} (hnext : c < s'.nextConn ↔ c < s.nextConn)
    (hreleased : s'.Released c ↔ s.Released c)
    (hfd : (s'.conns c).socketFd = (s.conns c).socketFd) : s'.handle c = s.handle c := by
  have h := and_congr hnext (not_congr hreleased)
  rw [handle, handle]
  split_ifs with h₁ h₂ h₂
  · rw [hfd]
  · exact absurd (h.mp h₁) h₂
  · exact absurd (h.mpr h₂) h₁
  · rfl

lemma ownedBy_eq_some {o : Option Owner} {c : ConnId} :
    ownedBy o = some c ↔ o = some (.conn c) := by
  rcases o with - | (- | -) <;> simp [ownedBy]

/-- A call of `disconnect()` moves on without having closed or cleared anything. -/
lemma custody_setDisconnect {k : ℕ} {pc : DisconnectPc} (hold : ∀ c, s.disconnects k ≠ .clearing c)
    (hnew : ∀ c, pc ≠ .clearing c) : custody (s.setDisconnect k pc) = custody s := by
  refine Custody.ext rfl (funext fun c => handle_congr Iff.rfl ?_ rfl) rfl
  refine or_congr Iff.rfl (exists_congr fun k' => ?_)
  simp only [setDisconnect, Function.update_apply]
  split_ifs with hk
  · rw [hk]
    exact iff_of_false (hnew c) (hold c)
  · exact Iff.rfl

/-- A change to a connection that leaves its descriptor alone. -/
lemma custody_setConn (c : ConnId) {f : TcpConnection → TcpConnection}
    (hf : ∀ conn, (f conn).socketFd = conn.socketFd) : custody (s.setConn c f) = custody s := by
  have hfd : ∀ c', ((s.setConn c f).conns c').socketFd = (s.conns c').socketFd := by
    intro c'
    simp only [setConn, Function.update_apply]
    split_ifs with hc
    · rw [hf, hc]
    · rfl
  exact Custody.ext rfl
    (funext fun c' => handle_congr Iff.rfl (by rw [Released, Released, hfd]; rfl) (hfd c')) rfl

/-- `SocketClose`, and then the connection has nothing to give back. -/
lemma custody_close {s' : Descriptors} {c : ConnId} (hc : c < s.nextConn)
    (hhas : ¬ s.Released c) (howner : s'.owner = (s.socketClose c).owner)
    (hcloses : s'.closes = (s.socketClose c).closes) (hnext : s'.nextConn = s.nextConn)
    (hreleased : s'.Released c) (hothers : ∀ c' ≠ c, (s'.Released c' ↔ s.Released c')
      ∧ (s'.conns c').socketFd = (s.conns c').socketFd) : (custody s).Step (custody s') := by
  have heq : custody s' = (custody s).giveBack c (s.conns c).socketFd := by
    refine Custody.ext (funext fun fd => ?_) (funext fun c' => ?_) ?_
    · simp only [custody, Custody.giveBack, howner, socketClose, Function.update_apply]
      split_ifs <;> rfl
    · simp only [custody, Custody.giveBack, Function.update_apply]
      split_ifs with h
      · exact handle_eq_none (Or.inr (h ▸ hreleased))
      · exact handle_congr (by rw [hnext]) (hothers c' h).1 (hothers c' h).2
    · simp only [custody, Custody.giveBack, hcloses, socketClose, List.map_cons]
  rw [heq]
  exact .giveBack c _ (handle_eq_some.mpr ⟨hc, hhas, rfl⟩)

/-- The assignment of `-1` after `SocketClose`. -/
lemma custody_clear {k : ℕ} {c : ConnId} (hpc : s.disconnects k = .clearing c) :
    custody ((s.setConn c .clearFd).setDisconnect k (.marking c)) = custody s := by
  refine Custody.ext rfl (funext fun c' => ?_) rfl
  show handle _ c' = s.handle c'
  by_cases hc : c' = c
  · rw [hc, handle_eq_none (Or.inr (Or.inr ⟨k, hpc⟩)), handle_eq_none (Or.inr (Or.inl ?_))]
    simp only [setConn, setDisconnect, Function.update_self, TcpConnection.clearFd]
  · have hfd : ((s.setConn c .clearFd).conns c').socketFd = (s.conns c').socketFd := by
      simp only [setConn, Function.update_of_ne hc]
    refine handle_congr Iff.rfl (or_congr (by rw [← hfd]; rfl) (exists_congr fun k' => ?_)) hfd
    simp only [setConn, setDisconnect, Function.update_apply]
    split_ifs with hk
    · rw [hk, hpc, DisconnectPc.clearing.injEq]
      exact iff_of_false (by simp) (fun h => hc h.symm)
    · exact Iff.rfl

lemma custody_disconnectStep (hrefs : Refs s) (hlocks : Locks s) (k : ℕ) :
    (custody s).Step (custody (s.disconnectStep k)) := by
  rw [disconnectStep]
  split
  · exact .stutter
  all_goals
    rename_i c hpc
    have hc : c < s.nextConn := hrefs.lt_of_disconnect (by rw [hpc]; rfl)
  · split_ifs
    · rw [custody_setDisconnect (by simp [setConn, hpc]) (by simp),
        custody_setConn c (f := fun conn => conn.setMutex (some k)) fun _ => rfl]
      exact .stutter
    · exact .stutter
  · rw [custody_setDisconnect (by simp [hpc]) (by intro c'; split_ifs <;> simp)]
    exact .stutter
  · split_ifs with hfd
    · -- the mutex: no other call has closed the descriptor
      have hhas : ¬ s.Released c := by
        rintro (h | ⟨k', h⟩)
        · exact hfd h
        · have hk : k' = k := by
            apply hlocks.unique (c := c)
            · rw [h]
              rfl
            · rw [hpc]
              rfl
          rw [hk, hpc] at h
          cases h
      refine custody_close hc hhas rfl rfl rfl (Or.inr ⟨k, Function.update_self ..⟩) ?_
      intro c' hne
      refine ⟨or_congr Iff.rfl (exists_congr fun k' => ?_), rfl⟩
      simp only [setDisconnect, socketClose, Function.update_apply]
      split_ifs with hk
      · rw [hk, hpc, DisconnectPc.clearing.injEq]
        exact iff_of_false (fun h => hne h.symm) (by simp)
      · exact Iff.rfl
    · rw [custody_setDisconnect (by simp [hpc]) (by simp)]
      exact .stutter
  · rw [custody_clear hpc]
    exact .stutter
  · have hmark : custody (s.markDisconnected c) = custody s :=
      custody_setConn (s := s) c (f := .clearConnected) fun _ => rfl
    rw [custody_setDisconnect (by simp [markDisconnected, setConn, hpc]) (by simp), hmark]
    exact .stutter
  · show (custody s).Step (custody ((s.setConn c fun conn => conn.setMutex none).setDisconnect k _))
    rw [custody_setDisconnect (by simp [setConn, hpc]) (by simp),
      custody_setConn c (f := fun conn => conn.setMutex none) fun _ => rfl]
    exact .stutter

lemma custody_destroy (hrefs : Refs s) (c : ConnId) :
    (custody s).Step (custody (s.destroy c)) := by
  rw [destroy]
  split_ifs with h hfd
  · -- nobody has a reference, so nobody is in a call
    have hno : ∀ k, s.disconnects k ≠ .clearing c := by
      intro k hk
      exact h.2.2 (referenced_of_held (hrefs.inDisconnect k c (by rw [hk]; rfl)))
    have hhas : ¬ s.Released c := by
      rintro (h | ⟨k, hk⟩)
      · exact hfd h
      · exact hno k hk
    refine custody_close h.1 hhas rfl rfl rfl (Or.inl ?_) fun c' hne => ?_
    · simp only [setConn, Function.update_self, TcpConnection.clearFd]
    · have hconn : (((s.markDestroyed c).socketClose c).setConn c .clearFd).conns c' = s.conns c' :=
        Function.update_of_ne hne ..
      exact ⟨by rw [Released, Released, hconn]; rfl, by rw [hconn]⟩
  · exact .stutter
  · exact .stutter

/-! ## Everything named has been constructed -/

structure Known (s : Descriptors) : Prop where
  closes : ∀ e ∈ s.closes, e.conn < s.nextConn
  destroyed : ∀ c ∈ s.destroyed, c < s.nextConn
  disconnected : ∀ c ∈ s.disconnected, c < s.nextConn
  fds : ∀ fd o, s.owner fd = some o → 0 ≤ fd

lemma custody_callReplace (hrefs : Refs s) (hknown : Known s) (k : ℕ) (slotIndex : ℤ)
    (newFd : SocketFd) : (custody s).Step (custody (s.callReplace k slotIndex newFd)) := by
  rw [callReplace]
  split_ifs with hslot h
  · exact .stutter
  · have hfd : newFd ≠ -1 := fun hneg => by
      have hnonneg := hknown.fds _ _ h.2
      rw [hneg] at hnonneg
      exact absurd hnonneg (by decide)
    have heq : custody (((s.construct newFd).hold (.replaceCall k) s.nextConn).setReplace k
        (.publishing slotIndex.toNat s.nextConn)) = (custody s).acquire s.nextConn newFd := by
      refine Custody.ext (funext fun fd => ?_) (funext fun c => ?_) rfl
      · simp only [custody, Custody.acquire, setReplace, hold, construct, Function.update_apply]
        split_ifs <;> rfl
      · simp only [custody, Custody.acquire, Function.update_apply]
        split_ifs with hc
        · rw [hc, handle_eq_some]
          refine ⟨Nat.lt_succ_self _, ?_, ?_⟩
          · rintro (h | ⟨k', h⟩)
            · exact hfd (by simpa [setReplace, hold, construct] using h)
            · have := hrefs.lt_of_disconnect (k := k') (c := s.nextConn)
                (by rw [show s.disconnects k' = _ from h]; rfl)
              exact Nat.lt_irrefl _ this
          · simp [setReplace, hold, construct]
        · have hconn : (((s.construct newFd).hold (.replaceCall k) s.nextConn).setReplace k
              (.publishing slotIndex.toNat s.nextConn)).conns c = s.conns c :=
            Function.update_of_ne hc ..
          refine handle_congr ?_ (by rw [Released, Released, hconn]; rfl) (by rw [hconn])
          show c < s.nextConn + 1 ↔ c < s.nextConn
          exact ⟨fun h => Nat.lt_of_le_of_ne (Nat.le_of_lt_succ h) hc, Nat.lt_succ_of_lt⟩
    rw [heq]
    refine .acquire _ _ ?_ (handle_eq_none (Or.inl (Nat.lt_irrefl _))) ?_
    · simp only [custody, h.2, ownedBy]
    · intro r hr
      obtain ⟨e, he, rfl⟩ := List.mem_map.mp hr
      exact Nat.ne_of_lt (hknown.closes e he)
  · exact .stutter

lemma Known.socketClose (hs : Known s) {c : ConnId} (hc : c < s.nextConn) :
    Known (s.socketClose c) where
  closes e he := by
    rcases List.mem_cons.mp he with rfl | he
    · exact hc
    · exact hs.closes e he
  destroyed := hs.destroyed
  disconnected := hs.disconnected
  fds fd o h := by
    simp only [Descriptors.socketClose, Function.update_apply] at h
    split_ifs at h
    exact hs.fds fd o h

lemma known_disconnectStep (hs : Known s) (hrefs : Refs s) (k : ℕ) :
    Known (s.disconnectStep k) := by
  rw [disconnectStep]
  split
  · exact hs
  all_goals
    rename_i c hpc
    have hc : c < s.nextConn := hrefs.lt_of_disconnect (by rw [hpc]; rfl)
  · split_ifs <;> exact ⟨hs.closes, hs.destroyed, hs.disconnected, hs.fds⟩
  · exact ⟨hs.closes, hs.destroyed, hs.disconnected, hs.fds⟩
  · split_ifs
    · obtain ⟨h₁, h₂, h₃, h₄⟩ := hs.socketClose hc
      exact ⟨h₁, h₂, h₃, h₄⟩
    · exact ⟨hs.closes, hs.destroyed, hs.disconnected, hs.fds⟩
  · exact ⟨hs.closes, hs.destroyed, hs.disconnected, hs.fds⟩
  · refine ⟨hs.closes, hs.destroyed, fun c' h => ?_, hs.fds⟩
    rcases List.mem_cons.mp h with rfl | h
    · exact hc
    · exact hs.disconnected c' h
  · exact ⟨hs.closes, hs.destroyed, hs.disconnected, hs.fds⟩

lemma known_destroy (hs : Known s) (c : ConnId) : Known (s.destroy c) := by
  rw [destroy]
  split_ifs with h
  all_goals try exact hs
  all_goals
    have hd : Known (s.markDestroyed c) := by
      refine ⟨hs.closes, fun c' hc' => ?_, hs.disconnected, hs.fds⟩
      rcases List.mem_cons.mp hc' with rfl | hc'
      · exact h.1
      · exact hs.destroyed c' hc'
  · obtain ⟨h₁, h₂, h₃, h₄⟩ := hd.socketClose h.1
    exact ⟨h₁, h₂, h₃, h₄⟩
  · exact hd

lemma known_callReplace (hs : Known s) (k : ℕ) (slotIndex : ℤ) (newFd : SocketFd) :
    Known (s.callReplace k slotIndex newFd) := by
  rw [callReplace]
  split_ifs with hslot h
  · exact hs
  · refine ⟨fun e he => Nat.lt_succ_of_lt (hs.closes e he),
      fun c hc => Nat.lt_succ_of_lt (hs.destroyed c hc),
      fun c hc => Nat.lt_succ_of_lt (hs.disconnected c hc), fun fd o hfd => ?_⟩
    simp only [setReplace, hold, construct, Function.update_apply] at hfd
    split_ifs at hfd with heq
    · exact heq ▸ hs.fds _ _ h.2
    · exact hs.fds fd o hfd
  · exact hs

/-! ## Every step is a step of custody -/

structure Wf (s : Descriptors) : Prop where
  refs : Refs s
  locks : Locks s
  known : Known s

lemma wf_step (hs : Wf s) (e : Event) : Wf (step s e) := by
  obtain ⟨hrefs, hlocks, hknown⟩ := hs
  cases e with
  | openSocket fd =>
    simp only [step]
    split_ifs with h
    · refine ⟨⟨hrefs.alive, hrefs.inDisconnect, hrefs.inReplace⟩, hlocks, hknown.closes,
        hknown.destroyed, hknown.disconnected, fun fd' o ho => ?_⟩
      simp only [Function.update_apply] at ho
      split_ifs at ho with heq
      · exact heq ▸ h.1
      · exact hknown.fds fd' o ho
    · exact ⟨hrefs, hlocks, hknown⟩
  | closeSocket fd =>
    simp only [step]
    split_ifs
    · refine ⟨⟨hrefs.alive, hrefs.inDisconnect, hrefs.inReplace⟩, hlocks, hknown.closes,
        hknown.destroyed, hknown.disconnected, fun fd' o ho => ?_⟩
      simp only [Function.update_apply] at ho
      split_ifs at ho
      exact hknown.fds fd' o ho
    · exact ⟨hrefs, hlocks, hknown⟩
  | callDisconnect k c =>
    refine ⟨refs_callDisconnect hrefs k c, locks_callDisconnect hlocks k c, ?_⟩
    simp only [step, callDisconnect]
    split_ifs
    · exact ⟨hknown.closes, hknown.destroyed, hknown.disconnected, hknown.fds⟩
    · exact hknown
  | disconnect k => exact ⟨refs_disconnectStep hrefs k, locks_disconnectStep hlocks k,
      known_disconnectStep hknown hrefs k⟩
  | callReplace k slotIndex newFd => exact ⟨refs_callReplace hrefs hknown.destroyed k slotIndex newFd,
      locks_callReplace hlocks hrefs k slotIndex newFd, known_callReplace hknown k slotIndex newFd⟩
  | replace k hasThread =>
    refine ⟨refs_replaceStep hrefs k hasThread, ?_, ?_⟩
    · simp only [step, replaceStep]
      split <;> (try split_ifs) <;> exact hlocks
    · simp only [step, replaceStep]
      split <;> (try split_ifs) <;>
        exact ⟨hknown.closes, hknown.destroyed, hknown.disconnected, hknown.fds⟩
  | callGetDeadSlots k =>
    refine ⟨refs_callGetDeadSlots hrefs k, ?_, ?_⟩
    · simp only [step, callGetDeadSlots]
      split_ifs <;> exact hlocks
    · simp only [step, callGetDeadSlots]
      split_ifs <;> exact ⟨hknown.closes, hknown.destroyed, hknown.disconnected, hknown.fds⟩
  | getDeadSlots k =>
    refine ⟨refs_getDeadSlotsStep hrefs k, ?_, ?_⟩
    · simp only [step, getDeadSlotsStep]
      split <;> (try split) <;> exact hlocks
    · simp only [step, getDeadSlotsStep]
      split <;> (try split) <;>
        exact ⟨hknown.closes, hknown.destroyed, hknown.disconnected, hknown.fds⟩
  | takeCopy k c =>
    simp only [step]
    split_ifs with h
    · exact ⟨hrefs.hold _ (hrefs.alive c h), hlocks, hknown.closes, hknown.destroyed,
        hknown.disconnected, hknown.fds⟩
    · exact ⟨hrefs, hlocks, hknown⟩
  | dropCopy k => exact ⟨hrefs.release nofun nofun, hlocks, hknown.closes, hknown.destroyed,
      hknown.disconnected, hknown.fds⟩
  | refreshSnapshot => exact ⟨refs_refreshSnapshot hrefs, hlocks, hknown.closes, hknown.destroyed,
      hknown.disconnected, hknown.fds⟩
  | destroy c => exact ⟨refs_destroy hrefs c, locks_destroy hlocks c, known_destroy hknown c⟩

/-- Opening and closing sockets that belong to no connection. -/
lemma custody_setOwner {fd : SocketFd} {o : Option Owner} (hold : ownedBy (s.owner fd) = none)
    (hnew : ownedBy o = none) :
    custody { s with owner := Function.update s.owner fd o } = custody s := by
  refine Custody.ext (funext fun fd' => ?_) rfl rfl
  simp only [custody, Function.update_apply]
  split_ifs with h
  · rw [hnew, h, hold]
  · rfl

theorem custody_step (hs : Wf s) (e : Event) : (custody s).Step (custody (step s e)) := by
  cases e with
  | openSocket fd =>
    simp only [step]
    split_ifs with h
    · rw [custody_setOwner (by rw [h.2]; rfl) rfl]
      exact .stutter
    · exact .stutter
  | closeSocket fd =>
    simp only [step]
    split_ifs with h
    · rw [custody_setOwner (by rw [h]; rfl) rfl]
      exact .stutter
    · exact .stutter
  | callDisconnect k c =>
    simp only [step, callDisconnect]
    split_ifs with h
    · rw [custody_setDisconnect (by simp [hold, h.1]) (by simp)]
      exact .stutter
    · exact .stutter
  | disconnect k => exact custody_disconnectStep hs.refs hs.locks k
  | callReplace k slotIndex newFd => exact custody_callReplace hs.refs hs.known k slotIndex newFd
  | replace k hasThread =>
    simp only [step, replaceStep]
    split <;> (try split_ifs) <;> exact .stutter
  | callGetDeadSlots k =>
    simp only [step, callGetDeadSlots]
    split_ifs <;> exact .stutter
  | getDeadSlots k =>
    simp only [step, getDeadSlotsStep]
    split <;> (try split) <;> exact .stutter
  | takeCopy k c =>
    simp only [step]
    split_ifs <;> exact .stutter
  | dropCopy k => exact .stutter
  | refreshSnapshot => exact .stutter
  | destroy c => exact custody_destroy hs.refs c

end Descriptors
end TcpUdp
