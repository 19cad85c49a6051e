import TcpUdp.LifecycleTheorems

/-!
# A channel that one thread closes

`close()` disconnects what is left only when its exchange finds the channel open, and then
goes through the vector as it is at that time. As long as one thread at a time calls it, and
`replaceConnection` puts new connections only into dead slots of an open channel, nothing is
connected when it returns (`Settles`).
-/

namespace TcpUdp
namespace Lifecycle

open Lib

variable {s : Lifecycle} {e : Event}

/-- Apart from `replaceConnection`, connections only die. -/
lemma connected_step (he : ∀ slotIndex, e ≠ .replaceConnection slotIndex) :
    (step s e).nextConn = s.nextConn ∧ Dying s (step s e) := by
  rcases step_cases s e with h | h
  · rw [h]
    exact ⟨rfl, rfl, fun _ h => h⟩
  · generalize step s e = t at h
    cases h with
    | die k c => exact ⟨rfl, dying_disconnect s c⟩
    | disconnectSlot k i b connected _ hdying => exact ⟨rfl, rfl, hdying⟩
    | closeSlot k i connected pc _ hdying => exact ⟨rfl, rfl, hdying⟩
    | replace slotIndex => exact absurd rfl (he slotIndex)
    | _ => exact ⟨rfl, rfl, fun _ h => h⟩

/-- A worker leaves `open()` and `close()` alone, and only a store takes `opened` back. -/
lemma worker_step (he : (∃ k c, e = .death k c) ∨ ∃ k, e = .callback k) :
    (step s e).openPc = s.openPc ∧ (step s e).closes = s.closes ∧
      ((step s e).opened = s.opened
        ∨ (step s e).opened = false ∧ ∃ k, e = .callback k ∧ s.callbacks k = .storing) := by
  rcases step_cases s e with h | h
  · rw [h]
    exact ⟨rfl, rfl, Or.inl rfl⟩
  · generalize step s e = t at h
    rcases he with ⟨k, c, rfl⟩ | ⟨k, rfl⟩
    · cases h
      exact ⟨rfl, rfl, Or.inl rfl⟩
    · cases h with
      | store k hpc => exact ⟨rfl, rfl, Or.inr ⟨rfl, k, rfl, hpc⟩⟩
      | _ => exact ⟨rfl, rfl, Or.inl rfl⟩

/-- What is known of a channel that one thread closes, as call 0. A connection that is
connected is in the vector, and a channel that is not open any more has none, but for the
time in which `close()` goes through the vector. -/
structure Settles (s : Lifecycle) : Prop where
  placed : ∀ c < s.nextConn, s.connected c = true → c ∈ s.connections
  dead : s.openPc = .returned → s.opened = false →
    s.closes 0 = .idle ∨ s.closes 0 = .exchanging ∨ s.closes 0 = .stoppingReorder → ¬ s.Alive
  below : ∀ i, s.closes 0 = .disconnecting i → s.DeadBelow i
  closed : s.closes 0 ≠ .idle → s.closes 0 ≠ .exchanging → s.opened = false

lemma settles_init (numConns : ℕ) (hasDisconnectCallback : Bool) :
    Settles (init numConns hasDisconnectCallback) where
  placed c hc _ := List.mem_range.mpr hc
  dead h := by cases h
  below i h := by cases h
  closed h := absurd rfl h

/-- Connections die, and the calls stay where they are. -/
lemma Settles.dying (hs : Settles s) {t : Lifecycle} (hnext : t.nextConn = s.nextConn)
    (hdying : Dying s t) (hopenPc : t.openPc = s.openPc) (hcloses : t.closes = s.closes)
    (hopened : t.opened = s.opened ∨ t.opened = false ∧ ¬ s.Alive) : Settles t where
  placed c hc hconn := by
    rw [hdying.1]
    exact hs.placed c (hnext ▸ hc) (hdying.2 c hconn)
  dead hret hclosed hpc := by
    rw [hopenPc] at hret
    rw [hcloses] at hpc
    rcases hopened with hopened | ⟨-, hdead⟩
    · exact fun halive => hs.dead hret (hopened ▸ hclosed) hpc (hdying.alive halive)
    · exact fun halive => hdead (hdying.alive halive)
  below i h := hdying.deadBelow (hs.below i (hcloses ▸ h))
  closed hidle hexchanging := by
    rw [hcloses] at hidle hexchanging
    rcases hopened with hopened | ⟨hopened, -⟩
    · rw [hopened]
      exact hs.closed hidle hexchanging
    · exact hopened

lemma settles_worker (hs : Settles s) (hcounted : Counted s)
    (he : (∃ k c, e = .death k c) ∨ ∃ k, e = .callback k) : Settles (step s e) := by
  have hreplace : ∀ slotIndex, e ≠ .replaceConnection slotIndex := by
    rcases he with ⟨k, c, rfl⟩ | ⟨k, rfl⟩
    · exact fun _ h => by cases h
    · exact fun _ h => by cases h
  obtain ⟨hnext, hdying⟩ := connected_step hreplace
  obtain ⟨hopenPc, hcloses, hopened⟩ := worker_step he
  refine hs.dying hnext hdying hopenPc hcloses ?_
  rcases hopened with hopened | ⟨hopened, k, -, hstoring⟩
  · exact Or.inl hopened
  · exact Or.inr ⟨hopened, hcounted.storing k hstoring⟩

lemma settles_opening (hs : Settles s) (hidle : s.closes 0 = .idle) :
    Settles (step s .opening) := by
  rcases step_cases s .opening with h | h
  · rw [h]
    exact hs
  · generalize step s .opening = t at h
    cases h with
    | publish =>
      exact ⟨hs.placed, fun _ h => (by cases h), hs.below, fun h => absurd hidle h⟩
    | _ => exact ⟨hs.placed, fun h => (by cases h), hs.below, hs.closed⟩

/-- A dead slot of an open channel gets a new connection. -/
lemma settles_replace (hs : Settles s) (hopen : s.opened = true) {slotIndex : ℕ}
    (hdead : ∀ c, s.connections[slotIndex]? = some c → s.connected c = false) :
    Settles (step s (.replaceConnection slotIndex)) := by
  rcases step_cases s (.replaceConnection slotIndex) with h | h
  · rw [h]
    exact hs
  · generalize step s (.replaceConnection slotIndex) = t at h
    cases h with
    | replace _ hfree hlt =>
      have hidle : s.closes 0 = .idle ∨ s.closes 0 = .exchanging := by
        by_contra hpc
        rw [not_or] at hpc
        have hclosed := hs.closed hpc.1 hpc.2
        rw [hopen] at hclosed
        cases hclosed
      refine ⟨fun c hc hconn => ?_, fun _ h => ?_, fun i h => ?_, hs.closed⟩
      · dsimp only at hc hconn ⊢
        by_cases hnew : c = s.nextConn
        · rw [hnew]
          exact List.mem_set hlt _
        · rw [Function.update_of_ne hnew] at hconn
          obtain ⟨j, hj, rfl⟩ := List.getElem_of_mem (hs.placed c (Nat.lt_of_le_of_ne (Nat.le_of_lt_succ hc) hnew) hconn)
          -- the connection is not the one that is replaced
          have hne : slotIndex ≠ j := by
            rintro rfl
            rw [hdead _ (List.getElem?_eq_getElem hj)] at hconn
            cases hconn
          refine List.mem_of_getElem? (i := j) ?_
          rw [List.getElem?_set_ne hne, List.getElem?_eq_getElem hj]
      · rw [show s.opened = false from h] at hopen
        cases hopen
      · have h : s.closes 0 = .disconnecting i := h
        rw [h] at hidle
        rcases hidle with hidle | hidle
        · cases hidle
        · cases hidle

lemma settles_callClose (hs : Settles s) : Settles (step s (.callClose 0)) := by
  rcases step_cases s (.callClose 0) with h | h
  · rw [h]
    exact hs
  · generalize step s (.callClose 0) = t at h
    cases h with
    | callClose _ hpc =>
      have hself : (({ s with closeCalled := true } : Lifecycle).setClose 0 .exchanging).closes 0
          = .exchanging := by
        rw [closes_setClose, if_pos rfl]
      refine ⟨hs.placed, fun hret hclosed _ => hs.dead hret hclosed (Or.inl hpc),
        fun i h => ?_, fun _ h => absurd hself h⟩
      rw [hself] at h
      cases h

/-- The body of the loop leaves slot `i` dead. -/
lemma deadBelow_disconnectSlot {i : ℕ} (h : s.DeadBelow i) :
    (s.disconnectSlot i).DeadBelow (i + 1) := by
  obtain ⟨connected, heq, hdying⟩ := disconnectSlot_eq s i
  intro j hj c hc
  have hconns : (s.disconnectSlot i).connections = s.connections := by rw [heq]
  rw [hconns] at hc
  by_cases hji : j = i
  · subst hji
    rw [disconnectSlot, hc]
    dsimp only
    split_ifs with hconn
    · exact Function.update_self ..
    · exact Bool.eq_false_of_not_eq_true hconn
  · have hdead := h j (by omega) c hc
    rw [heq, Bool.eq_false_iff]
    intro hconn
    rw [hdying c hconn] at hdead
    cases hdead

/-- A call of `close()` goes on, behind its exchange. -/
lemma settles_setClose {t : Lifecycle} {pc : ClosePc}
    (hplaced : ∀ c < t.nextConn, t.connected c = true → c ∈ t.connections)
    (hclosed : t.opened = false)
    (hdead : pc = .idle ∨ pc = .exchanging ∨ pc = .stoppingReorder →
      t.openPc = .returned → ¬ t.Alive)
    (hbelow : ∀ i, pc = .disconnecting i → t.DeadBelow i) : Settles (t.setClose 0 pc) := by
  have hpc : (t.setClose 0 pc).closes 0 = pc := by rw [closes_setClose, if_pos rfl]
  refine ⟨hplaced, fun hret _ hwhere => ?_, fun i h => ?_, fun _ _ => hclosed⟩
  · rw [hpc] at hwhere
    exact hdead hwhere hret
  · rw [hpc] at h
    exact hbelow i h

lemma settles_close (hs : Settles s) : Settles (step s (.close 0)) := by
  show Settles (s.closeStep 0)
  have hclosed := hs.closed
  rw [closeStep]
  cases hpc : s.closes 0 with
  | idle => exact hs
  | exchanging =>
    refine settles_setClose hs.placed rfl (fun hwhere hret => ?_) fun i h => ?_
    · -- a channel that was open is on its way to the loop
      have hclosed : s.opened = false := by
        rw [Bool.eq_false_iff]
        intro hopen
        rw [if_pos hopen] at hwhere
        simp at hwhere
      exact hs.dead hret hclosed (Or.inr (Or.inl hpc))
    · split_ifs at h
  | stoppingSend =>
    rw [hpc] at hclosed
    exact settles_setClose hs.placed (hclosed (by simp) (by simp)) (fun h => by simp at h)
      fun i h => by cases h
  | stoppingIo =>
    rw [hpc] at hclosed
    refine settles_setClose hs.placed (hclosed (by simp) (by simp)) (fun h => by simp at h) ?_
    intro i h j hj
    cases h
    omega
  | disconnecting i =>
    rw [hpc] at hclosed
    have hclosed := hclosed (by simp) (by simp)
    dsimp only
    split_ifs with hlt
    · obtain ⟨connected, heq, hdying⟩ := disconnectSlot_eq s i
      have hbelow := deadBelow_disconnectSlot (hs.below i hpc)
      rw [heq] at hbelow ⊢
      refine settles_setClose (fun c hc hconn => hs.placed c hc (hdying c hconn)) hclosed
        (fun h => by simp at h) fun j h => ?_
      cases h
      exact hbelow
    · have hdead : ¬ s.Alive := not_alive_of_deadBelow
        (List.getElem?_eq_none (not_lt.mp hlt)) (hs.below i hpc)
      exact settles_setClose hs.placed hclosed (fun _ _ => hdead) fun j h => by cases h
  | stoppingReorder =>
    rw [hpc] at hclosed
    have hclosed := hclosed (by simp) (by simp)
    exact settles_setClose hs.placed hclosed
      (fun _ hret => hs.dead hret hclosed (Or.inr (Or.inr hpc))) fun i h => by cases h

end Lifecycle
end TcpUdp
