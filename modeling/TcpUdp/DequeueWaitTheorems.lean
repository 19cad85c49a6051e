import TcpUdp.DequeueWait

/-!
# No consumer of a `BlockingQueue` sleeps over a packet

`notify_one` wakes one thread, and the packet it stands for may be gone when that thread looks:
another thread has taken it. What is kept is a count (`Lib.WaitSet.Supplied`): there are never
more packets than threads on their way while somebody is blocked.
-/

namespace TcpUdp
namespace DequeueWait

open Lib WaitSet

variable {τ : Type} [DecidableEq τ] [Fintype τ] {s : DequeueWait τ}

/-! ## Alone, the steps are the operations of `BlockingQueue` -/

omit [Fintype τ] in
theorem push_alone {t : τ} {q : BlockingQueue} (hplace : s.place t = .idle)
    (hqueue : s.queue = q.queue) (data : Packet) :
    (s.push t data).queue = (q.enqueue data).queue := by
  simp only [push, hplace, hqueue, BlockingQueue.enqueue]

omit [Fintype τ] in
theorem tryDequeue_alone {t : τ} {q : BlockingQueue} (hplace : s.place t = .idle)
    (hqueue : s.queue = q.queue) (hcancelled : s.cancelled = q.cancelled) :
    match q.tryDequeue with
    | none => s.tryDequeue t = s
    | some (data, q') =>
      (s.tryDequeue t).queue = q'.queue ∧ (s.tryDequeue t).handedOut = s.handedOut ++ [(t, data)] := by
  cases hq : q.queue with
  | nil => simp [BlockingQueue.tryDequeue, tryDequeue, hplace, hqueue, hq]
  | cons data queue =>
    cases hc : q.cancelled with
    | true => simp [BlockingQueue.tryDequeue, tryDequeue, hplace, hcancelled, hq, hc]
    | false =>
      simp [BlockingQueue.tryDequeue, tryDequeue, pop, hplace, hqueue, hcancelled, hq, hc]

/-! ## What a step can do -/

inductive Move (s : DequeueWait τ) : DequeueWait τ → Prop
  | stay : Move s s
  | push (t : τ) (data : Packet) (h : s.place t = .idle) :
    Move s
      { s with
        queue := s.queue ++ [data]
        place := Function.update s.place t .pushed
        enqueued := s.enqueued ++ [data] }
  | notify (t u : τ) (h : s.place t = .pushed) (hu : s.place u = .blocked) :
    Move s ((s.moveTo u .woken).moveTo t .idle)
  | notifyNobody (t : τ) (h : s.place t = .pushed) (hu : ∀ v, s.place v ≠ .blocked) :
    Move s (s.moveTo t .idle)
  | start (t : τ) (h : s.place t = .idle) : Move s (s.moveTo t .entering)
  | block (t : τ) (h : s.place t = .entering ∨ s.place t = .woken) (hqueue : s.queue = [])
    (hcancelled : s.cancelled = false) : Move s (s.moveTo t .blocked)
  | leave (t : τ) (h : s.place t = .entering ∨ s.place t = .woken) (hcancelled : s.cancelled = true) :
    Move s (s.moveTo t .idle)
  | pop (t : τ) (data : Packet) (queue : List Packet)
    (h : s.place t = .idle ∨ s.place t = .entering ∨ s.place t = .woken)
    (hqueue : s.queue = data :: queue) (hcancelled : s.cancelled = false) :
    Move s
      { s with
        queue := queue
        place := Function.update s.place t .idle
        handedOut := s.handedOut ++ [(t, data)] }
  | wake (t : τ) (h : s.place t = .blocked) : Move s (s.moveTo t .woken)
  | cancel (t : τ) (h : s.place t = .idle) :
    Move s { s with cancelled := true, place := Function.update s.place t .cancelling }
  | notifyAll (t : τ) (h : s.place t = .cancelling) :
    Move s
      { s with
        place := fun u =>
          if u = t then .idle else if s.place u = .blocked then .woken else s.place u }

omit [Fintype τ] in
lemma move_pop (t : τ) (h : s.place t = .idle ∨ s.place t = .entering ∨ s.place t = .woken)
    (hcancelled : s.cancelled = false) : Move s (s.pop t) := by
  unfold pop
  split
  · rename_i data queue hqueue
    exact .pop t data queue h hqueue hcancelled
  · exact .stay

omit [Fintype τ] in
lemma move_evaluate (t : τ) (h : s.place t = .entering ∨ s.place t = .woken) :
    Move s (if s.queue.isEmpty && !s.cancelled then s.moveTo t .blocked
      else if s.cancelled then s.moveTo t .idle else s.pop t) := by
  split_ifs with hwait hcancelled
  · simp only [Bool.and_eq_true, List.isEmpty_iff, Bool.not_eq_true'] at hwait
    exact .block t h hwait.1 hwait.2
  · exact .leave t h hcancelled
  · exact move_pop t (Or.inr h) (eq_false_of_ne_true hcancelled)

theorem step_cases (s : DequeueWait τ) (e : Event τ) : Move s (s.step e) := by
  cases e with
  | push t data =>
    show Move s (s.push t data)
    unfold push
    split
    · exact .push t data ‹_›
    · exact .stay
  | notifyOne t u =>
    show Move s (s.notifyOne t u)
    unfold notifyOne
    split
    · rename_i hplace
      split_ifs with hu hnobody
      · exact .notify t u hplace hu
      · exact .notifyNobody t hplace hnobody
      · exact .stay
    · exact .stay
  | startDequeue t =>
    show Move s (s.startDequeue t)
    unfold startDequeue
    split
    · exact .start t ‹_›
    · exact .stay
  | evaluate t =>
    show Move s (s.evaluate t)
    unfold evaluate
    split
    · exact move_evaluate t (Or.inl ‹_›)
    · exact move_evaluate t (Or.inr ‹_›)
    · exact .stay
  | wake t =>
    show Move s (s.wake t)
    unfold wake
    split
    · exact .wake t ‹_›
    · exact .stay
  | tryDequeue t =>
    show Move s (s.tryDequeue t)
    unfold tryDequeue
    split
    · rename_i hplace
      split_ifs with hnone
      · exact .stay
      · rw [Bool.or_eq_true, not_or] at hnone
        exact move_pop t (Or.inl hplace) (eq_false_of_ne_true hnone.2)
    · exact .stay
  | cancel t =>
    show Move s (s.cancel t)
    unfold cancel
    split
    · exact .cancel t ‹_›
    · exact .stay
  | notifyAll t =>
    show Move s (s.notifyAll t)
    unfold notifyAll
    split
    · exact .notifyAll t ‹_›
    · exact .stay

/-! ## The invariant -/

/-- Before a cancellation the packets are covered, after it the last `notify_all` is. -/
structure Waiting (s : DequeueWait τ) : Prop where
  supplied : s.cancelled = false → Supplied s.queue.length (Place.role ∘ s.place)
  cancelled : s.cancelled = true → ∀ t, s.place t = .blocked → ∃ u, s.place u = .cancelling
  fifo : s.Fifo

omit [Fintype τ] in
/-- Who cancels goes on to notify, whatever the others do. -/
lemma cancelling_update {t : τ} {place : Place} (hfrom : s.place t ≠ .cancelling)
    (hto : place ≠ .blocked)
    (h : ∀ u, s.place u = .blocked → ∃ v, s.place v = .cancelling) (u : τ)
    (hu : Function.update s.place t place u = .blocked) :
    ∃ v, Function.update s.place t place v = .cancelling := by
  have hne : u ≠ t := by
    rintro rfl
    rw [Function.update_self] at hu
    exact hto hu
  rw [Function.update_of_ne hne] at hu
  obtain ⟨v, hv⟩ := h u hu
  refine ⟨v, ?_⟩
  rw [Function.update_of_ne, hv]
  rintro rfl
  exact hfrom hv

lemma role_eq_blocked {place : Place} : place.role = .blocked ↔ place = .blocked := by
  cases place <;> simp [Place.role]

omit [DecidableEq τ] in
/-- Where nobody is blocked, everything is covered. -/
lemma supplied_of_no_blocked {place : τ → Place} (h : ∀ v, place v ≠ .blocked) (n : ℕ) :
    Supplied n (Place.role ∘ place) := by
  refine supplied_of_nobody fun v hv => h v ?_
  rwa [Function.comp_apply, role_eq_blocked] at hv

omit [Fintype τ] in
lemma role_update {t : τ} {place : Place} (h : place.role = (s.place t).role) :
    Place.role ∘ Function.update s.place t place = Place.role ∘ s.place := by
  rw [Function.comp_update, h]
  exact Function.update_eq_self t (Place.role ∘ s.place)

lemma waiting_step (h : Waiting s) (e : Event τ) : Waiting (s.step e) := by
  have hmove := step_cases s e
  generalize s.step e = s' at hmove
  cases hmove with
  | stay => exact h
  | push t data hplace =>
    refine ⟨?_, ?_, ?_⟩
    · intro hopen
      show Supplied (s.queue ++ [data]).length (Place.role ∘ Function.update s.place t .pushed)
      rw [Function.comp_update, List.length_append]
      exact (h.supplied hopen).offer (by simp [hplace, Place.role, Role.covers])
    · intro hcancelled
      exact cancelling_update (by rw [hplace]; decide) (by decide) (h.cancelled hcancelled)
    · show s.enqueued ++ [data] = s.handedOut.map Prod.snd ++ (s.queue ++ [data])
      rw [h.fifo, List.append_assoc]
  | notify t u hplace hu =>
    have hrole : (Place.role ∘ s.place) t = .notifying := by simp [hplace, Place.role]
    have hblocked : (Place.role ∘ s.place) u = .blocked := by simp [hu, Place.role]
    refine ⟨?_, ?_, h.fifo⟩
    · intro hopen
      show Supplied s.queue.length
        (Place.role ∘ Function.update (Function.update s.place u .woken) t .idle)
      rw [Function.comp_update, Function.comp_update]
      exact (h.supplied hopen).notify hrole hblocked
    · intro hcancelled
      have hne : t ≠ u := by
        rintro rfl
        rw [hplace] at hu
        cases hu
      refine cancelling_update (s := s.moveTo u .woken) ?_ (by decide) ?_
      · show Function.update s.place u .woken t ≠ _
        rw [Function.update_of_ne hne, hplace]
        decide
      · exact cancelling_update (by rw [hu]; decide) (by decide) (h.cancelled hcancelled)
  | notifyNobody t hplace hnobody =>
    have hnone : ∀ v, Function.update s.place t .idle v ≠ .blocked := by
      intro v hv
      by_cases hvt : v = t
      · rw [hvt, Function.update_self] at hv
        cases hv
      · rw [Function.update_of_ne hvt] at hv
        exact hnobody v hv
    exact ⟨fun _ => supplied_of_no_blocked hnone _, fun _ v hv => absurd hv (hnone v), h.fifo⟩
  | start t hplace =>
    refine ⟨?_, ?_, h.fifo⟩
    · intro hopen
      show Supplied s.queue.length (Place.role ∘ Function.update s.place t .entering)
      rw [role_update (by rw [hplace]; rfl)]
      exact h.supplied hopen
    · intro hcancelled
      exact cancelling_update (by rw [hplace]; decide) (by decide) (h.cancelled hcancelled)
  | block t hplace hqueue hopen =>
    refine ⟨?_, ?_, h.fifo⟩
    · intro _
      show Supplied s.queue.length _
      rw [hqueue]
      exact supplied_zero _
    · intro hcancelled
      exact absurd (hopen.symm.trans hcancelled) (by decide)
  | leave t hplace hcancelled =>
    refine ⟨?_, ?_, h.fifo⟩
    · intro hopen
      exact absurd (hopen.symm.trans hcancelled) (by decide)
    · intro _
      refine cancelling_update ?_ (by decide) (h.cancelled hcancelled)
      rcases hplace with hplace | hplace <;> rw [hplace] <;> decide
  | pop t data queue hplace hqueue hopen =>
    refine ⟨?_, ?_, ?_⟩
    · intro _
      show Supplied queue.length (Place.role ∘ Function.update s.place t .idle)
      have hsupplied := h.supplied hopen
      rw [hqueue, List.length_cons] at hsupplied
      rw [Function.comp_update]
      exact hsupplied.take t
    · intro hcancelled
      exact absurd (hopen.symm.trans hcancelled) (by decide)
    · show s.enqueued = (s.handedOut ++ [(t, data)]).map Prod.snd ++ queue
      rw [h.fifo, hqueue, List.map_append, List.map_singleton, List.append_assoc,
        List.singleton_append]
  | wake t hplace =>
    refine ⟨?_, ?_, h.fifo⟩
    · intro hopen
      show Supplied s.queue.length (Place.role ∘ Function.update s.place t .woken)
      rw [Function.comp_update]
      exact (h.supplied hopen).wake (by rw [Function.comp_apply, hplace]; rfl)
    · intro hcancelled
      exact cancelling_update (by rw [hplace]; decide) (by decide) (h.cancelled hcancelled)
  | cancel t hplace =>
    refine ⟨?_, ?_, h.fifo⟩
    · intro hopen
      cases hopen
    · intro _ _ _
      exact ⟨t, Function.update_self t _ _⟩
  | notifyAll t hplace =>
    have hnone : ∀ v, (if v = t then Place.idle
        else if s.place v = .blocked then .woken else s.place v) ≠ .blocked := by
      intro v
      split_ifs with hvt hblocked
      · decide
      · decide
      · exact hblocked
    exact ⟨fun _ => supplied_of_no_blocked hnone _, fun _ v hv => absurd hv (hnone v), h.fifo⟩

theorem waiting_stateAt (events : ℕ → Event τ) (n : ℕ) : Waiting (stateAt events n) := by
  induction n with
  | zero =>
    refine ⟨fun _ => supplied_zero _, ?_, rfl⟩
    intro hcancelled
    cases hcancelled
  | succ n ih => exact waiting_step ih (events n)

/-! ## After a cancellation -/

lemma handedOut_step (h : s.cancelled = true) (e : Event τ) :
    (s.step e).cancelled = true ∧ (s.step e).handedOut = s.handedOut := by
  have hmove := step_cases s e
  generalize s.step e = s' at hmove
  cases hmove with
  | pop t data queue hplace hqueue hopen => exact absurd (hopen.symm.trans h) (by decide)
  | cancel t hplace => exact ⟨rfl, rfl⟩
  | _ => exact ⟨h, rfl⟩

lemma handedOut_of_cancelled {events : ℕ → Event τ} {m : ℕ}
    (h : (stateAt events m).cancelled = true) (k : ℕ) :
    (stateAt events (m + k)).cancelled = true
      ∧ (stateAt events (m + k)).handedOut = (stateAt events m).handedOut := by
  induction k with
  | zero => exact ⟨h, rfl⟩
  | succ k ih =>
    obtain ⟨hcancelled, hsame⟩ := handedOut_step ih.1 (events (m + k))
    exact ⟨hcancelled, hsame.trans ih.2⟩

/-! ## What waiting threads can rely on -/

omit [DecidableEq τ] in
lemma card_onTheWay (s : DequeueWait τ) : s.onTheWay.card = cover (Place.role ∘ s.place) := by
  rw [onTheWay, cover]
  congr 1
  ext t
  rw [Finset.mem_filter, Finset.mem_filter, Function.comp_apply]
  refine and_congr_right fun _ => ?_
  cases s.place t <;> simp [Place.role, Role.covers]

omit [DecidableEq τ] in
lemma Waiting.noLostWakeup (h : Waiting s) : NoLostWakeup s := by
  refine ⟨?_, h.cancelled⟩
  intro hopen t ht
  rw [card_onTheWay]
  exact h.supplied hopen ⟨t, by rw [Function.comp_apply, role_eq_blocked]; exact ht⟩

omit [DecidableEq τ] in
/-- Where every call has returned or is blocked, the blocked ones have nothing to take. -/
lemma NoLostWakeup.at_rest (h : NoLostWakeup s)
    (hrest : ∀ t, s.place t = .idle ∨ s.place t = .blocked) {t : τ} (ht : s.place t = .blocked) :
    s.queue = [] ∧ s.cancelled = false := by
  have hopen : s.cancelled = false := by
    rw [← Bool.not_eq_true]
    intro hcancelled
    obtain ⟨u, hu⟩ := h.cancelled hcancelled t ht
    rcases hrest u with hidle | hblocked
    · rw [hu] at hidle
      cases hidle
    · rw [hu] at hblocked
      cases hblocked
  have hnobody : s.onTheWay = ∅ := by
    rw [onTheWay, Finset.filter_eq_empty_iff]
    intro u _ hu
    rcases hrest u with hplace | hplace
    · rw [hplace] at hu
      exact absurd hu (by decide)
    · rw [hplace] at hu
      exact absurd hu (by decide)
  have hlength := h.packets hopen t ht
  rw [hnobody, Finset.card_empty] at hlength
  exact ⟨List.eq_nil_of_length_eq_zero (Nat.le_zero.mp hlength), hopen⟩

theorem waits_only_while_empty (events : ℕ → Event τ) (n : ℕ) :
    NoLostWakeup (stateAt events n)
      ∧ ((∀ t, (stateAt events n).place t = .idle ∨ (stateAt events n).place t = .blocked) →
        ∀ t, (stateAt events n).place t = .blocked →
          (stateAt events n).queue = [] ∧ (stateAt events n).cancelled = false)
      ∧ Fifo (stateAt events n)
      ∧ ∀ m ≤ n, (stateAt events m).cancelled = true →
        (stateAt events n).handedOut = (stateAt events m).handedOut := by
  have h := waiting_stateAt events n
  refine ⟨h.noLostWakeup, ?_, h.fifo, ?_⟩
  · intro hrest t ht
    exact h.noLostWakeup.at_rest hrest ht
  · intro m hm hcancelled
    obtain ⟨k, rfl⟩ := Nat.exists_eq_add_of_le hm
    exact (handedOut_of_cancelled hcancelled k).2

end DequeueWait
end TcpUdp
