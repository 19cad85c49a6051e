import TcpUdp.HealthyConnection
import TcpUdp.Lib.Bursts

/-!
# The send thread inside its channel

One event of a channel is a burst of events of its send thread: a step of the thread itself,
packets put on its queues, or a connection lost or replaced. With the bursts put one after another,
the progress of the thread holds inside the channel: what was put on the send queue is written in
the end (`exists_sent_of_bursts`).
-/

namespace TcpUdp

open Lib

namespace SendThread

variable {s : SendThread} {slot : ℕ} {c : ConnId} {turn : Event} {es : List Event}

/-- An event at which the thread does nothing. -/
def noTurn : Event := .replaceConnection (-1) 0

/-- A packet is put on one of the queues. -/
def Enqueues (e : Event) : Prop := ∃ p, p ≠ [] ∧ (e = .enqueueSend p ∨ e = .enqueueResend p)

/-- A connection is lost or replaced. -/
def Reconnects (e : Event) : Prop :=
  (∃ c, e = .disconnect c) ∨ ∃ slot c, e = .replaceConnection slot c

/-- What one event of a channel is for its send thread; `turn` is the step of the thread in it. -/
inductive Burst (turn : Event) (es : List Event) : Prop
  | thread (io : Io) (hturn : turn = .thread io) (hes : es = [.thread io])
  | packets (hturn : turn = noTurn) (hes : ∀ e ∈ es, Enqueues e)
  | connection (e : Event) (hturn : turn = noTurn) (hes : es = [e]) (he : Reconnects e)

lemma Burst.nothing (hturn : turn = noTurn) : Burst turn [] :=
  .packets hturn fun _ he => absurd he List.not_mem_nil

/-- The kinds of events in a burst. -/
lemma Burst.cases (h : Burst turn es) {e : Event} (he : e ∈ es) :
    (∃ io, e = .thread io ∧ turn = e ∧ es = [e]) ∨ Enqueues e ∨ Reconnects e := by
  cases h with
  | thread io hturn hes =>
    rw [hes, List.mem_singleton] at he
    exact Or.inl ⟨io, he, he ▸ hturn, he ▸ hes⟩
  | packets hturn hes => exact Or.inr (Or.inl (hes e he))
  | connection e' hturn hes he' =>
    rw [hes, List.mem_singleton] at he
    exact Or.inr (Or.inr (he ▸ he'))

lemma Enqueues.ne_thread {e : Event} (h : Enqueues e) (io : Io) : e ≠ .thread io := by
  rintro rfl
  obtain ⟨p, -, heq | heq⟩ := h
  · cases heq
  · cases heq

lemma Reconnects.ne_thread {e : Event} (h : Reconnects e) (io : Io) : e ≠ .thread io := by
  rintro rfl
  obtain ⟨c, heq⟩ | ⟨slot, c, heq⟩ := h
  · cases heq
  · cases heq

/-- The thread has a turn in the burst only if it is its whole. -/
lemma Burst.of_thread (h : Burst turn es) {io : Io} (he : .thread io ∈ es) :
    turn = .thread io ∧ es = [.thread io] := by
  rcases h.cases he with ⟨io', -, hturn, hes⟩ | henqueues | hreconnects
  · exact ⟨hturn, hes⟩
  · exact absurd rfl (henqueues.ne_thread io)
  · exact absurd rfl (hreconnects.ne_thread io)

/-- An event of a burst neither stops the thread nor cancels its queue, and its packets have
bytes. -/
lemma Burst.harmless (h : Burst turn es) {e : Event} (he : e ∈ es) :
    e ≠ .cancelWait ∧ (∀ value, e ≠ .setRunning value) ∧ ∀ p ∈ e.packets, p ≠ [] := by
  rcases h.cases he with ⟨io, rfl, -⟩ | ⟨p, hp, rfl | rfl⟩ | ⟨c, rfl⟩ | ⟨slot, c, rfl⟩
  case inr.inl.inl | inr.inl.inr =>
    refine ⟨by simp, by simp, fun q hq => ?_⟩
    rw [List.mem_singleton.mp hq]
    exact hp
  all_goals exact ⟨by simp, by simp, fun _ hp => absurd hp List.not_mem_nil⟩

/-- Before the last event of a burst the connections are what they were. -/
lemma Burst.steady (h : Burst turn es) (s : SendThread) {i : ℕ} (hi : i < es.length) :
    ((es.take i).foldl step s).connections = s.connections
      ∧ ((es.take i).foldl step s).conns = s.conns := by
  have hfirst : es.length = 1 → es.take i = [] := by
    intro hone
    have hzero : i = 0 := by omega
    rw [hzero, List.take_zero]
  cases h with
  | thread io hturn hes =>
    rw [hfirst (by rw [hes]; rfl)]
    exact ⟨rfl, rfl⟩
  | connection e hturn hes he =>
    rw [hfirst (by rw [hes]; rfl)]
    exact ⟨rfl, rfl⟩
  | packets hturn hes =>
    have htake : ∀ e ∈ es.take i, Enqueues e := fun e he => hes e (List.mem_of_mem_take he)
    revert htake
    generalize es.take i = l
    intro hl
    induction l generalizing s with
    | nil => exact ⟨rfl, rfl⟩
    | cons e l ih =>
      obtain ⟨hconnections, hconns⟩ := ih (s.step e) fun e' he' => hl e' (List.mem_cons_of_mem _ he')
      rw [List.foldl_cons, hconnections, hconns]
      obtain ⟨p, -, rfl | rfl⟩ := hl e List.mem_cons_self
      · exact ⟨rfl, rfl⟩
      · exact ⟨rfl, rfl⟩

/-- A connection stays healthy while the thread has no turn and its state is the same. -/
lemma Healthy.of_same {s' : SendThread} {e : Event} (h : Healthy slot c s turn)
    (hconnections : s'.connections = s.connections) (hconns : s'.conns = s.conns)
    (he : ∀ io, e ≠ .thread io) : Healthy slot c s' e where
  slot_lt := (numDataConns_of_length (congrArg List.length hconnections)).symm ▸ h.slot_lt
  connection := hconnections ▸ h.connection
  connected := hconns ▸ h.connected
  eligible io heq := absurd heq (he io)
  takes io heq := absurd heq (he io)

/-! ## Runs in bursts -/

section Run

variable {run : ℕ → SendThread} {turns : ℕ → Event} {bursts : ℕ → List Event} {first : ℕ}

/-- A run of a thread whose steps are bursts. -/
structure InBursts (run : ℕ → SendThread) (turns : ℕ → Event) (bursts : ℕ → List Event) : Prop where
  step : ∀ n, run (n + 1) = (bursts n).foldl step (run n)
  burst : ∀ n, Burst (turns n) (bursts n)

/-- The bursts with an idle event at the end of each. -/
def padded (bursts : ℕ → List Event) (n : ℕ) : List Event := bursts n ++ [noTurn]

lemma padded_ne_nil (bursts : ℕ → List Event) (n : ℕ) : padded bursts n ≠ [] := by simp [padded]

lemma step_noTurn (s : SendThread) : s.step noTurn = s := by
  rw [noTurn, SendThread.step, replaceConnection, if_pos (Or.inl (by decide))]

/-- The inputs of the bursts, one after another. -/
structure Unrolled (run : ℕ → SendThread) (bursts : ℕ → List Event) (u : ℕ → Event) : Prop where
  inputs : ∀ n i (h : i < (padded bursts n).length),
    u (burstStart (padded bursts) n + i) = (padded bursts n)[i]
  states : ∀ n i, i ≤ (padded bursts n).length →
    runState SendThread.step (run 0) u (burstStart (padded bursts) n + i)
      = ((padded bursts n).take i).foldl SendThread.step (run n)

lemma InBursts.exists_unrolled (h : InBursts run turns bursts) :
    ∃ u, Unrolled run bursts u := by
  obtain ⟨u, hu⟩ := exists_inputs (padded_ne_nil bursts)
  have hstep : ∀ n, run (n + 1) = (padded bursts n).foldl SendThread.step (run n) := by
    intro n
    rw [padded, List.foldl_append, ← h.step n]
    exact (step_noTurn _).symm
  exact ⟨u, hu, runState_burst hstep hu⟩

/-- The moments of the unrolled run: an event of a burst, or the idle event after it. -/
lemma Unrolled.place {u : ℕ → Event} (h : Unrolled run bursts u) (hrun : InBursts run turns bursts)
    (k : ℕ) : ∃ n, burstStart (padded bursts) n ≤ k ∧ k < burstStart (padded bursts) (n + 1) ∧
      ((∃ i, k = burstStart (padded bursts) n + i ∧ i < (bursts n).length ∧ u k ∈ bursts n
        ∧ runState SendThread.step (run 0) u k
          = ((bursts n).take i).foldl SendThread.step (run n)) ∨
      u k = noTurn ∧ runState SendThread.step (run 0) u k = run (n + 1)) := by
  obtain ⟨n, i, hi, rfl⟩ := exists_burst (padded_ne_nil bursts) k
  have hlast : i < (bursts n).length ∨ i = (bursts n).length := by
    rw [padded, List.length_append, List.length_singleton] at hi
    omega
  refine ⟨n, Nat.le_add_right _ _, Nat.add_lt_add_left hi _, ?_⟩
  rw [h.inputs n i hi, h.states n i hi.le]
  rcases hlast with hlt | rfl
  · left
    refine ⟨i, rfl, hlt, ?_, ?_⟩
    · have hget : (padded bursts n)[i] = (bursts n)[i] := List.getElem_append_left hlt
      rw [hget]
      exact List.getElem_mem hlt
    · rw [padded, List.take_append_of_le_length hlt.le]
  · right
    refine ⟨List.getElem_concat_length rfl _, ?_⟩
    rw [padded, List.take_left, ← hrun.step n]

lemma Unrolled.harmless {u : ℕ → Event} (h : Unrolled run bursts u)
    (hrun : InBursts run turns bursts) (k : ℕ) :
    u k ≠ .cancelWait ∧ (∀ value, u k ≠ .setRunning value) ∧ ∀ p ∈ (u k).packets, p ≠ [] := by
  obtain ⟨n, -, -, ⟨i, -, -, hmem, -⟩ | ⟨hidle, -⟩⟩ := h.place hrun k
  · exact (hrun.burst n).harmless hmem
  · rw [hidle]
    exact ⟨by simp [noTurn], by simp [noTurn], fun _ hp => absurd hp List.not_mem_nil⟩

lemma Unrolled.running {u : ℕ → Event} (h : Unrolled run bursts u)
    (hrun : InBursts run turns bursts) (hrunning : (run 0).running = true) (k : ℕ) :
    (runState SendThread.step (run 0) u k).running = true := by
  induction k with
  | zero => exact hrunning
  | succ k ih => exact (running_step _ (h.harmless hrun k).2.1).trans ih

/-- A moment past the beginning of burst `m` is in a burst not before `m`. -/
lemma le_of_burstStart_le {m n k : ℕ} (hm : burstStart (padded bursts) m ≤ k)
    (hk : k < burstStart (padded bursts) (n + 1)) : m ≤ n := by
  by_contra hlt
  have hle := burstStart_mono (padded bursts) (show n + 1 ≤ m by omega)
  omega

/-- The thread is scheduled in the unrolled run as in the bursts. -/
lemma Unrolled.clockRuns {u : ℕ → Event} (h : Unrolled run bursts u)
    (hrun : InBursts run turns bursts) (hclock : ClockRuns turns) : ClockRuns u where
  scheduled n := by
    obtain ⟨m, hm, io, hio⟩ := hclock.scheduled n
    refine ⟨burstStart (padded bursts) m, hm.trans (le_burstStart (padded_ne_nil bursts) m), io, ?_⟩
    have hburst : bursts m = [.thread io] := by
      cases hrun.burst m with
      | thread io' hturn hes =>
        obtain rfl := Event.thread.inj (hio.symm.trans hturn)
        exact hes
      | packets hturn => exact absurd (hio.symm.trans hturn) (by simp [noTurn])
      | connection e hturn => exact absurd (hio.symm.trans hturn) (by simp [noTurn])
    have hpos := List.length_pos_iff.mpr (padded_ne_nil bursts m)
    have hget := h.inputs m 0 hpos
    rw [Nat.add_zero] at hget
    rw [hget]
    simp only [padded, hburst]
    rfl
  passes time := by
    obtain ⟨late, hlate⟩ := hclock.passes time
    refine ⟨burstStart (padded bursts) late, fun k io hk hio => ?_⟩
    obtain ⟨n, -, hend, ⟨i, -, -, hmem, -⟩ | ⟨hidle, -⟩⟩ := h.place hrun k
    · rw [hio] at hmem
      exact hlate n io (le_of_burstStart_le hk hend) ((hrun.burst n).of_thread hmem).1
    · exact absurd (hio.symm.trans hidle) (by simp [noTurn])

lemma Unrolled.healthy {u : ℕ → Event} (h : Unrolled run bursts u)
    (hrun : InBursts run turns bursts)
    (hhealthy : ∀ n, first ≤ n → Healthy slot c (run n) (turns n)) {k : ℕ}
    (hk : burstStart (padded bursts) first ≤ k) :
    Healthy slot c (runState SendThread.step (run 0) u k) (u k) := by
  obtain ⟨n, -, hend, ⟨i, -, hi, hmem, hstate⟩ | ⟨hidle, hstate⟩⟩ := h.place hrun k
  · have hfirst := hhealthy n (le_of_burstStart_le hk hend)
    obtain ⟨hconnections, hconns⟩ := (hrun.burst n).steady (run n) hi
    rw [hstate]
    rcases (hrun.burst n).cases hmem with ⟨io, -, hturn, hes⟩ | henqueues | hreconnects
    · -- the burst is the step of the thread itself
      have hzero : i = 0 := by
        rw [hes, List.length_singleton] at hi
        omega
      rw [hzero, List.take_zero, ← hturn]
      exact hfirst
    · exact hfirst.of_same hconnections hconns henqueues.ne_thread
    · exact hfirst.of_same hconnections hconns hreconnects.ne_thread
  · have hnext := hhealthy (n + 1) ((le_of_burstStart_le hk hend).trans n.le_succ)
    rw [hstate, hidle]
    exact hnext.of_same rfl rfl (by simp [noTurn])

/-- What was put on the send queue is written in the end. -/
theorem exists_sent_of_bursts (hrun : InBursts run turns bursts) (hinit : Initial (run 0))
    (hnull : none ∉ (run 0).connections) (hrunning : (run 0).running = true)
    (hclock : ClockRuns turns)
    (hhealthy : ∀ n, first ≤ n → Healthy slot c (run n) (turns n)) {n : ℕ} {p : Packet}
    (hp : p ∈ (run n).dequeued ++ (run n).sendQueue.queue) :
    ∃ m, n ≤ m ∧ p ∈ (run m).sentOnData := by
  obtain ⟨u, hu⟩ := hrun.exists_unrolled
  have hstart : ∀ m, runState SendThread.step (run 0) u (burstStart (padded bursts) m) = run m :=
    fun m => hu.states m 0 (Nat.zero_le _)
  have hruns := hu.running hrun hrunning
  have hkept := fun k => (hu.harmless hrun k).1
  have hpackets := fun k => (hu.harmless hrun k).2.2
  have hhealthy' := fun k (hk : burstStart (padded bursts) first ≤ k) => hu.healthy hrun hhealthy hk
  have horder := dataInOrder_run hinit (hhealthy' _ le_rfl).connections_ne_nil hnull hruns
  -- it is among the packets that the unrolled run has queued
  have hqueued : p ∈ queued u (burstStart (padded bursts) n) := by
    rw [← (taken_run hinit hkept _).1, hstart n]
    exact hp
  obtain ⟨m, hm, hlength⟩ := exists_sent hinit hnull hpackets hruns hkept
    (hu.clockRuns hrun hclock) hhealthy' (burstStart (padded bursts) n) _ le_rfl
  have hle := (le_max_left _ _).trans hm
  have hsent := List.prefix_of_prefix_length_le (queued_grows u hle)
    (sentOnData_prefix_queued hinit hkept (horder m)) hlength
  have hlater := le_burstStart (padded_ne_nil bursts) m
  refine ⟨m, (le_burstStart (padded_ne_nil bursts) n).trans hle, ?_⟩
  rw [← hstart m]
  exact (sentOnData_run (run 0) u hlater).subset (hsent.subset hqueued)

end Run

end SendThread
end TcpUdp
