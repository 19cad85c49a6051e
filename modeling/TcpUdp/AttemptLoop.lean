import TcpUdp.Attribution
import TcpUdp.BestFirst

/-!
# The attempt loop of one packet

`run` goes through the order of a packet's connections once. `tried` is the history of the
slots it sends first bytes on, `passedOver` says which it leaves out; `TriesBestFirst` is
what holds of them: no slot twice, a best one first, and at the end every eligible one
unless the packet is sent.
-/

namespace TcpUdp

open Lib

namespace SendThread

variable {s : SendThread} {job : SendJob}

/-- The slot that a step of the thread sends the first bytes of a packet on. -/
def attempted (s : SendThread) : Event → Option ℕ
  | .thread _ =>
    match s.pc with
    | .sendAttempt job =>
      if job.rank < s.numDataConns ∧ s.skips job = false ∧ job.connSnap.getD job.idx none ≠ none
      then some job.idx else none
    | _ => none
  | _ => none

/-- The slot that a step of the thread goes past without a send. -/
def passedOver (s : SendThread) : Event → Option ℕ
  | .thread _ =>
    match s.pc with
    | .sendAttempt job =>
      if job.rank < s.numDataConns ∧ (s.skips job = true ∨ job.connSnap.getD job.idx none = none)
      then some job.idx else none
    | _ => none
  | _ => none

/-- The slots tried in the first `n` steps, in order. -/
def tried (s₀ : SendThread) (u : ℕ → Event) : ℕ → List ℕ
  | 0 => []
  | n + 1 => tried s₀ u n ++ ((runState step s₀ u n).attempted (u n)).toList

/-- The part of the order that the loop has come to. -/
def seen (s : SendThread) : List ℕ :=
  match s.pc with
  | .sendAttempt job => job.order.take job.rank
  | .sendFlush job _ => job.order.take (job.rank + 1)
  | _ => []

/-- Two moments of one attempt loop. -/
structure SameLoop (job job' : SendJob) : Prop where
  data : job'.data = job.data
  connSnap : job'.connSnap = job.connSnap
  scores : job'.scores = job.scores
  order : job'.order = job.order

lemma SameLoop.refl (job : SendJob) : SameLoop job job := ⟨rfl, rfl, rfl, rfl⟩

lemma SameLoop.next (job : SendJob) : SameLoop job job.next := ⟨rfl, rfl, rfl, rfl⟩

lemma SameLoop.trans {a b c : SendJob} (hab : SameLoop a b) (hbc : SameLoop b c) : SameLoop a c :=
  ⟨hbc.data.trans hab.data, hbc.connSnap.trans hab.connSnap, hbc.scores.trans hab.scores,
    hbc.order.trans hab.order⟩

/-- Every step inside the attempt loop: it goes on, past the slot it was at or still on it,
or it ends with the packet sent, or at the end of the order. -/
inductive LoopStep (s : SendThread) (job : SendJob) (e : Event) (s' : SendThread) : Prop
  | goesOn (job' : SendJob) (hjob : s'.job? = some job') (hsame : SameLoop job job')
      (hseen : s'.seen = s.seen ++ (s.attempted e).toList ++ (s.passedOver e).toList)
      (hcompleted : s'.completed = s.completed)
  | sends (slot : ℕ) (c : ConnId) (hjob : s'.job? = none) (hattempted : s.attempted e = none)
      (hcompleted : s'.completed = s.completed ++ [⟨.data, slot, c, job.data⟩])
  | givesUp (hjob : s'.job? = none) (hattempted : s.attempted e = none)
      (hseen : s.seen = job.order)

lemma take_succ_rank (h : job.rank < job.order.length) :
    job.order.take (job.rank + 1) = job.order.take job.rank ++ [job.idx] := by
  rw [List.take_add_one, List.getElem?_eq_getElem h, SendJob.idx, List.getD_eq_getElem _ _ h]
  rfl

/-- A slot is tried, or passed over: the loop moves to the next one. -/
lemma loopStep_next {io : Io} {s' : SendThread} (hpc : s.pc = .sendAttempt job)
    (hrank : job.rank < s.numDataConns) (hlen : job.order.length = s.numDataConns)
    (hpc' : s'.pc = .sendAttempt job.next ∨ ∃ flush, s'.pc = .sendFlush job flush)
    (hcompleted : s'.completed = s.completed) : LoopStep s job (.thread io) s' := by
  have hone : (s.attempted (.thread io)).toList ++ (s.passedOver (.thread io)).toList
      = [job.idx] := by
    simp only [attempted, passedOver, hpc]
    by_cases h : s.skips job = true ∨ job.connSnap.getD job.idx none = none
    · have hnot : ¬ (s.skips job = false ∧ job.connSnap.getD job.idx none ≠ none) := by
        intro hboth
        rcases h with hskip | hnull
        · rw [hboth.1] at hskip
          cases hskip
        · exact hboth.2 hnull
      rw [if_neg fun hall => hnot hall.2, if_pos ⟨hrank, h⟩]
      rfl
    · obtain ⟨hskip, hnull⟩ := not_or.mp h
      rw [if_pos ⟨hrank, Bool.eq_false_iff.mpr hskip, hnull⟩, if_neg fun hall => h hall.2]
      rfl
  have hseen : s.seen ++ (s.attempted (.thread io)).toList ++ (s.passedOver (.thread io)).toList
      = job.order.take (job.rank + 1) := by
    rw [List.append_assoc, hone, take_succ_rank (by omega), seen, hpc]
  rcases hpc' with hpc' | ⟨flush, hpc'⟩
  · exact .goesOn job.next (by rw [job?, hpc']) (.next job)
      (by rw [hseen, seen, hpc']; rfl) hcompleted
  · exact .goesOn job (by rw [job?, hpc']) (.refl job) (by rw [hseen, seen, hpc']) hcompleted

lemma loopStep_sendAttempt (io : Io) (hpc : s.pc = .sendAttempt job)
    (hlen : job.order.length = s.numDataConns) :
    LoopStep s job (.thread io) (s.stepSendAttempt job io) := by
  unfold stepSendAttempt
  split
  case isTrue hrank =>
    split
    · exact loopStep_next hpc hrank hlen (Or.inl rfl) rfl
    · split
      · exact loopStep_next hpc hrank hlen (Or.inl rfl) rfl
      · dsimp only
        split
        · split
          · exact loopStep_next hpc hrank hlen (Or.inr ⟨_, rfl⟩) rfl
          · exact loopStep_next hpc hrank hlen (Or.inl rfl) rfl
        · exact loopStep_next hpc hrank hlen (Or.inl rfl) rfl
        · exact loopStep_next hpc hrank hlen (Or.inl rfl) rfl
  case isFalse hrank =>
    refine .givesUp rfl ?_ ?_
    · simp only [attempted, hpc, hrank, false_and, if_false]
    · rw [seen, hpc]
      exact List.take_of_length_le (by omega)

lemma loopStep_sendFlush (io : Io) {flush : Flush} (hpc : s.pc = .sendFlush job flush) :
    LoopStep s job (.thread io) (s.stepSendFlush job flush io) := by
  have hattempted : s.attempted (.thread io) = none := by simp only [attempted, hpc]
  have hpassed : s.passedOver (.thread io) = none := by simp only [passedOver, hpc]
  -- inside the job nothing new is seen
  have hon : ∀ {s' : SendThread} {job' : SendJob}, s'.job? = some job' → SameLoop job job' →
      s'.seen = job.order.take (job.rank + 1) → s'.completed = s.completed →
      LoopStep s job (.thread io) s' := by
    intro s' job' hjob hsame hseen hcompleted
    refine .goesOn job' hjob hsame ?_ hcompleted
    rw [hattempted, hpassed, hseen, seen, hpc]
    simp
  unfold stepSendFlush
  rcases flushPass_cases s job.data flush io with heq | ⟨_, heq⟩ | ⟨n, _, _, _, heq⟩
  · rw [heq]
    dsimp only
    split_ifs
    · exact hon rfl (.next job) rfl rfl
    · exact .sends job.idx flush.conn rfl hattempted rfl
  · rw [heq]
    exact hon rfl (.refl job) rfl rfl
  · rw [heq]
    exact hon rfl (.refl job) rfl rfl

/-- What another thread does leaves the loop where it is. -/
lemma loopStep_other {e : Event} {s' : SendThread} (hjob : s.job? = some job)
    (hattempted : s.attempted e = none) (hpassed : s.passedOver e = none) (hpc : s'.pc = s.pc)
    (hcompleted : s'.completed = s.completed) : LoopStep s job e s' := by
  refine .goesOn job ?_ (.refl job) ?_ hcompleted
  · rw [job?, hpc]
    exact hjob
  · rw [hattempted, hpassed, seen, seen, hpc]
    simp

lemma pc_of_job (h : s.job? = some job) :
    s.pc = .sendAttempt job ∨ ∃ flush, s.pc = .sendFlush job flush := by
  rw [job?] at h
  split at h
  · rename_i hpc
    exact Or.inl (hpc.trans (congrArg _ (Option.some.inj h)))
  · rename_i flush hpc
    exact Or.inr ⟨flush, hpc.trans (congrArg (fun job => Pc.sendFlush job flush) (Option.some.inj h))⟩
  · cases h

theorem loopStep (hjob : s.job? = some job) (hlen : job.order.length = s.numDataConns) (e : Event) :
    LoopStep s job e (s.step e) := by
  cases e with
  | thread io =>
    show LoopStep s job (.thread io) (s.threadStep io)
    rcases pc_of_job hjob with hpc | ⟨flush, hpc⟩
    · rw [threadStep, hpc]
      exact loopStep_sendAttempt io hpc hlen
    · rw [threadStep, hpc]
      exact loopStep_sendFlush io hpc
  | replaceConnection slot c =>
    refine loopStep_other hjob rfl rfl ?_ ?_
    · show (s.replaceConnection slot c).pc = s.pc
      unfold SendThread.replaceConnection
      split_ifs <;> rfl
    · show (s.replaceConnection slot c).completed = s.completed
      unfold SendThread.replaceConnection
      split_ifs <;> rfl
  | _ => exact loopStep_other hjob rfl rfl rfl rfl

/-! ## The loop of one packet -/

section Loop

variable {s₀ : SendThread} {u : ℕ → Event}

/-- What the loop has done by step `n`, having come to the first `m` places of the order. -/
structure LoopHistory (s₀ : SendThread) (job : SendJob) (u : ℕ → Event) (n m : ℕ) : Prop where
  sublist : (tried s₀ u n).Sublist (job.order.take m)
  covered : ∀ i ∈ job.order.take m,
    i ∈ tried s₀ u n ∨ ∃ k < n, (runState step s₀ u k).passedOver (u k) = some i
  inside : ∀ job', (runState step s₀ u n).job? = some job' → SameLoop job job' ∧
    (runState step s₀ u n).seen = job.order.take m ∧
    (runState step s₀ u n).completed = s₀.completed
  outside : (runState step s₀ u n).job? = none →
    (∃ slot c, (runState step s₀ u n).completed
      = s₀.completed ++ [⟨.data, slot, c, job.data⟩]) ∨ job.order.take m = job.order

lemma mem_toList_of_mem {o : Option ℕ} {i : ℕ} (h : i ∈ o.toList) : o = some i :=
  Option.mem_toList.mp h

/-- A step without an attempt adds nothing to what is tried. -/
lemma tried_succ_of_none {n : ℕ} (h : (runState step s₀ u n).attempted (u n) = none) :
    tried s₀ u (n + 1) = tried s₀ u n := by
  rw [tried, h]
  exact List.append_nil _

lemma LoopHistory.covered_succ {n m : ℕ} (h : LoopHistory s₀ job u n m) :
    ∀ i ∈ job.order.take m, i ∈ tried s₀ u (n + 1) ∨
      ∃ k < n + 1, (runState SendThread.step s₀ u k).passedOver (u k) = some i := by
  intro i hi
  rcases h.covered i hi with htried | ⟨k, hk, hpassed⟩
  · exact Or.inl (List.mem_append_left _ htried)
  · exact Or.inr ⟨k, Nat.lt_succ_of_lt hk, hpassed⟩

/-- What a moment of the loop has come to is a beginning of the order. -/
lemma exists_seen_eq_take {job' : SendJob} (hjob : s.job? = some job') (hsame : SameLoop job job') :
    ∃ m, s.seen = job.order.take m := by
  rcases pc_of_job hjob with hpc | ⟨flush, hpc⟩
  · exact ⟨job'.rank, by rw [← hsame.order, seen, hpc]⟩
  · exact ⟨job'.rank + 1, by rw [← hsame.order, seen, hpc]⟩

/-- The loop goes on, with one more slot tried, passed over, or neither. -/
lemma LoopHistory.goesOn {n m : ℕ} (h : LoopHistory s₀ job u n m)
    (hseen : (runState SendThread.step s₀ u n).seen = job.order.take m)
    (hcompleted : (runState SendThread.step s₀ u n).completed = s₀.completed) {new : SendJob}
    (hnew : (runState SendThread.step s₀ u (n + 1)).job? = some new) (hsame : SameLoop job new)
    (hseen' : (runState SendThread.step s₀ u (n + 1)).seen
      = (runState SendThread.step s₀ u n).seen
        ++ ((runState SendThread.step s₀ u n).attempted (u n)).toList
        ++ ((runState SendThread.step s₀ u n).passedOver (u n)).toList)
    (hcompleted' : (runState SendThread.step s₀ u (n + 1)).completed
      = (runState SendThread.step s₀ u n).completed) : ∃ m', LoopHistory s₀ job u (n + 1) m' := by
  obtain ⟨m', hm'⟩ := exists_seen_eq_take hnew hsame
  have hsplit : job.order.take m' = job.order.take m
      ++ ((runState SendThread.step s₀ u n).attempted (u n)).toList
      ++ ((runState SendThread.step s₀ u n).passedOver (u n)).toList := by
    rw [← hm', ← hseen]
    exact hseen'
  refine ⟨m', ?_, ?_, ?_, ?_⟩
  · rw [hsplit]
    exact (h.sublist.append (List.Sublist.refl _)).trans (List.sublist_append_left _ _)
  · intro i hi
    rw [hsplit] at hi
    rcases List.mem_append.mp hi with hi | hpassed
    · rcases List.mem_append.mp hi with hi | hattempted
      · exact h.covered_succ i hi
      · exact Or.inl (List.mem_append_right _ hattempted)
    · exact Or.inr ⟨n, Nat.lt_succ_self n, mem_toList_of_mem hpassed⟩
  · intro job'' hjob''
    have heq : job'' = new := Option.some.inj (hjob''.symm.trans hnew)
    rw [heq]
    exact ⟨hsame, hm', hcompleted'.trans hcompleted⟩
  · intro hnone
    exact absurd (hnone.symm.trans hnew) (by simp)

/-- The loop ends: nothing more is tried. -/
lemma LoopHistory.ended {n m : ℕ} (h : LoopHistory s₀ job u n m)
    (hnone : (runState SendThread.step s₀ u (n + 1)).job? = none)
    (hattempted : (runState SendThread.step s₀ u n).attempted (u n) = none)
    (houtside : (∃ slot c, (runState SendThread.step s₀ u (n + 1)).completed
      = s₀.completed ++ [⟨.data, slot, c, job.data⟩]) ∨ job.order.take m = job.order) :
    LoopHistory s₀ job u (n + 1) m := by
  refine ⟨?_, h.covered_succ, ?_, fun _ => houtside⟩
  · rw [tried_succ_of_none hattempted]
    exact h.sublist
  · intro job' hjob'
    exact absurd (hnone.symm.trans hjob') (by simp)

/-- The loop's history through one more step. -/
lemma LoopHistory.step {n m : ℕ} (h : LoopHistory s₀ job u n m)
    (hlen : job.order.length = s₀.numDataConns) {job' : SendJob}
    (hjob : (runState step s₀ u n).job? = some job') : ∃ m', LoopHistory s₀ job u (n + 1) m' := by
  obtain ⟨hsame, hseen, hcompleted⟩ := h.inside job' hjob
  have hlen' : job'.order.length = (runState SendThread.step s₀ u n).numDataConns := by
    rw [hsame.order, hlen, numDataConns_run]
  cases loopStep hjob hlen' (u n) with
  | goesOn new hnew hsame' hseen' hcompleted' =>
    exact h.goesOn hseen hcompleted hnew (hsame.trans hsame') hseen' hcompleted'
  | sends slot c hnone hattempted hsent =>
    refine ⟨m, h.ended hnone hattempted (Or.inl ⟨slot, c, ?_⟩)⟩
    rw [← hcompleted, ← hsame.data]
    exact hsent
  | givesUp hnone hattempted hall =>
    refine ⟨m, h.ended hnone hattempted (Or.inr ?_)⟩
    rw [← hseen, hall, hsame.order]

lemma exists_loopHistory (hjob : s₀.job? = some job) (hseen : s₀.seen = [])
    (hlen : job.order.length = s₀.numDataConns) {n : ℕ}
    (hloop : ∀ k < n, ((runState step s₀ u k).job?).isSome) : ∃ m, LoopHistory s₀ job u n m := by
  induction n with
  | zero =>
    refine ⟨0, List.nil_sublist _, fun i hi => absurd hi List.not_mem_nil, ?_, ?_⟩
    · intro job' hjob'
      have heq : job' = job := Option.some.inj (hjob'.symm.trans hjob)
      rw [heq]
      exact ⟨.refl job, hseen, rfl⟩
    · intro hnone
      exact absurd (hnone.symm.trans hjob) (by simp)
  | succ n ih =>
    obtain ⟨m, hm⟩ := ih fun k hk => hloop k (Nat.lt_succ_of_lt hk)
    obtain ⟨job', hjob'⟩ := Option.isSome_iff_exists.mp (hloop n (Nat.lt_succ_self n))
    exact hm.step hlen hjob'

/-! ## What the loop tries -/

lemma rateConnected_ge (info : TcpConnectionRuntimeInfo) (stats : ConnSendStats) :
    -1 ≤ rateConnected info stats := by
  unfold rateConnected
  dsimp only
  split_ifs <;> omega

lemma rateConnection_ge (s : SendThread) (connSnap : List (Option ConnId)) (io : Io) (idx : ℕ) :
    -1 ≤ s.rateConnection connSnap io idx := by
  unfold rateConnection
  split
  · split_ifs
    · exact rateConnected_ge _ _
    · exact le_rfl
  · exact le_rfl

/-- The job that `run` starts with a packet. -/
structure Started (s : SendThread) (packet : Packet) (io : Io) (job : SendJob) : Prop where
  data : job.data = packet
  connSnap : job.connSnap = s.connections
  scores : job.scores
    = (List.range s.numDataConns).map fun i => s.rateConnection s.connections io i
  order : job.order = connectionOrder job.scores s.roundRobinStart
  rank : job.rank = 0
  connections : (s.stepStartPacket packet io).connections = s.connections
  roundRobinStart :
    (s.stepStartPacket packet io).roundRobinStart = (s.roundRobinStart + 1) % s.numDataConns
  numDataConns : s.numDataConns ≠ 0

lemma started {data : Packet} {io : Io} (h : (s.stepStartPacket data io).pc = .sendAttempt job) :
    Started s data io job := by
  unfold stepStartPacket at h
  dsimp only at h
  split_ifs at h with hrun hnull
  have hjob := Pc.sendAttempt.inj h
  subst hjob
  have hstep : s.stepStartPacket data io = { s with
      pc := .sendAttempt
        { data := data, connSnap := s.connections,
          scores := (List.range s.numDataConns).map fun i => s.rateConnection s.connections io i,
          order := connectionOrder
            ((List.range s.numDataConns).map fun i => s.rateConnection s.connections io i)
            s.roundRobinStart, rank := 0 }
      roundRobinStart := (s.roundRobinStart + 1) % s.numDataConns } := by
    unfold stepStartPacket
    dsimp only
    rw [if_pos hrun, if_neg hnull]
  exact ⟨rfl, rfl, rfl, rfl, rfl, by rw [hstep], by rw [hstep], fun hzero => hnull (Or.inl hzero)⟩

section Start

variable {data : Packet} {io : Io}

lemma Started.rated (h : Started s data io job) : Rated job.scores := by
  intro score hscore
  rw [h.scores] at hscore
  obtain ⟨i, _, rfl⟩ := List.mem_map.mp hscore
  exact rateConnection_ge _ _ _ _

lemma Started.length_scores (h : Started s data io job) : job.scores.length = s.numDataConns := by
  rw [h.scores, List.length_map, List.length_range]

lemma Started.bestFirst (h : Started s data io job) : BestFirst job.scores job.order := by
  rw [h.order]
  exact bestFirst_connectionOrder h.rated _

lemma Started.length_order (h : Started s data io job) : job.order.length = s.numDataConns := by
  rw [h.bestFirst.perm.length_eq, List.length_range, h.length_scores]

/-- A slot without a connection has no score. -/
lemma Started.scoreAt_of_null (h : Started s data io job) {i : ℕ}
    (hnull : job.connSnap.getD i none = none) : scoreAt job.scores i = -1 := by
  rw [h.connSnap] at hnull
  by_cases hi : i < s.numDataConns
  · rw [scoreAt, h.scores, List.getD_eq_getElem?_getD, List.getElem?_map,
      List.getElem?_range hi]
    show s.rateConnection s.connections io i = -1
    rw [rateConnection, hnull]
  · rw [scoreAt, List.getD_eq_default]
    rw [h.length_scores]
    omega

end Start

/-- A slot is passed over if its connection has no score, or, where none has a score, if it
is not connected. -/
structure Ineligible (s : SendThread) (job : SendJob) (i : ℕ) : Prop where
  ofScores : (∃ score ∈ job.scores, 0 ≤ score) → scoreAt job.scores i < 0
  ofNone : (¬ ∃ score ∈ job.scores, 0 ≤ score) → s.isConnected (job.connSnap.getD i none) = false

lemma ineligible_of_passedOver {e : Event} {i : ℕ} (hjob : s.job? = some job)
    (hnull : ∀ i, job.connSnap.getD i none = none → scoreAt job.scores i = -1)
    (h : s.passedOver e = some i) : s.Ineligible job i := by
  rcases pc_of_job hjob with hpc | ⟨flush, hpc⟩
  · cases e with
    | thread io =>
      simp only [passedOver, hpc] at h
      split_ifs at h with hpass
      have hi : job.idx = i := Option.some.inj h
      rw [← hi]
      rcases hpass.2 with hskip | hnone
      · rw [skips] at hskip
        split_ifs at hskip with hbest
        · exact ⟨fun _ => of_decide_eq_true hskip,
            fun hno => absurd (bestScore_nonneg_iff.mp hbest) hno⟩
        · refine ⟨fun hsome => absurd (bestScore_nonneg_iff.mpr hsome) hbest, fun _ => ?_⟩
          cases hconn : s.isConnected (job.connSnap.getD job.idx none)
          · rfl
          · rw [hconn] at hskip
            cases hskip
      · refine ⟨fun _ => ?_, fun _ => ?_⟩
        · rw [hnull _ hnone]
          decide
        · rw [hnone]
          rfl
    | _ => cases h
  · cases e with
    | thread io =>
      simp only [passedOver, hpc] at h
      cases h
    | _ => cases h

/-- A slot that is tried while some connection has a score has one. -/
lemma scoreAt_of_attempted {e : Event} {i : ℕ} (hjob : s.job? = some job)
    (hsome : ∃ score ∈ job.scores, 0 ≤ score) (h : s.attempted e = some i) :
    0 ≤ scoreAt job.scores i := by
  rcases pc_of_job hjob with hpc | ⟨flush, hpc⟩
  · cases e with
    | thread io =>
      simp only [attempted, hpc] at h
      split_ifs at h with htry
      have hi : job.idx = i := Option.some.inj h
      have hskip := htry.2.1
      rw [skips, if_pos (bestScore_nonneg_iff.mpr hsome)] at hskip
      rw [← hi]
      exact not_lt.mp (of_decide_eq_false hskip)
    | _ => cases h
  · cases e with
    | thread io =>
      simp only [attempted, hpc] at h
      cases h
    | _ => cases h

/-- What the attempt loop of one packet does in `n` steps. -/
structure TriesBestFirst (s₀ : SendThread) (job : SendJob) (u : ℕ → Event) (n : ℕ) : Prop where
  once : (tried s₀ u n).Nodup
  best : ∀ i, (tried s₀ u n).head? = some i → ∀ j, scoreAt job.scores j ≤ scoreAt job.scores i
  eligible : (∃ score ∈ job.scores, 0 ≤ score) → ∀ i ∈ tried s₀ u n, 0 ≤ scoreAt job.scores i
  complete : (runState step s₀ u n).job? = none →
    (∃ slot c, (runState step s₀ u n).completed
      = s₀.completed ++ [⟨.data, slot, c, job.data⟩]) ∨
    ∀ i < job.scores.length, i ∈ tried s₀ u n ∨
      ∃ k < n, (runState step s₀ u k).passedOver (u k) = some i ∧
        (runState step s₀ u k).Ineligible job i

lemma mem_tried {n i : ℕ} (h : i ∈ tried s₀ u n) :
    ∃ k < n, (runState step s₀ u k).attempted (u k) = some i := by
  induction n with
  | zero => exact absurd h List.not_mem_nil
  | succ n ih =>
    rcases List.mem_append.mp h with h | h
    · obtain ⟨k, hk, hattempted⟩ := ih h
      exact ⟨k, Nat.lt_succ_of_lt hk, hattempted⟩
    · exact ⟨n, Nat.lt_succ_self n, mem_toList_of_mem h⟩

/-- The first of an order sorted by score has the best score. -/
lemma scoreAt_le_of_head {scores : List ℤ} {order : List ℕ} {first : ℕ} {rest : List ℕ}
    (h : BestFirst scores order) (hrated : Rated scores) (horder : order = first :: rest) (j : ℕ) :
    scoreAt scores j ≤ scoreAt scores first := by
  by_cases hj : j < scores.length
  · have hmem : j ∈ order := h.perm.mem_iff.mpr (List.mem_range.mpr hj)
    have hdesc := h.descending
    rw [horder] at hmem hdesc
    rcases List.mem_cons.mp hmem with rfl | hrest
    · exact le_rfl
    · exact (List.pairwise_cons.mp hdesc).1 j hrest
  · have hout : scoreAt scores j = -1 := List.getD_eq_default _ _ (not_lt.mp hj)
    rw [hout]
    exact hrated.scoreAt first

/-- If some connection has a score, the first of the order has one. -/
lemma scoreAt_head_nonneg {scores : List ℤ} {order : List ℕ} {first : ℕ} {rest : List ℕ}
    (h : BestFirst scores order) (hrated : Rated scores) (horder : order = first :: rest)
    (hsome : ∃ score ∈ scores, 0 ≤ score) : 0 ≤ scoreAt scores first := by
  obtain ⟨score, hscore, hnonneg⟩ := hsome
  obtain ⟨b, hb, hget⟩ := List.getElem_of_mem hscore
  have hbscore : scoreAt scores b = score := by
    rw [scoreAt, List.getD_eq_getElem _ _ hb, hget]
  have hle := scoreAt_le_of_head h hrated horder b
  omega

variable {data : Packet} {io : Io} {n : ℕ}

/-- The first slot tried is a best one: the first of the order is eligible, so it was tried
before all others. -/
lemma LoopHistory.best {m : ℕ} (h : LoopHistory s₀ job u n m)
    (hbest : BestFirst job.scores job.order) (hrated : Rated job.scores)
    (hsome : ∃ score ∈ job.scores, 0 ≤ score)
    (hpassed : ∀ i, ∀ k < n, (runState SendThread.step s₀ u k).passedOver (u k) = some i →
      scoreAt job.scores i < 0)
    {i : ℕ} (hi : (tried s₀ u n).head? = some i) (j : ℕ) :
    scoreAt job.scores j ≤ scoreAt job.scores i := by
  obtain ⟨rest, hrest⟩ := List.head?_eq_some_iff.mp hi
  have himem : i ∈ job.order.take m := h.sublist.subset (hrest ▸ List.mem_cons_self)
  obtain ⟨first, tail, horder⟩ := List.exists_cons_of_ne_nil
    (List.ne_nil_of_mem (List.mem_of_mem_take himem))
  have hfirstmem : first ∈ job.order.take m := by
    rw [horder] at himem ⊢
    cases m with
    | zero => exact absurd himem List.not_mem_nil
    | succ m => exact List.mem_cons_self
  have hfirst : first ∈ tried s₀ u n := by
    rcases h.covered first hfirstmem with htried | ⟨k, hk, hover⟩
    · exact htried
    · have hlow := hpassed first k hk hover
      have hnonneg := scoreAt_head_nonneg hbest hrated horder hsome
      omega
  have hpair := hbest.descending.sublist (h.sublist.trans (List.take_sublist m job.order))
  have hhead := scoreAt_le_of_head hbest hrated horder j
  rw [hrest] at hfirst hpair
  rcases List.mem_cons.mp hfirst with rfl | htail
  · exact hhead
  · exact hhead.trans ((List.pairwise_cons.mp hpair).1 first htail)

/-- The moments of the loop all belong to the packet it was started with. -/
lemma sameLoop_of_lt (hjob : s₀.job? = some job) (hseen : s₀.seen = [])
    (hlen : job.order.length = s₀.numDataConns)
    (hloop : ∀ k < n, ((runState step s₀ u k).job?).isSome) {k : ℕ} (hk : k < n) :
    ∃ job', (runState step s₀ u k).job? = some job' ∧ SameLoop job job' := by
  obtain ⟨job', hjob'⟩ := Option.isSome_iff_exists.mp (hloop k hk)
  obtain ⟨m, hm⟩ := exists_loopHistory hjob hseen hlen fun l hl => hloop l (hl.trans hk)
  exact ⟨job', hjob', (hm.inside job' hjob').1⟩

/-- A slot that the loop passes over is not eligible. -/
lemma Started.ineligible (h : Started s data io job) {s' : SendThread} {job' : SendJob}
    (hjob : s'.job? = some job') (hsame : SameLoop job job') {e : Event} {i : ℕ}
    (hover : s'.passedOver e = some i) : s'.Ineligible job i := by
  have hnull : ∀ i, job'.connSnap.getD i none = none → scoreAt job'.scores i = -1 := by
    intro i hnone
    rw [hsame.scores]
    rw [hsame.connSnap] at hnone
    exact h.scoreAt_of_null hnone
  have hineligible := ineligible_of_passedOver hjob hnull hover
  constructor
  · rw [← hsame.scores]
    exact hineligible.ofScores
  · rw [← hsame.scores, ← hsame.connSnap]
    exact hineligible.ofNone

theorem triesBestFirst (hstart : (s.stepStartPacket data io).pc = .sendAttempt job)
    (hloop : ∀ k < n, ((runState step (s.stepStartPacket data io) u k).job?).isSome) :
    TriesBestFirst (s.stepStartPacket data io) job u n := by
  have hstarted := started hstart
  have hjob : (s.stepStartPacket data io).job? = some job := by rw [job?, hstart]
  have hseen : (s.stepStartPacket data io).seen = [] := by
    rw [seen, hstart]
    show job.order.take job.rank = []
    rw [hstarted.rank, List.take_zero]
  have hlen : job.order.length = (s.stepStartPacket data io).numDataConns := by
    rw [hstarted.length_order, numDataConns_of_eq hstarted.connections]
  obtain ⟨m, hm⟩ := exists_loopHistory hjob hseen hlen hloop
  have hrated := hstarted.rated
  have hbestFirst := hstarted.bestFirst
  have hpassed : ∀ i, ∀ k < n,
      (runState step (s.stepStartPacket data io) u k).passedOver (u k) = some i →
      (runState step (s.stepStartPacket data io) u k).Ineligible job i := by
    intro i k hk hover
    obtain ⟨job', hjob', hsame⟩ := sameLoop_of_lt hjob hseen hlen hloop hk
    exact hstarted.ineligible hjob' hsame hover
  refine ⟨?_, ?_, ?_, ?_⟩
  · have hsub := hm.sublist.trans (List.take_sublist m job.order)
    exact hsub.nodup (hbestFirst.perm.nodup_iff.mpr List.nodup_range)
  · intro i hi j
    by_cases hsome : ∃ score ∈ job.scores, 0 ≤ score
    · exact hm.best hbestFirst hrated hsome
        (fun i k hk hover => (hpassed i k hk hover).ofScores hsome) hi j
    · -- all scores are the best one
      rw [hrated.scoreAt_eq_bestScore (mt bestScore_nonneg_iff.mp hsome) i]
      exact scoreAt_le_bestScore j
  · intro hsome i hi
    obtain ⟨k, hk, hattempted⟩ := mem_tried hi
    obtain ⟨job', hjob', hsame⟩ := sameLoop_of_lt hjob hseen hlen hloop hk
    rw [← hsame.scores]
    exact scoreAt_of_attempted hjob' (by rw [hsame.scores]; exact hsome) hattempted
  · intro hnone
    refine (hm.outside hnone).imp_right fun hall i hi => ?_
    have hmem : i ∈ job.order.take m := by
      rw [hall]
      exact hbestFirst.perm.mem_iff.mpr (List.mem_range.mpr hi)
    refine (hm.covered i hmem).imp_right ?_
    rintro ⟨k, hk, hover⟩
    exact ⟨k, hk, hover, hpassed i k hk hover⟩

end Loop

/-- For all scores the order is a permutation along which they never rise, the same as with
the sort always done; and the attempt loop of any packet goes through it best first. -/
theorem connectionOrder_best_first :
    (∀ (scores : List ℤ) (roundRobinStart : ℕ), Rated scores →
      BestFirst scores (connectionOrder scores roundRobinStart) ∧
      connectionOrder scores roundRobinStart = alwaysSortedOrder scores roundRobinStart) ∧
    ∀ (s : SendThread) (data : Packet) (io : Io) (job : SendJob) (u : ℕ → Event) (n : ℕ),
      (s.stepStartPacket data io).pc = .sendAttempt job →
      (∀ k < n, ((runState step (s.stepStartPacket data io) u k).job?).isSome) →
      job.order = connectionOrder job.scores s.roundRobinStart ∧ Rated job.scores ∧
      TriesBestFirst (s.stepStartPacket data io) job u n := by
  refine ⟨fun scores r h => ⟨bestFirst_connectionOrder h r, connectionOrder_eq_alwaysSortedOrder⟩,
    ?_⟩
  intro s data io job u n hstart hloop
  exact ⟨(started hstart).order, (started hstart).rated, triesBestFirst hstart hloop⟩

/-- A packet in hand and two connections, the second with the shorter round trip. -/
def twoPaths : SendThread :=
  { conns := fun _ => {}, connections := [some 0, some 1], messageTracker := .init 2,
    pc := .startPacket [1, 2, 3] }

def slowFirst : Io :=
  { runtimeInfo := fun i => { smoothedRttUs := if i = 0 then 50000 else 10000 } }

/-- The better connection is full; the other one takes the packet. -/
def secondRefuses : ℕ → Event :=
  listInputs [.thread {}, .thread { sendResult := .sent 3 }, .thread {}] (.thread {})

theorem connectionOrder_best_first_secondRefuses :
    (Rated [3, 7, -1, 7] ∧ BestFirst [3, 7, -1, 7] [3, 1, 0, 2]) ∧
    ∃ job, (twoPaths.stepStartPacket [1, 2, 3] slowFirst).pc = .sendAttempt job ∧
      tried (twoPaths.stepStartPacket [1, 2, 3] slowFirst) secondRefuses 3 = [1, 0] ∧
      TriesBestFirst (twoPaths.stepStartPacket [1, 2, 3] slowFirst) job secondRefuses 3 := by
  have hrated : Rated [3, 7, -1, 7] := by unfold Rated; decide
  refine ⟨⟨hrated, (connectionOrder_best_first.1 _ 1 hrated).1⟩, _, rfl, rfl, ?_⟩
  refine (connectionOrder_best_first.2 twoPaths [1, 2, 3] slowFirst _ secondRefuses 3 rfl
    ?_).2.2
  intro k hk
  match k with
  | 0 => rfl
  | 1 => rfl
  | 2 => rfl
  | k + 3 => omega

end SendThread

end TcpUdp
