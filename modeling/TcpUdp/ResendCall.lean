import TcpUdp.Attribution
import TcpUdp.Lib.Rotation
import Mathlib.Data.List.GetD
import Mathlib.Order.WellFounded
import Mathlib.Tactic.SplitIfs

/-!
# One call of `sendOnResendConn`

A call goes round the resend slots once, from `resendRoundRobin` on. `InCall` is what holds
at every moment of it: which slots were tried, and how many bytes of the packet each
connection has taken; `InCall.step` says that a step keeps it or ends the call with the
packet written, put back or dropped.
-/

namespace TcpUdp

open Lib

namespace SendThread

variable {s s₀ : SendThread} {u : ℕ → Event}

/-! ## The history of a call -/

/-- The call of `sendOnResendConn` that the thread is in. -/
def resendJob? (s : SendThread) : Option ResendJob :=
  match s.pc with
  | .resendAttempt job => some job
  | .resendFlush job _ => some job
  | _ => none

/-- The slot of an attempt of the call that began in `s₀` with `job₀`. -/
def resendSlot (s₀ : SendThread) (job₀ : ResendJob) (attempt : ℕ) : ℕ :=
  vcFirstResendConnIndex + (s₀.resendRoundRobin + attempt) % job₀.resendCount

/-- The slot that a step of the thread sends the first bytes of a packet on. -/
def resendAttempted (s : SendThread) : Event → Option ℕ
  | .thread io =>
    match s.pc with
    | .resendAttempt job =>
      if job.attempt < job.resendCount then
        match job.conns.getD (s.resendSlot job job.attempt) none with
        | none => none
        | some c =>
          if (s.conns c).connected
            && !(io.runtimeInfo (s.resendSlot job job.attempt)).isInExponentialBackoff
          then some (s.resendSlot job job.attempt) else none
      else none
    | _ => none
  | _ => none

/-- The resend slots tried in the first `n` steps, in order. -/
def resendTried (s₀ : SendThread) (u : ℕ → Event) : ℕ → List ℕ
  | 0 => []
  | n + 1 => resendTried s₀ u n ++ ((runState step s₀ u n).resendAttempted (u n)).toList

/-- How many slots of the round the call has come to. -/
def resendCursor (s : SendThread) : ℕ :=
  match s.pc with
  | .resendAttempt job => job.attempt
  | .resendFlush job _ => job.attempt + 1
  | _ => 0

/-! ## What holds inside a call -/

/-- A connection has got no byte of the packet since `s₀`, or a proper part of it: then it
belongs to a slot that was tried, and it is disconnected. -/
def CutShort (s₀ s : SendThread) (job₀ : ResendJob) (tried : List ℕ) (c : ConnId) : Prop :=
  ∃ part, part <+: job₀.data ∧ (s.conns c).written = (s₀.conns c).written ++ part ∧
    (part ≠ [] → part.length < job₀.data.length ∧ (s.conns c).connected = false ∧
      ∃ slot ∈ tried, job₀.conns.getD slot none = some c)

/-- The partial-send loop of the call is on this connection. -/
def FlushesOn (s : SendThread) (c : ConnId) : Prop :=
  ∃ job flush, s.pc = .resendFlush job flush ∧ flush.conn = c

structure InCall (s₀ : SendThread) (job₀ : ResendJob) (s : SendThread) (job : ResendJob)
    (tried : List ℕ) : Prop where
  here : s.resendJob? = some job
  data : job.data = job₀.data
  conns : job.conns = job₀.conns
  roundRobin : s.resendRoundRobin = s₀.resendRoundRobin
  retries : s.resendRetryCount = s₀.resendRetryCount
  completed : s.completed = s₀.completed
  cursor : s.resendCursor ≤ job₀.resendCount
  round : tried.Sublist ((List.range s.resendCursor).map (resendSlot s₀ job₀))
  alive : job.aliveCount = tried.length
  flushing : ∀ flush, s.pc = .resendFlush job flush → flush.totalSent ≤ job₀.data.length ∧
    (s.conns flush.conn).written
      = (s₀.conns flush.conn).written ++ job₀.data.take flush.totalSent ∧
    job₀.conns.getD (resendSlot s₀ job₀ job.attempt) none = some flush.conn ∧
    resendSlot s₀ job₀ job.attempt ∈ tried
  others : ∀ c, ¬ s.FlushesOn c → CutShort s₀ s job₀ tried c

/-! ## How a call ends -/

/-- The packet is written whole on one connection, and its retry entry erased. -/
structure WrittenOnce (s₀ : SendThread) (job₀ : ResendJob) (s s' : SendThread)
    (tried : List ℕ) : Prop where
  written : ∃ slot ∈ tried, ∃ c, job₀.conns.getD slot none = some c ∧
    s'.completed = s₀.completed ++ [⟨.resend, slot, c, job₀.data⟩] ∧
    (s'.conns c).written = (s₀.conns c).written ++ job₀.data ∧
    ∀ c', c' ≠ c → CutShort s₀ s' job₀ tried c'
  resendQueue : s'.resendQueue = s.resendQueue
  retries : s'.resendRetryCount = s₀.resendRetryCount.erase (headerMessageId job₀.data)

/-- The packet is on the resend queue once more. -/
structure PutBack (s₀ : SendThread) (job₀ : ResendJob) (s s' : SendThread)
    (tried : List ℕ) : Prop where
  completed : s'.completed = s₀.completed
  written : ∀ c, CutShort s₀ s' job₀ tried c
  resendQueue : s'.resendQueue = s.resendQueue.enqueue job₀.data
  retries : s'.resendRetryCount
    = if 0 < tried.length then
        (s₀.resendRetryCount.tryEmplace (headerMessageId job₀.data) 0).insertOrAssign
          (headerMessageId job₀.data)
          ((s₀.resendRetryCount.find? (headerMessageId job₀.data)).getD 0 + 1)
      else s₀.resendRetryCount.tryEmplace (headerMessageId job₀.data) 0

/-- The packet is gone, and its retry entry erased. -/
structure Dropped (s₀ : SendThread) (job₀ : ResendJob) (s s' : SendThread)
    (tried : List ℕ) : Prop where
  completed : s'.completed = s₀.completed
  written : ∀ c, CutShort s₀ s' job₀ tried c
  resendQueue : s'.resendQueue = s.resendQueue
  retries : s'.resendRetryCount
    = (s₀.resendRetryCount.tryEmplace (headerMessageId job₀.data) 0).erase
        (headerMessageId job₀.data)
  found : 0 < tried.length
  spent : maxResendRetries ≤ (s₀.resendRetryCount.find? (headerMessageId job₀.data)).getD 0

/-- The step that ends a call. -/
inductive CallEnd (s₀ : SendThread) (job₀ : ResendJob) (s s' : SendThread) (tried : List ℕ) : Prop
  | written (h : WrittenOnce s₀ job₀ s s' tried)
  | putBack (h : PutBack s₀ job₀ s s' tried)
  | dropped (h : Dropped s₀ job₀ s s' tried)

/-! ## The bytes -/

variable {job₀ job : ResendJob} {tried : List ℕ} {s' : SendThread}

lemma CutShort.mono {tried' : List ℕ} {c : ConnId} (h : CutShort s₀ s job₀ tried c)
    (hwritten : (s'.conns c).written = (s.conns c).written)
    (hconnected : (s'.conns c).connected = true → (s.conns c).connected = true)
    (htried : tried ⊆ tried') : CutShort s₀ s' job₀ tried' c := by
  obtain ⟨part, hprefix, hbytes, hcut⟩ := h
  refine ⟨part, hprefix, hwritten.trans hbytes, fun hpart => ?_⟩
  obtain ⟨hlen, hdown, slot, hslot, hconn⟩ := hcut hpart
  refine ⟨hlen, ?_, slot, htried hslot, hconn⟩
  rw [Bool.eq_false_iff] at hdown ⊢
  exact fun hup => hdown (hconnected hup)

/-- A connection that is up has got nothing. -/
lemma CutShort.written_of_connected {c : ConnId} (h : CutShort s₀ s job₀ tried c)
    (hconn : (s.conns c).connected = true) : (s.conns c).written = (s₀.conns c).written := by
  obtain ⟨part, _, hbytes, hcut⟩ := h
  by_cases hpart : part = []
  · rw [hbytes, hpart, List.append_nil]
  · rw [(hcut hpart).2.1] at hconn
    cases hconn

lemma CutShort.refl (c : ConnId) : CutShort s₀ s₀ job₀ tried c :=
  ⟨[], List.nil_prefix, (List.append_nil _).symm, fun h => absurd rfl h⟩

/-! ## The steps of the thread -/

/-- A slot without a connection that is up and not in backoff is passed over. -/
lemma resendAttempt_passes (hpc : s.pc = .resendAttempt job) (hlt : job.attempt < job.resendCount)
    {io : Io} (hbad : ∀ c, job.conns.getD (s.resendSlot job job.attempt) none = some c →
      (s.conns c).connected = true →
      (io.runtimeInfo (s.resendSlot job job.attempt)).isInExponentialBackoff = true) :
    s.resendAttempted (.thread io) = none ∧
      s.stepResendAttempt job io = { s with pc := .resendAttempt job.next } := by
  rw [resendSlot] at hbad
  cases hslot : job.conns.getD (vcFirstResendConnIndex
      + (s.resendRoundRobin + job.attempt) % job.resendCount) none with
  | none =>
    constructor
    · simp only [resendAttempted, resendSlot, hpc, hlt, if_true, hslot]
    · simp only [stepResendAttempt, hlt, if_true, hslot]
  | some c =>
    cases hconn : (s.conns c).connected with
    | false =>
      constructor
      · simp only [resendAttempted, resendSlot, hpc, hlt, if_true, hslot, hconn]
        rfl
      · simp only [stepResendAttempt, hlt, if_true, hslot, hconn]
        rfl
    | true =>
      have hbackoff := hbad c hslot hconn
      constructor
      · simp only [resendAttempted, resendSlot, hpc, hlt, if_true, hslot, hconn, hbackoff]
        rfl
      · simp only [stepResendAttempt, hlt, if_true, hslot, hconn, hbackoff]
        rfl

/-- The packet is sent on the connection of the slot, which takes some bytes or none. -/
lemma resendAttempt_sends (hpc : s.pc = .resendAttempt job) (hlt : job.attempt < job.resendCount)
    {io : Io} {c : ConnId} (hslot : job.conns.getD (s.resendSlot job job.attempt) none = some c)
    (hconn : (s.conns c).connected = true)
    (hbackoff : (io.runtimeInfo (s.resendSlot job job.attempt)).isInExponentialBackoff = false) :
    s.resendAttempted (.thread io) = some (s.resendSlot job job.attempt) ∧
    ((∃ n, 0 < n ∧ n ≤ job.data.length ∧ s.stepResendAttempt job io =
        { s.setConn c fun conn => { conn with written := conn.written ++ job.data.take n } with
          pc := .resendFlush { job with aliveCount := job.aliveCount + 1 }
            { conn := c, totalSent := n, partialStart := io.now } }) ∨
      ∃ f, Calm f ∧ s.stepResendAttempt job io =
        { s.setConn c f with
          pc := .resendAttempt { job.next with aliveCount := job.aliveCount + 1 } }) := by
  constructor
  · simp only [resendAttempted, hpc, hlt, if_true, hslot, hconn, hbackoff]
    rfl
  rw [resendSlot] at hslot hbackoff
  have hdown : ¬ (!(s.conns c).connected) = true := by
    rw [hconn]
    decide
  have hclear : ¬ (io.runtimeInfo (vcFirstResendConnIndex
      + (s.resendRoundRobin + job.attempt) % job.resendCount)).isInExponentialBackoff = true := by
    rw [hbackoff]
    decide
  have hquiet : Calm id := fun _ => ⟨rfl, fun h => h⟩
  have hself : s.setConn c id = s := setConn_self c
  rcases sendTcpDirect_cases (s.conns c) job.data io.sendResult
    with ⟨n, hn, hle, _, heq⟩ | ⟨r, hr, heq⟩
  · left
    refine ⟨n, hn, hle, ?_⟩
    simp only [stepResendAttempt, hlt, if_true, hslot, hdown, hclear, heq, gt_iff_lt, hn]
    rfl
  · right
    cases r with
    | sent n =>
      refine ⟨id, hquiet, ?_⟩
      simp only [stepResendAttempt, hlt, if_true, hslot, hdown, hclear, if_false, heq, gt_iff_lt,
        hr n rfl, lt_irrefl, setConn_self, hself]
      rfl
    | closed =>
      refine ⟨TcpConnection.disconnect, calm_disconnect, ?_⟩
      simp only [stepResendAttempt, hlt, if_true, hslot, hdown, hclear, heq, setConn_self]
      rfl
    | wouldBlock | interrupted =>
      -- the connection stays as it is
      refine ⟨id, hquiet, ?_⟩
      simp only [stepResendAttempt, hlt, if_true, hslot, hdown, hclear, heq, setConn_self, hself]
      rfl

/-- One pass of the attempt loop: the round is over, a slot is passed over, or the packet
is sent on the connection of the slot, which takes some bytes or none. -/
lemma resendAttempt_cases (hpc : s.pc = .resendAttempt job) (io : Io) :
    (¬ job.attempt < job.resendCount ∧ s.resendAttempted (.thread io) = none ∧
      s.stepResendAttempt job io = s.resendFailed job) ∨
    (job.attempt < job.resendCount ∧ s.resendAttempted (.thread io) = none ∧
      s.stepResendAttempt job io = { s with pc := .resendAttempt job.next }) ∨
    (job.attempt < job.resendCount ∧
      s.resendAttempted (.thread io) = some (s.resendSlot job job.attempt) ∧
      ∃ c, job.conns.getD (s.resendSlot job job.attempt) none = some c ∧
        (s.conns c).connected = true ∧
        ((∃ n, 0 < n ∧ n ≤ job.data.length ∧ s.stepResendAttempt job io =
            { s.setConn c fun conn => { conn with written := conn.written ++ job.data.take n } with
              pc := .resendFlush { job with aliveCount := job.aliveCount + 1 }
                { conn := c, totalSent := n, partialStart := io.now } }) ∨
          ∃ f, Calm f ∧ s.stepResendAttempt job io =
            { s.setConn c f with
              pc := .resendAttempt { job.next with aliveCount := job.aliveCount + 1 } })) := by
  by_cases hlt : job.attempt < job.resendCount
  swap
  · refine Or.inl ⟨hlt, ?_, if_neg hlt⟩
    simp only [resendAttempted, hpc, hlt, if_false]
  right
  by_cases hgood : ∃ c, job.conns.getD (s.resendSlot job job.attempt) none = some c
      ∧ (s.conns c).connected = true
      ∧ (io.runtimeInfo (s.resendSlot job job.attempt)).isInExponentialBackoff = false
  · obtain ⟨c, hslot, hconn, hbackoff⟩ := hgood
    obtain ⟨hattempted, hstep⟩ := resendAttempt_sends hpc hlt hslot hconn hbackoff
    exact Or.inr ⟨hlt, hattempted, c, hslot, hconn, hstep⟩
  · obtain ⟨hattempted, hstep⟩ := resendAttempt_passes hpc hlt fun c hslot hconn => by
      rw [← Bool.not_eq_false]
      exact fun hbackoff => hgood ⟨c, hslot, hconn, hbackoff⟩
    exact Or.inl ⟨hlt, hattempted, hstep⟩

/-! ## A call through one step -/

/-- What a step inside a call leads to: the call goes on, and a step of the thread leaves the
resend queue alone; or the call is over. -/
inductive CallStep (s₀ : SendThread) (job₀ : ResendJob) (s : SendThread) (e : Event)
    (s' : SendThread) (tried : List ℕ) : Prop
  | goesOn (job : ResendJob) (h : InCall s₀ job₀ s' job tried)
      (hqueue : ∀ io, e = .thread io → s'.resendQueue = s.resendQueue)
  | ends (h : s'.resendJob? = none) (hend : CallEnd s₀ job₀ s s' tried)

lemma InCall.resendSlot_eq (h : InCall s₀ job₀ s job tried) (attempt : ℕ) :
    s.resendSlot job attempt = resendSlot s₀ job₀ attempt := by
  rw [resendSlot, resendSlot, h.roundRobin, ResendJob.resendCount, ResendJob.resendCount, h.conns]

lemma InCall.resendCount_eq (h : InCall s₀ job₀ s job tried) :
    job.resendCount = job₀.resendCount := by
  rw [ResendJob.resendCount, ResendJob.resendCount, h.conns]

lemma not_flushesOn_of_attempt {c : ConnId} (hpc : s.pc = .resendAttempt job) :
    ¬ s.FlushesOn c := by
  rintro ⟨job', flush, hflush, _⟩
  rw [hpc] at hflush
  cases hflush

/-- The round is over without a connection that took the packet. -/
lemma InCall.resendFailed (h : InCall s₀ job₀ s job tried) (hpc : s.pc = .resendAttempt job)
    (e : Event) : CallStep s₀ job₀ s e (s.resendFailed job) tried := by
  have hcut : ∀ c, CutShort s₀ s job₀ tried c := fun c =>
    h.others c (not_flushesOn_of_attempt hpc)
  have hid : headerMessageId job.data = headerMessageId job₀.data := by rw [h.data]
  have hdata := h.data
  have halive := h.alive
  have hretries := h.retries
  rw [SendThread.resendFailed]
  dsimp only
  rw [hid, hretries, halive, hdata]
  split_ifs with hback hfound
  · refine .ends rfl (.putBack ⟨h.completed, hcut, rfl, ?_⟩)
    exact (if_pos (of_decide_eq_true hfound)).symm
  · refine .ends rfl (.putBack ⟨h.completed, hcut, rfl, ?_⟩)
    exact (if_neg fun hpos => hfound (decide_eq_true hpos)).symm
  · rw [Bool.or_eq_true, Bool.not_eq_true', decide_eq_false_iff_not, decide_eq_true_iff,
      not_or, not_not] at hback
    exact .ends rfl (.dropped ⟨h.completed, hcut, rfl, rfl, hback.1, not_lt.mp hback.2⟩)

/-- Between two attempts no connection is in the partial-send loop. -/
lemma InCall.cutShort (h : InCall s₀ job₀ s job tried) (hpc : s.pc = .resendAttempt job)
    (c : ConnId) : CutShort s₀ s job₀ tried c := h.others c (not_flushesOn_of_attempt hpc)

lemma InCall.attempt_lt (h : InCall s₀ job₀ s job tried) (hlt : job.attempt < job.resendCount) :
    job.attempt < job₀.resendCount := by
  rw [← h.resendCount_eq]
  exact hlt

/-- The slot of the attempt is the next one of the round. -/
lemma InCall.round_succ (h : InCall s₀ job₀ s job tried) (hpc : s.pc = .resendAttempt job) :
    (tried ++ [resendSlot s₀ job₀ job.attempt]).Sublist
      ((List.range (job.attempt + 1)).map (resendSlot s₀ job₀)) := by
  have hcursor : s.resendCursor = job.attempt := by rw [resendCursor, hpc]
  have hround := h.round
  rw [hcursor] at hround
  rw [List.range_succ, List.map_append]
  exact hround.append (List.Sublist.refl _)

/-- A slot is passed over. -/
lemma InCall.passesOver (h : InCall s₀ job₀ s job tried) (hpc : s.pc = .resendAttempt job)
    (hlt : job.attempt < job.resendCount) :
    InCall s₀ job₀ { s with pc := .resendAttempt job.next } job.next tried where
  here := rfl
  data := h.data
  conns := h.conns
  roundRobin := h.roundRobin
  retries := h.retries
  completed := h.completed
  cursor := h.attempt_lt hlt
  round := (List.sublist_append_left _ _).trans (h.round_succ hpc)
  alive := h.alive
  flushing flush hflush := by cases hflush
  others c _ := h.cutShort hpc c

/-- The connection of the slot takes the first bytes. -/
lemma InCall.takesSome (h : InCall s₀ job₀ s job tried) (hpc : s.pc = .resendAttempt job)
    (hlt : job.attempt < job.resendCount) {c : ConnId}
    (hslot : job.conns.getD (s.resendSlot job job.attempt) none = some c)
    (hconn : (s.conns c).connected = true) {n : ℕ} (hle : n ≤ job.data.length) (now : ℤ) :
    InCall s₀ job₀
      { s.setConn c fun conn => { conn with written := conn.written ++ job.data.take n } with
        pc := .resendFlush { job with aliveCount := job.aliveCount + 1 }
          { conn := c, totalSent := n, partialStart := now } }
      { job with aliveCount := job.aliveCount + 1 }
      (tried ++ [resendSlot s₀ job₀ job.attempt]) := by
  rw [h.resendSlot_eq, h.conns] at hslot
  rw [h.data] at hle
  have hbytes := (h.cutShort hpc c).written_of_connected hconn
  refine ⟨rfl, h.data, h.conns, h.roundRobin, h.retries, h.completed, h.attempt_lt hlt,
    h.round_succ hpc, ?_, ?_, ?_⟩
  · rw [List.length_append, ← h.alive]
    rfl
  · intro flush hflush
    obtain ⟨_, rfl⟩ := Pc.resendFlush.inj hflush
    refine ⟨hle, ?_, hslot, List.mem_append_right _ (List.mem_singleton_self _)⟩
    simp only [conns_setConn, Function.update_self, hbytes, h.data]
  · intro c' hother
    have hne : c' ≠ c := fun heq => hother ⟨_, _, rfl, heq.symm⟩
    refine (h.cutShort hpc c').mono ?_ ?_ (List.subset_append_left _ _)
    · simp only [conns_setConn, Function.update_of_ne hne]
    · simp only [conns_setConn, Function.update_of_ne hne, imp_self]

/-- The connection of the slot takes nothing. -/
lemma InCall.takesNothing (h : InCall s₀ job₀ s job tried) (hpc : s.pc = .resendAttempt job)
    (hlt : job.attempt < job.resendCount) {f : TcpConnection → TcpConnection} (hcalm : Calm f)
    (c : ConnId) :
    InCall s₀ job₀
      { s.setConn c f with pc := .resendAttempt { job.next with aliveCount := job.aliveCount + 1 } }
      { job.next with aliveCount := job.aliveCount + 1 }
      (tried ++ [resendSlot s₀ job₀ job.attempt]) := by
  refine ⟨rfl, h.data, h.conns, h.roundRobin, h.retries, h.completed, h.attempt_lt hlt,
    h.round_succ hpc, ?_, fun flush hflush => ?_, fun c' _ => ?_⟩
  · rw [List.length_append, ← h.alive]
    rfl
  · cases hflush
  · have hquiet := hcalm.setConn s c c'
    exact (h.cutShort hpc c').mono hquiet.1 hquiet.2 (List.subset_append_left _ _)

lemma InCall.resendAttempt (h : InCall s₀ job₀ s job tried) (hpc : s.pc = .resendAttempt job)
    (io : Io) : CallStep s₀ job₀ s (.thread io) (s.stepResendAttempt job io)
      (tried ++ (s.resendAttempted (.thread io)).toList) := by
  rcases resendAttempt_cases hpc io with ⟨_, hattempted, hstep⟩ | ⟨hlt, hattempted, hstep⟩ |
    ⟨hlt, hattempted, c, hslot, hconn, ⟨n, _, hle, hstep⟩ | ⟨f, hcalm, hstep⟩⟩
  · rw [hstep, hattempted, Option.toList_none, List.append_nil]
    exact h.resendFailed hpc _
  · rw [hstep, hattempted, Option.toList_none, List.append_nil]
    exact .goesOn job.next (h.passesOver hpc hlt) fun _ _ => rfl
  · rw [hstep, hattempted, Option.toList_some, h.resendSlot_eq]
    exact .goesOn _ (h.takesSome hpc hlt hslot hconn hle io.now) fun _ _ => rfl
  · rw [hstep, hattempted, Option.toList_some, h.resendSlot_eq]
    exact .goesOn _ (h.takesNothing hpc hlt hcalm c) fun _ _ => rfl

lemma not_flushesOn_of_ne {c : ConnId} {flush : Flush} (hpc : s.pc = .resendFlush job flush)
    (hne : c ≠ flush.conn) : ¬ s.FlushesOn c := by
  rintro ⟨job', flush', hflush, hc⟩
  rw [hpc] at hflush
  obtain ⟨_, rfl⟩ := Pc.resendFlush.inj hflush
  exact hne hc.symm

/-- What another thread does, and a pass of the partial-send loop that sends nothing. -/
lemma InCall.quiet (h : InCall s₀ job₀ s job tried) (hpc : s'.pc = s.pc)
    (hconns : ∀ c, (s'.conns c).written = (s.conns c).written
      ∧ ((s'.conns c).connected = true → (s.conns c).connected = true))
    (hroundRobin : s'.resendRoundRobin = s.resendRoundRobin)
    (hretries : s'.resendRetryCount = s.resendRetryCount)
    (hcompleted : s'.completed = s.completed) : InCall s₀ job₀ s' job tried := by
  have hcursor : s'.resendCursor = s.resendCursor := by rw [resendCursor, hpc, resendCursor]
  refine ⟨?_, h.data, h.conns, hroundRobin.trans h.roundRobin, hretries.trans h.retries,
    hcompleted.trans h.completed, ?_, ?_, h.alive, ?_, ?_⟩
  · rw [resendJob?, hpc]
    exact h.here
  · rw [hcursor]
    exact h.cursor
  · rw [hcursor]
    exact h.round
  · intro flush hflush
    rw [hpc] at hflush
    obtain ⟨hle, hbytes, hslot⟩ := h.flushing flush hflush
    exact ⟨hle, (hconns flush.conn).1.trans hbytes, hslot⟩
  · intro c hother
    refine (h.others c ?_).mono (hconns c).1 (hconns c).2 (List.Subset.refl _)
    rintro ⟨job', flush, hflush, hc⟩
    exact hother ⟨job', flush, hpc.trans hflush, hc⟩

lemma resendCursor_of_flush {flush : Flush} (hpc : s.pc = .resendFlush job flush) :
    s.resendCursor = job.attempt + 1 := by
  rw [resendCursor, hpc]

/-- The partial-send loop gives up: the packet is cut short, and so is the connection. -/
lemma InCall.cutsShort (h : InCall s₀ job₀ s job tried) {flush : Flush}
    (hpc : s.pc = .resendFlush job flush) (hshort : flush.totalSent < job.data.length) :
    InCall s₀ job₀
      { s.setConn flush.conn TcpConnection.disconnect with pc := .resendAttempt job.next }
      job.next tried := by
  obtain ⟨_, hbytes, hslot, hmem⟩ := h.flushing flush hpc
  have hcursor := h.cursor
  have hround := h.round
  rw [resendCursor_of_flush hpc] at hcursor hround
  rw [h.data] at hshort
  refine ⟨rfl, h.data, h.conns, h.roundRobin, h.retries, h.completed, hcursor, hround, h.alive,
    fun flush' hflush' => ?_, fun c _ => ?_⟩
  · cases hflush'
  by_cases hc : c = flush.conn
  · -- it keeps the part that it has got, and is disconnected
    rw [hc]
    refine ⟨job₀.data.take flush.totalSent, List.take_prefix _ _, ?_, fun _ =>
      ⟨?_, ?_, _, hmem, hslot⟩⟩
    · simp only [conns_setConn, Function.update_self, TcpConnection.disconnect, hbytes]
    · rw [List.length_take]
      omega
    · simp only [conns_setConn, Function.update_self, TcpConnection.disconnect]
  · have hquiet := calm_disconnect.setConn s flush.conn c
    exact (h.others c (not_flushesOn_of_ne hpc hc)).mono hquiet.1 hquiet.2 (List.Subset.refl _)

/-- The connection takes more of the packet. -/
lemma InCall.takesMore (h : InCall s₀ job₀ s job tried) {flush : Flush}
    (hpc : s.pc = .resendFlush job flush) {n : ℕ} (hle : flush.totalSent + n ≤ job.data.length) :
    InCall s₀ job₀
      { s.setConn flush.conn fun conn =>
          { conn with written := conn.written ++ (job.data.drop flush.totalSent).take n } with
        pc := .resendFlush job { flush with totalSent := flush.totalSent + n } }
      job tried := by
  obtain ⟨_, hbytes, hslot, hmem⟩ := h.flushing flush hpc
  have hcursor := h.cursor
  have hround := h.round
  rw [resendCursor_of_flush hpc] at hcursor hround
  rw [h.data] at hle
  refine ⟨rfl, h.data, h.conns, h.roundRobin, h.retries, h.completed, hcursor, hround, h.alive,
    ?_, ?_⟩
  · intro flush' hflush'
    obtain ⟨_, rfl⟩ := Pc.resendFlush.inj hflush'
    refine ⟨hle, ?_, hslot, hmem⟩
    simp only [conns_setConn, Function.update_self, hbytes, h.data]
    rw [List.append_assoc, ← List.take_add]
  · intro c hother
    have hne : c ≠ flush.conn := fun heq => hother ⟨_, _, rfl, heq.symm⟩
    refine (h.others c (not_flushesOn_of_ne hpc hne)).mono ?_ ?_ (List.Subset.refl _)
    · simp only [conns_setConn, Function.update_of_ne hne]
    · simp only [conns_setConn, Function.update_of_ne hne, imp_self]

lemma InCall.resendFlush (h : InCall s₀ job₀ s job tried) {flush : Flush}
    (hpc : s.pc = .resendFlush job flush) (io : Io) :
    CallStep s₀ job₀ s (.thread io) (s.stepResendFlush job flush io) tried := by
  unfold stepResendFlush
  rcases flushPass_cases s job.data flush io with heq | ⟨_, heq⟩ | ⟨n, _, hle, _, heq⟩
  · rw [heq]
    dsimp only
    split_ifs with hshort
    · exact .goesOn job.next (h.cutsShort hpc hshort) fun _ _ => rfl
    · obtain ⟨_, hbytes, hslot, hmem⟩ := h.flushing flush hpc
      have hwhole : job₀.data.take flush.totalSent = job₀.data := by
        apply List.take_of_length_le
        rw [← h.data]
        exact not_lt.mp hshort
      rw [hwhole] at hbytes
      refine .ends rfl (.written ⟨⟨_, hmem, flush.conn, hslot, ?_, hbytes, fun c hne => ?_⟩, rfl, ?_⟩)
      · rw [← h.completed, ← h.data, ← h.resendSlot_eq]
        rfl
      · exact h.others c (not_flushesOn_of_ne hpc hne)
      · rw [← h.retries, ← h.data]
  · rw [heq]
    exact .goesOn job (h.quiet hpc.symm (fun c => ⟨rfl, fun hup => hup⟩) rfl rfl rfl) fun _ _ => rfl
  · rw [heq]
    exact .goesOn job (h.takesMore hpc hle) fun _ _ => rfl

lemma pc_of_resendJob (h : s.resendJob? = some job) :
    s.pc = .resendAttempt job ∨ ∃ flush, s.pc = .resendFlush job flush := by
  rw [resendJob?] at h
  split at h
  · rename_i hpc
    exact Or.inl (hpc.trans (congrArg _ (Option.some.inj h)))
  · rename_i flush hpc
    exact Or.inr ⟨flush, hpc.trans (congrArg (fun job => Pc.resendFlush job flush)
      (Option.some.inj h))⟩
  · cases h

theorem InCall.step (h : InCall s₀ job₀ s job tried) (e : Event) :
    CallStep s₀ job₀ s e (s.step e) (tried ++ (s.resendAttempted e).toList) := by
  -- an event of another thread attempts nothing
  have hother : ∀ {s' : SendThread}, s.resendAttempted e = none → (∀ io, e ≠ .thread io) →
      InCall s₀ job₀ s' job tried →
      CallStep s₀ job₀ s e s' (tried ++ (s.resendAttempted e).toList) := by
    intro s' hnone hne h'
    rw [hnone, Option.toList_none, List.append_nil]
    exact .goesOn job h' fun io hio => absurd hio (hne io)
  cases e with
  | thread io =>
    show CallStep s₀ job₀ s (.thread io) (s.threadStep io) _
    rcases pc_of_resendJob h.here with hpc | ⟨flush, hpc⟩
    · rw [threadStep, hpc]
      exact h.resendAttempt hpc io
    · have hnone : s.resendAttempted (.thread io) = none := by simp only [resendAttempted, hpc]
      rw [threadStep, hpc, hnone, Option.toList_none, List.append_nil]
      exact h.resendFlush hpc io
  | disconnect c =>
    refine hother rfl (fun io => by simp) (h.quiet rfl (fun c' => ?_) rfl rfl rfl)
    exact calm_disconnect.setConn s c c'
  | replaceConnection slot c =>
    refine hother rfl (fun io => by simp) ?_
    show InCall s₀ job₀ (s.replaceConnection slot c) job tried
    unfold SendThread.replaceConnection
    split_ifs
    · exact h
    · exact h.quiet rfl (fun c' => ⟨rfl, fun hup => hup⟩) rfl rfl rfl
  | _ =>
    exact hother rfl (fun io => by simp)
      (h.quiet rfl (fun c' => ⟨rfl, fun hup => hup⟩) rfl rfl rfl)

/-- The thread enters `sendOnResendConn`. -/
structure CallBegins (s₀ : SendThread) (job₀ : ResendJob) : Prop where
  pc : s₀.pc = .resendAttempt job₀
  attempt : job₀.attempt = 0
  aliveCount : job₀.aliveCount = 0
  slots : vcFirstResendConnIndex < job₀.conns.length

lemma CallBegins.inCall (h : CallBegins s₀ job₀) : InCall s₀ job₀ s₀ job₀ [] where
  here := by rw [resendJob?, h.pc]
  data := rfl
  conns := rfl
  roundRobin := rfl
  retries := rfl
  completed := rfl
  cursor := by
    have hcursor : s₀.resendCursor = job₀.attempt := by rw [resendCursor, h.pc]
    rw [hcursor, h.attempt]
    exact Nat.zero_le _
  round := List.nil_sublist _
  alive := h.aliveCount
  flushing flush hflush := by
    rw [h.pc] at hflush
    cases hflush
  others c _ := CutShort.refl c

/-- While the thread is in the call, its history is that of the call. -/
lemma CallBegins.inCall_run (h : CallBegins s₀ job₀) {n : ℕ}
    (hin : ∀ k ≤ n, (runState step s₀ u k).resendJob? ≠ none) :
    ∃ job, InCall s₀ job₀ (runState step s₀ u n) job (resendTried s₀ u n) := by
  induction n with
  | zero => exact ⟨job₀, h.inCall⟩
  | succ n ih =>
    obtain ⟨job, hjob⟩ := ih fun k hk => hin k (Nat.le_succ_of_le hk)
    cases hjob.step (u n) with
    | goesOn job' h' _ => exact ⟨job', h'⟩
    | ends hnone _ => exact absurd hnone (hin (n + 1) le_rfl)

/-! ## What a call does -/

/-- A step that attempts something does not end the call. -/
lemma InCall.resendAttempted_of_ends (h : InCall s₀ job₀ s job tried) {e : Event}
    (hends : (s.step e).resendJob? = none) : s.resendAttempted e = none := by
  cases e with
  | thread io =>
    have hthread : (s.threadStep io).resendJob? = none := hends
    rcases pc_of_resendJob h.here with hpc | ⟨flush, hpc⟩
    · rw [threadStep, hpc] at hthread
      rcases resendAttempt_cases hpc io with ⟨_, hattempted, _⟩ | ⟨_, hattempted, _⟩ |
        ⟨_, _, c, _, _, ⟨n, _, _, hstep⟩ | ⟨f, _, hstep⟩⟩
      · exact hattempted
      · exact hattempted
      · simp only [hstep, resendJob?] at hthread
        cases hthread
      · simp only [hstep, resendJob?] at hthread
        cases hthread
    · simp only [resendAttempted, hpc]
  | _ => rfl

lemma InCall.nodup_tried (h : InCall s₀ job₀ s job tried) : tried.Nodup := by
  refine h.round.nodup ((List.nodup_map_iff_inj_on List.nodup_range).mpr ?_)
  intro i hi j hj heq
  have hi := (List.mem_range.mp hi).trans_le h.cursor
  have hj := (List.mem_range.mp hj).trans_le h.cursor
  have hmod : (s₀.resendRoundRobin + i) % job₀.resendCount
      = (s₀.resendRoundRobin + j) % job₀.resendCount := Nat.add_left_cancel heq
  rcases Nat.le_total i j with hij | hji
  · have := eq_of_mod_eq_of_lt hmod (by omega) (by omega)
    omega
  · have := eq_of_mod_eq_of_lt hmod.symm (by omega) (by omega)
    omega

lemma InCall.slot_of_tried (h : InCall s₀ job₀ s job tried) {slot : ℕ} (hslot : slot ∈ tried) :
    vcFirstResendConnIndex ≤ slot ∧ slot < job₀.conns.length := by
  obtain ⟨attempt, hattempt, rfl⟩ := List.mem_map.mp (h.round.subset hslot)
  have hpos : 0 < job₀.resendCount :=
    Nat.zero_lt_of_lt ((List.mem_range.mp hattempt).trans_le h.cursor)
  have hlt : (s₀.resendRoundRobin + attempt) % job₀.resendCount < job₀.resendCount :=
    Nat.mod_lt _ hpos
  have hcount : job₀.resendCount = job₀.conns.length - vcFirstResendConnIndex := rfl
  rw [resendSlot]
  omega

lemma CutShort.mem_tried {c : ConnId} (h : CutShort s₀ s job₀ tried c)
    (hwritten : (s.conns c).written ≠ (s₀.conns c).written) :
    ∃ slot ∈ tried, job₀.conns.getD slot none = some c := by
  obtain ⟨part, _, hbytes, hcut⟩ := h
  refine (hcut fun hnil => hwritten ?_).2.2
  rw [hbytes, hnil, List.append_nil]

lemma InCall.mem_tried (h : InCall s₀ job₀ s job tried) {c : ConnId}
    (hwritten : (s.conns c).written ≠ (s₀.conns c).written) :
    ∃ slot ∈ tried, job₀.conns.getD slot none = some c := by
  by_cases hflush : s.FlushesOn c
  · obtain ⟨job', flush, hpc, rfl⟩ := hflush
    have hjob : job' = job := by
      have hhere := h.here
      rw [resendJob?, hpc] at hhere
      exact Option.some.inj hhere
    rw [hjob] at hpc
    obtain ⟨_, _, hslot, hmem⟩ := h.flushing flush hpc
    exact ⟨_, hmem, hslot⟩
  · exact (h.others c hflush).mem_tried hwritten

lemma CallEnd.mem_tried (h : CallEnd s₀ job₀ s s' tried) {c : ConnId}
    (hwritten : (s'.conns c).written ≠ (s₀.conns c).written) :
    ∃ slot ∈ tried, job₀.conns.getD slot none = some c := by
  cases h with
  | written h =>
    obtain ⟨slot, hslot, c', hconn, _, _, hothers⟩ := h.written
    by_cases hc : c = c'
    · exact ⟨slot, hslot, hc ▸ hconn⟩
    · exact (hothers c hc).mem_tried hwritten
  | putBack h => exact (h.written c).mem_tried hwritten
  | dropped h => exact (h.written c).mem_tried hwritten

def ExactlyOne (a b c : Prop) : Prop :=
  (a ∧ ¬ b ∧ ¬ c) ∨ (¬ a ∧ b ∧ ¬ c) ∨ (¬ a ∧ ¬ b ∧ c)

/-- The three ways to end exclude each other. -/
lemma CallEnd.exactlyOne (h : CallEnd s₀ job₀ s s' tried) :
    ExactlyOne (WrittenOnce s₀ job₀ s s' tried) (PutBack s₀ job₀ s s' tried)
      (Dropped s₀ job₀ s s' tried) := by
  have hwritten : WrittenOnce s₀ job₀ s s' tried → s'.completed ≠ s₀.completed := by
    intro hw heq
    obtain ⟨slot, _, c, _, hcompleted, _⟩ := hw.written
    rw [heq] at hcompleted
    exact absurd (congrArg List.length hcompleted) (by simp)
  have hqueue : PutBack s₀ job₀ s s' tried → s'.resendQueue ≠ s.resendQueue := by
    intro hp heq
    have hback := hp.resendQueue
    rw [heq] at hback
    have hlength := congrArg (fun q => q.queue.length) hback
    exact absurd hlength (by simp [BlockingQueue.enqueue])
  cases h with
  | written h =>
    exact Or.inl ⟨h, fun hp => hwritten h hp.completed, fun hd => hwritten h hd.completed⟩
  | putBack h =>
    exact Or.inr (Or.inl ⟨fun hw => hwritten hw h.completed, h,
      fun hd => hqueue h hd.resendQueue⟩)
  | dropped h =>
    exact Or.inr (Or.inr ⟨fun hw => hwritten hw h.completed,
      fun hp => hqueue hp h.resendQueue, h⟩)

/-- What one call of `sendOnResendConn` does in `n` steps. -/
structure OneOutcome (s₀ : SendThread) (job₀ : ResendJob) (u : ℕ → Event) (n : ℕ) : Prop where
  once : (resendTried s₀ u n).Nodup
  slots : ∀ slot ∈ resendTried s₀ u n,
    vcFirstResendConnIndex ≤ slot ∧ slot < job₀.conns.length
  writes : ∀ c, ((runState step s₀ u n).conns c).written ≠ (s₀.conns c).written →
    ∃ slot ∈ resendTried s₀ u n, job₀.conns.getD slot none = some c
  queue : ∀ k io, k + 1 < n → u k = .thread io →
    (runState step s₀ u (k + 1)).resendQueue = (runState step s₀ u k).resendQueue
  ends : (runState step s₀ u n).resendJob? = none → ∃ m, n = m + 1 ∧
    ExactlyOne (WrittenOnce s₀ job₀ (runState step s₀ u m) (runState step s₀ u n)
        (resendTried s₀ u n))
      (PutBack s₀ job₀ (runState step s₀ u m) (runState step s₀ u n) (resendTried s₀ u n))
      (Dropped s₀ job₀ (runState step s₀ u m) (runState step s₀ u n) (resendTried s₀ u n))

theorem CallBegins.oneOutcome (h : CallBegins s₀ job₀) {n : ℕ}
    (hin : ∀ k < n, (runState step s₀ u k).resendJob? ≠ none) : OneOutcome s₀ job₀ u n := by
  have hqueue : ∀ k io, k + 1 < n → u k = .thread io →
      (runState step s₀ u (k + 1)).resendQueue = (runState step s₀ u k).resendQueue := by
    intro k io hk hio
    obtain ⟨job, hjob⟩ := h.inCall_run (n := k) fun l hl => hin l (by omega)
    cases hjob.step (u k) with
    | goesOn _ _ hsame => exact hsame io hio
    | ends hnone _ => exact absurd hnone (hin (k + 1) hk)
  cases n with
  | zero =>
    refine ⟨List.nodup_nil, ?_, ?_, hqueue, ?_⟩
    · intro slot hslot
      exact absurd hslot List.not_mem_nil
    · intro c hwritten
      exact absurd rfl hwritten
    · intro hnone
      exact absurd (hnone.symm.trans h.inCall.here) (by simp)
  | succ n =>
    obtain ⟨job, hjob⟩ := h.inCall_run fun l hl => hin l (Nat.lt_succ_of_le hl)
    cases hstep : hjob.step (u n) with
    | goesOn job' h' _ =>
      refine ⟨h'.nodup_tried, fun slot => h'.slot_of_tried, fun c => h'.mem_tried, hqueue, ?_⟩
      intro hnone
      exact absurd (hnone.symm.trans h'.here) (by simp)
    | ends hnone hend =>
      have htried : resendTried s₀ u (n + 1) = resendTried s₀ u n := by
        rw [resendTried, hjob.resendAttempted_of_ends hnone]
        exact List.append_nil _
      refine ⟨?_, ?_, fun c => hend.mem_tried, hqueue, fun _ => ⟨n, rfl, hend.exactlyOne⟩⟩
      · rw [htried]
        exact hjob.nodup_tried
      · rw [htried]
        exact fun slot => hjob.slot_of_tried

/-! ## A call comes to an end -/

/-- The thread is scheduled again and again, and its clock passes every bound. -/
structure ClockRuns (u : ℕ → Event) : Prop where
  scheduled : ∀ n, ∃ k, n ≤ k ∧ ∃ io, u k = .thread io
  passes : ∀ time : ℤ, ∃ n, ∀ k io, n ≤ k → u k = .thread io → time ≤ io.now

/-- What is left of the call: slots to try, and bytes of the packet to send. -/
def resendMeasure (s : SendThread) : ℕ :=
  match s.pc with
  | .resendAttempt job =>
    (job.resendCount - job.attempt) * (job.data.length + 2) + (job.data.length + 1)
  | .resendFlush job flush =>
    (job.resendCount - job.attempt) * (job.data.length + 2) + (job.data.length - flush.totalSent)
  | _ => 0

/-- With the budget spent the partial-send loop does not wait. -/
lemma flushPass_ne_waits {data : Packet} {flush : Flush} {io : Io}
    (hspent : io.now - flush.partialStart ≥ partialSendBudgetMs) :
    s.flushPass data flush io ≠ (s, .again flush) := by
  intro h
  have hleave : ∀ {s' : SendThread}, (s', FlushStep.leave) ≠ (s, .again flush) := by
    intro s' heq
    cases congrArg Prod.snd heq
  rw [flushPass] at h
  simp only [hspent, if_true] at h
  split_ifs at h
  · exact hleave h
  · exact hleave h
  · split at h
    · rename_i n _
      split_ifs at h with hn
      · have hsame := FlushStep.again.inj (congrArg Prod.snd h)
        have htotal := congrArg Flush.totalSent hsame
        simp only at htotal
        omega
      · exact hleave h
    · exact hleave h
    · exact hleave h
    · exact hleave h
  · exact hleave h

lemma mul_slots_lt {count attempt len : ℕ} (hlt : attempt < count) {a b : ℕ} (ha : a ≤ len + 1) :
    (count - (attempt + 1)) * (len + 2) + a < (count - attempt) * (len + 2) + b := by
  have hsucc : count - attempt = count - (attempt + 1) + 1 := by omega
  rw [hsucc, Nat.add_mul]
  omega

lemma resendJob_resendFailed (s : SendThread) (job : ResendJob) :
    (s.resendFailed job).resendJob? = none := by
  unfold SendThread.resendFailed
  dsimp only
  split_ifs <;> rfl

/-- A pass of the attempt loop leaves less to do. -/
lemma resendMeasure_attempt (hpc : s.pc = .resendAttempt job) {io : Io}
    (hstays : (s.stepResendAttempt job io).resendJob? ≠ none) :
    (s.stepResendAttempt job io).resendMeasure < s.resendMeasure := by
  have hmeasure : s.resendMeasure
      = (job.resendCount - job.attempt) * (job.data.length + 2) + (job.data.length + 1) := by
    rw [resendMeasure, hpc]
  rw [hmeasure]
  rcases resendAttempt_cases hpc io with ⟨_, _, hstep⟩ | ⟨hlt, _, hstep⟩ |
    ⟨hlt, _, c, _, _, ⟨n, hn, _, hstep⟩ | ⟨f, _, hstep⟩⟩
  · rw [hstep] at hstays
    exact absurd (resendJob_resendFailed s job) hstays
  · simp only [hstep]
    exact mul_slots_lt hlt le_rfl
  · simp only [hstep]
    show (job.resendCount - job.attempt) * (job.data.length + 2) + (job.data.length - n) < _
    omega
  · simp only [hstep]
    exact mul_slots_lt hlt le_rfl

/-- A pass of the partial-send loop leaves less to do, unless it waits. -/
lemma InCall.measure_flush (h : InCall s₀ job₀ s job tried) {flush : Flush}
    (hpc : s.pc = .resendFlush job flush) {io : Io}
    (hstays : (s.stepResendFlush job flush io).resendJob? ≠ none) :
    (s.stepResendFlush job flush io).resendMeasure < s.resendMeasure ∨
      ((s.stepResendFlush job flush io).pc = s.pc
        ∧ s.flushPass job.data flush io = (s, .again flush)) := by
  have hmeasure : s.resendMeasure = (job.resendCount - job.attempt) * (job.data.length + 2)
      + (job.data.length - flush.totalSent) := by
    rw [resendMeasure, hpc]
  have hlt : job.attempt < job.resendCount := by
    have hcursor := h.cursor
    rw [resendCursor_of_flush hpc, ← h.resendCount_eq] at hcursor
    exact hcursor
  rw [hmeasure]
  unfold stepResendFlush at hstays ⊢
  rcases flushPass_cases s job.data flush io with heq | ⟨_, heq⟩ | ⟨n, hn, hle, _, heq⟩
  · rw [heq] at hstays ⊢
    dsimp only at hstays ⊢
    split_ifs at hstays ⊢
    · exact Or.inl (mul_slots_lt hlt le_rfl)
    · exact absurd rfl hstays
  · rw [heq, hpc]
    exact Or.inr ⟨rfl, rfl⟩
  · rw [heq]
    left
    show (job.resendCount - job.attempt) * (job.data.length + 2)
      + (job.data.length - (flush.totalSent + n)) < _
    omega

/-- A step inside the call stays where it is, or leaves less to do; and it leaves less to do
if it is the thread's and the budget of a partial send is spent. -/
lemma InCall.measure_step (h : InCall s₀ job₀ s job tried) {e : Event}
    (hstays : (s.step e).resendJob? ≠ none) :
    ((s.step e).pc = s.pc ∨ (s.step e).resendMeasure < s.resendMeasure) ∧
    ∀ io, e = .thread io → (∀ job flush, s.pc = .resendFlush job flush →
        io.now - flush.partialStart ≥ partialSendBudgetMs) →
      (s.step e).resendMeasure < s.resendMeasure := by
  have hother : (∀ io, e ≠ .thread io) → (s.step e).pc = s.pc →
      ((s.step e).pc = s.pc ∨ (s.step e).resendMeasure < s.resendMeasure) ∧
      ∀ io, e = .thread io → (∀ job flush, s.pc = .resendFlush job flush →
          io.now - flush.partialStart ≥ partialSendBudgetMs) →
        (s.step e).resendMeasure < s.resendMeasure :=
    fun hne hpc => ⟨Or.inl hpc, fun io hio => absurd hio (hne io)⟩
  cases e with
  | thread io =>
    have hstays : (s.threadStep io).resendJob? ≠ none := hstays
    show ((s.threadStep io).pc = s.pc ∨ (s.threadStep io).resendMeasure < s.resendMeasure) ∧
      ∀ io', Event.thread io = .thread io' → _ → (s.threadStep io).resendMeasure < s.resendMeasure
    rcases pc_of_resendJob h.here with hpc | ⟨flush, hpc⟩
    · rw [threadStep, hpc] at hstays ⊢
      have hless := resendMeasure_attempt hpc hstays
      exact ⟨Or.inr hless, fun _ _ _ => hless⟩
    · have hstep : s.threadStep io = s.stepResendFlush job flush io := by rw [threadStep, hpc]
      rw [hstep] at hstays ⊢
      rcases h.measure_flush hpc hstays with hless | ⟨hsame, hwaits⟩
      · exact ⟨Or.inr hless, fun _ _ _ => hless⟩
      · refine ⟨Or.inl hsame, ?_⟩
        intro io' hio hspent
        obtain rfl := Event.thread.inj hio
        exact absurd hwaits (flushPass_ne_waits (hspent job flush hpc))
  | replaceConnection slot c =>
    refine hother (fun io => by simp) ?_
    show (s.replaceConnection slot c).pc = s.pc
    unfold SendThread.replaceConnection
    split_ifs <;> rfl
  | _ => exact hother (fun io => by simp) rfl

lemma resendMeasure_of_pc (h : s'.pc = s.pc) : s'.resendMeasure = s.resendMeasure := by
  rw [resendMeasure, resendMeasure, h]

/-- A call that never has less to do stays where it is. -/
lemma CallBegins.pc_of_stuck (h : CallBegins s₀ job₀)
    (hin : ∀ n, (runState SendThread.step s₀ u n).resendJob? ≠ none) {n : ℕ}
    (hstuck : ∀ m, ¬ (runState SendThread.step s₀ u m).resendMeasure
      < (runState SendThread.step s₀ u n).resendMeasure) {m : ℕ} (hm : n ≤ m) :
    (runState SendThread.step s₀ u m).pc = (runState SendThread.step s₀ u n).pc := by
  induction m, hm using Nat.le_induction with
  | base => rfl
  | succ m hm ih =>
    obtain ⟨job, hjob⟩ := h.inCall_run (n := m) fun k _ => hin k
    rcases (hjob.measure_step (hin (m + 1))).1 with hsame | hdrop
    · exact hsame.trans ih
    · refine absurd ?_ (hstuck (m + 1))
      rwa [resendMeasure_of_pc ih] at hdrop

/-- At some time the budget of the partial send that a state is in is spent. -/
lemma ClockRuns.exists_spent (hclock : ClockRuns u) (h : s.resendJob? = some job) :
    ∃ late, ∀ k io, late ≤ k → u k = .thread io →
      ∀ job flush, s.pc = .resendFlush job flush →
        io.now - flush.partialStart ≥ partialSendBudgetMs := by
  rcases pc_of_resendJob h with hattempt | ⟨flush, hflush⟩
  · refine ⟨0, fun k io _ _ job flush hflush => ?_⟩
    rw [hattempt] at hflush
    cases hflush
  · obtain ⟨late, hlate⟩ := hclock.passes (flush.partialStart + partialSendBudgetMs)
    refine ⟨late, fun k io hk hio job' flush' hflush' => ?_⟩
    rw [hflush] at hflush'
    obtain ⟨_, rfl⟩ := Pc.resendFlush.inj hflush'
    have := hlate k io hk hio
    omega

/-- From any moment of a call that does not end, less and less is left to do. -/
lemma CallBegins.measure_drops (h : CallBegins s₀ job₀) (hclock : ClockRuns u)
    (hin : ∀ n, (runState SendThread.step s₀ u n).resendJob? ≠ none) (n : ℕ) :
    ∃ m, (runState SendThread.step s₀ u m).resendMeasure
      < (runState SendThread.step s₀ u n).resendMeasure := by
  by_contra hstuck
  have hstuck := not_exists.mp hstuck
  obtain ⟨job, hjob⟩ := h.inCall_run (n := n) fun k _ => hin k
  obtain ⟨late, hlate⟩ := hclock.exists_spent hjob.here
  -- the thread is scheduled when the budget is spent
  obtain ⟨k, hk, io, hio⟩ := hclock.scheduled (max n late)
  have hpc := h.pc_of_stuck hin hstuck ((le_max_left n late).trans hk)
  obtain ⟨job', hjob'⟩ := h.inCall_run (n := k) fun l _ => hin l
  apply hstuck (k + 1)
  rw [← resendMeasure_of_pc hpc]
  apply (hjob'.measure_step (hin (k + 1))).2 io hio
  intro job'' flush hflush
  rw [hpc] at hflush
  exact hlate k io ((le_max_right n late).trans hk) hio job'' flush hflush

/-- A call comes to an end when the clock runs. -/
theorem CallBegins.ends (h : CallBegins s₀ job₀) (hclock : ClockRuns u) :
    ∃ n, (runState SendThread.step s₀ u n).resendJob? = none := by
  by_contra hnever
  have hin : ∀ n, (runState SendThread.step s₀ u n).resendJob? ≠ none :=
    fun n hn => hnever ⟨n, hn⟩
  -- there is a moment with the least to do
  obtain ⟨m, hm⟩ := h.measure_drops hclock hin
    (Function.argmin fun n => (runState SendThread.step s₀ u n).resendMeasure)
  exact Function.not_lt_argmin (fun n => (runState SendThread.step s₀ u n).resendMeasure) m hm

end SendThread

end TcpUdp
