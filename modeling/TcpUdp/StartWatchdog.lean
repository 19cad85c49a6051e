import TcpUdp.Client

/-!
# The threads that start the watchdog

The main thread in its repeated `Start()`, and the `ReconnectVC` threads that the disconnect
callbacks detach, each action by action, with what they share: `watchdogThread`, the two flags
and `vc`. `PrepareVC` joins the watchdog at its beginning and starts another one at its end,
and no lock is held in between, so two threads that are inside it at once start two
(`startWatchdog_twice`).

`vc->close()`, which `vcMutex` keeps together with the store to `vc`, is one action; so is the
connection of one socket. The sockets themselves do not matter here.
-/

namespace TcpUdp

open Lib

namespace Watchdog

open Client (Caller AfterTeardown)

/-- What comes after `StopWatchdog`. -/
inductive AfterStop where
  | teardownVc (next : AfterTeardown)
  | reconnectVC
  | stop
  deriving DecidableEq, Repr

/-- The next action of a thread. -/
inductive ThreadPc where
  /-- The main thread between two calls of `Start()`; another thread before it is detached, or
  when it has ended. -/
  | idle
  /-- `watchdogRunning = false`. -/
  | stopWatchdog (next : AfterStop)
  /-- `if (watchdogThread.joinable()) watchdogThread.join()`, under `watchdogMutex`. -/
  | joinWatchdog (next : AfterStop)
  /-- `TeardownVc`: `vc->close()` and `vc = nullptr`. -/
  | closeVc (next : AfterTeardown)
  /-- `PrepareVC`: socket `i`. -/
  | connect (caller : Caller) (i : ℕ)
  /-- `VirtualChannelFactory::create`, and the store to `vc`. -/
  | createVc (caller : Caller)
  | openVc (caller : Caller)
  | startWatchdog (caller : Caller)
  | prepareUdpSocket
  /-- The loops of `PrepareUdpSocket` and of `Start()`. -/
  | mainLoop
  /-- The head of the loop in `ReconnectVC`. -/
  | reconnectLoop (maxRetries retryCount : ℕ)
  /-- `vc` is closed: the check of `running`, and the delay. -/
  | reconnectClosed (maxRetries retryCount : ℕ)
  /-- `Stop()`: `running = false`. -/
  | stop
  /-- `Stop()`: `vc->close()`. -/
  | stopVc
  deriving DecidableEq, Repr

/-- In `PrepareVC`, behind its `StopWatchdog`. -/
def ThreadPc.preparing : ThreadPc → Bool
  | .closeVc (.prepare _) | .connect _ _ | .createVc _ | .openVc _ | .startWatchdog _ => true
  | _ => false

inductive Event where
  /-- The main thread calls `Start()`. -/
  | start
  /-- The next action of a thread, and the result of the system calls that it makes. -/
  | run (thread : ℕ) (ok : Bool)
  /-- A `disconnectCB` finds all connections of the channel dead. -/
  | allDead (vc : ℕ)
  /-- The disconnect callback of the channel detaches a thread. -/
  | callback (vc : ℕ)
  /-- The watchdog thread ends. -/
  | watchdogExit
  deriving DecidableEq, Repr

end Watchdog

open Watchdog

structure Watchdog where
  running : Bool := false
  watchdogRunning : Bool := false
  /-- `watchdogThread.joinable()`. -/
  joinable : Bool := false
  /-- The thread of `watchdogThread` has ended. -/
  exited : Bool := false
  vc : Option ℕ := none
  nextVc : ℕ := 0
  opened : ℕ → Bool := fun _ => false
  /-- The disconnect callbacks that are about to be called. -/
  pending : ℕ → ℕ := fun _ => 0
  /-- The main thread is thread 0. -/
  threads : ℕ → ThreadPc := fun _ => .idle
  nextThread : ℕ := 1
  /-- `std::terminate()`, or the null pointer `vc` has been used. -/
  crashed : Bool := false

namespace Watchdog

open Client (Caller AfterTeardown)

/-- The default arguments of `ReconnectVC`. -/
def maxRetries : ℕ := 5

def goto (s : Watchdog) (thread : ℕ) (pc : ThreadPc) : Watchdog :=
  { s with threads := Function.update s.threads thread pc }

/-- `vc->close()`, if there is a channel. -/
def closeVc (s : Watchdog) : Watchdog :=
  match s.vc with
  | some vc => { s with opened := Function.update s.opened vc false }
  | none => s

/-- `PrepareVC` returns. -/
def prepareReturned (s : Watchdog) (thread : ℕ) (caller : Caller) (ok : Bool) : Watchdog :=
  match caller with
  | .user =>
    if ok then s.goto thread .prepareUdpSocket
    else s.goto thread (.stopWatchdog (.teardownVc .done))
  | .reconnectVC maxRetries retryCount =>
    if ok then s.goto thread .idle
    else if !s.running then s.goto thread .stop
    else s.goto thread (.reconnectLoop maxRetries (retryCount + 1))

/-- `TeardownVc` returns. -/
def teardownReturned (s : Watchdog) (thread : ℕ) : AfterTeardown → Watchdog
  | .done => s.goto thread .idle
  | .prepare caller => s.goto thread (.connect caller 0)
  | .fail caller => s.prepareReturned thread caller false

/-- `StopWatchdog` returns. -/
def stopReturned (s : Watchdog) (thread : ℕ) : AfterStop → Watchdog
  | .teardownVc next => s.goto thread (.closeVc next)
  | .reconnectVC => s.goto thread (.reconnectLoop maxRetries 0)
  | .stop => s.goto thread .stopVc

/-- Another `std::thread` is assigned to `watchdogThread`. -/
def startWatchdog (s : Watchdog) (thread : ℕ) (caller : Caller) : Watchdog :=
  if s.joinable then { s with crashed := true }
  else
    { s with watchdogRunning := true, joinable := true, exited := false }.prepareReturned thread
      caller true

def runThread (s : Watchdog) (thread : ℕ) (ok : Bool) : Watchdog :=
  match s.threads thread with
  | .idle => s
  | .stopWatchdog next => { s with watchdogRunning := false }.goto thread (.joinWatchdog next)
  | .joinWatchdog next =>
    if s.joinable then
      -- `join()` waits for the thread to end
      if s.exited then { s with joinable := false }.stopReturned thread next else s
    else s.stopReturned thread next
  | .closeVc next => { s.closeVc with vc := none }.teardownReturned thread next
  | .connect caller i =>
    if i < vcTcpConnections then
      -- on a failure the sockets so far are closed, and the watchdog is stopped once more
      if ok then s.goto thread (.connect caller (i + 1))
      else s.goto thread (.stopWatchdog (.teardownVc (.fail caller)))
    else s.goto thread (.createVc caller)
  | .createVc caller =>
    if ok then
      { s with vc := some s.nextVc, nextVc := s.nextVc + 1 }.goto thread (.openVc caller)
    else s.goto thread (.stopWatchdog (.teardownVc (.fail caller)))
  | .openVc caller =>
    match s.vc with
    | some vc =>
      { s with opened := Function.update s.opened vc true }.goto thread (.startWatchdog caller)
    -- another thread has torn the channel down
    | none => { s with crashed := true }
  | .startWatchdog caller => s.startWatchdog thread caller
  | .prepareUdpSocket =>
    if ok then s.goto thread .mainLoop
    else s.goto thread (.stopWatchdog (.teardownVc .done))
  | .mainLoop => if s.running then s else s.goto thread .idle
  | .reconnectLoop maxRetries retryCount =>
    -- out of attempts, `ReconnectVC` calls `Stop()`
    if s.running ∧ retryCount < maxRetries then
      { s.closeVc with vc := none }.goto thread (.reconnectClosed maxRetries retryCount)
    else s.goto thread .stop
  | .reconnectClosed maxRetries retryCount =>
    if s.running then
      s.goto thread (.stopWatchdog (.teardownVc (.prepare (.reconnectVC maxRetries retryCount))))
    else s.goto thread .stop
  | .stop => { s with running := false }.goto thread (.stopWatchdog .stop)
  | .stopVc => s.closeVc.goto thread .idle

def step (s : Watchdog) (e : Event) : Watchdog :=
  if s.crashed then s
  else
    match e with
    | .start =>
      if s.threads 0 = .idle then
        { s with running := true }.goto 0 (.stopWatchdog (.teardownVc (.prepare .user)))
      else s
    | .run thread ok => s.runThread thread ok
    | .allDead vc =>
      if s.opened vc then
        { s with
          opened := Function.update s.opened vc false
          pending := Function.update s.pending vc (s.pending vc + 1) }
      else s
    | .callback vc =>
      if s.pending vc > 0 then
        { s with
          watchdogRunning := false
          pending := Function.update s.pending vc (s.pending vc - 1)
          nextThread := s.nextThread + 1 }.goto s.nextThread (.stopWatchdog .reconnectVC)
      else s
    | .watchdogExit => if s.watchdogRunning then s else { s with exited := true }

def stateAt (events : ℕ → Event) (n : ℕ) : Watchdog := runState step {} events n

/-- A thread that enters `StartWatchdog` finds no watchdog that has to be joined. -/
def AssertionHolds (s : Watchdog) (e : Event) : Prop :=
  ∀ thread ok caller, e = .run thread ok → s.threads thread = .startWatchdog caller →
    s.joinable = false

/-- The condition on a step: while a thread starts the watchdog, no other thread is in
`PrepareVC` behind its `StopWatchdog`. -/
def StartsAlone (s : Watchdog) (e : Event) : Prop :=
  ∀ thread ok caller, e = .run thread ok → s.threads thread = .startWatchdog caller →
    ∀ other, other ≠ thread → (s.threads other).preparing = false

/-! ## One thread after the other -/

variable {s : Watchdog}

/-- A thread that prepares has joined the watchdog, and nobody has started another. -/
def Joined (s : Watchdog) : Prop :=
  ∀ thread, (s.threads thread).preparing = true → s.joinable = false

lemma joined_goto (hs : Joined s) (thread : ℕ) {pc : ThreadPc}
    (hpc : pc.preparing = true → s.joinable = false) : Joined (s.goto thread pc) := by
  intro t ht
  simp only [goto, Function.update_apply] at ht
  split_ifs at ht
  · exact hpc ht
  · exact hs t ht

/-- `PrepareVC` is over. -/
lemma prepareReturned_eq (s : Watchdog) (thread : ℕ) (caller : Caller) (ok : Bool) :
    ∃ pc, s.prepareReturned thread caller ok = s.goto thread pc ∧ pc.preparing = false := by
  unfold prepareReturned
  cases caller with
  | user =>
    simp only
    split_ifs
    · exact ⟨_, rfl, rfl⟩
    · exact ⟨_, rfl, rfl⟩
  | reconnectVC maxRetries retryCount =>
    simp only
    split_ifs
    · exact ⟨_, rfl, rfl⟩
    · exact ⟨_, rfl, rfl⟩
    · exact ⟨_, rfl, rfl⟩

lemma joined_prepareReturned (hs : Joined s) (thread : ℕ) (caller : Caller) (ok : Bool) :
    Joined (s.prepareReturned thread caller ok) := by
  obtain ⟨pc, heq, hpc⟩ := prepareReturned_eq s thread caller ok
  rw [heq]
  apply joined_goto hs
  intro h
  cases hpc.symm.trans h

/-- The teardown is the beginning of a `PrepareVC`, or the end of an operation. -/
lemma joined_teardownReturned (hs : Joined s) (thread : ℕ) {next : AfterTeardown}
    (h : (ThreadPc.closeVc next).preparing = true → s.joinable = false) :
    Joined (s.teardownReturned thread next) := by
  cases next with
  | done => exact joined_goto hs thread nofun
  | prepare caller => exact joined_goto hs thread fun _ => h rfl
  | fail caller => exact joined_prepareReturned hs thread caller false

/-- The watchdog has been joined. -/
lemma joined_stopReturned (hjoined : s.joinable = false) (thread : ℕ) (next : AfterStop) :
    Joined (s.stopReturned thread next) := by
  have hs : Joined s := fun _ _ => hjoined
  cases next with
  | teardownVc next => exact joined_goto hs thread fun _ => hjoined
  | reconnectVC => exact joined_goto hs thread nofun
  | stop => exact joined_goto hs thread nofun

lemma joinable_closeVc (s : Watchdog) : s.closeVc.joinable = s.joinable := by
  unfold closeVc
  split <;> rfl

lemma joined_closeVc (hs : Joined s) : Joined s.closeVc := by
  unfold closeVc
  split
  · exact hs
  · exact hs

/-- Nobody else is in `PrepareVC` when the watchdog is started. -/
lemma joined_startWatchdog (hs : Joined s) {thread : ℕ} (caller : Caller)
    (halone : ∀ other, other ≠ thread → (s.threads other).preparing = false) :
    Joined (s.startWatchdog thread caller) := by
  unfold startWatchdog
  split_ifs
  · exact hs
  · -- the watchdog is joinable from now on, and its starter has left `PrepareVC`
    obtain ⟨pc, heq, hpc⟩ := prepareReturned_eq
      { s with watchdogRunning := true, joinable := true, exited := false } thread caller true
    rw [heq]
    intro t ht
    simp only [goto, Function.update_apply] at ht
    split_ifs at ht with hthread
    · cases hpc.symm.trans ht
    · cases (halone t hthread).symm.trans ht

lemma joined_runThread (hs : Joined s) (thread : ℕ) (ok : Bool)
    (halone : ∀ caller, s.threads thread = .startWatchdog caller →
      ∀ other, other ≠ thread → (s.threads other).preparing = false) :
    Joined (s.runThread thread ok) := by
  have hself : (s.threads thread).preparing = true → s.joinable = false := hs thread
  unfold runThread
  cases hpc : s.threads thread with
  | idle => exact hs
  | stopWatchdog next => exact joined_goto (s := { s with watchdogRunning := false }) hs thread nofun
  | joinWatchdog next =>
    -- whoever goes on to prepare has joined it here
    simp only
    split_ifs with hjoinable
    · exact joined_stopReturned rfl thread next
    · exact hs
    · exact joined_stopReturned (Bool.eq_false_of_not_eq_true hjoinable) thread next
  | closeVc next =>
    rw [hpc] at hself
    exact joined_teardownReturned (s := { s.closeVc with vc := none }) (joined_closeVc hs) thread
      fun h => (joinable_closeVc s).trans (hself h)
  | connect caller i =>
    rw [hpc] at hself
    simp only
    split_ifs
    · exact joined_goto hs thread fun _ => hself rfl
    · exact joined_goto hs thread nofun
    · exact joined_goto hs thread fun _ => hself rfl
  | createVc caller =>
    rw [hpc] at hself
    simp only
    split_ifs
    · exact joined_goto (s := { s with vc := some s.nextVc, nextVc := s.nextVc + 1 }) hs thread
        fun _ => hself rfl
    · exact joined_goto hs thread nofun
  | openVc caller =>
    rw [hpc] at hself
    simp only
    split
    · exact joined_goto (s := { s with opened := Function.update s.opened _ true }) hs thread
        fun _ => hself rfl
    · exact hs
  | startWatchdog caller => exact joined_startWatchdog hs caller (halone caller hpc)
  | prepareUdpSocket =>
    simp only
    split_ifs
    · exact joined_goto hs thread nofun
    · exact joined_goto hs thread nofun
  | mainLoop =>
    simp only
    split_ifs
    · exact hs
    · exact joined_goto hs thread nofun
  | reconnectLoop maxRetries retryCount =>
    simp only
    split_ifs
    · exact joined_goto (s := { s.closeVc with vc := none }) (joined_closeVc hs) thread nofun
    · exact joined_goto hs thread nofun
  | reconnectClosed maxRetries retryCount =>
    simp only
    split_ifs
    · exact joined_goto hs thread nofun
    · exact joined_goto hs thread nofun
  | stop => exact joined_goto (s := { s with running := false }) hs thread nofun
  | stopVc => exact joined_goto (joined_closeVc hs) thread nofun

lemma joined_step (hs : Joined s) {e : Event} (h : s.StartsAlone e) : Joined (step s e) := by
  unfold step
  by_cases hcrashed : s.crashed = true
  · rw [if_pos hcrashed]
    exact hs
  rw [if_neg hcrashed]
  cases e with
  | start =>
    simp only
    split_ifs
    · exact joined_goto (s := { s with running := true }) hs 0 nofun
    · exact hs
  | run thread ok => exact joined_runThread hs thread ok fun caller => h thread ok caller rfl
  | allDead vc =>
    simp only
    split_ifs <;> exact hs
  | callback vc =>
    simp only
    split_ifs
    · apply joined_goto
      · exact hs
      · exact nofun
    · exact hs
  | watchdogExit =>
    simp only
    split_ifs <;> exact hs

/-- In every run in which the watchdog is started only while no other thread is inside
`PrepareVC`, the assertion of `StartWatchdog` holds. -/
theorem assertion_holds (events : ℕ → Event)
    (h : ∀ n, StartsAlone (stateAt events n) (events n)) (n : ℕ) :
    AssertionHolds (stateAt events n) (events n) := by
  have hjoined : Joined (stateAt events n) := by
    apply runState_invariant_of_steps (Q := StartsAlone)
    · exact fun _ _ => rfl
    · exact fun s e hcond hs => joined_step hs hcond
    · exact fun m _ => h m
  intro thread ok caller _ hpc
  apply hjoined thread
  rw [hpc]
  rfl

/-! ## Runs -/

lemma threads_goto (s : Watchdog) {thread other : ℕ} (h : other ≠ thread) (pc : ThreadPc) :
    (s.goto thread pc).threads other = s.threads other := Function.update_of_ne h ..

lemma threads_closeVc (s : Watchdog) : s.closeVc.threads = s.threads := by
  unfold closeVc
  split <;> rfl

lemma threads_prepareReturned (s : Watchdog) {thread other : ℕ} (h : other ≠ thread)
    (caller : Caller) (ok : Bool) :
    (s.prepareReturned thread caller ok).threads other = s.threads other := by
  obtain ⟨pc, heq, -⟩ := prepareReturned_eq s thread caller ok
  rw [heq, threads_goto s h]

lemma threads_teardownReturned (s : Watchdog) {thread other : ℕ} (h : other ≠ thread)
    (next : AfterTeardown) : (s.teardownReturned thread next).threads other = s.threads other := by
  cases next with
  | done | prepare => exact threads_goto s h _
  | fail caller => exact threads_prepareReturned s h caller false

lemma threads_stopReturned (s : Watchdog) {thread other : ℕ} (h : other ≠ thread)
    (next : AfterStop) : (s.stopReturned thread next).threads other = s.threads other := by
  cases next with
  | teardownVc | reconnectVC | stop => exact threads_goto s h _

/-- A thread moves itself only. -/
lemma threads_runThread (s : Watchdog) {thread other : ℕ} (h : other ≠ thread) (ok : Bool) :
    (s.runThread thread ok).threads other = s.threads other := by
  unfold runThread
  cases hpc : s.threads thread with
  | idle => rfl
  | stopWatchdog | stop => exact threads_goto _ h _
  | connect | createVc | prepareUdpSocket | mainLoop | reconnectClosed =>
    simp only
    split_ifs
    all_goals first | rfl | exact threads_goto _ h _
  | joinWatchdog next =>
    simp only
    split_ifs
    · exact threads_stopReturned _ h next
    · rfl
    · exact threads_stopReturned _ h next
  | closeVc next =>
    exact (threads_teardownReturned _ h next).trans (congrFun (threads_closeVc s) other)
  | openVc caller =>
    simp only
    split
    · exact threads_goto _ h _
    · rfl
  | startWatchdog caller =>
    simp only [startWatchdog]
    split_ifs
    · rfl
    · exact threads_prepareReturned _ h caller true
  | reconnectLoop maxRetries retryCount =>
    simp only
    split_ifs
    · exact (threads_goto _ h _).trans (congrFun (threads_closeVc s) other)
    · exact threads_goto _ h _
  | stopVc => exact (threads_goto _ h _).trans (congrFun (threads_closeVc s) other)

/-- The main thread on its own, again and again; the UDP socket cannot be bound. -/
def restarting (n : ℕ) : Event :=
  if n % 64 = 0 then .start
  else if n % 64 = 45 then .watchdogExit
  else .run 0 (n % 64 ≠ 40)

/-- The main thread and its watchdog leave the other threads alone. -/
lemma threads_step_main (s : Watchdog) {other : ℕ} (h : other ≠ 0) {e : Event}
    (he : e = .start ∨ (∃ ok, e = .run 0 ok) ∨ e = .watchdogExit) :
    (step s e).threads other = s.threads other := by
  unfold step
  by_cases hcrashed : s.crashed = true
  · rw [if_pos hcrashed]
  rw [if_neg hcrashed]
  rcases he with rfl | ⟨ok, rfl⟩ | rfl
  · simp only
    split_ifs
    · exact threads_goto _ h _
    · rfl
  · exact threads_runThread s h ok
  · simp only
    split_ifs <;> rfl

lemma idle_restarting (n : ℕ) {thread : ℕ} (h : thread ≠ 0) :
    (stateAt restarting n).threads thread = .idle := by
  induction n with
  | zero => rfl
  | succ n ih =>
    refine (threads_step_main (stateAt restarting n) h ?_).trans ih
    unfold restarting
    split_ifs
    · exact Or.inl rfl
    · exact Or.inr (Or.inr rfl)
    · exact Or.inr (Or.inl ⟨_, rfl⟩)

/-- The second `Start()` of the main thread starts its watchdog. -/
theorem assertion_holds_restarting :
    AssertionHolds (stateAt restarting 103) (restarting 103) := by
  refine assertion_holds restarting (fun m => ?_) 103
  intro thread ok caller _ hpc other hother
  by_cases hmain : thread = 0
  · rw [idle_restarting m (hmain ▸ hother)]
    rfl
  · rw [idle_restarting m hmain] at hpc
    cases hpc

/-- The channel of the first `Start()` dies while its UDP socket cannot be bound. The detached
thread and the second `Start()` are then both in `PrepareVC`. -/
def twoThreads : List Event :=
  Event.start :: List.replicate 39 (Event.run 0 true)
    ++ [Event.allDead 0, Event.callback 0, Event.watchdogExit, Event.run 0 false]
    ++ List.replicate 3 (Event.run 0 true)
    ++ (Event.start :: List.replicate 3 (Event.run 0 true))
    ++ List.replicate 43 (Event.run 1 true)
    ++ List.replicate 36 (Event.run 0 true)

/-- The main thread starts the watchdog over the one of the detached thread. -/
theorem startWatchdog_twice : ¬ ∀ (events : ℕ → Event) (n : ℕ),
    AssertionHolds (stateAt events n) (events n) := by
  intro h
  have hrun : (stateAt (listInputs twoThreads .start) 129).threads 0 = .startWatchdog .user
      ∧ (stateAt (listInputs twoThreads .start) 129).joinable = true := by
    rw [stateAt, runState_listInputs _ (by decide +kernel)]
    decide +kernel
  have hevent : listInputs twoThreads .start 129 = .run 0 true := by decide
  have hnot := h (listInputs twoThreads .start) 129 0 true .user hevent hrun.1
  cases hrun.2.symm.trans hnot

end Watchdog
end TcpUdp
