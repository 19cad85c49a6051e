import TcpUdp.Queues
import TcpUdp.Lib.SortedMap
import TcpUdp.Lib.Run
import Mathlib.Data.Finset.Card

/-!
# The reorder thread

One iteration of the loop in `TcpVirtualChannel::reorderThreadFunc`. What an iteration
takes from outside is a `Tick`: the items it dequeues from the receive queues, in the order
in which it dequeues them, and the clock readings of the gap check and of the notification
check. What it hands out is an `Iteration`: the items delivered, the skip and the
notification if there was one, and whether anything new arrived.

A run is a sequence of ticks. Waiting changes nothing; `waitAfter` says which wait the
thread enters after an iteration, and `Woken` what ends it.
-/

namespace TcpUdp

open Lib

/-- `TcpVirtualChannel::DeliveryItem`. -/
structure DeliveryItem where
  messageId : ℕ
  data : List UInt8
  sourceConnIndex : ℤ
  deriving DecidableEq, Repr

/-- `TcpVirtualChannel::ReceivedItem`. -/
structure ReceivedItem where
  data : List UInt8
  sourceConnIndex : ℤ
  deriving DecidableEq, Repr

def DeliveryItem.received (item : DeliveryItem) : ReceivedItem :=
  { data := item.data, sourceConnIndex := item.sourceConnIndex }

structure ReorderConfig where
  reorderTimeoutMs : ℤ := 4000
  missingNotifyIntervalMs : ℤ := 200

/-- The members of `TcpVirtualChannel` that belong to the reorder thread. -/
structure Reorder where
  receivedDataMap : SortedMap ℕ ReceivedItem := SortedMap.empty
  nextMessageId : ℕ := 0
  gapFirstSeen : ℤ := 0
  gapTimerActive : Bool := false
  notifiedMissingIds : Finset ℕ := ∅

/-- A firing of the reorder timeout, with the buffer it found. -/
structure Skip where
  missingStart : ℕ
  skipTo : ℕ
  receivedDataMap : SortedMap ℕ ReceivedItem

/-- What one iteration takes from outside. -/
structure Tick where
  arrivals : List DeliveryItem := []
  /-- The clock in the gap check. -/
  gapNow : ℤ := 0
  /-- The clock in `sendMissingNotifications`. -/
  notifyNow : ℤ := 0
  /-- The clock before the wait. -/
  waitNow : ℤ := 0

/-- The outcome of one iteration. -/
structure Iteration where
  state : Reorder
  gotAny : Bool
  /-- The items passed to `receiveCallback`, in order. -/
  delivered : List DeliveryItem
  skip : Option Skip
  /-- The ids passed to `missingNotifyCallback`, if it is called. -/
  notified : Option (List ℕ)

namespace Reorder

/-! ## Dequeuing -/

/-- One item off a receive queue. An id that was passed is dropped; a copy of a buffered id
counts as news, but the buffer keeps the first copy. -/
def absorb (acc : Reorder × Bool) (item : DeliveryItem) : Reorder × Bool :=
  let (s, gotAny) := acc
  if item.messageId < s.nextMessageId then (s, gotAny)
  else
    ({ s with
      receivedDataMap := s.receivedDataMap.tryEmplace item.messageId item.received }, true)

def absorbAll (s : Reorder) (arrivals : List DeliveryItem) : Reorder × Bool :=
  arrivals.foldl absorb (s, false)

/-! ## Delivering -/

/-- The loop of `drainReceivedDataMap`, at most `fuel` items. -/
def drainLoop : ℕ → Reorder → List DeliveryItem × Reorder
  | 0, s => ([], s)
  | fuel + 1, s =>
    match s.receivedDataMap.find? s.nextMessageId with
    | none => ([], s)
    | some item =>
      let (items, s') := drainLoop fuel
        { s with
          notifiedMissingIds := s.notifiedMissingIds.erase s.nextMessageId
          receivedDataMap := s.receivedDataMap.erase s.nextMessageId
          nextMessageId := (s.nextMessageId + 1) % uint64Size }
      (⟨s.nextMessageId, item.data, item.sourceConnIndex⟩ :: items, s')

/-- Every pass takes an item out of the buffer, so its size bounds the passes. -/
def drainReceivedDataMap (s : Reorder) : List DeliveryItem × Reorder :=
  drainLoop s.receivedDataMap.size s

/-! ## The gap timer -/

/-- The gap check: arm the timer, let it run, or skip to the first buffered id and deliver
from there. An empty buffer stops the timer. -/
def checkGap (cfg : ReorderConfig) (s : Reorder) (now : ℤ) :
    Reorder × List DeliveryItem × Option Skip :=
  match s.receivedDataMap.entries.head? with
  | some (skipTo, _) =>
    if !s.gapTimerActive then ({ s with gapFirstSeen := now, gapTimerActive := true }, [], none)
    else
      let elapsed := now - s.gapFirstSeen
      if elapsed ≥ cfg.reorderTimeoutMs then
        -- the timeout fires
        let skip : Skip := ⟨s.nextMessageId, skipTo, s.receivedDataMap⟩
        let s := { s with
          nextMessageId := skipTo, notifiedMissingIds := ∅, gapTimerActive := false }
        let (moreItems, s) := s.drainReceivedDataMap
        (s, moreItems, some skip)
      else (s, [], none)
  | none => ({ s with gapTimerActive := false }, [], none)

/-! ## Asking for missing ids -/

/-- The inner loop of `sendMissingNotifications`: `count` ids from `id` on are looked at,
and those not notified before are appended until the list is full. -/
def collectBelow (notified : Finset ℕ) : ℕ → ℕ → List ℕ → List ℕ
  | 0, _, missingIds => missingIds
  | count + 1, id, missingIds =>
    if id ∉ notified then
      let missingIds := missingIds ++ [id]
      if missingIds.length ≥ vcMaxMissingIdsPerNotify then missingIds
      else collectBelow notified count (id + 1) missingIds
    else collectBelow notified count (id + 1) missingIds

/-- The outer loop, over the buffered ids. Every round starts from `expected` again. -/
def collectMissing (notified : Finset ℕ) (expected : ℕ) : List ℕ → List ℕ → List ℕ
  | [], missingIds => missingIds
  | key :: keys, missingIds =>
    let missingIds := collectBelow notified (key - expected) expected missingIds
    if missingIds.length ≥ vcMaxMissingIdsPerNotify then missingIds
    else collectMissing notified expected keys missingIds

/-- The ids of the next notification. -/
def missingIds (s : Reorder) : List ℕ :=
  collectMissing s.notifiedMissingIds s.nextMessageId s.receivedDataMap.keys []

def maxNotifiedMissingIds : ℕ := 1000

/-- Remember what is being asked for; a memory that has grown too large is emptied first. -/
def rememberNotified (s : Reorder) (ids : List ℕ) : Reorder :=
  { s with
    notifiedMissingIds :=
      -- the clearing comes before the new ids are put in
      (if s.notifiedMissingIds.card > maxNotifiedMissingIds then ∅ else s.notifiedMissingIds)
        ∪ ids.toFinset }

def sendMissingNotifications (cfg : ReorderConfig) (s : Reorder) (now : ℤ) :
    Reorder × Option (List ℕ) :=
  if s.receivedDataMap.entries.isEmpty || !s.gapTimerActive then (s, none)
  else if now - s.gapFirstSeen < cfg.missingNotifyIntervalMs then (s, none)
  else if s.missingIds.isEmpty then (s, none)
  else (s.rememberNotified s.missingIds, some s.missingIds)

/-! ## Iterations and runs -/

/-- One iteration of the loop in `reorderThreadFunc`. -/
def reorderIteration (cfg : ReorderConfig) (s : Reorder) (tick : Tick) : Iteration :=
  let (s, gotAny) := s.absorbAll tick.arrivals
  let (itemsToDeliver, s) := s.drainReceivedDataMap
  let (s, moreItems, skip) := s.checkGap cfg tick.gapNow
  let (s, notified) := s.sendMissingNotifications cfg tick.notifyNow
  { state := s, gotAny := gotAny, delivered := itemsToDeliver ++ moreItems, skip := skip,
    notified := notified }

def step (cfg : ReorderConfig) (s : Reorder) (tick : Tick) : Reorder :=
  (s.reorderIteration cfg tick).state

/-- The state of a fresh channel after `n` iterations. -/
def stateAt (cfg : ReorderConfig) (ticks : ℕ → Tick) (n : ℕ) : Reorder :=
  runState (step cfg) {} ticks n

/-- Iteration `n` of that run. -/
def iterationAt (cfg : ReorderConfig) (ticks : ℕ → Tick) (n : ℕ) : Iteration :=
  (stateAt cfg ticks n).reorderIteration cfg (ticks n)

lemma stateAt_succ (cfg : ReorderConfig) (ticks : ℕ → Tick) (n : ℕ) :
    stateAt cfg ticks (n + 1) = (iterationAt cfg ticks n).state := rfl

/-! ## Waiting -/

/-- What the thread does at the end of an iteration. -/
inductive Wait where
  | none
  | timed (remaining : ℤ)
  | untimed
  deriving DecidableEq, Repr

/-- No wait after news or when the deadline has passed; else a wait for the rest of the
reorder timeout, or without a deadline when the timer is off. -/
def waitAfter (cfg : ReorderConfig) (it : Iteration) (now : ℤ) : Wait :=
  if it.gotAny then .none
  else if it.state.gapTimerActive then
    let remaining := cfg.reorderTimeoutMs - (now - it.state.gapFirstSeen)
    if remaining > 0 then .timed remaining else .none
  else .untimed

/-- What lets the thread run the next iteration: nothing to wait for, an enqueue, or the
deadline of its own timed wait. -/
def Woken (cfg : ReorderConfig) (it : Iteration) (tick next : Tick) : Prop :=
  match waitAfter cfg it tick.waitNow with
  | .none => True
  | .timed remaining => next.arrivals ≠ [] ∨ tick.waitNow + remaining ≤ next.gapNow
  | .untimed => next.arrivals ≠ []

/-- Time does not go backwards, within an iteration and from one to the next. -/
def MonotoneClock (ticks : ℕ → Tick) : Prop :=
  ∀ n, (ticks n).gapNow ≤ (ticks n).notifyNow ∧ (ticks n).notifyNow ≤ (ticks n).waitNow
    ∧ (ticks n).waitNow ≤ (ticks (n + 1)).gapNow

/-- The ids that arrive are below `bound`. -/
def IdsBelow (bound : ℕ) (ticks : ℕ → Tick) : Prop :=
  ∀ n, ∀ item ∈ (ticks n).arrivals, item.messageId < bound

/-! ## Runs given by their first ticks -/

/-- All clock readings of the tick are the same. -/
def tickAt (now : ℤ) (arrivals : List DeliveryItem) : Tick :=
  { arrivals := arrivals, gapNow := now, notifyNow := now, waitNow := now }

/-- The given ticks; after them nothing arrives and time stands still. -/
def script (ticks : List Tick) (finish : ℤ) (n : ℕ) : Tick := ticks.getD n (tickAt finish [])

lemma script_of_le {ticks : List Tick} {finish : ℤ} {n : ℕ} (h : ticks.length ≤ n) :
    script ticks finish n = tickAt finish [] := by
  rw [script, List.getD_eq_getElem?_getD, List.getElem?_eq_none h, Option.getD_none]

lemma idsBelow_script {bound : ℕ} {ticks : List Tick} {finish : ℤ}
    (h : ∀ tick ∈ ticks, ∀ item ∈ tick.arrivals, item.messageId < bound) :
    IdsBelow bound (script ticks finish) := by
  intro n item hitem
  rcases Nat.lt_or_ge n ticks.length with hn | hn
  · rw [script, List.getD_eq_getElem?_getD, List.getElem?_eq_getElem hn, Option.getD_some] at hitem
    exact h _ (List.getElem_mem hn) item hitem
  · rw [script_of_le hn] at hitem
    cases hitem

lemma monotoneClock_script {ticks : List Tick} {finish : ℤ}
    (h : ∀ n < ticks.length, (script ticks finish n).gapNow ≤ (script ticks finish n).notifyNow
      ∧ (script ticks finish n).notifyNow ≤ (script ticks finish n).waitNow
      ∧ (script ticks finish n).waitNow ≤ (script ticks finish (n + 1)).gapNow) :
    MonotoneClock (script ticks finish) := by
  intro n
  rcases Nat.lt_or_ge n ticks.length with hn | hn
  · exact h n hn
  · rw [script_of_le hn, script_of_le (by omega)]
    exact ⟨le_rfl, le_rfl, le_rfl⟩

end Reorder
end TcpUdp
