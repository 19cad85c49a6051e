import TcpUdp.NetworkScoreTheorems
import Mathlib.Data.List.GetD

/-!
# Which slots are counted dead

`TcpVirtualChannel::getNetworkScore` tells `compute` about a connection through its runtime info
only, with zeros for a slot that is null or not connected. Where there is no runtime info,
`compute` asks whether the slot has sent: a connection that has not is counted dead although it
is connected, and one that has is counted alive although it is not. `deadCount_exact_iff` says
when the two errors cancel out; without errors they do.
-/

namespace TcpUdp

open Lib

/-- What the platform tells about a socket; the fields of `available` are those of `tcp_info`. -/
inductive TcpInfo where
  | available (info : RuntimeInfo)
  | failing
  | unsupported
  deriving DecidableEq

def TcpInfo.isAvailable : TcpInfo → Bool
  | available _ => true
  | failing | unsupported => false

/-- The fields of a `TcpConnection` that have to do with its runtime info. -/
structure SampledConnection where
  connected : Bool := true
  lastRefreshTime : ℤ := 0
  lastRuntimeInfo : RuntimeInfo := {}

namespace SampledConnection

def sampleRuntimeInfo (conn : SampledConnection) (tcpInfo : TcpInfo) : RuntimeInfo :=
  if !conn.connected then {}
  else
    match tcpInfo with
    | .available info => { info with supported := true, valid := true }
    | .failing | .unsupported => {}

def refreshRuntimeInfoIfStale (conn : SampledConnection) (refreshInterval now : ℤ)
    (tcpInfo : TcpInfo) : SampledConnection :=
  if now - conn.lastRefreshTime < refreshInterval then conn
  else { conn with lastRefreshTime := now, lastRuntimeInfo := conn.sampleRuntimeInfo tcpInfo }

def disconnect (conn : SampledConnection) : SampledConnection := { conn with connected := false }

end SampledConnection

namespace ConnSendStats

/-- The statistics of a normal packet that went out whole. -/
def countSent (stats : ConnSendStats) (messageId : ℕ) (nowMs : ℤ) : ConnSendStats :=
  { stats with
    lastTxMessageId := messageId
    lastTxTimeMs := nowMs
    txCount := (stats.txCount + 1) % uint64Size
    valid := true
    reenqueueCount := 0 }

def countFailure (stats : ConnSendStats) : ConnSendStats :=
  { stats with reenqueueCount := (stats.reenqueueCount + 1) % uint64Size }

end ConnSendStats

/-- The vectors of a channel that `getNetworkScore` reads. -/
structure ScoredChannel where
  connections : List (Option SampledConnection)
  connSendStats : List (Option ConnSendStats)
  socketStatuses : List (Option SocketStatus)

/-- When the connection of a slot is refreshed, and what the platform says then. -/
structure Sampling where
  now : ℤ
  tcpInfo : TcpInfo

namespace ScoredChannel

/-- The vectors after `open()`, for slots that are null or hold a new connection, which may be
disconnected by then. -/
def opened (connected : List (Option Bool)) : ScoredChannel where
  connections := connected.map (Option.map fun c => { connected := c })
  connSendStats := List.replicate connected.length (some {})
  socketStatuses := List.replicate connected.length (some {})

/-- The connection of a slot, once `getNetworkScore` has looked at it. -/
def refreshed (sampling : Sampling) (conn : SampledConnection) : SampledConnection :=
  if conn.connected then conn.refreshRuntimeInfoIfStale 500 sampling.now sampling.tcpInfo else conn

/-- The entry of `infos` for a slot. -/
def infoOf : Option SampledConnection → RuntimeInfo
  | some conn => if conn.connected then conn.lastRuntimeInfo else {}
  | none => {}

/-- The score, and the connections with their runtime info refreshed. -/
def getNetworkScore (ch : ScoredChannel) (samplings : ℕ → Sampling) (clock : ℕ → ℤ)
    (approxSize : ℕ) : NetworkScore × ScoredChannel :=
  let connections := ch.connections.mapIdx fun i conn => conn.map (refreshed (samplings i))
  let infos := connections.map infoOf
  (NetworkScoreCalculator.compute infos ch.connSendStats ch.socketStatuses clock approxSize,
    { ch with connections })

/-! ## Histories -/

inductive Event where
  /-- The send thread has sent a normal packet whole on the connection of the slot. -/
  | sent (slot messageId : ℕ) (nowMs : ℤ)
  | sendFailed (slot : ℕ)
  /-- `sendOnResendConn` has sent a packet; it keeps no statistics. -/
  | resent (slot : ℕ)
  /-- The send thread rates a connection. -/
  | refresh (slot : ℕ) (refreshInterval : ℤ) (sampling : Sampling)
  | markDegraded (slot : ℕ) (nowMs : ℤ)
  | disconnect (slot : ℕ)
  | replaceConnection (slot : ℕ)
  | getNetworkScore (samplings : ℕ → Sampling)

def step (ch : ScoredChannel) : Event → ScoredChannel
  | .sent slot messageId nowMs =>
    { ch with
      connSendStats := ch.connSendStats.modify slot (Option.map (·.countSent messageId nowMs)) }
  | .sendFailed slot =>
    { ch with connSendStats := ch.connSendStats.modify slot (Option.map (·.countFailure)) }
  | .resent _ => ch
  | .refresh slot refreshInterval sampling =>
    { ch with
      connections := ch.connections.modify slot (Option.map
        (·.refreshRuntimeInfoIfStale refreshInterval sampling.now sampling.tcpInfo)) }
  | .markDegraded slot nowMs =>
    { ch with
      socketStatuses := ch.socketStatuses.modify slot (Option.map (·.markDegraded nowMs)) }
  | .disconnect slot =>
    { ch with connections := ch.connections.modify slot (Option.map (·.disconnect)) }
  | .replaceConnection slot =>
    { connections := ch.connections.set slot (some {})
      connSendStats := ch.connSendStats.set slot (some {})
      socketStatuses := ch.socketStatuses.set slot (some {}) }
  | .getNetworkScore samplings => (ch.getNetworkScore samplings (fun _ => 0) 0).2

def run (connected : List (Option Bool)) (events : List Event) : ScoredChannel :=
  events.foldl step (opened connected)

/-! ## What is known of a slot -/

/-- The slot is neither null nor disconnected. -/
def isConnected (ch : ScoredChannel) (i : ℕ) : Bool :=
  (ch.connections.getD i none).any (·.connected)

/-- The connection of the slot has sent a normal packet whole. -/
def hasSent (ch : ScoredChannel) (i : ℕ) : Bool :=
  (ch.connSendStats.getD i none).any (·.valid)

/-- The platform tells about the connection, or has less than half a second ago. -/
def hasRuntimeInfo (ch : ScoredChannel) (samplings : ℕ → Sampling) (i : ℕ) : Bool :=
  (ch.connections.getD i none).any fun conn =>
    if (samplings i).now - conn.lastRefreshTime < 500 then conn.lastRuntimeInfo.valid
    else (samplings i).tcpInfo.isAvailable

/-- How many slots have the property. -/
def countSlots (ch : ScoredChannel) (p : ℕ → Bool) : ℕ :=
  (List.range ch.connections.length).countP p

/-! ## Every slot has its statistics -/

/-- A sampling yields both flags or neither. -/
def Sampled (conn : SampledConnection) : Prop :=
  conn.lastRuntimeInfo.supported = conn.lastRuntimeInfo.valid

structure Wf (ch : ScoredChannel) : Prop where
  stats : ch.connSendStats.length = ch.connections.length
  statuses : ch.socketStatuses.length = ch.connections.length
  sampled : ∀ entry ∈ ch.connections, ∀ conn ∈ entry, Sampled conn

lemma sampled_refresh {conn : SampledConnection} (h : Sampled conn) (refreshInterval now : ℤ)
    (tcpInfo : TcpInfo) : Sampled (conn.refreshRuntimeInfoIfStale refreshInterval now tcpInfo) := by
  unfold SampledConnection.refreshRuntimeInfoIfStale SampledConnection.sampleRuntimeInfo
  split_ifs
  · exact h
  · rfl
  · cases tcpInfo <;> rfl

lemma sampled_refreshed {conn : SampledConnection} (h : Sampled conn) (sampling : Sampling) :
    Sampled (refreshed sampling conn) := by
  rw [refreshed]
  split_ifs
  · exact sampled_refresh h _ _ _
  · exact h

lemma forall_mem_modify {α : Type} {P : α → Prop} {f : α → α} (hf : ∀ a, P a → P (f a))
    {l : List α} (h : ∀ a ∈ l, P a) (i : ℕ) : ∀ a ∈ l.modify i f, P a := by
  intro a ha
  obtain ⟨j, hj⟩ := List.mem_iff_getElem?.mp ha
  rw [List.getElem?_modify] at hj
  obtain ⟨b, hb, rfl⟩ := Option.map_eq_some_iff.mp hj
  have hPb := h b (List.mem_of_getElem? hb)
  split_ifs
  · exact hf b hPb
  · exact hPb

lemma forall_sampled_map {f : SampledConnection → SampledConnection}
    (hf : ∀ conn, Sampled conn → Sampled (f conn)) (entry : Option SampledConnection)
    (h : ∀ conn ∈ entry, Sampled conn) : ∀ conn ∈ entry.map f, Sampled conn := by
  intro conn hconn
  obtain ⟨conn', hconn', rfl⟩ := Option.map_eq_some_iff.mp hconn
  exact hf conn' (h conn' hconn')

variable {ch : ScoredChannel}

lemma wf_opened (connected : List (Option Bool)) : Wf (opened connected) := by
  refine ⟨?_, ?_, fun entry hentry conn hconn => ?_⟩
  · exact List.length_replicate.trans (List.length_map _).symm
  · exact List.length_replicate.trans (List.length_map _).symm
  · obtain ⟨c, -, rfl⟩ := List.mem_map.mp hentry
    obtain ⟨_, -, rfl⟩ := Option.map_eq_some_iff.mp hconn
    rfl

/-- What one event does to the vectors. -/
lemma Wf.step (h : Wf ch) (e : Event) : Wf (ch.step e) := by
  obtain ⟨hstats, hstatuses, hsampled⟩ := h
  cases e with
  | sent slot messageId nowMs => exact ⟨(List.length_modify ..).trans hstats, hstatuses, hsampled⟩
  | sendFailed slot => exact ⟨(List.length_modify ..).trans hstats, hstatuses, hsampled⟩
  | resent slot => exact ⟨hstats, hstatuses, hsampled⟩
  | refresh slot refreshInterval sampling =>
    exact ⟨hstats.trans (List.length_modify ..).symm, hstatuses.trans (List.length_modify ..).symm,
      forall_mem_modify (forall_sampled_map fun _ hconn => sampled_refresh hconn _ _ _) hsampled _⟩
  | markDegraded slot nowMs =>
    exact ⟨hstats, (List.length_modify ..).trans hstatuses, hsampled⟩
  | disconnect slot =>
    exact ⟨hstats.trans (List.length_modify ..).symm, hstatuses.trans (List.length_modify ..).symm,
      forall_mem_modify (forall_sampled_map (f := SampledConnection.disconnect) fun _ hconn => hconn)
        hsampled _⟩
  | replaceConnection slot =>
    refine ⟨?_, ?_, fun entry hentry => ?_⟩
    · rw [ScoredChannel.step, List.length_set, List.length_set, hstats]
    · rw [ScoredChannel.step, List.length_set, List.length_set, hstatuses]
    · rcases List.mem_or_eq_of_mem_set hentry with hentry | rfl
      · exact hsampled entry hentry
      · intro conn hconn
        cases hconn
        rfl
  | getNetworkScore samplings =>
    refine ⟨hstats.trans List.length_mapIdx.symm, hstatuses.trans List.length_mapIdx.symm, ?_⟩
    intro entry hentry
    obtain ⟨i, hi, rfl⟩ := List.mem_mapIdx.mp hentry
    exact forall_sampled_map (fun _ hconn => sampled_refreshed hconn _) _
      (hsampled _ (List.getElem_mem hi))

lemma wf_run (connected : List (Option Bool)) (events : List Event) :
    Wf (run connected events) := by
  rw [run]
  exact List.foldlRecOn (motive := Wf) events _ (wf_opened connected) fun _ hch e _ => hch.step e

/-! ## What is counted -/

lemma isAlive_of_sampled {info : RuntimeInfo} (h : info.supported = info.valid)
    (stats : Option ConnSendStats) :
    NetworkScoreCalculator.isAlive info stats = (info.valid || stats.any (·.valid)) := by
  rw [NetworkScoreCalculator.isAlive, h]
  cases info.valid <;> cases stats.any (·.valid) <;> rfl

lemma refresh_connected (conn : SampledConnection) (refreshInterval now : ℤ) (tcpInfo : TcpInfo) :
    (conn.refreshRuntimeInfoIfStale refreshInterval now tcpInfo).connected = conn.connected := by
  rw [SampledConnection.refreshRuntimeInfoIfStale]
  split_ifs <;> rfl

/-- Whether the entry for a connection is valid. -/
lemma valid_infoOf (sampling : Sampling) (conn : SampledConnection) :
    (infoOf (some (refreshed sampling conn))).valid
      = (conn.connected
        && if sampling.now - conn.lastRefreshTime < 500 then conn.lastRuntimeInfo.valid
          else sampling.tcpInfo.isAvailable) := by
  rw [infoOf, refreshed]
  by_cases hconn : conn.connected = true
  · rw [if_pos hconn, refresh_connected, if_pos hconn, hconn, Bool.true_and]
    unfold SampledConnection.refreshRuntimeInfoIfStale SampledConnection.sampleRuntimeInfo
    rw [hconn]
    split_ifs with hfresh
    · rfl
    · contradiction
    · cases sampling.tcpInfo <;> rfl
  · rw [if_neg hconn, if_neg hconn, Bool.eq_false_iff.mpr hconn]
    rfl

lemma sampled_infoOf {entry : Option SampledConnection} (h : ∀ conn ∈ entry, Sampled conn) :
    (infoOf entry).supported = (infoOf entry).valid := by
  cases entry with
  | none => rfl
  | some conn =>
    rw [infoOf]
    split_ifs
    · exact h conn rfl
    · rfl

/-- A slot is taken to be alive if its connection is connected and has runtime info, or if it
has sent. -/
lemma isAlive_slot (h : Wf ch) (samplings : ℕ → Sampling) {i : ℕ} (hi : i < ch.connections.length) :
    NetworkScoreCalculator.isAlive
        (infoOf ((ch.connections.getD i none).map (refreshed (samplings i))))
        (ch.connSendStats.getD i none)
      = (ch.isConnected i && ch.hasRuntimeInfo samplings i || ch.hasSent i) := by
  have hsampled : ∀ conn ∈ (ch.connections.getD i none).map (refreshed (samplings i)),
      Sampled conn := by
    rw [List.getD_eq_getElem _ _ hi]
    exact forall_sampled_map (fun _ hconn => sampled_refreshed hconn _) _
      (h.sampled _ (List.getElem_mem hi))
  rw [isAlive_of_sampled (sampled_infoOf hsampled), isConnected, hasRuntimeInfo, hasSent]
  cases ch.connections.getD i none with
  | none => rfl
  | some conn => rw [Option.map_some, valid_infoOf, Option.any_some, Option.any_some]

lemma countP_eq_range {α : Type} (l : List α) (d : α) (p : α → Bool) :
    l.countP p = (List.range l.length).countP fun i => p (l.getD i d) := by
  have hl : l = (List.range l.length).map fun i => l.getD i d := by
    refine List.ext_getElem (by simp) fun i hi hi' => ?_
    rw [List.getElem_map, List.getElem_range, List.getD_eq_getElem _ _ hi]
  conv_lhs => rw [hl, List.countP_map]
  rfl

/-- The slots that are counted dead. -/
lemma deadCount_eq (h : Wf ch) (samplings : ℕ → Sampling) (clock : ℕ → ℤ) (approxSize : ℕ) :
    (ch.getNetworkScore samplings clock approxSize).1.deadCount
      = ch.countSlots fun i =>
        !(ch.isConnected i && ch.hasRuntimeInfo samplings i || ch.hasSent i) := by
  rw [getNetworkScore]
  simp only
  rw [NetworkScoreCalculator.deadCount_compute,
    countP_eq_range _ { info := {}, sendStats := none, status := none, nowMs := 0 },
    NetworkScoreCalculator.length_slots, List.length_map, List.length_mapIdx, h.stats, h.statuses,
    min_self, min_self, countSlots]
  congr 1
  apply List.countP_congr
  intro i hi
  have hi := List.mem_range.mp hi
  have hinfo : i < ((ch.connections.mapIdx fun i conn =>
      conn.map (refreshed (samplings i))).map infoOf).length := by
    rw [List.length_map, List.length_mapIdx]
    exact hi
  have hslot := NetworkScoreCalculator.getD_slots clock hinfo (h.stats ▸ hi) (h.statuses ▸ hi)
    { info := {}, sendStats := none, status := none, nowMs := 0 }
  rw [hslot, ← isAlive_slot h samplings hi, List.getD_eq_getElem _ _ hinfo, List.getElem_map,
    List.getElem_mapIdx, List.getD_eq_getElem ch.connections _ hi]

lemma countP_split {α : Type} (l : List α) (p q : α → Bool) :
    l.countP p = l.countP (fun a => q a && p a) + l.countP (fun a => !q a && p a) := by
  rw [List.countP_eq_countP_filter_add l p q, List.countP_filter, List.countP_filter]
  simp only [Bool.and_comm]

/-- Connected slots are counted dead by mistake, disconnected ones alive, and the count is right
if there are as many of the ones as of the others. -/
lemma countSlots_eq_iff (connected informed sent : ℕ → Bool) :
    ch.countSlots (fun i => !(connected i && informed i || sent i))
        = ch.countSlots (fun i => !connected i)
      ↔ ch.countSlots (fun i => connected i && !informed i && !sent i)
        = ch.countSlots (fun i => !connected i && sent i) := by
  have hdead := countP_split (List.range ch.connections.length)
    (fun i => !(connected i && informed i || sent i)) connected
  have hgone := countP_split (List.range ch.connections.length) (fun i => !connected i) sent
  have h1 : (fun i => connected i && !(connected i && informed i || sent i))
      = fun i => connected i && !informed i && !sent i := by
    funext i
    cases connected i <;> cases informed i <;> rfl
  have h2 : (fun i => !connected i && !(connected i && informed i || sent i))
      = fun i => !sent i && !connected i := by
    funext i
    cases connected i <;> cases sent i <;> rfl
  have h3 : (fun i => sent i && !connected i) = fun i => !connected i && sent i := by
    funext i
    exact Bool.and_comm _ _
  -- connected slots that have sent and lost ones that have not are counted as they should be
  rw [h1, h2] at hdead
  rw [h3] at hgone
  simp only [countSlots]
  omega

/-- The count is right if and only if as many connected slots have neither runtime info nor sent
as disconnected ones have sent. -/
theorem deadCount_exact_iff (connected : List (Option Bool)) (events : List Event)
    (samplings : ℕ → Sampling) (clock : ℕ → ℤ) (approxSize : ℕ) :
    let ch := run connected events
    (ch.getNetworkScore samplings clock approxSize).1.deadCount
        = ch.countSlots (fun i => !ch.isConnected i)
      ↔ ch.countSlots (fun i => ch.isConnected i && !ch.hasRuntimeInfo samplings i && !ch.hasSent i)
        = ch.countSlots (fun i => !ch.isConnected i && ch.hasSent i) := by
  intro ch
  rw [deadCount_eq (wf_run connected events), Nat.cast_inj]
  exact countSlots_eq_iff _ _ _

/-- One connection, connected, on a platform that tells nothing, before the first packet. -/
theorem not_deadCount_exact :
    ¬ ∀ (connected : List (Option Bool)) (events : List Event) (samplings : ℕ → Sampling)
      (clock : ℕ → ℤ) (approxSize : ℕ),
      ((run connected events).getNetworkScore samplings clock approxSize).1.deadCount
        = (run connected events).countSlots fun i => !(run connected events).isConnected i := by
  intro h
  have hone := h [some true] [] (fun _ => { now := 1000, tcpInfo := .unsupported }) (fun _ => 0) 0
  revert hone
  decide

/-- A connection that has sent and is then disconnected is counted alive. -/
example : ((run [some true] [.sent 0 0 0, .disconnect 0]).getNetworkScore
    (fun _ => { now := 1000, tcpInfo := .failing }) (fun _ => 0) 0).1.deadCount = 0 := by
  decide

end ScoredChannel
end TcpUdp
