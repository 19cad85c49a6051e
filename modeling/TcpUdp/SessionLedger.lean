import TcpUdp.Sessions
import Mathlib.Data.List.Chain

/-!
# The ledger of the sessions

What `Sessions` comes to when the ids and the slot maps are forgotten: for each client the
channel that the server has for it and the descriptors that wait to become one. A step of the
ledger says what one step of the server and its clients can do to these, and to the sockets
behind the descriptors.
-/

namespace TcpUdp

open Sessions

/-! ## The sockets of one client -/

namespace Origin

/-- `o'` comes right after `o` in its attempt, or in a later activity. -/
def Next (o o' : Origin) : Prop :=
  o' = { o with position := o.position + 1 } ∨ o.activity < o'.activity

/-- The socket has been connected before what the client does now. -/
def Before (o : Origin) (activity : Activity) : Prop :=
  o.slotIndex = -1 ∧ o.activity = activity.number ∧ o.position + 1 = activity.position
    ∨ o.activity < activity.number

lemma Before.stop {o : Origin} {activity : Activity} (h : o.Before activity) :
    o.Before { number := activity.number + 1 } := by
  rcases h with ⟨-, h, -⟩ | h
  · exact Or.inr (h ▸ Nat.lt_succ_self _)
  · exact Or.inr (Nat.lt_succ_of_lt h)

variable {o : Origin} {l : List Origin}

lemma activity_le_getLast (h : List.IsChain Next (o :: l)) :
    o.activity ≤ ((o :: l).getLast (List.cons_ne_nil o l)).activity := by
  induction l generalizing o with
  | nil => exact le_rfl
  | cons o' l ih =>
    obtain ⟨hnext, hchain⟩ := List.isChain_cons_cons.mp h
    rw [List.getLast_cons_cons]
    refine le_trans ?_ (ih hchain)
    rcases hnext with rfl | hlt
    · exact le_rfl
    · exact hlt.le

/-- A chain that ends in the activity in which it starts is a part of that attempt. -/
lemma isChain_attempt (h : List.IsChain Next (o :: l))
    (hlast : ((o :: l).getLast (List.cons_ne_nil o l)).activity = o.activity) :
    o :: l = (List.range (l.length + 1)).map fun i => { o with position := o.position + i } := by
  induction l generalizing o with
  | nil => rfl
  | cons o' l ih =>
    obtain ⟨hnext, hchain⟩ := List.isChain_cons_cons.mp h
    rw [List.getLast_cons_cons] at hlast
    have hsame : o' = { o with position := o.position + 1 } := by
      refine hnext.resolve_right fun hlt => ?_
      have hle := activity_le_getLast hchain
      rw [hlast] at hle
      exact absurd hlt (not_lt.mpr hle)
    have hactivity : o'.activity = o.activity := by rw [hsame]
    show o :: (o' :: l) = (List.range (l.length + 1 + 1)).map _
    rw [ih hchain (hlast.trans hactivity.symm), hsame,
      List.range_succ_eq_map (n := l.length + 1), List.map_cons, List.map_map]
    refine congrArg (o :: ·) (List.map_congr_left fun i _ => ?_)
    show { o with position := o.position + 1 + i } = { o with position := o.position + (i + 1) }
    rw [Nat.add_assoc, Nat.add_comm 1 i]

end Origin

/-- What is known about the socket that comes in. -/
lemma incoming_spec {origin : SocketFd → Option Origin} {clients : ClientId → Activity} {e : Event}
    {o : Origin} {fd : SocketFd} {id : ConnectionId}
    (h : incoming origin clients e = some (o, fd, id)) :
    origin fd = none ∧ o.activity = (clients o.clientId).number
      ∧ o.position = (clients o.clientId).position
      ∧ (o.slotIndex = -1 ∨ 0 ≤ o.slotIndex ∧ o.position = 0) := by
  cases e with
  | connect c id' fd' =>
    simp only [incoming] at h
    split_ifs at h with hfree
    cases h
    exact ⟨hfree, rfl, rfl, Or.inl rfl⟩
  | reconnect c slot id' fd' =>
    simp only [incoming] at h
    split_ifs at h with hfree
    cases h
    exact ⟨hfree.1, rfl, hfree.2.symm, Or.inr ⟨Int.natCast_nonneg slot, rfl⟩⟩
  | _ => cases h

lemma Origin.Before.next {o o' : Origin} {activity : Activity} (h : o.Before activity)
    (hclient : o.clientId = o'.clientId) (hactivity : o'.activity = activity.number)
    (hposition : o'.position = activity.position)
    (hslot : o'.slotIndex = -1 ∨ 0 ≤ o'.slotIndex ∧ o'.position = 0) : o.Next o' := by
  rcases h with ⟨hslotIndex, hsame, hpos⟩ | hlt
  · left
    have hne : o'.position ≠ 0 := by omega
    have hinit := hslot.resolve_right fun h => hne h.2
    rw [show o' = ⟨o'.clientId, o'.activity, o'.position, o'.slotIndex⟩ from rfl, ← hclient,
      hactivity, ← hsame, hposition, ← hpos, hinit, ← hslotIndex]
  · exact Or.inr (hactivity ▸ hlt)

lemma Origin.before_next {o : Origin} {activity : Activity} (hactivity : o.activity = activity.number)
    (hposition : o.position = activity.position) (hslot : o.slotIndex = -1 ∨ 0 ≤ o.slotIndex) :
    o.Before (activity.next o.slotIndex) := by
  rw [Activity.next]
  split_ifs with h
  · left
    exact ⟨by omega, hactivity, by simp only [hposition]⟩
  · right
    rw [hactivity]
    exact Nat.lt_succ_self _

/-! ## The ledger -/

structure Ledger where
  channelOf : ClientId → Option VcId
  /-- The descriptors in the client's peer. -/
  waiting : ClientId → List SocketFd
  channels : VcId → List (Option SocketFd)
  nextVc : VcId
  origin : SocketFd → Option Origin
  clients : ClientId → Activity
  created : List (ClientId × List (Option Origin))

namespace Ledger

def setClient (l : Ledger) (c : ClientId) (activity : Activity) : Ledger :=
  { l with clients := Function.update l.clients c activity }

def close (l : Ledger) (fds : List SocketFd) : Ledger :=
  { l with origin := fun fd => if fd ∈ fds then none else l.origin fd }

/-- A new socket of a client. -/
def arrive (l : Ledger) (o : Origin) (fd : SocketFd) : Ledger :=
  { l with
    origin := Function.update l.origin fd (some o)
    clients := Function.update l.clients o.clientId ((l.clients o.clientId).next o.slotIndex) }

def setChannel (l : Ledger) (vc : VcId) (conns : List (Option SocketFd)) : Ledger :=
  { l with channels := Function.update l.channels vc conns }

def setWaiting (l : Ledger) (c : ClientId) (fds : List SocketFd) : Ledger :=
  { l with waiting := Function.update l.waiting c fds }

/-- The descriptors in the client's peer become a channel, and stay there. -/
def create (l : Ledger) (c : ClientId) (fds : List SocketFd) : Ledger :=
  { l.setWaiting c fds with
    channelOf := Function.update l.channelOf c (some l.nextVc)
    channels := Function.update l.channels l.nextVc (fds.map some)
    nextVc := l.nextVc + 1
    created := (c, fds.map l.origin) :: l.created }

def closeChannel (l : Ledger) (vc : VcId) : Ledger :=
  (l.close ((l.channels vc).filterMap id)).setChannel vc ((l.channels vc).map fun _ => none)

/-- What a step can do. -/
inductive Step (l : Ledger) (e : Event) : Ledger → Prop
  | idle : incoming l.origin l.clients e = none → Step l e l
  | stop (c : ClientId) : incoming l.origin l.clients e = none →
      Step l e (l.setClient c { number := (l.clients c).number + 1 })
  | die (c : ClientId) (vc : VcId) (slot : ℕ) (fd : SocketFd) :
      incoming l.origin l.clients e = none → l.channelOf c = some vc →
      (l.channels vc)[slot]? = some (some fd) →
      Step l e ((l.close [fd]).setChannel vc ((l.channels vc).set slot none))
  | teardown (c : ClientId) (vc : VcId) : incoming l.origin l.clients e = none →
      l.channelOf c = some vc → (∀ conn ∈ l.channels vc, conn = none) →
      Step l e { l.setWaiting c [] with channelOf := Function.update l.channelOf c none }
  | wait (o : Origin) (fd : SocketFd) (id : ConnectionId) :
      incoming l.origin l.clients e = some (o, fd, id) → l.channelOf o.clientId = none →
      (l.waiting o.clientId).length + 1 < vcTcpConnections →
      Step l e ((l.arrive o fd).setWaiting o.clientId (l.waiting o.clientId ++ [fd]))
  | create (o : Origin) (fd : SocketFd) (id : ConnectionId) :
      incoming l.origin l.clients e = some (o, fd, id) → l.channelOf o.clientId = none →
      (l.waiting o.clientId).length + 1 = vcTcpConnections →
      Step l e ((l.arrive o fd).create o.clientId (l.waiting o.clientId ++ [fd]))
  /-- An initial socket while there is a channel. The channel is closed, the new socket is
  excess, and a channel is created from the descriptors that the peer still has. -/
  | recreate (o : Origin) (fd : SocketFd) (id : ConnectionId) (vc : VcId) :
      incoming l.origin l.clients e = some (o, fd, id) → l.channelOf o.clientId = some vc →
      o.slotIndex < 0 →
      Step l e ((((l.arrive o fd).closeChannel vc).close [fd]).create o.clientId
        (l.waiting o.clientId))
  | replace (o : Origin) (fd : SocketFd) (id : ConnectionId) (vc : VcId) (slot : ℕ)
      (replaced : Option SocketFd) : incoming l.origin l.clients e = some (o, fd, id) →
      l.channelOf o.clientId = some vc → 0 ≤ o.slotIndex →
      (l.channels vc)[slot]? = some replaced →
      Step l e (((l.arrive o fd).close replaced.toList).setChannel vc
        ((l.channels vc).set slot (some fd)))
  /-- The socket is not taken. -/
  | refuse (o : Origin) (fd : SocketFd) (id : ConnectionId) (fds : List SocketFd) :
      incoming l.origin l.clients e = some (o, fd, id) → 0 ≤ o.slotIndex →
      (∀ fd' ∈ fds, fd' = fd) → l.channelOf o.clientId ≠ none → Step l e ((l.arrive o fd).close fds)

variable {l t : Ledger} {e : Event}

/-! ## Full peers have a channel -/

structure Full (l : Ledger) : Prop where
  of_some : ∀ c vc, l.channelOf c = some vc → (l.waiting c).length = vcTcpConnections ∧ vc < l.nextVc
  of_none : ∀ c, l.channelOf c = none → (l.waiting c).length < vcTcpConnections
  injective : ∀ c c' vc, l.channelOf c = some vc → l.channelOf c' = some vc → c = c'

lemma Full.congr (hs : Full l) (hchannelOf : t.channelOf = l.channelOf)
    (hwaiting : t.waiting = l.waiting) (hnextVc : t.nextVc = l.nextVc) : Full t := by
  refine ⟨?_, ?_, ?_⟩
  · rw [hchannelOf, hwaiting, hnextVc]
    exact hs.of_some
  · rw [hchannelOf, hwaiting]
    exact hs.of_none
  · rw [hchannelOf]
    exact hs.injective

lemma Full.setWaiting (hs : Full l) {c : ClientId} {fds : List SocketFd}
    (hnone : l.channelOf c = none) (hlen : fds.length < vcTcpConnections) :
    Full (l.setWaiting c fds) := by
  have hwaiting : ∀ c', c' ≠ c → (l.setWaiting c fds).waiting c' = l.waiting c' :=
    fun c' hne => Function.update_of_ne hne ..
  have hself : (l.setWaiting c fds).waiting c = fds := Function.update_self ..
  refine ⟨fun c' vc h => ?_, fun c' h => ?_, hs.injective⟩
  · have hne : c' ≠ c := by
      rintro rfl
      rw [show l.channelOf c' = some vc from h] at hnone
      cases hnone
    rw [hwaiting c' hne]
    exact hs.of_some c' vc h
  · by_cases heq : c' = c
    · rw [heq, hself]
      exact hlen
    · rw [hwaiting c' heq]
      exact hs.of_none c' h

lemma Full.create (hs : Full l) (c : ClientId) {fds : List SocketFd}
    (hlen : fds.length = vcTcpConnections) : Full (l.create c fds) := by
  have hold : ∀ c' vc, c' ≠ c → (l.create c fds).channelOf c' = some vc → l.channelOf c' = some vc :=
    fun c' vc hne h => (Function.update_of_ne hne ..).symm.trans h
  have hwaiting : ∀ c', c' ≠ c → (l.create c fds).waiting c' = l.waiting c' :=
    fun c' hne => Function.update_of_ne hne ..
  have hnew : (l.create c fds).channelOf c = some l.nextVc := Function.update_self ..
  have hself : (l.create c fds).waiting c = fds := Function.update_self ..
  have hother : ∀ c', c' ≠ c → (l.create c fds).channelOf c' ≠ some l.nextVc := fun c' hne h =>
    Nat.lt_irrefl _ (hs.of_some c' _ (hold c' _ hne h)).2
  refine ⟨fun c' vc h => ?_, fun c' h => ?_, fun c₁ c₂ vc h₁ h₂ => ?_⟩
  · by_cases heq : c' = c
    · rw [heq, hnew] at h
      cases h
      rw [heq, hself]
      exact ⟨hlen, Nat.lt_succ_self _⟩
    · obtain ⟨hfull, hlt⟩ := hs.of_some c' vc (hold c' vc heq h)
      rw [hwaiting c' heq]
      exact ⟨hfull, Nat.lt_succ_of_lt hlt⟩
  · by_cases heq : c' = c
    · rw [heq, hnew] at h
      cases h
    · rw [hwaiting c' heq]
      exact hs.of_none c' ((Function.update_of_ne heq ..).symm.trans h)
  · by_cases heq₁ : c₁ = c
    · by_cases heq₂ : c₂ = c
      · exact heq₁.trans heq₂.symm
      · rw [heq₁, hnew] at h₁
        cases h₁
        exact absurd h₂ (hother c₂ heq₂)
    · by_cases heq₂ : c₂ = c
      · rw [heq₂, hnew] at h₂
        cases h₂
        exact absurd h₁ (hother c₁ heq₁)
      · exact hs.injective c₁ c₂ vc (hold c₁ vc heq₁ h₁) (hold c₂ vc heq₂ h₂)

lemma full_step (hs : Full l) (h : Step l e t) : Full t := by
  cases h with
  | teardown c vc _ hvc =>
    have hold : ∀ c' vc', Function.update l.channelOf c none c' = some vc' →
        c' ≠ c ∧ l.channelOf c' = some vc' := by
      intro c' vc' h
      rw [Function.update_apply] at h
      split_ifs at h with heq
      exact ⟨heq, h⟩
    refine ⟨fun c' vc' h => ?_, fun c' h => ?_, fun c₁ c₂ vc' h₁ h₂ =>
      hs.injective c₁ c₂ vc' (hold c₁ vc' h₁).2 (hold c₂ vc' h₂).2⟩
    · obtain ⟨hne, h⟩ := hold c' vc' h
      show (Function.update l.waiting c [] c').length = _ ∧ _
      rw [Function.update_of_ne hne]
      exact hs.of_some c' vc' h
    · show (Function.update l.waiting c [] c').length < _
      by_cases heq : c' = c
      · rw [heq, Function.update_self]
        decide
      · rw [Function.update_of_ne heq]
        exact hs.of_none c' ((Function.update_of_ne heq ..).symm.trans h)
  | wait o fd id _ hnone hlen =>
    refine (hs.congr (t := l.arrive o fd) rfl rfl rfl).setWaiting hnone ?_
    rw [List.length_append]
    exact hlen
  | create o fd id _ hnone hlen =>
    refine (hs.congr (t := l.arrive o fd) rfl rfl rfl).create _ ?_
    rw [List.length_append]
    exact hlen
  | recreate o fd id vc _ hvc =>
    exact (hs.congr (t := ((l.arrive o fd).closeChannel vc).close [fd]) rfl rfl rfl).create _
      (hs.of_some _ vc hvc).1
  | _ => exact hs.congr rfl rfl rfl

/-! ## Where the open sockets of an attempt are -/

/-- An open initial socket waits, or is in the client's channel. -/
def Placed (l : Ledger) : Prop :=
  ∀ fd o, l.origin fd = some o → o.slotIndex < 0 →
    l.channelOf o.clientId = none ∧ fd ∈ l.waiting o.clientId
      ∨ ∃ vc, l.channelOf o.clientId = some vc ∧ some fd ∈ l.channels vc

lemma Placed.mem_channel (hs : Placed l) {fd : SocketFd} {o : Origin} {vc : VcId}
    (h : l.origin fd = some o) (hinit : o.slotIndex < 0) (hvc : l.channelOf o.clientId = some vc) :
    some fd ∈ l.channels vc := by
  rcases hs fd o h hinit with ⟨hnone, -⟩ | ⟨vc', hvc', hmem⟩
  · rw [hvc] at hnone
    cases hnone
  · rw [hvc] at hvc'
    cases hvc'
    exact hmem

lemma Placed.mem_waiting (hs : Placed l) {fd : SocketFd} {o : Origin}
    (h : l.origin fd = some o) (hinit : o.slotIndex < 0) (hnone : l.channelOf o.clientId = none) :
    fd ∈ l.waiting o.clientId := by
  rcases hs fd o h hinit with ⟨-, hmem⟩ | ⟨vc, hvc, -⟩
  · exact hmem
  · rw [hnone] at hvc
    cases hvc

lemma origin_close {fds : List SocketFd} {fd : SocketFd} {o : Origin} :
    (l.close fds).origin fd = some o ↔ fd ∉ fds ∧ l.origin fd = some o := by
  show (if fd ∈ fds then none else l.origin fd) = some o ↔ _
  split_ifs with h
  · exact ⟨nofun, fun h' => absurd h h'.1⟩
  · exact ⟨fun h' => ⟨h, h'⟩, fun h' => h'.2⟩

lemma origin_arrive {o o' : Origin} {fd fd' : SocketFd} :
    (l.arrive o fd).origin fd' = some o' ↔
      fd' = fd ∧ o = o' ∨ fd' ≠ fd ∧ l.origin fd' = some o' := by
  show Function.update l.origin fd (some o) fd' = some o' ↔ _
  rw [Function.update_apply]
  split_ifs with h
  · exact ⟨fun h' => Or.inl ⟨h, Option.some.inj h'⟩, fun h' => h'.elim (fun h' => congrArg some h'.2)
      fun h' => absurd h h'.1⟩
  · exact ⟨fun h' => Or.inr ⟨h, h'⟩, fun h' => h'.elim (fun h' => absurd h'.1 h) fun h' => h'.2⟩

/-- The sockets of the other clients were there before. -/
lemma origin_of_arrive {o o' : Origin} {fd fd' : SocketFd}
    (h : (l.arrive o fd).origin fd' = some o') (hne : o'.clientId ≠ o.clientId) :
    l.origin fd' = some o' := by
  rcases origin_arrive.mp h with ⟨-, rfl⟩ | ⟨-, h⟩
  · exact absurd rfl hne
  · exact h

/-- An initial socket of a client without a channel waits, the new one behind the others. -/
lemma Placed.mem_waiting_arrive (hs : Placed l) {o o' : Origin} {fd fd' : SocketFd}
    (hnone : l.channelOf o.clientId = none) (h : (l.arrive o fd).origin fd' = some o')
    (hinit : o'.slotIndex < 0) (hc : o'.clientId = o.clientId) :
    fd' ∈ l.waiting o.clientId ++ [fd] := by
  rcases origin_arrive.mp h with ⟨rfl, -⟩ | ⟨-, h⟩
  · exact List.mem_append_right _ (List.mem_singleton_self fd')
  · exact List.mem_append_left _ (hc ▸ hs.mem_waiting h hinit (hc ▸ hnone))

/-- The channel of one client is not the channel of another. -/
lemma Full.ne_of_ne (hs : Full l) {c c' : ClientId} {vc vc' : VcId} (hne : c' ≠ c)
    (h : l.channelOf c = some vc) (h' : l.channelOf c' = some vc') : vc' ≠ vc :=
  fun heq => hne (hs.injective c' c vc (heq ▸ h') h)

/-- Where the sockets of the other clients are is not touched. -/
structure Elsewhere (l t : Ledger) (c : ClientId) : Prop where
  channelOf : ∀ c', c' ≠ c → t.channelOf c' = l.channelOf c'
  waiting : ∀ c', c' ≠ c → t.waiting c' = l.waiting c'
  channels : ∀ c' vc, c' ≠ c → l.channelOf c' = some vc → t.channels vc = l.channels vc

lemma Elsewhere.placed (hs : Placed l) {c : ClientId} (h : Elsewhere l t c)
    (horigin : ∀ fd o, t.origin fd = some o → o.clientId ≠ c → l.origin fd = some o)
    (hc : ∀ fd o, t.origin fd = some o → o.slotIndex < 0 → o.clientId = c →
      t.channelOf c = none ∧ fd ∈ t.waiting c
        ∨ ∃ vc, t.channelOf c = some vc ∧ some fd ∈ t.channels vc) : Placed t := by
  intro fd o hfd hslot
  by_cases heq : o.clientId = c
  · rw [heq]
    exact hc fd o hfd hslot heq
  · rw [h.channelOf _ heq, h.waiting _ heq]
    rcases hs fd o (horigin fd o hfd heq) hslot with hwait | ⟨vc, hvc, hmem⟩
    · exact Or.inl hwait
    · rw [← h.channels _ vc heq hvc] at hmem
      exact Or.inr ⟨vc, hvc, hmem⟩

lemma elsewhere_setChannel (hfull : Full l) {c : ClientId} {vc : VcId}
    (hvc : l.channelOf c = some vc) (conns : List (Option SocketFd))
    (origin : SocketFd → Option Origin) (clients : ClientId → Activity) :
    Elsewhere l { l.setChannel vc conns with origin := origin, clients := clients } c :=
  ⟨fun _ _ => rfl, fun _ _ => rfl, fun _ _ hne hvc' =>
    Function.update_of_ne (hfull.ne_of_ne hne hvc hvc') ..⟩

lemma elsewhere_create (hfull : Full l) (c : ClientId) (fds : List SocketFd) :
    Elsewhere l (l.create c fds) c :=
  ⟨fun _ hne => Function.update_of_ne hne .., fun _ hne => Function.update_of_ne hne ..,
    fun _ _ _ hvc => Function.update_of_ne (Nat.ne_of_lt (hfull.of_some _ _ hvc).2) ..⟩

lemma mem_set_of_ne {α : Type} {xs : List α} {i : ℕ} {x : α} (h : x ∈ xs) (hi : xs[i]? ≠ some x)
    (y : α) : x ∈ xs.set i y := by
  obtain ⟨j, hj⟩ := List.mem_iff_getElem?.mp h
  have hne : i ≠ j := fun heq => hi (heq ▸ hj)
  exact List.mem_of_getElem? ((List.getElem?_set_ne hne).trans hj)

/-- After a channel is closed for an initial socket, no socket of an attempt of its client is
open. -/
lemma not_open_of_recreate (hs : Placed l) {o o' : Origin} {fd fd' : SocketFd} {vc : VcId}
    (hvc : l.channelOf o.clientId = some vc) (hinit : o'.slotIndex < 0)
    (hc : o'.clientId = o.clientId) :
    (((l.arrive o fd).closeChannel vc).close [fd]).origin fd' ≠ some o' := by
  intro h
  obtain ⟨hne, h⟩ := origin_close.mp h
  obtain ⟨hclosed, h⟩ := origin_close.mp h
  rcases origin_arrive.mp h with ⟨rfl, -⟩ | ⟨-, h⟩
  · exact hne (List.mem_singleton_self fd')
  · have hmem := hs.mem_channel h hinit (hc ▸ hvc)
    exact hclosed (List.mem_filterMap.mpr ⟨some fd', hmem, rfl⟩)

lemma placed_step (hs : Placed l) (hfull : Full l) (h : Step l e t) : Placed t := by
  cases h with
  | idle => exact hs
  | stop c => exact hs
  | die c vc slot fd _ hvc hslot =>
    refine (elsewhere_setChannel hfull hvc _ _ l.clients).placed hs
      (fun fd' o h _ => (origin_close.mp h).2) fun fd' o h hinit hc => ?_
    obtain ⟨hne, h⟩ := origin_close.mp h
    have hmem := hs.mem_channel h hinit (hc ▸ hvc)
    refine Or.inr ⟨vc, hvc, ?_⟩
    show some fd' ∈ Function.update l.channels vc _ vc
    rw [Function.update_self]
    refine mem_set_of_ne hmem (fun heq => hne ?_) none
    rw [hslot] at heq
    cases heq
    exact List.mem_singleton_self _
  | teardown c vc _ hvc hdead =>
    refine Elsewhere.placed (c := c) hs ⟨fun _ hne => Function.update_of_ne hne .., fun _ hne =>
      Function.update_of_ne hne .., fun _ _ _ _ => rfl⟩ (fun _ _ h _ => h) fun fd o h hinit hc => ?_
    -- nothing of a client with a dead channel is open
    cases hdead _ (hs.mem_channel h hinit (hc ▸ hvc))
  | wait o fd id hin hnone hlen =>
    refine Elsewhere.placed (c := o.clientId) hs ⟨fun _ _ => rfl, fun _ hne =>
      Function.update_of_ne hne .., fun _ _ _ _ => rfl⟩ (fun fd' o' h hne => origin_of_arrive h hne)
      fun fd' o' h hinit hc => Or.inl ⟨hnone, ?_⟩
    show fd' ∈ Function.update l.waiting o.clientId _ o.clientId
    rw [Function.update_self]
    exact hs.mem_waiting_arrive hnone h hinit hc
  | create o fd id hin hnone hlen =>
    have he := elsewhere_create (hfull.congr (t := l.arrive o fd) rfl rfl rfl) o.clientId
      (l.waiting o.clientId ++ [fd])
    refine Elsewhere.placed (c := o.clientId) hs ⟨he.channelOf, he.waiting, he.channels⟩
      (fun fd' o' h hne => origin_of_arrive h hne)
      fun fd' o' h hinit hc => Or.inr ⟨l.nextVc, Function.update_self .., ?_⟩
    show some fd' ∈ Function.update l.channels l.nextVc _ l.nextVc
    rw [Function.update_self]
    exact List.mem_map_of_mem (hs.mem_waiting_arrive hnone h hinit hc)
  | recreate o fd id vc hin hvc hinit =>
    have he := elsewhere_create (hfull.congr (t := ((l.arrive o fd).closeChannel vc).close [fd])
      rfl rfl rfl) o.clientId (l.waiting o.clientId)
    refine Elsewhere.placed (c := o.clientId) hs ⟨he.channelOf, he.waiting, fun c' vc' hne hvc' =>
      (he.channels c' vc' hne hvc').trans (Function.update_of_ne (hfull.ne_of_ne hne hvc hvc') ..)⟩
      (fun fd' o' h hne => origin_of_arrive (origin_close.mp (origin_close.mp h).2).2 hne)
      fun fd' o' h hinit' hc => ?_
    exact absurd h (not_open_of_recreate hs hvc hinit' hc)
  | replace o fd id vc slot replaced hin hvc hslot hget =>
    refine (elsewhere_setChannel hfull hvc _ _ _).placed hs
      (fun fd' o' h hne => origin_of_arrive (origin_close.mp h).2 hne) fun fd' o' h hinit hc => ?_
    obtain ⟨hopen, h⟩ := origin_close.mp h
    rcases origin_arrive.mp h with ⟨-, rfl⟩ | ⟨-, h⟩
    · exact absurd hinit (not_lt.mpr hslot)
    · have hmem := hs.mem_channel h hinit (hc ▸ hvc)
      refine Or.inr ⟨vc, hvc, ?_⟩
      show some fd' ∈ Function.update l.channels vc _ vc
      rw [Function.update_self]
      refine mem_set_of_ne hmem (fun heq => hopen ?_) _
      rw [hget] at heq
      cases heq
      exact List.mem_singleton_self _
  | refuse o fd id fds hin hslot hfds hvc =>
    intro fd' o' h hinit
    rcases origin_arrive.mp (origin_close.mp h).2 with ⟨-, rfl⟩ | ⟨-, h⟩
    · exact absurd hinit (not_lt.mpr hslot)
    · exact hs fd' o' h hinit

/-! ## Sessions in order -/

def Agreement (l : Ledger) : Prop :=
  ∀ c ∈ l.created, ∃ activity, c.2 = (attempt c.1 activity).map some

/-- The condition on a step. The socket that completes a set is the last of the attempt whose
first socket is the oldest of the set. -/
def FromOneAttempt (l : Ledger) (e : Event) : Prop :=
  ∀ o fd id, incoming l.origin l.clients e = some (o, fd, id) →
    l.channelOf o.clientId = none ∨ o.slotIndex < 0 →
    vcTcpConnections ≤ (l.waiting o.clientId).length + 1 →
    (l.waiting o.clientId).length + 1 = vcTcpConnections ∧ o.slotIndex = -1
      ∧ ∃ first ∈ (l.waiting o.clientId).head?, l.origin first = some { o with position := 0 }

section Descriptors

variable {origin origin' : SocketFd → Option Origin} {activity activity' : Activity} {c : ClientId}
  {fds : List SocketFd} {conns : List (Option SocketFd)}

/-- The descriptors belong to open sockets of the client, in the order of its activities. -/
def InOrder (origin : SocketFd → Option Origin) (activity : Activity) (c : ClientId)
    (fds : List SocketFd) : Prop :=
  fds.Nodup ∧ ∃ origins : List Origin, fds.map origin = origins.map some
    ∧ (∀ o ∈ origins, o.clientId = c) ∧ List.IsChain Origin.Next origins
    ∧ ∀ o ∈ origins.getLast?, o.Before activity

/-- The connections are open sockets of the client, each once. -/
def Owns (origin : SocketFd → Option Origin) (c : ClientId) (conns : List (Option SocketFd)) :
    Prop :=
  (∀ (i : ℕ) fd, conns[i]? = some (some fd) → ∃ o, origin fd = some o ∧ o.clientId = c)
    ∧ ∀ (i j : ℕ) fd, conns[i]? = some (some fd) → conns[j]? = some (some fd) → i = j

/-- The client's sockets stay what they are. -/
def Keeps (origin origin' : SocketFd → Option Origin) (c : ClientId) : Prop :=
  ∀ fd o, origin fd = some o → o.clientId = c → origin' fd = some o

lemma Keeps.trans {origin'' : SocketFd → Option Origin} (h : Keeps origin origin' c)
    (h' : Keeps origin' origin'' c) : Keeps origin origin'' c :=
  fun fd o ho hc => h' fd o (h fd o ho hc) hc

lemma InOrder.open_of_mem (h : InOrder origin activity c fds) {fd : SocketFd} (hfd : fd ∈ fds) :
    ∃ o, origin fd = some o ∧ o.clientId = c := by
  obtain ⟨-, origins, hmap, hclient, -, -⟩ := h
  have hmem : origin fd ∈ origins.map some := hmap ▸ List.mem_map_of_mem hfd
  obtain ⟨o, ho, heq⟩ := List.mem_map.mp hmem
  exact ⟨o, heq.symm, hclient o ho⟩

lemma InOrder.congr (h : InOrder origin activity c fds) (hkeeps : Keeps origin origin' c)
    (hbefore : ∀ o : Origin, o.Before activity → o.Before activity') :
    InOrder origin' activity' c fds := by
  have hsame : fds.map origin' = fds.map origin := List.map_congr_left fun fd hfd => by
    obtain ⟨o, ho, hc⟩ := h.open_of_mem hfd
    rw [ho, hkeeps fd o ho hc]
  obtain ⟨hnodup, origins, hmap, hclient, hchain, hlast⟩ := h
  exact ⟨hnodup, origins, hsame.trans hmap, hclient, hchain, fun o ho => hbefore o (hlast o ho)⟩

lemma Owns.congr (h : Owns origin c conns) (hkeeps : Keeps origin origin' c) :
    Owns origin' c conns := by
  refine ⟨fun i fd hi => ?_, h.2⟩
  obtain ⟨o, ho, hc⟩ := h.1 i fd hi
  exact ⟨o, hkeeps fd o ho hc, hc⟩

/-- The next socket of the client. -/
lemma InOrder.append {o : Origin} {fd : SocketFd} (h : InOrder origin activity o.clientId fds)
    (hfree : origin fd = none) (hactivity : o.activity = activity.number)
    (hposition : o.position = activity.position)
    (hslot : o.slotIndex = -1 ∨ 0 ≤ o.slotIndex ∧ o.position = 0) :
    InOrder (Function.update origin fd (some o)) (activity.next o.slotIndex) o.clientId
      (fds ++ [fd]) := by
  have hne : ∀ fd' ∈ fds, fd' ≠ fd := by
    intro fd' hfd' heq
    obtain ⟨o', ho', -⟩ := h.open_of_mem hfd'
    rw [heq, hfree] at ho'
    cases ho'
  obtain ⟨hnodup, origins, hmap, hclient, hchain, hlast⟩ := h
  refine ⟨?_, origins ++ [o], ?_, fun o' ho' => ?_, ?_, fun o' ho' => ?_⟩
  · refine List.nodup_append.mpr ⟨hnodup, List.nodup_singleton fd, fun fd' hfd' fd'' hfd'' => ?_⟩
    rw [List.mem_singleton.mp hfd'']
    exact hne fd' hfd'
  · rw [List.map_append, List.map_append, ← hmap, List.map_singleton, Function.update_self,
      List.map_singleton]
    exact congrArg (· ++ [some o]) (List.map_congr_left fun fd' hfd' =>
      Function.update_of_ne (hne fd' hfd') ..)
  · rcases List.mem_append.mp ho' with ho' | ho'
    · exact hclient o' ho'
    · rw [List.mem_singleton.mp ho']
  · refine hchain.append (List.isChain_singleton o) fun o' ho' o'' ho'' => ?_
    cases ho''
    exact (hlast o' ho').next (hclient o' (List.mem_of_getLast? ho')) hactivity hposition hslot
  · rw [List.getLast?_append, List.getLast?_singleton] at ho'
    cases ho'
    exact Origin.before_next hactivity hposition (hslot.imp_right And.left)

lemma InOrder.owns (h : InOrder origin activity c fds) : Owns origin c (fds.map some) := by
  have hget : ∀ (i : ℕ) fd, (fds.map some)[i]? = some (some fd) → fds[i]? = some fd := by
    intro i fd hi
    rw [List.getElem?_map] at hi
    obtain ⟨fd', hfd', heq⟩ := Option.map_eq_some_iff.mp hi
    cases heq
    exact hfd'
  refine ⟨fun i fd hi => h.open_of_mem (List.mem_of_getElem? (hget i fd hi)), fun i j fd hi hj => ?_⟩
  have hlt := (List.getElem?_eq_some_iff.mp (hget i fd hi)).1
  exact (List.getElem?_inj hlt h.1).mp ((hget i fd hi).trans (hget j fd hj).symm)

/-- A slot is emptied, or gets a socket of the client that was not open. -/
lemma Owns.set (h : Owns origin c conns) {slot : ℕ} {conn : Option SocketFd}
    (hkeeps : ∀ fd o, origin fd = some o → o.clientId = c → conns[slot]? ≠ some (some fd) →
      origin' fd = some o)
    (hconn : ∀ fd, conn = some fd → origin fd = none ∧ ∃ o, origin' fd = some o ∧ o.clientId = c) :
    Owns origin' c (conns.set slot conn) := by
  have hset : ∀ (i : ℕ) fd, (conns.set slot conn)[i]? = some (some fd) →
      i = slot ∧ conn = some fd ∨ i ≠ slot ∧ conns[i]? = some (some fd) := by
    intro i fd hi
    rw [List.getElem?_set] at hi
    split_ifs at hi with heq hlt
    · exact Or.inl ⟨heq.symm, Option.some.inj hi⟩
    · exact Or.inr ⟨fun h => heq h.symm, hi⟩
  have hother : ∀ (i : ℕ) fd, i ≠ slot → conns[i]? = some (some fd) →
      conns[slot]? ≠ some (some fd) := fun i fd hne hi hslot => hne (h.2 i slot fd hi hslot)
  refine ⟨fun i fd hi => ?_, fun i j fd hi hj => ?_⟩
  · rcases hset i fd hi with ⟨-, hi⟩ | ⟨hne, hi⟩
    · exact (hconn fd hi).2
    · obtain ⟨o, ho, hc⟩ := h.1 i fd hi
      exact ⟨o, hkeeps fd o ho hc (hother i fd hne hi), hc⟩
  · have hnew : ∀ k, conn = some fd → conns[k]? ≠ some (some fd) := fun k hfd hk => by
      obtain ⟨o, ho, -⟩ := h.1 k fd hk
      rw [(hconn fd hfd).1] at ho
      cases ho
    rcases hset i fd hi with ⟨hi, hfd⟩ | ⟨-, hi⟩
    · rcases hset j fd hj with ⟨hj, -⟩ | ⟨-, hj⟩
      · exact hi.trans hj.symm
      · exact absurd hj (hnew j hfd)
    · rcases hset j fd hj with ⟨-, hfd⟩ | ⟨-, hj⟩
      · exact absurd hi (hnew i hfd)
      · exact h.2 i j fd hi hj

end Descriptors

structure Orderly (l : Ledger) : Prop where
  waiting : ∀ c, l.channelOf c = none → InOrder l.origin (l.clients c) c (l.waiting c)
  channels : ∀ c vc, l.channelOf c = some vc → Owns l.origin c (l.channels vc)

/-- A step that concerns one client. -/
lemma Orderly.update (hs : Orderly l) {c : ClientId} (he : Elsewhere l t c)
    (hkeeps : ∀ c', c' ≠ c → Keeps l.origin t.origin c')
    (hclients : ∀ c', c' ≠ c → t.clients c' = l.clients c')
    (hwaiting : t.channelOf c = none → InOrder t.origin (t.clients c) c (t.waiting c))
    (hchannels : ∀ vc, t.channelOf c = some vc → Owns t.origin c (t.channels vc)) : Orderly t where
  waiting c' h := by
    by_cases heq : c' = c
    · rw [heq] at h ⊢
      exact hwaiting h
    · rw [he.channelOf c' heq] at h
      rw [he.waiting c' heq, hclients c' heq]
      exact (hs.waiting c' h).congr (hkeeps c' heq) fun _ h => h
  channels c' vc h := by
    by_cases heq : c' = c
    · rw [heq] at h ⊢
      exact hchannels vc h
    · rw [he.channelOf c' heq] at h
      rw [he.channels c' vc heq h]
      exact (hs.channels c' vc h).congr (hkeeps c' heq)

lemma keeps_arrive {o : Origin} {fd : SocketFd} (hfree : l.origin fd = none) (c : ClientId) :
    Keeps l.origin (l.arrive o fd).origin c := by
  intro fd' o' ho' _
  refine origin_arrive.mpr (Or.inr ⟨?_, ho'⟩)
  rintro rfl
  rw [hfree] at ho'
  cases ho'

lemma keeps_close {fds : List SocketFd} {c : ClientId}
    (h : ∀ fd ∈ fds, ∀ o, l.origin fd = some o → o.clientId ≠ c) :
    Keeps l.origin (l.close fds).origin c :=
  fun fd o ho hc => origin_close.mpr ⟨fun hmem => h fd hmem o ho hc, ho⟩

/-- Closing what one client owns keeps what the other clients have. -/
lemma Owns.keeps_close (h : Owns l.origin c conns) {slot : ℕ} {fds : List SocketFd}
    (hfds : ∀ fd ∈ fds, conns[slot]? = some (some fd)) {c' : ClientId} (hne : c' ≠ c) :
    Keeps l.origin (l.close fds).origin c' := by
  refine Ledger.keeps_close fun fd hfd o ho hc' => ?_
  obtain ⟨o', ho', hc⟩ := h.1 slot fd (hfds fd hfd)
  rw [ho] at ho'
  cases ho'
  exact hne (hc'.symm.trans hc)

lemma orderly_step (hs : Orderly l) (hfull : Full l) (hcond : l.FromOneAttempt e)
    (h : Step l e t) : Orderly t := by
  cases h with
  | idle => exact hs
  | stop c =>
    refine hs.update (c := c) ⟨fun _ _ => rfl, fun _ _ => rfl, fun _ _ _ _ => rfl⟩
      (fun _ _ _ _ h _ => h) (fun _ hne => Function.update_of_ne hne ..) (fun h => ?_)
      (hs.channels c)
    refine (hs.waiting c h).congr (fun _ _ h _ => h) fun o ho => ?_
    show o.Before (Function.update l.clients c _ c)
    rw [Function.update_self]
    exact ho.stop
  | die c vc slot fd _ hvc hslot =>
    have howns := hs.channels c vc hvc
    have hdead : ∀ fd' ∈ [fd], (l.channels vc)[slot]? = some (some fd') := fun fd' hfd' => by
      rw [List.mem_singleton.mp hfd']
      exact hslot
    refine hs.update (elsewhere_setChannel hfull hvc _ _ l.clients)
      (fun c' hne => howns.keeps_close hdead hne) (fun _ _ => rfl) (fun h => ?_) fun vc' h => ?_
    · rw [show l.channelOf c = none from h] at hvc
      cases hvc
    · rw [show l.channelOf c = some vc' from h] at hvc
      cases hvc
      show Owns _ c (Function.update l.channels vc _ vc)
      rw [Function.update_self]
      exact howns.set (fun fd' o ho _ hne =>
        origin_close.mpr ⟨fun hmem => hne (hdead fd' hmem), ho⟩) nofun
  | teardown c vc _ hvc hdead =>
    refine hs.update (c := c) ⟨fun _ hne => Function.update_of_ne hne .., fun _ hne =>
      Function.update_of_ne hne .., fun _ _ _ _ => rfl⟩ (fun _ _ _ _ h _ => h) (fun _ _ => rfl)
      (fun _ => ?_) fun vc' h => ?_
    · show InOrder _ _ c (Function.update l.waiting c [] c)
      rw [Function.update_self]
      exact ⟨List.nodup_nil, [], rfl, nofun, List.isChain_nil, nofun⟩
    · have hgone : Function.update l.channelOf c none c = none := Function.update_self ..
      cases hgone.symm.trans h
  | wait o fd id hin hnone hlen =>
    obtain ⟨hfree, hactivity, hposition, hslot⟩ := incoming_spec hin
    refine hs.update (c := o.clientId) ⟨fun _ _ => rfl, fun _ hne => Function.update_of_ne hne ..,
      fun _ _ _ _ => rfl⟩ (fun c' _ => keeps_arrive hfree c') (fun _ hne => Function.update_of_ne hne ..)
      (fun _ => ?_) fun vc h => ?_
    · show InOrder _ (Function.update l.clients o.clientId _ o.clientId) _
        (Function.update l.waiting o.clientId _ o.clientId)
      rw [Function.update_self, Function.update_self]
      exact (hs.waiting _ hnone).append hfree hactivity hposition hslot
    · rw [show l.channelOf o.clientId = some vc from h] at hnone
      cases hnone
  | create o fd id hin hnone hlen =>
    obtain ⟨hfree, hactivity, hposition, hslot⟩ := incoming_spec hin
    have he := elsewhere_create (hfull.congr (t := l.arrive o fd) rfl rfl rfl) o.clientId
      (l.waiting o.clientId ++ [fd])
    have hnew : ((l.arrive o fd).create o.clientId (l.waiting o.clientId ++ [fd])).channelOf
        o.clientId = some l.nextVc := Function.update_self ..
    refine hs.update (c := o.clientId) ⟨he.channelOf, he.waiting, he.channels⟩
      (fun c' _ => keeps_arrive hfree c') (fun _ hne => Function.update_of_ne hne ..) (fun h => ?_) fun vc h => ?_
    · rw [hnew] at h
      cases h
    · rw [hnew] at h
      cases h
      show Owns _ _ (Function.update l.channels l.nextVc _ l.nextVc)
      rw [Function.update_self]
      exact ((hs.waiting _ hnone).append hfree hactivity hposition hslot).owns
  | recreate o fd id vc hin hvc hinit =>
    have hlen := (hfull.of_some _ vc hvc).1
    have hlen' := (hcond o fd id hin (Or.inr hinit) (by rw [hlen]; exact Nat.le_succ _)).1
    rw [hlen] at hlen'
    exact absurd hlen' (Nat.succ_ne_self _)
  | replace o fd id vc slot replaced hin hvc hslot hget =>
    obtain ⟨hfree, -, -, -⟩ := incoming_spec hin
    have howns := hs.channels _ vc hvc
    have hreplaced : ∀ fd' ∈ replaced.toList, (l.channels vc)[slot]? = some (some fd') := by
      intro fd' hfd'
      rw [hget, Option.mem_toList.mp hfd']
    have hkeeps := keeps_arrive (o := o) hfree
    refine hs.update (elsewhere_setChannel hfull hvc _ _ _) (fun c' hne =>
      (hkeeps c').trans ((howns.congr (hkeeps _)).keeps_close hreplaced hne))
      (fun _ hne => Function.update_of_ne hne ..) (fun h => ?_) fun vc' h => ?_
    · rw [show l.channelOf o.clientId = none from h] at hvc
      cases hvc
    · rw [show l.channelOf o.clientId = some vc' from h] at hvc
      cases hvc
      show Owns _ _ (Function.update l.channels vc _ vc)
      rw [Function.update_self]
      refine howns.set (fun fd' o' ho' hc hne =>
        origin_close.mpr ⟨fun hmem => hne (hreplaced fd' hmem), hkeeps _ fd' o' ho' hc⟩)
        fun fd' hfd' => ?_
      cases hfd'
      refine ⟨hfree, o, origin_close.mpr ⟨fun hmem => ?_, origin_arrive.mpr (Or.inl ⟨rfl, rfl⟩)⟩, rfl⟩
      obtain ⟨o', ho', -⟩ := howns.1 slot fd (hreplaced fd hmem)
      rw [hfree] at ho'
      cases ho'
  | refuse o fd id fds hin hslot hfds hvc =>
    obtain ⟨hfree, -, -, -⟩ := incoming_spec hin
    have hkeeps : ∀ c, Keeps l.origin ((l.arrive o fd).close fds).origin c := by
      refine fun c fd' o' ho' hc => origin_close.mpr ⟨fun hmem => ?_, keeps_arrive hfree c fd' o' ho' hc⟩
      rw [hfds fd' hmem, hfree] at ho'
      cases ho'
    exact hs.update (c := o.clientId) ⟨fun _ _ => rfl, fun _ _ => rfl, fun _ _ _ _ => rfl⟩
      (fun c' _ => hkeeps c') (fun _ hne => Function.update_of_ne hne ..) (fun h => absurd h hvc)
      fun vc h => (hs.channels _ vc h).congr (hkeeps _)

/-! ## Agreement -/

lemma getElem?_attempt (c : ClientId) (activity : ℕ) {i : ℕ} (hi : i < vcTcpConnections) :
    (attempt c activity)[i]? = some ⟨c, activity, i, -1⟩ := by
  rw [Sessions.attempt, List.getElem?_map, List.getElem?_range hi]
  rfl

/-- A set in order that starts and ends in one attempt is that attempt. -/
lemma InOrder.attempt {origin : SocketFd → Option Origin} {activity : Activity}
    {fds : List SocketFd} {fd : SocketFd} {o : Origin} (first : SocketFd)
    (h : InOrder origin activity o.clientId (fds ++ [fd])) (hlast : origin fd = some o)
    (hfirst : first ∈ (fds ++ [fd]).head?) (horigin : origin first = some { o with position := 0 })
    (hslot : o.slotIndex = -1) (hlen : (fds ++ [fd]).length = vcTcpConnections) :
    (fds ++ [fd]).map origin = (attempt o.clientId o.activity).map some := by
  obtain ⟨-, origins, hmap, -, hchain, -⟩ := h
  have hhead : some (origin first) = (origins.map some).head? := by
    rw [← hmap, List.head?_map, hfirst]
    rfl
  have hend : (origins.map some).getLast? = some (some o) := by
    rw [← hmap, List.map_append, List.map_singleton, List.getLast?_append, List.getLast?_singleton,
      hlast]
    rfl
  cases origins with
  | nil => cases hhead
  | cons o₀ rest =>
    have ho₀ : o₀ = { o with position := 0 } := by
      rw [horigin] at hhead
      exact (Option.some.inj (Option.some.inj hhead)).symm
    have hgetLast : (o₀ :: rest).getLast (List.cons_ne_nil o₀ rest) = o := by
      rw [List.getLast?_map, List.getLast?_eq_some_getLast (List.cons_ne_nil o₀ rest)] at hend
      exact Option.some.inj (Option.some.inj hend)
    have hcount : rest.length + 1 = vcTcpConnections := by
      rw [← hlen, ← List.length_map (f := origin), hmap, List.length_map, List.length_cons]
    rw [hmap, Origin.isChain_attempt hchain (by rw [hgetLast, ho₀]), hcount, Sessions.attempt]
    refine congrArg (List.map some) (List.map_congr_left fun i _ => ?_)
    rw [ho₀, hslot]
    show (⟨_, _, 0 + i, _⟩ : Origin) = _
    rw [Nat.zero_add]

lemma agreement_step (hs : Agreement l) (horderly : Orderly l) (hfull : Full l)
    (hcond : l.FromOneAttempt e) (h : Step l e t) : Agreement t := by
  cases h with
  | create o fd id hin hnone hlen =>
    obtain ⟨hfree, hactivity, hposition, hslot⟩ := incoming_spec hin
    obtain ⟨-, hinit, first, hfirst, horigin⟩ := hcond o fd id hin (Or.inl hnone) hlen.ge
    intro c hc
    rcases List.mem_cons.mp hc with rfl | hc
    · refine ⟨o.activity, ?_⟩
      have horder := (horderly.waiting _ hnone).append hfree hactivity hposition hslot
      refine horder.attempt first (Function.update_self ..) ?_
        (keeps_arrive hfree o.clientId first _ horigin rfl) hinit ?_
      · rw [List.head?_append, hfirst]
        rfl
      · rw [List.length_append]
        exact hlen
    · exact hs c hc
  | recreate o fd id vc hin hvc hinit =>
    have hlen := (hfull.of_some _ vc hvc).1
    have hlen' := (hcond o fd id hin (Or.inr hinit) (by rw [hlen]; exact Nat.le_succ _)).1
    rw [hlen] at hlen'
    exact absurd hlen' (Nat.succ_ne_self _)
  | _ => exact hs

/-- Whatever is created otherwise is not one attempt. -/
lemma fromOneAttempt_of_agreement (hplaced : Placed l) (hfull : Full l) (h : Step l e t)
    (hs : Agreement t) : l.FromOneAttempt e := by
  intro o fd id hin hroom hlen
  cases h with
  | idle hnot | stop _ hnot | die _ _ _ _ hnot | teardown _ _ hnot =>
    rw [hin] at hnot
    cases hnot
  | wait o' fd' id' hin' hnone hlt =>
    rw [hin] at hin'
    cases hin'
    exact absurd hlt (not_lt.mpr hlen)
  | create o' fd' id' hin' hnone hcount =>
    rw [hin] at hin'
    cases hin'
    obtain ⟨activity, hact⟩ := hs _ (List.mem_cons_self ..)
    have hlast := congrArg (·[(l.waiting o.clientId).length]?) hact
    have hfirst := congrArg (·[0]?) hact
    obtain ⟨first, rest, hwaiting⟩ := List.exists_cons_of_length_pos
      (l := l.waiting o.clientId) (by rw [vcTcpConnections] at hcount; omega)
    have ho : o = ⟨o.clientId, activity, (l.waiting o.clientId).length, -1⟩ := by
      simp only [List.getElem?_map, List.getElem?_concat_length, Option.map_some] at hlast
      rw [show (l.arrive o fd).origin fd = some o from Function.update_self ..,
        getElem?_attempt _ _ (by rw [← hcount]; exact Nat.lt_succ_self _)] at hlast
      exact Option.some.inj (Option.some.inj hlast)
    refine ⟨hcount, by rw [ho], first, by rw [hwaiting]; rfl, ?_⟩
    simp only [hwaiting, List.cons_append, List.map_cons, List.getElem?_cons_zero,
      List.getElem?_map] at hfirst
    rw [getElem?_attempt _ _ (by decide)] at hfirst
    rcases origin_arrive.mp (Option.some.inj hfirst) with ⟨-, hsame⟩ | ⟨-, hopen⟩
    · have hpos : (l.waiting o.clientId).length = 0 :=
        congrArg Origin.position (ho.symm.trans hsame)
      rw [hwaiting] at hpos
      cases hpos
    · rw [hopen, ho]
  | recreate o' fd' id' vc hin' hvc hinit =>
    rw [hin] at hin'
    cases hin'
    -- nothing of the client is open, so the first descriptor is not the first socket of an attempt
    obtain ⟨activity, hact⟩ := hs _ (List.mem_cons_self ..)
    obtain ⟨first, rest, hwaiting⟩ := List.exists_cons_of_length_pos
      (l := l.waiting o.clientId) (by rw [(hfull.of_some _ vc hvc).1]; decide)
    have hfirst := congrArg (·[0]?) hact
    simp only [hwaiting, List.map_cons, List.getElem?_cons_zero, List.getElem?_map] at hfirst
    rw [getElem?_attempt _ _ (by decide)] at hfirst
    exact absurd (Option.some.inj hfirst) (not_open_of_recreate hplaced hvc
      (show (-1 : ℤ) < 0 by decide) rfl)
  | replace o' fd' id' vc _ _ hin' hvc hslot =>
    rw [hin] at hin'
    cases hin'
    rcases hroom with hnone | hinit
    · rw [hvc] at hnone
      cases hnone
    · exact absurd hinit (not_lt.mpr hslot)
  | refuse o' fd' id' _ hin' hslot _ hvc =>
    rw [hin] at hin'
    cases hin'
    rcases hroom with hnone | hinit
    · exact absurd hnone hvc
    · exact absurd hinit (not_lt.mpr hslot)

end Ledger
end TcpUdp
