import TcpUdp.SlotPairing
import Mathlib.Tactic.IntervalCases

/-!
# Which connection a handshake replaces

The server knows the first id of each slot, and after that the client sends ids that the
server has never seen, so it falls back to the client's number of the slot. That number is
the server's number of the slot only for the connections that were accepted at their own
place: `replacesSameConnection_iff`.
-/

namespace TcpUdp

open Lib ServerTables

namespace Arrival

variable {a : Arrival}

/-- The slot of the server's channel that the client's connection `i` gets. -/
def place (a : Arrival) (i : ℕ) : ℕ := a.order.idxOf i

lemma mem_order (a : Arrival) {i : ℕ} : i ∈ a.order ↔ i < vcTcpConnections :=
  a.perm.mem_iff.trans List.mem_range

lemma nodup_order (a : Arrival) : a.order.Nodup := a.perm.nodup_iff.mpr List.nodup_range

lemma length_order (a : Arrival) : a.order.length = vcTcpConnections :=
  a.perm.length_eq.trans List.length_range

lemma getElem?_place (a : Arrival) {i : ℕ} (hi : i < vcTcpConnections) :
    a.order[a.place i]? = some i := List.getElem?_idxOf (a.mem_order.mpr hi)

lemma place_lt (a : Arrival) {i : ℕ} (hi : i < vcTcpConnections) :
    a.place i < vcTcpConnections := by
  rw [← a.length_order]
  exact List.idxOf_lt_length_of_mem (a.mem_order.mpr hi)

lemma place_inj (a : Arrival) {i j : ℕ} (hi : i < vcTcpConnections) (h : a.place i = a.place j) :
    i = j := (List.idxOf_inj (a.mem_order.mpr hi)).mp h

/-- In `n` steps no id is drawn twice, and `0` is not drawn. -/
def NoWrap (a : Arrival) (n : ℕ) : Prop :=
  0 < a.firstConnId ∧ a.firstConnId + vcTcpConnections + n < uint32Size

instance (a : Arrival) (n : ℕ) : Decidable (a.NoWrap n) :=
  inferInstanceAs (Decidable (0 < a.firstConnId ∧ _ < uint32Size))

lemma NoWrap.mono {n m : ℕ} (h : a.NoWrap n) (hm : m ≤ n) : a.NoWrap m :=
  ⟨h.1, Nat.lt_of_le_of_lt (Nat.add_le_add_left hm _) h.2⟩

lemma NoWrap.connId (h : a.NoWrap 0) {i : ℕ} (hi : i ≤ vcTcpConnections) :
    a.connId i = a.firstConnId + i :=
  Nat.mod_eq_of_lt (Nat.lt_of_le_of_lt (Nat.add_le_add_left hi _) h.2)

/-! ## The server accepts the connections -/

/-- The server has accepted the connections of `l`. -/
structure Accepted (a : Arrival) (l : List ℕ) (t : ServerTables) : Prop where
  vcs : t.vcs a.clientId = none
  sockets : ((t.peers a.clientId).getD {}).sockets = l.map a.fd
  slots : t.clientConnSlots a.clientId = none
  registered : ∀ i ∈ l, t.socketToConnId (a.fd i) = some (a.connId i)

lemma Accepted.accumulate {l : List ℕ} {t : ServerTables} (ht : a.Accepted l t) {i : ℕ}
    (hid : a.connId i ≠ 0) (hi : ∀ j ∈ l, a.fd j ≠ a.fd i) (hl : l.length < vcTcpConnections) :
    a.Accepted (l ++ [i]) (t.accumulate (a.fd i) (a.bindMsg i)) := by
  have hroom : ¬ ((t.peers a.clientId).getD {}).Excess := by
    rw [Peer.Excess, ht.sockets, List.length_map]
    exact not_le.mpr hl
  have hreg : t.registerSocket (a.fd i) (a.bindMsg i) = { t with
      socketToConnId := Function.update t.socketToConnId (a.fd i) (some (a.connId i)) } := if_pos hid
  rw [accumulate_eq ht.vcs, hreg]
  refine ⟨ht.vcs, ?_, ht.slots, fun j hj => ?_⟩
  · show ((Function.update t.peers a.clientId _ a.clientId).getD {}).sockets = _
    rw [Function.update_self, List.map_append, ← ht.sockets]
    exact Peer.sockets_addSocket hroom _
  · show Function.update t.socketToConnId (a.fd i) (some (a.connId i)) (a.fd j) = _
    rcases List.mem_append.mp hj with hj | hj
    · rw [Function.update_of_ne (hi j hj)]
      exact ht.registered j hj
    · rw [List.mem_singleton.mp hj, Function.update_self]

lemma accepted_accepted (h : a.NoWrap 0) {l : List ℕ} (hnodup : l.Nodup)
    (hl : ∀ i ∈ l, i < vcTcpConnections) (hlen : l.length ≤ vcTcpConnections) :
    a.Accepted l (a.accepted l) := by
  induction l using List.reverseRecOn with
  | nil =>
    obtain ⟨hvcs, hpeers, hslots⟩ := a.unknown
    exact ⟨hvcs, by rw [accepted, List.foldl_nil, hpeers]; rfl, hslots, nofun⟩
  | append_singleton l i ih =>
    obtain ⟨hnodup, -, hfresh⟩ := List.nodup_append.mp hnodup
    have hlt := hl i (List.mem_append_right _ (List.mem_singleton_self i))
    rw [List.length_append, List.length_singleton] at hlen
    rw [accepted, List.foldl_append]
    refine (ih hnodup (fun j hj => hl j (List.mem_append_left _ hj)) (Nat.le_of_succ_le hlen)).accumulate
      ?_ (fun j hj heq => ?_) hlen
    · rw [h.connId hlt.le]
      exact Nat.ne_of_gt (Nat.add_pos_left h.1 i)
    · have hsame := a.fd_injective j (hl j (List.mem_append_left _ hj)) i hlt heq
      exact hfresh j hj i (List.mem_singleton_self i) hsame

lemma tables_channels (h : a.NoWrap 0) : a.channels.tables
    = (a.accepted a.order).createVc a.clientId 0 (a.order.map a.fd) := by
  have hacc := accepted_accepted h a.nodup_order (fun i => a.mem_order.mp) a.length_order.le
  have henough : (a.accepted a.order).enoughSockets a.clientId = some (a.order.map a.fd) := by
    have hsockets := hacc.sockets
    rw [enoughSockets]
    cases hpeer : (a.accepted a.order).peers a.clientId with
    | none =>
      rw [hpeer] at hsockets
      have hlen := congrArg List.length hsockets
      rw [List.length_map, a.length_order] at hlen
      cases hlen
    | some peer =>
      rw [hpeer] at hsockets
      rw [Option.getD_some] at hsockets
      have hcount : peer.getSocketCount = vcTcpConnections := by
        rw [Peer.getSocketCount, hsockets, List.length_map, a.length_order]
      simp only [hcount, ge_iff_le, le_refl, if_true, hsockets]
  simp only [channels, henough]

/-- Each first id leads to the place of its connection; the map has no other ids. -/
lemma slotMapOf_channels (h : a.NoWrap 0) :
    (∀ i < vcTcpConnections,
      a.channels.tables.slotMapOf a.clientId (a.firstConnId + i) = some (a.place i))
    ∧ ∀ id, a.channels.tables.slotMapOf a.clientId id ≠ none →
      id < a.firstConnId + vcTcpConnections := by
  have hacc := accepted_accepted h a.nodup_order (fun i => a.mem_order.mp) a.length_order.le
  have hmap : a.channels.tables.slotMapOf a.clientId
      = (assignSlots (a.accepted a.order).socketToConnId (fun _ => none) (a.order.map a.fd) 0).1 := by
    rw [tables_channels h, createVc, buildSlotMap]
    refine (slotMapOf_setSlotMap ..).trans ?_
    have hempty : ((a.accepted a.order).addVc a.clientId 0).slotMapOf a.clientId = fun _ => none := by
      show ((a.accepted a.order).clientConnSlots a.clientId).getD _ = _
      rw [hacc.slots]
      rfl
    rw [hempty]
    rfl
  have hreg : ∀ i < vcTcpConnections,
      (a.accepted a.order).socketToConnId (a.fd i) = some (a.firstConnId + i) := by
    intro i hi
    rw [hacc.registered i (a.mem_order.mpr hi), h.connId hi.le]
  have hmem : ∀ fd ∈ a.order.map a.fd, ∃ i < vcTcpConnections, a.fd i = fd := by
    intro fd hfd
    obtain ⟨i, hi, heq⟩ := List.mem_map.mp hfd
    exact ⟨i, a.mem_order.mp hi, heq⟩
  rw [hmap]
  refine ⟨fun i hi => ?_, fun id hid => ?_⟩
  · have hget : (a.order.map a.fd)[a.place i]? = some (a.fd i) := by
      rw [List.getElem?_map, a.getElem?_place hi]
      rfl
    obtain ⟨hlt, hget⟩ := List.getElem?_eq_some_iff.mp hget
    have hnodup := List.Nodup.map_on (fun j hj k hk => a.fd_injective j (a.mem_order.mp hj) k
      (a.mem_order.mp hk)) a.nodup_order
    rw [assignSlots_getElem hnodup (fun fd hfd fd' hfd' id hid hid' => ?_) _ 0 hlt
      (by rw [hget]; exact hreg i hi), Nat.zero_add]
    obtain ⟨j, hj, rfl⟩ := hmem fd hfd
    obtain ⟨k, hk, rfl⟩ := hmem fd' hfd'
    rw [hreg j hj] at hid
    rw [hreg k hk, ← hid] at hid'
    rw [Nat.add_left_cancel (Option.some.inj hid')]
  · by_contra hlarge
    refine hid (assignSlots_other (fun fd hfd heq => ?_) _ 0)
    obtain ⟨j, hj, rfl⟩ := hmem fd hfd
    rw [hreg j hj] at heq
    exact hlarge (Option.some.inj heq ▸ Nat.add_lt_add_left hj _)

end Arrival

namespace SlotPairing

variable {a : Arrival} {s : SlotPairing}

/-! ## Handshakes -/

/-- The first id of the slot is still in use, and the server knows it; a later id is one that
the server has not seen. -/
def Known (a : Arrival) (s : SlotPairing) (slotIndex : ℕ) (id : ConnectionId) : Prop :=
  id = a.firstConnId + slotIndex ∧ s.tables.slotMapOf a.clientId id = some (a.place slotIndex)
    ∨ id ≠ a.firstConnId + slotIndex ∧ s.tables.slotMapOf a.clientId id = none

/-- The two channels agree, through the places of the first connections, and the ids are
those drawn so far. -/
structure Paired (a : Arrival) (s : SlotPairing) : Prop where
  lengths : s.tcpConnectionIds.length = vcTcpConnections ∧ s.clientEnds.length = vcTcpConnections
    ∧ s.serverEnds.length = vcTcpConnections
  ends : ∀ slotIndex < vcTcpConnections,
    s.serverEnds[a.place slotIndex]? = s.clientEnds[slotIndex]?
  links : s.serverEnds.Nodup ∧ ∀ link ∈ s.serverEnds, link < s.nextLink
  known : ∀ slotIndex id, s.tcpConnectionIds[slotIndex]? = some id → s.Known a slotIndex id
  ids : s.tcpConnectionIds.Nodup ∧ ∀ id ∈ s.tcpConnectionIds, 0 < id ∧ id < s.nextConnectionId
  mapped : ∀ id, s.tables.slotMapOf a.clientId id ≠ none → id < s.nextConnectionId
  next : a.firstConnId + vcTcpConnections ≤ s.nextConnectionId

lemma paired_channels (h : a.NoWrap 0) : Paired a a.channels := by
  have hids : ∀ i id, a.channels.tcpConnectionIds[i]? = some id →
      i < vcTcpConnections ∧ id = a.firstConnId + i := by
    intro i id hid
    simp only [Arrival.channels, List.getElem?_map] at hid
    obtain ⟨j, hj, rfl⟩ := Option.map_eq_some_iff.mp hid
    obtain ⟨hlt, heq⟩ := List.getElem?_eq_some_iff.mp hj
    rw [List.length_range] at hlt
    rw [List.getElem_range] at heq
    rw [← heq]
    exact ⟨hlt, h.connId hlt.le⟩
  obtain ⟨hslots, hmapped⟩ := Arrival.slotMapOf_channels h
  have hnext : a.channels.nextConnectionId = a.firstConnId + vcTcpConnections := h.connId le_rfl
  refine ⟨⟨?_, List.length_range, a.length_order⟩, fun i hi => ?_, ⟨a.nodup_order, fun i hi =>
    a.mem_order.mp hi⟩, fun i id hid => ?_, ⟨?_, fun id hid => ?_⟩, fun id hid => ?_, hnext.ge⟩
  · exact (List.length_map ..).trans List.length_range
  · exact (a.getElem?_place hi).trans (List.getElem?_range hi).symm
  · obtain ⟨hi, rfl⟩ := hids i id hid
    exact Or.inl ⟨rfl, hslots i hi⟩
  · refine List.Nodup.map_on (fun i hi j hj heq => ?_) List.nodup_range
    rw [h.connId (List.mem_range.mp hi).le, h.connId (List.mem_range.mp hj).le] at heq
    exact Nat.add_left_cancel heq
  · obtain ⟨i, hi⟩ := List.mem_iff_getElem?.mp hid
    obtain ⟨hlt, rfl⟩ := hids i id hi
    rw [hnext]
    exact ⟨Nat.add_pos_left h.1 i, Nat.add_lt_add_left hlt _⟩
  · rw [hnext]
    exact hmapped id hid

lemma Dead.lt (hs : Paired a s) {slotIndex : ℕ} (h : s.Dead slotIndex) :
    slotIndex < vcTcpConnections := by
  obtain ⟨link, hlink, -⟩ := h
  rw [← hs.lengths.2.1]
  exact (List.getElem?_eq_some_iff.mp hlink).1

lemma Paired.exists_connId (hs : Paired a s) {slotIndex : ℕ} (h : slotIndex < vcTcpConnections) :
    ∃ id, s.tcpConnectionIds[slotIndex]? = some id ∧ 0 < id
      ∧ (s.bindMsg a.clientId slotIndex).connectionId = id := by
  have hlt : slotIndex < s.tcpConnectionIds.length := hs.lengths.1.symm ▸ h
  refine ⟨_, List.getElem?_eq_getElem hlt, (hs.ids.2 _ (List.getElem_mem hlt)).1, ?_⟩
  show s.tcpConnectionIds.getD slotIndex 0 = _
  rw [List.getD_eq_getElem?_getD, List.getElem?_eq_getElem hlt, Option.getD_some]

/-- The server's choice: the place of the slot as long as the client sends the first id, and
the client's number of the slot afterwards. -/
lemma Paired.targetSlot_eq (hs : Paired a s) {slotIndex : ℕ} (h : slotIndex < vcTcpConnections) :
    s.targetSlot a.clientId slotIndex
      = if s.tcpConnectionIds[slotIndex]? = some (a.firstConnId + slotIndex)
        then (a.place slotIndex : ℤ) else slotIndex := by
  obtain ⟨id, hid, hpos, hsent⟩ := hs.exists_connId h
  have hslot : s.tables.connIdSlot (s.bindMsg a.clientId slotIndex)
      = ((s.tables.slotMapOf a.clientId id).map fun slot => (slot : ℤ)).getD (-1) := by
    rw [connIdSlot_eq (by rw [hsent]; exact hpos.ne'), hsent]
    rfl
  rw [targetSlot, hslot, hid]
  rcases hs.known slotIndex id hid with ⟨rfl, hmap⟩ | ⟨hne, hmap⟩
  · rw [hmap, if_pos rfl]
    exact decideReplaceSlot_of_mapped (Int.natCast_nonneg _) _ _ _
  · rw [hmap, if_neg fun heq => hne (Option.some.inj heq)]
    exact decideReplaceSlot_of_slotIndex (by decide) ⟨Int.natCast_nonneg _, Int.ofNat_lt.mpr h⟩ _

/-! ## Both ends replace the same connection -/

/-- The condition on a handshake. It is the first one of its slot, or the server accepted the
slot's first connection at the slot's own place. -/
def OwnPlace (a : Arrival) (s : SlotPairing) (e : Event) : Prop :=
  ∀ slotIndex, e = .reconnect slotIndex → s.Dead slotIndex →
    s.tcpConnectionIds[slotIndex]? = some (a.firstConnId + slotIndex)
      ∨ a.place slotIndex = slotIndex

lemma Paired.targetSlot_of_ownPlace (hs : Paired a s) {slotIndex : ℕ} (hdead : s.Dead slotIndex)
    (h : s.tcpConnectionIds[slotIndex]? = some (a.firstConnId + slotIndex)
      ∨ a.place slotIndex = slotIndex) : s.targetSlot a.clientId slotIndex = a.place slotIndex := by
  rw [hs.targetSlot_eq (hdead.lt hs)]
  split_ifs with hfirst
  · rfl
  · rw [h.resolve_left hfirst]

lemma Paired.replaces_iff (hs : Paired a s) (e : Event) :
    s.ReplacesSameConnection a.clientId e ↔ s.OwnPlace a e := by
  refine forall_congr' fun slotIndex => forall_congr' fun he => forall_congr' fun hdead => ?_
  have hlt := hdead.lt hs
  constructor
  · intro h
    obtain ⟨target, htarget, hend⟩ := h
    rw [hs.targetSlot_eq hlt] at htarget
    split_ifs at htarget with hfirst
    · exact Or.inl hfirst
    · -- the fallback is right only at the slot's own place
      right
      rw [← Int.ofNat_inj.mp htarget, ← hs.ends slotIndex hlt] at hend
      have hplace : a.place slotIndex < s.serverEnds.length :=
        hs.lengths.2.2.symm ▸ a.place_lt hlt
      exact ((List.getElem?_inj (hs.lengths.2.2.symm ▸ hlt) hs.links.1).mp hend).symm
  · intro h
    exact ⟨a.place slotIndex, hs.targetSlot_of_ownPlace hdead h, hs.ends slotIndex hlt⟩

lemma Paired.drawId (hs : Paired a s) (hwrap : s.nextConnectionId + 1 < uint32Size) :
    Paired a s.drawId := by
  have hnext : s.drawId.nextConnectionId = s.nextConnectionId + 1 := Nat.mod_eq_of_lt hwrap
  refine ⟨hs.lengths, hs.ends, hs.links, hs.known, ⟨hs.ids.1, fun id hid => ?_⟩, fun id hid => ?_, ?_⟩
  · rw [hnext]
    exact ⟨(hs.ids.2 id hid).1, Nat.lt_succ_of_lt (hs.ids.2 id hid).2⟩
  · rw [hnext]
    exact Nat.lt_succ_of_lt (hs.mapped id hid)
  · rw [hnext]
    exact Nat.le_succ_of_le hs.next

/-- The state after a handshake that replaced the connection at the place of the slot. -/
def replaced (a : Arrival) (s : SlotPairing) (slotIndex : ℕ) : SlotPairing :=
  { s.drawId with
    serverEnds := s.serverEnds.set (a.place slotIndex) s.nextLink
    tables := s.tables.registerReplacement (s.bindMsg a.clientId slotIndex) (a.place slotIndex)
    tcpConnectionIds := s.tcpConnectionIds.set slotIndex s.nextConnectionId
    clientEnds := s.clientEnds.set slotIndex s.nextLink
    nextLink := s.nextLink + 1 }

lemma reconnectSingleSlot_eq {slotIndex : ℕ} (hdead : s.Dead slotIndex)
    (h : s.targetSlot a.clientId slotIndex = a.place slotIndex) :
    s.reconnectSingleSlot a.clientId slotIndex = s.replaced a slotIndex := by
  have htarget : s.drawId.targetSlot a.clientId slotIndex = a.place slotIndex := h
  rw [reconnectSingleSlot, if_pos hdead]
  simp only [acceptReplacement, htarget, not_lt.mpr (Int.natCast_nonneg _), if_false,
    Int.toNat_natCast]
  rfl

/-- The id that was sent leads to the place, and no other one does. -/
lemma slotMapOf_replaced {slotIndex id : ℕ} (hpos : 0 < id)
    (hsent : (s.bindMsg a.clientId slotIndex).connectionId = id) (id' : ℕ) :
    (s.replaced a slotIndex).tables.slotMapOf a.clientId id'
      = if id' = id then some (a.place slotIndex)
        else if s.tables.slotMapOf a.clientId id' = some (a.place slotIndex) then none
        else s.tables.slotMapOf a.clientId id' := by
  have h := slotMapOf_registerReplacement s.tables (s.bindMsg a.clientId slotIndex)
    (by rw [hsent]; exact hpos.ne') (a.place slotIndex) id'
  rw [hsent] at h
  exact h

/-- The server knows the ids of the other slots as before, and the new one not yet. -/
lemma Paired.known_replaced (hs : Paired a s) {slotIndex id : ℕ} (hlt : slotIndex < vcTcpConnections)
    (hid : s.tcpConnectionIds[slotIndex]? = some id) (hpos : 0 < id)
    (hsent : (s.bindMsg a.clientId slotIndex).connectionId = id) {slot id' : ℕ}
    (hid' : (s.replaced a slotIndex).tcpConnectionIds[slot]? = some id') :
    (s.replaced a slotIndex).Known a slot id' := by
  have hids := hs.lengths.1
  replace hid' : (s.tcpConnectionIds.set slotIndex s.nextConnectionId)[slot]? = some id' := hid'
  have hslot := (List.getElem?_eq_some_iff.mp hid').1
  rw [List.length_set, hids] at hslot
  rw [Known, slotMapOf_replaced hpos hsent]
  by_cases heq : slotIndex = slot
  · -- the server has not seen the new id
    rw [← heq, List.getElem?_set_self (hids.symm ▸ hlt)] at hid'
    cases hid'
    have hnew : s.tables.slotMapOf a.clientId s.nextConnectionId = none := by
      by_contra hne
      exact Nat.lt_irrefl _ (hs.mapped _ hne)
    have hne : s.nextConnectionId ≠ id := (hs.ids.2 id (List.mem_of_getElem? hid)).2.ne'
    rw [if_neg hne, hnew, if_neg (by simp)]
    refine Or.inr ⟨fun h => ?_, rfl⟩
    have hle := hs.next
    rw [h] at hle
    exact absurd (Nat.le_of_add_le_add_left hle) (not_le.mpr hslot)
  · rw [List.getElem?_set_ne heq] at hid'
    have hne : id' ≠ id := by
      rintro rfl
      have hlt : slotIndex < s.tcpConnectionIds.length := hids.symm ▸ hlt
      exact heq ((List.getElem?_inj hlt hs.ids.1).mp (hid.trans hid'.symm))
    rw [if_neg hne]
    rcases hs.known slot id' hid' with ⟨hfirst, hslotMap⟩ | ⟨hfirst, hslotMap⟩
    · have hother : some (a.place slot) ≠ some (a.place slotIndex) := fun h =>
        heq (a.place_inj hslot (Option.some.inj h)).symm
      rw [hslotMap, if_neg hother]
      exact Or.inl ⟨hfirst, rfl⟩
    · rw [hslotMap, if_neg (by simp)]
      exact Or.inr ⟨hfirst, rfl⟩

lemma Paired.replaced (hs : Paired a s) (hwrap : s.nextConnectionId + 1 < uint32Size)
    {slotIndex : ℕ} (hlt : slotIndex < vcTcpConnections) : Paired a (s.replaced a slotIndex) := by
  obtain ⟨id, hid, hpos, hsent⟩ := hs.exists_connId hlt
  have hnext : (s.replaced a slotIndex).nextConnectionId = s.nextConnectionId + 1 :=
    Nat.mod_eq_of_lt hwrap
  have hmem := List.mem_of_getElem? hid
  obtain ⟨hids, hclient, hserver⟩ := hs.lengths
  refine ⟨⟨?_, ?_, ?_⟩, fun slot hslot => ?_, ⟨?_, ?_⟩, fun slot id' hid' => ?_, ⟨?_, ?_⟩,
    fun id' hid' => ?_, ?_⟩
  · exact (List.length_set ..).trans hids
  · exact (List.length_set ..).trans hclient
  · exact (List.length_set ..).trans hserver
  · show (s.serverEnds.set _ _)[a.place slot]? = (s.clientEnds.set _ _)[slot]?
    by_cases heq : slotIndex = slot
    · rw [heq, List.getElem?_set_self (hserver.symm ▸ a.place_lt hslot),
        List.getElem?_set_self (hclient.symm ▸ hslot)]
    · rw [List.getElem?_set_ne fun h => heq (a.place_inj hlt h), List.getElem?_set_ne heq]
      exact hs.ends slot hslot
  · exact hs.links.1.set fun h => Nat.lt_irrefl _ (hs.links.2 _ h)
  · intro link hlink
    rcases List.mem_or_eq_of_mem_set hlink with hlink | rfl
    · exact Nat.lt_succ_of_lt (hs.links.2 link hlink)
    · exact Nat.lt_succ_self _
  · exact hs.known_replaced hlt hid hpos hsent hid'
  · exact hs.ids.1.set fun h => Nat.lt_irrefl _ (hs.ids.2 _ h).2
  · intro id' hid'
    rw [hnext]
    rcases List.mem_or_eq_of_mem_set hid' with hid' | rfl
    · exact ⟨(hs.ids.2 id' hid').1, Nat.lt_succ_of_lt (hs.ids.2 id' hid').2⟩
    · exact ⟨Nat.lt_of_lt_of_le hpos (hs.ids.2 id hmem).2.le, Nat.lt_succ_self _⟩
  · rw [slotMapOf_replaced hpos hsent] at hid'
    rw [hnext]
    split_ifs at hid' with heq
    · rw [heq]
      exact Nat.lt_succ_of_lt (hs.ids.2 id hmem).2
    · exact absurd rfl hid'
    · exact Nat.lt_succ_of_lt (hs.mapped id' hid')
  · rw [hnext]
    exact Nat.le_succ_of_le hs.next

lemma paired_step (hs : Paired a s) {e : Event} (hwrap : s.nextConnectionId + 1 < uint32Size)
    (h : s.OwnPlace a e) : Paired a (step a.clientId s e) := by
  cases e with
  | clientDies link => exact ⟨hs.lengths, hs.ends, hs.links, hs.known, hs.ids, hs.mapped, hs.next⟩
  | serverDies link => exact ⟨hs.lengths, hs.ends, hs.links, hs.known, hs.ids, hs.mapped, hs.next⟩
  | abort slotIndex =>
    simp only [step]
    split_ifs
    · exact hs.drawId hwrap
    · exact hs
  | reconnect slotIndex =>
    by_cases hdead : s.Dead slotIndex
    · have htarget := hs.targetSlot_of_ownPlace hdead (h slotIndex rfl hdead)
      rw [step, reconnectSingleSlot_eq hdead htarget]
      exact hs.replaced hwrap (hdead.lt hs)
    · rw [step, reconnectSingleSlot, if_neg hdead]
      exact hs

/-- One step draws at most one id. -/
lemma nextConnectionId_step (clientId : ClientId) (s : SlotPairing) (e : Event) :
    (step clientId s e).nextConnectionId ≤ s.nextConnectionId + 1 := by
  have hdraw : s.drawId.nextConnectionId ≤ s.nextConnectionId + 1 := Nat.mod_le ..
  cases e with
  | clientDies link => exact Nat.le_succ _
  | serverDies link => exact Nat.le_succ _
  | abort slotIndex =>
    simp only [step]
    split_ifs
    · exact hdraw
    · exact Nat.le_succ _
  | reconnect slotIndex =>
    simp only [step, reconnectSingleSlot]
    split_ifs
    · simp only [acceptReplacement]
      split_ifs <;> exact hdraw
    · exact Nat.le_succ _

lemma nextConnectionId_stateAt (h : a.NoWrap 0) (events : ℕ → Event) (n : ℕ) :
    (stateAt a events n).nextConnectionId ≤ a.firstConnId + vcTcpConnections + n := by
  induction n with
  | zero => exact (h.connId le_rfl).le
  | succ n ih => exact (nextConnectionId_step ..).trans (Nat.succ_le_succ ih)

lemma paired_stateAt {events : ℕ → Event} {n : ℕ} (hwrap : a.NoWrap n)
    (h : ∀ m < n, (stateAt a events m).OwnPlace a (events m)) : Paired a (stateAt a events n) := by
  induction n with
  | zero => exact paired_channels hwrap
  | succ n ih =>
    have hn := hwrap.mono (Nat.le_succ n)
    refine paired_step (ih hn fun m hm => h m (Nat.lt_succ_of_lt hm)) ?_ (h n (Nat.lt_succ_self n))
    exact Nat.lt_of_le_of_lt (Nat.succ_le_succ (nextConnectionId_stateAt (hn.mono (Nat.zero_le n))
      events n)) hwrap.2

/-- Both ends replace the same connection in every handshake exactly when each of them is the
first of its slot or is for a slot whose connection was accepted at its own place. -/
theorem replacesSameConnection_iff (a : Arrival) (events : ℕ → Event) (n : ℕ) (hwrap : a.NoWrap n) :
    (∀ m < n, (stateAt a events m).ReplacesSameConnection a.clientId (events m))
      ↔ ∀ m < n, (stateAt a events m).OwnPlace a (events m) := by
  have hpaired : ∀ m < n, (∀ k < m, (stateAt a events k).OwnPlace a (events k)) →
      Paired a (stateAt a events m) := fun m hm hplace =>
    paired_stateAt (hwrap.mono hm.le) hplace
  constructor
  · intro h m
    induction m using Nat.strong_induction_on with
    | _ m ih =>
      intro hm
      have hs := hpaired m hm fun k hk => ih k hk (hk.trans hm)
      exact (hs.replaces_iff (events m)).mp (h m hm)
  · intro h m hm
    have hs := hpaired m hm fun k hk => h k (hk.trans hm)
    exact (hs.replaces_iff (events m)).mpr (h m hm)

/-- The first two connections arrive in the wrong order. -/
def swapped : Arrival where
  clientId := 7
  firstConnId := 1
  order := 1 :: 0 :: (List.range vcTcpConnections).drop 2
  perm := List.Perm.swap 0 1 _
  fd i := i
  fd_injective _ _ _ _ h := Int.ofNat_inj.mp h
  tables := {}
  unknown := ⟨rfl, rfl, rfl⟩

/-- Slot 0 dies and reconnects, twice. -/
def reconnectTwice : ℕ → Event :=
  fun n => [.clientDies 0, .reconnect 0, .clientDies vcTcpConnections, .reconnect 0].getD n
    (.clientDies 0)

/-- The first handshake of a slot is right wherever its connection was accepted. -/
theorem replacesSameConnection_swapped :
    swapped.NoWrap 3 ∧ ∀ m < 3, (stateAt swapped reconnectTwice m).ReplacesSameConnection 7
      (reconnectTwice m) := by
  have hwrap : swapped.NoWrap 3 := by decide
  refine ⟨hwrap, (replacesSameConnection_iff swapped reconnectTwice 3 hwrap).mpr ?_⟩
  intro m hm slotIndex he _
  interval_cases m
  · cases he
  · cases he
    exact Or.inl (by decide +kernel)
  · cases he

/-- The second handshake of slot 0 cuts the connection of slot 1. -/
theorem replaces_other_connection :
    ¬ ∀ (a : Arrival) (events : ℕ → Event) (n : ℕ),
      (stateAt a events n).ReplacesSameConnection a.clientId (events n) := by
  intro h
  obtain ⟨target, htarget, hend⟩ := h swapped reconnectTwice 3 0 rfl (by decide +kernel)
  have hzero : (stateAt swapped reconnectTwice 3).targetSlot swapped.clientId 0 = (0 : ℕ) := by
    decide +kernel
  rw [hzero] at htarget
  rw [← Int.ofNat_inj.mp htarget] at hend
  exact absurd hend (by decide +kernel)

end SlotPairing
end TcpUdp
