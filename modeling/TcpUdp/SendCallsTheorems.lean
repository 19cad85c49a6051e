import TcpUdp.SendCalls
import TcpUdp.Channel
import Mathlib.Data.Fintype.Card

/-!
# No id is skipped, given twice or evicted early

Whatever the interleaving, an id that was taken is in the hands of one call or its packet has been
pushed once (`pushed_accounted`), so the receiver never waits for an id that nobody sends. The cache
then holds what a single caller would find in it, less one packet of a shard for every other
thread (`cached_while_recent`): a call that took its id early may cache its packet late.
-/

namespace TcpUdp
namespace SendCalls

open Lib

variable {τ : Type} [DecidableEq τ] {s s' : SendCalls τ} {t : τ}

/-! ## Alone, the steps are `TcpVirtualChannel.send` -/

theorem send_alone (ch : TcpVirtualChannel) (hplace : s.place t = .idle)
    (hopened : s.opened = ch.opened) (hlast : s.lastSendMessageId = ch.lastSendMessageId)
    (hcache : s.sentDataCache = ch.sentDataCache) (hqueue : s.sendQueue = ch.sendThread.sendQueue)
    (data : List UInt8) :
    let r := ((((s.start t data).loadDepth t s.sendQueue.approxQueueSize).takeId t).insert t).enqueue t
    r.opened = (ch.send data).opened
      ∧ r.lastSendMessageId = (ch.send data).lastSendMessageId
      ∧ r.sentDataCache = (ch.send data).sentDataCache
      ∧ r.sendQueue = (ch.send data).sendThread.sendQueue := by
  have hsame := And.intro hopened (And.intro hlast (And.intro hcache hqueue))
  unfold TcpVirtualChannel.send
  by_cases hopen : ch.opened
  · by_cases hempty : data.length = 0
    · simpa [start, loadDepth, takeId, insert, enqueue, hplace, hopened, hopen, hempty] using hsame
    · by_cases hsize : data.length > vcMaxDataPayloadSize
      · simpa [start, loadDepth, takeId, insert, enqueue, hplace, hopened, hopen, hempty, hsize]
          using hsame
      · by_cases hdepth : ch.sendThread.sendQueue.approxQueueSize > sendQueueDropThreshold
        · simpa [start, loadDepth, takeId, insert, enqueue, moveTo, hplace, hopened, hopen, hempty,
            hsize, hqueue, hdepth] using hsame
        · simp [start, loadDepth, takeId, insert, enqueue, moveTo, hplace, hopened, hopen, hempty,
            hsize, hqueue, hdepth, hlast, hcache, packet, TcpVirtualChannel.accept, SendThread.step]
  · simpa [start, loadDepth, takeId, insert, enqueue, hplace, hopened, hopen] using hsame

/-! ## What a step can do -/

inductive Move (s : SendCalls τ) (e : Event τ) : SendCalls τ → Prop
  | stay : Move s e s
  | moveTo (t : τ) (place : Place) (hfrom : (s.place t).held? = none) (hto : place.held? = none) :
    Move s e (s.moveTo t place)
  | takeId (t : τ) (data : Payload) (h : s.place t = .admitted data) :
    Move s e
      { s with
        lastSendMessageId := (s.lastSendMessageId + 1) % uint64Size
        place := Function.update s.place t (.numbered s.lastSendMessageId data)
        accepted := s.accepted ++ [data] }
  | insert (t : τ) (id : ℕ) (data : Payload) (h : s.place t = .numbered id data) :
    Move s e
      { s with
        sentDataCache := s.sentDataCache.insert id (packet id data)
        place := Function.update s.place t (.cached id data)
        inserted := s.inserted ++ [(id, packet id data)] }
  | enqueue (t : τ) (id : ℕ) (data : Payload) (h : s.place t = .cached id data) :
    Move s e
      { s with
        sendQueue := s.sendQueue.enqueue (packet id data)
        place := Function.update s.place t .idle }
  | notify (ids : List ℕ) : Move s e { s with sendQueue := s.sendQueue.enqueue (vcMissingNotify ids) }
  | dequeue (pkt : Packet) (queue : BlockingQueue) (h : s.sendQueue.queue = pkt :: queue.queue) :
    Move s e { s with sendQueue := queue, dequeued := s.dequeued ++ [pkt] }
  | close : Move s e { s with opened := false, sendQueue := s.sendQueue.cancelWait }
  | clear (h : e = .clear) : Move s e { s with sentDataCache := s.sentDataCache.clear, inserted := [] }

theorem step_cases (s : SendCalls τ) (e : Event τ) : Move s e (s.step e) := by
  cases e with
  | start t data =>
    show Move s (.start t data) (s.start t data)
    unfold start
    split
    · rename_i hplace
      split_ifs
      · exact .stay
      · exact .stay
      · exact .stay
      · exact .moveTo t _ (by rw [hplace]; rfl) rfl
    · exact .stay
  | loadDepth t quesize =>
    show Move s (.loadDepth t quesize) (s.loadDepth t quesize)
    unfold loadDepth
    split
    · rename_i data hplace
      split_ifs
      · exact .moveTo t _ (by rw [hplace]; rfl) rfl
      · exact .moveTo t _ (by rw [hplace]; rfl) rfl
    · exact .stay
  | takeId t =>
    show Move s (.takeId t) (s.takeId t)
    unfold takeId
    split
    · exact .takeId t _ ‹_›
    · exact .stay
  | insert t =>
    show Move s (.insert t) (s.insert t)
    unfold insert
    split
    · exact .insert t _ _ ‹_›
    · exact .stay
  | enqueue t =>
    show Move s (.enqueue t) (s.enqueue t)
    unfold enqueue
    split
    · exact .enqueue t _ _ ‹_›
    · exact .stay
  | missingNotifyCallback ids =>
    show Move s (.missingNotifyCallback ids) (s.missingNotifyCallback ids)
    unfold missingNotifyCallback
    split_ifs
    · exact .stay
    · exact .notify ids
  | tryDequeue =>
    show Move s .tryDequeue s.tryDequeue
    unfold tryDequeue
    split
    · exact .stay
    · exact .dequeue _ _ (BlockingQueue.tryDequeue_eq_some ‹_›)
  | close =>
    show Move s .close s.close
    unfold close
    split_ifs
    · exact .close
    · exact .stay
  | clear => exact .clear rfl

/-! ## Where the ids are -/

lemma headerMessageId_packet {id : ℕ} (hid : id < uint64Size) (data : Payload) :
    headerMessageId (packet id data) = id := by
  have h : headerMessageId (vcDataPacket id data.val ++ []) = id :=
    headerMessageId_vcDataPacket [] hid data.val
  rwa [List.append_nil] at h

/-- Every id that was taken is with one call, or its packet was pushed once. -/
structure Accounted (s : SendCalls τ) : Prop where
  pushed : ∀ pkt ∈ s.pushed, ∃ id data, s.accepted[id]? = some data ∧ pkt = packet id data
  once : s.pushed.Nodup
  held : ∀ t id data, (s.place t).held? = some (id, data) → s.accepted[id]? = some data
  unique : ∀ t t' id, s.Holds t id → s.Holds t' id → t = t'
  missing : ∀ id data, s.accepted[id]? = some data →
    (packet id data ∈ s.pushed ↔ ∀ t, ¬s.Holds t id)

/-- Up to the number of ids that there are, the counter is the number of ids taken. -/
structure Numbered (s : SendCalls τ) : Prop extends Accounted s where
  lastSendMessageId : s.lastSendMessageId = s.accepted.length % uint64Size

omit [DecidableEq τ] in
/-- Steps that keep who holds what and what was pushed. -/
lemma Numbered.congr (h : Numbered s) (hpushed : s'.pushed = s.pushed)
    (hheld : ∀ t, (s'.place t).held? = (s.place t).held?) (haccepted : s'.accepted = s.accepted)
    (hlast : s'.lastSendMessageId = s.lastSendMessageId) : Numbered s' where
  pushed := by rw [hpushed, haccepted]; exact h.pushed
  once := by rw [hpushed]; exact h.once
  held := by
    intro t id data ht
    rw [hheld] at ht
    rw [haccepted]
    exact h.held t id data ht
  unique := by
    intro t t' id ht ht'
    rw [Holds, hheld] at ht ht'
    exact h.unique t t' id ht ht'
  missing := by
    intro id data hid
    rw [haccepted] at hid
    simp only [hpushed, Holds, hheld]
    exact h.missing id data hid
  lastSendMessageId := by rw [hlast, haccepted]; exact h.lastSendMessageId

omit [DecidableEq τ] in
/-- A packet of the id `id` is the packet of the id. -/
lemma Accounted.lt (h : Accounted s) (hwrap : s.accepted.length ≤ uint64Size) {pkt : Packet}
    (hpkt : pkt ∈ s.pushed) : ∃ id data, id < uint64Size ∧ s.accepted[id]? = some data
      ∧ pkt = packet id data := by
  obtain ⟨id, data, hid, rfl⟩ := h.pushed pkt hpkt
  have hlt := (List.getElem?_eq_some_iff.mp hid).1
  exact ⟨id, data, by omega, hid, rfl⟩

lemma held?_update {place : Place} (hplace : place.held? = (s.place t).held?) (u : τ) :
    (Function.update s.place t place u).held? = (s.place u).held? := by
  by_cases hu : u = t
  · rw [hu, Function.update_self, hplace]
  · rw [Function.update_of_ne hu]

/-! ### `takeId` -/

lemma numbered_takeId (h : Numbered s) (hwrap : s.accepted.length < uint64Size) {data : Payload}
    (hplace : s.place t = .admitted data) :
    Numbered { s with
      lastSendMessageId := (s.lastSendMessageId + 1) % uint64Size
      place := Function.update s.place t (.numbered s.lastSendMessageId data)
      accepted := s.accepted ++ [data] } := by
  have hid : s.lastSendMessageId = s.accepted.length := by
    rw [h.lastSendMessageId, Nat.mod_eq_of_lt hwrap]
  have hnone : (s.place t).held? = none := by rw [hplace]; rfl
  -- the id is new to the calls and to the queue
  have hfresh : ∀ u data', (s.place u).held? ≠ some (s.accepted.length, data') := by
    intro u data' hu
    have hlt := (List.getElem?_eq_some_iff.mp (h.held u _ _ hu)).1
    exact absurd hlt (lt_irrefl _)
  have hkept : ∀ {id : ℕ} {d}, s.accepted[id]? = some d → (s.accepted ++ [data])[id]? = some d := by
    intro id d hd
    rw [List.getElem?_append_left (List.getElem?_eq_some_iff.mp hd).1]
    exact hd
  have hheld : ∀ u id d,
      (Function.update s.place t (.numbered s.lastSendMessageId data) u).held? = some (id, d)
        ↔ (u = t ∧ id = s.accepted.length ∧ d = data) ∨ (s.place u).held? = some (id, d) := by
    intro u id d
    by_cases hu : u = t
    · rw [hu, Function.update_self, hnone, hid]
      show some (s.accepted.length, data) = some (id, d) ↔ _
      simp [eq_comm]
    · simp [hu]
  refine ⟨⟨?_, h.once, ?_, ?_, ?_⟩, ?_⟩
  · intro pkt hpkt
    obtain ⟨id, d, hd, rfl⟩ := h.pushed pkt hpkt
    exact ⟨id, d, hkept hd, rfl⟩
  · intro u id d hu
    rcases (hheld u id d).mp hu with ⟨_, rfl, rfl⟩ | hu
    · show (s.accepted ++ [d])[s.accepted.length]? = some d
      simp
    · exact hkept (h.held u id d hu)
  · rintro u u' id ⟨d, hu⟩ ⟨d', hu'⟩
    rcases (hheld u id d).mp hu with ⟨rfl, hnew, _⟩ | hold
    · rcases (hheld u' id d').mp hu' with ⟨rfl, _⟩ | hold'
      · rfl
      · rw [hnew] at hold'
        exact absurd hold' (hfresh u' d')
    · rcases (hheld u' id d').mp hu' with ⟨_, hnew, _⟩ | hold'
      · rw [hnew] at hold
        exact absurd hold (hfresh u d)
      · exact h.unique u u' id ⟨d, hold⟩ ⟨d', hold'⟩
  · intro id d hd
    show packet id d ∈ s.pushed ↔ _
    by_cases hlt : id < s.accepted.length
    · rw [List.getElem?_append_left hlt] at hd
      rw [h.missing id d hd]
      refine forall_congr' fun u => not_congr (exists_congr fun d' => ?_)
      show _ ↔ (Function.update s.place t _ u).held? = _
      rw [hheld]
      constructor
      · exact Or.inr
      · rintro (⟨_, hnew, _⟩ | hu)
        · omega
        · exact hu
    · -- the new id is with `t`, and nothing of it was pushed
      have hbound := (List.getElem?_eq_some_iff.mp hd).1
      rw [List.length_append, List.length_singleton] at hbound
      have hnew : id = s.accepted.length := by omega
      constructor
      · intro hpkt
        obtain ⟨id', d', hid', hget, heq⟩ := h.lt hwrap.le hpkt
        have hlt' := (List.getElem?_eq_some_iff.mp hget).1
        have hsame := congrArg headerMessageId heq
        rw [headerMessageId_packet (by omega), headerMessageId_packet hid'] at hsame
        omega
      · intro hnobody
        refine absurd ⟨data, ?_⟩ (hnobody t)
        exact (hheld t id data).mpr (Or.inl ⟨rfl, hnew, rfl⟩)
  · show (s.lastSendMessageId + 1) % uint64Size = (s.accepted ++ [data]).length % uint64Size
    rw [hid, List.length_append, List.length_singleton]

/-! ### `enqueue` -/

omit [DecidableEq τ] in
lemma pushed_enqueue_packet (s : SendCalls τ) (place : τ → Place) (id : ℕ) (data : Payload) :
    ({ s with sendQueue := s.sendQueue.enqueue (packet id data), place := place } :
      SendCalls τ).pushed = s.pushed ++ [packet id data] := by
  have htype : headerType (packet id data) = VcPacketType.data.toByte := rfl
  rw [pushed, pushed, BlockingQueue.enqueue, ← List.append_assoc, List.filter_append,
    List.filter_cons_of_pos (by simpa using htype), List.filter_nil]

omit [DecidableEq τ] in
lemma pushed_enqueue_notify (s : SendCalls τ) (ids : List ℕ) :
    ({ s with sendQueue := s.sendQueue.enqueue (vcMissingNotify ids) } : SendCalls τ).pushed
      = s.pushed := by
  have htype : headerType (vcMissingNotify ids) ≠ VcPacketType.data.toByte := by
    show VcPacketType.missingNotify.toByte ≠ VcPacketType.data.toByte
    decide
  rw [pushed, pushed, BlockingQueue.enqueue, ← List.append_assoc, List.filter_append,
    List.filter_cons_of_neg (by simpa using htype), List.filter_nil, List.append_nil]

lemma numbered_enqueue (h : Numbered s) (hwrap : s.accepted.length ≤ uint64Size) {id : ℕ}
    {data : Payload} (hplace : s.place t = .cached id data) :
    Numbered { s with
      sendQueue := s.sendQueue.enqueue (packet id data)
      place := Function.update s.place t .idle } := by
  have hpushed := pushed_enqueue_packet s (Function.update s.place t .idle) id data
  have hmine : (s.place t).held? = some (id, data) := by rw [hplace]; rfl
  have hget := h.held t id data hmine
  have hlt := (List.getElem?_eq_some_iff.mp hget).1
  have hother : ∀ u p, (Function.update s.place t Place.idle u).held? = some p
      ↔ u ≠ t ∧ (s.place u).held? = some p := by
    intro u p
    by_cases hu : u = t
    · rw [hu, Function.update_self]
      simp [Place.held?]
    · simp [hu]
  refine ⟨⟨?_, ?_, ?_, ?_, ?_⟩, h.lastSendMessageId⟩
  · intro pkt hpkt
    rw [hpushed, List.mem_append, List.mem_singleton] at hpkt
    rcases hpkt with hpkt | rfl
    · exact h.pushed pkt hpkt
    · exact ⟨id, data, hget, rfl⟩
  · rw [hpushed, List.nodup_append]
    refine ⟨h.once, List.nodup_singleton _, ?_⟩
    rintro pkt hpkt _ hnew rfl
    rw [List.mem_singleton.mp hnew, h.missing id data hget] at hpkt
    exact hpkt t ⟨data, hmine⟩
  · intro u id' d hu
    exact h.held u id' d ((hother u _).mp hu).2
  · rintro u u' id' ⟨d, hu⟩ ⟨d', hu'⟩
    exact h.unique u u' id' ⟨d, ((hother u _).mp hu).2⟩ ⟨d', ((hother u' _).mp hu').2⟩
  · intro id' d hd
    have hlt' := (List.getElem?_eq_some_iff.mp hd).1
    have hbound : id' < s.accepted.length := hlt'
    rw [hpushed, List.mem_append, List.mem_singleton, h.missing id' d hd]
    constructor
    · rintro (hnobody | heq) u ⟨d', hu⟩
      · exact hnobody u ⟨d', ((hother u _).mp hu).2⟩
      · -- the packet is the one that `t` pushes, and nobody else holds its id
        have hsame := congrArg headerMessageId heq
        rw [headerMessageId_packet (by omega), headerMessageId_packet (by omega)] at hsame
        have ⟨hne, hholds⟩ := (hother u _).mp hu
        rw [hsame] at hholds
        exact hne (h.unique u t id ⟨d', hholds⟩ ⟨data, hmine⟩)
    · intro hnobody
      by_cases hid : id' = id
      · right
        rw [hid] at hd ⊢
        have hdata : s.accepted[id]? = some d := hd
        rw [hget] at hdata
        rw [Option.some.inj hdata]
      · left
        rintro u ⟨d', hu⟩
        by_cases hut : u = t
        · rw [hut, hmine] at hu
          exact hid (Prod.mk.inj (Option.some.inj hu)).1.symm
        · exact hnobody u ⟨d', (hother u _).mpr ⟨hut, hu⟩⟩

/-! ### Every step -/

omit [DecidableEq τ] in
lemma numbered_opening (numConns capacityPerConn : ℕ) :
    Numbered (opening numConns capacityPerConn : SendCalls τ) := by
  refine ⟨⟨?_, List.nodup_nil, ?_, ?_, ?_⟩, rfl⟩
  · intro pkt hpkt
    cases hpkt
  · intro t id data h
    cases h
  · rintro t t' id ⟨data, h⟩
    cases h
  · intro id data h
    cases h

lemma numbered_step (h : Numbered s) (e : Event τ)
    (hwrap : (s.step e).accepted.length ≤ uint64Size) : Numbered (s.step e) := by
  generalize hs' : s.step e = s' at hwrap ⊢
  have hmove := step_cases s e
  rw [hs'] at hmove
  cases hmove with
  | stay => exact h
  | moveTo t place hfrom hto =>
    exact h.congr rfl (held?_update (by rw [hfrom, hto])) rfl rfl
  | takeId t data hplace =>
    refine numbered_takeId h ?_ hplace
    rw [List.length_append, List.length_singleton] at hwrap
    omega
  | insert t id data hplace => exact h.congr rfl (held?_update (by rw [hplace]; rfl)) rfl rfl
  | enqueue t id data hplace => exact numbered_enqueue h hwrap hplace
  | notify ids => exact h.congr (pushed_enqueue_notify s ids) (fun _ => rfl) rfl rfl
  | dequeue pkt queue hqueue =>
    refine h.congr ?_ (fun _ => rfl) rfl rfl
    rw [pushed, pushed, hqueue, List.append_assoc, List.singleton_append]
  | close => exact h.congr rfl (fun _ => rfl) rfl rfl
  | clear => exact h.congr rfl (fun _ => rfl) rfl rfl

/-- Ids are only ever taken. -/
lemma accepted_length_step (s : SendCalls τ) (e : Event τ) :
    s.accepted.length ≤ (s.step e).accepted.length := by
  have hmove := step_cases s e
  generalize s.step e = s' at hmove
  cases hmove with
  | takeId t data hplace => simp
  | _ => exact le_refl _

theorem numbered_stateAt {numConns capacityPerConn : ℕ} {events : ℕ → Event τ} {n : ℕ}
    (hwrap : (stateAt numConns capacityPerConn events n).accepted.length ≤ uint64Size) :
    Numbered (stateAt numConns capacityPerConn events n) := by
  induction n with
  | zero => exact numbered_opening numConns capacityPerConn
  | succ n ih =>
    refine numbered_step (ih ?_) (events n) hwrap
    exact le_trans (accepted_length_step _ (events n)) hwrap

/-! ## What the queue has carried -/

omit [DecidableEq τ] in
/-- Where no call is on its way, the packets are those of the ids that were taken. -/
lemma Accounted.perm (h : Accounted s) (hwrap : s.accepted.length ≤ uint64Size)
    (hrest : ∀ t id, ¬s.Holds t id) :
    s.pushed.Perm (s.accepted.zipIdx.map fun p => packet p.2 p.1) := by
  have hnodup : (s.accepted.zipIdx.map fun p => packet p.2 p.1).Nodup := by
    -- the header of a packet is its index
    refine List.Nodup.of_map headerMessageId ?_
    have hids : (s.accepted.zipIdx.map fun p => packet p.2 p.1).map headerMessageId
        = List.range s.accepted.length := by
      rw [List.map_map, List.range_eq_range', ← List.zipIdx_map_snd 0 s.accepted]
      refine List.map_congr_left fun p hp => ?_
      have hlt := List.snd_lt_of_mem_zipIdx hp
      exact headerMessageId_packet (by omega) p.1
    rw [hids]
    exact List.nodup_range
  rw [List.perm_ext_iff_of_nodup h.once hnodup]
  intro pkt
  rw [List.mem_map]
  constructor
  · intro hpkt
    obtain ⟨id, data, hget, rfl⟩ := h.pushed pkt hpkt
    exact ⟨(data, id), List.mk_mem_zipIdx_iff_getElem?.mpr hget, rfl⟩
  · rintro ⟨⟨data, id⟩, hmem, rfl⟩
    have hget := List.mk_mem_zipIdx_iff_getElem?.mp hmem
    exact (h.missing id data hget).mpr fun t => hrest t id

theorem pushed_accounted (numConns capacityPerConn : ℕ) (events : ℕ → Event τ) (n : ℕ)
    (hwrap : (stateAt numConns capacityPerConn events n).accepted.length ≤ uint64Size) :
    Accounted (stateAt numConns capacityPerConn events n)
      ∧ ((∀ t id, ¬(stateAt numConns capacityPerConn events n).Holds t id) →
        (stateAt numConns capacityPerConn events n).pushed.Perm
          ((stateAt numConns capacityPerConn events n).accepted.zipIdx.map
            fun p => packet p.2 p.1)) := by
  have h := (numbered_stateAt hwrap).toAccounted
  exact ⟨h, fun hrest => h.perm hwrap hrest⟩

/-- Two calls of which the later one is first to push. -/
def overtaking : List (Event Bool) :=
  [.start false [1], .start true [2], .loadDepth false 0, .loadDepth true 0, .takeId false,
    .takeId true, .insert true, .enqueue true, .insert false, .enqueue false, .tryDequeue]

theorem pushed_accounted_overtaking :
    (stateAt 1 2 (listInputs overtaking .close) 11).pushed.Perm
      ((stateAt 1 2 (listInputs overtaking .close) 11).accepted.zipIdx.map
        fun p => packet p.2 p.1) := by
  have hlength : (stateAt 1 2 (listInputs overtaking .close) 11).accepted.length = 2 := by rfl
  have hrest : ∀ t, ((stateAt 1 2 (listInputs overtaking .close) 11).place t).held? = none := by
    decide
  refine (pushed_accounted 1 2 (listInputs overtaking .close) 11 ?_).2 ?_
  · rw [hlength]
    decide
  · rintro t id ⟨data, h⟩
    rw [hrest t] at h
    cases h

/-! ## What the cache holds -/

section

variable [Fintype τ] {numConns capacity : ℕ}

/-- The packet of a smaller id than `id` is to be cached. -/
def Place.lateFor (id : ℕ) : Place → Bool
  | .numbered i _ => decide (i < id)
  | .idle | .checked _ | .admitted _ | .cached _ _ => false

omit [DecidableEq τ] [Fintype τ] in
lemma lateFor_iff {place : Place} {id : ℕ} :
    place.lateFor id = true ↔ ∃ i data, place = .numbered i data ∧ i < id := by
  cases place <;> simp [Place.lateFor]

def late (place : τ → Place) (id : ℕ) : Finset τ :=
  Finset.univ.filter fun t => (place t).lateFor id = true

/-- What is known of the cache after any number of insertions. -/
structure Caching (numConns capacity : ℕ) (s : SendCalls τ) : Prop where
  holds : s.sentDataCache.Holds numConns capacity s.inserted
  distinct : (s.inserted.map Prod.fst).Nodup
  taken : ∀ entry ∈ s.inserted, entry.1 < s.accepted.length
  uncached : ∀ t id data, s.place t = .numbered id data → id ∉ s.inserted.map Prod.fst
  complete : ∀ id data, s.accepted[id]? = some data →
    (id, packet id data) ∈ s.inserted ∨ ∃ t, s.place t = .numbered id data
  /-- A smaller id that is cached later was with another thread all the while. -/
  overtaken : ∀ l₁ entry l₂, s.inserted = l₁ ++ entry :: l₂ →
    (l₂.countP fun later => decide (later.1 < entry.1)) + (late s.place entry.1).card < Fintype.card τ

omit [DecidableEq τ] in
/-- Steps that take no id and cache nothing. -/
lemma Caching.congr (h : Caching numConns capacity s)
    (hcache : s'.sentDataCache = s.sentDataCache) (hinserted : s'.inserted = s.inserted)
    (haccepted : s'.accepted = s.accepted)
    (hplace : ∀ t id data, s'.place t = .numbered id data ↔ s.place t = .numbered id data) :
    Caching numConns capacity s' where
  holds := by rw [hcache, hinserted]; exact h.holds
  distinct := by rw [hinserted]; exact h.distinct
  taken := by rw [hinserted, haccepted]; exact h.taken
  uncached := by
    intro t id data ht
    rw [hinserted]
    exact h.uncached t id data ((hplace t id data).mp ht)
  complete := by
    intro id data hid
    rw [haccepted] at hid
    rw [hinserted]
    exact (h.complete id data hid).imp_right fun ⟨t, ht⟩ => ⟨t, (hplace t id data).mpr ht⟩
  overtaken := by
    intro l₁ entry l₂ hsplit
    have hlate : late s'.place entry.1 = late s.place entry.1 := by
      ext t
      simp only [late, Finset.mem_filter, lateFor_iff, hplace]
    rw [hlate]
    exact h.overtaken l₁ entry l₂ (hinserted ▸ hsplit)

omit [Fintype τ] in
/-- A place that is not in front of the cache is on neither side of the invariant. -/
lemma numbered_update {place : Place} (hfrom : ∀ id data, s.place t ≠ .numbered id data)
    (hto : ∀ id data, place ≠ .numbered id data) (u : τ) (id : ℕ) (data : Payload) :
    Function.update s.place t place u = .numbered id data ↔ s.place u = .numbered id data := by
  by_cases hu : u = t
  · rw [hu, Function.update_self]
    exact iff_of_false (hto id data) (hfrom id data)
  · rw [Function.update_of_ne hu]

lemma ne_numbered_of_held? {place : Place} (h : place.held? = none) (id : ℕ) (data : Payload) :
    place ≠ .numbered id data := by
  rintro rfl
  cases h

lemma caching_takeId (h : Caching numConns capacity s) (hid : s.lastSendMessageId = s.accepted.length)
    {data : Payload} (hplace : s.place t = .admitted data) :
    Caching numConns capacity { s with
      lastSendMessageId := (s.lastSendMessageId + 1) % uint64Size
      place := Function.update s.place t (.numbered s.lastSendMessageId data)
      accepted := s.accepted ++ [data] } := by
  refine ⟨h.holds, h.distinct, ?_, ?_, ?_, ?_⟩
  · intro entry hentry
    have hlt := h.taken entry hentry
    show entry.1 < (s.accepted ++ [data]).length
    rw [List.length_append]
    omega
  · intro u id d hu
    change Function.update s.place t (.numbered s.lastSendMessageId data) u = _ at hu
    by_cases hut : u = t
    · -- what is cached has smaller ids than the new one
      rw [hut, Function.update_self] at hu
      rw [← (Place.numbered.inj hu).1, hid]
      intro hmem
      obtain ⟨entry, hentry, heq⟩ := List.mem_map.mp hmem
      have hlt := h.taken entry hentry
      omega
    · rw [Function.update_of_ne hut] at hu
      exact h.uncached u id d hu
  · intro id d hd
    by_cases hlt : id < s.accepted.length
    · rw [List.getElem?_append_left hlt] at hd
      refine (h.complete id d hd).imp_right ?_
      rintro ⟨u, hu⟩
      refine ⟨u, ?_⟩
      show Function.update s.place t _ u = _
      rw [Function.update_of_ne, hu]
      rintro rfl
      rw [hplace] at hu
      cases hu
    · right
      refine ⟨t, ?_⟩
      show Function.update s.place t _ t = _
      have hbound := (List.getElem?_eq_some_iff.mp hd).1
      rw [List.length_append, List.length_singleton] at hbound
      have hnew : id = s.accepted.length := by omega
      rw [hnew, List.getElem?_append_right (le_refl _), Nat.sub_self] at hd
      rw [Function.update_self, hid, hnew, Option.some.inj hd]
  · intro l₁ entry l₂ hsplit
    have hentry : entry ∈ s.inserted := by
      have hmem : entry ∈ l₁ ++ entry :: l₂ := by simp
      rw [← hsplit] at hmem
      exact hmem
    have hlt := h.taken entry hentry
    have hlate : late (Function.update s.place t (.numbered s.lastSendMessageId data)) entry.1
        = late s.place entry.1 := by
      ext u
      rw [late, late, Finset.mem_filter, Finset.mem_filter]
      by_cases hut : u = t
      · rw [hut, Function.update_self, hplace, Place.lateFor, Place.lateFor, hid]
        simp only [Finset.mem_univ, true_and, decide_eq_true_eq, Bool.false_eq_true, iff_false]
        omega
      · rw [Function.update_of_ne hut]
    show _ + (late (Function.update s.place t _) entry.1).card < _
    rw [hlate]
    exact h.overtaken l₁ entry l₂ hsplit

/-- Once its packet is cached a call is not late. -/
lemma late_cached (place : τ → Place) (t : τ) (id : ℕ) (data : Payload) (j : ℕ) :
    late (Function.update place t (.cached id data)) j = (late place j).erase t := by
  ext u
  rw [Finset.mem_erase, late, late, Finset.mem_filter, Finset.mem_filter]
  by_cases hut : u = t
  · rw [hut, Function.update_self]
    simp [Place.lateFor]
  · rw [Function.update_of_ne hut]
    simp [hut]

lemma caching_insert (h : Caching numConns capacity s) (hn : Accounted s) {id : ℕ} {data : Payload}
    (hplace : s.place t = .numbered id data) :
    Caching numConns capacity { s with
      sentDataCache := s.sentDataCache.insert id (packet id data)
      place := Function.update s.place t (.cached id data)
      inserted := s.inserted ++ [(id, packet id data)] } := by
  have hmine : (s.place t).held? = some (id, data) := by rw [hplace]; rfl
  have hget := hn.held t id data hmine
  have hnew := h.uncached t id data hplace
  have hdistinct : ((s.inserted ++ [(id, packet id data)]).map Prod.fst).Nodup := by
    rw [List.map_append, List.nodup_append]
    refine ⟨h.distinct, List.nodup_singleton _, ?_⟩
    rintro i hi _ hmem rfl
    rw [List.mem_singleton.mp hmem] at hi
    exact hnew hi
  refine ⟨h.holds.insert (packet id data) hdistinct, hdistinct, ?_, ?_, ?_, ?_⟩
  · intro entry hentry
    rcases List.mem_append.mp hentry with hold | hlast
    · exact h.taken entry hold
    · rw [List.mem_singleton.mp hlast]
      exact (List.getElem?_eq_some_iff.mp hget).1
  · intro u id' d hu
    change Function.update s.place t (.cached id data) u = _ at hu
    by_cases hut : u = t
    · rw [hut, Function.update_self] at hu
      cases hu
    · rw [Function.update_of_ne hut] at hu
      rw [List.map_append, List.mem_append, not_or]
      refine ⟨h.uncached u id' d hu, ?_⟩
      intro hsame
      rw [List.map_singleton, List.mem_singleton] at hsame
      rw [hsame] at hu
      exact hut (hn.unique u t id ⟨d, by rw [hu]; rfl⟩ ⟨data, hmine⟩)
  · intro id' d hd
    rcases h.complete id' d hd with hold | ⟨u, hu⟩
    · exact Or.inl (List.mem_append_left _ hold)
    · by_cases hut : u = t
      · rw [hut, hplace] at hu
        obtain ⟨rfl, rfl⟩ := Place.numbered.inj hu
        exact Or.inl (List.mem_append_right _ (List.mem_singleton_self _))
      · refine Or.inr ⟨u, ?_⟩
        show Function.update s.place t _ u = _
        rw [Function.update_of_ne hut, hu]
  · intro l₁ entry l₂ hsplit
    show _ + (late (Function.update s.place t (.cached id data)) entry.1).card < _
    rw [late_cached]
    rcases List.eq_nil_or_concat' l₂ with rfl | ⟨later, last, rfl⟩
    · -- the entry is the new one, and its own thread is not late
      rw [List.countP_nil, Nat.zero_add]
      refine Finset.card_lt_univ_of_notMem (x := t) ?_
      exact Finset.notMem_erase t _
    · rw [← List.cons_append, ← List.append_assoc] at hsplit
      obtain ⟨hfront, hlast⟩ := List.append_inj' hsplit rfl
      have hbound := h.overtaken l₁ entry later hfront
      rw [← (List.cons.inj hlast).1, List.countP_append, List.countP_singleton]
      by_cases hlt : id < entry.1
      · -- one of the late threads has cached its packet
        have hmem : t ∈ late s.place entry.1 := by
          rw [late, Finset.mem_filter, hplace]
          exact ⟨Finset.mem_univ t, by simpa [Place.lateFor] using hlt⟩
        have hcard := Finset.card_erase_add_one hmem
        rw [if_pos (by simpa using hlt)]
        omega
      · have hle := Finset.card_le_card (Finset.erase_subset t (late s.place entry.1))
        rw [if_neg (by simpa using hlt)]
        omega

lemma caching_step (h : Caching numConns capacity s) (hn : Numbered s) (e : Event τ)
    (hwrap : (s.step e).accepted.length ≤ uint64Size) (hclear : e ≠ .clear) :
    Caching numConns capacity (s.step e) := by
  have hmove := step_cases s e
  generalize s.step e = s' at hwrap hmove ⊢
  cases hmove with
  | stay => exact h
  | moveTo t place hfrom hto =>
    exact h.congr rfl rfl rfl
      (numbered_update (ne_numbered_of_held? hfrom) (ne_numbered_of_held? hto))
  | takeId t data hplace =>
    refine caching_takeId h ?_ hplace
    rw [List.length_append, List.length_singleton] at hwrap
    rw [hn.lastSendMessageId, Nat.mod_eq_of_lt (by omega)]
  | insert t id data hplace => exact caching_insert h hn.toAccounted hplace
  | enqueue t id data hplace =>
    refine h.congr rfl rfl rfl (numbered_update ?_ ?_)
    · intro i d hd
      rw [hplace] at hd
      cases hd
    · intro i d hd
      cases hd
  | notify ids => exact h.congr rfl rfl rfl fun _ _ _ => Iff.rfl
  | dequeue pkt queue hqueue => exact h.congr rfl rfl rfl fun _ _ _ => Iff.rfl
  | close => exact h.congr rfl rfl rfl fun _ _ _ => Iff.rfl
  | clear he => exact absurd he hclear

omit [DecidableEq τ] in
lemma caching_opening (numConns capacity : ℕ) :
    Caching numConns capacity (opening numConns capacity : SendCalls τ) := by
  refine ⟨SentDataCache.holds_init numConns capacity, List.nodup_nil, ?_, ?_, ?_, ?_⟩
  · intro entry hentry
    cases hentry
  · intro t id data h
    cases h
  · intro id data h
    cases h
  · intro l₁ entry l₂ h
    exact absurd h.symm (by simp [opening])

theorem caching_stateAt {events : ℕ → Event τ} {n : ℕ}
    (hwrap : (stateAt numConns capacity events n).accepted.length ≤ uint64Size)
    (hclear : ∀ m < n, events m ≠ .clear) :
    Caching numConns capacity (stateAt numConns capacity events n) := by
  induction n with
  | zero => exact caching_opening numConns capacity
  | succ n ih =>
    have hbefore := le_trans (accepted_length_step _ (events n)) hwrap
    exact caching_step (ih hbefore fun m hm => hclear m (Nat.lt_succ_of_lt hm))
      (numbered_stateAt hbefore) (events n) hwrap (hclear n (Nat.lt_succ_self n))

omit [DecidableEq τ] in
/-- Behind an entry of a shard are the larger ids of its class and those that came late. -/
lemma Caching.length_behind (h : Caching numConns capacity s) (hpos : 0 < numConns)
    {l₁ l₂ : List (ℕ × Packet)} {entry : ℕ × Packet} (hsplit : s.inserted = l₁ ++ entry :: l₂) :
    (SentDataCache.shardLog numConns l₂ (entry.1 % numConns)).length
      < (s.accepted.length - 1 - entry.1) / numConns + Fintype.card τ := by
  have hovertaken := h.overtaken l₁ entry l₂ hsplit
  have hsub : ((l₂.map Prod.fst).filter fun i => i % numConns = entry.1 % numConns ∧ entry.1 < i)
      ⊆ (List.range s.accepted.length).filter
        fun i => i % numConns = entry.1 % numConns ∧ entry.1 < i := by
    intro i hi
    obtain ⟨hmem, hlater⟩ := List.mem_filter.mp hi
    obtain ⟨later, hl₂, rfl⟩ := List.mem_map.mp hmem
    have hlt := h.taken later (by rw [hsplit]; simp [hl₂])
    exact List.mem_filter.mpr ⟨List.mem_range.mpr hlt, hlater⟩
  have hall := h.distinct
  rw [hsplit, List.map_append, List.map_cons] at hall
  obtain ⟨hfresh, hdistinct⟩ := List.nodup_cons.mp hall.of_append_right
  -- the larger ids of the class are distinct ids below the counter
  have hlarger := (hdistinct.filter _).length_le_of_subset hsub
  rw [length_later hpos, ← List.countP_eq_length_filter, List.countP_map] at hlarger
  have hparts : (SentDataCache.shardLog numConns l₂ (entry.1 % numConns)).length
      ≤ (l₂.countP fun later => decide (later.1 < entry.1))
        + l₂.countP ((fun i => decide (i % numConns = entry.1 % numConns ∧ entry.1 < i)) ∘ Prod.fst) := by
    rw [SentDataCache.shardLog, ← List.countP_eq_length_filter]
    refine countP_le_add fun later hlater hclass => ?_
    have hne : later.1 ≠ entry.1 := by
      intro heq
      refine hfresh ?_
      rw [← heq]
      exact List.mem_map_of_mem hlater
    rcases lt_or_gt_of_ne hne with hlt | hlt
    · exact Or.inl (by simpa using hlt)
    · exact Or.inr (by simpa using ⟨by simpa using hclass, hlt⟩)
  omega

theorem cached_while_recent (hpos : 0 < numConns) (events : ℕ → Event τ) (n : ℕ)
    (hwrap : (stateAt numConns capacity events n).accepted.length ≤ uint64Size)
    (hclear : ∀ m < n, events m ≠ .clear) {id : ℕ} {data : Payload}
    (hid : (stateAt numConns capacity events n).accepted[id]? = some data)
    (hcached : ∀ t, (stateAt numConns capacity events n).place t ≠ .numbered id data)
    (hrecent : ((stateAt numConns capacity events n).accepted.length - 1 - id) / numConns
      + Fintype.card τ ≤ capacity) :
    (stateAt numConns capacity events n).sentDataCache.find id = some (packet id data) := by
  have h := caching_stateAt hwrap hclear
  have hmem : (id, packet id data) ∈ (stateAt numConns capacity events n).inserted := by
    rcases h.complete id data hid with hmem | ⟨t, ht⟩
    · exact hmem
    · exact absurd ht (hcached t)
  obtain ⟨l₁, l₂, hsplit⟩ := List.append_of_mem hmem
  have hbehind := h.length_behind hpos hsplit
  rw [h.holds.find_eq_some_iff hpos, hsplit, SentDataCache.shardLog, List.filter_append,
    List.filter_cons_of_pos (by simp)]
  exact mem_rtake_append_cons _ _ (lt_of_lt_of_le hbehind hrecent)

/-- Of the two packets the smaller is cached last, and both are found. -/
theorem cached_while_recent_overtaking :
    (stateAt 1 2 (listInputs overtaking .close) 11).sentDataCache.find 1
      = some (packet 1 ⟨[2], by decide⟩) := by
  have hlength : (stateAt 1 2 (listInputs overtaking .close) 11).accepted.length = 2 := by rfl
  have hplace : ∀ t, (stateAt 1 2 (listInputs overtaking .close) 11).place t = .idle := by decide
  refine cached_while_recent (by decide) (listInputs overtaking .close) 11 ?_ (by decide) ?_ ?_ ?_
  · rw [hlength]
    decide
  · rfl
  · intro t ht
    rw [hplace t] at ht
    cases ht
  · rw [hlength]
    decide

end
end SendCalls
end TcpUdp
