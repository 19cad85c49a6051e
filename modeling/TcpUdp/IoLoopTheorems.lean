import TcpUdp.IoLoop

/-!
# Whose bytes a buffer holds

The bytes of a slot's buffer come from the connection that the slot had at its last visit,
as long as no visit takes one connection for another (`parsesOwnBytes_stateAt`). The
descriptor number does not tell connections apart: `parses_stale_bytes` is a run in which
the replacement got the number that its predecessor gave back.
-/

namespace TcpUdp
namespace IoLoop

open Lib

variable {s : IoLoop}

/-! ## What other threads leave alone -/

/-- The loop's copy, and the number of slots. -/
def SameForLoop (os os' : Descriptors) : Prop :=
  os'.ioSnapshot = os.ioSnapshot ∧ os'.ioConnections.length = os.ioConnections.length

lemma sameForLoop_callDisconnect (os : Descriptors) (k : ℕ) (c : ConnId) :
    SameForLoop os (os.callDisconnect k c) := by
  rw [Descriptors.callDisconnect]
  split_ifs <;> exact ⟨rfl, rfl⟩

lemma sameForLoop_disconnectStep (os : Descriptors) (k : ℕ) :
    SameForLoop os (os.disconnectStep k) := by
  rw [Descriptors.disconnectStep]
  split <;> (try split_ifs) <;> exact ⟨rfl, rfl⟩

lemma sameForLoop_step (os : Descriptors) {e : Descriptors.Event} (h : ofIoThread e = false) :
    SameForLoop os (Descriptors.step os e) := by
  cases e with
  | openSocket fd => simp only [Descriptors.step]; split_ifs <;> exact ⟨rfl, rfl⟩
  | closeSocket fd => simp only [Descriptors.step]; split_ifs <;> exact ⟨rfl, rfl⟩
  | callDisconnect k c => exact sameForLoop_callDisconnect os k c
  | disconnect k => exact sameForLoop_disconnectStep os k
  | callReplace k slotIndex newFd =>
    simp only [Descriptors.step, Descriptors.callReplace]
    split_ifs <;> exact ⟨rfl, rfl⟩
  | replace k hasThread =>
    simp only [Descriptors.step, Descriptors.replaceStep]
    split <;> (try split_ifs) <;>
      first | exact ⟨rfl, rfl⟩ | exact ⟨rfl, List.length_set⟩
  | callGetDeadSlots k =>
    simp only [Descriptors.step, Descriptors.callGetDeadSlots]
    split_ifs <;> exact ⟨rfl, rfl⟩
  | getDeadSlots k =>
    simp only [Descriptors.step, Descriptors.getDeadSlotsStep]
    split <;> (try split) <;> exact ⟨rfl, rfl⟩
  | takeCopy k c => simp only [Descriptors.step]; split_ifs <;> exact ⟨rfl, rfl⟩
  | dropCopy k => exact ⟨rfl, rfl⟩
  | refreshSnapshot => cases h
  | destroy c =>
    simp only [Descriptors.step, Descriptors.destroy]
    split_ifs <;> exact ⟨rfl, rfl⟩

/-! ## A slot -/

namespace Slot

/-- The bytes are of the connection of the last visit, and a slot without a descriptor has
none. -/
structure Ok (slot : Slot) : Prop where
  wf : slot.readBuffer.Wf
  length : slot.origins.length = slot.readBuffer.available
  origin : ∀ owner ∈ slot.origins, ∃ c, slot.prevConn = some c ∧ owner = .conn c
  noFd : slot.prevFd = -1 → slot.origins = []
  polled : slot.pollFd = slot.prevFd

lemma ok_empty : Ok {} := ⟨ReadBuffer.wf_empty, rfl, nofun, fun _ => rfl, rfl⟩

variable {slot : Slot}

lemma Ok.visit (h : slot.Ok) {currFd : SocketFd} {conn : Option ConnId}
    (hkeeps : currFd = slot.prevFd → currFd ≠ -1 →
      conn = slot.prevConn ∨ slot.readBuffer.available = 0) : (slot.visit currFd conn).Ok := by
  rw [Slot.visit]
  split_ifs with hfd
  · exact ⟨ReadBuffer.wf_empty, rfl, nofun, fun _ => rfl, rfl⟩
  · have hfd := not_not.mp hfd
    refine ⟨h.wf, h.length, fun owner howner => ?_, fun hneg => h.noFd (hfd ▸ hneg), rfl⟩
    by_cases hneg : currFd = -1
    · rw [h.noFd (hfd ▸ hneg)] at howner
      cases howner
    · rcases hkeeps hfd hneg with hconn | hempty
      · rw [hconn]
        exact h.origin owner howner
      · rw [List.eq_nil_of_length_eq_zero (h.length.trans hempty)] at howner
        cases howner

lemma Ok.receive (h : slot.Ok) {c : ConnId} (hconn : slot.prevConn = some c)
    (hfd : slot.prevFd ≠ -1) (chunk : List UInt8) : (slot.receive (.conn c) chunk).Ok where
  wf := ReadBuffer.wf_append h.wf chunk
  length := by
    rw [Slot.receive, ← ReadBuffer.length_begin, ReadBuffer.begin_append h.wf, List.length_append,
      List.length_append, List.length_replicate, h.length, ReadBuffer.length_begin]
  origin owner howner := by
    rcases List.mem_append.mp howner with howner | howner
    · exact h.origin owner howner
    · exact ⟨c, hconn, List.eq_of_mem_replicate howner⟩
  noFd hneg := absurd hneg hfd
  polled := h.polled

lemma Ok.parse (h : slot.Ok) : slot.parse.Ok where
  wf := wf_parsePackets _ h.wf
  length := by
    have hle := available_parsePackets_le slot.readBuffer.available slot.readBuffer
    rw [Slot.parse, List.length_drop, h.length]
    dsimp only
    omega
  origin owner howner := h.origin owner (List.mem_of_mem_drop howner)
  noFd hneg := by
    rw [Slot.parse, h.noFd hneg, List.drop_nil]
  polled := h.polled

end Slot

/-! ## The loop -/

namespace LoopPc

/-- How many of the `numConns` slots have been visited since the vector was copied. -/
def visited (numConns : ℕ) : LoopPc → ℕ
  | loopHead | refreshing _ | stopped => 0
  | visiting i => i
  | _ => numConns

/-- The slot whose socket is being read. -/
def reading? : LoopPc → Option ℕ
  | receiving i | receivingFrom i _ | parsing i => some i
  | _ => none

lemma visited_of_reading {pc : LoopPc} {i : ℕ} (h : pc.reading? = some i) (numConns : ℕ) :
    pc.visited numConns = numConns := by
  cases pc <;> first | rfl | cases h

end LoopPc

structure Inv (s : IoLoop) : Prop where
  slots : ∀ i, (s.slots i).Ok
  visited : ∀ i < s.pc.visited s.numConns, (s.slots i).prevConn = s.conn? i
  reading : ∀ i, s.pc.reading? = some i →
    i < s.numConns ∧ (s.slots i).prevFd ≠ -1 ∧ ∃ c, s.conn? i = some c

lemma inv_init (sockets : Descriptors.OpenSockets) : Inv { os := Descriptors.init sockets } :=
  ⟨fun _ => Slot.ok_empty, fun _ h => absurd h (Nat.not_lt_zero _), fun _ h => by cases h⟩

/-- The state of the other threads changes, but not what the loop reads of it here. -/
lemma Inv.other (hs : Inv s) {os : Descriptors} (hsame : SameForLoop s.os os) :
    Inv { s with os := os } where
  slots := hs.slots
  visited i h := by
    rw [conn?, hsame.1]
    rw [numConns, hsame.2] at h
    exact hs.visited i h
  reading i h := by
    rw [numConns, hsame.2, conn?, hsame.1]
    exact hs.reading i h

/-- The loop goes to a place where not more is claimed. -/
lemma Inv.goto (hs : Inv s) {pc : LoopPc}
    (hvisited : pc.visited s.numConns ≤ s.pc.visited s.numConns)
    (hreading : ∀ i, pc.reading? = some i → s.pc.reading? = some i) : Inv (s.goto pc) :=
  ⟨hs.slots, fun i h => hs.visited i (lt_of_lt_of_le h hvisited),
    fun i h => hs.reading i (hreading i h)⟩

lemma inv_visit (hs : Inv s) {i : ℕ} (hpc : s.pc = .visiting i) (hkeeps : s.KeepsConnection i) :
    Inv ((s.setSlot i fun slot => slot.visit (s.currFd i) (s.conn? i)).goto (.visiting (i + 1))) := by
  refine ⟨fun j => ?_, fun j hj => ?_, fun j hj => by cases hj⟩
  · show (Function.update s.slots i _ j).Ok
    rw [Function.update_apply]
    split_ifs with h
    · exact (hs.slots i).visit hkeeps
    · exact hs.slots j
  · show (Function.update s.slots i _ j).prevConn = s.conn? j
    rw [Function.update_apply]
    split_ifs with h
    · rw [h]
      rfl
    · apply hs.visited j
      rw [hpc]
      exact Nat.lt_of_le_of_ne (Nat.le_of_lt_succ hj) h

/-- Changing the slot that is being read, at the same connection. -/
lemma Inv.setReading (hs : Inv s) {i : ℕ} {f : Slot → Slot} {pc : LoopPc}
    (hok : (f (s.slots i)).Ok) (hconn : (f (s.slots i)).prevConn = (s.slots i).prevConn)
    (hfd : (f (s.slots i)).prevFd = (s.slots i).prevFd)
    (hvisited : pc.visited s.numConns ≤ s.pc.visited s.numConns)
    (hreading : ∀ j, pc.reading? = some j → s.pc.reading? = some j) :
    Inv ((s.setSlot i f).goto pc) := by
  have hslot : ∀ j, (Function.update s.slots i (f (s.slots i)) j).prevConn = (s.slots j).prevConn
      ∧ (Function.update s.slots i (f (s.slots i)) j).prevFd = (s.slots j).prevFd := by
    intro j
    rw [Function.update_apply]
    split_ifs with h
    · rw [h]
      exact ⟨hconn, hfd⟩
    · exact ⟨rfl, rfl⟩
  refine ⟨fun j => ?_, fun j hj => (hslot j).1.trans (hs.visited j (lt_of_lt_of_le hj hvisited)),
    fun j hj => ?_⟩
  · show (Function.update s.slots i _ j).Ok
    rw [Function.update_apply]
    split_ifs
    · exact hok
    · exact hs.slots j
  · obtain ⟨hlt, hne, hc⟩ := hs.reading j (hreading j hj)
    exact ⟨hlt, fun h => hne ((hslot j).2.symm.trans h), hc⟩

lemma inv_receive (hs : Inv s) {i : ℕ} {fd : SocketFd} (hpc : s.pc = .receivingFrom i fd)
    {result : RecvResult} (hown : result.isBytes → s.ReceivesOwn i fd) :
    Inv (s.receive i fd result) := by
  have hi : s.pc.reading? = some i := by rw [hpc]; rfl
  have hall := LoopPc.visited_of_reading hi s.numConns
  obtain ⟨hlt, hfd, c, hc⟩ := hs.reading i hi
  rw [receive]
  split
  · exact hs.goto hall.ge nofun
  · rename_i owner howner
    split
    · rename_i chunk
      have hsame : owner = .conn c := by
        have h := hown rfl
        rw [ReceivesOwn, howner, hc] at h
        rcases h with h | h
        · cases h
        · exact Option.some.inj h
      have hconn : (s.slots i).prevConn = some c := (hs.visited i (hall.symm ▸ hlt)).trans hc
      rw [hsame]
      exact hs.setReading ((hs.slots i).receive hconn hfd chunk) rfl rfl hall.ge
        fun j hj => by cases hj; exact hi
    · exact hs.goto hall.ge nofun
    · exact hs.goto hall.ge nofun
    all_goals exact hs.goto hall.ge fun j hj => by cases hj; exact hi

lemma inv_disconnect (hs : Inv s) {i : ℕ} {called : Bool} (hpc : s.pc = .disconnecting i called) :
    Inv (s.disconnect i called) := by
  have hall : s.numConns ≤ s.pc.visited s.numConns := by rw [hpc]; exact le_rfl
  unfold disconnect
  split
  · rename_i c _
    refine (hs.other (sameForLoop_callDisconnect s.os 0 c)).goto ?_ nofun
    show _ ≤ LoopPc.visited _ s.pc
    rw [hpc]
    exact le_rfl
  · exact hs.goto hall nofun
  · split_ifs
    · exact hs.goto hall nofun
    · exact hs.other (sameForLoop_disconnectStep s.os 0)

lemma inv_serve (hs : Inv s) {i : ℕ} (hpc : s.pc = .serving i) (hlt : i < s.numConns)
    (hfd : (s.slots i).pollFd ≠ -1) : Inv (s.callRead i) := by
  have hall : s.pc.visited s.numConns = s.numConns := by rw [hpc]; rfl
  rw [callRead]
  split
  · rename_i c hc
    refine ⟨hs.slots, fun j hj => hs.visited j ?_, fun j hj => ?_⟩
    · rw [hall]
      simp only [goto] at hj
      split_ifs at hj <;> exact hj
    · simp only [goto] at hj
      split_ifs at hj <;> cases hj
      exact ⟨hlt, fun h => hfd ((hs.slots i).polled.trans h), c, hc⟩
  · exact hs.goto hall.ge nofun

lemma inv_ioStep (hs : Inv s) {answer : Answer} (h : s.KeepsStreams (.io answer)) :
    Inv (s.ioStep answer) := by
  obtain ⟨hvisit, hreceive⟩ := h answer rfl
  rw [ioStep]
  split
  · split_ifs <;> exact hs.goto (Nat.zero_le _) nofun
  · -- the new copy: no slot is visited yet
    exact ⟨hs.slots, fun i hi => absurd hi (Nat.not_lt_zero i), fun i hi => by cases hi⟩
  · rename_i i hpc
    split_ifs with hlt
    · exact inv_visit hs hpc (hvisit i (by rw [hpc]; rfl) hlt)
    · exact hs.goto (by rw [hpc]; exact Nat.le_of_not_lt hlt) nofun
  · rename_i hpc
    split_ifs
    · exact hs.goto (Nat.zero_le _) nofun
    · exact ⟨hs.slots, fun i hi => hs.visited i (by rw [hpc]; exact hi), fun i hi => by cases hi⟩
  · rename_i i hpc
    split_ifs with hlt hskip
    · exact hs.goto (by rw [hpc]; exact le_rfl) nofun
    · exact inv_serve hs hpc hlt (not_or.mp hskip).1
    · exact hs.goto (Nat.zero_le _) nofun
  · rename_i i hpc
    have hgoto : ∀ {pc : LoopPc}, pc.visited s.numConns ≤ s.numConns → pc.reading? = some i →
        Inv (s.goto pc) := fun hv hr => hs.goto (by rw [hpc]; exact hv)
      fun j hj => by rw [hpc]; exact hr.symm.trans hj
    split_ifs
    · split <;> exact hgoto le_rfl rfl
    · exact hgoto le_rfl rfl
  · rename_i i fd hpc
    exact inv_receive hs hpc (hreceive (i, fd) (by rw [hpc]; rfl))
  · rename_i i hpc
    exact hs.setReading (hs.slots i).parse rfl rfl (by rw [hpc]; exact le_rfl) nofun
  · rename_i i called hpc
    exact inv_disconnect hs hpc
  · rename_i i hpc
    split_ifs
    · exact hs.goto (by rw [hpc]; exact le_rfl) nofun
    · exact hs.goto (Nat.zero_le _) nofun
  · exact hs

lemma inv_step (hs : Inv s) {e : Event} (h : s.KeepsStreams e) : Inv (step s e) := by
  cases e with
  | io answer => exact inv_ioStep hs h
  | other e =>
    simp only [step]
    split_ifs with he
    · exact hs
    · exact hs.other (sameForLoop_step s.os (Bool.not_eq_true _ ▸ he))
  | stop => exact ⟨hs.slots, hs.visited, hs.reading⟩

lemma Inv.parsesOwnBytes (hs : Inv s) : s.ParsesOwnBytes := by
  intro i c hpc hc owner howner
  have hi : s.pc.reading? = some i := by rw [hpc]; rfl
  obtain ⟨c', hc', rfl⟩ := (hs.slots i).origin owner howner
  have hlt := (hs.reading i hi).1
  rw [hs.visited i ((LoopPc.visited_of_reading hi _).symm ▸ hlt), hc] at hc'
  rw [Option.some.inj hc']

/-- If no step takes one stream for another, every byte that is parsed for a connection was
received from it. -/
theorem parsesOwnBytes_stateAt (sockets : Descriptors.OpenSockets) (events : ℕ → Event) (n : ℕ)
    (hsteps : ∀ m < n, (stateAt sockets events m).KeepsStreams (events m)) :
    (stateAt sockets events n).ParsesOwnBytes := by
  have hinv : Inv (stateAt sockets events n) :=
    runState_invariant_of_steps (inv_init sockets) (fun _ _ h hs => inv_step hs h) hsteps
  exact hinv.parsesOwnBytes

/-! ## A descriptor number that comes back -/

def oneSocket : Descriptors.OpenSockets := ⟨[5], by decide, by decide⟩

/-- The given events; after them the IO thread is told to stop. -/
def script (events : List Event) (n : ℕ) : Event := events.getD n .stop

/-- `k` steps of the IO thread; slot 0 is ready, and there is nothing to receive. -/
def steps (k : ℕ) : List Event := List.replicate k (.io { ready := [0] })

/-- The IO thread receives the first byte of a packet and keeps it. -/
def firstByte : List Event := steps 7 ++ [.io { recv := .bytes [0] }] ++ steps 5

/-- The other byte comes on the same connection. -/
def sameStream : ℕ → Event := script (firstByte ++ steps 6 ++ [.io { recv := .bytes [1] }] ++ steps 2)

theorem parsesOwnBytes_sameStream :
    (stateAt oneSocket sameStream 22).pc = .parsing 0
      ∧ (stateAt oneSocket sameStream 22).ParsesOwnBytes :=
  ⟨by decide, parsesOwnBytes_stateAt oneSocket sameStream 22 (by decide)⟩

/-- The send thread disconnects connection 0, and a new socket gets its number and takes
its slot, all before the IO thread looks at the slot again. -/
def replacedStream : ℕ → Event := script (firstByte
  ++ [.other (.callDisconnect 1 0)] ++ List.replicate 6 (.other (.disconnect 1))
  ++ [.other (.openSocket 5), .other (.callReplace 0 0 5)]
  ++ List.replicate 3 (.other (.replace 0 true))
  ++ steps 7 ++ [.io { recv := .bytes [1] }] ++ steps 2)

/-- The byte kept from the old connection is parsed as the beginning of the new stream. -/
theorem parses_stale_bytes :
    ¬ ∀ (sockets : Descriptors.OpenSockets) (events : ℕ → Event) (n : ℕ),
      (stateAt sockets events n).ParsesOwnBytes := by
  intro h
  exact absurd (h oneSocket replacedStream 35 0 1 (by decide) (by decide) (.conn 0) (by decide))
    (by decide)

end IoLoop
end TcpUdp
