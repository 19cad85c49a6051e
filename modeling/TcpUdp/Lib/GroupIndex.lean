import TcpUdp.Lib.SortedMap
import Mathlib.Data.List.Nodup

/-!
# A list and its groups

A map that holds, for every value of `f`, the elements of a list with that value, in their
order. A value without an entry has the empty group, so an entry for the empty list may be there
or not.
-/

namespace TcpUdp.Lib

variable {κ ι α : Type} [LinearOrder κ] {f : α → κ} {g : α → ι} {m : SortedMap κ (List α)}
  {l : List α}

/-- The group of `c`, which is empty when there is no entry. -/
def SortedMap.group (m : SortedMap κ (List α)) (c : κ) : List α := (m.find? c).getD []

/-- The map `m` groups the elements of `l` by `f`. -/
def Groups (f : α → κ) (m : SortedMap κ (List α)) (l : List α) : Prop :=
  ∀ c, m.group c = l.filter fun a => f a = c

/-! ## Erasing by a key -/

/-- Where keys do not repeat, erasing the first element with a key erases all of them. -/
lemma eraseP_eq_filter [DecidableEq ι] (h : (l.map g).Nodup) (k : ι) :
    (l.eraseP fun a => g a = k) = l.filter fun a => g a ≠ k := by
  induction l with
  | nil => rfl
  | cons a l ih =>
    rw [List.map_cons, List.nodup_cons] at h
    by_cases hk : g a = k
    · have hrest : ∀ b ∈ l, decide (g b ≠ k) = true := by
        intro b hb
        refine decide_eq_true fun hbk => h.1 ?_
        rw [hk, ← hbk]
        exact List.mem_map_of_mem hb
      rw [List.eraseP_cons_of_pos (by simpa using hk), List.filter_cons_of_neg (by simpa using hk),
        List.filter_eq_self.mpr hrest]
    · rw [List.eraseP_cons_of_neg (by simpa using hk), List.filter_cons_of_pos (by simpa using hk),
        ih h.2]

lemma nodup_map_filter (h : (l.map g).Nodup) (p : α → Bool) : ((l.filter p).map g).Nodup :=
  h.sublist (List.filter_sublist.map g)

/-- Where keys do not repeat, an element is known by its key. -/
lemma eq_of_key_eq (h : (l.map g).Nodup) {a b : α} (ha : a ∈ l) (hb : b ∈ l) (hk : g a = g b) :
    a = b :=
  List.inj_on_of_nodup_map h ha hb hk

/-! ## The operations -/

namespace Groups

lemma empty : Groups f SortedMap.empty [] := fun _ => rfl

lemma push (h : Groups f m l) (a : α) :
    Groups f (m.upsert (f a) fun as => as.getD [] ++ [a]) (l ++ [a]) := by
  intro c
  have hc := h c
  rw [SortedMap.group] at hc
  rw [SortedMap.group, SortedMap.find?_upsert, List.filter_append]
  split_ifs with heq
  · rw [heq] at hc
    rw [Option.getD_some, hc, heq, List.filter_singleton, decide_eq_true rfl]
    rfl
  · rw [hc, List.filter_singleton, decide_eq_false (Ne.symm heq)]
    exact (List.append_nil _).symm

/-- Reading a group may leave an empty entry. -/
lemma touch (h : Groups f m l) (c : κ) : Groups f (m.tryEmplace c []) l := by
  intro d
  have hd := h d
  rw [SortedMap.group] at hd
  rw [SortedMap.group, SortedMap.find?_tryEmplace]
  split_ifs with heq
  · rw [heq] at hd
    rw [Option.getD_some, hd, heq]
  · exact hd

lemma eraseEmpty (h : Groups f m l) {c : κ} (hc : m.group c = []) : Groups f (m.erase c) l := by
  intro d
  have hd := h d
  rw [SortedMap.group] at hd
  rw [SortedMap.group, SortedMap.find?_erase]
  split_ifs with heq
  · rw [← hd, heq]
    exact hc.symm
  · exact hd

/-- The element with a key is erased from the list and from its group. -/
lemma remove [DecidableEq ι] (h : Groups f m l) (hnodup : (l.map g).Nodup) {a : α} (ha : a ∈ l) :
    Groups f (m.insertOrAssign (f a) ((m.group (f a)).eraseP fun b => g b = g a))
      (l.eraseP fun b => g b = g a) := by
  intro c
  have hc := h c
  rw [eraseP_eq_filter hnodup, List.filter_comm, SortedMap.group,
    SortedMap.find?_insertOrAssign]
  split_ifs with heq
  · rw [Option.getD_some, h (f a), eraseP_eq_filter (nodup_map_filter hnodup _), heq]
  · -- no other group holds an element with that key
    rw [SortedMap.group] at hc
    rw [hc]
    symm
    rw [List.filter_eq_self]
    intro b hb
    obtain ⟨hbl, hbc⟩ := List.mem_filter.mp hb
    refine decide_eq_true fun hk => heq ?_
    rw [← eq_of_key_eq hnodup hbl ha hk]
    exact (of_decide_eq_true hbc).symm

end Groups

end TcpUdp.Lib
