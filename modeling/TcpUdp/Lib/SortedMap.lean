import Mathlib.Order.Lattice
import Mathlib.Data.List.Basic
import Mathlib.Data.List.Pairwise

/-!
# Finite maps ordered by key

An association list whose keys increase strictly, with the operations of an ordered
map: look-up, in-place update, erasure, iteration in key order. The order of the keys
is part of the value, so a map with a repeated key cannot be built.

Everything is reduced to membership: `find?_eq_some_iff` turns a look-up into
`(k, v) ∈ m.entries`, and `find?_upsert`, `find?_erase`, `find?_retain` say what each
operation does to every key.
-/

namespace TcpUdp.Lib

/-- A finite map from `κ` to `α`, its entries in strictly increasing key order. -/
structure SortedMap (κ α : Type) [LT κ] where
  entries : List (κ × α)
  sorted : entries.Pairwise fun a b => a.1 < b.1
  deriving DecidableEq

namespace SortedMap

variable {κ α : Type} [LinearOrder κ]

/-! ## Operations -/

def empty : SortedMap κ α := ⟨[], List.Pairwise.nil⟩

def keys (m : SortedMap κ α) : List κ := m.entries.map Prod.fst

def size (m : SortedMap κ α) : ℕ := m.entries.length

def find? (m : SortedMap κ α) (k : κ) : Option α :=
  (m.entries.find? fun e => e.1 = k).map Prod.snd

/-- The entry list with the value at `k` replaced by `f` of what was there. -/
def upsertList (k : κ) (f : Option α → α) : List (κ × α) → List (κ × α)
  | [] => [(k, f none)]
  | e :: es =>
    if k < e.1 then (k, f none) :: e :: es
    else if k = e.1 then (k, f (some e.2)) :: es
    else e :: upsertList k f es

lemma mem_upsertList_key {k : κ} {f : Option α → α} {l : List (κ × α)} {e : κ × α}
    (h : e ∈ upsertList k f l) : e.1 = k ∨ e ∈ l := by
  induction l with
  | nil =>
    rw [upsertList, List.mem_singleton] at h
    exact Or.inl (by rw [h])
  | cons x xs ih =>
    rw [upsertList] at h
    split_ifs at h with hlt heq
    · rcases List.mem_cons.mp h with h | h
      · exact Or.inl (by rw [h])
      · exact Or.inr h
    · rcases List.mem_cons.mp h with h | h
      · exact Or.inl (by rw [h])
      · exact Or.inr (List.mem_cons_of_mem _ h)
    · rcases List.mem_cons.mp h with h | h
      · exact Or.inr (h ▸ List.mem_cons_self)
      · exact (ih h).imp_right (List.mem_cons_of_mem _)

lemma sorted_upsertList (k : κ) (f : Option α → α) {l : List (κ × α)}
    (h : l.Pairwise fun a b => a.1 < b.1) :
    (upsertList k f l).Pairwise fun a b => a.1 < b.1 := by
  induction l with
  | nil => exact List.pairwise_singleton _ _
  | cons x xs ih =>
    obtain ⟨hx, hxs⟩ := List.pairwise_cons.mp h
    rw [upsertList]
    split_ifs with hlt heq
    · refine List.pairwise_cons.mpr ⟨fun e he => ?_, h⟩
      rcases List.mem_cons.mp he with he | he
      · exact he ▸ hlt
      · exact lt_trans hlt (hx e he)
    · exact List.pairwise_cons.mpr ⟨fun e he => heq ▸ hx e he, hxs⟩
    · refine List.pairwise_cons.mpr ⟨fun e he => ?_, ih hxs⟩
      rcases mem_upsertList_key he with he | he
      · exact he ▸ lt_of_le_of_ne (not_lt.mp hlt) (Ne.symm heq)
      · exact hx e he

/-- Replace the value at `k` by `f` of the value there, `none` when `k` is absent. -/
def upsert (m : SortedMap κ α) (k : κ) (f : Option α → α) : SortedMap κ α :=
  ⟨upsertList k f m.entries, sorted_upsertList k f m.sorted⟩

/-- Insert unless the key is present: an entry that exists keeps its value. -/
def tryEmplace (m : SortedMap κ α) (k : κ) (v : α) : SortedMap κ α :=
  m.upsert k fun old => old.getD v

/-- Insert, overwriting the value of a key that is present. -/
def insertOrAssign (m : SortedMap κ α) (k : κ) (v : α) : SortedMap κ α :=
  m.upsert k fun _ => v

/-- Keep the entries that satisfy `p`. -/
def retain (m : SortedMap κ α) (p : κ → α → Bool) : SortedMap κ α :=
  ⟨m.entries.filter fun e => p e.1 e.2, m.sorted.filter _⟩

def erase (m : SortedMap κ α) (k : κ) : SortedMap κ α := m.retain fun j _ => j ≠ k

/-! ## Look-up as membership -/

lemma eq_of_mem_of_fst_eq (m : SortedMap κ α) {a b : κ × α} (ha : a ∈ m.entries)
    (hb : b ∈ m.entries) (hab : a.1 = b.1) : a = b := by
  by_contra hne
  have hdistinct : m.entries.Pairwise fun a b => a.1 ≠ b.1 := m.sorted.imp fun h => ne_of_lt h
  have : Std.Symm fun a b : κ × α => a.1 ≠ b.1 := ⟨fun _ _ h => Ne.symm h⟩
  exact hdistinct.forall ha hb hne hab

lemma find?_eq_some_iff (m : SortedMap κ α) {k : κ} {v : α} :
    m.find? k = some v ↔ (k, v) ∈ m.entries := by
  rw [find?, Option.map_eq_some_iff]
  constructor
  · rintro ⟨⟨j, w⟩, hfind, rfl⟩
    have hj : j = k := by simpa using List.find?_some hfind
    exact hj ▸ List.mem_of_find?_eq_some hfind
  · intro hmem
    obtain ⟨e, he⟩ : ∃ e, m.entries.find? (fun e => e.1 = k) = some e := by
      rw [← Option.isSome_iff_exists, List.find?_isSome]
      exact ⟨(k, v), hmem, by simp⟩
    have hek : e.1 = k := by simpa using List.find?_some he
    have := m.eq_of_mem_of_fst_eq (List.mem_of_find?_eq_some he) hmem hek
    exact ⟨e, he, by rw [this]⟩

lemma mem_keys_iff (m : SortedMap κ α) {k : κ} : k ∈ m.keys ↔ ∃ v, m.find? k = some v := by
  simp only [keys, List.mem_map, find?_eq_some_iff, Prod.exists, exists_and_right,
    exists_eq_right]

lemma find?_eq_none_iff (m : SortedMap κ α) {k : κ} : m.find? k = none ↔ k ∉ m.keys := by
  rw [mem_keys_iff, Option.eq_none_iff_forall_not_mem]
  exact not_exists.symm

/-! ## What each operation does to every key -/

lemma mem_upsertList_iff {k : κ} {f : Option α → α} {l : List (κ × α)}
    (hl : l.Pairwise fun a b => a.1 < b.1) {j : κ} {v : α} (hjk : j ≠ k) :
    (j, v) ∈ upsertList k f l ↔ (j, v) ∈ l := by
  induction l with
  | nil => simp [upsertList, hjk]
  | cons x xs ih =>
    rw [upsertList]
    split_ifs with hlt heq
    · simp [hjk]
    · have hx : (j, v) ≠ x := fun h => hjk (by rw [heq, ← h])
      simp [hjk, hx]
    · rw [List.mem_cons, List.mem_cons, ih (List.pairwise_cons.mp hl).2]

lemma mem_upsertList_self {k : κ} {f : Option α → α} {l : List (κ × α)}
    (hl : l.Pairwise fun a b => a.1 < b.1) :
    (k, f ((l.find? fun e => e.1 = k).map Prod.snd)) ∈ upsertList k f l := by
  induction l with
  | nil => simp [upsertList]
  | cons x xs ih =>
    rw [upsertList]
    split_ifs with hlt heq
    · have hnone : (x :: xs).find? (fun e => e.1 = k) = none := by
        rw [List.find?_eq_none]
        intro e he
        have : k < e.1 := by
          rcases List.mem_cons.mp he with he | he
          · exact he ▸ hlt
          · exact lt_trans hlt ((List.pairwise_cons.mp hl).1 e he)
        simpa using ne_of_gt this
      rw [hnone]
      exact List.mem_cons_self
    · rw [List.find?_cons_of_pos (by simp [heq])]
      exact List.mem_cons_self
    · rw [List.find?_cons_of_neg (by simpa using Ne.symm heq)]
      exact List.mem_cons_of_mem _ (ih (List.pairwise_cons.mp hl).2)

lemma find?_upsert (m : SortedMap κ α) (k j : κ) (f : Option α → α) :
    (m.upsert k f).find? j = if j = k then some (f (m.find? k)) else m.find? j := by
  split_ifs with hjk
  · rw [hjk, find?_eq_some_iff]
    exact mem_upsertList_self m.sorted
  · refine Option.ext fun v => ?_
    rw [find?_eq_some_iff, find?_eq_some_iff]
    exact mem_upsertList_iff m.sorted hjk

lemma find?_tryEmplace (m : SortedMap κ α) (k j : κ) (v : α) :
    (m.tryEmplace k v).find? j = if j = k then some ((m.find? k).getD v) else m.find? j :=
  find?_upsert m k j _

lemma find?_insertOrAssign (m : SortedMap κ α) (k j : κ) (v : α) :
    (m.insertOrAssign k v).find? j = if j = k then some v else m.find? j :=
  find?_upsert m k j _

lemma mem_keys_upsert (m : SortedMap κ α) (k j : κ) (f : Option α → α) :
    j ∈ (m.upsert k f).keys ↔ j = k ∨ j ∈ m.keys := by
  rw [mem_keys_iff, mem_keys_iff, find?_upsert]
  split_ifs with h <;> simp [h]

lemma mem_keys_tryEmplace (m : SortedMap κ α) (k j : κ) (v : α) :
    j ∈ (m.tryEmplace k v).keys ↔ j = k ∨ j ∈ m.keys := mem_keys_upsert m k j _

lemma find?_retain (m : SortedMap κ α) (p : κ → α → Bool) (k : κ) :
    (m.retain p).find? k = (m.find? k).filter (p k) := by
  refine Option.ext fun v => ?_
  rw [Option.filter_eq_some_iff, find?_eq_some_iff, find?_eq_some_iff]
  exact List.mem_filter

lemma find?_erase (m : SortedMap κ α) (k j : κ) :
    (m.erase k).find? j = if j = k then none else m.find? j := by
  rw [erase, find?_retain]
  split_ifs with h
  · simp [h]
  · cases m.find? j <;> simp [h]

lemma mem_keys_erase (m : SortedMap κ α) (k j : κ) :
    j ∈ (m.erase k).keys ↔ j ≠ k ∧ j ∈ m.keys := by
  rw [mem_keys_iff, mem_keys_iff, find?_erase]
  split_ifs with h <;> simp [h]

lemma size_erase_lt (m : SortedMap κ α) {k : κ} (hk : k ∈ m.keys) :
    (m.erase k).size < m.size := by
  obtain ⟨v, hv⟩ := m.mem_keys_iff.mp hk
  refine List.length_filter_lt_length_iff_exists.mpr ⟨(k, v), m.find?_eq_some_iff.mp hv, ?_⟩
  simp

/-! ## The first entry -/

/-- The first key is the least one. -/
lemma head_le_of_mem_keys (m : SortedMap κ α) {k j : κ} {v : α}
    (h : m.entries.head? = some (k, v)) (hj : j ∈ m.keys) : k ≤ j := by
  obtain ⟨es, hes⟩ := List.head?_eq_some_iff.mp h
  obtain ⟨w, hw⟩ := m.mem_keys_iff.mp hj
  rw [find?_eq_some_iff, hes] at hw
  have hsorted := m.sorted
  rw [hes] at hsorted
  rcases List.mem_cons.mp hw with hw | hw
  · exact le_of_eq (congrArg Prod.fst hw).symm
  · exact le_of_lt ((List.pairwise_cons.mp hsorted).1 _ hw)

lemma head_mem_keys (m : SortedMap κ α) {k : κ} {v : α}
    (h : m.entries.head? = some (k, v)) : k ∈ m.keys :=
  List.mem_map.mpr ⟨(k, v), List.mem_of_head? h, rfl⟩

lemma keys_eq_nil_iff (m : SortedMap κ α) : m.keys = [] ↔ m.entries = [] :=
  List.map_eq_nil_iff

end SortedMap
end TcpUdp.Lib
