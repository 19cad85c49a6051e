import TcpUdp.MissingNotify

/-!
# What a notification lists

The scan of `sendMissingNotifications` starts again from `nextMessageId` for every buffered
id, and `notifiedMissingIds` is updated only after it. So a second round repeats what the
first one found, and a round lists the buffered ids that it comes across.
`listsExactly_iff` says of every notification of a run when it lists the missing ids and
nothing else.
-/

namespace TcpUdp
namespace Reorder

variable {cfg : ReorderConfig} {s : Reorder} {ticks : ℕ → Tick}

/-- `id` is to be asked for: it lies below a buffered id (that is, below the largest one),
is not buffered itself and not remembered as notified. -/
structure Missing (s : Reorder) (id : ℕ) : Prop where
  next_le : s.nextMessageId ≤ id
  below : ∃ key ∈ s.receivedDataMap.keys, id < key
  not_buffered : id ∉ s.receivedDataMap.keys
  not_notified : id ∉ s.notifiedMissingIds

/-- The notification lists missing ids, each once, and all of them unless it is full. -/
structure ListsExactly (s : Reorder) (ids : List ℕ) : Prop where
  nodup : ids.Nodup
  length_le : ids.length ≤ vcMaxMissingIdsPerNotify
  missing : ∀ id ∈ ids, s.Missing id
  complete : ids.length < vcMaxMissingIdsPerNotify → ∀ id, s.Missing id → id ∈ ids

/-- The first round of the scan that finds something is the one for `key`. -/
structure FirstRound (s : Reorder) (key : ℕ) : Prop where
  mem : key ∈ s.receivedDataMap.keys
  finds : s.unnotified key ≠ []
  first : ∀ key' ∈ s.receivedDataMap.keys, key' < key → s.unnotified key' = []

/-! ## The rounds of the scan -/

lemma nodup_unnotified (limit : ℕ) : (s.unnotified limit).Nodup :=
  List.Nodup.filter _ (List.nodup_range' ..)

lemma pairwise_keys (s : Reorder) : s.receivedDataMap.keys.Pairwise (· < ·) :=
  List.pairwise_map.mpr s.receivedDataMap.sorted

/-- A round that goes further begins with the shorter one. -/
lemma unnotified_prefix {limit limit' : ℕ} (h : limit ≤ limit') :
    s.unnotified limit <+: s.unnotified limit' := by
  obtain ⟨m, hm⟩ : ∃ m, limit' - s.nextMessageId = limit - s.nextMessageId + m :=
    ⟨limit' - s.nextMessageId - (limit - s.nextMessageId), by omega⟩
  refine List.IsPrefix.filter _ ⟨List.range' (s.nextMessageId + (limit - s.nextMessageId)) m, ?_⟩
  rw [hm, List.range'_append_1]

/-- The scan is this first round, followed by the rounds for the larger buffered ids. -/
lemma FirstRound.missingIds_eq {key : ℕ} (h : s.FirstRound key) :
    ∃ larger : List ℕ, (∀ key' ∈ larger, key' ∈ s.receivedDataMap.keys ∧ key < key')
      ∧ (∀ key' ∈ s.receivedDataMap.keys, key < key' → key' ∈ larger)
      ∧ s.missingIds = (s.unnotified key ++ larger.flatMap s.unnotified).take
          vcMaxMissingIdsPerNotify := by
  obtain ⟨smaller, larger, hkeys⟩ := List.append_of_mem h.mem
  have hsorted := pairwise_keys s
  rw [hkeys, List.pairwise_append, List.pairwise_cons] at hsorted
  obtain ⟨-, ⟨hlarger, -⟩, hsmaller⟩ := hsorted
  have hlt : ∀ key' ∈ smaller, key' < key := fun key' h' =>
    hsmaller key' h' key List.mem_cons_self
  refine ⟨larger, fun key' h' => ⟨?_, hlarger key' h'⟩, fun key' h' hgt => ?_, ?_⟩
  · rw [hkeys]
    exact List.mem_append_right _ (List.mem_cons_of_mem _ h')
  · rw [hkeys, List.mem_append, List.mem_cons] at h'
    rcases h' with h' | rfl | h'
    · have := hlt key' h'
      omega
    · omega
    · exact h'
  · have hnone : smaller.flatMap s.unnotified = [] := by
      rw [List.flatMap_eq_nil_iff]
      intro key' h'
      exact h.first key' (by rw [hkeys]; exact List.mem_append_left _ h') (hlt key' h')
    rw [Reorder.missingIds_eq, hkeys, List.flatMap_append, List.flatMap_cons, hnone, List.nil_append]

/-- A scan that finds anything has a first round that does. -/
lemma exists_firstRound (h : s.missingIds ≠ []) : ∃ key, s.FirstRound key := by
  obtain ⟨id, hid⟩ := List.exists_mem_of_ne_nil _ h
  obtain ⟨hle, hnew, key, hkey, hlt⟩ := of_mem_missingIds hid
  have hround : ∃ key, key ∈ s.receivedDataMap.keys ∧ s.unnotified key ≠ [] :=
    ⟨key, hkey, List.ne_nil_of_mem (mem_unnotified.mpr ⟨⟨hle, hlt⟩, hnew⟩)⟩
  classical
  refine ⟨Nat.find hround, (Nat.find_spec hround).1, (Nat.find_spec hround).2, ?_⟩
  intro key' hkey' hless
  by_contra hfinds
  exact Nat.find_min hround hless ⟨hkey', hfinds⟩

/-- If a buffered id comes up in the first round, then as its first entry: the round for that
id found nothing. -/
lemma FirstRound.eq_cons_of_buffered {key id : ℕ} (h : s.FirstRound key)
    (hid : id ∈ s.unnotified key) (hbuffered : id ∈ s.receivedDataMap.keys) :
    ∃ rest, s.unnotified key = id :: rest := by
  obtain ⟨⟨hle, hlt⟩, hnew⟩ := mem_unnotified.mp hid
  obtain ⟨rest, hrest⟩ := unnotified_split hle hlt hnew
  rw [h.first id hbuffered hlt, List.nil_append] at hrest
  exact ⟨rest, hrest⟩

/-! ## Exactly the missing ids -/

/-- The first round that finds something is the last one or fills the notification, and the
buffered ids below its own are all remembered as notified. -/
structure OneRound (s : Reorder) (key : ℕ) : Prop extends s.FirstRound key where
  last : (∀ key' ∈ s.receivedDataMap.keys, key' ≤ key)
    ∨ vcMaxMissingIdsPerNotify ≤ (s.unnotified key).length
  remembered : ∀ key' ∈ s.receivedDataMap.keys, s.nextMessageId ≤ key' → key' < key →
    key' ∈ s.notifiedMissingIds

lemma OneRound.missingIds_eq {key : ℕ} (h : s.OneRound key) :
    s.missingIds = (s.unnotified key).take vcMaxMissingIdsPerNotify := by
  obtain ⟨larger, hlarger, -, hids⟩ := h.toFirstRound.missingIds_eq
  rw [hids]
  rcases h.last with hlast | hfull
  · -- there is no later round
    have hnone : larger = [] := by
      rw [List.eq_nil_iff_forall_not_mem]
      intro key' hkey'
      have hmem := hlarger key' hkey'
      have := hlast key' hmem.1
      omega
    rw [hnone, List.flatMap_nil, List.append_nil]
  · exact List.take_append_of_le_length hfull

lemma OneRound.listsExactly {key : ℕ} (h : s.OneRound key) : s.ListsExactly s.missingIds := by
  have hsub : ∀ id ∈ s.missingIds, id ∈ s.unnotified key := fun id hid => by
    rw [h.missingIds_eq] at hid
    exact List.mem_of_mem_take hid
  refine ⟨?_, ?_, fun id hid => ?_, fun hshort id hid => ?_⟩
  · rw [h.missingIds_eq]
    exact (nodup_unnotified key).sublist (List.take_sublist _ _)
  · rw [h.missingIds_eq]
    exact List.length_take_le _ _
  · obtain ⟨⟨hle, hlt⟩, hnew⟩ := mem_unnotified.mp (hsub id hid)
    exact ⟨hle, ⟨key, h.mem, hlt⟩, fun hmem => hnew (h.remembered id hmem hle hlt), hnew⟩
  · rw [h.missingIds_eq, List.length_take] at hshort
    have hlen : (s.unnotified key).length < vcMaxMissingIdsPerNotify := by omega
    have hlast := h.last.resolve_right (by omega)
    obtain ⟨key', hkey', hlt⟩ := hid.below
    have := hlast key' hkey'
    rw [h.missingIds_eq, List.take_of_length_le (le_of_lt hlen)]
    exact mem_unnotified.mpr ⟨⟨hid.next_le, by omega⟩, hid.not_notified⟩

/-- A later round repeats the first entry of the first one. -/
lemma not_nodup_of_later {key key' : ℕ} (h : s.FirstRound key)
    (hkey' : key' ∈ s.receivedDataMap.keys) (hlt : key < key')
    (hshort : (s.unnotified key).length < vcMaxMissingIdsPerNotify) :
    ¬ s.missingIds.Nodup := by
  obtain ⟨larger, hlarger, hmem, hids⟩ := h.missingIds_eq
  obtain ⟨id, rest, hround⟩ := List.exists_cons_of_ne_nil h.finds
  obtain ⟨next, later, rfl⟩ : ∃ (next : ℕ) (later : List ℕ), larger = next :: later :=
    List.exists_cons_of_ne_nil (List.ne_nil_of_mem (hmem key' hkey' hlt))
  have hnext := hlarger next List.mem_cons_self
  obtain ⟨more, hmore⟩ := s.unnotified_prefix (le_of_lt hnext.2)
  obtain ⟨m, hm⟩ : ∃ m, vcMaxMissingIdsPerNotify - (s.unnotified key).length = m + 1 :=
    ⟨vcMaxMissingIdsPerNotify - (s.unnotified key).length - 1, by omega⟩
  intro hnodup
  rw [hids, List.take_append, List.take_of_length_le (le_of_lt hshort), hm, List.flatMap_cons,
    ← hmore, hround, List.cons_append, List.cons_append, List.cons_append,
    List.take_succ_cons] at hnodup
  exact (List.nodup_cons.mp hnodup).1 (List.mem_append_right _ List.mem_cons_self)

/-- In every run, a notification lists exactly the missing ids if and only if the scan needs
one round only, and that round comes across no buffered id. -/
theorem listsExactly_iff {n : ℕ} {ids : List ℕ}
    (h : (iterationAt cfg ticks n).notified = some ids) :
    ((stateAt cfg ticks n).beforeNotify cfg (ticks n)).ListsExactly ids
      ↔ ∃ key, ((stateAt cfg ticks n).beforeNotify cfg (ticks n)).OneRound key := by
  obtain ⟨hnotifies, rfl⟩ := notified_eq_some_iff.mp h
  constructor
  · intro hexact
    obtain ⟨key, hfirst⟩ := exists_firstRound hnotifies.missing
    refine ⟨key, hfirst, ?_, fun key' hkey' hle hlt => ?_⟩
    · by_contra hnot
      rw [not_or, not_forall] at hnot
      obtain ⟨⟨key', hlater⟩, hshort⟩ := hnot
      rw [Classical.not_imp, not_le] at hlater
      exact not_nodup_of_later hfirst hlater.1 hlater.2 (not_le.mp hshort) hexact.nodup
    · -- a buffered id that is not remembered would be listed first of all
      by_contra hnew
      obtain ⟨rest, hrest⟩ :=
        hfirst.eq_cons_of_buffered (mem_unnotified.mpr ⟨⟨hle, hlt⟩, hnew⟩) hkey'
      obtain ⟨larger, -, -, hids⟩ := hfirst.missingIds_eq
      refine (hexact.missing key' ?_).not_buffered hkey'
      rw [hids, hrest, List.cons_append, vcMaxMissingIdsPerNotify, List.take_succ_cons]
      exact List.mem_cons_self
  · rintro ⟨key, hround⟩
    exact hround.listsExactly

/-- Id 3 arrives first, and nothing else until the notification interval is over. -/
def oneGap : ℕ → Tick := script [tickAt 0 [⟨3, [13], 0⟩], tickAt 200 []] 200

theorem listsExactly_oneGap :
    ((stateAt {} oneGap 1).beforeNotify {} (oneGap 1)).ListsExactly [0, 1, 2] := by
  have hlisted : (iterationAt {} oneGap 1).notified = some [0, 1, 2] := rfl
  refine (listsExactly_iff hlisted).mpr ⟨3, ⟨?_, ?_, ?_⟩, ?_, ?_⟩
  · decide
  · decide
  · decide
  · exact Or.inl (by decide)
  · decide

/-- Ids 2 and 5 arrive first. -/
def repeatedRound : ℕ → Tick := script [tickAt 0 [⟨2, [12], 0⟩, ⟨5, [15], 0⟩], tickAt 200 []] 200

/-- The notification repeats ids 0 and 1, and lists id 2, which is buffered. -/
theorem repeatedRound_not_listsExactly :
    ¬ ∀ (cfg : ReorderConfig) (ticks : ℕ → Tick), IdsBelow uint64Size ticks → ∀ n ids,
      (iterationAt cfg ticks n).notified = some ids →
        ((stateAt cfg ticks n).beforeNotify cfg (ticks n)).ListsExactly ids := by
  intro h
  have hlisted : (iterationAt {} repeatedRound 1).notified = some [0, 1, 0, 1, 2, 3, 4] := rfl
  have hexact := h {} repeatedRound (idsBelow_script (by decide)) 1 _ hlisted
  exact absurd hexact.nodup (by decide)

end Reorder
end TcpUdp
