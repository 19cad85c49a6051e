import TcpUdp.SnapshotRefresh
import Mathlib.Data.List.Induction

/-!
# No replacement is missed

The generation is loaded before the lock is taken, so that the copy may be newer than the
generation that is recorded for it, never older. While the generation has not gone round, an equal
generation therefore means that nothing has been replaced since the copy: `snapshot_current`.

A generation has 64 bits, and `cachedGen` begins with a value that it also takes:
`not_snapshot_current`.
-/

namespace TcpUdp.SnapshotRefresh

open Lib

variable {τ γ : Type}

/-! ## A list of replacements -/

/-- The connections after replacements. -/
def applied (connections : List γ) (replaced : List (ℕ × γ)) : List γ :=
  replaced.foldl (fun conns r => conns.set r.1 r.2) connections

lemma applied_concat (connections : List γ) (replaced : List (ℕ × γ)) (r : ℕ × γ) :
    applied connections (replaced ++ [r]) = (applied connections replaced).set r.1 r.2 := by
  rw [applied, List.foldl_append]
  rfl

lemma length_applied (connections : List γ) (replaced : List (ℕ × γ)) :
    (applied connections replaced).length = connections.length := by
  induction replaced using List.reverseRecOn with
  | nil => rfl
  | append_singleton replaced r ih => rw [applied_concat, List.length_set, ih]

/-- A slot holds the connection of its last replacement. -/
lemma exists_applied {connections : List γ} {replaced : List (ℕ × γ)} {j slot : ℕ} {conn : γ}
    (hj : replaced[j]? = some (slot, conn)) (hslot : slot < connections.length) :
    ∃ j' conn', j ≤ j' ∧ replaced[j']? = some (slot, conn')
      ∧ (applied connections replaced)[slot]? = some conn' := by
  induction replaced using List.reverseRecOn with
  | nil => cases hj
  | append_singleton replaced r ih =>
    obtain ⟨hlt, -⟩ := List.getElem?_eq_some_iff.mp hj
    rw [List.length_append, List.length_singleton] at hlt
    rw [applied_concat]
    by_cases hr : r.1 = slot
    · -- the last replacement is one of this slot
      refine ⟨replaced.length, r.2, Nat.le_of_lt_succ hlt, ?_, ?_⟩
      · rw [List.getElem?_concat_length, ← hr]
      · rw [hr, List.getElem?_set_self (by rw [length_applied]; exact hslot)]
    · have hold : j < replaced.length := by
        by_contra hge
        obtain rfl : j = replaced.length := by omega
        rw [List.getElem?_concat_length] at hj
        cases hj
        exact hr rfl
      rw [List.getElem?_append_left hold] at hj
      obtain ⟨j', conn', hle, hj', hvalue⟩ := ih hj
      have hlt' := (List.getElem?_eq_some_iff.mp hj').1
      refine ⟨j', conn', hle, ?_, ?_⟩
      · rw [List.getElem?_append_left hlt', hj']
      · rw [List.getElem?_set_ne hr, hvalue]

/-! ## The invariant -/

/-- The slot and the connection of a call that holds the lock and is not counted yet. -/
def ReplacePc.pending : ReplacePc γ → Option (ℕ × γ)
  | .locked slot conn => some (slot, conn)
  | .written slot conn => some (slot, conn)
  | .idle | .incremented => none

/-- A write that is not counted yet. -/
def ReplacePc.uncounted : ReplacePc γ → List (ℕ × γ)
  | .written slot conn => [(slot, conn)]
  | .idle | .locked _ _ | .incremented => []

/-- The uncounted write of the call that holds the lock. -/
def uncounted (s : SnapshotRefresh τ γ) : List (ℕ × γ) :=
  match s.connectionsMutex with
  | some (.replacer t) => (s.replacer t).uncounted
  | _ => []

/-- What the IO thread knows at each point of the refresh. -/
def IoInv (s : SnapshotRefresh τ γ) : Prop :=
  match s.io with
  | .polling => True
  | .loaded gen loadedAt =>
    gen = loadedAt % uint64Size ∧ loadedAt ≤ s.replaced.length ∧ ∀ r ∈ s.recordedAt, r ≤ loadedAt
  | .locking gen loadedAt => gen = loadedAt % uint64Size ∧ loadedAt ≤ s.replaced.length
  | .locked gen loadedAt =>
    gen = loadedAt % uint64Size ∧ loadedAt ≤ s.replaced.length ∧ s.connectionsMutex = some .io
  | .copied gen loadedAt =>
    gen = loadedAt % uint64Size ∧ s.connectionsMutex = some .io
      ∧ ∃ k, s.copiedAt = some k ∧ loadedAt ≤ k
  | .recorded loadedAt =>
    s.connectionsMutex = some .io ∧ ∃ k, s.copiedAt = some k ∧ loadedAt ≤ k

structure Inv (connections : List γ) (s : SnapshotRefresh τ γ) : Prop where
  conns : s.connections = applied connections (s.replaced ++ s.uncounted)
  generation : s.connGeneration = s.replaced.length % uint64Size
  replacers : ∀ t, s.replacer t ≠ .idle → s.connectionsMutex = some (.replacer t)
  pending : ∀ t r, (s.replacer t).pending = some r → r.1 < connections.length
  slots : ∀ r ∈ s.replaced, r.1 < connections.length
  io : s.IoInv
  snapshot : ∀ k, s.copiedAt = some k →
    k ≤ s.replaced.length ∧ s.snapshot = applied connections (s.replaced.take k)
  unrecorded : s.recordedAt = none → s.cachedGen = uint64Size - 1
  recorded : ∀ r, s.recordedAt = some r →
    s.cachedGen = r % uint64Size ∧ ∃ k, s.copiedAt = some k ∧ r ≤ k

/-- The snapshot is not older than the load of the last check. -/
def Checked (s : SnapshotRefresh τ γ) : Prop :=
  ∀ c, s.checkedAt = some c → ∃ k, s.copiedAt = some k ∧ c ≤ k

variable {connections : List γ} {s s' : SnapshotRefresh τ γ} {t : τ}

lemma inv_init : Inv connections ({ connections := connections } : SnapshotRefresh τ γ) where
  conns := rfl
  generation := rfl
  replacers _ h := absurd rfl h
  pending _ _ h := nomatch h
  slots _ h := absurd h List.not_mem_nil
  io := trivial
  snapshot _ h := nomatch h
  unrecorded _ := rfl
  recorded _ h := nomatch h

lemma checked_init : Checked ({ connections := connections } : SnapshotRefresh τ γ) :=
  fun _ h => nomatch h

lemma uncounted_free (h : s.connectionsMutex = none) : s.uncounted = [] := by
  rw [uncounted, h]

lemma uncounted_io (h : s.connectionsMutex = some .io) : s.uncounted = [] := by
  rw [uncounted, h]

lemma uncounted_replacer (h : s.connectionsMutex = some (.replacer t)) :
    s.uncounted = (s.replacer t).uncounted := by
  rw [uncounted, h]

/-! ## The IO thread -/

/-- The count at a load that is recorded is not ahead of the replacements. -/
lemma Inv.recorded_le (h : Inv connections s) {r : ℕ} (hr : s.recordedAt = some r) :
    r ≤ s.replaced.length := by
  obtain ⟨-, k, hk, hle⟩ := h.recorded r hr
  exact hle.trans (h.snapshot k hk).1

/-- Steps of the IO thread in which only its own variables change. -/
lemma Inv.ioLocal (h : Inv connections s) {io : IoPc} {checkedAt : Option ℕ}
    (hio : IoInv { s with io := io, checkedAt := checkedAt }) :
    Inv connections { s with io := io, checkedAt := checkedAt } :=
  { h with io := hio }

/-- The IO thread takes the lock or returns it. -/
lemma Inv.ioMutex (h : Inv connections s) {io : IoPc} {mutex : Option (Holder τ)}
    {checkedAt : Option ℕ}
    (hmutex : s.connectionsMutex = none ∧ mutex = some .io
      ∨ s.connectionsMutex = some .io ∧ mutex = none)
    (hio : IoInv { s with connectionsMutex := mutex, io := io, checkedAt := checkedAt }) :
    Inv connections { s with connectionsMutex := mutex, io := io, checkedAt := checkedAt } := by
  have hconns := h.conns
  have hbefore : s.uncounted = [] := by
    rcases hmutex with ⟨hfree, -⟩ | ⟨hheld, -⟩
    · exact uncounted_free hfree
    · exact uncounted_io hheld
  have hafter : uncounted { s with connectionsMutex := mutex, io := io, checkedAt := checkedAt }
      = [] := by
    rcases hmutex with ⟨-, rfl⟩ | ⟨-, rfl⟩ <;> rfl
  refine { h with conns := ?_, replacers := fun t ht => ?_, io := hio }
  · rw [hafter, ← hbefore]
    exact hconns
  · have hheld := h.replacers t ht
    rcases hmutex with ⟨hfree, -⟩ | ⟨hmine, -⟩
    · rw [hfree] at hheld
      cases hheld
    · rw [hmine] at hheld
      cases hheld

lemma Inv.ioCopy (h : Inv connections s) {gen loadedAt : ℕ} (hmutex : s.connectionsMutex = some .io)
    (hgen : gen = loadedAt % uint64Size) (hle : loadedAt ≤ s.replaced.length) :
    Inv connections { s with
      snapshot := s.connections
      copiedAt := some s.replaced.length
      io := .copied gen loadedAt } where
  conns := h.conns
  generation := h.generation
  replacers := h.replacers
  pending := h.pending
  slots := h.slots
  io := ⟨hgen, hmutex, s.replaced.length, rfl, hle⟩
  snapshot k hk := by
    cases hk
    have hconns := h.conns
    rw [uncounted_io hmutex, List.append_nil] at hconns
    exact ⟨le_rfl, by rw [List.take_length]; exact hconns⟩
  unrecorded := h.unrecorded
  recorded r hr := ⟨(h.recorded r hr).1, s.replaced.length, rfl, h.recorded_le hr⟩

lemma Inv.ioRecord (h : Inv connections s) {gen loadedAt k : ℕ}
    (hmutex : s.connectionsMutex = some .io) (hgen : gen = loadedAt % uint64Size)
    (hk : s.copiedAt = some k) (hle : loadedAt ≤ k) :
    Inv connections { s with
      cachedGen := gen, recordedAt := some loadedAt, io := .recorded loadedAt } where
  conns := h.conns
  generation := h.generation
  replacers := h.replacers
  pending := h.pending
  slots := h.slots
  io := ⟨hmutex, k, hk, hle⟩
  snapshot := h.snapshot
  unrecorded hnone := nomatch hnone
  recorded r hr := by
    cases hr
    exact ⟨hgen, k, hk, hle⟩

lemma Inv.ioStep (h : Inv connections s) : Inv connections s.ioStep := by
  have hinv := h.io
  unfold IoInv at hinv
  unfold SnapshotRefresh.ioStep
  cases hio : s.io with
  | polling => exact h.ioLocal ⟨h.generation, le_rfl, fun r hr => h.recorded_le hr⟩
  | loaded gen loadedAt =>
    rw [hio] at hinv
    simp only
    split_ifs
    · exact h.ioLocal ⟨hinv.1, hinv.2.1⟩
    · -- the check is over, without the lock
      exact h.ioLocal trivial
  | locking gen loadedAt =>
    rw [hio] at hinv
    simp only
    split_ifs with hfree
    · exact h.ioMutex (Or.inl ⟨Option.isNone_iff_eq_none.mp hfree, rfl⟩) ⟨hinv.1, hinv.2, rfl⟩
    · exact h
  | locked gen loadedAt =>
    rw [hio] at hinv
    exact h.ioCopy hinv.2.2 hinv.1 hinv.2.1
  | copied gen loadedAt =>
    rw [hio] at hinv
    obtain ⟨hgen, hmutex, k, hk, hle⟩ := hinv
    exact h.ioRecord hmutex hgen hk hle
  | recorded loadedAt =>
    rw [hio] at hinv
    exact h.ioMutex (Or.inr ⟨hinv.1, rfl⟩) trivial

/-! ## Equal generations -/

lemma eq_of_mod_eq {a b : ℕ} (hmod : a % uint64Size = b % uint64Size) (hle : a ≤ b)
    (hlt : b < a + uint64Size) : a = b := by
  have hpos : 0 < uint64Size := by decide
  have hdiff : (b - a) % uint64Size = 0 := Nat.sub_mod_eq_zero_of_mod_eq hmod.symm
  rw [Nat.mod_eq_of_lt (by omega)] at hdiff
  omega

/-- As long as the generation has not gone round, it is recorded for the last replacement only. -/
lemma Inv.recorded_eq (h : Inv connections s) (hround : s.NotRound) {loadedAt : ℕ}
    (hgen : s.cachedGen = loadedAt % uint64Size) (hle : loadedAt ≤ s.replaced.length)
    (hafter : ∀ r ∈ s.recordedAt, r ≤ loadedAt) : s.recordedAt = some loadedAt := by
  unfold NotRound at hround
  cases hrec : s.recordedAt with
  | none =>
    rw [hrec] at hround
    -- the generation has not come to the initial value of `cachedGen`
    have hlt : loadedAt < uint64Size - 1 := lt_of_le_of_lt hle hround
    rw [h.unrecorded hrec, Nat.mod_eq_of_lt (by omega)] at hgen
    omega
  | some r =>
    rw [hrec] at hround
    rw [(h.recorded r hrec).1] at hgen
    rw [eq_of_mod_eq hgen (hafter r hrec) (lt_of_le_of_lt hle hround)]

lemma Inv.snapshot_eq (h : Inv connections s) (hround : s.NotRound)
    (hmutex : s.connectionsMutex = none) (hgen : s.cachedGen = s.connGeneration) :
    s.snapshot = s.connections := by
  rw [h.generation] at hgen
  have hrec := h.recorded_eq hround hgen le_rfl fun r hr => h.recorded_le hr
  obtain ⟨-, k, hk, hlek⟩ := h.recorded _ hrec
  obtain ⟨hle, hsnapshot⟩ := h.snapshot k hk
  -- nothing has been replaced since the copy
  have hconns := h.conns
  rw [uncounted_free hmutex, List.append_nil] at hconns
  rw [hsnapshot, hconns, List.take_of_length_le hlek]

lemma Checked.ioStep (hc : s.Checked) (h : Inv connections s) (hround : s.NotRound) :
    s.ioStep.Checked := by
  have hinv := h.io
  unfold IoInv at hinv
  unfold SnapshotRefresh.ioStep
  cases hio : s.io with
  | polling => exact hc
  | loaded gen loadedAt =>
    rw [hio] at hinv
    simp only
    split_ifs with hne
    · exact hc
    · -- nothing is copied, as the recorded load saw as many replacements
      intro c hcheck
      cases hcheck
      have hgen : s.cachedGen = loadedAt % uint64Size := by
        rw [← hinv.1]
        exact (not_ne_iff.mp hne).symm
      exact (h.recorded _ (h.recorded_eq hround hgen hinv.2.1 hinv.2.2)).2
  | locking gen loadedAt =>
    simp only
    split_ifs <;> exact hc
  | locked gen loadedAt =>
    intro c hcheck
    obtain ⟨k, hk, hle⟩ := hc c hcheck
    exact ⟨s.replaced.length, rfl, hle.trans (h.snapshot k hk).1⟩
  | copied gen loadedAt => exact hc
  | recorded loadedAt =>
    rw [hio] at hinv
    intro c hcheck
    cases hcheck
    exact hinv.2

/-! ## The replacers -/

/-- Replacements change nothing that the IO thread has. -/
lemma IoInv.congr (h : s.IoInv) (hio : s'.io = s.io)
    (hlen : s.replaced.length ≤ s'.replaced.length) (hrec : s'.recordedAt = s.recordedAt)
    (hcopied : s'.copiedAt = s.copiedAt)
    (hmutex : s.connectionsMutex = some .io → s'.connectionsMutex = some .io) : s'.IoInv := by
  unfold IoInv at h ⊢
  rw [hio, hrec, hcopied]
  split at h
  · trivial
  · exact ⟨h.1, h.2.1.trans hlen, h.2.2⟩
  · exact ⟨h.1, h.2.trans hlen⟩
  · exact ⟨h.1, h.2.1.trans hlen, hmutex h.2.2⟩
  · exact ⟨h.1, hmutex h.2.1, h.2.2⟩
  · exact ⟨hmutex h.1, h.2⟩

variable [DecidableEq τ]

/-- While a thread holds the lock, the others are outside. -/
lemma Inv.others (h : Inv connections s) (hmutex : s.connectionsMutex = some (.replacer t))
    (pc : ReplacePc γ) {t' : τ} (hpc : Function.update s.replacer t pc t' ≠ .idle) : t' = t := by
  by_contra hne
  rw [Function.update_of_ne hne] at hpc
  have hother := h.replacers t' hpc
  rw [hmutex] at hother
  cases hother
  exact hne rfl

lemma Inv.lock (h : Inv connections s) {slot : ℕ} (conn : γ) (hslot : slot < s.connections.length)
    (hmutex : s.connectionsMutex = none) :
    Inv connections { s with
      connectionsMutex := some (.replacer t)
      replacer := Function.update s.replacer t (.locked slot conn) } where
  conns := by
    rw [uncounted_replacer (t := t) rfl]
    simp only [Function.update_self]
    have hconns := h.conns
    rw [uncounted_free hmutex] at hconns
    exact hconns
  generation := h.generation
  replacers t' hpc := by
    by_cases ht : t' = t
    · rw [ht]
    · simp only [Function.update_of_ne ht] at hpc
      have hheld := h.replacers t' hpc
      rw [hmutex] at hheld
      cases hheld
  pending t' r hr := by
    by_cases ht : t' = t
    · rw [ht] at hr
      simp only [Function.update_self] at hr
      cases hr
      rwa [h.conns, length_applied] at hslot
    · simp only [Function.update_of_ne ht] at hr
      exact h.pending t' r hr
  slots := h.slots
  io := h.io.congr rfl le_rfl rfl rfl fun hio => by
    rw [hmutex] at hio
    cases hio
  snapshot := h.snapshot
  unrecorded := h.unrecorded
  recorded := h.recorded

/-- The steps of a call that holds the lock. They leave alone what the IO thread has, and
only append to the replacements. -/
lemma Inv.holderStep (h : Inv connections s) (hmutex : s.connectionsMutex = some (.replacer t))
    {conns : List γ} {gen : ℕ} {new replaced : List (ℕ × γ)} {mutex : Option (Holder τ)}
    {pc : ReplacePc γ} (hreplaced : replaced = s.replaced ++ new)
    (hpc : pc = .idle ∧ mutex = none ∨ pc ≠ .idle ∧ mutex = some (.replacer t))
    (hpending : ∀ r, pc.pending = some r → r.1 < connections.length)
    (hnew : ∀ r ∈ new, r.1 < connections.length)
    (hconns : conns = applied connections (replaced ++ pc.uncounted))
    (hgen : gen = replaced.length % uint64Size) :
    Inv connections { s with
      connections := conns
      connGeneration := gen
      replaced := replaced
      connectionsMutex := mutex
      replacer := Function.update s.replacer t pc } where
  conns := by
    rw [hconns]
    rcases hpc with ⟨rfl, rfl⟩ | ⟨-, rfl⟩
    · rfl
    · rw [uncounted_replacer (t := t) rfl]
      simp only [Function.update_self]
  generation := hgen
  replacers t' hpc' := by
    have ht := h.others hmutex pc hpc'
    rw [ht] at hpc' ⊢
    simp only [Function.update_self] at hpc'
    rcases hpc with ⟨hidle, -⟩ | ⟨-, hheld⟩
    · exact absurd hidle hpc'
    · exact hheld
  pending t' r hr := by
    by_cases ht : t' = t
    · rw [ht] at hr
      simp only [Function.update_self] at hr
      exact hpending r hr
    · simp only [Function.update_of_ne ht] at hr
      exact h.pending t' r hr
  slots r hr := by
    rw [hreplaced] at hr
    rcases List.mem_append.mp hr with hr | hr
    · exact h.slots r hr
    · exact hnew r hr
  io := by
    refine h.io.congr rfl ?_ rfl rfl fun hio => ?_
    · simp only [hreplaced, List.length_append]
      exact Nat.le_add_right _ _
    · rw [hmutex] at hio
      cases hio
  snapshot k hk := by
    obtain ⟨hle, hsnapshot⟩ := h.snapshot k hk
    simp only [hreplaced]
    refine ⟨?_, ?_⟩
    · rw [List.length_append]
      exact Nat.le_add_right_of_le hle
    · rw [List.take_append_of_le_length hle]
      exact hsnapshot
  unrecorded := h.unrecorded
  recorded := h.recorded

lemma Inv.replacerStep (h : Inv connections s) (t : τ) (slot : ℕ) (conn : γ) :
    Inv connections (s.replacerStep t slot conn) := by
  unfold SnapshotRefresh.replacerStep
  have hheld := h.replacers t
  have hpending := h.pending t
  have hconns := h.conns
  cases hpc : s.replacer t with
  | idle =>
    simp only
    split_ifs with hfree
    · exact h.lock conn hfree.1 (Option.isNone_iff_eq_none.mp hfree.2)
    · exact h
  | locked slot conn =>
    rw [hpc] at hheld hpending
    have hmutex := hheld (nomatch ·)
    rw [uncounted_replacer hmutex, hpc, ReplacePc.uncounted, List.append_nil] at hconns
    refine h.holderStep hmutex (List.append_nil _).symm (Or.inr ⟨(nomatch ·), hmutex⟩)
      hpending (fun _ hr => absurd hr List.not_mem_nil) ?_ h.generation
    rw [ReplacePc.uncounted, applied_concat, hconns]
  | written slot conn =>
    rw [hpc] at hheld hpending
    have hmutex := hheld (nomatch ·)
    rw [uncounted_replacer hmutex, hpc, ReplacePc.uncounted] at hconns
    refine h.holderStep hmutex rfl (Or.inr ⟨(nomatch ·), hmutex⟩)
      (fun _ => (nomatch ·)) (fun r hr => ?_) ?_ ?_
    · rw [List.mem_singleton.mp hr]
      exact hpending _ rfl
    · rw [ReplacePc.uncounted, List.append_nil, hconns]
    · rw [h.generation, List.length_append, List.length_singleton, Nat.mod_add_mod]
  | incremented =>
    rw [hpc] at hheld
    have hmutex := hheld (nomatch ·)
    rw [uncounted_replacer hmutex, hpc, ReplacePc.uncounted] at hconns
    exact h.holderStep hmutex (List.append_nil _).symm (Or.inl ⟨rfl, rfl⟩) (fun _ => (nomatch ·))
      (fun _ hr => absurd hr List.not_mem_nil) hconns h.generation

/-! ## Runs -/

lemma inv_stateAt (connections : List γ) (actors : ℕ → Actor τ γ) (n : ℕ) :
    Inv connections (stateAt connections actors n) := by
  induction n with
  | zero => exact inv_init
  | succ n ih =>
    rw [stateAt, runState]
    cases actors n with
    | replacer t slot conn => exact ih.replacerStep t slot conn
    | io => exact ih.ioStep

lemma Checked.replacerStep (h : s.Checked) (t : τ) (slot : ℕ) (conn : γ) :
    (s.replacerStep t slot conn).Checked := by
  unfold SnapshotRefresh.replacerStep
  split
  · split_ifs <;> exact h
  all_goals exact h

lemma checked_stateAt {connections : List γ} {actors : ℕ → Actor τ γ} {n : ℕ}
    (hround : ∀ m < n, (stateAt connections actors m).NotRound) :
    (stateAt connections actors n).Checked := by
  induction n with
  | zero => exact checked_init
  | succ n ih =>
    have hc := ih fun m hm => hround m (Nat.lt_succ_of_lt hm)
    rw [stateAt, runState]
    cases actors n with
    | replacer t slot conn => exact hc.replacerStep t slot conn
    | io => exact hc.ioStep (inv_stateAt connections actors n) (hround n (Nat.lt_succ_self n))

/-- While the generation has not gone round, an equal generation means a current snapshot, and a
check that is over has put every replacement before its load into the snapshot, or a later one
of the same slot. -/
theorem snapshot_current (connections : List γ) (actors : ℕ → Actor τ γ) (n : ℕ) :
    let s := stateAt connections actors n
    (s.NotRound → s.connectionsMutex = none → s.cachedGen = s.connGeneration →
      s.snapshot = s.connections)
    ∧ ((∀ m < n, (stateAt connections actors m).NotRound) →
      ∀ c, s.checkedAt = some c → ∀ j slot conn, j < c → s.replaced[j]? = some (slot, conn) →
        ∃ j' conn', j ≤ j' ∧ s.replaced[j']? = some (slot, conn')
          ∧ s.snapshot[slot]? = some conn') := by
  intro s
  have h : Inv connections s := inv_stateAt connections actors n
  refine ⟨h.snapshot_eq, fun hround c hcheck j slot conn hj hreplaced => ?_⟩
  obtain ⟨k, hk, hle⟩ := checked_stateAt hround c hcheck
  obtain ⟨-, hsnapshot⟩ := h.snapshot k hk
  have hslot := h.slots _ (List.mem_of_getElem? hreplaced)
  have htaken : (s.replaced.take k)[j]? = some (slot, conn) := by
    rw [List.getElem?_take_of_lt (lt_of_lt_of_le hj hle), hreplaced]
  obtain ⟨j', conn', hle', hj', hvalue⟩ := exists_applied htaken hslot
  refine ⟨j', conn', hle', ?_, ?_⟩
  · rw [List.getElem?_take] at hj'
    split_ifs at hj'
    exact hj'
  · rw [hsnapshot, hvalue]

/-- Slot 0 is replaced, and the IO thread looks. -/
def oneReplacement : ℕ → Actor Unit ℕ
  | 0 | 1 | 2 | 3 => .replacer () 0 7
  | _ => .io

theorem snapshot_current_oneReplacement :
    (stateAt [5] oneReplacement 10).snapshot = (stateAt [5] oneReplacement 10).connections
    ∧ ∃ j' conn', 0 ≤ j' ∧ (stateAt [5] oneReplacement 10).replaced[j']? = some (0, conn')
      ∧ (stateAt [5] oneReplacement 10).snapshot[0]? = some conn' := by
  obtain ⟨hcurrent, hchecked⟩ := snapshot_current [5] oneReplacement 10
  exact ⟨hcurrent (by decide) rfl rfl, hchecked (by decide) 1 rfl 0 0 7 (by decide) rfl⟩

/-! ## A generation that has gone round -/

/-- One thread replaces slot 0 again and again, and the IO thread does not get to run. -/
def onlyReplacements : ℕ → Actor Unit ℕ := fun _ => .replacer () 0 7

/-- After `k` replacements and before the first check. -/
structure Unchecked (k : ℕ) (s : SnapshotRefresh Unit ℕ) : Prop where
  replacer : s.replacer () = .idle
  mutex : s.connectionsMutex = none
  length : s.connections.length = 1
  generation : s.connGeneration = k % uint64Size
  cachedGen : s.cachedGen = uint64Size - 1
  snapshot : s.snapshot = []

lemma Unchecked.round {k : ℕ} {s : SnapshotRefresh Unit ℕ} (h : Unchecked k s) :
    Unchecked (k + 1) ((((s.replacerStep () 0 7).replacerStep () 0 7).replacerStep () 0 7).replacerStep
      () 0 7) := by
  have hlock : 0 < s.connections.length ∧ s.connectionsMutex.isNone = true := by
    rw [h.length, h.mutex]
    exact ⟨Nat.one_pos, rfl⟩
  simp only [SnapshotRefresh.replacerStep, h.replacer, if_pos hlock, Function.update_self]
  refine ⟨rfl, rfl, ?_, ?_, h.cachedGen, h.snapshot⟩
  · rw [List.length_set, h.length]
  · rw [h.generation, Nat.mod_add_mod]

lemma unchecked_stateAt (k : ℕ) : Unchecked k (stateAt [5] onlyReplacements (4 * k)) := by
  induction k with
  | zero => exact ⟨rfl, rfl, rfl, rfl, rfl, rfl⟩
  | succ k ih => exact ih.round

/-- After 2^64 - 1 replacements the generation is the initial value of `cachedGen`, and nothing has
been copied. -/
theorem not_snapshot_current :
    ¬ ∀ (connections : List ℕ) (actors : ℕ → Actor Unit ℕ) (n : ℕ),
      (stateAt connections actors n).connectionsMutex = none →
      (stateAt connections actors n).cachedGen = (stateAt connections actors n).connGeneration →
      (stateAt connections actors n).snapshot = (stateAt connections actors n).connections := by
  intro h
  have hs := unchecked_stateAt (uint64Size - 1)
  have hgen : (uint64Size - 1) % uint64Size = uint64Size - 1 := by decide
  have hempty := h [5] onlyReplacements (4 * (uint64Size - 1)) hs.mutex
    (by rw [hs.cachedGen, hs.generation, hgen])
  have hlength := hs.length
  rw [← hempty, hs.snapshot] at hlength
  cases hlength

end TcpUdp.SnapshotRefresh
