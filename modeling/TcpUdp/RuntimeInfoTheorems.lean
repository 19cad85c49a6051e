import TcpUdp.RuntimeInfo

/-!
# When a cached runtime info is whole

An even number of increments means that no write section is open. The loop of the reader
compares the generation before and after, but does not look at its parity, so a reader that
runs inside one write section is content: `tornRead`. A reader that loads an even generation
and finds it unchanged has copied the value of the last refresh.
-/

namespace TcpUdp
namespace RuntimeInfoCache

open Lib

variable {ρ : Type} {s : RuntimeInfoCache ρ}

/-! ## The invariant -/

/-- Between two write sections the cache holds a whole value; inside one the first fields
are those of the new one. -/
def WriterInv (s : RuntimeInfoCache ρ) : Prop :=
  match s.writer with
  | .idle => s.increments % 2 = 0 ∧ s.lastRuntimeInfo ∈ s.refreshed
  | .sampled info => s.increments % 2 = 0 ∧ s.lastRuntimeInfo ∈ s.refreshed
      ∧ info ∈ s.refreshed
  | .writing info fields => s.increments % 2 = 1 ∧ fields ≤ 10 ∧ info ∈ s.refreshed
      ∧ RuntimeInfo.record.AgreeBelow fields s.lastRuntimeInfo info

/-- A reader that loaded an even generation and sees no increment since has copied its
fields from the cache as it is. -/
def ReaderInv (s : RuntimeInfoCache ρ) (r : ρ) : Prop :=
  match s.reader r with
  | .idle => True
  | .loading _ => True
  | .copying gen copy fields loadedAt => gen = loadedAt % uint32Size ∧ loadedAt ≤ s.increments
      ∧ fields ≤ 10
      ∧ (loadedAt % 2 = 0 → s.increments = loadedAt →
          RuntimeInfo.record.AgreeBelow fields copy s.lastRuntimeInfo)

structure Inv (s : RuntimeInfoCache ρ) : Prop where
  generation : s.runtimeInfoGeneration = s.increments % uint32Size
  writer : s.WriterInv
  readers : ∀ r, s.ReaderInv r
  neverTorn : s.NeverTorn

lemma inv_init : Inv ({} : RuntimeInfoCache ρ) where
  generation := rfl
  writer := ⟨rfl, List.mem_singleton_self _⟩
  readers _ := trivial
  neverTorn _ h := absurd h List.not_mem_nil

/-- With an even number of increments no write section is open. -/
lemma WriterInv.mem_refreshed (h : s.WriterInv) (heven : s.increments % 2 = 0) :
    s.lastRuntimeInfo ∈ s.refreshed := by
  unfold WriterInv at h
  split at h
  · exact h.2
  · exact h.2.1
  · omega

/-! ## The writer -/

/-- A step that leaves the cache and the generation alone. -/
lemma ReaderInv.congr {r : ρ} (h : s.ReaderInv r) {s' : RuntimeInfoCache ρ}
    (hreader : s'.reader r = s.reader r) (hlast : s'.lastRuntimeInfo = s.lastRuntimeInfo)
    (hinc : s'.increments = s.increments) : s'.ReaderInv r := by
  unfold ReaderInv at h ⊢
  rw [hreader, hlast, hinc]
  exact h

/-- What a reader has copied before an increment, or in an open write section, is not
claimed to be anything. -/
lemma ReaderInv.overtaken {r : ρ} (h : s.ReaderInv r) {s' : RuntimeInfoCache ρ}
    (hreader : s'.reader r = s.reader r) (hle : s.increments ≤ s'.increments)
    (hodd : s.increments < s'.increments ∨ s.increments % 2 = 1) : s'.ReaderInv r := by
  unfold ReaderInv at h ⊢
  rw [hreader]
  split at h
  · trivial
  · trivial
  · obtain ⟨hgen, hloaded, hfields, _⟩ := h
    exact ⟨hgen, hloaded.trans hle, hfields, fun heven heq => by omega⟩

lemma generation_increment (h : s.runtimeInfoGeneration = s.increments % uint32Size) :
    s.increment.runtimeInfoGeneration = s.increment.increments % uint32Size := by
  show (s.runtimeInfoGeneration + 1) % uint32Size = (s.increments + 1) % uint32Size
  rw [h, Nat.mod_add_mod]

lemma inv_writerStep (hs : Inv s) (info : RuntimeInfo) : Inv (s.writerStep info) := by
  have hwriter := hs.writer
  unfold WriterInv at hwriter
  unfold writerStep
  split
  · rename_i hpc
    simp only [hpc] at hwriter
    refine ⟨hs.generation, ?_, fun r => (hs.readers r).congr rfl rfl rfl, fun v hv => ?_⟩
    · exact ⟨hwriter.1, List.mem_cons_of_mem _ hwriter.2, List.mem_cons_self⟩
    · exact List.mem_cons_of_mem _ (hs.neverTorn v hv)
  · rename_i hpc
    simp only [hpc] at hwriter
    refine ⟨generation_increment hs.generation, ?_, fun r => ?_, hs.neverTorn⟩
    · refine ⟨?_, Nat.zero_le _, hwriter.2.2, Record.agreeBelow_zero _ _⟩
      show (s.increments + 1) % 2 = 1
      omega
    · exact (hs.readers r).overtaken rfl (Nat.le_succ _) (Or.inl (Nat.lt_succ_self _))
  · rename_i new fields hpc
    simp only [hpc] at hwriter
    obtain ⟨hodd, hfields, hmem, hagree⟩ := hwriter
    split_ifs with h
    · refine ⟨hs.generation, ?_, fun r => ?_, hs.neverTorn⟩
      · exact ⟨hodd, h, hmem, hagree.copy h rfl⟩
      · exact (hs.readers r).overtaken rfl le_rfl (Or.inr hodd)
    · have hfull : fields = 10 := by omega
      rw [hfull] at hagree
      refine ⟨generation_increment hs.generation, ?_, fun r => ?_, hs.neverTorn⟩
      · refine ⟨?_, ?_⟩
        · show (s.increments + 1) % 2 = 0
          omega
        · show s.lastRuntimeInfo ∈ s.refreshed
          rw [hagree.eq]
          exact hmem
      · exact (hs.readers r).overtaken rfl (Nat.le_succ _) (Or.inl (Nat.lt_succ_self _))

/-! ## The readers -/

variable [DecidableEq ρ]

/-- A reader moves on and the cache stays. -/
lemma Inv.reader_step (hs : Inv s) {r : ρ} {reader : ReaderPc} {returned : List RuntimeInfo}
    (hreader : ReaderInv { s with
      reader := Function.update s.reader r reader, returned := returned } r)
    (hreturned : ∀ info ∈ returned, info ∈ s.refreshed) :
    Inv { s with reader := Function.update s.reader r reader, returned := returned } where
  generation := hs.generation
  writer := hs.writer
  readers r' := by
    by_cases heq : r' = r
    · rw [heq]
      exact hreader
    · exact (hs.readers r').congr (Function.update_of_ne heq _ _) rfl rfl
  neverTorn := hreturned

omit [DecidableEq ρ] in
/-- The copy of a reader that loaded an even generation, and finds it unchanged before it
can have gone round, is the cache. -/
lemma Inv.copy_mem (hs : Inv s) {r : ρ} {gen fields loadedAt : ℕ} {copy : RuntimeInfo}
    (hpc : s.reader r = .copying gen copy fields loadedAt) (hfull : ¬fields < 10)
    (hgen : gen = s.runtimeInfoGeneration) (heven : gen % 2 = 0)
    (hwrap : s.increments < loadedAt + uint32Size) : copy ∈ s.refreshed := by
  have hreader := hs.readers r
  simp only [ReaderInv, hpc] at hreader
  obtain ⟨hloaded, hle, hfields, hagree⟩ := hreader
  have hgeneration := hs.generation
  unfold uint32Size at hloaded hwrap hgeneration
  have heq : s.increments = loadedAt := by omega
  have hcopy := hagree (by omega) heq
  rw [show fields = 10 by omega] at hcopy
  rw [hcopy.eq]
  exact hs.writer.mem_refreshed (by omega)

lemma inv_readerStep (hs : Inv s) (r : ρ) (h : s.loadedAtRest (.read r) = true) :
    Inv (s.readerStep r) := by
  have hreader := hs.readers r
  unfold ReaderInv at hreader
  unfold readerStep
  split
  · refine hs.reader_step ?_ hs.neverTorn
    simp only [ReaderInv, Function.update_self]
  · refine hs.reader_step ?_ hs.neverTorn
    simp only [ReaderInv, Function.update_self]
    exact ⟨hs.generation, le_rfl, Nat.zero_le _, fun _ _ => Record.agreeBelow_zero _ _⟩
  · rename_i gen copy fields loadedAt hpc
    simp only [hpc] at hreader
    simp only [loadedAtRest, hpc, decide_eq_true_eq] at h
    split_ifs with hfields hgen
    · refine hs.reader_step ?_ hs.neverTorn
      simp only [ReaderInv, Function.update_self]
      exact ⟨hreader.1, hreader.2.1, hfields, fun heven heq =>
        (hreader.2.2.2 heven heq).copy hfields rfl⟩
    · refine hs.reader_step ?_ hs.neverTorn
      simp only [ReaderInv, Function.update_self]
    · have hgen := not_not.mp hgen
      have ⟨heven, hwrap⟩ := h (not_lt.mp hfields) hgen
      have hmem := hs.copy_mem hpc hfields hgen heven hwrap
      refine hs.reader_step ?_ (List.forall_mem_cons.mpr ⟨hmem, hs.neverTorn⟩)
      simp only [ReaderInv, Function.update_self]

theorem inv_step (hs : Inv s) (e : Event ρ) (h : s.loadedAtRest e = true) : Inv (s.step e) := by
  cases e with
  | write info => exact inv_writerStep hs info
  | read r => exact inv_readerStep hs r h

/-! ## Runs -/

/-- When every reader that returns has loaded the generation outside the write sections, and
before less than a whole round of it, no value returned is torn. -/
theorem neverTorn_of_loadedAtRest (events : ℕ → Event ρ) (n : ℕ)
    (h : ∀ m < n, (stateAt events m).loadedAtRest (events m) = true) :
    (stateAt events n).NeverTorn :=
  Inv.neverTorn (runState_invariant_of_steps inv_init (fun _ e h hs => inv_step hs e h) h)

/-- A whole refresh, and then a whole read. -/
def readsAfterWrite : List (Event Unit) :=
  List.replicate 13 (.write { valid := true, rtoUs := 200 }) ++ List.replicate 13 (.read ())

theorem neverTorn_readsAfterWrite :
    (stateAt (listInputs readsAfterWrite (.read ())) 26).returned
        = [{ valid := true, rtoUs := 200 }]
      ∧ (stateAt (listInputs readsAfterWrite (.read ())) 26).NeverTorn := by
  have hall : allSteps step loadedAtRest {} readsAfterWrite = true := by decide
  exact ⟨by decide, neverTorn_of_loadedAtRest (listInputs readsAfterWrite (.read ())) 26
    (of_allSteps hall (.read ()))⟩

/-- The reader begins and ends inside one write section, with one field written before it
and the others after it. -/
def readsInsideWrite : List (Event Unit) :=
  List.replicate 4 (.write { valid := true, rtoUs := 200 }) ++ List.replicate 13 (.read ())

theorem tornRead :
    (stateAt (listInputs readsInsideWrite (.read ())) 17).returned = [{ valid := true }]
      ∧ ¬(stateAt (listInputs readsInsideWrite (.read ())) 17).NeverTorn := by
  unfold NeverTorn
  decide

end RuntimeInfoCache
end TcpUdp
