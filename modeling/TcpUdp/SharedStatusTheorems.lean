import TcpUdp.SharedStatus
import TcpUdp.Scoring
import Mathlib.Data.Finset.Card

/-!
# When the shift of the back-off is defined

`markDegraded` sets the flag before it counts, and `recover` clears the flag before the count, so
a call of `isCurrentlyDegraded` that finds the flag set may find a count of zero and shift by -1.
`shiftsDefined_iff` says that this is so exactly if the count is loaded when no mark has been
counted since it was last set back; `counted_of_undisturbed` names the three orders of steps that
lead there, and `not_shiftsDefined` is a run with one of them.
-/

namespace TcpUdp
namespace SharedStatus

open Lib

variable {τ : Type} [DecidableEq τ] {s s' : SharedStatus τ} {t : τ}

/-! ## Alone, the steps are the operations of `SocketStatus` -/

def status (s : SharedStatus τ) : SocketStatus :=
  { isDegraded := s.isDegraded
    degradedSinceMs := s.degradedSinceMs
    degradationCount := s.degradationCount.toNat }

theorem markDegraded_alone (hplace : s.place t = .idle) (hnonneg : 0 ≤ s.degradationCount)
    (hlt : s.degradationCount < 2147483647) (nowMs : ℤ) :
    (((s.storeSince t nowMs).storeDegraded t).increment t).status
      = s.status.markDegraded nowMs := by
  have hint : toInt32 (s.degradationCount + 1) = s.degradationCount + 1 :=
    toInt32_of_isInt32 (by constructor <;> omega)
  have hnat : (s.degradationCount + 1).toNat = s.degradationCount.toNat + 1 := by omega
  simp only [storeSince, hplace, storeDegraded, Function.update_self, increment, hint, status, hnat,
    SocketStatus.markDegraded]

theorem isCurrentlyDegraded_alone (hplace : s.place t = .idle) (hnonneg : 0 ≤ s.degradationCount)
    (nowMs maxDurationMs : ℤ) :
    (((s.loadDegraded t maxDurationMs).loadSince t nowMs).loadCount t).returned t
      = some (s.status.isCurrentlyDegraded nowMs maxDurationMs) := by
  have hcount : ((s.degradationCount.toNat : ℕ) : ℤ) = s.degradationCount :=
    Int.toNat_of_nonneg hnonneg
  cases hflag : s.isDegraded with
  | false =>
    simp only [loadDegraded, hplace, hflag, Bool.not_false, if_true, loadSince, loadCount,
      Function.update_self, status, SocketStatus.isCurrentlyDegraded]
  | true =>
    simp only [loadDegraded, hplace, hflag, Bool.not_true, Bool.false_eq_true, if_false, loadSince,
      Function.update_self, loadCount, shiftAmount, status, SocketStatus.isCurrentlyDegraded, hcount]

/-! ## What a step does -/

/-- A step that does something. -/
inductive Move (s : SharedStatus τ) : Event τ → SharedStatus τ → Prop
  | storeSince (t : τ) (nowMs : ℤ) : s.place t = .idle →
      Move s (.storeSince t nowMs)
        { s with
          degradedSinceMs := nowMs
          place := Function.update s.place t .sinceStored
          marks := s.marks + 1 }
  | storeDegraded (t : τ) : s.place t = .sinceStored →
      Move s (.storeDegraded t)
        { s with isDegraded := true, place := Function.update s.place t .flagStored }
  | increment (t : τ) : s.place t = .flagStored →
      Move s (.increment t)
        { s with
          degradationCount := toInt32 (s.degradationCount + 1)
          place := Function.update s.place t .idle }
  | notDegraded (t : τ) (maxDurationMs : ℤ) : s.place t = .idle → s.isDegraded = false →
      Move s (.loadDegraded t maxDurationMs)
        { s with returned := Function.update s.returned t (some false) }
  | loadDegraded (t : τ) (maxDurationMs : ℤ) : s.place t = .idle → s.isDegraded = true →
      Move s (.loadDegraded t maxDurationMs)
        { s with place := Function.update s.place t (.flagLoaded maxDurationMs) }
  | loadSince (t : τ) (nowMs maxDurationMs : ℤ) : s.place t = .flagLoaded maxDurationMs →
      Move s (.loadSince t nowMs)
        { s with
          place := Function.update s.place t
            (.sinceLoaded maxDurationMs (nowMs - s.degradedSinceMs)) }
  | loadCount (t : τ) (maxDurationMs elapsedMs : ℤ) (result : Bool) :
      s.place t = .sinceLoaded maxDurationMs elapsedMs →
      Move s (.loadCount t)
        { s with
          place := Function.update s.place t .idle
          returned := Function.update s.returned t (some result)
          shifts := s.shifts ++ [shiftAmount s.degradationCount] }
  | clearDegraded (t : τ) : s.place t = .idle →
      Move s (.clearDegraded t)
        { s with isDegraded := false, place := Function.update s.place t .flagCleared }
  | clearCount (t : τ) : s.place t = .flagCleared →
      Move s (.clearCount t)
        { s with degradationCount := 0, place := Function.update s.place t .idle }

lemma step_cases (s : SharedStatus τ) (e : Event τ) : s.step e = s ∨ Move s e (s.step e) := by
  cases e with
  | storeSince t nowMs =>
    simp only [step, SharedStatus.storeSince]
    split
    · exact Or.inr (.storeSince t nowMs ‹_›)
    · exact Or.inl rfl
  | storeDegraded t =>
    simp only [step, SharedStatus.storeDegraded]
    split
    · exact Or.inr (.storeDegraded t ‹_›)
    · exact Or.inl rfl
  | increment t =>
    simp only [step, SharedStatus.increment]
    split
    · exact Or.inr (.increment t ‹_›)
    · exact Or.inl rfl
  | loadDegraded t maxDurationMs =>
    simp only [step, SharedStatus.loadDegraded]
    split
    · split_ifs with hflag
      · exact Or.inr (.notDegraded t maxDurationMs ‹_› (Bool.not_eq_true' _ |>.mp hflag))
      · exact Or.inr (.loadDegraded t maxDurationMs ‹_› (by simpa using hflag))
    · exact Or.inl rfl
  | loadSince t nowMs =>
    simp only [step, SharedStatus.loadSince]
    split
    · exact Or.inr (.loadSince t nowMs _ ‹_›)
    · exact Or.inl rfl
  | loadCount t =>
    simp only [step, SharedStatus.loadCount]
    split
    · exact Or.inr (.loadCount t _ _ _ ‹_›)
    · exact Or.inl rfl
  | clearDegraded t =>
    simp only [step, SharedStatus.clearDegraded]
    split
    · exact Or.inr (.clearDegraded t ‹_›)
    · exact Or.inl rfl
  | clearCount t =>
    simp only [step, SharedStatus.clearCount]
    split
    · exact Or.inr (.clearCount t ‹_›)
    · exact Or.inl rfl

/-! ## What a step does to the count -/

variable {e : Event τ} {events : ℕ → Event τ} {n : ℕ}

lemma degradationCount_clears (h : s.clears e = true) : (s.step e).degradationCount = 0 := by
  cases e with
  | clearCount t =>
    have hp : s.place t = .flagCleared := of_decide_eq_true h
    simp only [step, SharedStatus.clearCount, hp]
  | _ => cases h

lemma degradationCount_keeps (hinc : ¬ s.increments e = true) (hclear : ¬ s.clears e = true) :
    (s.step e).degradationCount = s.degradationCount := by
  rcases step_cases s e with h | h
  · rw [h]
  · generalize s.step e = s' at h
    cases h with
    | increment t hp => exact absurd (decide_eq_true hp) hinc
    | clearCount t hp => exact absurd (decide_eq_true hp) hclear
    | _ => rfl

lemma mem_shifts_step {amount : ℤ} : amount ∈ (s.step e).shifts
    ↔ amount ∈ s.shifts ∨ s.loadsCount e = true ∧ amount = shiftAmount s.degradationCount := by
  cases hload : s.loadsCount e with
  | true =>
    cases e with
    | loadCount t =>
      simp only [loadsCount] at hload
      split at hload
      · rename_i maxDurationMs elapsedMs hp
        simp only [step, SharedStatus.loadCount, hp, List.mem_append, List.mem_singleton, true_and]
      · cases hload
    | _ => cases hload
  | false =>
    have hsame : (s.step e).shifts = s.shifts := by
      rcases step_cases s e with h | h
      · rw [h]
      · generalize s.step e = s' at h
        cases h with
        | loadCount t maxDurationMs elapsedMs result hp =>
          simp only [loadsCount, hp] at hload
          cases hload
        | _ => rfl
    rw [hsame]
    simp

/-- The shifts of a run are those of its loads of the count. -/
lemma mem_shifts_stateAt {amount : ℤ} : amount ∈ (stateAt events n).shifts
    ↔ ∃ m < n, (stateAt events m).loadsCount (events m) = true
      ∧ amount = shiftAmount (stateAt events m).degradationCount := by
  induction n with
  | zero => exact iff_of_false List.not_mem_nil fun ⟨m, hm, _⟩ => Nat.not_lt_zero m hm
  | succ n ih =>
    have hstep : stateAt events (n + 1) = (stateAt events n).step (events n) := rfl
    rw [hstep, mem_shifts_step, ih]
    constructor
    · rintro (⟨m, hm, hload⟩ | hload)
      · exact ⟨m, Nat.lt_succ_of_lt hm, hload⟩
      · exact ⟨n, Nat.lt_succ_self n, hload⟩
    · rintro ⟨m, hm, hload⟩
      rcases Nat.lt_succ_iff_lt_or_eq.mp hm with hlt | rfl
      · exact Or.inl ⟨m, hlt, hload⟩
      · exact Or.inr hload

/-- A count of an `int` that is not negative is shifted by what is allowed unless it is zero. -/
lemma shiftAmount_iff {count : ℤ} (h : 0 ≤ count) :
    (0 ≤ shiftAmount count ∧ shiftAmount count ≤ 3) ↔ 0 < count := by
  rw [shiftAmount]
  omega

/-! ## The count does not overflow -/

/-- A thread in `markDegraded`. -/
def Place.marking : Place → Bool
  | .sinceStored | .flagStored => true
  | .idle | .flagLoaded _ | .sinceLoaded _ _ | .flagCleared => false

/-- Every mark is counted at most once, and not yet where a thread is in `markDegraded`. -/
structure Tallied (s : SharedStatus τ) : Prop where
  nonneg : 0 ≤ s.degradationCount
  le : ∃ markers : Finset τ, (∀ t, t ∈ markers ↔ (s.place t).marking = true)
    ∧ s.degradationCount + markers.card ≤ s.marks

omit [DecidableEq τ] in
lemma tallied_init : Tallied ({} : SharedStatus τ) where
  nonneg := le_rfl
  le := ⟨∅, fun t => iff_of_false (Finset.notMem_empty t) Bool.false_ne_true, le_rfl⟩

/-- A thread that stays in `markDegraded` or stays out of it. -/
lemma Tallied.move (h : Tallied s) {v : Place} (hplace : s'.place = Function.update s.place t v)
    (hmarking : v.marking = (s.place t).marking) (hmarks : s'.marks = s.marks)
    (hnonneg : 0 ≤ s'.degradationCount) (hle : s'.degradationCount ≤ s.degradationCount) :
    Tallied s' := by
  obtain ⟨markers, hmem, hcard⟩ := h.le
  refine ⟨hnonneg, markers, fun t' => ?_, by omega⟩
  rw [hmem, hplace]
  by_cases ht : t' = t
  · rw [ht, Function.update_self, hmarking]
  · rw [Function.update_of_ne ht]

lemma Tallied.storeSince (h : Tallied s) (hp : s.place t = .idle) (nowMs : ℤ) :
    Tallied { s with
      degradedSinceMs := nowMs
      place := Function.update s.place t .sinceStored
      marks := s.marks + 1 } := by
  obtain ⟨markers, hmem, hcard⟩ := h.le
  have hnew : t ∉ markers := by
    rw [hmem, hp]
    exact Bool.false_ne_true
  refine ⟨h.nonneg, insert t markers, fun t' => ?_, ?_⟩
  · rw [Finset.mem_insert, hmem]
    by_cases ht : t' = t
    · rw [ht]
      exact iff_of_true (Or.inl rfl) (by simp only [Function.update_self, Place.marking])
    · simp only [Function.update_of_ne ht, or_iff_right ht]
  · rw [Finset.card_insert_of_notMem hnew]
    push_cast
    omega

omit [DecidableEq τ] in
/-- A mark that is counted is the mark of a thread, so the count stays below the marks. -/
lemma Tallied.fetchAdd (h : Tallied s) (hmarks : s.marks < 2 ^ 31) (hp : s.place t = .flagStored) :
    toInt32 (s.degradationCount + 1) = s.degradationCount + 1 := by
  obtain ⟨markers, hmem, hcard⟩ := h.le
  have ht : t ∈ markers := by
    rw [hmem, hp]
    rfl
  have hpos : 0 < markers.card := Finset.card_pos.mpr ⟨t, ht⟩
  have hnonneg := h.nonneg
  apply toInt32_of_isInt32
  constructor <;> omega

lemma Tallied.increment (h : Tallied s) (hmarks : s.marks < 2 ^ 31) (hp : s.place t = .flagStored) :
    Tallied { s with
      degradationCount := toInt32 (s.degradationCount + 1)
      place := Function.update s.place t .idle } := by
  rw [h.fetchAdd hmarks hp]
  have hnonneg := h.nonneg
  obtain ⟨markers, hmem, hcard⟩ := h.le
  have ht : t ∈ markers := by
    rw [hmem, hp]
    rfl
  refine ⟨?_, markers.erase t, fun t' => ?_, ?_⟩
  · show 0 ≤ s.degradationCount + 1
    omega
  · rw [Finset.mem_erase, hmem]
    by_cases heq : t' = t
    · rw [heq]
      refine iff_of_false (fun hne => hne.1 rfl) ?_
      simp only [Function.update_self, Place.marking, Bool.false_eq_true, not_false_eq_true]
    · simp only [Function.update_of_ne heq, ne_eq, heq, not_false_eq_true, true_and]
  · have hleft := Finset.card_erase_add_one ht
    show s.degradationCount + 1 + (markers.erase t).card ≤ s.marks
    omega

lemma Tallied.degradationCount_increments (h : Tallied s) (hmarks : s.marks < 2 ^ 31)
    (hinc : s.increments e = true) : (s.step e).degradationCount = s.degradationCount + 1 := by
  cases e with
  | increment t =>
    have hp : s.place t = .flagStored := of_decide_eq_true hinc
    simp only [step, SharedStatus.increment, hp]
    exact h.fetchAdd hmarks hp
  | _ => cases hinc

lemma tallied_step (h : Tallied s) (hmarks : s.marks < 2 ^ 31) (e : Event τ) :
    Tallied (s.step e) := by
  rcases step_cases s e with hstep | hstep
  · rw [hstep]
    exact h
  · generalize s.step e = s' at hstep ⊢
    cases hstep with
    | storeSince t nowMs hp => exact h.storeSince hp nowMs
    | increment t hp => exact h.increment hmarks hp
    | notDegraded t maxDurationMs hp hflag =>
      exact h.move (Function.update_eq_self t s.place).symm rfl rfl h.nonneg le_rfl
    | clearCount t hp => exact h.move rfl (by rw [hp]; rfl) rfl le_rfl h.nonneg
    | storeDegraded t hp | loadDegraded t _ hp | loadSince t _ _ hp | loadCount t _ _ _ hp
    | clearDegraded t hp => exact h.move rfl (by rw [hp]; rfl) rfl h.nonneg le_rfl

lemma marks_le_step (s : SharedStatus τ) (e : Event τ) : s.marks ≤ (s.step e).marks := by
  rcases step_cases s e with hstep | hstep
  · rw [hstep]
  · generalize s.step e = s' at hstep
    cases hstep with
    | storeSince => exact Nat.le_succ _
    | _ => exact le_rfl

lemma marks_mono {m : ℕ} (h : m ≤ n) : (stateAt events m).marks ≤ (stateAt events n).marks :=
  monotone_nat_of_le_succ (fun k => marks_le_step (stateAt events k) (events k)) h

lemma tallied_stateAt (hmarks : (stateAt events n).marks < 2 ^ 31) :
    Tallied (stateAt events n) := by
  induction n with
  | zero => exact tallied_init
  | succ n ih =>
    have hlt : (stateAt events n).marks < 2 ^ 31 :=
      lt_of_le_of_lt (marks_mono (Nat.le_succ n)) hmarks
    exact tallied_step (ih hlt) hlt (events n)

/-! ## When the count is not zero -/

lemma degradationCount_pos_iff (hmarks : (stateAt events n).marks < 2 ^ 31) :
    0 < (stateAt events n).degradationCount ↔ Counted events n := by
  apply iff_since (r := fun m => 0 < (stateAt events m).degradationCount)
  · exact lt_irrefl 0
  · intro m hm hinc
    have hlt : (stateAt events m).marks < 2 ^ 31 := lt_of_le_of_lt (marks_mono hm.le) hmarks
    -- the count does not wrap, so an increment makes it positive
    have htallied := tallied_stateAt hlt
    show 0 < ((stateAt events m).step (events m)).degradationCount
    rw [htallied.degradationCount_increments hlt hinc]
    exact Int.lt_add_one_of_le htallied.nonneg
  · intro m hm _ hclear
    show ¬ 0 < ((stateAt events m).step (events m)).degradationCount
    rw [degradationCount_clears hclear]
    exact lt_irrefl 0
  · intro m hm hinc hclear
    show 0 < ((stateAt events m).step (events m)).degradationCount ↔ _
    rw [degradationCount_keeps hinc hclear]

/-- Every shift was by 0 to 3 if and only if every load of the count came when a mark had been
counted since the count was last set back. -/
theorem shiftsDefined_iff (events : ℕ → Event τ) (n : ℕ)
    (hmarks : (stateAt events n).marks < 2 ^ 31) :
    (stateAt events n).ShiftsDefined
      ↔ ∀ m < n, (stateAt events m).loadsCount (events m) = true → Counted events m := by
  have hload : ∀ m < n, (0 ≤ shiftAmount (stateAt events m).degradationCount
      ∧ shiftAmount (stateAt events m).degradationCount ≤ 3) ↔ Counted events m := by
    intro m hm
    have hlt : (stateAt events m).marks < 2 ^ 31 := lt_of_le_of_lt (marks_mono hm.le) hmarks
    rw [shiftAmount_iff (tallied_stateAt hlt).nonneg, degradationCount_pos_iff hlt]
  constructor
  · intro hdefined m hm hm'
    exact (hload m hm).mp (hdefined _ (mem_shifts_stateAt.mpr ⟨m, hm, hm', rfl⟩))
  · intro hcounted amount hamount
    obtain ⟨m, hm, hm', rfl⟩ := mem_shifts_stateAt.mp hamount
    exact (hload m hm).mpr (hcounted m hm hm')

/-- One thread marks, and another looks after that. -/
def lookAfterwards : ℕ → Event Bool :=
  listInputs [.storeSince false 5, .storeDegraded false, .increment false,
    .loadDegraded true 10000, .loadSince true 6, .loadCount true] (.clearCount false)

theorem shiftsDefined_iff_lookAfterwards :
    (stateAt lookAfterwards 6).shifts = [0] ∧ ((stateAt lookAfterwards 6).ShiftsDefined
      ↔ ∀ m < 6, (stateAt lookAfterwards m).loadsCount (lookAfterwards m) = true →
        Counted lookAfterwards m) :=
  ⟨by decide, shiftsDefined_iff lookAfterwards 6 (by decide)⟩

/-- The flag is loaded between the first mark's store of it and the count of that mark. -/
def lookTooEarly : ℕ → Event Bool :=
  listInputs [.storeSince false 5, .storeDegraded false, .loadDegraded true 10000,
    .loadSince true 6, .loadCount true] (.increment false)

theorem not_shiftsDefined :
    ¬ ∀ (τ : Type) [DecidableEq τ] (events : ℕ → Event τ) (n : ℕ),
      (stateAt events n).marks < 2 ^ 31 → (stateAt events n).ShiftsDefined := by
  intro h
  have hshift : (stateAt lookTooEarly 5).shifts = [-1] := by decide
  have hdefined := h Bool lookTooEarly 5 (by decide)
  rw [ShiftsDefined, hshift] at hdefined
  exact absurd hdefined (by decide)

/-! ## Steps that do not get in each other's way -/

/-- Where the flag is set a mark has been counted, or will be by a thread that is about to; and
who has found it set finds the count. -/
structure Covered (s : SharedStatus τ) (counted : Prop) : Prop where
  flag : s.isDegraded = true → counted ∨ ∃ t, s.place t = .flagStored
  checking : ∀ t, (s.place t).checking = true → counted

variable {counted counted' : Prop}

omit [DecidableEq τ] in
lemma Covered.of_counted (h : counted) : Covered s counted := ⟨fun _ => Or.inl h, fun _ _ => h⟩

/-- A step of a thread that counts nothing. -/
lemma Covered.move (h : Covered s counted) (hmono : counted → counted') {v : Place}
    (hplace : s'.place = Function.update s.place t v)
    (hflag : s'.isDegraded = true → s.isDegraded = true ∨ v = .flagStored)
    (hstored : s.place t ≠ .flagStored) (hchecking : v.checking = true → counted') :
    Covered s' counted' where
  flag hset := by
    rcases hflag hset with hset | hv
    · rcases h.flag hset with hc | ⟨t', ht'⟩
      · exact Or.inl (hmono hc)
      · have hne : t' ≠ t := by
          rintro rfl
          exact hstored ht'
        right
        refine ⟨t', ?_⟩
        rw [hplace, Function.update_of_ne hne]
        exact ht'
    · exact Or.inr ⟨t, by rw [hplace, Function.update_self, hv]⟩
  checking t' ht' := by
    rw [hplace] at ht'
    by_cases heq : t' = t
    · rw [heq, Function.update_self] at ht'
      exact hchecking ht'
    · rw [Function.update_of_ne heq] at ht'
      exact hmono (h.checking t' ht')

/-- Nobody has found the flag set when the count is set back. -/
lemma Covered.clearCount (he : s.Undisturbed e) (hclear : s.clears e = true) :
    Covered (s.step e) counted := by
  cases e with
  | clearCount t =>
    have hp : s.place t = .flagCleared := of_decide_eq_true hclear
    obtain ⟨hflag, hplaces⟩ := he hp
    simp only [SharedStatus.step, SharedStatus.clearCount, hp]
    refine ⟨fun hset => ?_, fun t' ht' => ?_⟩
    · rw [hflag] at hset
      cases hset
    · have ht' : (Function.update s.place t .idle t').checking = true := ht'
      by_cases heq : t' = t
      · rw [heq, Function.update_self] at ht'
        cases ht'
      · rw [Function.update_of_ne heq, hplaces t'] at ht'
        cases ht'
  | _ => cases hclear

lemma Covered.step (h : Covered s counted) (he : s.Undisturbed e)
    (hinc : s.increments e = true → counted') (hkeep : ¬ s.clears e = true → counted → counted') :
    Covered (s.step e) counted' := by
  by_cases hclear : s.clears e = true
  · exact .clearCount he hclear
  -- any other step keeps what has been counted
  have hmono := hkeep hclear
  rcases step_cases s e with hstep | hstep
  · rw [hstep]
    exact ⟨fun hset => (h.flag hset).imp_left hmono, fun t ht => hmono (h.checking t ht)⟩
  · generalize s.step e = s' at hstep ⊢
    cases hstep with
    | storeSince t nowMs hp => exact h.move hmono rfl Or.inl (by rw [hp]; nofun) nofun
    | storeDegraded t hp => exact h.move hmono rfl (fun _ => Or.inr rfl) (by rw [hp]; nofun) nofun
    | increment t hp => exact .of_counted (hinc (decide_eq_true hp))
    | notDegraded t maxDurationMs hp hflag =>
      exact h.move hmono (Function.update_eq_self t s.place).symm Or.inl (by rw [hp]; nofun)
        (by rw [hp]; nofun)
    | loadDegraded t maxDurationMs hp hflag =>
      -- no mark is about to be counted, so one has been
      have hc := (h.flag hflag).resolve_right fun ⟨t', ht'⟩ => he hp hflag t' ht'
      exact h.move hmono rfl Or.inl (by rw [hp]; nofun) fun _ => hmono hc
    | loadSince t nowMs maxDurationMs hp =>
      have hc := h.checking t (by rw [hp]; rfl)
      exact h.move hmono rfl Or.inl (by rw [hp]; nofun) fun _ => hmono hc
    | loadCount t maxDurationMs elapsedMs result hp =>
      exact h.move hmono rfl Or.inl (by rw [hp]; nofun) nofun
    | clearDegraded t hp => exact h.move hmono rfl nofun (by rw [hp]; nofun) nofun
    | clearCount t hp => exact absurd (decide_eq_true hp) hclear

lemma covered_stateAt (h : ∀ m < n, (stateAt events m).Undisturbed (events m)) :
    Covered (stateAt events n) (Counted events n) := by
  induction n with
  | zero => exact ⟨nofun, fun _ => nofun⟩
  | succ n ih =>
    have hbefore := ih fun m hm => h m (Nat.lt_succ_of_lt hm)
    apply hbefore.step (h n (Nat.lt_succ_self n))
    · exact fun hinc => (since_succ n).mpr (Or.inl hinc)
    · exact fun hclear hc => (since_succ n).mpr (Or.inr ⟨hclear, hc⟩)

/-- Who loads the count has found the flag set, so where no step gets in the way of another a
mark has been counted. -/
theorem counted_of_undisturbed (events : ℕ → Event τ) (n : ℕ)
    (h : ∀ m < n, (stateAt events m).Undisturbed (events m)) :
    ∀ m < n, (stateAt events m).loadsCount (events m) = true → Counted events m := by
  intro m hm hload
  have hcovered := covered_stateAt fun k hk => h k (lt_trans hk hm)
  generalize events m = e at hload
  cases e with
  | loadCount t =>
    simp only [loadsCount] at hload
    split at hload
    · rename_i maxDurationMs elapsedMs hp
      exact hcovered.checking t (by rw [hp]; rfl)
    · cases hload
  | _ => cases hload

/-- A mark between the two stores of `recover` leaves the flag set and the count at zero. -/
example : (stateAt (listInputs [.clearDegraded false, .storeSince true 5, .storeDegraded true,
    .increment true, .clearCount false, .loadDegraded true 10000, .loadSince true 6,
    .loadCount true] (.clearCount false)) 8).shifts = [-1] := by
  decide

/-- A `recover` comes between the two loads. -/
example : (stateAt (listInputs [.storeSince true 5, .storeDegraded true, .increment true,
    .loadDegraded true 10000, .clearDegraded false, .clearCount false, .loadSince true 6,
    .loadCount true] (.clearCount false)) 8).shifts = [-1] := by
  decide

end SharedStatus
end TcpUdp
