import TcpUdp.Lib.Framing
import Mathlib.Logic.Function.Basic

/-!
# Writing packets to byte streams

Several byte streams (one for each connection, indexed by `κ`) and a single writer. The
writer puts one packet at a time on one stream, in pieces; a stream can be cut by
anyone at any moment, and then takes no more bytes. The rule the writer follows: a
packet that was begun is either written to its last byte on the same stream, or the
stream is cut.

`Integrity` is what the rule is worth: every stream consists of whole packets, followed
by at most one incomplete packet, and an incomplete packet that is not being written any
more is the end of a stream that is cut. A cut stream is frozen (`Step.written_frozen`).
-/

namespace TcpUdp.Lib

/-- The streams, and what the writer is doing. -/
structure StreamWriter (κ β : Type) where
  written : κ → List β
  connected : κ → Bool
  /-- The packet being written: its stream, its bytes, and how many are out. -/
  flushing : Option (κ × List β × ℕ)
  /-- The packets written to the last byte, with their streams, in order. -/
  completed : List (κ × List β)

namespace StreamWriter

variable {κ β : Type} [DecidableEq κ]

/-- What the writer and its surroundings can do; `P` is what is known of the packets. -/
inductive Step (P : List β → Prop) : StreamWriter κ β → StreamWriter κ β → Prop
  /-- Nothing is written; some streams may have been cut. -/
  | quiet (w w' : StreamWriter κ β) (hwritten : w'.written = w.written)
      (hflushing : w'.flushing = w.flushing) (hcompleted : w'.completed = w.completed)
      (hconn : ∀ c, w'.connected c = true → w.connected c = true) : Step P w w'
  /-- The first bytes of a packet go out. -/
  | start (w w' : StreamWriter κ β) (c : κ) (d : List β) (n : ℕ) (hP : P d)
      (hidle : w.flushing = none) (hc : w.connected c = true) (hn : n ≤ d.length)
      (hwritten : w'.written = Function.update w.written c (w.written c ++ d.take n))
      (hflushing : w'.flushing = some (c, d, n)) (hcompleted : w'.completed = w.completed)
      (hconn : w'.connected = w.connected) : Step P w w'
  /-- More bytes of the packet go out on the same stream. -/
  | more (w w' : StreamWriter κ β) (c : κ) (d : List β) (t n : ℕ)
      (hflush : w.flushing = some (c, d, t)) (hc : w.connected c = true)
      (hn : t + n ≤ d.length)
      (hwritten : w'.written
        = Function.update w.written c (w.written c ++ (d.drop t).take n))
      (hflushing : w'.flushing = some (c, d, t + n)) (hcompleted : w'.completed = w.completed)
      (hconn : w'.connected = w.connected) : Step P w w'
  /-- All bytes are out. -/
  | finish (w w' : StreamWriter κ β) (c : κ) (d : List β) (t : ℕ)
      (hflush : w.flushing = some (c, d, t)) (ht : d.length ≤ t)
      (hwritten : w'.written = w.written) (hflushing : w'.flushing = none)
      (hcompleted : w'.completed = w.completed ++ [(c, d)])
      (hconn : w'.connected = w.connected) : Step P w w'
  /-- The packet is given up and its stream is cut. -/
  | abandon (w w' : StreamWriter κ β) (c : κ) (d : List β) (t : ℕ)
      (hflush : w.flushing = some (c, d, t)) (ht : t < d.length)
      (hwritten : w'.written = w.written) (hflushing : w'.flushing = none)
      (hcompleted : w'.completed = w.completed)
      (hconn : ∀ c', w'.connected c' = true → c' ≠ c ∧ w.connected c' = true) : Step P w w'

/-- The packets completed on stream `c`, in order. -/
def completedOn (w : StreamWriter κ β) (c : κ) : List (List β) :=
  (w.completed.filter fun e => e.1 = c).map Prod.snd

lemma completedOn_of_eq {w w' : StreamWriter κ β} (h : w'.completed = w.completed) (c : κ) :
    w'.completedOn c = w.completedOn c := by rw [completedOn, completedOn, h]

lemma completedOn_append {w w' : StreamWriter κ β} {c : κ} {d : List β}
    (h : w'.completed = w.completed ++ [(c, d)]) (c' : κ) :
    w'.completedOn c' = w.completedOn c' ++ if c = c' then [d] else [] := by
  rw [completedOn, completedOn, h, List.filter_append, List.map_append]
  congr 1
  split_ifs with hc <;> simp [hc]

/-- The end of a stream nobody is writing: nothing, or a beginning of a packet on a
stream that is cut. -/
def Settled (P : List β → Prop) (connected : Bool) (tail : List β) : Prop :=
  tail = [] ∨ (connected = false ∧ ∃ d, P d ∧ tail <+: d ∧ tail ≠ d)

/-- The end of stream `c`, whether or not the writer is in the middle of a packet. -/
def TailOk (P : List β → Prop) (w : StreamWriter κ β) (c : κ) (tail : List β) : Prop :=
  match w.flushing with
  | some (c', d, t) =>
    if c' = c then P d ∧ t ≤ d.length ∧ tail = d.take t else Settled P (w.connected c) tail
  | none => Settled P (w.connected c) tail

/-- Every stream is its completed packets and an end that is in order. -/
structure Integrity (P : List β → Prop) (w : StreamWriter κ β) : Prop where
  streams : ∀ c, ∃ tail, w.written c = (w.completedOn c).flatten ++ tail ∧ TailOk P w c tail
  packets : ∀ e ∈ w.completed, P e.2

lemma Integrity.of_completedOn {P : List β → Prop} {w : StreamWriter κ β} (h : Integrity P w)
    {c : κ} {d : List β} (hd : d ∈ w.completedOn c) : P d := by
  obtain ⟨e, he, rfl⟩ := List.mem_map.mp hd
  exact h.packets e (List.mem_of_mem_filter he)

/-- Nothing written, nothing going on. -/
lemma integrity_of_empty {P : List β → Prop} {w : StreamWriter κ β}
    (hwritten : ∀ c, w.written c = []) (hflushing : w.flushing = none)
    (hcompleted : w.completed = []) : Integrity P w := by
  refine ⟨fun c => ⟨[], ?_, ?_⟩, fun e he => ?_⟩
  · rw [hwritten, completedOn, hcompleted]; rfl
  · rw [TailOk, hflushing]; exact Or.inl rfl
  · rw [hcompleted] at he; cases he

variable {P : List β → Prop} {w w' : StreamWriter κ β}

lemma Settled.of_imp {a b : Bool} {tail : List β} (h : Settled P a tail)
    (hab : b = true → a = true) : Settled P b tail := by
  refine h.imp_right fun ⟨ha, hd⟩ => ⟨?_, hd⟩
  rw [Bool.eq_false_iff] at ha ⊢
  exact fun hb => ha (hab hb)

/-- What is known of a tail on a stream the writer is not busy with. -/
lemma TailOk.settled {c : κ} {tail : List β} (h : TailOk P w c tail)
    (hne : ∀ d t, w.flushing ≠ some (c, d, t)) : Settled P (w.connected c) tail := by
  rw [TailOk] at h
  split at h
  · rename_i c' d t hflush
    have hcc : c' ≠ c := by
      rintro rfl
      exact hne d t hflush
    rwa [if_neg hcc] at h
  · exact h

lemma TailOk.of_flushing {c : κ} {d tail : List β} {t : ℕ} (h : TailOk P w c tail)
    (hflush : w.flushing = some (c, d, t)) : P d ∧ t ≤ d.length ∧ tail = d.take t := by
  rw [TailOk, hflush] at h
  simpa using h

lemma tailOk_none {c : κ} {tail : List β} (hnone : w.flushing = none) :
    TailOk P w c tail ↔ Settled P (w.connected c) tail := by rw [TailOk, hnone]

lemma tailOk_self {c : κ} {d tail : List β} {t : ℕ} (hflush : w.flushing = some (c, d, t)) :
    TailOk P w c tail ↔ P d ∧ t ≤ d.length ∧ tail = d.take t := by
  rw [TailOk, hflush]
  simp

lemma tailOk_other {c c' : κ} {d tail : List β} {t : ℕ}
    (hflush : w.flushing = some (c, d, t)) (hne : c ≠ c') :
    TailOk P w c' tail ↔ Settled P (w.connected c') tail := by
  rw [TailOk, hflush]
  simp [hne]

lemma packets_step (h : Integrity P w) (hs : Step P w w') : ∀ e ∈ w'.completed, P e.2 := by
  cases hs with
  | quiet _ _ hcompleted => rw [hcompleted]; exact h.packets
  | start c d n _ _ _ _ _ _ hcompleted => rw [hcompleted]; exact h.packets
  | more c d t n _ _ _ _ _ hcompleted => rw [hcompleted]; exact h.packets
  | finish c d t hflush _ _ _ hcompleted =>
    obtain ⟨tail, -, htail⟩ := h.streams c
    intro e he
    rw [hcompleted] at he
    rcases List.mem_append.mp he with he | he
    · exact h.packets e he
    · rw [List.mem_singleton.mp he]
      exact (htail.of_flushing hflush).1
  | abandon c d t _ _ _ _ hcompleted => rw [hcompleted]; exact h.packets

/-- One step keeps every stream in order. -/
theorem integrity_step (h : Integrity P w) (hs : Step P w w') : Integrity P w' := by
  refine ⟨fun c' => ?_, packets_step h hs⟩
  obtain ⟨tail, hw, htail⟩ := h.streams c'
  cases hs with
  | quiet hwritten hflushing hcompleted hconn =>
    -- a stream may have been cut, which only helps its end to be in order
    refine ⟨tail, by rw [hwritten, hw, completedOn_of_eq hcompleted], ?_⟩
    rw [TailOk] at htail ⊢
    rw [hflushing]
    split at htail
    · split_ifs at htail ⊢
      · exact htail
      · exact htail.of_imp (hconn c')
    · exact htail.of_imp (hconn c')
  | start c d n hP hidle hc hn hwritten hflushing hcompleted hconn =>
    rw [tailOk_none hidle] at htail
    by_cases hcc : c = c'
    · -- a connected stream has no tail, so the packet starts right after whole packets
      subst hcc
      have hnil : tail = [] := htail.resolve_right fun ⟨hcut, _⟩ => by simp [hc] at hcut
      refine ⟨d.take n, ?_, (tailOk_self hflushing).mpr ⟨hP, hn, rfl⟩⟩
      rw [hwritten, Function.update_self, hw, hnil, List.append_nil,
        completedOn_of_eq hcompleted]
    · refine ⟨tail, ?_, (tailOk_other hflushing hcc).mpr (by rw [hconn]; exact htail)⟩
      rw [hwritten, Function.update_of_ne (Ne.symm hcc), hw, completedOn_of_eq hcompleted]
  | more c d t n hflush hc hn hwritten hflushing hcompleted hconn =>
    by_cases hcc : c = c'
    · subst hcc
      -- the tail is the part of the packet that was out, and the new bytes continue it
      obtain ⟨hP, -, rfl⟩ := htail.of_flushing hflush
      refine ⟨d.take (t + n), ?_, (tailOk_self hflushing).mpr ⟨hP, hn, rfl⟩⟩
      rw [hwritten, Function.update_self, hw, completedOn_of_eq hcompleted,
        List.append_assoc, ← List.take_add]
    · refine ⟨tail, ?_, ?_⟩
      · rw [hwritten, Function.update_of_ne (Ne.symm hcc), hw, completedOn_of_eq hcompleted]
      · rw [tailOk_other hflush hcc] at htail
        exact (tailOk_other hflushing hcc).mpr (by rw [hconn]; exact htail)
  | finish c d t hflush ht hwritten hflushing hcompleted hconn =>
    by_cases hcc : c = c'
    · subst hcc
      -- the whole packet moves from the tail to the completed ones
      obtain ⟨-, -, rfl⟩ := htail.of_flushing hflush
      refine ⟨[], ?_, (tailOk_none hflushing).mpr (Or.inl rfl)⟩
      rw [hwritten, hw, completedOn_append hcompleted, if_pos rfl, List.flatten_append,
        List.take_of_length_le ht]
      simp
    · refine ⟨tail, ?_, ?_⟩
      · rw [hwritten, hw, completedOn_append hcompleted, if_neg hcc, List.append_nil]
      · rw [tailOk_other hflush hcc] at htail
        exact (tailOk_none hflushing).mpr (by rw [hconn]; exact htail)
  | abandon c d t hflush ht hwritten hflushing hcompleted hconn =>
    refine ⟨tail, by rw [hwritten, hw, completedOn_of_eq hcompleted],
      (tailOk_none hflushing).mpr ?_⟩
    by_cases hcc : c = c'
    · subst hcc
      obtain ⟨hP, -, rfl⟩ := htail.of_flushing hflush
      -- the part that is out is a proper beginning, on a stream that is cut now
      refine Or.inr ⟨?_, d, hP, List.take_prefix t d, fun heq => ?_⟩
      · rw [Bool.eq_false_iff]
        exact fun hon => (hconn c hon).1 rfl
      · have := congrArg List.length heq
        rw [List.length_take] at this
        omega
    · rw [tailOk_other hflush hcc] at htail
      exact htail.of_imp fun hon => (hconn c' hon).2

/-- A cut stream stays cut. -/
theorem Step.connected_of (hs : Step P w w') {c : κ} (hc : w'.connected c = true) :
    w.connected c = true := by
  cases hs with
  | quiet _ _ _ hconn => exact hconn c hc
  | start _ _ _ _ _ _ _ _ _ _ hconn => rwa [hconn] at hc
  | more _ _ _ _ _ _ _ _ _ _ hconn => rwa [hconn] at hc
  | finish _ _ _ _ _ _ _ _ hconn => rwa [hconn] at hc
  | abandon _ _ _ _ _ _ _ _ hconn => exact (hconn c hc).2

/-- Nothing is written to a cut stream. -/
theorem Step.written_frozen (hs : Step P w w') {c : κ} (hc : w.connected c = false) :
    w'.written c = w.written c := by
  cases hs with
  | quiet hwritten => rw [hwritten]
  | start c' d n _ _ hc' _ hwritten =>
    have hne : c ≠ c' := fun h => by rw [h, hc'] at hc; exact absurd hc (by decide)
    rw [hwritten, Function.update_of_ne hne]
  | more c' d t n _ hc' _ hwritten =>
    have hne : c ≠ c' := fun h => by rw [h, hc'] at hc; exact absurd hc (by decide)
    rw [hwritten, Function.update_of_ne hne]
  | finish _ _ _ _ _ hwritten => rw [hwritten]
  | abandon _ _ _ _ _ hwritten => rw [hwritten]

/-- Streams only grow. -/
theorem Step.written_grows (hs : Step P w w') (c : κ) : w.written c <+: w'.written c := by
  cases hs with
  | quiet hwritten => exact hwritten ▸ List.prefix_rfl
  | start c' d n _ _ _ _ hwritten =>
    rw [hwritten, Function.update_apply]
    split_ifs with h
    · rw [h]; exact List.prefix_append _ _
    · exact List.prefix_rfl
  | more c' d t n _ _ _ hwritten =>
    rw [hwritten, Function.update_apply]
    split_ifs with h
    · rw [h]; exact List.prefix_append _ _
    · exact List.prefix_rfl
  | finish _ _ _ _ _ hwritten => exact hwritten ▸ List.prefix_rfl
  | abandon _ _ _ _ _ hwritten => exact hwritten ▸ List.prefix_rfl

/-! ## Packets that are frames -/

lemma Integrity.mono {Q : List β → Prop} (hPQ : ∀ d, P d → Q d) (h : Integrity P w) :
    Integrity Q w := by
  refine ⟨fun c => ?_, fun e he => hPQ _ (h.packets e he)⟩
  have hsettled : ∀ {connected : Bool} {tail : List β}, Settled P connected tail →
      Settled Q connected tail := fun hs =>
    hs.imp_right fun ⟨hcut, d, hd, htail⟩ => ⟨hcut, d, hPQ d hd, htail⟩
  obtain ⟨tail, hw, htail⟩ := h.streams c
  refine ⟨tail, hw, ?_⟩
  rw [TailOk] at htail ⊢
  split at htail
  · split_ifs at htail ⊢
    · exact ⟨hPQ _ htail.1, htail.2⟩
    · exact hsettled htail
  · exact hsettled htail

/-- What is written of an end that is in order begins some packet, or is nothing. -/
lemma TailOk.begins {c : κ} {tail : List β} (h : TailOk P w c tail) :
    tail = [] ∨ ∃ d, P d ∧ tail <+: d := by
  have hsettled : ∀ {connected : Bool}, Settled P connected tail →
      tail = [] ∨ ∃ d, P d ∧ tail <+: d := fun hs =>
    hs.imp_right fun ⟨_, d, hd, hpre, _⟩ => ⟨d, hd, hpre⟩
  rw [TailOk] at h
  split at h
  · split_ifs at h
    · obtain ⟨hd, -, rfl⟩ := h
      exact Or.inr ⟨_, hd, List.take_prefix _ _⟩
    · exact hsettled h
  · exact hsettled h

/-- When the packets are encoded frames, every stream is a stream of frames. -/
theorem Integrity.isStream {α : Type} {F : FrameFormat α β} {Q : α → Prop}
    (hP : ∀ d, P d → ∃ a, F.Valid a ∧ Q a ∧ d = F.encode a) (h : Integrity P w) (c : κ) :
    ∃ as t, F.IsStream as t (w.written c) ∧ ∀ a ∈ as, Q a := by
  have hframes : ∀ ds : List (List β), (∀ d ∈ ds, P d) → ∃ as : List α,
      ds.flatten = as.flatMap F.encode ∧ ∀ a ∈ as, F.Valid a ∧ Q a := by
    intro ds
    induction ds with
    | nil => exact fun _ => ⟨[], rfl, fun _ ha => (nomatch ha)⟩
    | cons d ds ih =>
      intro hds
      obtain ⟨as, heq, has⟩ := ih fun d' hd' => hds d' (List.mem_cons_of_mem _ hd')
      obtain ⟨a, hvalid, hQ, rfl⟩ := hP d (hds d List.mem_cons_self)
      refine ⟨a :: as, by rw [List.flatten_cons, List.flatMap_cons, heq], fun b hb => ?_⟩
      rcases List.mem_cons.mp hb with rfl | hb
      · exact ⟨hvalid, hQ⟩
      · exact has b hb
  -- the end is nothing, a packet that is just complete, or a beginning of one
  obtain ⟨tail, hw, htail⟩ := h.streams c
  obtain ⟨as, heq, has⟩ := hframes _ fun d hd => h.of_completedOn hd
  rcases htail.begins with rfl | ⟨d, hd, hpre⟩
  · exact ⟨as, [], ⟨by rw [hw, heq], fun a ha => (has a ha).1, Or.inl rfl⟩,
      fun a ha => (has a ha).2⟩
  obtain ⟨a, hvalid, hQ, rfl⟩ := hP d hd
  by_cases hwhole : tail = F.encode a
  · -- the packet being written is out to its last byte
    refine ⟨as ++ [a], [], ⟨?_, fun b hb => ?_, Or.inl rfl⟩, fun b hb => ?_⟩
    · rw [hw, heq, hwhole, List.flatMap_append, List.flatMap_singleton, List.append_nil]
    · rcases List.mem_append.mp hb with hb | hb
      · exact (has b hb).1
      · exact (List.mem_singleton.mp hb) ▸ hvalid
    · rcases List.mem_append.mp hb with hb | hb
      · exact (has b hb).2
      · exact (List.mem_singleton.mp hb) ▸ hQ
  · exact ⟨as, tail, ⟨by rw [hw, heq], fun b hb => (has b hb).1,
      Or.inr ⟨a, hvalid, hpre, hwhole⟩⟩, fun b hb => (has b hb).2⟩

end StreamWriter
end TcpUdp.Lib
