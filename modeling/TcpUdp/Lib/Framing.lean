import Mathlib.Data.List.Basic

/-!
# Incremental decoding of a frame stream

A byte stream carries frames back to back, and a receiver sees it in pieces. The
receiver keeps what it could not use yet and, after every piece, takes complete frames
off the front of its buffer until the scanner says otherwise.

`FrameFormat` is what encoder and scanner must agree on: a whole frame at the front is
recognised whatever follows it, and a frame that is not complete yet makes the scanner
wait. From that alone, `IsStream.decode` reads a stream back exactly and `IsStream.rest`
says that the cuts do not matter: what was kept of a prefix, with the rest appended,
carries the frames that the prefix did not complete.
-/

namespace TcpUdp.Lib

/-- What a scanner finds at the front of a buffer. -/
inductive Scan (α : Type) where
  /-- A whole frame, and the number of bytes it takes. -/
  | frame (a : α) (len : ℕ)
  /-- Nothing usable until more bytes arrive; the buffer is kept. -/
  | wait
  /-- Bytes that are no frame; the buffer is thrown away. -/
  | reject
  deriving DecidableEq

/-- Take frames off the front of a buffer, at most `fuel` of them: the frames found and
the bytes that are left. -/
def decode {α β : Type} (scan : List β → Scan α) : ℕ → List β → List α × List β
  | 0, buf => ([], buf)
  | fuel + 1, buf =>
    match scan buf with
    | .frame a len =>
      let (as, rest) := decode scan fuel (buf.drop len)
      (a :: as, rest)
    | .wait => ([], buf)
    | .reject => ([], [])

/-- An encoder and a scanner that fit together on the frames in `Valid`. -/
structure FrameFormat (α β : Type) where
  encode : α → List β
  scan : List β → Scan α
  Valid : α → Prop
  encode_pos : ∀ a, Valid a → 0 < (encode a).length
  scan_nil : scan [] = .wait
  scan_encode : ∀ a rest, Valid a → scan (encode a ++ rest) = .frame a (encode a).length
  scan_partial : ∀ a p, Valid a → p <+: encode a → p ≠ encode a → scan p = .wait

namespace FrameFormat

variable {α β : Type} (F : FrameFormat α β)

/-! ## Streams and their prefixes -/

/-- The beginning of a frame that is not complete, or nothing at all. -/
def IsPartial (t : List β) : Prop :=
  t = [] ∨ ∃ a, F.Valid a ∧ t <+: F.encode a ∧ t ≠ F.encode a

/-- `x` carries the frames `as`, followed by the incomplete frame `t`. -/
structure IsStream (as : List α) (t x : List β) : Prop where
  eq : x = as.flatMap F.encode ++ t
  valid : ∀ a ∈ as, F.Valid a
  isPartial : F.IsPartial t

variable {F}

lemma IsPartial.of_prefix {s t : List β} (ht : F.IsPartial t) (h : s <+: t) :
    F.IsPartial s := by
  rcases ht with ht | ⟨a, ha, hpre, hne⟩
  · exact Or.inl (List.prefix_nil.mp (ht ▸ h))
  · refine Or.inr ⟨a, ha, h.trans hpre, fun hs => hne ?_⟩
    exact hpre.eq_of_length_le (hs ▸ h.length_le)

lemma IsPartial.scan {t : List β} (ht : F.IsPartial t) : F.scan t = .wait := by
  rcases ht with ht | ⟨a, ha, hpre, hne⟩
  · rw [ht]; exact F.scan_nil
  · exact F.scan_partial a t ha hpre hne

/-- A prefix of a stream carries the first few of its frames. -/
lemma IsStream.of_prefix {as : List α} {t x y : List β} (h : F.IsStream as t x)
    (hy : y <+: x) : ∃ k t', F.IsStream (as.take k) t' y := by
  induction as generalizing x y with
  | nil =>
    have hx : x = t := h.eq
    exact ⟨0, y, rfl, by simp, h.isPartial.of_prefix (hx ▸ hy)⟩
  | cons a as ih =>
    have ha : F.Valid a := h.valid a List.mem_cons_self
    have hx : x = F.encode a ++ (as.flatMap F.encode ++ t) := by
      rw [h.eq, List.flatMap_cons, List.append_assoc]
    have hax : F.encode a <+: x := ⟨_, hx.symm⟩
    by_cases hlen : (F.encode a).length ≤ y.length
    · -- the first frame is inside the prefix: peel it off both
      obtain ⟨y', hy'⟩ := List.prefix_of_prefix_length_le hax hy hlen
      have hrest : y' <+: as.flatMap F.encode ++ t := by
        rw [← hy', hx] at hy
        exact (List.prefix_append_right_inj _).mp hy
      obtain ⟨k, t', hk⟩ := ih
        ⟨rfl, fun b hb => h.valid b (List.mem_cons_of_mem _ hb), h.isPartial⟩ hrest
      refine ⟨k + 1, t', ?_, ?_, hk.isPartial⟩
      · rw [← hy', hk.eq, List.take_succ_cons, List.flatMap_cons, List.append_assoc]
      · intro b hb
        rcases List.mem_cons.mp (List.take_succ_cons ▸ hb) with rfl | hb
        · exact ha
        · exact hk.valid b hb
    · -- the prefix ends inside the first frame
      have hya : y <+: F.encode a := List.prefix_of_prefix_length_le hy hax (by omega)
      exact ⟨0, y, rfl, by simp,
        Or.inr ⟨a, ha, hya, fun heq => hlen (Nat.le_of_eq (congrArg List.length heq).symm)⟩⟩

/-! ## Decoding -/

/-- With enough fuel, decoding a stream finds its frames and keeps its incomplete end. -/
lemma IsStream.decode {as : List α} {t x : List β} (h : F.IsStream as t x) {fuel : ℕ}
    (hfuel : as.length ≤ fuel) : decode F.scan fuel x = (as, t) := by
  induction as generalizing fuel x with
  | nil =>
    have hx : x = t := h.eq
    cases fuel with
    | zero => rw [Lib.decode, hx]
    | succ fuel => rw [Lib.decode, hx, h.isPartial.scan]
  | cons a as ih =>
    obtain ⟨fuel, rfl⟩ : ∃ m, fuel = m + 1 :=
      ⟨fuel - 1, by rw [List.length_cons] at hfuel; omega⟩
    have ha : F.Valid a := h.valid a List.mem_cons_self
    have hx : x = F.encode a ++ (as.flatMap F.encode ++ t) := by
      rw [h.eq, List.flatMap_cons, List.append_assoc]
    have htail : Lib.decode F.scan fuel (as.flatMap F.encode ++ t) = (as, t) :=
      ih ⟨rfl, fun b hb => h.valid b (List.mem_cons_of_mem _ hb), h.isPartial⟩
        (by rw [List.length_cons] at hfuel; omega)
    rw [Lib.decode, hx, F.scan_encode a _ ha]
    simp only [List.drop_left, htail]

/-- A stream has at least as many bytes as frames, so its length is fuel enough. -/
lemma IsStream.length_le {as : List α} {t x : List β} (h : F.IsStream as t x) :
    as.length ≤ x.length := by
  rw [h.eq, List.length_append]
  have hvalid := h.valid
  clear h
  induction as with
  | nil => exact Nat.zero_le _
  | cons a as ih =>
    have hpos := F.encode_pos a (hvalid a List.mem_cons_self)
    have := ih fun b hb => hvalid b (List.mem_cons_of_mem _ hb)
    rw [List.flatMap_cons, List.length_append, List.length_cons]
    omega

/-- The frames of a stream and its incomplete end are determined by its bytes. -/
lemma IsStream.unique {as bs : List α} {s t x : List β} (ha : F.IsStream as s x)
    (hb : F.IsStream bs t x) : as = bs ∧ s = t := by
  -- both are what the decoder finds
  have h1 := ha.decode ha.length_le
  have h2 := hb.decode hb.length_le
  exact Prod.ext_iff.mp (h1.symm.trans h2)

/-- Decoding what was kept of a prefix, together with the rest of the stream, finds the
frames that the prefix did not complete. -/
lemma IsStream.rest {as bs : List α} {s t y z : List β} (hx : F.IsStream as t (y ++ z))
    (hy : F.IsStream bs s y) : ∃ cs, as = bs ++ cs ∧ F.IsStream cs t (s ++ z) := by
  obtain ⟨k, s', hk⟩ := hx.of_prefix (List.prefix_append y z)
  obtain ⟨hbs, hs⟩ := hk.unique hy
  refine ⟨as.drop k, by rw [← hbs, List.take_append_drop], ?_, ?_, hx.isPartial⟩
  · -- cancel the frames that the prefix completed
    have heq : (as.take k).flatMap F.encode ++ (s ++ z)
        = (as.take k).flatMap F.encode ++ ((as.drop k).flatMap F.encode ++ t) := by
      rw [← List.append_assoc, ← hs, ← hk.eq, hx.eq, ← List.append_assoc,
        ← List.flatMap_append, List.take_append_drop]
    exact List.append_cancel_left heq
  · intro a hmem
    exact hx.valid a (List.mem_of_mem_drop hmem)

/-- Whole frames at the beginning of a stream are its first frames. -/
lemma IsStream.frames_grow {as bs : List α} {t x : List β} (h : F.IsStream as t x)
    (hvalid : ∀ b ∈ bs, F.Valid b) (hbs : bs.flatMap F.encode <+: x) : bs <+: as := by
  obtain ⟨z, rfl⟩ := hbs
  have hstart : F.IsStream bs [] (bs.flatMap F.encode) :=
    ⟨(List.append_nil _).symm, hvalid, Or.inl rfl⟩
  obtain ⟨cs, rfl, -⟩ := h.rest hstart
  exact List.prefix_append _ _

/-- A list of encoded frames. -/
lemma exists_frames {ds : List (List β)} (h : ∀ d ∈ ds, ∃ a, F.Valid a ∧ d = F.encode a) :
    ∃ as : List α, ds = as.map F.encode ∧ ∀ a ∈ as, F.Valid a := by
  induction ds with
  | nil => exact ⟨[], rfl, fun _ ha => (nomatch ha)⟩
  | cons d ds ih =>
    obtain ⟨as, rfl, has⟩ := ih fun d' hd' => h d' (List.mem_cons_of_mem _ hd')
    obtain ⟨a, ha, rfl⟩ := h d List.mem_cons_self
    exact ⟨a :: as, rfl, List.forall_mem_cons.mpr ⟨ha, has⟩⟩

/-! ## The frames inside the first bytes of a stream -/

variable (F) in
/-- The frames among `as` that are complete within the first `n` bytes of their stream. -/
def completed : List α → ℕ → List α
  | [], _ => []
  | a :: as, n =>
    if (F.encode a).length ≤ n then a :: completed as (n - (F.encode a).length) else []

/-- The frames of a prefix are the ones completed within its length. -/
lemma isStream_completed {as : List α} (hvalid : ∀ a ∈ as, F.Valid a) {x : List β}
    (hx : x <+: as.flatMap F.encode) : ∃ t, F.IsStream (F.completed as x.length) t x := by
  induction as generalizing x with
  | nil =>
    have : x = [] := List.prefix_nil.mp hx
    exact ⟨[], by rw [this]; rfl, by simp [completed], Or.inl rfl⟩
  | cons a as ih =>
    have ha : F.Valid a := hvalid a List.mem_cons_self
    rw [List.flatMap_cons] at hx
    have hax : F.encode a <+: F.encode a ++ as.flatMap F.encode := List.prefix_append _ _
    rw [completed]
    split_ifs with hlen
    · -- the first frame is complete: go on behind it
      obtain ⟨y, rfl⟩ := List.prefix_of_prefix_length_le hax hx hlen
      have hy : y <+: as.flatMap F.encode := (List.prefix_append_right_inj _).mp hx
      obtain ⟨t, ht⟩ := ih (fun b hb => hvalid b (List.mem_cons_of_mem _ hb)) hy
      have hsub : (F.encode a ++ y).length - (F.encode a).length = y.length := by
        rw [List.length_append, Nat.add_sub_cancel_left]
      rw [hsub]
      refine ⟨t, ?_, ?_, ht.isPartial⟩
      · rw [List.flatMap_cons, List.append_assoc, ← ht.eq]
      · intro b hb
        rcases List.mem_cons.mp hb with rfl | hb
        · exact ha
        · exact ht.valid b hb
    · have hxa : x <+: F.encode a := List.prefix_of_prefix_length_le hx hax (by omega)
      exact ⟨x, rfl, by simp,
        Or.inr ⟨a, ha, hxa, fun heq => hlen (Nat.le_of_eq (congrArg List.length heq).symm)⟩⟩

/-- The complete frames are the first few, as many as fit. -/
lemma completed_eq_take (as : List α) (n : ℕ) : ∃ k ≤ as.length, F.completed as n = as.take k ∧
    ((as.take k).flatMap F.encode).length ≤ n ∧
    (k < as.length → n < ((as.take (k + 1)).flatMap F.encode).length) := by
  induction as generalizing n with
  | nil => exact ⟨0, Nat.le_refl 0, rfl, Nat.zero_le _, fun h => absurd h (Nat.lt_irrefl 0)⟩
  | cons a as ih =>
    rw [completed]
    split_ifs with hlen
    · obtain ⟨k, hk, heq, hle, hlt⟩ := ih (n - (F.encode a).length)
      refine ⟨k + 1, Nat.succ_le_succ hk, by rw [heq, List.take_succ_cons], ?_, fun hk' => ?_⟩
      · rw [List.take_succ_cons, List.flatMap_cons, List.length_append]
        omega
      · have := hlt (Nat.lt_of_succ_lt_succ hk')
        rw [List.take_succ_cons, List.flatMap_cons, List.length_append]
        omega
    · refine ⟨0, Nat.zero_le _, rfl, Nat.zero_le _, fun _ => ?_⟩
      rw [List.take_succ_cons, List.take_zero, List.flatMap_cons, List.flatMap_nil,
        List.append_nil]
      omega

/-- All the frames are inside the whole stream. -/
lemma completed_length (as : List α) : F.completed as (as.flatMap F.encode).length = as := by
  induction as with
  | nil => rfl
  | cons a as ih =>
    rw [completed, List.flatMap_cons, List.length_append, if_pos (Nat.le_add_right _ _),
      Nat.add_sub_cancel_left, ih]

end FrameFormat
end TcpUdp.Lib
