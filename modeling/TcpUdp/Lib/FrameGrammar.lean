import TcpUdp.Lib.Framing

/-!
# Frames by what they are

`Framing` starts from an encoder. Here a frame is any byte string that satisfies a relation
`IsFrame`, so that a stream can also hold what no encoder wrote, and a scanner is measured
against the relation: what it takes off the front of a buffer is a frame (`ScanSound`).

`Framed.comparable` says that a stream is cut into frames in one way only, and
`decode_framed` what decoding leaves of a stream that may go wrong somewhere.
-/

namespace TcpUdp.Lib

variable {α β : Type}

/-- `x` is the frames `as`, back to back, and then `t`. -/
inductive Framed (IsFrame : List β → α → Prop) (t : List β) : List α → List β → Prop
  | done : Framed IsFrame t [] t
  | frame {p x : List β} {a : α} {as : List α} (hp : IsFrame p a)
      (hx : Framed IsFrame t as x) : Framed IsFrame t (a :: as) (p ++ x)

/-- At most one frame stands at the front of a byte string. -/
def PrefixFree (IsFrame : List β → α → Prop) : Prop :=
  ∀ p q r s a b, IsFrame p a → IsFrame q b → p ++ r = q ++ s → p = q ∧ a = b

/-- What the scanner takes is a frame. -/
def ScanSound (IsFrame : List β → α → Prop) (scan : List β → Scan α) : Prop :=
  ∀ b a n, scan b = .frame a n → 0 < n ∧ n ≤ b.length ∧ IsFrame (b.take n) a

namespace Framed

variable {IsFrame : List β → α → Prop} {t u x : List β} {as bs : List α}

/-- More bytes at the end only lengthen what follows the frames. -/
lemma append (h : Framed IsFrame t as x) (y : List β) :
    Framed IsFrame (t ++ y) as (x ++ y) := by
  induction h with
  | done => exact .done
  | frame hp _ ih =>
    rw [List.append_assoc]
    exact .frame hp ih

lemma length_le (h : Framed IsFrame t as x) : t.length ≤ x.length := by
  induction h with
  | done => exact Nat.le_refl _
  | frame _ _ ih =>
    rw [List.length_append]
    omega

/-- Frames at the front of what follows are further frames of the stream. -/
lemma trans (h : Framed IsFrame t as x) (hrest : Framed IsFrame u bs t) :
    Framed IsFrame u (as ++ bs) x := by
  induction h with
  | done => exact hrest
  | frame hp _ ih => exact .frame hp ih

/-- Of two ways to cut a stream into frames, one goes on where the other stops. -/
lemma comparable (hfree : PrefixFree IsFrame) (h : Framed IsFrame t as x)
    (h' : Framed IsFrame u bs x) :
    (∃ cs, bs = as ++ cs ∧ Framed IsFrame u cs t) ∨
      ∃ cs, as = bs ++ cs ∧ Framed IsFrame t cs u := by
  induction h generalizing bs with
  | done => exact Or.inl ⟨bs, rfl, h'⟩
  | @frame p x a as hp hx ih =>
    -- either the other cut stops here, or its first frame is the same
    generalize hy : p ++ x = y at h'
    cases h' with
    | done => exact Or.inr ⟨a :: as, rfl, hy ▸ .frame hp hx⟩
    | @frame q z b bs hq hz =>
      obtain ⟨rfl, rfl⟩ := hfree _ _ _ _ _ _ hp hq hy
      obtain rfl := List.append_cancel_left hy
      rcases ih hz with ⟨cs, rfl, hcs⟩ | ⟨cs, rfl, hcs⟩
      · exact Or.inl ⟨cs, rfl, hcs⟩
      · exact Or.inr ⟨cs, rfl, hcs⟩

/-- What follows the same frames is the same. -/
lemma rest_unique (hfree : PrefixFree IsFrame) (h : Framed IsFrame t as x)
    (h' : Framed IsFrame u as x) : t = u := by
  have hdone : ∀ {v w : List β} {cs : List α}, as = as ++ cs → Framed IsFrame w cs v → v = w := by
    intro v w cs hcs hframed
    rw [List.self_eq_append_right] at hcs
    subst hcs
    cases hframed
    rfl
  rcases h.comparable hfree h' with ⟨cs, heq, hcs⟩ | ⟨cs, heq, hcs⟩
  · exact hdone heq hcs
  · exact (hdone heq hcs).symm

/-- A further frame stands at the front. -/
lemma exists_frame {a : α} (h : Framed IsFrame t (a :: as) x) :
    ∃ p, IsFrame p a ∧ p <+: x := by
  cases h with
  | frame hp hx => exact ⟨_, hp, List.prefix_append _ _⟩

end Framed

/-! ## Decoding any bytes -/

variable {IsFrame : List β → α → Prop} {scan : List β → Scan α}

/-- Decoding takes frames off the front until the scanner waits or rejects; in the first case
what is left is kept. -/
lemma decode_framed (hsound : ScanSound IsFrame scan) (hnil : scan [] = .wait) {fuel : ℕ}
    {b : List β} (hfuel : b.length ≤ fuel) :
    ∃ t, Framed IsFrame t (decode scan fuel b).1 b ∧
      (scan t = .wait ∧ (decode scan fuel b).2 = t
        ∨ scan t = .reject ∧ (decode scan fuel b).2 = []) := by
  induction fuel generalizing b with
  | zero =>
    obtain rfl := List.length_eq_zero_iff.mp (Nat.le_zero.mp hfuel)
    exact ⟨[], .done, Or.inl ⟨hnil, rfl⟩⟩
  | succ fuel ih =>
    rw [decode]
    cases hscan : scan b with
    | frame a n =>
      obtain ⟨hpos, hn, hp⟩ := hsound b a n hscan
      obtain ⟨t, hframed, hend⟩ := ih (b := b.drop n) (by rw [List.length_drop]; omega)
      refine ⟨t, ?_, hend⟩
      have hcut := Framed.frame hp hframed
      rwa [List.take_append_drop] at hcut
    | wait => exact ⟨b, .done, Or.inl ⟨hscan, rfl⟩⟩
    | reject => exact ⟨b, .done, Or.inr ⟨hscan, rfl⟩⟩

/-- Nothing is decoded if and only if the scanner finds no frame at the front. -/
lemma decode_eq_nil_iff (hnil : scan [] = .wait) (b : List β) :
    (decode scan b.length b).1 = [] ↔ ∀ a n, scan b ≠ .frame a n := by
  cases hb : b.length with
  | zero =>
    obtain rfl := List.length_eq_zero_iff.mp hb
    rw [decode, hnil]
    exact ⟨fun _ a n h => (by cases h), fun _ => rfl⟩
  | succ fuel =>
    rw [decode]
    cases hscan : scan b with
    | frame a n =>
      constructor
      · intro h
        cases h
      · intro h
        exact absurd rfl (h a n)
    | wait => exact ⟨fun _ a n h => (by cases h), fun _ => rfl⟩
    | reject => exact ⟨fun _ a n h => (by cases h), fun _ => rfl⟩

end TcpUdp.Lib
