import TcpUdp.ConnectionOrder

/-!
# What a score is worth

`rateConnection` adds up signed and unsigned 32-bit terms and a 64-bit counter cast to
`int`. `rateConnected_exact_iff` says for which inputs it neither leaves the range of an
`int` on the way nor returns anything else than the sum over the integers, cut off at zero.
-/

namespace TcpUdp

/-- The values of an `int`. -/
def IsInt32 (x : ℤ) : Prop := -2147483648 ≤ x ∧ x ≤ 2147483647

instance (x : ℤ) : Decidable (IsInt32 x) := inferInstanceAs (Decidable (_ ∧ _))

lemma isInt32_toInt32 (x : ℤ) : IsInt32 (toInt32 x) := by
  have hle : -(2 ^ 32 / 2 : ℤ) ≤ toInt32 x := Int.le_bmod (by decide)
  have hlt : toInt32 x < (2 ^ 32 + 1) / 2 := Int.bmod_lt (by decide)
  constructor <;> omega

lemma toInt32_of_isInt32 {x : ℤ} (h : IsInt32 x) : toInt32 x = x := by
  obtain ⟨hle, hlt⟩ := h
  apply Int.bmod_eq_of_le
  · omega
  · omega

lemma toInt32_add_size (x : ℤ) : toInt32 (x + 4294967296) = toInt32 x :=
  Int.add_bmod_right x (2 ^ 32)

namespace TcpConnectionRuntimeInfo

/-- The fields of the runtime info are `uint32_t`. -/
structure IsUInt32 (info : TcpConnectionRuntimeInfo) : Prop where
  smoothedRttUs : info.smoothedRttUs < 2 ^ 32
  congestionWindowBytes : info.congestionWindowBytes < 2 ^ 32
  bytesInFlight : info.bytesInFlight < 2 ^ 32
  timeoutEpisodes : info.timeoutEpisodes < 2 ^ 32

/-- The score before the penalties. -/
def baseScore (info : TcpConnectionRuntimeInfo) : ℤ :=
  10000 + (info.congestionWindowBytes / 200 : ℕ) - (info.smoothedRttUs / 200 : ℕ)
    - (info.bytesInFlight / 200 : ℕ)

/-- `timeoutEpisodes * 200` in unsigned 32-bit arithmetic. -/
def timeoutPenalty (info : TcpConnectionRuntimeInfo) : ℤ :=
  (info.timeoutEpisodes * 200 % 2 ^ 32 : ℕ)

/-- The score over the integers. -/
def exactScore (info : TcpConnectionRuntimeInfo) (reenqueueCount : ℕ) : ℤ :=
  info.baseScore - 200 * info.timeoutEpisodes - 200 * reenqueueCount

/-- The exact results of the `int` operations of `rateConnection`, in their order. The
subtraction of the unsigned timeout penalty is none of them: it wraps. -/
def signedResults (info : TcpConnectionRuntimeInfo) (reenqueueCount : ℕ) : List ℤ :=
  let withWindow : ℤ := 10000 + (info.congestionWindowBytes / 200 : ℕ)
  let withRtt := withWindow - (info.smoothedRttUs / 200 : ℕ)
  let withBytes := withRtt - (info.bytesInFlight / 200 : ℕ)
  let withTimeouts := toInt32 (withBytes - info.timeoutPenalty)
  let failurePenalty := toInt32 reenqueueCount * 200
  [withWindow, withRtt, withBytes, failurePenalty, withTimeouts - failurePenalty]

def NoSignedOverflow (info : TcpConnectionRuntimeInfo) (reenqueueCount : ℕ) : Prop :=
  ∀ x ∈ info.signedResults reenqueueCount, IsInt32 x

/-- By how much the penalties, as the code computes them, exceed the score before them. -/
def excess (info : TcpConnectionRuntimeInfo) (reenqueueCount : ℕ) : ℤ :=
  info.timeoutPenalty + 200 * toInt32 reenqueueCount - info.baseScore

/-- The integer score is positive; or the failure count, cast to `int`, can be multiplied by
200, and the penalties exceed the score by at most `2^31`: counted from zero, or from `2^32`
where the subtraction of the timeout penalty has wrapped. -/
def PenaltiesFit (info : TcpConnectionRuntimeInfo) (reenqueueCount : ℕ) : Prop :=
  200 * (info.timeoutEpisodes : ℤ) + 200 * reenqueueCount < info.baseScore ∨
  (-10737418 ≤ toInt32 reenqueueCount ∧ toInt32 reenqueueCount ≤ 10737418 ∧
    ((info.timeoutPenalty ≤ info.baseScore + 2147483648 ∧
        0 ≤ info.excess reenqueueCount ∧ info.excess reenqueueCount ≤ 2147483648) ∨
      (info.baseScore + 2147483648 < info.timeoutPenalty ∧
        4294967296 ≤ info.excess reenqueueCount ∧ info.excess reenqueueCount ≤ 6442450944)))

variable {info : TcpConnectionRuntimeInfo} {reenqueueCount : ℕ}

lemma IsUInt32.baseScore_bounds (h : info.IsUInt32) :
    -42939672 ≤ info.baseScore ∧ info.baseScore ≤ 21484836 := by
  obtain ⟨hrtt, hwindow, hbytes, _⟩ := h
  unfold baseScore
  omega

lemma timeoutPenalty_bounds (info : TcpConnectionRuntimeInfo) :
    0 ≤ info.timeoutPenalty ∧ info.timeoutPenalty < 4294967296 := by
  unfold timeoutPenalty
  omega

/-- Below the wrap the timeout penalty is 200 for each episode. -/
lemma timeoutPenalty_of_lt (h : info.timeoutEpisodes < 21474836) :
    info.timeoutPenalty = 200 * info.timeoutEpisodes := by
  unfold timeoutPenalty
  omega

/-- The score after the timeout penalty is short of `int` by one `2^32` at most. -/
lemma IsUInt32.toInt32_sub (h : info.IsUInt32) :
    (info.timeoutPenalty ≤ info.baseScore + 2147483648 ∧
      toInt32 (info.baseScore - info.timeoutPenalty) = info.baseScore - info.timeoutPenalty) ∨
    (info.baseScore + 2147483648 < info.timeoutPenalty ∧
      toInt32 (info.baseScore - info.timeoutPenalty)
        = info.baseScore - info.timeoutPenalty + 4294967296) := by
  have hbase := h.baseScore_bounds
  have hpenalty := info.timeoutPenalty_bounds
  by_cases hwrap : info.timeoutPenalty ≤ info.baseScore + 2147483648
  · refine Or.inl ⟨hwrap, toInt32_of_isInt32 ?_⟩
    constructor <;> omega
  · refine Or.inr ⟨by omega, ?_⟩
    rw [← toInt32_add_size]
    apply toInt32_of_isInt32
    constructor <;> omega

/-- Only the operations on the failure count can overflow. -/
lemma IsUInt32.noSignedOverflow_iff (h : info.IsUInt32) :
    info.NoSignedOverflow reenqueueCount ↔
      -10737418 ≤ toInt32 reenqueueCount ∧ toInt32 reenqueueCount ≤ 10737418 ∧
      IsInt32 (toInt32 (info.baseScore - info.timeoutPenalty) - 200 * toInt32 reenqueueCount) := by
  obtain ⟨hrtt, hwindow, hbytes, _⟩ := h
  have hbase : (10000 : ℤ) + (info.congestionWindowBytes / 200 : ℕ)
      - (info.smoothedRttUs / 200 : ℕ) - (info.bytesInFlight / 200 : ℕ) = info.baseScore := rfl
  unfold NoSignedOverflow signedResults
  dsimp only
  rw [hbase, Int.mul_comm 200 (toInt32 _)]
  simp only [List.forall_mem_cons, List.not_mem_nil, false_implies, implies_true, and_true]
  constructor
  · rintro ⟨_, _, _, ⟨hlow, hhigh⟩, hscore⟩
    exact ⟨by omega, by omega, hscore⟩
  · rintro ⟨hlow, hhigh, hscore⟩
    refine ⟨?_, ?_, ?_, ?_, hscore⟩
    · constructor <;> omega
    · constructor <;> omega
    · rw [← hbase]
      constructor <;> omega
    · constructor <;> omega

end TcpConnectionRuntimeInfo

open TcpConnectionRuntimeInfo

section Rating

variable {info : TcpConnectionRuntimeInfo} {stats : ConnSendStats}

lemma rateConnected_of_noSignedOverflow (h : info.IsUInt32)
    (hbackoff : info.isInExponentialBackoff = false)
    (hfit : info.NoSignedOverflow stats.reenqueueCount) :
    rateConnected info stats
      = max 0 (toInt32 (info.baseScore - info.timeoutPenalty)
          - 200 * toInt32 stats.reenqueueCount) := by
  obtain ⟨hlow, hhigh, hscore⟩ := h.noSignedOverflow_iff.mp hfit
  have hpenalty : toInt32 (toInt32 stats.reenqueueCount * 200)
      = 200 * toInt32 stats.reenqueueCount := by
    rw [Int.mul_comm]
    apply toInt32_of_isInt32
    constructor <;> omega
  have hrated : rateConnected info stats
      = if toInt32 (toInt32 (info.baseScore - info.timeoutPenalty)
          - toInt32 (toInt32 stats.reenqueueCount * 200)) > 0
        then toInt32 (toInt32 (info.baseScore - info.timeoutPenalty)
          - toInt32 (toInt32 stats.reenqueueCount * 200)) else 0 := by
    rw [rateConnected, if_neg (by rw [hbackoff]; decide)]
    rfl
  rw [hrated, hpenalty, toInt32_of_isInt32 hscore]
  split_ifs <;> omega

/-- No `int` overflows, and what is returned is the score over the integers, not below
zero. -/
structure ScoredExactly (info : TcpConnectionRuntimeInfo) (stats : ConnSendStats) : Prop where
  noOverflow : info.NoSignedOverflow stats.reenqueueCount
  exact : rateConnected info stats = max 0 (info.exactScore stats.reenqueueCount)

lemma ScoredExactly.penaltiesFit (hscored : ScoredExactly info stats) (h : info.IsUInt32)
    (hbackoff : info.isInExponentialBackoff = false) : info.PenaltiesFit stats.reenqueueCount := by
  have hbase := h.baseScore_bounds
  obtain ⟨hfit, hexact⟩ := hscored
  obtain ⟨hlow, hhigh, hscore⟩ := h.noSignedOverflow_iff.mp hfit
  rw [rateConnected_of_noSignedOverflow h hbackoff hfit] at hexact
  unfold exactScore at hexact
  unfold PenaltiesFit excess
  by_cases hpositive : 200 * (info.timeoutEpisodes : ℤ) + 200 * stats.reenqueueCount
      < info.baseScore
  · exact Or.inl hpositive
  · -- the returned score is zero, so the penalties exceed the base
    refine Or.inr ⟨hlow, hhigh, ?_⟩
    obtain ⟨hlow', hhigh'⟩ := hscore
    rcases h.toInt32_sub with ⟨hwrap, heq⟩ | ⟨hwrap, heq⟩
    · rw [heq] at hexact hlow' hhigh'
      exact Or.inl ⟨hwrap, by omega, by omega⟩
    · rw [heq] at hexact hlow' hhigh'
      exact Or.inr ⟨hwrap, by omega, by omega⟩

/-- With a positive score both counters are small, and nothing wraps. -/
lemma scoredExactly_of_positive (h : info.IsUInt32)
    (hbackoff : info.isInExponentialBackoff = false)
    (hpositive : 200 * (info.timeoutEpisodes : ℤ) + 200 * stats.reenqueueCount
      < info.baseScore) : ScoredExactly info stats := by
  have hbase := h.baseScore_bounds
  have hcount : toInt32 stats.reenqueueCount = stats.reenqueueCount := by
    apply toInt32_of_isInt32
    constructor <;> omega
  have hpenalty : info.timeoutPenalty = 200 * info.timeoutEpisodes :=
    timeoutPenalty_of_lt (by omega)
  have hscore : toInt32 (info.baseScore - info.timeoutPenalty)
      = info.baseScore - 200 * info.timeoutEpisodes := by
    rw [hpenalty]
    apply toInt32_of_isInt32
    constructor <;> omega
  have hfit : info.NoSignedOverflow stats.reenqueueCount := by
    rw [h.noSignedOverflow_iff, hscore, hcount]
    refine ⟨by omega, by omega, ?_⟩
    constructor <;> omega
  refine ⟨hfit, ?_⟩
  rw [rateConnected_of_noSignedOverflow h hbackoff hfit, hscore, hcount, exactScore]

lemma scoredExactly_of_penaltiesFit (h : info.IsUInt32)
    (hbackoff : info.isInExponentialBackoff = false)
    (hfits : info.PenaltiesFit stats.reenqueueCount) : ScoredExactly info stats := by
  by_cases hpositive : 200 * (info.timeoutEpisodes : ℤ) + 200 * stats.reenqueueCount
      < info.baseScore
  · exact scoredExactly_of_positive h hbackoff hpositive
  · obtain ⟨hlow, hhigh, hexcess⟩ := hfits.resolve_left hpositive
    unfold excess at hexcess
    -- the integer score is not positive, and neither is the computed one
    have hscore : -2147483648 ≤ toInt32 (info.baseScore - info.timeoutPenalty)
          - 200 * toInt32 stats.reenqueueCount ∧
        toInt32 (info.baseScore - info.timeoutPenalty)
          - 200 * toInt32 stats.reenqueueCount ≤ 0 := by
      rcases h.toInt32_sub with ⟨hwrap, heq⟩ | ⟨hwrap, heq⟩
      · rw [heq]
        omega
      · rw [heq]
        omega
    have hfit : info.NoSignedOverflow stats.reenqueueCount := by
      rw [h.noSignedOverflow_iff]
      refine ⟨hlow, hhigh, ?_⟩
      constructor <;> omega
    refine ⟨hfit, ?_⟩
    rw [rateConnected_of_noSignedOverflow h hbackoff hfit, exactScore]
    omega

lemma scoredExactly_iff (h : info.IsUInt32)
    (hbackoff : info.isInExponentialBackoff = false) :
    ScoredExactly info stats ↔ info.PenaltiesFit stats.reenqueueCount :=
  ⟨fun hscored => hscored.penaltiesFit h hbackoff, scoredExactly_of_penaltiesFit h hbackoff⟩

/-- No connection is better by it: a longer round trip, more bytes in flight, more timeouts
or failures, and no larger window. -/
structure NoBetter (info : TcpConnectionRuntimeInfo) (stats : ConnSendStats)
    (info' : TcpConnectionRuntimeInfo) (stats' : ConnSendStats) : Prop where
  smoothedRttUs : info.smoothedRttUs ≤ info'.smoothedRttUs
  congestionWindowBytes : info'.congestionWindowBytes ≤ info.congestionWindowBytes
  bytesInFlight : info.bytesInFlight ≤ info'.bytesInFlight
  timeoutEpisodes : info.timeoutEpisodes ≤ info'.timeoutEpisodes
  reenqueueCount : stats.reenqueueCount ≤ stats'.reenqueueCount

lemma NoBetter.exactScore_le {info' : TcpConnectionRuntimeInfo} {stats' : ConnSendStats}
    (h : NoBetter info stats info' stats') :
    info'.exactScore stats'.reenqueueCount ≤ info.exactScore stats.reenqueueCount := by
  have hrtt := Nat.div_le_div_right (c := 200) h.smoothedRttUs
  have hwindow := Nat.div_le_div_right (c := 200) h.congestionWindowBytes
  have hbytes := Nat.div_le_div_right (c := 200) h.bytesInFlight
  have htimeouts := h.timeoutEpisodes
  have hcount := h.reenqueueCount
  unfold exactScore baseScore
  omega

/-- The score of a connection that is not in backoff is exact just for the penalties that
fit, and among these it never rises with the round trip, the bytes in flight, the timeouts
or the failures. -/
theorem rateConnected_exact_iff (info : TcpConnectionRuntimeInfo) (stats : ConnSendStats)
    (h : info.IsUInt32) (hbackoff : info.isInExponentialBackoff = false) :
    (ScoredExactly info stats ↔ info.PenaltiesFit stats.reenqueueCount) ∧
    ∀ (info' : TcpConnectionRuntimeInfo) (stats' : ConnSendStats), info'.IsUInt32 →
      info'.isInExponentialBackoff = false → NoBetter info stats info' stats' →
      info.PenaltiesFit stats.reenqueueCount → info'.PenaltiesFit stats'.reenqueueCount →
      rateConnected info' stats' ≤ rateConnected info stats := by
  refine ⟨scoredExactly_iff h hbackoff, ?_⟩
  intro info' stats' h' hbackoff' hworse hfits hfits'
  rw [((scoredExactly_iff h hbackoff).mpr hfits).exact,
    ((scoredExactly_iff h' hbackoff').mpr hfits').exact]
  exact max_le_max_left 0 hworse.exactScore_le

/-- Ten thousand blocked attempts cost the connection all of its score. -/
theorem rateConnected_exact_iff_blocked :
    ScoredExactly {} { reenqueueCount := 10000 } ∧
      rateConnected {} { reenqueueCount := 10000 } = 0 := by
  have h : IsUInt32 {} := ⟨by decide, by decide, by decide, by decide⟩
  refine ⟨(rateConnected_exact_iff {} { reenqueueCount := 10000 } h rfl).1.mpr ?_, by decide⟩
  exact Or.inr ⟨by decide, by decide, Or.inl ⟨by decide, by decide, by decide⟩⟩

/-- Enough timeouts wrap to a score of two billion, a failure count of `2^32 - 1` raises the
score by 200, and one of ten million and some overflows. -/
theorem penalties_wrap :
    rateConnected { timeoutEpisodes := 10737469 } {} = 2147483496 ∧
    exactScore { timeoutEpisodes := 10737469 } 0 = -2147483800 ∧
    rateConnected {} { reenqueueCount := 4294967295 } = 10200 ∧ rateConnected {} {} = 10000 ∧
    ¬ NoSignedOverflow {} 10737419 ∧
    ¬ ScoredExactly { timeoutEpisodes := 10737469 } {} ∧
    ¬ ScoredExactly {} { reenqueueCount := 4294967295 } ∧
    ¬ ScoredExactly {} { reenqueueCount := 10737419 } := by
  have hoverflow : ¬ NoSignedOverflow {} 10737419 := by
    unfold NoSignedOverflow
    decide
  refine ⟨by decide, by decide, by decide, by decide, hoverflow, ?_, ?_, ?_⟩
  · intro h
    exact absurd h.exact (by decide)
  · intro h
    exact absurd h.exact (by decide)
  · intro h
    exact hoverflow h.noOverflow

end Rating

end TcpUdp
