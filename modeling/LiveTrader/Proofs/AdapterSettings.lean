import LiveTrader.Proofs.AcceptedConfigs
import LiveTrader.Proofs.Envelopes
import LiveTrader.Proofs.Rounding

/-!
  LiveTrader.Proofs.AdapterSettings

  What an accepted configuration is worth to the adapter.  The checks of a configuration ask of the
  base delay that it is a number and not negative, while a span holds no more than 64 bits of
  seconds.  So there are settings for the adapter exactly if the delay is below 2⁶⁴ seconds, and
  then their retry policy has the configured attempts and the delay to the nanosecond.
-/

namespace LiveTrader

/-! ## Signs of numbers -/

namespace Binary64

theorem ratio_snd_pos (x : Binary64) : 0 < x.ratio.2 := Nat.two_pow_pos _

theorem ratio_fst_pos_iff {x : Binary64} : 0 < x.ratio.1 ↔ 0 < x.magnitude := by
  have hpow : 0 < pow2 (x.parts.2 - 1074) := Nat.two_pow_pos _
  have hsplit := Nat.div_add_mod x.magnitude (pow2 52)
  have hone : 0 < pow2 52 := Nat.two_pow_pos _
  have hnum : x.ratio.1 = x.parts.1 * pow2 (x.parts.2 - 1074) := rfl
  rw [hnum, Nat.mul_pos_iff_of_pos_right hpow]
  unfold parts
  dsimp only
  split
  case isTrue hfield =>
    rw [hfield, Nat.mul_zero, Nat.zero_add] at hsplit
    rw [hsplit]
  case isFalse hfield =>
    -- the leading digit is not written, and counts
    refine iff_of_true (Nat.add_pos_left hone _) ?_
    exact Nat.pos_of_ne_zero fun hzero => hfield (by rw [hzero, Nat.zero_div])

theorem size_pos_iff {x : Binary64} : 0 < (x.ratio.1 : ℚ) / x.ratio.2 ↔ 0 < x.magnitude := by
  have hden : (0 : ℚ) < x.ratio.2 := by exact_mod_cast x.ratio_snd_pos
  rw [div_pos_iff_of_pos_right hden, ← ratio_fst_pos_iff]
  exact Nat.cast_pos

theorem value_pos_iff {x : Binary64} : 0 < x.value ↔ 0 < x.rank := by
  have hsize := x.size_pos_iff
  have hnonneg : (0 : ℚ) ≤ x.ratio.1 / x.ratio.2 := by positivity
  unfold value rank
  split
  · exact iff_of_false (not_lt.mpr (neg_nonpos.mpr hnonneg))
      (not_lt.mpr (neg_nonpos.mpr (Int.natCast_nonneg _)))
  · exact hsize.trans Int.natCast_pos.symm

/-- The sign of a number is that of its place in the order of numbers. -/
theorem value_nonneg_iff {x : Binary64} : 0 ≤ x.value ↔ 0 ≤ x.rank := by
  have hsize := x.size_pos_iff
  have hnonneg : (0 : ℚ) ≤ x.ratio.1 / x.ratio.2 := by positivity
  unfold value rank
  split
  · -- a negative zero is zero
    rw [neg_nonneg, neg_nonneg, ← not_lt, hsize, ← not_lt, Int.natCast_pos]
  · exact iff_of_true hnonneg (Int.natCast_nonneg _)

/-- A number that is not negative is its size, a negative zero included. -/
theorem value_eq_size {x : Binary64} (h : 0 ≤ x.value) : x.value = x.ratio.1 / x.ratio.2 := by
  cases hsign : x.isNegative with
  | false => exact value_eq hsign
  | true =>
    have hvalue : x.value = -(x.ratio.1 / x.ratio.2 : ℚ) := by
      unfold value
      rw [if_pos hsign]
    have hnonneg : (0 : ℚ) ≤ x.ratio.1 / x.ratio.2 := by positivity
    linarith

/-- The whole part of a number has at most 53 bits. -/
theorem parts_fst_lt (x : Binary64) : x.parts.1 < pow2 53 := by
  have hfraction : x.magnitude % pow2 52 < pow2 52 := Nat.mod_lt _ (Nat.two_pow_pos _)
  have hpow : pow2 53 = pow2 52 + pow2 52 := rfl
  unfold parts
  dsimp only
  split <;> omega

/-- Below 2⁶⁴ a number is at most the largest whole one: where there are numbers between these
    two, they have a fraction, and then 53 digits are all there are. -/
theorem value_le_of_lt {x : Binary64} (h0 : 0 ≤ x.value) (h : x.value < 2 ^ 64) :
    x.value ≤ 2 ^ 64 - 1 := by
  have hnum : x.ratio.1 = x.parts.1 * pow2 (x.parts.2 - 1074) := rfl
  have hden : x.ratio.2 = pow2 (1074 - x.parts.2) := rfl
  rw [value_eq_size h0] at h ⊢
  -- a value with a power of two that is not negative is a whole number; any other is small
  by_cases he : 1074 ≤ x.parts.2
  · have hone : x.ratio.2 = 1 := by
      rw [hden, Nat.sub_eq_zero_of_le he, pow2, Nat.pow_eq, pow_zero]
    rw [hone, Nat.cast_one, div_one] at h ⊢
    have hlt : x.ratio.1 < 2 ^ 64 := by exact_mod_cast h
    have hle : x.ratio.1 + 1 ≤ 2 ^ 64 := hlt
    have hle' : (x.ratio.1 : ℚ) + 1 ≤ 2 ^ 64 := by exact_mod_cast hle
    linarith
  · have hsmall : x.ratio.1 ≤ 2 ^ 53 := by
      rw [hnum, Nat.sub_eq_zero_of_le (le_of_not_ge he), pow2, Nat.pow_eq, pow_zero, mul_one]
      exact Nat.le_of_lt x.parts_fst_lt
    have hsmall' : (x.ratio.1 : ℚ) ≤ 2 ^ 53 := by exact_mod_cast hsmall
    have hdenpos : (1 : ℚ) ≤ x.ratio.2 := by exact_mod_cast x.ratio_snd_pos
    calc (x.ratio.1 : ℚ) / x.ratio.2 ≤ x.ratio.1 := div_le_self (Nat.cast_nonneg _) hdenpos
      _ ≤ 2 ^ 53 := hsmall'
      _ ≤ 2 ^ 64 - 1 := by norm_num

end Binary64

/-! ## Seconds in nanoseconds -/

namespace Span

open Decimal (RoundsTo)

/-- A span is a number of seconds, to the nearest nanosecond. -/
structure IsSeconds (span : Span) (seconds : ℚ) : Prop where
  rounds : RoundsTo (seconds * 10 ^ 9) span.nanos
  le_max : span.nanos ≤ max.nanos

variable {x : Binary64}

/-- Whether seconds have room is told from the quotient that they are. -/
theorem lt_pow_iff (h0 : 0 ≤ x.value) :
    x.ratio.1 < pow2 64 * x.ratio.2 ↔ x.value < 2 ^ 64 := by
  have hden : (0 : ℚ) < x.ratio.2 := by exact_mod_cast x.ratio_snd_pos
  rw [Binary64.value_eq_size h0, div_lt_iff₀ hden]
  exact_mod_cast Iff.rfl

/-- Seconds are rounded to nanoseconds if they have room. -/
theorem ofFloatSeconds?_eq (hfinite : x.isFinite = true) (h0 : 0 ≤ x.value) :
    ofFloatSeconds? x = if x.ratio.1 < pow2 64 * x.ratio.2 then
      some ⟨Binary64.nearestWhole (x.ratio.1 * perSecond) x.ratio.2⟩ else none := by
  have hrank : ¬ x.rank < 0 := not_lt.mpr (Binary64.value_nonneg_iff.mp h0)
  unfold ofFloatSeconds?
  rw [hfinite, decide_eq_false hrank]
  rfl

/-- **A finite number of seconds that is not negative is a span if it is below 2⁶⁴.** -/
theorem exists_ofFloatSeconds? (hfinite : x.isFinite = true) (h0 : 0 ≤ x.value)
    (h : x.value < 2 ^ 64) :
    ∃ span, ofFloatSeconds? x = some span ∧ span.IsSeconds x.value := by
  rw [ofFloatSeconds?_eq hfinite h0, if_pos ((lt_pow_iff h0).mpr h)]
  refine ⟨_, rfl, ?_⟩
  have hunit : (perSecond : ℚ) = 10 ^ 9 := by
    unfold perSecond
    norm_num
  have hexact : x.value * 10 ^ 9 = (x.ratio.1 * perSecond : Nat) / x.ratio.2 := by
    rw [Binary64.value_eq_size h0, div_mul_eq_mul_div, Nat.cast_mul, hunit]
  have hrounds : RoundsTo (x.value * 10 ^ 9)
      (Binary64.nearestWhole (x.ratio.1 * perSecond) x.ratio.2) := by
    rw [hexact]
    exact Decimal.roundsTo_roundHalfEven _ x.ratio_snd_pos
  refine ⟨hrounds, ?_⟩
  -- the largest whole number of seconds is its own rounding
  have hwhole : RoundsTo ((2 ^ 64 - 1) * 10 ^ 9) ((2 ^ 64 - 1) * 10 ^ 9 : Int) := by
    convert RoundsTo.intCast ((2 ^ 64 - 1) * 10 ^ 9)
    norm_num
  have hle := hrounds.mono hwhole
    (mul_le_mul_of_nonneg_right (Binary64.value_le_of_lt h0 h) (by norm_num))
  have hmax : ((2 ^ 64 - 1) * 10 ^ 9 : Int) ≤ max.nanos := by decide
  exact_mod_cast hle.trans hmax

theorem ofFloatSeconds?_eq_none (hfinite : x.isFinite = true) (h0 : 0 ≤ x.value)
    (h : 2 ^ 64 ≤ x.value) : ofFloatSeconds? x = none := by
  rw [ofFloatSeconds?_eq hfinite h0, if_neg]
  rw [lt_pow_iff h0]
  exact not_lt.mpr h

end Span

/-! ## Retry policies -/

/-- A policy with these attempts and this delay between them, in seconds. -/
structure RetryPolicy.Allows (p : RetryPolicy) (attempts : Nat) (seconds : ℚ) : Prop where
  attempts_eq : p.maxAttempts = attempts
  attempts_pos : 1 ≤ p.maxAttempts
  delay : p.baseDelay.IsSeconds seconds

namespace RetryPolicy

variable {x : Binary64} {attempts : Nat}

/-- What is not above zero is taken for zero. -/
theorem ofFloatSeconds?_eq (attempts : Nat) (hfinite : x.isFinite = true) (h0 : 0 ≤ x.value) :
    ∃ y : Binary64, y.isFinite = true ∧ y.value = x.value ∧
      ofFloatSeconds? attempts x = (Span.ofFloatSeconds? y).map (of attempts) := by
  by_cases hpos : 0 < x.rank
  · refine ⟨x, hfinite, rfl, ?_⟩
    unfold ofFloatSeconds?
    rw [hfinite, decide_eq_true hpos]
    rfl
  · refine ⟨.zero, by decide, ?_, ?_⟩
    · have hx : x.value = 0 :=
        le_antisymm (not_lt.mp (mt Binary64.value_pos_iff.mp hpos)) h0
      have hzero : Binary64.zero.value = 0 := by
        refine le_antisymm (not_lt.mp (mt Binary64.value_pos_iff.mp ?_))
          (Binary64.value_nonneg_iff.mpr ?_) <;> decide
      rw [hx, hzero]
    · unfold ofFloatSeconds?
      rw [hfinite, decide_eq_false hpos]
      rfl

theorem exists_ofFloatSeconds? (hattempts : 1 ≤ attempts) (hfinite : x.isFinite = true)
    (h0 : 0 ≤ x.value) (h : x.value < 2 ^ 64) :
    ∃ p, ofFloatSeconds? attempts x = some p ∧ p.Allows attempts x.value := by
  obtain ⟨y, hy, hvalue, heq⟩ := ofFloatSeconds?_eq attempts hfinite h0
  rw [← hvalue] at h0 h ⊢
  obtain ⟨span, hspan, hseconds⟩ := Span.exists_ofFloatSeconds? hy h0 h
  have hmax : (of attempts span).maxAttempts = attempts := Nat.max_eq_left hattempts
  refine ⟨of attempts span, by rw [heq, hspan, Option.map_some], hmax, ?_, hseconds⟩
  rw [hmax]
  exact hattempts

theorem ofFloatSeconds?_eq_none (hfinite : x.isFinite = true) (h0 : 0 ≤ x.value)
    (h : 2 ^ 64 ≤ x.value) : ofFloatSeconds? attempts x = none := by
  obtain ⟨y, hy, hvalue, heq⟩ := ofFloatSeconds?_eq attempts hfinite h0
  rw [← hvalue] at h0 h
  rw [heq, Span.ofFloatSeconds?_eq_none hy h0 h, Option.map_none]

end RetryPolicy

/-! ## Accepted configurations -/

namespace Config

/-- A delay is a finite number that is not negative. -/
theorem isDelay_iff {x : Binary64} : isDelay x = true ↔ x.isFinite = true ∧ 0 ≤ x.value := by
  unfold isDelay
  rw [Bool.and_eq_true, Binary64.value_nonneg_iff]
  refine and_congr_right fun hfinite => ?_
  -- a finite number is one, so that it is compared as such
  have hnumber : x.isNaN = false := by
    unfold Binary64.isFinite at hfinite
    unfold Binary64.isNaN
    simp only [decide_eq_true_eq, decide_eq_false_iff_not] at hfinite ⊢
    omega
  have hzero : Binary64.zero.isNaN = false := by decide
  have hrank : Binary64.zero.rank = 0 := by decide
  simp [Binary64.lt, hnumber, hzero, hrank]

/-- **An accepted configuration can be used if its delay is below 2⁶⁴ seconds**: then the adapter
    gets the configured attempts and the configured delay to the nanosecond.  A longer delay is
    accepted as well, and leaves no settings for the adapter. -/
theorem gmoSettings?_of_ofLookup {lookup : Lookup} {c : Config} (h : ofLookup lookup = .ok c) :
    let delay := c.exchange.retryBaseDelay.value
    0 ≤ delay ∧
      (delay < 2 ^ 64 → ∃ settings, c.gmoSettings? = some settings ∧
        settings.retry.Allows c.exchange.retryMaxAttempts delay) ∧
      (2 ^ 64 ≤ delay → c.gmoSettings? = none) := by
  obtain ⟨-, haccepted⟩ := ofLookup_eq_ok_iff.mp h
  obtain ⟨hfinite, h0⟩ := isDelay_iff.mp haccepted.delay
  refine ⟨h0, fun hlt => ?_, fun hge => ?_⟩
  · obtain ⟨p, hp, hallows⟩ :=
      RetryPolicy.exists_ofFloatSeconds? haccepted.attempts hfinite h0 hlt
    unfold gmoSettings?
    rw [hp, Option.map_some]
    exact ⟨_, rfl, hallows⟩
  · unfold gmoSettings?
    rw [RetryPolicy.ofFloatSeconds?_eq_none hfinite h0 hge, Option.map_none]

theorem quarter_second_used :
    ∃ c, ofLookup (.ofList [("BTCBOT_PRIVATE_RETRY_BASE_DELAY_SECS", "0.25")]) = .ok c ∧
      ∃ settings, c.gmoSettings? = some settings ∧ settings.retry.Allows 3 (1 / 4) := by
  have hc : ∃ c, ofLookup (.ofList [("BTCBOT_PRIVATE_RETRY_BASE_DELAY_SECS", "0.25")]) = .ok c ∧
      c.exchange.retryMaxAttempts = 3 ∧
      c.exchange.retryBaseDelay = Binary64.nearest false 1 4 := ⟨_, rfl, rfl, by decide +kernel⟩
  obtain ⟨c, hlookup, hattempts, hdelay⟩ := hc
  have hvalue : c.exchange.retryBaseDelay.value = 1 / 4 := by
    have hsign : (Binary64.nearest false 1 4).isNegative = false := by decide +kernel
    have hratio : (Binary64.nearest false 1 4).ratio = (2 ^ 52, 2 ^ 54) := by decide +kernel
    rw [hdelay, Binary64.value_eq hsign, hratio]
    norm_num
  obtain ⟨-, hused, -⟩ := gmoSettings?_of_ofLookup hlookup
  rw [hattempts, hvalue] at hused
  exact ⟨c, hlookup, hused (by norm_num)⟩

/-- A delay of 10²⁰ seconds is accepted, and there are no settings with it. -/
theorem long_delay_unusable :
    ∃ c, ofLookup (.ofList [("BTCBOT_PRIVATE_RETRY_BASE_DELAY_SECS", "1e20")]) = .ok c ∧
      c.gmoSettings? = none :=
  ⟨_, rfl, by decide +kernel⟩

end Config

end LiveTrader
