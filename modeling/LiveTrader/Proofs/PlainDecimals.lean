import LiveTrader.Proofs.Digits
import LiveTrader.Proofs.Rounding

/-!
  LiveTrader.Proofs.PlainDecimals

  Decimals without trailing zeros.  There is one for every number that a decimal stands for, and
  its text is the number in plain notation: no exponent, and no zero at the end of the fraction.
-/

namespace LiveTrader.Decimal

/-! ## One decimal for every number -/

/-- A decimal has no fraction digit that could be dropped. -/
def IsReduced (a : Decimal) : Prop :=
  a.scale = 0 ∨ a.coeff % 10 ≠ 0

theorem stripZeros_reduced (coeff : Int) (scale : Nat) :
    (stripZeros coeff scale).2 = 0 ∨ (stripZeros coeff scale).1 % 10 ≠ 0 := by
  induction scale generalizing coeff with
  | zero => exact .inl rfl
  | succ scale ih =>
    unfold stripZeros
    split
    case isTrue => exact ih _
    case isFalse hdigit => exact .inr hdigit

theorem isReduced_normalized (a : Decimal) : a.normalized.IsReduced :=
  stripZeros_reduced a.coeff a.scale

/-- With the larger scale goes a coefficient that ends with a zero. -/
theorem scale_le_of_value_eq {a b : Decimal} (hb : b.IsReduced) (h : a.value = b.value) :
    b.scale ≤ a.scale := by
  by_contra hlt
  obtain ⟨more, hmore⟩ := Nat.exists_eq_add_of_lt (Nat.lt_of_not_le hlt)
  have hcoeff : b.coeff = 10 * (a.coeff * 10 ^ more) := by
    have hle : a.scale ≤ b.scale := by omega
    have hscaled := a.value_mul_pow_of_le hle
    rw [h, value_mul_pow, hmore, Nat.add_assoc, Nat.add_sub_cancel_left, pow_succ] at hscaled
    rw [Int.cast_inj.mp hscaled]
    ring
  rcases hb with hzero | hdigit
  · omega
  · omega

theorem IsReduced.eq_of_value_eq {a b : Decimal} (ha : a.IsReduced) (hb : b.IsReduced)
    (h : a.value = b.value) : a = b := by
  have hscale : a.scale = b.scale :=
    Nat.le_antisymm (scale_le_of_value_eq ha h.symm) (scale_le_of_value_eq hb h)
  have hcoeff : (a.coeff : ℚ) = b.coeff := by
    rw [← value_mul_pow, ← value_mul_pow, h, hscale]
  obtain ⟨coeff, scale, _, _⟩ := a
  obtain rfl : coeff = b.coeff := Int.cast_inj.mp hcoeff
  obtain rfl : scale = b.scale := hscale
  rfl

/-- Without trailing zeros decimals are the same if they stand for the same number. -/
theorem normalized_eq_iff {a b : Decimal} : a.normalized = b.normalized ↔ a.value = b.value := by
  constructor
  · intro h
    rw [← value_normalized a, h, value_normalized]
  · intro h
    refine a.isReduced_normalized.eq_of_value_eq b.isReduced_normalized ?_
    rw [value_normalized, value_normalized, h]

/-! ## Plain notation -/

/-- A text is a number in plain notation: a minus sign below zero, digits, and behind a point the
    digits of the fraction, of which the last is not zero. -/
structure IsPlain (text : String) (x : ℚ) : Prop where
  exists_digits : ∃ whole fraction : List Char,
    text.toList = (if x < 0 then ['-'] else []) ++
      (whole ++ if fraction.isEmpty then [] else '.' :: fraction) ∧
    whole ≠ [] ∧ (∀ c ∈ whole, c.isDigit = true) ∧ (∀ c ∈ fraction, c.isDigit = true) ∧
    fraction.getLast? ≠ some '0' ∧
    |x| = Nat.ofDigitChars 10 (whole ++ fraction) 0 / 10 ^ fraction.length

theorem value_neg_iff {a : Decimal} : a.value < 0 ↔ a.coeff < 0 := by
  rw [value, div_lt_iff₀ (by positivity), zero_mul, Int.cast_lt_zero]

theorem abs_value (a : Decimal) : |a.value| = a.coeff.natAbs / 10 ^ a.scale := by
  rw [value, abs_div, abs_of_pos (by positivity : (0 : ℚ) < 10 ^ a.scale), Nat.cast_natAbs,
    Int.cast_abs]

theorem IsReduced.isPlain {a : Decimal} (h : a.IsReduced) : IsPlain a.toText a.value := by
  obtain ⟨whole, fraction, hchars, hne, hlength, hwhole, hfraction, hvalue⟩ := a.exists_chars
  refine ⟨whole, fraction, ?_, hne, hwhole, hfraction, fun hlast => ?_, ?_⟩
  · rw [toText, String.toList_ofList, hchars]
    simp only [value_neg_iff]
  · -- a zero at the end would be the last digit of the coefficient
    obtain ⟨front, rfl⟩ := List.getLast?_eq_some_iff.mp hlast
    rw [Nat.ofDigitChars_append, Nat.ofDigitChars_cons, Nat.ofDigitChars_nil] at hvalue
    rw [List.length_append, List.length_singleton] at hlength
    have hzero : '0'.toNat - '0'.toNat = 0 := rfl
    rcases h with hscale | hdigit
    · omega
    · omega
  · rw [abs_value, Nat.ofDigitChars_append, hvalue, hlength]

/-- **The text of a decimal without trailing zeros is its number in plain notation.** -/
theorem isPlain_normalized (a : Decimal) : IsPlain a.normalized.toText a.value := by
  rw [← value_normalized]
  exact a.isReduced_normalized.isPlain

end LiveTrader.Decimal
