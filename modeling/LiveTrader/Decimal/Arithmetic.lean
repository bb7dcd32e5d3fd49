import LiveTrader.Decimal.Basic

/-!
  LiveTrader.Decimal.Arithmetic

  Products, quotients and floors.  A result is the exact one, rounded half to
  even at the largest scale at which its coefficient fits; a result too large
  even without fraction digits is `none`.
-/

namespace LiveTrader.Decimal

/-! ## Rounding a quotient -/

/-- `num / den` rounded to the nearest whole number, a half to the even one. -/
def roundHalfEven (num den : Nat) : Nat :=
  let q := num / den
  let r := num % den
  if 2 * r < den then q
  else if den < 2 * r then q + 1
  else if q % 2 = 0 then q else q + 1

/-- `num / den` rounded to the nearest whole number, a half away from zero. -/
def roundHalfUp (num den : Nat) : Nat :=
  (2 * num + den) / (2 * den)

/-- Gives a size the sign of `negative`. -/
def signed (negative : Bool) (n : Nat) : Int :=
  if negative then -(n : Int) else n

/-- The decimal nearest to `± num / den` at the largest scale of at most `scale` at
    which the coefficient fits. -/
def nearest? (negative : Bool) (num den : Nat) : (scale : Nat) → scale ≤ 28 → Option Decimal
  | scale, hs =>
    let n := roundHalfEven (num * pow10 scale) den
    if h : n < pow2 96 then
      some ⟨signed negative n, scale, by unfold signed; split <;> omega, hs⟩
    else match scale, hs with
      | 0, _ => none
      | scale + 1, hs => nearest? negative num den scale (by omega)

/-! ## Operations -/

/-- The product. -/
def mul? (a b : Decimal) : Option Decimal :=
  nearest? (a.coeff * b.coeff < 0) (a.coeff.natAbs * b.coeff.natAbs) (pow10 (a.scale + b.scale))
    (min (a.scale + b.scale) 28) (Nat.min_le_right ..)

/-- The quotient; `none` also for a zero divisor. -/
def div? (a b : Decimal) : Option Decimal :=
  if b.coeff = 0 then none
  else nearest? (decide (a.coeff < 0) != decide (b.coeff < 0)) (a.coeff.natAbs * pow10 b.scale)
    (b.coeff.natAbs * pow10 a.scale) 28 (Nat.le_refl _)

/-- The greatest whole number that is not above `a`. -/
def floor (a : Decimal) : Decimal where
  coeff := a.coeff / (pow10 a.scale : Nat)
  scale := 0
  coeff_lt := Nat.lt_of_le_of_lt (Int.natAbs_ediv_le_natAbs _ _) a.coeff_lt
  scale_le := zero.scale_le

end LiveTrader.Decimal
