import LiveTrader.Text.Digits

/-!
  LiveTrader.Decimal.Basic

  Decimals for prices, quantities and limits: a whole coefficient below 2⁹⁶ in
  size, divided by a power of ten of at most 28.  Two decimals may have the same
  value and different scales (`0.1` and `0.10`); the scale is kept for printing,
  while comparisons look at the value alone.
-/

namespace LiveTrader

/-- The decimal `coeff / 10 ^ scale`. -/
structure Decimal where
  coeff : Int
  scale : Nat
  coeff_lt : coeff.natAbs < pow2 96
  scale_le : scale ≤ 28
  deriving DecidableEq

namespace Decimal

/-- Coefficients are smaller than this in absolute value. -/
abbrev coeffLimit : Nat := pow2 96

/-- The largest scale. -/
abbrev maxScale : Nat := 28

/-! ## Construction -/

/-- The decimal with these parts, if they are in range. -/
def ofParts? (coeff : Int) (scale : Nat) : Option Decimal :=
  if h : coeff.natAbs < pow2 96 ∧ scale ≤ 28 then some ⟨coeff, scale, h.1, h.2⟩ else none

/-- A whole number. -/
def ofInt? (n : Int) : Option Decimal :=
  ofParts? n 0

/-- The decimal `coeff / 10 ^ scale` of a coefficient so small that every scale will do;
    a scale beyond the largest counts as the largest. -/
def small (coeff : UInt16) (scale : Nat) : Decimal where
  coeff := coeff.toNat
  scale := Nat.min scale 28
  coeff_lt := Nat.lt_trans coeff.toNat_lt (by decide)
  scale_le := Nat.min_le_right scale 28

/-- Zero with no fraction digits. -/
def zero : Decimal := ⟨0, 0, by decide, by decide⟩

/-- The largest decimal. -/
def max : Decimal := ⟨pow2 96 - 1, 0, by decide, by decide⟩

instance : Inhabited Decimal := ⟨zero⟩

/-! ## Comparison by value -/

/-- The coefficients of two decimals brought to a common scale. -/
def aligned (a b : Decimal) : Int × Int :=
  (a.coeff * pow10 b.scale, b.coeff * pow10 a.scale)

/-- Numeric order. -/
def compare (a b : Decimal) : Ordering :=
  Ord.compare (aligned a b).1 (aligned a b).2

/-- Numeric order does not depend on scales. -/
instance : LT Decimal := ⟨fun a b => (aligned a b).1 < (aligned a b).2⟩

instance : LE Decimal := ⟨fun a b => (aligned a b).1 ≤ (aligned a b).2⟩

instance (a b : Decimal) : Decidable (a < b) :=
  inferInstanceAs (Decidable ((aligned a b).1 < (aligned a b).2))

instance (a b : Decimal) : Decidable (a ≤ b) :=
  inferInstanceAs (Decidable ((aligned a b).1 ≤ (aligned a b).2))

/-- Above zero. -/
def isPositive (a : Decimal) : Bool :=
  0 < a.coeff

/-- Below zero. -/
def isNegative (a : Decimal) : Bool :=
  a.coeff < 0

/-! ## Trailing zeros -/

/-- Drops fraction digits that are zero: the pair of a coefficient and a scale with
    the same quotient and the least scale. -/
def stripZeros (coeff : Int) : Nat → Int × Nat
  | 0 => (coeff, 0)
  | scale + 1 => if coeff % 10 = 0 then stripZeros (coeff / 10) scale else (coeff, scale + 1)

theorem stripZeros_natAbs_le (coeff : Int) (scale : Nat) :
    (stripZeros coeff scale).1.natAbs ≤ coeff.natAbs := by
  induction scale generalizing coeff with
  | zero => simp [stripZeros]
  | succ scale ih =>
    unfold stripZeros
    split
    · exact Nat.le_trans (ih _) (by omega)
    · exact Nat.le_refl _

theorem stripZeros_scale_le (coeff : Int) (scale : Nat) :
    (stripZeros coeff scale).2 ≤ scale := by
  induction scale generalizing coeff with
  | zero => simp [stripZeros]
  | succ scale ih =>
    unfold stripZeros
    split
    · exact Nat.le_succ_of_le (ih _)
    · exact Nat.le_refl _

/-- The same value without trailing zeros in its fraction. -/
def normalized (a : Decimal) : Decimal where
  coeff := (stripZeros a.coeff a.scale).1
  scale := (stripZeros a.coeff a.scale).2
  coeff_lt := Nat.lt_of_le_of_lt (stripZeros_natAbs_le _ _) a.coeff_lt
  scale_le := Nat.le_trans (stripZeros_scale_le _ _) a.scale_le

/-! ## Text -/

/-- A minus sign below zero, the whole part, and exactly `scale` fraction digits
    after a point.  Zero never has a sign. -/
def chars (a : Decimal) : List Char :=
  let ds := Text.padded (a.scale + 1) a.coeff.natAbs
  let whole := ds.take (ds.length - a.scale)
  let fraction := ds.drop (ds.length - a.scale)
  (if a.coeff < 0 then ['-'] else [])
    ++ whole ++ (if fraction.isEmpty then [] else '.' :: fraction)

/-- The written form of a decimal. -/
def toText (a : Decimal) : String :=
  String.ofList a.chars

instance : ToString Decimal := ⟨toText⟩

end Decimal

end LiveTrader
