import LiveTrader.Power

/-!
  LiveTrader.Binary64.Basic

  The 64-bit binary floating-point format as a data type: its bit pattern, the
  number `± m · 2 ^ q` that a pattern stands for, the order of numbers, and the
  pattern nearest to an exact ratio.  Confidences, delays in seconds and the
  fractions inside passed-through documents are of this type.
-/

namespace LiveTrader

/-- A bit pattern of the format. -/
structure Binary64 where
  bits : UInt64
  deriving DecidableEq

namespace Binary64

/-! ## Parts of a pattern -/

/-- The sign bit. -/
def isNegative (x : Binary64) : Bool :=
  pow2 63 ≤ x.bits.toNat

/-- The pattern without its sign bit. -/
def magnitude (x : Binary64) : Nat :=
  x.bits.toNat % pow2 63

/-- The magnitude of infinity; larger ones are not numbers. -/
abbrev infinityMagnitude : Nat := 0x7FF * pow2 52

/-- Not a number. -/
def isNaN (x : Binary64) : Bool :=
  infinityMagnitude < x.magnitude

/-- A number, neither infinite nor undefined. -/
def isFinite (x : Binary64) : Bool :=
  x.magnitude < infinityMagnitude

/-- The pattern with this sign and magnitude. -/
def ofMagnitude (negative : Bool) (magnitude : Nat) : Binary64 :=
  ⟨UInt64.ofNat (magnitude + if negative then pow2 63 else 0)⟩

/-- Not a number. -/
def nan : Binary64 := ofMagnitude false (infinityMagnitude + pow2 51)

/-- Infinity of either sign. -/
def infinity (negative : Bool) : Binary64 := ofMagnitude negative infinityMagnitude

/-- Zero. -/
def zero : Binary64 := ⟨0⟩

/-- One. -/
def one : Binary64 := ofMagnitude false (0x3FF * pow2 52)

instance : Inhabited Binary64 := ⟨zero⟩

/-- `m` and `e` such that the size of a finite number is `m · 2 ^ (e - 1074)`. -/
def parts (x : Binary64) : Nat × Nat :=
  let field := x.magnitude / pow2 52
  let fraction := x.magnitude % pow2 52
  if field = 0 then (fraction, 0) else (pow2 52 + fraction, field - 1)

/-- The size of a finite number as a ratio of whole numbers. -/
def ratio (x : Binary64) : Nat × Nat :=
  let (m, e) := x.parts
  (m * pow2 (e - 1074), pow2 (1074 - e))

/-! ## Order -/

/-- Patterns other than NaN are ordered like these numbers; both zeros are `0`. -/
def rank (x : Binary64) : Int :=
  if x.isNegative then -(x.magnitude : Int) else x.magnitude

/-- Numeric `<`; false where either side is not a number. -/
def lt (x y : Binary64) : Bool :=
  !x.isNaN && !y.isNaN && x.rank < y.rank

/-- Numeric `≤`; false where either side is not a number. -/
def le (x y : Binary64) : Bool :=
  !x.isNaN && !y.isNaN && x.rank ≤ y.rank

/-! ## Rounding -/

/-- The whole number nearest to `num / den`, a half to the even one. -/
def nearestWhole (num den : Nat) : Nat :=
  let q := num / den
  let r := num % den
  if 2 * r < den then q
  else if den < 2 * r then q + 1
  else if q % 2 = 0 then q else q + 1

/-- The number of binary digits of `n`. -/
def bitLength (n : Nat) : Nat :=
  if n = 0 then 0 else Nat.log2 n + 1

/-- The finite number or infinity nearest to `± num / den`, a tie to the even
    pattern.  The exponent is the least at which the quotient needs at most 53
    binary digits; rounding up to a power of two carries into the exponent field
    by itself. -/
def nearest (negative : Bool) (num den : Nat) : Binary64 :=
  if num = 0 then ofMagnitude negative 0
  else
    -- `2 ^ (estimate - 1) ≤ num / den < 2 ^ (estimate + 1)`
    let estimate : Int := (bitLength num : Int) - bitLength den
    let fits (e : Nat) : Bool := num * pow2 (1074 - e) < den * pow2 (e - 1074) * pow2 53
    let start := Int.toNat (estimate - 53 + 1074)
    let e := if fits start then start else start + 1
    let m := nearestWhole (num * pow2 (1074 - e)) (den * pow2 (e - 1074))
    let magnitude := if m < pow2 52 then m else e * pow2 52 + m
    ofMagnitude negative (min magnitude infinityMagnitude)

end Binary64

end LiveTrader
