import LiveTrader.Json.Basic
import LiveTrader.Binary64.Reading

/-!
  LiveTrader.Json.Number

  The value of a JSON number.  A numeral without fraction and exponent that fits a
  64-bit integer is that integer.  Any other numeral is gathered into a 64-bit
  significand and a power of ten, the significand is rounded to a floating-point
  number, and that is scaled by floating-point powers of ten.  The scaling rounds
  again, so the result may differ in its last bit from the number nearest to the
  numeral.
-/

namespace LiveTrader.Json

/-! ## Numerals -/

/-- A numeral that keeps to the grammar: the digits of its whole part, of its fraction
    and of its exponent, the latter two if it has them. -/
structure Numeral where
  negative : Bool
  whole : List Nat
  fraction : Option (List Nat)
  exponent : Option (Bool × List Nat)

/-- Splits off the leading digits of a text as their values. -/
def spanDigits : List Char → List Nat × List Char
  | [] => ([], [])
  | c :: rest =>
    match Text.digitValue? c with
    | some d => let (ds, rest) := spanDigits rest; (d :: ds, rest)
    | none => ([], c :: rest)

/-- A fraction: a point and at least one digit.  `none` if the point stands alone. -/
def scanFraction? : List Char → Option (Option (List Nat) × List Char)
  | '.' :: rest =>
    match spanDigits rest with
    | ([], _) => none
    | (ds, rest) => some (some ds, rest)
  | cs => some (none, cs)

/-- An exponent: a letter, an optional sign and at least one digit. -/
def scanExponent? : List Char → Option (Option (Bool × List Nat) × List Char)
  | [] => some (none, [])
  | c :: rest =>
    if c = 'e' ∨ c = 'E' then
      let (negative, rest) := match rest with
        | '-' :: rest => (true, rest)
        | '+' :: rest => (false, rest)
        | rest => (false, rest)
      match spanDigits rest with
      | ([], _) => none
      | (ds, rest) => some (some (negative, ds), rest)
    else some (none, c :: rest)

/-- The numeral at the front of a text and what follows it.  A whole part of more than
    one digit does not start with zero. -/
def scanNumeral? (cs : List Char) : Option (Numeral × List Char) := do
  let (negative, body) := match cs with
    | '-' :: rest => (true, rest)
    | cs => (false, cs)
  let (whole, rest) := spanDigits body
  match whole with
  | [] => none
  | 0 :: _ :: _ => none
  | _ => do
    let (fraction, rest) ← scanFraction? rest
    let (exponent, rest) ← scanExponent? rest
    return (⟨negative, whole, fraction, exponent⟩, rest)

/-! ## Values -/

/-- Appends digits to a significand until it would leave 64 bits; also says how many
    were taken. -/
def gather (significand taken : Nat) : List Nat → Nat × Nat
  | [] => (significand, taken)
  | d :: rest =>
    if significand * 10 + d < pow2 64 then gather (significand * 10 + d) (taken + 1) rest
    else (significand, taken)

/-- A floating-point power of ten, from `10⁰` to `10³⁰⁸`. -/
def powerOfTen (n : Nat) : Binary64 :=
  Binary64.nearest false (pow10 n) 1

/-- The product of two positive finite numbers. -/
def times (x y : Binary64) : Binary64 :=
  Binary64.nearest false (x.ratio.1 * y.ratio.1) (x.ratio.2 * y.ratio.2)

/-- The quotient of two positive finite numbers. -/
def quotient (x y : Binary64) : Binary64 :=
  Binary64.nearest false (x.ratio.1 * y.ratio.2) (x.ratio.2 * y.ratio.1)

/-- Divides by `10 ^ power`, from far below one in steps of `10³⁰⁸`.  Three such steps
    reach zero, so `steps` need not be large. -/
def scaleDown (x : Binary64) (power : Nat) : (steps : Nat) → Binary64
  | 0 => x
  | steps + 1 =>
    if power ≤ 308 then quotient x (powerOfTen power)
    else if x.magnitude = 0 then x
    else scaleDown (quotient x (powerOfTen 308)) (power - 308) steps

/-- Multiplies by `10 ^ power`; `none` beyond the largest number. -/
def scaleByPower? (x : Binary64) (power : Int) : Option Binary64 :=
  if x.magnitude = 0 then some x
  else if power < 0 then some (scaleDown x power.natAbs 4)
  else if 308 < power then none
  else
    let product := times x (powerOfTen power.toNat)
    if product.isFinite then some product else none

/-- The value of a list of digits, or `2 ^ 80` if it is larger: that is beyond the range of
    whole numbers and of exponents alike. -/
def digitsValue (ds : List Nat) : Nat :=
  ds.foldl (fun acc d => Nat.min (acc * 10 + d) (pow2 80)) 0

/-- The floating-point value of a numeral; `none` beyond the largest number. -/
def Numeral.toFloat? (n : Numeral) : Option Binary64 :=
  let (significand, taken) := gather 0 0 n.whole
  let dropped : Int := n.whole.length - taken
  let (significand, fractionTaken) := gather significand 0 (n.fraction.getD [])
  let power : Int := dropped - fractionTaken
  let power := match n.exponent with
    | none => power
    | some (negative, ds) =>
      if negative then power - digitsValue ds else power + digitsValue ds
  (scaleByPower? (Binary64.nearest false significand 1) power).map fun x =>
    Binary64.ofMagnitude n.negative x.magnitude

/-- The value of a numeral.  A negative zero is a floating-point number. -/
def Numeral.value? (n : Numeral) : Option Json :=
  let size := digitsValue n.whole
  if n.fraction.isNone && n.exponent.isNone && !n.negative && size < pow2 64 then
    some (.int size)
  else if n.fraction.isNone && n.exponent.isNone && n.negative && 0 < size && size ≤ pow2 63 then
    some (.int (-(size : Int)))
  else n.toFloat?.map .float

end LiveTrader.Json
