import LiveTrader.Binary64.Basic
import LiveTrader.Text.Digits

/-!
  LiveTrader.Binary64.Shortest

  The fewest decimal digits that read back as the same number, of those the ones
  nearest to it, and the two notations in which they are written.
-/

namespace LiveTrader.Binary64

/-! ## Digits -/

/-- Shortest digits of a positive number: `digits · 10 ^ power`. -/
structure Shortest where
  digits : Nat
  power : Int
  deriving DecidableEq

/-- The positive numbers that round to a given one: all between `low / unit` and
    `high / unit`, the ends included if `closed`.  The number itself is `value / unit`. -/
structure Interval where
  low : Nat
  value : Nat
  high : Nat
  unit : Nat
  closed : Bool

/-- The rounding interval of a finite positive number.  Below a power of two the
    neighbours are half as far apart. -/
def interval (x : Binary64) : Interval :=
  let (m, e) := x.parts
  let up := pow2 (e - 1076)
  let below := if m = pow2 52 ∧ 0 < e then 1 else 2
  { low := (4 * m - below) * up
    value := 4 * m * up
    high := (4 * m + 2) * up
    unit := pow2 (1076 - e)
    closed := m % 2 = 0 }

/-- `n / 10 ^ places` (or `n * 10 ^ -places` for negative `places`) as a ratio. -/
def atPlaces (n : Nat) (places : Int) : Nat × Nat :=
  (n * pow10 (-places).toNat, pow10 places.toNat)

/-- Whether `n / 10 ^ places` lies in the interval. -/
def Interval.holds (i : Interval) (n : Nat) (places : Int) : Bool :=
  let (num, den) := atPlaces n places
  if i.closed then i.low * den ≤ num * i.unit && num * i.unit ≤ i.high * den
  else i.low * den < num * i.unit && num * i.unit < i.high * den

/-- How an exact tie between two candidates is decided. -/
inductive Tie
  | even
  | up

/-- The better of the two whole numbers around the value at `places` fraction digits,
    if one of them lies in the interval. -/
def Interval.candidate? (i : Interval) (tie : Tie) (places : Int) : Option Nat :=
  let num := i.value * pow10 places.toNat
  let den := i.unit * pow10 (-places).toNat
  let below := num / den
  let rest := num % den
  let above := below + 1
  if i.holds below places && i.holds above places then
    if 2 * rest < den then some below
    else if den < 2 * rest then some above
    else match tie with
      | .up => some above
      | .even => some (if below % 2 = 0 then below else above)
  else if i.holds below places then some below
  else if i.holds above places then some above
  else none

/-- The first grid, from coarse to fine, with a candidate; seventeen digits always
    suffice. -/
def Interval.search (i : Interval) (tie : Tie) (places : Int) : Nat → Shortest
  | 0 => ⟨i.value / i.unit, 0⟩
  | fuel + 1 =>
    match i.candidate? tie places with
    | some n => ⟨n, -places⟩
    | none => i.search tie (places + 1) fuel

/-- One less than the number of whole digits of the value: `10 ^ k ≤ value / unit`. -/
def Interval.leading (i : Interval) : Int :=
  if i.unit ≤ i.value then ((Text.digits (i.value / i.unit)).length : Int) - 1
  else -((Text.digits ((i.unit - 1) / i.value)).length : Int)

/-- The shortest digits of a finite positive number. -/
def shortest (tie : Tie) (x : Binary64) : Shortest :=
  let i := x.interval
  i.search tie (-i.leading - 1) 20

/-! ## Notations -/

/-- The choices that make a written form. -/
structure Layout where
  /-- Which of two equally near digit strings is taken. -/
  tie : Tie
  /-- Numbers below `10 ^ lowest` are written with an exponent, if there is a bound. -/
  lowest : Option Int
  /-- Numbers from `10 ^ highest` on are written with an exponent, if there is a bound. -/
  highest : Option Int
  /-- A whole number written positionally ends in `.0`. -/
  pointZero : Bool

/-- Notation inside documents: positional from 10⁻⁵ up to 10¹⁶, with a point always. -/
def Layout.document : Layout := ⟨.even, some (-5), some 16, true⟩

/-- Notation inside messages: positional always, and no point without fraction digits. -/
def Layout.message : Layout := ⟨.up, none, none, false⟩

/-- Digits with a point after the first `whole` of them, zeros filled in on either
    side. -/
def positional (ds : List Char) (whole : Int) (pointZero : Bool) : List Char :=
  if whole ≤ 0 then '0' :: '.' :: (List.replicate (-whole).toNat '0' ++ ds)
  else if whole.toNat < ds.length then ds.take whole.toNat ++ '.' :: ds.drop whole.toNat
  else ds ++ List.replicate (whole.toNat - ds.length) '0' ++ (if pointZero then ['.', '0'] else [])

/-- Digits with a point after the first and a signed exponent. -/
def exponential (ds : List Char) (power : Int) : List Char :=
  let mantissa := match ds with
    | [d] => [d]
    | d :: rest => d :: '.' :: rest
    | [] => []
  mantissa ++ ['e', if power < 0 then '-' else '+'] ++ Text.digits power.natAbs

/-- The characters of a positive number's digits in a notation. -/
def Layout.digitChars (layout : Layout) (s : Shortest) : List Char :=
  let ds := Text.digits s.digits
  let whole : Int := ds.length + s.power
  let tooSmall := match layout.lowest with
    | some k => whole ≤ k
    | none => false
  let tooLarge := match layout.highest with
    | some k => k < whole
    | none => false
  if tooSmall || tooLarge then exponential ds (whole - 1)
  else positional ds whole layout.pointZero

/-- The characters of any number. -/
def chars (layout : Layout) (x : Binary64) : List Char :=
  if x.isNaN then "NaN".toList
  else
    let sign := if x.isNegative then ['-'] else []
    let body :=
      if !x.isFinite then "inf".toList
      else if x.magnitude = 0 then (if layout.pointZero then "0.0".toList else ['0'])
      else layout.digitChars (x.shortest layout.tie)
    sign ++ body

/-- The written form of a number. -/
def toText (layout : Layout) (x : Binary64) : String :=
  String.ofList (x.chars layout)

end LiveTrader.Binary64
