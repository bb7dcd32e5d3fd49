import LiveTrader.Decimal.Arithmetic

/-!
  LiveTrader.Decimal.Reading

  Reading decimals from text, in plain and in scientific notation.  Digits that
  a decimal cannot hold are rounded away if they are fraction digits and refused
  if they belong to the whole part.
-/

namespace LiveTrader.Decimal

/-! ## Plain notation -/

/-- The digits of a plain number before its point, and what stands after it: digits, and
    `none` for a separator.  A separator is an underscore anywhere after the first digit.
    No result for any other text. -/
def splitPlain? : (seenDigit seenPoint : Bool) → List Char →
    Option (List Nat × List (Option Nat))
  | seenDigit, _, [] => if seenDigit then some ([], []) else none
  | seenDigit, seenPoint, '.' :: rest =>
    if seenPoint then none else splitPlain? seenDigit true rest
  | seenDigit, seenPoint, '_' :: rest =>
    if seenDigit then (splitPlain? true seenPoint rest).map fun (whole, fraction) =>
      (whole, if seenPoint then none :: fraction else fraction)
    else none
  | _, seenPoint, c :: rest =>
    match Text.digitValue? c with
    | none => none
    | some d => (splitPlain? true seenPoint rest).map fun (whole, fraction) =>
      if seenPoint then (whole, some d :: fraction) else (d :: whole, fraction)

/-- The value of the whole part, `none` once it no longer fits. -/
def wholeValue? (acc : Nat) : List Nat → Option Nat
  | [] => some acc
  | d :: rest => if acc * 10 + d < pow2 96 then wholeValue? (acc * 10 + d) rest else none

/-- Rounds `acc` by the first dropped digit.  If that no longer fits, one more digit
    is given up; without one there is no result. -/
def roundByDigit? (acc scale dropped : Nat) : Option (Nat × Nat) :=
  if dropped < 5 then some (acc, scale)
  else if acc + 1 < pow2 96 then some (acc + 1, scale)
  else match scale with
    | 0 => none
    | scale + 1 => some ((acc + 5) / 10, scale)

/-- Values below this have room for another digit in 64 bits, with a margin. -/
def narrowLimit : Nat := (pow2 64 - 1) / 10 - 255

/-- Appends fraction digits while they fit, and rounds by the first that does not.
    Separators do not count, with one exception: after the last place of a number that was
    narrow up to there, a separator stands for a dropped zero. -/
def takeFraction? (acc scale : Nat) : List (Option Nat) → Option (Nat × Nat)
  | [] => some (acc, scale)
  | none :: rest => takeFraction? acc scale rest
  | some d :: rest =>
    let next := acc * 10 + d
    if scale < 28 ∧ next < pow2 96 then
      if scale = 27 ∧ acc < narrowLimit ∧ rest.head? = some none then some (next, 28)
      else takeFraction? next (scale + 1) rest
    else roundByDigit? acc scale d

/-- Splits a leading sign off a number. -/
def splitSign : List Char → Bool × List Char
  | '-' :: rest => (true, rest)
  | '+' :: rest => (false, rest)
  | cs => (false, cs)

/-- A decimal in plain notation. -/
def plain? (cs : List Char) : Option Decimal := do
  let (negative, body) := splitSign cs
  let (whole, fraction) ← splitPlain? false false body
  let value ← wholeValue? 0 whole
  let (coeff, scale) ← takeFraction? value 0 fraction
  ofParts? (signed negative coeff) scale

/-! ## Scientific notation -/

/-- Splits at the first letter `e` of either case. -/
def splitExponent? (cs : List Char) : Option (List Char × List Char) :=
  match cs.dropWhile fun c => c != 'e' && c != 'E' with
  | [] => none
  | _ :: power => some (cs.takeWhile fun c => c != 'e' && c != 'E', power)

/-- Divides by `10 ^ power`.  Where the scale would pass 28 the digits that go too far
    are first rounded off, a half away from zero. -/
def shiftDown? (a : Decimal) (power : Nat) : Option Decimal :=
  if power > 28 then none
  else if a.scale + power ≤ 28 then ofParts? a.coeff (a.scale + power)
  else ofParts?
    (signed (a.coeff < 0) (roundHalfUp a.coeff.natAbs (pow10 (a.scale - (28 - power))))) 28

/-- Multiplies by `10 ^ power`: the scale shrinks, and beyond zero the coefficient
    grows. -/
def shiftUp? (a : Decimal) (power : Nat) : Option Decimal :=
  if power > 28 then none
  else if power ≤ a.scale then ofParts? a.coeff (a.scale - power)
  else ofParts? (a.coeff * pow10 (power - a.scale)) 0

/-- A decimal in scientific notation; the exponent is a whole number below `2 ^ 32`. -/
def scientific? (cs : List Char) : Option Decimal := do
  let (base, power) ← splitExponent? cs
  let a ← plain? base
  match power with
  | '-' :: power => shiftDown? a (← Text.unsignedBelow? (pow2 32) power)
  | power => shiftUp? a (← Text.unsignedBelow? (pow2 32) power)

/-! ## Either notation -/

/-- A decimal in plain notation, else in scientific notation. -/
def ofChars? (cs : List Char) : Option Decimal :=
  (plain? cs).or (scientific? cs)

/-- A decimal from text in either notation. -/
def ofText? (s : String) : Option Decimal :=
  ofChars? s.toList

end LiveTrader.Decimal
