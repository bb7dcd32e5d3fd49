import LiveTrader.Binary64.Basic
import LiveTrader.Text.Digits

/-!
  LiveTrader.Binary64.Reading

  The number nearest to a decimal text.  A text is read exactly and rounded once.
-/

namespace LiveTrader.Binary64

/-- The number nearest to `± digits · 10 ^ power`.  Beyond the format's range the
    answer is known without computing the power. -/
def ofScientific (negative : Bool) (digits : Nat) (power : Int) : Binary64 :=
  if digits = 0 then ofMagnitude negative 0
  else
    let size := power + (Nat.log2 digits / 3 + 1 : Nat)
    if 310 < power then infinity negative
    else if size < -330 then ofMagnitude negative 0
    else nearest negative (digits * pow10 power.toNat) (pow10 (-power).toNat)

/-! ## Numbers in text -/

/-- The parts of an unsigned decimal number. -/
structure Numeral where
  whole : List Char
  fraction : List Char
  power : Int

/-- The number nearest to a numeral. -/
def Numeral.toBinary64? (negative : Bool) (n : Numeral) : Option Binary64 := do
  let digits ← Text.natOfDigits? (n.whole ++ n.fraction)
  return ofScientific negative digits (n.power - n.fraction.length)

/-- An exponent: digits with an optional sign. -/
def exponent? : List Char → Option Int
  | '-' :: ds => (Text.natOfDigits? ds).map fun n => -(n : Int)
  | '+' :: ds => (Text.natOfDigits? ds).map Int.ofNat
  | ds => (Text.natOfDigits? ds).map Int.ofNat

/-- Digits with an optional point and an optional exponent. -/
def numeral? (cs : List Char) : Option Numeral := do
  let whole := cs.takeWhile Char.isDigit
  let rest := cs.dropWhile Char.isDigit
  let (fraction, rest) := match rest with
    | '.' :: rest => (rest.takeWhile Char.isDigit, rest.dropWhile Char.isDigit)
    | rest => ([], rest)
  if whole.isEmpty && fraction.isEmpty then none
  else match rest with
    | [] => some ⟨whole, fraction, 0⟩
    | c :: power =>
      if c = 'e' ∨ c = 'E' then return ⟨whole, fraction, ← exponent? power⟩ else none

/-- A number from text: an optional sign, then a numeral or, in any case of letters,
    `inf`, `infinity` or `nan`. -/
def ofChars? (cs : List Char) : Option Binary64 :=
  let (negative, body) := match cs with
    | '-' :: rest => (true, rest)
    | '+' :: rest => (false, rest)
    | cs => (false, cs)
  let word := String.ofList (body.map Char.toLower)
  if word = "inf" ∨ word = "infinity" then some (infinity negative)
  else if word = "nan" then some nan
  else (numeral? body).bind (·.toBinary64? negative)

end LiveTrader.Binary64
