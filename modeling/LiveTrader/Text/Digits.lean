import LiveTrader.Power

/-!
  LiveTrader.Text.Digits

  Whole numbers in decimal notation: writing with a least width, and reading
  into a bounded range the way counts, ports and time stamps are read.
-/

namespace LiveTrader.Text

/-- The decimal digits of `n` without leading zeros; zero has one digit. -/
def digits (n : Nat) : List Char :=
  Nat.toDigits 10 n

/-- The digits of `n` with zeros in front up to `width`. -/
def padded (width n : Nat) : List Char :=
  List.replicate (width - (digits n).length) '0' ++ digits n

/-- The value of an ASCII digit. -/
def digitValue? (c : Char) : Option Nat :=
  if c.isDigit then some (c.toNat - '0'.toNat) else none

/-- Extends the value `acc` by further digits; `none` at anything else. -/
def extendDigits? (acc : Nat) : List Char → Option Nat
  | [] => some acc
  | c :: rest =>
    match digitValue? c with
    | some d => extendDigits? (acc * 10 + d) rest
    | none => none

/-- The value of a non-empty list of ASCII digits. -/
def natOfDigits? : List Char → Option Nat
  | [] => none
  | cs => extendDigits? 0 cs

/-- A number below `bound`: digits with an optional plus sign. -/
def unsignedBelow? (bound : Nat) (cs : List Char) : Option Nat :=
  let body := match cs with
    | '+' :: rest => rest
    | cs => cs
  (natOfDigits? body).filter (· < bound)

/-- A signed 64-bit number: digits with an optional sign. -/
def signed64? (cs : List Char) : Option Int :=
  match cs with
  | '-' :: rest => (natOfDigits? rest).bind fun n =>
      if n ≤ pow2 63 then some (-(n : Int)) else none
  | cs => (unsignedBelow? (pow2 63) cs).map Int.ofNat

/-- A whole number in decimal notation, with a minus sign below zero. -/
def intText (n : Int) : List Char :=
  if n < 0 then '-' :: digits n.natAbs else digits n.natAbs

end LiveTrader.Text
