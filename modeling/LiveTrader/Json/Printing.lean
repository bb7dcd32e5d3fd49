import LiveTrader.Json.Basic
import LiveTrader.Binary64.Shortest
import LiveTrader.Text.Hex

/-!
  LiveTrader.Json.Printing

  Compact JSON text.  Only the quote, the backslash and control characters are
  escaped, so text outside ASCII is written as it is.
-/

namespace LiveTrader.Json

/-! ## Strings -/

/-- One character inside a string. -/
def escape (c : Char) : List Char :=
  if c = '"' then ['\\', '"']
  else if c = '\\' then ['\\', '\\']
  else if c = '\x08' then ['\\', 'b']
  else if c = '\t' then ['\\', 't']
  else if c = '\n' then ['\\', 'n']
  else if c = '\x0c' then ['\\', 'f']
  else if c = '\r' then ['\\', 'r']
  else if c.toNat < 0x20 then
    ['\\', 'u', '0', '0', Text.hexDigit (c.toNat / 16), Text.hexDigit (c.toNat % 16)]
  else [c]

/-- A quoted string. -/
def quoted (s : String) : List Char :=
  '"' :: s.toList.flatMap escape ++ ['"']

/-! ## Values -/

/-- A floating-point number; those without a decimal value are `null`. -/
def floatChars (x : Binary64) : List Char :=
  if x.isFinite then x.chars .document else "null".toList

mutual

/-- The compact text of a value. -/
def chars : Json → List Char
  | null => "null".toList
  | bool true => "true".toList
  | bool false => "false".toList
  | int n => Text.intText n
  | float x => floatChars x
  | str s => quoted s
  | arr [] => "[]".toList
  | arr (v :: vs) => '[' :: chars v ++ itemsTail vs
  | obj [] => ['\x7b', '\x7d']
  | obj ((k, v) :: ms) => '\x7b' :: quoted k ++ ':' :: chars v ++ membersTail ms

/-- The items after the first, and the closing bracket. -/
def itemsTail : List Json → List Char
  | [] => [']']
  | v :: vs => ',' :: chars v ++ itemsTail vs

/-- The members after the first, and the closing brace. -/
def membersTail : List (String × Json) → List Char
  | [] => ['\x7d']
  | (k, v) :: ms => ',' :: quoted k ++ ':' :: chars v ++ membersTail ms

end

/-- The compact text of a value. -/
def toText (v : Json) : String :=
  String.ofList v.chars

end LiveTrader.Json
