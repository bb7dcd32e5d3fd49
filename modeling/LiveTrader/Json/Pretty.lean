import LiveTrader.Json.Printing

/-!
  LiveTrader.Json.Pretty

  JSON text for people: one item or member a line, indented by two blanks for every level
  of nesting.
-/

namespace LiveTrader.Json

/-- A new line at a level of nesting. -/
def newLine (level : Nat) : List Char :=
  '\n' :: List.replicate (2 * level) ' '

mutual

/-- The text of a value at a level of nesting. -/
def prettyChars (level : Nat) : Json → List Char
  | arr [] => "[]".toList
  | arr (v :: vs) =>
    '[' :: newLine (level + 1) ++ prettyChars (level + 1) v ++ prettyItems level vs
  | obj [] => ['\x7b', '\x7d']
  | obj ((k, v) :: ms) =>
    '\x7b' :: newLine (level + 1) ++ quoted k ++ ':' :: ' ' :: prettyChars (level + 1) v
      ++ prettyMembers level ms
  | null => null.chars
  | bool b => (bool b).chars
  | int n => (int n).chars
  | float x => (float x).chars
  | str s => (str s).chars

/-- The items after the first of an array at a level, and the closing bracket. -/
def prettyItems (level : Nat) : List Json → List Char
  | [] => newLine level ++ [']']
  | v :: vs => ',' :: newLine (level + 1) ++ prettyChars (level + 1) v ++ prettyItems level vs

/-- The members after the first of an object at a level, and the closing brace. -/
def prettyMembers (level : Nat) : List (String × Json) → List Char
  | [] => newLine level ++ ['\x7d']
  | (k, v) :: ms =>
    ',' :: newLine (level + 1) ++ quoted k ++ ':' :: ' ' :: prettyChars (level + 1) v
      ++ prettyMembers level ms

end

/-- The indented text of a value. -/
def pretty (v : Json) : String :=
  String.ofList (v.prettyChars 0)

end LiveTrader.Json
