import LiveTrader.Text.Blank

/-!
  LiveTrader.Config.DotEnv

  Variables from a file of lines such as "KEY=value".  Values may be quoted; within weak
  quotes and without quotes a backslash escapes the next character.  The first line that
  cannot be read ends the file.
-/

namespace LiveTrader.DotEnv

/-! ## Values -/

/-- How the characters of a value are taken. -/
inductive Mode
  /-- Without quotes. -/
  | plain
  /-- Within strong quotes, where everything stands for itself. -/
  | strong
  /-- Within weak quotes. -/
  | weak
  /-- After the value, where only blanks and a comment may follow. -/
  | after
  deriving DecidableEq

/-- The character that an escape stands for. -/
def escape? (c : Char) : Option Char :=
  if ['\\', '\'', '"', '$', ' '].contains c then some c
  else if c = 'n' then some '\n'
  else none

/-- Whether a character is a blank of a line. -/
def isGap (c : Char) : Bool := c = ' ' || c = '\t'

/-- Reads the rest of a value; `taken` are the characters so far, last first. -/
def value? (mode : Mode) (taken : List Char) : List Char → Option (List Char)
  | [] => if mode = .strong ∨ mode = .weak then none else some taken.reverse
  | c :: cs =>
    match mode with
    | .after =>
      if isGap c then value? .after taken cs
      else if c = '#' then some taken.reverse
      else none
    | .strong => if c = '\'' then value? .plain taken cs else value? .strong (c :: taken) cs
    | mode =>
      if c = '\\' then
        match cs with
        | [] => none
        | e :: rest =>
          match escape? e with
          | some c => value? mode (c :: taken) rest
          | none => none
      else if c = '"' then value? (if mode = .weak then .plain else .weak) taken cs
      else if mode = .weak then value? .weak (c :: taken) cs
      else if c = '\'' then value? .strong taken cs
      else if isGap c then value? .after taken cs
      else value? .plain (c :: taken) cs

/-! ## Lines -/

/-- Whether a name can begin with a character. -/
def startsName (c : Char) : Bool := c.isAlpha || c = '_'

/-- Whether a name can go on with a character. -/
def continuesName (c : Char) : Bool := c.isAlphanum || c = '_' || c = '.'

/-- The name at the start of a line, and what follows it. -/
def name? : List Char → Option (List Char × List Char)
  | [] => none
  | c :: cs =>
    if startsName c then some (c :: cs.takeWhile continuesName, cs.dropWhile continuesName)
    else none

/-- Reads a name, an equals sign and a value. -/
def assignment? (line : List Char) : Option (String × String) := do
  let (name, rest) ← name? line
  match rest.dropWhile isGap with
  | '=' :: value =>
    let value := value.dropWhile isGap
    if value.head? = some '#' then return (String.ofList name, "")
    else return (String.ofList name, String.ofList (← value? .plain [] value))
  | _ => none

/-- What follows the word that may stand before an assignment. -/
def withoutExport (line : List Char) : List Char :=
  let word := "export".toList
  let rest := line.drop word.length
  if word.isPrefixOf line ∧ (rest.head?.any isGap) then rest.dropWhile isGap else line

/-- What a line says: nothing, or a variable.  `none` for a line that cannot be read. -/
def line? (line : List Char) : Option (Option (String × String)) :=
  let line := Text.trimChars line
  if line.isEmpty ∨ line.head? = some '#' then some none
  else (assignment? (withoutExport line)).map some

/-- The variables of lines, up to the first that cannot be read. -/
def assignments : List (List Char) → List (String × String)
  | [] => []
  | l :: ls =>
    match line? l with
    | none => []
    | some none => assignments ls
    | some (some v) => v :: assignments ls

end LiveTrader.DotEnv
