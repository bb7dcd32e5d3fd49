import LiveTrader.Json.Number
import LiveTrader.Json.Shape
import LiveTrader.Text.Hex
import LiveTrader.Text.Utf8

/-!
  LiveTrader.Json.Reading

  Reading JSON text.  A text is cut into tokens, the tokens are assembled into the
  document as it is written, and the document gives a value.  The steps are apart
  because a reader of a record skips members it does not know without asking for
  their value: a number beyond the floating-point range, a lone surrogate, bytes that
  are no character and containers nested too deep are errors only where they are read.

  A text is a list of characters in which `none` stands for bytes that are none.
-/

namespace LiveTrader.Json

/-! ## Strings -/

/-- A character of a string, a UTF-16 code unit written as an escape, or bytes that are
    no character. -/
inductive Piece
  | char (c : Char)
  | unit (n : Nat)
  | broken

/-- The character for a letter after a backslash. -/
def escaped? (c : Char) : Option Char :=
  if c = '"' ∨ c = '\\' ∨ c = '/' then some c
  else if c = 'b' then some '\x08'
  else if c = 'f' then some '\x0c'
  else if c = 'n' then some '\n'
  else if c = 'r' then some '\r'
  else if c = 't' then some '\t'
  else none

/-- Four hexadecimal digits. -/
def hex4? (a b c d : Char) : Option Nat := do
  return (((← Text.hexValue? a) * 16 + (← Text.hexValue? b)) * 16 + (← Text.hexValue? c)) * 16
    + (← Text.hexValue? d)

/-- The pieces of a string after its opening quote, and what follows its end. -/
def scanString? : List (Option Char) → Option (List Piece × List (Option Char))
  | [] => none
  | some '"' :: rest => some ([], rest)
  | some '\\' :: some 'u' :: some a :: some b :: some c :: some d :: rest => do
    let n ← hex4? a b c d
    let (pieces, rest) ← scanString? rest
    return (.unit n :: pieces, rest)
  | some '\\' :: some c :: rest => do
    let e ← escaped? c
    let (pieces, rest) ← scanString? rest
    return (.char e :: pieces, rest)
  | some c :: rest =>
    if c.toNat < 0x20 ∨ c = '\\' then none
    else do
      let (pieces, rest) ← scanString? rest
      return (.char c :: pieces, rest)
  | none :: rest => do
    let (pieces, rest) ← scanString? rest
    return (.broken :: pieces, rest)

/-- The characters of the pieces; `none` if a surrogate stands alone or bytes are no
    character. -/
def joinPieces? : List Piece → Option (List Char)
  | [] => some []
  | .char c :: rest => (joinPieces? rest).map (c :: ·)
  | .unit n :: .unit m :: rest =>
    if 0xD800 ≤ n ∧ n < 0xDC00 then
      if 0xDC00 ≤ m ∧ m < 0xE000 then
        (joinPieces? rest).map (Char.ofNat (0x10000 + (n - 0xD800) * 0x400 + (m - 0xDC00)) :: ·)
      else none
    else if 0xDC00 ≤ n ∧ n < 0xE000 then none
    else (joinPieces? (.unit m :: rest)).map (Char.ofNat n :: ·)
  | .unit n :: rest =>
    if 0xD800 ≤ n ∧ n < 0xE000 then none
    else (joinPieces? rest).map (Char.ofNat n :: ·)
  | .broken :: _ => none

/-! ## Tokens -/

/-- A lexical token.  A string, or another leaf, that keeps to the grammar but has no
    value holds `none`. -/
inductive Token
  | openArr
  | closeArr
  | openObj
  | closeObj
  | comma
  | colon
  | str (s : Option String)
  | leaf (value : Option Json)

/-- The four white-space characters between tokens. -/
def isSpace (c : Char) : Bool :=
  c == ' ' || c == '\n' || c == '\t' || c == '\r'

/-- The characters of literals and numerals. -/
def isWordChar (c : Char) : Bool :=
  c.isAlphanum || c == '.' || c == '+' || c == '-'

/-- Splits off the leading characters of a literal or a numeral. -/
def spanWord : List (Option Char) → List Char × List (Option Char)
  | some c :: rest =>
    if isWordChar c then let (word, rest) := spanWord rest; (c :: word, rest)
    else ([], some c :: rest)
  | rest => ([], rest)

/-- The leaf that a word is. -/
def Token.ofWord? (word : List Char) : Option Token :=
  if word = "true".toList then some (.leaf (some (.bool true)))
  else if word = "false".toList then some (.leaf (some (.bool false)))
  else if word = "null".toList then some (.leaf (some .null))
  else match scanNumeral? word with
    | some (n, []) => some (.leaf n.value?)
    | _ => none

/-- The token at the front of a text that starts with `c`, and what follows it. -/
def scanToken? (c : Char) (rest : List (Option Char)) : Option (Token × List (Option Char)) :=
  if c = '[' then some (.openArr, rest)
  else if c = ']' then some (.closeArr, rest)
  else if c = '\x7b' then some (.openObj, rest)
  else if c = '\x7d' then some (.closeObj, rest)
  else if c = ',' then some (.comma, rest)
  else if c = ':' then some (.colon, rest)
  else if c = '"' then
    (scanString? rest).map fun (pieces, rest) =>
      (.str ((joinPieces? pieces).map String.ofList), rest)
  else
    let (word, rest) := spanWord (some c :: rest)
    (Token.ofWord? word).map fun token => (token, rest)

/-- Cuts a text into tokens.  Each token and each space takes at least one character,
    so the length of the text bounds their number. -/
def tokensWithin : Nat → List (Option Char) → Option (List Token)
  | _, [] => some []
  | 0, _ => none
  | _, none :: _ => none
  | fuel + 1, some c :: rest =>
    if isSpace c then tokensWithin fuel rest
    else do
      let (token, rest) ← scanToken? c rest
      return token :: (← tokensWithin fuel rest)

/-- The tokens of a text. -/
def tokens? (text : List (Option Char)) : Option (List Token) :=
  tokensWithin text.length text

/-! ## Documents as written -/

/-- A document with its members in their written order, repetitions included. -/
inductive Written where
  | leaf (value : Option Json)
  | arr (items : List Written)
  | obj (members : List (Option String × Written))

/-- An array or object that is still open, with what it holds so far, last first. -/
inductive Frame
  | arr (items : List Written)
  | obj (members : List (Option String × Written)) (key : Option String)

/-- What a prefix of the tokens leaves to be done. -/
inductive Progress
  /-- A value must follow. -/
  | value (outer : List Frame)
  /-- An array has just been opened: a value or its end follows. -/
  | firstItem (outer : List Frame)
  /-- An object has just been opened: a key or its end follows. -/
  | firstKey (outer : List Frame)
  /-- A key must follow in an object that holds these members. -/
  | nextKey (members : List (Option String × Written)) (outer : List Frame)
  /-- The colon after a key must follow. -/
  | colon (members : List (Option String × Written)) (key : Option String) (outer : List Frame)
  /-- A comma or the end of the innermost container follows. -/
  | next (innermost : Frame) (outer : List Frame)
  /-- The document is complete. -/
  | done (document : Written)

/-- A value is complete: it goes into the innermost container. -/
def Progress.finish (v : Written) : List Frame → Progress
  | [] => .done v
  | .arr items :: rest => .next (.arr (v :: items)) rest
  | .obj members k :: rest => .next (.obj ((k, v) :: members) none) rest

/-- Starts a value. -/
def Progress.start? (outer : List Frame) : Token → Option Progress
  | .str s => some (finish (.leaf (s.map .str)) outer)
  | .leaf v => some (finish (.leaf v) outer)
  | .openArr => some (.firstItem outer)
  | .openObj => some (.firstKey outer)
  | _ => none

/-- Takes one token. -/
def Progress.step? : Progress → Token → Option Progress
  | .value outer, t => start? outer t
  | .firstItem outer, .closeArr => some (finish (.arr []) outer)
  | .firstItem outer, t => start? (.arr [] :: outer) t
  | .firstKey outer, .closeObj => some (finish (.obj []) outer)
  | .firstKey outer, .str k => some (.colon [] k outer)
  | .nextKey members outer, .str k => some (.colon members k outer)
  | .colon members k outer, .colon => some (.value (.obj members k :: outer))
  | .next (.arr items) outer, .comma => some (.value (.arr items :: outer))
  | .next (.arr items) outer, .closeArr => some (finish (.arr items.reverse) outer)
  | .next (.obj members _) outer, .comma => some (.nextKey members outer)
  | .next (.obj members _) outer, .closeObj => some (finish (.obj members.reverse) outer)
  | _, _ => none

/-- The document that a list of tokens is. -/
def Written.ofTokens? (tokens : List Token) : Option Written :=
  match tokens.foldlM Progress.step? (.value []) with
  | some (.done v) => some v
  | _ => none

/-- The document that a text is. -/
def Written.ofText? (text : List (Option Char)) : Option Written :=
  (tokens? text).bind ofTokens?

/-! ## Values of documents -/

/-- Arrays and objects that are read may be nested this deep. -/
abbrev depthLimit : Nat := 127

mutual

/-- The value of a document nested at most `room` deep: objects sorted, the last of
    repeated members kept.  There is none if any leaf has none. -/
def Written.value? : (room : Nat) → Written → Option Json
  | _, .leaf v => v
  | room + 1, .arr items => (valueItems? room items).map .arr
  | room + 1, .obj members => (valueMembers? room members).map object
  | 0, _ => none

/-- The values of a list of documents. -/
def Written.valueItems? : (room : Nat) → List Written → Option (List Json)
  | _, [] => some []
  | room, v :: vs =>
    match Written.value? room v, valueItems? room vs with
    | some v, some vs => some (v :: vs)
    | _, _ => none

/-- The values of a list of members. -/
def Written.valueMembers? : (room : Nat) → List (Option String × Written) →
    Option (List (String × Json))
  | _, [] => some []
  | room, (k, v) :: ms =>
    match k, Written.value? room v, valueMembers? room ms with
    | some k, some v, some ms => some ((k, v) :: ms)
    | _, _, _ => none

end

/-- The value of a JSON text. -/
def ofChars? (cs : List Char) : Option Json :=
  (Written.ofText? (cs.map some)).bind (Written.value? depthLimit)

/-- The value of a JSON text. -/
def ofText? (s : String) : Option Json :=
  ofChars? s.toList

/-! ## Reading a record -/

/-- The word of an enumeration: a string, or the key of an object whose only member has
    no value. -/
def Written.word? : Written → Option Json
  | .leaf v => v
  | .obj [(k, .leaf (some .null))] => k.map .str
  | _ => none

mutual

/-- The value of a document as far as a shape knows it.  Members of a record that the
    shape does not name are skipped, and a repeated member is an error. -/
def Shape.value? : Shape → (room : Nat) → Written → Option Json
  | .anything, room, v => v.value? room
  | .word, _, v => v.word?
  | .record _ known, room + 1, .obj members =>
    if members.any fun (k, _) => k.isNone then none
    else (Shape.memberValues? known room members).map object
  | .record required known, room + 1, .arr items =>
    if fits required known.length items.length then
      (Shape.itemValues? known room items).map object
    else none
  | .record .., _, .leaf v => v
  | .record .., 0, _ => none

/-- The members that a record knows. -/
def Shape.memberValues? : List (String × Shape) → (room : Nat) →
    List (Option String × Written) → Option (List (String × Json))
  | [], _, _ => some []
  | (name, shape) :: known, room, members => do
    let rest ← Shape.memberValues? known room members
    match members.filter fun (k, _) => k == some name with
    | [] => return rest
    | [(_, v)] => return (name, ← Shape.value? shape room v) :: rest
    | _ => none

/-- The members of a record that a list of items gives, one after the other. -/
def Shape.itemValues? : List (String × Shape) → (room : Nat) → List Written →
    Option (List (String × Json))
  | (name, shape) :: known, room, v :: vs => do
    let value ← Shape.value? shape room v
    return (name, value) :: (← Shape.itemValues? known room vs)
  | _, _, _ => some []

end

/-- The value of a JSON text as far as a shape knows it. -/
def Shape.ofChars? (shape : Shape) (cs : List Char) : Option Json :=
  (Written.ofText? (cs.map some)).bind (shape.value? depthLimit)

/-- The value of a JSON text in bytes as far as a shape knows it. -/
def Shape.ofBytes? (shape : Shape) (bytes : List UInt8) : Option Json :=
  (Written.ofText? (Text.decodeParts bytes)).bind (shape.value? depthLimit)

end LiveTrader.Json
