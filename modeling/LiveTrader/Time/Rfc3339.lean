import LiveTrader.Time.Instant
import LiveTrader.Text.Blank

/-!
  LiveTrader.Time.Rfc3339

  The internet date and time format.  Writing is in UTC with as many groups of three
  fraction digits as needed.  Reading comes in two forms: the format itself, for
  times that an exchange sends, and a lenient form for stored documents, which
  allows fewer digits, blanks between the parts and years of any length.
-/

namespace LiveTrader.Instant

/-! ## Writing -/

/-- The fraction of a second: nothing, or a point and 3, 6 or 9 digits. -/
def fractionChars (nanos : Nat) : List Char :=
  if nanos = 0 then []
  else if nanos % 1000000 = 0 then '.' :: Text.padded 3 (nanos / 1000000)
  else if nanos % 1000 = 0 then '.' :: Text.padded 6 (nanos / 1000)
  else '.' :: Text.padded 9 nanos

/-- Date and time in UTC. -/
def rfc3339Chars (t : Instant) : List Char :=
  let (date, second) := t.split
  Date.yearChars date.year ++ '-' :: Text.padded 2 date.month ++ '-' :: Text.padded 2 date.day
    ++ 'T' :: clockChars [':'] second (t.nanos / 1000000000)
    ++ fractionChars (t.nanos % 1000000000) ++ ['Z']

/-- Date and time in UTC. -/
def toRfc3339 (t : Instant) : String :=
  String.ofList t.rfc3339Chars

/-! ## Parts -/

/-- Between `least` and `most` digits from the front of a text. -/
def scanDigits? (least most : Nat) (cs : List Char) : Option (Nat × List Char) :=
  let ds := (cs.takeWhile Char.isDigit).take most
  if ds.length < least then none
  else (Text.extendDigits? 0 ds).map fun n => (n, cs.drop ds.length)

/-- The given character at the front of a text. -/
def scanChar? (c : Char) : List Char → Option (List Char)
  | [] => none
  | d :: rest => if d = c then some rest else none

/-- The character between date and time. -/
def scanSeparator? : List Char → Option (List Char)
  | 'T' :: rest => some rest
  | 't' :: rest => some rest
  | ' ' :: rest => some rest
  | _ => none

/-- The nanoseconds of an optional fraction; digits after the ninth are dropped. -/
def scanFraction? : List Char → Option (Nat × List Char)
  | '.' :: rest =>
    let ds := rest.takeWhile Char.isDigit
    if ds.isEmpty then none
    else (Text.extendDigits? 0 (ds.take 9)).map fun n =>
      (n * pow10 (9 - (ds.take 9).length), rest.dropWhile Char.isDigit)
  | cs => some (0, cs)

/-- An offset from UTC in seconds: `Z`, or a sign, two digits of hours, what
    `scanColon?` takes, and two digits of minutes. -/
def scanOffset? (scanColon? : List Char → Option (List Char)) (cs : List Char) :
    Option (Int × List Char) :=
  match cs with
  | [] => none
  | c :: rest =>
    if c = 'Z' ∨ c = 'z' then some (0, rest)
    else if c = '+' ∨ c = '-' ∨ c = '−' then do
      let (hours, rest) ← scanDigits? 2 2 rest
      let rest ← scanColon? rest
      let (minutes, rest) ← scanDigits? 2 2 rest
      if 60 ≤ minutes then none
      else
        let seconds : Int := (hours * 3600 + minutes * 60 : Nat)
        some (if c = '+' then seconds else -seconds, rest)
    else none

/-- The instant with these parts.  Second 60 is a leap second; the offset is less than a
    day. -/
def ofParts? (year : Int) (month day hour minute second nanos : Nat) (offset : Int) :
    Option Instant := do
  let date ← Date.of? year month day
  if 24 ≤ hour ∨ 60 ≤ minute ∨ 61 ≤ second ∨ 86400 ≤ offset.natAbs then none
  else
    let leap := if second = 60 then 1 else 0
    let local_ := date.toDays * secondsPerDay + (hour * 3600 + minute * 60 + (second - leap) : Nat)
    let t : Instant := ⟨local_ - offset, nanos + leap * 1000000000⟩
    if t.inRange then some t else none

/-! ## The format itself -/

/-- Reads a date and time in the format. -/
def ofRfc3339? (cs : List Char) : Option Instant := do
  let (year, cs) ← scanDigits? 4 4 cs
  let (month, cs) ← scanDigits? 2 2 (← scanChar? '-' cs)
  let (day, cs) ← scanDigits? 2 2 (← scanChar? '-' cs)
  let (hour, cs) ← scanDigits? 2 2 (← scanSeparator? cs)
  let (minute, cs) ← scanDigits? 2 2 (← scanChar? ':' cs)
  let (second, cs) ← scanDigits? 2 2 (← scanChar? ':' cs)
  let (nanos, cs) ← scanFraction? cs
  let (offset, cs) ← scanOffset? (scanChar? ':') cs
  if cs.isEmpty then ofParts? year month day hour minute second nanos offset else none

/-! ## The lenient form -/

/-- Drops leading blanks. -/
def skipBlanks (cs : List Char) : List Char :=
  cs.dropWhile Text.isBlank

/-- A year: up to four digits, or a sign and any number of digits. -/
def scanYear? (cs : List Char) : Option (Int × List Char) :=
  match skipBlanks cs with
  | '-' :: rest => (scanDigits? 1 rest.length rest).map fun (n, rest) => (-(n : Int), rest)
  | '+' :: rest => (scanDigits? 1 rest.length rest).map fun (n, rest) => ((n : Int), rest)
  | cs => (scanDigits? 1 4 cs).map fun (n, rest) => ((n : Int), rest)

/-- One or two digits after blanks. -/
def scanPart? (cs : List Char) : Option (Nat × List Char) :=
  scanDigits? 1 2 (skipBlanks cs)

/-- A character after blanks. -/
def scanMark? (c : Char) (cs : List Char) : Option (List Char) :=
  scanChar? c (skipBlanks cs)

/-- An offset, or the word `UTC` in any case of letters. -/
def scanZone? (cs : List Char) : Option (Int × List Char) :=
  if (cs.take 3).map Char.toUpper = ['U', 'T', 'C'] then some (0, cs.drop 3)
  else scanOffset? (fun cs => some (cs.dropWhile fun c => c == ':' || Text.isBlank c)) cs

/-- Reads a date and time in the lenient form. -/
def ofLenient? (cs : List Char) : Option Instant := do
  let (year, cs) ← scanYear? cs
  let (month, cs) ← scanPart? (← scanMark? '-' cs)
  let (day, cs) ← scanPart? (← scanMark? '-' cs)
  let (hour, cs) ← scanPart? (← scanSeparator? cs)
  let (minute, cs) ← scanPart? (← scanMark? ':' cs)
  let (second, cs) ← scanPart? (← scanMark? ':' cs)
  let (nanos, cs) ← scanFraction? cs
  let (offset, cs) ← scanZone? (skipBlanks cs)
  if (skipBlanks cs).isEmpty then ofParts? year month day hour minute second nanos offset
  else none

end LiveTrader.Instant
