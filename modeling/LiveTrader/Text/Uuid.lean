import LiveTrader.Power
import LiveTrader.Text.Hex

/-!
  LiveTrader.Text.Uuid

  Unique ids of 36 characters: the time in milliseconds, then random bytes, so that later
  ids come later in the order of texts.  Other writers' ids may hold any sixteen bytes.
-/

namespace LiveTrader.Text

/-- The lowest bytes of a number, the highest of them first. -/
def lowBytes (width n : Nat) : List UInt8 :=
  (List.range width).reverse.map fun place => UInt8.ofNat (n / pow2 (8 * place))

/-- The bytes of an id: 48 bits of time, and random ones with the version 7 and the variant
    put in. -/
def uuidBytes (millis : Nat) (random : List UInt8) : List UInt8 :=
  let rest := (random ++ List.replicate 10 0).take 10
  lowBytes 6 millis ++ rest.mapIdx fun place b =>
    if place = 0 then 0x70 ||| (b &&& 0x0F)
    else if place = 2 then 0x80 ||| (b &&& 0x3F)
    else b

/-- Puts hyphens into the 32 digits of an id. -/
def hyphenated (digits : List Char) : List Char :=
  let part := fun start length => (digits.drop start).take length
  "-".toList.intercalate [part 0 8, part 8 4, part 12 4, part 16 4, part 20 12]

/-- An id from the time and random bytes. -/
def uuid (millis : Nat) (random : List UInt8) : String :=
  String.ofList (hyphenated (hexChars (uuidBytes millis random)))

/-! ## Reading -/

/-- The bytes of an id whose 32 digits have hyphens among them. -/
def uuidBytesOfHyphenated? (cs : List Char) : Option (List UInt8) :=
  let digits := cs.filter fun c => c != '-'
  if digits.length = 32 ∧ cs = hyphenated digits then bytesOfHex? digits else none

/-- The bytes of an id: 32 digits, or the form with hyphens, which may stand between braces
    or after the name of its kind. -/
def uuidBytes? (cs : List Char) : Option (List UInt8) :=
  let kind := "urn:uuid:".toList
  if cs.length = 32 then bytesOfHex? cs
  else if cs.length = 45 ∧ kind.isPrefixOf cs then uuidBytesOfHyphenated? (cs.drop kind.length)
  else if cs.length = 38 ∧ cs.head? = some '\x7b' ∧ cs.getLast? = some '\x7d' then
    uuidBytesOfHyphenated? cs.tail.dropLast
  else uuidBytesOfHyphenated? cs

/-- The id that a text stands for, in its usual form. -/
def readUuid? (s : String) : Option String :=
  (uuidBytes? s.toList).map fun bytes => String.ofList (hyphenated (hexChars bytes))

end LiveTrader.Text
