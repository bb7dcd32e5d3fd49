import LiveTrader.Json.Basic
import LiveTrader.Json.Printing
import LiveTrader.Json.Shape
import LiveTrader.Decimal.Reading
import LiveTrader.Time.Rfc3339
import LiveTrader.Time.Span

/-!
  LiveTrader.Json.Fields

  How the fields of records are read from JSON values and written to them.
  Decimals are written as strings and read from strings or numbers; times are in
  the internet format; enumerations are words.  Members that a record does not
  name are ignored.
-/

namespace LiveTrader

namespace Json

/-! ## Fields of a record -/

/-- A field that must be there. -/
def required? {α : Type} (decode? : Json → Option α) (key : String) (v : Json) : Option α :=
  (v.get? key).bind decode?

/-- A field that may be missing or `null`. -/
def optional? {α : Type} (decode? : Json → Option α) (key : String) (v : Json) :
    Option (Option α) :=
  match v.get? key with
  | none => some none
  | some null => some none
  | some field => (decode? field).map some

/-- A field with a default for when it is missing, but not for `null`. -/
def defaulted? {α : Type} (default : α) (decode? : Json → Option α) (key : String) (v : Json) :
    Option α :=
  match v.get? key with
  | none => some default
  | some field => decode? field

/-! ## Simple values -/

/-- A floating-point number; whole numbers are rounded to one. -/
def asFloat? : Json → Option Binary64
  | int n => some (Binary64.nearest (n < 0) n.natAbs 1)
  | float x => some x
  | _ => none

/-- A whole number from zero up to `bound`, which is excluded. -/
def asNatBelow? (bound : Nat) : Json → Option Nat
  | int n => if 0 ≤ n ∧ n < bound then some n.toNat else none
  | _ => none

/-- A list of texts. -/
def asTexts? (v : Json) : Option (List String) :=
  v.asItems?.bind fun items => items.mapM asText?

/-- The word of an enumeration: a string, or an object whose only member has it as key
    and no value. -/
def asWord? : Json → Option String
  | str s => some s
  | obj [(k, null)] => some k
  | _ => none

end Json

/-! ## Decimals -/

/-- A decimal from a string in plain or scientific notation, a whole number, or the
    shortest text of a floating-point number. -/
def Decimal.ofJson? : Json → Option Decimal
  | .str s => ofText? s
  | .int n => ofInt? n
  | .float x => if x.isFinite then ofChars? (x.chars .message) else none
  | _ => none

/-- A decimal as a string with its scale kept. -/
def Decimal.toJson (d : Decimal) : Json :=
  .str d.toText

/-! ## Times -/

/-- A stored time. -/
def Instant.ofJson? : Json → Option Instant
  | .str s => ofLenient? s.toList
  | _ => none

/-- A length of time as seconds and nanoseconds. -/
def Span.toJson (s : Span) : Json :=
  .arr [.nat s.seconds, .nat s.subsecond]

/-- A time in the internet format. -/
def Instant.toJson (t : Instant) : Json :=
  .str t.toRfc3339

end LiveTrader
