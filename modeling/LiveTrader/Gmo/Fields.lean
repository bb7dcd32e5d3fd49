import LiveTrader.Json.Fields

/-!
  LiveTrader.Gmo.Fields

  Fields of GMO Coin payloads.  A field may go by several names, and a number may be
  sent as a string; the first name with a usable value wins.
-/

namespace LiveTrader.Gmo

/-- The text of a non-empty string, or of a number. -/
def scalarText? : Json → Option String
  | .str s => if s = "" then none else some s
  | .int n => some (Json.int n).toText
  | .float x => some (Json.float x).toText
  | _ => none

/-- The text of the first named member that has one. -/
def textField? (v : Json) (names : List String) : Option String :=
  names.findSome? fun name => (v.get? name).bind scalarText?

/-- The decimal of the first named member that has one, in plain or scientific
    notation. -/
def decimalField? (v : Json) (names : List String) : Option Decimal :=
  names.findSome? fun name => ((v.get? name).bind scalarText?).bind Decimal.ofText?

/-- A time in milliseconds since 1 January 1970, or in the internet format. -/
def timeOfText? (s : String) : Option Instant :=
  match Text.signed64? s.toList with
  | some millis => Instant.ofMillis? millis
  | none => Instant.ofRfc3339? s.toList

/-- The time of the first named member that has one. -/
def timeField? (v : Json) (names : List String) : Option Instant :=
  names.findSome? fun name => ((v.get? name).bind scalarText?).bind timeOfText?

/-- The entries of a reply: an array, or the array under `list`. -/
def entries : Json → List Json
  | .arr items => items
  | v => ((v.get? "list").bind Json.asItems?).getD []

end LiveTrader.Gmo
