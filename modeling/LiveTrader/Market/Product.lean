import LiveTrader.Json.Fields
import LiveTrader.Text.Blank
import LiveTrader.Text.Case
import LiveTrader.ValueError

/-!
  LiveTrader.Market.Product

  Spot and leveraged trading.
-/

namespace LiveTrader

/-- Kinds of trading. -/
inductive ProductType
  | spot
  | leverage
  deriving DecidableEq

namespace ProductType

/-- The word for a kind. -/
def name : ProductType → String
  | spot => "spot"
  | leverage => "leverage"

/-- The kind with this word. -/
def ofName? (s : String) : Option ProductType :=
  [spot, leverage].find? fun p => p.name == s

/-- The kind that a configuration names, whatever the case of ASCII letters and the
    blanks around. -/
def parse (s : String) : Except ValueError ProductType :=
  let word := Text.asciiLower (Text.trim s)
  match ofName? word with
  | some p => .ok p
  | none => .error (.orderField ("product_type: " ++ word))

/-- A kind as its word. -/
def toJson (p : ProductType) : Json := .str p.name

/-- A stored kind. -/
def ofJson? (v : Json) : Option ProductType :=
  v.asWord?.bind ofName?

end ProductType

end LiveTrader
