import LiveTrader.Json.Fields
import LiveTrader.ValueError

/-!
  LiveTrader.Market.Amount

  Prices and quantities.  Their constructors ask for a number above zero; the
  decoders of stored documents take any decimal.
-/

namespace LiveTrader

/-- A price. -/
structure Price where
  value : Decimal
  deriving DecidableEq

/-- A quantity of an asset. -/
structure Quantity where
  value : Decimal
  deriving DecidableEq

/-- A price above zero. -/
def Price.of (value : Decimal) : Except ValueError Price :=
  if value.isPositive then .ok ⟨value⟩ else .error (.price "Price must be positive")

/-- A quantity above zero. -/
def Quantity.of (value : Decimal) : Except ValueError Quantity :=
  if value.isPositive then .ok ⟨value⟩ else .error (.quantity "Quantity must be positive")

/-- A stored price, of whatever sign. -/
def Price.ofJson? (v : Json) : Option Price :=
  (Decimal.ofJson? v).map Price.mk

/-- A stored quantity, of whatever sign. -/
def Quantity.ofJson? (v : Json) : Option Quantity :=
  (Decimal.ofJson? v).map Quantity.mk

end LiveTrader
