/-
  LiveTrader.ValueError

  Why a value of the trading domain could not be built.
-/

namespace LiveTrader

/-- A rejected value, with what is wrong about it. -/
inductive ValueError
  | price (detail : String)
  | quantity (detail : String)
  | symbol (detail : String)
  | orderField (detail : String)
  | riskLimits (detail : String)
  deriving DecidableEq

/-- The word for a kind of error. -/
def ValueError.kind : ValueError → String
  | price _ => "InvalidPrice"
  | quantity _ => "InvalidQuantity"
  | symbol _ => "InvalidSymbol"
  | orderField _ => "InvalidOrderField"
  | riskLimits _ => "InvalidRiskLimits"

/-- The error in one line. -/
def ValueError.message : ValueError → String
  | price detail => "Invalid price: " ++ detail
  | quantity detail => "Invalid quantity: " ++ detail
  | symbol detail => "Invalid symbol: " ++ detail
  | orderField detail => "Invalid order field: " ++ detail
  | riskLimits detail => "Invalid risk limits: " ++ detail

end LiveTrader
