import LiveTrader.Decimal.Arithmetic
import LiveTrader.Json.Fields

/-!
  LiveTrader.Sizing

  The size of an order.  Two caps apply: a fraction of the balance lost per average
  true range of adverse movement, and a fraction of the balance as notional value.
  The smaller is rounded down to whole lots.
-/

namespace LiveTrader

/-! ## Parameters -/

/-- What the sizer is configured with. -/
structure SizingParams where
  /-- Notional value as a fraction of the balance. -/
  maxPositionSize : Decimal
  /-- Loss per average true range as a fraction of the balance. -/
  positionRiskFraction : Decimal
  /-- The least quantity that the exchange takes. -/
  minOrderQty : Decimal
  /-- The size of a lot; without a positive one nothing is rounded. -/
  qtyStep : Decimal
  deriving DecidableEq

namespace SizingParams

/-- The parameters unless others are configured. -/
def standard : SizingParams where
  maxPositionSize := .small 1 1
  positionRiskFraction := .small 1 2
  minOrderQty := .small 1 3
  qtyStep := .small 1 3

/-- The parameters as a record. -/
def toJson (p : SizingParams) : Json :=
  .object [
    ("max_position_size", p.maxPositionSize.toJson),
    ("position_risk_fraction", p.positionRiskFraction.toJson),
    ("min_order_qty", p.minOrderQty.toJson),
    ("qty_step", p.qtyStep.toJson)]

/-- The members of parameters. -/
def shape : Json.Shape :=
  .ofNames 4 ["max_position_size", "position_risk_fraction", "min_order_qty", "qty_step"]

/-- Stored parameters. -/
def ofJson? (v : Json) : Option SizingParams := do
  let v ← shape.members? v
  return {
    maxPositionSize := ← v.required? Decimal.ofJson? "max_position_size"
    positionRiskFraction := ← v.required? Decimal.ofJson? "position_risk_fraction"
    minOrderQty := ← v.required? Decimal.ofJson? "min_order_qty"
    qtyStep := ← v.required? Decimal.ofJson? "qty_step" }

end SizingParams

/-! ## Sizes -/

/-- The cap that decided a size. -/
inductive SizingBinding
  | riskBudget
  | notionalCap
  /-- There was nothing to size. -/
  | unsized
  deriving DecidableEq

/-- The word for a cap. -/
def SizingBinding.name : SizingBinding → String
  | riskBudget => "risk_budget"
  | notionalCap => "notional_cap"
  | unsized => "unsized"

/-- A size with what it was derived from. -/
structure OrderSizing where
  availableBalance : Decimal
  close : Decimal
  atr : Decimal
  /-- Missing without a positive range, or if the quotient is too large. -/
  riskQty : Option Decimal
  cappedQty : Decimal
  finalQty : Decimal
  binding : SizingBinding
  deriving DecidableEq

namespace OrderSizing

/-- A size as a record. -/
def toJson (s : OrderSizing) : Json :=
  .object [
    ("available_balance", s.availableBalance.toJson),
    ("close", s.close.toJson),
    ("atr", s.atr.toJson),
    ("risk_qty", .ofOption Decimal.toJson s.riskQty),
    ("capped_qty", s.cappedQty.toJson),
    ("final_qty", s.finalQty.toJson),
    ("binding", .str s.binding.name)]

end OrderSizing

/-! ## Rounding to lots -/

/-- The greatest multiple of a lot that is not above a quantity.  The number of lots is
    a rounded quotient, so its product with the lot may be above the quantity, and
    above the largest decimal, in which case there is no result. -/
def floorToStep? (qty step : Decimal) : Option Decimal :=
  if step.isPositive then
    match qty.div? step with
    | some lots => lots.floor.mul? step
    | none => some qty
  else some qty

/-! ## The sizer -/

/-- The quantity that the risk budget allows. -/
def riskQty? (balance atr : Decimal) (params : SizingParams) : Option Decimal :=
  if atr.isPositive then
    (balance.mul? params.positionRiskFraction).bind fun budget => budget.div? atr
  else none

/-- The quantity that the notional cap allows; a quotient that is too large does not
    limit anything. -/
def cappedQty (balance close : Decimal) (params : SizingParams) : Decimal :=
  ((balance.mul? params.maxPositionSize).bind fun notional => notional.div? close).getD .max

/-- The smaller of the two quantities and the cap it comes from; the risk budget decides
    only if it is strictly smaller. -/
def bindingQty (risk : Option Decimal) (capped : Decimal) : Decimal × SizingBinding :=
  match risk with
  | some qty => if qty < capped then (qty, .riskBudget) else (capped, .notionalCap)
  | none => (capped, .notionalCap)

/-- The size of an order with what it was derived from; `none` if rounding to lots
    overflows. -/
def sizeOrder? (balance close atr : Decimal) (params : SizingParams) : Option OrderSizing :=
  let nothing : OrderSizing := ⟨balance, close, atr, none, .zero, .zero, .unsized⟩
  if !balance.isPositive || !close.isPositive then some nothing
  else
    let risk := riskQty? balance atr params
    let capped := cappedQty balance close params
    let sized := { nothing with riskQty := risk, cappedQty := capped }
    let choice := bindingQty risk capped
    (floorToStep? choice.1 params.qtyStep).map fun stepped =>
      if !stepped.isPositive || stepped < params.minOrderQty then sized
      else { sized with finalQty := stepped.normalized, binding := choice.2 }

end LiveTrader
