import LiveTrader.Json.Fields
import LiveTrader.ValueError

/-!
  LiveTrader.Risk.Limits

  The guarded metrics: a ceiling for each, and their current values.  All are
  fractions except the leverage, which is a multiplier.
-/

namespace LiveTrader

/-- One guarded metric. -/
inductive RiskMetric
  | drawdown
  | dailyLoss
  | positionSize
  | tradeLoss
  | leverage
  | walletDrift
  deriving DecidableEq

/-- Every metric, in the order in which they are checked. -/
def RiskMetric.all : List RiskMetric :=
  [drawdown, dailyLoss, positionSize, tradeLoss, leverage, walletDrift]

/-! ## Limits -/

/-- A ceiling for each metric. -/
structure RiskLimits where
  maxDrawdown : Decimal
  dailyLossLimit : Decimal
  maxPositionSize : Decimal
  maxTradeLoss : Decimal
  maxLeverage : Decimal
  maxWalletDrift : Decimal
  deriving DecidableEq

namespace RiskLimits

/-- The ceiling for a metric. -/
def limit (l : RiskLimits) : RiskMetric → Decimal
  | .drawdown => l.maxDrawdown
  | .dailyLoss => l.dailyLossLimit
  | .positionSize => l.maxPositionSize
  | .tradeLoss => l.maxTradeLoss
  | .leverage => l.maxLeverage
  | .walletDrift => l.maxWalletDrift

/-- The name of a metric's ceiling. -/
def fieldName : RiskMetric → String
  | .drawdown => "max_drawdown"
  | .dailyLoss => "daily_loss_limit"
  | .positionSize => "max_position_size"
  | .tradeLoss => "max_trade_loss"
  | .leverage => "max_leverage"
  | .walletDrift => "max_wallet_drift"

/-- The ceilings unless others are configured. -/
def standard : RiskLimits where
  maxDrawdown := .small 2 1
  dailyLossLimit := .small 5 2
  maxPositionSize := .small 1 1
  maxTradeLoss := .small 2 2
  maxLeverage := .small 2 0
  maxWalletDrift := .small 2 2

/-- No ceiling may be below zero; the first that is one is named. -/
def validate (l : RiskLimits) : Except ValueError Unit :=
  match RiskMetric.all.find? fun m => (l.limit m).isNegative with
  | some m => .error (.riskLimits
      (fieldName m ++ " must be >= 0, got " ++ (l.limit m).toText))
  | none => .ok ()

/-- The ceilings as a record. -/
def toJson (l : RiskLimits) : Json :=
  .object (RiskMetric.all.map fun m => (fieldName m, (l.limit m).toJson))

/-- The members of ceilings. -/
def shape : Json.Shape :=
  .ofNames 6 (RiskMetric.all.map fieldName)

/-- Stored ceilings. -/
def ofJson? (v : Json) : Option RiskLimits := do
  let v ← shape.members? v
  return {
    maxDrawdown := ← v.required? Decimal.ofJson? "max_drawdown"
    dailyLossLimit := ← v.required? Decimal.ofJson? "daily_loss_limit"
    maxPositionSize := ← v.required? Decimal.ofJson? "max_position_size"
    maxTradeLoss := ← v.required? Decimal.ofJson? "max_trade_loss"
    maxLeverage := ← v.required? Decimal.ofJson? "max_leverage"
    maxWalletDrift := ← v.required? Decimal.ofJson? "max_wallet_drift" }

end RiskLimits

/-! ## Snapshots -/

/-- The current value of each metric. -/
structure RiskSnapshot where
  drawdown : Decimal
  dailyLoss : Decimal
  positionSize : Decimal
  tradeLoss : Decimal
  leverage : Decimal
  walletDrift : Decimal
  deriving DecidableEq

namespace RiskSnapshot

/-- The value of a metric. -/
def current (s : RiskSnapshot) : RiskMetric → Decimal
  | .drawdown => s.drawdown
  | .dailyLoss => s.dailyLoss
  | .positionSize => s.positionSize
  | .tradeLoss => s.tradeLoss
  | .leverage => s.leverage
  | .walletDrift => s.walletDrift

/-- The name of a metric's value. -/
def fieldName : RiskMetric → String
  | .drawdown => "drawdown"
  | .dailyLoss => "daily_loss"
  | .positionSize => "position_size"
  | .tradeLoss => "trade_loss"
  | .leverage => "leverage"
  | .walletDrift => "wallet_drift"

/-- Every metric at zero. -/
def flat : RiskSnapshot := ⟨.zero, .zero, .zero, .zero, .zero, .zero⟩

/-- A snapshot as a record. -/
def toJson (s : RiskSnapshot) : Json :=
  .object (RiskMetric.all.map fun m => (fieldName m, (s.current m).toJson))

/-- A snapshot's members. -/
def shape : Json.Shape :=
  .ofNames 0 (RiskMetric.all.map fieldName)

/-- A stored snapshot; metrics that are missing are zero. -/
def ofJson? (v : Json) : Option RiskSnapshot := do
  let v ← shape.members? v
  let field (m : RiskMetric) := v.defaulted? Decimal.zero Decimal.ofJson? (fieldName m)
  return {
    drawdown := ← field .drawdown
    dailyLoss := ← field .dailyLoss
    positionSize := ← field .positionSize
    tradeLoss := ← field .tradeLoss
    leverage := ← field .leverage
    walletDrift := ← field .walletDrift }

end RiskSnapshot

end LiveTrader
