import LiveTrader.Decision
import LiveTrader.Json.Reading
import LiveTrader.Risk.Limits
import LiveTrader.RunError

/-!
  LiveTrader.CycleInputs

  What one cycle consumes: the document that the strategy writes.
-/

namespace LiveTrader

/-- The inputs of a cycle. -/
structure CycleInputs where
  snapshot : RiskSnapshot
  decision : Decision
  /-- The last price. -/
  close : Decimal
  /-- The average true range at that price. -/
  atr : Decimal
  /-- Taken in place of the exchange's balance. -/
  balanceOverride : Option Decimal
  deriving DecidableEq

namespace CycleInputs

/-- Nothing is to be done. -/
def noSetup : CycleInputs where
  snapshot := .flat
  decision := .hold .noTradeSetup
  close := .zero
  atr := .zero
  balanceOverride := none

/-- Inputs as a record. -/
def toJson (i : CycleInputs) : Json :=
  .object [
    ("snapshot", i.snapshot.toJson),
    ("decision", i.decision.toJson),
    ("close", i.close.toJson),
    ("atr", i.atr.toJson),
    ("balance_override", .ofOption Decimal.toJson i.balanceOverride)]

/-- The members of inputs. -/
def shape : Json.Shape :=
  .record 4 [
    ("snapshot", RiskSnapshot.shape),
    ("decision", Decision.shape),
    ("close", .anything),
    ("atr", .anything),
    ("balance_override", .anything)]

/-- Stored inputs. -/
def ofJson? (v : Json) : Option CycleInputs := do
  let v ← shape.members? v
  return {
    snapshot := ← v.defaulted? RiskSnapshot.flat RiskSnapshot.ofJson? "snapshot"
    decision := ← v.required? Decision.ofJson? "decision"
    close := ← v.required? Decimal.ofJson? "close"
    atr := ← v.required? Decimal.ofJson? "atr"
    balanceOverride := ← v.optional? Decimal.ofJson? "balance_override" }

/-! ## The strategy's document -/

/-- What is found where the document should be. -/
inductive Source
  /-- There is no file; the strategy has not produced anything yet. -/
  | missing
  /-- There is something that cannot be read. -/
  | unreadable (detail : String)
  | file (bytes : List UInt8)

/-- The inputs that the strategy has left. -/
def ofSource (path : String) : Source → Except RunError CycleInputs
  | .missing => .ok noSetup
  | .unreadable detail => .error (.io detail)
  | .file bytes =>
    match (shape.ofBytes? bytes).bind ofJson? with
    | some inputs => .ok inputs
    | none => .error (.inputs (path ++ ": not a document of cycle inputs"))

end CycleInputs

end LiveTrader
