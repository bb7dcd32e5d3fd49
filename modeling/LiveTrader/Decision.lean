import LiveTrader.Order.Basic
import LiveTrader.ReasonCode

/-!
  LiveTrader.Decision

  What the strategy wants to be done.  The strategy itself is another process.
-/

namespace LiveTrader

/-- What to do in a cycle. -/
inductive DecisionAction
  | buy
  | sell
  | hold
  deriving DecidableEq

namespace DecisionAction

/-- The word for an action. -/
def name : DecisionAction → String
  | buy => "buy"
  | sell => "sell"
  | hold => "hold"

/-- The side of the order that an action asks for. -/
def orderSide? : DecisionAction → Option OrderSide
  | buy => some .buy
  | sell => some .sell
  | hold => none

/-- A stored action. -/
def ofJson? (v : Json) : Option DecisionAction :=
  v.asWord?.bind fun w => [buy, sell, hold].find? fun a => a.name == w

end DecisionAction

/-- An action with the strategy's confidence in it and its reasons. -/
structure Decision where
  action : DecisionAction
  confidence : Binary64
  reasonCodes : List String
  deriving DecidableEq

namespace Decision

/-- Brings a confidence into the range from zero to one; what is no number counts as
    zero. -/
def clampConfidence (x : Binary64) : Binary64 :=
  if x.isNaN then .zero
  else if x.lt .zero then .zero
  else if Binary64.one.lt x then .one
  else x

/-- A decision with its confidence brought into range. -/
def of (action : DecisionAction) (confidence : Binary64) (reasonCodes : List String) : Decision :=
  ⟨action, clampConfidence confidence, reasonCodes⟩

/-- Nothing is to be done, for this reason. -/
def hold (reason : ReasonCode) : Decision :=
  of .hold .zero [reason.text]

/-- A decision as a record. -/
def toJson (d : Decision) : Json :=
  .object [
    ("action", .str d.action.name),
    ("confidence", .float d.confidence),
    ("reason_codes", .texts d.reasonCodes)]

/-- A decision's members. -/
def shape : Json.Shape :=
  .record 2 [("action", .word), ("confidence", .anything), ("reason_codes", .anything)]

/-- A stored decision; its confidence is taken as it is. -/
def ofJson? (v : Json) : Option Decision := do
  let v ← shape.members? v
  return {
    action := ← v.required? DecisionAction.ofJson? "action"
    confidence := ← v.required? Json.asFloat? "confidence"
    reasonCodes := ← v.defaulted? [] Json.asTexts? "reason_codes" }

end Decision

end LiveTrader
