import LiveTrader.Config.Basic
import LiveTrader.CycleInputs
import LiveTrader.Monitor
import LiveTrader.Order.Lifecycle

/-!
  LiveTrader.Cycle.Report

  What a cycle has done.  The report keeps what happened; the statuses and codes of its
  record follow from that.
-/

namespace LiveTrader

/-! ## Orders -/

/-- Why a cycle does not come to size an order. -/
inductive Skip
  /-- A metric of the risk guard is above its ceiling. -/
  | risk
  /-- Orders are switched off. -/
  | ordersOff
  /-- Network access is switched off. -/
  | networkOff
  /-- The strategy wants nothing to be done. -/
  | hold
  /-- The strategy is not confident enough. -/
  | lowConfidence
  deriving DecidableEq

/-- What a cycle did about an order. -/
inductive OrderOutcome
  /-- Nothing was sized. -/
  | skipped (reason : Skip)
  /-- The size is nothing that can be ordered. -/
  | tooSmall (sizing : OrderSizing)
  /-- The journal has refused the id. -/
  | duplicate (sizing : OrderSizing) (id : ClientOrderId)
  /-- The order was sent and followed. -/
  | followed (sizing : OrderSizing) (id : ClientOrderId) (lifecycle : Lifecycle)

namespace OrderOutcome

/-- Whether an order was sent. -/
def isAttempted : OrderOutcome → Bool
  | followed .. => true
  | _ => false

/-- The word for what came of the order: that of its last state if it was sent. -/
def status : OrderOutcome → String
  | skipped .risk => "skipped_due_to_risk"
  | skipped .ordersOff => "not_attempted"
  | skipped .networkOff => "skipped_http_disabled"
  | skipped .hold => "skipped_by_strategy"
  | skipped .lowConfidence => "skipped_by_strategy"
  | tooSmall _ => "skipped_qty_too_small"
  | duplicate _ _ => "skipped_duplicate"
  | followed _ _ lifecycle => lifecycle.finalStatus

/-- The reasons of the runtime. -/
def reasons : OrderOutcome → List ReasonCode
  | skipped .risk => [.skippedDueToRisk]
  | skipped .ordersOff => [.executeOrdersDisabled]
  | skipped .networkOff => [.liveHttpDisabled]
  | skipped .hold => []
  | skipped .lowConfidence => [.confidenceBelowThreshold]
  | tooSmall _ => [.orderSizeTooSmall]
  | duplicate _ _ => [.duplicateOrderAttempt]
  | followed _ _ lifecycle => lifecycle.reasons

/-- Whether the decision was looked at, so that its reasons belong to the cycle. -/
def isDecided : OrderOutcome → Bool
  | skipped .risk | skipped .ordersOff | skipped .networkOff => false
  | _ => true

/-- The size that was found. -/
def sizing? : OrderOutcome → Option OrderSizing
  | skipped _ => none
  | tooSmall sizing => some sizing
  | duplicate sizing _ => some sizing
  | followed sizing _ _ => some sizing

/-- The id that was used for the order. -/
def clientOrderId? : OrderOutcome → Option ClientOrderId
  | skipped _ | tooSmall _ => none
  | duplicate _ id => some id
  | followed _ id _ => some id

/-- What was seen of the order. -/
def lifecycle? : OrderOutcome → Option Lifecycle
  | followed _ _ lifecycle => some lifecycle
  | _ => none

end OrderOutcome

/-! ## Reports -/

/-- What a cycle has done. -/
structure CycleReport where
  /-- A unique id. -/
  runId : String
  /-- The switches that the cycle ran with. -/
  execution : ExecutionConfig
  decision : Decision
  guard : GuardResult
  order : OrderOutcome
  /-- The health at the end, and the reason for it that lies in the streams. -/
  monitorStatus : MonitorStatus
  streamReason : Option ReasonCode
  /-- How many cycles had failed before this one. -/
  reconnectCount : Nat

namespace CycleReport

/-- The codes of a cycle, each where it occurs first: those of the guard, of the strategy if
    its decision was looked at, of the order, and of the streams. -/
def reasonCodes (r : CycleReport) : List String :=
  let strategy := if r.order.isDecided then r.decision.reasonCodes else []
  let ours := r.order.reasons ++ r.streamReason.toList
  (r.guard.reasonCodes ++ strategy ++ ours.map ReasonCode.text).eraseDups

/-- The guard's codes, if it has stopped the order. -/
def stopReasonCodes (r : CycleReport) : List String :=
  if r.guard.isSuccess then [] else r.guard.reasonCodes

/-- What was seen of the order, as a record. -/
def lifecycleJson (l : Lifecycle) : Json :=
  .object [("transitions", .texts l.transitions), ("retryable", .ofOption .bool l.retryable)]

/-- A report as a record. -/
def toJson (r : CycleReport) : Json :=
  .object [
    ("run_id", .str r.runId),
    ("status", r.guard.status.toJson),
    ("reason_codes", .texts r.reasonCodes),
    ("stop_reason_codes", .texts r.stopReasonCodes),
    ("decision_action", .str r.decision.action.name),
    ("execute_orders", .bool r.execution.executeOrders),
    ("live_http_enabled", .bool r.execution.liveHttpEnabled),
    ("order_attempted", .bool r.order.isAttempted),
    ("order_status", .str r.order.status),
    ("order_client_order_id", .ofOption (fun id => .str id.text) r.order.clientOrderId?),
    ("order_sizing", .ofOption OrderSizing.toJson r.order.sizing?),
    ("order_lifecycle", .ofOption lifecycleJson r.order.lifecycle?),
    ("live_order_auto_cancel", .bool r.execution.autoCancel),
    ("monitor_summary", .object [
      ("status", r.monitorStatus.toJson),
      ("reconnect_count", .nat r.reconnectCount)])]

end CycleReport

end LiveTrader
