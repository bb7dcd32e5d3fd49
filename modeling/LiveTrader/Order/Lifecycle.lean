import LiveTrader.Exchange.Interface
import LiveTrader.ReasonCode

/-!
  LiveTrader.Order.Lifecycle

  Following an order after it was placed.  An order that is accepted or active is read
  again, and if it is then active it is cancelled; at most one read and one cancel
  are made.  An error ends the sequence.
-/

namespace LiveTrader

/-- What was done after the order was placed. -/
inductive LifecycleStep
  /-- The order was read. -/
  | fetch (state : OrderState)
  /-- The order was cancelled. -/
  | cancel (state : OrderState)
  /-- The order is active and cancelling is switched off; nothing was called. -/
  | cancelSkipped (orderId : String)

/-- A step as a record. -/
def LifecycleStep.toJson : LifecycleStep → Json
  | fetch state => .object [("step", .str "fetch"), ("state", state.toJson)]
  | cancel state => .object [("step", .str "cancel"), ("state", state.toJson)]
  | cancelSkipped orderId =>
    .object [("step", .str "cancel_skipped"), ("order_id", .str orderId)]

/-- What was seen of an order. -/
structure Lifecycle where
  /-- Every status, from that of the placement on. -/
  transitions : List String
  finalState : OrderState
  reasons : List ReasonCode
  /-- Whether the failure that ended the sequence may pass, if one did. -/
  retryable : Option Bool
  steps : List LifecycleStep

namespace Lifecycle

/-- Only the placement has been seen. -/
def start (placed : OrderState) : Lifecycle where
  transitions := [placed.status]
  finalState := placed
  reasons := []
  retryable := none
  steps := []

/-- A call has been made and its state was seen. -/
def observe (l : Lifecycle) (step : LifecycleStep) (state : OrderState) : Lifecycle :=
  { l with
    transitions := l.transitions ++ [state.status]
    finalState := state
    steps := l.steps ++ [step] }

/-- The last state is an error, which ends the sequence for this reason. -/
def fail (l : Lifecycle) (reason : ReasonCode) : Lifecycle :=
  { l with
    retryable := l.finalState.fault?.map Fault.retryable
    reasons := l.reasons ++ [reason] }

/-- The last status. -/
def finalStatus (l : Lifecycle) : String := l.finalState.status

/-- The sequence is over without an error. -/
def conclude (l : Lifecycle) : Lifecycle :=
  if l.finalStatus = OrderStatus.rejected then
    { l with reasons := l.reasons ++ [.orderRejected] }
  else l

/-- A lifecycle as a record. -/
def toJson (l : Lifecycle) : Json :=
  .object [
    ("transitions", .texts l.transitions),
    ("final_state", l.finalState.toJson),
    ("reason_codes", .texts (l.reasons.map ReasonCode.text)),
    ("retryable", .ofOption .bool l.retryable),
    ("steps", .arr (l.steps.map LifecycleStep.toJson))]

variable {m : Type → Type} [Monad m]

/-- Cancels an order that is active, or notes that it was not cancelled. -/
def cancelIfActive (exchange : Exchange m) (autoCancel : Bool) (orderId : String)
    (l : Lifecycle) : m Lifecycle := do
  if l.finalStatus ≠ OrderStatus.active then return l.conclude
  else if !autoCancel then return { l with steps := l.steps ++ [.cancelSkipped orderId] }
  else do
    let state ← exchange.cancel orderId
    let l := l.observe (.cancel state) state
    if state.isError then return l.fail .orderCancelFailed
    else return l.conclude

/-- Follows an order from the result of its placement. -/
def track (exchange : Exchange m) (autoCancel : Bool) (placed : OrderState) :
    m Lifecycle := do
  let l := start placed
  if placed.isError then return l.fail .orderPlaceFailed
  else if placed.status = OrderStatus.accepted ∨ placed.status = OrderStatus.active then do
    let state ← exchange.fetch placed.orderId
    let l := l.observe (.fetch state) state
    if state.isError then return l.fail .orderFetchFailed
    else cancelIfActive exchange autoCancel placed.orderId l
  else return l.conclude

end Lifecycle

end LiveTrader
