import LiveTrader.Audit.Record
import LiveTrader.Cycle.Report
import LiveTrader.Order.Journal
import LiveTrader.Progress

/-!
  LiveTrader.Cycle.Run

  One trading cycle: the inputs, the risk guard, the gates, the order and what becomes of
  it, and the health of the streams.  A failure of the exchange does not end a cycle, it
  becomes part of the report, and whether the audit log and the progress can be written
  makes no difference.  A cycle fails if there are no inputs for it.
-/

namespace LiveTrader

/-! ## The world -/

/-- What a cycle acts on, with effects of `m`. -/
structure Surroundings (m : Type → Type) where
  exchange : Exchange m
  /-- The inputs of the next cycle. -/
  inputs : m (Except RunError CycleInputs)
  /-- A unique id for a cycle. -/
  freshRunId : m String
  /-- An id for an order. -/
  freshOrderId : Symbol → m ClientOrderId
  /-- Notes an event of this type with this payload. -/
  audit : String → Json → m (Except RunError Unit)
  /-- Reports progress. -/
  progress : Progress → m (Except RunError Unit)

/-- The same surroundings where more effects are possible. -/
def Surroundings.lift {m n : Type → Type} (lift : {α : Type} → m α → n α)
    (s : Surroundings m) : Surroundings n where
  exchange := s.exchange.lift lift
  inputs := lift s.inputs
  freshRunId := lift s.freshRunId
  freshOrderId symbol := lift (s.freshOrderId symbol)
  audit eventType payload := lift (s.audit eventType payload)
  progress p := lift (s.progress p)

/-- Why a cycle has no report. -/
inductive CycleFailure
  /-- The runtime itself has failed. -/
  | error (cause : RunError)
  /-- Rounding a quantity to lots has left the range of decimals. -/
  | sizeOverflow
  deriving DecidableEq

/-- A part of a cycle, which may fail. -/
abbrev CycleStep (m : Type → Type) := ExceptT CycleFailure m

variable {m : Type → Type} [Monad m]

namespace Surroundings

/-- Notes an event; a failure to do so is passed over. -/
def note (s : Surroundings m) (eventType : String) (payload : Json) : m Unit := do
  let _ ← s.audit eventType payload

/-- Reports progress; a failure to do so is passed over. -/
def emit (s : Surroundings m) (p : Progress) : m Unit := do
  let _ ← s.progress p

end Surroundings

namespace Cycle

/-! ## Gates -/

/-- Whether an order is to be sized, and on which side. -/
def gate (execution : ExecutionConfig) (guard : GuardResult) (decision : Decision) :
    Except Skip OrderSide :=
  if !guard.isSuccess then .error .risk
  else if !execution.executeOrders then .error .ordersOff
  else if !execution.liveHttpEnabled then .error .networkOff
  else
    match decision.action.orderSide? with
    | none => .error .hold
    | some side =>
      if decision.confidence.lt execution.minConfidence then .error .lowConfidence else .ok side

/-! ## Balances -/

/-- What is available of an asset, whatever the case of its name. -/
def availableOf? (asset : String) (balances : List Balance) : Option Decimal :=
  (balances.find? fun b => Text.sameIgnoringAsciiCase b.asset asset).map Balance.available

/-- The balance that an order is sized with: that of the inputs, else that of the exchange,
    else the configured one. -/
def resolveBalance (exchange : Exchange m) (config : Config) (inputs : CycleInputs) :
    m Decimal :=
  match inputs.balanceOverride with
  | some balance => return balance
  | none => do
    let reply ← exchange.balances config.exchange.productType.name
    let balances := reply.toOption.getD []
    return (availableOf? config.exchange.symbol.quoteAsset balances).getD
      config.execution.defaultAvailableBalance

/-! ## Events -/

/-- Members with the ids of a cycle and an order. -/
def withIds (runId : String) (id : ClientOrderId) (members : List (String × Json)) : Json :=
  .object (members ++ [("run_id", .str runId), ("client_order_id", .str id.text)])

/-- The payload for an order that is about to be sent. -/
def attemptPayload (runId : String) (order : Order) (sizing : OrderSizing) : Json :=
  withIds runId order.clientOrderId [("request", order.toJson), ("sizing", sizing.toJson)]

/-- The payload for a state of an order. -/
def statePayload (runId : String) (id : ClientOrderId) (state : OrderState) : Json :=
  withIds runId id [("state", state.toJson)]

/-- The event for a step of a lifecycle. -/
def stepEvent (runId : String) (id : ClientOrderId) : LifecycleStep → String × Json
  | .fetch state => (AuditEvent.orderFetchResult, statePayload runId id state)
  | .cancel state => (AuditEvent.orderCancelResult, statePayload runId id state)
  | .cancelSkipped orderId =>
    (AuditEvent.orderCancelResult, withIds runId id [
      ("status", .str "skipped_auto_cancel_disabled"), ("order_id", .str orderId)])

/-- The payload for an order that the guard has stopped. -/
def riskPayload (runId : String) (guard : GuardResult) : Json :=
  guard.toJson.setMember "run_id" (.str runId)

/-! ## Orders -/

/-- Sends an order and follows it. -/
def sendOrder (s : Surroundings m) (autoCancel : Bool) (runId : String) (order : Order)
    (sizing : OrderSizing) : m Lifecycle := do
  let id := order.clientOrderId
  s.note AuditEvent.orderAttempt (attemptPayload runId order sizing)
  let placed ← s.exchange.place order
  s.note AuditEvent.orderResult (statePayload runId id placed)
  let lifecycle ← Lifecycle.track s.exchange autoCancel placed
  lifecycle.steps.forM fun step =>
    let event := stepEvent runId id step
    s.note event.1 event.2
  return lifecycle

/-- The order that a cycle sends. -/
def orderOf (config : ExchangeConfig) (side : OrderSide) (qty : Quantity)
    (id : ClientOrderId) : Order :=
  .market config.name (.ofType config.productType) config.symbol side qty id

/-- Takes a result, or fails with what the runtime makes of its error. -/
def orFail {ε α : Type} (cause : ε → RunError) : Except ε α → CycleStep m α
  | .ok a => return a
  | .error e => throw (.error (cause e))

/-- Sends an order of this size unless its id was used before. -/
def sendOnce (s : Surroundings m) (journal : JournalAccess m) (config : Config)
    (runId : String) (side : OrderSide) (sizing : OrderSizing) :
    CycleStep m OrderOutcome := do
  let id ← s.freshOrderId config.exchange.symbol
  match ← journal.record id with
  | .error (.alreadySubmitted _) => return .duplicate sizing id
  | .error e => throw (.error (.journal e))
  | .ok () =>
    let qty ← orFail .value (Quantity.of sizing.finalQty)
    let order := orderOf config.exchange side qty id
    let lifecycle ←
      (sendOrder s config.execution.autoCancel runId order sizing : m Lifecycle)
    orFail .journal (← journal.complete id lifecycle.finalStatus)
    return .followed sizing id lifecycle

/-- Sizes an order and sends it. -/
def sizeAndSend (s : Surroundings m) (journal : JournalAccess m) (config : Config)
    (runId : String) (inputs : CycleInputs) (side : OrderSide) :
    CycleStep m OrderOutcome := do
  let balance ← (resolveBalance s.exchange config inputs : m Decimal)
  match sizeOrder? balance inputs.close inputs.atr config.sizing with
  | none => throw .sizeOverflow
  | some sizing =>
    if sizing.finalQty.isPositive then sendOnce s journal config runId side sizing
    else return .tooSmall sizing

/-- Does what the gates allow. -/
def handleOrder (s : Surroundings m) (journal : JournalAccess m) (config : Config)
    (runId : String) (inputs : CycleInputs) (guard : GuardResult) :
    CycleStep m OrderOutcome :=
  match gate config.execution guard inputs.decision with
  | .ok side => sizeAndSend s journal config runId inputs side
  | .error reason => do
    if reason = .risk then s.note AuditEvent.riskStop (riskPayload runId guard)
    return .skipped reason

/-! ## Cycles -/

/-- What is reported once the guard has judged. -/
def guardProgress (guard : GuardResult) (reconnectCount : Nat) : Progress :=
  .of guard.status.name guard.reasonCodes.head?
    (if guard.isSuccess then .active else .degraded) reconnectCount

/-- Runs a cycle. -/
def run (s : Surroundings m) (journal : JournalAccess m) (config : Config)
    (reconnectCount : Nat) : CycleStep m CycleReport := do
  let runId ← s.freshRunId
  s.emit (.of ProgressStatus.running none .active reconnectCount)
  match ← s.inputs with
  | .error cause => throw (.error cause)
  | .ok inputs =>
    let guard := evaluateRisk config.risk inputs.snapshot
    s.emit (guardProgress guard reconnectCount)
    let order ← handleOrder s journal config runId inputs guard
    let probes ← (probeStreams s.exchange config.execution.streamProbeTimeout : m (List Probe))
    let (status, reason) := deriveStatus probes guard.status
    return {
      runId := runId
      execution := config.execution
      decision := inputs.decision
      guard := guard
      order := order
      monitorStatus := status
      streamReason := reason
      reconnectCount := reconnectCount }

end Cycle

/-! ## Successive cycles -/

/-- What one cycle leaves to the next: the journal, and the world with a state in `σ`. -/
structure CycleState (σ : Type) where
  journal : Journal
  world : σ

namespace CycleState

variable {σ α : Type}

/-- The state before the first cycle. -/
def start (world : σ) : CycleState σ := ⟨.empty Journal.defaultCapacity, world⟩

/-- Lets the journal act. -/
def onJournal (act : StateM Journal α) : StateM (CycleState σ) α := fun s =>
  let (a, journal) := act s.journal
  (a, { s with journal := journal })

/-- Lets the world act. -/
def onWorld (act : StateM σ α) : StateM (CycleState σ) α := fun s =>
  let (a, world) := act s.world
  (a, { s with world := world })

end CycleState

/-- Runs a cycle with the journal in the state. -/
def Cycle.runWithJournal {σ : Type} (s : Surroundings (StateM σ)) (config : Config)
    (reconnectCount : Nat) : StateM (CycleState σ) (Except CycleFailure CycleReport) :=
  (Cycle.run (s.lift CycleState.onWorld) (Journal.access.lift CycleState.onJournal) config
    reconnectCount).run

end LiveTrader
