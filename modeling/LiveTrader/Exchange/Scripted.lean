import LiveTrader.Exchange.Interface

/-!
  LiveTrader.Exchange.Scripted

  An exchange for dry runs: every operation answers by a script and is counted.
  Unless told otherwise it models a resting order, which is accepted, then active,
  then cancelled.
-/

namespace LiveTrader

/-- The scripted result of an order operation. -/
inductive ScriptedOutcome
  | status (word : String)
  | fault (f : Fault)

/-- The scripted behaviour of a stream. -/
inductive ScriptedStream (α : Type)
  /-- Yields these items, then ends. -/
  | items (values : List (Except Fault α))
  /-- Stays silent. -/
  | pending

/-- What a subscription to a scripted stream does first. -/
def ScriptedStream.arrival {α : Type} : ScriptedStream α → Arrival α
  | items [] => .ended
  | items (value :: _) => .item value
  | pending => .quiet

/-- Whether a stream stays silent. -/
def ScriptedStream.isPending {α : Type} : ScriptedStream α → Bool
  | items _ => false
  | pending => true

/-- A scripted exchange: its script, the orders it was sent, and counts of its calls. -/
structure ScriptedExchange where
  productType : ProductType
  place : ScriptedOutcome
  fetch : ScriptedOutcome
  cancel : ScriptedOutcome
  balances : Except Fault (List Balance)
  orderStream : ScriptedStream OrderEvent
  accountStream : ScriptedStream AccountEvent
  /-- The orders that were sent, last first. -/
  placed : List Order
  /-- How many ids were given to orders. -/
  idsGiven : Nat
  placeCalls : Nat
  fetchCalls : Nat
  cancelCalls : Nat
  balanceCalls : Nat
  /-- Milliseconds that were spent waiting for silent streams. -/
  elapsed : Nat

namespace ScriptedExchange

/-- An exchange with a yen balance and the script of a resting order. -/
def of (productType : ProductType) (availableYen : Decimal) : ScriptedExchange where
  productType := productType
  place := .status OrderStatus.accepted
  fetch := .status OrderStatus.active
  cancel := .status OrderStatus.cancelled
  balances := .ok [⟨"JPY", availableYen, availableYen, productType.name, productType⟩]
  orderStream := .items []
  accountStream := .items []
  placed := []
  idsGiven := 0
  placeCalls := 0
  fetchCalls := 0
  cancelCalls := 0
  balanceCalls := 0
  elapsed := 0

/-- The orders that were sent, in order. -/
def placedOrders (s : ScriptedExchange) : List Order := s.placed.reverse

/-- The counts of the calls as a record. -/
def callsJson (s : ScriptedExchange) : Json :=
  .object [
    ("place", .nat s.placeCalls),
    ("fetch", .nat s.fetchCalls),
    ("cancel", .nat s.cancelCalls),
    ("balances", .nat s.balanceCalls)]

/-- The state that an outcome stands for. -/
def resolve (s : ScriptedExchange) (orderId : String) : ScriptedOutcome → OrderState
  | .status word => .bare orderId word s.productType
  | .fault f => .ofFault orderId s.productType f

/-- Sends an order.  It gets the next id unless the script lets it fail. -/
def placeOrder (order : Order) (s : ScriptedExchange) : OrderState × ScriptedExchange :=
  let s := { s with placed := order :: s.placed, placeCalls := s.placeCalls + 1 }
  let (orderId, s) := match s.place with
    | .status _ =>
      ("STUB-" ++ String.ofList (Text.digits (s.idsGiven + 1)),
        { s with idsGiven := s.idsGiven + 1 })
    | .fault _ => ("", s)
  let state := { s.resolve orderId s.place with
    symbol := some order.symbol.text
    side := some order.side.name
    qty := some order.qty.value
    reduceOnly := order.reduceOnly }
  (state, s)

/-- Reads an order. -/
def fetchOrder (orderId : String) (s : ScriptedExchange) : OrderState × ScriptedExchange :=
  (s.resolve orderId s.fetch, { s with fetchCalls := s.fetchCalls + 1 })

/-- Cancels an order. -/
def cancelOrder (orderId : String) (s : ScriptedExchange) : OrderState × ScriptedExchange :=
  (s.resolve orderId s.cancel, { s with cancelCalls := s.cancelCalls + 1 })

/-- Reads the balances. -/
def fetchBalances (s : ScriptedExchange) : Except Fault (List Balance) × ScriptedExchange :=
  (s.balances, { s with balanceCalls := s.balanceCalls + 1 })

/-- Opens both streams.  They act at once or never, so that either no time passes or all
    of it. -/
def firstEvents (timeout : Span) (s : ScriptedExchange) :
    (Arrival OrderEvent × Arrival AccountEvent) × ScriptedExchange :=
  let waits := s.orderStream.isPending || s.accountStream.isPending
  ((s.orderStream.arrival, s.accountStream.arrival),
    { s with elapsed := s.elapsed + (if waits then timeout.waitMillis else 0) })

/-- The operations of scripted exchanges. -/
def operations : Exchange (StateM ScriptedExchange) where
  place order := placeOrder order
  fetch orderId := fetchOrder orderId
  cancel orderId := cancelOrder orderId
  balances _ := fetchBalances
  firstEvents timeout := firstEvents timeout

end ScriptedExchange

end LiveTrader
