import LiveTrader.Fault
import LiveTrader.Market.Product

/-!
  LiveTrader.Order.State

  What an exchange says about an order.  A failed operation also gives an
  order-shaped state: its status is the word `error`, and its raw payload holds the
  failure.
-/

namespace LiveTrader

/-! ## Status words -/

namespace OrderStatus

/-- Acknowledged, not yet on the book. -/
def accepted : String := "accepted"
/-- On the book. -/
def active : String := "active"
/-- Refused by the exchange. -/
def rejected : String := "rejected"
/-- Cancelled. -/
def cancelled : String := "cancelled"
/-- Fully executed. -/
def filled : String := "filled"
/-- Expired. -/
def expired : String := "expired"
/-- The operation failed. -/
def error : String := "error"

end OrderStatus

/-! ## States -/

/-- An order as an exchange sees it. -/
structure OrderState where
  /-- The exchange's id; empty if it never gave one. -/
  orderId : String
  status : String
  symbol : Option String
  side : Option String
  orderType : Option String
  qty : Option Decimal
  price : Option Decimal
  productType : ProductType
  reduceOnly : Option Bool
  raw : Json

namespace OrderState

/-- A state with an id and a status and nothing else. -/
def bare (orderId status : String) (productType : ProductType) : OrderState where
  orderId := orderId
  status := status
  symbol := none
  side := none
  orderType := none
  qty := none
  price := none
  productType := productType
  reduceOnly := none
  raw := .obj []

/-- The state for a failed operation. -/
def ofFault (orderId : String) (productType : ProductType) (fault : Fault) : OrderState :=
  { bare orderId OrderStatus.error productType with raw := .object [("error", fault.toJson)] }

/-- Whether the operation failed. -/
def isError (s : OrderState) : Bool :=
  s.status == OrderStatus.error

/-- The failure of a failed operation, if its payload holds one. -/
def fault? (s : OrderState) : Option Fault :=
  if s.isError then (s.raw.get? "error").bind Fault.ofRaw? else none

/-- A state as a record. -/
def toJson (s : OrderState) : Json :=
  .object [
    ("order_id", .str s.orderId),
    ("status", .str s.status),
    ("symbol", .ofOption .str s.symbol),
    ("side", .ofOption .str s.side),
    ("order_type", .ofOption .str s.orderType),
    ("qty", .ofOption Decimal.toJson s.qty),
    ("price", .ofOption Decimal.toJson s.price),
    ("product_type", s.productType.toJson),
    ("reduce_only", .ofOption .bool s.reduceOnly),
    ("raw", s.raw)]

/-- A state's members. -/
def shape : Json.Shape :=
  .ofNames 10 ["order_id", "status", "symbol", "side", "order_type", "qty", "price",
    "product_type", "reduce_only", "raw"]

/-- A stored state. -/
def ofJson? (v : Json) : Option OrderState := do
  let v ← shape.members? v
  return {
    orderId := ← v.required? Json.asText? "order_id"
    status := ← v.required? Json.asText? "status"
    symbol := ← v.optional? Json.asText? "symbol"
    side := ← v.optional? Json.asText? "side"
    orderType := ← v.optional? Json.asText? "order_type"
    qty := ← v.optional? Decimal.ofJson? "qty"
    price := ← v.optional? Decimal.ofJson? "price"
    productType := ← v.required? ProductType.ofJson? "product_type"
    reduceOnly := ← v.optional? Json.asBool? "reduce_only"
    raw := ← v.get? "raw" }

end OrderState

end LiveTrader
