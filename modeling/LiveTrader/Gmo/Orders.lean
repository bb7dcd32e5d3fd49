import LiveTrader.Gmo.Adapter
import LiveTrader.Gmo.Fields
import LiveTrader.Gmo.OrderBody

/-!
  LiveTrader.Gmo.Orders

  Placing, cancelling and reading orders.  Each operation answers with an order state;
  a failure is put into one.
-/

namespace LiveTrader.Gmo

variable {m : Type → Type} [Monad m]

/-- The names of an order's id. -/
def idNames : List String := ["orderId", "order_id"]

/-- The names of an order's status. -/
def statusNames : List String := ["status", "orderStatus"]

/-- The state for the result of a call. -/
def stateOf (orderId : String) (productType : ProductType) : Except Fault OrderState → OrderState
  | .ok state => state
  | .error fault => .ofFault orderId productType fault

/-! ## States in replies -/

/-- The status in a reply, or a default. -/
def statusIn (default : String) (data : Json) : String :=
  match textField? data statusNames with
  | some raw => statusWord raw
  | none => default

/-- The id and the status of an order that was placed: members of an object, or the id
    alone. -/
def placement (data : Json) : String × String :=
  if data.isObject then ((textField? data idNames).getD "", statusIn OrderStatus.accepted data)
  else ((scalarText? data).getD "", OrderStatus.accepted)

/-- The state of an order that was placed. -/
def placedState (order : Order) (data : Json) : OrderState where
  orderId := (placement data).1
  status := (placement data).2
  symbol := some order.symbol.text
  side := some order.side.name
  orderType := some order.orderType.name
  qty := some order.qty.value
  price := order.price.map Price.value
  productType := order.productType
  reduceOnly := order.reduceOnly
  raw := .object [("response", data), ("client_order_id", .str order.clientOrderId.text)]

/-- The state of an order that was cancelled. -/
def cancelledState (productType : ProductType) (orderId : String) (data : Json) : OrderState :=
  { OrderState.bare orderId (statusIn OrderStatus.cancelled data) productType with
    raw := .object [("response", data)] }

/-- The entry for an order in a reply: one with its id, else the reply itself if it is an
    object. -/
def orderEntry (orderId : String) (data : Json) : Json :=
  match (entries data).find? fun e => textField? e idNames == some orderId with
  | some entry => entry
  | none => if data.isObject then data else .null

/-- The state of an order that was read. -/
def fetchedState (productType : ProductType) (orderId : String) (data : Json) :
    Except Fault OrderState :=
  let entry := orderEntry orderId data
  match textField? entry statusNames with
  | none => .error (.invalidResponse "fetch_order_status_unknown")
  | some status => .ok {
      orderId := (textField? entry idNames).getD orderId
      status := statusWord status
      symbol := textField? entry ["symbol"]
      side := (textField? entry ["side"]).map Text.asciiLower
      orderType := (textField? entry ["executionType", "order_type"]).map Text.asciiLower
      qty := decimalField? entry ["size", "qty"]
      price := decimalField? entry ["price"]
      productType := productType
      reduceOnly := none
      raw := entry }

/-! ## Operations -/

/-- The call that places an order. -/
def placeCall (order : Order) : Adapter.Call :=
  ⟨.post, "/private/v1/order", [], some (orderBody order).toText⟩

/-- The call that cancels an order. -/
def cancelCall (orderId : String) : Adapter.Call :=
  ⟨.post, "/private/v1/cancelOrder", [], some (cancelBody orderId).toText⟩

/-- The call that reads an order. -/
def fetchCall (orderId : String) : Adapter.Call :=
  ⟨.get, "/private/v1/orders", [("orderId", orderId)], none⟩

namespace Adapter

/-- Sends an order. -/
def placeOrder (a : Adapter m) (order : Order) : m OrderState := do
  let data ← a.privateCall "place_order" (placeCall order)
  return stateOf "" order.productType (data.map (placedState order))

/-- Cancels an order. -/
def cancelOrder (a : Adapter m) (orderId : String) : m OrderState := do
  let data ← a.privateCall "cancel_order" (cancelCall orderId)
  return stateOf orderId a.settings.productType
    (data.map (cancelledState a.settings.productType orderId))

/-- Reads an order. -/
def fetchOrder (a : Adapter m) (orderId : String) : m OrderState := do
  let data ← a.privateCall "fetch_order" (fetchCall orderId)
  return stateOf orderId a.settings.productType
    (data.bind (fetchedState a.settings.productType orderId))

end Adapter

end LiveTrader.Gmo
