import LiveTrader.Order.Basic

/-!
  LiveTrader.Gmo.OrderBody

  The bodies of the requests that place and cancel orders.
-/

namespace LiveTrader.Gmo

/-- The exchange's word for how an order is executed. -/
def executionType : OrderType → String
  | .market => "MARKET"
  | .limit => "LIMIT"

/-- The members of a body that are there for every order. -/
def commonMembers (o : Order) : List (String × Json) := [
  ("symbol", .str o.symbol.text),
  ("side", .str o.side.wireName),
  ("executionType", .str (executionType o.orderType)),
  ("size", .str o.qty.value.normalized.toText)]

/-- The members of a body that only some orders have: a price, how long the order stays
    in force, and for a leveraged order whether it may only reduce a position. -/
def specificMembers (o : Order) : List (String × Json) :=
  (o.price.map fun p => ("price", Json.str p.value.normalized.toText)).toList
    ++ (o.timeInForce.map fun word => ("timeInForce", Json.str word)).toList
    ++ (o.reduceOnly.map fun flag => ("reduceOnly", Json.bool flag)).toList

/-- The body that places an order. -/
def orderBody (o : Order) : Json :=
  .object (commonMembers o ++ specificMembers o)

/-- An order id in a body: a number if it reads as one of 64 bits. -/
def idValue (orderId : String) : Json :=
  match Text.unsignedBelow? (pow2 64) orderId.toList with
  | some n => .int n
  | none => .str orderId

/-- The body that cancels an order. -/
def cancelBody (orderId : String) : Json :=
  .object [("orderId", idValue orderId)]

end LiveTrader.Gmo
