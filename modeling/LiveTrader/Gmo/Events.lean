import LiveTrader.Gmo.Fields
import LiveTrader.Gmo.Vocabulary
import LiveTrader.Market.Readings

/-!
  LiveTrader.Gmo.Events

  The messages of the private streams.  Acknowledgements and other messages that
  report no event are not read.
-/

namespace LiveTrader.Gmo

/-- The update of an order that a message reports. -/
def orderEvent? (productType : ProductType) (message : Json) : Option OrderEvent := do
  let orderId ← textField? message ["orderId", "order_id"]
  let status ← textField? message ["orderStatus", "status"]
  return {
    orderId := orderId
    status := statusWord status
    symbol := textField? message ["symbol"]
    side := (textField? message ["side"]).map Text.asciiLower
    qty := decimalField? message ["size", "orderSize", "qty"]
    productType := productType
    timestamp := timeField? message ["orderTimestamp", "timestamp"] }

/-- The update of the account that a message reports. -/
def accountEvent? (productType : ProductType) (message : Json) : Option AccountEvent := do
  let eventType ← textField? message ["msgType", "event_type"]
  return {
    eventType := Text.asciiLower eventType
    asset := textField? message ["symbol", "asset"]
    balance := decimalField? message ["sumPositionQuantity", "balance"]
    available := decimalField? message ["available"]
    productType := productType
    timestamp := timeField? message ["timestamp"] }

end LiveTrader.Gmo
