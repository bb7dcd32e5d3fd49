import LiveTrader.Exchange.Interface
import LiveTrader.Gmo.Account
import LiveTrader.Gmo.Events
import LiveTrader.Gmo.Market
import LiveTrader.Gmo.Orders
import LiveTrader.WebSocket.Session

/-!
  LiveTrader.Gmo.Streams

  The private streams, and the adapter as an exchange.
-/

namespace LiveTrader.Gmo

variable {m : Type → Type} [Monad m] {α : Type}

/-! ## Subscribing -/

/-- The command that subscribes to a stream, signed if it is an authenticated one. -/
def subscribeMessage (channel : String) (signer : Option (Credentials × String)) : Json :=
  let command := Json.object [("command", .str "subscribe"), ("channel", .str channel)]
  match signer with
  | none => command
  | some (credentials, timestamp) =>
    ((command.setMember "apiKey" (.str credentials.apiKey)).setMember
      "timestamp" (.str timestamp)).setMember
      "signature" (.str (Signature.ofSubscription credentials.apiSecret timestamp))

/-- What a connection over a socket reads of the bytes that the peer sends: it asks for the
    upgrade, subscribes to a stream and listens until the session fails. -/
def socketConnection (credentials : Credentials) (timestamp : String) (channel : Channel)
    (host path key : String) (mask : WebSocket.MaskKey) :
    StateM WebSocket.Session Connection :=
  WebSocket.subscribe host path key mask
    (subscribeMessage channel.name (some (credentials, timestamp)))

namespace Adapter

/-- How connections to a stream are opened; where none can be, the items that the stream
    has instead. -/
def opener (a : Adapter m) (channel : Channel) :
    Except (List Fault) (m Connection) :=
  match a.feed with
  | some feed => .ok (feed channel)
  | none =>
    if a.settings.useHttp then
      match a.credentials with
      | some credentials => .ok (a.gateway.dial credentials channel)
      | none => .error [a.credentialsMissing]
    else .error []

/-- Every item of a stream over at most `opens` connections. -/
def stream (a : Adapter m) (channel : Channel) (parse : Json → Option α) (opens : Nat) :
    m (List (Except Fault α)) :=
  match a.opener channel with
  | .error faults => return faults.map .error
  | .ok connect => follow parse connect opens

/-- What a stream does first.  It is decided by the first connection: the stream yields the
    first failure before it connects again. -/
def arrival (a : Adapter m) (channel : Channel) (parse : Json → Option α) :
    m (Arrival α) := do
  match (← a.stream channel parse 1).head? with
  | some item => return .item item
  | none => return .ended

/-- What both streams do first.  A connection is read as it comes, so nothing is waited
    for. -/
def firstEvents (a : Adapter m) : m (Arrival OrderEvent × Arrival AccountEvent) := do
  let orders ← a.arrival .orders (orderEvent? a.settings.productType)
  let account ← a.arrival .account (accountEvent? a.settings.productType)
  return (orders, account)

/-- The adapter's operations. -/
def operations (a : Adapter m) : Exchange m where
  place := a.placeOrder
  fetch := a.fetchOrder
  cancel := a.cancelOrder
  balances := a.fetchBalances
  firstEvents _ := a.firstEvents

end Adapter

end LiveTrader.Gmo
