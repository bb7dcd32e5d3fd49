import LiveTrader.Fault
import LiveTrader.Market.Product

/-!
  LiveTrader.Market.Readings

  What is read from an exchange: candles, tickers, balances, positions, and the
  events of its private streams.
-/

namespace LiveTrader

/-! ## Lists that carry their failure -/

/-- The items of a read, or none of them and why. -/
structure Listing (α : Type) where
  items : List α
  error : Option Fault

namespace Listing

variable {α : Type}

/-- A read that succeeded. -/
def ok (items : List α) : Listing α := ⟨items, none⟩

/-- A read that failed. -/
def failed (error : Fault) : Listing α := ⟨[], some error⟩

/-- The listing for a result. -/
def ofExcept : Except Fault (List α) → Listing α
  | .ok items => ok items
  | .error e => failed e

/-- Whether the read succeeded. -/
def isOk (l : Listing α) : Bool := l.error.isNone

/-- A listing as a record. -/
def toJson (encode : α → Json) (l : Listing α) : Json :=
  .object [("items", .arr (l.items.map encode)), ("error", .ofOption Fault.toJson l.error)]

/-- A listing's members. -/
def shape : Json.Shape :=
  .ofNames 2 ["items", "error"]

/-- A stored listing. -/
def ofJson? (decode? : Json → Option α) (v : Json) : Option (Listing α) := do
  let v ← shape.members? v
  let items ← v.required? (fun f => f.asItems?.bind fun fs => fs.mapM decode?) "items"
  let error ← v.optional? Fault.ofJson? "error"
  return ⟨items, error⟩

end Listing

/-! ## Candles and tickers -/

/-- A candle that opened at `timestamp`. -/
structure Kline where
  timestamp : Instant
  opening : Decimal
  high : Decimal
  low : Decimal
  closing : Decimal
  volume : Decimal
  deriving DecidableEq

namespace Kline

/-- A candle as a record. -/
def toJson (k : Kline) : Json :=
  .object [
    ("timestamp", k.timestamp.toJson),
    ("open", k.opening.toJson),
    ("high", k.high.toJson),
    ("low", k.low.toJson),
    ("close", k.closing.toJson),
    ("volume", k.volume.toJson)]

/-- A candle's members. -/
def shape : Json.Shape :=
  .ofNames 6 ["timestamp", "open", "high", "low", "close", "volume"]

/-- A stored candle. -/
def ofJson? (v : Json) : Option Kline := do
  let v ← shape.members? v
  return {
    timestamp := ← v.required? Instant.ofJson? "timestamp"
    opening := ← v.required? Decimal.ofJson? "open"
    high := ← v.required? Decimal.ofJson? "high"
    low := ← v.required? Decimal.ofJson? "low"
    closing := ← v.required? Decimal.ofJson? "close"
    volume := ← v.required? Decimal.ofJson? "volume" }

end Kline

/-- Best prices and the last trade of a market. -/
structure Ticker where
  symbol : String
  bid : Option Decimal
  ask : Option Decimal
  last : Option Decimal
  timestamp : Option Instant
  productType : ProductType
  deriving DecidableEq

namespace Ticker

/-- A ticker as a record. -/
def toJson (t : Ticker) : Json :=
  .object [
    ("symbol", .str t.symbol),
    ("bid", .ofOption Decimal.toJson t.bid),
    ("ask", .ofOption Decimal.toJson t.ask),
    ("last", .ofOption Decimal.toJson t.last),
    ("timestamp", .ofOption Instant.toJson t.timestamp),
    ("product_type", t.productType.toJson)]

/-- A ticker's members. -/
def shape : Json.Shape :=
  .ofNames 6 ["symbol", "bid", "ask", "last", "timestamp", "product_type"]

/-- A stored ticker. -/
def ofJson? (v : Json) : Option Ticker := do
  let v ← shape.members? v
  return {
    symbol := ← v.required? Json.asText? "symbol"
    bid := ← v.optional? Decimal.ofJson? "bid"
    ask := ← v.optional? Decimal.ofJson? "ask"
    last := ← v.optional? Decimal.ofJson? "last"
    timestamp := ← v.optional? Instant.ofJson? "timestamp"
    productType := ← v.required? ProductType.ofJson? "product_type" }

end Ticker

/-! ## Holdings -/

/-- The holding of one asset. -/
structure Balance where
  asset : String
  total : Decimal
  available : Decimal
  accountType : String
  productType : ProductType
  deriving DecidableEq

namespace Balance

/-- A holding as a record. -/
def toJson (b : Balance) : Json :=
  .object [
    ("asset", .str b.asset),
    ("total", b.total.toJson),
    ("available", b.available.toJson),
    ("account_type", .str b.accountType),
    ("product_type", b.productType.toJson)]

/-- A holding's members. -/
def shape : Json.Shape :=
  .ofNames 5 ["asset", "total", "available", "account_type", "product_type"]

/-- A stored holding. -/
def ofJson? (v : Json) : Option Balance := do
  let v ← shape.members? v
  return {
    asset := ← v.required? Json.asText? "asset"
    total := ← v.required? Decimal.ofJson? "total"
    available := ← v.required? Decimal.ofJson? "available"
    accountType := ← v.required? Json.asText? "account_type"
    productType := ← v.required? ProductType.ofJson? "product_type" }

end Balance

/-- An open leveraged position. -/
structure Position where
  symbol : String
  side : String
  qty : Decimal
  entryPrice : Option Decimal
  leverage : Option Decimal
  unrealizedPnl : Option Decimal
  productType : ProductType
  deriving DecidableEq

namespace Position

/-- A position as a record. -/
def toJson (p : Position) : Json :=
  .object [
    ("symbol", .str p.symbol),
    ("side", .str p.side),
    ("qty", p.qty.toJson),
    ("entry_price", .ofOption Decimal.toJson p.entryPrice),
    ("leverage", .ofOption Decimal.toJson p.leverage),
    ("unrealized_pnl", .ofOption Decimal.toJson p.unrealizedPnl),
    ("product_type", p.productType.toJson)]

/-- A position's members. -/
def shape : Json.Shape :=
  .ofNames 7 ["symbol", "side", "qty", "entry_price", "leverage", "unrealized_pnl",
    "product_type"]

/-- A stored position. -/
def ofJson? (v : Json) : Option Position := do
  let v ← shape.members? v
  return {
    symbol := ← v.required? Json.asText? "symbol"
    side := ← v.required? Json.asText? "side"
    qty := ← v.required? Decimal.ofJson? "qty"
    entryPrice := ← v.optional? Decimal.ofJson? "entry_price"
    leverage := ← v.optional? Decimal.ofJson? "leverage"
    unrealizedPnl := ← v.optional? Decimal.ofJson? "unrealized_pnl"
    productType := ← v.required? ProductType.ofJson? "product_type" }

end Position

/-! ## Stream events -/

/-- An update of one order. -/
structure OrderEvent where
  orderId : String
  status : String
  symbol : Option String
  side : Option String
  qty : Option Decimal
  productType : ProductType
  timestamp : Option Instant
  deriving DecidableEq

namespace OrderEvent

/-- An event as a record. -/
def toJson (e : OrderEvent) : Json :=
  .object [
    ("order_id", .str e.orderId),
    ("status", .str e.status),
    ("symbol", .ofOption .str e.symbol),
    ("side", .ofOption .str e.side),
    ("qty", .ofOption Decimal.toJson e.qty),
    ("product_type", e.productType.toJson),
    ("timestamp", .ofOption Instant.toJson e.timestamp)]

/-- An event's members. -/
def shape : Json.Shape :=
  .ofNames 7 ["order_id", "status", "symbol", "side", "qty", "product_type", "timestamp"]

/-- A stored event. -/
def ofJson? (v : Json) : Option OrderEvent := do
  let v ← shape.members? v
  return {
    orderId := ← v.required? Json.asText? "order_id"
    status := ← v.required? Json.asText? "status"
    symbol := ← v.optional? Json.asText? "symbol"
    side := ← v.optional? Json.asText? "side"
    qty := ← v.optional? Decimal.ofJson? "qty"
    productType := ← v.required? ProductType.ofJson? "product_type"
    timestamp := ← v.optional? Instant.ofJson? "timestamp" }

end OrderEvent

/-- An update of the account. -/
structure AccountEvent where
  eventType : String
  asset : Option String
  balance : Option Decimal
  available : Option Decimal
  productType : ProductType
  timestamp : Option Instant
  deriving DecidableEq

namespace AccountEvent

/-- An event as a record. -/
def toJson (e : AccountEvent) : Json :=
  .object [
    ("event_type", .str e.eventType),
    ("asset", .ofOption .str e.asset),
    ("balance", .ofOption Decimal.toJson e.balance),
    ("available", .ofOption Decimal.toJson e.available),
    ("product_type", e.productType.toJson),
    ("timestamp", .ofOption Instant.toJson e.timestamp)]

/-- An event's members. -/
def shape : Json.Shape :=
  .ofNames 6 ["event_type", "asset", "balance", "available", "product_type", "timestamp"]

/-- A stored event. -/
def ofJson? (v : Json) : Option AccountEvent := do
  let v ← shape.members? v
  return {
    eventType := ← v.required? Json.asText? "event_type"
    asset := ← v.optional? Json.asText? "asset"
    balance := ← v.optional? Decimal.ofJson? "balance"
    available := ← v.optional? Decimal.ofJson? "available"
    productType := ← v.required? ProductType.ofJson? "product_type"
    timestamp := ← v.optional? Instant.ofJson? "timestamp" }

end AccountEvent

end LiveTrader
