import LiveTrader.Market.Amount
import LiveTrader.Market.Product
import LiveTrader.Market.Symbol

/-!
  LiveTrader.Order.Basic

  What the runtime asks an exchange to do.
-/

namespace LiveTrader

/-! ## Parts of an order -/

/-- The direction of an order. -/
inductive OrderSide
  | buy
  | sell
  deriving DecidableEq

namespace OrderSide

/-- The word for a side. -/
def name : OrderSide → String
  | buy => "buy"
  | sell => "sell"

/-- The word that the exchange uses. -/
def wireName : OrderSide → String
  | buy => "BUY"
  | sell => "SELL"

/-- A stored side. -/
def ofJson? (v : Json) : Option OrderSide :=
  v.asWord?.bind fun w => [buy, sell].find? fun s => s.name == w

end OrderSide

/-- How an order is executed. -/
inductive OrderType
  | market
  | limit
  deriving DecidableEq

namespace OrderType

/-- The word for a type. -/
def name : OrderType → String
  | market => "market"
  | limit => "limit"

/-- A stored type. -/
def ofJson? (v : Json) : Option OrderType :=
  v.asWord?.bind fun w => [market, limit].find? fun t => t.name == w

end OrderType

/-- The kind of trading of an order.  Leveraged orders always say whether they may only
    reduce a position, spot orders never do. -/
inductive OrderProduct
  | spot
  | leverage (reduceOnly : Bool)
  deriving DecidableEq

namespace OrderProduct

/-- The kind of trading without the flag. -/
def productType : OrderProduct → ProductType
  | spot => .spot
  | leverage _ => .leverage

/-- The flag of a leveraged order. -/
def reduceOnly : OrderProduct → Option Bool
  | spot => none
  | leverage flag => some flag

/-- Orders of a kind that may open positions. -/
def ofType : ProductType → OrderProduct
  | .spot => spot
  | .leverage => leverage false

end OrderProduct

/-! ## Client order ids -/

/-- The caller's own name for one order attempt. -/
structure ClientOrderId where
  text : String
  deriving DecidableEq

namespace ClientOrderId

/-- What stands before the time in ids that are generated for a symbol. -/
def headChars (symbol : Symbol) : List Char :=
  "live-".toList ++ symbol.compactChars ++ ['-']

/-- The characters of a generated id: a tag, the compact symbol, the time to the
    microsecond and a suffix in hexadecimal, between hyphens. -/
def generatedChars (symbol : Symbol) (now : Instant) (suffix : List UInt8) : List Char :=
  headChars symbol ++ now.compactChars ++ '-' :: Text.hexChars suffix

/-- A fresh id; the suffix is random. -/
def generate (symbol : Symbol) (now : Instant) (suffix : List UInt8) : ClientOrderId :=
  ⟨String.ofList (generatedChars symbol now suffix)⟩

/-- Whether a character is a digit of generated suffixes. -/
def isSuffixChar (c : Char) : Bool :=
  c.isDigit || ('a' ≤ c && c ≤ 'f')

/-- What stands before the time in an id of the shape that is generated for a symbol. -/
def generatedHead? (symbol : Symbol) (id : ClientOrderId) : Option String :=
  let head := headChars symbol
  let (stamp, rest) := (id.text.toList.drop head.length).splitAt 20
  let suffix := rest.drop 1
  if head.isPrefixOf id.text.toList ∧ stamp.all Char.isDigit ∧ rest.head? = some '-'
      ∧ suffix.length = 8 ∧ suffix.all isSuffixChar then
    some (String.ofList head)
  else none

end ClientOrderId

/-! ## Orders -/

/-- An order. -/
structure Order where
  exchange : String
  product : OrderProduct
  symbol : Symbol
  side : OrderSide
  orderType : OrderType
  timeInForce : Option String
  qty : Quantity
  price : Option Price
  clientOrderId : ClientOrderId
  deriving DecidableEq

namespace Order

/-- An order at the market's price. -/
def market (exchange : String) (product : OrderProduct) (symbol : Symbol) (side : OrderSide)
    (qty : Quantity) (clientOrderId : ClientOrderId) : Order where
  exchange := exchange
  product := product
  symbol := symbol
  side := side
  orderType := .market
  timeInForce := none
  qty := qty
  price := none
  clientOrderId := clientOrderId

/-- The kind of trading. -/
def productType (o : Order) : ProductType := o.product.productType

/-- The flag of a leveraged order. -/
def reduceOnly (o : Order) : Option Bool := o.product.reduceOnly

/-- The order as a flat record. -/
def toJson (o : Order) : Json :=
  .object [
    ("exchange", .str o.exchange),
    ("product_type", o.productType.toJson),
    ("symbol", .str o.symbol.text),
    ("side", .str o.side.name),
    ("order_type", .str o.orderType.name),
    ("time_in_force", .ofOption .str o.timeInForce),
    ("qty", o.qty.value.toJson),
    ("price", .ofOption (fun p => p.value.toJson) o.price),
    ("reduce_only", .ofOption .bool o.reduceOnly),
    ("client_order_id", .str o.clientOrderId.text)]

end Order

end LiveTrader
