import LiveTrader.Gmo.Adapter
import LiveTrader.Gmo.Fields
import LiveTrader.Market.Readings

/-!
  LiveTrader.Gmo.Account

  Private data: balances and open positions.
-/

namespace LiveTrader.Gmo

variable {m : Type → Type} [Monad m]

/-! ## Balances -/

/-- The balance of an entry.  What is available is the total unless it is said. -/
def balanceOf (productType : ProductType) (accountType : String) (entry : Json) :
    Except Fault Balance :=
  match textField? entry ["symbol", "asset"] with
  | none => .error (.invalidResponse "balance_missing_symbol")
  | some asset =>
    let total := (decimalField? entry ["amount", "total"]).getD .zero
    .ok {
      asset := asset
      total := total
      available := (decimalField? entry ["available"]).getD total
      accountType := accountType
      productType := productType }

/-! ## Positions -/

/-- The position of an entry. -/
def position? (productType : ProductType) (entry : Json) : Option Position := do
  return {
    symbol := ← textField? entry ["symbol"]
    side := Text.asciiLower (← textField? entry ["side"])
    qty := ← decimalField? entry ["size", "qty"]
    entryPrice := decimalField? entry ["price", "entry_price"]
    leverage := decimalField? entry ["leverage"]
    unrealizedPnl := decimalField? entry ["lossGain", "unrealized_pnl"]
    productType := productType }

namespace Adapter

/-- Reads the balances of an account. -/
def fetchBalances (a : Adapter m) (accountType : String) :
    m (Except Fault (List Balance)) := do
  let data ← a.privateCall "fetch_balances" ⟨.get, "/private/v1/account/assets", [], none⟩
  return data.bind fun d => (entries d).mapM (balanceOf a.settings.productType accountType)

/-- Reads the open positions in a market; entries that are no positions are left out. -/
def fetchPositions (a : Adapter m) (symbol : String) : m (Listing Position) := do
  let data ← a.privateCall "fetch_positions"
    ⟨.get, "/private/v1/openPositions", [("symbol", symbol)], none⟩
  return .ofExcept (data.map fun d => (entries d).filterMap (position? a.settings.productType))

end Adapter

end LiveTrader.Gmo
