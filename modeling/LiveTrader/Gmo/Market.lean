import LiveTrader.Gmo.Adapter
import LiveTrader.Gmo.Candles

/-!
  LiveTrader.Gmo.Market

  Public data: tickers and candles.
-/

namespace LiveTrader.Gmo

variable {m : Type → Type} [Monad m]

/-! ## Tickers -/

/-- The ticker of an entry; a missing symbol is the one that was asked for. -/
def tickerOf (productType : ProductType) (symbol : String) (entry : Json) : Ticker where
  symbol := (textField? entry ["symbol"]).getD symbol
  bid := decimalField? entry ["bid"]
  ask := decimalField? entry ["ask"]
  last := decimalField? entry ["last"]
  timestamp := timeField? entry ["timestamp"]
  productType := productType

/-- The entry for a symbol, or else the first one. -/
def tickerEntry? (symbol : String) (data : Json) : Option Json :=
  let all := entries data
  (all.find? fun e => textField? e ["symbol"] == some symbol).or all.head?

/-- The ticker in a reply. -/
def tickerIn (productType : ProductType) (symbol : String) (data : Json) : Except Fault Ticker :=
  match tickerEntry? symbol data with
  | some entry => .ok (tickerOf productType symbol entry)
  | none => .error (.invalidResponse "ticker_missing")

namespace Adapter

/-- Reads the ticker of a market. -/
def fetchTicker (a : Adapter m) (symbol : String) : m (Except Fault Ticker) := do
  let data ← a.publicGet "fetch_ticker" "/public/v1/ticker" [("symbol", symbol)]
  return data.bind (tickerIn a.settings.productType symbol)

/-! ## Candles -/

/-- The candles of each date, asked for one after the other until a reply fails. -/
def fetchDates (a : Adapter m) (symbol interval : String) :
    List String → m (Except Fault (List Kline))
  | [] => return .ok []
  | date :: rest => do
    let data ← a.publicGet "fetch_klines" "/public/v1/klines"
      [("symbol", symbol), ("interval", interval), ("date", date)]
    match data.bind klines with
    | .error f => return .error f
    | .ok here =>
      let later ← a.fetchDates symbol interval rest
      return later.map (here ++ ·)

/-- Reads the latest candles of a window, oldest first.  There is no such operation for a
    window whose days cannot be counted. -/
def fetchKlines? (a : Adapter m) (symbol interval : String) (start finish : Instant)
    (limit : Nat) : Option (m (Listing Kline)) :=
  if finish.lt start then some (return .ok [])
  else
    let dates := dateParams? interval (start.seconds / Instant.secondsPerDay)
      (finish.seconds / Instant.secondsPerDay)
    dates.map fun dates => do
      let received ← a.fetchDates symbol interval dates
      return .ofExcept (received.map fun ks => assemble limit (ks.filter (inWindow start finish)))

end Adapter

end LiveTrader.Gmo
