import LiveTrader.Fault
import LiveTrader.Market.Readings
import LiveTrader.Order.Basic
import LiveTrader.Order.State
import LiveTrader.Time.Span

/-!
  LiveTrader.Exchange.Interface

  What the runtime needs of an exchange.  An exchange is any set of operations with
  effects of its own; an order operation always answers with an order state, whose
  status says if it failed.
-/

namespace LiveTrader

/-- What a newly opened stream does within a time. -/
inductive Arrival (α : Type)
  /-- It yields an event or a failure. -/
  | item (value : Except Fault α)
  /-- It ends without having yielded anything. -/
  | ended
  /-- It does nothing. -/
  | quiet

/-- The operations of an exchange, whose effects are those of `m`. -/
structure Exchange (m : Type → Type) where
  /-- Sends an order. -/
  place : Order → m OrderState
  /-- Reads an order by the exchange's id. -/
  fetch : String → m OrderState
  /-- Cancels an order by the exchange's id. -/
  cancel : String → m OrderState
  /-- Reads the balances of an account type. -/
  balances : String → m (Except Fault (List Balance))
  /-- Opens the streams of order and account events together, and waits at most this long
      for what each of them does first. -/
  firstEvents : Span → m (Arrival OrderEvent × Arrival AccountEvent)

/-- The same operations where more effects are possible. -/
def Exchange.lift {m n : Type → Type} (lift : {α : Type} → m α → n α) (e : Exchange m) :
    Exchange n where
  place order := lift (e.place order)
  fetch orderId := lift (e.fetch orderId)
  cancel orderId := lift (e.cancel orderId)
  balances accountType := lift (e.balances accountType)
  firstEvents timeout := lift (e.firstEvents timeout)

end LiveTrader
