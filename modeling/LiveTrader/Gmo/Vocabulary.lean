import LiveTrader.Order.State
import LiveTrader.Text.Case
import LiveTrader.Text.Blank

/-!
  LiveTrader.Gmo.Vocabulary

  GMO Coin's words for failures and for the statuses of orders.
-/

namespace LiveTrader.Gmo

/-- The failure code that a message code stands for; other codes stand for
    themselves. -/
def sourceCode (messageCode : String) : String :=
  if messageCode = "ERR-5003" then SourceCode.rateLimit
  else if messageCode ∈
      ["ERR-5008", "ERR-5009", "ERR-5010", "ERR-5011", "ERR-5012", "ERR-5014"] then
    SourceCode.authFailed
  else if messageCode ∈ ["ERR-5106", "ERR-5114", "ERR-5122", "ERR-5123", "ERR-5126"] then
    SourceCode.invalidParam
  else if messageCode ∈ ["ERR-201", "ERR-208"] then SourceCode.insufficientMargin
  else messageCode

/-- The status that an order status of the exchange stands for, whatever its case and the
    blanks around it; a word without a meaning is kept in lower case. -/
def statusWord (raw : String) : String :=
  let word := Text.asciiUpper (Text.trim raw)
  if word = "WAITING" then OrderStatus.accepted
  else if word ∈ ["ORDERED", "MODIFYING", "CANCELLING"] then OrderStatus.active
  else if word ∈ ["CANCELED", "CANCELLED"] then OrderStatus.cancelled
  else if word = "EXECUTED" then OrderStatus.filled
  else if word = "EXPIRED" then OrderStatus.expired
  else Text.asciiLower (Text.trim raw)

end LiveTrader.Gmo
