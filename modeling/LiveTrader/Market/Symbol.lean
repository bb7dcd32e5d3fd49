import LiveTrader.Json.Fields
import LiveTrader.Text.Case
import LiveTrader.ValueError

/-!
  LiveTrader.Market.Symbol

  The names of markets as the exchange spells them, such as `BTC_JPY`.
-/

namespace LiveTrader

/-- A market's name. -/
structure Symbol where
  text : String
  deriving DecidableEq

namespace Symbol

/-- A name that is not blank. -/
def of (text : String) : Except ValueError Symbol :=
  if Text.isBlankText text then .error (.symbol "Symbol must be non-empty") else .ok ⟨text⟩

/-- The market that is traded unless another is configured. -/
def standard : Symbol := ⟨"BTC_JPY"⟩

/-- The ASCII letters and digits of a name in upper case, at most sixteen. -/
def compactChars (s : Symbol) : List Char :=
  ((s.text.toList.filter Char.isAlphanum).map Char.toUpper).take 16

/-- The ASCII letters and digits of a name in upper case, at most sixteen. -/
def compact (s : Symbol) : String :=
  String.ofList s.compactChars

/-- The asset that prices are quoted in: what follows the last underscore in upper
    case.  Names without one are quoted in yen. -/
def quoteAsset (s : Symbol) : String :=
  let fromEnd := s.text.toList.reverse
  let quote := (fromEnd.takeWhile (· != '_')).reverse
  if fromEnd.contains '_' && !quote.isEmpty then Text.upper (String.ofList quote) else "JPY"

/-- A stored name; it may be blank. -/
def ofJson? (v : Json) : Option Symbol :=
  v.asText?.map Symbol.mk

end Symbol

end LiveTrader
