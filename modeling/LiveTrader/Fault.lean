import LiveTrader.Json.Fields
import LiveTrader.Text.Blank
import LiveTrader.Text.Case

/-!
  LiveTrader.Fault

  Failures of exchange operations.  A raw failure (an HTTP status, an error code of
  the exchange, a socket error) is classified once, where it is seen; retry
  decisions read the class and the flag and never the code.
-/

namespace LiveTrader

/-! ## Classes -/

/-- Classes of failures. -/
inductive FaultClass
  /-- Credentials are missing or rejected. -/
  | auth
  /-- Too many requests. -/
  | rateLimit
  /-- The request itself is at fault. -/
  | validation
  /-- The exchange could not be reached. -/
  | network
  /-- Any other failure on the exchange's side. -/
  | exchange
  deriving DecidableEq

namespace FaultClass

/-- Every class. -/
def all : List FaultClass := [auth, rateLimit, validation, network, exchange]

/-- The word for a class. -/
def name : FaultClass → String
  | auth => "auth"
  | rateLimit => "rate_limit"
  | validation => "validation"
  | network => "network"
  | exchange => "exchange"

/-- The class with this word. -/
def ofName? (s : String) : Option FaultClass :=
  all.find? fun c => c.name == s

/-- Whether a private call is attempted again after such a failure. -/
def isTransient (c : FaultClass) : Bool :=
  c == rateLimit || c == network

end FaultClass

/-! ## Codes -/

namespace SourceCode

/-- Missing or rejected credentials. -/
def authFailed : String := "AUTH_FAILED"
/-- Throttled. -/
def rateLimit : String := "RATE_LIMIT"
/-- A malformed request. -/
def invalidParam : String := "INVALID_PARAM"
/-- A margin that does not suffice. -/
def insufficientMargin : String := "INSUFFICIENT_MARGIN"
/-- No answer in time. -/
def networkTimeout : String := "NETWORK_TIMEOUT"
/-- A connection refused, reset or closed. -/
def connectionError : String := "CONNECTION_ERROR"
/-- Any failure of the exchange. -/
def exchangeError : String := "EXCHANGE_ERROR"
/-- A response without a meaning. -/
def invalidResponse : String := "INVALID_RESPONSE"

end SourceCode

/-- The codes of each class that has codes of its own. -/
def FaultClass.codes : FaultClass → List String
  | auth => ["AUTH_FAILED", "INVALID_API_KEY", "UNAUTHORIZED"]
  | rateLimit => ["RATE_LIMIT", "TOO_MANY_REQUESTS", "THROTTLED"]
  | validation => ["INVALID_PARAM", "BAD_REQUEST", "INSUFFICIENT_MARGIN"]
  | network => ["NETWORK_TIMEOUT", "CONNECTION_ERROR", "DNS_ERROR"]
  | exchange => []

/-- Whether a caller may try again after a failure of this class. -/
def FaultClass.defaultRetryable : FaultClass → Bool
  | auth => false
  | rateLimit => true
  | validation => false
  | network => true
  | exchange => true

/-- The class of a code, whatever its case and the blanks around it. -/
def FaultClass.ofCode (code : String) : FaultClass :=
  let word := Text.asciiUpper (Text.trim code)
  (all.find? fun c => c.codes.contains word).getD exchange

/-! ## Failures -/

/-- A classified failure. -/
structure Fault where
  category : FaultClass
  /-- Whether the caller may try again later. -/
  retryable : Bool
  /-- The code that the class was derived from, as it was given. -/
  sourceCode : Option String
  message : String
  deriving DecidableEq

namespace Fault

/-- Classifies a failure by its code; without a code it is the exchange's. -/
def classify (sourceCode : Option String) (message : String) : Fault :=
  let category := match sourceCode with
    | some code => FaultClass.ofCode code
    | none => .exchange
  ⟨category, category.defaultRetryable, sourceCode, message⟩

/-- Credentials are missing or rejected. -/
def authFailed (message : String) : Fault :=
  classify (some SourceCode.authFailed) message

/-- A response that has no meaning.  Asking again would bring the same response. -/
def invalidResponse (message : String) : Fault :=
  ⟨.exchange, false, some SourceCode.invalidResponse, message⟩

/-- Every attempt of a private call has failed. -/
def retryExhausted : Fault :=
  classify (some SourceCode.exchangeError) "private_retry_exhausted"

/-- The code for an HTTP status. -/
def codeOfHttpStatus (status : Nat) : String :=
  if status = 401 ∨ status = 403 then SourceCode.authFailed
  else if status = 429 then SourceCode.rateLimit
  else if 400 ≤ status ∧ status ≤ 499 then SourceCode.invalidParam
  else SourceCode.exchangeError

/-- Classifies a failure by its HTTP status. -/
def ofHttpStatus (status : Nat) (message : String) : Fault :=
  classify (some (codeOfHttpStatus status)) message

/-- The failure in one line. -/
def describe (f : Fault) : String :=
  f.category.name ++ " error: " ++ f.message

/-! ## JSON -/

/-- The failure as a record. -/
def toJson (f : Fault) : Json :=
  .object [
    ("category", .str f.category.name),
    ("retryable", .bool f.retryable),
    ("source_code", .ofOption .str f.sourceCode),
    ("message", .str f.message)]

/-- Reads a failure out of an order's raw payload.  A code or message that is no text
    counts as missing, and a missing message is empty. -/
def ofRaw? (v : Json) : Option Fault := do
  let category ← FaultClass.ofName? (← (← v.get? "category").asText?)
  let retryable ← (← v.get? "retryable").asBool?
  return {
    category := category
    retryable := retryable
    sourceCode := (v.get? "source_code").bind Json.asText?
    message := ((v.get? "message").bind Json.asText?).getD "" }

/-- A failure's members. -/
def shape : Json.Shape :=
  .ofNames 4 ["category", "retryable", "source_code", "message"]

/-- Reads a stored failure; every field but the code must be there. -/
def ofJson? (v : Json) : Option Fault := do
  let v ← shape.members? v
  let category ← FaultClass.ofName? (← v.required? Json.asWord? "category")
  let retryable ← v.required? Json.asBool? "retryable"
  let sourceCode ← v.optional? Json.asText? "source_code"
  let message ← v.required? Json.asText? "message"
  return ⟨category, retryable, sourceCode, message⟩

end Fault

end LiveTrader
