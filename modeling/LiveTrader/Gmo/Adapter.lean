import LiveTrader.Gmo.Envelope
import LiveTrader.Rest.Retry
import LiveTrader.Rest.Signature
import LiveTrader.Stream.Supervision

/-!
  LiveTrader.Gmo.Adapter

  The adapter for GMO Coin: its settings, the world it acts on, and the two kinds of
  calls.  Public calls are sent once.  Private calls are signed afresh for every
  attempt and repeated by the retry policy.  Every reply goes through the envelope.
-/

namespace LiveTrader.Gmo

/-! ## Settings -/

/-- What the adapter is configured with. -/
structure Settings where
  /-- The exchange's name, which also names the variables of its credentials. -/
  exchange : String
  /-- The kind of trading that is noted on every result. -/
  productType : ProductType
  apiBaseUrl : String
  wsUrl : String
  /-- Unless it is set every call fails without touching the network. -/
  useHttp : Bool
  retry : RetryPolicy
  requestTimeout : Span

/-- The base of REST addresses unless another is configured. -/
def defaultApiBaseUrl : String := "https://api.coin.z.com"

/-- The address of the streams unless another is configured. -/
def defaultWsUrl : String := "wss://api.coin.z.com/ws"

/-- The time that a request may take unless another is configured. -/
def defaultRequestTimeout : Span := .ofSeconds 10

/-- The settings unless others are configured. -/
def Settings.standard : Settings where
  exchange := "gmo"
  productType := .spot
  apiBaseUrl := defaultApiBaseUrl
  wsUrl := defaultWsUrl
  useHttp := false
  retry := .standard
  requestTimeout := defaultRequestTimeout

/-- Settings as a record. -/
def Settings.toJson (s : Settings) : Json :=
  .object [
    ("exchange", .str s.exchange),
    ("product_type", s.productType.toJson),
    ("api_base_url", .str s.apiBaseUrl),
    ("ws_url", .str s.wsUrl),
    ("use_http", .bool s.useHttp),
    ("request_timeout", s.requestTimeout.toJson),
    ("max_attempts", .nat s.retry.maxAttempts)]

/-! ## The world -/

/-- The private streams. -/
inductive Channel
  | orders
  | account
  deriving DecidableEq

/-- The exchange's name for a stream. -/
def Channel.name : Channel → String
  | orders => "orderEvents"
  | account => "positionSummaryEvents"

/-- What the adapter needs of the world outside, whose effects are those of `m`. -/
structure Gateway (m : Type → Type) where
  /-- Sends a request and gives the payload of the reply. -/
  send : Request → m (Except Fault Json)
  /-- Milliseconds since 1 January 1970. -/
  now : m Int
  /-- Lets time pass. -/
  sleep : Span → m Unit
  /-- Opens an authenticated connection to a stream. -/
  dial : Credentials → Channel → m Connection

/-- An adapter. -/
structure Adapter (m : Type → Type) where
  settings : Settings
  /-- The credentials, if both parts are known. -/
  credentials : Option Credentials
  gateway : Gateway m
  /-- Opens connections in place of the gateway; with it neither network access nor
      credentials are needed. -/
  feed : Option (Channel → m Connection)

namespace Adapter

variable {m : Type → Type} [Monad m]

/-- The failure of a call where network access is switched off. -/
def httpDisabled (operation : String) : Fault :=
  .invalidResponse (operation ++ "_requires_http_mode")

/-- The failure of a private call without credentials. -/
def credentialsMissing (a : Adapter m) : Fault :=
  .authFailed ("missing " ++ a.settings.exchange ++ " credentials")

/-! ## Public calls -/

/-- Asks for public data once. -/
def publicGet (a : Adapter m) (operation path : String) (query : List (String × String)) :
    m (Except Fault Json) :=
  if a.settings.useHttp then do
    let reply ← a.gateway.send ⟨.get, path, query, none, [], false⟩
    return reply.bind Envelope.unwrap
  else return .error (httpDisabled operation)

/-! ## Private calls -/

/-- A private call before it is signed. -/
structure Call where
  method : HttpMethod
  path : String
  query : List (String × String)
  /-- The text that is signed and sent. -/
  body : Option String
  deriving DecidableEq

/-- The call as a request signed at a time. -/
def Call.sign (c : Call) (credentials : Credentials) (timestamp : String) : Request :=
  let unsigned : Request := ⟨c.method, c.path, c.query, c.body, [], true⟩
  let headers := Signature.headers credentials timestamp c.method.name unsigned.pathAndQuery
    (c.body.getD "")
  { unsigned with headers := headers }

/-- One attempt of a private call, signed at the time it is made. -/
def attempt (a : Adapter m) (credentials : Credentials) (call : Call) :
    m (Except Fault Json) := do
  let now ← a.gateway.now
  let reply ← a.gateway.send (call.sign credentials (Signature.timestampText now))
  return reply.bind Envelope.unwrap

/-- Makes a private call as often as the retry policy allows. -/
def privateCall (a : Adapter m) (operation : String) (call : Call) :
    m (Except Fault Json) :=
  if a.settings.useHttp then
    match a.credentials with
    | some credentials =>
      a.settings.retry.run a.gateway.sleep fun _ => a.attempt credentials call
    | none => return .error a.credentialsMissing
  else return .error (httpDisabled operation)

end Adapter

end LiveTrader.Gmo
