import LiveTrader.Audit.Log
import LiveTrader.Gmo.Adapter
import LiveTrader.Market.Symbol
import LiveTrader.Risk.Limits
import LiveTrader.Sizing

/-!
  LiveTrader.Config.Basic

  The configuration of the runtime.
-/

namespace LiveTrader

/-- Where the runtime is deployed. -/
inductive Environment
  | test
  | development
  | production
  deriving DecidableEq

/-- The word for an environment. -/
def Environment.name : Environment → String
  | test => "test"
  | development => "development"
  | production => "production"

/-- The connection to the exchange. -/
structure ExchangeConfig where
  /-- The exchange's name, which also names the variables of its credentials. -/
  name : String
  productType : ProductType
  symbol : Symbol
  apiBaseUrl : String
  wsUrl : String
  /-- The time that a request or a connection may take. -/
  requestTimeout : Span
  /-- How often a private call is attempted. -/
  retryMaxAttempts : Nat
  /-- The wait after the first failed attempt, in seconds. -/
  retryBaseDelay : Binary64
  deriving DecidableEq

/-- What orders are sent, and how a cycle behaves. -/
structure ExecutionConfig where
  /-- Whether orders are sent at all. -/
  executeOrders : Bool
  /-- Whether the exchange is called over the network. -/
  liveHttpEnabled : Bool
  /-- Whether an order that is still active after it was read is cancelled. -/
  autoCancel : Bool
  /-- Decisions with less confidence are treated as decisions to hold. -/
  minConfidence : Binary64
  /-- The balance that is assumed where the exchange does not tell it. -/
  defaultAvailableBalance : Decimal
  /-- How long a stream is waited for. -/
  streamProbeTimeout : Span
  deriving DecidableEq

/-- The timing of the supervising loop. -/
structure SupervisorConfig where
  /-- The wait after a cycle. -/
  interval : Span
  /-- The wait after a failed cycle. -/
  reconnectWait : Span
  /-- After more failed cycles than this the loop gives up. -/
  maxReconnectRetries : Nat
  deriving DecidableEq

/-- The address of the listener for health and metrics. -/
structure ListenerConfig where
  host : String
  port : Nat
  deriving DecidableEq

/-- Places of files. -/
structure PathsConfig where
  /-- The directory of the progress file. -/
  artifactsDir : String
  /-- The directory of the audit log. -/
  logsDir : String
  /-- The document that the strategy writes. -/
  cycleInputs : String
  deriving DecidableEq

/-- The configuration of the runtime. -/
structure Config where
  environment : Environment
  exchange : ExchangeConfig
  execution : ExecutionConfig
  risk : RiskLimits
  sizing : SizingParams
  supervisor : SupervisorConfig
  listener : ListenerConfig
  paths : PathsConfig
  audit : RotationPolicy
  deriving DecidableEq

/-! ## Standard values -/

/-- The exchange unless another is configured. -/
def ExchangeConfig.standard : ExchangeConfig where
  name := "gmo"
  productType := .spot
  symbol := .standard
  apiBaseUrl := Gmo.defaultApiBaseUrl
  wsUrl := Gmo.defaultWsUrl
  requestTimeout := .ofSeconds 10
  retryMaxAttempts := 3
  retryBaseDelay := .zero

/-- Execution unless it is configured: no orders, no network. -/
def ExecutionConfig.standard : ExecutionConfig where
  executeOrders := false
  liveHttpEnabled := false
  autoCancel := true
  minConfidence := .nearest false 55 100
  defaultAvailableBalance := .small 10000 0
  streamProbeTimeout := .ofSeconds 5

namespace Config

/-- The configuration where no variable is set. -/
def standard : Config where
  environment := .development
  exchange := .standard
  execution := .standard
  risk := .standard
  sizing := .standard
  supervisor := ⟨.ofSeconds 60, .ofSeconds 5, 3⟩
  listener := ⟨"0.0.0.0", 9754⟩
  paths := ⟨"./var/artifacts", "./var/logs", "./var/artifacts/cycle_inputs.json"⟩
  audit := .standard

/-- A configuration for dry runs: orders are sent, waits are short, and the listener takes
    any free port. -/
def dryRun : Config :=
  { standard with
    environment := .test
    execution := { ExecutionConfig.standard with
      executeOrders := true
      liveHttpEnabled := true
      streamProbeTimeout := .ofMillis 50 }
    supervisor := ⟨.ofSeconds 1, .ofMillis 10, 3⟩
    listener := ⟨"127.0.0.1", 0⟩ }

/-! ## The adapter's part -/

/-- The settings of the adapter.  There are none for a base delay that a span cannot
    hold. -/
def gmoSettings? (c : Config) : Option Gmo.Settings :=
  (RetryPolicy.ofFloatSeconds? c.exchange.retryMaxAttempts c.exchange.retryBaseDelay).map
    fun retry => {
      exchange := c.exchange.name
      productType := c.exchange.productType
      apiBaseUrl := c.exchange.apiBaseUrl
      wsUrl := c.exchange.wsUrl
      useHttp := c.execution.liveHttpEnabled
      retry := retry
      requestTimeout := c.exchange.requestTimeout }

/-! ## JSON -/

/-- The connection to the exchange as a record. -/
def exchangeJson (e : ExchangeConfig) : Json :=
  .object [
    ("name", .str e.name),
    ("product_type", e.productType.toJson),
    ("symbol", .str e.symbol.text),
    ("api_base_url", .str e.apiBaseUrl),
    ("ws_url", .str e.wsUrl),
    ("request_timeout", e.requestTimeout.toJson),
    ("private_retry_max_attempts", .nat e.retryMaxAttempts),
    ("private_retry_base_delay_secs", .float e.retryBaseDelay)]

/-- Execution as a record. -/
def executionJson (e : ExecutionConfig) : Json :=
  .object [
    ("execute_orders", .bool e.executeOrders),
    ("live_http_enabled", .bool e.liveHttpEnabled),
    ("live_order_auto_cancel", .bool e.autoCancel),
    ("min_confidence", .float e.minConfidence),
    ("default_available_balance", e.defaultAvailableBalance.toJson),
    ("stream_probe_timeout", e.streamProbeTimeout.toJson)]

/-- The configuration as a record. -/
def toJson (c : Config) : Json :=
  .object [
    ("environment", .str c.environment.name),
    ("exchange", exchangeJson c.exchange),
    ("execution", executionJson c.execution),
    ("risk", c.risk.toJson),
    ("sizing", c.sizing.toJson),
    ("supervisor", .object [
      ("interval", c.supervisor.interval.toJson),
      ("reconnect_wait", c.supervisor.reconnectWait.toJson),
      ("max_reconnect_retries", .nat c.supervisor.maxReconnectRetries)]),
    ("api", .object [("host", .str c.listener.host), ("port", .nat c.listener.port)]),
    ("paths", .object [
      ("artifacts_dir", .str c.paths.artifactsDir),
      ("logs_dir", .str c.paths.logsDir),
      ("cycle_inputs", .str c.paths.cycleInputs)]),
    ("audit", .object [
      ("max_bytes", .nat c.audit.maxBytes),
      ("retention", .nat c.audit.retention)])]

end Config

end LiveTrader
