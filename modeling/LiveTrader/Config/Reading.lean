import LiveTrader.Binary64.Reading
import LiveTrader.Config.Basic
import LiveTrader.RunError

/-!
  LiveTrader.Config.Reading

  Reading the configuration from variables.  Blanks around a value do not count, and a
  blank value is no value.  The first value that cannot be read is reported.
-/

namespace LiveTrader.Config

/-! ## Variables -/

/-- The value of a variable without the blanks around it, unless nothing is left. -/
def value? (lookup : Lookup) (key : String) : Option String :=
  ((lookup key).map Text.trim).filter fun v => v != ""

/-- A text, or a default. -/
def textOr (lookup : Lookup) (key default : String) : String :=
  (value? lookup key).getD default

/-- The error for a value that cannot be read. -/
def unreadable (key value : String) : RunError :=
  .config ("Invalid " ++ key ++ " value: " ++ value)

/-- A value that `parse?` reads, or a default. -/
def readOr {α : Type} (parse? : List Char → Option α) (lookup : Lookup) (key : String)
    (default : α) : Except RunError α :=
  match value? lookup key with
  | none => .ok default
  | some v =>
    match parse? v.toList with
    | some a => .ok a
    | none => .error (unreadable key v)

/-- A whole number below a bound, or a default. -/
def natOr (bound : Nat) : Lookup → String → Nat → Except RunError Nat :=
  readOr (Text.unsignedBelow? bound)

/-- A number of seconds of 64 bits, or a default. -/
def secondsOr (lookup : Lookup) (key : String) (default : Nat) : Except RunError Span :=
  (natOr (pow2 64) lookup key default).map .ofSeconds

/-- A floating-point number, or a default. -/
def floatOr : Lookup → String → Binary64 → Except RunError Binary64 :=
  readOr Binary64.ofChars?

/-- A decimal in plain or scientific notation, or a default. -/
def decimalOr : Lookup → String → Decimal → Except RunError Decimal :=
  readOr Decimal.ofChars?

/-- The flag that a word stands for. -/
def flag? (word : List Char) : Option Bool :=
  let word := Text.lower (String.ofList word)
  if ["1", "true", "yes", "on"].contains word then some true
  else if ["0", "false", "no", "off"].contains word then some false
  else none

/-- A flag, or a default. -/
def flagOr : Lookup → String → Bool → Except RunError Bool :=
  readOr flag?

/-- Makes a failure of the domain one of the runtime. -/
def ofValue {α : Type} (e : Except ValueError α) : Except RunError α :=
  e.mapError .value

/-! ## Sections -/

/-- The environment that a word names. -/
def environmentSection (lookup : Lookup) : Except RunError Environment :=
  let word := Text.lower (textOr lookup "BTCBOT_ENV" "development")
  if word = "test" then .ok .test
  else if word = "development" ∨ word = "dev" then .ok .development
  else if word = "production" ∨ word = "prod" then .ok .production
  else .error (.config
    ("Invalid BTCBOT_ENV: " ++ word ++ ". Expected: test, development, production"))

/-- The connection to the exchange. -/
def exchangeSection (lookup : Lookup) : Except RunError ExchangeConfig := do
  let standard := ExchangeConfig.standard
  let productType ← ofValue (ProductType.parse (textOr lookup "BTCBOT_PRODUCT_TYPE" "spot"))
  let symbol ← ofValue (Symbol.of (textOr lookup "BTCBOT_SYMBOL" standard.symbol.text))
  let requestTimeout ← secondsOr lookup "BTCBOT_REQUEST_TIMEOUT_SECS" 10
  let attempts ←
    natOr (pow2 32) lookup "BTCBOT_PRIVATE_RETRY_MAX_ATTEMPTS" standard.retryMaxAttempts
  let delay ← floatOr lookup "BTCBOT_PRIVATE_RETRY_BASE_DELAY_SECS" standard.retryBaseDelay
  return {
    name := Text.lower (textOr lookup "BTCBOT_EXCHANGE" standard.name)
    productType := productType
    symbol := symbol
    apiBaseUrl := textOr lookup "BTCBOT_API_BASE_URL" standard.apiBaseUrl
    wsUrl := textOr lookup "BTCBOT_WS_URL" standard.wsUrl
    requestTimeout := requestTimeout
    retryMaxAttempts := attempts
    retryBaseDelay := delay }

/-- Execution. -/
def executionSection (lookup : Lookup) : Except RunError ExecutionConfig := do
  let standard := ExecutionConfig.standard
  let probe ← secondsOr lookup "BTCBOT_STREAM_PROBE_TIMEOUT_SECS" 5
  let orders ← flagOr lookup "BTCBOT_EXECUTE_ORDERS" standard.executeOrders
  let http ← flagOr lookup "BTCBOT_LIVE_HTTP_ENABLED" standard.liveHttpEnabled
  let cancel ← flagOr lookup "BTCBOT_LIVE_ORDER_AUTO_CANCEL" standard.autoCancel
  let confidence ← floatOr lookup "BTCBOT_MIN_CONFIDENCE" standard.minConfidence
  let balance ←
    decimalOr lookup "BTCBOT_DEFAULT_AVAILABLE_BALANCE" standard.defaultAvailableBalance
  return {
    executeOrders := orders
    liveHttpEnabled := http
    autoCancel := cancel
    minConfidence := confidence
    defaultAvailableBalance := balance
    streamProbeTimeout := probe }

/-- The ceilings of the risk guard. -/
def riskSection (lookup : Lookup) : Except RunError RiskLimits := do
  let standard := RiskLimits.standard
  return {
    maxDrawdown := ← decimalOr lookup "BTCBOT_MAX_DRAWDOWN" standard.maxDrawdown
    dailyLossLimit := ← decimalOr lookup "BTCBOT_DAILY_LOSS_LIMIT" standard.dailyLossLimit
    maxPositionSize := ← decimalOr lookup "BTCBOT_MAX_POSITION_SIZE" standard.maxPositionSize
    maxTradeLoss := ← decimalOr lookup "BTCBOT_MAX_TRADE_LOSS" standard.maxTradeLoss
    maxLeverage := ← decimalOr lookup "BTCBOT_MAX_LEVERAGE" standard.maxLeverage
    maxWalletDrift := ← decimalOr lookup "BTCBOT_MAX_WALLET_DRIFT" standard.maxWalletDrift }

/-- The sizer's parameters; its notional cap is that of the risk guard. -/
def sizingSection (risk : RiskLimits) (lookup : Lookup) : Except RunError SizingParams := do
  let standard := SizingParams.standard
  return {
    maxPositionSize := risk.maxPositionSize
    positionRiskFraction :=
      ← decimalOr lookup "BTCBOT_POSITION_RISK_FRACTION" standard.positionRiskFraction
    minOrderQty := ← decimalOr lookup "BTCBOT_MIN_ORDER_QTY" standard.minOrderQty
    qtyStep := ← decimalOr lookup "BTCBOT_QTY_STEP" standard.qtyStep }

/-- The timing of the loop. -/
def supervisorSection (lookup : Lookup) : Except RunError SupervisorConfig := do
  return {
    interval := ← secondsOr lookup "LIVE_LOOP_INTERVAL_SECONDS" 60
    reconnectWait := ← secondsOr lookup "LIVE_RECONNECT_WAIT_SECONDS" 5
    maxReconnectRetries := ← natOr (pow2 32) lookup "LIVE_MAX_RECONNECT_RETRIES" 3 }

/-- The listener's address. -/
def listenerSection (lookup : Lookup) : Except RunError ListenerConfig := do
  return {
    host := textOr lookup "HEALTH_HOST" Config.standard.listener.host
    port := ← natOr (pow2 16) lookup "HEALTH_PORT" Config.standard.listener.port }

/-- Places of files. -/
def pathsSection (lookup : Lookup) : PathsConfig where
  artifactsDir := textOr lookup "ARTIFACTS_DIR" Config.standard.paths.artifactsDir
  logsDir := textOr lookup "LOGS_DIR" Config.standard.paths.logsDir
  cycleInputs := textOr lookup "CYCLE_INPUTS_PATH" Config.standard.paths.cycleInputs

/-- The rotation of the audit log. -/
def auditSection (lookup : Lookup) : Except RunError RotationPolicy := do
  return {
    maxBytes := ← natOr (pow2 64) lookup "AUDIT_LOG_MAX_BYTES" RotationPolicy.standard.maxBytes
    retention := ← natOr (pow2 64) lookup "AUDIT_LOG_RETENTION" RotationPolicy.standard.retention }

/-! ## The whole -/

/-- Fails with a complaint unless a condition holds. -/
def require (holds : Bool) (complaint : String) : Except RunError Unit :=
  if holds then .ok () else .error (.config complaint)

/-- Whether a number is finite and not below zero. -/
def isDelay (x : Binary64) : Bool :=
  x.isFinite && !x.lt .zero

/-- Whether a number is between zero and one. -/
def isFraction (x : Binary64) : Bool :=
  Binary64.zero.le x && x.le .one

/-- Checks what no single value shows. -/
def validate (c : Config) : Except RunError Unit := do
  require (1 ≤ c.exchange.retryMaxAttempts) "BTCBOT_PRIVATE_RETRY_MAX_ATTEMPTS must be >= 1"
  require (isDelay c.exchange.retryBaseDelay)
    ("BTCBOT_PRIVATE_RETRY_BASE_DELAY_SECS must be >= 0, got "
      ++ c.exchange.retryBaseDelay.toText .message)
  require (!c.sizing.qtyStep.isNegative) "BTCBOT_QTY_STEP must be >= 0"
  require (isFraction c.execution.minConfidence)
    ("BTCBOT_MIN_CONFIDENCE must be within [0, 1], got "
      ++ c.execution.minConfidence.toText .message)
  require (c.exchange.requestTimeout != .zero) "BTCBOT_REQUEST_TIMEOUT_SECS must be > 0"
  ofValue c.risk.validate

/-- The configuration that variables hold, unchecked. -/
def sections (lookup : Lookup) : Except RunError Config := do
  let environment ← environmentSection lookup
  let exchange ← exchangeSection lookup
  let execution ← executionSection lookup
  let risk ← riskSection lookup
  let sizing ← sizingSection risk lookup
  let supervisor ← supervisorSection lookup
  let listener ← listenerSection lookup
  let audit ← auditSection lookup
  return {
    environment := environment
    exchange := exchange
    execution := execution
    risk := risk
    sizing := sizing
    supervisor := supervisor
    listener := listener
    paths := pathsSection lookup
    audit := audit }

/-- The configuration that variables hold. -/
def ofLookup (lookup : Lookup) : Except RunError Config := do
  let config ← sections lookup
  config.validate
  return config

end LiveTrader.Config
