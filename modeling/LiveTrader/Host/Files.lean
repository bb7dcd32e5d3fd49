import Std.Time.DateTime.Timestamp
import LiveTrader.Audit.Directory
import LiveTrader.Config.DotEnv
import LiveTrader.Config.Reading
import LiveTrader.CycleInputs
import LiveTrader.Progress
import LiveTrader.Text.Uuid

/-!
  LiveTrader.Host.Files

  The clock, ids, variables and files of the process.
-/

namespace LiveTrader.Host

/-! ## Clock and ids -/

/-- The present time. -/
def now : IO Instant := do
  let t ← Std.Time.Timestamp.now
  let nanos := t.toNanosecondsSinceUnixEpoch.val
  return ⟨nanos / 1000000000, (nanos % 1000000000).toNat⟩

/-- Random bytes. -/
def randomBytes (count : Nat) : IO (List UInt8) := do
  return (← IO.getRandomBytes (USize.ofNat count)).toList

/-- A unique id. -/
def freshId : IO String := do
  return Text.uuid (← now).toMillis.toNat (← randomBytes 10)

/-! ## Failures -/

/-- The runtime's view of a failure. -/
def ofIO (e : IO.Error) : RunError := .io (toString e)

/-- Does something with files, whose failures are those of the runtime. -/
def attempt (act : IO Unit) : IO (Except RunError Unit) := do
  try
    act
    return .ok ()
  catch e => return .error (ofIO e)

/-- The bytes of a file, unless there is none. -/
def read? (path : String) : IO (Option (List UInt8)) := do
  try return some (← IO.FS.readBinFile path).toList
  catch e =>
    match e with
    | .noFileOrDirectory .. => return none
    | e => throw e

/-- A file in a directory. -/
def within (dir name : String) : String := dir ++ "/" ++ name

/-! ## Variables -/

/-- The names of the variables that the configuration reads. -/
def variableNames : List String := [
  "BTCBOT_ENV", "BTCBOT_PRODUCT_TYPE", "BTCBOT_SYMBOL", "BTCBOT_REQUEST_TIMEOUT_SECS",
  "BTCBOT_EXCHANGE", "BTCBOT_API_BASE_URL", "BTCBOT_WS_URL",
  "BTCBOT_PRIVATE_RETRY_MAX_ATTEMPTS", "BTCBOT_PRIVATE_RETRY_BASE_DELAY_SECS",
  "BTCBOT_STREAM_PROBE_TIMEOUT_SECS", "BTCBOT_EXECUTE_ORDERS", "BTCBOT_LIVE_HTTP_ENABLED",
  "BTCBOT_LIVE_ORDER_AUTO_CANCEL", "BTCBOT_MIN_CONFIDENCE",
  "BTCBOT_DEFAULT_AVAILABLE_BALANCE", "BTCBOT_MAX_DRAWDOWN", "BTCBOT_DAILY_LOSS_LIMIT",
  "BTCBOT_MAX_POSITION_SIZE", "BTCBOT_MAX_TRADE_LOSS", "BTCBOT_MAX_LEVERAGE",
  "BTCBOT_MAX_WALLET_DRIFT", "BTCBOT_POSITION_RISK_FRACTION", "BTCBOT_MIN_ORDER_QTY",
  "BTCBOT_QTY_STEP", "LIVE_LOOP_INTERVAL_SECONDS", "LIVE_RECONNECT_WAIT_SECONDS",
  "LIVE_MAX_RECONNECT_RETRIES", "HEALTH_HOST", "HEALTH_PORT", "ARTIFACTS_DIR", "LOGS_DIR",
  "CYCLE_INPUTS_PATH", "AUDIT_LOG_MAX_BYTES", "AUDIT_LOG_RETENTION"]

/-- The variables with these names: those of the process, and those of the file of variables
    that the process does not have. -/
def readVariables (names : List String) : IO Lookup := do
  let own ← names.filterMapM fun name => do
    return (← IO.getEnv name).map fun value => (name, value)
  let file ← try read? ".env" catch _ => pure none
  let lines := (Text.decodeLossy (file.getD [])).splitOn "\n"
  return .ofList (own ++ DotEnv.assignments (lines.map String.toList))

/-! ## Files -/

/-- Makes a move of a rotation; a file that does not exist is passed over. -/
def makeMove (dir : String) (move : AuditLog.Move) : IO Unit := do
  try
    match move with
    | .remove name => IO.FS.removeFile (within dir name)
    | .rename name newName => IO.FS.rename (within dir name) (within dir newName)
  catch e =>
    match e with
    | .noFileOrDirectory .. => return ()
    | e => throw e

/-- Writes bytes at the end of a file, which is created if there is none. -/
def extendFile (path : String) (bytes : List UInt8) : IO Unit := do
  let file ← IO.FS.Handle.mk path .append
  file.write ⟨bytes.toArray⟩
  file.flush

/-- The operations on the files of a directory. -/
def fileOperations (dir : String) : FileOperations IO where
  read? name := read? (within dir name)
  move := makeMove dir
  extend name := extendFile (within dir name)

/-- Appends an event to the audit log of a directory. -/
def appendEvent (dir : String) (policy : RotationPolicy) (eventType : String)
    (payload : Json) : IO Unit := do
  let line := (AuditRecord.of (← freshId) (← now) eventType payload).line
  IO.FS.createDirAll dir
  AuditLog.appendTo (fileOperations dir) policy line

/-- Puts a report of progress in place of the last one.  The file is written under another
    name first, so that a reader never sees a part of it. -/
def writeProgress (dir : String) (p : Progress) : IO Unit := do
  let record := ProgressRecord.live (← now) p
  IO.FS.createDirAll dir
  let path := within dir progressFileName
  IO.FS.writeBinFile (path ++ ".tmp") ⟨record.bytes.toArray⟩
  IO.FS.rename (path ++ ".tmp") path

/-- The inputs that the strategy has left. -/
def readInputs (path : String) : IO (Except RunError CycleInputs) := do
  try
    match ← read? path with
    | none => return CycleInputs.ofSource path .missing
    | some bytes => return CycleInputs.ofSource path (.file bytes)
  catch e => return CycleInputs.ofSource path (.unreadable (toString e))

end LiveTrader.Host
