import Std.Async.Signal
import LiveTrader.Config.Startup
import LiveTrader.Gmo.Streams
import LiveTrader.Host.Files
import LiveTrader.Host.Server
import LiveTrader.Supervisor.Loop

/-!
  LiveTrader.Main

  The process: it reads its configuration, checks it, and runs the loop until a signal
  comes or too many cycles have failed.  It has no transport to the exchange, so that every
  request fails as one that could not be sent.
-/

namespace LiveTrader.Host

/-! ## Exchange -/

/-- The failure of whatever needs a transport. -/
def unreachable : Fault :=
  .classify (some SourceCode.connectionError) "no transport"

/-- Waits. -/
def sleep (time : Span) : IO Unit := IO.sleep (UInt32.ofNat time.wholeMillis)

/-- A gateway without a transport. -/
def offline : Gmo.Gateway IO where
  send _ := return .error unreachable
  now := return (← now).toMillis
  sleep := sleep
  dial _ _ := return [.error (.io "no transport")]

/-! ## World -/

/-- What the process keeps. -/
structure Process where
  config : Config
  exchange : Exchange IO
  journal : IO.Ref Journal
  metrics : IO.Ref Metrics
  /-- Whether a signal has come or the loop has ended. -/
  stopped : IO.Ref Bool

/-- What the cycles act on. -/
def Process.surroundings (p : Process) : Surroundings IO where
  exchange := p.exchange
  inputs := readInputs p.config.paths.cycleInputs
  freshRunId := freshId
  freshOrderId symbol := return .generate symbol (← now) (← randomBytes 4)
  audit eventType payload :=
    attempt (appendEvent p.config.paths.logsDir p.config.audit eventType payload)
  progress report := attempt (writeProgress p.config.paths.artifactsDir report)

/-- The journal of the process. -/
def Process.journalAccess (p : Process) : JournalAccess IO :=
  Journal.access.lift fun act => p.journal.modifyGet act

/-- Runs a cycle. -/
def Process.runCycle (p : Process) (reconnectCount : Nat) :
    IO (Except CycleFailure MonitorStatus) := do
  let result ← (Cycle.run p.surroundings p.journalAccess p.config reconnectCount).run
  return result.map CycleReport.monitorStatus

/-- Waits in short steps, and tells whether no signal has come. -/
partial def Process.wait (p : Process) (millis : Nat) : IO Bool := do
  if ← p.stopped.get then return false
  else if millis = 0 then return true
  else
    let step := Nat.min millis 50
    IO.sleep (UInt32.ofNat step)
    p.wait (millis - step)

/-- What the loop acts on. -/
def Process.world (p : Process) : LoopSurroundings IO where
  isStopped := p.stopped.get
  runCycle := p.runCycle
  wait time := p.wait time.wholeMillis
  progress := p.surroundings.progress
  publish := p.metrics.set
  stop := p.stopped.set true

/-- Turns the loop until it ends. -/
partial def Process.loop (p : Process) (validation : Json) (s : Supervisor.LoopState) :
    IO Supervisor.LoopOutcome := do
  match ← Supervisor.turn p.world p.config.supervisor s with
  | .next s => p.loop validation s
  | .last ending s => Supervisor.finish p.world (some validation) ending s

/-! ## Start -/

/-- Stops the process when one of these signals comes. -/
def onSignals (stopped : IO.Ref Bool) (signals : List Std.Async.Signal) : IO Unit :=
  signals.forM fun signal => do
    let waiter ← Std.Async.Signal.Waiter.mk signal false
    let task ← waiter.wait
    let _ ← IO.mapTask (fun _ => stopped.set true) task

/-- Does something, and gives up if it fails. -/
def orFail {α : Type} (act : IO (Except RunError α)) : ExceptT RunError IO α :=
  ExceptT.mk act

/-- Notes and reports what the checks before the start have found, and fails if they forbid
    it. -/
def checkStart (p : Process) (report : StartupReport) : ExceptT RunError IO Unit := do
  let found := report.toJson
  let tell := fun status reason monitor =>
    p.surroundings.progress ⟨status, some reason, monitor, 0, some found⟩
  orFail (p.surroundings.audit AuditEvent.startupValidation found)
  match report.fatalErrors.head?, report.warnings.head? with
  | some reason, _ =>
    orFail (tell ProgressStatus.failed reason .degraded)
    orFail (pure report.ensureOk)
  | none, some reason => orFail (tell ProgressStatus.running reason .active)
  | none, none => return ()

/-- Runs the process to its end. -/
def start : ExceptT RunError IO Nat := do
  let first ← readVariables variableNames
  let config ← orFail (pure (Config.ofLookup first))
  let lookup ← readVariables (requiredVariables config.exchange.name)
  match config.gmoSettings? with
  | none => throw (.config "the base delay is too long")
  | some settings =>
    let adapter : Gmo.Adapter IO :=
      ⟨settings, Credentials.ofLookup? settings.exchange lookup, offline, none⟩
    let p : Process := {
      config := config
      exchange := adapter.operations
      journal := ← IO.mkRef (.empty Journal.defaultCapacity)
      metrics := ← IO.mkRef .start
      stopped := ← IO.mkRef false }
    let report := checkStartup config lookup
    checkStart p report
    let state := do return (← p.stopped.get, ← p.metrics.get)
    orFail (startListener config.listener.host config.listener.port state)
    onSignals p.stopped [.sigint, .sigterm]
    let outcome ← p.loop report.toJson .start
    return outcome.ending.exitCode

end LiveTrader.Host

/-- Runs the process.  An error is told in one line. -/
def main : IO UInt32 := do
  match ← LiveTrader.Host.start.run with
  | .ok code => return UInt32.ofNat code
  | .error e =>
    IO.eprintln ("Error: " ++ e.message)
    return 1
