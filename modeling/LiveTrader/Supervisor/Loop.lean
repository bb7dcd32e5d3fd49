import LiveTrader.Cycle.Run
import LiveTrader.Metrics

/-!
  LiveTrader.Supervisor.Loop

  The loop around the cycles.  After a cycle it waits for an interval; after a failed one it
  waits for a shorter time, and after too many failed ones it gives up.  A request to stop
  is seen before each cycle and during each wait, never within a cycle.  A cycle that leaves
  the range of decimals brings the process down.
-/

namespace LiveTrader

/-! ## The world -/

/-- What the loop acts on, with effects of `m`. -/
structure LoopSurroundings (m : Type → Type) where
  /-- Whether the loop was asked to stop. -/
  isStopped : m Bool
  /-- Runs a cycle after this many failed ones, and tells the health it ended with. -/
  runCycle : Nat → m (Except CycleFailure MonitorStatus)
  /-- Waits, and tells whether all of the time has passed without a request to stop. -/
  wait : Span → m Bool
  /-- Reports progress. -/
  progress : Progress → m (Except RunError Unit)
  /-- Shows the metrics. -/
  publish : Metrics → m Unit
  /-- Asks everything to stop. -/
  stop : m Unit

/-! ## States -/

namespace Supervisor

/-- How the loop has ended. -/
inductive Ending
  /-- It was asked to stop. -/
  | stopped
  /-- Too many cycles have failed. -/
  | gaveUp
  /-- A cycle has brought the process down. -/
  | crashed
  deriving DecidableEq

/-- What the process ends with. -/
def Ending.exitCode : Ending → Nat
  | stopped => 0
  | gaveUp => 1
  | crashed => 101

/-- The status and the reason of the last report, which a crash does not leave. -/
def Ending.words? : Ending → Option (String × String)
  | stopped => some (ProgressStatus.degraded, "shutdown_signal")
  | gaveUp => some (ProgressStatus.failed, "runtime_exception")
  | crashed => none

/-- The state of the loop. -/
structure LoopState where
  /-- How many cycles have failed. -/
  failures : Nat
  metrics : Metrics
  deriving DecidableEq

/-- The state at the start. -/
def LoopState.start : LoopState := ⟨0, .start⟩

/-- The state when a cycle begins. -/
def LoopState.beginCycle (s : LoopState) : LoopState := { s with metrics := s.metrics.countLoop }

/-- The state with another health. -/
def LoopState.withStatus (status : MonitorStatus) (s : LoopState) : LoopState :=
  { s with metrics := s.metrics.withStatus status }

/-- The state after a failed cycle. -/
def LoopState.failCycle (s : LoopState) : LoopState :=
  ⟨s.failures + 1, s.metrics.countFailure.withStatus .reconnecting⟩

/-- What follows a turn of the loop. -/
inductive Turn
  | next (state : LoopState)
  | last (ending : Ending) (state : LoopState)
  deriving DecidableEq

variable {m : Type → Type} [Monad m]

/-- Shows the health of a state, and reports it. -/
def announce (world : LoopSurroundings m) (s : LoopState) (status : String)
    (lastError : Option String) (validation : Option Json) : m Unit := do
  world.publish s.metrics
  let _ ← world.progress ⟨status, lastError, s.metrics.status, s.failures, validation⟩

/-- Waits, and goes on unless the wait was cut short. -/
def pause (world : LoopSurroundings m) (time : Span) (s : LoopState) : m Turn := do
  if ← world.wait time then return .next s
  else return .last .stopped s

/-- What follows a failed cycle. -/
def recover (world : LoopSurroundings m) (settings : SupervisorConfig) (cause : RunError)
    (s : LoopState) : m Turn := do
  let s := s.failCycle
  announce world s ProgressStatus.degraded (some "reconnecting_after_error") none
  if settings.maxReconnectRetries < s.failures then do
    let s := s.withStatus .degraded
    announce world s ProgressStatus.failed (some cause.message) none
    return .last .gaveUp s
  else pause world settings.reconnectWait s

/-- Runs a cycle unless the loop was asked to stop. -/
def turn (world : LoopSurroundings m) (settings : SupervisorConfig) (s : LoopState) :
    m Turn := do
  if ← world.isStopped then return .last .stopped s
  else do
    let s := s.beginCycle
    world.publish s.metrics
    match ← world.runCycle s.failures with
    | .ok status =>
      let s := s.withStatus status
      announce world s ProgressStatus.running none none
      pause world settings.interval s
    | .error (.error cause) => recover world settings cause s
    | .error .sizeOverflow => return .last .crashed s

/-! ## The whole loop -/

/-- How the loop has ended, and its last state. -/
structure LoopOutcome where
  ending : Ending
  state : LoopState
  deriving DecidableEq

/-- Ends the loop.  The last report has what the checks before the start have found. -/
def finish (world : LoopSurroundings m) (validation : Option Json) (ending : Ending)
    (s : LoopState) : m LoopOutcome :=
  match ending.words? with
  | none => return ⟨ending, s⟩
  | some (status, reason) => do
    let s := s.withStatus .degraded
    announce world s status (some reason) validation
    world.stop
    return ⟨ending, s⟩

/-- Turns the loop at most `turns` times from a state; there is no outcome if it goes on
    after them. -/
def turnsFrom (world : LoopSurroundings m) (settings : SupervisorConfig)
    (validation : Option Json) : (turns : Nat) → LoopState → m (Option LoopOutcome)
  | 0, _ => return none
  | turns + 1, s => do
    match ← turn world settings s with
    | .next s => turnsFrom world settings validation turns s
    | .last ending s => some <$> finish world validation ending s

/-- Runs the loop for at most `turns` turns. -/
def run (world : LoopSurroundings m) (settings : SupervisorConfig) (validation : Option Json)
    (turns : Nat) : m (Option LoopOutcome) :=
  turnsFrom world settings validation turns .start

end Supervisor

end LiveTrader
