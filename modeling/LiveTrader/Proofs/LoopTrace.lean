import Mathlib.Tactic.Simps.Basic
import LiveTrader.Proofs.Trace
import LiveTrader.Supervisor.Loop

/-!
  LiveTrader.Proofs.LoopTrace

  Environments of the supervising loop, and what it does to them as a trace.  A request to
  stop may come before the loop, in a cycle, in a report or in a wait, and stays.  If a wait
  is over when a request is there, either may be noticed first; a wait that no request cuts
  short takes its time.
-/

namespace LiveTrader

/-! ## Environments -/

/-- What happens to a loop, with a state in `σ`.  Beside its result each operation tells
    whether the loop was asked to stop meanwhile. -/
structure LoopEnvironment (σ : Type) where
  /-- Runs a cycle after this many failed ones. -/
  cycle : Nat → StateM σ (Except RunError MonitorStatus × Bool)
  progress : Progress → StateM σ (Except RunError Unit × Bool)
  publish : Metrics → StateM σ Unit
  /-- Lets time pass.  The result is what is noticed first where both are there, the end of
      the time or the request. -/
  wait : Span → StateM σ (Bool × Bool)

/-- An environment's state, and whether the loop was asked to stop. -/
structure LoopWorld (σ : Type) where
  isStopped : Bool
  inner : σ

/-- One thing that the loop does. -/
inductive LoopEvent
  | cycle (failures : Nat) (outcome : Except RunError MonitorStatus) (asked : Bool)
  | report (progress : Progress) (asked : Bool)
  | publish (metrics : Metrics)
  | wait (time : Span) (passed asked : Bool)
  | stop

namespace LoopWorld

variable {σ α : Type}

/-- Lets the environment act, and keeps its request to stop. -/
def notice (act : StateM σ (α × Bool)) : StateM (LoopWorld σ) (α × Bool) := fun w =>
  let (r, inner) := act w.inner
  (r, ⟨w.isStopped || r.2, inner⟩)

/-- Waits for the end of the time or a request to stop. -/
def wait (act : StateM σ (Bool × Bool)) : StateM (LoopWorld σ) (Bool × Bool) := fun w =>
  let (r, w) := notice act w
  ((!w.isStopped || r.1, r.2), w)

/-- Lets the environment act where it does not ask to stop. -/
def onInner (act : StateM σ α) : StateM (LoopWorld σ) α := fun w =>
  let (a, inner) := act w.inner
  (a, { w with inner := inner })

/-- Whether the loop was asked to stop. -/
def askIsStopped : StateM (LoopWorld σ) Bool := fun w => (w.isStopped, w)

/-- Asks the loop to stop. -/
def setStopped : StateM (LoopWorld σ) Unit := fun w => ((), { w with isStopped := true })

end LoopWorld

variable {σ : Type}

/-- The surroundings that an environment makes, where `call` makes its operations those of
    `m` and may tell the events. -/
@[simps] def LoopEnvironment.surroundings {m : Type → Type} [Monad m] (e : LoopEnvironment σ)
    (call : {α : Type} → StateM (LoopWorld σ) α → (α → List LoopEvent) → m α) :
    LoopSurroundings m where
  isStopped := call LoopWorld.askIsStopped fun _ => []
  runCycle failures := do
    let r ← call (LoopWorld.notice (e.cycle failures)) fun r => [.cycle failures r.1 r.2]
    return r.1.mapError CycleFailure.error
  wait time := do
    let r ← call (LoopWorld.wait (e.wait time)) fun r => [.wait time r.1 r.2]
    return r.1
  progress p := do
    let r ← call (LoopWorld.notice (e.progress p)) fun r => [.report p r.2]
    return r.1
  publish metrics := call (LoopWorld.onInner (e.publish metrics)) fun _ => [.publish metrics]
  stop := call LoopWorld.setStopped fun _ => [.stop]

/-- The surroundings without a trace. -/
abbrev LoopEnvironment.plain (e : LoopEnvironment σ) : LoopSurroundings (StateM (LoopWorld σ)) :=
  e.surroundings fun act _ => act

/-- The surroundings with a trace. -/
abbrev LoopEnvironment.traced (e : LoopEnvironment σ) :
    LoopSurroundings (Tracing LoopEvent (LoopWorld σ)) :=
  e.surroundings Tracing.call

/-! ## Events -/

namespace LoopEvent

/-- Whether the loop was asked to stop meanwhile. -/
def asks : LoopEvent → Bool
  | cycle _ _ asked | report _ asked | wait _ _ asked => asked
  | publish _ => false
  | stop => true

/-- A cycle was started. -/
def isCycle : LoopEvent → Bool
  | cycle .. => true
  | _ => false

/-- A cycle has failed. -/
def isFailure : LoopEvent → Bool
  | cycle _ (.error _) _ => true
  | _ => false

/-- The metrics that were shown. -/
def published? : LoopEvent → Option Metrics
  | publish metrics => some metrics
  | _ => none

/-- What was reported. -/
def reported? : LoopEvent → Option Progress
  | report p _ => some p
  | _ => none

end LoopEvent

end LiveTrader
