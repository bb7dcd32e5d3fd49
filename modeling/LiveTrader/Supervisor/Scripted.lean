import LiveTrader.Supervisor.Loop

/-!
  LiveTrader.Supervisor.Scripted

  Surroundings of the loop for dry runs: time is a number that grows in waits and cycles,
  and a request to stop comes at a time that is known before.
-/

namespace LiveTrader

/-- Scripted surroundings of a loop over cycles that act on a `σ`. -/
structure ScriptedLoop (σ : Type) where
  /-- What the cycles act on. -/
  inner : σ
  /-- Milliseconds that have passed. -/
  clock : Nat
  /-- When the loop is asked to stop. -/
  stopAt : Option Nat
  /-- Whether the loop has stopped everything itself. -/
  isStopped : Bool
  /-- The number of failed cycles and the time at the start of each cycle, last first. -/
  calls : List (Nat × Nat)
  /-- The metrics that were shown last. -/
  metrics : Metrics

namespace ScriptedLoop

variable {σ : Type}

/-- Surroundings at the start, and how long it takes until the request to stop. -/
def of (inner : σ) (stopAfter : Option Span) : ScriptedLoop σ where
  inner := inner
  clock := 0
  stopAt := stopAfter.map Span.waitMillis
  isStopped := false
  calls := []
  metrics := .start

/-- What has happened as a record. -/
def toJson (l : ScriptedLoop σ) : Json :=
  .object [
    ("elapsed_ms", .nat l.clock),
    ("calls", .arr (l.calls.reverse.map fun (failures, time) =>
      .arr [.nat failures, .nat time])),
    ("metrics", l.metrics.toJson),
    ("shutdown", .bool l.isStopped)]

/-- Whether the loop is to stop. -/
def mustStop (l : ScriptedLoop σ) : Bool :=
  l.isStopped || l.stopAt.any fun t => t ≤ l.clock

/-- Lets a cycle act, which also tells how many milliseconds it takes. -/
def runCycle {α : Type} (cycle : Nat → StateM σ (α × Nat)) (failures : Nat) :
    StateM (ScriptedLoop σ) α := fun l =>
  let ((result, time), inner) := cycle failures l.inner
  (result, { l with
    inner := inner
    clock := l.clock + time
    calls := (failures, l.clock) :: l.calls })

/-- Lets time pass up to the request to stop. -/
def wait (time : Span) : StateM (ScriptedLoop σ) Bool := fun l =>
  let goal := l.clock + time.waitMillis
  match l.stopAt.filter fun t => t < goal with
  | some t => (false, { l with clock := Nat.max l.clock t })
  | none => (true, { l with clock := goal })

/-- The operations over these cycles and this way to report progress. -/
def operations (cycle : Nat → StateM σ (Except CycleFailure MonitorStatus × Nat))
    (progress : Progress → StateM σ (Except RunError Unit)) :
    LoopSurroundings (StateM (ScriptedLoop σ)) where
  isStopped := fun l => (l.mustStop, l)
  runCycle := runCycle cycle
  wait := wait
  progress p := fun l =>
    let (reply, inner) := progress p l.inner
    (reply, { l with inner := inner })
  publish metrics := modify fun l => { l with metrics := metrics }
  stop := modify fun l => { l with isStopped := true }

end ScriptedLoop

end LiveTrader
