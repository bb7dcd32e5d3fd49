import LiveTrader.Cycle.Scripted
import LiveTrader.Supervisor.Scripted

/-!
  LiveTrader.DryRun

  The whole runtime against a scripted exchange: a loop over cycles that take their inputs
  from a script.
-/

namespace LiveTrader

/-- The state of a dry run with an exchange whose state is in `σ`. -/
structure DryRun (σ : Type) where
  surroundings : ScriptedSurroundings σ
  journal : Journal
  /-- The inputs of the cycles to come.  After the last ones they stay as they are. -/
  script : List (Except RunError CycleInputs)
  /-- What the cycles have done, last first. -/
  reports : List CycleReport

namespace DryRun

variable {σ : Type}

/-- A dry run at its start. -/
def of (surroundings : ScriptedSurroundings σ) (script : List (Except RunError CycleInputs)) :
    DryRun σ :=
  ⟨surroundings, .empty Journal.defaultCapacity, script, []⟩

/-- Runs a cycle.  The time that it takes is told by the exchange. -/
def runCycle (exchange : Exchange (StateM σ)) (elapsed : σ → Nat) (config : Config)
    (reconnectCount : Nat) :
    StateM (DryRun σ) (Except CycleFailure CycleReport × Nat) := fun d =>
  let before := { d.surroundings with inputs := d.script.head?.getD d.surroundings.inputs }
  let (result, after) := Cycle.runWithJournal (ScriptedSurroundings.operations exchange) config
    reconnectCount ⟨d.journal, before⟩
  ((result, elapsed after.world.exchange - elapsed before.exchange), {
    surroundings := after.world
    journal := after.journal
    script := d.script.drop 1
    reports := result.toOption.toList ++ d.reports })

/-- Keeps a report of progress among those of the cycles. -/
def progress (p : Progress) : StateM (DryRun σ) (Except RunError Unit) := fun d =>
  let (reply, surroundings) := ScriptedSurroundings.progress p d.surroundings
  (reply, { d with surroundings := surroundings })

/-- Every report of progress, in order. -/
def progressReports (d : DryRun σ) : List Progress := d.surroundings.reports.reverse

/-- The surroundings of a loop over the cycles. -/
def operations (exchange : Exchange (StateM σ)) (elapsed : σ → Nat) (config : Config) :
    LoopSurroundings (StateM (ScriptedLoop (DryRun σ))) :=
  ScriptedLoop.operations
    (fun reconnectCount => do
      let (result, time) ← runCycle exchange elapsed config reconnectCount
      return (result.map CycleReport.monitorStatus, time))
    progress

end DryRun

end LiveTrader
