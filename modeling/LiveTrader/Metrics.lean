import LiveTrader.MonitorStatus
import LiveTrader.Text.Digits

/-!
  LiveTrader.Metrics

  What the runtime counts, and how it is shown to a collector of metrics.
-/

namespace LiveTrader

/-- Counters of the loop, and the health that is shown. -/
structure Metrics where
  /-- Cycles that were begun. -/
  loops : Nat
  /-- Cycles that have failed. -/
  failures : Nat
  status : MonitorStatus
  deriving DecidableEq

namespace Metrics

/-- Nothing has happened yet. -/
def start : Metrics := ⟨0, 0, .active⟩

/-- A cycle begins. -/
def countLoop (m : Metrics) : Metrics := { m with loops := m.loops + 1 }

/-- A cycle has failed. -/
def countFailure (m : Metrics) : Metrics := { m with failures := m.failures + 1 }

/-- Another health is shown in place of the last one. -/
def withStatus (status : MonitorStatus) (m : Metrics) : Metrics := { m with status := status }

/-- Metrics as a record. -/
def toJson (m : Metrics) : Json :=
  .object [
    ("total", .nat m.loops),
    ("failures", .nat m.failures),
    ("status", m.status.toJson)]

/-! ## Exposition -/

/-- A family with one series: what it says, how it is labelled, and its value. -/
def family (name kind help labels : String) (value : Nat) : List String := [
  "# HELP " ++ name ++ " " ++ help,
  "# TYPE " ++ name ++ " " ++ kind,
  name ++ labels ++ " " ++ String.ofList (Text.digits value)]

/-- The lines of the text exposition, families by name; of the health only the present one
    has a series. -/
def lines (m : Metrics) : List String :=
  family "monitor_status" "gauge"
      "Current monitor status as numeric gauge (degraded=0, active=1, reconnecting=2)."
      ("\x7bstatus=\"" ++ m.status.name ++ "\"\x7d") m.status.gauge
    ++ family "run_loop_failures_total" "counter" "Total number of loop failures." "" m.failures
    ++ family "run_loop_total" "counter" "Total number of loop iterations." "" m.loops

/-- The text exposition. -/
def text (m : Metrics) : String :=
  String.join (m.lines.map (· ++ "\n"))

end Metrics

end LiveTrader
