import LiveTrader.ReasonCode
import LiveTrader.Risk.Limits

/-!
  LiveTrader.Risk.Guard

  The risk guard.  A metric above its ceiling fires with a severity and a code of its
  own; the verdict is the highest severity among those that fired.
-/

namespace LiveTrader

/-! ## Verdicts -/

/-- Severities, from harmless to grave. -/
inductive GuardStatus
  /-- No metric is above its ceiling. -/
  | success
  /-- Trading pauses, the process goes on. -/
  | degraded
  /-- Capital is at risk. -/
  | abort
  deriving DecidableEq

namespace GuardStatus

/-- Every severity. -/
def all : List GuardStatus := [success, degraded, abort]

/-- The word for a severity. -/
def name : GuardStatus → String
  | success => "success"
  | degraded => "degraded"
  | abort => "abort"

/-- The rank of a severity. -/
def rank : GuardStatus → Nat
  | success => 0
  | degraded => 1
  | abort => 2

/-- The graver of two severities. -/
def max (a b : GuardStatus) : GuardStatus :=
  if a.rank < b.rank then b else a

/-- The gravest of a list of severities. -/
def maximum? : List GuardStatus → Option GuardStatus
  | [] => none
  | s :: rest => some (rest.foldl max s)

/-- A severity as its word. -/
def toJson (s : GuardStatus) : Json := .str s.name

/-- A stored severity. -/
def ofJson? (v : Json) : Option GuardStatus :=
  v.asWord?.bind fun w => all.find? fun s => s.name == w

end GuardStatus

/-! ## Conditions -/

namespace RiskMetric

/-- How grave it is that a metric is above its ceiling. -/
def severity : RiskMetric → GuardStatus
  | drawdown => .abort
  | tradeLoss => .abort
  | _ => .degraded

/-- The reason that a metric above its ceiling gives. -/
def reason : RiskMetric → ReasonCode
  | drawdown => .maxDrawdownExceeded
  | dailyLoss => .dailyLossLimitExceeded
  | positionSize => .maxPositionSizeExceeded
  | tradeLoss => .maxTradeLossExceeded
  | leverage => .maxLeverageExceeded
  | walletDrift => .walletDriftExceeded

/-- Whether a metric is above its ceiling. -/
def isBreached (limits : RiskLimits) (snapshot : RiskSnapshot) (m : RiskMetric) : Bool :=
  limits.limit m < snapshot.current m

/-- A metric with its value and its ceiling as a record. -/
def toJson (limits : RiskLimits) (snapshot : RiskSnapshot) (m : RiskMetric) : Json :=
  .object [
    ("reason_code", .str m.reason.text),
    ("severity", m.severity.toJson),
    ("current", (snapshot.current m).toJson),
    ("limit", (limits.limit m).toJson)]

end RiskMetric

/-! ## Evaluation -/

/-- The verdict on a snapshot. -/
structure GuardResult where
  status : GuardStatus
  reasonCodes : List String
  snapshot : RiskSnapshot
  limits : RiskLimits
  deriving DecidableEq

namespace GuardResult

/-- Whether trading may go on. -/
def isSuccess (g : GuardResult) : Bool :=
  g.status == .success

/-- A verdict as a record. -/
def toJson (g : GuardResult) : Json :=
  .object [
    ("status", g.status.toJson),
    ("reason_codes", .texts g.reasonCodes),
    ("snapshot", g.snapshot.toJson),
    ("limits", g.limits.toJson)]

end GuardResult

/-- The metrics above their ceilings, in the order of the checks. -/
def breaches (limits : RiskLimits) (snapshot : RiskSnapshot) : List RiskMetric :=
  RiskMetric.all.filter (RiskMetric.isBreached limits snapshot)

/-- The verdict on a snapshot under these limits. -/
def evaluateRisk (limits : RiskLimits) (snapshot : RiskSnapshot) : GuardResult :=
  let fired := breaches limits snapshot
  { status := (fired.map RiskMetric.severity).foldl GuardStatus.max .success
    reasonCodes := fired.map fun m => m.reason.text
    snapshot := snapshot
    limits := limits }

end LiveTrader
