import LiveTrader.Json.Fields

/-!
  LiveTrader.MonitorStatus

  The health that the runtime reports of itself.
-/

namespace LiveTrader

/-- Health of the connection to the exchange and of the risk guard. -/
inductive MonitorStatus
  /-- Streams are healthy and no guard has fired. -/
  | active
  /-- A stream failed in a way that may pass. -/
  | reconnecting
  /-- A stream failed for good, or a guard has fired. -/
  | degraded
  deriving DecidableEq

namespace MonitorStatus

/-- Every status, in the order of the gauge. -/
def all : List MonitorStatus := [degraded, active, reconnecting]

/-- The word for a status. -/
def name : MonitorStatus → String
  | active => "active"
  | reconnecting => "reconnecting"
  | degraded => "degraded"

/-- The value of the gauge. -/
def gauge : MonitorStatus → Nat
  | degraded => 0
  | active => 1
  | reconnecting => 2

/-- A status as its word. -/
def toJson (s : MonitorStatus) : Json := .str s.name

/-- A stored status. -/
def ofJson? (v : Json) : Option MonitorStatus :=
  v.asWord?.bind fun w => all.find? fun s => s.name == w

end MonitorStatus

end LiveTrader
