import LiveTrader.Exchange.Interface
import LiveTrader.MonitorStatus
import LiveTrader.Risk.Guard

/-!
  LiveTrader.Monitor

  The health of a cycle.  Each stream is probed for what it does first; the worst of what
  was seen decides, and a guard that has fired overrides the streams.
-/

namespace LiveTrader

/-! ## Probes -/

/-- What was seen of a stream. -/
inductive Probe
  /-- An event came. -/
  | event
  /-- The stream failed. -/
  | fault (f : Fault)
  /-- The stream ended. -/
  | ended
  /-- Nothing came in time. -/
  | quiet
  deriving DecidableEq

/-- The failure that was seen, if one was. -/
def Probe.fault? : Probe → Option Fault
  | fault f => some f
  | _ => none

/-- The word for what was seen. -/
def Probe.name : Probe → String
  | event => "event"
  | fault _ => "fault"
  | ended => "ended"
  | quiet => "quiet"

/-- What is seen of a stream that does this first. -/
def Arrival.probe {α : Type} : Arrival α → Probe
  | item (.ok _) => .event
  | item (.error f) => .fault f
  | ended => .ended
  | quiet => .quiet

/-- Probes the streams of orders and of the account. -/
def probeStreams {m : Type → Type} [Monad m] (exchange : Exchange m) (timeout : Span) :
    m (List Probe) := do
  let (orders, account) ← exchange.firstEvents timeout
  return [orders.probe, account.probe]

/-! ## Health -/

/-- The health of streams with these failures, and its reason unless they are healthy. -/
def streamHealth (faults : List Fault) : MonitorStatus × Option ReasonCode :=
  if faults.any fun f => !f.retryable then (.degraded, some .streamDegraded)
  else if faults.isEmpty then (.active, none)
  else (.reconnecting, some .streamReconnecting)

/-- The health that probes and a guard's verdict show, and the reason that lies in the
    streams. -/
def deriveStatus (probes : List Probe) (guard : GuardStatus) :
    MonitorStatus × Option ReasonCode :=
  let (status, reason) := streamHealth (probes.filterMap Probe.fault?)
  (if guard = .success then status else .degraded, reason)

end LiveTrader
