import LiveTrader.Json.Pretty
import LiveTrader.Json.Reading
import LiveTrader.MonitorStatus

/-!
  LiveTrader.Progress

  The progress that the runtime reports for an operator.
-/

namespace LiveTrader

/-! ## Words -/

namespace ProgressStatus

/-- Cycles are run. -/
def running : String := "running"
/-- A cycle has failed, or the runtime was stopped. -/
def degraded : String := "degraded"
/-- The runtime has given up. -/
def failed : String := "failed"

end ProgressStatus

/-! ## Progress -/

/-- What is reported at one moment. -/
structure Progress where
  status : String
  lastError : Option String
  monitorStatus : MonitorStatus
  /-- How many cycles have failed. -/
  reconnectCount : Nat
  /-- What the checks before the start have found. -/
  validation : Option Json

/-- Progress without a report of the checks before the start. -/
def Progress.of (status : String) (lastError : Option String) (monitorStatus : MonitorStatus)
    (reconnectCount : Nat) : Progress :=
  ⟨status, lastError, monitorStatus, reconnectCount, none⟩

/-! ## Records -/

/-- A stored report. -/
structure ProgressRecord where
  updatedAt : Instant
  mode : String
  progress : Progress

namespace ProgressRecord

/-- The record of progress in live trading. -/
def live (now : Instant) (progress : Progress) : ProgressRecord :=
  ⟨now, "live", progress⟩

/-- A record as JSON, its members in the order of the file; no validation is no member. -/
def toJson (r : ProgressRecord) : Json :=
  .obj ([
    ("status", .str r.progress.status),
    ("updated_at", r.updatedAt.toJson),
    ("mode", .str r.mode),
    ("last_error", .ofOption .str r.progress.lastError),
    ("monitor_status", r.progress.monitorStatus.toJson),
    ("reconnect_count", .nat r.progress.reconnectCount)]
    ++ (r.progress.validation.map fun v => ("validation", v)).toList)

/-- A record's members. -/
def shape : Json.Shape :=
  .record 6 [
    ("status", .anything),
    ("updated_at", .anything),
    ("mode", .anything),
    ("last_error", .anything),
    ("monitor_status", .word),
    ("reconnect_count", .anything),
    ("validation", .anything)]

/-- A stored record. -/
def ofJson? (v : Json) : Option ProgressRecord := do
  let v ← shape.members? v
  return {
    updatedAt := ← v.required? Instant.ofJson? "updated_at"
    mode := ← v.required? Json.asText? "mode"
    progress := {
      status := ← v.required? Json.asText? "status"
      lastError := ← v.optional? Json.asText? "last_error"
      monitorStatus := ← v.required? MonitorStatus.ofJson? "monitor_status"
      reconnectCount := ← v.required? (Json.asNatBelow? (pow2 32)) "reconnect_count"
      validation := ← v.optional? some "validation" } }

/-- The bytes of the file with a record. -/
def bytes (r : ProgressRecord) : List UInt8 :=
  Text.encodeChars (r.toJson.prettyChars 0)

/-- Reads a record from the bytes of a file. -/
def ofBytes? (bytes : List UInt8) : Option ProgressRecord :=
  (shape.ofBytes? bytes).bind ofJson?

end ProgressRecord

/-- The name of the file with the latest record. -/
def progressFileName : String := "run_progress.json"

end LiveTrader
