import LiveTrader.Json.Fields
import LiveTrader.Text.Case
import LiveTrader.Text.Utf8
import LiveTrader.Text.Uuid

/-!
  LiveTrader.Audit.Record

  Audit records.  Values under keys that look like secrets are masked when a record is
  made, so that nothing that is stored or shown holds them.
-/

namespace LiveTrader

/-! ## Masking -/

namespace Audit

/-- What stands in place of a secret. -/
def mask : String := "***"

/-- A key with one of these in it, in lower case, marks its value as a secret. -/
def secretMarkers : List String :=
  ["api_key", "api_secret", "secret", "token", "password", "webhook_url"]

/-- Whether `part` occurs in `whole`. -/
def occursIn (part whole : List Char) : Bool :=
  match whole with
  | [] => part.isEmpty
  | _ :: rest => part.isPrefixOf whole || occursIn part rest

/-- Whether a key marks its value as a secret, whatever its case. -/
def isSecretKey (key : String) : Bool :=
  let lower := (Text.lower key).toList
  secretMarkers.any fun marker => occursIn marker.toList lower

mutual

/-- A value with every secret in it masked, at any depth. -/
def redact : Json → Json
  | .obj members => .obj (redactMembers members)
  | .arr items => .arr (redactItems items)
  | v => v

/-- A list of values with every secret in it masked. -/
def redactItems : List Json → List Json
  | [] => []
  | v :: vs => redact v :: redactItems vs

/-- A list of members with every secret in it masked. -/
def redactMembers : List (String × Json) → List (String × Json)
  | [] => []
  | (k, v) :: ms => (k, if isSecretKey k then .str mask else redact v) :: redactMembers ms

end

end Audit

/-! ## Records -/

/-- One audit event. -/
structure AuditRecord where
  /-- A unique id of 36 characters. -/
  eventId : String
  timestamp : Instant
  eventType : String
  payload : Json

namespace AuditRecord

/-- The record of an event, its secrets masked. -/
def of (eventId : String) (timestamp : Instant) (eventType : String) (payload : Json) :
    AuditRecord :=
  ⟨eventId, timestamp, eventType, Audit.redact payload⟩

/-- The type and the payload. -/
def event (r : AuditRecord) : String × Json := (r.eventType, r.payload)

/-- The record as JSON, its members in the order of the log. -/
def toJson (r : AuditRecord) : Json :=
  .obj [
    ("event_id", .str r.eventId),
    ("timestamp", r.timestamp.toJson),
    ("event_type", .str r.eventType),
    ("payload", r.payload)]

/-- A record's members. -/
def shape : Json.Shape :=
  .ofNames 4 ["event_id", "timestamp", "event_type", "payload"]

/-- A stored record. -/
def ofJson? (v : Json) : Option AuditRecord := do
  let v ← shape.members? v
  return {
    eventId := ← v.required? (fun id => id.asText?.bind Text.readUuid?) "event_id"
    timestamp := ← v.required? Instant.ofJson? "timestamp"
    eventType := ← v.required? Json.asText? "event_type"
    payload := ← v.get? "payload" }

/-- The line of the log. -/
def line (r : AuditRecord) : List UInt8 :=
  Text.encodeChars (r.toJson.chars ++ ['\n'])

end AuditRecord

/-! ## Kinds of events -/

namespace AuditEvent

/-- An order is about to be sent. -/
def orderAttempt : String := "order_attempt"
/-- What came of sending an order. -/
def orderResult : String := "order_result"
/-- What came of reading an order. -/
def orderFetchResult : String := "order_fetch_result"
/-- What came of cancelling an order. -/
def orderCancelResult : String := "order_cancel_result"
/-- A guard has stopped trading. -/
def riskStop : String := "risk_stop"
/-- The checks before the start. -/
def startupValidation : String := "startup_validation"

end AuditEvent

end LiveTrader
