import LiveTrader.Audit.Record
import LiveTrader.Json.Reading

/-!
  LiveTrader.Audit.Reading

  Reading an audit log.  A line that was cut short, by a crash say, is continued by the
  next record, which is still found there.
-/

namespace LiveTrader

/-- What a line of an audit log holds. -/
inductive AuditLine
  | record (r : AuditRecord)
  /-- A record that continues an unfinished line. -/
  | continued (before : String) (r : AuditRecord)
  /-- No record. -/
  | other (text : String)

namespace AuditLine

/-- The record that a text is. -/
def recordOf? (cs : List Char) : Option AuditRecord :=
  (AuditRecord.shape.ofChars? cs).bind AuditRecord.ofJson?

/-- What a record begins with. -/
def recordStart : List Char := "\x7b\"event_id\":".toList

/-- Searches the rest of a line for a record that continues it.  It stands at the first
    place where a record may start.  If a record was cut short there, the one that follows
    is taken if its id is among those that are known. -/
def continued? (known : List String) (first : Bool) (before : List Char) :
    List Char → Option AuditLine
  | [] => none
  | c :: cs =>
    if recordStart.isPrefixOf (c :: cs) then
      match (recordOf? (c :: cs)).filter fun r => first || known.contains r.eventId with
      | some r => some (continued (String.ofList before.reverse) r)
      | none => continued? known false (c :: before) cs
    else continued? known first (c :: before) cs

/-- What a line holds. -/
def ofChars (known : List String) (cs : List Char) : AuditLine :=
  match recordOf? cs with
  | some r => record r
  | none => (continued? known true [] cs).getD (other (String.ofList cs))

/-- The lines of a text, the last of which may be unfinished.  A carriage return before
    the end of a line belongs to the end. -/
def split : List Char → List (List Char)
  | [] => []
  | '\r' :: '\n' :: cs => [] :: split cs
  | c :: cs =>
    if c = '\n' then [] :: split cs
    else
      match split cs with
      | [] => [[c]]
      | line :: rest => (c :: line) :: rest

/-- The lines of a file; records with the ids that are known may continue others. -/
def ofBytes (known : List String) (bytes : List UInt8) : List AuditLine :=
  (split (Text.decodeLossy bytes).toList).map (ofChars known)

end AuditLine

end LiveTrader
