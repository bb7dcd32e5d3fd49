import LiveTrader.Audit.Record

/-!
  LiveTrader.Audit.Log

  The audit log: a current file and rotated files with indexes, the lowest the newest.
  Before a line that would make the current file too long, the files move up by one index
  and the oldest is dropped.
-/

namespace LiveTrader

/-- When files are rotated, and how many rotated ones are kept. -/
structure RotationPolicy where
  /-- No file grows past this, except by its first line. -/
  maxBytes : Nat
  /-- How many rotated files are kept; without any the current file is dropped. -/
  retention : Nat
  deriving DecidableEq

/-- The policy unless another is configured. -/
def RotationPolicy.standard : RotationPolicy := ⟨5 * 1024 * 1024, 5⟩

/-- The files of a log. -/
structure AuditLog where
  /-- The file that is written to, if it exists. -/
  current : Option (List UInt8)
  /-- The rotated files that exist, by their index. -/
  rotated : List (Nat × List UInt8)
  deriving DecidableEq

namespace AuditLog

/-- No file exists. -/
def empty : AuditLog := ⟨none, []⟩

/-- The name of the current file. -/
def fileName : String := "audit_events.jsonl"

/-- The name of a rotated file. -/
def rotatedName (index : Nat) : String :=
  String.ofList (fileName.toList ++ '.' :: Text.digits index)

/-- The index of the rotated file with this name. -/
def rotatedIndex? (name : String) : Option Nat :=
  let ext := name.toList.drop (fileName.length + 1)
  (Text.natOfDigits? ext).filter fun index => rotatedName index == name

/-- The log that consists of these files.  Files with other names do not belong to it. -/
def ofFiles (files : List (String × List UInt8)) : AuditLog where
  current := files.lookup fileName
  rotated := files.filterMap fun (name, bytes) => (rotatedIndex? name).map (·, bytes)

/-- The files of a log. -/
def files (log : AuditLog) : List (String × List UInt8) :=
  (log.current.map fun bytes => (fileName, bytes)).toList
    ++ log.rotated.map fun (index, bytes) => (rotatedName index, bytes)

/-- Moves a rotated file up by one index.  The oldest is dropped, and those with indexes
    that are not in use stay where they are. -/
def shift (retention : Nat) (file : Nat × List UInt8) : Option (Nat × List UInt8) :=
  if file.1 = retention then none
  else if 1 ≤ file.1 ∧ file.1 < retention then some (file.1 + 1, file.2)
  else some file

/-- Makes the current file the newest rotated one. -/
def rotate (retention : Nat) (log : AuditLog) : AuditLog :=
  if retention = 0 then { log with current := none }
  else
    let older := log.rotated.filterMap (shift retention)
    ⟨none, (log.current.map fun bytes => (1, bytes)).toList ++ older⟩

/-- What is done to files. -/
inductive Move
  | remove (name : String)
  | rename (name newName : String)
  deriving DecidableEq

/-- The moves of a rotation one after the other.  A move of a file that does not exist is
    passed over. -/
def moves (retention : Nat) : List Move :=
  if retention = 0 then [.remove fileName]
  else
    let indexes := (List.range' 1 (retention - 1)).reverse
    .remove (rotatedName retention)
      :: indexes.map (fun index => .rename (rotatedName index) (rotatedName (index + 1)))
      ++ [.rename fileName (rotatedName 1)]

/-- The size of the current file. -/
def size (log : AuditLog) : Nat := (log.current.getD []).length

/-- Whether a line makes a rotation necessary; an empty file is never rotated. -/
def isFullFor (policy : RotationPolicy) (line : List UInt8) (log : AuditLog) : Bool :=
  0 < log.size && policy.maxBytes < log.size + line.length

/-- Writes bytes at the end of the current file. -/
def write (line : List UInt8) (log : AuditLog) : AuditLog :=
  { log with current := some (log.current.getD [] ++ line) }

/-- Appends a line, after a rotation if it is necessary. -/
def append (policy : RotationPolicy) (line : List UInt8) (log : AuditLog) : AuditLog :=
  if log.isFullFor policy line then (log.rotate policy.retention).write line
  else log.write line

end AuditLog

end LiveTrader
