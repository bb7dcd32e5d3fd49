import LiveTrader.Audit.Log

/-!
  LiveTrader.Audit.Directory

  The audit log as files of a directory.  A line is appended through operations on files,
  which are those of the host, or those of a directory that is kept in memory.
-/

namespace LiveTrader

/-! ## Operations -/

/-- Operations on the files of a directory. -/
structure FileOperations (m : Type → Type) where
  /-- The bytes of a file, unless there is none. -/
  read? : String → m (Option (List UInt8))
  /-- Makes a move of a rotation; a file that does not exist is passed over. -/
  move : AuditLog.Move → m Unit
  /-- Writes bytes at the end of a file, which is created if there is none. -/
  extend : String → List UInt8 → m Unit

/-- Appends a line to the log of a directory, after a rotation if it is necessary. -/
def AuditLog.appendTo {m : Type → Type} [Monad m] (files : FileOperations m)
    (policy : RotationPolicy) (line : List UInt8) : m Unit := do
  let log : AuditLog := ⟨← files.read? fileName, []⟩
  if log.isFullFor policy line then
    (moves policy.retention).forM files.move
  files.extend fileName line

/-! ## Directories in memory -/

/-- The files of a directory, by their names. -/
@[ext] structure Directory where
  file? : String → Option (List UInt8)

namespace Directory

/-- No file exists. -/
def empty : Directory := ⟨fun _ => none⟩

/-- Puts a file under a name, or nothing. -/
def put (d : Directory) (name : String) (file : Option (List UInt8)) : Directory :=
  ⟨fun n => if n = name then file else d.file? n⟩

/-- Removes or renames a file, if it exists.  A file under the new name is replaced. -/
def move (d : Directory) : AuditLog.Move → Directory
  | .remove name => d.put name none
  | .rename name newName =>
    match d.file? name with
    | none => d
    | some bytes => (d.put name none).put newName (some bytes)

/-- Writes bytes at the end of a file. -/
def extend (d : Directory) (name : String) (bytes : List UInt8) : Directory :=
  d.put name (some ((d.file? name).getD [] ++ bytes))

/-- The operations on a directory that is kept in the state. -/
def operations : FileOperations (StateM Directory) where
  read? name := fun d => (d.file? name, d)
  move m := fun d => ((), d.move m)
  extend name bytes := fun d => ((), d.extend name bytes)

/-- Appends a record to the log. -/
def append (policy : RotationPolicy) (d : Directory) (r : AuditRecord) : Directory :=
  ((AuditLog.appendTo operations policy r.line).run d).2

/-- The directory once these records were appended, the first of them to an empty one. -/
def of (policy : RotationPolicy) (records : List AuditRecord) : Directory :=
  records.foldl (append policy) empty

end Directory

end LiveTrader
