import LiveTrader.Order.Journal

/-!
  LiveTrader.RunError

  Failures of the runtime itself, as against failures of the exchange.
-/

namespace LiveTrader

/-- Why the runtime could not do something. -/
inductive RunError
  /-- A value of the trading domain could not be built. -/
  | value (cause : ValueError)
  /-- The journal refused an entry. -/
  | journal (cause : JournalError)
  /-- The configuration cannot be used. -/
  | config (detail : String)
  /-- What live trading needs is missing. -/
  | environment (problems : List String)
  /-- A file could not be read or written. -/
  | io (detail : String)
  /-- A stored document has no meaning. -/
  | document (detail : String)
  /-- The inputs of a cycle could not be had. -/
  | inputs (detail : String)
  deriving DecidableEq

namespace RunError

/-- The word for a kind of error. -/
def kind : RunError → String
  | value _ => "Domain"
  | journal _ => "Exec"
  | config _ => "Config"
  | environment _ => "Environment"
  | io _ => "Io"
  | document _ => "Serialization"
  | inputs _ => "Inputs"

/-- The error in one line. -/
def message : RunError → String
  | value cause => "Domain error: " ++ cause.message
  | journal cause => "Execution error: " ++ cause.message
  | config detail => "Configuration error: " ++ detail
  | environment problems => "Runtime environment invalid: " ++ ", ".intercalate problems
  | io detail => "I/O error: " ++ detail
  | document detail => "Serialization error: " ++ detail
  | inputs detail => "Cycle input error: " ++ detail

end RunError

end LiveTrader
