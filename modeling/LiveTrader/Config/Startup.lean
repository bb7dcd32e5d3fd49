import LiveTrader.Config.Basic
import LiveTrader.ReasonCode
import LiveTrader.RunError

/-!
  LiveTrader.Config.Startup

  The checks before the start: live trading needs credentials.
-/

namespace LiveTrader

/-- What the checks before the start have found. -/
structure StartupReport where
  /-- What prevents the start. -/
  fatalErrors : List String
  /-- What only changes the behaviour. -/
  warnings : List String
  deriving DecidableEq

namespace StartupReport

/-- Whether the runtime may start. -/
def isOk (r : StartupReport) : Bool := r.fatalErrors.isEmpty

/-- Fails with the fatal errors if there are any. -/
def ensureOk (r : StartupReport) : Except RunError Unit :=
  if r.isOk then .ok () else .error (.environment r.fatalErrors)

/-- A report as a record. -/
def toJson (r : StartupReport) : Json :=
  .object [("fatal_errors", .texts r.fatalErrors), ("warnings", .texts r.warnings)]

end StartupReport

/-- The variables that live trading on an exchange needs. -/
def requiredVariables (exchange : String) : List String :=
  [Credentials.keyVariable exchange, Credentials.secretVariable exchange]

/-- Checks that orders that go out over the network have their credentials. -/
def checkStartup (c : Config) (lookup : Lookup) : StartupReport where
  fatalErrors :=
    if c.execution.executeOrders && c.execution.liveHttpEnabled then
      ((requiredVariables c.exchange.name).filter fun name =>
        (Credentials.present? lookup name).isNone).map ("missing_required_env:" ++ ·)
    else []
  warnings :=
    if c.execution.executeOrders && !c.execution.liveHttpEnabled then
      [ReasonCode.liveHttpDisabled.text]
    else []

end LiveTrader
