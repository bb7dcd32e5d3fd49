import LiveTrader.Cycle.Run

/-!
  LiveTrader.Cycle.Scripted

  Surroundings for dry runs: the inputs and the ids come from a script, and what is noted
  and reported is kept in memory.
-/

namespace LiveTrader

/-- Scripted surroundings with an exchange whose state is in `σ`. -/
structure ScriptedSurroundings (σ : Type) where
  exchange : σ
  /-- The inputs of every cycle. -/
  inputs : Except RunError CycleInputs
  /-- The id of every cycle. -/
  runId : String
  /-- The ids for the orders to come, the last of which is used again and again.  Without
      any they are generated. -/
  orderIds : List ClientOrderId
  /-- How many ids were generated. -/
  idsGenerated : Nat
  /-- What was noted, last first. -/
  events : List (String × Json)
  /-- What noting an event answers. -/
  auditReply : Except RunError Unit
  /-- What was reported, last first. -/
  reports : List Progress
  /-- What reporting progress answers. -/
  progressReply : Except RunError Unit

namespace ScriptedSurroundings

variable {σ : Type}

/-- Surroundings that generate ids and answer without failures. -/
def of (exchange : σ) : ScriptedSurroundings σ where
  exchange := exchange
  inputs := .ok .noSetup
  runId := ""
  orderIds := []
  idsGenerated := 0
  events := []
  auditReply := .ok ()
  reports := []
  progressReply := .ok ()

/-- Lets the exchange act. -/
def onExchange {α : Type} (act : StateM σ α) : StateM (ScriptedSurroundings σ) α := fun s =>
  let (a, exchange) := act s.exchange
  (a, { s with exchange := exchange })

/-- A number as the suffix of an id. -/
def suffix (n : Nat) : List UInt8 :=
  [n / pow2 24, n / pow2 16, n / pow2 8, n].map UInt8.ofNat

/-- Gives the next id for an order. -/
def freshOrderId (symbol : Symbol) : StateM (ScriptedSurroundings σ) ClientOrderId := fun s =>
  match s.orderIds with
  | [] =>
    (.generate symbol (.ofMicros 0) (suffix s.idsGenerated),
      { s with idsGenerated := s.idsGenerated + 1 })
  | [id] => (id, s)
  | id :: rest => (id, { s with orderIds := rest })

/-- Keeps an event, its secrets masked. -/
def audit (eventType : String) (payload : Json) :
    StateM (ScriptedSurroundings σ) (Except RunError Unit) := fun s =>
  (s.auditReply, { s with events := (eventType, Audit.redact payload) :: s.events })

/-- Keeps a report. -/
def progress (p : Progress) : StateM (ScriptedSurroundings σ) (Except RunError Unit) := fun s =>
  (s.progressReply, { s with reports := p :: s.reports })

/-- The operations of scripted surroundings. -/
def operations (exchange : Exchange (StateM σ)) :
    Surroundings (StateM (ScriptedSurroundings σ)) where
  exchange := exchange.lift onExchange
  inputs := fun s => (s.inputs, s)
  freshRunId := fun s => (s.runId, s)
  freshOrderId := freshOrderId
  audit := audit
  progress := progress

end ScriptedSurroundings

end LiveTrader
