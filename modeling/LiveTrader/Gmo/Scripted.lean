import LiveTrader.Gmo.Adapter

/-!
  LiveTrader.Gmo.Scripted

  A gateway for dry runs: replies and connections come from a script, time passes only
  in waits, and what was asked is kept.
-/

namespace LiveTrader.Gmo

/-- The state of a scripted gateway. -/
structure ScriptedGateway where
  /-- The replies to come. -/
  replies : List (Except Fault Json)
  /-- The reply once the others are used up. -/
  lastReply : Except Fault Json
  /-- The requests that were sent, last first. -/
  requests : List Request
  /-- The connections to come; further ones are empty. -/
  connections : List Connection
  /-- The streams that were opened, last first. -/
  opened : List Channel
  /-- Milliseconds since 1 January 1970 at the start. -/
  startMillis : Int
  /-- Milliseconds that have passed. -/
  elapsed : Nat

namespace ScriptedGateway

/-- A gateway with a script. -/
def of (replies : List (Except Fault Json)) (lastReply : Except Fault Json)
    (connections : List Connection) (startMillis : Int) : ScriptedGateway where
  replies := replies
  lastReply := lastReply
  requests := []
  connections := connections
  opened := []
  startMillis := startMillis
  elapsed := 0

/-- The failure of a request that the script does not answer. -/
def exhausted : Fault := .classify (some SourceCode.connectionError) "script exhausted"

/-- Takes the next reply. -/
def send (r : Request) : StateM ScriptedGateway (Except Fault Json) := fun g =>
  let g := { g with requests := r :: g.requests }
  match g.replies with
  | reply :: rest => (reply, { g with replies := rest })
  | [] => (g.lastReply, g)

/-- Lets time pass; a wait ends at the next whole millisecond. -/
def sleep (s : Span) : StateM ScriptedGateway Unit :=
  modify fun g => { g with elapsed := g.elapsed + s.waitMillis }

/-- Takes the next connection. -/
def connect (channel : Channel) : StateM ScriptedGateway Connection := fun g =>
  let g := { g with opened := channel :: g.opened }
  match g.connections with
  | c :: rest => (c, { g with connections := rest })
  | [] => ([], g)

/-- The gateway's operations.  It has no sockets; scripted connections are for adapters that
    are fed with them. -/
def operations : Gateway (StateM ScriptedGateway) where
  send := send
  now := fun g => (g.startMillis + g.elapsed, g)
  sleep := sleep
  dial _ _ := return [.error (.io "no transport")]

end ScriptedGateway

end LiveTrader.Gmo
