import Std.Async.TCP
import LiveTrader.Listener.Wire
import LiveTrader.RunError

/-!
  LiveTrader.Host.Server

  The listener for health and metrics on a socket.
-/

namespace LiveTrader.Host

open Std.Async Std.Net

/-- Reads a request until its head is whole, the peer stops or too much has come. -/
partial def readHead (client : TCP.Socket.Client) (before : List Char) : Async (List Char) := do
  if Listener.isWhole before ∨ 8192 < before.length then return before
  else
    match ← client.recv? 4096 with
    | none => return before
    | some bytes => readHead client (before ++ (Text.decodeLossy bytes.toList).toList)

/-- Answers one connection. -/
def answer (state : IO (Bool × Metrics)) (client : TCP.Socket.Client) : Async Unit := do
  let head ← readHead client []
  let (isStopping, metrics) ← state
  let reply := match Listener.requestLine? head with
    | some (method, target) => Listener.reply isStopping metrics method target
    | none => Listener.badRequest
  client.send ⟨reply.bytes.toArray⟩
  client.shutdown

/-- Answers connections one after the other. -/
partial def serve (state : IO (Bool × Metrics)) (server : TCP.Socket.Server) : Async Unit := do
  let client ← server.accept
  try answer state client catch _ => pure ()
  serve state server

/-- Starts the listener on an address. -/
def startListener (host : String) (port : Nat) (state : IO (Bool × Metrics)) :
    IO (Except RunError Unit) := do
  let address := host ++ ":" ++ toString port
  let failed := fun (why : String) =>
    Except.error (RunError.config ("Failed to bind to " ++ address ++ ": " ++ why))
  match IPv4Addr.ofString host with
  | none => return failed "not an address"
  | some ip =>
    try
      let server ← TCP.Socket.Server.mk
      server.bind (.v4 ⟨ip, UInt16.ofNat port⟩)
      server.listen 128
      let _ ← (serve state server).asTask
      return .ok ()
    catch e => return failed (toString e)

end LiveTrader.Host
