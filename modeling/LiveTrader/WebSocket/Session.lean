import LiveTrader.Json.Reading
import LiveTrader.WebSocket.Handshake

/-!
  LiveTrader.WebSocket.Session

  A client session over the bytes that the peer sends.  Text frames are what the client
  asks for; a ping is answered on the way, a close frame ends the session and all other
  frames are passed over.
-/

namespace LiveTrader.WebSocket

/-- A session: where the bytes that are not read yet come from, and what was written. -/
structure Session (σ : Type := List UInt8) where
  unread : σ
  /-- What was written, last first. -/
  writes : List (List UInt8)

namespace Session

section Source

variable {σ : Type}

/-- Nothing has been read or written. -/
def start (incoming : σ) : Session σ := ⟨incoming, []⟩

/-- Every byte that was written. -/
def written (s : Session σ) : List UInt8 := s.writes.reverse.flatten

/-- Writes bytes. -/
def write (bytes : List UInt8) : StateM (Session σ) Unit :=
  modify fun s => { s with writes := bytes :: s.writes }

/-- Reads from the unread bytes. -/
def read {α : Type} (r : ReceiveFrom σ α) : StateM (Session σ) (Except SocketError α) := fun s =>
  let (result, unread) := r s.unread
  (result, { s with unread := unread })

/-- Asks for the upgrade and reads the response. -/
def upgrade [Source σ] (host path key : String) :
    StateM (Session σ) (Except SocketError Unit) := do
  write (Text.bytesOf (upgradeRequest host path key))
  read receiveUpgrade

end Source

/-- Sends a text in a masked frame. -/
def sendText (key : MaskKey) (text : List UInt8) : StateM Session Unit :=
  write (encodeFrame .text text (some key))

/-- The next text among at most `frames` frames. -/
def nextTextWithin : (frames : Nat) → StateM Session (Except SocketError String)
  | 0 => return .error .connectionClosed
  | frames + 1 => do
    match ← read receiveFrame with
    | .error e => return .error e
    | .ok frame =>
      match frame.opcode with
      | .text =>
        match Text.decode? frame.payload with
        | some text => return .ok text
        | none => return .error .utf8
      | .ping =>
        write (encodeFrame .pong frame.payload none)
        nextTextWithin frames
      | .close => return .error .connectionClosed
      | _ => nextTextWithin frames

/-- The next text.  A frame takes a byte at least, so there are no more frames than
    bytes. -/
def nextText : StateM Session (Except SocketError String) := do
  nextTextWithin ((← get).unread.length + 1)

end Session

/-! ## Subscriptions -/

/-- What a text says: a message, or that the subscription was refused; texts that are not
    JSON say nothing. -/
def messageOf? (text : String) : Option (Except SocketError Json) :=
  (Json.ofText? text).map fun message =>
    match (message.get? "error").bind Json.asText? with
    | some error => .error (.rejected error)
    | none => .ok message

/-- The messages among at most `texts` texts, up to the first failure. -/
def messagesWithin : (texts : Nat) → StateM Session (List (Except SocketError Json))
  | 0 => return []
  | texts + 1 => do
    match ← Session.nextText with
    | .error e => return [.error e]
    | .ok text =>
      match messageOf? text with
      | none => messagesWithin texts
      | some (.error e) => return [.error e]
      | some (.ok message) => return .ok message :: (← messagesWithin texts)

/-- Upgrades, subscribes and reads messages until the session fails. -/
def subscribe (host path key : String) (mask : MaskKey) (command : Json) :
    StateM Session (List (Except SocketError Json)) := do
  match ← Session.upgrade host path key with
  | .error e => return [.error e]
  | .ok () =>
    Session.sendText mask (Text.bytesOf command.toText)
    messagesWithin ((← get).unread.length + 1)

end LiveTrader.WebSocket
