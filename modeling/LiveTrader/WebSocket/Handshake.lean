import LiveTrader.Text.Base64
import LiveTrader.Text.Blank
import LiveTrader.Text.Utf8
import LiveTrader.WebSocket.Frame

/-!
  LiveTrader.WebSocket.Handshake

  The upgrade from HTTP: a request with a random key, and the head of the response, of
  which only the status line is judged.  The head ends with a blank line, and no byte
  after it is read.
-/

namespace LiveTrader.WebSocket

/-! ## The request -/

/-- The key of an upgrade request from sixteen random bytes. -/
def upgradeKey (random : List UInt8) : String :=
  Text.base64 random

/-- The text of an upgrade request. -/
def upgradeRequest (host path key : String) : String :=
  "GET " ++ path ++ " HTTP/1.1\r\n"
    ++ "Host: " ++ host ++ "\r\n"
    ++ "Upgrade: websocket\r\n"
    ++ "Connection: Upgrade\r\n"
    ++ "Sec-WebSocket-Key: " ++ key ++ "\r\n"
    ++ "Sec-WebSocket-Version: 13\r\n"
    ++ "\r\n"

/-! ## The response -/

/-- The version of a protocol that is some HTTP. -/
def isHttpVersion (word : List Char) : Bool :=
  "HTTP/".toList.isPrefixOf word

/-- Whether a status line says that the protocol is switched. -/
def switchesProtocol (line : List Char) : Bool :=
  match Text.words line with
  | version :: status :: _ => isHttpVersion version && status == "101".toList
  | _ => false

/-- Accepts a status line that switches the protocol. -/
def judgeStatusLine (line : List Char) : Except SocketError Unit :=
  if switchesProtocol line then .ok ()
  else .error (.handshake (String.ofList (Text.trimChars line)))

/-- The head of a response is at most this long. -/
abbrev maxHead : Nat := 8 * 1024

/-- Whether bytes, the last one first, end with a blank line. -/
def endsWithBlankLine : List UInt8 → Bool
  | 10 :: 13 :: 10 :: 13 :: _ => true
  | _ => false

section Receive

variable {σ : Type} [Source σ]

/-- Reads on after the bytes in `head`, the last one first, with room for `room` more.
    A head that is cut short by the end of the stream is taken as it is, unless it is
    empty. -/
def receiveHeadFrom (head : List UInt8) : (room : Nat) → ReceiveFrom σ (List UInt8)
  | 0, source =>
    if endsWithBlankLine head then (.ok head.reverse, source)
    else (.error (.handshake "response head too large"), source)
  | room + 1, source =>
    if endsWithBlankLine head then (.ok head.reverse, source)
    else match Source.read 1 source with
      | (b :: _, rest) => receiveHeadFrom (b :: head) room rest
      | ([], rest) => (if head.isEmpty then .error .connectionClosed else .ok head.reverse, rest)

/-- The head of a response. -/
def receiveHead : ReceiveFrom σ (List UInt8) :=
  receiveHeadFrom [] maxHead

end Receive

/-- The first line of a head; bytes that are no UTF-8 are replaced. -/
def statusLine (head : List UInt8) : List Char :=
  (Text.decodeLossy head).toList.takeWhile (· != '\n')

/-- Reads the response to an upgrade request. -/
def receiveUpgrade {σ : Type} [Source σ] : ReceiveFrom σ Unit := do
  let head ← receiveHead
  MonadExcept.ofExcept (judgeStatusLine (statusLine head))

end LiveTrader.WebSocket
