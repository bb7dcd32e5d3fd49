import LiveTrader.Fault

/-!
  LiveTrader.WebSocket.Error

  Failures of stream connections.
-/

namespace LiveTrader.WebSocket

/-- Why a connection failed. -/
inductive SocketError
  /-- Reading or writing failed. -/
  | io (detail : String)
  /-- Something took too long. -/
  | timeout (detail : String)
  /-- No secure channel could be set up. -/
  | tls (detail : String)
  /-- The peer closed the connection. -/
  | connectionClosed
  /-- The upgrade was refused; the detail is the status line. -/
  | handshake (detail : String)
  /-- The address cannot be used. -/
  | invalidUrl (detail : String)
  /-- A frame is not acceptable. -/
  | protocol (detail : String)
  /-- A text is not UTF-8. -/
  | utf8
  /-- The subscription was refused. -/
  | rejected (detail : String)
  deriving DecidableEq

namespace SocketError

/-- The error in one line. -/
def message : SocketError → String
  | io detail => "I/O error: " ++ detail
  | timeout detail => "Timed out: " ++ detail
  | tls detail => "TLS error: " ++ detail
  | connectionClosed => "Connection closed"
  | handshake detail => "Handshake failed: " ++ detail
  | invalidUrl detail => "Invalid URL: " ++ detail
  | protocol detail => "Protocol error: " ++ detail
  | utf8 => "Invalid UTF-8 in text frame"
  | rejected detail => "Subscription rejected: " ++ detail

/-- The word for a kind of error. -/
def kind : SocketError → String
  | io _ => "Io"
  | timeout _ => "Timeout"
  | tls _ => "Tls"
  | connectionClosed => "ConnectionClosed"
  | handshake _ => "Handshake"
  | invalidUrl _ => "InvalidUrl"
  | protocol _ => "Protocol"
  | utf8 => "Utf8"
  | rejected _ => "Rejected"

/-- The error of a kind with a detail; some kinds have none. -/
def ofKind? (word detail : String) : Option SocketError :=
  [io detail, timeout detail, tls detail, connectionClosed, handshake detail, invalidUrl detail,
    protocol detail, utf8, rejected detail].find? fun e => e.kind == word

/-- Whether the connection itself failed, so that another one may fare better. -/
def isNetwork : SocketError → Bool
  | io _ => true
  | timeout _ => true
  | tls _ => true
  | connectionClosed => true
  | _ => false

/-- The code that an error is classified by. -/
def sourceCode : SocketError → String
  | timeout _ => SourceCode.networkTimeout
  | io _ => SourceCode.connectionError
  | tls _ => SourceCode.connectionError
  | connectionClosed => SourceCode.connectionError
  | _ => SourceCode.exchangeError

/-- The error as a classified failure. -/
def fault (e : SocketError) : Fault :=
  .classify (some e.sourceCode) e.message

end SocketError

end LiveTrader.WebSocket
