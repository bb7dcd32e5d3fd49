import LiveTrader.Listener
import LiveTrader.Text.Utf8

/-!
  LiveTrader.Listener.Wire

  The listener's messages as bytes.  A connection carries one request and one reply.
-/

namespace LiveTrader.Listener

/-- The method and the target in the first line of a request. -/
def requestLine? (head : List Char) : Option (String × String) :=
  let line := head.takeWhile fun c => c != '\r' && c != '\n'
  let method := line.takeWhile fun c => c != ' '
  let target := (line.drop (method.length + 1)).takeWhile fun c => c != ' '
  let version := line.drop (method.length + target.length + 2)
  if method.isEmpty ∨ target.isEmpty ∨ !"HTTP/1.".toList.isPrefixOf version then none
  else some (String.ofList method, String.ofList target)

/-- Whether the head of a request has come whole. -/
def isWhole (cs : List Char) : Bool :=
  match cs with
  | [] => false
  | _ :: rest => "\r\n\r\n".toList.isPrefixOf cs || isWhole rest

/-- The phrase for a status. -/
def phrase (status : Nat) : String :=
  if status = 200 then "OK"
  else if status = 404 then "Not Found"
  else if status = 405 then "Method Not Allowed"
  else if status = 503 then "Service Unavailable"
  else "Bad Request"

/-- The reply to what is no request. -/
def badRequest : Reply := ⟨400, none, none, ""⟩

/-- A header line, if it has a value. -/
def headerLine (name : String) (value : Option String) : String :=
  (value.map fun v => name ++ ": " ++ v ++ "\r\n").getD ""

/-- The bytes of a reply. -/
def Reply.bytes (r : Reply) : List UInt8 :=
  let body := Text.bytesOf r.body
  let number := fun n => String.ofList (Text.digits n)
  let head := "HTTP/1.1 " ++ number r.status ++ " " ++ phrase r.status ++ "\r\n"
    ++ headerLine "content-type" r.contentType
    ++ headerLine "allow" r.allow
    ++ headerLine "content-length" (some (number body.length))
    ++ "connection: close\r\n\r\n"
  Text.bytesOf head ++ body

end LiveTrader.Listener
