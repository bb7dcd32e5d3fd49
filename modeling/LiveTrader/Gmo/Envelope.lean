import LiveTrader.Gmo.Vocabulary

/-!
  LiveTrader.Gmo.Envelope

  The envelope around every REST reply: a numeric status, which is zero for success,
  the data, and messages for a failure.
-/

namespace LiveTrader.Gmo.Envelope

/-- The numeric status of a reply.  Only a whole number of the signed 64-bit range is
    one. -/
def status? (payload : Json) : Option Int :=
  (payload.get? "status").bind Json.asSigned64?

/-- The first message of a reply. -/
def firstMessage? (payload : Json) : Option Json :=
  ((payload.get? "messages").bind Json.asItems?).bind List.head?

/-- The failure that a reply with this status reports. -/
def fault (payload : Json) (status : Int) : Fault :=
  let member (name : String) := ((firstMessage? payload).bind (Json.get? name)).bind Json.asText?
  let code := match member "message_code" with
    | some code => sourceCode code
    | none => SourceCode.exchangeError
  Fault.classify (some code)
    ((member "message_string").getD ("GMO API status " ++ String.ofList (Text.intText status)))

/-- Takes the data out of a reply.  A reply without a numeric status is no envelope and
    is taken as it is. -/
def unwrap (payload : Json) : Except Fault Json :=
  match status? payload with
  | none => .ok payload
  | some status =>
    if status = 0 then .ok ((payload.get? "data").getD .null) else .error (fault payload status)

end LiveTrader.Gmo.Envelope
