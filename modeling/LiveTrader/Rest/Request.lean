import LiveTrader.Json.Printing
import LiveTrader.Json.Reading

/-!
  LiveTrader.Rest.Request

  Requests to a REST interface, ready to be sent.
-/

namespace LiveTrader

/-- The verb of a request. -/
inductive HttpMethod
  | get
  | post
  deriving DecidableEq

/-- The word for a verb. -/
def HttpMethod.name : HttpMethod → String
  | get => "GET"
  | post => "POST"

/-- A request.  The body is the very text that was signed. -/
structure Request where
  method : HttpMethod
  path : String
  query : List (String × String)
  body : Option String
  headers : List (String × String)
  /-- Whether the request carries the headers of private operations. -/
  isPrivate : Bool
  deriving DecidableEq

namespace Request

/-- The parameters of a query as they are sent, without escapes. -/
def queryChars : List (String × String) → List Char
  | [] => []
  | [(k, v)] => k.toList ++ '=' :: v.toList
  | (k, v) :: rest => k.toList ++ '=' :: v.toList ++ '&' :: queryChars rest

/-- The path, and the query after a question mark if there is one. -/
def targetChars (path : String) (query : List (String × String)) : List Char :=
  if query.isEmpty then path.toList else path.toList ++ '?' :: queryChars query

/-- The path, and the query after a question mark if there is one. -/
def pathAndQuery (r : Request) : String :=
  String.ofList (targetChars r.path r.query)

/-- A request as a record. -/
def toJson (r : Request) : Json :=
  .object [
    ("method", .str r.method.name),
    ("path_and_query", .str r.pathAndQuery),
    ("body", .ofOption .str r.body),
    ("private", .bool r.isPrivate),
    ("headers", .arr (r.headers.map fun (name, value) => .texts [name, value]))]

/-- The value of the body, if it is JSON. -/
def bodyJson? (r : Request) : Option Json :=
  r.body.bind Json.ofText?

end Request

end LiveTrader
