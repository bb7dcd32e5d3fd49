import LiveTrader.Credentials
import LiveTrader.Hash.Sha256
import LiveTrader.Rest.Request
import LiveTrader.Text.Utf8

/-!
  LiveTrader.Rest.Signature

  Signatures of private messages: the keyed digest, in hexadecimal, of the time
  stamp, the verb, the path with its query and the body, one after the other.
-/

namespace LiveTrader.Signature

/-- The keyed digest of a text in hexadecimal. -/
def hmacHex (secret message : String) : String :=
  Text.hex (Hash.hmacSha256 (Text.bytesOf secret) (Text.bytesOf message))

/-- The text that is signed. -/
def signedText (timestamp method pathAndQuery body : String) : String :=
  timestamp ++ method ++ pathAndQuery ++ body

/-- The signature of a request. -/
def ofRequest (secret timestamp method pathAndQuery body : String) : String :=
  hmacHex secret (signedText timestamp method pathAndQuery body)

/-- The path that subscriptions sign. -/
def subscriptionPath : String := "/ws"

/-- The signature of a subscription to a private stream. -/
def ofSubscription (secret timestamp : String) : String :=
  ofRequest secret timestamp "GET" subscriptionPath ""

/-- A time stamp in messages: milliseconds in decimal digits. -/
def timestampText (millis : Int) : String :=
  String.ofList (Text.intText millis)

/-- The headers of a private request, in the order in which they are sent. -/
def headers (credentials : Credentials) (timestamp method pathAndQuery body : String) :
    List (String × String) := [
  ("API-KEY", credentials.apiKey),
  ("API-TIMESTAMP", timestamp),
  ("API-SIGN", ofRequest credentials.apiSecret timestamp method pathAndQuery body)]

/-- Whether a request carries the signature that its headers and its content call for. -/
def isValid (secret : String) (r : Request) : Bool :=
  match r.headers.lookup "API-TIMESTAMP", r.headers.lookup "API-SIGN" with
  | some timestamp, some signature =>
    signature == ofRequest secret timestamp r.method.name r.pathAndQuery (r.body.getD "")
  | _, _ => false

end LiveTrader.Signature
