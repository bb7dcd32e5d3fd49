import LiveTrader.Text.Digits
import LiveTrader.WebSocket.Source

/-!
  LiveTrader.WebSocket.Frame

  Frames of the WebSocket protocol: a byte with the final flag and the opcode, a byte
  with the mask flag and a short length, a longer length where needed, the mask's key,
  and the payload.
-/

namespace LiveTrader.WebSocket

/-! ## Opcodes -/

/-- What a frame is for. -/
inductive Opcode
  | continuation
  | text
  | binary
  | close
  | ping
  | pong
  /-- A code without a meaning to the client. -/
  | other (code : UInt8)
  deriving DecidableEq

namespace Opcode

/-- The word for an opcode. -/
def name : Opcode → String
  | continuation => "continuation"
  | text => "text"
  | binary => "binary"
  | close => "close"
  | ping => "ping"
  | pong => "pong"
  | other _ => "other"

/-- The opcode for a code. -/
def ofCode (code : UInt8) : Opcode :=
  if code = 0x0 then continuation
  else if code = 0x1 then text
  else if code = 0x2 then binary
  else if code = 0x8 then close
  else if code = 0x9 then ping
  else if code = 0xA then pong
  else other code

/-- The code of an opcode. -/
def code : Opcode → UInt8
  | continuation => 0x0
  | text => 0x1
  | binary => 0x2
  | close => 0x8
  | ping => 0x9
  | pong => 0xA
  | other code => code

end Opcode

/-! ## Frames -/

/-- A frame, its payload without the mask. -/
structure Frame where
  /-- Whether the frame ends a message. -/
  fin : Bool
  opcode : Opcode
  /-- Whether the payload was sent under a mask. -/
  masked : Bool
  payload : List UInt8
  deriving DecidableEq

/-- The largest payload that is accepted. -/
abbrev maxPayload : Nat := 16 * 1024 * 1024

/-! ## Masks -/

/-- The four bytes of a mask. -/
structure MaskKey where
  first : UInt8
  second : UInt8
  third : UInt8
  fourth : UInt8
  deriving DecidableEq

namespace MaskKey

/-- The bytes of a key. -/
def bytes (k : MaskKey) : List UInt8 := [k.first, k.second, k.third, k.fourth]

/-- The key with these bytes. -/
def ofBytes? : List UInt8 → Option MaskKey
  | [a, b, c, d] => some ⟨a, b, c, d⟩
  | _ => none

/-- The key's byte for a position of the payload. -/
def byteAt (k : MaskKey) (position : Nat) : UInt8 :=
  match position % 4 with
  | 0 => k.first
  | 1 => k.second
  | 2 => k.third
  | _ => k.fourth

/-- Puts a payload under the mask, or takes it out from under it. -/
def apply (k : MaskKey) (payload : List UInt8) : List UInt8 :=
  payload.mapIdx fun position b => b ^^^ k.byteAt position

end MaskKey

/-! ## Lengths -/

/-- A number as `width` bytes, the highest first. -/
def bigEndian : (width : Nat) → Nat → List UInt8
  | 0, _ => []
  | width + 1, n => UInt8.ofNat (n / pow2 (8 * width)) :: bigEndian width n

/-- The number that bytes stand for, the highest first. -/
def ofBigEndian (bytes : List UInt8) : Nat :=
  bytes.foldl (fun n b => n * 256 + b.toNat) 0

/-- The mask flag in the byte of the short length. -/
def maskFlag (masked : Bool) : UInt8 :=
  if masked then 0x80 else 0

/-- The mask flag and the length of a payload, in the shortest of three forms. -/
def lengthBytes (masked : Bool) (length : Nat) : List UInt8 :=
  if length < 126 then [maskFlag masked ||| UInt8.ofNat length]
  else if length < 65536 then (maskFlag masked ||| 126) :: bigEndian 2 length
  else (maskFlag masked ||| 127) :: bigEndian 8 length

/-! ## Writing -/

/-- The bytes of a final frame, masked if there is a key. -/
def encodeFrame (opcode : Opcode) (payload : List UInt8) (key : Option MaskKey) : List UInt8 :=
  let header := (0x80 ||| opcode.code) :: lengthBytes key.isSome payload.length
  match key with
  | some k => header ++ k.bytes ++ k.apply payload
  | none => header ++ payload

/-! ## Reading -/

/-- Reading from the bytes that a peer has sent before it closed. -/
abbrev Receive := ReceiveFrom (List UInt8)

/-- Exactly `n` bytes.  Where fewer are left they are lost, and the connection is
    closed. -/
def receive (n : Nat) : Receive (List UInt8) := fun bytes =>
  let (front, rest) := bytes.splitAt n
  if front.length = n then (.ok front, rest) else (.error .connectionClosed, rest)

/-- One byte. -/
def receiveByte : Receive UInt8 := fun bytes =>
  match bytes with
  | b :: rest => (.ok b, rest)
  | [] => (.error .connectionClosed, [])

/-- The length of a payload from the short length and the bytes after it. -/
def receiveLength (short : UInt8) : Receive Nat :=
  if short = 126 then do return ofBigEndian (← receive 2)
  else if short = 127 then do return ofBigEndian (← receive 8)
  else return short.toNat

/-- A payload of this length, from under a mask if it is masked. -/
def receivePayload (masked : Bool) (length : Nat) : Receive (List UInt8) := do
  if masked then
    match MaskKey.ofBytes? (← receive 4) with
    | some key => return key.apply (← receive length)
    | none => throw .connectionClosed
  else receive length

/-- The error for a payload that is too long. -/
def tooLarge (length : Nat) : SocketError :=
  .protocol ("frame payload too large: " ++ String.ofList (Text.digits length))

/-- One frame.  A length that is too large is refused before the key and the payload are
    read. -/
def receiveFrame : Receive Frame := do
  let first ← receiveByte
  let second ← receiveByte
  let masked := second &&& 0x80 != 0
  let length ← receiveLength (second &&& 0x7F)
  if maxPayload < length then throw (tooLarge length)
  else
    let payload ← receivePayload masked length
    return {
      fin := first &&& 0x80 != 0
      opcode := .ofCode (first &&& 0x0F)
      masked := masked
      payload := payload }

/-- At most `frames` frames, and what there is instead of a further one. -/
def receiveWithin : (frames : Nat) → List UInt8 → List Frame × SocketError
  | 0, _ => ([], .connectionClosed)
  | frames + 1, bytes =>
    match receiveFrame bytes with
    | (.ok frame, rest) =>
      let (more, failure) := receiveWithin frames rest
      (frame :: more, failure)
    | (.error e, _) => ([], e)

/-- Every frame, and the failure that ends them.  A frame has at least two bytes, so there
    are fewer frames than bytes. -/
def receiveAll (bytes : List UInt8) : List Frame × SocketError :=
  receiveWithin (bytes.length + 1) bytes

end LiveTrader.WebSocket
