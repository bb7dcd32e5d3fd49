import Mathlib.Data.List.Induction
import Mathlib.Data.Nat.Digits.Defs
import Mathlib.Tactic.Ring
import LiveTrader.WebSocket.Frame

/-!
  LiveTrader.Proofs.Frames

  Frames on the wire.  `receiveFrame_eq` says what reading a frame makes of any bytes: the header
  is taken apart (`Header.of?`), and the body is what it declares.  Everything else about reading
  is read off that equation: which failure ends it, that it goes on, and that a frame which was
  written is read back, whatever comes after it.  A frame on the wire is described without the
  reader (`WireFrame`): a front whose length is complete, the key of a mask if the mask flag is
  set, and as many bytes as are declared.
-/

namespace LiveTrader.WebSocket

/-! ## Numbers and masks as bytes -/

theorem length_bigEndian (width n : Nat) : (bigEndian width n).length = width := by
  induction width with
  | zero => rfl
  | succ width ih => rw [bigEndian, List.length_cons, ih]

/-- The bytes before those of a number count by its width. -/
theorem foldl_bigEndian (width n before : Nat) :
    (bigEndian width n).foldl (fun n b => n * 256 + b.toNat) before =
      before * pow2 (8 * width) + n % pow2 (8 * width) := by
  induction width generalizing before with
  | zero => simp [bigEndian, pow2, Nat.mod_one]
  | succ width ih =>
    -- the highest byte is a digit to the base of the others: `n % (p * 256)` has it in front
    have hpow : pow2 (8 * (width + 1)) = pow2 (8 * width) * 256 :=
      Nat.pow_add 2 (8 * width) 8
    rw [bigEndian, List.foldl_cons, ih, UInt8.toNat_ofNat', hpow, Nat.mod_mul]
    ring

/-- What is read back of a number is what its bytes have room for. -/
theorem ofBigEndian_bigEndian (width n : Nat) :
    ofBigEndian (bigEndian width n) = n % pow2 (8 * width) := by
  rw [ofBigEndian, foldl_bigEndian, Nat.zero_mul, Nat.zero_add]

/-- Bytes with the highest first are the digits of a number to the base 256. -/
theorem ofBigEndian_eq_ofDigits (bytes : List UInt8) :
    ofBigEndian bytes = Nat.ofDigits 256 (bytes.reverse.map UInt8.toNat) := by
  -- the last byte is the lowest digit, so that the induction takes bytes off the end
  induction bytes using List.reverseRecOn with
  | nil => rfl
  | append_singleton bytes b ih =>
    have happend : ofBigEndian (bytes ++ [b]) = ofBigEndian bytes * 256 + b.toNat := by
      rw [ofBigEndian, List.foldl_append]
      rfl
    rw [happend, ih, List.reverse_append, List.map_append]
    show _ = Nat.ofDigits 256 (b.toNat :: bytes.reverse.map UInt8.toNat)
    rw [Nat.ofDigits_cons]
    ring

namespace MaskKey

theorem length_bytes (k : MaskKey) : k.bytes.length = 4 := rfl

/-- A key is read back from its bytes. -/
theorem ofBytes?_bytes (k : MaskKey) : ofBytes? k.bytes = some k := rfl

theorem exists_bytes {bytes : List UInt8} (h : bytes.length = 4) :
    ∃ k : MaskKey, k.bytes = bytes := by
  match bytes, h with
  | [a, b, c, d], _ => exact ⟨⟨a, b, c, d⟩, rfl⟩

theorem exists_ofBytes? {bytes : List UInt8} (h : bytes.length = 4) :
    ∃ k, ofBytes? bytes = some k := by
  obtain ⟨k, rfl⟩ := exists_bytes h
  exact ⟨k, ofBytes?_bytes k⟩

theorem length_apply (k : MaskKey) (payload : List UInt8) :
    (k.apply payload).length = payload.length :=
  List.length_mapIdx

/-- Under its mask twice, a payload is itself. -/
theorem apply_apply (k : MaskKey) (payload : List UInt8) : k.apply (k.apply payload) = payload := by
  have hcancel : ∀ x y : UInt8, x ^^^ y ^^^ y = x := fun x y => by
    rw [UInt8.xor_assoc, UInt8.xor_self, UInt8.xor_zero]
  unfold apply
  apply List.ext_getElem?
  intro i
  rw [List.getElem?_mapIdx, List.getElem?_mapIdx, Option.map_map]
  simp only [Function.comp_def, hcancel, Option.map_id']

end MaskKey

/-! ## Reading from the front -/

section Receive

variable {σ α β : Type} {r : ReceiveFrom σ α} {next : α → ReceiveFrom σ β} {source left : σ}
  {bytes : List UInt8}

/-- What is received goes on to the next step, with the bytes that are left. -/
theorem receive_bind_ok {a : α} (h : r source = (.ok a, left)) :
    (r >>= next) source = next a left := by
  simp only [bind, ExceptT.bind, ExceptT.mk, StateT.bind, h]
  rfl

/-- A failure to receive is the end of it. -/
theorem receive_bind_error {e : SocketError} (h : r source = (.error e, left)) :
    (r >>= next) source = (.error e, left) := by
  simp only [bind, ExceptT.bind, ExceptT.mk, StateT.bind, h]
  rfl

/-- If there are enough bytes they are received, and the others are left. -/
theorem receive_of_le {n : Nat} (h : n ≤ bytes.length) :
    receive n bytes = (.ok (bytes.take n), bytes.drop n) := by
  simp [receive, h]

theorem receive_of_lt {n : Nat} (h : bytes.length < n) :
    receive n bytes = (.error .connectionClosed, []) := by
  have hdrop : bytes.drop n = [] := List.drop_eq_nil_of_le (Nat.le_of_lt h)
  have htake : (bytes.take n).length ≠ n := by
    rw [List.length_take]
    omega
  simp only [receive, List.splitAt_eq, htake, ↓reduceIte, hdrop]

end Receive

/-! ## Headers -/

/-- How many bytes of a longer length follow a short one. -/
def extensionWidth (short : UInt8) : Nat :=
  if short = 126 then 2 else if short = 127 then 8 else 0

/-- The length that a short one and the bytes after it declare. -/
def declaredLength (short : UInt8) (extension : List UInt8) : Nat :=
  if extensionWidth short = 0 then short.toNat else ofBigEndian extension

/-- What stands in front of the key and the payload of a frame. -/
structure Header where
  fin : Bool
  opcode : Opcode
  masked : Bool
  /-- The declared length of the payload. -/
  length : Nat

namespace Header

/-- The header at the front of some bytes, and what follows it; `none` if they end inside. -/
def of? : List UInt8 → Option (Header × List UInt8)
  | first :: second :: rest =>
    let short := second &&& 0x7F
    let width := extensionWidth short
    if rest.length < width then none
    else some ({
      fin := first &&& 0x80 != 0
      opcode := .ofCode (first &&& 0x0F)
      masked := second &&& 0x80 != 0
      length := declaredLength short (rest.take width) }, rest.drop width)
  | _ => none

/-- How many bytes of a mask's key follow the header. -/
def keyWidth (h : Header) : Nat := if h.masked then 4 else 0

/-- How many bytes follow the header in all. -/
def bodyLength (h : Header) : Nat := h.keyWidth + h.length

/-- The payload in a body: what stands after the key, from under the mask. -/
def payload (h : Header) (body : List UInt8) : List UInt8 :=
  match MaskKey.ofBytes? (body.take h.keyWidth) with
  | some key => key.apply (body.drop h.keyWidth)
  | none => body

/-- The frame with this header and body. -/
def frame (h : Header) (body : List UInt8) : Frame :=
  ⟨h.fin, h.opcode, h.masked, h.payload body⟩

end Header

/-- The length of a payload is read from as many bytes as the short length asks for. -/
theorem receiveLength_eq (short : UInt8) (bytes : List UInt8) :
    receiveLength short bytes =
      if bytes.length < extensionWidth short then (.error .connectionClosed, [])
      else (.ok (declaredLength short (bytes.take (extensionWidth short))),
        bytes.drop (extensionWidth short)) := by
  -- both longer forms are read alike, so that only their width matters
  have hextended : ∀ width, 0 < width → extensionWidth short = width →
      (do return ofBigEndian (← receive width) : Receive Nat) bytes =
        if bytes.length < width then (.error .connectionClosed, [])
        else (.ok (declaredLength short (bytes.take width)), bytes.drop width) := by
    intro width hpos hwidth
    have hne : extensionWidth short ≠ 0 := by omega
    split
    case isTrue h => exact receive_bind_error (receive_of_lt h)
    case isFalse h =>
      rw [declaredLength, if_neg hne]
      exact receive_bind_ok (receive_of_le (Nat.le_of_not_lt h))
  unfold receiveLength
  by_cases h126 : short = 126
  · have hwidth : extensionWidth short = 2 := if_pos h126
    rw [if_pos h126, hwidth]
    exact hextended 2 (by decide) hwidth
  · rw [if_neg h126]
    by_cases h127 : short = 127
    · have hwidth : extensionWidth short = 8 := by rw [extensionWidth, if_neg h126, if_pos h127]
      rw [if_pos h127, hwidth]
      exact hextended 8 (by decide) hwidth
    · have hwidth : extensionWidth short = 0 := by rw [extensionWidth, if_neg h126, if_neg h127]
      rw [if_neg h127, declaredLength, hwidth]
      rfl

/-- The payload is read from the bytes of the body, unless they are missing. -/
theorem receivePayload_eq (h : Header) (bytes : List UInt8) :
    receivePayload h.masked h.length bytes =
      if bytes.length < h.bodyLength then (.error .connectionClosed, [])
      else (.ok (h.payload (bytes.take h.bodyLength)), bytes.drop h.bodyLength) := by
  unfold receivePayload
  cases hm : h.masked with
  | false =>
    have hbody : h.bodyLength = h.length := by simp [Header.bodyLength, Header.keyWidth, hm]
    have hpayload : ∀ body, h.payload body = body := by
      intro body
      simp [Header.payload, Header.keyWidth, hm, MaskKey.ofBytes?]
    rw [if_neg Bool.false_ne_true, hbody, hpayload]
    split
    case isTrue hlt => exact receive_of_lt hlt
    case isFalse hle => exact receive_of_le (Nat.le_of_not_lt hle)
  | true =>
    have hbody : h.bodyLength = 4 + h.length := by simp [Header.bodyLength, Header.keyWidth, hm]
    rw [if_pos rfl, hbody]
    -- the bytes may end in the key, or behind it in the payload
    by_cases hkey : bytes.length < 4
    · rw [if_pos (Nat.lt_of_lt_of_le hkey (Nat.le_add_right _ _))]
      exact receive_bind_error (receive_of_lt hkey)
    · have hkey : 4 ≤ bytes.length := Nat.le_of_not_lt hkey
      have hwidth : (bytes.take 4).length = 4 := by rw [List.length_take, Nat.min_eq_left hkey]
      obtain ⟨key, hk⟩ := MaskKey.exists_ofBytes? hwidth
      refine (receive_bind_ok (receive_of_le hkey)).trans ?_
      rw [hk]
      by_cases hlt : bytes.length < 4 + h.length
      · rw [if_pos hlt]
        exact receive_bind_error (receive_of_lt (by rw [List.length_drop]; omega))
      · have hpayload : h.payload (bytes.take (4 + h.length)) =
            key.apply ((bytes.drop 4).take h.length) := by
          have hwidth : h.keyWidth = 4 := by simp [Header.keyWidth, hm]
          rw [Header.payload, hwidth, List.take_take, Nat.min_eq_left (Nat.le_add_right _ _), hk,
            List.drop_take, Nat.add_sub_cancel_left]
        rw [if_neg hlt, hpayload, ← List.drop_drop]
        exact receive_bind_ok (receive_of_le (by rw [List.length_drop]; omega))

/-- A body that is too long is refused before any of it is read. -/
theorem receiveBody_eq (h : Header) (bytes : List UInt8) :
    (if maxPayload < h.length then throw (tooLarge h.length)
      else do
        let payload ← receivePayload h.masked h.length
        return ⟨h.fin, h.opcode, h.masked, payload⟩ : Receive Frame) bytes =
      if maxPayload < h.length then (.error (tooLarge h.length), bytes)
      else if bytes.length < h.bodyLength then (.error .connectionClosed, [])
      else (.ok (h.frame (bytes.take h.bodyLength)), bytes.drop h.bodyLength) := by
  have hpayload := receivePayload_eq h bytes
  by_cases hlarge : maxPayload < h.length
  · rw [if_pos hlarge, if_pos hlarge]
    rfl
  · rw [if_neg hlarge, if_neg hlarge]
    split at hpayload
    case isTrue hlt =>
      rw [if_pos hlt]
      exact receive_bind_error hpayload
    case isFalse hle =>
      rw [if_neg hle]
      exact receive_bind_ok hpayload

/-- **What reading a frame makes of any bytes.** -/
theorem receiveFrame_eq (bytes : List UInt8) :
    receiveFrame bytes = match Header.of? bytes with
      | none => (.error .connectionClosed, [])
      | some (h, rest) =>
        if maxPayload < h.length then (.error (tooLarge h.length), rest)
        else if rest.length < h.bodyLength then (.error .connectionClosed, [])
        else (.ok (h.frame (rest.take h.bodyLength)), rest.drop h.bodyLength) := by
  -- two bytes are always asked for; what else belongs to the header is told by the second
  match bytes with
  | [] => rfl
  | [first] => rfl
  | first :: second :: rest =>
    have hfirst : receiveByte (first :: second :: rest) = (.ok first, second :: rest) := rfl
    have hsecond : receiveByte (second :: rest) = (.ok second, rest) := rfl
    have hlength := receiveLength_eq (second &&& 0x7F) rest
    unfold receiveFrame
    refine (receive_bind_ok hfirst).trans ((receive_bind_ok hsecond).trans ?_)
    unfold Header.of?
    dsimp only
    split at hlength
    case isTrue h =>
      rw [if_pos h]
      exact receive_bind_error hlength
    case isFalse h =>
      rw [if_neg h]
      refine (receive_bind_ok hlength).trans ?_
      exact receiveBody_eq ⟨_, _, _, _⟩ _

theorem Header.length_of? {bytes rest : List UInt8} {h : Header}
    (hof : of? bytes = some (h, rest)) : rest.length + 2 ≤ bytes.length := by
  match bytes with
  | [] => cases hof
  | [first] => cases hof
  | first :: second :: tail =>
    unfold of? at hof
    dsimp only at hof
    split at hof
    case isTrue => cases hof
    case isFalse =>
      obtain ⟨-, rfl⟩ := Prod.mk.inj (Option.some.inj hof)
      simp only [List.length_drop, List.length_cons]
      omega

/-- A frame takes two bytes at least. -/
theorem length_of_receiveFrame {bytes rest : List UInt8} {f : Frame}
    (h : receiveFrame bytes = (.ok f, rest)) : rest.length + 2 ≤ bytes.length := by
  rw [receiveFrame_eq] at h
  split at h
  case h_1 => cases h
  case h_2 header body hof =>
    have hbody := Header.length_of? hof
    split at h
    case isTrue => cases h
    case isFalse =>
      split at h
      case isTrue => cases h
      case isFalse =>
        obtain ⟨-, rfl⟩ := Prod.mk.inj h
        rw [List.length_drop]
        omega

/-- Why there is no frame at the front of bytes: they declare a length that is too large, or
    they end before the frame does. -/
def frameFailure (bytes : List UInt8) : SocketError :=
  match Header.of? bytes with
  | some (h, _) => if maxPayload < h.length then tooLarge h.length else .connectionClosed
  | none => .connectionClosed

/-- A frame that is not received fails for one reason, which the bytes tell. -/
theorem eq_frameFailure {bytes rest : List UInt8} {e : SocketError}
    (h : receiveFrame bytes = (.error e, rest)) : e = frameFailure bytes := by
  rw [receiveFrame_eq] at h
  unfold frameFailure
  -- along the receiver's branches: no header, a length above the limit, a short payload
  split at h
  case h_1 hof =>
    obtain ⟨he, -⟩ := Prod.mk.inj h
    rw [hof]
    exact (Except.error.inj he).symm
  case h_2 header body hof =>
    rw [hof]
    dsimp only
    split at h
    case isTrue hlarge =>
      obtain ⟨he, -⟩ := Prod.mk.inj h
      rw [if_pos hlarge]
      exact (Except.error.inj he).symm
    case isFalse hlarge =>
      rw [if_neg hlarge]
      split at h
      case isTrue =>
        obtain ⟨he, -⟩ := Prod.mk.inj h
        exact (Except.error.inj he).symm
      case isFalse => cases h

/-! ## Frames on the wire -/

/-- What stands in front of the key and the payload of a frame: two bytes, and the longer form of
    a length where the short one announces it. -/
structure Front where
  first : UInt8
  second : UInt8
  extension : List UInt8
  length_extension : extension.length = extensionWidth (second &&& 0x7F)

namespace Front

/-- The front on the wire. -/
def bytes (p : Front) : List UInt8 := p.first :: p.second :: p.extension

/-- Whether the mask flag is set. -/
def masked (p : Front) : Bool := p.second &&& 0x80 != 0

/-- The length that is declared: seven bits, or the digits of the longer form to the base of a
    byte, the highest first. -/
def declared (p : Front) : Nat :=
  if p.extension = [] then (p.second &&& 0x7F).toNat
  else Nat.ofDigits 256 (p.extension.reverse.map UInt8.toNat)

/-- What a reader makes of the front. -/
def header (p : Front) : Header :=
  ⟨p.first &&& 0x80 != 0, .ofCode (p.first &&& 0x0F), p.masked, p.declared⟩

variable (p : Front)

theorem length_bytes : p.bytes.length = 2 + extensionWidth (p.second &&& 0x7F) := by
  rw [Front.bytes, List.length_cons, List.length_cons, p.length_extension]
  omega

theorem declaredLength_eq : declaredLength (p.second &&& 0x7F) p.extension = p.declared := by
  have hempty : p.extension = [] ↔ extensionWidth (p.second &&& 0x7F) = 0 := by
    rw [← p.length_extension, List.length_eq_zero_iff]
  unfold declaredLength declared
  simp only [hempty, ofBigEndian_eq_ofDigits]

/-- A front is taken apart as it stands, whatever follows it. -/
theorem of?_bytes (rest : List UInt8) : Header.of? (p.bytes ++ rest) = some (p.header, rest) := by
  have hwidth := p.length_extension
  rw [Front.bytes, List.cons_append, List.cons_append]
  unfold Header.of?
  dsimp only
  rw [if_neg (by rw [List.length_append]; omega), List.take_left' hwidth, List.drop_left' hwidth,
    declaredLength_eq]
  rfl

end Front

/-- What follows the header of a frame with this payload. -/
def bodyBytes (payload : List UInt8) : Option MaskKey → List UInt8
  | some key => key.bytes ++ key.apply payload
  | none => payload

namespace Header

section Body

variable {h : Header} {payload : List UInt8} {key : Option MaskKey} (hkey : key.isSome = h.masked)
include hkey

theorem length_bodyBytes (hlength : payload.length = h.length) :
    (bodyBytes payload key).length = h.bodyLength := by
  cases key with
  | none => simp [bodyBytes, bodyLength, keyWidth, ← hkey, hlength]
  | some key =>
    simp [bodyBytes, bodyLength, keyWidth, ← hkey, MaskKey.length_bytes, MaskKey.length_apply,
      hlength]

/-- The payload is taken out from under the mask that it was put under. -/
theorem payload_bodyBytes : h.payload (bodyBytes payload key) = payload := by
  cases key with
  | none => simp [Header.payload, bodyBytes, keyWidth, ← hkey, MaskKey.ofBytes?]
  | some key =>
    have hwidth : h.keyWidth = key.bytes.length := by simp [keyWidth, ← hkey, MaskKey.length_bytes]
    rw [Header.payload, hwidth, bodyBytes, List.take_left', List.drop_left', MaskKey.ofBytes?_bytes]
    · exact key.apply_apply payload
    · rfl
    · rfl

end Body

end Header

/-- A frame on the wire: a front, the key of a mask if the mask flag is set, and a payload of the
    declared length. -/
structure WireFrame where
  front : Front
  key : Option MaskKey
  isSome_key : key.isSome = front.masked
  payload : List UInt8
  length_payload : payload.length = front.declared

namespace WireFrame

/-- The bytes of the frame; the payload is under the mask if there is one. -/
def bytes (w : WireFrame) : List UInt8 := w.front.bytes ++ bodyBytes w.payload w.key

/-- The frame that a reader is to get; the payload is not under the mask. -/
def frame (w : WireFrame) : Frame where
  fin := w.front.first &&& 0x80 != 0
  opcode := .ofCode (w.front.first &&& 0x0F)
  masked := w.front.masked
  payload := w.payload

theorem length_body (w : WireFrame) :
    (bodyBytes w.payload w.key).length = w.front.header.bodyLength :=
  Header.length_bodyBytes w.isSome_key w.length_payload

end WireFrame

/-- A frame within the limit is read, and nothing after it is touched. -/
theorem receiveFrame_wireFrame {w : WireFrame} (hle : w.front.declared ≤ maxPayload)
    (rest : List UInt8) :
    receiveFrame (w.bytes ++ rest) = (.ok w.frame, rest) := by
  have hbody := w.length_body
  have hlimit : ¬ maxPayload < w.front.header.length := Nat.not_lt.mpr hle
  have hpayload : w.front.header.payload (bodyBytes w.payload w.key) = w.payload :=
    Header.payload_bodyBytes w.isSome_key
  rw [receiveFrame_eq, WireFrame.bytes, List.append_assoc, Front.of?_bytes]
  dsimp only
  rw [if_neg hlimit, if_neg (by rw [List.length_append]; omega), List.take_left' hbody,
    List.drop_left' hbody, Header.frame, hpayload]
  rfl

/-! ## Successive frames -/

/-- Reading frames one after the other gives these frames and leaves the last bytes. -/
inductive ReadsTo : List UInt8 → List Frame → List UInt8 → Prop
  | nil (bytes : List UInt8) : ReadsTo bytes [] bytes
  | cons {bytes rest tail : List UInt8} {f : Frame} {frames : List Frame}
      (h : receiveFrame bytes = (.ok f, rest)) (hrest : ReadsTo rest frames tail) :
      ReadsTo bytes (f :: frames) tail

/-- With room for more frames than there are, as many are read as with any such room. -/
theorem receiveWithin_eq_receiveAll {room : Nat} {bytes : List UInt8}
    (h : bytes.length < room) : receiveWithin room bytes = receiveAll bytes := by
  -- the room is generalized on both sides: each frame takes one off it, and a byte at least
  have hsame : ∀ room room' bytes, bytes.length < room → bytes.length < room' →
      receiveWithin room bytes = receiveWithin room' bytes := by
    intro room
    induction room with
    | zero => exact fun _ _ h => absurd h (Nat.not_lt_zero _)
    | succ room ih =>
      rintro (- | room') bytes h h'
      · exact absurd h' (Nat.not_lt_zero _)
      · unfold receiveWithin
        match hf : receiveFrame bytes with
        | (.error e, rest) => rfl
        | (.ok f, rest) =>
          have := length_of_receiveFrame hf
          dsimp only
          rw [ih room' rest (by omega) (by omega)]
  exact hsame _ _ _ h (Nat.lt_succ_self _)

/-- The first frame is received before the others. -/
theorem receiveAll_of_receiveFrame {bytes rest : List UInt8} {f : Frame}
    (h : receiveFrame bytes = (.ok f, rest)) :
    receiveAll bytes = (f :: (receiveAll rest).1, (receiveAll rest).2) := by
  have hlt : rest.length < bytes.length := by
    have := length_of_receiveFrame h
    omega
  have hroom := receiveWithin_eq_receiveAll hlt
  unfold receiveAll
  rw [receiveWithin, h]
  dsimp only
  rw [hroom]
  rfl

/-- Reading everything goes on after frames that were read. -/
theorem ReadsTo.receiveAll_eq {bytes tail : List UInt8} {frames : List Frame}
    (h : ReadsTo bytes frames tail) :
    receiveAll bytes = (frames ++ (receiveAll tail).1, (receiveAll tail).2) := by
  induction h with
  | nil => rfl
  | cons h hrest ih => rw [receiveAll_of_receiveFrame h, ih]; rfl

/-! ## Frames that are sent -/

namespace Opcode

theorem code_ofCode (c : UInt8) : (ofCode c).code = c := by
  unfold ofCode
  split_ifs with h0 h1 h2 h8 h9 hA
  all_goals first | exact Eq.symm ‹_› | rfl

end Opcode

/-- The opcode of four bits beside the final flag. -/
theorem finalByte_eq {code : UInt8} (h : code < 16) :
    (0x80 ||| code) &&& 0x0F = code ∧ ((0x80 ||| code) &&& 0x80 != 0) = true := by
  have hall : ∀ n < 16, (0x80 ||| UInt8.ofNat n) &&& 0x0F = UInt8.ofNat n ∧
      ((0x80 ||| UInt8.ofNat n) &&& 0x80 != 0) = true := by decide
  have := hall code.toNat (UInt8.lt_iff_toNat_lt.mp h)
  rwa [UInt8.ofNat_toNat] at this

/-- The short length of seven bits beside the mask flag. -/
theorem lengthByte_eq (masked : Bool) {short : UInt8} (h : short < 128) :
    (maskFlag masked ||| short) &&& 0x7F = short ∧
      ((maskFlag masked ||| short) &&& 0x80 != 0) = masked := by
  have hall : ∀ masked, ∀ n < 128, (maskFlag masked ||| UInt8.ofNat n) &&& 0x7F = UInt8.ofNat n ∧
      ((maskFlag masked ||| UInt8.ofNat n) &&& 0x80 != 0) = masked := by decide +kernel
  have := hall masked short.toNat (UInt8.lt_iff_toNat_lt.mp h)
  rwa [UInt8.ofNat_toNat] at this

/-- The short length for a length: itself, or the announcement of a longer form. -/
def shortLength (length : Nat) : UInt8 :=
  if length < 126 then UInt8.ofNat length else if length < 65536 then 126 else 127

/-- The longer form of a length, if its short length announces one. -/
def lengthExtension (length : Nat) : List UInt8 :=
  bigEndian (extensionWidth (shortLength length)) length

section Lengths

variable {length : Nat}

/-- A length is itself its short length, or it is announced to have two bytes, or eight. -/
theorem shortLength_cases (length : Nat) :
    (length < 126 ∧ (shortLength length).toNat = length ∧
        extensionWidth (shortLength length) = 0) ∨
      ((126 ≤ length ∧ length < 65536) ∧ shortLength length = 126 ∧
        extensionWidth (shortLength length) = 2) ∨
      (65536 ≤ length ∧ shortLength length = 127 ∧ extensionWidth (shortLength length) = 8) := by
  by_cases h126 : length < 126
  · have hshort : shortLength length = UInt8.ofNat length := if_pos h126
    have htoNat : (shortLength length).toNat = length := by
      rw [hshort, UInt8.toNat_ofNat', Nat.mod_eq_of_lt (Nat.lt_of_lt_of_le h126 (by decide))]
    have hwidth : extensionWidth (shortLength length) = 0 := by
      rw [extensionWidth, if_neg, if_neg]
      · exact fun h => absurd (htoNat.symm.trans (congrArg UInt8.toNat h)) (by simp; omega)
      · exact fun h => absurd (htoNat.symm.trans (congrArg UInt8.toNat h)) (by simp; omega)
    exact .inl ⟨h126, htoNat, hwidth⟩
  · by_cases h65536 : length < 65536
    · have hshort : shortLength length = 126 := by rw [shortLength, if_neg h126, if_pos h65536]
      exact .inr (.inl ⟨⟨Nat.le_of_not_lt h126, h65536⟩, hshort, by rw [hshort]; rfl⟩)
    · have hshort : shortLength length = 127 := by rw [shortLength, if_neg h126, if_neg h65536]
      exact .inr (.inr ⟨Nat.le_of_not_lt h65536, hshort, by rw [hshort]; rfl⟩)

/-- The short length leaves the highest bit to the mask. -/
theorem shortLength_lt (length : Nat) : shortLength length < 128 := by
  rw [UInt8.lt_iff_toNat_lt]
  rcases shortLength_cases length with ⟨h, hshort, -⟩ | ⟨-, hshort, -⟩ | ⟨-, hshort, -⟩
  · exact Nat.lt_of_le_of_lt (Nat.le_of_eq hshort) (Nat.lt_trans h (by decide))
  · exact hshort ▸ by decide
  · exact hshort ▸ by decide

/-- Which form is used shows in the short length. -/
theorem shortLength_forms (length : Nat) :
    (shortLength length < 126 ↔ length < 126) ∧
      (shortLength length = 126 ↔ 126 ≤ length ∧ length ≤ 65535) ∧
      (shortLength length = 127 ↔ 65535 < length) := by
  have h126 : (126 : UInt8).toNat = 126 := rfl
  have h127 : (127 : UInt8).toNat = 127 := rfl
  rw [UInt8.lt_iff_toNat_lt, ← UInt8.toNat_inj, ← UInt8.toNat_inj, h126, h127]
  rcases shortLength_cases length with ⟨h, hshort, -⟩ | ⟨h, hshort, -⟩ | ⟨h, hshort, -⟩
  · omega
  · rw [hshort, h126]
    omega
  · rw [hshort, h127]
    omega

/-- The length is written as its short form with the flag, and as many bytes as that asks for. -/
theorem lengthBytes_eq (masked : Bool) :
    lengthBytes masked length =
      (maskFlag masked ||| shortLength length) :: lengthExtension length := by
  unfold lengthBytes lengthExtension
  rcases shortLength_cases length with ⟨h, -, hwidth⟩ | ⟨h, hshort, hwidth⟩ | ⟨h, hshort, hwidth⟩
  · rw [if_pos h, hwidth, shortLength, if_pos h]
    rfl
  · rw [if_neg (Nat.not_lt.mpr h.1), if_pos h.2, hwidth, hshort]
  · have h126 : ¬ length < 126 := by omega
    rw [if_neg h126, if_neg (Nat.not_lt.mpr h), hwidth, hshort]

/-- The bits of a length that are declared: up to 64, which is all of it in the shorter forms. -/
theorem declaredLength_shortLength :
    declaredLength (shortLength length) (lengthExtension length) = length % pow2 64 := by
  unfold declaredLength lengthExtension
  rcases shortLength_cases length with ⟨h, hshort, hwidth⟩ | ⟨h, -, hwidth⟩ | ⟨-, -, hwidth⟩
  · rw [hwidth, if_pos rfl, hshort, Nat.mod_eq_of_lt (Nat.lt_trans h (by decide))]
  · rw [hwidth, if_neg (by decide), ofBigEndian_bigEndian, Nat.mod_eq_of_lt h.2,
      Nat.mod_eq_of_lt (Nat.lt_trans h.2 (by decide))]
  · rw [hwidth, if_neg (by decide), ofBigEndian_bigEndian]

end Lengths

/-- A frame is written as its first byte, its length, and its body. -/
theorem encodeFrame_eq (opcode : Opcode) (payload : List UInt8) (key : Option MaskKey) :
    encodeFrame opcode payload key =
      (0x80 ||| opcode.code) :: (maskFlag key.isSome ||| shortLength payload.length) ::
        (lengthExtension payload.length ++ bodyBytes payload key) := by
  unfold encodeFrame
  rw [lengthBytes_eq]
  cases key with
  | none => rfl
  | some key => simp [bodyBytes]

/-- The front of a final frame with a payload of this length. -/
def Front.written (opcode : Opcode) (length : Nat) (masked : Bool) : Front where
  first := 0x80 ||| opcode.code
  second := maskFlag masked ||| shortLength length
  extension := lengthExtension length
  length_extension := by
    rw [(lengthByte_eq masked (shortLength_lt length)).1, lengthExtension, length_bigEndian]

theorem Front.masked_written (opcode : Opcode) (length : Nat) (masked : Bool) :
    (written opcode length masked).masked = masked :=
  (lengthByte_eq masked (shortLength_lt length)).2

/-- The length that is written is the one that is read. -/
theorem Front.declared_written (opcode : Opcode) {length : Nat} (masked : Bool)
    (h : length ≤ maxPayload) : (written opcode length masked).declared = length := by
  have hshort : (written opcode length masked).second &&& 0x7F = shortLength length :=
    (lengthByte_eq masked (shortLength_lt length)).1
  -- the limit of a payload is far below what the longest form can declare
  have hlength : length < pow2 64 := Nat.lt_of_le_of_lt h (by decide)
  rw [← declaredLength_eq, hshort]
  exact declaredLength_shortLength.trans (Nat.mod_eq_of_lt hlength)

/-- The frame of a payload within the limit, as it is written. -/
def WireFrame.written (opcode : Opcode) {payload : List UInt8} (key : Option MaskKey)
    (h : payload.length ≤ maxPayload) : WireFrame where
  front := .written opcode payload.length key.isSome
  key := key
  isSome_key := (Front.masked_written ..).symm
  payload := payload
  length_payload := (Front.declared_written opcode key.isSome h).symm

section Written

variable (opcode : Opcode) {payload : List UInt8} (key : Option MaskKey)
  (h : payload.length ≤ maxPayload)

theorem WireFrame.bytes_written : (written opcode key h).bytes = encodeFrame opcode payload key :=
  (encodeFrame_eq opcode payload key).symm

theorem WireFrame.declared_le_written : (written opcode key h).front.declared ≤ maxPayload :=
  (Front.declared_written opcode key.isSome h).trans_le h

end Written

/-- What stands in front of the key and the payload: the final flag and the opcode, the mask flag
    and a short length, and the longer form of the length in the width that is announced. -/
structure Layout (opcode : Opcode) (payload : List UInt8) (key : Option MaskKey)
    (first second : UInt8) (extension : List UInt8) : Prop where
  bytes_eq : encodeFrame opcode payload key =
    first :: second :: (extension ++ bodyBytes payload key)
  first_eq : first = 0x80 ||| opcode.code
  masked_iff : second &&& 0x80 ≠ 0 ↔ key.isSome
  sevenBits_iff : second &&& 0x7F < 126 ↔ payload.length < 126
  sixteenBits_iff : second &&& 0x7F = 126 ↔ 126 ≤ payload.length ∧ payload.length ≤ 65535
  sixtyFourBits_iff : second &&& 0x7F = 127 ↔ 65535 < payload.length
  length_extension : extension.length = extensionWidth (second &&& 0x7F)
  declares : declaredLength (second &&& 0x7F) extension = payload.length % pow2 64

/-- The shortest form of the length is used. -/
theorem encodeFrame_layout (opcode : Opcode) (payload : List UInt8) (key : Option MaskKey) :
    Layout opcode payload key (0x80 ||| opcode.code)
      (maskFlag key.isSome ||| shortLength payload.length) (lengthExtension payload.length) := by
  obtain ⟨hshort, hmasked⟩ := lengthByte_eq key.isSome (shortLength_lt payload.length)
  obtain ⟨hseven, hsixteen, hsixtyFour⟩ := shortLength_forms payload.length
  refine ⟨encodeFrame_eq opcode payload key, rfl, ?_, ?_, ?_, ?_, ?_, ?_⟩
  · rw [← bne_iff_ne, hmasked]
  · rwa [hshort]
  · rwa [hshort]
  · rwa [hshort]
  · rw [hshort, lengthExtension, length_bigEndian]
  · rw [hshort, declaredLength_shortLength]

/-- A frame that can be written and read: an opcode of four bits, a payload within the limit, and
    the key of a mask if it is to go under one. -/
structure Outgoing where
  code : UInt8
  code_lt : code < 16
  payload : List UInt8
  length_le : payload.length ≤ maxPayload
  key : Option MaskKey

namespace Outgoing

/-- What the frame is for. -/
def opcode (f : Outgoing) : Opcode := .ofCode f.code

/-- The bytes that are written. -/
def bytes (f : Outgoing) : List UInt8 := encodeFrame f.opcode f.payload f.key

/-- The frame that a reader is to get. -/
def frame (f : Outgoing) : Frame := ⟨true, f.opcode, f.key.isSome, f.payload⟩

/-- A frame that was written is read back, and nothing after it is touched. -/
theorem receiveFrame_bytes (f : Outgoing) (rest : List UInt8) :
    receiveFrame (f.bytes ++ rest) = (.ok f.frame, rest) := by
  have hopcode : f.opcode.code = f.code := Opcode.code_ofCode f.code
  obtain ⟨hlow, hfin⟩ := finalByte_eq f.code_lt
  have hframe : (WireFrame.written f.opcode f.key f.length_le).frame = f.frame := by
    show Frame.mk ((0x80 ||| f.opcode.code) &&& 0x80 != 0)
      (.ofCode ((0x80 ||| f.opcode.code) &&& 0x0F))
      (Front.written f.opcode f.payload.length f.key.isSome).masked f.payload = f.frame
    rw [hopcode, hfin, hlow, Front.masked_written]
    rfl
  rw [← hframe, bytes, ← WireFrame.bytes_written f.opcode f.key f.length_le]
  exact receiveFrame_wireFrame (WireFrame.declared_le_written ..) rest

end Outgoing

/-- **Frames that were written one after the other are read back in order**, and the bytes after
    them stay unread; every frame is written with the shortest form of its length. -/
theorem readsTo_written (frames : List Outgoing) (trailing : List UInt8) :
    ReadsTo (frames.flatMap Outgoing.bytes ++ trailing) (frames.map Outgoing.frame) trailing ∧
      receiveAll (frames.flatMap Outgoing.bytes ++ trailing) =
        (frames.map Outgoing.frame ++ (receiveAll trailing).1, (receiveAll trailing).2) ∧
      ∀ opcode payload key, ∃ first second extension,
        Layout opcode payload key first second extension := by
  have hreads : ReadsTo (frames.flatMap Outgoing.bytes ++ trailing) (frames.map Outgoing.frame)
      trailing := by
    induction frames with
    | nil => exact .nil trailing
    | cons f frames ih =>
      rw [List.flatMap_cons, List.append_assoc, List.map_cons]
      exact .cons (f.receiveFrame_bytes _) ih
  exact ⟨hreads, hreads.receiveAll_eq, fun opcode payload key =>
    ⟨_, _, _, encodeFrame_layout opcode payload key⟩⟩

end LiveTrader.WebSocket
