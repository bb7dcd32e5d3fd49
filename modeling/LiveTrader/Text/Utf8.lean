/-
  LiveTrader.Text.Utf8

  UTF-8 over lists of bytes: encoding, strict decoding (frame payloads and
  files), and lenient decoding that writes one replacement character for each
  maximal ill-formed part (response heads).
-/

namespace LiveTrader.Text

/-! ## Encoding -/

/-- The UTF-8 bytes of a list of characters. -/
def encodeChars (cs : List Char) : List UInt8 :=
  cs.flatMap String.utf8EncodeChar

/-- The UTF-8 bytes of a text. -/
def bytesOf (s : String) : List UInt8 :=
  encodeChars s.toList

/-! ## Decoding -/

/-- A continuation byte in a given range. -/
def inByteRange (lo hi : Nat) (b : UInt8) : Bool :=
  lo ≤ b.toNat && b.toNat ≤ hi

/-- What a lead byte announces: the bits it contributes, the range of the second
    byte, and how many bytes follow in all. -/
def leadByte? (b : UInt8) : Option (Nat × Nat × Nat × Nat) :=
  let n := b.toNat
  if n < 0x80 then some (n, 0, 0, 0)
  else if 0xC2 ≤ n ∧ n ≤ 0xDF then some (n - 0xC0, 0x80, 0xBF, 1)
  else if n = 0xE0 then some (0, 0xA0, 0xBF, 2)
  else if n = 0xED then some (0xD, 0x80, 0x9F, 2)
  else if 0xE1 ≤ n ∧ n ≤ 0xEF then some (n - 0xE0, 0x80, 0xBF, 2)
  else if n = 0xF0 then some (0, 0x90, 0xBF, 3)
  else if 0xF1 ≤ n ∧ n ≤ 0xF3 then some (n - 0xF0, 0x80, 0xBF, 3)
  else if n = 0xF4 then some (4, 0x80, 0x8F, 3)
  else none

/-- Takes up to `count` continuation bytes, the first within `lo`–`hi`; returns the
    value so far, how many were missing, and the bytes left. -/
def continuation (acc lo hi : Nat) : Nat → List UInt8 → Nat × Nat × List UInt8
  | 0, bytes => (acc, 0, bytes)
  | count + 1, [] => (acc, count + 1, [])
  | count + 1, b :: rest =>
    if inByteRange lo hi b then
      continuation (acc * 64 + (b.toNat - 0x80)) 0x80 0xBF count rest
    else (acc, count + 1, b :: rest)

/-- One character or one ill-formed part (`none`) from the front of a non-empty
    list of bytes, and what follows it. -/
def decodeStep (b : UInt8) (rest : List UInt8) : Option Char × List UInt8 :=
  match leadByte? b with
  | none => (none, rest)
  | some (acc, lo, hi, count) =>
    match continuation acc lo hi count rest with
    | (n, 0, rest) => (some (Char.ofNat n), rest)
    | (_, _, rest) => (none, rest)

theorem continuation_length_le (acc lo hi count : Nat) (bytes : List UInt8) :
    (continuation acc lo hi count bytes).2.2.length ≤ bytes.length := by
  induction count generalizing acc lo hi bytes with
  | zero => simp [continuation]
  | succ count ih =>
    cases bytes with
    | nil => simp [continuation]
    | cons b rest =>
      unfold continuation
      split
      · exact Nat.le_succ_of_le (ih ..)
      · exact Nat.le_refl _

theorem decodeStep_length_le (b : UInt8) (rest : List UInt8) :
    (decodeStep b rest).2.length ≤ rest.length := by
  unfold decodeStep
  split
  · exact Nat.le_refl _
  · next acc lo hi count _ =>
    have h := continuation_length_le acc lo hi count rest
    split <;> simp_all

/-- The characters of the bytes, `none` standing for each maximal ill-formed part. -/
def decodeParts : List UInt8 → List (Option Char)
  | [] => []
  | b :: rest =>
    let step := decodeStep b rest
    step.1 :: decodeParts step.2
termination_by bytes => bytes.length
decreasing_by
  have := decodeStep_length_le b rest
  simp only [List.length_cons]
  omega

/-- Strict decoding: `none` when any part is ill-formed. -/
def decode? (bytes : List UInt8) : Option String :=
  ((decodeParts bytes).mapM id).map String.ofList

/-- Lenient decoding: an ill-formed part becomes U+FFFD. -/
def decodeLossy (bytes : List UInt8) : String :=
  String.ofList ((decodeParts bytes).map (·.getD (Char.ofNat 0xFFFD)))

end LiveTrader.Text
