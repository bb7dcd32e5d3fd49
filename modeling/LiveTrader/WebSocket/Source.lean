import LiveTrader.WebSocket.Error

/-!
  LiveTrader.WebSocket.Source

  Where received bytes come from.  A read takes some of the bytes that have arrived, at most as
  many as there is room for, and it takes none only where nothing more will come.  How many it
  takes is up to the source: `Arrivals` hands out the bytes in the parts in which they came, and
  a list of bytes as many as it can.
-/

namespace LiveTrader.WebSocket

/-- A source of bytes. -/
class Source (σ : Type) where
  /-- The bytes that are still to be read. -/
  bytes : σ → List UInt8
  /-- Reads at most this many bytes. -/
  read : Nat → σ → List UInt8 × σ
  /-- What is read comes off the front, and nothing else changes. -/
  read_append : ∀ n source, (read n source).1 ++ bytes (read n source).2 = bytes source
  /-- There is room for what is read. -/
  length_read : ∀ n source, (read n source).1.length ≤ n
  /-- Where there is room, nothing is read only at the end. -/
  bytes_of_read_eq_nil : ∀ n source, 0 < n → (read n source).1 = [] → bytes source = []

/-- Reading from a source, of which there is some left. -/
abbrev ReceiveFrom (σ : Type) := ExceptT SocketError (StateM σ)

instance : Source (List UInt8) where
  bytes := id
  read n bytes := (bytes.take n, bytes.drop n)
  read_append n bytes := List.take_append_drop n bytes
  length_read n bytes := List.length_take_le n bytes
  bytes_of_read_eq_nil _ _ hn h := (List.take_eq_nil_iff.mp h).resolve_left (Nat.ne_of_gt hn)

/-! ## Bytes in parts -/

/-- Bytes that arrive in parts, some of which may be empty. -/
abbrev Arrivals := List (List UInt8)

namespace Arrivals

/-- Reads from the first part that is not empty, and never from two at once. -/
def read (n : Nat) : Arrivals → List UInt8 × Arrivals
  | [] => ([], [])
  | [] :: later => read n later
  | (b :: part) :: later => ((b :: part).take n, (b :: part).drop n :: later)

theorem read_append (n : Nat) (parts : Arrivals) :
    (parts.read n).1 ++ (parts.read n).2.flatten = parts.flatten := by
  fun_induction read n parts with
  | case1 => rfl
  | case2 later ih => exact ih
  | case3 b part later =>
    rw [List.flatten_cons, List.flatten_cons, ← List.append_assoc, List.take_append_drop]

theorem length_read (n : Nat) (parts : Arrivals) : (parts.read n).1.length ≤ n := by
  fun_induction read n parts with
  | case1 => exact Nat.zero_le n
  | case2 later ih => exact ih
  | case3 b part later => exact List.length_take_le n _

theorem flatten_of_read_eq_nil {n : Nat} (hn : 0 < n) (parts : Arrivals)
    (h : (parts.read n).1 = []) : parts.flatten = [] := by
  fun_induction read n parts with
  | case1 => rfl
  | case2 later ih => exact ih h
  | case3 b part later =>
    -- a part with a byte in it would have given one
    rcases List.take_eq_nil_iff.mp h with hzero | hnil
    · exact absurd hzero (Nat.ne_of_gt hn)
    · cases hnil

instance : Source Arrivals where
  bytes := List.flatten
  read := read
  read_append := read_append
  length_read := length_read
  bytes_of_read_eq_nil _ parts hn h := flatten_of_read_eq_nil hn parts h

end Arrivals

end LiveTrader.WebSocket
