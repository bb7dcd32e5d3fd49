import LiveTrader.WebSocket.Error

/-!
  LiveTrader.Stream.Supervision

  A stream of events over connections that may fail.  A network failure is reported
  and then another connection is opened, but after a second failure without an event
  in between the stream ends.  Any other failure ends the stream at once, and so does a
  connection that ends by itself.
-/

namespace LiveTrader

/-- What is read from one connection, in order.  It ends after the last item, and nothing
    is read after a failure. -/
abbrev Connection := List (Except WebSocket.SocketError Json)

variable {m : Type → Type} [Monad m] {α : Type}

/-- What one connection adds to a stream. -/
structure Watch (α : Type) where
  items : List (Except Fault α)
  /-- Whether another connection is to be opened. -/
  reopen : Bool

/-- Puts an item before those of a watch. -/
def Watch.cons (item : Except Fault α) (w : Watch α) : Watch α :=
  { w with items := item :: w.items }

/-- Reads a connection.  Messages that report no event are passed over; an event restores
    the right to connect again. -/
def watch (parse : Json → Option α) (mayReopen : Bool) : Connection → Watch α
  | [] => ⟨[], false⟩
  | .error e :: _ => ⟨[.error e.fault], e.isNetwork && mayReopen⟩
  | .ok message :: rest =>
    match parse message with
    | some event => (watch parse true rest).cons (.ok event)
    | none => watch parse mayReopen rest

/-- The items of a stream over at most `opens` connections, the first of which may or may
    not be followed by another one without an event. -/
def followFrom (parse : Json → Option α) (connect : m Connection) (mayReopen : Bool) :
    (opens : Nat) → m (List (Except Fault α))
  | 0 => return []
  | opens + 1 => do
    let w := watch parse mayReopen (← connect)
    if w.reopen then return w.items ++ (← followFrom parse connect false opens)
    else return w.items

/-- The items of a stream over at most `opens` connections. -/
def follow (parse : Json → Option α) (connect : m Connection) (opens : Nat) :
    m (List (Except Fault α)) :=
  followFrom parse connect true opens

end LiveTrader
