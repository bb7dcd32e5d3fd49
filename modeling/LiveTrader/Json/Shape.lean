import LiveTrader.Json.Basic

/-!
  LiveTrader.Json.Shape

  What a reader knows about a value before it reads it.  A record is written as an
  object, or as the array of its members' values in their order; members at the end
  that have a default may then be left out.
-/

namespace LiveTrader.Json

/-- What a reader knows about a value. -/
inductive Shape where
  /-- Any value is read. -/
  | anything
  /-- The word of an enumeration. -/
  | word
  /-- The members of a record in their order; an array gives at least the first
      `required` of them. -/
  | record (required : Nat) (members : List (String × Shape))

namespace Shape

/-- A record whose members may be anything. -/
def ofNames (required : Nat) (names : List String) : Shape :=
  .record required (names.map fun name => (name, .anything))

/-- Whether an array of this length can be a record. -/
def fits (required size length : Nat) : Bool :=
  required ≤ length && length ≤ size

/-- The members that a record has in a value. -/
def members? : Shape → Json → Option Json
  | record .., obj ms => some (obj ms)
  | record required members, arr vs =>
    if fits required members.length vs.length then
      some (object ((members.map Prod.fst).zip vs))
    else none
  | _, _ => none

end Shape

end LiveTrader.Json
