import LiveTrader.Time.Calendar

/-!
  LiveTrader.Time.Instant

  Points in time of the UTC time scale to the nanosecond.  A leap second is the
  second before it with more than a thousand million nanoseconds.
-/

namespace LiveTrader

/-- A point in time: whole seconds since 1 January 1970 and nanoseconds within. -/
structure Instant where
  seconds : Int
  nanos : Nat
  deriving DecidableEq

namespace Instant

/-- The seconds of a day. -/
abbrev secondsPerDay : Int := 86400

/-- The date and the second of the day. -/
def split (t : Instant) : Date × Nat :=
  (Date.ofDays (t.seconds / secondsPerDay), (t.seconds % secondsPerDay).toNat)

/-- Whether the date of an instant is one that a calendar date can have. -/
def inRange (t : Instant) : Bool :=
  (Date.mk Date.firstYear 1 1).toDays ≤ t.seconds / secondsPerDay
    && t.seconds / secondsPerDay ≤ Date.lastDay

/-- The instant a number of microseconds after 1 January 1970. -/
def ofMicros (micros : Int) : Instant :=
  ⟨micros / 1000000, (micros % 1000000).toNat * 1000⟩

/-- The instant a number of milliseconds after 1 January 1970, if its date exists. -/
def ofMillis? (millis : Int) : Option Instant :=
  let t : Instant := ofMicros (millis * 1000)
  if t.inRange then some t else none

/-- Milliseconds since 1 January 1970, rounded down. -/
def toMillis (t : Instant) : Int :=
  t.seconds * 1000 + (t.nanos / 1000000 : Nat)

/-- Earlier instants come first. -/
def lt (a b : Instant) : Bool :=
  a.seconds < b.seconds || (a.seconds == b.seconds && a.nanos < b.nanos)

theorem lt_iff {t u : Instant} :
    t.lt u = true ↔ t.seconds < u.seconds ∨ t.seconds = u.seconds ∧ t.nanos < u.nanos := by
  simp [lt]

/-! ## Text -/

/-- Two digits each of hour, minute and second, between them `separator`. -/
def clockChars (separator : List Char) (secondOfDay leap : Nat) : List Char :=
  Text.padded 2 (secondOfDay / 3600) ++ separator
    ++ Text.padded 2 (secondOfDay / 60 % 60) ++ separator
    ++ Text.padded 2 (secondOfDay % 60 + leap)

/-- Fourteen digits to the second, and six of the microsecond. -/
def compactChars (t : Instant) : List Char :=
  let (date, second) := t.split
  date.compactChars ++ clockChars [] second (t.nanos / 1000000000)
    ++ Text.padded 6 (t.nanos % 1000000000 / 1000)

end Instant

end LiveTrader
