import LiveTrader.Binary64.Basic

/-!
  LiveTrader.Time.Span

  Lengths of time to the nanosecond, up to the largest that 64-bit seconds hold.
-/

namespace LiveTrader

/-- A length of time. -/
structure Span where
  nanos : Nat
  deriving DecidableEq

namespace Span

/-- Nanoseconds in a second. -/
abbrev perSecond : Nat := 1000000000

/-- No time. -/
def zero : Span := ⟨0⟩

/-- The longest span. -/
def max : Span := ⟨pow2 64 * perSecond - 1⟩

/-- Whole seconds. -/
def ofSeconds (n : Nat) : Span := ⟨n * perSecond⟩

/-- Whole milliseconds. -/
def ofMillis (n : Nat) : Span := ⟨n * 1000000⟩

/-- The whole seconds of a span. -/
def seconds (s : Span) : Nat := s.nanos / perSecond

/-- The nanoseconds beyond the whole seconds. -/
def subsecond (s : Span) : Nat := s.nanos % perSecond

/-- The whole milliseconds of a span, rounded up. -/
def wholeMillis (s : Span) : Nat := (s.nanos + 999999) / 1000000

/-- The milliseconds that a wait for a span takes: whole ones, and at most thirty years. -/
def waitMillis (s : Span) : Nat :=
  Nat.min s.wholeMillis (30 * 365 * 24 * 60 * 60 * 1000)

/-- A multiple of a span, at most the longest. -/
def saturatingMul (s : Span) (n : Nat) : Span :=
  ⟨Nat.min (s.nanos * n) max.nanos⟩

/-- A number of seconds, rounded to the nanosecond, a half to the even one.  There is
    none for a number that is negative, undefined or not below 2⁶⁴. -/
def ofFloatSeconds? (x : Binary64) : Option Span :=
  if !x.isFinite || x.rank < 0 then none
  else
    let (num, den) := x.ratio
    if num < pow2 64 * den then some ⟨Binary64.nearestWhole (num * perSecond) den⟩ else none

end Span

end LiveTrader
