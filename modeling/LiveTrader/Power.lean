/-
  LiveTrader.Power

  Powers of the two bases that the formats use: sizes of machine words are powers of two,
  decimal places are powers of ten.
-/

namespace LiveTrader

/-- A power of two. -/
abbrev pow2 (n : Nat) : Nat := Nat.pow 2 n

/-- A power of ten. -/
abbrev pow10 (n : Nat) : Nat := Nat.pow 10 n

end LiveTrader
