import LiveTrader.Gmo.Fields
import LiveTrader.Proofs.CivilTime

/-!
  LiveTrader.Proofs.WrittenTimes

  Times in the internet format.  A time in a year of four digits is read back from its text, to
  the nanosecond and leap seconds included, and no other time is.
-/

namespace LiveTrader

open Text (padded digits)

namespace Instant

/-! ## Numbers at the front of a text -/

/-- A number of this many digits is read whatever follows it. -/
theorem scanDigits?_padded {width n : Nat} (hwidth : 0 < width) (h : n < 10 ^ width)
    (rest : List Char) : scanDigits? width width (padded width n ++ rest) = some (n, rest) := by
  have hlength := Text.length_padded hwidth h
  have hdigits : ∀ c ∈ padded width n, c.isDigit = true := fun _ => Text.isDigit_of_mem_padded
  have htaken : ((padded width n ++ rest).takeWhile Char.isDigit).take width = padded width n := by
    rw [List.takeWhile_append_of_pos hdigits, List.take_append_of_le_length (by omega),
      List.take_of_length_le (by omega)]
  have hvalue : Text.extendDigits? 0 (padded width n) = some n :=
    Text.extendDigits?_eq_some_iff.mpr ⟨hdigits, Text.ofDigitChars_padded width n⟩
  unfold scanDigits?
  dsimp only
  rw [htaken, if_neg (by omega), hvalue, List.drop_left, Option.map_some]

/-- No number is read where there is no digit. -/
theorem scanDigits?_of_not_isDigit {least most : Nat} {c : Char} {rest : List Char}
    (hleast : 0 < least) (h : c.isDigit = false) : scanDigits? least most (c :: rest) = none := by
  unfold scanDigits?
  dsimp only
  rw [List.takeWhile_cons_of_neg (by simp [h]), List.take_nil, List.length_nil, if_pos hleast]

/-! ## Fractions of a second -/

/-- A fraction of up to nine digits is read to the nanosecond. -/
theorem scanFraction?_padded {width n : Nat} (hwidth : 0 < width) (hnine : width ≤ 9)
    (h : n < 10 ^ width) {c : Char} (hc : c.isDigit = false) (rest : List Char) :
    scanFraction? ('.' :: padded width n ++ c :: rest) =
      some (n * 10 ^ (9 - width), c :: rest) := by
  have hlength := Text.length_padded hwidth h
  have hdigits : ∀ c ∈ padded width n, c.isDigit = true := fun _ => Text.isDigit_of_mem_padded
  have hends : (c :: rest).takeWhile Char.isDigit = [] := List.takeWhile_cons_of_neg (by simp [hc])
  have htaken : (padded width n ++ c :: rest).takeWhile Char.isDigit = padded width n := by
    rw [List.takeWhile_append_of_pos hdigits, hends, List.append_nil]
  have hleft : (padded width n ++ c :: rest).dropWhile Char.isDigit = c :: rest := by
    rw [List.dropWhile_append_of_pos hdigits, List.dropWhile_cons_of_neg (by simp [hc])]
  have hne : (padded width n).isEmpty = false := by
    rw [List.isEmpty_eq_false_iff, ← List.length_pos_iff]
    omega
  have hvalue : Text.extendDigits? 0 (padded width n) = some n :=
    Text.extendDigits?_eq_some_iff.mpr ⟨hdigits, Text.ofDigitChars_padded width n⟩
  rw [List.cons_append, scanFraction?, htaken, hleft, hne, List.take_of_length_le (by omega),
    hvalue, hlength]
  rfl

/-- The nanoseconds of a second are read back from their fraction. -/
theorem scanFraction?_fractionChars {nanos : Nat} (h : nanos < 1000000000) {c : Char}
    (hc : c.isDigit = false) (hpoint : c ≠ '.') (rest : List Char) :
    scanFraction? (fractionChars nanos ++ c :: rest) = some (nanos, c :: rest) := by
  unfold fractionChars
  -- as many places are written as the nanoseconds need: none, three, six or nine
  by_cases hzero : nanos = 0
  · rw [if_pos hzero, List.nil_append, hzero, scanFraction?]
    exact fun _ heq => hpoint (List.cons.inj heq).1
  rw [if_neg hzero]
  by_cases hmillis : nanos % 1000000 = 0
  · rw [if_pos hmillis, scanFraction?_padded (by decide) (by decide) (by omega) hc]
    have hwhole : nanos / 1000000 * 10 ^ (9 - 3) = nanos := by omega
    rw [hwhole]
  rw [if_neg hmillis]
  by_cases hmicros : nanos % 1000 = 0
  · rw [if_pos hmicros, scanFraction?_padded (by decide) (by decide) (by omega) hc]
    have hwhole : nanos / 1000 * 10 ^ (9 - 6) = nanos := by omega
    rw [hwhole]
  · rw [if_neg hmicros, scanFraction?_padded (by decide) (by decide) (by omega) hc]
    rw [Nat.sub_self, Nat.pow_zero, Nat.mul_one]

/-- What is read as a fraction is less than a second. -/
theorem scanFraction?_lt {cs rest : List Char} {nanos : Nat}
    (h : scanFraction? cs = some (nanos, rest)) : nanos < 1000000000 := by
  unfold scanFraction? at h
  split at h
  case h_2 =>
    cases h
    decide
  case h_1 cs =>
    dsimp only at h
    obtain ⟨-, h⟩ := Option.ite_none_left_eq_some.mp h
    obtain ⟨n, hn, hpair⟩ := Option.map_eq_some_iff.mp h
    obtain ⟨rfl, -⟩ := Prod.mk.inj hpair
    obtain ⟨hdigits, rfl⟩ := Text.extendDigits?_eq_some_iff.mp hn
    have hlength : ((cs.takeWhile Char.isDigit).take 9).length ≤ 9 := List.length_take_le _ _
    calc Nat.ofDigitChars 10 ((cs.takeWhile Char.isDigit).take 9) 0 *
          pow10 (9 - ((cs.takeWhile Char.isDigit).take 9).length)
        < 10 ^ ((cs.takeWhile Char.isDigit).take 9).length *
          10 ^ (9 - ((cs.takeWhile Char.isDigit).take 9).length) :=
          Nat.mul_lt_mul_of_pos_right (Text.ofDigitChars_lt hdigits) (Nat.pow_pos (by decide))
      _ = 1000000000 := by rw [← Nat.pow_add, Nat.add_sub_cancel' hlength]

/-- Offsets from UTC are whole minutes. -/
theorem scanOffset?_minutes {scanColon? : List Char → Option (List Char)} {cs rest : List Char}
    {offset : Int} (h : scanOffset? scanColon? cs = some (offset, rest)) : offset % 60 = 0 := by
  unfold scanOffset? at h
  split at h
  case h_1 => cases h
  case h_2 c cs =>
    split at h
    · cases h
      rfl
    · split at h
      case isFalse => cases h
      case isTrue =>
        simp only [Option.bind_eq_bind, Option.bind_eq_some_iff] at h
        obtain ⟨⟨hours, afterHours⟩, -, afterColon, -, ⟨minutes, afterMinutes⟩, -, h⟩ := h
        obtain ⟨-, h⟩ := Option.ite_none_left_eq_some.mp h
        obtain ⟨hoffset, -⟩ := Prod.mk.inj (Option.some.inj h)
        subst hoffset
        dsimp only
        split <;> omega

/-! ## The internet format -/

/-- A time that is read is one that a clock shows. -/
theorem isTime_of_ofRfc3339? {cs : List Char} {t : Instant} (h : ofRfc3339? cs = some t) :
    t.IsTime := by
  simp only [ofRfc3339?, Option.bind_eq_bind, Option.bind_eq_some_iff] at h
  obtain ⟨_, -, _, -, _, -, _, -, _, -, _, -, _, -, _, -, _, -, _, -, _, -, ⟨nanos, _⟩, hnanos,
    ⟨offset, _⟩, hoffset, h⟩ := h
  obtain ⟨-, h⟩ := Option.ite_none_right_eq_some.mp h
  exact isTime_of_ofParts? (scanFraction?_lt hnanos) (scanOffset?_minutes hoffset) h

/-- **A time in a year of four digits is read back from its text.** -/
theorem IsCivil.ofRfc3339?_rfc3339Chars {t : Instant} (h : t.IsCivil) :
    ofRfc3339? t.rfc3339Chars = some t := by
  obtain ⟨hyear, hmonth, hday, hhour, hminute, hsecond⟩ := h.parts_lt
  have hnanos : t.nanos % 1000000000 < 1000000000 := Nat.mod_lt _ (by decide)
  have hfraction := scanFraction?_fractionChars hnanos (show ('Z').isDigit = false by decide)
    (by decide) []
  unfold rfc3339Chars Date.yearChars clockChars ofRfc3339?
  dsimp only
  rw [if_pos ⟨h.year_nonneg, h.year_le⟩]
  simp only [List.append_assoc, List.cons_append, List.nil_append, Option.bind_eq_bind,
    Option.bind_some, scanChar?, scanSeparator?, scanOffset?, if_true, true_or, List.isEmpty_nil,
    scanDigits?_padded (by decide) hyear, scanDigits?_padded (by decide) hmonth,
    scanDigits?_padded (by decide) hday, scanDigits?_padded (by decide) hhour,
    scanDigits?_padded (by decide) hminute, scanDigits?_padded (by decide) hsecond, hfraction]
  rw [Int.toNat_of_nonneg h.year_nonneg]
  exact h.ofParts?_split

/-- A year of more or fewer than four digits has a sign, which is not read. -/
theorem ofRfc3339?_eq_none {t : Instant} (h : ¬ (0 ≤ t.split.1.year ∧ t.split.1.year ≤ 9999)) :
    ofRfc3339? t.rfc3339Chars = none := by
  have hsign : (if t.split.1.year < 0 then '-' else '+').isDigit = false := by
    split <;> decide
  unfold rfc3339Chars Date.yearChars ofRfc3339?
  dsimp only
  rw [if_neg h]
  simp only [List.cons_append]
  rw [scanDigits?_of_not_isDigit (by decide) hsign]
  rfl

end Instant

/-! ## Times of a payload -/

theorem signed64?_eq_none {cs : List Char} (h : 'Z' ∈ cs) : Text.signed64? cs = none := by
  have hdigits {n : Nat} : 'Z' ∉ digits n := fun hmem => by
    cases Text.isDigit_of_mem_digits hmem
  rw [Option.eq_none_iff_forall_ne_some]
  intro n hn
  unfold Text.signed64? at hn
  split at hn
  case h_1 rest =>
    obtain ⟨m, hm, -⟩ := Option.bind_eq_some_iff.mp hn
    obtain ⟨zeros, rfl⟩ := Text.natOfDigits?_eq_some_iff.mp hm
    simp [hdigits] at h
  case h_2 =>
    obtain ⟨m, hm, -⟩ := Option.map_eq_some_iff.mp hn
    obtain ⟨⟨zeros, rfl | rfl⟩, -⟩ := Text.unsignedBelow?_eq_some_iff.mp hm <;>
      simp [hdigits] at h

/-- **The text of a time is read as the time just if its year has four digits.** -/
theorem timeOfText?_toRfc3339 {t : Instant} :
    Gmo.timeOfText? t.toRfc3339 = some t ↔ t.IsCivil := by
  have hzulu : 'Z' ∈ t.rfc3339Chars := List.mem_append_right _ (List.mem_singleton_self _)
  unfold Gmo.timeOfText? Instant.toRfc3339
  rw [String.toList_ofList, signed64?_eq_none hzulu]
  dsimp only
  constructor
  · intro h
    by_cases hyear : 0 ≤ t.split.1.year ∧ t.split.1.year ≤ 9999
    · exact ⟨hyear.1, hyear.2, Instant.isTime_of_ofRfc3339? h⟩
    · rw [Instant.ofRfc3339?_eq_none hyear] at h
      cases h
  · exact Instant.IsCivil.ofRfc3339?_rfc3339Chars

end LiveTrader
