import LiveTrader.Proofs.CivilTime

/-!
  LiveTrader.Proofs.DatesInOrder

  The order of what is written with a fixed number of digits.  Of two such texts the one that
  stands for the smaller number comes first, and the number that the parts of a date make grows
  from day to day, so in years of four digits the texts of later dates come later.
-/

namespace LiveTrader

/-! ## Digits in order -/

namespace Text

/-- Of two numbers of equally many digits the smaller has the text that comes first, whatever
    follows. -/
theorem append_lt_append_of_ofDigitChars {cs ds : List Char} (hcs : ∀ c ∈ cs, c.isDigit = true)
    (hds : ∀ d ∈ ds, d.isDigit = true) (hlength : cs.length = ds.length)
    (h : Nat.ofDigitChars 10 cs 0 < Nat.ofDigitChars 10 ds 0) (rest rest' : List Char) :
    cs ++ rest < ds ++ rest' := by
  -- on the digits from the front, as texts are compared
  induction cs generalizing ds with
  | nil =>
    obtain rfl := List.length_eq_zero_iff.mp hlength.symm
    cases h
  | cons c cs ih =>
    obtain ⟨d, ds, rfl⟩ := List.exists_cons_of_length_eq_add_one hlength.symm
    obtain ⟨hc, hcs⟩ := List.forall_mem_cons.mp hcs
    obtain ⟨hd, hds⟩ := List.forall_mem_cons.mp hds
    have hlength := Nat.succ.inj hlength
    have hclt := ofDigitChars_lt hcs
    have hdlt := ofDigitChars_lt hds
    -- the first digit outweighs all that follow
    have hvalue (a : Char) (as : List Char) : Nat.ofDigitChars 10 (a :: as) 0 =
        10 ^ as.length * valueOf a + Nat.ofDigitChars 10 as 0 := by
      rw [Nat.ofDigitChars_cons, Nat.ofDigitChars_eq_ofDigitChars_zero, Nat.mul_zero, Nat.zero_add,
        valueOf]
    rw [hvalue, hvalue, hlength] at h
    rw [hlength] at hclt
    rw [List.cons_append, List.cons_append, List.cons_lt_cons_iff]
    rcases Nat.lt_trichotomy (valueOf c) (valueOf d) with hlt | heq | hgt
    · -- the first digits differ already
      refine .inl ?_
      unfold valueOf at hlt
      rw [Char.lt_def, UInt32.lt_iff_toNat_lt]
      change c.toNat < d.toNat
      omega
    · refine .inr ⟨?_, ih hcs hds hlength ?_⟩
      · have hdigits := digits_valueOf hc
        rw [heq, digits_valueOf hd] at hdigits
        exact (List.cons.inj hdigits).1.symm
      · rw [heq] at h
        omega
    · -- the number with the larger first digit is not the smaller one
      have hpow : 10 ^ ds.length * (valueOf d + 1) ≤ 10 ^ ds.length * valueOf c :=
        Nat.mul_le_mul_left _ hgt
      rw [Nat.mul_add, Nat.mul_one] at hpow
      omega

theorem ofDigitChars_append_padded {width n : Nat} (hwidth : 0 < width) (h : n < 10 ^ width)
    (cs : List Char) : Nat.ofDigitChars 10 (cs ++ padded width n) 0 =
      10 ^ width * Nat.ofDigitChars 10 cs 0 + n := by
  rw [Nat.ofDigitChars_append, Nat.ofDigitChars_eq_ofDigitChars_zero, length_padded hwidth h,
    ofDigitChars_padded]

/-- A text has so many digits and stands for a number. -/
structure IsNumber (width n : Nat) (cs : List Char) : Prop where
  isDigit : ∀ c ∈ cs, c.isDigit = true
  length : cs.length = width
  value : Nat.ofDigitChars 10 cs 0 = n

theorem isNumber_padded {width n : Nat} (hwidth : 0 < width) (h : n < 10 ^ width) :
    IsNumber width n (padded width n) :=
  ⟨fun _ => isDigit_of_mem_padded, length_padded hwidth h, ofDigitChars_padded width n⟩

namespace IsNumber

variable {width width' m n : Nat} {cs ds : List Char}

theorem append_padded (h : IsNumber width m cs) (hwidth : 0 < width') (hn : n < 10 ^ width') :
    IsNumber (width + width') (10 ^ width' * m + n) (cs ++ padded width' n) where
  isDigit := List.forall_mem_append.mpr ⟨h.isDigit, fun _ => isDigit_of_mem_padded⟩
  length := by rw [List.length_append, h.length, length_padded hwidth hn]
  value := by rw [ofDigitChars_append_padded hwidth hn, h.value]

theorem lt (hcs : IsNumber width m cs) (hds : IsNumber width n ds) (h : m < n) : cs < ds := by
  have hlt := append_lt_append_of_ofDigitChars hcs.isDigit hds.isDigit
    (hcs.length.trans hds.length.symm) (by rw [hcs.value, hds.value]; exact h) [] []
  rwa [List.append_nil, List.append_nil] at hlt

end IsNumber

end Text

/-! ## Dates in order -/

namespace Date

/-- Later days have dates with a later number. -/
theorem number_ofDays_lt {m n : Int} (h : m < n) :
    (ofDays m).year * 10000 + ((ofDays m).month * 100 + (ofDays m).day : Nat) <
      (ofDays n).year * 10000 + ((ofDays n).month * 100 + (ofDays n).day : Nat) := by
  have hmonth := month_ofDays_lt m
  have hday := day_ofDays_lt m
  rcases Int.lt_or_eq_of_le (year_ofDays_le (Int.le_of_lt h)) with hlt | heq
  · omega
  · have hlater := monthDay_ofDays_lt h heq
    omega

theorem isNumber_yearChars {year : Int} (h : 0 ≤ year ∧ year ≤ 9999) :
    Text.IsNumber 4 year.toNat (yearChars year) := by
  rw [yearChars, if_pos h]
  exact Text.isNumber_padded (by decide) (by omega)

/-- The digits of a date make its number. -/
theorem isNumber_compactChars {day : Int} (h : 0 ≤ (ofDays day).year ∧ (ofDays day).year ≤ 9999) :
    Text.IsNumber 8
      ((ofDays day).year.toNat * 10000 + ((ofDays day).month * 100 + (ofDays day).day))
      (ofDays day).compactChars := by
  have hmonth : (ofDays day).month < 10 ^ 2 := month_ofDays_lt day
  have hday : (ofDays day).day < 10 ^ 2 := day_ofDays_lt day
  have hnumber := ((isNumber_yearChars h).append_padded (by decide) hmonth).append_padded
    (by decide) hday
  have hvalue : 10 ^ 2 * (10 ^ 2 * (ofDays day).year.toNat + (ofDays day).month) +
      (ofDays day).day =
        (ofDays day).year.toNat * 10000 + ((ofDays day).month * 100 + (ofDays day).day) := by
    omega
  rwa [hvalue] at hnumber

end Date

end LiveTrader
