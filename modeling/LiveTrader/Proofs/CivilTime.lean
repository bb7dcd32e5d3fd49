import LiveTrader.Proofs.Calendar
import LiveTrader.Time.Rfc3339

/-!
  LiveTrader.Proofs.CivilTime

  The date and the time of day of an instant.  Every day has a date of the calendar, from which
  the day is found again, so the parts that are written of an instant give the instant back.
-/

namespace LiveTrader

/-! ## Dates of days -/

namespace Date

namespace EraDay

/-- The number of days is found again from the date. -/
theorem toDays_date (d : EraDay) : d.date.toDays = d.days - 719468 := by
  have hyear := d.year_date
  have hlt := d.yearOfEra_lt
  have hle := d.dayOfYear_le
  -- months are counted from March again, and the calendar year is brought back to its March
  have hmarch : (if d.date.month ≤ 2 then d.date.year - 1 else d.date.year) = d.year := by
    rw [hyear]
    unfold date ofMarch
    dsimp only
    split <;> split <;> split <;> omega
  have hmonth : (d.date.month + 9) % 12 = (5 * d.dayOfYear + 2) / 153 := by
    unfold date ofMarch
    dsimp only
    split <;> omega
  have hday : (153 * ((5 * d.dayOfYear + 2) / 153) + 2) / 5 + d.date.day - 1 = d.dayOfYear := by
    unfold date ofMarch
    dsimp only
    omega
  have hdays : d.days = d.era * 146097 + (daysBefore d.yearOfEra + d.dayOfYear : Nat) := rfl
  have hera : d.year = d.era * 400 + d.yearOfEra := rfl
  unfold toDays
  dsimp only
  rw [hmarch, hmonth, hday, hdays, hera]
  unfold daysBefore
  omega

/-- Only a leap year has a 366th day from March on, and it is 29 February. -/
theorem isLeapYear_date (d : EraDay) (h : d.dayOfYear = 365) :
    isLeapYear d.date.year = true := by
  have hnext := d.lt_next
  have hera := d.lt_era
  have hlt := d.yearOfEra_lt
  have hyear : d.date.year = d.era * 400 + d.yearOfEra + 1 := by
    rw [year_date, if_neg (by omega)]
    rfl
  rw [h] at hnext hera
  unfold daysBefore at hnext hera
  -- there is a 366th day only where one more leap day is counted before the next year
  have hcentury : (d.yearOfEra + 1) / 100 = d.yearOfEra / 100 ∨
      (d.yearOfEra + 1) % 100 = 0 ∧ (d.yearOfEra + 1) / 100 = d.yearOfEra / 100 + 1 := by omega
  have hleap : (d.yearOfEra + 1) % 4 = 0 ∧
      ((d.yearOfEra + 1) % 100 ≠ 0 ∨ (d.yearOfEra + 1) % 400 = 0) := by
    rcases hcentury with hcentury | ⟨hcentury, hcount⟩ <;> omega
  unfold isLeapYear
  rw [hyear]
  simp only [Bool.and_eq_true, Bool.or_eq_true, bne_iff_ne, decide_eq_true_eq]
  omega

/-- The date is one of the calendar. -/
theorem date_bounds (d : EraDay) : 1 ≤ d.date.month ∧ d.date.month ≤ 12 ∧ 1 ≤ d.date.day ∧
    d.date.day ≤ daysInMonth d.date.year d.date.month := by
  have hle := d.dayOfYear_le
  have hleap := d.isLeapYear_date
  have hmonth : d.date.month = if (5 * d.dayOfYear + 2) / 153 < 10 then
      (5 * d.dayOfYear + 2) / 153 + 3 else (5 * d.dayOfYear + 2) / 153 - 9 := rfl
  have hday : d.date.day =
      d.dayOfYear - (153 * ((5 * d.dayOfYear + 2) / 153) + 2) / 5 + 1 := rfl
  refine ⟨?_, ?_, ?_, ?_⟩
  · rw [hmonth]
    split <;> omega
  · rw [hmonth]
    split <;> omega
  · omega
  · unfold daysInMonth
    by_cases hfeb : d.date.month = 2
    · rw [if_pos hfeb]
      by_cases hlast : d.dayOfYear = 365
      · rw [if_pos (hleap hlast)]
        omega
      · -- without a 366th day February has at most 28
        have hshort : d.date.day ≤ 28 := by
          rw [hmonth] at hfeb
          split at hfeb <;> omega
        split <;> omega
    · rw [if_neg hfeb]
      rw [hmonth] at hfeb ⊢
      split at hfeb <;> split <;> split <;> omega

/-- Within a calendar year later days have later months and days. -/
theorem monthDay_lt {d d' : EraDay} (h : d.days < d'.days) (hyear : d.date.year = d'.date.year) :
    d.date.month * 100 + d.date.day < d'.date.month * 100 + d'.date.day := by
  have hle := d.dayOfYear_le
  have hle' := d'.dayOfYear_le
  have hmarch := year_le_of_days_le (Int.le_of_lt h)
  rw [year_date, year_date] at hyear
  unfold date ofMarch
  dsimp only
  -- years that begin in March: the earlier day is in the same one or in the one before
  rcases Int.lt_or_eq_of_le hmarch with hlt | heq
  · -- January or February before a later month of the same calendar year
    have hwinter : 306 ≤ d.dayOfYear := by
      split at hyear <;> split at hyear <;> omega
    have hspring : d'.dayOfYear < 306 := by
      split at hyear <;> split at hyear <;> omega
    split <;> split <;> omega
  · have hdays := days_eq_of_year_eq heq
    have hside : d.dayOfYear < 306 ↔ d'.dayOfYear < 306 := by
      split at hyear <;> split at hyear <;> omega
    have hmonth : (5 * d.dayOfYear + 2) / 153 ≤ (5 * d'.dayOfYear + 2) / 153 := by omega
    rcases Nat.eq_or_lt_of_le hmonth with hmonth | hmonth
    · rw [hmonth]
      split <;> omega
    · split <;> split <;> omega

end EraDay

/-- **A day is found again from its date.** -/
theorem toDays_ofDays (days : Int) : (ofDays days).toDays = days := by
  obtain ⟨d, hd, hdate⟩ := exists_eraDay days
  rw [← hdate, d.toDays_date, hd]
  omega

/-- The date of a day is one of the calendar. -/
theorem ofDays_bounds (days : Int) : 1 ≤ (ofDays days).month ∧ (ofDays days).month ≤ 12 ∧
    1 ≤ (ofDays days).day ∧
      (ofDays days).day ≤ daysInMonth (ofDays days).year (ofDays days).month := by
  obtain ⟨d, -, hdate⟩ := exists_eraDay days
  rw [← hdate]
  exact d.date_bounds

/-- Within a calendar year later days have later months and days. -/
theorem monthDay_ofDays_lt {m n : Int} (h : m < n) (hyear : (ofDays m).year = (ofDays n).year) :
    (ofDays m).month * 100 + (ofDays m).day < (ofDays n).month * 100 + (ofDays n).day := by
  obtain ⟨d, hd, hdate⟩ := exists_eraDay m
  obtain ⟨d', hd', hdate'⟩ := exists_eraDay n
  rw [← hdate, ← hdate'] at hyear ⊢
  exact EraDay.monthDay_lt (by omega) hyear

end Date

namespace Instant

/-! ## Parts of an instant -/

/-- The time is one that a clock shows: nanoseconds within a second, or within the leap second
    that follows the last second of a minute. -/
def IsTime (t : Instant) : Prop :=
  t.nanos < 1000000000 ∨ t.nanos < 2000000000 ∧ t.seconds % 60 = 59

instance (t : Instant) : Decidable t.IsTime :=
  inferInstanceAs (Decidable (_ ∨ _))

/-- The time is one that a clock shows, in a year of four digits. -/
structure IsCivil (t : Instant) : Prop where
  year_nonneg : 0 ≤ t.split.1.year
  year_le : t.split.1.year ≤ 9999
  isTime : t.IsTime

instance (t : Instant) : Decidable t.IsCivil :=
  decidable_of_iff (0 ≤ t.split.1.year ∧ t.split.1.year ≤ 9999 ∧ t.IsTime)
    ⟨fun ⟨hnonneg, hle, htime⟩ => ⟨hnonneg, hle, htime⟩,
      fun h => ⟨h.year_nonneg, h.year_le, h.isTime⟩⟩

/-- An instant without what is less than a microsecond. -/
def toMicro (t : Instant) : Instant :=
  ⟨t.seconds, t.nanos / 1000 * 1000⟩

theorem IsCivil.toMicro {t : Instant} (h : t.IsCivil) : t.toMicro.IsCivil where
  year_nonneg := h.year_nonneg
  year_le := h.year_le
  isTime := by
    have htime := h.isTime
    unfold IsTime Instant.toMicro at *
    dsimp only
    omega

/-- Every part of a time fits into its digits. -/
theorem IsCivil.parts_lt {t : Instant} (h : t.IsCivil) : t.split.1.year.toNat < 10 ^ 4 ∧
    t.split.1.month < 10 ^ 2 ∧ t.split.1.day < 10 ^ 2 ∧ t.split.2 / 3600 < 10 ^ 2 ∧
      t.split.2 / 60 % 60 < 10 ^ 2 ∧ t.split.2 % 60 + t.nanos / 1000000000 < 10 ^ 2 := by
  have hle := h.year_le
  have htime := h.isTime
  unfold IsTime at htime
  have hsecond : t.split.2 = (t.seconds % 86400).toNat := rfl
  exact ⟨by omega, Date.month_ofDays_lt _, Date.day_ofDays_lt _, by omega, by omega, by omega⟩

/-- The calendar has the dates of years of four digits. -/
theorem IsCivil.inRange {t : Instant} (h : t.IsCivil) : t.inRange = true := by
  have hnonneg := h.year_nonneg
  have hle := h.year_le
  unfold split at hnonneg hle
  dsimp only at hnonneg hle
  unfold Instant.inRange
  rw [Bool.and_eq_true, decide_eq_true_eq, decide_eq_true_eq]
  -- the calendar begins and ends beyond the years 0 to 9999, and years follow the order of days
  constructor
  · by_contra hbefore
    have hyear := Date.year_ofDays_le (show t.seconds / secondsPerDay ≤
      (Date.mk Date.firstYear 1 1).toDays - 1 by omega)
    have hfirst : (Date.ofDays ((Date.mk Date.firstYear 1 1).toDays - 1)).year = -262144 := by
      decide
    omega
  · by_contra hbehind
    have hyear := Date.year_ofDays_le (show Date.lastDay + 1 ≤ t.seconds / secondsPerDay by omega)
    have hlast : (Date.ofDays (Date.lastDay + 1)).year = 262143 := by decide
    omega

/-- **An instant is found again from its parts.** -/
theorem IsCivil.ofParts?_split {t : Instant} (h : t.IsCivil) :
    ofParts? t.split.1.year t.split.1.month t.split.1.day (t.split.2 / 3600)
      (t.split.2 / 60 % 60) (t.split.2 % 60 + t.nanos / 1000000000) (t.nanos % 1000000000) 0 =
        some t := by
  have hdate : Date.of? t.split.1.year t.split.1.month t.split.1.day = some t.split.1 := by
    obtain ⟨hmonth, hmonth', hday, hday'⟩ := Date.ofDays_bounds (t.seconds / secondsPerDay)
    have hfirst := Int.le_trans (show Date.firstYear ≤ 0 by decide) h.year_nonneg
    have hlast := Int.le_trans h.year_le (show 9999 ≤ Date.lastYear by decide)
    exact if_pos ⟨hfirst, hlast, hmonth, hmonth', hday, hday'⟩
  have hdays : t.split.1.toDays = t.seconds / 86400 := Date.toDays_ofDays _
  have hsecond : t.split.2 = (t.seconds % 86400).toNat := rfl
  have htime := h.isTime
  unfold IsTime at htime
  unfold ofParts?
  rw [hdate, Option.bind_eq_bind, Option.bind_some, if_neg (by omega), hdays]
  -- the leap second is the 60th of its minute, and nothing else is
  have hparts : (⟨t.seconds / 86400 * 86400 + ((t.split.2 / 3600 * 3600 +
      t.split.2 / 60 % 60 * 60 + (t.split.2 % 60 + t.nanos / 1000000000 -
        if t.split.2 % 60 + t.nanos / 1000000000 = 60 then 1 else 0) : Nat) : Int) - 0,
      t.nanos % 1000000000 + (if t.split.2 % 60 + t.nanos / 1000000000 = 60 then 1 else 0) *
        1000000000⟩ : Instant) = t := by
    rw [hsecond]
    obtain ⟨seconds, nanos⟩ := t
    rw [Instant.mk.injEq]
    dsimp only at htime ⊢
    split <;> omega
  exact (congrArg (fun t : Instant => if t.inRange then some t else none) hparts).trans
    (if_pos h.inRange)

/-- What is made of parts is a time that a clock shows. -/
theorem isTime_of_ofParts? {year offset : Int} {month day hour minute second nanos : Nat}
    {t : Instant} (hnanos : nanos < 1000000000) (hoffset : offset % 60 = 0)
    (h : ofParts? year month day hour minute second nanos offset = some t) : t.IsTime := by
  unfold ofParts? at h
  obtain ⟨date, -, h⟩ := Option.bind_eq_some_iff.mp h
  by_cases hranges : 24 ≤ hour ∨ 60 ≤ minute ∨ 61 ≤ second ∨ 86400 ≤ offset.natAbs
  · rw [if_pos hranges] at h
    cases h
  · rw [if_neg hranges] at h
    dsimp only [secondsPerDay] at h
    obtain ⟨-, h⟩ := Option.ite_none_right_eq_some.mp h
    obtain rfl := Option.some.inj h
    unfold IsTime
    dsimp only
    split <;> omega

end Instant

end LiveTrader
