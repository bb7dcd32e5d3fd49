import LiveTrader.Gmo.Candles
import LiveTrader.Proofs.Digits

/-!
  LiveTrader.Proofs.Calendar

  Dates as days of years that begin on 1 March.  Every day is one day of one such year, so
  different days have different dates, and later days do not have earlier years.  With texts
  that tell dates apart it follows that no date is asked for twice.  Days are counted one by one,
  so those that are counted are all between the first and the last, up to the limit.
-/

namespace LiveTrader

namespace Date

/-! ## Years from 1 March -/

/-- The days of an era of 400 years before the year with this number. -/
def daysBefore (yearOfEra : Nat) : Nat := 365 * yearOfEra + yearOfEra / 4 - yearOfEra / 100

/-- The date of a day, counted from zero, of a year that begins on 1 March. -/
def ofMarch (year : Int) (dayOfYear : Nat) : Date :=
  let monthFromMarch := (5 * dayOfYear + 2) / 153
  let month := if monthFromMarch < 10 then monthFromMarch + 3 else monthFromMarch - 9
  { year := year + (if month ≤ 2 then 1 else 0)
    month := month
    day := dayOfYear - (153 * monthFromMarch + 2) / 5 + 1 }

theorem daysBefore_le {m n : Nat} (h : m ≤ n) : daysBefore m ≤ daysBefore n := by
  unfold daysBefore
  rcases Nat.eq_or_lt_of_le h with rfl | h
  · exact Nat.le_refl _
  · omega

/-- The year of a day of an era. -/
def yearOfEra (dayOfEra : Nat) : Nat :=
  (dayOfEra - dayOfEra / 1460 + dayOfEra / 36524 - dayOfEra / 146096) / 365

/-- Every day of an era is in just one of its years. -/
theorem yearOfEra_bounds {dayOfEra : Nat} (h : dayOfEra < 146097) :
    yearOfEra dayOfEra < 400 ∧ daysBefore (yearOfEra dayOfEra) ≤ dayOfEra ∧
      dayOfEra ≤ daysBefore (yearOfEra dayOfEra) + 365 ∧
      (yearOfEra dayOfEra < 399 → dayOfEra < daysBefore (yearOfEra dayOfEra + 1)) := by
  have hy : yearOfEra dayOfEra =
      (dayOfEra - dayOfEra / 1460 + dayOfEra / 36524 - dayOfEra / 146096) / 365 := rfl
  generalize yearOfEra dayOfEra = year at *
  unfold daysBefore
  have hcentury : dayOfEra / 36524 = 0 ∨ dayOfEra / 36524 = 1 ∨ dayOfEra / 36524 = 2 ∨
      dayOfEra / 36524 = 3 ∨ dayOfEra = 146096 := by omega
  have hnext : (year + 1) / 100 = year / 100 ∨
      year % 100 = 99 ∧ (year + 1) / 100 = year / 100 + 1 := by omega
  have hlast : dayOfEra / 146096 = 0 ∨ dayOfEra = 146096 := by omega
  -- with the centuries known all that is left is linear
  rcases hcentury with hc | hc | hc | hc | rfl
  · have hyear : year / 100 = 0 := by omega
    rcases hnext with hnext | ⟨hnext, hnext'⟩ <;> omega
  · have hyear : year / 100 = 1 := by omega
    rcases hnext with hnext | ⟨hnext, hnext'⟩ <;> omega
  · have hyear : year / 100 = 2 := by omega
    rcases hnext with hnext | ⟨hnext, hnext'⟩ <;> omega
  · have hyear : year / 100 = 3 := by omega
    rcases hnext with hnext | ⟨hnext, hnext'⟩ <;> omega
  · omega

/-- A day of a year of an era of 400 years. -/
structure EraDay where
  era : Int
  yearOfEra : Nat
  dayOfYear : Nat
  yearOfEra_lt : yearOfEra < 400
  dayOfYear_le : dayOfYear ≤ 365
  lt_next : yearOfEra < 399 → daysBefore yearOfEra + dayOfYear < daysBefore (yearOfEra + 1)
  lt_era : daysBefore yearOfEra + dayOfYear < 146097

namespace EraDay

/-- The number of days since the first era began. -/
def days (d : EraDay) : Int := d.era * 146097 + (daysBefore d.yearOfEra + d.dayOfYear : Nat)

/-- The year that begins on 1 March. -/
def year (d : EraDay) : Int := d.era * 400 + d.yearOfEra

/-- The calendar date. -/
def date (d : EraDay) : Date := ofMarch d.year d.dayOfYear

/-- Days of earlier years are earlier. -/
theorem days_lt_of_year_lt {d d' : EraDay} (h : d.year < d'.year) : d.days < d'.days := by
  have hlt := d.yearOfEra_lt
  have hlt' := d'.yearOfEra_lt
  have hera := d.lt_era
  unfold year at h
  unfold days
  rcases Int.lt_or_le d.era d'.era with hlater | hsame
  · omega
  · -- the eras are the same, so the year within the era is later
    have hyear : d.yearOfEra < d'.yearOfEra := by omega
    have hnext := d.lt_next (by omega)
    have hle := daysBefore_le (show d.yearOfEra + 1 ≤ d'.yearOfEra from hyear)
    have hsame : d.era = d'.era := by omega
    rw [hsame]
    omega

/-- Within a year days are as far apart as their numbers. -/
theorem days_eq_of_year_eq {d d' : EraDay} (h : d.year = d'.year) :
    d'.days - d.days = (d'.dayOfYear : Int) - d.dayOfYear := by
  have hlt := d.yearOfEra_lt
  have hlt' := d'.yearOfEra_lt
  unfold year at h
  have hera : d.era = d'.era := by omega
  have hyear : d.yearOfEra = d'.yearOfEra := by omega
  unfold days
  rw [hera, hyear]
  omega

theorem year_le_of_days_le {d d' : EraDay} (h : d.days ≤ d'.days) : d.year ≤ d'.year :=
  Int.not_lt.mp fun hlt => Int.not_le.mpr (days_lt_of_year_lt hlt) h

/-- The calendar year begins in the course of the year from March, on its 307th day. -/
theorem year_date (d : EraDay) : d.date.year = d.year + if d.dayOfYear < 306 then 0 else 1 := by
  have hle := d.dayOfYear_le
  unfold date ofMarch
  dsimp only
  congr 1
  split <;> split <;> split <;> omega

theorem year_date_le {d d' : EraDay} (h : d.days ≤ d'.days) : d.date.year ≤ d'.date.year := by
  have hle := year_le_of_days_le h
  rw [year_date, year_date]
  rcases Int.lt_or_eq_of_le hle with hlt | heq
  · split <;> split <;> omega
  · have hday := days_eq_of_year_eq heq
    split <;> split <;> omega

/-- The month and the day of the month tell the day of the year. -/
theorem dayOfYear_eq {d d' : EraDay} (hmonth : d.date.month = d'.date.month)
    (hday : d.date.day = d'.date.day) : d.dayOfYear = d'.dayOfYear := by
  have hle := d.dayOfYear_le
  have hle' := d'.dayOfYear_le
  unfold date ofMarch at hmonth hday
  dsimp only at hmonth hday
  have hm : (5 * d.dayOfYear + 2) / 153 = (5 * d'.dayOfYear + 2) / 153 := by
    split at hmonth <;> split at hmonth <;> omega
  rw [hm] at hday
  omega

/-- Different days have different dates. -/
theorem days_eq_of_date_eq {d d' : EraDay} (h : d.date = d'.date) : d.days = d'.days := by
  have hday : d.dayOfYear = d'.dayOfYear :=
    dayOfYear_eq (congrArg Date.month h) (congrArg Date.day h)
  have hyear := congrArg Date.year h
  rw [year_date, year_date, hday] at hyear
  have hdays := days_eq_of_year_eq (show d.year = d'.year by omega)
  omega

end EraDay

/-- Every day is a day of a year of an era. -/
theorem exists_eraDay (days : Int) :
    ∃ d : EraDay, d.days = days + 719468 ∧ d.date = ofDays days := by
  -- counted from 1 March of the year 0, in cycles of 400 years that all have 146097 days
  have hday : ((days + 719468) % 146097).toNat < 146097 := by omega
  obtain ⟨hlt, hle, hle', hnext⟩ := yearOfEra_bounds hday
  refine ⟨{
    era := (days + 719468) / 146097
    yearOfEra := yearOfEra ((days + 719468) % 146097).toNat
    dayOfYear := ((days + 719468) % 146097).toNat -
      daysBefore (yearOfEra ((days + 719468) % 146097).toNat)
    yearOfEra_lt := hlt
    dayOfYear_le := by omega
    lt_next := fun h => by
      have hnext := hnext h
      omega
    lt_era := by omega }, ?_, rfl⟩
  unfold EraDay.days
  dsimp only
  rw [Nat.add_sub_cancel' hle]
  omega

/-- Every date is that of one day. -/
theorem ofDays_injective {m n : Int} (h : ofDays m = ofDays n) : m = n := by
  obtain ⟨d, hd, hdate⟩ := exists_eraDay m
  obtain ⟨d', hd', hdate'⟩ := exists_eraDay n
  have := EraDay.days_eq_of_date_eq (hdate.trans (h.trans hdate'.symm))
  omega

/-- Later days are of no earlier years. -/
theorem year_ofDays_le {m n : Int} (h : m ≤ n) : (ofDays m).year ≤ (ofDays n).year := by
  obtain ⟨d, hd, hdate⟩ := exists_eraDay m
  obtain ⟨d', hd', hdate'⟩ := exists_eraDay n
  rw [← hdate, ← hdate']
  exact EraDay.year_date_le (by omega)

theorem month_ofDays_lt (days : Int) : (ofDays days).month < 100 := by
  obtain ⟨d, -, hdate⟩ := exists_eraDay days
  have hle := d.dayOfYear_le
  rw [← hdate]
  unfold EraDay.date ofMarch
  dsimp only
  split <;> omega

theorem day_ofDays_lt (days : Int) : (ofDays days).day < 100 := by
  obtain ⟨d, -, hdate⟩ := exists_eraDay days
  have hle := d.dayOfYear_le
  rw [← hdate]
  unfold EraDay.date ofMarch
  dsimp only
  omega

/-! ## Text -/

/-- Different years are different texts. -/
theorem yearChars_inj {m n : Int} : yearChars m = yearChars n ↔ m = n := by
  refine ⟨fun h => ?_, fun h => h ▸ rfl⟩
  -- a sign is no digit, so years with one are told from those without
  have hsign : ∀ {k : Int} {width l : Nat} {rest : List Char},
      Text.padded width l ≠ (if k < 0 then '-' else '+') :: rest := by
    intro k width l rest heq
    have hdigit := Text.isDigit_of_mem_padded (heq ▸ List.mem_cons_self)
    split at hdigit <;> cases hdigit
  unfold yearChars at h
  by_cases hm : 0 ≤ m ∧ m ≤ 9999 <;> by_cases hn : 0 ≤ n ∧ n ≤ 9999
  · rw [if_pos hm, if_pos hn] at h
    have habs := Text.padded_inj.mp h
    omega
  · rw [if_pos hm, if_neg hn] at h
    exact absurd h hsign
  · rw [if_neg hm, if_pos hn] at h
    exact absurd h.symm hsign
  · rw [if_neg hm, if_neg hn] at h
    obtain ⟨hhead, htail⟩ := List.cons.inj h
    have habs := Text.padded_inj.mp htail
    split at hhead <;> split at hhead
    · omega
    · cases hhead
    · cases hhead
    · omega

/-- Different days are different texts. -/
theorem compactChars_ofDays_inj {m n : Int} :
    (ofDays m).compactChars = (ofDays n).compactChars ↔ m = n := by
  refine ⟨fun h => ?_, fun h => h ▸ rfl⟩
  have hwidth : ∀ {k l : Nat}, k < 100 → l < 100 →
      (Text.padded 2 k).length = (Text.padded 2 l).length := by
    intro k l hk hl
    rw [Text.length_padded (by decide) hk, Text.length_padded (by decide) hl]
  unfold compactChars at h
  obtain ⟨hrest, hday⟩ := List.append_inj' h (hwidth (day_ofDays_lt m) (day_ofDays_lt n))
  obtain ⟨hyear, hmonth⟩ := List.append_inj' hrest (hwidth (month_ofDays_lt m) (month_ofDays_lt n))
  refine ofDays_injective ?_
  rw [Date.mk.injEq]
  exact ⟨yearChars_inj.mp hyear, Text.padded_inj.mp hmonth, Text.padded_inj.mp hday⟩

end Date

/-! ## Dates to ask for -/

namespace Gmo

/-- Days with the same date parameter have none with another between them. -/
theorem dateParam_eq_of_le {interval : String} {x y z : Int} (hxy : x ≤ y) (hyz : y ≤ z)
    (h : dateParam interval x = dateParam interval z) :
    dateParam interval x = dateParam interval y := by
  have hchars := String.ofList_injective h
  unfold dateParam
  split at hchars
  case isTrue hday =>
    have hxz := Date.compactChars_ofDays_inj.mp hchars
    rw [show y = x by omega]
  case isFalse hday =>
    have hyear := Date.yearChars_inj.mp hchars
    have hle := Date.year_ofDays_le hxy
    have hle' := Date.year_ofDays_le hyz
    dsimp only
    rw [if_neg hday, if_neg hday, show (Date.ofDays y).year = (Date.ofDays x).year by omega]

/-- One step of counting: the last day is passed, or a day that is not the calendar's last is
    counted. -/
theorem daysWithin?_succ_cases {limit : Nat} {day lastDay : Int} {days : List Int}
    (h : daysWithin? day lastDay (limit + 1) = some days) :
    lastDay < day ∧ days = [] ∨
      day ≤ lastDay ∧ ∃ later, daysWithin? (day + 1) lastDay limit = some later ∧
        days = day :: later := by
  rw [daysWithin?] at h
  split at h
  case isTrue hpassed => exact .inl ⟨hpassed, (Option.some.inj h).symm⟩
  case isFalse hleft =>
    split at h
    case isTrue =>
      obtain ⟨later, hlater, rfl⟩ := Option.map_eq_some_iff.mp h
      exact .inr ⟨Int.not_lt.mp hleft, later, hlater, rfl⟩
    case isFalse => cases h

/-- Days can be counted unless the last one of the calendar would be among them. -/
theorem exists_daysWithin? (day : Int) {lastDay : Int} (limit : Nat)
    (h : lastDay < Date.lastDay ∨ day + limit ≤ Date.lastDay) :
    ∃ days, daysWithin? day lastDay limit = some days := by
  induction limit generalizing day with
  | zero => exact ⟨[], rfl⟩
  | succ limit ih =>
    rw [daysWithin?]
    split
    case isTrue => exact ⟨[], rfl⟩
    case isFalse hle =>
      obtain ⟨days, hdays⟩ := ih (day + 1) (by omega)
      rw [if_pos (by omega), hdays]
      exact ⟨day :: days, rfl⟩

/-- The days that are counted are those from the first on, up to the last and the limit. -/
theorem mem_daysWithin?_iff {limit : Nat} {day lastDay d : Int} {days : List Int}
    (h : daysWithin? day lastDay limit = some days) :
    d ∈ days ↔ day ≤ d ∧ d ≤ lastDay ∧ d < day + limit := by
  induction limit generalizing day days with
  | zero =>
    cases h
    simp
    omega
  | succ limit ih =>
    rcases daysWithin?_succ_cases h with ⟨hpassed, rfl⟩ | ⟨hle, later, hlater, rfl⟩
    · rw [List.mem_nil_iff, false_iff]
      omega
    · rw [List.mem_cons, ih hlater]
      omega

/-- As many days are counted as there are up to the last one, or as the limit allows. -/
theorem length_daysWithin? {limit : Nat} {day lastDay : Int} {days : List Int}
    (h : daysWithin? day lastDay limit = some days) :
    days.length = min limit (lastDay + 1 - day).toNat := by
  induction limit generalizing day days with
  | zero =>
    cases h
    exact (Nat.zero_min _).symm
  | succ limit ih =>
    rcases daysWithin?_succ_cases h with ⟨hpassed, rfl⟩ | ⟨hle, later, hlater, rfl⟩
    · rw [List.length_nil]
      omega
    · rw [List.length_cons, ih hlater]
      omega

/-- Days are counted in their order. -/
theorem pairwise_daysWithin? {limit : Nat} {day lastDay : Int} {days : List Int}
    (h : daysWithin? day lastDay limit = some days) : days.Pairwise (· < ·) := by
  induction limit generalizing day days with
  | zero =>
    cases h
    exact .nil
  | succ limit ih =>
    rcases daysWithin?_succ_cases h with ⟨-, rfl⟩ | ⟨-, later, hlater, rfl⟩
    · exact .nil
    · refine .cons (fun d hd => ?_) (ih hlater)
      have := (mem_daysWithin?_iff hlater).mp hd
      omega

/-- What is kept stays in its order. -/
theorem dropRepeats_sublist (texts : List String) : (dropRepeats texts).Sublist texts := by
  induction texts using dropRepeats.induct with
  | case1 => exact List.Sublist.refl _
  | case2 => exact List.Sublist.refl _
  | case3 t rest ih =>
    rw [dropRepeats, if_pos rfl]
    exact ih.cons t
  | case4 t u rest hne ih =>
    rw [dropRepeats, if_neg hne]
    exact ih.cons_cons t

/-- Nothing is dropped that is not repeated. -/
theorem mem_dropRepeats_iff {s : String} {texts : List String} :
    s ∈ dropRepeats texts ↔ s ∈ texts := by
  refine ⟨fun h => (dropRepeats_sublist texts).subset h, fun h => ?_⟩
  induction texts using dropRepeats.induct with
  | case1 => exact h
  | case2 => exact h
  | case3 t rest ih =>
    -- the text that is dropped stands once more behind
    rw [dropRepeats, if_pos rfl]
    rcases List.mem_cons.mp h with rfl | h
    · exact ih List.mem_cons_self
    · exact ih h
  | case4 t u rest hne ih =>
    rw [dropRepeats, if_neg hne]
    rcases List.mem_cons.mp h with rfl | h
    · exact List.mem_cons_self
    · exact List.mem_cons_of_mem _ (ih h)

/-- What equals the text before it is dropped, and days of the same parameter follow each
    other. -/
theorem nodup_dropRepeats (interval : String) {days : List Int} (h : days.Pairwise (· < ·)) :
    (dropRepeats (days.map (dateParam interval))).Nodup := by
  induction days with
  | nil => exact .nil
  | cons x rest ih =>
    have hrest := ih h.of_cons
    -- only neighbours are compared, so a date that comes back later would have to skip one
    cases rest with
    | nil => exact List.nodup_cons.mpr ⟨List.not_mem_nil, List.nodup_nil⟩
    | cons y rest =>
      rw [List.map_cons] at hrest ⊢
      rw [List.map_cons, dropRepeats]
      split
      case isTrue => exact hrest
      case isFalse hne =>
        refine List.nodup_cons.mpr ⟨fun hmem => hne ?_, hrest⟩
        rw [← List.map_cons] at hmem
        obtain ⟨z, hz, heq⟩ := List.mem_map.mp (mem_dropRepeats_iff.mp hmem)
        have hxy : x < y := List.rel_of_pairwise_cons h List.mem_cons_self
        have hyz : y ≤ z := by
          rcases List.mem_cons.mp hz with rfl | hz
          · exact Int.le_refl _
          · exact Int.le_of_lt (List.rel_of_pairwise_cons h.of_cons hz)
        exact dateParam_eq_of_le (Int.le_of_lt hxy) hyz heq.symm

theorem dropRepeats_ne_nil {texts : List String} (h : texts ≠ []) : dropRepeats texts ≠ [] := by
  induction texts using dropRepeats.induct with
  | case1 => exact h
  | case2 => exact h
  | case3 t rest ih =>
    rw [dropRepeats, if_pos rfl]
    exact ih (List.cons_ne_nil _ _)
  | case4 t u rest hne ih =>
    rw [dropRepeats, if_neg hne]
    exact List.cons_ne_nil _ _

theorem daysWithin?_ne_nil {day lastDay : Int} {days : List Int} {limit : Nat}
    (h : daysWithin? day lastDay (limit + 1) = some days) (hle : day ≤ lastDay) : days ≠ [] :=
  List.ne_nil_of_mem ((mem_daysWithin?_iff h).mpr ⟨Int.le_refl day, hle, by omega⟩)

/-- **No date is asked for twice.** -/
theorem nodup_dateParams? {interval : String} {firstDay lastDay : Int} {dates : List String}
    (h : dateParams? interval firstDay lastDay = some dates) : dates.Nodup := by
  obtain ⟨days, hdays, rfl⟩ := Option.map_eq_some_iff.mp h
  exact nodup_dropRepeats interval (pairwise_daysWithin? hdays)

end Gmo

end LiveTrader
