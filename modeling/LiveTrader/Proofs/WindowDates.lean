import Mathlib.Data.String.Basic
import LiveTrader.Proofs.DatesInOrder
import LiveTrader.Proofs.Requests

/-!
  LiveTrader.Proofs.WindowDates

  The dates that are asked for are those of the days of a window.  They are in the order of the
  days and each comes once; days are counted up to a limit, and none is left out of a window that
  keeps to it.  So unless a failure is told, the candles of every instant of such a window have been
  asked for.
-/

namespace LiveTrader.Gmo

/-! ## Date parameters -/

/-- A text is the date parameter for a day: eight digits of the day's date, or four of its year. -/
def NamesDay (interval : String) (day : Int) (text : String) : Prop :=
  ∃ date : Date, date.toDays = day ∧ Date.of? date.year date.month date.day = some date ∧
    if isIntraday interval then
      Text.IsNumber 8 (date.year.toNat * 10000 + (date.month * 100 + date.day)) text.toList
    else Text.IsNumber 4 date.year.toNat text.toList

theorem namesDay_dateParam (interval : String) {day : Int}
    (h : 0 ≤ (Date.ofDays day).year ∧ (Date.ofDays day).year ≤ 9999) :
    NamesDay interval day (dateParam interval day) := by
  have hdate : Date.of? (Date.ofDays day).year (Date.ofDays day).month (Date.ofDays day).day =
      some (Date.ofDays day) := by
    obtain ⟨hmonth, hmonth', hday, hday'⟩ := Date.ofDays_bounds day
    have hfirst := Int.le_trans (show Date.firstYear ≤ 0 by decide) h.1
    have hlast := Int.le_trans h.2 (show 9999 ≤ Date.lastYear by decide)
    exact if_pos ⟨hfirst, hlast, hmonth, hmonth', hday, hday'⟩
  refine ⟨Date.ofDays day, Date.toDays_ofDays day, hdate, ?_⟩
  unfold dateParam
  rw [String.toList_ofList]
  split
  · exact Date.isNumber_compactChars h
  · exact Date.isNumber_yearChars h

/-- Intervals that are served by day have different parameters for different days. -/
theorem dateParam_inj {interval : String} (hday : isIntraday interval = true) {x y : Int} :
    dateParam interval x = dateParam interval y ↔ x = y := by
  simp only [dateParam, if_pos hday, String.ofList_inj]
  exact Date.compactChars_ofDays_inj

/-- In years of four digits the parameter of a later day is a later text, if it is another. -/
theorem dateParam_lt {interval : String} {x y : Int} (hxy : x < y)
    (hx : 0 ≤ (Date.ofDays x).year) (hy : (Date.ofDays y).year ≤ 9999)
    (hne : dateParam interval x ≠ dateParam interval y) :
    dateParam interval x < dateParam interval y := by
  have hyear := Date.year_ofDays_le (Int.le_of_lt hxy)
  have hnumber := Date.number_ofDays_lt hxy
  rw [String.lt_iff_toList_lt]
  -- for longer intervals a date is a year, and different dates are of different years
  have hyears : isIntraday interval = false → (Date.ofDays x).year ≠ (Date.ofDays y).year :=
    fun hday heq => hne (by simp [dateParam, hday, heq])
  unfold dateParam
  rw [String.toList_ofList, String.toList_ofList]
  split
  case isTrue =>
    exact (Date.isNumber_compactChars ⟨hx, by omega⟩).lt
      (Date.isNumber_compactChars ⟨by omega, hy⟩) (by omega)
  case isFalse hday =>
    have hyears := hyears (by simpa using hday)
    exact (Date.isNumber_yearChars ⟨hx, by omega⟩).lt (Date.isNumber_yearChars ⟨by omega, hy⟩)
      (by omega)

/-! ## Windows of days -/

/-- Date parameters are those of the days of a window, as far as these are counted. -/
structure Covers (interval : String) (firstDay lastDay : Int) (dates : List String) : Prop where
  /-- Each is the parameter of a later day of the window than the one before it. -/
  inOrder : ∃ days : List Int, days.Pairwise (· < ·) ∧
    (∀ day ∈ days, firstDay ≤ day ∧ day ≤ lastDay) ∧ dates = days.map (dateParam interval)
  nodup : dates.Nodup
  length_le : dates.length ≤ maxDays
  /-- They are those of as many days as the window has, up to the limit, whichever these are. -/
  counted : ∃ days : List Int, days.Pairwise (· < ·) ∧
    days.length = min maxDays (lastDay + 1 - firstDay).toNat ∧
    ∀ day ∈ days, firstDay ≤ day ∧ day ≤ lastDay ∧ dateParam interval day ∈ dates
  /-- None is left out if the days are not too many. -/
  every : lastDay < firstDay + maxDays → ∀ day, firstDay ≤ day → day ≤ lastDay →
    dateParam interval day ∈ dates
  /-- In years of four digits the days are named in digits, and the texts are in order too. -/
  spelled : 0 ≤ (Date.ofDays firstDay).year → (Date.ofDays lastDay).year ≤ 9999 →
    dates.Pairwise (· < ·) ∧ ∀ day, firstDay ≤ day → day ≤ lastDay →
      NamesDay interval day (dateParam interval day)

theorem covers_dateParams? {interval : String} {firstDay lastDay : Int} {dates : List String}
    (h : dateParams? interval firstDay lastDay = some dates) :
    Covers interval firstDay lastDay dates := by
  have hnodup := nodup_dateParams? h
  obtain ⟨counted, hcounted, rfl⟩ := Option.map_eq_some_iff.mp h
  obtain ⟨days, hdays, heq⟩ := List.sublist_map_iff.mp
    (dropRepeats_sublist (counted.map (dateParam interval)))
  have hpairwise := (pairwise_daysWithin? hcounted).sublist hdays
  have hlength := length_daysWithin? hcounted
  have hwithin : ∀ day ∈ counted, firstDay ≤ day ∧ day ≤ lastDay := fun day hday => by
    obtain ⟨hfirst, hlast, -⟩ := (mem_daysWithin?_iff hcounted).mp hday
    exact ⟨hfirst, hlast⟩
  -- leaving out repetitions keeps the parameter of every day that was counted
  have hasked : ∀ day ∈ counted,
      dateParam interval day ∈ dropRepeats (counted.map (dateParam interval)) :=
    fun day hday => mem_dropRepeats_iff.mpr (List.mem_map_of_mem hday)
  refine ⟨⟨days, hpairwise, fun day hday => hwithin day (hdays.subset hday), heq⟩, hnodup, ?_,
    ⟨counted, pairwise_daysWithin? hcounted, hlength, fun day hday => ?_⟩,
    fun hfew day hfirst hlast => ?_, fun hyear hyear' => ⟨?_, fun day hfirst hlast => ?_⟩⟩
  · calc (dropRepeats (counted.map (dateParam interval))).length
        ≤ (counted.map (dateParam interval)).length := (dropRepeats_sublist _).length_le
      _ = counted.length := List.length_map _
      _ ≤ maxDays := hlength.trans_le (Nat.min_le_left ..)
  · exact ⟨(hwithin day hday).1, (hwithin day hday).2, hasked day hday⟩
  · exact hasked day ((mem_daysWithin?_iff hcounted).mpr ⟨hfirst, hlast, by omega⟩)
  · rw [heq] at hnodup ⊢
    rw [List.pairwise_map]
    have hdistinct := List.pairwise_map.mp hnodup
    refine (hpairwise.and hdistinct).imp_of_mem fun {x y} hx hy hxy => ?_
    have hfirst := Date.year_ofDays_le (hwithin x (hdays.subset hx)).1
    have hlast := Date.year_ofDays_le (hwithin y (hdays.subset hy)).2
    exact dateParam_lt hxy.1 (by omega) (by omega) hxy.2
  · have hyear := Date.year_ofDays_le hfirst
    have hyear' := Date.year_ofDays_le hlast
    exact namesDay_dateParam interval ⟨by omega, by omega⟩

namespace Adapter

variable {σ : Type}

/-- A window can be asked for, and by dates that cover its days.  They are asked for in order, and
    unless a failure is told all of them; with them the candles of every instant of a window of not
    too many days have been asked for. -/
def AsksForWindow (a : Adapter (StateM σ)) (symbol interval : String) (start finish : Instant)
    (limit : Nat) (s : σ) : Prop :=
  let op := PublicOperation.klines symbol interval start finish limit
  let firstDay := start.seconds / Instant.secondsPerDay
  let lastDay := finish.seconds / Instant.secondsPerDay
  ∃ dates traced plain, dateParams? interval firstDay lastDay = some dates ∧
    Covers interval firstDay lastDay dates ∧
    a.traced.performPublic? op = some traced ∧ a.performPublic? op = some plain ∧
      let run := traced.run ⟨s, []⟩
      (run.1, run.2.state) = plain.run s ∧
        sent run.2.trace <+: dates.map (dateRequest symbol interval) ∧
        ((∀ fault, run.1 ≠ op.failed fault) →
          sent run.2.trace = dates.map (dateRequest symbol interval) ∧
            (lastDay < firstDay + maxDays →
              ∀ t : Instant, t.lt start = false → finish.lt t = false →
                dateRequest symbol interval
                    (dateParam interval (t.seconds / Instant.secondsPerDay)) ∈
                  sent run.2.trace))

/-- The day of an instant is none before that of an earlier one. -/
theorem day_le_of_not_lt {t u : Instant} (h : u.lt t = false) :
    t.seconds / Instant.secondsPerDay ≤ u.seconds / Instant.secondsPerDay := by
  have hle : t.seconds ≤ u.seconds := by
    rw [← Bool.not_eq_true, Instant.lt_iff] at h
    omega
  exact Int.ediv_le_ediv (by decide) hle

/-- **The dates of a window cover it**, and the candles of every instant of it are asked for, if it
    has not too many days. -/
theorem window_asked (a : Adapter (StateM σ)) (symbol interval : String) {start finish : Instant}
    (hwindow : finish.lt start = false)
    (hend : finish.seconds / Instant.secondsPerDay < Date.lastDay ∨
      start.seconds / Instant.secondsPerDay + maxDays ≤ Date.lastDay)
    (limit : Nat) (s : σ) : a.AsksForWindow symbol interval start finish limit s := by
  obtain ⟨days, hdays⟩ := exists_daysWithin? _ maxDays hend
  have hdates : windowDates? interval start finish =
      some (dropRepeats (days.map (dateParam interval))) := by
    rw [windowDates?, dateParams?, hdays]
    rfl
  have hrequests : (PublicOperation.klines symbol interval start finish limit).requests? =
      some ((dropRepeats (days.map (dateParam interval))).map (dateRequest symbol interval)) := by
    rw [PublicOperation.requests?, if_neg (by simp [hwindow]), hdates]
    rfl
  have hcovers := covers_dateParams? hdates
  obtain ⟨traced, plain, htraced, hplain, herases, hasks⟩ :=
    (a.klines_asksPublicly symbol interval start finish limit s).2 _ hrequests
  refine ⟨_, traced, plain, hdates, hcovers, htraced, hplain, herases, hasks.inOrder,
    fun hresult => ?_⟩
  -- a run that fails has asked for the first of the dates; only one that does not has asked for all
  have hsent := hasks.complete hresult
  refine ⟨hsent, fun hfew t hstart hfinish => ?_⟩
  rw [hsent]
  exact List.mem_map_of_mem
    (hcovers.every hfew _ (day_le_of_not_lt hstart) (day_le_of_not_lt hfinish))

/-- All days of a leap year. -/
theorem leapYear_asked :
    let start : Instant := ⟨(Date.mk 2024 1 1).toDays * Instant.secondsPerDay, 0⟩
    let finish : Instant := ⟨(Date.mk 2025 1 1).toDays * Instant.secondsPerDay - 1, 999999999⟩
    finish.lt start = false ∧ finish.seconds / Instant.secondsPerDay < Date.lastDay ∧
      scriptedAdapter.AsksForWindow "BTC_JPY" "1min" start finish 10
        (ScriptedGateway.of [] (.ok (.arr [])) [] 0) :=
  ⟨by decide +kernel, by decide +kernel,
    scriptedAdapter.window_asked _ _ (by decide +kernel) (.inl (by decide +kernel)) _ _⟩

end Adapter

/-- Days past the limit are not counted, so the last of a year and two days is left out. -/
theorem last_day_left_out :
    let firstDay := (Date.mk 2025 1 1).toDays
    let lastDay := (Date.mk 2026 1 2).toDays
    firstDay ≤ lastDay ∧ ∃ dates, dateParams? "1hour" firstDay lastDay = some dates ∧
      dateParam "1hour" lastDay ∉ dates := by
  intro firstDay lastDay
  have hnext : lastDay = firstDay + maxDays := by decide
  obtain ⟨days, hdays⟩ := exists_daysWithin? firstDay maxDays
    (.inl (show lastDay < Date.lastDay by decide))
  refine ⟨by decide, dropRepeats (days.map (dateParam "1hour")), ?_, fun hmem => ?_⟩
  · rw [dateParams?, hdays]
    rfl
  · obtain ⟨day, hday, heq⟩ := List.mem_map.mp (mem_dropRepeats_iff.mp hmem)
    obtain rfl := (dateParam_inj (show isIntraday "1hour" = true by decide)).mp heq
    have hcounted := ((mem_daysWithin?_iff hdays).mp hday).2.2
    omega

end LiveTrader.Gmo
