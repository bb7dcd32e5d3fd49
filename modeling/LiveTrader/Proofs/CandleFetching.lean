import LiveTrader.Proofs.CandleSelection
import LiveTrader.Proofs.Requests

/-!
  LiveTrader.Proofs.CandleFetching

  What comes of asking for the candles of a window.  The dates are asked for one after the other.
  If all replies hold candles, the candles kept are selected from all of them; the first reply that
  fails, or that has an entry which is no candle, is the last that is asked for, and its failure is
  the result.
-/

namespace LiveTrader.Gmo

open Tracing (Ends Erases)

variable {σ : Type}

/-! ## Replies -/

/-- A reply answers with candles: each of its entries is one. -/
def Answers (outcome : Except Fault Json) (ks : List Kline) : Prop :=
  ∃ data, outcome = .ok data ∧ List.Forall₂ (fun entry k => kline? entry = some k) (entries data) ks

/-- A reply is a failure, or it has an entry that is no candle. -/
inductive FailsWith : Except Fault Json → Fault → Prop
  | refused (fault : Fault) : FailsWith (.error fault) fault
  | malformed {data entry : Json} (hentry : entry ∈ entries data) (hnone : kline? entry = none) :
      FailsWith (.ok data) (.invalidResponse "kline_malformed")

section Reading

variable {α β : Type} {read? : α → Option β}

theorem mapM_eq_some_iff {as : List α} {bs : List β} :
    as.mapM read? = some bs ↔ List.Forall₂ (fun a b => read? a = some b) as bs := by
  induction as generalizing bs with
  | nil => cases bs <;> simp
  | cons a rest ih =>
    rw [List.mapM_cons]
    cases ha : read? a with
    | none => cases bs <;> simp [ha]
    | some b => cases bs <;> cases hrest : rest.mapM read? <;> simp [ha, ← ih, hrest]

theorem mapM_eq_none_iff {as : List α} :
    as.mapM read? = none ↔ ∃ a ∈ as, read? a = none := by
  induction as with
  | nil => simp
  | cons a rest ih =>
    rw [List.mapM_cons]
    cases ha : read? a <;> cases hrest : rest.mapM read? <;> simp [ha, ← ih, hrest]

end Reading

theorem bind_klines_eq_ok_iff {outcome : Except Fault Json} {ks : List Kline} :
    outcome.bind klines = .ok ks ↔ Answers outcome ks := by
  cases outcome with
  | error fault => exact ⟨nofun, fun ⟨_, h, _⟩ => nomatch h⟩
  | ok data =>
    have hread : (entries data).mapM kline? = some ks ↔ Answers (.ok data) ks := by
      simp [Answers, mapM_eq_some_iff]
    rw [← hread, Except.bind, klines]
    cases (entries data).mapM kline? <;> simp

theorem bind_klines_eq_error_iff {outcome : Except Fault Json} {fault : Fault} :
    outcome.bind klines = .error fault ↔ FailsWith outcome fault := by
  cases outcome with
  | error f =>
    rw [Except.bind, Except.error.injEq]
    exact ⟨fun h => h ▸ .refused f, fun | .refused _ => rfl⟩
  | ok data =>
    rw [Except.bind, klines]
    constructor
    · intro h
      split at h
      case h_1 => cases h
      case h_2 hnone =>
        cases h
        obtain ⟨entry, hentry, hmalformed⟩ := mapM_eq_none_iff.mp hnone
        exact .malformed hentry hmalformed
    · rintro (_ | ⟨hentry, hmalformed⟩)
      rw [mapM_eq_none_iff.mpr ⟨_, hentry, hmalformed⟩]

/-- Replies answer with candles if reading them one by one gives these. -/
theorem forall₂_answers_iff {outcomes : List (Except Fault Json)} {replies : List (List Kline)} :
    List.Forall₂ Answers outcomes replies ↔
      (outcomes.map fun reply => reply.bind klines) = replies.map .ok := by
  induction outcomes generalizing replies with
  | nil => cases replies <;> simp
  | cons outcome rest ih => cases replies <;> simp [ih, bind_klines_eq_ok_iff]

/-! ## Courses -/

/-- Something came back for each request. -/
theorem length_sent_eq {events : List GatewayEvent}
    (h : ∀ e ∈ events, ∃ r reply, e = .send r reply) :
    (sent events).length = (outcomes events).length := by
  induction events with
  | nil => rfl
  | cons e rest ih =>
    obtain ⟨r, reply, rfl⟩ := h e List.mem_cons_self
    exact congrArg (· + 1) (ih fun e he => h e (List.mem_cons_of_mem _ he))

namespace Adapter

variable {a : Adapter (StateM σ)} {symbol interval : String} {dates : List String}
  {start finish : Instant} {limit : Nat} {events : List GatewayEvent}
  {result : Except Fault (List Kline)}

/-- With network access a request for public data brings back one outcome. -/
theorem PublicCourse.outcomes_eq {operation : String} {request : Request}
    {outcome : Except Fault Json} (h : a.PublicCourse operation request events outcome)
    (hon : a.settings.useHttp = true) : outcomes events = [outcome] := by
  cases h with
  | disabled hoff => simp [hon] at hoff
  | asked => rfl

namespace DatesCourse

theorem answered (h : a.DatesCourse symbol interval dates events result)
    (hon : a.settings.useHttp = true) {replies : List (List Kline)}
    (hreplies : List.Forall₂ Answers (outcomes events) replies) :
    result = .ok replies.flatten := by
  induction h generalizing replies with
  | done =>
    cases hreplies
    rfl
  | failed h hfault =>
    rw [h.outcomes_eq hon] at hreplies
    obtain _ | ⟨hhere, -⟩ := hreplies
    rw [bind_klines_eq_ok_iff.mpr hhere] at hfault
    cases hfault
  | next h hhere _ ih =>
    -- the first reply is that for this date, and the others are for the dates that follow
    rw [outcomes_append, h.outcomes_eq hon] at hreplies
    obtain _ | ⟨hanswer, hlater⟩ := hreplies
    rw [bind_klines_eq_ok_iff.mpr hanswer] at hhere
    cases hhere
    rw [ih hlater]
    rfl

/-- The first reply that fails is the last. -/
theorem stopped (h : a.DatesCourse symbol interval dates events result)
    (hon : a.settings.useHttp = true) {outcome : Except Fault Json}
    (hmem : outcome ∈ outcomes events) {fault : Fault} (hfault : FailsWith outcome fault) :
    result = .error fault ∧ ∃ before, outcomes events = before ++ [outcome] ∧
      ∀ earlier ∈ before, ∃ ks, Answers earlier ks := by
  have hread := bind_klines_eq_error_iff.mpr hfault
  -- on the dates asked; the failing reply is that of the last one
  induction h with
  | done => exact absurd hmem List.not_mem_nil
  | failed h hhere =>
    rw [h.outcomes_eq hon] at hmem ⊢
    obtain rfl := List.mem_singleton.mp hmem
    exact ⟨hhere.symm.trans hread, [], rfl, fun _ hin => absurd hin List.not_mem_nil⟩
  | next h hhere _ ih =>
    rw [outcomes_append, h.outcomes_eq hon] at hmem ⊢
    rcases List.mem_cons.mp hmem with rfl | hmem
    · -- this reply held candles, so it is not the one that fails
      rw [hread] at hhere
      cases hhere
    · obtain ⟨rfl, before, hbefore, hanswers⟩ := ih hmem
      refine ⟨rfl, _ :: before, congrArg _ hbefore, fun earlier hin => ?_⟩
      rcases List.mem_cons.mp hin with rfl | hin
      · exact ⟨_, bind_klines_eq_ok_iff.mp hhere⟩
      · exact hanswers earlier hin

end DatesCourse

/-! ## Windows -/

/-- What comes of asking for the latest candles of a window by requests. -/
structure FetchesCandles (a : Adapter (StateM σ)) (start finish : Instant) (limit : Nat)
    (requests : List Request) (trace : List GatewayEvent) (listing : Listing Kline) : Prop where
  /-- If all replies hold candles, the candles are selected from all that came. -/
  assembled : a.settings.useHttp = true → ∀ replies, List.Forall₂ Answers (outcomes trace) replies →
    sent trace = requests ∧ listing.error = none ∧
      Selects start finish limit replies.flatten listing.items
  /-- The first reply that does not is the last that is asked for. -/
  stopped : a.settings.useHttp = true → ∀ outcome ∈ outcomes trace, ∀ fault,
    FailsWith outcome fault → listing = .failed fault ∧
      ∃ before, outcomes trace = before ++ [outcome] ∧
        (∀ earlier ∈ before, ∃ ks, Answers earlier ks) ∧
        sent trace = requests.take (before.length + 1)
  idle : finish.lt start = true → trace = [] ∧ listing = .ok []
  withoutHttp : a.settings.useHttp = false → trace = [] ∧
    (finish.lt start = false → listing = .failed (httpDisabled "fetch_klines"))

theorem fetchesCandles_idle (a : Adapter (StateM σ)) (h : finish.lt start = true) :
    a.FetchesCandles start finish limit [] [] (.ok []) where
  assembled _ replies hreplies := by
    cases hreplies
    have hnone : assemble limit [] = [] := by
      simp [assemble, sortByTime, firstOfEachTime]
    exact ⟨rfl, rfl, hnone ▸ selects_assemble start finish limit []⟩
  stopped _ outcome hmem := absurd hmem List.not_mem_nil
  idle _ := ⟨rfl, rfl⟩
  withoutHttp _ := ⟨rfl, fun hwindow => by simp [h] at hwindow⟩

theorem DatesCourse.fetchesCandles (h : a.DatesCourse symbol interval dates events result)
    (hwindow : finish.lt start = false) (hdates : dates ≠ []) :
    a.FetchesCandles start finish limit (dates.map (dateRequest symbol interval)) events
      (.ofExcept (result.map fun ks => assemble limit (ks.filter (inWindow start finish)))) where
  assembled hon replies hreplies := by
    obtain rfl := h.answered hon hreplies
    exact ⟨h.sent_eq_of_ok rfl, rfl, selects_assemble start finish limit replies.flatten⟩
  stopped hon outcome hmem fault hfault := by
    obtain ⟨rfl, before, hbefore, hanswers⟩ := h.stopped hon hmem hfault
    refine ⟨rfl, before, hbefore, hanswers, ?_⟩
    -- each request has its reply, so as many dates were asked for as replies came
    have hlength : (sent events).length = before.length + 1 := by
      rw [length_sent_eq h.onlySends, hbefore, List.length_append, List.length_singleton]
    rw [← hlength]
    exact List.prefix_iff_eq_take.mp h.sent_inOrder
  idle hidle := by simp [hwindow] at hidle
  withoutHttp hoff := by
    obtain ⟨rfl, rfl⟩ := h.of_disabled hoff hdates
    exact ⟨rfl, fun _ => rfl⟩

/-- Asking for the candles of a window can be carried out, and fetches them. -/
def FetchesWindow (a : Adapter (StateM σ)) (symbol interval : String) (start finish : Instant)
    (limit : Nat) (s : σ) : Prop :=
  let op := PublicOperation.klines symbol interval start finish limit
  ∃ requests traced plain listing, op.requests? = some requests ∧
    a.traced.performPublic? op = some traced ∧ a.performPublic? op = some plain ∧
      let run := traced.run ⟨s, []⟩
      (run.1, run.2.state) = plain.run s ∧ run.1 = .klines listing ∧
        a.FetchesCandles start finish limit requests run.2.trace listing

/-- Windows that end before the last day of the calendar have dates. -/
theorem exists_windowDates? (interval : String) (start : Instant) {finish : Instant}
    (h : finish.seconds / Instant.secondsPerDay < Date.lastDay) :
    ∃ dates, windowDates? interval start finish = some dates := by
  obtain ⟨days, hdays⟩ :=
    exists_daysWithin? (start.seconds / Instant.secondsPerDay) maxDays (.inl h)
  rw [windowDates?, dateParams?, hdays]
  exact ⟨_, rfl⟩

/-- The candles of a window are those of its dates, cut to it. -/
theorem exists_klines_run (a : Adapter (StateM σ)) (hwindow : finish.lt start = false)
    (hdates : windowDates? interval start finish = some dates) (s : σ) :
    let op := PublicOperation.klines symbol interval start finish limit
    ∃ traced plain received, a.traced.performPublic? op = some traced ∧
      a.performPublic? op = some plain ∧
        let run := traced.run ⟨s, []⟩
        (run.1, run.2.state) = plain.run s ∧
          run.1 = .klines (.ofExcept (received.map fun ks =>
            assemble limit (ks.filter (inWindow start finish)))) ∧
          a.DatesCourse symbol interval dates run.2.trace received := by
  have hends : ∀ cut : Except Fault (List Kline) → PublicResult,
      Ends (cut <$> a.traced.fetchDates symbol interval dates) s fun events result _ =>
        ∃ received, result = cut received ∧ a.DatesCourse symbol interval dates events received :=
    fun cut => .map ((a.fetchDates_ends symbol interval dates s).mono fun _ received _ hcourse =>
      ⟨received, rfl, hcourse⟩)
  obtain ⟨received, hrun⟩ := (hends fun received => .klines (.ofExcept (received.map fun ks =>
    assemble limit (ks.filter (inWindow start finish))))).run
  dsimp only
  rw [performPublic?_klines _ hwindow, performPublic?_klines _ hwindow, hdates]
  exact ⟨_, _, received, rfl, rfl, Erases.map _ (a.fetchDates_erases symbol interval dates) _, hrun⟩

/-- **The candles of a window are the first that came for each of its latest times**, if all replies
    hold candles; otherwise there are none, and the first failure is told. -/
theorem klines_fetched (a : Adapter (StateM σ)) (symbol interval : String)
    (start finish : Instant) (limit : Nat) (s : σ)
    (h : finish.seconds / Instant.secondsPerDay < Date.lastDay) :
    a.FetchesWindow symbol interval start finish limit s := by
  cases hwindow : finish.lt start with
  | true =>
    -- nothing is asked for, so it does not matter which days the window has
    exact ⟨[], _, _, .ok [], if_pos hwindow, performPublic?_klines_of_lt _ hwindow,
      performPublic?_klines_of_lt _ hwindow, rfl, rfl, a.fetchesCandles_idle hwindow⟩
  | false =>
    obtain ⟨dates, hdates⟩ := exists_windowDates? interval start h
    have hrequests : (PublicOperation.klines symbol interval start finish limit).requests? =
        some (dates.map (dateRequest symbol interval)) := by
      rw [PublicOperation.requests?, if_neg (by simp [hwindow]), hdates]
      rfl
    have hne := windowDates?_ne_nil hdates hwindow
    obtain ⟨traced, plain, received, htraced, hplain, herases, hresult, hcourse⟩ :=
      a.exists_klines_run hwindow hdates s
    exact ⟨_, traced, plain, _, hrequests, htraced, hplain, herases, hresult,
      hcourse.fetchesCandles hwindow hne⟩

/-- Around the last midnight before the calendar's last day, two replies bring candles in no order,
    some of the same time and some from outside the window.  Kept are the first that came for each
    of the two latest times. -/
theorem klines_fetched_before_last_day :
    let midnight := (Date.lastDay - 1) * Instant.secondsPerDay
    let start : Instant := ⟨midnight - 60, 0⟩
    let finish : Instant := ⟨midnight + 59, 999999999⟩
    let candle (second : Int) (price : String) : Json := .object [
      ("openTime", .int ((midnight + second) * 1000)), ("open", .str price), ("high", .str price),
      ("low", .str price), ("close", .str price)]
    let kline (second : Int) (price : Decimal) : Kline :=
      ⟨⟨midnight + second, 0⟩, price, price, price, price, .zero⟩
    let script := ScriptedGateway.of [
      .ok (.arr [candle 20 "3", candle (-30) "1", candle (-90) "9"]),
      .ok (.arr [candle 40 "4", candle 20 "5", candle 60 "9", candle (-30) "7"])] (.ok .null) [] 0
    finish.seconds / Instant.secondsPerDay < Date.lastDay ∧
      scriptedAdapter.FetchesWindow "BTC_JPY" "1min" start finish 2 script ∧
      ∃ act, scriptedAdapter.performPublic? (.klines "BTC_JPY" "1min" start finish 2) = some act ∧
        (act.run script).1 = .klines (.ok [kline 20 (.small 3 0), kline 40 (.small 4 0)]) := by
  intro midnight start finish candle kline script
  have hend : finish.seconds / Instant.secondsPerDay < Date.lastDay := by decide +kernel
  refine ⟨hend, scriptedAdapter.klines_fetched _ _ _ _ _ _ hend, ?_⟩
  obtain ⟨dates, hdates⟩ := exists_windowDates? "1min" start hend
  have hwindow : finish.lt start = false := by decide +kernel
  -- the dates stay unevaluated: the candles of a run are those of its replies, whatever was asked
  obtain ⟨traced, plain, received, htraced, hplain, herases, hresult, hcourse⟩ :=
    @exists_klines_run _ "BTC_JPY" "1min" dates start finish 2 scriptedAdapter hwindow hdates script
  let replies := [
    [kline 20 (.small 3 0), kline (-30) (.small 1 0), kline (-90) (.small 9 0)],
    [kline 40 (.small 4 0), kline 20 (.small 5 0), kline 60 (.small 9 0), kline (-30) (.small 7 0)]]
  have hread : (scriptedAdapter.traced.performPublic? (.klines "BTC_JPY" "1min" start finish 2)).map
      (fun act => (outcomes (act.run ⟨script, []⟩).2.trace).map fun reply => reply.bind klines) =
        some (replies.map .ok) := by
    decide +kernel
  rw [htraced, Option.map_some, Option.some.injEq] at hread
  obtain rfl := hcourse.answered rfl (forall₂_answers_iff.mpr hread)
  -- sorting does not evaluate in the kernel, but what the first candles are can be decided
  have hfirsts : FirstsOf (replies.flatten.filter (inWindow start finish))
      [kline (-30) (.small 1 0), kline 20 (.small 3 0), kline 40 (.small 4 0)] := by
    constructor <;> decide +kernel
  have hkept : assemble 2 (replies.flatten.filter (inWindow start finish)) =
      [kline 20 (.small 3 0), kline 40 (.small 4 0)] := hfirsts.assemble_eq 2
  refine ⟨plain, hplain, ?_⟩
  rw [← herases, hresult, Except.map, hkept]
  rfl

end Adapter

end LiveTrader.Gmo
