import LiveTrader.Gmo.Fields
import LiveTrader.Market.Readings

/-!
  LiveTrader.Gmo.Candles

  Candles are served by date: those of up to an hour by day, longer ones by year.  A
  window of time is asked for date by date, and what comes back is cut to the window,
  sorted, freed of repetitions and cut to the latest.
-/

namespace LiveTrader.Gmo

/-! ## Dates to ask for -/

/-- Intervals that are served by day. -/
def isIntraday (interval : String) : Bool :=
  ["1min", "5min", "10min", "15min", "30min", "1hour"].contains interval

/-- The date parameter for a day. -/
def dateParam (interval : String) (day : Int) : String :=
  let date := Date.ofDays day
  String.ofList (if isIntraday interval then date.compactChars else Date.yearChars date.year)

/-- At most this many days are asked for. -/
abbrev maxDays : Nat := 366

/-- The days from `day` to `lastDay`, at most `limit` of them.  They are counted one by one
    from each to the next, so there is no result if the calendar ends with one of them. -/
def daysWithin? (day lastDay : Int) : (limit : Nat) → Option (List Int)
  | 0 => some []
  | limit + 1 =>
    if lastDay < day then some []
    else if day < Date.lastDay then (daysWithin? (day + 1) lastDay limit).map (day :: ·)
    else none

/-- Drops each text that equals the one before it. -/
def dropRepeats : List String → List String
  | [] => []
  | [s] => [s]
  | s :: t :: rest => if s = t then dropRepeats (t :: rest) else s :: dropRepeats (t :: rest)

/-- The date parameters for the days from the first to the last. -/
def dateParams? (interval : String) (firstDay lastDay : Int) : Option (List String) :=
  (daysWithin? firstDay lastDay maxDays).map fun days =>
    dropRepeats (days.map (dateParam interval))

/-! ## Entries -/

/-- The candle of an entry. -/
def kline? (entry : Json) : Option Kline := do
  return {
    timestamp := ← timeField? entry ["openTime", "timestamp"]
    opening := ← decimalField? entry ["open"]
    high := ← decimalField? entry ["high"]
    low := ← decimalField? entry ["low"]
    closing := ← decimalField? entry ["close"]
    volume := (decimalField? entry ["volume"]).getD .zero }

/-- The candles of a reply; one entry that is no candle spoils them all. -/
def klines (data : Json) : Except Fault (List Kline) :=
  match (entries data).mapM kline? with
  | some ks => .ok ks
  | none => .error (.invalidResponse "kline_malformed")

/-! ## Assembly -/

/-- Whether a candle opened within a window, both ends included. -/
def inWindow (start finish : Instant) (k : Kline) : Bool :=
  !k.timestamp.lt start && !finish.lt k.timestamp

/-- Sorts candles by time; of candles of the same time the first received stays first. -/
def sortByTime (ks : List Kline) : List Kline :=
  ks.mergeSort fun a b => !b.timestamp.lt a.timestamp

/-- Of neighbours of the same time, keeps the first. -/
def firstOfEachTime : List Kline → List Kline
  | [] => []
  | k :: rest => k :: go k.timestamp rest
where
  go (last : Instant) : List Kline → List Kline
    | [] => []
    | k :: rest => if k.timestamp = last then go last rest else k :: go k.timestamp rest

/-- The latest `limit` candles of distinct times, oldest first. -/
def assemble (limit : Nat) (ks : List Kline) : List Kline :=
  let distinct := firstOfEachTime (sortByTime ks)
  distinct.drop (distinct.length - limit)

end LiveTrader.Gmo
