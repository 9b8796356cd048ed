import Mathlib
import AgenticTrader.Library.Ascending
import AgenticTrader.Library.Checks
import AgenticTrader.Library.Extended
import AgenticTrader.Alpha.DecisionWindows

/-!
# Bars of a trading session

`market/bars.py` cuts a session into bars from its open, the last one clipped at its close, and
fills each bar from the observed minutes (`build_session_bars`). Nothing is imputed: a regular
minute without an observation is refused, and an observation outside the regular minutes is
left out. A container is checked against the calendar it was made from by a second
enumeration of minutes and windows (`SessionBars.validate`), which stops at the last observed
minute where the construction stops at `as_of`.

Times are microseconds; an index that was checked to be aware and known is a list of times.
Prices are exact, and each may be infinite or not a number before it is checked.
-/

namespace AgenticTrader

variable {clock : DayClock} {V : Type}

/-! ## Frames -/

/-- One row of a frame: the label of its index, unknown where it is `NaT`, and its cells by
column. -/
structure MinuteRow (V : Type) where
  time : Option Time
  cell : String → Extended V

/-- `OHLCV`. -/
def ohlcv : List String := ["open", "high", "low", "close", "volume"]

/-- **A frame of minutes.** No two of the columns that are read have one name in lower
case. -/
structure MinuteFrame (V : Type) where
  attrs : String → Option String
  aware : Bool
  columns : List String
  rows : List (MinuteRow V)
  distinct : ((columns.map String.toLower).filter (· ∈ ohlcv)).Nodup

/-- One labelled row of `OHLCV`. -/
structure OhlcvRow (V : Type) where
  time : Time
  openPrice : V
  high : V
  low : V
  close : V
  volume : V
  deriving DecidableEq

namespace MinuteFrame

variable (minutes : MinuteFrame V)

/-- A cell by the lower-case name of its column. -/
def cell (row : MinuteRow V) (name : String) : Extended V :=
  row.cell ((minutes.columns.find? (fun column => column.toLower == name)).getD name)

/-- A row at its time. -/
def observe (row : MinuteRow V) (t : Time) : OhlcvRow (Extended V) where
  time := t
  openPrice := minutes.cell row "open"
  high := minutes.cell row "high"
  low := minutes.cell row "low"
  close := minutes.cell row "close"
  volume := minutes.cell row "volume"

/-- The rows with a known time. -/
def observations : List (OhlcvRow (Extended V)) :=
  minutes.rows.filterMap (fun row => row.time.map (minutes.observe row))

end MinuteFrame

/-- A frame of `OHLCV` on an aware index of known labels. -/
structure BarFrame (V : Type) where
  attrs : String → Option String
  rows : List (OhlcvRow V)

/-- The index of a frame. -/
def BarFrame.index (frame : BarFrame V) : List Time := frame.rows.map OhlcvRow.time

/-! ## The calendar -/

/-- **`SessionSchedule`**, with what its constructor checks. -/
structure SessionSchedule (clock : DayClock) where
  start : ℤ
  stop : ℤ
  sessions : List (TradingSession clock)
  source : String
  source_ne : source ≠ ""
  ordered : start ≤ stop
  sessions_ne : sessions ≠ []
  ascending : sessions.Pairwise (fun s s' => s.date < s'.date)
  within : ∀ s ∈ sessions, start ≤ s.date ∧ s.date ≤ stop

/-- `EXECUTION_BAR_DURATION`. -/
def executionBarDuration : ℤ := 60000000

/-- `BAR_DURATIONS`, by the label of a timeframe. -/
def barDuration : String → Option Timeframe
  | "15m" => some .m15
  | "1h" => some .h1
  | "4h" => some .h4
  | "1d" => some .d1
  | _ => none

/-- `SESSION_BAR_LAYOUT`. -/
def sessionBarLayout : String := "rth_open_v1"

/-- `t.floor("min")`. -/
def floorMinute (t : ℤ) : ℤ := t - t % executionBarDuration

/-- `pd.date_range(start, stop, freq="min", inclusive="left")`. -/
def minuteRange (start stop : ℤ) : List ℤ :=
  (List.range ((stop - start + (executionBarDuration - 1)) / executionBarDuration).toNat).map
    (fun i : ℕ => start + (i : ℤ) * executionBarDuration)

/-- **`session_execution_minutes`.** -/
def sessionExecutionMinutes (schedule : SessionSchedule clock) (asOf : Time) : List Time :=
  schedule.sessions.flatMap (fun s =>
    if s.openAt < min s.closeAt (floorMinute asOf) then
      minuteRange s.openAt (min s.closeAt (floorMinute asOf))
    else [])

/-! ## The container and its check -/

/-- The coverage of a construction. -/
structure BarCoverage where
  expectedMinutes : ℕ
  observedMinutes : ℕ
  missingMinutes : ℕ
  missingExamples : List Time
  excludedMinutes : ℕ
  deriving DecidableEq

/-- **`SessionBars`.** -/
structure SessionBars (V : Type) (clock : DayClock) where
  execution : BarFrame V
  signals : BarFrame V
  closedAt : List Time
  coverage : BarCoverage
  schedule : SessionSchedule clock

/-- `index.is_unique and index.is_monotonic_increasing`. -/
def isOrdered (index : List Time) : Bool := decide (index.Pairwise (· < ·))

/-- **`SessionBars.validate`.** -/
def SessionBars.validate (bars : SessionBars V clock) (timeframe : String) : Except String Unit :=
  match barDuration timeframe with
  | none => .error "Session signal clock/layout does not match the definition"
  | some frequency => do
    refuse (bars.signals.attrs "bar_layout" != some sessionBarLayout
        || bars.signals.attrs "timeframe" != some timeframe)
      "Session signal clock/layout does not match the definition"
    refuse (!([bars.signals.index, bars.execution.index, bars.closedAt].all isOrdered))
      "Unique ordered aware session clock required"
    refuse (bars.signals.index.length != bars.closedAt.length
        || (bars.closedAt.zip bars.signals.index).any (fun p => decide (p.1 ≤ p.2)))
      "Signal starts and session closes must align"
    refuse ((bars.closedAt.zip bars.signals.index).any
        (fun p => decide (frequency.duration < p.1 - p.2)))
      "Session signal duration exceeds its timeframe"
    refuse ((bars.closedAt.dropLast.zip bars.signals.index.tail).any
        (fun p => decide (p.2 < p.1)))
      "Overlapping session signal intervals"
    refuse (bars.execution.rows.isEmpty
        || bars.execution.attrs "bar_layout" != some sessionBarLayout
        || bars.execution.attrs "timeframe" != some "1m")
      "Observed session execution clock required"
    refuse (["feed", "adjustment"].any
        (fun field => bars.execution.attrs field != bars.signals.attrs field))
      "Inconsistent session data contracts"
    let stop := bars.execution.index.getLastD 0 + executionBarDuration
    refuse (bars.execution.index != sessionExecutionMinutes bars.schedule stop)
      "Incomplete or out-of-session execution clock"
    let windows := (windowsOf bars.schedule.sessions frequency).filter
      (fun w => decide (w.closedAt ≤ stop))
    refuse (windows.map SignalBarWindow.openedAt != bars.signals.index
        || windows.map SignalBarWindow.closedAt != bars.closedAt)
      "Signal intervals disagree with the observed session calendar"

/-! ## The construction -/

namespace OhlcvRow

/-- `np.isfinite(values).all()`, of one row. -/
def isFinite (o : OhlcvRow (Extended V)) : Bool :=
  o.openPrice.isFinite && o.high.isFinite && o.low.isFinite && o.close.isFinite
    && o.volume.isFinite

/-- The numbers of a row. -/
def numbers [Zero V] (o : OhlcvRow (Extended V)) : OhlcvRow V where
  time := o.time
  openPrice := o.openPrice.getD 0
  high := o.high.getD 0
  low := o.low.getD 0
  close := o.close.getD 0
  volume := o.volume.getD 0

variable [LinearOrder V]

/-- A price that is not positive, or a negative volume. -/
def outOfRange [Zero V] (o : OhlcvRow V) : Bool :=
  decide (o.openPrice ≤ 0) || decide (o.high ≤ 0) || decide (o.low ≤ 0) || decide (o.close ≤ 0)
    || decide (o.volume < 0)

/-- A high below another price of the row, or a low above one. -/
def inconsistent (o : OhlcvRow V) : Bool :=
  decide (o.high < max o.openPrice (max o.low o.close))
    || decide (min o.openPrice (min o.high o.close) < o.low)

/-- The bar of a window: the open of the first minute, the extremes, the close of the last, and
the sum of the volumes. The first of no minutes raises. -/
def aggregate [AddCommMonoid V] (begin : Time) : List (OhlcvRow V) →
    Except String (OhlcvRow V)
  | [] => .error "IndexError: single positional indexer is out-of-bounds"
  | first :: rest => .ok
    { time := begin
      openPrice := first.openPrice
      high := rest.foldl (fun best o => max best o.high) first.high
      low := rest.foldl (fun best o => min best o.low) first.low
      close := (rest.getLastD first).close
      volume := ((first :: rest).map OhlcvRow.volume).sum }

end OhlcvRow

/-- `attrs.update(minutes.attrs, timeframe=…, bar_layout=SESSION_BAR_LAYOUT)`. -/
def sessionAttrs (attrs : String → Option String) (timeframe : String) : String → Option String :=
  fun field =>
    if field = "bar_layout" then some sessionBarLayout
    else if field = "timeframe" then some timeframe
    else attrs field

/-- The windows the construction fills: of each session up to the first that is not over. -/
def closedWindows (schedule : SessionSchedule clock) (frequency : Timeframe) (asOf : Time) :
    List SignalBarWindow :=
  schedule.sessions.flatMap (fun s =>
    (sessionBarWindows s frequency).takeWhile (fun w => decide (w.closedAt ≤ asOf)))

section

variable [LinearOrder V] [AddCommMonoid V]

/-- The bar of a window over the execution minutes. -/
def signalBar (execution : List (OhlcvRow V)) (w : SignalBarWindow) :
    Except String (OhlcvRow V) :=
  OhlcvRow.aggregate w.openedAt
    (Ascending.slice OhlcvRow.time execution w.openedAt w.closedAt)

/-- **`build_session_bars`.** -/
def buildSessionBars (minutes : MinuteFrame V) (schedule : SessionSchedule clock)
    (timeframe : String) (asOf : Time) : Except String (SessionBars V clock) :=
  match barDuration timeframe with
  | none => .error "Supported signal timeframe required"
  | some frequency => do
    refuse (minutes.attrs "timeframe" != some "1m" || minutes.attrs "adjustment" != some "raw")
      "Explicit raw one-minute observations required"
    refuse (!minutes.aware || minutes.rows.any (fun row => row.time.isNone))
      "Timezone-aware minute observations required"
    let frame := minutes.observations.filter
      (fun o => decide (o.time + executionBarDuration ≤ asOf))
    let index := frame.map OhlcvRow.time
    refuse (!isOrdered index) "Unique ordered minute observations required"
    refuse (!ohlcv.all (minutes.columns.map String.toLower).contains) "OHLCV observations required"
    let expected := sessionExecutionMinutes schedule asOf
    refuse expected.isEmpty "No completed execution session minutes"
    let present := index.filter expected.contains
    let missing := expected.filter (fun t => !index.contains t)
    let coverage : BarCoverage :=
      { expectedMinutes := expected.length
        observedMinutes := present.length
        missingMinutes := missing.length
        missingExamples := missing.take 10
        excludedMinutes := frame.length - present.length }
    refuse (!missing.isEmpty) ("Unknown execution prices: " ++ toString missing.length
      ++ " missing regular-session minutes")
    let execution := expected.filterMap (fun t => frame.find? (fun o => o.time == t))
    refuse (!execution.all OhlcvRow.isFinite
        || (execution.map OhlcvRow.numbers).any OhlcvRow.outOfRange)
      "Finite positive OHLC and nonnegative volume required"
    refuse ((execution.map OhlcvRow.numbers).any OhlcvRow.inconsistent)
      "Consistent execution OHLC required"
    let windows := closedWindows schedule frequency asOf
    let signals ← windows.mapM (signalBar (execution.map OhlcvRow.numbers))
    return {
      execution := ⟨sessionAttrs minutes.attrs "1m", execution.map OhlcvRow.numbers⟩
      signals := ⟨sessionAttrs minutes.attrs timeframe, signals⟩
      closedAt := windows.map SignalBarWindow.closedAt
      coverage := coverage
      schedule := schedule }

end

end AgenticTrader
