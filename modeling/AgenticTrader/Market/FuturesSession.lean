import AgenticTrader.Durable
import AgenticTrader.Library.Gregorian
import AgenticTrader.Library.LocalTime

/-!
# The sessions of the CME futures

`CMEFuturesSessionProvider.get_session_info` (`market/session.py`) with the deterministic
calendar: whether the futures trade at an instant, in which kind of session, and when they
open or close next. The holidays of a year come from `MarketHolidayCalendar`; the answer is the
first that applies of eight rules about the New York date and time of day.

Dates are counted from 1970-01-01 in the calendar extended to all years, instants and wall
clocks in microseconds.
-/

namespace AgenticTrader

open Gregorian

/-! ## Times of day -/

/-- `time(hour, minute)`. -/
def timeOfDay (hour minute : ℤ) : ℤ := hour * Zone.hour + minute * Zone.minute

/-- `EQUITY_RTH_OPEN`. -/
def equityRthOpen : ℤ := timeOfDay 9 30

/-- `EQUITY_RTH_CLOSE`. -/
def equityRthClose : ℤ := timeOfDay 16 0

/-- `CME_HALT_START`. -/
def cmeHaltStart : ℤ := timeOfDay 17 0

/-- `CME_HALT_END`. -/
def cmeHaltEnd : ℤ := timeOfDay 18 0

/-! ## The holidays of a year -/

namespace MarketHolidayCalendar

/-- `_compute_easter`: Easter Sunday, by the anonymous Gregorian algorithm. -/
def computeEaster (year : ℤ) : ℤ :=
  let a := year % 19
  let b := year / 100
  let c := year % 100
  let d := b / 4
  let e := b % 4
  let f := (b + 8) / 25
  let g := (b - f + 1) / 3
  let h := (19 * a + b - d - g + 15) % 30
  let i := c / 4
  let k := c % 4
  let l := (32 + 2 * e + 2 * i - h - k) % 7
  let m := (a + 11 * h + 22 * l) / 451
  let month := (h + l - 7 * m + 114) / 31
  let day := ((h + l - 7 * m + 114) % 31) + 1
  ofYmd year month day

/-- A step of so many days, until the weekday is right; seven are enough. -/
def seekWeekday (day step : ℤ) : ℕ → ℤ → ℤ
  | 0, d => d
  | fuel + 1, d => if weekday d ≠ day then seekWeekday day step fuel (d + step) else d

/-- `_nth_weekday`. -/
def nthWeekday (year month day n : ℤ) : ℤ :=
  seekWeekday day 1 7 (ofYmd year month 1) + 7 * (n - 1)

/-- `_last_weekday`. -/
def lastWeekday (year month day : ℤ) : ℤ :=
  seekWeekday day (-1) 7
    ((if month = 12 then ofYmd (year + 1) 1 1 else ofYmd year (month + 1) 1) - 1)

/-- `_observe_holiday`. -/
def observeHoliday (d : ℤ) : ℤ :=
  if weekday d = 5 then d - 1 else if weekday d = 6 then d + 1 else d

/-- **What is read of a year's calendar.** The names are by date; of two under one date the
later one counts. -/
structure YearCalendar where
  statutoryHolidays : List (ℤ × String)
  earlyCloses : List (ℤ × String)
  cmeFullHaltDays : List ℤ
  goodFriday : ℤ

/-- `JUNETEENTH_FIRST_YEAR`. -/
def juneteenthFirstYear : ℤ := 2022

/-- **`get_year_calendar`.** -/
def getYearCalendar (year : ℤ) : YearCalendar :=
  let goodFriday := computeEaster year - 2
  let thanksgiving := nthWeekday year 11 3 4
  let christmasEve := ofYmd year 12 24
  { statutoryHolidays :=
      [(observeHoliday (ofYmd year 1 1), "New Year's Day"),
        (nthWeekday year 1 0 3, "Martin Luther King Jr. Day"),
        (nthWeekday year 2 0 3, "Presidents' Day"),
        (goodFriday, "Good Friday"),
        (lastWeekday year 5 0, "Memorial Day"),
        (observeHoliday (ofYmd year 7 4), "Independence Day"),
        (nthWeekday year 9 0 1, "Labor Day"),
        (nthWeekday year 11 3 4, "Thanksgiving Day"),
        (observeHoliday (ofYmd year 12 25), "Christmas Day")]
      ++ (if juneteenthFirstYear ≤ year then
        [(observeHoliday (ofYmd year 6 19), "Juneteenth National Independence Day")] else [])
    earlyCloses :=
      [(thanksgiving + 1, "Day After Thanksgiving (Black Friday)")]
      ++ (if weekday christmasEve < 5 then [(christmasEve, "Christmas Eve")] else [])
      ++ (if weekday (ofYmd year 7 4) ∈ [3, 4] then
        [(ofYmd year 7 3, "Day Before Independence Day")] else [])
    cmeFullHaltDays :=
      [ofYmd year 1 1, observeHoliday (ofYmd year 1 1), ofYmd year 12 25,
        observeHoliday (ofYmd year 12 25)]
    goodFriday := goodFriday }

/-- The calendar of the year of a date. -/
def calendarOf (d : ℤ) : YearCalendar := getYearCalendar (yearOf d)

/-- `is_equity_holiday`, with the name alone. -/
def equityHoliday (d : ℤ) : Option String := (calendarOf d).statutoryHolidays.reverse.lookup d

/-- `is_equity_early_close`, with the name alone. -/
def equityEarlyClose (d : ℤ) : Option String := (calendarOf d).earlyCloses.reverse.lookup d

end MarketHolidayCalendar

open MarketHolidayCalendar

/-- **A `MarketCalendarDay`** with everything that the calendar fills in. -/
structure CalendarDay where
  date : ℤ
  isTradingDay : Bool
  isEarlyClose : Bool
  openTime : Option ℤ
  closeTime : Option ℤ
  holidayName : Option String
  source : String

/-- **`DeterministicCalendarProvider.get_trading_day`.** -/
def getTradingDay (targetDate : ℤ) : CalendarDay :=
  if weekday targetDate ∈ [5, 6] then
    ⟨targetDate, false, false, none, none, some "Weekend", "deterministic"⟩
  else if (equityHoliday targetDate).isSome then
    ⟨targetDate, false, false, none, none, equityHoliday targetDate, "deterministic"⟩
  else if (equityEarlyClose targetDate).isSome then
    ⟨targetDate, true, true, some equityRthOpen, some (timeOfDay 13 0),
      equityEarlyClose targetDate, "deterministic"⟩
  else
    ⟨targetDate, true, false, some equityRthOpen, some equityRthClose, none, "deterministic"⟩

/-! ## The schedule -/

inductive MarketSessionType where
  | rth
  | eth
  | closed
  | dailyHalt
  | weekendHalt
  | holidayHalt
  deriving DecidableEq, Repr

/-- **`MarketSessionInfo`**, with its times as wall clocks. -/
structure MarketSessionInfo where
  symbol : String
  assetClass : AssetClass
  isOpen : Bool
  isRth : Bool
  sessionType : MarketSessionType
  currentTime : ℤ
  nextOpen : Option ℤ := none
  nextClose : Option ℤ := none
  source : String
  details : String

/-- `trading_day.holiday_name or names.get(d, default)`. -/
def holidayNameOr (tradingDay : CalendarDay) (name : Option String) (default : String) :
    String :=
  match tradingDay.holidayName with
  | some holiday => if holiday = "" then name.getD default else holiday
  | none => name.getD default

/-- **`CMEFuturesSessionProvider.get_session_info`** at a New York date and time of day. -/
def cmeSession (symbol : String) (d t : ℤ) : MarketSessionInfo :=
  let cal := calendarOf d
  let tradingDay := getTradingDay d
  let etTime := Zone.combine d t
  let info (isOpen isRth : Bool) (sessionType : MarketSessionType) (nextOpen nextClose : Option ℤ)
      (source details : String) : MarketSessionInfo :=
    ⟨symbol, .futures, isOpen, isRth, sessionType, etTime, nextOpen, nextClose, source, details⟩
  let holidaySource := s!"cme_holiday_schedule({tradingDay.source})"
  -- 1. full holidays, until 18:00
  if d ∈ cal.cmeFullHaltDays ∧ t < cmeHaltEnd then
    let holidayName := holidayNameOr tradingDay (equityHoliday d) "Market Holiday"
    info false false .holidayHalt (some (Zone.combine d cmeHaltEnd)) none holidaySource
      s!"CME {holidayName} full day closure (re-opens at 18:00 ET)"
  -- 2. Good Friday, from 9:15 to Sunday
  else if d = cal.goodFriday ∧ timeOfDay 9 15 ≤ t then
    let nextSunday := d + (6 - weekday d) % 7
    info false false .holidayHalt (some (Zone.combine nextSunday cmeHaltEnd)) none holidaySource
      "CME Good Friday early halt (halts at 09:15 ET until Sunday 18:00 ET)"
  -- 3. early closes, at 13:15
  else if (tradingDay.isEarlyClose || (equityEarlyClose d).isSome) ∧ timeOfDay 13 15 ≤ t then
    let closeName := holidayNameOr tradingDay (equityEarlyClose d) "Early Close"
    let daysAhead := if 4 ≤ weekday d then (6 - weekday d) % 7 else 1
    info false false .holidayHalt (some (Zone.combine (d + daysAhead) cmeHaltEnd)) none
      holidaySource s!"CME {closeName} early close (closed after 13:15 ET)"
  else if (tradingDay.isEarlyClose || (equityEarlyClose d).isSome) ∧ equityRthOpen ≤ t
      ∧ t < timeOfDay 13 15 then
    let closeName := holidayNameOr tradingDay (equityEarlyClose d) "Early Close"
    info true true .rth none (some (Zone.combine d (timeOfDay 13 15))) holidaySource
      s!"CME {closeName} Regular Trading Hours (early close at 13:15 ET)"
  -- 4. the other holidays, from 13:00 to 18:00
  else if (!tradingDay.isTradingDay && weekday d < 5) ∧ timeOfDay 13 0 ≤ t ∧ t < cmeHaltEnd then
    let holidayName := holidayNameOr tradingDay (equityHoliday d) "Market Holiday"
    info false false .holidayHalt (some (Zone.combine d cmeHaltEnd)) none holidaySource
      s!"CME {holidayName} holiday halt (13:00 - 18:00 ET)"
  else if (!tradingDay.isTradingDay && weekday d < 5) ∧ t < timeOfDay 13 0 then
    let holidayName := holidayNameOr tradingDay (equityHoliday d) "Market Holiday"
    info true false .eth none (some (Zone.combine d (timeOfDay 13 0))) holidaySource
      s!"CME {holidayName} morning session (ETH, halts at 13:00 ET)"
  -- 5. weekends, from Friday 17:00 to Sunday 18:00
  else if weekday d = 4 ∧ cmeHaltStart ≤ t ∨ weekday d = 5 ∨ weekday d = 6 ∧ t < cmeHaltEnd then
    let nextSunday := d + (6 - weekday d) % 7
    info false false .weekendHalt (some (Zone.combine nextSunday cmeHaltEnd)) none "cme_schedule"
      "CME weekend closure (Fri 17:00 - Sun 18:00 ET)"
  -- 6. the halt of the day
  else if weekday d ∈ [0, 1, 2, 3] ∧ cmeHaltStart ≤ t ∧ t < cmeHaltEnd then
    info false false .dailyHalt (some (Zone.combine d cmeHaltEnd)) none "cme_schedule"
      "CME daily settlement maintenance halt (17:00 - 18:00 ET)"
  -- 7. regular hours
  else if weekday d ∈ [0, 1, 2, 3, 4] ∧ equityRthOpen ≤ t ∧ t < equityRthClose then
    info true true .rth none (some (Zone.combine d equityRthClose)) "cme_schedule"
      "CME Regular Trading Hours (Cash Equity Session)"
  -- 8. overnight
  else
    info true false .eth (if t < equityRthOpen then some (Zone.combine d equityRthOpen) else none)
      (if equityRthClose ≤ t then some (Zone.combine d cmeHaltStart) else none) "cme_schedule"
      "CME Extended Trading Hours (Overnight Globex Session)"

/-- The session at an instant. -/
def getSessionInfo (zone : Zone) (symbol : String) (timestamp : ℤ) : MarketSessionInfo :=
  cmeSession symbol (zone.date timestamp) (zone.toLocal timestamp % Zone.day)

end AgenticTrader
