import AgenticTrader.Storage.Lifetimes
import AgenticTrader.Library.LocalTime
import Mathlib.Data.List.Sort

/-!
# Lifetime policies

A lifetime policy says how long an entry may rest and how long a position may be
held (`execution/lifetime_policy.py`). Three of them exist: elapsed seconds for
either, a count of trading sessions for the holding, and for a native card the
close of the session its order was submitted in.

A deadline that a policy does not have is `none`, and a calendar that cannot
establish one is an error: the token of the `SessionEvidenceError`. The zone is
New York's. Where the source compares two New York times it compares their wall
clocks, as both carry the same zone.
-/

namespace AgenticTrader

/-! ## The market calendar -/

/-- What a policy reads of a `MarketCalendarDay`. -/
structure MarketCalendarDay where
  date : ℤ
  isTradingDay : Bool
  openTime : Option TimeOfDay
  closeTime : Option TimeOfDay
  deriving DecidableEq

/-- A trading day with both of its hours. -/
structure RegularSession where
  date : ℤ
  openTime : TimeOfDay
  closeTime : TimeOfDay
  deriving DecidableEq

/-- The regular session of a calendar day, if it is a trading day that has both
hours. -/
def MarketCalendarDay.regular? (day : MarketCalendarDay) : Option RegularSession :=
  match day.isTradingDay, day.openTime, day.closeTime with
  | true, some openTime, some closeTime => some ⟨day.date, openTime, closeTime⟩
  | _, _, _ => none

/-- The regular sessions of a calendar, in the order of their dates. -/
def regularSessions (sessions : List MarketCalendarDay) : List RegularSession :=
  (sessions.filterMap MarketCalendarDay.regular?).insertionSort (fun a b => a.date ≤ b.date)

/-! ## Construction -/

/-- `MAX_TRADE_LIFETIME_SECONDS`. -/
def maxTradeLifetimeSeconds : ℕ := 2678400

/-- `MAX_HOLDING_SESSIONS`. -/
def maxHoldingSessions : ℕ := 60

/-- `SESSION_CLOSE_BUFFER`. -/
def sessionCloseBuffer : ℤ := 15 * Zone.minute

/-- `SESSION_FILL_GRACE`. -/
def sessionFillGrace : ℤ := 60 * Zone.second

/-- `int(text)`, or `none` where it raises: single underscores may stand between
digits. -/
def int? (text : List Char) : Option ℤ :=
  let (negative, digits) := WireDecimal.splitSign (WireDecimal.strip text)
  if (digits.splitOn '_').all (fun group => group ≠ [] && group.all Char.isDigit) then
    let value : ℤ := WireDecimal.digitsValue (digits.filter (· ≠ '_'))
    some (if negative then -value else value)
  else none

/-- **`_clock`**: the time of day of an `HH:MM`. -/
def clock (value : String) : Option TimeOfDay :=
  match (value.toList.splitOn ':').map int? with
  | [some hours, some minutes] =>
    if h : (0 ≤ hours ∧ hours ≤ 23) ∧ 0 ≤ minutes ∧ minutes ≤ 59 then
      some ⟨hours * Zone.hour + minutes * Zone.minute, by unfold Zone.hour Zone.minute; omega,
        by unfold Zone.hour Zone.minute Zone.day; omega⟩
    else none
  | _ => none

namespace LifetimePolicy

/-- A number of seconds a lifetime can have. -/
def boundedSeconds (seconds : ℕ) : Bool := 1 ≤ seconds ∧ seconds ≤ maxTradeLifetimeSeconds

/-- **`__post_init__`** of the three policies: the message with which a value
refuses to be built. -/
def refusal? : LifetimePolicy → Option String
  | .trade resting holding independent =>
    if !independent && (resting.isNone || holding.isNone) then
      some "elapsed_utc_v1 requires both entry and holding lifetimes"
    else if independent && resting.isNone && holding.isNone then
      some "At least one independent trade lifetime is required"
    else if resting.all boundedSeconds && holding.all boundedSeconds then none
    else some "Trade lifetimes require bounded positive integer seconds"
  | .session resting holding closeTimeEt =>
    if !boundedSeconds resting then
      some "Trade lifetimes require bounded positive integer seconds"
    else if ¬(1 ≤ holding ∧ holding ≤ maxHoldingSessions) then
      some "Holding sessions must be an integer in 1..60"
    else if (clock closeTimeEt).isNone then some "close_time_et requires HH:MM"
    else none
  | .native resting closeBuffer =>
    if !boundedSeconds resting then
      some "Trade lifetimes require bounded positive integer seconds"
    else if ¬closeBuffer ≤ 3600 then some "The close buffer is an integer in 0..3600 seconds"
    else none

/-- The construction of a policy. -/
def build (policy : LifetimePolicy) : Except String LifetimePolicy :=
  match policy.refusal? with
  | some message => .error message
  | none => .ok policy

/-! ## Deadlines -/

/-- **`entry_deadline`** of the three policies. Only a native policy reads the
calendar, and without one keeps to its elapsed bound. -/
def entryDeadline (zone : Zone) (policy : LifetimePolicy) (submittedAt : Time)
    (sessions : Option (List MarketCalendarDay)) : Except String (Option Time) :=
  match policy with
  | .trade resting _ _ => .ok (resting.map (fun seconds => submittedAt + seconds * Zone.second))
  | .session resting _ _ => .ok (some (submittedAt + resting * Zone.second))
  | .native resting closeBuffer =>
    let outer := submittedAt + resting * Zone.second
    match sessions with
    | none => .ok (some outer)
    | some sessions =>
      let day := sessions.find? (fun d => d.date = zone.date submittedAt ∧ d.isTradingDay)
      match day.bind (fun d => d.closeTime.map (Zone.combine d.date ·.micros)) with
      | none => .error "submission_outside_regular_session"
      | some close =>
        let close := close + closeBuffer * Zone.second
        if close < zone.toLocal submittedAt then .error "submission_outside_regular_session"
        else .ok (some (min outer (zone.ofLocal close)))

/-- **`SessionLifetimePolicy.holding_deadline`**: the fill's own session counts
as the first. -/
def sessionDeadline (zone : Zone) (holdingSessions : ℕ) (closeTimeEt : TimeOfDay) (filledAt : Time)
    (sessions : List MarketCalendarDay) : Except String Time :=
  let fill := zone.toLocal filledAt
  let regular := regularSessions sessions
  match regular.find? (fun d => d.date = zone.date filledAt) with
  | none => .error "fill_outside_regular_session"
  | some first =>
    let opened := Zone.combine first.date first.openTime.micros
    let closed := Zone.combine first.date first.closeTime.micros
    if opened ≤ fill ∧ fill ≤ closed + sessionFillGrace then
      let held := regular.filter (fun d => first.date ≤ d.date)
      match held[holdingSessions - 1]? with
      | none => .error "session_calendar_short"
      | some last =>
        let target := Zone.combine last.date closeTimeEt.micros
        let close := Zone.combine last.date last.closeTime.micros
        .ok (zone.ofLocal (min target (close - sessionCloseBuffer)))
    else .error "fill_outside_regular_session"

/-- **`holding_deadline`** of the three policies; the session count needs a
calendar. `none` is the exception of a clock that does not parse, which no
policy that could be built has. -/
def holdingDeadline (zone : Zone) (policy : LifetimePolicy) (filledAt : Time)
    (sessions : Option (List MarketCalendarDay)) : Option (Except String (Option Time)) :=
  match policy with
  | .trade _ holding _ =>
    some (.ok (holding.map (fun seconds => filledAt + seconds * Zone.second)))
  | .session _ holding closeTimeEt =>
    match sessions with
    | none => some (.error "session_calendar_unavailable")
    | some sessions =>
      (clock closeTimeEt).map (fun time =>
        (sessionDeadline zone holding time filledAt sessions).map some)
  | .native _ _ => some (.ok none)

end LifetimePolicy

end AgenticTrader
