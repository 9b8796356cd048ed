import AgenticTrader.Agent.Evaluator
import AgenticTrader.Library.Checks
import AgenticTrader.Library.LocalTime
import Mathlib.Data.List.Infix
import Mathlib.Data.List.Sort

/-!
# The macro calendar

The desk reads two sources of tier-1 releases (`agent/calendar.py`). The static calendar is a
pinned file with a range of dates; within it the calendar is verified. The live feed is a
download, parsed item by item, with everything that goes wrong turned into a failed read.
`UnionTier1Calendar.check` joins them: a live release that is one of the static ones, of the
same kind within five minutes, is left out, and the first event whose window contains the
present is the lockout. `macro_lockout` refuses entries in it.

The reading of texts is a parameter, and so is the clock of New York. Dates run from the year 1 to
the year 9999, and a time that is converted or computed beyond them raises an `OverflowError`: in
the feed's items, which fails the read, and in the check itself – the present in New York, the
bounds of a window, the next 24 hours, and a static event in New York – which fails the check.
-/

namespace AgenticTrader

open Checks

/-! ## Tier-1 releases -/

inductive Tier1Kind where
  | fomcStatement
  | fomcPressConference
  | cpi
  | ppi
  | employmentSituation
  deriving DecidableEq, Repr

/-- `TIER1_KEYWORDS`, in their order. -/
def tier1Keywords : List (String × Tier1Kind) :=
  [("fomc press conference", .fomcPressConference),
    ("fomc statement", .fomcStatement),
    ("fomc economic projections", .fomcStatement),
    ("fed interest rate decision", .fomcStatement),
    ("federal funds rate", .fomcStatement),
    ("cpi", .cpi),
    ("consumer price index", .cpi),
    ("ppi", .ppi),
    ("producer price index", .ppi),
    ("non-farm payrolls", .employmentSituation),
    ("nonfarm payrolls", .employmentSituation),
    ("non-farm employment", .employmentSituation),
    ("nonfarm employment", .employmentSituation),
    ("nfp", .employmentSituation),
    ("unemployment rate", .employmentSituation)]

/-- A date and time with its offset from UTC. -/
structure AwareTime where
  reading : ℤ
  utcOffset : ℤ

/-- **What reads the feed's texts**: `datetime.fromisoformat`, with the offset where the text has
one, `str.lower` and `str.upper`; and New York's clock. -/
structure FeedReader where
  fromIso : String → Option (ℤ × Option ℤ)
  lower : String → String
  upper : String → String
  newYork : Zone

/-- `MacroEvent`. -/
structure MacroEvent where
  title : String
  country : String
  impact : String
  timestamp : Time
  forecast : Option String
  previous : Option String
  source : String
  kind : Option Tier1Kind
  deriving DecidableEq

inductive CalendarStatus where
  | ok
  | failed
  | expired
  | invalid
  deriving DecidableEq, Repr

/-- The value of the status, as it is printed. -/
def CalendarStatus.value : CalendarStatus → String
  | .ok => "ok"
  | .failed => "failed"
  | .expired => "expired"
  | .invalid => "invalid"

/-! ## The live feed -/

/-- **An item of the feed**, as it is read: its date if that is a text, and its other fields
after `str(item.get(key) or "")`. -/
structure FeedItem where
  date : Option String
  country : String
  title : String
  impact : String
  forecast : Option String
  previous : Option String

/-- `CalendarFetch`. -/
structure CalendarFetch where
  status : CalendarStatus
  events : List MacroEvent
  fetchedAt : Time
  error : Option String
  httpStatus : Option ℕ
  coverage : Option (ℤ × ℤ)
  unparsedItems : ℕ

/-- **What a download comes back with**: an error, or a list of items, of which those that are
no objects are `none`. -/
inductive FeedResponse where
  | failure (error : String) (httpStatus : Option ℕ)
  | payload (items : List (Option FeedItem))

namespace FeedReader

variable (reader : FeedReader)

/-- `tier1_kind`. -/
def tier1Kind (title country : String) : Option Tier1Kind :=
  if reader.upper country ∈ ["USD", "US"] then
    (tier1Keywords.find? (fun entry =>
      decide (entry.1.toList <:+: (reader.lower title).toList))).map Prod.snd
  else none

/-- `_feed_instant`. -/
def feedInstant (item : Option FeedItem) : Option AwareTime :=
  match item.bind FeedItem.date with
  | some date =>
    match reader.fromIso date with
    | some (reading, some utcOffset) => some ⟨reading, utcOffset⟩
    | _ => none
  | none => none

/-- The readings that are dates: from year 1 to year 9999. -/
def isDate (reading : ℤ) : Bool :=
  decide (-719162 * Zone.day ≤ reading) && decide (reading < 2932897 * Zone.day)

/-- `at.astimezone(UTC)`, as an instant. -/
def toUtc (at_ : AwareTime) : Except String Time := do
  refuse (!isDate (at_.reading - at_.utcOffset)) "OverflowError"
  pure (at_.reading - at_.utcOffset)

/-- `at.astimezone(ET_TZ).date()`. -/
def toNewYorkDate (at_ : AwareTime) : Except String ℤ := do
  let instant ← toUtc at_
  refuse (!isDate (reader.newYork.toLocal instant)) "OverflowError"
  pure (reader.newYork.date instant)

/-- What the loop of `_parse_items` carries. -/
structure ParsedItems where
  events : List MacroEvent
  dates : List ℤ
  unparsed : ℕ

/-- The event of an item: a dollar release of high impact or of tier 1. -/
def eventOf (item : FeedItem) (timestamp : Time) : Option MacroEvent :=
  let kind := reader.tier1Kind item.title item.country
  if item.country = "USD" ∧ (item.impact = "High" ∨ kind.isSome) then
    some ⟨item.title, item.country, item.impact, timestamp, item.forecast, item.previous,
      "forexfactory", kind⟩
  else none

/-- **One item.** An item without a readable instant is counted. -/
def parseItem (parsed : ParsedItems) (item : Option FeedItem) : Except String ParsedItems :=
  match item, reader.feedInstant item with
  | some fields, some at_ => do
    let date ← reader.toNewYorkDate at_
    let timestamp ← toUtc at_
    pure ⟨parsed.events ++ (reader.eventOf fields timestamp).toList, parsed.dates ++ [date],
      parsed.unparsed⟩
  | _, _ => .ok { parsed with unparsed := parsed.unparsed + 1 }

/-- **`_parse_items`.** -/
def parseItems (payload : List (Option FeedItem)) (fetchedAt : Time) :
    Except String CalendarFetch := do
  let parsed ← payload.foldlM reader.parseItem ⟨[], [], 0⟩
  pure ⟨.ok, parsed.events, fetchedAt, none, none,
    match parsed.dates with
    | [] => none
    | date :: dates => some (dates.foldl min date, dates.foldl max date),
    parsed.unparsed⟩

/-- **`ForexFactoryCalendar._download`**: whatever goes wrong is a failed read. -/
def download (now : Time) (response : FeedResponse) : CalendarFetch :=
  let failed (error : String) (httpStatus : Option ℕ) : CalendarFetch :=
    ⟨.failed, [], now, some error, httpStatus, none, 0⟩
  match response with
  | .failure error httpStatus => failed error httpStatus
  | .payload items =>
    let fetch : Except String CalendarFetch := do
      refuse items.isEmpty "UnexpectedPayload"
      let fetch ← reader.parseItems items now
      refuse fetch.coverage.isNone "UnexpectedPayload"
      pure fetch
    match fetch with
    | .ok fetch => fetch
    | .error error => failed error none

end FeedReader

/-! ## The static calendar -/

/-- `StaticCalendarState`. -/
structure StaticCalendarState where
  calendarId : String
  sha256 : Option String
  pinned : Bool
  status : CalendarStatus
  validFrom : Option ℤ
  validThrough : Option ℤ
  daysRemaining : Option ℤ
  error : Option String

/-- **`StaticTier1Calendar`.** -/
structure StaticTier1Calendar where
  calendarId : String
  sha256 : Option String
  pinned : Bool
  error : Option String
  validFrom : Option ℤ
  validThrough : Option ℤ
  events : List MacroEvent

/-- **Its state**, on New York's date. -/
def StaticTier1Calendar.state (calendar : StaticTier1Calendar) (reader : FeedReader)
    (now : Time) : Except String StaticCalendarState :=
  match calendar.error, calendar.validFrom, calendar.validThrough with
  | none, some validFrom, some validThrough => do
    let today ← reader.toNewYorkDate ⟨now, 0⟩
    let status := if validFrom ≤ today ∧ today ≤ validThrough then .ok else .expired
    pure ⟨calendar.calendarId, calendar.sha256, calendar.pinned, status, some validFrom,
      some validThrough, some (validThrough - today), none⟩
  | error, _, _ =>
    pure ⟨calendar.calendarId, calendar.sha256, calendar.pinned, .invalid, none, none, none,
      error⟩

/-! ## The check -/

/-- `MATCH_TOLERANCE`. -/
def matchTolerance : ℤ := 5 * Zone.minute

/-- `UPCOMING_WINDOW`. -/
def upcomingWindow : ℤ := 24 * Zone.hour

/-- `MAX_DISAGREEMENTS`. -/
def maxDisagreements : ℕ := 10

/-- What the arithmetic of dates comes to, or its `OverflowError`. -/
def dateOf (reading : ℤ) : Except String Time := do
  refuse (!FeedReader.isDate reading) "OverflowError"
  pure reading

/-- **`in_lockout_window`.** The end of the window is computed when the present is not before its
beginning. -/
def inLockoutWindow (now eventAt : Time) (preMinutes postMinutes : ℤ) : Except String Bool := do
  let opens ← dateOf (eventAt - preMinutes * Zone.minute)
  if opens ≤ now then
    let closes ← dateOf (eventAt + postMinutes * Zone.minute)
    pure (decide (now ≤ closes))
  else pure false

/-- `_same_release`. -/
def sameRelease (staticEvent liveEvent : MacroEvent) : Bool :=
  decide (staticEvent.kind = liveEvent.kind)
    && decide (|staticEvent.timestamp - liveEvent.timestamp| ≤ matchTolerance)

inductive UnknownPolicy where
  | open
  | closed
  deriving DecidableEq, Repr

/-- `CalendarLockout`. -/
structure CalendarLockout where
  title : String
  at_ : Time
  kind : Option Tier1Kind
  sources : List String

/-- `CalendarDisagreement`. -/
structure CalendarDisagreement where
  side : String
  kind : Tier1Kind
  at_ : Time
  title : String

/-- `CalendarCheck`. -/
structure CalendarCheck where
  now : Time
  preMinutes : ℤ
  postMinutes : ℤ
  unknownPolicy : UnknownPolicy
  static : StaticCalendarState
  live : CalendarFetch
  lockout : Option CalendarLockout
  upcoming : List MacroEvent
  disagreements : List CalendarDisagreement

/-- **`UnionTier1Calendar`**, with what it reads the feed by. -/
structure UnionTier1Calendar where
  reader : FeedReader
  static : StaticTier1Calendar
  unknownPolicy : UnknownPolicy

namespace UnionTier1Calendar

variable (union : UnionTier1Calendar) (state : StaticCalendarState) (live : CalendarFetch)

/-- The static events, of a verified calendar. -/
def staticEvents : List MacroEvent := if state.status = .ok then union.static.events else []

/-- The live tier-1 events in their order, of a read that is ok. -/
def liveTier1 : List MacroEvent :=
  if live.status = .ok then
    (live.events.filter (fun e => e.kind.isSome)).mergeSort
      (fun a b => decide (a.timestamp ≤ b.timestamp))
  else []

/-- The live events that are none of the static ones. -/
def liveOnly : List MacroEvent :=
  (liveTier1 live).filter (fun lv => !(union.staticEvents state).any (fun s => sameRelease s lv))

/-- Whether the live feed has a static event. -/
def isMatched (s : MacroEvent) : Bool := (liveTier1 live).any (fun lv => sameRelease s lv)

/-- The events with their sources, static first. -/
def candidates : List (MacroEvent × List String) :=
  (union.staticEvents state).map
      (fun s => (s, if isMatched live s then ["static", "live"] else ["static"]))
    ++ (union.liveOnly state live).map (fun lv => (lv, ["live"]))

/-- A static event that the feed lacks within its coverage. -/
def staticOnly (coverage : ℤ × ℤ) (s : MacroEvent) :
    Except String (Option CalendarDisagreement) :=
  match s.kind with
  | some kind =>
    if isMatched live s then .ok none
    else do
      let date ← union.reader.toNewYorkDate ⟨s.timestamp, 0⟩
      pure (if coverage.1 ≤ date ∧ date ≤ coverage.2 then
        some ⟨"static_only", kind, s.timestamp, s.title⟩ else none)
  | none => .ok none

/-- The releases that only one source has, where both are ok. -/
def disagreements : Except String (List CalendarDisagreement) :=
  match live.coverage with
  | some coverage =>
    if state.status = .ok ∧ live.status = .ok then do
      let staticOnly ← (union.staticEvents state).mapM (union.staticOnly live coverage)
      let liveOnly : List CalendarDisagreement := (union.liveOnly state live).filterMap fun lv =>
        lv.kind.map (fun kind => ⟨"live_only", kind, lv.timestamp, lv.title⟩)
      pure (((staticOnly.reduceOption ++ liveOnly).mergeSort
        (fun a b => decide (a.at_ ≤ b.at_))).take maxDisagreements)
    else .ok []
  | none => .ok []

/-- **`UnionTier1Calendar.check`**, on a read of the live feed. -/
def check (now : Time) (preMinutes postMinutes : ℤ) : Except String CalendarCheck := do
  let state ← union.static.state union.reader now
  let candidates := union.candidates state live
  let lockout ← candidates.findM? (fun c =>
    inLockoutWindow now c.1.timestamp preMinutes postMinutes)
  let horizon ← dateOf (now + upcomingWindow)
  let upcoming := ((candidates.map Prod.fst).filter (fun e =>
      decide (now ≤ e.timestamp) && decide (e.timestamp ≤ horizon))).mergeSort
    (fun a b => decide (a.timestamp ≤ b.timestamp))
  let disagreements ← union.disagreements state live
  pure ⟨now, preMinutes, postMinutes, union.unknownPolicy, state, live,
    lockout.map (fun c => ⟨c.1.title, c.1.timestamp, c.1.kind, c.2⟩), upcoming, disagreements⟩

end UnionTier1Calendar

/-! ## The rule -/

/-- What the rule reads of the limits. -/
structure MacroLimits where
  lockoutPreMinutes : ℤ
  lockoutPostMinutes : ℤ
  macroCalendarUnknown : UnknownPolicy

/-- Two digits. -/
def twoDigits (n : ℤ) : String := if n < 10 then s!"0{n}" else toString n

/-- `%H:%M`, in UTC. -/
def utcClock (t : Time) : String :=
  twoDigits (t / Zone.hour % 24) ++ ":" ++ twoDigits (t / Zone.minute % 60)

/-- **`macro_lockout`.** -/
def macroLockout (eventTitle : Option String) (eventAt : Option Time) (now : Time)
    (limits : MacroLimits) (calendarVerified : Bool) (staticStatus : CalendarStatus) :
    Except String (Option ScanRejection) :=
  if !calendarVerified ∧ limits.macroCalendarUnknown = .closed then
    .ok (some ⟨"macro_lockout", "Macro calendar unverified: the static tier-1 calendar is "
      ++ staticStatus.value ++ "; new entries refused (risk.macro_calendar_unknown: closed)."⟩)
  else
    match eventAt with
    | some eventAt => do
      let inside ← inLockoutWindow now eventAt limits.lockoutPreMinutes limits.lockoutPostMinutes
      if inside then
        let title := match eventTitle with
          | some title => if title = "" then "scheduled release" else title
          | none => "scheduled release"
        pure (some ⟨"macro_lockout", s!"Macro event lockout: {title} at {utcClock eventAt} UTC."⟩)
      else pure none
    | none => .ok none

/-- `CalendarCheck.verified`. -/
def CalendarCheck.verified (check : CalendarCheck) : Bool := decide (check.static.status = .ok)

/-- **`CalendarCheck.lockout_rejection`.** -/
def CalendarCheck.lockoutRejection (check : CalendarCheck) (limits : MacroLimits) :
    Except String (Option ScanRejection) :=
  macroLockout (check.lockout.map CalendarLockout.title) (check.lockout.map CalendarLockout.at_)
    check.now limits check.verified check.static.status

end AgenticTrader
