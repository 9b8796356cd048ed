import AgenticTrader.Execution.LifetimePolicy
import Mathlib.Order.Monotone.Basic
import Mathlib.Order.Nat

/-!
# The release exit

Once a trading day, shortly before the close, one pass asks of every tracked
equity position whether its symbol reports earnings before the next session's
open (`execution/release_exit.py`). A report on the day itself counts unless it
came before the open, one on the next trading day unless it comes after the
close, and one on a day between them always.

The windows of two passes in a row meet on a trading day, and `exits_today`
decides by the timing which of the two a report there belongs to. So over any
sequence of trading days each report is seen by some pass, no later than its own
session, and by only one pass where its timing or its date says which
(`release_exits_cover`).
-/

namespace AgenticTrader

inductive EarningsTiming where
  | preMarket
  | afterHours
  | unspecified
  deriving DecidableEq, Repr

/-! ## One report and one pass -/

/-- **`exits_today`.** -/
def exitsToday (reportDate : ℤ) (timing : EarningsTiming) (today nextDay : ℤ) : Bool :=
  if reportDate = today then timing ≠ .preMarket
  else if today < reportDate ∧ reportDate < nextDay then true
  else if reportDate = nextDay then timing ≠ .afterHours
  else false

theorem exitsToday_iff {reportDate today nextDay : ℤ} {timing : EarningsTiming}
    (hnext : today < nextDay) :
    exitsToday reportDate timing today nextDay = true
      ↔ (reportDate = today ∧ timing ≠ .preMarket) ∨ (today < reportDate ∧ reportDate < nextDay)
        ∨ (reportDate = nextDay ∧ timing ≠ .afterHours) := by
  unfold exitsToday
  split_ifs with htoday hbetween hlast
  · simp only [htoday, true_and, lt_self_iff_false, false_and, hnext.ne, or_false,
      decide_eq_true_eq]
  · simp [htoday, hbetween]
  · simp [hlast, hnext.ne']
  · simp [htoday, hbetween, hlast]

/-- A pass sees the reports of its window. -/
theorem exitsToday_window {reportDate today nextDay : ℤ} {timing : EarningsTiming}
    (hnext : today < nextDay) (h : exitsToday reportDate timing today nextDay = true) :
    today ≤ reportDate ∧ reportDate ≤ nextDay := by
  rcases (exitsToday_iff hnext).mp h with ⟨rfl, -⟩ | ⟨hlow, hhigh⟩ | ⟨rfl, -⟩
  · exact ⟨le_rfl, hnext.le⟩
  · exact ⟨hlow.le, hhigh.le⟩
  · exact ⟨hnext.le, le_rfl⟩

/-! ## A sequence of passes -/

section Passes

variable {days : ℕ → ℤ} {reportDate : ℤ} {timing : EarningsTiming}

/-- A date from the first trading day on is a trading day, or lies between two in
a row. -/
theorem trading_or_between (hfirst : days 0 ≤ reportDate) (hreached : ∃ k, reportDate ≤ days k) :
    (∃ m, reportDate = days m) ∨ ∃ i, days i < reportDate ∧ reportDate < days (i + 1) := by
  let k := Nat.find hreached
  have hk : reportDate ≤ days k := Nat.find_spec hreached
  rcases hk.eq_or_lt with heq | hlt
  · exact .inl ⟨k, heq⟩
  · cases hcase : k with
    | zero =>
      rw [hcase] at hlt
      exact absurd hlt (not_lt.mpr hfirst)
    | succ i =>
      have hmin : ¬reportDate ≤ days i := by
        refine Nat.find_min hreached ?_
        show i < k
        omega
      rw [hcase] at hlt
      exact .inr ⟨i, not_le.mp hmin, hlt⟩

/-- **A report on a trading day** belongs to that day's pass, unless it came
before the open, and to the pass before it, unless it comes after the close. -/
theorem exitsToday_trading (hdays : StrictMono days) (m j : ℕ) :
    exitsToday (days m) timing (days j) (days (j + 1)) = true
      ↔ (j = m ∧ timing ≠ .preMarket) ∨ (j + 1 = m ∧ timing ≠ .afterHours) := by
  rw [exitsToday_iff (hdays (Nat.lt_succ_self j)), hdays.injective.eq_iff, hdays.injective.eq_iff,
    hdays.lt_iff_lt, hdays.lt_iff_lt]
  constructor
  · rintro (⟨rfl, htiming⟩ | ⟨hlow, hhigh⟩ | ⟨rfl, htiming⟩)
    · exact .inl ⟨rfl, htiming⟩
    · omega
    · exact .inr ⟨rfl, htiming⟩
  · rintro (⟨rfl, htiming⟩ | ⟨rfl, htiming⟩)
    · exact .inl ⟨rfl, htiming⟩
    · exact .inr (.inr ⟨rfl, htiming⟩)

/-- **A report between two trading days** belongs to the pass of the first. -/
theorem exitsToday_between (hdays : StrictMono days) {i : ℕ} (hlow : days i < reportDate)
    (hhigh : reportDate < days (i + 1)) (j : ℕ) :
    exitsToday reportDate timing (days j) (days (j + 1)) = true ↔ j = i := by
  rw [exitsToday_iff (hdays (Nat.lt_succ_self j))]
  constructor
  · intro h
    have hwindow : days j ≤ reportDate ∧ reportDate ≤ days (j + 1) :=
      exitsToday_window (hdays (Nat.lt_succ_self j))
        ((exitsToday_iff (hdays (Nat.lt_succ_self j))).mpr h)
    have hj : j < i + 1 := hdays.lt_iff_lt.mp (hwindow.1.trans_lt hhigh)
    have hi : i < j + 1 := hdays.lt_iff_lt.mp (hlow.trans_le hwindow.2)
    omega
  · rintro rfl
    exact .inr (.inl ⟨hlow, hhigh⟩)

/-- The reports a sequence of passes answers for: after the first trading day and
up to some other, or on the first after the close. -/
def Awaited (days : ℕ → ℤ) (reportDate : ℤ) (timing : EarningsTiming) : Prop :=
  (days 0 < reportDate ∧ ∃ k, reportDate ≤ days k)
    ∨ (reportDate = days 0 ∧ timing = .afterHours)

theorem Awaited.placed (h : Awaited days reportDate timing) :
    (∃ m, reportDate = days m ∧ (m = 0 → timing = .afterHours))
      ∨ ∃ i, days i < reportDate ∧ reportDate < days (i + 1) := by
  rcases h with ⟨hfirst, hreached⟩ | ⟨rfl, htiming⟩
  · rcases trading_or_between hfirst.le hreached with ⟨m, rfl⟩ | hbetween
    · refine .inl ⟨m, rfl, ?_⟩
      rintro rfl
      exact absurd hfirst (lt_irrefl _)
    · exact .inr hbetween
  · exact .inl ⟨0, rfl, fun _ => htiming⟩

/-- Some pass sees the report. -/
theorem Awaited.exists_pass (hdays : StrictMono days) (h : Awaited days reportDate timing) :
    ∃ i, exitsToday reportDate timing (days i) (days (i + 1)) = true := by
  rcases h.placed with ⟨m, rfl, hzero⟩ | ⟨i, hlow, hhigh⟩
  · by_cases htiming : timing = .preMarket
    · cases m with
      | zero => exact absurd (htiming.symm.trans (hzero rfl)) (by decide)
      | succ i =>
        exact ⟨i, (exitsToday_trading hdays _ _).mpr (.inr ⟨rfl, by rw [htiming]; decide⟩)⟩
    · exact ⟨m, (exitsToday_trading hdays _ _).mpr (.inl ⟨rfl, htiming⟩)⟩
  · exact ⟨i, (exitsToday_between hdays hlow hhigh i).mpr rfl⟩

/-- Only one does, when the timing or the date says which. -/
theorem Awaited.unique_pass (hdays : StrictMono days) (h : Awaited days reportDate timing)
    (hknown : timing ≠ .unspecified ∨ ∀ i, reportDate ≠ days i) {i j : ℕ}
    (hi : exitsToday reportDate timing (days i) (days (i + 1)) = true)
    (hj : exitsToday reportDate timing (days j) (days (j + 1)) = true) : i = j := by
  rcases h.placed with ⟨m, rfl, -⟩ | ⟨k, hlow, hhigh⟩
  · rw [exitsToday_trading hdays] at hi hj
    have htiming : timing ≠ .unspecified := hknown.resolve_right (fun h => h m rfl)
    cases timing with
    | unspecified => exact absurd rfl htiming
    | preMarket => simp at hi hj; omega
    | afterHours => simp at hi hj; omega
  · rw [exitsToday_between hdays hlow hhigh] at hi hj
    rw [hi, hj]

end Passes

/-! ## The evidence of one symbol -/

/-- What the live lookup says of a symbol. -/
structure EarningsEvent where
  symbol : String
  date : ℤ
  timing : EarningsTiming
  deriving DecidableEq

structure EarningsLookup where
  event : Option EarningsEvent
  verified : Bool
  deriving DecidableEq

/-- **`CapturedReports`**: for each date, the symbols that report and when. -/
structure CapturedReports where
  captureDate : ℤ
  rows : List (ℤ × List (String × EarningsTiming))
  distinct : (rows.map (·.1)).Nodup

inductive ReleaseStatus where
  | exit
  | none
  | unknown
  deriving DecidableEq, Repr

/-- `SOURCE_LIVE` and `SOURCE_CAPTURE`. -/
inductive ReleaseSource where
  | live
  | capture
  deriving DecidableEq, Repr

/-- **`ReleaseDecision`.** -/
structure ReleaseDecision where
  status : ReleaseStatus
  reportDate : Option ℤ
  timing : Option EarningsTiming
  sources : List ReleaseSource
  liveVerified : Bool
  deriving DecidableEq

/-- A report one source shows for the symbol. -/
structure ReleaseReading where
  source : ReleaseSource
  date : ℤ
  timing : EarningsTiming
  deriving DecidableEq

namespace ReleaseReading

/-- Whether a pass acts on a reading. -/
def qualifies (today nextDay : ℤ) (reading : ReleaseReading) : Bool :=
  exitsToday reading.date reading.timing today nextDay

/-- The order of the readings: by date, and the live one first. -/
def before (a b : ReleaseReading) : Bool :=
  a.date < b.date ∨ (a.date = b.date ∧ a.source = .live ∧ b.source ≠ .live)

/-- `min` of the readings in that order: the first of the least. -/
def earliest (first : ReleaseReading) (rest : List ReleaseReading) : ReleaseReading :=
  rest.foldl (fun best reading => if reading.before best then reading else best) first

end ReleaseReading

/-- The readings of the live lookup. -/
def liveReadings (live : Option EarningsLookup) (today nextDay : ℤ) : List ReleaseReading :=
  match live.bind (·.event) with
  | none => []
  | some event =>
    if today ≤ event.date ∧ event.date ≤ nextDay then [⟨.live, event.date, event.timing⟩] else []

/-- The readings of the capture, in the order of the dates. -/
def captureReadings (symbol : String) (captured : Option CapturedReports) (today nextDay : ℤ) :
    List ReleaseReading :=
  match captured with
  | none => []
  | some captured =>
    (captured.rows.insertionSort (fun a b => a.1 ≤ b.1)).flatMap (fun row =>
      if today ≤ row.1 ∧ row.1 ≤ nextDay then
        (row.2.filter (fun report => report.1 = symbol)).map (fun report =>
          ⟨.capture, row.1, report.2⟩)
      else [])

/-- **`decide`**: the union of the two sources. -/
def decideRelease (upper : String → String) (symbol : String) (live : Option EarningsLookup)
    (captured : Option CapturedReports) (today nextDay : ℤ) : ReleaseDecision :=
  let liveVerified := live.any (·.verified)
  let readings := liveReadings live today nextDay
    ++ captureReadings (upper symbol) captured today nextDay
  match readings.filter (ReleaseReading.qualifies today nextDay) with
  | first :: rest =>
    let earliest := ReleaseReading.earliest first rest
    ⟨.exit, some earliest.date, some earliest.timing,
      [ReleaseSource.live, .capture].filter (fun source => readings.any (·.source = source)),
      liveVerified⟩
  | [] =>
    let usable := [(ReleaseSource.live, liveVerified), (.capture, captured.isSome)].filterMap
      (fun source => if source.2 then some source.1 else none)
    ⟨if usable = [] then .unknown else .none, none, none, usable, liveVerified⟩

/-- **A report that a source shows for a symbol**: the live lookup's event, or a
row of the capture under the symbol's name. -/
def Shows (upper : String → String) (symbol : String) (live : Option EarningsLookup)
    (captured : Option CapturedReports) (reportDate : ℤ) (timing : EarningsTiming) : Prop :=
  (∃ lookup event, live = some lookup ∧ lookup.event = some event ∧ event.date = reportDate
      ∧ event.timing = timing)
    ∨ ∃ reports rows, captured = some reports ∧ (reportDate, rows) ∈ reports.rows
      ∧ (upper symbol, timing) ∈ rows

section Decision

variable {upper : String → String} {symbol : String} {live : Option EarningsLookup}
  {captured : Option CapturedReports} {today nextDay : ℤ}

theorem mem_liveReadings {reading : ReleaseReading} :
    reading ∈ liveReadings live today nextDay
      ↔ reading.source = .live ∧ (today ≤ reading.date ∧ reading.date ≤ nextDay)
        ∧ ∃ lookup event, live = some lookup ∧ lookup.event = some event
          ∧ event.date = reading.date ∧ event.timing = reading.timing := by
  unfold liveReadings
  cases live with
  | none => simp
  | some lookup =>
    rw [Option.bind_some]
    cases hevent : lookup.event with
    | none => simp [hevent]
    | some event =>
      dsimp only
      split
      · rename_i hwindow
        rw [List.mem_singleton]
        constructor
        · rintro rfl
          exact ⟨rfl, hwindow, lookup, event, rfl, hevent, rfl, rfl⟩
        · rintro ⟨hsource, -, lookup', event', hlookup, hevent', hdate, htiming⟩
          cases hlookup
          rw [hevent] at hevent'
          cases hevent'
          cases reading
          dsimp only at hsource hdate htiming
          rw [hsource, hdate, htiming]
      · rename_i hwindow
        simp only [List.not_mem_nil, false_iff]
        rintro ⟨-, hwindow', lookup', event', hlookup, hevent', hdate, -⟩
        cases hlookup
        rw [hevent] at hevent'
        cases hevent'
        rw [hdate] at hwindow
        exact hwindow hwindow'

theorem mem_captureReadings {reading : ReleaseReading} :
    reading ∈ captureReadings symbol captured today nextDay
      ↔ reading.source = .capture ∧ (today ≤ reading.date ∧ reading.date ≤ nextDay)
        ∧ ∃ reports rows, captured = some reports ∧ (reading.date, rows) ∈ reports.rows
          ∧ (symbol, reading.timing) ∈ rows := by
  unfold captureReadings
  cases captured with
  | none => simp
  | some reports =>
    dsimp only
    rw [List.mem_flatMap]
    constructor
    · rintro ⟨⟨date, rows⟩, hrow, hreading⟩
      split at hreading
      · rename_i hwindow
        obtain ⟨⟨name, timing⟩, hreport, rfl⟩ := List.mem_map.mp hreading
        obtain ⟨hreport, hname⟩ := List.mem_filter.mp hreport
        have hname : name = symbol := of_decide_eq_true hname
        rw [List.mem_insertionSort] at hrow
        rw [hname] at hreport
        exact ⟨rfl, hwindow, reports, rows, rfl, hrow, hreport⟩
      · cases hreading
    · rintro ⟨hsource, hwindow, reports', rows, hreports, hrow, hreport⟩
      cases hreports
      refine ⟨(reading.date, rows), (List.mem_insertionSort _).mpr hrow, ?_⟩
      rw [if_pos hwindow]
      refine List.mem_map.mpr ⟨(symbol, reading.timing), List.mem_filter.mpr ⟨hreport, by simp⟩, ?_⟩
      rw [← hsource]

/-- The readings that count are the reports the sources show in the window. -/
theorem exists_qualifying_iff (hnext : today < nextDay) :
    (∃ reading ∈ liveReadings live today nextDay
        ++ captureReadings (upper symbol) captured today nextDay,
      reading.qualifies today nextDay = true)
      ↔ ∃ reportDate timing, Shows upper symbol live captured reportDate timing
        ∧ exitsToday reportDate timing today nextDay = true := by
  constructor
  · rintro ⟨reading, hreading, hqualifies⟩
    refine ⟨reading.date, reading.timing, ?_, hqualifies⟩
    rcases List.mem_append.mp hreading with hreading | hreading
    · exact .inl (mem_liveReadings.mp hreading).2.2
    · exact .inr (mem_captureReadings.mp hreading).2.2
  · rintro ⟨reportDate, timing, hshows, hexits⟩
    have hwindow := exitsToday_window hnext hexits
    rcases hshows with hlive | hcaptured
    · exact ⟨⟨.live, reportDate, timing⟩,
        List.mem_append_left _ (mem_liveReadings.mpr ⟨rfl, hwindow, hlive⟩), hexits⟩
    · exact ⟨⟨.capture, reportDate, timing⟩,
        List.mem_append_right _ (mem_captureReadings.mpr ⟨rfl, hwindow, hcaptured⟩), hexits⟩

/-- **`decide` exits exactly on a report that qualifies in either source.** -/
theorem decideRelease_exit_iff (hnext : today < nextDay) :
    (decideRelease upper symbol live captured today nextDay).status = .exit
      ↔ ∃ reportDate timing, Shows upper symbol live captured reportDate timing
        ∧ exitsToday reportDate timing today nextDay = true := by
  rw [← exists_qualifying_iff hnext]
  unfold decideRelease
  dsimp only
  split
  · rename_i first rest hfilter
    have hfirst : first ∈ (liveReadings live today nextDay
        ++ captureReadings (upper symbol) captured today nextDay).filter
          (ReleaseReading.qualifies today nextDay) := by
      rw [hfilter]
      exact List.mem_cons_self
    obtain ⟨hmem, hqualifies⟩ := List.mem_filter.mp hfirst
    exact iff_of_true rfl ⟨first, hmem, hqualifies⟩
  · rename_i hfilter
    refine iff_of_false ?_ ?_
    · dsimp only
      split <;> simp
    · rintro ⟨reading, hreading, hqualifies⟩
      rw [List.filter_eq_nil_iff] at hfilter
      exact hfilter reading hreading hqualifies

end Decision

/-! ## The pass -/

/-- **`_next_trading_day`**: the first trading day of the ten days after, by the
calendar's range of them. -/
def nextTradingDay (range : ℤ → ℤ → List MarketCalendarDay) (today : ℤ) : Option ℤ :=
  ((range (today + 1) (today + 10)).find? (·.isTradingDay)).map (·.date)

/-- **A calendar of trading days**: a range of it lists its days in order, and
the trading days among them are those of the sequence. -/
structure RangeOf (days : ℕ → ℤ) (range : ℤ → ℤ → List MarketCalendarDay) : Prop where
  sorted : ∀ first last, (range first last).Pairwise (fun a b => a.date < b.date)
  trading : ∀ first last date, (∃ day ∈ range first last, day.isTradingDay ∧ day.date = date)
    ↔ (first ≤ date ∧ date ≤ last) ∧ ∃ i, days i = date

/-- The next trading day that a pass finds is the next of the sequence, if it is
no more than ten days off. -/
theorem nextTradingDay_eq {days : ℕ → ℤ} {range : ℤ → ℤ → List MarketCalendarDay}
    (hdays : StrictMono days) (hrange : RangeOf days range) {i : ℕ}
    (hnear : days (i + 1) ≤ days i + 10) :
    nextTradingDay range (days i) = some (days (i + 1)) := by
  have hstep : days i < days (i + 1) := hdays (Nat.lt_succ_self i)
  obtain ⟨next, hnext, htrading, hdate⟩ :=
    (hrange.trading (days i + 1) (days i + 10) (days (i + 1))).mpr ⟨⟨hstep, hnear⟩, i + 1, rfl⟩
  unfold nextTradingDay
  cases hfind : (range (days i + 1) (days i + 10)).find? (·.isTradingDay) with
  | none => exact absurd htrading (by simpa using List.find?_eq_none.mp hfind next hnext)
  | some found =>
    obtain ⟨hfound, before, after, hsplit, hbefore⟩ := List.find?_eq_some_iff_append.mp hfind
    have hmem : found ∈ range (days i + 1) (days i + 10) := List.mem_of_find?_eq_some hfind
    obtain ⟨hwindow, m, hm⟩ := (hrange.trading _ _ _).mp ⟨found, hmem, hfound, rfl⟩
    have hle : days (i + 1) ≤ found.date := by
      rw [← hm] at hwindow ⊢
      have hlt : i < m := hdays.lt_iff_lt.mp (by omega)
      exact hdays.monotone hlt
    have hge : found.date ≤ days (i + 1) := by
      rw [← hdate]
      have hsorted := hrange.sorted (days i + 1) (days i + 10)
      rw [hsplit] at hnext hsorted
      rcases List.mem_append.mp hnext with hnext | hnext
      · exact absurd htrading (by simpa using hbefore next hnext)
      · rcases List.mem_cons.mp hnext with rfl | hnext
        · exact le_rfl
        · exact ((List.pairwise_cons.mp (List.pairwise_append.mp hsorted).2.1).1 next hnext).le
    exact congrArg some (le_antisymm hge hle)

/-- The mode of a pass that runs. -/
inductive ReleaseMode where
  | preview
  | enforce
  deriving DecidableEq, Repr

inductive ReleaseEntryStatus where
  | exempt
  | wouldClose
  | close
  | none
  | unknown
  deriving DecidableEq, Repr

/-- **One position of a pass.** The request of a close is named by its scope, its
signal, the report and the trading day. -/
structure ReleaseEntry where
  signalId : SignalId
  symbol : String
  direction : Direction
  scope : String
  status : ReleaseEntryStatus
  decision : ReleaseDecision
  request : Option (String × SignalId × ℤ × ℤ)
  deriving DecidableEq

section Pass

variable (mode : ReleaseMode) (upper : String → String) (scopeOf : Signal → String)
  (lookup : String → Option EarningsLookup) (captured : Option CapturedReports) (today nextDay : ℤ)

/-- The symbol a position is looked up by. -/
def releaseSymbol (position : Signal) : String := upper (stripSlashes position.contract)

def releaseDecision (position : Signal) : ReleaseDecision :=
  let symbol := releaseSymbol upper position
  decideRelease upper symbol (lookup symbol) captured today nextDay

/-- **What the pass does about one position**: only a native one is closed. -/
def releaseEntry (position : Signal) : ReleaseEntry :=
  let decision := releaseDecision upper lookup captured today nextDay position
  let scope := scopeOf position
  let status : ReleaseEntryStatus :=
    if scope ≠ "native" then .exempt
    else
      match decision.status with
      | .exit => if mode = .preview then .wouldClose else .close
      | .none => .none
      | .unknown => .unknown
  { signalId := position.id
    symbol := releaseSymbol upper position
    direction := position.direction
    scope := scope
    status := status
    decision := decision
    request := if status = .close then
        decision.reportDate.map (fun reportDate => (scope, position.id, reportDate, today))
      else none }

/-- **`_pass`**: one entry for each tracked equity position. -/
def releasePass (positions : List Signal) : List ReleaseEntry :=
  (positions.filter (·.assetClass = .equity)).map
    (releaseEntry mode upper scopeOf lookup captured today nextDay)

end Pass

/-- **A native equity position is closed by exactly the passes its reports
qualify on.** -/
theorem releasePass_closes_iff {upper : String → String} {scopeOf : Signal → String}
    {lookup : String → Option EarningsLookup} {captured : Option CapturedReports}
    {today nextDay : ℤ} (hnext : today < nextDay) {positions : List Signal} {position : Signal}
    (hposition : position ∈ positions) (hequity : position.assetClass = .equity)
    (hnative : scopeOf position = "native") :
    (releaseEntry .enforce upper scopeOf lookup captured today nextDay position
        ∈ releasePass .enforce upper scopeOf lookup captured today nextDay positions)
      ∧ ((releaseEntry .enforce upper scopeOf lookup captured today nextDay position).status
        = .close
        ↔ ∃ reportDate timing,
          Shows upper (releaseSymbol upper position)
            (lookup (releaseSymbol upper position)) captured
            reportDate timing
          ∧ exitsToday reportDate timing today nextDay = true) := by
  refine ⟨List.mem_map.mpr ⟨position, List.mem_filter.mpr ⟨hposition, by simpa using hequity⟩, rfl⟩,
    ?_⟩
  rw [← decideRelease_exit_iff hnext]
  show (if scopeOf position ≠ "native" then _ else _) = _ ↔ _
  rw [if_neg (not_not.mpr hnative)]
  show (match (decideRelease _ _ _ _ _ _).status with | .exit => _ | .none => _ | .unknown => _) = _
    ↔ _
  cases (decideRelease upper (releaseSymbol upper position) (lookup (releaseSymbol upper position))
    captured today nextDay).status with
  | exit => exact iff_of_true rfl rfl
  | none => exact iff_of_false (by decide) (by decide)
  | unknown => exact iff_of_false (by decide) (by decide)

/-! ## No release slips through -/

/-- **No earnings release slips between two passes.** Over any sequence of
trading days, a report after the first of them, or on it after the close, is seen
by some pass, by none after its own session, and by only one when it is before the
open, after the close or on a date without a session; and on each pass `decide`
exits exactly when either source shows a report that the pass sees. -/
theorem release_exits_cover (days : ℕ → ℤ) (hdays : StrictMono days) :
    (∀ (reportDate : ℤ) (timing : EarningsTiming), Awaited days reportDate timing →
      (∃ i, exitsToday reportDate timing (days i) (days (i + 1)) = true)
      ∧ (∀ i, exitsToday reportDate timing (days i) (days (i + 1)) = true → days i ≤ reportDate)
      ∧ (timing ≠ .unspecified ∨ (∀ i, reportDate ≠ days i) →
        ∃! i, exitsToday reportDate timing (days i) (days (i + 1)) = true))
    ∧ ∀ (i : ℕ) (upper : String → String) (symbol : String) (live : Option EarningsLookup)
        (captured : Option CapturedReports),
      (decideRelease upper symbol live captured (days i) (days (i + 1))).status = .exit
        ↔ ∃ reportDate timing, Shows upper symbol live captured reportDate timing
          ∧ exitsToday reportDate timing (days i) (days (i + 1)) = true := by
  have hstep : ∀ i, days i < days (i + 1) := fun i => hdays (Nat.lt_succ_self i)
  refine ⟨fun reportDate timing hawaited => ⟨hawaited.exists_pass hdays, ?_, ?_⟩, ?_⟩
  · intro i h
    exact (exitsToday_window (hstep i) h).1
  · intro hknown
    obtain ⟨i, hi⟩ := hawaited.exists_pass hdays
    exact ⟨i, hi, fun j hj => hawaited.unique_pass hdays hknown hj hi⟩
  · intro i upper symbol live captured
    exact decideRelease_exit_iff (hstep i)

/-- Weeks of five trading days. -/
def weekdays (i : ℕ) : ℤ := i + 2 * (i / 5 : ℕ)

theorem weekdays_strictMono : StrictMono weekdays :=
  strictMono_nat_of_lt_succ (fun i => by unfold weekdays; omega)

/-- A report on a Saturday is seen by the pass of the Friday alone, which exits on it. -/
theorem release_exits_cover_weekend :
    (∃! i, exitsToday 5 .unspecified (weekdays i) (weekdays (i + 1)) = true)
      ∧ weekdays 4 = 4 ∧ weekdays 5 = 7
      ∧ (decideRelease id "ABC" (some ⟨some ⟨"ABC", 5, .unspecified⟩, true⟩) none (weekdays 4)
        (weekdays 5)).status = .exit := by
  obtain ⟨hreports, hdecide⟩ := release_exits_cover weekdays weekdays_strictMono
  have hsaturday : ∀ i, (5 : ℤ) ≠ weekdays i := fun i => by unfold weekdays; omega
  refine ⟨(hreports 5 .unspecified (.inl ⟨by decide, 5, by decide⟩)).2.2 (.inr hsaturday), rfl, rfl,
    (hdecide 4 id "ABC" _ none).mpr ⟨5, .unspecified, .inl ⟨_, _, rfl, rfl, rfl, rfl⟩, by decide⟩⟩

end AgenticTrader
