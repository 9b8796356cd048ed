import AgenticTrader.Durable
import AgenticTrader.Library.LocalTime
import Mathlib.Algebra.Order.Field.Rat
import Mathlib.Algebra.Order.Group.Unbundled.Abs

/-!
# The bracket labeler

`label_bracket` (`research/setups/labels.py`) says what would have become of a
planned bracket: it enters at the open of the first regular-session bar at or
after the decision and walks the bars of regular hours until the stop or the
target is hit, or the holding limit is over. A bar that touches both counts as
the stop, a gap through a level fills at the open, and a close can ratchet the
stop for the bars after it.

Prices are rationals. The zone is New York's, of which the labeler reads the
hour and the date of a bar.
-/

namespace AgenticTrader

/-! ## Brackets, arms and outcomes -/

inductive BracketHit where
  | target
  | stop
  | timeout
  | immature
  deriving DecidableEq, Repr

/-- **A planned bracket**: the entry lies strictly between the stop and the
target, on the sides of the direction. -/
structure SetupLevels where
  direction : Direction
  entry : ℚ
  stop : ℚ
  target : ℚ
  ordered : if direction = .long then stop < entry ∧ entry < target
    else target < entry ∧ entry < stop

/-- **`BracketOutcome`.** -/
structure BracketOutcome where
  hit : BracketHit
  entryTime : Option Time
  entryPrice : Option ℚ
  exitTime : Option Time
  exitPrice : Option ℚ
  r : Option ℚ
  rCost : Option ℚ
  holdingSessions : ℤ
  finalStop : Option ℚ
  ratchetMoves : ℕ
  deriving DecidableEq

/-- A close-based ratchet, in units of the planned risk. -/
structure TrailSpec where
  triggerR : ℚ
  distanceR : ℚ
  deriving DecidableEq

/-- **An alternative exit policy**; without a target in it there is none, except
for the live arm. -/
structure BracketArm where
  name : String
  targetR : Option ℚ
  trail : Option TrailSpec
  deriving DecidableEq

/-- `LIVE_ARM`. -/
def liveArm : BracketArm := ⟨"A0_live", none, none⟩

/-- One hourly bar. -/
structure HourlyBar where
  time : Time
  open_ : ℚ
  high : ℚ
  low : ℚ
  close : ℚ
  deriving DecidableEq

/-- **`regular_session_bars`**: the bars that start in `REGULAR_SESSION_HOURS_NY`. -/
def regularSessionBars (zone : Zone) (hourly : List HourlyBar) : List HourlyBar :=
  hourly.filter (fun bar => 9 ≤ zone.hourOf bar.time ∧ zone.hourOf bar.time < 16)

/-! ## One walk -/

/-- What is fixed once a bracket is entered. -/
structure BracketWalk where
  levels : SetupLevels
  entry : HourlyBar
  target : Option ℚ
  trail : Option TrailSpec
  maxHoldSessions : ℤ
  costBpsPerSide : ℚ

/-- What changes along the walk. -/
structure WalkState where
  stop : ℚ
  moves : ℕ
  dates : List ℤ
  prev : Option HourlyBar

namespace BracketWalk

variable (w : BracketWalk)

def riskUnit : ℚ := |w.levels.entry - w.levels.stop|

/-- **`_resolved`.** -/
def resolved (hit : BracketHit) (exitTime : Time) (exitPrice : ℚ) (sessions : ℤ) (s : WalkState) :
    BracketOutcome :=
  let r := w.levels.direction.sign * (exitPrice - w.entry.open_) / w.riskUnit
  { hit := hit
    entryTime := some w.entry.time
    entryPrice := some w.entry.open_
    exitTime := some exitTime
    exitPrice := some exitPrice
    r := some r
    rCost := some (r - 2 * w.costBpsPerSide / 10000 * w.entry.open_ / w.riskUnit)
    holdingSessions := sessions
    finalStop := some s.stop
    ratchetMoves := s.moves }

/-- `_immature` of a bracket that was entered. -/
def immature (s : WalkState) : BracketOutcome :=
  { hit := .immature
    entryTime := some w.entry.time
    entryPrice := some w.entry.open_
    exitTime := none
    exitPrice := none
    r := none
    rCost := none
    holdingSessions := s.dates.length
    finalStop := some s.stop
    ratchetMoves := s.moves }

/-- A price at or beyond a stop. -/
def beyondStop (price stop : ℚ) : Bool :=
  if w.levels.direction = .long then price ≤ stop else stop ≤ price

/-- A price at or beyond a target. -/
def beyondTarget (price target : ℚ) : Bool :=
  if w.levels.direction = .long then target ≤ price else price ≤ target

/-- The price of a bar that is closest to the stop, and to the target. -/
def worst (bar : HourlyBar) : ℚ := if w.levels.direction = .long then bar.low else bar.high

def best (bar : HourlyBar) : ℚ := if w.levels.direction = .long then bar.high else bar.low

/-- The fill of a stop: a gap through it fills at the open. -/
def stopFill (bar : HourlyBar) (stop : ℚ) : ℚ :=
  if w.levels.direction = .long then min bar.open_ stop else max bar.open_ stop

/-- The fill of a target. -/
def targetFill (bar : HourlyBar) (target : ℚ) : ℚ :=
  if w.levels.direction = .long then max bar.open_ target else min bar.open_ target

/-- **The ratchet** at a close, effective from the next bar. -/
def ratchet (bar : HourlyBar) (s : WalkState) : ℚ × ℕ :=
  match w.trail with
  | none => (s.stop, s.moves)
  | some trail =>
    let sign := w.levels.direction.sign
    let proposed := bar.close - sign * trail.distanceR * w.riskUnit
    if trail.triggerR * w.riskUnit ≤ sign * (bar.close - w.entry.open_)
        ∧ 0 < sign * (proposed - s.stop) then (proposed, s.moves + 1)
    else (s.stop, s.moves)

/-- The dates seen so far, with the one of a bar. -/
def seen (zone : Zone) (bar : HourlyBar) (s : WalkState) : List ℤ :=
  if zone.date bar.time ∈ s.dates then s.dates else s.dates ++ [zone.date bar.time]

/-- **One bar of the loop**: it ends the walk, or moves it on. -/
def step (zone : Zone) (bar : HourlyBar) (s : WalkState) :
    Except String BracketOutcome ⊕ WalkState :=
  let dates := seen zone bar s
  if zone.date bar.time ∉ s.dates ∧ (dates.length : ℤ) = w.maxHoldSessions + 1 then
    match s.prev with
    | none => .inl (.error "max_hold_sessions must be at least 1")
    | some prev => .inl (.ok (w.resolved .timeout prev.time prev.close w.maxHoldSessions s))
  else if w.beyondStop (w.worst bar) s.stop then
    .inl (.ok (w.resolved .stop bar.time (w.stopFill bar s.stop) dates.length s))
  else
    match w.target.filter (w.beyondTarget (w.best bar)) with
    | some target =>
      .inl (.ok (w.resolved .target bar.time (w.targetFill bar target) dates.length s))
    | none =>
      let moved := w.ratchet bar s
      .inr ⟨moved.1, moved.2, dates, some bar⟩

/-- **The loop over the bars from the entry on.** -/
def walk (zone : Zone) : List HourlyBar → WalkState → Except String BracketOutcome
  | [], s => .ok (w.immature s)
  | bar :: rest, s =>
    match w.step zone bar s with
    | .inl outcome => outcome
    | .inr s => walk zone rest s

/-- The state at the entry. -/
def start : WalkState := ⟨w.levels.stop, 0, [], none⟩

/-- **What is tested at the entry's own open**, and the walk from there. -/
def enter (zone : Zone) (bars : List HourlyBar) : Except String BracketOutcome :=
  if w.beyondStop w.entry.open_ w.levels.stop then
    .ok (w.resolved .stop w.entry.time w.entry.open_ 1 w.start)
  else if w.target.any (w.beyondTarget w.entry.open_) then
    .ok (w.resolved .target w.entry.time w.entry.open_ 1 w.start)
  else w.walk zone bars w.start

end BracketWalk

/-! ## The label -/

/-- The target an arm sets. -/
def armTarget (levels : SetupLevels) (arm : Option BracketArm) : Option ℚ :=
  match arm with
  | none => some levels.target
  | some arm =>
    if arm = liveArm then some levels.target
    else arm.targetR.map (fun targetR =>
      levels.entry + levels.direction.sign * targetR * |levels.entry - levels.stop|)

/-- `_immature` of a bracket that was never entered. -/
def neverEntered (levels : SetupLevels) : BracketOutcome :=
  ⟨.immature, none, none, none, none, none, none, 0, some levels.stop, 0⟩

/-- **`label_bracket`.** -/
def labelBracket (zone : Zone) (levels : SetupLevels) (decisionAt : Time)
    (hourly : List HourlyBar) (maxHoldSessions : ℤ) (costBpsPerSide : ℚ)
    (arm : Option BracketArm) : Except String BracketOutcome :=
  match (regularSessionBars zone hourly).dropWhile (fun bar => bar.time < decisionAt) with
  | [] => .ok (neverEntered levels)
  | entry :: rest =>
    BracketWalk.enter ⟨levels, entry, armTarget levels arm, arm.bind (·.trail), maxHoldSessions,
      costBpsPerSide⟩ zone (entry :: rest)

end AgenticTrader
