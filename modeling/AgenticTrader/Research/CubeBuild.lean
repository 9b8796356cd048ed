import Mathlib
import AgenticTrader.Library.Checks
import AgenticTrader.Library.Extended
import AgenticTrader.Research.Cube
import AgenticTrader.Research.LabelSpan
import AgenticTrader.Research.Picks

/-!
# Building the cube and reading its windows

`build_cube` (`research/pooled/cube.py`) labels every eligible cell: a long bracket from the
price before the decision, with the stop a multiple of the ATR below it, walked over the hourly
bars of the next weeks. A label is read through a window of sessions (`LabelCube.window`), and
`session_table` (`research/pooled/stats.py`) averages over the labels of a window, without those
whose holding runs past its last row when it purges.

The report of the build, which counts cells, is left out.
-/

namespace AgenticTrader

open Checks

variable {m : ℕ}

/-! ## What the cube is built from -/

/-- **`Eligibility`**, what the cube reads of it. -/
structure Eligibility (m : ℕ) where
  sessions : List ℤ
  symbols : Fin m → String
  eligible : ℕ → Fin m → Bool
  atr : ℕ → Fin m → Extended ℚ
  ascending : sessions.Pairwise (· < ·)

/-- **`CubeSpec`**, with its `BracketSpec`: the clock of the decision as a time of day. -/
structure CubeSpec where
  decisionClock : ℤ
  stopAtrMultiple : ℚ
  targetR : ℚ
  maxHoldSessions : ℤ
  decisionCostBps : ℚ
  stop_pos : 0 < stopAtrMultiple
  target_pos : 0 < targetR
  hold_pos : 1 ≤ maxHoldSessions
  cost_nonneg : 0 ≤ decisionCostBps

/-- **The arguments of `build_cube`**, with the zone of New York and the hash of
`tiebreak_key`. -/
structure CubeInput (m : ℕ) where
  zone : Zone
  tiebreakKey : String → ℤ → ℕ
  eligibility : Eligibility m
  hourly : String → Option (List HourlyBar)
  spec : CubeSpec

/-- **`_Hourly`**: the bars in order, of two at one time the first. -/
def hourlyFrame (frame : List HourlyBar) : List HourlyBar :=
  (frame.insertionSort (fun a b => a.time ≤ b.time)).destutter (fun a b => a.time < b.time)

theorem hourlyFrame_sorted (frame : List HourlyBar) :
    (hourlyFrame frame).Pairwise (fun a b => a.time < b.time) := by
  have htrans : IsTrans HourlyBar (fun a b => a.time < b.time) := ⟨fun _ _ _ => lt_trans⟩
  exact List.isChain_iff_pairwise.mp (List.isChain_destutter _ _)

/-- `_LABEL_SPAN`. -/
def labelSpan : ℤ := 45 * Zone.day

/-- `_Hourly.around`. -/
def around (bars : List HourlyBar) (decisionAt : Time) : List HourlyBar :=
  bars.filter (fun bar => decide (decisionAt - Zone.day ≤ bar.time)
    && decide (bar.time ≤ decisionAt + labelSpan))

/-- **`decision_price`**: the close of the last regular bar of the day that closed by then. -/
def decisionPrice (zone : Zone) (bars : List HourlyBar) (decisionAt : Time) : Option ℚ :=
  (((regularSessionBars zone bars).filter (fun bar =>
    decide (zone.date bar.time = zone.date decisionAt)
      && decide (bar.time + Zone.hour ≤ decisionAt))).getLast?.map HourlyBar.close).filter
    (fun price => decide (0 < price))

theorem longLevels_ordered (price risk target : ℚ) (hrisk : 0 < risk) (htarget : 0 < target) :
    if Direction.long = .long then price - risk < price ∧ price < price + target * risk
      else price + target * risk < price ∧ price < price - risk := by
  rw [if_pos rfl]
  exact ⟨sub_lt_self price hrisk, lt_add_of_pos_right price (mul_pos htarget hrisk)⟩

/-- The levels of a long bracket around a price. -/
def longLevels (spec : CubeSpec) (price risk : ℚ) (hrisk : 0 < risk) : SetupLevels where
  direction := .long
  entry := price
  stop := price - risk
  target := price + spec.targetR * risk
  ordered := longLevels_ordered price risk spec.targetR hrisk spec.target_pos

/-! ## `build_cube` -/

/-- What the cube holds of a cell. -/
structure CubeCell where
  labelled : Bool
  rGross : Option ℚ
  rCost : Option ℚ
  holding : ℤ
  hit : BracketHit

/-- A cell without a label. -/
def CubeSpec.unlabelled (spec : CubeSpec) : CubeCell :=
  ⟨false, none, none, spec.maxHoldSessions, .immature⟩

namespace CubeInput

variable (x : CubeInput m)

/-- `decision_at`. -/
def decisionAt (day : ℤ) : Time := x.zone.ofLocal (Zone.combine day x.spec.decisionClock)

/-- The bars of a cell, where its symbol has any. -/
def window (col : Fin m) (day : ℤ) : Option (List HourlyBar) :=
  ((x.hourly (x.eligibility.symbols col)).filter (fun frame => !frame.isEmpty)).map
    (fun frame => around (hourlyFrame frame) (x.decisionAt day))

/-- The levels planned at a price, where the risk is finite and leaves the stop above zero. -/
def levelsAt (row : ℕ) (col : Fin m) (price : ℚ) : Option SetupLevels :=
  match x.eligibility.atr row col with
  | .finite atr =>
    if h : 0 < x.spec.stopAtrMultiple * atr ∧ 0 < price - x.spec.stopAtrMultiple * atr then
      some (longLevels x.spec price (x.spec.stopAtrMultiple * atr) h.1)
    else none
  | _ => none

/-- **The bracket that is planned for a cell**, with the bars it is walked over. -/
def plan (row : ℕ) (col : Fin m) (day : ℤ) : Option (SetupLevels × List HourlyBar) :=
  if x.eligibility.eligible row col then
    (x.window col day).bind (fun bars =>
      (decisionPrice x.zone bars (x.decisionAt day)).bind (fun price =>
        (x.levelsAt row col price).map (fun levels => (levels, bars))))
  else none

/-- The label of a planned bracket. -/
def label (planned : SetupLevels × List HourlyBar) (day : ℤ) : Except String BracketOutcome :=
  labelBracket x.zone planned.1 (x.decisionAt day) planned.2 x.spec.maxHoldSessions
    x.spec.decisionCostBps none

/-- One cell of the loop. -/
def cubeCell (row : ℕ) (col : Fin m) (day : ℤ) : Except String CubeCell :=
  match x.plan row col day with
  | none => .ok x.spec.unlabelled
  | some planned => do
    let outcome ← x.label planned day
    .ok (if outcome.hit = .immature then x.spec.unlabelled
      else ⟨true, outcome.r, outcome.rCost, outcome.holdingSessions, outcome.hit⟩)

/-- The cube of some cells. -/
def cubeOf (cells : ℕ → Fin m → CubeCell) : CubeView m where
  sessions := x.eligibility.sessions
  eligible := x.eligibility.eligible
  labelled row col := (cells row col).labelled
  rGross row col := (cells row col).rGross
  rCost row col := (cells row col).rCost
  holding row col := (cells row col).holding
  hit row col := (cells row col).hit
  tiebreak row col := x.tiebreakKey (x.eligibility.symbols col) (x.eligibility.sessions.getD row 0)

/-- The cells of some rows. -/
def cellAt (rows : List (List CubeCell)) (row : ℕ) (col : Fin m) : CubeCell :=
  (rows[row]?.bind (fun cells => cells[col.val]?)).getD x.spec.unlabelled

/-- **`build_cube`.** -/
def build : Except String (CubeView m) := do
  let rows ← x.eligibility.sessions.zipIdx.mapM (fun p =>
    (List.finRange m).mapM (fun col => x.cubeCell p.2 col p.1))
  .ok (x.cubeOf (x.cellAt rows))

end CubeInput

/-! ## Windows -/

namespace CubeView

variable (cube : CubeView m)

/-- `CubeView.sub`. -/
def sub (lo hi : ℕ) : CubeView m where
  sessions := (cube.sessions.take hi).drop lo
  eligible row col := cube.eligible (lo + row) col
  labelled row col := cube.labelled (lo + row) col
  rGross row col := cube.rGross (lo + row) col
  rCost row col := cube.rCost (lo + row) col
  holding row col := cube.holding (lo + row) col
  hit row col := cube.hit (lo + row) col
  tiebreak row col := cube.tiebreak (lo + row) col

/-- `bisect_left(sessions, start)`. -/
def windowFrom (start : ℤ) : ℕ := (cube.sessions.takeWhile (fun day => decide (day < start))).length

/-- `bisect_right(sessions, stop)`. -/
def windowTo (stop : ℤ) : ℕ := (cube.sessions.takeWhile (fun day => decide (day ≤ stop))).length

/-- **`LabelCube.window`.** -/
def window (start stop : ℤ) : Except String (CubeView m) := do
  refuse (decide (stop < start) || decide (cube.windowTo stop ≤ cube.windowFrom start))
    ("no cube session in " ++ toString start ++ ".." ++ toString stop)
  .ok (cube.sub (cube.windowFrom start) (cube.windowTo stop))

end CubeView

/-! ## `session_table` -/

/-- The `column` a table is of. -/
inductive ReturnColumn where
  | rCost
  | rGross
  deriving DecidableEq

/-- A pick that counts. -/
structure PickRow (m : ℕ) where
  sessionIdx : ℕ
  symbolIdx : Fin m
  rGross : Option ℚ
  rCost : Option ℚ
  hit : BracketHit
  holding : ℤ
  controlMean : Option ℚ
  residual : Option ℚ

/-- **`SessionTable`.** -/
structure SessionTable (m : ℕ) where
  sessions : List ℤ
  pickSum : List ℚ
  pickN : List ℕ
  controlMean : List (Option ℚ)
  edge : List (Option ℚ)
  pickRows : List (PickRow m)
  droppedUnlabelled : ℕ
  droppedPurged : ℕ

namespace CubeView

variable (view : CubeView m) (purge : Bool) (column : ReturnColumn)

/-- `getattr(view, column)`. -/
def values (row : ℕ) (col : Fin m) : Option ℚ :=
  match column with
  | .rCost => view.rCost row col
  | .rGross => view.rGross row col

/-- A cell whose label counts: the row it exits at is one of the view's, where the table
purges. -/
def usable (row : ℕ) (col : Fin m) : Bool :=
  view.labelled row col
    && (!purge || decide ((row : ℤ) + view.holding row col - 1 ≤ (view.sessions.length : ℤ) - 1))

/-- The cells of a session that the control is the mean of. -/
def controlCells (row : ℕ) : List (Fin m) := (List.finRange m).filter (view.usable purge row)

/-- The mean of some values, or NaN. -/
def meanOf (values : List ℚ) : Option ℚ :=
  if values.isEmpty then none else some (values.sum / values.length)

def controlMean (row : ℕ) : Option ℚ :=
  meanOf ((view.controlCells purge row).map (fun col => (view.values column row col).getD 0))

/-- The row of a pick. -/
def pickRow (pick : ℕ × Fin m) : PickRow m where
  sessionIdx := pick.1
  symbolIdx := pick.2
  rGross := view.rGross pick.1 pick.2
  rCost := view.rCost pick.1 pick.2
  hit := view.hit pick.1 pick.2
  holding := view.holding pick.1 pick.2
  controlMean := view.controlMean purge column pick.1
  residual := (view.values column pick.1 pick.2).bind (fun value =>
    (view.controlMean purge column pick.1).map (fun mean => value - mean))

/-- The values of the picks of a session that count. -/
def pickValues (picks : Picks m) (row : ℕ) : List ℚ :=
  (picks.filter (fun pick => pick.1 == row && view.usable purge pick.1 pick.2)).map
    (fun pick => (view.values column pick.1 pick.2).getD 0)

/-- The edge of a session: the mean of its picks over the control. -/
def edge (picks : Picks m) (row : ℕ) : Option ℚ :=
  (meanOf (view.pickValues purge column picks row)).bind (fun mean =>
    (view.controlMean purge column row).map (fun control => mean - control))

/-- **`session_table`.** -/
def sessionTable (picks : Picks m) : SessionTable m where
  sessions := view.sessions
  pickSum := (List.range view.sessions.length).map (fun row =>
    (view.pickValues purge column picks row).sum)
  pickN := (List.range view.sessions.length).map (fun row =>
    (view.pickValues purge column picks row).length)
  controlMean := (List.range view.sessions.length).map (view.controlMean purge column)
  edge := (List.range view.sessions.length).map (view.edge purge column picks)
  pickRows := (picks.filter (fun pick => view.usable purge pick.1 pick.2)).map
    (view.pickRow purge column)
  droppedUnlabelled := (picks.filter (fun pick => !view.labelled pick.1 pick.2)).length
  droppedPurged := (picks.filter (fun pick =>
    view.labelled pick.1 pick.2 && !view.usable purge pick.1 pick.2)).length

end CubeView

end AgenticTrader
