import Mathlib
import AgenticTrader.Library.Ascending
import AgenticTrader.Research.CubeBuild

/-!
# Windows that are purged by rows

`session_table` drops from a window the labels that exit after its last session, and
`select_picks` leaves a name alone until its bracket is over. Both add the holding of a label
to its row. The holding counts the dates on which the symbol itself had a bar, the rows count
the sessions of the cube, and a symbol may have no bar on some session: its label then exits
later than its row says. A bracket that is never over on its bars is given the longest holding,
and its name is free again after that many rows.

`CubeInput.InStep` is what the two clocks need, and `separateWindows_iff_inStep` says that it is
exact: whatever the window, the formula and its picks.
-/


namespace AgenticTrader

open Checks Ranking

variable {m : ℕ}

/-! ## What is asked of a cube -/

namespace CubeInput

variable (x : CubeInput m)

/-- The label of a cell exits by a date. -/
def ExitsBy (row : ℕ) (col : Fin m) (date : ℤ) : Prop :=
  ∃ day planned out t, x.eligibility.sessions[row]? = some day ∧ x.plan row col day = some planned
    ∧ x.label planned day = .ok out ∧ out.exitTime = some t ∧ x.zone.date t ≤ date

/-- The bracket of a cell, if one was planned, has exited before a date. -/
def GoneBefore (row : ℕ) (col : Fin m) (date : ℤ) : Prop :=
  ∀ day planned, x.eligibility.sessions[row]? = some day → x.plan row col day = some planned →
    ∃ out t, x.label planned day = .ok out ∧ out.exitTime = some t ∧ x.zone.date t < date

end CubeInput

/-- A purged table counts a cell, for the control or as a pick. -/
def CubeView.Counts (view : CubeView m) (column : ReturnColumn) (picks : Picks m) (row : ℕ)
    (col : Fin m) : Prop :=
  row < view.sessions.length ∧ (col ∈ view.controlCells true row
    ∨ ∃ r ∈ (view.sessionTable true column picks).pickRows, r.sessionIdx = row ∧ r.symbolIdx = col)

/-- **The windows of a cube are separate**: what a purged table of a window counts has exited by
its last session, and a name is not picked while a bracket it was picked with in the window is
open. -/
structure CubeInput.SeparateWindows (x : CubeInput m) (cube : CubeView m) : Prop where
  purged : ∀ start stop view, cube.window start stop = .ok view →
    ∀ column picks row col, view.Counts column picks row col →
    ∀ last, view.sessions.getLast? = some last → x.ExitsBy (cube.windowFrom start + row) col last
  held : ∀ start stop view, cube.window start stop = .ok view →
    ∀ scores allowed k, ∀ i j col, i < j →
    (i, col) ∈ selectPicks scores allowed view k view.sessions.length →
    (j, col) ∈ selectPicks scores allowed view k view.sessions.length →
    ∀ day, view.sessions[j]? = some day → x.GoneBefore (cube.windowFrom start + i) col day

/-! ## The two clocks -/

namespace CubeInput

variable (x : CubeInput m)

/-- The sessions of the cube from a row on that lie before a date. -/
def sessionsBefore (row : ℕ) (date : ℤ) : ℕ :=
  ((x.eligibility.sessions.drop row).filter (fun day => decide (day < date))).length

/-- The bars a planned bracket is over within. -/
def bracketBars (planned : SetupLevels × List HourlyBar) (day : ℤ) : List HourlyBar :=
  barsSince x.zone (x.decisionAt day) planned.2

/-- The bar a planned bracket is over at. -/
def overAt (planned : SetupLevels × List HourlyBar) (day : ℤ) : Option HourlyBar :=
  exitBar x.zone planned.1 x.spec.maxHoldSessions (x.bracketBars planned day)

/-- **The two clocks keep step.** Before a planned bracket is over, its symbol had bars on as many
dates as the cube has sessions; and the symbol of one that is never over is not eligible again
after the sessions it may be held. -/
structure InStep : Prop where
  exits : ∀ row day, x.eligibility.sessions[row]? = some day →
    ∀ col planned, x.plan row col day = some planned → ∀ bar, x.overAt planned day = some bar →
    x.sessionsBefore row (x.zone.date bar.time)
      ≤ tradedBefore x.zone (x.bracketBars planned day) (x.zone.date bar.time)
  stays : ∀ row day, x.eligibility.sessions[row]? = some day →
    ∀ col planned, x.plan row col day = some planned → x.overAt planned day = none →
    ∀ later < x.eligibility.sessions.length, (row : ℤ) + x.spec.maxHoldSessions ≤ later →
    x.eligibility.eligible later col = false

/-! ## What was built -/

variable {x}

/-- A plan is a long bracket over bars in order, of an eligible cell. -/
theorem plan_spec {row : ℕ} {col : Fin m} {day : ℤ} {planned : SetupLevels × List HourlyBar}
    (h : x.plan row col day = some planned) :
    x.eligibility.eligible row col = true ∧ planned.1.direction = .long
      ∧ planned.2.Pairwise (fun a b => a.time < b.time) := by
  unfold plan at h
  split at h
  · obtain ⟨bars, hbars, h⟩ := Option.bind_eq_some_iff.mp h
    obtain ⟨price, -, h⟩ := Option.bind_eq_some_iff.mp h
    obtain ⟨levels, hlevels, h⟩ := Option.map_eq_some_iff.mp h
    cases h
    refine ⟨‹_›, ?_, ?_⟩
    · unfold levelsAt at hlevels
      split at hlevels
      · split at hlevels
        · cases hlevels
          rfl
        · cases hlevels
      · cases hlevels
    · obtain ⟨frame, -, rfl⟩ := Option.map_eq_some_iff.mp hbars
      exact (hourlyFrame_sorted frame).filter _
  · cases h

/-- **What a cell holds**: nothing of a bracket that was not planned, the label of one that is
over, and the default of one that is not. -/
inductive CellOf (x : CubeInput m) (row : ℕ) (col : Fin m) (day : ℤ) (cell : CubeCell) : Prop
  | unplanned (hplan : x.plan row col day = none) (hlabelled : cell.labelled = false)
      (hholding : cell.holding = x.spec.maxHoldSessions)
  | ended {planned : SetupLevels × List HourlyBar} {out : BracketOutcome} {bar : HourlyBar}
      (hplan : x.plan row col day = some planned) (hlabel : x.label planned day = .ok out)
      (hbar : x.overAt planned day = some bar) (hexit : out.exitTime = some bar.time)
      (hlabelled : cell.labelled = true)
      (hholding : cell.holding
        = tradedBefore x.zone (x.bracketBars planned day) (x.zone.date bar.time) + 1)
  | stays {planned : SetupLevels × List HourlyBar} {out : BracketOutcome}
      (hplan : x.plan row col day = some planned) (hlabel : x.label planned day = .ok out)
      (hbar : x.overAt planned day = none) (hexit : out.exitTime = none)
      (hlabelled : cell.labelled = false) (hholding : cell.holding = x.spec.maxHoldSessions)

theorem cellOf (hzone : Monotone x.zone.date) {row : ℕ} {col : Fin m} {day : ℤ} {cell : CubeCell}
    (h : x.cubeCell row col day = .ok cell) : CellOf x row col day cell := by
  unfold cubeCell at h
  split at h
  · cases h
    exact .unplanned ‹_› rfl rfl
  · rename_i planned hplan
    obtain ⟨out, hlabel, h⟩ := except_bind_eq_ok.mp h
    obtain ⟨-, hlong, hsorted⟩ := plan_spec hplan
    rcases labelBracket_over hzone hlong hsorted x.spec.hold_pos hlabel with
      ⟨bar, hbar, hover⟩ | ⟨hbar, hopen⟩
    · rw [if_neg hover.resolved] at h
      cases h
      exact .ended hplan hlabel hbar hover.exitTime rfl hover.counted
    · rw [if_pos hopen.immature] at h
      cases h
      exact .stays hplan hlabel hbar hopen.exitTime rfl rfl

/-- **A built cube holds what each cell gave.** -/
theorem build_spec {cube : CubeView m} (h : x.build = .ok cube) :
    ∃ cells, cube = x.cubeOf cells ∧ ∀ row day, x.eligibility.sessions[row]? = some day →
      ∀ col, x.cubeCell row col day = .ok (cells row col) := by
  obtain ⟨rows, hrows, h⟩ := except_bind_eq_ok.mp h
  cases h
  refine ⟨x.cellAt rows, rfl, fun row day hday col => ?_⟩
  have hat : x.eligibility.sessions.zipIdx[row]? = some (day, row) := by
    rw [List.getElem?_zipIdx, hday, Option.map_some, Nat.zero_add]
  rcases Checks.getElem?_of_mapM hrows row with ⟨hnone, -⟩ | ⟨p, cells, hp, hcells, hrow⟩
  · rw [hat] at hnone
    cases hnone
  cases Option.some.inj (hat.symm.trans hp)
  have hcol : (List.finRange m)[col.val]? = some col := by
    rw [List.getElem?_eq_getElem (by rw [List.length_finRange]; exact col.isLt),
      List.getElem_finRange]
    rfl
  rcases Checks.getElem?_of_mapM hrow col.val with ⟨hnone, -⟩ | ⟨c, cell, hc, hcell, hvalue⟩
  · rw [hcol] at hnone
    cases hnone
  cases Option.some.inj (hcol.symm.trans hc)
  unfold cellAt
  rw [hcells, Option.bind_some, hcell, Option.getD_some]
  exact hvalue

end CubeInput

/-! ## Windows of a cube -/

namespace CubeView

variable {cube view : CubeView m} {start stop : ℤ} {row : ℕ} {day : ℤ}

/-- **A window is a range of the cube's sessions.** -/
structure RangeOf (cube view : CubeView m) (lo hi : ℕ) : Prop where
  eq : view = cube.sub lo hi
  lt : lo < hi
  le : hi ≤ cube.sessions.length

theorem range_of_window (h : cube.window start stop = .ok view) :
    RangeOf cube view (cube.windowFrom start) (cube.windowTo stop) := by
  obtain ⟨hrange, h⟩ := refuse_bind_eq_ok.mp h
  cases h
  rw [Bool.or_eq_false_iff, decide_eq_false_iff_not, decide_eq_false_iff_not] at hrange
  exact ⟨rfl, not_le.mp hrange.2, (List.takeWhile_sublist _).length_le⟩

/-- Any range of sessions is a window. -/
theorem window_of_range (hsorted : cube.sessions.Pairwise (· < ·)) {lo hi : ℕ} {first last : ℤ}
    (hlo : cube.sessions[lo]? = some first) (hhi : cube.sessions[hi]? = some last) (hle : lo ≤ hi) :
    cube.windowFrom first = lo ∧ cube.window first last = .ok (cube.sub lo (hi + 1)) := by
  obtain ⟨hlt, rfl⟩ := List.getElem?_eq_some_iff.mp hlo
  obtain ⟨hlt', rfl⟩ := List.getElem?_eq_some_iff.mp hhi
  have hkeys : cube.sessions.Pairwise (fun a b => id a < id b) := hsorted
  have hfrom : cube.windowFrom cube.sessions[lo] = lo := Ascending.length_takeWhile_lt hkeys hlt
  have hto : cube.windowTo cube.sessions[hi] = hi + 1 :=
    Ascending.length_takeWhile_le hkeys hlt'
  have hdays : cube.sessions[lo] ≤ cube.sessions[hi] := by
    rcases Nat.eq_or_lt_of_le hle with rfl | hlt''
    · exact le_rfl
    · exact (List.pairwise_iff_getElem.mp hsorted lo hi hlt hlt' hlt'').le
  refine ⟨hfrom, ?_⟩
  unfold window
  rw [hfrom, hto]
  refine refuse_bind_eq_ok.mpr ⟨?_, rfl⟩
  rw [Bool.or_eq_false_iff, decide_eq_false_iff_not, decide_eq_false_iff_not]
  omega

namespace RangeOf

variable {lo hi : ℕ} (h : RangeOf cube view lo hi)

include h

theorem length : view.sessions.length = hi - lo := by
  rw [h.eq]
  show ((cube.sessions.take hi).drop lo).length = hi - lo
  rw [List.length_drop, List.length_take, min_eq_left h.le]

theorem session (hrow : lo + row < hi) : view.sessions[row]? = cube.sessions[lo + row]? := by
  rw [h.eq]
  show ((cube.sessions.take hi).drop lo)[row]? = _
  rw [List.getElem?_drop, List.getElem?_take_of_lt hrow]

theorem last : view.sessions.getLast? = cube.sessions[hi - 1]? := by
  have hlt := h.lt
  rw [List.getLast?_eq_getElem?, h.length, h.session (by omega)]
  congr 1
  omega

end RangeOf

/-- What a purged table counts is usable. -/
theorem Counts.usable {column : ReturnColumn} {picks : Picks m} {col : Fin m}
    (h : view.Counts column picks row col) :
    row < view.sessions.length ∧ view.usable true row col = true := by
  obtain ⟨hrow, hcell | ⟨r, hr, rfl, rfl⟩⟩ := h
  · exact ⟨hrow, (List.mem_filter.mp hcell).2⟩
  · refine ⟨hrow, ?_⟩
    obtain ⟨pick, hpick, rfl⟩ := List.mem_map.mp hr
    exact (List.mem_filter.mp hpick).2

end CubeView

/-! ## In step -/

/-- A session's place bounds the dates before it. -/
theorem CubeInput.sessionsBefore_le {x : CubeInput m} {row n : ℕ} {date : ℤ} :
    x.sessionsBefore row date ≤ n
      ↔ ∀ day, x.eligibility.sessions[row + n]? = some day → date ≤ day := by
  unfold CubeInput.sessionsBefore
  have hdrop : (x.eligibility.sessions.drop row).Pairwise (fun a b => id a < id b) :=
    x.eligibility.ascending.sublist (List.drop_sublist _ _)
  rw [show (fun day => decide (day < date)) = (fun day : ℤ => decide (id day < date)) from rfl,
    Ascending.length_filter_lt_le hdrop, List.getElem?_drop]
  rfl

/-- A later place holds no earlier session. -/
theorem CubeInput.session_le {x : CubeInput m} {i j : ℕ} {a b : ℤ} (hij : i ≤ j)
    (ha : x.eligibility.sessions[i]? = some a) (hb : x.eligibility.sessions[j]? = some b) :
    a ≤ b := by
  obtain ⟨hi, rfl⟩ := List.getElem?_eq_some_iff.mp ha
  obtain ⟨hj, rfl⟩ := List.getElem?_eq_some_iff.mp hb
  rcases Nat.eq_or_lt_of_le hij with rfl | hlt
  · exact le_rfl
  · exact (List.pairwise_iff_getElem.mp x.eligibility.ascending i j hi hj hlt).le

theorem CubeInput.session_lt {x : CubeInput m} {i j : ℕ} {a b : ℤ} (hij : i < j)
    (ha : x.eligibility.sessions[i]? = some a) (hb : x.eligibility.sessions[j]? = some b) :
    a < b := by
  obtain ⟨hi, rfl⟩ := List.getElem?_eq_some_iff.mp ha
  obtain ⟨hj, rfl⟩ := List.getElem?_eq_some_iff.mp hb
  exact List.pairwise_iff_getElem.mp x.eligibility.ascending i j hi hj hij

/-- What is picked twice was free the second time. -/
theorem lt_of_picked_twice {scores : Scores m} {allowed : ℕ → Fin m → Bool} {view : CubeView m}
    {k sessions i j : ℕ} {col : Fin m} (hij : i < j)
    (hi : (i, col) ∈ selectPicks scores allowed view k sessions)
    (hj : (j, col) ∈ selectPicks scores allowed view k sessions) :
    j < sessions ∧ view.eligible j col = true ∧ (i : ℤ) + view.holding i col - 1 < j := by
  unfold selectPicks at hi hj
  rw [PickLoop.picks_after, mem_rows] at hi hj
  have havailable := (PickLoop.isBest_chosen j).mem_available col hj.2
  obtain ⟨hscored, hfree⟩ := PickLoop.mem_candidates.mp havailable
  unfold isScored at hscored
  rw [Bool.and_eq_true, Bool.and_eq_true] at hscored
  exact ⟨hj.1, hscored.1.2, (PickLoop.tracks j col le_rfl).mp hfree i hij hi.2⟩

section InStep

variable {x : CubeInput m} (hzone : Monotone x.zone.date) {cells : ℕ → Fin m → CubeCell}
  (hcells : ∀ row day, x.eligibility.sessions[row]? = some day →
    ∀ col, x.cubeCell row col day = .ok (cells row col)) {view : CubeView m} {lo hi : ℕ}
  (hview : CubeView.RangeOf (x.cubeOf cells) view lo hi) (hstep : x.InStep)

include hzone hcells hview hstep

/-- **What a purged table counts has exited by the last session.** -/
theorem exitsBy_of_counts {column : ReturnColumn} {picks : Picks m} {row : ℕ} {col : Fin m}
    (hcounts : view.Counts column picks row col) {last : ℤ}
    (hlast : view.sessions.getLast? = some last) : x.ExitsBy (lo + row) col last := by
  obtain ⟨hrow, husable⟩ := hcounts.usable
  rw [hview.length] at hrow
  have hle : hi ≤ x.eligibility.sessions.length := hview.le
  obtain ⟨day, hday⟩ : ∃ day, x.eligibility.sessions[lo + row]? = some day :=
    ⟨_, List.getElem?_eq_getElem (by omega)⟩
  unfold CubeView.usable at husable
  rw [hview.length, Bool.and_eq_true, Bool.or_eq_true, decide_eq_true_eq, hview.eq] at husable
  obtain ⟨hlabelled, hholding⟩ := husable
  replace hlabelled : (cells (lo + row) col).labelled = true := hlabelled
  replace hholding : (row : ℤ) + (cells (lo + row) col).holding - 1 ≤ ((hi - lo : ℕ) : ℤ) - 1 :=
    hholding.resolve_left (by simp)
  cases CubeInput.cellOf hzone (hcells _ _ hday col) with
  | unplanned hplan hunlabelled _ =>
    rw [hlabelled] at hunlabelled
    cases hunlabelled
  | stays hplan hlabel hbar hexit hunlabelled _ =>
    rw [hlabelled] at hunlabelled
    cases hunlabelled
  | @ended planned out bar hplan hlabel hbar hexit _ hcounted =>
    have hbefore := CubeInput.sessionsBefore_le.mp (hstep.exits _ _ hday _ _ hplan _ hbar)
    rw [hcounted] at hholding
    have hplace : lo + row + tradedBefore x.zone (x.bracketBars planned day)
        (x.zone.date bar.time) ≤ hi - 1 := by omega
    have hat := List.getElem?_eq_getElem (l := x.eligibility.sessions)
      (i := lo + row + tradedBefore x.zone (x.bracketBars planned day) (x.zone.date bar.time))
      (by omega)
    rw [hview.last] at hlast
    exact ⟨day, planned, out, bar.time, hday, hplan, hlabel, hexit,
      (hbefore _ hat).trans (CubeInput.session_le hplace hat hlast)⟩

/-- **A name that is picked again is out of its earlier bracket.** -/
theorem goneBefore_of_picked {scores : Scores m} {allowed : ℕ → Fin m → Bool} {k i j : ℕ}
    {col : Fin m} (hij : i < j)
    (hi' : (i, col) ∈ selectPicks scores allowed view k view.sessions.length)
    (hj' : (j, col) ∈ selectPicks scores allowed view k view.sessions.length) {later : ℤ}
    (hlater : view.sessions[j]? = some later) : x.GoneBefore (lo + i) col later := by
  obtain ⟨hj, heligible, hfree⟩ := lt_of_picked_twice hij hi' hj'
  rw [hview.length] at hj
  rw [hview.session (by omega)] at hlater
  rw [hview.eq] at heligible hfree
  replace heligible : x.eligibility.eligible (lo + j) col = true := heligible
  replace hfree : (i : ℤ) + (cells (lo + i) col).holding - 1 < j := hfree
  have hle : hi ≤ x.eligibility.sessions.length := hview.le
  intro day planned hday hplan
  cases CubeInput.cellOf hzone (hcells _ _ hday col) with
  | unplanned hnone _ _ =>
    rw [hplan] at hnone
    cases hnone
  | @ended planned' out bar hplan' hlabel hbar hexit _ hcounted =>
    cases Option.some.inj (hplan.symm.trans hplan')
    have hbefore := CubeInput.sessionsBefore_le.mp (hstep.exits _ _ hday _ _ hplan _ hbar)
    rw [hcounted] at hfree
    have hat := List.getElem?_eq_getElem (l := x.eligibility.sessions)
      (i := lo + i + tradedBefore x.zone (x.bracketBars planned day) (x.zone.date bar.time))
      (by omega)
    exact ⟨out, bar.time, hlabel, hexit,
      (hbefore _ hat).trans_lt (CubeInput.session_lt (by omega) hat hlater)⟩
  | @stays planned' out hplan' hlabel hbar hexit _ hheld =>
    -- It is never over, so the symbol is not eligible here.
    cases Option.some.inj (hplan.symm.trans hplan')
    rw [hheld] at hfree
    have hnot := hstep.stays _ _ hday _ _ hplan hbar (lo + j) (by omega) (by push_cast; omega)
    rw [heligible] at hnot
    cases hnot

end InStep

/-! ## Only in step -/

/-- Where one name alone is available and one is taken, it is picked. -/
theorem mem_chosen_of_alone {scores : Scores m} {allowed : ℕ → Fin m → Bool} {view : CubeView m}
    {row : ℕ} {col : Fin m}
    (hcol : col ∈ (PickLoop.after scores allowed view 1 row).candidates scores allowed view row)
    (halone : ∀ c ∈ (PickLoop.after scores allowed view 1 row).candidates scores allowed view row,
      c = col) : col ∈ PickLoop.chosen scores allowed view 1 row := by
  have hbest : IsBest (rankKey scores view row) 1 _ (PickLoop.chosen scores allowed view 1 row) :=
    PickLoop.isBest_chosen row
  cases hpicked : PickLoop.chosen scores allowed view 1 row with
  | nil =>
    rw [hpicked] at hbest
    exact hbest.complete Nat.one_pos col hcol
  | cons c rest =>
    rw [hpicked] at hbest
    rw [halone c (hbest.mem_available c List.mem_cons_self)]
    exact List.mem_cons_self

/-- The scores of one name on two rows. -/
def scoredTwice (later : ℕ) (col : Fin m) : Scores m := fun row c =>
  if c = col ∧ (row = 0 ∨ row = later) then .finite 0 else .nan

theorem eq_of_scoredTwice {allowed : ℕ → Fin m → Bool} {view : CubeView m} {later row : ℕ}
    {col c : Fin m} (h : isScored (scoredTwice later col) allowed view row c = true) :
    c = col ∧ (row = 0 ∨ row = later) := by
  unfold isScored scoredTwice at h
  rw [Bool.and_eq_true] at h
  by_contra hnot
  rw [if_neg hnot] at h
  cases h.2

/-- **A name that is free on two rows is picked on both**, where nothing else is scored. -/
theorem picked_twice (view : CubeView m) (later sessions : ℕ) (col : Fin m) (hlater : 0 < later)
    (hsessions : later < sessions) (hfirst : view.eligible 0 col = true)
    (hthen : view.eligible later col = true) (hfree : view.holding 0 col - 1 < later) :
    (0, col) ∈ selectPicks (scoredTwice later col) (fun _ _ => true) view 1 sessions ∧
      (later, col) ∈ selectPicks (scoredTwice later col) (fun _ _ => true) view 1 sessions := by
  have hscored : ∀ row, row = 0 ∨ row = later → view.eligible row col = true →
      isScored (scoredTwice later col) (fun _ _ => true) view row col = true := by
    intro row hrow heligible
    unfold isScored scoredTwice
    rw [if_pos ⟨rfl, hrow⟩, heligible]
    rfl
  have halone : ∀ row, ∀ c ∈ (PickLoop.after (scoredTwice later col) (fun _ _ => true) view 1
      row).candidates (scoredTwice later col) (fun _ _ => true) view row, c = col :=
    fun row c hc => (eq_of_scoredTwice (PickLoop.mem_candidates.mp hc).1).1
  unfold selectPicks
  rw [PickLoop.picks_after, mem_rows, mem_rows]
  refine ⟨⟨hlater.trans hsessions, mem_chosen_of_alone ?_ (halone 0)⟩,
    ⟨hsessions, mem_chosen_of_alone ?_ (halone later)⟩⟩
  · exact PickLoop.mem_candidates.mpr ⟨hscored 0 (.inl rfl) hfirst, by
      rw [PickLoop.tracks 0 col le_rfl]
      exact fun i hi => absurd hi (Nat.not_lt_zero i)⟩
  · refine PickLoop.mem_candidates.mpr ⟨hscored later (.inr rfl) hthen, ?_⟩
    rw [PickLoop.tracks later col le_rfl]
    intro i hi hpicked
    have hcandidate := (PickLoop.isBest_chosen i).mem_available col hpicked
    -- Only the first of the two rows comes before the second.
    rcases (eq_of_scoredTwice (PickLoop.mem_candidates.mp hcandidate).1).2 with rfl | rfl
    · rw [Nat.cast_zero]
      omega
    · exact absurd hi (lt_irrefl _)

/-- The range of sessions between two of them. -/
theorem rangeOf_sub {x : CubeInput m} (cells : ℕ → Fin m → CubeCell) {lo hi : ℕ} {last : ℤ}
    (hle : lo ≤ hi) (hlast : x.eligibility.sessions[hi]? = some last) :
    CubeView.RangeOf (x.cubeOf cells) ((x.cubeOf cells).sub lo (hi + 1)) lo (hi + 1) := by
  obtain ⟨hlt, -⟩ := List.getElem?_eq_some_iff.mp hlast
  exact ⟨rfl, Nat.lt_succ_of_le hle, hlt⟩

section OnlyInStep

variable {x : CubeInput m} (hzone : Monotone x.zone.date) {cells : ℕ → Fin m → CubeCell}
  (hcells : ∀ row day, x.eligibility.sessions[row]? = some day →
    ∀ col, x.cubeCell row col day = .ok (cells row col))
  (hseparate : x.SeparateWindows (x.cubeOf cells))

include hzone hcells hseparate

theorem exits_of_separate {row : ℕ} {day : ℤ} (hday : x.eligibility.sessions[row]? = some day)
    {col : Fin m} {planned : SetupLevels × List HourlyBar}
    (hplan : x.plan row col day = some planned)
    {bar : HourlyBar} (hbar : x.overAt planned day = some bar) :
    x.sessionsBefore row (x.zone.date bar.time)
      ≤ tradedBefore x.zone (x.bracketBars planned day) (x.zone.date bar.time) := by
  refine CubeInput.sessionsBefore_le.mpr fun last hlast => ?_
  have hsorted : (x.cubeOf cells).sessions.Pairwise (· < ·) := x.eligibility.ascending
  obtain ⟨hfrom, hwindow⟩ := CubeView.window_of_range hsorted hday hlast (Nat.le_add_right _ _)
  have hrange := rangeOf_sub cells (Nat.le_add_right row _) hlast
  cases CubeInput.cellOf hzone (hcells _ _ hday col) with
  | unplanned hnone _ _ =>
    rw [hplan] at hnone
    cases hnone
  | stays hplan' _ hnone _ _ _ =>
    cases Option.some.inj (hplan.symm.trans hplan')
    rw [hbar] at hnone
    cases hnone
  | @ended planned' out bar' hplan' hlabel hbar' hexit hlabelled hcounted =>
    cases Option.some.inj (hplan.symm.trans hplan')
    cases Option.some.inj (hbar.symm.trans hbar')
    -- The window that ends where the holding says counts the cell.
    have hcounts : ((x.cubeOf cells).sub row (row + tradedBefore x.zone
        (x.bracketBars planned day) (x.zone.date bar.time) + 1)).Counts .rCost [] 0 col := by
      refine ⟨by rw [hrange.length]; omega, Or.inl ?_⟩
      refine List.mem_filter.mpr ⟨List.mem_finRange col, ?_⟩
      unfold CubeView.usable
      rw [hrange.length, Bool.and_eq_true, Bool.or_eq_true, decide_eq_true_eq]
      refine ⟨hlabelled, Or.inr ?_⟩
      show ((0 : ℕ) : ℤ) + (cells (row + 0) col).holding - 1 ≤ _
      rw [Nat.add_zero, hcounted]
      push_cast
      omega
    obtain ⟨day', planned', out', t, hday', hplan'', hlabel', hexit', hle⟩ :=
      hseparate.purged day last _ hwindow .rCost [] 0 col hcounts last
        (by rw [hrange.last]; exact hlast)
    rw [hfrom, Nat.add_zero] at hday' hplan''
    cases Option.some.inj (hday.symm.trans hday')
    cases Option.some.inj (hplan.symm.trans hplan'')
    cases Except.ok.inj (hlabel.symm.trans hlabel')
    cases Option.some.inj (hexit.symm.trans hexit')
    exact hle

theorem stays_of_separate {row : ℕ} {day : ℤ} (hday : x.eligibility.sessions[row]? = some day)
    {col : Fin m} {planned : SetupLevels × List HourlyBar}
    (hplan : x.plan row col day = some planned)
    (hbar : x.overAt planned day = none) {later : ℕ}
    (hlater : later < x.eligibility.sessions.length)
    (hheld : (row : ℤ) + x.spec.maxHoldSessions ≤ later) :
    x.eligibility.eligible later col = false := by
  by_contra heligible
  rw [Bool.not_eq_false] at heligible
  have hpos := x.spec.hold_pos
  obtain ⟨gap, rfl⟩ : ∃ gap, later = row + gap := ⟨later - row, by omega⟩
  have hlast := List.getElem?_eq_getElem hlater
  have hsorted : (x.cubeOf cells).sessions.Pairwise (· < ·) := x.eligibility.ascending
  obtain ⟨hfrom, hwindow⟩ := CubeView.window_of_range hsorted hday hlast (Nat.le_add_right _ _)
  have hrange := rangeOf_sub cells (Nat.le_add_right row gap) hlast
  cases CubeInput.cellOf hzone (hcells _ _ hday col) with
  | unplanned hnone _ _ =>
    rw [hplan] at hnone
    cases hnone
  | ended hplan' _ hsome _ _ _ =>
    cases Option.some.inj (hplan.symm.trans hplan')
    rw [hbar] at hsome
    cases hsome
  | @stays planned' out hplan' hlabel _ hexit _ hholding =>
    cases Option.some.inj (hplan.symm.trans hplan')
    obtain ⟨hfirst, hthen⟩ := picked_twice ((x.cubeOf cells).sub row (row + gap + 1)) gap _ col
      (by omega) (show gap < ((x.cubeOf cells).sub row (row + gap + 1)).sessions.length by
        rw [hrange.length]
        omega)
      (CubeInput.plan_spec hplan).1 heligible (by
        show (cells (row + 0) col).holding - 1 < (gap : ℤ)
        rw [Nat.add_zero, hholding]
        push_cast at hheld
        omega)
    obtain ⟨out', t, hlabel', hexit', -⟩ := hseparate.held day _ _ hwindow _ _ 1 0 gap col
      (by omega) hfirst hthen _ (by rw [hrange.session (by omega)]; exact hlast) day planned
      (by rw [hfrom]; exact hday) (by rw [hfrom]; exact hplan)
    cases Except.ok.inj (hlabel.symm.trans hlabel')
    rw [hexit] at hexit'
    cases hexit'

end OnlyInStep

/-- **Windows are separate exactly where the clocks keep step.** -/
theorem separateWindows_iff_inStep (x : CubeInput m) (cube : CubeView m)
    (hbuild : x.build = .ok cube) (hzone : Monotone x.zone.date) :
    x.SeparateWindows cube ↔ x.InStep := by
  obtain ⟨cells, rfl, hcells⟩ := CubeInput.build_spec hbuild
  constructor
  · intro hseparate
    refine ⟨fun row day hday col planned hplan bar hbar => ?_,
      fun row day hday col planned hplan hbar later hlater hheld => ?_⟩
    · exact exits_of_separate hzone hcells hseparate hday hplan hbar
    · exact stays_of_separate hzone hcells hseparate hday hplan hbar hlater hheld
  · intro hstep
    refine ⟨fun start stop view hwindow column picks row col hcounts last hlast => ?_,
      fun start stop view hwindow scores allowed k i j col hij hi hj later hlater => ?_⟩
    · exact exitsBy_of_counts hzone hcells (CubeView.range_of_window hwindow) hstep hcounts hlast
    · exact goneBefore_of_picked hzone hcells (CubeView.range_of_window hwindow) hstep hij hi hj
        hlater

/-! ## A day without bars -/

/-- New York's clock in winter. -/
def cubeZone : Zone := ⟨(· - 5 * Zone.hour), (· + 5 * Zone.hour)⟩

theorem cubeZone_monotone : Monotone cubeZone.date := fun t t' h => by
  show (t - 5 * Zone.hour) / Zone.day ≤ (t' - 5 * Zone.hour) / Zone.day
  exact Int.ediv_le_ediv Zone.day_pos (by omega)

/-- The first three days of March 2021. -/
def marchDays : List ℤ := [18687, 18688, 18689]

theorem marchDays_ascending : marchDays.Pairwise (· < ·) := by decide

theorem cubeSpec_stop : (0 : ℚ) < 2 := by norm_num

theorem cubeSpec_target : (0 : ℚ) < 3 := by norm_num

theorem cubeSpec_hold : (1 : ℤ) ≤ 3 := by norm_num

theorem cubeSpec_cost : (0 : ℚ) ≤ 5 := by norm_num

/-- A decision at 10:35, a stop two ATR below, a target three times as far above, and at
most three sessions. -/
def cubeSpec : CubeSpec where
  decisionClock := 10 * Zone.hour + 35 * Zone.minute
  stopAtrMultiple := 2
  targetR := 3
  maxHoldSessions := 3
  decisionCostBps := 5
  stop_pos := cubeSpec_stop
  target_pos := cubeSpec_target
  hold_pos := cubeSpec_hold
  cost_nonneg := cubeSpec_cost

/-- One name, eligible on the first day, and its bars. -/
def oneName (bars : List HourlyBar) : CubeInput 1 where
  zone := cubeZone
  tiebreakKey _ _ := 0
  eligibility :=
    { sessions := marchDays
      symbols := fun _ => "AAA"
      eligible := fun row _ => row == 0
      atr := fun _ _ => .finite 1
      ascending := marchDays_ascending }
  hourly _ := some bars
  spec := cubeSpec

/-- A bar at an hour of a day, at one price. -/
def flatBar (day hour : ℤ) (price : ℚ) : HourlyBar :=
  ⟨cubeZone.ofLocal (Zone.combine day (hour * Zone.hour)), price, price, price, price⟩

/-- A bar on each day: the target is reached on the second. -/
def everyDay : CubeInput 1 :=
  oneName [flatBar 18687 9 100, flatBar 18687 11 100, flatBar 18688 9 106]

/-- No bar on the second day: the target is reached on the third. -/
def missingDay : CubeInput 1 :=
  oneName [flatBar 18687 9 100, flatBar 18687 11 100, flatBar 18689 9 106]

theorem exists_build {x : CubeInput m}
    (h : (match x.build with | .ok _ => true | .error _ => false) = true) :
    ∃ cube, x.build = .ok cube := by
  cases hbuild : x.build with
  | ok cube => exact ⟨cube, rfl⟩
  | error text =>
    rw [hbuild] at h
    cases h

theorem everyDay_inStep : everyDay.InStep := by
  have hfirst : (everyDay.plan 0 0 18687).all (fun planned =>
      (everyDay.overAt planned 18687).any fun bar =>
        decide (everyDay.sessionsBefore 0 (everyDay.zone.date bar.time)
          ≤ tradedBefore everyDay.zone (everyDay.bracketBars planned 18687)
            (everyDay.zone.date bar.time))) = true := by
    decide +kernel
  have honly : ∀ row day col planned, everyDay.eligibility.sessions[row]? = some day →
      everyDay.plan row col day = some planned → row = 0 ∧ day = 18687 := by
    intro row day col planned hday hplan
    have hrow : (row == 0) = true := (CubeInput.plan_spec hplan).1
    rw [beq_iff_eq] at hrow
    subst hrow
    exact ⟨rfl, (Option.some.inj hday).symm⟩
  refine ⟨fun row day hday col planned hplan bar hbar => ?_,
    fun row day hday col planned hplan hbar later hlater hheld => ?_⟩
  · obtain ⟨rfl, rfl⟩ := honly row day col planned hday hplan
    obtain rfl : col = 0 := Subsingleton.elim _ _
    rw [hplan, Option.all_some, hbar, Option.any_some, decide_eq_true_eq] at hfirst
    exact hfirst
  · obtain ⟨rfl, rfl⟩ := honly row day col planned hday hplan
    obtain rfl : col = 0 := Subsingleton.elim _ _
    rw [hplan, Option.all_some, hbar] at hfirst
    cases hfirst

/-- With a bar on every day the windows are separate. -/
theorem everyDay_separate : ∃ cube, everyDay.build = .ok cube ∧ everyDay.SeparateWindows cube := by
  obtain ⟨cube, hbuild⟩ := exists_build (x := everyDay) (by decide +kernel)
  exact ⟨cube, hbuild, (separateWindows_iff_inStep everyDay cube hbuild cubeZone_monotone).mpr
    everyDay_inStep⟩

/-- **A day without bars is not counted**: the label exits on the third session, and the
window of the first two counts it. -/
theorem missingDay_not_separate :
    ∃ cube, missingDay.build = .ok cube ∧ ¬missingDay.SeparateWindows cube := by
  obtain ⟨cube, hbuild⟩ := exists_build (x := missingDay) (by decide +kernel)
  refine ⟨cube, hbuild, fun hseparate => ?_⟩
  obtain ⟨cells, rfl, hcells⟩ := CubeInput.build_spec hbuild
  have hbehind : (missingDay.plan 0 0 18687).any (fun planned =>
      (missingDay.overAt planned 18687).any fun bar =>
        decide (tradedBefore missingDay.zone (missingDay.bracketBars planned 18687)
            (missingDay.zone.date bar.time)
          < missingDay.sessionsBefore 0 (missingDay.zone.date bar.time))) = true := by
    decide +kernel
  obtain ⟨planned, hplan, hbehind⟩ := (Option.any_eq_true _ _).mp hbehind
  obtain ⟨bar, hbar, hbehind⟩ := (Option.any_eq_true _ _).mp hbehind
  have hday : missingDay.eligibility.sessions[0]? = some 18687 := rfl
  have hstep := exits_of_separate cubeZone_monotone hcells hseparate hday hplan hbar
  exact absurd (of_decide_eq_true hbehind) (not_lt.mpr hstep)

end AgenticTrader
