import Mathlib
import AgenticTrader.Alpha.Causality
import AgenticTrader.Library.Ascending
import AgenticTrader.Library.LocalTime

/-!
# Reading a score before the decision

A pooled formula is evaluated over all the bars of a symbol, and one of its values is read for
each session (`research/pooled/formula.py`). `evaluate_prepared` reads a daily series at the
trading day before the session. `evaluate_prepared_hourly` reads an hourly series at one of the
last bars that closed by the decision.

An expression is causal, so what matters is where its series is read: not after the bars that
were over by then. Two sets of bars that agree on those have the same value there
(`evaluate_congr`), whatever else they hold.
-/


namespace AgenticTrader

variable {K : Type} [Field K] [LinearOrder K]

/-! ## The readers -/

/-- **The trading days**, sorted. -/
structure TradingDays where
  days : List ℤ
  ascending : days.Pairwise (· < ·)

/-- The session a score of another is read at: the trading day before, or none (`NaT`) before
the first. -/
def TradingDays.previous (trading : TradingDays) (day : ℤ) : Except String (Option ℤ) :=
  match trading.days.findIdx? (· == day) with
  | none => .error "KeyError"
  | some 0 => .ok none
  | some (i + 1) => .ok trading.days[i]?

/-- `series.reindex`, at one label. -/
def reindex {n : ℕ} (index : Fin n → Time) (series : Fin n → Option K) (label : Option Time) :
    Option K :=
  (label.bind (fun t => (List.finRange n).find? (fun i => index i == t))).bind series

/-- **The loop of both readers**: a column of values for each symbol, read at some labels, and NaN
where the symbol has no bars. -/
def panelOf {L : Type} (text : PythonText) (fn : Elementary K) (expression : String)
    (prepared : String → Option (DataFrame K)) (symbols : List String) (labels : List L)
    (read : (keyed : DataFrame K) → (Fin keyed.length → Option K) → L → Option K) :
    Except String (List (List (Option K))) :=
  symbols.mapM (fun symbol =>
    match prepared symbol with
    | none => .ok (labels.map (fun _ => none))
    | some keyed => do
      let series ← evaluate text fn expression keyed
      .ok (labels.map (read keyed series)))

/-- **`evaluate_prepared`.** -/
def evaluatePrepared (text : PythonText) (fn : Elementary K) (expression : String)
    (prepared : String → Option (DataFrame K)) (trading : TradingDays) (sessions : List ℤ)
    (symbols : List String) : Except String (List (List (Option K))) := do
  let previous ← sessions.mapM trading.previous
  panelOf text fn expression prepared symbols previous
    (fun keyed series label => reindex keyed.index series label)

/-- **The clock of the decision**, `HH:MM` in New York. -/
structure DecisionClock where
  hour : ℕ
  minute : ℕ
  hour_lt : hour < 24
  minute_lt : minute < 60

/-- `_decision_instants`, of one session. -/
def DecisionClock.instant (clock : DecisionClock) (zone : Zone) (day : ℤ) : Time :=
  zone.ofLocal (Zone.combine day (clock.hour * Zone.hour + clock.minute * Zone.minute))

/-- `searchsorted(closes, instant, side="right")`: how many bars closed by then. -/
def closedBy {n : ℕ} (index : Fin n → Time) (instant : Time) : ℕ :=
  ((List.finRange n).takeWhile (fun i => decide (index i + Zone.hour ≤ instant))).length

/-- One cell of `evaluate_prepared_hourly`. Only the last closed bar has to be of the day. -/
def hourlyCell {n : ℕ} (zone : Zone) (index : Fin n → Time) (series : Fin n → Option K)
    (barsBeforeDecision : ℤ) (instant : Time) (day : ℤ) : Option K :=
  let i := (closedBy index instant : ℤ) - barsBeforeDecision
  if i < 0 then none
  else if h : i.toNat < n then
    if barsBeforeDecision = 1 ∧ zone.date (index ⟨i.toNat, h⟩) ≠ day then none
    else series ⟨i.toNat, h⟩
  else none

/-- **`evaluate_prepared_hourly`.** -/
def evaluatePreparedHourly (text : PythonText) (fn : Elementary K) (zone : Zone)
    (expression : String) (prepared : String → Option (DataFrame K)) (sessions : List ℤ)
    (symbols : List String) (clock : DecisionClock) (barsBeforeDecision : ℤ) :
    Except String (List (List (Option K))) := do
  refuse (decide (barsBeforeDecision < 1)) "bars_before_decision must be at least 1"
  panelOf text fn expression prepared symbols sessions (fun keyed series day =>
    hourlyCell zone keyed.index series barsBeforeDecision (clock.instant zone day) day)

/-- The value of a symbol for a session, by their positions. -/
def panelCell (panel : List (List (Option K))) (row col : ℕ) : Option (Option K) :=
  panel[col]?.bind (fun column => column[row]?)

/-! ## What was over -/

/-- The bars of a frame with their times. -/
def DataFrame.bars (frame : DataFrame K) : List (Time × List (Reading K)) :=
  List.ofFn (fun i => (frame.index i, frame.row i))

/-- **Two sets of bars of a symbol agree on what was past.** A symbol may have none. -/
structure SamePast (past : Time → Bool) (F G : Option (DataFrame K)) : Prop where
  columns : ∀ f ∈ F, ∀ g ∈ G, f.columns = g.columns
  bars : (F.elim [] DataFrame.bars).filter (fun bar => past bar.1)
    = (G.elim [] DataFrame.bars).filter (fun bar => past bar.1)

omit [Field K] [LinearOrder K] in
theorem SamePast.symm {past : Time → Bool} {F G : Option (DataFrame K)} (h : SamePast past F G) :
    SamePast past G F :=
  ⟨fun g hg f hf => (h.columns f hf g hg).symm, h.bars.symm⟩

/-- Before a past time is past. -/
def Closing (past : Time → Bool) : Prop := ∀ s t, s ≤ t → past t = true → past s = true

namespace DataFrame

/-- The bars of a frame are in order. -/
def Ordered (frame : DataFrame K) : Prop :=
  ∀ i j : Fin frame.length, i < j → frame.index i < frame.index j

variable {f g : DataFrame K} {past : Time → Bool}

omit [Field K] [LinearOrder K] in
theorem length_bars (f : DataFrame K) : f.bars.length = f.length := List.length_ofFn

omit [Field K] [LinearOrder K] in
theorem getElem_bars {i : ℕ} (h : i < f.length) (hb : i < f.bars.length) :
    f.bars[i] = (f.index ⟨i, h⟩, f.row ⟨i, h⟩) :=
  List.getElem_ofFn _

omit [Field K] [LinearOrder K] in
theorem pairwise_bars (hf : f.Ordered) (hpast : Closing past) :
    f.bars.Pairwise (fun a b => past b.1 = true → past a.1 = true) := by
  unfold bars
  rw [List.pairwise_ofFn]
  exact fun i j hij => hpast _ _ (hf i j hij).le

omit [Field K] [LinearOrder K] in
/-- **A bar that was past in one frame is in the other**, at the same place and with the same
bars before it. -/
theorem bar_of_samePast (hpast : Closing past) (hf : f.Ordered) (hg : g.Ordered)
    (h : SamePast past (some f) (some g)) {i : ℕ} (hi : i < f.length)
    (hover : past (f.index ⟨i, hi⟩) = true) :
    ∃ hj : i < g.length, f.index ⟨i, hi⟩ = g.index ⟨i, hj⟩ ∧ f.row ⟨i, hi⟩ = g.row ⟨i, hj⟩ := by
  have hsame : f.bars.takeWhile (fun bar => past bar.1)
      = g.bars.takeWhile (fun bar => past bar.1) := by
    rw [Ascending.takeWhile_eq_filter (pairwise_bars hf hpast),
      Ascending.takeWhile_eq_filter (pairwise_bars hg hpast)]
    exact h.bars
  have hbi : i < f.bars.length := by rwa [length_bars]
  have hkept : i < (f.bars.takeWhile (fun bar => past bar.1)).length := by
    refine (Ascending.lt_length_takeWhile (pairwise_bars hf hpast) hbi).mpr ?_
    rw [getElem_bars hi]
    exact hover
  have hkept' : i < (g.bars.takeWhile (fun bar => past bar.1)).length := hsame ▸ hkept
  have hbj : i < g.bars.length := hkept'.trans_le (List.takeWhile_sublist _).length_le
  have hj : i < g.length := by rwa [length_bars] at hbj
  have hbar : f.bars[i] = g.bars[i] := by
    have htaken : f.bars.takeWhile (fun bar => past bar.1) <+: f.bars := List.takeWhile_prefix _
    have htaken' : g.bars.takeWhile (fun bar => past bar.1) <+: g.bars := List.takeWhile_prefix _
    rw [← htaken.getElem hkept, ← htaken'.getElem hkept']
    exact List.getElem_of_eq hsame hkept
  rw [getElem_bars hi, getElem_bars hj] at hbar
  exact ⟨hj, congrArg Prod.fst hbar, congrArg Prod.snd hbar⟩

end DataFrame

/-! ## Values at a past bar -/

section

variable {text : PythonText} {fn : Elementary K} {expression : String} {f g : DataFrame K}
  {past : Time → Bool}

/-- An evaluation that returned had a frame that can be evaluated. -/
theorem ready_of_evaluate {series : Fin f.length → Option K}
    (h : evaluate text fn expression f = .ok series) :
    ∃ compiled, compileExpression text expression = .ok compiled
      ∧ f.Ready text compiled.requiredFields := by
  unfold evaluate evaluateFields at h
  obtain ⟨compiled, hc, h⟩ := except_bind_eq_ok.mp h
  obtain ⟨fields, hfields, h⟩ := except_bind_eq_ok.mp h
  obtain ⟨compiled', hc', h⟩ := except_bind_eq_ok.mp h
  obtain ⟨hordered, h⟩ := refuse_bind_eq_ok.mp h
  obtain ⟨hmissing, -⟩ := refuse_bind_eq_ok.mp h
  unfold DataFrame.prepareDataFields at hfields
  obtain ⟨hdistinct, hfields⟩ := refuse_bind_eq_ok.mp hfields
  cases hfields
  refine ⟨compiled', hc', by simpa using hdistinct, by simpa using hordered, fun field hfield => ?_⟩
  rw [Bool.not_eq_false', List.isEmpty_iff, List.filter_eq_nil_iff] at hmissing
  simpa [Option.isSome_iff_ne_none] using hmissing field hfield

/-- **An expression has one value at a bar that was past**, whatever came after. -/
theorem evaluate_congr {series : Fin f.length → Option K} {series' : Fin g.length → Option K}
    (hf : evaluate text fn expression f = .ok series)
    (hg : evaluate text fn expression g = .ok series') (hpast : Closing past)
    (h : SamePast past (some f) (some g)) {i : ℕ} (hi : i < f.length)
    (hover : past (f.index ⟨i, hi⟩) = true) :
    ∃ hj : i < g.length, f.index ⟨i, hi⟩ = g.index ⟨i, hj⟩ ∧ series ⟨i, hi⟩ = series' ⟨i, hj⟩ := by
  obtain ⟨compiled, hc, hready⟩ := ready_of_evaluate hf
  obtain ⟨compiled', hc', hready'⟩ := ready_of_evaluate hg
  cases Except.ok.inj (hc.symm.trans hc')
  obtain ⟨hj, htime, -⟩ := DataFrame.bar_of_samePast hpast hready.ordered hready'.ordered h hi hover
  refine ⟨hj, htime, ?_⟩
  have hrows : Lookback.Matches ⊤ f.row ⟨i, hi⟩ g.row ⟨i, hj⟩ := by
    refine Lookback.matches_of_history rfl (fun k hk => ?_)
    have hbefore : f.index ⟨k, lt_of_le_of_lt hk hi⟩ ≤ f.index ⟨i, hi⟩ := by
      rcases Nat.eq_or_lt_of_le hk with rfl | hlt
      · exact le_rfl
      · exact (hready.ordered _ _ hlt).le
    exact (DataFrame.bar_of_samePast hpast hready.ordered hready'.ordered h _
      (hpast _ _ hbefore hover)).2.2
  have hvalue : (evaluate text fn expression f).map (fun values => values ⟨i, hi⟩)
      = (evaluate text fn expression g).map (fun values => values ⟨i, hj⟩) :=
    evaluate_of_matches hc hready hready' (h.columns f rfl g rfl) (fun _ => rfl) le_top hrows
  rw [hf, hg] at hvalue
  exact Except.ok.inj hvalue

end

/-! ## The daily read -/

/-- The trading day before a session is before it. -/
theorem TradingDays.previous_lt {trading : TradingDays} {day d : ℤ}
    (h : trading.previous day = .ok (some d)) : d < day := by
  unfold previous at h
  split at h
  · cases h
  · cases h
  · rename_i i hi
    have hd := Except.ok.inj h
    obtain ⟨hlt, hday, -⟩ := List.findIdx?_eq_some_iff_getElem.mp hi
    obtain ⟨hlt', hd⟩ := List.getElem?_eq_some_iff.mp hd
    rw [← hd, ← eq_of_beq hday]
    exact List.pairwise_iff_getElem.mp trading.ascending i (i + 1) hlt' hlt (Nat.lt_succ_self i)

omit [Field K] [LinearOrder K] in
theorem reindex_of_index {n : ℕ} {index : Fin n → Time} (horder : StrictMono index)
    {series : Fin n → Option K} {i : Fin n} {t : Time} (h : index i = t) :
    reindex index series (some t) = series i := by
  unfold reindex
  rw [Option.bind_some]
  have hfind : (List.finRange n).find? (fun i => index i == t) = some i := by
    obtain ⟨j, hj⟩ : ∃ j, (List.finRange n).find? (fun i => index i == t) = some j :=
      Option.isSome_iff_exists.mp (List.find?_isSome.mpr
        ⟨i, List.mem_finRange i, beq_iff_eq.mpr h⟩)
    have hsame : index j = index i := by
      rw [h]
      simpa using List.find?_some hj
    rw [hj, horder.injective hsame]
  rw [hfind, Option.bind_some]

omit [Field K] [LinearOrder K] in
theorem reindex_of_not {n : ℕ} {index : Fin n → Time} {series : Fin n → Option K} {t : Time}
    (h : ∀ i, index i ≠ t) : reindex index series (some t) = none := by
  unfold reindex
  rw [Option.bind_some, List.find?_eq_none.mpr (fun i _ => by simpa using h i), Option.bind_none]

section

variable {text : PythonText} {fn : Elementary K} {expression : String} {f g : DataFrame K}
  {past : Time → Bool}

omit [Field K] [LinearOrder K] in
/-- A symbol with no past bar. -/
theorem not_past_of_none (h : SamePast past none (some g)) (i : Fin g.length) :
    past (g.index i) = false := by
  have hnil : g.bars.filter (fun bar => past bar.1) = [] := h.bars.symm
  have hnot := List.filter_eq_nil_iff.mp hnil (g.index i, g.row i)
    (List.mem_ofFn.mpr ⟨i, rfl⟩)
  simpa using hnot

/-- **A daily series is read alike where the label was past.** -/
theorem reindex_congr {series : Fin f.length → Option K} {series' : Fin g.length → Option K}
    (hf : evaluate text fn expression f = .ok series)
    (hg : evaluate text fn expression g = .ok series') (hpast : Closing past)
    (h : SamePast past (some f) (some g)) {t : Time} (ht : past t = true) :
    reindex f.index series (some t) = reindex g.index series' (some t) := by
  obtain ⟨_, -, hready⟩ := ready_of_evaluate hf
  obtain ⟨_, -, hready'⟩ := ready_of_evaluate hg
  have hf' : StrictMono f.index := fun i j hij => hready.ordered i j hij
  have hg' : StrictMono g.index := fun i j hij => hready'.ordered i j hij
  by_cases hbar : ∃ i, f.index i = t
  · obtain ⟨i, hi⟩ := hbar
    obtain ⟨hj, htime, hvalue⟩ := evaluate_congr hf hg hpast h i.isLt (by rw [hi]; exact ht)
    rw [reindex_of_index hf' hi, reindex_of_index hg' (htime.symm.trans hi)]
    exact hvalue
  · have hnone : ∀ j, g.index j ≠ t := by
      intro j hj
      obtain ⟨hi, htime, -⟩ := evaluate_congr hg hf hpast h.symm j.isLt (by rw [hj]; exact ht)
      exact hbar ⟨⟨j, hi⟩, htime.symm.trans hj⟩
    rw [reindex_of_not (fun i hi => hbar ⟨i, hi⟩), reindex_of_not hnone]

omit [Field K] [LinearOrder K] in
/-- A symbol without past bars has no value at a past label. -/
theorem reindex_of_none {series : Fin g.length → Option K} (h : SamePast past none (some g))
    {t : Time} (ht : past t = true) : reindex g.index series (some t) = none := by
  refine reindex_of_not (fun i hi => ?_)
  rw [← hi, not_past_of_none h i] at ht
  cases ht

/-! ## The hourly read -/

/-- The bars that closed by then are past. -/
theorem past_of_lt_closedBy {n : ℕ} {index : Fin n → Time} (horder : StrictMono index)
    {instant : Time} {i : ℕ} (hi : i < n) :
    i < closedBy index instant ↔ index ⟨i, hi⟩ + Zone.hour ≤ instant := by
  have hsorted : (List.finRange n).Pairwise (fun a b =>
      decide (index b + Zone.hour ≤ instant) = true →
        decide (index a + Zone.hour ≤ instant) = true) := by
    refine (List.pairwise_lt_finRange n).imp (fun {a b} hab hb => decide_eq_true ?_)
    exact (Int.add_le_add_right (horder hab).le _).trans (of_decide_eq_true hb)
  have hlength : i < (List.finRange n).length := by rwa [List.length_finRange]
  unfold closedBy
  rw [Ascending.lt_length_takeWhile hsorted hlength, decide_eq_true_eq, List.getElem_finRange]
  rfl

theorem closedBy_le {n : ℕ} (index : Fin n → Time) (instant : Time) :
    closedBy index instant ≤ n := by
  have hle := (List.takeWhile_sublist (l := List.finRange n)
    (fun i => decide (index i + Zone.hour ≤ instant))).length_le
  rwa [List.length_finRange] at hle

omit [Field K] [LinearOrder K] in
/-- **As many bars closed in either frame.** -/
theorem closedBy_congr {instant : Time} (hf : f.Ordered) (hg : g.Ordered)
    (h : SamePast (fun t => decide (t + Zone.hour ≤ instant)) (some f) (some g)) :
    closedBy f.index instant = closedBy g.index instant := by
  have hpast : Closing (fun t => decide (t + Zone.hour ≤ instant)) := fun s t hst ht =>
    decide_eq_true ((Int.add_le_add_right hst _).trans (of_decide_eq_true ht))
  have hle : ∀ {f g : DataFrame K}, f.Ordered → g.Ordered →
      SamePast (fun t => decide (t + Zone.hour ≤ instant)) (some f) (some g) →
      closedBy f.index instant ≤ closedBy g.index instant := by
    intro f g hf hg h
    by_contra hlt
    have hlt := not_le.mp hlt
    have hi : closedBy g.index instant < f.length := hlt.trans_le (closedBy_le _ _)
    have hf' : StrictMono f.index := fun i j hij => hf i j hij
    have hg' : StrictMono g.index := fun i j hij => hg i j hij
    have hover := (past_of_lt_closedBy hf' hi).mp hlt
    obtain ⟨hj, htime, -⟩ := DataFrame.bar_of_samePast hpast hf hg h hi (decide_eq_true hover)
    rw [htime] at hover
    exact lt_irrefl _ ((past_of_lt_closedBy hg' hj).mpr hover)
  exact le_antisymm (hle hf hg h) (hle hg hf h.symm)

/-- **An hourly series is read alike** where the closed bars are the same. -/
theorem hourlyCell_congr {zone : Zone} {instant : Time} {day b : ℤ}
    {series : Fin f.length → Option K} {series' : Fin g.length → Option K}
    (hf : evaluate text fn expression f = .ok series)
    (hg : evaluate text fn expression g = .ok series') (hb : 1 ≤ b)
    (h : SamePast (fun t => decide (t + Zone.hour ≤ instant)) (some f) (some g)) :
    hourlyCell zone f.index series b instant day
      = hourlyCell zone g.index series' b instant day := by
  obtain ⟨_, -, hready⟩ := ready_of_evaluate hf
  obtain ⟨_, -, hready'⟩ := ready_of_evaluate hg
  have hpast : Closing (fun t => decide (t + Zone.hour ≤ instant)) := fun s t hst ht =>
    decide_eq_true ((Int.add_le_add_right hst _).trans (of_decide_eq_true ht))
  have hf' : StrictMono f.index := fun i j hij => hready.ordered i j hij
  have hcount := closedBy_congr hready.ordered hready'.ordered h
  unfold hourlyCell
  rw [hcount]
  by_cases hneg : (closedBy g.index instant : ℤ) - b < 0
  · rw [if_pos hneg, if_pos hneg]
  · have hlt : ((closedBy g.index instant : ℤ) - b).toNat < closedBy g.index instant := by omega
    have hclosed : ((closedBy g.index instant : ℤ) - b).toNat < closedBy f.index instant := by
      rwa [hcount]
    have hi := hclosed.trans_le (closedBy_le f.index instant)
    have hover := (past_of_lt_closedBy hf' hi).mp hclosed
    obtain ⟨hj, htime, hvalue⟩ := evaluate_congr hf hg hpast h hi (decide_eq_true hover)
    rw [if_neg hneg, if_neg hneg, dif_pos hi, dif_pos hj, htime, hvalue]

omit [Field K] [LinearOrder K] in
/-- A symbol without closed bars has no value. -/
theorem hourlyCell_of_none {zone : Zone} {instant : Time} {day b : ℤ}
    {series : Fin g.length → Option K} (hg : g.Ordered) (hb : 1 ≤ b)
    (h : SamePast (fun t => decide (t + Zone.hour ≤ instant)) none (some g)) :
    hourlyCell zone g.index series b instant day = none := by
  have hg' : StrictMono g.index := fun i j hij => hg i j hij
  have hzero : closedBy g.index instant = 0 := by
    by_contra hne
    have hpos : 0 < closedBy g.index instant := Nat.pos_of_ne_zero hne
    have hover := (past_of_lt_closedBy hg' (hpos.trans_le (closedBy_le _ _))).mp hpos
    exact of_decide_eq_false (not_past_of_none h _) hover
  unfold hourlyCell
  rw [hzero, if_pos (by omega)]

omit [Field K] [LinearOrder K] in
/-- **Where a value was read**: so many bars before the decision, and for the last one on the
day itself. -/
theorem of_hourlyCell {zone : Zone} {instant : Time} {day b : ℤ} (hf : f.Ordered)
    {series : Fin f.length → Option K} {v : K} (hb : 1 ≤ b)
    (h : hourlyCell zone f.index series b instant day = some v) :
    ∃ i, series i = some v ∧ (i.val : ℤ) + b = closedBy f.index instant
      ∧ f.index i + Zone.hour ≤ instant ∧ (b = 1 → zone.date (f.index i) = day) := by
  have hf' : StrictMono f.index := fun i j hij => hf i j hij
  unfold hourlyCell at h
  dsimp only at h
  split at h
  · cases h
  · split at h
    · rename_i hneg hi
      split at h
      · cases h
      · rename_i hday
        refine ⟨_, h, ?_, (past_of_lt_closedBy hf' hi).mp (by omega), fun hone => ?_⟩
        · show ((((closedBy f.index instant : ℤ) - b).toNat : ℕ) : ℤ) + b = closedBy f.index instant
          omega
        · by_contra hne
          exact hday ⟨hone, hne⟩
    · cases h

end

/-! ## Panels -/

section

variable {text : PythonText} {fn : Elementary K} {expression : String}
  {F G : String → Option (DataFrame K)} {symbols : List String}
  {panel panel' : List (List (Option K))}

section

variable {L : Type} {labels : List L}
  {read : (keyed : DataFrame K) → (Fin keyed.length → Option K) → L → Option K}

/-- A cell of a panel: of no symbol, of a symbol without bars, or read from its series. -/
theorem panelOf_cell (h : panelOf text fn expression F symbols labels read = .ok panel) {row : ℕ}
    {label : L} (hrow : labels[row]? = some label) (col : ℕ) :
    (symbols[col]? = none ∧ panelCell panel row col = none) ∨
    ∃ symbol, symbols[col]? = some symbol ∧
      ((F symbol = none ∧ panelCell panel row col = some none) ∨
        ∃ keyed series, F symbol = some keyed ∧ evaluate text fn expression keyed = .ok series
          ∧ panelCell panel row col = some (read keyed series label)) := by
  unfold panelCell
  rcases Checks.getElem?_of_mapM h col with ⟨hcol, hnone⟩ | ⟨symbol, column, hcol, hcolumn, hvalue⟩
  · exact Or.inl ⟨hcol, by rw [hnone, Option.bind_none]⟩
  refine Or.inr ⟨symbol, hcol, ?_⟩
  rw [hcolumn, Option.bind_some]
  split at hvalue
  · cases hvalue
    refine Or.inl ⟨‹_›, ?_⟩
    rw [List.getElem?_map, hrow, Option.map_some]
  · obtain ⟨series, hseries, hvalue⟩ := except_bind_eq_ok.mp hvalue
    cases hvalue
    refine Or.inr ⟨_, series, ‹_›, hseries, ?_⟩
    rw [List.getElem?_map, hrow, Option.map_some]

/-- **Two panels agree where what they read was past.** -/
theorem panelOf_congr {past : Time → Bool} {label : L}
    (hF : panelOf text fn expression F symbols labels read = .ok panel)
    (hG : panelOf text fn expression G symbols labels read = .ok panel') {row : ℕ}
    (hrow : labels[row]? = some label)
    (hread : ∀ f g series series', evaluate text fn expression f = .ok series →
      evaluate text fn expression g = .ok series' → SamePast past (some f) (some g) →
      read f series label = read g series' label)
    (hnone : ∀ g series, evaluate text fn expression g = .ok series →
      SamePast past none (some g) → read g series label = none)
    (h : ∀ symbol ∈ symbols, SamePast past (F symbol) (G symbol)) (col : ℕ) :
    panelCell panel row col = panelCell panel' row col := by
  rcases panelOf_cell hF hrow col with ⟨hcol, hcell⟩ | ⟨symbol, hcol, hcell⟩
  · rcases panelOf_cell hG hrow col with ⟨-, hcell'⟩ | ⟨_, hcol', -⟩
    · rw [hcell, hcell']
    · rw [hcol] at hcol'
      cases hcol'
  rcases panelOf_cell hG hrow col with ⟨hcol', -⟩ | ⟨_, hcol', hcell'⟩
  · rw [hcol] at hcol'
    cases hcol'
  cases Option.some.inj (hcol.symm.trans hcol')
  have hsame := h symbol (List.mem_of_getElem? hcol)
  rcases hcell with ⟨hf, hcell⟩ | ⟨f, series, hf, hseries, hcell⟩
  · rcases hcell' with ⟨-, hcell'⟩ | ⟨g, series', hg, hseries', hcell'⟩
    · rw [hcell, hcell']
    · rw [hf, hg] at hsame
      rw [hcell, hcell', hnone g series' hseries' hsame]
  · rcases hcell' with ⟨hg, hcell'⟩ | ⟨g, series', hg, hseries', hcell'⟩
    · rw [hf, hg] at hsame
      rw [hcell, hcell', hnone f series hseries hsame.symm]
    · rw [hf, hg] at hsame
      rw [hcell, hcell', hread f g series series' hseries hseries' hsame]

end

variable {sessions : List ℤ} {row : ℕ} {day : ℤ}

/-- **A daily score is known before its session.** -/
theorem evaluatePrepared_congr {trading : TradingDays}
    (hF : evaluatePrepared text fn expression F trading sessions symbols = .ok panel)
    (hG : evaluatePrepared text fn expression G trading sessions symbols = .ok panel')
    (hrow : sessions[row]? = some day)
    (h : ∀ symbol ∈ symbols, SamePast (fun t => decide (t < day)) (F symbol) (G symbol)) (col : ℕ) :
    panelCell panel row col = panelCell panel' row col := by
  obtain ⟨previous, hprevious, hF⟩ := except_bind_eq_ok.mp hF
  obtain ⟨previous', hprevious', hG⟩ := except_bind_eq_ok.mp hG
  cases Except.ok.inj (hprevious.symm.trans hprevious')
  rcases Checks.getElem?_of_mapM hprevious row with ⟨hnone, -⟩ | ⟨_, label, hday, hlabel, hlabelled⟩
  · rw [hrow] at hnone
    cases hnone
  cases Option.some.inj (hrow.symm.trans hday)
  have hpast : Closing (fun t => decide (t < day)) := fun s t hst ht =>
    decide_eq_true (hst.trans_lt (of_decide_eq_true ht))
  refine panelOf_congr hF hG hlabel ?_ ?_ h col
  · intro f g series series' hf hg hsame
    cases label with
    | none => rfl
    | some t =>
      exact reindex_congr hf hg hpast hsame (decide_eq_true (TradingDays.previous_lt hlabelled))
  · intro g series hg hsame
    cases label with
    | none => rfl
    | some t => exact reindex_of_none hsame (decide_eq_true (TradingDays.previous_lt hlabelled))

variable {zone : Zone} {clock : DecisionClock} {b : ℤ}

/-- **An hourly score is known at its decision.** -/
theorem evaluatePreparedHourly_congr
    (hF : evaluatePreparedHourly text fn zone expression F sessions symbols clock b = .ok panel)
    (hG : evaluatePreparedHourly text fn zone expression G sessions symbols clock b = .ok panel')
    (hrow : sessions[row]? = some day)
    (h : ∀ symbol ∈ symbols, SamePast (fun t => decide (t + Zone.hour ≤ clock.instant zone day))
      (F symbol) (G symbol)) (col : ℕ) :
    panelCell panel row col = panelCell panel' row col := by
  obtain ⟨hb, hF⟩ := refuse_bind_eq_ok.mp hF
  obtain ⟨-, hG⟩ := refuse_bind_eq_ok.mp hG
  have hb : 1 ≤ b := not_lt.mp (of_decide_eq_false hb)
  refine panelOf_congr hF hG hrow ?_ ?_ h col
  · exact fun f g series series' hf hg hsame => hourlyCell_congr hf hg hb hsame
  · intro g series hg hsame
    obtain ⟨_, -, hready⟩ := ready_of_evaluate hg
    exact hourlyCell_of_none hready.ordered hb hsame

/-- **Where an hourly score was read.** -/
theorem evaluatePreparedHourly_read
    (hF : evaluatePreparedHourly text fn zone expression F sessions symbols clock b = .ok panel)
    (hrow : sessions[row]? = some day) {col : ℕ} {symbol : String}
    (hcol : symbols[col]? = some symbol) {v : K} (hv : panelCell panel row col = some (some v)) :
    ∃ keyed series i, F symbol = some keyed ∧ evaluate text fn expression keyed = .ok series
      ∧ series i = some v ∧ (i.val : ℤ) + b = closedBy keyed.index (clock.instant zone day)
      ∧ keyed.index i + Zone.hour ≤ clock.instant zone day
      ∧ (b = 1 → zone.date (keyed.index i) = day) := by
  obtain ⟨hb, hF⟩ := refuse_bind_eq_ok.mp hF
  have hb : 1 ≤ b := not_lt.mp (of_decide_eq_false hb)
  rcases panelOf_cell hF hrow col with
    ⟨-, hcell⟩ | ⟨_, hcol', ⟨-, hcell⟩ | ⟨keyed, series, hkeyed, hseries, hcell⟩⟩
  · rw [hv] at hcell
    cases hcell
  · rw [hv] at hcell
    cases hcell
  cases Option.some.inj (hcol.symm.trans hcol')
  obtain ⟨_, -, hready⟩ := ready_of_evaluate hseries
  obtain ⟨i, hi⟩ := of_hourlyCell hready.ordered hb
    (Option.some.inj (hcell.symm.trans hv))
  exact ⟨keyed, series, i, hkeyed, hseries, hi⟩

end

/-- **A score uses what was closed by its decision.** A daily score of a session is the same for
any bars that agree on those dated before it. An hourly score is the same for any that agree on
the bars that closed by its decision. And an hourly score that is not NaN was read at the bar so
many before the decision, which had closed by then, and which for the last one is of the
session's own date in New York. -/
theorem scores_read_the_past (text : PythonText) (fn : Elementary K) (zone : Zone)
    (expression : String) (sessions : List ℤ) (symbols : List String) (row : ℕ) (day : ℤ)
    (hrow : sessions[row]? = some day) (col : ℕ) :
    (∀ trading F G panel panel',
      evaluatePrepared text fn expression F trading sessions symbols = .ok panel →
      evaluatePrepared text fn expression G trading sessions symbols = .ok panel' →
      (∀ symbol ∈ symbols, SamePast (fun t => decide (t < day)) (F symbol) (G symbol)) →
      panelCell panel row col = panelCell panel' row col)
    ∧ ∀ (clock : DecisionClock) b F panel,
      evaluatePreparedHourly text fn zone expression F sessions symbols clock b = .ok panel →
      (∀ G panel',
        evaluatePreparedHourly text fn zone expression G sessions symbols clock b = .ok panel' →
        (∀ symbol ∈ symbols, SamePast (fun t => decide (t + Zone.hour ≤ clock.instant zone day))
          (F symbol) (G symbol)) →
        panelCell panel row col = panelCell panel' row col)
      ∧ ∀ symbol v, symbols[col]? = some symbol → panelCell panel row col = some (some v) →
        ∃ keyed series i, F symbol = some keyed ∧ evaluate text fn expression keyed = .ok series
          ∧ series i = some v ∧ (i.val : ℤ) + b = closedBy keyed.index (clock.instant zone day)
          ∧ keyed.index i + Zone.hour ≤ clock.instant zone day
          ∧ (b = 1 → zone.date (keyed.index i) = day) := by
  refine ⟨fun trading F G panel panel' hF hG h => evaluatePrepared_congr hF hG hrow h col,
    fun clock b F panel hF => ⟨fun G panel' hG h => ?_, fun symbol v hcol hv => ?_⟩⟩
  · exact evaluatePreparedHourly_congr hF hG hrow h col
  · exact evaluatePreparedHourly_read hF hrow hcol hv

/-! ### A bar of the day before -/

/-- A language of one expression, the close. -/
def closeText : PythonText where
  parse source := if source = "close" then some (.name "close") else none
  lower := id

/-- The zone whose clocks show the instant itself. -/
def plainZone : Zone := ⟨id, id⟩

/-- 10:35. -/
def morningClock : DecisionClock := ⟨10, 35, by decide, by decide⟩

/-- The last bar of one day, at 15:00, and the first of the next, at 9:00. -/
def nightBars : DataFrame ℚ where
  length := 2
  index i := if i.val = 0 then 15 * Zone.hour else Zone.day + 9 * Zone.hour
  columns := ["close"]
  bar i _ := .num (if i.val = 0 then 106 else 107)

/-- Their closes. -/
def nightCloses (i : Fin nightBars.length) : Option ℚ := some (if i.val = 0 then 106 else 107)

theorem nightBars_evaluate :
    evaluate closeText sampleElementary "close" nightBars = .ok nightCloses := by
  have hc : compileExpression closeText "close" = .ok ⟨.name "close", [.close], (1, 0), 0⟩ := by rfl
  have hready : nightBars.Ready closeText [.close] := by
    refine ⟨by decide, by decide, fun field hfield => ?_⟩
    rw [List.mem_singleton.mp hfield]
    rfl
  rw [evaluate_eq hc hready]
  exact congrArg Except.ok (funext fun _ => rfl)

/-- The reads of both sessions. -/
theorem nightBars_panel (b : ℤ) (hb : ¬ b < 1) :
    evaluatePreparedHourly closeText sampleElementary plainZone "close" (fun _ => some nightBars)
        [0, 1] ["AAA"] morningClock b
      = .ok [[
        hourlyCell plainZone nightBars.index nightCloses b (morningClock.instant plainZone 0) 0,
        hourlyCell plainZone nightBars.index nightCloses b
          (morningClock.instant plainZone 1) 1]] := by
  unfold evaluatePreparedHourly panelOf
  rw [decide_eq_false hb, List.mapM_cons, List.mapM_nil]
  simp only [nightBars_evaluate]
  rfl

/-- The same bars, and one more of the day, at 14:00. -/
def laterBars : DataFrame ℚ where
  length := 3
  index i :=
    if i.val = 0 then 15 * Zone.hour else Zone.day + (if i.val = 1 then 9 else 14) * Zone.hour
  columns := ["close"]
  bar i _ := .num (if i.val = 0 then 106 else if i.val = 1 then 107 else 999)

/-- The first bar of the day, read as the last one before its decision. The bar after the decision
changes nothing. -/
theorem scores_read_the_past_night :
    ∃ panel, evaluatePreparedHourly closeText sampleElementary plainZone "close"
        (fun _ => some nightBars) [0, 1] ["AAA"] morningClock 1 = .ok panel
      ∧ panelCell panel 1 0 = some (some 107)
      ∧ nightBars.index (1 : Fin 2) + Zone.hour ≤ morningClock.instant plainZone 1
      ∧ plainZone.date (nightBars.index (1 : Fin 2)) = 1
      ∧ ∀ panel', evaluatePreparedHourly closeText sampleElementary plainZone "close"
          (fun _ => some laterBars) [0, 1] ["AAA"] morningClock 1 = .ok panel' →
        panelCell panel' 1 0 = some (some 107) := by
  have hpanel := nightBars_panel 1 (by decide)
  have hcell : panelCell [[hourlyCell plainZone nightBars.index nightCloses 1
      (morningClock.instant plainZone 0) 0, hourlyCell plainZone nightBars.index nightCloses 1
        (morningClock.instant plainZone 1) 1]] 1 0 = some (some 107) := by decide
  obtain ⟨hcausal, hread⟩ := (scores_read_the_past closeText sampleElementary plainZone "close"
    [0, 1] ["AAA"] 1 1 rfl 0).2 morningClock 1 _ _ hpanel
  obtain ⟨keyed, series, i, hkeyed, -, -, hlast, hclosed, hday⟩ := hread "AAA" 107 rfl hcell
  cases hkeyed
  have hboth : closedBy nightBars.index (morningClock.instant plainZone 1) = 2 := by decide
  have hi : i = (1 : Fin 2) := Fin.ext (show i.val = 1 by omega)
  subst hi
  refine ⟨_, hpanel, hcell, hclosed, hday rfl, fun panel' hpanel' => ?_⟩
  rw [← hcausal _ panel' hpanel' (fun symbol _ => ⟨?_, ?_⟩)]
  · exact hcell
  · rintro f ⟨⟩ g ⟨⟩
    rfl
  · decide

/-- **The bar before the last one may be of an earlier day.** Two bars before the decision on the
second day, the score is the last close of the first day. -/
theorem second_bar_of_day_before :
    ∃ panel, evaluatePreparedHourly closeText sampleElementary plainZone "close"
        (fun _ => some nightBars) [0, 1] ["AAA"] morningClock 2 = .ok panel
      ∧ panelCell panel 1 0 = some (some 106)
      ∧ evaluate closeText sampleElementary "close" nightBars = .ok nightCloses
      ∧ ∀ i, nightCloses i = some 106 → plainZone.date (nightBars.index i) ≠ 1 :=
  ⟨_, nightBars_panel 2 (by decide), by decide, nightBars_evaluate, by decide⟩

end AgenticTrader
