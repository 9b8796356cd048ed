import Mathlib
import AgenticTrader.Market.BarConstruction

/-!
# Session bars are exact, checked and stable

What a construction that returned has checked is said once (`BuildSpec`). From it follows that
the range cut out for a window is every minute of the window (`BuildSpec.slice_eq`) and just the
rows the frame has there (`BuildSpec.within_eq`), so that a bar depends on its own minutes and
not on `as_of` (`BuildSpec.filled_eq`).

The validation enumerates minutes and windows up to the last observed minute. It finds the same
ones: a window that is over has its last minute among the observed (`BuildSpec.windows_at_stop`).
-/

namespace AgenticTrader

variable {clock : DayClock} {V : Type} [LinearOrder V] [AddCommMonoid V]

/-! ## What a construction returned -/

/-- A row of numbers of a minute. -/
def MinuteFrame.minuteBar (minutes : MinuteFrame V) (t : Time) : Option (OhlcvRow V) :=
  (minutes.rowAt t).map OhlcvRow.numbers

/-- **What `build_session_bars` checked and returned.** -/
structure BuildSpec (minutes : MinuteFrame V) (schedule : SessionSchedule clock)
    (timeframe : String) (frequency : Timeframe) (asOf : Time) (bars : SessionBars V clock) :
    Prop where
  duration : barDuration timeframe = some frequency
  ordered : (minutes.observations.filter
    (fun o => decide (o.time + executionBarDuration ≤ asOf))).Pairwise
      (fun o o' => o.time < o'.time)
  expected_ne : sessionExecutionMinutes schedule asOf ≠ []
  found : ∀ t ∈ sessionExecutionMinutes schedule asOf,
    ∃ o, minutes.rowAt t = some o ∧ o.isFinite = true
  execution_attrs : bars.execution.attrs = sessionAttrs minutes.attrs "1m"
  execution_rows : bars.execution.rows
    = (sessionExecutionMinutes schedule asOf).filterMap minutes.minuteBar
  signals_attrs : bars.signals.attrs = sessionAttrs minutes.attrs timeframe
  filled : List.Forall₂ (fun w bar => signalBar bars.execution.rows w = .ok bar)
    (closedWindows schedule frequency asOf) bars.signals.rows
  closedAt : bars.closedAt = (closedWindows schedule frequency asOf).map SignalBarWindow.closedAt
  schedule_eq : bars.schedule = schedule

section

variable {minutes : MinuteFrame V} {schedule : SessionSchedule clock} {timeframe : String}
  {asOf : Time} {bars : SessionBars V clock}

theorem build_spec (h : buildSessionBars minutes schedule timeframe asOf = .ok bars) :
    ∃ frequency, BuildSpec minutes schedule timeframe frequency asOf bars := by
  unfold buildSessionBars at h
  split at h
  · cases h
  rename_i frequency hduration
  obtain ⟨-, h⟩ := refuse_bind_eq_ok.mp h
  obtain ⟨-, h⟩ := refuse_bind_eq_ok.mp h
  obtain ⟨hordered, h⟩ := refuse_bind_eq_ok.mp h
  obtain ⟨-, h⟩ := refuse_bind_eq_ok.mp h
  obtain ⟨hexpected, h⟩ := refuse_bind_eq_ok.mp h
  obtain ⟨hmissing, h⟩ := refuse_bind_eq_ok.mp h
  obtain ⟨hfinite, h⟩ := refuse_bind_eq_ok.mp h
  obtain ⟨-, h⟩ := refuse_bind_eq_ok.mp h
  obtain ⟨signals, hsignals, h⟩ := except_bind_eq_ok.mp h
  cases h
  -- the minutes that are read are over, so the frame has them whatever else is over
  have hover : ∀ t ∈ sessionExecutionMinutes schedule asOf, t + executionBarDuration ≤ asOf :=
    fun t ht => (mem_sessionExecutionMinutes.mp ht).2.2
  have hread : ((sessionExecutionMinutes schedule asOf).filterMap (fun t =>
      (minutes.observations.filter (fun o => decide (o.time + executionBarDuration ≤ asOf))).find?
        (fun o => o.time == t)))
      = (sessionExecutionMinutes schedule asOf).filterMap minutes.rowAt :=
    List.filterMap_congr (fun t ht => MinuteFrame.find?_completed (hover t ht))
  rw [hread] at hfinite hsignals ⊢
  rw [List.map_filterMap] at hsignals ⊢
  refine ⟨frequency, hduration, ?_, ?_, ?_, rfl, rfl, rfl, Checks.mapM_eq_ok.mp hsignals, rfl, rfl⟩
  · rw [Bool.not_eq_false'] at hordered
    exact List.pairwise_map.mp (of_decide_eq_true hordered)
  · simpa using hexpected
  · intro t ht
    rw [Bool.not_eq_false', List.isEmpty_iff] at hmissing
    have hnone := List.filter_eq_nil_iff.mp hmissing t ht
    obtain ⟨o, ho, htime⟩ : ∃ o ∈ minutes.observations, o.time = t := by
      simp only [Bool.not_eq_true, Bool.not_eq_false', List.contains_eq_mem, decide_eq_true_eq,
        List.mem_map, List.mem_filter] at hnone
      obtain ⟨o, ⟨ho, -⟩, htime⟩ := hnone
      exact ⟨o, ho, htime⟩
    obtain ⟨o', ho'⟩ : ∃ o', minutes.rowAt t = some o' :=
      Option.isSome_iff_exists.mp (List.find?_isSome.mpr ⟨o, ho, by simpa using htime⟩)
    refine ⟨o', ho', ?_⟩
    rw [Bool.or_eq_false_iff, Bool.not_eq_false', List.all_eq_true] at hfinite
    exact hfinite.1 o' (List.mem_filterMap.mpr ⟨t, ht, ho'⟩)

end

namespace BuildSpec

variable {minutes : MinuteFrame V} {schedule : SessionSchedule clock} {timeframe : String}
  {frequency : Timeframe} {asOf : Time} {bars : SessionBars V clock}

/-- Every expected minute has a row of numbers. -/
theorem minuteBar (h : BuildSpec minutes schedule timeframe frequency asOf bars) {t : Time}
    (ht : t ∈ sessionExecutionMinutes schedule asOf) :
    ∃ o, minutes.minuteBar t = some o ∧ o.time = t ∧ minutes.rowAt t = some o.finite := by
  obtain ⟨o, ho, hfinite⟩ := h.found t ht
  refine ⟨o.numbers, ?_, MinuteFrame.time_of_rowAt ho, ?_⟩
  · unfold MinuteFrame.minuteBar
    rw [ho, Option.map_some]
  · rw [OhlcvRow.finite_numbers hfinite, ho]

/-- The rows of some expected minutes are labelled with them. -/
theorem map_time (h : BuildSpec minutes schedule timeframe frequency asOf bars) {ts : List Time}
    (hts : ∀ t ∈ ts, t ∈ sessionExecutionMinutes schedule asOf) :
    (ts.filterMap minutes.minuteBar).map OhlcvRow.time = ts := by
  induction ts with
  | nil => rfl
  | cons t ts ih =>
    obtain ⟨o, ho, htime, -⟩ := h.minuteBar (hts t List.mem_cons_self)
    rw [List.filterMap_cons_some ho, List.map_cons, htime,
      ih (fun t' ht' => hts t' (List.mem_cons_of_mem t ht'))]

/-- **The execution clock is the expected minutes.** -/
theorem execution_index (h : BuildSpec minutes schedule timeframe frequency asOf bars) :
    bars.execution.index = sessionExecutionMinutes schedule asOf := by
  unfold BarFrame.index
  rw [h.execution_rows]
  exact h.map_time (fun t ht => ht)

/-- The minutes of a window that is over are expected. -/
theorem expected_of_mem {w : SignalBarWindow} (hw : w ∈ windowsOf schedule.sessions frequency)
    (hover : w.closedAt ≤ asOf) {t : Time} :
    t ∈ minuteRange w.openedAt w.closedAt ↔
      t ∈ sessionExecutionMinutes schedule asOf ∧ w.openedAt ≤ t ∧ t < w.closedAt := by
  obtain ⟨s, hs, hw⟩ := List.mem_flatMap.mp hw
  obtain ⟨hopen, -, hclose⟩ := (sessionBarWindows_tiles s frequency).within hw
  obtain ⟨hopened, hclosed, -⟩ := sessionBarWindows_whole hw
  rw [mem_minuteRange, sub_whole hopened]
  constructor
  · rintro ⟨hle, hlt, hwhole⟩
    have hnext : t + executionBarDuration ≤ w.closedAt := add_le_of_lt_whole hwhole hclosed hlt
    exact ⟨mem_sessionExecutionMinutes.mpr ⟨⟨s, hs, hopen.trans hle, hlt.trans_le hclose⟩, hwhole,
      hnext.trans hover⟩, hle, hlt⟩
  · rintro ⟨ht, hle, hlt⟩
    exact ⟨hle, hlt, (mem_sessionExecutionMinutes.mp ht).2.1⟩

/-- **The minutes a bar is made from**: every minute of its window, and no other. -/
theorem slice_eq (h : BuildSpec minutes schedule timeframe frequency asOf bars)
    {w : SignalBarWindow} (hw : w ∈ windowsOf schedule.sessions frequency)
    (hover : w.closedAt ≤ asOf) :
    Ascending.slice OhlcvRow.time bars.execution.rows w.openedAt w.closedAt
      = (minuteRange w.openedAt w.closedAt).filterMap minutes.minuteBar := by
  have hbar : w.openedAt < w.closedAt := by
    obtain ⟨s, -, hw⟩ := List.mem_flatMap.mp hw
    exact ((sessionBarWindows_tiles s frequency).within hw).2.1
  have hrows : bars.execution.rows.Pairwise (fun o o' => o.time < o'.time) := by
    refine List.pairwise_map.mp ?_
    show bars.execution.index.Pairwise (· < ·)
    rw [h.execution_index]
    exact sessionExecutionMinutes_pairwise schedule asOf
  have hminutes : (sessionExecutionMinutes schedule asOf).filter
      (fun t => decide (w.openedAt ≤ t) && decide (t < w.closedAt))
        = minuteRange w.openedAt w.closedAt := by
    refine ((sessionExecutionMinutes_pairwise schedule asOf).filter _).eq_of_mem_iff
      (minuteRange_pairwise _ _) (fun t => ?_)
    rw [List.mem_filter, Bool.and_eq_true, decide_eq_true_eq, decide_eq_true_eq,
      expected_of_mem hw hover]
  rw [Ascending.slice_eq_filter hrows hbar.le, h.execution_rows, List.filter_filterMap, ← hminutes,
    List.filterMap_filter]
  refine List.filterMap_congr (fun t ht => ?_)
  obtain ⟨o, ho, rfl, -⟩ := h.minuteBar ht
  rw [ho]
  rfl

/-- **The bars of a window depend on its minutes alone.** -/
theorem filled_eq (h : BuildSpec minutes schedule timeframe frequency asOf bars) :
    List.Forall₂ (fun w bar => OhlcvRow.aggregate w.openedAt
        ((minuteRange w.openedAt w.closedAt).filterMap minutes.minuteBar) = .ok bar)
      (closedWindows schedule frequency asOf) bars.signals.rows := by
  have hall : ∀ w ∈ closedWindows schedule frequency asOf,
      w ∈ windowsOf schedule.sessions frequency ∧ w.closedAt ≤ asOf := by
    intro w hw
    rw [closedWindows_eq, List.mem_filter, decide_eq_true_eq] at hw
    exact hw
  refine List.forall₂_iff_zip.mpr ⟨h.filled.length_eq, fun {w bar} hmem => ?_⟩
  obtain ⟨hw, hover⟩ := hall w (List.of_mem_zip hmem).1
  rw [← h.slice_eq hw hover]
  exact List.forall₂_zip h.filled hmem

/-- Where no two rows have one label, a minute is read from its own row. -/
theorem rowAt_eq (h : BuildSpec minutes schedule timeframe frequency asOf bars)
    {o : OhlcvRow (Extended V)} (ho : o ∈ minutes.observations)
    (hover : o.time + executionBarDuration ≤ asOf) : minutes.rowAt o.time = some o := by
  obtain ⟨o', ho'⟩ : ∃ o', minutes.rowAt o.time = some o' :=
    Option.isSome_iff_exists.mp (List.find?_isSome.mpr ⟨o, ho, by simp⟩)
  have htime := MinuteFrame.time_of_rowAt ho'
  have hmem : ∀ u ∈ minutes.observations, u.time = o.time → u ∈ minutes.observations.filter
      (fun o => decide (o.time + executionBarDuration ≤ asOf)) := by
    intro u hu hsame
    refine List.mem_filter.mpr ⟨hu, decide_eq_true ?_⟩
    rw [hsame]
    exact hover
  have hinj := (List.pairwise_map.mpr h.ordered : (List.map OhlcvRow.time _).Pairwise (· < ·)).nodup
  rw [ho', List.inj_on_of_nodup_map hinj (hmem o' (List.mem_of_find?_eq_some ho') htime)
    (hmem o ho rfl) htime]

/-- **They are the frame's own rows.** -/
theorem within_eq (h : BuildSpec minutes schedule timeframe frequency asOf bars)
    {w : SignalBarWindow} (hw : w ∈ windowsOf schedule.sessions frequency)
    (hover : w.closedAt ≤ asOf) :
    ((minuteRange w.openedAt w.closedAt).filterMap minutes.minuteBar).map OhlcvRow.finite
      = minutes.within w := by
  have hexpected : ∀ t ∈ minuteRange w.openedAt w.closedAt,
      t ∈ sessionExecutionMinutes schedule asOf :=
    fun t ht => ((expected_of_mem hw hover).mp ht).1
  obtain ⟨s, -, hsession⟩ := List.mem_flatMap.mp hw
  obtain ⟨hopened, hclosed, -⟩ := sessionBarWindows_whole hsession
  -- both are in the order of their labels, so it is enough that they have the same rows
  have hranged : (((minuteRange w.openedAt w.closedAt).filterMap minutes.minuteBar).map
      OhlcvRow.finite).Pairwise (fun o o' => o.time < o'.time) := by
    have htimes : (((minuteRange w.openedAt w.closedAt).filterMap minutes.minuteBar).map
        OhlcvRow.time).Pairwise (· < ·) := by
      rw [h.map_time hexpected]
      exact minuteRange_pairwise _ _
    exact List.pairwise_map.mpr (List.pairwise_map.mp htimes)
  have hkept : (minutes.within w).Pairwise (fun o o' => o.time < o'.time) := by
    have hsub : minutes.within w = (minutes.observations.filter
        (fun o => decide (o.time + executionBarDuration ≤ asOf))).filter
          (fun o => decide (w.openedAt ≤ o.time) && decide (o.time < w.closedAt)
            && decide (o.time % executionBarDuration = 0)) := by
      unfold MinuteFrame.within
      rw [List.filter_filter]
      refine List.filter_congr (fun o _ => ?_)
      rw [Bool.eq_iff_iff]
      simp only [Bool.and_eq_true, decide_eq_true_eq]
      exact ⟨fun ho => ⟨ho, (add_le_of_lt_whole ho.2 hclosed ho.1.2).trans hover⟩, fun ho => ho.1⟩
    rw [hsub]
    exact h.ordered.filter _
  have : Std.Irrefl (fun o o' : OhlcvRow (Extended V) => o.time < o'.time) :=
    ⟨fun o => lt_irrefl o.time⟩
  have : Std.Antisymm (fun o o' : OhlcvRow (Extended V) => o.time < o'.time) :=
    ⟨fun o o' ho ho' => absurd ho (lt_asymm ho')⟩
  refine hranged.eq_of_mem_iff hkept (fun o => ?_)
  unfold MinuteFrame.within
  rw [List.mem_map, List.mem_filter]
  simp only [Bool.and_eq_true, decide_eq_true_eq]
  constructor
  · rintro ⟨u, hu, rfl⟩
    obtain ⟨t, ht, hbar⟩ := List.mem_filterMap.mp hu
    obtain ⟨u', hbar', htime, hrow⟩ := h.minuteBar (hexpected t ht)
    rw [hbar] at hbar'
    cases hbar'
    obtain ⟨hle, hlt, hwhole⟩ := mem_minuteRange.mp ht
    refine ⟨List.mem_of_find?_eq_some hrow, ?_⟩
    show (w.openedAt ≤ u.time ∧ u.time < w.closedAt) ∧ u.time % executionBarDuration = 0
    rw [htime]
    exact ⟨⟨hle, hlt⟩, (sub_whole hopened).mp hwhole⟩
  · rintro ⟨ho, ⟨hle, hlt⟩, hwhole⟩
    have ht := mem_minuteRange.mpr ⟨hle, hlt, (sub_whole hopened).mpr hwhole⟩
    obtain ⟨u, hbar, -, hrow⟩ := h.minuteBar (hexpected _ ht)
    refine ⟨u, List.mem_filterMap.mpr ⟨o.time, ht, hbar⟩, ?_⟩
    rw [h.rowAt_eq ho ((add_le_of_lt_whole hwhole hclosed hlt).trans hover)] at hrow
    exact (Option.some.inj hrow).symm

/-! ### The check -/

/-- The starts of the bars are those of the windows. -/
theorem signals_index (h : BuildSpec minutes schedule timeframe frequency asOf bars) :
    bars.signals.index = (closedWindows schedule frequency asOf).map SignalBarWindow.openedAt := by
  unfold BarFrame.index
  have htimes : List.Forall₂ (fun w bar => w.openedAt = OhlcvRow.time bar)
      (closedWindows schedule frequency asOf) bars.signals.rows :=
    h.filled.imp (fun _ _ hbar => (OhlcvRow.aggregate_sums hbar).1.symm)
  exact (List.forall₂_eq_eq_eq ▸ (List.forall₂_map_left_iff.mpr
    (List.forall₂_map_right_iff.mpr htimes))).symm

/-- Where the validation stops: at the end of the last observed minute. -/
theorem stop_spec (h : BuildSpec minutes schedule timeframe frequency asOf bars) :
    bars.execution.index.getLastD 0 + executionBarDuration ≤ asOf
      ∧ ∀ t ∈ sessionExecutionMinutes schedule asOf,
        t + executionBarDuration ≤ bars.execution.index.getLastD 0 + executionBarDuration := by
  rw [h.execution_index]
  obtain ⟨before, last, hlast⟩ : ∃ before last,
      sessionExecutionMinutes schedule asOf = before ++ [last] :=
    ⟨_, _, (List.dropLast_append_getLast h.expected_ne).symm⟩
  have hsorted := sessionExecutionMinutes_pairwise schedule asOf
  have hmem : last ∈ sessionExecutionMinutes schedule asOf := by
    rw [hlast]
    exact List.mem_append_right before (List.mem_singleton.mpr rfl)
  have hgetLast : (sessionExecutionMinutes schedule asOf).getLastD 0 = last := by
    rw [hlast, List.getLastD_concat]
  rw [hgetLast]
  refine ⟨(mem_sessionExecutionMinutes.mp hmem).2.2, fun t ht => ?_⟩
  rw [hlast] at hsorted ht
  rcases List.mem_append.mp ht with ht | ht
  · have hlt := (List.pairwise_append.mp hsorted).2.2 t ht last (List.mem_singleton.mpr rfl)
    exact Int.add_le_add_right hlt.le _
  · rw [List.mem_singleton.mp ht]

/-- **The validation expects the minutes the construction expected.** -/
theorem minutes_at_stop (h : BuildSpec minutes schedule timeframe frequency asOf bars) :
    sessionExecutionMinutes schedule (bars.execution.index.getLastD 0 + executionBarDuration)
      = sessionExecutionMinutes schedule asOf := by
  obtain ⟨hstop, hlast⟩ := h.stop_spec
  refine (sessionExecutionMinutes_pairwise schedule _).eq_of_mem_iff
    (sessionExecutionMinutes_pairwise schedule asOf) (fun t => ⟨fun ht => ?_, fun ht => ?_⟩)
  · obtain ⟨hs, hwhole, hover⟩ := mem_sessionExecutionMinutes.mp ht
    exact mem_sessionExecutionMinutes.mpr ⟨hs, hwhole, hover.trans hstop⟩
  · obtain ⟨hs, hwhole, -⟩ := mem_sessionExecutionMinutes.mp ht
    exact mem_sessionExecutionMinutes.mpr ⟨hs, hwhole, hlast t ht⟩

/-- **It finds the windows the construction filled**: the last minute of a window that is over
was observed. -/
theorem windows_at_stop (h : BuildSpec minutes schedule timeframe frequency asOf bars) :
    (windowsOf schedule.sessions frequency).filter (fun w =>
        decide (w.closedAt ≤ bars.execution.index.getLastD 0 + executionBarDuration))
      = closedWindows schedule frequency asOf := by
  obtain ⟨hstop, hlast⟩ := h.stop_spec
  rw [closedWindows_eq]
  refine List.filter_congr (fun w hw => ?_)
  rw [Bool.eq_iff_iff, decide_eq_true_eq, decide_eq_true_eq]
  refine ⟨fun hover => hover.trans hstop, fun hover => ?_⟩
  obtain ⟨s, -, hsession⟩ := List.mem_flatMap.mp hw
  obtain ⟨hopened, hclosed, -⟩ := sessionBarWindows_whole hsession
  have hbar := ((sessionBarWindows_tiles s frequency).within hsession).2.1
  have hminute : w.closedAt - executionBarDuration ∈ minuteRange w.openedAt w.closedAt := by
    refine mem_minuteRange.mpr ⟨le_sub_iff_add_le.mpr (add_le_of_lt_whole hopened hclosed hbar),
      sub_lt_self _ executionBarDuration_pos, (sub_whole hopened).mpr ?_⟩
    rw [Int.sub_emod_right]
    exact hclosed
  have hover' := hlast _ ((expected_of_mem hw hover).mp hminute).1
  rwa [sub_add_cancel] at hover'

end BuildSpec

/-- Neighbours in a list are related as its entries are. -/
theorem consecutive_of_pairwise {α : Type} {R : α → α → Prop} {l : List α} (h : l.Pairwise R) :
    ∀ p ∈ l.dropLast.zip l.tail, R p.1 p.2 := by
  induction l with
  | nil => exact fun p hp => nomatch hp
  | cons a l ih =>
    obtain ⟨ha, hl⟩ := List.pairwise_cons.mp h
    cases l with
    | nil => exact fun p hp => nomatch hp
    | cons b l =>
      intro p hp
      rcases List.mem_cons.mp hp with rfl | hp
      · exact ha b List.mem_cons_self
      · exact ih hl p hp

/-- The windows that are over lie one after the other. -/
theorem closedWindows_spec (schedule : SessionSchedule clock) (frequency : Timeframe)
    (asOf : Time) :
    (closedWindows schedule frequency asOf).Pairwise (fun w w' => w.closedAt ≤ w'.openedAt)
      ∧ ∀ w ∈ closedWindows schedule frequency asOf, w.openedAt < w.closedAt
        ∧ w.closedAt - w.openedAt ≤ frequency.duration := by
  rw [closedWindows_eq]
  refine ⟨(windowsOf_disjoint schedule frequency).filter _, fun w hw => ?_⟩
  obtain ⟨s, -, hsession⟩ := List.mem_flatMap.mp (List.mem_of_mem_filter hw)
  exact ⟨((sessionBarWindows_tiles s frequency).within hsession).2.1,
    (sessionBarWindows_whole hsession).2.2⟩

section

variable {minutes : MinuteFrame V} {schedule : SessionSchedule clock} {timeframe : String}
  {frequency : Timeframe} {asOf : Time} {bars : SessionBars V clock}

/-- **What was built passes the check.** -/
theorem BuildSpec.validate (h : BuildSpec minutes schedule timeframe frequency asOf bars) :
    bars.validate timeframe = .ok () := by
  obtain ⟨hdisjoint, hwindow⟩ := closedWindows_spec schedule frequency asOf
  unfold SessionBars.validate
  rw [h.duration]
  dsimp only
  rw [h.schedule_eq, h.minutes_at_stop, h.windows_at_stop, h.signals_attrs, h.execution_attrs,
    h.signals_index, h.closedAt, h.execution_index]
  refine refuse_bind_eq_ok.mpr ⟨by simp [sessionAttrs], ?_⟩
  refine refuse_bind_eq_ok.mpr ⟨?_, ?_⟩
  · have hopened : ((closedWindows schedule frequency asOf).map SignalBarWindow.openedAt).Pairwise
        (· < ·) := List.pairwise_map.mpr (hdisjoint.imp_of_mem
          (fun {w w'} hw _ hle => (hwindow w hw).1.trans_le hle))
    have hclosed : ((closedWindows schedule frequency asOf).map SignalBarWindow.closedAt).Pairwise
        (· < ·) := List.pairwise_map.mpr (hdisjoint.imp_of_mem
          (fun {w w'} _ hw' hle => hle.trans_lt (hwindow w' hw').1))
    simp [isOrdered, hopened, hclosed, sessionExecutionMinutes_pairwise schedule asOf]
  refine refuse_bind_eq_ok.mpr ⟨?_, ?_⟩
  · rw [List.zip_map', List.length_map, List.length_map, bne_self_eq_false, Bool.false_or,
      List.any_eq_false]
    rintro p hp
    obtain ⟨w, hw, rfl⟩ := List.mem_map.mp hp
    simpa using (hwindow w hw).1
  refine refuse_bind_eq_ok.mpr ⟨?_, ?_⟩
  · rw [List.zip_map', List.any_eq_false]
    rintro p hp
    obtain ⟨w, hw, rfl⟩ := List.mem_map.mp hp
    simpa using (hwindow w hw).2
  refine refuse_bind_eq_ok.mpr ⟨?_, ?_⟩
  · rw [← List.map_dropLast, ← List.map_tail, List.zip_map, List.any_eq_false]
    rintro p hp
    obtain ⟨q, hq, rfl⟩ := List.mem_map.mp hp
    simpa using consecutive_of_pairwise hdisjoint q hq
  refine refuse_bind_eq_ok.mpr ⟨?_, ?_⟩
  · have hrows : bars.execution.rows ≠ [] := by
      intro hnil
      refine h.expected_ne ?_
      rw [← h.execution_index, BarFrame.index, hnil, List.map_nil]
    simp [sessionAttrs, hrows]
  refine refuse_bind_eq_ok.mpr ⟨by simp [sessionAttrs], ?_⟩
  refine refuse_bind_eq_ok.mpr ⟨by simp, ?_⟩
  simp [refuse]

/-! ## Later construction -/

/-- What a function makes of a prefix is a prefix of what it makes of the whole. -/
theorem prefix_of_forall₂ {α β : Type} {R : α → β → Prop} (hR : Relator.RightUnique R)
    {l l' : List α} {r r' : List β} (h : l <+: l') (hl : List.Forall₂ R l r)
    (hl' : List.Forall₂ R l' r') : r <+: r' := by
  induction hl generalizing l' r' with
  | nil => exact List.nil_prefix
  | cons hab _ ih =>
    obtain ⟨rest, rfl⟩ := h
    cases hl' with
    | cons hab' hrest => exact List.cons_prefix_cons.mpr ⟨hR hab hab', ih ⟨rest, rfl⟩ hrest⟩

/-- **A later construction adds bars at the end.** -/
theorem BuildSpec.grows {asOf' : Time} {bars' : SessionBars V clock}
    (h : BuildSpec minutes schedule timeframe frequency asOf bars)
    (h' : BuildSpec minutes schedule timeframe frequency asOf' bars') (hle : asOf ≤ asOf') :
    bars.signals.rows <+: bars'.signals.rows ∧ bars.closedAt <+: bars'.closedAt := by
  have hwindows :
      closedWindows schedule frequency asOf <+: closedWindows schedule frequency asOf' := by
    rw [closedWindows_eq, closedWindows_eq]
    exact Ascending.prefix_filter_le (windowsOf_pairwise schedule.ascending frequency) hle
  refine ⟨prefix_of_forall₂ ?_ hwindows h.filled_eq h'.filled_eq, ?_⟩
  · intro w bar bar' hbar hbar'
    exact Except.ok.inj (hbar.symm.trans hbar')
  · rw [h.closedAt, h'.closedAt]
    exact hwindows.map _

/-- **Session bars are exact, self-consistent and stable.** What `build_session_bars` returns
passes `validate`. Its windows are those of the calendar that are over, which tile each session,
and the bar of each sums up exactly the minutes of the window that the frame shows, none of them
missing. A later construction from the same minutes keeps the bars and their closes, and adds
further ones after them. -/
theorem buildSessionBars_exact (minutes : MinuteFrame V) (schedule : SessionSchedule clock)
    (timeframe : String) (asOf : Time) (bars : SessionBars V clock)
    (h : buildSessionBars minutes schedule timeframe asOf = .ok bars) :
    bars.validate timeframe = .ok ()
      ∧ (∃ frequency windows, barDuration timeframe = some frequency
        ∧ windows = (windowsOf schedule.sessions frequency).filter
          (fun w => decide (w.closedAt ≤ asOf))
        ∧ (∀ s ∈ schedule.sessions, Tiles s.openAt s.closeAt (sessionBarWindows s frequency))
        ∧ bars.closedAt = windows.map SignalBarWindow.closedAt
        ∧ List.Forall₂ (fun w bar => OhlcvRow.time bar = w.openedAt ∧ ∃ observed,
            observed.map OhlcvRow.finite = minutes.within w
              ∧ observed.map OhlcvRow.time = minuteRange w.openedAt w.closedAt
              ∧ OhlcvRow.Sums observed bar) windows bars.signals.rows)
      ∧ ∀ asOf' bars', asOf ≤ asOf' →
        buildSessionBars minutes schedule timeframe asOf' = .ok bars' →
        bars.signals.rows <+: bars'.signals.rows ∧ bars.closedAt <+: bars'.closedAt := by
  obtain ⟨frequency, hspec⟩ := build_spec h
  refine ⟨hspec.validate, ⟨frequency, _, hspec.duration, rfl,
    fun s _ => sessionBarWindows_tiles s frequency, ?_, ?_⟩, ?_⟩
  · rw [hspec.closedAt, closedWindows_eq]
  · have hfilled := hspec.filled_eq
    rw [closedWindows_eq] at hfilled
    refine List.forall₂_iff_zip.mpr ⟨hfilled.length_eq, fun {w bar} hmem => ?_⟩
    obtain ⟨hw, hover⟩ := List.mem_filter.mp (List.of_mem_zip hmem).1
    have hover := of_decide_eq_true hover
    obtain ⟨htime, hsums⟩ := OhlcvRow.aggregate_sums (List.forall₂_zip hfilled hmem)
    exact ⟨htime, _, hspec.within_eq hw hover,
      hspec.map_time (fun t ht => ((BuildSpec.expected_of_mem hw hover).mp ht).1), hsums⟩
  · intro asOf' bars' hle h'
    obtain ⟨frequency', hspec'⟩ := build_spec h'
    cases Option.some.inj (hspec.duration.symm.trans hspec'.duration)
    exact hspec.grows hspec' hle

end

/-! ## A session of two minutes -/

theorem shortSession_ordered : (34200000000 : Time) < 34320000000 := by decide

theorem shortSession_opens : sampleDays.On 0 34200000000 := ⟨by decide, by decide⟩

theorem shortSession_closes : sampleDays.On 0 34320000000 := ⟨by decide, by decide⟩

theorem shortSession_openAligned : (34200000000 : Time) % 60000000 = 0 := by decide

theorem shortSession_closeAligned : (34320000000 : Time) % 60000000 = 0 := by decide

/-- A session from 9:30 to 9:32. -/
def shortSession : TradingSession sampleDays where
  date := 0
  openAt := 34200000000
  closeAt := 34320000000
  ordered := shortSession_ordered
  opens := shortSession_opens
  closes := shortSession_closes
  openAligned := shortSession_openAligned
  closeAligned := shortSession_closeAligned

/-- A calendar of that session. -/
def shortSchedule : SessionSchedule sampleDays where
  start := 0
  stop := 0
  sessions := [shortSession]
  source := "alpaca:calendar"
  source_ne := by decide
  ordered := le_rfl
  sessions_ne := List.cons_ne_nil _ _
  ascending := List.pairwise_singleton _ _
  within := fun s hs => by rw [List.mem_singleton.mp hs]; decide

/-- A minute at 10, 12, 9, 11 of 100 shares, or at 1 more of 50. -/
def shortRow (t : Time) (more : ℤ) : MinuteRow ℤ where
  time := some t
  cell := fun column => .finite (if column = "open" then 10 + more
    else if column = "high" then 12 + more
    else if column = "low" then 9 + more
    else if column = "close" then 11 + more
    else 100 - 50 * more)

/-- Both minutes of the session, and one from before it. -/
def shortMinutes : MinuteFrame ℤ where
  attrs := fun field => if field = "timeframe" then some "1m"
    else if field = "adjustment" then some "raw" else none
  aware := true
  columns := ohlcv
  rows := [shortRow 34140000000 0, shortRow 34200000000 0, shortRow 34260000000 1]
  distinct := by decide +kernel

/-- The bar of the session. -/
def shortBars : SessionBars ℤ sampleDays where
  execution := ⟨sessionAttrs shortMinutes.attrs "1m",
    [⟨34200000000, 10, 12, 9, 11, 100⟩, ⟨34260000000, 11, 13, 10, 12, 50⟩]⟩
  signals := ⟨sessionAttrs shortMinutes.attrs "15m", [⟨34200000000, 10, 13, 9, 12, 150⟩]⟩
  closedAt := [34320000000]
  coverage := ⟨2, 2, 0, [], 1⟩
  schedule := shortSchedule

theorem shortBars_built :
    buildSessionBars shortMinutes shortSchedule "15m" 34320000000 = .ok shortBars := by
  have hcolumns : shortMinutes.columns.map String.toLower = ohlcv := by decide +kernel
  have hrows : shortMinutes.observations
      = [⟨34140000000, .finite 10, .finite 12, .finite 9, .finite 11, .finite 100⟩,
        ⟨34200000000, .finite 10, .finite 12, .finite 9, .finite 11, .finite 100⟩,
        ⟨34260000000, .finite 11, .finite 13, .finite 10, .finite 12, .finite 50⟩] := by
    decide +kernel
  unfold buildSessionBars
  rw [hcolumns, hrows]
  rfl

theorem buildSessionBars_exact_short :
    buildSessionBars shortMinutes shortSchedule "15m" 34320000000 = .ok shortBars
      ∧ shortBars.validate "15m" = .ok () :=
  ⟨shortBars_built, (buildSessionBars_exact _ _ _ _ _ shortBars_built).1⟩

end AgenticTrader
