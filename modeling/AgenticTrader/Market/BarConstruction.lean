import Mathlib
import AgenticTrader.Market.SessionBars

/-!
# Minutes, windows and sums

What `build_session_bars` and `SessionBars.validate` both rest on. The minutes to expect by a
time are the whole minutes of a session that are over (`mem_sessionExecutionMinutes`), in order.
The windows of a session tile it (`sessionBarWindows_tiles`) and those of a calendar do not
overlap, so that a loop which leaves a session at its first open window has filled all that are
over (`closedWindows_eq`). The bar of some minutes sums them up (`OhlcvRow.aggregate_sums`).
-/

namespace AgenticTrader

variable {clock : DayClock} {V : Type}

/-! ## Minutes -/

section

variable {start stop t asOf : ℤ}

theorem executionBarDuration_pos : 0 < executionBarDuration := by decide

theorem mem_minuteRange : t ∈ minuteRange start stop
    ↔ start ≤ t ∧ t < stop ∧ (t - start) % executionBarDuration = 0 := by
  unfold minuteRange executionBarDuration
  rw [List.mem_map]
  constructor
  · rintro ⟨i, hi, rfl⟩
    have hlt := List.mem_range.mp hi
    refine ⟨?_, ?_, ?_⟩ <;> omega
  · rintro ⟨hle, hlt, hmod⟩
    refine ⟨((t - start) / 60000000).toNat, List.mem_range.mpr ?_, ?_⟩ <;> omega

theorem minuteRange_pairwise (start stop : ℤ) : (minuteRange start stop).Pairwise (· < ·) := by
  refine List.pairwise_map.mpr ((List.pairwise_lt_range).imp (fun {i j} hij => ?_))
  unfold executionBarDuration
  omega

theorem sub_whole {t t₀ : ℤ} (h : t₀ % executionBarDuration = 0) :
    (t - t₀) % executionBarDuration = 0 ↔ t % executionBarDuration = 0 := by
  unfold executionBarDuration at *
  omega

/-- A minute that starts before a whole minute is over by then. -/
theorem add_le_of_lt_whole {t t₀ : ℤ} (h : t % executionBarDuration = 0)
    (h₀ : t₀ % executionBarDuration = 0) (hlt : t < t₀) : t + executionBarDuration ≤ t₀ := by
  unfold executionBarDuration at *
  omega

/-- A minute is over by a time exactly if it is over by the last whole minute before. -/
theorem lt_floorMinute (h : t % executionBarDuration = 0) :
    t < floorMinute asOf ↔ t + executionBarDuration ≤ asOf := by
  unfold floorMinute executionBarDuration at *
  omega

/-- **The minutes to expect** are those of a session that are over. -/
theorem mem_sessionExecutionMinutes {schedule : SessionSchedule clock} :
    t ∈ sessionExecutionMinutes schedule asOf ↔ (∃ s ∈ schedule.sessions, s.openAt ≤ t
      ∧ t < s.closeAt) ∧ t % executionBarDuration = 0 ∧ t + executionBarDuration ≤ asOf := by
  have hround : ∀ s ∈ schedule.sessions, (t - s.openAt) % executionBarDuration = 0
      ↔ t % executionBarDuration = 0 := by
    intro s _
    exact sub_whole s.openAligned
  unfold sessionExecutionMinutes
  rw [List.mem_flatMap]
  constructor
  · rintro ⟨s, hs, ht⟩
    split at ht
    · obtain ⟨hopen, hstop, hmod⟩ := mem_minuteRange.mp ht
      have haligned := (hround s hs).mp hmod
      exact ⟨⟨s, hs, hopen, hstop.trans_le (min_le_left _ _)⟩, haligned,
        (lt_floorMinute haligned).mp (hstop.trans_le (min_le_right _ _))⟩
    · cases ht
  · rintro ⟨⟨s, hs, hopen, hclose⟩, haligned, hover⟩
    have hstop := lt_min hclose ((lt_floorMinute haligned).mpr hover)
    refine ⟨s, hs, ?_⟩
    rw [if_pos (hopen.trans_lt hstop)]
    exact mem_minuteRange.mpr ⟨hopen, hstop, (hround s hs).mpr haligned⟩

/-- A session is over before the next one opens. -/
theorem TradingSession.closeAt_lt_openAt {s s' : TradingSession clock} (h : s.date < s'.date) :
    s.closeAt < s'.openAt :=
  calc s.closeAt < clock.midnight (s.date + 1) := s.closes.2
    _ ≤ clock.midnight s'.date := DayClock.midnight_mono (by omega)
    _ ≤ s'.openAt := s'.opens.1

theorem sessionExecutionMinutes_pairwise (schedule : SessionSchedule clock) (asOf : Time) :
    (sessionExecutionMinutes schedule asOf).Pairwise (· < ·) := by
  unfold sessionExecutionMinutes
  rw [List.pairwise_flatMap]
  refine ⟨fun s _ => ?_, schedule.ascending.imp ?_⟩
  · split
    · exact minuteRange_pairwise _ _
    · exact List.Pairwise.nil
  · intro s s' hlt t ht t' ht'
    split at ht
    · split at ht'
      · have hbefore := (mem_minuteRange.mp ht).2.1.trans_le (min_le_left _ _)
        exact hbefore.trans ((TradingSession.closeAt_lt_openAt hlt).trans_le
          (mem_minuteRange.mp ht').1)
      · cases ht'
    · cases ht

end

/-! ## Windows -/

/-- **Windows tile a span**: each opens where the last one closed, the first at the start, and
the last one closes at the end. -/
def Tiles : Time → Time → List SignalBarWindow → Prop
  | start, stop, [] => start = stop
  | start, stop, w :: ws => w.openedAt = start ∧ w.openedAt < w.closedAt ∧ Tiles w.closedAt stop ws

namespace Tiles

variable {start stop : Time} {ws : List SignalBarWindow}

theorem le (h : Tiles start stop ws) : start ≤ stop := by
  induction ws generalizing start with
  | nil => exact le_of_eq h
  | cons w ws ih =>
    obtain ⟨rfl, hlt, hrest⟩ := h
    exact hlt.le.trans (ih hrest)

/-- A window of a span lies within it. -/
theorem within (h : Tiles start stop ws) {w : SignalBarWindow} (hw : w ∈ ws) :
    start ≤ w.openedAt ∧ w.openedAt < w.closedAt ∧ w.closedAt ≤ stop := by
  induction ws generalizing start with
  | nil => cases hw
  | cons v ws ih =>
    obtain ⟨rfl, hlt, hrest⟩ := h
    rcases List.mem_cons.mp hw with rfl | hw
    · exact ⟨le_rfl, hlt, hrest.le⟩
    · obtain ⟨hopen, hbar, hclose⟩ := ih hrest hw
      exact ⟨hlt.le.trans hopen, hbar, hclose⟩

/-- The windows of a span do not overlap. -/
theorem pairwise (h : Tiles start stop ws) :
    ws.Pairwise (fun w w' => w.closedAt ≤ w'.openedAt) := by
  induction ws generalizing start with
  | nil => exact List.Pairwise.nil
  | cons w ws ih =>
    obtain ⟨-, -, hrest⟩ := h
    exact List.Pairwise.cons (fun w' hw' => (hrest.within hw').1) (ih hrest)

end Tiles

section

variable {duration close : ℤ}

theorem barWindows_tiles (hd : 0 < duration) {n : ℕ} {begin : ℤ} (hb : begin ≤ close)
    (hn : close - begin ≤ n * duration) :
    Tiles begin close (barWindows duration close n begin) := by
  induction n generalizing begin with
  | zero =>
    show begin = close
    rw [Nat.cast_zero, zero_mul] at hn
    exact le_antisymm hb (sub_nonpos.mp hn)
  | succ n ih =>
    unfold barWindows
    split
    · refine ⟨rfl, lt_min (lt_add_of_pos_right _ hd) ‹_›, ih (min_le_right _ _) ?_⟩
      have hnonneg : 0 ≤ (n : ℤ) * duration := mul_nonneg (by positivity) hd.le
      rw [Nat.cast_succ, add_one_mul] at hn
      show close - min (begin + duration) close ≤ n * duration
      omega
    · exact le_antisymm hb (not_lt.mp ‹_›)

/-- No window is longer than the duration, and all of them open and close on whole minutes. -/
theorem barWindows_whole (hduration : duration % executionBarDuration = 0)
    (hclose : close % executionBarDuration = 0) {n : ℕ} {begin : ℤ}
    (hbegin : begin % executionBarDuration = 0) {w : SignalBarWindow}
    (hw : w ∈ barWindows duration close n begin) :
    w.openedAt % executionBarDuration = 0 ∧ w.closedAt % executionBarDuration = 0
      ∧ w.closedAt - w.openedAt ≤ duration := by
  induction n generalizing begin with
  | zero => cases hw
  | succ n ih =>
    have hstop : min (begin + duration) close % executionBarDuration = 0 := by
      unfold executionBarDuration at *
      omega
    unfold barWindows at hw
    split at hw
    · rcases List.mem_cons.mp hw with rfl | hw
      · exact ⟨hbegin, hstop, sub_le_iff_le_add'.mpr (min_le_left _ _)⟩
      · exact ih hstop hw
    · cases hw

end

theorem Timeframe.duration_whole (frequency : Timeframe) :
    frequency.duration % executionBarDuration = 0 := by
  cases frequency <;> decide

/-- **The windows of a session tile it** from its open to its close. -/
theorem sessionBarWindows_tiles (s : TradingSession clock) (frequency : Timeframe) :
    Tiles s.openAt s.closeAt (sessionBarWindows s frequency) := by
  have hd := frequency.duration_pos
  refine barWindows_tiles hd s.ordered.le ?_
  have hdiv := Int.lt_ediv_add_one_mul_self (s.closeAt - s.openAt) hd
  have hnonneg : 0 ≤ (s.closeAt - s.openAt) / frequency.duration :=
    Int.ediv_nonneg (Int.sub_nonneg_of_le s.ordered.le) hd.le
  push_cast
  rw [Int.toNat_of_nonneg hnonneg]
  exact hdiv.le

theorem sessionBarWindows_whole {s : TradingSession clock} {frequency : Timeframe}
    {w : SignalBarWindow} (hw : w ∈ sessionBarWindows s frequency) :
    w.openedAt % executionBarDuration = 0 ∧ w.closedAt % executionBarDuration = 0
      ∧ w.closedAt - w.openedAt ≤ frequency.duration :=
  barWindows_whole frequency.duration_whole s.closeAligned s.openAligned hw

/-- The windows of a calendar do not overlap. -/
theorem windowsOf_disjoint (schedule : SessionSchedule clock) (frequency : Timeframe) :
    (windowsOf schedule.sessions frequency).Pairwise (fun w w' => w.closedAt ≤ w'.openedAt) := by
  unfold windowsOf
  rw [List.pairwise_flatMap]
  refine ⟨fun s _ => (sessionBarWindows_tiles s frequency).pairwise, schedule.ascending.imp ?_⟩
  intro s s' hlt w hw w' hw'
  calc w.closedAt ≤ s.closeAt := ((sessionBarWindows_tiles s frequency).within hw).2.2
    _ ≤ s'.openAt := (TradingSession.closeAt_lt_openAt hlt).le
    _ ≤ w'.openedAt := ((sessionBarWindows_tiles s' frequency).within hw').1

/-- **The construction fills the windows that are over**: stopping at the first that is not
loses none. -/
theorem closedWindows_eq (schedule : SessionSchedule clock) (frequency : Timeframe)
    (asOf : Time) : closedWindows schedule frequency asOf
      = (windowsOf schedule.sessions frequency).filter (fun w => decide (w.closedAt ≤ asOf)) := by
  unfold closedWindows windowsOf
  rw [List.filter_flatMap]
  refine List.flatMap_congr (fun s _ => ?_)
  exact Ascending.takeWhile_eq_filter (Ascending.pairwise_le_bound
    (barWindows_pairwise frequency.duration_pos _ _) asOf)

/-! ## What a construction read -/

namespace OhlcvRow

/-- The cells of a row of numbers. -/
def finite (o : OhlcvRow V) : OhlcvRow (Extended V) where
  time := o.time
  openPrice := .finite o.openPrice
  high := .finite o.high
  low := .finite o.low
  close := .finite o.close
  volume := .finite o.volume

theorem finite_numbers [Zero V] {o : OhlcvRow (Extended V)} (h : o.isFinite = true) :
    o.numbers.finite = o := by
  have hcell : ∀ x : Extended V, x.isFinite = true → Extended.finite (x.getD 0) = x := by
    intro x hx
    cases x with
    | finite x => rfl
    | infinity negative => cases hx
    | nan => cases hx
  unfold isFinite at h
  simp only [Bool.and_eq_true] at h
  obtain ⟨⟨⟨⟨hopen, hhigh⟩, hlow⟩, hclose⟩, hvolume⟩ := h
  unfold numbers finite
  rw [hcell _ hopen, hcell _ hhigh, hcell _ hlow, hcell _ hclose, hcell _ hvolume]

end OhlcvRow

namespace MinuteFrame

variable (minutes : MinuteFrame V)

/-- The first row of a minute. -/
def rowAt (t : Time) : Option (OhlcvRow (Extended V)) :=
  minutes.observations.find? (fun o => o.time == t)

/-- **The minutes of a window**, as the frame has them. -/
def within (w : SignalBarWindow) : List (OhlcvRow (Extended V)) :=
  minutes.observations.filter (fun o => decide (w.openedAt ≤ o.time) && decide (o.time < w.closedAt)
    && decide (o.time % executionBarDuration = 0))

variable {minutes} {t asOf : Time}

theorem time_of_rowAt {o : OhlcvRow (Extended V)} (h : minutes.rowAt t = some o) : o.time = t :=
  by simpa using List.find?_some h

/-- A minute that is over is read from the frame, whatever else is over. -/
theorem find?_completed (h : t + executionBarDuration ≤ asOf) :
    (minutes.observations.filter (fun o => decide (o.time + executionBarDuration ≤ asOf))).find?
      (fun o => o.time == t) = minutes.rowAt t := by
  rw [List.find?_filter]
  refine congrArg (fun p => minutes.observations.find? p) (funext (fun o => ?_))
  rw [Bool.eq_iff_iff, decide_eq_true_eq, beq_iff_eq, decide_eq_true_eq]
  refine ⟨fun ho => ho.2, fun ho => ⟨?_, ho⟩⟩
  rw [ho]
  exact h

end MinuteFrame

/-! ## Summing up minutes -/

/-- **A bar sums up some minutes**: the first open, the highest high, the lowest low, the last
close, and the sum of the volumes. -/
structure OhlcvRow.Sums [LinearOrder V] [AddCommMonoid V] (observed : List (OhlcvRow V))
    (bar : OhlcvRow V) : Prop where
  opens : observed.head?.map OhlcvRow.openPrice = some bar.openPrice
  high : IsGreatest {x | ∃ o ∈ observed, o.high = x} bar.high
  low : IsLeast {x | ∃ o ∈ observed, o.low = x} bar.low
  closes : observed.getLast?.map OhlcvRow.close = some bar.close
  volume : (observed.map OhlcvRow.volume).sum = bar.volume

/-- A running maximum is the greatest of what it ran over. -/
theorem foldl_max_isGreatest {α β : Type} [LinearOrder β] (f : α → β) (first : α) (rest : List α) :
    IsGreatest {x | ∃ a ∈ first :: rest, f a = x}
      (rest.foldl (fun best a => max best (f a)) (f first)) := by
  induction rest using List.reverseRecOn with
  | nil => exact ⟨⟨first, List.mem_cons_self, rfl⟩, fun x ⟨a, ha, hx⟩ => by simp_all⟩
  | append_singleton rest last ih =>
    rw [List.foldl_append, List.foldl_cons, List.foldl_nil]
    constructor
    · rcases max_choice (rest.foldl (fun best a => max best (f a)) (f first)) (f last) with
        hmax | hmax
      · obtain ⟨a, ha, hx⟩ := ih.1
        exact ⟨a, List.mem_append_left [last] ha, hx.trans hmax.symm⟩
      · exact ⟨last, List.mem_append_right (first :: rest) List.mem_cons_self, hmax.symm⟩
    · rintro x ⟨a, ha, rfl⟩
      rcases List.mem_append.mp (show a ∈ (first :: rest) ++ [last] from ha) with ha | ha
      · exact (ih.2 ⟨a, ha, rfl⟩).trans (le_max_left _ _)
      · rw [List.mem_singleton.mp ha]
        exact le_max_right _ _

theorem foldl_min_isLeast {α β : Type} [LinearOrder β] (f : α → β) (first : α) (rest : List α) :
    IsLeast {x | ∃ a ∈ first :: rest, f a = x}
      (rest.foldl (fun best a => min best (f a)) (f first)) :=
  @foldl_max_isGreatest α βᵒᵈ _ f first rest

section

variable [LinearOrder V] [AddCommMonoid V]

/-- **The bar of some minutes sums them up**, where there are any. -/
theorem OhlcvRow.aggregate_sums {begin : Time} {observed : List (OhlcvRow V)} {bar : OhlcvRow V}
    (h : OhlcvRow.aggregate begin observed = .ok bar) :
    bar.time = begin ∧ OhlcvRow.Sums observed bar := by
  cases observed with
  | nil => cases h
  | cons first rest =>
    cases h
    refine ⟨rfl, rfl, foldl_max_isGreatest _ _ _, foldl_min_isLeast _ _ _, ?_, rfl⟩
    rw [List.getLast?_cons, Option.map_some, List.getLastD_eq_getLast?]

end

end AgenticTrader
