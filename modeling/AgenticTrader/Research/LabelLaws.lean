import AgenticTrader.Research.Labels
import Mathlib.Algebra.Order.Group.MinMax
import Mathlib.Tactic.Ring

/-!
# Labels are final, causal and symmetric

A label that is resolved is decided by the bars up to the one that decided it,
so bars that come later cannot change it; and it is decided by the regular bars
from the decision on alone (`label_causal_and_final`).

Reflecting every price about a constant turns a long bracket into a short one
with the bars upside down, and the walks of the two run side by side: each test,
fill and ratchet of one is the reflection of the other's (`label_mirrored`). Only
the cost is not symmetric, as it is a share of the entry price itself. The law is
one of exact prices: two reflected doubles need not be as far apart as the doubles
they reflect.
-/

namespace AgenticTrader

/-! ## Finality -/

namespace BracketWalk

variable (w : BracketWalk) (zone : Zone)

/-- **A walk that resolved does not look further.** -/
theorem walk_append {bars later : List HourlyBar} {s : WalkState} {out : BracketOutcome}
    (h : w.walk zone bars s = .ok out) (hhit : out.hit ≠ .immature) :
    w.walk zone (bars ++ later) s = .ok out := by
  induction bars generalizing s with
  | nil =>
    cases h
    exact absurd rfl hhit
  | cons bar bars ih =>
    rw [List.cons_append]
    unfold walk at h ⊢
    cases hstep : w.step zone bar s with
    | inl outcome =>
      rw [hstep] at h
      exact h
    | inr next =>
      rw [hstep] at h
      exact ih h

theorem enter_append {bars later : List HourlyBar} {out : BracketOutcome}
    (h : w.enter zone bars = .ok out) (hhit : out.hit ≠ .immature) :
    w.enter zone (bars ++ later) = .ok out := by
  unfold enter at h ⊢
  split
  · rename_i hstop
    rw [if_pos hstop] at h
    exact h
  · rename_i hstop
    rw [if_neg hstop] at h
    split
    · rename_i htarget
      rw [if_pos htarget] at h
      exact h
    · rename_i htarget
      rw [if_neg htarget] at h
      exact w.walk_append zone h hhit

end BracketWalk

/-- **A bar series**: bars in the order of their times. -/
structure BarSeries where
  bars : List HourlyBar
  sorted : bars.Pairwise (fun a b => a.time < b.time)

/-- The bars of a series that a decision can act on: those of regular hours, at
or after it. -/
def BarSeries.since (series : BarSeries) (zone : Zone) (decisionAt : Time) : List HourlyBar :=
  (regularSessionBars zone series.bars).filter (fun bar => decisionAt ≤ bar.time)

/-- In order of time, dropping what comes before is keeping what does not. -/
theorem dropWhile_before {bars : List HourlyBar}
    (hsorted : bars.Pairwise (fun a b => a.time < b.time)) (decisionAt : Time) :
    bars.dropWhile (fun bar => bar.time < decisionAt)
      = bars.filter (fun bar => decisionAt ≤ bar.time) := by
  induction bars with
  | nil => rfl
  | cons bar bars ih =>
    obtain ⟨hlater, hrest⟩ := List.pairwise_cons.mp hsorted
    by_cases hbefore : bar.time < decisionAt
    · rw [List.dropWhile_cons_of_pos (by simpa using hbefore),
        List.filter_cons_of_neg (by simpa using hbefore), ih hrest]
    · rw [List.dropWhile_cons_of_neg (by simpa using hbefore)]
      refine (List.filter_eq_self.mpr ?_).symm
      intro b hb
      rw [decide_eq_true_eq]
      rcases List.mem_cons.mp hb with rfl | hb
      · exact not_lt.mp hbefore
      · exact (not_lt.mp hbefore).trans (hlater b hb).le

section Label

variable (zone : Zone) (levels : SetupLevels) (decisionAt : Time) (maxHoldSessions : ℤ)
  (costBpsPerSide : ℚ) (arm : Option BracketArm)

theorem labelBracket_append {hourly later : List HourlyBar} {out : BracketOutcome}
    (h : labelBracket zone levels decisionAt hourly maxHoldSessions costBpsPerSide arm = .ok out)
    (hhit : out.hit ≠ .immature) :
    labelBracket zone levels decisionAt (hourly ++ later) maxHoldSessions costBpsPerSide arm
      = .ok out := by
  unfold labelBracket regularSessionBars at h ⊢
  rw [List.filter_append, List.dropWhile_append]
  split at h
  · cases h
    exact absurd rfl hhit
  · rename_i entry rest hfound
    rw [hfound]
    exact BracketWalk.enter_append _ zone h hhit

/-- **The label reads the regular bars since the decision, and no others.** -/
theorem labelBracket_since (series : BarSeries) :
    labelBracket zone levels decisionAt series.bars maxHoldSessions costBpsPerSide arm
      = match series.since zone decisionAt with
        | [] => .ok (neverEntered levels)
        | entry :: rest =>
          BracketWalk.enter ⟨levels, entry, armTarget levels arm, arm.bind (·.trail),
            maxHoldSessions, costBpsPerSide⟩ zone (entry :: rest) := by
  unfold labelBracket BarSeries.since regularSessionBars
  rewrite [dropWhile_before (series.sorted.filter _)]
  rfl

/-- **Bracket labels are causal and final.** A label that resolved is the label
of every extension by further bars; and two series with the same regular bars
at or after the decision have the same label. -/
theorem label_causal_and_final :
    (∀ (series : BarSeries) (later : List HourlyBar) (out : BracketOutcome),
      labelBracket zone levels decisionAt series.bars maxHoldSessions costBpsPerSide arm = .ok out →
      out.hit ≠ .immature →
      labelBracket zone levels decisionAt (series.bars ++ later) maxHoldSessions costBpsPerSide arm
        = .ok out)
      ∧ ∀ series series' : BarSeries,
        series.since zone decisionAt = series'.since zone decisionAt →
        labelBracket zone levels decisionAt series.bars maxHoldSessions costBpsPerSide arm
          = labelBracket zone levels decisionAt series'.bars maxHoldSessions costBpsPerSide
            arm := by
  refine ⟨fun series later out h hhit => ?_, fun series series' hsame => ?_⟩
  · exact labelBracket_append zone levels decisionAt maxHoldSessions costBpsPerSide arm h hhit
  · rw [labelBracket_since, labelBracket_since, hsame]

end Label

/-- A bracket that a first bar stops stays stopped when a bar at its target
follows, and an earlier bar changes nothing. -/
theorem label_causal_and_final_stopped :
    let zone : Zone := ⟨(· - 5 * Zone.hour), (· + 5 * Zone.hour)⟩
    let levels : SetupLevels := ⟨.long, 100, 99, 102, by decide +kernel⟩
    let before : HourlyBar := ⟨15 * Zone.hour, 90, 90, 90, 90⟩
    let bar : HourlyBar := ⟨16 * Zone.hour, 100, 101, 98, 100⟩
    let later : HourlyBar := ⟨17 * Zone.hour, 101, 103, 101, 102⟩
    let label := fun bars => labelBracket zone levels (16 * Zone.hour) bars 2 0 none
    ∃ out, label [bar] = .ok out ∧ out.hit = .stop ∧ label [bar, later] = .ok out
      ∧ label [before, bar] = label [bar] := by
  intro zone levels before bar later label
  have hcausal := label_causal_and_final zone levels (16 * Zone.hour) 2 0 none
  have hlabel : label [bar] = .ok ⟨.stop, some (16 * Zone.hour), some 100, some (16 * Zone.hour),
      some 99, some (-1), some (-1), 1, some 99, 0⟩ := by decide +kernel
  refine ⟨_, hlabel, rfl, ?_, ?_⟩
  · exact hcausal.1 ⟨[bar], by simp⟩ [later] _ hlabel (by decide)
  · exact hcausal.2 ⟨[before, bar], by decide +kernel⟩ ⟨[bar], by simp⟩ (by decide +kernel)

/-! ## Reflection -/

/-- The other direction. -/
def Direction.flip : Direction → Direction
  | .long => .short
  | .short => .long

@[simp] theorem Direction.sign_flip (direction : Direction) :
    direction.flip.sign = -direction.sign := by
  cases direction <;> simp [flip, sign]

/-- **A bar upside down**: its prices reflected about a constant, with the high
and the low exchanged. -/
def HourlyBar.mirror (c : ℚ) (bar : HourlyBar) : HourlyBar :=
  ⟨bar.time, c - bar.open_, c - bar.low, c - bar.high, c - bar.close⟩

/-- **The bracket of the other direction**, at the reflected prices. -/
def SetupLevels.mirror (c : ℚ) (levels : SetupLevels) : SetupLevels where
  direction := levels.direction.flip
  entry := c - levels.entry
  stop := c - levels.stop
  target := c - levels.target
  ordered := by
    have h := levels.ordered
    cases hdir : levels.direction with
    | long =>
      rw [hdir, if_pos rfl] at h
      rw [Direction.flip, if_neg (by decide)]
      constructor <;> linarith [h.1, h.2]
    | short =>
      rw [hdir, if_neg (by decide)] at h
      rw [Direction.flip, if_pos rfl]
      constructor <;> linarith [h.1, h.2]

/-- **An outcome at the reflected prices.** Its times, its counts and its result
in units of risk stay as they are. -/
def BracketOutcome.mirror (c : ℚ) (out : BracketOutcome) : BracketOutcome :=
  { out with
    entryPrice := out.entryPrice.map (c - ·)
    exitPrice := out.exitPrice.map (c - ·)
    finalStop := out.finalStop.map (c - ·) }

/-- An outcome without its result after costs. -/
def BracketOutcome.gross (out : BracketOutcome) : BracketOutcome := { out with rCost := none }

/-- The state of the reflected walk. -/
def WalkState.mirror (c : ℚ) (s : WalkState) : WalkState :=
  ⟨c - s.stop, s.moves, s.dates, s.prev.map (HourlyBar.mirror c)⟩

namespace BracketWalk

variable (c : ℚ) (w : BracketWalk)

/-- The walk of the reflected bracket. -/
def mirror : BracketWalk :=
  { w with
    levels := w.levels.mirror c
    entry := w.entry.mirror c
    target := w.target.map (c - ·) }

@[simp] theorem riskUnit_mirror : (w.mirror c).riskUnit = w.riskUnit := by
  show |c - w.levels.entry - (c - w.levels.stop)| = |w.levels.entry - w.levels.stop|
  rw [sub_sub_sub_cancel_left, abs_sub_comm]

theorem beyondStop_mirror (price stop : ℚ) :
    (w.mirror c).beyondStop (c - price) (c - stop) = w.beyondStop price stop := by
  unfold beyondStop
  show (if w.levels.direction.flip = .long then _ else _) = _
  cases w.levels.direction with
  | long => exact decide_eq_decide.mpr (sub_le_sub_iff_left c)
  | short => exact decide_eq_decide.mpr (sub_le_sub_iff_left c)

theorem beyondTarget_mirror (price target : ℚ) :
    (w.mirror c).beyondTarget (c - price) (c - target) = w.beyondTarget price target := by
  unfold beyondTarget
  show (if w.levels.direction.flip = .long then _ else _) = _
  cases w.levels.direction with
  | long => exact decide_eq_decide.mpr (sub_le_sub_iff_left c)
  | short => exact decide_eq_decide.mpr (sub_le_sub_iff_left c)

theorem worst_mirror (bar : HourlyBar) : (w.mirror c).worst (bar.mirror c) = c - w.worst bar := by
  unfold worst
  show (if w.levels.direction.flip = .long then _ else _) = _
  cases w.levels.direction <;> rfl

theorem best_mirror (bar : HourlyBar) : (w.mirror c).best (bar.mirror c) = c - w.best bar := by
  unfold best
  show (if w.levels.direction.flip = .long then _ else _) = _
  cases w.levels.direction <;> rfl

theorem stopFill_mirror (bar : HourlyBar) (stop : ℚ) :
    (w.mirror c).stopFill (bar.mirror c) (c - stop) = c - w.stopFill bar stop := by
  unfold stopFill
  show (if w.levels.direction.flip = .long then min (c - bar.open_) _ else max (c - bar.open_) _)
    = _
  cases w.levels.direction with
  | long => exact max_sub_sub_left c bar.open_ stop
  | short => exact min_sub_sub_left c bar.open_ stop

theorem targetFill_mirror (bar : HourlyBar) (target : ℚ) :
    (w.mirror c).targetFill (bar.mirror c) (c - target) = c - w.targetFill bar target := by
  unfold targetFill
  show (if w.levels.direction.flip = .long then max (c - bar.open_) _ else min (c - bar.open_) _)
    = _
  cases w.levels.direction with
  | long => exact min_sub_sub_left c bar.open_ target
  | short => exact max_sub_sub_left c bar.open_ target

/-- The gain of a price over another is the same from above as from below. -/
theorem sign_mirror (price price' : ℚ) :
    (w.mirror c).levels.direction.sign * (c - price - (c - price'))
      = w.levels.direction.sign * (price - price') := by
  show w.levels.direction.flip.sign * _ = _
  rw [Direction.sign_flip]
  ring

theorem ratchet_mirror (bar : HourlyBar) (s : WalkState) :
    (w.mirror c).ratchet (bar.mirror c) (s.mirror c)
      = (c - (w.ratchet bar s).1, (w.ratchet bar s).2) := by
  have htrail : (w.mirror c).trail = w.trail := rfl
  unfold ratchet
  rw [htrail]
  cases w.trail with
  | none => rfl
  | some trail =>
    have hproposed : (bar.mirror c).close
          - (w.mirror c).levels.direction.sign * trail.distanceR * w.riskUnit
        = c - (bar.close - w.levels.direction.sign * trail.distanceR * w.riskUnit) := by
      show c - bar.close - w.levels.direction.flip.sign * trail.distanceR * w.riskUnit = _
      rw [Direction.sign_flip]
      ring
    have hgain : (w.mirror c).levels.direction.sign
        * ((bar.mirror c).close - (w.mirror c).entry.open_)
        = w.levels.direction.sign * (bar.close - w.entry.open_) :=
      w.sign_mirror c bar.close w.entry.open_
    have hmove : ∀ price, (w.mirror c).levels.direction.sign * (c - price - (s.mirror c).stop)
        = w.levels.direction.sign * (price - s.stop) := fun price => w.sign_mirror c price s.stop
    simp only [riskUnit_mirror, hproposed, hgain, hmove]
    split_ifs <;> rfl

/-- **A resolution of the reflected walk** is the reflected one, but for the costs. -/
theorem resolved_mirror (hit : BracketHit) (exitTime : Time) (exitPrice : ℚ) (sessions : ℤ)
    (s : WalkState) :
    ((w.mirror c).resolved hit exitTime (c - exitPrice) sessions (s.mirror c)).gross
      = ((w.resolved hit exitTime exitPrice sessions s).mirror c).gross := by
  have hgain : (w.mirror c).levels.direction.sign * (c - exitPrice - (w.mirror c).entry.open_)
      = w.levels.direction.sign * (exitPrice - w.entry.open_) :=
    w.sign_mirror c exitPrice w.entry.open_
  unfold resolved BracketOutcome.gross BracketOutcome.mirror
  simp only [hgain, riskUnit_mirror, Option.map_some]
  rfl

variable (zone : Zone)

/-- **One bar of the reflected walk**: it ends as the other does, or leaves the
reflected state. -/
theorem step_mirror (bar : HourlyBar) (s : WalkState) :
    ((w.mirror c).step zone (bar.mirror c) (s.mirror c)).map (Except.map BracketOutcome.gross) id
      = (w.step zone bar s).map (Except.map fun out => (out.mirror c).gross)
        (WalkState.mirror c) := by
  have hfilter : (w.target.map (c - ·)).filter
        ((w.mirror c).beyondTarget ((w.mirror c).best (bar.mirror c)))
      = (w.target.filter (w.beyondTarget (w.best bar))).map (c - ·) := by
    rw [best_mirror]
    cases w.target with
    | none => rfl
    | some target =>
      rw [Option.map_some, Option.filter_some, Option.filter_some, beyondTarget_mirror]
      split <;> rfl
  have hstop : (w.mirror c).beyondStop ((w.mirror c).worst (bar.mirror c)) (s.mirror c).stop
      = w.beyondStop (w.worst bar) s.stop := by
    rw [worst_mirror]
    exact w.beyondStop_mirror c _ _
  unfold step
  rw [hstop]
  show Sum.map _ _ (if zone.date bar.time ∉ s.dates
        ∧ ((seen zone bar s).length : ℤ) = w.maxHoldSessions + 1 then _ else _)
      = Sum.map _ _ (if zone.date bar.time ∉ s.dates
        ∧ ((seen zone bar s).length : ℤ) = w.maxHoldSessions + 1 then _ else _)
  split_ifs with hlast hhit
  · have hprev : (s.mirror c).prev = s.prev.map (HourlyBar.mirror c) := rfl
    rw [hprev]
    cases s.prev with
    | none => rfl
    | some prev => exact congrArg (Sum.inl ∘ Except.ok) (w.resolved_mirror c _ _ prev.close _ s)
  · refine congrArg (Sum.inl ∘ Except.ok) ?_
    show BracketOutcome.gross
      (resolved _ _ _ ((w.mirror c).stopFill (bar.mirror c) (c - s.stop)) _ _)
      = _
    rw [stopFill_mirror]
    exact w.resolved_mirror c _ _ _ _ s
  · have htarget : (w.mirror c).target = w.target.map (c - ·) := rfl
    rw [htarget, hfilter]
    cases w.target.filter (w.beyondTarget (w.best bar)) with
    | none =>
      refine congrArg Sum.inr ?_
      show WalkState.mk _ _ _ _ = WalkState.mk _ _ _ _
      rw [ratchet_mirror]
      rfl
    | some target =>
      refine congrArg (Sum.inl ∘ Except.ok) ?_
      show BracketOutcome.gross
        (resolved _ _ _ ((w.mirror c).targetFill (bar.mirror c) (c - target)) _ _) = _
      rw [targetFill_mirror]
      exact w.resolved_mirror c _ _ _ _ s

/-- **The walks run side by side**, over every series. -/
theorem walk_mirror (bars : List HourlyBar) (s : WalkState) :
    ((w.mirror c).walk zone (bars.map (HourlyBar.mirror c)) (s.mirror c)).map BracketOutcome.gross
      = (w.walk zone bars s).map fun out => (out.mirror c).gross := by
  induction bars generalizing s with
  | nil => rfl
  | cons bar bars ih =>
    have hstep := w.step_mirror c zone bar s
    rw [List.map_cons]
    unfold walk
    cases h : w.step zone bar s with
    | inl outcome =>
      rw [h] at hstep
      cases h' : (w.mirror c).step zone (bar.mirror c) (s.mirror c) with
      | inl outcome' =>
        rw [h'] at hstep
        exact Sum.inl.inj hstep
      | inr next' =>
        rw [h'] at hstep
        cases hstep
    | inr next =>
      rw [h] at hstep
      cases h' : (w.mirror c).step zone (bar.mirror c) (s.mirror c) with
      | inl outcome' =>
        rw [h'] at hstep
        cases hstep
      | inr next' =>
        rw [h'] at hstep
        have hnext : next' = next.mirror c := Sum.inr.inj hstep
        subst hnext
        exact ih next

theorem enter_mirror (bars : List HourlyBar) :
    ((w.mirror c).enter zone (bars.map (HourlyBar.mirror c))).map BracketOutcome.gross
      = (w.enter zone bars).map fun out => (out.mirror c).gross := by
  have hstop : (w.mirror c).beyondStop (w.mirror c).entry.open_ (w.mirror c).levels.stop
      = w.beyondStop w.entry.open_ w.levels.stop := w.beyondStop_mirror c _ _
  have htarget : (w.mirror c).target.any ((w.mirror c).beyondTarget (w.mirror c).entry.open_)
      = w.target.any (w.beyondTarget w.entry.open_) := by
    show (w.target.map (c - ·)).any _ = _
    cases w.target with
    | none => rfl
    | some target => exact w.beyondTarget_mirror c w.entry.open_ target
  unfold enter
  rw [hstop, htarget]
  split_ifs
  · exact congrArg Except.ok (w.resolved_mirror c _ _ w.entry.open_ _ w.start)
  · exact congrArg Except.ok (w.resolved_mirror c _ _ w.entry.open_ _ w.start)
  · exact w.walk_mirror c zone bars w.start

end BracketWalk

theorem armTarget_mirror (c : ℚ) (levels : SetupLevels) (arm : Option BracketArm) :
    armTarget (levels.mirror c) arm = (armTarget levels arm).map (c - ·) := by
  have hrisk : |(levels.mirror c).entry - (levels.mirror c).stop|
      = |levels.entry - levels.stop| := by
    show |c - levels.entry - (c - levels.stop)| = _
    rw [sub_sub_sub_cancel_left, abs_sub_comm]
  cases arm with
  | none => rfl
  | some arm =>
    unfold armTarget
    rw [hrisk]
    simp only
    split_ifs with hlive
    · rfl
    · cases arm.targetR with
      | none => rfl
      | some targetR =>
        refine congrArg some ?_
        show c - levels.entry + levels.direction.flip.sign * targetR * _ = _
        rw [Direction.sign_flip]
        ring

/-- The bars of regular hours from a decision on, upside down. -/
theorem entryBars_mirror (c : ℚ) (zone : Zone) (decisionAt : Time) (hourly : List HourlyBar) :
    (regularSessionBars zone (hourly.map (HourlyBar.mirror c))).dropWhile
        (fun bar => bar.time < decisionAt)
      = ((regularSessionBars zone hourly).dropWhile (fun bar => bar.time < decisionAt)).map
          (HourlyBar.mirror c) := by
  unfold regularSessionBars
  rw [List.filter_map, List.dropWhile_map]
  rfl

/-- **Long and short labels mirror each other.** At prices reflected about any
constant, exactly, the bracket of the other direction has the reflected outcome:
the same hit, times, sessions, moves and result in units of risk, and the entry, the
exit and the final stop reflected. -/
theorem label_mirrored (zone : Zone) (c : ℚ) (levels : SetupLevels) (decisionAt : Time)
    (hourly : List HourlyBar) (maxHoldSessions : ℤ) (costBpsPerSide : ℚ)
    (arm : Option BracketArm) :
    (labelBracket zone (levels.mirror c) decisionAt (hourly.map (HourlyBar.mirror c))
        maxHoldSessions costBpsPerSide arm).map BracketOutcome.gross
      = (labelBracket zone levels decisionAt hourly maxHoldSessions costBpsPerSide arm).map
          fun out => (out.mirror c).gross := by
  unfold labelBracket
  rw [entryBars_mirror]
  cases (regularSessionBars zone hourly).dropWhile (fun bar => bar.time < decisionAt) with
  | nil => rfl
  | cons entry rest =>
    rw [List.map_cons]
    simp only [armTarget_mirror]
    exact BracketWalk.enter_mirror c ⟨levels, entry, armTarget levels arm, arm.bind (·.trail),
      maxHoldSessions, costBpsPerSide⟩ zone (entry :: rest)

end AgenticTrader
