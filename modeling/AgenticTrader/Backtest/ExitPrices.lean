import AgenticTrader.Backtest.EquityCurve

/-!
# What a bar can fill

The engine closes a trade at the level its bar reaches, the stop or the target. It never reads
where the bar opened. A level that the open has already jumped through was not there to be
filled at: a long stop above the open sells for more than anybody paid at that moment, and
above the high for more than anybody paid that day (`ExitsPossible`). The labels of the
research fill a gap at the open (`label_bracket`).

Between the bars a trailing stop moves to a level that is beyond it and is then rounded to
cents. For a stop that is itself in whole cents the rounding cannot take it back
(`ratchet_tightens`); for one on a finer grid it can.

The opens are handed in beside the run, because nothing in it depends on them.
-/

namespace AgenticTrader

open Checks

namespace BacktestRun

variable {e : BacktestRun} {opens : String → Time → ℚ} {date : Time} {t t' : BacktestTrade}
  {bar : DailyBar}

/-! ## Exits and bars -/

/-- **The opens of the daily bars**: between the low and the high, as the closes are. -/
def Ohlc (e : BacktestRun) (opens : String → Time → ℚ) : Prop :=
  ∀ symbol date bar, e.bar? symbol date = some bar →
    bar.low ≤ opens symbol date ∧ opens symbol date ≤ bar.high
      ∧ bar.low ≤ bar.close ∧ bar.close ≤ bar.high

/-- **An exit at a price the market made**: on the bar, and through the stop not at a better
price than an open that had already passed it. -/
structure ExitPossible (t : BacktestTrade) (bar : DailyBar) (opened : ℚ) : Prop where
  traded : ∀ price reason, bracketHit t bar = some (price, reason) →
    bar.low ≤ price ∧ price ≤ bar.high
  noBetter : ∀ price reason, bracketHit t bar = some (price, reason) → reason ≠ .takeProfit →
    (t.direction = .long → opened < t.stopLoss → price ≤ opened)
      ∧ (t.direction = .short → t.stopLoss < opened → opened ≤ price)

/-- **The bar gaps through no level that it takes the trade out by**: it opens on the near side
of the stop, and comes back to the target. -/
def NoGap (t : BacktestTrade) (bar : DailyBar) (opened : ℚ) : Prop :=
  match t.direction with
  | .long => if bar.low ≤ t.stopLoss then t.stopLoss ≤ opened
      else t.takeProfit ≤ bar.high → bar.low ≤ t.takeProfit
  | .short => if t.stopLoss ≤ bar.high then opened ≤ t.stopLoss
      else bar.low ≤ t.takeProfit → t.takeProfit ≤ bar.high

/-- **Exactly the bars without a gap fill at a possible price.** -/
theorem exitPossible_iff {opened : ℚ} (hlow : bar.low ≤ opened) (hhigh : opened ≤ bar.high) :
    ExitPossible t bar opened ↔ NoGap t bar opened := by
  unfold NoGap
  cases hdirection : t.direction with
  | long =>
    dsimp only
    split_ifs with hstop
    · have hhit : ∃ reason, reason ≠ .takeProfit
          ∧ bracketHit t bar = some (t.stopLoss, reason) := by
        unfold bracketHit
        rw [if_pos hdirection, if_pos hstop]
        split_ifs
        · exact ⟨.trailingStop, nofun, rfl⟩
        · exact ⟨.stopLoss, nofun, rfl⟩
      obtain ⟨reason, hreason, hhit⟩ := hhit
      constructor
      · intro h
        by_contra hgap
        exact hgap ((h.noBetter _ _ hhit hreason).1 hdirection (not_le.mp hgap))
      · intro hopen
        refine ⟨fun price reason' hprice => ?_,
          fun price reason' hprice _ => ⟨fun _ hgap => ?_, ?_⟩⟩
        · cases hhit.symm.trans hprice
          exact ⟨hstop, hopen.trans hhigh⟩
        · exact absurd hopen (not_le.mpr hgap)
        · rw [hdirection]
          nofun
    · have hhit : ∀ price reason, bracketHit t bar = some (price, reason) ↔
          t.takeProfit ≤ bar.high ∧ price = t.takeProfit ∧ reason = .takeProfit := by
        intro price reason
        unfold bracketHit
        rw [if_pos hdirection, if_neg hstop]
        split_ifs with htarget
        · simp [htarget, eq_comm]
        · simp [htarget]
      constructor
      · intro h htarget
        exact (h.traded _ _ ((hhit _ _).mpr ⟨htarget, rfl, rfl⟩)).1
      · intro hback
        refine ⟨fun price reason hprice => ?_, fun price reason hprice hreason => ?_⟩
        · obtain ⟨htarget, rfl, -⟩ := (hhit _ _).mp hprice
          exact ⟨hback htarget, htarget⟩
        · exact absurd ((hhit _ _).mp hprice).2.2 hreason
  | short =>
    dsimp only
    split_ifs with hstop
    · have hhit : ∃ reason, reason ≠ .takeProfit
          ∧ bracketHit t bar = some (t.stopLoss, reason) := by
        unfold bracketHit
        rw [if_neg (by rw [hdirection]; decide), if_pos hstop]
        split_ifs
        · exact ⟨.trailingStop, nofun, rfl⟩
        · exact ⟨.stopLoss, nofun, rfl⟩
      obtain ⟨reason, hreason, hhit⟩ := hhit
      constructor
      · intro h
        by_contra hgap
        exact hgap ((h.noBetter _ _ hhit hreason).2 hdirection (not_le.mp hgap))
      · intro hopen
        refine ⟨fun price reason' hprice => ?_,
          fun price reason' hprice _ => ⟨?_, fun _ hgap => ?_⟩⟩
        · cases hhit.symm.trans hprice
          exact ⟨hlow.trans hopen, hstop⟩
        · rw [hdirection]
          nofun
        · exact absurd hopen (not_le.mpr hgap)
    · have hhit : ∀ price reason, bracketHit t bar = some (price, reason) ↔
          bar.low ≤ t.takeProfit ∧ price = t.takeProfit ∧ reason = .takeProfit := by
        intro price reason
        unfold bracketHit
        rw [if_neg (by rw [hdirection]; decide), if_neg hstop]
        split_ifs with htarget
        · simp [htarget, eq_comm]
        · simp [htarget]
      constructor
      · intro h htarget
        exact (h.traded _ _ ((hhit _ _).mpr ⟨htarget, rfl, rfl⟩)).2
      · intro hback
        refine ⟨fun price reason hprice => ?_, fun price reason hprice hreason => ?_⟩
        · obtain ⟨htarget, rfl, -⟩ := (hhit _ _).mp hprice
          exact ⟨htarget, hback htarget⟩
        · exact absurd ((hhit _ _).mp hprice).2.2 hreason

/-! ## The trailing stop -/

/-- One trade's stop is at least as tight as another's. -/
def Tightens (t t' : BacktestTrade) : Prop :=
  t'.direction = t.direction ∧ 0 ≤ t.direction.sign * (t'.stopLoss - t.stopLoss)

theorem Tightens.refl (t : BacktestTrade) : Tightens t t :=
  ⟨rfl, by rw [sub_self, mul_zero]⟩

theorem Tightens.trans {u : BacktestTrade} (h : Tightens t t') (h' : Tightens t' u) :
    Tightens t u := by
  obtain ⟨hdirection, hle⟩ := h
  obtain ⟨hdirection', hle'⟩ := h'
  rw [hdirection] at hle'
  refine ⟨hdirection'.trans hdirection, ?_⟩
  calc (0 : ℚ)
      ≤ t.direction.sign * (t'.stopLoss - t.stopLoss)
        + t.direction.sign * (u.stopLoss - t'.stopLoss) := add_nonneg hle hle'
    _ = t.direction.sign * (u.stopLoss - t.stopLoss) := by ring

/-- **A stop that a ratchet cannot loosen**: without a trailing stop any; else one in whole
cents, with a smallest step that is not negative. -/
def InCents (e : BacktestRun) (t : BacktestTrade) : Prop :=
  ∀ cfg, e.trailingStop = some cfg → cfg.enabled = true →
    WholeHundredths t.stopLoss
      ∧ 0 ≤ ((e.contracts t.symbol).map ContractConfig.tickSize).getD (1 / 4) * cfg.trailStepTicks

/-- A level beyond a stop in whole cents rounds to one that is not inside it. -/
theorem round2_beyond {direction : Direction} {stop level : ℚ} (hstop : WholeHundredths stop)
    (hbeyond : 0 ≤ direction.sign * (level - stop)) :
    0 ≤ direction.sign * (round2 level - stop) := by
  have hgrid : round2 stop = stop := round2_eq_iff.mpr hstop
  cases direction with
  | long =>
    have hlong : Direction.long.sign = 1 := rfl
    rw [hlong, one_mul] at hbeyond ⊢
    have hle : round2 stop ≤ round2 level := round2_mono (by linarith)
    linarith
  | short =>
    have hshort : Direction.short.sign = -1 := rfl
    rw [hshort] at hbeyond ⊢
    have hle : round2 level ≤ round2 stop := round2_mono (by linarith)
    linarith

/-- **A stop moves**, if at all, to the cents of a level that is beyond it by more than a
margin. -/
def MovesTo (direction : Direction) (margin stop stop' : ℚ) : Prop :=
  stop' = stop ∨ ∃ level, margin < direction.sign * (level - stop) ∧ stop' = round2 level

theorem movesTo_ite (c : Prop) [Decidable c] (direction : Direction) (margin level stop : ℚ) :
    MovesTo direction margin stop
      (if c ∧ margin < direction.sign * (level - stop) then round2 level else stop) := by
  split_ifs with h
  · exact .inr ⟨level, h.2, rfl⟩
  · exact .inl rfl

theorem MovesTo.beyond {direction : Direction} {margin stop stop' : ℚ}
    (h : MovesTo direction margin stop stop') (hmargin : 0 ≤ margin)
    (hstop : WholeHundredths stop) :
    WholeHundredths stop' ∧ 0 ≤ direction.sign * (stop' - stop) := by
  rcases h with rfl | ⟨level, hlevel, rfl⟩
  · exact ⟨hstop, by rw [sub_self, mul_zero]⟩
  · exact ⟨round2_eq_iff.mp (round2_round2 level), round2_beyond hstop (hmargin.trans hlevel.le)⟩

/-- **What a ratchet does to a stop**: it may move to the break-even level, and from there by
more than the smallest step to the trailing one. -/
theorem ratchet_moves (t : BacktestTrade) (bar : DailyBar) {cfg : TrailingStopConfig}
    (hcfg : e.trailingStop = some cfg) (henabled : cfg.enabled = true) :
    (e.ratchet t bar).toTradeEntry = t.toTradeEntry
      ∧ ∃ mid, MovesTo t.direction 0 t.stopLoss mid
        ∧ MovesTo t.direction (((e.contracts t.symbol).map ContractConfig.tickSize).getD (1 / 4)
            * cfg.trailStepTicks) mid (e.ratchet t bar).stopLoss := by
  refine ⟨ratchet_entry t bar, ?_⟩
  unfold ratchet
  rw [hcfg]
  dsimp only
  rw [if_pos henabled]
  exact ⟨_, movesTo_ite _ _ _ _ _, movesTo_ite _ _ _ _ _⟩

/-- **The ratchet only tightens** a stop in whole cents. -/
theorem ratchet_tightens (h : e.InCents t) : Tightens t (e.ratchet t bar) := by
  by_cases hon : ∃ cfg, e.trailingStop = some cfg ∧ cfg.enabled = true
  · obtain ⟨cfg, hcfg, henabled⟩ := hon
    obtain ⟨hcents, hstep⟩ := h cfg hcfg henabled
    obtain ⟨hentry, mid, hfirst, hsecond⟩ := ratchet_moves t bar hcfg henabled
    obtain ⟨hmid, hle⟩ := hfirst.beyond le_rfl hcents
    obtain ⟨-, hle'⟩ := hsecond.beyond hstep hmid
    refine ⟨congrArg TradeEntry.direction hentry, ?_⟩
    calc (0 : ℚ)
        ≤ t.direction.sign * ((e.ratchet t bar).stopLoss - mid)
          + t.direction.sign * (mid - t.stopLoss) := add_nonneg hle' hle
      _ = t.direction.sign * ((e.ratchet t bar).stopLoss - t.stopLoss) := by ring
  · have hoff : e.ratchet t bar = t := by
      unfold ratchet
      split
      · rfl
      · next cfg hcfg => exact if_neg (fun henabled => hon ⟨cfg, hcfg, henabled⟩)
    rw [hoff]
    exact Tightens.refl t

/-! ## What becomes of an open trade -/

/-- What is left of an open trade after a date, unless the date closes it. -/
def carried (e : BacktestRun) (date : Time) (t : BacktestTrade) : Option BacktestTrade :=
  match e.bar? t.symbol date with
  | none => some { t with durationBars := t.durationBars + 1 }
  | some bar =>
    if (bracketHit t bar).isSome then none
    else some (e.ratchet { t with durationBars := t.durationBars + 1 } bar)

theorem updatePosition_remaining {pass pass' : PositionPass}
    (h : e.updatePosition date pass t = .ok pass') :
    pass'.remaining = pass.remaining ++ (e.carried date t).toList := by
  unfold updatePosition at h
  dsimp only at h
  split at h
  · next hbar =>
    cases h
    have hkept : e.carried date t = some { t with durationBars := t.durationBars + 1 } := by
      unfold carried
      rw [show e.bar? t.symbol date = none from hbar]
    rw [hkept]
    rfl
  · next bar hbar =>
    have hcarried : e.carried date t = if (bracketHit t bar).isSome then none
        else some (e.ratchet { t with durationBars := t.durationBars + 1 } bar) := by
      unfold carried
      rw [show e.bar? t.symbol date = some bar from hbar]
    rw [hcarried]
    split at h
    · next exitPrice reason hhit =>
      obtain ⟨closed, -, h⟩ := except_bind_eq_ok.mp h
      cases h
      rw [show bracketHit t bar = some (exitPrice, reason) from hhit, Option.isSome_some,
        if_pos rfl]
      exact (List.append_nil _).symm
    · next hhit =>
      cases h
      rw [show bracketHit t bar = none from hhit, Option.isSome_none, if_neg Bool.false_ne_true]
      rfl

theorem updatePositions_remaining {trades : List BacktestTrade} {pass pass' : PositionPass}
    (h : e.updatePositions date pass trades = .ok pass') :
    pass'.remaining = pass.remaining ++ trades.filterMap (e.carried date) := by
  unfold updatePositions at h
  induction trades generalizing pass with
  | nil =>
    cases h
    exact (List.append_nil _).symm
  | cons t trades ih =>
    rw [List.foldlM_cons] at h
    obtain ⟨next, hfirst, hrest⟩ := except_bind_eq_ok.mp h
    rw [ih hrest, updatePosition_remaining hfirst, List.append_assoc, List.filterMap_cons]
    cases e.carried date t <;> rfl

/-- What is left of the open trades is open after the date. -/
theorem mem_openTrades_of_carried {idx : ℕ} {s s' : BacktestState}
    (h : e.step idx date s = .ok s') (ht : t ∈ s.openTrades)
    (hcarried : e.carried date t = some t') :
    t' ∈ s'.openTrades := by
  obtain ⟨pass, hpass, h⟩ := except_bind_eq_ok.mp h
  obtain ⟨opened, hopened, -⟩ := e.enterSymbols_spec idx date pass.remaining
  cases h
  show t' ∈ e.enterSymbols idx date pass.remaining
  rw [hopened, updatePositions_remaining hpass]
  exact List.mem_append_left _ (List.mem_append_right _ (List.mem_filterMap.mpr ⟨t, ht, hcarried⟩))

/-- **What an open trade has become** some dates later, while it stays open. -/
inductive Becomes (e : BacktestRun) (i : ℕ) (t : BacktestTrade) : ℕ → BacktestTrade → Prop where
  | here : Becomes e i t i t
  | later {j : ℕ} {u u' : BacktestTrade} {date : Time} (h : Becomes e i t j u)
      (hdate : e.timeline[j]? = some date) (hcarried : e.carried date u = some u') :
      Becomes e i t (j + 1) u'

/-! ## Every run -/

/-- **Every exit of a run is at a price the market made**: whichever open trade a bar takes out,
on whichever date. -/
def ExitsPossible (e : BacktestRun) (opens : String → Time → ℚ) : Prop :=
  ∀ i s date, e.runThrough i = .ok s → e.timeline[i]? = some date → ∀ t ∈ s.openTrades,
    ∀ bar, e.bar? t.symbol date = some bar → ExitPossible t bar (opens t.symbol date)

/-- **The stops of a run only tighten**: from any date on which a trade is open to any later
one on which it still is. -/
def StopsTighten (e : BacktestRun) : Prop :=
  ∀ i s, e.runThrough i = .ok s → ∀ t ∈ s.openTrades,
    ∀ j s', e.runThrough j = .ok s' → ∀ t', e.Becomes i t j t' → Tightens t t'

/-- No bar of a run gaps through a level that it takes an open trade out by. -/
def NeverGaps (e : BacktestRun) (opens : String → Time → ℚ) : Prop :=
  ∀ i s date, e.runThrough i = .ok s → e.timeline[i]? = some date → ∀ t ∈ s.openTrades,
    ∀ bar, e.bar? t.symbol date = some bar → NoGap t bar (opens t.symbol date)

/-- The stops that a date may move cannot be loosened. -/
def StopsInCents (e : BacktestRun) : Prop :=
  ∀ i s date, e.runThrough i = .ok s → e.timeline[i]? = some date → ∀ t ∈ s.openTrades,
    ∀ bar, e.bar? t.symbol date = some bar → bracketHit t bar = none → e.InCents t

/-- **One date tightens**, whatever it leaves open. -/
theorem carried_tightens (hcarried : e.carried date t = some t')
    (hcents : ∀ bar, e.bar? t.symbol date = some bar → bracketHit t bar = none → e.InCents t) :
    Tightens t t' := by
  unfold carried at hcarried
  split at hcarried
  · cases hcarried
    exact Tightens.refl t
  · next bar hbar =>
    split_ifs at hcarried with hhit
    cases hcarried
    have hmoved := hcents bar hbar (Option.not_isSome_iff_eq_none.mp hhit)
    exact ratchet_tightens (t := { t with durationBars := t.durationBars + 1 }) hmoved

/-- **What a run lets an open trade become** is open in the run, with a stop at least as
tight. -/
theorem Becomes.tightens {i j : ℕ} {s s' : BacktestState} (hcents : e.StopsInCents)
    (h : e.Becomes i t j t') (hrun : e.runThrough i = .ok s) (ht : t ∈ s.openTrades)
    (hrun' : e.runThrough j = .ok s') : t' ∈ s'.openTrades ∧ Tightens t t' := by
  induction h generalizing s' with
  | here =>
    cases hrun.symm.trans hrun'
    exact ⟨ht, Tightens.refl t⟩
  | later _ hdate hcarried ih =>
    obtain ⟨hidx, -⟩ := List.getElem?_eq_some_iff.mp hdate
    obtain ⟨before, date, hbefore, hdate', hstep⟩ := runThrough_succ_eq_ok hrun' hidx
    cases hdate.symm.trans hdate'
    obtain ⟨hopen, htight⟩ := ih hbefore
    exact ⟨mem_openTrades_of_carried hstep hopen hcarried,
      htight.trans (carried_tightens hcarried (hcents _ _ _ hbefore hdate _ hopen))⟩

/-- **Exactly the runs without a gap exit at possible prices**, and the stops tighten in every
run in which those that a date may move are in whole cents. -/
theorem exitsPossible_iff_and_stopsTighten (e : BacktestRun) (opens : String → Time → ℚ)
    (hohlc : e.Ohlc opens) :
    (e.ExitsPossible opens ↔ e.NeverGaps opens) ∧ (e.StopsInCents → e.StopsTighten) := by
  refine ⟨⟨?_, ?_⟩, ?_⟩
  · intro h i s date hrun hdate t ht bar hbar
    obtain ⟨hlow, hhigh, -⟩ := hohlc t.symbol date bar hbar
    exact (exitPossible_iff hlow hhigh).mp (h i s date hrun hdate t ht bar hbar)
  · intro h i s date hrun hdate t ht bar hbar
    obtain ⟨hlow, hhigh, -⟩ := hohlc t.symbol date bar hbar
    exact (exitPossible_iff hlow hhigh).mpr (h i s date hrun hdate t ht bar hbar)
  · intro hcents i s hrun t ht j s' hrun' t' hbecomes
    exact (hbecomes.tightens hcents hrun ht hrun').2

/-! ## A gap and a fine stop -/

/-- A share bought at 100 with its stop at 50, and twenty days at 40. -/
def gapDown : BacktestRun := { missingBar with dataMap := [("B", flatData "B" 20 40)] }

theorem gapDown_ohlc : gapDown.Ohlc (fun _ _ => 40) := by
  intro symbol date bar hbar
  obtain ⟨data, hdata, hbar⟩ := Option.bind_eq_some_iff.mp hbar
  obtain ⟨before, after, hlookup, -⟩ := List.lookup_eq_some_iff.mp hdata
  have hmem : (symbol, data) ∈ gapDown.dataMap := by
    rw [hlookup]
    exact List.mem_append_right _ List.mem_cons_self
  cases List.mem_singleton.mp hmem
  obtain ⟨day, -, rfl⟩ := List.mem_map.mp (List.mem_of_find?_eq_some hbar)
  exact ⟨le_rfl, le_rfl, le_rfl, le_rfl⟩

/-- The stop is not a price of the day on which it is hit. -/
theorem gapDown_not_possible : ¬ gapDown.ExitsPossible (fun _ _ => 40) := by
  intro h
  have hbar : gapDown.bar? "B" 0 = some ⟨0, 40, 40, 40, 0⟩ := rfl
  have hpossible := h 0 gapDown.start 0 rfl (by decide +kernel) shareOfB List.mem_cons_self _ hbar
  have htraded := (hpossible.traded 50 .stopLoss (by decide +kernel)).2
  norm_num at htraded

/-- A bar gaps through the stop; and without a trailing stop no stop is loosened. -/
theorem gapDown_gaps :
    ¬ gapDown.NeverGaps (fun _ _ => 40) ∧ gapDown.StopsTighten := by
  obtain ⟨hiff, htighten⟩ :=
    exitsPossible_iff_and_stopsTighten gapDown (fun _ _ => 40) gapDown_ohlc
  refine ⟨fun hnever => gapDown_not_possible (hiff.mpr hnever), htighten ?_⟩
  rintro i s date - - t - bar - - cfg ⟨⟩

/-- The share is sold at its stop on a day that never came near it. -/
theorem gapDown_sold_at_the_stop :
    gapDown.Ohlc (fun _ _ => 40) ∧ ¬ gapDown.ExitsPossible (fun _ _ => 40)
      ∧ gapDown.run.toOption.map (fun s => s.closedTrades.map BacktestTrade.exitPrice)
        = some [some 50] :=
  ⟨gapDown_ohlc, gapDown_not_possible, by decide +kernel⟩

/-- A long stop at 1.0834, moved to a break-even level of 1.0836, comes out at 1.08. -/
example :
    ({ missingBar with trailingStop := some ⟨true, 100, 1, some 0, 0, 1⟩ }.ratchet
      { shareOfB with
        entryPrice := 1.0836, initialStopLoss := 1, stopLoss := 1.0834, highWaterMark := 1.0836 }
      ⟨0, 1.09, 1.085, 1.088, 0⟩).stopLoss = 1.08 := by
  norm_num [ratchet, missingBar, shareOfB, multiplierOf, Direction.sign, round2, roundHalfEven,
    abs_of_nonneg]

end BacktestRun

end AgenticTrader
