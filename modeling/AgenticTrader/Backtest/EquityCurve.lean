import AgenticTrader.Backtest.Engine
import Mathlib.Data.List.Perm.Basic

/-!
# The equity curve and its trades

What the cash of a backtest is made of, in every run: the initial cash, the interest, and what
the closed trades made (`RunInv`). Every trade that was there or was entered is open or closed,
once; and what a run enters shares no symbol with anything that is open and stays within the
capacity.

The equity of a date adds the marks of the open trades. Marked at their last closes they would
all count. The engine marks those whose symbol has a bar on the date, and the difference is
what the others would have come to (`unrealized_add_staleMark`).
-/

namespace AgenticTrader

open Checks

namespace BacktestRun

variable (e : BacktestRun)

/-! ## What the curve should be -/

/-- The most recent close of a symbol at or before a date. -/
def lastClose? (symbol : String) (date : Time) : Option ℚ := do
  let data ← e.marketData? symbol
  (data.daily.bars.filter (fun bar => bar.time ≤ date)).getLast?.map DailyBar.close

/-- What a trade has made at that close. -/
def markAtLast (date : Time) (entry : TradeEntry) : ℚ :=
  (e.lastClose? entry.symbol date).elim 0 (e.gainAt entry)

/-- What a closed trade made, after its commission. -/
def netPnl (t : BacktestTrade) : ℚ := e.gainAt t.toTradeEntry (t.exitPrice.getD 0) - t.commission

/-- **The equity that the trades account for.** -/
def accounted (date : Time) (s : BacktestState) : ℚ :=
  e.initialCash + s.cumulativeCashYield + (s.closedTrades.map e.netPnl).sum
    + (s.openTrades.map (fun t => e.markAtLast date t.toTradeEntry)).sum

/-- Whether a trade's symbol has no bar on a date. -/
def isStale (date : Time) (entry : TradeEntry) : Bool := (e.bar? entry.symbol date).isNone

/-- What the trades without a bar come to at their last closes. -/
def staleMark (date : Time) (entries : List TradeEntry) : ℚ :=
  ((entries.filter (e.isStale date)).map (e.markAtLast date)).sum

variable {e} {date : Time}

/-- The bar of a date is the last one at or before it. -/
theorem lastClose?_of_bar {symbol : String} {bar : DailyBar} (h : e.bar? symbol date = some bar) :
    e.lastClose? symbol date = some bar.close := by
  obtain ⟨data, hdata, hbar⟩ := Option.bind_eq_some_iff.mp h
  unfold lastClose?
  rw [hdata]
  obtain ⟨htime, before, later, hbars, -⟩ := List.find?_eq_some_iff_append.mp hbar
  have htime : bar.time = date := of_decide_eq_true htime
  have hascending := data.daily.ascending
  rw [hbars] at hascending
  obtain ⟨-, hlater, hbefore⟩ := List.pairwise_append.mp hascending
  have hearly : before.filter (fun b => b.time ≤ date) = before :=
    List.filter_eq_self.mpr (fun b hb => decide_eq_true
      (htime ▸ (hbefore b hb bar List.mem_cons_self).le))
  have hlate : later.filter (fun b => b.time ≤ date) = [] :=
    List.filter_eq_nil_iff.mpr (fun b hb => by
      simpa using htime ▸ (List.pairwise_cons.mp hlater).1 b hb)
  show ((data.daily.bars.filter (fun b => b.time ≤ date)).getLast?.map DailyBar.close) = _
  have hnow : (bar :: later).filter (fun b => b.time ≤ date) = [bar] := by
    rw [List.filter_cons, hlate, if_pos (decide_eq_true htime.le)]
  rw [hbars, List.filter_append, hearly, hnow, List.getLast?_concat]
  rfl

/-- **What the engine leaves out** is what the trades without a bar come to. -/
theorem unrealized_add_staleMark (e : BacktestRun) (date : Time) (trades : List BacktestTrade) :
    e.unrealized date trades + e.staleMark date (trades.map BacktestTrade.toTradeEntry)
      = (trades.map (fun t => e.markAtLast date t.toTradeEntry)).sum := by
  unfold unrealized staleMark
  induction trades with
  | nil => exact add_zero 0
  | cons t trades ih =>
    rw [List.map_cons, List.sum_cons, List.map_cons, List.map_cons, List.sum_cons, ← ih]
    cases hbar : e.bar? t.symbol date with
    | none =>
      have hstale : e.isStale date t.toTradeEntry = true := by
        unfold isStale
        rw [hbar]
        rfl
      rw [List.filter_cons_of_pos hstale, List.map_cons, List.sum_cons, Option.elim_none]
      ring
    | some bar =>
      have hstale : ¬ e.isStale date t.toTradeEntry = true := by
        unfold isStale
        rw [hbar]
        exact Bool.false_ne_true
      have hmark : e.markAtLast date t.toTradeEntry = e.gainAt t.toTradeEntry bar.close := by
        unfold markAtLast
        rw [lastClose?_of_bar hbar]
        rfl
      rw [List.filter_cons_of_neg hstale, Option.elim_some, hmark]
      ring

/-! ## The pass over the positions -/

theorem ratchet_entry (t : BacktestTrade) (bar : DailyBar) :
    (e.ratchet t bar).toTradeEntry = t.toTradeEntry := by
  unfold ratchet
  split
  · rfl
  · split_ifs <;> rfl

/-- A closed trade is the one that was open, and made what is booked. -/
theorem closeTrade_eq_ok {t t' : BacktestTrade} {exitPrice pnl : ℚ} {reason : BacktestExit}
    (h : e.closeTrade t date exitPrice reason = .ok (t', pnl)) :
    t'.toTradeEntry = t.toTradeEntry ∧ pnl = e.netPnl t' := by
  unfold closeTrade at h
  obtain ⟨-, h⟩ := refuse_bind_eq_ok.mp h
  cases h
  exact ⟨rfl, rfl⟩

/-- **What a date does to one position**: it stays, or it is closed on the bar of its symbol and
what it made is booked. -/
theorem updatePosition_eq_ok {pass pass' : PositionPass} {t : BacktestTrade}
    (h : e.updatePosition date pass t = .ok pass') :
    ∃ t' : BacktestTrade, t'.toTradeEntry = t.toTradeEntry
      ∧ (pass' = { pass with remaining := pass.remaining ++ [t'] }
        ∨ (e.isStale date t.toTradeEntry = false
          ∧ pass' = { pass with
              cash := pass.cash + e.netPnl t', closed := pass.closed ++ [t'] })) := by
  unfold updatePosition at h
  dsimp only at h
  split at h
  · cases h
    exact ⟨{ t with durationBars := t.durationBars + 1 }, rfl, .inl rfl⟩
  · next bar hbar =>
    have hfresh : e.isStale date t.toTradeEntry = false := by
      unfold isStale
      rw [show e.bar? t.symbol date = some bar from hbar]
      rfl
    split at h
    · next exitPrice reason _ =>
      obtain ⟨⟨t', pnl⟩, hclose, h⟩ := except_bind_eq_ok.mp h
      obtain ⟨hentry, hpnl⟩ := closeTrade_eq_ok hclose
      cases h
      refine ⟨t', hentry, .inr ⟨hfresh, ?_⟩⟩
      rw [← hpnl]
    · cases h
      exact ⟨e.ratchet { t with durationBars := t.durationBars + 1 } bar, ratchet_entry _ bar,
        .inl rfl⟩

/-- **What a date does to the positions.** Some stay and some are closed, each trade once; what
the closed ones made is booked; and whatever has no bar stays. -/
structure PassSpec (e : BacktestRun) (date : Time) (trades : List BacktestTrade)
    (pass pass' : PositionPass) (kept taken : List BacktestTrade) : Prop where
  remaining : pass'.remaining = pass.remaining ++ kept
  closed : pass'.closed = pass.closed ++ taken
  cash : pass'.cash = pass.cash + (taken.map e.netPnl).sum
  perm : ((taken ++ kept).map BacktestTrade.toTradeEntry).Perm
    (trades.map BacktestTrade.toTradeEntry)
  sublist : (kept.map BacktestTrade.toTradeEntry).Sublist (trades.map BacktestTrade.toTradeEntry)
  stale : (kept.map BacktestTrade.toTradeEntry).filter (e.isStale date)
    = (trades.map BacktestTrade.toTradeEntry).filter (e.isStale date)

theorem updatePositions_spec {trades : List BacktestTrade} {pass pass' : PositionPass}
    (h : e.updatePositions date pass trades = .ok pass') :
    ∃ kept taken, PassSpec e date trades pass pass' kept taken := by
  unfold updatePositions at h
  induction trades generalizing pass with
  | nil =>
    cases h
    exact ⟨[], [], (List.append_nil _).symm, (List.append_nil _).symm, (add_zero _).symm, .nil,
      .slnil, rfl⟩
  | cons t trades ih =>
    rw [List.foldlM_cons] at h
    obtain ⟨next, hfirst, hrest⟩ := except_bind_eq_ok.mp h
    obtain ⟨kept, taken, hspec⟩ := ih hrest
    obtain ⟨t', hentry, rfl | ⟨hfresh, rfl⟩⟩ := updatePosition_eq_ok hfirst
    · refine ⟨t' :: kept, taken, ?_, hspec.closed, hspec.cash, ?_, ?_, ?_⟩
      · rw [hspec.remaining, List.append_assoc, List.singleton_append]
      · rw [List.map_cons, ← hentry]
        refine List.Perm.trans ?_ (hspec.perm.cons _)
        rw [← List.map_cons]
        exact List.perm_middle.map _
      · rw [List.map_cons, List.map_cons, hentry]
        exact hspec.sublist.cons_cons _
      · rw [List.map_cons, List.map_cons, hentry, List.filter_cons, List.filter_cons, hspec.stale]
    · refine ⟨kept, t' :: taken, hspec.remaining, ?_, ?_, ?_, ?_, ?_⟩
      · rw [hspec.closed, List.append_assoc, List.singleton_append]
      · rw [hspec.cash, List.map_cons, List.sum_cons, add_assoc]
      · rw [List.cons_append, List.map_cons, List.map_cons, hentry]
        exact hspec.perm.cons _
      · rw [List.map_cons]
        exact hspec.sublist.cons _
      · rw [hspec.stale, List.map_cons, List.filter_cons, hfresh]
        rfl

/-! ## The pass over the symbols -/

/-- **What a date enters**: trades of symbols that have a bar on it and that nothing open has,
within the capacity. -/
structure EntrySpec (e : BacktestRun) (date : Time) (trades opened : List BacktestTrade) :
    Prop where
  dated : ∀ t ∈ opened, t.entryTimestamp = date ∧ e.isStale date t.toTradeEntry = false
  distinct : (opened.map (fun t => t.symbol)).Nodup
  apart : ∀ t ∈ opened, ∀ u ∈ trades, t.symbol ≠ u.symbol
  capacity : opened ≠ [] → ((trades ++ opened).length : ℤ) ≤ e.maxConcurrentPositions

theorem EntrySpec.none (trades : List BacktestTrade) : EntrySpec e date trades [] where
  dated := fun _ h => absurd h List.not_mem_nil
  distinct := List.nodup_nil
  apart := fun _ h => absurd h List.not_mem_nil
  capacity := fun h => absurd rfl h

/-- A symbol that is shown to the strategies has a bar. -/
theorem bar?_of_subMarketData {symbol : String} {sub : SubMarketData}
    (h : e.subMarketData? symbol date = some sub) : (e.bar? symbol date).isNone = false := by
  obtain ⟨data, hdata, h⟩ := Option.bind_eq_some_iff.mp h
  obtain ⟨locIdx, hloc, -⟩ := Option.bind_eq_some_iff.mp h
  obtain ⟨hlt, hbar, -⟩ := List.findIdx?_eq_some_iff_getElem.mp hloc
  unfold bar?
  rw [hdata]
  show (data.daily.bars.find? (fun bar => bar.time = date)).isNone = false
  cases hfind : data.daily.bars.find? (fun bar => bar.time = date) with
  | none => exact absurd hbar (List.find?_eq_none.mp hfind _ (List.getElem_mem hlt))
  | some bar => rfl

theorem enterSymbol_spec {trades opened : List BacktestTrade} {pass : EntryPass}
    (hpass : pass.openTrades = trades ++ opened) (h : EntrySpec e date trades opened)
    (symbol : String) :
    ∃ opened', (e.enterSymbol date pass symbol).openTrades = trades ++ opened'
      ∧ EntrySpec e date trades opened' := by
  unfold enterSymbol
  split_ifs with hcapacity hsymbol
  · exact ⟨opened, hpass, h⟩
  · exact ⟨opened, hpass, h⟩
  · split
    · exact ⟨opened, hpass, h⟩
    · next sub hsub =>
      split
      · exact ⟨opened, hpass, h⟩
      · next candidate _ =>
        dsimp only
        split_ifs
        · rw [hpass] at hcapacity hsymbol ⊢
          have hnew : ∀ t ∈ trades ++ opened, t.symbol ≠ symbol := by
            intro t ht heq
            exact hsymbol (List.any_eq_true.mpr ⟨t, ht, decide_eq_true heq⟩)
          refine ⟨opened ++ [e.enter symbol date candidate], List.append_assoc _ _ _, ?_, ?_, ?_,
            ?_⟩
          · intro t ht
            rcases List.mem_append.mp ht with ht | ht
            · exact h.dated t ht
            · rw [List.mem_singleton.mp ht]
              exact ⟨rfl, bar?_of_subMarketData hsub⟩
          · rw [List.map_append, List.nodup_append]
            refine ⟨h.distinct, List.nodup_singleton _, ?_⟩
            intro a ha b hb
            obtain ⟨t, ht, rfl⟩ := List.mem_map.mp ha
            rw [List.mem_singleton.mp hb]
            exact hnew t (List.mem_append_right _ ht)
          · intro t ht u hu
            rcases List.mem_append.mp ht with ht | ht
            · exact h.apart t ht u hu
            · rw [List.mem_singleton.mp ht]
              exact (hnew u (List.mem_append_left _ hu)).symm
          · intro _
            rw [← List.append_assoc, List.length_append, List.length_singleton]
            push_cast
            omega
        · exact ⟨opened, hpass, h⟩

theorem enterSymbols_spec (e : BacktestRun) (idx : ℕ) (date : Time) (trades : List BacktestTrade) :
    ∃ opened, e.enterSymbols idx date trades = trades ++ opened
      ∧ EntrySpec e date trades opened := by
  have hfold : ∀ (symbols : List String) (pass : EntryPass) (opened : List BacktestTrade),
      pass.openTrades = trades ++ opened → EntrySpec e date trades opened →
      ∃ opened', (symbols.foldl (e.enterSymbol date) pass).openTrades = trades ++ opened'
        ∧ EntrySpec e date trades opened' := by
    intro symbols
    induction symbols with
    | nil => exact fun pass opened hpass h => ⟨opened, hpass, h⟩
    | cons symbol symbols ih =>
      intro pass opened hpass h
      obtain ⟨opened', hpass', h'⟩ := enterSymbol_spec hpass h symbol
      exact ih _ opened' hpass' h'
  unfold enterSymbols
  split_ifs
  · exact hfold e.symbols _ [] (List.append_nil _).symm (.none trades)
  · exact ⟨[], (List.append_nil _).symm, .none trades⟩

/-! ## One date -/

/-- The entries of a date. -/
def openedOn (e : BacktestRun) (idx : ℕ) (date : Time) (s : BacktestState) : List TradeEntry :=
  match e.updatePositions date ⟨s.cashReserve + e.interest s.cashReserve, [], s.closedTrades⟩
      s.openTrades with
  | .ok pass =>
    ((e.enterSymbols idx date pass.remaining).drop pass.remaining.length).map
      BacktestTrade.toTradeEntry
  | .error _ => []

/-- **What a date does**, from one state to the next. -/
structure StepSpec (e : BacktestRun) (idx : ℕ) (date : Time) (s s' : BacktestState)
    (kept taken opened : List BacktestTrade) : Prop where
  openTrades : s'.openTrades = kept ++ opened
  closedTrades : s'.closedTrades = s.closedTrades ++ taken
  cash : s'.cashReserve = s.cashReserve + e.interest s.cashReserve + (taken.map e.netPnl).sum
  cashYield : s'.cumulativeCashYield = s.cumulativeCashYield + e.interest s.cashReserve
  points : s'.equityPoints
    = s.equityPoints ++ [e.equityPoint date { s' with equityPoints := s.equityPoints }]
  perm : ((taken ++ kept).map BacktestTrade.toTradeEntry).Perm
    (s.openTrades.map BacktestTrade.toTradeEntry)
  sublist : (kept.map BacktestTrade.toTradeEntry).Sublist
    (s.openTrades.map BacktestTrade.toTradeEntry)
  stale : (kept.map BacktestTrade.toTradeEntry).filter (e.isStale date)
    = (s.openTrades.map BacktestTrade.toTradeEntry).filter (e.isStale date)
  entry : EntrySpec e date kept opened
  openedOn : e.openedOn idx date s = opened.map BacktestTrade.toTradeEntry

variable {idx : ℕ} {s s' : BacktestState}

theorem step_eq_ok (h : e.step idx date s = .ok s') :
    ∃ kept taken opened, StepSpec e idx date s s' kept taken opened := by
  obtain ⟨pass, hpass, h⟩ := except_bind_eq_ok.mp h
  obtain ⟨kept, taken, hspec⟩ := updatePositions_spec hpass
  obtain ⟨opened, hopened, hentry⟩ := e.enterSymbols_spec idx date pass.remaining
  have hremaining : pass.remaining = kept := hspec.remaining
  cases h
  rw [hremaining] at hopened hentry
  refine ⟨kept, taken, opened, ?_, hspec.closed, hspec.cash, rfl, rfl, hspec.perm, hspec.sublist,
    hspec.stale, hentry, ?_⟩
  · show e.enterSymbols idx date pass.remaining = _
    rw [hremaining, hopened]
  · unfold BacktestRun.openedOn
    rw [hpass]
    show ((e.enterSymbols idx date pass.remaining).drop pass.remaining.length).map
      BacktestTrade.toTradeEntry = _
    rw [hremaining, hopened, List.drop_left]

/-- What is entered on a date has a bar on it. -/
theorem StepSpec.staleMark_eq {kept taken opened : List BacktestTrade}
    (h : StepSpec e idx date s s' kept taken opened) :
    e.staleMark date (s'.openTrades.map BacktestTrade.toTradeEntry)
      = e.staleMark date (s.openTrades.map BacktestTrade.toTradeEntry) := by
  have hopened : (opened.map BacktestTrade.toTradeEntry).filter (e.isStale date) = [] := by
    refine List.filter_eq_nil_iff.mpr (fun entry hentry => ?_)
    obtain ⟨t, ht, rfl⟩ := List.mem_map.mp hentry
    rw [(h.entry.dated t ht).2]
    exact Bool.false_ne_true
  unfold staleMark
  rw [h.openTrades, List.map_append, List.filter_append, hopened, List.append_nil, h.stale]

/-! ## Every run -/

/-- **The entries of the first dates.** -/
def enteredThrough (e : BacktestRun) : ℕ → List TradeEntry
  | 0 => []
  | idx + 1 =>
    e.enteredThrough idx ++
      match e.runThrough idx, e.timeline[idx]? with
      | .ok s, some date => e.openedOn idx date s
      | _, _ => []

/-- **What holds of a run** in every state: the cash is accounted for, every trade is there
once, and what was entered shares no symbol and stays within the capacity. -/
structure RunInv (e : BacktestRun) (idx : ℕ) (s : BacktestState) : Prop where
  cash : s.cashReserve
    = e.initialCash + s.cumulativeCashYield + (s.closedTrades.map e.netPnl).sum
  once : ((s.closedTrades ++ s.openTrades).map BacktestTrade.toTradeEntry).Perm
    (e.initialTrades.map BacktestTrade.toTradeEntry ++ e.enteredThrough idx)
  apart : ∃ survivors opened, s.openTrades.map BacktestTrade.toTradeEntry = survivors ++ opened
    ∧ survivors.Sublist (e.initialTrades.map BacktestTrade.toTradeEntry)
    ∧ (opened.map TradeEntry.symbol).Nodup
    ∧ ∀ t ∈ opened, ∀ u ∈ survivors, t.symbol ≠ u.symbol
  capacity : (s.openTrades.length : ℤ) ≤ max e.maxConcurrentPositions e.initialTrades.length

theorem runInv_start : RunInv e 0 e.start where
  cash := by simp [start]
  once := by
    unfold enteredThrough
    rw [List.append_nil]
    exact List.Perm.refl _
  apart := ⟨e.initialTrades.map BacktestTrade.toTradeEntry, [], (List.append_nil _).symm,
    List.Sublist.refl _, List.nodup_nil, fun _ h => absurd h List.not_mem_nil⟩
  capacity := le_max_right _ _

theorem RunInv.step (h : RunInv e idx s) (hrun : e.runThrough idx = .ok s)
    (hdate : e.timeline[idx]? = some date) (hstep : e.step idx date s = .ok s') :
    RunInv e (idx + 1) s' := by
  obtain ⟨kept, taken, opened, hspec⟩ := step_eq_ok hstep
  have hentered : e.enteredThrough (idx + 1)
      = e.enteredThrough idx ++ opened.map BacktestTrade.toTradeEntry := by
    rw [enteredThrough, hrun, hdate, ← hspec.openedOn]
  refine ⟨?_, ?_, ?_, ?_⟩
  · rw [hspec.cash, hspec.cashYield, hspec.closedTrades, List.map_append, List.sum_append, h.cash]
    ring
  · have hopened : ((s.closedTrades ++ (taken ++ kept)).map BacktestTrade.toTradeEntry).Perm
        (e.initialTrades.map BacktestTrade.toTradeEntry ++ e.enteredThrough idx) := by
      have hmoved := hspec.perm.append_left (s.closedTrades.map BacktestTrade.toTradeEntry)
      rw [← List.map_append, ← List.map_append] at hmoved
      exact hmoved.trans h.once
    have hall := hopened.append_right (opened.map BacktestTrade.toTradeEntry)
    rw [← List.map_append, List.append_assoc, List.append_assoc, List.append_assoc] at hall
    rwa [hentered, hspec.closedTrades, hspec.openTrades, List.append_assoc]
  · obtain ⟨survivors, entered, hopen, hsurvivors, hdistinct, hapart⟩ := h.apart
    have hsublist := hspec.sublist
    rw [hopen] at hsublist
    obtain ⟨survivors', entered', hkept, hsurvivors', hentered'⟩ :=
      List.sublist_append_iff.mp hsublist
    -- what is new shares no symbol with what stays
    have hnew : ∀ t ∈ opened.map BacktestTrade.toTradeEntry, ∀ u ∈ survivors' ++ entered',
        t.symbol ≠ u.symbol := by
      intro t ht u hu
      rw [← hkept] at hu
      obtain ⟨t', ht', rfl⟩ := List.mem_map.mp ht
      obtain ⟨u', hu', rfl⟩ := List.mem_map.mp hu
      exact hspec.entry.apart t' ht' u' hu'
    refine ⟨survivors', entered' ++ opened.map BacktestTrade.toTradeEntry, ?_,
      hsurvivors'.trans hsurvivors, ?_, ?_⟩
    · rw [hspec.openTrades, List.map_append, hkept, List.append_assoc]
    · rw [List.map_append, List.nodup_append]
      refine ⟨hdistinct.sublist (hentered'.map _), ?_, ?_⟩
      · rw [List.map_map]
        exact hspec.entry.distinct
      · intro a ha b hb
        obtain ⟨u, hu, rfl⟩ := List.mem_map.mp ha
        obtain ⟨t, ht, rfl⟩ := List.mem_map.mp hb
        exact (hnew t ht u (List.mem_append_right _ hu)).symm
    · intro t ht u hu
      rcases List.mem_append.mp ht with ht | ht
      · exact hapart t (hentered'.subset ht) u (hsurvivors'.subset hu)
      · exact hnew t ht u (List.mem_append_left _ hu)
  · rw [hspec.openTrades]
    rcases eq_or_ne opened [] with rfl | hne
    · have hkept := hspec.sublist.length_le
      rw [List.length_map, List.length_map] at hkept
      rw [List.append_nil]
      exact (Int.ofNat_le.mpr hkept).trans h.capacity
    · exact (hspec.entry.capacity hne).trans (le_max_left _ _)

theorem runThrough_succ_eq_ok (h : e.runThrough (idx + 1) = .ok s')
    (hidx : idx < e.timeline.length) :
    ∃ s date, e.runThrough idx = .ok s ∧ e.timeline[idx]? = some date
      ∧ e.step idx date s = .ok s' := by
  rw [runThrough] at h
  obtain ⟨s, hrun, h⟩ := except_bind_eq_ok.mp h
  rw [List.getElem?_eq_getElem hidx] at h
  exact ⟨s, _, hrun, List.getElem?_eq_getElem hidx, h⟩

/-- **Every state a run reaches.** -/
theorem runInv (h : e.runThrough idx = .ok s) (hidx : idx ≤ e.timeline.length) :
    RunInv e idx s := by
  induction idx generalizing s with
  | zero =>
    cases h
    exact runInv_start
  | succ idx ih =>
    obtain ⟨s₀, date, hrun, hdate, hstep⟩ := runThrough_succ_eq_ok h hidx
    exact (ih hrun (Nat.le_of_succ_le hidx)).step hrun hdate hstep

/-- **The equity curve is its trades, on the dates where it is.** On every date a run reaches,
the equity of the point is the initial cash, the interest, what the closed trades made and the
marks of the open trades at their last closes, if and only if the trades that were open before
the date and have no bar on it come to nothing at their last closes. Every trade is open or
closed once; what was entered shares no symbol with anything open, and the open trades stay
within the capacity or the number the run started with. -/
theorem equity_is_trades_iff (e : BacktestRun) (idx : ℕ) (s' : BacktestState)
    (h : e.runThrough (idx + 1) = .ok s') (hidx : idx < e.timeline.length) :
    ∃ s date, e.runThrough idx = .ok s ∧ e.timeline[idx]? = some date
      ∧ (∃ point, s'.equityPoints = s.equityPoints ++ [point] ∧ point.timestamp = date
        ∧ point.portfolioEquity = round2 (e.totalEquity date s'))
      ∧ (e.totalEquity date s' = e.accounted date s'
        ↔ e.staleMark date (s.openTrades.map BacktestTrade.toTradeEntry) = 0)
      ∧ RunInv e (idx + 1) s' := by
  obtain ⟨s, date, hrun, hdate, hstep⟩ := runThrough_succ_eq_ok h hidx
  obtain ⟨kept, taken, opened, hspec⟩ := step_eq_ok hstep
  have hinv := runInv h hidx
  refine ⟨s, date, hrun, hdate, ⟨_, hspec.points, rfl, rfl⟩, ?_, hinv⟩
  rw [← hspec.staleMark_eq]
  have hmarks := e.unrealized_add_staleMark date s'.openTrades
  unfold totalEquity accounted
  rw [hinv.cash, ← hmarks]
  constructor
  · intro heq
    linarith
  · intro hzero
    linarith

/-! ## A date without a bar -/

/-- Days with one close. -/
def flatBars (days : ℕ) (close : ℚ) : List DailyBar :=
  (List.range days).map (fun day : ℕ => ⟨(day : ℤ) * 86400000000, close, close, close, 0⟩)

theorem flatBars_ascending (days : ℕ) (close : ℚ) :
    (flatBars days close).Pairwise (fun a b => a.time < b.time) := by
  unfold flatBars
  refine List.pairwise_map.mpr (List.pairwise_lt_range.imp (fun {a b} hlt => ?_))
  show (a : ℤ) * 86400000000 < b * 86400000000
  omega

def flatData (ticker : String) (days : ℕ) (close : ℚ) : ContractMarketData :=
  ⟨ticker, ⟨flatBars days close, flatBars_ascending days close⟩, []⟩

/-- One share of B, bought at 100. -/
def shareOfB : BacktestTrade where
  symbol := "B"
  assetClass := .equity
  strategy := .trendPullback
  direction := .long
  entryTimestamp := 0
  entryPrice := 100
  quantity := 1
  takeProfit := 200
  riskDollars := 50
  initialStopLoss := 50
  stopLoss := 50
  exitTimestamp := none
  exitPrice := none
  exitReason := none
  pnlDollars := none
  pnlPct := none
  durationBars := 0
  commission := 0
  slippageDollars := 0
  highWaterMark := 100
  lowWaterMark := 100

/-- Twenty days of A and nineteen of B, which closes at 110 on each. -/
def missingBar : BacktestRun where
  initialCash := 1000
  riskFreeRate := 0
  maxConcurrentPositions := 4
  maxNotionalExposure := 100000
  applyFriction := false
  friction := ⟨false, 0, 0, 0, 0⟩
  trailingStop := none
  contracts := fun _ => none
  checkTrendPullback := fun _ _ => none
  checkSqueezeBreakout := fun _ _ => none
  calculateLevels := fun _ => ⟨0, 0, 0, 0, 0⟩
  symbols := ["A", "B"]
  dataMap := [("A", flatData "A" 20 10), ("B", flatData "B" 19 110)]
  strategyFilter := "all"
  initialTrades := [shareOfB]

/-- On the day without a bar the share is worth nothing to the curve. -/
theorem missingBar_equity :
    missingBar.run.toOption.map (fun s => (missingBar.totalEquity (19 * 86400000000) s,
        missingBar.accounted (19 * 86400000000) s, s.equityPoints.map EquityPoint.portfolioEquity))
      = some (1000, 1010, List.replicate 19 1010 ++ [1000]) := by
  decide +kernel

/-- On the last day with a bar the equity is what the trades account for; a day later it is
not. -/
theorem missingBar_accounted :
    (∃ s, missingBar.runThrough 19 = .ok s
      ∧ missingBar.totalEquity (18 * 86400000000) s = missingBar.accounted (18 * 86400000000) s)
    ∧ ∃ s, missingBar.runThrough 20 = .ok s
      ∧ missingBar.totalEquity (19 * 86400000000) s
        ≠ missingBar.accounted (19 * 86400000000) s := by
  have hlength : missingBar.timeline.length = 20 := by decide +kernel
  have hdates : missingBar.timeline[18]? = some (18 * 86400000000)
      ∧ missingBar.timeline[19]? = some (19 * 86400000000) := by
    decide +kernel
  have hmarks : (missingBar.runThrough 18).toOption.map (fun s => missingBar.staleMark
        (18 * 86400000000) (s.openTrades.map BacktestTrade.toTradeEntry)) = some 0
      ∧ (missingBar.runThrough 19).toOption.map (fun s => missingBar.staleMark
        (19 * 86400000000) (s.openTrades.map BacktestTrade.toTradeEntry)) = some 10 := by
    decide +kernel
  have hruns : ∀ idx < 21, (missingBar.runThrough idx).toOption.isSome = true := by decide +kernel
  have hok : ∀ idx < 21, ∃ s, missingBar.runThrough idx = .ok s := by
    intro idx hidx
    have hsome := hruns idx hidx
    cases h : missingBar.runThrough idx with
    | error message =>
      rw [h] at hsome
      cases hsome
    | ok s => exact ⟨s, rfl⟩
  constructor
  · obtain ⟨s', hs'⟩ := hok 19 (by decide)
    obtain ⟨s, date, hs, hdate, -, hiff, -⟩ :=
      equity_is_trades_iff missingBar 18 s' hs' (by rw [hlength]; decide)
    cases hdates.1.symm.trans hdate
    have hmark := hmarks.1
    rw [hs] at hmark
    exact ⟨s', hs', hiff.mpr (Option.some.inj hmark)⟩
  · obtain ⟨s', hs'⟩ := hok 20 (by decide)
    obtain ⟨s, date, hs, hdate, -, hiff, -⟩ :=
      equity_is_trades_iff missingBar 19 s' hs' (by rw [hlength]; decide)
    cases hdates.2.symm.trans hdate
    have hmark := hmarks.2
    rw [hs] at hmark
    refine ⟨s', hs', fun heq => ?_⟩
    exact absurd ((Option.some.inj hmark).symm.trans (hiff.mp heq)) (by norm_num)

end BacktestRun

end AgenticTrader
