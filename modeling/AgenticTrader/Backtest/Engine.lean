import AgenticTrader.Agent.PositionSizing
import AgenticTrader.Broker.Paper
import AgenticTrader.Execution.Trailing
import AgenticTrader.Library.Checks
import AgenticTrader.Research.Labels
import AgenticTrader.Risk.Rounding
import Mathlib.Data.List.Dedup
import Mathlib.Data.List.Sort

/-!
# The backtest engine

`BacktestEngine.run` (`backtest/engine.py`) walks the dates on which any symbol has a daily
bar. On each it accrues interest, checks every open trade against its symbol's bar, opens what
the strategies find, and writes a point of the equity curve. A symbol without a bar on a date
is passed over in each of the three.

Cash, closed trades and open trades stay in step through all of it. The mark does not: a trade
whose symbol has no bar on a date is left out of the equity of that date altogether, where its
last close would still be known. `equity_is_trades_iff` says on which dates that shows.

The strategies and the sizing are handed in. Money is rounded where the code rounds it.
-/

namespace AgenticTrader

open Checks

/-! ## Trades, bars and the configuration -/

inductive BacktestExit where
  | takeProfit
  | stopLoss
  | trailingStop
  deriving DecidableEq, Repr

inductive StrategyType where
  | trendPullback
  | squeezeBreakout
  | pairsReversion
  | optionsVertical
  deriving DecidableEq, Repr

/-- **What a trade was entered with**, which nothing changes afterwards. -/
structure TradeEntry where
  symbol : String
  assetClass : AssetClass
  strategy : StrategyType
  direction : Direction
  entryTimestamp : Time
  entryPrice : ℚ
  quantity : ℚ
  takeProfit : ℚ
  riskDollars : ℚ
  initialStopLoss : ℚ
  deriving DecidableEq

/-- **`BacktestTrade`.** -/
structure BacktestTrade extends TradeEntry where
  stopLoss : ℚ
  exitTimestamp : Option Time
  exitPrice : Option ℚ
  exitReason : Option BacktestExit
  pnlDollars : Option ℚ
  pnlPct : Option ℚ
  durationBars : ℕ
  commission : ℚ
  slippageDollars : ℚ
  highWaterMark : ℚ
  lowWaterMark : ℚ

/-- A daily bar; without an `ATR` it reads as zero. -/
structure DailyBar where
  time : Time
  high : ℚ
  low : ℚ
  close : ℚ
  atr : ℚ

/-- **A daily frame**, in the order of its index. -/
structure DailyFrame where
  bars : List DailyBar
  ascending : bars.Pairwise (fun a b => a.time < b.time)

/-- What is read of `ContractMarketData`. -/
structure ContractMarketData where
  ticker : String
  daily : DailyFrame
  fourHour : List HourlyBar

/-- What a strategy is shown: the bars up to the current one. -/
structure SubMarketData where
  contract : String
  ticker : String
  daily : List DailyBar
  fourHour : List HourlyBar ⊕ List DailyBar

/-- What is read of a candidate. -/
structure BacktestCandidate where
  assetClass : Option AssetClass
  strategy : String
  direction : Direction
  currentPrice : ℚ

/-- What `calculate_levels_deterministic` returns. -/
structure BacktestLevels where
  stopLoss : ℚ
  takeProfit : ℚ
  riskDollars : ℚ
  notionalValue : ℚ
  quantity : ℚ

structure FrictionConfig where
  enabled : Bool
  futuresCommissionPerContract : ℚ
  equityCommissionPerShare : ℚ
  futuresSlippagePoints : ℚ
  equitySlippagePct : ℚ

structure EquityPoint where
  timestamp : Time
  portfolioEquity : ℚ
  cashReserve : ℚ
  drawdownPct : ℚ

/-- **The engine and its call**: the configuration, the strategies, and the data of a run. -/
structure BacktestRun where
  initialCash : ℚ
  riskFreeRate : ℚ
  maxConcurrentPositions : ℤ
  maxNotionalExposure : ℚ
  applyFriction : Bool
  friction : FrictionConfig
  trailingStop : Option TrailingStopConfig
  contracts : String → Option ContractConfig
  checkTrendPullback : SubMarketData → AssetClass → Option BacktestCandidate
  checkSqueezeBreakout : SubMarketData → AssetClass → Option BacktestCandidate
  calculateLevels : BacktestCandidate → BacktestLevels
  symbols : List String
  dataMap : List (String × ContractMarketData)
  strategyFilter : String
  initialTrades : List BacktestTrade

structure BacktestState where
  cashReserve : ℚ
  openTrades : List BacktestTrade
  closedTrades : List BacktestTrade
  equityPoints : List EquityPoint
  cumulativeCashYield : ℚ

namespace BacktestRun

variable (e : BacktestRun)

/-- `data_map.get(symbol)`. -/
def marketData? (symbol : String) : Option ContractMarketData := e.dataMap.lookup symbol

/-- The bar of a symbol on a date. -/
def bar? (symbol : String) (date : Time) : Option DailyBar := do
  let data ← e.marketData? symbol
  data.daily.bars.find? (fun bar => bar.time = date)

/-- The multiplier of a trade. -/
def multiplierOf (entry : TradeEntry) : ℚ :=
  match e.contracts entry.symbol with
  | some info => info.multiplier
  | none => if entry.assetClass = .equity then 1 else 5

/-- What a trade has made at a price. -/
def gainAt (entry : TradeEntry) (price : ℚ) : ℚ :=
  entry.direction.gain entry.entryPrice price * e.multiplierOf entry * entry.quantity

/-! ## 1. The open positions -/

/-- Where a bar takes a trade out of its bracket; the stop goes first. -/
def bracketHit (t : BacktestTrade) (bar : DailyBar) : Option (ℚ × BacktestExit) :=
  if t.direction = .long then
    if bar.low ≤ t.stopLoss then
      some (t.stopLoss, if 0 < t.initialStopLoss ∧ t.initialStopLoss < t.stopLoss then .trailingStop
        else .stopLoss)
    else if t.takeProfit ≤ bar.high then some (t.takeProfit, .takeProfit)
    else none
  else if t.stopLoss ≤ bar.high then
    some (t.stopLoss, if 0 < t.initialStopLoss ∧ t.stopLoss < t.initialStopLoss then .trailingStop
      else .stopLoss)
  else if bar.low ≤ t.takeProfit then some (t.takeProfit, .takeProfit)
  else none

/-- What friction makes of a fill: the points of slippage, its dollars and the commission. -/
def frictionOf (assetClass : AssetClass) (price multiplier quantity : ℚ) : ℚ × ℚ × ℚ :=
  let slipPts := if assetClass = .equity then price * e.friction.equitySlippagePct
    else e.friction.futuresSlippagePoints
  let commission := if assetClass = .equity then
      round2 (e.friction.equityCommissionPerShare * quantity)
    else round2 (e.friction.futuresCommissionPerContract * quantity)
  (slipPts, round2 (slipPts * multiplier * quantity), commission)

def hasFriction : Bool := e.applyFriction && e.friction.enabled

/-- The price, the slippage and the commission of an exit. -/
def exitFill (t : BacktestTrade) (exitPrice : ℚ) : ℚ × ℚ × ℚ :=
  if e.hasFriction then
    let (slipPts, slipDollars, commission) :=
      e.frictionOf t.assetClass exitPrice (e.multiplierOf t.toTradeEntry) t.quantity
    (round2 (if t.direction = .long then exitPrice - slipPts else exitPrice + slipPts), slipDollars,
      commission)
  else (exitPrice, 0, 0)

/-- The trade that is taken out at a price, with what it made. The percentage divides by the
notional of the entry. -/
def closeTrade (t : BacktestTrade) (date : Time) (exitPrice : ℚ) (reason : BacktestExit) :
    Except String (BacktestTrade × ℚ) := do
  let (actual, slippage, exitComm) := e.exitFill t exitPrice
  let commission := round2 (t.commission + exitComm)
  let netPnl := e.gainAt t.toTradeEntry actual - commission
  let notional := t.entryPrice * e.multiplierOf t.toTradeEntry * t.quantity
  refuse (notional = 0) "float division by zero"
  pure ({ t with
    exitTimestamp := some date
    exitPrice := some actual
    exitReason := some reason
    commission := commission
    slippageDollars := round2 (t.slippageDollars + slippage)
    pnlDollars := some (round2 netPnl)
    pnlPct := some (round2 (netPnl / notional * 100)) }, netPnl)

/-- **The ratchet of a trailing stop**, of a trade that stays open. -/
def ratchet (t : BacktestTrade) (bar : DailyBar) : BacktestTrade :=
  match e.trailingStop with
  | none => t
  | some cfg =>
    if cfg.enabled then
      let info := e.contracts t.symbol
      let multiplier := e.multiplierOf t.toTradeEntry
      let minStep := (info.map ContractConfig.tickSize).getD (1 / 4) * cfg.trailStepTicks
      let bufferPts := if 0 < multiplier then cfg.breakevenBufferDollars / multiplier else 1 / 2
      let sign := t.direction.sign
      let high := if t.direction = .long then max t.highWaterMark bar.high else t.highWaterMark
      let low := if t.direction = .long then t.lowWaterMark else min t.lowWaterMark bar.low
      let water := if t.direction = .long then high else low
      let favDist := sign * (water - t.entryPrice)
      let initRisk := |t.entryPrice - t.initialStopLoss|
      let rMult := if 0 < initRisk then favDist / initRisk else 0
      let beStop := t.entryPrice + sign * bufferPts
      let stop := if cfg.breakevenTriggerR.any (fun trigger => trigger ≤ rMult)
          ∧ 0 < sign * (beStop - t.stopLoss) then round2 beStop else t.stopLoss
      let trailDist := if 0 < bar.atr then cfg.trailAtrMultiple * bar.atr
        else max initRisk (initRisk * cfg.trailAtrMultiple)
      let proposed := water - sign * trailDist
      let stop := if cfg.trailTriggerR ≤ rMult ∧ minStep < sign * (proposed - stop) then
        round2 proposed else stop
      { t with stopLoss := stop, highWaterMark := high, lowWaterMark := low }
    else t

/-- What the pass over the open positions carries. -/
structure PositionPass where
  cash : ℚ
  remaining : List BacktestTrade
  closed : List BacktestTrade

/-- **One open position** against the bar of a date. -/
def updatePosition (date : Time) (pass : PositionPass) (t : BacktestTrade) :
    Except String PositionPass :=
  let t := { t with durationBars := t.durationBars + 1 }
  match e.bar? t.symbol date with
  | none => .ok { pass with remaining := pass.remaining ++ [t] }
  | some bar =>
    match bracketHit t bar with
    | some (exitPrice, reason) => do
      let (closed, netPnl) ← e.closeTrade t date exitPrice reason
      pure { pass with cash := pass.cash + netPnl, closed := pass.closed ++ [closed] }
    | none => .ok { pass with remaining := pass.remaining ++ [e.ratchet t bar] }

/-- All of them, in order. -/
def updatePositions (date : Time) (pass : PositionPass) (trades : List BacktestTrade) :
    Except String PositionPass :=
  trades.foldlM (e.updatePosition date) pass

/-! ## 2. New entries -/

/-- The configuration of a symbol that is to be entered. -/
def instrumentOf (symbol : String) : ContractConfig :=
  match e.contracts symbol with
  | some info => info
  | none =>
    if startsWithSlash symbol then ⟨symbol, 5, 1 / 4, .futures, none⟩
    else ⟨symbol, 1, 1 / 100, .equity, none⟩

/-- What the strategies are shown of a symbol on a date, if its bar is past the warm-up. -/
def subMarketData? (symbol : String) (date : Time) : Option SubMarketData := do
  let data ← e.marketData? symbol
  let locIdx ← data.daily.bars.findIdx? (fun bar => bar.time = date)
  if locIdx < 20 then none
  else
    let subDaily := data.daily.bars.take (locIdx + 1)
    let sub4h := data.fourHour.filter (fun bar => bar.time < date + 86400000000)
    some ⟨symbol, data.ticker, subDaily, if sub4h.length < 10 then .inr subDaily else .inl sub4h⟩

/-- The candidate of a symbol, by the strategies of the filter. -/
def candidate? (sub : SubMarketData) (assetClass : AssetClass) : Option BacktestCandidate :=
  let trend := if e.strategyFilter = "all" ∨ e.strategyFilter = "trend_pullback" then
    e.checkTrendPullback sub assetClass else none
  let squeeze := if e.strategyFilter = "all" ∨ e.strategyFilter = "squeeze_breakout" then
    e.checkSqueezeBreakout sub assetClass else none
  trend.or squeeze

/-- `StrategyType(strategy)`, or `TREND_PULLBACK` for a name it does not have. -/
def strategyOf (strategy : String) : StrategyType :=
  if strategy = "SQUEEZE_BREAKOUT" then .squeezeBreakout
  else if strategy = "PAIRS_REVERSION" then .pairsReversion
  else if strategy = "OPTIONS_VERTICAL" then .optionsVertical
  else .trendPullback

/-- The price, the slippage and the commission of an entry. -/
def entryFill (candidate : BacktestCandidate) (assetClass : AssetClass) (multiplier quantity : ℚ) :
    ℚ × ℚ × ℚ :=
  if e.hasFriction then
    let (slipPts, slipDollars, commission) :=
      e.frictionOf assetClass candidate.currentPrice multiplier quantity
    (round2 (if candidate.direction = .long then candidate.currentPrice + slipPts
      else candidate.currentPrice - slipPts), slipDollars, commission)
  else (candidate.currentPrice, 0, 0)

/-- **The trade that a candidate becomes.** -/
def enter (symbol : String) (date : Time) (candidate : BacktestCandidate) : BacktestTrade :=
  let info := e.instrumentOf symbol
  let assetClass := candidate.assetClass.getD info.assetClass
  let levels := e.calculateLevels candidate
  let fill := e.entryFill candidate assetClass info.multiplier levels.quantity
  { symbol := symbol, assetClass := assetClass, strategy := strategyOf candidate.strategy,
    direction := candidate.direction, entryTimestamp := date, entryPrice := fill.1,
    quantity := levels.quantity, takeProfit := levels.takeProfit, riskDollars := levels.riskDollars,
    initialStopLoss := levels.stopLoss, stopLoss := levels.stopLoss, exitTimestamp := none,
    exitPrice := none, exitReason := none, pnlDollars := none, pnlPct := none, durationBars := 0,
    commission := fill.2.2, slippageDollars := fill.2.1, highWaterMark := fill.1,
    lowWaterMark := fill.1 }

/-- The notional of the open trades. -/
def openNotional (trades : List BacktestTrade) : ℚ :=
  (trades.map (fun t => t.entryPrice * e.multiplierOf t.toTradeEntry * t.quantity)).sum

/-- What the pass over the symbols carries. -/
structure EntryPass where
  openTrades : List BacktestTrade
  notional : ℚ

/-- **One symbol**: what it opens, if anything. -/
def enterSymbol (date : Time) (pass : EntryPass) (symbol : String) : EntryPass :=
  if e.maxConcurrentPositions ≤ pass.openTrades.length then pass
  else if pass.openTrades.any (fun t => t.symbol = symbol) then pass
  else
    match e.subMarketData? symbol date with
    | none => pass
    | some sub =>
      match e.candidate? sub (e.instrumentOf symbol).assetClass with
      | none => pass
      | some candidate =>
        let notionalValue := (e.calculateLevels candidate).notionalValue
        if pass.notional + notionalValue ≤ e.maxNotionalExposure then
          ⟨pass.openTrades ++ [e.enter symbol date candidate], pass.notional + notionalValue⟩
        else pass

/-- All symbols, past the warm-up and while there is capacity. -/
def enterSymbols (idx : ℕ) (date : Time) (trades : List BacktestTrade) : List BacktestTrade :=
  if 20 ≤ idx ∧ (trades.length : ℤ) < e.maxConcurrentPositions then
    (e.symbols.foldl (e.enterSymbol date) ⟨trades, e.openNotional trades⟩).openTrades
  else trades

/-! ## 3. The equity of a date -/

/-- `unrealized_pnl`: a trade is marked if its symbol has a bar on the date. -/
def unrealized (date : Time) (trades : List BacktestTrade) : ℚ :=
  (trades.map (fun t => (e.bar? t.symbol date).elim 0
    (fun bar => e.gainAt t.toTradeEntry bar.close))).sum

/-- `total_equity`. -/
def totalEquity (date : Time) (s : BacktestState) : ℚ :=
  s.cashReserve + e.unrealized date s.openTrades

/-- The point of a date. -/
def equityPoint (date : Time) (s : BacktestState) : EquityPoint :=
  let total := e.totalEquity date s
  let peak := max (max e.initialCash
    ((s.equityPoints.map EquityPoint.portfolioEquity).foldr max e.initialCash)) total
  ⟨date, round2 total, round2 s.cashReserve,
    round2 (if 0 < peak then (peak - total) / peak * 100 else 0)⟩

/-! ## The loop -/

/-- `sorted(all_dates)`. -/
def timeline : List Time :=
  (e.dataMap.flatMap (fun data => data.2.daily.bars.map DailyBar.time)).dedup.insertionSort (· ≤ ·)

def start : BacktestState := ⟨e.initialCash, e.initialTrades, [], [], 0⟩

/-- `cash_reserve * daily_rf_rate`. -/
def interest (cash : ℚ) : ℚ := cash * (e.riskFreeRate / 252)

/-- **One date.** -/
def step (idx : ℕ) (date : Time) (s : BacktestState) : Except String BacktestState := do
  let interest := e.interest s.cashReserve
  let pass ← e.updatePositions date ⟨s.cashReserve + interest, [], s.closedTrades⟩ s.openTrades
  let after : BacktestState :=
    { cashReserve := pass.cash
      openTrades := e.enterSymbols idx date pass.remaining
      closedTrades := pass.closed
      equityPoints := s.equityPoints
      cumulativeCashYield := s.cumulativeCashYield + interest }
  pure { after with equityPoints := s.equityPoints ++ [e.equityPoint date after] }

/-- The loop over the first dates. -/
def runThrough : ℕ → Except String BacktestState
  | 0 => .ok e.start
  | idx + 1 => do
    let s ← runThrough idx
    match e.timeline[idx]? with
    | some date => e.step idx date s
    | none => pure s

/-- **`BacktestEngine.run`**, with the state its report is built from. -/
def run : Except String BacktestState := do
  refuse e.dataMap.isEmpty "No market data available for backtest execution."
  refuse (e.timeline.length < 20)
    "Insufficient historical bars for backtest execution (< 20 bars)."
  e.runThrough e.timeline.length

end BacktestRun

end AgenticTrader
