import AgenticTrader.Alpha.Strategy
import AgenticTrader.Library.LocalTime
import Mathlib.Algebra.BigOperators.Group.List.Basic

/-!
# The bracket simulator

`simulate_execution` (`research/alpha/simulation.py`) runs bracket orders over a
series of bars, with one unit of capital. Each bar takes five steps: a resting limit
whose deadline has come is dropped, a proposal becomes the pending order, the pending
order fills, the position is closed or trailed, and the account is marked at the
close.

The source keeps the fields of a position in local variables, and a direction of
zero for none. Here a position is a record, present while the direction is not zero.
A bar is named by its number, for the source's `str(frame.index[i])`.
-/

namespace AgenticTrader

/-- **A valid bar**: `simulate_strategy` refuses prices that are not positive, and a
range that does not hold the open and the close. -/
structure ExecutionBar where
  time : Time
  open_ : ℚ
  high : ℚ
  low : ℚ
  close : ℚ
  low_pos : 0 < low
  low_le_open : low ≤ open_
  low_le_close : low ≤ close
  open_le_high : open_ ≤ high
  close_le_high : close ≤ high

/-- A proposal of a completed bar. -/
structure BracketIntent where
  direction : Direction
  limit : ℚ
  stop : ℚ
  target : ℚ
  signalTimestamp : String

/-- The order that rests, with its deadline. -/
structure PendingEntry where
  intent : BracketIntent
  deadline : Option Time

/-- The position that is held. -/
structure SimulatedPosition where
  direction : Direction
  quantity : ℚ
  entry : ℚ
  stop : ℚ
  target : ℚ
  initialRisk : ℚ
  entryFee : ℚ
  entryEquity : ℚ
  entryBar : ℕ
  deadline : Option Time

/-- A closed trade. -/
structure SimulatedTrade where
  entryBar : ℕ
  exitBar : ℕ
  entryPrice : ℚ
  exitPrice : ℚ
  direction : Direction
  netReturn : ℚ

/-- A filled entry. -/
structure SimulatedEntry where
  bar : ℕ
  price : ℚ
  limit : ℚ
  direction : Direction
  deriving DecidableEq

/-- **`SimulationEventKind`**, with what each kind is emitted with. -/
inductive SimulationEventKind where
  | orderCreated (intent : BracketIntent)
  | entryExpired (deadline : Time)
  | holdingExpired (deadline : Time)
  | entryFilled (price limit : ℚ) (direction : Direction) (intrabar : Bool)
      (quantity fee entryEquity : ℚ)
  | exitFilled (price netReturn quantity fee entryEquity grossPnl netPnl : ℚ) (atOpen : Bool)
  | stopUpdated (oldStop stop : ℚ)

/-- One line of the trace. -/
structure SimulationEvent where
  bar : ℕ
  orderNumber : ℕ
  kind : SimulationEventKind

/-- **The state of the loop.** -/
structure SimulationState where
  cash : ℚ
  equity : ℚ
  position : Option SimulatedPosition
  pending : Option PendingEntry
  orderNumber : ℕ
  trades : List SimulatedTrade
  entries : List SimulatedEntry
  returns : List ℚ
  events : List SimulationEvent

namespace AlphaExecutionPolicy

variable (policy : AlphaExecutionPolicy) (at_ : Time)

/-- `TradeLifetimePolicy.entry_deadline`. -/
def entryDeadline : Option Time :=
  policy.restingSeconds.map (fun seconds => at_ + seconds * Zone.second)

/-- `TradeLifetimePolicy.holding_deadline`. -/
def holdingDeadline : Option Time :=
  policy.holdingSeconds.map (fun seconds => at_ + seconds * Zone.second)

end AlphaExecutionPolicy

/-- Whether a bar reaches a level against a direction, as limits and stops are
touched, and whether it reaches one with it, as targets are. -/
def ExecutionBar.drops (bar : ExecutionBar) (direction : Direction) (level : ℚ) : Bool :=
  if direction = .long then bar.low ≤ level else level ≤ bar.high

def ExecutionBar.gains (bar : ExecutionBar) (direction : Direction) (level : ℚ) : Bool :=
  if direction = .long then level ≤ bar.high else bar.low ≤ level

/-- **Where a limit fills**, and whether after the open: at the open when that is at
the limit or better, else at the limit when the bar touches it. -/
def BracketIntent.fill? (intent : BracketIntent) (bar : ExecutionBar) : Option (ℚ × Bool) :=
  if intent.direction.sign * (bar.open_ - intent.limit) ≤ 0 then some (bar.open_, false)
  else if bar.drops intent.direction intent.limit then some (intent.limit, true)
  else none

/-- **Where a position is closed**, with the deadline if that closes it. A bar that
touches both sides takes the stop, and a target that a bar may have reached before
the fill counts only if the close holds it. -/
def SimulatedPosition.exit? (position : SimulatedPosition) (bar : ExecutionBar)
    (intrabar : Bool) : Option (ℚ × Option Time) :=
  let sign := position.direction.sign
  if !intrabar ∧ (sign * (bar.open_ - position.stop) ≤ 0
      ∨ 0 ≤ sign * (bar.open_ - position.target)) then
    some (bar.open_, none)
  else
    match position.deadline.filter (fun deadline => deadline ≤ bar.time) with
    | some deadline => some (bar.open_, some deadline)
    | none =>
      if bar.drops position.direction position.stop then some (position.stop, none)
      else if bar.gains position.direction position.target
          ∧ (!intrabar ∨ 0 ≤ sign * (bar.close - position.target)) then
        some (position.target, none)
      else none

/-- The position that is trailed on a close. -/
def SimulatedPosition.trail (policy : AlphaExecutionPolicy) (close : ℚ)
    (position : SimulatedPosition) : SimulatedPosition :=
  { position with
    stop := trailingPrice position.entry close position.stop position.initialRisk
      position.direction (.alpha policy) }

/-! ## One bar -/

namespace SimulationState

/-- `emit`. -/
def emit (i : ℕ) (kind : SimulationEventKind) (s : SimulationState) : SimulationState :=
  { s with events := s.events ++ [⟨i, s.orderNumber, kind⟩] }

variable (policy : AlphaExecutionPolicy) (intents : ℕ → Option BracketIntent) (i : ℕ)
  (bar : ExecutionBar) (s : SimulationState)

/-- A pending order whose deadline has come is dropped. -/
def expire : SimulationState :=
  match (s.pending.bind (·.deadline)).filter (fun deadline => deadline ≤ bar.time) with
  | some deadline => { s.emit i (.entryExpired deadline) with pending := none }
  | none => s

/-- A proposal is taken while nothing is held and nothing is pending. -/
def place : SimulationState :=
  match s.position, s.pending, intents i with
  | none, none, some intent =>
    emit i (.orderCreated intent)
      { s with
        pending := some ⟨intent, policy.entryDeadline bar.time⟩
        orderNumber := s.orderNumber + 1 }
  | _, _, _ => s

/-- The position that a fill opens: the whole equity, at the fill. -/
def opened (intent : BracketIntent) (price : ℚ) : SimulatedPosition where
  direction := intent.direction
  quantity := s.equity / price
  entry := price
  stop := intent.stop
  target := intent.target
  -- The source says here: same original reservation risk as the live journal.
  initialRisk := intent.direction.sign * (intent.limit - intent.stop)
  entryFee := s.equity / price * price * policy.frictionPerSide
  entryEquity := s.equity
  entryBar := i
  deadline := policy.holdingDeadline bar.time

/-- The account after a fill. -/
def filled (intent : BracketIntent) (price : ℚ) (intrabar : Bool) : SimulationState :=
  let position := s.opened policy i bar intent price
  emit i (.entryFilled price intent.limit intent.direction intrabar position.quantity
      position.entryFee position.entryEquity)
    { s with
      cash := s.cash
        - (intent.direction.sign * position.quantity * price + position.entryFee)
      position := some position
      pending := none
      entries := s.entries ++ [⟨i, price, intent.limit, intent.direction⟩] }

/-- **The pending order fills**, if it can; whether it does after the open. -/
def enter : SimulationState × Bool :=
  match s.pending with
  | none => (s, false)
  | some order =>
    match order.intent.fill? bar with
    | none => (s, false)
    | some (price, intrabar) => (s.filled policy i bar order.intent price intrabar, intrabar)

/-- **The position is closed** at a price. -/
def closed (position : SimulatedPosition) (price : ℚ) (intrabar : Bool) : SimulationState :=
  let sign := position.direction.sign
  let fee := position.quantity * price * policy.frictionPerSide
  let gross := sign * position.quantity * (price - position.entry)
  let pnl := gross - position.entryFee - fee
  emit i (.exitFilled price (pnl / position.entryEquity) position.quantity fee
      position.entryEquity gross pnl (decide (price = bar.open_) && !intrabar))
    { s with
      cash := s.cash + (sign * position.quantity * price - fee)
      position := none
      trades := s.trades ++ [⟨position.entryBar, i, position.entry, price, position.direction,
        pnl / position.entryEquity⟩] }

/-- **The position is trailed** on the close. -/
def trailed (position : SimulatedPosition) : SimulationState :=
  let next := position.trail policy bar.close
  let held := { s with position := some next }
  if next.stop = position.stop then held else held.emit i (.stopUpdated position.stop next.stop)

/-- The position is closed or trailed. -/
def settle (intrabar : Bool) : SimulationState :=
  match s.position with
  | none => s
  | some position =>
    match position.exit? bar intrabar with
    | some (price, some deadline) =>
      (s.emit i (.holdingExpired deadline)).closed policy i bar position price intrabar
    | some (price, none) => s.closed policy i bar position price intrabar
    | none => s.trailed policy i bar position

/-- The account at the close. -/
def marked : ℚ :=
  match s.position with
  | none => s.cash
  | some position => s.cash + position.direction.sign * position.quantity * bar.close

/-- **The mark at the close**, and the return of the bar. -/
def mark : Except String SimulationState :=
  let equity := s.marked bar
  if equity ≤ 0 then .error "Strategy exhausted research capital"
  else .ok { s with equity := equity, returns := s.returns ++ [equity / s.equity - 1] }

/-- The orders of a bar. -/
def trade : SimulationState :=
  let entered := ((s.expire i bar).place policy intents i bar).enter policy i bar
  entered.1.settle policy i bar entered.2

/-- **One bar.** -/
def step : Except String SimulationState := (s.trade policy intents i bar).mark bar

/-- The loop, from a bar on. -/
def run : ℕ → List ExecutionBar → SimulationState → Except String SimulationState
  | _, [], s => .ok s
  | i, bar :: bars, s => do
    let s' ← s.step policy intents i bar
    run (i + 1) bars s'

/-- One unit of capital, and nothing else. -/
def start : SimulationState where
  cash := 1
  equity := 1
  position := none
  pending := none
  orderNumber := 0
  trades := []
  entries := []
  returns := []
  events := []

end SimulationState

/-! ## The result -/

/-- **What `return_statistics` computes** without a root or a power: the total return,
the drawdown and the statistics of the trades. -/
structure ReturnStatistics where
  totalReturnPct : ℚ
  maxDrawdownPct : ℚ
  totalTrades : ℕ
  profitFactor : Option ℚ
  winRate : ℚ
  sampleLength : ℕ
  netReturns : List ℚ
  trades : List SimulatedTrade

/-- The equity after each bar, and its running peak, at least the start. -/
def equityCurve (returns : List ℚ) : List ℚ :=
  (returns.scanl (fun equity r => equity * (1 + r)) 1).tail

def peakCurve (equity : List ℚ) : List ℚ := (equity.scanl max 1).tail

/-- **`return_statistics`.** -/
def returnStatistics (index : List Time) (returns : List ℚ) (trades : List SimulatedTrade) :
    Except String ReturnStatistics :=
  if returns = [] ∨ ¬ index.Pairwise (· < ·) then
    .error "Unique, ordered return observations required"
  else
    let equity := equityCurve returns
    let pnls := trades.map (·.netReturn)
    let gains := (pnls.map (max 0)).sum
    let losses := -(pnls.map (min 0)).sum
    .ok
      { totalReturnPct := ((equity.getLast?.getD 1) - 1) * 100
        maxDrawdownPct :=
          (((peakCurve equity).zipWith (fun peak value => (peak - value) / peak) equity).foldl
            max 0) * 100
        totalTrades := trades.length
        profitFactor := if 0 < losses then some (gains / losses) else none
        winRate := if pnls = [] then 0
          else (pnls.countP (fun value => 0 < value) : ℚ) / pnls.length
        sampleLength := returns.length
        netReturns := returns
        trades := trades }

/-- The result of a simulation. -/
structure SimulationResult where
  statistics : ReturnStatistics
  events : Option (List SimulationEvent)
  openPosition : Bool
  pendingEntry : Bool
  entries : List SimulatedEntry

/-- **`simulate_execution`.** -/
def simulateExecution (frame : List ExecutionBar) (intents : ℕ → Option BracketIntent)
    (policy : AlphaExecutionPolicy) (start : ℤ) (trace : Bool) :
    Except String SimulationResult :=
  if ¬ (0 ≤ start ∧ start < frame.length) then .error "Invalid execution interval"
  else do
    let bars := frame.drop start.toNat
    let s ← SimulationState.start.run policy intents start.toNat bars
    let statistics ← returnStatistics (bars.map (·.time)) s.returns s.trades
    .ok
      { statistics
        events := if trace then some s.events else none
        openPosition := s.position.isSome
        pendingEntry := s.pending.isSome
        entries := s.entries }

end AgenticTrader
