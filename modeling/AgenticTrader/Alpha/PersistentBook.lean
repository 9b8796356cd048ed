import AgenticTrader.Alpha.Sessions
import AgenticTrader.Library.Checks
import AgenticTrader.Library.Extended
import Mathlib.Data.Matrix.Mul

/-!
# The research book

`simulate_book` (`research/alpha/persistent_book.py`) carries a book of quantities and cash
through the sessions of a panel. The targets of one close fix the quantities of the next open,
borrow and funding accrue overnight and during the day, and the last close liquidates.

Each statement of the loop moves cash, quantities or a column of the report, and only at the
end of a session does the code compare them. The comparison is exact: every step has one lemma
that says what it does to the value of the book at the prices of that moment, and the value at
two closes differs by what the session reports.
-/

namespace AgenticTrader

variable {clock : DayClock} {m : ℕ}

/-! ## The contract -/

inductive BookMode where
  | reset
  | persistent
  | buffered
  deriving DecidableEq, Repr

/-- **`CostScenario`**, in basis points. -/
structure CostScenario where
  costBps : ℚ
  borrowBps : ℚ
  fundingBps : ℚ
  cost_bounds : 0 ≤ costBps ∧ costBps ≤ 10000
  borrow_bounds : 0 ≤ borrowBps ∧ borrowBps ≤ 10000
  funding_bounds : 0 ≤ fundingBps ∧ fundingBps ≤ 10000

/-- **`BookPolicy`.** -/
structure BookPolicy where
  mode : BookMode
  rebalanceSessions : ℕ
  turnoverBuffer : ℚ
  sessions_bounds : 1 ≤ rebalanceSessions ∧ rebalanceSessions ≤ 252
  buffer_bounds : 0 ≤ turnoverBuffer ∧ turnoverBuffer ≤ 1

/-- **A panel**, keyed by New York dates. -/
structure BookPanel (m : ℕ) where
  index : List ℤ
  columns : Fin m → String
  value : ℕ → Fin m → Extended ℚ

/-- What `simulate_book` is called with. -/
structure BookInput (clock : DayClock) (m : ℕ) where
  opening : BookPanel m
  close : BookPanel m
  targets : BookPanel m
  sessions : List (TradingSession clock)
  policy : BookPolicy
  costs : CostScenario

/-- `NUMERICAL_TOLERANCE`. -/
def numericalTolerance : ℚ := 1 / 10000000000

/-- `SECONDS_PER_ACT365_YEAR`. -/
def secondsPerAct365Year : ℚ := 31536000

/-- `np.isclose(a, b, atol=NUMERICAL_TOLERANCE, rtol=NUMERICAL_TOLERANCE)`. -/
def npIsClose (a b : ℚ) : Bool := |a - b| ≤ numericalTolerance + numericalTolerance * |b|

/-- A span of time in years. -/
def act365 (start stop : Time) : ℚ := (stop - start : ℤ) / 1000000 / secondsPerAct365Year

/-! ## The state and the report -/

structure BookState (m : ℕ) where
  q : Fin m → ℚ
  cash : ℚ
  equity : ℚ
  rebalances : ℕ

/-- **One row of the report.** -/
structure BookDay (m : ℕ) where
  bar : ℤ
  cash : ℚ
  equity : ℚ
  return_ : ℚ
  pricePnl : ℚ
  fees : ℚ
  borrow : ℚ
  funding : ℚ
  turnover : ℚ
  gross : ℚ
  net : ℚ
  openingNet : ℚ
  openingAt : Time
  closingAt : Time
  assumedDecisionAt : Option ℤ
  units : Fin m → ℚ
  markedInventory : Fin m → ℚ
  submittedUnits : Fin m → ℚ
  preTerminalUnits : Option (Fin m → ℚ)
  decisionBar : Option ℤ

/-- **The report.** -/
structure BookResult (m : ℕ) where
  daily : List (BookDay m)
  netReturn : ℚ
  dailyMarkedDrawdown : ℚ
  rebalances : ℕ
  turnoverInitialCapital : ℚ
  feesInitialCapital : ℚ
  borrowInitialCapital : ℚ
  fundingInitialCapital : ℚ
  maximumMarkedGross : ℚ
  maximumAbsoluteMarkedNet : ℚ
  terminalInventory : Option (Fin m → ℚ)

def BookState.start : BookState m := ⟨0, 1, 1, 0⟩

/-- What a rebalance leaves. -/
structure Rebalanced (m : ℕ) where
  q : Fin m → ℚ
  cash : ℚ
  fee : ℚ
  turnover : ℚ
  submitted : Fin m → ℚ
  rebalances : ℕ

/-- What a session comes to, before it is checked. -/
structure BookMark (m : ℕ) where
  openingEquity : ℚ
  openingGross : ℚ
  openingNet : ℚ
  preTerminalUnits : Fin m → ℚ
  preTerminalEquity : ℚ
  markedGross : ℚ
  markedNet : ℚ
  q : Fin m → ℚ
  cash : ℚ
  marked : Fin m → ℚ
  equity : ℚ
  pricePnl : ℚ
  fee : ℚ
  borrow : ℚ
  funding : ℚ
  turnover : ℚ
  submitted : Fin m → ℚ
  rebalances : ℕ

namespace BookInput

variable (x : BookInput clock m)

/-- `opening.iloc[i]`. -/
def op (i : ℕ) : Fin m → ℚ := fun j => (x.opening.value i j).getD 0

/-- `close.iloc[i]`. -/
def cl (i : ℕ) : Fin m → ℚ := fun j => (x.close.value i j).getD 0

/-- `targets.iloc[i]`. -/
def target (i : ℕ) : Fin m → ℚ := fun j => (x.targets.value i j).getD 0

/-- `sessions[i].open`. -/
def openAt (i : ℕ) : Time := (x.sessions[i]?.map TradingSession.openAt).getD 0

/-- `sessions[i].close`. -/
def closeAt (i : ℕ) : Time := (x.sessions[i]?.map TradingSession.closeAt).getD 0

/-- `close.index[i]`. -/
def bar (i : ℕ) : ℤ := (x.close.index[i]?).getD 0

/-- The close before, or the open of the first session. -/
def previous (i : ℕ) : Fin m → ℚ := if i = 0 then x.op i else x.cl (i - 1)

def overnight (i : ℕ) : ℚ := if i = 0 then 0 else act365 (x.closeAt (i - 1)) (x.openAt i)

def intraday (i : ℕ) : ℚ := act365 (x.openAt i) (x.closeAt i)

/-- What is paid for the short side of a book over a span. -/
def borrowOf (q prices : Fin m → ℚ) (span : ℚ) : ℚ :=
  (∑ j, max (-q j * prices j) 0) * x.costs.borrowBps / 10000 * span

/-- What is paid for negative cash over a span. -/
def fundingOf (cash span : ℚ) : ℚ := max (-cash) 0 * x.costs.fundingBps / 10000 * span

/-- Whether the session executes the targets of the close before. -/
def isDecision (i : ℕ) : Bool := i ≠ 0 ∧ (i - 1) % x.policy.rebalanceSessions = 0

/-- The quantities that are held after the session's order, if there is one: sized by the
equity and the prices of the close before. -/
def desired? (i : ℕ) (s : BookState m) : Option (Fin m → ℚ) :=
  if x.isDecision i then
    let observedEquity := s.cash + s.q ⬝ᵥ x.previous i
    let desired : Fin m → ℚ := fun j => x.target (i - 1) j * observedEquity / x.previous i j
    let drift := (∑ j, |(desired j - s.q j) * x.previous i j|) / observedEquity
    if x.policy.mode ≠ .buffered ∨ x.policy.turnoverBuffer < drift then some desired else none
  else none

/-- **The order of a session**, from the cash that is left after the night. -/
def rebalance (i : ℕ) (s : BookState m) (cash : ℚ) : Rebalanced m :=
  match x.desired? i s with
  | none => ⟨s.q, cash, 0, 0, 0, s.rebalances⟩
  | some desired =>
    let submitted := desired - s.q
    let turnover := if x.policy.mode = .reset then (|s.q| + |desired|) ⬝ᵥ x.op i
      else |submitted| ⬝ᵥ x.op i
    let fee := turnover * x.costs.costBps / 10000
    ⟨desired, cash - (submitted ⬝ᵥ x.op i + fee), fee, turnover, submitted,
      if numericalTolerance < turnover then s.rebalances + 1 else s.rebalances⟩

/-- The session is the last of the panel. -/
def isLast (i : ℕ) : Bool := i + 1 = x.close.index.length

def overnightBorrow (i : ℕ) (s : BookState m) : ℚ :=
  x.borrowOf s.q (x.previous i) (x.overnight i)

def overnightFunding (i : ℕ) (s : BookState m) : ℚ := x.fundingOf s.cash (x.overnight i)

/-- The order, paid from what the night left of the cash. -/
def order (i : ℕ) (s : BookState m) : Rebalanced m :=
  x.rebalance i s (s.cash - (x.overnightBorrow i s + x.overnightFunding i s))

/-- What the night did to the quantities. -/
def overnightPnl (i : ℕ) (s : BookState m) : ℚ :=
  if i = 0 then 0 else s.q ⬝ᵥ (x.op i - x.previous i)

/-- **A session**, statement by statement. -/
def mark (i : ℕ) (s : BookState m) : BookMark m :=
  let order := x.order i s
  let openingEquity := order.cash + order.q ⬝ᵥ x.op i
  let intradayBorrow := x.borrowOf order.q (x.op i) (x.intraday i)
  let intradayFunding := x.fundingOf order.cash (x.intraday i)
  let cash := order.cash - (intradayBorrow + intradayFunding)
  let preTerminalEquity := cash + order.q ⬝ᵥ x.cl i
  let terminal := if x.isLast i then |order.q| ⬝ᵥ x.cl i else 0
  let terminalFee := terminal * x.costs.costBps / 10000
  let finalCash := if x.isLast i then cash + (order.q ⬝ᵥ x.cl i - terminalFee) else cash
  let q := if x.isLast i then 0 else order.q
  { openingEquity := openingEquity
    openingGross := (∑ j, |order.q j * x.op i j|) / openingEquity
    openingNet := order.q ⬝ᵥ x.op i / openingEquity
    preTerminalUnits := order.q
    preTerminalEquity := preTerminalEquity
    markedGross := (∑ j, |order.q j * x.cl i j|) / preTerminalEquity
    markedNet := order.q ⬝ᵥ x.cl i / preTerminalEquity
    q := q
    cash := finalCash
    marked := q * x.cl i
    equity := finalCash + ∑ j, (q * x.cl i) j
    pricePnl := x.overnightPnl i s + order.q ⬝ᵥ (x.cl i - x.op i)
    fee := order.fee + terminalFee
    borrow := x.overnightBorrow i s + intradayBorrow
    funding := x.overnightFunding i s + intradayFunding
    turnover := order.turnover + terminal
    submitted := order.submitted
    rebalances := order.rebalances }

/-- The row of a session. -/
def day (i : ℕ) (s : BookState m) : BookDay m :=
  let mark := x.mark i s
  { bar := x.bar i
    cash := mark.cash
    equity := mark.equity
    return_ := mark.equity / s.equity - 1
    pricePnl := mark.pricePnl
    fees := mark.fee
    borrow := mark.borrow
    funding := mark.funding
    turnover := mark.turnover
    gross := max mark.openingGross mark.markedGross
    net := mark.markedNet
    openingNet := mark.openingNet
    openingAt := x.openAt i
    closingAt := x.closeAt i
    assumedDecisionAt := if x.isDecision i then some (x.bar (i - 1) + 1) else none
    units := mark.q
    markedInventory := mark.marked
    submittedUnits := mark.submitted
    preTerminalUnits := if x.isLast i then some mark.preTerminalUnits else none
    decisionBar := if x.isDecision i then some (x.bar (i - 1)) else none }

/-- **One round of the loop**, with what it raises. -/
def session (i : ℕ) (s : BookState m) : Except String (BookState m × BookDay m) :=
  let mark := x.mark i s
  if mark.openingEquity ≤ 0 then .error "Book insolvent at opening mark"
  else if mark.preTerminalEquity ≤ 0 then .error "Book insolvent at closing mark"
  else if mark.equity ≤ 0 ∨ npIsClose (mark.equity - s.equity)
      (mark.pricePnl - mark.fee - mark.borrow - mark.funding) = false then
    .error "Invalid self-financing book identity or insolvency"
  else .ok (⟨mark.q, mark.cash, mark.equity, mark.rebalances⟩, x.day i s)

/-- The loop over the first sessions. -/
def run : ℕ → Except String (BookState m × List (BookDay m))
  | 0 => .ok (BookState.start, [])
  | i + 1 => do
    let (s, daily) ← run i
    let (s, day) ← x.session i s
    pure (s, daily ++ [day])

/-- A panel that `validate_panel` and the alignment with the closes let through. -/
def checkPanel (panel : BookPanel m) : Except String Unit := do
  refuse (¬ (panel.index.Pairwise (· < ·) ∧ (List.ofFn panel.columns).Nodup))
    "Panel must have unique sorted timestamps and unique symbols"
  refuse ((List.range panel.index.length).any (fun i => (List.finRange m).any
      (fun j => panel.value i j = .infinity true ∨ panel.value i j = .infinity false)))
    "Infinite panel observations"
  refuse (¬ (panel.index = x.close.index ∧ panel.columns = x.close.columns)
      ∨ (List.range panel.index.length).any (fun i => (List.finRange m).any
        (fun j => !(panel.value i j).isFinite)))
    "Complete exactly aligned prices and targets required"

/-- **What is checked before the loop.** -/
def check : Except String Unit := do
  let rows := List.range x.close.index.length
  x.checkPanel x.opening
  x.checkPanel x.close
  x.checkPanel x.targets
  refuse (x.close.index.length < 2 ∨ rows.any (fun i => (List.finRange m).any
      (fun j => x.op i j ≤ 0 ∨ x.cl i j ≤ 0)))
    "Positive prices and aware multi-session clock required"
  refuse (x.sessions.map TradingSession.date ≠ x.close.index
      ∨ ¬ x.sessions.IsChain (fun a b => a.closeAt < b.openAt))
    "Exact ordered observed exchange sessions required"
  refuse (rows.any (fun i => 1 + numericalTolerance < ∑ j, |x.target i j|
      ∨ numericalTolerance < |∑ j, x.target i j|))
    "Declared zero-net, gross-at-most-one targets required"

/-- `np.max(1 - wealth / np.maximum.accumulate(wealth))`, after the wealth it starts with. -/
def drawdown (peak : ℚ) : List ℚ → ℚ
  | [] => 0
  | wealth :: later => max (1 - wealth / max peak wealth) (drawdown (max peak wealth) later)

/-- **`simulate_book`.** -/
def simulateBook : Except String (BookResult m) := do
  x.check
  let (s, daily) ← x.run x.close.index.length
  pure
    { daily := daily
      netReturn := s.equity - 1
      dailyMarkedDrawdown := drawdown 1 (daily.map BookDay.equity)
      rebalances := s.rebalances
      turnoverInitialCapital := (daily.map BookDay.turnover).sum
      feesInitialCapital := (daily.map BookDay.fees).sum
      borrowInitialCapital := (daily.map BookDay.borrow).sum
      fundingInitialCapital := (daily.map BookDay.funding).sum
      maximumMarkedGross := (daily.map BookDay.gross).foldr max 0
      maximumAbsoluteMarkedNet :=
        (daily.map (fun day => max |day.net| |day.openingNet|)).foldr max 0
      terminalInventory := daily.getLast?.map BookDay.units }

/-! ## The value of the book -/

variable {x : BookInput clock m} {i : ℕ} {s : BookState m}

/-- **An order changes the value of the book by its fee.** -/
theorem order_value :
    (x.order i s).cash + (x.order i s).q ⬝ᵥ x.op i
      = s.cash - (x.overnightBorrow i s + x.overnightFunding i s) + s.q ⬝ᵥ x.op i
        - (x.order i s).fee := by
  unfold order rebalance
  cases x.desired? i s with
  | none => exact (sub_zero _).symm
  | some desired =>
    simp only [sub_dotProduct]
    ring

/-- **The liquidation changes the value of the book by its fee.** -/
theorem mark_equity_eq :
    (x.mark i s).equity
      = (x.mark i s).preTerminalEquity - ((x.mark i s).fee - (x.order i s).fee) := by
  unfold mark
  cases x.isLast i with
  | true =>
    simp only [if_true, zero_mul, Pi.zero_apply, Finset.sum_const_zero]
    ring
  | false =>
    simp only [Bool.false_eq_true, if_false]
    rw [dotProduct]
    simp only [Pi.mul_apply]
    ring

theorem overnightPnl_eq :
    x.overnightPnl i s = s.q ⬝ᵥ x.op i - s.q ⬝ᵥ x.previous i := by
  unfold overnightPnl
  split_ifs with hi
  · unfold previous
    rw [if_pos hi, sub_self]
  · exact dotProduct_sub _ _ _

/-- **A state is valued at the close before.** -/
def Valued (x : BookInput clock m) (i : ℕ) (s : BookState m) : Prop :=
  s.equity = s.cash + s.q ⬝ᵥ x.previous i

/-- **The identity of a session.** -/
theorem Valued.mark_sub (h : x.Valued i s) :
    (x.mark i s).equity - s.equity
      = (x.mark i s).pricePnl - (x.mark i s).fee - (x.mark i s).borrow - (x.mark i s).funding := by
  have horder : (x.order i s).cash + (x.order i s).q ⬝ᵥ x.op i = _ := order_value
  rw [mark_equity_eq, h]
  simp only [mark, overnightPnl_eq, dotProduct_sub]
  linarith

theorem valued_start : x.Valued 0 BookState.start := by
  unfold Valued BookState.start
  rw [zero_dotProduct, add_zero]

theorem npIsClose_self (a : ℚ) : npIsClose a a = true := by
  have htolerance : 0 ≤ numericalTolerance := by
    unfold numericalTolerance
    norm_num
  unfold npIsClose
  rw [sub_self, abs_zero, decide_eq_true_eq]
  exact add_nonneg htolerance (mul_nonneg htolerance (abs_nonneg a))

/-- **Only insolvency raises.** -/
theorem Valued.session_eq (h : x.Valued i s) :
    x.session i s
      = if (x.mark i s).openingEquity ≤ 0 then .error "Book insolvent at opening mark"
        else if (x.mark i s).preTerminalEquity ≤ 0 then .error "Book insolvent at closing mark"
        else if (x.mark i s).equity ≤ 0 then
          .error "Invalid self-financing book identity or insolvency"
        else .ok (⟨(x.mark i s).q, (x.mark i s).cash, (x.mark i s).equity, (x.mark i s).rebalances⟩,
          x.day i s) := by
  simp only [session, h.mark_sub, npIsClose_self, Bool.true_eq_false, or_false]

/-- What a round that does not raise leaves. -/
theorem Valued.of_session (h : x.Valued i s) {s' : BookState m} {day : BookDay m}
    (hsession : x.session i s = .ok (s', day)) :
    x.Valued (i + 1) s' ∧ day = x.day i s ∧ day.equity = s'.equity ∧ day.units = s'.q
      ∧ s'.equity - s.equity = day.pricePnl - day.fees - day.borrow - day.funding
      ∧ (x.isLast i = true → s'.q = 0) := by
  rw [h.session_eq] at hsession
  split_ifs at hsession
  cases hsession
  refine ⟨rfl, rfl, rfl, rfl, h.mark_sub, fun hlast => ?_⟩
  simp only [mark, hlast, if_true]

/-! ## The whole loop -/

/-- The sums of the report. -/
def netOf (daily : List (BookDay m)) : ℚ :=
  (daily.map BookDay.pricePnl).sum - (daily.map BookDay.fees).sum - (daily.map BookDay.borrow).sum
    - (daily.map BookDay.funding).sum

theorem netOf_concat (daily : List (BookDay m)) (day : BookDay m) :
    netOf (daily ++ [day])
      = netOf daily + (day.pricePnl - day.fees - day.borrow - day.funding) := by
  unfold netOf
  simp only [List.map_append, List.map_singleton, List.sum_append, List.sum_singleton]
  ring

theorem run_succ_eq_ok {out : BookState m × List (BookDay m)} :
    x.run (i + 1) = .ok out ↔ ∃ s daily s' day, x.run i = .ok (s, daily)
      ∧ x.session i s = .ok (s', day) ∧ out = (s', daily ++ [day]) := by
  rw [run, except_bind_eq_ok]
  constructor
  · rintro ⟨⟨s, daily⟩, hrun, hrest⟩
    obtain ⟨⟨s', day⟩, hsession, hout⟩ := except_bind_eq_ok.mp hrest
    cases hout
    exact ⟨s, daily, s', day, hrun, hsession, rfl⟩
  · rintro ⟨s, daily, s', day, hrun, hsession, rfl⟩
    exact ⟨(s, daily), hrun, except_bind_eq_ok.mpr ⟨(s', day), hsession, rfl⟩⟩

/-- **The loop keeps the value and the sums.** -/
theorem run_invariant {daily : List (BookDay m)} (h : x.run i = .ok (s, daily)) :
    x.Valued i s ∧ s.equity - 1 = netOf daily ∧ daily.length = i := by
  induction i generalizing s daily with
  | zero =>
    cases h
    refine ⟨valued_start, ?_, rfl⟩
    simp [BookState.start, netOf]
  | succ i ih =>
    obtain ⟨s₀, daily₀, s', day, hrun, hsession, hout⟩ := run_succ_eq_ok.mp h
    cases hout
    obtain ⟨hvalued, hnet, hlength⟩ := ih hrun
    obtain ⟨hnext, -, -, -, hday, -⟩ := hvalued.of_session hsession
    refine ⟨hnext, ?_, ?_⟩
    · rw [netOf_concat, ← hnet, ← hday]
      ring
    · rw [List.length_append, hlength, List.length_singleton]

/-! ## What a session has seen -/

/-- **Two inputs are the same up to a session**: the prices and the calendar through it, the
targets before it, and whether it is the last. -/
structure SameThrough (x x' : BookInput clock m) (i : ℕ) : Prop where
  policy : x.policy = x'.policy
  costs : x.costs = x'.costs
  opening : ∀ j ≤ i, x.opening.value j = x'.opening.value j
  close : ∀ j ≤ i, x.close.value j = x'.close.value j
  targets : ∀ j < i, x.targets.value j = x'.targets.value j
  sessions : ∀ j ≤ i, x.sessions[j]? = x'.sessions[j]?
  index : ∀ j ≤ i, x.close.index[j]? = x'.close.index[j]?
  last : (i + 1 < x.close.index.length ∧ i + 1 < x'.close.index.length)
    ∨ x.close.index.length = x'.close.index.length

variable {x' : BookInput clock m}

theorem SameThrough.mono (h : SameThrough x x' i) {j : ℕ} (hj : j ≤ i) : SameThrough x x' j where
  policy := h.policy
  costs := h.costs
  opening := fun k hk => h.opening k (hk.trans hj)
  close := fun k hk => h.close k (hk.trans hj)
  targets := fun k hk => h.targets k (hk.trans_le hj)
  sessions := fun k hk => h.sessions k (hk.trans hj)
  index := fun k hk => h.index k (hk.trans hj)
  last := h.last.imp_left (fun hlast => ⟨by omega, by omega⟩)

namespace SameThrough

variable (h : SameThrough x x' i)

include h

theorem op_eq : x.op i = x'.op i := by
  unfold op
  rw [h.opening i le_rfl]

theorem cl_eq : x.cl i = x'.cl i := by
  unfold cl
  rw [h.close i le_rfl]

theorem previous_eq : x.previous i = x'.previous i := by
  unfold previous
  rw [h.op_eq, (h.mono (Nat.sub_le i 1)).cl_eq]

theorem span_eq : x.openAt i = x'.openAt i ∧ x.closeAt i = x'.closeAt i ∧ x.bar i = x'.bar i := by
  unfold openAt closeAt bar
  rw [h.sessions i le_rfl, h.index i le_rfl]
  exact ⟨rfl, rfl, rfl⟩

theorem overnight_eq : x.overnight i = x'.overnight i := by
  unfold overnight
  rw [h.span_eq.1, (h.mono (Nat.sub_le i 1)).span_eq.2.1]

theorem intraday_eq : x.intraday i = x'.intraday i := by
  unfold intraday
  rw [h.span_eq.1, h.span_eq.2.1]

theorem isDecision_eq : x.isDecision i = x'.isDecision i := by
  unfold isDecision
  rw [h.policy]

theorem isLast_eq : x.isLast i = x'.isLast i := by
  unfold isLast
  rcases h.last with ⟨hx, hx'⟩ | hlength
  · rw [decide_eq_false hx.ne, decide_eq_false hx'.ne]
  · rw [hlength]

/-- The order has seen the targets of the close before. -/
theorem desired?_eq : x.desired? i s = x'.desired? i s := by
  unfold desired?
  rw [h.isDecision_eq]
  cases hdecision : x'.isDecision i with
  | false => rfl
  | true =>
    have hi : i ≠ 0 := (of_decide_eq_true hdecision).1
    have htarget : x.target (i - 1) = x'.target (i - 1) := by
      unfold target
      rw [h.targets (i - 1) (Nat.sub_lt (Nat.pos_of_ne_zero hi) one_pos)]
    rw [h.policy, h.previous_eq, htarget]

theorem order_eq : x.order i s = x'.order i s := by
  unfold BookInput.order rebalance overnightBorrow overnightFunding borrowOf fundingOf
  rw [h.desired?_eq, h.policy, h.costs, h.op_eq, h.previous_eq, h.overnight_eq]

theorem mark_eq : x.mark i s = x'.mark i s := by
  unfold mark overnightPnl overnightBorrow overnightFunding borrowOf fundingOf
  rw [h.order_eq, h.costs, h.op_eq, h.cl_eq, h.previous_eq, h.overnight_eq, h.intraday_eq,
    h.isLast_eq]

theorem session_eq : x.session i s = x'.session i s := by
  unfold session day
  rw [h.mark_eq, h.span_eq.1, h.span_eq.2.1, h.span_eq.2.2, h.isDecision_eq, h.isLast_eq,
    (h.mono (Nat.sub_le i 1)).span_eq.2.2]

/-- **The loop through a session has seen nothing after it.** -/
theorem run_eq : x.run (i + 1) = x'.run (i + 1) := by
  have hgeneral : ∀ j ≤ i + 1, x.run j = x'.run j := by
    intro j hj
    induction j with
    | zero => rfl
    | succ j ih =>
      rw [run, run, ih (Nat.le_of_succ_le hj)]
      have hsession : ∀ s, x.session j s = x'.session j s :=
        fun s => (h.mono (Nat.le_of_succ_le_succ hj)).session_eq
      simp only [hsession]
  exact hgeneral (i + 1) le_rfl

end SameThrough

/-! ## The report -/

theorem two_le_of_check (h : x.check = .ok ()) : 2 ≤ x.close.index.length := by
  unfold check at h
  obtain ⟨-, -, h⟩ := except_bind_eq_ok.mp h
  obtain ⟨-, -, h⟩ := except_bind_eq_ok.mp h
  obtain ⟨-, -, h⟩ := except_bind_eq_ok.mp h
  have hrefused := (refuse_bind_eq_ok.mp h).1
  rw [decide_eq_false_iff_not, not_or, not_lt] at hrefused
  exact hrefused.1

/-- **The book finances itself.** In every state the loop reaches, the value at the next close
differs from the value before by exactly what the session reports, so that the check raises
only where the book is insolvent; a finished report's return is the sum of its price gains less
fees, borrow and funding, and nothing is held at its end; and two inputs that are the same up
to a session give the same report up to it. -/
theorem book_finances_itself (x : BookInput clock m) :
    (∀ i s daily, x.run i = .ok (s, daily) →
      (x.mark i s).equity - s.equity
          = (x.mark i s).pricePnl - (x.mark i s).fee - (x.mark i s).borrow - (x.mark i s).funding
        ∧ (0 < (x.mark i s).openingEquity → 0 < (x.mark i s).preTerminalEquity →
          0 < (x.mark i s).equity → ∃ s', x.session i s = .ok (s', x.day i s)))
    ∧ (∀ result, x.simulateBook = .ok result →
      result.netReturn = (result.daily.map BookDay.pricePnl).sum - result.feesInitialCapital
          - result.borrowInitialCapital - result.fundingInitialCapital
        ∧ result.daily.length = x.close.index.length
        ∧ result.terminalInventory = some 0)
    ∧ ∀ (x' : BookInput clock m) (i : ℕ), SameThrough x x' i → x.run (i + 1) = x'.run (i + 1) := by
  refine ⟨?_, ?_, fun x' i h => h.run_eq⟩
  · intro i s daily hrun
    have hvalued := (run_invariant hrun).1
    refine ⟨hvalued.mark_sub, fun hopening hclosing hequity => ?_⟩
    rw [hvalued.session_eq, if_neg hopening.not_ge, if_neg hclosing.not_ge, if_neg hequity.not_ge]
    exact ⟨_, rfl⟩
  · intro result hresult
    obtain ⟨⟨⟩, hcheck, hresult⟩ := except_bind_eq_ok.mp hresult
    obtain ⟨⟨s, daily⟩, hrun, hout⟩ := except_bind_eq_ok.mp hresult
    cases hout
    obtain ⟨-, hnet, hlength⟩ := run_invariant hrun
    refine ⟨hnet, hlength, ?_⟩
    -- the last round liquidates
    obtain ⟨last, hlast⟩ := Nat.exists_eq_succ_of_ne_zero
      (Nat.ne_of_gt ((Nat.zero_lt_two).trans_le (two_le_of_check hcheck)))
    rw [hlast] at hrun
    obtain ⟨s₀, daily₀, s', day, hrun₀, hsession, hout⟩ := run_succ_eq_ok.mp hrun
    cases hout
    obtain ⟨-, -, -, hunits, -, hzero⟩ := (run_invariant hrun₀).1.of_session hsession
    have hq := hzero (decide_eq_true hlast.symm)
    simp only [List.getLast?_concat, Option.map_some, hunits, hq]

end BookInput

end AgenticTrader
