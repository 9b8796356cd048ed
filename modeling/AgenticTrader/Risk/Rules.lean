import AgenticTrader.Library.HalfEven
import AgenticTrader.Storage.Db
import Mathlib.Data.Rat.Floor

/-!
# The entry-risk rules

`risk/` is the one place the limits of an entry are written: the limits
themselves (`risk/limits.py`), what the desk already holds
(`risk/book.py`), the capital a trade may risk (`risk/capital.py`) and one
pure rule per limit (`risk/rules.py`). Admission's verdict on a request
(`reservation_rejection`, `execution/admission.py`) is the first rule that
refuses it, in a fixed order.

Money and ratios are rationals; a float that is not finite has no
counterpart, so the checks of finiteness are the checks of presence. How a
number is printed, and how a text is upper-cased, are `RiskText`: only the
texts of the reasons depend on the former, and of the latter nothing is
used but that it is a function.
-/

namespace AgenticTrader

/-- **The text functions of the rules**: `str.upper`, and the formats `.1%`,
`.2f` and `,.0f`. -/
structure RiskText where
  upper : String → String
  percent1 : ℚ → String
  fixed2 : ℚ → String
  dollars : ℚ → String

/-! ## Limits -/

/-- `str.isspace` of one character. -/
def isSpace (c : Char) : Bool :=
  c.toNat ∈ [0x09, 0x0a, 0x0b, 0x0c, 0x0d, 0x1c, 0x1d, 0x1e, 0x1f, 0x20, 0x85, 0xa0, 0x1680,
    0x2028, 0x2029, 0x202f, 0x205f, 0x3000] || (0x2000 ≤ c.toNat && c.toNat ≤ 0x200a)

/-- **`str.strip`** without arguments. -/
def strip (text : String) : String :=
  String.ofList (((text.toList.dropWhile isSpace).reverse.dropWhile isSpace).reverse)

/-- **`normalize_symbol`**: `/MES`, `mes` and `MES` are one instrument. -/
def normalizeSymbol (text : RiskText) (symbol : String) : String :=
  text.upper (String.ofList ((strip symbol).toList.dropWhile (· == '/')))

/-- **`RiskLimits`**, with what `from_config` checks of them: every cap is
non-negative. The fields of the calendar and session rules are left out. A
correlation group lists normalised symbols. -/
structure RiskLimits where
  cash : ℚ
  drawdownGatingEnabled : Bool
  drawdownHaircutThresholdPct : ℚ
  maxDrawdownStopPct : ℚ
  drawdownMinRiskMultiplier : ℚ
  maxRiskPctCap : ℚ
  maxTradeNotionalCap : ℚ
  maxSharesPerTrade : ℕ
  maxContractsPerTrade : ℕ
  maxStopRiskPct : ℚ
  maxNotionalExposure : ℚ
  assetClassCaps : AssetClass → Option ℚ
  maxConcurrentPositions : ℕ
  maxCorrelatedPositions : ℕ
  correlationGroups : List (String × List String)
  minRiskRewardRatio : ℚ
  cash_nonneg : 0 ≤ cash
  maxRiskPctCap_nonneg : 0 ≤ maxRiskPctCap
  maxTradeNotionalCap_nonneg : 0 ≤ maxTradeNotionalCap
  maxStopRiskPct_nonneg : 0 ≤ maxStopRiskPct
  maxNotionalExposure_nonneg : 0 ≤ maxNotionalExposure
  assetClassCaps_nonneg : ∀ c cap, assetClassCaps c = some cap → 0 ≤ cap

/-- Where no class has a cap, none is negative. -/
theorem RiskLimits.uncapped (_ : AssetClass) (cap : ℚ) (h : (none : Option ℚ) = some cap) :
    0 ≤ cap := by
  cases h

/-! ## The book -/

/-- One thing the desk holds, or has reserved. -/
structure BookPosition where
  symbol : String
  direction : Direction
  assetClass : AssetClass
  notional : Option ℚ
  plannedRisk : Option ℚ
  reservation : Bool

/-- Exposure is known: both numbers present and non-negative. -/
def BookPosition.valid (p : BookPosition) : Bool :=
  p.notional.any (fun v => decide (0 ≤ v)) && p.plannedRisk.any (fun v => decide (0 ≤ v))

/-- **`Book`**: what admission counts a new entry against. -/
structure Book where
  positions : List BookPosition

namespace Book

/-- The position of a signal row. -/
def ofSignalRow (reservations : Bool) (row : Signal) : BookPosition where
  symbol := row.contract
  direction := row.direction
  assetClass := row.assetClass
  notional := row.notionalValue
  plannedRisk := some row.riskDollars
  reservation := reservations && row.status = .submitting

/-- **`Book.from_signal_rows`.** -/
def fromSignalRows (rows : List Signal) (reservations : Bool) : Book :=
  ⟨rows.map (ofSignalRow reservations)⟩

def count (book : Book) : ℕ := book.positions.length

def invalid (book : Book) : List BookPosition :=
  book.positions.filter (fun p => !p.valid)

def notional (book : Book) : ℚ :=
  (book.positions.map (fun p => p.notional.getD 0)).sum

def notionalFor (book : Book) (assetClass : AssetClass) : ℚ :=
  ((book.positions.filter (fun p => p.assetClass = assetClass)).map
    (fun p => p.notional.getD 0)).sum

def plannedRisk (book : Book) : ℚ :=
  (book.positions.map (fun p => p.plannedRisk.getD 0)).sum

/-- Some position is on the symbol. -/
def holds (book : Book) (text : RiskText) (symbol : String) : Bool :=
  book.positions.any (fun p => normalizeSymbol text p.symbol = normalizeSymbol text symbol)

/-- The positions of one direction among a set of symbols. -/
def sameDirectionIn (book : Book) (text : RiskText) (keys : List String)
    (direction : Direction) : List BookPosition :=
  book.positions.filter (fun p => normalizeSymbol text p.symbol ∈ keys
    && p.direction = direction)

end Book

/-! ## Capital -/

/-- **`risk_capital`**: configured capital is a ceiling. -/
def riskCapital (mandate : ℚ) (currentEquity : Option ℚ) : Except String ℚ :=
  if mandate ≤ 0 then .error "Configured risk capital must be finite and positive"
  else
    match currentEquity with
    | none => .ok mandate
    | some equity =>
      if equity ≤ 0 then .error "Observed equity must be finite and positive"
      else .ok (min mandate equity)

/-- **`drawdown_risk_factor`**: 1 up to the haircut threshold, falling
linearly to the minimum multiplier, 0 at the sizing halt. -/
def drawdownRiskFactor (drawdownPct : ℚ) (limits : RiskLimits) : Except String ℚ :=
  if drawdownPct < 0 then .error "Drawdown must be a finite nonnegative ratio"
  else if !limits.drawdownGatingEnabled then .ok 1
  else if limits.maxDrawdownStopPct ≤ drawdownPct then .ok 0
  else if drawdownPct ≤ limits.drawdownHaircutThresholdPct then .ok 1
  else
    let span := limits.maxDrawdownStopPct - limits.drawdownHaircutThresholdPct
    let excess := drawdownPct - limits.drawdownHaircutThresholdPct
    .ok (max limits.drawdownMinRiskMultiplier (1 - excess / span))

/-- `MACRO_FACTOR_FLOOR`. -/
def macroFactorFloor : ℚ := 1 / 10

/-- **`macro_risk_factor`**: it scales risk down, never up. -/
def macroRiskFactor (multiplier : ℚ) : ℚ :=
  max macroFactorFloor (min 1 multiplier)

/-- **`RiskBudget`**: the per-trade risk budget every layer shares. -/
structure RiskBudget where
  capital : ℚ
  drawdownPct : ℚ
  drawdownFactor : ℚ
  macroFactor : ℚ
  dollars : ℚ

/-- **`per_trade_risk_budget`.** -/
def perTradeRiskBudget (limits : RiskLimits) (equity : Option ℚ) (drawdownPct : ℚ)
    (macroMultiplier : ℚ) : Except String RiskBudget := do
  let capital ← riskCapital limits.cash equity
  let drawdown ← drawdownRiskFactor drawdownPct limits
  let macro_ := macroRiskFactor macroMultiplier
  .ok ⟨capital, drawdownPct, drawdown, macro_, capital * limits.maxRiskPctCap * drawdown * macro_⟩

/-! ## The intent -/

/-- **`EntryIntent`**: what is about to be risked. Its numbers are positive. -/
structure EntryIntent where
  symbol : String
  direction : Direction
  assetClass : AssetClass
  quantity : ℚ
  entry : ℚ
  stop : ℚ
  target : ℚ
  multiplier : ℚ
  currentPrice : Option ℚ
  quantity_pos : 0 < quantity
  entry_pos : 0 < entry
  stop_pos : 0 < stop
  target_pos : 0 < target
  multiplier_pos : 0 < multiplier
  currentPrice_pos : ∀ p ∈ currentPrice, 0 < p

namespace EntryIntent

/-- What the constructor says of a number that is not positive. -/
def notPositive (name : String) : String := name ++ " must be finite and positive"

/-- **The constructor**, the single validation boundary: the first number, in
the order of the fields, that is not positive refuses. -/
def make (symbol : String) (direction : Direction) (assetClass : AssetClass)
    (quantity entry stop target multiplier : ℚ) (currentPrice : Option ℚ) :
    Except String EntryIntent :=
  if hq : 0 < quantity then
    if he : 0 < entry then
      if hs : 0 < stop then
        if ht : 0 < target then
          if hm : 0 < multiplier then
            if hp : ∀ p ∈ currentPrice, 0 < p then
              .ok ⟨symbol, direction, assetClass, quantity, entry, stop, target, multiplier,
                currentPrice, hq, he, hs, ht, hm, hp⟩
            else .error (notPositive "current_price")
          else .error (notPositive "multiplier")
        else .error (notPositive "target")
      else .error (notPositive "stop")
    else .error (notPositive "entry")
  else .error (notPositive "quantity")

def sign (i : EntryIntent) : ℚ := if i.direction = .long then 1 else -1

def riskDistance (i : EntryIntent) : ℚ := (i.entry - i.stop) * i.sign

def rewardDistance (i : EntryIntent) : ℚ := (i.target - i.entry) * i.sign

def riskDollars (i : EntryIntent) : ℚ := max i.riskDistance 0 * i.quantity * i.multiplier

def exposurePrice (i : EntryIntent) : ℚ :=
  match i.currentPrice with
  | some price => max i.entry price
  | none => i.entry

def notional (i : EntryIntent) : ℚ := i.exposurePrice * i.quantity * i.multiplier

end EntryIntent

/-! ## Rules -/

/-- The rule behind a rejection. -/
inductive RiskRule where
  | exposureUnknown
  | drawdownHalt
  | perTradeRisk
  | perTradeNotional
  | quantityCap
  | rewardRisk
  | aggregateStopRisk
  | concurrentPositions
  | sameSymbol
  | portfolioNotional
  | assetClassNotional
  | correlationGroup
  deriving DecidableEq, Repr

/-- **A rule's refusal**: the rule and the reason the operator reads. -/
structure Rejection where
  rule : RiskRule
  reason : String
  deriving DecidableEq

/-- A rule refuses exactly when its limit is broken. -/
def refuseIf (broken : Prop) [Decidable broken] (rule : RiskRule) (reason : String) :
    Option Rejection :=
  if broken then some ⟨rule, reason⟩ else none

@[simp] theorem refuseIf_eq_none {broken : Prop} [Decidable broken] {rule : RiskRule}
    {reason : String} : refuseIf broken rule reason = none ↔ ¬ broken := by
  unfold refuseIf
  split <;> simp_all

def exposureKnown (book : Book) : Option Rejection :=
  refuseIf (book.invalid ≠ []) .exposureUnknown
    "Existing exposure is unknown or invalid; reconcile it before new risk."

def drawdownHalt (text : RiskText) (budget : RiskBudget) : Option Rejection :=
  let drawdown := text.percent1 budget.drawdownPct
  refuseIf (budget.drawdownFactor = 0) .drawdownHalt
    s!"Account drawdown {drawdown} reaches the configured sizing halt; new entries blocked."

def perTradeRisk (intent : EntryIntent) (budget : RiskBudget) : Option Rejection :=
  refuseIf (budget.dollars < intent.riskDollars) .perTradeRisk
    (if budget.drawdownFactor < 1 ∨ budget.macroFactor < 1 then
      "Order exceeds the drawdown- and macro-adjusted per-trade risk cap; request a fresh scan for smaller sizing."
    else "Order exceeds the configured per-trade risk cap.")

def perTradeNotional (intent : EntryIntent) (limits : RiskLimits) : Option Rejection :=
  refuseIf (limits.maxTradeNotionalCap < intent.notional) .perTradeNotional
    "Order exceeds the configured per-trade notional cap."

def quantityCap (intent : EntryIntent) (limits : RiskLimits) : Option Rejection :=
  let cap := if intent.assetClass = .futures then limits.maxContractsPerTrade
    else limits.maxSharesPerTrade
  refuseIf ((cap : ℚ) < intent.quantity) .quantityCap
    "Order exceeds the configured quantity cap."

/-- `round(x, 2)`. -/
def round2 (x : ℚ) : ℚ := roundHalfEven (x * 100) / 100

/-- **`meets_min_reward_risk`**: the ratio, rounded to two decimals, clears
the minimum; a bracket without risk never does. -/
def meetsMinRewardRisk (reward risk minimum : ℚ) : Bool :=
  if risk ≤ 0 then false else decide (minimum ≤ round2 (reward / risk))

/-- **`required_reward_risk`.** -/
def requiredRewardRisk (limits : RiskLimits) (regimeMinRr : Option ℚ) : ℚ :=
  match regimeMinRr with
  | none => limits.minRiskRewardRatio
  | some regime => max limits.minRiskRewardRatio regime

def rewardRisk (text : RiskText) (intent : EntryIntent) (required : ℚ) : Option Rejection :=
  let rr := text.fixed2 (if 0 < intent.riskDistance
    then round2 (intent.rewardDistance / intent.riskDistance) else 0)
  let need := text.fixed2 required
  refuseIf (meetsMinRewardRisk intent.rewardDistance intent.riskDistance required = false)
    .rewardRisk s!"Reward/risk {rr} is below the required {need}."

def aggregateStopRisk (intent : EntryIntent) (book : Book) (budget : RiskBudget)
    (limits : RiskLimits) : Option Rejection :=
  refuseIf (budget.capital * limits.maxStopRiskPct * budget.drawdownFactor
      < book.plannedRisk + intent.riskDollars) .aggregateStopRisk
    "Order would breach the aggregate planned stop-risk budget."

def concurrentPositions (book : Book) (limits : RiskLimits) : Option Rejection :=
  let max := limits.maxConcurrentPositions
  refuseIf (limits.maxConcurrentPositions ≤ book.count) .concurrentPositions
    s!"Maximum concurrent positions ({max}) reached."

def sameSymbol (text : RiskText) (intent : EntryIntent) (book : Book) : Option Rejection :=
  refuseIf (book.holds text intent.symbol = true) .sameSymbol
    "Symbol already has a position or entry reservation; adding/netting requires a separate reviewed plan."

def portfolioNotional (text : RiskText) (intent : EntryIntent) (book : Book)
    (limits : RiskLimits) : Option Rejection :=
  let total := text.dollars (book.notional + intent.notional)
  let cap := text.dollars limits.maxNotionalExposure
  refuseIf (limits.maxNotionalExposure < book.notional + intent.notional) .portfolioNotional
    s!"Portfolio notional would reach ${total}, above the ${cap} ceiling."

/-- The value of an asset class, as the reasons print it. -/
def AssetClass.text : AssetClass → String
  | .futures => "FUTURES"
  | .equity => "EQUITY"
  | .crypto => "CRYPTO"
  | .fx => "FX"
  | .option => "OPTION"

/-- The value of a direction. -/
def Direction.text : Direction → String
  | .long => "LONG"
  | .short => "SHORT"

def assetClassNotional (text : RiskText) (intent : EntryIntent) (book : Book)
    (limits : RiskLimits) : Option Rejection :=
  match limits.assetClassCaps intent.assetClass with
  | none => none
  | some cap =>
    let name := intent.assetClass.text
    let total := text.dollars (book.notionalFor intent.assetClass + intent.notional)
    let ceiling := text.dollars cap
    refuseIf (cap < book.notionalFor intent.assetClass + intent.notional)
      .assetClassNotional s!"{name} notional would reach ${total}, above the ${ceiling} ceiling."

/-- One group of `correlation_group`: a group without the symbol is skipped. -/
def groupRejection (text : RiskText) (intent : EntryIntent) (book : Book)
    (limits : RiskLimits) (group : String × List String) : Option Rejection :=
  let held := book.sameDirectionIn text group.2 intent.direction
  let name := group.1
  let count := held.length
  let direction := intent.direction.text
  let symbols := String.intercalate ", " (held.map (·.symbol))
  let max := limits.maxCorrelatedPositions
  refuseIf (normalizeSymbol text intent.symbol ∈ group.2
      ∧ limits.maxCorrelatedPositions ≤ held.length) .correlationGroup
    s!"Correlation group '{name}' already has {count} {direction} position(s) ({symbols}); max {max}."

def correlationGroup (text : RiskText) (intent : EntryIntent) (book : Book)
    (limits : RiskLimits) : Option Rejection :=
  limits.correlationGroups.findSome? (groupRejection text intent book limits)

/-- **`book_gates`**: every rejection of the shared rules, in order; a book whose
exposure is unknown has that one alone. -/
def bookGates (text : RiskText) (intent : EntryIntent) (book : Book) (budget : RiskBudget)
    (limits : RiskLimits) : List Rejection :=
  match exposureKnown book with
  | some unknown => [unknown]
  | none =>
    [drawdownHalt text budget, aggregateStopRisk intent book budget limits,
      concurrentPositions book limits, sameSymbol text intent book,
      portfolioNotional text intent book limits, assetClassNotional text intent book limits,
      correlationGroup text intent book limits].filterMap id

/-- **A card passes the shared rules when every one lets it pass.** -/
theorem bookGates_eq_nil {text : RiskText} {intent : EntryIntent} {book : Book}
    {budget : RiskBudget} {limits : RiskLimits} :
    bookGates text intent book budget limits = []
      ↔ exposureKnown book = none ∧ drawdownHalt text budget = none
        ∧ aggregateStopRisk intent book budget limits = none
        ∧ concurrentPositions book limits = none ∧ sameSymbol text intent book = none
        ∧ portfolioNotional text intent book limits = none
        ∧ assetClassNotional text intent book limits = none
        ∧ correlationGroup text intent book limits = none := by
  unfold bookGates
  cases exposureKnown book with
  | some unknown => simp
  | none =>
    dsimp only
    rw [List.filterMap_eq_nil_iff]
    simp only [List.forall_mem_cons, List.not_mem_nil, false_implies, implies_true, id_eq,
      and_true, true_and]

/-- **`admission_gates`**: the first rejection, in the fixed order. -/
def admissionGates (text : RiskText) (intent : EntryIntent) (book : Book)
    (budget : RiskBudget) (limits : RiskLimits) (regimeMinRr : Option ℚ) :
    Option Rejection :=
  [exposureKnown book, drawdownHalt text budget,
    rewardRisk text intent (requiredRewardRisk limits regimeMinRr),
    perTradeRisk intent budget, perTradeNotional intent limits, quantityCap intent limits,
    aggregateStopRisk intent book budget limits, concurrentPositions book limits,
    sameSymbol text intent book, portfolioNotional text intent book limits,
    assetClassNotional text intent book limits,
    correlationGroup text intent book limits].findSome? id

/-- **An intent is admitted when every rule lets it pass.** -/
theorem admissionGates_eq_none {text : RiskText} {intent : EntryIntent} {book : Book}
    {budget : RiskBudget} {limits : RiskLimits} {regimeMinRr : Option ℚ} :
    admissionGates text intent book budget limits regimeMinRr = none
      ↔ exposureKnown book = none ∧ drawdownHalt text budget = none
        ∧ rewardRisk text intent (requiredRewardRisk limits regimeMinRr) = none
        ∧ perTradeRisk intent budget = none ∧ perTradeNotional intent limits = none
        ∧ quantityCap intent limits = none
        ∧ aggregateStopRisk intent book budget limits = none
        ∧ concurrentPositions book limits = none ∧ sameSymbol text intent book = none
        ∧ portfolioNotional text intent book limits = none
        ∧ assetClassNotional text intent book limits = none
        ∧ correlationGroup text intent book limits = none := by
  unfold admissionGates
  rw [List.findSome?_eq_none_iff]
  simp only [List.forall_mem_cons, List.not_mem_nil, false_implies, implies_true, id_eq,
    and_true]

/-! ## Admission -/

/-- `_INVALID_REQUEST_NUMBERS`. -/
def invalidRequestNumbers : String :=
  "Quantity and bracket prices must be finite and positive."

/-- The broker side of a direction. -/
def brokerSide (direction : Direction) : OrderSide :=
  if direction = .long then .buy else .sell

/-- **`reservation_rejection`**: admission's verdict on one request. The
configured contracts are read as `multiplier`. -/
def reservationRejection (text : RiskText) (limits : RiskLimits)
    (multiplier : String → Option ℚ) (request : OrderRequest) (positions : List Signal)
    (currentDrawdownPct : ℚ) (currentEquity currentPrice : Option ℚ) : Option String :=
  if request.side ≠ brokerSide request.direction then
    some "Order direction and broker side disagree."
  else if multiplier request.symbol = none ∧ request.assetClass = .futures then
    some "Futures instrument multiplier is not configured."
  else
    let factor := (multiplier request.symbol).getD 1
    if factor ≤ 0 then
      some "Configured instrument multiplier must be finite and positive."
    else
      match EntryIntent.make request.symbol request.direction request.assetClass
          request.quantity request.entryPrice request.stopLoss request.takeProfit factor
          currentPrice with
      | .error _ =>
        if currentPrice.any (fun p => decide (p ≤ 0)) then
          some "Current exposure price must be finite and positive."
        else some invalidRequestNumbers
      | .ok intent =>
        match perTradeRiskBudget limits currentEquity currentDrawdownPct 1 with
        | .error e => some s!"Account risk inputs invalid: {e}."
        | .ok budget =>
          (admissionGates text intent (Book.fromSignalRows positions true) budget limits
            none).map (·.reason)

/-! ## What admission has checked -/

section

variable {text : RiskText} {limits : RiskLimits} {multiplier : String → Option ℚ}
  {request : OrderRequest} {positions : List Signal} {drawdown : ℚ}
  {equity price : Option ℚ}

/-- The intent is the request's. -/
theorem EntryIntent.make_eq_ok {symbol : String} {direction : Direction}
    {assetClass : AssetClass} {quantity entry stop target multiplier : ℚ}
    {currentPrice : Option ℚ} {intent : EntryIntent}
    (h : EntryIntent.make symbol direction assetClass quantity entry stop target multiplier
      currentPrice = .ok intent) :
    intent.symbol = symbol ∧ intent.direction = direction := by
  unfold EntryIntent.make at h
  repeat' split at h
  all_goals cases h
  exact ⟨rfl, rfl⟩

/-- **A request that admission accepts leaves room for one more** in the book,
on its symbol, and in every correlation group of its symbol. -/
theorem reservationRejection_eq_none
    (h : reservationRejection text limits multiplier request positions drawdown equity price
      = none) :
    positions.length < limits.maxConcurrentPositions
      ∧ (∀ s ∈ positions,
          normalizeSymbol text s.contract ≠ normalizeSymbol text request.symbol)
      ∧ ∀ group ∈ limits.correlationGroups,
          normalizeSymbol text request.symbol ∈ group.2 →
          (positions.filter (fun s => normalizeSymbol text s.contract ∈ group.2
            && s.direction = request.direction)).length < limits.maxCorrelatedPositions := by
  unfold reservationRejection at h
  split at h
  · cases h
  · split at h
    · cases h
    · dsimp only at h
      split at h
      · cases h
      · split at h
        · split at h <;> cases h
        · rename_i intent hintent
          obtain ⟨hsym, hdir⟩ := EntryIntent.make_eq_ok hintent
          split at h
          · cases h
          · obtain ⟨-, -, -, -, -, -, -, hcount, hsame, -, -, hgroup⟩ :=
              admissionGates_eq_none.mp (Option.map_eq_none_iff.mp h)
            refine ⟨?_, fun s hs heq => ?_, fun group hg hmem => ?_⟩
            · simpa [concurrentPositions, Book.count, Book.fromSignalRows] using hcount
            · refine refuseIf_eq_none.mp hsame (List.any_eq_true.mpr
                ⟨Book.ofSignalRow true s, List.mem_map_of_mem hs, ?_⟩)
              simpa [Book.ofSignalRow, hsym] using heq
            · have hone := List.findSome?_eq_none_iff.mp hgroup group hg
              simp only [groupRejection, refuseIf_eq_none, not_and, not_le, hsym, hdir] at hone
              have hlt := hone hmem
              rw [Book.sameDirectionIn, Book.fromSignalRows, List.filter_map,
                List.length_map] at hlt
              exact hlt

end

end AgenticTrader
