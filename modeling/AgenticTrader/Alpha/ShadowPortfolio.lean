import AgenticTrader.Alpha.Optimizer
import AgenticTrader.Alpha.Sessions
import Mathlib.Data.List.Sort
import Mathlib.Data.String.Basic
import Mathlib.Tactic.NormNum

/-!
# The shadow portfolio

`build_shadow_portfolio` (`research/alpha/portfolio.py`) makes a target out of the
forecasts, the history of returns and a snapshot of the account. It refuses what is
stale, unversioned or incomplete, selects the symbols that may be held, sets a lower
and an upper bound for the weight of each symbol, and hands the rest to the optimiser.

A number of the account, the forecasts or the history need not be finite; where the
source asks for it, it is read as a number or the build raises. A dictionary is the
list of its items, a set the list of its elements, an instant a count of microseconds.
-/

namespace AgenticTrader

open Checks

/-! ## Forecasts -/

/-- `ForecastLabel`. -/
inductive ForecastLabel where
  | closeToClose
  | nextOpenToClose
  deriving DecidableEq, Repr

/-- **`ForecastTarget`**, within the bounds its constructor checks. -/
structure ForecastTarget where
  timeframe : Timeframe
  horizonBars : ℕ
  label : ForecastLabel
  horizon : 1 ≤ horizonBars ∧ horizonBars ≤ 60
  deriving DecidableEq

/-- The layouts a forecast contract may name. -/
inductive BarLayout where
  | fixedDuration
  | rthOpen
  deriving DecidableEq, Repr

/-- **`ForecastContract`**. -/
structure ForecastContract where
  target : ForecastTarget
  feed : String
  adjustment : String
  barLayout : BarLayout
  currency : String
  named : feed ≠ "" ∧ adjustment ≠ "" ∧ currency ≠ ""
  deriving DecidableEq

/-- **`CombinedForecast`**. -/
structure CombinedForecast where
  symbol : String
  contract : ForecastContract
  observedAt : Time
  expectedReturn : Extended ℚ
  standardError : Extended ℚ
  contributors : List String
  families : List String
  calibrationIds : List String

/-- One of the three lists of a forecast's provenance is incomplete. -/
def incomplete (values : List String) : Bool :=
  values.isEmpty || values.any (· = "") || !decide values.Nodup

/-- **`validate_forecast`**, of a combined forecast. -/
def CombinedForecast.validate (forecast : CombinedForecast) (asOf : Time) :
    Except String Unit := do
  refuse (forecast.symbol = "" || forecast.contributors.length ≠ forecast.families.length
    || forecast.families.length ≠ forecast.calibrationIds.length
    || [forecast.contributors, forecast.families, forecast.calibrationIds].any incomplete)
    "Complete unique combined forecast provenance required"
  let age := asOf - forecast.observedAt
  refuse (age < 0 || forecast.contract.target.timeframe.duration < age)
    "Stale or future forecast"
  refuse (!forecast.expectedReturn.isFinite || !forecast.standardError.isFinite
    || forecast.standardError.lt (.finite 0)) "Invalid forecast mean or standard error"

/-! ## The policy and the account -/

/-- The fields of a `PortfolioPolicy`, with their defaults. -/
structure PolicyFields where
  grossLimit : ℚ := 6 / 10
  perNameLimit : ℚ := 15 / 100
  turnoverLimit : ℚ := 2 / 10
  maxPositions : ℕ := 4
  riskAversion : ℚ := 5
  uncertaintyAversion : ℚ := 1
  maxRiskAgeSeconds : ℚ := 259200
  costPerSide : ℚ := 5 / 10000
  covarianceShrinkage : ℚ := 25 / 100
  minObservations : ℕ := 60
  maxSnapshotAgeSeconds : ℚ := 60
  dollarNeutral : Bool := false
  maxFactorExposure : Option ℚ := none

/-- What `__post_init__` checks. -/
structure PolicyFields.Valid (fields : PolicyFields) : Prop where
  positive : 0 < fields.grossLimit ∧ 0 < fields.perNameLimit ∧ 0 < fields.turnoverLimit ∧
    0 < fields.riskAversion ∧ 0 < fields.maxSnapshotAgeSeconds
  uncertainty : 0 ≤ fields.uncertaintyAversion
  riskAge : 0 < fields.maxRiskAgeSeconds
  factor : ∀ bound ∈ fields.maxFactorExposure, 0 ≤ bound
  cost : 0 ≤ fields.costPerSide ∧ fields.costPerSide < 1 / 10
  shrinkage : 0 ≤ fields.covarianceShrinkage ∧ fields.covarianceShrinkage ≤ 1
  counts : 1 ≤ fields.maxPositions ∧ 20 ≤ fields.minObservations

/-- **`PortfolioPolicy`**. -/
structure PortfolioPolicy extends PolicyFields where
  valid : toPolicyFields.Valid

/-- The defaults pass their own checks. -/
theorem defaultPolicy_valid : PolicyFields.Valid {} := by
  refine ⟨by norm_num, by norm_num, by norm_num, ?_, by norm_num, by norm_num, by norm_num⟩
  intro bound hbound
  cases hbound

/-- `PortfolioPolicy()`. -/
def PortfolioPolicy.standard : PortfolioPolicy where
  valid := defaultPolicy_valid

/-- The groups of a symbol: one, or several. -/
inductive Membership where
  | one (group : String)
  | several (groups : List String)

def Membership.names : Membership → List String
  | .one group => [group]
  | .several groups => groups

/-- **`PortfolioSnapshot`**: market values are signed, caps are notional. -/
structure PortfolioSnapshot where
  asOf : Time
  accountVersion : String
  dataVersion : String
  configVersion : String
  equity : Extended ℚ
  holdings : List (String × Extended ℚ)
  reservations : List (String × Extended ℚ)
  lockedSymbols : List String
  shortable : List String
  tradable : List String
  liquidityCaps : List (String × Extended ℚ)
  groups : List (String × Membership)
  groupCaps : List (String × Extended ℚ)
  factorExposures : Option (List (String × List (String × Extended ℚ)))

/-- The frame of returns: the instants of its index, whether they have a zone, and its
columns. -/
structure ReturnHistory where
  index : List (Option Time)
  aware : Bool
  columns : List (String × List (Extended ℚ))

/-- `timedelta.total_seconds()`. -/
def ageSeconds (span : Time) : ℚ := span / 10 ^ 6

/-- `set(a) == set(b)`. -/
def sameSet (a b : List String) : Bool := a.all (· ∈ b) && b.all (· ∈ a)

/-- The checks on the snapshot. -/
def PortfolioSnapshot.admit (snapshot : PortfolioSnapshot) (policy : PortfolioPolicy)
    (now : Time) : Except String Unit := do
  let age := ageSeconds (now - snapshot.asOf)
  refuse (age < 0 || policy.maxSnapshotAgeSeconds < age || snapshot.accountVersion = ""
    || snapshot.dataVersion = "" || snapshot.configVersion = "")
    "Stale/unversioned portfolio snapshot"
  refuse (!snapshot.equity.isFinite || !snapshot.equity.pos) "Invalid broker equity"

/-- The checks on the forecasts. -/
def admitForecasts (forecasts : List CombinedForecast) (now : Time)
    (riskContract : ForecastContract) : Except String Unit := do
  refuse (forecasts.isEmpty || (forecasts.map (·.contract)).dedup.length ≠ 1)
    "One calibrated forecast contract required"
  refuse (forecasts.head?.map (·.contract) ≠ some riskContract || riskContract.currency ≠ "USD")
    "Risk and forecast contracts must match the USD account"
  refuse (!decide (forecasts.map (·.symbol)).Nodup)
    "One combined forecast per instrument required"
  refuse ((forecasts.map (·.observedAt)).dedup.length ≠ 1)
    "Portfolio forecast observations must align"
  forecasts.forM (·.validate now)

/-- `index.is_monotonic_increasing`, false where an instant is missing. -/
def ReturnHistory.isMonotonic (returns : ReturnHistory) : Bool :=
  returns.index.all (·.isSome) &&
    decide (returns.index.Pairwise fun a b => a.getD 0 ≤ b.getD 0)

/-- `returns.loc[:, symbols]`. -/
def ReturnHistory.observed (returns : ReturnHistory) (symbols : List String) :
    List (List (Extended ℚ)) :=
  symbols.flatMap fun symbol => (returns.columns.filter (·.1 = symbol)).map (·.2)

/-- The checks on the history of returns. -/
def ReturnHistory.admit (returns : ReturnHistory) (policy : PortfolioPolicy)
    (snapshot : PortfolioSnapshot) (symbols : List String) : Except String Unit := do
  refuse (!sameSet (returns.columns.map (·.1)) symbols || !decide returns.index.Nodup
    || !returns.isMonotonic)
    "Covariance must cover every holding, reservation and forecast exactly"
  refuse (!returns.aware || returns.index.isEmpty || returns.index.any (·.isNone)
    || returns.index.any (fun instant => instant.any (snapshot.asOf < ·))
    || (returns.index.getLast?.join).any fun last =>
      policy.maxRiskAgeSeconds < ageSeconds (snapshot.asOf - last))
    "Stale, future or ambiguous risk-history availability"
  refuse (returns.index.length < policy.minObservations
    || (returns.observed symbols).any (·.any (!·.isFinite)))
    "Insufficient complete covariance history"

/-! ## Weights and selection -/

/-- `symbols`: every holding, reservation and forecast, in order. -/
def symbolsOf (forecasts : List CombinedForecast) (snapshot : PortfolioSnapshot) :
    List String :=
  ((snapshot.holdings.map (·.1) ++ snapshot.reservations.map (·.1)
    ++ forecasts.map (·.symbol)).dedup).insertionSort (· ≤ ·)

namespace PortfolioSnapshot

variable (snapshot : PortfolioSnapshot)

/-- `holdings.get(symbol, 0)`. -/
def holding (symbol : String) : Extended ℚ :=
  (snapshot.holdings.lookup symbol).getD (.finite 0)

/-- The equity, once it is known to be finite. -/
def equityValue : ℚ := snapshot.equity.getD 0

/-- `memberships[symbol]`. -/
def membership (symbol : String) : List String :=
  ((snapshot.groups.lookup symbol).map Membership.names).getD []

/-- An entry of `current`. -/
def currentWeight (symbol : String) : Except String ℚ := do
  match snapshot.holding symbol with
  | .finite value => pure (value / snapshot.equityValue)
  | _ => throw "Invalid portfolio observations"

/-- **The bounds of one symbol**: what is locked or cannot be traded stays, what is not
selected is not held, and the rest moves within its liquidity, its limit, and what may
be sold short. -/
def bounds (policy : PortfolioPolicy) (selected : List String) (symbol : String)
    (weight : ℚ) : Except String (ℚ × ℚ) := do
  match snapshot.liquidityCaps.lookup symbol, snapshot.groups.lookup symbol with
  | some (.finite cap), some _ =>
    let capacity := cap / snapshot.equityValue
    refuse (capacity < 0) "Invalid liquidity capacity"
    if symbol ∈ snapshot.lockedSymbols ∨ symbol ∉ snapshot.tradable then
      pure (weight, weight)
    else if symbol ∉ selected then
      pure (0, 0)
    else
      let minimum := max (-policy.perNameLimit) (weight - capacity)
      pure (if symbol ∈ snapshot.shortable then minimum else max minimum (min 0 weight),
        min policy.perNameLimit (weight + capacity))
  | some _, some _ => throw "Invalid liquidity capacity"
  | _, _ => throw "Missing instrument liquidity/class observations"

/-- `groups`: the groups of some symbol, in order. -/
def groupsOf (symbols : List String) : List String :=
  ((symbols.flatMap snapshot.membership).dedup).insertionSort (· ≤ ·)

/-- `matrix` and `caps`. -/
def groupLimits (symbols : List String) : GroupLimits symbols.length where
  count := (snapshot.groupsOf symbols).length
  entry i g := if (snapshot.groupsOf symbols)[g] ∈ snapshot.membership symbols[i] then 1 else 0
  cap g := ((snapshot.groupCaps.lookup (snapshot.groupsOf symbols)[g]).getD .nan).div
    (.finite snapshot.equityValue)

/-- `factor_matrix`, where the policy bounds the exposures. -/
def factorMatrix (policy : PortfolioPolicy) (symbols : List String) :
    Except String (Option (FactorMatrix symbols.length)) := do
  if policy.maxFactorExposure.isNone then
    pure none
  else
    let exposures := snapshot.factorExposures.getD []
    refuse (snapshot.factorExposures.isNone || !sameSet (exposures.map (·.1)) symbols)
      "Complete observed factors required for factor bound"
    let labels (symbol : String) : List String :=
      ((exposures.lookup symbol).getD []).map (·.1)
    let factors := (labels (symbols.headD "")).insertionSort (· ≤ ·)
    refuse (factors.isEmpty || symbols.any fun symbol => !sameSet (labels symbol) factors)
      "Factor labels must align across instruments"
    pure (some
      { count := factors.length
        entry := fun i k =>
          (((exposures.lookup symbols[i]).getD []).lookup factors[k]).getD .nan })

end PortfolioSnapshot

/-- The loop over the ranked symbols: each is selected until the count is reached. -/
def preselect (limit : ℕ) : List String → List String → List String
  | selected, [] => selected
  | selected, symbol :: ranked =>
    if limit ≤ selected.length then selected
    else preselect limit (if symbol ∈ selected then selected else symbol :: selected) ranked

/-- A number of the forecast of a symbol, zero where there is none. -/
def forecastValue (forecasts : List CombinedForecast) (value : CombinedForecast → Extended ℚ)
    (symbol : String) : ℚ :=
  match forecasts.find? (fun forecast => forecast.symbol = symbol) with
  | some forecast => (value forecast).getD 0
  | none => 0

/-- `expected`, of the symbols that have a forecast. -/
def expectedReturn (forecasts : List CombinedForecast) (symbol : String) : ℚ :=
  forecastValue forecasts (·.expectedReturn) symbol

/-- `sorted(expected, key=lambda s: (-abs(expected[s]), s))`. -/
def rankedSymbols (forecasts : List CombinedForecast) : List String :=
  (forecasts.map (·.symbol)).insertionSort fun a b =>
    |expectedReturn forecasts b| < |expectedReturn forecasts a| ∨
      (|expectedReturn forecasts a| = |expectedReturn forecasts b| ∧ a ≤ b)

/-- The symbols that are held already. -/
def heldSymbols {symbols : List String} (current : Fin symbols.length → ℚ) : List String :=
  ((List.finRange symbols.length).filter (current · ≠ 0)).map (symbols[·])

/-! ## Risk -/

/-- The sample covariance of two columns, over one less than their length. -/
def sampleCovariance (xs ys : List ℚ) : ℚ :=
  let mean (values : List ℚ) : ℚ := values.sum / values.length
  ((xs.zip ys).map fun pair => (pair.1 - mean xs) * (pair.2 - mean ys)).sum
    / ((xs.length : ℚ) - 1)

/-- `covariance`, shrunk towards its diagonal. -/
def shrunkCovariance (columns : List (List (Extended ℚ))) (shrinkage : ℚ)
    (i j : Fin columns.length) : ℚ :=
  let column (k : Fin columns.length) : List ℚ := columns[k].map (·.getD 0)
  let entry := sampleCovariance (column i) (column j)
  (1 - shrinkage) * entry + shrinkage * if i = j then entry else 0

/-! ## The build -/

/-- What `build_shadow_portfolio` returns. -/
structure ShadowPortfolio where
  mode : String
  symbols : List String
  accountVersion : String
  dataVersion : String
  configVersion : String
  asOf : Time
  selected : List String
  selectionMethod : String
  contract : ForecastContract
  riskObservedUntil : Option Time
  policy : PortfolioPolicy
  result : PortfolioOptimizationResult symbols.length

/-- **`build_shadow_portfolio`.** -/
def buildShadowPortfolio (numerics : Numerics) (forecasts : List CombinedForecast)
    (returns : ReturnHistory) (snapshot : PortfolioSnapshot) (now : Time)
    (riskContract : ForecastContract) (policy : Option PortfolioPolicy) :
    Except String ShadowPortfolio := do
  let policy := policy.getD .standard
  snapshot.admit policy now
  admitForecasts forecasts now riskContract
  refuse (snapshot.reservations.any (·.2 ≠ .finite 0))
    "Unfilled pending orders require a reachable-risk envelope; shadow allocation blocked"
  let symbols := symbolsOf forecasts snapshot
  returns.admit policy snapshot symbols
  let current ← vectorM fun i : Fin symbols.length => snapshot.currentWeight symbols[i]
  let held := heldSymbols current
  refuse (policy.maxPositions < held.length)
    "Existing/pending positions exceed position-count policy"
  let selected := preselect policy.maxPositions held (rankedSymbols forecasts)
  let bounds ← vectorM fun i : Fin symbols.length =>
    snapshot.bounds policy selected symbols[i] (current i)
  refuse (symbols.any fun symbol => (snapshot.membership symbol).isEmpty)
    "Missing group membership"
  refuse ((snapshot.groupsOf symbols).any fun group =>
    (snapshot.groupCaps.lookup group).isNone) "Missing group caps"
  let factorMatrix ← snapshot.factorMatrix policy symbols
  let optimizer ← ConvexAlphaPortfolioOptimizer.make policy.riskAversion policy.costPerSide
    policy.grossLimit policy.perNameLimit none policy.dollarNeutral false
    policy.maxFactorExposure (some policy.turnoverLimit) 5 policy.uncertaintyAversion
  let columns := returns.observed symbols
  let result ← optimizer.optimize numerics (fun i => expectedReturn forecasts symbols[i])
    (shrunkCovariance columns policy.covarianceShrinkage)
    { factorMatrix
      currentWeights := some current
      lowerBounds := some fun i => (bounds i).1
      upperBounds := some fun i => (bounds i).2
      groupLimits := some (snapshot.groupLimits symbols)
      alphaStandardError := some fun i => forecastValue forecasts (·.standardError) symbols[i] }
  pure
    { mode := "shadow"
      symbols
      accountVersion := snapshot.accountVersion
      dataVersion := snapshot.dataVersion
      configVersion := snapshot.configVersion
      asOf := snapshot.asOf
      selected := selected.insertionSort (· ≤ ·)
      selectionMethod := "preserve_holdings_then_absolute_forecast_heuristic"
      contract := riskContract
      riskObservedUntil := returns.index.getLast?.join
      policy
      result }

end AgenticTrader
