import AgenticTrader.Library.Checks
import AgenticTrader.Risk.Rounding

/-!
# Position sizing

`agent/position_sizing.py`: the sizes that a card offers (`calculate_dynamic_sizing`) and
how the book scales them down (`scale_sizing`).

The largest size is cut by the shared budget of one trade, by the notional that is left,
and by a count; below the configured minimum nothing is offered. The base size follows a
budget of its own and is clamped between the minimum and the largest size. Which sizes
become tiers depends on how far the two lie apart.
-/

namespace AgenticTrader

open Checks

/-- `int(x)`: towards zero. -/
def truncate (x : ℚ) : ℤ := if 0 ≤ x then ⌊x⌋ else ⌈x⌉

/-! ## Configuration -/

inductive SizingMode where
  | static
  | volatilityTargeted
  deriving DecidableEq, Repr

/-- **`PositionSizingConfig`**, without what is in the limits. -/
structure SizingConfig where
  mode : SizingMode
  targetRiskPct : ℚ
  targetFuturesRiskDollars : ℚ
  defaultEquityRiskDollars : ℚ
  minContracts : ℤ
  minShares : ℚ

/-- **`ContractConfig`**, of one instrument. -/
structure ContractConfig where
  ticker : String
  multiplier : ℚ
  tickSize : ℚ
  assetClass : AssetClass
  targetRiskDollars : Option ℚ

/-- The formats of the reasons: `.0f`, `.1f`, `.1%` and `,.0f`. -/
structure SizingText where
  whole : ℚ → String
  fixed1 : ℚ → String
  percent1 : ℚ → String
  dollars : ℚ → String

/-- What is sized under. -/
structure SizingDesk where
  limits : RiskLimits
  sizing : SizingConfig
  text : SizingText

/-! ## Tiers -/

inductive TierId where
  | half
  | base
  | med
  | max
  | blocked
  deriving DecidableEq, Repr

/-- **`SizingTier`.** -/
structure SizingTier where
  tierId : TierId
  label : String
  quantity : ℚ
  riskDollars : ℚ
  rewardDollars : ℚ
  notionalDollars : ℚ
  effectiveLeverage : ℚ
  isDefault : Bool
  deriving DecidableEq

/-- **`PositionSizingResult`.** -/
structure PositionSizing where
  defaultTier : SizingTier
  maxTier : SizingTier
  tiers : List SizingTier
  drawdownFactor : ℚ
  gatingReasons : List String
  deriving DecidableEq

/-- What is sized: the bracket, the instrument, and the state of the account. -/
structure SizingRequest where
  entry : ℚ
  stopDistance : ℚ
  targetDistance : ℚ
  multiplier : ℚ
  assetClass : AssetClass
  contractInfo : Option ContractConfig
  probe : Bool
  currentOpenNotional : ℚ
  currentDrawdownPct : ℚ
  macroRiskMultiplier : ℚ
  currentEquity : Option ℚ
  riskDollarsCap : Option ℚ

namespace SizingRequest

variable (r : SizingRequest)

def perUnitRisk : ℚ := max (r.stopDistance * r.multiplier) (1 / 100)

def unitNotional : ℚ := max (r.entry * r.multiplier) (1 / 100)

/-- The budget of the trade, under the same account state. -/
def budget (limits : RiskLimits) : Except String RiskBudget :=
  perTradeRiskBudget limits r.currentEquity r.currentDrawdownPct r.macroRiskMultiplier

/-- The budget, under the cap of a capped card. -/
def maxRiskDollars (budget : RiskBudget) : ℚ :=
  match r.riskDollarsCap with
  | some cap => if cap < budget.dollars then cap else budget.dollars
  | none => budget.dollars

def remainingNotional (limits : RiskLimits) : ℚ :=
  max 0 (limits.maxNotionalExposure - r.currentOpenNotional)

def notionalCeiling (limits : RiskLimits) : ℚ :=
  min limits.maxTradeNotionalCap (r.remainingNotional limits)

/-- The cap of shares or contracts. -/
def countCap (limits : RiskLimits) : ℚ :=
  if r.assetClass = .equity then limits.maxSharesPerTrade else limits.maxContractsPerTrade

/-- The least quantity that is offered. -/
def minimum (sizing : SizingConfig) : ℚ :=
  if r.assetClass = .equity then sizing.minShares else sizing.minContracts

def rawMaxQty (limits : RiskLimits) (budget : RiskBudget) : ℚ :=
  min (min (r.countCap limits) (r.maxRiskDollars budget / r.perUnitRisk))
    (r.notionalCeiling limits / r.unitNotional)

def maxQty (limits : RiskLimits) (budget : RiskBudget) : ℚ :=
  max 0 (truncate (r.rawMaxQty limits budget))

end SizingRequest

namespace SizingDesk

variable (desk : SizingDesk) (r : SizingRequest) (budget : RiskBudget)

/-- A number, where it is there and not zero. -/
def nonzero (x : Option ℚ) : Option ℚ := x.filter (fun q => decide (q ≠ 0))

/-- **The budget of the base size**, before the factors of the account. -/
def baseRiskBudget : ℚ :=
  match nonzero (r.contractInfo.bind ContractConfig.targetRiskDollars) with
  | some target => target
  | none =>
    let ofCapital := budget.capital * desk.sizing.targetRiskPct
    match desk.sizing.mode, r.assetClass with
    | .static, _ =>
      if desk.sizing.defaultEquityRiskDollars ≠ 0 then desk.sizing.defaultEquityRiskDollars else 500
    | .volatilityTargeted, .equity =>
      if desk.sizing.defaultEquityRiskDollars ≠ 0 then
        if min desk.sizing.defaultEquityRiskDollars ofCapital ≤ 0 then
          desk.sizing.defaultEquityRiskDollars
        else min desk.sizing.defaultEquityRiskDollars ofCapital
      else ofCapital
    | .volatilityTargeted, _ =>
      if desk.sizing.targetFuturesRiskDollars ≠ 0 then desk.sizing.targetFuturesRiskDollars
      else ofCapital

def rawBaseQty : ℚ :=
  desk.baseRiskBudget r budget * (budget.drawdownFactor * budget.macroFactor) / r.perUnitRisk

/-- **The base quantity.** -/
def baseQty : ℚ :=
  let maxQty := r.maxQty desk.limits budget
  if r.assetClass = .equity then
    max 1 (max desk.sizing.minShares (min maxQty (truncate (desk.rawBaseQty r budget))))
  else
    match desk.sizing.mode with
    | .static => 1
    | .volatilityTargeted =>
      (max desk.sizing.minContracts (min (truncate maxQty)
        (max 1 (roundHalfEven (desk.rawBaseQty r budget)))) : ℤ)

/-- A tier before its dollars are computed. -/
structure TierPlan where
  tierId : TierId
  label : String
  quantity : ℚ
  isDefault : Bool

/-- **The tiers of shares.** -/
def shareTiers (maxQty baseQty : ℚ) : List TierPlan :=
  let halfQty : ℚ := max 1 (truncate (baseQty * (1 / 2)))
  if baseQty < maxQty ∧ halfQty < baseQty then
    [⟨.half, "Conservative (0.5x)", halfQty, false⟩, ⟨.base, "Standard (1.0x)", baseQty, true⟩,
      ⟨.max, "Max Permissible", maxQty, false⟩]
  else if baseQty < maxQty then
    [⟨.base, "Standard (1.0x)", baseQty, true⟩, ⟨.max, "Max Permissible", maxQty, false⟩]
  else if halfQty < baseQty then
    [⟨.half, "Conservative (0.5x)", halfQty, false⟩, ⟨.base, "Standard / Max", baseQty, true⟩]
  else [⟨.base, "Standard (1.0x)", baseQty, true⟩]

/-- **The tiers of contracts.** -/
def contractTiers (maxQty baseQty : ℚ) : List TierPlan :=
  let intMax := truncate maxQty
  let intBase := truncate baseQty
  if 3 ≤ intMax ∧ 2 ≤ intBase then
    [⟨.half, "Half (1x)", 1, false⟩, ⟨.base, s!"Base ({intBase}x)", intBase, true⟩,
      ⟨.max, s!"Max ({intMax}x)", intMax, false⟩]
  else if 3 ≤ intMax ∧ intBase = 1 then
    [⟨.base, "Base (1x)", 1, true⟩, ⟨.med, "Medium (2x)", 2, false⟩,
      ⟨.max, s!"Max ({intMax}x)", intMax, false⟩]
  else if intMax = 2 then
    [⟨.half, "Half (1x)", 1, intBase = 1⟩, ⟨.base, "Base / Max (2x)", 2, intBase = 2⟩]
  else [⟨.base, "Base (1x)", 1, true⟩]

def tierPlans : List TierPlan :=
  if r.assetClass = .equity then shareTiers (r.maxQty desk.limits budget) (desk.baseQty r budget)
  else contractTiers (r.maxQty desk.limits budget) (desk.baseQty r budget)

/-- The dollars of a tier. -/
def buildTier (plan : TierPlan) : SizingTier :=
  let notional := round2 (r.unitNotional * plan.quantity)
  { tierId := plan.tierId
    label := plan.label
    quantity := plan.quantity
    riskDollars := round2 (r.perUnitRisk * plan.quantity)
    rewardDollars := round2 (r.targetDistance * r.multiplier * plan.quantity)
    notionalDollars := notional
    effectiveLeverage := round2 (notional / budget.capital)
    isDefault := plan.isDefault }

/-- The tier that offers nothing. -/
def blockedTier : SizingTier := ⟨.blocked, "Unavailable", 0, 0, 0, 0, 0, true⟩

/-- The default tier, in the loop over the tiers. -/
def pickDefault (picked : Option SizingTier) (tier : SizingTier) : Option SizingTier :=
  if tier.isDefault ∨ picked = none then some tier else picked

/-- The largest tier, in the loop over the tiers. -/
def pickMax (picked : Option SizingTier) (tier : SizingTier) : Option SizingTier :=
  match picked with
  | none => some tier
  | some largest =>
    if tier.tierId = .max ∨ largest.quantity ≤ tier.quantity then some tier else picked

/-! ## Reasons -/

/-- What scaled or capped the sizes, in the order it is applied. -/
def gatingReasons : List String :=
  let macroPct := desk.text.whole (budget.macroFactor * 100)
  let drawdownPct := desk.text.fixed1 (r.currentDrawdownPct * 100)
  let haltPct := desk.text.fixed1 (desk.limits.maxDrawdownStopPct * 100)
  let factorPct := desk.text.whole (budget.drawdownFactor * 100)
  let remaining := desk.text.dollars (r.remainingNotional desk.limits)
  let label := if r.probe then "Paper probe" else "Card"
  (if budget.macroFactor < 1 then [s!"Macro stress risk scaling applied: {macroPct}% risk budget"]
    else [])
  ++ (if budget.drawdownFactor = 0 then [s!"Drawdown halt active ({drawdownPct}% >= {haltPct}%)"]
    else if budget.drawdownFactor < 1 then
      [s!"Drawdown haircut applied: {factorPct}% sizing (DD: {drawdownPct}%)"]
    else [])
  ++ (if r.remainingNotional desk.limits < desk.limits.maxNotionalExposure then
      [s!"Notional budget remaining: ${remaining}"]
    else [])
  ++ (match r.riskDollarsCap with
    | some cap =>
      let dollars := desk.text.dollars cap
      if cap < budget.dollars then [s!"{label} risk cap applied: ${dollars}"] else []
    | none => [])

/-- What bounds the largest size, below the count. -/
def ceilingReasons : List String :=
  let ceiling := desk.text.dollars (r.notionalCeiling desk.limits)
  let riskPct := desk.text.percent1 desk.limits.maxRiskPctCap
  if r.rawMaxQty desk.limits budget < r.countCap desk.limits then
    if r.notionalCeiling desk.limits / r.unitNotional < r.maxRiskDollars budget / r.perUnitRisk then
      [s!"Max size capped by remaining ${ceiling} notional limit"]
    else [s!"Max size capped by {riskPct} risk ceiling"]
  else []

/-! ## The sizing -/

/-- Nothing is permissible. -/
def blocked : Bool :=
  decide (budget.drawdownFactor = 0 ∨ r.maxQty desk.limits budget < r.minimum desk.sizing)

/-- The sizing that offers nothing. -/
def blockedSizing : PositionSizing where
  defaultTier := blockedTier
  maxTier := blockedTier
  tiers := [blockedTier]
  drawdownFactor := budget.drawdownFactor
  gatingReasons := desk.gatingReasons r budget
    ++ ["No permissible quantity under hard risk/notional/drawdown gates"]

/-- The sizing of a request that is not blocked. -/
def offeredSizing : PositionSizing :=
  let tiers := (desk.tierPlans r budget).map (buildTier r budget)
  { defaultTier := (tiers.foldl pickDefault none).getD blockedTier
    maxTier := (tiers.foldl pickMax none).getD blockedTier
    tiers := tiers
    drawdownFactor := budget.drawdownFactor
    gatingReasons := desk.gatingReasons r budget ++ desk.ceilingReasons r budget }

/-- **`calculate_dynamic_sizing`.** -/
def calculateDynamicSizing : Except String PositionSizing := do
  let budget ← r.budget desk.limits
  refuse (r.riskDollarsCap.any (fun cap => decide (cap ≤ 0))) "Positive risk cap required"
  .ok (if desk.blocked r budget then desk.blockedSizing r budget else desk.offeredSizing r budget)

end SizingDesk

end AgenticTrader
