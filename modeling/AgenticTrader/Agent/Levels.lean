import AgenticTrader.Agent.SizingAdmission

/-!
# The deterministic levels of a candidate

`calculate_levels_deterministic` (`agent/evaluator.py`) puts the stop behind the recent
swing and at least a multiple of the ATR away, and the target at the required ratio of the
actual stop distance; both on the grid of the instrument's tick. The bracket of a versioned
alpha policy (`bracket_prices`, `research/alpha/strategy.py`) replaces both. The sizes
follow from the distances.

The stop is rounded to the nearest tick and the target away from the entry, up to a
tolerance for the noise of floats. With a tick in cents the roundings to two decimals
change nothing, and with a ratio in hundredths the tolerance is lost in the rounding of the
ratio: so a native bracket meets the ratio it was built at.
-/

namespace AgenticTrader

open Checks

/-! ## Policies -/

/-- What the two kinds of policies put behind a stop: an alpha's the swing with a buffer of
ticks, a catalog study's nothing. -/
inductive BracketKind where
  | alpha (structuralBufferTicks : ℕ)
  | apriori

/-- **The bracket of an execution policy**, `AlphaExecutionPolicy` or
`AprioriBracketPolicy`, with what the constructors check of it. -/
structure BracketPolicy where
  kind : BracketKind
  stopAtr : ℚ
  rewardRisk : ℚ
  tickSize : ℚ
  stopAtr_pos : 0 < stopAtr
  rewardRisk_pos : 0 < rewardRisk
  tickSize_pos : 0 < tickSize

theorem BracketPolicy.defaultAtr_pos : (0 : ℚ) < 3 / 2 := by norm_num

theorem BracketPolicy.defaultRatio_pos : (0 : ℚ) < 2 := two_pos

theorem BracketPolicy.defaultTick_pos : (0 : ℚ) < 1 / 100 := by norm_num

/-- The defaults of `AlphaExecutionPolicy`. -/
def BracketPolicy.default : BracketPolicy where
  kind := .alpha 2
  stopAtr := 3 / 2
  rewardRisk := 2
  tickSize := 1 / 100
  stopAtr_pos := defaultAtr_pos
  rewardRisk_pos := defaultRatio_pos
  tickSize_pos := defaultTick_pos

/-- The document of a policy; an empty one counts as none where the entry is read. -/
inductive PolicyDocument where
  | empty
  | fields (policy : BracketPolicy)

/-- **`execution_policy_from_dict`** of a valid document. -/
def PolicyDocument.policy : PolicyDocument → BracketPolicy
  | .empty => .default
  | .fields policy => policy

/-- A stop and a target. -/
structure BracketPrices where
  stop : ℚ
  target : ℚ

/-- `round(x, 8)`. -/
def round8 (x : ℚ) : ℚ := roundHalfEven (x * 10 ^ 8) / 10 ^ 8

/-- **`entry_limit`.** -/
def entryLimit (price : ℚ) (policy : BracketPolicy) : ℚ :=
  round8 (roundHalfEven (price / policy.tickSize) * policy.tickSize)

/-- **`_rounded_bracket`.** -/
def roundedBracket (entry : ℚ) (direction : Direction) (ticks : ℤ) (policy : BracketPolicy) :
    Except String BracketPrices :=
  let stop := round8 (entry - direction.sign * ticks * policy.tickSize)
  let target := round8 (entry
    + direction.sign * ⌈ticks * policy.rewardRisk - 1 / 10 ^ 10⌉ * policy.tickSize)
  if min stop target ≤ 0 then .error "Bracket would cross zero" else .ok ⟨stop, target⟩

/-- **`bracket_prices`.** -/
def bracketPrices (entry : ℚ) (direction : Direction) (atr swingLow swingHigh : ℚ)
    (policy : BracketPolicy) : Except String BracketPrices :=
  match policy.kind with
  | .apriori =>
    if ¬ (0 < entry ∧ 0 < atr) then .error "Bracket observations must be finite and positive"
    else
      roundedBracket entry direction ⌈policy.stopAtr * atr / policy.tickSize - 1 / 10 ^ 10⌉ policy
  | .alpha buffer =>
    if ¬ (0 < entry ∧ 0 < atr ∧ 0 < swingLow ∧ 0 < swingHigh) then
      .error "Bracket observations must be finite and positive"
    else
      let structural := if direction = .long then swingLow - buffer * policy.tickSize
        else swingHigh + buffer * policy.tickSize
      let distance := max (direction.sign * (entry - structural)) (policy.stopAtr * atr)
      roundedBracket entry direction ⌈distance / policy.tickSize - 1 / 10 ^ 10⌉ policy

/-! ## Candidates -/

/-- **`ScreenerCandidate`**, as far as an evaluation without its prompt reads it. -/
structure ScreenerCandidate where
  contract : String
  assetClass : AssetClass
  strategy : String
  direction : Direction
  currentPrice : ℚ
  atr14 : ℚ
  recentSwingLow : ℚ
  recentSwingHigh : ℚ
  triggerDetail : String
  alphaPolicy : Option PolicyDocument
  probe : Bool
  catalogEvent : Option Json

/-- The price at which a candidate enters. -/
def ScreenerCandidate.entry (c : ScreenerCandidate) : ℚ :=
  match c.alphaPolicy with
  | some (.fields policy) => entryLimit c.currentPrice policy
  | _ => c.currentPrice

/-- `INSIDER_WATCH_STRATEGY_ID`. -/
def insiderWatchStrategyId : String := "insider_watch_long"

/-- **What an evaluation reads of the configuration**, for its levels. The two caps of risk
are configured positive. -/
structure LevelDesk extends SizingDesk where
  contracts : String → Option ContractConfig
  minStopAtrMultiple : ℚ
  probeRiskDollars : ℚ
  insiderWatchRiskDollars : ℚ
  probeRisk_pos : 0 < probeRiskDollars
  insiderWatchRisk_pos : 0 < insiderWatchRiskDollars

/-- What is known of the account, and what the regime scales its risk by. -/
structure SizingAccount where
  openNotional : ℚ
  drawdownPct : ℚ
  equity : Option ℚ
  macroMultiplier : ℚ

/-- The prices of the levels and their distances, as they are sized. -/
structure LevelPrices extends BracketPrices where
  stopDistance : ℚ
  targetDistance : ℚ

/-- **`DeterministicLevels`.** -/
structure DeterministicLevels where
  stopLoss : ℚ
  takeProfit : ℚ
  stopDistance : ℚ
  targetDistance : ℚ
  riskDollars : ℚ
  rewardDollars : ℚ
  notionalValue : ℚ
  quantity : ℚ
  sizingTiers : List SizingTier
  gatingReasons : List String

/-- The levels, with the headline of the default tier. -/
def DeterministicLevels.of (prices : LevelPrices) (sizing : PositionSizing) :
    DeterministicLevels where
  stopLoss := prices.stop
  takeProfit := prices.target
  stopDistance := prices.stopDistance
  targetDistance := prices.targetDistance
  riskDollars := sizing.defaultTier.riskDollars
  rewardDollars := sizing.defaultTier.rewardDollars
  notionalValue := sizing.defaultTier.notionalDollars
  quantity := sizing.defaultTier.quantity
  sizingTiers := sizing.tiers
  gatingReasons := sizing.gatingReasons

/-- `_TICK_EPSILON`. -/
def tickEpsilon : ℚ := 1 / 10 ^ 6

/-- **The native bracket.** -/
def nativeBracket (direction : Direction)
    (entry minStopDistance swingLow swingHigh tick ratio : ℚ) :
    BracketPrices :=
  match direction with
  | .long =>
    let structuralStop := swingLow - 2 * tick
    let distance := max (entry - structuralStop) minStopDistance
    let stop := round2 (roundHalfEven ((entry - distance) / tick) * tick)
    ⟨stop, round2 (⌈(entry + (entry - stop) * ratio) / tick - tickEpsilon⌉ * tick)⟩
  | .short =>
    let structuralStop := swingHigh + 2 * tick
    let distance := max (structuralStop - entry) minStopDistance
    let stop := round2 (roundHalfEven ((entry + distance) / tick) * tick)
    ⟨stop, round2 (⌊(entry - (stop - entry) * ratio) / tick + tickEpsilon⌋ * tick)⟩

namespace LevelDesk

variable (desk : LevelDesk) (c : ScreenerCandidate)

def multiplier : ℚ :=
  match desk.contracts c.contract with
  | some info => info.multiplier
  | none => if c.assetClass = .equity then 1 else 5

def tickSize : ℚ :=
  match desk.contracts c.contract with
  | some info => info.tickSize
  | none => if c.assetClass = .equity then 1 / 100 else 1 / 4

/-- The least distance of a stop. -/
def minStopDistance : ℚ := desk.minStopAtrMultiple * c.atr14

/-- **`_probe_risk_cap`.** -/
def probeRiskCap : Option ℚ :=
  if c.probe then some desk.probeRiskDollars
  else if c.strategy = insiderWatchStrategyId then some desk.insiderWatchRiskDollars
  else none

/-- **The bracket of a candidate**, with the distances that are sized: of a native bracket
they are rounded to cents. -/
def levelPrices (ratio : ℚ) : Except String LevelPrices := do
  let tick := desk.tickSize c
  refuse (decide (tick = 0)) "float division by zero"
  match c.alphaPolicy with
  | none =>
    let b := nativeBracket c.direction c.entry (desk.minStopDistance c) c.recentSwingLow
      c.recentSwingHigh tick ratio
    .ok ⟨b, round2 (c.direction.sign * (c.entry - b.stop)),
      round2 (c.direction.sign * (b.target - c.entry))⟩
  | some document =>
    refuse (decide (1 / 10 ^ 9 < |document.policy.tickSize - tick|))
      "Alpha execution tick differs from instrument policy; revalidate this version"
    let b ← bracketPrices c.entry c.direction c.atr14 c.recentSwingLow c.recentSwingHigh
      document.policy
    .ok ⟨b, |c.entry - b.stop|, |b.target - c.entry|⟩

/-- The request of a sizing at the given distances. -/
def sizingRequest (account : SizingAccount) (stopDistance targetDistance : ℚ) :
    SizingRequest where
  entry := c.entry
  stopDistance := stopDistance
  targetDistance := targetDistance
  multiplier := desk.multiplier c
  assetClass := c.assetClass
  contractInfo := desk.contracts c.contract
  probe := c.probe
  currentOpenNotional := account.openNotional
  currentDrawdownPct := account.drawdownPct
  macroRiskMultiplier := account.macroMultiplier
  currentEquity := account.equity
  riskDollarsCap := desk.probeRiskCap c

/-- **`calculate_levels_deterministic`**, at the given ratio or the configured one. -/
def calculateLevelsDeterministic (account : SizingAccount) (minRewardRisk : Option ℚ) :
    Except String DeterministicLevels := do
  let prices ← desk.levelPrices c (minRewardRisk.getD desk.limits.minRiskRewardRatio)
  let sizing ← desk.calculateDynamicSizing
    (desk.sizingRequest c account prices.stopDistance prices.targetDistance)
  .ok (.of prices sizing)

/-- What levels that return are. -/
theorem calculateLevelsDeterministic_eq_ok {account : SizingAccount} {minRewardRisk : Option ℚ}
    {levels : DeterministicLevels} :
    desk.calculateLevelsDeterministic c account minRewardRisk = .ok levels
      ↔ ∃ prices sizing,
        desk.levelPrices c (minRewardRisk.getD desk.limits.minRiskRewardRatio) = .ok prices
        ∧ desk.calculateDynamicSizing
          (desk.sizingRequest c account prices.stopDistance prices.targetDistance) = .ok sizing
        ∧ levels = .of prices sizing := by
  unfold calculateLevelsDeterministic
  rw [except_bind_eq_ok]
  refine exists_congr (fun prices => ?_)
  rw [except_bind_eq_ok, exists_and_left]
  refine and_congr_right (fun _ => exists_congr (fun sizing => and_congr_right (fun _ => ?_)))
  rw [Except.ok.injEq, eq_comm]

/-- Without a policy the bracket is the native one. -/
theorem levelPrices_native (ratio : ℚ) (hpolicy : c.alphaPolicy = none)
    (htick : desk.tickSize c ≠ 0) :
    ∃ prices, desk.levelPrices c ratio = .ok prices
      ∧ prices.toBracketPrices = nativeBracket c.direction c.entry (desk.minStopDistance c)
        c.recentSwingLow c.recentSwingHigh (desk.tickSize c) ratio
      ∧ prices.stopDistance = round2 (c.direction.sign * (c.entry - prices.stop))
      ∧ prices.targetDistance = round2 (c.direction.sign * (prices.target - c.entry)) := by
  unfold levelPrices
  rw [hpolicy]
  refine ⟨_, refuse_bind_eq_ok.mpr ⟨decide_eq_false htick, rfl⟩, rfl, rfl, rfl⟩

end LevelDesk

/-! ## The grid -/

/-- On the grid of a tick. -/
def OnGrid (tick price : ℚ) : Prop := ∃ k : ℤ, price = k * tick

section Grid

variable {tick : ℚ}

/-- A grid of cents loses nothing when it is rounded to cents. -/
theorem round2_grid (hcents : WholeHundredths tick) (k : ℤ) : round2 (k * tick) = k * tick := by
  obtain ⟨j, hj⟩ := hcents
  rw [round2_eq_iff]
  refine ⟨k * j, ?_⟩
  rw [hj]
  push_cast
  ring

/-- The nearest tick is at most half a tick away. -/
theorem abs_sub_nearest_tick (htick : 0 < tick) (x : ℚ) :
    |x - roundHalfEven (x / tick) * tick| ≤ tick / 2 := by
  have hround := abs_sub_roundHalfEven (x / tick)
  have hscale : x - roundHalfEven (x / tick) * tick
      = (x / tick - roundHalfEven (x / tick)) * tick := by
    rw [sub_mul, div_mul_cancel₀ _ htick.ne']
  rw [hscale, abs_mul, abs_of_pos htick]
  calc |x / tick - roundHalfEven (x / tick)| * tick ≤ 1 / 2 * tick :=
        mul_le_mul_of_nonneg_right hround htick.le
    _ = tick / 2 := by ring

/-- The next tick up, less the tolerance. -/
theorem le_next_tick_up (htick : 0 < tick) (x : ℚ) :
    x - tickEpsilon * tick ≤ ⌈x / tick - tickEpsilon⌉ * tick := by
  calc x - tickEpsilon * tick = (x / tick - tickEpsilon) * tick := by
        rw [sub_mul, div_mul_cancel₀ _ htick.ne']
    _ ≤ ⌈x / tick - tickEpsilon⌉ * tick :=
        mul_le_mul_of_nonneg_right (Int.le_ceil _) htick.le

theorem next_tick_down_le (htick : 0 < tick) (x : ℚ) :
    (⌊x / tick + tickEpsilon⌋ : ℚ) * tick ≤ x + tickEpsilon * tick := by
  calc (⌊x / tick + tickEpsilon⌋ : ℚ) * tick ≤ (x / tick + tickEpsilon) * tick :=
        mul_le_mul_of_nonneg_right (Int.floor_le _) htick.le
    _ = x + tickEpsilon * tick := by
        rw [add_mul, div_mul_cancel₀ _ htick.ne']

/-- A number that is short of a whole number of hundredths by less than half of one rounds
to no less. -/
theorem le_round2_of_near {x ratio : ℚ} (hratio : WholeHundredths ratio)
    (hnear : ratio - tickEpsilon ≤ x) : ratio ≤ round2 x := by
  obtain ⟨k, hk⟩ := hratio
  have hround := abs_le.mp (abs_sub_roundHalfEven (x * 100))
  have hlt : (k : ℚ) - 1 < roundHalfEven (x * 100) := by
    have hx : (k : ℚ) / 100 - 1 / 10 ^ 6 ≤ x := by
      rw [hk] at hnear
      exact hnear
    linarith [hround.2]
  have hle : k ≤ roundHalfEven (x * 100) := by
    have hlt' : k - 1 < roundHalfEven (x * 100) := by exact_mod_cast hlt
    omega
  rw [hk]
  unfold round2
  exact div_le_div_of_nonneg_right (by exact_mod_cast hle) (by norm_num)

/-- **A reward that is short of the ratio by the tolerance meets it**, at a risk of a tick
or more. -/
theorem meets_of_near {reward risk ratio : ℚ} (htick : 0 < tick) (hrisk : tick ≤ risk)
    (hratio : WholeHundredths ratio) (hreward : risk * ratio - tickEpsilon * tick ≤ reward) :
    meetsMinRewardRisk reward risk ratio = true := by
  have hpos : 0 < risk := htick.trans_le hrisk
  unfold meetsMinRewardRisk
  rw [if_neg (not_le.mpr hpos), decide_eq_true_eq]
  refine le_round2_of_near hratio ?_
  rw [le_div_iff₀ hpos]
  have hscale : tickEpsilon * tick ≤ tickEpsilon * risk :=
    mul_le_mul_of_nonneg_left hrisk (by norm_num [tickEpsilon])
  calc (ratio - tickEpsilon) * risk = risk * ratio - tickEpsilon * risk := by ring
    _ ≤ risk * ratio - tickEpsilon * tick := by linarith
    _ ≤ reward := hreward

/-- Such a reward is positive where the ratio is. -/
theorem pos_of_near {reward risk ratio : ℚ} (htick : 0 < tick) (hrisk : tick ≤ risk)
    (hratio : WholeHundredths ratio) (hpos : 0 < ratio)
    (hreward : risk * ratio - tickEpsilon * tick ≤ reward) : 0 < reward := by
  have hhundredth : 1 / 100 ≤ ratio := by
    obtain ⟨k, rfl⟩ := hratio
    have hk : (0 : ℚ) < k := by linarith
    have hone : (1 : ℚ) ≤ k := by exact_mod_cast hk
    linarith
  have hproduct : tick * (1 / 100) ≤ risk * ratio :=
    mul_le_mul hrisk hhundredth (by norm_num) (htick.le.trans hrisk)
  have hslack : 0 < tick * (1 / 100) - tickEpsilon * tick := by
    have : tick * (1 / 100) - tickEpsilon * tick = tick * (1 / 100 - 1 / 10 ^ 6) := by
      unfold tickEpsilon
      ring
    rw [this]
    exact mul_pos htick (by norm_num)
  linarith

end Grid

/-! ## The native bracket -/

/-- How far the structure behind a stop is from the entry: the swing with two ticks. -/
def structuralDistance (direction : Direction) (entry swingLow swingHigh tick : ℚ) : ℚ :=
  if direction = .long then entry - (swingLow - 2 * tick) else swingHigh + 2 * tick - entry

/-- **What is asked of a bracket**: both prices on the grid, the target far enough for the
ratio, and on the winning side where the ratio is positive, and the stop as far as it was
meant to be, up to half a tick. -/
structure BracketMeets (direction : Direction) (entry minDistance tick ratio : ℚ)
    (b : BracketPrices) : Prop where
  stop_grid : OnGrid tick b.stop
  target_grid : OnGrid tick b.target
  winning : 0 < ratio → 0 < direction.sign * (b.target - entry)
  ratio : meetsMinRewardRisk (direction.sign * (b.target - entry))
    (direction.sign * (entry - b.stop)) ratio = true
  distance : minDistance - tick / 2 ≤ direction.sign * (entry - b.stop)

section Native

variable {entry minStopDistance swingLow swingHigh tick ratio : ℚ}

/-- The rounding of the bracket keeps both promises, in either direction. -/
theorem nativeBracket_bounds (direction : Direction) (htick : 0 < tick)
    (hcents : WholeHundredths tick) (entry minStopDistance swingLow swingHigh ratio : ℚ) :
    OnGrid tick (nativeBracket direction entry minStopDistance swingLow swingHigh tick ratio).stop
    ∧ OnGrid tick
      (nativeBracket direction entry minStopDistance swingLow swingHigh tick ratio).target
    ∧ max (structuralDistance direction entry swingLow swingHigh tick) minStopDistance - tick / 2
      ≤ direction.sign * (entry
        - (nativeBracket direction entry minStopDistance swingLow swingHigh tick ratio).stop)
    ∧ direction.sign * (entry
        - (nativeBracket direction entry minStopDistance swingLow swingHigh tick ratio).stop)
          * ratio
        - tickEpsilon * tick
      ≤ direction.sign
        * ((nativeBracket direction entry minStopDistance swingLow swingHigh tick ratio).target
          - entry) := by
  cases direction with
  | long =>
    unfold nativeBracket structuralDistance Direction.sign
    dsimp only
    rw [if_pos rfl, if_pos rfl, round2_grid hcents, round2_grid hcents, one_mul, one_mul]
    refine ⟨⟨_, rfl⟩, ⟨_, rfl⟩, ?_, ?_⟩
    · have h := (abs_le.mp (abs_sub_nearest_tick htick
        (entry - max (entry - (swingLow - 2 * tick)) minStopDistance))).1
      linarith
    · have h := le_next_tick_up htick (entry + (entry - roundHalfEven
        ((entry - max (entry - (swingLow - 2 * tick)) minStopDistance) / tick) * tick) * ratio)
      linarith
  | short =>
    unfold nativeBracket structuralDistance Direction.sign
    dsimp only
    rw [if_neg (by decide), if_neg (by decide), round2_grid hcents, round2_grid hcents]
    refine ⟨⟨_, rfl⟩, ⟨_, rfl⟩, ?_, ?_⟩
    · have h := (abs_le.mp (abs_sub_nearest_tick htick
        (entry + max (swingHigh + 2 * tick - entry) minStopDistance))).2
      linarith
    · have h := next_tick_down_le htick (entry - (roundHalfEven
        ((entry + max (swingHigh + 2 * tick - entry) minStopDistance) / tick) * tick - entry)
        * ratio)
      linarith

/-- **The native bracket meets its ratio**, from a stop of one tick on. -/
theorem nativeBracket_meets (direction : Direction) (htick : 0 < tick)
    (hcents : WholeHundredths tick) (hratio : WholeHundredths ratio)
    (hstop : tick ≤ direction.sign * (entry
      - (nativeBracket direction entry minStopDistance swingLow swingHigh tick ratio).stop)) :
    BracketMeets direction entry
      (max (structuralDistance direction entry swingLow swingHigh tick) minStopDistance) tick ratio
      (nativeBracket direction entry minStopDistance swingLow swingHigh tick ratio) := by
  obtain ⟨hstop_grid, htarget_grid, hdistance, hreward⟩ :=
    nativeBracket_bounds direction htick hcents entry minStopDistance swingLow swingHigh ratio
  exact ⟨hstop_grid, htarget_grid, fun hpos => pos_of_near htick hstop hratio hpos hreward,
    meets_of_near htick hstop hratio hreward, hdistance⟩

end Native

/-- **The deterministic bracket meets its reward/risk.** Without an alpha policy, on a tick of
whole cents and at a ratio in hundredths, the levels have a bracket; and if its stop is a
tick or more from the entry on the losing side, it is on the grid, its target meets the
ratio on the actual prices and is on the winning side of a positive one, and its stop is as
far as the structure and the multiple of the ATR ask, up to half a tick. -/
theorem deterministic_bracket_meets (desk : LevelDesk) (c : ScreenerCandidate)
    (minRewardRisk : Option ℚ) (hpolicy : c.alphaPolicy = none) (htick : 0 < desk.tickSize c)
    (hcents : WholeHundredths (desk.tickSize c))
    (hratio : WholeHundredths (minRewardRisk.getD desk.limits.minRiskRewardRatio)) :
    ∃ prices : LevelPrices,
      desk.levelPrices c (minRewardRisk.getD desk.limits.minRiskRewardRatio) = .ok prices
      ∧ (∀ account levels, desk.calculateLevelsDeterministic c account minRewardRisk = .ok levels →
        levels.stopLoss = prices.stop ∧ levels.takeProfit = prices.target)
      ∧ (desk.tickSize c ≤ c.direction.sign * (c.entry - prices.stop) →
        BracketMeets c.direction c.entry
          (max (structuralDistance c.direction c.entry c.recentSwingLow c.recentSwingHigh
            (desk.tickSize c)) (desk.minStopAtrMultiple * c.atr14)) (desk.tickSize c)
          (minRewardRisk.getD desk.limits.minRiskRewardRatio) prices.toBracketPrices) := by
  obtain ⟨prices, hprices, hbracket, -, -⟩ := desk.levelPrices_native c _ hpolicy htick.ne'
  refine ⟨prices, hprices, ?_, ?_⟩
  · intro account levels hlevels
    obtain ⟨prices', sizing, hprices', -, rfl⟩ :=
      (desk.calculateLevelsDeterministic_eq_ok c).mp hlevels
    rw [hprices] at hprices'
    cases hprices'
    exact ⟨rfl, rfl⟩
  · intro hstop
    rw [hbracket] at hstop ⊢
    exact nativeBracket_meets c.direction htick hcents hratio hstop

/-! ## A candidate -/

theorem probeDollars_pos : (0 : ℚ) < 100 := by norm_num

/-- A desk of shares, in cents. -/
def levelDesk : LevelDesk where
  toSizingDesk := sizingDesk 1
  contracts := fun _ => none
  minStopAtrMultiple := 3 / 2
  probeRiskDollars := 100
  insiderWatchRiskDollars := 100
  probeRisk_pos := probeDollars_pos
  insiderWatchRisk_pos := probeDollars_pos

/-- A pullback in SPY, with an ATR of one. -/
def pullback (price swingLow : ℚ) : ScreenerCandidate where
  contract := "SPY"
  assetClass := .equity
  strategy := "TREND_PULLBACK"
  direction := .long
  currentPrice := price
  atr14 := 1
  recentSwingLow := swingLow
  recentSwingHigh := price + 1
  triggerDetail := "Pullback to the mean."
  alphaPolicy := none
  probe := false
  catalogEvent := none

/-- At a ratio of zero the target is the entry itself. -/
theorem zero_ratio_has_no_reward :
    WholeHundredths 0 ∧ WholeHundredths (levelDesk.tickSize (pullback 100 99))
    ∧ ∃ prices, levelDesk.levelPrices (pullback 100 99) 0 = .ok prices
      ∧ levelDesk.tickSize (pullback 100 99)
        ≤ (pullback 100 99).direction.sign * ((pullback 100 99).entry - prices.stop)
      ∧ ¬ 0 < (pullback 100 99).direction.sign * (prices.target - (pullback 100 99).entry) := by
  refine ⟨⟨0, by norm_num⟩, ⟨1, by norm_num [LevelDesk.tickSize, levelDesk, pullback]⟩, ?_⟩
  obtain ⟨prices, hprices, hbracket, -, -⟩ :=
    levelDesk.levelPrices_native (pullback 100 99) 0 rfl (by decide +kernel)
  refine ⟨prices, hprices, ?_⟩
  rw [hbracket]
  decide +kernel

/-- At a ratio of two the bracket is 98.50 to 103. -/
theorem deterministic_bracket_meets_pullback :
    ∃ prices : LevelPrices, levelDesk.levelPrices (pullback 100 99) 2 = .ok prices
      ∧ prices.stop = 985 / 10 ∧ prices.target = 103
      ∧ BracketMeets .long 100 (max (structuralDistance .long 100 99 101 (1 / 100)) (3 / 2 * 1))
        (1 / 100) 2 prices.toBracketPrices := by
  obtain ⟨prices, hprices, hbracket, -, -⟩ :=
    levelDesk.levelPrices_native (pullback 100 99) 2 rfl (by decide +kernel)
  obtain ⟨prices', hprices', -, hmeets⟩ := deterministic_bracket_meets levelDesk (pullback 100 99)
    (some 2) rfl (by decide +kernel) ⟨1, by norm_num [LevelDesk.tickSize, levelDesk, pullback]⟩
    ⟨200, by norm_num⟩
  rw [Option.getD_some, hprices] at hprices'
  cases hprices'
  have hstop : prices.stop = 985 / 10 := by
    rw [hbracket]
    decide +kernel
  have htarget : prices.target = 103 := by
    rw [hbracket]
    decide +kernel
  have h := hmeets (by rw [hstop]; decide +kernel)
  have hhigh : (100 : ℚ) + 1 = 101 := by norm_num
  rw [Option.getD_some] at h
  exact ⟨prices, hprices, hstop, htarget, hhigh ▸ h⟩

end AgenticTrader
