import AgenticTrader.Execution.Freshness
import AgenticTrader.Library.Checks
import AgenticTrader.Risk.Rounding

/-!
# Re-priced cards

A tap that finds a card neither fresh nor missed replaces it (`_replacement_card`,
`agent/copilot.py`): the same stop and target, an entry at the current price, and the
size that keeps the risk of the tapped quantity (`reprice_quantity`), within the caps of
one trade (`_capped_replacement_quantity`).

The size is cut three times – by the risk and the notional of the tapped quantity, to a
whole number, and by the caps – and rounded once upwards, by the tolerance of the last
cut. The whole number it was cut to before keeps that tolerance from adding anything to
it; over a cap it stays within the tolerance.
-/

namespace AgenticTrader

open Checks

/-! ## The price -/

/-- **`round_to_tick`.** -/
def roundToTick (price tickSize : ℚ) : Except String ℚ :=
  if tickSize ≤ 0 then .error "tick_size must be positive"
  else .ok (roundHalfEven (price / tickSize) * tickSize)

/-- **`_tap_price`**: the latest trade on its tick, if it is a positive price. -/
def tapPrice (latest : Option ℚ) (tickSize : ℚ) : Except String (Option ℚ) :=
  match latest with
  | none => .ok none
  | some raw =>
    if raw ≤ 0 then .ok none
    else do
      let rounded ← roundToTick raw tickSize
      .ok (if 0 < rounded then some rounded else none)

theorem tapPrice_pos {latest : Option ℚ} {tickSize price : ℚ}
    (h : tapPrice latest tickSize = .ok (some price)) : 0 < price := by
  unfold tapPrice at h
  cases latest with
  | none => cases h
  | some raw =>
    dsimp only at h
    split_ifs at h
    · cases h
    · obtain ⟨rounded, -, h⟩ := except_bind_eq_ok.mp h
      split_ifs at h with hpos
      · cases h
        exact hpos
      · cases h

/-! ## The size -/

/-- **`reprice_quantity`.** -/
def repriceQuantity (originalQuantity entry stop newEntry multiplier : ℚ) (wholeUnits : Bool) : ℚ :=
  let newRiskPerUnit := |newEntry - stop| * multiplier
  if newRiskPerUnit ≤ 0 then 0
  else
    let byRisk := originalQuantity * |entry - stop| * multiplier / newRiskPerUnit
    let newNotionalPerUnit := newEntry * multiplier
    let byNotional :=
      if 0 < newNotionalPerUnit then
        min byRisk (originalQuantity * entry * multiplier / newNotionalPerUnit)
      else byRisk
    let quantity := max byNotional 0
    if wholeUnits then
      if (⌊quantity⌋ : ℚ) < 1 then 0 else ⌊quantity⌋
    else quantity

/-- The tolerance of the last cut. -/
def unitTolerance : ℚ := 1 / 10 ^ 9

/-- **`_capped_replacement_quantity`.** -/
def cappedReplacementQuantity (limits : RiskLimits) (quantity price stop multiplier : ℚ)
    (assetClass : AssetClass) (riskMultiplier : ℚ) : Except String ℚ := do
  let count : ℚ := if assetClass = .futures then limits.maxContractsPerTrade
    else limits.maxSharesPerTrade
  let unitNotional := price * multiplier
  let byNotional := if 0 < unitNotional then [limits.maxTradeNotionalCap / unitNotional] else []
  let unitRisk := |price - stop| * multiplier
  let byRisk ← if 0 < unitRisk then do
      let budget ← perTradeRiskBudget limits none 0 riskMultiplier
      Except.ok [budget.dollars / unitRisk]
    else Except.ok []
  let capped := max ((byNotional ++ byRisk).foldl min (min quantity count)) 0
  .ok (if assetClass = .crypto then capped else ⌊capped + unitTolerance⌋)

/-! ## The replacement -/

/-- **The fields of a re-priced card** that the current price decides. -/
structure Replacement where
  direction : Direction
  assetClass : AssetClass
  entryPrice : ℚ
  stopLoss : ℚ
  takeProfit : ℚ
  quantity : ℚ
  riskDollars : ℚ
  rewardDollars : ℚ
  notionalValue : ℚ
  riskRewardRatio : ℚ
  effectiveLeverage : ℚ
  reprices : SignalId
  deriving DecidableEq

/-- **`_replacement_card`**: the replacement, or the reason why the card is missed.
`evaluationValid` says that the recorded evaluation can be read. -/
def replacementCard (limits : RiskLimits) (signalId : SignalId) (card : CardLevels)
    (price baseQuantity : ℚ) (assetClass : AssetClass) (multiplier : ℚ) (evaluationValid : Bool)
    (riskMultiplier : ℚ) : Except String (Replacement ⊕ String) :=
  let quantity := repriceQuantity baseQuantity card.entry card.stop price multiplier
    (assetClass ≠ .crypto)
  if quantity ≤ 0 then .ok (.inr "Missed: the re-priced size rounds to zero.")
  else do
    let quantity ← cappedReplacementQuantity limits quantity price card.stop multiplier assetClass
      riskMultiplier
    if quantity ≤ 0 then
      .ok (.inr "Missed: the per-trade caps leave no size for a re-priced card.")
    else
      let stopDistance := |price - card.stop|
      let targetDistance := |card.target - price|
      let notional := round2 (price * multiplier * quantity)
      let ratio := round2 (targetDistance / stopDistance)
      -- the rebuilt evaluation is validated again, and its ratio is at least two
      if evaluationValid = false ∨ ratio < 2 then
        .ok (.inr "Missed: this card cannot be re-priced (its original evaluation is unavailable).")
      else
        .ok (.inl
          { direction := card.direction
            assetClass := assetClass
            entryPrice := price
            stopLoss := card.stop
            takeProfit := card.target
            quantity := quantity
            riskDollars := round2 (stopDistance * multiplier * quantity)
            rewardDollars := round2 (targetDistance * multiplier * quantity)
            notionalValue := notional
            riskRewardRatio := ratio
            effectiveLeverage := round2 (notional / limits.cash)
            reprices := signalId })

/-! ## What the cuts leave -/

section Cuts

variable {limits : RiskLimits} {quantity entry stop price multiplier riskMultiplier capped : ℚ}
  {assetClass : AssetClass} {wholeUnits : Bool}

/-- A size that is left is within the risk and the notional it was derived from, and a
whole number where it was cut to one. -/
theorem repriceQuantity_pos (hprice : 0 < price)
    (h : 0 < repriceQuantity quantity entry stop price multiplier wholeUnits) :
    0 < |price - stop| * multiplier
      ∧ 0 < price * multiplier
      ∧ repriceQuantity quantity entry stop price multiplier wholeUnits
          * (|price - stop| * multiplier) ≤ quantity * |entry - stop| * multiplier
      ∧ repriceQuantity quantity entry stop price multiplier wholeUnits * (price * multiplier)
          ≤ quantity * entry * multiplier
      ∧ (wholeUnits = true →
        Whole (repriceQuantity quantity entry stop price multiplier wholeUnits)) := by
  have hunits : 0 < |price - stop| * multiplier := by
    by_contra hrisk
    rw [repriceQuantity, if_pos (not_lt.mp hrisk)] at h
    exact lt_irrefl 0 h
  have hmultiplier : 0 < multiplier := pos_of_mul_pos_right hunits (abs_nonneg _)
  have hnotional : 0 < price * multiplier := mul_pos hprice hmultiplier
  generalize hq : repriceQuantity quantity entry stop price multiplier wholeUnits = q at h ⊢
  unfold repriceQuantity at hq
  dsimp only at hq
  rw [if_neg (not_le.mpr hunits), if_pos hnotional] at hq
  generalize hexact :
      max (min (quantity * |entry - stop| * multiplier / (|price - stop| * multiplier))
        (quantity * entry * multiplier / (price * multiplier))) 0 = exact at hq
  -- whatever the last cut does, the size is at most the smaller of the two quotients
  have hle : q ≤ exact := by
    split_ifs at hq with hwhole hone
    · exact absurd h (by rw [← hq]; exact lt_irrefl 0)
    · rw [← hq]
      exact Int.floor_le exact
    · exact hq.ge
  have hmin : q ≤ min (quantity * |entry - stop| * multiplier / (|price - stop| * multiplier))
      (quantity * entry * multiplier / (price * multiplier)) := by
    rcases le_max_iff.mp (hle.trans hexact.ge) with hmin | hzero
    · exact hmin
    · exact absurd h (not_lt.mpr hzero)
  refine ⟨hunits, hnotional, ?_, ?_, fun hwhole => ?_⟩
  · exact (le_div_iff₀ hunits).mp (hmin.trans (min_le_left _ _))
  · exact (le_div_iff₀ hnotional).mp (hmin.trans (min_le_right _ _))
  · rw [if_pos hwhole] at hq
    split_ifs at hq with hone
    · exact absurd h (by rw [← hq]; exact lt_irrefl 0)
    · exact ⟨⌊exact⌋, hq.symm⟩

/-- The last cut adds at most the tolerance, and nothing to a whole number. -/
theorem floor_add_unitTolerance_le {x : ℚ} (n : ℤ) (hx : x ≤ n) :
    (⌊x + unitTolerance⌋ : ℚ) ≤ n := by
  have hfloor : ⌊x + unitTolerance⌋ < n + 1 := by
    rw [Int.floor_lt]
    unfold unitTolerance
    push_cast
    linarith
  exact_mod_cast Int.lt_add_one_iff.mp hfloor

/-- **A capped size** is within each cap up to the tolerance, and no larger than it was
where whole units were asked of a whole number. -/
theorem cappedReplacementQuantity_ok
    (h : cappedReplacementQuantity limits quantity price stop multiplier assetClass riskMultiplier
      = .ok capped) (hpos : 0 < capped) (hwhole : assetClass ≠ .crypto → Whole quantity)
    (hnotional : 0 < price * multiplier) (hrisk : 0 < |price - stop| * multiplier) :
    capped ≤ quantity
      ∧ capped ≤ (if assetClass = .futures then (limits.maxContractsPerTrade : ℚ)
        else limits.maxSharesPerTrade) + unitTolerance
      ∧ capped ≤ limits.maxTradeNotionalCap / (price * multiplier) + unitTolerance
      ∧ ∃ budget, perTradeRiskBudget limits none 0 riskMultiplier = .ok budget
        ∧ capped ≤ budget.dollars / (|price - stop| * multiplier) + unitTolerance := by
  unfold cappedReplacementQuantity at h
  dsimp only at h
  rw [if_pos hnotional, if_pos hrisk] at h
  obtain ⟨budget, hbudget, h⟩ := except_bind_eq_ok.mp h
  obtain ⟨byRisk, hbyRisk, h⟩ := except_bind_eq_ok.mp h
  cases hbyRisk
  rw [Except.ok.injEq] at h
  dsimp only [List.append, List.foldl, List.cons_append, List.nil_append] at h
  generalize hcount : (if assetClass = .futures then (limits.maxContractsPerTrade : ℚ)
    else limits.maxSharesPerTrade) = count at h ⊢
  generalize hleast : min (min (min quantity count) (limits.maxTradeNotionalCap
    / (price * multiplier))) (budget.dollars / (|price - stop| * multiplier)) = least at h
  have htolerance : 0 < unitTolerance := by
    unfold unitTolerance
    norm_num
  -- with a negative cap nothing would be left
  have hnonneg : 0 ≤ least := by
    by_contra hneg
    rw [max_eq_right (not_le.mp hneg).le, zero_add] at h
    have hzero : ⌊unitTolerance⌋ = 0 := by
      unfold unitTolerance
      norm_num [Int.floor_eq_iff]
    rw [hzero] at h
    split_ifs at h <;> simp_all
  rw [max_eq_left hnonneg] at h
  have hle : capped ≤ least + unitTolerance := by
    split_ifs at h
    · linarith
    · rw [← h]
      exact Int.floor_le _
  have hquantity : least ≤ quantity := by
    rw [← hleast]
    exact (min_le_left _ _).trans ((min_le_left _ _).trans (min_le_left _ _))
  refine ⟨?_, ?_, ?_, budget, hbudget, ?_⟩
  · split_ifs at h with hcrypto
    · exact h.ge.trans hquantity
    · obtain ⟨n, hn⟩ := hwhole hcrypto
      rw [← h, hn]
      exact floor_add_unitTolerance_le n (hn ▸ hquantity)
  · have hcap : least ≤ count := by
      rw [← hleast]
      exact (min_le_left _ _).trans ((min_le_left _ _).trans (min_le_right _ _))
    linarith
  · have hcap : least ≤ limits.maxTradeNotionalCap / (price * multiplier) := by
      rw [← hleast]
      exact (min_le_left _ _).trans (min_le_right _ _)
    linarith
  · have hcap : least ≤ budget.dollars / (|price - stop| * multiplier) := by
      rw [← hleast]
      exact min_le_right _ _
    linarith

end Cuts

/-- What a replacement that is built consists of. -/
theorem replacementCard_ok {limits : RiskLimits} {signalId : SignalId} {card : CardLevels}
    {price baseQuantity multiplier riskMultiplier : ℚ} {assetClass : AssetClass}
    {evaluationValid : Bool} {r : Replacement}
    (h : replacementCard limits signalId card price baseQuantity assetClass multiplier
      evaluationValid riskMultiplier = .ok (.inl r)) :
    0 < repriceQuantity baseQuantity card.entry card.stop price multiplier (assetClass ≠ .crypto)
      ∧ cappedReplacementQuantity limits (repriceQuantity baseQuantity card.entry card.stop price
          multiplier (assetClass ≠ .crypto)) price card.stop multiplier assetClass riskMultiplier
        = .ok r.quantity
      ∧ 0 < r.quantity
      ∧ r.riskDollars = round2 (|price - card.stop| * multiplier * r.quantity)
      ∧ r.notionalValue = round2 (price * multiplier * r.quantity)
      ∧ r.entryPrice = price ∧ r.stopLoss = card.stop ∧ r.takeProfit = card.target := by
  unfold replacementCard at h
  dsimp only at h
  by_cases hzero : repriceQuantity baseQuantity card.entry card.stop price multiplier
      (assetClass ≠ .crypto) ≤ 0
  · rw [if_pos hzero] at h
    cases h
  · rw [if_neg hzero] at h
    obtain ⟨quantity, hquantity, h⟩ := except_bind_eq_ok.mp h
    split_ifs at h with hcapped
    all_goals cases h
    exact ⟨not_le.mp hzero, hquantity, not_le.mp hcapped, rfl, rfl, rfl, rfl, rfl⟩

/-! ## The levels -/

section Levels

variable {card : CardLevels} {price minRewardRisk : ℚ}

/-- A price through neither level stands strictly between them. -/
theorem CardLevels.strictly_between (hstop : card.throughStop price = false)
    (htarget : card.throughTarget price = false) :
    if card.direction = .long then card.stop < price ∧ price < card.target
    else card.target < price ∧ price < card.stop := by
  unfold throughStop at hstop
  unfold throughTarget at htarget
  cases hdir : card.direction <;> simp_all

theorem Direction.abs_sign (d : Direction) : |(d.sign : ℚ)| = 1 := by
  cases d <;> simp [Direction.sign]

/-- There the distances are what is left of the reward and of the risk. -/
theorem CardLevels.reward_worth_risk (hstop : card.throughStop price = false)
    (htarget : card.throughTarget price = false)
    (h : meetsMinRewardRisk (card.rewardRemaining price) (card.remainingRisk price) minRewardRisk
      = true) :
    minRewardRisk ≤ round2 (|card.target - price| / |price - card.stop|) := by
  obtain ⟨hrisk, hreward⟩ := card.between_of_not_through hstop htarget
  have hrisk_eq : |price - card.stop| = card.remainingRisk price := by
    rw [← abs_of_pos hrisk]
    unfold remainingRisk
    rw [abs_mul, Direction.abs_sign, one_mul]
  have hreward_eq : |card.target - price| = card.rewardRemaining price := by
    rw [← abs_of_pos hreward]
    unfold rewardRemaining
    rw [abs_mul, Direction.abs_sign, one_mul]
  unfold meetsMinRewardRisk at h
  rw [if_neg (not_le.mpr hrisk)] at h
  rw [hrisk_eq, hreward_eq]
  exact of_decide_eq_true h

end Levels

/-! ## No more risk than was tapped -/

/-- **A re-priced card never risks more than the tapped one.** Its price stands between
the stop and the target, on the side of its direction, and its reward is worth its risk
there; its risk and its notional are within those of the tapped quantity, before and
after they are rounded; and its quantity passes the cap of shares or contracts, the cap of
notional and the budget of the regime by a billionth of a unit at most. -/
theorem replacement_risks_no_more (text : FreshnessText) (policy : CardFreshness)
    (limits : RiskLimits) (zone : Zone) (signalId : SignalId) (card : CardLevels)
    (issuedAt now : Time) (validUntil : Option Time) (validity : CardValidity)
    (sessionOpen evaluationValid : Bool) (gateReason : Option String) (latest : Option ℚ)
    (assetClass : AssetClass)
    (tickSize price baseQuantity multiplier riskMultiplier minRewardRisk : ℚ) (r : Replacement)
    (hprice : tapPrice latest tickSize = .ok (some price))
    (hassess : (assessCard text policy card zone issuedAt validUntil now price sessionOpen
      gateReason minRewardRisk validity).outcome = .reprice)
    (hcard : replacementCard limits signalId card price baseQuantity assetClass multiplier
      evaluationValid riskMultiplier = .ok (.inl r)) :
    (r.entryPrice = price ∧ r.stopLoss = card.stop ∧ r.takeProfit = card.target)
      ∧ (if card.direction = .long then card.stop < price ∧ price < card.target
        else card.target < price ∧ price < card.stop)
      ∧ minRewardRisk ≤ round2 (|card.target - price| / |price - card.stop|)
      ∧ (|price - card.stop| * multiplier * r.quantity
          ≤ |card.entry - card.stop| * multiplier * baseQuantity
        ∧ r.riskDollars ≤ round2 (|card.entry - card.stop| * multiplier * baseQuantity))
      ∧ (price * multiplier * r.quantity ≤ card.entry * multiplier * baseQuantity
        ∧ r.notionalValue ≤ round2 (card.entry * multiplier * baseQuantity))
      ∧ r.quantity ≤ (if assetClass = .futures then (limits.maxContractsPerTrade : ℚ)
          else limits.maxSharesPerTrade) + unitTolerance
      ∧ r.quantity ≤ limits.maxTradeNotionalCap / (price * multiplier) + unitTolerance
      ∧ ∃ budget, perTradeRiskBudget limits none 0 riskMultiplier = .ok budget
        ∧ r.quantity ≤ budget.dollars / (|price - card.stop| * multiplier) + unitTolerance := by
  obtain ⟨-, hstop, htarget, hreward⟩ := assessPrice_reprice (assessCard_reprice hassess)
  obtain ⟨hreprice, hcapped, hquantity, hrisk, hnotional, hlevels⟩ := replacementCard_ok hcard
  obtain ⟨hrisk_pos, hnotional_pos, hrisk_le, hnotional_le, hwhole⟩ :=
    repriceQuantity_pos (tapPrice_pos hprice) hreprice
  obtain ⟨hle, hcount, hcap, hbudget⟩ := cappedReplacementQuantity_ok hcapped hquantity
    (fun hcrypto => hwhole (by simpa using hcrypto)) hnotional_pos hrisk_pos
  have hrisk_exact : |price - card.stop| * multiplier * r.quantity
      ≤ |card.entry - card.stop| * multiplier * baseQuantity := by
    calc |price - card.stop| * multiplier * r.quantity
        ≤ |price - card.stop| * multiplier
          * repriceQuantity baseQuantity card.entry card.stop price multiplier
            (assetClass ≠ .crypto) := mul_le_mul_of_nonneg_left hle hrisk_pos.le
      _ ≤ |card.entry - card.stop| * multiplier * baseQuantity := by linarith
  have hnotional_exact : price * multiplier * r.quantity
      ≤ card.entry * multiplier * baseQuantity := by
    calc price * multiplier * r.quantity
        ≤ price * multiplier * repriceQuantity baseQuantity card.entry card.stop price multiplier
            (assetClass ≠ .crypto) := mul_le_mul_of_nonneg_left hle hnotional_pos.le
      _ ≤ card.entry * multiplier * baseQuantity := by linarith
  refine ⟨hlevels, CardLevels.strictly_between hstop htarget, ?_, ⟨hrisk_exact, ?_⟩,
    ⟨hnotional_exact, ?_⟩, hcount, hcap, hbudget⟩
  · exact CardLevels.reward_worth_risk hstop htarget hreward
  · rw [hrisk]
    exact round2_mono hrisk_exact
  · rw [hnotional]
    exact round2_mono hnotional_exact

/-! ### Ten shares that have moved a point -/

def repriceText : FreshnessText where
  fixed2 q := toString q
  signed2 q := toString q
  whole q := toString q
  wallClock t := toString t

def repricePolicy : CardFreshness := ⟨60, 1 / 4, 1 / 4⟩

/-- Caps that none of the ten shares reaches. -/
def repriceLimits : RiskLimits where
  cash := 47000
  drawdownGatingEnabled := true
  drawdownHaircutThresholdPct := 4 / 100
  maxDrawdownStopPct := 9 / 100
  drawdownMinRiskMultiplier := 1 / 5
  maxRiskPctCap := 1 / 94
  maxTradeNotionalCap := 23000
  maxSharesPerTrade := 700
  maxContractsPerTrade := 3
  maxStopRiskPct := 7 / 200
  maxNotionalExposure := 46000
  assetClassCaps := fun _ => none
  maxConcurrentPositions := 4
  maxCorrelatedPositions := 2
  correlationGroups := []
  minRiskRewardRatio := 2
  cash_nonneg := by norm_num
  maxRiskPctCap_nonneg := by norm_num
  maxTradeNotionalCap_nonneg := by norm_num
  maxStopRiskPct_nonneg := by norm_num
  maxNotionalExposure_nonneg := by norm_num
  assetClassCaps_nonneg := RiskLimits.uncapped

def repriceZone : Zone := ⟨(· - 4 * Zone.hour), (· + 4 * Zone.hour)⟩

/-- Ten shares bought at 100 with a stop at 95 are eight at 101: forty-eight dollars
instead of fifty. -/
theorem replacement_risks_no_more_sample :
    ∃ r, replacementCard repriceLimits 7 ⟨.long, 100, 95, 114⟩ 101 10 .equity 1 true 1
        = .ok (.inl r)
      ∧ r.quantity = 8
      ∧ r.riskDollars ≤ round2 (|100 - 95| * 1 * 10) := by
  have hprice : tapPrice (some (101003 / 1000)) (1 / 100) = .ok (some 101) := by decide +kernel
  have hassess : (assessCard repriceText repricePolicy ⟨.long, 100, 95, 114⟩ repriceZone 0
      none (10 * Zone.minute) 101 true none 2 .sessionClose).outcome = .reprice := by
    decide +kernel
  obtain ⟨r, hcard, hquantity⟩ : ∃ r, replacementCard repriceLimits 7 ⟨.long, 100, 95, 114⟩ 101 10
      .equity 1 true 1 = .ok (.inl r) ∧ r.quantity = 8 := by
    refine ⟨⟨.long, .equity, 101, 95, 114, 8, 48, 104, 808, 217 / 100, 2 / 100, 7⟩, ?_, rfl⟩
    decide +kernel
  have h := replacement_risks_no_more repriceText repricePolicy repriceLimits repriceZone 7
    ⟨.long, 100, 95, 114⟩ 0 (10 * Zone.minute) none .sessionClose true true none
    (some (101003 / 1000)) .equity (1 / 100) 101 10 1 1 2 r hprice hassess hcard
  exact ⟨r, hcard, hquantity, h.2.2.2.1.2⟩

end AgenticTrader
