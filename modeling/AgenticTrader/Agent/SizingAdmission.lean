import AgenticTrader.Agent.Evaluation
import AgenticTrader.Agent.Tiers

/-!
# The sizes of a card and the rules of admission

Sizing and admission read the same budget and the same caps, in different modules. The
largest size that `calculate_dynamic_sizing` finds is the largest whole quantity within
the count, the risk and the notional, so no tier asks for more than the rules of one trade
grant. Two things keep a tier from admission all the same. A fractional minimum of shares
becomes the base size as it is, where the base budget does not reach it. And what is
neither an equity nor a future is sized by the cap of contracts, while the rule of the
quantity counts it as shares.

Scaling a card takes the headline from the default tier, which is larger than a headline
whose stop was tightened after the tiers were built.
-/

namespace AgenticTrader

open Checks

namespace SizingDesk

variable {desk : SizingDesk} {r : SizingRequest} {budget : RiskBudget}

/-! ## Whole sizes -/

/-- From a positive minimum on the largest size is one or more. -/
theorem top_eq_maxQty (hshares : 0 < desk.sizing.minShares)
    (hcontracts : 1 ≤ desk.sizing.minContracts) (hopen : desk.blocked r budget = false) :
    max 1 (r.maxQty desk.limits budget) = r.maxQty desk.limits budget := by
  have hminimum := minimum_le_maxQty hopen
  obtain ⟨m, hm⟩ := r.exists_maxQty desk.limits budget
  have hpos : 0 < r.minimum desk.sizing := by
    unfold SizingRequest.minimum
    split_ifs
    · exact hshares
    · exact_mod_cast hcontracts
  rw [hm] at hminimum ⊢
  have hone : 1 ≤ m := by
    have : (0 : ℚ) < m := hpos.trans_le hminimum
    exact_mod_cast this
  exact max_eq_right (by exact_mod_cast hone)

variable (desk r budget) in
/-- The base budget buys a whole quantity from the minimum of shares on. -/
def BaseBuysMinimum : Prop :=
  ∃ n : ℕ, desk.sizing.minShares ≤ n
    ∧ n * r.perUnitRisk
      ≤ desk.baseRiskBudget r budget * (budget.drawdownFactor * budget.macroFactor)

theorem baseBuysMinimum_iff (hshares : 0 < desk.sizing.minShares) :
    desk.BaseBuysMinimum r budget
      ↔ desk.sizing.minShares ≤ truncate (desk.rawBaseQty r budget) := by
  have hraw : ∀ n : ℕ, n * r.perUnitRisk
      ≤ desk.baseRiskBudget r budget * (budget.drawdownFactor * budget.macroFactor)
      ↔ (n : ℚ) ≤ desk.rawBaseQty r budget := by
    intro n
    unfold rawBaseQty
    rw [le_div_iff₀ r.perUnitRisk_pos]
  constructor
  · rintro ⟨n, hn, hle⟩
    have hone : 1 ≤ n := by
      have : (0 : ℚ) < n := hshares.trans_le hn
      exact_mod_cast this
    have hle' := (natCast_le_truncate hone).mpr ((hraw n).mp hle)
    exact hn.trans (by exact_mod_cast hle')
  · intro h
    have hpos : 0 < truncate (desk.rawBaseQty r budget) := by
      have : (0 : ℚ) < truncate (desk.rawBaseQty r budget) := hshares.trans_le h
      exact_mod_cast this
    obtain ⟨n, hn⟩ := Int.eq_ofNat_of_zero_le hpos.le
    refine ⟨n, ?_, (hraw n).mpr ((natCast_le_truncate (by omega)).mp hn.ge)⟩
    rw [hn] at h
    exact_mod_cast h

/-- **The base size of shares is whole** where the minimum is at most one or whole, or where
the base budget buys the minimum. -/
theorem whole_baseQty_iff (hequity : r.assetClass = .equity) (hshares : 0 < desk.sizing.minShares)
    (hopen : desk.blocked r budget = false) :
    Whole (desk.baseQty r budget)
      ↔ desk.sizing.minShares ≤ 1 ∨ Whole desk.sizing.minShares
        ∨ desk.BaseBuysMinimum r budget := by
  obtain ⟨m, hm⟩ := r.exists_maxQty desk.limits budget
  unfold blocked at hopen
  rw [decide_eq_false_iff_not, not_or, not_lt, hm] at hopen
  obtain ⟨-, hminimum⟩ := hopen
  unfold SizingRequest.minimum at hminimum
  rw [if_pos hequity] at hminimum
  rw [baseBuysMinimum_iff hshares]
  unfold baseQty
  dsimp only
  rw [if_pos hequity, hm]
  generalize truncate (desk.rawBaseQty r budget) = k
  generalize desk.sizing.minShares = low at hshares hminimum ⊢
  have hmin_cast : min (m : ℚ) (k : ℚ) = (min m k : ℤ) := by push_cast; rfl
  rcases le_or_gt low k with hk | hk
  · refine iff_of_true ?_ (Or.inr (Or.inr hk))
    rw [max_eq_right (le_min hminimum hk), hmin_cast]
    exact ⟨max 1 (min m k), by push_cast; rfl⟩
  · have hlow : max low (min (m : ℚ) k) = low := max_eq_left ((min_le_right _ _).trans hk.le)
    rw [hlow]
    rcases le_or_gt low 1 with hsmall | hbig
    · refine iff_of_true ?_ (Or.inl hsmall)
      rw [max_eq_left hsmall]
      exact ⟨1, by norm_num⟩
    · rw [max_eq_right hbig.le]
      constructor
      · exact fun h => Or.inr (Or.inl h)
      · rintro (h | h | h)
        · exact absurd h (not_le.mpr hbig)
        · exact h
        · exact absurd h (not_le.mpr hk)

/-! ## What admission asks of a tier -/

/-- **A tier that fits admission**: a positive whole quantity within every cap of one trade,
which the rules accept on an intent with the same inputs. -/
structure TierFits (limits : RiskLimits) (r : SizingRequest) (budget : RiskBudget)
    (tier : SizingTier) : Prop where
  whole : ∃ n : ℕ, 0 < n ∧ tier.quantity = n
  risk : tier.quantity * r.stopDistance * r.multiplier ≤ budget.dollars
  riskCap : ∀ cap ∈ r.riskDollarsCap, tier.quantity * r.stopDistance * r.multiplier ≤ cap
  tradeNotional : tier.quantity * r.entry * r.multiplier ≤ limits.maxTradeNotionalCap
  remainingNotional : tier.quantity * r.entry * r.multiplier ≤ r.remainingNotional limits
  count : tier.quantity ≤ r.countCap limits
  rules : ∀ intent : EntryIntent, intent.quantity = tier.quantity →
    intent.assetClass = r.assetClass → intent.entry = r.entry → intent.multiplier = r.multiplier →
    intent.riskDistance = r.stopDistance → intent.currentPrice = none →
      perTradeRisk intent budget = none ∧ perTradeNotional intent limits = none
        ∧ quantityCap intent limits = none

/-- The bounds in the units of the sizing give those in the units of the rules. -/
theorem amounts_of_bounds {limits : RiskLimits} {q : ℚ} (hq : 0 < q)
    (hle : q ≤ r.maxQty limits budget) :
    q * r.stopDistance * r.multiplier ≤ budget.dollars
      ∧ (∀ cap ∈ r.riskDollarsCap, q * r.stopDistance * r.multiplier ≤ cap)
      ∧ q * r.entry * r.multiplier ≤ limits.maxTradeNotionalCap
      ∧ q * r.entry * r.multiplier ≤ r.remainingNotional limits
      ∧ q ≤ r.countCap limits ∧ 0 < budget.dollars := by
  obtain ⟨hcount, hrisk, hnotional⟩ := r.of_le_maxQty limits budget hq hle
  have hunit_risk : q * r.stopDistance * r.multiplier ≤ r.maxRiskDollars budget := by
    calc q * r.stopDistance * r.multiplier = q * (r.stopDistance * r.multiplier) := by ring
      _ ≤ q * r.perUnitRisk := mul_le_mul_of_nonneg_left (le_max_left _ _) hq.le
      _ ≤ r.maxRiskDollars budget := hrisk
  have hunit_notional : q * r.entry * r.multiplier ≤ r.notionalCeiling limits := by
    calc q * r.entry * r.multiplier = q * (r.entry * r.multiplier) := by ring
      _ ≤ q * r.unitNotional := mul_le_mul_of_nonneg_left (le_max_left _ _) hq.le
      _ ≤ r.notionalCeiling limits := hnotional
  obtain ⟨hbudget, hcap⟩ := r.maxRiskDollars_le budget
  refine ⟨hunit_risk.trans hbudget, fun cap hmem => hunit_risk.trans (hcap cap hmem),
    hunit_notional.trans (min_le_left _ _), hunit_notional.trans (min_le_right _ _), hcount, ?_⟩
  calc (0 : ℚ) < q * r.perUnitRisk := mul_pos hq r.perUnitRisk_pos
    _ ≤ r.maxRiskDollars budget := hrisk
    _ ≤ budget.dollars := hbudget

/-- The two rules of dollars accept such a quantity. -/
theorem dollar_rules_of_bounds {limits : RiskLimits} {q : ℚ} (hq : 0 < q)
    (hle : q ≤ r.maxQty limits budget) {intent : EntryIntent} (hquantity : intent.quantity = q)
    (hentry : intent.entry = r.entry) (hmultiplier : intent.multiplier = r.multiplier)
    (hdistance : intent.riskDistance = r.stopDistance) (hprice : intent.currentPrice = none) :
    perTradeRisk intent budget = none ∧ perTradeNotional intent limits = none := by
  obtain ⟨hrisk, -, hnotional, -, -, hpos⟩ := amounts_of_bounds hq hle
  constructor
  · refine refuseIf_eq_none.mpr (not_lt.mpr ?_)
    unfold EntryIntent.riskDollars
    rw [hquantity, hmultiplier, hdistance]
    rcases le_total r.stopDistance 0 with hneg | hnonneg
    · rw [max_eq_right hneg, zero_mul, zero_mul]
      exact hpos.le
    · rw [max_eq_left hnonneg, mul_comm r.stopDistance q]
      exact hrisk
  · refine refuseIf_eq_none.mpr (not_lt.mpr ?_)
    unfold EntryIntent.notional EntryIntent.exposurePrice
    rw [hquantity, hmultiplier, hprice]
    dsimp only
    rw [hentry, mul_comm r.entry q]
    exact hnotional

/-- An intent with the inputs of a request, where its price and multiplier are positive. -/
theorem exists_intent {q : ℚ} (hq : 0 < q) (hentry : 0 < r.entry) (hmultiplier : 0 < r.multiplier) :
    ∃ intent : EntryIntent, intent.quantity = q ∧ intent.assetClass = r.assetClass
      ∧ intent.entry = r.entry ∧ intent.multiplier = r.multiplier
      ∧ intent.riskDistance = r.stopDistance ∧ intent.currentPrice = none := by
  rcases le_total 0 r.stopDistance with hdistance | hdistance
  · refine ⟨⟨"", .short, r.assetClass, q, r.entry, r.entry + r.stopDistance, r.entry, r.multiplier,
      none, hq, hentry, by linarith, hentry, hmultiplier, by simp⟩, rfl, rfl, rfl, rfl, ?_, rfl⟩
    simp [EntryIntent.riskDistance, EntryIntent.sign]
  · refine ⟨⟨"", .long, r.assetClass, q, r.entry, r.entry - r.stopDistance, r.entry, r.multiplier,
      none, hq, hentry, by linarith, hentry, hmultiplier, by simp⟩, rfl, rfl, rfl, rfl, ?_, rfl⟩
    simp [EntryIntent.riskDistance, EntryIntent.sign]

/-- The rule of the quantity accepts an intent. -/
theorem quantityCap_eq_none {limits : RiskLimits} {intent : EntryIntent} :
    quantityCap intent limits = none
      ↔ intent.quantity ≤ (if intent.assetClass = .futures then (limits.maxContractsPerTrade : ℚ)
        else limits.maxSharesPerTrade) := by
  unfold quantityCap
  dsimp only
  rw [refuseIf_eq_none, not_lt]
  split_ifs <;> rfl

/-- **The cap of shares covers contracts that the rule counts as shares**: those of neither
an equity nor a future. -/
def SharesCover (limits : RiskLimits) (r : SizingRequest) (q : ℚ) : Prop :=
  r.assetClass ≠ .equity → r.assetClass ≠ .futures → 0 < r.entry → 0 < r.multiplier →
    q ≤ limits.maxSharesPerTrade

/-- **A tier between nothing and the largest size fits admission** exactly when it is whole
and the cap of shares covers it. -/
theorem tierFits_iff {limits : RiskLimits} {tier : SizingTier} (hq : 0 < tier.quantity)
    (hle : tier.quantity ≤ r.maxQty limits budget) :
    TierFits limits r budget tier
      ↔ Whole tier.quantity ∧ SharesCover limits r tier.quantity := by
  constructor
  · intro h
    constructor
    · obtain ⟨n, -, hn⟩ := h.whole
      exact ⟨n, by rw [hn]; norm_num⟩
    · intro hequity hfutures hentry hmultiplier
      obtain ⟨intent, hquantity, hclass, hentry', hmultiplier', hdistance, hprice⟩ :=
        exists_intent hq hentry hmultiplier
      have hrule := (h.rules intent hquantity hclass hentry' hmultiplier' hdistance hprice).2.2
      rw [quantityCap_eq_none, hclass, if_neg hfutures, hquantity] at hrule
      exact hrule
  · rintro ⟨⟨k, hk⟩, hcover⟩
    obtain ⟨hrisk, hcap, hnotional, hremaining, hcount, -⟩ := amounts_of_bounds hq hle
    have hkpos : 0 < k := by
      rw [hk] at hq
      exact_mod_cast hq
    refine ⟨⟨k.toNat, by omega, ?_⟩, hrisk, hcap, hnotional, hremaining, hcount, ?_⟩
    · rw [hk, ← Int.cast_natCast, Int.toNat_of_nonneg hkpos.le]
    · intro intent hquantity hclass hentry hmultiplier hdistance hprice
      obtain ⟨hrisk', hnotional'⟩ :=
        dollar_rules_of_bounds hq hle hquantity hentry hmultiplier hdistance hprice
      refine ⟨hrisk', hnotional', ?_⟩
      rw [quantityCap_eq_none, hquantity, hclass]
      unfold SizingRequest.countCap at hcount
      by_cases hequity : r.assetClass = .equity
      · rw [if_pos hequity] at hcount
        rw [hequity, if_neg (by decide)]
        exact hcount
      · rw [if_neg hequity] at hcount
        split_ifs with hfutures
        · exact hcount
        · exact hcover hequity hfutures (hentry ▸ intent.entry_pos)
            (hmultiplier ▸ intent.multiplier_pos)

/-- **What is asked of a sizing**: it offers nothing, or tiers of which one is the default and
each fits admission. -/
def SizingFits (limits : RiskLimits) (r : SizingRequest) (budget : RiskBudget)
    (sizing : PositionSizing) : Prop :=
  sizing.tiers = [blockedTier]
    ∨ (sizing.tiers.filter SizingTier.isDefault).length = 1
      ∧ ∀ tier ∈ sizing.tiers, TierFits limits r budget tier

theorem filter_map_buildTier (plans : List TierPlan) :
    ((plans.map (buildTier r budget)).filter SizingTier.isDefault).length
      = (plans.filter TierPlan.isDefault).length := by
  rw [List.filter_map, List.length_map]
  rfl

/-- **The tiers that are offered fit** exactly when the base size of shares is whole and the
cap of shares covers the largest size. -/
theorem offered_fits_iff (hshares : 0 < desk.sizing.minShares)
    (hcontracts : 1 ≤ desk.sizing.minContracts) (hopen : desk.blocked r budget = false) :
    SizingFits desk.limits r budget (desk.offeredSizing r budget)
      ↔ (r.assetClass = .equity → Whole (desk.baseQty r budget))
        ∧ SharesCover desk.limits r (r.maxQty desk.limits budget) := by
  have hplans := tierPlans_plans hopen
  rw [top_eq_maxQty hshares hcontracts hopen] at hplans
  have htiers : (desk.offeredSizing r budget).tiers
      = (desk.tierPlans r budget).map (buildTier r budget) := rfl
  have hfits : ∀ plan ∈ desk.tierPlans r budget,
      (TierFits desk.limits r budget (buildTier r budget plan)
        ↔ Whole plan.quantity ∧ SharesCover desk.limits r plan.quantity) := fun plan hplan =>
    tierFits_iff (hplans.bounds plan hplan).1 (hplans.bounds plan hplan).2
  unfold SizingFits
  rw [htiers, filter_map_buildTier]
  constructor
  · rintro (hblocked | ⟨-, h⟩)
    · -- the tiers are positive, the one that offers nothing is not
      obtain ⟨plan, hplan, -⟩ := hplans.largest
      have hmem : buildTier r budget plan ∈ [blockedTier] :=
        hblocked ▸ List.mem_map_of_mem hplan
      have hpos := (hplans.bounds plan hplan).1
      have hzero : plan.quantity = 0 :=
        congrArg SizingTier.quantity (List.mem_singleton.mp hmem)
      exact absurd hzero hpos.ne'
    · rw [List.forall_mem_map] at h
      constructor
      · intro hequity
        obtain ⟨plan, hplan, hquantity⟩ := hplans.base hequity
        rw [← hquantity]
        exact ((hfits plan hplan).mp (h plan hplan)).1
      · obtain ⟨plan, hplan, hquantity⟩ := hplans.largest
        rw [← hquantity]
        exact ((hfits plan hplan).mp (h plan hplan)).2
  · rintro ⟨hwhole, hcover⟩
    refine Or.inr ⟨hplans.one_default, ?_⟩
    rw [List.forall_mem_map]
    intro plan hplan
    refine (hfits plan hplan).mpr ⟨hplans.whole hwhole plan hplan, ?_⟩
    intro hequity hfutures hentry hmultiplier
    exact (hplans.bounds plan hplan).2.trans (hcover hequity hfutures hentry hmultiplier)

/-- **The sizes can all be admitted.** Of shares: the minimum is at most one or whole, or no
whole quantity from it on is permissible, or the base budget buys one. Of the classes
that are sized by the cap of contracts and admitted by the cap of shares: every
permissible quantity is within the latter. -/
def SizesAdmissible (desk : SizingDesk) (r : SizingRequest) : Prop :=
  ∀ budget, r.budget desk.limits = .ok budget → (∀ cap ∈ r.riskDollarsCap, 0 < cap) →
    (r.assetClass = .equity → desk.sizing.minShares ≤ 1 ∨ Whole desk.sizing.minShares
      ∨ (∀ n : ℕ, desk.sizing.minShares ≤ n → ¬ r.Permissible desk.limits budget n)
      ∨ desk.BaseBuysMinimum r budget)
    ∧ ∀ n : ℕ, (desk.sizing.minContracts : ℚ) ≤ n → r.Permissible desk.limits budget n →
      SharesCover desk.limits r n

/-- For one budget, what is asked of the sizing is what the condition says. -/
theorem fits_iff_of_budget (hshares : 0 < desk.sizing.minShares)
    (hcontracts : 1 ≤ desk.sizing.minContracts) (hbudget : r.budget desk.limits = .ok budget) :
    SizingFits desk.limits r budget (if desk.blocked r budget then desk.blockedSizing r budget
        else desk.offeredSizing r budget)
      ↔ (r.assetClass = .equity → desk.sizing.minShares ≤ 1 ∨ Whole desk.sizing.minShares
          ∨ (∀ n : ℕ, desk.sizing.minShares ≤ n → ¬ r.Permissible desk.limits budget n)
          ∨ desk.BaseBuysMinimum r budget)
        ∧ ∀ n : ℕ, (desk.sizing.minContracts : ℚ) ≤ n → r.Permissible desk.limits budget n →
          SharesCover desk.limits r n := by
  have hminimum : 0 < r.minimum desk.sizing := by
    unfold SizingRequest.minimum
    split_ifs
    · exact hshares
    · exact_mod_cast hcontracts
  have hblocked := blocked_iff hbudget hminimum
  unfold SizingRequest.minimum at hblocked
  cases hopen : desk.blocked r budget with
  | true =>
    rw [if_pos rfl]
    rw [hopen] at hblocked
    have hnone := hblocked.mp rfl
    refine iff_of_true (Or.inl rfl) ⟨fun hequity => ?_, fun n hn hpermissible hequity => ?_⟩
    · rw [if_pos hequity] at hnone
      exact Or.inr (Or.inr (Or.inl hnone))
    · rw [if_neg hequity] at hnone
      exact absurd hpermissible (hnone n hn)
  | false =>
    rw [if_neg (by simp), offered_fits_iff hshares hcontracts hopen]
    rw [hopen] at hblocked
    refine and_congr (forall_congr' (fun hequity => ?_)) ?_
    · rw [whole_baseQty_iff hequity hshares hopen]
      rw [if_pos hequity] at hblocked
      have hsome : ¬ ∀ n : ℕ, desk.sizing.minShares ≤ n → ¬ r.Permissible desk.limits budget n :=
        fun h => Bool.false_ne_true (hblocked.mpr h)
      rw [or_iff_right_of_imp (fun h => absurd h hsome)]
    · obtain ⟨m, hm⟩ := r.exists_maxQty desk.limits budget
      constructor
      · intro hcover n hn hpermissible hequity hfutures hentry hmultiplier
        have hone : 1 ≤ n := by
          have : (1 : ℚ) ≤ n := le_trans (by exact_mod_cast hcontracts) hn
          exact_mod_cast this
        exact ((r.natCast_le_maxQty desk.limits budget hone).mpr hpermissible).trans
          (hcover hequity hfutures hentry hmultiplier)
      · intro hcover hequity hfutures hentry hmultiplier
        unfold blocked SizingRequest.minimum at hopen
        rw [decide_eq_false_iff_not, not_or, not_lt, if_neg hequity, hm] at hopen
        have hone : 1 ≤ m := by
          have : (1 : ℚ) ≤ m := le_trans (by exact_mod_cast hcontracts) hopen.2
          exact_mod_cast this
        rw [hm]
        exact hcover m hopen.2 ((r.natCast_le_maxQty desk.limits budget hone).mp hm.ge) hequity
          hfutures hentry hmultiplier

end SizingDesk

/-- **Every size offered on a card fits admission, and scaling only shrinks it**, each under
exactly its condition: the sizes can all be admitted, and the headline covers the default
tier. -/
theorem card_sizes_fit_iff (desk : SizingDesk) (hshares : 0 < desk.sizing.minShares)
    (hcontracts : 1 ≤ desk.sizing.minContracts) (r : SizingRequest) (e : TradeEvaluation)
    (hsized : e.Sized) (minUnits portfolioCash : ℚ) :
    ((∀ budget sizing, r.budget desk.limits = .ok budget →
        desk.calculateDynamicSizing r = .ok sizing →
        SizingDesk.SizingFits desk.limits r budget sizing)
      ↔ desk.SizesAdmissible r)
    ∧ ((∀ factor, 0 ≤ factor → factor ≤ 1 → ∀ scaled,
        e.scaleSizing factor minUnits portfolioCash = .ok (some scaled) → scaled.ShrunkFrom e)
      ↔ e.HeadlineCovers minUnits) := by
  refine ⟨?_, TradeEvaluation.scaleSizing_shrinks_iff hsized minUnits portfolioCash⟩
  unfold SizingDesk.SizesAdmissible
  constructor
  · intro h budget hbudget hcap
    refine (SizingDesk.fits_iff_of_budget hshares hcontracts hbudget).mp (h budget _ hbudget ?_)
    exact SizingDesk.calculateDynamicSizing_eq_ok.mpr ⟨budget, hbudget, hcap, rfl⟩
  · intro h budget sizing hbudget hsizing
    obtain ⟨budget', hbudget', hcap, rfl⟩ := SizingDesk.calculateDynamicSizing_eq_ok.mp hsizing
    rw [hbudget] at hbudget'
    cases hbudget'
    exact (SizingDesk.fits_iff_of_budget hshares hcontracts hbudget).mpr (h budget hbudget hcap)

/-! ## A desk -/

theorem sizingCash_nonneg : (0 : ℚ) ≤ 100000 := by norm_num

theorem sizingPct_nonneg : (0 : ℚ) ≤ 1 / 100 := by norm_num

theorem sizingNotional_nonneg : (0 : ℚ) ≤ 30000 := by norm_num

/-- Limits of a desk with a hundred thousand in cash. -/
def sizingLimits : RiskLimits where
  cash := 100000
  drawdownGatingEnabled := true
  drawdownHaircutThresholdPct := 5 / 100
  maxDrawdownStopPct := 10 / 100
  drawdownMinRiskMultiplier := 1 / 4
  maxRiskPctCap := 1 / 100
  maxTradeNotionalCap := 30000
  maxSharesPerTrade := 500
  maxContractsPerTrade := 5
  maxStopRiskPct := 6 / 100
  maxNotionalExposure := 90000
  assetClassCaps := fun _ => none
  maxConcurrentPositions := 5
  maxCorrelatedPositions := 2
  correlationGroups := []
  minRiskRewardRatio := 2
  cash_nonneg := sizingCash_nonneg
  maxRiskPctCap_nonneg := sizingPct_nonneg
  maxTradeNotionalCap_nonneg := sizingNotional_nonneg
  maxStopRiskPct_nonneg := by norm_num
  maxNotionalExposure_nonneg := by norm_num
  assetClassCaps_nonneg := RiskLimits.uncapped

/-- A desk that sizes shares by 250 dollars, from a minimum of shares on. -/
def sizingDesk (minShares : ℚ) : SizingDesk where
  limits := sizingLimits
  sizing := ⟨.static, 1 / 200, 400, 250, 1, minShares⟩
  text := ⟨toString, toString, toString, toString⟩

/-- A share at 1000 with a stop 200 away. -/
def sizingRequest : SizingRequest where
  entry := 1000
  stopDistance := 200
  targetDistance := 400
  multiplier := 1
  assetClass := .equity
  contractInfo := none
  probe := false
  currentOpenNotional := 0
  currentDrawdownPct := 0
  macroRiskMultiplier := 1
  currentEquity := none
  riskDollarsCap := none

/-- Forty shares at 100, whose default tier was sized at a stop 6.10 away. -/
def sizedCard (risk : ℚ) : TradeEvaluation where
  approved := true
  rejectionReason := none
  rejectionRule := none
  contract := "SPY"
  direction := .long
  entryPrice := 100
  stopLoss := 100 - risk / 40
  takeProfit := 1122 / 10
  stopDistancePoints := risk / 40
  targetDistancePoints := 122 / 10
  riskRewardRatio := 2
  riskDollars := risk
  rewardDollars := 488
  notionalValue := 4000
  effectiveLeverage := 4 / 100
  macroClearance := true
  thesisSummary := ""
  quantity := 40
  assetClass := .equity
  sizingTiers := some [⟨.base, "Standard (1.0x)", 40, 244, 488, 4000, 4 / 100, true⟩]
  gatingReasons := none
  sessionType := "RTH"
  earningsNote := none
  macroNote := none
  corporateActions := none
  filings := none
  newsContext := none
  llmVerdict := none
  ratio_ge_two := TradeEvaluation.two_le_two

/-- From a minimum of two shares and a half, that many are offered. And a card whose stop
was tightened to 5 away risks 200 dollars; scaled to 39 shares it risks 237.90. -/
theorem sizes_do_not_all_fit :
    (∃ budget sizing, sizingRequest.budget sizingLimits = .ok budget
      ∧ (sizingDesk (5 / 2)).calculateDynamicSizing sizingRequest = .ok sizing
      ∧ ¬ SizingDesk.SizingFits sizingLimits sizingRequest budget sizing)
    ∧ ∃ scaled, (sizedCard 200).scaleSizing (99 / 100) 1 100000 = .ok (some scaled)
      ∧ (sizedCard 200).riskDollars < scaled.riskDollars := by
  constructor
  · have hbudget : sizingRequest.budget sizingLimits = .ok ⟨100000, 0, 1, 1, 1000⟩ := by
      simp [SizingRequest.budget, perTradeRiskBudget, riskCapital, drawdownRiskFactor,
        macroRiskFactor, macroFactorFloor, sizingRequest, sizingLimits, bind, Except.bind]
      norm_num
    have hopen : (sizingDesk (5 / 2)).blocked sizingRequest ⟨100000, 0, 1, 1, 1000⟩ = false := by
      decide +kernel
    have hplans : ((sizingDesk (5 / 2)).tierPlans sizingRequest ⟨100000, 0, 1, 1, 1000⟩).map
        SizingDesk.TierPlan.quantity = [1, 5 / 2, 5] := by
      decide +kernel
    refine ⟨_, _, hbudget, SizingDesk.calculateDynamicSizing_eq_ok.mpr
      ⟨_, hbudget, by simp [sizingRequest], rfl⟩, ?_⟩
    rw [hopen, if_neg Bool.false_ne_true]
    have hmem : (5 / 2 : ℚ) ∈ ((sizingDesk (5 / 2)).tierPlans sizingRequest
        ⟨100000, 0, 1, 1, 1000⟩).map SizingDesk.TierPlan.quantity := by
      rw [hplans]
      simp
    obtain ⟨plan, hplan, hquantity⟩ := List.mem_map.mp hmem
    have htier := List.mem_map_of_mem (f := SizingDesk.buildTier sizingRequest
      ⟨100000, 0, 1, 1, 1000⟩) hplan
    rintro (hblocked | ⟨-, hfits⟩)
    · have hnone : SizingDesk.buildTier sizingRequest ⟨100000, 0, 1, 1, 1000⟩ plan
          ∈ [SizingDesk.blockedTier] := hblocked ▸ htier
      have hzero : plan.quantity = 0 :=
        congrArg SizingTier.quantity (List.mem_singleton.mp hnone)
      rw [hquantity] at hzero
      norm_num at hzero
    · obtain ⟨n, -, hn⟩ := (hfits _ htier).whole
      have hhalf : (5 / 2 : ℚ) = n := hquantity ▸ hn
      have hfive : (5 : ℚ) = (2 * n : ℕ) := by
        push_cast
        linarith
      have : (5 : ℕ) = 2 * n := by exact_mod_cast hfive
      omega
  · have hscaled : TradeEvaluation.scaledTier (99 / 100) 1 100000
        ⟨.base, "Standard (1.0x)", 40, 244, 488, 4000, 4 / 100, true⟩
        = some ⟨.base, "Standard (1.0x)", 39, 2379 / 10, 4758 / 10, 3900, 4 / 100, true⟩ := by
      decide +kernel
    refine ⟨_, TradeEvaluation.scaleSizing_default rfl (by norm_num) (by norm_num) rfl hscaled, ?_⟩
    norm_num [sizedCard, TradeEvaluation.withHeadline]

/-- From a minimum of one share the sizes fit, and a card sized at its own stop is scaled
to less. -/
theorem card_sizes_fit_sample :
    (∀ budget sizing, sizingRequest.budget sizingLimits = .ok budget →
        (sizingDesk 1).calculateDynamicSizing sizingRequest = .ok sizing →
        SizingDesk.SizingFits sizingLimits sizingRequest budget sizing)
    ∧ ∀ factor, 0 ≤ factor → factor ≤ 1 → ∀ scaled,
        (sizedCard 244).scaleSizing factor 1 100000 = .ok (some scaled) →
        scaled.ShrunkFrom (sizedCard 244) := by
  have hsized : (sizedCard 244).Sized := by
    refine ⟨?_, by decide, by decide +kernel, by decide +kernel, ⟨24400, ?_⟩, ⟨400000, ?_⟩⟩
    · rintro t (_ | ⟨_, h⟩)
      · exact ⟨by norm_num, by norm_num, by norm_num, ⟨24400, by norm_num⟩,
          ⟨400000, by norm_num⟩⟩
      · cases h
    · norm_num [sizedCard]
    · norm_num [sizedCard]
  have h := card_sizes_fit_iff (sizingDesk 1) one_pos le_rfl sizingRequest (sizedCard 244) hsized
    1 100000
  refine ⟨h.1.mpr (fun budget _ _ => ⟨fun _ => Or.inl le_rfl, ?_⟩), h.2.mpr ?_⟩
  · intro n _ _ hequity
    exact absurd rfl hequity
  · rintro - t (_ | ⟨_, h⟩) -
    · right
      decide +kernel
    · cases h

end AgenticTrader
