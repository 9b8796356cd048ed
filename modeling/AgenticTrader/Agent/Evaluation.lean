import AgenticTrader.Accounting.Ledger
import AgenticTrader.Agent.PositionSizing
import AgenticTrader.Library.Table
import Mathlib.Data.List.Sort

/-!
# The evaluation of a card

`LLMTradeEvaluation` (`agent/evaluator.py`) is what an evaluation returns, approved or
not; it cannot be built with a reward/risk ratio below two. `scale_sizing`
(`agent/position_sizing.py`) scales its sizes to the volatility of the book.
-/

namespace AgenticTrader

/-- **`LLMTradeEvaluation`.** The ratio is checked where one is built; a copy with other
sizes keeps it. -/
structure TradeEvaluation where
  approved : Bool
  rejectionReason : Option String
  rejectionRule : Option String
  contract : String
  direction : Direction
  entryPrice : ℚ
  stopLoss : ℚ
  takeProfit : ℚ
  stopDistancePoints : ℚ
  targetDistancePoints : ℚ
  riskRewardRatio : ℚ
  riskDollars : ℚ
  rewardDollars : ℚ
  notionalValue : ℚ
  effectiveLeverage : ℚ
  macroClearance : Bool
  thesisSummary : String
  quantity : ℚ
  assetClass : AssetClass
  sizingTiers : Option (List SizingTier)
  gatingReasons : Option (List String)
  sessionType : String
  earningsNote : Option String
  macroNote : Option String
  corporateActions : Option Json
  filings : Option Json
  newsContext : Option Json
  llmVerdict : Option Json
  ratio_ge_two : 2 ≤ riskRewardRatio

namespace TradeEvaluation

/-- The smallest ratio that a card can have. -/
theorem two_le_two : (2 : ℚ) ≤ 2 := le_rfl

variable (e : TradeEvaluation)

/-- The tiers that are offered, none where there is no list. -/
def tiers : List SizingTier := e.sizingTiers.getD []

/-! ## Scaling -/

/-- **`scaled_tier`**: whole units, and the dollars in proportion. -/
def scaledTier (factor minUnits portfolioCash : ℚ) (tier : SizingTier) : Option SizingTier :=
  let qty : ℚ := ⌊tier.quantity * factor⌋
  if qty < minUnits ∨ tier.quantity ≤ 0 then none
  else
    let ratio := qty / tier.quantity
    let notional := round2 (tier.notionalDollars * ratio)
    some { tier with
      quantity := qty
      riskDollars := round2 (tier.riskDollars * ratio)
      rewardDollars := round2 (tier.rewardDollars * ratio)
      notionalDollars := notional
      effectiveLeverage := round2 (notional / portfolioCash) }

/-- `by_quantity`: one tier for each quantity, the default where there is one. -/
def keepTier (kept : List SizingTier) (scaled : SizingTier) : List SizingTier :=
  match kept.find? (fun t => t.quantity = scaled.quantity) with
  | none => kept ++ [scaled]
  | some existing =>
    if scaled.isDefault ∧ existing.isDefault = false then
      Table.updateWhere (fun t => t.quantity = scaled.quantity) (fun _ => scaled) kept
    else kept

/-- The scaled tiers, in the order of their quantities. -/
def scaledTiers (factor minUnits portfolioCash : ℚ) : List SizingTier :=
  ((e.tiers.filterMap (scaledTier factor minUnits portfolioCash)).foldl keepTier []).insertionSort
    (fun t t' => t.quantity ≤ t'.quantity)

/-- The copy with a headline of its own. -/
def withHeadline (quantity risk reward notional portfolioCash : ℚ) (tiers : List SizingTier) :
    TradeEvaluation :=
  { e with
    quantity := quantity
    riskDollars := risk
    rewardDollars := reward
    notionalValue := notional
    effectiveLeverage := round2 (notional / portfolioCash)
    sizingTiers := if tiers = [] then none else some tiers }

/-- **`scale_sizing`.** -/
def scaleSizing (factor minUnits portfolioCash : ℚ) : Except String (Option TradeEvaluation) :=
  if e.assetClass ≠ .equity then .error "scale_sizing supports equities only"
  else if ¬ (0 ≤ factor ∧ factor ≤ 1) then .error "factor must be in [0, 1]"
  else if factor = 1 then .ok (some e)
  else
    let tiers := e.scaledTiers factor minUnits portfolioCash
    match tiers.find? SizingTier.isDefault with
    | some t =>
      .ok (some (e.withHeadline t.quantity t.riskDollars t.rewardDollars t.notionalDollars
        portfolioCash tiers))
    | none =>
      if e.tiers ≠ [] then .ok none
      else
        let qty : ℚ := ⌊e.quantity * factor⌋
        if qty < minUnits ∨ e.quantity ≤ 0 then .ok none
        else
          let ratio := qty / e.quantity
          .ok (some (e.withHeadline qty (round2 (e.riskDollars * ratio))
            (round2 (e.rewardDollars * ratio)) (round2 (e.notionalValue * ratio)) portfolioCash
            tiers))

end TradeEvaluation

/-! ## What scaling leaves -/

/-- **A tier as sizing builds it**: a positive quantity, and dollars that are cents and not
negative. -/
structure SizingTier.Priced (t : SizingTier) : Prop where
  quantity_pos : 0 < t.quantity
  risk_nonneg : 0 ≤ t.riskDollars
  notional_nonneg : 0 ≤ t.notionalDollars
  risk_cents : WholeHundredths t.riskDollars
  notional_cents : WholeHundredths t.notionalDollars

/-- **One tier in the place of another**: under the same name, and nothing of it larger. -/
structure SizingTier.ShrunkFrom (t original : SizingTier) : Prop where
  tierId : t.tierId = original.tierId
  label : t.label = original.label
  isDefault : t.isDefault = original.isDefault
  quantity : t.quantity ≤ original.quantity
  risk : t.riskDollars ≤ original.riskDollars
  notional : t.notionalDollars ≤ original.notionalDollars

/-- A part of an amount in cents rounds to no more than the amount. -/
theorem round2_mul_le {x ratio : ℚ} (hx : 0 ≤ x) (hcents : WholeHundredths x) (hratio : ratio ≤ 1) :
    round2 (x * ratio) ≤ x := by
  calc round2 (x * ratio) ≤ round2 x := round2_mono (mul_le_of_le_one_right hx hratio)
    _ = x := round2_eq_iff.mpr hcents

namespace TradeEvaluation

section Scaled

variable {factor minUnits portfolioCash : ℚ} {tier scaled : SizingTier} {l kept : List SizingTier}

/-- **What a scaled tier is.** -/
theorem scaledTier_eq_some (h : scaledTier factor minUnits portfolioCash tier = some scaled) :
    0 < tier.quantity ∧ minUnits ≤ scaled.quantity ∧ scaled.quantity = ⌊tier.quantity * factor⌋
      ∧ scaled.riskDollars = round2 (tier.riskDollars * (scaled.quantity / tier.quantity))
      ∧ scaled.notionalDollars = round2 (tier.notionalDollars * (scaled.quantity / tier.quantity))
      ∧ scaled.tierId = tier.tierId ∧ scaled.label = tier.label
      ∧ scaled.isDefault = tier.isDefault := by
  unfold scaledTier at h
  dsimp only at h
  split_ifs at h with hsmall
  rw [not_or, not_lt, not_le] at hsmall
  cases h
  exact ⟨hsmall.2, hsmall.1, rfl, rfl, rfl, rfl, rfl, rfl⟩

theorem scaledTier_shrunk (h : scaledTier factor minUnits portfolioCash tier = some scaled)
    (hfactor : factor ≤ 1) (hpriced : tier.Priced) : scaled.ShrunkFrom tier := by
  obtain ⟨hpos, -, hqty, hrisk, hnotional, hid, hlabel, hdefault⟩ := scaledTier_eq_some h
  have hle : scaled.quantity ≤ tier.quantity := by
    rw [hqty]
    exact (Int.floor_le _).trans (mul_le_of_le_one_right hpos.le hfactor)
  have hratio : scaled.quantity / tier.quantity ≤ 1 := (div_le_one hpos).mpr hle
  refine ⟨hid, hlabel, hdefault, hle, ?_, ?_⟩
  · rw [hrisk]
    exact round2_mul_le hpriced.risk_nonneg hpriced.risk_cents hratio
  · rw [hnotional]
    exact round2_mul_le hpriced.notional_nonneg hpriced.notional_cents hratio

/-- Nothing is kept that was not scaled. -/
theorem mem_keepTier {t : SizingTier} (h : t ∈ keepTier kept scaled) : t ∈ kept ∨ t = scaled := by
  unfold keepTier at h
  split at h
  · simpa using h
  · split_ifs at h
    · obtain ⟨t', ht', rfl⟩ := Table.mem_updateWhere.mp h
      split_ifs
      · exact Or.inr rfl
      · exact Or.inl ht'
    · exact Or.inl h

theorem mem_foldl_keepTier {t : SizingTier} (h : t ∈ l.foldl keepTier kept) : t ∈ kept ∨ t ∈ l := by
  induction l generalizing kept with
  | nil => exact Or.inl h
  | cons scaled l ih =>
    rcases ih h with h | h
    · rcases mem_keepTier h with h | rfl
      · exact Or.inl h
      · exact Or.inr List.mem_cons_self
    · exact Or.inr (List.mem_cons_of_mem _ h)

/-- Each quantity is kept once. -/
theorem keepTier_nodup (h : (kept.map SizingTier.quantity).Nodup) :
    ((keepTier kept scaled).map SizingTier.quantity).Nodup := by
  unfold keepTier
  split
  · rename_i hnone
    refine Table.nodup_map_append_singleton h (fun t ht heq => ?_)
    have hne := List.find?_eq_none.mp hnone t ht
    simp [heq] at hne
  · split_ifs
    · rw [Table.map_updateWhere]
      · exact h
      · intro t ht
        simpa using (of_decide_eq_true ht).symm
    · exact h

theorem foldl_keepTier_nodup (h : (kept.map SizingTier.quantity).Nodup) :
    ((l.foldl keepTier kept).map SizingTier.quantity).Nodup := by
  induction l generalizing kept with
  | nil => exact h
  | cons scaled l ih => exact ih (keepTier_nodup h)

/-- A default stays when other tiers are kept. -/
theorem keepTier_keeps {d : SizingTier} (hd : d ∈ kept) (hscaled : scaled.isDefault = false) :
    d ∈ keepTier kept scaled := by
  unfold keepTier
  split
  · exact List.mem_append_left _ hd
  · rw [if_neg (by simp [hscaled])]
    exact hd

/-- A default takes the place of another tier. -/
theorem keepTier_takes (hdefault : scaled.isDefault = true)
    (hkept : ∀ t ∈ kept, t.isDefault = false) : scaled ∈ keepTier kept scaled := by
  unfold keepTier
  split
  · exact List.mem_append_right _ (by simp)
  · rename_i existing hfind
    have hmem := List.mem_of_find?_eq_some hfind
    have hsame : decide (existing.quantity = scaled.quantity) = true := by
      simpa using List.find?_some hfind
    rw [if_pos ⟨hdefault, hkept existing hmem⟩]
    exact Table.mem_updateWhere.mpr ⟨existing, hmem, by rw [if_pos hsame]⟩

/-- **The default survives**, whatever quantities coincide. -/
theorem mem_foldl_keepTier_default {d : SizingTier}
    (h : (kept.filter SizingTier.isDefault = [] ∧ l.filter SizingTier.isDefault = [d])
      ∨ (d ∈ kept ∧ d.isDefault = true ∧ l.filter SizingTier.isDefault = [])) :
    d ∈ l.foldl keepTier kept := by
  induction l generalizing kept with
  | nil =>
    rcases h with ⟨-, h⟩ | ⟨hd, -, -⟩
    · cases h
    · exact hd
  | cons scaled l ih =>
    refine ih ?_
    cases hscaled : scaled.isDefault with
    | true =>
      rcases h with ⟨hkept, hl⟩ | ⟨-, -, hl⟩
      · rw [List.filter_cons_of_pos hscaled, List.cons.injEq] at hl
        obtain ⟨rfl, hl⟩ := hl
        refine Or.inr ⟨keepTier_takes hscaled (fun t ht => ?_), hscaled, hl⟩
        simpa using List.filter_eq_nil_iff.mp hkept t ht
      · rw [List.filter_cons_of_pos hscaled] at hl
        cases hl
    | false =>
      have hl' : (scaled :: l).filter SizingTier.isDefault = l.filter SizingTier.isDefault :=
        List.filter_cons_of_neg (by simp [hscaled])
      rw [hl'] at h
      rcases h with ⟨hkept, hl⟩ | ⟨hd, hdefault, hl⟩
      · refine Or.inl ⟨?_, hl⟩
        rw [List.filter_eq_nil_iff] at hkept ⊢
        intro t ht
        rcases mem_keepTier ht with ht | rfl
        · exact hkept t ht
        · simp [hscaled]
      · exact Or.inr ⟨keepTier_keeps hd hscaled, hdefault, hl⟩

/-- Scaling commutes with the choice of the default. -/
theorem filter_filterMap_scaledTier :
    (l.filterMap (scaledTier factor minUnits portfolioCash)).filter SizingTier.isDefault
      = (l.filter SizingTier.isDefault).filterMap (scaledTier factor minUnits portfolioCash) := by
  induction l with
  | nil => rfl
  | cons tier l ih =>
    cases hscaled : scaledTier factor minUnits portfolioCash tier with
    | none =>
      rw [List.filterMap_cons_none hscaled, ih, List.filter_cons]
      split
      · rw [List.filterMap_cons_none hscaled]
      · rfl
    | some scaled =>
      have hdefault := (scaledTier_eq_some hscaled).2.2.2.2.2.2.2
      rw [List.filterMap_cons_some hscaled, List.filter_cons, List.filter_cons, hdefault, ih]
      split
      · rw [List.filterMap_cons_some hscaled]
      · rfl

variable (e : TradeEvaluation)

theorem mem_scaledTiers {t : SizingTier} (h : t ∈ e.scaledTiers factor minUnits portfolioCash) :
    ∃ tier ∈ e.tiers, scaledTier factor minUnits portfolioCash tier = some t := by
  unfold scaledTiers at h
  rw [List.mem_insertionSort] at h
  rcases mem_foldl_keepTier h with h | h
  · cases h
  · exact List.mem_filterMap.mp h

/-- **The default among the scaled tiers** is the scaled default. -/
theorem scaledTiers_default {d : SizingTier} (htier : e.tiers.filter SizingTier.isDefault = [tier])
    (hd : scaledTier factor minUnits portfolioCash tier = some d) :
    (e.scaledTiers factor minUnits portfolioCash).filter SizingTier.isDefault = [d]
      ∧ (e.scaledTiers factor minUnits portfolioCash).find? SizingTier.isDefault = some d := by
  have hscaled : (e.tiers.filterMap (scaledTier factor minUnits portfolioCash)).filter
      SizingTier.isDefault = [d] := by
    rw [filter_filterMap_scaledTier, htier, List.filterMap_cons_some hd, List.filterMap_nil]
  have hmem : d ∈ (e.scaledTiers factor minUnits portfolioCash).filter SizingTier.isDefault := by
    have hdefault : d.isDefault = true := List.of_mem_filter (hscaled ▸ List.mem_singleton_self d)
    refine List.mem_filter.mpr ⟨?_, hdefault⟩
    unfold scaledTiers
    rw [List.mem_insertionSort]
    exact mem_foldl_keepTier_default (Or.inl ⟨rfl, hscaled⟩)
  have hall : ∀ t ∈ (e.scaledTiers factor minUnits portfolioCash).filter SizingTier.isDefault,
      t = d := by
    intro t ht
    obtain ⟨ht, hdefault⟩ := List.mem_filter.mp ht
    obtain ⟨original, horiginal, hshrunk⟩ := e.mem_scaledTiers ht
    have hin : t ∈ (e.tiers.filterMap (scaledTier factor minUnits portfolioCash)).filter
        SizingTier.isDefault :=
      List.mem_filter.mpr ⟨List.mem_filterMap.mpr ⟨original, horiginal, hshrunk⟩, hdefault⟩
    rw [hscaled] at hin
    exact List.mem_singleton.mp hin
  have hnodup :
      ((e.scaledTiers factor minUnits portfolioCash).filter SizingTier.isDefault).Nodup := by
    refine List.Nodup.filter _ (List.Nodup.of_map SizingTier.quantity ?_)
    unfold scaledTiers
    rw [((List.perm_insertionSort _ _).map SizingTier.quantity).nodup_iff]
    exact foldl_keepTier_nodup (by simp)
  have heq : (e.scaledTiers factor minUnits portfolioCash).filter SizingTier.isDefault = [d] := by
    have hreplicate := List.eq_replicate_of_mem hall
    rw [hreplicate] at hnodup hmem
    have hle := List.nodup_replicate.mp hnodup
    have hpos := (List.mem_replicate.mp hmem).1
    rw [hreplicate, show List.length _ = 1 by omega]
    rfl
  refine ⟨heq, ?_⟩
  rw [← List.head?_filter, heq]
  rfl

theorem scaledTiers_no_default (htier : ∀ tier ∈ e.tiers, tier.isDefault = true →
    scaledTier factor minUnits portfolioCash tier = none) :
    (e.scaledTiers factor minUnits portfolioCash).find? SizingTier.isDefault = none := by
  rw [List.find?_eq_none]
  intro t ht hdefault
  obtain ⟨tier, hmem, hscaled⟩ := e.mem_scaledTiers ht
  rw [(scaledTier_eq_some hscaled).2.2.2.2.2.2.2] at hdefault
  rw [htier tier hmem hdefault] at hscaled
  cases hscaled

end Scaled

/-! ## What scaling leaves of the headline -/

/-- **An evaluation as it is built**: priced tiers of which at most one is the default, and
a headline in cents. -/
structure Sized (e : TradeEvaluation) : Prop where
  priced : ∀ t ∈ e.tiers, t.Priced
  one_default : (e.tiers.filter SizingTier.isDefault).length ≤ 1
  risk_nonneg : 0 ≤ e.riskDollars
  notional_nonneg : 0 ≤ e.notionalValue
  risk_cents : WholeHundredths e.riskDollars
  notional_cents : WholeHundredths e.notionalValue

/-- **Nothing of the scaled evaluation is larger**, and it has one default tier if there was
one. -/
structure ShrunkFrom (scaled e : TradeEvaluation) : Prop where
  tiers : ∀ t ∈ scaled.tiers, ∃ original ∈ e.tiers, t.ShrunkFrom original
  quantity : scaled.quantity ≤ e.quantity
  risk : scaled.riskDollars ≤ e.riskDollars
  notional : scaled.notionalValue ≤ e.notionalValue
  one_default : (e.tiers.filter SizingTier.isDefault).length = 1 →
    (scaled.tiers.filter SizingTier.isDefault).length = 1

/-- The largest whole quantity below that of a tier. -/
def below (tier : SizingTier) : ℚ := (⌈tier.quantity⌉ - 1 : ℤ)

/-- **The headline covers the default tier**: one whole unit less of the default tier is
below the minimum, or no larger than the headline. -/
def HeadlineCovers (e : TradeEvaluation) (minUnits : ℚ) : Prop :=
  e.assetClass = .equity → ∀ tier ∈ e.tiers, tier.isDefault = true →
    below tier < minUnits
      ∨ below tier ≤ e.quantity
        ∧ round2 (tier.riskDollars * (below tier / tier.quantity)) ≤ e.riskDollars
        ∧ round2 (tier.notionalDollars * (below tier / tier.quantity)) ≤ e.notionalValue

section Headline

variable {e : TradeEvaluation} {factor minUnits portfolioCash : ℚ} {tier d : SizingTier}

/-- A factor below one leaves at most the whole quantity below. -/
theorem scaled_le_below (hfactor : factor < 1)
    (hd : scaledTier factor minUnits portfolioCash tier = some d) : d.quantity ≤ below tier := by
  obtain ⟨hpos, -, hqty, -⟩ := scaledTier_eq_some hd
  rw [hqty]
  unfold below
  have hlt : ⌊tier.quantity * factor⌋ < ⌈tier.quantity⌉ := by
    rw [Int.floor_lt]
    calc tier.quantity * factor < tier.quantity := mul_lt_of_lt_one_right hpos hfactor
      _ ≤ ⌈tier.quantity⌉ := Int.le_ceil _
  exact_mod_cast Int.le_sub_one_iff.mpr hlt

/-- The factor that leaves exactly that. -/
theorem exists_scaledTier_below (portfolioCash : ℚ) (hpos : 0 < tier.quantity)
    (hmin : minUnits ≤ below tier) :
    ∃ factor d, 0 ≤ factor ∧ factor < 1
      ∧ scaledTier factor minUnits portfolioCash tier = some d ∧ d.quantity = below tier := by
  have hbelow : below tier < tier.quantity := by
    have hceil := Int.ceil_lt_add_one tier.quantity
    unfold below
    push_cast
    linarith
  have hnonneg : 0 ≤ below tier := by
    have hone : 1 ≤ ⌈tier.quantity⌉ := Int.one_le_ceil_iff.mpr hpos
    unfold below
    exact_mod_cast (by omega : 0 ≤ ⌈tier.quantity⌉ - 1)
  have hfloor : (⌊tier.quantity * (below tier / tier.quantity)⌋ : ℚ) = below tier := by
    rw [mul_div_cancel₀ _ hpos.ne']
    unfold below
    rw [Int.floor_intCast]
  have hsome : ¬ ((⌊tier.quantity * (below tier / tier.quantity)⌋ : ℚ) < minUnits
      ∨ tier.quantity ≤ 0) := by
    rw [hfloor, not_or, not_lt, not_le]
    exact ⟨hmin, hpos⟩
  refine ⟨below tier / tier.quantity, _, div_nonneg hnonneg hpos.le, (div_lt_one hpos).mpr hbelow,
    if_neg hsome, hfloor⟩

theorem ShrunkFrom.refl (e : TradeEvaluation) : e.ShrunkFrom e where
  tiers t ht := ⟨t, ht, rfl, rfl, rfl, le_rfl, le_rfl, le_rfl⟩
  quantity := le_rfl
  risk := le_rfl
  notional := le_rfl
  one_default h := h

theorem withHeadline_tiers (e : TradeEvaluation) (quantity risk reward notional cash : ℚ)
    (tiers : List SizingTier) :
    (e.withHeadline quantity risk reward notional cash tiers).tiers = tiers := by
  unfold TradeEvaluation.tiers withHeadline
  split_ifs with h
  · rw [h]
    rfl
  · rfl

/-- **Below one, the headline becomes that of the scaled default.** -/
theorem scaleSizing_default (hequity : e.assetClass = .equity) (hnonneg : 0 ≤ factor)
    (hfactor : factor < 1) (htier : e.tiers.filter SizingTier.isDefault = [tier])
    (hd : scaledTier factor minUnits portfolioCash tier = some d) :
    e.scaleSizing factor minUnits portfolioCash
      = .ok (some (e.withHeadline d.quantity d.riskDollars d.rewardDollars d.notionalDollars
        portfolioCash (e.scaledTiers factor minUnits portfolioCash))) := by
  unfold scaleSizing
  rw [if_neg (not_not.mpr hequity), if_neg (not_not.mpr ⟨hnonneg, hfactor.le⟩),
    if_neg hfactor.ne]
  dsimp only
  rw [(e.scaledTiers_default htier hd).2]

/-- **Below one, without a default** only a card without tiers is scaled. -/
theorem scaleSizing_no_default (hfactor : factor < 1)
    (hnone : (e.scaledTiers factor minUnits portfolioCash).find? SizingTier.isDefault = none)
    {scaled : TradeEvaluation}
    (h : e.scaleSizing factor minUnits portfolioCash = .ok (some scaled)) :
    e.tiers = [] ∧ 0 < e.quantity
      ∧ scaled = e.withHeadline ⌊e.quantity * factor⌋
        (round2 (e.riskDollars * (⌊e.quantity * factor⌋ / e.quantity)))
        (round2 (e.rewardDollars * (⌊e.quantity * factor⌋ / e.quantity)))
        (round2 (e.notionalValue * (⌊e.quantity * factor⌋ / e.quantity))) portfolioCash
        (e.scaledTiers factor minUnits portfolioCash) := by
  unfold scaleSizing at h
  dsimp only at h
  rw [hnone] at h
  dsimp only at h
  split_ifs at h with hequity hrange hone htiers hsmall
  · exact absurd hone hfactor.ne
  · cases h
  · cases h
  · cases h
    rw [not_or, not_lt, not_le] at hsmall
    exact ⟨not_not.mp htiers, hsmall.2, rfl⟩

theorem scaledTiers_shrunk (hsized : e.Sized) (hfactor : factor ≤ 1) {t : SizingTier}
    (ht : t ∈ e.scaledTiers factor minUnits portfolioCash) :
    ∃ original ∈ e.tiers, t.ShrunkFrom original := by
  obtain ⟨original, horiginal, hscaled⟩ := e.mem_scaledTiers ht
  exact ⟨original, horiginal, scaledTier_shrunk hscaled hfactor (hsized.priced original horiginal)⟩

/-- The scaled default tier becomes a headline that covers it. -/
theorem shrunk_of_default (hsized : e.Sized) (hcovers : e.HeadlineCovers minUnits)
    (hnonneg : 0 ≤ factor) (hlt : factor < 1)
    (htier : e.tiers.filter SizingTier.isDefault = [tier])
    (hd : scaledTier factor minUnits portfolioCash tier = some d) {scaled : TradeEvaluation}
    (hscale : e.scaleSizing factor minUnits portfolioCash = .ok (some scaled)) :
    scaled.ShrunkFrom e := by
  have hequity : e.assetClass = .equity := by
    by_contra hother
    rw [scaleSizing, if_pos hother] at hscale
    cases hscale
  rw [scaleSizing_default hequity hnonneg hlt htier hd] at hscale
  cases hscale
  obtain ⟨hmem, hdefault⟩ := List.mem_filter.mp (htier ▸ List.mem_singleton_self tier)
  have hpriced := hsized.priced tier hmem
  obtain ⟨hpos, hmin, -, hrisk, hnotional, -⟩ := scaledTier_eq_some hd
  have hle := scaled_le_below hlt hd
  have hratio : d.quantity / tier.quantity ≤ below tier / tier.quantity :=
    div_le_div_of_nonneg_right hle hpos.le
  rcases hcovers hequity tier hmem hdefault with hsmall | ⟨hquantity', hrisk', hnotional'⟩
  · exact absurd (hmin.trans hle) (not_le.mpr hsmall)
  refine ⟨fun t ht => ?_, hle.trans hquantity', ?_, ?_, fun _ => ?_⟩
  · rw [withHeadline_tiers] at ht
    exact scaledTiers_shrunk hsized hlt.le ht
  · show d.riskDollars ≤ e.riskDollars
    rw [hrisk]
    exact (round2_mono (mul_le_mul_of_nonneg_left hratio hpriced.risk_nonneg)).trans hrisk'
  · show d.notionalDollars ≤ e.notionalValue
    rw [hnotional]
    exact (round2_mono (mul_le_mul_of_nonneg_left hratio hpriced.notional_nonneg)).trans hnotional'
  · rw [withHeadline_tiers, (e.scaledTiers_default htier hd).1]
    rfl

/-- A card without tiers scales its headline. -/
theorem shrunk_of_no_default (hsized : e.Sized) (hlt : factor < 1)
    (hnone : ¬ ∃ tier d, e.tiers.filter SizingTier.isDefault = [tier]
      ∧ scaledTier factor minUnits portfolioCash tier = some d) {scaled : TradeEvaluation}
    (hscale : e.scaleSizing factor minUnits portfolioCash = .ok (some scaled)) :
    scaled.ShrunkFrom e := by
  have hfind : (e.scaledTiers factor minUnits portfolioCash).find? SizingTier.isDefault = none := by
    refine e.scaledTiers_no_default (fun tier hmem hdefault => ?_)
    by_contra hsome
    obtain ⟨d, hd⟩ := Option.ne_none_iff_exists'.mp hsome
    have hin : tier ∈ e.tiers.filter SizingTier.isDefault := List.mem_filter.mpr ⟨hmem, hdefault⟩
    obtain ⟨t, ht⟩ := List.length_eq_one_iff.mp
      (le_antisymm hsized.one_default (List.length_pos_of_mem hin))
    rw [ht, List.mem_singleton] at hin
    exact hnone ⟨t, d, ht, hin ▸ hd⟩
  obtain ⟨htiers, hpos, rfl⟩ := scaleSizing_no_default hlt hfind hscale
  have hfloor : (⌊e.quantity * factor⌋ : ℚ) ≤ e.quantity :=
    (Int.floor_le _).trans (mul_le_of_le_one_right hpos.le hlt.le)
  have hratio : (⌊e.quantity * factor⌋ : ℚ) / e.quantity ≤ 1 := (div_le_one hpos).mpr hfloor
  refine ⟨fun t ht => ?_, hfloor, ?_, ?_, fun hone => ?_⟩
  · rw [withHeadline_tiers] at ht
    exact scaledTiers_shrunk hsized hlt.le ht
  · exact round2_mul_le hsized.risk_nonneg hsized.risk_cents hratio
  · exact round2_mul_le hsized.notional_nonneg hsized.notional_cents hratio
  · rw [htiers] at hone
    cases hone

/-- **Scaling shrinks every tier and the headline, under every factor, exactly where the
headline covers the default tier.** -/
theorem scaleSizing_shrinks_iff (hsized : e.Sized) (minUnits portfolioCash : ℚ) :
    (∀ factor, 0 ≤ factor → factor ≤ 1 → ∀ scaled,
        e.scaleSizing factor minUnits portfolioCash = .ok (some scaled) → scaled.ShrunkFrom e)
      ↔ e.HeadlineCovers minUnits := by
  constructor
  · intro h hequity tier htier hdefault
    rw [or_iff_not_imp_left, not_lt]
    intro hmin
    have hfilter : e.tiers.filter SizingTier.isDefault = [tier] := by
      have hmem : tier ∈ e.tiers.filter SizingTier.isDefault :=
        List.mem_filter.mpr ⟨htier, hdefault⟩
      obtain ⟨t, ht⟩ := List.length_eq_one_iff.mp
        (le_antisymm hsized.one_default (List.length_pos_of_mem hmem))
      rw [ht] at hmem ⊢
      rw [List.mem_singleton.mp hmem]
    obtain ⟨factor, d, hnonneg, hlt, hd, hqty⟩ :=
      exists_scaledTier_below portfolioCash (hsized.priced tier htier).quantity_pos hmin
    have hshrunk := h factor hnonneg hlt.le _ (scaleSizing_default hequity hnonneg hlt hfilter hd)
    obtain ⟨-, -, -, hrisk, hnotional, -⟩ := scaledTier_eq_some hd
    rw [hqty] at hrisk hnotional
    refine ⟨?_, ?_, ?_⟩
    · rw [← hqty]
      exact hshrunk.quantity
    · rw [← hrisk]
      exact hshrunk.risk
    · rw [← hnotional]
      exact hshrunk.notional
  · intro hcovers factor hnonneg hle scaled hscale
    rcases hle.lt_or_eq with hlt | rfl
    · by_cases hdefault : ∃ tier d, e.tiers.filter SizingTier.isDefault = [tier]
          ∧ scaledTier factor minUnits portfolioCash tier = some d
      · obtain ⟨tier, d, htier, hd⟩ := hdefault
        exact shrunk_of_default hsized hcovers hnonneg hlt htier hd hscale
      · exact shrunk_of_no_default hsized hlt hdefault hscale
    · unfold scaleSizing at hscale
      by_cases hequity : e.assetClass = .equity
      · rw [if_neg (not_not.mpr hequity), if_neg (not_not.mpr ⟨hnonneg, hle⟩), if_pos rfl] at hscale
        cases hscale
        exact ShrunkFrom.refl e
      · rw [if_pos hequity] at hscale
        cases hscale

end Headline

end TradeEvaluation

end AgenticTrader
