import AgenticTrader.Agent.PositionSizing
import Mathlib.Data.Int.ConditionallyCompleteOrder

/-!
# The tiers of a sizing

The largest size is the largest whole quantity within the count, the risk and the notional;
where it does not reach the minimum, nothing is offered. Otherwise the tiers are positive,
one of them is the default, and the largest of them is the largest size. A minimum that is
not positive does not block a largest size of zero: one unit is offered then.
-/

namespace AgenticTrader

open Checks

/-! ## The largest size -/

theorem truncate_intCast (n : ℤ) : truncate n = n := by
  unfold truncate
  split_ifs <;> simp

theorem truncate_natCast (n : ℕ) : truncate n = n := by
  have h := truncate_intCast n
  push_cast at h
  exact h

theorem truncate_mono : Monotone truncate := by
  intro x y h
  unfold truncate
  split_ifs with hx hy
  · exact Int.floor_le_floor h
  · exact absurd (hx.trans h) hy
  · exact (Int.ceil_le.mpr (by push_cast; linarith)).trans (Int.floor_nonneg.mpr ‹_›)
  · exact Int.ceil_le_ceil h

theorem truncate_nonpos {x : ℚ} (h : x ≤ 0) : truncate x ≤ 0 := by
  have hzero := truncate_mono h
  rwa [show truncate 0 = 0 by exact_mod_cast truncate_intCast 0] at hzero

/-- A number reaches what it truncates to, from one on. -/
theorem natCast_le_truncate {n : ℕ} (hn : 1 ≤ n) {x : ℚ} : (n : ℤ) ≤ truncate x ↔ (n : ℚ) ≤ x := by
  have hone : (1 : ℚ) ≤ n := by exact_mod_cast hn
  unfold truncate
  split_ifs with hx
  · rw [Int.le_floor]
    push_cast
    exact Iff.rfl
  · refine iff_of_false (fun h => ?_) (fun h => hx (by linarith))
    have hceil : ⌈x⌉ ≤ 0 := Int.ceil_le.mpr (by push_cast; linarith)
    omega

namespace SizingRequest

variable (r : SizingRequest) (limits : RiskLimits) (budget : RiskBudget)

/-- The same request at other distances. -/
def atDistances (stop target : ℚ) : SizingRequest :=
  { r with stopDistance := stop, targetDistance := target }

theorem perUnitRisk_pos : 0 < r.perUnitRisk :=
  lt_of_lt_of_le (by norm_num) (le_max_right _ _)

theorem unitNotional_pos : 0 < r.unitNotional :=
  lt_of_lt_of_le (by norm_num) (le_max_right _ _)

/-- **A whole quantity is permissible** within the count, the risk and the notional. -/
def Permissible (n : ℕ) : Prop :=
  (n : ℚ) ≤ r.countCap limits ∧ n * r.perUnitRisk ≤ r.maxRiskDollars budget
    ∧ n * r.unitNotional ≤ r.notionalCeiling limits

/-- The largest size is a whole number. -/
theorem exists_maxQty : ∃ n : ℕ, r.maxQty limits budget = n := by
  refine ⟨(truncate (r.rawMaxQty limits budget)).toNat, ?_⟩
  unfold maxQty
  rw [← Int.cast_natCast, Int.toNat_eq_max, max_comm]
  push_cast
  rfl

/-- **The largest size is the largest permissible quantity.** -/
theorem natCast_le_maxQty {n : ℕ} (hn : 1 ≤ n) :
    (n : ℚ) ≤ r.maxQty limits budget ↔ r.Permissible limits budget n := by
  have hone : (1 : ℚ) ≤ n := by exact_mod_cast hn
  have hcast : (n : ℚ) ≤ r.maxQty limits budget
      ↔ (n : ℤ) ≤ truncate (r.rawMaxQty limits budget) := by
    unfold maxQty
    rw [le_max_iff]
    constructor
    · rintro (h | h)
      · linarith
      · exact_mod_cast h
    · intro h
      exact Or.inr (by exact_mod_cast h)
  rw [hcast, natCast_le_truncate hn]
  unfold rawMaxQty Permissible
  rw [le_min_iff, le_min_iff, le_div_iff₀ r.perUnitRisk_pos, le_div_iff₀ r.unitNotional_pos,
    and_assoc]

/-- A positive quantity up to the largest is within every gate. -/
theorem of_le_maxQty {q : ℚ} (hq : 0 < q) (h : q ≤ r.maxQty limits budget) :
    q ≤ r.countCap limits ∧ q * r.perUnitRisk ≤ r.maxRiskDollars budget
      ∧ q * r.unitNotional ≤ r.notionalCeiling limits := by
  obtain ⟨n, hn⟩ := r.exists_maxQty limits budget
  rw [hn] at h
  have hone : 1 ≤ n := by
    have : (0 : ℚ) < n := hq.trans_le h
    exact_mod_cast this
  obtain ⟨hcount, hrisk, hnotional⟩ := (r.natCast_le_maxQty limits budget hone).mp hn.ge
  refine ⟨h.trans hcount, ?_, ?_⟩
  · exact (mul_le_mul_of_nonneg_right h r.perUnitRisk_pos.le).trans hrisk
  · exact (mul_le_mul_of_nonneg_right h r.unitNotional_pos.le).trans hnotional

theorem maxRiskDollars_le : r.maxRiskDollars budget ≤ budget.dollars
    ∧ ∀ cap ∈ r.riskDollarsCap, r.maxRiskDollars budget ≤ cap := by
  unfold maxRiskDollars
  cases r.riskDollarsCap with
  | none => simp
  | some cap =>
    dsimp only
    split_ifs with hcap
    · exact ⟨hcap.le, by simp⟩
    · exact ⟨le_rfl, by simpa using hcap⟩

end SizingRequest

/-! ## When nothing is offered -/

namespace SizingDesk

variable {desk : SizingDesk} {r : SizingRequest} {budget : RiskBudget}

/-- Under the halt there is no budget. -/
theorem budget_dollars_of_halt (h : r.budget desk.limits = .ok budget)
    (hhalt : budget.drawdownFactor = 0) : budget.dollars = 0 := by
  unfold SizingRequest.budget perTradeRiskBudget at h
  obtain ⟨capital, -, h⟩ := except_bind_eq_ok.mp h
  obtain ⟨drawdown, -, h⟩ := except_bind_eq_ok.mp h
  cases h
  simp only at hhalt ⊢
  rw [hhalt]
  ring

/-- **Sizing is blocked exactly when no whole quantity from the minimum on is
permissible.** -/
theorem blocked_iff (hbudget : r.budget desk.limits = .ok budget)
    (hmin : 0 < r.minimum desk.sizing) :
    desk.blocked r budget = true
      ↔ ∀ n : ℕ, r.minimum desk.sizing ≤ n → ¬ r.Permissible desk.limits budget n := by
  have hone : ∀ n : ℕ, r.minimum desk.sizing ≤ n → 1 ≤ n := by
    intro n hn
    have : (0 : ℚ) < n := hmin.trans_le hn
    exact_mod_cast this
  obtain ⟨m, hm⟩ := r.exists_maxQty desk.limits budget
  unfold blocked
  rw [decide_eq_true_eq]
  constructor
  · rintro (hhalt | hlt) n hn hpermissible
    · have hrisk : n * r.perUnitRisk ≤ 0 := by
        calc n * r.perUnitRisk ≤ r.maxRiskDollars budget := hpermissible.2.1
          _ ≤ budget.dollars := (r.maxRiskDollars_le budget).1
          _ = 0 := budget_dollars_of_halt hbudget hhalt
      have hpos : 0 < (n : ℚ) * r.perUnitRisk :=
        mul_pos (by exact_mod_cast hone n hn) r.perUnitRisk_pos
      linarith
    · have hle := (r.natCast_le_maxQty desk.limits budget (hone n hn)).mpr hpermissible
      linarith
  · intro h
    by_contra hopen
    rw [not_or, not_lt, hm] at hopen
    exact h m hopen.2 ((r.natCast_le_maxQty desk.limits budget (hone m hopen.2)).mp hm.ge)

/-! ## The plans -/

/-- **What the plans of the tiers are**: one default, whose size is the base size; positive
quantities up to the largest size, which is one of them; and whole where the base size is,
which for shares is one of them too. -/
structure Plans (plans : List TierPlan) (top baseQty : ℚ) (shares : Prop) : Prop where
  one_default : (plans.filter TierPlan.isDefault).length = 1
  default_qty : ∀ plan ∈ plans, plan.isDefault = true → plan.quantity = max 1 baseQty
  bounds : ∀ plan ∈ plans, 0 < plan.quantity ∧ plan.quantity ≤ top
  max_qty : ∀ plan ∈ plans, plan.tierId = .max → plan.quantity = top
  whole : (shares → Whole baseQty) → ∀ plan ∈ plans, Whole plan.quantity
  largest : ∃ plan ∈ plans, plan.quantity = top
  base : shares → ∃ plan ∈ plans, plan.quantity = baseQty

theorem shareTiers_plans {maxQty baseQty : ℚ} (hwhole : Whole maxQty) (hone : 1 ≤ baseQty)
    (hle : baseQty ≤ max 1 maxQty) :
    Plans (shareTiers maxQty baseQty) (max 1 maxQty) baseQty True := by
  have hhalf : (0 : ℚ) < max 1 (truncate (baseQty * (1 / 2)) : ℚ) :=
    lt_of_lt_of_le one_pos (le_max_left _ _)
  have hhalf_whole : Whole (max 1 (truncate (baseQty * (1 / 2)) : ℚ)) :=
    ⟨max 1 (truncate (baseQty * (1 / 2))), by push_cast; rfl⟩
  have hbase : 0 < baseQty := by linarith
  have hdefault : max 1 baseQty = baseQty := max_eq_right hone
  unfold shareTiers
  dsimp only
  generalize max 1 (truncate (baseQty * (1 / 2)) : ℚ) = halfQty at hhalf hhalf_whole ⊢
  split_ifs with hboth hmax hhalf_lt
  · rw [max_eq_right (hone.trans hboth.1.le)]
    exact ⟨rfl, by simp [hdefault],
      by simp [hhalf, hbase, hboth.1.le, hbase.trans hboth.1, (hboth.2.trans hboth.1).le],
      by simp, fun hb => by simp [hhalf_whole, hwhole, hb], by simp, by simp⟩
  · rw [max_eq_right (hone.trans hmax.le)]
    exact ⟨rfl, by simp [hdefault], by simp [hbase, hmax.le, hbase.trans hmax], by simp,
      fun hb => by simp [hwhole, hb], by simp, by simp⟩
  · have heq : baseQty = max 1 maxQty := le_antisymm hle (max_le hone (not_lt.mp hmax))
    rw [← heq]
    exact ⟨rfl, by simp [hdefault], by simp [hhalf, hbase, hhalf_lt.le], by simp,
      fun hb => by simp [hhalf_whole, hb], by simp, by simp⟩
  · have heq : baseQty = max 1 maxQty := le_antisymm hle (max_le hone (not_lt.mp hmax))
    rw [← heq]
    exact ⟨rfl, by simp [hdefault], by simp [hbase], by simp, fun hb => by simp [hb], by simp,
      by simp⟩

theorem contractTiers_plans {m : ℕ} {b : ℤ} (hone : 1 ≤ m → 1 ≤ b) (hle : b ≤ max 1 m) :
    Plans (contractTiers m b) (max 1 (m : ℚ)) b False := by
  have hone' : Whole 1 := ⟨1, by norm_num⟩
  have htwo : Whole 2 := ⟨2, by norm_num⟩
  have hb : Whole (b : ℚ) := ⟨b, rfl⟩
  have hm : Whole (m : ℚ) := ⟨m, by norm_num⟩
  unfold contractTiers
  dsimp only
  rw [truncate_natCast, truncate_intCast, Int.cast_natCast]
  split_ifs with hthree hmed htwo'
  · have hbm : b ≤ m := by omega
    have htop : max 1 (m : ℚ) = m := max_eq_right (by exact_mod_cast (by omega : 1 ≤ m))
    have hbase : max 1 (b : ℚ) = b := max_eq_right (by exact_mod_cast (by omega : 1 ≤ b))
    rw [htop]
    refine ⟨rfl, by simp [hbase], ?_, by simp, fun _ => by simp [hone', hb, hm], by simp, by simp⟩
    simp only [List.forall_mem_cons, List.not_mem_nil, false_implies, implies_true, and_true]
    exact ⟨⟨one_pos, by exact_mod_cast (by omega : 1 ≤ m)⟩,
      ⟨by exact_mod_cast (by omega : 0 < b), by exact_mod_cast hbm⟩,
      by exact_mod_cast (by omega : 0 < m), le_rfl⟩
  · have htop : max 1 (m : ℚ) = m := max_eq_right (by exact_mod_cast (by omega : 1 ≤ m))
    rw [htop, hmed.2]
    refine ⟨rfl, by simp, ?_, by simp, fun _ => by simp [hone', htwo, hm], by simp, by simp⟩
    simp only [List.forall_mem_cons, List.not_mem_nil, false_implies, implies_true, and_true]
    exact ⟨⟨one_pos, by exact_mod_cast (by omega : 1 ≤ m)⟩,
      ⟨two_pos, by exact_mod_cast (by omega : 2 ≤ m)⟩, by exact_mod_cast (by omega : 0 < m), le_rfl⟩
  · have hm_two : m = 2 := by exact_mod_cast htwo'
    subst hm_two
    obtain rfl | rfl : b = 1 ∨ b = 2 := by
      have := hone (by norm_num)
      have : b ≤ 2 := by simpa using hle
      omega
    · exact ⟨rfl, by simp, by norm_num, by simp, fun _ => by simp [hone', htwo], by norm_num,
        by simp⟩
    · exact ⟨rfl, by norm_num, by norm_num, by simp, fun _ => by simp [hone', htwo], by norm_num,
        by simp⟩
  · have hm_one : m ≤ 1 := by
      by_contra hbig
      have := hone (by omega)
      omega
    have htop : max 1 (m : ℚ) = 1 := max_eq_left (by exact_mod_cast hm_one)
    have hbase : max 1 (b : ℚ) = 1 := max_eq_left (by exact_mod_cast (by omega : b ≤ 1))
    rw [htop]
    exact ⟨rfl, by simp [hbase], by simp, by simp, fun _ => by simp [hone'], by simp, by simp⟩

/-- A request that is not blocked has its minimum within the largest size. -/
theorem minimum_le_maxQty (hopen : desk.blocked r budget = false) :
    r.minimum desk.sizing ≤ r.maxQty desk.limits budget := by
  unfold blocked at hopen
  rw [decide_eq_false_iff_not, not_or, not_lt] at hopen
  exact hopen.2

theorem one_le_baseQty (hequity : r.assetClass = .equity) : 1 ≤ desk.baseQty r budget := by
  unfold baseQty
  dsimp only
  rw [if_pos hequity]
  exact le_max_left _ _

theorem baseQty_le (hopen : desk.blocked r budget = false) :
    desk.baseQty r budget ≤ max 1 (r.maxQty desk.limits budget) := by
  have hminimum := minimum_le_maxQty hopen
  obtain ⟨m, hm⟩ := r.exists_maxQty desk.limits budget
  unfold SizingRequest.minimum at hminimum
  unfold baseQty
  dsimp only
  rw [hm] at hminimum ⊢
  by_cases hequity : r.assetClass = .equity
  · rw [if_pos hequity] at hminimum ⊢
    exact max_le_max le_rfl (max_le hminimum (min_le_left _ _))
  · rw [if_neg hequity] at hminimum ⊢
    have hmin : desk.sizing.minContracts ≤ m := by exact_mod_cast hminimum
    cases desk.sizing.mode with
    | static => exact le_max_left _ _
    | volatilityTargeted =>
      dsimp only
      rw [truncate_natCast]
      refine le_trans ?_ (le_max_right _ _)
      exact_mod_cast max_le hmin (min_le_left _ _)

/-- The base size of contracts is a whole number, and one or more where one is
permissible. -/
theorem exists_baseQty (hequity : r.assetClass ≠ .equity) {m : ℕ}
    (hm : r.maxQty desk.limits budget = m) :
    ∃ b : ℤ, desk.baseQty r budget = b ∧ (1 ≤ m → 1 ≤ b) := by
  unfold baseQty
  dsimp only
  rw [if_neg hequity, hm, truncate_natCast]
  cases desk.sizing.mode with
  | static => exact ⟨1, by norm_num, fun _ => le_rfl⟩
  | volatilityTargeted =>
    refine ⟨_, rfl, fun hone => ?_⟩
    exact le_max_of_le_right (le_min (by exact_mod_cast hone) (le_max_left _ _))

/-- **The plans of a request that is not blocked.** -/
theorem tierPlans_plans (hopen : desk.blocked r budget = false) :
    Plans (desk.tierPlans r budget) (max 1 (r.maxQty desk.limits budget)) (desk.baseQty r budget)
      (r.assetClass = .equity) := by
  have hle := baseQty_le hopen
  obtain ⟨m, hm⟩ := r.exists_maxQty desk.limits budget
  unfold tierPlans
  by_cases hequity : r.assetClass = .equity
  · rw [if_pos hequity]
    simp only [hequity]
    exact shareTiers_plans ⟨m, by rw [hm]; norm_num⟩ (one_le_baseQty hequity) hle
  · rw [if_neg hequity]
    simp only [hequity]
    obtain ⟨b, hb, hone⟩ := exists_baseQty hequity hm
    rw [hb, hm] at hle ⊢
    exact contractTiers_plans hone (by exact_mod_cast hle)

/-! ## The tiers that stand for the card -/

/-- The last default of the tiers is picked. -/
theorem foldl_pickDefault {l : List SizingTier} (picked : Option SizingTier)
    (h : (∃ t ∈ l, t.isDefault = true) ∨ ∃ t ∈ picked, t.isDefault = true) :
    ∃ t, l.foldl pickDefault picked = some t ∧ t.isDefault = true ∧ (t ∈ l ∨ t ∈ picked) := by
  induction l generalizing picked with
  | nil =>
    rcases h with ⟨t, ht, -⟩ | ⟨t, ht, hdefault⟩
    · cases ht
    · exact ⟨t, ht, hdefault, Or.inr ht⟩
  | cons tier l ih =>
    have hstep : (∃ t ∈ l, t.isDefault = true)
        ∨ ∃ t ∈ pickDefault picked tier, t.isDefault = true := by
      unfold pickDefault
      cases hdefault : tier.isDefault with
      | true =>
        rw [if_pos (Or.inl rfl)]
        exact Or.inr ⟨tier, rfl, hdefault⟩
      | false =>
        rcases h with ⟨t, ht, htrue⟩ | ⟨t, rfl, htrue⟩
        · rcases List.mem_cons.mp ht with rfl | ht
          · rw [hdefault] at htrue
            cases htrue
          · exact Or.inl ⟨t, ht, htrue⟩
        · rw [if_neg (by simp)]
          exact Or.inr ⟨t, rfl, htrue⟩
    obtain ⟨t, hfold, hdefault, hmem⟩ := ih _ hstep
    refine ⟨t, hfold, hdefault, ?_⟩
    rcases hmem with hmem | hmem
    · exact Or.inl (List.mem_cons_of_mem _ hmem)
    · unfold pickDefault at hmem
      split_ifs at hmem
      · cases hmem
        exact Or.inl List.mem_cons_self
      · exact Or.inr hmem

/-- A largest tier is picked, where the tier of that name is one. -/
theorem foldl_pickMax {top : ℚ} {l : List SizingTier} (picked : Option SizingTier)
    (hmax : ∀ t ∈ l, t.tierId = .max → t.quantity = top) (hle : ∀ t ∈ l, t.quantity ≤ top)
    (hpicked : ∀ t ∈ picked, t.quantity ≤ top)
    (h : (∃ t ∈ l, t.quantity = top) ∨ ∃ t ∈ picked, t.quantity = top) :
    ∃ t, l.foldl pickMax picked = some t ∧ t.quantity = top := by
  induction l generalizing picked with
  | nil =>
    rcases h with ⟨t, ht, -⟩ | ⟨t, ht, htop⟩
    · cases ht
    · exact ⟨t, ht, htop⟩
  | cons tier l ih =>
    obtain ⟨hmax_tier, hmax⟩ := List.forall_mem_cons.mp hmax
    obtain ⟨hle_tier, hle⟩ := List.forall_mem_cons.mp hle
    refine ih _ hmax hle ?_ ?_
    · cases picked with
      | none =>
        rintro t ⟨⟩
        exact hle_tier
      | some largest =>
        unfold pickMax
        dsimp only
        split_ifs
        · rintro t ⟨⟩
          exact hle_tier
        · exact hpicked
    · cases picked with
      | none =>
        rcases h with ⟨t, ht, htop⟩ | ⟨t, ht, -⟩
        · rcases List.mem_cons.mp ht with rfl | ht
          · exact Or.inr ⟨t, rfl, htop⟩
          · exact Or.inl ⟨t, ht, htop⟩
        · cases ht
      | some largest =>
        have hlargest := hpicked largest rfl
        unfold pickMax
        dsimp only
        split_ifs with htake
        · rcases h with ⟨t, ht, htop⟩ | ⟨t, ⟨⟩, htop⟩
          · rcases List.mem_cons.mp ht with rfl | ht
            · exact Or.inr ⟨t, rfl, htop⟩
            · exact Or.inl ⟨t, ht, htop⟩
          · refine Or.inr ⟨tier, rfl, ?_⟩
            rcases htake with hid | hge
            · exact hmax_tier hid
            · exact le_antisymm hle_tier (htop ▸ hge)
        · rw [not_or, not_le] at htake
          rcases h with ⟨t, ht, htop⟩ | hpick
          · rcases List.mem_cons.mp ht with rfl | ht
            · exact absurd htake.2 (not_lt.mpr (htop ▸ hlargest))
            · exact Or.inl ⟨t, ht, htop⟩
          · exact Or.inr hpick

/-- **The tiers that are offered**: the default of the base size, the largest of the largest
size, and every one in between. -/
structure Offers (sizing : PositionSizing) (top baseQty : ℚ) : Prop where
  default_qty : sizing.defaultTier.quantity = max 1 baseQty
  max_qty : sizing.maxTier.quantity = top
  bounds : ∀ t ∈ sizing.tiers, 0 < t.quantity ∧ t.quantity ≤ top
  largest : ∃ t ∈ sizing.tiers, t.quantity = top

theorem offeredSizing_offers (hopen : desk.blocked r budget = false) :
    Offers (desk.offeredSizing r budget) (max 1 (r.maxQty desk.limits budget))
      (desk.baseQty r budget) := by
  have hplans := tierPlans_plans hopen
  have htiers : ∀ t ∈ (desk.tierPlans r budget).map (buildTier r budget),
      ∃ plan ∈ desk.tierPlans r budget, buildTier r budget plan = t := by
    intro t ht
    exact List.mem_map.mp ht
  have hbounds : ∀ t ∈ (desk.tierPlans r budget).map (buildTier r budget),
      0 < t.quantity ∧ t.quantity ≤ max 1 (r.maxQty desk.limits budget) := by
    intro t ht
    obtain ⟨plan, hplan, rfl⟩ := htiers t ht
    exact hplans.bounds plan hplan
  have hlargest : ∃ t ∈ (desk.tierPlans r budget).map (buildTier r budget),
      t.quantity = max 1 (r.maxQty desk.limits budget) := by
    obtain ⟨plan, hplan, hquantity⟩ := hplans.largest
    exact ⟨_, List.mem_map_of_mem hplan, hquantity⟩
  refine ⟨?_, ?_, hbounds, hlargest⟩
  · obtain ⟨plan, hplan⟩ := List.length_pos_iff_exists_mem.mp
      (by rw [hplans.one_default]; exact one_pos)
    obtain ⟨hplan, hdefault⟩ := List.mem_filter.mp hplan
    obtain ⟨t, hfold, htrue, hmem⟩ := foldl_pickDefault none
      (Or.inl ⟨_, List.mem_map_of_mem (f := buildTier r budget) hplan, hdefault⟩)
    have hdefault_tier : (desk.offeredSizing r budget).defaultTier = t := by
      unfold offeredSizing
      dsimp only
      rw [hfold]
      rfl
    rw [hdefault_tier]
    rcases hmem with hmem | hmem
    · obtain ⟨plan', hplan', rfl⟩ := htiers t hmem
      exact hplans.default_qty plan' hplan' htrue
    · cases hmem
  · obtain ⟨t, hfold, htop⟩ := foldl_pickMax none
      (fun t ht hid => by
        obtain ⟨plan, hplan, rfl⟩ := htiers t ht
        exact hplans.max_qty plan hplan hid)
      (fun t ht => (hbounds t ht).2) (fun t ht => by cases ht) (Or.inl hlargest)
    have hmax_tier : (desk.offeredSizing r budget).maxTier = t := by
      unfold offeredSizing
      dsimp only
      rw [hfold]
      rfl
    rw [hmax_tier, htop]

/-- What a sizing that returns is. -/
theorem calculateDynamicSizing_eq_ok {sizing : PositionSizing} :
    desk.calculateDynamicSizing r = .ok sizing
      ↔ ∃ budget, r.budget desk.limits = .ok budget ∧ (∀ cap ∈ r.riskDollarsCap, 0 < cap)
        ∧ sizing = if desk.blocked r budget then desk.blockedSizing r budget
          else desk.offeredSizing r budget := by
  unfold calculateDynamicSizing
  rw [except_bind_eq_ok]
  refine exists_congr (fun budget => and_congr_right (fun _ => ?_))
  rw [refuse_bind_eq_ok, Except.ok.injEq]
  refine and_congr ?_ eq_comm
  cases r.riskDollarsCap <;> simp

/-- **What is offered** by a sizing that returns, where it offers something. -/
theorem offers_of_eq_ok {sizing : PositionSizing} (h : desk.calculateDynamicSizing r = .ok sizing)
    (hbudget : r.budget desk.limits = .ok budget) :
    (desk.blocked r budget = true ∧ sizing = desk.blockedSizing r budget)
      ∨ desk.blocked r budget = false
        ∧ Offers sizing (max 1 (r.maxQty desk.limits budget)) (desk.baseQty r budget) := by
  obtain ⟨budget', hbudget', -, rfl⟩ := calculateDynamicSizing_eq_ok.mp h
  rw [hbudget] at hbudget'
  cases hbudget'
  cases hopen : desk.blocked r budget with
  | true => exact Or.inl ⟨rfl, by rw [if_pos rfl]⟩
  | false =>
    rw [if_neg Bool.false_ne_true]
    exact Or.inr ⟨rfl, offeredSizing_offers hopen⟩

/-! ## Two distances -/

section Distances

variable {stop target : ℚ}

/-- What dollars buy of a larger unit is no more, from one on: where there are none, nothing
is bought of either. -/
theorem max_one_div_le {buys : ℚ → ℤ} (hmono : Monotone buys) (hnone : ∀ x ≤ 0, buys x ≤ 1)
    {dollars unit unit' : ℚ} (hunit : 0 < unit) (hle : unit ≤ unit') :
    max 1 (buys (dollars / unit')) ≤ max 1 (buys (dollars / unit)) := by
  refine max_le (le_max_left _ _) ?_
  rcases le_or_gt 0 dollars with hdollars | hdollars
  · exact le_max_of_le_right (hmono (div_le_div_of_nonneg_left hdollars hunit hle))
  · exact le_max_of_le_left (hnone _ (div_nonpos_of_nonpos_of_nonneg hdollars.le
      (hunit.trans_le hle).le))

/-- **At a larger distance the largest size is no larger.** -/
theorem maxQty_le (hunit : r.perUnitRisk ≤ (r.atDistances stop target).perUnitRisk) :
    (r.atDistances stop target).maxQty desk.limits budget ≤ r.maxQty desk.limits budget := by
  unfold SizingRequest.maxQty
  refine max_le (le_max_left _ _) ?_
  rcases le_or_gt 0 (r.maxRiskDollars budget) with hrisk | hrisk
  · refine le_max_of_le_right ?_
    have hquotient := div_le_div_of_nonneg_left hrisk r.perUnitRisk_pos hunit
    exact_mod_cast truncate_mono (min_le_min_right _ (min_le_min_left _ hquotient))
  · refine le_max_of_le_left ?_
    have hraw : (r.atDistances stop target).rawMaxQty desk.limits budget ≤ 0 :=
      (min_le_left _ _).trans ((min_le_right _ _).trans
        (div_nonpos_of_nonpos_of_nonneg hrisk.le (r.atDistances stop target).perUnitRisk_pos.le))
    exact_mod_cast truncate_nonpos hraw

/-- **At a larger distance the default size is no larger.** -/
theorem max_one_baseQty_le (hunit : r.perUnitRisk ≤ (r.atDistances stop target).perUnitRisk) :
    max 1 (desk.baseQty (r.atDistances stop target) budget) ≤ max 1 (desk.baseQty r budget) := by
  have hmax : (r.atDistances stop target).maxQty desk.limits budget ≤ r.maxQty desk.limits budget :=
    maxQty_le hunit
  unfold baseQty
  dsimp only
  by_cases hequity : r.assetClass = .equity
  · rw [if_pos hequity, if_pos (show (r.atDistances stop target).assetClass = .equity from hequity)]
    have hbuys : max 1 (truncate (desk.rawBaseQty (r.atDistances stop target) budget) : ℚ)
        ≤ max 1 (truncate (desk.rawBaseQty r budget) : ℚ) := by
      exact_mod_cast max_one_div_le truncate_mono (fun x hx => (truncate_nonpos hx).trans
        zero_le_one) r.perUnitRisk_pos hunit
    generalize (truncate (desk.rawBaseQty (r.atDistances stop target) budget) : ℚ) = k' at hbuys ⊢
    generalize (truncate (desk.rawBaseQty r budget) : ℚ) = k at hbuys ⊢
    -- a base below one is raised to one on both sides
    have hmin : min ((r.atDistances stop target).maxQty desk.limits budget) k'
        ≤ max 1 (min (r.maxQty desk.limits budget) k) := by
      rcases le_max_iff.mp ((le_max_right _ _).trans hbuys) with hone | hle
      · exact le_max_of_le_left ((min_le_right _ _).trans hone)
      · exact le_max_of_le_right (min_le_min hmax hle)
    refine max_le (le_max_left _ _) (max_le (le_max_left _ _) (max_le ?_ (hmin.trans ?_)))
    · exact (le_max_left _ _).trans ((le_max_right _ _).trans (le_max_right _ _))
    · exact max_le_max le_rfl ((le_max_right _ _).trans (le_max_right _ _))
  · rw [if_neg hequity, if_neg (show (r.atDistances stop target).assetClass ≠ .equity from hequity)]
    cases desk.sizing.mode with
    | static => exact le_rfl
    | volatilityTargeted =>
      dsimp only
      refine max_le_max le_rfl ?_
      have hbuys : max 1 (roundHalfEven (desk.rawBaseQty (r.atDistances stop target) budget))
          ≤ max 1 (roundHalfEven (desk.rawBaseQty r budget)) :=
        max_one_div_le (fun _ _ h => roundHalfEven_mono h)
          (fun x hx => (roundHalfEven_nonpos hx).trans zero_le_one) r.perUnitRisk_pos hunit
      exact_mod_cast max_le_max le_rfl (min_le_min (truncate_mono hmax) hbuys)

end Distances

end SizingDesk

end AgenticTrader
