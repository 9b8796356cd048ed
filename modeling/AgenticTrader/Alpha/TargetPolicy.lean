import AgenticTrader.Alpha.ShadowPortfolio
import Mathlib.Algebra.Order.Ring.Abs
import Mathlib.Data.Finset.Card

/-!
# The targets of a shadow portfolio obey its policy

The solver is arbitrary, so what a target keeps to comes from the bounds that were set
for each symbol, from the policy that the optimiser clamps them with, and from its check
after the solve. `WithinBounds` is what the two bounds of a symbol say, whichever of the
branches sets them; `buildShadowPortfolio_obeysPolicy` puts it together with the check.

A position may be outside the per-name limit or the groups' caps when the build starts.
A locked one can then be in no feasible target, and the build does not succeed.
-/

namespace AgenticTrader

open Checks

/-! ## What a target is to obey -/

/-- The weight a symbol has in the account. -/
def PortfolioSnapshot.weight (snapshot : PortfolioSnapshot) (symbol : String) : ℚ :=
  (snapshot.holding symbol).getD 0 / snapshot.equityValue

/-- **A target obeys the policy**, up to the tolerance for each constraint. -/
structure ObeysPolicy (policy : PortfolioPolicy) (snapshot : PortfolioSnapshot)
    (symbols : List String) (target : Fin symbols.length → ℚ) : Prop where
  unmoved : ∀ i, symbols.get i ∈ snapshot.lockedSymbols ∨ symbols.get i ∉ snapshot.tradable →
    |target i - snapshot.weight (symbols.get i)| ≤ feasibilityTolerance
  liquid : ∀ i, ∃ cap, snapshot.liquidityCaps.lookup (symbols.get i) = some (.finite cap) ∧
    |target i - snapshot.weight (symbols.get i)|
      ≤ cap / snapshot.equityValue + feasibilityTolerance
  unshorted : ∀ i, symbols.get i ∉ snapshot.shortable →
    min 0 (snapshot.weight (symbols.get i)) - feasibilityTolerance ≤ target i
  perName : ∀ i, |target i| ≤ policy.perNameLimit + feasibilityTolerance
  gross : ∑ i, |target i| ≤ policy.grossLimit + feasibilityTolerance
  turnover : ∑ i, |target i - snapshot.weight (symbols.get i)|
    ≤ policy.turnoverLimit + feasibilityTolerance
  groups : ∀ group, (∃ i : Fin symbols.length, group ∈ snapshot.membership (symbols.get i)) →
    ∃ cap, snapshot.groupCaps.lookup group = some (.finite cap) ∧
      ∑ i with group ∈ snapshot.membership (symbols.get i), |target i|
        ≤ cap / snapshot.equityValue + feasibilityTolerance
  positions : (Finset.univ.filter fun i => feasibilityTolerance < |target i|).card
    ≤ policy.maxPositions
  neutral : policy.dollarNeutral = true → |∑ i, target i| ≤ feasibilityTolerance

/-! ## Selection -/

theorem subset_preselect (limit : ℕ) (ranked : List String) {selected : List String}
    {symbol : String} (hmem : symbol ∈ selected) :
    symbol ∈ preselect limit selected ranked := by
  induction ranked generalizing selected with
  | nil => exact hmem
  | cons name ranked ih =>
    unfold preselect
    split
    · exact hmem
    · apply ih
      split
      · exact hmem
      · exact List.mem_cons_of_mem _ hmem

/-- The loop stops at the count. -/
theorem length_preselect_le {limit : ℕ} (ranked : List String) {selected : List String}
    (hle : selected.length ≤ limit) : (preselect limit selected ranked).length ≤ limit := by
  induction ranked generalizing selected with
  | nil => exact hle
  | cons name ranked ih =>
    unfold preselect
    split
    · exact hle
    · rename_i hlt
      apply ih
      split
      · exact hle
      · rw [List.length_cons]
        omega

theorem mem_heldSymbols {symbols : List String} {current : Fin symbols.length → ℚ}
    {i : Fin symbols.length} (hi : current i ≠ 0) : symbols.get i ∈ heldSymbols current :=
  List.mem_map.mpr ⟨i, List.mem_filter.mpr ⟨List.mem_finRange i, by simpa using hi⟩, rfl⟩

theorem nodup_symbolsOf (forecasts : List CombinedForecast) (snapshot : PortfolioSnapshot) :
    (symbolsOf forecasts snapshot).Nodup :=
  (List.perm_insertionSort _ _).nodup_iff.mpr (List.nodup_dedup _)

/-! ## The bounds of one symbol -/

section Bounds

variable {policy : PortfolioPolicy} {snapshot : PortfolioSnapshot} {symbol : String}

/-- An admitted account has something. -/
theorem equity_of_admit {now : Time} (h : snapshot.admit policy now = .ok ()) :
    ∃ equity, snapshot.equity = .finite equity ∧ 0 < equity := by
  unfold PortfolioSnapshot.admit at h
  obtain ⟨-, h⟩ := refuse_bind_eq_ok.mp h
  cases hequity : snapshot.equity with
  | finite equity =>
    refine ⟨equity, rfl, ?_⟩
    by_contra hnot
    rw [hequity] at h
    simp [refuse, Extended.isFinite, Extended.pos, Extended.lt, hnot] at h
  | infinity negative =>
    rw [hequity] at h
    cases h
  | nan =>
    rw [hequity] at h
    cases h

theorem currentWeight_eq_ok {weight : ℚ} (h : snapshot.currentWeight symbol = .ok weight) :
    (snapshot.holding symbol).isFinite = true ∧ weight = snapshot.weight symbol := by
  unfold PortfolioSnapshot.currentWeight at h
  unfold PortfolioSnapshot.weight
  cases hholding : snapshot.holding symbol with
  | finite value =>
    rw [hholding] at h
    cases h
    exact ⟨rfl, rfl⟩
  | infinity negative =>
    rw [hholding] at h
    cases h
  | nan =>
    rw [hholding] at h
    cases h

/-- What the bounds of a symbol with some weight say. -/
structure WithinBounds (snapshot : PortfolioSnapshot) (selected : List String)
    (symbol : String) (weight lower upper : ℚ) : Prop where
  unmoved : symbol ∈ snapshot.lockedSymbols ∨ symbol ∉ snapshot.tradable →
    lower = weight ∧ upper = weight
  unselected : symbol ∉ selected → lower = 0 ∧ upper = 0
  liquid : ∃ cap, snapshot.liquidityCaps.lookup symbol = some (.finite cap) ∧
    weight - cap / snapshot.equityValue ≤ lower ∧ upper ≤ weight + cap / snapshot.equityValue
  unshorted : symbol ∉ snapshot.shortable → min 0 weight ≤ lower

/-- **The bounds are within what the account allows**, for a symbol that is selected if
it has a weight. -/
theorem bounds_within {selected : List String} {weight : ℚ} {bounds : ℚ × ℚ}
    (hheld : weight ≠ 0 → symbol ∈ selected)
    (h : snapshot.bounds policy selected symbol weight = .ok bounds) :
    WithinBounds snapshot selected symbol weight bounds.1 bounds.2 := by
  unfold PortfolioSnapshot.bounds at h
  split at h
  · rename_i cap membership hcap hgroups
    obtain ⟨hnonneg, h⟩ := refuse_bind_eq_ok.mp h
    replace hnonneg : 0 ≤ cap / snapshot.equityValue := by simpa using hnonneg
    have hzero : symbol ∉ selected → weight = 0 := fun hnot => by
      by_contra hne
      exact hnot (hheld hne)
    split at h
    · -- What is locked stays, and has no weight unless it is selected.
      cases h
      refine ⟨fun _ => ⟨rfl, rfl⟩, fun hnot => ⟨hzero hnot, hzero hnot⟩,
        ⟨cap, hcap, ?_, ?_⟩, fun _ => min_le_right _ _⟩
      · linarith
      · linarith
    · rename_i hmoves
      split at h
      · rename_i hnot
        cases h
        have hweight := hzero hnot
        subst hweight
        refine ⟨fun hlocked => absurd hlocked hmoves, fun _ => ⟨rfl, rfl⟩,
          ⟨cap, hcap, ?_, ?_⟩, fun _ => min_le_left _ _⟩
        · show 0 - cap / snapshot.equityValue ≤ 0
          linarith
        · show (0 : ℚ) ≤ 0 + cap / snapshot.equityValue
          linarith
      · rename_i hselected
        cases h
        have hminimum : weight - cap / snapshot.equityValue
            ≤ max (-policy.perNameLimit) (weight - cap / snapshot.equityValue) :=
          le_max_right _ _
        refine ⟨fun hlocked => absurd hlocked hmoves, fun hnot => absurd hnot hselected,
          ⟨cap, hcap, ?_, min_le_right _ _⟩, fun hshort => ?_⟩
        · show _ ≤ if symbol ∈ snapshot.shortable then _ else _
          split
          · exact hminimum
          · exact hminimum.trans (le_max_left _ _)
        · show _ ≤ if symbol ∈ snapshot.shortable then _ else _
          rw [if_neg hshort]
          exact le_max_right _ _
  · cases h
  · cases h

end Bounds

/-! ## The target -/

section Target

variable {policy : PortfolioPolicy} {snapshot : PortfolioSnapshot} {symbols : List String}

/-- The policy of the optimiser that a build makes. -/
theorem make_eq_ok {optimizer : ConvexAlphaPortfolioOptimizer}
    (h : ConvexAlphaPortfolioOptimizer.make policy.riskAversion policy.costPerSide
      policy.grossLimit policy.perNameLimit none policy.dollarNeutral false
      policy.maxFactorExposure (some policy.turnoverLimit) 5 policy.uncertaintyAversion
      = .ok optimizer) :
    optimizer.grossLeverageLimit = policy.grossLimit ∧
      optimizer.maxPositionWeight = policy.perNameLimit ∧
      optimizer.minPositionWeight = -policy.perNameLimit ∧
      optimizer.dollarNeutral = policy.dollarNeutral ∧
      optimizer.maxTurnover = some policy.turnoverLimit := by
  unfold ConvexAlphaPortfolioOptimizer.make at h
  obtain ⟨-, h⟩ := refuse_bind_eq_ok.mp h
  obtain ⟨-, h⟩ := refuse_bind_eq_ok.mp h
  cases h
  exact ⟨rfl, rfl, rfl, rfl, rfl⟩

/-- The gross weight of a group, as the matrix has it. -/
theorem sum_entry_mul_abs (target : Fin symbols.length → ℚ)
    (g : Fin (snapshot.groupsOf symbols).length) :
    ∑ i, (snapshot.groupLimits symbols).entry i g * |target i|
      = ∑ i with (snapshot.groupsOf symbols).get g ∈ snapshot.membership (symbols.get i),
          |target i| := by
  rw [Finset.sum_filter]
  refine Finset.sum_congr rfl fun i _ => ?_
  show (if (snapshot.groupsOf symbols).get g ∈ snapshot.membership (symbols.get i) then (1 : ℚ)
    else 0) * |target i| = _
  split
  · exact one_mul _
  · exact zero_mul _

/-- A cap that is finite once divided by the equity was given, and is finite. -/
theorem lookup_of_div_eq_finite {caps : List (String × Extended ℚ)} {group : String}
    {equity value : ℚ}
    (h : ((caps.lookup group).getD .nan).div (.finite equity) = .finite value) :
    ∃ cap, caps.lookup group = some (.finite cap) ∧ value = cap / equity := by
  cases hcap : caps.lookup group with
  | none =>
    rw [hcap] at h
    cases h
  | some cap =>
    rw [hcap] at h
    cases cap with
    | finite cap =>
      cases h
      exact ⟨cap, rfl, rfl⟩
    | infinity negative => cases h
    | nan => cases h

/-- No more symbols are outside the tolerance than are selected. -/
theorem card_outside_le {selected : List String} {target : Fin symbols.length → ℚ}
    (hnodup : symbols.Nodup)
    (hmem : ∀ i, feasibilityTolerance < |target i| → symbols.get i ∈ selected) :
    (Finset.univ.filter fun i => feasibilityTolerance < |target i|).card
      ≤ selected.length := by
  calc (Finset.univ.filter fun i => feasibilityTolerance < |target i|).card
      ≤ selected.toFinset.card := by
        refine Finset.card_le_card_of_injOn symbols.get (fun i hi => ?_) ?_
        · exact List.mem_toFinset.mpr (hmem i (Finset.mem_filter.mp hi).2)
        · intro i _ j _ hij
          exact Fin.ext ((hnodup.getElem_inj_iff).mp hij)
    _ ≤ selected.length := List.toFinset_card_le _

/-- **Whatever is feasible obeys the policy**, with bounds that are within what the
account allows. -/
theorem obeysPolicy_of_feasible {selected : List String} {current : Fin symbols.length → ℚ}
    {bounds : Fin symbols.length → ℚ × ℚ} {optimizer : ConvexAlphaPortfolioOptimizer}
    {inputs : OptimizeInputs symbols.length} {problem : Problem symbols.length}
    {target : Fin symbols.length → ℚ} (hnodup : symbols.Nodup)
    (hselected : selected.length ≤ policy.maxPositions)
    (hcurrent : ∀ i, current i = snapshot.weight (symbols.get i))
    (hbounds : ∀ i, WithinBounds snapshot selected (symbols.get i) (current i) (bounds i).1
      (bounds i).2)
    (hgiven : inputs.currentWeights = some current ∧
      inputs.lowerBounds = some (fun i => (bounds i).1) ∧
      inputs.upperBounds = some (fun i => (bounds i).2) ∧
      inputs.groupLimits = some (snapshot.groupLimits symbols))
    (hmake : optimizer.grossLeverageLimit = policy.grossLimit ∧
      optimizer.maxPositionWeight = policy.perNameLimit ∧
      optimizer.minPositionWeight = -policy.perNameLimit ∧
      optimizer.dollarNeutral = policy.dollarNeutral ∧
      optimizer.maxTurnover = some policy.turnoverLimit)
    (hposed : optimizer.Poses inputs problem) (hfeasible : problem.Feasible target) :
    ObeysPolicy policy snapshot symbols target := by
  obtain ⟨hweights, hlowers, huppers, hgroups⟩ := hgiven
  obtain ⟨hgross, hmax, hmin, hneutral, hturnover⟩ := hmake
  have hlower : ∀ i, max (bounds i).1 (-policy.perNameLimit) - feasibilityTolerance ≤ target i :=
    fun i => by simpa [hposed.lower, hlowers, hmin] using hfeasible.lower i
  have hupper : ∀ i, target i ≤ min (bounds i).2 policy.perNameLimit + feasibilityTolerance :=
    fun i => by simpa [hposed.upper, huppers, hmax] using hfeasible.upper i
  have hlow : ∀ i, (bounds i).1 - feasibilityTolerance ≤ target i := fun i => by
    linarith [hlower i, le_max_left (bounds i).1 (-policy.perNameLimit)]
  have hup : ∀ i, target i ≤ (bounds i).2 + feasibilityTolerance := fun i => by
    linarith [hupper i, min_le_left (bounds i).2 policy.perNameLimit]
  refine ⟨fun i hi => ?_, fun i => ?_, fun i hi => ?_, fun i => ?_, ?_, ?_, ?_, ?_, ?_⟩
  · obtain ⟨h₁, h₂⟩ := (hbounds i).unmoved hi
    rw [← hcurrent i]
    exact abs_le.mpr ⟨by linarith [hlow i], by linarith [hup i]⟩
  · obtain ⟨cap, hcap, h₁, h₂⟩ := (hbounds i).liquid
    refine ⟨cap, hcap, ?_⟩
    rw [← hcurrent i]
    exact abs_le.mpr ⟨by linarith [hlow i], by linarith [hup i]⟩
  · rw [← hcurrent i]
    linarith [(hbounds i).unshorted hi, hlow i]
  · refine abs_le.mpr ⟨?_, ?_⟩
    · linarith [hlower i, le_max_right (bounds i).1 (-policy.perNameLimit)]
    · linarith [hupper i, min_le_right (bounds i).2 policy.perNameLimit]
  · have := hfeasible.gross
    rwa [hposed.gross, hgross] at this
  · have := hfeasible.turnover policy.turnoverLimit (by rw [hposed.turnover, hturnover]; rfl)
    rw [hposed.current, hweights] at this
    simpa [turnoverOf, hcurrent] using this
  · rintro group ⟨i, hi⟩
    have hgroup : group ∈ snapshot.groupsOf symbols :=
      (List.mem_insertionSort _).mpr (List.mem_dedup.mpr
        (List.mem_flatMap.mpr ⟨symbols.get i, List.get_mem _ _, hi⟩))
    obtain ⟨g, hg, rfl⟩ := List.mem_iff_getElem.mp hgroup
    have hread := hposed.groups
    rw [hgroups] at hread
    obtain ⟨groups, hfinite, hread⟩ := except_bind_eq_ok.mp hread
    obtain ⟨caps, hcaps, rfl⟩ := GroupLimits.finite?_eq_ok hfinite
    obtain ⟨cap, hcap, hvalue⟩ := lookup_of_div_eq_finite (hcaps ⟨g, hg⟩)
    have hsum := hfeasible.groups _ (Option.mem_def.mpr (Except.ok.inj hread).symm) ⟨g, hg⟩
    refine ⟨cap, hcap, ?_⟩
    rw [← hvalue]
    exact (sum_entry_mul_abs target ⟨g, hg⟩).symm.trans_le hsum
  · refine (card_outside_le hnodup fun i hi => ?_).trans hselected
    by_contra hnot
    obtain ⟨h₁, h₂⟩ := (hbounds i).unselected hnot
    have : |target i| ≤ feasibilityTolerance :=
      abs_le.mpr ⟨by linarith [hlow i], by linarith [hup i]⟩
    linarith
  · intro h
    exact hfeasible.neutral (by rw [hposed.neutral, hneutral, h])

end Target

/-! ## The build -/

/-- **A target that is returned obeys its policy**, whatever the solver does. -/
theorem buildShadowPortfolio_obeysPolicy (numerics : Numerics)
    (forecasts : List CombinedForecast) (returns : ReturnHistory)
    (snapshot : PortfolioSnapshot) (now : Time) (riskContract : ForecastContract)
    (policy : Option PortfolioPolicy) (portfolio : ShadowPortfolio)
    (h : buildShadowPortfolio numerics forecasts returns snapshot now riskContract policy
      = .ok portfolio) (hsuccess : portfolio.result.success = true) :
    portfolio.symbols = symbolsOf forecasts snapshot ∧
      (∃ equity, snapshot.equity = .finite equity ∧ 0 < equity) ∧
      (∀ symbol ∈ portfolio.symbols, (snapshot.holding symbol).isFinite = true) ∧
      ∃ target, portfolio.result.weights = some target ∧
        ObeysPolicy (policy.getD .standard) snapshot portfolio.symbols target := by
  unfold buildShadowPortfolio at h
  obtain ⟨_, hadmit, h⟩ := except_bind_eq_ok.mp h
  obtain ⟨-, -, h⟩ := except_bind_eq_ok.mp h
  obtain ⟨-, h⟩ := refuse_bind_eq_ok.mp h
  obtain ⟨-, -, h⟩ := except_bind_eq_ok.mp h
  obtain ⟨current, hcurrent, h⟩ := except_bind_eq_ok.mp h
  obtain ⟨hheld, h⟩ := refuse_bind_eq_ok.mp h
  obtain ⟨bounds, hbounds, h⟩ := except_bind_eq_ok.mp h
  obtain ⟨-, h⟩ := refuse_bind_eq_ok.mp h
  obtain ⟨-, h⟩ := refuse_bind_eq_ok.mp h
  obtain ⟨factorMatrix, -, h⟩ := except_bind_eq_ok.mp h
  obtain ⟨optimizer, hmake, h⟩ := except_bind_eq_ok.mp h
  obtain ⟨result, hresult, h⟩ := except_bind_eq_ok.mp h
  cases h
  obtain ⟨problem, target, hposed, hfeasible, hweights⟩ :=
    ConvexAlphaPortfolioOptimizer.optimize_feasible hresult hsuccess
  refine ⟨rfl, equity_of_admit hadmit, fun symbol hsymbol => ?_, target, hweights, ?_⟩
  · obtain ⟨i, hi, rfl⟩ := List.mem_iff_getElem.mp hsymbol
    exact (currentWeight_eq_ok (vectorM_eq_ok hcurrent ⟨i, hi⟩)).1
  have hselected := length_preselect_le (rankedSymbols forecasts)
    (not_lt.mp (of_decide_eq_false hheld))
  refine obeysPolicy_of_feasible (nodup_symbolsOf forecasts snapshot) hselected
    (fun i => (currentWeight_eq_ok (vectorM_eq_ok hcurrent i)).2) (fun i => ?_)
    ⟨rfl, rfl, rfl, rfl⟩ (make_eq_ok hmake) hposed hfeasible
  exact bounds_within
    (fun hi => subset_preselect _ _ (mem_heldSymbols hi)) (vectorM_eq_ok hbounds i)

/-! ## A locked holding -/

theorem spyTarget_horizon : 1 ≤ 1 ∧ 1 ≤ 60 := ⟨le_rfl, by norm_num⟩

theorem spyContract_named : "sip" ≠ "" ∧ "split" ≠ "" ∧ "USD" ≠ "" := by decide

/-- The contract of hourly forecasts. -/
def spyContract : ForecastContract where
  target :=
    { timeframe := .h1, horizonBars := 1, label := .closeToClose, horizon := spyTarget_horizon }
  feed := "sip"
  adjustment := "split"
  barLayout := .fixedDuration
  currency := "USD"
  named := spyContract_named

/-- A forecast for SPY. -/
def spyForecast : CombinedForecast where
  symbol := "SPY"
  contract := spyContract
  observedAt := 0
  expectedReturn := .finite (1 / 500)
  standardError := .finite 0
  contributors := ["alpha"]
  families := ["family"]
  calibrationIds := ["calibration"]

/-- An account that holds a tenth of its equity in SPY, locked. -/
def spyLocked : PortfolioSnapshot where
  asOf := 0
  accountVersion := "account"
  dataVersion := "data"
  configVersion := "config"
  equity := .finite 100000
  holdings := [("SPY", .finite 10000)]
  reservations := []
  lockedSymbols := ["SPY"]
  shortable := ["SPY"]
  tradable := ["SPY"]
  liquidityCaps := [("SPY", .finite 20000)]
  groups := [("SPY", .one "equity")]
  groupCaps := [("equity", .finite 40000)]
  factorExposures := none

/-- Sixty instants without a return. -/
def spyReturns : ReturnHistory where
  index := (List.range 60).map fun k => some ((k : Time) - 59)
  aware := true
  columns := [("SPY", List.replicate 60 (.finite 0))]

/-- A solver that is right where the bounds leave one weight, with a covariance of
zero. -/
def boundsSolver : Numerics where
  eigvalshMin _ := 0
  sqrt _ := 0
  solve problem := .stopped "optimal" (some fun i => .finite (problem.lower i)) 0

/-- The build succeeds, and what is locked keeps its weight of a tenth, up to the tolerance. -/
theorem spyLocked_obeysPolicy :
    ∃ portfolio target, buildShadowPortfolio boundsSolver [spyForecast] spyReturns spyLocked 0
        spyContract none = .ok portfolio ∧ portfolio.result.weights = some target ∧
      portfolio.symbols = ["SPY"] ∧ ∀ i, |target i - 1 / 10| ≤ feasibilityTolerance := by
  have hrun : (match buildShadowPortfolio boundsSolver [spyForecast] spyReturns spyLocked 0
        spyContract none with
      | .ok portfolio => portfolio.result.success && decide (portfolio.symbols = ["SPY"])
      | .error _ => false) = true := by
    decide +kernel
  have hweight : spyLocked.weight "SPY" = 1 / 10 := by decide +kernel
  split at hrun
  · rename_i portfolio hportfolio
    obtain ⟨hsuccess, hsymbols⟩ := Bool.and_eq_true_iff.mp hrun
    obtain ⟨-, -, -, target, hweights, hobeys⟩ := buildShadowPortfolio_obeysPolicy boundsSolver
      [spyForecast] spyReturns spyLocked 0 spyContract none portfolio hportfolio hsuccess
    refine ⟨portfolio, target, hportfolio, hweights, of_decide_eq_true hsymbols, fun i => ?_⟩
    have hname : portfolio.symbols.get i = "SPY" := by
      have hall : ∀ name ∈ portfolio.symbols, name = "SPY" := by
        rw [of_decide_eq_true hsymbols]
        exact fun name => List.mem_singleton.mp
      exact hall _ (List.get_mem portfolio.symbols i)
    have hlocked := hobeys.unmoved i (.inl (by rw [hname]; exact List.mem_singleton_self _))
    rw [hname, hweight] at hlocked
    exact hlocked
  · cases hrun

end AgenticTrader
