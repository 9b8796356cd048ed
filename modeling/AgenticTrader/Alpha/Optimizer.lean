import AgenticTrader.Library.Checks
import AgenticTrader.Library.Extended
import Mathlib.Algebra.BigOperators.Fin
import Mathlib.Algebra.Order.BigOperators.Group.Finset
import Mathlib.Algebra.Order.Field.Rat
import Mathlib.Tactic.Linarith

/-!
# The convex optimiser

`ConvexAlphaPortfolioOptimizer` (`research/alpha/optimizer.py`) hands a problem to a
solver and checks what comes back. The solver is arbitrary: it returns an error, or a
status and perhaps a vector, whose entries need not be finite. A vector is a function
of the places of the symbols, so that its length is that of the expected returns; the
covariance has a size of its own.

`optimize_feasible` is what a successful result says: its weights passed the
check after the solve. The labels of a data frame, the diagnostics and the solver's own
tolerances are left out.
-/

namespace AgenticTrader

open Checks

/-- `FEASIBILITY_TOLERANCE`. -/
def feasibilityTolerance : ℚ := 1 / 10 ^ 7

/-- **The policy of a `ConvexAlphaPortfolioOptimizer`.** -/
structure ConvexAlphaPortfolioOptimizer where
  riskAversion : ℚ
  transactionCostRate : ℚ
  grossLeverageLimit : ℚ
  maxPositionWeight : ℚ
  minPositionWeight : ℚ
  dollarNeutral : Bool
  maxFactorExposure : Option ℚ
  maxTurnover : Option ℚ
  solverSeconds : ℚ
  uncertaintyAversion : ℚ

/-- **`__init__`**, with the two ways to set the smallest weight. -/
def ConvexAlphaPortfolioOptimizer.make (riskAversion transactionCostRate grossLeverageLimit
    maxPositionWeight : ℚ) (minPositionWeight : Option ℚ) (dollarNeutral longOnly : Bool)
    (maxFactorExposure maxTurnover : Option ℚ) (solverSeconds uncertaintyAversion : ℚ) :
    Except String ConvexAlphaPortfolioOptimizer := do
  let minPositionWeight :=
    if longOnly then 0 else minPositionWeight.getD (-maxPositionWeight)
  refuse (riskAversion ≤ 0 || grossLeverageLimit ≤ 0 || maxPositionWeight ≤ 0
    || solverSeconds ≤ 0 || maxPositionWeight < minPositionWeight) "Invalid optimizer policy"
  refuse (transactionCostRate < 0 || maxFactorExposure.any (· < 0) || maxTurnover.any (· < 0)
    || uncertaintyAversion < 0) "Invalid cost/exposure constraint"
  pure
    { riskAversion, transactionCostRate, grossLeverageLimit, maxPositionWeight,
      minPositionWeight, dollarNeutral, maxFactorExposure, maxTurnover, solverSeconds,
      uncertaintyAversion }

/-- The exposures of the symbols to some factors. -/
structure FactorMatrix (n : ℕ) where
  count : ℕ
  entry : Fin n → Fin count → Extended ℚ

/-- The memberships of the symbols in some groups, and a cap for each. -/
structure GroupLimits (n : ℕ) where
  count : ℕ
  entry : Fin n → Fin count → ℚ
  cap : Fin count → Extended ℚ

/-- The same, where they are finite. -/
structure Factors (n : ℕ) where
  count : ℕ
  entry : Fin n → Fin count → ℚ
  bound : ℚ

/-- The same, where the caps are finite. -/
structure Groups (n : ℕ) where
  count : ℕ
  entry : Fin n → Fin count → ℚ
  cap : Fin count → ℚ

/-- **The problem the solver is given**: what the objective is made of, and the
constraints. -/
structure Problem (n : ℕ) where
  alpha : Fin n → ℚ
  sigma : Fin n → Fin n → ℚ
  errors : Fin n → ℚ
  current : Fin n → ℚ
  riskAversion : ℚ
  transactionCostRate : ℚ
  uncertaintyAversion : ℚ
  lower : Fin n → ℚ
  upper : Fin n → ℚ
  grossLimit : ℚ
  dollarNeutral : Bool
  factors : Option (Factors n)
  maxTurnover : Option ℚ
  groups : Option (Groups n)

/-- What the solver does with a problem. -/
inductive SolverOutcome (n : ℕ) where
  | solverError (text : String)
  | stopped (status : String) (value : Option (Fin n → Extended ℚ)) (iterations : ℕ)

/-- The numerical routines: the smallest eigenvalue, the square root, the solver. -/
structure Numerics where
  eigvalshMin : {n : ℕ} → (Fin n → Fin n → ℚ) → ℚ
  sqrt : ℚ → ℚ
  solve : {n : ℕ} → Problem n → SolverOutcome n

/-- **`PortfolioOptimizationResult`**, less its diagnostics. -/
structure PortfolioOptimizationResult (n : ℕ) where
  success : Bool
  weights : Option (Fin n → ℚ)
  alphaCapture : ℚ := 0
  portfolioVariance : ℚ := 0
  portfolioVolatility : ℚ := 0
  turnover : ℚ := 0
  netExposure : ℚ := 0
  grossLeverage : ℚ := 0
  iterations : ℕ := 0
  message : String := ""
  riskPenalty : ℚ := 0
  transactionCost : ℚ := 0
  uncertaintyPenalty : ℚ := 0
  objective : ℚ := 0

variable {n : ℕ}

/-- `PortfolioOptimizationResult(False, None, message=...)`. -/
def PortfolioOptimizationResult.failed (message : String) : PortfolioOptimizationResult n :=
  { success := false, weights := none, message }

/-- `abs(weights).sum()`. -/
def grossOf (weights : Fin n → ℚ) : ℚ := ∑ i, |weights i|

/-- `abs(weights - current).sum()`. -/
def turnoverOf (weights current : Fin n → ℚ) : ℚ := ∑ i, |weights i - current i|

/-- The constraints that the policy has, up to the tolerance. -/
structure Problem.Feasible (problem : Problem n) (target : Fin n → ℚ) : Prop where
  lower : ∀ i, problem.lower i - feasibilityTolerance ≤ target i
  upper : ∀ i, target i ≤ problem.upper i + feasibilityTolerance
  gross : grossOf target ≤ problem.grossLimit + feasibilityTolerance
  neutral : problem.dollarNeutral = true → |∑ i, target i| ≤ feasibilityTolerance
  factors : ∀ factors ∈ problem.factors, ∀ k,
    |∑ i, factors.entry i k * target i| ≤ factors.bound + feasibilityTolerance
  turnover : ∀ limit ∈ problem.maxTurnover,
    turnoverOf target problem.current ≤ limit + feasibilityTolerance
  groups : ∀ groups ∈ problem.groups, ∀ g,
    ∑ i, groups.entry i g * |target i| ≤ groups.cap g + feasibilityTolerance

/-- `feasible`, of a target whose entries are finite. -/
def Problem.feasible (problem : Problem n) (target : Fin n → ℚ) : Bool :=
  decide (∀ i, problem.lower i - feasibilityTolerance ≤ target i)
    && decide (∀ i, target i ≤ problem.upper i + feasibilityTolerance)
    && decide (grossOf target ≤ problem.grossLimit + feasibilityTolerance)
    && (!problem.dollarNeutral || decide (|∑ i, target i| ≤ feasibilityTolerance))
    && problem.factors.all (fun factors => decide (∀ k,
      |∑ i, factors.entry i k * target i| ≤ factors.bound + feasibilityTolerance))
    && problem.maxTurnover.all (fun limit =>
      decide (turnoverOf target problem.current ≤ limit + feasibilityTolerance))
    && problem.groups.all (fun groups => decide (∀ g,
      ∑ i, groups.entry i g * |target i| ≤ groups.cap g + feasibilityTolerance))

theorem Problem.feasible_iff (problem : Problem n) (target : Fin n → ℚ) :
    problem.feasible target = true ↔ problem.Feasible target := by
  simp only [feasible, Bool.and_eq_true, decide_eq_true_eq, Bool.or_eq_true,
    Bool.not_eq_true', Option.all_eq_true]
  constructor
  · rintro ⟨⟨⟨⟨⟨⟨lower, upper⟩, gross⟩, neutral⟩, factors⟩, turnover⟩, groups⟩
    refine ⟨lower, upper, gross, fun h => ?_, factors, turnover, groups⟩
    simpa [h] using neutral
  · intro h
    refine ⟨⟨⟨⟨⟨⟨h.lower, h.upper⟩, h.gross⟩, ?_⟩, h.factors⟩, h.turnover⟩, h.groups⟩
    cases hneutral : problem.dollarNeutral with
    | false => exact .inl rfl
    | true => exact .inr (h.neutral hneutral)

/-- The entries, where all of them are finite. -/
def finiteVector (vector : Fin n → Extended ℚ) : Option (Fin n → ℚ) :=
  if ∀ i, (vector i).isFinite then some fun i => (vector i).getD 0 else none

/-- `float(target @ sigma @ target)`. -/
def Problem.variance (problem : Problem n) (target : Fin n → ℚ) : ℚ :=
  ∑ i, ∑ j, target i * problem.sigma i j * target j

/-- What is reported of a target that passed the check. -/
def Problem.report (problem : Problem n) (sqrt : ℚ → ℚ) (target : Fin n → ℚ)
    (status : String) (iterations : ℕ) : PortfolioOptimizationResult n :=
  let alphaCapture := ∑ i, problem.alpha i * target i
  let variance := problem.variance target
  let riskPenalty := problem.riskAversion * variance / 2
  let turnover := turnoverOf target problem.current
  let transactionCost := problem.transactionCostRate * turnover
  let uncertaintyPenalty :=
    problem.uncertaintyAversion * ∑ i, problem.errors i * |target i|
  { success := true
    weights := some target
    alphaCapture
    portfolioVariance := variance
    portfolioVolatility := sqrt (max 0 variance)
    turnover
    netExposure := ∑ i, target i
    grossLeverage := grossOf target
    iterations
    message := status
    riskPenalty
    transactionCost
    uncertaintyPenalty
    objective := alphaCapture - riskPenalty - transactionCost - uncertaintyPenalty }

/-- The solve, and **the check after it**. -/
def Problem.settle (problem : Problem n) (numerics : Numerics) :
    PortfolioOptimizationResult n :=
  match numerics.solve problem with
  | .solverError text => .failed ("solver_error:" ++ text)
  | .stopped status value iterations =>
    match if status ≠ "optimal" then none else value with
    | none => .failed ("solver_status:" ++ status)
    | some value =>
      match (finiteVector value).filter problem.feasible with
      | none => .failed "post_solve_constraint_violation"
      | some target => problem.report numerics.sqrt target status iterations

/-- What the caller may give beside the expected returns and the covariance. -/
structure OptimizeInputs (n : ℕ) where
  factorMatrix : Option (FactorMatrix n) := none
  currentWeights : Option (Fin n → ℚ) := none
  lowerBounds : Option (Fin n → ℚ) := none
  upperBounds : Option (Fin n → ℚ) := none
  groupLimits : Option (GroupLimits n) := none
  alphaStandardError : Option (Fin n → ℚ) := none

/-- `np.allclose(sigma, sigma.T, atol=1e-12, rtol=1e-10)`. -/
def nearlySymmetric (sigma : Fin n → Fin n → ℚ) : Bool :=
  decide (∀ i j, |sigma i j - sigma j i| ≤ 1 / 10 ^ 12 + 1 / 10 ^ 10 * |sigma j i|)

/-- The factors with their bound: read where both are there. -/
def FactorMatrix.finite? (factors : FactorMatrix n) (bound : ℚ) : Except String (Factors n) := do
  refuse (factors.count = 0 || !decide (∀ i k, (factors.entry i k).isFinite))
    "Factor matrix shape/nonfinite mismatch"
  pure { factors with entry := fun i k => (factors.entry i k).getD 0, bound }

/-- The groups, where their caps are finite and nothing is below zero. -/
def GroupLimits.finite? (limits : GroupLimits n) : Except String (Groups n) := do
  let cap (g : Fin limits.count) : ℚ := (limits.cap g).getD 0
  refuse (!decide (∀ g, (limits.cap g).isFinite) || decide (∃ i g, limits.entry i g < 0)
    || decide (∃ g, cap g < 0)) "Invalid group constraints"
  pure { limits with cap }

/-- **`optimize`.** -/
def ConvexAlphaPortfolioOptimizer.optimize (optimizer : ConvexAlphaPortfolioOptimizer)
    (numerics : Numerics) (alpha : Fin n → ℚ) {m : ℕ} (covariance : Fin m → Fin m → ℚ)
    (inputs : OptimizeInputs n) : Except String (PortfolioOptimizationResult n) := do
  refuse (n = 0) "Expected returns must be a nonempty finite vector"
  if hsize : n = m then
    let sigma (i j : Fin n) : ℚ := covariance (i.cast hsize) (j.cast hsize)
    refuse (!nearlySymmetric sigma) "Covariance must be finite, square and symmetric"
    refuse (numerics.eigvalshMin sigma < -(1 / 10 ^ 10))
      "Covariance must be positive semidefinite"
    refuse (0 < optimizer.uncertaintyAversion && inputs.alphaStandardError.isNone)
      "Forecast standard errors required for uncertainty penalty"
    let errors := inputs.alphaStandardError.getD fun _ => 0
    refuse (decide (∃ i, errors i < 0)) "Forecast standard errors must be nonnegative"
    let current := inputs.currentWeights.getD fun _ => 0
    let lower := inputs.lowerBounds.getD fun _ => optimizer.minPositionWeight
    let upper := inputs.upperBounds.getD fun _ => optimizer.maxPositionWeight
    refuse (decide (∃ i, upper i < lower i)) "Inconsistent asset bounds"
    let read ← inputs.factorMatrix.mapM
      (FactorMatrix.finite? · (optimizer.maxFactorExposure.getD 0))
    refuse (optimizer.maxFactorExposure.isSome && read.isNone)
      "Configured factor constraint requires observations"
    let groups ← inputs.groupLimits.mapM GroupLimits.finite?
    let problem : Problem n :=
      { alpha, sigma, errors, current
        riskAversion := optimizer.riskAversion
        transactionCostRate := optimizer.transactionCostRate
        uncertaintyAversion := optimizer.uncertaintyAversion
        -- The bounds of a symbol may tighten the policy, never relax it.
        lower := fun i => max (lower i) optimizer.minPositionWeight
        upper := fun i => min (upper i) optimizer.maxPositionWeight
        grossLimit := optimizer.grossLeverageLimit
        dollarNeutral := optimizer.dollarNeutral
        factors := read.filter fun _ => optimizer.maxFactorExposure.isSome
        maxTurnover := optimizer.maxTurnover
        groups }
    pure (problem.settle numerics)
  else
    throw "Covariance must be finite, square and symmetric"

/-! ## A successful result -/

/-- **What is returned as a success passed the check**, whatever the solver did. -/
theorem Problem.settle_feasible (problem : Problem n) (numerics : Numerics)
    (hsuccess : (problem.settle numerics).success = true) :
    ∃ target, (problem.settle numerics).weights = some target ∧ problem.Feasible target := by
  unfold settle at hsuccess ⊢
  cases hsolve : numerics.solve problem with
  | solverError text =>
    rw [hsolve] at hsuccess
    cases hsuccess
  | stopped status value iterations =>
    rw [hsolve] at hsuccess
    simp only at hsuccess ⊢
    cases hvalue : if status ≠ "optimal" then none else value with
    | none =>
      rw [hvalue] at hsuccess
      cases hsuccess
    | some value =>
      rw [hvalue] at hsuccess
      simp only at hsuccess ⊢
      cases hfilter : (finiteVector value).filter problem.feasible with
      | none =>
        rw [hfilter] at hsuccess
        cases hsuccess
      | some target =>
        have hfeasible := (Option.filter_eq_some_iff.mp hfilter).2
        exact ⟨target, rfl, (problem.feasible_iff target).mp hfeasible⟩

theorem GroupLimits.finite?_eq_ok {limits : GroupLimits n} {groups : Groups n}
    (h : limits.finite? = .ok groups) :
    ∃ cap : Fin limits.count → ℚ, (∀ g, limits.cap g = .finite (cap g)) ∧
      groups = { limits with cap } := by
  unfold finite? at h
  obtain ⟨hchecks, h⟩ := refuse_bind_eq_ok.mp h
  cases h
  simp only [Bool.or_eq_false_iff, Bool.not_eq_false', decide_eq_true_eq] at hchecks
  exact ⟨_, fun g => Extended.eq_finite_getD (hchecks.1.1 g) 0, rfl⟩

/-- The constraints of a problem are those of the policy and of the caller. -/
structure ConvexAlphaPortfolioOptimizer.Poses (optimizer : ConvexAlphaPortfolioOptimizer)
    (inputs : OptimizeInputs n) (problem : Problem n) : Prop where
  current : problem.current = inputs.currentWeights.getD fun _ => 0
  lower : problem.lower = fun i =>
    max ((inputs.lowerBounds.getD fun _ => optimizer.minPositionWeight) i)
      optimizer.minPositionWeight
  upper : problem.upper = fun i =>
    min ((inputs.upperBounds.getD fun _ => optimizer.maxPositionWeight) i)
      optimizer.maxPositionWeight
  gross : problem.grossLimit = optimizer.grossLeverageLimit
  neutral : problem.dollarNeutral = optimizer.dollarNeutral
  turnover : problem.maxTurnover = optimizer.maxTurnover
  groups : inputs.groupLimits.mapM GroupLimits.finite? = .ok problem.groups

/-- **`optimize` returns a success only with weights that keep the constraints.** -/
theorem ConvexAlphaPortfolioOptimizer.optimize_feasible
    {optimizer : ConvexAlphaPortfolioOptimizer} {numerics : Numerics} {alpha : Fin n → ℚ}
    {m : ℕ} {covariance : Fin m → Fin m → ℚ} {inputs : OptimizeInputs n}
    {result : PortfolioOptimizationResult n}
    (h : optimizer.optimize numerics alpha covariance inputs = .ok result)
    (hsuccess : result.success = true) :
    ∃ problem target, optimizer.Poses inputs problem ∧ problem.Feasible target ∧
      result.weights = some target := by
  unfold optimize at h
  obtain ⟨-, h⟩ := refuse_bind_eq_ok.mp h
  split at h
  · obtain ⟨-, h⟩ := refuse_bind_eq_ok.mp h
    obtain ⟨-, h⟩ := refuse_bind_eq_ok.mp h
    obtain ⟨-, h⟩ := refuse_bind_eq_ok.mp h
    obtain ⟨-, h⟩ := refuse_bind_eq_ok.mp h
    obtain ⟨-, h⟩ := refuse_bind_eq_ok.mp h
    obtain ⟨read, -, h⟩ := except_bind_eq_ok.mp h
    obtain ⟨-, h⟩ := refuse_bind_eq_ok.mp h
    obtain ⟨groups, hgroups, h⟩ := except_bind_eq_ok.mp h
    cases h
    obtain ⟨target, hweights, hfeasible⟩ := Problem.settle_feasible _ _ hsuccess
    exact ⟨_, target, ⟨rfl, rfl, rfl, rfl, rfl, rfl, hgroups⟩, hfeasible, hweights⟩
  · cases h

end AgenticTrader
