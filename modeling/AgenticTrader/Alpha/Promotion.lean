import AgenticTrader.Durable
import AgenticTrader.Library.Checks
import AgenticTrader.Library.Extended

/-!
# Qualification

`measure_statistical_evidence` and `assess_qualification`
(`research/alpha/promotion.py`) decide whether an alpha qualifies. The measurements are
made once, into a document that says of each error where it arose; the assessment
compares them with the thresholds of the policy, and repeats the two deflated Sharpe
ratios for the family. It keeps two accounts: the criteria, each with a status, and the
reasons against.

The numbers are exact, or not finite. What the measurements are of (the simulations, the
bootstrap, the residual validation) enters as what it returned or raised.
-/

namespace AgenticTrader

namespace Promotion

open Checks

/-! ## Evidence -/

/-- A value of the evidence: `None`, a bool, an int, a float, or anything else. -/
inductive Evidence where
  | null
  | flag (value : Bool)
  | count (value : ℤ)
  | real (value : Extended ℚ)
  | other
  deriving DecidableEq

namespace Evidence

/-- The number it is, if it is a finite one. -/
def number? : Evidence → Option ℚ
  | .count value => some value
  | .real (.finite value) => some value
  | _ => none

/-- **`_number_error`.** -/
def numberError : Evidence → Option String
  | .null => some "missing"
  | .flag _ => some "invalid_type"
  | .other => some "invalid_type"
  | .count _ => none
  | .real value => if value.isFinite then none else some "nonfinite"

/-- **`_json_safe`**, of one value. -/
def jsonSafe : Evidence → Evidence
  | .real value => if value.isFinite then .real value else .null
  | value => value

/-- `value > 0`. -/
def positive : Evidence → Except String Bool
  | .flag value => .ok value
  | .count value => .ok (0 < value)
  | .real value => .ok value.pos
  | _ => .error "TypeError"

end Evidence

/-- A dictionary of evidence. -/
structure Metrics where
  entries : List (String × Evidence)
  distinct : (entries.map (·.1)).Nodup

namespace Metrics

theorem empty_distinct : (([] : List (String × Evidence)).map (·.1)).Nodup := List.nodup_nil

/-- `{}`. -/
def empty : Metrics := ⟨[], empty_distinct⟩

/-- `metrics.get(key)`. -/
def get (metrics : Metrics) (key : String) : Evidence :=
  (metrics.entries.lookup key).getD .null

theorem jsonSafe_distinct (metrics : Metrics) :
    ((metrics.entries.map fun entry => (entry.1, entry.2.jsonSafe)).map (·.1)).Nodup := by
  rw [List.map_map]
  exact metrics.distinct

/-- `metrics` in the document. -/
def jsonSafe (metrics : Metrics) : Metrics :=
  ⟨metrics.entries.map fun entry => (entry.1, entry.2.jsonSafe), metrics.jsonSafe_distinct⟩

/-- `{key: error for key, value in metrics.items() if (error := _number_error(value))}`. -/
def errors (metrics : Metrics) : List (String × String) :=
  metrics.entries.filterMap fun entry => entry.2.numberError.map fun error => (entry.1, error)

end Metrics

/-- `_first_error`. -/
def firstError (errors : List (Option String)) : Option String := errors.findSome? id

/-- `a or b`, of two texts that may be missing. -/
def textOr (a b : Option String) : Option String := if truthy a then a else b

/-- The Sharpe ratios of the folds: a list, nothing, or something else, which may have a
length. -/
inductive FoldValues where
  | missing
  | list (values : List Evidence)
  | other (length : Option ℕ)

/-- **`_fold_error`.** -/
def FoldValues.error : FoldValues → Option String
  | .missing => some "missing"
  | .other _ => some "invalid_type"
  | .list values => values.findSome? (·.numberError)

def FoldValues.jsonSafe : FoldValues → FoldValues
  | .list values => .list (values.map (·.jsonSafe))
  | folds => folds

/-- `all(value > 0 for value in folds)`. -/
def allPositive : List Evidence → Except String Bool
  | [] => .ok true
  | value :: values => do
    if ← value.positive then allPositive values else pure false

/-- `len(folds) >= minimum and all(value > 0 for value in folds)`: the items of anything but
a list are texts, which are not compared with a number. -/
def FoldValues.pass (minimum : ℕ) : FoldValues → Except String Bool
  | .missing => .error "TypeError"
  | .list values => if values.length < minimum then .ok false else allPositive values
  | .other none => .error "TypeError"
  | .other (some length) => if length < minimum then .ok false else .error "TypeError"

/-! ## The policy and the document -/

/-- **`ValidationPolicy`**, the fields that are compared and the thresholds. -/
structure ValidationPolicy where
  holdoutFraction : ℚ
  folds : ℕ
  initialTrainFraction : ℚ
  labelHorizon : ℕ
  embargoBars : ℕ
  minimumValidationBars : ℕ
  minimumTrades : ℕ
  minSharpe : ℚ
  minDsr : ℚ
  minIc : ℚ
  maxDrawdownPct : ℚ
  split : 0 < holdoutFraction ∧ holdoutFraction < 1 / 2 ∧ 1 / 5 ≤ initialTrainFraction ∧
    initialTrainFraction ≤ 4 / 5
  budget : 2 ≤ folds ∧ 1 ≤ labelHorizon ∧ 10 ≤ minimumValidationBars ∧ 1 ≤ minimumTrades
  dsr : 0 < minDsr ∧ minDsr < 1
  deriving DecidableEq

/-- What is read of the definition. -/
structure AssessedDefinition where
  timeframe : String
  eligibleSymbols : Option (List String)
  dataFeed : String
  adjustment : String
  deriving DecidableEq

/-- `manifest["incumbents"]`: absent, a list of some length, or of another type. -/
inductive IncumbentSnapshot where
  | absent
  | list (length : ℕ)
  | invalid
  deriving DecidableEq

/-- What is read of the manifest. -/
structure RunManifest where
  incumbents : IncumbentSnapshot
  feed : String
  adjustment : String
  deriving DecidableEq

/-- The novelty measurement. -/
structure Novelty where
  status : Option String := none
  reason : Option String := none
  novel : Evidence := .null
  residualIc : Evidence := .null
  pValue : Evidence := .null
  deriving DecidableEq

/-- The holdout measurement. -/
structure Holdout where
  summary : Metrics := .empty
  simulationError : Option String := none
  bootstrapError : Option String := none
  bootstrapMeanInterval : Option (List Evidence) := none
  stressedReturnPct : Evidence := .null

/-- The record of the family of trials. -/
structure Family where
  trialCount : Evidence
  trialVariance : Evidence

/-- **The measurement document.** -/
structure MeasurementDocument where
  policy : ValidationPolicy
  definition : AssessedDefinition
  manifest : RunManifest
  recursiveFeature : Bool
  validationMetrics : Metrics
  validationErrors : List (String × String)
  foldSharpes : FoldValues
  calibration : Evidence
  validationFoldError : Option String
  holdout : Holdout
  novelty : Novelty

/-- `SAMPLING_FIELDS`. -/
def samplingFields : List String :=
  ["per_bar_sharpe", "sample_length", "skewness", "kurtosis"]

/-! ## Measuring -/

/-- What `measure_statistical_evidence` is given, and what the research it runs returned or
raised: the summary and the stressed return of the simulations, the interval of the
bootstrap, and the residual validation against the relevant incumbents. -/
structure MeasureInputs where
  definition : AssessedDefinition
  manifest : RunManifest
  runPolicy : ValidationPolicy
  recursiveFeature : Bool
  metrics : Metrics
  foldSharpes : FoldValues
  calibration : Evidence
  simulation : Except String (Metrics × Evidence)
  bootstrap : Except String (List Evidence)
  residual : Except String (Option (Evidence × Evidence × Evidence))

/-- The number checks on a simulated holdout. -/
def holdoutInvalid (summary : Metrics) (stressed : Evidence) : Option String :=
  firstError (((samplingFields ++ ["sharpe", "total_trades", "max_drawdown_pct",
      "total_return_pct"]).map fun key =>
    (summary.get key).numberError.map fun error => "Invalid holdout " ++ key ++ ": " ++ error)
    ++ [stressed.numberError.map ("Invalid stressed return: " ++ ·)])

/-- The check on a bootstrapped interval. -/
def validInterval (interval : List Evidence) : Bool :=
  match interval.map (·.number?) with
  | [some lower, some upper] => lower ≤ upper
  | _ => false

/-- The holdout part of the measurements. -/
def MeasureInputs.holdout (inputs : MeasureInputs) : Holdout :=
  match inputs.simulation with
  | .error error => { simulationError := some error }
  | .ok (summary, stressed) =>
    let simulated : Holdout :=
      { summary := summary.jsonSafe, stressedReturnPct := stressed.jsonSafe }
    match holdoutInvalid summary stressed with
    | some error => { simulated with simulationError := some error }
    | none =>
      match inputs.bootstrap with
      | .error error => { simulated with bootstrapError := some error }
      | .ok interval =>
        if validInterval interval then { simulated with bootstrapMeanInterval := some interval }
        else { simulated with bootstrapError := some "Invalid bootstrap mean interval" }

/-- **`_measure_novelty`.** -/
def MeasureInputs.novelty (inputs : MeasureInputs) : Novelty :=
  match inputs.manifest.incumbents with
  | .invalid =>
    { status := some "unavailable", reason := some "Invalid frozen incumbent snapshot" }
  | .absent => { status := some "no_incumbents" }
  | .list 0 => { status := some "no_incumbents" }
  | .list _ =>
    match inputs.residual with
    | .error error => { status := some "unavailable", reason := some error }
    | .ok none => { status := some "no_incumbents" }
    | .ok (some (.flag novel, residualIc, pValue)) =>
      if residualIc.number?.isSome && pValue.number?.isSome then
        { novel := .flag novel, residualIc, pValue }
      else
        { status := some "unavailable"
          reason := some "Invalid incremental predictive evidence" }
    | .ok (some _) =>
      { status := some "unavailable"
        reason := some "Invalid incremental predictive evidence" }

/-- **`measure_statistical_evidence`.** -/
def MeasureInputs.measure (inputs : MeasureInputs) (policy : ValidationPolicy) :
    Except String MeasurementDocument := do
  refuse (inputs.runPolicy ≠ policy)
    "Qualification policy differs from frozen discovery; do not reinterpret old evidence"
  pure
    { policy
      definition := inputs.definition
      manifest := inputs.manifest
      recursiveFeature := inputs.recursiveFeature
      validationMetrics := inputs.metrics.jsonSafe
      validationErrors := inputs.metrics.errors
      foldSharpes := inputs.foldSharpes.jsonSafe
      calibration := inputs.calibration
      validationFoldError := inputs.foldSharpes.error
      holdout := inputs.holdout
      novelty := inputs.novelty }

/-! ## The deflated Sharpe ratio -/

/-- The square root, the normal distribution and its quantiles, and the base of the
logarithm. -/
structure NormalStats where
  sqrt : ℚ → ℚ
  cdf : ℚ → ℚ
  ppf : ℚ → ℚ
  e : ℚ

/-- An `Integral` that is no bool. -/
def Evidence.integral? : Evidence → Option ℤ
  | .count value => some value
  | _ => none

/-- **`calculate_deflated_sharpe_ratio`.** -/
def calculateDeflatedSharpeRatio (stats : NormalStats)
    (sharpe numTrials varianceTrials sampleLength skewness kurtosis : Evidence) :
    Except String ℚ :=
  match sharpe.number?, varianceTrials.number?, skewness.number?, kurtosis.number? with
  | some sharpe, some variance, some skewness, some kurtosis => do
    refuse (variance < 0 || kurtosis < 1) "Invalid Sharpe sampling moments"
    match numTrials.integral?, sampleLength.integral? with
    | some trials, some length =>
      refuse (trials < 1 || length < 0) "Integer trial and sample counts required"
      if length ≤ 1 then pure 0
      else
        let denom := 1 - skewness * sharpe + (kurtosis - 1) / 4 * sharpe ^ 2
        refuse (denom ≤ 0) "Invalid Sharpe sampling variance"
        let stdSr := stats.sqrt (denom / (length - 1))
        if trials = 1 ∨ variance ≤ 0 then pure (stats.cdf (sharpe / stdSr))
        else
          let gammaEm : ℚ := 57721566490153286 / 10 ^ 17
          let zInv := stats.ppf (1 - 1 / trials)
          let zInvE := stats.ppf (1 - 1 / (trials * stats.e))
          let expectedMax := stats.sqrt variance * ((1 - gammaEm) * zInv + gammaEm * zInvE)
          pure (min 1 (max 0 (stats.cdf ((sharpe - expectedMax) / stdSr))))
    | _, _ => throw "Integer trial and sample counts required"
  | _, _, _, _ => throw "Invalid Sharpe sampling moments"

/-- **`_family_dsr`.** -/
def familyDsr (stats : NormalStats) (metrics : Metrics) (family : Family)
    (errors : List (String × String)) : Except String ℚ :=
  match samplingFields.findSome? fun key =>
      (textOr (errors.lookup key) (metrics.get key).numberError).map fun error =>
        "Invalid Sharpe sampling evidence: " ++ key ++ " (" ++ error ++ ")" with
  | some error => .error error
  | none =>
    calculateDeflatedSharpeRatio stats (metrics.get "per_bar_sharpe") family.trialCount
      family.trialVariance (metrics.get "sample_length") (metrics.get "skewness")
      (metrics.get "kurtosis")

/-! ## Criteria -/

inductive CriterionStatus where
  | pass
  | fail
  | unavailable
  deriving DecidableEq

/-- How a value is compared with its threshold. -/
inductive Comparison where
  | eq
  | ge
  | le
  | gt
  | all
  | any
  | contract
  deriving DecidableEq

inductive CriterionValue where
  | one (value : Evidence)
  | text (value : String)
  | folds (value : FoldValues)
  | novelty (value : Novelty)
  | contract (feed adjustment definitionFeed definitionAdjustment : String)

inductive CriterionThreshold where
  | number (value : ℚ)
  | text (value : String)
  | flag (value : Bool)
  | folds (minimumFolds : ℕ)
  | novelty
  | contract (allowedFeeds : List String) (adjustment : String)

structure Criterion where
  value : CriterionValue
  threshold : CriterionThreshold
  comparison : Comparison
  status : CriterionStatus
  passed : Option Bool
  unavailableReason : Option String
  reasonCode : Option String

/-- **`_criterion`.** -/
def criterion (value : CriterionValue) (threshold : CriterionThreshold)
    (comparison : Comparison) (passed : Bool) (error reasonCode : Option String) :
    Criterion where
  value := value
  threshold := threshold
  comparison := comparison
  status := if error.isSome then .unavailable else if passed then .pass else .fail
  passed := if error.isSome then none else some passed
  unavailableReason := error
  reasonCode := if error.isSome || !passed then reasonCode else none

/-- What a part of the assessment adds to the two accounts. -/
structure Verdict where
  criteria : List (String × Criterion)
  reasons : List String

/-- The criterion under a code, and its reason where one is noted. -/
def verdict (code : String) (criterion : Criterion) (noted : Bool) (reason : String) :
    Verdict :=
  ⟨[(code, criterion)], if noted then [reason] else []⟩

/-- Several parts, one after the other. -/
def Verdict.join (verdicts : List Verdict) : Verdict :=
  ⟨verdicts.flatMap (·.criteria), verdicts.flatMap (·.reasons)⟩

/-! ## The parts of an assessment -/

section Assessment

variable (stats : NormalStats) (document : MeasurementDocument) (family : Family)
  (policy : ValidationPolicy)

/-- The daily timeframe, and no recursive feature. -/
def contractVerdict : Verdict :=
  let daily := document.definition.timeframe = "1d"
  Verdict.join
    [verdict "intraday_session_execution_unverified"
      (criterion (.text document.definition.timeframe) (.text "1d") .eq daily none
        (some "intraday_session_execution_unverified"))
      (!decide daily) "intraday_session_execution_unverified",
    verdict "recursive_feature_requires_shared_initialization"
      (criterion (.one (.flag document.recursiveFeature)) (.flag false) .eq
        (!document.recursiveFeature) none
        (some "recursive_feature_requires_shared_initialization"))
      document.recursiveFeature "recursive_feature_requires_shared_initialization"]

/-- `value >= threshold`, and its siblings, of a number. -/
def Comparison.holds (comparison : Comparison) (value : Evidence) (threshold : ℚ) : Bool :=
  match value.number?, comparison with
  | some number, .ge => threshold ≤ number
  | some number, .le => number ≤ threshold
  | some number, .gt => threshold < number
  | _, _ => false

/-- One of the validation metrics. -/
def validationVerdict (key : String) (minimum : ℚ) : Verdict :=
  let code := "validation_" ++ key
  let value := document.validationMetrics.get key
  let error := textOr (document.validationErrors.lookup key) value.numberError
  let passed := error.isNone && Comparison.ge.holds value minimum
  verdict code (criterion (.one (if error.isSome then .null else value)) (.number minimum) .ge
    passed error (some code)) (!passed) code

/-- The keys of the validation metrics, and what they are to reach. -/
def validationMinimums : List (String × ℚ) :=
  [("sharpe_oos", policy.minSharpe), ("dsr", policy.minDsr), ("rank_ic_mean", policy.minIc),
    ("total_trades", policy.minimumTrades)]

/-- `folds_pass`. -/
def foldsPass : Except String Bool :=
  if truthy document.validationFoldError then .ok false
  else document.foldSharpes.pass policy.folds

/-- The folds. -/
def foldVerdict : Except String Verdict := do
  let passed ← foldsPass document policy
  pure (verdict "unstable_validation_folds"
    (criterion (.folds document.foldSharpes) (.folds policy.folds) .all passed
      document.validationFoldError (some "unstable_validation_folds"))
    (!passed) "unstable_validation_folds")

/-- The deflated Sharpe ratio of the validation. -/
def validationDsr : Except String ℚ :=
  familyDsr stats document.validationMetrics family document.validationErrors

/-- The ratio as evidence: `None` where it was not computed. -/
def dsrEvidence : Except String ℚ → Evidence
  | .ok dsr => .real (.finite dsr)
  | .error _ => .null

def familyVerdict : Verdict :=
  let code := "family_adjusted_validation_dsr"
  match validationDsr stats document family with
  | .ok dsr =>
    verdict code (criterion (.one (dsrEvidence (.ok dsr))) (.number policy.minDsr) .ge
      (policy.minDsr ≤ dsr) none (some code)) (decide (dsr < policy.minDsr)) code
  | .error error =>
    ⟨[(code, criterion (.one .null) (.number policy.minDsr) .ge false (some error) (some code))],
      ["invalid_validation_sharpe_evidence", code]⟩

/-- The deflated Sharpe ratio of the holdout, where it was simulated. -/
def holdoutDsr : Option (Except String ℚ) :=
  if document.holdout.simulationError.isSome then none
  else some (familyDsr stats document.holdout.summary family [])

def holdoutDsrValue : Evidence :=
  match holdoutDsr stats document family with
  | some run => dsrEvidence run
  | none => .null

def holdoutDsrError : Option String :=
  match holdoutDsr stats document family with
  | some (.error error) => some error
  | _ => none

/-- `measurement_error`. -/
def measurementError : Option String :=
  firstError [document.holdout.simulationError, document.holdout.bootstrapError]

/-- `holdout_error`. -/
def holdoutError : Option String :=
  firstError [document.holdout.simulationError, holdoutDsrError stats document family,
    document.holdout.bootstrapError]

/-- `interval[0] if interval else None`. -/
def intervalLower : Evidence :=
  ((document.holdout.bootstrapMeanInterval.getD []).head?).getD .null

/-- One of the gates on the holdout, with the error that concerns it alone. -/
def gateVerdict (code : String) (value : Evidence) (threshold : ℚ) (comparison : Comparison)
    (own : Option String) : Verdict :=
  let error := firstError [document.holdout.simulationError, own, value.numberError]
  let passed := error.isNone && comparison.holds value threshold
  verdict code (criterion (.one value) (.number threshold) comparison passed error (some code))
    ((holdoutError stats document family).isNone && !passed) code

/-- The holdout: whether it is there, and its gates. -/
def holdoutVerdict : Verdict :=
  let holdout := document.holdout
  let error := measurementError document
  let gate := gateVerdict stats document family
  Verdict.join
    [verdict "holdout_available"
      (criterion (.one (.flag error.isNone)) (.flag true) .eq error.isNone error
        (error.map ("holdout_unavailable:" ++ ·)))
      false "",
    gate "holdout_sharpe" (holdout.summary.get "sharpe") policy.minSharpe .ge none,
    gate "holdout_trade_count" (holdout.summary.get "total_trades") policy.minimumTrades .ge none,
    gate "holdout_dsr" (holdoutDsrValue stats document family) policy.minDsr .ge
      (holdoutDsrError stats document family),
    gate "holdout_drawdown" (holdout.summary.get "max_drawdown_pct") policy.maxDrawdownPct .le
      none,
    gate "cost_stress" holdout.stressedReturnPct 0 .gt none,
    gate "bootstrap_uncertainty" (intervalLower document) 0 .gt holdout.bootstrapError,
    ⟨[], ((holdoutError stats document family).map ("holdout_unavailable:" ++ ·)).toList⟩]

/-- `novelty_error`. -/
def Novelty.error (novelty : Novelty) : Option String :=
  if novelty.status = some "unavailable" then novelty.reason else none

/-- `novelty_pass`. -/
def Novelty.pass (novelty : Novelty) : Bool :=
  novelty.status = some "no_incumbents" || novelty.novel = .flag true

/-- `isinstance(manifest.get("incumbents"), list)`. -/
def IncumbentSnapshot.isList : IncumbentSnapshot → Bool
  | .list _ => true
  | _ => false

/-- The frozen incumbents, and the novelty against them. -/
def noveltyVerdict : Verdict :=
  let incumbents := document.manifest.incumbents
  let novelty := document.novelty
  ⟨[("frozen_incumbent_snapshot",
      criterion (.one (.flag incumbents.isList)) (.flag true) .eq incumbents.isList
        (if incumbents.isList then none
          else if incumbents = .absent then some "missing" else some "invalid_type")
        (some "missing_frozen_incumbent_snapshot")),
    ("incremental_predictive_evidence",
      criterion (.novelty novelty) .novelty .any novelty.pass novelty.error
        (some (if novelty.error.isSome then "incremental_evidence_unavailable"
          else "no_incremental_predictive_evidence")))],
    if incumbents = .absent then ["missing_frozen_incumbent_snapshot"]
    else if novelty.error.isSome then ["incremental_evidence_unavailable"]
    else if !novelty.pass then ["no_incremental_predictive_evidence"]
    else []⟩

/-! ## The assessment -/

/-- The summary of a holdout that could be assessed. -/
structure HoldoutSummary where
  summary : Metrics
  dsr : Evidence
  bootstrapMeanInterval : List Evidence
  stressedReturnPct : Evidence

/-- **A decision**; `passed` of an assessment is `qualified` of a qualification. -/
structure Decision where
  passed : Bool
  reasons : List String
  holdout : Option HoldoutSummary
  eligibleSymbols : List String
  manifest : RunManifest
  family : Family
  familyValidationDsr : Option ℚ
  novelty : Novelty
  calibration : Evidence
  criteria : List (String × Criterion)

/-- `{**summary, "dsr": dsr, ...}`, where the holdout has no error. -/
def holdoutSummary : Except String (Option HoldoutSummary) :=
  if (holdoutError stats document family).isSome then pure none
  else
    match document.holdout.bootstrapMeanInterval with
    | none => throw "TypeError"
    | some interval =>
      pure (some
        { summary := document.holdout.summary
          dsr := holdoutDsrValue stats document family
          bootstrapMeanInterval := interval
          stressedReturnPct := document.holdout.stressedReturnPct })

/-- **`assess_statistical_measurements`.** -/
def assessStatisticalMeasurements : Except String Decision := do
  refuse (document.policy ≠ policy) "Assessment policy differs from frozen measurements"
  let folds ← foldVerdict document policy
  let holdout ← holdoutSummary stats document family
  let all := Verdict.join ([contractVerdict document]
    ++ (validationMinimums policy).map (fun entry => validationVerdict document entry.1 entry.2)
    ++ [folds, familyVerdict stats document family policy,
      holdoutVerdict stats document family policy, noveltyVerdict document])
  pure
    { passed := all.reasons.isEmpty
      reasons := all.reasons
      holdout
      eligibleSymbols := document.definition.eligibleSymbols.getD []
      manifest := document.manifest
      family
      familyValidationDsr := (validationDsr stats document family).toOption
      novelty := document.novelty
      calibration := document.calibration
      criteria := all.criteria }

end Assessment

/-- The data contract of a deployment. -/
def deploymentVerdict (definition : AssessedDefinition) (manifest : RunManifest) : Verdict :=
  let mismatch := decide (manifest.feed ∉ ["alpaca:iex", "alpaca:sip"])
    || decide (manifest.adjustment ≠ "raw") || decide (definition.dataFeed ≠ manifest.feed)
    || decide (definition.adjustment ≠ manifest.adjustment)
  verdict "deployment_data_contract"
    (criterion (.contract manifest.feed manifest.adjustment definition.dataFeed
        definition.adjustment)
      (.contract ["alpaca:iex", "alpaca:sip"] "raw") .contract (!mismatch) none
      (some "deployment_data_contract_mismatch"))
    mismatch "deployment_data_contract_mismatch"

/-- The last part of `assess_qualification`. -/
def Decision.qualify (decision : Decision) (definition : AssessedDefinition)
    (manifest : RunManifest) : Decision :=
  let deployment := deploymentVerdict definition manifest
  let reasons := decision.reasons ++ deployment.reasons
  { decision with
    passed := reasons.isEmpty
    reasons
    criteria := decision.criteria ++ deployment.criteria }

/-- **`assess_qualification`.** -/
def assessQualification (stats : NormalStats) (inputs : MeasureInputs) (family : Family)
    (policy : ValidationPolicy) : Except String Decision := do
  let document ← inputs.measure policy
  let decision ← assessStatisticalMeasurements stats document family policy
  pure (decision.qualify inputs.definition inputs.manifest)

end Promotion

end AgenticTrader
