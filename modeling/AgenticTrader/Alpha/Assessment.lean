import AgenticTrader.Alpha.Qualification

/-!
# What an assessment rests on

An assessment is made of a document. Of one that was measured, the decision is the
conjunction of its criteria, of `assess_statistical_measurements` as of
`assess_qualification`: nothing speaks against the candidate exactly when each of them
passes. A criterion passes only on numbers: of the values that were measured for it, or
that it is computed from, none is missing, of another type or not finite. An error of the
simulation, of the bootstrap, of a ratio or of the novelty is never qualified.

The document has to be a measured one. Where the snapshot of the incumbents is no list, its
criterion is unavailable, and nothing but the novelty that was measured beside it is a reason.
-/

namespace AgenticTrader

namespace Promotion

open Checks

/-! ## The values of a criterion -/

/-- The values that the folds are, or the one they are instead. -/
def FoldValues.values : FoldValues → List Evidence
  | .missing => [.null]
  | .list values => values
  | .other _ => [.other]

namespace MeasureInputs

variable (inputs : MeasureInputs)

/-- A field of the simulated holdout. -/
def simulated (key : String) : Evidence :=
  match inputs.simulation with
  | .ok (summary, _) => summary.get key
  | .error _ => .null

/-- The return under stress. -/
def stressed : Evidence :=
  match inputs.simulation with
  | .ok (_, stressed) => stressed
  | .error _ => .null

/-- The fields and the return that a holdout is checked for. -/
def holdoutNumbers : List Evidence :=
  (samplingFields ++ ["sharpe", "total_trades", "max_drawdown_pct", "total_return_pct"]).map
    inputs.simulated ++ [inputs.stressed]

/-- The ends of the bootstrapped interval. -/
def interval : List Evidence :=
  match inputs.bootstrap with
  | .ok interval => interval
  | .error _ => [.null]

/-- The numbers of the residual validation, where there are incumbents. -/
def residualNumbers : List Evidence :=
  match inputs.manifest.incumbents, inputs.residual with
  | .list (_ + 1), .ok (some (_, residualIc, pValue)) => [residualIc, pValue]
  | .list (_ + 1), .error _ => [.null]
  | _, _ => []

/-- What a ratio for the family is computed from. -/
def sampled (get : String → Evidence) (family : Family) : List Evidence :=
  samplingFields.map get ++ [family.trialCount, family.trialVariance]

/-- **The values that each criterion rests on**, as they were measured. -/
def underlying (family : Family) : List (String × List Evidence) :=
  [("intraday_session_execution_unverified", []),
    ("recursive_feature_requires_shared_initialization", []),
    ("validation_sharpe_oos", [inputs.metrics.get "sharpe_oos"]),
    ("validation_dsr", [inputs.metrics.get "dsr"]),
    ("validation_rank_ic_mean", [inputs.metrics.get "rank_ic_mean"]),
    ("validation_total_trades", [inputs.metrics.get "total_trades"]),
    ("unstable_validation_folds", inputs.foldSharpes.values),
    ("family_adjusted_validation_dsr", sampled inputs.metrics.get family),
    ("holdout_available", inputs.holdoutNumbers ++ inputs.interval),
    ("holdout_sharpe", [inputs.simulated "sharpe"]),
    ("holdout_trade_count", [inputs.simulated "total_trades"]),
    ("holdout_dsr", sampled inputs.simulated family),
    ("holdout_drawdown", [inputs.simulated "max_drawdown_pct"]),
    ("cost_stress", [inputs.stressed]),
    ("bootstrap_uncertainty", inputs.interval),
    ("frozen_incumbent_snapshot", []),
    ("incremental_predictive_evidence", inputs.residualNumbers)]

end MeasureInputs

/-- **A criterion under its code passes on numbers alone.** -/
def RestsOn (entry : String × Criterion) (row : String × List Evidence) : Prop :=
  entry.1 = row.1 ∧
    (entry.2.status = .pass → ∀ value ∈ row.2, ∃ x, value.number? = some x)

/-- An error of the simulation, of the bootstrap, of a ratio or of the novelty. -/
def Errored (stats : NormalStats) (document : MeasurementDocument) (family : Family) : Prop :=
  document.holdout.simulationError ≠ none ∨ document.holdout.bootstrapError ≠ none ∨
    (∃ error, validationDsr stats document family = .error error) ∨
    holdoutDsrError stats document family ≠ none ∨ document.novelty.error ≠ none

/-- **A decision is the conjunction of its criteria**, which rest on what was measured. -/
structure Decides (stats : NormalStats) (document : MeasurementDocument) (family : Family)
    (underlying : List (String × List Evidence)) (decision : Decision) : Prop where
  qualified : decision.passed = true ↔ decision.reasons = []
  conjunction : decision.reasons = [] ↔ ∀ entry ∈ decision.criteria, entry.2.status = .pass
  rests : List.Forall₂ RestsOn decision.criteria underlying
  errored : Errored stats document family → decision.passed = false

section Parts

variable {stats : NormalStats} {inputs : MeasureInputs} {document : MeasurementDocument}
  {family : Family} {policy : ValidationPolicy}

/-! ## The parts -/

theorem restsOn_nil (code : String) (criterion : Criterion) :
    RestsOn (code, criterion) (code, []) :=
  ⟨rfl, fun _ _ hvalue => by cases hvalue⟩

theorem rests_append {criteria criteria' : List (String × Criterion)}
    {rows rows' : List (String × List Evidence)} (h : List.Forall₂ RestsOn criteria rows)
    (h' : List.Forall₂ RestsOn criteria' rows') :
    List.Forall₂ RestsOn (criteria ++ criteria') (rows ++ rows') :=
  List.rel_append h h'

theorem contractVerdict_rests : List.Forall₂ RestsOn (contractVerdict document).criteria
    [("intraday_session_execution_unverified", []),
      ("recursive_feature_requires_shared_initialization", [])] :=
  .cons (restsOn_nil _ _) (.cons (restsOn_nil _ _) .nil)

/-- A validation metric that passes is a number. -/
theorem validationVerdict_rests (hm : Measures inputs document) (key : String) (minimum : ℚ) :
    List.Forall₂ RestsOn (validationVerdict document key minimum).criteria
      [("validation_" ++ key, [inputs.metrics.get key])] := by
  refine .cons ⟨rfl, fun hpass value hvalue => ?_⟩ .nil
  have hreasons : (validationVerdict document key minimum).reasons = [] :=
    (validationVerdict_consistent key minimum).agree.mpr (fun entry hentry => by
      rw [List.mem_singleton.mp hentry]
      exact hpass)
  rw [List.mem_singleton.mp hvalue]
  exact holds_number ((validationVerdict_reasons hm key minimum).mp hreasons)

/-- Folds that pass are numbers. -/
theorem foldVerdict_rests {v : Verdict} (hm : Measures inputs document)
    (h : foldVerdict document policy = .ok v) :
    List.Forall₂ RestsOn v.criteria
      [("unstable_validation_folds", inputs.foldSharpes.values)] := by
  obtain ⟨hconsistent, hreasons⟩ := foldVerdict_spec hm h
  obtain ⟨passed, -, h⟩ := except_bind_eq_ok.mp h
  cases h
  refine .cons ⟨rfl, fun hpass value hvalue => ?_⟩ .nil
  have hnone := hconsistent.agree.mpr (fun entry hentry => by
    rw [List.mem_singleton.mp hentry]
    exact hpass)
  obtain ⟨values, hvalues, -, hpositive⟩ := hreasons.mp hnone
  rw [hvalues] at hvalue
  exact holds_number (hpositive value hvalue)

/-- **A ratio that was computed** was computed from numbers. -/
theorem numbers_of_familyDsr {metrics : Metrics} {dsr : ℚ}
    (h : familyDsr stats metrics family [] = .ok dsr) :
    ∀ value ∈ MeasureInputs.sampled metrics.get family, ∃ x, value.number? = some x := by
  unfold familyDsr at h
  split at h
  · cases h
  · rename_i hnone
    have hsampled : ∀ key ∈ samplingFields, ∃ x, (metrics.get key).number? = some x := by
      intro key hkey
      have herror := Option.map_eq_none_iff.mp (List.findSome?_eq_none_iff.mp hnone key hkey)
      rw [show textOr (([] : List (String × String)).lookup key) (metrics.get key).numberError
        = (metrics.get key).numberError from rfl] at herror
      exact numberError_eq_none.mp herror
    intro value hvalue
    rcases List.mem_append.mp hvalue with hvalue | hvalue
    · obtain ⟨key, hkey, rfl⟩ := List.mem_map.mp hvalue
      exact hsampled key hkey
    · unfold calculateDeflatedSharpeRatio at h
      split at h
      · rename_i _ variance _ _ _ hvariance _ _
        obtain ⟨-, h⟩ := refuse_bind_eq_ok.mp h
        split at h
        · rename_i trials _ htrials _
          rcases List.mem_pair.mp hvalue with rfl | rfl
          · refine ⟨trials, ?_⟩
            cases hcount : family.trialCount with
            | count n =>
              rw [hcount] at htrials
              cases htrials
              rfl
            | _ =>
              rw [hcount] at htrials
              cases htrials
          · exact ⟨variance, hvariance⟩
        · cases h
      · cases h

theorem validationDsr_measured (hm : Measures inputs document) :
    validationDsr stats document family = familyDsr stats inputs.metrics family [] := by
  rw [validationDsr, hm.metrics, hm.errors, familyDsr_measured]

variable (stats family policy) in
theorem familyVerdict_rests (hm : Measures inputs document) :
    List.Forall₂ RestsOn (familyVerdict stats document family policy).criteria
      [("family_adjusted_validation_dsr",
        MeasureInputs.sampled inputs.metrics.get family)] := by
  unfold familyVerdict
  rw [validationDsr_measured hm]
  cases hdsr : familyDsr stats inputs.metrics family [] with
  | ok dsr => exact .cons ⟨rfl, fun _ => numbers_of_familyDsr hdsr⟩ .nil
  | error error =>
    refine .cons ⟨rfl, fun hpass => ?_⟩ .nil
    cases (criterion_pass_iff.mp hpass).1

/-! ## The holdout -/

/-- **A holdout that was simulated without an error** is one of numbers. -/
theorem simulated_of_no_error (h : inputs.holdout.simulationError = none) :
    ∃ summary stressed, inputs.simulation = .ok (summary, stressed) ∧
      holdoutInvalid summary stressed = none := by
  unfold MeasureInputs.holdout at h
  cases hrun : inputs.simulation with
  | error error => simp [hrun] at h
  | ok run =>
    obtain ⟨summary, stressed⟩ := run
    refine ⟨summary, stressed, rfl, ?_⟩
    cases hinvalid : holdoutInvalid summary stressed with
    | none => rfl
    | some error => simp [hrun, hinvalid] at h

theorem numbers_of_no_error (h : inputs.holdout.simulationError = none) :
    ∀ value ∈ inputs.holdoutNumbers, ∃ x, value.number? = some x := by
  obtain ⟨summary, stressed, hrun, hinvalid⟩ := simulated_of_no_error h
  obtain ⟨hnumbers, hstressed⟩ := holdoutInvalid_eq_none hinvalid
  intro value hvalue
  rcases List.mem_append.mp hvalue with hvalue | hvalue
  · obtain ⟨key, hkey, rfl⟩ := List.mem_map.mp hvalue
    rw [MeasureInputs.simulated, hrun]
    exact numberError_eq_none.mp (hnumbers key hkey)
  · rw [List.mem_singleton.mp hvalue, MeasureInputs.stressed, hrun]
    exact numberError_eq_none.mp hstressed

/-- The interval of a holdout without an error. -/
theorem interval_of_no_error (hsimulation : inputs.holdout.simulationError = none)
    (hbootstrap : inputs.holdout.bootstrapError = none) :
    ∀ value ∈ inputs.interval, ∃ x, value.number? = some x := by
  obtain ⟨summary, stressed, lower, upper, -, -, hrun, hvalid⟩ :=
    holdout_of_no_error hsimulation hbootstrap
  intro value hvalue
  rw [MeasureInputs.interval, hrun] at hvalue
  unfold validInterval at hvalid
  split at hvalid
  · rename_i hnumbers
    simp only [List.map_cons, List.map_nil, List.cons.injEq, and_true] at hnumbers
    rcases List.mem_pair.mp hvalue with rfl | rfl
    · exact ⟨_, hnumbers.1⟩
    · exact ⟨_, hnumbers.2⟩
  · cases hvalid

/-- The ratio of a holdout that was simulated. -/
theorem holdoutDsr_measured (hm : Measures inputs document) {dsr : Except String ℚ}
    (h : holdoutDsr stats document family = some dsr) :
    ∃ summary stressed, inputs.simulation = .ok (summary, stressed) ∧
      dsr = familyDsr stats summary family [] := by
  unfold holdoutDsr at h
  split at h
  · cases h
  · rename_i hnone
    have hsimulation : inputs.holdout.simulationError = none := by
      rw [← hm.holdout]
      simpa using hnone
    obtain ⟨summary, stressed, hrun, hinvalid⟩ := simulated_of_no_error hsimulation
    obtain ⟨hnumbers, -⟩ := holdoutInvalid_eq_none hinvalid
    refine ⟨summary, stressed, hrun, ?_⟩
    have hsummary : document.holdout.summary = summary.jsonSafe := by
      rw [hm.holdout, MeasureInputs.holdout, hrun]
      dsimp only
      rw [hinvalid]
      dsimp only
      split
      · rfl
      · split <;> rfl
    rw [Option.some.injEq, hsummary, familyDsr_jsonSafe fun key hkey =>
      hnumbers key (List.mem_append_left _ hkey)] at h
    exact h.symm

/-- One of the gates of the holdout: it passes without an error. -/
theorem gate_rests {code : String} {value : Evidence} {threshold : ℚ}
    {comparison : Comparison} {passed : Bool} {own reason : Option String}
    {values : List Evidence}
    (h : document.holdout.simulationError = none → own = none → value.numberError = none →
      ∀ value ∈ values, ∃ x, value.number? = some x) :
    RestsOn (code, criterion (.one value) (.number threshold) comparison passed
      (firstError [document.holdout.simulationError, own, value.numberError]) reason)
      (code, values) := by
  refine ⟨rfl, fun hpass => ?_⟩
  have hnone := firstError_eq_none.mp (criterion_pass_iff.mp hpass).1
  simp only [List.forall_mem_cons] at hnone
  exact h hnone.1 hnone.2.1 hnone.2.2.1

variable (stats family policy) in
theorem holdoutVerdict_rests (hm : Measures inputs document) :
    List.Forall₂ RestsOn (holdoutVerdict stats document family policy).criteria
      [("holdout_available", inputs.holdoutNumbers ++ inputs.interval),
        ("holdout_sharpe", [inputs.simulated "sharpe"]),
        ("holdout_trade_count", [inputs.simulated "total_trades"]),
        ("holdout_dsr", MeasureInputs.sampled inputs.simulated family),
        ("holdout_drawdown", [inputs.simulated "max_drawdown_pct"]),
        ("cost_stress", [inputs.stressed]), ("bootstrap_uncertainty", inputs.interval)] := by
  have hnumbers : document.holdout.simulationError = none →
      ∀ value ∈ inputs.holdoutNumbers, ∃ x, value.number? = some x := by
    rw [hm.holdout]
    exact numbers_of_no_error
  have hstressed : inputs.stressed ∈ inputs.holdoutNumbers :=
    List.mem_append_right _ (List.mem_singleton_self _)
  have hfield : ∀ key ∈ ["sharpe", "total_trades", "max_drawdown_pct", "total_return_pct"],
      inputs.simulated key ∈ inputs.holdoutNumbers := fun key hkey =>
    List.mem_append_left _ (List.mem_map_of_mem (List.mem_append_right _ hkey))
  have hinterval : document.holdout.simulationError = none →
      document.holdout.bootstrapError = none →
        ∀ value ∈ inputs.interval, ∃ x, value.number? = some x := by
    rw [hm.holdout]
    exact interval_of_no_error
  have havailable : RestsOn ("holdout_available",
      criterion (.one (.flag (measurementError document).isNone)) (.flag true) .eq
        (measurementError document).isNone (measurementError document)
        ((measurementError document).map ("holdout_unavailable:" ++ ·)))
      ("holdout_available", inputs.holdoutNumbers ++ inputs.interval) := by
    refine ⟨rfl, fun hpass => ?_⟩
    have hnone := firstError_eq_none.mp (criterion_pass_iff.mp hpass).1
    simp only [List.forall_mem_cons] at hnone
    exact List.forall_mem_append.mpr ⟨hnumbers hnone.1, hinterval hnone.1 hnone.2.1⟩
  have hratio : document.holdout.simulationError = none →
      holdoutDsrError stats document family = none →
        ∀ value ∈ MeasureInputs.sampled inputs.simulated family,
          ∃ x, value.number? = some x := by
    intro hsimulation herror
    cases hdsr : holdoutDsr stats document family with
    | none => simp [holdoutDsr, hsimulation] at hdsr
    | some run =>
      obtain ⟨summary, stressed, hrun, hfamily⟩ := holdoutDsr_measured hm hdsr
      have hget : inputs.simulated = summary.get := by
        funext key
        rw [MeasureInputs.simulated, hrun]
      cases run with
      | ok dsr =>
        rw [hget]
        exact numbers_of_familyDsr hfamily.symm
      | error error =>
        rw [holdoutDsrError, hdsr] at herror
        cases herror
  refine .cons havailable (.cons (gate_rests ?_) (.cons (gate_rests ?_) (.cons (gate_rests ?_)
    (.cons (gate_rests ?_) (.cons (gate_rests ?_) (.cons (gate_rests ?_) .nil))))))
  · exact fun hnone _ _ =>
      List.forall_mem_singleton.mpr (hnumbers hnone _ (hfield "sharpe" (by simp)))
  · exact fun hnone _ _ =>
      List.forall_mem_singleton.mpr (hnumbers hnone _ (hfield "total_trades" (by simp)))
  · exact fun hnone hown _ => hratio hnone hown
  · exact fun hnone _ _ =>
      List.forall_mem_singleton.mpr (hnumbers hnone _ (hfield "max_drawdown_pct" (by simp)))
  · exact fun hnone _ _ => List.forall_mem_singleton.mpr (hnumbers hnone _ hstressed)
  · exact fun hnone hown _ => hinterval hnone hown

/-! ## The novelty -/

/-- A novelty without an error rests on numbers. -/
theorem residualNumbers_of_no_error (h : inputs.novelty.error = none) :
    ∀ value ∈ inputs.residualNumbers, ∃ x, value.number? = some x := by
  unfold MeasureInputs.residualNumbers
  unfold MeasureInputs.novelty at h
  cases hincumbents : inputs.manifest.incumbents with
  | absent => simp
  | invalid => simp
  | list n =>
    cases n with
    | zero => simp
    | succ n =>
      rw [hincumbents] at h
      cases hresidual : inputs.residual with
      | error error => simp [hresidual, Novelty.error] at h
      | ok evidence =>
        cases evidence with
        | none => simp
        | some measured =>
          obtain ⟨novel, residualIc, pValue⟩ := measured
          cases novel with
          | flag novel =>
            by_cases hfinite : residualIc.number?.isSome = true ∧ pValue.number?.isSome = true
            · simpa [Option.isSome_iff_exists] using hfinite
            · simp [hresidual, hfinite, Novelty.error] at h
          | _ => simp [hresidual, Novelty.error] at h

theorem noveltyVerdict_rests (hm : Measures inputs document) :
    List.Forall₂ RestsOn (noveltyVerdict document).criteria
      [("frozen_incumbent_snapshot", []),
        ("incremental_predictive_evidence", inputs.residualNumbers)] := by
  refine .cons (restsOn_nil _ _) (.cons ⟨rfl, fun hpass => ?_⟩ .nil)
  have hnone := (criterion_pass_iff.mp hpass).1
  rw [hm.novelty] at hnone
  exact residualNumbers_of_no_error hnone

/-! ## The whole -/

/-- The parts of an assessment, in their order. -/
def assessmentParts (stats : NormalStats) (document : MeasurementDocument) (family : Family)
    (policy : ValidationPolicy) (folds : Verdict) : List Verdict :=
  [contractVerdict document]
    ++ (validationMinimums policy).map (fun entry => validationVerdict document entry.1 entry.2)
    ++ [folds, familyVerdict stats document family policy,
      holdoutVerdict stats document family policy, noveltyVerdict document]

/-- **An assessment that returned** is joined of its parts. -/
theorem assessStatisticalMeasurements_ok {decision : Decision}
    (h : assessStatisticalMeasurements stats document family policy = .ok decision) :
    ∃ folds, foldVerdict document policy = .ok folds ∧
      decision.passed = decision.reasons.isEmpty ∧
      decision.reasons
        = (Verdict.join (assessmentParts stats document family policy folds)).reasons ∧
      decision.criteria
        = (Verdict.join (assessmentParts stats document family policy folds)).criteria := by
  obtain ⟨-, h⟩ := refuse_bind_eq_ok.mp h
  obtain ⟨folds, hfolds, h⟩ := except_bind_eq_ok.mp h
  obtain ⟨holdout, -, h⟩ := except_bind_eq_ok.mp h
  cases h
  exact ⟨folds, hfolds, rfl, rfl, rfl⟩

/-- The criteria of its parts, on the values they rest on. -/
theorem assessmentParts_rest {folds : Verdict} (hm : Measures inputs document)
    (hfolds : foldVerdict document policy = .ok folds) :
    List.Forall₂ RestsOn
      (Verdict.join (assessmentParts stats document family policy folds)).criteria
      (inputs.underlying family) := by
  unfold Verdict.join assessmentParts validationMinimums
  simp only [List.map_cons, List.map_nil, List.flatMap_append, List.flatMap_cons,
    List.flatMap_nil, List.append_nil]
  have hvalidation := rests_append (validationVerdict_rests hm "sharpe_oos" policy.minSharpe)
    (rests_append (validationVerdict_rests hm "dsr" policy.minDsr) (rests_append
      (validationVerdict_rests hm "rank_ic_mean" policy.minIc)
      (validationVerdict_rests hm "total_trades" policy.minimumTrades)))
  have hrest := rests_append (foldVerdict_rests hm hfolds) (rests_append
    (familyVerdict_rests stats family policy hm) (rests_append
      (holdoutVerdict_rests stats family policy hm) (noveltyVerdict_rests hm)))
  exact rests_append (rests_append contractVerdict_rests hvalidation) hrest

/-- **An error speaks against the candidate.** -/
theorem not_errored {folds : Verdict} (hm : Measures inputs document)
    (h : (Verdict.join (assessmentParts stats document family policy folds)).reasons = []) :
    ¬ Errored stats document family := by
  have hparts := join_reasons_eq_nil.mp h
  have hfamily := hparts (familyVerdict stats document family policy)
    (by simp [assessmentParts])
  have hholdout := hparts (holdoutVerdict stats document family policy)
    (by simp [assessmentParts])
  have hnovelty := hparts (noveltyVerdict document) (by simp [assessmentParts])
  obtain ⟨hsimulation, hratio, hbootstrap⟩ := holdoutError_eq_none.mp
    (holdoutError_of_pass (holdoutVerdict_consistent.agree.mp hholdout))
  have hpass := (noveltyVerdict_consistent hm).agree.mp hnovelty _
    (List.mem_cons_of_mem _ List.mem_cons_self)
  rintro (herror | herror | ⟨error, herror⟩ | herror | herror)
  · exact herror hsimulation
  · exact herror hbootstrap
  · unfold familyVerdict at hfamily
    rw [herror] at hfamily
    cases hfamily
  · exact herror hratio
  · exact herror (criterion_pass_iff.mp hpass).1

/-- A decision that is joined of consistent parts. -/
theorem decides_of_join (verdicts : List Verdict) {decision : Decision}
    {underlying : List (String × List Evidence)}
    (hpassed : decision.passed = decision.reasons.isEmpty)
    (hreasons : decision.reasons = (Verdict.join verdicts).reasons)
    (hcriteria : decision.criteria = (Verdict.join verdicts).criteria)
    (hconsistent : ∀ v ∈ verdicts, Consistent v)
    (hrests : List.Forall₂ RestsOn (Verdict.join verdicts).criteria underlying)
    (herrored : (Verdict.join verdicts).reasons = [] → ¬ Errored stats document family) :
    Decides stats document family underlying decision where
  qualified := by rw [hpassed, List.isEmpty_iff]
  conjunction := by
    rw [hreasons, hcriteria]
    exact (consistent_join hconsistent).agree
  rests := by rwa [hcriteria]
  errored := by
    intro h
    rw [hpassed, hreasons, List.isEmpty_eq_false_iff]
    exact fun hnil => herrored hnil h

end Parts

/-! ## The results -/

/-- **What was measured is decided by its criteria**, in the scientific assessment of a
measured document and in the qualification, which adds the contract of the deployment. -/
theorem criteria_decide (stats : NormalStats) (inputs : MeasureInputs) (family : Family)
    (frozen policy : ValidationPolicy) (document : MeasurementDocument)
    (hmeasure : inputs.measure frozen = .ok document) :
    (∀ decision, assessStatisticalMeasurements stats document family policy = .ok decision →
      Decides stats document family (inputs.underlying family) decision)
    ∧ ∀ decision, assessQualification stats inputs family frozen = .ok decision →
      Decides stats document family
        (inputs.underlying family ++ [("deployment_data_contract", [])]) decision := by
  have hm := measured hmeasure
  refine ⟨fun decision h => ?_, fun decision h => ?_⟩
  -- the scientific assessment
  · obtain ⟨folds, hfolds, hpassed, hreasons, hcriteria⟩ := assessStatisticalMeasurements_ok h
    exact decides_of_join _ hpassed hreasons hcriteria
      (fun v hv => parts_consistent hm hfolds v (List.mem_append_left _ hv))
      (assessmentParts_rest hm hfolds) (not_errored hm)
  -- the qualification measures the same document and joins the contract's verdict last
  · obtain ⟨document', hmeasure', h⟩ := except_bind_eq_ok.mp h
    cases hmeasure.symm.trans hmeasure'
    obtain ⟨assessed, hassess, h⟩ := except_bind_eq_ok.mp h
    cases h
    obtain ⟨folds, hfolds, -, hreasons, hcriteria⟩ := assessStatisticalMeasurements_ok hassess
    have hjoin : ∀ verdicts : List Verdict, ∀ v : Verdict,
        Verdict.join (verdicts ++ [v])
          = ⟨(Verdict.join verdicts).criteria ++ v.criteria,
            (Verdict.join verdicts).reasons ++ v.reasons⟩ := by
      intro verdicts v
      simp [Verdict.join]
    refine decides_of_join (assessmentParts stats document family frozen folds
      ++ [deploymentVerdict inputs.definition inputs.manifest]) rfl ?_ ?_
      (parts_consistent hm hfolds) ?_ ?_
    · rw [hjoin, ← hreasons]
      rfl
    · rw [hjoin, ← hcriteria]
      rfl
    · rw [hjoin]
      exact List.rel_append (assessmentParts_rest hm hfolds) (.cons (restsOn_nil _ _) .nil)
    · rw [hjoin]
      exact fun hnil => not_errored hm (List.append_eq_nil_iff.mp hnil).1

/-- A family of one trial. -/
def sampleFamily : Family := ⟨.count 1, .real (.finite 0)⟩

/-- The sample, with a bootstrap that raised. -/
def unbootstrappedInputs : MeasureInputs :=
  { sampleInputs with bootstrap := .error "Not enough observations" }

/-- All criteria of the sample pass, and without its bootstrap it does not qualify. -/
theorem criteria_decide_sample :
    (∃ decision, assessQualification flatStats sampleInputs sampleFamily samplePolicy
        = .ok decision ∧ ∀ entry ∈ decision.criteria, entry.2.status = .pass)
      ∧ ∃ decision, assessQualification flatStats unbootstrappedInputs sampleFamily samplePolicy
        = .ok decision ∧ decision.passed = false := by
  constructor
  · obtain ⟨decision, hrun, hpassed⟩ := sample_decision
    obtain ⟨document, hmeasure, -⟩ := except_bind_eq_ok.mp hrun
    have hdecides := (criteria_decide flatStats sampleInputs sampleFamily samplePolicy
      samplePolicy document hmeasure).2 decision hrun
    exact ⟨decision, hrun, hdecides.conjunction.mp (hdecides.qualified.mp hpassed)⟩
  · have hreturns : (assessQualification flatStats unbootstrappedInputs sampleFamily
        samplePolicy).isOk = true := by
      decide +kernel
    cases hrun : assessQualification flatStats unbootstrappedInputs sampleFamily samplePolicy with
    | error message =>
      rw [hrun] at hreturns
      cases hreturns
    | ok decision =>
      obtain ⟨document, hmeasure, -⟩ := except_bind_eq_ok.mp hrun
      have hdecides := (criteria_decide flatStats unbootstrappedInputs sampleFamily samplePolicy
        samplePolicy document hmeasure).2 decision hrun
      refine ⟨decision, rfl, hdecides.errored (Or.inr (Or.inl ?_))⟩
      rw [(measured hmeasure).holdout]
      have hraised : unbootstrappedInputs.holdout.bootstrapError
          = some "Not enough observations" := by
        decide +kernel
      rw [hraised]
      exact Option.some_ne_none _

/-- A document that was not measured: a snapshot that is no list, and a novelty without
incumbents. -/
def unlistedDocument : MeasurementDocument where
  policy := samplePolicy
  definition := sampleInputs.definition
  manifest := ⟨.invalid, "alpaca:iex", "raw"⟩
  recursiveFeature := false
  validationMetrics := sampleInputs.metrics
  validationErrors := []
  foldSharpes := sampleInputs.foldSharpes
  calibration := .null
  validationFoldError := none
  holdout := sampleInputs.holdout
  novelty := { status := some "no_incumbents" }

/-- Nothing speaks against the candidate there, and its snapshot is unavailable. -/
theorem unlisted_snapshot_passes : ¬ ∀ (stats : NormalStats) (document : MeasurementDocument)
    (family : Family) (policy : ValidationPolicy) (decision : Decision),
      assessStatisticalMeasurements stats document family policy = .ok decision →
        (decision.passed = true ↔ ∀ entry ∈ decision.criteria, entry.2.status = .pass) := by
  intro h
  have hrun : (assessStatisticalMeasurements flatStats unlistedDocument sampleFamily
      samplePolicy).toOption.any (fun decision => decision.passed
        && !decision.criteria.all (fun entry => entry.2.status = .pass)) = true := by
    decide +kernel
  cases hassess : assessStatisticalMeasurements flatStats unlistedDocument sampleFamily
      samplePolicy with
  | error message =>
    rw [hassess] at hrun
    cases hrun
  | ok decision =>
    rw [hassess] at hrun
    obtain ⟨hpassed, hfails⟩ := Bool.and_eq_true_iff.mp hrun
    have hall := (h _ _ _ _ decision hassess).mp hpassed
    rw [Bool.not_eq_true', List.all_eq_false] at hfails
    obtain ⟨entry, hentry, hfail⟩ := hfails
    exact hfail (decide_eq_true (hall entry hentry))

end Promotion

end AgenticTrader
