import AgenticTrader.Alpha.Qualification

/-!
# What may be probed

A paper probe is not a qualification. `assess_probe` (`research/alpha/probe.py`) reads the
criteria that a qualification recorded, where promotion reads the reasons: four of the
criteria have to pass, and three of the observations are compared with floors of their own.

On the record of any assessment, what it finds is `ProbeFit`, again a statement about what
was measured: the contract, a holdout that was simulated and bootstrapped, and its floors.
-/

namespace AgenticTrader

namespace Promotion

/-! ## The record -/

/-- The text of a status. -/
def CriterionStatus.text : CriterionStatus → String
  | .pass => "pass"
  | .fail => "fail"
  | .unavailable => "unavailable"

@[simp] theorem text_eq_pass {status : CriterionStatus} :
    status.text = "pass" ↔ status = .pass := by
  cases status <;> simp [CriterionStatus.text]

@[simp] theorem text_eq_unavailable {status : CriterionStatus} :
    status.text = "unavailable" ↔ status = .unavailable := by
  cases status <;> simp [CriterionStatus.text]

/-- A criterion as it is recorded. -/
def Criterion.recorded (criterion : Criterion) : AgenticTrader.Criterion where
  status := criterion.status.text
  value :=
    match criterion.value with
    | .one value => value.number?
    | _ => none

/-- The criteria of a decision as they are recorded. -/
def Decision.recorded (decision : Decision) : List (String × AgenticTrader.Criterion) :=
  decision.criteria.map fun entry => (entry.1, entry.2.recorded)

theorem lookup_of_mem {β : Type} {entries : List (String × β)}
    (hdistinct : (entries.map (·.1)).Nodup) {entry : String × β} (hentry : entry ∈ entries) :
    entries.lookup entry.1 = some entry.2 := by
  induction entries with
  | nil => cases hentry
  | cons first entries ih =>
    obtain ⟨hfresh, hrest⟩ := List.nodup_cons.mp hdistinct
    obtain ⟨key, value⟩ := first
    rw [List.lookup_cons]
    rcases List.mem_cons.mp hentry with rfl | hentry
    · simp
    · have hne : entry.1 ≠ key := fun h => hfresh (List.mem_map.mpr ⟨entry, hentry, h⟩)
      rw [beq_false_of_ne hne]
      exact ih hrest hentry

theorem criterionCodes_nodup : criterionCodes.Nodup := by
  simp [criterionCodes]

section Record

variable {stats : NormalStats} {inputs : MeasureInputs} {family : Family}
  {policy : ValidationPolicy} {decision : Decision}

/-- **A criterion of an assessment** is found under its code in the record. -/
theorem lookup_recorded (h : assessQualification stats inputs family policy = .ok decision)
    {code : String} {criterion : Criterion} (hmem : (code, criterion) ∈ decision.criteria) :
    decision.recorded.lookup code = some criterion.recorded := by
  have hdistinct : (decision.recorded.map (·.1)).Nodup := by
    rw [Decision.recorded, List.map_map]
    exact criteria_codes h ▸ criterionCodes_nodup
  exact lookup_of_mem hdistinct (List.mem_map_of_mem hmem)

/-- A structural criterion gives no reason when it passes. -/
theorem structuralReason_eq_none {criteria : List (String × AgenticTrader.Criterion)}
    {code : String} {criterion : Criterion}
    (hlookup : criteria.lookup code = some criterion.recorded) :
    structuralReason criteria code = none ↔ criterion.status = .pass := by
  rw [structuralReason, hlookup]
  by_cases hpass : criterion.status = .pass <;> simp [Criterion.recorded, hpass]

/-- How a floor is compared. -/
def floorComparison (strict : Bool) : Comparison := if strict then .gt else .ge

/-- **A floor on a gate** whose holdout has no error is compared with what was measured. -/
theorem floorReason_eq_none {criteria : List (String × AgenticTrader.Criterion)}
    {code : String} {value : Evidence} {threshold floor : ℚ} {comparison : Comparison}
    {passed strict : Bool} {reason : Option String}
    (hlookup : criteria.lookup code = some (criterion (.one value) (.number threshold)
      comparison passed (firstError [none, none, value.numberError]) reason).recorded) :
    floorReason criteria (code, floor, strict) = none ↔
      (floorComparison strict).holds value floor = true := by
  have herror : firstError [none, none, value.numberError] = value.numberError := by
    cases h : value.numberError <;> simp [firstError]
  rw [herror] at hlookup
  simp only [floorReason, floorObservation, hlookup]
  cases hnumber : value.number? with
  | none =>
    have hsome : value.numberError.isSome = true := by
      cases h : value.numberError with
      | some error => rfl
      | none =>
        obtain ⟨x, hx⟩ := numberError_eq_none.mp h
        rw [hnumber] at hx
        cases hx
    simp [Criterion.recorded, criterion, hsome, Comparison.holds, hnumber, CriterionStatus.text]
  | some x =>
    have hnone := numberError_eq_none.mpr ⟨x, hnumber⟩
    have hstatus : (if passed = true then CriterionStatus.pass else .fail).text
        ≠ "unavailable" := by
      cases passed <;> simp [CriterionStatus.text]
    cases strict <;>
      simp [Criterion.recorded, criterion, hnone, hnumber, hstatus, floorComparison,
        Comparison.holds]

/-- **What may be probed**, of what was measured. -/
structure ProbeFit (inputs : MeasureInputs) (policy : ProbePolicy) (summary : Metrics)
    (stressed lower upper : Evidence) : Prop where
  daily : inputs.definition.timeframe = "1d"
  shared : inputs.recursiveFeature = false
  contract : ContractMeets inputs.definition inputs.manifest
  simulated : inputs.simulation = .ok (summary, stressed)
  valid : holdoutInvalid summary stressed = none
  bootstrapped : inputs.bootstrap = .ok [lower, upper]
  interval : validInterval [lower, upper] = true
  sharpe : Comparison.gt.holds (summary.get "sharpe") policy.minHoldoutSharpe = true
  stress : Comparison.gt.holds stressed policy.minCostStressedReturnPct = true
  trades : Comparison.ge.holds (summary.get "total_trades") policy.minHoldoutTrades = true

theorem measurementError_eq_none {document : MeasurementDocument} :
    measurementError document = none ↔
      document.holdout.simulationError = none ∧ document.holdout.bootstrapError = none := by
  simp [measurementError, firstError_eq_none]

/-- **The structural criteria** of an assessment pass on the contract and on a holdout that
was measured. -/
theorem structural_iff {document : MeasurementDocument} (hm : Measures inputs document)
    (hcriteria : ∀ v ∈ [contractVerdict document, holdoutVerdict stats document family policy,
      deploymentVerdict inputs.definition inputs.manifest],
      ∀ entry ∈ v.criteria, decision.recorded.lookup entry.1 = some entry.2.recorded) :
    structuralCriteria.filterMap (structuralReason decision.recorded) = [] ↔
      (inputs.definition.timeframe = "1d" ∧ inputs.recursiveFeature = false) ∧
      ContractMeets inputs.definition inputs.manifest ∧ measurementError document = none := by
  simp only [List.forall_mem_cons] at hcriteria
  obtain ⟨hcontract, hholdout, hdeployment, -⟩ := hcriteria
  have havailable := hholdout _ (List.mem_flatMap.mpr
    ⟨_, List.mem_cons_self, List.mem_singleton_self _⟩)
  have hdaily := hcontract _ (List.mem_flatMap.mpr
    ⟨_, List.mem_cons_self, List.mem_singleton_self _⟩)
  have hshared := hcontract _ (List.mem_flatMap.mpr
    ⟨_, List.mem_cons_of_mem _ List.mem_cons_self, List.mem_singleton_self _⟩)
  have hmatch := hdeployment _ (List.mem_singleton_self _)
  rw [List.filterMap_eq_nil_iff]
  simp only [structuralCriteria, List.forall_mem_cons, structuralReason_eq_none havailable,
    structuralReason_eq_none hdaily, structuralReason_eq_none hshared,
    structuralReason_eq_none hmatch, criterion_pass_iff, hm.definition, hm.recursiveFeature,
    Bool.not_eq_true', mismatch_eq_false]
  simp only [Option.isNone_iff_eq_none, and_self, true_and, decide_eq_true_iff,
    List.not_mem_nil, false_imp_iff, implies_true, and_true]
  tauto

/-- **The floors**, on a holdout that was simulated. -/
theorem floors_iff {document : MeasurementDocument} {probe : ProbePolicy}
    (hholdout : ∀ entry ∈ (holdoutVerdict stats document family policy).criteria,
      decision.recorded.lookup entry.1 = some entry.2.recorded)
    (hsimulation : document.holdout.simulationError = none) :
    (probeFloors probe).filterMap (floorReason decision.recorded) = [] ↔
      Comparison.gt.holds (document.holdout.summary.get "sharpe") probe.minHoldoutSharpe = true ∧
      Comparison.gt.holds document.holdout.stressedReturnPct probe.minCostStressedReturnPct
        = true ∧
      Comparison.ge.holds (document.holdout.summary.get "total_trades") probe.minHoldoutTrades
        = true := by
  have hgate : ∀ {v : Verdict} {entry}, v ∈ _ → entry ∈ v.criteria →
      decision.recorded.lookup entry.1 = some entry.2.recorded :=
    fun hv hentry => hholdout _ (List.mem_flatMap.mpr ⟨_, hv, hentry⟩)
  have hsharpe := hgate (List.mem_cons_of_mem _ List.mem_cons_self) (List.mem_singleton_self _)
  have htrades := hgate (List.mem_cons_of_mem _ (List.mem_cons_of_mem _ List.mem_cons_self))
    (List.mem_singleton_self _)
  have hstress := hgate (List.mem_cons_of_mem _ (List.mem_cons_of_mem _
    (List.mem_cons_of_mem _ (List.mem_cons_of_mem _ (List.mem_cons_of_mem _
      List.mem_cons_self))))) (List.mem_singleton_self _)
  rw [hsimulation] at hsharpe htrades hstress
  rw [List.filterMap_eq_nil_iff]
  simp only [probeFloors, List.forall_mem_cons, floorReason_eq_none hsharpe,
    floorReason_eq_none htrades, floorReason_eq_none hstress, floorComparison, reduceIte,
    Bool.false_eq_true, List.not_mem_nil, false_imp_iff, implies_true, and_true]

/-- **The probe gate reads what was measured.** On the recorded criteria of an assessment
that returned, `assess_probe` finds an alpha eligible exactly when its holdout was simulated
and bootstrapped without an error under the deployment contract, and lies above the floors
of the probe. -/
theorem probe_eligible_iff (h : assessQualification stats inputs family policy = .ok decision)
    {q : Qualification} (hq : q.criteria = decision.recorded) (probe : ProbePolicy) :
    (assessProbe (some q) probe).eligible = true ↔
      ∃ summary stressed lower upper, ProbeFit inputs probe summary stressed lower upper := by
  obtain ⟨document, folds, hm, hfolds, -, verdicts, hverdicts, -, hcriteria⟩ :=
    assessQualification_ok h
  have hlookup : ∀ v ∈ verdicts, ∀ entry ∈ v.criteria,
      decision.recorded.lookup entry.1 = some entry.2.recorded := by
    intro v hv entry hentry
    refine lookup_recorded h ?_
    rw [hcriteria]
    exact List.mem_flatMap.mpr ⟨v, hv, hentry⟩
  have hparts : ∀ v ∈ [contractVerdict document, holdoutVerdict stats document family policy,
      deploymentVerdict inputs.definition inputs.manifest],
      ∀ entry ∈ v.criteria, decision.recorded.lookup entry.1 = some entry.2.recorded := by
    intro v hv
    refine hlookup v ?_
    rw [hverdicts]
    simp only [List.mem_cons, List.not_mem_nil, or_false] at hv
    rcases hv with rfl | rfl | rfl <;> simp
  have hstructural := structural_iff hm hparts
  have hholdout := hlookup (holdoutVerdict stats document family policy) (by simp [hverdicts])
  have heligible : (assessProbe (some q) probe).eligible = true ↔
      structuralCriteria.filterMap (structuralReason decision.recorded) = [] ∧
        (probeFloors probe).filterMap (floorReason decision.recorded) = [] := by
    rw [← hq, ← List.append_eq_nil_iff, ← List.isEmpty_iff]
    rfl
  rw [heligible, hstructural]
  constructor
  · rintro ⟨⟨⟨hdaily, hshared⟩, hcontract, hmeasured⟩, hfloors⟩
    obtain ⟨hsimulation, hbootstrap⟩ := measurementError_eq_none.mp hmeasured
    obtain ⟨hsharpe, hstress, htrades⟩ := (floors_iff hholdout hsimulation).mp hfloors
    rw [hm.holdout] at hsimulation hbootstrap hsharpe hstress htrades
    obtain ⟨summary, stressed, lower, upper, hrun, hinvalid, hboot, hvalid⟩ :=
      holdout_of_no_error hsimulation hbootstrap
    rw [holdout_eq hrun hinvalid hboot hvalid] at hsharpe hstress htrades
    obtain ⟨hnumbers, hnumber⟩ := holdoutInvalid_eq_none hinvalid
    rw [get_jsonSafe_of_none (hnumbers _ (by simp))] at hsharpe htrades
    obtain ⟨x, hx⟩ := numberError_eq_none.mp hnumber
    rw [jsonSafe_of_number hx] at hstress
    exact ⟨summary, stressed, lower, upper, hdaily, hshared, hcontract, hrun, hinvalid, hboot,
      hvalid, hsharpe, hstress, htrades⟩
  · rintro ⟨summary, stressed, lower, upper, hfit⟩
    have heq := holdout_eq hfit.simulated hfit.valid hfit.bootstrapped hfit.interval
    obtain ⟨hnumbers, hnumber⟩ := holdoutInvalid_eq_none hfit.valid
    obtain ⟨x, hx⟩ := numberError_eq_none.mp hnumber
    have hsimulation : document.holdout.simulationError = none := by rw [hm.holdout, heq]
    refine ⟨⟨⟨hfit.daily, hfit.shared⟩, hfit.contract, measurementError_eq_none.mpr
      ⟨hsimulation, by rw [hm.holdout, heq]⟩⟩, (floors_iff hholdout hsimulation).mpr ?_⟩
    rw [hm.holdout, heq, get_jsonSafe_of_none (hnumbers _ (by simp)),
      get_jsonSafe_of_none (hnumbers _ (by simp)), jsonSafe_of_number hx]
    exact ⟨hfit.sharpe, hfit.stress, hfit.trades⟩

end Record

/-- The record of a decision. -/
def sampleRecord (decision : Decision) : Qualification :=
  ⟨"run", "version", decision.passed, decision.reasons, "policy", 0, [],
    decision.eligibleSymbols, decision.recorded⟩

/-- The alpha above lies over the floors of the default probe. -/
theorem probe_eligible_iff_sample : ∃ decision, assessQualification flatStats sampleInputs
    ⟨.count 1, .real (.finite 0)⟩ samplePolicy = .ok decision ∧
      (assessProbe (some (sampleRecord decision)) {}).eligible = true := by
  obtain ⟨decision, hrun, -⟩ := sample_decision
  refine ⟨decision, hrun, (probe_eligible_iff hrun rfl {}).mpr ⟨_, _, _, _, rfl, rfl, ?_, rfl,
    ?_, rfl, ?_, ?_, ?_, ?_⟩⟩
  · exact ⟨List.mem_cons_self, rfl, rfl, rfl⟩
  all_goals decide +kernel

end Promotion

end AgenticTrader
