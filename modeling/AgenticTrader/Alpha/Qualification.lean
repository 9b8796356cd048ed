import AgenticTrader.Alpha.Promotion
import AgenticTrader.Alpha.Registry

/-!
# What qualifies

The two accounts that an assessment keeps agree: nothing speaks against a candidate exactly
when every criterion passes, and a criterion passes only on evidence that is a finite
number, or a list of such, that meets its threshold. What the accounts come to is the
policy itself, `Qualifies`: every bound met by what was measured, with no error anywhere.

Each part of an assessment is `Consistent`, and so is what is joined of such parts. One
part is consistent only on a document that was measured: the snapshot of the incumbents,
which gives no reason of its own where it is of the wrong type, and relies on the novelty
being unavailable there.
-/

namespace AgenticTrader

namespace Promotion

open Checks

/-! ## Evidence -/

section Evidence

theorem numberError_eq_none {value : Evidence} :
    value.numberError = none ↔ ∃ x, value.number? = some x := by
  cases value with
  | null => simp [Evidence.numberError, Evidence.number?]
  | flag value => simp [Evidence.numberError, Evidence.number?]
  | count value => simp [Evidence.numberError, Evidence.number?]
  | real value => cases value <;> simp [Evidence.numberError, Evidence.number?, Extended.isFinite]
  | other => simp [Evidence.numberError, Evidence.number?]

theorem jsonSafe_number? (value : Evidence) : value.jsonSafe.number? = value.number? := by
  cases value with
  | real value => cases value <;> rfl
  | _ => rfl

/-- A number is in the document what it was. -/
theorem jsonSafe_of_number {value : Evidence} {x : ℚ} (hx : value.number? = some x) :
    value.jsonSafe = value := by
  cases value with
  | real value =>
    cases value with
    | finite value => rfl
    | infinity negative => cases hx
    | nan => cases hx
  | _ => rfl

/-- No error of a value is the empty text. -/
theorem numberError_ne_empty (value : Evidence) : value.numberError ≠ some "" := by
  cases value with
  | null => simp [Evidence.numberError]
  | flag value => simp [Evidence.numberError]
  | count value => simp [Evidence.numberError]
  | real value => cases h : value.isFinite <;> simp [Evidence.numberError, h]
  | other => simp [Evidence.numberError]

theorem truthy_numberError {value : Evidence} :
    truthy value.numberError = value.numberError.isSome := by
  have hne := numberError_ne_empty value
  cases h : value.numberError with
  | none => rfl
  | some error =>
    have : error ≠ "" := fun he => hne (by rw [h, he])
    simp [truthy, this]

theorem lookup_jsonSafe (entries : List (String × Evidence)) (key : String) :
    (entries.map fun entry => (entry.1, entry.2.jsonSafe)).lookup key
      = (entries.lookup key).map (·.jsonSafe) := by
  induction entries with
  | nil => rfl
  | cons entry entries ih =>
    obtain ⟨key', value⟩ := entry
    simp only [List.map_cons, List.lookup_cons]
    cases h : key == key' with
    | true => rfl
    | false => exact ih

theorem get_jsonSafe (metrics : Metrics) (key : String) :
    metrics.jsonSafe.get key = (metrics.get key).jsonSafe := by
  unfold Metrics.get Metrics.jsonSafe
  rw [lookup_jsonSafe]
  cases metrics.entries.lookup key <;> rfl

/-- A key that is not there is not found. -/
theorem lookup_eq_none {β : Type} {entries : List (String × β)} {key : String}
    (hkey : key ∉ entries.map (·.1)) : entries.lookup key = none :=
  List.lookup_eq_none_iff.mpr fun entry hentry => by
    have hne : key ≠ entry.1 := by
      rintro rfl
      exact hkey (List.mem_map_of_mem hentry)
    simpa using hne

/-- **The error noted of a key** is that of its value. -/
theorem lookup_errors (metrics : Metrics) (key : String) :
    metrics.errors.lookup key = (metrics.entries.lookup key).bind (·.numberError) := by
  obtain ⟨entries, hdistinct⟩ := metrics
  simp only [Metrics.errors]
  induction entries with
  | nil => rfl
  | cons entry entries ih =>
    obtain ⟨key', value⟩ := entry
    obtain ⟨hfresh, hrest⟩ := List.nodup_cons.mp hdistinct
    have ih := ih hrest
    cases herror : value.numberError with
    | some error =>
      simp only [List.filterMap_cons, herror, Option.map_some, List.lookup_cons]
      cases key == key' with
      | true => exact herror.symm
      | false => exact ih
    | none =>
      simp only [List.filterMap_cons, herror, Option.map_none, List.lookup_cons]
      cases hkey : key == key' with
      | false => exact ih
      | true =>
        have hnone : entries.lookup key = none :=
          lookup_eq_none fun hmem => hfresh (by rwa [eq_of_beq hkey] at hmem)
        rw [ih, hnone]
        exact herror.symm

/-- **The error of a validation metric**, noted or found in the document, is that of the
metric that was measured. -/
theorem textOr_errors (metrics : Metrics) (key : String) :
    textOr (metrics.errors.lookup key) (metrics.jsonSafe.get key).numberError
      = (metrics.get key).numberError := by
  rw [lookup_errors, get_jsonSafe]
  unfold Metrics.get
  cases metrics.entries.lookup key with
  | none => rfl
  | some value =>
    simp only [Option.bind_some, Option.getD_some]
    unfold textOr
    rw [truthy_numberError]
    cases herror : value.numberError with
    | some error => rfl
    | none =>
      obtain ⟨x, hx⟩ := numberError_eq_none.mp herror
      simp [jsonSafe_of_number hx, herror]

theorem holds_number {comparison : Comparison} {value : Evidence} {threshold : ℚ}
    (h : comparison.holds value threshold = true) : ∃ x, value.number? = some x := by
  unfold Comparison.holds at h
  split at h
  · exact ⟨_, ‹_›⟩
  · exact ⟨_, ‹_›⟩
  · exact ⟨_, ‹_›⟩
  · cases h

end Evidence

/-! ## Criteria -/

section Criteria

variable {value : CriterionValue} {threshold : CriterionThreshold} {comparison : Comparison}
  {passed : Bool} {error reason : Option String}

theorem criterion_pass_iff :
    (criterion value threshold comparison passed error reason).status = .pass
      ↔ error = none ∧ passed = true := by
  cases error <;> cases passed <;> simp [criterion]

/-- What a criterion passes on: a finite number on the right side of its threshold, a flag
or a text as expected, enough folds above zero, a novelty that was measured, a feed that
is allowed and the definition's own. -/
def Criterion.Supported (criterion : Criterion) : Prop :=
  match criterion.value, criterion.threshold with
  | .one value, .number threshold => criterion.comparison.holds value threshold = true
  | .one value, .flag expected => value = .flag expected
  | .text value, .text expected => value = expected
  | .folds folds, .folds minimum => ∃ values, folds = .list values ∧
      minimum ≤ values.length ∧ ∀ value ∈ values, Comparison.gt.holds value 0 = true
  | .novelty novelty, .novelty => novelty.error = none ∧ novelty.pass = true
  | .contract feed adjustment definitionFeed definitionAdjustment, .contract feeds expected =>
      feed ∈ feeds ∧ adjustment = expected ∧ definitionFeed = feed ∧
        definitionAdjustment = adjustment
  | _, _ => False

/-- No criterion passes without evidence. -/
def Verdict.Supported (verdict : Verdict) : Prop :=
  ∀ entry ∈ verdict.criteria, entry.2.status = .pass → entry.2.Supported

/-- **The two accounts agree**, and no criterion passes without evidence. -/
structure Consistent (verdict : Verdict) : Prop where
  agree : verdict.reasons = [] ↔ ∀ entry ∈ verdict.criteria, entry.2.status = .pass
  supported : verdict.Supported

/-- A part of one criterion. -/
theorem consistent_verdict {code : String} {criterion : Criterion} {noted : Bool}
    {reason : String} (hagree : noted = false ↔ criterion.status = .pass)
    (hsupported : criterion.status = .pass → criterion.Supported) :
    Consistent (verdict code criterion noted reason) where
  agree := by cases noted <;> simpa [verdict] using hagree
  supported := by simpa [Verdict.Supported, verdict] using hsupported

theorem supported_join {verdicts : List Verdict} (h : ∀ v ∈ verdicts, v.Supported) :
    (Verdict.join verdicts).Supported := by
  intro entry hentry
  obtain ⟨v, hv, hentry⟩ := List.mem_flatMap.mp hentry
  exact h v hv entry hentry

/-- **What is joined of consistent parts is consistent.** -/
theorem consistent_join {verdicts : List Verdict} (h : ∀ v ∈ verdicts, Consistent v) :
    Consistent (Verdict.join verdicts) where
  agree := by
    simp only [Verdict.join, List.flatMap_eq_nil_iff, List.mem_flatMap]
    constructor
    · rintro hreasons entry ⟨v, hv, hentry⟩
      exact (h v hv).agree.mp (hreasons v hv) entry hentry
    · intro hpass v hv
      exact (h v hv).agree.mpr fun entry hentry => hpass entry ⟨v, hv, hentry⟩
  supported := supported_join fun v hv => (h v hv).supported

theorem join_reasons_eq_nil {verdicts : List Verdict} :
    (Verdict.join verdicts).reasons = [] ↔ ∀ v ∈ verdicts, v.reasons = [] := by
  simp only [Verdict.join, List.flatMap_eq_nil_iff]

theorem verdict_reasons_eq_nil {code : String} {criterion : Criterion} {noted : Bool}
    {reason : String} : (verdict code criterion noted reason).reasons = [] ↔ noted = false := by
  cases noted <;> simp [verdict]

end Criteria

/-! ## Measured documents -/

section Measured

variable {inputs : MeasureInputs} {policy : ValidationPolicy} {document : MeasurementDocument}

theorem foldError_ne_empty (folds : FoldValues) : folds.error ≠ some "" := by
  cases folds with
  | missing => simp [FoldValues.error]
  | other length => simp [FoldValues.error]
  | list values =>
    intro h
    obtain ⟨value, hvalue, herror⟩ := List.exists_of_findSome?_eq_some h
    exact numberError_ne_empty value herror

/-- Folds without an error are numbers. -/
theorem foldError_eq_none {folds : FoldValues} :
    folds.error = none ↔
      ∃ values, folds = .list values ∧ ∀ value ∈ values, ∃ x, value.number? = some x := by
  cases folds with
  | missing => simp [FoldValues.error]
  | other length => simp [FoldValues.error]
  | list values => simp [FoldValues.error, List.findSome?_eq_none_iff, numberError_eq_none]

theorem map_jsonSafe {values : List Evidence}
    (h : ∀ value ∈ values, ∃ x, value.number? = some x) :
    values.map (·.jsonSafe) = values := by
  have hsame : ∀ value ∈ values, value.jsonSafe = id value := fun value hvalue => by
    obtain ⟨x, hx⟩ := h value hvalue
    exact jsonSafe_of_number hx
  rw [List.map_congr_left hsame, List.map_id]

theorem novelty_of_invalid (h : inputs.manifest.incumbents = .invalid) :
    inputs.novelty.error.isSome = true := by
  simp [MeasureInputs.novelty, h, Novelty.error]

/-- **What a document says** of the inputs it was measured from. -/
structure Measures (inputs : MeasureInputs) (document : MeasurementDocument) : Prop where
  definition : document.definition = inputs.definition
  manifest : document.manifest = inputs.manifest
  recursiveFeature : document.recursiveFeature = inputs.recursiveFeature
  metrics : document.validationMetrics = inputs.metrics.jsonSafe
  errors : document.validationErrors = inputs.metrics.errors
  folds : document.foldSharpes = inputs.foldSharpes.jsonSafe
  foldError : document.validationFoldError = inputs.foldSharpes.error
  holdout : document.holdout = inputs.holdout
  novelty : document.novelty = inputs.novelty

theorem measured (h : inputs.measure policy = .ok document) : Measures inputs document := by
  obtain ⟨-, h⟩ := refuse_bind_eq_ok.mp h
  cases h
  constructor <;> rfl

end Measured

/-! ## The parts -/

section Parts

variable {stats : NormalStats} {inputs : MeasureInputs} {document : MeasurementDocument}
  {family : Family} {policy : ValidationPolicy}

theorem contractVerdict_consistent : Consistent (contractVerdict document) := by
  refine consistent_join fun v hv => ?_
  rcases List.mem_pair.mp hv with rfl | rfl
  · refine consistent_verdict ?_ ?_
    · simp [criterion_pass_iff]
    · intro hpass
      simpa [Criterion.Supported, criterion] using (criterion_pass_iff.mp hpass).2
  · refine consistent_verdict ?_ ?_
    · simp [criterion_pass_iff]
    · intro hpass
      have hshared := (criterion_pass_iff.mp hpass).2
      rw [Bool.not_eq_true'] at hshared
      exact congrArg Evidence.flag hshared

theorem contractVerdict_reasons (hm : Measures inputs document) :
    (contractVerdict document).reasons = [] ↔
      inputs.definition.timeframe = "1d" ∧ inputs.recursiveFeature = false := by
  rw [contractVerdict, join_reasons_eq_nil, hm.definition, hm.recursiveFeature]
  simp [verdict_reasons_eq_nil]

theorem validationVerdict_consistent (key : String) (minimum : ℚ) :
    Consistent (validationVerdict document key minimum) := by
  refine consistent_verdict ?_ ?_
  · rw [criterion_pass_iff, Bool.not_eq_false', Bool.and_eq_true, Option.isNone_iff_eq_none]
    tauto
  · intro hpass
    obtain ⟨herror, hpassed⟩ := criterion_pass_iff.mp hpass
    rw [Bool.and_eq_true] at hpassed
    simpa [Criterion.Supported, criterion, herror] using hpassed.2

theorem validationVerdict_reasons (hm : Measures inputs document) (key : String)
    (minimum : ℚ) : (validationVerdict document key minimum).reasons = [] ↔
      Comparison.ge.holds (inputs.metrics.get key) minimum = true := by
  rw [validationVerdict, verdict_reasons_eq_nil, hm.metrics, hm.errors, textOr_errors,
    get_jsonSafe, Bool.not_eq_false', Bool.and_eq_true, Option.isNone_iff_eq_none]
  constructor
  · rintro ⟨herror, hpassed⟩
    obtain ⟨x, hx⟩ := numberError_eq_none.mp herror
    rwa [jsonSafe_of_number hx] at hpassed
  · intro hpassed
    obtain ⟨x, hx⟩ := holds_number hpassed
    exact ⟨numberError_eq_none.mpr ⟨x, hx⟩, by rwa [jsonSafe_of_number hx]⟩

theorem positive_eq {value : Evidence} (h : ∃ x, value.number? = some x) :
    value.positive = .ok (Comparison.gt.holds value 0) := by
  obtain ⟨x, hx⟩ := h
  cases value with
  | null => cases hx
  | flag value => cases hx
  | count value => simp [Evidence.positive, Comparison.holds, Evidence.number?]
  | real value =>
    cases value with
    | finite value => simp [Evidence.positive, Comparison.holds, Evidence.number?, Extended.pos,
        Extended.lt]
    | infinity negative => cases hx
    | nan => cases hx
  | other => cases hx

theorem allPositive_eq {values : List Evidence}
    (h : ∀ value ∈ values, ∃ x, value.number? = some x) :
    allPositive values = .ok (values.all fun value => Comparison.gt.holds value 0) := by
  induction values with
  | nil => rfl
  | cons value values ih =>
    have ih := ih fun value' hvalue' => h value' (List.mem_cons_of_mem _ hvalue')
    rw [allPositive, positive_eq (h value List.mem_cons_self), List.all_cons]
    cases Comparison.gt.holds value 0 with
    | false => rfl
    | true => exact ih

/-- The folds are enough, and each is above zero. -/
def FoldValues.Stable (folds : FoldValues) (minimum : ℕ) : Prop :=
  ∃ values, folds = .list values ∧ minimum ≤ values.length ∧
    ∀ value ∈ values, Comparison.gt.holds value 0 = true

/-- The folds' part, on a document that was measured: an error, or a verdict on folds that
are numbers. -/
theorem foldVerdict_spec {v : Verdict} (hm : Measures inputs document)
    (h : foldVerdict document policy = .ok v) :
    Consistent v ∧ (v.reasons = [] ↔ inputs.foldSharpes.Stable policy.folds) := by
  obtain ⟨passed, hpassed, h⟩ := except_bind_eq_ok.mp h
  cases h
  unfold foldsPass at hpassed
  rw [hm.foldError, hm.folds] at hpassed ⊢
  cases herror : inputs.foldSharpes.error with
  | some error =>
    have hne : error ≠ "" := fun he => foldError_ne_empty _ (he ▸ herror)
    have htruthy : truthy (some error) = true := by simp [truthy, hne]
    rw [herror, if_pos htruthy] at hpassed
    cases hpassed
    refine ⟨consistent_verdict ?_ ?_, ?_⟩
    · simp [criterion_pass_iff]
    · intro hpass
      cases (criterion_pass_iff.mp hpass).1
    · rw [verdict_reasons_eq_nil]
      refine ⟨fun h => (by cases h), ?_⟩
      rintro ⟨values, hvalues, -, hpositive⟩
      have hnone := foldError_eq_none.mpr
        ⟨values, hvalues, fun value hvalue => holds_number (hpositive value hvalue)⟩
      rw [herror] at hnone
      cases hnone
  | none =>
    obtain ⟨values, hvalues, hnumbers⟩ := foldError_eq_none.mp herror
    have hpass : inputs.foldSharpes.jsonSafe.pass policy.folds
        = .ok (decide (policy.folds ≤ values.length)
          && values.all fun value => Comparison.gt.holds value 0) := by
      rw [hvalues, FoldValues.jsonSafe, map_jsonSafe hnumbers, FoldValues.pass]
      by_cases hlength : values.length < policy.folds
      · simp [hlength]
      · simp [hlength, allPositive_eq hnumbers, Nat.le_of_not_lt hlength]
    have hfolds : inputs.foldSharpes.jsonSafe = .list values := by
      rw [hvalues, FoldValues.jsonSafe, map_jsonSafe hnumbers]
    rw [herror, if_neg (by simp [truthy]), hpass] at hpassed
    cases hpassed
    rw [hfolds]
    refine ⟨consistent_verdict ?_ ?_, ?_⟩
    · rw [criterion_pass_iff, Bool.not_eq_false']
      exact (and_iff_right rfl).symm
    · intro hpass
      have hpassed := (criterion_pass_iff.mp hpass).2
      rw [Bool.and_eq_true, decide_eq_true_iff, List.all_eq_true] at hpassed
      exact ⟨values, rfl, hpassed.1, hpassed.2⟩
    · rw [verdict_reasons_eq_nil, Bool.not_eq_false', Bool.and_eq_true, decide_eq_true_iff,
        List.all_eq_true]
      constructor
      · exact fun hstable => ⟨values, hvalues, hstable⟩
      · rintro ⟨values', hvalues', hstable⟩
        cases hvalues.symm.trans hvalues'
        exact hstable

/-- Where the sampling fields give the same errors, and the same values if none, the family's
ratio is the same. -/
theorem familyDsr_congr {metrics metrics' : Metrics} {errors errors' : List (String × String)}
    (herrors : ∀ key ∈ samplingFields, textOr (errors.lookup key) (metrics.get key).numberError
      = textOr (errors'.lookup key) (metrics'.get key).numberError)
    (hvalues : ∀ key ∈ samplingFields,
      textOr (errors'.lookup key) (metrics'.get key).numberError = none →
        metrics.get key = metrics'.get key) :
    familyDsr stats metrics family errors = familyDsr stats metrics' family errors' := by
  have hfind : (samplingFields.findSome? fun key =>
      (textOr (errors.lookup key) (metrics.get key).numberError).map fun error =>
        "Invalid Sharpe sampling evidence: " ++ key ++ " (" ++ error ++ ")")
      = samplingFields.findSome? fun key =>
        (textOr (errors'.lookup key) (metrics'.get key).numberError).map fun error =>
          "Invalid Sharpe sampling evidence: " ++ key ++ " (" ++ error ++ ")" := by
    simp only [samplingFields, List.forall_mem_cons] at herrors
    obtain ⟨hsharpe, hlength, hskewness, hkurtosis, -⟩ := herrors
    simp only [samplingFields, List.findSome?_cons, hsharpe, hlength, hskewness, hkurtosis,
      List.findSome?_nil]
  unfold familyDsr
  rw [hfind]
  cases hsome : samplingFields.findSome? fun key =>
      (textOr (errors'.lookup key) (metrics'.get key).numberError).map fun error =>
        "Invalid Sharpe sampling evidence: " ++ key ++ " (" ++ error ++ ")" with
  | some error => rfl
  | none =>
    have hget : ∀ key ∈ samplingFields, metrics.get key = metrics'.get key := by
      intro key hkey
      have hnone := List.findSome?_eq_none_iff.mp hsome key hkey
      exact hvalues key hkey (Option.map_eq_none_iff.mp hnone)
    simp only [samplingFields, List.forall_mem_cons] at hget
    obtain ⟨hsharpe, hlength, hskewness, hkurtosis, -⟩ := hget
    rw [hsharpe, hlength, hskewness, hkurtosis]

theorem get_jsonSafe_of_none {metrics : Metrics} {key : String}
    (h : (metrics.get key).numberError = none) : metrics.jsonSafe.get key = metrics.get key := by
  obtain ⟨x, hx⟩ := numberError_eq_none.mp h
  rw [get_jsonSafe, jsonSafe_of_number hx]

/-- **The family's ratio of a document** is the ratio of what was measured. -/
theorem familyDsr_measured {metrics : Metrics} :
    familyDsr stats metrics.jsonSafe family metrics.errors
      = familyDsr stats metrics family [] :=
  familyDsr_congr (fun key _ => textOr_errors metrics key) fun _ _ h => get_jsonSafe_of_none h

theorem familyDsr_jsonSafe {metrics : Metrics}
    (h : ∀ key ∈ samplingFields, (metrics.get key).numberError = none) :
    familyDsr stats metrics.jsonSafe family [] = familyDsr stats metrics family [] :=
  familyDsr_congr (fun key hkey => by rw [get_jsonSafe_of_none (h key hkey)])
    fun key hkey _ => get_jsonSafe_of_none (h key hkey)

/-- The family's ratio reaches the policy's. -/
def DsrReached (stats : NormalStats) (metrics : Metrics) (family : Family)
    (policy : ValidationPolicy) : Prop :=
  ∃ dsr, familyDsr stats metrics family [] = .ok dsr ∧ policy.minDsr ≤ dsr

theorem familyVerdict_consistent : Consistent (familyVerdict stats document family policy) := by
  unfold familyVerdict
  cases validationDsr stats document family with
  | ok dsr =>
    refine consistent_verdict ?_ ?_
    · simp [criterion_pass_iff]
    · intro hpass
      simpa [Criterion.Supported, criterion, dsrEvidence, Comparison.holds, Evidence.number?]
        using (criterion_pass_iff.mp hpass).2
  | error error =>
    constructor
    · simp [criterion_pass_iff]
    · intro entry hentry hpass
      cases List.mem_singleton.mp hentry
      cases (criterion_pass_iff.mp hpass).1

theorem familyVerdict_reasons (hm : Measures inputs document) :
    (familyVerdict stats document family policy).reasons = [] ↔
      DsrReached stats inputs.metrics family policy := by
  have hdsr : validationDsr stats document family = familyDsr stats inputs.metrics family [] := by
    rw [validationDsr, hm.metrics, hm.errors, familyDsr_measured]
  unfold familyVerdict DsrReached
  rw [hdsr]
  cases familyDsr stats inputs.metrics family [] with
  | ok dsr => simp [verdict_reasons_eq_nil]
  | error error => simp

theorem firstError_eq_none {errors : List (Option String)} :
    firstError errors = none ↔ ∀ error ∈ errors, error = none := by
  rw [firstError, List.findSome?_eq_none_iff]
  rfl

theorem holdoutError_eq_none : holdoutError stats document family = none ↔
    document.holdout.simulationError = none ∧ holdoutDsrError stats document family = none ∧
      document.holdout.bootstrapError = none := by
  simp [holdoutError, firstError_eq_none]

/-- The gate of a holdout without an error. -/
theorem gateVerdict_consistent {code : String} {value : Evidence} {threshold : ℚ}
    {comparison : Comparison} {own : Option String}
    (hnone : holdoutError stats document family = none) :
    Consistent (gateVerdict stats document family code value threshold comparison own) := by
  refine consistent_verdict ?_ ?_
  · rw [criterion_pass_iff, hnone, Bool.and_eq_false_imp]
    simp only [Option.isNone_none, forall_const, Bool.not_eq_false', Bool.and_eq_true,
      Option.isNone_iff_eq_none]
    tauto
  · intro hpass
    have hpassed := (criterion_pass_iff.mp hpass).2
    rw [Bool.and_eq_true] at hpassed
    exact hpassed.2

theorem gateVerdict_supported {code : String} {value : Evidence} {threshold : ℚ}
    {comparison : Comparison} {own : Option String} :
    (gateVerdict stats document family code value threshold comparison own).Supported := by
  intro entry hentry hpass
  cases List.mem_singleton.mp hentry
  have hpassed := (criterion_pass_iff.mp hpass).2
  rw [Bool.and_eq_true] at hpassed
  exact hpassed.2

theorem availableVerdict_supported : (verdict "holdout_available"
    (criterion (.one (.flag (measurementError document).isNone)) (.flag true) .eq
      (measurementError document).isNone (measurementError document)
      ((measurementError document).map ("holdout_unavailable:" ++ ·))) false "").Supported := by
  intro entry hentry hpass
  cases List.mem_singleton.mp hentry
  exact congrArg Evidence.flag (criterion_pass_iff.mp hpass).2

theorem holdoutVerdict_supported :
    (holdoutVerdict stats document family policy).Supported := by
  refine supported_join fun v hv => ?_
  simp only [List.mem_cons, List.not_mem_nil, or_false] at hv
  rcases hv with rfl | rfl | rfl | rfl | rfl | rfl | rfl | rfl
  · exact availableVerdict_supported
  · exact gateVerdict_supported
  · exact gateVerdict_supported
  · exact gateVerdict_supported
  · exact gateVerdict_supported
  · exact gateVerdict_supported
  · exact gateVerdict_supported
  · simp [Verdict.Supported]

/-- Where every criterion of the holdout passes, it has no error: an error of the
measurement leaves it unavailable, and one of the ratio leaves the gate of the ratio
unavailable. -/
theorem holdoutError_of_pass
    (hpass : ∀ entry ∈ (holdoutVerdict stats document family policy).criteria,
      entry.2.status = .pass) : holdoutError stats document family = none := by
  have hmem : ∀ {v : Verdict} {entry}, entry ∈ v.criteria → v ∈ _ →
      entry ∈ (holdoutVerdict stats document family policy).criteria :=
    fun hentry hv => List.mem_flatMap.mpr ⟨_, hv, hentry⟩
  have havailable := hpass _ (hmem (List.mem_singleton_self _) List.mem_cons_self)
  have hdsr := hpass _ (hmem (List.mem_singleton_self _)
    (List.mem_cons_of_mem _ (List.mem_cons_of_mem _ (List.mem_cons_of_mem _
      List.mem_cons_self))))
  have hmeasured := firstError_eq_none.mp (criterion_pass_iff.mp havailable).1
  have hown := firstError_eq_none.mp (criterion_pass_iff.mp hdsr).1
  simp only [List.forall_mem_cons] at hmeasured hown
  exact holdoutError_eq_none.mpr ⟨hmeasured.1, hown.2.1, hmeasured.2.1⟩

/-- **The holdout's part is consistent**: with an error, its one reason is the error. -/
theorem holdoutVerdict_consistent :
    Consistent (holdoutVerdict stats document family policy) := by
  cases hnone : holdoutError stats document family with
  | none =>
    obtain ⟨hsimulation, -, hbootstrap⟩ := holdoutError_eq_none.mp hnone
    have hmeasured : measurementError document = none := by
      simp [measurementError, firstError_eq_none, hsimulation, hbootstrap]
    refine consistent_join fun v hv => ?_
    simp only [List.mem_cons, List.not_mem_nil, or_false] at hv
    rcases hv with rfl | rfl | rfl | rfl | rfl | rfl | rfl | rfl
    · refine consistent_verdict ?_ ?_
      · simp [criterion_pass_iff, hmeasured]
      · exact availableVerdict_supported _ (List.mem_singleton_self _)
    · exact gateVerdict_consistent hnone
    · exact gateVerdict_consistent hnone
    · exact gateVerdict_consistent hnone
    · exact gateVerdict_consistent hnone
    · exact gateVerdict_consistent hnone
    · exact gateVerdict_consistent hnone
    · rw [hnone]
      exact ⟨by simp, by simp [Verdict.Supported]⟩
  | some error =>
    refine ⟨⟨fun h => ?_, fun hpass => ?_⟩, holdoutVerdict_supported⟩
    · simp [holdoutVerdict, Verdict.join, hnone] at h
    · have herror := hnone.symm.trans (holdoutError_of_pass hpass)
      cases herror

/-- **What a holdout has to be**: simulated to numbers, bootstrapped to an interval, and on
the right side of each bound. -/
structure HoldoutMeets (stats : NormalStats) (family : Family) (policy : ValidationPolicy)
    (inputs : MeasureInputs) (summary : Metrics) (stressed lower upper : Evidence) : Prop where
  simulated : inputs.simulation = .ok (summary, stressed)
  valid : holdoutInvalid summary stressed = none
  bootstrapped : inputs.bootstrap = .ok [lower, upper]
  interval : validInterval [lower, upper] = true
  sharpe : Comparison.ge.holds (summary.get "sharpe") policy.minSharpe = true
  trades : Comparison.ge.holds (summary.get "total_trades") policy.minimumTrades = true
  dsr : DsrReached stats summary family policy
  drawdown : Comparison.le.holds (summary.get "max_drawdown_pct") policy.maxDrawdownPct = true
  stress : Comparison.gt.holds stressed 0 = true
  uncertainty : Comparison.gt.holds lower 0 = true

theorem gateVerdict_reasons {code : String} {value : Evidence} {threshold : ℚ}
    {comparison : Comparison} {own : Option String}
    (hnone : holdoutError stats document family = none) (hown : own = none) :
    (gateVerdict stats document family code value threshold comparison own).reasons = [] ↔
      comparison.holds value threshold = true := by
  have hsimulation := (holdoutError_eq_none.mp hnone).1
  rw [gateVerdict, verdict_reasons_eq_nil, hnone, hown, hsimulation, Bool.and_eq_false_imp]
  simp only [Option.isNone_none, forall_const, Bool.not_eq_false', Bool.and_eq_true,
    Option.isNone_iff_eq_none, firstError_eq_none, List.forall_mem_cons]
  refine ⟨fun h => h.2, fun h => ⟨?_, h⟩⟩
  exact ⟨trivial, trivial, numberError_eq_none.mpr (holds_number h), by simp⟩

theorem holdoutInvalid_eq_none {summary : Metrics} {stressed : Evidence}
    (h : holdoutInvalid summary stressed = none) :
    (∀ key ∈ samplingFields ++ ["sharpe", "total_trades", "max_drawdown_pct",
      "total_return_pct"], (summary.get key).numberError = none) ∧
      stressed.numberError = none := by
  have h := firstError_eq_none.mp h
  refine ⟨fun key hkey => ?_, ?_⟩
  · have hnone := h _ (List.mem_append_left _ (List.mem_map_of_mem hkey))
    exact Option.map_eq_none_iff.mp hnone
  · have hnone := h _ (List.mem_append_right _ (List.mem_singleton_self _))
    exact Option.map_eq_none_iff.mp hnone

theorem validInterval_eq_true {interval : List Evidence} (h : validInterval interval = true) :
    ∃ lower upper, interval = [lower, upper] := by
  match interval with
  | [] => cases h
  | [_] => simp [validInterval] at h
  | [lower, upper] => exact ⟨lower, upper, rfl⟩
  | _ :: _ :: _ :: _ => simp [validInterval] at h

/-- **A holdout without an error** was simulated and bootstrapped. -/
theorem holdout_of_no_error (hsimulation : inputs.holdout.simulationError = none)
    (hbootstrap : inputs.holdout.bootstrapError = none) :
    ∃ summary stressed lower upper, inputs.simulation = .ok (summary, stressed) ∧
      holdoutInvalid summary stressed = none ∧ inputs.bootstrap = .ok [lower, upper] ∧
      validInterval [lower, upper] = true := by
  unfold MeasureInputs.holdout at hsimulation hbootstrap
  cases hrun : inputs.simulation with
  | error error => simp [hrun] at hsimulation
  | ok run =>
    obtain ⟨summary, stressed⟩ := run
    cases hinvalid : holdoutInvalid summary stressed with
    | some error => simp [hrun, hinvalid] at hsimulation
    | none =>
      cases hboot : inputs.bootstrap with
      | error error => simp [hrun, hinvalid, hboot] at hbootstrap
      | ok interval =>
        cases hvalid : validInterval interval with
        | false => simp [hrun, hinvalid, hboot, hvalid] at hbootstrap
        | true =>
          obtain ⟨lower, upper, rfl⟩ := validInterval_eq_true hvalid
          exact ⟨summary, stressed, lower, upper, rfl, hinvalid, rfl, hvalid⟩

/-- What is recorded of it. -/
theorem holdout_eq {summary : Metrics} {stressed lower upper : Evidence}
    (hrun : inputs.simulation = .ok (summary, stressed))
    (hinvalid : holdoutInvalid summary stressed = none)
    (hboot : inputs.bootstrap = .ok [lower, upper])
    (hvalid : validInterval [lower, upper] = true) :
    inputs.holdout = { summary := summary.jsonSafe
                       stressedReturnPct := stressed.jsonSafe
                       bootstrapMeanInterval := some [lower, upper] } := by
  simp [MeasureInputs.holdout, hrun, hinvalid, hboot, hvalid]

theorem holdoutVerdict_reasons_iff :
    (holdoutVerdict stats document family policy).reasons = [] ↔
      holdoutError stats document family = none ∧
      Comparison.ge.holds (document.holdout.summary.get "sharpe") policy.minSharpe = true ∧
      Comparison.ge.holds (document.holdout.summary.get "total_trades") policy.minimumTrades
        = true ∧
      Comparison.ge.holds (holdoutDsrValue stats document family) policy.minDsr = true ∧
      Comparison.le.holds (document.holdout.summary.get "max_drawdown_pct")
        policy.maxDrawdownPct = true ∧
      Comparison.gt.holds document.holdout.stressedReturnPct 0 = true ∧
      Comparison.gt.holds (intervalLower document) 0 = true := by
  rw [holdoutVerdict, join_reasons_eq_nil]
  simp only [List.forall_mem_cons, verdict_reasons_eq_nil]
  cases hnone : holdoutError stats document family with
  | some error => simp
  | none =>
    obtain ⟨-, hdsr, hbootstrap⟩ := holdoutError_eq_none.mp hnone
    simp [gateVerdict_reasons hnone, hdsr, hbootstrap]

/-- Of a holdout without an error, the reasons are of what was simulated. -/
theorem holdoutVerdict_reasons_of_valid {summary : Metrics} {stressed lower upper : Evidence}
    (hm : Measures inputs document) (hrun : inputs.simulation = .ok (summary, stressed))
    (hinvalid : holdoutInvalid summary stressed = none)
    (hboot : inputs.bootstrap = .ok [lower, upper])
    (hvalid : validInterval [lower, upper] = true) :
    (holdoutVerdict stats document family policy).reasons = [] ↔
      HoldoutMeets stats family policy inputs summary stressed lower upper := by
  have heq := hm.holdout.trans (holdout_eq hrun hinvalid hboot hvalid)
  obtain ⟨hnumbers, hnumber⟩ := holdoutInvalid_eq_none hinvalid
  have hget : ∀ key ∈ ["sharpe", "total_trades", "max_drawdown_pct"],
      document.holdout.summary.get key = summary.get key := by
    intro key hkey
    have hkey : key ∈ samplingFields ++ ["sharpe", "total_trades", "max_drawdown_pct",
        "total_return_pct"] := List.mem_append_right _ (List.mem_append_left _ hkey)
    rw [heq, get_jsonSafe_of_none (hnumbers key hkey)]
  have hstressed : document.holdout.stressedReturnPct = stressed := by
    obtain ⟨x, hx⟩ := numberError_eq_none.mp hnumber
    rw [heq]
    exact jsonSafe_of_number hx
  have hlower : intervalLower document = lower := by rw [intervalLower, heq]; rfl
  have hdsr : holdoutDsr stats document family = some (familyDsr stats summary family []) := by
    rw [holdoutDsr, heq, ← familyDsr_jsonSafe fun key hkey =>
      hnumbers key (List.mem_append_left _ hkey)]
    rfl
  -- The ratio has no error and reaches its bound, or speaks against the holdout.
  have hreached : (holdoutError stats document family = none ∧
      Comparison.ge.holds (holdoutDsrValue stats document family) policy.minDsr = true) ↔
      DsrReached stats summary family policy := by
    rw [holdoutError_eq_none, holdoutDsrError, holdoutDsrValue, hdsr, heq, DsrReached]
    cases familyDsr stats summary family [] with
    | ok dsr => simp [dsrEvidence, Comparison.holds, Evidence.number?]
    | error error => simp
  rw [holdoutVerdict_reasons_iff, hget "sharpe" (by simp), hget "total_trades" (by simp),
    hget "max_drawdown_pct" (by simp), hstressed, hlower]
  constructor
  · rintro ⟨hnone, hsharpe, htrades, hratio, hdrawdown, hstress, huncertainty⟩
    exact ⟨hrun, hinvalid, hboot, hvalid, hsharpe, htrades, hreached.mp ⟨hnone, hratio⟩,
      hdrawdown, hstress, huncertainty⟩
  · intro h
    obtain ⟨hnone, hratio⟩ := hreached.mpr h.dsr
    exact ⟨hnone, h.sharpe, h.trades, hratio, h.drawdown, h.stress, h.uncertainty⟩

/-- **Nothing speaks against the holdout** exactly when it meets the policy. -/
theorem holdoutVerdict_reasons (hm : Measures inputs document) :
    (holdoutVerdict stats document family policy).reasons = [] ↔
      ∃ summary stressed lower upper,
        HoldoutMeets stats family policy inputs summary stressed lower upper := by
  constructor
  · intro h
    obtain ⟨hsimulation, -, hbootstrap⟩ :=
      holdoutError_eq_none.mp (holdoutVerdict_reasons_iff.mp h).1
    rw [hm.holdout] at hsimulation hbootstrap
    obtain ⟨summary, stressed, lower, upper, hrun, hinvalid, hboot, hvalid⟩ :=
      holdout_of_no_error hsimulation hbootstrap
    exact ⟨summary, stressed, lower, upper,
      (holdoutVerdict_reasons_of_valid hm hrun hinvalid hboot hvalid).mp h⟩
  · rintro ⟨summary, stressed, lower, upper, h⟩
    exact (holdoutVerdict_reasons_of_valid hm h.simulated h.valid h.bootstrapped
      h.interval).mpr h

/-! ### Novelty and deployment -/

/-- **The incumbents** that were frozen, and a candidate that is new beside them. -/
def NoveltyMeets (inputs : MeasureInputs) : Prop :=
  inputs.manifest.incumbents = .list 0 ∨
    (∃ n, inputs.manifest.incumbents = .list (n + 1)) ∧
      (inputs.residual = .ok none ∨ ∃ residualIc pValue,
        inputs.residual = .ok (some (.flag true, residualIc, pValue)) ∧
          residualIc.number?.isSome = true ∧ pValue.number?.isSome = true)

theorem noveltyVerdict_consistent (hm : Measures inputs document) :
    Consistent (noveltyVerdict document) := by
  constructor
  · simp only [noveltyVerdict, List.forall_mem_cons, criterion_pass_iff]
    rw [hm.manifest, hm.novelty]
    cases hincumbents : inputs.manifest.incumbents with
    | absent => simp [IncumbentSnapshot.isList]
    | invalid =>
      have herror := novelty_of_invalid hincumbents
      simp [IncumbentSnapshot.isList, herror]
    | list n =>
      cases herror : inputs.novelty.error <;> cases hpass : inputs.novelty.pass <;>
        simp [IncumbentSnapshot.isList]
  · intro entry hentry hpass
    simp only [noveltyVerdict, List.mem_cons, List.not_mem_nil, or_false] at hentry
    rcases hentry with rfl | rfl
    · exact congrArg Evidence.flag (criterion_pass_iff.mp hpass).2
    · exact criterion_pass_iff.mp hpass

/-- A novelty that was measured, against incumbents that are a list. -/
theorem novelty_pass_iff {n : ℕ} (h : inputs.manifest.incumbents = .list (n + 1)) :
    inputs.novelty.error = none ∧ inputs.novelty.pass = true ↔
      inputs.residual = .ok none ∨ ∃ residualIc pValue,
        inputs.residual = .ok (some (.flag true, residualIc, pValue)) ∧
          residualIc.number?.isSome = true ∧ pValue.number?.isSome = true := by
  unfold MeasureInputs.novelty
  rw [h]
  cases inputs.residual with
  | error error => simp [Novelty.error]
  | ok evidence =>
    match evidence with
    | none => simp [Novelty.error, Novelty.pass]
    | some (.flag novel, residualIc, pValue) =>
      by_cases hfinite : residualIc.number?.isSome = true ∧ pValue.number?.isSome = true
      · simp [Novelty.error, Novelty.pass, hfinite]
      · rw [← Bool.and_eq_true] at hfinite
        simp only [if_neg hfinite]
        rw [Bool.and_eq_true] at hfinite
        simp only [Novelty.error, reduceIte, reduceCtorEq, false_and, Except.ok.injEq,
          Option.some.injEq, Prod.mk.injEq, Evidence.flag.injEq, false_or, false_iff]
        rintro ⟨_, _, ⟨-, rfl, rfl⟩, hnumbers⟩
        exact hfinite hnumbers
    | some (.null, _, _) => simp [Novelty.error]
    | some (.count _, _, _) => simp [Novelty.error]
    | some (.real _, _, _) => simp [Novelty.error]
    | some (.other, _, _) => simp [Novelty.error]

theorem noveltyVerdict_reasons (hm : Measures inputs document) :
    (noveltyVerdict document).reasons = [] ↔ NoveltyMeets inputs := by
  have hreasons : (noveltyVerdict document).reasons = [] ↔
      inputs.manifest.incumbents ≠ .absent ∧ inputs.novelty.error = none ∧
        inputs.novelty.pass = true := by
    unfold noveltyVerdict
    rw [hm.manifest, hm.novelty]
    by_cases habsent : inputs.manifest.incumbents = .absent
    · simp [habsent]
    · cases herror : inputs.novelty.error <;> cases hpass : inputs.novelty.pass <;>
        simp [habsent, herror, hpass]
  rw [hreasons, NoveltyMeets]
  match hincumbents : inputs.manifest.incumbents with
  | .absent => simp
  | .invalid =>
    have herror := novelty_of_invalid hincumbents
    cases hnone : inputs.novelty.error with
    | none => rw [hnone] at herror; cases herror
    | some error => simp
  | .list 0 => simp [MeasureInputs.novelty, hincumbents, Novelty.error, Novelty.pass]
  | .list (n + 1) => simp [novelty_pass_iff hincumbents]

/-- The feed and the adjustment are allowed, and the definition's own. -/
structure ContractMeets (definition : AssessedDefinition) (manifest : RunManifest) : Prop where
  feed : manifest.feed ∈ ["alpaca:iex", "alpaca:sip"]
  adjustment : manifest.adjustment = "raw"
  definitionFeed : definition.dataFeed = manifest.feed
  definitionAdjustment : definition.adjustment = manifest.adjustment

/-- `not deployment_mismatch`. -/
theorem mismatch_eq_false (definition : AssessedDefinition) (manifest : RunManifest) :
    (decide (manifest.feed ∉ ["alpaca:iex", "alpaca:sip"])
      || decide (manifest.adjustment ≠ "raw") || decide (definition.dataFeed ≠ manifest.feed)
      || decide (definition.adjustment ≠ manifest.adjustment)) = false ↔
      ContractMeets definition manifest := by
  simp only [Bool.or_eq_false_iff, decide_eq_false_iff_not, not_not, ne_eq]
  exact ⟨fun ⟨⟨⟨hfeed, hadjustment⟩, hown⟩, howned⟩ => ⟨hfeed, hadjustment, hown, howned⟩,
    fun h => ⟨⟨⟨h.feed, h.adjustment⟩, h.definitionFeed⟩, h.definitionAdjustment⟩⟩

theorem deploymentVerdict_consistent (definition : AssessedDefinition)
    (manifest : RunManifest) : Consistent (deploymentVerdict definition manifest) := by
  refine consistent_verdict ?_ ?_
  · rw [criterion_pass_iff, Bool.not_eq_true']
    exact (and_iff_right rfl).symm
  · intro hpass
    have hmatch := (criterion_pass_iff.mp hpass).2
    rw [Bool.not_eq_true', mismatch_eq_false] at hmatch
    exact ⟨hmatch.feed, hmatch.adjustment, hmatch.definitionFeed, hmatch.definitionAdjustment⟩

theorem deploymentVerdict_reasons (definition : AssessedDefinition) (manifest : RunManifest) :
    (deploymentVerdict definition manifest).reasons = [] ↔
      ContractMeets definition manifest := by
  rw [deploymentVerdict, verdict_reasons_eq_nil]
  exact mismatch_eq_false definition manifest

end Parts

/-! ## The whole -/

section Whole

variable {stats : NormalStats} {inputs : MeasureInputs} {family : Family}
  {policy : ValidationPolicy} {decision : Decision}

/-- The codes of the criteria, in their order. -/
def criterionCodes : List String :=
  ["intraday_session_execution_unverified", "recursive_feature_requires_shared_initialization",
    "validation_sharpe_oos", "validation_dsr", "validation_rank_ic_mean",
    "validation_total_trades", "unstable_validation_folds", "family_adjusted_validation_dsr",
    "holdout_available", "holdout_sharpe", "holdout_trade_count", "holdout_dsr",
    "holdout_drawdown", "cost_stress", "bootstrap_uncertainty", "frozen_incumbent_snapshot",
    "incremental_predictive_evidence", "deployment_data_contract"]

/-- **What the policy asks** of a candidate, of what was measured of it. -/
structure Qualifies (stats : NormalStats) (inputs : MeasureInputs) (family : Family)
    (policy : ValidationPolicy) : Prop where
  daily : inputs.definition.timeframe = "1d"
  shared : inputs.recursiveFeature = false
  validation : ∀ bound ∈ validationMinimums policy,
    Comparison.ge.holds (inputs.metrics.get bound.1) bound.2 = true
  folds : inputs.foldSharpes.Stable policy.folds
  ratio : DsrReached stats inputs.metrics family policy
  holdout : ∃ summary stressed lower upper,
    HoldoutMeets stats family policy inputs summary stressed lower upper
  novelty : NoveltyMeets inputs
  contract : ContractMeets inputs.definition inputs.manifest

/-- **An assessment that returned**: its parts, in their order, and the accounts joined of
them. -/
theorem assessQualification_ok (h : assessQualification stats inputs family policy = .ok decision) :
    ∃ document folds, Measures inputs document ∧ foldVerdict document policy = .ok folds ∧
      decision.passed = decision.reasons.isEmpty ∧
      ∃ verdicts, verdicts = [contractVerdict document]
        ++ (validationMinimums policy).map
          (fun entry => validationVerdict document entry.1 entry.2)
        ++ [folds, familyVerdict stats document family policy,
          holdoutVerdict stats document family policy, noveltyVerdict document]
        ++ [deploymentVerdict inputs.definition inputs.manifest] ∧
      decision.reasons = (Verdict.join verdicts).reasons ∧
      decision.criteria = (Verdict.join verdicts).criteria := by
  obtain ⟨document, hmeasure, h⟩ := except_bind_eq_ok.mp h
  obtain ⟨assessed, hassess, h⟩ := except_bind_eq_ok.mp h
  cases h
  obtain ⟨-, hassess⟩ := refuse_bind_eq_ok.mp hassess
  obtain ⟨folds, hfolds, hassess⟩ := except_bind_eq_ok.mp hassess
  obtain ⟨holdout, -, hassess⟩ := except_bind_eq_ok.mp hassess
  cases hassess
  refine ⟨document, folds, measured hmeasure, hfolds, rfl, _, rfl, ?_, ?_⟩
  · simp [Decision.qualify, Verdict.join]
  · simp [Decision.qualify, Verdict.join]

/-- Every part of an assessment that returned is consistent. -/
theorem parts_consistent {document : MeasurementDocument} {folds : Verdict}
    (hm : Measures inputs document) (hfolds : foldVerdict document policy = .ok folds) :
    ∀ v ∈ [contractVerdict document]
      ++ (validationMinimums policy).map
        (fun entry => validationVerdict document entry.1 entry.2)
      ++ [folds, familyVerdict stats document family policy,
        holdoutVerdict stats document family policy, noveltyVerdict document]
      ++ [deploymentVerdict inputs.definition inputs.manifest], Consistent v := by
  intro v hv
  simp only [List.mem_append, List.mem_map, List.mem_cons, List.not_mem_nil, or_false] at hv
  rcases hv with ((rfl | ⟨entry, -, rfl⟩) | rfl | rfl | rfl | rfl) | rfl
  · exact contractVerdict_consistent
  · exact validationVerdict_consistent entry.1 entry.2
  · exact (foldVerdict_spec hm hfolds).1
  · exact familyVerdict_consistent
  · exact holdoutVerdict_consistent
  · exact noveltyVerdict_consistent hm
  · exact deploymentVerdict_consistent _ _

theorem foldVerdict_codes {document : MeasurementDocument} {folds : Verdict}
    (hfolds : foldVerdict document policy = .ok folds) :
    folds.criteria.map (·.1) = ["unstable_validation_folds"] := by
  obtain ⟨passed, -, h⟩ := except_bind_eq_ok.mp hfolds
  cases h
  rfl

theorem familyVerdict_codes {document : MeasurementDocument} :
    (familyVerdict stats document family policy).criteria.map (·.1)
      = ["family_adjusted_validation_dsr"] := by
  unfold familyVerdict
  cases validationDsr stats document family <;> rfl

/-- The criteria of an assessment that returned, under their codes. -/
theorem criteria_codes (h : assessQualification stats inputs family policy = .ok decision) :
    decision.criteria.map (·.1) = criterionCodes := by
  obtain ⟨document, folds, -, hfolds, -, verdicts, rfl, -, hcriteria⟩ :=
    assessQualification_ok h
  rw [hcriteria]
  simp only [Verdict.join, List.flatMap_append, List.flatMap_cons, List.flatMap_nil,
    List.map_append, List.append_nil, foldVerdict_codes hfolds, familyVerdict_codes]
  rfl

/-! ### An alpha that qualifies -/

/-- A normal distribution that is flat, which is enough for one trial. -/
def flatStats : NormalStats := ⟨id, fun _ => 1 / 2, id, 3⟩

theorem samplePolicy_split : (0 : ℚ) < 1 / 5 ∧ (1 : ℚ) / 5 < 1 / 2 ∧ (1 : ℚ) / 5 ≤ 1 / 2 ∧
    (1 : ℚ) / 2 ≤ 4 / 5 := by norm_num

theorem samplePolicy_budget : 2 ≤ 2 ∧ 1 ≤ 1 ∧ 10 ≤ 20 ∧ 1 ≤ 10 := by decide

theorem samplePolicy_dsr : (0 : ℚ) < 2 / 5 ∧ (2 : ℚ) / 5 < 1 := by norm_num

def samplePolicy : ValidationPolicy :=
  ⟨1 / 5, 2, 1 / 2, 1, 1, 20, 10, 1, 2 / 5, 1 / 100, 20, samplePolicy_split,
    samplePolicy_budget, samplePolicy_dsr⟩

def sampleSampling : List (String × Evidence) :=
  [("per_bar_sharpe", .real (.finite 0)), ("sample_length", .count 50),
    ("skewness", .real (.finite 0)), ("kurtosis", .real (.finite 3))]

def sampleMetrics : List (String × Evidence) :=
  sampleSampling ++ [("sharpe_oos", .real (.finite (6 / 5))), ("dsr", .real (.finite (1 / 2))),
    ("rank_ic_mean", .real (.finite (1 / 50))), ("total_trades", .count 12)]

theorem sampleMetrics_distinct : (sampleMetrics.map (·.1)).Nodup := by
  simp [sampleMetrics, sampleSampling]

def sampleSummary : List (String × Evidence) :=
  sampleSampling ++ [("sharpe", .real (.finite (6 / 5))), ("total_trades", .count 12),
    ("max_drawdown_pct", .real (.finite 4)), ("total_return_pct", .real (.finite 5))]

theorem sampleSummary_distinct : (sampleSummary.map (·.1)).Nodup := by
  simp [sampleSummary, sampleSampling]

def sampleInputs : MeasureInputs where
  definition := ⟨"1d", some ["SPY"], "alpaca:iex", "raw"⟩
  manifest := ⟨.list 0, "alpaca:iex", "raw"⟩
  runPolicy := samplePolicy
  recursiveFeature := false
  metrics := ⟨sampleMetrics, sampleMetrics_distinct⟩
  foldSharpes := .list [.real (.finite (1 / 2)), .real (.finite 1)]
  calibration := .null
  simulation := .ok (⟨sampleSummary, sampleSummary_distinct⟩, .real (.finite 1))
  bootstrap := .ok [.real (.finite (1 / 1000)), .real (.finite (3 / 1000))]
  residual := .ok none

/-- What an assessment decided, if it returned. -/
def passed (run : Except String Decision) : Option Bool := run.toOption.map (·.passed)

theorem sample_passed : passed (assessQualification flatStats sampleInputs
    ⟨.count 1, .real (.finite 0)⟩ samplePolicy) = some true := by
  decide +kernel

theorem sample_decision : ∃ decision, assessQualification flatStats sampleInputs
    ⟨.count 1, .real (.finite 0)⟩ samplePolicy = .ok decision ∧ decision.passed = true := by
  have h := sample_passed
  cases hrun : assessQualification flatStats sampleInputs ⟨.count 1, .real (.finite 0)⟩
      samplePolicy with
  | error error =>
    rw [hrun] at h
    cases h
  | ok decision =>
    rw [hrun] at h
    exact ⟨decision, rfl, Option.some.inj h⟩

/-! ### The results -/

/-- **The two accounts of a qualification agree.** An assessment that returns has every
criterion under its code, nothing speaks against the candidate exactly when each of them
passes, and none passes without evidence that meets its threshold. -/
theorem qualified_iff_criteria_pass
    (h : assessQualification stats inputs family policy = .ok decision) :
    decision.criteria.map (·.1) = criterionCodes ∧
      (decision.passed = true ↔ decision.reasons = []) ∧
      (decision.passed = true ↔ ∀ entry ∈ decision.criteria, entry.2.status = .pass) ∧
      ∀ entry ∈ decision.criteria, entry.2.status = .pass → entry.2.Supported := by
  refine ⟨criteria_codes h, ?_⟩
  obtain ⟨document, folds, hm, hfolds, hpassed, verdicts, hverdicts, hreasons, hcriteria⟩ :=
    assessQualification_ok h
  have hjoin : Consistent (Verdict.join verdicts) :=
    consistent_join (hverdicts ▸ parts_consistent hm hfolds)
  have hempty : decision.passed = true ↔ decision.reasons = [] := by
    rw [hpassed, List.isEmpty_iff]
  refine ⟨hempty, ?_, ?_⟩
  · rw [hempty, hreasons, hcriteria]
    exact hjoin.agree
  · rw [hcriteria]
    exact hjoin.supported

/-- An alpha that meets every bound: all of its eighteen criteria pass. -/
theorem qualified_iff_criteria_pass_sample : ∃ decision, assessQualification flatStats
    sampleInputs ⟨.count 1, .real (.finite 0)⟩ samplePolicy = .ok decision ∧
      decision.criteria.map (·.1) = criterionCodes ∧
      ∀ entry ∈ decision.criteria, entry.2.status = .pass := by
  obtain ⟨decision, hrun, hpassed⟩ := sample_decision
  obtain ⟨hcodes, -, hall, -⟩ := qualified_iff_criteria_pass hrun
  exact ⟨decision, hrun, hcodes, hall.mp hpassed⟩

/-- **Qualified is what the policy asks for**: an assessment that returns qualifies the
candidate exactly when every bound is met by what was measured, so that no error of the
simulation, of the bootstrap, of a ratio or of the novelty is qualified. -/
theorem qualified_iff_qualifies
    (h : assessQualification stats inputs family policy = .ok decision) :
    decision.passed = true ↔ Qualifies stats inputs family policy := by
  obtain ⟨document, folds, hm, hfolds, hpassed, verdicts, rfl, hreasons, -⟩ :=
    assessQualification_ok h
  rw [hpassed, List.isEmpty_iff, hreasons, join_reasons_eq_nil]
  simp only [List.forall_mem_append, List.forall_mem_cons, List.forall_mem_map,
    contractVerdict_reasons hm, validationVerdict_reasons hm, (foldVerdict_spec hm hfolds).2,
    familyVerdict_reasons hm, holdoutVerdict_reasons hm, noveltyVerdict_reasons hm,
    deploymentVerdict_reasons]
  constructor
  · rintro ⟨⟨⟨⟨⟨hdaily, hshared⟩, -⟩, hvalidation⟩, hstable, hratio, hholdout, hnovelty, -⟩,
      hcontract, -⟩
    exact ⟨hdaily, hshared, hvalidation, hstable, hratio, hholdout, hnovelty, hcontract⟩
  · intro h
    exact ⟨⟨⟨⟨⟨h.daily, h.shared⟩, by simp⟩, h.validation⟩, h.folds, h.ratio, h.holdout,
      h.novelty, by simp⟩, h.contract, by simp⟩

/-- The same alpha is what the policy asks for. -/
theorem qualified_iff_qualifies_sample :
    Qualifies flatStats sampleInputs ⟨.count 1, .real (.finite 0)⟩ samplePolicy := by
  obtain ⟨decision, hrun, hpassed⟩ := sample_decision
  exact (qualified_iff_qualifies hrun).mp hpassed

end Whole

end Promotion

end AgenticTrader
