import AgenticTrader.Alpha.Registry
import AgenticTrader.Library.Transition
import AgenticTrader.Risk.Rules
import Mathlib.Data.List.Dedup

/-!
# Daily campaigns

`DailyCampaignRepository` (`storage/alpha_daily.py`): a campaign is enrolled
once, claims one decision per session, commits the forecast and the residual
state it was made with in one transaction, and later observes the outcome.
Claims are single-use: a claim that is not finished in its window is
interrupted, by the next claim, by its own late completion or by a sweep, and
what comes in afterwards is filed as late.

Every call takes the lock of the alpha journal, so it is one function of the
journal before it, of its arguments, and of what it draws: the clock of the
database, which may read anything, and the identifier of a claim. Any worker
may come with any claim document.

A document is its canonical text next to the fields that are read. The digest
of a claim or of a completion is the document itself; the digests that become
identifiers are any functions (`DailyConfig`).
-/

namespace AgenticTrader

/-! ## Documents -/

/-- **A reference to an artifact**, `{"artifact": …, "artifact_hash": …}`. -/
structure ArtifactReference where
  artifact : String
  artifactHash : String
  deriving DecidableEq, Repr

/-- A field of a document: absent, null, or a reference. -/
abbrev ReferenceField := Option (Option ArtifactReference)

/-- The statuses a comparison may report. -/
inductive ComparisonStatus where
  | scored
  | complete
  | unavailable
  deriving DecidableEq, Repr

/-- **The completion of one comparison**, as it comes in: `none` for a field
that is absent or of another kind, and the names of the fields that are not
known. -/
structure ComparisonCompletion where
  comparisonId : Option String
  protocolHash : Option String
  status : Option ComparisonStatus
  forecast : ReferenceField
  outcome : ReferenceField
  reason : Option String
  errorType : Option String
  others : List String
  deriving DecidableEq, Repr

/-- **The evidence of a completion.** -/
structure DailyEvidence where
  document : String
  inputs : ReferenceField
  forecast : ReferenceField
  outcome : ReferenceField
  failure : ReferenceField
  comparisons : List ComparisonCompletion
  deriving DecidableEq, Repr

/-- **`DailyComparisonPlan`.** -/
structure DailyComparisonPlan where
  comparisonId : String
  campaignId : String
  parentProtocolHash : String
  firstDecisionDate : ℤ
  deriving DecidableEq, Repr

/-- What a comparison is validated against (`DailyPanelPlan`). -/
structure DailyPanelPlan where
  identity : String
  campaignId : String
  startDate : ℤ
  endDate : ℤ

/-- **An enrolled comparison.** -/
structure DailyComparison where
  campaignId : String
  comparisonId : String
  protocol : DailyComparisonPlan
  protocolHash : String
  enrolledAt : Time
  trialCount : ℕ
  deriving DecidableEq, Repr

/-- **A campaign.** -/
structure DailyCampaign where
  campaignId : String
  protocol : String
  protocolHash : String
  initialState : Option ArtifactReference
  enrolledAt : Time
  stateRef : Option ArtifactReference
  stateGeneration : ℕ
  inflightDecision : Option String
  lastSession : Option ℤ
  trialCount : ℕ
  deriving DecidableEq, Repr

/-- The context of a decision, with the outcome window it froze. -/
structure DecisionContext where
  document : String
  outcomeAvailableAt : Option Time
  outcomeExpiresAt : Option Time
  deriving DecidableEq, Repr

/-- What may not change about a decision once it is claimed. -/
structure DecisionContract where
  campaignId : String
  sessionDate : ℤ
  nativeClose : Time
  availableAt : Time
  expiresAt : Time
  context : DecisionContext
  deriving DecidableEq, Repr

/-- **The claim of a decision.** -/
structure DecisionClaim where
  contract : DecisionContract
  decisionId : String
  claimId : Uuid
  status : DecisionStatus
  claimedAt : Time
  parentGeneration : ℕ
  parentState : Option ArtifactReference
  protocolHash : String
  comparisons : List DailyComparison
  reason : Option String
  recordedAt : Option Time
  deriving DecidableEq, Repr

/-- What a worker reports of a decision. -/
structure DecisionCompletion where
  status : DecisionStatus
  evidence : DailyEvidence
  stateRef : Option ArtifactReference
  deriving DecidableEq, Repr

/-- **A decision**: its claim, where it stands, and its completion. -/
structure DailyDecision where
  claim : DecisionClaim
  status : DecisionStatus
  reason : Option String
  recordedAt : Option Time
  completion : Option DecisionCompletion
  deriving DecidableEq, Repr

/-- `ObservationStatus`. -/
inductive ObservationStatus where
  | capturing
  | complete
  | unavailable
  deriving DecidableEq, Repr

/-- **The claim of an outcome.** -/
structure OutcomeClaim where
  decisionId : String
  campaignId : String
  sessionDate : ℤ
  claimId : Uuid
  status : ObservationStatus
  availableAt : Time
  expiresAt : Time
  claimedAt : Time
  decisionCompletion : DecisionCompletion
  comparisons : List DailyComparison
  reason : Option String
  recordedAt : Option Time
  deriving DecidableEq, Repr

/-- What a worker reports of an outcome. -/
structure OutcomeCompletion where
  status : ObservationStatus
  evidence : DailyEvidence
  deriving DecidableEq, Repr

/-- **An outcome**: its claim, where it stands, and its completion. -/
structure DailyOutcome where
  claim : OutcomeClaim
  status : ObservationStatus
  reason : Option String
  recordedAt : Option Time
  completion : Option OutcomeCompletion
  deriving DecidableEq, Repr

/-! ## The journal -/

/-- **The keys of the daily aggregates.** -/
inductive DailyKey where
  | campaign (id : String)
  | comparison (campaignId comparisonId : String)
  | decision (id : String)
  | outcome (id : String)
  | lateDecision (id : String) (completion : DecisionCompletion)
  | lateOutcome (id : String) (completion : OutcomeCompletion)
  | reservation (campaignId : String)
  | comparisonReservation (campaignId comparisonId : String)
  | familyAll
  deriving DecidableEq

/-- What is stored under a key: of a late completion, when it was recorded,
and of the family, its trial count. -/
abbrev DailyValue : DailyKey → Type
  | .campaign _ => DailyCampaign
  | .comparison _ _ => DailyComparison
  | .decision _ => DailyDecision
  | .outcome _ => DailyOutcome
  | .lateDecision _ _ => Time
  | .lateOutcome _ _ => Time
  | .reservation _ => ResearchReservation
  | .comparisonReservation _ _ => ResearchReservation
  | .familyAll => ℕ

/-- The journal of the daily aggregates. -/
abbrev DailyDb := Projections DailyValue

/-- **What is fixed for a run**: the digests that become identifiers, and how
a panel protocol is read. -/
structure DailyConfig where
  documentHash : String → String
  comparisonHash : DailyComparisonPlan → String
  decisionId : String → ℤ → String
  panelPlan : String → Option DailyPanelPlan

/-- `DAILY_HYPOTHESIS_COUNT`. -/
def dailyHypothesisCount : ℕ := 4

/-- `MAX_DAILY_RECORDS`. -/
def maxDailyRecords : ℤ := 1000

/-- `MAX_DAILY_PAYLOAD_BYTES`. -/
def maxDailyPayloadBytes : ℕ := 65536

/-- `MAX_DAILY_COMPARISONS`. -/
def maxDailyComparisons : ℕ := 8

/-- `len(DAILY_BASELINE_MODELS)`, the trials a comparison is charged. -/
def dailyBaselineModels : List String := ["rank_blend", "volatility20", "ridge"]

/-! ## Checks -/

/-- **`_document`**, of the canonical text. -/
def document (text : String) : Except String Unit :=
  refuse (decide (maxDailyPayloadBytes < text.utf8ByteSize))
    "Daily projections contain summaries and artifact references, not full matrices"

/-- What `json.dumps` writes for one character. -/
def encodedChar (c : Char) : ℕ :=
  if c = '"' ∨ c = '\\' ∨ c.toNat ∈ [0x08, 0x09, 0x0a, 0x0c, 0x0d] then 2
  else if 0x20 ≤ c.toNat ∧ c.toNat ≤ 0x7e then 1
  else if c.toNat < 0x10000 then 6
  else 12

/-- The length of an encoded reference. -/
def ArtifactReference.encodedLength (r : ArtifactReference) : ℕ :=
  "\x7b\"artifact\": \"\", \"artifact_hash\": \"\"\x7d".length
    + (r.artifact.toList.map encodedChar).sum + (r.artifactHash.toList.map encodedChar).sum

/-- `[a-f0-9]{64}`. -/
def sha256Text (text : String) : Bool :=
  text.length == 64 && text.toList.all (fun c => ('a' ≤ c && c ≤ 'f') || ('0' ≤ c && c ≤ '9'))

/-- **`_reference`.** -/
def reference : Option ArtifactReference → Except String (Option ArtifactReference)
  | none => .ok none
  | some r => do
    refuse (decide (maxDailyPayloadBytes < r.encodedLength))
      "Daily projections contain summaries and artifact references, not full matrices"
    refuse (strip r.artifact == "" || !sha256Text r.artifactHash)
      "Immutable artifact path and SHA256 reference required"
    .ok (some r)

/-- A field of the evidence is absent or a reference. -/
def evidenceField : ReferenceField → Except String Unit
  | none => .ok ()
  | some value => do
    let ref ← reference value
    refuse ref.isNone "Daily evidence artifact reference cannot be null"

/-- What a completion is evidence of. -/
inductive EvidenceKind where
  | forecast
  | outcome
  deriving DecidableEq

namespace EvidenceKind

def text : EvidenceKind → String
  | forecast => "forecast"
  | outcome => "outcome"

/-- The field of the evidence under the kind's name. -/
def field (kind : EvidenceKind) (e : DailyEvidence) : ReferenceField :=
  match kind with
  | forecast => e.forecast
  | outcome => e.outcome

/-- The field of a comparison's completion under the kind's name. -/
def rowField (kind : EvidenceKind) (row : ComparisonCompletion) : ReferenceField :=
  match kind with
  | forecast => row.forecast
  | outcome => row.outcome

/-- The field a comparison's completion may not have. -/
def otherField (kind : EvidenceKind) (row : ComparisonCompletion) : ReferenceField :=
  match kind with
  | forecast => row.outcome
  | outcome => row.forecast

/-- The status of a success. -/
def successful : EvidenceKind → ComparisonStatus
  | forecast => .scored
  | outcome => .complete

end EvidenceKind

/-- **`_evidence`**; `required` names the field a success must have. -/
def evidenceChecks (e : DailyEvidence) (required : Option EvidenceKind) : Except String Unit := do
  document e.document
  match required with
  | none => pure ()
  | some kind =>
    refuse (kind.field e).isNone
      ("Completed daily evidence requires its " ++ kind.text ++ " artifact reference")
  evidenceField e.inputs
  evidenceField e.forecast
  evidenceField e.outcome
  evidenceField e.failure

/-- Some text that is not blank. -/
def explained (text : Option String) : Bool :=
  match text with
  | none => false
  | some t => strip t != ""

/-- One round of `_comparison_evidence`: the comparisons seen, and whether one
succeeded. -/
def comparisonRow (pins : List DailyComparison) (kind : EvidenceKind)
    (acc : List String × Bool) (row : ComparisonCompletion) :
    Except String (List String × Bool) := do
  refuse (!row.others.isEmpty || (kind.otherField row).isSome)
    "Explicit comparison completion document required"
  match row.comparisonId, row.status with
  | some identity, some status =>
    match pins.reverse.find? (fun pin => pin.comparisonId == identity) with
    | none => .error "Comparison completion must match its exact pinned identity and status"
    | some pin => do
      refuse (acc.1.contains identity || row.protocolHash != some pin.protocolHash
          || !(status = kind.successful || status = .unavailable))
        "Comparison completion must match its exact pinned identity and status"
      let ref ← reference ((kind.rowField row).getD none)
      if status = kind.successful then do
        refuse ref.isNone "Successful comparison requires its immutable artifact reference"
        .ok (acc.1 ++ [identity], true)
      else do
        refuse (ref.isNone && !(explained row.reason || explained row.errorType))
          "Unavailable comparison requires an artifact or explicit reason"
        .ok (acc.1 ++ [identity], acc.2)
  | _, _ => .error "Comparison completion must match its exact pinned identity and status"

/-- **`_comparison_evidence`**: whether a comparison succeeded. -/
def comparisonEvidence (pins : List DailyComparison) (evidence : DailyEvidence)
    (kind : EvidenceKind) (failedCapture : Bool) : Except String Bool := do
  refuse (decide (maxDailyComparisons < evidence.comparisons.length))
    "Bounded comparison completion list required"
  if evidence.comparisons.isEmpty && (pins.isEmpty || failedCapture) then .ok false
  else do
    let result ← evidence.comparisons.foldlM (comparisonRow pins kind) ([], false)
    refuse (!pins.all (fun pin => result.1.contains pin.comparisonId))
      "Every pinned comparison requires an explicit completion"
    .ok result.2

/-- `[A-Za-z0-9_-]{1,128}`. -/
def campaignIdText (text : String) : Bool :=
  1 ≤ text.length && text.length ≤ 128
    && text.toList.all (fun c => c.isAlphanum || c == '_' || c == '-')

/-- **`_campaign_id`.** -/
def campaignIdCheck (text : String) : Except String Unit :=
  refuse (!campaignIdText text) "Bounded explicit campaign identity required"

/-- **`_limit`.** -/
def limitCheck (limit : ℤ) : Except String Unit :=
  refuse (decide (limit < 1) || decide (maxDailyRecords < limit))
    "Bounded daily record limit required"

/-- **`_claim_matches`**, of the digest the row has, and the document and the
digest that came in. -/
def claimMatches {α : Type} [DecidableEq α] (stored claim claimHash : α) : Except String Unit :=
  refuse (decide (stored ≠ claimHash) || decide (claim ≠ claimHash))
    "Original immutable daily claim required"

namespace DailyDb

/-! ## Enrolment -/

/-- `family/all`'s trial count. -/
def trialCount (db : DailyDb) : ℕ :=
  (db.get .familyAll).getD 0

/-- **`enroll`.** -/
def enroll (db : DailyDb) (cfg : DailyConfig) (campaignId protocol protocolHash : String)
    (initialState : Option ArtifactReference) (now : Time) :
    Except String (DailyDb × DailyCampaign) := do
  campaignIdCheck campaignId
  document protocol
  let initialState ← reference initialState
  refuse (cfg.documentHash protocol != protocolHash)
    "Frozen protocol hash does not match its document"
  match db.get (.campaign campaignId) with
  | some previous => do
    refuse (decide (previous.campaignId ≠ campaignId) || decide (previous.protocol ≠ protocol)
        || decide (previous.protocolHash ≠ protocolHash)
        || decide (previous.initialState ≠ initialState))
      "Daily campaign enrollment is immutable"
    .ok (db, previous)
  | none => do
    let campaign : DailyCampaign :=
      ⟨campaignId, protocol, protocolHash, initialState, now, initialState, 0, none, none,
        dailyHypothesisCount⟩
    refuse (db.get (.reservation campaignId)).isSome
      "Daily campaign reservation exists without enrollment"
    .ok (((db.append (.reservation campaignId)
        ⟨"panel:" ++ campaignId, "1d", dailyHypothesisCount⟩).append .familyAll
        (db.trialCount + dailyHypothesisCount)).append (.campaign campaignId) campaign, campaign)

/-- The comparisons enrolled for a campaign, by key. -/
def comparisonIds (db : DailyDb) (campaignId : String) : List String :=
  (db.journal.filterMap (fun e =>
    match e.1 with
    | .comparison c id => if c = campaignId then some id else none
    | _ => none)).dedup.mergeSort (fun a b => decide (a ≤ b))

/-- **`_comparisons`.** -/
def comparisons (db : DailyDb) (campaignId : String) : Except String (List DailyComparison) := do
  let rows := (db.comparisonIds campaignId).filterMap
    (fun id => db.get (.comparison campaignId id))
  refuse (decide (maxDailyComparisons < rows.length))
    "Daily comparison registry exceeds its bounded limit"
  .ok rows

/-- `[a-z0-9][a-z0-9_-]{0,95}`. -/
def comparisonIdText (text : String) : Bool :=
  match text.toList with
  | [] => false
  | c :: cs => (c.isLower || c.isDigit) && decide (cs.length ≤ 95)
    && cs.all (fun c => c.isLower || c.isDigit || c == '_' || c == '-')

/-- **`DailyComparisonPlan.__post_init__`.** -/
def planChecks (plan : DailyComparisonPlan) : Except String Unit :=
  refuse (!comparisonIdText plan.comparisonId || !comparisonIdText plan.campaignId
      || !sha256Text plan.parentProtocolHash)
    "Complete frozen daily comparison identity required"

/-- **`validate_parent`.** -/
def validateParent (plan : DailyComparisonPlan) (parent : DailyPanelPlan) : Except String Unit :=
  refuse (plan.parentProtocolHash != parent.identity || plan.campaignId != parent.campaignId
      || !(decide (parent.startDate ≤ plan.firstDecisionDate)
        && decide (plan.firstDecisionDate ≤ parent.endDate)))
    "Daily comparison must bind its exact parent campaign and date range"

/-- **`enroll_comparison`.** -/
def enrollComparison (db : DailyDb) (cfg : DailyConfig) (campaignId : String)
    (plan : DailyComparisonPlan) (protocolHash : String) (now : Time) :
    Except String (DailyDb × DailyComparison) := do
  campaignIdCheck campaignId
  planChecks plan
  refuse (cfg.comparisonHash plan != protocolHash || plan.campaignId != campaignId)
    "Comparison requires its exact campaign and protocol hash"
  match db.get (.campaign campaignId) with
  | none => .error "Comparison requires an enrolled parent campaign"
  | some campaign =>
    match cfg.panelPlan campaign.protocol with
    | none => .error "Complete daily panel protocol document required"
    | some parent => do
      validateParent plan parent
      match db.get (.comparison campaignId plan.comparisonId) with
      | some existing => do
        refuse (decide (existing.campaignId ≠ campaignId)
            || decide (existing.comparisonId ≠ plan.comparisonId)
            || decide (existing.protocol ≠ plan) || decide (existing.protocolHash ≠ protocolHash))
          "Daily comparison enrollment is immutable"
        .ok (db, existing)
      | none => do
        let rows ← db.comparisons campaignId
        refuse (decide (maxDailyComparisons ≤ rows.length))
          "Daily comparison enrollment limit reached"
        refuse (decide (now < campaign.enrolledAt))
          "Comparison database clock moved before parent enrollment"
        let trials := dailyBaselineModels.length
        let result : DailyComparison :=
          ⟨campaignId, plan.comparisonId, plan, protocolHash, now, trials⟩
        refuse (db.get (.comparisonReservation campaignId plan.comparisonId)).isSome
          "Daily comparison reservation exists without enrollment"
        .ok (((db.append (.comparisonReservation campaignId plan.comparisonId)
            ⟨"panel:" ++ campaignId, "1d", trials⟩).append .familyAll
            (db.trialCount + trials)).append (.comparison campaignId plan.comparisonId) result,
          result)

/-! ## Decisions -/

/-- A claim that ran out. -/
def interrupted (previous : DailyDecision) (now : Time) : DailyDecision :=
  { previous with
    status := .interrupted
    reason := some "decision_expired"
    recordedAt := some now }

/-- The campaign without the decision in flight. -/
def released (campaign : DailyCampaign) (decisionId : String) : DailyCampaign :=
  if campaign.inflightDecision = some decisionId then { campaign with inflightDecision := none }
  else campaign

/-- **`_expire_decision`**: the journal after it; the campaign in hand is
`released`, and written if that changed it. -/
def expireDecision (db : DailyDb) (previous : DailyDecision) (campaign : DailyCampaign)
    (now : Time) : DailyDb :=
  let db' := db.append (.decision previous.claim.decisionId) (interrupted previous now)
  if campaign.inflightDecision = some previous.claim.decisionId then
    db'.append (.campaign campaign.campaignId) (released campaign previous.claim.decisionId)
  else db'

/-- Why a decision is recorded as missed. -/
def missReason (contract : DecisionContract) (campaign : DailyCampaign) (now : Time) :
    Option String :=
  if contract.nativeClose ≤ campaign.enrolledAt then some "not_enrolled_before_native_close"
  else if contract.expiresAt ≤ now then some "decision_window_missed"
  else match campaign.lastSession with
    | some last =>
      if contract.sessionDate ≤ last then some "decision_precedes_campaign_cursor" else none
    | none => none

/-- The comparisons a claim pins. -/
def pinned (rows : List DailyComparison) (contract : DecisionContract) : List DailyComparison :=
  rows.filter (fun c => decide (c.enrolledAt < contract.nativeClose)
    && decide (c.protocol.firstDecisionDate ≤ contract.sessionDate))

/-- The claim document. -/
def claimOf (contract : DecisionContract) (decisionId : String) (claimId : Uuid)
    (campaign : DailyCampaign) (comparisons : List DailyComparison) (reason : Option String)
    (now : Time) : DecisionClaim where
  contract := contract
  decisionId := decisionId
  claimId := claimId
  status := if reason.isSome then .missed else .claimed
  claimedAt := now
  parentGeneration := campaign.stateGeneration
  parentState := campaign.stateRef
  protocolHash := campaign.protocolHash
  comparisons := comparisons
  reason := reason
  recordedAt := reason.map (fun _ => now)

/-- A decision as it is first written. -/
def opened (claim : DecisionClaim) : DailyDecision :=
  ⟨claim, claim.status, claim.reason, claim.recordedAt, none⟩

/-- The campaign after a claim. -/
def advanced (campaign : DailyCampaign) (claim : DecisionClaim) : DailyCampaign :=
  let day := claim.contract.sessionDate
  { campaign with
    lastSession := some (max day (campaign.lastSession.getD day))
    inflightDecision := if claim.reason.isNone then some claim.decisionId
      else campaign.inflightDecision }

/-- The window of a decision and the outcome window behind it are in order. -/
def windowChecks (contract : DecisionContract) : Except String Unit := do
  refuse (!(decide (contract.nativeClose ≤ contract.availableAt)
      && decide (contract.availableAt < contract.expiresAt)))
    "Ordered daily decision window required"
  document contract.context.document
  match contract.context.outcomeAvailableAt, contract.context.outcomeExpiresAt with
  | some available, some expires =>
    refuse (!(decide (contract.expiresAt < available) && decide (available < expires)))
      "Frozen future outcome window required"
  | none, _ => .error "outcome_available_at"
  | some _, none => .error "outcome_expires_at"

/-- The decision in flight, interrupted if its window is over; `none` when it
is still running. -/
def clearInflight (db : DailyDb) (campaign : DailyCampaign) (now : Time) :
    Except String (Option (DailyDb × DailyCampaign)) :=
  match campaign.inflightDecision with
  | none => .ok (some (db, campaign))
  | some id =>
    match db.get (.decision id) with
    | none => .error "'NoneType' object is not subscriptable"
    | some inflight =>
      if now < inflight.claim.contract.expiresAt then .ok none
      else .ok (some (db.expireDecision inflight campaign now,
        released campaign inflight.claim.decisionId))

/-- **`claim_decision`.** -/
def claimDecision (db : DailyDb) (cfg : DailyConfig) (contract : DecisionContract)
    (claimId : Uuid) (now : Time) : Except String (DailyDb × Option DecisionClaim) := do
  campaignIdCheck contract.campaignId
  windowChecks contract
  let decisionId := cfg.decisionId contract.campaignId contract.sessionDate
  match db.get (.campaign contract.campaignId) with
  | none => .error "Daily campaign must enroll before acquisition"
  | some campaign =>
    match db.get (.decision decisionId) with
    | some existing => do
      refuse (decide (existing.claim.contract ≠ contract))
        "Daily decision calendar and context are immutable"
      .ok (db, none)
    | none => do
      refuse (decide (now < campaign.enrolledAt)) "Daily database clock moved before enrollment"
      if now < contract.availableAt then .ok (db, none)
      else
        match ← clearInflight db campaign now with
        | none => .ok (db, none)
        | some (db', campaign') => do
          let reason := missReason contract campaign' now
          let rows ← comparisons db' contract.campaignId
          let claim := claimOf contract decisionId claimId campaign' (pinned rows contract)
            reason now
          .ok ((db'.append (.decision decisionId) (opened claim)).append
            (.campaign contract.campaignId) (advanced campaign' claim),
            if reason.isSome then none else some claim)

/-- **`_late`** of a decision. -/
def lateDecision (db : DailyDb) (decisionId : String) (completion : DecisionCompletion)
    (now : Time) : DailyDb :=
  if (db.get (.lateDecision decisionId completion)).isNone then
    db.append (.lateDecision decisionId completion) now
  else db

/-- A decision with its completion. -/
def committed (previous : DailyDecision) (completion : DecisionCompletion) (now : Time) :
    DailyDecision :=
  { previous with
    status := completion.status
    recordedAt := some now
    completion := some completion }

/-- The campaign after a commit. -/
def moved (campaign : DailyCampaign) (stateRef : Option ArtifactReference) : DailyCampaign :=
  match stateRef with
  | some s => { campaign with
      stateRef := some s
      stateGeneration := campaign.stateGeneration + 1
      inflightDecision := none }
  | none => { campaign with inflightDecision := none }

/-- **`finish_decision`.** -/
def finishDecision (db : DailyDb) (claim claimHash : DecisionClaim) (status : DecisionStatus)
    (evidence : DailyEvidence) (stateRef : Option ArtifactReference) (now : Time) :
    Except String (DailyDb × DailyDecision) := do
  refuse (!(status = .scored || status = .unavailable))
    "Daily completion must be scored or explicitly unavailable"
  evidenceChecks evidence (if status = .scored then some .forecast else none)
  let stateRef ← reference stateRef
  let comparisonScored ← comparisonEvidence claim.comparisons evidence .forecast
    (status = .unavailable && evidence.failure.isSome)
  refuse ((status = .scored || comparisonScored) && stateRef.isNone)
    "Scored daily forecast requires its resulting immutable state"
  let completion : DecisionCompletion := ⟨status, evidence, stateRef⟩
  match db.get (.decision claim.decisionId) with
  | none => .error "Original daily claim required"
  | some previous => do
    claimMatches previous.claim claim claimHash
    if previous.status ≠ .claimed then
      if previous.completion = some completion then .ok (db, previous)
      else if previous.status = .interrupted then
        .ok (db.lateDecision claim.decisionId completion now, previous)
      else .error "Daily forecast completion is immutable"
    else
      match db.get (.campaign claim.contract.campaignId) with
      | none => .error "'NoneType' object is not subscriptable"
      | some campaign =>
        if ¬ (claim.claimedAt ≤ now ∧ now < claim.contract.expiresAt) then
          .ok ((db.expireDecision previous campaign now).lateDecision claim.decisionId completion
            now, interrupted previous now)
        else do
          refuse (decide (campaign.stateGeneration ≠ claim.parentGeneration)
              || decide (campaign.stateRef ≠ claim.parentState)
              || decide (campaign.inflightDecision ≠ some claim.decisionId))
            "Daily claim parent state changed"
          .ok ((db.append (.decision claim.decisionId) (committed previous completion now)).append
            (.campaign claim.contract.campaignId) (moved campaign stateRef),
            committed previous completion now)

/-! ## Outcomes -/

/-- **`claim_outcome`.** -/
def claimOutcome (db : DailyDb) (decisionId : String) (availableAt expiresAt : Time)
    (claimId : Uuid) (now : Time) : Except String (DailyDb × Option OutcomeClaim) :=
  match db.get (.decision decisionId) with
  | none => .error "Outcome requires a committed daily decision"
  | some decision => do
    refuse (!(decision.status = .scored || decision.status = .unavailable))
      "Outcome requires a committed daily decision"
    refuse (decide (some availableAt ≠ decision.claim.contract.context.outcomeAvailableAt)
        || decide (some expiresAt ≠ decision.claim.contract.context.outcomeExpiresAt))
      "Outcome must use the frozen decision window"
    if (db.get (.outcome decisionId)).isSome then .ok (db, none)
    else if now < availableAt then .ok (db, none)
    else
      match decision.completion with
      | none => .error "completion_hash"
      | some completion =>
        let missed := decide (expiresAt ≤ now)
        let claim : OutcomeClaim :=
          { decisionId := decisionId
            campaignId := decision.claim.contract.campaignId
            sessionDate := decision.claim.contract.sessionDate
            claimId := claimId
            status := if missed then .unavailable else .capturing
            availableAt := availableAt
            expiresAt := expiresAt
            claimedAt := now
            decisionCompletion := completion
            comparisons := decision.claim.comparisons
            reason := if missed then some "outcome_window_missed" else none
            recordedAt := if missed then some now else none }
        .ok (db.append (.outcome decisionId)
            ⟨claim, claim.status, claim.reason, claim.recordedAt, none⟩,
          if missed then none else some claim)

/-- **`_late`** of an outcome. -/
def lateOutcome (db : DailyDb) (decisionId : String) (completion : OutcomeCompletion)
    (now : Time) : DailyDb :=
  if (db.get (.lateOutcome decisionId completion)).isNone then
    db.append (.lateOutcome decisionId completion) now
  else db

/-- An outcome whose window ran out. -/
def expiredOutcome (previous : DailyOutcome) (now : Time) : DailyOutcome :=
  { previous with
    status := .unavailable
    reason := some "outcome_expired"
    recordedAt := some now }

/-- An outcome with its completion. -/
def observed (previous : DailyOutcome) (completion : OutcomeCompletion) (now : Time) :
    DailyOutcome :=
  { previous with
    status := completion.status
    recordedAt := some now
    completion := some completion }

/-- The comparisons whose forecast was scored. -/
def scoredComparisons (completion : DecisionCompletion) : List (Option String) :=
  (completion.evidence.comparisons.filter (fun row => row.status = some .scored)).map
    ComparisonCompletion.comparisonId

/-- **`finish_outcome`.** -/
def finishOutcome (db : DailyDb) (claim claimHash : OutcomeClaim) (status : ObservationStatus)
    (evidence : DailyEvidence) (now : Time) : Except String (DailyDb × DailyOutcome) := do
  refuse (!(status = .complete || status = .unavailable))
    "Daily outcome must be complete or explicitly unavailable"
  evidenceChecks evidence (if status = .complete then some .outcome else none)
  let _ ← comparisonEvidence claim.comparisons evidence .outcome
    (status = .unavailable && evidence.failure.isSome)
  let completion : OutcomeCompletion := ⟨status, evidence⟩
  match db.get (.outcome claim.decisionId) with
  | none => .error "Original daily claim required"
  | some previous => do
    claimMatches previous.claim claim claimHash
    match db.get (.decision claim.decisionId) with
    | none => .error "Outcome requires its immutable decision completion"
    | some decision => do
      refuse (decide (decision.completion ≠ some claim.decisionCompletion))
        "Outcome requires its immutable decision completion"
      refuse (evidence.comparisons.any (fun row => decide (row.status = some .complete)
          && !(scoredComparisons claim.decisionCompletion).contains row.comparisonId))
        "An unavailable comparison forecast cannot earn a complete outcome"
      if previous.status ≠ .capturing then
        if previous.completion = some completion then .ok (db, previous)
        else if previous.reason = some "outcome_expired" then
          .ok (db.lateOutcome claim.decisionId completion now, previous)
        else .error "Daily primary outcome is immutable"
      else if ¬ (claim.claimedAt ≤ now ∧ now < claim.expiresAt) then
        .ok ((db.lateOutcome claim.decisionId completion now).append (.outcome claim.decisionId)
          (expiredOutcome previous now), expiredOutcome previous now)
      else
        .ok (db.append (.outcome claim.decisionId) (observed previous completion now),
          observed previous completion now)

/-! ## The sweep -/

/-- **`_records_query`** of the outcomes that are being captured, by session. -/
def capturingOutcomes (db : DailyDb) (campaignId : String) : List DailyOutcome :=
  (((db.journal.filterMap (fun e =>
      match e.1 with
      | .outcome id => some id
      | _ => none)).dedup.filterMap (fun id => db.get (.outcome id))).filter
    (fun o => decide (o.claim.campaignId = campaignId) && decide (o.status = .capturing))).mergeSort
    (fun o o' => decide (o.claim.sessionDate ≤ o'.claim.sessionDate))

/-- One round of the sweep of outcomes. -/
def expireOutcome (now : Time) (acc : DailyDb × List DailyOutcome) (previous : DailyOutcome) :
    DailyDb × List DailyOutcome :=
  if previous.claim.expiresAt ≤ now then
    (acc.1.append (.outcome previous.claim.decisionId) (expiredOutcome previous now),
      acc.2 ++ [expiredOutcome previous now])
  else acc

/-- The decision in flight, when its window is over. -/
def expireInflight (db : DailyDb) (campaign : DailyCampaign) (now : Time) :
    Except String (DailyDb × Option DailyDecision) :=
  match campaign.inflightDecision with
  | none => .ok (db, none)
  | some id =>
    match db.get (.decision id) with
    | none => .error "'NoneType' object is not subscriptable"
    | some previous =>
      if previous.claim.contract.expiresAt ≤ now then
        .ok (db.expireDecision previous campaign now, some (interrupted previous now))
      else .ok (db, none)

/-- **`expire`**: the decision and the outcomes that expired. -/
def expire (db : DailyDb) (campaignId : String) (limit : ℤ) (now : Time) :
    Except String (DailyDb × Option DailyDecision × List DailyOutcome) := do
  limitCheck limit
  campaignIdCheck campaignId
  match db.get (.campaign campaignId) with
  | none => .error "Unknown daily campaign"
  | some campaign => do
    let swept ← db.expireInflight campaign now
    let remaining := limit.toNat - swept.2.toList.length
    let rows := (capturingOutcomes swept.1 campaignId).take remaining
    let result := rows.foldl (expireOutcome now) (swept.1, [])
    .ok (result.1, swept.2, result.2)

end DailyDb

/-! ## The system -/

/-- **A transaction of some worker.** -/
inductive DailyStep (cfg : DailyConfig) : DailyDb → DailyDb → Prop where
  | enroll {db db' : DailyDb} {campaignId protocol protocolHash : String}
      {initialState : Option ArtifactReference} {now : Time} {r : DailyCampaign}
      (h : db.enroll cfg campaignId protocol protocolHash initialState now = .ok (db', r)) :
      DailyStep cfg db db'
  | enrollComparison {db db' : DailyDb} {campaignId protocolHash : String}
      {plan : DailyComparisonPlan} {now : Time} {r : DailyComparison}
      (h : db.enrollComparison cfg campaignId plan protocolHash now = .ok (db', r)) :
      DailyStep cfg db db'
  | claimDecision {db db' : DailyDb} {contract : DecisionContract} {claimId : Uuid} {now : Time}
      {r : Option DecisionClaim} (h : db.claimDecision cfg contract claimId now = .ok (db', r)) :
      DailyStep cfg db db'
  | finishDecision {db db' : DailyDb} {claim claimHash : DecisionClaim} {status : DecisionStatus}
      {evidence : DailyEvidence} {stateRef : Option ArtifactReference} {now : Time}
      {r : DailyDecision}
      (h : db.finishDecision claim claimHash status evidence stateRef now = .ok (db', r)) :
      DailyStep cfg db db'
  | claimOutcome {db db' : DailyDb} {decisionId : String} {availableAt expiresAt : Time}
      {claimId : Uuid} {now : Time} {r : Option OutcomeClaim}
      (h : db.claimOutcome decisionId availableAt expiresAt claimId now = .ok (db', r)) :
      DailyStep cfg db db'
  | finishOutcome {db db' : DailyDb} {claim claimHash : OutcomeClaim}
      {status : ObservationStatus} {evidence : DailyEvidence} {now : Time} {r : DailyOutcome}
      (h : db.finishOutcome claim claimHash status evidence now = .ok (db', r)) :
      DailyStep cfg db db'
  | expire {db db' : DailyDb} {campaignId : String} {limit : ℤ} {now : Time}
      {r : Option DailyDecision × List DailyOutcome}
      (h : db.expire campaignId limit now = .ok (db', r)) : DailyStep cfg db db'

/-- **The journal shared by any number of workers.** It starts with no
campaign, and with whatever other research charged to the family. -/
def dailySystem (cfg : DailyConfig) : TransitionSystem DailyDb where
  init db := db = .empty ∨ ∃ charged, db = Projections.empty.append .familyAll charged
  step := DailyStep cfg

end AgenticTrader
