import AgenticTrader.Durable
import AgenticTrader.Library.Projections

/-!
# The records of the alpha journal

`storage/alpha.py` keeps every aggregate of the research pipeline as a keyed
projection of one journal: the versions and the registry, probe enrolments,
qualification and shadow evidence, research runs and the holdouts they
consumed, session decisions, and the ledger of the pooled lane. `AlphaKey`
are the kinds of keys and `AlphaValue` what is stored under each.

A key's text is a kind and some identifiers (`version/…`, `consumption/…`);
here it is the kind and the identifiers themselves. Where the source hashes a
document to get an identifier – the symbol of a holdout, an external
observation, the window of a decision – the key holds the document.

The records hold the fields some modelled function reads or writes. What the
source only stores is left out: the progress summaries (`research/latest`,
`session-decision/latest`, `runtime/registry`) and descriptive fields.
-/

namespace AgenticTrader

/-! ## Definitions -/

/-- The timeframes of a definition. -/
inductive Timeframe where
  | m15
  | h1
  | h4
  | d1
  deriving DecidableEq, Repr

/-- **`SessionClockPolicy`**: when a session bar may be decided on, within the
bounds its constructor checks. -/
structure SessionClockPolicy where
  decisionDelaySeconds : ℕ
  maxLatenessSeconds : ℕ
  delay_le : decisionDelaySeconds ≤ 86400
  lateness_pos : 1 ≤ maxLatenessSeconds
  lateness_le : maxLatenessSeconds ≤ 86400
  deriving DecidableEq

/-- The clock of a definition: the session clock, or the fixed UTC day. -/
inductive AlphaClock where
  | session (policy : SessionClockPolicy)
  | fixedDaily
  deriving DecidableEq

/-- **`AlphaDefinition`**. `document` stands for the fields nothing here looks
into: the expression, the thresholds, the execution policy. -/
structure AlphaDefinition where
  alphaId : String
  timeframe : Timeframe
  eligibleSymbols : Option (List String)
  dataFeed : String
  clock : Option AlphaClock
  document : String
  deriving DecidableEq

/-- The symbols of a definition, `eligible_symbols or ()`. -/
def AlphaDefinition.symbols (d : AlphaDefinition) : List String :=
  d.eligibleSymbols.getD []

/-- **A catalog definition** (`kind = 'apriori'`): a leg of a catalog entry
that passed its study. -/
structure CatalogDefinition where
  versionId : String
  alphaId : String
  entryId : String
  entryVersion : ℕ
  entrySha256 : String
  leg : String
  studyResultSha256 : String
  studyMeanR : ℚ
  document : String
  deriving DecidableEq

/-- **A version record**: the definition it froze. -/
inductive VersionDocument where
  | dsl (definition : AlphaDefinition)
  | catalog (definition : CatalogDefinition)
  deriving DecidableEq

namespace VersionDocument

/-- `definition["alpha_id"]`. -/
def alphaId : VersionDocument → String
  | .dsl d => d.alphaId
  | .catalog d => d.alphaId

/-- **`is_catalog_definition`.** -/
def isCatalog : VersionDocument → Bool
  | .dsl _ => false
  | .catalog _ => true

/-- The symbols a version may own: a catalog version owns none. -/
def symbols : VersionDocument → List String
  | .dsl d => d.symbols
  | .catalog _ => []

end VersionDocument

/-! ## The registry -/

/-- **The registry**: which versions run, and how. -/
structure Registry where
  generation : ℕ
  active : List String
  shadow : List String
  probe : List String
  deriving DecidableEq

/-- `_empty_registry`. -/
def Registry.empty : Registry := ⟨0, [], [], []⟩

/-- The versions in some list. -/
def Registry.listed (r : Registry) : List String :=
  r.active ++ r.shadow ++ r.probe

/-- **`ProbePolicy`.** -/
structure ProbePolicy where
  version : String := "probe_policy_v1"
  minHoldoutSharpe : ℚ := 0
  minCostStressedReturnPct : ℚ := 0
  minHoldoutTrades : ℚ := 5
  maxTermDays : ℤ := 180
  killR : ℚ := -4
  deriving DecidableEq

/-- A criterion of a qualification: its status, and its value where that is a
finite number. -/
structure Criterion where
  status : String
  value : Option ℚ
  deriving DecidableEq

/-- **A qualification decision**, with the incumbents of its manifest. -/
structure Qualification where
  runId : String
  versionId : String
  qualified : Bool
  reasons : List String
  policy : String
  qualifiedAt : Time
  incumbents : List AlphaDefinition
  eligibleSymbols : List String
  criteria : List (String × Criterion)
  deriving DecidableEq

/-- The shadow record of a version: the sessions it was observed in and the
decisions it made, by symbol. -/
structure ShadowSummary where
  sessions : List (String × List String)
  decisions : List (String × ℕ)
  deriving DecidableEq

/-- **`ProbeAssessment`.** -/
structure ProbeAssessment where
  eligible : Bool
  reasons : List String
  observations : List (String × ℚ)
  deriving DecidableEq

/-- What a probe was enrolled on: an assessment, or the study of a catalog
leg. -/
inductive ProbeEvidence where
  | assessment (a : ProbeAssessment)
  | study (resultSha256 : String) (meanR : ℚ)
  deriving DecidableEq

/-- **A probe enrolment.** -/
structure ProbeEnrolment where
  policy : ProbePolicy
  maxProbes : ℕ
  probeRiskDollars : ℚ
  assessment : ProbeEvidence
  firstEnrolledAt : Time
  enrolledAt : Time
  expiresAt : Time
  termDays : ℤ
  renewals : ℕ
  actor : String
  deriving DecidableEq

/-! ## Research -/

/-- A trial of a research run. -/
structure ResearchTrial where
  status : String
  definition : Option AlphaDefinition
  perBarSharpe : Option ℚ
  deriving DecidableEq

/-- **A research run and its manifest**, as `record_run` stores them. -/
structure ResearchRun where
  policy : String
  trialCount : ℕ
  trials : List ResearchTrial
  symbol : String
  timeframe : Timeframe
  contentHash : String
  holdoutStart : Option WireTime
  endAt : WireTime
  incumbents : List AlphaDefinition
  deriving DecidableEq

/-- A reserved research budget. -/
structure ResearchReservation where
  symbol : String
  timeframe : String
  trials : ℕ
  deriving DecidableEq

/-- The trials of a timeframe's family. -/
structure VarianceFamily where
  trialCount : ℕ
  sharpes : List ℚ
  deriving DecidableEq

/-- **An external observation** of price data. Its identity is a digest of the
printed document, so the two times come with the UTC offsets they are printed
with. -/
structure ExternalObservation where
  symbol : String
  startAt : Time
  startOffset : ℤ
  endAt : Time
  endOffset : ℤ
  trials : ℕ
  reason : String
  deriving DecidableEq

/-- What an interval of a holdout was used for. -/
inductive HoldoutUse where
  | consumed (runId versionId : String)
  | observed (observation : ExternalObservation)
  deriving DecidableEq

/-- **An interval of a symbol's history that is no fresh holdout any more.** -/
structure HoldoutInterval where
  startAt : WireTime
  endAt : WireTime
  usage : HoldoutUse
  deriving DecidableEq

/-- **What `begin_holdout` hands to the evaluation.** -/
structure Consumption where
  versionId : String
  symbol : String
  trialCount : ℕ
  trialVariance : Option ℚ
  varianceObservations : ℕ
  returnTimeline : String
  deriving DecidableEq

/-! ## Session decisions -/

/-- `DecisionStatus`. -/
inductive DecisionStatus where
  | claimed
  | scored
  | unavailable
  | missed
  | superseded
  | interrupted
  deriving DecidableEq, Repr

/-- The identity of a decision: a version, a symbol and the close of a
window. -/
structure DecisionIdentity where
  versionId : String
  symbol : String
  closedAt : Time
  deriving DecidableEq

/-- **A session decision.** -/
structure SessionDecision where
  identity : DecisionIdentity
  claimId : Uuid
  status : DecisionStatus
  timeframe : Timeframe
  feed : String
  openedAt : Time
  availableAt : Time
  expiresAt : Time
  claimedAt : Time
  registryGeneration : ℕ
  finishedAt : Option Time
  committedAt : Option Time
  reason : Option String
  deriving DecidableEq

/-- What a capture found out. -/
structure DecisionEvidence where
  status : DecisionStatus
  finishedAt : Time
  reason : Option String
  forecastValid : Bool
  deriving DecidableEq

/-- The contract of a session, as the cursor remembers it. -/
structure SessionContract where
  date : ℤ
  openAt : Time
  closeAt : Time
  deriving DecidableEq

/-- An interval in which windows were not looked at. -/
structure SessionGap where
  startAt : Time
  endAt : Time
  reason : String
  deriving DecidableEq

/-- **The cursor of a version and a symbol.** -/
structure SessionCursor where
  generation : ℕ
  checkedAt : Time
  calendar : List SessionContract
  enrolledAt : Time
  gap : Option SessionGap
  deriving DecidableEq

/-! ## The pooled lane -/

/-- The statuses a campaign is advanced through. -/
inductive CampaignStatus where
  | reserved
  | frozen
  | confirmationConsumed
  | failed
  | completed
  deriving DecidableEq, Repr

/-- `POOLED_IMMUTABLE`: what a reservation pins. -/
structure CampaignPins where
  protocolSha256 : String
  cohortSha256 : String
  cubeSha256 : String
  codeRevision : String
  budget : ℕ
  journalScope : String
  deriving DecidableEq

/-- **A pooled campaign.** -/
structure Campaign where
  pins : CampaignPins
  status : CampaignStatus
  stages : List CampaignStatus
  deriving DecidableEq

/-- A family's reserved budget and what was charged to it. -/
structure FamilyBudget where
  budget : ℕ
  charged : ℕ
  deriving DecidableEq

/-- The charge of one formula. -/
structure FormulaCharge where
  family : String
  expression : String
  nodes : ℕ
  chargedAt : Time
  deriving DecidableEq

/-- **`pooled/ledger`.** -/
structure PooledCounts where
  formulasCharged : ℕ
  campaigns : ℕ
  confirmations : ℕ
  deriving DecidableEq

/-- A consumed confirmation interval, in days. -/
structure ConfirmationInterval where
  startOn : ℤ
  endOn : ℤ
  campaignId : String
  cohortSha256 : String
  candidates : List String
  consumedAt : Time
  deriving DecidableEq

/-! ## Keys -/

/-- **The keys of the alpha projections.** -/
inductive AlphaKey where
  | registry
  | version (id : String)
  | probe (id : String)
  | qualification (versionId : String)
  | qualificationRun (runId versionId : String)
  | shadow (versionId : String)
  | run (id : String)
  | reservation (runId : String)
  | familyAll
  | family (timeframe : Timeframe)
  | holdout (symbol : String)
  | consumption (runId : String)
  | externalObservation (observation : ExternalObservation)
  | decision (identity : DecisionIdentity)
  | decisionLate (identity : DecisionIdentity)
  | pending
  | cursor (versionId symbol : String)
  | campaign (id : String)
  | campaignFamily (campaignId familyId : String)
  | formula (campaignId formulaId : String)
  | pooledLedger
  | pooledConfirmation
  deriving DecidableEq

/-- What is stored under a key. -/
abbrev AlphaValue : AlphaKey → Type
  | .registry => Registry
  | .version _ => VersionDocument
  | .probe _ => ProbeEnrolment
  | .qualification _ => Qualification
  | .qualificationRun _ _ => Qualification
  | .shadow _ => ShadowSummary
  | .run _ => ResearchRun
  | .reservation _ => ResearchReservation
  | .familyAll => ℕ
  | .family _ => VarianceFamily
  | .holdout _ => List HoldoutInterval
  | .consumption _ => Consumption
  | .externalObservation _ => Unit
  | .decision _ => SessionDecision
  | .decisionLate _ => DecisionEvidence
  | .pending => List (DecisionIdentity × Time)
  | .cursor _ _ => SessionCursor
  | .campaign _ => Campaign
  | .campaignFamily _ _ => FamilyBudget
  | .formula _ _ => FormulaCharge
  | .pooledLedger => PooledCounts
  | .pooledConfirmation => List ConfirmationInterval

/-- **The alpha journal and its projections.** -/
abbrev AlphaStore := Projections AlphaValue

end AgenticTrader
