import AgenticTrader.Alpha.Records
import AgenticTrader.Library.Binary64
import AgenticTrader.Library.Checks
import Mathlib.Algebra.BigOperators.Group.List.Basic
import Mathlib.Algebra.Order.Ring.Rat

/-!
# The alpha registry

`AlphaRepository` (`storage/alpha.py`): registering a version, promoting it,
putting it in shadow, demoting it, enrolling it as a paper probe, sweeping
the probes whose term is over, and the snapshot a scan installs. Each is one
transaction under the lock of the alpha journal, so each is a function of the
database before it, which either refuses or commits.

Whether a probe may take new risk is not stored: `probe_block_reason`
(`storage/probe_state.py`) derives it at every check from the enrolment, the
clock and the trades closed since the first enrolment.

A listed version always has a record (`RegistryInv.recorded`), so the source's
lookups of listed versions do not fail; where one would, the version is passed
over here.
-/

namespace AgenticTrader

export Checks (refuse refuse_bind_eq_ok except_bind_eq_ok)

/-! ## Configuration and state -/

/-- **What is fixed for a run**: the scope, the policies, the operator's
limits, and the text and hash functions. `versionId` is the digest of a
definition's canonical document. -/
structure AlphaConfig where
  scope : String
  probePolicy : ProbePolicy
  maxProbes : ℕ
  probeTermDays : ℤ
  probeRiskDollars : ℚ
  qualificationMaxAgeDays : ℤ
  minimumShadowSessions : ℕ
  minimumShadowDecisions : ℕ
  validationPolicy : String
  returnTimeline : String
  versionId : AlphaDefinition → String
  isoformat : Time → String
  fixed2 : Extended ℚ → String
  dollars : ℚ → String
  upper : String → String

/-- **A closed trade** of the scope, as the forward record reads it. A figure
that is missing or not finite is `none`. -/
structure ClosedTrade where
  alphaVersion : Option String
  realizedPnl : Option ℚ
  riskDollars : Option ℚ
  exitTimestamp : Time
  quarantined : Bool
  deriving DecidableEq

/-- **The database of the registry**: the alpha journal, the closed trades in
the order in which a read returns them, and the notices queued, by key. -/
structure AlphaDb where
  store : AlphaStore
  closes : List ClosedTrade
  notices : List (String × String)

namespace AlphaDb

/-- Nothing was written. -/
def empty : AlphaDb := ⟨.empty, [], []⟩

/-- **`_get`.** -/
def get (db : AlphaDb) (k : AlphaKey) : Option (AlphaValue k) :=
  db.store.get k

/-- **`_append`.** -/
def append (db : AlphaDb) (k : AlphaKey) (v : AlphaValue k) : AlphaDb :=
  { db with store := db.store.append k v }

/-- **`add_notification`**: one notice per key. -/
def addNotice (db : AlphaDb) (key text : String) : AlphaDb :=
  if db.notices.any (fun n => n.1 == key) then db
  else { db with notices := db.notices ++ [(key, text)] }

/-- `_normalized(await self._get(session, REGISTRY_KEY))`. -/
def registry (db : AlphaDb) : Registry :=
  (db.get .registry).getD .empty

/-- The logical alpha of a version. -/
def alphaIdOf? (db : AlphaDb) (id : String) : Option String :=
  (db.get (.version id)).map VersionDocument.alphaId

/-- The symbols of a version. -/
def symbolsOf (db : AlphaDb) (id : String) : List String :=
  ((db.get (.version id)).map VersionDocument.symbols).getD []

end AlphaDb

/-! ## Probes -/

/-- **`is_paper_scope`.** -/
def isPaperScope (scope : String) : Bool :=
  "/alpaca:paper".toList.isSuffixOf scope.toList

/-- The realized R of a close, when both figures are known and the risk is
positive: a quotient of doubles. -/
def ClosedTrade.realizedR (t : ClosedTrade) : Option (Extended ℚ) :=
  match t.realizedPnl, t.riskDollars with
  | some pnl, some risk => if risk ≤ 0 then none else some (double (pnl / risk))
  | _, _ => none

/-- The running sum of the R's, each addition one of doubles. -/
def cumulativeR (known : List (Extended ℚ)) : Extended ℚ :=
  known.foldl Extended.addDouble (.finite 0)

/-- What `forward_record` returns. -/
structure ForwardRecord where
  trades : ℕ
  unknown : ℕ
  cumulativeR : Extended ℚ
  killR : ℚ
  killed : Bool

/-- **`forward_record`**: the cumulative realized R of the closes whose outcome
is known, added up in the order of the rows. -/
def forwardRecord (rows : List ClosedTrade) (policy : ProbePolicy) : ForwardRecord :=
  let known := rows.filterMap ClosedTrade.realizedR
  { trades := known.length
    unknown := rows.length - known.length
    cumulativeR := cumulativeR known
    killR := policy.killR
    killed := decide (0 < known.length) && (cumulativeR known).le (.finite policy.killR) }

-- The order and the rounding matter: a loss of 0.1 R and a win of 0.1 R after a loss of 4 R
-- leave a sum above -4.
example : (cumulativeR [double (-4), double (-1 / 10), double (1 / 10)]).le (.finite (-4))
    = false := by decide +kernel

/-- The close counts for a version since an instant. -/
def ClosedTrade.counts (versionId : String) (since : Time) (t : ClosedTrade) : Bool :=
  t.alphaVersion == some versionId && !t.quarantined && decide (since ≤ t.exitTimestamp)

namespace AlphaDb

/-- **`load_forward_record`.** The query names no order, so the rows are read
in whatever order the store returns them. -/
def loadForwardRecord (db : AlphaDb) (versionId : String) (since : Time)
    (policy : ProbePolicy) : ForwardRecord :=
  forwardRecord (db.closes.filter (ClosedTrade.counts versionId since)) policy

/-- The text of a kill. -/
def killText (cfg : AlphaConfig) (record : ForwardRecord) : String :=
  "probe kill rule reached (" ++ cfg.fixed2 record.cumulativeR ++ "R <= "
    ++ cfg.fixed2 (.finite cfg.probePolicy.killR) ++ "R)"

/-- **`probe_block_reason`**: why this probe may not take new risk. -/
def probeBlockReason (db : AlphaDb) (cfg : AlphaConfig) (versionId : String) (now : Time) :
    Option String :=
  if !isPaperScope cfg.scope then some "paper probes run only on the Alpaca paper account"
  else match db.get (.probe versionId) with
    | none => some "probe enrolment evidence is missing"
    | some enrolment =>
      if enrolment.policy ≠ cfg.probePolicy then
        some "probe policy changed; renew the probe under the current policy"
      else if enrolment.expiresAt ≤ now then
        some "probe term expired; renew it or let it retire"
      else
        let record := db.loadForwardRecord versionId enrolment.firstEnrolledAt cfg.probePolicy
        if record.killed then some (killText cfg record) else none

/-- **`_live_probes`.** -/
def liveProbes (db : AlphaDb) (cfg : AlphaConfig) (registry : Registry) (now : Time) :
    List String :=
  registry.probe.filter (fun v => (db.probeBlockReason cfg v now).isNone)

/-- A version of another alpha shares a symbol with the definition. -/
def ownsSymbolOf (db : AlphaDb) (definition : AlphaDefinition) (id : String) : Bool :=
  match db.get (.version id) with
  | some (.dsl incumbent) =>
    incumbent.alphaId != definition.alphaId
      && incumbent.symbols.any (fun s => definition.symbols.contains s)
  | _ => false

/-- **`_symbol_owner_conflict`.** -/
def symbolOwnerConflict (db : AlphaDb) (definition : AlphaDefinition)
    (owners : List String) : Option String :=
  owners.find? (db.ownsSymbolOf definition)

end AlphaDb

/-! ### The probe policy -/

/-- `STRUCTURAL_CRITERIA`. -/
def structuralCriteria : List String :=
  ["holdout_available", "deployment_data_contract", "intraday_session_execution_unverified",
    "recursive_feature_requires_shared_initialization"]

/-- The reason a structural criterion gives. -/
def structuralReason (criteria : List (String × Criterion)) (code : String) : Option String :=
  match criteria.lookup code with
  | none => some (code ++ "_missing")
  | some criterion => if criterion.status = "pass" then none else some (code ++ "_failed")

/-- The floors of a policy: the criterion, the floor, and whether it has to be
exceeded. -/
def probeFloors (policy : ProbePolicy) : List (String × ℚ × Bool) :=
  [("holdout_sharpe", policy.minHoldoutSharpe, true),
    ("cost_stress", policy.minCostStressedReturnPct, true),
    ("holdout_trade_count", policy.minHoldoutTrades, false)]

/-- The observation of a floor's criterion, or the reason there is none. -/
def floorObservation (criteria : List (String × Criterion)) (code : String) :
    Except String ℚ :=
  match criteria.lookup code with
  | none => .error (code ++ "_missing")
  | some criterion =>
    if criterion.status = "unavailable" then .error (code ++ "_unavailable")
    else match criterion.value with
      | none => .error (code ++ "_invalid")
      | some value => .ok value

/-- The reason a floor gives. -/
def floorReason (criteria : List (String × Criterion)) : String × ℚ × Bool → Option String
  | (code, floor, strict) =>
    match floorObservation criteria code with
    | .error reason => some reason
    | .ok value =>
      if (if strict then decide (value ≤ floor) else decide (value < floor)) then
        some (code ++ "_below_probe_floor")
      else none

/-- **`assess_probe`.** -/
def assessProbe (qualification : Option Qualification) (policy : ProbePolicy) :
    ProbeAssessment :=
  match qualification with
  | none => ⟨false, ["qualification_missing"], []⟩
  | some q =>
    let reasons := structuralCriteria.filterMap (structuralReason q.criteria)
      ++ (probeFloors policy).filterMap (floorReason q.criteria)
    let observations := (probeFloors policy).filterMap (fun f =>
      (floorObservation q.criteria f.1).toOption.map (fun value => (f.1, value)))
    ⟨reasons.isEmpty, reasons, observations⟩

namespace AlphaDb

/-! ### Enrolment -/

/-- Microseconds a day. -/
def dayMicros : ℤ := 86400000000

/-- The enrolment that is written. -/
def enrolment (cfg : AlphaConfig) (previous : Option ProbeEnrolment)
    (assessment : ProbeEvidence) (days : ℤ) (renew : Bool) (actor : String) (now : Time) :
    ProbeEnrolment where
  policy := cfg.probePolicy
  maxProbes := cfg.maxProbes
  probeRiskDollars := cfg.probeRiskDollars
  assessment := assessment
  firstEnrolledAt := (previous.map (·.firstEnrolledAt)).getD now
  enrolledAt := now
  expiresAt := now + days * dayMicros
  termDays := days
  renewals := match renew, previous with
    | true, some p => p.renewals + 1
    | _, _ => 0
  actor := actor

/-- The notice of an enrolment. -/
def enrolmentNotice (cfg : AlphaConfig) (alphaId label actor : String) (days : ℤ)
    (renew : Bool) (now : Time) : String :=
  let action := if renew then "renewed" else "enrolled"
  "🧪 Paper probe " ++ alphaId ++ " " ++ action ++ " by " ++ actor ++ ": " ++ label
    ++ "; expires " ++ cfg.isoformat (now + days * dayMicros) ++ "; risk capped at $"
    ++ cfg.dollars cfg.probeRiskDollars ++ "; paper account only."

/-- **`_record_probe_enrolment`**: the term, the kill, the renewal, the slots,
the owner, and then the enrolment and its notice. -/
def recordProbeEnrolment (db : AlphaDb) (cfg : AlphaConfig) (registry : Registry)
    (versionId alphaId label : String) (ownerCheck : List String → Option String)
    (assessment : ProbeEvidence) (days : Option ℤ) (renew : Bool) (actor : String)
    (now : Time) : Except String AlphaDb := do
  let days := days.getD cfg.probeTermDays
  let maxDays := cfg.probePolicy.maxTermDays
  let slots := cfg.maxProbes
  refuse (!(decide (1 ≤ days) && decide (days ≤ cfg.probePolicy.maxTermDays)))
    s!"Probe term must be 1..{maxDays} days"
  let previous := db.get (.probe versionId)
  let first := (previous.map (·.firstEnrolledAt)).getD now
  let record := db.loadForwardRecord versionId first cfg.probePolicy
  refuse record.killed ("Probe kill rule reached (" ++ cfg.fixed2 record.cumulativeR
    ++ "R); this version cannot be enrolled again")
  refuse (renew && !registry.probe.contains versionId)
    "Version is not a current probe; enrol it instead of renewing"
  let others := (db.liveProbes cfg registry now).filter (· != versionId)
  refuse (decide (cfg.maxProbes ≤ others.length)) s!"All {slots} probe slots are in use"
  refuse (ownerCheck others).isSome
    "Instrument already has an alpha owner; demote it or wait for its probe to end"
  let action := if renew then "renewed" else "enrolled"
  .ok ((db.append (.probe versionId)
      (enrolment cfg previous assessment days renew actor now)).addNotice
    ("alpha-probe/" ++ versionId ++ "/" ++ action ++ "/" ++ cfg.isoformat now)
    (enrolmentNotice cfg alphaId label actor days renew now))

/-- The feeds an alpha may be deployed on. -/
def deploymentFeeds : List String := ["alpaca:iex", "alpaca:sip"]

/-- **`_authorize_probe`.** -/
def authorizeProbe (db : AlphaDb) (cfg : AlphaConfig) (registry : Registry)
    (definition : AlphaDefinition) (days : Option ℤ) (renew : Bool) (actor : String)
    (now : Time) : Except String AlphaDb := do
  let versionId := cfg.versionId definition
  refuse (!isPaperScope cfg.scope) "Paper probes run only on the Alpaca paper account scope"
  refuse (registry.active.any (fun v => db.alphaIdOf? v == some definition.alphaId))
    "Alpha is active; demote it before enrolling a paper probe"
  refuse (definition.clock.isSome || definition.timeframe != .d1)
    "Paper probes require an unclocked native daily definition"
  refuse (!deploymentFeeds.contains definition.dataFeed)
    "Paper probes require an explicit deployment feed"
  refuse definition.symbols.isEmpty "Paper probes require an explicit symbol universe"
  let assessment := assessProbe (db.get (.qualification versionId)) cfg.probePolicy
  refuse (!assessment.eligible)
    ("Probe policy not met: " ++ ", ".intercalate assessment.reasons)
  db.recordProbeEnrolment cfg registry versionId definition.alphaId
    (", ".intercalate definition.symbols)
    (fun others => db.symbolOwnerConflict definition (registry.active ++ others))
    (.assessment assessment) days renew actor now

/-! ## Activation -/

/-- The two lists have the same elements. -/
def sameSet (a b : List String) : Bool :=
  a.all (fun x => b.contains x) && b.all (fun x => a.contains x)

/-- The observed shadow sessions, and decisions, of a symbol. -/
def shadowSessions (summary : Option ShadowSummary) (symbol : String) : ℕ :=
  ((summary.bind (fun s => s.sessions.lookup symbol)).getD []).length

def shadowDecisions (summary : Option ShadowSummary) (symbol : String) : ℕ :=
  (summary.bind (fun s => s.decisions.lookup symbol)).getD 0

/-- The qualification's own checks. -/
def authorizeQualification (cfg : AlphaConfig) (registry : Registry)
    (definition : AlphaDefinition) (versionId : String) (decision : Qualification)
    (clock : Time) : Except String Unit := do
  refuse (!decision.qualified || !decision.reasons.isEmpty)
    "Passing qualification evidence required"
  refuse (decision.policy != cfg.validationPolicy)
    "Qualification policy changed; fresh evidence required"
  refuse (decide (clock < decision.qualifiedAt)
      || decide (cfg.qualificationMaxAgeDays < (clock - decision.qualifiedAt) / dayMicros))
    "Qualification evidence expired"
  refuse (!sameSet (decision.incumbents.map cfg.versionId)
      (registry.active.filter (· != versionId)))
    "Incumbents changed since qualification; fresh incremental evidence required"
  refuse (definition.symbols.isEmpty || !sameSet definition.symbols decision.eligibleSymbols)
    "Version universe differs from qualification evidence"

/-- The checks of the stored qualification of a version. -/
def authorizeEvidence (db : AlphaDb) (cfg : AlphaConfig) (registry : Registry)
    (definition : AlphaDefinition) (versionId : String) (clock : Time) :
    Except String Unit :=
  match db.get (.qualification versionId) with
  | none => .error "Passing qualification evidence required"
  | some decision => authorizeQualification cfg registry definition versionId decision clock

/-- The refusal of an activation whose symbols another version owns. -/
def authorizeOwner (db : AlphaDb) (registry : Registry) (conflict : Option String) :
    Except String Unit :=
  match conflict with
  | none => .ok ()
  | some owner =>
    if registry.probe.contains owner then
      .error ("Instrument is owned by a live paper probe (" ++ (db.alphaIdOf? owner).getD ""
        ++ "); demote it or wait for its term to end")
    else
      .error "Instrument already has an alpha owner; evaluate a combined portfolio in shadow first"

/-- **The checks of an activation** (`_change`, mode `active`). -/
def authorizeActive (db : AlphaDb) (cfg : AlphaConfig) (registry : Registry)
    (definition : AlphaDefinition) (versionId : String) (now clock : Time) :
    Except String Unit := do
  refuse definition.clock.isSome
    "Session-clock activation requires live acquisition and execution evidence"
  refuse (!deploymentFeeds.contains definition.dataFeed)
    "Passing qualification requires an explicit deployment feed"
  db.authorizeEvidence cfg registry definition versionId clock
  let shadow := db.get (.shadow versionId)
  let sessions := cfg.minimumShadowSessions
  refuse (definition.symbols.any (fun s =>
      decide (shadowSessions shadow s < cfg.minimumShadowSessions)))
    s!"At least {sessions} observed shadow sessions per qualified symbol required"
  refuse (definition.symbols.any (fun s =>
      decide (shadowDecisions shadow s < cfg.minimumShadowDecisions)))
    "Insufficient observed shadow decisions"
  db.authorizeOwner registry
    (db.symbolOwnerConflict definition (registry.active ++ db.liveProbes cfg registry now))

/-! ## Changes of the registry -/

/-- One current version per logical alpha: the others leave the lists. -/
def supersede (db : AlphaDb) (registry : Registry) (alphaId : String) : Registry :=
  let keep := fun v => db.alphaIdOf? v != some alphaId
  { registry with
    active := registry.active.filter keep
    shadow := registry.shadow.filter keep
    probe := registry.probe.filter keep }

end AlphaDb

/-- The states of a version in the registry, as `_change`'s modes. -/
inductive RegistryMode where
  | inactive
  | shadow
  | probe
  | active
  deriving DecidableEq, Repr

/-- The sorted list with one more version. -/
def sortedInsert (v : String) (l : List String) : List String :=
  (l ++ [v]).mergeSort (fun a b => decide (a ≤ b))

/-- The registry with a version in the list of a mode, and the next
generation. -/
def Registry.place (r : Registry) (mode : RegistryMode) (v : String) : Registry :=
  match mode with
  | .inactive => { r with generation := r.generation + 1 }
  | .shadow => { r with generation := r.generation + 1, shadow := sortedInsert v r.shadow }
  | .probe => { r with generation := r.generation + 1, probe := sortedInsert v r.probe }
  | .active => { r with generation := r.generation + 1, active := sortedInsert v r.active }

namespace AlphaDb

/-- **`register`**: a version is written once. -/
def register (db : AlphaDb) (cfg : AlphaConfig) (definition : AlphaDefinition) : AlphaDb :=
  if (db.get (.version (cfg.versionId definition))).isSome then db
  else db.append (.version (cfg.versionId definition)) (.dsl definition)

/-- The checks of `_change` that depend on the mode, with the enrolment an
enrolment writes. A catalog version passes only towards `inactive`. -/
def authorize (db : AlphaDb) (cfg : AlphaConfig) (registry : Registry)
    (version : VersionDocument) (versionId : String) (mode : RegistryMode)
    (days : Option ℤ) (renew : Bool) (actor : String) (now clock : Time) :
    Except String AlphaDb :=
  match mode, version with
  | .probe, .dsl definition =>
    db.authorizeProbe cfg registry definition days renew actor now
  | .active, .dsl definition => do
    db.authorizeActive cfg registry definition versionId now clock
    .ok db
  | _, _ => .ok db

/-- **`_change`**: the new generation, or the refusal. -/
def change (db : AlphaDb) (cfg : AlphaConfig) (versionId actor : String)
    (expectedGeneration : ℕ) (mode : RegistryMode) (days : Option ℤ) (renew : Bool)
    (now clock : Time) : Except String (AlphaDb × ℕ) :=
  match db.get (.version versionId) with
  | none => .error "Unknown alpha version"
  | some version => do
    refuse (version.isCatalog && mode != .inactive)
      "Catalog alphas run only as paper probes; enrol them with `alpha apriori-probe`"
    let registry := db.registry
    refuse (registry.generation != expectedGeneration)
      "Registry changed; refresh generation before retrying"
    let authorized ← db.authorize cfg registry version versionId mode days renew actor now clock
    let placed := (authorized.supersede registry version.alphaId).place mode versionId
    .ok (authorized.append .registry placed, placed.generation)

/-- **`promote`.** -/
def promote (db : AlphaDb) (cfg : AlphaConfig) (versionId actor : String)
    (expectedGeneration : ℕ) (now clock : Time) : Except String (AlphaDb × ℕ) :=
  db.change cfg versionId actor expectedGeneration .active none false now clock

/-- **`set_shadow`.** -/
def setShadow (db : AlphaDb) (cfg : AlphaConfig) (versionId actor : String)
    (expectedGeneration : ℕ) (now clock : Time) : Except String (AlphaDb × ℕ) :=
  db.change cfg versionId actor expectedGeneration .shadow none false now clock

/-- **`demote`.** -/
def demote (db : AlphaDb) (cfg : AlphaConfig) (versionId actor : String)
    (expectedGeneration : ℕ) (now clock : Time) : Except String (AlphaDb × ℕ) :=
  db.change cfg versionId actor expectedGeneration .inactive none false now clock

/-- **`enrol_probe`.** -/
def enrolProbe (db : AlphaDb) (cfg : AlphaConfig) (versionId actor : String)
    (expectedGeneration : ℕ) (days : Option ℤ) (renew : Bool) (now clock : Time) :
    Except String (AlphaDb × ℕ) :=
  db.change cfg versionId actor expectedGeneration .probe days renew now clock

/-- **`catalog_version_id`.** -/
def catalogVersionId (d : CatalogDefinition) : String :=
  let version := d.entryVersion
  "apriori:" ++ d.entryId ++ s!":v{version}:" ++ d.leg.toLower ++ ":"
    ++ String.ofList (d.entrySha256.toList.take 16)

/-- The label of a catalog probe. -/
def catalogLabel (d : CatalogDefinition) : String :=
  let version := d.entryVersion
  d.entryId ++ s!" v{version} " ++ d.leg ++ " (any liquid reporter)"

/-- The database with the version of a catalog definition recorded. -/
def recordCatalog (db : AlphaDb) (definition : CatalogDefinition) : AlphaDb :=
  if (db.get (.version definition.versionId)).isSome then db
  else db.append (.version definition.versionId) (.catalog definition)

/-- **`enrol_catalog_probe`.** -/
def enrolCatalogProbe (db : AlphaDb) (cfg : AlphaConfig) (definition : CatalogDefinition)
    (actor : String) (expectedGeneration : ℕ) (days : Option ℤ) (renew : Bool) (now : Time) :
    Except String (AlphaDb × ℕ) := do
  let versionId := definition.versionId
  refuse (definition.leg != "LONG")
    ("The live path trades only LONG; leg '" ++ definition.leg ++ "' is refused")
  refuse (versionId != catalogVersionId definition)
    "Catalog version ID differs from its entry identity"
  refuse (!isPaperScope cfg.scope) "Paper probes run only on the Alpaca paper account scope"
  refuse ((db.get (.version versionId)).any (fun d => d != .catalog definition))
    "Catalog version evidence differs; a changed entry or study is a new version"
  let registry := db.registry
  refuse (registry.generation != expectedGeneration)
    "Registry changed; refresh generation before retrying"
  refuse (registry.active.contains versionId || registry.shadow.contains versionId)
    "Catalog alphas run only as paper probes"
  let enrolled ← (db.recordCatalog definition).recordProbeEnrolment cfg registry versionId
    definition.alphaId (catalogLabel definition) (fun _ => none)
    (.study definition.studyResultSha256 definition.studyMeanR) days renew actor now
  let placed := (enrolled.supersede registry definition.alphaId).place .probe versionId
  .ok (enrolled.append .registry placed, placed.generation)

/-- The notice of a retirement. -/
def retirementNotice (db : AlphaDb) (versionId reason : String) : String :=
  "🧪 Paper probe " ++ (db.alphaIdOf? versionId).getD "" ++ " retired: " ++ reason
    ++ ". Open positions keep their broker-held protection."

/-- The key of a retirement: the enrolment it ends. -/
def retirementKey (db : AlphaDb) (cfg : AlphaConfig) (versionId : String) : String :=
  "alpha-probe/" ++ versionId ++ "/retired/"
    ++ ((db.get (.probe versionId)).map (fun e => cfg.isoformat e.enrolledAt)).getD "unknown"

/-- One turn of the sweep: a blocked probe leaves the list. -/
def sweepProbe (db₀ : AlphaDb) (cfg : AlphaConfig) (now : Time)
    (state : AlphaDb × List String × List String) (versionId : String) :
    AlphaDb × List String × List String :=
  match db₀.probeBlockReason cfg versionId now with
  | none => state
  | some reason =>
    (state.1.addNotice (db₀.retirementKey cfg versionId)
      (db₀.retirementNotice versionId reason),
      state.2.1.erase versionId, state.2.2 ++ [versionId])

/-- **`sweep_probes`**: the probes that were retired. -/
def sweepProbes (db : AlphaDb) (cfg : AlphaConfig) (now : Time) : AlphaDb × List String :=
  let registry := db.registry
  let swept := registry.probe.foldl (db.sweepProbe cfg now) (db, registry.probe, [])
  if swept.2.2.isEmpty then (swept.1, [])
  else (swept.1.append .registry
    { registry with generation := registry.generation + 1, probe := swept.2.1 }, swept.2.2)

/-- **`rebuild`.** -/
def rebuild (db : AlphaDb) : AlphaDb :=
  { db with store := db.store.rebuild }

end AlphaDb

/-! ## The snapshot -/

/-- **`RegistrySnapshot`**: what a scan installs. -/
structure RegistrySnapshot where
  generation : ℕ
  active : List AlphaDefinition
  shadow : List AlphaDefinition
  probe : List AlphaDefinition
  catalogProbes : List CatalogDefinition

namespace AlphaDb

/-- The records of some versions. -/
def documents (db : AlphaDb) (versions : List String) :
    Except String (List VersionDocument) :=
  versions.mapM (fun v => match db.get (.version v) with
    | none => .error "Registry references missing immutable version"
    | some d => .ok d)

/-- The formulas among some records, and the catalog legs. -/
def formulas (documents : List VersionDocument) : List AlphaDefinition :=
  documents.filterMap (fun d => match d with | .dsl d => some d | .catalog _ => none)

def catalogs (documents : List VersionDocument) : List CatalogDefinition :=
  documents.filterMap (fun d => match d with | .dsl _ => none | .catalog d => some d)

/-- **`snapshot`**: of the probes only the live ones are installed, and a
catalog version only as a probe. -/
def snapshot (db : AlphaDb) (cfg : AlphaConfig) (now : Time) :
    Except String RegistrySnapshot := do
  let registry := db.registry
  let active ← db.documents registry.active
  let shadow ← db.documents registry.shadow
  let probe ← db.documents (db.liveProbes cfg registry now)
  .ok ⟨registry.generation, formulas active, formulas shadow, formulas probe, catalogs probe⟩

end AlphaDb

/-! ## The system -/

/-- The keys the registry's own operations write. -/
def AlphaKey.ofRegistry : AlphaKey → Bool
  | .registry => true
  | .version _ => true
  | .probe _ => true
  | _ => false

/-- **One step of the registry**: an operation that commits, with any
arguments, an evidence record written by another operation, a trade that
closes, or the closed trades coming back in another order. A refused operation
is no step. -/
inductive AlphaStep (cfg : AlphaConfig) (db : AlphaDb) : AlphaDb → Prop where
  | register (definition : AlphaDefinition) : AlphaStep cfg db (db.register cfg definition)
  | promote {db' : AlphaDb} {g : ℕ} (versionId actor : String) (expected : ℕ)
      (now clock : Time) (h : db.promote cfg versionId actor expected now clock = .ok (db', g)) :
      AlphaStep cfg db db'
  | setShadow {db' : AlphaDb} {g : ℕ} (versionId actor : String) (expected : ℕ)
      (now clock : Time)
      (h : db.setShadow cfg versionId actor expected now clock = .ok (db', g)) :
      AlphaStep cfg db db'
  | demote {db' : AlphaDb} {g : ℕ} (versionId actor : String) (expected : ℕ)
      (now clock : Time) (h : db.demote cfg versionId actor expected now clock = .ok (db', g)) :
      AlphaStep cfg db db'
  | enrolProbe {db' : AlphaDb} {g : ℕ} (versionId actor : String) (expected : ℕ)
      (days : Option ℤ) (renew : Bool) (now clock : Time)
      (h : db.enrolProbe cfg versionId actor expected days renew now clock = .ok (db', g)) :
      AlphaStep cfg db db'
  | enrolCatalogProbe {db' : AlphaDb} {g : ℕ} (definition : CatalogDefinition)
      (actor : String) (expected : ℕ) (days : Option ℤ) (renew : Bool) (now : Time)
      (h : db.enrolCatalogProbe cfg definition actor expected days renew now = .ok (db', g)) :
      AlphaStep cfg db db'
  | sweepProbes (now : Time) : AlphaStep cfg db (db.sweepProbes cfg now).1
  | rebuild : AlphaStep cfg db db.rebuild
  | evidence (k : AlphaKey) (v : AlphaValue k) (hk : k.ofRegistry = false) :
      AlphaStep cfg db (db.append k v)
  | close (trade : ClosedTrade) (rows : List ClosedTrade)
      (h : rows.Perm (db.closes ++ [trade])) : AlphaStep cfg db { db with closes := rows }
  | reorder (rows : List ClosedTrade) (h : rows.Perm db.closes) :
      AlphaStep cfg db { db with closes := rows }

end AgenticTrader
