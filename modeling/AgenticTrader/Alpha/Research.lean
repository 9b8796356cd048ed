import AgenticTrader.Alpha.Registry
import AgenticTrader.Risk.Rules
import AgenticTrader.Library.Processes

/-!
# Research runs and their holdouts

The research side of `AlphaRepository` (`storage/alpha.py`): reserving a
budget, recording a run, excluding an interval that was observed elsewhere,
consuming the holdout of a run for one finalist, and recording the decision on
it. Each is one transaction under the lock of the alpha journal.

`AlphaPromotionService.qualify` (`research/alpha/promotion.py`) is not: it
reads the run, reads the finalist, consumes the holdout, evaluates it, and
records the decision, and any other process may act, or this one crash,
between any two of these. Raising leaves a process where a crash leaves it.

A comparison of an aware timestamp with a naive one raises, and so rolls the
transaction back. The statistics are exact numbers here.
-/

namespace AgenticTrader

/-! ## Symbols -/

/-- `symbol.strip().upper()`. -/
def AlphaConfig.normalized (cfg : AlphaConfig) (symbol : String) : String :=
  cfg.upper (strip symbol)

/-- `sorted(set(…))` of some texts. -/
def sortedSet (l : List String) : List String :=
  l.dedup.mergeSort (fun a b => decide (a ≤ b))

/-- **`AlphaDefinition.from_dict`**, which normalises the symbols: `from_dict`
upper-cases them, and `__post_init__` strips, upper-cases and sorts those that
are not blank. -/
def AlphaDefinition.fromDict (cfg : AlphaConfig) (d : AlphaDefinition) : AlphaDefinition :=
  { d with eligibleSymbols :=
      if d.symbols.isEmpty then none
      else some (sortedSet (((d.symbols.map cfg.upper).filter (fun s => strip s != "")).map
        cfg.normalized)) }

/-! ## Intervals -/

/-- **The test of `begin_holdout`** against one interval,
`start <= item.end and end >= item.start`; none where it raises. -/
def HoldoutInterval.overlaps? (startAt endAt : WireTime) (i : HoldoutInterval) : Option Bool :=
  match i.endAt.lt? startAt with
  | none => none
  | some true => some false
  | some false => (endAt.lt? i.startAt).map (fun b => !b)

/-- `any(…)` over the intervals, in order. -/
def anyOverlap? (startAt endAt : WireTime) : List HoldoutInterval → Option Bool
  | [] => some false
  | i :: l =>
    match i.overlaps? startAt endAt with
    | none => none
    | some true => some true
    | some false => anyOverlap? startAt endAt l

/-- `np.var(…, ddof=1)`. -/
def sampleVariance (xs : List ℚ) : ℚ :=
  let mean := xs.sum / xs.length
  (xs.map (fun x => (x - mean) ^ 2)).sum / (xs.length - 1)

/-- The versions a run evaluated. -/
def ResearchRun.evaluated (cfg : AlphaConfig) (run : ResearchRun) : List String :=
  run.trials.filterMap (fun t =>
    if t.status = "evaluated" then t.definition.map (fun d => cfg.versionId (d.fromDict cfg))
    else none)

namespace AlphaDb

/-- The intervals of a symbol that are no fresh holdout. -/
def intervals (db : AlphaDb) (symbol : String) : List HoldoutInterval :=
  (db.get (.holdout symbol)).getD []

/-- `family/all`'s trial count. -/
def trialCount (db : AlphaDb) : ℕ :=
  (db.get .familyAll).getD 0

/-! ## Transactions -/

/-- The trial count with a run's own trials: a reserved run was charged
before. -/
def chargedCount (db : AlphaDb) (runId : String) (run : ResearchRun) : Except String ℕ :=
  match db.get (.reservation runId) with
  | some reserved =>
    if reserved.trials < run.trialCount then
      .error "Research exceeded its reserved trial budget"
    else .ok db.trialCount
  | none => .ok (db.trialCount + run.trialCount)

/-- The variance family of a timeframe with a run's trials. -/
def familyWith (db : AlphaDb) (run : ResearchRun) : VarianceFamily :=
  let family := (db.get (.family run.timeframe)).getD ⟨0, []⟩
  ⟨family.trialCount + run.trialCount, family.sharpes ++ run.trials.filterMap (·.perBarSharpe)⟩

/-- **`record_run`**: a run is written once. -/
def recordRun (db : AlphaDb) (cfg : AlphaConfig) (runId : String) (run : ResearchRun) :
    Except String AlphaDb :=
  if run.policy ≠ cfg.validationPolicy then
    .error "Research run requires the current validation policy"
  else match db.get (.run runId) with
    | some existing =>
      if existing ≠ run then .error "Research run identity is immutable" else .ok db
    | none => do
      let count ← db.chargedCount runId run
      .ok (((db.append (.run runId) run).append .familyAll count).append
        (.family run.timeframe) (db.familyWith run))

/-- What an evaluation is told about the trials so far. -/
def consumption (cfg : AlphaConfig) (versionId symbol : String) (family : VarianceFamily)
    (count : ℕ) : Consumption where
  versionId := versionId
  symbol := symbol
  trialCount := count
  trialVariance :=
    if 1 < family.sharpes.length then some (sampleVariance family.sharpes)
    else if count = 1 then some 0 else none
  varianceObservations := family.sharpes.length
  returnTimeline := cfg.returnTimeline

/-- The check of a frozen interval against those that are spent. -/
def freshHoldout (db : AlphaDb) (symbol : String) (startAt endAt : WireTime) :
    Except String Unit :=
  match endAt.lt? startAt with
  | none => .error "TypeError"
  | some true => .error "Invalid holdout interval"
  | some false =>
    match anyOverlap? startAt endAt (db.intervals symbol) with
    | none => .error "TypeError"
    | some true => .error "Overlapping holdout already consumed; collect a new untouched period"
    | some false => .ok ()

/-- **`begin_holdout`**: the interval is written as spent, and then what its
evaluation is told. -/
def beginHoldout (db : AlphaDb) (cfg : AlphaConfig) (runId versionId : String) :
    Except String (AlphaDb × Consumption) :=
  match db.get (.run runId), db.get (.version versionId) with
  | some run, some _ => do
    refuse (run.policy != cfg.validationPolicy)
      "Research policy changed; fresh discovery required before consuming holdout"
    refuse (!(run.evaluated cfg).contains versionId) "Finalist is outside the frozen research run"
    match run.holdoutStart with
    | none => .error "Frozen holdout timestamps required"
    | some startAt => do
      db.freshHoldout run.symbol startAt run.endAt
      let spent := db.append (.holdout run.symbol)
        (db.intervals run.symbol ++ [⟨startAt, run.endAt, .consumed runId versionId⟩])
      match db.get (.family run.timeframe), db.get .familyAll with
      | some family, some count =>
        let told := consumption cfg versionId run.symbol family count
        .ok (spent.append (.consumption runId) told, told)
      | _, _ => .error "TypeError"
  | _, _ => .error "Unknown run/version"

/-- **`record_qualification`**: one decision for the finalist the holdout was
consumed for. -/
def recordQualification (db : AlphaDb) (runId versionId : String) (decision : Qualification)
    (now : Time) : Except String AlphaDb := do
  refuse (!((db.get (.consumption runId)).any (fun c => c.versionId == versionId)))
    "Holdout must be consumed for this frozen finalist"
  refuse (db.get (.qualificationRun runId versionId)).isSome
    "Qualification decision is immutable"
  let payload : Qualification :=
    { decision with runId := runId, versionId := versionId, qualifiedAt := now }
  .ok ((db.append (.qualificationRun runId versionId) payload).append
    (.qualification versionId) payload)

/-- The interval of an external observation. -/
def observedInterval (o : ExternalObservation) : HoldoutInterval :=
  ⟨.aware o.startAt, .aware o.endAt, .observed o⟩

/-- An observation that is new: its interval is filed, and its trials are
charged. -/
def observe (db : AlphaDb) (o : ExternalObservation) : AlphaDb :=
  ((db.append (.externalObservation o) ()).append (.holdout o.symbol)
    (db.intervals o.symbol ++ [observedInterval o])).append .familyAll (db.trialCount + o.trials)

/-- **`exclude_observed_interval`**, with the UTC offsets of the two times. -/
def excludeObservedInterval (db : AlphaDb) (cfg : AlphaConfig) (symbol : String)
    (startAt endAt : WireTime) (startOffset endOffset trials : ℤ) (reason : String) :
    Except String AlphaDb := do
  refuse (strip symbol == "" || strip reason == "" || decide (trials < 0))
    "Explicit symbol, reason and nonnegative trial count required"
  match startAt, endAt with
  | .aware a, .aware b => do
    refuse (decide (b < a)) "Ordered timezone-aware observation interval required"
    let o : ExternalObservation :=
      ⟨cfg.normalized symbol, a, startOffset, b, endOffset, trials.toNat, reason⟩
    .ok (if (db.get (.externalObservation o)).isSome then db else db.observe o)
  | _, _ => .error "Ordered timezone-aware observation interval required"

/-- **`reserve_run`**: the budget is charged before any work. -/
def reserveRun (db : AlphaDb) (runId symbol timeframe : String) (trials : ℤ) :
    Except String AlphaDb := do
  refuse (decide (trials < 1)) "Positive integer research budget required"
  let payload : ResearchReservation := ⟨symbol, timeframe, trials.toNat⟩
  match db.get (.reservation runId) with
  | some existing =>
    if existing ≠ payload then .error "Reserved research budget is immutable" else .ok db
  | none => .ok ((db.append (.reservation runId) payload).append .familyAll
      (db.trialCount + payload.trials))

end AlphaDb

/-! ## The processes -/

/-- The keys the research transactions write. -/
def AlphaKey.ofResearch : AlphaKey → Bool
  | .version _ | .qualification _ | .qualificationRun _ _ | .run _ | .reservation _ | .familyAll
  | .family _ | .holdout _ | .consumption _ | .externalObservation _ => true
  | _ => false

/-- **One transaction on the research records**, over every argument, or a
write of another operation at another key. -/
inductive ResearchTransaction (cfg : AlphaConfig) (db : AlphaDb) : AlphaDb → Prop where
  | register (definition : AlphaDefinition) :
      ResearchTransaction cfg db (db.register cfg definition)
  | recordCatalog (definition : CatalogDefinition) :
      ResearchTransaction cfg db (db.recordCatalog definition)
  | recordRun {db' : AlphaDb} (runId : String) (run : ResearchRun)
      (h : db.recordRun cfg runId run = .ok db') : ResearchTransaction cfg db db'
  | excludeObservedInterval {db' : AlphaDb} (symbol : String) (startAt endAt : WireTime)
      (startOffset endOffset trials : ℤ) (reason : String)
      (h : db.excludeObservedInterval cfg symbol startAt endAt startOffset endOffset trials
        reason = .ok db') : ResearchTransaction cfg db db'
  | reserveRun {db' : AlphaDb} (runId symbol timeframe : String) (trials : ℤ)
      (h : db.reserveRun runId symbol timeframe trials = .ok db') :
      ResearchTransaction cfg db db'
  | rebuild : ResearchTransaction cfg db db.rebuild
  | other (k : AlphaKey) (v : AlphaValue k) (hk : k.ofResearch = false) :
      ResearchTransaction cfg db (db.append k v)

/-- **Where a process is in `qualify`.** -/
inductive Qualifier where
  | idle
  /-- The run was read, and the bars are those it was frozen on. -/
  | loaded (runId versionId : String) (run : ResearchRun)
  /-- The finalist was read, and its universe is the run's symbol. -/
  | checked (runId versionId : String) (run : ResearchRun)
  /-- The holdout was consumed. -/
  | consumed (runId versionId : String) (family : Consumption)
  /-- The holdout was evaluated. -/
  | assessed (runId versionId : String) (decision : Qualification)

/-- **The holdout of a run was read** for a finalist. -/
inductive HoldoutMark where
  | read (runId versionId : String)
  deriving DecidableEq

/-- **One action of a process**: a transaction of another operation, or the
next step of `qualify`. What the evaluation decides is left open. -/
inductive ResearchAct (cfg : AlphaConfig) :
    AlphaDb → List HoldoutMark → Qualifier → List HoldoutMark → AlphaDb → Qualifier → Prop where
  | transaction {db db' : AlphaDb} {t : List HoldoutMark}
      (h : ResearchTransaction cfg db db') : ResearchAct cfg db t .idle [] db' .idle
  | load {db : AlphaDb} {t : List HoldoutMark} {run : ResearchRun}
      (runId versionId digest : String) (h : db.get (.run runId) = some run)
      (hd : digest = run.contentHash) :
      ResearchAct cfg db t .idle [] db (.loaded runId versionId run)
  | check {db : AlphaDb} {t : List HoldoutMark} {runId versionId : String} {run : ResearchRun}
      {definition : AlphaDefinition} (h : db.get (.version versionId) = some (.dsl definition))
      (hc : definition.clock = none)
      (hs : (definition.fromDict cfg).eligibleSymbols = some [run.symbol]) :
      ResearchAct cfg db t (.loaded runId versionId run) [] db (.checked runId versionId run)
  | begin {db db' : AlphaDb} {t : List HoldoutMark} {runId versionId : String}
      {run : ResearchRun} {family : Consumption}
      (h : db.beginHoldout cfg runId versionId = .ok (db', family)) :
      ResearchAct cfg db t (.checked runId versionId run) [] db'
        (.consumed runId versionId family)
  | assess {db : AlphaDb} {t : List HoldoutMark} {runId versionId : String}
      {family : Consumption} (decision : Qualification) :
      ResearchAct cfg db t (.consumed runId versionId family) [.read runId versionId] db
        (.assessed runId versionId decision)
  | record {db db' : AlphaDb} {t : List HoldoutMark} {runId versionId : String}
      {decision : Qualification} (now : Time)
      (h : db.recordQualification runId versionId decision now = .ok db') :
      ResearchAct cfg db t (.assessed runId versionId decision) [] db' .idle

/-- **The research program.** -/
def researchProgram (cfg : AlphaConfig) : Program AlphaDb Qualifier HoldoutMark where
  store := .empty
  idle := .idle
  act := ResearchAct cfg

end AgenticTrader
