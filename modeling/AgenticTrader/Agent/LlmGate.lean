import AgenticTrader.Agent.Evaluator
import AgenticTrader.Library.Extended

/-!
# The LLM gate

A reply of the LLM is untrusted text. `classify_gate_reply` (`agent/llm_gate.py`) makes of it
an approval, a veto or an error; only a JSON object whose raw `approved` is the literal
`true`, and which validates, approves. Its levels are then clamped, checked and, where the
stop is wider than the deterministic one, sized again (`evaluate_candidate` and
`_final_bracket`, `agent/evaluator.py`); on any failure the deterministic bracket stands.

How a text is read as JSON, and how a validated field is coerced, are `ReplyReader`: nothing
is used of it but that it is a function. A level may be any float.
-/

namespace AgenticTrader

open Checks

/-! ## Replies -/

/-- **How a reply is read**: the text without its fence as JSON, or the name of the error;
and the lax coercions of a validated field. -/
structure ReplyReader where
  loads : String → Except String Json
  bool : Json → Option Bool
  float : Json → Option (Extended ℚ)

/-- **The fields of a reply** that the evaluator reads. -/
structure ReplyFields where
  rejectionReason : Option String
  thesisSummary : Option String
  stopLoss : Option (Extended ℚ)
  takeProfit : Option (Extended ℚ)

/-- **`GateReply`.** -/
inductive GateReply where
  | error (errorType : String)
  | approve (fields : ReplyFields)
  | veto (fields : ReplyFields) (malformed : Bool)

/-- `payload.get(key)` of an object. -/
def payloadGet (payload : List (String × Json)) (key : String) : Option Json :=
  (payload.find? (fun field => field.1 = key)).map Prod.snd

/-- A field that is a string. -/
def stringField : Json → Option String
  | .str text => some text
  | _ => none

/-- The literal `true` or `false`. -/
def literalBool : Json → Option Bool
  | .bool b => some b
  | _ => none

/-- A field that may be missing, and is read where it is there. -/
def optionalField {α : Type} (read : Json → Option α) (value : Option Json) : Option (Option α) :=
  match value with
  | none => some none
  | some value => (read value).map some

/-- `rejection_reason`: a string, or `null`. -/
def nullableString : Json → Option (Option String)
  | .null => some none
  | .str text => some (some text)
  | _ => none

/-- A level that is there is a number. -/
def levelField (reader : ReplyReader) : Json → Option (Extended ℚ)
  | .null => none
  | value => reader.float value

/-- **`GateReplyFields.model_validate`.** -/
def validateReply (reader : ReplyReader) (payload : List (String × Json)) : Option ReplyFields := do
  let _ ← (payloadGet payload "approved").bind reader.bool
  let reason ← optionalField nullableString (payloadGet payload "rejection_reason")
  let thesis ← (payloadGet payload "thesis_summary").bind stringField
  let stop ← optionalField (levelField reader) (payloadGet payload "stop_loss")
  let target ← optionalField (levelField reader) (payloadGet payload "take_profit")
  some ⟨reason.join, some thesis, stop, target⟩

/-- **`_veto_reason`**: the reply's reason when it is not blank. -/
def vetoReason (payload : List (String × Json)) (fallback : String) : String :=
  match (payloadGet payload "rejection_reason").bind stringField with
  | some reason => if strip reason ≠ "" then reason else fallback
  | none => fallback

/-- **`_malformed_veto`**: its levels are not read. -/
def malformedVeto (payload : List (String × Json)) : GateReply :=
  .veto ⟨some (vetoReason payload "malformed veto"),
    (payloadGet payload "thesis_summary").bind stringField, none, none⟩ true

/-- **`classify_gate_reply`** of a call that returned. -/
def classifyGateReply (reader : ReplyReader) (content : Option String) : GateReply :=
  match reader.loads (strip (content.getD "")) with
  | .error errorType => .error errorType
  | .ok (.object payload) =>
    let approved := (payloadGet payload "approved").bind literalBool
    match validateReply reader payload with
    | none => if approved = some true then .error "ValidationError" else malformedVeto payload
    | some fields =>
      match approved with
      | some true => .approve fields
      | some false =>
        .veto { fields with
          rejectionReason := some (vetoReason payload "veto without a reason") } false
      | none => malformedVeto payload
  | .ok _ => .error "TypeError"

/-! ## The proposal -/

/-- **What is left of the reply's levels** after the clamps, with their distances and their
ratio. -/
structure Proposal where
  stop : Extended ℚ
  target : Extended ℚ
  stopDistance : Extended ℚ
  targetDistance : Extended ℚ
  ratio : Extended ℚ

/-- A ratio of distances, rounded, and what stands for it without a risk. -/
def roundedRatio (target stop : Extended ℚ) (otherwise : ℚ) : Extended ℚ :=
  if stop.pos then (target.div stop).map round2 else .finite otherwise

/-- `round(target / stop, 2)`, which may divide by zero. -/
def plainRatio (target stop : ℚ) : Except String ℚ :=
  if stop = 0 then .error "ZeroDivisionError" else .ok (round2 (target / stop))

/-- What the card shows of the sizes. -/
structure CardSizes where
  quantity : ℚ
  tiers : List SizingTier
  gatingReasons : List String
  notional : ℚ
  leverage : ℚ

namespace EvaluatorDesk

variable (desk : EvaluatorDesk) (input : ScanInput) (card : DeterministicCard)

/-- The deterministic bracket, where it replaces a proposal. -/
def deterministicProposal : Except String Proposal := do
  let rr ← plainRatio card.levels.targetDistance card.levels.stopDistance
  .ok ⟨.finite card.levels.stopLoss, .finite card.levels.takeProfit,
    .finite card.levels.stopDistance, .finite card.levels.targetDistance, .finite rr⟩

/-- The stop of a reply; one that is too close reverts to the deterministic one. -/
def clampStop (proposed : Option (Extended ℚ)) : Extended ℚ × Extended ℚ :=
  let stop := proposed.getD (.finite card.levels.stopLoss)
  let distance := stop.distance input.candidate.entry
  if distance.lt (.finite (desk.minStopDistance input.candidate)) then
    (.finite card.levels.stopLoss, .finite card.levels.stopDistance)
  else (stop, distance)

/-- **The clamps**: a target below the required ratio reverts to the deterministic one, and an
alpha policy keeps its bracket. -/
def propose (fields : ReplyFields) : Except String Proposal :=
  let (stop, stopDistance) := desk.clampStop input card fields.stopLoss
  let target := fields.takeProfit.getD (.finite card.levels.takeProfit)
  let targetDistance := target.distance input.candidate.entry
  let rr := roundedRatio targetDistance stopDistance 2
  if input.candidate.alphaPolicy.isSome then deterministicProposal card
  else if rr.lt (.finite (desk.requiredRr input)) then
    let deterministic := Extended.finite card.levels.targetDistance
    .ok ⟨stop, .finite card.levels.takeProfit, stopDistance, deterministic,
      roundedRatio deterministic stopDistance 0⟩
  else .ok ⟨stop, target, stopDistance, targetDistance, rr⟩

/-- The constructor of an intent on levels that may not be finite. -/
def finalIntent (stop target : Extended ℚ) : Except String EntryIntent :=
  match stop, target with
  | .finite stop, .finite target =>
    EntryIntent.make input.candidate.contract input.candidate.direction input.candidate.assetClass
      card.levels.quantity input.candidate.entry stop target (desk.multiplier input.candidate) none
  | .finite _, _ => .error (EntryIntent.notPositive "target")
  | _, _ => .error (EntryIntent.notPositive "stop")

/-- `dataclasses.replace(final, quantity=...)`. -/
def resizedIntent (final : EntryIntent) (quantity : ℚ) : Except String EntryIntent :=
  EntryIntent.make final.symbol final.direction final.assetClass quantity final.entry final.stop
    final.target final.multiplier final.currentPrice

/-- The largest tier passes the risk of one trade, the cap of the card and the stop risk of
the book. -/
def largestPasses (largest : EntryIntent) : Bool :=
  (perTradeRisk largest card.budget).isNone
    && !((desk.probeRiskCap input.candidate).any (fun cap => decide (cap < largest.riskDollars)))
    && (aggregateStopRisk largest input.book card.budget desk.limits).isNone

/-- **`_final_bracket`**: nothing where the bracket does not stand, else the sizing it stands
on, the deterministic one where there is none. -/
def finalBracket (stop target : Extended ℚ) : Except String (Option (Option PositionSizing)) :=
  match desk.finalIntent input card stop target with
  | .error _ => .ok none
  | .ok final =>
    if (rewardRisk desk.riskText final (desk.requiredRr input)).isSome then .ok none
    else if |final.entry - final.stop| ≤ |final.entry - card.levels.stopLoss| then .ok (some none)
    else do
      let resized ← desk.calculateDynamicSizing (desk.sizingRequest input.candidate input.account
        final.riskDistance final.rewardDistance)
      if resized.defaultTier.quantity ≤ 0 then .ok none
      else do
        let largest ← resizedIntent final resized.maxTier.quantity
        if desk.largestPasses input card largest then .ok (some (some resized)) else .ok none

/-- The deterministic sizes. -/
def deterministicSizes : CardSizes :=
  ⟨card.levels.quantity, card.levels.sizingTiers, card.levels.gatingReasons,
    card.levels.notionalValue, desk.leverage card.levels.notionalValue⟩

/-- The sizes of a wider stop. -/
def resizedSizes (resized : PositionSizing) : CardSizes :=
  ⟨resized.defaultTier.quantity, resized.tiers, resized.gatingReasons,
    resized.defaultTier.notionalDollars, desk.leverage resized.defaultTier.notionalDollars⟩

/-- **The bracket and the sizes of the card.** -/
def settle (proposal : Proposal) : Except String (Proposal × CardSizes) :=
  if proposal.stop = .finite card.levels.stopLoss ∧ proposal.target = .finite card.levels.takeProfit
  then .ok (proposal, desk.deterministicSizes card)
  else do
    match ← (desk.finalBracket input card proposal.stop proposal.target).mapError
        (fun _ => "ValueError") with
    | none => do
      let restored ← deterministicProposal card
      .ok (restored, desk.deterministicSizes card)
    | some none => .ok (proposal, desk.deterministicSizes card)
    | some (some resized) => .ok (proposal, desk.resizedSizes resized)

/-! ## The verdict -/

/-- The verdict decides a native card, and comments on a catalog card. -/
def applied : Bool := input.candidate.catalogEvent.isNone

/-- The recorded verdict. -/
def verdict (approved : Bool) (reason : Option String) (stop target : Option ℚ)
    (model error : Option String) (malformed : Bool) : Json :=
  let text := fun (value : Option String) => (value.map Json.str).getD .null
  let price := fun (value : Option ℚ) =>
    (value.map (fun q => Json.number (desk.plain q))).getD .null
  .object [("approved", .bool approved), ("rejection_reason", text reason),
    ("stop_loss", price stop), ("take_profit", price target),
    ("applied", .bool (applied input)), ("model", text model),
    ("prompt_sha256", .str desk.promptSha256), ("error", text error),
    ("malformed", .bool malformed)]

/-- **A result on the deterministic card**: a native card is not approved, a catalog card is. -/
def onDeterministicBracket (reason : Option String) (thesis : String) (llmVerdict : Json) :
    Except String TradeEvaluation :=
  let base := desk.cardOf input card (!applied input)
    (if applied input then reason else none) thesis
  TradeEvaluation.withRatio
    { base with
      sizingTiers := some card.levels.sizingTiers
      gatingReasons := some card.levels.gatingReasons
      sessionType := (notes input).sessionType
      llmVerdict := some llmVerdict }
    (cardRatio card.levels)

/-- **An error of the gate**: a native card is withheld, a catalog card is labelled. -/
def unavailable (errorType : String) : Except String TradeEvaluation :=
  let label := if applied input then s!"LLM unavailable ({errorType})"
    else s!"LLM commentary unavailable ({errorType})"
  desk.onDeterministicBracket input card (some label) label
    (desk.verdict input false none none none none (some errorType) false)

/-- The thesis of a reply. -/
def replyThesis (fields : ReplyFields) : String :=
  let thesis := fields.thesisSummary.getD (fields.rejectionReason.getD "")
  if applied input then thesis else strip s!"LLM commentary (not a gate): {thesis}"

/-- **The card of a reply**, on the bracket and the sizes that were settled. Its numbers are
finite: what is not finite was not kept. -/
def replyCard (fields : ReplyFields) (approved malformed : Bool) (model : Option String)
    (proposal : Proposal) (sizes : CardSizes) : Except String TradeEvaluation :=
  match proposal.stop, proposal.target, proposal.stopDistance, proposal.targetDistance,
      proposal.ratio with
  | .finite stop, .finite target, .finite stopDistance, .finite targetDistance, .finite rr =>
    let multiplier := desk.multiplier input.candidate
    let base := desk.cardOf input card (approved || !applied input)
      (if applied input then fields.rejectionReason else none) (replyThesis input fields)
    TradeEvaluation.withRatio
      { base with
        stopLoss := stop
        takeProfit := target
        stopDistancePoints := round2 stopDistance
        targetDistancePoints := round2 targetDistance
        riskDollars := round2 (stopDistance * multiplier * sizes.quantity)
        rewardDollars := round2 (targetDistance * multiplier * sizes.quantity)
        notionalValue := sizes.notional
        effectiveLeverage := sizes.leverage
        quantity := sizes.quantity
        sizingTiers := some sizes.tiers
        gatingReasons := some sizes.gatingReasons
        sessionType := (notes input).sessionType
        llmVerdict := some (desk.verdict input approved fields.rejectionReason (some stop)
          (some target) model none malformed) }
      rr
  | _, _, _, _, _ => .error ratioTooSmall

/-- **The verdict of a reply applied to the card**, or the name of the error. -/
def applyReply (fields : ReplyFields) (approved malformed : Bool) (model : Option String) :
    Except String TradeEvaluation := do
  let proposal ← desk.propose input card fields
  let (proposal, sizes) ← desk.settle input card proposal
  (desk.replyCard input card fields approved malformed model proposal sizes).mapError
    (fun _ => "ValidationError")

end EvaluatorDesk

/-! ## The evaluation -/

/-- **What comes of the LLM**: it was not called, the call raised, or it replied. -/
inductive LlmOutcome where
  | skipped (reason : String)
  | keyMissing
  | raised (errorType : String)
  | replied (content model : Option String)

namespace EvaluatorDesk

variable (desk : EvaluatorDesk) (input : ScanInput)

/-- **The LLM gate.** An approval that cannot be applied is an error; a veto stands on the
deterministic bracket. -/
def llmGate (reader : ReplyReader) (card : DeterministicCard) (outcome : LlmOutcome) :
    Except String TradeEvaluation :=
  match outcome with
  | .skipped reason => desk.unavailable input card reason
  | .keyMissing => desk.unavailable input card "LLMKeyMissing"
  | .raised errorType => desk.unavailable input card errorType
  | .replied content model =>
    match classifyGateReply reader content with
    | .error errorType => desk.unavailable input card errorType
    | .approve fields =>
      match desk.applyReply input card fields true false model with
      | .ok e => .ok e
      | .error errorType => desk.unavailable input card errorType
    | .veto fields malformed =>
      match desk.applyReply input card fields false malformed model with
      | .ok e => .ok e
      | .error _ =>
        desk.onDeterministicBracket input card fields.rejectionReason (replyThesis input fields)
          (desk.verdict input false fields.rejectionReason (some card.levels.stopLoss)
            (some card.levels.takeProfit) model none malformed)

/-- **`evaluate_candidate`**, without the LLM where there is no outcome. -/
def evaluateCandidate (reader : ReplyReader) (llm : Option LlmOutcome) :
    Except String TradeEvaluation := do
  match ← desk.assess input with
  | .refused e => .ok e
  | .passed card =>
    match llm with
    | none => desk.quantitativeCard input card
    | some outcome => desk.llmGate input reader card outcome

end EvaluatorDesk

end AgenticTrader
