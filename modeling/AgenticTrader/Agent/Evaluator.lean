import AgenticTrader.Agent.Levels

/-!
# The deterministic part of an evaluation

`evaluate_candidate` (`agent/evaluator.py`) sizes a candidate, runs the gates in a fixed
order, and reports the first refusal; a candidate that nothing refuses becomes the
deterministic card. What the gates ask of their providers (the correlation of returns, the
calendars, the corporate actions, the filings, the session) is an answer here.

The result cannot carry a ratio below two. A refusal carries a flat bracket with a ratio of
two, except that of the sizing, which carries the ratio of its distances; and a card carries
the ratio of its distances, rounded.
-/

namespace AgenticTrader

open Checks

/-! ## What an evaluation reads -/

/-- **`RegimeSnapshot`**, as far as an evaluation reads it; the macro stress has a level and
says whether it lets breakouts pass. The ratio is the default of two or a configured one, which
is two or more. -/
structure RegimeSnapshot where
  vixRegime : String
  vix : ℚ
  breakoutAllowed : Bool
  minRrThreshold : ℚ
  riskMultiplier : ℚ
  macroStress : Option (String × Bool)
  two_le_minRr : 2 ≤ minRrThreshold

/-- A refusal by a rule of the scan alone, under its value. -/
structure ScanRejection where
  rule : String
  reason : String

/-- **The answer of the calendar**: what `lockout_rejection` says, the event of the lockout
and the note of the card. -/
structure CalendarAnswer where
  rejection : Option ScanRejection
  verified : Bool
  lockoutTitle : Option String
  note : Option String

/-- The answer of the earnings calendar. -/
structure EarningsAnswer where
  blackoutReason : Option String
  note : String

/-- The answer of a capture of corporate actions or of filings: the block of the card, and
what the rule says. -/
structure EvidenceAnswer where
  block : Json
  rejection : Option ScanRejection

/-- The answer of the session. -/
structure SessionAnswer where
  sessionType : String
  isOpen : Bool
  isRth : Bool
  details : String

/-- **The answers of the providers.** One that is not there was not asked: it is not
configured, or its gate is off. -/
structure ScanAnswers where
  correlation : Option (String → String → Option ℚ)
  calendar : CalendarAnswer
  earnings : Option EarningsAnswer
  corporateActions : Option EvidenceAnswer
  filings : Option EvidenceAnswer
  session : Option SessionAnswer
  newsContext : Option Json

/-- **What an evaluation reads of the configuration.** -/
structure EvaluatorDesk extends LevelDesk where
  riskText : RiskText
  plain : ℚ → String
  maxCorrelationThreshold : ℚ
  macroCalendarClosed : Bool
  enforceCorporateActions : Bool
  enforceFilings : Bool
  enforceRth : Bool
  promptSha256 : String

/-- **One candidate of a scan**, with the state it is evaluated in. -/
structure ScanInput where
  candidate : ScreenerCandidate
  regime : RegimeSnapshot
  openNotional : ℚ
  drawdownPct : ℚ
  equity : Option ℚ
  positions : List Signal
  answers : ScanAnswers

/-- The account, under the regime. -/
def ScanInput.account (input : ScanInput) : SizingAccount :=
  ⟨input.openNotional, input.drawdownPct, input.equity, input.regime.riskMultiplier⟩

/-- The book of the scan. -/
def ScanInput.book (input : ScanInput) : Book := Book.fromSignalRows input.positions false

/-- The value of a rule. -/
def RiskRule.value : RiskRule → String
  | .exposureUnknown => "exposure_unknown"
  | .drawdownHalt => "drawdown_halt"
  | .perTradeRisk => "per_trade_risk"
  | .perTradeNotional => "per_trade_notional"
  | .quantityCap => "quantity_cap"
  | .rewardRisk => "reward_risk"
  | .aggregateStopRisk => "aggregate_stop_risk"
  | .concurrentPositions => "concurrent_positions"
  | .sameSymbol => "same_symbol"
  | .portfolioNotional => "portfolio_notional"
  | .assetClassNotional => "asset_class_notional"
  | .correlationGroup => "correlation_group"

/-! ## Refusals -/

/-- **What a gate refuses with**, beside the shape all refusals share. -/
structure Refusal where
  reason : String
  rule : Option String
  thesis : String
  macroClearance : Bool
  sessionType : String
  earningsNote : Option String
  corporateActions : Option Json
  filings : Option Json

/-- A refusal without notes. -/
def Refusal.plain (reason : String) (rule : Option String) (thesis : String) : Refusal :=
  ⟨reason, rule, thesis, true, "RTH", none, none, none⟩

/-- **The notes of a card**, attached deterministically. -/
structure CardNotes where
  earningsNote : Option String
  macroNote : Option String
  corporateActions : Option Json
  filings : Option Json
  newsContext : Option Json
  sessionType : String

/-- **`entry_session_open`.** -/
def entrySessionOpen (isOpen isRth enforceRth : Bool) (detail : String) : Option ScanRejection :=
  if !isOpen then
    let suffix := if detail ≠ "" then ": " ++ detail else ""
    some ⟨"session_closed", s!"Market session closed{suffix}."⟩
  else if enforceRth && !isRth then some ⟨"session_not_rth", "Outside regular trading hours."⟩
  else none

/-- **`regime_breakout`.** -/
def regimeBreakout (text : RiskText) (strategy : String) (breakoutAllowed : Bool) :
    Option ScanRejection :=
  if text.upper strategy = "SQUEEZE_BREAKOUT" ∧ breakoutAllowed = false then
    some ⟨"regime_breakout", "Volatility/macro policy suppresses breakout entries."⟩
  else none

namespace EvaluatorDesk

variable (desk : EvaluatorDesk) (input : ScanInput)

/-- The ratio that every layer asks for. -/
def requiredRr : ℚ := requiredRewardRisk desk.limits (some input.regime.minRrThreshold)

theorem two_le_requiredRr : 2 ≤ desk.requiredRr input :=
  le_max_of_le_right input.regime.two_le_minRr

/-! ## Gates -/

/-- The shared rules of the book; the first rejection counts. -/
def bookGate (intent : EntryIntent) (budget : RiskBudget) : Option Refusal :=
  (bookGates desk.riskText intent input.book budget desk.limits).head?.map (fun r =>
    .plain r.reason (some r.rule.value) ("Rejected by risk manager: " ++ r.reason))

/-- The ticker of a contract, itself where it is not configured. -/
def ticker (contract : String) : String :=
  match desk.contracts contract with
  | some info => info.ticker
  | none => contract

/-- One position of the check of return correlation. -/
def correlationWith (correlate : String → String → Option ℚ) (row : Signal) : Option Refusal :=
  let c := input.candidate
  if row.direction ≠ c.direction then none
  else
    match correlate (desk.ticker c.contract) (desk.ticker row.contract) with
    | none => none
    | some corr =>
      let shown := desk.riskText.fixed2 corr
      let threshold := desk.plain desk.maxCorrelationThreshold
      let contract := c.contract
      let other := row.contract
      let direction := c.direction.text
      if desk.maxCorrelationThreshold ≤ corr then
        some (.plain (s!"Statistical correlation limit exceeded: {contract} has high return "
            ++ s!"correlation ({shown} >= {threshold}) with active position {other} in the same "
            ++ s!"direction ({direction}).") none
          s!"Rejected by risk manager: High return correlation with {other}.")
      else none

/-- The check of return correlation. -/
def correlationGate : Option Refusal :=
  match input.answers.correlation with
  | none => none
  | some correlate => input.positions.findSome? (desk.correlationWith input correlate)

/-- The macro lockout. -/
def macroGate : Option Refusal :=
  let answer := input.answers.calendar
  match answer.rejection with
  | none => none
  | some r =>
    let thesis :=
      match answer.lockoutTitle with
      | some title =>
        if !answer.verified && desk.macroCalendarClosed then
          "Rejected: macro calendar unverified (policy closed)."
        else s!"Rejected: macro lockout active for '{title}'."
      | none => "Rejected: macro calendar unverified (policy closed)."
    some { Refusal.plain r.reason (some r.rule) thesis with macroClearance := false }

/-- What equities are asked. -/
def equityAnswer {α : Type} (answer : Option α) : Option α :=
  if input.candidate.assetClass = .equity then answer else none

/-- What long equities are asked. -/
def filingsAnswer : Option EvidenceAnswer :=
  if input.candidate.direction = .long then equityAnswer input input.answers.filings else none

/-- **The notes of the card.** -/
def notes : CardNotes where
  earningsNote := (equityAnswer input input.answers.earnings).map EarningsAnswer.note
  macroNote := input.answers.calendar.note
  corporateActions := (equityAnswer input input.answers.corporateActions).map EvidenceAnswer.block
  filings := (filingsAnswer input).map EvidenceAnswer.block
  newsContext := input.answers.newsContext
  sessionType := (input.answers.session.map SessionAnswer.sessionType).getD "RTH"

/-- The earnings blackout. -/
def earningsGate : Option Refusal :=
  let contract := input.candidate.contract
  ((equityAnswer input input.answers.earnings).bind EarningsAnswer.blackoutReason).bind
    (fun reason => if reason = "" then none else
      some (.plain s!"Earnings Blackout: {reason}" (some "earnings_blackout")
        s!"Rejected: earnings blackout for {contract}."))

/-- The corporate actions; a preview only annotates. -/
def corporateGate : Option Refusal :=
  let contract := input.candidate.contract
  if desk.enforceCorporateActions then
    ((equityAnswer input input.answers.corporateActions).bind EvidenceAnswer.rejection).map
      (fun r =>
        { Refusal.plain r.reason (some r.rule) s!"Rejected: corporate action for {contract}." with
          earningsNote := (notes input).earningsNote
          corporateActions := (notes input).corporateActions })
  else none

/-- The notes that the later refusals carry. -/
def annotated (r : Refusal) : Refusal :=
  { r with
    earningsNote := (notes input).earningsNote
    corporateActions := (notes input).corporateActions
    filings := (notes input).filings }

/-- The filing veto; a preview only annotates. -/
def filingGate : Option Refusal :=
  let contract := input.candidate.contract
  if desk.enforceFilings then
    ((filingsAnswer input).bind EvidenceAnswer.rejection).map (fun r =>
      annotated input (.plain r.reason (some r.rule) s!"Rejected: filing veto for {contract}."))
  else none

/-- Suppressed breakouts. -/
def breakoutGate : Option Refusal :=
  let regime := input.regime
  let vix := desk.text.fixed1 regime.vix
  let detail :=
    match regime.macroStress with
    | some (level, false) => s!" & Macro Stress ({level})"
    | _ => ""
  let vixRegime := regime.vixRegime
  (regimeBreakout desk.riskText input.candidate.strategy regime.breakoutAllowed).map (fun r =>
    annotated input (.plain r.reason (some r.rule)
      (s!"Rejected: breakout suppressed due to {vixRegime} volatility regime "
        ++ s!"(VIX {vix}{detail}).")))

/-- The reward/risk of the regime. -/
def rewardGate (intent : EntryIntent) : Option Refusal :=
  (rewardRisk desk.riskText intent (desk.requiredRr input)).map (fun r =>
    annotated input (.plain r.reason (some r.rule.value)
      ("Rejected by risk manager: " ++ r.reason)))

/-- The session. -/
def sessionGate : Option Refusal :=
  input.answers.session.bind (fun s =>
    let sessionType := s.sessionType
    (entrySessionOpen s.isOpen s.isRth desk.enforceRth s.details).map (fun r =>
      { annotated input (.plain r.reason (some r.rule)
          s!"Rejected: market session is {sessionType}.") with
        sessionType := sessionType }))

/-- **The first refusal of the gates**, in their order. -/
def refusal (intent : EntryIntent) (budget : RiskBudget) : Option Refusal :=
  [desk.bookGate input intent budget, desk.correlationGate input, desk.macroGate input,
    earningsGate input, desk.corporateGate input, desk.filingGate input, desk.breakoutGate input,
    desk.rewardGate input intent, desk.sessionGate input].findSome? id

/-! ## The evaluation -/

/-- The leverage of a notional on the configured cash. -/
def leverage (notional : ℚ) : ℚ := round2 (notional / desk.limits.cash)

/-- **`_rejected`**: a flat bracket at the entry, and the sized notional and quantity. -/
def rejected (levels : DeterministicLevels) (r : Refusal) : TradeEvaluation where
  approved := false
  rejectionReason := some r.reason
  rejectionRule := r.rule
  contract := input.candidate.contract
  direction := input.candidate.direction
  entryPrice := input.candidate.entry
  stopLoss := input.candidate.entry
  takeProfit := input.candidate.entry
  stopDistancePoints := 0
  targetDistancePoints := 0
  riskRewardRatio := 2
  riskDollars := 0
  rewardDollars := 0
  notionalValue := levels.notionalValue
  effectiveLeverage := desk.leverage levels.notionalValue
  macroClearance := r.macroClearance
  thesisSummary := r.thesis
  quantity := levels.quantity
  assetClass := input.candidate.assetClass
  sizingTiers := none
  gatingReasons := none
  sessionType := r.sessionType
  earningsNote := r.earningsNote
  macroNote := none
  corporateActions := r.corporateActions
  filings := r.filings
  newsContext := none
  llmVerdict := none
  ratio_ge_two := TradeEvaluation.two_le_two

end EvaluatorDesk

/-- What the model says of a ratio below two. -/
def ratioTooSmall : String := "Input should be greater than or equal to 2"

/-- **The constructor of an evaluation** with a ratio of its own. -/
def TradeEvaluation.withRatio (e : TradeEvaluation) (ratio : ℚ) : Except String TradeEvaluation :=
  if h : 2 ≤ ratio then .ok { e with riskRewardRatio := ratio, ratio_ge_two := h }
  else .error ratioTooSmall

/-- **The deterministic card**: what was sized, and what the gates passed it with. -/
structure DeterministicCard where
  levels : DeterministicLevels
  intent : EntryIntent
  budget : RiskBudget

/-- Where the deterministic part ends. -/
inductive Assessment where
  | refused (e : TradeEvaluation)
  | passed (card : DeterministicCard)

namespace EvaluatorDesk

variable (desk : EvaluatorDesk) (input : ScanInput)

/-- The ratio of a bracket that sizing refused. -/
def blockedRatio (levels : DeterministicLevels) : ℚ :=
  if 0 < levels.stopDistance then levels.targetDistance / levels.stopDistance else 0

/-- The ratio of the deterministic card. -/
def cardRatio (levels : DeterministicLevels) : ℚ :=
  if 0 < levels.stopDistance then round2 (levels.targetDistance / levels.stopDistance) else 2

/-- The refusal of the sizing, on the deterministic bracket. -/
def sizingBlocked (levels : DeterministicLevels) : Except String TradeEvaluation :=
  let base := desk.rejected input levels (.plain
    ("Sizing blocked: " ++ String.intercalate "; " levels.gatingReasons) none
    "Rejected by deterministic sizing gates.")
  TradeEvaluation.withRatio
    { base with
      stopLoss := levels.stopLoss
      takeProfit := levels.takeProfit
      stopDistancePoints := levels.stopDistance
      targetDistancePoints := levels.targetDistance
      notionalValue := 0
      effectiveLeverage := 0
      quantity := 0
      sizingTiers := some levels.sizingTiers
      gatingReasons := some levels.gatingReasons }
    (blockedRatio levels)

/-- The intent of the deterministic bracket. -/
def deterministicIntent (levels : DeterministicLevels) : Except String EntryIntent :=
  let c := input.candidate
  EntryIntent.make c.contract c.direction c.assetClass levels.quantity c.entry levels.stopLoss
    levels.takeProfit (desk.multiplier c) none

/-- The gates on a candidate that was sized. -/
def gated (levels : DeterministicLevels) : Except String Assessment :=
  match desk.deterministicIntent input levels with
  | .error _ =>
    .ok (.refused (desk.rejected input levels (.plain invalidRequestNumbers none
      "Rejected: the deterministic bracket, quantity or configured multiplier is not finite and positive.")))
  | .ok intent => do
    let budget ← perTradeRiskBudget desk.limits input.equity input.drawdownPct
      input.regime.riskMultiplier
    match desk.refusal input intent budget with
    | some r => .ok (.refused (desk.rejected input levels r))
    | none => .ok (.passed ⟨levels, intent, budget⟩)

/-- **The deterministic part of `evaluate_candidate`.** -/
def assess : Except String Assessment := do
  let levels ← desk.calculateLevelsDeterministic input.candidate input.account
    (some (desk.requiredRr input))
  if levels.quantity ≤ 0 then
    let e ← desk.sizingBlocked input levels
    .ok (.refused e)
  else desk.gated input levels

/-- **The deterministic card as an evaluation**, with a verdict and a thesis. -/
def cardOf (card : DeterministicCard) (approved : Bool) (rejectionReason : Option String)
    (thesis : String) : TradeEvaluation :=
  let notes := notes input
  { approved := approved
    rejectionReason := rejectionReason
    rejectionRule := none
    contract := input.candidate.contract
    direction := input.candidate.direction
    entryPrice := input.candidate.entry
    stopLoss := card.levels.stopLoss
    takeProfit := card.levels.takeProfit
    stopDistancePoints := card.levels.stopDistance
    targetDistancePoints := card.levels.targetDistance
    riskRewardRatio := 2
    riskDollars := card.levels.riskDollars
    rewardDollars := card.levels.rewardDollars
    notionalValue := card.levels.notionalValue
    effectiveLeverage := desk.leverage card.levels.notionalValue
    macroClearance := true
    thesisSummary := thesis
    quantity := card.levels.quantity
    assetClass := input.candidate.assetClass
    sizingTiers := none
    gatingReasons := none
    sessionType := "RTH"
    earningsNote := notes.earningsNote
    macroNote := notes.macroNote
    corporateActions := notes.corporateActions
    filings := notes.filings
    newsContext := notes.newsContext
    llmVerdict := none
    ratio_ge_two := TradeEvaluation.two_le_two }

/-- The thesis of a card that no LLM read. -/
def quantitativeThesis : String :=
  let trigger := input.candidate.triggerDetail
  let cleared := if (notes input).macroNote.any (· ≠ "") then "Macro lockout unverified"
    else "Macro cleared"
  let vixRegime := input.regime.vixRegime
  let vix := desk.text.fixed1 input.regime.vix
  s!"Quantitative trigger verified: {trigger} {cleared} (Regime: {vixRegime}, VIX {vix})."

/-- The card without the LLM. -/
def quantitativeCard (card : DeterministicCard) : Except String TradeEvaluation :=
  (desk.cardOf input card true none (desk.quantitativeThesis input)).withRatio
    (cardRatio card.levels)

end EvaluatorDesk

end AgenticTrader
