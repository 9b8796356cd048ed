import AgenticTrader.Agent.LlmGate

/-!
# When an evaluation returns

An evaluation without the LLM should return for every candidate: a scan drops what is left
of a contract when one raises. It raises where the state of the account is not sound, where
the bracket of an alpha policy would cross zero, and where its result cannot be built: a
refusal of the sizing whose ratio is below two, and a card whose rounded distances have a
ratio that rounds to less than two.
-/

namespace AgenticTrader

open Checks

/-! ## The account -/

/-- **A sound account**: capital and equity are positive, and the drawdown is not negative. -/
def AccountSound (limits : RiskLimits) (equity : Option ℚ) (drawdownPct : ℚ) : Prop :=
  0 < limits.cash ∧ (∀ q ∈ equity, 0 < q) ∧ 0 ≤ drawdownPct

theorem riskCapital_returns_iff {mandate : ℚ} {equity : Option ℚ} :
    (∃ capital, riskCapital mandate equity = .ok capital)
      ↔ 0 < mandate ∧ ∀ q ∈ equity, 0 < q := by
  unfold riskCapital
  split_ifs with hmandate
  · simp [not_lt.mpr hmandate]
  · cases equity with
    | none => simp [not_le.mp hmandate]
    | some q =>
      dsimp only
      split_ifs with hq
      · simp [not_lt.mpr hq]
      · simp [not_le.mp hmandate, not_le.mp hq]

theorem drawdownRiskFactor_returns_iff (limits : RiskLimits) {drawdownPct : ℚ} :
    (∃ factor, drawdownRiskFactor drawdownPct limits = .ok factor) ↔ 0 ≤ drawdownPct := by
  unfold drawdownRiskFactor
  dsimp only
  by_cases hnegative : drawdownPct < 0
  · rw [if_pos hnegative]
    simp [not_le.mpr hnegative]
  · rw [if_neg hnegative]
    refine iff_of_true ?_ (not_lt.mp hnegative)
    split_ifs <;> exact ⟨_, rfl⟩

/-- **There is a budget exactly for a sound account.** -/
theorem budget_returns_iff {limits : RiskLimits} {equity : Option ℚ} {drawdownPct multiplier : ℚ} :
    (∃ budget, perTradeRiskBudget limits equity drawdownPct multiplier = .ok budget)
      ↔ AccountSound limits equity drawdownPct := by
  unfold AccountSound perTradeRiskBudget
  rw [← and_assoc, ← riskCapital_returns_iff, ← drawdownRiskFactor_returns_iff limits]
  constructor
  · rintro ⟨budget, h⟩
    obtain ⟨capital, hcapital, h⟩ := except_bind_eq_ok.mp h
    obtain ⟨factor, hfactor, -⟩ := except_bind_eq_ok.mp h
    exact ⟨⟨capital, hcapital⟩, factor, hfactor⟩
  · rintro ⟨⟨capital, hcapital⟩, factor, hfactor⟩
    exact ⟨_, except_bind_eq_ok.mpr ⟨capital, hcapital,
      except_bind_eq_ok.mpr ⟨factor, hfactor, rfl⟩⟩⟩

namespace LevelDesk

variable {desk : LevelDesk} {c : ScreenerCandidate} {account : SizingAccount}

/-- The caps of a card are positive. -/
theorem probeRiskCap_pos {cap : ℚ} (h : cap ∈ desk.probeRiskCap c) : 0 < cap := by
  unfold probeRiskCap at h
  split_ifs at h
  · cases h
    exact desk.probeRisk_pos
  · cases h
    exact desk.insiderWatchRisk_pos
  · cases h

variable (desk c account) in
/-- With a budget, sizing returns. -/
theorem sizing_returns {budget : RiskBudget}
    (hbudget : perTradeRiskBudget desk.limits account.equity account.drawdownPct
      account.macroMultiplier = .ok budget) (stop target : ℚ) :
    ∃ sizing, desk.calculateDynamicSizing (desk.sizingRequest c account stop target) = .ok sizing :=
  ⟨_, SizingDesk.calculateDynamicSizing_eq_ok.mpr
    ⟨budget, hbudget, fun _ hcap => probeRiskCap_pos hcap, rfl⟩⟩

/-! ## The bracket -/

variable (c) in
/-- The distance of the stop of a policy, in ticks. -/
def policyTicks (policy : BracketPolicy) : ℤ :=
  match policy.kind with
  | .apriori => ⌈policy.stopAtr * c.atr14 / policy.tickSize - 1 / 10 ^ 10⌉
  | .alpha buffer =>
    let structural := if c.direction = .long then c.recentSwingLow - buffer * policy.tickSize
      else c.recentSwingHigh + buffer * policy.tickSize
    let distance := max (c.direction.sign * (c.entry - structural)) (policy.stopAtr * c.atr14)
    ⌈distance / policy.tickSize - 1 / 10 ^ 10⌉

variable (c) in
/-- **The bracket of a policy stays above zero**: the entry, rounded to the tick, the stop and
the target. -/
def PolicyPositive (policy : BracketPolicy) : Prop :=
  0 < c.entry
    ∧ 0 < round8 (c.entry - c.direction.sign * policyTicks c policy * policy.tickSize)
    ∧ 0 < round8 (c.entry + c.direction.sign
      * ⌈policyTicks c policy * policy.rewardRisk - 1 / 10 ^ 10⌉ * policy.tickSize)

/-- The observations of a candidate are positive. -/
structure Observed (c : ScreenerCandidate) : Prop where
  price : 0 < c.currentPrice
  atr : 0 < c.atr14
  swingLow : 0 < c.recentSwingLow
  swingHigh : 0 < c.recentSwingHigh

theorem bracketPrices_returns_iff (hobserved : Observed c) {policy : BracketPolicy} :
    (∃ b, bracketPrices c.entry c.direction c.atr14 c.recentSwingLow c.recentSwingHigh policy
      = .ok b)
      ↔ PolicyPositive c policy := by
  have hrounded : ∀ ticks : ℤ, (∃ b, roundedBracket c.entry c.direction ticks policy = .ok b)
      ↔ 0 < round8 (c.entry - c.direction.sign * ticks * policy.tickSize)
        ∧ 0 < round8 (c.entry + c.direction.sign
          * ⌈ticks * policy.rewardRisk - 1 / 10 ^ 10⌉ * policy.tickSize) := by
    intro ticks
    unfold roundedBracket
    dsimp only
    rw [← lt_min_iff]
    split_ifs with hcross
    · exact iff_of_false (by rintro ⟨b, ⟨⟩⟩) (not_lt.mpr hcross)
    · exact iff_of_true ⟨_, rfl⟩ (not_le.mp hcross)
  unfold bracketPrices PolicyPositive policyTicks
  cases policy.kind with
  | apriori =>
    dsimp only
    by_cases hentry : 0 < c.entry
    · rw [if_neg (not_not.mpr ⟨hentry, hobserved.atr⟩), hrounded]
      simp [hentry]
    · rw [if_pos (fun h => hentry h.1)]
      simp [hentry]
  | alpha buffer =>
    dsimp only
    by_cases hentry : 0 < c.entry
    · rw [if_neg (not_not.mpr ⟨hentry, hobserved.atr, hobserved.swingLow, hobserved.swingHigh⟩),
        hrounded]
      simp [hentry]
    · rw [if_pos (fun h => hentry h.1)]
      simp [hentry]

variable (desk) in
/-- **There is a bracket** on a tick that is not zero, where that of a policy stays above
zero. -/
theorem levelPrices_returns_iff (hobserved : Observed c)
    (htick : ∀ document ∈ c.alphaPolicy, document.policy.tickSize = desk.tickSize c) {ratio : ℚ} :
    (∃ prices, desk.levelPrices c ratio = .ok prices)
      ↔ desk.tickSize c ≠ 0 ∧ ∀ document ∈ c.alphaPolicy, PolicyPositive c document.policy := by
  unfold levelPrices
  dsimp only
  simp only [refuse_bind_eq_ok, decide_eq_false_iff_not, exists_and_left]
  refine and_congr_right (fun _ => ?_)
  cases hpolicy : c.alphaPolicy with
  | none => simp
  | some document =>
    have hsame : ¬ 1 / 10 ^ 9 < |document.policy.tickSize - desk.tickSize c| := by
      rw [htick document hpolicy, sub_self, abs_zero]
      norm_num
    simp only [Option.mem_some_iff, forall_eq']
    rw [← bracketPrices_returns_iff hobserved]
    constructor
    · rintro ⟨prices, h⟩
      obtain ⟨-, h⟩ := refuse_bind_eq_ok.mp h
      obtain ⟨b, hb, -⟩ := except_bind_eq_ok.mp h
      exact ⟨b, hb⟩
    · rintro ⟨b, hb⟩
      exact ⟨_, refuse_bind_eq_ok.mpr ⟨decide_eq_false hsame,
        except_bind_eq_ok.mpr ⟨b, hb, rfl⟩⟩⟩

end LevelDesk

/-! ## The evaluation -/

theorem TradeEvaluation.withRatio_returns_iff {e : TradeEvaluation} {ratio : ℚ} :
    (∃ e', e.withRatio ratio = .ok e') ↔ 2 ≤ ratio := by
  unfold withRatio
  split_ifs with h
  · exact iff_of_true ⟨_, rfl⟩ h
  · exact iff_of_false (by rintro ⟨e', ⟨⟩⟩) h

namespace EvaluatorDesk

variable (desk : EvaluatorDesk) (input : ScanInput)

/-- The budget of the trade. -/
def tradeBudget : Except String RiskBudget :=
  perTradeRiskBudget desk.limits input.equity input.drawdownPct input.regime.riskMultiplier

/-- The bracket of the candidate, at the required ratio. -/
def bracket : Except String LevelPrices :=
  desk.levelPrices input.candidate (desk.requiredRr input)

/-- The request that is sized. -/
def request (prices : LevelPrices) : SizingRequest :=
  desk.sizingRequest input.candidate input.account prices.stopDistance prices.targetDistance

/-- **Nothing refuses the card**: the intent of the base size is valid, and every gate lets it
pass. -/
def Passes (prices : LevelPrices) (budget : RiskBudget) : Prop :=
  ∃ intent, EntryIntent.make input.candidate.contract input.candidate.direction
      input.candidate.assetClass (max 1 (desk.baseQty (desk.request input prices) budget))
      input.candidate.entry prices.stop prices.target (desk.multiplier input.candidate) none
        = .ok intent
    ∧ desk.refusal input intent budget = none

/-- **The ratio can be carried**: of what sizing refuses, the distances have a ratio of two or
more; of a card, it rounds to two or more. -/
def RatioCarried (prices : LevelPrices) (budget : RiskBudget) : Prop :=
  (desk.blocked (desk.request input prices) budget = true →
    0 < prices.stopDistance ∧ 2 ≤ prices.targetDistance / prices.stopDistance)
  ∧ (desk.blocked (desk.request input prices) budget = false → desk.Passes input prices budget →
    0 < prices.stopDistance → 2 ≤ round2 (prices.targetDistance / prices.stopDistance))

/-- **A candidate that can be evaluated.** -/
structure Evaluable : Prop where
  account : AccountSound desk.limits input.equity input.drawdownPct
  tick : desk.tickSize input.candidate ≠ 0
  policy : ∀ document ∈ input.candidate.alphaPolicy,
    LevelDesk.PolicyPositive input.candidate document.policy
  ratio : ∀ prices budget, desk.bracket input = .ok prices → desk.tradeBudget input = .ok budget →
    desk.RatioCarried input prices budget

variable {desk input}

/-- The levels of a bracket, with the size of their default tier. -/
theorem levels_of_bracket {prices : LevelPrices} {budget : RiskBudget}
    (hprices : desk.bracket input = .ok prices) (hbudget : desk.tradeBudget input = .ok budget) :
    ∃ sizing, desk.calculateDynamicSizing (desk.request input prices) = .ok sizing
      ∧ desk.calculateLevelsDeterministic input.candidate input.account
        (some (desk.requiredRr input)) = .ok (.of prices sizing) := by
  obtain ⟨sizing, hsizing⟩ := desk.sizing_returns input.candidate input.account hbudget
    prices.stopDistance prices.targetDistance
  exact ⟨sizing, hsizing, (desk.calculateLevelsDeterministic_eq_ok input.candidate).mpr
    ⟨prices, sizing, hprices, hsizing, rfl⟩⟩

/-- What sizing refuses. -/
theorem assess_of_blocked {levels : DeterministicLevels}
    (hlevels : desk.calculateLevelsDeterministic input.candidate input.account
      (some (desk.requiredRr input)) = .ok levels) (hquantity : levels.quantity ≤ 0) :
    desk.assess input = (desk.sizingBlocked input levels).map .refused := by
  unfold assess
  rw [hlevels]
  show (if levels.quantity ≤ 0 then _ else _) = _
  rw [if_pos hquantity]
  cases desk.sizingBlocked input levels <;> rfl

/-- What the gates see. -/
theorem assess_of_sized {levels : DeterministicLevels}
    (hlevels : desk.calculateLevelsDeterministic input.candidate input.account
      (some (desk.requiredRr input)) = .ok levels) (hquantity : 0 < levels.quantity) :
    desk.assess input = desk.gated input levels := by
  unfold assess
  rw [hlevels]
  show (if levels.quantity ≤ 0 then _ else _) = _
  rw [if_neg (not_le.mpr hquantity)]

/-- **The gates pass a card or refuse it.** -/
theorem gated_cases (levels : DeterministicLevels) {budget : RiskBudget}
    (hbudget : desk.tradeBudget input = .ok budget) :
    (∃ intent, desk.deterministicIntent input levels = .ok intent
      ∧ desk.refusal input intent budget = none
      ∧ desk.gated input levels = .ok (.passed ⟨levels, intent, budget⟩))
    ∨ (∀ intent, desk.deterministicIntent input levels = .ok intent →
        desk.refusal input intent budget ≠ none)
      ∧ ∃ r, desk.gated input levels = .ok (.refused (desk.rejected input levels r)) := by
  unfold tradeBudget at hbudget
  unfold gated
  cases hintent : desk.deterministicIntent input levels with
  | error message => exact Or.inr ⟨fun intent h => (by cases h), _, rfl⟩
  | ok intent =>
    simp only [hbudget, bind, Except.bind]
    cases hrefusal : desk.refusal input intent budget with
    | none => exact Or.inl ⟨intent, rfl, hrefusal, rfl⟩
    | some r =>
      refine Or.inr ⟨fun intent' h => ?_, r, rfl⟩
      cases h
      rw [hrefusal]
      exact Option.some_ne_none r

/-- What comes of a card without the LLM. -/
theorem evaluate_of_passed {reader : ReplyReader} {card : DeterministicCard}
    (h : desk.assess input = .ok (.passed card)) :
    desk.evaluateCandidate input reader none = desk.quantitativeCard input card := by
  unfold evaluateCandidate
  rw [h]
  rfl

/-- A refusal is returned as it is, whatever comes of the LLM. -/
theorem evaluate_of_refused {reader : ReplyReader} {llm : Option LlmOutcome} {e : TradeEvaluation}
    (h : desk.assess input = .ok (.refused e)) :
    desk.evaluateCandidate input reader llm = .ok e := by
  unfold evaluateCandidate
  rw [h]
  rfl

theorem two_le_blockedRatio_iff {levels : DeterministicLevels} :
    2 ≤ blockedRatio levels
      ↔ 0 < levels.stopDistance ∧ 2 ≤ levels.targetDistance / levels.stopDistance := by
  unfold blockedRatio
  split_ifs with h
  · simp [h]
  · simp [h]

theorem two_le_cardRatio_iff {levels : DeterministicLevels} :
    2 ≤ cardRatio levels
      ↔ (0 < levels.stopDistance → 2 ≤ round2 (levels.targetDistance / levels.stopDistance)) := by
  unfold cardRatio
  split_ifs with h
  · simp [h]
  · simp [h]

/-- **For a bracket and a budget, an evaluation returns** where its ratio can be carried. -/
theorem returns_iff_ratioCarried {prices : LevelPrices} {budget : RiskBudget} (reader : ReplyReader)
    (hprices : desk.bracket input = .ok prices) (hbudget : desk.tradeBudget input = .ok budget) :
    (∃ e, desk.evaluateCandidate input reader none = .ok e)
      ↔ desk.RatioCarried input prices budget := by
  obtain ⟨sizing, hsizing, hlevels⟩ := levels_of_bracket hprices hbudget
  rcases SizingDesk.offers_of_eq_ok hsizing hbudget with ⟨hblocked, rfl⟩ | ⟨hopen, hoffers⟩
  · -- the refusal of the sizing is all there is
    have hassess := assess_of_blocked hlevels le_rfl
    have hreturns : (∃ e, desk.evaluateCandidate input reader none = .ok e)
        ↔ ∃ e, desk.sizingBlocked input (.of prices
          (desk.blockedSizing (desk.request input prices) budget)) = .ok e := by
      unfold evaluateCandidate
      rw [hassess]
      cases desk.sizingBlocked input (.of prices
        (desk.blockedSizing (desk.request input prices) budget)) with
      | error message => simp [Except.map, bind, Except.bind]
      | ok e => simp [Except.map, bind, Except.bind]
    rw [hreturns]
    unfold sizingBlocked
    rw [TradeEvaluation.withRatio_returns_iff, two_le_blockedRatio_iff]
    unfold RatioCarried
    rw [hblocked]
    simp [DeterministicLevels.of]
  · have hquantity : (DeterministicLevels.of prices sizing).quantity
        = max 1 (desk.baseQty (desk.request input prices) budget) := hoffers.default_qty
    have hpos : 0 < (DeterministicLevels.of prices sizing).quantity := by
      rw [hquantity]
      exact lt_of_lt_of_le one_pos (le_max_left _ _)
    have hassess := assess_of_sized hlevels hpos
    have hpasses : desk.Passes input prices budget
        ↔ ∃ intent, desk.deterministicIntent input (.of prices sizing) = .ok intent
          ∧ desk.refusal input intent budget = none := by
      unfold Passes deterministicIntent
      rw [hquantity]
      rfl
    unfold RatioCarried
    rw [hopen, hpasses]
    rcases gated_cases (.of prices sizing) hbudget with
      ⟨intent, hintent, hrefusal, hgated⟩ | ⟨hrefused, r, hgated⟩
    · rw [evaluate_of_passed (hassess.trans hgated)]
      unfold quantitativeCard
      rw [TradeEvaluation.withRatio_returns_iff, two_le_cardRatio_iff]
      constructor
      · exact fun h => ⟨fun hblocked => absurd hblocked Bool.false_ne_true, fun _ _ => h⟩
      · exact fun h => h.2 rfl ⟨intent, hintent, hrefusal⟩
    · rw [evaluate_of_refused (hassess.trans hgated)]
      refine iff_of_true ⟨_, rfl⟩ ⟨fun hblocked => absurd hblocked Bool.false_ne_true, ?_⟩
      rintro - ⟨intent, hintent, hrefusal⟩
      exact absurd hrefusal (hrefused intent hintent)

/-- What an evaluation that returns had. -/
theorem bracket_of_returns {reader : ReplyReader} {llm : Option LlmOutcome} {e : TradeEvaluation}
    (h : desk.evaluateCandidate input reader llm = .ok e) :
    ∃ prices budget, desk.bracket input = .ok prices ∧ desk.tradeBudget input = .ok budget := by
  unfold evaluateCandidate at h
  obtain ⟨assessment, hassess, -⟩ := except_bind_eq_ok.mp h
  unfold assess at hassess
  obtain ⟨levels, hlevels, -⟩ := except_bind_eq_ok.mp hassess
  obtain ⟨prices, sizing, hprices, hsizing, -⟩ :=
    (desk.calculateLevelsDeterministic_eq_ok input.candidate).mp hlevels
  obtain ⟨budget, hbudget, -⟩ := SizingDesk.calculateDynamicSizing_eq_ok.mp hsizing
  exact ⟨prices, budget, hprices, hbudget⟩

end EvaluatorDesk

/-- **An evaluation without the LLM returns exactly for what can be evaluated.** -/
theorem evaluation_returns_iff (desk : EvaluatorDesk) (input : ScanInput) (reader : ReplyReader)
    (hobserved : LevelDesk.Observed input.candidate)
    (htick : ∀ document ∈ input.candidate.alphaPolicy,
      document.policy.tickSize = desk.tickSize input.candidate) :
    (∃ e, desk.evaluateCandidate input reader none = .ok e) ↔ desk.Evaluable input := by
  have hbracket : (∃ prices, desk.bracket input = .ok prices) ↔ _ :=
    desk.levelPrices_returns_iff hobserved htick
  constructor
  · rintro ⟨e, he⟩
    obtain ⟨prices, budget, hprices, hbudget⟩ := EvaluatorDesk.bracket_of_returns he
    obtain ⟨htick_ne, hpolicy⟩ := hbracket.mp ⟨prices, hprices⟩
    refine ⟨budget_returns_iff.mp ⟨budget, hbudget⟩, htick_ne, hpolicy, ?_⟩
    intro prices' budget' hprices' hbudget'
    exact (EvaluatorDesk.returns_iff_ratioCarried reader hprices' hbudget').mp ⟨e, he⟩
  · intro h
    obtain ⟨prices, hprices⟩ := hbracket.mpr ⟨h.tick, h.policy⟩
    obtain ⟨budget, hbudget⟩ := budget_returns_iff.mpr h.account
    exact (EvaluatorDesk.returns_iff_ratioCarried reader hprices hbudget).mpr
      (h.ratio prices budget hprices hbudget)

/-! ## A scan -/

/-- A desk of shares, where no gate but the shared rules is on. -/
def evaluatorDesk : EvaluatorDesk where
  toLevelDesk := levelDesk
  riskText := ⟨String.toUpper, toString, toString, toString⟩
  plain := toString
  maxCorrelationThreshold := 85 / 100
  macroCalendarClosed := false
  enforceCorporateActions := false
  enforceFilings := false
  enforceRth := false
  promptSha256 := ""

/-- A calm regime, that asks for a ratio of two. -/
def calmRegime : RegimeSnapshot := ⟨"NORMAL", 16, true, 2, 1, none, TradeEvaluation.two_le_two⟩

/-- A candidate on an empty book. -/
def quietScan (candidate : ScreenerCandidate) : ScanInput where
  candidate := candidate
  regime := calmRegime
  openNotional := 0
  drawdownPct := 0
  equity := none
  positions := []
  answers := ⟨none, ⟨none, true, none, none⟩, none, none, none, none, none⟩

/-- A reader of nothing but approvals. -/
def approvingReader (stop target : Option (Extended ℚ)) : ReplyReader where
  loads _ := .ok (.object ([("approved", .bool true), ("thesis_summary", .str "Fine.")]
    ++ (if stop.isSome then [("stop_loss", .number "0")] else [])
    ++ (if target.isSome then [("take_profit", .number "1")] else [])))
  bool := literalBool
  float
    | .number "0" => stop
    | .number _ => target
    | _ => none

/-- At 100.006 the distances of the bracket 98.51 to 103 round to 1.50 and 2.99: the card has
a ratio of 1.99, and there is none. -/
theorem sub_cent_price_raises :
    LevelDesk.Observed (pullback (100006 / 1000) 99)
    ∧ (pullback (100006 / 1000) 99).alphaPolicy = none
    ∧ ¬ ∃ e, evaluatorDesk.evaluateCandidate (quietScan (pullback (100006 / 1000) 99))
      (approvingReader none none) none = .ok e := by
  refine ⟨⟨by decide +kernel, by decide +kernel, by decide +kernel, by decide +kernel⟩, rfl, ?_⟩
  rintro ⟨e, he⟩
  have hnone : (evaluatorDesk.evaluateCandidate (quietScan (pullback (100006 / 1000) 99))
      (approvingReader none none) none).toOption.isSome = false := by
    decide +kernel
  rw [he] at hnone
  cases hnone

/-- At 100 the bracket is 98.50 to 103, and the card has a ratio of two. -/
theorem evaluation_returns_pullback :
    evaluatorDesk.Evaluable (quietScan (pullback 100 99)) := by
  have hsome : (evaluatorDesk.evaluateCandidate (quietScan (pullback 100 99))
      (approvingReader none none) none).toOption.isSome = true := by
    decide +kernel
  have hreturns : ∃ e, evaluatorDesk.evaluateCandidate (quietScan (pullback 100 99))
      (approvingReader none none) none = .ok e := by
    cases h : evaluatorDesk.evaluateCandidate (quietScan (pullback 100 99))
        (approvingReader none none) none with
    | error message =>
      rw [h] at hsome
      cases hsome
    | ok e => exact ⟨e, rfl⟩
  refine (evaluation_returns_iff evaluatorDesk (quietScan (pullback 100 99))
    (approvingReader none none) ?_ ?_).mp hreturns
  · exact ⟨by decide +kernel, by decide +kernel, by decide +kernel, by decide +kernel⟩
  · intro document hdocument
    cases hdocument

end AgenticTrader
