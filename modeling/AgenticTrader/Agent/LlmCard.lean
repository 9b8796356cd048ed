import AgenticTrader.Agent.EvaluationReturns

/-!
# What the LLM leaves of a card

A card that passed the gates comes back from the LLM gate on one of three brackets: the
deterministic one, with its sizes; another one whose stop is no wider, with the same sizes;
or another one whose stop is wider, sized again. The last two are valid, meet the required
ratio, and have a ratio of two or more.
-/

namespace AgenticTrader

open Checks

/-! ## Intents -/

namespace EntryIntent

variable {symbol : String} {direction : Direction} {assetClass : AssetClass}
  {quantity entry stop target multiplier : ℚ} {currentPrice : Option ℚ} {intent : EntryIntent}

/-- **An intent has the numbers it is built from.** -/
theorem make_fields (h : make symbol direction assetClass quantity entry stop target multiplier
    currentPrice = .ok intent) :
    intent.symbol = symbol ∧ intent.direction = direction ∧ intent.assetClass = assetClass
      ∧ intent.quantity = quantity ∧ intent.entry = entry ∧ intent.stop = stop
      ∧ intent.target = target ∧ intent.multiplier = multiplier
      ∧ intent.currentPrice = currentPrice := by
  unfold make at h
  repeat' split at h
  all_goals cases h
  exact ⟨rfl, rfl, rfl, rfl, rfl, rfl, rfl, rfl, rfl⟩

theorem sign_eq (intent : EntryIntent) : intent.sign = intent.direction.sign := rfl

/-- A rule of the ratio that accepts says that there is a risk, and that the ratio is met. -/
theorem rewardRisk_eq_none {text : RiskText} {required : ℚ} :
    rewardRisk text intent required = none
      ↔ 0 < intent.riskDistance
        ∧ required ≤ round2 (intent.rewardDistance / intent.riskDistance) := by
  unfold rewardRisk meetsMinRewardRisk
  dsimp only
  rw [refuseIf_eq_none]
  split_ifs with h
  · simp [not_lt.mpr h]
  · simp [not_le.mp h]

/-- With a risk, the distance of the stop is the risk. -/
theorem abs_entry_sub_stop (h : 0 < intent.riskDistance) :
    |intent.entry - intent.stop| = intent.riskDistance := by
  unfold riskDistance sign at h ⊢
  split_ifs at h ⊢
  · rw [mul_one] at h ⊢
    exact abs_of_pos h
  · rw [mul_neg_one] at h ⊢
    exact abs_of_neg (by linarith)

end EntryIntent

namespace EvaluatorDesk

variable {desk : EvaluatorDesk} {input : ScanInput} {reader : ReplyReader}
  {card : DeterministicCard}

/-! ## The card that passed -/

/-- **A card that passed**, with the bracket and the sizing it comes from. -/
structure Passed (desk : EvaluatorDesk) (input : ScanInput) (card : DeterministicCard)
    (prices : LevelPrices) (sizing : PositionSizing) : Prop where
  bracket : desk.bracket input = .ok prices
  budget : desk.tradeBudget input = .ok card.budget
  sized : desk.calculateDynamicSizing (desk.request input prices) = .ok sizing
  levels : card.levels = .of prices sizing
  opened : desk.blocked (desk.request input prices) card.budget = false
  offers : SizingDesk.Offers sizing
    (max 1 ((desk.request input prices).maxQty desk.limits card.budget))
    (desk.baseQty (desk.request input prices) card.budget)
  intent : desk.deterministicIntent input card.levels = .ok card.intent
  refusal : desk.refusal input card.intent card.budget = none

theorem passed_of_assess (h : desk.assess input = .ok (.passed card)) :
    ∃ prices sizing, Passed desk input card prices sizing := by
  unfold assess at h
  obtain ⟨levels, hlevels, h⟩ := except_bind_eq_ok.mp h
  obtain ⟨prices, sizing, hprices, hsizing, rfl⟩ :=
    (desk.calculateLevelsDeterministic_eq_ok input.candidate).mp hlevels
  obtain ⟨budget, hbudget, -⟩ := SizingDesk.calculateDynamicSizing_eq_ok.mp hsizing
  rcases SizingDesk.offers_of_eq_ok hsizing hbudget with ⟨-, rfl⟩ | ⟨hopen, hoffers⟩
  · rw [if_pos (show (DeterministicLevels.of prices _).quantity ≤ 0 from le_rfl)] at h
    obtain ⟨e, -, he⟩ := except_bind_eq_ok.mp h
    cases he
  · have hpos : 0 < (DeterministicLevels.of prices sizing).quantity := by
      rw [show (DeterministicLevels.of prices sizing).quantity = _ from hoffers.default_qty]
      exact lt_of_lt_of_le one_pos (le_max_left _ _)
    rw [if_neg (not_le.mpr hpos)] at h
    rcases gated_cases (.of prices sizing) hbudget with
      ⟨intent, hintent, hrefusal, hgated⟩ | ⟨-, r, hgated⟩
    · rw [hgated] at h
      cases h
      exact ⟨prices, sizing, hprices, hbudget, hsizing, rfl, hopen, hoffers, hintent, hrefusal⟩
    · rw [hgated] at h
      cases h

namespace Passed

variable {prices : LevelPrices} {sizing : PositionSizing} (h : Passed desk input card prices sizing)

include h

/-- The numbers of the intent are those of the levels. -/
theorem intent_fields : card.intent.direction = input.candidate.direction
    ∧ card.intent.entry = input.candidate.entry ∧ card.intent.stop = card.levels.stopLoss
    ∧ card.intent.target = card.levels.takeProfit
    ∧ card.intent.multiplier = desk.multiplier input.candidate := by
  obtain ⟨-, hdirection, -, -, hentry, hstop, htarget, hmultiplier, -⟩ :=
    EntryIntent.make_fields h.intent
  exact ⟨hdirection, hentry, hstop, htarget, hmultiplier⟩

theorem multiplier_pos : 0 < desk.multiplier input.candidate := by
  rw [← h.intent_fields.2.2.2.2]
  exact card.intent.multiplier_pos

/-- The deterministic bracket meets the required ratio. -/
theorem rewardRisk_eq_none :
    rewardRisk desk.riskText card.intent (desk.requiredRr input) = none := by
  have hall := List.findSome?_eq_none_iff.mp h.refusal (desk.rewardGate input card.intent) (by simp)
  unfold rewardGate at hall
  rw [id_eq, Option.map_eq_none_iff] at hall
  exact hall

end Passed

/-! ## Results on the card -/

/-- **What no result of the gate changes**: the candidate, the entry, and the notes. -/
structure Keeps (input : ScanInput) (e : TradeEvaluation) : Prop where
  contract : e.contract = input.candidate.contract
  direction : e.direction = input.candidate.direction
  entryPrice : e.entryPrice = input.candidate.entry
  assetClass : e.assetClass = input.candidate.assetClass
  macroClearance : e.macroClearance = true
  earningsNote : e.earningsNote = (notes input).earningsNote
  macroNote : e.macroNote = (notes input).macroNote
  corporateActions : e.corporateActions = (notes input).corporateActions
  filings : e.filings = (notes input).filings
  newsContext : e.newsContext = (notes input).newsContext

/-- The deterministic bracket, with its sizes; the tiers may be left out. -/
structure OnDeterministic (card : DeterministicCard) (e : TradeEvaluation) : Prop where
  stop : e.stopLoss = card.levels.stopLoss
  target : e.takeProfit = card.levels.takeProfit
  quantity : e.quantity = card.levels.quantity
  tiers : e.sizingTiers = none ∨ e.sizingTiers = some card.levels.sizingTiers

theorem withRatio_eq_ok {e e' : TradeEvaluation} {ratio : ℚ} (h : e.withRatio ratio = .ok e') :
    ∃ hratio : 2 ≤ ratio, e' = { e with riskRewardRatio := ratio, ratio_ge_two := hratio } := by
  unfold TradeEvaluation.withRatio at h
  split_ifs at h with hratio
  cases h
  exact ⟨hratio, rfl⟩

/-- The card without the LLM. -/
theorem quantitativeCard_spec {e : TradeEvaluation} (h : desk.quantitativeCard input card = .ok e) :
    e.approved = true ∧ 2 ≤ cardRatio card.levels ∧ Keeps input e ∧ OnDeterministic card e
      ∧ e.sizingTiers = none := by
  obtain ⟨hratio, rfl⟩ := withRatio_eq_ok h
  exact ⟨rfl, hratio, ⟨rfl, rfl, rfl, rfl, rfl, rfl, rfl, rfl, rfl, rfl⟩,
    ⟨rfl, rfl, rfl, Or.inl rfl⟩, rfl⟩

/-- **A result on the deterministic card** approves a catalog card only. -/
theorem onDeterministicBracket_spec {reason : Option String} {thesis : String} {llmVerdict : Json}
    {e : TradeEvaluation}
    (h : desk.onDeterministicBracket input card reason thesis llmVerdict = .ok e) :
    e.approved = !applied input ∧ Keeps input e ∧ OnDeterministic card e
      ∧ e.sizingTiers = some card.levels.sizingTiers := by
  obtain ⟨-, rfl⟩ := withRatio_eq_ok h
  exact ⟨rfl, ⟨rfl, rfl, rfl, rfl, rfl, rfl, rfl, rfl, rfl, rfl⟩, ⟨rfl, rfl, rfl, Or.inr rfl⟩, rfl⟩

variable (desk input) in
/-- It returns where the deterministic card does. -/
theorem onDeterministicBracket_returns (hratio : 2 ≤ cardRatio card.levels)
    (reason : Option String) (thesis : String) (llmVerdict : Json) :
    ∃ e, desk.onDeterministicBracket input card reason thesis llmVerdict = .ok e :=
  TradeEvaluation.withRatio_returns_iff.mpr hratio

/-- **The card of a reply** has the bracket and the sizes that were settled, and a ratio of two
or more. -/
theorem replyCard_spec {fields : ReplyFields} {approved malformed : Bool} {model : Option String}
    {proposal : Proposal} {sizes : CardSizes} {e : TradeEvaluation}
    (h : desk.replyCard input card fields approved malformed model proposal sizes = .ok e) :
    e.approved = (approved || !applied input) ∧ Keeps input e
      ∧ proposal.stop = .finite e.stopLoss ∧ proposal.target = .finite e.takeProfit
      ∧ e.quantity = sizes.quantity ∧ e.sizingTiers = some sizes.tiers
      ∧ ∃ rr, proposal.ratio = .finite rr ∧ 2 ≤ rr := by
  unfold replyCard at h
  split at h
  · rename_i stop target stopDistance targetDistance rr hstop htarget _ _ hrr
    obtain ⟨hratio, rfl⟩ := withRatio_eq_ok h
    exact ⟨rfl, ⟨rfl, rfl, rfl, rfl, rfl, rfl, rfl, rfl, rfl, rfl⟩, hstop, htarget, rfl, rfl,
      rr, hrr, hratio⟩
  · cases h

/-! ## The bracket of a reply -/

/-- A stop that was proposed is the deterministic one, or the reply's, which is far enough. -/
theorem propose_stop {fields : ReplyFields} {proposal : Proposal} {stop : ℚ}
    (h : desk.propose input card fields = .ok proposal) (hstop : proposal.stop = .finite stop) :
    stop = card.levels.stopLoss
      ∨ fields.stopLoss = some (.finite stop)
        ∧ desk.minStopDistance input.candidate ≤ |input.candidate.entry - stop| := by
  have hclamp : ∀ s, (desk.clampStop input card fields.stopLoss).1 = .finite s →
      s = card.levels.stopLoss
        ∨ fields.stopLoss = some (.finite s)
          ∧ desk.minStopDistance input.candidate ≤ |input.candidate.entry - s| := by
    intro s hs
    unfold clampStop at hs
    dsimp only at hs
    split_ifs at hs with hlt
    · cases hs
      exact Or.inl rfl
    · dsimp only at hs
      rw [hs] at hlt
      have hnot : ¬ |input.candidate.entry - s| < desk.minStopDistance input.candidate := by
        simpa [Extended.distance, Extended.lt] using hlt
      cases hfield : fields.stopLoss with
      | none =>
        rw [hfield] at hs
        cases hs
        exact Or.inl rfl
      | some level =>
        rw [hfield] at hs
        exact Or.inr ⟨congrArg some hs, not_lt.mp hnot⟩
  unfold propose at h
  dsimp only at h
  split_ifs at h
  · unfold deterministicProposal at h
    obtain ⟨rr, -, h⟩ := except_bind_eq_ok.mp h
    cases h
    cases hstop
    exact Or.inl rfl
  · cases h
    exact hclamp stop hstop
  · cases h
    exact hclamp stop hstop

theorem finalIntent_eq_ok {stop target : Extended ℚ} {final : EntryIntent}
    (h : desk.finalIntent input card stop target = .ok final) :
    stop = .finite final.stop ∧ target = .finite final.target
      ∧ final.direction = input.candidate.direction ∧ final.entry = input.candidate.entry
      ∧ final.multiplier = desk.multiplier input.candidate := by
  unfold finalIntent at h
  split at h
  · obtain ⟨-, hdirection, -, -, hentry, rfl, rfl, hmultiplier, -⟩ := EntryIntent.make_fields h
    exact ⟨rfl, rfl, hdirection, hentry, hmultiplier⟩
  · cases h
  · cases h

/-- **A bracket that stands** is valid and meets the required ratio; with a stop that is no
wider than the deterministic one it keeps the sizes, else it is sized again, and its largest
size passes. -/
theorem finalBracket_eq_some {stop target : Extended ℚ} {sizing : Option PositionSizing}
    (h : desk.finalBracket input card stop target = .ok (some sizing)) :
    ∃ final, desk.finalIntent input card stop target = .ok final
      ∧ rewardRisk desk.riskText final (desk.requiredRr input) = none
      ∧ ((sizing = none ∧ |final.entry - final.stop| ≤ |final.entry - card.levels.stopLoss|)
        ∨ ∃ resized largest, sizing = some resized
          ∧ |final.entry - card.levels.stopLoss| < |final.entry - final.stop|
          ∧ desk.calculateDynamicSizing (desk.sizingRequest input.candidate input.account
            final.riskDistance final.rewardDistance) = .ok resized
          ∧ resizedIntent final resized.maxTier.quantity = .ok largest
          ∧ desk.largestPasses input card largest = true) := by
  unfold finalBracket at h
  split at h
  · cases h
  · rename_i final hfinal
    split_ifs at h with hreward hle
    · cases h
    · refine ⟨final, hfinal, Option.not_isSome_iff_eq_none.mp hreward, ?_⟩
      cases h
      exact Or.inl ⟨rfl, hle⟩
    · refine ⟨final, hfinal, Option.not_isSome_iff_eq_none.mp hreward, ?_⟩
      obtain ⟨resized, hresized, h⟩ := except_bind_eq_ok.mp h
      by_cases hquantity : resized.defaultTier.quantity ≤ 0
      · rw [if_pos hquantity] at h
        cases h
      rw [if_neg hquantity] at h
      obtain ⟨largest, hlargest, h⟩ := except_bind_eq_ok.mp h
      split_ifs at h with hpasses
      · cases h
        exact Or.inr ⟨resized, largest, rfl, not_le.mp hle, hresized, hlargest, hpasses⟩
      · cases h

/-- **What is settled**: the deterministic bracket with its sizes, or a proposal that stands. -/
theorem settle_cases {proposal settled : Proposal} {sizes : CardSizes}
    (h : desk.settle input card proposal = .ok (settled, sizes)) :
    (settled.stop = .finite card.levels.stopLoss ∧ settled.target = .finite card.levels.takeProfit
      ∧ sizes = desk.deterministicSizes card)
    ∨ ∃ sizing, ¬ (proposal.stop = .finite card.levels.stopLoss
        ∧ proposal.target = .finite card.levels.takeProfit)
      ∧ desk.finalBracket input card proposal.stop proposal.target = .ok (some sizing)
      ∧ settled = proposal
      ∧ sizes = (sizing.map desk.resizedSizes).getD (desk.deterministicSizes card) := by
  unfold settle at h
  split_ifs at h with hsame
  · cases h
    exact Or.inl ⟨hsame.1, hsame.2, rfl⟩
  · obtain ⟨outcome, houtcome, h⟩ := except_bind_eq_ok.mp h
    have hfinal : desk.finalBracket input card proposal.stop proposal.target = .ok outcome := by
      cases hfinal : desk.finalBracket input card proposal.stop proposal.target with
      | error message =>
        rw [hfinal] at houtcome
        cases houtcome
      | ok value =>
        rw [hfinal] at houtcome
        cases houtcome
        rfl
    cases outcome with
    | none =>
      obtain ⟨restored, hrestored, h⟩ := except_bind_eq_ok.mp h
      unfold deterministicProposal at hrestored
      obtain ⟨rr, -, hrestored⟩ := except_bind_eq_ok.mp hrestored
      cases hrestored
      cases h
      exact Or.inl ⟨rfl, rfl, rfl⟩
    | some sizing =>
      cases sizing with
      | none =>
        cases h
        exact Or.inr ⟨none, hsame, hfinal, rfl, rfl⟩
      | some resized =>
        cases h
        exact Or.inr ⟨some resized, hsame, hfinal, rfl, rfl⟩

/-- The fields that a reply is applied with, and whether it approves. -/
inductive Replies (reader : ReplyReader) : LlmOutcome → ReplyFields → Bool → Prop where
  | approve {content model : Option String} {fields : ReplyFields}
    (h : classifyGateReply reader content = .approve fields) :
    Replies reader (.replied content model) fields true
  | veto {content model : Option String} {fields : ReplyFields} {malformed : Bool}
    (h : classifyGateReply reader content = .veto fields malformed) :
    Replies reader (.replied content model) fields false

/-- **What the gate returns**: a result on the deterministic card, or a reply applied to it. -/
theorem llmGate_cases {outcome : LlmOutcome} {e : TradeEvaluation}
    (h : desk.llmGate input reader card outcome = .ok e) :
    (e.approved = !applied input ∧ Keeps input e ∧ OnDeterministic card e)
    ∨ ∃ fields approved malformed model, Replies reader outcome fields approved
      ∧ desk.applyReply input card fields approved malformed model = .ok e := by
  unfold llmGate unavailable at h
  have hdeterministic : ∀ {reason thesis llmVerdict},
      desk.onDeterministicBracket input card reason thesis llmVerdict = .ok e →
      e.approved = !applied input ∧ Keeps input e ∧ OnDeterministic card e := by
    intro reason thesis llmVerdict h
    obtain ⟨happroved, hkeeps, hon, -⟩ := onDeterministicBracket_spec h
    exact ⟨happroved, hkeeps, hon⟩
  cases outcome with
  | skipped reason => exact Or.inl (hdeterministic h)
  | keyMissing => exact Or.inl (hdeterministic h)
  | raised errorType => exact Or.inl (hdeterministic h)
  | replied content model =>
    dsimp only at h
    cases hreply : classifyGateReply reader content with
    | error errorType =>
      rw [hreply] at h
      exact Or.inl (hdeterministic h)
    | approve fields =>
      rw [hreply] at h
      dsimp only at h
      cases happly : desk.applyReply input card fields true false model with
      | error errorType =>
        rw [happly] at h
        exact Or.inl (hdeterministic h)
      | ok e' =>
        rw [happly] at h
        cases h
        exact Or.inr ⟨fields, true, false, model, .approve hreply, happly⟩
    | veto fields malformed =>
      rw [hreply] at h
      dsimp only at h
      cases happly : desk.applyReply input card fields false malformed model with
      | error errorType =>
        rw [happly] at h
        exact Or.inl (hdeterministic h)
      | ok e' =>
        rw [happly] at h
        cases h
        exact Or.inr ⟨fields, false, malformed, model, .veto hreply, happly⟩

/-- **A reply applied to a card**: on the deterministic bracket, or on a proposal that stands. -/
theorem applyReply_cases {fields : ReplyFields} {approved malformed : Bool} {model : Option String}
    {e : TradeEvaluation}
    (h : desk.applyReply input card fields approved malformed model = .ok e) :
    e.approved = (approved || !applied input) ∧ Keeps input e
      ∧ (OnDeterministic card e
        ∨ ∃ proposal sizing, desk.propose input card fields = .ok proposal
          ∧ ¬ (proposal.stop = .finite card.levels.stopLoss
            ∧ proposal.target = .finite card.levels.takeProfit)
          ∧ desk.finalBracket input card proposal.stop proposal.target = .ok (some sizing)
          ∧ proposal.stop = .finite e.stopLoss ∧ proposal.target = .finite e.takeProfit
          ∧ (∃ rr, proposal.ratio = .finite rr ∧ 2 ≤ rr)
          ∧ e.quantity
            = ((sizing.map desk.resizedSizes).getD (desk.deterministicSizes card)).quantity
          ∧ e.sizingTiers
            = some ((sizing.map desk.resizedSizes).getD (desk.deterministicSizes card)).tiers) := by
  unfold applyReply at h
  obtain ⟨proposal, hproposal, h⟩ := except_bind_eq_ok.mp h
  obtain ⟨⟨settled, sizes⟩, hsettled, h⟩ := except_bind_eq_ok.mp h
  have hcard : desk.replyCard input card fields approved malformed model settled sizes = .ok e := by
    dsimp only at h
    cases hcard : desk.replyCard input card fields approved malformed model settled sizes with
    | error message =>
      rw [hcard] at h
      cases h
    | ok e' =>
      rw [hcard] at h
      cases h
      rfl
  obtain ⟨happroved, hkeeps, hstop, htarget, hquantity, htiers, hratio⟩ := replyCard_spec hcard
  refine ⟨happroved, hkeeps, ?_⟩
  rcases settle_cases hsettled with ⟨hstop', htarget', rfl⟩ | ⟨sizing, hother, hfinal, rfl, rfl⟩
  · rw [hstop, Extended.finite.injEq] at hstop'
    rw [htarget, Extended.finite.injEq] at htarget'
    exact Or.inl ⟨hstop', htarget', hquantity, Or.inr htiers⟩
  · exact Or.inr ⟨settled, sizing, hproposal, hother, hfinal, hstop, htarget, hratio, hquantity,
      htiers⟩

end EvaluatorDesk

end AgenticTrader
