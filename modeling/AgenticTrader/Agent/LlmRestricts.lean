import AgenticTrader.Agent.TapGate

/-!
# What the LLM can change

The verdict of the LLM is compared with the deterministic card on the same candidate. What it
may do is withhold the card, tighten or widen its bracket within the rules, and shrink its
sizes. The first two hold for every reply. A wider stop is sized again, at its distance; the
deterministic stop was sized at its distance in cents. So the sizes shrink with a stop that is
at least as wide as those cents; where they were rounded up, a stop in between may gain one.
-/

namespace AgenticTrader

open Checks

/-- **The reply approves**: a JSON object that validates, and whose `approved` is the literal
`true`. -/
def Approves (reader : ReplyReader) (outcome : LlmOutcome) : Prop :=
  ∃ content model payload, outcome = .replied content model
    ∧ reader.loads (strip (content.getD "")) = .ok (.object payload)
    ∧ payloadGet payload "approved" = some (.bool true)
    ∧ (validateReply reader payload).isSome = true

namespace EvaluatorDesk

variable (desk : EvaluatorDesk) (input : ScanInput) (reader : ReplyReader) (outcome : LlmOutcome)
  (card : DeterministicCard)

/-- What a tier risks at the stop of a card. -/
def tierRisk (e : TradeEvaluation) (t : SizingTier) : ℚ :=
  t.quantity * |e.entryPrice - e.stopLoss| * desk.multiplier input.candidate

/-- **A bracket that may replace the deterministic one.** -/
structure BracketAllowed (e₀ e : TradeEvaluation) : Prop where
  stop_side : 0 < e.direction.sign * (e.entryPrice - e.stopLoss)
  target_side : 0 < e.direction.sign * (e.takeProfit - e.entryPrice)
  meets : ∃ intent, EntryIntent.make e.contract e.direction e.assetClass e.quantity e.entryPrice
      e.stopLoss e.takeProfit (desk.multiplier input.candidate) none = .ok intent
    ∧ rewardRisk desk.riskText intent (desk.requiredRr input) = none
  far : e.stopLoss = e₀.stopLoss
    ∨ desk.minStopDistance input.candidate ≤ |e.entryPrice - e.stopLoss|

/-- **A card is no more than the deterministic one.** -/
structure Restricts (e₀ e : TradeEvaluation) : Prop where
  verdict : input.candidate.catalogEvent = none → e.approved = true → Approves reader outcome
  entryPrice : e.entryPrice = e₀.entryPrice
  direction : e.direction = e₀.direction
  assetClass : e.assetClass = e₀.assetClass
  macroClearance : e.macroClearance = e₀.macroClearance
  earningsNote : e.earningsNote = e₀.earningsNote
  macroNote : e.macroNote = e₀.macroNote
  corporateActions : e.corporateActions = e₀.corporateActions
  filings : e.filings = e₀.filings
  newsContext : e.newsContext = e₀.newsContext
  bracket : e.stopLoss = e₀.stopLoss ∧ e.takeProfit = e₀.takeProfit
    ∨ desk.BracketAllowed input e₀ e
  headline : e.quantity ≤ e₀.quantity
  largest : ∀ t ∈ e.tiers, ∃ t₀ ∈ card.levels.sizingTiers, t.quantity ≤ t₀.quantity
  risk : ∀ t ∈ e.tiers, ∃ t₀ ∈ card.levels.sizingTiers,
    desk.tierRisk input e t ≤ max (desk.tierRisk input e₀ t₀) card.budget.dollars

/-- The request of a bracket, at its actual distances. -/
def bracketRequest (stop target : ℚ) : SizingRequest :=
  desk.sizingRequest input.candidate input.account |input.candidate.entry - stop|
    (input.candidate.direction.sign * (target - input.candidate.entry))

/-- **A wider stop is as wide as what was sized**: a stop of the reply is no farther than the
deterministic one, or at least as far as the distance in cents that the deterministic sizes
come from. -/
def WidensPastSized : Prop :=
  ∀ fields approved stop, Replies reader outcome fields approved →
    fields.stopLoss = some (.finite stop) →
    |input.candidate.entry - stop| ≤ |input.candidate.entry - card.levels.stopLoss|
      ∨ card.levels.stopDistance ≤ |input.candidate.entry - stop|

variable {desk input reader outcome card} {e₀ e : TradeEvaluation}

/-! ## Replies -/

theorem Replies.approves {fields : ReplyFields} (h : Replies reader outcome fields true) :
    Approves reader outcome := by
  cases h with
  | @approve content model _ h =>
    unfold classifyGateReply at h
    split at h
    · cases h
    · rename_i payload hloads
      dsimp only at h
      refine ⟨content, model, payload, rfl, hloads, ?_⟩
      cases hvalid : validateReply reader payload with
      | none =>
        rw [hvalid] at h
        dsimp only at h
        split_ifs at h
        cases h
      | some valid =>
        rw [hvalid] at h
        dsimp only at h
        refine ⟨?_, rfl⟩
        split at h
        · rename_i happroved
          obtain ⟨value, hvalue, hliteral⟩ := Option.bind_eq_some_iff.mp happroved
          rw [hvalue]
          cases value <;> cases hliteral
          rfl
        · cases h
        · cases h
    · cases h

variable (desk input reader outcome) in
/-- **The gate returns** where the deterministic card does. -/
theorem llmGate_returns (hratio : 2 ≤ cardRatio card.levels) :
    ∃ e, desk.llmGate input reader card outcome = .ok e := by
  have hdeterministic := desk.onDeterministicBracket_returns input hratio
  unfold llmGate unavailable
  cases outcome with
  | skipped reason => exact hdeterministic _ _ _
  | keyMissing => exact hdeterministic _ _ _
  | raised errorType => exact hdeterministic _ _ _
  | replied content model =>
    dsimp only
    cases classifyGateReply reader content with
    | error errorType => exact hdeterministic _ _ _
    | approve fields =>
      dsimp only
      cases desk.applyReply input card fields true false model with
      | error errorType => exact hdeterministic _ _ _
      | ok e => exact ⟨e, rfl⟩
    | veto fields malformed =>
      dsimp only
      cases desk.applyReply input card fields false malformed model with
      | error errorType => exact hdeterministic _ _ _
      | ok e => exact ⟨e, rfl⟩

/-! ## The bracket and the sizes -/

/-- **A bracket that stands, and its sizes**: the deterministic ones up to the deterministic
distance, else those of its own distance, which fit the budget. -/
theorem Passed.finalBracket_sizes {prices : LevelPrices} {sized : PositionSizing}
    (h : Passed desk input card prices sized) {stop target : ℚ} {sizing : Option PositionSizing}
    (hfinal : desk.finalBracket input card (.finite stop) (.finite target) = .ok (some sizing)) :
    ∃ final : EntryIntent, final.direction = input.candidate.direction
      ∧ final.entry = input.candidate.entry ∧ final.stop = stop ∧ final.target = target
      ∧ final.multiplier = desk.multiplier input.candidate
      ∧ rewardRisk desk.riskText final (desk.requiredRr input) = none
      ∧ ((sizing = none
          ∧ |input.candidate.entry - stop| ≤ |input.candidate.entry - card.levels.stopLoss|)
        ∨ ∃ resized, sizing = some resized
          ∧ |input.candidate.entry - card.levels.stopLoss| < |input.candidate.entry - stop|
          ∧ SizingDesk.Offers resized
            (max 1 ((desk.bracketRequest input stop target).maxQty desk.limits card.budget))
            (desk.baseQty (desk.bracketRequest input stop target) card.budget)
          ∧ max 1 ((desk.bracketRequest input stop target).maxQty desk.limits card.budget)
            * |input.candidate.entry - stop| * desk.multiplier input.candidate
            ≤ card.budget.dollars) := by
  obtain ⟨final, hintent, hreward, hcases⟩ := finalBracket_eq_some hfinal
  obtain ⟨hstop, htarget, hdirection, hentry, hmultiplier⟩ := finalIntent_eq_ok hintent
  rw [Extended.finite.injEq] at hstop htarget
  refine ⟨final, hdirection, hentry, hstop.symm, htarget.symm, hmultiplier, hreward, ?_⟩
  have hrisk := (EntryIntent.rewardRisk_eq_none.mp hreward).1
  have hdistance : final.riskDistance = |input.candidate.entry - stop| := by
    rw [← EntryIntent.abs_entry_sub_stop hrisk, hentry, hstop]
  have hreward' : final.rewardDistance
      = input.candidate.direction.sign * (target - input.candidate.entry) := by
    unfold EntryIntent.rewardDistance
    rw [EntryIntent.sign_eq, hdirection, hentry, htarget, mul_comm]
  rw [hentry, ← hstop] at hcases
  -- sizes are kept at a stop that is no wider, or made again from the final distances
  rcases hcases with hnone | ⟨resized, largest, rfl, hwider, hresized, hlargest, hpasses⟩
  · exact Or.inl hnone
  · refine Or.inr ⟨resized, rfl, hwider, ?_⟩
    have hfits := h.resized_fits hresized hrisk hlargest hpasses
    rw [hdistance, hreward', hmultiplier] at hfits
    exact hfits

/-- What is kept is as on the deterministic card. -/
theorem restricts_of_keeps (hkeeps₀ : Keeps input e₀) (hkeeps : Keeps input e)
    (hverdict : input.candidate.catalogEvent = none → e.approved = true → Approves reader outcome)
    (hbracket : e.stopLoss = e₀.stopLoss ∧ e.takeProfit = e₀.takeProfit
      ∨ desk.BracketAllowed input e₀ e)
    (hheadline : e.quantity ≤ e₀.quantity)
    (hlargest : ∀ t ∈ e.tiers, ∃ t₀ ∈ card.levels.sizingTiers, t.quantity ≤ t₀.quantity)
    (hrisk : ∀ t ∈ e.tiers, ∃ t₀ ∈ card.levels.sizingTiers,
      desk.tierRisk input e t ≤ max (desk.tierRisk input e₀ t₀) card.budget.dollars) :
    desk.Restricts input reader outcome card e₀ e where
  verdict := hverdict
  entryPrice := hkeeps.entryPrice.trans hkeeps₀.entryPrice.symm
  direction := hkeeps.direction.trans hkeeps₀.direction.symm
  assetClass := hkeeps.assetClass.trans hkeeps₀.assetClass.symm
  macroClearance := hkeeps.macroClearance.trans hkeeps₀.macroClearance.symm
  earningsNote := hkeeps.earningsNote.trans hkeeps₀.earningsNote.symm
  macroNote := hkeeps.macroNote.trans hkeeps₀.macroNote.symm
  corporateActions := hkeeps.corporateActions.trans hkeeps₀.corporateActions.symm
  filings := hkeeps.filings.trans hkeeps₀.filings.symm
  newsContext := hkeeps.newsContext.trans hkeeps₀.newsContext.symm
  bracket := hbracket
  headline := hheadline
  largest := hlargest
  risk := hrisk

/-- **On the deterministic bracket nothing grows.** -/
theorem restricts_of_deterministic (hkeeps₀ : Keeps input e₀) (hon₀ : OnDeterministic card e₀)
    (hkeeps : Keeps input e) (hon : OnDeterministic card e)
    (hverdict : input.candidate.catalogEvent = none → e.approved = true →
      Approves reader outcome) :
    desk.Restricts input reader outcome card e₀ e := by
  have htiers : ∀ t ∈ e.tiers, t ∈ card.levels.sizingTiers := by
    intro t ht
    rcases hon.tiers with htiers | htiers
    · rw [TradeEvaluation.tiers, htiers] at ht
      cases ht
    · rw [TradeEvaluation.tiers, htiers] at ht
      exact ht
  refine restricts_of_keeps hkeeps₀ hkeeps hverdict
    (Or.inl ⟨hon.stop.trans hon₀.stop.symm, hon.target.trans hon₀.target.symm⟩)
    (hon.quantity.trans hon₀.quantity.symm).le (fun t ht => ⟨t, htiers t ht, le_rfl⟩)
    (fun t ht => ⟨t, htiers t ht, le_max_of_le_left (le_of_eq ?_)⟩)
  unfold tierRisk
  rw [hkeeps.entryPrice, hkeeps₀.entryPrice, hon.stop, hon₀.stop]

/-- A bracket is sized as the deterministic one is, at its own distances. -/
theorem bracketRequest_eq (stop target : ℚ) (prices : LevelPrices) :
    desk.bracketRequest input stop target
      = (desk.request input prices).atDistances |input.candidate.entry - stop|
        (input.candidate.direction.sign * (target - input.candidate.entry)) :=
  rfl

/-- The target of a bracket that meets the ratio is on the winning side. -/
theorem rewardDistance_pos {final : EntryIntent}
    (hreward : rewardRisk desk.riskText final (desk.requiredRr input) = none) :
    0 < final.rewardDistance := by
  obtain ⟨hrisk, hratio⟩ := EntryIntent.rewardRisk_eq_none.mp hreward
  by_contra hlosing
  have hquotient := div_nonpos_of_nonpos_of_nonneg (not_lt.mp hlosing) hrisk.le
  have hzero : round2 0 = 0 := round2_eq_iff.mpr ⟨0, by norm_num⟩
  have htwo := (desk.two_le_requiredRr input).trans (hratio.trans (round2_mono hquotient))
  rw [hzero] at htwo
  norm_num at htwo

namespace Passed

variable {prices : LevelPrices} {sized : PositionSizing} (h : Passed desk input card prices sized)

include h

/-- The deterministic headline. -/
theorem quantity_eq :
    card.levels.quantity = max 1 (desk.baseQty (desk.request input prices) card.budget) := by
  rw [h.levels]
  exact h.offers.default_qty

/-- The largest deterministic tier. -/
theorem exists_largest : ∃ t₀ ∈ card.levels.sizingTiers,
    t₀.quantity = max 1 ((desk.request input prices).maxQty desk.limits card.budget) := by
  rw [h.levels]
  exact h.offers.largest

/-- **A wider stop has no larger sizes**, where it is as wide as what was sized. -/
theorem sizes_le {stop : ℚ} (target : ℚ)
    (hwide : card.levels.stopDistance ≤ |input.candidate.entry - stop|) :
    (desk.bracketRequest input stop target).maxQty desk.limits card.budget
        ≤ (desk.request input prices).maxQty desk.limits card.budget
      ∧ max 1 (desk.baseQty (desk.bracketRequest input stop target) card.budget)
        ≤ max 1 (desk.baseQty (desk.request input prices) card.budget) := by
  have hm := h.multiplier_pos
  rw [h.levels] at hwide
  have hunit : (desk.request input prices).perUnitRisk
      ≤ ((desk.request input prices).atDistances |input.candidate.entry - stop|
        (input.candidate.direction.sign * (target - input.candidate.entry))).perUnitRisk := by
    unfold SizingRequest.perUnitRisk
    exact max_le_max (mul_le_mul_of_nonneg_right hwide hm.le) le_rfl
  rw [bracketRequest_eq stop target prices]
  exact ⟨SizingDesk.maxQty_le hunit, SizingDesk.max_one_baseQty_le hunit⟩

/-- **The sizes of a bracket that stands**, at a stop that is no wider and at one that is. -/
theorem sizes_of_stands (hkeeps₀ : Keeps input e₀) (hon₀ : OnDeterministic card e₀)
    (hkeeps : Keeps input e) {fields : ReplyFields} {approved : Bool} {proposal : Proposal}
    {sizing : Option PositionSizing} (hreply : Replies reader outcome fields approved)
    (hproposal : desk.propose input card fields = .ok proposal)
    (hfinal : desk.finalBracket input card (.finite e.stopLoss) (.finite e.takeProfit)
      = .ok (some sizing))
    (hstop : proposal.stop = .finite e.stopLoss)
    (hquantity : e.quantity
      = ((sizing.map desk.resizedSizes).getD (desk.deterministicSizes card)).quantity)
    (htiers : e.sizingTiers
      = some ((sizing.map desk.resizedSizes).getD (desk.deterministicSizes card)).tiers)
    (hwidens : WidensPastSized input reader outcome card) :
    0 < e.quantity ∧ e.quantity ≤ e₀.quantity
      ∧ (∀ t ∈ e.tiers, ∃ t₀ ∈ card.levels.sizingTiers, t.quantity ≤ t₀.quantity)
      ∧ ∀ t ∈ e.tiers, ∃ t₀ ∈ card.levels.sizingTiers,
        desk.tierRisk input e t ≤ max (desk.tierRisk input e₀ t₀) card.budget.dollars := by
  obtain ⟨-, -, -, -, -, -, -, hcases⟩ := h.finalBracket_sizes hfinal
  have hm := h.multiplier_pos
  obtain ⟨t₀, ht₀, htop₀⟩ := h.exists_largest
  rw [hon₀.quantity, h.quantity_eq]
  rcases hcases with ⟨rfl, hle⟩ | ⟨resized, rfl, hwider, hoffers, hfits⟩
  · have hdefault : e.quantity
        = max 1 (desk.baseQty (desk.request input prices) card.budget) :=
      hquantity.trans h.quantity_eq
    have htiers' : e.tiers = card.levels.sizingTiers := by
      rw [TradeEvaluation.tiers, htiers]
      rfl
    rw [hdefault, htiers']
    refine ⟨lt_of_lt_of_le one_pos (le_max_left _ _), le_rfl, fun t ht => ⟨t, ht, le_rfl⟩,
      fun t ht => ⟨t, ht, le_max_of_le_left ?_⟩⟩
    have hpos : 0 < t.quantity := by
      rw [h.levels] at ht
      exact (h.offers.bounds t ht).1
    unfold tierRisk
    rw [hkeeps.entryPrice, hkeeps₀.entryPrice, hon₀.stop]
    gcongr
  · -- a wider stop is not the deterministic one, so it is the reply's
    have hwide : card.levels.stopDistance ≤ |input.candidate.entry - e.stopLoss| := by
      rcases propose_stop hproposal hstop with hsame | ⟨hfield, -⟩
      · rw [hsame] at hwider
        exact absurd hwider (lt_irrefl _)
      · exact (hwidens fields approved _ hreply hfield).resolve_left (not_le.mpr hwider)
    obtain ⟨hmax, hbase⟩ := h.sizes_le e.takeProfit hwide
    have hdefault : e.quantity = max 1 (desk.baseQty
        (desk.bracketRequest input e.stopLoss e.takeProfit) card.budget) :=
      hquantity.trans hoffers.default_qty
    have htiers' : e.tiers = resized.tiers := by
      rw [TradeEvaluation.tiers, htiers]
      rfl
    rw [hdefault, htiers']
    refine ⟨lt_of_lt_of_le one_pos (le_max_left _ _), hbase, fun t ht => ⟨t₀, ht₀, ?_⟩,
      fun t ht => ⟨t₀, ht₀, le_max_of_le_right ?_⟩⟩
    · rw [htop₀]
      exact (hoffers.bounds t ht).2.trans (max_le_max le_rfl hmax)
    · unfold tierRisk
      rw [hkeeps.entryPrice]
      refine le_trans ?_ hfits
      have hbound := (hoffers.bounds t ht).2
      gcongr

/-- **A bracket that stands restricts**, where a wider stop is as wide as what was sized. -/
theorem restricts_of_stands (hkeeps₀ : Keeps input e₀) (hon₀ : OnDeterministic card e₀)
    (hkeeps : Keeps input e)
    (hverdict : input.candidate.catalogEvent = none → e.approved = true →
      Approves reader outcome)
    {fields : ReplyFields} {approved : Bool} {proposal : Proposal}
    {sizing : Option PositionSizing} (hreply : Replies reader outcome fields approved)
    (hproposal : desk.propose input card fields = .ok proposal)
    (hfinal : desk.finalBracket input card proposal.stop proposal.target = .ok (some sizing))
    (hstop : proposal.stop = .finite e.stopLoss) (htarget : proposal.target = .finite e.takeProfit)
    (hquantity : e.quantity
      = ((sizing.map desk.resizedSizes).getD (desk.deterministicSizes card)).quantity)
    (htiers : e.sizingTiers
      = some ((sizing.map desk.resizedSizes).getD (desk.deterministicSizes card)).tiers)
    (hwidens : WidensPastSized input reader outcome card) :
    desk.Restricts input reader outcome card e₀ e := by
  rw [hstop, htarget] at hfinal
  obtain ⟨final, hdirection, hentry, hstop', htarget', hmultiplier, hreward, -⟩ :=
    h.finalBracket_sizes hfinal
  have hrisk := (EntryIntent.rewardRisk_eq_none.mp hreward).1
  obtain ⟨hpos, hheadline, hlargest, htierRisk⟩ := h.sizes_of_stands hkeeps₀ hon₀ hkeeps hreply
    hproposal hfinal hstop hquantity htiers hwidens
  refine restricts_of_keeps hkeeps₀ hkeeps hverdict (Or.inr ⟨?_, ?_, ?_, ?_⟩) hheadline hlargest
    htierRisk
  · unfold EntryIntent.riskDistance at hrisk
    rw [EntryIntent.sign_eq, hdirection, hentry, hstop', mul_comm] at hrisk
    rw [hkeeps.direction, hkeeps.entryPrice]
    exact hrisk
  · have hside := rewardDistance_pos hreward
    unfold EntryIntent.rewardDistance at hside
    rw [EntryIntent.sign_eq, hdirection, hentry, htarget', mul_comm] at hside
    rw [hkeeps.direction, hkeeps.entryPrice]
    exact hside
  · obtain ⟨intent, hintent, hmeets, -⟩ := meets_of_base hkeeps hdirection hentry hstop' htarget'
      hmultiplier hreward hpos
    exact ⟨intent, hintent, hmeets⟩
  · rw [hon₀.stop, hkeeps.entryPrice]
    exact (propose_stop hproposal hstop).imp_right And.right

end Passed

end EvaluatorDesk

/-- The card of an assessment that passed. -/
def Assessment.card? : Assessment → Option DeterministicCard
  | refused _ => none
  | passed card => some card

/-- A reply with a stop at 98 and a target at 105. -/
def wideReader : ReplyReader := approvingReader (some (.finite 98)) (some (.finite 105))

/-- A candidate at 106.096, with a stop at 100. -/
def roundedUpScan : ScanInput := quietScan (pullback (106096 / 1000) (10002 / 100))

/-- An approval with a stop that is wider by a tenth of a cent. -/
def widerReader : ReplyReader :=
  approvingReader (some (.finite (99999 / 1000))) (some (.finite 119))

end AgenticTrader
