import AgenticTrader.Agent.LlmCard

/-!
# A card at its tap gate

When a card is tapped, its ratio and its risk are computed again from the prices it carries,
with the size that was tapped. The ratio is met on every bracket a card can have. The risk
fits the budget on a bracket that was sized at its actual distance, which a bracket of the
LLM with a wider stop and that of an alpha policy are. The native bracket is sized at its
distance rounded to cents: where that is rounded down, the largest size may fit the rounded
distance only.
-/

namespace AgenticTrader

open Checks

/-- **The sizes that a card offers**: those of its tiers, or the headline's without tiers. -/
def TradeEvaluation.offered (e : TradeEvaluation) : List ℚ :=
  if e.tiers = [] then [e.quantity] else e.tiers.map SizingTier.quantity

namespace EvaluatorDesk

variable (desk : EvaluatorDesk) (input : ScanInput)

/-- **A card passes its tap gate** with every size it offers. -/
def PassesTap (budget : RiskBudget) (e : TradeEvaluation) : Prop :=
  ∀ q ∈ e.offered, ∃ intent, EntryIntent.make e.contract e.direction e.assetClass q e.entryPrice
      e.stopLoss e.takeProfit (desk.multiplier input.candidate) none = .ok intent
    ∧ rewardRisk desk.riskText intent (desk.requiredRr input) = none
    ∧ perTradeRisk intent budget = none

/-- Every card that is approved passes it, whatever comes of the LLM. -/
def CardsPassTap (reader : ReplyReader) : Prop :=
  ∀ llm e, desk.evaluateCandidate input reader llm = .ok e → e.approved = true →
    ∀ budget, desk.tradeBudget input = .ok budget → desk.PassesTap input budget e

/-- **The sized distance covers the actual one**: what is permissible at the distance that is
sized fits the budget at the distance of the prices. A minimum that is not positive offers
one unit, permissible or not. -/
def DistanceCovers : Prop :=
  ∀ prices budget, desk.bracket input = .ok prices → desk.tradeBudget input = .ok budget →
    ∀ n : ℕ, 1 ≤ n →
      ((desk.request input prices).Permissible desk.limits budget n
        ∨ n = 1 ∧ (desk.request input prices).minimum desk.sizing ≤ 0) →
      n * (input.candidate.direction.sign * (input.candidate.entry - prices.stop))
        * desk.multiplier input.candidate ≤ budget.dollars

variable {desk input} {reader : ReplyReader} {card : DeterministicCard} {e : TradeEvaluation}

/-- What was refused is not approved. -/
theorem refused_not_approved (h : desk.assess input = .ok (.refused e)) : e.approved = false := by
  unfold assess at h
  obtain ⟨levels, -, h⟩ := except_bind_eq_ok.mp h
  split_ifs at h
  · obtain ⟨e', he', h⟩ := except_bind_eq_ok.mp h
    cases h
    obtain ⟨-, rfl⟩ := withRatio_eq_ok he'
    rfl
  · unfold gated at h
    split at h
    · cases h
      rfl
    · obtain ⟨budget, -, h⟩ := except_bind_eq_ok.mp h
      split at h
      · cases h
        rfl
      · cases h

/-- The risk of an intent with a risk. -/
theorem riskDollars_eq {intent : EntryIntent} (h : 0 < intent.riskDistance) :
    intent.riskDollars = intent.quantity * intent.riskDistance * intent.multiplier := by
  unfold EntryIntent.riskDollars
  rw [max_eq_left h.le]
  ring

/-- **A bracket that meets the ratio meets it with every size.** -/
theorem meets_of_base {base : EntryIntent} (hkeeps : Keeps input e)
    (hdirection : base.direction = input.candidate.direction)
    (hentry : base.entry = input.candidate.entry) (hstop : base.stop = e.stopLoss)
    (htarget : base.target = e.takeProfit)
    (hmultiplier : base.multiplier = desk.multiplier input.candidate)
    (hreward : rewardRisk desk.riskText base (desk.requiredRr input) = none) {q : ℚ} (hq : 0 < q) :
    ∃ intent, EntryIntent.make e.contract e.direction e.assetClass q e.entryPrice
        e.stopLoss e.takeProfit (desk.multiplier input.candidate) none = .ok intent
      ∧ rewardRisk desk.riskText intent (desk.requiredRr input) = none
      ∧ intent.riskDistance = base.riskDistance := by
  rw [hkeeps.direction, hkeeps.entryPrice, ← hdirection, ← hentry, ← hstop, ← htarget,
    ← hmultiplier]
  have hmake : ∃ intent, EntryIntent.make e.contract base.direction e.assetClass q base.entry
      base.stop base.target base.multiplier none = .ok intent := by
    unfold EntryIntent.make
    rw [dif_pos hq, dif_pos base.entry_pos, dif_pos base.stop_pos, dif_pos base.target_pos,
      dif_pos base.multiplier_pos, dif_pos (by simp)]
    exact ⟨_, rfl⟩
  obtain ⟨intent, hintent⟩ := hmake
  obtain ⟨-, hdirection', -, -, hentry', hstop', htarget', -, -⟩ := EntryIntent.make_fields hintent
  have hrisk : intent.riskDistance = base.riskDistance := by
    unfold EntryIntent.riskDistance
    rw [EntryIntent.sign_eq, EntryIntent.sign_eq, hentry', hstop', hdirection']
  have hreward' : intent.rewardDistance = base.rewardDistance := by
    unfold EntryIntent.rewardDistance
    rw [EntryIntent.sign_eq, EntryIntent.sign_eq, hentry', htarget', hdirection']
  refine ⟨intent, hintent, ?_, hrisk⟩
  rw [EntryIntent.rewardRisk_eq_none] at hreward ⊢
  rw [hrisk, hreward']
  exact hreward

/-- **A size that fits the budget on a bracket that meets the ratio passes.** -/
theorem passes_of_fits {budget : RiskBudget} {base : EntryIntent} (hkeeps : Keeps input e)
    (hdirection : base.direction = input.candidate.direction)
    (hentry : base.entry = input.candidate.entry) (hstop : base.stop = e.stopLoss)
    (htarget : base.target = e.takeProfit)
    (hmultiplier : base.multiplier = desk.multiplier input.candidate)
    (hreward : rewardRisk desk.riskText base (desk.requiredRr input) = none) {q : ℚ} (hq : 0 < q)
    (hfits : q * base.riskDistance * base.multiplier ≤ budget.dollars) :
    ∃ intent, EntryIntent.make e.contract e.direction e.assetClass q e.entryPrice
        e.stopLoss e.takeProfit (desk.multiplier input.candidate) none = .ok intent
      ∧ rewardRisk desk.riskText intent (desk.requiredRr input) = none
      ∧ perTradeRisk intent budget = none := by
  obtain ⟨intent, hintent, hreward', hrisk⟩ :=
    meets_of_base hkeeps hdirection hentry hstop htarget hmultiplier hreward hq
  obtain ⟨-, -, -, hquantity', -, -, -, hmultiplier', -⟩ := EntryIntent.make_fields hintent
  refine ⟨intent, hintent, hreward', refuseIf_eq_none.mpr (not_lt.mpr ?_)⟩
  rw [riskDollars_eq (EntryIntent.rewardRisk_eq_none.mp hreward').1, hquantity', hrisk,
    hmultiplier', ← hmultiplier]
  exact hfits

namespace Passed

variable {prices : LevelPrices} {sizing : PositionSizing} (h : Passed desk input card prices sizing)

include h

/-- The largest deterministic size is permissible, or the one unit of a minimum that is not
positive. -/
theorem exists_top : ∃ n : ℕ, 1 ≤ n
    ∧ max 1 ((desk.request input prices).maxQty desk.limits card.budget) = n
    ∧ ((desk.request input prices).Permissible desk.limits card.budget n
      ∨ n = 1 ∧ (desk.request input prices).minimum desk.sizing ≤ 0) := by
  have hminimum := SizingDesk.minimum_le_maxQty h.opened
  obtain ⟨m, hm⟩ := (desk.request input prices).exists_maxQty desk.limits card.budget
  rw [hm] at hminimum ⊢
  rcases Nat.eq_zero_or_pos m with rfl | hpos
  · refine ⟨1, le_rfl, by norm_num, Or.inr ⟨rfl, ?_⟩⟩
    exact_mod_cast hminimum
  · refine ⟨m, hpos, max_eq_right (by exact_mod_cast hpos), Or.inl ?_⟩
    exact ((desk.request input prices).natCast_le_maxQty desk.limits card.budget hpos).mp hm.ge

/-- The sizes of a card on the deterministic sizing. -/
theorem offered_le (htiers : e.sizingTiers = none ∨ e.sizingTiers = some card.levels.sizingTiers)
    (hquantity : e.quantity = card.levels.quantity) {q : ℚ} (hq : q ∈ e.offered) :
    0 < q ∧ q ≤ max 1 ((desk.request input prices).maxQty desk.limits card.budget) := by
  have hheadline : e.quantity = max 1 (desk.baseQty (desk.request input prices) card.budget) := by
    rw [hquantity, h.levels]
    exact h.offers.default_qty
  have hbase := SizingDesk.baseQty_le h.opened
  unfold TradeEvaluation.offered at hq
  split_ifs at hq with hnil
  · rw [List.mem_singleton.mp hq, hheadline]
    exact ⟨lt_of_lt_of_le one_pos (le_max_left _ _), max_le (le_max_left _ _) hbase⟩
  · rcases htiers with htiers | htiers
    · exact absurd (by rw [TradeEvaluation.tiers, htiers]; rfl) hnil
    · obtain ⟨t, ht, rfl⟩ := List.mem_map.mp hq
      rw [TradeEvaluation.tiers, htiers, h.levels] at ht
      exact h.offers.bounds t ht

/-- The risk of the deterministic intent is the distance of the prices. -/
theorem riskDistance_eq : card.intent.riskDistance
    = input.candidate.direction.sign * (input.candidate.entry - prices.stop) := by
  obtain ⟨hdirection, hentry, hstop, -, -⟩ := h.intent_fields
  unfold EntryIntent.riskDistance
  rw [EntryIntent.sign_eq, hdirection, hentry, hstop, h.levels, mul_comm]
  rfl

/-- **Where the sized distance covers the actual one**, every size fits at a stop that is no
wider. -/
theorem fits_of_covers (hcovers : desk.DistanceCovers input) {q d : ℚ}
    (hle : q ≤ max 1 ((desk.request input prices).maxQty desk.limits card.budget)) (hd : 0 < d)
    (hdistance : d ≤ card.intent.riskDistance) :
    q * d * desk.multiplier input.candidate ≤ card.budget.dollars := by
  obtain ⟨n, hone, hn, hpermissible⟩ := h.exists_top
  have hfits := hcovers prices card.budget h.bracket h.budget n hone hpermissible
  rw [← h.riskDistance_eq] at hfits
  rw [hn] at hle
  have hm := h.multiplier_pos
  calc q * d * desk.multiplier input.candidate
      ≤ n * d * desk.multiplier input.candidate := by gcongr
    _ ≤ n * card.intent.riskDistance * desk.multiplier input.candidate := by gcongr
    _ ≤ card.budget.dollars := hfits

/-- A card on the deterministic bracket passes where the distance covers. -/
theorem passesTap_deterministic (hcovers : desk.DistanceCovers input) (hkeeps : Keeps input e)
    (hon : OnDeterministic card e) : desk.PassesTap input card.budget e := by
  intro q hq
  obtain ⟨hpos, hle⟩ := h.offered_le hon.tiers hon.quantity hq
  obtain ⟨hdirection, hentry, hstop, htarget, hmultiplier⟩ := h.intent_fields
  have hrisk := (EntryIntent.rewardRisk_eq_none.mp h.rewardRisk_eq_none).1
  refine passes_of_fits hkeeps hdirection hentry (hstop.trans hon.stop.symm)
    (htarget.trans hon.target.symm) hmultiplier h.rewardRisk_eq_none hpos ?_
  rw [hmultiplier]
  exact h.fits_of_covers hcovers hle hrisk le_rfl

/-- **The sizes of a wider stop** fit the budget at it. -/
theorem resized_fits {final largest : EntryIntent} {resized : PositionSizing}
    (hresized : desk.calculateDynamicSizing (desk.sizingRequest input.candidate input.account
      final.riskDistance final.rewardDistance) = .ok resized) (hrisk : 0 < final.riskDistance)
    (hlargest : resizedIntent final resized.maxTier.quantity = .ok largest)
    (hpasses : desk.largestPasses input card largest = true) :
    SizingDesk.Offers resized
      (max 1 ((desk.sizingRequest input.candidate input.account final.riskDistance
        final.rewardDistance).maxQty desk.limits card.budget))
      (desk.baseQty (desk.sizingRequest input.candidate input.account final.riskDistance
        final.rewardDistance) card.budget)
    ∧ max 1 ((desk.sizingRequest input.candidate input.account final.riskDistance
        final.rewardDistance).maxQty desk.limits card.budget) * final.riskDistance
        * final.multiplier ≤ card.budget.dollars := by
  obtain ⟨-, hdirection, -, hquantity, hentry, hstop, -, hmultiplier, -⟩ :=
    EntryIntent.make_fields hlargest
  have hoffers := (SizingDesk.offers_of_eq_ok hresized h.budget).resolve_left (by
    rintro ⟨-, rfl⟩
    exact absurd hquantity largest.quantity_pos.ne')
  refine ⟨hoffers.2, ?_⟩
  have hrisk' : largest.riskDistance = final.riskDistance := by
    unfold EntryIntent.riskDistance
    rw [EntryIntent.sign_eq, EntryIntent.sign_eq, hdirection, hentry, hstop]
  unfold largestPasses at hpasses
  rw [Bool.and_eq_true, Bool.and_eq_true, Option.isNone_iff_eq_none] at hpasses
  have hfits := not_lt.mp (refuseIf_eq_none.mp hpasses.1.1)
  rw [riskDollars_eq (hrisk' ▸ hrisk), hrisk', hquantity, hoffers.2.max_qty, hmultiplier] at hfits
  exact hfits

/-- **A card on a bracket that stands passes**: sized again, whatever the deterministic
distance covers. -/
theorem passesTap_stands (hcovers : desk.DistanceCovers input) (hkeeps : Keeps input e)
    {proposal : Proposal} {resized : Option PositionSizing}
    (hfinal : desk.finalBracket input card proposal.stop proposal.target = .ok (some resized))
    (hstop : proposal.stop = .finite e.stopLoss) (htarget : proposal.target = .finite e.takeProfit)
    (hquantity : e.quantity
      = ((resized.map desk.resizedSizes).getD (desk.deterministicSizes card)).quantity)
    (htiers : e.sizingTiers
      = some ((resized.map desk.resizedSizes).getD (desk.deterministicSizes card)).tiers) :
    desk.PassesTap input card.budget e := by
  obtain ⟨final, hintent, hreward, hcases⟩ := finalBracket_eq_some hfinal
  obtain ⟨hstop', htarget', hdirection, hentry, hmultiplier⟩ := finalIntent_eq_ok hintent
  rw [hstop, Extended.finite.injEq] at hstop'
  rw [htarget, Extended.finite.injEq] at htarget'
  have hrisk := (EntryIntent.rewardRisk_eq_none.mp hreward).1
  intro q hq
  rcases hcases with ⟨rfl, hle⟩ | ⟨sizes, largest, rfl, -, hsizes, hlargest, hpasses⟩
  · obtain ⟨hpos, hle'⟩ := h.offered_le (Or.inr htiers) hquantity hq
    refine passes_of_fits hkeeps hdirection hentry hstop'.symm htarget'.symm hmultiplier hreward
      hpos ?_
    rw [hmultiplier]
    refine h.fits_of_covers hcovers hle' hrisk ?_
    -- the deterministic stop is as far as its intent says
    have hdeterministic := EntryIntent.abs_entry_sub_stop
      (EntryIntent.rewardRisk_eq_none.mp h.rewardRisk_eq_none).1
    rw [← EntryIntent.abs_entry_sub_stop hrisk, ← hdeterministic]
    obtain ⟨-, hentry', hstop'', -, -⟩ := h.intent_fields
    rw [hentry', hstop'', ← hentry]
    exact hle
  · obtain ⟨hoffers, hfits⟩ := h.resized_fits hsizes hrisk hlargest hpasses
    have hmem : ∃ t ∈ sizes.tiers, t.quantity = q := by
      have htiers' : e.tiers = sizes.tiers := by
        rw [TradeEvaluation.tiers, htiers]
        rfl
      obtain ⟨t, ht, -⟩ := hoffers.largest
      have hne : sizes.tiers ≠ [] := List.ne_nil_of_mem ht
      unfold TradeEvaluation.offered at hq
      rw [htiers', if_neg hne] at hq
      exact List.mem_map.mp hq
    obtain ⟨t, ht, rfl⟩ := hmem
    refine passes_of_fits hkeeps hdirection hentry hstop'.symm htarget'.symm hmultiplier hreward
      (hoffers.bounds t ht).1 ?_
    refine le_trans ?_ hfits
    have hm := final.multiplier_pos
    have hbound := (hoffers.bounds t ht).2
    gcongr

end Passed

/-- **Where the distance covers, every approved card passes.** -/
theorem cardsPassTap_of_covers (hcovers : desk.DistanceCovers input) :
    desk.CardsPassTap input reader := by
  intro llm e he happroved budget hbudget
  unfold evaluateCandidate at he
  obtain ⟨assessment, hassess, he⟩ := except_bind_eq_ok.mp he
  cases assessment with
  | refused e' =>
    cases he
    rw [refused_not_approved hassess] at happroved
    cases happroved
  | passed card =>
    obtain ⟨prices, sizing, hpassed⟩ := passed_of_assess hassess
    rw [hpassed.budget] at hbudget
    cases hbudget
    cases llm with
    | none =>
      obtain ⟨-, -, hkeeps, hon, -⟩ := quantitativeCard_spec he
      exact hpassed.passesTap_deterministic hcovers hkeeps hon
    | some outcome =>
      rcases llmGate_cases he with
        ⟨-, hkeeps, hon⟩ | ⟨fields, approved, malformed, model, -, happly⟩
      · exact hpassed.passesTap_deterministic hcovers hkeeps hon
      · obtain ⟨-, hkeeps, hcases⟩ := applyReply_cases happly
        rcases hcases with
          hon | ⟨proposal, resized, -, -, hfinal, hstop, htarget, -, hquantity, htiers⟩
        · exact hpassed.passesTap_deterministic hcovers hkeeps hon
        · exact hpassed.passesTap_stands hcovers hkeeps hfinal hstop htarget hquantity htiers

/-! ## A reply that is not a number -/

/-- A proposal whose stop is not a number does not stand. -/
theorem settle_nan {proposal : Proposal} (hstop : proposal.stop = .nan) :
    desk.settle input card proposal = (deterministicProposal card).map
      (fun restored => (restored, desk.deterministicSizes card)) := by
  have hfinal : desk.finalBracket input card proposal.stop proposal.target = .ok none := by
    unfold finalBracket finalIntent
    rw [hstop]
  unfold settle
  rw [if_neg (by rw [hstop]; simp), hfinal]
  cases deterministicProposal card <;> rfl

variable (desk input) in
/-- **An approval with such a stop** is applied on the deterministic bracket, with its
tiers. -/
theorem applyReply_nan {fields : ReplyFields} (model : Option String)
    (hdistance : 0 < card.levels.stopDistance) (hratio : 2 ≤ cardRatio card.levels)
    (hstop : fields.stopLoss = some .nan) :
    ∃ e, desk.applyReply input card fields true false model = .ok e ∧ e.approved = true
      ∧ Keeps input e ∧ OnDeterministic card e
      ∧ e.sizingTiers = some card.levels.sizingTiers := by
  have hplain : deterministicProposal card = .ok ⟨.finite card.levels.stopLoss,
      .finite card.levels.takeProfit, .finite card.levels.stopDistance,
      .finite card.levels.targetDistance, .finite (cardRatio card.levels)⟩ := by
    unfold deterministicProposal plainRatio cardRatio
    rw [if_neg hdistance.ne', if_pos hdistance]
    rfl
  have hsettled : ∃ proposal, desk.propose input card fields = .ok proposal
      ∧ desk.settle input card proposal = .ok (⟨.finite card.levels.stopLoss,
        .finite card.levels.takeProfit, .finite card.levels.stopDistance,
        .finite card.levels.targetDistance, .finite (cardRatio card.levels)⟩,
        desk.deterministicSizes card) := by
    have hclamp : desk.clampStop input card fields.stopLoss = (.nan, .nan) := by
      unfold clampStop
      rw [hstop]
      rfl
    unfold propose
    rw [hclamp, hplain]
    dsimp only
    split_ifs
    · refine ⟨_, rfl, ?_⟩
      unfold settle
      rw [if_pos ⟨rfl, rfl⟩]
    · refine ⟨_, rfl, ?_⟩
      rw [settle_nan rfl, hplain]
      rfl
    · refine ⟨_, rfl, ?_⟩
      rw [settle_nan rfl, hplain]
      rfl
  obtain ⟨proposal, hproposal, hsettle⟩ := hsettled
  obtain ⟨e, he⟩ : ∃ e, desk.replyCard input card fields true false model
      ⟨.finite card.levels.stopLoss, .finite card.levels.takeProfit,
        .finite card.levels.stopDistance, .finite card.levels.targetDistance,
        .finite (cardRatio card.levels)⟩ (desk.deterministicSizes card) = .ok e :=
    TradeEvaluation.withRatio_returns_iff.mpr hratio
  obtain ⟨happroved, hkeeps, hstop', htarget', hquantity, htiers, -⟩ := replyCard_spec he
  rw [Extended.finite.injEq] at hstop' htarget'
  refine ⟨e, ?_, happroved, hkeeps, ⟨hstop'.symm, htarget'.symm, hquantity, Or.inr htiers⟩, htiers⟩
  unfold applyReply
  rw [hproposal]
  show (desk.settle input card proposal >>= _) = _
  rw [hsettle]
  show (desk.replyCard _ _ _ _ _ _ _ _).mapError _ = _
  rw [he]
  rfl

/-- The largest tier on the deterministic bracket passes only where it fits the budget. -/
theorem Passed.top_fits {prices : LevelPrices} {sizing : PositionSizing}
    (h : Passed desk input card prices sizing) (hkeeps : Keeps input e)
    (hon : OnDeterministic card e) (htiers : e.sizingTiers = some card.levels.sizingTiers)
    (hpasses : desk.PassesTap input card.budget e) :
    max 1 ((desk.request input prices).maxQty desk.limits card.budget) * card.intent.riskDistance
      * desk.multiplier input.candidate ≤ card.budget.dollars := by
  obtain ⟨t, ht, htop⟩ := h.offers.largest
  have htiers' : e.tiers = sizing.tiers := by
    rw [TradeEvaluation.tiers, htiers, h.levels]
    rfl
  have hmem : max 1 ((desk.request input prices).maxQty desk.limits card.budget) ∈ e.offered := by
    unfold TradeEvaluation.offered
    rw [htiers', if_neg (List.ne_nil_of_mem ht), ← htop]
    exact List.mem_map_of_mem ht
  obtain ⟨intent, hintent, hreward, hrule⟩ := hpasses _ hmem
  obtain ⟨-, hdirection, -, hquantity, hentry, hstop, -, hmultiplier, -⟩ :=
    EntryIntent.make_fields hintent
  obtain ⟨hdirection', hentry', hstop', -, -⟩ := h.intent_fields
  have hrisk : intent.riskDistance = card.intent.riskDistance := by
    unfold EntryIntent.riskDistance
    rw [EntryIntent.sign_eq, EntryIntent.sign_eq, hdirection, hentry, hstop, hdirection', hentry',
      hstop', hkeeps.direction, hkeeps.entryPrice, hon.stop]
  have hfits := not_lt.mp (refuseIf_eq_none.mp hrule)
  rw [riskDollars_eq (EntryIntent.rewardRisk_eq_none.mp hreward).1, hrisk, hquantity,
    hmultiplier] at hfits
  exact hfits

end EvaluatorDesk

/-- **A card as sent passes its own tap gate where the sized distance covers the actual one.**
On a candidate whose deterministic card is approved, with a sized distance above zero, it
does so for every reply only there: an approval whose stop is not a number leaves the
deterministic bracket with all its tiers. -/
theorem cards_pass_tap_iff (desk : EvaluatorDesk) (input : ScanInput) (reader : ReplyReader)
    (hreader : ∃ content fields, classifyGateReply reader content = .approve fields
      ∧ fields.stopLoss = some .nan) :
    (desk.DistanceCovers input → desk.CardsPassTap input reader)
    ∧ ((∃ e, desk.evaluateCandidate input reader none = .ok e ∧ e.approved = true) →
      (∀ prices, desk.bracket input = .ok prices → 0 < prices.stopDistance) →
      (desk.CardsPassTap input reader ↔ desk.DistanceCovers input)) := by
  refine ⟨EvaluatorDesk.cardsPassTap_of_covers, ?_⟩
  rintro ⟨e₀, he₀, happroved₀⟩ hdistance
  refine ⟨fun hpass => ?_, EvaluatorDesk.cardsPassTap_of_covers⟩
  -- the deterministic card, and the reply that leaves its tiers
  unfold EvaluatorDesk.evaluateCandidate at he₀
  obtain ⟨assessment, hassess, he₀⟩ := except_bind_eq_ok.mp he₀
  cases assessment with
  | refused e' =>
    cases he₀
    rw [EvaluatorDesk.refused_not_approved hassess] at happroved₀
    cases happroved₀
  | passed card =>
    obtain ⟨prices, sizing, hpassed⟩ := EvaluatorDesk.passed_of_assess hassess
    obtain ⟨-, hratio, -, -, -⟩ := EvaluatorDesk.quantitativeCard_spec he₀
    have hpos : 0 < card.levels.stopDistance := by
      rw [hpassed.levels]
      exact hdistance prices hpassed.bracket
    obtain ⟨content, fields, hreply, hstop⟩ := hreader
    obtain ⟨e, he, happroved, hkeeps, hon, htiers⟩ :=
      desk.applyReply_nan input none hpos hratio hstop
    have hevaluate : desk.evaluateCandidate input reader (some (.replied content none))
        = .ok e := by
      unfold EvaluatorDesk.evaluateCandidate
      rw [hassess]
      show desk.llmGate input reader card (.replied content none) = .ok e
      unfold EvaluatorDesk.llmGate
      dsimp only
      rw [hreply]
      dsimp only
      rw [he]
    have htop := hpassed.top_fits hkeeps hon htiers
      (hpass _ e hevaluate happroved card.budget hpassed.budget)
    intro prices' budget' hprices' hbudget' n hn hoffered
    rw [hpassed.bracket] at hprices'
    rw [hpassed.budget] at hbudget'
    cases hprices'
    cases hbudget'
    rw [← hpassed.riskDistance_eq]
    have hle : (n : ℚ) ≤ max 1 ((desk.request input prices).maxQty desk.limits card.budget) := by
      rcases hoffered with hpermissible | ⟨rfl, -⟩
      · exact ((SizingRequest.natCast_le_maxQty _ _ _ hn).mpr hpermissible).trans
          (le_max_right _ _)
      · exact_mod_cast le_max_left _ _
    have hrisk := (EntryIntent.rewardRisk_eq_none.mp hpassed.rewardRisk_eq_none).1
    have hm := hpassed.multiplier_pos
    calc n * card.intent.riskDistance * desk.multiplier input.candidate
        ≤ max 1 ((desk.request input prices).maxQty desk.limits card.budget)
          * card.intent.riskDistance * desk.multiplier input.candidate := by gcongr
      _ ≤ card.budget.dollars := htop

/-- A distance that is not rounded down covers. -/
theorem EvaluatorDesk.distanceCovers_of_le {desk : EvaluatorDesk} {input : ScanInput}
    {prices : LevelPrices} (hprices : desk.bracket input = .ok prices)
    (hmultiplier : 0 < desk.multiplier input.candidate)
    (hmin : 0 < (desk.request input prices).minimum desk.sizing)
    (hle : input.candidate.direction.sign * (input.candidate.entry - prices.stop)
      ≤ prices.stopDistance) :
    desk.DistanceCovers input := by
  intro prices' budget hprices' hbudget n hn hoffered
  rw [hprices] at hprices'
  cases hprices'
  rcases hoffered with hpermissible | ⟨-, hle'⟩
  · calc n * (input.candidate.direction.sign * (input.candidate.entry - prices.stop))
          * desk.multiplier input.candidate
        ≤ n * prices.stopDistance * desk.multiplier input.candidate := by gcongr
      _ = n * (prices.stopDistance * desk.multiplier input.candidate) := mul_assoc _ _ _
      _ ≤ n * (desk.request input prices).perUnitRisk := by
          gcongr
          exact le_max_left _ _
      _ ≤ (desk.request input prices).maxRiskDollars budget := hpermissible.2.1
      _ ≤ budget.dollars := ((desk.request input prices).maxRiskDollars_le budget).1
  · exact absurd hmin (not_lt.mpr hle')

/-- At 100 the stop at 98.50 is sized as it is: whatever the LLM replies, the card passes. -/
theorem cards_pass_tap_pullback :
    evaluatorDesk.CardsPassTap (quietScan (pullback 100 99))
      (approvingReader (some .nan) none) := by
  refine (cards_pass_tap_iff evaluatorDesk (quietScan (pullback 100 99))
    (approvingReader (some .nan) none) ⟨some "", _, rfl, rfl⟩).1 ?_
  have hrun : (evaluatorDesk.bracket (quietScan (pullback 100 99))).toOption.any (fun prices =>
      decide (Direction.long.sign * (100 - prices.stop) ≤ prices.stopDistance)) = true := by
    decide +kernel
  cases hprices : evaluatorDesk.bracket (quietScan (pullback 100 99)) with
  | error message =>
    rw [hprices] at hrun
    cases hrun
  | ok prices =>
    rw [hprices] at hrun
    have hmin : 0 < (sizingDesk 1).sizing.minShares := one_pos
    exact EvaluatorDesk.distanceCovers_of_le hprices (by decide +kernel) hmin
      (of_decide_eq_true hrun)

/-- A candidate at 20.004, with a stop at 16. -/
def subCentScan : ScanInput := quietScan (pullback (20004 / 1000) (1602 / 100))

theorem tradeBudget_subCentScan :
    evaluatorDesk.tradeBudget subCentScan = .ok ⟨100000, 0, 1, 1, 1000⟩ := by
  simp [EvaluatorDesk.tradeBudget, perTradeRiskBudget, riskCapital, drawdownRiskFactor,
    macroRiskFactor, macroFactorFloor, evaluatorDesk, levelDesk, sizingDesk, sizingLimits,
    subCentScan, quietScan, calmRegime, bind, Except.bind]
  norm_num

/-- The distance of 4.004 is sized at 4: two hundred and fifty shares, the largest tier, risk
1001 dollars of a budget of 1000. -/
theorem sub_cent_tier_fails_tap :
    ∃ e budget, evaluatorDesk.evaluateCandidate subCentScan (approvingReader none none)
        (some (.replied (some "") none)) = .ok e
      ∧ e.approved = true ∧ evaluatorDesk.tradeBudget subCentScan = .ok budget
      ∧ ¬ evaluatorDesk.PassesTap subCentScan budget e := by
  have hrun : (evaluatorDesk.evaluateCandidate subCentScan (approvingReader none none)
      (some (.replied (some "") none))).toOption.any (fun e =>
        e.approved && (decide (e.direction = .long) && e.offered.any
          (fun q => decide (1000 < q * (e.entryPrice - e.stopLoss))))) = true := by
    decide +kernel
  cases he : evaluatorDesk.evaluateCandidate subCentScan (approvingReader none none)
      (some (.replied (some "") none)) with
  | error message =>
    rw [he] at hrun
    cases hrun
  | ok e =>
    rw [he] at hrun
    obtain ⟨happroved, hlarge⟩ := Bool.and_eq_true_iff.mp hrun
    obtain ⟨hlong, hlarge⟩ := Bool.and_eq_true_iff.mp hlarge
    obtain ⟨q, hq, hover⟩ := List.any_eq_true.mp hlarge
    refine ⟨e, _, rfl, happroved, tradeBudget_subCentScan, fun hpasses => ?_⟩
    obtain ⟨intent, hintent, hreward, hrule⟩ := hpasses q hq
    obtain ⟨-, hdirection, -, hquantity, hentry, hstop, -, hmultiplier, -⟩ :=
      EntryIntent.make_fields hintent
    have hfits := not_lt.mp (refuseIf_eq_none.mp hrule)
    have hone : evaluatorDesk.multiplier subCentScan.candidate = 1 := by decide +kernel
    rw [EvaluatorDesk.riskDollars_eq (EntryIntent.rewardRisk_eq_none.mp hreward).1,
      EntryIntent.riskDistance, EntryIntent.sign_eq, hquantity, hentry, hstop, hdirection,
      of_decide_eq_true hlong, hmultiplier, hone] at hfits
    have hover' := of_decide_eq_true hover
    simp only [Direction.sign, if_true, mul_one] at hfits
    linarith

end AgenticTrader
