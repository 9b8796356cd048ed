import AgenticTrader.Risk.Rules
import Mathlib

/-!
# Admission is downward closed

Every rule of admission asks for less of a smaller book and of a smaller order:
the sums, the counts, the filter of an asset class and those of the correlation
groups are monotone in the positions, as long as the exposure is known. So what
admission accepts, it accepts with positions removed, with smaller exposures and
for a smaller quantity. The rules of the scan are among those of admission, so
it also passes those. The budget of a trade falls with the drawdown, grows with
the equity and has the configured share of the configured cash as its ceiling.
-/

namespace AgenticTrader

/-! ## Smaller books -/

/-- **A position with no more exposure**: the same instrument and side, and known
numbers that are not greater. -/
structure BookPosition.Below (p q : BookPosition) : Prop where
  symbol : p.symbol = q.symbol
  direction : p.direction = q.direction
  assetClass : p.assetClass = q.assetClass
  notional : ∃ m n, p.notional = some m ∧ q.notional = some n ∧ 0 ≤ m ∧ m ≤ n
  plannedRisk : ∃ m n, p.plannedRisk = some m ∧ q.plannedRisk = some n ∧ 0 ≤ m ∧ m ≤ n

/-- **A smaller book**: some positions are gone, others have less exposure. -/
def Book.Below (book book' : Book) : Prop :=
  List.SublistForall₂ BookPosition.Below book.positions book'.positions

namespace BookPosition

theorem valid_iff {p : BookPosition} :
    p.valid = true ↔ (∃ n, p.notional = some n ∧ 0 ≤ n) ∧ ∃ n, p.plannedRisk = some n ∧ 0 ≤ n := by
  unfold valid
  rw [Bool.and_eq_true, Option.any_eq_true, Option.any_eq_true]
  simp only [decide_eq_true_eq]

theorem Below.refl {p : BookPosition} (h : p.valid = true) : p.Below p := by
  obtain ⟨⟨m, hm, hm₀⟩, n, hn, hn₀⟩ := valid_iff.mp h
  exact ⟨rfl, rfl, rfl, ⟨m, m, hm, hm, hm₀, le_rfl⟩, ⟨n, n, hn, hn, hn₀, le_rfl⟩⟩

variable {p q : BookPosition}

theorem Below.valid (h : p.Below q) : p.valid = true := by
  obtain ⟨m, -, hm, -, hm₀, -⟩ := h.notional
  obtain ⟨n, -, hn, -, hn₀, -⟩ := h.plannedRisk
  exact valid_iff.mpr ⟨⟨m, hm, hm₀⟩, n, hn, hn₀⟩

theorem Below.notional_le (h : p.Below q) : p.notional.getD 0 ≤ q.notional.getD 0 := by
  obtain ⟨m, n, hm, hn, -, hle⟩ := h.notional
  rw [hm, hn]
  exact hle

theorem Below.plannedRisk_le (h : p.Below q) : p.plannedRisk.getD 0 ≤ q.plannedRisk.getD 0 := by
  obtain ⟨m, n, hm, hn, -, hle⟩ := h.plannedRisk
  rw [hm, hn]
  exact hle

end BookPosition

/-- What is left of a smaller list when the same positions are kept of both. -/
theorem sublistForall₂_filter {l l' : List BookPosition} {keep : BookPosition → Bool}
    (hkeep : ∀ p q, BookPosition.Below p q → keep p = keep q)
    (h : List.SublistForall₂ BookPosition.Below l l') :
    List.SublistForall₂ BookPosition.Below (l.filter keep) (l'.filter keep) := by
  obtain ⟨k, hk, hsub⟩ := List.sublistForall₂_iff.mp h
  refine List.sublistForall₂_iff.mpr ⟨k.filter keep, ?_, hsub.filter keep⟩
  refine List.rel_filter (fun p q hpq => ?_) hk
  show keep p = true ↔ keep q = true
  rw [hkeep p q hpq]

/-- Every position of a smaller list is one of the greater list, with no more
exposure. -/
theorem exists_mem_of_below {l l' : List BookPosition} {p : BookPosition}
    (h : List.SublistForall₂ BookPosition.Below l l') (hp : p ∈ l) : ∃ q ∈ l', p.Below q := by
  induction h with
  | nil => cases hp
  | cons hpq _ ih =>
    rcases List.mem_cons.mp hp with rfl | hp
    · exact ⟨_, List.mem_cons_self, hpq⟩
    · obtain ⟨q, hq, hpq'⟩ := ih hp
      exact ⟨q, List.mem_cons_of_mem _ hq, hpq'⟩
  | cons_right _ ih =>
    obtain ⟨q, hq, hpq⟩ := ih hp
    exact ⟨q, List.mem_cons_of_mem _ hq, hpq⟩

/-- A sum over a smaller list is not greater. -/
theorem sum_le_of_below {l l' : List BookPosition} {value : BookPosition → ℚ}
    (hle : ∀ p q, BookPosition.Below p q → value p ≤ value q) (hpos : ∀ q ∈ l', 0 ≤ value q)
    (h : List.SublistForall₂ BookPosition.Below l l') :
    (l.map value).sum ≤ (l'.map value).sum := by
  obtain ⟨k, hk, hsub⟩ := List.sublistForall₂_iff.mp h
  have hvalues : List.SublistForall₂ (· ≤ ·) (l.map value) (l'.map value) := by
    refine List.sublistForall₂_iff.mpr ⟨k.map value, ?_, hsub.map value⟩
    rw [List.forall₂_map_left_iff, List.forall₂_map_right_iff]
    exact hk.imp hle
  refine hvalues.sum_le_sum ?_
  intro v hv
  obtain ⟨q, hq, rfl⟩ := List.mem_map.mp hv
  exact hpos q hq

namespace Book

variable {book book' : Book}

/-- The exposure of every position is known. -/
theorem invalid_eq_nil_iff : book.invalid = [] ↔ ∀ p ∈ book.positions, p.valid = true := by
  unfold invalid
  rw [List.filter_eq_nil_iff]
  simp

theorem notional_nonneg (h : book.invalid = []) : ∀ p ∈ book.positions, 0 ≤ p.notional.getD 0 := by
  intro p hp
  obtain ⟨⟨n, hn, hn₀⟩, -⟩ := BookPosition.valid_iff.mp (invalid_eq_nil_iff.mp h p hp)
  rw [hn]
  exact hn₀

theorem plannedRisk_nonneg (h : book.invalid = []) :
    ∀ p ∈ book.positions, 0 ≤ p.plannedRisk.getD 0 := by
  intro p hp
  obtain ⟨-, n, hn, hn₀⟩ := BookPosition.valid_iff.mp (invalid_eq_nil_iff.mp h p hp)
  rw [hn]
  exact hn₀

theorem Below.invalid (h : book.Below book') : book.invalid = [] := by
  rw [invalid_eq_nil_iff]
  intro p hp
  obtain ⟨q, -, hpq⟩ := exists_mem_of_below h hp
  exact hpq.valid

theorem Below.count (h : book.Below book') : book.count ≤ book'.count := by
  obtain ⟨k, hk, hsub⟩ := List.sublistForall₂_iff.mp h
  exact hk.length_eq.le.trans hsub.length_le

theorem Below.notional (h : book.Below book') (hv : book'.invalid = []) :
    book.notional ≤ book'.notional :=
  sum_le_of_below (fun _ _ => BookPosition.Below.notional_le) (notional_nonneg hv) h

theorem Below.plannedRisk (h : book.Below book') (hv : book'.invalid = []) :
    book.plannedRisk ≤ book'.plannedRisk :=
  sum_le_of_below (fun _ _ => BookPosition.Below.plannedRisk_le) (plannedRisk_nonneg hv) h

theorem Below.notionalFor (h : book.Below book') (hv : book'.invalid = []) (c : AssetClass) :
    book.notionalFor c ≤ book'.notionalFor c := by
  refine sum_le_of_below (fun _ _ => BookPosition.Below.notional_le) ?_
    (sublistForall₂_filter (fun p q hpq => by rw [hpq.assetClass]) h)
  intro q hq
  exact notional_nonneg hv q (List.mem_of_mem_filter hq)

theorem Below.holds (h : book.Below book') (text : RiskText) (symbol : String)
    (hno : book'.holds text symbol = false) : book.holds text symbol = false := by
  rw [Book.holds, List.any_eq_false] at hno ⊢
  intro p hp
  obtain ⟨q, hq, hpq⟩ := exists_mem_of_below h hp
  rw [hpq.symbol]
  exact hno q hq

theorem Below.sameDirectionIn (h : book.Below book') (text : RiskText) (keys : List String)
    (direction : Direction) :
    (book.sameDirectionIn text keys direction).length
      ≤ (book'.sameDirectionIn text keys direction).length := by
  have hfilter : List.SublistForall₂ BookPosition.Below (book.sameDirectionIn text keys direction)
      (book'.sameDirectionIn text keys direction) :=
    sublistForall₂_filter (fun p q hpq => by rw [hpq.symbol, hpq.direction]) h
  obtain ⟨k, hk, hsub⟩ := List.sublistForall₂_iff.mp hfilter
  exact hk.length_eq.le.trans hsub.length_le

end Book

/-! ## Smaller orders -/

namespace EntryIntent

/-- The intent for another quantity. -/
def withQuantity (i : EntryIntent) (quantity : ℚ) (h : 0 < quantity) : EntryIntent :=
  { i with quantity := quantity, quantity_pos := h }

variable (i : EntryIntent) {quantity : ℚ} (h : 0 < quantity)

theorem riskDollars_withQuantity_le (hle : quantity ≤ i.quantity) :
    (i.withQuantity quantity h).riskDollars ≤ i.riskDollars := by
  show max i.riskDistance 0 * quantity * i.multiplier
    ≤ max i.riskDistance 0 * i.quantity * i.multiplier
  have hrisk : 0 ≤ max i.riskDistance 0 := le_max_right _ _
  have hmultiplier := i.multiplier_pos.le
  gcongr

theorem notional_withQuantity_le (hle : quantity ≤ i.quantity) :
    (i.withQuantity quantity h).notional ≤ i.notional := by
  have hprice : 0 ≤ i.exposurePrice := by
    unfold exposurePrice
    split
    · exact i.entry_pos.le.trans (le_max_left _ _)
    · exact i.entry_pos.le
  have hmultiplier := i.multiplier_pos.le
  show i.exposurePrice * quantity * i.multiplier ≤ i.exposurePrice * i.quantity * i.multiplier
  gcongr

end EntryIntent

/-! ## Admission -/

section Admission

variable {text : RiskText} {intent : EntryIntent} {book book' : Book} {budget : RiskBudget}
  {limits : RiskLimits} {regimeMinRr : Option ℚ}

/-- **The rules of the scan are among those of admission.** -/
theorem bookGates_of_admission
    (h : admissionGates text intent book budget limits regimeMinRr = none) :
    bookGates text intent book budget limits = [] := by
  obtain ⟨hknown, hhalt, -, -, -, -, hrisk, hcount, hsame, hportfolio, hclass, hgroup⟩ :=
    admissionGates_eq_none.mp h
  exact bookGates_eq_nil.mpr ⟨hknown, hhalt, hrisk, hcount, hsame, hportfolio, hclass, hgroup⟩

/-- **Admission accepts a smaller order against a smaller book.** -/
theorem admissionGates_below
    (h : admissionGates text intent book budget limits regimeMinRr = none)
    (hbook : book'.Below book) {quantity : ℚ} (hq : 0 < quantity)
    (hle : quantity ≤ intent.quantity) :
    admissionGates text (intent.withQuantity quantity hq) book' budget limits regimeMinRr
      = none := by
  obtain ⟨hknown, hhalt, hreward, htrade, hnotional, hcap, hrisk, hcount, hsame, hportfolio, hclass,
    hgroup⟩ := admissionGates_eq_none.mp h
  have hvalid : book.invalid = [] := not_not.mp (refuseIf_eq_none.mp hknown)
  have hdollars := intent.riskDollars_withQuantity_le hq hle
  have hvalue := intent.notional_withQuantity_le hq hle
  refine admissionGates_eq_none.mpr
    ⟨?_, hhalt, hreward, ?_, ?_, ?_, ?_, ?_, ?_, ?_, ?_, ?_⟩
  · exact refuseIf_eq_none.mpr (not_not.mpr hbook.invalid)
  · exact refuseIf_eq_none.mpr
      (not_lt.mpr (hdollars.trans (not_lt.mp (refuseIf_eq_none.mp htrade))))
  · exact refuseIf_eq_none.mpr
      (not_lt.mpr (hvalue.trans (not_lt.mp (refuseIf_eq_none.mp hnotional))))
  · exact refuseIf_eq_none.mpr (not_lt.mpr (hle.trans (not_lt.mp (refuseIf_eq_none.mp hcap))))
  · refine refuseIf_eq_none.mpr (not_lt.mpr ?_)
    exact (add_le_add (hbook.plannedRisk hvalid) hdollars).trans
      (not_lt.mp (refuseIf_eq_none.mp hrisk))
  · refine refuseIf_eq_none.mpr (not_le.mpr ?_)
    exact hbook.count.trans_lt (not_le.mp (refuseIf_eq_none.mp hcount))
  · refine refuseIf_eq_none.mpr ?_
    rw [Bool.not_eq_true]
    exact hbook.holds text intent.symbol (by simpa using refuseIf_eq_none.mp hsame)
  · refine refuseIf_eq_none.mpr (not_lt.mpr ?_)
    exact (add_le_add (hbook.notional hvalid) hvalue).trans
      (not_lt.mp (refuseIf_eq_none.mp hportfolio))
  · unfold assetClassNotional at hclass ⊢
    have hasset : (intent.withQuantity quantity hq).assetClass = intent.assetClass := rfl
    rw [hasset]
    cases hc : limits.assetClassCaps intent.assetClass with
    | none => rfl
    | some cap =>
      rw [hc] at hclass
      refine refuseIf_eq_none.mpr (not_lt.mpr ?_)
      exact (add_le_add (hbook.notionalFor hvalid _) hvalue).trans
        (not_lt.mp (refuseIf_eq_none.mp hclass))
  · unfold correlationGroup at hgroup ⊢
    rw [List.findSome?_eq_none_iff] at hgroup ⊢
    intro group hg
    refine refuseIf_eq_none.mpr ?_
    rintro ⟨hmem, hfull⟩
    refine refuseIf_eq_none.mp (hgroup group hg) ⟨hmem, hfull.trans ?_⟩
    exact hbook.sameDirectionIn text group.2 intent.direction

end Admission

/-! ## The budget -/

section Budget

variable {limits : RiskLimits}

/-- The capital is positive and at most the configured one. -/
theorem riskCapital_bounds {mandate capital : ℚ} {equity : Option ℚ}
    (h : riskCapital mandate equity = .ok capital) : 0 < capital ∧ capital ≤ mandate := by
  unfold riskCapital at h
  split at h
  · cases h
  · rename_i hmandate
    split at h
    · cases h
      exact ⟨not_le.mp hmandate, le_rfl⟩
    · split at h
      · cases h
      · rename_i hequity
        cases h
        exact ⟨lt_min (not_le.mp hmandate) (not_le.mp hequity), min_le_left _ _⟩

/-- It grows with the equity. -/
theorem riskCapital_mono {mandate capital capital' equity equity' : ℚ} (hle : equity ≤ equity')
    (h : riskCapital mandate (some equity) = .ok capital)
    (h' : riskCapital mandate (some equity') = .ok capital') : capital ≤ capital' := by
  unfold riskCapital at h h'
  split at h
  · cases h
  · rename_i hmandate
    rw [if_neg hmandate] at h'
    dsimp only at h h'
    split at h
    · cases h
    · split at h'
      · cases h'
      · cases h
        cases h'
        exact min_le_min le_rfl hle

/-- The haircut between the threshold and the halt. -/
theorem haircut_bounds (hmin : limits.drawdownMinRiskMultiplier ≤ 1) {drawdown : ℚ}
    (habove : limits.drawdownHaircutThresholdPct < drawdown)
    (hbelow : drawdown < limits.maxDrawdownStopPct) :
    0 ≤ max limits.drawdownMinRiskMultiplier
        (1 - (drawdown - limits.drawdownHaircutThresholdPct)
          / (limits.maxDrawdownStopPct - limits.drawdownHaircutThresholdPct))
      ∧ max limits.drawdownMinRiskMultiplier
        (1 - (drawdown - limits.drawdownHaircutThresholdPct)
          / (limits.maxDrawdownStopPct - limits.drawdownHaircutThresholdPct)) ≤ 1 := by
  have hspan : 0 < limits.maxDrawdownStopPct - limits.drawdownHaircutThresholdPct := by linarith
  have hexcess : 0 ≤ (drawdown - limits.drawdownHaircutThresholdPct)
      / (limits.maxDrawdownStopPct - limits.drawdownHaircutThresholdPct) :=
    div_nonneg (by linarith) hspan.le
  have hshare : (drawdown - limits.drawdownHaircutThresholdPct)
      / (limits.maxDrawdownStopPct - limits.drawdownHaircutThresholdPct) ≤ 1 := by
    rw [div_le_one hspan]
    linarith
  exact ⟨le_max_of_le_right (by linarith), max_le hmin (by linarith)⟩

/-- **The drawdown factor is between 0 and 1.** -/
theorem drawdownRiskFactor_bounds (hmin : limits.drawdownMinRiskMultiplier ≤ 1)
    {drawdown factor : ℚ} (h : drawdownRiskFactor drawdown limits = .ok factor) :
    0 ≤ factor ∧ factor ≤ 1 := by
  unfold drawdownRiskFactor at h
  split at h
  · cases h
  · split at h
    · cases h
      exact ⟨zero_le_one, le_rfl⟩
    · split at h
      · cases h
        exact ⟨le_rfl, zero_le_one⟩
      · rename_i hbelow
        split at h
        · cases h
          exact ⟨zero_le_one, le_rfl⟩
        · rename_i habove
          cases h
          exact haircut_bounds hmin (not_le.mp habove) (not_le.mp hbelow)

/-- **It falls with the drawdown.** -/
theorem drawdownRiskFactor_antitone (hmin : limits.drawdownMinRiskMultiplier ≤ 1)
    {drawdown drawdown' factor factor' : ℚ} (hle : drawdown ≤ drawdown')
    (h : drawdownRiskFactor drawdown limits = .ok factor)
    (h' : drawdownRiskFactor drawdown' limits = .ok factor') : factor' ≤ factor := by
  have hbounds := drawdownRiskFactor_bounds hmin h
  have hbounds' := drawdownRiskFactor_bounds hmin h'
  unfold drawdownRiskFactor at h h'
  split at h
  · cases h
  · split at h'
    · cases h'
    · split at h
      · cases h
        exact hbounds'.2
      · rename_i hgating
        rw [if_neg hgating] at h'
        split at h'
        · -- halted at the greater drawdown
          cases h'
          exact hbounds.1
        · rename_i hstop'
          rw [if_neg (fun hstop => hstop' (hstop.trans hle))] at h
          split at h
          · -- no haircut at the smaller one
            cases h
            exact hbounds'.2
          · rename_i habove
            rw [if_neg (fun hle' => habove (hle.trans hle'))] at h'
            cases h
            cases h'
            have hspan : 0 < limits.maxDrawdownStopPct - limits.drawdownHaircutThresholdPct := by
              linarith [not_le.mp hstop', not_le.mp habove]
            refine max_le_max le_rfl (sub_le_sub_left ?_ _)
            exact div_le_div_of_nonneg_right (by linarith) hspan.le

theorem macroRiskFactor_bounds (multiplier : ℚ) :
    0 ≤ macroRiskFactor multiplier ∧ macroRiskFactor multiplier ≤ 1 := by
  unfold macroRiskFactor macroFactorFloor
  exact ⟨le_max_of_le_left (by norm_num), max_le (by norm_num) (min_le_left _ _)⟩

/-- **The parts of a budget.** -/
theorem perTradeRiskBudget_ok {equity : Option ℚ} {drawdown multiplier : ℚ} {budget : RiskBudget}
    (h : perTradeRiskBudget limits equity drawdown multiplier = .ok budget) :
    ∃ capital factor, riskCapital limits.cash equity = .ok capital
      ∧ drawdownRiskFactor drawdown limits = .ok factor
      ∧ budget.dollars
        = capital * limits.maxRiskPctCap * factor * macroRiskFactor multiplier := by
  unfold perTradeRiskBudget at h
  cases hcapital : riskCapital limits.cash equity with
  | error text =>
    rw [hcapital] at h
    cases h
  | ok capital =>
    cases hfactor : drawdownRiskFactor drawdown limits with
    | error text =>
      rw [hcapital, hfactor] at h
      cases h
    | ok factor =>
      rw [hcapital, hfactor] at h
      cases h
      exact ⟨capital, factor, rfl, rfl, rfl⟩

/-- **A budget is monotone in its capital and its factor**, and so falls with the
drawdown and grows with the equity. -/
theorem dollars_le {capital capital' factor factor' multiplier : ℚ} (hcapital : 0 < capital)
    (hle : capital ≤ capital') (hfactor : 0 ≤ factor) (hle' : factor ≤ factor') :
    capital * limits.maxRiskPctCap * factor * macroRiskFactor multiplier
      ≤ capital' * limits.maxRiskPctCap * factor' * macroRiskFactor multiplier := by
  have hcap := limits.maxRiskPctCap_nonneg
  have hfactored := (macroRiskFactor_bounds multiplier).1
  have hcapital' := hcapital.le.trans hle
  gcongr

/-- The budget never exceeds the configured share of the configured cash. -/
theorem dollars_le_cap {capital factor multiplier : ℚ} (hcapital : 0 < capital)
    (hle : capital ≤ limits.cash) (hfactor : 0 ≤ factor) (hle' : factor ≤ 1) :
    capital * limits.maxRiskPctCap * factor * macroRiskFactor multiplier
      ≤ limits.cash * limits.maxRiskPctCap := by
  have hcap := limits.maxRiskPctCap_nonneg
  have hfactored := macroRiskFactor_bounds multiplier
  have hproduct : 0 ≤ capital * limits.maxRiskPctCap := mul_nonneg hcapital.le hcap
  calc capital * limits.maxRiskPctCap * factor * macroRiskFactor multiplier
      ≤ capital * limits.maxRiskPctCap * factor :=
        mul_le_of_le_one_right (mul_nonneg hproduct hfactor) hfactored.2
    _ ≤ capital * limits.maxRiskPctCap := mul_le_of_le_one_right hproduct hle'
    _ ≤ limits.cash * limits.maxRiskPctCap := mul_le_mul_of_nonneg_right hle hcap

end Budget

/-- **Admission is downward closed and implies the scan's gates.** What admission
accepts passes every rule of the scan, and is accepted with any positions
removed from the book, with any exposures replaced by smaller ones that are not
negative, and for any smaller quantity. The budget of a trade falls with the
drawdown, grows with the equity, and is at most the configured share of the
cash. -/
theorem admission_downward_closed (text : RiskText) (limits : RiskLimits)
    (hmin : limits.drawdownMinRiskMultiplier ≤ 1) :
    (∀ (intent : EntryIntent) (book : Book) (budget : RiskBudget) (regimeMinRr : Option ℚ),
      admissionGates text intent book budget limits regimeMinRr = none →
      bookGates text intent book budget limits = []
        ∧ (∀ kept, kept.Sublist book.positions →
          admissionGates text intent ⟨kept⟩ budget limits regimeMinRr = none)
        ∧ (∀ reduced, List.Forall₂ BookPosition.Below reduced book.positions →
          admissionGates text intent ⟨reduced⟩ budget limits regimeMinRr = none)
        ∧ ∀ (quantity : ℚ) (hq : 0 < quantity), quantity ≤ intent.quantity →
          admissionGates text (intent.withQuantity quantity hq) book budget limits regimeMinRr
            = none)
      ∧ ∀ (equity : Option ℚ) (drawdown multiplier : ℚ) (budget : RiskBudget),
        perTradeRiskBudget limits equity drawdown multiplier = .ok budget →
        budget.dollars ≤ limits.cash * limits.maxRiskPctCap
          ∧ (∀ drawdown' budget', drawdown ≤ drawdown' →
            perTradeRiskBudget limits equity drawdown' multiplier = .ok budget' →
            budget'.dollars ≤ budget.dollars)
          ∧ ∀ e e' budget', equity = some e → e ≤ e' →
            perTradeRiskBudget limits (some e') drawdown multiplier = .ok budget' →
            budget.dollars ≤ budget'.dollars := by
  refine ⟨fun intent book budget regimeMinRr h => ?_, fun equity drawdown multiplier budget h => ?_⟩
  · have hknown : exposureKnown book = none := (admissionGates_eq_none.mp h).1
    have hvalid := Book.invalid_eq_nil_iff.mp (not_not.mp (refuseIf_eq_none.mp hknown))
    have hsame : List.Forall₂ BookPosition.Below book.positions book.positions :=
      List.forall₂_same.mpr (fun p hp => BookPosition.Below.refl (hvalid p hp))
    refine ⟨bookGates_of_admission h, fun kept hkept => ?_, fun reduced hreduced => ?_,
      fun quantity hq hle => ?_⟩
    · have hbelow : (Book.mk kept).Below book := by
        refine List.sublistForall₂_iff.mpr ⟨kept, ?_, hkept⟩
        exact List.forall₂_same.mpr
          (fun p hp => BookPosition.Below.refl (hvalid p (hkept.subset hp)))
      exact admissionGates_below h hbelow intent.quantity_pos le_rfl
    · have hbelow : (Book.mk reduced).Below book :=
        List.sublistForall₂_iff.mpr ⟨book.positions, hreduced, List.Sublist.refl _⟩
      exact admissionGates_below h hbelow intent.quantity_pos le_rfl
    · have hbelow : book.Below book :=
        List.sublistForall₂_iff.mpr ⟨book.positions, hsame, List.Sublist.refl _⟩
      exact admissionGates_below h hbelow hq hle
  · obtain ⟨capital, factor, hcapital, hfactor, hdollars⟩ := perTradeRiskBudget_ok h
    have hc := riskCapital_bounds hcapital
    have hf := drawdownRiskFactor_bounds hmin hfactor
    refine ⟨?_, fun drawdown' budget' hle h' => ?_, fun e e' budget' he hle h' => ?_⟩
    · rw [hdollars]
      exact dollars_le_cap hc.1 hc.2 hf.1 hf.2
    · obtain ⟨capital', factor', hcapital', hfactor', hdollars'⟩ := perTradeRiskBudget_ok h'
      rw [hcapital] at hcapital'
      cases hcapital'
      rw [hdollars, hdollars']
      exact dollars_le hc.1 le_rfl (drawdownRiskFactor_bounds hmin hfactor').1
        (drawdownRiskFactor_antitone hmin hle hfactor hfactor')
    · obtain ⟨capital', factor', hcapital', hfactor', hdollars'⟩ := perTradeRiskBudget_ok h'
      rw [hfactor] at hfactor'
      cases hfactor'
      rw [hdollars, hdollars']
      exact dollars_le hc.1 (riskCapital_mono hle (he ▸ hcapital) hcapital') hf.1 le_rfl

/-! ### An order against one position -/

def deskText : RiskText where
  upper := String.toUpper
  percent1 q := toString q
  fixed2 q := toString q
  dollars q := toString q

/-- The limits of a small desk. -/
def deskLimits : RiskLimits where
  cash := 60000
  drawdownGatingEnabled := true
  drawdownHaircutThresholdPct := 3 / 100
  maxDrawdownStopPct := 6 / 100
  drawdownMinRiskMultiplier := 1 / 10
  maxRiskPctCap := 1 / 100
  maxTradeNotionalCap := 30000
  maxSharesPerTrade := 500
  maxContractsPerTrade := 4
  maxStopRiskPct := 3 / 100
  maxNotionalExposure := 60000
  assetClassCaps := fun c => if c = .equity then some 40000 else none
  maxConcurrentPositions := 3
  maxCorrelatedPositions := 2
  correlationGroups := [("index", ["SPY", "QQQ"])]
  minRiskRewardRatio := 2
  cash_nonneg := by norm_num
  maxRiskPctCap_nonneg := by norm_num
  maxTradeNotionalCap_nonneg := by norm_num
  maxStopRiskPct_nonneg := by norm_num
  maxNotionalExposure_nonneg := by norm_num
  assetClassCaps_nonneg c cap h := by
    split at h
    · cases h
      norm_num
    · cases h

/-- Ten shares of SPY, with a stop 2 below and a target 5 above. -/
def deskIntent : EntryIntent where
  symbol := "SPY"
  direction := .long
  assetClass := .equity
  quantity := 10
  entry := 500
  stop := 498
  target := 505
  multiplier := 1
  currentPrice := none
  quantity_pos := by norm_num
  entry_pos := by norm_num
  stop_pos := by norm_num
  target_pos := by norm_num
  multiplier_pos := by norm_num
  currentPrice_pos _ h := by cases h

/-- A book of one position in QQQ. -/
def deskBook (notional risk : ℚ) : Book :=
  ⟨[⟨"QQQ", .long, .equity, some notional, some risk, false⟩]⟩

theorem admission_downward_closed_sample :
    ∃ budget, perTradeRiskBudget deskLimits (some 50000) (4 / 100) 1 = .ok budget
      ∧ budget.dollars ≤ 600
      ∧ bookGates deskText deskIntent (deskBook 20000 300) budget deskLimits = []
      ∧ admissionGates deskText deskIntent (deskBook 1000 0) budget deskLimits none = none
      ∧ admissionGates deskText (deskIntent.withQuantity 1 one_pos) (deskBook 20000 300) budget
        deskLimits none = none := by
  obtain ⟨hadmission, hbudget⟩ :=
    admission_downward_closed deskText deskLimits (by norm_num [deskLimits])
  have hbudget' : perTradeRiskBudget deskLimits (some 50000) (4 / 100) 1
      = .ok ⟨50000, 4 / 100, 2 / 3, 1, 1000 / 3⟩ := by
    norm_num [perTradeRiskBudget, riskCapital, drawdownRiskFactor, macroRiskFactor,
      macroFactorFloor, deskLimits, Bind.bind, Except.bind]
  have haccept : admissionGates deskText deskIntent (deskBook 20000 300)
      ⟨50000, 4 / 100, 2 / 3, 1, 1000 / 3⟩ deskLimits none = none := by
    decide +kernel
  obtain ⟨hgates, -, hreduced, hquantity⟩ := hadmission _ _ _ _ haccept
  have hbelow : List.Forall₂ BookPosition.Below (deskBook 1000 0).positions
      (deskBook 20000 300).positions :=
    .cons ⟨rfl, rfl, rfl, ⟨1000, 20000, rfl, rfl, by norm_num, by norm_num⟩,
      ⟨0, 300, rfl, rfl, by norm_num, by norm_num⟩⟩ .nil
  refine ⟨_, hbudget', ?_, hgates, hreduced _ hbelow, hquantity 1 one_pos ?_⟩
  · refine (hbudget _ _ _ _ hbudget').1.trans ?_
    norm_num [deskLimits]
  · norm_num [deskIntent]

end AgenticTrader
