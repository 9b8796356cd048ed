import Mathlib

/-!
# The book-aware size factor

`book_vol_factor` (`risk/book_vol.py`) shrinks a card so that the book's daily
volatility in dollars stays within a budget. With the book fixed, the variance is a
quadratic in the fraction of the card that is taken, and the factor is the root up
to which it stays under the budget, in closed form.

The arithmetic is that of the reals. What the library's `eigvalsh` finds is written
as what an eigenvalue is; it reads the lower half of the matrix only.
-/

namespace AgenticTrader

/-- **`BookVolInputs`**, with the frame of the covariance as the symbols of its
rows, those of its columns, and its entries. -/
structure BookVolInputs (n : ℕ) where
  weights : List (String × ℝ)
  candidate : String
  candidateNotional : ℝ
  index : Fin n → String
  columns : Fin n → String
  matrix : Matrix (Fin n) (Fin n) ℝ
  budgetDollars : ℝ

/-- **`BookVolResult`.** -/
structure BookVolResult where
  factor : ℝ
  volBefore : ℝ
  volAfterFull : ℝ
  volAfterScaled : ℝ
  marginalVolFull : ℝ

namespace BookVolInputs

variable {n : ℕ} (inputs : BookVolInputs n)

/-- The symbols of the book and of the card that the covariance does not have. -/
noncomputable def missing : List String :=
  open Classical in
  (inputs.weights.map Prod.fst ++ [inputs.candidate]).filter
    (fun s => decide (∀ i, inputs.index i ≠ s))

/-- `np.allclose(matrix, matrix.T, rtol=1e-9, atol=1e-12)`. -/
def Symmetric : Prop :=
  ∀ i j, |inputs.matrix i j - inputs.matrix j i| ≤ 1 / 10 ^ 12 + 1 / 10 ^ 9 * |inputs.matrix j i|

/-- The symmetric matrix that `eigvalsh` reads. -/
def lower : Matrix (Fin n) (Fin n) ℝ :=
  fun i j => if j ≤ i then inputs.matrix i j else inputs.matrix j i

/-- The tolerance of the smallest eigenvalue. -/
def NegativeEigenvalue : Prop :=
  ∃ v : Fin n → ℝ, v ≠ 0 ∧ ∃ value, inputs.lower.mulVec v = value • v
    ∧ ∃ scale, 1 ≤ scale ∧ (∀ i j, |inputs.matrix i j| ≤ scale) ∧ value < -(1 / 10 ^ 10) * scale

open Classical in
/-- **`_validate`**: what the rule refuses, in order. -/
noncomputable def validate : Except String Unit :=
  if inputs.index ≠ inputs.columns then .error "covariance index and columns differ"
  else if ¬ Function.Injective inputs.index then .error "covariance index has duplicate symbols"
  else if inputs.missing ≠ [] then
    let missing := String.intercalate ", "
      ((inputs.missing.dedup.insertionSort (· ≤ ·)).map (fun s => "'" ++ s ++ "'"))
    .error s!"symbols missing from covariance: [{missing}]"
  else if ¬ inputs.Symmetric then .error "covariance is not symmetric"
  else if ∃ i, inputs.matrix i i < 0 then .error "covariance has negative variances"
  else if inputs.NegativeEigenvalue then .error "covariance is not positive semi-definite"
  else if inputs.budgetDollars ≤ 0 then .error "budget_dollars must be positive and finite"
  else .ok ()

/-- The signed notional of each symbol of the covariance. -/
def book : Fin n → ℝ := fun i => (inputs.weights.lookup (inputs.index i)).getD 0

/-- One unit of the candidate. -/
def unit : Fin n → ℝ := fun i => if inputs.index i = inputs.candidate then 1 else 0

def bookVariance : ℝ := inputs.book ⬝ᵥ inputs.matrix.mulVec inputs.book

def crossTerm : ℝ :=
  inputs.candidateNotional * (inputs.unit ⬝ᵥ inputs.matrix.mulVec inputs.book)

def cardVariance : ℝ :=
  inputs.candidateNotional * inputs.candidateNotional
    * (inputs.unit ⬝ᵥ inputs.matrix.mulVec inputs.unit)

end BookVolInputs

/-- The factor of a quadratic `a + 2 b f + c f ^ 2` under a budget. -/
noncomputable def volFactor (a b c budget : ℝ) : ℝ :=
  if a + 2 • b + c ≤ budget * budget then 1
  else if budget * budget < a ∨ c ≤ 0 then 0
  else
    let disc := max (b * b - c * (a - budget * budget)) 0
    let denominator := b + √disc
    let root := if 0 < denominator then (budget * budget - a) / denominator else (-b + √disc) / c
    min 1 (max 0 root)

/-- **`book_vol_factor`.** -/
noncomputable def bookVolFactor {n : ℕ} (inputs : BookVolInputs n) :
    Except String BookVolResult := do
  inputs.validate
  let a := inputs.bookVariance
  let b := inputs.crossTerm
  let c := inputs.cardVariance
  let volBefore := √(max a 0)
  let volAfterFull := √(max (a + 2 • b + c) 0)
  let factor := volFactor a b c inputs.budgetDollars
  let volAfterScaled := √(max (a + 2 • b * factor + c * factor * factor) 0)
  .ok ⟨factor, volBefore, volAfterFull, volAfterScaled, volAfterFull - volBefore⟩

theorem double_eq (b : ℝ) : 2 • b = 2 * b := by
  rw [nsmul_eq_mul, Nat.cast_ofNat]

/-! ## The larger root

Within the budget at nothing and over it at the full card, the quadratic crosses the
budget once. Both branches of the closed form are its larger root. -/

section Root

variable {a b c budget : ℝ}

/-- The quadratic is within the budget up to its larger root. -/
theorem quadratic_le_iff (hc : 0 < c) (ha : a ≤ budget * budget) {f : ℝ} (hf : 0 ≤ f) :
    a + 2 * b * f + c * f * f ≤ budget * budget
      ↔ f ≤ (-b + √(b * b - c * (a - budget * budget))) / c := by
  have hdisc : 0 ≤ b * b - c * (a - budget * budget) := by nlinarith [mul_self_nonneg b]
  have hroot := Real.mul_self_sqrt hdisc
  have habs : |b| ≤ √(b * b - c * (a - budget * budget)) := by
    refine Real.le_sqrt_of_sq_le ?_
    rw [sq_abs]
    nlinarith
  set s := √(b * b - c * (a - budget * budget)) with hs
  have hfactored : (c * f + b - s) * (c * f + b + s)
      = c * (a + 2 * b * f + c * f * f - budget * budget) := by
    linear_combination -hroot
  have hright : 0 ≤ c * f + b + s := by
    have hlow := (abs_le.mp habs).1
    nlinarith
  rw [le_div_iff₀ hc]
  constructor
  · intro h
    by_contra hlt
    have hleft : 0 < c * f + b - s := by linarith
    have hpos : 0 < c * f + b + s := by
      linarith [Real.sqrt_nonneg (b * b - c * (a - budget * budget))]
    have hproduct := mul_pos hleft hpos
    rw [hfactored] at hproduct
    linarith [pos_of_mul_pos_right hproduct hc.le]
  · intro h
    have hleft : c * f + b - s ≤ 0 := by linarith
    have hproduct := mul_nonpos_of_nonpos_of_nonneg hleft hright
    rw [hfactored] at hproduct
    linarith [nonpos_of_mul_nonpos_right hproduct hc]

/-- **The closed form is the larger root**, and lies between 0 and 1. -/
theorem volFactor_eq_root (hc : 0 < c) (ha : a ≤ budget * budget)
    (hfull : budget * budget < a + 2 * b + c) :
    volFactor a b c budget = (-b + √(b * b - c * (a - budget * budget))) / c
      ∧ 0 ≤ (-b + √(b * b - c * (a - budget * budget))) / c
      ∧ (-b + √(b * b - c * (a - budget * budget))) / c < 1 := by
  have hdisc : 0 ≤ b * b - c * (a - budget * budget) := by nlinarith [mul_self_nonneg b]
  have hnonneg : 0 ≤ (-b + √(b * b - c * (a - budget * budget))) / c := by
    rw [← quadratic_le_iff hc ha le_rfl]
    linarith
  have hlt : (-b + √(b * b - c * (a - budget * budget))) / c < 1 := by
    rw [← not_le, ← quadratic_le_iff hc ha zero_le_one]
    linarith
  refine ⟨?_, hnonneg, hlt⟩
  have hbranches : (if 0 < b + √(b * b - c * (a - budget * budget))
      then (budget * budget - a) / (b + √(b * b - c * (a - budget * budget)))
      else (-b + √(b * b - c * (a - budget * budget))) / c)
      = (-b + √(b * b - c * (a - budget * budget))) / c := by
    split_ifs with hpos
    · rw [div_eq_div_iff hpos.ne' hc.ne']
      linear_combination -(Real.mul_self_sqrt hdisc)
    · rfl
  unfold volFactor
  simp only [double_eq]
  rw [if_neg (not_le.mpr hfull), if_neg (not_or.mpr ⟨not_lt.mpr ha, not_le.mpr hc⟩)]
  rw [max_eq_left hdisc, hbranches, max_eq_right hnonneg, min_eq_right hlt.le]

/-- **The factor of a book within its budget** is the largest fraction up to which the
quadratic stays within it. -/
theorem volFactor_within (hc : 0 ≤ c) (hb : c = 0 → b = 0) (ha : a ≤ budget * budget) :
    a + 2 * b * volFactor a b c budget + c * volFactor a b c budget * volFactor a b c budget
        ≤ budget * budget
      ∧ ∀ f, volFactor a b c budget < f → f ≤ 1 →
        budget * budget < a + 2 * b * f + c * f * f := by
  by_cases hfull : a + 2 * b + c ≤ budget * budget
  · have hone : volFactor a b c budget = 1 := by
      unfold volFactor
      simp only [double_eq]
      rw [if_pos hfull]
    rw [hone]
    refine ⟨by linarith, fun f hf hle => ?_⟩
    linarith
  · have hpos : 0 < c := by
      rcases hc.lt_or_eq with hpos | hzero
      · exact hpos
      · -- a card without variance adds nothing to the book
        rw [hb hzero.symm, ← hzero] at hfull
        exact absurd (by linarith) hfull
    obtain ⟨hroot, hnonneg, -⟩ := volFactor_eq_root hpos ha (not_le.mp hfull)
    rw [hroot]
    refine ⟨(quadratic_le_iff hpos ha hnonneg).mpr le_rfl, fun f hf _ => ?_⟩
    rw [← not_le, quadratic_le_iff hpos ha (hnonneg.trans hf.le)]
    exact not_le.mpr hf

theorem volFactor_mem (a b c budget : ℝ) :
    0 ≤ volFactor a b c budget ∧ volFactor a b c budget ≤ 1 := by
  unfold volFactor
  split_ifs
  · exact ⟨zero_le_one, le_rfl⟩
  · exact ⟨le_rfl, zero_le_one⟩
  · exact ⟨le_min zero_le_one (le_max_left _ _), min_le_left _ _⟩

/-- **It grows with the budget**, for a book within it. -/
theorem volFactor_mono {budget' : ℝ} (hc : 0 ≤ c) (hb : c = 0 → b = 0)
    (ha : a ≤ budget * budget) (hle : budget * budget ≤ budget' * budget') :
    volFactor a b c budget ≤ volFactor a b c budget' := by
  by_contra hlt
  have hover := (volFactor_within hc hb (ha.trans hle)).2 _ (not_le.mp hlt)
    (volFactor_mem a b c budget).2
  linarith [(volFactor_within hc hb ha).1]

end Root

/-! ## The volatility of the book -/

namespace BookVolInputs

variable {n : ℕ} (inputs : BookVolInputs n)

/-- The book with a fraction of the card. -/
def withCard (f : ℝ) : Fin n → ℝ :=
  inputs.book + (f * inputs.candidateNotional) • inputs.unit

/-- **The daily dollar volatility** of the book with a fraction of the card. -/
noncomputable def vol (f : ℝ) : ℝ :=
  √(inputs.withCard f ⬝ᵥ inputs.matrix.mulVec (inputs.withCard f))

/-- **What the rule accepts**: a symmetric covariance without negative directions
that has every symbol once, and a positive budget. -/
structure WellFormed : Prop where
  columns : inputs.index = inputs.columns
  distinct : Function.Injective inputs.index
  known : ∀ s ∈ inputs.weights.map Prod.fst ++ [inputs.candidate], ∃ i, inputs.index i = s
  semidefinite : inputs.matrix.PosSemidef
  budget_pos : 0 < inputs.budgetDollars

variable {inputs}

theorem symm_of_semidefinite (h : inputs.matrix.PosSemidef) (i j : Fin n) :
    inputs.matrix i j = inputs.matrix j i := by
  have hij := h.isHermitian.apply i j
  rw [star_trivial] at hij
  exact hij.symm

theorem quadratic_nonneg (h : inputs.matrix.PosSemidef) (v : Fin n → ℝ) :
    0 ≤ v ⬝ᵥ inputs.matrix.mulVec v := by
  have hv := h.dotProduct_mulVec_nonneg v
  rwa [star_trivial] at hv

/-- The two orders of a product with the covariance. -/
theorem covariance_comm (h : inputs.matrix.PosSemidef) (u v : Fin n → ℝ) :
    u ⬝ᵥ inputs.matrix.mulVec v = v ⬝ᵥ inputs.matrix.mulVec u := by
  have htranspose : inputs.matrix.transpose = inputs.matrix := by
    ext i j
    exact symm_of_semidefinite h j i
  rw [Matrix.dotProduct_mulVec, ← Matrix.mulVec_transpose, htranspose, dotProduct_comm]

/-- **The variance is a quadratic in the fraction of the card.** -/
theorem variance_withCard (h : inputs.matrix.PosSemidef) (f : ℝ) :
    inputs.withCard f ⬝ᵥ inputs.matrix.mulVec (inputs.withCard f)
      = inputs.bookVariance + 2 * inputs.crossTerm * f + inputs.cardVariance * f * f := by
  unfold withCard bookVariance crossTerm cardVariance
  rw [Matrix.mulVec_add, Matrix.mulVec_smul, add_dotProduct, dotProduct_add, dotProduct_add,
    smul_dotProduct, smul_dotProduct, dotProduct_smul, dotProduct_smul,
    covariance_comm h inputs.book inputs.unit]
  simp only [smul_eq_mul]
  ring

theorem variance_nonneg (h : inputs.matrix.PosSemidef) (f : ℝ) :
    0 ≤ inputs.bookVariance + 2 * inputs.crossTerm * f + inputs.cardVariance * f * f := by
  rw [← variance_withCard h]
  exact quadratic_nonneg h _

theorem cardVariance_nonneg (h : inputs.matrix.PosSemidef) : 0 ≤ inputs.cardVariance :=
  mul_nonneg (mul_self_nonneg _) (quadratic_nonneg h _)

/-- A card without variance of its own has none together with the book. -/
theorem crossTerm_eq_zero (h : inputs.matrix.PosSemidef) (hzero : inputs.cardVariance = 0) :
    inputs.crossTerm = 0 := by
  by_contra hne
  have hline := variance_nonneg h (-(inputs.bookVariance + 1) / (2 * inputs.crossTerm))
  rw [hzero, mul_div_cancel₀ _ (mul_ne_zero two_ne_zero hne)] at hline
  linarith

/-- Within the budget is within its square. -/
theorem vol_le_iff (h : inputs.matrix.PosSemidef) {budget : ℝ} (hpos : 0 < budget) (f : ℝ) :
    inputs.vol f ≤ budget
      ↔ inputs.bookVariance + 2 * inputs.crossTerm * f + inputs.cardVariance * f * f
        ≤ budget * budget := by
  unfold vol
  rw [Real.sqrt_le_left hpos.le, variance_withCard h, sq]

/-- **A well-formed covariance is accepted.** -/
theorem validate_of_wellFormed (h : inputs.WellFormed) : inputs.validate = .ok () := by
  have hsymm := symm_of_semidefinite h.semidefinite
  have hmissing : inputs.missing = [] := by
    unfold missing
    rw [List.filter_eq_nil_iff]
    intro s hs
    obtain ⟨i, hi⟩ := h.known s hs
    rw [decide_eq_true_eq, not_forall]
    exact ⟨i, not_not.mpr hi⟩
  have hclose : inputs.Symmetric := by
    intro i j
    rw [hsymm i j, sub_self, abs_zero]
    positivity
  have hdiagonal : ¬ ∃ i, inputs.matrix i i < 0 := by
    rintro ⟨i, hi⟩
    exact absurd (h.semidefinite.diag_nonneg (i := i)) (not_le.mpr hi)
  have heigenvalue : ¬ inputs.NegativeEigenvalue := by
    rintro ⟨v, hv, value, hvalue, scale, hscale, -, hlt⟩
    have hlower : inputs.lower = inputs.matrix := by
      ext i j
      unfold lower
      split_ifs
      · rfl
      · exact hsymm j i
    rw [hlower] at hvalue
    have hform := quadratic_nonneg h.semidefinite v
    rw [hvalue, dotProduct_smul, smul_eq_mul] at hform
    have hsquare : 0 < v ⬝ᵥ v := by
      rw [← Matrix.dotProduct_self_star_pos_iff (v := v)] at hv
      rwa [star_trivial] at hv
    have hnonneg : 0 ≤ value := nonneg_of_mul_nonneg_left hform hsquare
    nlinarith
  unfold validate
  rw [if_neg (not_not.mpr h.columns), if_neg (not_not.mpr h.distinct),
    if_neg (not_not.mpr hmissing), if_neg (not_not.mpr hclose), if_neg hdiagonal,
    if_neg heigenvalue, if_neg (not_le.mpr h.budget_pos)]

/-- The result for well-formed inputs, in terms of the volatility. -/
theorem bookVolFactor_eq (h : inputs.WellFormed) :
    bookVolFactor inputs = .ok
      { factor := volFactor inputs.bookVariance inputs.crossTerm inputs.cardVariance
          inputs.budgetDollars
        volBefore := inputs.vol 0
        volAfterFull := inputs.vol 1
        volAfterScaled := inputs.vol (volFactor inputs.bookVariance inputs.crossTerm
          inputs.cardVariance inputs.budgetDollars)
        marginalVolFull := inputs.vol 1 - inputs.vol 0 } := by
  have hvol : ∀ f, √(max (inputs.bookVariance + 2 * inputs.crossTerm * f
      + inputs.cardVariance * f * f) 0) = inputs.vol f := by
    intro f
    rw [max_eq_left (variance_nonneg h.semidefinite f), vol, variance_withCard h.semidefinite]
  have hzero := hvol 0
  have hone := hvol 1
  rw [mul_zero, mul_zero, add_zero, add_zero] at hzero
  rw [mul_one, mul_one, mul_one] at hone
  unfold bookVolFactor
  simp only [double_eq]
  rw [validate_of_wellFormed h]
  show Except.ok _ = Except.ok _
  rw [hvol, hzero, hone]

end BookVolInputs

open BookVolInputs in
/-- **The factor is feasible and maximal.** For a symmetric covariance without negative
directions and a positive budget the rule returns, and its factor lies between 0 and 1.
A book within the budget stays within it with that fraction of the card, and no larger
fraction keeps every smaller one within it. A book over the budget gets the whole card
if that brings it within, and nothing otherwise. A larger budget never gives a smaller
factor to a book within it. -/
theorem book_vol_factor_maximal {n : ℕ} (inputs : BookVolInputs n) (h : inputs.WellFormed) :
    ∃ result, bookVolFactor inputs = .ok result
      ∧ 0 ≤ result.factor ∧ result.factor ≤ 1
      ∧ result.volAfterScaled = inputs.vol result.factor
      ∧ (inputs.vol 0 ≤ inputs.budgetDollars →
        result.volAfterScaled ≤ inputs.budgetDollars
          ∧ ∀ f, result.factor < f → f ≤ 1 →
            ¬ ∀ f', 0 ≤ f' → f' ≤ f → inputs.vol f' ≤ inputs.budgetDollars)
      ∧ (inputs.budgetDollars < inputs.vol 0 →
        (inputs.vol 1 ≤ inputs.budgetDollars → result.factor = 1)
          ∧ (inputs.budgetDollars < inputs.vol 1 → result.factor = 0))
      ∧ (inputs.vol 0 ≤ inputs.budgetDollars → ∀ budget, inputs.budgetDollars ≤ budget →
        ∃ result', bookVolFactor { inputs with budgetDollars := budget } = .ok result'
          ∧ result.factor ≤ result'.factor) := by
  have hsemi := h.semidefinite
  have hcard := cardVariance_nonneg hsemi
  have hcross := crossTerm_eq_zero hsemi
  have hmem := volFactor_mem inputs.bookVariance inputs.crossTerm inputs.cardVariance
    inputs.budgetDollars
  have hbook : inputs.vol 0 ≤ inputs.budgetDollars
      ↔ inputs.bookVariance ≤ inputs.budgetDollars * inputs.budgetDollars := by
    rw [vol_le_iff hsemi h.budget_pos, mul_zero, mul_zero, add_zero, add_zero]
  have hfull : inputs.vol 1 ≤ inputs.budgetDollars
      ↔ inputs.bookVariance + 2 * inputs.crossTerm + inputs.cardVariance
        ≤ inputs.budgetDollars * inputs.budgetDollars := by
    rw [vol_le_iff hsemi h.budget_pos, mul_one, mul_one, mul_one]
  refine ⟨_, bookVolFactor_eq h, hmem.1, hmem.2, rfl, fun hwithin => ?_, fun hover => ?_,
    fun hwithin budget hle => ?_⟩
  · obtain ⟨hscaled, hlarger⟩ := volFactor_within hcard hcross (hbook.mp hwithin)
    refine ⟨(vol_le_iff hsemi h.budget_pos _).mpr hscaled, fun f hf hone hall => ?_⟩
    have hat := hall f (hmem.1.trans hf.le) le_rfl
    rw [vol_le_iff hsemi h.budget_pos] at hat
    exact absurd hat (not_le.mpr (hlarger f hf hone))
  · have hvariance := not_le.mp (fun hle => absurd (hbook.mpr hle) (not_le.mpr hover))
    refine ⟨fun hle => ?_, fun hlt => ?_⟩
    · show volFactor _ _ _ _ = 1
      unfold volFactor
      simp only [double_eq]
      rw [if_pos (hfull.mp hle)]
    · show volFactor _ _ _ _ = 0
      unfold volFactor
      simp only [double_eq]
      rw [if_neg (fun hle => absurd (hfull.mpr hle) (not_le.mpr hlt)), if_pos (.inl hvariance)]
  · have hwell : WellFormed { inputs with budgetDollars := budget } :=
      ⟨h.columns, h.distinct, h.known, hsemi, h.budget_pos.trans_le hle⟩
    refine ⟨_, bookVolFactor_eq hwell, ?_⟩
    exact volFactor_mono hcard hcross (hbook.mp hwithin)
      (mul_self_le_mul_self h.budget_pos.le hle)

/-- A book of five dollars in one name, and a card of twelve more in it. -/
def sampleBookVol : BookVolInputs 1 where
  weights := [("SPY", 5)]
  candidate := "SPY"
  candidateNotional := 12
  index _ := "SPY"
  columns _ := "SPY"
  matrix := 1
  budgetDollars := 13

theorem book_vol_factor_maximal_sample :
    sampleBookVol.WellFormed ∧ ∃ result, bookVolFactor sampleBookVol = .ok result
      ∧ result.volAfterScaled ≤ 13 := by
  have hwell : sampleBookVol.WellFormed := by
    refine ⟨rfl, fun i j _ => Subsingleton.elim i j, ?_, Matrix.PosSemidef.one, ?_⟩
    · intro s hs
      refine ⟨0, ?_⟩
      simpa [sampleBookVol, eq_comm] using hs
    · norm_num [sampleBookVol]
  obtain ⟨result, hresult, -, -, -, hwithin, -, -⟩ := book_vol_factor_maximal sampleBookVol hwell
  refine ⟨hwell, result, hresult, (hwithin ?_).1⟩
  rw [BookVolInputs.vol_le_iff hwell.semidefinite hwell.budget_pos]
  norm_num [BookVolInputs.bookVariance, BookVolInputs.book, sampleBookVol, List.lookup,
    dotProduct]

end AgenticTrader
