import AgenticTrader.Risk.Rules
import Mathlib.Tactic.Linarith
import Mathlib.Tactic.NormNum
import Mathlib.Tactic.Push

/-!
# Rounding to hundredths

What is used of `round(x, 2)` in the amounts of the desk, read off the rounding
to whole numbers: it is off by at most half a hundredth, it keeps what is a whole
number of hundredths, and it reaches one hundredth from half of one on.
-/

namespace AgenticTrader

theorem round2_mono {x y : ℚ} (h : x ≤ y) : round2 x ≤ round2 y := by
  have hround : (roundHalfEven (x * 100) : ℚ) ≤ roundHalfEven (y * 100) := by
    exact_mod_cast roundHalfEven_mono (by linarith)
  unfold round2
  linarith

/-- To two decimals it is off by at most half a hundredth. -/
theorem abs_sub_round2 (x : ℚ) : |x - round2 x| ≤ 1 / 200 := by
  have hround := abs_le.mp (abs_sub_roundHalfEven (x * 100))
  unfold round2
  rw [abs_le]
  constructor <;> linarith [hround.1, hround.2]

/-- A whole number. -/
def Whole (x : ℚ) : Prop := ∃ k : ℤ, x = k

/-- A whole number of hundredths. -/
def WholeHundredths (x : ℚ) : Prop := ∃ k : ℤ, x = k / 100

theorem roundHalfEven_eq_iff {x : ℚ} : (roundHalfEven x : ℚ) = x ↔ Whole x := by
  constructor
  · intro h
    exact ⟨roundHalfEven x, h.symm⟩
  · rintro ⟨k, rfl⟩
    rw [roundHalfEven_intCast]

theorem round2_eq_iff {x : ℚ} : round2 x = x ↔ WholeHundredths x := by
  constructor
  · intro h
    exact ⟨roundHalfEven (x * 100), h.symm⟩
  · rintro ⟨k, rfl⟩
    unfold round2
    rw [div_mul_cancel₀ _ (by norm_num), roundHalfEven_intCast]

/-- Rounding twice is rounding once. -/
@[simp] theorem round2_round2 (x : ℚ) : round2 (round2 x) = round2 x :=
  round2_eq_iff.mpr ⟨roundHalfEven (x * 100), rfl⟩

end AgenticTrader
