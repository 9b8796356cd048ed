import Mathlib.Algebra.Order.Ring.Rat
import Mathlib.Data.Rat.Floor
import Mathlib.Tactic.FieldSimp
import Mathlib.Tactic.Linarith
import Mathlib.Tactic.NormNum
import Mathlib.Tactic.Push

/-!
# Rounding to the nearest whole number

Of two nearest whole numbers the even one is taken. It is off by at most one
half, it is monotone, it keeps what is whole, and it reaches one, and two, from
one half and three halves on.
-/

/-- `round(x)`: to the nearest integer, halves to the even one. -/
def roundHalfEven (x : ℚ) : ℤ :=
  let below := ⌊x⌋
  let rest := x - below
  if rest < 1 / 2 then below
  else if 1 / 2 < rest then below + 1
  else if below % 2 = 0 then below else below + 1

theorem abs_sub_roundHalfEven (x : ℚ) : |x - roundHalfEven x| ≤ 1 / 2 := by
  have hlow : (⌊x⌋ : ℚ) ≤ x := Int.floor_le x
  have hhigh : x < ⌊x⌋ + 1 := Int.lt_floor_add_one x
  unfold roundHalfEven
  dsimp only
  split_ifs with hbelow habove heven
  all_goals
    rw [abs_le]
    push_cast
    constructor <;> linarith

theorem roundHalfEven_intCast (n : ℤ) : roundHalfEven n = n := by
  simp [roundHalfEven]

/-- What is nearer than one half is the nearest. -/
theorem roundHalfEven_eq_of_near {x : ℚ} {n : ℤ} (h : |x - n| < 1 / 2) : roundHalfEven x = n := by
  have hround := abs_sub_roundHalfEven x
  rw [abs_lt] at h
  rw [abs_le] at hround
  have hlow : roundHalfEven x < n + 1 := by
    have : (roundHalfEven x : ℚ) < n + 1 := by linarith [h.1, h.2, hround.1, hround.2]
    exact_mod_cast this
  have hhigh : n < roundHalfEven x + 1 := by
    have : (n : ℚ) < roundHalfEven x + 1 := by linarith [h.1, h.2, hround.1, hround.2]
    exact_mod_cast this
  omega

/-- A number rounds to one or more when it is above one half. -/
theorem one_le_roundHalfEven {x : ℚ} : 1 ≤ roundHalfEven x ↔ 1 / 2 < x := by
  have hlow : (⌊x⌋ : ℚ) ≤ x := Int.floor_le x
  have hhigh : x < ⌊x⌋ + 1 := Int.lt_floor_add_one x
  rcases lt_trichotomy ⌊x⌋ 0 with hneg | hzero | hpos
  · have hx : x < 0 := Int.floor_lt_zero.mp hneg
    refine iff_of_false ?_ (by linarith)
    unfold roundHalfEven
    dsimp only
    split_ifs <;> omega
  · unfold roundHalfEven
    rw [hzero]
    norm_num
    split_ifs with hbelow habove
    · exact iff_of_false (by decide) (by linarith)
    · exact iff_of_true (by decide) habove
    · exact iff_of_false (by decide) habove
  · have hx : (1 : ℚ) ≤ x := by
      have : (1 : ℚ) ≤ ⌊x⌋ := by exact_mod_cast hpos
      linarith
    refine iff_of_true ?_ (by linarith)
    unfold roundHalfEven
    dsimp only
    split_ifs <;> omega

/-- Rounding moves to one of the two neighbours. -/
theorem roundHalfEven_mem (x : ℚ) : ⌊x⌋ ≤ roundHalfEven x ∧ roundHalfEven x ≤ ⌊x⌋ + 1 := by
  unfold roundHalfEven
  dsimp only
  split_ifs <;> omega

/-- **Rounding is monotone.** -/
theorem roundHalfEven_mono {x y : ℚ} (h : x ≤ y) : roundHalfEven x ≤ roundHalfEven y := by
  rcases (Int.floor_mono h).lt_or_eq with hlt | heq
  · exact (roundHalfEven_mem x).2.trans (hlt.trans_le (roundHalfEven_mem y).1)
  · unfold roundHalfEven
    dsimp only
    rw [heq]
    split_ifs <;> first | omega | linarith

theorem roundHalfEven_nonneg {x : ℚ} (h : 0 ≤ x) : 0 ≤ roundHalfEven x := by
  have hfloor : 0 ≤ ⌊x⌋ := Int.floor_nonneg.mpr h
  unfold roundHalfEven
  dsimp only
  split_ifs <;> omega

theorem roundHalfEven_nonpos {x : ℚ} (h : x ≤ 0) : roundHalfEven x ≤ 0 := by
  have hzero := roundHalfEven_mono h
  rwa [show roundHalfEven 0 = 0 by exact_mod_cast roundHalfEven_intCast 0] at hzero

/-- Rounding does not depend on the sign. -/
theorem roundHalfEven_neg (x : ℚ) : roundHalfEven (-x) = -roundHalfEven x := by
  by_cases hx : (⌊x⌋ : ℚ) = x
  · rw [← hx, ← Int.cast_neg, roundHalfEven_intCast, roundHalfEven_intCast]
  · have hlow : (⌊x⌋ : ℚ) < x := lt_of_le_of_ne (Int.floor_le x) hx
    have hhigh : x < ⌊x⌋ + 1 := Int.lt_floor_add_one x
    have hfloor : ⌊-x⌋ = -⌊x⌋ - 1 := by
      rw [Int.floor_eq_iff]
      push_cast
      constructor <;> linarith
    unfold roundHalfEven
    dsimp only
    rw [hfloor]
    push_cast
    split_ifs <;> first | omega | (exfalso; linarith)
