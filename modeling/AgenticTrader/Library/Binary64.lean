import AgenticTrader.Library.Extended
import AgenticTrader.Library.HalfEven
import Mathlib.Data.Int.Log

/-!
# Double-precision numbers

A double keeps 53 significant bits, the last of them no smaller than
`2 ^ -1074`. The result of an operation is the nearest such number, the even
one of two (`binary64`); a result too large for the format is an infinity
(`double`), and what is computed of infinities goes on from there.
-/

/-- The exponent of the last bit a double of this size keeps. -/
def lastBit (q : ℚ) : ℤ := max (Int.log 2 |q| - 52) (-1074)

/-- **The nearest double**, where no exponent is too large. -/
def binary64 (q : ℚ) : ℚ := roundHalfEven (q / 2 ^ lastBit q) * 2 ^ lastBit q

/-! ## Numbers that are not rounded -/

theorem two_zpow_pos (e : ℤ) : (0 : ℚ) < 2 ^ e := zpow_pos (by norm_num) e

/-- A multiple of its last bit is not rounded. -/
theorem binary64_of_dvd {q : ℚ} {m : ℤ} (h : q = m * 2 ^ lastBit q) : binary64 q = q := by
  have hm : q / 2 ^ lastBit q = m := by
    rw [div_eq_iff (two_zpow_pos _).ne']
    exact h
  rw [binary64, hm, roundHalfEven_intCast]
  exact h.symm

/-- **A number of 53 bits is a double.** -/
theorem binary64_exact {m e : ℤ} (hm : |m| ≤ 2 ^ 53) (he : -1074 ≤ e) :
    binary64 (m * 2 ^ e) = m * 2 ^ e := by
  rcases eq_or_ne m 0 with rfl | hz
  · simp [binary64, roundHalfEven]
  · have habs : |(m : ℚ) * 2 ^ e| = |(m : ℚ)| * 2 ^ e := by
      rw [abs_mul, abs_of_pos (two_zpow_pos e)]
    have hpos : 0 < |(m : ℚ) * 2 ^ e| := by
      rw [habs]
      have : (m : ℚ) ≠ 0 := Int.cast_ne_zero.mpr hz
      exact mul_pos (abs_pos.mpr this) (two_zpow_pos e)
    rcases hm.lt_or_eq with hlt | heq
    · -- the last bit is no larger than the unit
      have hlog : Int.log 2 |(m : ℚ) * 2 ^ e| < 53 + e := by
        refine (Int.lt_zpow_iff_log_lt (b := 2) (by decide) hpos).mp ?_
        rw [habs, zpow_add₀ (by norm_num)]
        refine mul_lt_mul_of_pos_right ?_ (two_zpow_pos e)
        exact_mod_cast hlt
      have hbit : lastBit ((m : ℚ) * 2 ^ e) ≤ e := by
        unfold lastBit
        omega
      obtain ⟨n, hn⟩ : ∃ n : ℕ, e = n + lastBit ((m : ℚ) * 2 ^ e) :=
        ⟨(e - lastBit ((m : ℚ) * 2 ^ e)).toNat, by omega⟩
      refine binary64_of_dvd (m := m * 2 ^ n) ?_
      push_cast
      rw [mul_assoc, ← zpow_natCast, ← zpow_add₀ (by norm_num), ← hn]
    · -- a carry: a power of two
      have hlog : Int.log 2 |(m : ℚ) * 2 ^ e| = 53 + e := by
        have hpow : |(m : ℚ) * 2 ^ e| = ((2 : ℕ) : ℚ) ^ (53 + e) := by
          rw [habs, zpow_add₀ (by norm_num)]
          have : |(m : ℚ)| = 2 ^ 53 := by exact_mod_cast heq
          rw [this]
          norm_num
        rw [hpow]
        exact Int.log_zpow (by decide) _
      have hbit : lastBit ((m : ℚ) * 2 ^ e) = e + 1 := by
        unfold lastBit
        omega
      obtain ⟨n, hn⟩ : ∃ n : ℤ, m = n * 2 := by
        rcases abs_eq (by positivity) |>.mp heq with h | h
        · exact ⟨2 ^ 52, by rw [h]; norm_num⟩
        · exact ⟨-2 ^ 52, by rw [h]; norm_num⟩
      refine binary64_of_dvd (m := n) ?_
      rw [hbit, hn, zpow_add₀ (by norm_num)]
      push_cast
      ring

/-- Whole numbers up to `2 ^ 53` are doubles. -/
theorem binary64_intCast {m : ℤ} (hm : |m| ≤ 2 ^ 53) : binary64 m = m := by
  simpa using binary64_exact (e := 0) hm (by decide)

/-- The significand of a result has 53 bits. -/
theorem abs_significand_le (q : ℚ) : |roundHalfEven (q / 2 ^ lastBit q)| ≤ 2 ^ 53 := by
  rcases eq_or_ne q 0 with rfl | hq
  · simp [roundHalfEven]
  · have hbound : |q| ≤ 2 ^ 53 * 2 ^ lastBit q := by
      have hlt : |q| < (2 : ℚ) ^ (Int.log 2 |q| + 1) := by
        exact_mod_cast Int.lt_zpow_succ_log_self (b := 2) (by decide) |q|
      refine hlt.le.trans ?_
      rw [← zpow_natCast, ← zpow_add₀ (by norm_num)]
      refine zpow_le_zpow_right₀ (by norm_num) ?_
      unfold lastBit
      push_cast
      omega
    obtain ⟨hlow, hhigh⟩ := abs_le.mp hbound
    rw [abs_le]
    constructor
    · rw [← roundHalfEven_intCast (-2 ^ 53)]
      refine roundHalfEven_mono ?_
      rw [le_div_iff₀ (two_zpow_pos _)]
      push_cast
      linarith
    · rw [← roundHalfEven_intCast (2 ^ 53)]
      refine roundHalfEven_mono ?_
      rw [div_le_iff₀ (two_zpow_pos _)]
      push_cast
      exact hhigh

/-- **A double is not rounded again.** -/
@[simp] theorem binary64_binary64 (q : ℚ) : binary64 (binary64 q) = binary64 q :=
  binary64_exact (abs_significand_le q) (le_max_right _ _)

/-! ## Order -/

@[simp] theorem binary64_zero : binary64 0 = 0 := by
  simp [binary64, roundHalfEven]

theorem lastBit_neg (q : ℚ) : lastBit (-q) = lastBit q := by
  rw [lastBit, lastBit, abs_neg]

@[simp] theorem binary64_neg (q : ℚ) : binary64 (-q) = -binary64 q := by
  rw [binary64, binary64, lastBit_neg, neg_div, roundHalfEven_neg]
  push_cast
  ring

theorem binary64_nonneg {q : ℚ} (h : 0 ≤ q) : 0 ≤ binary64 q := by
  refine mul_nonneg ?_ (two_zpow_pos _).le
  exact_mod_cast roundHalfEven_nonneg (div_nonneg h (two_zpow_pos _).le)

/-- A power of two between two numbers is between their doubles. -/
theorem binary64_mono_of_pos {x y : ℚ} (hx : 0 < x) (h : x ≤ y) : binary64 x ≤ binary64 y := by
  have hy : 0 < y := hx.trans_le h
  have hlog : Int.log 2 x ≤ Int.log 2 y := Int.log_mono_right hx h
  have hbits : lastBit x ≤ lastBit y := by
    unfold lastBit
    rw [abs_of_pos hx, abs_of_pos hy]
    omega
  rcases hbits.lt_or_eq with hlt | heq
  · -- a larger last bit: the power of two at the larger number is between them
    have hbit : lastBit y = Int.log 2 y - 52 := by
      unfold lastBit at hlt ⊢
      rw [abs_of_pos hx, abs_of_pos hy] at *
      omega
    have hexp : Int.log 2 x < Int.log 2 y := by
      unfold lastBit at hlt
      rw [abs_of_pos hx, abs_of_pos hy] at hlt
      omega
    have hxlt : x < (2 : ℚ) ^ Int.log 2 y := by
      refine lt_of_lt_of_le (b := (2 : ℚ) ^ (Int.log 2 x + 1)) ?_ ?_
      · exact_mod_cast Int.lt_zpow_succ_log_self (b := 2) (by decide) x
      · exact zpow_le_zpow_right₀ (by norm_num) hexp
    have hyge : (2 : ℚ) ^ Int.log 2 y ≤ y := by
      exact_mod_cast Int.zpow_log_le_self (b := 2) (by decide) hy
    have hlower : binary64 x ≤ (2 : ℚ) ^ Int.log 2 y := by
      have hsplit : (2 : ℚ) ^ Int.log 2 y
          = ((2 ^ (Int.log 2 y - lastBit x).toNat : ℤ) : ℚ) * 2 ^ lastBit x := by
        push_cast
        rw [← zpow_natCast, ← zpow_add₀ (by norm_num)]
        congr 1
        omega
      rw [hsplit]
      refine mul_le_mul_of_nonneg_right ?_ (two_zpow_pos _).le
      rw [Int.cast_le, ← roundHalfEven_intCast (2 ^ (Int.log 2 y - lastBit x).toNat)]
      refine roundHalfEven_mono ?_
      rw [div_le_iff₀ (two_zpow_pos _), ← hsplit]
      exact hxlt.le
    refine hlower.trans ?_
    have hsplit : (2 : ℚ) ^ Int.log 2 y = ((2 ^ 52 : ℤ) : ℚ) * 2 ^ lastBit y := by
      rw [hbit, show ((2 ^ 52 : ℤ) : ℚ) = (2 : ℚ) ^ (52 : ℤ) by norm_num,
        ← zpow_add₀ (by norm_num)]
      congr 1
      omega
    rw [hsplit]
    refine mul_le_mul_of_nonneg_right ?_ (two_zpow_pos _).le
    rw [Int.cast_le, ← roundHalfEven_intCast (2 ^ 52)]
    refine roundHalfEven_mono ?_
    rw [le_div_iff₀ (two_zpow_pos _), ← hsplit]
    exact hyge
  · rw [binary64, binary64, heq]
    refine mul_le_mul_of_nonneg_right ?_ (two_zpow_pos _).le
    exact_mod_cast roundHalfEven_mono (div_le_div_of_nonneg_right h (two_zpow_pos _).le)

/-- **Rounding to a double is monotone.** -/
theorem binary64_mono {x y : ℚ} (h : x ≤ y) : binary64 x ≤ binary64 y := by
  rcases lt_trichotomy x 0 with hx | rfl | hx
  · rcases lt_or_ge y 0 with hy | hy
    · have hneg := binary64_mono_of_pos (neg_pos.mpr hy) (neg_le_neg h)
      rw [binary64_neg, binary64_neg] at hneg
      exact neg_le_neg_iff.mp hneg
    · have hleft : binary64 x ≤ 0 := by
        rw [← neg_nonneg, ← binary64_neg]
        exact binary64_nonneg (neg_nonneg.mpr hx.le)
      exact hleft.trans (binary64_nonneg hy)
  · rw [binary64_zero]
    exact binary64_nonneg h
  · exact binary64_mono_of_pos hx h

theorem one_le_binary64 {q : ℚ} (h : 1 ≤ q) : 1 ≤ binary64 q := by
  have hone := binary64_mono h
  rwa [show binary64 1 = 1 by simpa using binary64_intCast (m := 1) (by decide)] at hone

/-- The double of a whole number is whole. -/
theorem binary64_whole (m : ℤ) : ∃ k : ℤ, binary64 m = k := by
  by_cases hm : |m| ≤ 2 ^ 53
  · exact ⟨m, binary64_intCast hm⟩
  · have hlarge : (2 : ℚ) ^ (53 : ℤ) ≤ |(m : ℚ)| := by exact_mod_cast (not_le.mp hm).le
    have hlog : 53 ≤ Int.log 2 |(m : ℚ)| := by
      have hpos : 0 < |(m : ℚ)| := lt_of_lt_of_le (two_zpow_pos 53) hlarge
      exact (Int.zpow_le_iff_le_log (b := 2) (by decide) hpos).mp (by exact_mod_cast hlarge)
    obtain ⟨n, hn⟩ : ∃ n : ℕ, lastBit m = n :=
      ⟨(lastBit m).toNat, by unfold lastBit; omega⟩
    refine ⟨roundHalfEven (m / 2 ^ lastBit m) * 2 ^ n, ?_⟩
    rw [binary64, hn, zpow_natCast]
    push_cast
    rfl

/-- **The result is off by at most half a last bit**, of what is below a power of
two. -/
theorem abs_binary64_sub_le {q : ℚ} {e : ℤ} (he : -1021 ≤ e) (hq : |q| < 2 ^ e) :
    |binary64 q - q| ≤ 2 ^ (e - 53) / 2 := by
  rcases eq_or_ne q 0 with rfl | hz
  · rw [binary64_zero, sub_zero, abs_zero]
    exact div_nonneg (two_zpow_pos _).le (by norm_num)
  have hpos := two_zpow_pos (lastBit q)
  have hbit : lastBit q ≤ e - 53 := by
    have hlog : Int.log 2 |q| < e :=
      (Int.lt_zpow_iff_log_lt (b := 2) (by decide) (abs_pos.mpr hz)).mp hq
    unfold lastBit
    omega
  have hscale : binary64 q - q
      = -((q / 2 ^ lastBit q - roundHalfEven (q / 2 ^ lastBit q)) * 2 ^ lastBit q) := by
    rw [sub_mul, div_mul_cancel₀ _ hpos.ne', neg_sub]
    rfl
  calc |binary64 q - q|
      = |q / 2 ^ lastBit q - roundHalfEven (q / 2 ^ lastBit q)| * 2 ^ lastBit q := by
        rw [hscale, abs_neg, abs_mul, abs_of_pos hpos]
    _ ≤ 1 / 2 * 2 ^ lastBit q :=
        mul_le_mul_of_nonneg_right (abs_sub_roundHalfEven _) hpos.le
    _ ≤ 1 / 2 * 2 ^ (e - 53) :=
        mul_le_mul_of_nonneg_left (zpow_le_zpow_right₀ (by norm_num) hbit) (by norm_num)
    _ = 2 ^ (e - 53) / 2 := by ring

/-! ## Operations -/

/-- `round(x, 2)`: the double nearest to the nearest hundredth. -/
def roundCents (x : ℚ) : ℚ := binary64 (roundHalfEven (x * 100) / 100)

@[simp] theorem binary64_roundCents (x : ℚ) : binary64 (roundCents x) = roundCents x :=
  binary64_binary64 _

/-- What is near a number of quarters is rounded to it. -/
theorem roundCents_quarters {x : ℚ} {k : ℤ} (hk : |k| ≤ 2 ^ 53) (h : |x - k / 4| < 1 / 200) :
    roundCents x = k / 4 := by
  have hround : roundHalfEven (x * 100) = 25 * k := by
    refine roundHalfEven_eq_of_near ?_
    rw [abs_lt] at h ⊢
    push_cast
    exact ⟨by linarith [h.1], by linarith [h.2]⟩
  have hquarter : (k : ℚ) / 4 = k * 2 ^ (-2 : ℤ) := by norm_num [div_eq_mul_inv]
  rw [roundCents, hround]
  push_cast
  rw [show (25 * k : ℚ) / 100 = k / 4 by ring, hquarter]
  exact binary64_exact hk (by decide)

/-- One step of a compensated sum: the sum so far, and what its roundings lost. -/
def compensate (sum : ℚ × ℚ) (x : ℚ) : ℚ × ℚ :=
  let high := binary64 (sum.1 + x)
  (high, if |x| ≤ |sum.1| then binary64 (sum.2 + binary64 (binary64 (sum.1 - high) + x))
    else binary64 (sum.2 + binary64 (binary64 (x - high) + sum.1)))

/-- **`sum(xs)`**, of doubles. -/
def sumDoubles : List ℚ → ℚ
  | [] => 0
  | x :: xs =>
    let total := xs.foldl compensate (x, 0)
    if total.2 = 0 then total.1 else binary64 (total.1 + total.2)

-- three tenths and seven tenths make one
example : sumDoubles [binary64 (1 / 10), binary64 (1 / 5), binary64 (7 / 10)] = 1 := by
  decide +kernel

/-! ## Overflow -/

/-- **The double a real result is stored as.** -/
def double (q : ℚ) : Extended ℚ :=
  if |binary64 q| < 2 ^ 1024 then .finite (binary64 q) else .infinity (decide (q < 0))

namespace Extended

/-- `x + y`, of doubles. -/
def addDouble : Extended ℚ → Extended ℚ → Extended ℚ
  | finite x, finite y => double (x + y)
  | finite _, infinity negative => infinity negative
  | infinity negative, finite _ => infinity negative
  | infinity negative, infinity negative' =>
    if negative = negative' then infinity negative else nan
  | _, _ => nan

/-- `x <= y`. -/
def le : Extended ℚ → Extended ℚ → Bool
  | finite x, finite y => decide (x ≤ y)
  | finite _, infinity negative => !negative
  | infinity negative, finite _ => negative
  | infinity negative, infinity negative' => negative || !negative'
  | _, _ => false

end Extended
