import AgenticTrader.Library.HalfEven
import Mathlib.Algebra.Order.BigOperators.Group.List
import Mathlib.Data.Int.Log
import Mathlib.Data.Rat.Floor
import Mathlib.Tactic.Linarith
import Mathlib.Tactic.NormNum
import Mathlib.Tactic.Positivity

/-!
# Decimal contexts

An arbitrary-precision decimal keeps every digit it is written with, but the
result of an operation is rounded to the precision of the context, to the
nearest decimal of that many significant digits and to the even one of two.
Exponents are not bounded here.

Amounts that are all multiples of one power of ten and add up, in absolute
value, to fewer digits than the precision have exact sums, in any order
(`Fits`): every partial sum is itself such a multiple.
-/

/-- **The nearest decimal of `p` significant digits.** -/
def roundDigits (p : ℕ) (q : ℚ) : ℚ :=
  if q = 0 then 0
  else roundHalfEven (q / 10 ^ (Int.log 10 |q| + 1 - p)) * 10 ^ (Int.log 10 |q| + 1 - p)

/-- A decimal that is a multiple of the last digit's weight is not rounded. -/
theorem roundDigits_of_dvd {p : ℕ} {q : ℚ} {m : ℤ}
    (h : q = m * 10 ^ (Int.log 10 |q| + 1 - (p : ℤ))) : roundDigits p q = q := by
  unfold roundDigits
  split
  · rename_i hq
    exact hq.symm
  · have hpow : (10 : ℚ) ^ (Int.log 10 |q| + 1 - (p : ℤ)) ≠ 0 := zpow_ne_zero _ (by norm_num)
    have hm : q / 10 ^ (Int.log 10 |q| + 1 - (p : ℤ)) = m := by
      rw [div_eq_iff hpow]
      exact h
    rw [hm, roundHalfEven_intCast]
    exact h.symm

/-- **A decimal of at most `p` digits is not rounded.** -/
theorem roundDigits_exact {p k : ℕ} {m : ℤ} (hm : |m| < 10 ^ p) :
    roundDigits p ((m : ℚ) / 10 ^ k) = (m : ℚ) / 10 ^ k := by
  by_cases hz : m = 0
  · simp [hz, roundDigits]
  · have hten : (10 : ℚ) ≠ 0 := by norm_num
    have hpos : 0 < |(m : ℚ) / 10 ^ k| := by
      have : (m : ℚ) ≠ 0 := Int.cast_ne_zero.mpr hz
      positivity
    have habs : |(m : ℚ) / 10 ^ k| < 10 ^ ((p : ℤ) - k) := by
      rw [abs_div, abs_of_pos (show (0 : ℚ) < 10 ^ k by positivity), zpow_sub₀ hten, zpow_natCast,
        zpow_natCast]
      refine div_lt_div_of_pos_right ?_ (by positivity)
      exact_mod_cast hm
    have hlog : Int.log 10 |(m : ℚ) / 10 ^ k| < (p : ℤ) - k :=
      (Int.lt_zpow_iff_log_lt (by norm_num) hpos).mp (by exact_mod_cast habs)
    generalize he : Int.log 10 |(m : ℚ) / 10 ^ k| = e at hlog
    obtain ⟨n, hn⟩ : ∃ n : ℕ, -(k : ℤ) = e + 1 - p + n :=
      ⟨(-(k : ℤ) - (e + 1 - p)).toNat, by omega⟩
    refine roundDigits_of_dvd (m := m * 10 ^ n) ?_
    rw [he, div_eq_mul_inv, ← zpow_natCast, ← zpow_neg, hn, zpow_add₀ hten, zpow_natCast]
    push_cast
    ring

/-- Rounding keeps the sign. -/
theorem roundDigits_nonpos_iff {p : ℕ} (hp : 0 < p) {q : ℚ} : roundDigits p q ≤ 0 ↔ q ≤ 0 := by
  unfold roundDigits
  split
  · rename_i hq
    simp [hq]
  · rename_i hq
    have hscale : (0 : ℚ) < 10 ^ (Int.log 10 |q| + 1 - (p : ℤ)) := zpow_pos (by norm_num) _
    -- the scaled number is one or more, without its sign
    have hone : 1 ≤ |q| / 10 ^ (Int.log 10 |q| + 1 - (p : ℤ)) := by
      rw [one_le_div hscale]
      refine le_trans ?_ (Int.zpow_log_le_self (b := 10) (by decide) (abs_pos.mpr hq))
      exact zpow_le_zpow_right₀ (by norm_num) (by omega)
    rcases lt_or_gt_of_ne hq with hneg | hpos
    · refine iff_of_true (mul_nonpos_of_nonpos_of_nonneg ?_ hscale.le) hneg.le
      exact_mod_cast roundHalfEven_nonpos (div_nonpos_of_nonpos_of_nonneg hneg.le hscale.le)
    · rw [abs_of_pos hpos] at hone hscale ⊢
      have hround := one_le_roundHalfEven.mpr
        (lt_of_lt_of_le (show (1 : ℚ) / 2 < 1 by norm_num) hone)
      refine iff_of_false (not_le.mpr (mul_pos ?_ hscale)) (not_le.mpr hpos)
      exact_mod_cast hround

/-! ## Amounts that fit -/

/-- **The sum of amounts without their signs.** -/
def size (amounts : List ℚ) : ℚ := (amounts.map (fun q => |q|)).sum

theorem size_nonneg (amounts : List ℚ) : 0 ≤ size amounts :=
  List.sum_nonneg (by
    simp only [List.mem_map, forall_exists_index, and_imp]
    rintro _ q - rfl
    exact abs_nonneg q)

theorem size_append (a b : List ℚ) : size (a ++ b) = size a + size b := by
  simp [size]

theorem abs_le_size {amounts : List ℚ} {q : ℚ} (h : q ∈ amounts) : |q| ≤ size amounts := by
  refine List.single_le_sum ?_ _ (List.mem_map_of_mem h)
  simp only [List.mem_map, forall_exists_index, and_imp]
  rintro _ x - rfl
  exact abs_nonneg x

theorem size_sublist {amounts amounts' : List ℚ} (h : amounts.Sublist amounts') :
    size amounts ≤ size amounts' := by
  refine (h.map (fun q => |q|)).sum_le_sum (fun x hx => ?_)
  obtain ⟨q, -, rfl⟩ := List.mem_map.mp hx
  exact abs_nonneg q

theorem size_flatMap {α : Type*} (parts : α → List ℚ) (items : List α) :
    size (items.flatMap parts) = (items.map (fun x => size (parts x))).sum := by
  induction items with
  | nil => rfl
  | cons x items ih => rw [List.flatMap_cons, size_append, ih, List.map_cons, List.sum_cons]

/-- A figure of each item that is no more than what the item brings. -/
theorem size_map_le {α : Type*} {figure : α → ℚ} {parts : α → List ℚ} {items : List α}
    (h : ∀ x ∈ items, |figure x| ≤ size (parts x)) :
    size (items.map figure) ≤ size (items.flatMap parts) := by
  rw [size_flatMap, size, List.map_map]
  exact List.sum_le_sum h

theorem abs_sum_le_size (amounts : List ℚ) : |amounts.sum| ≤ size amounts := by
  simpa [size] using Multiset.abs_sum_le_sum_abs (s := (amounts : Multiset ℚ))

/-- **Amounts whose sums a context holds**: multiples of one power of ten that
add up to at most `p` digits. -/
def Fits (p : ℕ) (amounts : List ℚ) : Prop :=
  ∃ k : ℕ, (∀ q ∈ amounts, ∃ m : ℤ, q = m / 10 ^ k)
    ∧ size amounts * 10 ^ k < 10 ^ p

/-- A test for it, of given amounts. -/
theorem fits_of_den {p : ℕ} (k : ℕ) {amounts : List ℚ}
    (hunits : ∀ q ∈ amounts, (q * 10 ^ k).den = 1) (hbound : size amounts * 10 ^ k < 10 ^ p) :
    Fits p amounts := by
  refine ⟨k, fun q hq => ⟨(q * 10 ^ k).num, ?_⟩, hbound⟩
  rw [eq_div_iff (by positivity)]
  exact (Rat.coe_int_num_of_den_eq_one (hunits q hq)).symm

theorem Fits.perm {p : ℕ} {amounts amounts' : List ℚ} (h : Fits p amounts)
    (hp : amounts.Perm amounts') : Fits p amounts' := by
  obtain ⟨k, hunits, hbound⟩ := h
  refine ⟨k, fun q hq => hunits q (hp.mem_iff.mpr hq), ?_⟩
  rwa [size, ← (hp.map _).sum_eq]

/-- A multiple of the unit within the bound is not rounded. -/
theorem roundDigits_of_bound {p k : ℕ} {q bound : ℚ} (hq : ∃ m : ℤ, q = m / 10 ^ k)
    (hle : |q| ≤ bound) (hbound : bound * 10 ^ k < 10 ^ p) : roundDigits p q = q := by
  obtain ⟨m, rfl⟩ := hq
  refine roundDigits_exact ?_
  have hk : (0 : ℚ) < 10 ^ k := by positivity
  rw [abs_div, abs_of_pos hk, div_le_iff₀ hk] at hle
  exact_mod_cast hle.trans_lt hbound

/-- The multiples of a unit are closed under addition. -/
theorem multiple_add {k : ℕ} {a b : ℚ} (ha : ∃ m : ℤ, a = m / 10 ^ k)
    (hb : ∃ m : ℤ, b = m / 10 ^ k) : ∃ m : ℤ, a + b = m / 10 ^ k := by
  obtain ⟨m, rfl⟩ := ha
  obtain ⟨n, rfl⟩ := hb
  exact ⟨m + n, by push_cast; ring⟩

theorem multiple_neg {k : ℕ} {a : ℚ} (ha : ∃ m : ℤ, a = m / 10 ^ k) :
    ∃ m : ℤ, -a = m / 10 ^ k := by
  obtain ⟨m, rfl⟩ := ha
  exact ⟨-m, by push_cast; ring⟩

theorem multiple_sum {k : ℕ} {amounts : List ℚ} (h : ∀ q ∈ amounts, ∃ m : ℤ, q = m / 10 ^ k) :
    ∃ m : ℤ, amounts.sum = m / 10 ^ k := by
  induction amounts with
  | nil => exact ⟨0, by simp⟩
  | cons q amounts ih =>
    rw [List.sum_cons]
    rw [List.forall_mem_cons] at h
    exact multiple_add h.1 (ih h.2)

/-- **A rounded sum of amounts that fit is the sum.** The terms are summed from
the left, onto a start, and `spare` is what else the bound leaves room for. -/
theorem foldl_round_eq {p k : ℕ} {α : Type*} (value : α → ℚ) {items : List α} {start spare : ℚ}
    (hstart : ∃ m : ℤ, start = m / 10 ^ k)
    (hitems : ∀ x ∈ items, ∃ m : ℤ, value x = m / 10 ^ k) (hspare : 0 ≤ spare)
    (hbound : (|start| + (items.map (fun x => |value x|)).sum + spare) * 10 ^ k < 10 ^ p) :
    items.foldl (fun total x => roundDigits p (total + value x)) start
        = start + (items.map value).sum
      ∧ ∃ m : ℤ, start + (items.map value).sum = m / 10 ^ k := by
  induction items generalizing start with
  | nil =>
    refine ⟨by simp, ?_⟩
    simpa using hstart
  | cons x items ih =>
    have hx := multiple_add hstart (hitems x List.mem_cons_self)
    have hsum : 0 ≤ (items.map (fun x => |value x|)).sum :=
      List.sum_nonneg (by simp only [List.mem_map, forall_exists_index, and_imp]
                          rintro _ y - rfl
                          exact abs_nonneg _)
    rw [List.map_cons, List.sum_cons] at hbound
    have htri : |start + value x| ≤ |start| + |value x| := abs_add_le _ _
    have hround : roundDigits p (start + value x) = start + value x :=
      roundDigits_of_bound hx (by linarith) hbound
    have hrest : (|start + value x| + (items.map (fun x => |value x|)).sum + spare) * 10 ^ k
        < 10 ^ p := by
      refine lt_of_le_of_lt ?_ hbound
      exact mul_le_mul_of_nonneg_right (by linarith) (by positivity)
    obtain ⟨hfold, hm⟩ := ih hx (fun y hy => hitems y (List.mem_cons_of_mem _ hy)) hrest
    rw [List.foldl_cons, hround, hfold, List.map_cons, List.sum_cons, ← add_assoc]
    exact ⟨rfl, hm⟩
