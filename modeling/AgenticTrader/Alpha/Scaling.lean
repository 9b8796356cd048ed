import AgenticTrader.Alpha.Language
import Mathlib.Algebra.Order.Field.Basic
import Mathlib.Algebra.Order.Ring.Abs
import Mathlib.Algebra.BigOperators.Ring.List
import Mathlib.Tactic.Ring
import Mathlib.Tactic.FieldSimp

/-!
# The operators under a change of units

Measured in another unit a series is multiplied by a positive number. This
module says what each operator of the alpha language makes of it: sums, means
and deviations are multiplied by the same number, a variance by its square, a
quotient by the quotient of the two, and ranks, signs, positions and
correlations stay as they are. An infinity keeps its sign and a NaN stays
one.
-/


namespace AgenticTrader

open Lookback

variable {K : Type} [Field K]

/-! ## Cells -/

namespace Reading

/-- **A cell measured in another unit.** -/
def scale (c : K) : Reading K → Reading K
  | .num x => .num (c * x)
  | .inf => .inf
  | .negInf => .negInf
  | .nan => .nan

variable {c d : K} (x y z : Reading K)

@[simp] theorem scale_num (x : K) : (num x).scale c = .num (c * x) := rfl
@[simp] theorem scale_inf : (inf : Reading K).scale c = .inf := rfl
@[simp] theorem scale_negInf : (negInf : Reading K).scale c = .negInf := rfl
@[simp] theorem scale_nan : (nan : Reading K).scale c = .nan := rfl
@[simp] theorem scale_zero : (0 : Reading K).scale c = 0 := by
  show num (c * 0) = num 0
  rw [mul_zero]

@[simp] theorem scale_one : x.scale 1 = x := by
  cases x <;> simp

@[simp] theorem scale_infinity (negative : Bool) :
    (infinity negative : Reading K).scale c = infinity negative := by
  cases negative <;> rfl

@[simp] theorem isNan_scale : (x.scale c).isNan = x.isNan := by
  cases x <;> rfl

@[simp] theorem number?_scale : (x.scale c).number? = x.number?.map (c * ·) := by
  cases x <;> rfl

theorem scale_ite (p : Prop) [Decidable p] :
    (if p then x else y).scale c = if p then x.scale c else y.scale c :=
  apply_ite (scale c) p x y

@[simp] theorem neg_scale : (x.scale c).neg = x.neg.scale c := by
  cases x <;> simp [neg]

theorem add_scale : (x.scale c).add (y.scale c) = (x.add y).scale c := by
  cases x <;> cases y <;> simp [add, mul_add]

theorem sub_scale : (x.scale c).sub (y.scale c) = (x.sub y).scale c := by
  unfold sub
  rw [neg_scale, add_scale]

variable [LinearOrder K]

theorem scale_inj (hc : 0 < c) : x.scale c = y.scale c ↔ x = y := by
  cases x <;> cases y <;> simp [hc.ne']

variable [IsStrictOrderedRing K]

omit [IsStrictOrderedRing K] in
theorem scale_eq_zero (hc : 0 < c) : x.scale c = 0 ↔ x = 0 := by
  have h := scale_inj x 0 hc
  rwa [scale_zero] at h

theorem negative?_scale (hc : 0 < c) : (x.scale c).negative? = x.negative? := by
  cases x with
  | num x => simp [negative?, mul_neg_iff, hc, not_lt_of_gt hc]
  | _ => rfl

theorem mul_scale (hc : 0 < c) (hd : 0 < d) :
    (x.scale c).mul (y.scale d) = (x.mul y).scale (c * d) := by
  have hx := negative?_scale x hc
  have hy := negative?_scale y hd
  cases x <;> cases y <;>
    simp only [scale_num, scale_inf, scale_negInf, scale_nan, mul] at hx hy ⊢
  · rw [num.injEq]
    ring
  all_goals
    try simp only [hx, hy]
    split <;> simp only [scale_infinity, scale_nan]

theorem div_scale (hc : 0 < c) (hd : 0 < d) :
    (x.scale c).div (y.scale d) = (x.div y).scale (c / d) := by
  have hneg : ∀ y : K, d * y < 0 ↔ y < 0 := fun y => by
    simp [mul_neg_iff, hd, not_lt_of_gt hd]
  cases x <;> cases y <;>
    simp only [scale_num, scale_inf, scale_negInf, scale_nan, div, mul_zero, scale_infinity, hneg]
  rename_i x y
  have hx := negative?_scale (num x) hc
  rw [scale_num] at hx
  rw [hx, scale_ite, scale_num, mul_div_mul_comm]
  refine if_congr (mul_ne_zero_iff_left hd.ne') rfl ?_
  split <;> simp only [scale_infinity, scale_nan]

theorem safeDiv_scale (hc : 0 < c) (hd : 0 < d) :
    (x.scale c).safeDiv (y.scale d) = (x.safeDiv y).scale (c / d) := by
  unfold safeDiv
  rw [scale_ite, div_scale x y hc hd]
  simp only [scale_eq_zero y hd, scale_nan]

omit [IsStrictOrderedRing K] in
theorem pow_scale (hc : 0 < c) (p : ℤ) : (x.scale c).pow p = (x.pow p).scale (c ^ p) := by
  unfold pow
  by_cases hp : p = 0
  · subst hp
    rw [if_pos rfl, if_pos rfl, zpow_zero, scale_one]
  · rw [if_neg hp, if_neg hp]
    cases x with
    | num x =>
      simp only [scale_num, mul_eq_zero, hc.ne', false_or, mul_zpow]
      split <;> rfl
    | inf =>
      simp only [scale_inf]
      split <;> simp
    | negInf =>
      simp only [scale_negInf]
      split <;> simp
    | nan => rfl

theorem sign_scale (hc : 0 < c) : (x.scale c).sign = x.sign := by
  cases x with
  | num x => simp [sign, mul_neg_iff, hc, not_lt_of_gt hc]
  | _ => rfl

theorem abs_scale (hc : 0 < c) : (x.scale c).abs = x.abs.scale c := by
  cases x with
  | num x =>
    simp only [scale, abs, num.injEq]
    rw [← mul_neg, ← mul_max_of_nonneg _ _ hc.le]
  | _ => rfl

theorem lt_scale (hc : 0 < c) : (x.scale c).lt (y.scale c) = x.lt y := by
  cases x <;> cases y <;> simp [lt, hc]

theorem lt_zero_scale (hc : 0 < c) : lt 0 (x.scale c) = lt 0 x := by
  have h := lt_scale 0 x hc
  rwa [scale_zero] at h

theorem min_scale (hc : 0 < c) : (x.scale c).min (y.scale c) = (x.min y).scale c := by
  unfold min
  rw [isNan_scale, isNan_scale, lt_scale y x hc, scale_ite, scale_ite, scale_nan]

theorem max_scale (hc : 0 < c) : (x.scale c).max (y.scale c) = (x.max y).scale c := by
  unfold max
  rw [isNan_scale, isNan_scale, lt_scale x y hc, scale_ite, scale_ite, scale_nan]

theorem clip_scale (hc : 0 < c) :
    (x.scale c).clip (y.scale c) (z.scale c) = (x.clip y z).scale c := by
  unfold clip
  rw [max_scale x y hc, min_scale _ z hc]

/-- The test of a conditional may be in another unit than its branches. -/
theorem cond_scale (hd : 0 < d) :
    (x.scale d).cond (y.scale c) (z.scale c) = (x.cond y z).scale c := by
  unfold cond
  rw [isNan_scale, lt_zero_scale x hd, scale_ite, scale_ite, scale_nan]

theorem wherePositive_scale (hc : 0 < c) : (x.scale c).wherePositive = x.wherePositive.scale c := by
  unfold wherePositive
  rw [lt_zero_scale x hc, scale_ite, scale_nan]

theorem compare_scale (hc : 0 < c) (op : PyComparison) :
    (x.scale c).compare op (y.scale c) = x.compare op y := by
  unfold compare
  have heq : (x.scale c == y.scale c) = (x == y) := by
    rw [Bool.eq_iff_iff, beq_iff_eq, beq_iff_eq, scale_inj x y hc]
  have hne : (x.scale c != y.scale c) = (x != y) := by
    unfold bne
    rw [heq]
  rw [isNan_scale, isNan_scale, lt_scale x y hc, lt_scale y x hc, heq, hne]

end Reading

variable [LinearOrder K] [IsStrictOrderedRing K]

/-- **The square root is homogeneous**, as that of the reals is. -/
def Elementary.Homogeneous (fn : Elementary K) : Prop :=
  ∀ c x : K, 0 < c → fn.sqrt (c ^ 2 * x) = c * fn.sqrt x

theorem Reading.safeSqrt_scale {fn : Elementary K} (hfn : fn.Homogeneous) {c : K} (hc : 0 < c)
    (x : Reading K) : (x.scale (c ^ 2)).safeSqrt fn = (x.safeSqrt fn).scale c := by
  cases x with
  | num x =>
    have hpos : 0 ≤ c ^ 2 * x ↔ 0 ≤ x := mul_nonneg_iff_of_pos_left (pow_pos hc 2)
    simp only [scale_num, safeSqrt, hpos, hfn c x hc, scale_ite, scale_nan]
  | _ => rfl

/-! ## Statistics -/

namespace Stats

variable {c d : K} (v : List K) (w : List (K × K))

/-- The same values in another unit. -/
abbrev rescaled (c : K) (v : List K) : List K := v.map (c * ·)

/-- The same pairs, each side in its own unit. -/
abbrev rescaled₂ (c d : K) (w : List (K × K)) : List (K × K) :=
  w.map (fun p => (c * p.1, d * p.2))

omit [LinearOrder K] [IsStrictOrderedRing K] in
@[simp] theorem count_rescaled : count (rescaled c v) = count v := by
  simp [count]

omit [LinearOrder K] [IsStrictOrderedRing K] in
@[simp] theorem map_fst_rescaled₂ :
    (rescaled₂ c d w).map Prod.fst = rescaled c (w.map Prod.fst) := by
  simp [Function.comp_def]

omit [LinearOrder K] [IsStrictOrderedRing K] in
@[simp] theorem map_snd_rescaled₂ :
    (rescaled₂ c d w).map Prod.snd = rescaled d (w.map Prod.snd) := by
  simp [Function.comp_def]

omit [LinearOrder K] [IsStrictOrderedRing K] in
theorem sum_rescaled : (rescaled c v).sum = c * v.sum := by
  have h := List.sum_map_mul_left v id c
  rwa [List.map_id] at h

omit [LinearOrder K] [IsStrictOrderedRing K] in
theorem mean_rescaled : mean (rescaled c v) = c * mean v := by
  unfold mean
  rw [count_rescaled, sum_rescaled, mul_div_assoc]

omit [LinearOrder K] [IsStrictOrderedRing K] in
theorem variance_rescaled : variance (rescaled c v) = (variance v).scale (c ^ 2) := by
  have hsum : ((rescaled c v).map (fun x => (x - mean (rescaled c v)) ^ 2)).sum
      = c ^ 2 * (v.map (fun x => (x - mean v) ^ 2)).sum := by
    rw [mean_rescaled, List.map_map, ← List.sum_map_mul_left]
    congr 1
    refine List.map_congr_left fun x _ => ?_
    show (c * x - c * mean v) ^ 2 = c ^ 2 * (x - mean v) ^ 2
    ring
  unfold variance
  rw [hsum, count_rescaled, List.length_map, mul_div_assoc, Reading.scale_ite, Reading.scale_num,
    Reading.scale_nan]

omit [IsStrictOrderedRing K] in
theorem std_rescaled {fn : Elementary K} (hfn : fn.Homogeneous) (hc : 0 < c) :
    std fn (rescaled c v) = (std fn v).scale c := by
  unfold std
  rw [variance_rescaled]
  cases variance v with
  | num x =>
    show Reading.num (fn.sqrt (c ^ 2 * x)) = .num (c * fn.sqrt x)
    rw [hfn c x hc]
  | _ => rfl

omit [LinearOrder K] [IsStrictOrderedRing K] in
theorem covariance_rescaled :
    covariance (rescaled₂ c d w) = (covariance w).scale (c * d) := by
  have hprod : mean ((rescaled₂ c d w).map (fun p => p.1 * p.2))
      = c * d * mean (w.map (fun p => p.1 * p.2)) := by
    rw [← mean_rescaled]
    unfold rescaled rescaled₂
    rw [List.map_map, List.map_map]
    congr 1
    refine List.map_congr_left fun p _ => ?_
    show c * p.1 * (d * p.2) = c * d * (p.1 * p.2)
    ring
  unfold covariance
  rw [hprod, map_fst_rescaled₂, map_snd_rescaled₂, mean_rescaled, mean_rescaled, List.length_map,
    Reading.scale_ite, Reading.scale_num, Reading.scale_nan]
  congr 2
  ring

/-- **A correlation has no unit.** -/
theorem correlation_rescaled {fn : Elementary K} (hfn : fn.Homogeneous) (hc : 0 < c)
    (hd : 0 < d) : correlation fn (rescaled₂ c d w) = correlation fn w := by
  unfold correlation
  rw [map_fst_rescaled₂, map_snd_rescaled₂, variance_rescaled, variance_rescaled,
    covariance_rescaled, Reading.mul_scale _ _ (pow_pos hc 2) (pow_pos hd 2), ← mul_pow,
    Reading.safeSqrt_scale hfn (mul_pos hc hd), Reading.div_scale _ _ (mul_pos hc hd)
      (mul_pos hc hd), div_self (mul_pos hc hd).ne', Reading.scale_one]

theorem lastRank_rescaled (hc : 0 < c) : lastRank (rescaled c v) = lastRank v := by
  unfold lastRank
  rw [List.getLast?_map]
  cases v.getLast? with
  | none => rfl
  | some last =>
    simp only [Option.map_some, List.length_map, List.countP_map, count_rescaled]
    simp [Function.comp_def, hc, hc.ne']

theorem argmax_rescaled (hc : 0 < c) : argmax (rescaled c v) = argmax v := by
  unfold argmax
  simp [List.findIdx_map, Function.comp_def, hc]

theorem argmin_rescaled (hc : 0 < c) : argmin (rescaled c v) = argmin v := by
  unfold argmin
  simp [List.findIdx_map, Function.comp_def, hc]

omit [LinearOrder K] [IsStrictOrderedRing K] in
theorem relative_rescaled {position : List K → ℕ}
    (h : position (rescaled c v) = position v) :
    relative position (rescaled c v) = relative position v := by
  unfold relative
  rw [h, List.length_map]

theorem greatest_rescaled (hc : 0 < c) : greatest (rescaled c v) = (greatest v).scale c := by
  cases v with
  | nil => rfl
  | cons x l =>
    show Reading.num ((l.map (c * ·)).foldl Max.max (c * x)) = .num (c * l.foldl Max.max x)
    congr 1
    rw [List.foldl_map]
    induction l generalizing x with
    | nil => rfl
    | cons y l ih =>
      rw [List.foldl_cons, List.foldl_cons, ← mul_max_of_nonneg _ _ hc.le]
      exact ih _

theorem least_rescaled (hc : 0 < c) : least (rescaled c v) = (least v).scale c := by
  cases v with
  | nil => rfl
  | cons x l =>
    show Reading.num ((l.map (c * ·)).foldl Min.min (c * x)) = .num (c * l.foldl Min.min x)
    congr 1
    rw [List.foldl_map]
    induction l generalizing x with
    | nil => rfl
    | cons y l ih =>
      rw [List.foldl_cons, List.foldl_cons, ← mul_min_of_nonneg _ _ hc.le]
      exact ih _

omit [LinearOrder K] [IsStrictOrderedRing K] in
/-- A sum of the values weighted by their positions. -/
theorem weighted_rescaled (f : ℕ → K) :
    ((rescaled c v).zipIdx.map (fun p => f p.2 * p.1)).sum
      = c * (v.zipIdx.map (fun p => f p.2 * p.1)).sum := by
  rw [List.zipIdx_map, List.map_map, ← List.sum_map_mul_left]
  congr 1
  refine List.map_congr_left fun p _ => ?_
  show f p.2 * (c * p.1) = c * (f p.2 * p.1)
  ring

omit [LinearOrder K] [IsStrictOrderedRing K] in
theorem decayLinear_rescaled : decayLinear (rescaled c v) = (decayLinear v).scale c := by
  have h := weighted_rescaled (c := c) v (fun k => (k : K) + 1)
  unfold decayLinear
  simp only [mul_comm _ (_ + (1 : K))]
  rw [h, List.length_map, Reading.scale_num, mul_div_assoc]

omit [IsStrictOrderedRing K] in
theorem slope_rescaled : slope (rescaled c v) = (slope v).scale c := by
  have h := weighted_rescaled (c := c) v (fun k => (k : K) - (count v - 1) / 2)
  unfold slope
  simp only [count_rescaled, List.length_map]
  rw [h, Reading.scale_ite, Reading.scale_num, Reading.scale_nan, mul_div_assoc]

theorem median_rescaled (hc : 0 < c) : median (rescaled c v) = c * median v := by
  have hsorted : (rescaled c v).mergeSort (fun x y => decide (x ≤ y))
      = rescaled c (v.mergeSort (fun x y => decide (x ≤ y))) := by
    refine (List.map_mergeSort fun x _ y _ => ?_).symm
    simp [hc]
  have hget : ∀ (l : List K) (k : ℕ), (rescaled c l).getD k 0 = c * l.getD k 0 := by
    intro l k
    rw [List.getD_eq_getElem?_getD, List.getD_eq_getElem?_getD, List.getElem?_map]
    cases l[k]? <;> simp
  unfold median
  simp only [hsorted, hget, List.length_map]
  ring

theorem mad_rescaled (hc : 0 < c) : mad (rescaled c v) = (mad v).scale c := by
  have h := median_rescaled (v.map (fun x => max (x - median v) (median v - x))) hc
  unfold mad
  rw [median_rescaled v hc, Reading.scale_num, ← h]
  unfold rescaled
  rw [List.map_map, List.map_map]
  congr 2
  refine List.map_congr_left fun x _ => ?_
  show max (c * x - c * median v) (c * median v - c * x)
    = c * max (x - median v) (median v - x)
  rw [mul_max_of_nonneg _ _ hc.le, mul_sub, mul_sub]

end Stats

/-! ## Series -/

section

variable {n : ℕ} {c d : K}

/-- **A series measured in another unit.** -/
abbrev Series.scale (c : K) (x : Series K n) : Series K n := fun i => (x i).scale c

theorem ago_map {α β : Type} (f : α → β) (x : Fin n → α) (i : Fin n) (k : ℕ) :
    ago (fun i => f (x i)) i k = (ago x i k).map f := by
  unfold ago
  split <;> rfl

theorem window_map {α β : Type} (f : α → β) (x : Fin n → α) (w : ℕ) (i : Fin n) :
    window (fun i => f (x i)) w i = (window x w i).map (List.map f) := by
  unfold window
  rw [funext (ago_map f x i), ← List.map_filterMap]
  split <;> rfl

theorem history_map {α β : Type} (f : α → β) (x : Fin n → α) (i : Fin n) :
    history (fun i => f (x i)) i = (history x i).map f := by
  unfold history
  rw [funext (ago_map f x i), ← List.map_filterMap]

theorem mapM_map {α β : Type} {f : α → Option β} {g : α → α} {h : β → β}
    (hf : ∀ x, f (g x) = (f x).map h) (l : List α) :
    (l.map g).mapM f = (l.mapM f).map (List.map h) := by
  induction l with
  | nil => rfl
  | cons x l ih =>
    rw [List.map_cons, List.mapM_cons, List.mapM_cons, ih, hf]
    cases f x with
    | none => rfl
    | some y => cases l.mapM f <;> rfl

omit [LinearOrder K] [IsStrictOrderedRing K] in
theorem numbers?_scale (p : Reading K × Reading K) :
    numbers? (p.1.scale c, p.2.scale d) = (numbers? p).map (fun q => (c * q.1, d * q.2)) := by
  unfold numbers?
  rw [Reading.number?_scale, Reading.number?_scale]
  cases p.1.number? with
  | none => rfl
  | some x => cases p.2.number? <;> rfl

omit [LinearOrder K] [IsStrictOrderedRing K] in
/-- **A rolling statistic of a series in another unit**, given what the
statistic makes of it. -/
theorem rolling_scale {f : List K → Reading K} {e : K}
    (hf : ∀ v, f (Stats.rescaled c v) = (f v).scale e) (w : ℕ) (x : Series K n) :
    rolling f w (x.scale c) = (rolling f w x).scale e := by
  funext i
  show rolling f w (fun i => (x i).scale c) i = (rolling f w x i).scale e
  unfold rolling
  rw [window_map (Reading.scale c) x]
  cases window x w i with
  | none => rfl
  | some l =>
    simp only [Option.map_some, Option.bind_some, mapM_map Reading.number?_scale]
    cases l.mapM Reading.number? with
    | none => rfl
    | some v => exact hf v

omit [LinearOrder K] [IsStrictOrderedRing K] in
theorem rolling₂_scale {f : List (K × K) → Reading K} {e : K}
    (hf : ∀ v, f (Stats.rescaled₂ c d v) = (f v).scale e) (w : ℕ) (x y : Series K n) :
    rolling₂ f w (x.scale c) (y.scale d) = (rolling₂ f w x y).scale e := by
  funext i
  show rolling₂ f w (fun i => (x i).scale c) (fun i => (y i).scale d) i
    = (rolling₂ f w x y i).scale e
  unfold rolling₂
  rw [window_map (fun p : Reading K × Reading K => (p.1.scale c, p.2.scale d))
    (fun i => (x i, y i))]
  cases window (fun i => (x i, y i)) w i with
  | none => rfl
  | some l =>
    simp only [Option.map_some, Option.bind_some, mapM_map numbers?_scale]
    cases l.mapM numbers? with
    | none => rfl
    | some v => exact hf v

omit [LinearOrder K] [IsStrictOrderedRing K] in
theorem shift_scale (x : Series K n) (lag : ℤ) : shift (x.scale c) lag = (shift x lag).scale c := by
  funext i
  show shift (fun i => (x i).scale c) lag i = (shift x lag i).scale c
  unfold shift
  rw [ago_map (Reading.scale c) x]
  split
  · split <;> rfl
  · cases ago x i lag.toNat <;> rfl

/-- A state of the exponential mean, in another unit. -/
def EmaState.scale (c : K) (s : EmaState K) : EmaState K :=
  { s with weighted := s.weighted.map (c * ·) }

omit [LinearOrder K] [IsStrictOrderedRing K] in
theorem EmaState.next_scale (alpha : K) (s : EmaState K) (x : Reading K) :
    (s.scale c).next alpha (x.scale c) = (s.next alpha x).scale c := by
  obtain ⟨weighted, oldWeight, observed⟩ := s
  unfold EmaState.next EmaState.scale
  rw [Reading.number?_scale]
  cases weighted with
  | none => cases x.number? <;> rfl
  | some w =>
    cases x.number? with
    | none => rfl
    | some v =>
      simp only [Option.map_some]
      congr 2
      ring

omit [LinearOrder K] [IsStrictOrderedRing K] in
theorem EmaState.mean_scale (w : ℕ) (s : EmaState K) : (s.scale c).mean w = (s.mean w).scale c := by
  obtain ⟨weighted, oldWeight, observed⟩ := s
  unfold EmaState.mean EmaState.scale
  cases weighted with
  | none => rfl
  | some x =>
    show (if w ≤ observed then Reading.num (c * x) else .nan)
      = (if w ≤ observed then Reading.num x else .nan).scale c
    rw [Reading.scale_ite, Reading.scale_num, Reading.scale_nan]

omit [LinearOrder K] [IsStrictOrderedRing K] in
theorem ema_scale (x : Series K n) (w : ℕ) : ema (x.scale c) w = (ema x w).scale c := by
  funext i
  have hfold : ∀ (l : List (Reading K)) (s : EmaState K),
      (l.map (Reading.scale c)).foldl (EmaState.next (2 / ((w : K) + 1))) (s.scale c)
        = (l.foldl (EmaState.next (2 / ((w : K) + 1))) s).scale c := by
    intro l
    induction l with
    | nil => exact fun s => rfl
    | cons x l ih =>
      intro s
      rw [List.map_cons, List.foldl_cons, List.foldl_cons, EmaState.next_scale, ih]
  have hinit : (⟨none, 1, 0⟩ : EmaState K) = EmaState.scale c ⟨none, 1, 0⟩ := rfl
  show ema (fun i => (x i).scale c) w i = (ema x w i).scale c
  unfold ema
  rw [Reading.isNan_scale, history_map (Reading.scale c) x, hinit, hfold, EmaState.mean_scale,
    Reading.scale_ite, Reading.scale_nan]
  rfl

/-! ## The operators -/

/-- **An operator multiplies by `g c` what is multiplied by `c`.** -/
def Scales {ω : Type} (g : K → K) (f : Series K n → ω → Series K n) : Prop :=
  ∀ {c : K}, 0 < c → ∀ (x : Series K n) (w : ω), f (x.scale c) w = (f x w).scale (g c)

/-- The same of two series. -/
def Scales₂ {ω : Type} (g : K → K → K) (f : Series K n → Series K n → ω → Series K n) : Prop :=
  ∀ {c d : K}, 0 < c → 0 < d → ∀ (x y : Series K n) (w : ω),
    f (x.scale c) (y.scale d) w = (f x y w).scale (g c d)

omit [IsStrictOrderedRing K] in
theorem rolling_scales {f : List K → Reading K} {g : K → K}
    (hf : ∀ {c : K}, 0 < c → ∀ v, f (Stats.rescaled c v) = (f v).scale (g c)) :
    Scales (n := n) g (fun x w => rolling f w x) :=
  fun hc x w => rolling_scale (hf hc) w x

omit [IsStrictOrderedRing K] in
/-- A rolling statistic that has no unit. -/
theorem rolling_scales_one {f : List K → Reading K}
    (hf : ∀ {c : K}, 0 < c → ∀ v, f (Stats.rescaled c v) = f v) :
    Scales (n := n) (fun _ => 1) (fun x w => rolling f w x) := by
  refine rolling_scales (g := fun _ => 1) fun hc v => ?_
  rw [hf hc, Reading.scale_one]

omit [IsStrictOrderedRing K] in
theorem mean_scales : Scales (n := n) id (tsMean (K := K)) :=
  rolling_scales fun _ v => by rw [Stats.mean_rescaled]; rfl

omit [IsStrictOrderedRing K] in
theorem slope_scales : Scales (n := n) id (tsSlope (K := K)) :=
  rolling_scales fun _ v => Stats.slope_rescaled v

omit [IsStrictOrderedRing K] in
theorem std_scales {fn : Elementary K} (hfn : fn.Homogeneous) : Scales (n := n) id (tsStd fn) :=
  rolling_scales fun hc v => Stats.std_rescaled v hfn hc

omit [IsStrictOrderedRing K] in
theorem variance_scales :
    Scales (n := n) (· ^ 2) (fun x w => rolling (Stats.variance (K := K)) w x) :=
  rolling_scales fun _ v => Stats.variance_rescaled v

omit [IsStrictOrderedRing K] in
theorem covariance_scales :
    Scales₂ (n := n) (· * ·) (fun x y w => rolling₂ (Stats.covariance (K := K)) w x y) :=
  fun _ _ x y w => rolling₂_scale Stats.covariance_rescaled w x y

/-- **A z-score has no unit.** -/
theorem zscore_scales {fn : Elementary K} (hfn : fn.Homogeneous) :
    Scales (n := n) (fun _ => 1) (zscore fn) := by
  intro c hc x w
  funext i
  unfold zscore
  rw [mean_scales hc, std_scales hfn hc]
  show ((((x i).scale c).sub ((tsMean x w i).scale c)).safeDiv ((tsStd fn x w i).scale c)).clip _ _
    = (Reading.clip _ _ _).scale 1
  rw [Reading.sub_scale, Reading.safeDiv_scale _ _ hc hc, div_self hc.ne', Reading.scale_one,
    Reading.scale_one]

theorem tsResidual_scales : Scales (n := n) id (tsResidual (K := K)) := by
  intro c hc x w
  have hconst : ∀ (y : Reading K) (k : K), ((y.scale c).mul (.num k)).div (.num 2)
      = ((y.mul (.num k)).div (.num 2)).scale c := by
    intro y k
    have hm := y.mul_scale (.num k) hc one_pos
    have hd := (y.mul (.num k)).div_scale (.num 2) hc one_pos
    rw [Reading.scale_one, mul_one] at hm
    rw [Reading.scale_one, div_one] at hd
    rw [hm, hd]
  funext i
  unfold tsResidual
  rw [mean_scales hc, slope_scales hc]
  show (((x i).scale c).sub ((tsMean x w i).scale c)).sub
    ((((tsSlope x w i).scale c).mul _).div _) = (Reading.sub _ _).scale c
  rw [hconst, Reading.sub_scale, Reading.sub_scale]

omit [IsStrictOrderedRing K] in
theorem delay_scales : Scales (n := n) id (delay (K := K)) :=
  fun _ x lag => shift_scale x lag

omit [IsStrictOrderedRing K] in
theorem delta_scales : Scales (n := n) id (delta (K := K)) := by
  intro c _ x lag
  funext i
  unfold delta
  rw [shift_scale]
  exact Reading.sub_scale _ _

/-- **A rate of change has no unit.** -/
theorem roc_scales : Scales (n := n) (fun _ => 1) (roc (K := K)) := by
  intro c hc x lag
  funext i
  unfold roc
  rw [shift_scale]
  show (((x i).scale c).safeDiv ((shift x lag i).scale c)).sub 1 = (Reading.sub _ _).scale 1
  rw [Reading.safeDiv_scale _ _ hc hc, div_self hc.ne', Reading.scale_one, Reading.scale_one]

theorem tsCorr_scales {fn : Elementary K} (hfn : fn.Homogeneous) :
    Scales₂ (n := n) (fun _ _ => 1) (tsCorr fn) := by
  intro c d hc hd x y w
  have h := rolling₂_scale (f := Stats.correlation fn) (e := 1) (c := c) (d := d)
    (fun v => by rw [Stats.correlation_rescaled v hfn hc hd, Reading.scale_one]) w x y
  funext i
  unfold tsCorr
  rw [h]
  show Reading.clip ((rolling₂ _ w x y i).scale 1) _ _ = (Reading.clip _ _ _).scale 1
  rw [Reading.scale_one, Reading.scale_one]

/-- **The slope of one series on another** has the quotient of their units. -/
theorem tsBeta_scales : Scales₂ (n := n) (· / ·) (tsBeta (K := K)) := by
  intro c d hc hd x y w
  have hcov := covariance_scales hc hd x y w
  have hvar := variance_scales hd y w
  dsimp only at hcov hvar
  funext i
  unfold tsBeta
  rw [hcov, hvar]
  show ((rolling₂ Stats.covariance w x y i).scale (c * d)).div
    ((rolling Stats.variance w y i).scale (d ^ 2)).wherePositive = (Reading.div _ _).scale (c / d)
  rw [Reading.wherePositive_scale _ (pow_pos hd 2),
    Reading.div_scale _ _ (mul_pos hc hd) (pow_pos hd 2)]
  congr 1
  field_simp

/-- **The residual deviation of one series on another** has the unit of the
first. -/
theorem tsResidStd_scales {fn : Elementary K} (hfn : fn.Homogeneous) :
    Scales₂ (n := n) (fun c _ => c) (tsResidStd fn) := by
  intro c d hc hd x y w
  have hcov := covariance_scales hc hd x y w
  have hvar := variance_scales hd y w
  have hvar' := variance_scales hc x w
  dsimp only at hcov hvar hvar'
  have hc2 : 0 < c ^ 2 := pow_pos hc 2
  have hd2 : 0 < d ^ 2 := pow_pos hd 2
  have hdiv : (c * d) ^ (2 : ℤ) / d ^ 2 = c ^ 2 := by
    rw [mul_zpow, zpow_ofNat, zpow_ofNat, mul_div_assoc, div_self hd2.ne', mul_one]
  have hconst : ∀ (y : Reading K) (k l : K), ((y.scale (c ^ 2)).mul (.num k)).div (.num l)
      = ((y.mul (.num k)).div (.num l)).scale (c ^ 2) := by
    intro y k l
    have hm := y.mul_scale (.num k) hc2 one_pos
    have hl := (y.mul (.num k)).div_scale (.num l) hc2 one_pos
    rw [Reading.scale_one, mul_one] at hm
    rw [Reading.scale_one, div_one] at hl
    rw [hm, hl]
  have hmax : ∀ y : Reading K, (y.scale (c ^ 2)).max 0 = (y.max 0).scale (c ^ 2) := by
    intro y
    have h := y.max_scale 0 hc2
    rwa [Reading.scale_zero] at h
  funext i
  unfold tsResidStd
  rw [hcov, hvar, hvar']
  simp only [Reading.scale_ite, Reading.scale_nan]
  refine if_congr Iff.rfl rfl ?_
  rw [Reading.pow_scale _ (mul_pos hc hd), Reading.wherePositive_scale _ hd2,
    Reading.div_scale _ _ (zpow_pos (mul_pos hc hd) 2) hd2, hdiv, Reading.sub_scale, hmax, hconst,
    Reading.safeSqrt_scale hfn hc]

end

end AgenticTrader
