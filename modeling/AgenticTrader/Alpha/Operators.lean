import AgenticTrader.Library.Lookback
import Mathlib.Algebra.Field.Basic
import Mathlib.Algebra.BigOperators.Group.List.Basic
import Mathlib.Order.Defs.LinearOrder
import Mathlib.Data.List.Sort

/-!
# The operators of the alpha language

`research/alpha/operators.py`: the operators on series that an alpha expression
may call. A cell of a series is a float, and a float here is an exact number,
one of the two infinities, or NaN (`Reading`). The numbers are those of any
ordered field, with the two functions on it that the operators use
(`Elementary`); there is one zero.

`rolling`, `shift`, `ewm` and `where` are taken as pandas documents them. A
rolling window of `d` bars with `min_periods=d` has a value where there are `d`
bars and all of them hold numbers; it takes an infinity for a missing value.
-/

namespace AgenticTrader

open Lookback

/-! ## Floats -/

/-- **The logarithm and the square root** of the numbers. -/
structure Elementary (K : Type) where
  log : K → K
  sqrt : K → K

/-- **What a cell of a series holds.** -/
inductive Reading (K : Type) where
  | num (x : K)
  | inf
  | negInf
  | nan
  deriving DecidableEq, Repr

variable {K : Type} [Field K] [LinearOrder K]

namespace Reading

instance : OfNat (Reading K) 0 := ⟨.num 0⟩
instance : OfNat (Reading K) 1 := ⟨.num 1⟩

/-- `pd.isna`. -/
def isNan : Reading K → Bool
  | .nan => true
  | _ => false

/-- The number, where there is one. -/
def number? : Reading K → Option K
  | .num x => some x
  | _ => none

/-- The sign of a float that is not NaN: `none` for a zero, `some true` for a
negative one. -/
def negative? : Reading K → Option Bool
  | .num x => if x < 0 then some true else if 0 < x then some false else none
  | .inf => some false
  | .negInf => some true
  | .nan => none

/-- An infinity of a sign. -/
def infinity (negative : Bool) : Reading K :=
  if negative then .negInf else .inf

def neg : Reading K → Reading K
  | .num x => .num (-x)
  | .inf => .negInf
  | .negInf => .inf
  | .nan => .nan

def add : Reading K → Reading K → Reading K
  | .num x, .num y => .num (x + y)
  | .nan, _ => .nan
  | _, .nan => .nan
  | .inf, .negInf => .nan
  | .negInf, .inf => .nan
  | .inf, _ => .inf
  | _, .inf => .inf
  | .negInf, _ => .negInf
  | _, .negInf => .negInf

def sub (x y : Reading K) : Reading K :=
  x.add y.neg

/-- A product with an infinity has the sign of its factors, and none with a
zero. -/
def mul : Reading K → Reading K → Reading K
  | .num x, .num y => .num (x * y)
  | .nan, _ => .nan
  | _, .nan => .nan
  | x, y => match x.negative?, y.negative? with
    | some a, some b => infinity (a != b)
    | _, _ => .nan

def div : Reading K → Reading K → Reading K
  | .nan, _ => .nan
  | _, .nan => .nan
  | .num x, .num y =>
    if y ≠ 0 then .num (x / y)
    else match (num x).negative? with
      | some negative => infinity negative
      | none => .nan
  | .num _, _ => .num 0
  | x, .num y => infinity ((x == .negInf) != decide (y < 0))
  | _, _ => .nan

/-- A power with an integer exponent. -/
def pow (x : Reading K) (p : ℤ) : Reading K :=
  if p = 0 then .num 1
  else match x with
    | .nan => .nan
    | .num x => if x = 0 ∧ p < 0 then .inf else .num (x ^ p)
    | .inf => if p < 0 then .num 0 else .inf
    | .negInf => if p < 0 then .num 0 else infinity (p % 2 != 0)

/-- `np.sign`. -/
def sign : Reading K → Reading K
  | .num x => .num (if x < 0 then -1 else if 0 < x then 1 else 0)
  | .inf => .num 1
  | .negInf => .num (-1)
  | .nan => .nan

/-- `np.abs`. -/
def abs : Reading K → Reading K
  | .num x => .num (max x (-x))
  | .inf => .inf
  | .negInf => .inf
  | .nan => .nan

/-- **`safe_log`** of one cell. -/
def safeLog (fn : Elementary K) : Reading K → Reading K
  | .num x => if 0 < x then .num (fn.log x) else .nan
  | .inf => .inf
  | _ => .nan

/-- **`safe_sqrt`** of one cell. -/
def safeSqrt (fn : Elementary K) : Reading K → Reading K
  | .num x => if 0 ≤ x then .num (fn.sqrt x) else .nan
  | .inf => .inf
  | _ => .nan

/-- `x < y`, which no NaN satisfies. -/
def lt : Reading K → Reading K → Bool
  | .nan, _ => false
  | _, .nan => false
  | .num x, .num y => decide (x < y)
  | .negInf, .negInf => false
  | .negInf, _ => true
  | .num _, .inf => true
  | _, _ => false

/-- `np.minimum`, to which a NaN passes. -/
def min (x y : Reading K) : Reading K :=
  if x.isNan || y.isNan then .nan else if y.lt x then y else x

/-- `np.maximum`. -/
def max (x y : Reading K) : Reading K :=
  if x.isNan || y.isNan then .nan else if x.lt y then y else x

/-- `clip`. -/
def clip (x lower upper : Reading K) : Reading K :=
  (x.max lower).min upper

/-- **`safe_div`** of one cell: a zero divisor is taken out first. -/
def safeDiv (x y : Reading K) : Reading K :=
  if y = 0 then .nan else x.div y

/-- **`cond`** of one cell. -/
def cond (test x y : Reading K) : Reading K :=
  if test.isNan then .nan else if lt 0 test then x else y

/-- `x.where(0 < x)`. -/
def wherePositive (x : Reading K) : Reading K :=
  if lt 0 x then x else .nan

end Reading

/-! ## Statistics of a window -/

namespace Stats

/-- The number `d`. -/
def count (v : List K) : K := v.length

def mean (v : List K) : K := v.sum / count v

/-- The sum of squared deviations over `d - 1`; a single value has none. -/
def variance (v : List K) : Reading K :=
  if v.length ≤ 1 then .nan
  else .num ((v.map (fun x => (x - mean v) ^ 2)).sum / (count v - 1))

def std (fn : Elementary K) (v : List K) : Reading K :=
  match variance v with
  | .num x => .num (fn.sqrt x)
  | _ => .nan

/-- The covariance over `d - 1`. -/
def covariance (v : List (K × K)) : Reading K :=
  if v.length ≤ 1 then .nan
  else .num ((mean (v.map (fun p => p.1 * p.2)) - mean (v.map Prod.fst) * mean (v.map Prod.snd))
    * ((v.length : K) / ((v.length : K) - 1)))

/-- The covariance over the root of the product of the variances. -/
def correlation (fn : Elementary K) (v : List (K × K)) : Reading K :=
  (covariance v).div
    (((variance (v.map Prod.fst)).mul (variance (v.map Prod.snd))).safeSqrt fn)

/-- The rank of the last value among all, between 0 and 1. -/
def lastRank (v : List K) : Reading K :=
  match v.getLast? with
  | none => .nan
  | some last =>
    if v.length = 1 then .num (1 / 2)
    else .num ((((v.countP (fun x => decide (x < last)) : ℕ) : K)
      + (((v.countP (fun x => decide (x = last)) : ℕ) : K) - 1) / 2) / (count v - 1))

/-- The first position of the greatest value, `np.argmax`. -/
def argmax (v : List K) : ℕ :=
  v.findIdx (fun x => v.all (fun y => decide (y ≤ x)))

def argmin (v : List K) : ℕ :=
  v.findIdx (fun x => v.all (fun y => decide (x ≤ y)))

/-- A position over `max(1, d - 1)`. -/
def relative (position : List K → ℕ) (v : List K) : Reading K :=
  .num ((position v : K) / ((Max.max 1 (v.length - 1) : ℕ) : K))

def greatest (v : List K) : Reading K :=
  match v with
  | [] => .nan
  | x :: l => .num (l.foldl Max.max x)

def least (v : List K) : Reading K :=
  match v with
  | [] => .nan
  | x :: l => .num (l.foldl Min.min x)

/-- The values weighted 1 to `d`. -/
def decayLinear (v : List K) : Reading K :=
  .num ((v.zipIdx.map (fun p => p.1 * ((p.2 : K) + 1))).sum
    / ((List.range v.length).map (fun k => (k : K) + 1)).sum)

/-- The slope of the values on their positions. -/
def slope (v : List K) : Reading K :=
  let centred := fun k : ℕ => (k : K) - (count v - 1) / 2
  let denominator := ((List.range v.length).map (fun k => centred k * centred k)).sum
  if 0 < denominator then .num ((v.zipIdx.map (fun p => centred p.2 * p.1)).sum / denominator)
  else .nan

/-- `np.median`. -/
def median (v : List K) : K :=
  let sorted := v.mergeSort (fun x y => decide (x ≤ y))
  (sorted.getD ((v.length - 1) / 2) 0 + sorted.getD (v.length / 2) 0) / 2

/-- The median deviation from the median. -/
def mad (v : List K) : Reading K :=
  .num (median (v.map (fun x => Max.max (x - median v) (median v - x))))

end Stats

/-! ## Series -/

/-- **A series**: a cell per bar. -/
abbrev Series (K : Type) (n : ℕ) := Fin n → Reading K

variable {n : ℕ}

/-- **`rolling(d, min_periods=d)`** of a statistic. -/
def rolling (f : List K → Reading K) (d : ℕ) (x : Series K n) : Series K n := fun i =>
  match (window x d i).bind (fun w => w.mapM Reading.number?) with
  | some v => f v
  | none => .nan

/-- Two numbers, where both are. -/
def numbers? (p : Reading K × Reading K) : Option (K × K) :=
  match p.1.number?, p.2.number? with
  | some a, some b => some (a, b)
  | _, _ => none

/-- A rolling statistic of two series, over the bars where both hold
numbers. -/
def rolling₂ (f : List (K × K) → Reading K) (d : ℕ) (x y : Series K n) : Series K n := fun i =>
  match (window (fun i => (x i, y i)) d i).bind (fun w => w.mapM numbers?) with
  | some v => f v
  | none => .nan

/-- **`shift`**: a negative shift looks ahead. -/
def shift (x : Series K n) (d : ℤ) : Series K n := fun i =>
  if d < 0 then
    if h : i.val + d.natAbs < n then x ⟨i + d.natAbs, h⟩ else .nan
  else (ago x i d.toNat).getD .nan

/-- The state of the exponential mean: the mean so far, the weight it has left
after the missing values since the last number, and how many numbers there
were. -/
structure EmaState (K : Type) where
  weighted : Option K
  oldWeight : K
  observed : ℕ

/-- One value of `ewm(adjust=False, ignore_na=False).mean()`. -/
def EmaState.next (alpha : K) (s : EmaState K) (x : Reading K) : EmaState K :=
  match s.weighted, x.number? with
  | some w, some v =>
    let old := s.oldWeight * (1 - alpha)
    ⟨some ((old * w + alpha * v) / (old + alpha)), 1, s.observed + 1⟩
  | some w, none => ⟨some w, s.oldWeight * (1 - alpha), s.observed⟩
  | none, some v => ⟨some v, s.oldWeight, s.observed + 1⟩
  | none, none => s

/-- The mean, after at least `d` numbers. -/
def EmaState.mean (d : ℕ) (s : EmaState K) : Reading K :=
  match s.weighted with
  | some w => if d ≤ s.observed then .num w else .nan
  | none => .nan

variable (fn : Elementary K) (x y : Series K n) (d : ℕ)

def tsRank : Series K n := rolling Stats.lastRank d x

def tsCorr : Series K n := fun i =>
  (rolling₂ (Stats.correlation fn) d x y i).clip (.num (-1)) (.num 1)

def tsStd : Series K n := rolling (Stats.std fn) d x

def tsMean : Series K n := rolling (fun v => .num (Stats.mean v)) d x

/-- **`ema`**: the exponential mean of span `d`, where the value is not
NaN. -/
def ema : Series K n := fun i =>
  if (x i).isNan then .nan
  else ((history x i).foldl (EmaState.next (2 / ((d : K) + 1))) ⟨none, 1, 0⟩).mean d

def tsMax : Series K n := rolling Stats.greatest d x

def tsMin : Series K n := rolling Stats.least d x

def tsArgmax : Series K n := rolling (Stats.relative Stats.argmax) d x

def tsArgmin : Series K n := rolling (Stats.relative Stats.argmin) d x

def delay (lag : ℤ) : Series K n := shift x lag

/-- `x.diff(d)`. -/
def delta (lag : ℤ) : Series K n := fun i => (x i).sub (shift x lag i)

def decayLinear : Series K n := rolling Stats.decayLinear d x

def zscore : Series K n := fun i =>
  (((x i).sub (tsMean x d i)).safeDiv (tsStd fn x d i)).clip (.num (-3)) (.num 3)

def roc (lag : ℤ) : Series K n := fun i => ((x i).safeDiv (shift x lag i)).sub 1

def tsSlope : Series K n := rolling Stats.slope d x

def tsResidual : Series K n := fun i =>
  ((x i).sub (tsMean x d i)).sub (((tsSlope x d i).mul (.num ((d : K) - 1))).div (.num 2))

def tsMad : Series K n := rolling Stats.mad d x

def tsSum : Series K n := rolling (fun v => .num v.sum) d x

/-- **`ts_beta`**, of the first series on the second. -/
def tsBeta : Series K n := fun i =>
  (rolling₂ Stats.covariance d x y i).div (rolling Stats.variance d y i).wherePositive

/-- **`ts_resid_std`**, of the first series on the second. -/
def tsResidStd : Series K n := fun i =>
  if d < 3 then .nan
  else
    let explained := ((rolling₂ Stats.covariance d x y i).pow 2).div
      (rolling Stats.variance d y i).wherePositive
    let residual := ((rolling Stats.variance d x i).sub explained).max 0
    ((residual.mul (.num ((d : K) - 1))).div (.num ((d : K) - 2))).safeSqrt fn

end AgenticTrader
