import Mathlib.Algebra.Order.Field.Basic

/-!
# Numbers that may not be finite

A number that comes from outside may be infinite, or no number at all. `Extended K` adds the
two infinities and the not-a-number to a field, with the comparison that a not-a-number
fails on either side, and what is computed of such a number where it was not asked to be
finite: a distance, a quotient by something above zero, a rounding.
-/

/-- **A number**, an infinity, or not a number. -/
inductive Extended (K : Type) where
  | finite (value : K)
  | infinity (negative : Bool)
  | nan
  deriving DecidableEq

namespace Extended

variable {K : Type}

/-- `f(x)`, of a function that leaves what is not finite. -/
def map (f : K → K) : Extended K → Extended K
  | finite x => finite (f x)
  | infinity negative => infinity negative
  | nan => nan

/-- `isfinite(x)`. -/
def isFinite : Extended K → Bool
  | finite _ => true
  | _ => false

/-- The number, where it is finite. -/
def getD (x : Extended K) (default : K) : K :=
  match x with
  | finite x => x
  | _ => default

theorem eq_finite_getD {x : Extended K} (hx : x.isFinite = true) (default : K) :
    x = finite (x.getD default) := by
  cases x with
  | finite value => rfl
  | infinity negative => cases hx
  | nan => cases hx

variable [Field K] [LinearOrder K]

/-- `abs(x - y)`. -/
def distance (x : K) : Extended K → Extended K
  | finite y => finite |x - y|
  | infinity _ => infinity false
  | nan => nan

/-- `x < y`. -/
def lt : Extended K → Extended K → Bool
  | finite x, finite y => decide (x < y)
  | finite _, infinity negative => !negative
  | infinity negative, finite _ => negative
  | infinity negative, infinity negative' => negative && !negative'
  | _, _ => false

/-- `x / y`, where `y` is above zero. -/
def div : Extended K → Extended K → Extended K
  | finite x, finite y => finite (x / y)
  | finite _, infinity _ => finite 0
  | infinity negative, finite _ => infinity negative
  | _, _ => nan

/-- A number above zero. -/
def pos (x : Extended K) : Bool := lt (finite 0) x

end Extended
