import Mathlib.Algebra.Order.Ring.Rat
import Mathlib.Data.Rat.Defs
import Mathlib.Order.Basic
import Mathlib.Tactic.Linarith

/-!
# Numbers and times as they travel on the wire

A broker sends its quantities as decimal strings and its times as
timestamps, and a store that keeps them as they came compares them only
when it has to. The comparison is where it can fail: a string may not be a
number, a number may be a NaN, and a timestamp with a zone does not compare
with one without. `WireDecimal` and `WireTime` are the two values, with a
comparison that returns `none` exactly where the comparison of the source
raises.

`WireDecimal.ofString?` is the constructor of an arbitrary-precision
decimal: surrounding blanks are stripped and underscores dropped, then an
optional sign is followed by digits with an optional fraction and exponent,
by `Inf`/`Infinity`, or by `NaN`/`sNaN` with an optional payload, in any
case. Digits are the ASCII ones.
-/

/-- **A decimal**: a finite number, an infinity, or a quiet or signaling
not-a-number. -/
inductive WireDecimal where
  | finite (value : ℚ)
  | infinity (negative : Bool)
  | nan (signaling : Bool)
  deriving DecidableEq

namespace WireDecimal

/-- The value of a run of decimal digits. -/
def digitsValue (ds : List Char) : ℕ :=
  ds.foldl (fun n c => 10 * n + (c.toNat - '0'.toNat)) 0

/-- `[-+]?` in front of the rest. -/
def splitSign : List Char → Bool × List Char
  | '-' :: cs => (true, cs)
  | '+' :: cs => (false, cs)
  | cs => (false, cs)

/-- The exponent after an `e`: a sign and at least one digit, and nothing
else. -/
def exponentValue? (cs : List Char) : Option ℤ :=
  let (negative, ds) := splitSign cs
  if ds ≠ [] ∧ ds.all Char.isDigit then
    some (if negative then -(digitsValue ds : ℤ) else digitsValue ds)
  else none

/-- The unsigned number: digits, an optional point with digits, an optional
exponent, and at least one digit before or after the point. -/
def numberValue? (cs : List Char) : Option ℚ :=
  let int := cs.takeWhile Char.isDigit
  let rest := cs.dropWhile Char.isDigit
  let (frac, rest) := match rest with
    | '.' :: r => (r.takeWhile Char.isDigit, r.dropWhile Char.isDigit)
    | r => ([], r)
  if int = [] ∧ frac = [] then none
  else
    let mantissa : ℚ := digitsValue (int ++ frac)
    let scale : ℤ := -(frac.length : ℤ)
    match rest with
    | [] => some (mantissa * (10 : ℚ) ^ scale)
    | 'e' :: r => (exponentValue? r).map (fun e => mantissa * (10 : ℚ) ^ (scale + e))
    | _ => none

/-- The text without blanks at either end. -/
def strip (cs : List Char) : List Char :=
  ((cs.dropWhile Char.isWhitespace).reverse.dropWhile Char.isWhitespace).reverse

/-- **`Decimal(text)`**, or `none` where the constructor raises. -/
def ofString? (text : String) : Option WireDecimal :=
  let cs := ((strip text.toList).filter (· ≠ '_')).map Char.toLower
  let (negative, body) := splitSign cs
  if body = "inf".toList ∨ body = "infinity".toList then some (.infinity negative)
  else if body.take 3 = "nan".toList ∧ (body.drop 3).all Char.isDigit then
    some (.nan false)
  else if body.take 4 = "snan".toList ∧ (body.drop 4).all Char.isDigit then
    some (.nan true)
  else (numberValue? body).map (fun q => .finite (if negative then -q else q))

/-- **`a < b`**; a comparison with a NaN raises. -/
def lt? : WireDecimal → WireDecimal → Option Bool
  | .nan _, _ => none
  | _, .nan _ => none
  | .finite a, .finite b => some (a < b)
  | .finite _, .infinity n => some (!n)
  | .infinity n, .finite _ => some n
  | .infinity n, .infinity m => some (n && !m)

/-- **`a == b`**; a quiet NaN equals nothing, a signaling one raises. -/
def eq? : WireDecimal → WireDecimal → Option Bool
  | .nan true, _ => none
  | _, .nan true => none
  | .nan false, _ => some false
  | _, .nan false => some false
  | .finite a, .finite b => some (a = b)
  | .infinity n, .infinity m => some (n = m)
  | _, _ => some false

/-- A number that is not smaller than a second, which is not smaller than a
third, is not smaller than the third: where two comparisons in a row say
no, the comparison of the ends is defined and says no. -/
theorem lt?_false_trans {a b c : WireDecimal} (hab : a.lt? b = some false)
    (hbc : b.lt? c = some false) : a.lt? c = some false := by
  cases a <;> cases b <;> cases c <;> simp_all [lt?]
  grind

/-- Strictly below one bound is strictly below every bound that is not
smaller. -/
theorem lt?_true_of_lt_of_not_lt {a b c : WireDecimal} (hab : a.lt? b = some true)
    (hcb : c.lt? b = some false) : a.lt? c = some true := by
  cases a <;> cases b <;> cases c <;> simp_all [lt?]
  grind

end WireDecimal

/-- **A timestamp**, in microseconds, with a zone or without one. -/
inductive WireTime where
  | aware (instant : ℤ)
  | naive (wall : ℤ)
  deriving DecidableEq

namespace WireTime

/-- **`a < b`**; an aware and a naive timestamp do not compare. -/
def lt? : WireTime → WireTime → Option Bool
  | .aware a, .aware b => some (a < b)
  | .naive a, .naive b => some (a < b)
  | _, _ => none

theorem lt?_false_trans {a b c : WireTime} (hab : a.lt? b = some false)
    (hbc : b.lt? c = some false) : a.lt? c = some false := by
  cases a <;> cases b <;> cases c <;> simp_all [lt?] <;> omega

theorem lt?_true_of_lt_of_not_lt {a b c : WireTime} (hab : a.lt? b = some true)
    (hcb : c.lt? b = some false) : a.lt? c = some true := by
  cases a <;> cases b <;> cases c <;> simp_all [lt?] <;> omega

theorem lt?_self (a : WireTime) : a.lt? a = some false := by
  cases a <;> simp [lt?]

theorem lt?_asymm {a b : WireTime} (h : a.lt? b = some true) : b.lt? a = some false := by
  cases a <;> cases b <;> simp_all [lt?] <;> omega

theorem lt?_trans {a b c : WireTime} (hab : a.lt? b = some true)
    (hbc : b.lt? c = some true) : a.lt? c = some true :=
  lt?_true_of_lt_of_not_lt hab (lt?_asymm hbc)

end WireTime
