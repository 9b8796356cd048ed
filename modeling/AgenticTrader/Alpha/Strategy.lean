import AgenticTrader.Durable
import Mathlib.Algebra.Order.Field.Rat
import Mathlib.Tactic.Linarith

/-!
# The execution policy of an alpha

What the desk and the simulator share of `research/alpha/strategy.py`: the
validated policy and `trailing_price`, the one ratchet of a stop. It proposes a
stop at least one initial risk behind the price, and takes it only when it
tightens.
-/

namespace AgenticTrader

/-- **`AlphaExecutionPolicy`**, as far as an execution reads it; the two lifetimes
are those of a `TimedAlphaExecutionPolicy`. -/
structure AlphaExecutionPolicy where
  frictionPerSide : ℚ
  trailTriggerR : ℚ
  trailDistanceR : ℚ
  restingSeconds : Option ℕ
  holdingSeconds : Option ℕ
  friction_nonneg : 0 ≤ frictionPerSide
  friction_lt : frictionPerSide < 1 / 10
  trigger_pos : 0 < trailTriggerR
  distance_pos : 0 < trailDistanceR

/-- **A deserialised policy**: an alpha's, or a catalog bracket that is never
trailed. -/
inductive ExecutionPolicy where
  | alpha (policy : AlphaExecutionPolicy)
  | apriori

/-- **`trailing_price`.** -/
def trailingPrice (entry current stop initialRisk : ℚ) (direction : Direction)
    (policy : ExecutionPolicy) : ℚ :=
  match policy with
  | .apriori => stop
  | .alpha policy =>
    if direction.sign * (current - entry) < policy.trailTriggerR * initialRisk then stop
    else
      let proposed := current
        - direction.sign * max initialRisk (policy.trailDistanceR * initialRisk)
      if direction = .long then max stop proposed else min stop proposed

/-- A stop on the losing side of a price, and one that is tighter than another. -/
def Behind (direction : Direction) (stop price : ℚ) : Prop := 0 < direction.sign * (price - stop)

def Tighter (direction : Direction) (stop old : ℚ) : Prop := 0 < direction.sign * (stop - old)

instance (direction : Direction) (stop price : ℚ) : Decidable (Behind direction stop price) :=
  inferInstanceAs (Decidable (_ < _))

instance (direction : Direction) (stop old : ℚ) : Decidable (Tighter direction stop old) :=
  inferInstanceAs (Decidable (_ < _))

@[simp] theorem Direction.sign_mul_self (direction : Direction) :
    direction.sign * direction.sign = 1 := by
  cases direction <;> simp [sign]

theorem Direction.sign_ne_zero (direction : Direction) : direction.sign ≠ 0 := by
  cases direction <;> simp [sign]

/-- A stop that far behind a price is behind it. -/
theorem behind_of_distance (direction : Direction) {distance : ℚ} (h : 0 < distance)
    (current : ℚ) : Behind direction (current - direction.sign * distance) current := by
  unfold Behind
  rw [sub_sub_cancel, ← mul_assoc, Direction.sign_mul_self, one_mul]
  exact h

/-- **The ratchet**: it leaves the stop, or moves it to a tighter one behind the
price. -/
theorem trailingPrice_sound (entry current stop : ℚ) {initialRisk : ℚ} (direction : Direction)
    (policy : ExecutionPolicy) (hrisk : 0 < initialRisk) :
    trailingPrice entry current stop initialRisk direction policy = stop
      ∨ (Tighter direction (trailingPrice entry current stop initialRisk direction policy) stop
        ∧ Behind direction (trailingPrice entry current stop initialRisk direction policy)
          current) := by
  cases policy with
  | apriori => exact .inl rfl
  | alpha policy =>
    have hbehind := behind_of_distance direction
      (lt_of_lt_of_le hrisk (le_max_left initialRisk (policy.trailDistanceR * initialRisk))) current
    unfold trailingPrice
    dsimp only
    split
    · exact .inl rfl
    · cases direction with
      | long =>
        rw [if_pos rfl]
        rcases le_or_gt (current - Direction.long.sign
          * max initialRisk (policy.trailDistanceR * initialRisk)) stop with hle | hgt
        · exact .inl (max_eq_left hle)
        · rw [max_eq_right hgt.le]
          refine .inr ⟨?_, hbehind⟩
          unfold Tighter
          rw [Direction.sign, if_pos rfl, one_mul, sub_pos]
          exact hgt
      | short =>
        rw [if_neg (by decide)]
        rcases le_or_gt stop (current - Direction.short.sign
          * max initialRisk (policy.trailDistanceR * initialRisk)) with hle | hgt
        · exact .inl (min_eq_left hle)
        · rw [min_eq_right hgt.le]
          refine .inr ⟨?_, hbehind⟩
          have hsign : Direction.short.sign = -1 := rfl
          unfold Tighter
          rw [hsign] at hgt ⊢
          linarith

end AgenticTrader
