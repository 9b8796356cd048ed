import Mathlib.Tactic.Ring

/-!
# The Gregorian calendar

A date is the number of its day, counted from 1970-01-01. The calendar is extended to all
years in both directions, so that a year, a month and a day always name a date (`ofYmd`), and
every date has a year (`yearOf`), the one whose first day is the last not after it
(`yearOf_eq_iff`).
-/

namespace Gregorian

/-- Monday is `0`. -/
def weekday (date : ℤ) : ℤ := (date + 3) % 7

def isLeap (year : ℤ) : Bool := year % 4 = 0 && (year % 100 ≠ 0 || year % 400 = 0)

/-- The day that a leap year has more. -/
def leapDay (year : ℤ) : ℤ := if isLeap year then 1 else 0

/-- The days of the years before a year, from year one on. -/
def daysBeforeYear (year : ℤ) : ℤ :=
  (year - 1) * 365 + (year - 1) / 4 - (year - 1) / 100 + (year - 1) / 400

/-- The days of the months before a month. -/
def daysBeforeMonth (year month : ℤ) : ℤ :=
  [0, 31, 59, 90, 120, 151, 181, 212, 243, 273, 304, 334].getD (month - 1).toNat 0
    + if 2 < month then leapDay year else 0

/-- **The date of a day of a month.** -/
def ofYmd (year month day : ℤ) : ℤ :=
  daysBeforeYear year + daysBeforeMonth year month + day - 719163

/-- **The year of a date**, by the cycles of 400, 100 and 4 years. The last day of a cycle
comes out as the first of a year too many. -/
def yearOf (date : ℤ) : ℤ :=
  let n := date + 719163 - 1
  let n400 := n / 146097
  let n100 := n % 146097 / 36524
  let n4 := n % 146097 % 36524 / 1461
  let n1 := n % 146097 % 36524 % 1461 / 365
  let year := n400 * 400 + 1 + n100 * 100 + n4 * 4 + n1
  if n1 = 4 ∨ n100 = 4 then year - 1 else year

/-! ## Years -/

theorem isLeap_iff (year : ℤ) :
    isLeap year = true ↔ year % 4 = 0 ∧ (year % 100 ≠ 0 ∨ year % 400 = 0) := by
  unfold isLeap
  rw [Bool.and_eq_true, Bool.or_eq_true, decide_eq_true_eq, decide_eq_true_eq, decide_eq_true_eq]

theorem leapDay_mem (year : ℤ) : leapDay year = 0 ∨ leapDay year = 1 := by
  unfold leapDay
  split_ifs
  · exact .inr rfl
  · exact .inl rfl

theorem daysBeforeYear_succ (year : ℤ) :
    daysBeforeYear (year + 1) = daysBeforeYear year + 365 + leapDay year := by
  have hleap := isLeap_iff year
  unfold daysBeforeYear leapDay
  split_ifs with h
  · have hdiv := hleap.mp h
    omega
  · have hdiv := mt hleap.mpr h
    omega

theorem daysBeforeYear_mono {year year' : ℤ} (h : year ≤ year') :
    daysBeforeYear year ≤ daysBeforeYear year' := by
  unfold daysBeforeYear
  omega

section Cycles

variable {a b c e : ℤ}

/-- The days before a year, by its place in the cycles. -/
theorem daysBeforeYear_cycles (hb : 0 ≤ b ∧ b ≤ 3) (hc : 0 ≤ c ∧ c ≤ 24) (he : 0 ≤ e ∧ e ≤ 3) :
    daysBeforeYear (a * 400 + b * 100 + c * 4 + e + 1)
      = a * 146097 + b * 36524 + c * 1461 + e * 365 := by
  have h4 : (a * 400 + b * 100 + c * 4 + e) / 4 = a * 100 + b * 25 + c := by omega
  have h100 : (a * 400 + b * 100 + c * 4 + e) / 100 = a * 4 + b := by omega
  have h400 : (a * 400 + b * 100 + c * 4 + e) / 400 = a := by omega
  unfold daysBeforeYear
  rw [add_sub_cancel_right, h4, h100, h400]
  ring

theorem leapDay_cycles (hb : 0 ≤ b ∧ b ≤ 3) (hc : 0 ≤ c ∧ c ≤ 24) (he : 0 ≤ e ∧ e ≤ 3) :
    leapDay (a * 400 + b * 100 + c * 4 + e + 1)
      = if e = 3 ∧ (c = 24 → b = 3) then 1 else 0 := by
  unfold leapDay
  refine if_congr ?_ rfl rfl
  rw [isLeap_iff]
  omega

end Cycles

/-- **A date lies in its year.** -/
theorem yearOf_spec (date : ℤ) :
    daysBeforeYear (yearOf date) < date + 719163
      ∧ date + 719163 ≤ daysBeforeYear (yearOf date) + 365 + leapDay (yearOf date) := by
  obtain ⟨n, hn⟩ : ∃ n, date + 719163 - 1 = n := ⟨_, rfl⟩
  have hyear : ∃ a b c e r : ℤ, (0 ≤ b ∧ b ≤ 3) ∧ (0 ≤ c ∧ c ≤ 24) ∧ (0 ≤ e ∧ e ≤ 3)
      ∧ yearOf date = a * 400 + b * 100 + c * 4 + e + 1
      ∧ n = a * 146097 + b * 36524 + c * 1461 + e * 365 + r ∧ 0 ≤ r
      ∧ (r ≤ 364 ∨ r = 365 ∧ e = 3 ∧ (c = 24 → b = 3)) := by
    unfold yearOf
    rw [hn]
    dsimp only
    have ha := Int.emod_add_mul_ediv n 146097
    have hr := Int.emod_lt_of_pos n (show (0 : ℤ) < 146097 by decide)
    have hr0 := Int.emod_nonneg n (show (146097 : ℤ) ≠ 0 by decide)
    generalize n / 146097 = a at *
    generalize n % 146097 = n₁ at *
    split_ifs with h
    · -- the last day of a leap year
      rcases h with h | h
      · refine ⟨a, n₁ / 36524, n₁ % 36524 / 1461, 3, 365, ?_⟩
        omega
      · refine ⟨a, 3, 24, 3, 365, ?_⟩
        omega
    · refine ⟨a, n₁ / 36524, n₁ % 36524 / 1461, n₁ % 36524 % 1461 / 365,
        n₁ % 36524 % 1461 % 365, ?_⟩
      omega
  obtain ⟨a, b, c, e, r, hb, hc, he, hyear, hn', hr⟩ := hyear
  rw [hyear, daysBeforeYear_cycles hb hc he, leapDay_cycles hb hc he]
  split_ifs <;> omega

/-- **The year of a date** is the one it lies in. -/
theorem yearOf_eq_iff {date year : ℤ} :
    yearOf date = year ↔ daysBeforeYear year < date + 719163
      ∧ date + 719163 ≤ daysBeforeYear year + 365 + leapDay year := by
  constructor
  · rintro rfl
    exact yearOf_spec date
  · rintro ⟨hlow, hhigh⟩
    obtain ⟨hlow', hhigh'⟩ := yearOf_spec date
    rw [← daysBeforeYear_succ] at hhigh hhigh'
    by_contra hne
    rcases lt_or_gt_of_ne hne with hlt | hlt
    · have hmono := daysBeforeYear_mono (Int.add_one_le_of_lt hlt)
      omega
    · have hmono := daysBeforeYear_mono (Int.add_one_le_of_lt hlt)
      omega

/-! ## Days of the week -/

theorem weekday_mem (date : ℤ) : 0 ≤ weekday date ∧ weekday date < 7 := by
  unfold weekday
  omega

theorem weekday_add (date n : ℤ) : weekday (date + n) = (weekday date + n) % 7 := by
  unfold weekday
  omega

/-- The days from a date to the next one with a weekday. -/
theorem weekday_add_until (date day : ℤ) (h : 0 ≤ day ∧ day < 7) :
    weekday (date + (day - weekday date) % 7) = day := by
  unfold weekday
  omega

end Gregorian
