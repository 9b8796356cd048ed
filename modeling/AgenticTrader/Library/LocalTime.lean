import Mathlib

/-!
# Wall clocks

A time zone gives every instant the wall clock that shows then, and every wall
clock the instant it stands for – the first of two where a clock that was set
back shows it twice. Both are counted in microseconds, so that the date of a
wall clock is its quotient by a day and the time of day its remainder.

A zone moves its clocks at night. `SteadyFrom` says so: from some time of day
on, a date has one offset. A `Civil` zone is one where in addition the date never
goes back.
-/

/-- **A time zone.** -/
structure Zone where
  toLocal : ℤ → ℤ
  ofLocal : ℤ → ℤ

namespace Zone

/-- The microseconds of a day. -/
def day : ℤ := 86400000000

/-- The microseconds of an hour. -/
def hour : ℤ := 3600000000

/-- The microseconds of a minute. -/
def minute : ℤ := 60000000

theorem day_pos : 0 < day := by decide

/-- The wall clock that shows a time of day on a date. -/
def combine (date time : ℤ) : ℤ := date * day + time

theorem combine_div {date time : ℤ} (h0 : 0 ≤ time) (h1 : time < day) :
    combine date time / day = date := by
  unfold combine
  rw [Int.mul_comm, Int.mul_add_ediv_left _ _ (by decide), Int.ediv_eq_zero_of_lt h0 h1, add_zero]

theorem combine_emod {date time : ℤ} (h0 : 0 ≤ time) (h1 : time < day) :
    combine date time % day = time := by
  unfold combine
  rw [Int.add_comm, Int.add_mul_emod_self_right, Int.emod_eq_of_lt h0 h1]

theorem combine_mono {date time time' : ℤ} (h : time ≤ time') :
    combine date time ≤ combine date time' := by
  unfold combine
  exact Int.add_le_add_left h _

/-- An earlier date is earlier at any time of day. -/
theorem combine_lt {date date' time time' : ℤ} (h : date < date') (h1 : time < day)
    (h0 : 0 ≤ time') : combine date time < combine date' time' := by
  have hmul : (date + 1) * day ≤ date' * day := Int.mul_le_mul_of_nonneg_right h (by decide)
  rw [Int.add_mul] at hmul
  unfold combine
  omega

/-- The microseconds of a second. -/
def second : ℤ := 1000000

variable (zone : Zone)

/-- The date of an instant. -/
def date (t : ℤ) : ℤ := zone.toLocal t / day

/-- The hour of an instant, of twenty-four. -/
def hourOf (t : ℤ) : ℤ := zone.toLocal t % day / hour

/-- **The clocks are not moved during the day**: from a time of day on, every
date has one offset. -/
def SteadyFrom (start : ℤ) : Prop :=
  ∀ date, ∃ offset, ∀ time, start ≤ time → time < day →
    zone.ofLocal (combine date time) = combine date time - offset
      ∧ zone.toLocal (combine date time - offset) = combine date time

/-- **A civil zone**: its clocks are moved at night, and its date never goes
back. -/
structure Civil (start : ℤ) : Prop where
  steady : zone.SteadyFrom start
  forward : Monotone zone.date

variable {zone} {start date time time' : ℤ}

/-- The date of a clock is the one it was set with. -/
theorem SteadyFrom.date_ofLocal (h : zone.SteadyFrom start) (hstart : 0 ≤ start)
    (hle : start ≤ time) (hlt : time < day) :
    zone.date (zone.ofLocal (combine date time)) = date := by
  obtain ⟨offset, hoffset⟩ := h date
  obtain ⟨hof, hto⟩ := hoffset time hle hlt
  rw [Zone.date, hof, hto, combine_div (hstart.trans hle) hlt]

/-- An earlier clock of a date is an earlier instant. -/
theorem SteadyFrom.ofLocal_lt (h : zone.SteadyFrom start) (hle : start ≤ time)
    (hlt : time < time') (hlt' : time' < day) :
    zone.ofLocal (combine date time) < zone.ofLocal (combine date time') := by
  obtain ⟨offset, hoffset⟩ := h date
  rw [(hoffset time hle (hlt.trans hlt')).1, (hoffset time' (hle.trans hlt.le) hlt').1]
  unfold combine
  omega

/-! ### Clocks that are set back -/

variable (zone)

/-- **The clock is set back across a reading**: at some instant it shows that reading or
a later one, and a moment later it shows an earlier one. -/
def SetBackAcross (reading : ℤ) : Prop :=
  ∃ t, reading ≤ zone.toLocal t ∧ zone.toLocal (t + 1) < reading

/-- **The offsets of a zone are whole seconds**, and it changes them at whole seconds. -/
def WholeSeconds : Prop :=
  ∀ t, ∃ k, zone.toLocal (t - t % second) = k * second ∧ zone.toLocal t = k * second + t % second

/-- **The clock shows a reading once**, and from then on that reading or a later one. -/
def Keeps (reading : ℤ) : Prop :=
  zone.toLocal (zone.ofLocal reading) = reading
    ∧ ∀ t, reading ≤ zone.toLocal t ↔ zone.ofLocal reading ≤ t

variable {zone}

theorem Keeps.lt_ofLocal {reading t : ℤ} (h : zone.Keeps reading) :
    t < zone.ofLocal reading ↔ zone.toLocal t < reading := by
  rw [← not_le, ← not_le, h.2 t]

/-- The wall clock is its date and its time of day. -/
theorem combine_date (zone : Zone) (t : ℤ) :
    combine (zone.date t) (zone.toLocal t % day) = zone.toLocal t := by
  unfold combine date
  rw [Int.mul_comm]
  exact Int.mul_ediv_add_emod _ _

/-- A reading the clock was never set back across stays behind. -/
theorem reading_le_of_le {reading t t' : ℤ} (h : ¬ zone.SetBackAcross reading)
    (hreading : reading ≤ zone.toLocal t) (hle : t ≤ t') : reading ≤ zone.toLocal t' := by
  induction t', hle using Int.leInduction with
  | base => exact hreading
  | succ t' _ ih =>
    by_contra hback
    exact h ⟨t', ih, not_le.mp hback⟩

/-- The microseconds of an instant do not decide its date. -/
theorem WholeSeconds.date_eq (h : zone.WholeSeconds) (t : ℤ) :
    zone.date (t - t % second) = zone.date t := by
  obtain ⟨k, hwhole, hlocal⟩ := h t
  have hlow : 0 ≤ t % second := Int.emod_nonneg t (by decide)
  have hhigh : t % second < second := Int.emod_lt_of_pos t (by decide)
  have hday : day = 86400 * second := by decide
  unfold date
  rw [hwhole, hlocal, hday]
  unfold second at *
  omega

end Zone

/-- **A time of day**, in microseconds since midnight. -/
structure TimeOfDay where
  micros : ℤ
  nonneg : 0 ≤ micros
  lt_day : micros < Zone.day
  deriving DecidableEq
