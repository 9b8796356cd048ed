import AgenticTrader.Market.FuturesSession

/-!
# When the futures reopen

The rules of a futures session name the reopening of a closure each for itself. Two of them,
for the weekend and Good Friday, look for the Sunday; the daily halt always ends on a day
before the weekend. The others say 18:00 of the same day or of the next one. On a Friday that
is in the weekend, and the evening of July 3 is followed by the open morning of July 4
(`Misnamed`).
-/

namespace AgenticTrader

open Gregorian MarketHolidayCalendar

/-! ## The days of a calendar -/

/-- Seven steps find the weekday. -/
theorem weekday_seekWeekday {day : ℤ} (hday : 0 ≤ day ∧ day < 7) {fuel : ℕ} {d : ℤ}
    (h : (day - weekday d) % 7 < fuel) : weekday (seekWeekday day 1 fuel d) = day := by
  induction fuel generalizing d with
  | zero =>
    have hnonneg := Int.emod_nonneg (day - weekday d) (show (7 : ℤ) ≠ 0 by decide)
    omega
  | succ fuel ih =>
    unfold seekWeekday
    split_ifs with hother
    · refine ih ?_
      have hmem := weekday_mem d
      rw [weekday_add]
      omega
    · exact not_not.mp hother

theorem weekday_nthWeekday (year month n : ℤ) {day : ℤ} (hday : 0 ≤ day ∧ day < 7) :
    weekday (nthWeekday year month day n) = day := by
  have hfirst : weekday (seekWeekday day 1 7 (ofYmd year month 1)) = day :=
    weekday_seekWeekday hday (Int.emod_lt_of_pos _ (by decide))
  unfold nthWeekday
  rw [weekday_add, hfirst]
  omega

theorem daysBeforeMonth_three (year : ℤ) : daysBeforeMonth year 3 = 59 + leapDay year := rfl

theorem daysBeforeMonth_four (year : ℤ) : daysBeforeMonth year 4 = 90 + leapDay year := rfl

/-- The month and the day of Easter in one number. -/
theorem ofYmd_easter {year n : ℤ} (h : 114 ≤ n ∧ n ≤ 153) :
    ofYmd year (n / 31) (n % 31 + 1) = daysBeforeYear year + leapDay year + n - 33 - 719163 := by
  rcases (by omega : n / 31 = 3 ∨ n / 31 = 4) with hmonth | hmonth
  · have hday : n % 31 = n - 93 := by omega
    rw [hmonth, hday, ofYmd, daysBeforeMonth_three]
    ring
  · have hday : n % 31 = n - 124 := by omega
    rw [hmonth, hday, ofYmd, daysBeforeMonth_four]
    ring

theorem daysBeforeYear_add_leapDay (year : ℤ) :
    daysBeforeYear year + leapDay year = year * 365 + year / 4 - year / 100 + year / 400 - 365 := by
  have h := daysBeforeYear_succ year
  have hnext : daysBeforeYear (year + 1) = year * 365 + year / 4 - year / 100 + year / 400 := by
    unfold daysBeforeYear
    rw [add_sub_cancel_right]
  omega

/-- **Easter is a Sunday**, in every year. -/
theorem weekday_computeEaster (year : ℤ) : weekday (computeEaster year) = 6 := by
  unfold computeEaster
  dsimp only
  obtain ⟨b, hb⟩ : ∃ b, year / 100 = b := ⟨_, rfl⟩
  obtain ⟨c, hc⟩ : ∃ c, year % 100 = c := ⟨_, rfl⟩
  have hsum := daysBeforeYear_add_leapDay year
  have h4 : year / 4 = 25 * b + c / 4 := by omega
  have h400 : year / 400 = b / 4 := by omega
  rw [h4, hb, h400] at hsum
  have hyear : year = 100 * b + c := by omega
  have hc0 : 0 ≤ c ∧ c < 100 := by omega
  rw [hb, hc]
  -- the terms of the algorithm, by their ranges alone
  obtain ⟨h, hh⟩ : ∃ h,
      (19 * (year % 19) + b - b / 4 - (b - (b + 8) / 25 + 1) / 3 + 15) % 30 = h := ⟨_, rfl⟩
  have hh0 : 0 ≤ h ∧ h < 30 := by omega
  rw [hh]
  obtain ⟨l, hl⟩ : ∃ l, (32 + 2 * (b % 4) + 2 * (c / 4) - h - c % 4) % 7 = l := ⟨_, rfl⟩
  have hl0 : 0 ≤ l ∧ l < 7 := by omega
  rw [hl]
  obtain ⟨m, hm⟩ : ∃ m, (year % 19 + 11 * h + 22 * l) / 451 = m := ⟨_, rfl⟩
  rw [hm]
  have hn : 114 ≤ h + l - 7 * m + 114 ∧ h + l - 7 * m + 114 ≤ 149 := by omega
  rw [ofYmd_easter ⟨hn.1, by omega⟩]
  clear hh hm hn
  have hb4 : b = 4 * (b / 4) + b % 4 := by omega
  have hc4 : c = 4 * (c / 4) + c % 4 := by omega
  generalize b / 4 = d at *
  generalize b % 4 = e at *
  generalize c / 4 = i at *
  generalize c % 4 = k at *
  unfold weekday
  omega

/-! ## Closing days -/

/-- A full holiday of the futures. -/
def FullHalt (d : ℤ) : Prop := d ∈ (calendarOf d).cmeFullHaltDays

def GoodFriday (d : ℤ) : Prop := d = (calendarOf d).goodFriday

/-- A day on which the stocks close early. -/
def EarlyClose (d : ℤ) : Prop := (equityEarlyClose d).isSome = true

/-- A weekday on which the stocks do not trade. -/
def WeekdayHoliday (d : ℤ) : Prop := weekday d < 5 ∧ (equityHoliday d).isSome = true

/-- July 3. -/
def JulyThird (d : ℤ) : Prop := d = ofYmd (yearOf d) 7 3

theorem weekday_of_goodFriday {d : ℤ} (h : GoodFriday d) : weekday d = 4 := by
  have heaster := weekday_computeEaster (yearOf d)
  have hfriday : d = computeEaster (yearOf d) - 2 := h
  rw [hfriday]
  unfold weekday at heaster ⊢
  omega

/-! Dates of a year, from its first day. -/

theorem ofYmd_january (year day : ℤ) : ofYmd year 1 day = daysBeforeYear year + day - 719163 := by
  have hmonth : daysBeforeMonth year 1 = 0 := rfl
  rw [ofYmd, hmonth, add_zero]

theorem ofYmd_july (year day : ℤ) :
    ofYmd year 7 day = daysBeforeYear year + (181 + leapDay year) + day - 719163 := rfl

theorem ofYmd_december (year day : ℤ) :
    ofYmd year 12 day = daysBeforeYear year + (334 + leapDay year) + day - 719163 := rfl

/-- **The early closes of a year.** -/
theorem earlyClose_cases {d : ℤ} (h : EarlyClose d) :
    weekday d = 4
      ∨ d = ofYmd (yearOf d) 12 24 ∧ weekday d < 5
      ∨ JulyThird d ∧ (weekday d = 2 ∨ weekday d = 3) := by
  obtain ⟨name, hname⟩ := Option.isSome_iff_exists.mp h
  obtain ⟨before, after, hsplit, -⟩ := List.lookup_eq_some_iff.mp hname
  have hname : (d, name) ∈ (calendarOf d).earlyCloses.reverse := by
    rw [hsplit]
    exact List.mem_append_right _ List.mem_cons_self
  have hname := List.mem_reverse.mp hname
  unfold calendarOf getYearCalendar at hname
  rcases List.mem_append.mp hname with hname | hname
  · rcases List.mem_append.mp hname with hname | hname
    · refine .inl ?_
      have hday := congrArg Prod.fst (List.mem_singleton.mp hname)
      have hthursday : weekday (nthWeekday (yearOf d) 11 3 4) = 3 :=
        weekday_nthWeekday (yearOf d) 11 4 ⟨by decide, by decide⟩
      dsimp only at hday
      rw [hday, weekday_add, hthursday]
      rfl
    · refine .inr (.inl ?_)
      split_ifs at hname with hweekday
      · have hday := congrArg Prod.fst (List.mem_singleton.mp hname)
        dsimp only at hday
        exact ⟨hday, hday ▸ hweekday⟩
      · cases hname
  · refine .inr (.inr ?_)
    split_ifs at hname with hweekday
    · have hday : d = ofYmd (yearOf d) 7 3 := congrArg Prod.fst (List.mem_singleton.mp hname)
      have hnext : ofYmd (yearOf d) 7 4 = d + 1 := by
        rw [ofYmd_july] at hday ⊢
        omega
      refine ⟨hday, ?_⟩
      rw [hnext, List.mem_cons, List.mem_singleton, weekday_add] at hweekday
      have hmem := weekday_mem d
      omega
    · cases hname

theorem observeHoliday_mem (d : ℤ) :
    observeHoliday d = d ∨ observeHoliday d = d - 1 ∧ weekday d = 5 ∨ observeHoliday d = d + 1 := by
  unfold observeHoliday
  split_ifs with h
  · exact .inr (.inl ⟨rfl, h⟩)
  · exact .inr (.inr rfl)
  · exact .inl rfl

/-- **The full holidays of a year**: around New Year and around Christmas, where December 24 is
one only as the Friday before a Saturday. -/
theorem fullHalt_cases {d : ℤ} (h : FullHalt d) :
    d ≤ ofYmd (yearOf d) 1 2 ∨ d = ofYmd (yearOf d) 12 24 ∧ weekday d = 4
      ∨ ofYmd (yearOf d) 12 25 ≤ d := by
  have hdays : d ∈ [ofYmd (yearOf d) 1 1, observeHoliday (ofYmd (yearOf d) 1 1),
    ofYmd (yearOf d) 12 25, observeHoliday (ofYmd (yearOf d) 12 25)] := h
  simp only [List.mem_cons, List.not_mem_nil, or_false] at hdays
  have hnewYear := observeHoliday_mem (ofYmd (yearOf d) 1 1)
  have hchristmas := observeHoliday_mem (ofYmd (yearOf d) 12 25)
  rw [ofYmd_january] at hdays hnewYear ⊢
  rw [ofYmd_december] at hdays hchristmas ⊢
  rw [ofYmd_december]
  unfold weekday at *
  omega

/-- A full holiday that is also an early close is a Friday. -/
theorem weekday_of_fullHalt_of_earlyClose {d : ℤ} (hfull : FullHalt d) (hearly : EarlyClose d) :
    weekday d = 4 := by
  have hleap := leapDay_mem (yearOf d)
  rcases earlyClose_cases hearly with hfriday | ⟨heve, -⟩ | ⟨hjuly, -⟩
  · exact hfriday
  · rcases fullHalt_cases hfull with hlow | ⟨-, hfriday⟩ | hhigh
    · rw [ofYmd_december] at heve
      rw [ofYmd_january] at hlow
      omega
    · exact hfriday
    · rw [ofYmd_december] at heve hhigh
      omega
  · unfold JulyThird at hjuly
    rw [ofYmd_july] at hjuly
    rcases fullHalt_cases hfull with hlow | ⟨-, hfriday⟩ | hhigh
    · rw [ofYmd_january] at hlow
      omega
    · exact hfriday
    · rw [ofYmd_december] at hhigh
      omega

/-- The day after Christmas Eve is a full holiday. -/
theorem fullHalt_christmas {d : ℤ} (h : d = ofYmd (yearOf d) 12 24) : FullHalt (d + 1) := by
  have hleap := leapDay_mem (yearOf d)
  have hyear : yearOf (d + 1) = yearOf d := by
    rw [ofYmd_december] at h
    exact yearOf_eq_iff.mpr ⟨by omega, by omega⟩
  have hchristmas : d + 1 = ofYmd (yearOf d) 12 25 := by
    rw [ofYmd_december] at h ⊢
    omega
  show d + 1 ∈ (getYearCalendar (yearOf (d + 1))).cmeFullHaltDays
  rw [hyear, hchristmas]
  exact List.mem_cons_of_mem _ (List.mem_cons_of_mem _ List.mem_cons_self)

/-- July 4 is not one. -/
theorem not_fullHalt_julyFourth {d : ℤ} (h : JulyThird d) : ¬ FullHalt (d + 1) := by
  intro hfull
  have hleap := leapDay_mem (yearOf d)
  unfold JulyThird at h
  rw [ofYmd_july] at h
  have hyear : yearOf (d + 1) = yearOf d := yearOf_eq_iff.mpr ⟨by omega, by omega⟩
  have hcases := fullHalt_cases hfull
  rw [hyear, ofYmd_january, ofYmd_december, ofYmd_december] at hcases
  omega

/-! ## The rules that close -/

section Rules

variable {symbol : String} {d t : ℤ}

/-- The early closes of the provider are those of the calendar. -/
theorem isEarlyClose_or (d : ℤ) :
    (((getTradingDay d).isEarlyClose || (equityEarlyClose d).isSome) = true) ↔ EarlyClose d := by
  unfold getTradingDay EarlyClose
  split_ifs with hweekend hholiday hearly
  · rw [Bool.false_or]
  · rw [Bool.false_or]
  · rw [Bool.true_or]
    exact ⟨fun _ => hearly, fun _ => rfl⟩
  · rw [Bool.false_or]

/-- So are the holidays. -/
theorem not_isTradingDay_and (d : ℤ) :
    ((!(getTradingDay d).isTradingDay && decide (weekday d < 5)) = true) ↔ WeekdayHoliday d := by
  unfold getTradingDay WeekdayHoliday
  rw [Bool.and_eq_true, decide_eq_true_eq, and_comm]
  refine and_congr_right (fun hweekday => ?_)
  have hno : ¬ weekday d ∈ ([5, 6] : List ℤ) := by
    rw [List.mem_cons, List.mem_singleton]
    omega
  rw [if_neg hno]
  split_ifs with hholiday hearly
  · exact ⟨fun _ => hholiday, fun _ => rfl⟩
  · exact ⟨nofun, fun h => absurd h hholiday⟩
  · exact ⟨nofun, fun h => absurd h hholiday⟩

/-- **A closure by its rule**, after the rules before it, with the reading at which it says that
trading opens. -/
inductive Closure (d t : ℤ) : ℤ → Prop where
  | full (h : FullHalt d) (ht : t < cmeHaltEnd) : Closure d t (Zone.combine d cmeHaltEnd)
  | goodFriday (hfull : ¬(FullHalt d ∧ t < cmeHaltEnd)) (h : GoodFriday d)
      (ht : timeOfDay 9 15 ≤ t) :
      Closure d t (Zone.combine (d + (6 - weekday d) % 7) cmeHaltEnd)
  | early (hfull : ¬(FullHalt d ∧ t < cmeHaltEnd)) (h : EarlyClose d) (ht : timeOfDay 13 15 ≤ t) :
      Closure d t (Zone.combine (d + if 4 ≤ weekday d then (6 - weekday d) % 7 else 1) cmeHaltEnd)
  | halt (hfull : ¬ FullHalt d) (hfriday : ¬ GoodFriday d) (hearly : ¬ EarlyClose d)
      (h : WeekdayHoliday d) (ht : timeOfDay 13 0 ≤ t) (ht' : t < cmeHaltEnd) :
      Closure d t (Zone.combine d cmeHaltEnd)
  | weekend (hfull : ¬(FullHalt d ∧ t < cmeHaltEnd))
      (hearly : ¬(EarlyClose d ∧ timeOfDay 13 15 ≤ t))
      (hhalt : ¬(WeekdayHoliday d ∧ timeOfDay 13 0 ≤ t ∧ t < cmeHaltEnd))
      (h : weekday d = 4 ∧ cmeHaltStart ≤ t ∨ weekday d = 5 ∨ weekday d = 6 ∧ t < cmeHaltEnd) :
      Closure d t (Zone.combine (d + (6 - weekday d) % 7) cmeHaltEnd)
  | daily (hearly : ¬(EarlyClose d ∧ timeOfDay 13 15 ≤ t)) (h : weekday d ∈ [0, 1, 2, 3])
      (ht : cmeHaltStart ≤ t) (ht' : t < cmeHaltEnd) : Closure d t (Zone.combine d cmeHaltEnd)

theorem times :
    timeOfDay 9 15 = 33300000000 ∧ equityRthOpen = 34200000000 ∧ timeOfDay 13 0 = 46800000000
      ∧ timeOfDay 13 15 = 47700000000 ∧ cmeHaltStart = 61200000000 ∧ cmeHaltEnd = 64800000000
      ∧ Zone.day = 86400000000 := by
  decide

/-- **What an open session is not**: closed by any of the rules, but for the morning of an
early close and of a holiday. -/
structure Trading (d t : ℤ) : Prop where
  full : ¬(FullHalt d ∧ t < cmeHaltEnd)
  goodFriday : ¬(GoodFriday d ∧ timeOfDay 9 15 ≤ t)
  early : ¬(EarlyClose d ∧ timeOfDay 13 15 ≤ t)
  hours : EarlyClose d ∧ t < timeOfDay 13 15 ∨ WeekdayHoliday d ∧ t < timeOfDay 13 0
    ∨ ¬(WeekdayHoliday d ∧ timeOfDay 13 0 ≤ t ∧ t < cmeHaltEnd)
      ∧ ¬(weekday d = 4 ∧ cmeHaltStart ≤ t ∨ weekday d = 5 ∨ weekday d = 6 ∧ t < cmeHaltEnd)
      ∧ ¬(weekday d ∈ ([0, 1, 2, 3] : List ℤ) ∧ cmeHaltStart ≤ t ∧ t < cmeHaltEnd)

/-- **A session is closed by one of the rules**, whose reopening it names, or it trades. -/
theorem session_cases (symbol : String) (d t : ℤ) :
    (cmeSession symbol d t).isOpen = false ∧ (cmeSession symbol d t).isRth = false
        ∧ (∃ reopening, (cmeSession symbol d t).nextOpen = some reopening ∧ Closure d t reopening)
      ∨ (cmeSession symbol d t).isOpen = true ∧ Trading d t := by
  obtain ⟨h915, h930, h1300, h1315, h1700, h1800, -⟩ := times
  have hearlyIff := isEarlyClose_or d
  have hholidayIff := not_isTradingDay_and d
  unfold cmeSession
  -- the rules in their order
  by_cases hfull : d ∈ (calendarOf d).cmeFullHaltDays ∧ t < cmeHaltEnd
  · rw [if_pos hfull]
    exact .inl ⟨rfl, rfl, _, rfl, .full hfull.1 hfull.2⟩
  by_cases hfriday : d = (calendarOf d).goodFriday ∧ timeOfDay 9 15 ≤ t
  · rw [if_neg hfull, if_pos hfriday]
    exact .inl ⟨rfl, rfl, _, rfl, .goodFriday hfull hfriday.1 hfriday.2⟩
  by_cases hearly : ((getTradingDay d).isEarlyClose || (equityEarlyClose d).isSome) = true
      ∧ timeOfDay 13 15 ≤ t
  · rw [if_neg hfull, if_neg hfriday, if_pos hearly]
    exact .inl ⟨rfl, rfl, _, rfl, .early hfull (hearlyIff.mp hearly.1) hearly.2⟩
  have hlate : ¬(EarlyClose d ∧ timeOfDay 13 15 ≤ t) :=
    fun hd => hearly ⟨hearlyIff.mpr hd.1, hd.2⟩
  by_cases hrth : ((getTradingDay d).isEarlyClose || (equityEarlyClose d).isSome) = true
      ∧ equityRthOpen ≤ t ∧ t < timeOfDay 13 15
  · rw [if_neg hfull, if_neg hfriday, if_neg hearly, if_pos hrth]
    exact .inr ⟨rfl, hfull, hfriday, hlate, .inl ⟨hearlyIff.mp hrth.1, hrth.2.2⟩⟩
  by_cases hhalt : (!(getTradingDay d).isTradingDay && decide (weekday d < 5)) = true
      ∧ timeOfDay 13 0 ≤ t ∧ t < cmeHaltEnd
  · rw [if_neg hfull, if_neg hfriday, if_neg hearly, if_neg hrth, if_pos hhalt]
    refine .inl ⟨rfl, rfl, _, rfl, .halt (fun hd => hfull ⟨hd, hhalt.2.2⟩)
      (fun hd => hfriday ⟨hd, by omega⟩) (fun hd => ?_) (hholidayIff.mp hhalt.1) hhalt.2.1
      hhalt.2.2⟩
    by_cases hafter : timeOfDay 13 15 ≤ t
    · exact hlate ⟨hd, hafter⟩
    · exact hrth ⟨hearlyIff.mpr hd, by omega, not_le.mp hafter⟩
  have hhalt' : ¬(WeekdayHoliday d ∧ timeOfDay 13 0 ≤ t ∧ t < cmeHaltEnd) :=
    fun hd => hhalt ⟨hholidayIff.mpr hd.1, hd.2⟩
  by_cases hmorning : (!(getTradingDay d).isTradingDay && decide (weekday d < 5)) = true
      ∧ t < timeOfDay 13 0
  · rw [if_neg hfull, if_neg hfriday, if_neg hearly, if_neg hrth, if_neg hhalt, if_pos hmorning]
    exact .inr ⟨rfl, hfull, hfriday, hlate, .inr (.inl ⟨hholidayIff.mp hmorning.1, hmorning.2⟩)⟩
  by_cases hweekend : weekday d = 4 ∧ cmeHaltStart ≤ t ∨ weekday d = 5
      ∨ weekday d = 6 ∧ t < cmeHaltEnd
  · rw [if_neg hfull, if_neg hfriday, if_neg hearly, if_neg hrth, if_neg hhalt,
      if_neg hmorning, if_pos hweekend]
    exact .inl ⟨rfl, rfl, _, rfl, .weekend hfull hlate hhalt' hweekend⟩
  by_cases hdaily : weekday d ∈ ([0, 1, 2, 3] : List ℤ) ∧ cmeHaltStart ≤ t ∧ t < cmeHaltEnd
  · rw [if_neg hfull, if_neg hfriday, if_neg hearly, if_neg hrth, if_neg hhalt,
      if_neg hmorning, if_neg hweekend, if_pos hdaily]
    exact .inl ⟨rfl, rfl, _, rfl, .daily hlate hdaily.1 hdaily.2.1 hdaily.2.2⟩
  rw [if_neg hfull, if_neg hfriday, if_neg hearly, if_neg hrth, if_neg hhalt,
    if_neg hmorning, if_neg hweekend, if_neg hdaily]
  refine .inr ⟨?_, hfull, hfriday, hlate, .inr (.inr ⟨hhalt', hweekend, hdaily⟩)⟩
  split_ifs <;> rfl

theorem trading_of_open (h : (cmeSession symbol d t).isOpen = true) : Trading d t := by
  rcases session_cases symbol d t with ⟨hclosed, -⟩ | ⟨-, htrading⟩
  · rw [h] at hclosed
    cases hclosed
  · exact htrading

theorem open_of_no_closure (h : ∀ reopening, ¬ Closure d t reopening) :
    (cmeSession symbol d t).isOpen = true := by
  rcases session_cases symbol d t with ⟨-, -, reopening, -, hclosure⟩ | ⟨hopen, -⟩
  · exact absurd hclosure (h reopening)
  · exact hopen

theorem closed_of_not_trading (h : ¬ Trading d t) : (cmeSession symbol d t).isOpen = false :=
  Bool.eq_false_iff.mpr (fun hopen => h (trading_of_open hopen))

/-! ## Where the rules lead -/

/-- **What is said to open at 18:00 opens then**, on the days of Sunday to Thursday that are no
early closes, and on no Friday or Saturday. -/
theorem open_at_haltEnd (hearly : ¬ EarlyClose d) (hfriday : weekday d ≠ 4)
    (hsaturday : weekday d ≠ 5) : (cmeSession symbol d cmeHaltEnd).isOpen = true := by
  obtain ⟨-, -, -, -, -, h1800, -⟩ := times
  refine open_of_no_closure (fun reopening hclosure => ?_)
  cases hclosure with
  | full _ ht => exact lt_irrefl _ ht
  | goodFriday _ h _ => exact hfriday (weekday_of_goodFriday h)
  | early _ h _ => exact hearly h
  | halt _ _ _ _ _ ht => exact lt_irrefl _ ht
  | weekend _ _ _ h => omega
  | daily _ _ _ ht => exact lt_irrefl _ ht

theorem closed_friday (ht : cmeHaltStart ≤ t) (h : weekday d = 4) :
    (cmeSession symbol d t).isOpen = false := by
  obtain ⟨-, -, h1300, h1315, h1700, -⟩ := times
  refine closed_of_not_trading (fun htrading => ?_)
  rcases htrading.hours with ⟨-, hhours⟩ | ⟨-, hhours⟩ | ⟨-, hhours, -⟩
  · omega
  · omega
  · exact hhours (.inl ⟨h, ht⟩)

theorem not_earlyClose_of_weekend (h : 4 < weekday d) : ¬ EarlyClose d := by
  intro hearly
  rcases earlyClose_cases hearly with hfriday | ⟨-, hweekday⟩ | ⟨-, hjuly⟩ <;> omega

theorem closed_saturday (h : weekday d = 5) : (cmeSession symbol d t).isOpen = false := by
  refine closed_of_not_trading (fun htrading => ?_)
  rcases htrading.hours with ⟨hearly, -⟩ | ⟨hholiday, -⟩ | ⟨-, hhours, -⟩
  · exact not_earlyClose_of_weekend (by omega) hearly
  · have hweekday := hholiday.1
    omega
  · exact hhours (.inr (.inl h))

theorem closed_sunday (ht : t < cmeHaltEnd) (h : weekday d = 6) :
    (cmeSession symbol d t).isOpen = false := by
  refine closed_of_not_trading (fun htrading => ?_)
  rcases htrading.hours with ⟨hearly, -⟩ | ⟨hholiday, -⟩ | ⟨-, hhours, -⟩
  · exact not_earlyClose_of_weekend (by omega) hearly
  · have hweekday := hholiday.1
    omega
  · exact hhours (.inr (.inr ⟨h, ht⟩))

/-- **The weekend**: from a closed part of a Friday to Sunday 18:00 nothing trades. -/
theorem closed_until_sunday {start d' t' : ℤ} (hweekday : 4 ≤ weekday d)
    (hfriday : weekday d = 4 → ∀ t, start ≤ t → (cmeSession symbol d t).isOpen = false)
    (hstart : 0 ≤ start ∧ start < Zone.day) (ht' : 0 ≤ t' ∧ t' < Zone.day)
    (hle : Zone.combine d start ≤ Zone.combine d' t')
    (hlt : Zone.combine d' t' < Zone.combine (d + (6 - weekday d) % 7) cmeHaltEnd) :
    (cmeSession symbol d' t').isOpen = false := by
  obtain ⟨-, -, -, -, -, h1800, hday⟩ := times
  have hmem := weekday_mem d
  unfold Zone.combine at hle hlt
  rw [hday] at hle hlt hstart ht'
  rw [h1800] at hlt
  have hweekday' := weekday_add d (d' - d)
  rw [add_sub_cancel] at hweekday'
  -- the days up to the Sunday, one by one
  have hdays : d' = d ∧ start ≤ t' ∨ d' = d + 1 ∨ d' = d + 2 := by omega
  rcases (by omega : weekday d' = 4 ∨ weekday d' = 5 ∨ weekday d' = 6) with h4 | h5 | h6
  · have hsame : d' = d := by omega
    subst hsame
    exact hfriday h4 t' (by omega)
  · exact closed_saturday h5
  · exact closed_sunday (by omega) h6

/-- The same day up to 18:00. -/
theorem same_day {start d' t' : ℤ} (hstart : 0 ≤ start ∧ start < Zone.day)
    (ht' : 0 ≤ t' ∧ t' < Zone.day) (hle : Zone.combine d start ≤ Zone.combine d' t')
    (hlt : Zone.combine d' t' < Zone.combine d cmeHaltEnd) :
    d' = d ∧ start ≤ t' ∧ t' < cmeHaltEnd := by
  obtain ⟨-, -, -, -, -, h1800, hday⟩ := times
  unfold Zone.combine at hle hlt
  rw [hday] at hle hlt hstart ht'
  omega

/-! ## Which closures name their reopening -/

/-- **The reading of a reopening is right**: trading is open then, and closed from some reading
at or before the closed one up to it. The reading it is closed from is midnight, 9:15 or in the
afternoon. -/
def NamesReopening (d t reopening : ℤ) : Prop :=
  ∃ start, (start = 0 ∨ start = timeOfDay 9 15 ∨ timeOfDay 13 0 ≤ start) ∧ start < Zone.day
    ∧ start ≤ t ∧ (∃ d', reopening = Zone.combine d' cmeHaltEnd ∧ d ≤ d'
      ∧ (d' = d → t < cmeHaltEnd)
      ∧ ∀ symbol, (cmeSession symbol d' cmeHaltEnd).isOpen = true)
    ∧ ∀ symbol d' t', 0 ≤ t' ∧ t' < Zone.day → Zone.combine d start ≤ Zone.combine d' t' →
        Zone.combine d' t' < reopening → (cmeSession symbol d' t').isOpen = false

/-- **The closures that name a wrong reopening**: a full holiday on a Friday or a Saturday, an
early close on a Thursday or a July 3, and another holiday on a Friday. -/
def Misnamed (d t : ℤ) : Prop :=
  FullHalt d ∧ t < cmeHaltEnd ∧ (weekday d = 4 ∨ weekday d = 5)
    ∨ EarlyClose d ∧ timeOfDay 13 15 ≤ t ∧ (weekday d = 3 ∨ weekday d = 2 ∧ JulyThird d)
    ∨ WeekdayHoliday d ∧ weekday d = 4 ∧ ¬ GoodFriday d ∧ ¬ EarlyClose d
      ∧ timeOfDay 13 0 ≤ t ∧ t < cmeHaltEnd

/-- **The others name the right one.** -/
theorem Closure.namesReopening {reopening : ℤ} (ht : 0 ≤ t ∧ t < Zone.day)
    (h : Closure d t reopening) (hnot : ¬ Misnamed d t) : NamesReopening d t reopening := by
  obtain ⟨h915, h930, h1300, h1315, h1700, h1800, hday⟩ := times
  have hmem := weekday_mem d
  cases h with
  | full hfull htime =>
    have hweekday : weekday d ≠ 4 ∧ weekday d ≠ 5 :=
      ⟨fun h4 => hnot (.inl ⟨hfull, htime, .inl h4⟩), fun h5 => hnot (.inl ⟨hfull, htime, .inr h5⟩)⟩
    refine ⟨0, .inl rfl, by omega, ht.1, ⟨d, rfl, le_rfl, fun _ => htime, fun symbol => ?_⟩, ?_⟩
    · refine open_at_haltEnd (fun hearly => ?_) hweekday.1 hweekday.2
      exact hweekday.1 (weekday_of_fullHalt_of_earlyClose hfull hearly)
    · intro symbol d' t' ht' hle hlt
      obtain ⟨rfl, -, hbefore⟩ := same_day ⟨le_rfl, by omega⟩ ht' hle hlt
      exact closed_of_not_trading (fun htrading => htrading.full ⟨hfull, hbefore⟩)
  | goodFriday hfull hfriday htime =>
    have hweekday := weekday_of_goodFriday hfriday
    have hsunday := weekday_add_until d 6 (by decide)
    refine ⟨timeOfDay 9 15, .inr (.inl rfl), by omega, htime,
      ⟨_, rfl, by omega, fun _ => by omega, fun symbol => ?_⟩, fun symbol d' t' ht' hle hlt => ?_⟩
    · exact open_at_haltEnd (not_earlyClose_of_weekend (by omega)) (by omega) (by omega)
    · refine closed_until_sunday (by omega) (fun _ t'' hlater => ?_) ⟨by omega, by omega⟩ ht' hle
        hlt
      exact closed_of_not_trading (fun htrading => htrading.goodFriday ⟨hfriday, hlater⟩)
  | early hfull hearly htime =>
    refine ⟨timeOfDay 13 15, .inr (.inr (by omega)), by omega, htime, ?_⟩
    have hclosed : ∀ symbol t', timeOfDay 13 15 ≤ t' → (cmeSession symbol d t').isOpen = false :=
      fun symbol t' hlater =>
        closed_of_not_trading (fun htrading => htrading.early ⟨hearly, hlater⟩)
    by_cases h4 : 4 ≤ weekday d
    · rw [if_pos h4]
      have hsunday := weekday_add_until d 6 (by decide)
      have hweekday : weekday d = 4 :=
        le_antisymm (not_lt.mp (fun hlt => not_earlyClose_of_weekend hlt hearly)) h4
      refine ⟨⟨_, rfl, by omega, fun _ => by omega, fun symbol => ?_⟩,
        fun symbol d' t' ht' hle hlt => ?_⟩
      · exact open_at_haltEnd (not_earlyClose_of_weekend (by omega)) (by omega) (by omega)
      · exact closed_until_sunday h4 (fun _ => hclosed symbol) ⟨by omega, by omega⟩ ht' hle hlt
    · rw [if_neg h4]
      -- a Christmas Eve from Monday to Wednesday
      have heve : d = ofYmd (yearOf d) 12 24 := by
        rcases earlyClose_cases hearly with hfriday | ⟨heve, -⟩ | ⟨hjuly, h2 | h3⟩
        · omega
        · exact heve
        · exact absurd (.inr (.inl ⟨hearly, htime, .inr ⟨h2, hjuly⟩⟩)) hnot
        · exact absurd (.inr (.inl ⟨hearly, htime, .inl h3⟩)) hnot
      have hthursday : weekday d ≠ 3 :=
        fun h3 => hnot (.inr (.inl ⟨hearly, htime, .inl h3⟩))
      have hnext := weekday_add d 1
      have hchristmas := fullHalt_christmas heve
      refine ⟨⟨d + 1, rfl, by omega, fun _ => by omega, fun symbol => ?_⟩,
        fun symbol d' t' ht' hle hlt => ?_⟩
      · refine open_at_haltEnd (fun hearly' => ?_) (by omega) (by omega)
        have hfriday := weekday_of_fullHalt_of_earlyClose hchristmas hearly'
        omega
      · unfold Zone.combine at hle hlt
        rw [hday] at hle hlt ht'
        rcases (by omega : d' = d ∧ timeOfDay 13 15 ≤ t' ∨ d' = d + 1 ∧ t' < cmeHaltEnd)
          with ⟨rfl, hlater⟩ | ⟨rfl, hbefore⟩
        · exact hclosed symbol t' hlater
        · exact closed_of_not_trading (fun htrading => htrading.full ⟨hchristmas, hbefore⟩)
  | halt hfull hfriday hearly hholiday htime htime' =>
    have hweekday : weekday d ≠ 4 := fun h4 =>
      hnot (.inr (.inr ⟨hholiday, h4, hfriday, hearly, htime, htime'⟩))
    have hlt5 := hholiday.1
    refine ⟨timeOfDay 13 0, .inr (.inr le_rfl), by omega, htime,
      ⟨d, rfl, le_rfl, fun _ => htime', fun symbol => ?_⟩, fun symbol d' t' ht' hle hlt => ?_⟩
    · exact open_at_haltEnd hearly hweekday (by omega)
    · obtain ⟨rfl, hafter, hbefore⟩ := same_day ⟨by omega, by omega⟩ ht' hle hlt
      refine closed_of_not_trading (fun htrading => ?_)
      rcases htrading.hours with ⟨hearly', -⟩ | ⟨-, hmorning⟩ | ⟨hhours, -⟩
      · exact hearly hearly'
      · omega
      · exact hhours ⟨hholiday, hafter, hbefore⟩
  | weekend hfull hearly hhalt hweekend =>
    have hsunday := weekday_add_until d 6 (by decide)
    have hopen : ∀ symbol,
        (cmeSession symbol (d + (6 - weekday d) % 7) cmeHaltEnd).isOpen = true := fun symbol =>
      open_at_haltEnd (not_earlyClose_of_weekend (by omega)) (by omega) (by omega)
    by_cases h4 : weekday d = 4
    · refine ⟨cmeHaltStart, .inr (.inr (by omega)), by omega, by omega,
        ⟨_, rfl, by omega, fun _ => by omega, hopen⟩, fun symbol d' t' ht' hle hlt => ?_⟩
      exact closed_until_sunday (by omega) (fun _ t'' hlater => closed_friday hlater h4)
        ⟨by omega, by omega⟩ ht' hle hlt
    · refine ⟨0, .inl rfl, by omega, ht.1, ⟨_, rfl, by omega, fun _ => by omega, hopen⟩,
        fun symbol d' t' ht' hle hlt => ?_⟩
      exact closed_until_sunday (by omega) (fun h => absurd h h4) ⟨le_rfl, by omega⟩ ht' hle hlt
  | daily hearly hweekday htime htime' =>
    have hweekday' : weekday d < 4 := by
      simp only [List.mem_cons, List.not_mem_nil, or_false] at hweekday
      omega
    refine ⟨cmeHaltStart, .inr (.inr (by omega)), by omega, htime,
      ⟨d, rfl, le_rfl, fun _ => htime', fun symbol => ?_⟩, fun symbol d' t' ht' hle hlt => ?_⟩
    · exact open_at_haltEnd (fun h => hearly ⟨h, by omega⟩) (by omega) (by omega)
    · obtain ⟨rfl, hafter, hbefore⟩ := same_day ⟨by omega, by omega⟩ ht' hle hlt
      refine closed_of_not_trading (fun htrading => ?_)
      rcases htrading.hours with ⟨-, hmorning⟩ | ⟨-, hmorning⟩ | ⟨-, -, hhours⟩
      · omega
      · omega
      · exact hhours ⟨hweekday, hafter, hbefore⟩

/-- **What a misnamed reopening runs into**: a closed session at that reading, or July 4, which
opens at midnight. -/
theorem Closure.of_misnamed {reopening : ℤ} (hclosure : Closure d t reopening) (h : Misnamed d t) :
    (∃ d', reopening = Zone.combine d' cmeHaltEnd ∧ d ≤ d'
        ∧ ∀ symbol, (cmeSession symbol d' cmeHaltEnd).isOpen = false)
      ∨ reopening = Zone.combine (d + 1) cmeHaltEnd
        ∧ ∀ symbol, (cmeSession symbol (d + 1) 0).isOpen = true := by
  obtain ⟨h915, h930, h1300, h1315, h1700, h1800, hday⟩ := times
  have hnext := weekday_add d 1
  rcases h with ⟨hfull, ht, hweekday⟩ | ⟨hearly, ht, hweekday⟩
    | ⟨hholiday, hweekday, hfriday, hearly, ht, ht'⟩
  · refine .inl ?_
    cases hclosure with
    | full _ _ =>
      refine ⟨d, rfl, le_rfl, fun symbol => ?_⟩
      rcases hweekday with h4 | h5
      · exact closed_friday (by omega) h4
      · exact closed_saturday h5
    | goodFriday hnot _ _ => exact absurd ⟨hfull, ht⟩ hnot
    | early hnot _ _ => exact absurd ⟨hfull, ht⟩ hnot
    | halt hnot _ _ _ _ _ => exact absurd hfull hnot
    | weekend hnot _ _ _ => exact absurd ⟨hfull, ht⟩ hnot
    | daily _ hdays _ _ =>
      simp only [List.mem_cons, List.not_mem_nil, or_false] at hdays
      omega
  · cases hclosure with
    | full hfull _ =>
      have hfriday := weekday_of_fullHalt_of_earlyClose hfull hearly
      omega
    | goodFriday _ hfriday _ =>
      have hfriday := weekday_of_goodFriday hfriday
      omega
    | early _ _ _ =>
      rw [if_neg (show ¬ 4 ≤ weekday d by omega)]
      rcases hweekday with h3 | ⟨h2, hjuly⟩
      · exact .inl ⟨d + 1, rfl, by omega, fun symbol => closed_friday (by omega) (by omega)⟩
      · refine .inr ⟨rfl, fun symbol => open_of_no_closure (fun reopening' hclosure' => ?_)⟩
        cases hclosure' with
        | full hfull _ => exact not_fullHalt_julyFourth hjuly hfull
        | goodFriday _ _ ht => omega
        | early _ _ ht => omega
        | halt _ _ _ _ ht _ => omega
        | weekend _ _ _ hweekend => omega
        | daily _ _ ht _ => omega
    | halt _ _ hnot _ _ _ => exact absurd hearly hnot
    | weekend _ hnot _ _ => exact absurd ⟨hearly, ht⟩ hnot
    | daily hnot _ _ _ => exact absurd ⟨hearly, ht⟩ hnot
  · refine .inl ?_
    cases hclosure with
    | full _ _ => exact ⟨d, rfl, le_rfl, fun symbol => closed_friday (by omega) hweekday⟩
    | goodFriday _ hgood _ => exact absurd hgood hfriday
    | early _ hclose _ => exact absurd hclose hearly
    | halt _ _ _ _ _ _ => exact ⟨d, rfl, le_rfl, fun symbol => closed_friday (by omega) hweekday⟩
    | weekend _ _ hnot _ => exact absurd ⟨hholiday, ht, ht'⟩ hnot
    | daily _ hdays _ _ =>
      simp only [List.mem_cons, List.not_mem_nil, or_false] at hdays
      omega

end Rules

/-! ## Instants -/

/-- **New York keeps its market hours**: midnight, 9:15 and the afternoon are shown once on
every date. Its clocks are moved in the small hours, and were once at noon. -/
def KeepsMarketHours (zone : Zone) : Prop :=
  ∀ d time, (time = 0 ∨ time = timeOfDay 9 15 ∨ timeOfDay 13 0 ≤ time) → time < Zone.day →
    zone.Keeps (Zone.combine d time)

/-- **A closed session names its real reopening**: later, open then, and closed at every instant
up to it. -/
def NamesItsReopening (zone : Zone) (symbol : String) (now : ℤ) : Prop :=
  ∃ reading, (getSessionInfo zone symbol now).nextOpen = some reading
    ∧ now < zone.ofLocal reading
    ∧ (getSessionInfo zone symbol (zone.ofLocal reading)).isOpen = true
    ∧ ∀ u, now ≤ u → u < zone.ofLocal reading → (getSessionInfo zone symbol u).isOpen = false

section Instants

variable {zone : Zone} {symbol : String} {now : ℤ}

/-- The session at the instant of a reading. -/
theorem getSessionInfo_ofLocal {d time : ℤ} (h : zone.Keeps (Zone.combine d time))
    (ht : 0 ≤ time ∧ time < Zone.day) :
    getSessionInfo zone symbol (zone.ofLocal (Zone.combine d time)) = cmeSession symbol d time := by
  unfold getSessionInfo Zone.date
  rw [h.1, Zone.combine_div ht.1 ht.2, Zone.combine_emod ht.1 ht.2]

theorem NamesReopening.instants {reopening : ℤ} (hzone : KeepsMarketHours zone)
    (h : NamesReopening (zone.date now) (zone.toLocal now % Zone.day) reopening)
    (hnext : (getSessionInfo zone symbol now).nextOpen = some reopening) :
    NamesItsReopening zone symbol now := by
  obtain ⟨-, -, h1300, -, -, h1800, hday⟩ := times
  obtain ⟨start, hstart, hlt, hle, ⟨d', rfl, hd', hsame, hopen⟩, hclosed⟩ := h
  have hkeeps := hzone d' cmeHaltEnd (.inr (.inr (by omega))) (by omega)
  have hfrom := hzone (zone.date now) start hstart hlt
  have hsplit := zone.combine_date now
  have hbounds : 0 ≤ zone.toLocal now % Zone.day ∧ zone.toLocal now % Zone.day < Zone.day :=
    ⟨Int.emod_nonneg _ (by decide), Int.emod_lt_of_pos _ Zone.day_pos⟩
  refine ⟨_, hnext, hkeeps.lt_ofLocal.mpr ?_, ?_, fun u hu hlast => ?_⟩
  · rw [← hsplit]
    rcases hd'.lt_or_eq with hlt | heq
    · exact Zone.combine_lt hlt hbounds.2 (by omega)
    · have hbefore := hsame heq.symm
      rw [heq]
      unfold Zone.combine
      omega
  · rw [getSessionInfo_ofLocal hkeeps ⟨by omega, by omega⟩]
    exact hopen symbol
  · -- from the reading the rule is closed from on, no clock shows an earlier one
    refine hclosed symbol _ _
      ⟨Int.emod_nonneg _ (by decide), Int.emod_lt_of_pos _ Zone.day_pos⟩ ?_ ?_
    · rw [zone.combine_date u]
      exact (hfrom.2 u).mpr (((hfrom.2 now).mp ((Zone.combine_mono hle).trans_eq hsplit)).trans hu)
    · rw [zone.combine_date u]
      exact hkeeps.lt_ofLocal.mp hlast

/-- A misnamed one does not. -/
theorem not_namesItsReopening {reopening : ℤ} (hzone : KeepsMarketHours zone)
    (hclosure : Closure (zone.date now) (zone.toLocal now % Zone.day) reopening)
    (hnext : (getSessionInfo zone symbol now).nextOpen = some reopening)
    (h : Misnamed (zone.date now) (zone.toLocal now % Zone.day)) :
    ¬ NamesItsReopening zone symbol now := by
  obtain ⟨-, -, h1300, -, -, h1800, hday⟩ := times
  rintro ⟨reading, hreading, -, hopen, hclosed⟩
  cases hnext.symm.trans hreading
  rcases hclosure.of_misnamed h with ⟨d', rfl, -, hshut⟩ | ⟨rfl, hmorning⟩
  · have hkeeps := hzone d' cmeHaltEnd (.inr (.inr (by omega))) (by omega)
    rw [getSessionInfo_ofLocal hkeeps ⟨by omega, by omega⟩, hshut symbol] at hopen
    cases hopen
  · have hkeeps := hzone (zone.date now + 1) cmeHaltEnd (.inr (.inr (by omega))) (by omega)
    have hmidnight := hzone (zone.date now + 1) 0 (.inl rfl) (by omega)
    -- the midnight of July 4 lies between
    have hlater : now < zone.ofLocal (Zone.combine (zone.date now + 1) 0) := by
      refine hmidnight.lt_ofLocal.mpr ?_
      have hlt := Zone.combine_lt (Int.lt_succ (zone.date now))
        (Int.emod_lt_of_pos (zone.toLocal now) Zone.day_pos) le_rfl
      rwa [Zone.combine_date] at hlt
    have hearlier : zone.ofLocal (Zone.combine (zone.date now + 1) 0)
        < zone.ofLocal (Zone.combine (zone.date now + 1) cmeHaltEnd) := by
      refine hkeeps.lt_ofLocal.mpr ?_
      rw [hmidnight.1]
      unfold Zone.combine
      omega
    have hshut := hclosed _ hlater.le hearlier
    rw [getSessionInfo_ofLocal hmidnight ⟨le_rfl, by omega⟩, hmorning symbol] at hshut
    cases hshut

/-- **Exactly the closures that are not misnamed name their reopening**, at every instant; and
regular hours are open. -/
theorem closed_session_names_its_reopening_iff (zone : Zone) (hzone : KeepsMarketHours zone)
    (symbol : String) (now : ℤ) :
    ((getSessionInfo zone symbol now).isRth = true → (getSessionInfo zone symbol now).isOpen = true)
      ∧ ((getSessionInfo zone symbol now).isOpen = false →
        (NamesItsReopening zone symbol now
          ↔ ¬ Misnamed (zone.date now) (zone.toLocal now % Zone.day))) := by
  rcases session_cases symbol (zone.date now) (zone.toLocal now % Zone.day) with
    ⟨hclosed, hrth, reopening, hnext, hclosure⟩ | ⟨hopen, -⟩
  · have hbounds : 0 ≤ zone.toLocal now % Zone.day ∧ zone.toLocal now % Zone.day < Zone.day :=
      ⟨Int.emod_nonneg _ (by decide), Int.emod_lt_of_pos _ Zone.day_pos⟩
    refine ⟨fun hregular => ?_, fun _ => ⟨fun hnames hmisnamed => ?_, fun hnot => ?_⟩⟩
    · exact absurd hregular (ne_true_of_eq_false hrth)
    · exact not_namesItsReopening hzone hclosure hnext hmisnamed hnames
    · exact (hclosure.namesReopening hbounds hnot).instants hzone hnext
  · refine ⟨fun _ => hopen, fun hclosed => ?_⟩
    exact absurd (show (getSessionInfo zone symbol now).isOpen = true from hopen)
      (ne_true_of_eq_false hclosed)

end Instants

/-! ## A Christmas on a Friday -/

/-- Eastern standard time. -/
def easternStandard : Zone := ⟨fun t => t - 18000000000, fun reading => reading + 18000000000⟩

theorem easternStandard_keepsMarketHours : KeepsMarketHours easternStandard := by
  intro d time _ _
  unfold Zone.Keeps easternStandard
  dsimp only
  exact ⟨by omega, fun t => by omega⟩

/-- 2026-12-25 at noon in New York. -/
def christmas2026 : ℤ := 1798218000000000

/-- A week before, on the Saturday, the futures are closed and the reopening is the right one:
Sunday at 18:00. -/
theorem saturday2026_names_its_reopening :
    (getSessionInfo easternStandard "/MES" (christmas2026 - 6 * Zone.day)).isOpen = false
      ∧ NamesItsReopening easternStandard "/MES" (christmas2026 - 6 * Zone.day) := by
  have hclosed : (getSessionInfo easternStandard "/MES" (christmas2026 - 6 * Zone.day)).isOpen
      = false := by
    decide +kernel
  refine ⟨hclosed, ((closed_session_names_its_reopening_iff easternStandard
    easternStandard_keepsMarketHours "/MES" (christmas2026 - 6 * Zone.day)).2 hclosed).mpr ?_⟩
  -- a Saturday in December is neither a full halt nor an early close, and no weekday
  rintro (⟨hfull, -⟩ | ⟨hearly, -⟩ | ⟨-, hweekday, -⟩)
  · unfold FullHalt at hfull
    exact absurd hfull (by decide +kernel)
  · unfold EarlyClose at hearly
    exact absurd hearly (by decide +kernel)
  · exact absurd hweekday (by decide +kernel)

/-- The futures are said to open at 18:00 that day, when the weekend has begun. -/
theorem christmas2026_misnamed :
    (getSessionInfo easternStandard "/MES" christmas2026).isOpen = false
      ∧ ¬ NamesItsReopening easternStandard "/MES" christmas2026 := by
  have hnext : (getSessionInfo easternStandard "/MES" christmas2026).nextOpen
      = some (Zone.combine 20812 cmeHaltEnd) := by decide +kernel
  refine ⟨by decide +kernel, ?_⟩
  rintro ⟨reading, hreading, -, hopen, -⟩
  cases hnext.symm.trans hreading
  have hclosed : (getSessionInfo easternStandard "/MES"
      (easternStandard.ofLocal (Zone.combine 20812 cmeHaltEnd))).isOpen = false := by decide +kernel
  rw [hclosed] at hopen
  cases hopen

end AgenticTrader
