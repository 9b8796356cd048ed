import Mathlib
import AgenticTrader.Research.LabelLaws

/-!
# The bar a bracket is over at

A long bracket without a trail is over at the first of its bars that touches a level, or with
the last bar of its last date, where a further date shows that the date is over (`exitBar`).
That is said of the bars alone. The labeler finds that bar (`labelBracket_over`), and counts the
dates on which the symbol had a bar, from the entry to there – its own dates, whatever sessions
the exchange held.
-/


namespace AgenticTrader

/-- The dates of some bars. -/
def barDates (zone : Zone) (bars : List HourlyBar) : List ℤ :=
  bars.map (fun bar => zone.date bar.time)

/-- On how many dates before one there was a bar. -/
def tradedBefore (zone : Zone) (bars : List HourlyBar) (date : ℤ) : ℕ :=
  ((barDates zone bars).filter (fun d => decide (d < date))).dedup.length

/-- A bar touches a level of a long bracket. -/
def SetupLevels.touched (levels : SetupLevels) (bar : HourlyBar) : Bool :=
  decide (bar.low ≤ levels.stop) || decide (levels.target ≤ bar.high)

/-- A bar opens at or beyond a level of a long bracket. -/
def SetupLevels.gapped (levels : SetupLevels) (bar : HourlyBar) : Bool :=
  decide (bar.open_ ≤ levels.stop) || decide (levels.target ≤ bar.open_)

/-- The bars of the dates a bracket may be held. -/
def isHeld (zone : Zone) (maxHoldSessions : ℤ) (bars : List HourlyBar) (bar : HourlyBar) : Bool :=
  decide ((tradedBefore zone bars (zone.date bar.time) : ℤ) < maxHoldSessions)

/-- **The bar a long bracket is over at**, of its bars from the entry on. -/
def exitBar (zone : Zone) (levels : SetupLevels) (maxHoldSessions : ℤ) (bars : List HourlyBar) :
    Option HourlyBar :=
  if bars.head?.any levels.gapped then bars.head?
  else
    let held := bars.takeWhile (isHeld zone maxHoldSessions bars)
    (held.find? levels.touched).or (if held.length < bars.length then held.getLast? else none)

/-- **A label is over at a bar**, with the dates that were counted to it. -/
structure BracketOutcome.OverAt (zone : Zone) (bars : List HourlyBar) (out : BracketOutcome)
    (bar : HourlyBar) : Prop where
  resolved : out.hit ≠ .immature
  exitTime : out.exitTime = some bar.time
  counted : out.holdingSessions = tradedBefore zone bars (zone.date bar.time) + 1

/-- A label that is not over. -/
structure BracketOutcome.Open (out : BracketOutcome) : Prop where
  immature : out.hit = .immature
  exitTime : out.exitTime = none

namespace BracketWalk

variable (zone : Zone) (w : BracketWalk)

/-- **What the walk knows** after some of its bars. -/
structure Passed (bars done : List HourlyBar) (s : WalkState) : Prop where
  stop : s.stop = w.levels.stop
  nodup : s.dates.Nodup
  dates : ∀ d, d ∈ s.dates ↔ d ∈ barDates zone done
  prev : s.prev = done.getLast?
  counted : ∀ last, done.getLast? = some last →
    s.dates.length = tradedBefore zone bars (zone.date last.time) + 1
  short : (s.dates.length : ℤ) ≤ w.maxHoldSessions

variable {zone w} {bars done rest : List HourlyBar} {bar : HourlyBar} {s : WalkState}

theorem passed_start (h : 0 ≤ w.maxHoldSessions) : Passed zone w bars [] w.start :=
  ⟨rfl, List.nodup_nil, fun _ => Iff.rfl, rfl, (fun _ hlast => nomatch hlast), h⟩

section Dates

variable (hzone : Monotone zone.date) (hsorted : bars.Pairwise (fun a b => a.time < b.time))
  (hbars : bars = done ++ bar :: rest)

include hzone hsorted hbars

/-- The dates before that of a bar are those of the bars before it. -/
theorem tradedBefore_eq : tradedBefore zone bars (zone.date bar.time)
    = ((barDates zone done).toFinset.erase (zone.date bar.time)).card := by
  rw [hbars] at hsorted
  obtain ⟨-, hrest, hdone⟩ := List.pairwise_append.mp hsorted
  have hlater : ∀ d ∈ barDates zone (bar :: rest), ¬ d < zone.date bar.time := by
    intro d hd
    obtain ⟨b, hb, rfl⟩ := List.mem_map.mp hd
    rcases List.mem_cons.mp hb with rfl | hb
    · exact lt_irrefl _
    · exact not_lt.mpr (hzone ((List.pairwise_cons.mp hrest).1 b hb).le)
  have hearlier : ∀ d ∈ barDates zone done, d ≤ zone.date bar.time := by
    intro d hd
    obtain ⟨b, hb, rfl⟩ := List.mem_map.mp hd
    exact hzone (hdone b hb bar List.mem_cons_self).le
  unfold tradedBefore
  rw [← List.card_toFinset, hbars]
  refine congrArg Finset.card (Finset.ext (fun d => ?_))
  rw [List.mem_toFinset, List.mem_filter, decide_eq_true_eq, Finset.mem_erase, List.mem_toFinset]
  unfold barDates at *
  rw [List.map_append, List.mem_append]
  constructor
  · rintro ⟨hd | hd, hlt⟩
    · exact ⟨hlt.ne, hd⟩
    · exact absurd hlt (hlater d hd)
  · rintro ⟨hne, hd⟩
    exact ⟨Or.inl hd, lt_of_le_of_ne (hearlier d hd) hne⟩

variable (h : Passed zone w bars done s)

include h

omit hzone hsorted hbars in
theorem card_dates : (barDates zone done).toFinset.card = s.dates.length := by
  rw [← List.toFinset_card_of_nodup h.nodup]
  refine congrArg Finset.card (Finset.ext (fun d => ?_))
  rw [List.mem_toFinset, List.mem_toFinset, h.dates]

/-- A bar of a new date has all the dates before it. -/
theorem length_of_new (hnew : zone.date bar.time ∉ s.dates) :
    s.dates.length = tradedBefore zone bars (zone.date bar.time) := by
  rw [tradedBefore_eq hzone hsorted hbars, Finset.erase_eq_of_notMem, card_dates h]
  rwa [List.mem_toFinset, ← h.dates]

/-- A bar of a date that was seen has one fewer. -/
theorem length_of_seen (hseen : zone.date bar.time ∈ s.dates) :
    s.dates.length = tradedBefore zone bars (zone.date bar.time) + 1 := by
  rw [tradedBefore_eq hzone hsorted hbars, Finset.card_erase_add_one, card_dates h]
  rwa [List.mem_toFinset, ← h.dates]

/-- **The dates with that of a bar** are one more than those before it. -/
theorem length_seen :
    (seen zone bar s).length = tradedBefore zone bars (zone.date bar.time) + 1 := by
  unfold seen
  split
  · exact length_of_seen hzone hsorted hbars h ‹_›
  · rw [List.length_append, List.length_singleton, length_of_new hzone hsorted hbars h ‹_›]

/-- **The walk stops before a bar that is not held.** -/
theorem held_iff : isHeld zone w.maxHoldSessions bars bar = true
    ↔ ¬ (zone.date bar.time ∉ s.dates
      ∧ ((seen zone bar s).length : ℤ) = w.maxHoldSessions + 1) := by
  have hshort := h.short
  rw [length_seen hzone hsorted hbars h]
  unfold isHeld
  rw [decide_eq_true_eq]
  by_cases hseen : zone.date bar.time ∈ s.dates
  · have hlength := length_of_seen hzone hsorted hbars h hseen
    refine ⟨fun _ hnot => hnot.1 hseen, fun _ => ?_⟩
    omega
  · have hlength := length_of_new hzone hsorted hbars h hseen
    push_cast
    constructor
    · rintro hlt ⟨-, heq⟩
      omega
    · intro hnot
      have hne : (tradedBefore zone bars (zone.date bar.time) : ℤ) + 1 ≠ w.maxHoldSessions + 1 :=
        fun heq => hnot ⟨hseen, heq⟩
      omega

/-- The walk passes a bar. -/
theorem Passed.next (hheld : isHeld zone w.maxHoldSessions bars bar = true) :
    Passed zone w bars (done ++ [bar]) ⟨s.stop, s.moves, seen zone bar s, some bar⟩ := by
  have hlength := length_seen hzone hsorted hbars h
  refine ⟨h.stop, ?_, fun d => ?_, ?_, fun last hlast => ?_, ?_⟩
  · show (seen zone bar s).Nodup
    unfold seen
    split
    · exact h.nodup
    · exact List.Nodup.append h.nodup (List.nodup_singleton _) (List.disjoint_singleton.mpr ‹_›)
  · show d ∈ seen zone bar s ↔ d ∈ barDates zone (done ++ [bar])
    unfold barDates seen
    rw [List.map_append, List.mem_append, List.map_singleton, List.mem_singleton]
    have hdates := h.dates d
    unfold barDates at hdates
    split
    · rename_i hseen
      rw [← hdates]
      refine ⟨Or.inl, fun hd => hd.elim id ?_⟩
      rintro rfl
      exact hseen
    · rw [List.mem_append, List.mem_singleton, hdates]
  · rw [List.getLast?_concat]
  · rw [List.getLast?_concat] at hlast
    cases hlast
    exact hlength
  · show ((seen zone bar s).length : ℤ) ≤ w.maxHoldSessions
    unfold isHeld at hheld
    rw [decide_eq_true_eq] at hheld
    omega

end Dates

/-! ## The walk -/

/-- **A long bracket without a trail.** -/
structure Plain (w : BracketWalk) : Prop where
  long : w.levels.direction = .long
  target : w.target = some w.levels.target
  trail : w.trail = none
  hold : 1 ≤ w.maxHoldSessions

section Walk

variable (hzone : Monotone zone.date) (hsorted : bars.Pairwise (fun a b => a.time < b.time))
  (hw : w.Plain) (h : Passed zone w bars done s)

include hzone hsorted hw h

/-- A held bar that touches a level ends the walk. -/
theorem step_touched (hbars : bars = done ++ bar :: rest)
    (hheld : isHeld zone w.maxHoldSessions bars bar = true)
    (htouched : w.levels.touched bar = true) :
    ∃ out, w.step zone bar s = .inl (.ok out) ∧ out.OverAt zone bars bar := by
  have hlength := length_seen hzone hsorted hbars h
  have hcounted : ((seen zone bar s).length : ℤ)
      = tradedBefore zone bars (zone.date bar.time) + 1 := by exact_mod_cast hlength
  unfold step
  dsimp only
  rw [if_neg ((held_iff hzone hsorted hbars h).mp hheld), h.stop, hw.target]
  unfold SetupLevels.touched at htouched
  unfold beyondStop beyondTarget worst best
  rw [if_pos hw.long, if_pos hw.long]
  simp only [hw.long, if_true]
  by_cases hstop : bar.low ≤ w.levels.stop
  · rw [if_pos (decide_eq_true hstop)]
    exact ⟨_, rfl, by simp [resolved], rfl, hcounted⟩
  · rw [if_neg (by simpa using hstop)]
    have htarget : w.levels.target ≤ bar.high := by simpa [hstop] using htouched
    rw [Option.filter_some_pos (by simpa using htarget)]
    exact ⟨_, rfl, by simp [resolved], rfl, hcounted⟩

/-- A held bar that touches no level is passed. -/
theorem step_passed (hbars : bars = done ++ bar :: rest)
    (hheld : isHeld zone w.maxHoldSessions bars bar = true) (hfree : w.levels.touched bar = false) :
    w.step zone bar s = .inr ⟨s.stop, s.moves, seen zone bar s, some bar⟩ := by
  unfold SetupLevels.touched at hfree
  rw [Bool.or_eq_false_iff, decide_eq_false_iff_not, decide_eq_false_iff_not] at hfree
  unfold step
  dsimp only
  rw [if_neg ((held_iff hzone hsorted hbars h).mp hheld), hw.target]
  unfold beyondStop beyondTarget worst best ratchet
  simp only [hw.long, hw.trail, if_true, h.stop]
  rw [if_neg (by simpa using hfree.1), Option.filter_some_neg (by simpa using hfree.2)]

/-- A bar that is not held ends the walk with the bar before it. -/
theorem step_unheld (hbars : bars = done ++ bar :: rest)
    (hnot : ¬ isHeld zone w.maxHoldSessions bars bar = true) :
    ∃ last out, done.getLast? = some last ∧ w.step zone bar s = .inl (.ok out)
      ∧ out.OverAt zone bars last := by
  rw [held_iff hzone hsorted hbars h, not_not] at hnot
  have hlength := length_of_new hzone hsorted hbars h hnot.1
  have hseen := length_seen hzone hsorted hbars h
  have hmax : (s.dates.length : ℤ) = w.maxHoldSessions := by
    have := hnot.2
    omega
  obtain ⟨last, hlast⟩ : ∃ last, done.getLast? = some last := by
    rw [← Option.isSome_iff_exists, ← Option.ne_none_iff_isSome, ne_eq, List.getLast?_eq_none_iff]
    rintro rfl
    have hnone : s.dates = [] := List.eq_nil_iff_forall_not_mem.mpr (fun d hd => by
      cases (h.dates d).mp hd)
    have hhold := hw.hold
    rw [hnone, List.length_nil] at hmax
    omega
  refine ⟨last, w.resolved .timeout last.time last.close w.maxHoldSessions s, hlast, ?_, ?_, rfl,
    ?_⟩
  · unfold step
    dsimp only
    rw [if_pos hnot, h.prev, hlast]
  · exact fun himmature => nomatch himmature
  · show w.maxHoldSessions = (tradedBefore zone bars (zone.date last.time) : ℤ) + 1
    rw [← hmax, h.counted last hlast]
    push_cast
    rfl

/-- **Where the walk ends**: at the first held bar that touches a level, with the last held bar,
or not within its bars. -/
theorem walk_over {out : BracketOutcome} (hbars : bars = done ++ rest)
    (hout : w.walk zone rest s = .ok out) :
    (∃ bar, (rest.takeWhile (isHeld zone w.maxHoldSessions bars)).find? w.levels.touched = some bar
        ∧ out.OverAt zone bars bar)
      ∨ ((rest.takeWhile (isHeld zone w.maxHoldSessions bars)).find? w.levels.touched = none
        ∧ (((rest.takeWhile (isHeld zone w.maxHoldSessions bars)).length < rest.length
            ∧ ∃ last, (done ++ rest.takeWhile (isHeld zone w.maxHoldSessions bars)).getLast?
              = some last
              ∧ out.OverAt zone bars last)
          ∨ (¬ (rest.takeWhile (isHeld zone w.maxHoldSessions bars)).length < rest.length
            ∧ out.Open))) := by
  induction rest generalizing done s with
  | nil =>
    cases hout
    exact Or.inr ⟨rfl, Or.inr ⟨Nat.lt_irrefl 0, rfl, rfl⟩⟩
  | cons bar rest ih =>
    unfold walk at hout
    by_cases hheld : isHeld zone w.maxHoldSessions bars bar = true
    · rw [List.takeWhile_cons_of_pos hheld]
      cases htouched : w.levels.touched bar with
      | true =>
        obtain ⟨out', hstep, hover⟩ := step_touched hzone hsorted hw h hbars hheld htouched
        rw [hstep] at hout
        cases hout
        exact Or.inl ⟨bar, List.find?_cons_of_pos htouched, hover⟩
      | false =>
        rw [step_passed hzone hsorted hw h hbars hheld htouched] at hout
        have hbars' : bars = (done ++ [bar]) ++ rest := by
          rw [hbars, List.append_assoc, List.singleton_append]
        have hrest := ih (h.next hzone hsorted hbars hheld) hbars' hout
        rw [List.find?_cons_of_neg (by simpa using htouched), List.length_cons, List.length_cons,
          Nat.succ_lt_succ_iff]
        rwa [List.append_assoc, List.singleton_append] at hrest
    · rw [List.takeWhile_cons_of_neg hheld]
      obtain ⟨last, out', hlast, hstep, hover⟩ := step_unheld hzone hsorted hw h hbars hheld
      rw [hstep] at hout
      cases hout
      refine Or.inr ⟨rfl, Or.inl ⟨Nat.succ_pos _, last, ?_, hover⟩⟩
      rw [List.append_nil]
      exact hlast

end Walk

end BracketWalk

/-! ## The label -/

/-- The regular bars of a symbol from a decision on. -/
def barsSince (zone : Zone) (decisionAt : Time) (hourly : List HourlyBar) : List HourlyBar :=
  (regularSessionBars zone hourly).dropWhile (fun bar => bar.time < decisionAt)

/-- **The labeler finds the bar the bracket is over at.** -/
theorem labelBracket_over {zone : Zone} (hzone : Monotone zone.date) {levels : SetupLevels}
    (hlong : levels.direction = .long) {decisionAt : Time} {hourly : List HourlyBar}
    (hsorted : hourly.Pairwise (fun a b => a.time < b.time)) {maxHoldSessions : ℤ}
    (hhold : 1 ≤ maxHoldSessions) {cost : ℚ} {out : BracketOutcome}
    (h : labelBracket zone levels decisionAt hourly maxHoldSessions cost none = .ok out) :
    (∃ bar, exitBar zone levels maxHoldSessions (barsSince zone decisionAt hourly) = some bar
        ∧ out.OverAt zone (barsSince zone decisionAt hourly) bar)
      ∨ (exitBar zone levels maxHoldSessions (barsSince zone decisionAt hourly) = none
        ∧ out.Open) := by
  have hsince : (barsSince zone decisionAt hourly).Pairwise (fun a b => a.time < b.time) :=
    (hsorted.filter _).sublist (List.dropWhile_sublist _)
  unfold labelBracket at h
  unfold barsSince at hsince ⊢
  split at h
  · rename_i hnone
    cases h
    rw [hnone]
    exact Or.inr ⟨rfl, rfl, rfl⟩
  rename_i entry rest hfound
  rw [hfound] at hsince ⊢
  -- on the entry's own date there is no date before
  have hfirst : tradedBefore zone (entry :: rest) (zone.date entry.time) = 0 := by
    rw [BracketWalk.tradedBefore_eq hzone hsince
      (show entry :: rest = [] ++ entry :: rest from rfl)]
    rfl
  unfold exitBar BracketWalk.enter at *
  rw [List.head?_cons, Option.any_some]
  by_cases hgap : levels.gapped entry = true
  · -- the open of the entry is beyond a level
    rw [if_pos hgap]
    unfold SetupLevels.gapped at hgap
    unfold BracketWalk.beyondStop BracketWalk.beyondTarget armTarget at h
    simp only [hlong, if_true] at h
    refine Or.inl ⟨entry, rfl, ?_⟩
    split at h
    · cases h
      exact ⟨(fun himmature => nomatch himmature), rfl, by rw [hfirst]; rfl⟩
    · rename_i hstop
      have htarget : levels.target ≤ entry.open_ := by
        rw [decide_eq_true_eq] at hstop
        simpa [hstop] using hgap
      rw [if_pos (by simpa using htarget)] at h
      cases h
      exact ⟨(fun himmature => nomatch himmature), rfl, by rw [hfirst]; rfl⟩
  · rw [if_neg hgap]
    unfold SetupLevels.gapped at hgap
    simp only [Bool.or_eq_true, decide_eq_true_eq, not_or] at hgap
    rw [if_neg (by simp [BracketWalk.beyondStop, hlong, hgap.1]),
      if_neg (by simp [BracketWalk.beyondTarget, armTarget, hlong, hgap.2])] at h
    have hplain : BracketWalk.Plain ⟨levels, entry, armTarget levels none, none, maxHoldSessions,
      cost⟩ := ⟨hlong, rfl, rfl, hhold⟩
    have hover := BracketWalk.walk_over hzone hsince hplain
      (BracketWalk.passed_start (by show 0 ≤ maxHoldSessions; omega))
      (show entry :: rest = [] ++ entry :: rest from rfl) h
    dsimp only at hover ⊢
    rcases hover with ⟨bar, hbar, hover⟩ | ⟨hnone, ⟨hlt, last, hlast, hover⟩ | ⟨hall, hopen⟩⟩
    · exact Or.inl ⟨bar, by rw [hbar, Option.some_or], hover⟩
    · refine Or.inl ⟨last, ?_, hover⟩
      rw [hnone, Option.none_or, if_pos hlt]
      exact hlast
    · refine Or.inr ⟨?_, hopen⟩
      rw [hnone, Option.none_or, if_neg hall]

end AgenticTrader
