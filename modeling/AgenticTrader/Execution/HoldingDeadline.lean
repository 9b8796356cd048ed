import AgenticTrader.Execution.LifetimePolicy
import AgenticTrader.Research.LabelLaws

/-!
# The live holding deadline and the study's timeout

The labeler counts the dates of the bars it walks and times a bracket out at the
last bar of its `N`-th date. The live policy counts the sessions of the market's
calendar from the fill and closes a position on the `N`-th. The two counts agree
(`timeout_on_deadline_session`): the dates a walk has seen when it times out are
the trading dates from the entry on, with none left out, as every trading day has
a bar; so the walk's last date is the calendar's `N`-th session.

The policy refuses to count more than sixty sessions, so a study of a longer
holding has no live deadline (`no_deadline_beyond_sixty_sessions`).
-/

namespace AgenticTrader

/-! ## What a walk has seen when it times out -/

namespace BracketWalk

variable {w : BracketWalk} {zone : Zone}

/-- **What the state of a walk says of the bars behind it**: their dates, each
once, and the last of them. -/
structure Behind (zone : Zone) (done : List HourlyBar) (s : WalkState) : Prop where
  nodup : s.dates.Nodup
  mem : ∀ date, date ∈ s.dates ↔ ∃ bar ∈ done, zone.date bar.time = date
  last : s.prev = done.getLast?

theorem behind_start : Behind zone [] w.start where
  nodup := List.nodup_nil
  mem date := by simp [start]
  last := rfl

theorem nodup_seen {bar : HourlyBar} {s : WalkState} (h : s.dates.Nodup) :
    (seen zone bar s).Nodup := by
  unfold seen
  split
  · exact h
  · rename_i hnew
    exact List.nodup_append.mpr ⟨h, List.nodup_singleton _, by
      intro a ha b hb hab
      rw [hab, List.mem_singleton.mp hb] at ha
      exact hnew ha⟩

theorem mem_seen {bar : HourlyBar} {s : WalkState} {date : ℤ} :
    date ∈ seen zone bar s ↔ date ∈ s.dates ∨ date = zone.date bar.time := by
  unfold seen
  split
  · rename_i hold
    refine ⟨Or.inl, ?_⟩
    rintro (h | rfl)
    · exact h
    · exact hold
  · rw [List.mem_append, List.mem_singleton]

/-- **A step that moves on** has one more bar behind it. -/
theorem Behind.step {done : List HourlyBar} {bar : HourlyBar} {s s' : WalkState}
    (h : Behind zone done s) (hstep : w.step zone bar s = .inr s') :
    Behind zone (done ++ [bar]) s' := by
  have hs' : s'.dates = seen zone bar s ∧ s'.prev = some bar := by
    unfold BracketWalk.step at hstep
    dsimp only at hstep
    split at hstep
    · split at hstep <;> cases hstep
    · split at hstep
      · cases hstep
      · split at hstep
        · cases hstep
        · cases hstep
          exact ⟨rfl, rfl⟩
  constructor
  · rw [hs'.1]
    exact nodup_seen h.nodup
  · intro date
    rw [hs'.1, mem_seen, h.mem]
    simp [or_and_right, exists_or, eq_comm]
  · rw [hs'.2, List.getLast?_concat]

/-- **What one step needs to time out**: a new date, when as many as the limit
were seen. -/
theorem step_timeout {bar : HourlyBar} {s : WalkState} {out : BracketOutcome}
    (hstep : w.step zone bar s = .inl (.ok out)) (htimeout : out.hit = .timeout) :
    zone.date bar.time ∉ s.dates ∧ (s.dates.length : ℤ) = w.maxHoldSessions
      ∧ ∃ prev, s.prev = some prev
        ∧ out = w.resolved .timeout prev.time prev.close w.maxHoldSessions s := by
  unfold step at hstep
  dsimp only at hstep
  split at hstep
  · rename_i hlast
    have hlength : (seen zone bar s).length = s.dates.length + 1 := by
      unfold seen
      rw [if_neg hlast.1, List.length_append, List.length_singleton]
    split at hstep
    · cases hstep
    · rename_i prev hprev
      cases hstep
      refine ⟨hlast.1, ?_, prev, hprev, rfl⟩
      have := hlast.2
      rw [hlength] at this
      push_cast at this
      omega
  · split at hstep
    · cases hstep
      cases htimeout
    · split at hstep
      · cases hstep
        cases htimeout
      · cases hstep

/-- **A timeout splits the bars**: those behind the walk, whose dates are as many
as the limit, and a first bar of another date. -/
theorem walk_timeout {done bars : List HourlyBar} {s : WalkState} {out : BracketOutcome}
    (hbehind : Behind zone done s) (h : w.walk zone bars s = .ok out)
    (htimeout : out.hit = .timeout) :
    ∃ (pre : List HourlyBar) (next : HourlyBar) (post : List HourlyBar) (s' : WalkState)
        (prev : HourlyBar), bars = pre ++ next :: post ∧ Behind zone (done ++ pre) s'
      ∧ zone.date next.time ∉ s'.dates ∧ (s'.dates.length : ℤ) = w.maxHoldSessions
      ∧ s'.prev = some prev
      ∧ out = w.resolved .timeout prev.time prev.close w.maxHoldSessions s' := by
  induction bars generalizing done s with
  | nil =>
    cases h
    cases htimeout
  | cons bar bars ih =>
    unfold walk at h
    cases hstep : w.step zone bar s with
    | inl outcome =>
      rw [hstep] at h
      dsimp only at h
      rw [h] at hstep
      obtain ⟨hnew, hlength, prev, hprev, hout⟩ := step_timeout hstep htimeout
      refine ⟨[], bar, bars, s, prev, rfl, ?_, hnew, hlength, hprev, hout⟩
      rw [List.append_nil]
      exact hbehind
    | inr next =>
      rw [hstep] at h
      obtain ⟨pre, next', post, s', prev, rfl, hbehind', hrest⟩ := ih (hbehind.step hstep) h
      refine ⟨bar :: pre, next', post, s', prev, rfl, ?_, hrest⟩
      rw [List.append_assoc] at hbehind'
      exact hbehind'

/-- The same of a bracket from its entry on. -/
theorem enter_timeout {bars : List HourlyBar} {out : BracketOutcome}
    (h : w.enter zone bars = .ok out) (htimeout : out.hit = .timeout) :
    ∃ (pre : List HourlyBar) (next : HourlyBar) (post : List HourlyBar) (s : WalkState)
        (prev : HourlyBar), bars = pre ++ next :: post ∧ Behind zone pre s
      ∧ zone.date next.time ∉ s.dates ∧ (s.dates.length : ℤ) = w.maxHoldSessions
      ∧ s.prev = some prev
      ∧ out = w.resolved .timeout prev.time prev.close w.maxHoldSessions s := by
  unfold enter at h
  split at h
  · cases h
    cases htimeout
  · split at h
    · cases h
      cases htimeout
    · exact walk_timeout behind_start h htimeout

end BracketWalk

/-! ## The calendar of a study -/

/-- The element a strictly sorted list has at the place its rank says. -/
theorem getElem?_countP_le {α : Type} (key : α → ℤ) {l : List α}
    (hsorted : l.Pairwise (fun a b => key a < key b)) {x : α} (hx : x ∈ l) :
    l[l.countP (fun a => key a ≤ key x) - 1]? = some x := by
  induction l with
  | nil => cases hx
  | cons a l ih =>
    obtain ⟨hfirst, hrest⟩ := List.pairwise_cons.mp hsorted
    rcases List.mem_cons.mp hx with rfl | hx
    · have hnone : l.countP (fun a => key a ≤ key x) = 0 := by
        rw [List.countP_eq_zero]
        intro b hb
        have := hfirst b hb
        simp only [decide_eq_true_eq]
        omega
      rw [List.countP_cons_of_pos (by simp), hnone]
      rfl
    · have hbelow : key a ≤ key x := (hfirst x hx).le
      have hsome : 0 < l.countP (fun a => key a ≤ key x) :=
        List.countP_pos_iff.mpr ⟨x, hx, by simp⟩
      rw [List.countP_cons_of_pos (by simpa using hbelow), Nat.add_sub_cancel,
        ← Nat.sub_add_cancel hsome, List.getElem?_cons_succ]
      exact ih hrest hx

/-- **A market calendar**: one entry for each date, and sessions that reach into
the regular hours, which start at nine. -/
structure MarketCalendar where
  days : List MarketCalendarDay
  distinct : (days.map (·.date)).Nodup
  reaches : ∀ session ∈ regularSessions days, 9 * Zone.hour ≤ session.closeTime.micros

/-- **The bars of a study on a calendar**: at least one regular-hours bar on each
trading day, and none on another day. -/
structure StudiedOn (zone : Zone) (calendar : MarketCalendar) (series : BarSeries) : Prop where
  covered : ∀ session ∈ regularSessions calendar.days,
    ∃ bar ∈ regularSessionBars zone series.bars, zone.date bar.time = session.date
  only : ∀ bar ∈ regularSessionBars zone series.bars,
    ∃ session ∈ regularSessions calendar.days, session.date = zone.date bar.time

theorem MarketCalendarDay.date_of_regular {day : MarketCalendarDay} {session : RegularSession}
    (h : day.regular? = some session) : session.date = day.date := by
  unfold regular? at h
  split at h
  · cases h
    rfl
  · cases h

namespace MarketCalendar

variable (calendar : MarketCalendar)

/-- The sessions of a calendar come in the strict order of their dates. -/
theorem sorted : (regularSessions calendar.days).Pairwise (fun a b => a.date < b.date) := by
  have hle : (regularSessions calendar.days).Pairwise (fun a b => a.date ≤ b.date) :=
    List.pairwise_insertionSort _ _
  have hne : (regularSessions calendar.days).Pairwise (fun a b => a.date ≠ b.date) := by
    have hdays : (calendar.days.filterMap MarketCalendarDay.regular?).Pairwise
        (fun a b => a.date ≠ b.date) := by
      refine List.Pairwise.filterMap _ ?_ (List.pairwise_map.mp calendar.distinct)
      intro day day' hdays session hsession session' hsession'
      rw [MarketCalendarDay.date_of_regular hsession, MarketCalendarDay.date_of_regular hsession']
      exact hdays
    exact hdays.perm (List.perm_insertionSort _ _).symm (fun h => h.symm)
  exact hle.imp₂ (fun a b hab hab' => lt_of_le_of_ne hab hab') hne

/-- A date has one session. -/
theorem eq_of_date {a b : RegularSession} (ha : a ∈ regularSessions calendar.days)
    (hb : b ∈ regularSessions calendar.days) (h : a.date = b.date) : a = b := by
  by_contra hne
  rcases List.pairwise_iff_getElem.mp calendar.sorted with hsorted
  obtain ⟨i, hi, rfl⟩ := List.getElem_of_mem ha
  obtain ⟨j, hj, rfl⟩ := List.getElem_of_mem hb
  rcases Nat.lt_trichotomy i j with hij | hij | hij
  · exact absurd h (hsorted i j hi hj hij).ne
  · subst hij
    exact hne rfl
  · exact absurd h (hsorted j i hj hi hij).ne'

/-- The session of a date is the one that is found. -/
theorem find?_date {session : RegularSession} (h : session ∈ regularSessions calendar.days) :
    (regularSessions calendar.days).find? (fun d => d.date = session.date) = some session := by
  cases hfind : (regularSessions calendar.days).find? (fun d => d.date = session.date) with
  | none => exact absurd (List.find?_eq_none.mp hfind session h) (by simp)
  | some found =>
    have hdate : found.date = session.date := by simpa using List.find?_some hfind
    rw [calendar.eq_of_date (List.mem_of_find?_eq_some hfind) h hdate]

end MarketCalendar

/-! ## The two counts -/

section Timeout

variable {zone : Zone} {calendar : MarketCalendar} {series : BarSeries} {decisionAt : Time}
  {entry prev next : HourlyBar} {rest pre post : List HourlyBar} {s : WalkState}

/-- **The dates a timed-out walk has seen** are the trading dates from the entry's
to the last bar's. -/
theorem mem_dates_iff (hforward : Monotone zone.date) (hstudy : StudiedOn zone calendar series)
    (hsince : series.since zone decisionAt = entry :: rest)
    (hsplit : entry :: rest = pre ++ next :: post) (hbehind : BracketWalk.Behind zone pre s)
    (hnew : zone.date next.time ∉ s.dates) (hprev : s.prev = some prev) (date : ℤ) :
    date ∈ s.dates ↔ (∃ session ∈ regularSessions calendar.days, session.date = date)
      ∧ zone.date entry.time ≤ date ∧ date ≤ zone.date prev.time := by
  have hsorted : (entry :: rest).Pairwise (fun a b => a.time < b.time) := by
    rw [← hsince]
    exact (series.sorted.filter _).filter _
  have hregular : ∀ bar ∈ entry :: rest, bar ∈ regularSessionBars zone series.bars := by
    intro bar hbar
    rw [← hsince] at hbar
    exact (List.mem_filter.mp hbar).1
  have hentry : ∀ bar ∈ entry :: rest, entry.time ≤ bar.time := by
    intro bar hbar
    rcases List.mem_cons.mp hbar with rfl | hbar
    · exact le_rfl
    · exact ((List.pairwise_cons.mp hsorted).1 bar hbar).le
  obtain ⟨init, hpre⟩ := List.getLast?_eq_some_iff.mp (hbehind.last.symm.trans hprev)
  have hlast : ∀ bar ∈ pre, bar.time ≤ prev.time := by
    rw [hsplit] at hsorted
    have hfront := (List.pairwise_append.mp hsorted).1
    rw [hpre] at hfront ⊢
    intro bar hbar
    rcases List.mem_append.mp hbar with hbar | hbar
    · exact ((List.pairwise_append.mp hfront).2.2 bar hbar prev (List.mem_singleton_self prev)).le
    · rw [List.mem_singleton.mp hbar]
  have hprevpre : prev ∈ pre := by
    rw [hpre]
    exact List.mem_append_right _ (List.mem_singleton_self prev)
  constructor
  · intro hdate
    obtain ⟨bar, hbar, rfl⟩ := (hbehind.mem date).mp hdate
    have hbar' : bar ∈ entry :: rest := by
      rw [hsplit]
      exact List.mem_append_left _ hbar
    exact ⟨hstudy.only bar (hregular bar hbar'), hforward (hentry bar hbar'),
      hforward (hlast bar hbar)⟩
  · rintro ⟨⟨session, hsession, rfl⟩, hfrom, hto⟩
    rcases hfrom.eq_or_lt with heq | hlt
    · -- the entry's own date
      refine (hbehind.mem session.date).mpr ⟨entry, ?_, heq⟩
      rw [hpre] at hsplit ⊢
      cases init with
      | nil =>
        rw [List.nil_append, List.singleton_append] at hsplit
        rw [(List.cons.inj hsplit).1]
        exact List.mem_singleton_self prev
      | cons first init =>
        rw [(List.cons.inj hsplit).1]
        exact List.mem_cons_self
    · -- a later date has a bar, which is neither before the entry nor after the last
      obtain ⟨bar, hbar, hdate⟩ := hstudy.covered session hsession
      have hafter : entry.time < bar.time := by
        by_contra hle
        have := hforward (not_lt.mp hle)
        omega
      have hdecided : decisionAt ≤ entry.time := by
        have hmem : entry ∈ series.since zone decisionAt := by
          rw [hsince]
          exact List.mem_cons_self
        exact of_decide_eq_true (List.mem_filter.mp hmem).2
      have hmem : bar ∈ pre ++ next :: post := by
        rw [← hsplit, ← hsince]
        exact List.mem_filter.mpr ⟨hbar, decide_eq_true (hdecided.trans hafter.le)⟩
      refine (hbehind.mem session.date).mpr ⟨bar, ?_, hdate⟩
      rcases List.mem_append.mp hmem with hpre' | hpost
      · exact hpre'
      · have hnextbar : next.time ≤ bar.time := by
          rw [hsplit] at hsorted
          have hback := (List.pairwise_append.mp hsorted).2.1
          rcases List.mem_cons.mp hpost with rfl | hpost
          · exact le_rfl
          · exact ((List.pairwise_cons.mp hback).1 bar hpost).le
        have hprevnext : prev.time < next.time := by
          rw [hsplit] at hsorted
          exact (List.pairwise_append.mp hsorted).2.2 prev hprevpre next List.mem_cons_self
        have hsame : zone.date next.time = zone.date prev.time := by
          have h1 := hforward hprevnext.le
          have h2 := hforward hnextbar
          omega
        rw [hsame] at hnew
        exact absurd ((hbehind.mem _).mpr ⟨prev, hprevpre, rfl⟩) hnew

/-- **The session at the place the walk has counted to** is the last bar's. -/
theorem held_at_count (hforward : Monotone zone.date) (hstudy : StudiedOn zone calendar series)
    (hsince : series.since zone decisionAt = entry :: rest)
    (hsplit : entry :: rest = pre ++ next :: post) (hbehind : BracketWalk.Behind zone pre s)
    (hnew : zone.date next.time ∉ s.dates) (hprev : s.prev = some prev) :
    ∃ last ∈ regularSessions calendar.days, last.date = zone.date prev.time
      ∧ ((regularSessions calendar.days).filter (fun d => zone.date entry.time ≤ d.date))[
          s.dates.length - 1]? = some last := by
  have hmem := mem_dates_iff hforward hstudy hsince hsplit hbehind hnew hprev
  have hprevpre : prev ∈ pre := by
    obtain ⟨init, rfl⟩ := List.getLast?_eq_some_iff.mp (hbehind.last.symm.trans hprev)
    exact List.mem_append_right _ (List.mem_singleton_self prev)
  obtain ⟨⟨last, hlast, hdate⟩, hfrom, -⟩ :=
    (hmem _).mp ((hbehind.mem (zone.date prev.time)).mpr ⟨prev, hprevpre, rfl⟩)
  refine ⟨last, hlast, hdate, ?_⟩
  let held := (regularSessions calendar.days).filter (fun d => zone.date entry.time ≤ d.date)
  have hsorted : held.Pairwise (fun a b => a.date < b.date) := calendar.sorted.filter _
  have hheld : last ∈ held :=
    List.mem_filter.mpr ⟨hlast, decide_eq_true (by rw [hdate]; exact hfrom)⟩
  have hcount : held.countP (fun d => d.date ≤ last.date) = s.dates.length := by
    rw [List.countP_eq_length_filter, ← List.length_map (fun d : RegularSession => d.date)]
    refine List.Perm.length_eq ((List.perm_ext_iff_of_nodup ?_ hbehind.nodup).mpr ?_)
    · refine List.pairwise_map.mpr ((hsorted.filter _).imp ?_)
      intro a b hab
      exact hab.ne
    · intro date
      rw [hmem, ← hdate]
      constructor
      · intro h
        obtain ⟨d, hd, rfl⟩ := List.mem_map.mp h
        obtain ⟨hd, hle⟩ := List.mem_filter.mp hd
        obtain ⟨hd, hge⟩ := List.mem_filter.mp hd
        exact ⟨⟨d, hd, rfl⟩, of_decide_eq_true hge, of_decide_eq_true hle⟩
      · rintro ⟨⟨d, hd, rfl⟩, hge, hle⟩
        exact List.mem_map.mpr ⟨d, List.mem_filter.mpr
          ⟨List.mem_filter.mpr ⟨hd, decide_eq_true hge⟩, decide_eq_true hle⟩, rfl⟩
  rw [← hcount]
  exact getElem?_countP_le (·.date) hsorted hheld

end Timeout

/-- An instant inside a regular session of a calendar. -/
def DuringSession (zone : Zone) (calendar : MarketCalendar) (t : Time) : Prop :=
  ∃ session ∈ regularSessions calendar.days,
    Zone.combine session.date session.openTime.micros ≤ zone.toLocal t
      ∧ zone.toLocal t ≤ Zone.combine session.date session.closeTime.micros

/-- The session an instant is inside of is the one of its date. -/
theorem date_of_during {zone : Zone} {session : RegularSession} {t : Time}
    (hopen : Zone.combine session.date session.openTime.micros ≤ zone.toLocal t)
    (hclose : zone.toLocal t ≤ Zone.combine session.date session.closeTime.micros) :
    session.date = zone.date t := by
  have hnonneg := session.openTime.nonneg
  have hlt := session.closeTime.lt_day
  unfold Zone.combine at hopen hclose
  unfold Zone.date
  unfold Zone.day at *
  omega

/-- The wall clock of a deadline on a session: within the steady hours of its
date, and before the close. -/
theorem deadline_clock {zone : Zone} (hzone : zone.Civil (4 * Zone.hour)) {session : RegularSession}
    (hreaches : 9 * Zone.hour ≤ session.closeTime.micros) (time : TimeOfDay)
    (htime : 4 * Zone.hour ≤ time.micros) :
    let deadline := zone.ofLocal (min (Zone.combine session.date time.micros)
      (Zone.combine session.date session.closeTime.micros - sessionCloseBuffer))
    zone.date deadline = session.date
      ∧ deadline < zone.ofLocal (Zone.combine session.date session.closeTime.micros) := by
  have hclock : min (Zone.combine session.date time.micros)
        (Zone.combine session.date session.closeTime.micros - sessionCloseBuffer)
      = Zone.combine session.date
        (min time.micros (session.closeTime.micros - sessionCloseBuffer)) := by
    unfold Zone.combine
    rw [add_sub_assoc, min_add_add_left]
  have hbuffer : sessionCloseBuffer = 900000000 := rfl
  have hlow : 4 * Zone.hour ≤ min time.micros (session.closeTime.micros - sessionCloseBuffer) := by
    unfold Zone.hour at *
    omega
  have hhigh : min time.micros (session.closeTime.micros - sessionCloseBuffer)
      < session.closeTime.micros := by omega
  intro deadline
  refine ⟨?_, ?_⟩
  · show zone.date (zone.ofLocal _) = _
    rw [hclock]
    exact hzone.steady.date_ofLocal (by decide) hlow (hhigh.trans session.closeTime.lt_day)
  · show zone.ofLocal _ < _
    rw [hclock]
    exact hzone.steady.ofLocal_lt hlow hhigh session.closeTime.lt_day

/-- A session policy of bounded seconds, one to sixty sessions and a clock can be
built. -/
theorem build_session {restingSeconds holdingSessions : ℕ} {closeTimeEt : String} {time : TimeOfDay}
    (hresting : LifetimePolicy.boundedSeconds restingSeconds) (hone : 1 ≤ holdingSessions)
    (hsixty : holdingSessions ≤ 60) (hclock : clock closeTimeEt = some time) :
    (LifetimePolicy.session restingSeconds holdingSessions closeTimeEt).build
      = .ok (.session restingSeconds holdingSessions closeTimeEt) := by
  have hsessions : 1 ≤ holdingSessions ∧ holdingSessions ≤ maxHoldingSessions := ⟨hone, hsixty⟩
  unfold LifetimePolicy.build LifetimePolicy.refusal?
  simp [hresting, hsessions, hclock]

/-- **The deadline of a session policy** whose fill is inside a session and whose
last session the calendar has. -/
theorem sessionDeadline_eq_ok {zone : Zone} {calendar : MarketCalendar} {filledAt : Time}
    {first last : RegularSession} {holdingSessions : ℕ} {closeTimeEt : TimeOfDay}
    (hfirst : first ∈ regularSessions calendar.days)
    (hopen : Zone.combine first.date first.openTime.micros ≤ zone.toLocal filledAt)
    (hclose : zone.toLocal filledAt ≤ Zone.combine first.date first.closeTime.micros)
    (hheld : ((regularSessions calendar.days).filter (fun d => zone.date filledAt ≤ d.date))[
      holdingSessions - 1]? = some last) :
    LifetimePolicy.sessionDeadline zone holdingSessions closeTimeEt filledAt calendar.days
      = .ok (zone.ofLocal (min (Zone.combine last.date closeTimeEt.micros)
          (Zone.combine last.date last.closeTime.micros - sessionCloseBuffer))) := by
  have hdate : first.date = zone.date filledAt := date_of_during hopen hclose
  have hfind := calendar.find?_date hfirst
  have hgrace : zone.toLocal filledAt
      ≤ Zone.combine first.date first.closeTime.micros + sessionFillGrace :=
    hclose.trans (le_add_of_nonneg_right (by decide))
  rw [← hdate] at hheld
  rw [hdate] at hfind
  unfold LifetimePolicy.sessionDeadline
  simp only [hfind, if_pos (And.intro hopen hgrace), hheld]

/-- **The live holding deadline falls on the session the study's timeout exits.**
For a holding of one to sixty sessions, whose policy can be built. -/
theorem timeout_on_deadline_session {zone : Zone} (hzone : zone.Civil (4 * Zone.hour))
    (calendar : MarketCalendar) (series : BarSeries) (hstudy : StudiedOn zone calendar series)
    (levels : SetupLevels) (decisionAt : Time) (costBpsPerSide : ℚ) (arm : Option BracketArm)
    (restingSeconds holdingSessions : ℕ) (hresting : LifetimePolicy.boundedSeconds restingSeconds)
    (hone : 1 ≤ holdingSessions) (hsixty : holdingSessions ≤ 60) (out : BracketOutcome)
    (hlabel : labelBracket zone levels decisionAt series.bars holdingSessions costBpsPerSide arm
      = .ok out)
    (htimeout : out.hit = .timeout) (entered : Time) (hentered : out.entryTime = some entered)
    (hinside : DuringSession zone calendar entered) :
    ∃ (policy : LifetimePolicy) (exit deadline : Time) (last : RegularSession),
      (LifetimePolicy.session restingSeconds holdingSessions "15:45").build = .ok policy
      ∧ out.exitTime = some exit
      ∧ policy.holdingDeadline zone entered (some calendar.days) = some (.ok (some deadline))
      ∧ zone.date deadline = zone.date exit
      ∧ last ∈ regularSessions calendar.days ∧ last.date = zone.date exit
      ∧ deadline < zone.ofLocal (Zone.combine last.date last.closeTime.micros) := by
  rw [labelBracket_since] at hlabel
  cases hsince : series.since zone decisionAt with
  | nil =>
    rw [hsince] at hlabel
    cases hlabel
    cases htimeout
  | cons entry rest =>
    rw [hsince] at hlabel
    obtain ⟨pre, next, post, s, prev, hsplit, hbehind, hnew, hlength, hprev, rfl⟩ :=
      BracketWalk.enter_timeout hlabel htimeout
    cases hentered
    obtain ⟨last, hlast, hdate, hheld⟩ :=
      held_at_count hzone.forward hstudy hsince hsplit hbehind hnew hprev
    rw [Nat.cast_inj.mp hlength] at hheld
    obtain ⟨first, hfirst, hopen, hclose⟩ := hinside
    let time : TimeOfDay := ⟨15 * Zone.hour + 45 * Zone.minute, by decide, by decide⟩
    have hclock : clock "15:45" = some time := by decide +kernel
    have hdeadline : LifetimePolicy.sessionDeadline zone holdingSessions time entry.time
        calendar.days = .ok _ := sessionDeadline_eq_ok hfirst hopen hclose hheld
    have hon := deadline_clock hzone (calendar.reaches last hlast) time (by decide)
    refine ⟨.session restingSeconds holdingSessions "15:45", prev.time, _, last,
      build_session hresting hone hsixty hclock, rfl, ?_, hon.1.trans hdate, hlast, hdate, hon.2⟩
    unfold LifetimePolicy.holdingDeadline
    simp only [hclock, Option.map_some, hdeadline]
    rfl

/-! ## A flat market, day after day -/

/-- New York's winter clock. -/
def winterZone : Zone := ⟨(· - 5 * Zone.hour), (· + 5 * Zone.hour)⟩

theorem winterZone_civil : winterZone.Civil (4 * Zone.hour) where
  steady date := by
    refine ⟨-(5 * Zone.hour), fun time _ _ => ?_⟩
    simp [winterZone]
  forward t t' h := by
    show (t - 5 * Zone.hour) / Zone.day ≤ (t' - 5 * Zone.hour) / Zone.day
    exact Int.ediv_le_ediv Zone.day_pos (by omega)

/-- A run of trading days from half past nine to four. -/
def flatDays (days : ℕ) : List MarketCalendarDay :=
  (List.range days).map (fun date => ⟨date, true, some ⟨34200000000, by decide, by decide⟩,
    some ⟨57600000000, by decide, by decide⟩⟩)

/-- A bar at ten on each of them, at one price. -/
def flatBars (days : ℕ) : List HourlyBar :=
  (List.range days).map (fun date => ⟨date * Zone.day + 15 * Zone.hour, 100, 100, 100, 100⟩)

/-- A long bracket around that price. -/
def flatLevels : SetupLevels := ⟨.long, 100, 99, 103, by decide +kernel⟩

/-- The bracket is held for two sessions, and the live position too. -/
theorem timeout_on_deadline_session_flat :
    ∃ (policy : LifetimePolicy) (deadline : Time),
      (LifetimePolicy.session 57600 2 "15:45").build = .ok policy
      ∧ policy.holdingDeadline winterZone (15 * Zone.hour) (some (flatDays 3))
        = some (.ok (some deadline))
      ∧ winterZone.date deadline = 1 := by
  obtain ⟨policy, exit, deadline, last, hbuilt, hexit, hdeadline, hdate, -⟩ :=
    timeout_on_deadline_session winterZone_civil
      ⟨flatDays 3, by decide +kernel, by decide +kernel⟩ ⟨flatBars 3, by decide +kernel⟩
      ⟨by decide +kernel, by decide +kernel⟩ flatLevels 0 0 none 57600 2 (by decide) (by decide)
      (by decide)
      ⟨.timeout, some (15 * Zone.hour), some 100, some (Zone.day + 15 * Zone.hour), some 100,
        some 0, some 0, 2, some 99, 0⟩
      (by decide +kernel) rfl (15 * Zone.hour) rfl
      ⟨⟨0, ⟨34200000000, by decide, by decide⟩, ⟨57600000000, by decide, by decide⟩⟩,
        by decide +kernel, by decide +kernel, by decide +kernel⟩
  refine ⟨policy, deadline, hbuilt, hdeadline, ?_⟩
  cases hexit
  rw [hdate]
  decide +kernel

/-- **No live deadline beyond sixty sessions**: the study times out after its
sixty-first session, and a policy that counts so many cannot be built. -/
theorem no_deadline_beyond_sixty_sessions :
    ∃ (calendar : MarketCalendar) (series : BarSeries) (out : BracketOutcome) (entered : Time),
      StudiedOn winterZone calendar series
      ∧ labelBracket winterZone flatLevels 0 series.bars 61 0 none = .ok out
      ∧ out.hit = .timeout ∧ out.entryTime = some entered
      ∧ DuringSession winterZone calendar entered
      ∧ ∀ restingSeconds policy,
        (LifetimePolicy.session restingSeconds 61 "15:45").build ≠ .ok policy := by
  refine ⟨⟨flatDays 62, by decide +kernel, by decide +kernel⟩, ⟨flatBars 62, by decide +kernel⟩,
    ⟨.timeout, some (15 * Zone.hour), some 100, some (60 * Zone.day + 15 * Zone.hour), some 100,
      some 0, some 0, 61, some 99, 0⟩, 15 * Zone.hour, ⟨by decide +kernel, by decide +kernel⟩,
    by decide +kernel, rfl, rfl, ?_, ?_⟩
  · exact ⟨⟨0, ⟨34200000000, by decide, by decide⟩, ⟨57600000000, by decide, by decide⟩⟩,
      by decide +kernel, by decide +kernel, by decide +kernel⟩
  · intro restingSeconds policy
    unfold LifetimePolicy.build LifetimePolicy.refusal?
    cases hresting : LifetimePolicy.boundedSeconds restingSeconds <;>
      simp [hresting, maxHoldingSessions]

end AgenticTrader
