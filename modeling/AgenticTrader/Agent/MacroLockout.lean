import AgenticTrader.Agent.MacroCalendar

/-!
# The lockout fails safe, but for the ends of time

A verified static event locks out whatever the feed says, because the feed can only add to the
candidates; and a live event that is dropped as one of the static ones is so close to it that
its window, narrowed by the tolerance, lies in the window of the static one. What the feed adds
it adds item by item, so more items lock out more.

Dates end with the years 1 and 9999, and two kinds of item run into that. A date that reads as an
instant and has no date in New York raises outside the reading that would count it as unreadable,
and the read fails (`Converts`). A release close to an end has a window that leaves the dates,
and the check itself raises when it reaches it (`Dated`).
-/

namespace AgenticTrader

open Checks

/-! ## The feed -/

namespace FeedReader

variable {reader : FeedReader} {item : Option FeedItem} {items items' : List (Option FeedItem)}
  {now : Time}

/-- **An item that the loop gets past**: its instant, if it has one, is a date in UTC and in New
York. -/
def Converts (reader : FeedReader) (item : Option FeedItem) : Prop :=
  ∀ at_, reader.feedInstant item = some at_ →
    isDate (at_.reading - at_.utcOffset) = true
      ∧ isDate (reader.newYork.toLocal (at_.reading - at_.utcOffset)) = true

/-- The events an item adds. -/
def itemEvents (reader : FeedReader) (item : Option FeedItem) : List MacroEvent :=
  match item, reader.feedInstant item with
  | some fields, some at_ => (reader.eventOf fields (at_.reading - at_.utcOffset)).toList
  | _, _ => []

/-- The dates an item adds. -/
def itemDates (reader : FeedReader) (item : Option FeedItem) : List ℤ :=
  match item, reader.feedInstant item with
  | some _, some at_ => [reader.newYork.date (at_.reading - at_.utcOffset)]
  | _, _ => []

theorem parseItem_unread (h : reader.feedInstant item = none) (parsed : ParsedItems) :
    reader.parseItem parsed item = .ok { parsed with unparsed := parsed.unparsed + 1 } := by
  unfold parseItem
  rw [h]
  cases item <;> rfl

theorem toUtc_eq_ok {at_ : AwareTime} {instant : Time} :
    toUtc at_ = .ok instant
      ↔ isDate (at_.reading - at_.utcOffset) = true ∧ at_.reading - at_.utcOffset = instant := by
  unfold toUtc
  rw [refuse_bind_eq_ok, Bool.not_eq_false']
  exact and_congr_right (fun _ => ⟨Except.ok.inj, congrArg Except.ok⟩)

theorem toNewYorkDate_eq_ok {at_ : AwareTime} {date : ℤ} :
    reader.toNewYorkDate at_ = .ok date
      ↔ isDate (at_.reading - at_.utcOffset) = true
        ∧ isDate (reader.newYork.toLocal (at_.reading - at_.utcOffset)) = true
        ∧ reader.newYork.date (at_.reading - at_.utcOffset) = date := by
  unfold toNewYorkDate
  rw [except_bind_eq_ok]
  constructor
  · rintro ⟨instant, hinstant, h⟩
    obtain ⟨hutc, rfl⟩ := toUtc_eq_ok.mp hinstant
    obtain ⟨hlocal, h⟩ := refuse_bind_eq_ok.mp h
    exact ⟨hutc, (Bool.not_eq_false' _).mp hlocal, Except.ok.inj h⟩
  · rintro ⟨hutc, hlocal, rfl⟩
    exact ⟨_, toUtc_eq_ok.mpr ⟨hutc, rfl⟩,
      refuse_bind_eq_ok.mpr ⟨(Bool.not_eq_false' _).mpr hlocal, rfl⟩⟩

/-- **One item**: it raises exactly when it does not convert, and adds its own events and
dates. -/
theorem parseItem_spec (item : Option FeedItem) (parsed : ParsedItems) :
    (reader.Converts item → ∃ parsed', reader.parseItem parsed item = .ok parsed')
      ∧ ∀ parsed', reader.parseItem parsed item = .ok parsed' →
        reader.Converts item ∧ parsed'.events = parsed.events ++ reader.itemEvents item
          ∧ parsed'.dates = parsed.dates ++ reader.itemDates item := by
  unfold Converts itemEvents itemDates
  cases hat : reader.feedInstant item with
  | none =>
    -- an item without a readable instant is only counted
    rw [parseItem_unread hat]
    refine ⟨fun _ => ⟨_, rfl⟩, fun parsed' h => ?_⟩
    cases h
    refine ⟨nofun, ?_, ?_⟩
    all_goals
      cases item <;> exact (List.append_nil _).symm
  | some at_ =>
    cases item with
    | none => cases hat
    | some fields =>
      unfold parseItem
      rw [hat]
      dsimp only
      constructor
      · intro h
        -- both `astimezone` calls are made before anything is added
        obtain ⟨hutc, hlocal⟩ := h at_ rfl
        exact ⟨_, except_bind_eq_ok.mpr ⟨_, toNewYorkDate_eq_ok.mpr ⟨hutc, hlocal, rfl⟩,
          except_bind_eq_ok.mpr ⟨_, toUtc_eq_ok.mpr ⟨hutc, rfl⟩, rfl⟩⟩⟩
      · intro parsed' h
        obtain ⟨date, hdate, h⟩ := except_bind_eq_ok.mp h
        obtain ⟨timestamp, htimestamp, h⟩ := except_bind_eq_ok.mp h
        obtain ⟨hutc, hlocal, rfl⟩ := toNewYorkDate_eq_ok.mp hdate
        obtain ⟨-, rfl⟩ := toUtc_eq_ok.mp htimestamp
        cases h
        refine ⟨fun at' hat' => ?_, rfl, rfl⟩
        cases hat'
        exact ⟨hutc, hlocal⟩

/-- **The loop over the items** returns when they all convert, with the events and the dates of
each. -/
theorem parseItems_loop (items : List (Option FeedItem)) (parsed : ParsedItems) :
    ((∀ item ∈ items, reader.Converts item) →
        ∃ parsed', items.foldlM reader.parseItem parsed = .ok parsed')
      ∧ ∀ parsed', items.foldlM reader.parseItem parsed = .ok parsed' →
        (∀ item ∈ items, reader.Converts item)
          ∧ parsed'.events = parsed.events ++ items.flatMap reader.itemEvents
          ∧ parsed'.dates = parsed.dates ++ items.flatMap reader.itemDates := by
  induction items generalizing parsed with
  | nil =>
    refine ⟨fun _ => ⟨parsed, rfl⟩, fun parsed' h => ?_⟩
    cases h
    exact ⟨nofun, (List.append_nil _).symm, (List.append_nil _).symm⟩
  | cons item items ih =>
    obtain ⟨hread, hspec⟩ := reader.parseItem_spec item parsed
    rw [List.foldlM_cons]
    constructor
    · intro h
      obtain ⟨hitem, hitems⟩ := List.forall_mem_cons.mp h
      obtain ⟨first, hfirst⟩ := hread hitem
      obtain ⟨parsed', hrest⟩ := (ih first).1 hitems
      exact ⟨parsed', except_bind_eq_ok.mpr ⟨first, hfirst, hrest⟩⟩
    · intro parsed' h
      obtain ⟨first, hfirst, hrest⟩ := except_bind_eq_ok.mp h
      obtain ⟨hitem, hevents, hdates⟩ := hspec first hfirst
      obtain ⟨hitems, hevents', hdates'⟩ := (ih first).2 parsed' hrest
      refine ⟨List.forall_mem_cons.mpr ⟨hitem, hitems⟩, ?_, ?_⟩
      · rw [hevents', hevents, List.flatMap_cons, List.append_assoc]
      · rw [hdates', hdates, List.flatMap_cons, List.append_assoc]

theorem parseItems_of_loop (now : Time) {parsed : ParsedItems}
    (h : items.foldlM reader.parseItem ⟨[], [], 0⟩ = .ok parsed) :
    ∃ fetch, reader.parseItems items now = .ok fetch ∧ fetch.status = .ok
      ∧ fetch.events = parsed.events ∧ (fetch.coverage = none ↔ parsed.dates = []) := by
  refine ⟨_, except_bind_eq_ok.mpr ⟨parsed, h, rfl⟩, rfl, rfl, ?_⟩
  cases hdates : parsed.dates with
  | nil => exact ⟨fun _ => rfl, fun _ => rfl⟩
  | cons date dates => exact ⟨nofun, nofun⟩

/-- **A download** is a failed read without events, or has the events of its items. -/
theorem download_cases (reader : FeedReader) (now : Time) (items : List (Option FeedItem)) :
    (reader.download now (.payload items)).status = .failed
        ∧ (reader.download now (.payload items)).events = []
        ∧ ¬((∀ item ∈ items, reader.Converts item) ∧ items.flatMap reader.itemDates ≠ [])
      ∨ (reader.download now (.payload items)).status = .ok
        ∧ (reader.download now (.payload items)).events = items.flatMap reader.itemEvents
        ∧ (∀ item ∈ items, reader.Converts item) ∧ items.flatMap reader.itemDates ≠ [] := by
  obtain ⟨hread, hspec⟩ := reader.parseItems_loop items ⟨[], [], 0⟩
  unfold download
  dsimp only
  split
  · next fetch hfetch =>
    obtain ⟨-, hfetch⟩ := refuse_bind_eq_ok.mp hfetch
    obtain ⟨fetch', hparse, hfetch⟩ := except_bind_eq_ok.mp hfetch
    obtain ⟨hcoverage, hfetch⟩ := refuse_bind_eq_ok.mp hfetch
    cases hfetch
    obtain ⟨parsed, hloop, -⟩ := except_bind_eq_ok.mp hparse
    obtain ⟨fetch'', hparse', hstatus, hevents, hnone⟩ := reader.parseItems_of_loop now hloop
    cases hparse.symm.trans hparse'
    obtain ⟨hconverts, hitems, hdates⟩ := hspec parsed hloop
    refine .inr ⟨hstatus, hevents.trans (hitems.trans (List.nil_append _)), hconverts, ?_⟩
    intro hempty
    rw [hnone.mpr (hdates.trans ((List.nil_append _).trans hempty))] at hcoverage
    cases hcoverage
  · next error hfetch =>
    refine .inl ⟨rfl, rfl, ?_⟩
    rintro ⟨hconverts, hdates⟩
    obtain ⟨parsed, hloop⟩ := hread hconverts
    obtain ⟨-, -, hparsed⟩ := hspec parsed hloop
    obtain ⟨fetch, hparse, -, -, hnone⟩ := reader.parseItems_of_loop now hloop
    have hitems : items.isEmpty = false := by
      cases items with
      | nil => exact absurd rfl hdates
      | cons item items => rfl
    have hcoverage : fetch.coverage.isNone = false := by
      rw [Option.isNone_eq_false_iff, ← Option.ne_none_iff_isSome]
      intro hempty
      exact hdates ((List.nil_append _).symm.trans (hparsed.symm.trans (hnone.mp hempty)))
    have hok : (do
        refuse items.isEmpty "UnexpectedPayload"
        let fetch ← reader.parseItems items now
        refuse fetch.coverage.isNone "UnexpectedPayload"
        pure fetch) = Except.ok fetch :=
      refuse_bind_eq_ok.mpr ⟨hitems, except_bind_eq_ok.mpr ⟨fetch, hparse,
        refuse_bind_eq_ok.mpr ⟨hcoverage, rfl⟩⟩⟩
    cases hok.symm.trans hfetch

end FeedReader

/-! ## The lockout -/

section Lockout

variable {union : UnionTier1Calendar} {limits : MacroLimits} {now : Time} {live : CalendarFetch}
  {state : StaticCalendarState} {s lv e : MacroEvent}

/-- An event in whose window the present lies. -/
def LocksOut (limits : MacroLimits) (now : Time) (e : MacroEvent) : Prop :=
  e.timestamp - limits.lockoutPreMinutes * Zone.minute ≤ now
    ∧ now ≤ e.timestamp + limits.lockoutPostMinutes * Zone.minute

/-- **A window within the dates**: its beginning is one, and so is its end where that is
computed. -/
def WindowDated (limits : MacroLimits) (now : Time) (e : MacroEvent) : Prop :=
  FeedReader.isDate (e.timestamp - limits.lockoutPreMinutes * Zone.minute) = true
    ∧ (e.timestamp - limits.lockoutPreMinutes * Zone.minute ≤ now →
      FeedReader.isDate (e.timestamp + limits.lockoutPostMinutes * Zone.minute) = true)

theorem dateOf_eq_ok {reading instant : ℤ} :
    dateOf reading = .ok instant ↔ FeedReader.isDate reading = true ∧ reading = instant := by
  unfold dateOf
  rw [refuse_bind_eq_ok, Bool.not_eq_false']
  exact and_congr_right (fun _ => ⟨Except.ok.inj, congrArg Except.ok⟩)

/-- **The test of a window** returns within the dates. -/
theorem inLockoutWindow_eq_ok {inside : Bool} :
    inLockoutWindow now e.timestamp limits.lockoutPreMinutes limits.lockoutPostMinutes = .ok inside
      ↔ WindowDated limits now e ∧ (inside = true ↔ LocksOut limits now e) := by
  unfold inLockoutWindow WindowDated LocksOut
  rw [except_bind_eq_ok]
  -- the chained comparison adds `post` only once the window has opened
  by_cases hopens : e.timestamp - limits.lockoutPreMinutes * Zone.minute ≤ now
  · constructor
    · rintro ⟨opens, hdateOf, h⟩
      obtain ⟨hdate, rfl⟩ := dateOf_eq_ok.mp hdateOf
      rw [if_pos hopens] at h
      obtain ⟨closes, hdateOf', h⟩ := except_bind_eq_ok.mp h
      obtain ⟨hcloses, rfl⟩ := dateOf_eq_ok.mp hdateOf'
      cases h
      exact ⟨⟨hdate, fun _ => hcloses⟩, by simp [hopens]⟩
    · rintro ⟨⟨hdate, hcloses⟩, hinside⟩
      refine ⟨_, dateOf_eq_ok.mpr ⟨hdate, rfl⟩, ?_⟩
      rw [if_pos hopens]
      refine except_bind_eq_ok.mpr ⟨_, dateOf_eq_ok.mpr ⟨hcloses hopens, rfl⟩, ?_⟩
      refine congrArg Except.ok (Bool.eq_iff_iff.mpr ?_)
      rw [hinside, decide_eq_true_eq]
      exact ⟨fun h => ⟨hopens, h⟩, fun h => h.2⟩
  · constructor
    · rintro ⟨opens, hdateOf, h⟩
      obtain ⟨hdate, rfl⟩ := dateOf_eq_ok.mp hdateOf
      rw [if_neg hopens] at h
      cases h
      exact ⟨⟨hdate, fun h => absurd h hopens⟩, by simp [hopens]⟩
    · rintro ⟨⟨hdate, -⟩, hinside⟩
      refine ⟨_, dateOf_eq_ok.mpr ⟨hdate, rfl⟩, ?_⟩
      rw [if_neg hopens]
      refine congrArg Except.ok (Bool.eq_iff_iff.mpr ?_)
      rw [hinside]
      exact ⟨fun h => absurd h Bool.false_ne_true, fun h => absurd h.1 hopens⟩

theorem inLockoutWindow_eq_true
    (h : inLockoutWindow now e.timestamp limits.lockoutPreMinutes limits.lockoutPostMinutes
      = .ok true) : LocksOut limits now e :=
  (inLockoutWindow_eq_ok.mp h).2.mp rfl

theorem inLockoutWindow_eq_false
    (h : inLockoutWindow now e.timestamp limits.lockoutPreMinutes limits.lockoutPostMinutes
      = .ok false) : ¬LocksOut limits now e :=
  fun hlocks => Bool.false_ne_true ((inLockoutWindow_eq_ok.mp h).2.mpr hlocks)

theorem inLockoutWindow_returns :
    (∃ inside, inLockoutWindow now e.timestamp limits.lockoutPreMinutes limits.lockoutPostMinutes
      = .ok inside) ↔ WindowDated limits now e := by
  classical
  refine ⟨fun ⟨inside, h⟩ => (inLockoutWindow_eq_ok.mp h).1, fun h => ?_⟩
  exact ⟨decide (LocksOut limits now e), inLockoutWindow_eq_ok.mpr ⟨h, decide_eq_true_iff⟩⟩

theorem mem_liveTier1 : lv ∈ UnionTier1Calendar.liveTier1 live
    ↔ live.status = .ok ∧ lv ∈ live.events ∧ lv.kind.isSome = true := by
  unfold UnionTier1Calendar.liveTier1
  split_ifs with hstatus
  · rw [List.mem_mergeSort, List.mem_filter]
    exact ⟨fun h => ⟨hstatus, h⟩, fun h => h.2⟩
  · exact ⟨nofun, fun h => absurd h.1 hstatus⟩

/-- **A live event that is none of the static ones.** -/
theorem mem_liveOnly : lv ∈ union.liveOnly state live
    ↔ (live.status = .ok ∧ lv ∈ live.events ∧ lv.kind.isSome = true)
      ∧ ∀ s ∈ union.staticEvents state, sameRelease s lv = false := by
  unfold UnionTier1Calendar.liveOnly
  rw [List.mem_filter, mem_liveTier1, Bool.not_eq_true', List.any_eq_false]
  simp only [Bool.not_eq_true]

theorem mem_candidates : (∃ c ∈ union.candidates state live, c.1 = e)
    ↔ e ∈ union.staticEvents state ∨ e ∈ union.liveOnly state live := by
  constructor
  · rintro ⟨c, hc, rfl⟩
    rcases List.mem_append.mp hc with h | h
    · obtain ⟨s, hs, rfl⟩ := List.mem_map.mp h
      exact .inl hs
    · obtain ⟨lv, hlv, rfl⟩ := List.mem_map.mp h
      exact .inr hlv
  · rintro (h | h)
    · exact ⟨_, List.mem_append_left _ (List.mem_map_of_mem h), rfl⟩
    · exact ⟨_, List.mem_append_right _ (List.mem_map_of_mem h), rfl⟩

/-- **The tolerance**: what is well inside the window of a release is inside that of the same
release. -/
theorem locksOut_of_sameRelease (hsame : sameRelease s lv = true)
    (hearly : lv.timestamp - limits.lockoutPreMinutes * Zone.minute + matchTolerance ≤ now)
    (hlate : now + matchTolerance ≤ lv.timestamp + limits.lockoutPostMinutes * Zone.minute) :
    LocksOut limits now s := by
  unfold sameRelease at hsame
  rw [Bool.and_eq_true, decide_eq_true_eq, decide_eq_true_eq, abs_le] at hsame
  obtain ⟨-, hlow, hhigh⟩ := hsame
  exact ⟨by linarith, by linarith⟩

theorem locksOut_of_inside
    (hearly : lv.timestamp - limits.lockoutPreMinutes * Zone.minute + matchTolerance ≤ now)
    (hlate : now + matchTolerance ≤ lv.timestamp + limits.lockoutPostMinutes * Zone.minute) :
    LocksOut limits now lv := by
  have htolerance : 0 ≤ matchTolerance := by decide
  exact ⟨by linarith, by linarith⟩

end Lockout

/-! ## The check -/

namespace UnionTier1Calendar

variable {union : UnionTier1Calendar} {limits : MacroLimits} {now : Time} {live : CalendarFetch}
  {state : StaticCalendarState} {check : CalendarCheck}

/-- The check with the windows of the limits. -/
def checkUnder (union : UnionTier1Calendar) (limits : MacroLimits) (now : Time)
    (live : CalendarFetch) : Except String CalendarCheck :=
  union.check live now limits.lockoutPreMinutes limits.lockoutPostMinutes

/-- **The windows that the check reaches are within the dates**: those of the candidates up to
the first that locks out. -/
def WindowsDated (union : UnionTier1Calendar) (state : StaticCalendarState) (limits : MacroLimits)
    (now : Time) (live : CalendarFetch) : Prop :=
  ∀ before c after, union.candidates state live = before ++ c :: after →
    (∀ b ∈ before, ¬LocksOut limits now b.1) → WindowDated limits now c.1

/-- The static events that are compared with the feed's coverage have dates in New York. -/
def ComparedDated (union : UnionTier1Calendar) (state : StaticCalendarState)
    (live : CalendarFetch) : Prop :=
  live.coverage.isSome → state.status = .ok → live.status = .ok →
    ∀ s ∈ union.staticEvents state, s.kind.isSome → isMatched live s = false →
      FeedReader.isDate s.timestamp = true
        ∧ FeedReader.isDate (union.reader.newYork.toLocal s.timestamp) = true

/-- **Every date that the check computes is one.** -/
def Dated (union : UnionTier1Calendar) (limits : MacroLimits) (now : Time)
    (live : CalendarFetch) : Prop :=
  ∃ state, union.static.state union.reader now = .ok state
    ∧ union.WindowsDated state limits now live
    ∧ FeedReader.isDate (now + upcomingWindow) = true
    ∧ union.ComparedDated state live

/-- A candidate of the check in whose window the present lies. -/
def EventLocks (union : UnionTier1Calendar) (limits : MacroLimits) (now : Time)
    (live : CalendarFetch) : Prop :=
  ∃ state, union.static.state union.reader now = .ok state
    ∧ ((∃ s ∈ union.staticEvents state, LocksOut limits now s)
      ∨ ∃ lv ∈ union.liveOnly state live, LocksOut limits now lv)

/-- The policy is closed and the calendar is not verified. -/
def Unverified (union : UnionTier1Calendar) (limits : MacroLimits) (now : Time) : Prop :=
  limits.macroCalendarUnknown = .closed
    ∧ ∃ state, union.static.state union.reader now = .ok state ∧ state.status ≠ .ok

/-- The check returns and reports a lockout. -/
def LockedOut (union : UnionTier1Calendar) (limits : MacroLimits) (now : Time)
    (live : CalendarFetch) : Prop :=
  ∃ check, union.checkUnder limits now live = .ok check ∧ check.lockout.isSome = true

/-- The check returns and its rejection refuses. -/
def Refused (union : UnionTier1Calendar) (limits : MacroLimits) (now : Time)
    (live : CalendarFetch) : Prop :=
  ∃ check rejection, union.checkUnder limits now live = .ok check
    ∧ check.lockoutRejection limits = .ok (some rejection)

theorem staticOnly_returns (coverage : ℤ × ℤ) {s : MacroEvent} :
    (∃ found, union.staticOnly live coverage s = .ok found)
      ↔ (s.kind.isSome → isMatched live s = false → FeedReader.isDate s.timestamp = true
        ∧ FeedReader.isDate (union.reader.newYork.toLocal s.timestamp) = true) := by
  unfold staticOnly
  cases s.kind with
  | none => exact ⟨fun _ => nofun, fun _ => ⟨none, rfl⟩⟩
  | some kind =>
    cases isMatched live s with
    | true => exact ⟨fun _ _ => nofun, fun _ => ⟨none, rfl⟩⟩
    | false =>
      simp only [Bool.false_eq_true, if_false, except_bind_eq_ok, FeedReader.toNewYorkDate_eq_ok,
        sub_zero, Option.isSome_some, forall_const]
      constructor
      · rintro ⟨found, date, ⟨hutc, hlocal, -⟩, -⟩
        exact ⟨hutc, hlocal⟩
      · rintro ⟨hutc, hlocal⟩
        exact ⟨_, _, ⟨hutc, hlocal, rfl⟩, rfl⟩

theorem disagreements_returns : (∃ found, union.disagreements state live = .ok found)
    ↔ union.ComparedDated state live := by
  unfold disagreements ComparedDated
  cases live.coverage with
  | none => exact ⟨fun _ => nofun, fun _ => ⟨[], rfl⟩⟩
  | some coverage =>
    dsimp only
    split_ifs with hok
    · obtain ⟨hstatic, hlive⟩ := hok
      simp only [except_bind_eq_ok, Option.isSome_some, hstatic, hlive, forall_const,
        ← staticOnly_returns coverage]
      rw [← mapM_returns]
      constructor
      · rintro ⟨found, staticOnly, hstaticOnly, -⟩
        exact ⟨staticOnly, hstaticOnly⟩
      · rintro ⟨staticOnly, hstaticOnly⟩
        exact ⟨_, staticOnly, hstaticOnly, rfl⟩
    · exact ⟨fun _ _ hstatic hlive => absurd ⟨hstatic, hlive⟩ hok, fun _ => ⟨[], rfl⟩⟩

/-- The search for a lockout returns when the windows it reaches are within the dates. -/
theorem search_returns : (∃ found, (union.candidates state live).findM? (fun c =>
      inLockoutWindow now c.1.timestamp limits.lockoutPreMinutes limits.lockoutPostMinutes)
        = .ok found) ↔ union.WindowsDated state limits now live := by
  unfold WindowsDated
  rw [findM?_returns]
  refine ⟨fun h before c after hsplit hbefore => ?_, fun h before c after hsplit hbefore => ?_⟩
  · -- by induction on what comes before: a window that was reached does not lock out
    have hreached : ∀ earlier, earlier <+: before → ∀ b ∈ earlier,
        inLockoutWindow now b.1.timestamp limits.lockoutPreMinutes limits.lockoutPostMinutes
          = .ok false := by
      intro earlier
      induction earlier using List.reverseRecOn with
      | nil => exact fun _ => nofun
      | append_singleton earlier x ih =>
        intro hprefix
        have hearlier := ih ((List.prefix_append earlier [x]).trans hprefix)
        obtain ⟨rest, rfl⟩ := hprefix
        obtain ⟨inside, hinside⟩ := h earlier x (rest ++ c :: after) (by simp [hsplit]) hearlier
        have hx : ¬LocksOut limits now x.1 := hbefore x (by simp)
        have hfalse : inside = false :=
          Bool.eq_false_iff.mpr (fun htrue => hx ((inLockoutWindow_eq_ok.mp hinside).2.mp htrue))
        rw [hfalse] at hinside
        intro b hb
        rcases List.mem_append.mp hb with hb | hb
        · exact hearlier b hb
        · rwa [List.mem_singleton.mp hb]
    exact inLockoutWindow_returns.mp (h before c after hsplit
      (hreached before List.prefix_rfl))
  · exact inLockoutWindow_returns.mpr (h before c after hsplit
      (fun b hb => inLockoutWindow_eq_false (hbefore b hb)))

/-- **What a check that returned says**: of the calendar, and of the first candidate that locks
out. -/
theorem checkUnder_spec (h : union.checkUnder limits now live = .ok check) :
    union.static.state union.reader now = .ok check.static ∧ check.now = now
      ∧ (∀ lockout, check.lockout = some lockout →
        ∃ c ∈ union.candidates check.static live, lockout.title = c.1.title
          ∧ lockout.at_ = c.1.timestamp ∧ inLockoutWindow now c.1.timestamp
            limits.lockoutPreMinutes limits.lockoutPostMinutes = .ok true)
      ∧ (check.lockout = none →
        ∀ c ∈ union.candidates check.static live, ¬LocksOut limits now c.1) := by
  obtain ⟨state, hstate, h⟩ := except_bind_eq_ok.mp h
  obtain ⟨found, hfound, h⟩ := except_bind_eq_ok.mp h
  obtain ⟨horizon, -, h⟩ := except_bind_eq_ok.mp h
  obtain ⟨disagreements, -, h⟩ := except_bind_eq_ok.mp h
  cases h
  refine ⟨hstate, rfl, fun lockout hlockout => ?_, fun hnone => ?_⟩
  · obtain ⟨c, rfl, rfl⟩ := Option.map_eq_some_iff.mp hlockout
    obtain ⟨before, after, hsplit, -, hc⟩ := findM?_eq_some hfound
    exact ⟨c, hsplit ▸ by simp, rfl, rfl, hc⟩
  · rw [Option.map_eq_none_iff] at hnone
    subst hnone
    exact fun c hc => inLockoutWindow_eq_false (findM?_eq_none.mp hfound c hc)

/-- **The check returns exactly within the dates.** -/
theorem checkUnder_returns :
    (∃ check, union.checkUnder limits now live = .ok check) ↔ union.Dated limits now live := by
  constructor
  · rintro ⟨check, h⟩
    obtain ⟨state, hstate, h⟩ := except_bind_eq_ok.mp h
    obtain ⟨found, hfound, h⟩ := except_bind_eq_ok.mp h
    obtain ⟨horizon, hhorizon, h⟩ := except_bind_eq_ok.mp h
    obtain ⟨disagreements, hdisagreements, -⟩ := except_bind_eq_ok.mp h
    exact ⟨state, hstate, search_returns.mp ⟨found, hfound⟩, (dateOf_eq_ok.mp hhorizon).1,
      disagreements_returns.mp ⟨disagreements, hdisagreements⟩⟩
  · rintro ⟨state, hstate, hwindows, hhorizon, hcompared⟩
    obtain ⟨found, hfound⟩ := search_returns.mpr hwindows
    obtain ⟨disagreements, hdisagreements⟩ := disagreements_returns.mpr hcompared
    exact ⟨_, except_bind_eq_ok.mpr ⟨state, hstate, except_bind_eq_ok.mpr ⟨found, hfound,
      except_bind_eq_ok.mpr ⟨_, dateOf_eq_ok.mpr ⟨hhorizon, rfl⟩,
        except_bind_eq_ok.mpr ⟨disagreements, hdisagreements, rfl⟩⟩⟩⟩⟩

/-- **A lockout is reported** exactly when the check returns and the present lies in the window
of a candidate. -/
theorem lockedOut_iff : union.LockedOut limits now live
    ↔ union.Dated limits now live ∧ union.EventLocks limits now live := by
  constructor
  · rintro ⟨check, hcheck, hlockout⟩
    refine ⟨checkUnder_returns.mp ⟨check, hcheck⟩, check.static, ?_⟩
    obtain ⟨hstate, -, hsome, -⟩ := checkUnder_spec hcheck
    obtain ⟨lockout, hlockout⟩ := Option.isSome_iff_exists.mp hlockout
    obtain ⟨c, hc, -, -, hinside⟩ := hsome lockout hlockout
    exact ⟨hstate, (mem_candidates.mp ⟨c, hc, rfl⟩).imp
      (fun hs => ⟨c.1, hs, inLockoutWindow_eq_true hinside⟩)
      (fun hlv => ⟨c.1, hlv, inLockoutWindow_eq_true hinside⟩)⟩
  · rintro ⟨hdated, state, hstate, hevent⟩
    obtain ⟨check, hcheck⟩ := checkUnder_returns.mpr hdated
    obtain ⟨hstate', -, -, hnone⟩ := checkUnder_spec hcheck
    cases hstate.symm.trans hstate'
    refine ⟨check, hcheck, Option.isSome_iff_ne_none.mpr (fun h => ?_)⟩
    rcases hevent with ⟨s, hs, hwindow⟩ | ⟨lv, hlv, hwindow⟩
    · obtain ⟨c, hc, rfl⟩ := mem_candidates.mpr (.inl hs)
      exact hnone h c hc hwindow
    · obtain ⟨c, hc, rfl⟩ := mem_candidates.mpr (.inr hlv)
      exact hnone h c hc hwindow

/-- **The rejection of a check that returned** returns, and refuses while the calendar is
unverified under the policy closed, and in a lockout. -/
theorem lockoutRejection_spec (h : union.checkUnder limits now live = .ok check) :
    ∃ rejection, check.lockoutRejection limits = .ok rejection
      ∧ (rejection.isSome = true ↔ check.static.status ≠ .ok
          ∧ limits.macroCalendarUnknown = .closed ∨ check.lockout.isSome = true) := by
  obtain ⟨-, hnow, hsome, -⟩ := checkUnder_spec h
  unfold CalendarCheck.lockoutRejection macroLockout CalendarCheck.verified
  rw [hnow]
  split_ifs with hclosed
  · exact ⟨_, rfl, by simpa using Or.inl hclosed⟩
  · have hnot : ¬(check.static.status ≠ .ok ∧ limits.macroCalendarUnknown = .closed) := by
      simpa using hclosed
    cases hlockout : check.lockout with
    | none => exact ⟨none, rfl, by simpa using hnot⟩
    | some lockout =>
      obtain ⟨c, -, -, hat, hinside⟩ := hsome lockout hlockout
      refine ⟨_, except_bind_eq_ok.mpr ⟨true, ?_, rfl⟩, by simp⟩
      rw [hat]
      exact hinside

/-- **Entries are refused** exactly when the check returns, and the calendar is unverified under
the policy closed or a candidate locks out. -/
theorem refused_iff : union.Refused limits now live
    ↔ union.Dated limits now live
      ∧ (union.Unverified limits now ∨ union.EventLocks limits now live) := by
  constructor
  · rintro ⟨check, rejection, hcheck, hrefused⟩
    have hdated := checkUnder_returns.mp ⟨check, hcheck⟩
    obtain ⟨rejection', hrejection, hsome⟩ := lockoutRejection_spec hcheck
    cases hrefused.symm.trans hrejection
    refine ⟨hdated, (hsome.mp rfl).imp (fun h => ?_) (fun h => ?_)⟩
    · exact ⟨h.2, check.static, (checkUnder_spec hcheck).1, h.1⟩
    · exact (lockedOut_iff.mp ⟨check, hcheck, h⟩).2
  · rintro ⟨hdated, h⟩
    obtain ⟨check, hcheck⟩ := checkUnder_returns.mpr hdated
    obtain ⟨rejection, hrejection, hsome⟩ := lockoutRejection_spec hcheck
    have hrefused : rejection.isSome = true := by
      refine hsome.mpr (h.imp (fun h => ?_) (fun h => ?_))
      · obtain ⟨hclosed, state, hstate, hstatus⟩ := h
        cases hstate.symm.trans (checkUnder_spec hcheck).1
        exact ⟨hstatus, hclosed⟩
      · obtain ⟨check', hcheck', hlockout⟩ := lockedOut_iff.mpr ⟨hdated, h⟩
        cases hcheck.symm.trans hcheck'
        exact hlockout
    obtain ⟨rejection, rfl⟩ := Option.isSome_iff_exists.mp hrefused
    exact ⟨check, rejection, hcheck, hrejection⟩

/-! ## Failing safe -/

/-- **The lockout fails safe**, for a download, and for two payloads of the feed of which the
second has everything the first has. -/
structure FailsSafe (union : UnionTier1Calendar) (limits : MacroLimits) (now : Time)
    (response : FeedResponse) (items items' : List (Option FeedItem)) : Prop where
  /-- A verified static event locks out, whatever the feed says. -/
  static : ∀ state, union.static.state union.reader now = .ok state → state.status = .ok →
    (∃ s ∈ union.static.events, LocksOut limits now s) →
    union.LockedOut limits now (union.reader.download now response)
      ∧ union.Refused limits now (union.reader.download now response)
  /-- Well inside the window of a live event there is a lockout, whatever the calendar says. -/
  live : (union.reader.download now response).status = .ok →
    ∀ lv ∈ (union.reader.download now response).events, lv.kind.isSome = true →
    lv.timestamp - limits.lockoutPreMinutes * Zone.minute + matchTolerance ≤ now →
    now + matchTolerance ≤ lv.timestamp + limits.lockoutPostMinutes * Zone.minute →
    union.LockedOut limits now (union.reader.download now response)
  /-- A lockout names an event whose window contains the present. -/
  named : ∀ check lockout,
    union.checkUnder limits now (union.reader.download now response) = .ok check →
    check.lockout = some lockout →
    ∃ e, (e ∈ union.static.events ∨ e ∈ (union.reader.download now response).events)
      ∧ lockout.title = e.title ∧ lockout.at_ = e.timestamp ∧ LocksOut limits now e
  /-- Under the policy closed an unverified calendar refuses. -/
  closed : union.Unverified limits now →
    union.Refused limits now (union.reader.download now response)
  /-- More items never take a lockout or a refusal away. -/
  grows :
    (union.LockedOut limits now (union.reader.download now (.payload items)) →
      union.LockedOut limits now (union.reader.download now (.payload items')))
    ∧ (union.Refused limits now (union.reader.download now (.payload items)) →
      union.Refused limits now (union.reader.download now (.payload items')))

/-- **What ought to lock out or refuse**: a verified static event, a live event well inside its
window, an unverified calendar under the policy closed. -/
def AtStake (union : UnionTier1Calendar) (limits : MacroLimits) (now : Time)
    (live : CalendarFetch) : Prop :=
  (∃ state, union.static.state union.reader now = .ok state ∧ state.status = .ok
      ∧ ∃ s ∈ union.static.events, LocksOut limits now s)
    ∨ (live.status = .ok ∧ ∃ lv ∈ live.events, lv.kind.isSome = true
      ∧ lv.timestamp - limits.lockoutPreMinutes * Zone.minute + matchTolerance ≤ now
      ∧ now + matchTolerance ≤ lv.timestamp + limits.lockoutPostMinutes * Zone.minute)
    ∨ union.Unverified limits now

/-- **The ends of time are not reached** where something is at stake, and the added items take
nothing away: they all convert, or a static event locks out anyway. -/
structure WithinDates (union : UnionTier1Calendar) (limits : MacroLimits) (now : Time)
    (response : FeedResponse) (items items' : List (Option FeedItem)) : Prop where
  dated : union.AtStake limits now (union.reader.download now response) →
    union.Dated limits now (union.reader.download now response)
  stays : union.Dated limits now (union.reader.download now (.payload items)) →
    (union.Unverified limits now
      ∨ union.EventLocks limits now (union.reader.download now (.payload items))) →
    union.Dated limits now (union.reader.download now (.payload items'))
  converts : union.Dated limits now (union.reader.download now (.payload items)) →
    union.EventLocks limits now (union.reader.download now (.payload items)) →
    (∀ item ∈ items', union.reader.Converts item)
      ∨ ∃ state, union.static.state union.reader now = .ok state
        ∧ ∃ s ∈ union.staticEvents state, LocksOut limits now s

variable {response : FeedResponse} {items items' : List (Option FeedItem)}

/-- A static event of a verified calendar is a candidate. -/
theorem eventLocks_of_static (hstate : union.static.state union.reader now = .ok state)
    (hok : state.status = .ok) (hevent : ∃ s ∈ union.static.events, LocksOut limits now s) :
    union.EventLocks limits now live := by
  refine ⟨state, hstate, .inl ?_⟩
  unfold staticEvents
  rw [if_pos hok]
  exact hevent

/-- Well inside the window of a live event, it or the static one it was dropped for locks
out. -/
theorem eventLocks_of_inside (hstate : union.static.state union.reader now = .ok state)
    (hok : live.status = .ok) {lv : MacroEvent} (hlv : lv ∈ live.events)
    (hkind : lv.kind.isSome = true)
    (hearly : lv.timestamp - limits.lockoutPreMinutes * Zone.minute + matchTolerance ≤ now)
    (hlate : now + matchTolerance ≤ lv.timestamp + limits.lockoutPostMinutes * Zone.minute) :
    union.EventLocks limits now live := by
  refine ⟨state, hstate, ?_⟩
  by_cases hmatched : ∃ s ∈ union.staticEvents state, sameRelease s lv = true
  · obtain ⟨s, hs, hsame⟩ := hmatched
    exact .inl ⟨s, hs, locksOut_of_sameRelease hsame hearly hlate⟩
  · refine .inr ⟨lv, mem_liveOnly.mpr ⟨⟨hok, hlv, hkind⟩, fun s hs => ?_⟩,
      locksOut_of_inside hearly hlate⟩
    exact Bool.eq_false_iff.mpr (fun hsame => hmatched ⟨s, hs, hsame⟩)

/-- The live events of a payload that reads are among those of a larger one that reads. -/
theorem liveOnly_mono (hadd : items.Sublist items')
    (hconverts : ∀ item ∈ items', union.reader.Converts item) {lv : MacroEvent}
    (h : lv ∈ union.liveOnly state (union.reader.download now (.payload items))) :
    lv ∈ union.liveOnly state (union.reader.download now (.payload items')) := by
  obtain ⟨⟨hok, hlv, hkind⟩, hnew⟩ := mem_liveOnly.mp h
  rcases union.reader.download_cases now items with ⟨hfailed, -⟩ | ⟨-, hevents, -, hdates⟩
  · rw [hok] at hfailed
    cases hfailed
  rw [hevents] at hlv
  rcases union.reader.download_cases now items' with ⟨-, -, hnot⟩ | ⟨hok', hevents', -, -⟩
  · refine absurd ⟨hconverts, fun hnone => hdates ?_⟩ hnot
    rw [List.flatMap_eq_nil_iff] at hnone ⊢
    exact fun item hitem => hnone item (hadd.subset hitem)
  · refine mem_liveOnly.mpr ⟨⟨hok', ?_, hkind⟩, hnew⟩
    rw [hevents']
    obtain ⟨item, hitem, hmem⟩ := List.mem_flatMap.mp hlv
    exact List.mem_flatMap.mpr ⟨item, hadd.subset hitem, hmem⟩

/-- **More items keep a candidate that locks out** exactly when they all convert or a static
event locks out anyway. -/
theorem eventLocks_grows_iff (hadd : items.Sublist items')
    (h : union.EventLocks limits now (union.reader.download now (.payload items))) :
    union.EventLocks limits now (union.reader.download now (.payload items'))
      ↔ (∀ item ∈ items', union.reader.Converts item)
        ∨ ∃ state, union.static.state union.reader now = .ok state
          ∧ ∃ s ∈ union.staticEvents state, LocksOut limits now s := by
  constructor
  · rintro ⟨state, hstate, hstatic | ⟨lv, hlv, -⟩⟩
    · exact .inr ⟨state, hstate, hstatic⟩
    · obtain ⟨⟨hok, -⟩, -⟩ := mem_liveOnly.mp hlv
      rcases union.reader.download_cases now items' with ⟨hfailed, -⟩ | ⟨-, -, hconverts, -⟩
      · rw [hok] at hfailed
        cases hfailed
      · exact .inl hconverts
  · rintro (hconverts | ⟨state, hstate, hstatic⟩)
    · obtain ⟨state, hstate, hstatic | ⟨lv, hlv, hwindow⟩⟩ := h
      · exact ⟨state, hstate, .inl hstatic⟩
      · exact ⟨state, hstate, .inr ⟨lv, liveOnly_mono hadd hconverts hlv, hwindow⟩⟩
    · exact ⟨state, hstate, .inl hstatic⟩

/-- **Every part about one download holds** exactly when the dates of the check are dates
wherever something is at stake. -/
theorem failsSafe_parts_iff :
    ((∀ state, union.static.state union.reader now = .ok state → state.status = .ok →
        (∃ s ∈ union.static.events, LocksOut limits now s) →
        union.LockedOut limits now live ∧ union.Refused limits now live)
      ∧ (live.status = .ok → ∀ lv ∈ live.events, lv.kind.isSome = true →
        lv.timestamp - limits.lockoutPreMinutes * Zone.minute + matchTolerance ≤ now →
        now + matchTolerance ≤ lv.timestamp + limits.lockoutPostMinutes * Zone.minute →
        union.LockedOut limits now live)
      ∧ (union.Unverified limits now → union.Refused limits now live))
      ↔ (union.AtStake limits now live → union.Dated limits now live) := by
  constructor
  -- a lockout or a refusal is a check that returned, so the dates are dates
  · rintro ⟨hstatic, hlive, hclosed⟩
      (⟨state, hstate, hok, hevent⟩ | ⟨hok, lv, hlv, hkind, hearly, hlate⟩ | hunverified)
    · exact (lockedOut_iff.mp (hstatic state hstate hok hevent).1).1
    · exact (lockedOut_iff.mp (hlive hok lv hlv hkind hearly hlate)).1
    · exact (refused_iff.mp (hclosed hunverified)).1
  · intro hdated
    refine ⟨fun state hstate hok hevent => ?_, fun hok lv hlv hkind hearly hlate => ?_,
      fun hunverified => ?_⟩
    · have hin := hdated (.inl ⟨state, hstate, hok, hevent⟩)
      have hlocks : union.EventLocks limits now live := eventLocks_of_static hstate hok hevent
      exact ⟨lockedOut_iff.mpr ⟨hin, hlocks⟩, refused_iff.mpr ⟨hin, .inr hlocks⟩⟩
    · have hin := hdated (.inr (.inl ⟨hok, lv, hlv, hkind, hearly, hlate⟩))
      obtain ⟨state, hstate, -⟩ := hin
      exact lockedOut_iff.mpr ⟨hdated (.inr (.inl ⟨hok, lv, hlv, hkind, hearly, hlate⟩)),
        eventLocks_of_inside hstate hok hlv hkind hearly hlate⟩
    · exact refused_iff.mpr ⟨hdated (.inr (.inr hunverified)), .inl hunverified⟩

/-- **A lockout is an event** of one of the sources, in whose window the present lies. -/
theorem lockout_names_an_event {lockout : CalendarLockout}
    (hcheck : union.checkUnder limits now live = .ok check)
    (h : check.lockout = some lockout) :
    ∃ e, (e ∈ union.static.events ∨ e ∈ live.events) ∧ lockout.title = e.title
      ∧ lockout.at_ = e.timestamp ∧ LocksOut limits now e := by
  obtain ⟨-, -, hsome, -⟩ := checkUnder_spec hcheck
  obtain ⟨c, hc, htitle, hat, hinside⟩ := hsome lockout h
  refine ⟨c.1, ?_, htitle, hat, inLockoutWindow_eq_true hinside⟩
  rcases mem_candidates.mp ⟨c, hc, rfl⟩ with hs | hlv
  · unfold staticEvents at hs
    split_ifs at hs
    · exact .inl hs
    · cases hs
  · exact .inr (mem_liveOnly.mp hlv).1.2.1

/-- **The lockout fails safe exactly within the dates.** A lockout that is reported always names
an event whose window contains the present. -/
theorem lockout_failsSafe_iff (union : UnionTier1Calendar) (limits : MacroLimits) (now : Time)
    (response : FeedResponse) (items items' : List (Option FeedItem))
    (hadd : items.Sublist items') :
    union.FailsSafe limits now response items items'
      ↔ union.WithinDates limits now response items items' := by
  constructor
  · intro h
    refine ⟨failsSafe_parts_iff.mp ⟨h.static, h.live, h.closed⟩, fun hdated hrefused => ?_,
      fun hdated hlocks => ?_⟩
    · exact (refused_iff.mp (h.grows.2 (refused_iff.mpr ⟨hdated, hrefused⟩))).1
    · exact (eventLocks_grows_iff hadd hlocks).mp
        (lockedOut_iff.mp (h.grows.1 (lockedOut_iff.mpr ⟨hdated, hlocks⟩))).2
  · intro h
    obtain ⟨hstatic, hlive, hclosed⟩ := failsSafe_parts_iff.mpr h.dated
    refine ⟨hstatic, hlive, fun check lockout => lockout_names_an_event, hclosed,
      fun hlocked => ?_, fun hrefused => ?_⟩
    · obtain ⟨hdated, hlocks⟩ := lockedOut_iff.mp hlocked
      exact lockedOut_iff.mpr ⟨h.stays hdated (.inr hlocks),
        (eventLocks_grows_iff hadd hlocks).mpr (h.converts hdated hlocks)⟩
    · obtain ⟨hdated, hwhy⟩ := refused_iff.mp hrefused
      exact refused_iff.mpr ⟨h.stays hdated hwhy, hwhy.imp_right (fun hlocks =>
        (eventLocks_grows_iff hadd hlocks).mpr (h.converts hdated hlocks))⟩

/-! ## A release of the year 1 -/

/-- What three texts read as, beside a clock five hours behind UTC. -/
def threeDates : FeedReader where
  fromIso text :=
    if text = "2026-01-13T13:30:00+00:00" then some (1768311000000000, some 0)
    else if text = "2026-01-14T13:30:00+00:00" then some (1768397400000000, some 0)
    else if text = "0001-01-01T00:00:00+00:00" then some (-719162 * Zone.day, some 0)
    else none
  lower := String.toLower
  upper := String.toUpper
  newYork := ⟨fun t => t - 5 * Zone.hour, fun reading => reading + 5 * Zone.hour⟩

/-- A feed without a static calendar. -/
def feedAlone : UnionTier1Calendar where
  reader := threeDates
  static := ⟨"us-tier1-v1", none, false, some "FileNotFoundError", none, none, []⟩
  unknownPolicy := .open

def cpiItem : Option FeedItem :=
  some ⟨some "2026-01-13T13:30:00+00:00", "USD", "CPI m/m", "High", none, none⟩

def ppiItem : Option FeedItem :=
  some ⟨some "2026-01-14T13:30:00+00:00", "USD", "PPI m/m", "High", none, none⟩

def yearOneItem : Option FeedItem :=
  some ⟨some "0001-01-01T00:00:00+00:00", "JPY", "Holiday", "Low", none, none⟩

/-- The dates of the check without a calendar, beside two events of January. -/
theorem feedAlone_dated (hevents : ∀ e ∈ live.events, e.timestamp = 1768311000000000
      ∨ e.timestamp = 1768397400000000) :
    feedAlone.Dated ⟨60, 30, .open⟩ 1768311000000000 live := by
  refine ⟨_, rfl, fun before c after hsplit _ => ?_, by decide, fun _ h => by cases h⟩
  have hc : c ∈ before ++ c :: after := List.mem_append_right _ List.mem_cons_self
  rw [← hsplit] at hc
  unfold WindowDated
  rcases mem_candidates.mp ⟨c, hc, rfl⟩ with hs | hlv
  · cases hs
  · rcases hevents c.1 (mem_liveOnly.mp hlv).1.2.1 with h | h
    all_goals
      rw [h]
      decide

theorem feedAlone_events : ∀ items ∈ [[cpiItem], [cpiItem, ppiItem]],
    ∀ e ∈ (threeDates.download 1768311000000000 (.payload items)).events,
      e.timestamp = 1768311000000000 ∨ e.timestamp = 1768397400000000 := by
  decide +kernel

/-- At the release of the CPI, the PPI of the day after takes nothing away. -/
theorem feedAlone_failsSafe_ppi :
    feedAlone.FailsSafe ⟨60, 30, .open⟩ 1768311000000000 (.payload [cpiItem, ppiItem])
      [cpiItem] [cpiItem, ppiItem] := by
  have htwo : feedAlone.Dated ⟨60, 30, .open⟩ 1768311000000000
      (threeDates.download 1768311000000000 (.payload [cpiItem, ppiItem])) :=
    feedAlone_dated (feedAlone_events _ (by simp))
  refine (lockout_failsSafe_iff feedAlone ⟨60, 30, .open⟩ 1768311000000000
    (.payload [cpiItem, ppiItem]) [cpiItem] [cpiItem, ppiItem]
    (List.sublist_append_left [cpiItem] [ppiItem])).mpr
    ⟨fun _ => htwo, fun _ _ => htwo, fun _ _ => .inl ?_⟩
  simp [FeedReader.Converts, FeedReader.feedInstant, cpiItem, ppiItem, feedAlone, threeDates]
  decide

/-- The release that the item reads as. -/
def cpiRelease : MacroEvent :=
  ⟨"CPI m/m", "USD", "High", 1768311000000000, none, none, "forexfactory", some .cpi⟩

/-- At the release of the CPI, an item of the year 1 ends the lockout. -/
theorem feedAlone_lockout_lost :
    ¬ feedAlone.FailsSafe ⟨60, 30, .open⟩ 1768311000000000 (.payload [cpiItem])
      [cpiItem] [cpiItem, yearOneItem] := by
  intro h
  have hevents : (threeDates.download 1768311000000000 (.payload [cpiItem])).events
      = [cpiRelease] := by
    decide +kernel
  have hok : (threeDates.download 1768311000000000 (.payload [cpiItem])).status = .ok := by
    decide +kernel
  have hfailed : (threeDates.download 1768311000000000
      (.payload [cpiItem, yearOneItem])).status = .failed := by decide +kernel
  have hdated : feedAlone.Dated ⟨60, 30, .open⟩ 1768311000000000
      (threeDates.download 1768311000000000 (.payload [cpiItem])) :=
    feedAlone_dated (feedAlone_events _ (by simp))
  have hlive : ∀ state, cpiRelease ∈ feedAlone.liveOnly state
      (threeDates.download 1768311000000000 (.payload [cpiItem])) := by
    intro state
    refine mem_liveOnly.mpr ⟨⟨hok, hevents ▸ List.mem_cons_self, rfl⟩, fun s hs => ?_⟩
    unfold staticEvents at hs
    split_ifs at hs <;> cases hs
  have hlocks : feedAlone.EventLocks ⟨60, 30, .open⟩ 1768311000000000
      (threeDates.download 1768311000000000 (.payload [cpiItem])) :=
    ⟨_, rfl, .inr ⟨cpiRelease, hlive _, by unfold LocksOut; decide⟩⟩
  obtain ⟨-, state, -, ⟨s, hs, -⟩ | ⟨lv, hlv, -⟩⟩ :=
    lockedOut_iff.mp (h.grows.1 (lockedOut_iff.mpr ⟨hdated, hlocks⟩))
  · unfold staticEvents at hs
    split_ifs at hs <;> cases hs
  · have hok' := (mem_liveOnly.mp hlv).1.1
    have hfailed' : (feedAlone.reader.download 1768311000000000
      (.payload [cpiItem, yearOneItem])).status = .failed := hfailed
    rw [hok'] at hfailed'
    cases hfailed'

end UnionTier1Calendar

end AgenticTrader
