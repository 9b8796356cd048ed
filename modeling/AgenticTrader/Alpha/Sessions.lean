import AgenticTrader.Alpha.Research
import AgenticTrader.Library.Sweep

/-!
# Decisions over session bars

A definition with a session clock decides once per bar of the trading session
(`research/alpha/decisions.py`). A poll of `SessionDecisionService` closes the
claims that ran out, reads the registry and the exchange's calendar, and then
plans, for each version and symbol, which windows became available since the
cursor of that pair (`decision_plan`). The plan is committed by one
transaction, which compares the cursor with the one the plan started from
(`plan_session_decisions`); the window that is still fresh is claimed, read,
and finished by another (`finish_session_decision`).

The windows themselves are those of `market/bars.py`: a session is cut into
bars from its open, and a bar may be decided on from some delay after its
close, for some time.

The exchange's calendar is one function of the date. A poll is handed some of
its sessions, so a session may be reported late, or not at all, but never
differently. Reading prices and scoring them is left open: a capture finishes
with any evidence.
-/

namespace AgenticTrader

/-! ## Sessions and their windows -/

/-- **The days of New York**, by the time each starts at. -/
structure DayClock where
  midnight : ℤ → Time
  increasing : ∀ day, midnight day < midnight (day + 1)

/-- The time is on the day. -/
def DayClock.On (clock : DayClock) (day : ℤ) (t : Time) : Prop :=
  clock.midnight day ≤ t ∧ t < clock.midnight (day + 1)

/-- **`TradingSession`**, with what its constructor checks. -/
structure TradingSession (clock : DayClock) where
  date : ℤ
  openAt : Time
  closeAt : Time
  ordered : openAt < closeAt
  opens : clock.On date openAt
  closes : clock.On date closeAt
  openAligned : openAt % 60000000 = 0
  closeAligned : closeAt % 60000000 = 0

variable {clock : DayClock}

/-- The session as a cursor remembers it. -/
def TradingSession.contract (s : TradingSession clock) : SessionContract :=
  ⟨s.date, s.openAt, s.closeAt⟩

/-- **The calendar of the exchange.** -/
structure ExchangeCalendar (clock : DayClock) where
  session : ℤ → Option (TradingSession clock)
  dated : ∀ day s, session day = some s → s.date = day

/-- **What a poll is handed**: sessions of the calendar within the requested
range, in order (`AlpacaSessionSource.calendar`, `SessionSchedule`). -/
structure ExchangeCalendar.Reports (calendar : ExchangeCalendar clock) (start day : ℤ)
    (sessions : List (TradingSession clock)) : Prop where
  genuine : ∀ s ∈ sessions, calendar.session s.date = some s
  within : ∀ s ∈ sessions, start ≤ s.date ∧ s.date ≤ day
  ordered : sessions.Pairwise (fun s s' => s.date < s'.date)

/-- `BAR_DURATIONS`. -/
def Timeframe.duration : Timeframe → Time
  | .m15 => 900000000
  | .h1 => 3600000000
  | .h4 => 14400000000
  | .d1 => 86400000000

/-- `SignalBarWindow`. -/
structure SignalBarWindow where
  openedAt : Time
  closedAt : Time
  deriving DecidableEq, Repr

/-- The loop of `session_bar_windows`, for at most the given number of
rounds. -/
def barWindows (duration close : Time) : ℕ → Time → List SignalBarWindow
  | 0, _ => []
  | n + 1, begin =>
    if begin < close then
      ⟨begin, min (begin + duration) close⟩ ::
        barWindows duration close n (min (begin + duration) close)
    else []

/-- **`session_bar_windows`.** Every round but the last takes one duration. -/
def sessionBarWindows (s : TradingSession clock) (timeframe : Timeframe) :
    List SignalBarWindow :=
  barWindows timeframe.duration s.closeAt
    (((s.closeAt - s.openAt) / timeframe.duration).toNat + 1) s.openAt

/-- The windows of some sessions. -/
def windowsOf (sessions : List (TradingSession clock)) (timeframe : Timeframe) :
    List SignalBarWindow :=
  sessions.flatMap (fun s => sessionBarWindows s timeframe)

/-- A window of the exchange's calendar. -/
def ExchangeCalendar.Window (calendar : ExchangeCalendar clock) (timeframe : Timeframe)
    (w : SignalBarWindow) : Prop :=
  ∃ day s, calendar.session day = some s ∧ w ∈ sessionBarWindows s timeframe

namespace SessionClockPolicy

/-- When a window may first be decided on. -/
def availableAt (policy : SessionClockPolicy) (w : SignalBarWindow) : Time :=
  w.closedAt + policy.decisionDelaySeconds * 1000000

/-- When it may no more. -/
def expiresAt (policy : SessionClockPolicy) (w : SignalBarWindow) : Time :=
  policy.availableAt w + policy.maxLatenessSeconds * 1000000

end SessionClockPolicy

/-! ## The plan -/

/-- **What a plan is made from**: the arguments of `decision_plan`, with the
claim ids it draws. -/
structure DecisionInput (clock : DayClock) where
  versionId : String
  definition : AlphaDefinition
  symbol : String
  generation : ℕ
  previous : Option SessionCursor
  sessions : List (TradingSession clock)
  start : ℤ
  now : Time
  limit : ℕ
  claimIds : ℕ → Uuid

namespace DecisionInput

variable (x : DecisionInput clock)

/-- The calendar as the new cursor remembers it. -/
def calendar : List SessionContract :=
  x.sessions.map TradingSession.contract

/-- Where the calendar starts. -/
def floor : Time :=
  clock.midnight x.start

/-- The mark the windows are looked at from. -/
def since (previous : SessionCursor) : Time :=
  max previous.checkedAt x.floor

/-- **The windows that are due.** -/
def due (policy : SessionClockPolicy) (previous : SessionCursor) : List SignalBarWindow :=
  Sweep.due policy.availableAt (x.since previous) x.now
    (windowsOf x.sessions x.definition.timeframe)

/-- The gap of the new cursor: what lies before the calendar, or the gap of the
old one. -/
def gap (previous : SessionCursor) : Option SessionGap :=
  if previous.checkedAt < x.floor then
    some ⟨previous.checkedAt, x.floor, "outside_calendar_horizon"⟩
  else previous.gap

/-- The status a due window starts with. -/
def statusOf (policy : SessionClockPolicy) (due : List SignalBarWindow) (w : SignalBarWindow)
    (i : ℕ) : DecisionStatus :=
  if policy.expiresAt w ≤ x.now then .missed
  else if i + 1 ≠ due.length then .superseded
  else .claimed

/-- The identity of the decision on a window. -/
def identity (w : SignalBarWindow) : DecisionIdentity :=
  ⟨x.versionId, x.symbol, w.closedAt⟩

/-- The decision on the `i`-th due window. -/
def claim (policy : SessionClockPolicy) (due : List SignalBarWindow) (w : SignalBarWindow)
    (i : ℕ) : SessionDecision where
  identity := x.identity w
  claimId := x.claimIds i
  status := x.statusOf policy due w i
  timeframe := x.definition.timeframe
  feed := x.definition.dataFeed
  openedAt := w.openedAt
  availableAt := policy.availableAt w
  expiresAt := policy.expiresAt w
  claimedAt := x.now
  registryGeneration := x.generation
  finishedAt := none
  committedAt := none
  reason := none

/-- The first `limit` due windows, decided on. -/
def claims (policy : SessionClockPolicy) (due : List SignalBarWindow) : List SessionDecision :=
  (due.take x.limit).zipIdx.map (fun p => x.claim policy due p.1 p.2)

/-- The cursor of a pair that is enrolled, or enrolled again. -/
def enrolment (gap : Option SessionGap) : SessionCursor :=
  ⟨x.generation, x.now, x.calendar, x.now, gap⟩

/-- The cursor after a sweep of the due windows. -/
def advance (policy : SessionClockPolicy) (previous : SessionCursor) : SessionCursor where
  generation := x.generation
  checkedAt := Sweep.frontier policy.availableAt x.limit x.now (x.due policy previous)
  calendar := x.calendar
  enrolledAt := previous.enrolledAt
  gap := x.gap previous

/-- A session the cursor knows is missing from the calendar, or different. -/
def calendarChanged (previous : SessionCursor) : Bool :=
  previous.calendar.any (fun c => decide (x.start ≤ c.date)
    && x.calendar.find? (fun c' => c'.date == c.date) != some c)

end DecisionInput

/-- **`decision_plan`.** -/
def decisionPlan (x : DecisionInput clock) :
    Except String (SessionCursor × List SessionDecision) :=
  match x.previous with
  | none => .ok (x.enrolment none, [])
  | some previous =>
    if previous.generation ≠ x.generation then
      .ok (x.enrolment (some ⟨previous.checkedAt, x.now, "registry_changed"⟩), [])
    else do
      refuse (decide (x.now < previous.checkedAt)) "Session decision clock moved backwards"
      refuse (x.calendarChanged previous) "Observed session calendar changed; cursor preserved"
      match x.definition.clock with
      | some (.session policy) =>
        .ok (x.advance policy previous, x.claims policy (x.due policy previous))
      -- the fixed daily clock has no `windows`
      | _ => .error "AttributeError"

/-! ## Transactions -/

namespace AlphaDb

/-- `session-decision/pending`. -/
def pending (db : AlphaDb) : List (DecisionIdentity × Time) :=
  (db.get .pending).getD []

/-- One claim of `plan_session_decisions`: a window that was decided on is
passed over. -/
def consume (s : AlphaDb × List (DecisionIdentity × Time) × List SessionDecision)
    (claim : SessionDecision) : AlphaDb × List (DecisionIdentity × Time) × List SessionDecision :=
  if (s.1.get (.decision claim.identity)).isSome then s
  else (s.1.append (.decision claim.identity) claim,
    if claim.status = .claimed then
      s.2.1.filter (fun p => p.1 != claim.identity) ++ [(claim.identity, claim.expiresAt)]
    else s.2.1,
    s.2.2 ++ [claim])

/-- Whether the cursor is worth an event. -/
def cursorMoves (previous : Option SessionCursor) (cursor : SessionCursor)
    (claims : List SessionDecision) : Bool :=
  match previous with
  | none => true
  | some previous => !claims.isEmpty || decide (cursor.generation ≠ previous.generation
      ∨ cursor.calendar ≠ previous.calendar ∨ cursor.gap ≠ previous.gap)

/-- **`plan_session_decisions`**: the windows are consumed and the cursor moves,
unless another plan moved it first. -/
def planSessionDecisions (db : AlphaDb) (versionId symbol : String)
    (previous : Option SessionCursor) (cursor : SessionCursor) (claims : List SessionDecision) :
    Except String (AlphaDb × List SessionDecision) := do
  refuse (!((db.get .registry).any (fun r => r.generation == cursor.generation)))
    "Registry changed during session planning"
  if db.get (.cursor versionId symbol) ≠ previous then .ok (db, [])
  else
    let consumed := claims.foldl consume (db, db.pending, [])
    let noted := if consumed.2.2.isEmpty then consumed.1
      else consumed.1.append .pending consumed.2.1
    .ok (if cursorMoves previous cursor claims then noted.append (.cursor versionId symbol) cursor
      else noted, consumed.2.2)

/-- A claim that ran out. -/
def interrupted (claim : SessionDecision) (now : Time) : SessionDecision :=
  { claim with
    status := .interrupted
    finishedAt := some now
    reason := some "claim_expired_without_completion" }

/-- One claim of `expire_session_decisions`. -/
def interrupt (now : Time) (db : AlphaDb) (p : DecisionIdentity × Time) : Except String AlphaDb :=
  match db.get (.decision p.1) with
  | none => .error "TypeError"
  | some claim => .ok (db.append (.decision p.1) (interrupted claim now))

/-- **`expire_session_decisions`.** -/
def expireSessionDecisions (db : AlphaDb) (now : Time) : Except String AlphaDb := do
  let expired := db.pending.filter (fun p => decide (p.2 ≤ now))
  let swept ← expired.foldlM (interrupt now) db
  .ok (if expired.isEmpty then swept
    else swept.append .pending (db.pending.filter (fun p => !decide (p.2 ≤ now))))

/-- What a capture is recorded as: the evidence counts only within the claim's
time, and under the registry it was made for. -/
def finished (claim : SessionDecision) (evidence : DecisionEvidence) (generation : ℕ)
    (now : Time) : SessionDecision :=
  let recorded : SessionDecision :=
    { claim with
      status := evidence.status
      finishedAt := some evidence.finishedAt
      committedAt := some now
      reason := evidence.reason }
  if ¬ (claim.claimedAt ≤ now ∧ now < claim.expiresAt) then
    { recorded with status := .unavailable, reason := some "decision_expired_before_commit" }
  else if generation ≠ claim.registryGeneration then
    { recorded with status := .unavailable, reason := some "registry_changed_during_capture" }
  else recorded

/-- **`finish_session_decision`.** The evidence of a capture has no field of the
claim but its status, so the source's check of the others is passed. -/
def finishSessionDecision (db : AlphaDb) (claim : SessionDecision) (evidence : DecisionEvidence)
    (now : Time) : Except String AlphaDb :=
  match db.get (.decision claim.identity) with
  | none => .error "Session decision requires its original claim"
  | some previous => do
    refuse (previous.claimId != claim.claimId) "Session decision requires its original claim"
    refuse (evidence.status != .scored && evidence.status != .unavailable)
      "Invalid session decision outcome"
    refuse evidence.forecastValid "Session decisions cannot grant shadow credit"
    if previous.status ≠ .claimed then
      .ok (if (db.get (.decisionLate claim.identity)).isSome then db
        else db.append (.decisionLate claim.identity) evidence)
    else match db.get .registry with
      | none => .error "TypeError"
      | some registry =>
        .ok ((db.append (.decision claim.identity)
            (finished claim evidence registry.generation now)).append .pending
          (db.pending.filter (fun p => p.1 != claim.identity)))

end AlphaDb

/-! ## The processes -/

/-- **`SessionDecisionConfig`.** -/
structure SessionDecisionConfig where
  feed : String
  symbols : List String
  historyDays : ℕ
  maxCandidates : ℕ
  maxDecisionsPerPoll : ℕ
  history_ge : 2 ≤ historyDays
  candidates_pos : 1 ≤ maxCandidates
  decisions_pos : 1 ≤ maxDecisionsPerPoll

/-- The definitions a poll is about. -/
def SessionDecisionConfig.definitions (policy : SessionDecisionConfig)
    (snapshot : RegistrySnapshot) : List AlphaDefinition :=
  (snapshot.active ++ snapshot.shadow).filter
    (fun d => d.clock.isSome && d.dataFeed == policy.feed)

/-- The definitions and symbols a poll is about. -/
def SessionDecisionConfig.pairs (policy : SessionDecisionConfig) (snapshot : RegistrySnapshot) :
    List (AlphaDefinition × String) :=
  (policy.definitions snapshot).flatMap (fun d =>
    (policy.symbols.filter (fun s => d.symbols.contains s)).map (fun s => (d, s)))

/-- **A poll under way**: its time, the registry and the calendar it read, how
many decisions it may still make, and the pairs that are left. -/
structure DecisionPoll (clock : DayClock) where
  now : Time
  generation : ℕ
  start : ℤ
  day : ℤ
  sessions : List (TradingSession clock)
  remaining : ℕ
  pairs : List (AlphaDefinition × String)

/-- What the plan of a pair is made from. -/
def DecisionPoll.input (poll : DecisionPoll clock) (cfg : AlphaConfig)
    (definition : AlphaDefinition) (symbol : String) (previous : Option SessionCursor)
    (claimIds : ℕ → Uuid) : DecisionInput clock :=
  ⟨cfg.versionId definition, definition, symbol, poll.generation, previous, poll.sessions,
    poll.start, poll.now, poll.remaining, claimIds⟩

/-- **Where a process is in `run_once`.** -/
inductive Decider (clock : DayClock) where
  | idle
  /-- The claims that ran out were closed. -/
  | expired (now : Time)
  /-- The registry was read. -/
  | listed (policy : SessionDecisionConfig) (now : Time) (generation : ℕ)
      (pairs : List (AlphaDefinition × String))
  /-- The calendar was read. -/
  | polled (poll : DecisionPoll clock)
  /-- A plan was made, and not committed yet. -/
  | planned (poll : DecisionPoll clock) (input : DecisionInput clock) (cursor : SessionCursor)
      (claims : List SessionDecision)
  /-- A plan was committed, and some of its windows were claimed. -/
  | capturing (poll : DecisionPoll clock) (claims : List SessionDecision)
  /-- The prices a claim looks at were excluded from fresh holdouts. -/
  | exposed (poll : DecisionPoll clock) (claim : SessionDecision)
      (claims : List SessionDecision)

/-- The keys of session decisions. -/
def AlphaKey.ofSessions : AlphaKey → Bool
  | .version _ | .decision _ | .decisionLate _ | .pending | .cursor _ _ => true
  | _ => false

/-- **One action of a process**: a write of another operation, or the next step
of `run_once`. -/
inductive DecisionAct (calendar : ExchangeCalendar clock) (cfg : AlphaConfig) :
    AlphaDb → List Empty → Decider clock → List Empty → AlphaDb → Decider clock → Prop where
  | register {db : AlphaDb} {t : List Empty} (definition : AlphaDefinition) :
      DecisionAct calendar cfg db t .idle [] (db.register cfg definition) .idle
  | recordCatalog {db : AlphaDb} {t : List Empty} (definition : CatalogDefinition) :
      DecisionAct calendar cfg db t .idle [] (db.recordCatalog definition) .idle
  | other {db : AlphaDb} {t : List Empty} (k : AlphaKey) (v : AlphaValue k)
      (hk : k.ofSessions = false) : DecisionAct calendar cfg db t .idle [] (db.append k v) .idle
  | rebuild {db : AlphaDb} {t : List Empty} :
      DecisionAct calendar cfg db t .idle [] db.rebuild .idle
  | expire {db db' : AlphaDb} {t : List Empty} (now : Time)
      (h : db.expireSessionDecisions now = .ok db') :
      DecisionAct calendar cfg db t .idle [] db' (.expired now)
  | list {db : AlphaDb} {t : List Empty} {now : Time} {snapshot : RegistrySnapshot}
      (policy : SessionDecisionConfig) (readAt : Time) (h : db.snapshot cfg readAt = .ok snapshot)
      (hc : (policy.definitions snapshot).length ≤ policy.maxCandidates) :
      DecisionAct calendar cfg db t (.expired now) [] db
        (.listed policy now snapshot.generation (policy.pairs snapshot))
  | poll {db : AlphaDb} {t : List Empty} {policy : SessionDecisionConfig} {now : Time}
      {generation : ℕ} {pairs : List (AlphaDefinition × String)} (day : ℤ)
      (sessions : List (TradingSession clock)) (hd : clock.On day now)
      (hr : calendar.Reports (day - (policy.historyDays - 1)) day sessions) :
      DecisionAct calendar cfg db t (.listed policy now generation pairs) [] db
        (.polled ⟨now, generation, day - (policy.historyDays - 1), day, sessions,
          policy.maxDecisionsPerPoll, pairs⟩)
  | plan {db : AlphaDb} {t : List Empty} {poll : DecisionPoll clock} {cursor : SessionCursor}
      {claims : List SessionDecision} {pairs : List (AlphaDefinition × String)}
      (definition : AlphaDefinition) (symbol : String) (claimIds : ℕ → Uuid)
      (hp : poll.pairs = (definition, symbol) :: pairs) (hr : 0 < poll.remaining)
      (h : decisionPlan (poll.input cfg definition symbol
        (db.get (.cursor (cfg.versionId definition) symbol)) claimIds) = .ok (cursor, claims)) :
      DecisionAct calendar cfg db t (.polled poll) [] db
        (.planned { poll with pairs := pairs } (poll.input cfg definition symbol
          (db.get (.cursor (cfg.versionId definition) symbol)) claimIds) cursor claims)
  | commit {db db' : AlphaDb} {t : List Empty} {poll : DecisionPoll clock}
      {input : DecisionInput clock} {cursor : SessionCursor}
      {claims accepted : List SessionDecision}
      (h : db.planSessionDecisions input.versionId input.symbol input.previous cursor claims
        = .ok (db', accepted)) :
      DecisionAct calendar cfg db t (.planned poll input cursor claims) [] db'
        (.capturing { poll with remaining := poll.remaining - accepted.length }
          (accepted.filter (fun c => c.status == .claimed)))
  | expose {db db' : AlphaDb} {t : List Empty} {poll : DecisionPoll clock}
      {claim : SessionDecision} {claims : List SessionDecision}
      (h : db.excludeObservedInterval cfg claim.identity.symbol
        (.aware (clock.midnight poll.start)) (.aware (clock.midnight (poll.day + 1))) 0 0 0
        "forward_session_decision_v1" = .ok db') :
      DecisionAct calendar cfg db t (.capturing poll (claim :: claims)) [] db'
        (.exposed poll claim claims)
  | finish {db db' : AlphaDb} {t : List Empty} {poll : DecisionPoll clock}
      {claim : SessionDecision} {claims : List SessionDecision} (evidence : DecisionEvidence)
      (now : Time) (h : db.finishSessionDecision claim evidence now = .ok db') :
      DecisionAct calendar cfg db t (.exposed poll claim claims) [] db' (.capturing poll claims)
  | captured {db : AlphaDb} {t : List Empty} {poll : DecisionPoll clock} :
      DecisionAct calendar cfg db t (.capturing poll []) [] db (.polled poll)
  | done {db : AlphaDb} {t : List Empty} {poll : DecisionPoll clock}
      (h : poll.pairs = [] ∨ poll.remaining = 0) :
      DecisionAct calendar cfg db t (.polled poll) [] db .idle

/-- **The decision program.** It leaves no marks. -/
def decisionProgram (calendar : ExchangeCalendar clock) (cfg : AlphaConfig) :
    Program AlphaDb (Decider clock) Empty where
  store := .empty
  idle := .idle
  act := DecisionAct calendar cfg

end AgenticTrader
