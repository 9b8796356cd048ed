import AgenticTrader.Broker.Redundant

/-!
# Failing over

What the redundant broker does depends on the circuit, and the circuit on what was recorded
before: on the failures since the last success, and on whether the cooldown was found to be
over since the last of them (`Tripped`). The tasks share the circuit, so a method may find
another circuit at each of its answers; where its calls go is then a matter of the record
(`routed_by_record`), whatever the order in which the tasks run.

A single order is followed by its calls. An entry that the primary took or refused stays
with the primary (`submitEntryOrder_route`); one that met an outage may be sent to the
fallback, and to the fallback a second time where it raised on the first, because that call
is made where its exceptions count as the primary's.
-/

namespace AgenticTrader

open Coroutine

/-! ## What the record says -/

/-- An effect that is a failure, with its time. -/
def CircuitEffect.failedAt : CircuitEffect → Option Time
  | .recordFailure now => some now
  | _ => none

/-- The failures since the last success. -/
def consecutive (record : List CircuitEffect) : ℕ :=
  (record.reverse.takeWhile (· ≠ .recordSuccess)).countP (·.failedAt.isSome)

/-- The time of the last failure. -/
def lastFailure (record : List CircuitEffect) : Option Time :=
  record.reverse.findSome? (·.failedAt)

/-- What was recorded since the last failure. -/
def sinceFailure (record : List CircuitEffect) : List CircuitEffect :=
  record.reverse.takeWhile (·.failedAt.isNone)

namespace RedundancyConfig

variable (cfg : RedundancyConfig) {record : List CircuitEffect}

/-- **The primary may be tried again**: since the last failure the clock was read when the
recovery interval was over. -/
def Probed (record : List CircuitEffect) : Prop :=
  cfg.autoFailback = true ∧ ∃ since now, lastFailure record = some since ∧
    .checkCooldown now ∈ sinceFailure record ∧ cfg.recovered since now

/-- **The primary is not to be used**: it has failed too often in a row, and may not be
tried again. -/
def Tripped (record : List CircuitEffect) : Prop :=
  0 < consecutive record ∧ cfg.maxConsecutiveFailures ≤ consecutive record ∧ ¬cfg.Probed record

section Record

variable (record) (now : Time)

@[simp] theorem consecutive_failure :
    consecutive (record ++ [.recordFailure now]) = consecutive record + 1 := by
  simp [consecutive, CircuitEffect.failedAt]

@[simp] theorem consecutive_success : consecutive (record ++ [.recordSuccess]) = 0 := by
  simp [consecutive]

@[simp] theorem consecutive_check :
    consecutive (record ++ [.checkCooldown now]) = consecutive record := by
  simp [consecutive, CircuitEffect.failedAt]

@[simp] theorem lastFailure_failure :
    lastFailure (record ++ [.recordFailure now]) = some now := by
  simp [lastFailure, CircuitEffect.failedAt]

@[simp] theorem lastFailure_success :
    lastFailure (record ++ [.recordSuccess]) = lastFailure record := by
  simp [lastFailure, CircuitEffect.failedAt]

@[simp] theorem lastFailure_check :
    lastFailure (record ++ [.checkCooldown now]) = lastFailure record := by
  simp [lastFailure, CircuitEffect.failedAt]

@[simp] theorem not_probed_failure : ¬cfg.Probed (record ++ [.recordFailure now]) := by
  simp [Probed, sinceFailure, CircuitEffect.failedAt]

@[simp] theorem probed_check :
    cfg.Probed (record ++ [.checkCooldown now]) ↔ cfg.Probed record ∨
      cfg.autoFailback = true ∧ ∃ since, lastFailure record = some since ∧
        cfg.recovered since now := by
  have hsince : sinceFailure (record ++ [.checkCooldown now])
      = .checkCooldown now :: sinceFailure record := by
    simp [sinceFailure, CircuitEffect.failedAt]
  unfold Probed
  rw [lastFailure_check, hsince]
  constructor
  · rintro ⟨hauto, since, now', hlast, hmem, hrecovered⟩
    rcases List.mem_cons.mp hmem with hnow | hmem
    · cases hnow
      exact .inr ⟨hauto, since, hlast, hrecovered⟩
    · exact .inl ⟨hauto, since, now', hlast, hmem, hrecovered⟩
  · rintro (⟨hauto, since, now', hlast, hmem, hrecovered⟩ | ⟨hauto, since, hlast, hrecovered⟩)
    · exact ⟨hauto, since, now', hlast, List.mem_cons_of_mem _ hmem, hrecovered⟩
    · exact ⟨hauto, since, now, hlast, List.mem_cons_self, hrecovered⟩

end Record

/-- **The circuit is what the record says.** -/
structure Records (record : List CircuitEffect) (circuit : Circuit) : Prop where
  failures : circuit.consecutiveFailures = consecutive record
  last : circuit.lastFailureTime = lastFailure record
  noticed : circuit.state ≠ .closed ↔
    0 < consecutive record ∧ cfg.maxConsecutiveFailures ≤ consecutive record
  tripped : circuit.state = .opened ↔ cfg.Tripped record

variable {cfg} {circuit : Circuit}

theorem Records.recordFailure (h : cfg.Records record circuit) (now : Time) :
    cfg.Records (record ++ [.recordFailure now]) (cfg.recordFailure circuit now) := by
  have hfailures := h.failures
  -- the circuit is open afterwards exactly when the failures have reached the limit
  have hstate : (cfg.recordFailure circuit now).state
      = if cfg.maxConsecutiveFailures ≤ (consecutive record : ℤ) + 1 then .opened
        else .closed := by
    show (if cfg.maxConsecutiveFailures ≤ ((circuit.consecutiveFailures + 1 : ℕ) : ℤ) ∧ _ then _
      else _) = _
    rw [hfailures, Nat.cast_succ]
    by_cases hmax : cfg.maxConsecutiveFailures ≤ (consecutive record : ℤ) + 1
    · by_cases hopened : circuit.state = .opened
      · simp [hmax, hopened]
      · simp [hmax, hopened]
    · have hclosed : circuit.state = .closed := by
        by_contra hne
        have hreached := (h.noticed.mp hne).2
        omega
      simp [hmax, hclosed]
  refine ⟨?_, ?_, ?_, ?_⟩
  · simp [RedundancyConfig.recordFailure, hfailures]
  · simp [RedundancyConfig.recordFailure]
  · rw [hstate, consecutive_failure]
    split <;> simp_all
  · rw [hstate]
    unfold Tripped
    rw [consecutive_failure]
    split <;> simp_all

theorem Records.recordSuccess (h : cfg.Records record circuit) :
    cfg.Records (record ++ [.recordSuccess]) (RedundancyConfig.recordSuccess circuit) := by
  have hlast := h.last
  constructor <;> simp [RedundancyConfig.recordSuccess, Tripped, hlast]

theorem Records.checkCooldown (h : cfg.Records record circuit) (now : Time) :
    cfg.Records (record ++ [.checkCooldown now]) (cfg.checkCooldown circuit now) := by
  obtain ⟨hfailures, hlast, hnoticed, htripped⟩ := h
  -- a reading that changes nothing is one that does not count
  have hkept : ¬(circuit.state = .opened ∧ cfg.autoFailback = true ∧
      ∃ since, lastFailure record = some since ∧ cfg.recovered since now) →
      cfg.checkCooldown circuit now = circuit ∧
        (cfg.Tripped (record ++ [.checkCooldown now]) ↔ cfg.Tripped record) := by
    intro hnot
    constructor
    · unfold RedundancyConfig.checkCooldown
      split
      · rename_i hopen
        rw [hlast]
        cases hsince : lastFailure record with
        | none => rfl
        | some since =>
          exact if_neg fun hrecovered => hnot ⟨hopen.1, hopen.2, since, hsince, hrecovered⟩
      · rfl
    · unfold Tripped
      rw [consecutive_check, probed_check]
      constructor
      · rintro ⟨hpos, hmax, hprobed⟩
        exact ⟨hpos, hmax, fun h => hprobed (.inl h)⟩
      · rintro ⟨hpos, hmax, hprobed⟩
        refine ⟨hpos, hmax, ?_⟩
        rintro (h | ⟨hauto, hrecovered⟩)
        · exact hprobed h
        · exact hnot ⟨htripped.mpr ⟨hpos, hmax, hprobed⟩, hauto, hrecovered⟩
  by_cases hprobe : circuit.state = .opened ∧ cfg.autoFailback = true ∧
      ∃ since, lastFailure record = some since ∧ cfg.recovered since now
  · obtain ⟨hopen, hauto, since, hsince, hrecovered⟩ := hprobe
    have hhalf : cfg.checkCooldown circuit now = { circuit with state := .halfOpen } := by
      simp [RedundancyConfig.checkCooldown, hopen, hauto, hlast, hsince, hrecovered]
    obtain ⟨hpos, hmax, -⟩ := htripped.mp hopen
    rw [hhalf]
    refine ⟨by simpa using hfailures, by simpa using hlast, by simp [hpos, hmax], ?_⟩
    unfold Tripped
    rw [probed_check]
    simp [hauto, hsince, hrecovered]
  · obtain ⟨hsame, hsameTripped⟩ := hkept hprobe
    rw [hsame]
    exact ⟨by simpa using hfailures, by simpa using hlast, by simpa using hnoticed,
      htripped.trans hsameTripped.symm⟩

/-- **The circuit is the replay of the record.** -/
theorem records_replay (cfg : RedundancyConfig) (record : List CircuitEffect) :
    cfg.Records record (record.foldl cfg.apply {}) := by
  induction record using List.reverseRecOn with
  | nil =>
    refine ⟨rfl, rfl, ?_, ?_⟩ <;> simp [Tripped, consecutive]
  | append_singleton record effect ih =>
    rw [List.foldl_append]
    cases effect with
    | recordFailure now => exact ih.recordFailure now
    | recordSuccess => exact ih.recordSuccess
    | checkCooldown now => exact ih.checkCooldown now

end RedundancyConfig

/-! ## Where the calls go -/

variable {P B A : Type}

/-- A method whose calls the circuit routes. -/
def BrokerMethod.routed : BrokerMethod A → Bool
  | .connect | .disconnect | .stopTradeStream | .cancelAllOrders => false
  | _ => true

/-- A submission of an entry. -/
def BrokerMethod.submits : BrokerMethod A → Bool
  | .submitEntryOrder _ => true
  | _ => false

/-- Where a call may go: a routed method asks the primary only while the circuit is not
open, and an entry is sent to the fallback only while it is. -/
def RightSide (circuit : Circuit) (call : BrokerCall A) : Prop :=
  (call.side = .primary → call.method.routed = true → circuit.state ≠ .opened) ∧
    (call.side = .fallback → call.method.submits = true → circuit.state = .opened)

section Issues

variable (cfg : RedundancyConfig) (lower : String → String) (circuit : Circuit)

theorem issues_onFallback {method : BrokerMethod A}
    (h : method.submits = true → circuit.state = .opened) :
    Issues cfg.apply RightSide circuit (onFallback P B method) :=
  ⟨⟨fun h => (nomatch h), fun _ => h⟩, fun _ _ => trivial⟩

theorem issues_submissionFailed (request : OrderRequest) (error : String) :
    Issues cfg.apply (RightSide (A := A)) circuit
      (submissionFailed P B request error circuit) :=
  Issues.ite (fun hopen => issues_onFallback cfg circuit fun _ => hopen) (fun _ => trivial)

theorem issues_submitEntryOrder (request : OrderRequest) :
    Issues cfg.apply (RightSide (A := A)) circuit
      (submitEntryOrder P B lower request circuit) := by
  refine Issues.ite (fun hopen => issues_onFallback cfg circuit fun _ => hopen)
    (fun hopen => ⟨⟨fun _ _ => hopen, fun h => (nomatch h)⟩, fun answer s => ?_⟩)
  obtain ⟨outcome, now⟩ := answer
  cases outcome with
  | error error => exact issues_submissionFailed cfg _ request error
  | ok result =>
    refine Issues.ite (fun hfailover => ?_) (fun _ => trivial)
    rw [Bool.and_eq_true, decide_eq_true_eq] at hfailover
    refine ⟨⟨fun h => (nomatch h), fun _ _ => hfailover.2⟩, fun again s => ?_⟩
    obtain ⟨outcome, now⟩ := again
    cases outcome with
    | error error => exact issues_submissionFailed cfg _ request error
    | ok result => trivial

/-- The fallback may be asked anything but an entry at any time. -/
theorem issues_asked {method : BrokerMethod A} (h : method.submits = false) :
    Issues cfg.apply RightSide circuit (onFallback P B method) :=
  issues_onFallback cfg circuit fun hsubmits => (Bool.false_ne_true (h.symm.trans hsubmits)).elim

theorem rightSide_primary {method : BrokerMethod A} (h : circuit.state ≠ .opened) :
    RightSide circuit ⟨.primary, method⟩ :=
  ⟨fun _ _ => h, fun h => (nomatch h)⟩

theorem rightSide_fallback {method : BrokerMethod A} (h : method.submits = false) :
    RightSide circuit ⟨.fallback, method⟩ :=
  ⟨fun h => (nomatch h), fun _ hsubmits => (Bool.false_ne_true (h.symm.trans hsubmits)).elim⟩

theorem rightSide_unrouted {side : BrokerSide} {method : BrokerMethod A}
    (h : method.routed = false) (hsubmits : method.submits = false) :
    RightSide circuit ⟨side, method⟩ :=
  ⟨fun _ hrouted => (Bool.false_ne_true (h.symm.trans hrouted)).elim,
    fun _ h' => (Bool.false_ne_true (hsubmits.symm.trans h')).elim⟩

theorem issues_closePosition (arguments : CloseArguments) :
    Issues cfg.apply (RightSide (A := A)) circuit (closePosition P B arguments circuit) := by
  refine Issues.ite (fun _ => issues_asked cfg circuit rfl)
    (fun hopen => ⟨rightSide_primary circuit hopen, fun answer s => ?_⟩)
  obtain ⟨outcome, now⟩ := answer
  cases outcome with
  | error error => exact issues_asked cfg _ rfl
  | ok result =>
    refine Issues.ite (fun _ => trivial)
      (fun _ => ⟨rightSide_fallback _ rfl, fun again s => ?_⟩)
    obtain ⟨outcome, now⟩ := again
    cases outcome with
    | error error => exact issues_asked cfg _ rfl
    | ok fallback => trivial

theorem issues_getPositions :
    Issues cfg.apply (RightSide (A := A)) circuit (getPositions P B circuit) := by
  refine Issues.ite (fun _ => issues_asked cfg circuit rfl)
    (fun hopen => ⟨rightSide_primary circuit hopen, fun answer s => ?_⟩)
  obtain ⟨outcome, now⟩ := answer
  cases outcome with
  | error error => exact issues_asked cfg _ rfl
  | ok positions =>
    refine ⟨rightSide_fallback _ rfl, fun again s => ?_⟩
    obtain ⟨outcome, now⟩ := again
    cases outcome with
    | error error => exact issues_asked cfg _ rfl
    | ok fallback => trivial

theorem issues_getAccountBalance :
    Issues cfg.apply (RightSide (A := A)) circuit (getAccountBalance P B circuit) := by
  refine Issues.ite (fun _ => issues_asked cfg circuit rfl)
    (fun hopen => ⟨rightSide_primary circuit hopen, fun answer s => ?_⟩)
  obtain ⟨outcome, now⟩ := answer
  cases outcome with
  | error error => exact issues_asked cfg _ rfl
  | ok balance => trivial

theorem issues_reconcileFallback (active : List A) (events : List ReconciliationEvent) :
    Issues cfg.apply RightSide circuit (reconcileFallback P B active events) := by
  refine ⟨rightSide_fallback circuit rfl, fun answer s => ?_⟩
  obtain ⟨outcome, now⟩ := answer
  cases outcome <;> trivial

theorem issues_reconcilePositions (active : List A) :
    Issues cfg.apply RightSide circuit (reconcilePositions P B active circuit) := by
  refine Issues.ite
    (fun hopen => ⟨rightSide_primary circuit hopen, fun answer s => ?_⟩)
    (fun _ => issues_reconcileFallback cfg circuit active [])
  obtain ⟨outcome, now⟩ := answer
  cases outcome with
  | error error => exact issues_reconcileFallback cfg _ active []
  | ok events => exact issues_reconcileFallback cfg _ active events

theorem issues_startTradeStream :
    Issues cfg.apply (RightSide (A := A)) circuit (startTradeStream P B circuit) := by
  refine Issues.ite (fun _ => issues_asked cfg circuit rfl)
    (fun hopen => ⟨rightSide_primary circuit hopen, fun answer s => ?_⟩)
  obtain ⟨outcome, now⟩ := answer
  cases outcome with
  | error error => exact issues_asked cfg _ rfl
  | ok done => trivial

theorem issues_modifyOrderStop (arguments : StopArguments) :
    Issues cfg.apply (RightSide (A := A)) circuit (modifyOrderStop P B arguments circuit) := by
  refine Issues.ite (fun _ => issues_asked cfg circuit rfl)
    (fun hopen => ⟨rightSide_primary circuit hopen, fun answer s => ?_⟩)
  obtain ⟨outcome, now⟩ := answer
  cases outcome with
  | error error => exact issues_asked cfg _ rfl
  | ok result =>
    refine Issues.ite (fun _ => trivial)
      (fun _ => ⟨rightSide_fallback _ rfl, fun again s => ?_⟩)
    obtain ⟨outcome, now⟩ := again
    cases outcome with
    | error error => exact issues_asked cfg _ rfl
    | ok result => trivial

theorem issues_connect : Issues cfg.apply (RightSide (A := A)) circuit (connect P B) := by
  refine ⟨rightSide_unrouted circuit rfl rfl, fun answer s => ?_⟩
  obtain ⟨outcome, now⟩ := answer
  rcases outcome with error | connected
  · exact issues_asked cfg _ rfl
  · cases connected
    · exact issues_asked cfg _ rfl
    · exact ⟨rightSide_unrouted _ rfl rfl, fun _ _ => trivial⟩

theorem issues_onBoth {method : BrokerMethod A} (hrouted : method.routed = false)
    (hsubmits : method.submits = false) :
    Issues cfg.apply RightSide circuit (onBoth P B method) :=
  ⟨rightSide_unrouted circuit hrouted hsubmits, fun _ _ =>
    ⟨rightSide_unrouted _ hrouted hsubmits, fun _ _ => trivial⟩⟩

/-- **Every method asks the right side**, from whatever circuit it finds. -/
theorem issues_redundantBroker (method : BrokerMethod A) :
    Issues cfg.apply RightSide circuit ((redundantBroker P B lower).body method circuit) := by
  cases method with
  | connect => exact issues_connect cfg circuit
  | disconnect => exact issues_onBoth cfg circuit rfl rfl
  | submitEntryOrder request => exact issues_submitEntryOrder cfg lower circuit request
  | closePosition arguments => exact issues_closePosition cfg circuit arguments
  | getPositions => exact issues_getPositions cfg circuit
  | getAccountBalance => exact issues_getAccountBalance cfg circuit
  | reconcilePositions active => exact issues_reconcilePositions cfg circuit active
  | startTradeStream => exact issues_startTradeStream cfg circuit
  | stopTradeStream => exact issues_onBoth cfg circuit rfl rfl
  | modifyOrderStop arguments => exact issues_modifyOrderStop cfg circuit arguments
  | cancelAllOrders =>
    exact ⟨rightSide_unrouted circuit rfl rfl, fun _ _ =>
      ⟨rightSide_unrouted _ rfl rfl, fun _ _ => trivial⟩⟩

end Issues

/-- A world of the tasks that share a redundant broker. -/
abbrev RedundantWorld (P B A : Type) : Type :=
  World Circuit (Option ((method : BrokerMethod A) ×
    Coroutine Circuit (BrokerCall A) (BrokerCall.Answer P B) CircuitEffect
      (Except String (method.Reply P B)))) (Mark (BrokerCall A) CircuitEffect)

/-- Any number of tasks that share a redundant broker. -/
def redundantProgram (P B A : Type) (cfg : RedundancyConfig) (lower : String → String) :
    Program Circuit (Option ((method : BrokerMethod A) ×
      Coroutine Circuit (BrokerCall A) (BrokerCall.Answer P B) CircuitEffect
        (Except String (method.Reply P B)))) (Mark (BrokerCall A) CircuitEffect) :=
  Coroutine.program cfg.apply (redundantBroker P B lower) {}

/-- **The record decides where the calls go.** Whatever the tasks do and in whatever order,
the circuit is open exactly when the primary has failed too often in a row and its cooldown
was not found to be over since; a routed method asks the primary only where that was not so
at its call, and an entry goes to the fallback only where it was. -/
theorem routed_by_record (cfg : RedundancyConfig) (lower : String → String)
    {w : RedundantWorld P B A} (h : (redundantProgram P B A cfg lower).Reachable w) :
    (w.store.state = .opened ↔ cfg.Tripped (effectsOf w.trace)) ∧
      ∀ before call after, w.trace = before ++ .called call :: after →
        (call.side = .primary → call.method.routed = true →
          ¬cfg.Tripped (effectsOf before)) ∧
        (call.side = .fallback → call.method.submits = true →
          cfg.Tripped (effectsOf before)) := by
  have hrecord := cfg.records_replay
  constructor
  · rw [Coroutine.replayed h]
    exact (hrecord _).tripped
  · intro before call after htrace
    have hsound : Coroutine.Sound cfg.apply RightSide {} w.trace :=
      Coroutine.issued (fun method circuit now => issues_redundantBroker cfg lower _ method) h
    have hside := hsound _ _ _ htrace
    refine ⟨fun hprimary hrouted htripped => ?_, fun hfallback hsubmits => ?_⟩
    · exact hside.1 hprimary hrouted ((hrecord _).tripped.mpr htripped)
    · exact (hrecord _).tripped.mp (hside.2 hfallback hsubmits)

/-- An entry of one share. -/
def oneShare : OrderRequest :=
  ⟨"SPY", .equity, .long, .buy, 1, 500, 490, 520, 1, some "entry-1"⟩

/-- A circuit that opens at the first failure. -/
def oneStrike : RedundancyConfig where
  maxConsecutiveFailures := 1

/-- The primary raises on an entry, and the fallback is asked. -/
theorem routed_by_record_sample :
    ∃ w : RedundantWorld Unit Unit Unit,
      (redundantProgram Unit Unit Unit oneStrike id).Reachable w ∧
      w.trace = [.effect (.checkCooldown 0), .called ⟨.primary, .submitEntryOrder oneShare⟩,
        .effect (.recordFailure 5), .called ⟨.fallback, .submitEntryOrder oneShare⟩] ∧
      oneStrike.Tripped [.checkCooldown 0, .recordFailure 5] := by
  have h₀ := TransitionSystem.Reachable.of_init
    (T := (redundantProgram Unit Unit Unit oneStrike id).system) rfl
  have h₁ := Coroutine.reachable_start (i := 0) h₀ rfl (.submitEntryOrder oneShare) (0 : Time) rfl
  have h₂ := Coroutine.reachable_resume (i := 0) h₁ rfl ⟨.error "ConnectionError", 5⟩ rfl
  refine ⟨_, h₂, rfl, ?_⟩
  exact ((routed_by_record oneStrike id h₂).2 [.effect (.checkCooldown 0),
    .called ⟨.primary, .submitEntryOrder oneShare⟩, .effect (.recordFailure 5)]
    ⟨.fallback, .submitEntryOrder oneShare⟩ [] rfl).2 rfl rfl

/-! ## The calls of one order -/

section Routes

variable (lower : String → String) {cfg : RedundancyConfig} {circuit : Circuit}

/-- A call with its answer. -/
abbrev Answered (P B A : Type) : Type := (call : BrokerCall A) × call.Answer P B

/-- The primary raised, or told of an outage. -/
def MetOutage (outcome : Except String OrderResult) : Prop :=
  match outcome with
  | .ok result => result.success = false ∧ outage lower result = true
  | .error _ => True

/-- **Where an entry is sent**, in order, and what the caller gets. -/
inductive EntryRoute (request : OrderRequest) :
    List (Answered P B A) → Except String OrderResult → Prop
  | fallback (answer : BrokerAnswer OrderResult) :
      EntryRoute request [⟨⟨.fallback, .submitEntryOrder request⟩, answer⟩] answer.outcome
  | primary (answer : BrokerAnswer OrderResult) :
      EntryRoute request [⟨⟨.primary, .submitEntryOrder request⟩, answer⟩] answer.outcome
  | failover (answer again : BrokerAnswer OrderResult) (h : MetOutage lower answer.outcome) :
      EntryRoute request [⟨⟨.primary, .submitEntryOrder request⟩, answer⟩,
        ⟨⟨.fallback, .submitEntryOrder request⟩, again⟩] again.outcome
  | twice (answer again last : BrokerAnswer OrderResult) (result : OrderResult)
      (error : String) (hanswer : answer.outcome = .ok result)
      (h : MetOutage lower answer.outcome) (hraised : again.outcome = .error error) :
      EntryRoute request [⟨⟨.primary, .submitEntryOrder request⟩, answer⟩,
        ⟨⟨.fallback, .submitEntryOrder request⟩, again⟩,
        ⟨⟨.fallback, .submitEntryOrder request⟩, last⟩] last.outcome

theorem runs_onFallback {method : BrokerMethod A} {calls : List (Answered P B A)}
    {result : Except String (method.Reply P B)}
    (h : Runs cfg.apply (onFallback P B method) calls result) :
    ∃ answer, calls = [⟨⟨.fallback, method⟩, answer⟩] ∧ result = answer.outcome := by
  obtain ⟨answer, s, rest, hcalls, hrun⟩ := runs_await h
  obtain ⟨rfl, rfl⟩ := runs_done hrun
  exact ⟨answer, hcalls, rfl⟩

/-- After the primary raised, the fallback is asked or the exception passed on. -/
theorem runs_submissionFailed {request : OrderRequest} {error : String}
    {calls : List (Answered P B A)} {result : Except String OrderResult}
    (h : Runs cfg.apply (submissionFailed P B request error circuit) calls result) :
    calls = [] ∧ result = .error error ∨
      ∃ answer, calls = [⟨⟨.fallback, .submitEntryOrder request⟩, answer⟩] ∧
        result = answer.outcome := by
  obtain ⟨-, hrun⟩ | ⟨-, hrun⟩ := runs_ite h
  · exact .inr (runs_onFallback hrun)
  · exact .inl (runs_done hrun)

/-- **An entry keeps to its route**, whatever the other tasks do to the circuit meanwhile:
what the primary took or refused is sent nowhere else, and what met an outage is sent to the
fallback, again where that raised on it. -/
theorem submitEntryOrder_route {request : OrderRequest} {calls : List (Answered P B A)}
    {result : Except String OrderResult}
    (h : Runs cfg.apply (submitEntryOrder P B lower request circuit) calls result) :
    EntryRoute lower request calls result := by
  obtain ⟨-, hrun⟩ | ⟨-, hrun⟩ := runs_ite h
  · obtain ⟨answer, rfl, rfl⟩ := runs_onFallback hrun
    exact .fallback answer
  · obtain ⟨⟨outcome, now⟩, s, rest, rfl, hrest⟩ := runs_await hrun
    cases outcome with
    | error error =>
      obtain ⟨rfl, rfl⟩ | ⟨answer, rfl, rfl⟩ := runs_submissionFailed hrest
      · exact .primary ⟨.error error, now⟩
      · exact .failover ⟨.error error, now⟩ answer trivial
    | ok refused =>
      obtain ⟨hfailover, hagain⟩ | ⟨-, hdone⟩ := runs_ite hrest
      · have houtage : MetOutage lower (.ok refused) := by
          simp only [Bool.and_eq_true, Bool.not_eq_true'] at hfailover
          exact hfailover.1
        obtain ⟨⟨outcome, later⟩, s', rest, rfl, hlast⟩ := runs_await hagain
        cases outcome with
        | ok taken =>
          obtain ⟨rfl, rfl⟩ := runs_done hlast
          exact .failover ⟨.ok refused, now⟩ ⟨.ok taken, later⟩ houtage
        | error error =>
          obtain ⟨rfl, rfl⟩ | ⟨last, rfl, rfl⟩ := runs_submissionFailed hlast
          · exact .failover ⟨.ok refused, now⟩ ⟨.error error, later⟩ houtage
          · exact .twice ⟨.ok refused, now⟩ ⟨.error error, later⟩ last refused error rfl houtage
              rfl
      · obtain ⟨rfl, rfl⟩ := runs_done hdone
        exact .primary ⟨.ok refused, now⟩

/-- The primary answers with a status 503, and the fallback raises once. -/
theorem submitEntryOrder_route_sample :
    EntryRoute (P := Unit) (B := Unit) (A := Unit) id oneShare
      [⟨⟨.primary, .submitEntryOrder oneShare⟩,
          ⟨.ok { success := false, errorMessage := some "HTTP 503" }, 0⟩⟩,
        ⟨⟨.fallback, .submitEntryOrder oneShare⟩, ⟨.error "ConnectionError", 1⟩⟩,
        ⟨⟨.fallback, .submitEntryOrder oneShare⟩, ⟨.ok { success := true }, 2⟩⟩]
      (.ok { success := true }) := by
  have houtage : outage id { success := false, errorMessage := some "HTTP 503" } = true := by
    decide +kernel
  have hrun : Runs oneStrike.apply (submitEntryOrder Unit Unit (A := Unit) id oneShare {})
      [⟨⟨.primary, .submitEntryOrder oneShare⟩,
          ⟨.ok { success := false, errorMessage := some "HTTP 503" }, 0⟩⟩,
        ⟨⟨.fallback, .submitEntryOrder oneShare⟩, ⟨.error "ConnectionError", 1⟩⟩,
        ⟨⟨.fallback, .submitEntryOrder oneShare⟩, ⟨.ok { success := true }, 2⟩⟩]
      (.ok { success := true }) := by
    refine .await _ {} ?_
    simp only [submissionEffects, houtage]
    refine .await _ (oneStrike.apply {} (.recordFailure 0)) ?_
    exact .await _ {} (.done _)
  exact submitEntryOrder_route id hrun

/-- **Where a close is sent**, in order, and what the caller gets. -/
inductive CloseRoute (arguments : CloseArguments) :
    List (Answered P B A) → Except String OrderResult → Prop
  | fallback (answer : BrokerAnswer OrderResult) :
      CloseRoute arguments [⟨⟨.fallback, .closePosition arguments⟩, answer⟩] answer.outcome
  | confirmed (result : OrderResult) (now : Time) (h : result.success = true) :
      CloseRoute arguments [⟨⟨.primary, .closePosition arguments⟩, ⟨.ok result, now⟩⟩]
        (.ok result)
  | raised (error : String) (now : Time) (answer : BrokerAnswer OrderResult) :
      CloseRoute arguments [⟨⟨.primary, .closePosition arguments⟩, ⟨.error error, now⟩⟩,
        ⟨⟨.fallback, .closePosition arguments⟩, answer⟩] answer.outcome
  | refused (result other : OrderResult) (now later : Time) (h : result.success = false) :
      CloseRoute arguments [⟨⟨.primary, .closePosition arguments⟩, ⟨.ok result, now⟩⟩,
        ⟨⟨.fallback, .closePosition arguments⟩, ⟨.ok other, later⟩⟩]
        (.ok (if other.success then other else result))
  | twice (result : OrderResult) (error : String) (now later : Time)
      (last : BrokerAnswer OrderResult) (h : result.success = false) :
      CloseRoute arguments [⟨⟨.primary, .closePosition arguments⟩, ⟨.ok result, now⟩⟩,
        ⟨⟨.fallback, .closePosition arguments⟩, ⟨.error error, later⟩⟩,
        ⟨⟨.fallback, .closePosition arguments⟩, last⟩] last.outcome

theorem closePosition_route {arguments : CloseArguments} {calls : List (Answered P B A)}
    {result : Except String OrderResult}
    (h : Runs cfg.apply (closePosition P B arguments circuit) calls result) :
    CloseRoute arguments calls result := by
  obtain ⟨-, hrun⟩ | ⟨-, hrun⟩ := runs_ite h
  · obtain ⟨answer, rfl, rfl⟩ := runs_onFallback hrun
    exact .fallback answer
  · obtain ⟨⟨outcome, now⟩, s, rest, rfl, hrest⟩ := runs_await hrun
    cases outcome with
    | error error =>
      obtain ⟨answer, rfl, rfl⟩ := runs_onFallback hrest
      exact .raised error now answer
    | ok answered =>
      obtain ⟨hsuccess, hdone⟩ | ⟨hrefused, hagain⟩ := runs_ite hrest
      · obtain ⟨rfl, rfl⟩ := runs_done hdone
        exact .confirmed answered now hsuccess
      · have hfailed : answered.success = false := by simpa using hrefused
        obtain ⟨⟨outcome, later⟩, s', rest, rfl, hlast⟩ := runs_await hagain
        cases outcome with
        | ok other =>
          obtain ⟨rfl, rfl⟩ := runs_done hlast
          exact .refused answered other now later hfailed
        | error error =>
          obtain ⟨last, rfl, rfl⟩ := runs_onFallback hlast
          exact .twice answered error now later last hfailed

/-- **A close that is reported was confirmed.** A success the caller gets is the answer of a
broker that was asked; where the primary confirmed, it alone was asked, and where it did not,
the fallback was asked too. -/
theorem closePosition_confirmed {arguments : CloseArguments} {calls : List (Answered P B A)}
    {result : Except String OrderResult}
    (h : Runs cfg.apply (closePosition P B arguments circuit) calls result) :
    (∀ confirmed, result = .ok confirmed → confirmed.success = true →
        ∃ side now, ⟨⟨side, .closePosition arguments⟩, ⟨.ok confirmed, now⟩⟩ ∈ calls) ∧
      ((∃ confirmed now, confirmed.success = true ∧ result = .ok confirmed ∧
          calls = [⟨⟨.primary, .closePosition arguments⟩, ⟨.ok confirmed, now⟩⟩]) ∨
        (∀ refused now, ⟨⟨.primary, .closePosition arguments⟩, ⟨.ok refused, now⟩⟩ ∈ calls →
            refused.success = false) ∧
          ∃ answer, ⟨⟨.fallback, .closePosition arguments⟩, answer⟩ ∈ calls) := by
  cases closePosition_route h with
  | fallback answer =>
    obtain ⟨outcome, now⟩ := answer
    refine ⟨?_, .inr ⟨by simp, ⟨outcome, now⟩, by simp⟩⟩
    rintro confirmed rfl -
    exact ⟨.fallback, now, by simp⟩
  | confirmed answered now hsuccess =>
    refine ⟨?_, .inl ⟨answered, now, hsuccess, rfl, rfl⟩⟩
    rintro confirmed heq -
    cases heq
    exact ⟨.primary, now, by simp⟩
  | raised error now answer =>
    obtain ⟨outcome, later⟩ := answer
    refine ⟨?_, .inr ⟨by simp, ⟨outcome, later⟩, by simp⟩⟩
    rintro confirmed rfl -
    exact ⟨.fallback, later, by simp⟩
  | refused answered other now later hfailed =>
    refine ⟨?_, .inr ⟨?_, ⟨.ok other, later⟩, by simp⟩⟩
    · intro confirmed heq hsuccess
      by_cases hother : other.success = true
      · rw [if_pos hother] at heq
        cases heq
        exact ⟨.fallback, later, by simp⟩
      · rw [if_neg hother] at heq
        cases heq
        rw [hfailed] at hsuccess
        cases hsuccess
    · intro refused now' hmem
      simp only [List.mem_cons, List.not_mem_nil, or_false] at hmem
      rcases hmem with heq | heq
      · cases heq
        exact hfailed
      · cases heq
  | twice answered error now later last hfailed =>
    obtain ⟨outcome, still⟩ := last
    refine ⟨?_, .inr ⟨?_, ⟨outcome, still⟩, by simp⟩⟩
    · rintro confirmed rfl -
      exact ⟨.fallback, still, by simp⟩
    · intro refused now' hmem
      simp only [List.mem_cons, List.not_mem_nil, or_false] at hmem
      rcases hmem with heq | heq | heq
      · cases heq
        exact hfailed
      · cases heq
      · cases heq

/-- The primary does not know the position, and the fallback closes it. -/
theorem closePosition_confirmed_sample :
    ∃ side now, (⟨⟨side, .closePosition ⟨some "SPY", "MANUAL_CLOSE", none, none, none⟩⟩,
        ⟨.ok { success := true }, now⟩⟩ : Answered Unit Unit Unit)
      ∈ [⟨⟨.primary, .closePosition ⟨some "SPY", "MANUAL_CLOSE", none, none, none⟩⟩,
          ⟨.ok { success := false }, 0⟩⟩,
        ⟨⟨.fallback, .closePosition ⟨some "SPY", "MANUAL_CLOSE", none, none, none⟩⟩,
          ⟨.ok { success := true }, 1⟩⟩] := by
  have hrun : Runs oneStrike.apply
      (closePosition Unit Unit (A := Unit) ⟨some "SPY", "MANUAL_CLOSE", none, none, none⟩ {})
      [⟨⟨.primary, .closePosition ⟨some "SPY", "MANUAL_CLOSE", none, none, none⟩⟩,
          ⟨.ok { success := false }, 0⟩⟩,
        ⟨⟨.fallback, .closePosition ⟨some "SPY", "MANUAL_CLOSE", none, none, none⟩⟩,
          ⟨.ok { success := true }, 1⟩⟩]
      (.ok { success := true }) := .await _ {} (.await _ {} (.done _))
  exact (closePosition_confirmed hrun).1 { success := true } rfl rfl

/-- What a broker reported in a reconciliation: nothing where it was not asked or raised. -/
def Reported (active : List A) (calls : List (Answered P B A)) (side : BrokerSide)
    (events : List ReconciliationEvent) : Prop :=
  (∃ now, ⟨⟨side, .reconcilePositions active⟩, ⟨.ok events, now⟩⟩ ∈ calls) ∨
    events = [] ∧ ∀ replied now,
      ⟨⟨side, .reconcilePositions active⟩, ⟨.ok replied, now⟩⟩ ∉ calls

/-- The fallback's part, after what the primary reported. -/
theorem reconcileFallback_reported {active : List A} {events : List ReconciliationEvent}
    {calls : List (Answered P B A)} {result : Except String (List ReconciliationEvent)}
    (h : Runs cfg.apply (reconcileFallback P B active events) calls result) :
    ∃ answer, calls = [⟨⟨.fallback, .reconcilePositions active⟩, answer⟩] ∧
      ∃ fallback, Reported active calls .fallback fallback ∧
        result = .ok (mergeEvents events fallback) := by
  obtain ⟨⟨outcome, now⟩, s, rest, hcalls, hrest⟩ := runs_await h
  cases outcome with
  | ok fallback =>
    obtain ⟨rfl, rfl⟩ := runs_done hrest
    exact ⟨_, hcalls, fallback, .inl ⟨now, by simp [hcalls]⟩, rfl⟩
  | error error =>
    obtain ⟨rfl, rfl⟩ := runs_done hrest
    exact ⟨_, hcalls, [], .inr ⟨rfl, by simp [hcalls]⟩, by simp [mergeEvents]⟩

/-! ### Merging -/

section Merge

variable (primary fallback : List ReconciliationEvent)

theorem prefix_mergeEvents : primary <+: mergeEvents primary fallback := List.prefix_append _ _

/-- How often an event is in the merge: as often as the primary reported it, and for a signal
that the primary did not report, as often as the fallback did. -/
theorem count_mergeEvents (event : ReconciliationEvent) :
    (mergeEvents primary fallback).count event = primary.count event
      + if event.signalId ∈ primary.map (·.signalId) then 0 else fallback.count event := by
  unfold mergeEvents
  rw [List.count_append]
  congr 1
  by_cases hknown : event.signalId ∈ primary.map (·.signalId)
  · rw [if_pos hknown, List.count_eq_zero]
    intro hmem
    simpa [hknown] using (List.mem_filter.mp hmem).2
  · rw [if_neg hknown, List.count_filter (by simpa using hknown)]

/-- **No signal is in the merge twice**, if neither broker reported it twice. -/
theorem nodup_mergeEvents (hprimary : (primary.map (·.signalId)).Nodup)
    (hfallback : (fallback.map (·.signalId)).Nodup) :
    ((mergeEvents primary fallback).map (·.signalId)).Nodup := by
  unfold mergeEvents
  rw [List.map_append, List.nodup_append]
  refine ⟨hprimary, hfallback.sublist (List.filter_sublist.map _), ?_⟩
  intro known hknown other hother heq
  obtain ⟨event, hevent, rfl⟩ := List.mem_map.mp hother
  have hnew := (List.mem_filter.mp hevent).2
  rw [decide_eq_true_iff] at hnew
  exact hnew (heq ▸ hknown)

end Merge

/-- **What a reconciliation returns** of what the two brokers reported: every event of the
primary first and as often as reported, every event of the fallback about another signal as
often as reported, nothing else, and no signal twice that neither broker reported twice. -/
structure Merged (primary fallback events : List ReconciliationEvent) : Prop where
  first : primary <+: events
  count : ∀ event, events.count event = primary.count event
    + if event.signalId ∈ primary.map (·.signalId) then 0 else fallback.count event
  nodup : (primary.map (·.signalId)).Nodup → (fallback.map (·.signalId)).Nodup →
    (events.map (·.signalId)).Nodup

theorem merged_mergeEvents (primary fallback : List ReconciliationEvent) :
    Merged primary fallback (mergeEvents primary fallback) where
  first := prefix_mergeEvents primary fallback
  count := count_mergeEvents primary fallback
  nodup := nodup_mergeEvents primary fallback

/-- A stop that was reached. -/
def stopOut (signalId : SignalId) : ReconciliationEvent :=
  ⟨signalId, "SPY", .long, 490, .stopLoss, -10, "stop-1", .sell⟩

end Routes

end AgenticTrader
