import AgenticTrader.Durable
import Mathlib.Data.Rat.Cast.Order

/-!
# Operational incidents

`diagnostics/incidents.py`: what a stream of readiness observations of one
component makes of its incident. A failure is pending until it has lasted for
`failure_seconds`, an open incident is over once the component has been ready
for `recovery_seconds`, and in between it may flap. The notices follow a clock
of their own – an opening waits for the alert window, and is withheld while
the desk is muted or notifications are off – so a notice may come long after
the phase changed, or not at all.
-/

namespace AgenticTrader

inductive IncidentPhase where
  | healthy
  | pending
  | open
  | recovering
  deriving DecidableEq, Repr

inductive NoticeKind where
  | opened
  | recovered
  | reminder
  deriving DecidableEq, Repr

inductive WithheldReason where
  | quietHours
  | notificationsDisabled
  | notAnnounced
  deriving DecidableEq, Repr

structure WithheldNotice where
  kind : NoticeKind
  reason : WithheldReason
  deriving DecidableEq

/-- **The incident of a component.** -/
structure IncidentState where
  phase : IncidentPhase := .healthy
  incidentId : Option Uuid := none
  failedSince : Option Time := none
  recoveringSince : Option Time := none
  lastNotifiedAt : Option Time := none
  notificationId : Option Uuid := none
  deriving DecidableEq

structure OperationalNotice where
  component : String
  incidentId : Uuid
  kind : NoticeKind
  observedAt : Time
  failedSince : Time
  detail : String
  deriving DecidableEq

/-- What `advance` reads of `OperationsConfig`. -/
structure OperationsConfig where
  notificationsEnabled : Bool := true
  failureSeconds : ℚ := 120
  recoverySeconds : ℚ := 60
  reminderSeconds : ℚ := 3600

/-- `(later - since).total_seconds()`. -/
def totalSeconds (since later : Time) : ℚ :=
  ((later - since : ℤ) : ℚ) / 1000000

/-- **`_opening_due`.** -/
def openingDue (failedSince observedAt : Time) (policy : OperationsConfig)
    (alertSince : Option Time) : Bool :=
  let since := match alertSince with
    | some alert => max failedSince alert
    | none => failedSince
  decide (policy.failureSeconds ≤ totalSeconds since observedAt)

/-- **One observation of a component.** -/
structure Observation where
  ready : Bool
  observedAt : Time
  policy : OperationsConfig
  muted : Bool := false
  alertSince : Option Time := none

/-- The opening of an incident that is due. -/
def openingNotice (o : Observation) (failedSince : Time) : Option NoticeKind :=
  if openingDue failedSince o.observedAt o.policy o.alertSince then some .opened else none

/-- The part of `advance` that moves a ready component. -/
def advanceReady (o : Observation) (state : IncidentState) : IncidentState × Option NoticeKind :=
  match state.phase with
  | .pending => ({}, none)
  | .open => ({ state with phase := .recovering, recoveringSince := some o.observedAt }, none)
  | .recovering =>
    match state.recoveringSince with
    | some since =>
      if o.policy.recoverySeconds ≤ totalSeconds since o.observedAt then
        ({ state with phase := .healthy }, some .recovered)
      else (state, none)
    | none => (state, none)
  | .healthy => (state, none)

/-- The part of `advance` that moves a failing component. `uuid` is the
identifier a new incident gets. -/
def advanceFailing (o : Observation) (deliveryComplete : Bool) (uuid : Uuid)
    (state : IncidentState) : Except String (IncidentState × Option NoticeKind) :=
  match state.phase with
  | .healthy =>
    .ok ({ phase := .pending, incidentId := some uuid, failedSince := some o.observedAt }, none)
  | .recovering => .ok ({ state with phase := .open, recoveringSince := none }, none)
  | .pending =>
    match state.failedSince with
    | some since =>
      if o.policy.failureSeconds ≤ totalSeconds since o.observedAt then
        -- the phase opens on the debounce, the notice waits for the alert clock
        .ok ({ state with phase := .open }, openingNotice o since)
      else .ok (state, none)
    | none => .ok (state, none)
  | .open =>
    match state.lastNotifiedAt with
    | none =>
      match state.failedSince with
      | some since => .ok (state, openingNotice o since)
      | none => .error "AssertionError"
    | some last =>
      if deliveryComplete && decide (o.policy.reminderSeconds ≤ totalSeconds last o.observedAt) then
        .ok (state, some .reminder)
      else .ok (state, none)

/-- Why a notice is withheld. -/
def withheldReason (o : Observation) (state : IncidentState) (kind : NoticeKind) :
    Option WithheldReason :=
  if o.muted then some .quietHours
  else if !o.policy.notificationsEnabled then some .notificationsDisabled
  else if kind = .recovered ∧ state.lastNotifiedAt = none then some .notAnnounced
  else none

/-- The notice that is sent, and the one that is not. -/
def announce (o : Observation) (state : IncidentState) :
    Option NoticeKind → IncidentState × Option NoticeKind × Option WithheldNotice
  | none => (state, none, none)
  | some kind =>
    match withheldReason o state kind with
    | some reason => (state, none, some ⟨kind, reason⟩)
    | none => ({ state with lastNotifiedAt := some o.observedAt }, some kind, none)

/-- **`advance`.** -/
def advance (o : Observation) (deliveryComplete : Bool) (uuid : Uuid) (state : IncidentState) :
    Except String (IncidentState × Option NoticeKind × Option WithheldNotice) :=
  if o.ready then
    let moved := advanceReady o state
    .ok (announce o moved.1 moved.2)
  else
    match advanceFailing o deliveryComplete uuid state with
    | .ok moved => .ok (announce o moved.1 moved.2)
    | .error e => .error e

end AgenticTrader
