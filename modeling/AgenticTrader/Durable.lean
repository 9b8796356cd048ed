import AgenticTrader.Library.WireNumber

/-!
# The execution vocabulary

The values the durable workflow is written in: the statuses of signals,
work items and close requests (`constants.py`, `execution/durable.py`), the
requests and results that cross the broker boundary (`broker/base.py`), and
the observation of a broker order, which keeps its quantities as the wire
strings they came in.

A record holds the fields that some modelled function reads or writes. The
descriptive ones – a ticker, a raw broker response, a Telegram message id –
are left out, and so is the audit table, which nothing reads.
-/

namespace AgenticTrader

/-- An instant, in microseconds UTC. -/
abbrev Time := ℤ

/-- **A `uuid4`**: the number of its draw. Only equality of identifiers is
ever used, and two draws differ. -/
abbrev Uuid := ℕ

/-- The autoincremented key of a signal. -/
abbrev SignalId := ℕ

inductive Direction where
  | long
  | short
  deriving DecidableEq, Repr

/-- `1` for a long direction, `-1` for a short one. -/
def Direction.sign (direction : Direction) : ℚ := if direction = .long then 1 else -1

inductive AssetClass where
  | futures
  | equity
  | crypto
  | fx
  | option
  deriving DecidableEq, Repr

inductive OrderSide where
  | buy
  | sell
  deriving DecidableEq, Repr

/-! ## Statuses -/

/-- Lifecycle state of a signal. -/
inductive SignalStatus where
  | pending
  | submitting
  | executed
  | dismissed
  | failed
  | expired
  | closedWin
  | closedLoss
  | closedManual
  deriving DecidableEq, Repr

inductive WorkStatus where
  | queued
  | checking
  | submitting
  | unknown
  | accepted
  | rejected
  | delivered
  | dead
  deriving DecidableEq, Repr

/-- The value of a status as the notices print it. -/
def WorkStatus.text : WorkStatus → String
  | .queued => "queued"
  | .checking => "checking"
  | .submitting => "submitting"
  | .unknown => "unknown"
  | .accepted => "accepted"
  | .rejected => "rejected"
  | .delivered => "delivered"
  | .dead => "dead"

/-- `ENTRY_BLOCKING`: the entry statuses that hold the queue. -/
def entryBlocking : List WorkStatus :=
  [.queued, .checking, .submitting, .unknown]

/-- An entry whose outcome nothing has settled yet. -/
def WorkStatus.blocking (s : WorkStatus) : Bool :=
  s ∈ entryBlocking

/-- A claimed entry: past the queue, not yet settled. -/
def WorkStatus.inFlight : WorkStatus → Bool
  | .checking => true
  | .submitting => true
  | .unknown => true
  | _ => false

/-- The statuses no worker can resubmit from: the submission authority was
committed and its outcome is not known. -/
def WorkStatus.unresolved : WorkStatus → Bool
  | .submitting => true
  | .unknown => true
  | _ => false

inductive CloseRequestStatus where
  | claimed
  | submitted
  | unknown
  | completed
  | failed
  deriving DecidableEq, Repr

def CloseRequestStatus.text : CloseRequestStatus → String
  | .claimed => "claimed"
  | .submitted => "submitted"
  | .unknown => "unknown"
  | .completed => "completed"
  | .failed => "failed"

/-- `status IN ACTIVE_CLOSE_STATUSES`. -/
def CloseRequestStatus.active : CloseRequestStatus → Bool
  | .claimed => true
  | .submitted => true
  | .unknown => true
  | _ => false

/-- Who asked for an entry: an operator tap or the auto-entry sweep. -/
inductive EntryTrigger where
  | tap
  | auto
  deriving DecidableEq, Repr

/-- Why an entry cancellation exists. -/
inductive CancelCause where
  | deadline
  | operator
  deriving DecidableEq, Repr

def CancelCause.text : CancelCause → String
  | .deadline => "deadline"
  | .operator => "operator"

/-- The kinds of the journal's events the modelled transactions append. -/
inductive EventKind where
  | entryQueued
  | entryChecking
  | entrySubmitting
  | entryResolved
  | entryCancelRequested
  | entryCancelResolved
  | entryLifetimeMissed
  | lifetimeReview
  | closeRequested
  | closeResolved
  | orderObserved
  | positionClosed
  | notificationQueued
  | notificationAttempt
  | notificationResult
  | notificationRequeued
  deriving DecidableEq, Repr

/-! ## The broker boundary -/

/-- `BROKER_PRICE_TOLERANCE`. -/
def brokerPriceTolerance : ℚ := 1 / 10 ^ 8

/-- **An order request**, as `execute_signal_by_id` builds it: the signal it
enters and the bracket of the card. -/
structure OrderRequest where
  symbol : String
  assetClass : AssetClass
  direction : Direction
  side : OrderSide
  quantity : ℚ
  entryPrice : ℚ
  stopLoss : ℚ
  takeProfit : ℚ
  signalId : SignalId
  clientOrderId : Option String
  deriving DecidableEq

/-- What the broker answered to a submission or to a lookup. -/
structure OrderResult where
  success : Bool
  orderId : Option String := none
  fillPrice : Option ℚ := none
  fillTimestamp : Option Time := none
  filledQuantity : Option ℚ := none
  errorMessage : Option String := none
  submissionUncertain : Bool := false
  closeStatus : Option CloseRequestStatus := none
  deriving DecidableEq

/-- **A broker-reported cumulative order state.** Quantities and prices are
the strings the broker sent. -/
structure OrderObservation where
  orderId : String
  clientOrderId : String
  symbol : String
  side : String
  status : String
  quantity : String
  filledQuantity : String
  averageFillPrice : Option String := none
  limitPrice : Option String := none
  stopPrice : Option String := none
  orderType : String
  orderClass : String
  updatedAt : WireTime
  submittedAt : Option WireTime := none
  filledAt : Option WireTime := none
  replaces : Option String := none
  replacedBy : Option String := none
  parentOrderId : Option String := none
  source : String := "rest"
  deriving DecidableEq

/-- `text.strip("/")`. -/
def stripSlashes (text : String) : String :=
  String.ofList ((((text.toList.dropWhile (· = '/')).reverse).dropWhile (· = '/')).reverse)

/-- `bool(text)` of an optional string: absent and empty are both false. -/
def truthy (text : Option String) : Bool :=
  text.any (· ≠ "")

/-- `Decimal(a) == Decimal(b)`, or `none` where it raises. -/
def decimalEq (a b : String) : Option Bool := do
  let x ← WireDecimal.ofString? a
  let y ← WireDecimal.ofString? b
  x.eq? y

/-- `Decimal(a) < Decimal(b)`, or `none` where it raises. -/
def decimalLt (a b : String) : Option Bool := do
  let x ← WireDecimal.ofString? a
  let y ← WireDecimal.ofString? b
  x.lt? y

end AgenticTrader
