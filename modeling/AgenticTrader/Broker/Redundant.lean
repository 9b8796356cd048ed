import Mathlib.Data.List.Infix
import AgenticTrader.Broker.Paper
import AgenticTrader.Library.Coroutine

/-!
# The redundant broker

`RedundantBroker` (`broker/redundant.py`): a primary broker and a fallback behind a circuit
breaker. Consecutive failures of the primary open the circuit; while it is open the calls
go to the fallback, until a success closes it or enough time has passed for the primary to
be tried again.

A method runs up to a call of one of the brokers and goes on when it has answered or
raised, so that the methods of several tasks interleave there. What a method does to the
circuit is one of three effects, `_record_failure`, `_record_success` and `_check_cooldown`,
each with the clock as it reads it. The two calls that `gather` awaits together follow one
another here: neither touches the circuit and an exception of either is kept for the end, so
that their order is seen by the two brokers alone. What the methods only pass on (positions,
balances, the position a close is about) is of any type.
-/

namespace AgenticTrader

/-! ## The circuit -/

/-- `CircuitState`: `CLOSED`, `OPEN` and `HALF_OPEN`. -/
inductive CircuitState where
  | closed
  | opened
  | halfOpen
  deriving DecidableEq

/-- `RedundancyConfig`, as far as the broker reads it. -/
structure RedundancyConfig where
  maxConsecutiveFailures : ℤ := 3
  recoveryProbeIntervalSeconds : ℚ := 60
  autoFailback : Bool := true

/-- **The circuit breaker** of a `RedundantBroker`. -/
structure Circuit where
  state : CircuitState := .closed
  consecutiveFailures : ℕ := 0
  lastFailureTime : Option Time := none
  deriving DecidableEq

/-- What a method does to the circuit. -/
inductive CircuitEffect where
  | recordFailure (now : Time)
  | recordSuccess
  | checkCooldown (now : Time)
  deriving DecidableEq

namespace RedundancyConfig

variable (cfg : RedundancyConfig)

/-- `_record_failure`. -/
def recordFailure (circuit : Circuit) (now : Time) : Circuit :=
  let failures := circuit.consecutiveFailures + 1
  { state :=
      if cfg.maxConsecutiveFailures ≤ failures ∧ circuit.state ≠ .opened then .opened
      else circuit.state
    consecutiveFailures := failures
    lastFailureTime := some now }

/-- `_record_success`. -/
def recordSuccess (circuit : Circuit) : Circuit :=
  { circuit with consecutiveFailures := 0, state := .closed }

/-- Whether the recovery interval has elapsed since a failure. -/
def recovered (since now : Time) : Prop :=
  cfg.recoveryProbeIntervalSeconds ≤ ((now - since : ℤ) : ℚ) / 1000000

instance (since now : Time) : Decidable (cfg.recovered since now) := by
  unfold recovered
  infer_instance

/-- `_check_cooldown`. -/
def checkCooldown (circuit : Circuit) (now : Time) : Circuit :=
  if circuit.state = .opened ∧ cfg.autoFailback then
    match circuit.lastFailureTime with
    | some since => if cfg.recovered since now then { circuit with state := .halfOpen } else circuit
    | none => circuit
  else circuit

/-- An effect. -/
def apply (circuit : Circuit) : CircuitEffect → Circuit
  | .recordFailure now => cfg.recordFailure circuit now
  | .recordSuccess => recordSuccess circuit
  | .checkCooldown now => cfg.checkCooldown circuit now

end RedundancyConfig

/-! ## The calls -/

/-- The two brokers. -/
inductive BrokerSide where
  | primary
  | fallback
  deriving DecidableEq

/-- The arguments of `close_position`. -/
structure CloseArguments where
  symbol : Option String
  exitReason : String
  exitPrice : Option ℚ
  quantity : Option ℚ
  contract : Option String
  deriving DecidableEq

/-- The arguments of `modify_order_stop`. -/
structure StopArguments where
  orderId : Option String
  symbol : Option String
  newStopPrice : ℚ
  clientOrderId : Option String
  deriving DecidableEq

variable (P B A : Type)

/-- **The methods of a broker**, for active positions of any type. -/
inductive BrokerMethod where
  | connect
  | disconnect
  | submitEntryOrder (request : OrderRequest)
  | closePosition (arguments : CloseArguments)
  | getPositions
  | getAccountBalance
  | reconcilePositions (active : List A)
  | startTradeStream
  | stopTradeStream
  | modifyOrderStop (arguments : StopArguments)
  | cancelAllOrders

variable {A}

/-- What a method returns. -/
@[reducible] def BrokerMethod.Reply : BrokerMethod A → Type
  | .connect => Bool
  | .disconnect => Unit
  | .submitEntryOrder _ => OrderResult
  | .closePosition _ => OrderResult
  | .getPositions => List P
  | .getAccountBalance => B
  | .reconcilePositions _ => List ReconciliationEvent
  | .startTradeStream => Unit
  | .stopTradeStream => Unit
  | .modifyOrderStop _ => OrderResult
  | .cancelAllOrders => ℤ

variable (A)

/-- A call of one of the brokers. -/
structure BrokerCall where
  side : BrokerSide
  method : BrokerMethod A

/-- **What came of a call**, and the clock as it is read then. -/
structure BrokerAnswer (α : Type) where
  outcome : Except String α
  now : Time

variable {A}

/-- What is answered to a call. -/
abbrev BrokerCall.Answer (call : BrokerCall A) : Type := BrokerAnswer (call.method.Reply P B)

/-- **A method of the redundant broker**, up to what it returns or raises. -/
abbrev BrokerRun (A α : Type) :=
  Coroutine Circuit (BrokerCall A) (BrokerCall.Answer P B) CircuitEffect (Except String α)

/-! ## The methods -/

/-- The fallback is asked, and what comes of it returned or raised. -/
def onFallback (method : BrokerMethod A) : BrokerRun P B A (method.Reply P B) :=
  .await ⟨.fallback, method⟩ (fun _ => []) (fun answer _ => .done answer.outcome)

variable {P B}

/-- `except Exception as e: self._record_failure(e)`. -/
def BrokerAnswer.failure {α : Type} (answer : BrokerAnswer α) : List CircuitEffect :=
  match answer.outcome with
  | .ok _ => []
  | .error _ => [.recordFailure answer.now]

/-- The words of an outage. -/
def outageWords : List String :=
  ["connection", "timeout", "unavailable", "503", "502", "reset", "disconnected", "not connected"]

/-- Whether an answer that is no success tells of an outage. -/
def outage (lower : String → String) (result : OrderResult) : Bool :=
  outageWords.any fun word =>
    decide (word.toList <:+: (lower (result.errorMessage.getD "")).toList)

/-- What the answer of the primary to a submission does to the circuit. -/
def submissionEffects (lower : String → String) (answer : BrokerAnswer OrderResult) :
    List CircuitEffect :=
  match answer.outcome with
  | .ok result =>
    if result.success then [.recordSuccess]
    else if outage lower result then [.recordFailure answer.now] else []
  | .error _ => [.recordFailure answer.now]

variable (P B)

/-- The handler of a submission: the fallback is asked when the circuit is open. -/
def submissionFailed (request : OrderRequest) (error : String) (circuit : Circuit) :
    BrokerRun P B A OrderResult :=
  if circuit.state = .opened then onFallback P B (.submitEntryOrder request)
  else .done (.error error)

/-- **`submit_entry_order`**, after the cooldown was checked. The fallback that is asked
after an outage is asked inside the `try`. -/
def submitEntryOrder (lower : String → String) (request : OrderRequest) (circuit : Circuit) :
    BrokerRun P B A OrderResult :=
  if circuit.state = .opened then onFallback P B (.submitEntryOrder request)
  else
    .await ⟨.primary, .submitEntryOrder request⟩ (submissionEffects lower) fun answer circuit =>
      match answer.outcome with
      | .ok result =>
        if !result.success && outage lower result && circuit.state = .opened then
          .await ⟨.fallback, .submitEntryOrder request⟩ BrokerAnswer.failure
            fun again circuit =>
              match again.outcome with
              | .ok result => .done (.ok result)
              | .error error => submissionFailed P B request error circuit
        else .done (.ok result)
      | .error error => submissionFailed P B request error circuit

/-- What a confirmation does to the circuit. -/
def closeEffects (answer : BrokerAnswer OrderResult) : List CircuitEffect :=
  match answer.outcome with
  | .ok result => if result.success then [.recordSuccess] else []
  | .error _ => [.recordFailure answer.now]

/-- **`close_position`**, after the cooldown was checked. -/
def closePosition (arguments : CloseArguments) (circuit : Circuit) :
    BrokerRun P B A OrderResult :=
  let method : BrokerMethod A := .closePosition arguments
  if circuit.state = .opened then onFallback P B method
  else
    .await ⟨.primary, method⟩ closeEffects fun answer _ =>
      match answer.outcome with
      | .ok result =>
        if result.success then .done (.ok result)
        else
          .await ⟨.fallback, method⟩ BrokerAnswer.failure fun again _ =>
            match again.outcome with
            | .ok fallback => .done (.ok (if fallback.success then fallback else result))
            | .error _ => onFallback P B method
      | .error _ => onFallback P B method

/-- An answer is a success, and an exception a failure. -/
def readEffects {α : Type} (answer : BrokerAnswer α) : List CircuitEffect :=
  match answer.outcome with
  | .ok _ => [.recordSuccess]
  | .error _ => [.recordFailure answer.now]

/-- **`get_positions`**, after the cooldown was checked. -/
def getPositions (circuit : Circuit) : BrokerRun P B A (List P) :=
  if circuit.state = .opened then onFallback P B .getPositions
  else
    .await ⟨.primary, .getPositions⟩ readEffects fun answer _ =>
      match answer.outcome with
      | .ok positions =>
        .await ⟨.fallback, .getPositions⟩ BrokerAnswer.failure fun again _ =>
          match again.outcome with
          | .ok fallback => .done (.ok (List.append (α := P) positions fallback))
          | .error _ => onFallback P B .getPositions
      | .error _ => onFallback P B .getPositions

/-- **`get_account_balance`**, after the cooldown was checked. -/
def getAccountBalance (circuit : Circuit) : BrokerRun P B A B :=
  if circuit.state = .opened then onFallback P B .getAccountBalance
  else
    .await ⟨.primary, .getAccountBalance⟩ readEffects fun answer _ =>
      match answer.outcome with
      | .ok balance => .done (.ok balance)
      | .error _ => onFallback P B .getAccountBalance

/-- The events of the fallback that the primary has not reported. -/
def mergeEvents (events fallback : List ReconciliationEvent) : List ReconciliationEvent :=
  events ++ fallback.filter fun event => event.signalId ∉ events.map (·.signalId)

/-- The fallback's part of a reconciliation. -/
def reconcileFallback (active : List A) (events : List ReconciliationEvent) :
    BrokerRun P B A (List ReconciliationEvent) :=
  .await ⟨.fallback, .reconcilePositions active⟩ (fun _ => []) fun answer _ =>
    match answer.outcome with
    | .ok fallback => .done (.ok (mergeEvents events fallback))
    | .error _ => .done (.ok events)

/-- **`reconcile_positions`**, after the cooldown was checked. -/
def reconcilePositions (active : List A) (circuit : Circuit) :
    BrokerRun P B A (List ReconciliationEvent) :=
  if circuit.state ≠ .opened then
    .await ⟨.primary, .reconcilePositions active⟩ readEffects fun answer _ =>
      match answer.outcome with
      | .ok events => reconcileFallback P B active events
      | .error _ => reconcileFallback P B active []
  else reconcileFallback P B active []

/-- **`start_trade_stream`**, after the cooldown was checked. -/
def startTradeStream (circuit : Circuit) : BrokerRun P B A Unit :=
  if circuit.state = .opened then onFallback P B .startTradeStream
  else
    .await ⟨.primary, .startTradeStream⟩ BrokerAnswer.failure fun answer _ =>
      match answer.outcome with
      | .ok _ => .done (.ok ())
      | .error _ => onFallback P B .startTradeStream

/-- **`modify_order_stop`**: it neither checks the cooldown nor records what comes of it. -/
def modifyOrderStop (arguments : StopArguments) (circuit : Circuit) :
    BrokerRun P B A OrderResult :=
  let method : BrokerMethod A := .modifyOrderStop arguments
  if circuit.state = .opened then onFallback P B method
  else
    .await ⟨.primary, method⟩ (fun _ => []) fun answer _ =>
      match answer.outcome with
      | .ok result =>
        if result.success then .done (.ok result)
        else
          .await ⟨.fallback, method⟩ (fun _ => []) fun again _ =>
            match again.outcome with
            | .ok result => .done (.ok result)
            | .error _ => onFallback P B method
      | .error _ => onFallback P B method

/-- **`cancel_all_orders`**: both brokers are asked, whatever the circuit. -/
def cancelAllOrders : BrokerRun P B A ℤ :=
  .await ⟨.primary, .cancelAllOrders⟩ (fun _ => []) fun answer _ =>
    .await ⟨.fallback, .cancelAllOrders⟩ (fun _ => []) fun again _ =>
      .done (.ok (counted answer.outcome + counted again.outcome))
where
  /-- A count, and none where the broker raised. -/
  counted : Except String ℤ → ℤ
    | .ok count => count
    | .error _ => 0

/-- What a connection does to the circuit. -/
def connectEffects (answer : BrokerAnswer Bool) : List CircuitEffect :=
  match answer.outcome with
  | .ok true => [.recordSuccess]
  | _ => [.recordFailure answer.now]

/-- **`connect`**. A fallback that is connected beforehand may fail. -/
def connect : BrokerRun P B A Bool :=
  .await ⟨.primary, .connect⟩ connectEffects fun answer _ =>
    match answer.outcome with
    | .ok true => .await ⟨.fallback, .connect⟩ (fun _ => []) fun _ _ => .done (.ok true)
    | _ => onFallback P B .connect

/-- `disconnect` and `stop_trade_stream`: both brokers are asked, and may fail. -/
def onBoth (method : BrokerMethod A) : BrokerRun P B A Unit :=
  .await ⟨.primary, method⟩ (fun _ => []) fun _ _ =>
    .await ⟨.fallback, method⟩ (fun _ => []) fun _ _ => .done (.ok ())

/-- Whether a method checks the cooldown first. -/
def BrokerMethod.checks : BrokerMethod A → Bool
  | .submitEntryOrder _ | .closePosition _ | .getPositions | .getAccountBalance
  | .reconcilePositions _ | .startTradeStream => true
  | _ => false

/-- **The redundant broker.** -/
def redundantBroker (lower : String → String) :
    Coroutine.Methods Circuit (BrokerCall A) (BrokerCall.Answer P B) CircuitEffect Time
      (BrokerMethod A) (fun method => Except String (method.Reply P B)) where
  begins method now := if method.checks then [.checkCooldown now] else []
  body
    | .connect, _ => connect P B
    | .disconnect, _ => onBoth P B .disconnect
    | .submitEntryOrder request, circuit => submitEntryOrder P B lower request circuit
    | .closePosition arguments, circuit => closePosition P B arguments circuit
    | .getPositions, circuit => getPositions P B circuit
    | .getAccountBalance, circuit => getAccountBalance P B circuit
    | .reconcilePositions active, circuit => reconcilePositions P B active circuit
    | .startTradeStream, circuit => startTradeStream P B circuit
    | .stopTradeStream, _ => onBoth P B .stopTradeStream
    | .modifyOrderStop arguments, circuit => modifyOrderStop P B arguments circuit
    | .cancelAllOrders, _ => cancelAllOrders P B

end AgenticTrader
