import AgenticTrader.Broker.OrderReads
import AgenticTrader.Library.Stateful
import AgenticTrader.Storage.Closing

/-!
# Closing a position

`AlpacaBroker.submit_position_close` (`broker/alpaca.py`): verify the position, cancel the
orders that work on its symbol, wait until each of them has ended, check again, and submit
one market order. Every call to the broker, and every note to the observer, may answer
anything or raise; the answers are those of a `CloseWorld`, which may depend on how many
calls went before. What was asked and answered is kept in order, as the trace.

The two loops that wait have no bound of their own but a deadline on a clock that nothing
is known of. They are given a number of rounds, and a run that has used them up is still
`running`, with the trace so far.
-/

namespace AgenticTrader

/-! ## What the broker sends -/

/-- A number or a date as the broker sends it: none, a text that is none, or its value. -/
inductive BrokerReading (α : Type) where
  | absent
  | unreadable
  | value (a : α)
  deriving DecidableEq

/-- **What `float` makes of a number**: it may be no number, or infinite. -/
inductive BrokerNumber where
  | nan
  | infinite (positive : Bool)
  | finite (q : ℚ)
  deriving DecidableEq

namespace BrokerNumber

/-- `0 < x`. -/
def positive : BrokerNumber → Bool
  | nan => false
  | infinite positive => positive
  | finite q => decide (0 < q)

/-- `math.isclose` with an absolute tolerance only. -/
def isCloseAbsolute (tolerance : ℚ) : BrokerNumber → BrokerNumber → Bool
  | finite a, finite b => decide (|a - b| ≤ tolerance)
  | infinite a, infinite b => a == b
  | _, _ => false

/-- `abs(x)`. -/
def abs : BrokerNumber → BrokerNumber
  | nan => nan
  | infinite _ => infinite true
  | finite q => finite |q|

/-- `q <= abs(x) + tolerance`. -/
def covers (tolerance q : ℚ) : BrokerNumber → Bool
  | nan => false
  | infinite _ => true
  | finite x => decide (q ≤ |x| + tolerance)

/-- The number, where it is one: an amount of a result is finite. -/
def toOption : BrokerNumber → Option ℚ
  | finite q => some q
  | _ => none

end BrokerNumber

structure CloseOrderFields where
  id : String
  symbol : String
  side : String
  type : String
  orderType : String
  orderClass : String
  status : String
  filledQty : BrokerReading BrokerNumber
  filledAvgPrice : BrokerReading BrokerNumber
  filledAt : BrokerReading Time
  replacedBy : Option String
  deriving DecidableEq

/-- **An order**, with its legs. -/
inductive CloseOrder where
  | mk (fields : CloseOrderFields) (legs : List CloseOrder)

namespace CloseOrder

def fields : CloseOrder → CloseOrderFields
  | mk fields _ => fields

def legs : CloseOrder → List CloseOrder
  | mk _ legs => legs

end CloseOrder

/-- **A position**; a side that is not given is the empty text. -/
structure ClosePosition where
  side : String
  assetClass : String
  qty : BrokerReading BrokerNumber
  qtyAvailable : BrokerReading BrokerNumber
  avgEntryPrice : BrokerReading BrokerNumber
  deriving DecidableEq

/-- The market clock, with the next opening as it is printed if it is an instant. -/
structure CloseClock where
  isOpen : Bool
  nextOpen : Option String
  deriving DecidableEq

/-- **`PositionCloseRequest`.** -/
structure PositionCloseRequest where
  symbol : String
  direction : Direction
  quantity : ℚ
  clientOrderId : String
  entryOrderId : Option String
  allowQueued : Bool
  quantity_pos : 0 < quantity

/-- **The market order** of a close. -/
structure MarketOrder where
  symbol : String
  qty : ℚ
  side : String
  timeInForce : String
  clientOrderId : String
  deriving DecidableEq

/-- **An exception**: a refusal of this protocol, an error of the broker's interface, any
other error, and a cancellation of the task, which is no `Exception`. -/
inductive CloseException where
  | refused (detail : String)
  | api (statusCode : Option ℕ)
  | error (typeName : String)
  | cancelled
  deriving DecidableEq

/-- What is reported to the observer. -/
inductive CloseNote where
  | preflight (symbol : String) (quantity : ℚ) (cancelOrderIds : List String)
  | cancellationRequested (orderId : String)
  | cancellationsConfirmed (orderIds : List String)
  | submitting (clientOrderId : String)
  | failed (errorType detail : String) (submissionUncertain cancellationAttempted : Bool)
  deriving DecidableEq

/-- **What was called, and what came back.** An answer of `none` to a listing is one that is
no list. -/
inductive CloseEvent where
  | position (answer : Except CloseException ClosePosition)
  | clock (answer : Except CloseException CloseClock)
  | openOrders (answer : Except CloseException (Option (List CloseOrder)))
  | history (answer : Except CloseException (Option (List CloseOrder)))
  | order (id : String) (nested : Bool) (answer : Except CloseException CloseOrder)
  | cancel (id : String) (answer : Except CloseException Unit)
  | submit (order : MarketOrder) (answer : Except CloseException CloseOrder)
  | observe (note : CloseNote) (answer : Except CloseException Unit)

/-- **A world that answers**, each call by the number of calls before it; and the texts it
is read with. -/
structure CloseWorld where
  connect : Except CloseException Bool
  position : ℕ → Except CloseException ClosePosition
  clock : ℕ → Except CloseException CloseClock
  openOrders : ℕ → Except CloseException (Option (List CloseOrder))
  history : ℕ → Except CloseException (Option (List CloseOrder))
  orderById : ℕ → String → Bool → Except CloseException CloseOrder
  cancelOrderById : ℕ → String → Except CloseException Unit
  submitOrder : ℕ → MarketOrder → Except CloseException CloseOrder
  observe : ℕ → CloseNote → Except CloseException Unit
  sleep : ℕ → Except CloseException Unit
  monotonic : ℕ → ℚ
  closeCancelTimeoutSeconds : ℚ
  lower : String → String
  upper : String → String

/-- **The state of a close**: the trace, and the two variables the handler reads. -/
structure CloseState where
  trace : List CloseEvent
  cancellationAttempts : List String
  submitting : Bool

def CloseState.start : CloseState := ⟨[], [], false⟩

/-- Why a close has not returned. -/
inductive CloseStop where
  | raised (exception : CloseException)
  | running
  deriving DecidableEq

abbrev CloseRun := Stateful CloseState CloseStop

namespace CloseRun

variable {α : Type}

def ofExcept : Except CloseException α → CloseRun α
  | .ok a => pure a
  | .error e => Stateful.raise (.raised e)

/-- A call, kept in the trace with its answer. -/
def call (event : Except CloseException α → CloseEvent) (answer : ℕ → Except CloseException α) :
    CloseRun α := do
  let reply ← Stateful.ask (fun s => answer s.trace.length)
  Stateful.change (fun s => { s with trace := s.trace ++ [event reply] })
  ofExcept reply

/-- `raise _CloseRefused(detail)` where the condition holds. -/
def refuseClose (condition : Bool) (detail : String) : CloseRun Unit :=
  if condition then Stateful.raise (.raised (.refused detail)) else pure ()

/-- `raise ValueError(...)` where the condition holds. -/
def raiseIf (condition : Bool) (typeName : String) : CloseRun Unit :=
  if condition then Stateful.raise (.raised (.error typeName)) else pure ()

/-- `float(x)`. -/
def float : BrokerReading BrokerNumber → CloseRun BrokerNumber
  | .absent => Stateful.raise (.raised (.error "TypeError"))
  | .unreadable => Stateful.raise (.raised (.error "ValueError"))
  | .value q => pure q

/-- `convert(x) if x else None`. -/
def optional : BrokerReading α → CloseRun (Option α)
  | .absent => pure none
  | .unreadable => Stateful.raise (.raised (.error "ValueError"))
  | .value a => pure (some a)

/-- `float(x or 0)`. -/
def floatOrZero : BrokerReading BrokerNumber → CloseRun BrokerNumber
  | .absent => pure (.finite 0)
  | .unreadable => Stateful.raise (.raised (.error "ValueError"))
  | .value q => pure q

end CloseRun

/-- `ALPACA_MAX_REPLACEMENT_CHAIN`. -/
def alpacaMaxReplacementChain : ℕ := 100

/-- The statuses in which an order has ended. -/
def closeTerminalStatuses : List String := ["canceled", "expired", "rejected", "filled"]

namespace CloseWorld

variable (w : CloseWorld) (request : PositionCloseRequest)

open CloseRun

/-- **`_enum`**: the lower-cased text, from its last dot on. -/
def enum (text : String) : String :=
  String.ofList ((w.lower text).toList.reverse.takeWhile (· ≠ '.')).reverse

def statusOf (order : CloseOrder) : String := w.enum order.fields.status

def terminal (order : CloseOrder) : Bool := closeTerminalStatuses.contains (w.statusOf order)

def getOrder (id : String) (nested : Bool) : CloseRun CloseOrder :=
  call (.order id nested) (fun n => w.orderById n id nested)

def observed (note : CloseNote) : CloseRun Unit :=
  call (.observe note) (fun n => w.observe n note)

/-! ## Replacements and brackets -/

/-- What identifies an order over its replacements. -/
def identityFields (order : CloseOrder) : List String :=
  [w.enum order.fields.symbol, w.enum order.fields.side, w.enum order.fields.type]

/-- The loop of `_current_order`, with the hops that may still be made. -/
def followReplacements (expected : List String) : ℕ → List String → CloseOrder → CloseRun CloseOrder
  | 0, _, _ => Stateful.raise (.raised (.error "ValueError"))
  | n + 1, seen, order => do
    raiseIf (seen.contains order.fields.id) "ValueError"
    raiseIf (w.identityFields order != expected) "ValueError"
    if truthy order.fields.replacedBy = false then pure order
    else
      let next := order.fields.replacedBy.getD ""
      let replacement ← w.getOrder next false
      raiseIf (replacement.fields.id != next) "ValueError"
      followReplacements expected n (order.fields.id :: seen) replacement

/-- **`_current_order`**: follow the replacements, verifying each hop. -/
def currentOrder (order : CloseOrder) : CloseRun CloseOrder :=
  w.followReplacements (w.identityFields order) alpacaMaxReplacementChain [] order

/-- `[await self._current_order(leg) for leg in legs]`. -/
def currentOrders : List CloseOrder → CloseRun (List CloseOrder)
  | [] => pure []
  | leg :: legs => do
    let current ← w.currentOrder leg
    let rest ← currentOrders legs
    pure (current :: rest)

/-- `expanded[id] = order`. -/
def putOrder (expanded : List CloseOrder) (order : CloseOrder) : List CloseOrder :=
  if expanded.any (fun o => o.fields.id == order.fields.id) then
    Table.updateWhere (fun o => o.fields.id == order.fields.id) (fun _ => order) expanded
  else expanded ++ [order]

/-- The legs of another symbol refuse; the others that have not ended join the group. -/
def joinLegs : List CloseOrder → List CloseOrder → CloseRun (List CloseOrder)
  | [], expanded => pure expanded
  | leg :: legs, expanded => do
    refuseClose (leg.fields.symbol != request.symbol) "Bracket leg symbol mismatch; no orders changed."
    joinLegs legs (if w.terminal leg then expanded else putOrder expanded leg)

/-- The legs of the tracked entry, each at its last replacement. -/
def joinEntryLegs : List CloseOrder → List CloseOrder → CloseRun (List CloseOrder)
  | [], expanded => pure expanded
  | leg :: legs, expanded => do
    let leg ← w.currentOrder leg
    let expanded ← w.joinLegs request [leg] expanded
    joinEntryLegs legs expanded

def bracketClasses : List String := ["bracket", "oco", "oto"]

/-- The history of the symbol, read once. -/
def bracketHistory : Option (List CloseOrder) → CloseRun (List CloseOrder)
  | some history => pure history
  | none => do
    let response ← call .history (fun n => w.history n)
    match response with
    | none => Stateful.raise (.raised (.error "TypeError"))
    | some history => pure history

/-- The group of a working order: its parent and the parent's legs, and the history if it
was read for it. -/
def bracketGroup (order : CloseOrder) (history : Option (List CloseOrder)) :
    CloseRun (CloseOrder × List CloseOrder × Option (List CloseOrder)) := do
  let orderId := order.fields.id
  let parentId := if w.enum order.fields.orderClass != "oco" ∧ truthy request.entryOrderId then
      request.entryOrderId.getD ""
    else orderId
  let parent ← w.getOrder parentId true
  let legs ← w.currentOrders parent.legs
  if legs ≠ [] then pure (parent, legs, history)
  else
    let history ← w.bracketHistory history
    match history.filter (fun o => o.legs.any (fun leg => leg.fields.id == orderId)) with
    | [parent] =>
      let legs ← w.currentOrders parent.legs
      pure (parent, legs, some history)
    | _ => Stateful.raise (.raised (.refused
        "Cannot identify the exact bracket group, including held legs; no orders changed."))

/-- The loop over the working orders of `_expand_close_orders`. -/
def expandGroups : List CloseOrder → List CloseOrder → Option (List CloseOrder) →
    CloseRun (List CloseOrder)
  | [], expanded, _ => pure expanded
  | order :: orders, expanded, history => do
    if bracketClasses.contains (w.enum order.fields.orderClass) = false then
      expandGroups orders expanded history
    else
      let (parent, legs, history) ← w.bracketGroup request order history
      refuseClose
        (!(parent.fields.id :: legs.map (fun leg => leg.fields.id)).contains order.fields.id)
        "Working order does not belong to the verified bracket group; no orders changed."
      let expanded ← w.joinLegs request legs expanded
      expandGroups orders expanded history

/-- **`_expand_close_orders`**: the open orders with the held legs of their brackets. -/
def expandCloseOrders (orders : List CloseOrder) : CloseRun (List CloseOrder) := do
  let expanded := orders.foldl putOrder []
  let expanded ← if truthy request.entryOrderId then do
      let entry ← w.getOrder (request.entryOrderId.getD "") true
      w.joinEntryLegs request entry.legs expanded
    else pure expanded
  w.expandGroups request expanded expanded none

/-! ## The checks -/

/-- The direction that a side is taken for: any but "long" is a short one. -/
def directionOf (position : ClosePosition) : Direction :=
  if w.enum position.side = "long" then .long else .short

/-- **`check_position`**: the direction and the quantity asked for. -/
def checkPosition : CloseRun ClosePosition := do
  let position ← call .position w.position
  if w.directionOf position ≠ request.direction then
    refuseClose true
      "Broker position changed; refresh positions before closing (partial fills require review)."
  else
    let qty ← float position.qty
    refuseClose (!qty.abs.isCloseAbsolute brokerQuantityTolerance (.finite request.quantity))
      "Broker position changed; refresh positions before closing (partial fills require review)."
  pure position

/-- **`check_session`**: an equity is closed in the regular session, or queued on request. -/
def checkSession (position : ClosePosition) : CloseRun Unit := do
  if w.enum position.assetClass = "us_equity" then
    let clock ← call .clock w.clock
    let opening := clock.nextOpen.getD "unavailable from broker"
    refuseClose (!clock.isOpen && !request.allowQueued)
      ("Regular market is closed. No close submitted or queued. "
        ++ s!"Next regular open: {opening}. Retry during regular market hours.")
  else pure ()

/-- **`open_orders`**, of the symbol; a full page may be truncated. -/
def openSymbolOrders : CloseRun (List CloseOrder) := do
  let answer ← call .openOrders w.openOrders
  match answer with
  | none => Stateful.raise (.raised (.error "TypeError"))
  | some orders => do
    refuseClose (decide (alpacaMaxOrdersPerPage ≤ orders.length))
      "Open-order list may be truncated; refusing incomplete cancellation."
    pure orders

/-- **`_entry_order`**: the tracked entry, by id, symbol and side. -/
def entryOrder (entryOrderId : String) : CloseRun CloseOrder := do
  let order ← w.getOrder entryOrderId true
  let side := if request.direction = .long then "buy" else "sell"
  raiseIf (order.fields.id != entryOrderId
    || order.fields.symbol != w.upper (stripSlashes request.symbol)
    || w.enum order.fields.side != side) "ValueError"
  pure order

/-- Some leg has a fill. -/
def anyFilled : List CloseOrder → CloseRun Bool
  | [] => pure false
  | leg :: legs => do
    let filled ← floatOrZero leg.fields.filledQty
    if filled.positive then pure true else anyFilled legs

/-- The tracked entry is filled, whole, not yet exited, and at the cost of the position. -/
def checkEntry (position : ClosePosition) (entryOrderId : String) : CloseRun Unit := do
  let entry ← w.entryOrder request entryOrderId
  if w.statusOf entry ≠ "filled" then
    refuseClose true "Tracked entry must be fully filled and match the broker position quantity."
  else
    let filled ← floatOrZero entry.fields.filledQty
    refuseClose (!filled.isCloseAbsolute brokerQuantityTolerance (.finite request.quantity))
      "Tracked entry must be fully filled and match the broker position quantity."
  let exited ← anyFilled entry.legs
  refuseClose exited "Tracked bracket already has exit fills; reconcile before another close."
  let paid ← float entry.fields.filledAvgPrice
  let cost ← float position.avgEntryPrice
  refuseClose (!paid.isCloseAbsolute brokerPriceTolerance cost)
    "Broker cost basis differs from the tracked entry; reconcile before closing."

/-! ## The cancellations -/

/-- `contextlib.suppress(APIError)`. -/
def suppressApi (m : CloseRun Unit) : CloseRun Unit :=
  m.handle (fun stop =>
    match stop with
    | .raised (.api _) => pure ()
    | stop => Stateful.raise stop)

/-- One order: it is read, and cancelled if it has not ended; the attempt is noted first. -/
def cancelOrder (order : CloseOrder) : CloseRun Unit := do
  let orderId := order.fields.id
  let current ← w.getOrder orderId false
  if w.terminal current then pure ()
  else
    w.observed (.cancellationRequested orderId)
    Stateful.change (fun s =>
      { s with cancellationAttempts := s.cancellationAttempts ++ [orderId] })
    suppressApi (call (.cancel orderId) (fun n => w.cancelOrderById n orderId))

def cancelOrders : List CloseOrder → CloseRun Unit
  | [] => pure ()
  | order :: orders => do
    w.cancelOrder order
    cancelOrders orders

/-- **One round of polling**: the orders that have not ended yet. -/
def pollOrders : List CloseOrder → CloseRun (List String)
  | [] => pure []
  | order :: orders => do
    let current ← w.getOrder order.fields.id false
    if w.statusOf current = "filled" then
      refuseClose true "An order filled during cancellation; reconcile before closing."
    else
      let filled ← floatOrZero current.fields.filledQty
      refuseClose filled.positive
        "An order filled during cancellation; reconcile before closing."
    let pending ← pollOrders orders
    pure (if w.terminal current then pending else current.fields.id :: pending)

/-- The clock, and a pause. -/
def monotonicNow : CloseRun ℚ := Stateful.ask (fun s => w.monotonic s.trace.length)

def pause : CloseRun Unit := do
  let reply ← Stateful.ask (fun s => w.sleep s.trace.length)
  ofExcept reply

/-- **The first loop that waits**: until every order has ended. -/
def awaitCancelled (orders : List CloseOrder) (deadline : ℚ) : ℕ → CloseRun Unit
  | 0 => Stateful.raise .running
  | rounds + 1 => do
    let pending ← w.pollOrders orders
    if pending = [] then pure ()
    else
      let now ← w.monotonicNow
      refuseClose (decide (deadline ≤ now))
        "Order cancellations were not confirmed; no close order submitted."
      w.pause
      awaitCancelled orders deadline rounds

/-- **The second loop that waits**: until the quantity is available, with no order open. -/
def awaitAvailable (deadline : ℚ) : ℕ → CloseRun ClosePosition
  | 0 => Stateful.raise .running
  | rounds + 1 => do
    let orders ← w.openSymbolOrders
    refuseClose (!orders.isEmpty)
      "New or remaining orders appeared during cancellation; no close submitted."
    let position ← w.checkPosition request
    let available ← floatOrZero position.qtyAvailable
    if available.covers brokerQuantityTolerance request.quantity then pure position
    else
      let now ← w.monotonicNow
      refuseClose (decide (deadline ≤ now))
        "Broker quantity remains reserved; no close order submitted."
      w.pause
      awaitAvailable deadline rounds

/-! ## The close -/

/-- **`_close_result`.** -/
def closeResult (order : CloseOrder) : CloseRun OrderResult := do
  raiseIf (order.fields.id == "") "ValueError"
  let status := w.statusOf order
  let qty ← floatOrZero order.fields.filledQty
  let terminalFailure := ["canceled", "expired", "rejected"].contains status
  let closeStatus : CloseRequestStatus :=
    if status = "filled" then .completed
    else if terminalFailure then (if qty ≠ .finite 0 then .unknown else .failed)
    else .submitted
  let price ← optional order.fields.filledAvgPrice
  let filledAt ← optional order.fields.filledAt
  pure
    { success := !terminalFailure
      orderId := some order.fields.id
      fillPrice := price.bind BrokerNumber.toOption
      fillTimestamp := filledAt
      filledQuantity := qty.toOption
      errorMessage :=
        if terminalFailure then
          if qty ≠ .finite 0 then some "Close order ended with a partial fill; reconcile before another close."
          else some s!"Broker close order {status}."
        else none
      closeStatus := some closeStatus }

/-- The order that closes the position. -/
def closingOrder (position : ClosePosition) : MarketOrder where
  symbol := request.symbol
  qty := request.quantity
  side := if request.direction = .long then "sell" else "buy"
  timeInForce := if w.enum position.assetClass = "crypto" then "gtc" else "day"
  clientOrderId := request.clientOrderId

/-- The checks, up to the orders that are to be cancelled. -/
def prepareClose : CloseRun (List CloseOrder) := do
  let position ← w.checkPosition request
  w.checkSession request position
  if truthy request.entryOrderId then w.checkEntry request position (request.entryOrderId.getD "")
  else pure ()
  let working ← w.openSymbolOrders
  w.expandCloseOrders request working

/-- The cancellations, and the checks after them. -/
def clearOrders (orders : List CloseOrder) (rounds : ℕ) : CloseRun ClosePosition := do
  refuseClose (orders.any (fun order => w.enum order.fields.type == "market"
      || w.enum order.fields.orderType == "market"))
    "A market order is already working for this symbol; wait for reconciliation."
  w.observed (.preflight request.symbol request.quantity (orders.map (fun o => o.fields.id)))
  w.cancelOrders orders
  let now ← w.monotonicNow
  let deadline := now + w.closeCancelTimeoutSeconds
  w.awaitCancelled orders deadline rounds
  let attempts ← Stateful.ask CloseState.cancellationAttempts
  w.observed (.cancellationsConfirmed attempts)
  w.awaitAvailable request deadline rounds

/-- The submission. -/
def submitClose (position : ClosePosition) : CloseRun OrderResult := do
  w.checkSession request position
  w.observed (.submitting request.clientOrderId)
  Stateful.change (fun s => { s with submitting := true })
  let order ← call (.submit (w.closingOrder request position))
    (fun n => w.submitOrder n (w.closingOrder request position))
  w.closeResult order

/-- The steps that the handler guards. -/
def closeSteps (rounds : ℕ) : CloseRun OrderResult := do
  let orders ← w.prepareClose request
  let position ← w.clearOrders request orders rounds
  w.submitClose request position

/-- What the operator reads. -/
def protectionLost : String :=
  " Protective orders may have been cancelled; inspect this position at the broker."

def protectionKept : String :=
  " Existing protective orders were left unchanged by this request."

/-- `type(exc).__name__`. -/
def typeName : CloseException → String
  | .refused _ => "_CloseRefused"
  | .api _ => "APIError"
  | .error name => name
  | .cancelled => "CancelledError"

/-- The detail of a failure. -/
def failureDetail (exception : CloseException) (submitting : Bool)
    (cancellationAttempts : List String) : String :=
  let error :=
    match exception with
    | .api (some code) => if code ≠ 0 then s!"HTTP {code}" else typeName exception
    | _ => typeName exception
  let detail :=
    match exception with
    | .refused detail => detail
    | _ =>
      if submitting then
        s!"Broker close outcome is uncertain ({error}); awaiting reconciliation. Do not resubmit."
      else
        s!"Broker close checks could not complete ({error}); no close order submitted. Inspect /positions and broker orders."
  if cancellationAttempts ≠ [] then detail ++ protectionLost
  else if submitting then detail
  else detail ++ protectionKept

/-- The report of a failure, read off the state in which the steps stopped. -/
def reportFailure (exception : CloseException) : CloseRun OrderResult := do
  let s ← Stateful.ask (fun s => s)
  let detail := failureDetail exception s.submitting s.cancellationAttempts
  w.observed (.failed (typeName exception) detail s.submitting (s.cancellationAttempts ≠ []))
  pure { success := false, errorMessage := some detail, submissionUncertain := s.submitting }

/-- `except Exception`. -/
def closeFailed : CloseStop → CloseRun OrderResult
  | .running => Stateful.raise .running
  | .raised .cancelled => Stateful.raise (.raised .cancelled)
  | .raised exception => w.reportFailure exception

/-- **`submit_position_close`**, with the rounds that its loops may take. -/
def submitPositionClose (rounds : ℕ) : CloseRun OrderResult :=
  match w.connect with
  | .error exception => Stateful.raise (.raised exception)
  | .ok false => pure { success := false, errorMessage := some "Broker connection failed" }
  | .ok true => Stateful.handle (w.closeSteps request rounds) w.closeFailed

end CloseWorld

end AgenticTrader
