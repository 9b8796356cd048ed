import AgenticTrader.Library.Processes
import AgenticTrader.Storage.Workflow
import AgenticTrader.Storage.Cards
import AgenticTrader.Storage.Lifetimes
import AgenticTrader.Storage.Closing
import AgenticTrader.Storage.Positions

/-!
# The daemon, the operator and everyone else

The processes that run over the database of one scope. Any number of them
run at once – the daemon's loops, Telegram handlers, CLI commands – and each
is a sequence of transactions and broker calls; between any two of them any
other process may act, and the process itself may crash.

* `EntryExecutionService.dispatch_one` and `recover` (`execution/entries.py`);
* `TradeLifetimeService._submit_cancel`, `_recover_cancel` and `recover`
  (`execution/lifetimes.py`);
* `TradingCopilot.execute_signal_by_id`, `resume_trading` and
  `sync_entry_executions` (`agent/copilot.py`);
* `PositionCloseService.close` and `recover` (`execution/closing.py`);
* and the callers of a single transaction: card handlers, sweeps, the order
  stream, lifetime reviews, the panic button.

What a process decides from data outside the database – a preflight, a
price, a broker answer – is left open: any decision is a step. So are the
clock readings, which need not agree or advance. The one thing assumed of
the broker is kept in a parameter of its own, `Env.finds`, so that results
say when they use it.
-/

namespace AgenticTrader

/-- **What is fixed for a run**: the configuration, the digest observations
are keyed by, and which entries the broker's lookup may answer for, given
those handed to it. -/
structure Env where
  cfg : Config
  digest : OrderObservation → String
  finds : List Uuid → Uuid → Prop

/-- `find_entry_order` is an exact lookup by client order id: it answers only
for an order that was handed over. -/
def Env.ExactLookup (env : Env) : Prop :=
  ∀ handed id, env.finds handed id → id ∈ handed

/-! ## Transactions -/

/-- The transactions, by the name of the function that makes them. -/
inductive Op where
  | recordSignal
  | dismissSignal
  | expireSignal
  | replaceSignal
  | expireStaleSignals
  | enqueueEntry
  | claimEntry
  | beginSubmission
  | resolveEntry
  | beginCancel
  | resolveCancel
  | observeOrders
  | rebuildOrderViews
  | review
  | missedBound
  | setTradingHalted
  | setTradingHaltReason
  | claimCloseRequest
  | saveExitOrder
  | updateCloseRequest
  | updateSignalExecution
  | updatePositionStop
  | closePosition
  deriving DecidableEq, Repr

/-- **What a transaction does to the database**, over every argument it can
be called with. A transaction that raises is rolled back and is no step. -/
inductive Transaction (env : Env) : Op → Db → Db → Prop where
  | recordSignal {db : Db} (now : Time) (card : CardFields) (notify : Bool) :
      Transaction env .recordSignal db (db.recordSignal now card notify).1
  | dismissSignal {db : Db} (id : SignalId) :
      Transaction env .dismissSignal db (db.dismissSignal id).1
  | expireSignal {db : Db} (id : SignalId) :
      Transaction env .expireSignal db (db.expireSignal id).1
  | replaceSignal {db : Db} (now : Time) (oldId : SignalId) (card : CardFields) :
      Transaction env .replaceSignal db (db.replaceSignal now oldId card).1
  | expireStaleSignals {db : Db} (now clock : Time) (configured : String → Bool) :
      Transaction env .expireStaleSignals db
        (db.expireStaleSignals env.cfg now clock configured).1
  | enqueueEntry {db : Db} (ev : EntryEvidence) (now : Time) (request : OrderRequest)
      (trigger : EntryTrigger) :
      Transaction env .enqueueEntry db (db.enqueueEntry env.cfg ev now request trigger).1
  | claimEntry {db : Db} (now : Time) :
      Transaction env .claimEntry db (db.claimEntry env.cfg.entryPreflightLease now).1
  | beginSubmission {db : Db} (ev : EntryEvidence) (riskFingerprint : Option String)
      (context : Option CapacityCheck) (t₀ t₁ t₂ : Time) (item : EntryItem) :
      Transaction env .beginSubmission db
        (db.beginSubmission env.cfg ev riskFingerprint context t₀ t₁ t₂ item).1
  | resolveEntry {db : Db} (now : Time) (item : EntryItem) (result : OrderResult)
      (recovery : Bool) :
      Transaction env .resolveEntry db
        (db.resolveEntry env.cfg now item result recovery).1
  | beginCancel {db db' : Db} (due : DeadlineCheck) (now : Time) (signalId : SignalId)
      (identity : EntryIdentity) (orders : List OrderObservation)
      (lifetime : Option LifetimePolicy) (cause : CancelCause)
      (answer : Except String CancelItem)
      (h : db.beginCancel env.cfg due now signalId identity orders lifetime cause
        = some (db', answer)) :
      Transaction env .beginCancel db db'
  | resolveCancel {db db' : Db} (now : Time) (item : CancelItem)
      (orders : List OrderObservation) (reason transportError : Option String)
      (allowPending resolved : Bool)
      (h : db.resolveCancel env.cfg now item orders reason transportError allowPending
        = some (db', resolved)) :
      Transaction env .resolveCancel db db'
  | observeOrders {db db' : Db} (now : Time) (observations : List OrderObservation)
      (h : Db.observeOrders env.digest now db observations = some db') :
      Transaction env .observeOrders db db'
  | rebuildOrderViews {db db' : Db} (h : db.rebuildOrderViews = some db') :
      Transaction env .rebuildOrderViews db db'
  | review {db : Db} (now : Time) (signalId : SignalId) (reason : String) :
      Transaction env .review db (db.review now signalId reason)
  | missedBound {db : Db} (now : Time) (signalId : SignalId) (symbol : Option String) :
      Transaction env .missedBound db (db.missedBound now signalId symbol)
  | setTradingHalted {db : Db} (value : String) :
      Transaction env .setTradingHalted db (db.setTradingHalted value)
  | setTradingHaltReason {db : Db} (value : String) :
      Transaction env .setTradingHaltReason db (db.setTradingHaltReason value)
  | claimCloseRequest {db db' : Db} (now : Time) (values : CloseValues) (claimed : Bool)
      (record : CloseRequest)
      (h : db.claimCloseRequest now values = some (db', claimed, record)) :
      Transaction env .claimCloseRequest db db'
  | saveExitOrder {db : Db} (record : CloseRequest) (status : CloseRequestStatus)
      (result : OrderResult) :
      Transaction env .saveExitOrder db (db.saveExitOrder record status result)
  | updateCloseRequest {db : Db} (now : Time) (id : String) (status : CloseRequestStatus)
      (detail : String) (brokerOrderId : Option String) :
      Transaction env .updateCloseRequest db
        (db.updateCloseRequest now id status detail brokerOrderId)
  | updateSignalExecution {db : Db} (now : Time) (id : SignalId) (u : ExecutionUpdate) :
      Transaction env .updateSignalExecution db (db.updateSignalExecution now id u)
  | updatePositionStop {db : Db} (now : Time) (id : SignalId) (newStop : ℚ)
      (notify : Bool) :
      Transaction env .updatePositionStop db
        (db.updatePositionStop now id newStop notify).1
  | closePosition {db : Db} (now : Time) (id : SignalId) (status : SignalStatus)
      (brokerExitOrderId : Option String) (h : status.closed = true) :
      Transaction env .closePosition db
        (db.closePosition now id status brokerExitOrderId).1

/-- The transactions a caller makes on their own, from data it need not have
read in this scope. The halt flag is among them as the panic button writes
it. -/
def Op.standalone : Op → Bool
  | .recordSignal => true
  | .dismissSignal => true
  | .expireSignal => true
  | .replaceSignal => true
  | .expireStaleSignals => true
  | .observeOrders => true
  | .rebuildOrderViews => true
  | .review => true
  | .missedBound => true
  | .setTradingHaltReason => true
  | .updatePositionStop => true
  | .closePosition => true
  | _ => false

/-! ## Requests and replies -/

/-- **The request `execute_signal_by_id` builds** from the card it read, at
the size the operator chose. -/
def Signal.orderRequest (s : Signal) (quantity : Option ℚ) : OrderRequest where
  symbol := s.contract
  assetClass := s.assetClass
  direction := s.direction
  side := if s.direction = .long then .buy else .sell
  quantity := quantity.getD (if s.quantity = 0 then 1 else s.quantity)
  entryPrice := s.entryPrice
  stopLoss := s.stopLoss
  takeProfit := s.takeProfit
  signalId := s.id
  clientOrderId := none

/-- The result of a submission that was refused before it left. -/
def refusedEntry (reason : String) : OrderResult :=
  { success := false, errorMessage := some reason }

/-- **What `dispatch_one` makes of a submission's outcome**: an exception, and
an acknowledgement without an order id, are uncertain. -/
def entryReply : Except String OrderResult → OrderResult
  | .error name =>
    { success := false, submissionUncertain := true, errorMessage := some name }
  | .ok result =>
    if result.success && !truthy result.orderId then
      { success := false, submissionUncertain := true,
        errorMessage := some "Broker acknowledgement has no order ID" }
    else result

/-- **What `close` makes of a close's outcome.** -/
def closeReply : Except String OrderResult → OrderResult
  | .error name =>
    { success := false, submissionUncertain := true,
      errorMessage := some s!"Close outcome uncertain ({name}); inspect broker orders." }
  | .ok result => result

/-! ## Processes -/

/-- What follows a recovery of entries: nothing, or the rest of a resume. -/
inductive AfterEntries where
  | finish
  | resume
  deriving DecidableEq

/-- What follows a recovery of cancellations: nothing, or the rest of a
resume that has listed the open entries – whether it saw any, and the halts
persisted by then. -/
inductive AfterCancels where
  | finish
  | resume (blocked : Bool) (listed : ℕ)
  deriving DecidableEq

/-- **Where a process is**, with what it has read. -/
inductive Proc where
  | idle
  /-- A tap or the auto-entry sweep has read a card. -/
  | tapped (request : OrderRequest) (trigger : EntryTrigger)
  /-- An entry is claimed and being checked. -/
  | claimed (item : EntryItem)
  | refusing (item : EntryItem) (reason : String)
  /-- The submission authority is committed; the order has not left. -/
  | authorized (item : EntryItem)
  /-- The order was handed to the executor. -/
  | executing (item : EntryItem)
  | recovering (items : List EntryItem) (after : AfterEntries)
  | found (item : EntryItem) (result : OrderResult) (items : List EntryItem)
      (after : AfterEntries)
  /-- A cancellation is claimed; the `DELETE` has not left. -/
  | cancelClaimed (item : CancelItem)
  | cancelPolling (item : CancelItem) (owner : Bool) (transportError : Option String)
      (items : List CancelItem) (after : AfterCancels)
  | cancelRead (item : CancelItem) (owner : Bool) (transportError : Option String)
      (orders : List OrderObservation) (reason : Option String)
      (items : List CancelItem) (after : AfterCancels)
  | cancelRecovering (items : List CancelItem) (after : AfterCancels)
  | resumeEntries
  | resumeCancels (blocked : Bool) (listed : ℕ)
  | resumeLegacy (listed : ℕ)
  | resumeBlockers (listed : ℕ)
  /-- Every check of a resume passed; it will clear the halt. -/
  | resumeClear (listed checked : ℕ)
  | resumeReason
  /-- A close is claimed; it has not left. -/
  | closeClaimed (record : CloseRequest)
  | closeSubmitted (record : CloseRequest)
  | closeResult (record : CloseRequest) (result : OrderResult)
      (records : List CloseRequest)
  | closeSaving (record : CloseRequest) (status : CloseRequestStatus) (detail : String)
      (orderId : Option String) (records : List CloseRequest)
  | closeRecovering (records : List CloseRequest)
  /-- An open position was read, and its fill is being synchronised. -/
  | syncing (id : SignalId)

/-- Where a process goes after recovering entries. -/
def AfterEntries.proc : AfterEntries → Proc
  | .finish => .idle
  | .resume => .resumeEntries

/-- Where a process goes after recovering cancellations. -/
def AfterCancels.proc : AfterCancels → Proc
  | .finish => .idle
  | .resume blocked listed => .resumeCancels blocked listed

/-- **A mark on the trace**: a call that reached the broker, a card that left
`PENDING` and through which transaction, and a halt cleared by a resume – the
number of halts persisted when its checks ended, and when it cleared. -/
inductive Mark where
  | executeOrder (id : Uuid)
  | cancelOrder (signalId : SignalId)
  | submitPositionClose (id : String)
  | left (signalId : SignalId) (op : Op)
  | cleared (checked halts : ℕ)
  deriving DecidableEq

/-- The entries handed to the executor, in order. -/
def handed (t : List Mark) : List Uuid :=
  t.filterMap (fun m => match m with | .executeOrder id => some id | _ => none)

/-- The signals a `DELETE` was sent for, in order. -/
def deleted (t : List Mark) : List SignalId :=
  t.filterMap (fun m => match m with | .cancelOrder id => some id | _ => none)

/-- The close requests that reached the broker, in order. -/
def closesSent (t : List Mark) : List String :=
  t.filterMap (fun m => match m with | .submitPositionClose id => some id | _ => none)

/-- The cards that left `PENDING`, in order. -/
def departed (t : List Mark) : List (SignalId × Op) :=
  t.filterMap (fun m => match m with | .left id op => some (id, op) | _ => none)

/-- The halts cleared, in order. -/
def cleared (t : List Mark) : List (ℕ × ℕ) :=
  t.filterMap (fun m => match m with | .cleared a b => some (a, b) | _ => none)

@[simp] theorem handed_append (t u : List Mark) : handed (t ++ u) = handed t ++ handed u :=
  List.filterMap_append

@[simp] theorem deleted_append (t u : List Mark) :
    deleted (t ++ u) = deleted t ++ deleted u :=
  List.filterMap_append

@[simp] theorem closesSent_append (t u : List Mark) :
    closesSent (t ++ u) = closesSent t ++ closesSent u :=
  List.filterMap_append

@[simp] theorem departed_append (t u : List Mark) :
    departed (t ++ u) = departed t ++ departed u :=
  List.filterMap_append

@[simp] theorem cleared_append (t u : List Mark) : cleared (t ++ u) = cleared t ++ cleared u :=
  List.filterMap_append

/-- The ids of the cards a transaction takes out of `PENDING`. -/
def departures (db db' : Db) : List SignalId :=
  (db.signals.filter (fun s => s.status = .pending
    && db'.signals.any (fun s' => s'.id == s.id && s'.status != .pending))).map (·.id)

/-- The marks of the cards a transaction takes out of `PENDING`. -/
def leaves (op : Op) (db db' : Db) : List Mark :=
  (departures db db').map (Mark.left · op)

@[simp] theorem handed_leaves (op : Op) (db db' : Db) : handed (leaves op db db') = [] := by
  simp [handed, leaves, List.filterMap_map]

@[simp] theorem deleted_leaves (op : Op) (db db' : Db) :
    deleted (leaves op db db') = [] := by
  simp [deleted, leaves, List.filterMap_map]

@[simp] theorem closesSent_leaves (op : Op) (db db' : Db) :
    closesSent (leaves op db db') = [] := by
  simp [closesSent, leaves, List.filterMap_map]

@[simp] theorem cleared_leaves (op : Op) (db db' : Db) :
    cleared (leaves op db db') = [] := by
  simp [cleared, leaves, List.filterMap_map]

@[simp] theorem departed_leaves (op : Op) (db db' : Db) :
    departed (leaves op db db') = (departures db db').map (fun id => (id, op)) := by
  simp [departed, leaves, List.filterMap_map]

/-- **One action of a process**: at most one transaction, and the broker
calls it makes. `t` is the trace so far. -/
inductive Act (env : Env) (t : List Mark) :
    Db → Proc → Op → List Mark → Db → Proc → Prop where
  | standalone {db db' : Db} {op : Op} (hop : op.standalone = true)
      (h : Transaction env op db db') :
      Act env t db .idle op [] db' .idle
  /-- `emergency_panic_halt`'s write of the flag. -/
  | panic {db : Db} :
      Act env t db .idle .setTradingHalted [] (db.setTradingHalted "true") .idle
  -- execute_signal_by_id
  | tap {db : Db} (s : Signal) (quantity : Option ℚ) (trigger : EntryTrigger)
      (hs : db.signal? s.id = some s) (hp : s.status = .pending) :
      Act env t db .idle .enqueueEntry [] db (.tapped (s.orderRequest quantity) trigger)
  | enqueue {db : Db} {request : OrderRequest} {trigger : EntryTrigger}
      (ev : EntryEvidence) (now : Time) :
      Act env t db (.tapped request trigger) .enqueueEntry []
        (db.enqueueEntry env.cfg ev now request trigger).1 .idle
  -- dispatch_one
  | claim {db db' : Db} {item : EntryItem} (now : Time)
      (h : db.claimEntry env.cfg.entryPreflightLease now = (db', some item)) :
      Act env t db .idle .claimEntry [] db' (.claimed item)
  | preflightRefused {db : Db} {item : EntryItem} (reason : String) :
      Act env t db (.claimed item) .claimEntry [] db (.refusing item reason)
  | begin {db db' : Db} {item : EntryItem} (ev : EntryEvidence)
      (riskFingerprint : Option String) (context : Option CapacityCheck)
      (t₀ t₁ t₂ : Time)
      (h : db.beginSubmission env.cfg ev riskFingerprint context t₀ t₁ t₂ item
        = (db', none)) :
      Act env t db (.claimed item) .beginSubmission [] db' (.authorized item)
  | beginRefused {db db' : Db} {item : EntryItem} {reason : String} (ev : EntryEvidence)
      (riskFingerprint : Option String) (context : Option CapacityCheck)
      (t₀ t₁ t₂ : Time)
      (h : db.beginSubmission env.cfg ev riskFingerprint context t₀ t₁ t₂ item
        = (db', some reason)) :
      Act env t db (.claimed item) .beginSubmission [] db' (.refusing item reason)
  | refuse {db : Db} {item : EntryItem} {reason : String} (now : Time) :
      Act env t db (.refusing item reason) .resolveEntry []
        (db.resolveEntry env.cfg now item (refusedEntry reason) false).1 .idle
  | handOver {db : Db} {item : EntryItem} :
      Act env t db (.authorized item) .beginSubmission [.executeOrder item.id] db
        (.executing item)
  | resolve {db : Db} {item : EntryItem} (reply : Except String OrderResult)
      (now : Time) :
      Act env t db (.executing item) .resolveEntry []
        (db.resolveEntry env.cfg now item (entryReply reply) false).1 .idle
  -- EntryExecutionService.recover
  | recover {db : Db} (after : AfterEntries) :
      Act env t db .idle .resolveEntry [] db (.recovering db.unresolvedEntries after)
  | lookupFound {db : Db} {item : EntryItem} {items : List EntryItem}
      {after : AfterEntries} (result : OrderResult)
      (h : env.finds (handed t) item.id) :
      Act env t db (.recovering (item :: items) after) .resolveEntry [] db
        (.found item result items after)
  | lookupFailed {db : Db} {item : EntryItem} {items : List EntryItem}
      {after : AfterEntries} :
      Act env t db (.recovering (item :: items) after) .resolveEntry [] db
        (.recovering items after)
  | recoverEntry {db : Db} {item : EntryItem} {result : OrderResult}
      {items : List EntryItem} {after : AfterEntries} (now : Time) :
      Act env t db (.found item result items after) .resolveEntry []
        (db.resolveEntry env.cfg now item result true).1 (.recovering items after)
  | recovered {db : Db} {after : AfterEntries} :
      Act env t db (.recovering [] after) .resolveEntry [] db after.proc
  -- _submit_cancel
  | beginCancel {db db' : Db} {item : CancelItem} (due : DeadlineCheck) (now : Time)
      (signalId : SignalId) (identity : EntryIdentity) (orders : List OrderObservation)
      (lifetime : Option LifetimePolicy) (cause : CancelCause)
      (h : db.beginCancel env.cfg due now signalId identity orders lifetime cause
        = some (db', .ok item)) :
      Act env t db .idle .beginCancel [] db' (.cancelClaimed item)
  | sendCancel {db : Db} {item : CancelItem} (transportError : Option String) :
      Act env t db (.cancelClaimed item) .beginCancel [.cancelOrder item.signalId] db
        (.cancelPolling item true transportError [] .finish)
  -- TradeLifetimeService.recover
  | recoverCancels {db : Db} :
      Act env t db .idle .resolveCancel [] db
        (.cancelRecovering db.unresolvedCancels .finish)
  | nextCancel {db : Db} {item : CancelItem} {items : List CancelItem}
      {after : AfterCancels} :
      Act env t db (.cancelRecovering (item :: items) after) .resolveCancel [] db
        (.cancelPolling item false none items after)
  | recoveredCancels {db : Db} {after : AfterCancels} :
      Act env t db (.cancelRecovering [] after) .resolveCancel [] db after.proc
  -- _recover_cancel
  | readGroup {db db' : Db} {item : CancelItem} {owner : Bool}
      {transportError : Option String} {items : List CancelItem} {after : AfterCancels}
      (now : Time) (orders : List OrderObservation)
      (h : Db.observeOrders env.digest now db orders = some db') :
      Act env t db (.cancelPolling item owner transportError items after)
        .observeOrders [] db'
        (.cancelRead item owner transportError orders none items after)
  | readFailed {db : Db} {item : CancelItem} {owner : Bool}
      {transportError : Option String} {items : List CancelItem} {after : AfterCancels}
      (error : String) :
      Act env t db (.cancelPolling item owner transportError items after)
        .observeOrders [] db
        (.cancelRead item owner transportError [] (some ("lookup_failed:" ++ error))
          items after)
  | resolveCancel {db db' : Db} {item : CancelItem} {owner : Bool}
      {transportError : Option String} {orders : List OrderObservation}
      {reason : Option String} {items : List CancelItem} {after : AfterCancels}
      (now : Time) (allowPending resolved : Bool)
      (hpending : allowPending = true → owner = true ∨ item.status = .submitting)
      (h : db.resolveCancel env.cfg now item orders reason transportError allowPending
        = some (db', resolved)) :
      Act env t db (.cancelRead item owner transportError orders reason items after)
        .resolveCancel [] db'
        (if resolved || !owner || !allowPending then .cancelRecovering items after
          else .cancelPolling item owner transportError items after)
  -- resume_trading, whose entry recovery is the one above
  | resumeEntries {db : Db} :
      Act env t db .resumeEntries .resolveCancel [] db
        (.cancelRecovering db.unresolvedCancels
          (.resume (!db.unresolvedEntries.isEmpty) db.halts))
  | resumeCancels {db : Db} {blocked : Bool} {listed : ℕ} :
      Act env t db (.resumeCancels blocked listed) .resolveCancel [] db
        (if blocked || !db.unresolvedCancels.isEmpty then .idle
          else .resumeLegacy listed)
  | resumeLegacy {db : Db} {listed : ℕ} :
      Act env t db (.resumeLegacy listed) .resolveCancel [] db
        (if db.legacyClaims.isEmpty then .resumeBlockers listed else .idle)
  | resumeBlocked {db : Db} {listed : ℕ} :
      Act env t db (.resumeBlockers listed) .resolveCancel [] db .idle
  | resumeUnblocked {db : Db} {listed : ℕ} :
      Act env t db (.resumeBlockers listed) .resolveCancel [] db
        (.resumeClear listed db.halts)
  | resumeClear {db : Db} {listed checked : ℕ} :
      Act env t db (.resumeClear listed checked) .setTradingHalted
        [.cleared checked db.halts] (db.setTradingHalted "false") .resumeReason
  | resumeReason {db : Db} :
      Act env t db .resumeReason .setTradingHaltReason []
        (db.setTradingHaltReason "") .idle
  -- PositionCloseService.close
  | closeClaim {db db' : Db} {record : CloseRequest} (now : Time) (values : CloseValues)
      (h : db.claimCloseRequest now values = some (db', true, record)) :
      Act env t db .idle .claimCloseRequest [] db' (.closeClaimed record)
  | closeSend {db : Db} {record : CloseRequest} :
      Act env t db (.closeClaimed record) .claimCloseRequest
        [.submitPositionClose record.id] db (.closeSubmitted record)
  | closeReplied {db : Db} {record : CloseRequest} (reply : Except String OrderResult) :
      Act env t db (.closeSubmitted record) .saveExitOrder [] db
        (.closeResult record (closeReply reply) [])
  -- _save_result
  | saveExit {db : Db} {record : CloseRequest} {result : OrderResult}
      {records : List CloseRequest} :
      Act env t db (.closeResult record result records) .saveExitOrder []
        (db.saveExitOrder record (closeOutcome record.quantity result) result)
        (match closeDetail (closeOutcome record.quantity result) result with
          | some detail => .closeSaving record (closeOutcome record.quantity result)
              detail result.orderId records
          | none => .closeRecovering records)
  | saveClose {db : Db} {record : CloseRequest} {status : CloseRequestStatus}
      {detail : String} {orderId : Option String} {records : List CloseRequest}
      (now : Time) :
      Act env t db (.closeSaving record status detail orderId records)
        .updateCloseRequest []
        (db.updateCloseRequest now record.id status detail orderId)
        (.closeRecovering records)
  -- PositionCloseService.recover
  | recoverCloses {db : Db} :
      Act env t db .idle .updateCloseRequest [] db
        (.closeRecovering db.activeCloseRequests)
  | closeFound {db : Db} {record : CloseRequest} {records : List CloseRequest}
      (result : OrderResult) :
      Act env t db (.closeRecovering (record :: records)) .updateCloseRequest [] db
        (.closeResult record result records)
  | closeNotFound {db : Db} {record : CloseRequest} {records : List CloseRequest} :
      Act env t db (.closeRecovering (record :: records)) .updateCloseRequest [] db
        (.closeRecovering records)
  -- sync_entry_executions
  | readPosition {db : Db} (s : Signal) (hs : s ∈ db.signals)
      (he : s.status = .executed) :
      Act env t db .idle .updateSignalExecution [] db (.syncing s.id)
  | syncExecution {db : Db} {id : SignalId} (now : Time) (u : ExecutionUpdate) :
      Act env t db (.syncing id) .updateSignalExecution []
        (db.updateSignalExecution now id u) .idle

/-- **The program of the scope**: an action, with the marks of its calls and
of the cards it took out of `PENDING`. -/
def trader (env : Env) : Program Db Proc Mark where
  store := Db.empty
  idle := .idle
  act db t p marks db' p' := ∃ op calls, Act env t db p op calls db' p'
    ∧ marks = calls ++ leaves op db db'

/-- A process's action that meets the condition leads from a reachable world
to a reachable one. -/
theorem Act.reachable {env : Env} {C : Db → Proc → Db → Proc → Prop}
    {w : World Db Proc Mark} {i : ℕ} {p p' : Proc} {op : Op} {calls : List Mark} {db' : Db}
    (h : ((trader env).restrict C).Reachable w) (hp : w.procs i = p)
    (hC : C w.store p db' p') (ha : Act env w.trace w.store p op calls db' p') :
    ((trader env).restrict C).Reachable
      (w.acted i (calls ++ leaves op w.store db') db' p') := by
  subst hp
  exact h.act ⟨⟨op, calls, ha, rfl⟩, hC⟩

/-- An action writes what one transaction writes, or nothing. -/
theorem Act.transaction {env : Env} {t : List Mark} {db db' : Db} {p p' : Proc} {op : Op}
    {calls : List Mark} (h : Act env t db p op calls db' p') :
    db' = db ∨ Transaction env op db db' := by
  cases h with
  | standalone hop h => exact Or.inr h
  | panic => exact Or.inr (.setTradingHalted "true")
  | enqueue ev now => exact Or.inr (.enqueueEntry ev now _ _)
  | claim now h =>
    have ht := @Transaction.claimEntry env db now
    rw [h] at ht
    exact Or.inr ht
  | @begin _ item ev r c t₀ t₁ t₂ h | @beginRefused _ item _ ev r c t₀ t₁ t₂ h =>
    have ht := @Transaction.beginSubmission env db ev r c t₀ t₁ t₂ item
    rw [h] at ht
    exact Or.inr ht
  | refuse now => exact Or.inr (.resolveEntry now _ _ _)
  | resolve reply now => exact Or.inr (.resolveEntry now _ _ _)
  | recoverEntry now => exact Or.inr (.resolveEntry now _ _ _)
  | beginCancel due now id identity orders lifetime cause h =>
    exact Or.inr (.beginCancel due now id identity orders lifetime cause _ h)
  | readGroup now orders h => exact Or.inr (.observeOrders now orders h)
  | resolveCancel now a r hp h => exact Or.inr (.resolveCancel now _ _ _ _ a r h)
  | resumeClear => exact Or.inr (.setTradingHalted "false")
  | resumeReason => exact Or.inr (.setTradingHaltReason "")
  | closeClaim now values h => exact Or.inr (.claimCloseRequest now values _ _ h)
  | saveExit => exact Or.inr (.saveExitOrder _ _ _)
  | saveClose now => exact Or.inr (.updateCloseRequest now _ _ _ _)
  | syncExecution now u => exact Or.inr (.updateSignalExecution now _ u)
  | _ => exact Or.inl rfl

/-- A scope without limits, at a broker that finds what was handed to it. -/
def sampleEnv : Env where
  cfg :=
    { entryPreflightLease := 60000000
      entryQueueMaxAge := 300000000
      signalMaxAge := 3600000000
      multiplier := fun _ => none
      reservationRejection := fun _ _ _ _ => none
      cardIsStale := fun _ _ => false
      etDate := fun t => t / 86400000000
      isoformat := fun d => toString d }
  digest := fun o => o.orderId ++ "/" ++ o.status ++ "/" ++ o.filledQuantity
  finds := fun handed id => id ∈ handed

/-- Where every run starts. -/
theorem reachable_empty (env : Env) :
    (trader env).Reachable ⟨Db.empty, fun _ => .idle, []⟩ :=
  TransitionSystem.Reachable.of_init rfl

end AgenticTrader
