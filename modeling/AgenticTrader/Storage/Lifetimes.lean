import AgenticTrader.Storage.Orders
import Mathlib.Data.List.Dedup

/-!
# The cancellation transactions

`LifetimeRepository.begin_cancel`, `resolve_cancel`, `review` and
`missed_bound` (`storage/lifetimes.py`), with the evidence rules they apply
(`execution/lifetimes.py`): an entry that rests at the broker is cancelled
once, by whoever claims the one `entry_cancel` item of its signal, and the
claim is settled from the journaled views of the claimed order group –
accepted on complete zero-fill evidence, rejected when the broker refused
the request because the entry had filled and is protected, and unknown, with
a halt, otherwise.

As in the order journal, `none` is an exception that rolls the transaction
back.
-/

namespace AgenticTrader

/-- `UNFILLED_TERMINAL`. -/
def unfilledTerminal : List String := ["canceled", "expired", "rejected"]

/-- `WORKING_ENTRY`. -/
def workingEntry : List String :=
  ["new", "accepted", "pending_new", "accepted_for_bidding", "done_for_day"]

/-- `PROTECTED_EXIT`. -/
def protectedExit : List String := ["new", "held"]

/-- `INCOMPLETE_OR_CHANGED_GROUP`. -/
def incompleteOrChangedGroup : String := "incomplete_or_changed_bracket_group"

/-- `FILLED_BEFORE_CANCEL`. -/
def filledBeforeCancelReason : String := "filled_before_cancel"

/-! ## Evidence rules -/

/-- **`EntryIdentity.matches`**: the order is exactly the one the entry
became, and was never replaced. -/
def EntryIdentity.matches (identity : EntryIdentity) (order : OrderObservation) :
    Option Bool :=
  if identity.clientOrderId ≠ "" ∧ identity.orderId = order.orderId
      ∧ identity.clientOrderId = order.clientOrderId
      ∧ identity.symbol = order.symbol ∧ identity.side = order.side then
    (decimalEq identity.quantity order.quantity).map
      (fun same => same && !truthy order.replaces && !truthy order.replacedBy)
  else some false

/-- **`resting_entry_refusal`**: an operator cancel needs the exact, working,
wholly unfilled parent. -/
def restingEntryRefusal (identity : EntryIdentity) (parent : OrderObservation) :
    Option (Option String) := do
  let exactly ← identity.matches parent
  if !exactly then some (some incompleteOrChangedGroup)
  else
    let unfilled ← decimalEq parent.filledQuantity "0"
    if !unfilled || parent.status ∉ workingEntry then some (some "not_resting")
    else some none

/-- An exit leg that does not belong to the entry's bracket, or is no longer
untouched. -/
def foreignExit (identity : EntryIdentity) (o : OrderObservation) : Option Bool :=
  if o.symbol ≠ identity.symbol ∨ o.side = identity.side then some true
  else do
    let sameQuantity ← decimalEq o.quantity identity.quantity
    if !sameQuantity then some true
    else do
      let unfilled ← decimalEq o.filledQuantity "0"
      some (!unfilled || truthy o.replaces || truthy o.replacedBy)

/-- **`bracket_group_refusal`**: a bracket is its parent and two exits. -/
def bracketGroupRefusal (identity : EntryIdentity) (orders : List OrderObservation) :
    Option (Option String) :=
  let children := orders.filter (fun o => o.orderId ≠ identity.orderId)
  match orders.find? (fun o => o.orderId == identity.orderId) with
  | none => some (some incompleteOrChangedGroup)
  | some parent =>
    if parent.orderClass ≠ "bracket" ∨ children.length ≠ 2 then
      some (some incompleteOrChangedGroup)
    else (children.anyM (foreignExit identity)).map
      (fun foreign => if foreign then some incompleteOrChangedGroup else none)

/-- `decimal(text) == quantity`, where a text that is not a finite number
raises. -/
def finiteDecimalEq (text : String) (quantity : WireDecimal) : Option Bool :=
  match WireDecimal.ofString? text with
  | some (.finite q) => (WireDecimal.finite q).eq? quantity
  | _ => none

/-- The live take-profit that keeps a held stop held. -/
def liveTakeProfit (stop : OrderObservation) (side : String) (quantity : WireDecimal)
    (leg : OrderObservation) : Option Bool :=
  if leg.orderId ≠ stop.orderId ∧ leg.orderType = "limit" ∧ leg.status = "new"
      ∧ leg.side ≠ side then do
    let sameQuantity ← finiteDecimalEq leg.quantity quantity
    if sameQuantity then finiteDecimalEq leg.filledQuantity (.finite 0) else some false
  else some false

/-- **`protective_stop`** (`execution/capacity.py`): the one exact protective
stop among an entry's exit legs. -/
def protectiveStop (legs : List OrderObservation) (side : String)
    (quantity : WireDecimal) : Option (Option OrderObservation) :=
  match legs.filter (fun l => (l.orderType = "stop" ∨ l.orderType = "stop_limit")
      ∧ l.status ∈ protectedExit) with
  | [stop] =>
    if stop.status = "held" then do
      let live ← legs.filterM (liveTakeProfit stop side quantity)
      some (if live.length = 1 then some stop else none)
    else some (some stop)
  | _ => some none

/-- **`filled_before_cancel`**: the exact parent fully filled, with its two
exits protecting it. -/
def filledBeforeCancel (identity : EntryIdentity) (orders : List OrderObservation)
    (orderIds : List String) : Option Bool :=
  let exits := orders.filter (fun o => o.orderId ≠ identity.orderId)
  match orders.find? (fun o => o.orderId == identity.orderId) with
  | none => some false
  | some parent => do
    let exactly ← identity.matches parent
    if !exactly || parent.status ≠ "filled" then some false
    else do
      let full ← decimalEq parent.filledQuantity parent.quantity
      if !full || !orderIds.all (fun i => i ∈ orders.map (·.orderId)) then some false
      else do
        let refusal ← bracketGroupRefusal identity orders
        if refusal.isSome || !exits.all (fun o => o.status ∈ protectedExit)
            || exits.countP (fun o => o.orderType = "limit") ≠ 1 then some false
        else do
          let quantity ← WireDecimal.ofString? identity.quantity
          let stop ← protectiveStop exits identity.side quantity
          some stop.isSome

/-- An order that ended without a fill and was never replaced. -/
def endedUntouched (o : OrderObservation) : Option Bool :=
  if o.status ∈ unfilledTerminal then
    (decimalEq o.filledQuantity "0").map
      (fun zero => zero && !truthy o.replaces && !truthy o.replacedBy)
  else some false

/-- **The completeness test of `resolve_cancel`**: every view of the claimed
group is an unfilled terminal one, and the parent is exactly the entry. -/
def completeCancellation (identity : EntryIdentity) (orderIds : List String)
    (effective : List OrderObservation) : Option Bool :=
  match effective.find? (fun o => o.orderId == identity.orderId) with
  | none => some false
  | some parent => do
    let exactly ← identity.matches parent
    if !exactly || !orderIds.all (fun i => i ∈ effective.map (·.orderId)) then some false
    else effective.allM endedUntouched

/-- The deadline assessment of a policy on an order (`assess_lifetime`), as
whether it asks for `CANCEL_ENTRY`. -/
abbrev DeadlineCheck := LifetimePolicy → EntryIdentity → OrderObservation → Option Bool

namespace Db

/-! ## Claiming a cancellation -/

/-- The re-read of the claimed group: a view that changed since it was
observed refuses an operator and raises for the deadline path. -/
def groupRefusal (db : Db) (identity : EntryIdentity) (operator : Bool) :
    List OrderObservation → Option (Option String)
  | [] => some none
  | observed :: rest =>
    match db.order? observed.orderId with
    | none => some (some incompleteOrChangedGroup)
    | some latest => do
      let current := latest.observation
      let unfilled ← decimalEq current.filledQuantity "0"
      let changed ← if !unfilled || truthy current.replaces || truthy current.replacedBy
          || current.symbol ≠ identity.symbol then some true
        else (decimalEq current.quantity identity.quantity).map (fun same => !same)
      if changed then
        if operator then
          some (some (if unfilled then incompleteOrChangedGroup else "not_resting"))
        else none
      else db.groupRefusal identity operator rest

/-- The accepted entry of a signal, when it is the identity's. -/
def ownsEntry (db : Db) (signalId : SignalId) (identity : EntryIdentity) : Bool :=
  db.entries.any (fun e => e.request.signalId == signalId && e.status == .accepted
    && e.request.clientOrderId == some identity.clientOrderId
    && (e.result.bind (·.orderId)) == some identity.orderId)

/-- **The checks of `begin_cancel`**: the refusal token, no refusal, or an
exception. -/
def cancelRefusal (db : Db) (due : DeadlineCheck) (signalId : SignalId)
    (identity : EntryIdentity) (orders : List OrderObservation)
    (lifetime : Option LifetimePolicy) (cause : CancelCause) : Option (Option String) :=
  if db.cancels.any (fun c => c.signalId == signalId) then some (some "cancel_in_progress")
  else
    match db.signal? signalId with
    | none => some (some "not_resting")
    | some signal =>
      if signal.status ≠ .executed ∨ signal.executedAt ≠ none
          ∨ signal.brokerOrderId ≠ some identity.orderId then some (some "not_resting")
      else do
        let stored ← match cause, signal.lifetime with
          | .operator, _ => some none
          | .deadline, .error _ => none
          | .deadline, .ok stored => some stored
        if cause = .deadline ∧ (stored = none ∨ stored ≠ lifetime) then
          some (some "lifetime_mismatch")
        else if !db.ownsEntry signalId identity then
          if cause = .operator then some (some "no_durable_entry") else none
        else
          match db.order? identity.orderId with
          | none => some (some incompleteOrChangedGroup)
          | some projection => do
            let parent := projection.observation
            let refusal ← match cause, stored with
              | .operator, _ => restingEntryRefusal identity parent
              | .deadline, none => some (some "not_due")
              | .deadline, some policy =>
                (due policy identity parent).map (fun d => if d then none else some "not_due")
            if refusal.isSome then some refusal
            else do
              let changed ← db.groupRefusal identity (cause = .operator) orders
              if changed.isSome then some changed
              else if db.closing identity.symbol then some (some "close_active")
              else some none

/-- The claimed item. -/
def cancelItem (db : Db) (now : Time) (signalId : SignalId) (identity : EntryIdentity)
    (orders : List OrderObservation) (cause : CancelCause) : CancelItem where
  id := db.uuids
  sequence := db.eventSeq + 1
  status := .submitting
  signalId := signalId
  cause := cause
  identity := identity
  orderIds := orders.map (·.orderId)
  result := none
  createdAt := now

/-- The notice of a cancellation intent. -/
def cancelIntentNotice (signalId : SignalId) (identity : EntryIdentity)
    (cause : CancelCause) : String :=
  let symbol := identity.symbol
  match cause with
  | .operator =>
    s!"Operator cancel requested for entry {symbol} (signal {signalId}); awaiting broker confirmation."
  | .deadline =>
    s!"Entry #{signalId} reached its resting deadline. Cancellation intent recorded for {symbol}; awaiting broker confirmation."

/-- **The write of `begin_cancel`.** -/
def claimCancel (db : Db) (cfg : Config) (now : Time) (signalId : SignalId)
    (identity : EntryIdentity) (orders : List OrderObservation) (cause : CancelCause) :
    Db × CancelItem :=
  let item := db.cancelItem now signalId identity orders cause
  let id := item.id
  let journaled := (({ db with uuids := db.uuids + 1 }).append
    s!"entry-cancel/cancel-{id}" .entryCancelRequested none none).1
  let claimed : Db := { journaled with cancels := db.cancels ++ [item] }
  (if cause = .operator ∨ claimed.foldsIntoAutoDigest cfg now signalId = false then
      claimed.addNotification now s!"entry-cancel/cancel-{id}/intent"
        (.message (cancelIntentNotice signalId identity cause))
    else claimed, item)

/-- **`LifetimeRepository.begin_cancel`**: the claimed item, or the refusal
token. -/
def beginCancel (db : Db) (cfg : Config) (due : DeadlineCheck) (now : Time)
    (signalId : SignalId) (identity : EntryIdentity) (orders : List OrderObservation)
    (lifetime : Option LifetimePolicy) (cause : CancelCause) :
    Option (Db × Except String CancelItem) := do
  match ← db.cancelRefusal due signalId identity orders lifetime cause with
  | some refusal => some (db, .error refusal)
  | none =>
    let claimed := db.claimCancel cfg now signalId identity orders cause
    some (claimed.1, .ok claimed.2)

/-! ## Settling a cancellation -/

/-- The journaled views of the claimed orders and of the orders just read,
by order id. -/
def effectiveOrders (db : Db) (item : CancelItem) (orders : List OrderObservation) :
    List OrderObservation :=
  (((item.orderIds ++ orders.map (·.orderId)).dedup.filterMap
    (fun i => (db.order? i).map (·.observation))).mergeSort
    (fun a b => a.orderId ≤ b.orderId))

/-- The cancellation of an id. -/
def cancel? (db : Db) (id : Uuid) : Option CancelItem :=
  db.cancels.find? (fun c => c.id == id)

/-- The request's own error: this owner's, or one an earlier resolution
recorded. -/
def refusedRequest (row : Option CancelItem) (transportError : Option String) :
    Option String :=
  if truthy transportError then transportError
  else (row.bind (·.result)).bind (·.transportError)

/-- The status a resolution settles in. -/
def cancelStatus (complete filledFirst : Bool) : WorkStatus :=
  if complete then .accepted else if filledFirst then .rejected else .unknown

/-- The reason it records. -/
def cancelReason (complete filledFirst : Bool) (reason : Option String) : String :=
  if complete then "confirmed_unfilled_cancellation"
  else if filledFirst then filledBeforeCancelReason
  else if truthy reason then reason.getD "" else "unconfirmed_cancellation_or_fill_race"

/-- The notice of a settled cancellation. -/
def cancelNotice (item : CancelItem) (previous : WorkStatus) (complete filledFirst : Bool)
    (reason : String) : String :=
  let signalId := item.signalId
  let cause := item.cause.text
  if filledFirst then
    let text := s!"Entry #{signalId} filled before the {cause} cancellation; the position is open and protected."
    if previous = .unknown then text ++ " The earlier halt stays until /resume." else text
  else
    s!"Entry #{signalId} {cause} cancellation: {reason}. " ++
      (if complete then "Broker confirms no fills."
        else "New risk halted. Inspect exact broker fills and protective orders; no automatic retry.")

/-- The signals after a settled cancellation: complete evidence fails the
resting signal, and nothing else does. -/
def cancelledSignals (db : Db) (item : CancelItem) (complete : Bool) : List Signal :=
  if complete then
    Table.updateWhere (fun s => s.id == item.signalId && s.status == .executed
        && s.executedAt == none && s.brokerOrderId == some item.identity.orderId)
      (fun s => { s with status := .failed }) db.signals
  else db.signals

/-- The tables `resolve_cancel` writes on the row it found. -/
def cancelledTables (db : Db) (row item : CancelItem) (complete filledFirst : Bool)
    (result : CancelResult) : Db :=
  { db with
    cancels := Table.updateWhere (fun c => c.id == row.id)
      (fun c => { c with
        status := cancelStatus complete filledFirst
        result := some result }) db.cancels
    signals := db.cancelledSignals item complete }

/-- **The write of `resolve_cancel`**: the tables, the event, the halt of an
unconfirmed outcome, and the notice unless the daily digest reports it. -/
def settleCancel (db : Db) (cfg : Config) (now : Time) (row item : CancelItem)
    (complete filledFirst : Bool) (result : CancelResult) : Db :=
  let status := cancelStatus complete filledFirst
  let id := row.id
  let journaled := ((db.cancelledTables row item complete filledFirst result).append
    s!"entry-cancel/cancel-{id}" .entryCancelResolved none none).1
  let fenced := journaled.haltIfUnknown status
    s!"Unconfirmed entry cancellation cancel-{id}; inspect fills/protection before resuming"
  let folded := complete = true ∧ filledFirst = false ∧ item.cause = .deadline
    ∧ row.status ≠ .unknown ∧ fenced.foldsIntoAutoDigest cfg now item.signalId = true
  if folded then fenced
  else fenced.addNotification now
    ("entry-cancel/cancel-" ++ toString id ++ "/" ++ status.text)
    (.message (cancelNotice item row.status complete filledFirst result.reason))

/-- The row `resolve_cancel` rewrites, when it rewrites one: a rejected item
is settled, an accepted one only records a late request error, and an
unchanged outcome is not written again. -/
def cancelToSettle? (row : Option CancelItem) (complete : Bool)
    (transportError : Option String) (status : WorkStatus) (result : CancelResult) :
    Option CancelItem :=
  row.filter (fun c =>
    !(c.status = .accepted && (!complete || !truthy transportError))
      && c.status ≠ .rejected
      && !(c.status = status && c.result = some result))

/-- Whether the entry filled before a request the broker refused: asked only
of a group that was read, when the cancellation is not complete. -/
def filledFirstEvidence (item : CancelItem) (orders effective : List OrderObservation)
    (complete : Bool) (reason refused : Option String) : Option Bool :=
  if !complete && reason.isNone && truthy refused && !orders.isEmpty then
    filledBeforeCancel item.identity effective item.orderIds
  else some false

/-- **`LifetimeRepository.resolve_cancel`**: whether the item is resolved,
as far as this call is concerned. `reason` is the error of a failed lookup
and `transportError` that of the request itself. -/
def resolveCancel (db : Db) (cfg : Config) (now : Time) (item : CancelItem)
    (orders : List OrderObservation) (reason transportError : Option String)
    (allowPending : Bool) : Option (Db × Bool) := do
  let effective := db.effectiveOrders item orders
  let complete ← completeCancellation item.identity item.orderIds effective
  let row := db.cancel? item.id
  let refused := refusedRequest row transportError
  let filledFirst ← filledFirstEvidence item orders effective complete reason refused
  if !complete && !filledFirst && allowPending then some (db, false)
  else
    let status := cancelStatus complete filledFirst
    let result : CancelResult :=
      ⟨cancelReason complete filledFirst reason, effective, refused⟩
    match cancelToSettle? row complete transportError status result with
    | none => some (db, true)
    | some row => some (db.settleCancel cfg now row item complete filledFirst result, true)

/-- **`list_work(ENTRY_CANCEL, statuses=(SUBMITTING, UNKNOWN))`.** -/
def unresolvedCancels (db : Db) : List CancelItem :=
  ((db.cancels.filter (fun c => c.status.unresolved)).mergeSort
    (fun a b => a.sequence ≤ b.sequence)).take 100

/-! ## Reviews -/

/-- **`LifetimeRepository.review`**: a persisted halt, with one event and one
notice per signal and reason. -/
def review (db : Db) (now : Time) (signalId : SignalId) (reason : String) : Db :=
  let fenced := db.halt s!"Lifetime review for signal #{signalId}: {reason}"
  let key := s!"lifetime-review/{signalId}/{reason}"
  ((fenced.append s!"signal/{signalId}/lifetime" .lifetimeReview none (some key)).1).addNotification
    now key
    (.message s!"Lifetime review required for signal #{signalId}: {reason}. New risk halted; inspect broker quantity/protection.")

/-- **`LifetimeRepository.missed_bound`**: a notice without a halt. -/
def missedBound (db : Db) (now : Time) (signalId : SignalId) (symbol : Option String) : Db :=
  let key := s!"entry-lifetime-missed/{signalId}"
  let name := if truthy symbol then symbol.getD "" else "unknown symbol"
  ((db.append s!"signal/{signalId}/lifetime" .entryLifetimeMissed none (some key)).1).addNotification
    now key
    (.message s!"Entry #{signalId} ({name}) filled after its session-close cancel deadline: the cancel was missed (reconciliation late or host asleep). The position is open with its bracket; no halt.")

end Db

end AgenticTrader
