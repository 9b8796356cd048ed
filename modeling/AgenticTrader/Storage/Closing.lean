import AgenticTrader.Storage.Db

/-!
# The close transactions

`SignalDatabase.claim_close_request`, `update_close_request`,
`record_exit_request` and `clear_failed_exit_request` (`storage/db.py`), and
the outcome `PositionCloseService._save_result` records
(`execution/closing.py`). A close intent is a row claimed under the scope
lock, refused while an entry or a cancellation on the symbol is open, and
arbitrated by the partial unique index `uq_active_close_symbol`: an insert
beside an active request of the same symbol is an integrity error, which
returns the request that holds the symbol.
-/

namespace AgenticTrader

/-- The values a close is claimed with. -/
structure CloseValues where
  id : String
  symbol : String
  direction : Direction
  quantity : ℚ
  signalId : Option SignalId
  deriving DecidableEq

/-- The row a claim inserts. -/
def CloseValues.record (v : CloseValues) (status : CloseRequestStatus) (detail : String) :
    CloseRequest :=
  ⟨v.id, v.symbol, v.direction, v.quantity, v.signalId, status, none, detail⟩

/-- The request a retry under the same id must still be. -/
def CloseRequest.sameIdentity (c : CloseRequest) (v : CloseValues) : Bool :=
  c.symbol = v.symbol && c.direction = v.direction && c.quantity = v.quantity
    && c.signalId = v.signalId

/-- `BROKER_QUANTITY_TOLERANCE`. -/
def brokerQuantityTolerance : ℚ := 1 / 1000000

/-- **The status `_save_result` records**: the broker's own, or the one the
result says; a completed close without the complete fill is unknown. -/
def closeOutcome (quantity : ℚ) (result : OrderResult) : CloseRequestStatus :=
  let status := result.closeStatus.getD
    (if result.success ∧ truthy result.orderId then .submitted
      else if result.submissionUncertain then .unknown else .failed)
  let filled := result.fillPrice.isSome && result.fillTimestamp.isSome
    && result.filledQuantity.any (fun q => |q - quantity| ≤ brokerQuantityTolerance)
  if status = .completed ∧ filled = false then .unknown else status

/-- The text it records beside it; there is none for a broker that answers
`claimed`, and the lookup raises. -/
def closeDetail (status : CloseRequestStatus) (result : OrderResult) : Option String :=
  if truthy result.errorMessage then result.errorMessage
  else
    match status with
    | .submitted => some "Close submitted; awaiting a confirmed broker fill."
    | .completed =>
      some "Broker close fill confirmed; trade accounting reconciles separately."
    | .unknown =>
      some "Close outcome uncertain; retained for reconciliation, never automatically resubmitted."
    | .failed => some "Close rejected; no fill confirmed."
    | .claimed => none

namespace Db

/-- The close request of an id. -/
def close? (db : Db) (id : String) : Option CloseRequest :=
  db.closeRequests.find? (fun c => c.id == id)

/-- Some entry on the symbol awaits its outcome. -/
def submittingOn (db : Db) (symbol : String) : Bool :=
  db.signals.any (fun s => s.contract == symbol && s.status == .submitting)

/-- **`SignalDatabase.claim_close_request`**: whether the caller now owns the
close, and the request it owns or is refused by. -/
def claimCloseRequest (db : Db) (now : Time) (values : CloseValues) :
    Option (Db × Bool × CloseRequest) :=
  let symbol := values.symbol
  match db.close? values.id with
  | some prior => if prior.sameIdentity values then some (db, false, prior) else none
  | none =>
    if db.unresolvedCancellationOf symbol then
      some (db, false, values.record .unknown
        "Entry cancellation is unresolved on this symbol; reconcile it before closing.")
    else if db.submittingOn symbol then
      some (db, false, values.record .unknown
        "Entry authorization is unresolved on this symbol; reconcile it before closing.")
    else
      -- the unique index: an active request of the symbol refuses the insert
      match db.closeRequests.find? (fun c => c.symbol == symbol && c.status.active) with
      | some existing => some (db, false, existing)
      | none =>
        let record := values.record .claimed ""
        let id := values.id
        let inserted : Db := { db with closeRequests := db.closeRequests ++ [record] }
        let journaled := (inserted.append ("close/" ++ id) .closeRequested none none).1
        some (journaled.addNotification now ("close/" ++ id ++ "/claimed")
          (.message s!"Close intent recorded for {symbol}. Awaiting broker confirmation; inspect /positions for actual holdings."),
          true, record)

/-- **`SignalDatabase.update_close_request`**: an active request only; a
terminal one stays as it is. -/
def updateCloseRequest (db : Db) (now : Time) (id : String) (status : CloseRequestStatus)
    (detail : String) (brokerOrderId : Option String) : Db :=
  match db.close? id with
  | none => db
  | some prior =>
    if prior.status = status ∧ prior.detail = detail
        ∧ (truthy brokerOrderId = false ∨ prior.brokerOrderId = brokerOrderId) then db
    else if prior.status.active then
      let symbol := prior.symbol
      let text := status.text
      let updated : Db :=
        { db with
          closeRequests := Table.updateWhere (fun c => c.id == id && c.status.active)
            (fun c => { c with
              status := status
              detail := detail
              brokerOrderId :=
                if truthy brokerOrderId then brokerOrderId else c.brokerOrderId })
            db.closeRequests }
      let journaled := (updated.append ("close/" ++ id) .closeResolved none none).1
      journaled.addNotification now ("close/" ++ id ++ "/" ++ text)
        (.message s!"Close {symbol}: {text}. {detail}\nCheck /positions for current broker holdings.")
    else db

/-- **`SignalDatabase.record_exit_request`.** -/
def recordExitRequest (db : Db) (id : SignalId) (brokerExitOrderId : String) : Db :=
  { db with
    signals := Table.updateWhere (fun s => s.id == id && s.status == .executed)
      (fun s => { s with brokerExitOrderId := some brokerExitOrderId }) db.signals }

/-- **`SignalDatabase.clear_failed_exit_request`.** -/
def clearFailedExitRequest (db : Db) (id : SignalId) (brokerOrderId : String) : Db :=
  { db with
    signals := Table.updateWhere (fun s => s.id == id && s.status == .executed
        && s.brokerExitOrderId == some brokerOrderId)
      (fun s => { s with brokerExitOrderId := none }) db.signals }

/-- The first transaction of `_save_result`: the exit order the signal
records, or forgets when it failed. -/
def saveExitOrder (db : Db) (record : CloseRequest) (status : CloseRequestStatus)
    (result : OrderResult) : Db :=
  match record.signalId, result.orderId with
  | some signalId, some orderId =>
    if orderId = "" ∨ signalId = 0 then db
    else if status = .failed then db.clearFailedExitRequest signalId orderId
    else db.recordExitRequest signalId orderId
  | _, _ => db

/-- **`active_close_requests`.** -/
def activeCloseRequests (db : Db) : List CloseRequest :=
  db.closeRequests.filter (fun c => c.status.active)

end Db

end AgenticTrader
