import AgenticTrader.Accounting.Risk
import AgenticTrader.Library.Table

/-!
# The account ledger

`LedgerStore` (`storage/ledger.py`): the activities of the account as they were
last imported, the checkpoint they were reconciled to, and the journal both are
rebuilt from. An import begins by drawing a token, which fences off those that
began before it; a commit under the current token journals what changed – an
activity observed or revised, an activity gone – and the new checkpoint.

The transactions run under a lock of their own. Of the shared journal only the
ledger's events are kept here, in the order of their ids. `none` is an
exception, which rolls the transaction back. Identities of activities are
strings, as the column that stores them is. `uuids` counts the draws of
`uuid4`, and `accepted` the risk snapshots imports were accepted with; nothing
reads them.
-/

namespace AgenticTrader

open Table

/-- What an event of the ledger says. -/
inductive LedgerFact where
  | accountBound (accountId : String)
  | activityObserved (activity : Activity)
  | activityRetracted (activityId : String)
  | checkpoint (payload : Checkpoint)

/-- **A ledger event.** -/
structure LedgerEvent where
  id : ℕ
  schemaVersion : ℕ
  fact : LedgerFact

/-- **A row of the activity projection**; the payload is the encoded
activity. -/
structure ActivityRow where
  activityId : String
  eventId : ℕ
  payload : String
  deriving DecidableEq

/-- **The checkpoint row.** No account is bound while it is empty. -/
structure LedgerRow where
  accountId : String
  token : Uuid
  payload : Checkpoint

/-- **The ledger of one scope.** -/
structure Ledger where
  row : Option LedgerRow
  activities : List ActivityRow
  journal : List LedgerEvent
  eventSeq : ℕ
  uuids : ℕ
  accepted : List AccountRiskSnapshot

/-- What is fixed for a run: the rules of the risk and `encode`. -/
structure LedgerEnv where
  rules : RiskRules
  encode : Activity → String

/-- The documents an import commits. -/
structure ImportDocuments where
  report : Evidence LedgerReport
  snapshot : Evidence AccountSnapshot

/-- `activity["id"]`, of an activity that has a name. -/
def Activity.identity? (a : Activity) : Option String :=
  match a.get? "id" with
  | some (.str id) => if id = "" then none else some id
  | _ => none

namespace Ledger

/-- Before the first import. -/
def empty : Ledger := ⟨none, [], [], 0, 0, []⟩

/-- The stored checkpoint, `{}` before the first begin. -/
def checkpoint (db : Ledger) : Checkpoint :=
  (db.row.map (·.payload)).getD Checkpoint.empty

/-- The bound account, empty while there is none. -/
def account (db : Ledger) : String :=
  (db.row.map (·.accountId)).getD ""

/-- `WorkflowStore.append`, under a random key. -/
def append (db : Ledger) (fact : LedgerFact) : Ledger :=
  { db with
    journal := db.journal ++ [⟨db.eventSeq + 1, 1, fact⟩]
    eventSeq := db.eventSeq + 1 }

/-! ## Fencing -/

/-- The account is bound, if none was. -/
def bindAccount (db : Ledger) (row : LedgerRow) (accountId : String) : Ledger :=
  ({ db with row := some { row with accountId := accountId } }).append
    (.accountBound accountId)

/-- The row under a new token. -/
def fence (db : Ledger) : Ledger :=
  { db with row := some ⟨db.account, db.uuids, db.checkpoint⟩, uuids := db.uuids + 1 }

/-- **`LedgerStore.begin`.** -/
def begin (db : Ledger) (accountId : Option String) : Option (Ledger × Uuid) :=
  if db.account ≠ "" ∧ truthy accountId ∧ accountId ≠ some db.account then none
  else if truthy accountId ∧ db.account = "" then
    some (db.fence.bindAccount ⟨"", db.uuids, db.checkpoint⟩ (accountId.getD ""), db.uuids)
  else some (db.fence, db.uuids)

/-- **`LedgerStore.bind`.** -/
def bind (db : Ledger) (token : Uuid) (accountId : String) : Option Ledger :=
  if accountId = "" then none
  else
    match db.row with
    | none => none
    | some row =>
      if row.token ≠ token then none
      else if row.accountId ≠ "" ∧ row.accountId ≠ accountId then none
      else if row.accountId = "" then some (db.bindAccount row accountId)
      else some db

/-! ## Committing -/

/-- The projection with an activity in it. -/
def setRow (row : ActivityRow) (rows : List ActivityRow) : List ActivityRow :=
  if rows.any (fun r => r.activityId == row.activityId) then
    updateWhere (fun r => r.activityId == row.activityId) (fun _ => row) rows
  else rows ++ [row]

/-- One activity of an import: nothing to do when it is stored as it is. -/
def observe (env : LedgerEnv) (db : Ledger) (item : String × Activity) : Ledger :=
  if db.activities.any (fun r => r.activityId == item.1 && r.payload == env.encode item.2) then
    db
  else
    let journaled := db.append (.activityObserved item.2)
    { journaled with
      activities := setRow ⟨item.1, journaled.eventSeq, env.encode item.2⟩ db.activities }

/-- One activity that is gone. -/
def retract (db : Ledger) (activityId : String) : Ledger :=
  { db.append (.activityRetracted activityId) with
    activities := db.activities.filter (fun r => r.activityId ≠ activityId) }

/-- The activities by identity; an activity without a name, and two of one
name, raise. -/
def byId? (activities : List Activity) : Option (List (String × Activity)) := do
  let items ← activities.mapM (fun a => a.identity?.map (fun id => (id, a)))
  if (items.map (·.1)).Nodup then some items else none

/-- The import's own changes to the projection. -/
def project (env : LedgerEnv) (db : Ledger) (items : List (String × Activity)) : Ledger :=
  let gone := (db.activities.filter (fun r => r.activityId ∉ items.map (·.1))).map
    (·.activityId)
  gone.foldl retract (items.foldl (observe env) db)

/-- **The checkpoint of an import**: its documents, and the risk derived from
them and from the checkpoint before. -/
def nextCheckpoint (env : LedgerEnv) (row : LedgerRow) (activities : List Activity)
    (documents : ImportDocuments) (checkedAt now : WireTime) : Checkpoint :=
  let imported : Checkpoint :=
    ⟨none, some checkedAt, documents.report, documents.snapshot, none, none, none⟩
  let fields :=
    advanceRiskCheckpoint env.rules row.payload imported activities row.accountId now
  { imported with
    risk := fields.risk
    riskError := fields.riskError
    riskInvalidation := fields.riskInvalidation }

/-- The checkpoint row rewritten, with its event. -/
def setCheckpoint (db : Ledger) (row : LedgerRow) (payload : Checkpoint) : Ledger :=
  { db.append (.checkpoint payload) with row := some { row with payload := payload } }

/-- What an accepted import writes. -/
def accept (env : LedgerEnv) (db : Ledger) (row : LedgerRow) (items : List (String × Activity))
    (payload : Checkpoint) : Ledger :=
  let committed := (db.project env items).setCheckpoint row payload
  { committed with
    accepted := committed.accepted ++
      (if payload.riskError.isNone then payload.risk.toList else []) }

/-- **`LedgerStore.commit`**: whether the import was accepted. -/
def commit (env : LedgerEnv) (db : Ledger) (token : Uuid) (activities : List Activity)
    (documents : ImportDocuments) (checkedAt now : WireTime) : Option (Ledger × Bool) :=
  match byId? activities with
  | none => none
  | some items =>
    match db.row with
    | none => some (db, false)
    | some row =>
      if row.token ≠ token then some (db, false)
      else if row.accountId = "" then none
      else
        some (db.accept env row items (nextCheckpoint env row activities documents checkedAt now),
          true)

/-- **`LedgerStore.fail`.** -/
def fail (db : Ledger) (token : Uuid) (error : String) (checkedAt : WireTime) : Ledger :=
  match db.row with
  | none => db
  | some row =>
    if row.token = token then
      db.setCheckpoint row { row.payload with error := some error, checkedAt := some checkedAt }
    else db

/-! ## Rebuilding -/

/-- **The variables of `rebuild`.** -/
structure View where
  accountId : String
  payload : Checkpoint
  activities : List ActivityRow

/-- Before the first event. -/
def View.start : View := ⟨"", Checkpoint.empty, []⟩

/-- One event of the replay. -/
def View.replay (env : LedgerEnv) (v : View) (e : LedgerEvent) : Option View :=
  if e.schemaVersion ≠ 1 then none
  else
    match e.fact with
    | .accountBound accountId => some { v with accountId := accountId }
    | .activityObserved a =>
      a.identity?.map (fun id =>
        { v with activities := setRow ⟨id, e.id, env.encode a⟩ v.activities })
    | .activityRetracted id =>
      some { v with activities := v.activities.filter (fun r => r.activityId ≠ id) }
    | .checkpoint payload => some { v with payload := payload }

/-- **`LedgerStore.rebuild`**: both tables are emptied and the journal is
replayed, under a new token. -/
def rebuild (env : LedgerEnv) (db : Ledger) : Option (Ledger × ℕ) := do
  let v ← db.journal.foldlM (View.replay env) View.start
  some ({ db with
    row := if db.journal.isEmpty then none else some ⟨v.accountId, db.uuids, v.payload⟩
    activities := v.activities
    uuids := db.uuids + 1 }, db.journal.length)

/-! ## Runs -/

end Ledger

/-- **The calls on a ledger**, by any importer and in any order. -/
inductive LedgerOp where
  | begin (accountId : Option String)
  | bind (token : Uuid) (accountId : String)
  | commit (token : Uuid) (activities : List Activity) (documents : ImportDocuments)
      (checkedAt now : WireTime)
  | fail (token : Uuid) (error : String) (checkedAt : WireTime)
  | rebuild

namespace Ledger

/-- A call, or `none` when it raises. -/
def transact (env : LedgerEnv) (db : Ledger) : LedgerOp → Option Ledger
  | .begin accountId => (db.begin accountId).map (·.1)
  | .bind token accountId => db.bind token accountId
  | .commit token activities documents checkedAt now =>
    (db.commit env token activities documents checkedAt now).map (·.1)
  | .fail token error checkedAt => some (db.fail token error checkedAt)
  | .rebuild => (db.rebuild env).map (·.1)

/-- A call that raises is rolled back. -/
def step (env : LedgerEnv) (db : Ledger) (op : LedgerOp) : Ledger :=
  (db.transact env op).getD db

/-- **A run.** -/
def run (env : LedgerEnv) (db : Ledger) (ops : List LedgerOp) : Ledger :=
  ops.foldl (step env) db

end Ledger

end AgenticTrader
