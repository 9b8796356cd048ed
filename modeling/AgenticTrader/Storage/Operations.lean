import AgenticTrader.Diagnostics.Incidents
import AgenticTrader.Library.Table
import Mathlib.Logic.Function.Basic

/-!
# The incident store

`OperationsStore` (`storage/operations.py`): every observation of a component
advances its incident in one transaction, which queues the notice, journals
the change and writes the projection; `rebuild` replays the journal. The
projection is a table with the component as its key. Of the journal the store
reads the incident events, and of the outbox its own notices, whose delivery
the dispatcher records.

A notice's deduplication key is a text made of the incident, the kind and the
instant, here the triple of them. The stored documents appear decoded.
-/

namespace AgenticTrader

/-- **A row of `incident_projections`.** -/
structure IncidentProjection where
  observedAt : Time
  eventId : Option ℕ
  state : IncidentState
  deriving DecidableEq

/-- **An incident event of the journal.** -/
structure IncidentEvent where
  id : ℕ
  schemaVersion : ℕ
  component : String
  observedAt : Time
  state : IncidentState
  notice : Option OperationalNotice
  withheld : Option WithheldNotice
  deriving DecidableEq

/-- The deduplication key of a notice. -/
abbrev NoticeKey := Uuid × NoticeKind × Time

/-- **A notice in the outbox.** -/
structure NoticeItem where
  id : Uuid
  dedupKey : NoticeKey
  notice : OperationalNotice
  status : WorkStatus
  deriving DecidableEq

/-- **The tables the store writes.** `uuids` counts the draws of `uuid4`. -/
structure OperationsDb where
  rows : String → Option IncidentProjection
  events : List IncidentEvent
  outbox : List NoticeItem
  eventSeq : ℕ
  uuids : ℕ

namespace OperationsDb

def empty : OperationsDb := ⟨fun _ => none, [], [], 0, 0⟩

/-- **`add_notification`**: one row per key. -/
def addNotification (db : OperationsDb) (key : NoticeKey) (notice : OperationalNotice) :
    OperationsDb × Uuid :=
  match db.outbox.find? (fun item => item.dedupKey == key) with
  | some existing => (db, existing.id)
  | none =>
    ({ db with
        outbox := db.outbox ++ [⟨db.uuids, key, notice, .queued⟩]
        uuids := db.uuids + 1 }, db.uuids)

/-- The last notice of an incident was delivered. -/
def deliveryComplete (db : OperationsDb) (state : IncidentState) : Bool :=
  match state.notificationId with
  | some id => (db.outbox.find? (fun item => item.id == id)).any
    (fun item => item.status == .delivered)
  | none => false

/-- The notice of a transition, queued, with the state that names it. -/
def queueNotice (db : OperationsDb) (component : String) (o : Observation) (detail : String)
    (state : IncidentState) :
    Option NoticeKind → Except String (OperationsDb × IncidentState × Option OperationalNotice)
  | none => .ok (db, state, none)
  | some kind =>
    match state.incidentId, state.failedSince with
    | some incidentId, some failedSince =>
      let notice : OperationalNotice :=
        ⟨component, incidentId, kind, o.observedAt, failedSince, detail⟩
      let queued := db.addNotification (incidentId, kind, o.observedAt) notice
      .ok (queued.1, { state with notificationId := some queued.2 }, some notice)
    | _, _ => .error "AssertionError"

/-- The journal and the projection of an observation: an event is appended if
the state has changed. -/
def writeState (db : OperationsDb) (component : String) (o : Observation)
    (previous state : IncidentState) (eventId : Option ℕ) (notice : Option OperationalNotice)
    (withheld : Option WithheldNotice) : OperationsDb :=
  if state = previous then
    { db with rows := Function.update db.rows component (some ⟨o.observedAt, eventId, state⟩) }
  else
    { db with
      rows := Function.update db.rows component
        (some ⟨o.observedAt, some (db.eventSeq + 1), state⟩)
      events := db.events ++
        [⟨db.eventSeq + 1, 1, component, o.observedAt, state, notice, withheld⟩]
      eventSeq := db.eventSeq + 1 }

/-- **`OperationsStore.observe`**: an observation that is not newer than the
last one is dropped. -/
def observe (db : OperationsDb) (component : String) (o : Observation) (detail : String) :
    Except String (OperationsDb × Option OperationalNotice) :=
  let row := db.rows component
  if row.any (fun r => decide (o.observedAt ≤ r.observedAt)) then .ok (db, none)
  else
    let previous := (row.map IncidentProjection.state).getD {}
    match advance o (db.deliveryComplete previous) db.uuids previous with
    | .error e => .error e
    | .ok (state, kind, withheld) =>
      match ({ db with uuids := db.uuids + 1 }).queueNotice component o detail state kind with
      | .error e => .error e
      | .ok (db, state, notice) =>
        .ok (db.writeState component o previous state (row.bind IncidentProjection.eventId) notice
          withheld, notice)

/-- The projection of one event of the journal, in a rebuild. -/
def replayEvent (rows : String → Option IncidentProjection) (event : IncidentEvent) :
    Except String (String → Option IncidentProjection) :=
  if event.schemaVersion ≠ 1 then .error "Unsupported incident event schema"
  else
    let observedAt := match rows event.component with
      | some row => max row.observedAt event.observedAt
      | none => event.observedAt
    .ok (Function.update rows event.component (some ⟨observedAt, some event.id, event.state⟩))

/-- **`OperationsStore.rebuild`**: the projections start from no incident, with
their instants. -/
def rebuild (db : OperationsDb) : Except String (OperationsDb × ℕ) :=
  let start := fun component => (db.rows component).map
    (fun row => { row with state := {}, eventId := none })
  match db.events.foldlM replayEvent start with
  | .ok rows => .ok ({ db with rows := rows }, db.events.length)
  | .error e => .error e

/-- The dispatcher records what became of a notice. -/
def recordDelivery (db : OperationsDb) (id : Uuid) (status : WorkStatus) : OperationsDb :=
  { db with
    outbox := Table.updateWhere (fun item => item.id == id) (fun item => { item with status })
      db.outbox }

/-- The kinds of the notices queued for an incident, in order. -/
def noticesOf (db : OperationsDb) (incident : Uuid) : List NoticeKind :=
  (db.outbox.filter (fun item => item.notice.incidentId == incident)).map
    (fun item => item.notice.kind)

end OperationsDb

/-- **A transaction of the incident store.** -/
inductive OperationsStep : OperationsDb → OperationsDb → Prop
  | observe {db db' : OperationsDb} {component : String} {o : Observation} {detail : String}
      {notice : Option OperationalNotice} (h : db.observe component o detail = .ok (db', notice)) :
      OperationsStep db db'
  | delivery (db : OperationsDb) (id : Uuid) (status : WorkStatus) :
      OperationsStep db (db.recordDelivery id status)
  | rebuild {db db' : OperationsDb} {n : ℕ} (h : db.rebuild = .ok (db', n)) :
      OperationsStep db db'

end AgenticTrader
