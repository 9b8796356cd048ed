import AgenticTrader.Durable
import AgenticTrader.Library.Table

/-!
# The database of one trading scope

The tables `storage/models.py` declares, restricted to the rows of one
scope (one environment and execution mode), and the helpers every workflow
transaction is written with: appending to the journal, queueing a
notification, persisting a halt.

The scope row serializes the transactions, so each of them is a function
of the database before it. The clock readings, broker answers and
identifiers a transaction takes from outside are its arguments.

`work_items` is one table in the source, discriminated by `kind`; here each
kind is a table of its own (`entries`, `cancels`, `outbox`). Every query of
the source filters on the kind, or looks a row up by its primary key, and a
key carries its kind as a prefix (`entry-…`, `cancel-…`).

Two counters are ghosts, that no transaction reads: `uuids` counts the
draws of `uuid4`, so that a draw is new, and `halts` the times a halt was
persisted, so that two writes of one flag can be told apart.
-/

namespace AgenticTrader

/-! ## Rows -/

/-- The lifetime a signal's stored policy document declares
(`execution/lifetime_policy.py`): elapsed seconds, a count of sessions, or a
native card's session bound. -/
inductive LifetimePolicy where
  | trade (restingSeconds holdingSeconds : Option ℕ) (independent : Bool)
  | session (restingSeconds holdingSessions : ℕ) (closeTimeEt : String)
  | native (restingSeconds closeBufferSeconds : ℕ)
  deriving DecidableEq

/-- **A signal row**: a trade card and what became of it. The stored JSON
documents appear decoded: `lifetime` is what `entry_lifetime_of` reads in
them – an error where a document is malformed – and `reprices` is the card
a re-priced card replaces. -/
structure Signal where
  id : SignalId
  timestamp : Time
  contract : String
  direction : Direction
  assetClass : AssetClass
  entryPrice : ℚ
  stopLoss : ℚ
  takeProfit : ℚ
  quantity : ℚ
  riskDollars : ℚ
  notionalValue : Option ℚ
  status : SignalStatus
  brokerOrderId : Option String
  executedAt : Option Time
  brokerExitOrderId : Option String
  lifetime : Except String (Option LifetimePolicy)
  reprices : Option SignalId

/-- **An entry work item** (`kind = 'entry'`), with its `OrderRequest`
payload. Its deduplication key is the request's signal. -/
structure EntryItem where
  id : Uuid
  sequence : ℕ
  status : WorkStatus
  request : OrderRequest
  trigger : EntryTrigger
  result : Option OrderResult
  token : Option Uuid
  attempts : ℕ
  leaseUntil : Option Time
  createdAt : Time
  deriving DecidableEq

/-- The exact broker order an entry became. -/
structure EntryIdentity where
  orderId : String
  clientOrderId : String
  symbol : String
  side : String
  quantity : String
  deriving DecidableEq

/-- What a resolution of a cancellation recorded. -/
structure CancelResult where
  reason : String
  orders : List OrderObservation
  transportError : Option String
  deriving DecidableEq

/-- **An entry-cancellation work item** (`kind = 'entry_cancel'`), with the
claimed order group of its payload. Its deduplication key is the signal. -/
structure CancelItem where
  id : Uuid
  sequence : ℕ
  status : WorkStatus
  signalId : SignalId
  cause : CancelCause
  identity : EntryIdentity
  orderIds : List String
  result : Option CancelResult
  createdAt : Time
  deriving DecidableEq

/-- What a notification carries. -/
inductive NotificationPayload where
  | message (text : String)
  | signal (signalId : SignalId)
  | cardExpired (signalId : SignalId) (contract : String) (reevaluable : Bool)
  | exit (signalId : SignalId)
  | stop (signalId : SignalId) (newStop : ℚ)
  deriving DecidableEq

/-- **An outbox row** (`kind = 'notification'`). `result` is the detail of the
last result recorded on it, when there is one. -/
structure Notification where
  id : Uuid
  sequence : ℕ
  dedupKey : String
  payload : NotificationPayload
  status : WorkStatus
  result : Option String
  attempts : ℕ
  token : Option Uuid
  leaseUntil : Option Time
  availableAt : Time
  createdAt : Time
  deriving DecidableEq

/-- **A durable close intent.** -/
structure CloseRequest where
  id : String
  symbol : String
  direction : Direction
  quantity : ℚ
  signalId : Option SignalId
  status : CloseRequestStatus
  brokerOrderId : Option String
  detail : String
  deriving DecidableEq

/-- The latest accepted observation of an order and the event that
journaled it. -/
structure OrderProjection where
  orderId : String
  eventId : ℕ
  observation : OrderObservation
  deriving DecidableEq

/-- **A journal event.** `eventKey = none` is a random key, which no later
append repeats. Of the payloads only an order observation is read back. -/
structure DomainEvent where
  id : ℕ
  stream : String
  kind : EventKind
  eventKey : Option String
  observation : Option OrderObservation
  deriving DecidableEq

/-- **The tables of one scope.** -/
structure Db where
  signals : List Signal
  entries : List EntryItem
  cancels : List CancelItem
  outbox : List Notification
  closeRequests : List CloseRequest
  orders : List OrderProjection
  journal : List DomainEvent
  /-- The `TRADING_HALTED` row of `system_state`, when there is one. -/
  tradingHalted : Option String
  tradingHaltReason : Option String
  signalSeq : ℕ
  eventSeq : ℕ
  uuids : ℕ
  halts : ℕ

namespace Db

/-- The database before anything was written. -/
def empty : Db where
  signals := []
  entries := []
  cancels := []
  outbox := []
  closeRequests := []
  orders := []
  journal := []
  tradingHalted := none
  tradingHaltReason := none
  signalSeq := 0
  eventSeq := 0
  uuids := 0
  halts := 0

end Db

/-! ## Configuration -/

/-- **The pure rules of the configuration**, fixed for a run.
`reservationRejection` is `execution/admission.py`'s verdict on a request
against the open positions and reservations, given the account drawdown and
equity; `cardIsStale` the expiry rule of `execution/freshness.py`; `etDate`
the New York date of an instant and `isoformat` its text. -/
structure Config where
  entryPreflightLease : Time
  entryQueueMaxAge : Time
  signalMaxAge : Time
  multiplier : String → Option ℚ
  reservationRejection : OrderRequest → List Signal → ℚ → Option ℚ → Option String
  cardIsStale : Signal → Time → Bool
  etDate : Time → ℤ
  isoformat : ℤ → String

/-! ## Journal, outbox and halt -/

namespace Db

/-- **`WorkflowStore.append`**: an event already journaled under the key is
returned as it is, and nothing is written. -/
def append (db : Db) (stream : String) (kind : EventKind)
    (observation : Option OrderObservation) (key : Option String) : Db × DomainEvent :=
  match key.bind (fun k => db.journal.find? (fun e => e.eventKey == some k)) with
  | some existing => (db, existing)
  | none =>
    let event : DomainEvent := ⟨db.eventSeq + 1, stream, kind, key, observation⟩
    ({ db with journal := db.journal ++ [event], eventSeq := db.eventSeq + 1 }, event)

/-- **`WorkflowStore.halt`**: persist a fail-closed halt inside the caller's
transaction. -/
def halt (db : Db) (reason : String) : Db :=
  { db with
    tradingHalted := some "true"
    tradingHaltReason := some reason
    halts := db.halts + 1 }

/-- An outcome nobody knows halts in the transaction that records it. -/
def haltIfUnknown (db : Db) (status : WorkStatus) (reason : String) : Db :=
  if status = .unknown then db.halt reason else db

/-- `value.lower() in ("true", "1", "yes")`. -/
def flagIsTrue (value : String) : Bool :=
  value.toLower ∈ ["true", "1", "yes"]

/-- The persisted `TRADING_HALTED` flag. -/
def halted (db : Db) : Bool :=
  db.tradingHalted.any flagIsTrue

/-- **`SignalDatabase.set_state(TRADING_HALTED, value)`.** -/
def setTradingHalted (db : Db) (value : String) : Db :=
  { db with
    tradingHalted := some value
    halts := if flagIsTrue value then db.halts + 1 else db.halts }

/-- **`SignalDatabase.set_state(TRADING_HALT_REASON, value)`.** -/
def setTradingHaltReason (db : Db) (value : String) : Db :=
  { db with tradingHaltReason := some value }

/-- **`WorkflowStore.add_notification`**: one row per key. -/
def addNotification (db : Db) (now : Time) (key : String)
    (payload : NotificationPayload) : Db :=
  if db.outbox.any (fun n => n.dedupKey == key) then db
  else
    let id := db.uuids
    let journaled :=
      ({ db with uuids := db.uuids + 1 }).append s!"notification/{id}"
        .notificationQueued none none
    { journaled.1 with
      outbox := db.outbox ++
        [⟨id, journaled.2.id, key, payload, .queued, none, 0, none, none, now, now⟩] }

/-- **`unresolved_cancellation(session)`**: some cancellation of the scope
awaits its outcome. -/
def unresolvedCancellation (db : Db) : Bool :=
  db.cancels.any (fun c => c.status.unresolved)

/-- **`unresolved_cancellation(session, symbol=…)`**: the same, among the
signals whose contract is the symbol. -/
def unresolvedCancellationOf (db : Db) (symbol : String) : Bool :=
  db.cancels.any (fun c => c.status.unresolved
    && db.signals.any (fun s => s.id == c.signalId && s.contract == symbol))

/-- The signal of an id. -/
def signal? (db : Db) (id : SignalId) : Option Signal :=
  db.signals.find? (fun s => s.id == id)

/-- The entry item of a signal, in any status. -/
def entryOf? (db : Db) (id : SignalId) : Option EntryItem :=
  db.entries.find? (fun e => e.request.signalId == id)

/-- The projection of an order. -/
def order? (db : Db) (orderId : String) : Option OrderProjection :=
  db.orders.find? (fun o => o.orderId == orderId)

/-- Some close request for the symbol is active. -/
def closing (db : Db) (symbol : String) : Bool :=
  db.closeRequests.any (fun c => c.symbol == symbol && c.status.active)

/-- The rows admission counts: open positions and reservations. -/
def reservations (db : Db) : List Signal :=
  db.signals.filter (fun s => s.status = .submitting ∨ s.status = .executed)

/-- **`folds_into_auto_digest`**: the routine notice of an auto entry is
left to the daily digest while the digest of its New York date can still
report it. -/
def foldsIntoAutoDigest (db : Db) (cfg : Config) (now : Time) (id : SignalId) : Bool :=
  match db.entryOf? id, db.signal? id with
  | some entry, some signal =>
    entry.trigger = .auto
      && !(cfg.etDate signal.timestamp < cfg.etDate now)
      && !(db.outbox.any (fun n => n.dedupKey
            == "auto-entry-digest/" ++ cfg.isoformat (cfg.etDate signal.timestamp)))
  | _, _ => false

/-! ### What the helpers leave alone

The journal and the outbox are written by almost every transaction, and
read by few: these say that the other tables do not notice. -/

section Frame

variable (db : Db) (stream : String) (kind : EventKind)
  (observation : Option OrderObservation) (key : Option String)

theorem append_cases :
    (∃ e ∈ db.journal, ∃ k, key = some k ∧ e.eventKey = some k
        ∧ db.append stream kind observation key = (db, e))
      ∨ db.append stream kind observation key
        = ({ db with
              journal := db.journal
                ++ [⟨db.eventSeq + 1, stream, kind, key, observation⟩]
              eventSeq := db.eventSeq + 1 },
            ⟨db.eventSeq + 1, stream, kind, key, observation⟩) := by
  unfold append
  cases key with
  | none => exact Or.inr rfl
  | some k =>
    simp only [Option.bind_some]
    cases h : db.journal.find? (fun e => e.eventKey == some k) with
    | none => exact Or.inr rfl
    | some e =>
      refine Or.inl ⟨e, List.mem_of_find?_eq_some h, k, rfl, ?_, rfl⟩
      simpa using List.find?_some h

@[simp] theorem append_signals :
    (db.append stream kind observation key).1.signals = db.signals := by
  unfold append; split <;> rfl

@[simp] theorem append_entries :
    (db.append stream kind observation key).1.entries = db.entries := by
  unfold append; split <;> rfl

@[simp] theorem append_cancels :
    (db.append stream kind observation key).1.cancels = db.cancels := by
  unfold append; split <;> rfl

@[simp] theorem append_closeRequests :
    (db.append stream kind observation key).1.closeRequests = db.closeRequests := by
  unfold append; split <;> rfl

@[simp] theorem append_orders :
    (db.append stream kind observation key).1.orders = db.orders := by
  unfold append; split <;> rfl

@[simp] theorem append_outbox :
    (db.append stream kind observation key).1.outbox = db.outbox := by
  unfold append; split <;> rfl

@[simp] theorem append_tradingHalted :
    (db.append stream kind observation key).1.tradingHalted = db.tradingHalted := by
  unfold append; split <;> rfl

@[simp] theorem append_halts :
    (db.append stream kind observation key).1.halts = db.halts := by
  unfold append; split <;> rfl

@[simp] theorem append_uuids :
    (db.append stream kind observation key).1.uuids = db.uuids := by
  unfold append; split <;> rfl

@[simp] theorem append_signalSeq :
    (db.append stream kind observation key).1.signalSeq = db.signalSeq := by
  unfold append; split <;> rfl

/-- An event under a random key is new, and gets the next id. -/
@[simp] theorem append_none_event :
    (db.append stream kind observation none).2.id = db.eventSeq + 1 := rfl

theorem le_append_eventSeq :
    db.eventSeq ≤ (db.append stream kind observation key).1.eventSeq := by
  rcases append_cases db stream kind observation key with ⟨e, _, k, _, _, h⟩ | h
  · rw [h]
  · rw [h]; exact Nat.le_succ _

@[simp] theorem append_none_eventSeq :
    (db.append stream kind observation none).1.eventSeq = db.eventSeq + 1 := rfl

end Frame

section Notify

variable (db : Db) (now : Time) (key : String) (payload : NotificationPayload)

@[simp] theorem addNotification_signals :
    (db.addNotification now key payload).signals = db.signals := by
  unfold addNotification; split <;> simp

@[simp] theorem addNotification_entries :
    (db.addNotification now key payload).entries = db.entries := by
  unfold addNotification; split <;> simp

@[simp] theorem addNotification_cancels :
    (db.addNotification now key payload).cancels = db.cancels := by
  unfold addNotification; split <;> simp

@[simp] theorem addNotification_closeRequests :
    (db.addNotification now key payload).closeRequests = db.closeRequests := by
  unfold addNotification; split <;> simp

@[simp] theorem addNotification_orders :
    (db.addNotification now key payload).orders = db.orders := by
  unfold addNotification; split <;> simp

@[simp] theorem addNotification_tradingHalted :
    (db.addNotification now key payload).tradingHalted = db.tradingHalted := by
  unfold addNotification; split <;> simp

@[simp] theorem addNotification_halts :
    (db.addNotification now key payload).halts = db.halts := by
  unfold addNotification; split <;> simp

@[simp] theorem addNotification_signalSeq :
    (db.addNotification now key payload).signalSeq = db.signalSeq := by
  unfold addNotification; split <;> simp

theorem le_addNotification_uuids :
    db.uuids ≤ (db.addNotification now key payload).uuids := by
  unfold addNotification; split <;> simp

theorem le_addNotification_eventSeq :
    db.eventSeq ≤ (db.addNotification now key payload).eventSeq := by
  unfold addNotification; split <;> simp

end Notify

/-! ### Transactions off the workflow tables -/

/-- **The workflow tables are as they were**: no work item, no close request
and no halt was written, and the counters only grew. Most transactions are
such; the others are the workflow itself. -/
structure Keeps (db db' : Db) : Prop where
  entries : db'.entries = db.entries
  cancels : db'.cancels = db.cancels
  closeRequests : db'.closeRequests = db.closeRequests
  tradingHalted : db'.tradingHalted = db.tradingHalted
  halts : db'.halts = db.halts
  uuids : db.uuids ≤ db'.uuids
  eventSeq : db.eventSeq ≤ db'.eventSeq

theorem Keeps.refl (db : Db) : db.Keeps db :=
  ⟨rfl, rfl, rfl, rfl, rfl, le_rfl, le_rfl⟩

theorem Keeps.trans {a b c : Db} (hab : a.Keeps b) (hbc : b.Keeps c) : a.Keeps c where
  entries := hbc.entries.trans hab.entries
  cancels := hbc.cancels.trans hab.cancels
  closeRequests := hbc.closeRequests.trans hab.closeRequests
  tradingHalted := hbc.tradingHalted.trans hab.tradingHalted
  halts := hbc.halts.trans hab.halts
  uuids := hab.uuids.trans hbc.uuids
  eventSeq := hab.eventSeq.trans hbc.eventSeq

theorem keeps_append (db : Db) (stream : String) (kind : EventKind)
    (observation : Option OrderObservation) (key : Option String) :
    db.Keeps (db.append stream kind observation key).1 := by
  constructor <;> simp [le_append_eventSeq]

theorem keeps_addNotification (db : Db) (now : Time) (key : String)
    (payload : NotificationPayload) : db.Keeps (db.addNotification now key payload) := by
  constructor <;> simp [le_addNotification_eventSeq, le_addNotification_uuids]

/-- **Nothing was observed of an order**: the views are as they were, and the
journal grew, if at all, by events of other kinds. -/
structure Journaled (db db' : Db) : Prop where
  orders : db'.orders = db.orders
  journal : ∃ new, db'.journal = db.journal ++ new
    ∧ ∀ e ∈ new, e.kind ≠ .orderObserved ∧ (∀ d, e.eventKey ≠ some ("order/" ++ d))
      ∧ e.id ≤ db'.eventSeq
  grows : db.eventSeq ≤ db'.eventSeq

/-- A write on other tables. -/
theorem Journaled.of_same {db db' : Db} (ho : db'.orders = db.orders)
    (hj : db'.journal = db.journal) (hs : db.eventSeq ≤ db'.eventSeq) : db.Journaled db' :=
  ⟨ho, ⟨[], by rw [hj, List.append_nil], fun e he => by cases he⟩, hs⟩

theorem Journaled.refl (db : Db) : db.Journaled db :=
  Journaled.of_same rfl rfl le_rfl

theorem Journaled.trans {a b c : Db} (hab : a.Journaled b) (hbc : b.Journaled c) :
    a.Journaled c := by
  obtain ⟨n, hn, hn'⟩ := hab.journal
  obtain ⟨m, hm, hm'⟩ := hbc.journal
  refine ⟨hbc.orders.trans hab.orders, ⟨n ++ m, by rw [hm, hn, List.append_assoc], ?_⟩,
    hab.grows.trans hbc.grows⟩
  intro e he
  rcases List.mem_append.mp he with he | he
  · obtain ⟨hk, hd, hi⟩ := hn' e he
    exact ⟨hk, hd, hi.trans hbc.grows⟩
  · exact hm' e he

/-- One event of another kind, under a random key. -/
theorem Journaled.of_one {db db' : Db} {e : DomainEvent} (ho : db'.orders = db.orders)
    (hj : db'.journal = db.journal ++ [e]) (hk : e.kind ≠ .orderObserved)
    (hkey : e.eventKey = none) (hs : db.eventSeq ≤ db'.eventSeq)
    (hid : e.id ≤ db'.eventSeq) : db.Journaled db' := by
  refine ⟨ho, ⟨[e], hj, fun x hx => ?_⟩, hs⟩
  rw [List.mem_singleton.mp hx]
  refine ⟨hk, fun d h => ?_, hid⟩
  rw [hkey] at h
  cases h

theorem journaled_append (db : Db) (stream : String) {kind : EventKind}
    (observation : Option OrderObservation) {key : Option String}
    (hk : kind ≠ .orderObserved) (hkey : ∀ d, key ≠ some ("order/" ++ d)) :
    db.Journaled (db.append stream kind observation key).1 := by
  rcases append_cases db stream kind observation key with ⟨e, _, k, _, _, h⟩ | h
  · rw [h]
    exact Journaled.refl db
  · rw [h]
    refine ⟨rfl, ⟨_, rfl, fun e he => ?_⟩, Nat.le_succ _⟩
    rw [List.mem_singleton.mp he]
    exact ⟨hk, hkey, le_rfl⟩

theorem journaled_addNotification (db : Db) (now : Time) (key : String)
    (payload : NotificationPayload) :
    db.Journaled (db.addNotification now key payload) := by
  unfold addNotification
  split
  · exact Journaled.refl db
  · refine ⟨by simp, ⟨_, rfl, fun e he => ?_⟩, by simp⟩
    rw [List.mem_singleton.mp he]
    exact ⟨(fun h => by cases h), (fun d h => by cases h), le_rfl⟩

/-- **Only the journal and the outbox were written.** A transaction ends so:
it writes its tables, then says that it did. -/
structure Logs (db db' : Db) : Prop extends db.Keeps db', db.Journaled db' where
  signals : db'.signals = db.signals
  signalSeq : db'.signalSeq = db.signalSeq

theorem Logs.refl (db : Db) : db.Logs db :=
  ⟨Keeps.refl db, Journaled.refl db, rfl, rfl⟩

theorem Logs.trans {a b c : Db} (hab : a.Logs b) (hbc : b.Logs c) : a.Logs c where
  toKeeps := hab.toKeeps.trans hbc.toKeeps
  toJournaled := hab.toJournaled.trans hbc.toJournaled
  signals := hbc.signals.trans hab.signals
  signalSeq := hbc.signalSeq.trans hab.signalSeq

/-- What was logged after a write on other tables. -/
theorem Logs.journaled {db base db' : Db} (hl : base.Logs db')
    (ho : base.orders = db.orders) (hj : base.journal = db.journal)
    (hs : db.eventSeq ≤ base.eventSeq) : db.Journaled db' :=
  (Journaled.of_same ho hj hs).trans hl.toJournaled

/-- An event under a random key. -/
theorem logs_append (db : Db) (stream : String) {kind : EventKind}
    (hk : kind ≠ .orderObserved) : db.Logs (db.append stream kind none none).1 :=
  ⟨keeps_append db stream kind none none,
    journaled_append db stream none hk (fun _ h => by cases h), by simp, by simp⟩

/-- An event under a key of its own. -/
theorem logs_append_key (db : Db) (stream : String) {kind : EventKind} (key : String)
    (hk : kind ≠ .orderObserved) (hkey : ∀ d, key ≠ "order/" ++ d) :
    db.Logs (db.append stream kind none (some key)).1 :=
  ⟨keeps_append db stream kind none (some key),
    journaled_append db stream none hk (fun d h => hkey d (Option.some.inj h)), by simp,
    by simp⟩

theorem logs_addNotification (db : Db) (now : Time) (key : String)
    (payload : NotificationPayload) : db.Logs (db.addNotification now key payload) :=
  ⟨keeps_addNotification db now key payload,
    journaled_addNotification db now key payload, by simp, by simp⟩

/-- A text that starts with another letter is no order key. -/
theorem ne_order_key {key : String} {c : Char} (hc : key.toList.head? = some c)
    (hne : c ≠ 'o') (d : String) : key ≠ "order/" ++ d := by
  rintro rfl
  rw [String.toList_append] at hc
  exact hne (by simpa using hc.symm)

/-- A write on the signals keeps the workflow tables. -/
theorem keeps_signals (db : Db) (signals : List Signal) (signalSeq : ℕ) :
    db.Keeps { db with signals := signals, signalSeq := signalSeq } :=
  ⟨rfl, rfl, rfl, rfl, rfl, le_rfl, le_rfl⟩

/-- A write on the views keeps the workflow tables. -/
theorem keeps_orders (db : Db) (orders : List OrderProjection) :
    db.Keeps { db with orders := orders } :=
  ⟨rfl, rfl, rfl, rfl, rfl, le_rfl, le_rfl⟩

/-- A halt is read off the flag alone. -/
theorem Keeps.halted {db db' : Db} (h : db.Keeps db') : db'.halted = db.halted := by
  unfold Db.halted
  rw [h.tradingHalted]

@[simp] theorem flagIsTrue_true : flagIsTrue "true" = true := by decide +kernel

@[simp] theorem flagIsTrue_false : flagIsTrue "false" = false := by decide +kernel

@[simp] theorem halt_halted (db : Db) (reason : String) :
    (db.halt reason).halted = true := by
  simp [halted, halt]

/-! ### The halt of an unknown outcome -/

section HaltIfUnknown

variable (db : Db) (status : WorkStatus) (reason : String)

@[simp] theorem haltIfUnknown_entries :
    (db.haltIfUnknown status reason).entries = db.entries := by
  unfold haltIfUnknown; split <;> rfl

@[simp] theorem haltIfUnknown_cancels :
    (db.haltIfUnknown status reason).cancels = db.cancels := by
  unfold haltIfUnknown; split <;> rfl

@[simp] theorem haltIfUnknown_closeRequests :
    (db.haltIfUnknown status reason).closeRequests = db.closeRequests := by
  unfold haltIfUnknown; split <;> rfl

@[simp] theorem haltIfUnknown_signals :
    (db.haltIfUnknown status reason).signals = db.signals := by
  unfold haltIfUnknown; split <;> rfl

@[simp] theorem haltIfUnknown_signalSeq :
    (db.haltIfUnknown status reason).signalSeq = db.signalSeq := by
  unfold haltIfUnknown; split <;> rfl

@[simp] theorem haltIfUnknown_uuids :
    (db.haltIfUnknown status reason).uuids = db.uuids := by
  unfold haltIfUnknown; split <;> rfl

@[simp] theorem haltIfUnknown_eventSeq :
    (db.haltIfUnknown status reason).eventSeq = db.eventSeq := by
  unfold haltIfUnknown; split <;> rfl

theorem journaled_haltIfUnknown : db.Journaled (db.haltIfUnknown status reason) := by
  unfold haltIfUnknown
  split
  · exact Journaled.of_same rfl rfl le_rfl
  · exact Journaled.refl db

/-- The flag is raised exactly by an unknown outcome. -/
theorem haltIfUnknown_raises :
    if status = .unknown
      then (db.haltIfUnknown status reason).halted = true
        ∧ (db.haltIfUnknown status reason).halts = db.halts + 1
      else db.haltIfUnknown status reason = db := by
  unfold haltIfUnknown
  split
  · exact ⟨halt_halted db reason, rfl⟩
  · rfl

end HaltIfUnknown

/-- A halt takes nothing from the counters. -/
theorem Logs.counters {db db' : Db} {status : WorkStatus} {reason : String}
    (hl : (db.haltIfUnknown status reason).Logs db') :
    db.uuids ≤ db'.uuids ∧ db.eventSeq ≤ db'.eventSeq := by
  simpa using And.intro hl.uuids hl.eventSeq

/-- An unknown outcome leaves the flag raised, whatever is logged after it. -/
theorem haltIfUnknown_of_unknown {db db' : Db} {status : WorkStatus} {reason : String}
    (hu : status = .unknown) (hl : (db.haltIfUnknown status reason).Logs db') :
    db'.halted = true ∧ db'.halts = db.halts + 1 := by
  have hraise := db.haltIfUnknown_raises status reason
  rw [if_pos hu] at hraise
  exact ⟨by rw [hl.halted]; exact hraise.1, by rw [hl.halts, hraise.2]⟩

end Db

end AgenticTrader
