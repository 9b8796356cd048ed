import AgenticTrader.Storage.Db
import Mathlib.Data.List.MinMax

/-!
# The entry transactions

`WorkflowStore.enqueue_entry`, `claim_entry`, `begin_submission` and
`resolve_entry` (`storage/workflow.py`): the four transactions an entry goes
through. A card that is still `PENDING` is queued; a worker claims the head
of the queue under a fencing token and a lease; the claimant, and nobody
else, crosses into `SUBMITTING`; and an outcome – the broker's own answer,
or a later lookup – settles the item.

A transaction is written as the check that may refuse it, in the order the
source makes its checks and with the text it answers, and the write that
follows when nothing refuses. The registry, the account ledger and the
broker are read inside the checks and are not tables of this scope: what
they say at the call is `EntryEvidence` and the capacity check.
-/

namespace AgenticTrader

/-- What the entry transactions read of an account risk snapshot. -/
structure RiskEvidence where
  fingerprint : String
  drawdownPct : ℚ
  equity : ℚ
  deriving DecidableEq

/-- **What the other tables say at the moment of a call**: the alpha
registry's verdict on a signal (`_alpha_entry_rejection`) and the account
risk of the ledger checkpoint (`_entry_risk`), an error where it is
unavailable. -/
structure EntryEvidence where
  alphaEntryRejection : Signal → Option String
  entryRisk : Except String (Option RiskEvidence)

/-- `assess_entry_capacity` over one broker context: the text of the error
it raises, or none. -/
abbrev CapacityCheck :=
  OrderRequest → List Signal → Option RiskEvidence → Option String

/-- `BROKER_CLOCK_SKEW_TOLERANCE_SECONDS`. -/
def brokerClockSkewTolerance : Time := 1000000

/-- **`authorization_expiry`**: one deadline policy for the preflight and
for the locked transaction. -/
def authorizationExpiry (cfg : Config) (approvedAt signalAt now : Time) :
    Option String :=
  if ¬(-brokerClockSkewTolerance ≤ now - approvedAt
      ∧ now - approvedAt ≤ cfg.entryQueueMaxAge) then
    some "Queued authorization expired; fresh operator approval is required."
  else if ¬(-brokerClockSkewTolerance ≤ now - signalAt
      ∧ now - signalAt ≤ cfg.signalMaxAge) then
    some "Signal is stale or clock-skewed; request a fresh scan."
  else none

/-- `lease_until > now`; an item without a lease is not leased. -/
def EntryItem.leased (e : EntryItem) (now : Time) : Bool :=
  e.leaseUntil.any (fun t => now < t)

/-- The signal still is what was approved: the comparison `begin_submission`
makes between the row and the queued request. -/
def Signal.authorizes (s : Signal) (request : OrderRequest) : Bool :=
  s.status = .submitting && s.contract = request.symbol
    && s.direction = request.direction && s.assetClass = request.assetClass
    && s.quantity = request.quantity && s.entryPrice = request.entryPrice
    && s.stopLoss = request.stopLoss && s.takeProfit = request.takeProfit

/-- The status a result settles an entry in. -/
def OrderResult.entryStatus (r : OrderResult) : WorkStatus :=
  if r.success then .accepted
  else if r.submissionUncertain then .unknown else .rejected

namespace Db

/-! ## Queueing -/

/-- The client order id of an entry command. -/
def entryCommandId (id : Uuid) : String := s!"entry-{id}"

/-- **The checks of `enqueue_entry`**: an existing item, or the reason for
having none. -/
def enqueueRefusal (db : Db) (cfg : Config) (ev : EntryEvidence)
    (request : OrderRequest) : Option (Option EntryItem × String) :=
  match db.entryOf? request.signalId with
  | some existing => some (some existing, "Already authorized; original request retained.")
  | none =>
    if db.halted then some (none, "Emergency trading halt active.")
    else if db.unresolvedCancellation then
      some (none, "Unconfirmed entry cancellation remains; inspect broker evidence.")
    else if db.closing request.symbol then
      some (none, "Symbol has an unresolved close request.")
    else
      match db.signal? request.signalId with
      | none => some (none, "Signal is not pending.")
      | some signal =>
        if signal.status ≠ .pending then some (none, "Signal is not pending.")
        else
          match ev.alphaEntryRejection signal with
          | some reason => some (none, reason)
          | none =>
            match ev.entryRisk with
            | .error e =>
              some (none, s!"Account risk unavailable: {e}. No order submitted.")
            | .ok risk =>
              (cfg.reservationRejection request db.reservations
                ((risk.map (·.drawdownPct)).getD 0) (risk.map (·.equity))).map
                (fun reason => (none, reason))

/-- The queued item: the request with its client order id. -/
def queuedItem (db : Db) (now : Time) (request : OrderRequest)
    (trigger : EntryTrigger) : EntryItem where
  id := db.uuids
  sequence := db.eventSeq + 1
  status := .queued
  request := { request with clientOrderId := some (entryCommandId db.uuids) }
  trigger := trigger
  result := none
  token := none
  attempts := 0
  leaseUntil := none
  createdAt := now

/-- The write on the signal of a queued request: it is reserved at the
size asked for. -/
def reserve (cfg : Config) (request : OrderRequest) (s : Signal) : Signal :=
  let multiplier := (cfg.multiplier request.symbol).getD 1
  { s with
    status := .submitting
    quantity := request.quantity
    notionalValue := some (request.entryPrice * request.quantity * multiplier)
    riskDollars := |request.entryPrice - request.stopLoss| * request.quantity * multiplier }

/-- **The write of `enqueue_entry`.** -/
def queueEntry (db : Db) (cfg : Config) (now : Time) (request : OrderRequest)
    (trigger : EntryTrigger) : Db × EntryItem :=
  let item := db.queuedItem now request trigger
  let journaled := ({ db with uuids := db.uuids + 1 }).append
    ("entry/" ++ entryCommandId item.id) .entryQueued none none
  ({ journaled.1 with
      entries := db.entries ++ [item]
      signals := Table.updateWhere (fun s => s.id == request.signalId)
        (reserve cfg request) db.signals },
    item)

/-- **`WorkflowStore.enqueue_entry`.** -/
def enqueueEntry (db : Db) (cfg : Config) (ev : EntryEvidence) (now : Time)
    (request : OrderRequest) (trigger : EntryTrigger) :
    Db × Option EntryItem × String :=
  match db.enqueueRefusal cfg ev request with
  | some refusal => (db, refusal)
  | none =>
    let queued := db.queueEntry cfg now request trigger
    (queued.1, some queued.2, "Queued for fresh admission checks.")

/-- **What an enqueue that queues has checked.** -/
theorem enqueueRefusal_eq_none {db : Db} {cfg : Config} {ev : EntryEvidence}
    {request : OrderRequest} (h : db.enqueueRefusal cfg ev request = none) :
    db.entryOf? request.signalId = none ∧ db.halted = false
      ∧ db.unresolvedCancellation = false ∧ db.closing request.symbol = false
      ∧ ∃ signal, db.signal? request.signalId = some signal
        ∧ signal.status = .pending := by
  unfold enqueueRefusal at h
  split at h
  · cases h
  · rename_i hentry
    split at h
    · cases h
    · split at h
      · cases h
      · split at h
        · cases h
        · rename_i hhalt hcancel hclose
          split at h
          · cases h
          · rename_i signal hsignal
            split at h
            · cases h
            · rename_i hstatus
              exact ⟨hentry, by simpa using hhalt, by simpa using hcancel,
                by simpa using hclose, signal, hsignal, by simpa using hstatus⟩

/-! ## Claiming -/

/-- The head of the queue: the blocking item with the smallest sequence. -/
def entryHead? (db : Db) : Option EntryItem :=
  (db.entries.filter (fun e => e.status.blocking)).argmin (fun e => e.sequence)

/-- The claim a worker takes out on an item. -/
def claimedItem (db : Db) (lease now : Time) (row : EntryItem) : EntryItem :=
  { row with
    status := .checking
    token := some db.uuids
    leaseUntil := some (now + lease)
    attempts := row.attempts + 1 }

/-- **`WorkflowStore.claim_entry`**: the head is claimed unless it is past
the queue or its claimant's lease still runs. A lost lease is claimed anew,
under a new token. -/
def claimEntry (db : Db) (lease now : Time) : Db × Option EntryItem :=
  match db.entryHead? with
  | none => (db, none)
  | some row =>
    if row.status.unresolved then (db, none)
    else if row.status = .checking ∧ row.leased now then (db, none)
    else
      let item := db.claimedItem lease now row
      let journaled := ({ db with uuids := db.uuids + 1 }).append
        ("entry/" ++ entryCommandId row.id) .entryChecking none none
      ({ journaled.1 with
          entries := Table.updateWhere (fun e => e.id == row.id)
            (fun _ => item) db.entries },
        some item)

/-! ## Submitting -/

/-- The claim an item stands for, as `begin_submission` looks it up. -/
def claimOf? (db : Db) (item : EntryItem) (now : Time) : Option EntryItem :=
  db.entries.find? (fun e => e.id == item.id && e.status == .checking
    && e.token == item.token && e.leased now)

/-- **The checks of `begin_submission`.** `t₀`, `t₁` and `t₂` are its three
readings of the clock. -/
def submissionRefusal (db : Db) (cfg : Config) (ev : EntryEvidence)
    (riskFingerprint : Option String) (context : Option CapacityCheck)
    (t₀ t₁ t₂ : Time) (item : EntryItem) : Option String :=
  if db.halted then some "Emergency trading halt active. No order submitted."
  else if db.unresolvedCancellation then
    some "Unconfirmed entry cancellation remains. No order submitted."
  else
    match db.claimOf? item t₀ with
    | none =>
      some "Admission claim expired or changed. No order submitted; request fresh approval."
    | some row =>
      match (db.signal? item.request.signalId).filter (·.authorizes item.request) with
      | none => some "Signal or active alpha authorization changed. No order submitted."
      | some signal =>
        match ev.alphaEntryRejection signal with
        | some reason => some (reason ++ " No order submitted.")
        | none =>
          match ev.entryRisk with
          | .error e => some s!"Account risk unavailable: {e}. No order submitted."
          | .ok risk =>
            let others := db.reservations.filter (fun s => s.id != item.request.signalId)
            if risk.any (fun r => some r.fingerprint ≠ riskFingerprint) then
              some "Account risk changed after preflight. No order submitted; request a fresh scan."
            else if ¬ row.leased t₁ then
              some "Admission claim expired while validating account risk. No order submitted."
            else
              match authorizationExpiry cfg row.createdAt signal.timestamp t₂, context with
              | some reason, _ => some reason
              | none, none =>
                if risk.isSome then
                  some "Fresh broker capacity evidence is unavailable. No order submitted."
                else cfg.reservationRejection item.request others 0 none
              | none, some assess =>
                (assess item.request others risk).map
                  (fun e => s!"Entry capacity refused: {e}. No order submitted.")

/-- **The write of `begin_submission`**: the submission authority. -/
def markSubmitting (db : Db) (item : EntryItem) : Db :=
  let journaled := db.append ("entry/" ++ entryCommandId item.id) .entrySubmitting none none
  { journaled.1 with
    entries := Table.updateWhere (fun e => e.id == item.id)
      (fun e => { e with status := .submitting, leaseUntil := none }) db.entries }

/-- **`WorkflowStore.begin_submission`**: commit the submission authority,
or return the reason for refusing it. -/
def beginSubmission (db : Db) (cfg : Config) (ev : EntryEvidence)
    (riskFingerprint : Option String) (context : Option CapacityCheck)
    (t₀ t₁ t₂ : Time) (item : EntryItem) : Db × Option String :=
  match db.submissionRefusal cfg ev riskFingerprint context t₀ t₁ t₂ item with
  | some reason => (db, some reason)
  | none => (db.markSubmitting item, none)

/-- **What a committed submission has checked**: no halt, no cancellation in
doubt, and the claim – this item, this token – still in `CHECKING`. -/
theorem submissionRefusal_eq_none {db : Db} {cfg : Config} {ev : EntryEvidence}
    {riskFingerprint : Option String} {context : Option CapacityCheck}
    {t₀ t₁ t₂ : Time} {item : EntryItem}
    (h : db.submissionRefusal cfg ev riskFingerprint context t₀ t₁ t₂ item = none) :
    db.halted = false ∧ db.unresolvedCancellation = false
      ∧ ∃ row ∈ db.entries, row.id = item.id ∧ row.status = .checking
        ∧ row.token = item.token := by
  unfold submissionRefusal at h
  split at h
  · cases h
  · rename_i hhalt
    split at h
    · cases h
    · rename_i hcancel
      split at h
      · cases h
      · rename_i row hrow
        have hp := List.find?_some hrow
        simp only [Bool.and_eq_true, beq_iff_eq] at hp
        exact ⟨by simpa using hhalt, by simpa using hcancel, row,
          List.mem_of_find?_eq_some hrow, hp.1.1.1, hp.1.1.2, hp.1.2⟩

/-! ## Settling -/

/-- The row `resolve_entry` settles, when it settles one: a blocking item,
under the claimant's token, or on a recovery one whose outcome is open. -/
def resolvable? (db : Db) (item : EntryItem) (recovery : Bool) : Option EntryItem :=
  (db.entries.find? (fun e => e.id == item.id && e.status.blocking)).filter
    (fun row => if recovery then row.status.unresolved else row.token = item.token)

/-- The write on the signal of a settled entry: executed under its broker
order, or failed. -/
def settle (result : OrderResult) (s : Signal) : Signal :=
  { s with
    status := if result.success then .executed else .failed
    brokerOrderId := result.orderId
    entryPrice := result.fillPrice.getD s.entryPrice }

/-- The signal rows after a settlement: an unknown outcome touches none. -/
def settledSignals (db : Db) (item : EntryItem) (result : OrderResult) : List Signal :=
  if result.entryStatus = .unknown then db.signals
  else Table.updateWhere
    (fun s => s.id == item.request.signalId && s.status == .submitting)
    (settle result) db.signals

/-- The notice of a settled entry. -/
def entryNotice (item : EntryItem) (result : OrderResult) : String :=
  let signalId := item.request.signalId
  let status := result.entryStatus.text
  let order := if truthy result.orderId then result.orderId.getD "" else "unconfirmed"
  let error := result.errorMessage.getD ""
  let detail := s!"Entry #{signalId}: {status}. Broker order: {order}. {error}"
  if result.entryStatus = .rejected then
    detail ++ " Conditions changed or the broker rejected this order. Run /scan for a new proposal and approval."
  else detail

/-- The tables `resolve_entry` writes on the row it found. -/
def settledTables (db : Db) (row item : EntryItem) (result : OrderResult) : Db :=
  { db with
    entries := Table.updateWhere (fun e => e.id == row.id)
      (fun e => { e with status := result.entryStatus, result := some result }) db.entries
    signals := db.settledSignals item result }

/-- **The write of `resolve_entry`**: the tables, the halt of an unknown
outcome, the event, and the notice unless the daily digest reports it. -/
def settleEntry (db : Db) (cfg : Config) (now : Time) (row item : EntryItem)
    (result : OrderResult) : Db :=
  let command := entryCommandId item.id
  let status := result.entryStatus
  let fenced := (db.settledTables row item result).haltIfUnknown status
    s!"Unconfirmed broker entry {command}; lookup recovery required before /resume"
  let journaled := (fenced.append ("entry/" ++ command) .entryResolved none none).1
  let folded := status = .accepted ∧ row.status ≠ .unknown
    ∧ journaled.foldsIntoAutoDigest cfg now item.request.signalId = true
  if folded then journaled
  else journaled.addNotification now ("entry/" ++ command ++ "/" ++ status.text)
    (.message (entryNotice item result))

/-- **`WorkflowStore.resolve_entry`.** -/
def resolveEntry (db : Db) (cfg : Config) (now : Time) (item : EntryItem)
    (result : OrderResult) (recovery : Bool) : Db × Bool :=
  match db.resolvable? item recovery with
  | none => (db, false)
  | some row => (db.settleEntry cfg now row item result, true)

/-- **What a resolution that settles has checked.** -/
theorem resolvable?_eq_some {db : Db} {item row : EntryItem} {recovery : Bool}
    (h : db.resolvable? item recovery = some row) :
    row ∈ db.entries ∧ row.id = item.id ∧ row.status.blocking = true
      ∧ (recovery = true → row.status.unresolved = true)
      ∧ (recovery = false → row.token = item.token) := by
  unfold resolvable? at h
  rw [Option.filter_eq_some_iff] at h
  obtain ⟨hf, hr⟩ := h
  have hp := List.find?_some hf
  simp only [Bool.and_eq_true, beq_iff_eq] at hp
  refine ⟨List.mem_of_find?_eq_some hf, hp.1, hp.2, ?_, ?_⟩
  · rintro rfl
    simpa using hr
  · rintro rfl
    simpa using hr

/-! ## Reading the queue -/

/-- **`list_work(ENTRY, statuses=(SUBMITTING, UNKNOWN))`**: the oldest
hundred entries whose outcome is open. -/
def unresolvedEntries (db : Db) : List EntryItem :=
  ((db.entries.filter (fun e => e.status.unresolved)).mergeSort
    (fun a b => a.sequence ≤ b.sequence)).take 100

/-- **`legacy_claims`**: reserved signals without an entry item. -/
def legacyClaims (db : Db) : List SignalId :=
  (db.signals.filter (fun s => s.status = .submitting
    && (db.entryOf? s.id).isNone)).map (·.id)

end Db

end AgenticTrader
