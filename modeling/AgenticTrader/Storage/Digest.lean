import AgenticTrader.Storage.Lifetimes
import AgenticTrader.Storage.Positions

/-!
# The daily auto-entry digest

`WorkflowStore.auto_entry_digest_rows`, `queue_auto_entry_digest`
(`storage/workflow.py`) and `format_auto_entry_digest`
(`presentation/auto_entry_digest.py`). At the close of a New York date one
message reports what became of every card the auto-entry sweep was allowed
to enter: one row per marked card, in the order of the scan and then of the
rank, and one message per date.

Of the data a row is made of, the signal and its work items are rows of the
database. The rest is the caller's: the marker and the rank a card was
recorded with, the journaled attempt of the sweep, the terminal status an
audit row holds, and how a number is printed.
-/

namespace AgenticTrader

/-! ## One row -/

/-- `DigestOutcome`. -/
inductive DigestOutcome where
  | filled
  | cancelledUnfilled
  | stillResting
  | refused
  | dismissed
  | cancelledByOperator
  | abandoned
  deriving DecidableEq, Repr

/-- **One marked card's line in the daily digest.** -/
structure AutoEntryDigestRow where
  signalId : SignalId
  symbol : String
  outcome : DigestOutcome
  detail : Option String := none
  deriving DecidableEq, Repr

/-- What the digest reads of an `auto_entry_attempted` event. -/
structure AutoEntryAttempt where
  outcome : String
  reason : Option String
  expiryKind : Option String

/-- **What the digest reads outside the tables**: the rank of a marked card –
`none` where the card is not marked, and `some none` where the rank is no
integer – the attempts, the terminal statuses of unfilled orders, and the
formats `:g` and `:.2f`. -/
structure DigestEvidence where
  marked : SignalId → Option (Option ℤ)
  attempts : SignalId → Option AutoEntryAttempt
  terminals : SignalId → Option String
  general : ℚ → String
  fixed2 : ℚ → String

/-- The detail of a fill. -/
def filledDetail (ev : DigestEvidence) (signal : Signal) : String :=
  let state := if signal.status = .executed then "open" else "closed"
  ev.general signal.quantity ++ " @ $" ++ ev.fixed2 signal.entryPrice ++ " (" ++ state ++ ")"

/-- The reason of a refused attempt; the sweep's own tap assessment may have
expired the card. -/
def refusedDetail (attempt : AutoEntryAttempt) : Option String :=
  if attempt.expiryKind = some "expired" then
    if truthy attempt.reason then some ("expired (" ++ attempt.reason.getD "" ++ ")")
    else some "expired"
  else attempt.reason

/-- How an entry that was queued came to fail. -/
def endedDetail (entry : EntryItem) (terminal : Option String) : String :=
  if entry.status = .rejected then "rejected after it was queued"
  else if truthy terminal then
    "broker ended the order " ++ terminal.getD "" ++ " without fills"
  else "broker ended the order without fills"

/-- **`_digest_row`**: a fill wins, then a cancellation, then the signal's own
state, then the attempt and the entry. -/
def digestRow (ev : DigestEvidence) (signal : Signal) (entry : Option EntryItem)
    (cancel : Option CancelItem) : AutoEntryDigestRow :=
  let row := AutoEntryDigestRow.mk signal.id signal.contract
  if signal.executedAt.isSome || signal.status.closed then
    row .filled (some (filledDetail ev signal))
  else match cancel with
    | some cancel =>
      if cancel.status = .accepted then
        row (if cancel.cause = .operator then .cancelledByOperator else .cancelledUnfilled) none
      else row .stillResting none
    | none =>
      if signal.status = .dismissed then row .dismissed none
      else if signal.status = .submitting ∨ signal.status = .executed then
        row .stillResting none
      else match (ev.attempts signal.id).filter (fun a => a.outcome == "refused"), entry with
        | some attempt, _ => row .refused (refusedDetail attempt)
        | none, some entry =>
          if signal.status = .failed then
            row .refused (some (endedDetail entry (ev.terminals signal.id)))
          else row .abandoned none
        | none, none => row .abandoned none

/-- A confirmed cancellation is not reported as pending. -/
theorem digestRow_of_accepted (ev : DigestEvidence) (signal : Signal) (entry : Option EntryItem)
    {cancel : CancelItem} (h : cancel.status = .accepted) :
    (digestRow ev signal entry (some cancel)).outcome ≠ .stillResting := by
  unfold digestRow
  dsimp only
  split
  · simp
  · show (if cancel.cause = .operator then DigestOutcome.cancelledByOperator
      else .cancelledUnfilled) ≠ .stillResting
    split <;> simp

theorem digestRow_signalId (ev : DigestEvidence) (signal : Signal) (entry : Option EntryItem)
    (cancel : Option CancelItem) :
    (digestRow ev signal entry cancel).signalId = signal.id := by
  unfold digestRow
  dsimp only
  repeat' split
  all_goals rfl

/-! ## The rows of a date -/

/-- The order of the rows: the time of the card, then its rank, a card
without one last. -/
def rankedBefore (a b : Signal × Option ℤ) : Bool :=
  a.1.timestamp < b.1.timestamp
    || (a.1.timestamp == b.1.timestamp
      && match a.2, b.2 with
        | some i, some j => i ≤ j
        | some _, none => true
        | none, some _ => false
        | none, none => true)

namespace Db

/-- The marked cards of a New York date, in the order of the digest. -/
def markedSignals (db : Db) (cfg : Config) (ev : DigestEvidence) (date : ℤ) :
    List Signal :=
  ((db.signals.filter (fun s => cfg.etDate s.timestamp == date)).filterMap
    (fun s => (ev.marked s.id).map (fun rank => (s, rank)))).mergeSort rankedBefore
    |>.map (·.1)

/-- The cancellation of a signal the digest looks at: the last one created. -/
def cancelOf? (db : Db) (id : SignalId) : Option CancelItem :=
  ((db.cancels.filter (fun c => c.signalId == id)).mergeSort
    (fun a b => a.createdAt < b.createdAt
      || (a.createdAt == b.createdAt && decide (a.id ≤ b.id)))).getLast?

/-- **`WorkflowStore.auto_entry_digest_rows`.** -/
def autoEntryDigestRows (db : Db) (cfg : Config) (ev : DigestEvidence) (date : ℤ) :
    List AutoEntryDigestRow :=
  (db.markedSignals cfg ev date).map
    (fun s => digestRow ev s (db.entryOf? s.id) (db.cancelOf? s.id))

theorem mem_of_cancelOf?_eq_some {db : Db} {id : SignalId} {c : CancelItem}
    (h : db.cancelOf? id = some c) : c ∈ db.cancels ∧ c.signalId = id := by
  unfold cancelOf? at h
  have hm := List.mem_of_getLast? h
  rw [List.mem_mergeSort, List.mem_filter] at hm
  exact ⟨hm.1, by simpa using hm.2⟩

theorem exists_cancelOf? {db : Db} {c : CancelItem} (h : c ∈ db.cancels) :
    ∃ c', db.cancelOf? c.signalId = some c' := by
  unfold cancelOf?
  have hm : c ∈ (db.cancels.filter (fun d => d.signalId == c.signalId)).mergeSort
      (fun a b => a.createdAt < b.createdAt
        || (a.createdAt == b.createdAt && decide (a.id ≤ b.id))) := by
    rw [List.mem_mergeSort, List.mem_filter]
    exact ⟨h, by simp⟩
  exact ⟨_, List.getLast?_eq_getLast_of_ne_nil (List.ne_nil_of_mem hm)⟩

/-- **A signal whose cancellations are all confirmed is not reported as
pending.** -/
theorem autoEntryDigestRows_of_accepted {db : Db} {cfg : Config} {ev : DigestEvidence}
    {date : ℤ} {id : SignalId} {c : CancelItem} (hc : c ∈ db.cancels) (hid : c.signalId = id)
    (hall : ∀ d ∈ db.cancels, d.signalId = id → d.status = .accepted)
    {row : AutoEntryDigestRow} (hr : row ∈ db.autoEntryDigestRows cfg ev date)
    (hrow : row.signalId = id) : row.outcome ≠ .stillResting := by
  unfold autoEntryDigestRows at hr
  obtain ⟨s, -, rfl⟩ := List.mem_map.mp hr
  rw [digestRow_signalId] at hrow
  obtain ⟨c', hc'⟩ := exists_cancelOf? hc
  rw [hid, ← hrow] at hc'
  obtain ⟨hm, hs⟩ := mem_of_cancelOf?_eq_some hc'
  rw [hc']
  exact digestRow_of_accepted ev s _ (hall c' hm (hs.trans hrow))

end Db

/-! ## The message -/

/-- `html.escape`. -/
def htmlEscape (text : String) : String :=
  ((((text.replace "&" "&amp;").replace "<" "&lt;").replace ">" "&gt;").replace
    "\"" "&quot;").replace "'" "&#x27;"

/-- **`_wording`**: the outcome in words, with its detail escaped. -/
def AutoEntryDigestRow.wording (row : AutoEntryDigestRow) : String :=
  let detail := if truthy row.detail then row.detail.map htmlEscape else none
  match row.outcome with
  | .filled => match detail with
    | some detail => "filled " ++ detail
    | none => "filled"
  | .cancelledUnfilled => "cancelled unfilled at the close"
  | .stillResting => "not yet resolved (entry or cancel pending)"
  | .refused => match detail with
    | some detail => "refused: " ++ detail
    | none => "refused"
  | .dismissed => "dismissed before placement"
  | .cancelledByOperator => "cancelled by you"
  | .abandoned => "not placed in time"

/-- **`format_auto_entry_digest`**: the header, one line per card, the
footer. -/
def formatAutoEntryDigest (cfg : Config) (rows : List AutoEntryDigestRow) (date : ℤ) : String :=
  let line (row : AutoEntryDigestRow) : String :=
    let id := row.signalId
    row.symbol ++ s!" #{id}: " ++ row.wording
  "\n".intercalate (("🤖 Auto-entry digest — " ++ cfg.isoformat date) :: rows.map line
    ++ ["Paper fills are optimistic: no queue position or market impact."])

namespace Db

/-- The key of a date's digest. -/
def digestKey (cfg : Config) (date : ℤ) : String :=
  "auto-entry-digest/" ++ cfg.isoformat date

/-- **`WorkflowStore.auto_entry_digest_queued`.** -/
def autoEntryDigestQueued (db : Db) (cfg : Config) (date : ℤ) : Bool :=
  db.outbox.any (fun n => n.dedupKey == digestKey cfg date)

/-- **`WorkflowStore.queue_auto_entry_digest`**: once per date. -/
def queueAutoEntryDigest (db : Db) (cfg : Config) (now : Time) (date : ℤ) (text : String) :
    Db × Bool :=
  if db.autoEntryDigestQueued cfg date then (db, false)
  else (db.addNotification now (digestKey cfg date) (.message text), true)

/-- Once the digest of a signal's date is queued, no notice of the signal is
folded. -/
theorem not_foldsIntoAutoDigest {db : Db} {cfg : Config} {now : Time} {id : SignalId}
    {s : Signal} (hs : db.signal? id = some s)
    (hq : db.autoEntryDigestQueued cfg (cfg.etDate s.timestamp) = true) :
    db.foldsIntoAutoDigest cfg now id = false := by
  have hq' : db.outbox.any (fun n => n.dedupKey
      == "auto-entry-digest/" ++ cfg.isoformat (cfg.etDate s.timestamp)) = true := hq
  unfold foldsIntoAutoDigest
  rw [hs]
  cases db.entryOf? id with
  | none => rfl
  | some entry =>
    dsimp only
    rw [hq']
    simp

end Db

end AgenticTrader
