import AgenticTrader.Storage.Db
import Mathlib.Data.List.MinMax

/-!
# The outbox transactions

`WorkflowStore.claim_notification`, `finish_notification` and
`requeue_notification` (`storage/workflow.py`). A notification is queued
once per key (`Db.addNotification`); a dispatcher claims the oldest one that
is due, under a token and a lease, tries to deliver it and records what came
of it. A claim whose lease ran out is due again. After `max_attempts`
claims the item is dead, until an operator queues it again.
-/

namespace AgenticTrader

namespace Db

/-! ## Claiming -/

/-- A notification that may be claimed: queued and available, or claimed
under a lease that ran out. -/
def notificationDue (now : Time) (n : Notification) : Bool :=
  (n.status == .queued && decide (n.availableAt ≤ now))
    || (n.status == .checking && n.leaseUntil.any (fun t => decide (t ≤ now)))

/-- The oldest notification that is due. -/
def notificationHead? (db : Db) (now : Time) : Option Notification :=
  (db.outbox.filter (notificationDue now)).argmin (fun n => n.sequence)

/-- The write on one outbox row, with its event. -/
def writeNotification (db : Db) (row : Notification) (kind : EventKind) : Db :=
  let id := row.id
  { (db.append s!"notification/{id}" kind none none).1 with
    outbox := Table.updateWhere (fun n => n.id == row.id) (fun _ => row) db.outbox }

/-- The row whose attempts are used up when its lease has run out. -/
def exhaustedNotification (row : Notification) : Notification :=
  { row with
    status := .dead
    result := some "Delivery attempt budget exhausted after worker loss" }

/-- The claim a dispatcher takes out on a row. -/
def claimedNotification (db : Db) (lease now : Time) (row : Notification) :
    Notification :=
  { row with
    status := .checking
    token := some db.uuids
    leaseUntil := some (now + lease)
    attempts := row.attempts + 1 }

/-- **`WorkflowStore.claim_notification`**: a due row with attempts left is
claimed, and one without is dead. -/
def claimNotification (db : Db) (lease : Time) (maxAttempts : ℕ) (now : Time) :
    Db × Option Notification :=
  match db.notificationHead? now with
  | none => (db, none)
  | some row =>
    if maxAttempts ≤ row.attempts then
      (db.writeNotification (exhaustedNotification row) .notificationResult, none)
    else
      let item := db.claimedNotification lease now row
      (({ db with uuids := db.uuids + 1 }).writeNotification item .notificationAttempt,
        some item)

/-! ## Recording a result -/

/-- The row a claim still holds. -/
def notificationClaim? (db : Db) (item : Notification) : Option Notification :=
  db.outbox.find? (fun n => n.id == item.id && n.token == item.token
    && n.status == .checking)

/-- The row with the result of an attempt recorded on it. -/
def finishedNotification (delivered : Bool) (maxAttempts : ℕ) (availableAt : Time)
    (detail : String) (row : Notification) : Notification :=
  { row with
    status := if delivered then .delivered
      else if maxAttempts ≤ row.attempts then .dead else .queued
    result := some detail
    availableAt := availableAt
    leaseUntil := none }

/-- **`WorkflowStore.finish_notification`**: the holder of the claim records
a result, and nobody else does. `now` is the clock and `retry` the delay. -/
def finishNotification (db : Db) (item : Notification) (delivered : Bool)
    (maxAttempts : ℕ) (now retry : Time) (detail : String) : Db × Bool :=
  match db.notificationClaim? item with
  | none => (db, false)
  | some row =>
    (db.writeNotification
      (finishedNotification delivered maxAttempts (now + retry) detail row)
      .notificationResult, true)

/-! ## Queueing again -/

/-- The row of a dead item that is queued again. -/
def requeuedNotification (now : Time) (row : Notification) : Notification :=
  { row with
    status := .queued
    attempts := 0
    token := none
    availableAt := now }

/-- **`WorkflowStore.requeue_notification`**: a dead item only. -/
def requeueNotification (db : Db) (now : Time) (id : Uuid) : Db × Bool :=
  match db.outbox.find? (fun n => n.id == id && n.status == .dead) with
  | none => (db, false)
  | some row => (db.writeNotification (requeuedNotification now row) .notificationRequeued, true)

/-! ## What the transactions do -/

section

variable (db : Db)

@[simp] theorem writeNotification_outbox (row : Notification) (kind : EventKind) :
    (db.writeNotification row kind).outbox
      = Table.updateWhere (fun n => n.id == row.id) (fun _ => row) db.outbox := rfl

@[simp] theorem writeNotification_uuids (row : Notification) (kind : EventKind) :
    (db.writeNotification row kind).uuids = db.uuids := by
  simp [writeNotification]

theorem notificationHead?_eq_some {db : Db} {now : Time} {row : Notification}
    (h : db.notificationHead? now = some row) :
    row ∈ db.outbox ∧ (row.status = .queued ∨ row.status = .checking) := by
  have hm := List.argmin_mem h
  rw [List.mem_filter] at hm
  refine ⟨hm.1, ?_⟩
  have hdue := hm.2
  simp only [notificationDue, Bool.or_eq_true, Bool.and_eq_true, beq_iff_eq] at hdue
  exact hdue.imp And.left And.left

/-- **What a claim does**: nothing, or it buries a row whose attempts are
used up, or it claims a row with attempts left. -/
theorem claimNotification_cases (lease : Time) (maxAttempts : ℕ) (now : Time) :
    db.claimNotification lease maxAttempts now = (db, none)
      ∨ ∃ row ∈ db.outbox, (row.status = .queued ∨ row.status = .checking)
        ∧ ((maxAttempts ≤ row.attempts
            ∧ db.claimNotification lease maxAttempts now
              = (db.writeNotification (exhaustedNotification row) .notificationResult, none))
          ∨ (row.attempts < maxAttempts
            ∧ db.claimNotification lease maxAttempts now
              = (({ db with uuids := db.uuids + 1 }).writeNotification
                  (db.claimedNotification lease now row) .notificationAttempt,
                some (db.claimedNotification lease now row)))) := by
  unfold claimNotification
  cases hh : db.notificationHead? now with
  | none => exact Or.inl rfl
  | some row =>
    obtain ⟨hm, hs⟩ := notificationHead?_eq_some hh
    refine Or.inr ⟨row, hm, hs, ?_⟩
    by_cases ha : maxAttempts ≤ row.attempts
    · exact Or.inl ⟨ha, if_pos ha⟩
    · exact Or.inr ⟨Nat.lt_of_not_le ha, if_neg ha⟩

/-- **What recording a result does**: nothing, or it writes on the row the
claim still holds. -/
theorem finishNotification_cases (item : Notification) (delivered : Bool)
    (maxAttempts : ℕ) (now retry : Time) (detail : String) :
    db.finishNotification item delivered maxAttempts now retry detail = (db, false)
      ∨ ∃ row ∈ db.outbox, row.id = item.id ∧ row.token = item.token
        ∧ row.status = .checking
        ∧ db.finishNotification item delivered maxAttempts now retry detail
          = (db.writeNotification
              (finishedNotification delivered maxAttempts (now + retry) detail row)
              .notificationResult, true) := by
  unfold finishNotification
  cases hc : db.notificationClaim? item with
  | none => exact Or.inl rfl
  | some row =>
    have hp := List.find?_some hc
    simp only [Bool.and_eq_true, beq_iff_eq] at hp
    exact Or.inr ⟨row, List.mem_of_find?_eq_some hc, hp.1.1, hp.1.2, hp.2, rfl⟩

/-- **What queueing again does**: nothing, or it writes on a dead row. -/
theorem requeueNotification_cases (now : Time) (id : Uuid) :
    db.requeueNotification now id = (db, false)
      ∨ ∃ row ∈ db.outbox, row.id = id ∧ row.status = .dead
        ∧ db.requeueNotification now id
          = (db.writeNotification (requeuedNotification now row) .notificationRequeued,
            true) := by
  unfold requeueNotification
  cases hf : db.outbox.find? (fun n => n.id == id && n.status == .dead) with
  | none => exact Or.inl rfl
  | some row =>
    have hp := List.find?_some hf
    simp only [Bool.and_eq_true, beq_iff_eq] at hp
    exact Or.inr ⟨row, List.mem_of_find?_eq_some hf, hp.1, hp.2, rfl⟩

end

end Db

end AgenticTrader
