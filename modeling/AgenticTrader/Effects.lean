import AgenticTrader.System

/-!
# What a transaction does to each table

Every invariant of the system is about one or two tables, and most
transactions leave those alone. For each table of the workflow one
inductive says everything a transaction can do to it, with what the
transaction checked first, and one theorem that every transaction is among
its cases. The invariants are then proved over these cases and never unfold
a transaction again.
-/

namespace AgenticTrader

open Table

/-! ## Transactions off the workflow tables -/

/-- The transactions that write no work item, no close request and no halt. -/
def Op.offWorkflow : Op → Bool
  | .enqueueEntry => false
  | .claimEntry => false
  | .beginSubmission => false
  | .resolveEntry => false
  | .beginCancel => false
  | .resolveCancel => false
  | .review => false
  | .setTradingHalted => false
  | .claimCloseRequest => false
  | .updateCloseRequest => false
  | _ => true

namespace Db

theorem keeps_missedBound (db : Db) (now : Time) (signalId : SignalId)
    (symbol : Option String) : db.Keeps (db.missedBound now signalId symbol) :=
  (keeps_append db _ _ _ _).trans (keeps_addNotification _ _ _ _)

theorem keeps_saveExitOrder (db : Db) (record : CloseRequest)
    (status : CloseRequestStatus) (result : OrderResult) :
    db.Keeps (db.saveExitOrder record status result) := by
  unfold saveExitOrder
  split
  · split
    · exact Keeps.refl db
    · split <;> exact keeps_signals db _ db.signalSeq
  · exact Keeps.refl db

theorem keeps_updateSignalExecution (db : Db) (now : Time) (id : SignalId)
    (u : ExecutionUpdate) : db.Keeps (db.updateSignalExecution now id u) := by
  have h := keeps_signals db (updateWhere (syncable id) (syncFill u) db.signals) db.signalSeq
  unfold updateSignalExecution
  dsimp only
  split
  · exact h
  · split
    · exact h.trans (keeps_addNotification _ _ _ _)
    · exact h

theorem keeps_updatePositionStop (db : Db) (now : Time) (id : SignalId) (newStop : ℚ)
    (notify : Bool) : db.Keeps (db.updatePositionStop now id newStop notify).1 := by
  have h := keeps_signals db (updateWhere (tightens id newStop)
    (fun s => { s with stopLoss := newStop }) db.signals) db.signalSeq
  unfold updatePositionStop
  dsimp only
  split
  · exact h.trans (keeps_addNotification _ _ _ _)
  · exact h

theorem keeps_closePosition (db : Db) (now : Time) (id : SignalId)
    (status : SignalStatus) (brokerExitOrderId : Option String) :
    db.Keeps (db.closePosition now id status brokerExitOrderId).1 := by
  unfold closePosition
  dsimp only
  split
  · exact ((keeps_signals db _ db.signalSeq).trans (keeps_append _ _ _ _ _)).trans
      (keeps_addNotification _ _ _ _)
  · exact Keeps.refl db

end Db

section

variable {env : Env} {op : Op} {db db' : Db}

theorem Transaction.keeps (h : Transaction env op db db') (ho : op.offWorkflow = true) :
    db.Keeps db' := by
  cases h with
  | recordSignal now card notify => exact Db.keeps_insertSignal db now card none notify
  | dismissSignal id => exact Db.keeps_leavePending db id .dismissed
  | expireSignal id => exact Db.keeps_leavePending db id .expired
  | replaceSignal now oldId card => exact Db.keeps_replaceSignal db now oldId card
  | expireStaleSignals now clock configured =>
    exact Db.keeps_expireStaleSignals db env.cfg now clock configured
  | observeOrders now observations h => exact Db.keeps_observeOrders h
  | rebuildOrderViews h =>
    obtain ⟨orders, -, rfl⟩ := Db.rebuildOrderViews_eq_some h
    exact Db.keeps_orders db orders
  | missedBound now signalId symbol => exact Db.keeps_missedBound db now signalId symbol
  | setTradingHaltReason value => exact ⟨rfl, rfl, rfl, rfl, rfl, le_rfl, le_rfl⟩
  | saveExitOrder record status result =>
    exact Db.keeps_saveExitOrder db record status result
  | updateSignalExecution now id u => exact Db.keeps_updateSignalExecution db now id u
  | updatePositionStop now id newStop notify =>
    exact Db.keeps_updatePositionStop db now id newStop notify
  | closePosition now id status exit h =>
    exact Db.keeps_closePosition db now id status exit
  | _ => exact absurd ho (by decide)

end

/-! ## Transactions on the workflow tables

Each writes its tables, possibly halts, and then only logs. -/

namespace Db

variable {db : Db}

theorem enqueueEntry_cases (db : Db) (cfg : Config) (ev : EntryEvidence) (now : Time)
    (request : OrderRequest) (trigger : EntryTrigger) :
    (db.enqueueEntry cfg ev now request trigger).1 = db
      ∨ db.enqueueRefusal cfg ev request = none
        ∧ (db.enqueueEntry cfg ev now request trigger).1
          = (db.queueEntry cfg now request trigger).1 := by
  unfold enqueueEntry
  cases h : db.enqueueRefusal cfg ev request with
  | some refusal => exact Or.inl rfl
  | none => exact Or.inr ⟨rfl, rfl⟩

/-- The tables a queued entry is written to. -/
def queuedTables (db : Db) (cfg : Config) (now : Time) (request : OrderRequest)
    (trigger : EntryTrigger) : Db :=
  { db with
    uuids := db.uuids + 1
    eventSeq := db.eventSeq + 1
    entries := db.entries ++ [db.queuedItem now request trigger]
    signals := updateWhere (fun s => s.id == request.signalId) (reserve cfg request)
      db.signals }

theorem queueEntry_logs (db : Db) (cfg : Config) (now : Time) (request : OrderRequest)
    (trigger : EntryTrigger) :
    (db.queuedTables cfg now request trigger).Logs
      (db.queueEntry cfg now request trigger).1 :=
  ⟨⟨rfl, rfl, rfl, rfl, rfl, le_rfl, le_rfl⟩, 
    .of_one rfl rfl (by simp) rfl le_rfl le_rfl, rfl, rfl⟩

/-- The tables a claim is written to. -/
def claimedTables (db : Db) (lease now : Time) (row : EntryItem) : Db :=
  { db with
    uuids := db.uuids + 1
    entries := updateWhere (fun e => e.id == row.id)
      (fun _ => db.claimedItem lease now row) db.entries }

theorem claimEntry_cases (db : Db) (lease now : Time) :
    db.claimEntry lease now = (db, none)
      ∨ ∃ row, db.entryHead? = some row ∧ row.status.unresolved = false
        ∧ (db.claimEntry lease now).2 = some (db.claimedItem lease now row)
        ∧ (db.claimedTables lease now row).Logs (db.claimEntry lease now).1 := by
  unfold claimEntry
  cases hh : db.entryHead? with
  | none => exact Or.inl rfl
  | some row =>
    dsimp only
    split
    · exact Or.inl rfl
    · rename_i hu
      split
      · exact Or.inl rfl
      · exact Or.inr ⟨row, rfl, by simpa using hu, rfl,
          ⟨⟨rfl, rfl, rfl, rfl, rfl, le_rfl, Nat.le_succ _⟩,
            .of_one rfl rfl (by simp) rfl (Nat.le_succ _) le_rfl, rfl, rfl⟩⟩

theorem beginSubmission_cases (db : Db) (cfg : Config) (ev : EntryEvidence)
    (riskFingerprint : Option String) (context : Option CapacityCheck)
    (t₀ t₁ t₂ : Time) (item : EntryItem) :
    (∃ reason, db.beginSubmission cfg ev riskFingerprint context t₀ t₁ t₂ item
        = (db, some reason))
      ∨ db.submissionRefusal cfg ev riskFingerprint context t₀ t₁ t₂ item = none
        ∧ db.beginSubmission cfg ev riskFingerprint context t₀ t₁ t₂ item
          = (db.markSubmitting item, none) := by
  unfold beginSubmission
  cases h : db.submissionRefusal cfg ev riskFingerprint context t₀ t₁ t₂ item with
  | some reason => exact Or.inl ⟨reason, rfl⟩
  | none => exact Or.inr ⟨rfl, rfl⟩

theorem resolveEntry_cases (db : Db) (cfg : Config) (now : Time) (item : EntryItem)
    (result : OrderResult) (recovery : Bool) :
    (db.resolveEntry cfg now item result recovery).1 = db
      ∨ ∃ row, db.resolvable? item recovery = some row
        ∧ (db.resolveEntry cfg now item result recovery).1
          = db.settleEntry cfg now row item result := by
  unfold resolveEntry
  cases h : db.resolvable? item recovery with
  | none => exact Or.inl rfl
  | some row => exact Or.inr ⟨row, rfl, rfl⟩

/-- The table a submission authority is written to. -/
def submittingTables (db : Db) (item : EntryItem) : Db :=
  { db with
    entries := updateWhere (fun e => e.id == item.id)
      (fun e => { e with status := .submitting, leaseUntil := none }) db.entries }

theorem markSubmitting_logs (db : Db) (item : EntryItem) :
    (db.submittingTables item).Logs (db.markSubmitting item) :=
  ⟨⟨rfl, rfl, rfl, rfl, rfl, le_rfl, Nat.le_succ _⟩,
    .of_one rfl rfl (by simp) rfl (Nat.le_succ _) le_rfl, rfl, rfl⟩

/-- After the tables and the halt, a settlement only says what it did. -/
theorem settleEntry_logs (db : Db) (cfg : Config) (now : Time) (row item : EntryItem)
    (result : OrderResult) :
    ∃ reason, ((db.settledTables row item result).haltIfUnknown
      result.entryStatus reason).Logs (db.settleEntry cfg now row item result) := by
  unfold settleEntry
  dsimp only
  split
  · exact ⟨_, logs_append _ _ (by decide)⟩
  · exact ⟨_, (logs_append _ _ (by decide)).trans (logs_addNotification _ _ _ _)⟩

/-- The table a claimed cancellation is written to. -/
def cancelTables (db : Db) (item : CancelItem) : Db :=
  { db with uuids := db.uuids + 1, cancels := db.cancels ++ [item] }

theorem claimCancel_logs (db : Db) (cfg : Config) (now : Time) (signalId : SignalId)
    (identity : EntryIdentity) (orders : List OrderObservation) (cause : CancelCause) :
    (db.cancelTables (db.cancelItem now signalId identity orders cause)).Logs
      (db.claimCancel cfg now signalId identity orders cause).1 := by
  have h : (db.cancelTables (db.cancelItem now signalId identity orders cause)).Logs
      { (({ db with uuids := db.uuids + 1 }).append
          s!"entry-cancel/cancel-{(db.cancelItem now signalId identity orders cause).id}"
          .entryCancelRequested none none).1 with
        cancels := db.cancels ++ [db.cancelItem now signalId identity orders cause] } :=
    ⟨⟨rfl, rfl, rfl, rfl, rfl, le_rfl, Nat.le_succ _⟩,
    .of_one rfl rfl (by simp) rfl (Nat.le_succ _) le_rfl, rfl, rfl⟩
  unfold claimCancel
  dsimp only
  split
  · exact h.trans (logs_addNotification _ _ _ _)
  · exact h

theorem settleCancel_logs (db : Db) (cfg : Config) (now : Time) (row item : CancelItem)
    (complete filledFirst : Bool) (result : CancelResult) :
    ∃ journaled : Db, ∃ reason,
      (db.cancelledTables row item complete filledFirst result).Logs journaled
        ∧ (journaled.haltIfUnknown (cancelStatus complete filledFirst) reason).Logs
          (db.settleCancel cfg now row item complete filledFirst result) := by
  unfold settleCancel
  dsimp only
  split
  · exact ⟨_, _, logs_append _ _ (by decide), Logs.refl _⟩
  · exact ⟨_, _, logs_append _ _ (by decide), logs_addNotification _ _ _ _⟩

/-- **What a resolution of a cancellation does**: nothing, or it settles the
row the item stands for, unless that was settled before. -/
theorem resolveCancel_cases {db' : Db} {cfg : Config} {now : Time} {item : CancelItem}
    {orders : List OrderObservation} {reason transportError : Option String}
    {allowPending resolved : Bool}
    (h : db.resolveCancel cfg now item orders reason transportError allowPending
      = some (db', resolved)) :
    ∃ complete, completeCancellation item.identity item.orderIds
        (db.effectiveOrders item orders) = some complete
      ∧ (db' = db
        ∨ ∃ row filledFirst result, row ∈ db.cancels ∧ row.id = item.id
          ∧ row.status ≠ .rejected ∧ (row.status = .accepted → complete = true)
          ∧ db' = db.settleCancel cfg now row item complete filledFirst result) := by
  unfold resolveCancel at h
  simp only [Option.bind_eq_bind, Option.bind_eq_some_iff] at h
  obtain ⟨complete, hc, filledFirst, -, h⟩ := h
  refine ⟨complete, hc, ?_⟩
  split at h
  · obtain ⟨rfl, -⟩ : db = db' ∧ false = resolved := by simpa using h
    exact Or.inl rfl
  · split at h
    · obtain ⟨rfl, -⟩ : db = db' ∧ true = resolved := by simpa using h
      exact Or.inl rfl
    · rename_i row hrow
      obtain ⟨rfl, -⟩ : _ = db' ∧ true = resolved := by simpa using h
      rw [cancelToSettle?, Option.filter_eq_some_iff] at hrow
      obtain ⟨hf, hp⟩ := hrow
      simp only [Bool.and_eq_true, Bool.not_eq_true', Bool.and_eq_false_iff,
        Bool.or_eq_false_iff, decide_eq_false_iff_not, decide_eq_true_eq] at hp
      refine Or.inr ⟨row, filledFirst, _, List.mem_of_find?_eq_some hf, ?_, hp.1.2, ?_, rfl⟩
      · simpa using List.find?_some hf
      · intro ha
        rcases hp.1.1 with hn | hn
        · exact absurd ha hn
        · simpa using hn.1

/-- **What a claim of a cancellation has checked**: the signal has none. -/
theorem beginCancel_cases {db' : Db} {cfg : Config} {due : DeadlineCheck} {now : Time}
    {signalId : SignalId} {identity : EntryIdentity} {orders : List OrderObservation}
    {lifetime : Option LifetimePolicy} {cause : CancelCause}
    {answer : Except String CancelItem}
    (h : db.beginCancel cfg due now signalId identity orders lifetime cause
      = some (db', answer)) :
    (db' = db ∧ ∃ refusal, answer = .error refusal)
      ∨ db.cancelRefusal due signalId identity orders lifetime cause = some none
        ∧ db' = (db.claimCancel cfg now signalId identity orders cause).1
        ∧ answer = .ok (db.cancelItem now signalId identity orders cause) := by
  unfold beginCancel at h
  simp only [Option.bind_eq_bind, Option.bind_eq_some_iff] at h
  obtain ⟨refusal, hr, h⟩ := h
  cases refusal with
  | some refusal =>
    obtain ⟨rfl, rfl⟩ : db = db' ∧ Except.error refusal = answer := by simpa using h
    exact Or.inl ⟨rfl, refusal, rfl⟩
  | none =>
    obtain ⟨rfl, rfl⟩ : (db.claimCancel cfg now signalId identity orders cause).1 = db'
        ∧ Except.ok (db.claimCancel cfg now signalId identity orders cause).2 = answer := by
      simpa using h
    exact Or.inr ⟨hr, rfl, rfl⟩

theorem cancelRefusal_eq_none {due : DeadlineCheck} {signalId : SignalId}
    {identity : EntryIdentity} {orders : List OrderObservation}
    {lifetime : Option LifetimePolicy} {cause : CancelCause}
    (h : db.cancelRefusal due signalId identity orders lifetime cause = some none) :
    (∀ c ∈ db.cancels, c.signalId ≠ signalId) ∧ ∃ s ∈ db.signals, s.id = signalId := by
  unfold cancelRefusal at h
  split at h
  · cases h
  · rename_i hnone
    split at h
    · cases h
    · rename_i s hs
      refine ⟨fun c hc hid => hnone (List.any_eq_true.mpr ⟨c, hc, by simp [hid]⟩), s,
        List.mem_of_find?_eq_some hs, by simpa using List.find?_some hs⟩

/-- **What a claim of a close has checked**: the id is new, no cancellation
and no entry is open on the symbol, and no other close holds it. -/
theorem claimCloseRequest_cases {db' : Db} {now : Time} {values : CloseValues}
    {claimed : Bool} {record : CloseRequest}
    (h : db.claimCloseRequest now values = some (db', claimed, record)) :
    (db' = db ∧ claimed = false)
      ∨ claimed = true ∧ record = values.record .claimed ""
        ∧ db.close? values.id = none
        ∧ db.unresolvedCancellationOf values.symbol = false
        ∧ db.submittingOn values.symbol = false
        ∧ (∀ c ∈ db.closeRequests, c.symbol = values.symbol → c.status.active = false)
        ∧ ({ db with closeRequests := db.closeRequests ++ [record] }).Logs db' := by
  unfold claimCloseRequest at h
  dsimp only at h
  split at h
  · split at h
    · obtain ⟨rfl, rfl, -⟩ : db = db' ∧ false = claimed ∧ _ := by simpa using h
      exact Or.inl ⟨rfl, rfl⟩
    · cases h
  · rename_i hnew
    split at h
    · obtain ⟨rfl, rfl, -⟩ : db = db' ∧ false = claimed ∧ _ := by simpa using h
      exact Or.inl ⟨rfl, rfl⟩
    · rename_i hcancel
      split at h
      · obtain ⟨rfl, rfl, -⟩ : db = db' ∧ false = claimed ∧ _ := by simpa using h
        exact Or.inl ⟨rfl, rfl⟩
      · rename_i hentry
        split at h
        · obtain ⟨rfl, rfl, -⟩ : db = db' ∧ false = claimed ∧ _ := by simpa using h
          exact Or.inl ⟨rfl, rfl⟩
        · rename_i hfree
          obtain ⟨rfl, rfl, rfl⟩ : _ = db' ∧ true = claimed
              ∧ values.record .claimed "" = record := by simpa using h
          refine Or.inr ⟨rfl, rfl, hnew, by simpa using hcancel, by simpa using hentry,
            fun c hc hs => ?_, (logs_append _ _ (by decide)).trans (logs_addNotification _ _ _ _)⟩
          have := List.find?_eq_none.mp hfree c hc
          simpa [hs] using this

/-- **What an update of a close does**: nothing, or it rewrites the active
request of the id. -/
theorem updateCloseRequest_cases (db : Db) (now : Time) (id : String)
    (status : CloseRequestStatus) (detail : String) (brokerOrderId : Option String) :
    db.updateCloseRequest now id status detail brokerOrderId = db
      ∨ ({ db with
            closeRequests := updateWhere (fun c => c.id == id && c.status.active)
              (fun c => { c with
                status := status
                detail := detail
                brokerOrderId :=
                  if truthy brokerOrderId then brokerOrderId else c.brokerOrderId })
              db.closeRequests }).Logs
        (db.updateCloseRequest now id status detail brokerOrderId) := by
  unfold updateCloseRequest
  split
  · exact Or.inl rfl
  · split
    · exact Or.inl rfl
    · split
      · exact Or.inr ((logs_append _ _ (by decide)).trans (logs_addNotification _ _ _ _))
      · exact Or.inl rfl

/-- A review halts, then says so. -/
theorem review_logs (db : Db) (now : Time) (signalId : SignalId) (reason : String) :
    ∃ text, (db.halt text).Logs (db.review now signalId reason) := by
  refine ⟨_, Logs.trans (logs_append_key _ _ _ ?_ ?_) (logs_addNotification _ _ _ _)⟩
  · decide
  · refine ne_order_key (c := 'l') ?_ (by decide)
    simp only [String.toList_append, List.append_assoc]
    rfl

end Db

section

variable {env : Env} {op : Op} {db db' : Db}

/-- **What a transaction came to**: nothing on the workflow tables, or one of
these writes, with what was checked before it. -/
inductive Outcome (env : Env) (db db' : Db) : Op → Prop where
  | keeps {op : Op} (keeps : db.Keeps db') : Outcome env db db' op
  | queued (now : Time) (request : OrderRequest) (trigger : EntryTrigger)
      (free : db.entryOf? request.signalId = none)
      (closing : db.closing request.symbol = false)
      (pending : ∃ s, db.signal? request.signalId = some s ∧ s.status = .pending)
      (logs : (db.queuedTables env.cfg now request trigger).Logs db') :
      Outcome env db db' .enqueueEntry
  | claimed (lease now : Time) (row : EntryItem) (head : db.entryHead? = some row)
      (status : row.status.unresolved = false)
      (logs : (db.claimedTables lease now row).Logs db') :
      Outcome env db db' .claimEntry
  | submitting (item row : EntryItem) (mem : row ∈ db.entries) (id : row.id = item.id)
      (status : row.status = .checking) (token : row.token = item.token)
      (logs : (db.submittingTables item).Logs db') :
      Outcome env db db' .beginSubmission
  | settled (item row : EntryItem) (result : OrderResult) (reason : String)
      (mem : row ∈ db.entries) (id : row.id = item.id)
      (blocking : row.status.blocking = true)
      (fence : row.status.unresolved = true ∨ row.token = item.token)
      (logs : ((db.settledTables row item result).haltIfUnknown
        result.entryStatus reason).Logs db') :
      Outcome env db db' .resolveEntry
  | cancelClaimed (item : CancelItem) (fresh : ∀ c ∈ db.cancels, c.signalId ≠ item.signalId)
      (signal : ∃ s ∈ db.signals, s.id = item.signalId) (id : item.id = db.uuids)
      (status : item.status = .submitting) (logs : (db.cancelTables item).Logs db') :
      Outcome env db db' .beginCancel
  | cancelSettled (item row : CancelItem) (complete filledFirst : Bool)
      (result : CancelResult) (journaled : Db) (reason : String)
      (mem : row ∈ db.cancels) (id : row.id = item.id)
      (unrejected : row.status ≠ .rejected) (late : row.status = .accepted → complete = true)
      (tables : (db.cancelledTables row item complete filledFirst result).Logs journaled)
      (logs : (journaled.haltIfUnknown (Db.cancelStatus complete filledFirst) reason).Logs
        db') :
      Outcome env db db' .resolveCancel
  | reviewed (text : String) (logs : (db.halt text).Logs db') :
      Outcome env db db' .review
  | written (value : String) (write : db' = db.setTradingHalted value) :
      Outcome env db db' .setTradingHalted
  | closeClaimed (record : CloseRequest) (fresh : db.close? record.id = none)
      (status : record.status = .claimed)
      (free : ∀ c ∈ db.closeRequests, c.symbol = record.symbol → c.status.active = false)
      (entry : db.submittingOn record.symbol = false)
      (logs : ({ db with closeRequests := db.closeRequests ++ [record] }).Logs db') :
      Outcome env db db' .claimCloseRequest
  | closeUpdated (id : String) (status : CloseRequestStatus) (detail : String)
      (brokerOrderId : Option String)
      (logs : ({ db with
          closeRequests := updateWhere (fun c => c.id == id && c.status.active)
            (fun c => { c with
              status := status
              detail := detail
              brokerOrderId :=
                if truthy brokerOrderId then brokerOrderId else c.brokerOrderId })
            db.closeRequests }).Logs db') :
      Outcome env db db' .updateCloseRequest

theorem Transaction.outcome (h : Transaction env op db db') : Outcome env db db' op := by
  cases ho : op.offWorkflow with
  | true => exact .keeps (h.keeps ho)
  | false =>
    cases h with
    | enqueueEntry ev now request trigger =>
      rcases Db.enqueueEntry_cases db env.cfg ev now request trigger with he | ⟨hr, he⟩
      · exact .keeps (by rw [he]; exact Db.Keeps.refl db)
      · obtain ⟨hfree, -, -, hclosing, hpending⟩ := Db.enqueueRefusal_eq_none hr
        refine .queued now request trigger hfree hclosing hpending ?_
        rw [he]
        exact Db.queueEntry_logs db env.cfg now request trigger
    | claimEntry now =>
      rcases Db.claimEntry_cases db env.cfg.entryPreflightLease now with
        he | ⟨row, hh, hs, -, hl⟩
      · exact .keeps (by rw [he]; exact Db.Keeps.refl db)
      · exact .claimed _ now row hh hs hl
    | beginSubmission ev r c t₀ t₁ t₂ item =>
      rcases Db.beginSubmission_cases db env.cfg ev r c t₀ t₁ t₂ item with
        ⟨reason, he⟩ | ⟨hr, he⟩
      · exact .keeps (by rw [he]; exact Db.Keeps.refl db)
      · obtain ⟨-, -, row, hm, hid, hs, ht⟩ := Db.submissionRefusal_eq_none hr
        refine .submitting item row hm hid hs ht ?_
        rw [he]
        exact Db.markSubmitting_logs db item
    | resolveEntry now item result recovery =>
      rcases Db.resolveEntry_cases db env.cfg now item result recovery with
        he | ⟨row, hr, he⟩
      · exact .keeps (by rw [he]; exact Db.Keeps.refl db)
      · obtain ⟨hm, hid, hb, hrec, htok⟩ := Db.resolvable?_eq_some hr
        obtain ⟨reason, hl⟩ := Db.settleEntry_logs db env.cfg now row item result
        refine .settled item row result reason hm hid hb ?_ (by rw [he]; exact hl)
        cases recovery with
        | true => exact Or.inl (hrec rfl)
        | false => exact Or.inr (htok rfl)
    | beginCancel due now id identity orders lifetime cause answer h =>
      rcases Db.beginCancel_cases h with ⟨rfl, -⟩ | ⟨hr, rfl, -⟩
      · exact .keeps (Db.Keeps.refl db')
      · obtain ⟨hfresh, hsignal⟩ := Db.cancelRefusal_eq_none hr
        exact .cancelClaimed _ hfresh hsignal rfl rfl
          (Db.claimCancel_logs db env.cfg now id identity orders cause)
    | resolveCancel now item orders reason transportError allowPending resolved h =>
      obtain ⟨complete, -, rfl | ⟨row, filledFirst, result, hm, hid, hn, ha, rfl⟩⟩ :=
        Db.resolveCancel_cases h
      · exact .keeps (Db.Keeps.refl db')
      · obtain ⟨journaled, reason, hj, hl⟩ :=
          Db.settleCancel_logs db env.cfg now row item complete filledFirst result
        exact .cancelSettled item row complete filledFirst result journaled reason
          hm hid hn ha hj hl
    | review now signalId reason =>
      obtain ⟨text, hl⟩ := Db.review_logs db now signalId reason
      exact .reviewed text hl
    | setTradingHalted value => exact .written value rfl
    | claimCloseRequest now values claimed record h =>
      rcases Db.claimCloseRequest_cases h with
        ⟨rfl, -⟩ | ⟨-, rfl, hnew, -, hentry, hfree, hl⟩
      · exact .keeps (Db.Keeps.refl db')
      · exact .closeClaimed _ hnew rfl hfree hentry hl
    | updateCloseRequest now id status detail brokerOrderId =>
      rcases Db.updateCloseRequest_cases db now id status detail brokerOrderId with he | hl
      · exact .keeps (by rw [he]; exact Db.Keeps.refl db)
      · exact .closeUpdated id status detail brokerOrderId hl
    | _ => exact absurd ho (by decide)

/-- An action comes to what its transaction comes to. -/
theorem Act.outcome {t : List Mark} {p p' : Proc} {calls : List Mark}
    (h : Act env t db p op calls db' p') : Outcome env db db' op := by
  rcases h.transaction with rfl | ht
  · exact .keeps (Db.Keeps.refl db')
  · exact ht.outcome

/-! ## Entries -/

/-- **What can happen to the entries.** -/
inductive EntryEffect (db db' : Db) : Prop where
  | same (entries : db'.entries = db.entries)
  /-- A pending card without an entry is queued, under the next sequence. -/
  | queued (now : Time) (request : OrderRequest) (trigger : EntryTrigger)
      (free : db.entryOf? request.signalId = none)
      (entries : db'.entries = db.entries ++ [db.queuedItem now request trigger])
      (uuids : db.uuids < db'.uuids) (eventSeq : db.eventSeq < db'.eventSeq)
  /-- The head of the queue is claimed, under a new token. -/
  | claimed (lease now : Time) (row : EntryItem) (head : db.entryHead? = some row)
      (status : row.status.unresolved = false)
      (entries : db'.entries = updateWhere (fun e => e.id == row.id)
        (fun _ => db.claimedItem lease now row) db.entries)
      (uuids : db.uuids < db'.uuids)
  /-- A claim crosses into `SUBMITTING`. -/
  | submitting (item row : EntryItem) (mem : row ∈ db.entries) (id : row.id = item.id)
      (status : row.status = .checking) (token : row.token = item.token)
      (entries : db'.entries = updateWhere (fun e => e.id == item.id)
        (fun e => { e with status := .submitting, leaseUntil := none }) db.entries)
  /-- An open entry is settled; an unknown outcome halts with it. -/
  | settled (item row : EntryItem) (result : OrderResult) (mem : row ∈ db.entries)
      (id : row.id = item.id) (blocking : row.status.blocking = true)
      (fence : row.status.unresolved = true ∨ row.token = item.token)
      (entries : db'.entries = updateWhere (fun e => e.id == row.id)
        (fun e => { e with status := result.entryStatus, result := some result })
        db.entries)
      (halts : result.entryStatus = .unknown → db'.halted = true ∧ db.halts < db'.halts)

theorem Outcome.entryEffect (h : Outcome env db db' op) : EntryEffect db db' := by
  cases h with
  | keeps hk => exact .same hk.entries
  | queued now request trigger free closing pending hl =>
    exact .queued now request trigger free hl.entries hl.uuids hl.eventSeq
  | claimed lease now row head status hl =>
    exact .claimed lease now row head status hl.entries hl.uuids
  | submitting item row mem id status token hl =>
    exact .submitting item row mem id status token hl.entries
  | settled item row result reason mem id blocking fence hl =>
    refine .settled item row result mem id blocking fence
      (by rw [hl.entries, Db.haltIfUnknown_entries]; rfl) (fun hu => ?_)
    obtain ⟨hr, hh⟩ := Db.haltIfUnknown_of_unknown hu hl
    exact ⟨hr, by rw [hh]; exact Nat.lt_succ_self _⟩
  | cancelClaimed item fresh signal id status hl => exact .same hl.entries
  | cancelSettled item row c f result journaled reason mem id unrejected late ht hl =>
    exact .same (by rw [hl.entries, Db.haltIfUnknown_entries, ht.entries]; rfl)
  | reviewed text hl => exact .same hl.entries
  | written value hw => exact .same (by rw [hw]; rfl)
  | closeClaimed record fresh status free entry hl => exact .same hl.entries
  | closeUpdated id status detail brokerOrderId hl => exact .same hl.entries

/-! ## Cancellations -/

/-- **What can happen to the cancellations.** -/
inductive CancelEffect (db db' : Db) : Prop where
  | same (cancels : db'.cancels = db.cancels)
  /-- A signal without a cancellation gets one. -/
  | claimed (item : CancelItem) (fresh : ∀ c ∈ db.cancels, c.signalId ≠ item.signalId)
      (signal : ∃ s ∈ db.signals, s.id = item.signalId) (id : item.id = db.uuids)
      (status : item.status = .submitting) (cancels : db'.cancels = db.cancels ++ [item])
      (uuids : db.uuids < db'.uuids)
  /-- An open cancellation is settled, or a late request error is recorded on
  an accepted one; an unconfirmed outcome halts with it. -/
  | settled (row : CancelItem) (complete filledFirst : Bool) (result : CancelResult)
      (mem : row ∈ db.cancels) (unrejected : row.status ≠ .rejected)
      (late : row.status = .accepted → complete = true)
      (cancels : db'.cancels = updateWhere (fun c => c.id == row.id)
        (fun c => { c with
          status := Db.cancelStatus complete filledFirst
          result := some result }) db.cancels)
      (halts : Db.cancelStatus complete filledFirst = .unknown →
        db'.halted = true ∧ db.halts < db'.halts)

theorem Outcome.cancelEffect (h : Outcome env db db' op) : CancelEffect db db' := by
  cases h with
  | keeps hk => exact .same hk.cancels
  | queued now request trigger free closing pending hl => exact .same hl.cancels
  | claimed lease now row head status hl => exact .same hl.cancels
  | submitting item row mem id status token hl => exact .same hl.cancels
  | settled item row result reason mem id blocking fence hl =>
    exact .same (by rw [hl.cancels, Db.haltIfUnknown_cancels]; rfl)
  | cancelClaimed item fresh signal id status hl =>
    exact .claimed item fresh signal id status hl.cancels hl.uuids
  | cancelSettled item row c f result journaled reason mem id unrejected late ht hl =>
    refine .settled row c f result mem unrejected late
      (by rw [hl.cancels, Db.haltIfUnknown_cancels, ht.cancels]; rfl) (fun hu => ?_)
    obtain ⟨hr, hh⟩ := Db.haltIfUnknown_of_unknown hu hl
    exact ⟨hr, by rw [hh, ht.halts]; exact Nat.lt_succ_self _⟩
  | reviewed text hl => exact .same hl.cancels
  | written value hw => exact .same (by rw [hw]; rfl)
  | closeClaimed record fresh status free entry hl => exact .same hl.cancels
  | closeUpdated id status detail brokerOrderId hl => exact .same hl.cancels

/-! ## Close requests -/

/-- **What can happen to the close requests.** -/
inductive CloseEffect (db db' : Db) : Prop where
  | same (closeRequests : db'.closeRequests = db.closeRequests)
  /-- A new request on a symbol that nothing holds. -/
  | claimed (record : CloseRequest) (fresh : db.close? record.id = none)
      (status : record.status = .claimed)
      (free : ∀ c ∈ db.closeRequests, c.symbol = record.symbol → c.status.active = false)
      (entry : db.submittingOn record.symbol = false)
      (closeRequests : db'.closeRequests = db.closeRequests ++ [record])
      (signals : db'.signals = db.signals)
  /-- An active request gets a status and what the broker said. -/
  | updated (id : String) (status : CloseRequestStatus) (detail : String)
      (brokerOrderId : Option String)
      (closeRequests : db'.closeRequests
        = updateWhere (fun c => c.id == id && c.status.active)
          (fun c => { c with
            status := status
            detail := detail
            brokerOrderId :=
              if truthy brokerOrderId then brokerOrderId else c.brokerOrderId })
          db.closeRequests)
      (signals : db'.signals = db.signals)

theorem Outcome.closeEffect (h : Outcome env db db' op) : CloseEffect db db' := by
  cases h with
  | keeps hk => exact .same hk.closeRequests
  | queued now request trigger free closing pending hl => exact .same hl.closeRequests
  | claimed lease now row head status hl => exact .same hl.closeRequests
  | submitting item row mem id status token hl => exact .same hl.closeRequests
  | settled item row result reason mem id blocking fence hl =>
    exact .same (by rw [hl.closeRequests, Db.haltIfUnknown_closeRequests]; rfl)
  | cancelClaimed item fresh signal id status hl => exact .same hl.closeRequests
  | cancelSettled item row c f result journaled reason mem id unrejected late ht hl =>
    exact .same (by
      rw [hl.closeRequests, Db.haltIfUnknown_closeRequests, ht.closeRequests]; rfl)
  | reviewed text hl => exact .same hl.closeRequests
  | written value hw => exact .same (by rw [hw]; rfl)
  | closeClaimed record fresh status free entry hl =>
    exact .claimed record fresh status free entry hl.closeRequests hl.signals
  | closeUpdated id status detail brokerOrderId hl =>
    exact .updated id status detail brokerOrderId hl.closeRequests hl.signals

/-! ## Halt flag and counters -/

/-- **What can happen to the halt flag.** -/
inductive HaltEffect (db db' : Db) : Op → Prop where
  | same {op : Op} (tradingHalted : db'.tradingHalted = db.tradingHalted)
      (halts : db'.halts = db.halts) : HaltEffect db db' op
  | raised {op : Op} (halted : db'.halted = true) (halts : db'.halts = db.halts + 1) :
      HaltEffect db db' op
  | written (value : String) (write : db' = db.setTradingHalted value) :
      HaltEffect db db' .setTradingHalted

/-- The halt of an unknown outcome, seen past the tables and the log. -/
theorem HaltEffect.of_logs {a b : Db} {status : WorkStatus} {reason : String}
    (hflag : a.tradingHalted = db.tradingHalted) (hhalts : a.halts = db.halts)
    (hl : (a.haltIfUnknown status reason).Logs b) : HaltEffect db b op := by
  have hraise := a.haltIfUnknown_raises status reason
  split at hraise
  · refine .raised (by rw [hl.halted]; exact hraise.1) ?_
    rw [hl.halts, hraise.2, hhalts]
  · rw [hraise] at hl
    exact .same (hl.tradingHalted.trans hflag) (hl.halts.trans hhalts)

theorem Outcome.haltEffect (h : Outcome env db db' op) : HaltEffect db db' op := by
  cases h with
  | keeps hk => exact .same hk.tradingHalted hk.halts
  | queued now request trigger free closing pending hl =>
    exact .same hl.tradingHalted hl.halts
  | claimed lease now row head status hl => exact .same hl.tradingHalted hl.halts
  | submitting item row mem id status token hl => exact .same hl.tradingHalted hl.halts
  | settled item row result reason mem id blocking fence hl =>
    exact HaltEffect.of_logs (a := db.settledTables row item result) rfl rfl hl
  | cancelClaimed item fresh signal id status hl => exact .same hl.tradingHalted hl.halts
  | cancelSettled item row c f result journaled reason mem id unrejected late ht hl =>
    exact HaltEffect.of_logs ht.tradingHalted ht.halts hl
  | reviewed text hl => exact .raised (by rw [hl.halted, Db.halt_halted]) hl.halts
  | written value hw => exact .written value hw
  | closeClaimed record fresh status free entry hl => exact .same hl.tradingHalted hl.halts
  | closeUpdated id status detail brokerOrderId hl => exact .same hl.tradingHalted hl.halts

/-- The counters only grow. -/
theorem Outcome.counters (h : Outcome env db db' op) :
    db.uuids ≤ db'.uuids ∧ db.eventSeq ≤ db'.eventSeq := by
  cases h with
  | keeps hk => exact ⟨hk.uuids, hk.eventSeq⟩
  | queued now request trigger free closing pending hl =>
    exact ⟨(Nat.le_succ _).trans hl.uuids, (Nat.le_succ _).trans hl.eventSeq⟩
  | claimed lease now row head status hl =>
    exact ⟨(Nat.le_succ _).trans hl.uuids, hl.eventSeq⟩
  | submitting item row mem id status token hl => exact ⟨hl.uuids, hl.eventSeq⟩
  | settled item row result reason mem id blocking fence hl =>
    exact hl.counters
  | cancelClaimed item fresh signal id status hl =>
    exact ⟨(Nat.le_succ _).trans hl.uuids, hl.eventSeq⟩
  | cancelSettled item row c f result journaled reason mem id unrejected late ht hl =>
    exact ⟨ht.uuids.trans hl.counters.1, ht.eventSeq.trans hl.counters.2⟩
  | reviewed text hl => exact ⟨hl.uuids, hl.eventSeq⟩
  | written value hw => rw [hw]; exact ⟨le_rfl, le_rfl⟩
  | closeClaimed record fresh status free entry hl => exact ⟨hl.uuids, hl.eventSeq⟩
  | closeUpdated id status detail brokerOrderId hl => exact ⟨hl.uuids, hl.eventSeq⟩

end

end AgenticTrader
