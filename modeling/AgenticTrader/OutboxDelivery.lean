import AgenticTrader.Effects
import AgenticTrader.Storage.Outbox
import Mathlib.Logic.Relation

/-!
# Delivery through the outbox

Any number of dispatchers (`NotificationDispatcher.dispatch_one`,
`notifier/outbox.py`) claim notifications and record what came of them,
while the transactions of the scope queue new ones and operators queue dead
ones again. A dispatcher may be slow – its lease runs out and another one
claims the item – or crash between the claim and the result.

What holds of every interleaving (`outbox_delivery`): a key has one item;
between two requeues an item is claimed at most `max_attempts` times; only
the latest claim's token records a result; a delivered item stays delivered;
and a dead one has used its attempts up.
-/

namespace AgenticTrader

open Table

/-! ## What the workflow does to the outbox

Every transaction of the scope queues notifications one after the other,
and between them writes on other tables. -/

namespace Db

/-- A write that is not on the outbox. -/
def OffOutbox (db db' : Db) : Prop :=
  db'.outbox = db.outbox ∧ db.uuids ≤ db'.uuids

/-- **The outbox was only queued to.** -/
def Queues : Db → Db → Prop :=
  Relation.ReflTransGen (fun a b => a.OffOutbox b
    ∨ ∃ now key payload, b = a.addNotification now key payload)

namespace Queues

variable {a b c : Db}

theorem refl (db : Db) : db.Queues db := Relation.ReflTransGen.refl

theorem trans (hab : a.Queues b) (hbc : b.Queues c) : a.Queues c :=
  Relation.ReflTransGen.trans hab hbc

theorem of_off (ho : b.outbox = a.outbox) (hu : a.uuids ≤ b.uuids) : a.Queues b :=
  Relation.ReflTransGen.single (Or.inl ⟨ho, hu⟩)

/-- A notification queued after the rest. -/
theorem add (h : a.Queues b) (now : Time) (key : String) (payload : NotificationPayload) :
    a.Queues (b.addNotification now key payload) :=
  h.tail (Or.inr ⟨now, key, payload, rfl⟩)

/-- An event journaled after the rest. -/
theorem log (h : a.Queues b) (stream : String) (kind : EventKind)
    (observation : Option OrderObservation) (key : Option String) :
    a.Queues (b.append stream kind observation key).1 :=
  h.trans (of_off (by simp) (by simp))

/-- The halt of an unknown outcome, persisted after the rest. -/
theorem halting (h : a.Queues b) (status : WorkStatus) (reason : String) :
    a.Queues (b.haltIfUnknown status reason) := by
  refine h.trans (of_off ?_ (by simp))
  unfold haltIfUnknown
  split <;> rfl

/-- **The rule for what queueing keeps.** -/
theorem keeps {I : Db → Prop} (h : a.Queues b) (ha : I a)
    (hoff : ∀ db db', db.OffOutbox db' → I db → I db')
    (hadd : ∀ db now key payload, I db → I (db.addNotification now key payload)) : I b := by
  induction h with
  | refl => exact ha
  | tail _ hstep ih =>
    rcases hstep with hoff' | ⟨now, key, payload, rfl⟩
    · exact hoff _ _ hoff' ih
    · exact hadd _ now key payload ih

end Queues

theorem queues_insertSignal (db : Db) (now : Time) (card : CardFields)
    (reprices : Option SignalId) (notify : Bool) :
    db.Queues (db.insertSignal now card reprices notify).1 := by
  unfold insertSignal
  cases notify with
  | false => exact Queues.of_off rfl le_rfl
  | true =>
    refine Queues.add ?_ _ _ _
    exact Queues.of_off rfl le_rfl

theorem queues_replaceSignal (db : Db) (now : Time) (oldId : SignalId) (card : CardFields) :
    db.Queues (db.replaceSignal now oldId card).1 := by
  unfold replaceSignal
  dsimp only
  split
  · refine Queues.trans (b := (db.leavePending oldId .expired).1) ?_ ?_
    · exact Queues.of_off rfl le_rfl
    · exact queues_insertSignal (db.leavePending oldId .expired).1 now card (some oldId) true
  · exact Queues.refl db

theorem queues_observeOrder {digest : OrderObservation → String} {now : Time}
    {db db' : Db} {observation : OrderObservation}
    (h : observeOrder digest now db observation = some db') : db.Queues db' := by
  obtain ⟨event, orders, -, -, projected, hp, projection, ended, -, -, rfl⟩ :=
    observeOrder_eq_some h
  have hq : db.Queues projected := by
    rw [hp]
    exact Queues.of_off (by simp) (by simp)
  cases ended with
  | false => exact hq
  | true =>
    refine hq.trans ?_
    show projected.Queues (projected.releaseResting now _ _)
    unfold releaseResting
    split
    · exact Queues.refl _
    · split
      · exact Queues.refl _
      · refine Queues.add ?_ _ _ _
        exact Queues.of_off rfl le_rfl

theorem queues_settleEntry (db : Db) (cfg : Config) (now : Time) (row item : EntryItem)
    (result : OrderResult) : db.Queues (db.settleEntry cfg now row item result) := by
  have htables : db.Queues (db.settledTables row item result) := Queues.of_off rfl le_rfl
  unfold settleEntry
  dsimp only
  split
  · exact (htables.halting _ _).log _ _ _ _
  · exact ((htables.halting _ _).log _ _ _ _).add _ _ _

theorem queues_claimCancel (db : Db) (cfg : Config) (now : Time) (signalId : SignalId)
    (identity : EntryIdentity) (orders : List OrderObservation) (cause : CancelCause) :
    db.Queues (db.claimCancel cfg now signalId identity orders cause).1 := by
  unfold claimCancel
  dsimp only
  split
  · refine Queues.add ?_ _ _ _
    exact Queues.of_off (by simp) (by simp)
  · exact Queues.of_off (by simp) (by simp)

theorem queues_settleCancel (db : Db) (cfg : Config) (now : Time) (row item : CancelItem)
    (complete filledFirst : Bool) (result : CancelResult) :
    db.Queues (db.settleCancel cfg now row item complete filledFirst result) := by
  have htables : db.Queues (db.cancelledTables row item complete filledFirst result) :=
    Queues.of_off rfl le_rfl
  unfold settleCancel
  dsimp only
  split
  · exact (htables.log _ _ _ _).halting _ _
  · exact ((htables.log _ _ _ _).halting _ _).add _ _ _

theorem queues_claimCloseRequest {db db' : Db} {now : Time} {values : CloseValues}
    {claimed : Bool} {record : CloseRequest}
    (h : db.claimCloseRequest now values = some (db', claimed, record)) :
    db.Queues db' := by
  unfold claimCloseRequest at h
  dsimp only at h
  split at h
  · split at h
    · obtain ⟨rfl, -⟩ : db = db' ∧ _ := by simpa using h
      exact Queues.refl db
    · cases h
  · split at h
    · obtain ⟨rfl, -⟩ : db = db' ∧ _ := by simpa using h
      exact Queues.refl db
    · split at h
      · obtain ⟨rfl, -⟩ : db = db' ∧ _ := by simpa using h
        exact Queues.refl db
      · split at h
        · obtain ⟨rfl, -⟩ : db = db' ∧ _ := by simpa using h
          exact Queues.refl db
        · obtain ⟨rfl, -⟩ : _ = db' ∧ _ := by simpa using h
          refine Queues.add (Queues.log ?_ _ _ _ _) _ _ _
          exact Queues.of_off rfl le_rfl

theorem queues_updateCloseRequest (db : Db) (now : Time) (id : String)
    (status : CloseRequestStatus) (detail : String) (brokerOrderId : Option String) :
    db.Queues (db.updateCloseRequest now id status detail brokerOrderId) := by
  unfold updateCloseRequest
  split
  · exact Queues.refl db
  · split
    · exact Queues.refl db
    · split
      · refine Queues.add (Queues.log ?_ _ _ _ _) _ _ _
        exact Queues.of_off rfl le_rfl
      · exact Queues.refl db

theorem queues_saveExitOrder (db : Db) (record : CloseRequest)
    (status : CloseRequestStatus) (result : OrderResult) :
    db.Queues (db.saveExitOrder record status result) := by
  unfold saveExitOrder
  split
  · split
    · exact Queues.refl db
    · split <;> exact Queues.of_off rfl le_rfl
  · exact Queues.refl db

theorem queues_updateSignalExecution (db : Db) (now : Time) (id : SignalId)
    (u : ExecutionUpdate) : db.Queues (db.updateSignalExecution now id u) := by
  unfold updateSignalExecution
  dsimp only
  split
  · exact Queues.of_off rfl le_rfl
  · split
    · refine Queues.add ?_ _ _ _
      exact Queues.of_off rfl le_rfl
    · exact Queues.of_off rfl le_rfl

theorem queues_updatePositionStop (db : Db) (now : Time) (id : SignalId) (newStop : ℚ)
    (notify : Bool) : db.Queues (db.updatePositionStop now id newStop notify).1 := by
  unfold updatePositionStop
  dsimp only
  split
  · refine Queues.add ?_ _ _ _
    exact Queues.of_off rfl le_rfl
  · exact Queues.of_off rfl le_rfl

theorem queues_closePosition (db : Db) (now : Time) (id : SignalId)
    (status : SignalStatus) (brokerExitOrderId : Option String) :
    db.Queues (db.closePosition now id status brokerExitOrderId).1 := by
  unfold closePosition
  dsimp only
  split
  · refine Queues.add (Queues.log ?_ _ _ _ _) _ _ _
    exact Queues.of_off rfl le_rfl
  · exact Queues.refl db

end Db

/-- **Every transaction of the scope only queues to the outbox.** -/
theorem Transaction.queues {env : Env} {op : Op} {db db' : Db}
    (h : Transaction env op db db') : db.Queues db' := by
  cases h with
  | recordSignal now card notify => exact Db.queues_insertSignal db now card none notify
  | dismissSignal id => exact Db.Queues.of_off rfl le_rfl
  | expireSignal id => exact Db.Queues.of_off rfl le_rfl
  | replaceSignal now oldId card => exact Db.queues_replaceSignal db now oldId card
  | expireStaleSignals now clock configured =>
    exact Db.expireStaleSignals_rel Db.Queues.refl (fun _ _ _ => Db.Queues.trans)
      (fun db id _ _ _ => Db.Queues.add
        (Db.Queues.of_off (a := db) (b := (db.leavePending id .expired).1) rfl le_rfl) _ _ _)
      db env.cfg now clock configured
  | enqueueEntry ev now request trigger =>
    rcases Db.enqueueEntry_cases db env.cfg ev now request trigger with he | ⟨-, he⟩
    · rw [he]
      exact Db.Queues.refl db
    · rw [he]
      exact Db.Queues.of_off (by simp [Db.queueEntry]) (by simp [Db.queueEntry])
  | claimEntry now =>
    unfold Db.claimEntry
    split
    · exact Db.Queues.refl db
    · split
      · exact Db.Queues.refl db
      · split
        · exact Db.Queues.refl db
        · exact Db.Queues.of_off (by simp) (by simp)
  | beginSubmission ev r c t₀ t₁ t₂ item =>
    rcases Db.beginSubmission_cases db env.cfg ev r c t₀ t₁ t₂ item with ⟨_, he⟩ | ⟨-, he⟩
    · rw [he]
      exact Db.Queues.refl db
    · rw [he]
      exact Db.Queues.of_off (by simp [Db.markSubmitting]) (by simp [Db.markSubmitting])
  | resolveEntry now item result recovery =>
    rcases Db.resolveEntry_cases db env.cfg now item result recovery with he | ⟨row, -, he⟩
    · rw [he]
      exact Db.Queues.refl db
    · rw [he]
      exact Db.queues_settleEntry db env.cfg now row item result
  | beginCancel due now id identity orders lifetime cause answer h =>
    rcases Db.beginCancel_cases h with ⟨rfl, -⟩ | ⟨-, rfl, -⟩
    · exact Db.Queues.refl db'
    · exact Db.queues_claimCancel db env.cfg now id identity orders cause
  | resolveCancel now item orders reason transportError allowPending resolved h =>
    obtain ⟨complete, -, rfl | ⟨row, filledFirst, result, -, -, -, -, rfl⟩⟩ :=
      Db.resolveCancel_cases h
    · exact Db.Queues.refl db'
    · exact Db.queues_settleCancel db env.cfg now row item complete filledFirst result
  | observeOrders now observations h =>
    exact Db.observeOrders_rel Db.Queues.refl (fun _ _ _ => Db.Queues.trans)
      (fun _ _ _ => Db.queues_observeOrder) h
  | rebuildOrderViews h =>
    obtain ⟨orders, -, rfl⟩ := Db.rebuildOrderViews_eq_some h
    exact Db.Queues.of_off rfl le_rfl
  | review now signalId reason =>
    refine Db.Queues.add (Db.Queues.log ?_ _ _ _ _) _ _ _
    exact Db.Queues.of_off rfl le_rfl
  | missedBound now signalId symbol =>
    refine Db.Queues.add (Db.Queues.log ?_ _ _ _ _) _ _ _
    exact Db.Queues.refl db
  | setTradingHalted value => exact Db.Queues.of_off rfl le_rfl
  | setTradingHaltReason value => exact Db.Queues.of_off rfl le_rfl
  | claimCloseRequest now values claimed record h => exact Db.queues_claimCloseRequest h
  | saveExitOrder record status result =>
    exact Db.queues_saveExitOrder db record status result
  | updateCloseRequest now id status detail brokerOrderId =>
    exact Db.queues_updateCloseRequest db now id status detail brokerOrderId
  | updateSignalExecution now id u => exact Db.queues_updateSignalExecution db now id u
  | updatePositionStop now id newStop notify =>
    exact Db.queues_updatePositionStop db now id newStop notify
  | closePosition now id status exit h =>
    exact Db.queues_closePosition db now id status exit

/-! ## Dispatchers -/

/-- Where a dispatcher is. -/
inductive Dispatcher where
  | idle
  /-- A notification is claimed and being delivered. -/
  | delivering (item : Notification)

/-- **A mark of the outbox**: an item was claimed for delivery, under a token,
or queued again. -/
inductive OutboxMark where
  | claimed (id : Uuid) (token : Option Uuid)
  | requeued (id : Uuid)
  deriving DecidableEq

/-- The token of a claim of the item. -/
def OutboxMark.claimOf (id : Uuid) : OutboxMark → Option (Option Uuid)
  | .claimed i token => if i = id then some token else none
  | .requeued _ => none

/-- The tokens an item was claimed under, in order. -/
def claimTokens (id : Uuid) (t : List OutboxMark) : List (Option Uuid) :=
  t.filterMap (OutboxMark.claimOf id)

/-- **One action on the outbox**: a transaction of the scope or another
caller queues, an operator queues again, and a dispatcher goes through
`dispatch_one` – whatever the delivery itself comes to. -/
inductive OutboxAct (env : Env) (maxAttempts : ℕ) :
    Db → Dispatcher → List OutboxMark → Db → Dispatcher → Prop where
  | workflow {db db' : Db} {op : Op} (h : Transaction env op db db') :
      OutboxAct env maxAttempts db .idle [] db' .idle
  | enqueue {db : Db} (now : Time) (key : String) (payload : NotificationPayload) :
      OutboxAct env maxAttempts db .idle [] (db.addNotification now key payload) .idle
  | claim {db db' : Db} {item : Notification} (lease now : Time)
      (h : db.claimNotification lease maxAttempts now = (db', some item)) :
      OutboxAct env maxAttempts db .idle [.claimed item.id item.token] db'
        (.delivering item)
  | claimNone {db db' : Db} (lease now : Time)
      (h : db.claimNotification lease maxAttempts now = (db', none)) :
      OutboxAct env maxAttempts db .idle [] db' .idle
  | finish {db : Db} {item : Notification} (delivered : Bool) (now retry : Time)
      (detail : String) :
      OutboxAct env maxAttempts db (.delivering item) []
        (db.finishNotification item delivered maxAttempts now retry detail).1 .idle
  | requeue {db db' : Db} (now : Time) (id : Uuid)
      (h : db.requeueNotification now id = (db', true)) :
      OutboxAct env maxAttempts db .idle [.requeued id] db' .idle
  | requeueRefused {db db' : Db} (now : Time) (id : Uuid)
      (h : db.requeueNotification now id = (db', false)) :
      OutboxAct env maxAttempts db .idle [] db' .idle

/-- **The program of the outbox.** -/
def outboxProgram (env : Env) (maxAttempts : ℕ) : Program Db Dispatcher OutboxMark where
  store := Db.empty
  idle := .idle
  act db _ p marks db' p' := OutboxAct env maxAttempts db p marks db' p'

/-! ## What an action does to the outbox -/

/-- **What can happen to the outbox**, with the mark it leaves. -/
inductive OutboxEffect (maxAttempts : ℕ) (db db' : Db) : List OutboxMark → Prop where
  | queues (queues : db.Queues db') : OutboxEffect maxAttempts db db' []
  /-- A row without a claim left, or whose claim is finished, is rewritten;
  it is dead only with its attempts used up. -/
  | settled (row row' : Notification) (mem : row ∈ db.outbox)
      (undelivered : row.status ≠ .delivered)
      (id : row'.id = row.id) (key : row'.dedupKey = row.dedupKey)
      (attempts : row'.attempts = row.attempts) (open_ : row'.status ≠ .checking)
      (dead : row'.status = .dead → maxAttempts ≤ row.attempts)
      (outbox : db'.outbox = updateWhere (fun n => n.id == row'.id) (fun _ => row') db.outbox)
      (uuids : db'.uuids = db.uuids) : OutboxEffect maxAttempts db db' []
  /-- A row with attempts left is claimed, under a new token. -/
  | claimed (row row' : Notification) (mem : row ∈ db.outbox)
      (undelivered : row.status ≠ .delivered)
      (id : row'.id = row.id) (key : row'.dedupKey = row.dedupKey)
      (left : row.attempts < maxAttempts) (attempts : row'.attempts = row.attempts + 1)
      (status : row'.status = .checking) (token : row'.token = some db.uuids)
      (outbox : db'.outbox = updateWhere (fun n => n.id == row'.id) (fun _ => row') db.outbox)
      (uuids : db'.uuids = db.uuids + 1) :
      OutboxEffect maxAttempts db db' [.claimed row.id (some db.uuids)]
  /-- A dead row is queued again, with all its attempts. -/
  | requeued (row row' : Notification) (mem : row ∈ db.outbox) (dead : row.status = .dead)
      (id : row'.id = row.id) (key : row'.dedupKey = row.dedupKey)
      (attempts : row'.attempts = 0) (status : row'.status = .queued)
      (outbox : db'.outbox = updateWhere (fun n => n.id == row'.id) (fun _ => row') db.outbox)
      (uuids : db'.uuids = db.uuids) :
      OutboxEffect maxAttempts db db' [.requeued row.id]

section

variable {env : Env} {maxAttempts : ℕ} {db db' : Db} {p p' : Dispatcher}
  {marks : List OutboxMark}

theorem OutboxAct.effect (h : OutboxAct env maxAttempts db p marks db' p') :
    OutboxEffect maxAttempts db db' marks := by
  cases h with
  | workflow h => exact .queues h.queues
  | enqueue now key payload => exact .queues ((Db.Queues.refl db).add now key payload)
  | claim lease now h =>
    rcases db.claimNotification_cases lease maxAttempts now with
      he | ⟨row, hm, hs, ⟨-, he⟩ | ⟨hlt, he⟩⟩
    · rw [he] at h
      cases h
    · rw [he] at h
      cases h
    · rw [he] at h
      cases h
      refine .claimed row (db.claimedNotification lease now row) hm ?_ rfl rfl hlt rfl rfl rfl
        rfl rfl
      rcases hs with hs | hs <;> simp [hs]
  | claimNone lease now h =>
    rcases db.claimNotification_cases lease maxAttempts now with
      he | ⟨row, hm, hs, ⟨hle, he⟩ | ⟨-, he⟩⟩
    · rw [he] at h
      cases h
      exact .queues (Db.Queues.refl db)
    · rw [he] at h
      cases h
      refine .settled row (Db.exhaustedNotification row) hm ?_ rfl rfl rfl ?_ (fun _ => hle)
        rfl (by simp)
      · rcases hs with hs | hs <;> simp [hs]
      · simp [Db.exhaustedNotification]
    · rw [he] at h
      cases h
  | @finish item delivered now retry detail =>
    rcases db.finishNotification_cases item delivered maxAttempts now retry detail with
      he | ⟨row, hm, -, -, hs, he⟩
    · rw [he]
      exact .queues (Db.Queues.refl db)
    · rw [he]
      refine .settled row (Db.finishedNotification delivered maxAttempts (now + retry) detail
        row) hm (by simp [hs]) rfl rfl rfl ?_ ?_ rfl (by simp)
      · unfold Db.finishedNotification
        dsimp only
        split
        · simp
        · split <;> simp
      · unfold Db.finishedNotification
        dsimp only
        split
        · intro hd
          cases hd
        · split
          · exact fun _ => by assumption
          · intro hd
            cases hd
  | requeue now id h =>
    rcases db.requeueNotification_cases now id with he | ⟨row, hm, rfl, hs, he⟩
    · rw [he] at h
      cases h
    · rw [he] at h
      cases h
      exact .requeued row (Db.requeuedNotification now row) hm hs rfl rfl rfl rfl rfl
        (by simp)
  | requeueRefused now id h =>
    rcases db.requeueNotification_cases now id with he | ⟨row, -, -, -, he⟩
    · rw [he] at h
      cases h
      exact .queues (Db.Queues.refl db)
    · rw [he] at h
      cases h

end

/-! ## The invariant -/

@[simp] theorem claimTokens_append (id : Uuid) (t u : List OutboxMark) :
    claimTokens id (t ++ u) = claimTokens id t ++ claimTokens id u :=
  List.filterMap_append

@[simp] theorem claimTokens_claimed (id : Uuid) (token : Option Uuid) :
    claimTokens id [.claimed id token] = [token] := by
  simp [claimTokens, OutboxMark.claimOf]

@[simp] theorem claimTokens_requeued (id id' : Uuid) :
    claimTokens id [.requeued id'] = [] := by
  simp [claimTokens, OutboxMark.claimOf]

theorem claimTokens_claimed_ne {id id' : Uuid} (h : id ≠ id') (token : Option Uuid) :
    claimTokens id [.claimed id' token] = [] := by
  simp [claimTokens, OutboxMark.claimOf, h.symm]

/-- An item that was never claimed was not claimed in any stretch of the run. -/
theorem claimTokens_nil_of_part {id : Uuid} {t b : List OutboxMark} (hb : b <:+: t)
    (h : claimTokens id t = []) : claimTokens id b = [] := by
  have hs : (claimTokens id b).Sublist (claimTokens id t) := hb.sublist.filterMap _
  rw [h] at hs
  exact List.sublist_nil.mp hs

/-- **What holds of a row**, over the trace so far. -/
structure NotificationKept (maxAttempts : ℕ) (t : List OutboxMark) (n : Notification) :
    Prop where
  bound : n.attempts ≤ maxAttempts
  dead : n.status = .dead → maxAttempts ≤ n.attempts
  /-- A claimed row carries the token of its latest claim. -/
  held : n.status = .checking → (claimTokens n.id t).getLast? = some n.token
  /-- The attempts count the claims since the last requeue. -/
  since : ∀ b, b <:+ t → OutboxMark.requeued n.id ∉ b →
    (claimTokens n.id b).length ≤ n.attempts

/-- **What holds of the outbox.** -/
structure OutboxKept (maxAttempts : ℕ) (db : Db) (t : List OutboxMark) : Prop where
  keys : (db.outbox.map (·.dedupKey)).Nodup
  ids : (db.outbox.map (·.id)).Nodup
  known : ∀ n ∈ db.outbox, n.id < db.uuids
  rows : ∀ n ∈ db.outbox, NotificationKept maxAttempts t n
  unclaimed : ∀ id, (∀ n ∈ db.outbox, n.id ≠ id) → claimTokens id t = []
  tokens : ∀ id, ∀ token ∈ claimTokens id t, ∃ u, token = some u ∧ u < db.uuids
  segments : ∀ id b, b <:+: t → OutboxMark.requeued id ∉ b →
    (claimTokens id b).length ≤ maxAttempts

section

variable {maxAttempts : ℕ} {db db' : Db} {t marks : List OutboxMark}

theorem outboxKept_empty : OutboxKept maxAttempts Db.empty [] where
  keys := List.nodup_nil
  ids := List.nodup_nil
  known := by simp [Db.empty]
  rows := by simp [Db.empty]
  unclaimed := fun id _ => rfl
  tokens := by simp [claimTokens]
  segments := by
    intro id b hb _
    rw [List.infix_nil.mp hb]
    simp [claimTokens]

/-- A write off the outbox. -/
theorem OutboxKept.off (h : OutboxKept maxAttempts db t) (ho : db.OffOutbox db') :
    OutboxKept maxAttempts db' t where
  keys := by rw [ho.1]; exact h.keys
  ids := by rw [ho.1]; exact h.ids
  known := by
    rw [ho.1]
    exact fun n hn => (h.known n hn).trans_le ho.2
  rows := by rw [ho.1]; exact h.rows
  unclaimed := by rw [ho.1]; exact h.unclaimed
  tokens := fun id token hm => by
    obtain ⟨u, hu, hlt⟩ := h.tokens id token hm
    exact ⟨u, hu, hlt.trans_le ho.2⟩
  segments := h.segments

/-- A notification that is queued. -/
theorem OutboxKept.add (h : OutboxKept maxAttempts db t) (now : Time) (key : String)
    (payload : NotificationPayload) :
    OutboxKept maxAttempts (db.addNotification now key payload) t := by
  unfold Db.addNotification
  split
  · exact h
  · rename_i hnew
    have hkey : ∀ n ∈ db.outbox, n.dedupKey ≠ key := by
      intro n hn he
      exact hnew (List.any_eq_true.mpr ⟨n, hn, by simp [he]⟩)
    have hid : ∀ n ∈ db.outbox, n.id ≠ db.uuids := fun n hn => (h.known n hn).ne
    refine ⟨nodup_map_append_singleton h.keys hkey, nodup_map_append_singleton h.ids hid,
      fun n hn => ?_, fun n hn => ?_, fun id hn => ?_, fun id token hm => ?_, h.segments⟩
    · rcases List.mem_append.mp hn with hn | hn
      · simpa using Nat.lt_succ_of_lt (h.known n hn)
      · rw [List.mem_singleton.mp hn]
        simp
    · rcases List.mem_append.mp hn with hn | hn
      · exact h.rows n hn
      · rw [List.mem_singleton.mp hn]
        refine ⟨Nat.zero_le _, (fun hd => by cases hd), (fun hc => by cases hc),
          fun b hb _ => ?_⟩
        simp [claimTokens_nil_of_part hb.isInfix (h.unclaimed _ hid)]
    · exact h.unclaimed id (fun n hm => hn n (List.mem_append_left _ hm))
    · obtain ⟨u, hu, hlt⟩ := h.tokens id token hm
      exact ⟨u, hu, by simpa using Nat.lt_succ_of_lt hlt⟩

/-- A stretch at the end of a longer trace is one of the new marks, or all of
them after one at the end of the old trace. -/
theorem suffix_append_cases {b : List OutboxMark} (h : b <:+ t ++ marks) :
    b <:+ marks ∨ ∃ b', b' <:+ t ∧ b = b' ++ marks := by
  obtain ⟨a, ha⟩ := h
  rcases List.append_eq_append_iff.mp ha with ⟨c, hc, rfl⟩ | ⟨c, -, hc⟩
  · exact Or.inr ⟨c, ⟨a, hc.symm⟩, rfl⟩
  · exact Or.inl ⟨c, hc.symm⟩

/-- The rows of other items do not notice a mark. -/
theorem NotificationKept.other {n : Notification} (h : NotificationKept maxAttempts t n)
    (hm : claimTokens n.id marks = []) : NotificationKept maxAttempts (t ++ marks) n where
  bound := h.bound
  dead := h.dead
  held := by
    rw [claimTokens_append, hm, List.append_nil]
    exact h.held
  since := by
    intro b hb hr
    rcases suffix_append_cases hb with hb | ⟨b', hb', rfl⟩
    · simp [claimTokens_nil_of_part hb.isInfix hm]
    · rw [claimTokens_append, hm, List.append_nil]
      exact h.since b' hb' (fun hm => hr (List.mem_append_left _ hm))

/-- **One row is rewritten**, and the marks are about it. -/
theorem OutboxKept.rewrite (h : OutboxKept maxAttempts db t) {row row' : Notification}
    (mem : row ∈ db.outbox) (id : row'.id = row.id) (key : row'.dedupKey = row.dedupKey)
    (outbox : db'.outbox = updateWhere (fun n => n.id == row'.id) (fun _ => row') db.outbox)
    (uuids : db.uuids ≤ db'.uuids) (hother : ∀ i, i ≠ row.id → claimTokens i marks = [])
    (htoken : ∀ token ∈ claimTokens row.id marks, ∃ u, token = some u ∧ u < db'.uuids)
    (hrow : NotificationKept maxAttempts (t ++ marks) row')
    (hone : marks = [] ∨ ∃ m, marks = [m]) :
    OutboxKept maxAttempts db' (t ++ marks) := by
  have hsame : ∀ n ∈ db.outbox, n.id = row'.id → n = row := fun n hn he =>
    eq_of_key h.ids hn mem (he.trans id)
  have hrows : ∀ n ∈ db'.outbox, n = row' ∨ n ∈ db.outbox ∧ n.id ≠ row'.id := by
    intro n hn
    rw [outbox] at hn
    obtain ⟨r, hr, rfl⟩ := mem_updateWhere.mp hn
    by_cases he : r.id = row'.id
    · exact Or.inl (by simp [he])
    · exact Or.inr ⟨by simpa [he] using hr, by simp [he]⟩
  have hkeys : db'.outbox.map (·.dedupKey) = db.outbox.map (·.dedupKey)
      ∧ db'.outbox.map (·.id) = db.outbox.map (·.id) := by
    rw [outbox]
    unfold updateWhere
    rw [List.map_map, List.map_map]
    constructor <;> refine List.map_congr_left (fun n hn => ?_)
    · by_cases he : n.id = row'.id
      · simp only [Function.comp, he, beq_self_eq_true, if_true, key]
        rw [hsame n hn he]
      · simp [he]
    · by_cases he : n.id = row'.id <;> simp [he]
  have hfree : ∀ i, (∀ n ∈ db'.outbox, n.id ≠ i) → claimTokens i (t ++ marks) = [] := by
    intro i hi
    have hi' : ∀ n ∈ db.outbox, n.id ≠ i := by
      intro n hn he
      have hm : i ∈ db'.outbox.map (·.id) := by
        rw [hkeys.2]
        exact List.mem_map.mpr ⟨n, hn, he⟩
      obtain ⟨n', hn', he'⟩ := List.mem_map.mp hm
      exact hi n' hn' he'
    rw [claimTokens_append, h.unclaimed i hi', hother i (fun he => hi' row mem he.symm),
      List.append_nil]
  have hkept : ∀ n ∈ db'.outbox, NotificationKept maxAttempts (t ++ marks) n := by
    intro n hn
    rcases hrows n hn with rfl | ⟨hn, hne⟩
    · exact hrow
    · exact (h.rows n hn).other (hother n.id (fun he => hne (he.trans id.symm)))
  refine ⟨by rw [hkeys.1]; exact h.keys, by rw [hkeys.2]; exact h.ids, ?_, hkept, hfree, ?_,
    ?_⟩
  · intro n hn
    rcases hrows n hn with rfl | ⟨hn, -⟩
    · rw [id]
      exact (h.known row mem).trans_le uuids
    · exact (h.known n hn).trans_le uuids
  · intro i token hm
    rw [claimTokens_append, List.mem_append] at hm
    rcases hm with hm | hm
    · obtain ⟨u, hu, hlt⟩ := h.tokens i token hm
      exact ⟨u, hu, hlt.trans_le uuids⟩
    · by_cases hi : i = row.id
      · subst hi
        exact htoken token hm
      · rw [hother i hi] at hm
        cases hm
  · -- a stretch ends before the mark, or is counted by the row it is about
    intro i b hb hr
    have hend : b <:+: t ∨ b <:+ t ++ marks := by
      rcases hone with rfl | ⟨m, rfl⟩
      · exact Or.inl (by simpa using hb)
      · exact (List.infix_concat_iff.mp hb).symm
    rcases hend with hb | hb
    · exact h.segments i b hb hr
    · by_cases hi : ∀ n ∈ db'.outbox, n.id ≠ i
      · simp [claimTokens_nil_of_part hb.isInfix (hfree i hi)]
      · push Not at hi
        obtain ⟨n, hn, rfl⟩ := hi
        exact ((hkept n hn).since b hb hr).trans (hkept n hn).bound

/-- **Every action keeps the invariant of the outbox.** -/
theorem OutboxEffect.kept (he : OutboxEffect maxAttempts db db' marks)
    (h : OutboxKept maxAttempts db t) : OutboxKept maxAttempts db' (t ++ marks) := by
  cases he with
  | queues hq =>
    rw [List.append_nil]
    exact hq.keeps (I := fun db => OutboxKept maxAttempts db t) h (fun _ _ ho hk => hk.off ho)
      (fun _ now key payload hk => hk.add now key payload)
  | settled row row' mem undelivered id key attempts open_ dead outbox uuids =>
    have hk := h.rows row mem
    refine h.rewrite mem id key outbox uuids.ge (fun _ _ => rfl)
      (fun token hm => by cases hm) ?_ (Or.inl rfl)
    rw [List.append_nil]
    exact ⟨attempts ▸ hk.bound, fun hd => attempts ▸ dead hd, fun hc => absurd hc open_,
      fun b hb hr => by rw [id, attempts]; exact hk.since b hb (id ▸ hr)⟩
  | claimed row row' mem undelivered id key left attempts status token outbox uuids =>
    have hk := h.rows row mem
    refine h.rewrite mem id key outbox (by omega)
      (fun i hi => claimTokens_claimed_ne hi _) ?_ ?_ (Or.inr ⟨_, rfl⟩)
    · intro tok hm
      rw [claimTokens_claimed, List.mem_singleton] at hm
      exact ⟨_, hm, by rw [uuids]; exact Nat.lt_succ_self _⟩
    · refine ⟨by omega, fun hd => ?_, fun _ => ?_, fun b hb hr => ?_⟩
      · rw [status] at hd
        cases hd
      · rw [claimTokens_append, id, claimTokens_claimed, token]
        simp
      · rw [id] at hr ⊢
        rw [attempts]
        rcases suffix_append_cases hb with hb | ⟨b', hb', rfl⟩
        · have hl := hb.length_le
          have hf : (claimTokens row.id b).length ≤ b.length := List.length_filterMap_le _ _
          simp only [List.length_singleton] at hl
          omega
        · rw [claimTokens_append, claimTokens_claimed, List.length_append]
          have hs := hk.since b' hb' (fun hm => hr (List.mem_append_left _ hm))
          simpa using hs
  | requeued row row' mem dead id key attempts status outbox uuids =>
    refine h.rewrite mem id key outbox uuids.ge (fun i _ => claimTokens_requeued i _)
      (fun token hm => ?_) ⟨by omega, fun hd => ?_, fun hc => ?_, fun b hb hr => ?_⟩
      (Or.inr ⟨_, rfl⟩)
    · rw [claimTokens_requeued] at hm
      cases hm
    · rw [status] at hd
      cases hd
    · rw [status] at hc
      cases hc
    · rw [id] at hr ⊢
      rcases suffix_append_cases hb with hb | ⟨b', hb', rfl⟩
      · simp [claimTokens_nil_of_part hb.isInfix (claimTokens_requeued row.id row.id)]
      · exact absurd (List.mem_append_right _ (List.mem_singleton_self _)) hr

/-- Identifiers are only drawn. -/
theorem OutboxEffect.uuids_le (he : OutboxEffect maxAttempts db db' marks) :
    db.uuids ≤ db'.uuids := by
  cases he with
  | queues hq =>
    exact hq.keeps (I := fun d => db.uuids ≤ d.uuids) le_rfl (fun _ _ ho h => h.trans ho.2)
      (fun d now key payload h => h.trans (Db.le_addNotification_uuids d now key payload))
  | settled row row' mem undelivered id key attempts open_ dead outbox uuids => exact uuids.ge
  | claimed row row' mem undelivered id key left attempts status token outbox uuids =>
    exact uuids ▸ Nat.le_succ _
  | requeued row row' mem dead id key attempts status outbox uuids => exact uuids.ge

/-- **What a row becomes**: it stays under its id and key, and a delivered one
stays delivered. -/
def Notification.Persists (n n' : Notification) : Prop :=
  Table.Persists (fun n => (n.id, n.dedupKey)) (·.status) (· = .delivered) n n'

theorem OutboxEffect.persists (he : OutboxEffect maxAttempts db db' marks)
    (h : OutboxKept maxAttempts db t) :
    ∀ n ∈ db.outbox, ∃ n' ∈ db'.outbox, n.Persists n' := by
  intro n hn
  have hrewrite : ∀ {row row' : Notification}, row ∈ db.outbox → row.status ≠ .delivered →
      row'.id = row.id → row'.dedupKey = row.dedupKey →
      db'.outbox = updateWhere (fun n => n.id == row'.id) (fun _ => row') db.outbox →
      ∃ n' ∈ db'.outbox, n.Persists n' := by
    intro row row' mem undelivered id key outbox
    rw [outbox]
    by_cases hid : n.id = row'.id
    · obtain rfl : n = row := eq_of_key h.ids hn mem (hid.trans id)
      exact ⟨row', mem_updateWhere_of hn (by simp [hid]),
        Prod.ext id key, fun hf => absurd hf undelivered⟩
    · exact ⟨n, mem_updateWhere_of_not hn (by simpa using hid), Table.Persists.refl n⟩
  cases he with
  | queues hq =>
    refine hq.keeps (I := fun d => ∃ n' ∈ d.outbox, n.Persists n')
      ⟨n, hn, Table.Persists.refl n⟩ (fun _ _ ho hm => by rw [ho.1]; exact hm) ?_
    rintro d now key payload ⟨n', hn', hp⟩
    refine ⟨n', ?_, hp⟩
    unfold Db.addNotification
    split
    · exact hn'
    · exact List.mem_append_left _ hn'
  | settled row row' mem undelivered id key attempts open_ dead outbox uuids =>
    exact hrewrite mem undelivered id key outbox
  | claimed row row' mem undelivered id key left attempts status token outbox uuids =>
    exact hrewrite mem undelivered id key outbox
  | requeued row row' mem dead id key attempts status outbox uuids =>
    exact hrewrite mem (by simp [dead]) id key outbox

end

/-! ## Every run -/

/-- **The invariant of the dispatchers**: that of the outbox, and that no two
of them hold one token. -/
def dispatching (maxAttempts : ℕ) : Program.Assertion Db Dispatcher OutboxMark where
  store db t := OutboxKept maxAttempts db t
  here db _ p := ∀ item, p = .delivering item → ∃ u, item.token = some u ∧ u < db.uuids
  apart p q := ∀ a b, p = .delivering a → q = .delivering b → a.token ≠ b.token

section

variable {env : Env} {maxAttempts : ℕ} {db db' : Db} {p p' : Dispatcher}
  {t marks : List OutboxMark}

/-- Where an action leaves its dispatcher: idle, or with a new token. -/
theorem OutboxAct.holds (h : OutboxAct env maxAttempts db p marks db' p') :
    p' = .idle ∨ ∃ item, p' = .delivering item ∧ item.token = some db.uuids
      ∧ db.uuids < db'.uuids := by
  cases h with
  | claim lease now h =>
    rcases db.claimNotification_cases lease maxAttempts now with
      he | ⟨row, -, -, ⟨-, he⟩ | ⟨-, he⟩⟩
    · rw [he] at h
      cases h
    · rw [he] at h
      cases h
    · rw [he] at h
      cases h
      exact Or.inr ⟨_, rfl, rfl, Nat.lt_succ_self _⟩
  | _ => exact Or.inl rfl

theorem dispatching_kept (h : OutboxAct env maxAttempts db p marks db' p')
    (hs : OutboxKept maxAttempts db t) :
    (dispatching maxAttempts).Kept db t p marks db' p' := by
  have hle := h.effect.uuids_le
  refine ⟨h.effect.kept hs, ?_, fun q hq _ _ => ⟨fun item hi => ?_, ?_⟩⟩
  · rintro item rfl
    rcases h.holds with hp | ⟨item', hp, htok, hlt⟩
    · cases hp
    · cases hp
      exact ⟨_, htok, hlt⟩
  · obtain ⟨u, hu, hlt⟩ := hq item hi
    exact ⟨u, hu, hlt.trans_le hle⟩
  · have hne : ∀ a b, p' = .delivering a → q = .delivering b → a.token ≠ b.token := by
      rintro a b rfl hb heq
      obtain ⟨u, hu, hlt⟩ := hq b hb
      rcases h.holds with hp | ⟨item', hp, htok, -⟩
      · cases hp
      · cases hp
        rw [htok, hu] at heq
        cases heq
        exact lt_irrefl _ hlt
    exact ⟨hne, fun a b ha hb heq => hne b a hb ha heq.symm⟩

theorem dispatching_holds {w : World Db Dispatcher OutboxMark}
    (h : (outboxProgram env maxAttempts).Reachable w) : (dispatching maxAttempts).Holds w :=
  Program.holds (P := outboxProgram env maxAttempts) (dispatching maxAttempts)
    outboxKept_empty (fun _ _ _ _ hi => by cases hi)
    (fun _ => ⟨(fun _ _ ha _ => by cases ha), (fun _ _ _ hb => by cases hb)⟩)
    (fun _ i _ _ _ _ hA ha => dispatching_kept ha hA.store) h

end

/-- **Delivery is fenced and bounded.** In every reachable state of the outbox,
whatever its dispatchers, operators and queueing transactions did: a key has
at most one item; in any stretch of the run without a requeue of an item it
was claimed at most `maxAttempts` times; a result is recorded only under the
token of the item's latest claim, which one dispatcher at most holds, and any
other attempt to record one writes nothing; a dead item has used its attempts
up; and in every later state each item is still there, delivered if it was. -/
theorem outbox_delivery (env : Env) (maxAttempts : ℕ)
    {w : World Db Dispatcher OutboxMark}
    (h : (outboxProgram env maxAttempts).Reachable w) :
    (w.store.outbox.map (·.dedupKey)).Nodup
      ∧ (∀ id before stretch after, w.trace = before ++ stretch ++ after →
          OutboxMark.requeued id ∉ stretch → (claimTokens id stretch).length ≤ maxAttempts)
      ∧ (∀ item delivered now retry detail,
          let finished :=
            w.store.finishNotification item delivered maxAttempts now retry detail
          (finished.2 = true → (claimTokens item.id w.trace).getLast? = some item.token)
            ∧ (finished.2 = false → finished.1 = w.store))
      ∧ (∀ i j a b, w.procs i = .delivering a → w.procs j = .delivering b →
          a.token = b.token → i = j)
      ∧ (∀ n ∈ w.store.outbox, n.status = .dead → maxAttempts ≤ n.attempts)
      ∧ (∀ w', (outboxProgram env maxAttempts).Run w w' → ∀ n ∈ w.store.outbox,
          ∃ n' ∈ w'.store.outbox, n'.id = n.id ∧ n'.dedupKey = n.dedupKey
            ∧ (n.status = .delivered → n'.status = .delivered)) := by
  have hA := dispatching_holds h
  have hk : OutboxKept maxAttempts w.store w.trace := hA.store
  refine ⟨hk.keys, fun id before stretch after ht hr => ?_,
    fun item delivered now retry detail => ?_, fun i j a b ha hb hab => ?_,
    fun n hn hd => (hk.rows n hn).dead hd, fun w' hr n hn => ?_⟩
  · exact hk.segments id stretch ⟨before, after, ht.symm⟩ hr
  · rcases w.store.finishNotification_cases item delivered maxAttempts now retry detail with
      he | ⟨row, hm, hid, htok, hs, he⟩
    · rw [he]
      exact ⟨(fun hf => by cases hf), fun _ => rfl⟩
    · rw [he]
      refine ⟨fun _ => ?_, (fun hf => by cases hf)⟩
      rw [← hid, ← htok]
      exact (hk.rows row hm).held hs
  · by_contra hij
    exact hA.apart i j hij a b ha hb hab
  · obtain ⟨n', hn', hp⟩ := Program.rows_rel (P := outboxProgram env maxAttempts)
      (R := Notification.Persists) Table.Persists.refl (fun _ _ _ => Table.Persists.trans)
      (fun v i marks d p hv ha => ha.effect.persists (dispatching_holds hv).store)
      h hr n hn
    obtain ⟨hid, hkey⟩ := Prod.mk.inj hp.same
    exact ⟨n', hn', hid, hkey, fun hd => (hp.kept hd).trans hd⟩

/-- An outbox with one notification. -/
def sampleOutbox : Db :=
  Db.empty.addNotification 0 "signal/1/created" (.signal 1)

/-- The notification is claimed: its token alone records a result. -/
theorem outbox_delivery_sample :
    ∃ w item, (outboxProgram sampleEnv 3).Reachable w ∧ w.procs 0 = .delivering item
      ∧ (w.store.finishNotification item true 3 2 0 "sent").2 = true
      ∧ (claimTokens item.id w.trace).getLast? = some item.token := by
  have h₀ : (outboxProgram sampleEnv 3).Reachable ⟨Db.empty, fun _ => .idle, []⟩ :=
    TransitionSystem.Reachable.of_init rfl
  have h₁ : (outboxProgram sampleEnv 3).Reachable ⟨sampleOutbox, _, _⟩ :=
    Program.Reachable.act (i := 0) h₀ (.enqueue 0 "signal/1/created" (.signal 1))
  have hsome : (sampleOutbox.claimNotification 60 3 1).2.any (fun item =>
      ((sampleOutbox.claimNotification 60 3 1).1.finishNotification item true 3 2 0
        "sent").2) = true := by
    decide +kernel
  obtain ⟨item, hc, hf⟩ := (Option.any_eq_true _ _).mp hsome
  have h₂ := Program.Reachable.act (i := 0) h₁
    (.claim 60 1 (show sampleOutbox.claimNotification 60 3 1
      = ((sampleOutbox.claimNotification 60 3 1).1, some item) from Prod.ext rfl hc))
  exact ⟨_, item, h₂, World.acted_procs_self _ _ _ _ _, hf,
    ((outbox_delivery sampleEnv 3 h₂).2.2.1 item true 2 0 "sent").1 hf⟩

end AgenticTrader
