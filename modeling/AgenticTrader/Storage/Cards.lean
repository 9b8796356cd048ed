import AgenticTrader.Storage.Db

/-!
# The card transactions

A card is a signal in `PENDING`. `SignalDatabase` (`storage/db.py`) records
one, and lets it go: dismissed by the operator, expired by a tap or by the
session-close sweep, or expired together with the insertion of the
re-priced card that replaces it. Each departure is a conditional update on
`PENDING`, under the scope lock, and says whether it changed a row.

Entering a card is the other way out; that is `Db.enqueueEntry`.
-/

namespace AgenticTrader

/-- The fields a new card is recorded with. -/
structure CardFields where
  contract : String
  direction : Direction
  assetClass : AssetClass
  entryPrice : ℚ
  stopLoss : ℚ
  takeProfit : ℚ
  quantity : ℚ
  riskDollars : ℚ
  notionalValue : Option ℚ
  lifetime : Except String (Option LifetimePolicy)

namespace Db

/-- The row a card is inserted as. -/
def newSignal (db : Db) (now : Time) (card : CardFields) (reprices : Option SignalId) :
    Signal where
  id := db.signalSeq + 1
  timestamp := now
  contract := card.contract
  direction := card.direction
  assetClass := card.assetClass
  entryPrice := card.entryPrice
  stopLoss := card.stopLoss
  takeProfit := card.takeProfit
  quantity := card.quantity
  riskDollars := card.riskDollars
  notionalValue := card.notionalValue
  status := .pending
  brokerOrderId := none
  executedAt := none
  brokerExitOrderId := none
  lifetime := card.lifetime
  reprices := reprices

/-- **`_insert_signal`**: the row, under the next id, and its notification
when the card is sent. -/
def insertSignal (db : Db) (now : Time) (card : CardFields)
    (reprices : Option SignalId) (notify : Bool) : Db × SignalId :=
  let id := db.signalSeq + 1
  let inserted : Db :=
    { db with
      signals := db.signals ++ [db.newSignal now card reprices]
      signalSeq := id }
  (if notify then inserted.addNotification now s!"signal/{id}/created" (.signal id)
    else inserted, id)

/-- **`SignalDatabase.record_signal`.** -/
def recordSignal (db : Db) (now : Time) (card : CardFields) (notify : Bool) :
    Db × SignalId :=
  db.insertSignal now card none notify

/-- `WHERE id = … AND status = 'PENDING'`. -/
def isPendingCard (id : SignalId) (s : Signal) : Bool :=
  s.id == id && s.status == .pending

/-- **The conditional update every departure makes**, with its row count as
a truth value. -/
def leavePending (db : Db) (id : SignalId) (status : SignalStatus) : Db × Bool :=
  ({ db with
      signals := Table.updateWhere (isPendingCard id)
        (fun s => { s with status := status }) db.signals },
    db.signals.any (isPendingCard id))

/-- **`SignalDatabase.dismiss_signal`.** -/
def dismissSignal (db : Db) (id : SignalId) : Db × Bool :=
  db.leavePending id .dismissed

/-- **`SignalDatabase.expire_signal`.** -/
def expireSignal (db : Db) (id : SignalId) : Db × Bool :=
  db.leavePending id .expired

/-- **`SignalDatabase.replace_signal`**: the expiry and the insertion are one
transaction, and no insertion happens without an expiry. The replacement's
provenance names the card it re-prices (`_replacement_card`). -/
def replaceSignal (db : Db) (now : Time) (oldId : SignalId) (card : CardFields) :
    Db × Option SignalId :=
  let expired := db.leavePending oldId .expired
  if expired.2 then
    let inserted := expired.1.insertSignal now card (some oldId) true
    (inserted.1, some inserted.2)
  else (db, none)

/-- One row of the sweep. -/
def expireStaleRow (cfg : Config) (now clock : Time) (configured : String → Bool)
    (acc : Db × List SignalId) (row : Signal) : Db × List SignalId :=
  if cfg.cardIsStale row now then
    let expired := acc.1.leavePending row.id .expired
    if expired.2 then
      let id := row.id
      (expired.1.addNotification clock s!"signal/{id}/expired"
        (.cardExpired id row.contract (configured row.contract)), acc.2 ++ [id])
    else acc
  else acc

/-- **`SignalDatabase.expire_stale_signals`**: the rows selected first, then
each stale one expired and noticed, all in one transaction. `now` is the
sweep's own time and `clock` the reading the notices are stamped with. -/
def expireStaleSignals (db : Db) (cfg : Config) (now clock : Time)
    (configured : String → Bool) : Db × List SignalId :=
  (db.signals.filter (fun s => s.status = .pending)).foldl
    (expireStaleRow cfg now clock configured) (db, [])

/-! ## What the card transactions leave alone -/

theorem keeps_insertSignal (db : Db) (now : Time) (card : CardFields)
    (reprices : Option SignalId) (notify : Bool) :
    db.Keeps (db.insertSignal now card reprices notify).1 := by
  unfold insertSignal
  have h := keeps_signals db (db.signals ++ [db.newSignal now card reprices])
    (db.signalSeq + 1)
  cases notify with
  | false => exact h
  | true => exact h.trans (keeps_addNotification _ _ _ _)

theorem keeps_leavePending (db : Db) (id : SignalId) (status : SignalStatus) :
    db.Keeps (db.leavePending id status).1 :=
  keeps_signals db _ db.signalSeq

theorem keeps_replaceSignal (db : Db) (now : Time) (oldId : SignalId) (card : CardFields) :
    db.Keeps (db.replaceSignal now oldId card).1 := by
  unfold replaceSignal
  dsimp only
  split
  · exact (keeps_leavePending db oldId .expired).trans
      (keeps_insertSignal (db.leavePending oldId .expired).1 now card (some oldId) true)
  · exact Keeps.refl db

/-- **What one row of the sweep does**, as a relation on the database that
the sweep then folds. -/
theorem expireStaleRow_cases (cfg : Config) (now clock : Time) (configured : String → Bool)
    (acc : Db × List SignalId) (row : Signal) :
    expireStaleRow cfg now clock configured acc row = acc
      ∨ ∃ key payload, (expireStaleRow cfg now clock configured acc row).1
        = (acc.1.leavePending row.id .expired).1.addNotification clock key payload := by
  unfold expireStaleRow
  split
  · dsimp only
    split
    · exact Or.inr ⟨_, _, rfl⟩
    · exact Or.inl rfl
  · exact Or.inl rfl

/-- **The sweep rule**: a reflexive and transitive relation that the expiry
of one card and its notice are in holds across the sweep. -/
theorem expireStaleSignals_rel {R : Db → Db → Prop} (hrefl : ∀ db, R db db)
    (htrans : ∀ a b c, R a b → R b c → R a c)
    (hrow : ∀ db id clock key payload,
      R db ((db.leavePending id .expired).1.addNotification clock key payload))
    (db : Db) (cfg : Config) (now clock : Time) (configured : String → Bool) :
    R db (db.expireStaleSignals cfg now clock configured).1 := by
  unfold expireStaleSignals
  generalize db.signals.filter (fun s => s.status = .pending) = rows
  suffices h : ∀ acc : Db × List SignalId, R db acc.1 →
      R db (rows.foldl (expireStaleRow cfg now clock configured) acc).1 from
    h (db, []) (hrefl db)
  induction rows with
  | nil => exact fun acc h => h
  | cons row rows ih =>
    intro acc h
    refine ih _ ?_
    rcases expireStaleRow_cases cfg now clock configured acc row with he | ⟨key, payload, he⟩
    · rw [he]
      exact h
    · rw [he]
      exact htrans _ _ _ h (hrow _ _ _ _ _)

theorem keeps_expireStaleSignals (db : Db) (cfg : Config) (now clock : Time)
    (configured : String → Bool) :
    db.Keeps (db.expireStaleSignals cfg now clock configured).1 :=
  expireStaleSignals_rel Keeps.refl (fun _ _ _ => Keeps.trans)
    (fun db id _ _ _ => (keeps_leavePending db id .expired).trans
      (keeps_addNotification _ _ _ _))
    db cfg now clock configured

end Db

end AgenticTrader
