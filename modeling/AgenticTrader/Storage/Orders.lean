import AgenticTrader.Storage.Db

/-!
# The order journal

`WorkflowStore.observe_orders`, `_project_order` and `rebuild_order_views`
(`storage/workflow.py`). An observation is journaled under a digest of its
content, so that the same report is one event however often it arrives,
and projected onto the view of its order. Reports arrive out of order and
from two sources: an event older than the projected one, or reporting a
smaller cumulative quantity, is refused, and a parent link once known is
carried forward.

A comparison can raise – a quantity that is not a number, a timestamp
without a zone beside one with – and then the whole transaction is rolled
back. `none` is that outcome.
-/

namespace AgenticTrader

/-- `BROKER_TERMINAL_STATUSES`: the unfilled terminal statuses that fail a
resting entry. -/
def brokerTerminalStatuses : List String := ["canceled", "rejected", "expired"]

namespace Db

/-- The accepted observation, with the known parent link carried forward. -/
def carryParent (old new : OrderObservation) : OrderObservation :=
  if truthy old.parentOrderId && new.parentOrderId.isNone then
    { new with parentOrderId := old.parentOrderId }
  else new

/-- The refusal of `_project_order`: an event that is not newer in the
journal, an observation that is older, or one that reports less. -/
def superseded (previous : OrderProjection) (eventId : ℕ)
    (observation : OrderObservation) : Option Bool :=
  if eventId ≤ previous.eventId then some true
  else do
    let older ← observation.updatedAt.lt? previous.observation.updatedAt
    if older then some true
    else decimalLt observation.filledQuantity previous.observation.filledQuantity

/-- The row an accepted event leaves. -/
def projected (eventId : ℕ) (observation : OrderObservation) (r : OrderProjection) :
    OrderProjection :=
  { r with eventId := eventId, observation := carryParent r.observation observation }

/-- **`_project_order`**, on the projection table. -/
def projectOrder (orders : List OrderProjection) (eventId : ℕ)
    (observation : OrderObservation) : Option (List OrderProjection) :=
  match orders.find? (fun r => r.orderId == observation.orderId) with
  | none => some (orders ++ [⟨observation.orderId, eventId, observation⟩])
  | some previous =>
    (superseded previous eventId observation).map (fun refused =>
      if refused then orders
      else Table.updateWhere (fun r => r.orderId == observation.orderId)
        (projected eventId observation) orders)

/-- `current.status in BROKER_TERMINAL_STATUSES and
Decimal(current.filled_quantity) == 0`. -/
def endedUnfilled (current : OrderObservation) : Option Bool :=
  if current.status ∈ brokerTerminalStatuses then decimalEq current.filledQuantity "0"
  else some false

/-- The signal an order's unfilled end releases. -/
def restingSignal? (db : Db) (orderId : String) : Option Signal :=
  db.signals.find? (fun s => s.brokerOrderId == some orderId
    && s.status == .executed && s.executedAt == none)

/-- **The release of a reservation** whose order ended without a fill, unless
a cancellation on its symbol is in doubt. -/
def releaseResting (db : Db) (now : Time) (orderId status : String) : Db :=
  match db.restingSignal? orderId with
  | none => db
  | some signal =>
    if db.unresolvedCancellationOf signal.contract then db
    else
      let id := signal.id
      let released : Db :=
        { db with
          signals := Table.updateWhere (fun s => s.id == id)
            (fun s => { s with status := .failed }) db.signals }
      released.addNotification now s!"signal/{id}/entry-terminal"
        (.message s!"Entry #{id} ended {status} without fills. Reservation released; run /scan for a new proposal.")

/-- **One observation of `observe_orders`.** `digest` is the SHA-256 of the
encoded observation. -/
def observeOrder (digest : OrderObservation → String) (now : Time) (db : Db)
    (observation : OrderObservation) : Option Db := do
  let journaled := db.append ("order/" ++ observation.orderId) .orderObserved
    (some observation) (some ("order/" ++ digest observation))
  let event ← journaled.2.observation
  let orders ← projectOrder journaled.1.orders journaled.2.id event
  let projected : Db := { journaled.1 with orders := orders }
  let projection ← projected.order? observation.orderId
  let ended ← endedUnfilled projection.observation
  if ended then
    some (projected.releaseResting now observation.orderId projection.observation.status)
  else some projected

/-- **`WorkflowStore.observe_orders`**: one transaction for the batch. -/
def observeOrders (digest : OrderObservation → String) (now : Time) (db : Db)
    (observations : List OrderObservation) : Option Db :=
  observations.foldlM (observeOrder digest now) db

/-- The order events of the journal, which is in the order of its ids. -/
def orderEvents (db : Db) : List DomainEvent :=
  db.journal.filter (fun e => e.kind = .orderObserved)

/-- Replaying one event. -/
def replayOrderEvent (orders : List OrderProjection) (event : DomainEvent) :
    Option (List OrderProjection) := do
  let observation ← event.observation
  projectOrder orders event.id observation

/-- **`WorkflowStore.rebuild_order_views`**: the table is emptied and every
journaled observation projected again, in the order of the journal. -/
def rebuildOrderViews (db : Db) : Option Db := do
  let orders ← db.orderEvents.foldlM replayOrderEvent []
  some { db with orders := orders }

/-! ## What the order transactions leave alone -/

theorem keeps_releaseResting (db : Db) (now : Time) (orderId status : String) :
    db.Keeps (db.releaseResting now orderId status) := by
  unfold releaseResting
  split
  · exact Keeps.refl db
  · split
    · exact Keeps.refl db
    · exact (keeps_signals db _ db.signalSeq).trans (keeps_addNotification _ _ _ _)

/-- **What a journaled observation does**: the journal's append, a projection,
and the release when the projected order ended unfilled. -/
theorem observeOrder_eq_some {digest : OrderObservation → String} {now : Time}
    {db db' : Db} {observation : OrderObservation}
    (h : observeOrder digest now db observation = some db') :
    ∃ event orders,
      (db.append ("order/" ++ observation.orderId) .orderObserved (some observation)
          (some ("order/" ++ digest observation))).2.observation = some event
        ∧ projectOrder db.orders
            (db.append ("order/" ++ observation.orderId) .orderObserved (some observation)
              (some ("order/" ++ digest observation))).2.id event = some orders
        ∧ ∃ projected : Db, projected
            = { (db.append ("order/" ++ observation.orderId) .orderObserved
                (some observation) (some ("order/" ++ digest observation))).1 with
                  orders := orders }
          ∧ ∃ projection ended, projected.order? observation.orderId = some projection
            ∧ endedUnfilled projection.observation = some ended
            ∧ db' = if ended then projected.releaseResting now observation.orderId
                projection.observation.status else projected := by
  unfold observeOrder at h
  simp only [Option.bind_eq_bind, Option.bind_eq_some_iff, append_orders] at h
  obtain ⟨event, hevent, orders, horders, projection, hprojection, ended, hended, h⟩ := h
  refine ⟨event, orders, hevent, horders, _, rfl, projection, ended, hprojection,
    hended, ?_⟩
  cases ended <;> simpa using h.symm

theorem keeps_observeOrder {digest : OrderObservation → String} {now : Time}
    {db db' : Db} {observation : OrderObservation}
    (h : observeOrder digest now db observation = some db') : db.Keeps db' := by
  obtain ⟨event, orders, -, -, projected, hp, projection, ended, -, -, rfl⟩ :=
    observeOrder_eq_some h
  have hkeep : db.Keeps projected := by
    rw [hp]
    exact (keeps_append db _ _ _ _).trans (keeps_orders _ _)
  cases ended with
  | false => exact hkeep
  | true => exact hkeep.trans (keeps_releaseResting _ _ _ _)

/-- **The batch rule**: a reflexive and transitive relation that one
observation is in holds across a batch. -/
theorem observeOrders_rel {digest : OrderObservation → String} {now : Time}
    {R : Db → Db → Prop} (hrefl : ∀ db, R db db)
    (htrans : ∀ a b c, R a b → R b c → R a c)
    (hone : ∀ db db' observation, observeOrder digest now db observation = some db' →
      R db db')
    {db db' : Db} {observations : List OrderObservation}
    (h : observeOrders digest now db observations = some db') : R db db' := by
  unfold observeOrders at h
  induction observations generalizing db with
  | nil =>
    obtain rfl : db = db' := by simpa using h
    exact hrefl db
  | cons observation rest ih =>
    rw [List.foldlM_cons, Option.bind_eq_bind, Option.bind_eq_some_iff] at h
    obtain ⟨db₁, h₁, h₂⟩ := h
    exact htrans _ _ _ (hone _ _ _ h₁) (ih h₂)

theorem keeps_observeOrders {digest : OrderObservation → String} {now : Time}
    {db db' : Db} {observations : List OrderObservation}
    (h : observeOrders digest now db observations = some db') : db.Keeps db' :=
  observeOrders_rel Keeps.refl (fun _ _ _ => Keeps.trans)
    (fun _ _ _ => keeps_observeOrder) h

theorem rebuildOrderViews_eq_some {db db' : Db} (h : db.rebuildOrderViews = some db') :
    ∃ orders, db.orderEvents.foldlM replayOrderEvent [] = some orders
      ∧ db' = { db with orders := orders } := by
  unfold rebuildOrderViews at h
  simp only [Option.bind_eq_bind, Option.bind_eq_some_iff] at h
  obtain ⟨orders, ho, h⟩ := h
  exact ⟨orders, ho, by simpa using h.symm⟩

end Db

end AgenticTrader
