import AgenticTrader.Library.Replay
import AgenticTrader.Effects

/-!
# Order views

The broker's reports on an order arrive twice, late, and from two sources.
Each is journaled once, under a digest of its content, and projected onto the
view of its order every time it arrives. A rebuild projects the journal once,
in order. They agree because an event that was journaled has nothing left to
do: it is the row's, or the row has a newer one, or it was refused by a row
that has not changed since (`superseded`). The row changes only by events
newer than all of these.
-/

namespace AgenticTrader

open Table

/-! ## Projecting one event -/

namespace Db

variable {orders orders' : List OrderProjection} {id : ℕ} {o : OrderObservation}

theorem carryParent_orderId (old new : OrderObservation) :
    (carryParent old new).orderId = new.orderId := by
  unfold carryParent
  split <;> rfl

theorem carryParent_updatedAt (old new : OrderObservation) :
    (carryParent old new).updatedAt = new.updatedAt := by
  unfold carryParent
  split <;> rfl

theorem carryParent_filledQuantity (old new : OrderObservation) :
    (carryParent old new).filledQuantity = new.filledQuantity := by
  unfold carryParent
  split <;> rfl

/-- **What a projection does**: a first row, a refusal, or a newer row. -/
theorem projectOrder_cases (h : projectOrder orders id o = some orders') :
    (orders.find? (fun r => r.orderId == o.orderId) = none
        ∧ orders' = orders ++ [⟨o.orderId, id, o⟩])
      ∨ ∃ previous, orders.find? (fun r => r.orderId == o.orderId) = some previous
        ∧ (superseded previous id o = some true ∧ orders' = orders
          ∨ superseded previous id o = some false
            ∧ orders' = updateWhere (fun r => r.orderId == o.orderId)
              (projected id o) orders) := by
  unfold projectOrder at h
  split at h
  · rename_i hf
    exact Or.inl ⟨hf, (Option.some.inj h).symm⟩
  · rename_i previous hf
    obtain ⟨refused, hr, rfl⟩ := Option.map_eq_some_iff.mp h
    refine Or.inr ⟨previous, hf, ?_⟩
    cases refused with
    | true => exact Or.inl ⟨hr, rfl⟩
    | false => exact Or.inr ⟨hr, rfl⟩

theorem projectOrder_of_find?_none
    (hf : orders.find? (fun r => r.orderId == o.orderId) = none) :
    projectOrder orders id o = some (orders ++ [⟨o.orderId, id, o⟩]) := by
  unfold projectOrder
  rw [hf]

theorem projectOrder_of_find?_some {previous : OrderProjection} {refused : Bool}
    (hf : orders.find? (fun r => r.orderId == o.orderId) = some previous)
    (hs : superseded previous id o = some refused) :
    projectOrder orders id o = some (if refused then orders
      else updateWhere (fun r => r.orderId == o.orderId) (projected id o) orders) := by
  unfold projectOrder
  rw [hf]
  dsimp only
  rw [hs]
  rfl

/-- An accepted event is newer in every respect. -/
theorem superseded_eq_false {previous : OrderProjection}
    (h : superseded previous id o = some false) :
    previous.eventId < id
      ∧ o.updatedAt.lt? previous.observation.updatedAt = some false
      ∧ decimalLt o.filledQuantity previous.observation.filledQuantity = some false := by
  unfold superseded at h
  split at h
  · cases h
  · rename_i hid
    simp only [Option.bind_eq_bind, Option.bind_eq_some_iff] at h
    obtain ⟨older, ho, h⟩ := h
    cases older with
    | true => cases h
    | false => exact ⟨Nat.lt_of_not_le hid, ho, h⟩

theorem superseded_of_le {previous : OrderProjection} (h : id ≤ previous.eventId) :
    superseded previous id o = some true := by
  unfold superseded
  rw [if_pos h]

/-- The row of a projected order. -/
theorem find?_projected_self (orders : List OrderProjection) (id : ℕ)
    (o : OrderObservation) :
    (updateWhere (fun r => r.orderId == o.orderId) (projected id o) orders).find?
        (fun r => r.orderId == o.orderId)
      = (orders.find? (fun r => r.orderId == o.orderId)).map (projected id o) :=
  @find?_updateWhere_self _ _ (projected id o) orders (fun r => r.orderId) _ o.orderId
    (fun _ => rfl)

/-- The row of another order. -/
theorem find?_projected_ne (orders : List OrderProjection) (id : ℕ) {o : OrderObservation}
    {k : String} (h : k ≠ o.orderId) :
    (updateWhere (fun r => r.orderId == o.orderId) (projected id o) orders).find?
        (fun r => r.orderId == k)
      = orders.find? (fun r => r.orderId == k) :=
  @find?_updateWhere_ne _ _ (projected id o) orders (fun r => r.orderId) _ o.orderId k h
    (fun _ => rfl)

/-- **An event has nothing left to do exactly when its row refuses it.** -/
theorem projectOrder_settled :
    projectOrder orders id o = some orders
      ↔ ∃ previous, orders.find? (fun r => r.orderId == o.orderId) = some previous
        ∧ superseded previous id o = some true := by
  constructor
  · intro h
    rcases projectOrder_cases h with ⟨-, he⟩ | ⟨previous, hf, ⟨hs, -⟩ | ⟨hs, he⟩⟩
    · have hl := congrArg List.length he
      simp at hl
    · exact ⟨previous, hf, hs⟩
    · -- an accepted event changes the row's event id
      have hf' := find?_projected_self orders id o
      rw [← he, hf] at hf'
      have hid := congrArg OrderProjection.eventId (Option.some.inj hf')
      exact absurd hid (superseded_eq_false hs).1.ne
  · rintro ⟨previous, hf, hs⟩
    exact projectOrder_of_find?_some hf hs

/-- An event just projected has nothing left to do. -/
theorem projectOrder_self (h : projectOrder orders id o = some orders') :
    projectOrder orders' id o = some orders' := by
  rw [projectOrder_settled]
  rcases projectOrder_cases h with ⟨hf, rfl⟩ | ⟨previous, hf, ⟨hs, rfl⟩ | ⟨hs, rfl⟩⟩
  · refine ⟨⟨o.orderId, id, o⟩, ?_, superseded_of_le le_rfl⟩
    rw [List.find?_append, hf]
    simp
  · exact ⟨previous, hf, hs⟩
  · refine ⟨projected id o previous, ?_, superseded_of_le le_rfl⟩
    rw [find?_projected_self, hf]
    rfl

/-- **A newer event leaves every older one with nothing to do.** -/
theorem projectOrder_keeps_settled {n : ℕ} {new : OrderObservation}
    (hs : projectOrder orders id o = some orders) (hle : id ≤ n)
    (h : projectOrder orders n new = some orders') :
    projectOrder orders' id o = some orders' := by
  rw [projectOrder_settled] at hs ⊢
  obtain ⟨previous, hf, hsup⟩ := hs
  rcases projectOrder_cases h with ⟨hfn, rfl⟩ | ⟨row, hrow, ⟨-, rfl⟩ | ⟨-, rfl⟩⟩
  · exact ⟨previous, by rw [List.find?_append, hf]; rfl, hsup⟩
  · exact ⟨previous, hf, hsup⟩
  · by_cases hk : o.orderId = new.orderId
    · refine ⟨projected n new previous, ?_, superseded_of_le hle⟩
      rw [hk] at hf ⊢
      rw [find?_projected_self, hf]
      rfl
    · refine ⟨previous, ?_, hsup⟩
      rw [find?_projected_ne orders n hk]
      exact hf

/-! ## Keys and growth -/

/-- Views are told apart by their order, and each is of the order it is
stored under. -/
structure ViewKeys (orders : List OrderProjection) : Prop where
  nodup : (orders.map (·.orderId)).Nodup
  own : ∀ r ∈ orders, r.observation.orderId = r.orderId

theorem projectOrder_keys (h : projectOrder orders id o = some orders')
    (hk : ViewKeys orders) : ViewKeys orders' := by
  rcases projectOrder_cases h with ⟨hf, rfl⟩ | ⟨previous, hf, ⟨-, rfl⟩ | ⟨-, rfl⟩⟩
  · refine ⟨nodup_map_append_singleton hk.nodup (fun r hr => ?_), fun r hr => ?_⟩
    · simpa using List.find?_eq_none.mp hf r hr
    · rcases List.mem_append.mp hr with hr | hr
      · exact hk.own r hr
      · rw [List.mem_singleton.mp hr]
  · exact hk
  · refine ⟨?_, fun r hr => ?_⟩
    · have hm : (updateWhere (fun r => r.orderId == o.orderId) (projected id o) orders).map
          (·.orderId) = orders.map (·.orderId) :=
        map_updateWhere (fun r : OrderProjection => r.orderId) (fun _ _ => rfl)
      rw [hm]
      exact hk.nodup
    · obtain ⟨r₀, hr₀, rfl⟩ := mem_updateWhere.mp hr
      split
      · rename_i hid
        rw [projected, carryParent_orderId]
        exact (by simpa using hid : r₀.orderId = o.orderId).symm
      · exact hk.own r₀ hr₀

/-- A report that is neither older nor smaller. -/
structure NotBefore (old new : OrderObservation) : Prop where
  updatedAt : new.updatedAt.lt? old.updatedAt = some false
  filledQuantity : decimalLt new.filledQuantity old.filledQuantity = some false

theorem decimalLt_false_trans {a b c : String} (hab : decimalLt a b = some false)
    (hbc : decimalLt b c = some false) : decimalLt a c = some false := by
  unfold decimalLt at *
  simp only [Option.bind_eq_bind, Option.bind_eq_some_iff] at *
  obtain ⟨x, hx, y, hy, hxy⟩ := hab
  obtain ⟨y', hy', z, hz, hyz⟩ := hbc
  obtain rfl := Option.some.inj (hy.symm.trans hy')
  exact ⟨x, hx, z, hz, WireDecimal.lt?_false_trans hxy hyz⟩

theorem NotBefore.trans {a b c : OrderObservation} (hab : NotBefore a b)
    (hbc : NotBefore b c) : NotBefore a c :=
  ⟨WireTime.lt?_false_trans hbc.updatedAt hab.updatedAt,
    decimalLt_false_trans hbc.filledQuantity hab.filledQuantity⟩

/-- **Views only advance**: the view of an order stays, as it is or newer. -/
def Advance (orders orders' : List OrderProjection) : Prop :=
  ∀ r ∈ orders, ∃ r' ∈ orders', r'.orderId = r.orderId
    ∧ (r' = r ∨ NotBefore r.observation r'.observation)

theorem Advance.refl (orders : List OrderProjection) : Advance orders orders :=
  fun r hr => ⟨r, hr, rfl, Or.inl rfl⟩

theorem Advance.trans {a b c : List OrderProjection} (hab : Advance a b)
    (hbc : Advance b c) : Advance a c := by
  intro r hr
  obtain ⟨r₁, hr₁, hk₁, h₁⟩ := hab r hr
  obtain ⟨r₂, hr₂, hk₂, h₂⟩ := hbc r₁ hr₁
  refine ⟨r₂, hr₂, hk₂.trans hk₁, ?_⟩
  rcases h₁ with rfl | h₁
  · exact h₂
  · rcases h₂ with rfl | h₂
    · exact Or.inr h₁
    · exact Or.inr (h₁.trans h₂)

theorem projectOrder_advance (h : projectOrder orders id o = some orders')
    (hk : ViewKeys orders) : Advance orders orders' := by
  rcases projectOrder_cases h with ⟨hf, rfl⟩ | ⟨previous, hf, ⟨-, rfl⟩ | ⟨hs, rfl⟩⟩
  · exact fun r hr => ⟨r, List.mem_append_left _ hr, rfl, Or.inl rfl⟩
  · exact Advance.refl orders'
  · intro r hr
    by_cases hid : r.orderId = o.orderId
    · obtain rfl : r = previous := by
        rw [find?_some_iff_of_nodup hk.nodup] at hf
        exact eq_of_key hk.nodup hr hf.1 (hid.trans hf.2.symm)
      obtain ⟨-, ht, hq⟩ := superseded_eq_false hs
      refine ⟨projected id o r, mem_updateWhere.mpr ⟨r, hr, by simp [hid]⟩, rfl,
        Or.inr ⟨?_, ?_⟩⟩
      · rw [projected, carryParent_updatedAt]
        exact ht
      · rw [projected, carryParent_filledQuantity]
        exact hq
    · exact ⟨r, mem_updateWhere_of_not hr (beq_eq_false_iff_ne.mpr hid), rfl, Or.inl rfl⟩

/-! ## Transactions that observe no order -/

theorem journaled_insertSignal (db : Db) (now : Time) (card : CardFields)
    (reprices : Option SignalId) (notify : Bool) :
    db.Journaled (db.insertSignal now card reprices notify).1 := by
  have h : db.Journaled { db with
      signals := db.signals ++ [db.newSignal now card reprices]
      signalSeq := db.signalSeq + 1 } := .of_same rfl rfl le_rfl
  unfold insertSignal
  cases notify with
  | false => exact h
  | true => exact h.trans (journaled_addNotification _ _ _ _)

theorem journaled_leavePending (db : Db) (id : SignalId) (status : SignalStatus) :
    db.Journaled (db.leavePending id status).1 :=
  .of_same rfl rfl le_rfl

theorem journaled_replaceSignal (db : Db) (now : Time) (oldId : SignalId)
    (card : CardFields) : db.Journaled (db.replaceSignal now oldId card).1 := by
  unfold replaceSignal
  dsimp only
  split
  · exact (journaled_leavePending db oldId .expired).trans
      (journaled_insertSignal (db.leavePending oldId .expired).1 now card (some oldId) true)
  · exact Journaled.refl db

theorem journaled_expireStaleSignals (db : Db) (cfg : Config) (now clock : Time)
    (configured : String → Bool) :
    db.Journaled (db.expireStaleSignals cfg now clock configured).1 :=
  expireStaleSignals_rel Journaled.refl (fun _ _ _ => Journaled.trans)
    (fun db id _ _ _ => (journaled_leavePending db id .expired).trans
      (journaled_addNotification _ _ _ _))
    db cfg now clock configured

theorem journaled_saveExitOrder (db : Db) (record : CloseRequest)
    (status : CloseRequestStatus) (result : OrderResult) :
    db.Journaled (db.saveExitOrder record status result) := by
  unfold saveExitOrder
  split
  · split
    · exact Journaled.refl db
    · split <;> exact .of_same rfl rfl le_rfl
  · exact Journaled.refl db

theorem journaled_updateSignalExecution (db : Db) (now : Time) (id : SignalId)
    (u : ExecutionUpdate) : db.Journaled (db.updateSignalExecution now id u) := by
  have h : db.Journaled
      { db with signals := updateWhere (syncable id) (syncFill u) db.signals } :=
    .of_same rfl rfl le_rfl
  unfold updateSignalExecution
  dsimp only
  split
  · exact h
  · split
    · exact h.trans (journaled_addNotification _ _ _ _)
    · exact h

theorem journaled_updatePositionStop (db : Db) (now : Time) (id : SignalId) (newStop : ℚ)
    (notify : Bool) : db.Journaled (db.updatePositionStop now id newStop notify).1 := by
  have h : db.Journaled
      { db with
        signals := updateWhere (tightens id newStop)
          (fun s => { s with stopLoss := newStop }) db.signals } := .of_same rfl rfl le_rfl
  unfold updatePositionStop
  dsimp only
  split
  · exact h.trans (journaled_addNotification _ _ _ _)
  · exact h

theorem journaled_closePosition (db : Db) (now : Time) (id : SignalId)
    (status : SignalStatus) (brokerExitOrderId : Option String) :
    db.Journaled (db.closePosition now id status brokerExitOrderId).1 := by
  unfold closePosition
  dsimp only
  split
  · refine Logs.journaled (Logs.trans (logs_append_key _ _ _ ?_ ?_)
      (logs_addNotification _ _ _ _)) rfl rfl le_rfl
    · decide
    · refine ne_order_key (c := 's') ?_ (by decide)
      simp only [String.toList_append, List.append_assoc]
      rfl
  · exact Journaled.refl db

theorem journaled_missedBound (db : Db) (now : Time) (signalId : SignalId)
    (symbol : Option String) : db.Journaled (db.missedBound now signalId symbol) := by
  refine Logs.journaled (Logs.trans (logs_append_key _ _ _ ?_ ?_)
    (logs_addNotification _ _ _ _)) rfl rfl le_rfl
  · decide
  · refine ne_order_key (c := 'e') ?_ (by decide)
    simp only [String.toList_append]
    rfl

end Db

section

variable {env : Env} {op : Op} {db db' : Db}

/-- **Only an observation or a rebuild touches the views.** -/
theorem Transaction.journaled (h : Transaction env op db db')
    (ho : op ≠ .observeOrders) (hr : op ≠ .rebuildOrderViews) : db.Journaled db' := by
  cases h with
  | recordSignal now card notify => exact db.journaled_insertSignal now card none notify
  | dismissSignal id => exact db.journaled_leavePending id .dismissed
  | expireSignal id => exact db.journaled_leavePending id .expired
  | replaceSignal now oldId card => exact db.journaled_replaceSignal now oldId card
  | expireStaleSignals now clock configured =>
    exact db.journaled_expireStaleSignals env.cfg now clock configured
  | enqueueEntry ev now request trigger =>
    rcases Db.enqueueEntry_cases db env.cfg ev now request trigger with he | ⟨-, he⟩
    · rw [he]
      exact Db.Journaled.refl db
    · rw [he]
      exact (Db.queueEntry_logs db env.cfg now request trigger).journaled rfl rfl
        (Nat.le_succ _)
  | claimEntry now =>
    rcases Db.claimEntry_cases db env.cfg.entryPreflightLease now with
      he | ⟨row, -, -, -, hl⟩
    · rw [he]
      exact Db.Journaled.refl db
    · exact hl.journaled rfl rfl le_rfl
  | beginSubmission ev r c t₀ t₁ t₂ item =>
    rcases Db.beginSubmission_cases db env.cfg ev r c t₀ t₁ t₂ item with
      ⟨reason, he⟩ | ⟨-, he⟩
    · rw [he]
      exact Db.Journaled.refl db
    · rw [he]
      exact (Db.markSubmitting_logs db item).journaled rfl rfl le_rfl
  | resolveEntry now item result recovery =>
    rcases Db.resolveEntry_cases db env.cfg now item result recovery with
      he | ⟨row, -, he⟩
    · rw [he]
      exact Db.Journaled.refl db
    · obtain ⟨reason, hl⟩ := Db.settleEntry_logs db env.cfg now row item result
      rw [he]
      have ht : db.Journaled (db.settledTables row item result) :=
        Db.Journaled.of_same rfl rfl le_rfl
      exact (ht.trans (Db.journaled_haltIfUnknown _ _ _)).trans hl.toJournaled
  | beginCancel due now id identity orders lifetime cause answer h =>
    rcases Db.beginCancel_cases h with ⟨rfl, -⟩ | ⟨-, rfl, -⟩
    · exact Db.Journaled.refl db'
    · exact (Db.claimCancel_logs db env.cfg now id identity orders cause).journaled rfl rfl
        le_rfl
  | resolveCancel now item orders reason transportError allowPending resolved h =>
    obtain ⟨complete, -, rfl | ⟨row, filledFirst, result, -, -, -, -, rfl⟩⟩ :=
      Db.resolveCancel_cases h
    · exact Db.Journaled.refl db'
    · obtain ⟨journaled, reason, hj, hl⟩ :=
        Db.settleCancel_logs db env.cfg now row item complete filledFirst result
      have ht : db.Journaled (db.cancelledTables row item complete filledFirst result) :=
        Db.Journaled.of_same rfl rfl le_rfl
      exact ((ht.trans hj.toJournaled).trans (Db.journaled_haltIfUnknown _ _ _)).trans
        hl.toJournaled
  | observeOrders now observations h => exact absurd rfl ho
  | rebuildOrderViews h => exact absurd rfl hr
  | review now signalId reason =>
    obtain ⟨text, hl⟩ := Db.review_logs db now signalId reason
    exact hl.journaled rfl rfl le_rfl
  | missedBound now signalId symbol => exact db.journaled_missedBound now signalId symbol
  | setTradingHalted value => exact .of_same rfl rfl le_rfl
  | setTradingHaltReason value => exact .of_same rfl rfl le_rfl
  | claimCloseRequest now values claimed record h =>
    rcases Db.claimCloseRequest_cases h with ⟨rfl, -⟩ | ⟨-, -, -, -, -, -, hl⟩
    · exact Db.Journaled.refl db'
    · exact hl.journaled rfl rfl le_rfl
  | saveExitOrder record status result =>
    exact db.journaled_saveExitOrder record status result
  | updateCloseRequest now id status detail brokerOrderId =>
    rcases Db.updateCloseRequest_cases db now id status detail brokerOrderId with he | hl
    · rw [he]
      exact Db.Journaled.refl db
    · exact hl.journaled rfl rfl le_rfl
  | updateSignalExecution now id u => exact db.journaled_updateSignalExecution now id u
  | updatePositionStop now id newStop notify =>
    exact db.journaled_updatePositionStop now id newStop notify
  | closePosition now id status exit hc => exact db.journaled_closePosition now id status exit

end

/-! ## The journal and the views -/

namespace Db

variable {digest : OrderObservation → String} {db db' : Db}

/-- **The invariant of the order views**: they are what the journal replays
to, every order event is keyed by the digest of its observation, and no other
event has such a key. -/
structure OrderInv (digest : OrderObservation → String) (db : Db) : Prop where
  replays : Replays replayOrderEvent [] db.orderEvents db.orders
  ids_le : ∀ e ∈ db.journal, e.id ≤ db.eventSeq
  keyed : ∀ e ∈ db.journal, ∀ d, e.eventKey = some ("order/" ++ d) →
    e.kind = .orderObserved
  digests : ∀ e ∈ db.orderEvents, ∃ o, e.observation = some o
    ∧ e.eventKey = some ("order/" ++ digest o)
  keys : ViewKeys db.orders
  events_le : ∀ r ∈ db.orders, r.eventId ≤ db.eventSeq
  seen : ∀ r ∈ db.orders, ∃ e ∈ db.orderEvents, ∃ o, e.observation = some o
    ∧ o.orderId = r.orderId

theorem orderInv_empty (digest : OrderObservation → String) : OrderInv digest empty where
  replays := Replays.nil
  ids_le := fun e he => by cases he
  keyed := fun e he => by cases he
  digests := fun e he => by cases he
  keys := ⟨List.nodup_nil, fun r hr => by cases hr⟩
  events_le := fun r hr => by cases hr
  seen := fun r hr => by cases hr

theorem Journaled.orderEvents (h : db.Journaled db') : db'.orderEvents = db.orderEvents := by
  obtain ⟨new, hj, hn⟩ := h.journal
  have hnil : new.filter (fun e => e.kind = .orderObserved) = [] :=
    List.filter_eq_nil_iff.mpr (fun e he => by simpa using (hn e he).1)
  unfold Db.orderEvents
  rw [hj, List.filter_append, hnil, List.append_nil]

/-- A transaction that observes no order keeps the invariant. -/
theorem OrderInv.of_journaled (hi : OrderInv digest db) (h : db.Journaled db') :
    OrderInv digest db' := by
  obtain ⟨new, hj, hn⟩ := h.journal
  constructor
  · rw [h.orderEvents, h.orders]
    exact hi.replays
  · intro e he
    rw [hj, List.mem_append] at he
    rcases he with he | he
    · exact (hi.ids_le e he).trans h.grows
    · exact (hn e he).2.2
  · intro e he d hd
    rw [hj, List.mem_append] at he
    rcases he with he | he
    · exact hi.keyed e he d hd
    · exact absurd hd ((hn e he).2.1 d)
  · rw [h.orderEvents]
    exact hi.digests
  · rw [h.orders]
    exact hi.keys
  · intro r hr
    rw [h.orders] at hr
    exact (hi.events_le r hr).trans h.grows
  · rw [h.orders, h.orderEvents]
    exact hi.seen

theorem projectOrder_events_le {orders orders' : List OrderProjection} {id n : ℕ}
    {o : OrderObservation} (h : projectOrder orders id o = some orders') (hid : id ≤ n)
    (hr : ∀ r ∈ orders, r.eventId ≤ n) : ∀ r ∈ orders', r.eventId ≤ n := by
  rcases projectOrder_cases h with ⟨-, rfl⟩ | ⟨previous, -, ⟨-, rfl⟩ | ⟨-, rfl⟩⟩
  · intro r hm
    rcases List.mem_append.mp hm with hm | hm
    · exact hr r hm
    · rw [List.mem_singleton.mp hm]
      exact hid
  · exact hr
  · intro r hm
    obtain ⟨r₀, hm₀, rfl⟩ := mem_updateWhere.mp hm
    split
    · exact hid
    · exact hr r₀ hm₀

/-- A row after a projection is of an order that had one, or of the event's. -/
theorem projectOrder_mem {orders orders' : List OrderProjection} {id : ℕ}
    {o : OrderObservation} {r : OrderProjection}
    (h : projectOrder orders id o = some orders') (hr : r ∈ orders') :
    (∃ r₀ ∈ orders, r₀.orderId = r.orderId) ∨ o.orderId = r.orderId := by
  rcases projectOrder_cases h with ⟨-, rfl⟩ | ⟨previous, -, ⟨-, rfl⟩ | ⟨-, rfl⟩⟩
  · rcases List.mem_append.mp hr with hr | hr
    · exact Or.inl ⟨r, hr, rfl⟩
    · rw [List.mem_singleton.mp hr]
      exact Or.inr rfl
  · exact Or.inl ⟨r, hr, rfl⟩
  · obtain ⟨r₀, hr₀, rfl⟩ := mem_updateWhere.mp hr
    refine Or.inl ⟨r₀, hr₀, ?_⟩
    split <;> rfl

/-- The event journaled for an observation, and the views it is projected
to. -/
def appended (db : Db) (o : OrderObservation) (orders : List OrderProjection)
    (digest : OrderObservation → String) : Db :=
  { db with
    journal := db.journal ++
      [⟨db.eventSeq + 1, "order/" ++ o.orderId, .orderObserved,
        some ("order/" ++ digest o), some o⟩]
    eventSeq := db.eventSeq + 1
    orders := orders }

theorem appended_orderEvents (o : OrderObservation) (orders : List OrderProjection) :
    (db.appended o orders digest).orderEvents = db.orderEvents ++
      [⟨db.eventSeq + 1, "order/" ++ o.orderId, .orderObserved,
        some ("order/" ++ digest o), some o⟩] := by
  unfold Db.orderEvents appended
  rw [List.filter_append]
  rfl

/-- **A new event** keeps the invariant. -/
theorem OrderInv.appended (hi : OrderInv digest db) {o : OrderObservation}
    {orders : List OrderProjection}
    (hp : projectOrder db.orders (db.eventSeq + 1) o = some orders) :
    OrderInv digest (db.appended o orders digest) := by
  constructor
  · rw [appended_orderEvents]
    refine hi.replays.append hp (projectOrder_self hp) (fun x hx hs => ?_)
    -- an older event is settled, and stays so
    obtain ⟨ox, hox, -⟩ := hi.digests x hx
    unfold replayOrderEvent at hs ⊢
    rw [hox] at hs ⊢
    exact projectOrder_keeps_settled hs
      ((hi.ids_le x (List.mem_of_mem_filter hx)).trans (Nat.le_succ _)) hp
  · intro e he
    rcases List.mem_append.mp he with he | he
    · exact (hi.ids_le e he).trans (Nat.le_succ _)
    · rw [List.mem_singleton.mp he]
      exact le_rfl
  · intro e he d hd
    rcases List.mem_append.mp he with he | he
    · exact hi.keyed e he d hd
    · rw [List.mem_singleton.mp he]
  · intro e he
    rw [appended_orderEvents, List.mem_append] at he
    rcases he with he | he
    · exact hi.digests e he
    · rw [List.mem_singleton.mp he]
      exact ⟨o, rfl, rfl⟩
  · exact projectOrder_keys hp hi.keys
  · exact projectOrder_events_le hp le_rfl
      (fun r hr => (hi.events_le r hr).trans (Nat.le_succ _))
  · intro r hr
    rw [appended_orderEvents]
    rcases projectOrder_mem hp hr with ⟨r₀, hr₀, hk⟩ | hk
    · obtain ⟨e, he, x, hx, hxk⟩ := hi.seen r₀ hr₀
      exact ⟨e, List.mem_append_left _ he, x, hx, hxk.trans hk⟩
    · exact ⟨_, List.mem_append_right _ (List.mem_singleton_self _), o, rfl, hk⟩

theorem journaled_releaseResting (db : Db) (now : Time) (orderId status : String) :
    db.Journaled (db.releaseResting now orderId status) := by
  unfold releaseResting
  split
  · exact Journaled.refl db
  · split
    · exact Journaled.refl db
    · exact (logs_addNotification _ _ _ _).journaled rfl rfl le_rfl

/-- **What an observation does to the journal and the views**: one that was
journaled before does nothing to them, and a new one is journaled and
projected. -/
theorem observeOrder_cases {now : Time} {o : OrderObservation}
    (h : observeOrder digest now db o = some db') (hi : OrderInv digest db) :
    (db.Journaled db' ∧ ∃ e ∈ db.orderEvents, ∃ x, e.observation = some x
        ∧ digest x = digest o)
      ∨ ∃ orders, projectOrder db.orders (db.eventSeq + 1) o = some orders
        ∧ (db.appended o orders digest).Journaled db' := by
  obtain ⟨event, orders, hevent, horders, projected, hp, projection, ended, -, -, rfl⟩ :=
    observeOrder_eq_some h
  have hrelease : projected.Journaled (if ended then projected.releaseResting now o.orderId
      projection.observation.status else projected) := by
    cases ended with
    | false => exact Journaled.refl projected
    | true => exact journaled_releaseResting _ _ _ _
  rcases append_cases db ("order/" ++ o.orderId) .orderObserved (some o)
    (some ("order/" ++ digest o)) with ⟨e, he, k, hk, hek, happ⟩ | happ
  · rw [happ] at hevent horders hp
    have hkind : e.kind = .orderObserved :=
      hi.keyed e he (digest o) (by rw [hek, ← hk])
    have hmem : e ∈ db.orderEvents := List.mem_filter.mpr ⟨he, by simpa using hkind⟩
    obtain ⟨x, hx, hxk⟩ := hi.digests e hmem
    have hsame : orders = db.orders :=
      hi.replays.again hmem (by unfold replayOrderEvent; rw [hevent]; exact horders)
    obtain rfl : projected = db := by rw [hp, hsame]
    refine Or.inl ⟨hrelease, e, hmem, x, hx, ?_⟩
    have hkey : "order/" ++ digest x = "order/" ++ digest o :=
      Option.some.inj (hxk.symm.trans (hek.trans hk.symm))
    exact String.append_right_inj _ |>.mp hkey
  · rw [happ] at hevent horders hp
    cases hevent
    refine Or.inr ⟨orders, horders, ?_⟩
    rw [hp] at hrelease ⊢
    exact hrelease

/-- **An observation keeps the invariant, and the views only advance.** -/
theorem observeOrder_views {now : Time} {o : OrderObservation}
    (h : observeOrder digest now db o = some db') (hi : OrderInv digest db) :
    OrderInv digest db' ∧ Advance db.orders db'.orders := by
  rcases observeOrder_cases h hi with ⟨hj, -⟩ | ⟨orders, hp, hj⟩
  · refine ⟨hi.of_journaled hj, ?_⟩
    rw [hj.orders]
    exact Advance.refl db.orders
  · refine ⟨(hi.appended hp).of_journaled hj, ?_⟩
    rw [hj.orders]
    exact projectOrder_advance hp hi.keys

theorem observeOrders_views {now : Time} {observations : List OrderObservation}
    (h : observeOrders digest now db observations = some db') (hi : OrderInv digest db) :
    OrderInv digest db' ∧ Advance db.orders db'.orders := by
  refine observeOrders_rel (R := fun db db' => OrderInv digest db →
    OrderInv digest db' ∧ Advance db.orders db'.orders)
    (fun db hi => ⟨hi, Advance.refl _⟩) (fun a b c hab hbc hi => ?_)
    (fun _ _ _ h hi => observeOrder_views h hi) h hi
  obtain ⟨hb, hadv⟩ := hab hi
  exact ⟨(hbc hb).1, hadv.trans (hbc hb).2⟩

/-- **A rebuild changes nothing.** -/
theorem OrderInv.rebuildOrderViews (hi : OrderInv digest db) :
    db.rebuildOrderViews = some db := by
  unfold Db.rebuildOrderViews
  rw [hi.replays.replay]
  rfl

end Db

/-- The views replay in every reachable state. -/
theorem orderInv_of_reachable (env : Env) {w : World Db Proc Mark}
    (h : (trader env).Reachable w) : w.store.OrderInv env.digest := by
  refine Program.store_invariant (J := fun db _ => db.OrderInv env.digest)
    (Db.orderInv_empty env.digest) ?_ h
  rintro w i marks d p - hi ⟨op, calls, ha, -⟩
  rcases ha.transaction with rfl | ht
  · exact hi
  · by_cases ho : op = .observeOrders
    · subst ho
      cases ht with
      | observeOrders now observations h => exact (Db.observeOrders_views h hi).1
    · by_cases hr : op = .rebuildOrderViews
      · subst hr
        cases ht with
        | rebuildOrderViews h =>
          rw [hi.rebuildOrderViews] at h
          rw [← Option.some.inj h]
          exact hi
      · exact hi.of_journaled (ht.journaled ho hr)

/-! ## Replay -/

/-- **A sequence of `observe_orders` calls.** One that raises is rolled
back. -/
def Db.observeBatches (digest : OrderObservation → String) (db : Db)
    (batches : List (Time × List OrderObservation)) : Db :=
  batches.foldl (fun db b => (observeOrders digest b.1 db b.2).getD db) db

theorem Db.observeBatches_views {digest : OrderObservation → String} {db : Db}
    (hi : db.OrderInv digest) (batches : List (Time × List OrderObservation)) :
    (db.observeBatches digest batches).OrderInv digest
      ∧ Advance db.orders (db.observeBatches digest batches).orders := by
  unfold observeBatches
  induction batches generalizing db with
  | nil => exact ⟨hi, Advance.refl _⟩
  | cons b batches ih =>
    rw [List.foldl_cons]
    cases h : observeOrders digest b.1 db b.2 with
    | none => exact ih hi
    | some db₁ =>
      obtain ⟨hi₁, hadv⟩ := observeOrders_views h hi
      exact ⟨(ih hi₁).1, hadv.trans (ih hi₁).2⟩

/-- **Order views replay exactly.** From any reachable state, after any
sequence of batches, a rebuild from the journal leaves the views as they are,
row by row; and between any two points of the sequence every view stays, as
it is or with a later time and a larger quantity. -/
theorem order_views_replay (env : Env) {w : World Db Proc Mark}
    (h : (trader env).Reachable w) (batches : List (Time × List OrderObservation)) :
    (w.store.observeBatches env.digest batches).rebuildOrderViews
        = some (w.store.observeBatches env.digest batches)
      ∧ ∀ before after, batches = before ++ after →
        Db.Advance (w.store.observeBatches env.digest before).orders
          (w.store.observeBatches env.digest batches).orders := by
  have hi := orderInv_of_reachable env h
  refine ⟨(Db.observeBatches_views hi batches).1.rebuildOrderViews, ?_⟩
  rintro before after rfl
  have hb := (Db.observeBatches_views hi before).1
  have hsplit : w.store.observeBatches env.digest (before ++ after)
      = (w.store.observeBatches env.digest before).observeBatches env.digest after :=
    List.foldl_append
  rw [hsplit]
  exact (Db.observeBatches_views hb after).2

/-- An order of ten shares, as the broker reported it at some time. -/
def sampleObservation (status filledQuantity : String) (updatedAt : ℤ) :
    OrderObservation where
  orderId := "o-1"
  clientOrderId := "c-1"
  symbol := "SPY"
  side := "buy"
  status := status
  quantity := "10"
  filledQuantity := filledQuantity
  orderType := "limit"
  orderClass := "bracket"
  updatedAt := .aware updatedAt

/-- The fill arrives before the acknowledgement, and twice. -/
def sampleBatches : List (Time × List OrderObservation) :=
  [(1, [sampleObservation "filled" "10" 7]), (2, [sampleObservation "new" "0" 3]),
    (3, [sampleObservation "filled" "10" 7])]

theorem order_views_replay_sample :
    (Db.empty.observeBatches sampleEnv.digest sampleBatches).orders.length = 1
      ∧ (Db.empty.observeBatches sampleEnv.digest sampleBatches).orderEvents.length = 2
      ∧ (Db.empty.observeBatches sampleEnv.digest sampleBatches).rebuildOrderViews
        = some (Db.empty.observeBatches sampleEnv.digest sampleBatches) :=
  ⟨by decide +kernel, by decide +kernel,
    (order_views_replay sampleEnv (reachable_empty sampleEnv) sampleBatches).1⟩

end AgenticTrader
