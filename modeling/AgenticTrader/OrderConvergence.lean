import AgenticTrader.OrderViews
import Mathlib.Data.Finset.Lattice.Lemmas

/-!
# Convergence of an order's view

What the broker truthfully reported on one order is a chain: every report has
its own time, and a later one has filled no less. Whatever order the reports
arrive in, and however often, the view ends at the last of the chain. A first
arrival of the latest report so far is newer in every respect that a view
checks; and anything else is older than the view, or was journaled before it.
-/

namespace AgenticTrader

open Table Db

/-- **A broker-consistent set of reports on one order**: the quantities are
numbers, the times are distinct and comparable, and the filled quantity does
not decrease with them. -/
structure BrokerConsistent (orderId : String) (reports : Finset OrderObservation) : Prop where
  order : ∀ o ∈ reports, o.orderId = orderId
  numeric : ∀ o ∈ reports, decimalLt o.filledQuantity o.filledQuantity = some false
  times : ∀ a ∈ reports, ∀ b ∈ reports, a ≠ b →
    a.updatedAt.lt? b.updatedAt = some true ∨ b.updatedAt.lt? a.updatedAt = some true
  filled : ∀ a ∈ reports, ∀ b ∈ reports, a.updatedAt.lt? b.updatedAt = some true →
    decimalLt b.filledQuantity a.filledQuantity = some false

/-- The observations the journal holds. -/
def Db.observed (db : Db) : List OrderObservation :=
  db.orderEvents.filterMap (·.observation)

/-- `digest` tells the reports apart from each other and from what the
journal holds. -/
def CollisionFree (digest : OrderObservation → String) (db : Db)
    (reports : Finset OrderObservation) : Prop :=
  ∀ a ∈ reports, ∀ b, b ∈ reports ∨ b ∈ db.observed → digest a = digest b → a = b

/-! ## Comparisons on a chain -/

/-- An unfilled end is decided on every number. -/
theorem endedUnfilled_isSome {o : OrderObservation}
    (h : decimalLt o.filledQuantity o.filledQuantity = some false) :
    ∃ ended, endedUnfilled o = some ended := by
  unfold endedUnfilled
  split
  · unfold decimalLt at h
    simp only [Option.bind_eq_bind, Option.bind_eq_some_iff] at h
    obtain ⟨x, hx, y, -, hlt⟩ := h
    have hzero : WireDecimal.ofString? "0" = some (.finite 0) := by decide +kernel
    unfold decimalEq
    rw [hx, hzero]
    cases x with
    | finite q => exact ⟨_, rfl⟩
    | infinity n => exact ⟨_, rfl⟩
    | nan s => cases hlt
  · exact ⟨false, rfl⟩

/-- A view is of a report when only the parent link may differ. -/
def ViewOf (report view : OrderObservation) : Prop :=
  view = { report with parentOrderId := view.parentOrderId }

theorem viewOf_carryParent (old report : OrderObservation) :
    ViewOf report (carryParent old report) := by
  unfold ViewOf carryParent
  split <;> rfl

section

variable {digest : OrderObservation → String} {orderId : String}
  {reports : Finset OrderObservation} {db db' : Db} {o : OrderObservation}

/-- **A view accepts or refuses every report of its chain**, and accepts those
that are not older. -/
theorem BrokerConsistent.superseded (hc : BrokerConsistent orderId reports)
    {row : OrderProjection} {a : OrderObservation} (ha : a ∈ reports)
    (hv : ViewOf a row.observation) (ho : o ∈ reports) {id : ℕ} (hid : row.eventId < id) :
    (a.updatedAt.lt? o.updatedAt = some true ∨ a = o) ∧ superseded row id o = some false
      ∨ o.updatedAt.lt? a.updatedAt = some true ∧ superseded row id o = some true := by
  have ht : row.observation.updatedAt = a.updatedAt := by rw [hv]
  have hq : row.observation.filledQuantity = a.filledQuantity := by rw [hv]
  unfold Db.superseded
  rw [if_neg (Nat.not_le.mpr hid), ht, hq]
  by_cases heq : a = o
  · subst heq
    exact Or.inl ⟨Or.inr rfl, by rw [WireTime.lt?_self]; exact hc.numeric a ha⟩
  · rcases hc.times a ha o ho heq with hlt | hlt
    · refine Or.inl ⟨Or.inl hlt, ?_⟩
      rw [WireTime.lt?_asymm hlt]
      exact hc.filled a ha o ho hlt
    · refine Or.inr ⟨hlt, ?_⟩
      rw [hlt]
      rfl

/-- **The view after some deliveries**: there is none before the first, and
then it is of the latest report delivered. -/
def ViewsLatest (db : Db) (orderId : String) (delivered : Finset OrderObservation) : Prop :=
  delivered = ∅ ∧ db.order? orderId = none
    ∨ ∃ row, db.order? orderId = some row ∧ ∃ latest ∈ delivered,
      ViewOf latest row.observation
        ∧ ∀ o ∈ delivered, o ≠ latest → o.updatedAt.lt? latest.updatedAt = some true

/-- **The invariant of the deliveries.** -/
structure Delivering (digest : OrderObservation → String) (db₀ : Db) (orderId : String)
    (delivered : Finset OrderObservation) (db : Db) : Prop where
  inv : db.OrderInv digest
  observed : ∀ o ∈ db.observed, o ∈ delivered ∨ o ∈ db₀.observed ∧ o.orderId ≠ orderId
  latest : ViewsLatest db orderId delivered

/-! ## One delivery -/

/-- **An observation whose projection and release are decided is taken in.** -/
theorem observeOrder_of_projection (now : Time) {journaled : Db} {e : DomainEvent}
    {event : OrderObservation} {orders : List OrderProjection} {row : OrderProjection}
    (happ : db.append ("order/" ++ o.orderId) .orderObserved (some o)
      (some ("order/" ++ digest o)) = (journaled, e))
    (he : e.observation = some event)
    (hp : projectOrder journaled.orders e.id event = some orders)
    (hrow : orders.find? (fun r => r.orderId == o.orderId) = some row)
    (hnum : decimalLt row.observation.filledQuantity row.observation.filledQuantity
      = some false) :
    ∃ db', observeOrder digest now db o = some db'
      ∧ ({ journaled with orders := orders }).Journaled db' := by
  obtain ⟨ended, hended⟩ := endedUnfilled_isSome hnum
  have hrow' : ({ journaled with orders := orders } : Db).order? o.orderId = some row := hrow
  unfold observeOrder
  simp only [happ, he, hp, hrow', hended, Option.bind_eq_bind, Option.bind_some]
  cases ended with
  | false => exact ⟨_, rfl, Journaled.refl _⟩
  | true => exact ⟨_, rfl, journaled_releaseResting _ _ _ _⟩

theorem observed_appended (orders : List OrderProjection) :
    (db.appended o orders digest).observed = db.observed ++ [o] := by
  unfold Db.observed
  rw [appended_orderEvents, List.filterMap_append]
  rfl

theorem Db.Journaled.observed (h : db.Journaled db') : db'.observed = db.observed := by
  unfold Db.observed
  rw [h.orderEvents]

theorem Db.Journaled.order? (h : db.Journaled db') (id : String) :
    db'.order? id = db.order? id := by
  unfold Db.order?
  rw [h.orders]

variable {db₀ : Db} {delivered : Finset OrderObservation}

/-- **A report delivered again** is journaled already. -/
theorem Delivering.again (hd : Delivering digest db₀ orderId delivered db)
    (hc : BrokerConsistent orderId reports) (hsub : delivered ⊆ reports)
    (hfree : CollisionFree digest db₀ reports) (ho : o ∈ reports) {e : DomainEvent}
    (he : e ∈ db.journal) (hk : e.eventKey = some ("order/" ++ digest o)) :
    o ∈ delivered ∧ e ∈ db.orderEvents ∧ e.observation = some o := by
  have hmem : e ∈ db.orderEvents :=
    List.mem_filter.mpr ⟨he, by simpa using hd.inv.keyed e he _ hk⟩
  obtain ⟨x, hx, hxk⟩ := hd.inv.digests e hmem
  have hdig : digest o = digest x :=
    (String.append_right_inj _).mp (Option.some.inj (hk.symm.trans hxk))
  have hobs := hd.observed x (List.mem_filterMap.mpr ⟨e, hmem, hx⟩)
  obtain rfl : o = x := hfree o ho x (hobs.imp (fun h => hsub h) (fun h => h.1)) hdig
  exact ⟨hobs.resolve_right (fun h => h.2 (hc.order o ho)), hmem, hx⟩

/-- **A report delivered first** is projected, and the view is then of the
latest of all. -/
theorem Delivering.project (hd : Delivering digest db₀ orderId delivered db)
    (hc : BrokerConsistent orderId reports) (hsub : delivered ⊆ reports)
    (ho : o ∈ reports) :
    ∃ orders row, projectOrder db.orders (db.eventSeq + 1) o = some orders
      ∧ orders.find? (fun r => r.orderId == orderId) = some row
      ∧ ∃ latest ∈ insert o delivered, ViewOf latest row.observation
        ∧ ∀ b ∈ insert o delivered, b ≠ latest →
          b.updatedAt.lt? latest.updatedAt = some true := by
  obtain rfl := hc.order o ho
  rcases hd.latest with ⟨rfl, hnone⟩ | ⟨row, hrow, a, ha, hv, hmax⟩
  · have hf : db.orders.find? (fun r => r.orderId == o.orderId) = none := hnone
    refine ⟨_, ⟨o.orderId, db.eventSeq + 1, o⟩, projectOrder_of_find?_none hf, ?_, o,
      Finset.mem_insert_self o ∅, rfl, fun b hb hne => ?_⟩
    · rw [List.find?_append, hf]
      simp
    · exact absurd (by simpa using hb) hne
  · have hf : db.orders.find? (fun r => r.orderId == o.orderId) = some row := hrow
    have hid : row.eventId < db.eventSeq + 1 :=
      Nat.lt_succ_of_le (hd.inv.events_le row (List.mem_of_find?_eq_some hf))
    rcases hc.superseded (hsub ha) hv ho hid with ⟨hle, hs⟩ | ⟨hlt, hs⟩
    · refine ⟨_, projected (db.eventSeq + 1) o row, projectOrder_of_find?_some hf hs,
        ?_, o, Finset.mem_insert_self o delivered, viewOf_carryParent _ _, fun b hb hne => ?_⟩
      · rw [if_neg Bool.false_ne_true, find?_projected_self, hf]
        rfl
      · -- a report before the latest so far is before the new one
        replace hb := Finset.mem_of_mem_insert_of_ne hb hne
        by_cases hba : b = a
        · subst hba
          exact hle.resolve_right hne
        · rcases hle with hle | rfl
          · exact WireTime.lt?_trans (hmax b hb hba) hle
          · exact hmax b hb hba
    · refine ⟨db.orders, row, projectOrder_of_find?_some hf hs, hf, a,
        Finset.mem_insert_of_mem ha, hv, fun b hb hne => ?_⟩
      rcases Finset.mem_insert.mp hb with rfl | hb
      · exact hlt
      · exact hmax b hb hne

/-- **One delivery.** -/
theorem Delivering.deliver (hd : Delivering digest db₀ orderId delivered db)
    (hc : BrokerConsistent orderId reports) (hsub : delivered ⊆ reports)
    (hfree : CollisionFree digest db₀ reports) (ho : o ∈ reports) (now : Time) :
    ∃ db', observeOrder digest now db o = some db'
      ∧ Delivering digest db₀ orderId (insert o delivered) db' := by
  have hoid := hc.order o ho
  rcases append_cases db ("order/" ++ o.orderId) .orderObserved (some o)
    (some ("order/" ++ digest o)) with ⟨e, he, k, hk, hek, happ⟩ | happ
  · obtain ⟨hdel, hmem, hobs⟩ := hd.again hc hsub hfree ho he (hek.trans hk.symm)
    rcases hd.latest with ⟨hnil, -⟩ | ⟨row, hrow, a, ha, hv, hmax⟩
    · rw [hnil] at hdel
      cases hdel
    · have hp : projectOrder db.orders e.id o = some db.orders := by
        have hs := hd.inv.replays.settled e hmem
        unfold replayOrderEvent at hs
        rwa [hobs] at hs
      obtain ⟨db', h', hj⟩ := observeOrder_of_projection now happ hobs hp
        (by rw [hoid]; exact hrow) (by rw [hv]; exact hc.numeric a (hsub ha))
      refine ⟨db', h', ?_⟩
      rw [Finset.insert_eq_self.mpr hdel]
      have hj' : db.Journaled db' := hj
      refine ⟨hd.inv.of_journaled hj', ?_, Or.inr ⟨row, ?_, a, ha, hv, hmax⟩⟩
      · rw [hj'.observed]
        exact hd.observed
      · rw [hj'.order?]
        exact hrow
  · obtain ⟨orders, row, hp, hrow, a, ha, hv, hmax⟩ := hd.project hc hsub ho
    have hsub' : insert o delivered ⊆ reports := Finset.insert_subset ho hsub
    obtain ⟨db', h', hj⟩ := observeOrder_of_projection now happ rfl hp
      (by rw [hoid]; exact hrow) (by rw [hv]; exact hc.numeric a (hsub' ha))
    have hj' : (db.appended o orders digest).Journaled db' := hj
    refine ⟨db', h', (hd.inv.appended hp).of_journaled hj', fun x hx => ?_,
      Or.inr ⟨row, ?_, a, ha, hv, hmax⟩⟩
    · rw [hj'.observed, observed_appended, List.mem_append, List.mem_singleton] at hx
      rcases hx with hx | rfl
      · exact (hd.observed x hx).imp_left (fun h => Finset.mem_insert_of_mem h)
      · exact Or.inl (Finset.mem_insert_self x delivered)
    · rw [hj'.order?]
      exact hrow

/-! ## Every delivery -/

theorem Delivering.deliver_batch (hd : Delivering digest db₀ orderId delivered db)
    (hc : BrokerConsistent orderId reports) (hsub : delivered ⊆ reports)
    (hfree : CollisionFree digest db₀ reports) (now : Time)
    {observations : List OrderObservation} (hin : ∀ o ∈ observations, o ∈ reports) :
    ∃ db', observeOrders digest now db observations = some db'
      ∧ Delivering digest db₀ orderId (delivered ∪ observations.toFinset) db' := by
  unfold observeOrders
  induction observations generalizing db delivered with
  | nil => exact ⟨db, rfl, by simpa using hd⟩
  | cons o rest ih =>
    have ho := hin o List.mem_cons_self
    obtain ⟨db₁, h₁, hd₁⟩ := hd.deliver hc hsub hfree ho now
    obtain ⟨db₂, h₂, hd₂⟩ := ih hd₁ (Finset.insert_subset ho hsub)
      (fun x hx => hin x (List.mem_cons_of_mem o hx))
    refine ⟨db₂, by rw [List.foldlM_cons, h₁]; exact h₂, ?_⟩
    rw [List.toFinset_cons, Finset.union_insert, ← Finset.insert_union]
    exact hd₂

theorem Delivering.deliver_batches (hd : Delivering digest db₀ orderId delivered db)
    (hc : BrokerConsistent orderId reports) (hsub : delivered ⊆ reports)
    (hfree : CollisionFree digest db₀ reports)
    {batches : List (Time × List OrderObservation)}
    (hin : ∀ b ∈ batches, ∀ o ∈ b.2, o ∈ reports) :
    ∃ all : Finset OrderObservation, all ⊆ reports ∧ delivered ⊆ all
      ∧ (∀ b ∈ batches, ∀ o ∈ b.2, o ∈ all)
      ∧ Delivering digest db₀ orderId all (db.observeBatches digest batches) := by
  unfold observeBatches
  induction batches generalizing db delivered with
  | nil => exact ⟨delivered, hsub, Finset.Subset.refl _, (fun b hb => by cases hb), hd⟩
  | cons b batches ih =>
    have hb := hin b List.mem_cons_self
    obtain ⟨db₁, h₁, hd₁⟩ := hd.deliver_batch hc hsub hfree b.1 hb
    have hsub₁ : delivered ∪ b.2.toFinset ⊆ reports :=
      Finset.union_subset hsub (fun o ho => hb o (List.mem_toFinset.mp ho))
    obtain ⟨all, hall, hle, hmem, hd₂⟩ := ih hd₁ hsub₁
      (fun x hx => hin x (List.mem_cons_of_mem b hx))
    refine ⟨all, hall, Finset.union_subset_left hle, fun x hx o ho => ?_, ?_⟩
    · rcases List.mem_cons.mp hx with rfl | hx
      · exact hle (Finset.mem_union_right _ (List.mem_toFinset.mpr ho))
      · exact hmem x hx o ho
    · rw [List.foldl_cons, h₁]
      exact hd₂

end

/-- **Order views converge.** From any reachable state that has not heard of
the order, let the batches deliver every report of a broker-consistent set and
nothing else. Then the view of the order is that of the report with the
greatest time, in every field but the parent link. -/
theorem order_views_converge (env : Env) {w : World Db Proc Mark}
    (h : (trader env).Reachable w) {orderId : String} {reports : Finset OrderObservation}
    (hc : BrokerConsistent orderId reports) (hne : reports.Nonempty)
    (hnew : ∀ o ∈ w.store.observed, o.orderId ≠ orderId)
    (hfree : CollisionFree env.digest w.store reports)
    {batches : List (Time × List OrderObservation)}
    (hin : ∀ b ∈ batches, ∀ o ∈ b.2, o ∈ reports)
    (hall : ∀ o ∈ reports, ∃ b ∈ batches, o ∈ b.2) :
    ∃ latest ∈ reports,
      (∀ o ∈ reports, o ≠ latest → o.updatedAt.lt? latest.updatedAt = some true)
        ∧ ∃ row, (w.store.observeBatches env.digest batches).order? orderId = some row
          ∧ row.observation
            = { latest with parentOrderId := row.observation.parentOrderId } := by
  have hi := orderInv_of_reachable env h
  have hd : Delivering env.digest w.store orderId ∅ w.store := by
    refine ⟨hi, fun o ho => Or.inr ⟨ho, hnew o ho⟩, Or.inl ⟨rfl, ?_⟩⟩
    refine List.find?_eq_none.mpr (fun r hr hk => ?_)
    obtain ⟨e, he, o, ho, hko⟩ := hi.seen r hr
    exact hnew o (List.mem_filterMap.mpr ⟨e, he, ho⟩) (hko.trans (by simpa using hk))
  obtain ⟨all, hsub, -, hmem, hd'⟩ :=
    hd.deliver_batches hc (Finset.empty_subset _) hfree hin
  obtain rfl : all = reports := by
    refine Finset.Subset.antisymm hsub (fun o ho => ?_)
    obtain ⟨b, hb, hob⟩ := hall o ho
    exact hmem b hb o hob
  rcases hd'.latest with ⟨hnil, -⟩ | ⟨row, hrow, latest, hl, hv, hmax⟩
  · exact absurd hnil hne.ne_empty
  · exact ⟨latest, hl, hmax, row, hrow, hv⟩

/-- An acknowledgement, a partial fill and the fill. -/
def sampleReports : Finset OrderObservation :=
  {sampleObservation "new" "0" 3, sampleObservation "partially_filled" "4.0" 5,
    sampleObservation "filled" "10" 7}

/-- The fill first, then the others in one batch, and the fill again. -/
def sampleDeliveries : List (Time × List OrderObservation) :=
  [(1, [sampleObservation "filled" "10" 7]),
    (2, [sampleObservation "partially_filled" "4.0" 5, sampleObservation "new" "0" 3]),
    (3, [sampleObservation "filled" "10" 7])]

theorem sampleReports_consistent : BrokerConsistent "o-1" sampleReports where
  order := by decide +kernel
  numeric := by decide +kernel
  times := by decide +kernel
  filled := by decide +kernel

theorem sampleReports_collisionFree :
    CollisionFree sampleEnv.digest Db.empty sampleReports := by
  have h : ∀ a ∈ sampleReports, ∀ b ∈ sampleReports,
      sampleEnv.digest a = sampleEnv.digest b → a = b := by decide +kernel
  rintro a ha b (hb | hb)
  · exact h a ha b hb
  · cases hb

theorem order_views_converge_sample :
    ∃ row, (Db.empty.observeBatches sampleEnv.digest sampleDeliveries).order? "o-1" = some row
      ∧ row.observation.status = "filled" ∧ row.observation.filledQuantity = "10" := by
  have hin : ∀ b ∈ sampleDeliveries, ∀ o ∈ b.2, o ∈ sampleReports := by decide +kernel
  have hall : ∀ o ∈ sampleReports, ∃ b ∈ sampleDeliveries, o ∈ b.2 := by decide +kernel
  obtain ⟨latest, hl, hmax, row, hrow, hv⟩ :=
    order_views_converge sampleEnv (reachable_empty sampleEnv) sampleReports_consistent
      (by decide +kernel) (fun _ ho => by cases ho) sampleReports_collisionFree hin hall
  have hlatest : ∀ a ∈ sampleReports,
      (∀ o ∈ sampleReports, o ≠ a → o.updatedAt.lt? a.updatedAt = some true) →
      a = sampleObservation "filled" "10" 7 := by decide +kernel
  refine ⟨row, hrow, ?_⟩
  rw [hv, hlatest latest hl hmax]
  exact ⟨rfl, rfl⟩

end AgenticTrader
