import AgenticTrader.Broker.OrderReads
import AgenticTrader.OrderConvergence

/-!
# Parent links

The legs of a bracket know the order they protect only from reads that nest
them under it. The stream, and a lookup of the leg itself, leave the link out,
so a view that has it keeps it when a later report comes without it
(`carryParent`).

Two things lose a link all the same. A report that is refused – older than the
view, or with a smaller quantity – is refused as a whole, so a link it carries
does not reach a view that has none. And a pass over the broker's orders keeps
the last observation of every order, so a leg that was read nested and is then
looked up by itself is returned without its parent. `parent_links_kept` says
that these are the only ways.
-/

namespace AgenticTrader

open Table Db

/-! ## The view -/

namespace Db

/-- The report carries a link. -/
def Linked (o : OrderObservation) : Prop :=
  o.parentOrderId.isSome = true

instance (o : OrderObservation) : Decidable (Linked o) :=
  inferInstanceAs (Decidable (_ = true))

/-- **A known link is in the view**: an order with a journaled report that
carries a link has a view that carries one. -/
def LinksKept (db : Db) : Prop :=
  ∀ o ∈ db.observed, Linked o → ∃ row, db.order? o.orderId = some row ∧ Linked row.observation

/-- **A report that loses no link**: its own is not the empty text, and if the
view has none the report is not refused. -/
def LinkTaken (db : Db) (o : OrderObservation) : Prop :=
  o.parentOrderId ≠ some ""
    ∧ (Linked o → ∀ row, db.order? o.orderId = some row → ¬ Linked row.observation →
      superseded row (db.eventSeq + 1) o ≠ some true)

/-- Every report of a batch loses no link when its turn comes. -/
def LinksTaken (digest : OrderObservation → String) (now : Time) : Db → List OrderObservation → Prop
  | _, [] => True
  | db, o :: rest =>
    db.LinkTaken o ∧ ∀ db', observeOrder digest now db o = some db' → LinksTaken digest now db' rest

variable {orders orders' : List OrderProjection} {id : ℕ} {o : OrderObservation}

/-- A view that carries a link, and whose link is not empty, keeps it. -/
theorem linked_carryParent {old : OrderObservation} (hne : old.parentOrderId ≠ some "")
    (h : Linked old ∨ Linked o) : Linked (carryParent old o) := by
  unfold carryParent Linked at *
  cases hnew : o.parentOrderId with
  | some p =>
    rw [if_neg (by simp)]
    rw [hnew]
    rfl
  | none =>
    rw [hnew] at h
    have hold := h.resolve_right (by simp)
    obtain ⟨p, hp⟩ := Option.isSome_iff_exists.mp hold
    have hpne : p ≠ "" := fun he => hne (by rw [hp, he])
    rw [if_pos (by simp [hp, truthy, hpne])]
    exact hold

theorem carryParent_nonempty {old : OrderObservation} (hold : old.parentOrderId ≠ some "")
    (hnew : o.parentOrderId ≠ some "") : (carryParent old o).parentOrderId ≠ some "" := by
  unfold carryParent
  split
  · exact hold
  · exact hnew

/-- A view that carries a link carries one after a projection. -/
theorem projectOrder_linked (hp : projectOrder orders id o = some orders')
    (hrows : ∀ r ∈ orders, r.observation.parentOrderId ≠ some "") {k : String}
    {row : OrderProjection} (hrow : orders.find? (fun r => r.orderId == k) = some row)
    (hl : Linked row.observation) :
    ∃ row', orders'.find? (fun r => r.orderId == k) = some row' ∧ Linked row'.observation := by
  rcases projectOrder_cases hp with ⟨-, rfl⟩ | ⟨previous, hf, ⟨-, rfl⟩ | ⟨-, rfl⟩⟩
  · exact ⟨row, by rw [List.find?_append, hrow]; rfl, hl⟩
  · exact ⟨row, hrow, hl⟩
  · by_cases hk : k = o.orderId
    · subst hk
      refine ⟨projected id o row, by rw [find?_projected_self, hrow]; rfl, ?_⟩
      exact linked_carryParent (hrows row (List.mem_of_find?_eq_some hrow)) (Or.inl hl)
    · exact ⟨row, by rw [find?_projected_ne orders id hk]; exact hrow, hl⟩

/-- **A report that is not refused leaves its link in the view.** -/
theorem projectOrder_takes (hp : projectOrder orders id o = some orders')
    (hrows : ∀ r ∈ orders, r.observation.parentOrderId ≠ some "") (hl : Linked o)
    (htaken : ∀ row, orders.find? (fun r => r.orderId == o.orderId) = some row →
      ¬ Linked row.observation → superseded row id o ≠ some true) :
    ∃ row', orders'.find? (fun r => r.orderId == o.orderId) = some row'
      ∧ Linked row'.observation := by
  rcases projectOrder_cases hp with ⟨hf, rfl⟩ | ⟨previous, hf, ⟨hs, rfl⟩ | ⟨-, rfl⟩⟩
  · exact ⟨⟨o.orderId, id, o⟩, by rw [List.find?_append, hf]; simp, hl⟩
  · by_cases hrow : Linked previous.observation
    · exact ⟨previous, hf, hrow⟩
    · exact absurd hs (htaken previous hf hrow)
  · refine ⟨projected id o previous, by rw [find?_projected_self, hf]; rfl, ?_⟩
    exact linked_carryParent (hrows previous (List.mem_of_find?_eq_some hf)) (Or.inr hl)

theorem projectOrder_nonempty (hp : projectOrder orders id o = some orders')
    (hrows : ∀ r ∈ orders, r.observation.parentOrderId ≠ some "")
    (hne : o.parentOrderId ≠ some "") :
    ∀ r ∈ orders', r.observation.parentOrderId ≠ some "" := by
  rcases projectOrder_cases hp with ⟨-, rfl⟩ | ⟨previous, -, ⟨-, rfl⟩ | ⟨-, rfl⟩⟩
  · intro r hr
    rcases List.mem_append.mp hr with hr | hr
    · exact hrows r hr
    · rw [List.mem_singleton.mp hr]
      exact hne
  · exact hrows
  · intro r hr
    obtain ⟨r₀, hr₀, rfl⟩ := mem_updateWhere.mp hr
    split
    · exact carryParent_nonempty (hrows r₀ hr₀) hne
    · exact hrows r₀ hr₀

/-- **The links of a store**: known ones are in the views, and none of these
is empty. -/
structure LinkInv (db : Db) : Prop where
  kept : db.LinksKept
  nonempty : ∀ r ∈ db.orders, r.observation.parentOrderId ≠ some ""

variable {digest : OrderObservation → String} {db db' : Db} {now : Time}

theorem LinkInv.of_journaled (h : db.LinkInv) (hj : db.Journaled db') : db'.LinkInv := by
  refine ⟨fun x hx hl => ?_, ?_⟩
  · rw [hj.observed] at hx
    rw [hj.order?]
    exact h.kept x hx hl
  · rw [hj.orders]
    exact h.nonempty

/-- **A report that loses no link keeps the links.** -/
theorem LinkInv.observeOrder (h : db.LinkInv) (hi : OrderInv digest db) (ht : db.LinkTaken o)
    (ho : observeOrder digest now db o = some db') : db'.LinkInv := by
  rcases observeOrder_cases ho hi with ⟨hj, -⟩ | ⟨orders, hp, hj⟩
  · exact h.of_journaled hj
  · refine LinkInv.of_journaled ⟨fun x hx hl => ?_, ?_⟩ hj
    · rw [observed_appended, List.mem_append, List.mem_singleton] at hx
      rcases hx with hx | rfl
      · obtain ⟨row, hrow, hlr⟩ := h.kept x hx hl
        exact projectOrder_linked hp h.nonempty hrow hlr
      · exact projectOrder_takes hp h.nonempty hl (ht.2 hl)
    · exact projectOrder_nonempty hp h.nonempty ht.1

theorem LinkInv.observeOrders (h : db.LinkInv) (hi : OrderInv digest db)
    {observations : List OrderObservation} (ht : LinksTaken digest now db observations)
    (ho : observeOrders digest now db observations = some db') : db'.LinkInv := by
  unfold Db.observeOrders at ho
  induction observations generalizing db with
  | nil =>
    obtain rfl : db = db' := by simpa using ho
    exact h
  | cons o rest ih =>
    rw [List.foldlM_cons, Option.bind_eq_bind, Option.bind_eq_some_iff] at ho
    obtain ⟨db₁, h₁, h₂⟩ := ho
    exact ih (h.observeOrder hi ht.1 h₁) (observeOrder_views h₁ hi).1 (ht.2 db₁ h₁) h₂

end Db

/-- **A step that loses no link**: it observes no order, rebuilds the views, or
observes a batch of which no report loses one. -/
def Db.LinkSafe (digest : OrderObservation → String) (db db' : Db) : Prop :=
  db.Journaled db' ∨ db.rebuildOrderViews = some db'
    ∨ ∃ now observations, Db.observeOrders digest now db observations = some db'
      ∧ LinksTaken digest now db observations

/-- **The runs in which no report loses a link.** -/
def linkedTrader (env : Env) : Program Db Proc Mark :=
  (trader env).restrict (fun db _ db' _ => LinkSafe env.digest db db')

theorem linkInv_of_reachable (env : Env) {w : World Db Proc Mark}
    (h : (linkedTrader env).Reachable w) : w.store.LinkInv := by
  refine Program.store_invariant (P := linkedTrader env) (J := fun db _ => db.LinkInv) ?_ ?_ h
  · exact ⟨(fun o ho => by cases ho), (fun r hr => by cases hr)⟩
  · rintro w i marks d p hw hl ⟨-, hc⟩
    have hi := orderInv_of_reachable env (Program.Reachable.of_restrict hw)
    rcases hc with hj | hr | ⟨now, observations, ho, ht⟩
    · exact hl.of_journaled hj
    · rw [hi.rebuildOrderViews] at hr
      rw [← Option.some.inj hr]
      exact hl
    · exact hl.observeOrders hi ht ho

/-! ## The pass -/

namespace OrderPass

/-- Some read showed the order nested under the other. -/
def ShownUnder (pass : OrderPass) (id root : String) : Prop :=
  ∃ o ∈ pass.shown, o.orderId = id ∧ o.parentOrderId = some root

/-- The last read that showed the order showed it under the other. -/
def LastShownUnder (pass : OrderPass) (id root : String) : Prop :=
  ∃ before o after, pass.shown = before ++ o :: after ∧ o.orderId = id
    ∧ o.parentOrderId = some root ∧ ∀ p ∈ after, p.orderId ≠ id

/-- The order is returned with the other as its parent. -/
def ReturnedUnder (pass : OrderPass) (id root : String) : Prop :=
  ∃ o, pass.observations.find? (fun o => o.orderId == id) = some o
    ∧ o.parentOrderId = some root

theorem Keeps.returnedUnder_iff {pass : OrderPass} (h : pass.Keeps) {id root : String} :
    pass.ReturnedUnder id root ↔ pass.LastShownUnder id root := by
  unfold ReturnedUnder LastShownUnder
  rw [show pass.observations = _ from h]
  simp only [BrokerOrder.find?_foldl_store]
  constructor
  · rintro ⟨o, ⟨before, after, heq, hid, hafter⟩, hroot⟩
    exact ⟨before, o, after, heq, hid, hroot, hafter⟩
  · rintro ⟨before, o, after, heq, hid, hroot, hafter⟩
    exact ⟨o, ⟨before, after, heq, hid, hafter⟩, hroot⟩

end OrderPass

/-! ## When links are kept -/

/-- **When parent links are kept.** In every run in which no linked report is
refused by a view without a link, and none carries an empty one, every known
link is in the view of its order, which a rebuild leaves as it is. And a pass
returns every order that it was shown nested with the order above it exactly
when the last read that showed it showed it there. -/
theorem parent_links_kept (env : Env) :
    (∀ w, (linkedTrader env).Reachable w →
        w.store.LinksKept ∧ w.store.rebuildOrderViews = some w.store)
      ∧ ∀ client maxPages historyDays now orderIds pass,
        OrderPass.observeOrders client maxPages historyDays now orderIds = .ok pass →
        ((∀ id root, pass.ShownUnder id root → pass.ReturnedUnder id root)
          ↔ ∀ id root, pass.ShownUnder id root → pass.LastShownUnder id root) := by
  refine ⟨fun w hw => ⟨(linkInv_of_reachable env hw).kept, ?_⟩, ?_⟩
  · exact (orderInv_of_reachable env (Program.Reachable.of_restrict hw)).rebuildOrderViews
  · intro client maxPages historyDays now orderIds pass h
    have hk := OrderPass.keeps_observeOrders h
    exact forall_congr' (fun id => forall_congr' (fun root =>
      imp_congr_right (fun _ => hk.returnedUnder_iff)))

/-! ## A bracket's stop -/

/-- The stop of a bracket, as the broker reports it. -/
def sampleStop (status : String) (updatedAt : ℤ) (parent : Option String) : OrderObservation :=
  { sampleObservation status "0" updatedAt with orderId := "s-1", parentOrderId := parent }

/-- The entry of the bracket, with the stop nested under it. -/
def sampleBracket : BrokerOrder :=
  .mk { sampleObservation "new" "0" 3 with orderId := "e-1" } [.mk (sampleStop "new" 3 none) []]

/-- A broker that shows the bracket in its history, and answers a lookup with
the order that is asked for. -/
def sampleClient : AlpacaClient where
  history _ _ := .ok [sampleBracket]
  openOrders := .ok []
  orderById id := .ok (if id = "s-1" then .mk (sampleStop "new" 3 none) [] else sampleBracket)

/-- A pass that looks up the orders. -/
def samplePass (orderIds : List String) : OrderPass :=
  match OrderPass.observeOrders sampleClient 1 7 0 orderIds with
  | .ok pass => pass
  | .error _ => .start

theorem samplePass_ok {orderIds : List String}
    (h : (OrderPass.observeOrders sampleClient 1 7 0 orderIds).isOk = true) :
    OrderPass.observeOrders sampleClient 1 7 0 orderIds = .ok (samplePass orderIds) := by
  unfold samplePass
  cases he : OrderPass.observeOrders sampleClient 1 7 0 orderIds with
  | ok pass => rfl
  | error message =>
    rw [he] at h
    cases h

theorem sampleStop_shown {orderIds : List String}
    (h : (samplePass orderIds).shown.any (fun o => o.orderId == "s-1"
      && o.parentOrderId == some "e-1") = true) :
    (samplePass orderIds).ShownUnder "s-1" "e-1" := by
  obtain ⟨o, ho, hp⟩ := List.any_eq_true.mp h
  simp only [Bool.and_eq_true, beq_iff_eq] at hp
  exact ⟨o, ho, hp.1, hp.2⟩

/-- The store after the stop was read under its entry. -/
def sampleLinked : Db :=
  Db.empty.observeBatches sampleEnv.digest [(1, [sampleStop "new" 3 (some "e-1")])]

theorem sampleLinked_reachable :
    ∃ w, (linkedTrader sampleEnv).Reachable w ∧ w.store = sampleLinked := by
  have h₀ : (linkedTrader sampleEnv).Reachable ⟨Db.empty, fun _ => .idle, []⟩ :=
    TransitionSystem.Reachable.of_init rfl
  have ho : Db.observeOrders sampleEnv.digest 1 Db.empty [sampleStop "new" 3 (some "e-1")]
      = some sampleLinked := by
    obtain ⟨db, hdb⟩ := Option.isSome_iff_exists.mp (show (Db.observeOrders sampleEnv.digest 1
      Db.empty [sampleStop "new" 3 (some "e-1")]).isSome = true by decide +kernel)
    show _ = some ((Db.observeOrders sampleEnv.digest 1 Db.empty
      [sampleStop "new" 3 (some "e-1")]).getD Db.empty)
    rw [hdb]
    rfl
  have hsafe : LinkSafe sampleEnv.digest Db.empty sampleLinked := by
    refine Or.inr (Or.inr ⟨1, _, ho, ⟨by decide, fun _ row hrow => ?_⟩, fun _ _ => trivial⟩)
    cases hrow
  exact ⟨_, Act.reachable (i := 0) h₀ rfl hsafe (.standalone rfl (.observeOrders 1 _ ho)), rfl⟩

/-- The stop's link is in its view; and a pass that looks up the entry returns
the stop under it. -/
theorem parent_links_kept_sample :
    (∃ o ∈ sampleLinked.observed, o.orderId = "s-1" ∧ Linked o) ∧ sampleLinked.LinksKept
      ∧ (samplePass ["e-1"]).ShownUnder "s-1" "e-1"
      ∧ ((∀ id root, (samplePass ["e-1"]).ShownUnder id root →
          (samplePass ["e-1"]).ReturnedUnder id root)
        ↔ ∀ id root, (samplePass ["e-1"]).ShownUnder id root →
          (samplePass ["e-1"]).LastShownUnder id root) := by
  obtain ⟨w, hw, hs⟩ := sampleLinked_reachable
  refine ⟨by decide +kernel, ?_, sampleStop_shown (by decide +kernel),
    (parent_links_kept sampleEnv).2 _ _ _ _ _ _ (samplePass_ok (by decide +kernel))⟩
  rw [← hs]
  exact ((parent_links_kept sampleEnv).1 w hw).1

/-- **Links are lost.** A stream update of the stop arrives first, and then the
older read that nests it: the link is journaled and not in the view. And a
pass that looks up the stop by itself returns it without the parent it was
shown under. -/
theorem parent_link_lost :
    ¬ (Db.empty.observeBatches sampleEnv.digest
        [(1, [sampleStop "held" 7 none]), (2, [sampleStop "new" 3 (some "e-1")])]).LinksKept
      ∧ OrderPass.observeOrders sampleClient 1 7 0 ["s-1"] = .ok (samplePass ["s-1"])
      ∧ (samplePass ["s-1"]).ShownUnder "s-1" "e-1"
      ∧ ¬ (samplePass ["s-1"]).ReturnedUnder "s-1" "e-1" := by
  refine ⟨fun h => ?_, samplePass_ok (by decide +kernel), sampleStop_shown (by decide +kernel), ?_⟩
  · obtain ⟨row, hrow, hl⟩ := h (sampleStop "new" 3 (some "e-1")) (by decide +kernel) rfl
    have hview : ((Db.empty.observeBatches sampleEnv.digest
        [(1, [sampleStop "held" 7 none]), (2, [sampleStop "new" 3 (some "e-1")])]).order? "s-1").map
          (fun r => decide (Linked r.observation)) = some false := by
      decide +kernel
    rw [show (sampleStop "new" 3 (some "e-1")).orderId = "s-1" from rfl] at hrow
    rw [hrow] at hview
    simp [hl] at hview
  · rintro ⟨o, ho, hp⟩
    have hkept : ((samplePass ["s-1"]).observations.find? (fun o => o.orderId == "s-1")).map
        OrderObservation.parentOrderId = some none := by
      decide +kernel
    rw [ho, Option.map_some, hp] at hkept
    cases hkept

end AgenticTrader
