import AgenticTrader.Execution.Capacity
import AgenticTrader.Risk.DownwardClosed

/-!
# What an assessment says

When `assess_entry_capacity` returns, every holding of the broker has one
reservation behind it and one exact stop in front of it, every order that is
not over belongs to the lineage of one reservation, the entry is funded and
the book with the entry is within the limits – where the entry's instrument is
not configured with a multiplier below one. The rules of admission weigh the
entry with the multiplier of its contract and the totals returned do not, so
with a smaller one the totals can be above the limits that were tested.
-/

namespace AgenticTrader

open Checks

/-! ## Lineages -/

/-- **The lineage of an order**: itself, and every order of the book that names
one of its lineage as its parent or as the order it replaces. -/
inductive InLineage (orders : List OrderObservation) (root : String) : String → Prop where
  | root : InLineage orders root root
  | child {id : String} {o : OrderObservation} (h : InLineage orders root id) (ho : o ∈ orders)
      (hnames : o.parentOrderId = some id ∨ o.replaces = some id) :
      InLineage orders root o.orderId

section Lineage

variable {orders : List OrderObservation} {root id : String} {found : Finset String}

theorem namesOneOf_iff {o : OrderObservation} :
    namesOneOf found o = true
      ↔ ∃ id ∈ found, o.parentOrderId = some id ∨ o.replaces = some id := by
  unfold namesOneOf
  rw [Bool.or_eq_true, Option.any_eq_true, Option.any_eq_true]
  simp only [decide_eq_true_eq]
  constructor
  · rintro (⟨id, hid, hmem⟩ | ⟨id, hid, hmem⟩)
    · exact ⟨id, hmem, Or.inl hid⟩
    · exact ⟨id, hmem, Or.inr hid⟩
  · rintro ⟨id, hmem, hid | hid⟩
    · exact Or.inl ⟨id, hid, hmem⟩
    · exact Or.inr ⟨id, hid, hmem⟩

theorem mem_expandGroup :
    id ∈ expandGroup orders found
      ↔ id ∈ found ∨ ∃ o ∈ orders, namesOneOf found o = true ∧ o.orderId = id := by
  unfold expandGroup
  simp [and_assoc]

theorem subset_expandGroup : found ⊆ expandGroup orders found :=
  Finset.subset_union_left

/-- There are only the root and the orders of the book to find. -/
theorem saturates_group (root : String) (orders : List OrderObservation) :
    ∃ rounds ≤ orders.length + 1,
      Coverage.Saturates (expandGroup orders) rounds {root} (group root orders) := by
  refine Coverage.saturates_saturate (insert root (orders.map (·.orderId)).toFinset)
    (fun _ => subset_expandGroup) ?_ ?_ ?_
  · intro s hs id hid
    rcases mem_expandGroup.mp hid with hid | ⟨o, ho, -, rfl⟩
    · exact hs hid
    · exact Finset.mem_insert_of_mem (List.mem_toFinset.mpr (List.mem_map_of_mem ho))
  · simp
  · have hids := List.toFinset_card_le (orders.map (·.orderId))
    have hroom := Finset.card_insert_le root (orders.map (·.orderId)).toFinset
    rw [List.length_map] at hids
    rw [Finset.card_singleton]
    omega

theorem expandGroup_group : expandGroup orders (group root orders) = group root orders := by
  obtain ⟨rounds, -, h⟩ := saturates_group root orders
  exact h.closed

/-- **`_group` computes the lineage.** -/
theorem mem_group_iff : id ∈ group root orders ↔ InLineage orders root id := by
  constructor
  · have hsound : ∀ id ∈ group root orders, InLineage orders root id := by
      refine Coverage.saturate_induction (P := fun s => ∀ id ∈ s, InLineage orders root id) ?_ ?_
      · intro s hs id hid
        rcases mem_expandGroup.mp hid with hid | ⟨o, ho, hnames, rfl⟩
        · exact hs id hid
        · obtain ⟨p, hp, hnames⟩ := namesOneOf_iff.mp hnames
          exact InLineage.child (hs p hp) ho hnames
      · intro id hid
        rw [Finset.mem_singleton.mp hid]
        exact InLineage.root
    exact hsound id
  · intro h
    induction h with
    | root =>
      exact Coverage.subset_saturate (fun _ => subset_expandGroup) (Finset.mem_singleton_self root)
    | child _ ho hnames ih =>
      rw [← expandGroup_group]
      exact mem_expandGroup.mpr (Or.inr ⟨_, ho, namesOneOf_iff.mpr ⟨_, ih, hnames⟩, rfl⟩)

/-- **The loop of `_group`**: it starts from the root alone, and returns after so
many rounds with what it found. -/
def GroupReturns (root : String) (orders : List OrderObservation) (rounds : ℕ)
    (found : Finset String) : Prop :=
  Coverage.Saturates (expandGroup orders) rounds {root} found

/-- **The loop of `_group` ends, with the exact lineage of the root**, whatever
the orders name as their parents and as what they replace: itself, each other,
or an order the book does not have. -/
theorem groupLoop_returns_lineage (root : String) (orders : List OrderObservation) :
    ∃ rounds found, GroupReturns root orders rounds found
      ∧ rounds ≤ orders.length + 1
      ∧ (∀ rounds' found', GroupReturns root orders rounds' found' → found' = found)
      ∧ ∀ id, id ∈ found ↔ InLineage orders root id := by
  obtain ⟨rounds, hle, hreturns⟩ := saturates_group root orders
  refine ⟨rounds, group root orders, hreturns, hle, ?_, fun id => mem_group_iff⟩
  intro rounds' found' hreturns'
  exact (hreturns'.unique hreturns).2

end Lineage

/-! ## What a reservation stands for -/

namespace Signal

/-- The order a reservation entered by, when it names one. -/
def entry? (row : Signal) (orders : List OrderObservation) : Option OrderObservation :=
  if truthy row.brokerOrderId then
    orders.find? (fun o => o.orderId = row.brokerOrderId.getD "")
  else none

/-- **The orders of a reservation**: those of the lineage of the order it
names. -/
def Claims (row : Signal) (orders : List OrderObservation) (id : String) : Prop :=
  ∃ rootId, row.brokerOrderId = some rootId ∧ rootId ≠ "" ∧ InLineage orders rootId id

/-- **A reservation owns a holding**: it has its symbol, direction and
absolute quantity, and its entry order is filled. -/
def Owns (row : Signal) (orders : List OrderObservation) (holding : BrokerPosition) : Prop :=
  row.contract = holding.symbol ∧ row.direction = holding.direction
    ∧ row.quantity = |holding.quantity|
    ∧ ∃ root, row.entry? orders = some root ∧ root.status = "filled"

/-- The orders a reservation takes out of the book. -/
def family (orders : List OrderObservation) (row : Signal) : Finset String :=
  if truthy row.brokerOrderId then group (row.brokerOrderId.getD "") orders else ∅

/-- The holding a reservation takes out of the book. -/
def filledSymbols (orders : List OrderObservation) (row : Signal) : Finset String :=
  if (row.entry? orders).any (fun root => root.status = "filled") then {row.contract} else ∅

end Signal

/-- A stop that is live: `new`, or `held`. -/
def OrderObservation.LiveStop (o : OrderObservation) : Prop :=
  (o.orderType = "stop" ∨ o.orderType = "stop_limit") ∧ o.status ∈ protectedExit

/-- A live take-profit of a quantity entered on a side. -/
def OrderObservation.LiveTakeProfit (o : OrderObservation) (side : String) (quantity : ℚ) :
    Prop :=
  o.orderType = "limit" ∧ o.status = "new" ∧ o.side ≠ side
    ∧ readDecimal o.quantity = .ok quantity ∧ readDecimal o.filledQuantity = .ok 0

/-- **A holding is protected**: the lineage of the entry order has exactly one
live stop, not on the entry's side, for the whole quantity, at a price strictly
on the protective side of the mark; and where the broker holds the stop,
exactly one live take-profit keeps it held. -/
structure Protects (orders : List OrderObservation) (row : Signal) (holding : BrokerPosition)
    (mark price : ℚ) (stop : OrderObservation) : Prop where
  marked : holding.currentPrice = some mark
  claims : row.Claims orders stop.orderId
  mem : stop ∈ orders
  live : stop.LiveStop
  only : ∀ o ∈ orders, row.Claims orders o.orderId → o.LiveStop → o = stop
  held : stop.status = "held" → ∃! o, o ∈ orders ∧ row.Claims orders o.orderId
    ∧ o.LiveTakeProfit (entrySide row.direction) row.quantity
  side : stop.side ≠ entrySide row.direction
  quantity : readDecimal stop.quantity = .ok |holding.quantity|
  priced : stop.stopPrice.map readDecimal = some (.ok price)
  beyond : if row.direction = .long then price < mark else mark < price

/-- **How a reservation counts**: at least at what was reserved, and at the mark
where it owns a holding. -/
structure CountsAtLeast (context : BrokerEntryContext) (row counted : Signal) : Prop where
  reservedNotional : ∀ n ∈ row.notionalValue, ∃ m ∈ counted.notionalValue, n ≤ m
  reservedRisk : row.riskDollars ≤ counted.riskDollars
  marked : ∀ holding ∈ context.positions, row.Owns context.orders holding →
    ∃ mark price stop, Protects context.orders row holding mark price stop
      ∧ (∃ m ∈ counted.notionalValue, |holding.quantity| * mark ≤ m)
      ∧ |holding.quantity| * |mark - price| ≤ counted.riskDollars

/-! ## One reservation -/

section Rows

variable {context : BrokerEntryContext} {row counted : Signal} {covered covered' : BookCoverage}

theorem mem_family {orders : List OrderObservation} {id : String} :
    id ∈ row.family orders ↔ row.Claims orders id := by
  unfold Signal.family Signal.Claims truthy
  cases hid : row.brokerOrderId with
  | none => simp
  | some rootId =>
    by_cases hempty : rootId = ""
    · simp [hempty]
    · simp [hempty, mem_group_iff]

/-- **The outcomes of one reservation**: it was not sent, it is a pending
bracket, or it is a filled entry and its protected holding. -/
inductive CountsAs (context : BrokerEntryContext) (row : Signal) : Signal → Prop where
  | unsent (hid : truthy row.brokerOrderId = false) : CountsAs context row row
  | pending {root : OrderObservation} {notional value : ℚ}
      (hroot : row.entry? context.orders = some root) (hstatus : root.status ∈ workingStatuses)
      (hnotional : row.notionalValue = some notional) (hle : notional ≤ value) :
      CountsAs context row { row with notionalValue := some value }
  | filled {root stop : OrderObservation} {holding : BrokerPosition}
      {mark price notional value risk : ℚ}
      (hroot : row.entry? context.orders = some root) (hstatus : root.status = "filled")
      (hholding : context.positions.find? (fun p => p.symbol = row.contract) = some holding)
      (hdirection : holding.direction = row.direction)
      (hquantity : |holding.quantity| = row.quantity) (hmark : holding.currentPrice = some mark)
      (hstop : protectiveStop (exitLegs context (row.brokerOrderId.getD ""))
        (entrySide row.direction) (.finite row.quantity) = some (some stop))
      (hprice : protectionPrice (entrySide row.direction) row.quantity stop = .ok price)
      (hdistance : 0 < (mark - price) * (if entrySide row.direction = "buy" then 1 else -1))
      (hnotional : row.notionalValue = some notional) (hle : notional ≤ value)
      (hmarked : row.quantity * mark ≤ value) (hrisk : row.riskDollars ≤ risk)
      (hgiveback : row.quantity * ((mark - price)
        * (if entrySide row.direction = "buy" then 1 else -1)) ≤ risk) :
      CountsAs context row { row with notionalValue := some value, riskDollars := risk }

theorem readDecimal_eq_ok {text : String} {q : ℚ} :
    readDecimal text = .ok q ↔ decimal (.str text) = some q := by
  unfold readDecimal
  cases decimal (.str text) <;> simp

theorem readNumber_eq_ok {value : Option ℚ} {q : ℚ} :
    readNumber value = .ok q ↔ value = some q := by
  cases value <;> simp [readNumber]

/-- The entry order is the one the reservation names, for its quantity. -/
theorem entryOrder_ok {rootId : String} {root : OrderObservation} {quantity filled : ℚ}
    (h : entryOrder context row rootId = .ok (root, quantity, filled)) :
    context.orders.find? (fun o => o.orderId = rootId) = some root ∧ quantity = row.quantity
      ∧ 0 < quantity := by
  unfold entryOrder at h
  split at h
  · cases h
  · rename_i found hfound
    obtain ⟨-, h⟩ := refuse_bind_eq_ok.mp h
    obtain ⟨q, -, h⟩ := except_bind_eq_ok.mp h
    obtain ⟨f, -, h⟩ := except_bind_eq_ok.mp h
    obtain ⟨hquantity, h⟩ := refuse_bind_eq_ok.mp h
    obtain ⟨-, h⟩ := refuse_bind_eq_ok.mp h
    cases h
    simp only [Bool.or_eq_false_iff, decide_eq_false_iff_not, not_not, not_le] at hquantity
    exact ⟨hfound, hquantity.1.2, hquantity.1.1⟩

/-- A pending reservation counts at least at what was reserved. -/
theorem pendingRow_ok {root : OrderObservation} {quantity : ℚ} {legs : List OrderObservation}
    (h : pendingRow context row root quantity legs = .ok counted) :
    ∃ notional value, row.notionalValue = some notional ∧ notional ≤ value
      ∧ counted = { row with notionalValue := some value } := by
  unfold pendingRow at h
  obtain ⟨-, h⟩ := refuse_bind_eq_ok.mp h
  obtain ⟨-, h⟩ := refuse_bind_eq_ok.mp h
  obtain ⟨-, h⟩ := refuse_bind_eq_ok.mp h
  obtain ⟨limit, -, h⟩ := except_bind_eq_ok.mp h
  obtain ⟨-, h⟩ := refuse_bind_eq_ok.mp h
  obtain ⟨-, h⟩ := refuse_bind_eq_ok.mp h
  split at h
  · obtain ⟨foreign, -, h⟩ := except_bind_eq_ok.mp h
    obtain ⟨-, h⟩ := refuse_bind_eq_ok.mp h
    obtain ⟨stopPrice, -, h⟩ := except_bind_eq_ok.mp h
    obtain ⟨-, h⟩ := refuse_bind_eq_ok.mp h
    obtain ⟨target, -, h⟩ := except_bind_eq_ok.mp h
    obtain ⟨-, h⟩ := refuse_bind_eq_ok.mp h
    obtain ⟨notional, hnotional, h⟩ := except_bind_eq_ok.mp h
    cases h
    exact ⟨notional, _, readNumber_eq_ok.mp hnotional, le_max_left _ _, rfl⟩
  · cases h

/-- The holding of a filled entry is the one on its symbol, and nobody else's. -/
theorem filledHolding_ok {root : OrderObservation} {quantity : ℚ} {holding : BrokerPosition}
    (h : filledHolding context covered row root quantity = .ok holding) :
    context.positions.find? (fun p => p.symbol = row.contract) = some holding
      ∧ row.contract ∉ covered.holdings ∧ holding.direction = row.direction
      ∧ |holding.quantity| = quantity := by
  unfold filledHolding at h
  split at h
  · cases h
  · rename_i found hfound
    obtain ⟨hagree, h⟩ := refuse_bind_eq_ok.mp h
    obtain ⟨-, h⟩ := refuse_bind_eq_ok.mp h
    obtain ⟨average, -, h⟩ := except_bind_eq_ok.mp h
    obtain ⟨-, h⟩ := refuse_bind_eq_ok.mp h
    cases h
    simp only [Bool.or_eq_false_iff, decide_eq_false_iff_not, not_not] at hagree
    exact ⟨hfound, hagree.1.1.1, hagree.1.1.2, hagree.1.2⟩

/-- **A filled reservation is its protected holding.** -/
theorem filledRow_ok {root : OrderObservation} (hroot : row.entry? context.orders = some root)
    (hstatus : root.status = "filled")
    (h : filledRow context covered row root row.quantity
      (exitLegs context (row.brokerOrderId.getD "")) = .ok counted) (hq : 0 < row.quantity) :
    CountsAs context row counted ∧ row.contract ∉ covered.holdings := by
  unfold filledRow at h
  dsimp only at h
  obtain ⟨holding, hholding, h⟩ := except_bind_eq_ok.mp h
  obtain ⟨mark, hmark, h⟩ := except_bind_eq_ok.mp h
  obtain ⟨-, h⟩ := refuse_bind_eq_ok.mp h
  obtain ⟨hfound, hfree, hdirection, hquantity⟩ := filledHolding_ok hholding
  split at h
  · cases h
  · cases h
  · rename_i stop hstop
    obtain ⟨price, hprice, h⟩ := except_bind_eq_ok.mp h
    obtain ⟨hdistance, h⟩ := refuse_bind_eq_ok.mp h
    obtain ⟨unresolved, -, h⟩ := except_bind_eq_ok.mp h
    obtain ⟨-, h⟩ := refuse_bind_eq_ok.mp h
    obtain ⟨notional, hnotional, h⟩ := except_bind_eq_ok.mp h
    cases h
    refine ⟨?_, hfree⟩
    refine CountsAs.filled hroot hstatus hfound hdirection hquantity (readNumber_eq_ok.mp hmark)
      hstop hprice ?_ (readNumber_eq_ok.mp hnotional) (le_max_left _ _) ?_ (le_max_left _ _)
      (le_max_right _ _)
    · exact not_le.mp (of_decide_eq_false hdistance)
    · exact (mul_le_mul_of_nonneg_left (le_max_left _ _) hq.le).trans (le_max_right _ _)

/-- **What one reservation takes out of the book** was there, and is its
lineage and its holding. -/
theorem exposureRow_ok (h : exposureRow context covered row = .ok (counted, covered')) :
    CountsAs context row counted
      ∧ Disjoint (row.family context.orders) covered.orders
      ∧ covered'.orders = covered.orders ∪ row.family context.orders
      ∧ Disjoint (row.filledSymbols context.orders) covered.holdings
      ∧ covered'.holdings = covered.holdings ∪ row.filledSymbols context.orders := by
  unfold exposureRow at h
  split at h
  · rename_i hid
    obtain ⟨⟨root, quantity, filled⟩, hentry, h⟩ := except_bind_eq_ok.mp h
    obtain ⟨hdisjoint, h⟩ := refuse_bind_eq_ok.mp h
    obtain ⟨-, h⟩ := refuse_bind_eq_ok.mp h
    obtain ⟨executed, -, h⟩ := except_bind_eq_ok.mp h
    obtain ⟨-, h⟩ := refuse_bind_eq_ok.mp h
    obtain ⟨hfound, rfl, hq⟩ := entryOrder_ok hentry
    have hroot : row.entry? context.orders = some root := by
      rw [Signal.entry?, if_pos hid]
      exact hfound
    have hfamily : row.family context.orders
        = group (row.brokerOrderId.getD "") context.orders := if_pos hid
    have hapart : Disjoint (row.family context.orders) covered.orders := by
      rw [hfamily, Finset.disjoint_iff_inter_eq_empty]
      exact not_not.mp (of_decide_eq_false hdisjoint)
    split at h
    · rename_i hworking
      obtain ⟨out, hout, h⟩ := except_bind_eq_ok.mp h
      cases h
      obtain ⟨notional, value, hnotional, hle, rfl⟩ := pendingRow_ok hout
      have hopen : row.filledSymbols context.orders = ∅ := by
        refine if_neg ?_
        rw [hroot]
        rintro hfilled
        have hstatus : root.status = "filled" := of_decide_eq_true hfilled
        rw [hstatus] at hworking
        exact absurd hworking.1 (by decide)
      refine ⟨.pending hroot hworking.1 hnotional hle, hapart, by rw [hfamily], ?_, ?_⟩
      · rw [hopen]
        exact Finset.disjoint_empty_left _
      · rw [hopen, Finset.union_empty]
    · split at h
      · rename_i hfilled
        obtain ⟨out, hout, h⟩ := except_bind_eq_ok.mp h
        cases h
        obtain ⟨hcounts, hfree⟩ := filledRow_ok hroot hfilled.1 hout hq
        have hsymbols : row.filledSymbols context.orders = {row.contract} := by
          refine if_pos ?_
          rw [hroot]
          exact decide_eq_true hfilled.1
        refine ⟨hcounts, hapart, by rw [hfamily], ?_, ?_⟩
        · rw [hsymbols]
          exact Finset.disjoint_singleton_left.mpr hfree
        · rw [hsymbols]
          show insert row.contract covered.holdings = covered.holdings ∪ {row.contract}
          rw [Finset.insert_eq, Finset.union_comm]
      · cases h
  · rename_i hid
    split at h
    · cases h
    · cases h
      have hid' : truthy row.brokerOrderId = false := by simpa using hid
      have hfamily : row.family context.orders = ∅ := if_neg hid
      have hsymbols : row.filledSymbols context.orders = ∅ := by
        unfold Signal.filledSymbols Signal.entry?
        rw [if_neg hid]
        rfl
      rw [hfamily, hsymbols, Finset.union_empty, Finset.union_empty]
      exact ⟨.unsent hid', Finset.disjoint_empty_left _, rfl, Finset.disjoint_empty_left _, rfl⟩

/-- **What a whole book of reservations takes**, one after the other. -/
theorem exposureRows_ok {rows out : List Signal}
    (h : exposureRows context rows covered = .ok (out, covered')) :
    List.Forall₂ (CountsAs context) rows out
      ∧ Coverage.Taking (Signal.family context.orders) rows covered.orders covered'.orders
      ∧ Coverage.Taking (Signal.filledSymbols context.orders) rows covered.holdings
        covered'.holdings := by
  induction rows generalizing covered out with
  | nil =>
    cases h
    exact ⟨.nil, .nil _, .nil _⟩
  | cons row rows ih =>
    obtain ⟨⟨counted, next⟩, hrow, h⟩ := except_bind_eq_ok.mp h
    obtain ⟨⟨rest, last⟩, hrest, h⟩ := except_bind_eq_ok.mp h
    cases h
    obtain ⟨hcounts, horders, hnext, hholdings, hnext'⟩ := exposureRow_ok hrow
    obtain ⟨hall, htaken, hheld⟩ := ih hrest
    rw [hnext] at htaken
    rw [hnext'] at hheld
    exact ⟨.cons hcounts hall, .cons horders htaken, .cons hholdings hheld⟩

end Rows

/-! ## Protection -/

section Protection

variable {context : BrokerEntryContext} {row : Signal}

theorem finiteDecimalEq_iff {text : String} {quantity : ℚ} :
    finiteDecimalEq text (.finite quantity) = some true ↔ readDecimal text = .ok quantity := by
  rw [readDecimal_eq_ok]
  unfold finiteDecimalEq decimal decimal.finite?
  cases hvalue : WireDecimal.ofString? text with
  | none => simp [hvalue]
  | some value => cases value <;> simp [hvalue, WireDecimal.eq?]

/-- A leg that keeps a held stop held is a live take-profit. -/
theorem liveTakeProfit_iff {stop leg : OrderObservation} {side : String} {quantity : ℚ} :
    liveTakeProfit stop side (.finite quantity) leg = some true
      ↔ leg.orderId ≠ stop.orderId ∧ leg.LiveTakeProfit side quantity := by
  unfold liveTakeProfit OrderObservation.LiveTakeProfit
  rw [← finiteDecimalEq_iff, ← finiteDecimalEq_iff]
  by_cases hleg : leg.orderId ≠ stop.orderId ∧ leg.orderType = "limit" ∧ leg.status = "new"
      ∧ leg.side ≠ side
  · rw [if_pos hleg]
    obtain ⟨hid, htype, hstatus, hside⟩ := hleg
    cases hq : finiteDecimalEq leg.quantity (.finite quantity) with
    | none => simp
    | some same => cases same <;> simp [hid, htype, hstatus, hside]
  · rw [if_neg hleg]
    simp only [Option.some.injEq, Bool.false_eq_true, false_iff]
    rintro ⟨hid, htype, hstatus, hside, -, -⟩
    exact hleg ⟨hid, htype, hstatus, hside⟩

/-- **`protective_stop` is right**: the one live stop, and where it is held the
one take-profit that keeps it held. -/
theorem protectiveStop_spec {legs : List OrderObservation} {side : String} {quantity : ℚ}
    {stop : OrderObservation}
    (h : protectiveStop legs side (.finite quantity) = some (some stop)) :
    (∀ leg, leg ∈ legs ∧ leg.LiveStop ↔ leg = stop)
      ∧ (stop.status = "held" → ∃ profit, ∀ leg,
        leg ∈ legs ∧ leg.orderId ≠ stop.orderId ∧ leg.LiveTakeProfit side quantity
          ↔ leg = profit) := by
  unfold protectiveStop at h
  split at h
  · rename_i only honly
    have hmem : ∀ leg, leg ∈ legs ∧ leg.LiveStop ↔ leg = only := by
      intro leg
      rw [← List.mem_singleton, ← honly, List.mem_filter]
      simp [OrderObservation.LiveStop]
    split at h
    · obtain ⟨live, hlive, h⟩ := Option.bind_eq_some_iff.mp h
      split at h
      · rename_i hone
        cases h
        obtain ⟨profit, rfl⟩ := List.length_eq_one_iff.mp hone
        refine ⟨hmem, fun _ => ⟨profit, fun leg => ?_⟩⟩
        rw [← List.mem_singleton, filterM_eq_some hlive, List.mem_filter, decide_eq_true_eq,
          liveTakeProfit_iff]
      · cases h
    · rename_i hnew
      cases h
      exact ⟨hmem, fun hheld => absurd hheld hnew⟩
  · cases h

/-- The stop's price, and what it stands against. -/
theorem protectionPrice_ok {side : String} {quantity price : ℚ} {stop : OrderObservation}
    (h : protectionPrice side quantity stop = .ok price) :
    stop.side ≠ side ∧ readDecimal stop.quantity = .ok quantity
      ∧ stop.stopPrice.map readDecimal = some (.ok price) := by
  unfold protectionPrice at h
  obtain ⟨foreign, hforeign, h⟩ := except_bind_eq_ok.mp h
  obtain ⟨hown, h⟩ := refuse_bind_eq_ok.mp h
  obtain ⟨filled, -, h⟩ := except_bind_eq_ok.mp h
  obtain ⟨htruthy, h⟩ := refuse_bind_eq_ok.mp h
  obtain ⟨value, hvalue, h⟩ := except_bind_eq_ok.mp h
  obtain ⟨-, h⟩ := refuse_bind_eq_ok.mp h
  cases h
  rw [hown] at hforeign
  unfold foreignLeg at hforeign
  split at hforeign
  · cases hforeign
  · rename_i hside
    obtain ⟨q, hq, hsame⟩ := except_bind_eq_ok.mp hforeign
    have hqq : q = quantity := by simpa using hsame
    refine ⟨hside, hqq ▸ hq, ?_⟩
    cases hprice : stop.stopPrice with
    | none => simp [hprice, truthy] at htruthy
    | some text => simpa [hprice] using hvalue

/-- An order of the book that a reservation claims, other than its filled entry
order, is one of its exit legs. -/
theorem mem_exitLegs_of_claims (hnodup : (context.orders.map (·.orderId)).Nodup)
    {root o : OrderObservation} (hroot : row.entry? context.orders = some root)
    (hstatus : root.status = "filled") (ho : o ∈ context.orders)
    (hclaims : row.Claims context.orders o.orderId) (hopen : o.status ≠ "filled") :
    o ∈ exitLegs context (row.brokerOrderId.getD "") := by
  obtain ⟨rootId, hid, -, hlineage⟩ := hclaims
  unfold exitLegs
  rw [hid, Option.getD_some, List.mem_filter]
  refine ⟨ho, ?_⟩
  rw [Bool.and_eq_true, decide_eq_true_eq, decide_eq_true_eq]
  refine ⟨mem_group_iff.mpr hlineage, fun hsame => hopen ?_⟩
  unfold Signal.entry? at hroot
  rw [hid, Option.getD_some] at hroot
  split at hroot
  · have hfound : root.orderId = rootId := by simpa using List.find?_some hroot
    have hrootmem := List.mem_of_find?_eq_some hroot
    have heq : o = root := List.inj_on_of_nodup_map hnodup ho hrootmem (hsame.trans hfound.symm)
    rw [heq, hstatus]
  · cases hroot

/-- An exit leg is an order of the book that the reservation claims. -/
theorem claims_of_mem_exitLegs {root o : OrderObservation}
    (hroot : row.entry? context.orders = some root)
    (ho : o ∈ exitLegs context (row.brokerOrderId.getD "")) :
    o ∈ context.orders ∧ row.Claims context.orders o.orderId := by
  unfold exitLegs at ho
  rw [List.mem_filter, Bool.and_eq_true, decide_eq_true_eq] at ho
  refine ⟨ho.1, ?_⟩
  rw [← mem_family]
  unfold Signal.entry? at hroot
  split at hroot
  · rename_i hid
    rw [Signal.family, if_pos hid]
    exact ho.2.1
  · cases hroot

/-- **A filled reservation's holding is protected.** -/
theorem protects_of_filled (hnodup : (context.orders.map (·.orderId)).Nodup)
    {root stop : OrderObservation} {holding : BrokerPosition} {mark price : ℚ}
    (hroot : row.entry? context.orders = some root) (hstatus : root.status = "filled")
    (hquantity : |holding.quantity| = row.quantity) (hmark : holding.currentPrice = some mark)
    (hstop : protectiveStop (exitLegs context (row.brokerOrderId.getD ""))
      (entrySide row.direction) (.finite row.quantity) = some (some stop))
    (hprice : protectionPrice (entrySide row.direction) row.quantity stop = .ok price)
    (hdistance : 0 < (mark - price) * (if entrySide row.direction = "buy" then 1 else -1)) :
    Protects context.orders row holding mark price stop := by
  obtain ⟨honly, hheld⟩ := protectiveStop_spec hstop
  obtain ⟨hside, hsize, hread⟩ := protectionPrice_ok hprice
  obtain ⟨hleg, hlive⟩ := (honly stop).mpr rfl
  obtain ⟨hmem, hclaims⟩ := claims_of_mem_exitLegs hroot hleg
  refine ⟨hmark, hclaims, hmem, hlive, fun o ho hc hl => ?_, fun h => ?_, hside, ?_, hread, ?_⟩
  · refine (honly o).mp ⟨mem_exitLegs_of_claims hnodup hroot hstatus ho hc ?_, hl⟩
    intro hfilled
    have hnot := hl.2
    rw [hfilled] at hnot
    exact absurd hnot (by decide)
  · obtain ⟨profit, hprofit⟩ := hheld h
    obtain ⟨hp, -, hplive⟩ := (hprofit profit).mpr rfl
    obtain ⟨hpmem, hpclaims⟩ := claims_of_mem_exitLegs hroot hp
    refine ⟨profit, ⟨hpmem, hpclaims, hplive⟩, ?_⟩
    rintro o ⟨ho, hc, hl⟩
    refine (hprofit o).mp ⟨mem_exitLegs_of_claims hnodup hroot hstatus ho hc ?_, ?_, hl⟩
    · rw [hl.2.1]
      decide
    · intro hsame
      have heq : o = stop := List.inj_on_of_nodup_map hnodup ho hmem hsame
      have htype := hl.1
      rw [heq] at htype
      rcases hlive.1 with hs | hs <;> rw [hs] at htype <;> exact absurd htype (by decide)
  · rw [hquantity]
    exact hsize
  · unfold entrySide at hdistance
    cases hdirection : row.direction with
    | long =>
      have hbeyond : price < mark := by simpa [hdirection] using hdistance
      simpa using hbeyond
    | short =>
      have hbeyond : mark < price := by simpa [hdirection] using hdistance
      simpa using hbeyond

end Protection

/-! ## The whole book -/

section Book

variable {context : BrokerEntryContext} {row counted : Signal} {reservations rows : List Signal}

theorem mem_filledSymbols {orders : List OrderObservation} {symbol : String} :
    symbol ∈ row.filledSymbols orders
      ↔ symbol = row.contract ∧ ∃ root, row.entry? orders = some root ∧ root.status = "filled" := by
  unfold Signal.filledSymbols
  split
  · rename_i hfilled
    rw [Option.any_eq_true] at hfilled
    simp only [decide_eq_true_eq] at hfilled
    rw [Finset.mem_singleton]
    exact ⟨fun h => ⟨h, hfilled⟩, And.left⟩
  · rename_i hopen
    rw [Option.any_eq_true] at hopen
    simp only [Finset.notMem_empty, false_iff]
    rintro ⟨-, root, hroot, hstatus⟩
    exact hopen ⟨root, hroot, decide_eq_true hstatus⟩

/-- The holding on a symbol. -/
theorem holding_eq (hsymbols : (context.positions.map (·.symbol)).Nodup)
    {holding found : BrokerPosition} {symbol : String} (hmem : holding ∈ context.positions)
    (hsymbol : symbol = holding.symbol)
    (hfound : context.positions.find? (fun p => p.symbol = symbol) = some found) :
    holding = found := by
  have hsame : found.symbol = symbol := by simpa using List.find?_some hfound
  exact List.inj_on_of_nodup_map hsymbols hmem (List.mem_of_find?_eq_some hfound)
    (hsymbol.symm.trans hsame.symm)

/-- **A reservation counts at least at what was reserved and at the mark.** -/
theorem CountsAs.atLeast (horders : (context.orders.map (·.orderId)).Nodup)
    (hsymbols : (context.positions.map (·.symbol)).Nodup) (h : CountsAs context row counted) :
    CountsAtLeast context row counted := by
  cases h with
  | unsent hid =>
    refine ⟨fun n hn => ⟨n, hn, le_rfl⟩, le_rfl, ?_⟩
    rintro holding - ⟨-, -, -, root, hroot, -⟩
    rw [Signal.entry?, if_neg (by simp [hid])] at hroot
    cases hroot
  | pending hroot hstatus hnotional hle =>
    refine ⟨fun n hn => ⟨_, rfl, ?_⟩, le_rfl, ?_⟩
    · rw [hnotional] at hn
      cases hn
      exact hle
    · rintro holding - ⟨-, -, -, root', hroot', hfilled⟩
      rw [hroot] at hroot'
      cases hroot'
      rw [hfilled] at hstatus
      exact absurd hstatus (by decide)
  | @filled root stop found mark price notional value risk hroot hstatus hfound hdirection hquantity
      hmark hstop hprice hdistance hnotional hle hmarked hrisk hgiveback =>
    refine ⟨fun n hn => ⟨_, rfl, ?_⟩, hrisk, ?_⟩
    · rw [hnotional] at hn
      cases hn
      exact hle
    · rintro holding hmem ⟨hcontract, -, -, -⟩
      obtain rfl := holding_eq hsymbols hmem hcontract hfound
      have hprotects := protects_of_filled horders hroot hstatus hquantity hmark hstop hprice
        hdistance
      refine ⟨mark, price, stop, hprotects, ⟨_, rfl, ?_⟩, ?_⟩
      · rw [hquantity]
        exact hmarked
      · rw [hquantity]
        refine le_trans (mul_le_mul_of_nonneg_left ?_ ?_) hgiveback
        · rw [← abs_of_pos hdistance, abs_mul]
          split <;> simp
        · rw [← hquantity]
          exact abs_nonneg _

/-- A counted row whose entry is filled owns the holding on its symbol. -/
theorem CountsAs.owns (hsymbols : (context.positions.map (·.symbol)).Nodup)
    {holding : BrokerPosition} (hmem : holding ∈ context.positions)
    (h : CountsAs context row counted)
    (hfilled : holding.symbol ∈ row.filledSymbols context.orders) :
    row.Owns context.orders holding := by
  obtain ⟨hsymbol, root', hroot', hstatus'⟩ := mem_filledSymbols.mp hfilled
  cases h with
  | unsent hid =>
    rw [Signal.entry?, if_neg (by simp [hid])] at hroot'
    cases hroot'
  | pending hroot hstatus hnotional hle =>
    rw [hroot] at hroot'
    cases hroot'
    rw [hstatus'] at hstatus
    exact absurd hstatus (by decide)
  | filled hroot hstatus hfound hdirection hquantity =>
    obtain rfl := holding_eq hsymbols hmem hsymbol.symm hfound
    exact ⟨hsymbol.symm, hdirection.symm, hquantity.symm, root', hroot', hstatus'⟩

/-- **What `_exposure` has checked.** -/
theorem exposure_ok (h : exposure reservations context = .ok rows) :
    List.Forall₂ (CountsAtLeast context) reservations rows
      ∧ (∀ holding ∈ context.positions,
        ∃! i : ℕ, ∃ row, reservations[i]? = some row ∧ row.Owns context.orders holding)
      ∧ ∀ o ∈ context.orders, o.status ∉ terminalStatuses →
        ∃! i : ℕ, ∃ row, reservations[i]? = some row ∧ row.Claims context.orders o.orderId := by
  unfold exposure at h
  obtain ⟨hnodup, h⟩ := refuse_bind_eq_ok.mp h
  obtain ⟨⟨out, covered⟩, hrows, h⟩ := except_bind_eq_ok.mp h
  obtain ⟨hheld, h⟩ := refuse_bind_eq_ok.mp h
  obtain ⟨hopen, h⟩ := refuse_bind_eq_ok.mp h
  cases h
  simp only [Bool.or_eq_false_iff, Bool.not_eq_false', decide_eq_true_eq] at hnodup
  obtain ⟨hall, htaken, hholdings⟩ := exposureRows_ok hrows
  refine ⟨hall.imp (fun _ _ h => h.atLeast hnodup.1 hnodup.2), fun holding hmem => ?_,
    fun o ho hstatus => ?_⟩
  · have hcovered : holding.symbol ∈ covered.holdings := by
      have hnot := List.any_eq_false.mp hheld holding hmem
      simpa using hnot
    obtain ⟨i, ⟨row, hrow, hfilled⟩, hunique⟩ := hholdings.existsUnique hcovered
    have howns : row.Owns context.orders holding := by
      obtain ⟨counted, -, hcounts⟩ := exists_of_forall₂ hall (List.mem_of_getElem? hrow)
      exact hcounts.owns hnodup.2 hmem hfilled
    refine ⟨i, ⟨row, hrow, howns⟩, ?_⟩
    rintro j ⟨row', hrow', hcontract, -, -, hroot⟩
    exact hunique j ⟨row', hrow', mem_filledSymbols.mpr ⟨hcontract.symm, hroot⟩⟩
  · have hcovered : o.orderId ∈ covered.orders := by
      have hnot := List.any_eq_false.mp hopen o ho
      by_contra hout
      exact hnot (by simp [hout, hstatus])
    simpa only [mem_family] using htaken.existsUnique hcovered

end Book

/-! ## Admission and the totals -/

section Admission

variable {text : RiskText} {limits : RiskLimits} {multiplier : String → Option ℚ}
  {request : OrderRequest} {rows : List Signal} {drawdown : ℚ} {equity price : Option ℚ}

/-- The numbers of an intent are those it was made of. -/
theorem EntryIntent.make_ok {symbol : String} {direction : Direction} {assetClass : AssetClass}
    {quantity entry stop target factor : ℚ} {currentPrice : Option ℚ} {intent : EntryIntent}
    (h : EntryIntent.make symbol direction assetClass quantity entry stop target factor
      currentPrice = .ok intent) :
    intent.quantity = quantity ∧ intent.entry = entry ∧ intent.stop = stop
      ∧ intent.direction = direction ∧ intent.multiplier = factor
      ∧ intent.currentPrice = currentPrice := by
  unfold EntryIntent.make at h
  repeat' split at h
  all_goals cases h
  exact ⟨rfl, rfl, rfl, rfl, rfl, rfl⟩

/-- **What an accepted request went through.** -/
theorem reservationRejection_gates
    (h : reservationRejection text limits multiplier request rows drawdown equity price = none) :
    ∃ intent budget,
      EntryIntent.make request.symbol request.direction request.assetClass request.quantity
          request.entryPrice request.stopLoss request.takeProfit
          ((multiplier request.symbol).getD 1) price = .ok intent
        ∧ perTradeRiskBudget limits equity drawdown 1 = .ok budget
        ∧ admissionGates text intent (Book.fromSignalRows rows true) budget limits none
          = none := by
  unfold reservationRejection at h
  split at h
  · cases h
  · split at h
    · cases h
    · dsimp only at h
      split at h
      · cases h
      · split at h
        · split at h <;> cases h
        · rename_i intent hintent
          split at h
          · cases h
          · rename_i budget hbudget
            exact ⟨intent, budget, hintent, hbudget, Option.map_eq_none_iff.mp h⟩

/-- An intent that clears the reward rule has its stop on the losing side, so
that its distance is the one of the totals. -/
theorem riskDistance_eq_abs {intent : EntryIntent} {required : ℚ}
    (h : rewardRisk text intent required = none) :
    intent.riskDistance = |intent.entry - intent.stop| := by
  have hmeets := refuseIf_eq_none.mp h
  have hpos : 0 < intent.riskDistance := by
    by_contra hnot
    exact hmeets (if_pos (not_lt.mp hnot))
  have habs : |intent.riskDistance| = |intent.entry - intent.stop| := by
    unfold EntryIntent.riskDistance EntryIntent.sign
    rw [abs_mul]
    split <;> simp
  rw [← habs, abs_of_pos hpos]

/-- **With a multiplier of at least one, the order as it is counted in the
totals is no more than as the rules have weighed it.** -/
theorem candidate_le {intent : EntryIntent} {required : ℚ} (hone : 1 ≤ intent.multiplier)
    (h : rewardRisk text intent required = none) :
    |intent.entry - intent.stop| * intent.quantity ≤ intent.riskDollars
      ∧ intent.exposurePrice * intent.quantity ≤ intent.notional := by
  have hq := intent.quantity_pos.le
  have hdistance := riskDistance_eq_abs h
  have hrisk : 0 ≤ intent.riskDistance := hdistance ▸ abs_nonneg _
  have hprice : 0 ≤ intent.exposurePrice := by
    unfold EntryIntent.exposurePrice
    split
    · exact intent.entry_pos.le.trans (le_max_left _ _)
    · exact intent.entry_pos.le
  constructor
  · unfold EntryIntent.riskDollars
    rw [max_eq_left hrisk, ← hdistance]
    exact le_mul_of_one_le_right (mul_nonneg hrisk hq) hone
  · exact le_mul_of_one_le_right (mul_nonneg hprice hq) hone

/-- The capital and the drawdown factor of a budget. -/
theorem perTradeRiskBudget_parts {factor : ℚ} {budget : RiskBudget}
    (h : perTradeRiskBudget limits equity drawdown factor = .ok budget) :
    riskCapital limits.cash equity = .ok budget.capital
      ∧ drawdownRiskFactor drawdown limits = .ok budget.drawdownFactor := by
  unfold perTradeRiskBudget at h
  obtain ⟨capital, hcapital, h⟩ := except_bind_eq_ok.mp h
  obtain ⟨drawdownFactor, hdrawdown, h⟩ := except_bind_eq_ok.mp h
  cases h
  exact ⟨hcapital, hdrawdown⟩

/-- The capital is the lesser of the mandate and the equity. -/
theorem riskCapital_eq_min {mandate value capital : ℚ}
    (h : riskCapital mandate (some value) = .ok capital) : capital = min mandate value := by
  unfold riskCapital at h
  split at h
  · cases h
  · dsimp only at h
    split at h
    · cases h
    · cases h
      rfl

theorem plannedRisk_fromSignalRows :
    (Book.fromSignalRows rows true).plannedRisk = (rows.map (·.riskDollars)).sum := by
  unfold Book.plannedRisk Book.fromSignalRows
  rw [List.map_map]
  rfl

theorem notional_fromSignalRows :
    (Book.fromSignalRows rows true).notional
      = (rows.map (fun row => row.notionalValue.getD 0)).sum := by
  unfold Book.notional Book.fromSignalRows
  rw [List.map_map]
  rfl

end Admission

/-- **What the claimed totals mean**: an assessment is sound when the book of the
broker is owned, protected and within the limits with the entry in it. -/
structure SoundAssessment (cfg : CapacityConfig) (request : EntryRequest)
    (reservations : List Signal) (context : BrokerEntryContext)
    (accountRisk : Option AccountRiskSnapshot) (a : CapacityAssessment) : Prop where
  owned : ∀ holding ∈ context.positions,
    ∃! i : ℕ, ∃ row, reservations[i]? = some row ∧ row.Owns context.orders holding
  guarded : ∀ holding ∈ context.positions, ∀ row ∈ reservations,
    row.Owns context.orders holding →
    ∃ mark price stop, Protects context.orders row holding mark price stop
  orders : ∀ o ∈ context.orders, o.status ∉ terminalStatuses →
    ∃! i : ℕ, ∃ row, reservations[i]? = some row ∧ row.Claims context.orders o.orderId
  counted : ∃ rows, List.Forall₂ (CountsAtLeast context) reservations rows
    ∧ a.aggregateStopRisk = |request.entryPrice - request.stopLoss| * request.quantity
      + (rows.map (·.riskDollars)).sum
    ∧ a.aggregateNotional
      = max (max request.entryPrice context.quote.askPrice) context.price * request.quantity
        + (rows.map (fun row => row.notionalValue.getD 0)).sum
    ∧ a.positionCount = rows.length + 1
  stopRisk : ∃ factor,
    drawdownRiskFactor ((accountRisk.map (·.drawdownPct)).getD 0) cfg.limits = .ok factor
      ∧ a.aggregateStopRisk
        ≤ min cfg.limits.cash (context.leastEquity accountRisk) * cfg.limits.maxStopRiskPct * factor
  notional : a.aggregateNotional ≤ cfg.limits.maxNotionalExposure
  count : a.positionCount ≤ cfg.limits.maxConcurrentPositions
  funded : a.requiredBuyingPower ≤ a.availableBuyingPower

section Assessment

variable {text : RiskText} {cfg : CapacityConfig} {request : EntryRequest}
  {reservations : List Signal} {context : BrokerEntryContext}
  {accountRisk : Option AccountRiskSnapshot} {now : Time} {a : CapacityAssessment}

/-- **What the assessment has computed.** -/
theorem assessEntryCapacity_ok
    (h : assessEntryCapacity text cfg request reservations context accountRisk now = .ok a) :
    ∃ rows notionals, exposure reservations context = .ok rows
      ∧ reservationRejection text cfg.limits cfg.multiplier request.toOrderRequest rows
        ((accountRisk.map (·.drawdownPct)).getD 0) (some (context.leastEquity accountRisk))
        (some (max (max request.entryPrice context.quote.askPrice) context.price)) = none
      ∧ rows.mapM (fun row => readNumber row.notionalValue) = .ok notionals
      ∧ a.requiredBuyingPower ≤ a.availableBuyingPower
      ∧ a.aggregateStopRisk = |request.entryPrice - request.stopLoss| * request.quantity
        + (rows.map (·.riskDollars)).sum
      ∧ a.aggregateNotional
        = max (max request.entryPrice context.quote.askPrice) context.price * request.quantity
          + notionals.sum
      ∧ a.positionCount = rows.length + 1 := by
  unfold assessEntryCapacity at h
  obtain ⟨-, -, h⟩ := except_bind_eq_ok.mp h
  obtain ⟨-, -, h⟩ := except_bind_eq_ok.mp h
  obtain ⟨-, -, h⟩ := except_bind_eq_ok.mp h
  obtain ⟨-, -, h⟩ := except_bind_eq_ok.mp h
  obtain ⟨capital, -, h⟩ := except_bind_eq_ok.mp h
  obtain ⟨⟨required, available⟩, -, h⟩ := except_bind_eq_ok.mp h
  obtain ⟨hfunded, h⟩ := refuse_bind_eq_ok.mp h
  obtain ⟨rows, hrows, h⟩ := except_bind_eq_ok.mp h
  dsimp only at h
  split at h
  · cases h
  · rename_i hnone
    obtain ⟨notionals, hnotionals, h⟩ := except_bind_eq_ok.mp h
    cases h
    exact ⟨rows, notionals, hrows, hnone, hnotionals, not_lt.mp (of_decide_eq_false hfunded), rfl,
      rfl, rfl⟩

/-- The notionals that were read are those of the rows. -/
theorem notionals_eq {rows : List Signal} {notionals : List ℚ}
    (h : List.Forall₂ (fun row n => readNumber row.notionalValue = .ok n) rows notionals) :
    notionals = rows.map (fun row => row.notionalValue.getD 0) := by
  induction h with
  | nil => rfl
  | cons hread _ ih =>
    rw [List.map_cons, readNumber_eq_ok.mp hread, ← ih]
    rfl

/-- **An assessment of an instrument without a smaller multiplier is sound.** -/
theorem assessEntryCapacity_sound
    (hone : ∀ m, cfg.multiplier request.symbol = some m → 0 < m → 1 ≤ m)
    (h : assessEntryCapacity text cfg request reservations context accountRisk now = .ok a) :
    SoundAssessment cfg request reservations context accountRisk a := by
  obtain ⟨rows, notionals, hrows, hnone, hnotionals, hfunded, hrisk, hnotional, hcount⟩ :=
    assessEntryCapacity_ok h
  obtain ⟨hcounted, howned, horders⟩ := exposure_ok hrows
  obtain ⟨intent, budget, hintent, hbudget, hgates⟩ := reservationRejection_gates hnone
  obtain ⟨-, -, hreward, -, -, -, hstop, hplaces, -, hportfolio, -, -⟩ :=
    admissionGates_eq_none.mp hgates
  obtain ⟨hquantity, hentry, hstopLoss, -, hmultiplier, hcurrent⟩ := EntryIntent.make_ok hintent
  have hsum := notionals_eq (mapM_eq_ok.mp hnotionals)
  have hfactor : 1 ≤ intent.multiplier := by
    have hpos := intent.multiplier_pos
    rw [hmultiplier] at hpos ⊢
    cases hm : cfg.multiplier request.symbol with
    | none => exact le_rfl
    | some m =>
      rw [hm] at hpos
      exact hone m hm hpos
  obtain ⟨hcandidate, hexposure⟩ := candidate_le hfactor hreward
  rw [hentry, hstopLoss, hquantity] at hcandidate
  have hprice : intent.exposurePrice
      = max (max request.entryPrice context.quote.askPrice) context.price := by
    unfold EntryIntent.exposurePrice
    rw [hcurrent, hentry]
    exact max_eq_right ((le_max_left _ _).trans (le_max_left _ _))
  rw [hprice, hquantity] at hexposure
  refine ⟨howned, fun holding hmem row hrow howns => ?_, horders,
    ⟨rows, hcounted, hrisk, hsum ▸ hnotional, hcount⟩, ?_, ?_, ?_, hfunded⟩
  · obtain ⟨counted, -, hleast⟩ := exists_of_forall₂ hcounted hrow
    obtain ⟨mark, price, stop, hprotects, -, -⟩ := hleast.marked holding hmem howns
    exact ⟨mark, price, stop, hprotects⟩
  · obtain ⟨hcapital, hdrawdown⟩ := perTradeRiskBudget_parts hbudget
    have hle := not_lt.mp (refuseIf_eq_none.mp hstop)
    rw [plannedRisk_fromSignalRows, riskCapital_eq_min hcapital] at hle
    refine ⟨budget.drawdownFactor, hdrawdown, ?_⟩
    rw [hrisk]
    linarith
  · have hle := not_lt.mp (refuseIf_eq_none.mp hportfolio)
    rw [notional_fromSignalRows] at hle
    rw [hnotional, hsum]
    linarith
  · have hlt := not_le.mp (refuseIf_eq_none.mp hplaces)
    have hlength : rows.length < cfg.limits.maxConcurrentPositions := by
      simpa [Book.count, Book.fromSignalRows] using hlt
    rw [hcount]
    exact hlength

end Assessment

/-! ## A smaller multiplier -/

section Fraction

variable (text : RiskText) (symbol : String) {m : ℚ}

/-- Limits that leave room for a hundred dollars, as a multiplier weighs them. -/
def lotLimits (hm : 0 < m) : RiskLimits :=
  { deskLimits with
    maxNotionalExposure := 100 * m
    assetClassCaps := fun _ => none
    correlationGroups := []
    maxNotionalExposure_nonneg := by positivity
    assetClassCaps_nonneg := RiskLimits.uncapped }

/-- The configuration with these limits and the multiplier for every symbol. -/
def lotConfig (hm : 0 < m) : CapacityConfig where
  limits := lotLimits hm
  multiplier := fun _ => some m
  entryEvidenceMaxAgeSeconds := 10
  entryQuoteMaxAgeSeconds := 10

/-- One share for a hundred dollars. -/
def lotRequest : EntryRequest where
  symbol := symbol
  assetClass := .equity
  direction := .long
  side := .buy
  quantity := 1
  entryPrice := 100
  stopLoss := 95
  takeProfit := 110
  signalId := 1
  clientOrderId := none

def lotAccount : EntryAccountEvidence where
  accountId := "account"
  status := "ACTIVE"
  currency := "USD"
  buyingPower := 50000
  regtBuyingPower := 50000
  nonMarginableBuyingPower := 50000
  equity := 50000
  multiplier := 2
  tradingBlocked := false
  accountBlocked := false
  tradeSuspendedByUser := false
  shortingEnabled := true

/-- An account without holdings and orders, and a quote at a hundred dollars. -/
def lotContext : BrokerEntryContext where
  positions := []
  orders := []
  accountBefore := lotAccount
  account := lotAccount
  asset := ⟨symbol, "us_equity", "active", true, true, true, some "easy_to_borrow"⟩
  quote := ⟨symbol, 99, 100, 0, by norm_num, by norm_num⟩
  price := 100
  tradeTimestamp := 0
  requestedAt := 0
  observedAt := 0
  sessionClosesAt := 1
  price_pos := by norm_num
  validReceipts := le_rfl

/-- The assessment the code returns for it. -/
def lotAssessment : CapacityAssessment := ⟨100, 50000, 50000, 5, 100, 1⟩

/-- The intent of the request. -/
def lotIntent (hm : 0 < m) : EntryIntent where
  symbol := symbol
  direction := .long
  assetClass := .equity
  quantity := 1
  entry := 100
  stop := 95
  target := 110
  multiplier := m
  currentPrice := some 100
  quantity_pos := deskIntent.multiplier_pos
  entry_pos := by norm_num
  stop_pos := by norm_num
  target_pos := by norm_num
  multiplier_pos := hm
  currentPrice_pos := by simp

theorem lotIntent_riskDollars (hm : 0 < m) : (lotIntent symbol hm).riskDollars = 5 * m := by
  show max ((100 - 95 : ℚ) * 1) 0 * 1 * m = 5 * m
  norm_num

theorem lotIntent_notional (hm : 0 < m) : (lotIntent symbol hm).notional = 100 * m := by
  show max (100 : ℚ) 100 * 1 * m = 100 * m
  norm_num

theorem lot_budget (hm : 0 < m) :
    perTradeRiskBudget (lotLimits hm) (some 50000) 0 1 = .ok ⟨50000, 0, 1, 1, 500⟩ := by
  have hcapital : riskCapital 60000 (some 50000) = .ok 50000 := by decide +kernel
  have hfactor : drawdownRiskFactor 0 (lotLimits hm) = .ok 1 := by
    show (if (0 : ℚ) < 0 then _ else _) = _
    rw [if_neg (lt_irrefl _)]
    show (if (!true) = true then _ else if (6 / 100 : ℚ) ≤ 0 then _ else
      if (0 : ℚ) ≤ 3 / 100 then _ else _) = _
    norm_num
  unfold perTradeRiskBudget
  show (riskCapital 60000 (some 50000) >>= _) = _
  rw [hcapital]
  show (drawdownRiskFactor 0 (lotLimits hm) >>= _) = _
  rw [hfactor]
  have hfactored : macroRiskFactor 1 = 1 := by decide +kernel
  show Except.ok _ = _
  rw [hfactored]
  show Except.ok (RiskBudget.mk 50000 0 1 1 (50000 * (1 / 100) * 1 * 1)) = _
  norm_num

/-- A request whose intent passes every gate is not rejected. -/
theorem reservationRejection_of_gates {limits : RiskLimits} {multiplier : String → Option ℚ}
    {request : OrderRequest} {positions : List Signal} {drawdown : ℚ} {equity price : Option ℚ}
    {intent : EntryIntent} {budget : RiskBudget}
    (hside : request.side = brokerSide request.direction)
    (hknown : ¬ (multiplier request.symbol = none ∧ request.assetClass = .futures))
    (hfactor : 0 < (multiplier request.symbol).getD 1)
    (hintent : EntryIntent.make request.symbol request.direction request.assetClass
      request.quantity request.entryPrice request.stopLoss request.takeProfit
      ((multiplier request.symbol).getD 1) price = .ok intent)
    (hbudget : perTradeRiskBudget limits equity drawdown 1 = .ok budget)
    (hgates : admissionGates text intent (Book.fromSignalRows positions true) budget limits none
      = none) :
    reservationRejection text limits multiplier request positions drawdown equity price = none := by
  unfold reservationRejection
  rw [if_neg (not_not.mpr hside), if_neg hknown]
  dsimp only
  rw [if_neg (not_le.mpr hfactor), hintent]
  dsimp only
  rw [hbudget]
  dsimp only
  rw [hgates]
  rfl

theorem lot_admitted (hm : 0 < m) (hlt : m < 1) :
    reservationRejection text (lotLimits hm) (fun _ => some m) (lotRequest symbol).toOrderRequest []
      0 (some 50000) (some 100) = none := by
  have hmake : EntryIntent.make symbol .long .equity 1 100 95 110 m (some 100)
      = .ok (lotIntent symbol hm) := by
    unfold EntryIntent.make
    rw [dif_pos one_pos, dif_pos (by norm_num), dif_pos (by norm_num), dif_pos (by norm_num),
      dif_pos hm, dif_pos (by simp)]
    rfl
  refine reservationRejection_of_gates text (by simp [lotRequest, brokerSide]) (by simp) hm hmake
    (lot_budget hm) (admissionGates_eq_none.mpr ⟨?_, ?_, ?_, ?_, ?_, ?_, ?_, ?_, ?_, ?_, ?_, ?_⟩)
  · exact refuseIf_eq_none.mpr (by simp [Book.invalid, Book.fromSignalRows])
  · exact refuseIf_eq_none.mpr (by norm_num)
  · refine refuseIf_eq_none.mpr ?_
    show ¬ meetsMinRewardRisk ((110 - 100 : ℚ) * 1) ((100 - 95 : ℚ) * 1) 2 = false
    decide +kernel
  · refine refuseIf_eq_none.mpr (not_lt.mpr ?_)
    rw [lotIntent_riskDollars]
    show 5 * m ≤ 500
    linarith
  · refine refuseIf_eq_none.mpr (not_lt.mpr ?_)
    rw [lotIntent_notional]
    show 100 * m ≤ 30000
    linarith
  · refine refuseIf_eq_none.mpr (not_lt.mpr ?_)
    show (1 : ℚ) ≤ ((500 : ℕ) : ℚ)
    norm_num
  · refine refuseIf_eq_none.mpr (not_lt.mpr ?_)
    rw [lotIntent_riskDollars]
    show 0 + 5 * m ≤ 50000 * (3 / 100) * 1
    linarith
  · refine refuseIf_eq_none.mpr (not_le.mpr ?_)
    show 0 < 3
    decide
  · exact refuseIf_eq_none.mpr (by simp [Book.holds, Book.fromSignalRows])
  · refine refuseIf_eq_none.mpr (not_lt.mpr ?_)
    rw [lotIntent_notional]
    show 0 + 100 * m ≤ 100 * m
    linarith
  · rfl
  · rfl

theorem lot_assessed (hm : 0 < m) (hlt : m < 1) :
    assessEntryCapacity text (lotConfig hm) (lotRequest symbol) [] (lotContext symbol) none 0
      = .ok lotAssessment := by
  have hfresh : requireFresh (lotConfig hm) (lotContext symbol) 0 = .ok () := by
    show (fresh 0 0 10 _ >>= fun _ => fresh 0 0 10 _ >>= fun _ => fresh 0 0 10 _ >>= fun _ =>
      fresh 0 0 10 _ >>= fun _ => refuse (decide ((1 : ℤ) ≤ 0)) _) = _
    decide +kernel
  have hsupported : requireSupported (lotRequest symbol) (lotContext symbol) = .ok () := by
    simp [requireSupported, lotRequest, lotContext, refuse, Bind.bind, Except.bind]
  have haccount : requireAccount (lotContext symbol) none lotAccount = .ok () := by
    show (refuse (decide ("account" ≠ "account") || false) _ >>= _) = _
    decide +kernel
  have hequity : (lotContext symbol).leastEquity none = 50000 := by
    simp [BrokerEntryContext.leastEquity, lotContext, lotAccount]
  have hcapital : riskCapital 60000 (some 50000) = .ok 50000 := by decide +kernel
  have hfunding : funding (lotRequest symbol) (lotContext symbol) = .ok (100, 50000) := by
    simp [funding, BrokerEntryContext.least, lotRequest, lotContext, lotAccount]
  have hprice : max (max (lotRequest symbol).entryPrice (lotContext symbol).quote.askPrice)
      (lotContext symbol).price = 100 := by
    simp [lotRequest, lotContext]
  unfold assessEntryCapacity
  rw [hequity, hprice]
  refine except_bind_eq_ok.mpr ⟨(), hfresh, except_bind_eq_ok.mpr ⟨(), hsupported,
    except_bind_eq_ok.mpr ⟨(), haccount, except_bind_eq_ok.mpr ⟨(), haccount,
    except_bind_eq_ok.mpr ⟨50000, hcapital, except_bind_eq_ok.mpr ⟨(100, 50000), hfunding,
    refuse_bind_eq_ok.mpr ⟨by decide +kernel, except_bind_eq_ok.mpr ⟨[], rfl, ?_⟩⟩⟩⟩⟩⟩⟩⟩
  have hadmitted : reservationRejection text (lotConfig hm).limits (lotConfig hm).multiplier
      (lotRequest symbol).toOrderRequest []
      ((Option.map AccountRiskSnapshot.drawdownPct none).getD 0) (some 50000) (some 100) = none :=
    lot_admitted text symbol hm hlt
  dsimp only
  rw [hadmitted]
  show Except.ok (CapacityAssessment.mk 100 50000 50000 (|(100 - 95 : ℚ)| * 1 + 0)
    (100 * 1 + 0) (0 + 1)) = _
  unfold lotAssessment
  norm_num

/-- A fraction of a share is weighed, and a whole one is counted. -/
theorem lot_not_sound (hm : 0 < m) (hlt : m < 1) :
    ¬ SoundAssessment (lotConfig hm) (lotRequest symbol) [] (lotContext symbol) none
      lotAssessment := by
  intro h
  have hle : (100 : ℚ) ≤ 100 * m := h.notional
  linarith

end Fraction

/-- **Capacity admission is sound exactly for the instruments without a
multiplier below one**: for such a symbol every assessment that is returned has
the book owned, protected and within the limits; for another one, some
configuration, request and observation give an assessment above them. A
multiplier that is not positive admits nothing. -/
theorem capacity_sound_iff (multiplier : String → Option ℚ) (symbol : String) :
    (∀ (text : RiskText) (cfg : CapacityConfig) (request : EntryRequest)
        (reservations : List Signal) (context : BrokerEntryContext)
        (accountRisk : Option AccountRiskSnapshot) (now : Time) (a : CapacityAssessment),
        cfg.multiplier symbol = multiplier symbol → request.symbol = symbol →
        assessEntryCapacity text cfg request reservations context accountRisk now = .ok a →
        SoundAssessment cfg request reservations context accountRisk a)
      ↔ ∀ m, multiplier symbol = some m → 0 < m → 1 ≤ m := by
  constructor
  · intro h m hm hpos
    by_contra hlt
    have hlt' := not_le.mp hlt
    refine lot_not_sound symbol hpos hlt' ?_
    exact h deskText (lotConfig hpos) (lotRequest symbol) [] (lotContext symbol) none 0
      lotAssessment hm.symm rfl (lot_assessed deskText symbol hpos hlt')
  · intro hone text cfg request reservations context accountRisk now a hcfg hsymbol h
    refine assessEntryCapacity_sound ?_ h
    rw [hsymbol, hcfg]
    exact hone

/-- An equity with a multiplier of a half: the notional that is returned is
twice the ceiling. -/
theorem capacity_not_sound :
    ¬ ∀ (text : RiskText) (cfg : CapacityConfig) (request : EntryRequest)
        (reservations : List Signal) (context : BrokerEntryContext)
        (accountRisk : Option AccountRiskSnapshot) (now : Time) (a : CapacityAssessment),
        assessEntryCapacity text cfg request reservations context accountRisk now = .ok a →
        SoundAssessment cfg request reservations context accountRisk a := by
  intro h
  have hhalf : (0 : ℚ) < 1 / 2 := by norm_num
  have hone : (1 / 2 : ℚ) < 1 := by norm_num
  exact lot_not_sound "SPY" hhalf hone
    (h deskText _ _ _ _ _ _ _ (lot_assessed deskText "SPY" hhalf hone))

end AgenticTrader
