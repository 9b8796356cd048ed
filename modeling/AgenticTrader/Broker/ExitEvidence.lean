import AgenticTrader.Broker.Tradovate

/-!
# What an exit reported by Tradovate rests on

An exit is genuine where the broker has nothing open in the position's own contract,
and a fill or a filled order on the exit side of that contract, other than the entry
and executed after it, supplies the price; and where no other position of the pass is
closed by the same fill or order.

The first part always holds: the comparison with the open contracts admits more than
the own contract. The rest is not checked. A symbol is looked for inside the traded
contract, so the fills of `MESM4` pass for those of `/ES`; nothing compares a fill with
the time of the entry; two positions on one symbol match the same fill; and where
neither a fill nor an order is found, or neither could be read, the exit is reported at
the position's own target. `neverInvents_iff` says for which responses every exit
of a pass is genuine.
-/

namespace AgenticTrader

namespace Tradovate

variable {Time : Type}

/-! ## The position's own contract -/

/-- The codes of the delivery months. -/
def monthCodes : List Char := "FGHJKMNQUVXZ".toList

/-- A contract of a symbol: the symbol itself, or with a delivery month and year. -/
def OwnContract (symbol contract : String) : Prop :=
  contract = symbol ∨ ∃ month ∈ monthCodes, ∃ year : List Char,
    year ≠ [] ∧ (∀ digit ∈ year, digit.isDigit) ∧
      contract.toList = symbol.toList ++ month :: year

section Evidence

variable (config : Config) [LT Time]

/-- A contract named by the broker is the position's own. -/
def ActivePosition.Owns (position : ActivePosition Time) (contract : String) : Prop :=
  OwnContract (position.symbol config) (config.clean contract)

/-- Something that traded is an exit of the position. -/
structure Exits (position : ActivePosition Time) (orderId : WireId)
    (contract action : String) (executedAt : Time) : Prop where
  own : position.Owns config contract
  side : config.capitalize action = position.exitAction config
  notEntry : position.isEntry orderId = false
  after : position.enteredAt < executedAt

/-- A filled order that is an exit of the position. -/
structure FilledExit (position : ActivePosition Time) (order : Order Time) : Prop where
  filled : config.capitalize order.ordStatus = "Filled"
  exits : Exits config position order.id order.named order.action order.executedAt

/-- The exit of a closing has its price from a fill or a filled order that is an exit
of the position. -/
inductive Supplied (reads : Reads Time) (closing : Closing Time) : Prop
  | fill (fill : Fill Time) (i : ℕ) (price : ℚ)
      (read : reads.fillsCache[i]? = some fill)
      (matched : closing.fill = some (fill, i))
      (source : closing.source = .fill price)
      (priced : fill.price = some price ∧ closing.event.exitPrice = price)
      (exits : Exits config closing.position fill.orderId fill.contract fill.action
        fill.executedAt)
  | order (order : Order Time) (j : ℕ) (price : ℚ)
      (read : reads.ordersCache[j]? = some order)
      (matched : closing.order = some (order, j))
      (source : closing.source = .order price)
      (priced : order.paid = some price ∧ closing.event.exitPrice = price)
      (exits : FilledExit config closing.position order)

/-- Two closings have no fill and no order in common. -/
structure Apart (c d : Closing Time) : Prop where
  fills : ∀ fill, c.fill = some fill → d.fill ≠ some fill
  orders : ∀ order, c.order = some order → d.order ≠ some order
  orderIds : ∀ id, c.event.brokerOrderId = some id → d.event.brokerOrderId ≠ some id

/-- **No exit is invented**: every exit of the pass is genuine, and no two share what
they rest on. -/
structure NeverInvents (reads : Reads Time) (positions : List (ActivePosition Time)) :
    Prop where
  gone : ∀ c ∈ closings config reads positions, ∃ rows, reads.positions = some rows ∧
    ∀ row ∈ rows, row.netPos ≠ some 0 → ¬c.position.Owns config row.contract
  supplied : ∀ c ∈ closings config reads positions, Supplied config reads c
  apart : (closings config reads positions).Pairwise Apart

end Evidence

/-! ## The evidence among the responses -/

section Responses

variable (config : Config)

/-- The first row that a test admits. -/
structure FirstAt {Row : Type} (test : Row → Bool) (rows : List Row) (row : Row) (i : ℕ) :
    Prop where
  here : rows[i]? = some row
  admitted : test row = true
  earlier : ∀ j < i, ∀ other, rows[j]? = some other → test other = false

/-- The position is not among the broker's open ones, as the pass compares them. -/
def Missing (reads : Reads Time) (position : ActivePosition Time) : Prop :=
  reads.connected = true ∧
    ∃ rows, reads.positions = some rows ∧ position.isOpen config rows = false

/-- The fill read first among those that pass for an exit of the position. -/
abbrev TakesFill (reads : Reads Time) (position : ActivePosition Time) :
    Fill Time → ℕ → Prop :=
  FirstAt (position.exitFill config) reads.fillsCache

/-- The order of that fill, or where there is no such fill the order read first among
those that pass for an exit. -/
inductive TakesOrder (reads : Reads Time) (position : ActivePosition Time)
    (order : Order Time) (j : ℕ) : Prop
  | ofFill (fill : Fill Time) (i : ℕ) (taken : TakesFill config reads position fill i)
      (first : FirstAt (fun o => o.id.str = fill.orderId.str) reads.ordersCache order j)
  | alone (noFill : ∀ fill ∈ reads.fillsCache, position.exitFill config fill = false)
      (first : FirstAt (position.exitOrder config) reads.ordersCache order j)

/-- The order identifier that goes with them. -/
inductive NamesOrder (reads : Reads Time) (position : ActivePosition Time) (id : String) :
    Prop
  | order (order : Order Time) (j : ℕ) (taken : TakesOrder config reads position order j)
      (given : order.id.truthy = true) (same : order.id.str = id)
  | fill (fill : Fill Time) (i : ℕ)
      (unnamed : ∀ order j, TakesOrder config reads position order j →
        order.id.truthy = false)
      (taken : TakesFill config reads position fill i)
      (given : fill.orderId.truthy = true) (same : fill.orderId.str = id)

/-- Two positions take no fill and no order in common. -/
structure TakeApart (reads : Reads Time) (p q : ActivePosition Time) : Prop where
  fills : ∀ fill i, TakesFill config reads p fill i → ¬TakesFill config reads q fill i
  orders : ∀ order j, TakesOrder config reads p order j → ¬TakesOrder config reads q order j
  orderIds : ∀ id, NamesOrder config reads p id → ¬NamesOrder config reads q id

end Responses

/-! ## What the pass takes -/

section First

variable {Row : Type} (test : Row → Bool) (rows : List Row)

theorem firstWith_eq_some_iff (row : Row) (i : ℕ) :
    firstWith test rows = some (row, i) ↔ FirstAt test rows row i := by
  unfold firstWith
  rw [List.find?_eq_some_iff_getElem]
  constructor
  · rintro ⟨hrow, j, hj, hat, hbefore⟩
    rw [List.getElem_zipIdx, Prod.mk.injEq] at hat
    obtain ⟨rfl, rfl⟩ := hat
    refine ⟨?_, hrow, fun k hk other hother => ?_⟩
    · simp
    · obtain ⟨hk', rfl⟩ := List.getElem?_eq_some_iff.mp hother
      have := hbefore k (by omega)
      simpa using this
  · intro h
    obtain ⟨hi, rfl⟩ := List.getElem?_eq_some_iff.mp h.here
    refine ⟨h.admitted, i, by simpa using hi, by simp, fun k hk => ?_⟩
    have := h.earlier k hk _ (List.getElem?_eq_getElem (by omega))
    simpa using this

theorem firstWith_eq_none_iff :
    firstWith test rows = none ↔ ∀ row ∈ rows, test row = false := by
  unfold firstWith
  rw [List.find?_eq_none]
  constructor
  · intro h row hrow
    obtain ⟨i, hi, rfl⟩ := List.mem_iff_getElem.mp hrow
    have := h (rows[i], i) (List.mem_zipIdx_iff_getElem?.mpr (by simp))
    simpa using this
  · rintro h ⟨row, i⟩ hentry
    have hrow : row ∈ rows := List.fst_mem_of_mem_zipIdx hentry
    simp [h row hrow]

end First

section Taken

variable (config : Config) (reads : Reads Time) (position : ActivePosition Time)

theorem matchedFill_eq_some_iff (fill : Fill Time) (i : ℕ) :
    matchedFill config reads position = some (fill, i) ↔
      TakesFill config reads position fill i :=
  firstWith_eq_some_iff _ _ fill i

theorem matchedFill_eq_none_iff :
    matchedFill config reads position = none ↔
      ∀ fill ∈ reads.fillsCache, position.exitFill config fill = false :=
  firstWith_eq_none_iff _ _

theorem matchedOrder_eq_some_iff (order : Order Time) (j : ℕ) :
    matchedOrder config reads position = some (order, j) ↔
      TakesOrder config reads position order j := by
  unfold matchedOrder
  cases hfill : matchedFill config reads position with
  | none =>
    have hnone := (matchedFill_eq_none_iff config reads position).mp hfill
    show firstWith _ _ = some (order, j) ↔ _
    rw [firstWith_eq_some_iff]
    refine ⟨fun h => .alone hnone h, ?_⟩
    rintro (⟨fill, i, taken, -⟩ | ⟨-, first⟩)
    · rw [(matchedFill_eq_some_iff config reads position fill i).mpr taken] at hfill
      cases hfill
    · exact first
  | some entry =>
    obtain ⟨fill, i⟩ := entry
    have htaken := (matchedFill_eq_some_iff config reads position fill i).mp hfill
    show firstWith _ _ = some (order, j) ↔ _
    rw [firstWith_eq_some_iff]
    refine ⟨fun h => .ofFill fill i htaken h, ?_⟩
    rintro (⟨fill', i', taken, first⟩ | ⟨noFill, -⟩)
    · rw [(matchedFill_eq_some_iff config reads position fill' i').mpr taken] at hfill
      cases hfill
      exact first
    · rw [(matchedFill_eq_none_iff config reads position).mpr noFill] at hfill
      cases hfill

theorem brokerOrderId_eq_some_iff (id : String) :
    (closing config reads position).event.brokerOrderId = some id ↔
      NamesOrder config reads position id := by
  show reportedOrderId ((matchedFill config reads position).map (·.1))
    ((matchedOrder config reads position).map (·.1)) = some id ↔ _
  unfold reportedOrderId
  have horder := matchedOrder_eq_some_iff config reads position
  have hfill := matchedFill_eq_some_iff config reads position
  by_cases hnamed : ∃ order j, TakesOrder config reads position order j ∧
      order.id.truthy = true
  · obtain ⟨order, j, htaken, hgiven⟩ := hnamed
    rw [(horder order j).mpr htaken]
    simp only [Option.map_some, Option.filter_some, hgiven, if_true, Option.some.injEq]
    refine ⟨fun h => .order order j htaken hgiven h, ?_⟩
    rintro (⟨order', j', taken, -, same⟩ | ⟨-, -, unnamed, -⟩)
    · have heq := ((horder order j).mpr htaken).symm.trans ((horder order' j').mpr taken)
      cases heq
      exact same
    · rw [unnamed order j htaken] at hgiven
      cases hgiven
  · have hnone : ((matchedOrder config reads position).map (·.1)).filter (·.id.truthy)
        = none := by
      cases h : matchedOrder config reads position with
      | none => rfl
      | some entry =>
        have hid : entry.1.id.truthy = false := by
          by_contra htrue
          exact hnamed ⟨entry.1, entry.2, (horder _ _).mp h, by simpa using htrue⟩
        simp [hid]
    rw [hnone]
    show ((_ : Option (Fill Time)).filter _).map _ = some id ↔ _
    constructor
    · intro h
      obtain ⟨fill, hfilter, hid⟩ := Option.map_eq_some_iff.mp h
      obtain ⟨hmap, hgiven⟩ := Option.filter_eq_some_iff.mp hfilter
      obtain ⟨⟨_, i⟩, hmatched, rfl⟩ := Option.map_eq_some_iff.mp hmap
      refine .fill _ i (fun order j taken => ?_) ((hfill _ i).mp hmatched) hgiven hid
      by_contra htrue
      exact hnamed ⟨order, j, taken, by simpa using htrue⟩
    · rintro (⟨order, j, taken, given, -⟩ | ⟨fill, i, -, taken, given, same⟩)
      · exact (hnamed ⟨order, j, taken, given⟩).elim
      · rw [(hfill fill i).mpr taken]
        simp [given, same]

theorem ActivePosition.heldAs_of_owns (position : ActivePosition Time) {contract : String}
    (howns : position.Owns config contract) :
    position.heldAs config (config.clean contract) = true := by
  unfold ActivePosition.heldAs
  rcases howns with heq | ⟨month, -, year, -, -, happend⟩
  · simp [heq]
  · have hpart : contains (position.symbol config) (config.clean contract) = true := by
      rw [contains, decide_eq_true_iff, happend]
      exact (List.prefix_append _ _).isInfix
    simp [hpart]

/-- What is still open is not in the position's own contract. -/
theorem not_owns_of_missing (hmissing : Missing config reads position) :
    ∃ rows, reads.positions = some rows ∧
      ∀ row ∈ rows, row.netPos ≠ some 0 → ¬position.Owns config row.contract := by
  obtain ⟨-, rows, hrows, hclosed⟩ := hmissing
  refine ⟨rows, hrows, fun row hrow hnet howns => ?_⟩
  have hopen : position.isOpen config rows = true := by
    refine List.any_eq_true.mpr ⟨row, hrow, ?_⟩
    rw [position.heldAs_of_owns config howns]
    simpa using hnet
  rw [hclosed] at hopen
  cases hopen

theorem priceSource_eq_fill_iff (position : ActivePosition Time) (fill : Option (Fill Time))
    (order : Option (Order Time)) (price : ℚ) :
    priceSource config position fill order = .fill price ↔ fill.bind (·.price) = some price := by
  unfold priceSource
  cases fill.bind (·.price) with
  | some paid => simp
  | none => cases order.bind Order.paid <;> simp

theorem priceSource_eq_order_iff (position : ActivePosition Time) (fill : Option (Fill Time))
    (order : Option (Order Time)) (price : ℚ) :
    priceSource config position fill order = .order price ↔
      fill.bind (·.price) = none ∧ order.bind Order.paid = some price := by
  unfold priceSource
  cases fill.bind (·.price) with
  | some paid => simp
  | none => cases order.bind Order.paid <;> simp

theorem mem_closings_iff (positions : List (ActivePosition Time)) (c : Closing Time) :
    c ∈ closings config reads positions ↔
      ∃ position ∈ positions, Missing config reads position ∧
        c = closing config reads position := by
  unfold closings Missing
  cases reads.connected with
  | false => simp
  | true =>
    cases reads.positions with
    | none => simp
    | some rows =>
      simp only [List.mem_map, List.mem_filter, Bool.not_eq_true', true_and,
        Option.some.injEq, exists_eq_left']
      constructor
      · rintro ⟨position, ⟨hmem, hopen⟩, rfl⟩
        exact ⟨position, hmem, hopen, rfl⟩
      · rintro ⟨position, hmem, hopen, rfl⟩
        exact ⟨position, ⟨hmem, hopen⟩, rfl⟩

theorem apart_iff (p q : ActivePosition Time) :
    Apart (closing config reads p) (closing config reads q) ↔ TakeApart config reads p q := by
  constructor
  · intro h
    refine ⟨fun fill i hp hq => ?_, fun order j hp hq => ?_, fun id hp hq => ?_⟩
    · exact h.fills (fill, i) ((matchedFill_eq_some_iff config reads p fill i).mpr hp)
        ((matchedFill_eq_some_iff config reads q fill i).mpr hq)
    · exact h.orders (order, j) ((matchedOrder_eq_some_iff config reads p order j).mpr hp)
        ((matchedOrder_eq_some_iff config reads q order j).mpr hq)
    · exact h.orderIds id ((brokerOrderId_eq_some_iff config reads p id).mpr hp)
        ((brokerOrderId_eq_some_iff config reads q id).mpr hq)
  · intro h
    refine ⟨fun fill hp hq => ?_, fun order hp hq => ?_, fun id hp hq => ?_⟩
    · exact h.fills fill.1 fill.2 ((matchedFill_eq_some_iff config reads p _ _).mp hp)
        ((matchedFill_eq_some_iff config reads q _ _).mp hq)
    · exact h.orders order.1 order.2 ((matchedOrder_eq_some_iff config reads p _ _).mp hp)
        ((matchedOrder_eq_some_iff config reads q _ _).mp hq)
    · exact h.orderIds id ((brokerOrderId_eq_some_iff config reads p id).mp hp)
        ((brokerOrderId_eq_some_iff config reads q id).mp hq)

theorem closings_apart_iff (positions : List (ActivePosition Time)) :
    (closings config reads positions).Pairwise Apart ↔
      positions.Pairwise fun p q => Missing config reads p → Missing config reads q →
        TakeApart config reads p q := by
  unfold closings Missing
  cases reads.connected with
  | false => simpa using List.pairwise_of_forall fun _ _ => trivial
  | true =>
    cases reads.positions with
    | none => simpa using List.pairwise_of_forall fun _ _ => trivial
    | some rows =>
      simp only [true_and, Option.some.injEq, exists_eq_left', List.pairwise_map,
        List.pairwise_filter, Bool.not_eq_true', apart_iff]

end Taken

/-! ## The equivalence -/

section Equivalence

variable (config : Config) [LT Time]

/-- The fill taken is priced, of the own contract and later than the entry; or there
is no price on a fill, and the order taken is priced and an exit. -/
inductive Evidenced (reads : Reads Time) (position : ActivePosition Time) : Prop
  | fill (fill : Fill Time) (i : ℕ) (taken : TakesFill config reads position fill i)
      (priced : fill.price.isSome) (own : position.Owns config fill.contract)
      (after : position.enteredAt < fill.executedAt)
  | order (order : Order Time) (j : ℕ)
      (unpriced : ∀ fill i, TakesFill config reads position fill i → fill.price = none)
      (taken : TakesOrder config reads position order j) (priced : order.paid.isSome)
      (exits : FilledExit config position order)

/-- Every position missing at the broker is evidenced by what it takes, and no two
take the same. -/
structure AllEvidenced (reads : Reads Time) (positions : List (ActivePosition Time)) :
    Prop where
  each : ∀ position ∈ positions, Missing config reads position →
    Evidenced config reads position
  apart : positions.Pairwise fun p q =>
    Missing config reads p → Missing config reads q → TakeApart config reads p q

theorem closing_supplied_iff (reads : Reads Time) (position : ActivePosition Time) :
    Supplied config reads (closing config reads position) ↔
      Evidenced config reads position := by
  constructor
  · rintro (⟨fill, i, price, -, matched, source, -, exits⟩ |
      ⟨order, j, price, -, matched, source, -, exits⟩)
    · have htaken := (matchedFill_eq_some_iff config reads position fill i).mp matched
      have hpriced := (priceSource_eq_fill_iff config position _ _ price).mp source
      rw [show matchedFill config reads position = some (fill, i) from matched] at hpriced
      exact .fill fill i htaken (Option.isSome_of_eq_some hpriced) exits.own exits.after
    · have htaken := (matchedOrder_eq_some_iff config reads position order j).mp matched
      obtain ⟨hunpriced, hpaid⟩ := (priceSource_eq_order_iff config position _ _ price).mp source
      rw [show matchedOrder config reads position = some (order, j) from matched] at hpaid
      refine .order order j (fun fill i taken => ?_) htaken (Option.isSome_of_eq_some hpaid) exits
      rw [(matchedFill_eq_some_iff config reads position fill i).mpr taken] at hunpriced
      exact hunpriced
  · rintro (⟨fill, i, taken, priced, own, after⟩ | ⟨order, j, unpriced, taken, priced, exits⟩)
    · have hmatched := (matchedFill_eq_some_iff config reads position fill i).mpr taken
      obtain ⟨price, hprice⟩ := Option.isSome_iff_exists.mp priced
      have hsource : (closing config reads position).source = .fill price := by
        refine (priceSource_eq_fill_iff config position _ _ price).mpr ?_
        rw [hmatched]
        exact hprice
      have hadmitted := taken.admitted
      simp only [ActivePosition.exitFill, Bool.and_eq_true, Bool.not_eq_true',
        decide_eq_true_eq] at hadmitted
      refine .fill fill i price taken.here hmatched hsource ⟨hprice, ?_⟩
        ⟨own, hadmitted.2, hadmitted.1.1, after⟩
      exact congrArg PriceSource.price hsource
    · have hmatched := (matchedOrder_eq_some_iff config reads position order j).mpr taken
      obtain ⟨price, hprice⟩ := Option.isSome_iff_exists.mp priced
      have hunpriced : ((matchedFill config reads position).map (·.1)).bind (·.price) = none := by
        cases hfill : matchedFill config reads position with
        | none => rfl
        | some entry =>
          exact unpriced _ _ ((matchedFill_eq_some_iff config reads position _ _).mp hfill)
      have hsource : (closing config reads position).source = .order price := by
        refine (priceSource_eq_order_iff config position _ _ price).mpr ⟨hunpriced, ?_⟩
        rw [hmatched]
        exact hprice
      have hread : reads.ordersCache[j]? = some order := by
        rcases taken with ⟨_, _, _, first⟩ | ⟨_, first⟩
        · exact first.here
        · exact first.here
      exact .order order j price hread hmatched hsource
        ⟨hprice, congrArg PriceSource.price hsource⟩ exits

/-- **Every exit of a pass is genuine exactly where every missing position is
evidenced**, by what it takes alone among the positions of the pass. -/
theorem neverInvents_iff (reads : Reads Time) (positions : List (ActivePosition Time)) :
    NeverInvents config reads positions ↔ AllEvidenced config reads positions := by
  constructor
  · intro h
    refine ⟨fun position hmem hmissing => ?_,
      (closings_apart_iff config reads positions).mp h.apart⟩
    have hclosing : closing config reads position ∈ closings config reads positions :=
      (mem_closings_iff config reads positions _).mpr ⟨position, hmem, hmissing, rfl⟩
    exact (closing_supplied_iff config reads position).mp (h.supplied _ hclosing)
  · intro h
    refine ⟨fun c hc => ?_, fun c hc => ?_, (closings_apart_iff config reads positions).mpr h.apart⟩
    · obtain ⟨position, -, hmissing, rfl⟩ := (mem_closings_iff config reads positions c).mp hc
      exact not_owns_of_missing config reads position hmissing
    · obtain ⟨position, hmem, hmissing, rfl⟩ := (mem_closings_iff config reads positions c).mp hc
      exact (closing_supplied_iff config reads position).mpr (h.each position hmem hmissing)

end Equivalence

/-! ## An exit at the target, with nothing traded -/

/-- No configured contract, and the changes of case on plain text. -/
def plainConfig : Config where
  contracts _ := none
  upper := String.toUpper
  lower := String.toLower
  capitalize text := text.toLower.capitalize

/-- A long position on `/MES`. -/
def longMes : ActivePosition ℕ where
  id := 42
  contract := "/MES"
  direction := some "LONG"
  brokerOrderId := some "777"
  entryPrice := some 5800
  stopLoss := some 5750
  takeProfit := some 5850
  quantity := some 1
  enteredAt := 0

/-- The broker has nothing open; the orders and the fills cannot be read. -/
def nothingRead : Reads ℕ where
  connected := true
  positions := some []
  orders := none
  fills := none

/-- The pass sells the position at its target. -/
theorem nothingRead_sells_at_target :
    (reconcilePositions plainConfig nothingRead [longMes]).map
        (fun event => (event.exitPrice, event.realizedPnl, event.brokerOrderId))
      = [(5850, 250, none)] ∧
    ¬NeverInvents plainConfig nothingRead [longMes] := by
  refine ⟨by decide +kernel, fun h => ?_⟩
  have hmem : closing plainConfig nothingRead longMes
      ∈ closings plainConfig nothingRead [longMes] :=
    List.mem_map_of_mem (List.mem_filter.mpr ⟨List.mem_singleton_self _, rfl⟩)
  -- There is no fill and no order for the price to come from.
  rcases h.supplied _ hmem with ⟨_, _, _, read, -⟩ | ⟨_, _, _, read, -⟩
  · simp [nothingRead, Reads.fillsCache] at read
  · simp [nothingRead, Reads.ordersCache] at read

end Tradovate

end AgenticTrader
