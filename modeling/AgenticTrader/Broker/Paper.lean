import AgenticTrader.Risk.Rounding
import AgenticTrader.Storage.Positions

/-!
# The paper broker

`PaperBroker` (`broker/paper.py`) simulates a broker in memory: a dictionary of
positions by symbol, and the profit it has realised. A tracked position ends in one
of three ways: `reconcile_positions` sees its stop or target reached and reports an
event, which `process_reconciliation_event` records; `close_position_manual`
closes it for an operator; `emergency_panic_halt` liquidates it
(`agent/copilot.py`). Each of the three computes the realised amount anew, and the
broker a fourth time for itself.

The event's amount leaves the quantity out, and the two closes take another
default multiplier than the broker. `closing_amounts_agree_iff` says for which
positions that makes no difference.
-/

namespace AgenticTrader

/-! ## The broker's positions -/

/-- What is read of a configured contract. -/
structure ContractInfo where
  ticker : String
  multiplier : ℚ
  deriving DecidableEq

/-- The configured contracts, and `str.upper`. -/
structure PaperConfig where
  contracts : String → Option ContractInfo
  upper : String → String

/-- A `BrokerPosition` of the paper broker. -/
structure PaperPosition where
  symbol : String
  direction : Direction
  quantity : ℚ
  entryPrice : ℚ
  deriving DecidableEq

/-- **`PaperBroker`**: its positions, each under a symbol, and what it has
realised. -/
structure PaperBroker where
  positions : List (String × PaperPosition)
  realizedPnl : ℚ

/-- The gain of a price over another, in a direction. -/
def Direction.gain (direction : Direction) (entry exit : ℚ) : ℚ :=
  if direction = .long then exit - entry else entry - exit

/-- Whether a contract is written as a future. -/
def startsWithSlash (contract : String) : Bool := contract.toList.head? = some '/'

namespace PaperBroker

variable (config : PaperConfig)

/-- `_positions.pop(symbol, None)`. -/
def pop (broker : PaperBroker) (symbol : String) : Option PaperPosition × PaperBroker :=
  ((broker.positions.find? (·.1 = symbol)).map (·.2),
    { broker with positions := broker.positions.filter (·.1 ≠ symbol) })

/-- The multiplier the broker takes: one where a contract is not configured. -/
def multiplier (symbol : String) : ℚ := ((config.contracts symbol).map (·.multiplier)).getD 1

/-- **`close_position`**: the position leaves the book, and its gain is realised. -/
def closePosition (broker : PaperBroker) (symbol : String) (exitPrice : ℚ) : PaperBroker :=
  let popped := match broker.pop symbol with
    | (some position, broker) => (some position, broker)
    | (none, broker) => broker.pop (config.upper (stripSlashes symbol))
  match popped with
  | (none, broker) => broker
  | (some position, broker) =>
    { broker with
      realizedPnl := broker.realizedPnl
        + position.direction.gain position.entryPrice exitPrice * multiplier config symbol
          * position.quantity }

end PaperBroker

/-! ## Exits at the bracket -/

inductive ExitReason where
  | takeProfit
  | stopLoss
  | manualClose
  | emergencyExit
  deriving DecidableEq, Repr

/-- What is read of a `ReconciliationEvent`. -/
structure ReconciliationEvent where
  signalId : SignalId
  contract : String
  direction : Direction
  exitPrice : ℚ
  exitReason : ExitReason
  realizedPnl : ℚ
  brokerOrderId : String
  orderSide : OrderSide
  deriving DecidableEq

/-- Which side of its bracket a price has reached. -/
def bracketExit (position : Signal) (price : ℚ) : Option ExitReason :=
  match position.direction with
  | .long =>
    if position.takeProfit ≤ price then some .takeProfit
    else if price ≤ position.stopLoss then some .stopLoss
    else none
  | .short =>
    if price ≤ position.takeProfit then some .takeProfit
    else if position.stopLoss ≤ price then some .stopLoss
    else none

section Reconciliation

variable (config : PaperConfig) (quote : String → Option ℚ) (exitOrderId : String → String)

/-- **One position of `reconcile_positions`**: a price at the bracket closes it at
the broker and reports an event. -/
def PaperBroker.reconcilePosition (broker : PaperBroker) (position : Signal) :
    PaperBroker × Option ReconciliationEvent :=
  let info := config.contracts position.contract
  match quote ((info.map (·.ticker)).getD position.contract) with
  | none => (broker, none)
  | some price =>
    match bracketExit position price with
    | none => (broker, none)
    | some reason =>
      (broker.closePosition config position.contract price,
        some
          { signalId := position.id
            contract := position.contract
            direction := position.direction
            exitPrice := price
            exitReason := reason
            realizedPnl := position.direction.gain position.entryPrice price
              * PaperBroker.multiplier config position.contract
            brokerOrderId := exitOrderId position.contract
            orderSide := if position.direction = .long then .sell else .buy })

/-- **`reconcile_positions`.** -/
def PaperBroker.reconcilePositions (broker : PaperBroker) :
    List Signal → PaperBroker × List ReconciliationEvent
  | [] => (broker, [])
  | position :: rest =>
    let (broker, event) := broker.reconcilePosition config quote exitOrderId position
    let (broker, events) := broker.reconcilePositions rest
    (broker, event.toList ++ events)

end Reconciliation

/-! ## What is recorded -/

/-- **What `SignalDatabase.close_position` writes** of an exit. -/
structure CloseRecord where
  signalId : SignalId
  exitPrice : ℚ
  exitReason : ExitReason
  realizedPnl : ℚ
  status : SignalStatus
  brokerExitOrderId : Option String
  deriving DecidableEq

/-- The status of a realised amount. -/
def closedStatus (realizedPnl : ℚ) : SignalStatus :=
  if 0 ≤ realizedPnl then .closedWin else .closedLoss

/-- The record is written if the position is still open. -/
def Db.persistClose (db : Db) (now : Time) (record : CloseRecord) : Db × Option CloseRecord :=
  let closed := db.closePosition now record.signalId record.status record.brokerExitOrderId
  (closed.1, if closed.2 then some record else none)

/-- **`process_reconciliation_event`**: an event that names the entry's own order,
or whose side does not oppose the position, is ignored. -/
def processReconciliationEvent (db : Db) (now : Time) (event : ReconciliationEvent)
    (positions : List Signal) : Db × Option CloseRecord :=
  match positions.find? (·.id = event.signalId) with
  | none => (db, none)
  | some position =>
    if event.brokerOrderId ≠ "" ∧ position.brokerOrderId = some event.brokerOrderId then (db, none)
    else if (event.orderSide = .sell ∧ position.direction ≠ .long)
        ∨ (event.orderSide = .buy ∧ position.direction ≠ .short) then (db, none)
    else
      db.persistClose now
        { signalId := event.signalId
          exitPrice := event.exitPrice
          exitReason := event.exitReason
          realizedPnl := event.realizedPnl
          status := closedStatus event.realizedPnl
          brokerExitOrderId := some event.brokerOrderId }

section Closes

variable (config : PaperConfig)

/-- `float(pos.get("quantity") or 1.0)`. -/
def quantityOrOne (position : Signal) : ℚ := if position.quantity = 0 then 1 else position.quantity

/-- The multiplier the two closes take: five for a future that is not configured. -/
def closeMultiplier (contract : String) : ℚ :=
  ((config.contracts contract).map (·.multiplier)).getD (if startsWithSlash contract then 5 else 1)

/-- The ticker they ask for a price. -/
def closeTicker (contract : String) : String :=
  ((config.contracts contract).map (·.ticker)).getD
    (if startsWithSlash contract then config.upper (stripSlashes contract) ++ "=F" else contract)

/-- The amount the two closes compute. -/
def closeAmount (position : Signal) (exitPrice : ℚ) : ℚ :=
  round2 (position.direction.gain position.entryPrice exitPrice
    * closeMultiplier config position.contract * quantityOrOne position)

/-- A close at the broker and in the database. -/
def closeAt (db : Db) (broker : PaperBroker) (now : Time) (position : Signal) (exitPrice : ℚ)
    (reason : ExitReason) : Db × PaperBroker × Option CloseRecord :=
  let amount := closeAmount config position exitPrice
  let (db, record) := db.persistClose now
    { signalId := position.id
      exitPrice := exitPrice
      exitReason := reason
      realizedPnl := amount
      status := closedStatus amount
      brokerExitOrderId := none }
  (db, broker.closePosition config position.contract exitPrice, record)

/-- **`close_position_manual`**, of a broker whose positions are not
authoritative. -/
def closePositionManual (quote : String → Option ℚ) (db : Db) (broker : PaperBroker) (now : Time)
    (signalId : SignalId) (exitPrice : Option ℚ) : Db × PaperBroker × Option CloseRecord :=
  match db.signal? signalId with
  | none => (db, broker, none)
  | some position =>
    if position.status ≠ .executed then (db, broker, none)
    else
      let live := (quote (closeTicker config position.contract)).getD position.entryPrice
      closeAt config db broker now position (exitPrice.getD live) .manualClose

/-- **One position of `emergency_panic_halt`**: without a positive quote it exits at
its entry. -/
def panicLiquidate (quote : String → Option ℚ) (db : Db) (broker : PaperBroker) (now : Time)
    (position : Signal) : Db × PaperBroker × Option CloseRecord :=
  let live := (quote (closeTicker config position.contract)).filter (fun q => 0 < q)
  closeAt config db broker now position (live.getD position.entryPrice) .emergencyExit

end Closes

/-! ## Do they agree? -/

/-- **An open simulated position**: the desk tracks it, the database holds it as
executed, and the broker has the same position under its contract. Its exit will
have an order of its own. -/
structure OpenPosition (exitOrderId : String → String) where
  db : Db
  broker : PaperBroker
  position : Signal
  active : List Signal
  stored : db.signal? position.id = some position
  executed : position.status = .executed
  tracked : active.find? (·.id = position.id) = some position
  held : broker.positions.find? (·.1 = position.contract)
    = some (position.contract,
      ⟨position.contract, position.direction, position.quantity, position.entryPrice⟩)
  quantity_pos : 0 < position.quantity
  exit_order : position.brokerOrderId ≠ some (exitOrderId position.contract)

namespace OpenPosition

variable {exitOrderId : String → String} (config : PaperConfig) (o : OpenPosition exitOrderId)
  (now : Time) (price : ℚ)

/-- The amount recorded for an exit that the broker reports at a price. -/
def byEvent : Option ℚ :=
  ((o.broker.reconcilePosition config (fun _ => some price) exitOrderId o.position).2.bind
    (fun event => (processReconciliationEvent o.db now event o.active).2)).map (·.realizedPnl)

/-- The amount recorded by a manual close at the price. -/
def byManual : Option ℚ :=
  (closePositionManual config (fun _ => none) o.db o.broker now o.position.id (some price)).2.2.map
    (·.realizedPnl)

/-- The amount recorded by a panic at the price. -/
def byPanic : Option ℚ :=
  (panicLiquidate config (fun _ => some price) o.db o.broker now o.position).2.2.map (·.realizedPnl)

/-- What the broker realises for itself. -/
def byBroker : ℚ :=
  (o.broker.closePosition config o.position.contract price).realizedPnl - o.broker.realizedPnl

/-- **Every way of closing records the same amount**, to two decimals, at every
price that ends the bracket. -/
def AmountsAgree : Prop :=
  ∀ (now : Time) (price : ℚ), 0 < price → (bracketExit o.position price).isSome →
    ∃ event manual panic, o.byEvent config now price = some event
      ∧ o.byManual config now price = some manual ∧ o.byPanic config now price = some panic
      ∧ round2 event = round2 manual ∧ round2 panic = round2 manual
      ∧ round2 (o.byBroker config price) = round2 manual

/-- The gain of the exit. -/
def gain : ℚ := o.position.direction.gain o.position.entryPrice price

theorem persisted (record : CloseRecord) (h : record.signalId = o.position.id) :
    (o.db.persistClose now record).2 = some record := by
  have hopen : o.db.signals.any (fun s => s.id == record.signalId && s.status == .executed) := by
    have hmem := List.mem_of_find?_eq_some o.stored
    refine List.any_eq_true.mpr ⟨o.position, hmem, ?_⟩
    simp [h, o.executed]
  unfold Db.persistClose Db.closePosition
  rw [if_pos hopen]
  rfl

theorem byEvent_eq {reason : ExitReason} (h : bracketExit o.position price = some reason) :
    o.byEvent config now price
      = some (o.gain price * PaperBroker.multiplier config o.position.contract) := by
  unfold byEvent PaperBroker.reconcilePosition
  dsimp only
  rw [h]
  dsimp only [Option.bind_some]
  unfold processReconciliationEvent
  dsimp only
  rw [o.tracked]
  dsimp only
  rw [if_neg (fun hentry => o.exit_order hentry.2), if_neg ?_, o.persisted now _ rfl]
  · rfl
  · cases o.position.direction <;> simp

theorem byManual_eq :
    o.byManual config now price = some (closeAmount config o.position price) := by
  unfold byManual closePositionManual closeAt
  rw [o.stored]
  dsimp only
  rw [if_neg (not_not.mpr o.executed)]
  dsimp only [Option.getD_some]
  rw [o.persisted now _ rfl]
  rfl

theorem byPanic_eq (hprice : 0 < price) :
    o.byPanic config now price = some (closeAmount config o.position price) := by
  unfold byPanic panicLiquidate closeAt
  simp only [Option.filter_some, hprice, decide_true, if_true, Option.getD_some]
  rw [o.persisted now _ rfl]
  rfl

theorem byBroker_eq :
    o.byBroker config price
      = o.gain price * PaperBroker.multiplier config o.position.contract * o.position.quantity := by
  unfold byBroker PaperBroker.closePosition PaperBroker.pop
  rw [o.held]
  dsimp only [Option.map_some]
  rw [add_sub_cancel_left]
  rfl

theorem closeAmount_eq :
    closeAmount config o.position price
      = round2 (o.gain price * closeMultiplier config o.position.contract
        * o.position.quantity) := by
  unfold closeAmount quantityOrOne
  rw [if_neg o.quantity_pos.ne']
  rfl

/-- The amounts agree when the roundings of their exact values do. -/
theorem amountsAgree_iff :
    o.AmountsAgree config ↔ ∀ price, 0 < price → (bracketExit o.position price).isSome →
      round2 (o.gain price * PaperBroker.multiplier config o.position.contract)
          = round2 (o.gain price * closeMultiplier config o.position.contract * o.position.quantity)
        ∧ round2 (o.gain price * PaperBroker.multiplier config o.position.contract
            * o.position.quantity)
          = round2 (o.gain price * closeMultiplier config o.position.contract
            * o.position.quantity) := by
  constructor
  · intro h price hprice hexit
    obtain ⟨reason, hreason⟩ := Option.isSome_iff_exists.mp hexit
    obtain ⟨event, manual, panic, hevent, hmanual, -, hsame, -, hbroker⟩ := h 0 price hprice hexit
    rw [o.byEvent_eq config 0 price hreason] at hevent
    rw [o.byManual_eq config 0 price, o.closeAmount_eq config price] at hmanual
    cases hevent
    cases hmanual
    rw [round2_round2] at hsame hbroker
    rw [o.byBroker_eq config price] at hbroker
    exact ⟨hsame, hbroker⟩
  · intro h now price hprice hexit
    obtain ⟨reason, hreason⟩ := Option.isSome_iff_exists.mp hexit
    obtain ⟨hsame, hbroker⟩ := h price hprice hexit
    refine ⟨_, _, _, o.byEvent_eq config now price hreason, o.byManual_eq config now price,
      o.byPanic_eq config now price hprice, ?_, rfl, ?_⟩
    · rw [o.closeAmount_eq config price, round2_round2, hsame]
    · rw [o.closeAmount_eq config price, round2_round2, o.byBroker_eq config price, hbroker]

/-- A bracket ends at prices as far from the entry as one likes. -/
theorem exists_exit (bound : ℚ) :
    ∃ price, 0 < price ∧ (bracketExit o.position price).isSome ∧ bound ≤ |o.gain price| := by
  let limit := max o.position.takeProfit o.position.stopLoss
  let price := max (max 1 limit) (o.position.entryPrice + bound)
  have hpos : 0 < price := lt_of_lt_of_le one_pos ((le_max_left _ _).trans (le_max_left _ _))
  have hlimit : limit ≤ price := (le_max_right _ _).trans (le_max_left _ _)
  have hfar : o.position.entryPrice + bound ≤ price := le_max_right _ _
  refine ⟨price, hpos, ?_, ?_⟩
  · unfold bracketExit
    cases o.position.direction with
    | long =>
      dsimp only
      rw [if_pos ((le_max_left _ _).trans hlimit)]
      rfl
    | short =>
      dsimp only
      split
      · rfl
      · rw [if_pos ((le_max_right _ _).trans hlimit)]
        rfl
  · unfold gain Direction.gain
    split
    · exact le_trans (by linarith) (le_abs_self _)
    · exact le_trans (by linarith) (neg_le_abs _)

/-- **Two factors that round to the same amounts are the same**, as gains have no
bound. -/
theorem factor_eq {a b : ℚ}
    (h : ∀ price, 0 < price → (bracketExit o.position price).isSome →
      round2 (o.gain price * a) = round2 (o.gain price * b)) : a = b := by
  by_contra hne
  have hdiff : 0 < |a - b| := abs_pos.mpr (sub_ne_zero.mpr hne)
  obtain ⟨price, hprice, hexit, hfar⟩ := o.exists_exit (1 / |a - b|)
  have hround := h price hprice hexit
  have ha := abs_le.mp (abs_sub_round2 (o.gain price * a))
  have hb := abs_le.mp (abs_sub_round2 (o.gain price * b))
  have hclose : |o.gain price| * |a - b| ≤ 1 / 100 := by
    rw [← abs_mul, mul_sub, abs_le]
    rw [hround] at ha
    constructor <;> linarith [ha.1, ha.2, hb.1, hb.2]
  have hlarge : 1 ≤ |o.gain price| * |a - b| := by
    rw [div_le_iff₀ hdiff] at hfar
    exact hfar
  linarith

end OpenPosition

/-- **When the amounts agree**: for a configured contract when one unit is held, or
when its multiplier is nothing; for another when one unit is held and it is not
written as a future. -/
def OneAmount (config : PaperConfig) (position : Signal) : Prop :=
  match config.contracts position.contract with
  | some info => position.quantity = 1 ∨ info.multiplier = 0
  | none => position.quantity = 1 ∧ startsWithSlash position.contract = false

/-- The condition says that the three factors of the gain are one. -/
theorem oneAmount_iff (config : PaperConfig) {position : Signal} (hpos : 0 < position.quantity) :
    OneAmount config position
      ↔ PaperBroker.multiplier config position.contract
          = closeMultiplier config position.contract * position.quantity
        ∧ PaperBroker.multiplier config position.contract * position.quantity
          = closeMultiplier config position.contract * position.quantity := by
  unfold OneAmount PaperBroker.multiplier closeMultiplier
  cases config.contracts position.contract with
  | some info =>
    simp only [Option.map_some, Option.getD_some, and_true]
    constructor
    · rintro (hone | hnothing)
      · rw [hone, mul_one]
      · rw [hnothing, zero_mul]
    · intro h
      have hzero : info.multiplier * (position.quantity - 1) = 0 := by linarith
      rcases mul_eq_zero.mp hzero with hnothing | hone
      · exact .inr hnothing
      · exact .inl (by linarith)
  | none =>
    simp only [Option.map_none, Option.getD_none, one_mul]
    cases startsWithSlash position.contract with
    | true =>
      simp only [if_true, Bool.true_eq_false, and_false, false_iff]
      rintro ⟨-, hfive⟩
      linarith
    | false =>
      simp only [Bool.false_eq_true, if_false, one_mul, and_true]
      exact eq_comm

/-- **Exactly when every way of closing a simulated position records the same
amount.** -/
theorem closing_amounts_agree_iff {exitOrderId : String → String} (config : PaperConfig)
    (o : OpenPosition exitOrderId) : o.AmountsAgree config ↔ OneAmount config o.position := by
  rw [o.amountsAgree_iff config, oneAmount_iff config o.quantity_pos]
  constructor
  · intro h
    refine ⟨o.factor_eq ?_, o.factor_eq ?_⟩
    · intro price hprice hexit
      rw [← mul_assoc]
      exact (h price hprice hexit).1
    · intro price hprice hexit
      rw [← mul_assoc, ← mul_assoc]
      exact (h price hprice hexit).2
  · rintro ⟨hevent, hbroker⟩ price - -
    rw [mul_assoc, mul_assoc, hbroker, hevent]
    exact ⟨rfl, rfl⟩

/-! ### Two shares of one fund -/

/-- A row for a number of shares, bought at a hundred. -/
def sampleShares (quantity : ℚ) : Signal :=
  { id := 1, timestamp := 0, contract := "SPY", direction := .long, assetClass := .equity,
    entryPrice := 100, stopLoss := 90, takeProfit := 110, quantity := quantity, riskDollars := 20,
    notionalValue := none, status := .executed, brokerOrderId := some "SIM-1-SPY",
    executedAt := some 0, brokerExitOrderId := none, lifetime := .ok none, reprices := none }

/-- The desk that holds them. -/
def sampleOpen (quantity : ℚ) (hpos : 0 < quantity) :
    OpenPosition (fun symbol => "SIM-EXIT-2-" ++ symbol) where
  db := { Db.empty with signals := [sampleShares quantity] }
  broker := ⟨[("SPY", ⟨"SPY", .long, quantity, 100⟩)], 0⟩
  position := sampleShares quantity
  active := [sampleShares quantity]
  stored := rfl
  executed := rfl
  tracked := rfl
  held := rfl
  quantity_pos := hpos
  exit_order := by
    show some "SIM-1-SPY" ≠ some ("SIM-EXIT-2-" ++ "SPY")
    decide

/-- **Two shares that reach their target** are recorded with half the amount that a
manual close records. -/
theorem closing_amounts_differ :
    (sampleOpen 2 two_pos).byEvent ⟨fun _ => none, id⟩ 0 110 = some 10
      ∧ (sampleOpen 2 two_pos).byManual ⟨fun _ => none, id⟩ 0 110 = some 20
      ∧ (sampleOpen 2 two_pos).byBroker ⟨fun _ => none, id⟩ 110 = 20
      ∧ ¬(sampleOpen 2 two_pos).AmountsAgree ⟨fun _ => none, id⟩ := by
  have hevent : (sampleOpen 2 two_pos).byEvent ⟨fun _ => none, id⟩ 0 110 = some 10 := by
    decide +kernel
  have hmanual : (sampleOpen 2 two_pos).byManual ⟨fun _ => none, id⟩ 0 110 = some 20 := by
    decide +kernel
  refine ⟨hevent, hmanual, by decide +kernel, ?_⟩
  intro h
  obtain ⟨event, manual, panic, hevent', hmanual', -, hsame, -⟩ :=
    h 0 110 (by norm_num) (by decide +kernel)
  rw [hevent] at hevent'
  rw [hmanual] at hmanual'
  cases hevent'
  cases hmanual'
  revert hsame
  decide +kernel

end AgenticTrader
