import AgenticTrader.Broker.Paper
import Mathlib.Data.List.Infix

/-!
# Exits the Tradovate broker reports

`TradovateBroker.reconcile_positions` (`broker/tradovate.py`) is given the positions
the book still holds and reports an exit for each of them that the broker no longer
has open. The broker is asked for its open positions, its orders and its fills; the
exit is the first fill on the exit side whose contract contains the position's symbol,
and where there is none the first filled order. Its price comes from that fill, from
the order, or from the position's own bracket.

A pass is modelled with what it binds on the way: `Closing` keeps, beside the event,
the fill and the order that were matched (with their places in the lists read) and
the source of the price. `reconcilePositions` is the events alone.
-/

namespace AgenticTrader

namespace Tradovate

variable {Time : Type}

/-! ## What is read -/

/-- An identifier as the broker sends it: a field that may be missing, empty, a
number or a text. -/
inductive WireId where
  | absent
  | null
  | number (value : ℤ)
  | text (value : String)
  deriving DecidableEq, Repr

/-- `str(row.get(field, ""))`. -/
def WireId.str : WireId → String
  | .absent => ""
  | .null => "None"
  | .number value => toString value
  | .text value => value

/-- `bool(row.get(field))`. -/
def WireId.truthy : WireId → Bool
  | .absent => false
  | .null => false
  | .number value => value ≠ 0
  | .text value => value ≠ ""

/-- A row of `/position/list`: a missing `netPos` is zero, an empty one is `none`. -/
structure PositionRow where
  contract : String
  netPos : Option ℚ
  deriving DecidableEq

/-- A row of `/fill/list`. When it was executed is not read. -/
structure Fill (Time : Type) where
  orderId : WireId
  contract : String
  action : String
  price : Option ℚ
  executedAt : Time

/-- A row of `/order/list`. When it was executed is not read. -/
structure Order (Time : Type) where
  id : WireId
  symbol : Option String
  contract : Option String
  action : String
  ordStatus : String
  orderType : String
  avgPx : Option ℚ
  price : Option ℚ
  executedAt : Time

/-- `str(o.get("symbol", o.get("contract", "")))`. -/
def Order.named (order : Order Time) : String :=
  order.symbol.getD (order.contract.getD "")

/-- What the three reads return, `none` for a read that fails, and whether there is a
session at all. -/
structure Reads (Time : Type) where
  connected : Bool
  positions : Option (List PositionRow)
  orders : Option (List (Order Time))
  fills : Option (List (Fill Time))

/-- `orders_cache`: a failed read leaves no orders. -/
def Reads.ordersCache (reads : Reads Time) : List (Order Time) := reads.orders.getD []

/-- `fills_cache`. -/
def Reads.fillsCache (reads : Reads Time) : List (Fill Time) := reads.fills.getD []

/-- A position of the book, as the pass is given it. When it was entered is not
read. -/
structure ActivePosition (Time : Type) where
  id : SignalId
  contract : String
  direction : Option String
  brokerOrderId : Option String
  entryPrice : Option ℚ
  stopLoss : Option ℚ
  takeProfit : Option ℚ
  quantity : Option ℚ
  enteredAt : Time

/-- The configured contracts and the three changes of case. -/
structure Config where
  contracts : String → Option ContractInfo
  upper : String → String
  lower : String → String
  capitalize : String → String

/-- `needle in text`. -/
def contains (needle text : String) : Bool := decide (needle.toList <:+: text.toList)

/-- What is read of the `ReconciliationEvent`s. -/
structure ExitEvent where
  signalId : SignalId
  contract : String
  symbol : String
  direction : Direction
  exitPrice : ℚ
  exitReason : ExitReason
  realizedPnl : ℚ
  brokerOrderId : Option String
  orderSide : OrderSide
  deriving DecidableEq

section Pass

variable (config : Config)

/-- `text.strip("/").upper()`. -/
def Config.clean (text : String) : String := config.upper (stripSlashes text)

namespace ActivePosition

variable (position : ActivePosition Time)

/-- `clean_sym`. -/
def symbol : String := config.clean position.contract

/-- `pos_dir in ("LONG", str(Direction.LONG))`. -/
def isLong : Bool := config.upper (position.direction.getD "LONG") = "LONG"

/-- `exit_action`. -/
def exitAction : String := if position.isLong config then "Sell" else "Buy"

/-- `str(pos.get("broker_order_id") or "")`. -/
def entryOrderId : String := position.brokerOrderId.getD ""

/-- `entry_order_id and order_id == entry_order_id`. -/
def isEntry (orderId : WireId) : Bool :=
  position.entryOrderId ≠ "" && orderId.str = position.entryOrderId

/-- The comparison of an open contract with the position's. -/
def heldAs (oc : String) : Bool :=
  position.symbol config = oc || contains (position.symbol config) oc
    || (position.symbol config).toList.isPrefixOf oc.toList

/-- `is_open`. -/
def isOpen (rows : List PositionRow) : Bool :=
  rows.any fun row => row.netPos ≠ some 0 && position.heldAs config (config.clean row.contract)

/-- The comparison of a contract that traded with the position's. -/
def tradedAs (contract : String) : Bool :=
  config.clean contract = position.symbol config
    || contains (position.symbol config) (config.clean contract)

/-- The fills the loop stops at. -/
def exitFill (fill : Fill Time) : Bool :=
  !position.isEntry fill.orderId && position.tradedAs config fill.contract
    && config.capitalize fill.action = position.exitAction config

/-- The orders the loop stops at where no fill was matched. -/
def exitOrder (order : Order Time) : Bool :=
  !position.isEntry order.id && position.tradedAs config order.named
    && config.capitalize order.action = position.exitAction config
    && config.capitalize order.ordStatus = "Filled"

end ActivePosition

/-- The first row a test admits, and its place. -/
def firstWith {Row : Type} (test : Row → Bool) (rows : List Row) : Option (Row × ℕ) :=
  rows.zipIdx.find? fun entry => test entry.1

/-- `exit_reason`, from the type of the matched order. -/
def exitReason (order : Option (Order Time)) : ExitReason :=
  let orderType := (order.map fun o => config.lower o.orderType).getD ""
  if contains "stop" orderType then .stopLoss
  else if contains "limit" orderType then .takeProfit
  else .manualClose

/-- `matched_order.get("avgPx") or matched_order.get("price")`, where it is truthy. -/
def Order.paid (order : Order Time) : Option ℚ :=
  match order.avgPx.filter (· ≠ 0) with
  | some price => some price
  | none => order.price.filter (· ≠ 0)

/-- Which of the branches sets `exit_price`, and to what. -/
inductive PriceSource where
  | fill (price : ℚ)
  | order (price : ℚ)
  | bracket (price : ℚ)
  deriving DecidableEq

def PriceSource.price : PriceSource → ℚ
  | .fill price => price
  | .order price => price
  | .bracket price => price

/-- `exit_price`: the fill's, the order's, or a price of the position's bracket. -/
def priceSource (position : ActivePosition Time) (fill : Option (Fill Time))
    (order : Option (Order Time)) : PriceSource :=
  match fill.bind (·.price) with
  | some price => .fill price
  | none =>
    match order.bind Order.paid with
    | some price => .order price
    | none =>
      .bracket (if exitReason config order = .stopLoss then position.stopLoss.getD 0
        else position.takeProfit.getD 0)

/-- `order_id`. -/
def reportedOrderId (fill : Option (Fill Time)) (order : Option (Order Time)) :
    Option String :=
  match order.filter (·.id.truthy) with
  | some o => some o.id.str
  | none => (fill.filter (·.orderId.truthy)).map (·.orderId.str)

/-- `multiplier`: the configured one, or one read off the name. -/
def ActivePosition.multiplier (position : ActivePosition Time) : ℚ :=
  match config.contracts position.contract with
  | some info => info.multiplier
  | none =>
    let names (root : String) : Bool :=
      contains ("/" ++ root) position.contract || contains root (position.symbol config)
    if names "MES" then 5
    else if names "MNQ" then 2
    else if names "MGC" then 10
    else if names "MCL" then 100
    else 1

/-! ## The pass -/

/-- A position closed by the pass: what was matched for it, and the event. -/
structure Closing (Time : Type) where
  position : ActivePosition Time
  fill : Option (Fill Time × ℕ)
  order : Option (Order Time × ℕ)
  source : PriceSource
  event : ExitEvent

/-- `matched_fill`. -/
def matchedFill (reads : Reads Time) (position : ActivePosition Time) :
    Option (Fill Time × ℕ) :=
  firstWith (position.exitFill config) reads.fillsCache

/-- `matched_order`: by the fill's order, or by itself. -/
def matchedOrder (reads : Reads Time) (position : ActivePosition Time) :
    Option (Order Time × ℕ) :=
  match matchedFill config reads position with
  | some (fill, _) => firstWith (fun order => order.id.str = fill.orderId.str) reads.ordersCache
  | none => firstWith (position.exitOrder config) reads.ordersCache

/-- What the body of the loop reports of a position that is not open. -/
def closing (reads : Reads Time) (position : ActivePosition Time) : Closing Time :=
  let fill := matchedFill config reads position
  let order := matchedOrder config reads position
  let source := priceSource config position (fill.map (·.1)) (order.map (·.1))
  let direction : Direction := if position.isLong config then .long else .short
  { position, fill, order, source
    event :=
      { signalId := position.id
        contract := position.contract
        symbol := position.symbol config
        direction
        exitPrice := source.price
        exitReason := exitReason config (order.map (·.1))
        realizedPnl := direction.gain (position.entryPrice.getD 0) source.price
          * position.multiplier config * position.quantity.getD 1
        brokerOrderId := reportedOrderId (fill.map (·.1)) (order.map (·.1))
        orderSide := if position.isLong config then .sell else .buy } }

/-- The pass, with what it matches for each position it closes. -/
def closings (reads : Reads Time) (positions : List (ActivePosition Time)) :
    List (Closing Time) :=
  match reads.connected, reads.positions with
  | true, some rows =>
    (positions.filter fun position => !position.isOpen config rows).map (closing config reads)
  | _, _ => []

/-- **`TradovateBroker.reconcile_positions`**: the events of the pass. -/
def reconcilePositions (reads : Reads Time) (positions : List (ActivePosition Time)) :
    List ExitEvent :=
  (closings config reads positions).map (·.event)

end Pass

end Tradovate

end AgenticTrader
