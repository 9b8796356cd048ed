import AgenticTrader.Accounting.Risk
import AgenticTrader.Library.Checks
import AgenticTrader.Library.Coverage
import AgenticTrader.Risk.Rules
import AgenticTrader.Storage.Lifetimes
import AgenticTrader.Storage.Workflow

/-!
# The capacity of an entry

`assess_entry_capacity` (`execution/capacity.py`): whether the broker's own
evidence – the account, the asset, a quote, the holdings and the orders –
leaves room for one more entry, next to what the desk has reserved. The
evidence has to be fresh and the account unrestricted; the entry has to be
funded; every holding and every order that is not over has to belong to a
reservation, through the exact lineage of its entry order (`_group`), and a
holding has to be protected by one stop; and the shared rules of admission
judge the reservations at the greater of what was reserved and what the market
says (`_exposure`).

The function raises at the first check that fails. The source walks the orders
of a lineage as a set; here they come in the order of the book, which only
decides which of several failures is reported. An unreadable number inside
`protective_stop` is reported by one text.
-/

namespace AgenticTrader

open Checks

/-! ## Requests and evidence -/

inductive OrderType where
  | limit
  | market
  | stop
  | stopLimit
  | trailingStop
  deriving DecidableEq, Repr

inductive OrderClass where
  | simple
  | bracket
  | oco
  | oto
  deriving DecidableEq, Repr

inductive TimeInForce where
  | gtc
  | day
  | ioc
  | fok
  deriving DecidableEq, Repr

/-- **An `OrderRequest`** with the kind of its order. -/
structure EntryRequest extends OrderRequest where
  orderType : OrderType := .limit
  orderClass : OrderClass := .bracket
  timeInForce : TimeInForce := .gtc

/-- **An open position** as the broker reports it. -/
structure BrokerPosition where
  symbol : String
  assetClass : AssetClass
  direction : Direction
  quantity : ℚ
  entryPrice : ℚ
  currentPrice : Option ℚ

/-- **`EntryAccountEvidence`.** -/
structure EntryAccountEvidence where
  accountId : String
  status : String
  currency : String
  buyingPower : ℚ
  regtBuyingPower : ℚ
  nonMarginableBuyingPower : ℚ
  equity : ℚ
  multiplier : ℚ
  tradingBlocked : Bool
  accountBlocked : Bool
  tradeSuspendedByUser : Bool
  shortingEnabled : Bool

/-- **`EntryAssetEvidence`.** -/
structure EntryAssetEvidence where
  symbol : String
  assetClass : String
  status : String
  tradable : Bool
  marginable : Bool
  shortable : Bool
  borrowStatus : Option String

/-- **`EntryQuoteEvidence`**: prices are positive and the quote is not crossed. -/
structure EntryQuoteEvidence where
  symbol : String
  bidPrice : ℚ
  askPrice : ℚ
  timestamp : Time
  bidPrice_pos : 0 < bidPrice
  validSpread : bidPrice ≤ askPrice

/-- **`BrokerEntryContext`**: one bounded observation of the broker's book. -/
structure BrokerEntryContext where
  positions : List BrokerPosition
  orders : List OrderObservation
  accountBefore : EntryAccountEvidence
  account : EntryAccountEvidence
  asset : EntryAssetEvidence
  quote : EntryQuoteEvidence
  price : ℚ
  tradeTimestamp : Time
  requestedAt : Time
  observedAt : Time
  sessionClosesAt : Time
  price_pos : 0 < price
  validReceipts : requestedAt ≤ observedAt

/-- What the assessment reads of the configuration. -/
structure CapacityConfig where
  limits : RiskLimits
  multiplier : String → Option ℚ
  entryEvidenceMaxAgeSeconds : ℚ
  entryQuoteMaxAgeSeconds : ℚ

/-- **`CapacityAssessment`.** -/
structure CapacityAssessment where
  requiredBuyingPower : ℚ
  availableBuyingPower : ℚ
  effectiveRiskCapital : ℚ
  aggregateStopRisk : ℚ
  aggregateNotional : ℚ
  positionCount : ℕ
  deriving DecidableEq

/-! ## Constants -/

/-- `SHORT_BUYING_POWER_MULTIPLIER`. -/
def shortBuyingPowerMultiplier : ℚ := 103 / 100

/-- `MINIMUM_MARGIN_EQUITY`. -/
def minimumMarginEquity : ℚ := 2000

/-- `WORKING_STATUSES`. -/
def workingStatuses : List String := ["new", "accepted", "held", "pending_new"]

/-- `TERMINAL_STATUSES`. -/
def terminalStatuses : List String := ["filled", "canceled", "expired", "rejected", "replaced"]

/-! ## Reading -/

/-- `decimal(text)` of a wire number. -/
def readDecimal (text : String) : Except String ℚ :=
  match decimal (.str text) with
  | some q => .ok q
  | none => .error (decimalError (.str text))

/-- `decimal(value)` of a number that may be missing. -/
def readNumber (value : Option ℚ) : Except String ℚ :=
  match value with
  | some q => .ok q
  | none => .error (decimalError .null)

/-- **`_fresh`.** -/
def fresh (at_ now : Time) (maxAge : ℚ) (name : String) : Except String Unit :=
  refuse (!decide (-brokerClockSkewTolerance ≤ now - at_
      ∧ ((now - at_ : ℤ) : ℚ) / 1000000 ≤ maxAge))
    s!"{name} is stale, expired or clock-skewed; request fresh approval"

/-- The side of the entry order of a direction. -/
def entrySide (direction : Direction) : String :=
  if direction = .long then "buy" else "sell"

/-! ## Lineages -/

/-- An order that names one of the orders found as its parent, or as the order
it replaces. -/
def namesOneOf (found : Finset String) (o : OrderObservation) : Bool :=
  o.parentOrderId.any (fun id => decide (id ∈ found))
    || o.replaces.any (fun id => decide (id ∈ found))

/-- One round of `_group`. -/
def expandGroup (orders : List OrderObservation) (found : Finset String) : Finset String :=
  found ∪ ((orders.filter (namesOneOf found)).map (·.orderId)).toFinset

/-- **`_group`**: the parent/replacement lineage of an order. Each round but the
last one adds an order, so there are at most as many as there are orders. -/
def group (root : String) (orders : List OrderObservation) : Finset String :=
  Coverage.saturate (expandGroup orders) orders.length {root}

/-! ## Exposure -/

/-- The broker orders and the holdings that the reservations so far account
for. -/
structure BookCoverage where
  orders : Finset String
  holdings : Finset String

/-- An exit leg on the entry's side, or for another quantity. -/
def foreignLeg (side : String) (quantity : ℚ) (leg : OrderObservation) : Except String Bool :=
  if leg.side = side then .ok true
  else do
    let legQuantity ← readDecimal leg.quantity
    .ok (legQuantity ≠ quantity)

/-- An exit leg with a fill. -/
def executedLeg (leg : OrderObservation) : Except String Bool := do
  let filled ← readDecimal leg.filledQuantity
  .ok (0 < filled)

/-- An exit leg that is neither over nor untouched and working. -/
def unresolvedLeg (side : String) (quantity : ℚ) (leg : OrderObservation) :
    Except String Bool :=
  if leg.status ∈ terminalStatuses then .ok false
  else if leg.status ∉ workingStatuses then .ok true
  else do
    let foreign ← foreignLeg side quantity leg
    if foreign then .ok true
    else do
      let filled ← readDecimal leg.filledQuantity
      .ok (filled ≠ 0)

/-- What is said of an entry whose bracket is not the approved one. -/
def changedBracket : String :=
  "Pending entry no longer matches its exact approved bracket/protection"

/-- **A reservation whose entry is working**: its bracket is exactly the
approved one, and it counts at least at its limit. -/
def pendingRow (context : BrokerEntryContext) (row : Signal) (root : OrderObservation)
    (quantity : ℚ) (legs : List OrderObservation) : Except String Signal := do
  let unbounded := "Pending broker exposure has no bounded approved limit"
  refuse (context.positions.any (fun p => p.symbol = row.contract))
    "Pending entry overlaps existing broker exposure"
  refuse (legs.any (fun leg => leg.status ∉ ["held", "pending_new"]))
    "Pending entry has unexpected active protection; reconcile exposure"
  refuse (!truthy root.limitPrice) unbounded
  let limit ← readDecimal (root.limitPrice.getD "")
  refuse (limit ≤ 0) unbounded
  let stops := legs.filter (fun leg => leg.orderType = "stop")
  let profits := legs.filter (fun leg => leg.orderType = "limit")
  refuse (root.orderClass ≠ "bracket" || root.orderType ≠ "limit"
    || limit ≠ row.entryPrice || legs.length ≠ 2) changedBracket
  match stops, profits with
  | [stop], [profit] => do
    let foreign ← legs.anyM (foreignLeg (entrySide row.direction) quantity)
    refuse (foreign || !truthy stop.stopPrice || !truthy profit.limitPrice) changedBracket
    let stopPrice ← readDecimal (stop.stopPrice.getD "")
    refuse (stopPrice ≠ row.stopLoss) changedBracket
    let target ← readDecimal (profit.limitPrice.getD "")
    refuse (target ≠ row.takeProfit) changedBracket
    let notional ← readNumber row.notionalValue
    .ok { row with notionalValue := some (max notional (quantity * limit)) }
  | _, _ => .error changedBracket

/-- What is said of a stop that is not the protection of the holding. -/
def foreignProtection : String := "Exact protection differs from the broker exposure"

/-- The price of the stop that protects a holding. -/
def protectionPrice (side : String) (quantity : ℚ) (stop : OrderObservation) :
    Except String ℚ := do
  let foreign ← foreignLeg side quantity stop
  refuse foreign foreignProtection
  let filled ← readDecimal stop.filledQuantity
  refuse (filled ≠ 0 || !truthy stop.stopPrice) foreignProtection
  let stopPrice ← readDecimal (stop.stopPrice.getD "")
  refuse (stopPrice ≤ 0) foreignProtection
  .ok stopPrice

/-- The holding a filled entry has become, with the basis of its fill. -/
def filledHolding (context : BrokerEntryContext) (covered : BookCoverage) (row : Signal)
    (root : OrderObservation) (quantity : ℚ) : Except String BrokerPosition := do
  let disagree := "Filled entry and broker exposure disagree; reconcile ownership"
  let basis :=
    "Broker inventory basis differs from confirmed entry execution; reconcile ownership"
  match context.positions.find? (fun p => p.symbol = row.contract) with
  | none => .error disagree
  | some holding => do
    refuse (row.contract ∈ covered.holdings || holding.direction ≠ row.direction
      || |holding.quantity| ≠ quantity || holding.assetClass ≠ .equity) disagree
    refuse (!truthy root.averageFillPrice) basis
    let average ← readDecimal (root.averageFillPrice.getD "")
    refuse (average ≤ 0 || brokerPriceTolerance < |average - holding.entryPrice|) basis
    .ok holding

/-- **A reservation whose entry is filled**: it is the holding on its symbol,
one exact stop protects it, and it counts at least at the mark. -/
def filledRow (context : BrokerEntryContext) (covered : BookCoverage) (row : Signal)
    (root : OrderObservation) (quantity : ℚ) (legs : List OrderObservation) :
    Except String Signal := do
  let side := entrySide row.direction
  let holding ← filledHolding context covered row root quantity
  let mark ← readNumber holding.currentPrice
  refuse (mark ≤ 0) "Broker exposure has no valid market mark"
  match protectiveStop legs side (.finite quantity) with
  | none => .error (decimalError .null)
  | some none =>
    .error "Exact active stop protection is unavailable for existing exposure"
  | some (some stop) => do
    let stopPrice ← protectionPrice side quantity stop
    let distance := (mark - stopPrice) * (if side = "buy" then 1 else -1)
    refuse (distance ≤ 0)
      "Broker mark has reached stop protection; reconcile before new exposure"
    let unresolved ← legs.anyM (unresolvedLeg side quantity)
    refuse unresolved "Unresolved or partial protection requires exposure reconciliation"
    let notional ← readNumber row.notionalValue
    .ok { row with
      notionalValue := some (max notional (quantity * max mark holding.entryPrice)),
      riskDollars := max row.riskDollars (quantity * distance) }

/-- The entry order of a reservation that names one, with its quantity and
its fill: exactly the reserved commitment, and not in part. -/
def entryOrder (context : BrokerEntryContext) (row : Signal) (rootId : String) :
    Except String (OrderObservation × ℚ × ℚ) := do
  let differs := "Tracked exposure differs from exact broker entry identity"
  match context.orders.find? (fun o => o.orderId = rootId) with
  | none => .error differs
  | some root => do
    refuse (root.symbol ≠ row.contract || root.side ≠ entrySide row.direction) differs
    let quantity ← readDecimal root.quantity
    let filled ← readDecimal root.filledQuantity
    refuse (quantity ≤ 0 || quantity ≠ row.quantity || !(0 ≤ filled && filled ≤ quantity))
      "Broker exposure quantity differs from its full reserved commitment"
    refuse (root.status = "partially_filled" || (0 < filled && filled < quantity))
      "Partial entry exposure requires protection and ownership reconciliation"
    .ok (root, quantity, filled)

/-- The orders of a lineage other than its root. -/
def exitLegs (context : BrokerEntryContext) (rootId : String) : List OrderObservation :=
  context.orders.filter (fun o => o.orderId ∈ group rootId context.orders && o.orderId ≠ rootId)

/-- **One reservation of `_exposure`**: the row as it counts, and what is
accounted for with it. -/
def exposureRow (context : BrokerEntryContext) (covered : BookCoverage) (row : Signal) :
    Except String (Signal × BookCoverage) :=
  if truthy row.brokerOrderId then do
    let rootId := row.brokerOrderId.getD ""
    let (root, quantity, filled) ← entryOrder context row rootId
    let family := group rootId context.orders
    refuse (family ∩ covered.orders ≠ ∅)
      "Multiple reservations claim the same broker exposure"
    refuse (context.orders.any (fun o => o.orderId ∈ family && o.symbol ≠ row.contract))
      "Broker protection lineage has inconsistent symbol identity"
    let legs := exitLegs context rootId
    let executed ← legs.anyM executedLeg
    refuse executed "Historical or partial exit execution requires ownership reconciliation"
    if root.status ∈ workingStatuses ∧ filled = 0 then do
      let counted ← pendingRow context row root quantity legs
      .ok (counted, { covered with orders := covered.orders ∪ family })
    else if root.status = "filled" ∧ filled = quantity then do
      let counted ← filledRow context covered row root quantity legs
      .ok (counted, ⟨covered.orders ∪ family, insert row.contract covered.holdings⟩)
    else .error "Unresolved broker entry exposure requires reconciliation"
  else if row.status ≠ .submitting then
    .error "Tracked exposure lacks exact broker entry identity"
  else .ok (row, covered)

/-- The loop over the reservations. -/
def exposureRows (context : BrokerEntryContext) :
    List Signal → BookCoverage → Except String (List Signal × BookCoverage)
  | [], covered => .ok ([], covered)
  | row :: rows, covered => do
    let (counted, covered) ← exposureRow context covered row
    let (rest, covered) ← exposureRows context rows covered
    .ok (counted :: rest, covered)

/-- **`_exposure`**: the reservations as they count against the limits. -/
def exposure (reservations : List Signal) (context : BrokerEntryContext) :
    Except String (List Signal) := do
  refuse (!decide (context.orders.map (·.orderId)).Nodup
      || !decide (context.positions.map (·.symbol)).Nodup)
    "Duplicate broker exposure identities; reconciliation required"
  let (rows, covered) ← exposureRows context reservations ⟨∅, ∅⟩
  refuse (context.positions.any (fun p => p.symbol ∉ covered.holdings))
    "Untracked broker exposure requires ownership and protection review"
  refuse (context.orders.any (fun o =>
      o.orderId ∉ covered.orders && o.status ∉ terminalStatuses))
    "Unrelated broker order exposure requires reconciliation; closing intent cannot be inferred"
  .ok rows

/-! ## The assessment -/

namespace BrokerEntryContext

variable (context : BrokerEntryContext)

/-- The two observations of the account. -/
def accounts : List EntryAccountEvidence := [context.accountBefore, context.account]

/-- The least equity observed. -/
def leastEquity (accountRisk : Option AccountRiskSnapshot) : ℚ :=
  min (min context.accountBefore.equity context.account.equity)
    ((accountRisk.map (·.equity)).getD context.account.equity)

/-- The least of a buying power over the two observations. -/
def least (value : EntryAccountEvidence → ℚ) : ℚ :=
  min (value context.accountBefore) (value context.account)

end BrokerEntryContext

/-- The freshness of the evidence. -/
def requireFresh (cfg : CapacityConfig) (context : BrokerEntryContext) (now : Time) :
    Except String Unit := do
  fresh context.requestedAt now cfg.entryEvidenceMaxAgeSeconds "Broker account/book evidence"
  fresh context.observedAt now cfg.entryEvidenceMaxAgeSeconds "Broker receipt"
  fresh context.tradeTimestamp now cfg.entryQuoteMaxAgeSeconds "Market trade"
  fresh context.quote.timestamp now cfg.entryQuoteMaxAgeSeconds "Market quote"
  refuse (context.sessionClosesAt ≤ now)
    "Equity session ended; request new approval during market hours"

/-- What the assessment asks of the request and of the asset. -/
def requireSupported (request : EntryRequest) (context : BrokerEntryContext) :
    Except String Unit := do
  refuse (request.assetClass ≠ .equity || request.orderType ≠ .limit
      || request.orderClass ≠ .bracket
      || !(request.timeInForce = .day || request.timeInForce = .gtc)
      || request.quantity.den ≠ 1)
    "Broker admission supports whole-share equity limit brackets with DAY/GTC only"
  refuse (context.asset.symbol ≠ request.symbol || context.quote.symbol ≠ request.symbol)
    "Broker asset/quote identity differs from approved symbol"
  refuse (context.asset.assetClass ≠ "us_equity") "Broker asset is not a supported equity"
  refuse (context.asset.status ≠ "active" || !context.asset.tradable)
    "Broker asset must be active and tradable"

/-- What it asks of one observation of the account. -/
def requireAccount (context : BrokerEntryContext) (accountRisk : Option AccountRiskSnapshot)
    (account : EntryAccountEvidence) : Except String Unit := do
  refuse (account.accountId ≠ context.account.accountId
      || accountRisk.any (fun risk => account.accountId ≠ risk.accountId))
    "Broker account identity differs from reconciled risk"
  refuse (account.status ≠ "ACTIVE") "Broker account is not active"
  refuse (account.currency ≠ "USD") "Broker funding requires USD account evidence"
  refuse (account.tradingBlocked || account.accountBlocked || account.tradeSuspendedByUser)
    "Broker account trading is blocked or suspended"

/-- What a short entry needs beyond a long one. -/
def requireShortable (context : BrokerEntryContext) : Except String Unit :=
  refuse (context.accounts.any (fun a =>
        !a.shortingEnabled || a.multiplier ≤ 1 || a.equity < minimumMarginEquity)
      || !context.asset.marginable || !context.asset.shortable
      || context.asset.borrowStatus ≠ some "easy_to_borrow")
    "Short entry requires enabled margin and current easy-to-borrow evidence; locates unsupported"

/-- **The funding of an entry**: what it needs and what there is. -/
def funding (request : EntryRequest) (context : BrokerEntryContext) : Except String (ℚ × ℚ) :=
  let available := min (context.least (·.buyingPower)) (context.least (·.regtBuyingPower))
  let ask := context.quote.askPrice
  if request.direction = .short then do
    requireShortable context
    .ok (max request.entryPrice (ask * shortBuyingPowerMultiplier) * request.quantity, available)
  else
    .ok (max request.entryPrice ask * request.quantity,
      if context.asset.marginable then available
      else min available (context.least (·.nonMarginableBuyingPower)))

/-- **`assess_entry_capacity`.** -/
def assessEntryCapacity (text : RiskText) (cfg : CapacityConfig) (request : EntryRequest)
    (reservations : List Signal) (context : BrokerEntryContext)
    (accountRisk : Option AccountRiskSnapshot) (now : Time) :
    Except String CapacityAssessment := do
  requireFresh cfg context now
  requireSupported request context
  requireAccount context accountRisk context.accountBefore
  requireAccount context accountRisk context.account
  let equity := context.leastEquity accountRisk
  let capital ← riskCapital cfg.limits.cash (some equity)
  let (required, available) ← funding request context
  let need := text.fixed2 required
  let have_ := text.fixed2 available
  refuse (available < required)
    s!"Insufficient observed buying power: need ${need}, available ${have_}; request smaller sizing"
  let rows ← exposure reservations context
  let drawdown := (accountRisk.map (·.drawdownPct)).getD 0
  let exposurePrice := max (max request.entryPrice context.quote.askPrice) context.price
  match reservationRejection text cfg.limits cfg.multiplier request.toOrderRequest rows drawdown
      (some equity) (some exposurePrice) with
  | some reason => .error reason
  | none => do
    let notionals ← rows.mapM (fun p => readNumber p.notionalValue)
    .ok
      { requiredBuyingPower := required
        availableBuyingPower := available
        effectiveRiskCapital := capital
        aggregateStopRisk := |request.entryPrice - request.stopLoss| * request.quantity
          + (rows.map (·.riskDollars)).sum
        aggregateNotional := exposurePrice * request.quantity + notionals.sum
        positionCount := rows.length + 1 }

end AgenticTrader
