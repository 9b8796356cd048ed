import AgenticTrader.Durable
import Mathlib.Algebra.BigOperators.Group.List.Basic
import Mathlib.Algebra.Order.Ring.Rat
import Mathlib.Data.List.Dedup
import Mathlib.Tactic.Ring

/-!
# Cash and inventory reconciliation

`accounting/ledger.py`. The activities of an account are folded into a cash
total, an inventory and the totals of a report, and compared with what the
broker says the account holds. An activity that is malformed or of an unknown
kind is an issue, and a report with an issue publishes no profit.

An activity is the JSON object the broker sent, so every field may be missing
or of any type, and the loop reads them in an order: it may stop after an
identity was noted, or after cash was counted, and what it did until then
stays.

Amounts are decimals, and `round` is what an operation does to its exact result:
the default context keeps 28 digits and a range of exponents, and `id` is exact
arithmetic.
-/

namespace AgenticTrader

/-! ## Broker documents -/

/-- **A JSON value**, a number as it is printed. -/
inductive Json where
  | null
  | bool (value : Bool)
  | number (text : String)
  | str (text : String)
  | list (items : List Json)
  | object (fields : List (String × Json))

namespace Json

/-- `bool(value)`. -/
def truthy : Json → Bool
  | .null => false
  | .bool b => b
  | .number text => WireDecimal.ofString? text ≠ some (.finite 0)
  | .str text => text ≠ ""
  | .list items => !items.isEmpty
  | .object fields => !fields.isEmpty

/-- `value == text`. -/
def isText (value : Json) (text : String) : Bool :=
  match value with
  | .str s => s == text
  | _ => false

/-- A value as it is hashed. -/
inductive Key where
  | null
  | number (value : WireDecimal)
  | str (text : String)
  deriving DecidableEq

/-- The key of a value in a set; a truth value is a number, and a list or an
object does not hash. -/
def key? : Json → Option Key
  | .null => some .null
  | .bool b => some (.number (.finite (if b then 1 else 0)))
  | .number text => (WireDecimal.ofString? text).map .number
  | .str text => some (.str text)
  | .list _ => none
  | .object _ => none

/-- `str(value)`, of the values that are printed. -/
def text : Json → String
  | .null => "None"
  | .bool true => "True"
  | .bool false => "False"
  | .number text => text
  | .str text => text
  | .list _ => "[…]"
  | .object _ => "\x7b…\x7d"

/-- `"/" in value`, or `none` where it raises. -/
def hasSlash? : Json → Option Bool
  | .str text => some (text.toList.contains '/')
  | .list items => some (items.any (·.isText "/"))
  | .object fields => some (fields.any (·.1 == "/"))
  | _ => none

end Json

/-- **`decimal(value)`**: a finite number, or `none` where it raises. No other
value prints as a number. -/
def decimal : Json → Option ℚ
  | .number text => finite? text
  | .str text => finite? text
  | _ => none
where
  finite? (text : String) : Option ℚ :=
    match WireDecimal.ofString? text with
    | some (.finite q) => some q
    | _ => none

/-- The text of the exception it raises. -/
def decimalError : Json → String
  | .number text => failure text
  | .str text => failure text
  | _ => "[<class 'decimal.ConversionSyntax'>]"
where
  failure (text : String) : String :=
    if (WireDecimal.ofString? text).isSome then "Nonfinite amount"
    else "[<class 'decimal.ConversionSyntax'>]"

/-- **An account activity.** -/
abbrev Activity := List (String × Json)

/-- `activity.get(field)`. -/
def Activity.get? (a : Activity) (field : String) : Option Json :=
  (a.find? (fun f => f.1 == field)).map (·.2)

/-! ## Snapshots and reports -/

/-- `Money` fields of a broker position. -/
structure AccountPosition where
  qty : ℚ
  costBasis : ℚ
  unrealizedPl : ℚ
  assetClass : String
  deriving DecidableEq

/-- **What the broker says the account holds.** Positions are keyed by their
symbol. -/
structure AccountSnapshot where
  accountId : String
  cash : ℚ
  positions : List (String × AccountPosition)
  observedAt : WireTime
  identified : accountId ≠ ""
  distinct : (positions.map (·.1)).Nodup

/-- **A reconciliation report.** -/
structure LedgerReport where
  observedAt : WireTime
  activityCount : ℕ
  fillCount : ℕ
  issues : List String
  cashDelta : ℚ
  quantityDeltas : List (String × ℚ)
  grossRealized : Option ℚ
  fees : ℚ
  income : ℚ
  netRealized : Option ℚ
  unrealized : ℚ
  deriving DecidableEq

/-- `LedgerReport.ready`. -/
def LedgerReport.ready (r : LedgerReport) : Bool :=
  r.issues.isEmpty && r.grossRealized.isSome && r.netRealized.isSome

/-- `CASH_TRANSFERS`. -/
def cashTransfers : List String := ["CSD", "CSW", "JNLC"]

/-- `FEES`. -/
def feeKinds : List String := ["FEE", "CFEE", "DIVFEE"]

/-- `INCOME`. -/
def incomeKinds : List String := ["DIV", "INT"]

/-- `SELL_SIDES`. -/
def sellSides : List String := ["sell", "sell_short"]

/-- A structural corporate action, as the evidence describes it. -/
structure CorporateAction where
  symbol : String
  isStructural : Bool
  effectiveOn : ℤ
  description : String

/-- **The texts a report is printed with**: `str` of a decimal, a text without
the spaces around it and in upper case, the day of an ISO date, and its text. -/
structure TextRules where
  decimal : ℚ → String
  strip : String → String
  upper : String → String
  fromIsoformat : String → Option ℤ
  isoformat : ℤ → String

/-- `str(activity.get(field) or "")`. -/
def Activity.textOf (a : Activity) (field : String) : String :=
  ((a.get? field).filter Json.truthy).elim "" Json.text

/-- **`unsupported_activity_issue`**: the issue, with a structural corporate
action on the symbol within ten days when the evidence holds one. -/
def unsupportedActivityIssue (rules : TextRules) (actions : List CorporateAction)
    (kind : Json) (a : Activity) : String :=
  let base := "Unsupported activity type: " ++ kind.text
  let symbol := rules.upper (rules.strip (a.textOf "symbol"))
  let raw := if a.textOf "date" = "" then a.textOf "transaction_time" else a.textOf "date"
  match rules.fromIsoformat (String.ofList (raw.toList.take 10)) with
  | none => base
  | some date =>
    match actions.find? (fun c => c.isStructural && c.symbol == symbol
        && decide (|c.effectiveOn - date| ≤ 10)) with
    | none => base
    | some c => base ++ " (" ++ c.description ++ " " ++ symbol ++ " effective "
        ++ rules.isoformat c.effectiveOn ++ " in corporate-action evidence)"

/-- What a report can object to. -/
inductive Issue where
  | invalidActivity
  | unsupportedActivity (text : String)
  | cashMismatch (delta : ℚ)
  | quantityMismatch (symbols : List String)
  | unsupportedHolding

/-- The text of an issue. -/
def Issue.text (rules : TextRules) : Issue → String
  | .invalidActivity => "Invalid activity; inspect persisted evidence"
  | .unsupportedActivity text => text
  | .cashMismatch delta => "Cash mismatch: " ++ rules.decimal delta
  | .quantityMismatch symbols =>
    "Quantity mismatch: " ++ ", ".intercalate (symbols.mergeSort (· ≤ ·))
  | .unsupportedHolding => "Unsupported asset or inconsistent signed cost basis"

/-! ## The loop -/

/-- **The variables of the loop.** `inventory` is in the order its symbols were
first met. -/
structure Tally where
  inventory : List (String × ℚ)
  fillCash : ℚ
  cash : ℚ
  fees : ℚ
  income : ℚ
  issues : List Issue
  ids : List Json.Key
  fills : ℕ

/-- The quantity under a symbol. -/
def quantityOf (inventory : List (String × ℚ)) (symbol : String) : ℚ :=
  ((inventory.find? (fun i => i.1 == symbol)).map (·.2)).getD 0

/-- `inventory[symbol] += delta`, of a dictionary whose missing quantities are
zero. -/
def addQuantity (round : ℚ → ℚ) (symbol : String) (delta : ℚ) :
    List (String × ℚ) → List (String × ℚ)
  | [] => [(symbol, round delta)]
  | i :: rest =>
    if i.1 = symbol then (i.1, round (i.2 + delta)) :: rest
    else i :: addQuantity round symbol delta rest

/-- An execution whose fields were all read and passed their checks. -/
structure FillFields where
  symbol : Json
  direction : ℚ
  qty : ℚ
  price : ℚ

/-- `1` for a sale and `-1` for a purchase, of a known side. -/
def fillDirection? : Json → Option ℚ
  | .str side =>
    if side = "buy" then some (-1) else if side ∈ sellSides then some 1 else none
  | _ => none

/-- **The checks of an execution**, up to the first write. -/
def Activity.fill? (a : Activity) : Option FillFields := do
  let qty ← (a.get? "qty").bind decimal
  let price ← (a.get? "price").bind decimal
  let side ← a.get? "side"
  let symbol ← a.get? "symbol"
  if qty ≤ 0 ∨ price ≤ 0 ∨ symbol.truthy = false
      ∨ (a.get? "order_id").all Json.truthy = false ∨ (a.get? "order_id").isNone
      ∨ (a.get? "transaction_time").all Json.truthy = false
      ∨ (a.get? "transaction_time").isNone then none
  else
    let direction ← fillDirection? side
    let slash ← symbol.hasSlash?
    if slash || !((a.get? "asset_class").getD (.str "us_equity")).isText "us_equity" then none
    else some ⟨symbol, direction, qty, price⟩

/-- The shares a transfer moves; they are not read of the other kinds. -/
def Activity.shares? (a : Activity) (kind : String) : Option ℚ :=
  if kind ∈ cashTransfers then
    decimal (((a.get? "qty").filter Json.truthy).getD (.str "0"))
  else some 0

/-- **The checks of a cash activity**: its amount. -/
def Activity.cashAmount? (a : Activity) (kind : String) : Option ℚ :=
  if !((a.get? "status").getD (.str "executed")).isText "executed" then none
  else do
    let shares ← a.shares? kind
    if shares ≠ 0 then none else (a.get? "net_amount").bind decimal

namespace Tally

/-- Nothing was read yet. -/
def empty : Tally := ⟨[], 0, 0, 0, 0, [], [], 0⟩

def issue (t : Tally) (i : Issue) : Tally :=
  { t with issues := t.issues ++ [i] }

/-- An exception was caught. -/
def invalid (t : Tally) : Tally := t.issue .invalidActivity

/-- **One execution.** A symbol that does not hash is noticed after its cash
was counted. -/
def bookFill (round : ℚ → ℚ) (t : Tally) (a : Activity) : Tally :=
  match a.fill? with
  | none => t.invalid
  | some f =>
    let moved := round (f.direction * f.qty)
    let counted := { t with
      fillCash := round (t.fillCash + round (moved * f.price))
      cash := round (t.cash + round (moved * f.price)) }
    match f.symbol with
    | .str symbol =>
      { counted with
        inventory := addQuantity round symbol (-moved) counted.inventory
        fills := counted.fills + 1 }
    | _ => counted.invalid

/-- **One transfer, fee or income.** -/
def bookCash (round : ℚ → ℚ) (t : Tally) (a : Activity) (kind : String) : Tally :=
  match a.cashAmount? kind with
  | none => t.invalid
  | some amount =>
    { t with
      cash := round (t.cash + amount)
      fees := if kind ∈ feeKinds then round (t.fees + amount) else t.fees
      income :=
        if kind ∉ feeKinds ∧ kind ∈ incomeKinds then round (t.income + amount)
        else t.income }

/-- An activity by its kind. -/
def bookKind (round : ℚ → ℚ) (unsupported : Json → Activity → String) (t : Tally)
    (a : Activity) : Json → Tally
  | .str kind =>
    if kind = "FILL" then t.bookFill round a
    else if kind ∈ cashTransfers ++ feeKinds ++ incomeKinds then t.bookCash round a kind
    else t.issue (.unsupportedActivity (unsupported (.str kind) a))
  | .list _ => t.invalid
  | .object _ => t.invalid
  | kind => t.issue (.unsupportedActivity (unsupported kind a))

/-- **One turn of the loop.** -/
def book (round : ℚ → ℚ) (unsupported : Json → Activity → String) (t : Tally)
    (a : Activity) : Tally :=
  match a.get? "id" with
  | none => t.invalid
  | some id =>
    if id.truthy = false then t.invalid
    else
      match id.key? with
      | none => t.invalid
      | some key =>
        if key ∈ t.ids then t.invalid
        else
          let noted := { t with ids := t.ids ++ [key] }
          match a.get? "activity_type" with
          | none => noted.invalid
          | some kind => noted.bookKind round unsupported a kind

end Tally

/-! ## The report -/

/-- The broker's quantity of a symbol. -/
def AccountSnapshot.quantityOf (snapshot : AccountSnapshot) (symbol : String) : ℚ :=
  ((snapshot.positions.find? (fun p => p.1 == symbol)).map (·.2.qty)).getD 0

/-- The quantities that differ, over the symbols of either side. -/
def quantityDeltas (round : ℚ → ℚ) (inventory : List (String × ℚ))
    (snapshot : AccountSnapshot) : List (String × ℚ) :=
  (((inventory.map (·.1) ++ snapshot.positions.map (·.1)).dedup).map
    (fun s => (s, round (AgenticTrader.quantityOf inventory s - snapshot.quantityOf s)))).filter
    (fun d => d.2 ≠ 0)

/-- A holding the totals would not be right for. -/
def AccountPosition.unsupported (round : ℚ → ℚ) (p : AccountPosition) : Bool :=
  p.assetClass ≠ "us_equity" || (p.qty ≠ 0 && round (p.qty * p.costBasis) ≤ 0)
    || (p.qty = 0 && p.costBasis ≠ 0)

/-- The issues of the comparison with the broker. -/
def comparisonIssues (round : ℚ → ℚ) (t : Tally) (snapshot : AccountSnapshot)
    (cashTolerance : ℚ) : List Issue :=
  let deltas := quantityDeltas round t.inventory snapshot
  let cashDelta := round (t.cash - snapshot.cash)
  (if cashTolerance < |cashDelta| then [.cashMismatch cashDelta] else [])
    ++ (if deltas.isEmpty then [] else [.quantityMismatch (deltas.map (·.1))])
    ++ (if snapshot.positions.any (·.2.unsupported round) then [.unsupportedHolding] else [])

/-- `sum(amounts, Decimal(0))`. -/
def decimalSum (round : ℚ → ℚ) (amounts : List ℚ) : ℚ :=
  amounts.foldl (fun total q => round (total + q)) 0

/-- **`reconcile`.** -/
def reconcile (round : ℚ → ℚ) (rules : TextRules) (actions : List CorporateAction)
    (cashTolerance : ℚ) (activities : List Activity) (snapshot : AccountSnapshot) :
    LedgerReport :=
  let t := activities.foldl (Tally.book round (unsupportedActivityIssue rules actions))
    Tally.empty
  let issues := t.issues ++ comparisonIssues round t snapshot cashTolerance
  let gross := if issues.isEmpty then
      some (round (t.fillCash
        + decimalSum round (snapshot.positions.map (·.2.costBasis)))) else none
  { observedAt := snapshot.observedAt
    activityCount := activities.length
    fillCount := t.fills
    issues := ((issues.map (Issue.text rules)).dedup).mergeSort (· ≤ ·)
    cashDelta := round (t.cash - snapshot.cash)
    quantityDeltas := quantityDeltas round t.inventory snapshot
    grossRealized := gross
    fees := t.fees
    income := t.income
    netRealized := gross.map (fun g => round (round (g + t.fees) + t.income))
    unrealized := decimalSum round (snapshot.positions.map (·.2.unrealizedPl)) }

end AgenticTrader
