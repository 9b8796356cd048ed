import AgenticTrader.Accounting.Ledger

/-!
# Account risk

`accounting/risk.py`: the drawdown of the account, from its reconciled
checkpoints. The first reconciled import fixes a baseline – the equity and the
cash flows of that time – and later ones move a high-water mark over the equity
adjusted for the flows since. The evidence that was accepted is kept as
fingerprints. An import that cannot be used leaves the last risk as it was, and
one that contradicts the accepted evidence invalidates the history.

Decimal arithmetic rounds to the precision of its context, so every operation
is followed by a rounding, of which nothing is assumed. What a stored document
says is its decoded value.
-/

namespace AgenticTrader

/-- The fields of a transfer whose change matters. -/
structure CashEvidence where
  activityType : String
  netAmount : ℚ
  transactionTime : Json
  date : Json

/-- **What is fixed for a ledger**: the rounding of the decimal context and the
SHA-256 of a transfer's evidence. -/
structure RiskRules where
  round : ℚ → ℚ
  digest : CashEvidence → String

/-- The identity and the digest of a transfer. -/
abbrev Fingerprint := String × String

/-- **`AccountRiskSnapshot`.** -/
structure AccountRiskSnapshot where
  accountId : String
  baselineObservedAt : WireTime
  baselineEquity : ℚ
  baselineCashFlows : ℚ
  observedAt : WireTime
  equity : ℚ
  cashFlows : ℚ
  adjustedEquity : ℚ
  highWaterMark : ℚ
  drawdownPct : ℚ
  cashTransferFingerprints : List Fingerprint
  baselineCashJournalFingerprints : List Fingerprint
  deriving DecidableEq

/-- Whether a timestamp has a zone. -/
def WireTime.isAware : WireTime → Bool
  | .aware _ => true
  | .naive _ => false

/-- Fingerprints are in the order of their identities, without repetition. -/
def validFingerprints (fs : List Fingerprint) : Bool :=
  decide ((fs.map (·.1)).Pairwise (· < ·))
    && fs.all (fun f => f.1 ≠ "" && f.2.length = 64)

/-- **The validation of a risk snapshot**: its fields and `consistent`. -/
def AccountRiskSnapshot.valid (rules : RiskRules) (s : AccountRiskSnapshot) : Bool :=
  s.accountId ≠ "" && WireTime.isAware s.baselineObservedAt && WireTime.isAware s.observedAt
    && 0 < s.baselineEquity && 0 < s.highWaterMark && 0 ≤ s.drawdownPct
    && s.observedAt.lt? s.baselineObservedAt ≠ some true
    && s.adjustedEquity
      = rules.round (s.equity - rules.round (s.cashFlows - s.baselineCashFlows))
    && max s.baselineEquity s.adjustedEquity ≤ s.highWaterMark
    && s.drawdownPct
      = max 0 (rules.round (rules.round (s.highWaterMark - s.adjustedEquity) / s.highWaterMark))
    && validFingerprints s.cashTransferFingerprints
    && validFingerprints s.baselineCashJournalFingerprints
    && s.cashTransferFingerprints.all
      (fun f => f.1 ∉ s.baselineCashJournalFingerprints.map (·.1))

/-! ## Checkpoints -/

/-- A document of a checkpoint: it may be missing, or not be what it should. -/
inductive Evidence (α : Type) where
  | absent
  | invalid
  | valid (value : α)

/-- **The stored checkpoint**, decoded. Before the first import every field is
missing. -/
structure Checkpoint where
  error : Option String
  checkedAt : Option WireTime
  report : Evidence LedgerReport
  snapshot : Evidence AccountSnapshot
  risk : Option AccountRiskSnapshot
  riskError : Option String
  riskInvalidation : Option String

/-- `{}`. -/
def Checkpoint.empty : Checkpoint := ⟨none, none, .absent, .absent, none, none, none⟩

/-- **`_validated_checkpoint`**: the snapshot of a ready, aligned report. -/
def Checkpoint.validated (c : Checkpoint) : Except String AccountSnapshot :=
  if truthy c.error then .error ("Account import failed: " ++ c.error.getD "")
  else
    match c.report with
    | .absent => .error "Awaiting account activity reconciliation"
    | .invalid =>
      .error "Account reconciliation evidence is invalid; inspect the persisted ledger"
    | .valid report =>
      if !report.ready then
        .error ("Account reconciliation unavailable: " ++ "; ".intercalate report.issues)
      else
        match c.snapshot with
        | .absent => .error "Account snapshot is unavailable"
        | .invalid => .error "Account snapshot is invalid; inspect the persisted ledger"
        | .valid snapshot =>
          if !WireTime.isAware snapshot.observedAt
              || report.observedAt ≠ snapshot.observedAt then
            .error "Account risk requires aligned timezone-aware observation times"
          else .ok snapshot

/-- **`_risk_snapshot`**, of a stored one. -/
def storedRisk (rules : RiskRules) : Option AccountRiskSnapshot →
    Except String AccountRiskSnapshot
  | none => .error "Awaiting first reconciled account risk baseline"
  | some risk =>
    if risk.valid rules then .ok risk
    else .error
      "Account risk evidence is invalid or unsupported; inspect the persisted ledger"

/-- **`_equity`.** -/
def AccountSnapshot.equity (round : ℚ → ℚ) (snapshot : AccountSnapshot) : ℚ :=
  round (snapshot.cash + snapshot.positions.foldl
    (fun total p => round (total + round (p.2.costBasis + p.2.unrealizedPl))) 0)

/-! ## Cash history -/

/-- The variables of `_cash_history`. -/
structure CashHistory where
  total : ℚ
  transfers : List Fingerprint
  journals : List Fingerprint

/-- The amount of a transfer that passed its checks. -/
def transferAmount (a : Activity) (kind : String) : Except String ℚ :=
  match a.get? "net_amount" with
  | none => .error "'net_amount'"
  | some value =>
    match decimal value with
    | none => .error (decimalError value)
    | some amount =>
      if !((a.get? "status").getD (.str "executed")).isText "executed" then
        .error "Unsupported cash transfer"
      else
        let qty := ((a.get? "qty").filter Json.truthy).getD (.number "0")
        match decimal qty with
        | none => .error (decimalError qty)
        | some shares =>
          if shares ≠ 0 then .error "Unsupported cash transfer"
          else if (kind = "CSD" ∧ amount < 0) ∨ (kind = "CSW" ∧ 0 < amount) then
            .error "Cash transfer direction disagrees with activity type"
          else .ok amount

/-- One turn of `_cash_history`. -/
def CashHistory.add (rules : RiskRules) (h : CashHistory) (a : Activity) :
    Except String CashHistory :=
  match a.get? "activity_type" with
  | some (.list _) => .error "unhashable type: 'list'"
  | some (.object _) => .error "unhashable type: 'dict'"
  | some (.str kind) =>
    if kind ∉ cashTransfers then .ok h
    else
      match transferAmount a kind with
      | .error e => .error e
      | .ok amount =>
        match a.get? "id" with
        | some (.str id) =>
          let print : Fingerprint := (id, rules.digest ⟨kind, rules.round amount,
            (a.get? "transaction_time").getD .null, (a.get? "date").getD .null⟩)
          if kind = "JNLC" then .ok { h with journals := h.journals ++ [print] }
          else .ok { h with
            transfers := h.transfers ++ [print]
            total := rules.round (h.total + amount) }
        | _ => .error "Input should be a valid string"
  | _ => .ok h

/-- `sorted` of fingerprints: by identity, then by digest. -/
def sortFingerprints (fs : List Fingerprint) : List Fingerprint :=
  fs.mergeSort (fun a b => a.1 < b.1 || (a.1 == b.1 && a.2 ≤ b.2))

/-- **`_cash_history`**: the external flows, and the evidence of the transfers
and of the cash journals. -/
def cashHistory (rules : RiskRules) (activities : List Activity) :
    Except String CashHistory := do
  let h ← activities.foldlM (CashHistory.add rules) ⟨0, [], []⟩
  .ok { h with
    transfers := sortFingerprints h.transfers
    journals := sortFingerprints h.journals }

/-! ## Advancing the risk -/

/-- Why an import did not advance the risk: its evidence cannot be used, or it
contradicts the accepted history. -/
inductive RiskFailure where
  | unavailable (text : String)
  | invalidated (text : String)

/-- The evidence of transfers that was accepted is still there; of two under
one identity the last counts. -/
def keepsTransfers (prior : AccountRiskSnapshot) (transfers : List Fingerprint) : Bool :=
  prior.cashTransferFingerprints.all (fun f =>
    (transfers.reverse.find? (fun g => g.1 == f.1)).map (·.2) == some f.2)

/-- **The checks against the accepted history.** -/
def priorFailure (prior : AccountRiskSnapshot) (accountId : String)
    (snapshot : AccountSnapshot) (history : CashHistory) : Option RiskFailure :=
  if prior.accountId ≠ accountId then
    some (.unavailable "Account risk baseline belongs to another account")
  else if snapshot.observedAt.lt? prior.observedAt = some true then
    some (.unavailable "Account risk observation is out of order")
  else if history.journals ≠ prior.baselineCashJournalFingerprints then
    some (.invalidated
      "Cash journal history changed after the baseline; ambiguous external-flow classification requires review")
  else if !keepsTransfers prior history.transfers then
    some (.invalidated
      "Accepted cash transfer evidence was revised or retracted; risk history requires review")
  else none

/-- The risk of the first import. -/
def firstRisk (rules : RiskRules) (accountId : String) (snapshot : AccountSnapshot)
    (history : CashHistory) : AccountRiskSnapshot :=
  let equity := snapshot.equity rules.round
  let adjusted := rules.round (equity - rules.round (history.total - history.total))
  let mark := max equity adjusted
  { accountId := accountId
    baselineObservedAt := snapshot.observedAt
    baselineEquity := equity
    baselineCashFlows := history.total
    observedAt := snapshot.observedAt
    equity := equity
    cashFlows := history.total
    adjustedEquity := adjusted
    highWaterMark := mark
    drawdownPct := max 0 (rules.round (rules.round (mark - adjusted) / mark))
    cashTransferFingerprints := history.transfers
    baselineCashJournalFingerprints := history.journals }

/-- The risk of a later import. -/
def nextRisk (rules : RiskRules) (prior : AccountRiskSnapshot) (accountId : String)
    (snapshot : AccountSnapshot) (history : CashHistory) : AccountRiskSnapshot :=
  let equity := snapshot.equity rules.round
  let adjusted :=
    rules.round (equity - rules.round (history.total - prior.baselineCashFlows))
  let mark := max prior.highWaterMark adjusted
  { prior with
    accountId := accountId
    observedAt := snapshot.observedAt
    equity := equity
    cashFlows := history.total
    adjustedEquity := adjusted
    highWaterMark := mark
    drawdownPct := max 0 (rules.round (rules.round (mark - adjusted) / mark))
    cashTransferFingerprints := history.transfers }

/-- The construction of a risk snapshot validates it. -/
def validatedRisk (rules : RiskRules) (risk : AccountRiskSnapshot) :
    Except RiskFailure AccountRiskSnapshot :=
  if risk.valid rules then .ok risk
  else .error (.unavailable "Account risk evidence is invalid; inspect the persisted ledger")

/-- An import checked for itself: its snapshot and its cash history. -/
def importEvidence (rules : RiskRules) (checkpoint : Checkpoint) (activities : List Activity)
    (accountId : String) (now : WireTime) :
    Except String (AccountSnapshot × CashHistory) := do
  let snapshot ← checkpoint.validated
  if !WireTime.isAware now || now.lt? snapshot.observedAt = some true then
    .error "Account risk observation is future-dated or current time is ambiguous"
  else if snapshot.accountId ≠ accountId then
    .error "Account risk identity differs from ledger binding"
  else do
    let history ← cashHistory rules activities
    .ok (snapshot, history)

/-- **The risk an import is accepted with**, or why it is not. -/
def acceptRisk (rules : RiskRules) (previous : Option AccountRiskSnapshot)
    (checkpoint : Checkpoint) (activities : List Activity) (accountId : String)
    (now : WireTime) : Except RiskFailure AccountRiskSnapshot :=
  match importEvidence rules checkpoint activities accountId now with
  | .error text => .error (.unavailable text)
  | .ok (snapshot, history) =>
    match previous with
    | none =>
      if snapshot.equity rules.round ≤ 0 then
        .error (.unavailable "Initial account risk equity must be positive")
      else validatedRisk rules (firstRisk rules accountId snapshot history)
    | some _ =>
      match storedRisk rules previous with
      | .error text => .error (.unavailable text)
      | .ok prior =>
        match priorFailure prior accountId snapshot history with
        | some failure => .error failure
        | none => validatedRisk rules (nextRisk rules prior accountId snapshot history)

/-- The fields of a checkpoint an import derives. -/
structure RiskFields where
  risk : Option AccountRiskSnapshot
  riskError : Option String
  riskInvalidation : Option String

/-- **`advance_risk_checkpoint`.** -/
def advanceRiskCheckpoint (rules : RiskRules) (previous checkpoint : Checkpoint)
    (activities : List Activity) (accountId : String) (now : WireTime) : RiskFields :=
  if truthy previous.riskInvalidation then
    ⟨previous.risk, previous.riskInvalidation, previous.riskInvalidation⟩
  else
    match acceptRisk rules previous.risk checkpoint activities accountId now with
    | .ok risk => ⟨some risk, none, none⟩
    | .error (.invalidated text) => ⟨previous.risk, some text, some text⟩
    | .error (.unavailable text) => ⟨previous.risk, some text, previous.riskInvalidation⟩

/-- The seconds from one time to a later one, both with a zone. -/
def WireTime.secondsSince : WireTime → WireTime → Option ℚ
  | .aware a, .aware b => some ((a - b : ℤ) / 1000000)
  | _, _ => none

/-- **`require_risk_checkpoint`**; an age that is not finite is `none`. -/
def requireRiskCheckpoint (rules : RiskRules) (c : Checkpoint) (maxAgeSeconds : Option ℚ)
    (now : WireTime) : Except String AccountRiskSnapshot :=
  match maxAgeSeconds with
  | none => .error "Account risk freshness must be finite and positive"
  | some maxAge =>
    if maxAge ≤ 0 then .error "Account risk freshness must be finite and positive"
    else if truthy c.riskInvalidation then .error (c.riskInvalidation.getD "")
    else if truthy c.riskError then .error (c.riskError.getD "")
    else do
      let snapshot ← c.validated
      let risk ← storedRisk rules c.risk
      if risk.accountId ≠ snapshot.accountId ∨ risk.observedAt ≠ snapshot.observedAt
          ∨ risk.equity ≠ snapshot.equity rules.round then
        .error "Account risk does not match its reconciled checkpoint"
      else
        match WireTime.secondsSince now risk.observedAt with
        | none => .error "Account risk requires an aware current time"
        | some age =>
          if 0 ≤ age ∧ age ≤ maxAge then .ok risk
          else .error "Account risk observation is stale or future-dated"

end AgenticTrader
