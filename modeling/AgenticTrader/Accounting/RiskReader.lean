import AgenticTrader.Accounting.RiskDocument
import AgenticTrader.Accounting.RiskHistory
import AgenticTrader.Library.DecimalContext
import Mathlib.Algebra.Order.BigOperators.Group.Multiset

/-!
# The reader of the risk and its writer

`require_risk_checkpoint` derives again what `advance_risk_checkpoint` derived
– the equity from the snapshot, the drawdown from the equity – and refuses a
checkpoint where the two differ. What it accepts is therefore the checkpoint's
own. The other way round, it accepts what an import committed, for as long as
it is fresh, exactly when the equity is the same in the order the text has the
positions in: the importer sums them in the order of the broker, the reader in
the order of their symbols, and a sum in decimal arithmetic depends on it once
it needs more digits than the context has (`risk_read_back_iff`).
-/

namespace AgenticTrader

section Reader

variable {rules : RiskRules}

/-- **When the reader accepts a checkpoint.** -/
theorem requireRiskCheckpoint_ok_iff {c : Checkpoint} {maxAge : Option ℚ} {now : WireTime}
    {risk : AccountRiskSnapshot} :
    requireRiskCheckpoint rules c maxAge now = .ok risk
      ↔ (∃ limit age, maxAge = some limit ∧ 0 < limit
          ∧ WireTime.secondsSince now risk.observedAt = some age ∧ 0 ≤ age ∧ age ≤ limit)
        ∧ (truthy c.riskInvalidation = false ∧ truthy c.riskError = false)
        ∧ storedRisk rules c.risk = .ok risk
        ∧ ∃ snapshot, c.validated = .ok snapshot ∧ risk.accountId = snapshot.accountId
          ∧ risk.observedAt = snapshot.observedAt ∧ risk.equity = snapshot.equity rules.round := by
  constructor
  · intro h
    unfold requireRiskCheckpoint at h
    split at h
    · cases h
    · rename_i limit
      split at h
      · cases h
      · rename_i hlimit
        split at h
        · cases h
        · rename_i hinvalidation
          split at h
          · cases h
          · rename_i herror
            cases hvalidated : c.validated with
            | error text =>
              rw [hvalidated] at h
              cases h
            | ok snapshot =>
              cases hstored : storedRisk rules c.risk with
              | error text =>
                rw [hvalidated, hstored] at h
                cases h
              | ok stored =>
                rw [hvalidated, hstored] at h
                change (if _ then _ else _) = _ at h
                split at h
                · cases h
                · rename_i hsame
                  rw [not_or, not_or, not_not, not_not, not_not] at hsame
                  split at h
                  · cases h
                  · rename_i age hage
                    split at h
                    · rename_i hfresh
                      cases h
                      refine ⟨⟨limit, age, rfl, not_le.mp hlimit, hage, hfresh.1, hfresh.2⟩,
                        ⟨?_, ?_⟩, rfl, snapshot, rfl, hsame.1, hsame.2.1, hsame.2.2⟩
                      · simpa using hinvalidation
                      · simpa using herror
                    · cases h
  · rintro ⟨⟨limit, age, rfl, hlimit, hage, hfresh⟩, ⟨hinvalidation, herror⟩, hstored, snapshot,
      hvalidated, hsame⟩
    unfold requireRiskCheckpoint
    simp only [not_le.mpr hlimit, if_false, hinvalidation, herror, Bool.false_eq_true, hvalidated,
      hstored]
    show (if _ then _ else _) = _
    rw [if_neg (by simp [hsame]), hage]
    exact if_pos hfresh

/-- **When an import passes its own checks.** -/
theorem importEvidence_ok_iff {imported : Checkpoint} {activities : List Activity}
    {accountId : String} {now : WireTime} {snapshot : AccountSnapshot} {history : CashHistory} :
    importEvidence rules imported activities accountId now = .ok (snapshot, history)
      ↔ imported.validated = .ok snapshot
        ∧ (WireTime.isAware now = true ∧ now.lt? snapshot.observedAt ≠ some true)
        ∧ snapshot.accountId = accountId ∧ cashHistory rules activities = .ok history := by
  unfold importEvidence
  cases hvalidated : imported.validated with
  | error text =>
    constructor
    · rintro ⟨⟩
    · rintro ⟨⟨⟩, -⟩
  | ok s =>
    show (if _ then _ else if _ then _ else _) = _ ↔ _
    rw [Except.ok.injEq]
    constructor
    · intro h
      split at h
      · cases h
      · rename_i hnow
        split at h
        · cases h
        · rename_i haccount
          cases hhistory : cashHistory rules activities with
          | error text =>
            rw [hhistory] at h
            cases h
          | ok history' =>
            rw [hhistory] at h
            cases h
            rw [Bool.or_eq_true, not_or, Bool.not_eq_true', Bool.not_eq_false, decide_eq_true_eq]
              at hnow
            exact ⟨rfl, hnow, not_not.mp haccount, rfl⟩
    · rintro ⟨rfl, ⟨haware, hnow⟩, haccount, hhistory⟩
      rw [if_neg (by simp [haware, hnow]), if_neg (not_not.mpr haccount), hhistory]
      rfl

/-- **What an import is accepted with is of its snapshot.** -/
theorem acceptRisk_snapshot {stored : Option AccountRiskSnapshot} {imported : Checkpoint}
    {activities : List Activity} {accountId : String} {now : WireTime}
    {risk : AccountRiskSnapshot}
    (h : acceptRisk rules stored imported activities accountId now = .ok risk) :
    risk.valid rules = true
      ∧ ∃ snapshot, imported.validated = .ok snapshot ∧ risk.accountId = snapshot.accountId
        ∧ risk.observedAt = snapshot.observedAt ∧ risk.equity = snapshot.equity rules.round := by
  unfold acceptRisk at h
  split at h
  · cases h
  · rename_i snapshot history hevidence
    obtain ⟨hvalidated, -, haccount, -⟩ := importEvidence_ok_iff.mp hevidence
    split at h
    · split at h
      · cases h
      · obtain ⟨rfl, hvalid⟩ := validatedRisk_ok h
        exact ⟨hvalid, snapshot, hvalidated, haccount.symm, rfl, rfl⟩
    · split at h
      · cases h
      · split at h
        · cases h
        · obtain ⟨rfl, hvalid⟩ := validatedRisk_ok h
          exact ⟨hvalid, snapshot, hvalidated, haccount.symm, rfl, rfl⟩

/-- What a valid risk says of its equity. -/
theorem AccountRiskSnapshot.derived_of_valid {risk : AccountRiskSnapshot}
    (h : risk.valid rules = true) :
    risk.adjustedEquity
        = rules.round (risk.equity - rules.round (risk.cashFlows - risk.baselineCashFlows))
      ∧ risk.drawdownPct = max 0
        (rules.round (rules.round (risk.highWaterMark - risk.adjustedEquity)
          / risk.highWaterMark)) := by
  unfold AccountRiskSnapshot.valid at h
  simp only [Bool.and_eq_true, decide_eq_true_eq] at h
  exact ⟨h.1.1.1.1.1.2, h.1.1.1.2⟩

/-- No time has passed since a time with a zone. -/
theorem WireTime.secondsSince_self {t : WireTime} (h : WireTime.isAware t = true) :
    WireTime.secondsSince t t = some 0 := by
  cases t with
  | aware instant => simp [WireTime.secondsSince]
  | naive wall => cases h

section Advance

variable {previous imported : Checkpoint} {activities : List Activity} {accountId : String}
  {now : WireTime}

/-- An import without a risk error was accepted. -/
theorem acceptRisk_of_riskError
    (h : (advanceRiskCheckpoint rules previous imported activities accountId now).riskError
      = none) :
    truthy previous.riskInvalidation = false
      ∧ ∃ risk, acceptRisk rules previous.risk imported activities accountId now = .ok risk := by
  unfold advanceRiskCheckpoint at h
  split at h
  · rename_i hset
    -- an invalidated history has an error
    change previous.riskInvalidation = none at h
    rw [h] at hset
    cases hset
  · rename_i hset
    split at h
    · rename_i risk haccept
      exact ⟨by simpa using hset, risk, haccept⟩
    · cases h
    · cases h

/-- And what it leaves is the risk it was accepted with. -/
theorem advanceRiskCheckpoint_of_accept {risk : AccountRiskSnapshot}
    (hset : truthy previous.riskInvalidation = false)
    (h : acceptRisk rules previous.risk imported activities accountId now = .ok risk) :
    advanceRiskCheckpoint rules previous imported activities accountId now
      = ⟨some risk, none, none⟩ := by
  unfold advanceRiskCheckpoint
  rw [hset, h]
  rfl

end Advance

/-- **A commit without a risk error**: the import was accepted with the risk of
its snapshot, and nothing is invalidated. -/
theorem nextCheckpoint_accepted {env : LedgerEnv} {row : LedgerRow} {activities : List Activity}
    {documents : ImportDocuments} {checkedAt now : WireTime}
    (h : (Ledger.nextCheckpoint env row activities documents checkedAt now).riskError = none) :
    (Ledger.nextCheckpoint env row activities documents checkedAt now).riskInvalidation = none
      ∧ ∃ snapshot risk,
        (Ledger.nextCheckpoint env row activities documents checkedAt now).validated = .ok snapshot
        ∧ (Ledger.nextCheckpoint env row activities documents checkedAt now).risk = some risk
        ∧ risk.valid env.rules = true ∧ risk.accountId = snapshot.accountId
        ∧ risk.observedAt = snapshot.observedAt
        ∧ risk.equity = snapshot.equity env.rules.round := by
  unfold Ledger.nextCheckpoint at h ⊢
  dsimp only at h ⊢
  obtain ⟨hset, risk, haccept⟩ := acceptRisk_of_riskError h
  rw [advanceRiskCheckpoint_of_accept hset haccept]
  obtain ⟨hvalid, snapshot, hvalidated, haccount, htime, hequity⟩ := acceptRisk_snapshot haccept
  refine ⟨rfl, snapshot, risk, ?_, rfl, hvalid, haccount, htime, hequity⟩
  rw [Checkpoint.validated_ok_iff] at hvalidated ⊢
  exact hvalidated

end Reader

/-! ## The reader and the writer -/

/-- **The checkpoint is read again as it was written, and only its own risk is
accepted.** A commit without a risk error stores a risk; the reader returns it
from the text, at every time from the observation until it is too old, exactly
when the equity of the snapshot is the same with its positions in the order of
their symbols. And whatever checkpoint the reader accepts, the equity of the
risk it returns is that of the checkpoint's reconciled snapshot, and the
drawdown follows from it. -/
theorem risk_read_back_iff (env : LedgerEnv) (texts : DocumentTexts) :
    (∀ (db db' : Ledger) (token : Uuid) (activities : List Activity)
        (documents : ImportDocuments) (checkedAt now : WireTime),
      db.commit env token activities documents checkedAt now = some (db', true) →
      db'.checkpoint.riskError = none →
      ∃ snapshot risk, documents.snapshot = .valid snapshot ∧ db'.checkpoint.risk = some risk
        ∧ (texts.ReadBack risk →
          ((∀ (maxAge age : ℚ) (later : WireTime), 0 < maxAge →
              WireTime.secondsSince later risk.observedAt = some age → 0 ≤ age → age ≤ maxAge →
              requireRiskCheckpoint env.rules (db'.checkpoint.reloaded texts) (some maxAge) later
                = .ok risk)
            ↔ snapshot.reloaded.equity env.rules.round = snapshot.equity env.rules.round)))
      ∧ ∀ (c : Checkpoint) (maxAge : Option ℚ) (now : WireTime) (risk : AccountRiskSnapshot),
        requireRiskCheckpoint env.rules c maxAge now = .ok risk →
        ∃ snapshot, c.validated = .ok snapshot ∧ risk.accountId = snapshot.accountId
          ∧ risk.observedAt = snapshot.observedAt
          ∧ risk.adjustedEquity = env.rules.round (snapshot.equity env.rules.round
            - env.rules.round (risk.cashFlows - risk.baselineCashFlows))
          ∧ risk.drawdownPct = max 0 (env.rules.round
            (env.rules.round (risk.highWaterMark - risk.adjustedEquity) / risk.highWaterMark)) := by
  refine ⟨fun db db' token activities documents checkedAt now hcommit herror => ?_,
    fun c maxAge now risk h => ?_⟩
  · obtain ⟨row, hcheckpoint⟩ : ∃ row, db'.checkpoint
        = Ledger.nextCheckpoint env row activities documents checkedAt now := by
      unfold Ledger.commit at hcommit
      split at hcommit
      · cases hcommit
      · split at hcommit
        · cases hcommit
        · rename_i row hrow
          split at hcommit
          · cases hcommit
          · split at hcommit
            · cases hcommit
            · cases hcommit
              exact ⟨row, rfl⟩
    rw [hcheckpoint] at herror ⊢
    obtain ⟨hinvalidation, snapshot, risk, hvalidated, hrisk, hvalid, haccount, htime, hequity⟩ :=
      nextCheckpoint_accepted herror
    have hsnapshot : documents.snapshot = .valid snapshot := by
      obtain ⟨-, report, -, -, hsnapshot, -⟩ := Checkpoint.validated_ok_iff.mp hvalidated
      exact hsnapshot
    refine ⟨snapshot, risk, hsnapshot, hrisk, fun hread => ?_⟩
    generalize Ledger.nextCheckpoint env row activities documents checkedAt now = c
      at hinvalidation herror hvalidated hrisk
    have hvalidated' := validated_reloaded texts hvalidated
    have hstored : storedRisk env.rules (c.reloaded texts).risk = .ok risk := by
      have hreloaded : (c.reloaded texts).risk = some risk := by
        unfold Checkpoint.reloaded
        rw [hrisk, Option.map_some, readRisk_riskDocument hread, Option.getD_some]
      rw [hreloaded, storedRisk, if_pos hvalid]
    constructor
    · intro h
      -- the reader at the time of the observation
      have hnow := h 1 0 risk.observedAt one_pos
        (WireTime.secondsSince_self (AccountRiskSnapshot.aware_of_valid hvalid)) le_rfl zero_le_one
      obtain ⟨-, -, -, s, hs, -, -, hsame⟩ := requireRiskCheckpoint_ok_iff.mp hnow
      rw [hvalidated'] at hs
      cases hs
      rw [← hsame, hequity]
    · intro hsame maxAge age later hlimit hage hpos hle
      refine requireRiskCheckpoint_ok_iff.mpr ⟨⟨maxAge, age, rfl, hlimit, hage, hpos, hle⟩,
        ⟨?_, ?_⟩, hstored, snapshot.reloaded, hvalidated', haccount, htime, ?_⟩
      · show truthy c.riskInvalidation = false
        rw [hinvalidation]
        rfl
      · show truthy c.riskError = false
        rw [herror]
        rfl
      · rw [hsame, hequity]
  · obtain ⟨-, -, hstored, snapshot, hvalidated, haccount, htime, hequity⟩ :=
      requireRiskCheckpoint_ok_iff.mp h
    obtain ⟨hadjusted, hdrawdown⟩ :=
      AccountRiskSnapshot.derived_of_valid (storedRisk_ok hstored).2
    refine ⟨snapshot, hvalidated, haccount, htime, ?_, hdrawdown⟩
    rw [hadjusted, hequity]

/-! ## Amounts that fit -/

/-- What the equity of a snapshot is summed from. -/
def AccountSnapshot.amounts (s : AccountSnapshot) : List ℚ :=
  s.cash :: s.positions.flatMap (fun p => [p.2.costBasis, p.2.unrealizedPl])

theorem AccountSnapshot.size_amounts (s : AccountSnapshot) :
    size s.amounts
      = |s.cash| + (s.positions.map (fun p => |p.2.costBasis| + |p.2.unrealizedPl|)).sum := by
  have hsum : ∀ ps : List (String × AccountPosition),
      ((ps.flatMap (fun p => [p.2.costBasis, p.2.unrealizedPl])).map (fun q => |q|)).sum
        = (ps.map (fun p => |p.2.costBasis| + |p.2.unrealizedPl|)).sum := by
    intro ps
    induction ps with
    | nil => rfl
    | cons p ps ih =>
      rw [List.flatMap_cons, List.map_append, List.sum_append, ih, List.map_cons, List.sum_cons]
      simp
  rw [size, amounts, List.map_cons, List.sum_cons, hsum]

/-- **An equity that fits the context is exact.** -/
theorem AccountSnapshot.equity_of_fits {digits k : ℕ} {s : AccountSnapshot} {spare : ℚ}
    (hunits : ∀ q ∈ s.amounts, ∃ m : ℤ, q = m / 10 ^ k) (hspare : 0 ≤ spare)
    (hbound : (size s.amounts + spare) * 10 ^ k < 10 ^ digits) :
    s.equity (roundDigits digits) = s.equity id
      ∧ (∃ m : ℤ, s.equity id = m / 10 ^ k) ∧ |s.equity id| ≤ size s.amounts := by
  have hcash := hunits s.cash List.mem_cons_self
  have hpositions : ∀ p ∈ s.positions, (∃ m : ℤ, p.2.costBasis = m / 10 ^ k)
      ∧ ∃ m : ℤ, p.2.unrealizedPl = m / 10 ^ k := by
    intro p hp
    have hmem : ∀ q ∈ [p.2.costBasis, p.2.unrealizedPl], q ∈ s.amounts := fun q hq =>
      List.mem_cons_of_mem _ (List.mem_flatMap.mpr ⟨p, hp, hq⟩)
    exact ⟨hunits _ (hmem _ (by simp)), hunits _ (hmem _ (by simp))⟩
  set value : String × AccountPosition → ℚ := fun p => p.2.costBasis + p.2.unrealizedPl with hvalue
  set weight : String × AccountPosition → ℚ :=
    fun p => |p.2.costBasis| + |p.2.unrealizedPl| with hweight
  have hunit : ∀ p ∈ s.positions, ∃ m : ℤ, value p = m / 10 ^ k := fun p hp =>
    multiple_add (hpositions p hp).1 (hpositions p hp).2
  have hle : ∀ p ∈ s.positions, |value p| ≤ weight p := fun p _ => abs_add_le _ _
  have hten : (0 : ℚ) ≤ 10 ^ k := by positivity
  have hsum : (s.positions.map (fun p => |value p|)).sum ≤ (s.positions.map weight).sum :=
    List.sum_le_sum hle
  have hweights : 0 ≤ (s.positions.map weight).sum :=
    List.sum_nonneg (by
      simp only [List.mem_map, forall_exists_index, and_imp]
      rintro _ p - rfl
      exact add_nonneg (abs_nonneg _) (abs_nonneg _))
  have hsize : size s.amounts = |s.cash| + (s.positions.map weight).sum := s.size_amounts
  have hinner : ∀ p ∈ s.positions, roundDigits digits (value p) = value p := by
    intro p hp
    refine roundDigits_of_bound (hunit p hp) ?_ hbound
    have hone : weight p ≤ (s.positions.map weight).sum :=
      List.single_le_sum (by
        simp only [List.mem_map, forall_exists_index, and_imp]
        rintro _ q - rfl
        exact add_nonneg (abs_nonneg _) (abs_nonneg _)) _ (List.mem_map_of_mem hp)
    have := hle p hp
    have := abs_nonneg s.cash
    linarith
  have hfold : s.positions.foldl
      (fun total p => roundDigits digits (total + roundDigits digits (value p))) 0
      = s.positions.foldl (fun total p => roundDigits digits (total + value p)) 0 :=
    List.foldl_ext _ _ _ (fun total p hp => by rw [hinner p hp])
  have hroom : (|(0 : ℚ)| + (s.positions.map (fun p => |value p|)).sum + (|s.cash| + spare))
      * 10 ^ k < 10 ^ digits := by
    refine lt_of_le_of_lt (mul_le_mul_of_nonneg_right ?_ hten) hbound
    rw [abs_zero, hsize]
    linarith
  obtain ⟨hsum', hunits'⟩ := foldl_round_eq value ⟨0, by simp⟩ hunit
    (add_nonneg (abs_nonneg _) hspare) hroom
  rw [zero_add] at hsum' hunits'
  have hexact : s.equity id = s.cash + (s.positions.map value).sum := by
    rw [s.equity_exact, add_assoc, ← List.sum_map_add]
  have habs : |s.equity id| ≤ size s.amounts := by
    rw [hexact, hsize]
    refine (abs_add_le _ _).trans (add_le_add le_rfl (le_trans ?_ hsum))
    simpa [Function.comp_def] using
      Multiset.abs_sum_le_sum_abs (s := (s.positions.map value : Multiset ℚ))
  have hunit' : ∃ m : ℤ, s.equity id = m / 10 ^ k := hexact ▸ multiple_add hcash hunits'
  refine ⟨?_, hunit', habs⟩
  show roundDigits digits (s.cash + s.positions.foldl
    (fun total p => roundDigits digits (total + roundDigits digits (value p))) 0) = _
  rw [hfold, hsum', ← hexact]
  exact roundDigits_of_bound hunit' (by linarith) hbound

/-- **Then the order of the positions does not matter.** -/
theorem AccountSnapshot.equity_reloaded {digits : ℕ} {s : AccountSnapshot}
    (h : Fits digits s.amounts) :
    s.reloaded.equity (roundDigits digits) = s.equity (roundDigits digits) := by
  obtain ⟨k, hunits, hbound⟩ := h
  have hp := sortMembers_perm s.positions
  have hamounts : s.reloaded.amounts.Perm s.amounts := (hp.flatMap_right _).cons _
  have hexact : s.reloaded.equity id = s.equity id := by
    rw [AccountSnapshot.equity_exact, AccountSnapshot.equity_exact]
    show s.cash + ((sortMembers s.positions).map _).sum
      + ((sortMembers s.positions).map _).sum = _
    rw [(hp.map _).sum_eq, (hp.map _).sum_eq]
  have hsize : size s.reloaded.amounts = size s.amounts := (hamounts.map _).sum_eq
  have hroom : (size s.amounts + 0) * 10 ^ k < 10 ^ digits := by
    rw [add_zero]
    exact hbound
  have hfits := AccountSnapshot.equity_of_fits hunits le_rfl hroom
  have hfits' := AccountSnapshot.equity_of_fits
    (fun q hq => hunits q (hamounts.mem_iff.mp hq)) le_rfl (hsize ▸ hroom)
  rw [hfits.1, hfits'.1, hexact]

/-! ### Positions in another order -/

/-- A position of one share, long or short, bought or sold at its price. -/
def samplePosition (qty cost : ℚ) : AccountPosition := ⟨qty, cost, 0, "us_equity"⟩

/-- An account of three positions, not in the order of their symbols. -/
def sampleWide : AccountSnapshot where
  accountId := "acct"
  cash := 100
  positions := [("IWM", samplePosition 1 (10 ^ 27)), ("SPY", samplePosition 1 (2 / 5)),
    ("DIA", samplePosition (-1) (-10 ^ 27))]
  observedAt := .aware 1767366000000000
  identified := sampleSnapshot.identified
  distinct := by decide

/-- An execution of one share. -/
def sampleFill (id side symbol price : String) : Activity :=
  [("id", .str id), ("activity_type", .str "FILL"), ("qty", .str "1"), ("price", .str price),
    ("side", .str side), ("symbol", .str symbol), ("order_id", .str "o-1"),
    ("transaction_time", .str "2026-01-02T14:00:00Z")]

/-- The history of that account: a deposit, interest and three executions. -/
def sampleWideActivities : List Activity :=
  [Ledger.sampleTransfer "a-1" "100",
    [("activity_type", .str "INT"), ("id", .str "a-2"), ("net_amount", .str "0.4")],
    sampleFill "a-3" "buy" "SPY" "0.4",
    sampleFill "a-4" "sell_short" "DIA" "1000000000000000000000000000",
    sampleFill "a-5" "buy" "IWM" "1000000000000000000000000000"]

/-- A ledger with 28 digits, as the decimal context has by default. -/
def sampleDecimalEnv : LedgerEnv :=
  ⟨⟨roundDigits 28, Ledger.sampleLedgerEnv.rules.digest⟩, Ledger.sampleLedgerEnv.encode⟩

/-- Texts that read back whole amounts and the time of the samples. -/
def sampleTexts : DocumentTexts :=
  ⟨fun q => toString q.num, fun _ => "2026-01-02T15:00:00Z",
    fun v => if v.isText "2026-01-02T15:00:00Z" then some (.aware 1767366000000000) else none⟩

/-- A ledger bound to the account, before the first import. -/
def sampleBound : Ledger := Ledger.run sampleDecimalEnv .empty [.begin none, .bind 0 "acct"]

/-- The import of an account. -/
def sampleRefresh (activities : List Activity) (snapshot : AccountSnapshot) :
    Option (Ledger × Bool) :=
  sampleBound.commit sampleDecimalEnv 0 activities
    ⟨.valid (reconcile sampleDecimalEnv.rules.round sampleRules [] (1 / 100) activities snapshot),
      .valid snapshot⟩
    snapshot.observedAt snapshot.observedAt

/-- What an import left: whether it was accepted, the risk and its error. -/
def refreshed (r : Ledger × Bool) : Bool × Option String × Option AccountRiskSnapshot :=
  (r.2, r.1.checkpoint.riskError, r.1.checkpoint.risk)

/-- The risk of an account without a loss, after one deposit. -/
def sampleRisk (equity : ℚ) (amount : ℚ) : AccountRiskSnapshot where
  accountId := "acct"
  baselineObservedAt := .aware 1767366000000000
  baselineEquity := equity
  baselineCashFlows := amount
  observedAt := .aware 1767366000000000
  equity := equity
  cashFlows := amount
  adjustedEquity := equity
  highWaterMark := equity
  drawdownPct := 0
  cashTransferFingerprints :=
    [("a-1", sampleDecimalEnv.rules.digest ⟨"CSD", amount, .null, .null⟩)]
  baselineCashJournalFingerprints := []

/-- The importer sums the positions to nothing, the reader to two fifths more,
and refuses the risk at the time it was observed. -/
theorem risk_not_read_back :
    ∃ db' risk, sampleRefresh sampleWideActivities sampleWide = some (db', true)
      ∧ db'.checkpoint.riskError = none ∧ db'.checkpoint.risk = some risk
      ∧ sampleTexts.ReadBack risk
      ∧ WireTime.secondsSince sampleWide.observedAt risk.observedAt = some 0
      ∧ requireRiskCheckpoint sampleDecimalEnv.rules (db'.checkpoint.reloaded sampleTexts)
        (some 180) sampleWide.observedAt ≠ .ok risk := by
  have hrefresh : (sampleRefresh sampleWideActivities sampleWide).map (fun r => (refreshed r,
      (requireRiskCheckpoint sampleDecimalEnv.rules (r.1.checkpoint.reloaded sampleTexts)
        (some 180) sampleWide.observedAt).toOption))
      = some ((true, none, some (sampleRisk 100 100)), none) := by
    decide +kernel
  obtain ⟨⟨db', accepted⟩, hcommit, heq⟩ := Option.map_eq_some_iff.mp hrefresh
  simp only [refreshed, Prod.mk.injEq] at heq
  obtain ⟨⟨rfl, herror, hrisk⟩, hread⟩ := heq
  refine ⟨db', _, hcommit, herror, hrisk, ⟨by decide +kernel, by decide +kernel,
    by decide +kernel⟩, by decide +kernel, fun h => ?_⟩
  rw [h] at hread
  cases hread

/-- With one position there is one order. -/
theorem risk_read_back_iff_sample :
    ∃ db', sampleRefresh [Ledger.sampleTransfer "a-1" "1000", samplePurchase]
          { sampleSnapshot with observedAt := .aware 1767366000000000 } = some (db', true)
      ∧ requireRiskCheckpoint sampleDecimalEnv.rules (db'.checkpoint.reloaded sampleTexts)
        (some 180) (.aware 1767366180000000) = .ok (sampleRisk 1005 1000)
      ∧ (sampleRisk 1005 1000).drawdownPct = 0 := by
  have hrefresh : (sampleRefresh [Ledger.sampleTransfer "a-1" "1000", samplePurchase]
      { sampleSnapshot with observedAt := .aware 1767366000000000 }).map refreshed
      = some (true, none, some (sampleRisk 1005 1000)) := by
    decide +kernel
  obtain ⟨⟨db', accepted⟩, hcommit, heq⟩ := Option.map_eq_some_iff.mp hrefresh
  simp only [refreshed, Prod.mk.injEq] at heq
  obtain ⟨rfl, herror, hrisk⟩ := heq
  obtain ⟨hwriter, hreader⟩ := risk_read_back_iff sampleDecimalEnv sampleTexts
  obtain ⟨snapshot, risk, hsnapshot, hstored, hiff⟩ :=
    hwriter sampleBound db' 0 _ _ _ _ hcommit herror
  cases hsnapshot
  rw [hrisk] at hstored
  cases hstored
  have hread := (hiff ⟨by decide +kernel, by decide +kernel, by decide +kernel⟩).mpr
    (by decide +kernel) 180 180 (.aware 1767366180000000) (by norm_num) (by decide +kernel)
    (by norm_num) le_rfl
  obtain ⟨-, -, -, -, -, hdrawdown⟩ := hreader _ _ _ _ hread
  exact ⟨db', hcommit, hread, hdrawdown.trans (by decide +kernel)⟩

end AgenticTrader
