import AgenticTrader.Accounting.Risk
import AgenticTrader.Library.Table
import Mathlib.Data.List.Sort

/-!
# Risk evidence as a document

The checkpoint of an account is a JSON text. It is written with the members of
every object in the order of their names, so what comes back from it differs
from what was written in one respect: its dictionaries are in that order, the
positions of the snapshot among them.

The risk of a checkpoint is a document of its own, with its amounts and times
as texts. What these texts are is left open; a document reads back as the risk
it was written from when its amounts and times do
(`readRisk_riskDocument`).
-/

namespace AgenticTrader

/-! ## JSON texts -/

/-- `sort_keys`, of one object. -/
def sortMembers {α : Type} (members : List (String × α)) : List (String × α) :=
  members.insertionSort (fun a b => a.1 ≤ b.1)

theorem sortMembers_perm {α : Type} (members : List (String × α)) :
    (sortMembers members).Perm members :=
  List.perm_insertionSort _ _

namespace Json

mutual

/-- **`json.loads(json.dumps(value, sort_keys=True))`.** -/
def reloaded : Json → Json
  | .list items => .list (reloadedItems items)
  | .object members => .object (sortMembers (reloadedMembers members))
  | value => value

def reloadedItems : List Json → List Json
  | [] => []
  | item :: items => item.reloaded :: reloadedItems items

def reloadedMembers : List (String × Json) → List (String × Json)
  | [] => []
  | (name, value) :: members => (name, value.reloaded) :: reloadedMembers members

end

end Json

/-- A member is found wherever it stands, when names are not repeated. -/
theorem Activity.get?_of_perm {members members' : List (String × Json)}
    (hp : members.Perm members') (hd : (members.map (·.1)).Nodup) (name : String) :
    Activity.get? members name = Activity.get? members' name := by
  have hd' : (members'.map (·.1)).Nodup := (hp.map _).nodup_iff.mp hd
  unfold Activity.get?
  congr 1
  ext m
  have hfound := @Table.find?_some_iff_of_nodup _ _ members Prod.fst _ name m hd
  have hfound' := @Table.find?_some_iff_of_nodup _ _ members' Prod.fst _ name m hd'
  rw [hfound, hfound', hp.mem_iff]

/-! ## The document of a risk snapshot -/

/-- **The texts of a document**: what an amount and a time are written as, and
the times that are read from a value. An amount is read as `decimal` reads
it. -/
structure DocumentTexts where
  decimal : ℚ → String
  time : WireTime → String
  readTime : Json → Option WireTime

/-- `RISK_VERSION`. -/
def riskVersion : String := "cash_flow_adjusted_equity_v1"

/-- The default of `equity_source`. -/
def equitySource : String := "cash_plus_signed_cost_basis_plus_unrealized"

/-- Fingerprints, as lists of two texts. -/
def fingerprintsDocument (fs : List Fingerprint) : Json :=
  .list (fs.map (fun f => .list [.str f.1, .str f.2]))

/-- **`risk.model_dump(mode="json")`.** -/
def riskDocument (texts : DocumentTexts) (r : AccountRiskSnapshot) : Json :=
  .object [
    ("version", .str riskVersion),
    ("equity_source", .str equitySource),
    ("account_id", .str r.accountId),
    ("baseline_observed_at", .str (texts.time r.baselineObservedAt)),
    ("baseline_equity", .str (texts.decimal r.baselineEquity)),
    ("baseline_cash_flows", .str (texts.decimal r.baselineCashFlows)),
    ("observed_at", .str (texts.time r.observedAt)),
    ("equity", .str (texts.decimal r.equity)),
    ("cash_flows", .str (texts.decimal r.cashFlows)),
    ("adjusted_equity", .str (texts.decimal r.adjustedEquity)),
    ("high_water_mark", .str (texts.decimal r.highWaterMark)),
    ("drawdown_pct", .str (texts.decimal r.drawdownPct)),
    ("cash_transfer_fingerprints", fingerprintsDocument r.cashTransferFingerprints),
    ("baseline_cash_journal_fingerprints",
      fingerprintsDocument r.baselineCashJournalFingerprints)]

/-- The fields of the model; it forbids others. -/
def riskFieldNames : List String :=
  ["version", "equity_source", "account_id", "baseline_observed_at", "baseline_equity",
    "baseline_cash_flows", "observed_at", "equity", "cash_flows", "adjusted_equity",
    "high_water_mark", "drawdown_pct", "cash_transfer_fingerprints",
    "baseline_cash_journal_fingerprints"]

def readText : Json → Option String
  | .str text => some text
  | _ => none

def readFingerprint : Json → Option Fingerprint
  | .list [.str identity, .str digest] => some (identity, digest)
  | _ => none

def readFingerprints : Json → Option (List Fingerprint)
  | .list items => items.mapM readFingerprint
  | _ => none

/-- **The fields `AccountRiskSnapshot.model_validate` reads**, or `none` where
one is missing, unknown or not of its type. The two literals have their
defaults. -/
def readRisk (texts : DocumentTexts) : Json → Option AccountRiskSnapshot
  | .object members =>
    if members.any (fun m => m.1 ∉ riskFieldNames)
        || !((Activity.get? members "version").getD (.str riskVersion)).isText riskVersion
        || !((Activity.get? members "equity_source").getD (.str equitySource)).isText
          equitySource then none
    else do
      let accountId ← (Activity.get? members "account_id").bind readText
      let baselineObservedAt ← (Activity.get? members "baseline_observed_at").bind texts.readTime
      let baselineEquity ← (Activity.get? members "baseline_equity").bind AgenticTrader.decimal
      let baselineCashFlows ←
        (Activity.get? members "baseline_cash_flows").bind AgenticTrader.decimal
      let observedAt ← (Activity.get? members "observed_at").bind texts.readTime
      let equity ← (Activity.get? members "equity").bind AgenticTrader.decimal
      let cashFlows ← (Activity.get? members "cash_flows").bind AgenticTrader.decimal
      let adjustedEquity ← (Activity.get? members "adjusted_equity").bind AgenticTrader.decimal
      let highWaterMark ← (Activity.get? members "high_water_mark").bind AgenticTrader.decimal
      let drawdownPct ← (Activity.get? members "drawdown_pct").bind AgenticTrader.decimal
      let transfers ← (Activity.get? members "cash_transfer_fingerprints").bind readFingerprints
      let journals ←
        (Activity.get? members "baseline_cash_journal_fingerprints").bind readFingerprints
      some ⟨accountId, baselineObservedAt, baselineEquity, baselineCashFlows, observedAt, equity,
        cashFlows, adjustedEquity, highWaterMark, drawdownPct, transfers, journals⟩
  | _ => none

/-! ## Reading it back -/

/-- The amounts and times of a risk. -/
def AccountRiskSnapshot.amounts (r : AccountRiskSnapshot) : List ℚ :=
  [r.baselineEquity, r.baselineCashFlows, r.equity, r.cashFlows, r.adjustedEquity,
    r.highWaterMark, r.drawdownPct]

/-- **The texts of a risk read back**: those of its amounts and of its times. -/
structure DocumentTexts.ReadBack (texts : DocumentTexts) (r : AccountRiskSnapshot) : Prop where
  decimal : ∀ q ∈ r.amounts, AgenticTrader.decimal (.str (texts.decimal q)) = some q
  baseline : texts.readTime (.str (texts.time r.baselineObservedAt)) = some r.baselineObservedAt
  observed : texts.readTime (.str (texts.time r.observedAt)) = some r.observedAt

theorem reloaded_fingerprintsDocument (fs : List Fingerprint) :
    (fingerprintsDocument fs).reloaded = fingerprintsDocument fs := by
  have hitems : ∀ fs : List Fingerprint,
      Json.reloadedItems (fs.map (fun f => .list [.str f.1, .str f.2]))
        = fs.map (fun f => .list [.str f.1, .str f.2]) := by
    intro fs
    induction fs with
    | nil => rfl
    | cons f fs ih =>
      rw [List.map_cons, Json.reloadedItems, ih]
      rfl
  unfold fingerprintsDocument
  rw [Json.reloaded, hitems]

theorem readFingerprints_fingerprintsDocument (fs : List Fingerprint) :
    readFingerprints (fingerprintsDocument fs) = some fs := by
  show (fs.map _).mapM readFingerprint = some fs
  induction fs with
  | nil => rfl
  | cons f fs ih =>
    rw [List.map_cons, List.mapM_cons, ih]
    rfl

/-- The order of the members does not matter. -/
theorem readRisk_of_perm (texts : DocumentTexts) {members members' : List (String × Json)}
    (hp : members.Perm members') (hd : (members.map (·.1)).Nodup) :
    readRisk texts (.object members) = readRisk texts (.object members') := by
  have hany : members.any (fun m => m.1 ∉ riskFieldNames)
      = members'.any (fun m => m.1 ∉ riskFieldNames) := by
    rw [Bool.eq_iff_iff, List.any_eq_true, List.any_eq_true]
    simp only [hp.mem_iff]
  simp only [readRisk, hany, Activity.get?_of_perm hp hd]

/-- **A risk is read back from its document.** -/
theorem readRisk_riskDocument {texts : DocumentTexts} {r : AccountRiskSnapshot}
    (h : texts.ReadBack r) : readRisk texts (riskDocument texts r).reloaded = some r := by
  obtain ⟨hdecimal, hbaseline, hobserved⟩ := h
  simp only [AccountRiskSnapshot.amounts, List.forall_mem_cons, List.not_mem_nil, false_implies,
    implies_true, and_true] at hdecimal
  obtain ⟨h₁, h₂, h₃, h₄, h₅, h₆, h₇⟩ := hdecimal
  unfold riskDocument
  simp only [Json.reloaded, Json.reloadedMembers, reloaded_fingerprintsDocument]
  rw [readRisk_of_perm texts (sortMembers_perm _)]
  · simp [readRisk, Activity.get?, riskFieldNames, Json.isText, readText, hbaseline, hobserved,
      h₁, h₂, h₃, h₄, h₅, h₆, h₇, readFingerprints_fingerprintsDocument]
  · rw [((sortMembers_perm _).map _).nodup_iff]
    show riskFieldNames.Nodup
    decide

/-! ## The stored checkpoint -/

/-- The snapshot that comes back: its positions are in the order of their
symbols. -/
def AccountSnapshot.reloaded (s : AccountSnapshot) : AccountSnapshot :=
  { s with
    positions := sortMembers s.positions
    distinct := ((sortMembers_perm s.positions).map _).nodup_iff.mpr s.distinct }

def LedgerReport.reloaded (r : LedgerReport) : LedgerReport :=
  { r with quantityDeltas := sortMembers r.quantityDeltas }

/-- A document that was read, changed. -/
def Evidence.map {α : Type} (f : α → α) : Evidence α → Evidence α
  | .absent => .absent
  | .invalid => .invalid
  | .valid value => .valid (f value)

/-- What stands for a risk document that does not read: no validation accepts
it, and it is refused with the same text. -/
def unreadableRisk : AccountRiskSnapshot :=
  ⟨"", .naive 0, 0, 0, .naive 0, 0, 0, 0, 0, 0, [], []⟩

/-- **The checkpoint `status` returns**, of the one that was committed. -/
def Checkpoint.reloaded (texts : DocumentTexts) (c : Checkpoint) : Checkpoint :=
  { c with
    report := c.report.map LedgerReport.reloaded
    snapshot := c.snapshot.map AccountSnapshot.reloaded
    risk := c.risk.map (fun r =>
      (readRisk texts (riskDocument texts r).reloaded).getD unreadableRisk) }

/-- **A checkpoint that can be used**: no error, a ready report and a snapshot
of the same time, which has a zone. -/
theorem Checkpoint.validated_ok_iff {c : Checkpoint} {snapshot : AccountSnapshot} :
    c.validated = .ok snapshot
      ↔ truthy c.error = false ∧ ∃ report, c.report = .valid report ∧ report.ready = true
        ∧ c.snapshot = .valid snapshot ∧ WireTime.isAware snapshot.observedAt = true
        ∧ report.observedAt = snapshot.observedAt := by
  unfold validated
  cases herror : truthy c.error with
  | true => simp
  | false =>
    cases hreport : c.report with
    | absent => simp
    | invalid => simp
    | valid report =>
      cases hready : report.ready with
      | false => simp [hready]
      | true =>
        simp only [hready, Bool.not_true, Bool.false_eq_true, if_false]
        cases hsnapshot : c.snapshot with
        | absent => simp
        | invalid => simp
        | valid s =>
          simp only [Bool.or_eq_true, Bool.not_eq_true', decide_eq_true_eq]
          split
          · rename_i hmisaligned
            constructor
            · rintro ⟨⟩
            · rintro ⟨-, r, ⟨⟩, -, ⟨⟩, haware, htime⟩
              rcases hmisaligned with hnaive | hne
              · rw [haware] at hnaive
                cases hnaive
              · exact absurd htime hne
          · rename_i haligned
            rw [not_or, Bool.not_eq_false, not_not] at haligned
            constructor
            · rintro ⟨⟩
              exact ⟨trivial, report, rfl, hready, rfl, haligned.1, haligned.2⟩
            · rintro ⟨-, r, -, -, ⟨⟩, -, -⟩
              rfl

/-- It can still be used when it comes back. -/
theorem validated_reloaded (texts : DocumentTexts) {c : Checkpoint} {snapshot : AccountSnapshot}
    (h : c.validated = .ok snapshot) : (c.reloaded texts).validated = .ok snapshot.reloaded := by
  obtain ⟨herror, report, hreport, hready, hsnapshot, haware, htime⟩ :=
    Checkpoint.validated_ok_iff.mp h
  refine Checkpoint.validated_ok_iff.mpr ⟨herror, report.reloaded, ?_, hready, ?_, haware, htime⟩
  · rw [Checkpoint.reloaded, hreport]
    rfl
  · rw [Checkpoint.reloaded, hsnapshot]
    rfl

end AgenticTrader
