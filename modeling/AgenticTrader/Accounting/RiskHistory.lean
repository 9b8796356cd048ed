import AgenticTrader.Accounting.Conservation
import AgenticTrader.Accounting.LedgerReplay
import Mathlib.Order.Bounds.Basic

/-!
# Account risk is irreversible

Over every run of the ledger the risk in its checkpoint only moves one way
(`RiskMove`): an import leaves the risk as it is, starts it where there was none,
or continues it from a baseline that stays, at a time that is not before the
last one, with a high-water mark that is the greatest adjusted equity accepted
so far. A failed import, a fence and a rebuild leave it alone,
the last because the ledger is the replay of its journal. An invalidation is
carried by all of them.
-/

namespace AgenticTrader

/-! ## One risk after another -/

/-- **A risk that continues another**: on the same baseline, not before it, and
with no lower a mark. -/
structure AccountRiskSnapshot.Continues (prior risk : AccountRiskSnapshot) : Prop where
  baselineObservedAt : risk.baselineObservedAt = prior.baselineObservedAt
  baselineEquity : risk.baselineEquity = prior.baselineEquity
  baselineCashFlows : risk.baselineCashFlows = prior.baselineCashFlows
  accountId : risk.accountId = prior.accountId
  journals : risk.baselineCashJournalFingerprints = prior.baselineCashJournalFingerprints
  observedAt : risk.observedAt.lt? prior.observedAt = some false
  highWaterMark : prior.highWaterMark ≤ risk.highWaterMark

namespace AccountRiskSnapshot.Continues

theorem refl (risk : AccountRiskSnapshot) : risk.Continues risk :=
  ⟨rfl, rfl, rfl, rfl, rfl, WireTime.lt?_self _, le_refl _⟩

theorem trans {a b c : AccountRiskSnapshot} (hab : a.Continues b) (hbc : b.Continues c) :
    a.Continues c where
  baselineObservedAt := hbc.baselineObservedAt.trans hab.baselineObservedAt
  baselineEquity := hbc.baselineEquity.trans hab.baselineEquity
  baselineCashFlows := hbc.baselineCashFlows.trans hab.baselineCashFlows
  accountId := hbc.accountId.trans hab.accountId
  journals := hbc.journals.trans hab.journals
  observedAt := WireTime.lt?_false_trans hbc.observedAt hab.observedAt
  highWaterMark := le_trans hab.highWaterMark hbc.highWaterMark

end AccountRiskSnapshot.Continues

/-! ## One import after another -/

section Advance

variable {rules : RiskRules} {imported : Checkpoint} {activities : List Activity}
  {accountId : String} {now : WireTime}

/-- A valid risk was observed at a time with a zone. -/
theorem AccountRiskSnapshot.aware_of_valid {risk : AccountRiskSnapshot}
    (h : risk.valid rules = true) : WireTime.isAware risk.observedAt = true := by
  unfold AccountRiskSnapshot.valid at h
  simp only [Bool.and_eq_true] at h
  tauto

theorem validatedRisk_ok {risk risk' : AccountRiskSnapshot}
    (h : validatedRisk rules risk = .ok risk') : risk' = risk ∧ risk.valid rules = true := by
  unfold validatedRisk at h
  split at h
  · rename_i hvalid
    cases h
    exact ⟨rfl, hvalid⟩
  · cases h

/-- Times with a zone compare. -/
theorem WireTime.lt?_of_aware {a b : WireTime} (ha : WireTime.isAware a = true)
    (hb : WireTime.isAware b = true) (h : a.lt? b ≠ some true) : a.lt? b = some false := by
  cases a <;> cases b <;> simp_all [WireTime.isAware, WireTime.lt?]

/-- A stored risk that can be used is valid. -/
theorem storedRisk_ok {stored : Option AccountRiskSnapshot} {risk : AccountRiskSnapshot}
    (h : storedRisk rules stored = .ok risk) : stored = some risk ∧ risk.valid rules = true := by
  cases stored with
  | none => cases h
  | some s =>
    simp only [storedRisk] at h
    split at h
    · rename_i hvalid
      cases h
      exact ⟨rfl, hvalid⟩
    · cases h

/-- An import that does not contradict the accepted history is of its account
and not before it. -/
theorem priorFailure_none {prior : AccountRiskSnapshot} {snapshot : AccountSnapshot}
    {history : CashHistory} (h : priorFailure prior accountId snapshot history = none) :
    prior.accountId = accountId ∧ snapshot.observedAt.lt? prior.observedAt ≠ some true := by
  unfold priorFailure at h
  split at h
  · cases h
  · rename_i haccount
    split at h
    · cases h
    · rename_i horder
      exact ⟨not_not.mp haccount, horder⟩

/-- The next risk, once it is valid, continues the prior one. -/
theorem continues_nextRisk {prior : AccountRiskSnapshot} {snapshot : AccountSnapshot}
    {history : CashHistory} (hprior : prior.valid rules = true)
    (hclear : priorFailure prior accountId snapshot history = none)
    (hvalid : (nextRisk rules prior accountId snapshot history).valid rules = true) :
    prior.Continues (nextRisk rules prior accountId snapshot history) := by
  obtain ⟨haccount, horder⟩ := priorFailure_none hclear
  refine ⟨rfl, rfl, rfl, haccount.symm, rfl, ?_, le_max_left _ _⟩
  exact WireTime.lt?_of_aware (AccountRiskSnapshot.aware_of_valid hvalid)
    (AccountRiskSnapshot.aware_of_valid hprior) horder

/-- **What an import is accepted with**: the first risk, or one that continues
the prior risk and has the greater of its mark and the new adjusted equity. -/
theorem acceptRisk_ok {stored : Option AccountRiskSnapshot} {risk : AccountRiskSnapshot}
    (h : acceptRisk rules stored imported activities accountId now = .ok risk) :
    (stored = none ∧ risk.highWaterMark = max risk.baselineEquity risk.adjustedEquity)
      ∨ ∃ prior, stored = some prior ∧ prior.Continues risk
        ∧ risk.highWaterMark = max prior.highWaterMark risk.adjustedEquity := by
  unfold acceptRisk at h
  split at h
  · cases h
  · rename_i snapshot history hevidence
    split at h
    · split at h
      · cases h
      · obtain ⟨rfl, -⟩ := validatedRisk_ok h
        exact Or.inl ⟨rfl, rfl⟩
    · split at h
      · cases h
      · rename_i prior hstored
        obtain ⟨hprior, hvalid⟩ := storedRisk_ok hstored
        split at h
        · cases h
        · rename_i hclear
          obtain ⟨rfl, hnext⟩ := validatedRisk_ok h
          exact Or.inr ⟨prior, hprior, continues_nextRisk hvalid hclear hnext, rfl⟩

/-- The history is invalidated with a text. -/
theorem priorFailure_invalidated {prior : AccountRiskSnapshot} {snapshot : AccountSnapshot}
    {history : CashHistory} {text : String}
    (h : priorFailure prior accountId snapshot history = some (.invalidated text)) :
    text ≠ "" := by
  unfold priorFailure at h
  split at h
  · cases h
  · split at h
    · cases h
    · split at h
      · cases h
        decide
      · split at h
        · cases h
          decide
        · cases h

theorem validatedRisk_ne_invalidated (risk : AccountRiskSnapshot) (text : String) :
    validatedRisk rules risk ≠ .error (.invalidated text) := by
  unfold validatedRisk
  split <;> exact fun h => by cases h

theorem acceptRisk_invalidated {stored : Option AccountRiskSnapshot} {text : String}
    (h : acceptRisk rules stored imported activities accountId now
      = .error (.invalidated text)) : text ≠ "" := by
  unfold acceptRisk at h
  split at h
  · cases h
  · split at h
    · split at h
      · cases h
      · exact absurd h (validatedRisk_ne_invalidated _ _)
    · split at h
      · cases h
      · split at h
        · rename_i failure hfailure
          cases h
          exact priorFailure_invalidated hfailure
        · exact absurd h (validatedRisk_ne_invalidated _ _)

end Advance

/-- **What may happen to a risk**, with the risks that were accepted: it is
left as it is, and its invalidation too unless there was none; or an import is
accepted. -/
inductive RiskMove (fields : RiskFields) (accepted : List AccountRiskSnapshot) :
    RiskFields → List AccountRiskSnapshot → Prop where
  | kept {error : Option String} :
      RiskMove fields accepted { fields with riskError := error } accepted
  | invalidated {text : String} (fresh : truthy fields.riskInvalidation = false)
      (hset : text ≠ "") :
      RiskMove fields accepted ⟨fields.risk, some text, some text⟩ accepted
  | started {risk : AccountRiskSnapshot} (fresh : truthy fields.riskInvalidation = false)
      (hnone : fields.risk = none)
      (mark : risk.highWaterMark = max risk.baselineEquity risk.adjustedEquity) :
      RiskMove fields accepted ⟨some risk, none, none⟩ (accepted ++ [risk])
  | continued {prior risk : AccountRiskSnapshot}
      (fresh : truthy fields.riskInvalidation = false) (hprior : fields.risk = some prior)
      (continues : prior.Continues risk)
      (mark : risk.highWaterMark = max prior.highWaterMark risk.adjustedEquity) :
      RiskMove fields accepted ⟨some risk, none, none⟩ (accepted ++ [risk])

/-- The risk of a checkpoint. -/
def Checkpoint.riskFields (c : Checkpoint) : RiskFields :=
  ⟨c.risk, c.riskError, c.riskInvalidation⟩

/-- **`advance_risk_checkpoint` is a move of the risk.** -/
theorem advanceRiskCheckpoint_move (rules : RiskRules) (previous imported : Checkpoint)
    (activities : List Activity) (accountId : String) (now : WireTime)
    (accepted : List AccountRiskSnapshot) :
    let fields := advanceRiskCheckpoint rules previous imported activities accountId now
    RiskMove previous.riskFields accepted fields
      (accepted ++ (if fields.riskError.isNone then fields.risk.toList else [])) := by
  intro fields
  unfold fields advanceRiskCheckpoint
  split
  · rename_i hset
    obtain ⟨text, htext, -⟩ := (Option.any_eq_true _ _).mp hset
    have hkept : RiskMove previous.riskFields accepted
        ⟨previous.risk, some text, previous.riskInvalidation⟩ accepted := .kept
    rw [htext] at hkept ⊢
    show RiskMove _ accepted _ (accepted ++ [])
    rw [List.append_nil]
    exact hkept
  · rename_i hfresh
    have hfresh : truthy previous.riskInvalidation = false := by simpa using hfresh
    split
    · rename_i risk haccept
      rcases acceptRisk_ok haccept with ⟨hnone, hmark⟩ | ⟨prior, hprior, hcontinues, hmark⟩
      · exact .started hfresh hnone hmark
      · exact .continued hfresh hprior hcontinues hmark
    · rename_i text haccept
      show RiskMove _ accepted _ (accepted ++ [])
      rw [List.append_nil]
      exact .invalidated hfresh (acceptRisk_invalidated haccept)
    · show RiskMove _ accepted _ (accepted ++ [])
      rw [List.append_nil]
      exact .kept

/-- The adjusted equities a high-water mark is over. -/
def AccountRiskSnapshot.equities (risk : AccountRiskSnapshot)
    (accepted : List AccountRiskSnapshot) : Set ℚ :=
  insert risk.baselineEquity { q | ∃ s ∈ accepted, s.adjustedEquity = q }

/-- An accepted adjusted equity joins the equities. -/
theorem AccountRiskSnapshot.equities_append (risk : AccountRiskSnapshot)
    (accepted : List AccountRiskSnapshot) :
    risk.equities (accepted ++ [risk]) = insert risk.adjustedEquity (risk.equities accepted) := by
  ext q
  simp only [equities, Set.mem_insert_iff, Set.mem_ofPred_eq, List.mem_append,
    List.mem_singleton]
  constructor
  · rintro (hq | ⟨s, hs | rfl, hq⟩)
    · exact Or.inr (Or.inl hq)
    · exact Or.inr (Or.inr ⟨s, hs, hq⟩)
    · exact Or.inl hq.symm
  · rintro (hq | hq | ⟨s, hs, hq⟩)
    · exact Or.inr ⟨risk, Or.inr rfl, hq.symm⟩
    · exact Or.inl hq
    · exact Or.inr ⟨s, Or.inl hs, hq⟩

/-- **The risk of a history**: the stored risk is the one last accepted, its
mark is the greatest equity so far, and an invalidation has a text. -/
structure RiskFields.Marked (fields : RiskFields) (accepted : List AccountRiskSnapshot) :
    Prop where
  latest : fields.risk = accepted.getLast?
  mark : ∀ risk, fields.risk = some risk → IsGreatest (risk.equities accepted) risk.highWaterMark
  text : fields.riskInvalidation ≠ some ""

/-- **A move keeps the mark the greatest equity.** -/
theorem RiskFields.Marked.move {fields fields' : RiskFields}
    {accepted accepted' : List AccountRiskSnapshot} (h : fields.Marked accepted)
    (hm : RiskMove fields accepted fields' accepted') : fields'.Marked accepted' := by
  cases hm with
  | kept => exact ⟨h.latest, h.mark, h.text⟩
  | invalidated _ hset => exact ⟨h.latest, h.mark, by simpa using hset⟩
  | @started risk _ hnone mark =>
    have hfirst : accepted = [] := List.getLast?_eq_none_iff.mp (h.latest.symm.trans hnone)
    refine ⟨by simp, ?_, (fun he => by cases he)⟩
    rintro _ ⟨rfl⟩
    have hbaseline : risk.equities [] = {risk.baselineEquity} := by
      simp [AccountRiskSnapshot.equities]
    rw [risk.equities_append, hfirst, hbaseline, mark, max_comm]
    exact isGreatest_singleton.insert _
  | @continued prior risk _ hprior continues mark =>
    refine ⟨by simp, ?_, (fun he => by cases he)⟩
    rintro _ ⟨rfl⟩
    have hbaseline : risk.equities accepted = prior.equities accepted := by
      rw [AccountRiskSnapshot.equities, continues.baselineEquity]
      rfl
    rw [risk.equities_append, hbaseline, mark, max_comm]
    exact (h.mark prior hprior).insert _

/-- **What is never undone**: a risk is continued, and an invalidation stays. -/
structure RiskFields.Precedes (fields fields' : RiskFields) : Prop where
  risk : ∀ prior, fields.risk = some prior →
    ∃ risk, fields'.risk = some risk ∧ prior.Continues risk
  invalidation : ∀ text, fields.riskInvalidation = some text → text ≠ "" →
    fields'.riskInvalidation = some text

namespace RiskFields.Precedes

theorem refl (fields : RiskFields) : fields.Precedes fields :=
  ⟨fun prior h => ⟨prior, h, .refl prior⟩, fun _ h _ => h⟩

theorem trans {a b c : RiskFields} (hab : a.Precedes b) (hbc : b.Precedes c) :
    a.Precedes c := by
  refine ⟨fun prior h => ?_, fun text h hne => hbc.invalidation text
    (hab.invalidation text h hne) hne⟩
  obtain ⟨risk, hb, hcontinues⟩ := hab.risk prior h
  obtain ⟨risk', hc, hcontinues'⟩ := hbc.risk risk hb
  exact ⟨risk', hc, hcontinues.trans hcontinues'⟩

end RiskFields.Precedes

/-- Without a text there was no invalidation to keep. -/
theorem not_fresh {invalidation : Option String} {text : String}
    (h : truthy invalidation = false) (hset : invalidation = some text) : text = "" := by
  simpa [truthy, hset] using h

/-- A move undoes nothing. -/
theorem RiskMove.precedes {fields fields' : RiskFields}
    {accepted accepted' : List AccountRiskSnapshot}
    (hm : RiskMove fields accepted fields' accepted') : fields.Precedes fields' := by
  cases hm with
  | kept => exact ⟨(RiskFields.Precedes.refl fields).risk, fun _ h _ => h⟩
  | invalidated fresh _ =>
    exact ⟨(RiskFields.Precedes.refl fields).risk,
      fun text h hne => absurd (not_fresh fresh h) hne⟩
  | started fresh hnone _ =>
    refine ⟨fun prior h => ?_, fun text h hne => absurd (not_fresh fresh h) hne⟩
    rw [hnone] at h
    cases h
  | @continued prior risk fresh hprior continues _ =>
    refine ⟨fun prior' h => ?_, fun text h hne => absurd (not_fresh fresh h) hne⟩
    rw [hprior] at h
    cases h
    exact ⟨risk, rfl, continues⟩

/-! ## Runs of the ledger -/

namespace Ledger

variable {env : LedgerEnv} {db db' : Ledger}

/-- The risk of the stored checkpoint. -/
def riskFields (db : Ledger) : RiskFields := db.checkpoint.riskFields

/-- **A move of the ledger is a move of its risk.** -/
theorem riskMove (h : Replayable env db) (hm : Moved env db db') :
    RiskMove db.riskFields db.accepted db'.riskFields db'.accepted := by
  cases hm with
  | fence => exact .kept
  | @bind row accountId hrow _ =>
    have hsame : (db.bindAccount row accountId).riskFields = db.riskFields := by
      simp [riskFields, checkpoint, bindAccount, append, hrow]
    rw [hsame]
    exact .kept
  | @commit row activities items documents checkedAt now hrow _ =>
    have hprevious : db.checkpoint = row.payload := by simp [checkpoint, hrow]
    have haccepted := (sameRow_project env db items).2.2
    have hmove := advanceRiskCheckpoint_move env.rules row.payload
      ⟨none, some checkedAt, documents.report, documents.snapshot, none, none, none⟩
      activities row.accountId now db.accepted
    rw [← haccepted] at hmove ⊢
    rw [riskFields, hprevious]
    exact hmove
  | @fail row error checkedAt hrow =>
    have hsame : (db.setCheckpoint row { row.payload with
        error := some error, checkedAt := some checkedAt }).riskFields = db.riskFields := by
      simp [riskFields, checkpoint, setCheckpoint, Checkpoint.riskFields, hrow]
    rw [hsame]
    exact .kept
  | rebuild hret =>
    have hsame : db'.checkpoint = db.checkpoint :=
      congrArg View.payload (h.rebuild_view hret)
    rw [h.rebuild] at hret
    cases hret
    rw [riskFields, riskFields, hsame]
    exact .kept

/-- **In every state the mark is the greatest equity accepted.** -/
theorem marked (h : (ledgerSystem env).Reachable db) : db.riskFields.Marked db.accepted := by
  refine h.of_step (I := fun d => d.riskFields.Marked d.accepted) (fun _ h₀ => ?_)
    (fun d d' hd hi hm => hi.move (riskMove (replayable hd) hm))
  rw [h₀]
  exact ⟨rfl, (fun _ hr => by cases hr), (fun he => by cases he)⟩

/-- **No run undoes anything.** -/
theorem precedes_run (h : (ledgerSystem env).Reachable db)
    (hr : (ledgerSystem env).Run db db') : db.riskFields.Precedes db'.riskFields :=
  TransitionSystem.Run.rel_of_step (R := fun d d' => d.riskFields.Precedes d'.riskFields)
    (fun _ => .refl _) (fun _ _ _ => .trans)
    (fun _ _ hd hm => (riskMove (replayable hd) hm).precedes) h hr

end Ledger

/-- An invalidated history is never risk evidence. -/
theorem requireRiskCheckpoint_invalidated (rules : RiskRules) {c : Checkpoint} {text : String}
    (h : c.riskInvalidation = some text) (hne : text ≠ "") (maxAge : Option ℚ)
    (now : WireTime) : ∃ error, requireRiskCheckpoint rules c maxAge now = .error error := by
  have hset : truthy c.riskInvalidation = true := by simpa [truthy, h] using hne
  unfold requireRiskCheckpoint
  cases maxAge with
  | none => exact ⟨_, rfl⟩
  | some age =>
    dsimp only
    split
    · exact ⟨_, rfl⟩
    · exact ⟨_, rfl⟩

/-- **Account risk history is irreversible.** Take any calls of any importers in
any order, and any more after them. A risk in the checkpoint is continued by the
one there is later – the baseline, the account and its cash journals are the
same, the time and the high-water mark are no earlier and no lower; its mark is
the greatest of the baseline equity and of the adjusted equities accepted so
far; and an invalidation is there later too, where the checkpoint is refused. -/
theorem risk_history_irreversible (env : LedgerEnv) (ops later : List LedgerOp) :
    (∀ prior, (Ledger.run env .empty ops).checkpoint.risk = some prior →
        ∃ risk, (Ledger.run env .empty (ops ++ later)).checkpoint.risk = some risk
          ∧ prior.Continues risk)
      ∧ (∀ risk, (Ledger.run env .empty ops).checkpoint.risk = some risk →
        (Ledger.run env .empty ops).accepted.getLast? = some risk
          ∧ IsGreatest (insert risk.baselineEquity
              { q | ∃ s ∈ (Ledger.run env .empty ops).accepted, s.adjustedEquity = q })
            risk.highWaterMark)
      ∧ ∀ text, (Ledger.run env .empty ops).checkpoint.riskInvalidation = some text →
        (Ledger.run env .empty (ops ++ later)).checkpoint.riskInvalidation = some text
          ∧ ∀ maxAge now, ∃ error, requireRiskCheckpoint env.rules
            (Ledger.run env .empty (ops ++ later)).checkpoint maxAge now = .error error := by
  have hreach := Ledger.reachable_run env ops
  have hmarked := Ledger.marked hreach
  have hrun : (ledgerSystem env).Run (Ledger.run env .empty ops)
      (Ledger.run env .empty (ops ++ later)) := by
    rw [Ledger.run, Ledger.run, List.foldl_append]
    exact Ledger.run_run later
  have hprecedes := Ledger.precedes_run hreach hrun
  refine ⟨hprecedes.risk, fun risk h => ⟨hmarked.latest.symm.trans h, hmarked.mark risk h⟩, ?_⟩
  intro text htext
  have hne : text ≠ "" := by
    rintro rfl
    exact hmarked.text htext
  have hkept := hprecedes.invalidation text htext hne
  exact ⟨hkept, requireRiskCheckpoint_invalidated env.rules hkept hne⟩

/-! ### A deposit that is revised, and then reverted -/

/-- An account without positions. -/
def cashSnapshot (cash : ℚ) (at' : ℤ) : AccountSnapshot where
  accountId := "acct"
  cash := cash
  positions := []
  observedAt := .aware at'
  identified := sampleSnapshot.identified
  distinct := List.nodup_nil

/-- A reconciled import of one deposit. -/
def depositImport (amount : String) (cash : ℚ) (at' : ℤ) : LedgerOp :=
  .commit 0 [Ledger.sampleTransfer "a-1" amount]
    ⟨.valid (reconcile id sampleRules [] (1 / 100) [Ledger.sampleTransfer "a-1" amount]
      (cashSnapshot cash at')), .valid (cashSnapshot cash at')⟩ (.aware at') (.aware at')

/-- The baseline. -/
def depositOps : List LedgerOp :=
  [.begin none, .bind 0 "acct", depositImport "1000" 1000 10]

/-- The revision, which invalidates it. -/
def revisionOps : List LedgerOp := depositOps ++ [depositImport "900" 900 20]

theorem risk_history_irreversible_sample :
    (∃ prior risk, (Ledger.run Ledger.sampleLedgerEnv .empty depositOps).checkpoint.risk
          = some prior
        ∧ (Ledger.run Ledger.sampleLedgerEnv .empty
          (depositOps ++ [depositImport "1000" 1000 20])).checkpoint.risk = some risk
        ∧ prior.Continues risk
        ∧ IsGreatest (prior.equities
          (Ledger.run Ledger.sampleLedgerEnv .empty depositOps).accepted) prior.highWaterMark)
      ∧ ∃ text, (Ledger.run Ledger.sampleLedgerEnv .empty
          (revisionOps ++ [depositImport "1000" 1000 30, .rebuild])).checkpoint.riskInvalidation
            = some text
        ∧ ∃ error, requireRiskCheckpoint Ledger.sampleLedgerEnv.rules
          (Ledger.run Ledger.sampleLedgerEnv .empty
            (revisionOps ++ [depositImport "1000" 1000 30, .rebuild])).checkpoint
          (some 60) (.aware 30) = .error error := by
  obtain ⟨hcontinue, hmark, -⟩ := risk_history_irreversible Ledger.sampleLedgerEnv depositOps
    [depositImport "1000" 1000 20]
  obtain ⟨-, -, hinvalidated⟩ := risk_history_irreversible Ledger.sampleLedgerEnv revisionOps
    [depositImport "1000" 1000 30, .rebuild]
  refine ⟨?_, ?_⟩
  · have hbaseline : (Ledger.run Ledger.sampleLedgerEnv .empty
        depositOps).checkpoint.risk.isSome = true := by
      decide +kernel
    obtain ⟨prior, hprior⟩ := Option.isSome_iff_exists.mp hbaseline
    obtain ⟨risk, hrisk, hcontinues⟩ := hcontinue prior hprior
    exact ⟨prior, risk, hprior, hrisk, hcontinues, (hmark prior hprior).2⟩
  · have hset : (Ledger.run Ledger.sampleLedgerEnv .empty
        revisionOps).checkpoint.riskInvalidation.isSome = true := by
      decide +kernel
    obtain ⟨text, htext⟩ := Option.isSome_iff_exists.mp hset
    obtain ⟨hkept, hrefused⟩ := hinvalidated text htext
    exact ⟨text, hkept, hrefused (some 60) (.aware 30)⟩

end AgenticTrader
