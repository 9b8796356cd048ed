import AgenticTrader.Accounting.ActivityOrder
import AgenticTrader.Accounting.CashFlows
import AgenticTrader.Accounting.RiskReader

/-!
# Deposits and withdrawals leave the risk as it is

Two imports of one account are compared: one, and the same with some deposits
and withdrawals more, in the activities and in the cash. The transfers are
taken up by the reconciliation, which stays ready, and by the history, which
keeps every fingerprint that was accepted; the equity and the flows both grow
by their sum, so the adjusted equity, the high-water mark and the drawdown are
the same (`transfers_neutral`).

This is so as long as the figures are exact, which they are when they fit the
decimal context (`unrounded_of_fits`). It keeps 28 digits, and a transfer that
needs more of them moves the adjusted equity (`transfer_not_neutral`).
-/

namespace AgenticTrader

/-! ## A transfer -/

/-- **An executed deposit or withdrawal**: an activity with a name, a net amount
of the right sign and no shares. -/
structure CashMove where
  activity : Activity
  id : String
  kind : String
  amount : ℚ
  named : id ≠ ""
  hid : activity.get? "id" = some (.str id)
  hkind : activity.get? "activity_type" = some (.str kind)
  direction : kind = "CSD" ∧ 0 ≤ amount ∨ kind = "CSW" ∧ amount ≤ 0
  hamount : (activity.get? "net_amount").bind decimal = some amount
  executed : ((activity.get? "status").getD (.str "executed")).isText "executed" = true
  shares : ∀ qty, activity.get? "qty" = some qty → qty.truthy = true → decimal qty = some 0

namespace CashMove

variable (m : CashMove)

theorem kind_mem : m.kind ∈ cashTransfers ∧ m.kind ≠ "FILL" ∧ m.kind ≠ "JNLC"
    ∧ m.kind ∉ feeKinds ∧ m.kind ∉ incomeKinds := by
  rcases m.direction with ⟨h, -⟩ | ⟨h, -⟩
  · rw [h]
    decide
  · rw [h]
    decide

theorem identityKey? : m.activity.identityKey? = some (.str m.id) := by
  rw [Activity.identityKey?, m.hid]
  simp [Json.truthy, Json.key?, m.named]

/-- It moves no shares, whatever stands for a quantity that is missing. -/
theorem decimal_qty {missing : Json} (h : decimal missing = some 0) :
    decimal (((m.activity.get? "qty").filter Json.truthy).getD missing) = some 0 := by
  cases hq : m.activity.get? "qty" with
  | none => exact h
  | some qty =>
    cases ht : qty.truthy with
    | false => simpa [Option.filter, ht] using h
    | true => simpa [Option.filter, ht] using m.shares qty hq ht

theorem cashAmount? : m.activity.cashAmount? m.kind = some m.amount := by
  have hshares : m.activity.shares? m.kind = some 0 := by
    rw [Activity.shares?, if_pos m.kind_mem.1]
    exact m.decimal_qty (by decide +kernel)
  unfold Activity.cashAmount?
  rw [m.executed, hshares]
  simpa using m.hamount

theorem supported : m.kind ∈ cashTransfers ++ feeKinds ++ incomeKinds :=
  List.mem_append_left _ (List.mem_append_left _ m.kind_mem.1)

/-- Nothing is objected to about it. -/
theorem objection (unsupported : Json → Activity → String) :
    m.activity.objection unsupported = none := by
  simp only [Activity.objection, m.hkind, if_neg m.kind_mem.2.1, if_pos m.supported,
    m.cashAmount?, Option.isSome_some, if_true]

/-- **It adds its amount to the cash, and nothing else.** -/
theorem effect : m.activity.effect = ((m.amount, 0, 0, 0), 0) := by
  obtain ⟨-, hfill, -, hfee, hincome⟩ := m.kind_mem
  have hcontribution : m.activity.contribution = ⟨0, m.amount, 0, 0, 0⟩ := by
    simp only [Activity.contribution, m.hkind, if_neg hfill, if_pos m.supported, m.cashAmount?,
      Option.map_some, Option.getD_some, Activity.cashContribution, if_neg hfee, hincome,
      and_false, if_false]
  have hshares : m.activity.shares = none := by
    simp [Activity.shares, m.hkind, Json.isText, hfill]
  have hheld : m.activity.held = 0 := by
    funext symbol
    simp [Activity.held, hshares]
  rw [Activity.effect, hcontribution, hheld]

/-- The evidence of it. -/
def print (rules : RiskRules) : Fingerprint :=
  (m.id, rules.digest ⟨m.kind, rules.round m.amount,
    (m.activity.get? "transaction_time").getD .null, (m.activity.get? "date").getD .null⟩)

theorem transferAmount : transferAmount m.activity m.kind = .ok m.amount := by
  obtain ⟨value, hvalue, hdecimal⟩ := Option.bind_eq_some_iff.mp m.hamount
  have hdirection : ¬((m.kind = "CSD" ∧ m.amount < 0) ∨ (m.kind = "CSW" ∧ 0 < m.amount)) := by
    rcases m.direction with ⟨hk, ha⟩ | ⟨hk, ha⟩
    · simp [hk, ha]
    · simp [hk, ha]
  unfold AgenticTrader.transferAmount
  simp only [hvalue, hdecimal, m.executed, m.decimal_qty (show decimal (.number "0") = some 0 by
    decide +kernel), Bool.not_true, Bool.false_eq_true, if_false, ne_eq, not_true_eq_false,
    if_neg hdirection]

/-- It is a transfer of the history. -/
theorem cashEntry (rules : RiskRules) :
    cashEntry rules m.activity = .ok (some ⟨false, m.print rules, m.amount⟩) := by
  obtain ⟨htransfer, -, hjournal, -, -⟩ := m.kind_mem
  simp only [AgenticTrader.cashEntry, m.hkind, if_neg (not_not.mpr htransfer), m.transferAmount,
    m.hid, CashMove.print, hjournal, decide_false]

end CashMove

/-! ## The reconciliation -/

/-- **The account with some transfers more.** -/
def AccountSnapshot.moved (s : AccountSnapshot) (added : List CashMove) : AccountSnapshot :=
  { s with cash := s.cash + (added.map (·.amount)).sum }

/-- **New transfers**: their identities are their own. -/
structure NewMoves (activities : List Activity) (added : List CashMove) : Prop where
  fresh : ∀ m ∈ added, ∀ a ∈ activities, a.identityKey? ≠ some (.str m.id)
  distinct : (added.map (·.id)).Nodup

section Reconciliation

variable {rules : TextRules} {actions : List CorporateAction} {cashTolerance : ℚ}
  {activities activities' : List Activity} {snapshot : AccountSnapshot} {added : List CashMove}

/-- Nothing is objected to about the activities with the transfers. -/
theorem Clean.moved {unsupported : Json → Activity → String} (h : Clean unsupported [] activities)
    (hnew : NewMoves activities added) :
    Clean unsupported [] (activities ++ added.map (·.activity)) where
  keyed a ha := by
    rcases List.mem_append.mp ha with ha | ha
    · exact h.keyed a ha
    · obtain ⟨m, -, rfl⟩ := List.mem_map.mp ha
      exact ⟨_, m.identityKey?, by simp⟩
  distinct := by
    rw [List.map_append, List.map_map]
    have hkeys : added.map (Activity.identityKey? ∘ CashMove.activity)
        = (added.map (·.id)).map (fun id => some (Json.Key.str id)) := by
      rw [List.map_map]
      exact List.map_congr_left (fun m _ => m.identityKey?)
    rw [hkeys]
    refine h.distinct.append (hnew.distinct.map (fun _ _ he => by simpa using he)) ?_
    intro key hold hadded
    obtain ⟨a, ha, rfl⟩ := List.mem_map.mp hold
    obtain ⟨id, hid, heq⟩ := List.mem_map.mp hadded
    obtain ⟨m, hm, rfl⟩ := List.mem_map.mp hid
    exact hnew.fresh m hm a ha heq.symm
  accepted a ha := by
    rcases List.mem_append.mp ha with ha | ha
    · exact h.accepted a ha
    · obtain ⟨m, -, rfl⟩ := List.mem_map.mp ha
      exact m.objection _

/-- The transfers are in the cash and nowhere else. -/
theorem sum_effect (added : List CashMove) :
    ((added.map (·.activity)).map Activity.effect).sum
      = (((added.map (·.amount)).sum, 0, 0, 0), 0) := by
  induction added with
  | nil => rfl
  | cons m added ih =>
    rw [List.map_cons, List.map_cons, List.sum_cons, ih, m.effect, List.map_cons, List.sum_cons]
    simp

/-- **The account reconciles with the transfers when it did without them.** -/
theorem reconcile_moved (hp : activities'.Perm (activities ++ added.map (·.activity)))
    (hnew : NewMoves activities added)
    (h : (reconcile id rules actions cashTolerance activities snapshot).ready = true) :
    (reconcile id rules actions cashTolerance activities' (snapshot.moved added)).ready = true := by
  obtain ⟨hclean, hcomparison⟩ := reconcile_ready_iff.mp h
  have hclean' := hclean.moved hnew
  -- the transfers are new in any order, and add to the cash alone
  have hshown : (tallied id rules actions activities').shown
      = (tallied id rules actions activities).shown
        + (((added.map (·.amount)).sum, 0, 0, 0), 0) := by
    rw [← hclean'.shown_perm hp.symm]
    unfold tallied
    rw [Tally.foldl_book_shown, Tally.foldl_book_shown]
    show _ + ((newOnes [] _).map _).sum = _ + ((newOnes [] activities).map _).sum + _
    rw [hclean'.newOnes_eq, hclean.newOnes_eq, List.map_append, List.sum_append, sum_effect,
      add_assoc]
  have hcash : (tallied id rules actions activities').cash
      = (tallied id rules actions activities).cash + (added.map (·.amount)).sum :=
    congrArg (fun s => s.1.1) hshown
  have hquantity : quantityOf (tallied id rules actions activities').inventory
      = quantityOf (tallied id rules actions activities).inventory := by
    have := congrArg Prod.snd hshown
    simpa [Tally.shown] using this
  refine reconcile_ready_iff.mpr ⟨hclean'.perm hp.symm, ?_⟩
  -- the broker has the same cash more
  have hdelta : (tallied id rules actions activities).cash - snapshot.cash
      = (tallied id rules actions activities').cash - (snapshot.moved added).cash := by
    show _ = _ - (snapshot.cash + _)
    rw [hcash, add_sub_add_right_eq_sub]
  have hpositions : snapshot.positions = (snapshot.moved added).positions := rfl
  exact (comparisonIssues_congr hpositions hdelta hquantity.symm).mp hcomparison

end Reconciliation

/-! ## The history -/

section History

variable (rules : RiskRules)

/-- The entries of some activities. -/
def entries (activities : List Activity) : List CashEntry := activities.filterMap (entryOf rules)

/-- **The external flows of some activities**: the amounts of their deposits and
withdrawals. -/
def externalFlows (activities : List Activity) : List ℚ :=
  (transferEntries (entries rules activities)).map (·.amount)

variable {rules} {activities activities' : List Activity} {added : List CashMove}

variable (rules) in
/-- The transfers are entries that are no journals. -/
theorem entries_moved (hp : activities'.Perm (activities ++ added.map (·.activity))) :
    (transferEntries (entries rules activities')).Perm
        (transferEntries (entries rules activities)
          ++ added.map (fun m => ⟨false, m.print rules, m.amount⟩))
      ∧ (journalEntries (entries rules activities')).Perm
        (journalEntries (entries rules activities)) := by
  have hadded : (added.map (·.activity)).filterMap (entryOf rules)
      = added.map (fun m => ⟨false, m.print rules, m.amount⟩) := by
    rw [List.filterMap_map, ← List.filterMap_eq_map]
    refine List.filterMap_congr (fun m _ => ?_)
    rw [Function.comp_apply, entryOf, m.cashEntry]
    rfl
  have hentries : (entries rules activities').Perm (entries rules activities
      ++ added.map (fun m => ⟨false, m.print rules, m.amount⟩)) := by
    rw [entries, entries, ← hadded, ← List.filterMap_append]
    exact hp.filterMap _
  have hkept : (added.map (fun m => (⟨false, m.print rules, m.amount⟩ : CashEntry))).filter
      (fun e => !e.journal) = added.map (fun m => ⟨false, m.print rules, m.amount⟩) := by
    simp [List.filter_eq_self]
  have hnone : (added.map (fun m => (⟨false, m.print rules, m.amount⟩ : CashEntry))).filter
      (·.journal) = [] := by
    simp [List.filter_eq_nil_iff]
  refine ⟨?_, ?_⟩
  · have := hentries.filter (fun e => !e.journal)
    rwa [List.filter_append, hkept] at this
  · have := hentries.filter (·.journal)
    rwa [List.filter_append, hnone, List.append_nil] at this

variable (rules) in
/-- Of activities without an objection, the entries have names of their own. -/
theorem Clean.entries_identities {unsupported : Json → Activity → String}
    (h : Clean unsupported [] activities) :
    ((entries rules activities).map (·.print.1)).Nodup
      ∧ ∀ e ∈ entries rules activities, e.print.1 ≠ ""
        ∧ ∃ a ∈ activities, a.identityKey? = some (.str e.print.1) := by
  -- an entry carries the identity of its activity
  have hidentity : ∀ a ∈ activities, ∀ e, entryOf rules a = some e →
      e.print.1 ≠ "" ∧ a.identityKey? = some (.str e.print.1) := by
    intro a ha e he
    obtain ⟨hid, -⟩ := entryOf_eq_some he
    obtain ⟨key, hkey, -⟩ := h.keyed a ha
    rw [Activity.identityKey?, hid] at hkey ⊢
    have hnamed : e.print.1 ≠ "" := by
      intro hempty
      simp [Json.truthy, hempty] at hkey
    exact ⟨hnamed, by simp [Json.truthy, Json.key?, hnamed]⟩
  constructor
  · have hkeys := List.pairwise_map.mp h.distinct
    unfold entries
    rw [List.Nodup, List.pairwise_map, List.pairwise_filterMap]
    refine hkeys.imp_of_mem ?_
    intro a b ha hb hne e he f hf heq
    apply hne
    rw [(hidentity a ha e he).2, (hidentity b hb f hf).2, heq]
  · intro e he
    obtain ⟨a, ha, hentry⟩ := List.mem_filterMap.mp he
    exact ⟨(hidentity a ha e hentry).1, a, ha, (hidentity a ha e hentry).2⟩

end History

/-! ## The figures -/

/-- The flows of some activities, as the history sums them. -/
def flows (rules : RiskRules) (activities : List Activity) : ℚ :=
  (transferEntries (entries rules activities)).foldl
    (fun total e => rules.round (total + e.amount)) 0

/-- **No figure of an import is changed by the decimal context**: those of its
reconciliation, its equity, its flows, what they are since the baseline, and the
adjusted equity. -/
structure Unrounded (rules : RiskRules) (texts : TextRules) (actions : List CorporateAction)
    (cashTolerance : ℚ) (prior : AccountRiskSnapshot) (snapshot : AccountSnapshot)
    (activities : List Activity) : Prop where
  report : ExactReport rules.round texts actions cashTolerance activities snapshot
  equity : snapshot.equity rules.round = snapshot.equity id
  flows : flows rules activities = (externalFlows rules activities).sum
  since : rules.round ((externalFlows rules activities).sum - prior.baselineCashFlows)
    = (externalFlows rules activities).sum - prior.baselineCashFlows
  adjusted : rules.round (snapshot.equity id
      - ((externalFlows rules activities).sum - prior.baselineCashFlows))
    = snapshot.equity id - ((externalFlows rules activities).sum - prior.baselineCashFlows)

section Figures

variable {rules : RiskRules} {texts : TextRules} {actions : List CorporateAction}
  {cashTolerance : ℚ} {prior : AccountRiskSnapshot} {snapshot : AccountSnapshot}
  {activities activities' : List Activity} {added : List CashMove}

/-- **The transfers cancel in the adjusted equity.** -/
theorem adjusted_moved (hp : activities'.Perm (activities ++ added.map (·.activity)))
    (hexact : Unrounded rules texts actions cashTolerance prior snapshot activities)
    (hexact' :
      Unrounded rules texts actions cashTolerance prior (snapshot.moved added) activities') :
    (snapshot.moved added).equity rules.round
        = snapshot.equity rules.round + (added.map (·.amount)).sum
      ∧ flows rules activities' = flows rules activities + (added.map (·.amount)).sum
      ∧ rules.round ((snapshot.moved added).equity rules.round
          - rules.round (flows rules activities' - prior.baselineCashFlows))
        = rules.round (snapshot.equity rules.round
          - rules.round (flows rules activities - prior.baselineCashFlows)) := by
  have hequity : (snapshot.moved added).equity id
      = snapshot.equity id + (added.map (·.amount)).sum := by
    rw [AccountSnapshot.equity_exact, AccountSnapshot.equity_exact]
    show snapshot.cash + (added.map (·.amount)).sum + (snapshot.positions.map _).sum
      + (snapshot.positions.map _).sum = _
    ring
  have hflows : (externalFlows rules activities').sum
      = (externalFlows rules activities).sum + (added.map (·.amount)).sum := by
    have hamounts := ((entries_moved rules hp).1.map CashEntry.amount).sum_eq
    rw [List.map_append, List.map_map, List.sum_append] at hamounts
    exact hamounts
  -- no figure is rounded, so the equity and the flows grow by the same sum
  refine ⟨?_, ?_, ?_⟩
  · rw [hexact.equity, hexact'.equity, hequity]
  · rw [hexact.flows, hexact'.flows, hflows]
  · rw [hexact.equity, hexact'.equity, hexact.flows, hexact'.flows, hexact.since, hexact'.since,
      hexact.adjusted, hexact'.adjusted, hequity, hflows]
    ring

/-! ### Figures that fit -/

/-- **What the figures of an import are computed from**: the amounts of the
snapshot, the external flows, and the flows at the baseline. -/
def figures (rules : RiskRules) (prior : AccountRiskSnapshot) (snapshot : AccountSnapshot)
    (activities : List Activity) : List ℚ :=
  snapshot.amounts ++ externalFlows rules activities ++ [prior.baselineCashFlows]

/-- Flows that fit are summed exactly. -/
theorem flows_of_fits {digits k : ℕ} {spare : ℚ} (hround : rules.round = roundDigits digits)
    (hunits : ∀ q ∈ externalFlows rules activities, ∃ m : ℤ, q = m / 10 ^ k) (hspare : 0 ≤ spare)
    (hbound : (size (externalFlows rules activities) + spare) * 10 ^ k < 10 ^ digits) :
    flows rules activities = (externalFlows rules activities).sum := by
  set es := transferEntries (entries rules activities) with hes
  have hroom : (|(0 : ℚ)| + (es.map (fun e => |e.amount|)).sum + spare) * 10 ^ k
      < 10 ^ digits := by
    rw [abs_zero, zero_add]
    simpa [size, externalFlows, Function.comp_def, ← hes] using hbound
  unfold flows
  rw [hround]
  have hsum := foldl_round_eq CashEntry.amount ⟨0, by simp⟩
    (fun e he => hunits e.amount (List.mem_map_of_mem he)) hspare hroom
  rw [zero_add] at hsum
  exact hsum.1

/-- **Figures that fit the decimal context are not changed by it.** -/
theorem unrounded_of_fits {digits : ℕ} (hdigits : 0 < digits)
    (hround : rules.round = roundDigits digits)
    (hreport : Fits digits (reportAmounts activities snapshot))
    (hfits : Fits digits (figures rules prior snapshot activities)) :
    Unrounded rules texts actions cashTolerance prior snapshot activities := by
  obtain ⟨k, hunits, hbound⟩ := hfits
  have hamounts : ∀ q ∈ snapshot.amounts, ∃ m : ℤ, q = m / 10 ^ k := fun q hq =>
    hunits q (by simp [figures, hq])
  have hexternal : ∀ q ∈ externalFlows rules activities, ∃ m : ℤ, q = m / 10 ^ k := fun q hq =>
    hunits q (by simp [figures, hq])
  have hbaseline : ∃ m : ℤ, -prior.baselineCashFlows = m / 10 ^ k :=
    multiple_neg (hunits _ (by simp [figures]))
  have htotal : size (figures rules prior snapshot activities)
      = size snapshot.amounts + size (externalFlows rules activities)
        + |prior.baselineCashFlows| := by
    simp [figures, size, add_assoc]
  -- all of it together is within the bound, and so is each part
  have hroom : ∀ q : ℚ, q ≤ size (figures rules prior snapshot activities) →
      q * 10 ^ k < 10 ^ digits := fun q hq =>
    lt_of_le_of_lt (mul_le_mul_of_nonneg_right hq (by positivity)) hbound
  have hS := size_nonneg snapshot.amounts
  have hT := size_nonneg (externalFlows rules activities)
  have hb := abs_nonneg prior.baselineCashFlows
  obtain ⟨hequity, hequityUnits, hequitySize⟩ := AccountSnapshot.equity_of_fits hamounts
    (add_nonneg hT hb) (hroom _ (by linarith))
  have hsumUnits := multiple_add (multiple_sum hexternal) hbaseline
  have hsumSize : |(externalFlows rules activities).sum + -prior.baselineCashFlows|
      ≤ size (externalFlows rules activities) + |prior.baselineCashFlows| := by
    refine (abs_add_le _ _).trans (add_le_add (abs_sum_le_size _) ?_)
    rw [abs_neg]
  rw [← sub_eq_add_neg] at hsumUnits hsumSize
  refine ⟨?_, hround ▸ hequity, ?_, ?_, ?_⟩
  · rw [hround]
    exact exactReport_of_fits hdigits texts actions cashTolerance hreport
  · exact flows_of_fits hround hexternal (add_nonneg hS hb) (hroom _ (by linarith))
  · rw [hround]
    exact roundDigits_of_bound hsumUnits (by linarith) (hroom _ le_rfl)
  · rw [hround]
    have hunits' := multiple_add hequityUnits (multiple_neg hsumUnits)
    rw [← sub_eq_add_neg] at hunits'
    refine roundDigits_of_bound hunits' ?_ (hroom _ le_rfl)
    have := abs_sub (snapshot.equity id)
      ((externalFlows rules activities).sum - prior.baselineCashFlows)
    linarith

end Figures

/-! ## Accepting the import -/

section Acceptance

variable {rules : RiskRules} {prior : AccountRiskSnapshot} {accountId : String} {now : WireTime}

/-- The transfers that were accepted are kept when they are all there, under
identities of their own. -/
theorem keepsTransfers_iff {transfers : List Fingerprint} (hd : (transfers.map (·.1)).Nodup) :
    keepsTransfers prior transfers = true
      ↔ ∀ f ∈ prior.cashTransferFingerprints, f ∈ transfers := by
  have hd' : (transfers.reverse.map (·.1)).Nodup := by
    rw [List.map_reverse]
    exact List.nodup_reverse.mpr hd
  unfold keepsTransfers
  rw [List.all_eq_true]
  refine forall₂_congr (fun f _ => ?_)
  rw [beq_iff_eq, Option.map_eq_some_iff]
  constructor
  · rintro ⟨g, hg, hdigest⟩
    obtain ⟨hmem, hid⟩ :=
      (@Table.find?_some_iff_of_nodup _ _ transfers.reverse Prod.fst _ f.1 g hd').mp hg
    rw [← Prod.ext hid hdigest]
    exact List.mem_reverse.mp hmem
  · intro hmem
    refine ⟨f, ?_, rfl⟩
    exact (@Table.find?_some_iff_of_nodup _ _ transfers.reverse Prod.fst _ f.1 f hd').mpr
      ⟨List.mem_reverse.mpr hmem, rfl⟩

/-- When nothing contradicts the accepted history. -/
theorem priorFailure_eq_none_iff {snapshot : AccountSnapshot} {history : CashHistory} :
    priorFailure prior accountId snapshot history = none
      ↔ prior.accountId = accountId ∧ snapshot.observedAt.lt? prior.observedAt ≠ some true
        ∧ history.journals = prior.baselineCashJournalFingerprints
        ∧ keepsTransfers prior history.transfers = true := by
  unfold priorFailure
  simp only [ne_eq, ite_not, Bool.not_eq_true']
  split
  · split
    · simp [*]
    · split
      · split
        · simp [*]
        · simp_all
      · simp [*]
  · simp [*]

/-- **An import after another is accepted** when it is checked, nothing
contradicts the history and the risk it comes to is valid. -/
theorem acceptRisk_prior_iff {imported : Checkpoint} {activities : List Activity}
    {risk : AccountRiskSnapshot} :
    acceptRisk rules (some prior) imported activities accountId now = .ok risk
      ↔ ∃ snapshot history,
        importEvidence rules imported activities accountId now = .ok (snapshot, history)
        ∧ prior.valid rules = true ∧ priorFailure prior accountId snapshot history = none
        ∧ (nextRisk rules prior accountId snapshot history).valid rules = true
        ∧ risk = nextRisk rules prior accountId snapshot history := by
  unfold acceptRisk
  cases hevidence : importEvidence rules imported activities accountId now with
  | error text => simp
  | ok evidence =>
    obtain ⟨snapshot, history⟩ := evidence
    cases hprior : prior.valid rules with
    | false => simp [storedRisk, hprior]
    | true =>
      cases hfailure : priorFailure prior accountId snapshot history with
      | some failure => simp [storedRisk, hprior, hfailure]
      | none =>
        cases hvalid : (nextRisk rules prior accountId snapshot history).valid rules with
        | false => simp [storedRisk, hprior, hfailure, validatedRisk, hvalid]
        | true =>
          simp only [storedRisk, hprior, if_true, hfailure, validatedRisk, hvalid,
            Except.ok.injEq]
          constructor
          · rintro rfl
            exact ⟨snapshot, history, rfl, trivial, hfailure, hvalid, rfl⟩
          · rintro ⟨s, h, heq, -, -, -, rfl⟩
            cases heq
            rfl

/-- A valid risk stays valid with another equity and other flows that come to
the same adjusted equity. -/
theorem valid_of_moved {r : AccountRiskSnapshot} {equity cashFlows : ℚ}
    {transfers : List Fingerprint} (h : r.valid rules = true)
    (hadjusted : r.adjustedEquity
      = rules.round (equity - rules.round (cashFlows - r.baselineCashFlows)))
    (hvalid : validFingerprints transfers = true)
    (hapart : ∀ f ∈ transfers, f.1 ∉ r.baselineCashJournalFingerprints.map (·.1)) :
    { r with
      equity := equity
      cashFlows := cashFlows
      cashTransferFingerprints := transfers : AccountRiskSnapshot }.valid rules = true := by
  unfold AccountRiskSnapshot.valid at h ⊢
  simp only [Bool.and_eq_true] at h ⊢
  obtain ⟨⟨⟨⟨⟨⟨h₁, -⟩, h₂⟩, h₃⟩, -⟩, h₄⟩, -⟩ := h
  refine ⟨⟨⟨⟨⟨⟨h₁, ?_⟩, h₂⟩, h₃⟩, hvalid⟩, h₄⟩, ?_⟩
  · exact decide_eq_true hadjusted
  · rw [List.all_eq_true]
    exact fun f hf => decide_eq_true (hapart f hf)

end Acceptance

/-! ## The two imports -/

/-- **The checkpoint of an import**: the reconciliation of its activities with
its snapshot. -/
def importOf (rules : RiskRules) (texts : TextRules) (actions : List CorporateAction)
    (cashTolerance : ℚ) (activities : List Activity) (snapshot : AccountSnapshot)
    (checkedAt : WireTime) : Checkpoint :=
  ⟨none, some checkedAt,
    .valid (reconcile rules.round texts actions cashTolerance activities snapshot),
    .valid snapshot, none, none, none⟩

section Imports

variable {rules : RiskRules} {texts : TextRules} {actions : List CorporateAction}
  {cashTolerance : ℚ} {activities activities' : List Activity} {snapshot : AccountSnapshot}
  {checkedAt : WireTime}

/-- It can be used when it is ready and observed at a time with a zone. -/
theorem importOf_validated_iff {s : AccountSnapshot} :
    (importOf rules texts actions cashTolerance activities snapshot checkedAt).validated = .ok s
      ↔ s = snapshot
        ∧ (reconcile rules.round texts actions cashTolerance activities snapshot).ready = true
        ∧ WireTime.isAware snapshot.observedAt = true := by
  rw [Checkpoint.validated_ok_iff]
  constructor
  · rintro ⟨-, report, hreport, hready, hsnapshot, haware, -⟩
    cases hreport
    cases hsnapshot
    exact ⟨rfl, hready, haware⟩
  · rintro ⟨rfl, hready, haware⟩
    exact ⟨rfl, _, rfl, hready, rfl, haware, rfl⟩

end Imports

section Moved

variable {rules : RiskRules} {texts : TextRules} {actions : List CorporateAction}
  {cashTolerance : ℚ} {prior : AccountRiskSnapshot} {activities activities' : List Activity}
  {snapshot : AccountSnapshot} {added : List CashMove} {accountId : String}
  {checkedAt now : WireTime} {history : CashHistory}

/-- **The history with the transfers**: the same journals, and every transfer
that was there. -/
theorem cashHistory_moved (hp : activities'.Perm (activities ++ added.map (·.activity)))
    (h : cashHistory rules activities = .ok history) :
    history.total = flows rules activities
      ∧ ∃ history', cashHistory rules activities' = .ok history'
        ∧ history'.total = flows rules activities' ∧ history'.journals = history.journals
        ∧ ∀ f ∈ history.transfers, f ∈ history'.transfers := by
  obtain ⟨hall, rfl⟩ := (cashHistory_ok_iff rules).mp h
  obtain ⟨htransfers, hjournals⟩ := entries_moved rules hp
  have hall' : ∀ a ∈ activities', ∃ e, cashEntry rules a = .ok e := by
    intro a ha
    rcases List.mem_append.mp (hp.mem_iff.mp ha) with ha | ha
    · exact hall a ha
    · obtain ⟨m, -, rfl⟩ := List.mem_map.mp ha
      exact ⟨_, m.cashEntry rules⟩
  refine ⟨rfl, _, (cashHistory_ok_iff rules).mpr ⟨hall', rfl⟩, rfl, ?_, fun f hf => ?_⟩
  · exact sortFingerprints_of_perm (hjournals.map _)
  · have hf' := (sortFingerprints_perm _).mem_iff.mp hf
    refine (sortFingerprints_perm _).mem_iff.mpr ((htransfers.map _).mem_iff.mpr ?_)
    rw [List.map_append]
    exact List.mem_append_left _ hf'

/-- The transfers of a history have identities of their own, valid fingerprints,
and are apart from its cash journals. -/
theorem Clean.fingerprints {unsupported : Json → Activity → String}
    (hclean : Clean unsupported [] activities)
    (hdigest : ∀ evidence, (rules.digest evidence).length = 64)
    (h : cashHistory rules activities = .ok history) :
    (history.transfers.map (·.1)).Nodup ∧ validFingerprints history.transfers = true
      ∧ ∀ f ∈ history.transfers, f.1 ∉ history.journals.map (·.1) := by
  obtain ⟨-, rfl⟩ := (cashHistory_ok_iff rules).mp h
  obtain ⟨hdistinct, hnamed⟩ := hclean.entries_identities rules
  have hdigests : ∀ e ∈ entries rules activities, e.print.2.length = 64 := by
    intro e he
    obtain ⟨a, -, hentry⟩ := List.mem_filterMap.mp he
    obtain ⟨-, evidence, hprint⟩ := entryOf_eq_some hentry
    rw [hprint, hdigest]
  have htransfers : (((transferEntries (entries rules activities)).map (·.print)).map
      (·.1)).Nodup := by
    rw [List.map_map]
    exact hdistinct.sublist (List.filter_sublist.map _)
  refine ⟨((sortFingerprints_perm _).map _).nodup_iff.mpr htransfers,
    validFingerprints_sort htransfers ?_, ?_⟩
  · intro f hf
    obtain ⟨e, he, rfl⟩ := List.mem_map.mp hf
    have hmem := List.mem_of_mem_filter he
    exact ⟨(hnamed e hmem).1, hdigests e hmem⟩
  · intro f hf hjournal
    obtain ⟨e, he, rfl⟩ := List.mem_map.mp ((sortFingerprints_perm _).mem_iff.mp hf)
    obtain ⟨g, hg, heq⟩ := List.mem_map.mp hjournal
    obtain ⟨j, hj, rfl⟩ := List.mem_map.mp ((sortFingerprints_perm _).mem_iff.mp hg)
    obtain ⟨heMem, heTransfer⟩ := List.mem_filter.mp he
    obtain ⟨hjMem, hjJournal⟩ := List.mem_filter.mp hj
    -- one identity, one entry
    have hsame : j = e := Table.eq_of_key hdistinct hjMem heMem heq
    subst hsame
    rw [hjJournal] at heTransfer
    cases heTransfer

end Moved

/-- **Deposits and withdrawals neither make profit nor erase drawdown.** Take
an import that is accepted after another, and the same one with any executed
deposits and withdrawals more, in any place of the activities, and with the
cash greater by their sum. When the decimal context changes no figure of the
two, the second is accepted too, with the same adjusted equity, high-water mark
and drawdown: only the equity, the flows – both greater by that sum – and the
fingerprints of the transfers differ. -/
theorem transfers_neutral (rules : RiskRules)
    (hdigest : ∀ evidence, (rules.digest evidence).length = 64) (texts : TextRules)
    (actions : List CorporateAction) (cashTolerance : ℚ) (previous : Checkpoint)
    (prior : AccountRiskSnapshot) (hprior : previous.risk = some prior)
    (activities activities' : List Activity) (snapshot : AccountSnapshot) (added : List CashMove)
    (accountId : String) (checkedAt now : WireTime) (hnew : NewMoves activities added)
    (hp : activities'.Perm (activities ++ added.map (·.activity)))
    (hexact : Unrounded rules texts actions cashTolerance prior snapshot activities)
    (hexact' : Unrounded rules texts actions cashTolerance prior (snapshot.moved added) activities')
    (haccepted : (advanceRiskCheckpoint rules previous
      (importOf rules texts actions cashTolerance activities snapshot checkedAt) activities
      accountId now).riskError = none) :
    ∃ risk risk',
      advanceRiskCheckpoint rules previous
          (importOf rules texts actions cashTolerance activities snapshot checkedAt) activities
          accountId now = ⟨some risk, none, none⟩
        ∧ advanceRiskCheckpoint rules previous
          (importOf rules texts actions cashTolerance activities' (snapshot.moved added) checkedAt)
          activities' accountId now = ⟨some risk', none, none⟩
        ∧ (risk'.adjustedEquity = risk.adjustedEquity
          ∧ risk'.highWaterMark = risk.highWaterMark ∧ risk'.drawdownPct = risk.drawdownPct)
        ∧ (risk'.equity = risk.equity + (added.map (·.amount)).sum
          ∧ risk'.cashFlows = risk.cashFlows + (added.map (·.amount)).sum)
        ∧ risk' = { risk with
            equity := risk'.equity
            cashFlows := risk'.cashFlows
            cashTransferFingerprints := risk'.cashTransferFingerprints } := by
  -- what the first import was accepted for
  obtain ⟨hset, risk, haccept⟩ := acceptRisk_of_riskError haccepted
  rw [advanceRiskCheckpoint_of_accept hset haccept]
  rw [hprior] at haccept
  obtain ⟨s, history, hevidence, hvalidPrior, hclear, hvalid, hrisk⟩ :=
    acceptRisk_prior_iff.mp haccept
  obtain ⟨hvalidated, hnow, haccount, hhistory⟩ := importEvidence_ok_iff.mp hevidence
  obtain ⟨rfl, hready, haware⟩ := importOf_validated_iff.mp hvalidated
  obtain ⟨haccountPrior, horder, hjournals, hkept⟩ := priorFailure_eq_none_iff.mp hclear
  rw [hexact.report.eq] at hready
  have hclean := (reconcile_ready_iff.mp hready).1
  -- the second one has the same journals, the transfers it had and the new ones
  have hcleanMoved := (hclean.moved hnew).perm hp.symm
  obtain ⟨htotal, history', hhistory', htotal', hjournals', hsubset⟩ :=
    cashHistory_moved hp hhistory
  obtain ⟨hdistinct, hprints, hapart⟩ := hcleanMoved.fingerprints hdigest hhistory'
  obtain ⟨hequity, hflows, hadjusted⟩ := adjusted_moved hp hexact hexact'
  -- so everything that is derived from the adjusted equity is the same
  have hsame : rules.round ((s.moved added).equity rules.round
        - rules.round (history'.total - prior.baselineCashFlows))
      = rules.round (s.equity rules.round
        - rules.round (history.total - prior.baselineCashFlows)) := by
    rw [htotal, htotal']
    exact hadjusted
  have hnext : nextRisk rules prior accountId (s.moved added) history'
      = { nextRisk rules prior accountId s history with
          equity := (s.moved added).equity rules.round
          cashFlows := history'.total
          cashTransferFingerprints := history'.transfers } := by
    unfold nextRisk
    dsimp only
    rw [hsame]
    rfl
  have haccept' : acceptRisk rules previous.risk
      (importOf rules texts actions cashTolerance activities' (s.moved added) checkedAt) activities'
      accountId now = .ok (nextRisk rules prior accountId (s.moved added) history') := by
    rw [hprior]
    refine acceptRisk_prior_iff.mpr ⟨s.moved added, history', ?_, hvalidPrior, ?_, ?_, rfl⟩
    · refine importEvidence_ok_iff.mpr ⟨?_, hnow, haccount, hhistory'⟩
      refine importOf_validated_iff.mpr ⟨rfl, ?_, haware⟩
      rw [hexact'.report.eq]
      exact reconcile_moved hp hnew hready
    · refine priorFailure_eq_none_iff.mpr ⟨haccountPrior, horder, hjournals'.trans hjournals, ?_⟩
      refine (keepsTransfers_iff hdistinct).mpr (fun f hf => hsubset f ?_)
      exact (keepsTransfers_iff (hclean.fingerprints hdigest hhistory).1).mp hkept f hf
    · rw [hnext]
      refine valid_of_moved hvalid hsame.symm hprints (fun f hf => ?_)
      show f.1 ∉ prior.baselineCashJournalFingerprints.map (·.1)
      rw [← hjournals, ← hjournals']
      exact hapart f hf
  refine ⟨risk, _, rfl, advanceRiskCheckpoint_of_accept hset haccept', ?_⟩
  subst hrisk
  rw [hnext]
  refine ⟨⟨rfl, rfl, rfl⟩, ⟨?_, ?_⟩, rfl⟩
  · exact hequity
  · show history'.total = history.total + _
    rw [htotal', htotal]
    exact hflows

/-! ### An account that has earned interest -/

def sampleInterest : Activity :=
  [("activity_type", .str "INT"), ("id", .str "a-1"), ("net_amount", .str "100.01")]

/-- An account that holds the interest and nothing else. -/
def sampleSaver : AccountSnapshot where
  accountId := "acct"
  cash := 10001 / 100
  positions := []
  observedAt := .aware 1767366000000000
  identified := sampleSnapshot.identified
  distinct := List.nodup_nil

/-- The risk of its first import. -/
def sampleSaverRisk : AccountRiskSnapshot where
  accountId := "acct"
  baselineObservedAt := .aware 1767366000000000
  baselineEquity := 10001 / 100
  baselineCashFlows := 0
  observedAt := .aware 1767366000000000
  equity := 10001 / 100
  cashFlows := 0
  adjustedEquity := 10001 / 100
  highWaterMark := 10001 / 100
  drawdownPct := 0
  cashTransferFingerprints := []
  baselineCashJournalFingerprints := []

/-- The checkpoint after it. -/
def sampleSaved : Checkpoint := { Checkpoint.empty with risk := some sampleSaverRisk }

/-- A deposit of an amount. -/
def sampleMove (text : String) (amount : ℚ) (hamount : decimal (.str text) = some amount)
    (hpos : 0 ≤ amount) : CashMove where
  activity := Ledger.sampleTransfer "a-2" text
  id := "a-2"
  kind := "CSD"
  amount := amount
  named := by decide
  hid := rfl
  hkind := rfl
  direction := Or.inl ⟨rfl, hpos⟩
  hamount := hamount
  executed := rfl
  shares _ h := by cases h

theorem sampleMove_new (text : String) (amount : ℚ) (hamount : decimal (.str text) = some amount)
    (hpos : 0 ≤ amount) : NewMoves [sampleInterest] [sampleMove text amount hamount hpos] where
  fresh m hm a ha := by
    rw [List.mem_singleton.mp hm, List.mem_singleton.mp ha]
    show _ ≠ some (Json.Key.str "a-2")
    decide +kernel
  distinct := List.nodup_singleton _

/-- A deposit of `10²⁸`, in 29 digits. -/
def sampleHuge : CashMove :=
  sampleMove "10000000000000000000000000000" (10 ^ 28) (by decide +kernel) (by positivity)

/-- A deposit of 500. -/
def sampleModest : CashMove := sampleMove "500" 500 (by decide +kernel) (by positivity)

/-- The risk of an import of that account. -/
def sampleRiskAdvance (activities : List Activity) (snapshot : AccountSnapshot) : RiskFields :=
  advanceRiskCheckpoint sampleDecimalEnv.rules sampleSaved
    (importOf sampleDecimalEnv.rules sampleRules [] (1 / 100) activities snapshot
      (.aware 1767366000000000)) activities "acct" (.aware 1767366000000000)

/-- The equity with the deposit is rounded to tens, and a cent of the adjusted
equity is lost. -/
theorem transfer_not_neutral :
    NewMoves [sampleInterest] [sampleHuge]
      ∧ (sampleRiskAdvance [sampleInterest] sampleSaver).riskError = none
      ∧ (sampleRiskAdvance [sampleInterest] sampleSaver).risk.map
        (fun r => (r.adjustedEquity, r.drawdownPct)) = some (10001 / 100, 0)
      ∧ (sampleRiskAdvance [sampleInterest, sampleHuge.activity]
        (sampleSaver.moved [sampleHuge])).risk.map (·.adjustedEquity) = some 100
      ∧ (sampleRiskAdvance [sampleInterest, sampleHuge.activity]
        (sampleSaver.moved [sampleHuge])).risk.map (fun r => decide (0 < r.drawdownPct))
          = some true := by
  refine ⟨sampleMove_new _ _ _ _, ?_, ?_, ?_, ?_⟩
  · decide +kernel
  · decide +kernel
  · decide +kernel
  · decide +kernel

/-- The figures of the account and of one deposit fit. -/
theorem sampleFigures_unrounded :
    Unrounded sampleDecimalEnv.rules sampleRules [] (1 / 100) sampleSaverRisk sampleSaver
        [sampleInterest]
      ∧ Unrounded sampleDecimalEnv.rules sampleRules [] (1 / 100) sampleSaverRisk
        (sampleSaver.moved [sampleModest]) [sampleModest.activity, sampleInterest] :=
  ⟨unrounded_of_fits (by decide) rfl (fits_of_den 2 (by decide +kernel) (by decide +kernel))
      (fits_of_den 2 (by decide +kernel) (by decide +kernel)),
    unrounded_of_fits (by decide) rfl (fits_of_den 2 (by decide +kernel) (by decide +kernel))
      (fits_of_den 2 (by decide +kernel) (by decide +kernel))⟩

theorem transfers_neutral_sample :
    ∃ risk', sampleRiskAdvance [sampleModest.activity, sampleInterest]
          (sampleSaver.moved [sampleModest]) = ⟨some risk', none, none⟩
      ∧ risk'.adjustedEquity = 10001 / 100 ∧ risk'.equity = 60001 / 100 := by
  have hfirst : (sampleRiskAdvance [sampleInterest] sampleSaver).risk = some sampleSaverRisk := by
    decide +kernel
  have hdigest : ∀ evidence, (sampleDecimalEnv.rules.digest evidence).length = 64 := by
    intro evidence
    show (Ledger.sampleDigest evidence).length = 64
    unfold Ledger.sampleDigest
    split
    · decide +kernel
    · decide +kernel
  obtain ⟨risk, risk', hrisk, hmoved, ⟨hadjusted, -, -⟩, ⟨hequity, -⟩, -⟩ :=
    transfers_neutral sampleDecimalEnv.rules hdigest sampleRules [] (1 / 100)
      sampleSaved sampleSaverRisk rfl [sampleInterest] [sampleModest.activity, sampleInterest]
      sampleSaver [sampleModest] "acct" (.aware 1767366000000000) (.aware 1767366000000000)
      (sampleMove_new _ _ _ _) (List.Perm.swap _ _ _) sampleFigures_unrounded.1
      sampleFigures_unrounded.2 (by decide +kernel)
  have hsame : risk = sampleSaverRisk := by
    have hvalue : sampleRiskAdvance [sampleInterest] sampleSaver = ⟨some risk, none, none⟩ := hrisk
    rw [hvalue] at hfirst
    exact Option.some.inj hfirst
  refine ⟨risk', hmoved, ?_, ?_⟩
  · rw [hadjusted, hsame]
    rfl
  · rw [hequity, hsame]
    decide +kernel

end AgenticTrader
