import AgenticTrader.Accounting.LedgerRounding
import AgenticTrader.Library.DecimalContext
import Mathlib.Algebra.Group.Pi.Basic
import Mathlib.Algebra.Group.Prod

/-!
# The order of the activities

As long as no amount is rounded (`ExactReport`, which holds in every order when
the amounts fit the decimal context: `exactReport_of_fits`), a report is a
function of the activities as a collection: a permutation of them is ready when
they are, with the same totals. It is less than that of the activities that are
objected to. Such an activity makes the report not ready, but it may change the
totals that are published with it, in two ways.

* Its identity is noted before anything else is read, so a later activity of
  that identity is objected to as well, and is not counted.
* An execution whose symbol is a list or an object is noticed after its cash
  was counted.

Where neither happens to it (`Skipped`) an activity that is objected to changes no
total, in any arithmetic (`sameTotals_skipped`); in exact arithmetic, where sums can
be taken in another order, exactly when the two do not happen to it, or cancel
(`sameTotals_objected_iff`).
-/

namespace AgenticTrader

/-! ## What a report shows of an activity -/

/-- The shares of a symbol an activity adds to the inventory. -/
def Activity.held (a : Activity) (symbol : String) : ℚ :=
  a.shares.elim 0 (fun s => if symbol = s.1 then s.2 else 0)

/-- What a report shows of the totals: cash, fees, income and fills, and the
quantity of every symbol. -/
abbrev Shown := (ℚ × ℚ × ℚ × ℕ) × (String → ℚ)

/-- **What an activity with a new identity adds to them.** -/
def Activity.effect (a : Activity) : Shown :=
  ((a.contribution.cash, a.contribution.fees, a.contribution.income, a.contribution.fills), a.held)

/-- What a tally shows. -/
def Tally.shown (t : Tally) : Shown :=
  ((t.cash, t.fees, t.income, t.fills), quantityOf t.inventory)

/-- **The cash of an execution whose symbol does not hash**: it passed its other
checks, and was counted when the symbol is noticed. -/
def Activity.leak (a : Activity) : ℚ :=
  if (a.get? "activity_type").any (·.isText "FILL") then
    (a.fill?.filter (fun f => f.symbol?.isNone)).elim 0 (fun f => f.direction * f.qty * f.price)
  else 0

theorem quantityOf_stocked (inventory : List (String × ℚ)) (a : Activity) :
    quantityOf (Tally.stocked inventory a.shares) = quantityOf inventory + a.held := by
  funext symbol
  unfold Activity.held
  cases a.shares with
  | none => simp [Tally.stocked]
  | some s => simp [Tally.stocked, quantityOf_addQuantity]

theorem Tally.shown_added (unsupported : Json → Activity → String) (t : Tally) (a : Activity) :
    (t.added unsupported a).shown = t.shown + a.effect := by
  unfold shown added
  dsimp only
  rw [quantityOf_stocked]
  rfl

/-- **What a loop shows**: the sum over the activities that were new. -/
theorem Tally.foldl_book_shown (unsupported : Json → Activity → String) (t : Tally)
    (l : List Activity) :
    (l.foldl (book id unsupported) t).shown
      = t.shown + ((newOnes t.ids l).map Activity.effect).sum := by
  induction l generalizing t with
  | nil => simp [newOnes]
  | cons a l ih =>
    rw [List.foldl_cons, ih, book_eq, newOnes]
    cases a.identityKey? with
    | none => rfl
    | some key =>
      dsimp only
      split
      · rfl
      · rw [List.map_cons, List.sum_cons, ← add_assoc, shown_added]
        rfl

/-- An activity that does not pass its checks adds at most the cash of an
execution whose symbol does not hash. -/
theorem Activity.effect_of_objection {unsupported : Json → Activity → String} {a : Activity}
    (h : a.objection unsupported ≠ none) : a.effect = ((a.leak, 0, 0, 0), 0) := by
  -- of the parts of an effect only the cash can be other than zero
  have heffect : ∀ c : ℚ, a.contribution.cash = c → a.contribution.fees = 0 →
      a.contribution.income = 0 → a.contribution.fills = 0 → a.shares = none →
      a.effect = ((c, 0, 0, 0), 0) := by
    intro c hc hf hi hn hs
    have hheld : a.held = 0 := by
      funext symbol
      simp [held, hs]
    rw [effect, hc, hf, hi, hn, hheld]
  unfold objection at h
  split at h
  · rename_i hk
    apply heffect <;> simp [contribution, shares, leak, hk]
  · rename_i kind hk
    -- an execution leaks its cash where its symbol does not hash; nothing else leaks
    by_cases hfill : kind = "FILL"
    · subst hfill
      rw [if_pos rfl] at h
      cases hf : a.fill? with
      | none => apply heffect <;> simp [contribution, shares, leak, hk, hf]
      | some f =>
        cases hs : f.symbol? with
        | some symbol => simp [hf, hs] at h
        | none =>
          apply heffect <;>
            simp [contribution, shares, leak, hk, hf, hs, fillContribution, Json.isText,
              Option.filter]
    · rw [if_neg hfill] at h
      have hleak : a.leak = 0 := by simp [leak, hk, Json.isText, hfill]
      have hshares : a.shares = none := by simp [shares, hk, Json.isText, hfill]
      have hcontribution : a.contribution = 0 := by
        simp only [contribution, hk, if_neg hfill]
        split
        · rename_i hsupported
          rw [if_pos hsupported] at h
          cases ha : a.cashAmount? kind with
          | none => rfl
          | some amount => simp [ha] at h
        · rfl
      rw [hleak]
      apply heffect <;> simp [hcontribution, hshares]
  · rename_i items hk
    apply heffect <;> simp [contribution, shares, leak, hk, Json.isText]
  · rename_i fields hk
    apply heffect <;> simp [contribution, shares, leak, hk, Json.isText]
  · rename_i kind hstr _ _ hk
    have htext : kind.isText "FILL" = false := by
      cases kind with
      | str text => exact absurd rfl (hstr text)
      | _ => rfl
    have hcontribution : a.contribution = 0 := by
      unfold contribution
      split
      · rename_i text htext'
        exact absurd (Option.some.inj (hk.symm.trans htext')) (hstr text)
      · rfl
    apply heffect <;> simp [hcontribution, shares, leak, hk, htext]

/-! ## The report -/

section Report

variable {rules : TextRules} {actions : List CorporateAction} {cashTolerance : ℚ}
  {snapshot : AccountSnapshot}

/-- A symbol without a quantity on either side is of neither. -/
theorem mem_symbols_of_ne {inventory : List (String × ℚ)} {s : String}
    (h : quantityOf inventory s ≠ snapshot.quantityOf s) :
    s ∈ inventory.map (·.1) ++ snapshot.positions.map (·.1) := by
  by_contra hs
  rw [List.mem_append, not_or] at hs
  apply h
  have hi : inventory.find? (fun i => i.1 == s) = none :=
    List.find?_eq_none.mpr (fun i hi he => hs.1 (List.mem_map.mpr ⟨i, hi, by simpa using he⟩))
  have hp : snapshot.positions.find? (fun p => p.1 == s) = none :=
    List.find?_eq_none.mpr (fun p hp he => hs.2 (List.mem_map.mpr ⟨p, hp, by simpa using he⟩))
  rw [quantityOf, AccountSnapshot.quantityOf, hi, hp]
  rfl

/-- The quantities that differ. -/
theorem mem_quantityDeltas {inventory : List (String × ℚ)} {d : String × ℚ} :
    d ∈ quantityDeltas id inventory snapshot
      ↔ d.2 = quantityOf inventory d.1 - snapshot.quantityOf d.1 ∧ d.2 ≠ 0 := by
  unfold quantityDeltas
  rw [List.mem_filter, List.mem_map]
  simp only [ne_eq, decide_not, Bool.not_eq_true', decide_eq_false_iff_not]
  constructor
  · rintro ⟨⟨s, -, rfl⟩, hne⟩
    exact ⟨rfl, hne⟩
  · rintro ⟨hd, hne⟩
    refine ⟨⟨d.1, List.mem_dedup.mpr (mem_symbols_of_ne ?_), by rw [id_eq, ← hd]⟩, hne⟩
    intro he
    exact hne (by rw [hd, he, sub_self])

theorem nodup_quantityDeltas (inventory : List (String × ℚ)) :
    (quantityDeltas id inventory snapshot).Nodup :=
  ((List.nodup_dedup _).map (fun _ _ h => (Prod.mk.inj h).1)).filter _

/-- **They are the same, as a dictionary, exactly when the inventories are.** -/
theorem quantityDeltas_perm_iff {inventory inventory' : List (String × ℚ)} :
    (quantityDeltas id inventory snapshot).Perm (quantityDeltas id inventory' snapshot)
      ↔ quantityOf inventory = quantityOf inventory' := by
  rw [List.perm_ext_iff_of_nodup (nodup_quantityDeltas _) (nodup_quantityDeltas _)]
  constructor
  · intro h
    funext s
    by_contra hne
    -- one of the two differs from the broker's quantity, and is then a difference of both
    by_cases hs : quantityOf inventory s = snapshot.quantityOf s
    · have hmem := (h (s, quantityOf inventory' s - snapshot.quantityOf s)).mpr
        (mem_quantityDeltas.mpr ⟨rfl, sub_ne_zero.mpr (fun e => hne (hs.trans e.symm))⟩)
      exact hne (sub_left_injective (mem_quantityDeltas.mp hmem).1).symm
    · have hmem := (h (s, quantityOf inventory s - snapshot.quantityOf s)).mp
        (mem_quantityDeltas.mpr ⟨rfl, sub_ne_zero.mpr hs⟩)
      exact hne (sub_left_injective (mem_quantityDeltas.mp hmem).1)
  · intro h d
    rw [mem_quantityDeltas, mem_quantityDeltas, h]

/-- There is none exactly when the inventory is what the broker holds. -/
theorem quantityDeltas_eq_nil_iff {inventory : List (String × ℚ)} :
    quantityDeltas id inventory snapshot = []
      ↔ quantityOf inventory = snapshot.quantityOf := by
  rw [List.eq_nil_iff_forall_not_mem]
  constructor
  · intro h
    funext s
    by_contra hne
    exact h (s, quantityOf inventory s - snapshot.quantityOf s)
      (mem_quantityDeltas.mpr ⟨rfl, sub_ne_zero.mpr hne⟩)
  · intro h d hd
    obtain ⟨hd, hne⟩ := mem_quantityDeltas.mp hd
    exact hne (by rw [hd, h, sub_self])

/-- **What a comparison depends on**: the difference of the cash, and the
quantities. -/
theorem comparisonIssues_congr {snapshot' : AccountSnapshot} {t t' : Tally}
    (hpositions : snapshot.positions = snapshot'.positions)
    (hcash : t.cash - snapshot.cash = t'.cash - snapshot'.cash)
    (hquantity : quantityOf t.inventory = quantityOf t'.inventory) :
    comparisonIssues id t snapshot cashTolerance = [] ↔
      comparisonIssues id t' snapshot' cashTolerance = [] := by
  have hbroker : snapshot.quantityOf = snapshot'.quantityOf := by
    funext s
    rw [AccountSnapshot.quantityOf, AccountSnapshot.quantityOf, hpositions]
  have hdeltas : (quantityDeltas id t.inventory snapshot = [])
      ↔ (quantityDeltas id t'.inventory snapshot' = []) := by
    rw [quantityDeltas_eq_nil_iff, quantityDeltas_eq_nil_iff, hquantity, hbroker]
  unfold comparisonIssues
  rw [hcash, hpositions]
  simp only [List.append_eq_nil_iff, List.isEmpty_iff, ite_eq_left_iff, reduceCtorEq, imp_false,
    not_not, hdeltas]

/-- **A report is ready exactly when nothing was objected to.** -/
theorem reconcile_ready_iff {l : List Activity} :
    (reconcile id rules actions cashTolerance l snapshot).ready = true
      ↔ Clean (unsupportedActivityIssue rules actions) [] l
        ∧ comparisonIssues id (tallied id rules actions l) snapshot cashTolerance = [] := by
  constructor
  · intro h
    obtain ⟨hissues, hcomparison⟩ := issues_of_ready h
    exact ⟨clean_of_issues hissues, hcomparison⟩
  · rintro ⟨hclean, hcomparison⟩
    have hissues : (tallied id rules actions l).issues = [] :=
      Clean.foldl_issues (t := Tally.empty) hclean
    unfold tallied at hissues hcomparison
    unfold LedgerReport.ready reconcile
    dsimp only
    rw [hissues, hcomparison]
    simp

end Report

/-! ## Permutations -/

/-- **The totals two reports show are the same**; the quantities as a
dictionary. -/
structure LedgerReport.SameTotals (r r' : LedgerReport) : Prop where
  fillCount : r.fillCount = r'.fillCount
  cashDelta : r.cashDelta = r'.cashDelta
  fees : r.fees = r'.fees
  income : r.income = r'.income
  quantityDeltas : r.quantityDeltas.Perm r'.quantityDeltas

section Order

variable {rules : TextRules} {actions : List CorporateAction} {cashTolerance : ℚ}
  {snapshot : AccountSnapshot} {l l' : List Activity}

/-- They are exactly when the loops show the same. -/
theorem sameTotals_iff :
    LedgerReport.SameTotals (reconcile id rules actions cashTolerance l snapshot)
        (reconcile id rules actions cashTolerance l' snapshot)
      ↔ (tallied id rules actions l).shown = (tallied id rules actions l').shown := by
  unfold Tally.shown
  rw [Prod.mk.injEq, Prod.mk.injEq, Prod.mk.injEq, Prod.mk.injEq]
  constructor
  · intro h
    refine ⟨⟨sub_left_injective h.cashDelta, h.fees, h.income, h.fillCount⟩, ?_⟩
    exact quantityDeltas_perm_iff.mp h.quantityDeltas
  · rintro ⟨⟨hcash, hfees, hincome, hfills⟩, hquantity⟩
    refine ⟨hfills, ?_, hfees, hincome, quantityDeltas_perm_iff.mpr hquantity⟩
    exact congrArg (· - snapshot.cash) hcash

/-- Of activities without an objection every one counts, in any order. -/
theorem Clean.totals_perm (h : Clean (unsupportedActivityIssue rules actions) [] l)
    (hp : l.Perm l') :
    (tallied id rules actions l).totals = (tallied id rules actions l').totals := by
  unfold tallied
  rw [Tally.foldl_book_totals, Tally.foldl_book_totals]
  show _ + ((newOnes [] l).map _).sum = _ + ((newOnes [] l').map _).sum
  rw [h.newOnes_eq, (h.perm hp).newOnes_eq, (hp.map _).sum_eq]

theorem Clean.shown_perm (h : Clean (unsupportedActivityIssue rules actions) [] l)
    (hp : l.Perm l') :
    (tallied id rules actions l).shown = (tallied id rules actions l').shown := by
  unfold tallied
  rw [Tally.foldl_book_shown, Tally.foldl_book_shown]
  show _ + ((newOnes [] l).map _).sum = _ + ((newOnes [] l').map _).sum
  rw [h.newOnes_eq, (h.perm hp).newOnes_eq, (hp.map _).sum_eq]

/-- A permutation of a ready list is ready. -/
theorem ready_of_perm (hp : l.Perm l')
    (h : (reconcile id rules actions cashTolerance l snapshot).ready = true) :
    (reconcile id rules actions cashTolerance l' snapshot).ready = true := by
  obtain ⟨hclean, hcomparison⟩ := reconcile_ready_iff.mp h
  have hshown := hclean.shown_perm hp
  refine reconcile_ready_iff.mpr ⟨hclean.perm hp, ?_⟩
  refine (comparisonIssues_congr rfl ?_ ?_).mp hcomparison
  · exact congrArg (fun s => s.1.1 - snapshot.cash) hshown
  · exact congrArg Prod.snd hshown

/-- A ready report publishes what its loop counted. -/
theorem published_of_ready
    (h : (reconcile id rules actions cashTolerance l snapshot).ready = true) :
    (reconcile id rules actions cashTolerance l snapshot).grossRealized
        = some ((tallied id rules actions l).totals.fillCash
          + (snapshot.positions.map (·.2.costBasis)).sum)
      ∧ (reconcile id rules actions cashTolerance l snapshot).netRealized
        = some ((tallied id rules actions l).totals.fillCash
          + (snapshot.positions.map (·.2.costBasis)).sum
          + (tallied id rules actions l).totals.fees
          + (tallied id rules actions l).totals.income) := by
  obtain ⟨hissues, hcomparison⟩ := issues_of_ready h
  unfold reconcile
  dsimp only
  rw [hissues, hcomparison, decimalSum_id]
  exact ⟨rfl, rfl⟩

end Order

/-! ## Amounts that fit -/

/-- **The amounts an activity brings**: the shares of an execution and what they
cost, or the amount of a cash activity. -/
def Activity.amounts (a : Activity) : List ℚ :=
  if (a.get? "activity_type").any (·.isText "FILL") then
    a.fill?.elim [] (fun f => [f.direction * f.qty, f.direction * f.qty * f.price])
  else [a.contribution.cash]

/-- **What a report is computed from.** -/
def reportAmounts (activities : List Activity) (snapshot : AccountSnapshot) : List ℚ :=
  activities.flatMap Activity.amounts ++ (snapshot.cash
    :: snapshot.positions.flatMap (fun p => [p.2.qty, p.2.costBasis, p.2.unrealizedPl]))

section Fitting

variable {k : ℕ} {activities kept : List Activity} {snapshot : AccountSnapshot}

/-- An activity brings one amount to the totals, if any. -/
theorem Activity.contribution_cases (a : Activity) :
    ∃ x, (x = 0 ∨ x ∈ a.amounts) ∧
      ((a.contribution.fillCash, a.contribution.cash, a.contribution.fees,
          a.contribution.income) = (x, x, 0, 0)
        ∨ (a.contribution.fillCash, a.contribution.cash, a.contribution.fees,
          a.contribution.income) = (0, x, x, 0)
        ∨ (a.contribution.fillCash, a.contribution.cash, a.contribution.fees,
          a.contribution.income) = (0, x, 0, x)
        ∨ (a.contribution.fillCash, a.contribution.cash, a.contribution.fees,
          a.contribution.income) = (0, x, 0, 0)) := by
  by_cases hfill : a.get? "activity_type" = some (.str "FILL")
  · have hcontribution : a.contribution = (a.fill?.map fillContribution).getD 0 := by
      simp [contribution, hfill]
    cases hf : a.fill? with
    | none => exact ⟨0, Or.inl rfl, by simp [hcontribution, hf]⟩
    | some f =>
      refine ⟨f.direction * f.qty * f.price, Or.inr ?_, ?_⟩
      · simp [amounts, hfill, hf, Json.isText]
      · simp [hcontribution, hf, fillContribution]
  · refine ⟨a.contribution.cash, Or.inr ?_, ?_⟩
    · have hkind : (a.get? "activity_type").any (·.isText "FILL") = false := by
        cases hk : a.get? "activity_type" with
        | none => rfl
        | some kind =>
          cases kind with
          | str text =>
            have htext : text ≠ "FILL" := by
              rintro rfl
              exact hfill hk
            simp [Json.isText, htext]
          | _ => rfl
      simp [amounts, hkind]
    · unfold contribution
      split
      · rename_i kind hk
        have hne : kind ≠ "FILL" := by
          rintro rfl
          exact hfill hk
        rw [if_neg hne]
        split
        · cases a.cashAmount? kind with
          | none => simp
          | some amount =>
            by_cases hfee : kind ∈ feeKinds
            · simp [cashContribution, hfee]
            · by_cases hincome : kind ∈ incomeKinds
              · simp [cashContribution, hfee, hincome]
              · simp [cashContribution, hfee, hincome]
        · simp
      · simp

/-- Nothing, an amount that an activity brings, or the opposite of one. -/
def Activity.Brings (a : Activity) (x : ℚ) : Prop :=
  x = 0 ∨ x ∈ a.amounts ∨ -x ∈ a.amounts

/-- What it adds to a total, or to several that are summed, is what it brings, if
anything. -/
theorem Activity.contribution_amounts (a : Activity) :
    ∀ x ∈ [a.contribution.fillCash, a.contribution.cash, a.contribution.fees,
        a.contribution.income, a.contribution.fillCash + a.contribution.fees,
        a.contribution.fillCash + a.contribution.fees + a.contribution.income],
      a.Brings x := by
  obtain ⟨x, hx, hcases⟩ := a.contribution_cases
  unfold Brings
  simp only [Prod.mk.injEq] at hcases
  simp only [List.forall_mem_cons, List.not_mem_nil, false_implies, implies_true, and_true]
  rcases hcases with ⟨h₁, h₂, h₃, h₄⟩ | ⟨h₁, h₂, h₃, h₄⟩ | ⟨h₁, h₂, h₃, h₄⟩ | ⟨h₁, h₂, h₃, h₄⟩
  all_goals
    rw [h₁, h₂, h₃, h₄]
    simp only [add_zero, zero_add]
    tauto

/-- The shares an activity adds are shares it brings. -/
theorem Activity.brings_held (symbol : String) (a : Activity) : a.Brings (a.held symbol) := by
  refine Or.imp_right Or.inr ?_
  unfold held shares amounts
  split
  · cases a.fill? with
    | none => exact Or.inl rfl
    | some f =>
      cases hs : f.symbol? with
      | none => simp [hs]
      | some s =>
        by_cases h : symbol = s
        · simp [hs, h]
        · simp [hs, h]
  · exact Or.inl rfl

/-- **A sum of amounts that activities bring**, over some of them, is no more
than all of it. -/
theorem sum_amounts {value : Activity → ℚ}
    (hunits : ∀ q ∈ activities.flatMap Activity.amounts, ∃ m : ℤ, q = m / 10 ^ k)
    (hvalue : ∀ a : Activity, a.Brings (value a)) (hkept : kept.Sublist activities) :
    (∃ m : ℤ, (kept.map value).sum = m / 10 ^ k)
      ∧ |(kept.map value).sum| ≤ size (activities.flatMap Activity.amounts) := by
  have hsize : ∀ a ∈ activities, |value a| ≤ size a.amounts := by
    intro a _
    rcases hvalue a with h | h | h
    · rw [h, abs_zero]
      exact size_nonneg _
    · exact abs_le_size h
    · rw [← abs_neg]
      exact abs_le_size h
  constructor
  · refine multiple_sum (fun q hq => ?_)
    obtain ⟨a, ha, rfl⟩ := List.mem_map.mp hq
    have hbrought : ∀ q ∈ a.amounts, ∃ m : ℤ, q = m / 10 ^ k := fun q hq =>
      hunits q (List.mem_flatMap.mpr ⟨a, hkept.subset ha, hq⟩)
    rcases hvalue a with h | h | h
    · exact ⟨0, by simp [h]⟩
    · exact hbrought _ h
    · simpa using multiple_neg (hbrought _ h)
  · calc |(kept.map value).sum| ≤ size (kept.map value) := abs_sum_le_size _
      _ ≤ size (activities.map value) := size_sublist (hkept.map value)
      _ ≤ size (activities.flatMap Activity.amounts) := size_map_le hsize

theorem newOnes_sublist (ids : List Json.Key) (l : List Activity) :
    (newOnes ids l).Sublist l := by
  induction l generalizing ids with
  | nil => exact List.Sublist.refl _
  | cons a l ih =>
    unfold newOnes
    split
    · exact (ih _).cons a
    · split
      · exact (ih _).cons a
      · exact (ih _).cons_cons a

/-- **The amounts of an exact loop** are sums over the activities that were
new. -/
theorem tallied_amounts (rules : TextRules) (actions : List CorporateAction)
    (l : List Activity) :
    (tallied id rules actions l).fillCash
        = ((newOnes [] l).map (fun a => a.contribution.fillCash)).sum
      ∧ (tallied id rules actions l).cash
        = ((newOnes [] l).map (fun a => a.contribution.cash)).sum
      ∧ (tallied id rules actions l).fees
        = ((newOnes [] l).map (fun a => a.contribution.fees)).sum
      ∧ (tallied id rules actions l).income
        = ((newOnes [] l).map (fun a => a.contribution.income)).sum
      ∧ ∀ symbol, quantityOf (tallied id rules actions l).inventory symbol
        = ((newOnes [] l).map (fun a => a.held symbol)).sum := by
  have htotals := Tally.foldl_book_totals (unsupportedActivityIssue rules actions) Tally.empty l
  have hshown := Tally.foldl_book_shown (unsupportedActivityIssue rules actions) Tally.empty l
  -- an effect is summed figure by figure
  have hsum : ∀ l : List Activity,
      ((l.map Activity.contribution).sum.fillCash
          = (l.map (fun a => a.contribution.fillCash)).sum
        ∧ (l.map Activity.contribution).sum.cash = (l.map (fun a => a.contribution.cash)).sum
        ∧ (l.map Activity.contribution).sum.fees = (l.map (fun a => a.contribution.fees)).sum
        ∧ (l.map Activity.contribution).sum.income
          = (l.map (fun a => a.contribution.income)).sum)
      ∧ ∀ symbol, (l.map Activity.effect).sum.2 symbol = (l.map (fun a => a.held symbol)).sum := by
    intro l
    induction l with
    | nil => simp
    | cons a l ih =>
      obtain ⟨⟨hfill, hcash, hfees, hincome⟩, hheld⟩ := ih
      simp [hfill, hcash, hfees, hincome, hheld, Activity.effect]
  obtain ⟨⟨hfill, hcash, hfees, hincome⟩, hheld⟩ := hsum (newOnes [] l)
  have hempty : Tally.empty.totals + ((newOnes [] l).map Activity.contribution).sum
      = ((newOnes [] l).map Activity.contribution).sum := zero_add _
  change (tallied id rules actions l).totals = _ at htotals
  change (tallied id rules actions l).shown = _ at hshown
  rw [show Tally.empty.ids = [] from rfl, hempty] at htotals
  refine ⟨?_, ?_, ?_, ?_, fun symbol => ?_⟩
  · exact (congrArg Contribution.fillCash htotals).trans hfill
  · exact (congrArg Contribution.cash htotals).trans hcash
  · exact (congrArg Contribution.fees htotals).trans hfees
  · exact (congrArg Contribution.income htotals).trans hincome
  · have hquantity := congrFun (congrArg Prod.snd hshown) symbol
    rw [← hheld symbol]
    simpa [Tally.shown, Tally.empty, quantityOf] using hquantity

/-- Amounts that fit are summed exactly. -/
theorem decimalSum_of_fits {digits : ℕ} {amounts : List ℚ}
    (hunits : ∀ q ∈ amounts, ∃ m : ℤ, q = m / 10 ^ k)
    (hbound : size amounts * 10 ^ k < 10 ^ digits) :
    decimalSum (roundDigits digits) amounts = amounts.sum := by
  have hroom : (|(0 : ℚ)| + (amounts.map (fun q => |q|)).sum + 0) * 10 ^ k < 10 ^ digits := by
    rw [abs_zero, zero_add, add_zero]
    exact hbound
  have hsum := (foldl_round_eq (fun q => q) ⟨0, by simp⟩ hunits le_rfl hroom).1
  rw [zero_add, List.map_id'] at hsum
  exact hsum

/-- The broker's quantity of a symbol is one of those it reports. -/
theorem AccountSnapshot.quantityOf_cases (snapshot : AccountSnapshot) (symbol : String) :
    snapshot.quantityOf symbol = 0
      ∨ ∃ p ∈ snapshot.positions, snapshot.quantityOf symbol = p.2.qty := by
  unfold AccountSnapshot.quantityOf
  cases hp : snapshot.positions.find? (fun p => p.1 == symbol) with
  | none => exact Or.inl rfl
  | some p => exact Or.inr ⟨p, List.mem_of_find?_eq_some hp, rfl⟩

/-- What the broker reports of its positions. -/
def AccountSnapshot.heldAmounts (snapshot : AccountSnapshot) : List ℚ :=
  snapshot.positions.flatMap (fun p => [p.2.qty, p.2.costBasis, p.2.unrealizedPl])

/-- **The amounts of a report are counted in a unit**, and the digits of a decimal have room
for all of them together. -/
structure Counted (digits k : ℕ) (activities : List Activity) (snapshot : AccountSnapshot) :
    Prop where
  brought : ∀ q ∈ activities.flatMap Activity.amounts, ∃ m : ℤ, q = m / 10 ^ k
  cash : ∃ m : ℤ, snapshot.cash = m / 10 ^ k
  held : ∀ q ∈ snapshot.heldAmounts, ∃ m : ℤ, q = m / 10 ^ k
  bound : (size (activities.flatMap Activity.amounts)
    + (|snapshot.cash| + size snapshot.heldAmounts)) * 10 ^ k < 10 ^ digits

theorem counted_of_fits {digits : ℕ} (h : Fits digits (reportAmounts activities snapshot)) :
    ∃ k, Counted digits k activities snapshot := by
  obtain ⟨k, hunits, hbound⟩ := h
  refine ⟨k, fun q hq => hunits q (List.mem_append_left _ hq),
    hunits _ (List.mem_append_right _ List.mem_cons_self),
    fun q hq => hunits q (List.mem_append_right _ (List.mem_cons_of_mem _ hq)), ?_⟩
  rw [reportAmounts, size_append] at hbound
  unfold size at hbound ⊢
  rw [List.map_cons, List.sum_cons] at hbound
  exact hbound

namespace Counted

variable {digits : ℕ} {rules : TextRules} {actions : List CorporateAction} {cashTolerance : ℚ}
  {value : Activity → ℚ} {figure : String × AccountPosition → ℚ}

/-- **Of a sum over activities nothing is rounded**, nor when something the broker reports is
added to it. -/
theorem round_sum_add (h : Counted digits k activities snapshot)
    (hvalue : ∀ a : Activity, a.Brings (value a)) (hkept : kept.Sublist activities) {y : ℚ}
    (hy : ∃ m : ℤ, y = m / 10 ^ k)
    (hle : |y| ≤ |snapshot.cash| + size snapshot.heldAmounts) :
    roundDigits digits ((kept.map value).sum + y) = (kept.map value).sum + y := by
  obtain ⟨hm, hsum⟩ := sum_amounts h.brought hvalue hkept
  refine roundDigits_of_bound (multiple_add hm hy) ((abs_add_le _ _).trans ?_) h.bound
  exact add_le_add hsum hle

theorem round_sum (h : Counted digits k activities snapshot)
    (hvalue : ∀ a : Activity, a.Brings (value a)) (hkept : kept.Sublist activities) :
    roundDigits digits (kept.map value).sum = (kept.map value).sum := by
  have hzero := h.round_sum_add hvalue hkept ⟨0, by simp⟩
    ((abs_zero (α := ℚ)).trans_le (add_nonneg (abs_nonneg _) (size_nonneg _)))
  rwa [add_zero] at hzero

/-- The figures of the positions. -/
theorem figures (h : Counted digits k activities snapshot)
    (figure : String × AccountPosition → ℚ)
    (hmem : ∀ p, figure p ∈ [p.2.qty, p.2.costBasis, p.2.unrealizedPl]) :
    (∀ q ∈ snapshot.positions.map figure, ∃ m : ℤ, q = m / 10 ^ k)
      ∧ size (snapshot.positions.map figure) ≤ size snapshot.heldAmounts := by
  refine ⟨fun q hq => ?_, size_map_le (fun p _ => abs_le_size (hmem p))⟩
  obtain ⟨p, hp, rfl⟩ := List.mem_map.mp hq
  exact h.held _ (List.mem_flatMap.mpr ⟨p, hp, hmem p⟩)

/-- They are summed exactly. -/
theorem decimalSum_figures (h : Counted digits k activities snapshot)
    (hmem : ∀ p, figure p ∈ [p.2.qty, p.2.costBasis, p.2.unrealizedPl]) :
    decimalSum (roundDigits digits) (snapshot.positions.map figure)
      = (snapshot.positions.map figure).sum := by
  obtain ⟨hm, hle⟩ := h.figures figure hmem
  refine decimalSum_of_fits hm (lt_of_le_of_lt (mul_le_mul_of_nonneg_right ?_ ?_) h.bound)
  · linarith [size_nonneg (activities.flatMap Activity.amounts), abs_nonneg snapshot.cash]
  · positivity

/-- The broker's quantity of a symbol. -/
theorem quantity (h : Counted digits k activities snapshot) (symbol : String) :
    (∃ m : ℤ, snapshot.quantityOf symbol = m / 10 ^ k)
      ∧ |snapshot.quantityOf symbol| ≤ size snapshot.heldAmounts := by
  rcases snapshot.quantityOf_cases symbol with hq | ⟨p, hp, hq⟩
  · rw [hq, abs_zero]
    exact ⟨⟨0, by simp⟩, size_nonneg _⟩
  · have hmem : p.2.qty ∈ snapshot.heldAmounts := List.mem_flatMap.mpr ⟨p, hp, by simp⟩
    rw [hq]
    exact ⟨h.held _ hmem, abs_le_size hmem⟩

theorem executions (h : Counted digits k activities snapshot) :
    ∀ a ∈ activities, a.Unrounded (roundDigits digits) := by
  intro a ha hkind f hf
  have hfixed : ∀ q ∈ [f.direction * f.qty, f.direction * f.qty * f.price],
      roundDigits digits q = q := by
    intro q hq
    have hmem : q ∈ activities.flatMap Activity.amounts := by
      refine List.mem_flatMap.mpr ⟨a, ha, ?_⟩
      simpa [Activity.amounts, hkind, hf, Json.isText] using hq
    refine roundDigits_of_bound (h.brought q hmem) ((abs_le_size hmem).trans ?_) h.bound
    exact le_add_of_nonneg_right (add_nonneg (abs_nonneg _) (size_nonneg _))
  exact ⟨hfixed _ (by simp), hfixed _ (by simp)⟩

/-- The running totals of the loop are sums over activities. -/
theorem loop (h : Counted digits k activities snapshot) {before : List Activity}
    (hbefore : before <+: activities) :
    (tallied id rules actions before).Unrounded (roundDigits digits) := by
  obtain ⟨hfill, hcash, hfees, hincome, hquantity⟩ := tallied_amounts rules actions before
  have hkept : (newOnes [] before).Sublist activities :=
    (newOnes_sublist _ _).trans hbefore.sublist
  refine ⟨?_, ?_, ?_, ?_, fun symbol => ?_⟩
  · rw [hfill]
    exact h.round_sum (fun a => a.contribution_amounts _ (by simp)) hkept
  · rw [hcash]
    exact h.round_sum (fun a => a.contribution_amounts _ (by simp)) hkept
  · rw [hfees]
    exact h.round_sum (fun a => a.contribution_amounts _ (by simp)) hkept
  · rw [hincome]
    exact h.round_sum (fun a => a.contribution_amounts _ (by simp)) hkept
  · rw [hquantity]
    exact h.round_sum (Activity.brings_held symbol) hkept

/-- The totals that are published: the costs of the positions, with the totals of the loop
added one after the other. -/
theorem published (h : Counted digits k activities snapshot) {gross : ℚ}
    (hgross : (reconcile id rules actions cashTolerance activities snapshot).grossRealized
      = some gross) :
    roundDigits digits gross = gross
      ∧ roundDigits digits (gross + (tallied id rules actions activities).fees)
        = gross + (tallied id rules actions activities).fees
      ∧ roundDigits digits (gross + (tallied id rules actions activities).fees
          + (tallied id rules actions activities).income)
        = gross + (tallied id rules actions activities).fees
          + (tallied id rules actions activities).income := by
  obtain ⟨hfill, -, hfees, hincome, -⟩ := tallied_amounts rules actions activities
  obtain ⟨hunits, hsize⟩ := h.figures (fun p => p.2.costBasis) (by simp)
  have hcost : |(snapshot.positions.map (fun p => p.2.costBasis)).sum|
      ≤ |snapshot.cash| + size snapshot.heldAmounts :=
    ((abs_sum_le_size _).trans hsize).trans (le_add_of_nonneg_left (abs_nonneg _))
  have hpublished : gross = (tallied id rules actions activities).fillCash
      + (snapshot.positions.map (fun p => p.2.costBasis)).sum := by
    unfold reconcile at hgross
    dsimp only at hgross
    split at hgross
    · rw [decimalSum_id] at hgross
      exact (Option.some.inj hgross).symm
    · cases hgross
  have hfixed : ∀ value : Activity → ℚ, (∀ a : Activity, a.Brings (value a)) →
      roundDigits digits (((newOnes [] activities).map value).sum
          + (snapshot.positions.map (fun p => p.2.costBasis)).sum)
        = ((newOnes [] activities).map value).sum
          + (snapshot.positions.map (fun p => p.2.costBasis)).sum :=
    fun value hvalue =>
      h.round_sum_add hvalue (newOnes_sublist _ _) (multiple_sum hunits) hcost
  have hsplit : ∀ f g : Activity → ℚ, ((newOnes [] activities).map (fun a => f a + g a)).sum
      = ((newOnes [] activities).map f).sum + ((newOnes [] activities).map g).sum :=
    fun f g => List.sum_map_add
  have htwo := hfixed (fun a => a.contribution.fillCash + a.contribution.fees)
    (fun a => a.contribution_amounts _ (by simp))
  have hthree := hfixed
    (fun a => a.contribution.fillCash + a.contribution.fees + a.contribution.income)
    (fun a => a.contribution_amounts _ (by simp))
  rw [hsplit] at htwo hthree
  rw [hsplit] at hthree
  rw [hpublished, hfill, hfees, hincome]
  refine ⟨hfixed _ (fun a => a.contribution_amounts _ (by simp)), ?_, ?_⟩
  · rw [add_right_comm]
    exact htwo
  · have hlast : ∀ a b c d : ℚ, a + d + b + c = a + b + c + d := fun a b c d => by ring
    rw [hlast]
    exact hthree

end Counted

/-- **A report whose amounts fit the decimal context is exact**, in any order of
the activities. -/
theorem exactReport_of_fits {digits : ℕ} (hdigits : 0 < digits) (rules : TextRules)
    (actions : List CorporateAction) (cashTolerance : ℚ)
    (h : Fits digits (reportAmounts activities snapshot)) :
    ExactReport (roundDigits digits) rules actions cashTolerance activities snapshot := by
  obtain ⟨k, hcounted⟩ := counted_of_fits h
  obtain ⟨-, hcash, -, -, hquantity⟩ := tallied_amounts rules actions activities
  refine
    { executions := hcounted.executions
      loop := fun before => hcounted.loop
      cash := ?_
      quantity := fun symbol => ?_
      holdings := fun p _ => roundDigits_nonpos_iff hdigits
      unrealized := hcounted.decimalSum_figures (by simp)
      published := fun gross hgross =>
        ⟨hcounted.decimalSum_figures (by simp), hcounted.published hgross⟩ }
  · rw [hcash, sub_eq_add_neg]
    refine hcounted.round_sum_add (fun a => a.contribution_amounts _ (by simp))
      (newOnes_sublist _ _) (multiple_neg hcounted.cash) ?_
    rw [abs_neg]
    exact le_add_of_nonneg_right (size_nonneg _)
  · obtain ⟨hunits, hle⟩ := hcounted.quantity symbol
    rw [hquantity symbol, sub_eq_add_neg]
    refine hcounted.round_sum_add (Activity.brings_held symbol) (newOnes_sublist _ _)
      (multiple_neg hunits) ?_
    rw [abs_neg]
    exact hle.trans (le_add_of_nonneg_left (abs_nonneg _))

end Fitting

/-! ## Activities that are objected to -/

/-- **An activity is reported invalid or unsupported** when the loop comes to it
after some others. -/
def ObjectedTo (round : ℚ → ℚ) (rules : TextRules) (actions : List CorporateAction)
    (before : List Activity) (a : Activity) : Prop :=
  ((tallied round rules actions before).book round (unsupportedActivityIssue rules actions)
      a).issues
    ≠ (tallied round rules actions before).issues

/-- The next activity with the identity of another. -/
def sameIdentity? (a : Activity) (after : List Activity) : Option Activity :=
  after.find? (fun b => decide (b.identityKey? = a.identityKey?))

/-- **When an activity that is objected to changes no total**: it has no
identity or one that an earlier activity has, or what was counted of it is what
the next activity with its identity would have added. -/
def Uncounted (before : List Activity) (a : Activity) (after : List Activity) : Prop :=
  a.identityKey? = none ∨ (∃ b ∈ before, b.identityKey? = a.identityKey?)
    ∨ ((a.leak, 0, 0, 0), 0) = (sameIdentity? a after).elim 0 Activity.effect

section Objections

variable {round : ℚ → ℚ} {rules : TextRules} {actions : List CorporateAction} {cashTolerance : ℚ}
  {snapshot : AccountSnapshot} {before after : List Activity} {a : Activity}

/-- It is so in any arithmetic. -/
theorem ObjectedTo.exact (h : ObjectedTo round rules actions before a) :
    ObjectedTo id rules actions before a := by
  have hbefore : (tallied round rules actions before).Alike (tallied id rules actions before) :=
    Tally.Alike.foldl _ ⟨rfl, rfl⟩ before
  have hbooked : ((tallied round rules actions before).book round
      (unsupportedActivityIssue rules actions) a).Alike
        ((tallied id rules actions before).book id (unsupportedActivityIssue rules actions) a) :=
    hbefore.book _
  unfold ObjectedTo at h ⊢
  rwa [hbefore.issues, hbooked.issues] at h

/-- It makes the report not ready. -/
theorem not_ready_of_objected (h : ObjectedTo round rules actions before a) :
    (reconcile round rules actions cashTolerance (before ++ a :: after) snapshot).ready
      = false := by
  rw [Bool.eq_false_iff]
  intro hready
  have hissues := (issues_of_ready hready).1
  have halike : (tallied round rules actions (before ++ a :: after)).Alike
      (tallied id rules actions (before ++ a :: after)) :=
    Tally.Alike.foldl _ ⟨rfl, rfl⟩ _
  unfold tallied at halike
  rw [halike.issues, List.foldl_append, List.foldl_cons] at hissues
  have hrest := Tally.foldl_book_issues (unsupportedActivityIssue rules actions)
    ((tallied id rules actions before).book id (unsupportedActivityIssue rules actions) a) after
  have hturn := (tallied id rules actions before).book_issues
    (unsupportedActivityIssue rules actions) a
  unfold tallied at hrest hturn
  rw [hissues, List.prefix_nil] at hrest
  rw [hrest, List.prefix_nil] at hturn
  exact h.exact (hrest.trans hturn.symm)

/-- What the loop shows with it and without it. -/
theorem shown_objected (h : ObjectedTo id rules actions before a) :
    (tallied id rules actions (before ++ a :: after)).shown
        = (tallied id rules actions (before ++ after)).shown
      ↔ Uncounted before a after := by
  unfold tallied
  rw [List.foldl_append, List.foldl_append, List.foldl_cons]
  show (after.foldl _ ((tallied id rules actions before).book id _ a)).shown
    = (after.foldl _ (tallied id rules actions before)).shown ↔ _
  -- what the activity is compared with is the identities that were noted before it
  have hids : ∀ key, key ∈ (tallied id rules actions before).ids
      ↔ ∃ b ∈ before, b.identityKey? = some key := fun key => mem_ids_tallied
  unfold ObjectedTo at h
  generalize tallied id rules actions before = t at h hids ⊢
  rw [Tally.foldl_book_shown, Tally.foldl_book_shown]
  rw [Tally.book_eq] at h ⊢
  unfold Uncounted
  cases hkey : a.identityKey? with
  | none => simp [Tally.invalid, Tally.issue, Tally.shown]
  | some key =>
    rw [hkey] at h
    dsimp only at h ⊢
    by_cases hmem : key ∈ t.ids
    · rw [if_pos hmem]
      have hbefore : ∃ b ∈ before, b.identityKey? = some key := (hids key).mp hmem
      simp [Tally.invalid, Tally.issue, Tally.shown, hbefore]
    · rw [if_neg hmem] at h ⊢
      have hbefore : ¬∃ b ∈ before, b.identityKey? = some key := by
        intro hb
        exact hmem ((hids key).mpr hb)
      have hobjection : a.objection (unsupportedActivityIssue rules actions) ≠ none := by
        intro hnone
        apply h
        show t.issues ++ (a.objection (unsupportedActivityIssue rules actions)).toList = t.issues
        rw [hnone]
        exact List.append_nil _
      -- it is new: what it leaks stands against what the next of its identity would add
      rw [Tally.shown_added, Activity.effect_of_objection hobjection, add_assoc]
      show t.shown + (_ + ((newOnes (t.ids ++ [key]) after).map Activity.effect).sum) = _ ↔ _
      rw [add_right_inj]
      simp only [reduceCtorEq, hbefore, false_or]
      unfold sameIdentity?
      rw [hkey]
      rcases newOnes_noted hmem after with ⟨hf, hn⟩ | ⟨b, ahead, behind, hf, hn, hn'⟩
      · rw [hf, hn, add_eq_right]
        rfl
      · rw [hf, hn, hn', List.map_append, List.map_append, List.map_cons, List.sum_append,
          List.sum_append, List.sum_cons, add_left_comm, add_right_inj, add_left_inj]
        rfl

/-- **In exact arithmetic the totals are those of the list without it** exactly
when the two ways in which it can change them do not happen, or cancel. -/
theorem sameTotals_objected_iff (h : ObjectedTo id rules actions before a) :
    LedgerReport.SameTotals
        (reconcile id rules actions cashTolerance (before ++ a :: after) snapshot)
        (reconcile id rules actions cashTolerance (before ++ after) snapshot)
      ↔ Uncounted before a after := by
  rw [sameTotals_iff]
  exact shown_objected h

end Objections

/-! ## Activities that are skipped -/

/-- **An activity is skipped**: it has no identity or one that an earlier activity
has, or it keeps no later activity out and is no execution whose cash is counted
before its symbol is noticed. -/
def Skipped (before : List Activity) (a : Activity) (after : List Activity) : Prop :=
  a.identityKey? = none ∨ (∃ b ∈ before, b.identityKey? = a.identityKey?)
    ∨ (a.leak = 0 ∧ sameIdentity? a after = none)

section Skipping

variable {round : ℚ → ℚ} {rules : TextRules} {actions : List CorporateAction} {cashTolerance : ℚ}
  {snapshot : AccountSnapshot} {unsupported : Json → Activity → String} {t : Tally}
  {before after : List Activity} {a : Activity}

/-- An execution that passes its checks costs something. -/
theorem Activity.fill?_cost {f : FillFields} (h : a.fill? = some f) :
    f.direction * f.qty * f.price ≠ 0 := by
  obtain ⟨-, -, side, -, hdirection⟩ := fill?_eq_some h
  have hsign : f.direction ≠ 0 := by
    rcases hdirection with ⟨-, hd⟩ | ⟨-, hd⟩ <;> simp [hd]
  unfold fill? at h
  simp only [Option.bind_eq_bind, Option.bind_eq_some_iff] at h
  obtain ⟨qty, -, price, -, side, -, symbol, -, h⟩ := h
  split at h
  · cases h
  · rename_i hchecks
    rw [not_or, not_or, not_le, not_le] at hchecks
    obtain ⟨hqty, hprice, -⟩ := hchecks
    simp only [Option.bind_eq_some_iff] at h
    obtain ⟨direction, -, slash, -, h⟩ := h
    split at h
    · cases h
    · cases h
      exact mul_ne_zero (mul_ne_zero hsign hqty.ne') hprice.ne'

/-- Without such a leak, what is objected to changed no amount. -/
theorem Tally.bookKind_sameAmounts {kind : Json} (hkind : a.get? "activity_type" = some kind)
    (hleak : a.leak = 0) (h : (t.bookKind round unsupported a kind).issues ≠ t.issues) :
    t.SameAmounts (t.bookKind round unsupported a kind) := by
  have hrefl := SameAmounts.refl t
  unfold bookKind at h ⊢
  split
  · rename_i text
    dsimp only at h
    split
    · rename_i hfill
      rw [if_pos hfill] at h
      unfold bookFill at h ⊢
      cases hf : a.fill? with
      | none => exact hrefl.with _ _ _ _
      | some f =>
        -- a text would not be objected to, and anything else would leak
        rw [hf] at h
        dsimp only at h
        cases hsymbol : f.symbol with
        | str symbol =>
          rw [hsymbol] at h
          exact absurd rfl h
        | _ =>
          refine absurd ?_ (Activity.fill?_cost hf)
          simpa [Activity.leak, hkind, hfill, Json.isText, hf, Option.filter, FillFields.symbol?,
            hsymbol] using hleak
    · rename_i hfill
      rw [if_neg hfill] at h
      split
      · rename_i hcash
        rw [if_pos hcash] at h
        unfold bookCash at h ⊢
        cases ha : a.cashAmount? text with
        | none => exact hrefl.with _ _ _ _
        | some amount =>
          rw [ha] at h
          exact absurd rfl h
      · exact hrefl.with _ _ _ _
  · exact hrefl.with _ _ _ _
  · exact hrefl.with _ _ _ _
  · exact hrefl.with _ _ _ _

/-- Nor did it as a turn, where the leak is that of an activity with a new identity. -/
theorem Tally.book_sameAmounts (h : (t.book round unsupported a).issues ≠ t.issues)
    (hleak : ∀ key, a.identityKey? = some key → key ∉ t.ids → a.leak = 0) :
    t.SameAmounts (t.book round unsupported a) := by
  have hrefl := SameAmounts.refl t
  rw [book_eq_bookKind] at h ⊢
  cases hkey : a.identityKey? with
  | none => exact hrefl.with _ _ _ _
  | some key =>
    rw [hkey] at h
    dsimp only at h ⊢
    by_cases hmem : key ∈ t.ids
    · rw [if_pos hmem]
      exact hrefl.with _ _ _ _
    · rw [if_neg hmem] at h ⊢
      have hnoted : t.SameAmounts { t with ids := t.ids ++ [key] } := hrefl.with _ _ _ _
      cases hkind : a.get? "activity_type" with
      | none => exact hrefl.with _ _ _ _
      | some kind =>
        rw [hkind] at h
        exact hnoted.trans (bookKind_sameAmounts hkind (hleak key hkey hmem) h)

/-- **The loop counts the same without what it skips**, in any arithmetic. -/
theorem tallied_skipped (h : ObjectedTo round rules actions before a)
    (hskipped : Skipped before a after) :
    (tallied round rules actions (before ++ a :: after)).SameAmounts
      (tallied round rules actions (before ++ after)) := by
  have hids : ∀ key, key ∈ (tallied round rules actions before).ids
      ↔ ∃ b ∈ before, b.identityKey? = some key := fun key => mem_ids_tallied
  unfold ObjectedTo at h
  unfold tallied at h hids ⊢
  rw [List.foldl_append, List.foldl_append, List.foldl_cons]
  generalize before.foldl _ Tally.empty = t at h hids ⊢
  have hturn := Tally.book_sameAmounts h (fun key hkey hnew => by
    rcases hskipped with hnone | hearlier | ⟨hleak, -⟩
    · rw [hkey] at hnone
      cases hnone
    · rw [hkey] at hearlier
      exact absurd ((hids key).mpr hearlier) hnew
    · exact hleak)
  -- the identity that was noted is that of no later activity, or was there before
  refine hturn.symm.foldl after (fun b hb key hkey => ?_)
  rw [Tally.mem_ids_book, or_iff_left_iff_imp]
  intro hsame
  rcases hskipped with hnone | hearlier | ⟨-, hlater⟩
  · rw [hsame] at hnone
    cases hnone
  · rw [hsame] at hearlier
    exact (hids key).mpr hearlier
  · have hdiffer := List.find?_eq_none.mp hlater b hb
    rw [hkey, hsame] at hdiffer
    simp at hdiffer

/-- **The totals are those of the list without it**, in any arithmetic. -/
theorem sameTotals_skipped (h : ObjectedTo round rules actions before a)
    (hskipped : Skipped before a after) :
    LedgerReport.SameTotals
      (reconcile round rules actions cashTolerance (before ++ a :: after) snapshot)
      (reconcile round rules actions cashTolerance (before ++ after) snapshot) := by
  have hamounts := tallied_skipped h hskipped
  unfold tallied at hamounts
  refine ⟨hamounts.fills, ?_, hamounts.fees, hamounts.income, ?_⟩
  · exact congrArg (fun cash => round (cash - snapshot.cash)) hamounts.cash
  · exact List.Perm.of_eq (congrArg (quantityDeltas round · snapshot) hamounts.inventory)

end Skipping

/-- **The order of the activities does not matter, and what is objected to is not
counted.** A permutation of the activities is ready when they are, with the same
totals and the same profit, as long as no amount is rounded in either. An
activity that is reported invalid or unsupported makes the report not ready; the
totals are those of the list without it when it is skipped, and also, as long as
no amount is rounded, when what was counted of it – nothing, but for an execution
whose symbol is a list or an object – is what the next activity with its identity
would have added. -/
theorem reconcile_order_and_objections (round : ℚ → ℚ) (rules : TextRules)
    (actions : List CorporateAction) (cashTolerance : ℚ) (snapshot : AccountSnapshot) :
    (∀ l l' : List Activity, l.Perm l' →
      ExactReport round rules actions cashTolerance l snapshot →
      ExactReport round rules actions cashTolerance l' snapshot →
      (reconcile round rules actions cashTolerance l' snapshot).ready
          = (reconcile round rules actions cashTolerance l snapshot).ready
        ∧ ((reconcile round rules actions cashTolerance l snapshot).ready = true →
          LedgerReport.SameTotals (reconcile round rules actions cashTolerance l snapshot)
              (reconcile round rules actions cashTolerance l' snapshot)
            ∧ (reconcile round rules actions cashTolerance l' snapshot).grossRealized
              = (reconcile round rules actions cashTolerance l snapshot).grossRealized
            ∧ (reconcile round rules actions cashTolerance l' snapshot).netRealized
              = (reconcile round rules actions cashTolerance l snapshot).netRealized))
      ∧ ∀ before a after, ObjectedTo round rules actions before a →
        (reconcile round rules actions cashTolerance (before ++ a :: after) snapshot).ready
            = false
          ∧ (Skipped before a after →
            LedgerReport.SameTotals
              (reconcile round rules actions cashTolerance (before ++ a :: after) snapshot)
              (reconcile round rules actions cashTolerance (before ++ after) snapshot))
          ∧ (ExactReport round rules actions cashTolerance (before ++ a :: after) snapshot →
            ExactReport round rules actions cashTolerance (before ++ after) snapshot →
            Uncounted before a after →
            LedgerReport.SameTotals
              (reconcile round rules actions cashTolerance (before ++ a :: after) snapshot)
              (reconcile round rules actions cashTolerance (before ++ after) snapshot)) := by
  refine ⟨fun l l' hp hl hl' => ?_,
    fun before a after h => ⟨not_ready_of_objected h, sameTotals_skipped h, ?_⟩⟩
  · rw [hl.eq, hl'.eq]
    refine ⟨?_, fun h => ?_⟩
    · rw [Bool.eq_iff_iff]
      exact ⟨ready_of_perm hp.symm, ready_of_perm hp⟩
    · obtain ⟨hclean, -⟩ := reconcile_ready_iff.mp h
      refine ⟨sameTotals_iff.mpr (hclean.shown_perm hp), ?_, ?_⟩
      · rw [(published_of_ready h).1, (published_of_ready (ready_of_perm hp h)).1,
          hclean.totals_perm hp]
      · rw [(published_of_ready h).2, (published_of_ready (ready_of_perm hp h)).2,
          hclean.totals_perm hp]
  · intro hl hl' huncounted
    -- exact reports are those of exact arithmetic, where sums are permuted
    rw [hl.eq, hl'.eq]
    exact (sameTotals_objected_iff h.exact).mpr huncounted

/-! ### A deposit that is rounded away, a basket, and a split -/

/-- A deposit or withdrawal. -/
def sampleFlow (id kind amount : String) : Activity :=
  [("id", .str id), ("activity_type", .str kind), ("net_amount", .str amount)]

/-- An account that holds half a dollar. -/
def sampleHalf : AccountSnapshot where
  accountId := "acct"
  cash := 1 / 2
  positions := []
  observedAt := .aware 10
  identified := sampleSnapshot.identified
  distinct := List.nodup_nil

/-- A purchase whose symbol is a list. -/
def sampleBasket : Activity :=
  [("id", .str "a-3"), ("activity_type", .str "FILL"), ("qty", .str "2"),
    ("price", .str "100.5"), ("side", .str "buy"), ("symbol", .list [.str "SPY"]),
    ("order_id", .str "o-1"), ("transaction_time", .str "2026-01-02T15:00:00Z")]

/-- An activity of an unsupported kind, under the identity of the deposit. -/
def sampleSplit : Activity :=
  [("id", .str "a-1"), ("activity_type", .str "SPLIT"), ("symbol", .str "SPY")]

/-- Half a dollar on top of `10²⁸` is rounded away, and so is missing when that
is withdrawn again; in another order the report is ready. And the basket is
objected to and its cash is counted; the split is objected to and the deposit
after it is not counted. -/
theorem order_and_objections_matter :
    ([sampleFlow "a-1" "CSD" "1e28", sampleFlow "a-3" "CSW" "-1e28",
          sampleFlow "a-2" "CSD" "0.5"].Perm
        [sampleFlow "a-1" "CSD" "1e28", sampleFlow "a-2" "CSD" "0.5",
          sampleFlow "a-3" "CSW" "-1e28"]
      ∧ (reconcile (roundDigits 28) sampleRules [] (1 / 100)
        [sampleFlow "a-1" "CSD" "1e28", sampleFlow "a-3" "CSW" "-1e28",
          sampleFlow "a-2" "CSD" "0.5"] sampleHalf).ready = true
      ∧ (reconcile (roundDigits 28) sampleRules [] (1 / 100)
        [sampleFlow "a-1" "CSD" "1e28", sampleFlow "a-2" "CSD" "0.5",
          sampleFlow "a-3" "CSW" "-1e28"] sampleHalf).ready = false)
      ∧ (ObjectedTo (roundDigits 28) sampleRules [] [] sampleBasket
        ∧ ¬LedgerReport.SameTotals
          (reconcile (roundDigits 28) sampleRules [] (1 / 100) [sampleBasket] sampleSnapshot)
          (reconcile (roundDigits 28) sampleRules [] (1 / 100) [] sampleSnapshot))
      ∧ ObjectedTo (roundDigits 28) sampleRules [] [] sampleSplit
        ∧ ¬LedgerReport.SameTotals
          (reconcile (roundDigits 28) sampleRules [] (1 / 100) [sampleSplit, sampleDeposit]
            sampleSnapshot)
          (reconcile (roundDigits 28) sampleRules [] (1 / 100) [sampleDeposit]
            sampleSnapshot) := by
  refine ⟨⟨(List.Perm.swap _ _ []).cons _, by decide +kernel, by decide +kernel⟩,
    ⟨fun h => ?_, fun h => ?_⟩, fun h => ?_, fun h => ?_⟩
  · exact absurd (congrArg List.length h) (by decide +kernel)
  · exact absurd h.cashDelta (by decide +kernel)
  · exact absurd (congrArg List.length h) (by decide +kernel)
  · exact absurd h.cashDelta (by decide +kernel)

/-- After the deposit the split only repeats its identity. The basket counts what
the withdrawal with its identity would have. -/
theorem reconcile_order_and_objections_sample :
    (reconcile (roundDigits 28) sampleRules [] (1 / 100) [samplePurchase, sampleDeposit]
        sampleSnapshot).ready = true
      ∧ (reconcile (roundDigits 28) sampleRules [] (1 / 100)
        [sampleDeposit, sampleSplit, samplePurchase] sampleSnapshot).ready = false
      ∧ LedgerReport.SameTotals
        (reconcile (roundDigits 28) sampleRules [] (1 / 100)
          [sampleDeposit, sampleSplit, samplePurchase] sampleSnapshot)
        (reconcile (roundDigits 28) sampleRules [] (1 / 100) [sampleDeposit, samplePurchase]
          sampleSnapshot)
      ∧ LedgerReport.SameTotals
        (reconcile (roundDigits 28) sampleRules [] (1 / 100)
          [sampleBasket, sampleFlow "a-3" "CSW" "-201"] sampleSnapshot)
        (reconcile (roundDigits 28) sampleRules [] (1 / 100) [sampleFlow "a-3" "CSW" "-201"]
          sampleSnapshot) := by
  have hexact : ∀ l, Fits 28 (reportAmounts l sampleSnapshot) →
      ExactReport (roundDigits 28) sampleRules [] (1 / 100) l sampleSnapshot :=
    fun l => exactReport_of_fits (by decide) sampleRules [] (1 / 100)
  have hpurchased := hexact [sampleDeposit, samplePurchase]
    (fits_of_den 0 (by decide +kernel) (by decide +kernel))
  have hreversed := hexact [samplePurchase, sampleDeposit]
    (fits_of_den 0 (by decide +kernel) (by decide +kernel))
  have hbasket := hexact [sampleBasket, sampleFlow "a-3" "CSW" "-201"]
    (fits_of_den 0 (by decide +kernel) (by decide +kernel))
  have hwithdrawn := hexact [sampleFlow "a-3" "CSW" "-201"]
    (fits_of_den 0 (by decide +kernel) (by decide +kernel))
  obtain ⟨horder, hobjected⟩ :=
    reconcile_order_and_objections (roundDigits 28) sampleRules [] (1 / 100) sampleSnapshot
  obtain ⟨hnot, hskipped, -⟩ := hobjected [sampleDeposit] sampleSplit [samplePurchase]
    (fun h => absurd (congrArg List.length h) (by decide +kernel))
  obtain ⟨-, -, huncounted⟩ := hobjected [] sampleBasket [sampleFlow "a-3" "CSW" "-201"]
    (fun h => absurd (congrArg List.length h) (by decide +kernel))
  refine ⟨?_, hnot, hskipped (Or.inr (Or.inl ⟨sampleDeposit, List.mem_cons_self, rfl⟩)),
    huncounted hbasket hwithdrawn (Or.inr (Or.inr ?_))⟩
  · rw [(horder _ _ (List.Perm.swap samplePurchase sampleDeposit []) hpurchased hreversed).1]
    decide +kernel
  · have hnext : sameIdentity? sampleBasket [sampleFlow "a-3" "CSW" "-201"]
        = some (sampleFlow "a-3" "CSW" "-201") :=
      List.find?_cons_of_pos (by decide +kernel)
    have hshares : (sampleFlow "a-3" "CSW" "-201").shares = none := by decide +kernel
    rw [hnext]
    refine Prod.ext (by decide +kernel) (funext fun symbol => ?_)
    simp [Activity.effect, Activity.held, hshares]

end AgenticTrader
