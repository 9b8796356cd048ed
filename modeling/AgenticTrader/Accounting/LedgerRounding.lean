import AgenticTrader.Accounting.Turns

/-!
# Reconciling in a decimal context

What a reconciliation objects to in its activities does not depend on the
arithmetic, nor does it that a turn adds the same to the same amounts. The amounts
do: `Decimal` rounds the result of every operation to
the context. A report is the one of exact arithmetic when no operation changes
its result (`ExactReport.eq`): the loop is then the exact loop turn by turn,
and the comparison and the totals are computed from the same amounts.
-/

namespace AgenticTrader

/-! ## What does not depend on the arithmetic -/

/-- Two tallies with the same issues and the same identities. -/
structure Tally.Alike (t t' : Tally) : Prop where
  issues : t.issues = t'.issues
  ids : t.ids = t'.ids

section Alike

variable {round round' : ℚ → ℚ} {t t' : Tally} {a : Activity}

theorem Tally.Alike.issue (h : t.Alike t') (i : Issue) : (t.issue i).Alike (t'.issue i) :=
  ⟨congrArg (· ++ [i]) h.issues, h.ids⟩

theorem Tally.Alike.bookFill (h : t.Alike t') :
    (t.bookFill round a).Alike (t'.bookFill round' a) := by
  unfold Tally.bookFill
  cases a.fill? with
  | none => exact h.issue _
  | some f =>
    dsimp only
    split
    · exact ⟨h.issues, h.ids⟩
    · exact ⟨congrArg (· ++ [_]) h.issues, h.ids⟩

theorem Tally.Alike.bookCash (h : t.Alike t') (kind : String) :
    (t.bookCash round a kind).Alike (t'.bookCash round' a kind) := by
  unfold Tally.bookCash
  cases a.cashAmount? kind with
  | none => exact h.issue _
  | some amount => exact ⟨h.issues, h.ids⟩

theorem Tally.Alike.book (unsupported : Json → Activity → String) (h : t.Alike t') :
    (t.book round unsupported a).Alike (t'.book round' unsupported a) := by
  unfold Tally.book
  cases a.get? "id" with
  | none => exact h.issue _
  | some id =>
    dsimp only
    split
    · exact h.issue _
    · cases id.key? with
      | none => exact h.issue _
      | some key =>
        dsimp only
        rw [h.ids]
        split
        · exact h.issue _
        -- the identity is noted in both, whatever becomes of the activity
        · have hnoted : Tally.Alike { t with ids := t'.ids ++ [key] }
              { t' with ids := t'.ids ++ [key] } := ⟨h.issues, rfl⟩
          cases a.get? "activity_type" with
          | none => exact hnoted.issue _
          | some kind =>
            dsimp only
            unfold Tally.bookKind
            split
            · split
              · exact hnoted.bookFill
              · split
                · exact hnoted.bookCash _
                · exact hnoted.issue _
            · exact hnoted.issue _
            · exact hnoted.issue _
            · exact hnoted.issue _

/-- **A loop objects to the same activities in any arithmetic.** -/
theorem Tally.Alike.foldl (unsupported : Json → Activity → String) (h : t.Alike t')
    (l : List Activity) :
    (l.foldl (Tally.book round unsupported) t).Alike
      (l.foldl (Tally.book round' unsupported) t') := by
  induction l generalizing t t' with
  | nil => exact h
  | cons a l ih => exact ih (h.book unsupported)

end Alike

/-! ## Amounts that are the same -/

/-- Two tallies with the same amounts. -/
structure Tally.SameAmounts (t t' : Tally) : Prop where
  inventory : t.inventory = t'.inventory
  fillCash : t.fillCash = t'.fillCash
  cash : t.cash = t'.cash
  fees : t.fees = t'.fees
  income : t.income = t'.income
  fills : t.fills = t'.fills

section SameAmounts

variable {round : ℚ → ℚ} {unsupported : Json → Activity → String} {t t' : Tally} {a : Activity}

theorem Tally.SameAmounts.refl (t : Tally) : t.SameAmounts t := ⟨rfl, rfl, rfl, rfl, rfl, rfl⟩

theorem Tally.SameAmounts.symm (h : t.SameAmounts t') : t'.SameAmounts t :=
  ⟨h.inventory.symm, h.fillCash.symm, h.cash.symm, h.fees.symm, h.income.symm, h.fills.symm⟩

theorem Tally.SameAmounts.trans {t'' : Tally} (h : t.SameAmounts t')
    (h' : t'.SameAmounts t'') : t.SameAmounts t'' :=
  ⟨h.inventory.trans h'.inventory, h.fillCash.trans h'.fillCash, h.cash.trans h'.cash,
    h.fees.trans h'.fees, h.income.trans h'.income, h.fills.trans h'.fills⟩

/-- What is objected to and noted is no amount. -/
theorem Tally.SameAmounts.with (h : t.SameAmounts t') (issues issues' : List Issue)
    (ids ids' : List Json.Key) :
    Tally.SameAmounts { t with issues := issues, ids := ids }
      { t' with issues := issues', ids := ids' } :=
  ⟨h.inventory, h.fillCash, h.cash, h.fees, h.income, h.fills⟩

theorem Tally.SameAmounts.bookFill (h : t.SameAmounts t') :
    (t.bookFill round a).SameAmounts (t'.bookFill round a) := by
  unfold Tally.bookFill
  cases a.fill? with
  | none => exact h.with _ _ _ _
  | some f =>
    dsimp only
    rw [h.inventory, h.fillCash, h.cash, h.fills]
    split
    · exact ⟨rfl, rfl, rfl, h.fees, h.income, rfl⟩
    · exact ⟨rfl, rfl, rfl, h.fees, h.income, rfl⟩

theorem Tally.SameAmounts.bookCash (h : t.SameAmounts t') (kind : String) :
    (t.bookCash round a kind).SameAmounts (t'.bookCash round a kind) := by
  unfold Tally.bookCash
  cases a.cashAmount? kind with
  | none => exact h.with _ _ _ _
  | some amount =>
    dsimp only
    rw [h.cash, h.fees, h.income]
    exact ⟨h.inventory, h.fillCash, rfl, rfl, rfl, h.fills⟩

theorem Tally.SameAmounts.bookKind (h : t.SameAmounts t') (kind : Json) :
    (t.bookKind round unsupported a kind).SameAmounts
      (t'.bookKind round unsupported a kind) := by
  unfold Tally.bookKind
  split
  · split
    · exact h.bookFill
    · split
      · exact h.bookCash _
      · exact h.with _ _ _ _
  · exact h.with _ _ _ _
  · exact h.with _ _ _ _
  · exact h.with _ _ _ _

/-- **One turn in any arithmetic**: an activity with a new identity is noted, and
booked by its kind. -/
theorem Tally.book_eq_bookKind :
    t.book round unsupported a
      = match a.identityKey? with
        | none => t.invalid
        | some key =>
          if key ∈ t.ids then t.invalid
          else (a.get? "activity_type").elim (invalid { t with ids := t.ids ++ [key] })
            (bookKind round unsupported { t with ids := t.ids ++ [key] } a) := by
  unfold book Activity.identityKey?
  cases a.get? "id" with
  | none => rfl
  | some id =>
    cases htruthy : id.truthy with
    | false => simp [htruthy]
    | true =>
      cases hkey : id.key? with
      | none => simp [htruthy, hkey]
      | some key =>
        cases a.get? "activity_type" with
        | none => simp [htruthy, hkey]
        | some kind => simp [htruthy, hkey]

/-- A turn adds the same to the same amounts, where the identity is new to both. -/
theorem Tally.SameAmounts.book (h : t.SameAmounts t')
    (hids : ∀ key, a.identityKey? = some key → (key ∈ t.ids ↔ key ∈ t'.ids)) :
    (t.book round unsupported a).SameAmounts (t'.book round unsupported a) := by
  rw [book_eq_bookKind, book_eq_bookKind]
  cases hkey : a.identityKey? with
  | none => exact h.with _ _ _ _
  | some key =>
    dsimp only
    by_cases hmem : key ∈ t.ids
    · rw [if_pos hmem, if_pos ((hids key hkey).mp hmem)]
      exact h.with _ _ _ _
    · rw [if_neg hmem, if_neg (mt (hids key hkey).mpr hmem)]
      cases a.get? "activity_type" with
      | none => exact h.with _ _ _ _
      | some kind => exact (h.with _ _ _ _).bookKind kind

/-- The identities after a turn, in any arithmetic. -/
theorem Tally.mem_ids_book {key : Json.Key} :
    key ∈ (t.book round unsupported a).ids ↔ key ∈ t.ids ∨ a.identityKey? = some key := by
  have halike : (t.book round unsupported a).Alike (t.book id unsupported a) :=
    Tally.Alike.book unsupported ⟨rfl, rfl⟩
  rw [halike.ids]
  simpa using mem_ids_foldl_book unsupported t [a] key

/-- **Loops over the same activities add the same to the same amounts**, where
every identity is new to both or to neither. -/
theorem Tally.SameAmounts.foldl (h : t.SameAmounts t') (l : List Activity)
    (hids : ∀ a ∈ l, ∀ key, a.identityKey? = some key → (key ∈ t.ids ↔ key ∈ t'.ids)) :
    (l.foldl (Tally.book round unsupported) t).SameAmounts
      (l.foldl (Tally.book round unsupported) t') := by
  induction l generalizing t t' with
  | nil => exact h
  | cons a l ih =>
    refine ih (h.book (hids a List.mem_cons_self)) (fun b hb key hkey => ?_)
    rw [mem_ids_book, mem_ids_book, hids b (List.mem_cons_of_mem _ hb) key hkey]

end SameAmounts

/-! ## The loop -/

/-- The loop of a reconciliation. -/
def tallied (round : ℚ → ℚ) (rules : TextRules) (actions : List CorporateAction)
    (l : List Activity) : Tally :=
  l.foldl (Tally.book round (unsupportedActivityIssue rules actions)) Tally.empty

/-- The identities it notes are those of its activities. -/
theorem mem_ids_tallied {round : ℚ → ℚ} {rules : TextRules} {actions : List CorporateAction}
    {l : List Activity} {key : Json.Key} :
    key ∈ (tallied round rules actions l).ids ↔ ∃ a ∈ l, a.identityKey? = some key := by
  have halike : (tallied round rules actions l).Alike (tallied id rules actions l) :=
    Tally.Alike.foldl _ ⟨rfl, rfl⟩ l
  rw [halike.ids]
  unfold tallied
  rw [Tally.mem_ids_foldl_book]
  simp [Tally.empty]

/-- **The amounts of an execution are not rounded.** -/
def Activity.Unrounded (round : ℚ → ℚ) (a : Activity) : Prop :=
  a.get? "activity_type" = some (.str "FILL") → ∀ f, a.fill? = some f →
    round (f.direction * f.qty) = f.direction * f.qty
      ∧ round (f.direction * f.qty * f.price) = f.direction * f.qty * f.price

/-- **The amounts of a tally are not rounded.** -/
structure Tally.Unrounded (round : ℚ → ℚ) (t : Tally) : Prop where
  fillCash : round t.fillCash = t.fillCash
  cash : round t.cash = t.cash
  fees : round t.fees = t.fees
  income : round t.income = t.income
  inventory : ∀ symbol, round (quantityOf t.inventory symbol) = quantityOf t.inventory symbol

section Loop

variable {round : ℚ → ℚ} {t : Tally} {a : Activity}

theorem addQuantity_unrounded {symbol : String} {delta : ℚ} {inventory : List (String × ℚ)}
    (h : round (quantityOf (addQuantity id symbol delta inventory) symbol)
      = quantityOf (addQuantity id symbol delta inventory) symbol) :
    addQuantity round symbol delta inventory = addQuantity id symbol delta inventory := by
  rw [quantityOf_addQuantity, if_pos rfl] at h
  induction inventory with
  | nil =>
    have hdelta : round delta = delta := by simpa [quantityOf] using h
    simp [addQuantity, hdelta]
  | cons i rest ih =>
    unfold addQuantity
    by_cases hi : i.1 = symbol
    · have hsum : round (i.2 + delta) = i.2 + delta := by simpa [quantityOf, hi] using h
      rw [if_pos hi, if_pos hi, hsum]
      rfl
    · rw [if_neg hi, if_neg hi, ih]
      simpa [quantityOf, hi] using h

theorem Tally.bookFill_unrounded (hkind : a.get? "activity_type" = some (.str "FILL"))
    (ha : a.Unrounded round) (h : (t.bookFill id a).Unrounded round) :
    t.bookFill round a = t.bookFill id a := by
  cases hf : a.fill? with
  | none => simp only [bookFill, hf]
  | some f =>
    obtain ⟨hmoved, hcost⟩ := ha hkind f hf
    have hfill := h.fillCash
    have hcash := h.cash
    have hinventory := h.inventory
    simp only [bookFill, hf, id_eq] at hfill hcash hinventory
    simp only [bookFill, hf, hmoved, hcost, id_eq]
    cases hsymbol : f.symbol with
    | str symbol =>
      simp only [hsymbol] at hfill hcash hinventory
      simp only [hfill, hcash, addQuantity_unrounded (hinventory symbol)]
    | _ =>
      simp only [hsymbol, invalid, issue] at hfill hcash
      simp only [hfill, hcash]

theorem Tally.bookCash_unrounded {kind : String} (h : (t.bookCash id a kind).Unrounded round) :
    t.bookCash round a kind = t.bookCash id a kind := by
  cases ha : a.cashAmount? kind with
  | none => simp only [bookCash, ha]
  | some amount =>
    have hcash := h.cash
    have hfees := h.fees
    have hincome := h.income
    simp only [bookCash, ha, id_eq] at hcash hfees hincome
    simp only [bookCash, ha, hcash, id_eq]
    congr 1
    · split
      · rename_i hkind
        rwa [if_pos hkind] at hfees
      · rfl
    · split
      · rename_i hkind
        rwa [if_pos hkind] at hincome
      · rfl

/-- **A turn that rounds nothing is the exact one.** -/
theorem Tally.book_unrounded (unsupported : Json → Activity → String) (ha : a.Unrounded round)
    (h : (t.book id unsupported a).Unrounded round) :
    t.book round unsupported a = t.book id unsupported a := by
  -- the branches are those of the turn; only an execution and a cash activity compute
  unfold book at h ⊢
  cases hid : a.get? "id" with
  | none => rfl
  | some id =>
    rw [hid] at h
    dsimp only at h ⊢
    split
    · rfl
    · rename_i htruthy
      rw [if_neg htruthy] at h
      cases hkey : id.key? with
      | none => rfl
      | some key =>
        rw [hkey] at h
        dsimp only at h ⊢
        split
        · rfl
        · rename_i hnew
          rw [if_neg hnew] at h
          cases hkind : a.get? "activity_type" with
          | none => rfl
          | some kind =>
            rw [hkind] at h
            dsimp only at h ⊢
            unfold bookKind at h ⊢
            split
            · split
              · rename_i hfill
                dsimp only at h
                rw [if_pos hfill] at h
                subst hfill
                exact bookFill_unrounded hkind ha h
              · rename_i hfill
                dsimp only at h
                rw [if_neg hfill] at h
                split
                · rename_i hcash
                  rw [if_pos hcash] at h
                  exact bookCash_unrounded h
                · rfl
            · rfl
            · rfl
            · rfl

/-- **A loop that rounds nothing is the exact one.** -/
theorem Tally.foldl_unrounded (unsupported : Json → Activity → String) {l : List Activity}
    (ha : ∀ a ∈ l, a.Unrounded round)
    (h : ∀ before, before <+: l → (before.foldl (book id unsupported) t).Unrounded round) :
    l.foldl (book round unsupported) t = l.foldl (book id unsupported) t := by
  induction l generalizing t with
  | nil => rfl
  | cons a l ih =>
    have hturn := h [a] ((List.prefix_cons_inj a).mpr (List.nil_prefix))
    rw [List.foldl_cons, List.foldl_cons,
      book_unrounded unsupported (ha a List.mem_cons_self) hturn]
    refine ih (fun b hb => ha b (List.mem_cons_of_mem _ hb)) (fun before hbefore => ?_)
    exact h (a :: before) ((List.prefix_cons_inj a).mpr hbefore)

end Loop

/-! ## The report -/

/-- **No operation of a reconciliation changes its result**: the products and
the running totals of the loop, the comparison with the broker, and the totals
that are published. Of the product of a holding only the sign is read. -/
structure ExactReport (round : ℚ → ℚ) (rules : TextRules) (actions : List CorporateAction)
    (cashTolerance : ℚ) (activities : List Activity) (snapshot : AccountSnapshot) : Prop where
  executions : ∀ a ∈ activities, a.Unrounded round
  loop : ∀ before, before <+: activities → (tallied id rules actions before).Unrounded round
  cash : round ((tallied id rules actions activities).cash - snapshot.cash)
    = (tallied id rules actions activities).cash - snapshot.cash
  quantity : ∀ symbol, round (quantityOf (tallied id rules actions activities).inventory symbol
      - snapshot.quantityOf symbol)
    = quantityOf (tallied id rules actions activities).inventory symbol
      - snapshot.quantityOf symbol
  holdings : ∀ p ∈ snapshot.positions,
    round (p.2.qty * p.2.costBasis) ≤ 0 ↔ p.2.qty * p.2.costBasis ≤ 0
  unrealized : decimalSum round (snapshot.positions.map (·.2.unrealizedPl))
    = (snapshot.positions.map (·.2.unrealizedPl)).sum
  published : ∀ gross,
    (reconcile id rules actions cashTolerance activities snapshot).grossRealized = some gross →
      decimalSum round (snapshot.positions.map (·.2.costBasis))
          = (snapshot.positions.map (·.2.costBasis)).sum
        ∧ round gross = gross
        ∧ round (gross + (tallied id rules actions activities).fees)
          = gross + (tallied id rules actions activities).fees
        ∧ round (gross + (tallied id rules actions activities).fees
            + (tallied id rules actions activities).income)
          = gross + (tallied id rules actions activities).fees
            + (tallied id rules actions activities).income

section Report

variable {round : ℚ → ℚ} {rules : TextRules} {actions : List CorporateAction}
  {cashTolerance : ℚ} {activities : List Activity} {snapshot : AccountSnapshot}

/-- The loop is the exact one. -/
theorem ExactReport.tallied
    (h : ExactReport round rules actions cashTolerance activities snapshot) :
    AgenticTrader.tallied round rules actions activities
      = AgenticTrader.tallied id rules actions activities :=
  Tally.foldl_unrounded _ h.executions h.loop

/-- So is the comparison with the broker. -/
theorem ExactReport.comparison
    (h : ExactReport round rules actions cashTolerance activities snapshot) :
    quantityDeltas round (AgenticTrader.tallied id rules actions activities).inventory snapshot
        = quantityDeltas id (AgenticTrader.tallied id rules actions activities).inventory snapshot
      ∧ comparisonIssues round (AgenticTrader.tallied id rules actions activities) snapshot
          cashTolerance
        = comparisonIssues id (AgenticTrader.tallied id rules actions activities) snapshot
          cashTolerance := by
  have hdeltas : quantityDeltas round
        (AgenticTrader.tallied id rules actions activities).inventory snapshot
      = quantityDeltas id (AgenticTrader.tallied id rules actions activities).inventory
        snapshot := by
    simp only [quantityDeltas, h.quantity, id_eq]
  have hholdings : snapshot.positions.any (·.2.unsupported round)
      = snapshot.positions.any (·.2.unsupported id) := by
    have hheld : ∀ p ∈ snapshot.positions, p.2.unsupported round = p.2.unsupported id := by
      intro p hp
      unfold AccountPosition.unsupported
      rw [decide_eq_decide.mpr (h.holdings p hp)]
      rfl
    rw [Bool.eq_iff_iff, List.any_eq_true, List.any_eq_true]
    exact exists_congr (fun p => and_congr_right (fun hp => by rw [hheld p hp]))
  refine ⟨hdeltas, ?_⟩
  simp only [comparisonIssues, hdeltas, hholdings, h.cash, id_eq]

/-- **A report whose operations round nothing is the one of exact
arithmetic.** -/
theorem ExactReport.eq
    (h : ExactReport round rules actions cashTolerance activities snapshot) :
    reconcile round rules actions cashTolerance activities snapshot
      = reconcile id rules actions cashTolerance activities snapshot := by
  have hloop := h.tallied
  obtain ⟨hdeltas, hissues⟩ := h.comparison
  have hunrealized := h.unrealized.trans (decimalSum_id _).symm
  have hcash := h.cash
  have hpublished := h.published
  unfold AgenticTrader.tallied at hloop hdeltas hissues hcash hpublished
  unfold reconcile at hpublished ⊢
  dsimp only at hpublished ⊢
  rw [hloop, hdeltas, hissues, hunrealized, hcash]
  split
  · rename_i hempty
    rw [if_pos hempty] at hpublished
    obtain ⟨hbasis, hgross, hfees, hincome⟩ := hpublished _ rfl
    rw [← decimalSum_id] at hbasis
    rw [hbasis]
    simp only [id_eq] at hgross hfees hincome
    simp only [Option.map_some, id_eq, hgross, hfees, hincome]
  · simp only [Option.map_none, id_eq]

end Report

end AgenticTrader
