import AgenticTrader.Alpha.PooledLane
import AgenticTrader.Alpha.RegistryConsistency
import Mathlib.Data.Set.Card

/-!
# The accounts of the pooled lane

The counters of the lane, of the families and of the confirmation list live
under separate keys, and every call writes some of them. `PooledAccounts` is
what a database says of the lane, and `PooledBalanced` what its accounts agree on: a
family's count is the number of formulas charged to it, and the lane's counts
are the numbers of formulas, campaigns and intervals. Each call is one
transaction, so it is enough that each leaves the accounts balanced.

What a campaign looks at is on the trace: a score follows the charge of its
formula, and an opened window the consumption of its interval, by whichever
process and after whatever crash.
-/

namespace AgenticTrader

open AlphaDb

/-! ## Accounts -/

/-- **The accounts of the lane.** -/
@[ext]
structure PooledAccounts where
  campaigns : String → Option Campaign
  families : String × String → Option FamilyBudget
  formulas : String × String → Option FormulaCharge
  counts : PooledCounts
  intervals : List ConfirmationInterval

/-- What a database says of the lane. -/
def AlphaDb.accounts (db : AlphaDb) : PooledAccounts where
  campaigns c := db.get (.campaign c)
  families k := db.get (.campaignFamily k.1 k.2)
  formulas k := db.get (.formula k.1 k.2)
  counts := db.pooledCounts
  intervals := db.confirmations

/-- The two intervals share no day. -/
def ConfirmationInterval.Apart (i j : ConfirmationInterval) : Prop :=
  ∀ day, ¬ ((i.startOn ≤ day ∧ day ≤ i.endOn) ∧ j.startOn ≤ day ∧ day ≤ j.endOn)

/-- **The campaign may not run again.** -/
def Campaign.Closed (c : Campaign) : Prop :=
  .confirmationConsumed ∈ c.stages ∨ c.status = .completed

/-- The formulas charged to a family of a campaign. -/
def PooledAccounts.charged (a : PooledAccounts) (campaignId familyId : String) : Set String :=
  {id | ∃ x, a.formulas (campaignId, id) = some x ∧ x.family = familyId}

/-- **The accounts agree.** -/
structure PooledBalanced (a : PooledAccounts) : Prop where
  /-- A family's count is the number of its formulas, and within its budget. -/
  families : ∀ c f b, a.families (c, f) = some b →
    b.charged ≤ b.budget ∧ (a.charged c f).encard = b.charged
  /-- A charged formula's family has a budget. -/
  budgeted : ∀ c id x, a.formulas (c, id) = some x → (a.families (c, x.family)).isSome = true
  formulas : {k | (a.formulas k).isSome = true}.encard = a.counts.formulasCharged
  campaigns : {c | (a.campaigns c).isSome = true}.encard = a.counts.campaigns
  intervals : a.intervals.length = a.counts.confirmations
  apart : a.intervals.Pairwise ConfirmationInterval.Apart
  /-- A campaign that completed may not run again. -/
  closed : ∀ c r, a.campaigns c = some r → .completed ∈ r.stages → r.Closed

/-- The window's interval was consumed by the campaign. -/
def WindowSpent (a : PooledAccounts) (c : String) (startOn endOn : ℤ) : Prop :=
  ∃ i ∈ a.intervals, i.campaignId = c ∧ i.startOn = startOn ∧ i.endOn = endOn

/-- **What later accounts keep**: the charges, the intervals, and that a
campaign may not run again. -/
structure AccountsKept (a a' : PooledAccounts) : Prop where
  formulas : ∀ k, (a.formulas k).isSome = true → (a'.formulas k).isSome = true
  intervals : a.intervals <+: a'.intervals
  closed : ∀ c r, a.campaigns c = some r → r.Closed →
    ∃ r', a'.campaigns c = some r' ∧ r'.Closed

section Accounts

variable {a a' a'' : PooledAccounts}

theorem AccountsKept.refl (a : PooledAccounts) : AccountsKept a a :=
  ⟨fun _ h => h, List.prefix_rfl, fun _ r hr hc => ⟨r, hr, hc⟩⟩

theorem AccountsKept.trans (h : AccountsKept a a') (h' : AccountsKept a' a'') :
    AccountsKept a a'' := by
  refine ⟨fun k hs => h'.formulas k (h.formulas k hs), h.intervals.trans h'.intervals,
    fun c r hr hc => ?_⟩
  obtain ⟨r', hr', hc'⟩ := h.closed c r hr hc
  exact h'.closed c r' hr' hc'

/-- What has a value after an entry is written. -/
theorem isSome_update {κ α : Type} [DecidableEq κ] (f : κ → Option α) (k : κ) (v : α) :
    {k' | (Function.update f k (some v) k').isSome = true}
      = insert k {k' | (f k').isSome = true} := by
  ext k'
  by_cases h : k' = k
  · subst h
    simp
  · simp [h]

/-- **A campaign is opened.** -/
theorem PooledBalanced.open (h : PooledBalanced a) {c : String} {r : Campaign}
    (hnew : a.campaigns c = none) (hr : .completed ∉ r.stages) :
    PooledBalanced { a with
        campaigns := Function.update a.campaigns c (some r)
        counts := { a.counts with campaigns := a.counts.campaigns + 1 } }
      ∧ AccountsKept a { a with
        campaigns := Function.update a.campaigns c (some r)
        counts := { a.counts with campaigns := a.counts.campaigns + 1 } } := by
  refine ⟨{ h with campaigns := ?_, closed := fun c' r' hr' hc => ?_ }, ?_⟩
  · rw [isSome_update, Set.encard_insert_of_notMem (by simp [hnew]), h.campaigns]
    simp
  · dsimp only at hr'
    by_cases he : c' = c
    · subst he
      rw [Function.update_self] at hr'
      cases hr'
      exact absurd hc hr
    · rw [Function.update_of_ne he] at hr'
      exact h.closed c' r' hr' hc
  · refine ⟨fun _ hs => hs, List.prefix_rfl, fun c' r' hr' hc => ⟨r', ?_, hc⟩⟩
    have he : c' ≠ c := by
      rintro rfl
      rw [hnew] at hr'
      cases hr'
    dsimp only
    rw [Function.update_of_ne he]
    exact hr'

/-- **A family gets its budget**: no formula was charged to it. -/
theorem PooledBalanced.budget (h : PooledBalanced a) {c f : String}
    (hnew : a.families (c, f) = none) (budget : ℕ) :
    PooledBalanced { a with families := Function.update a.families (c, f) (some ⟨budget, 0⟩) }
      ∧ AccountsKept a
        { a with families := Function.update a.families (c, f) (some ⟨budget, 0⟩) } := by
  have hempty : a.charged c f = ∅ := by
    refine Set.eq_empty_of_forall_notMem fun id hid => ?_
    obtain ⟨x, hx, rfl⟩ := hid
    have hs := h.budgeted c id x hx
    rw [hnew] at hs
    cases hs
  refine ⟨{ h with families := fun c' f' b hb => ?_, budgeted := fun c' id x hx => ?_ },
    fun _ hs => hs, List.prefix_rfl, fun _ r hr hc => ⟨r, hr, hc⟩⟩
  · dsimp only at hb
    by_cases he : (c', f') = (c, f)
    · rw [he, Function.update_self] at hb
      cases hb
      cases he
      show _ ∧ (a.charged c f).encard = _
      rw [hempty]
      exact ⟨Nat.zero_le _, by simp⟩
    · rw [Function.update_of_ne he] at hb
      exact h.families c' f' b hb
  · dsimp only at hx ⊢
    by_cases he : (c', x.family) = (c, f)
    · rw [he, Function.update_self]
      rfl
    · rw [Function.update_of_ne he]
      exact h.budgeted c' id x hx

/-- The formulas of a family after a charge. -/
theorem charged_update {c id c' f' : String} {x : FormulaCharge}
    (hnew : a.formulas (c, id) = none) (families : String × String → Option FamilyBudget)
    (counts : PooledCounts) :
    PooledAccounts.charged { a with
        formulas := Function.update a.formulas (c, id) (some x)
        families := families
        counts := counts } c' f'
      = if (c', f') = (c, x.family) then insert id (a.charged c' f') else a.charged c' f' := by
  ext id'
  show (∃ y, Function.update a.formulas (c, id) (some x) (c', id') = some y ∧ y.family = f') ↔ _
  by_cases he : (c', id') = (c, id)
  · cases he
    rw [Function.update_self]
    by_cases hf : f' = x.family
    · subst hf
      simp
    · rw [if_neg (by simpa using hf)]
      constructor
      · rintro ⟨y, hy, rfl⟩
        cases hy
        exact absurd rfl hf
      · rintro ⟨y, hy, -⟩
        rw [hnew] at hy
        cases hy
  · rw [Function.update_of_ne he]
    split
    · rename_i hf
      cases hf
      have hid : id' ≠ id := by
        rintro rfl
        exact he rfl
      rw [Set.mem_insert_iff, or_iff_right hid]
      rfl
    · rfl

/-- **A formula is charged** to a family with budget left. -/
theorem PooledBalanced.charge (h : PooledBalanced a) {c id : String} {x : FormulaCharge}
    {family : FamilyBudget} (hnew : a.formulas (c, id) = none)
    (hfam : a.families (c, x.family) = some family) (hlt : family.charged < family.budget) :
    PooledBalanced { a with
        formulas := Function.update a.formulas (c, id) (some x)
        families := Function.update a.families (c, x.family)
          (some { family with charged := family.charged + 1 })
        counts := { a.counts with formulasCharged := a.counts.formulasCharged + 1 } }
      ∧ AccountsKept a { a with
        formulas := Function.update a.formulas (c, id) (some x)
        families := Function.update a.families (c, x.family)
          (some { family with charged := family.charged + 1 })
        counts := { a.counts with formulasCharged := a.counts.formulasCharged + 1 } } := by
  obtain ⟨-, hcount⟩ := h.families c x.family family hfam
  have hid : id ∉ a.charged c x.family := by
    rintro ⟨y, hy, -⟩
    rw [hnew] at hy
    cases hy
  refine ⟨{ h with
      families := fun c' f' b hb => ?_
      budgeted := fun c' id' y hy => ?_
      formulas := ?_ },
    fun k hs => ?_, List.prefix_rfl, fun _ r hr hc => ⟨r, hr, hc⟩⟩
  · dsimp only at hb
    rw [charged_update hnew]
    by_cases he : (c', f') = (c, x.family)
    · rw [if_pos he]
      rw [he, Function.update_self] at hb
      cases hb
      cases he
      rw [Set.encard_insert_of_notMem hid, hcount]
      exact ⟨hlt, by simp⟩
    · rw [if_neg he]
      rw [Function.update_of_ne he] at hb
      exact h.families c' f' b hb
  · dsimp only at hy ⊢
    by_cases hf : (c', y.family) = (c, x.family)
    · rw [hf, Function.update_self]
      rfl
    · rw [Function.update_of_ne hf]
      have hne : (c', id') ≠ (c, id) := by
        intro hk
        rw [hk, Function.update_self] at hy
        cases hy
        cases hk
        exact hf rfl
      rw [Function.update_of_ne hne] at hy
      exact h.budgeted c' id' y hy
  · rw [isSome_update, Set.encard_insert_of_notMem (by simp [hnew]), h.formulas]
    simp
  · dsimp only
    by_cases he : k = (c, id)
    · rw [he, Function.update_self]
      rfl
    · rw [Function.update_of_ne he]
      exact hs

/-- **A campaign's record is written anew**, and stays closed. -/
theorem PooledBalanced.stage (h : PooledBalanced a) {c : String} {r r' : Campaign}
    (hr : a.campaigns c = some r) (hclosed : .completed ∈ r'.stages → r'.Closed)
    (hkept : r.Closed → r'.Closed) :
    PooledBalanced { a with campaigns := Function.update a.campaigns c (some r') }
      ∧ AccountsKept a { a with campaigns := Function.update a.campaigns c (some r') } := by
  refine ⟨{ h with campaigns := ?_, closed := fun c' r₁ hr₁ hc => ?_ }, fun _ hs => hs,
    List.prefix_rfl, fun c' r₁ hr₁ hc => ?_⟩
  · rw [isSome_update, Set.insert_eq_of_mem (by simp [hr])]
    exact h.campaigns
  · dsimp only at hr₁
    by_cases he : c' = c
    · subst he
      rw [Function.update_self] at hr₁
      cases hr₁
      exact hclosed hc
    · rw [Function.update_of_ne he] at hr₁
      exact h.closed c' r₁ hr₁ hc
  · dsimp only
    by_cases he : c' = c
    · subst he
      rw [hr] at hr₁
      cases hr₁
      exact ⟨r', Function.update_self .., hkept hc⟩
    · exact ⟨r₁, by rw [Function.update_of_ne he]; exact hr₁, hc⟩

/-- **An interval is consumed** that is apart from the others. -/
theorem PooledBalanced.confirm (h : PooledBalanced a) {i : ConfirmationInterval}
    (hi : ∀ j ∈ a.intervals, j.Apart i) :
    PooledBalanced { a with
        intervals := a.intervals ++ [i]
        counts := { a.counts with confirmations := a.counts.confirmations + 1 } }
      ∧ AccountsKept a { a with
        intervals := a.intervals ++ [i]
        counts := { a.counts with confirmations := a.counts.confirmations + 1 } } := by
  refine ⟨{ h with intervals := ?_, apart := ?_ }, fun _ hs => hs, List.prefix_append _ _,
    fun _ r hr hc => ⟨r, hr, hc⟩⟩
  · dsimp only
    rw [List.length_append, h.intervals]
    rfl
  · dsimp only
    rw [List.pairwise_append]
    refine ⟨h.apart, List.pairwise_singleton _ _, fun j hj i' hi' => ?_⟩
    rw [List.mem_singleton.mp hi']
    exact hi j hj

end Accounts

/-! ## What the calls do to the accounts -/

section

variable {db db' : AlphaDb}

/-- A write off the lane. -/
theorem accounts_congr (hget : ∀ k, k.ofPooled = true → db'.get k = db.get k) :
    db'.accounts = db.accounts := by
  unfold AlphaDb.accounts AlphaDb.pooledCounts AlphaDb.confirmations
  simp only [hget (.campaign _) rfl, hget (.campaignFamily _ _) rfl, hget (.formula _ _) rfl,
    hget .pooledLedger rfl, hget .pooledConfirmation rfl]

theorem accounts_campaign (db : AlphaDb) (c : String) (r : Campaign) :
    (db.append (.campaign c) r).accounts
      = { db.accounts with campaigns := Function.update db.accounts.campaigns c (some r) } := by
  ext1
  · funext c'
    show (db.append (.campaign c) r).get (.campaign c')
      = Function.update db.accounts.campaigns c (some r) c'
    by_cases h : c' = c
    · subst h
      simp
    · rw [Function.update_of_ne h, get_append_ne _ _ (by simpa using h)]
      rfl
  all_goals simp [AlphaDb.accounts, AlphaDb.pooledCounts, AlphaDb.confirmations]

theorem accounts_family (db : AlphaDb) (c f : String) (b : FamilyBudget) :
    (db.append (.campaignFamily c f) b).accounts
      = { db.accounts with families := Function.update db.accounts.families (c, f) (some b) } := by
  ext1
  case families =>
    funext k
    show (db.append (.campaignFamily c f) b).get (.campaignFamily k.1 k.2)
      = Function.update db.accounts.families (c, f) (some b) k
    by_cases h : k = (c, f)
    · subst h
      simp
    · have hne : AlphaKey.campaignFamily k.1 k.2 ≠ .campaignFamily c f := by
        intro he
        simp only [AlphaKey.campaignFamily.injEq] at he
        exact h (Prod.ext he.1 he.2)
      rw [Function.update_of_ne h, get_append_ne _ _ hne]
      rfl
  all_goals simp [AlphaDb.accounts, AlphaDb.pooledCounts, AlphaDb.confirmations]

theorem accounts_formula (db : AlphaDb) (c id : String) (x : FormulaCharge) :
    (db.append (.formula c id) x).accounts
      = { db.accounts with formulas := Function.update db.accounts.formulas (c, id) (some x) } := by
  ext1
  case formulas =>
    funext k
    show (db.append (.formula c id) x).get (.formula k.1 k.2)
      = Function.update db.accounts.formulas (c, id) (some x) k
    by_cases h : k = (c, id)
    · subst h
      simp
    · have hne : AlphaKey.formula k.1 k.2 ≠ .formula c id := by
        intro he
        simp only [AlphaKey.formula.injEq] at he
        exact h (Prod.ext he.1 he.2)
      rw [Function.update_of_ne h, get_append_ne _ _ hne]
      rfl
  all_goals simp [AlphaDb.accounts, AlphaDb.pooledCounts, AlphaDb.confirmations]

theorem accounts_pooledCount (db : AlphaDb) (count : PooledCounts → PooledCounts) :
    (db.pooledCount count).accounts
      = { db.accounts with counts := count db.accounts.counts } := by
  ext1
  all_goals simp [AlphaDb.accounts, AlphaDb.pooledCount, AlphaDb.pooledCounts,
    AlphaDb.confirmations]

theorem accounts_confirmations (db : AlphaDb) (l : List ConfirmationInterval) :
    (db.append .pooledConfirmation l).accounts = { db.accounts with intervals := l } := by
  ext1
  all_goals simp [AlphaDb.accounts, AlphaDb.pooledCounts, AlphaDb.confirmations]

theorem accounts_charged (db : AlphaDb) (c id : String) (x : FormulaCharge)
    (family : FamilyBudget) :
    (db.charged c id x family).accounts = { db.accounts with
      formulas := Function.update db.accounts.formulas (c, id) (some x)
      families := Function.update db.accounts.families (c, x.family)
        (some { family with charged := family.charged + 1 })
      counts := { db.accounts.counts with
        formulasCharged := db.accounts.counts.formulasCharged + 1 } } := by
  unfold AlphaDb.charged
  rw [accounts_pooledCount, accounts_family, accounts_formula]

theorem accounts_confirmed (db : AlphaDb) (c : String) (campaign : Campaign)
    (item : ConfirmationInterval) :
    (db.confirmed c campaign item).accounts = { db.accounts with
      campaigns := Function.update db.accounts.campaigns c
        (some (campaign.staged .confirmationConsumed))
      intervals := db.accounts.intervals ++ [item]
      counts := { db.accounts.counts with
        confirmations := db.accounts.counts.confirmations + 1 } } := by
  unfold AlphaDb.confirmed
  rw [accounts_pooledCount, accounts_campaign, accounts_confirmations]
  rfl

theorem staged_mem (r : Campaign) (status : CampaignStatus) {s : CampaignStatus} :
    s ∈ (r.staged status).stages ↔ s ∈ r.stages ∨ s = status := by
  unfold Campaign.staged
  dsimp only
  split
  · rename_i hc
    constructor
    · exact Or.inl
    · rintro (hs | rfl)
      · exact hs
      · simpa using hc
  · simp

/-- **What a call leaves**: a table the journal projects to, and balanced
accounts that keep what they should. -/
structure PooledStep (db db' : AlphaDb) : Prop where
  faithful : db'.store.Faithful
  balanced : PooledBalanced db'.accounts
  kept : AccountsKept db.accounts db'.accounts

theorem PooledStep.refl (hf : db.store.Faithful) (h : PooledBalanced db.accounts) :
    PooledStep db db :=
  ⟨hf, h, .refl _⟩

theorem reservePooledCampaign_step (hf : db.store.Faithful) (h : PooledBalanced db.accounts)
    {c : String} {pins : CampaignPins} {r : Campaign}
    (hr : db.reservePooledCampaign c pins = .ok (db', r)) : PooledStep db db' := by
  unfold AlphaDb.reservePooledCampaign at hr
  split at hr
  · simp only [refuse_bind_eq_ok, Except.ok.injEq, Prod.mk.injEq] at hr
    obtain ⟨-, -, rfl, -⟩ := hr
    exact .refl hf h
  · rename_i hnone
    cases hr
    obtain ⟨hb, hk⟩ := h.open (r := ⟨pins, .reserved, [.reserved]⟩) hnone (by simp)
    refine ⟨(hf.append _ _).append _ _, ?_, ?_⟩ <;> rw [accounts_pooledCount, accounts_campaign]
    · exact hb
    · exact hk

theorem reservePooledFamily_step (hf : db.store.Faithful) (h : PooledBalanced db.accounts)
    {c f : String} {budget : ℤ} (hr : db.reservePooledFamily c f budget = .ok db') :
    PooledStep db db' := by
  unfold AlphaDb.reservePooledFamily at hr
  simp only [refuse_bind_eq_ok] at hr
  obtain ⟨-, -, hr⟩ := hr
  split at hr
  · split at hr
    · cases hr
    · cases hr
      exact .refl hf h
  · rename_i hnone
    cases hr
    obtain ⟨hb, hk⟩ := h.budget hnone budget.toNat
    refine ⟨hf.append _ _, ?_, ?_⟩ <;> rw [accounts_family]
    · exact hb
    · exact hk

/-- **A charge that returns**: its formula is charged. -/
theorem chargePooledFormula_step (hf : db.store.Faithful) (h : PooledBalanced db.accounts)
    {c f id expression : String} {nodes : ℕ} {now : Time} {fresh : Bool}
    (hr : db.chargePooledFormula c f id expression nodes now = .ok (db', fresh)) :
    PooledStep db db' ∧ (db'.accounts.formulas (c, id)).isSome = true := by
  unfold AlphaDb.chargePooledFormula at hr
  split at hr
  · rename_i existing he
    split at hr
    · cases hr
    · cases hr
      refine ⟨.refl hf h, ?_⟩
      show (db.get (.formula c id)).isSome = true
      rw [he]
      rfl
  · rename_i hnew
    split at hr
    · cases hr
    · rename_i family hfam
      simp only [refuse_bind_eq_ok, Except.ok.injEq, Prod.mk.injEq] at hr
      obtain ⟨hlt, rfl, -⟩ := hr
      obtain ⟨hb, hk⟩ := h.charge (x := ⟨f, expression, nodes, now⟩) hnew hfam
        (by simpa using hlt)
      refine ⟨⟨((hf.append _ _).append _ _).append _ _, ?_, ?_⟩, ?_⟩ <;> rw [accounts_charged]
      · exact hb
      · exact hk
      · simp

theorem advancePooledCampaign_step (hf : db.store.Faithful) (h : PooledBalanced db.accounts)
    {c : String} {status : CampaignStatus}
    (hr : db.advancePooledCampaign c status = .ok db') : PooledStep db db' := by
  unfold AlphaDb.advancePooledCampaign at hr
  split at hr
  · cases hr
  · rename_i existing he
    simp only [refuse_bind_eq_ok, Except.ok.injEq] at hr
    obtain ⟨hopen, rfl⟩ := hr
    have hopen' : existing.status ≠ .completed := by simpa using hopen
    have hkept : existing.Closed → (existing.staged status).Closed := by
      rintro (hs | hs)
      · exact Or.inl ((staged_mem existing status).mpr (Or.inl hs))
      · exact absurd hs hopen'
    have hclosed : .completed ∈ (existing.staged status).stages →
        (existing.staged status).Closed := by
      intro hc
      rcases (staged_mem existing status).mp hc with hc | rfl
      · exact hkept (h.closed c existing he hc)
      · exact Or.inr rfl
    obtain ⟨hb, hk⟩ := h.stage he hclosed hkept
    refine ⟨hf.append _ _, ?_, ?_⟩ <;> rw [accounts_campaign]
    · exact hb
    · exact hk

/-- **A consumption that returns**: its interval is filed. -/
theorem consumePooledConfirmation_step (hf : db.store.Faithful) (h : PooledBalanced db.accounts)
    {c cohort : String} {startOn endOn : ℤ} {candidates : List String} {now : Time}
    (hr : db.consumePooledConfirmation c cohort startOn endOn candidates now = .ok db') :
    PooledStep db db' ∧ WindowSpent db'.accounts c startOn endOn := by
  unfold AlphaDb.consumePooledConfirmation at hr
  split at hr
  · cases hr
  · rename_i campaign hc
    split at hr
    · cases hr
    · rename_i hfind
      cases hr
      have hclosed : (campaign.staged .confirmationConsumed).Closed :=
        Or.inl ((staged_mem _ _).mpr (Or.inr rfl))
      have happ : ∀ j ∈ db.accounts.intervals,
          j.Apart ⟨startOn, endOn, c, cohort, candidates, now⟩ := by
        intro j hj day hday
        have hno := List.find?_eq_none.mp hfind j hj
        simp only [overlapsConfirmation, Bool.not_eq_true, Bool.not_eq_false',
          Bool.or_eq_true, decide_eq_true_eq] at hno
        dsimp only at hday
        omega
      obtain ⟨hs, hks⟩ := h.stage hc (fun _ => hclosed) (fun _ => hclosed)
      obtain ⟨hb, hkb⟩ := hs.confirm happ
      refine ⟨⟨((hf.append _ _).append _ _).append _ _, ?_, ?_⟩, ?_⟩ <;> rw [accounts_confirmed]
      · exact hb
      · exact hks.trans hkb
      · exact ⟨_, List.mem_append_right _ (List.mem_singleton_self _), rfl, rfl, rfl⟩

/-- A campaign that may not run again is not handed out. -/
theorem reservePooledCampaign_closed {c : String} {r : Campaign}
    (hr : db.accounts.campaigns c = some r) (hc : r.Closed) (pins : CampaignPins) :
    (db.reservePooledCampaign c pins).isOk = false := by
  unfold AlphaDb.reservePooledCampaign
  rw [show db.get (.campaign c) = some r from hr]
  have hclosed : (r.stages.contains .confirmationConsumed
      || decide (r.status = .completed)) = true := by
    rcases hc with hc | hc
    · simp [hc]
    · simp [hc]
  by_cases hp : r.pins = pins
  · simp only [hp, hclosed, refuse, Bind.bind, Except.bind, ne_eq, not_true_eq_false,
      decide_false, Bool.false_eq_true, if_false, if_true]
    rfl
  · simp only [hp, refuse, Bind.bind, Except.bind, ne_eq, not_false_eq_true, decide_true,
      if_true]
    rfl

/-! ## The processes -/

/-- **The invariant of the lane**: the accounts balance, and what was looked at
was charged or consumed. -/
structure PooledInv (db : AlphaDb) (t : List PooledMark) : Prop where
  faithful : db.store.Faithful
  balanced : PooledBalanced db.accounts
  scored : ∀ c id, .scored c id ∈ t → (db.accounts.formulas (c, id)).isSome = true
  opened : ∀ c startOn endOn, .opened c startOn endOn ∈ t →
    WindowSpent db.accounts c startOn endOn

/-- What a process knows where it is. -/
def WorkerKnows (a : PooledAccounts) : PooledWorker → Prop
  | .charged c id => (a.formulas (c, id)).isSome = true
  | .consumed c startOn endOn => WindowSpent a c startOn endOn
  | _ => True

theorem WindowSpent.kept {a a' : PooledAccounts} {c : String} {startOn endOn : ℤ}
    (h : WindowSpent a c startOn endOn) (hk : AccountsKept a a') :
    WindowSpent a' c startOn endOn := by
  obtain ⟨i, hi, hs⟩ := h
  exact ⟨i, hk.intervals.subset hi, hs⟩

theorem WorkerKnows.kept {a a' : PooledAccounts} {p : PooledWorker} (h : WorkerKnows a p)
    (hk : AccountsKept a a') : WorkerKnows a' p := by
  cases p with
  | charged c id => exact hk.formulas _ h
  | consumed c startOn endOn => exact WindowSpent.kept h hk
  | _ => exact trivial

/-- A call that returns, and leaves no mark. -/
theorem PooledStep.inv {t : List PooledMark} (hs : PooledStep db db') (h : PooledInv db t) :
    PooledInv db' (t ++ []) := by
  rw [List.append_nil]
  exact ⟨hs.faithful, hs.balanced, fun c id hm => hs.kept.formulas _ (h.scored c id hm),
    fun c startOn endOn hm => (h.opened c startOn endOn hm).kept hs.kept⟩

/-- The only interval of a campaign is one of the list. -/
theorem mem_of_consumedInterval {c : String} {item : ConfirmationInterval}
    (h : db.consumedInterval c = some item) :
    WindowSpent db.accounts c item.startOn item.endOn := by
  unfold AlphaDb.consumedInterval at h
  split at h
  · rename_i item' hf
    cases h
    have hin : item ∈ db.confirmations.filter (fun i => i.campaignId == c) := by
      rw [hf]
      exact List.mem_singleton_self _
    obtain ⟨hin, hc⟩ := List.mem_filter.mp hin
    exact ⟨item, hin, by simpa using hc, rfl, rfl⟩
  · cases h

/-- **One action**: the invariant is kept, and the accounts keep what they
should. -/
theorem PooledAct.holds {t marks : List PooledMark} {p p' : PooledWorker}
    (h : PooledAct db t p marks db' p') (hI : PooledInv db t) (hp : WorkerKnows db.accounts p) :
    PooledInv db' (t ++ marks) ∧ AccountsKept db.accounts db'.accounts
      ∧ WorkerKnows db'.accounts p' := by
  have hf := hI.faithful
  have hb := hI.balanced
  cases h with
  | reserve c pins h =>
    have hs := reservePooledCampaign_step hf hb h
    exact ⟨hs.inv hI, hs.kept, trivial⟩
  | reserveFamily f budget h =>
    have hs := reservePooledFamily_step hf hb h
    exact ⟨hs.inv hI, hs.kept, trivial⟩
  | charge f id expression nodes now h =>
    obtain ⟨hs, hc⟩ := chargePooledFormula_step hf hb h
    exact ⟨hs.inv hI, hs.kept, hc⟩
  | score =>
    refine ⟨⟨hf, hb, fun c id hm => ?_, fun c startOn endOn hm => ?_⟩, .refl _, trivial⟩
    · rcases List.mem_append.mp hm with hm | hm
      · exact hI.scored c id hm
      · cases List.mem_singleton.mp hm
        exact hp
    · rcases List.mem_append.mp hm with hm | hm
      · exact hI.opened c startOn endOn hm
      · cases List.mem_singleton.mp hm
  | advance status hc h =>
    have hs := advancePooledCampaign_step hf hb h
    exact ⟨hs.inv hI, hs.kept, trivial⟩
  | consume cohort startOn endOn candidates now h =>
    obtain ⟨hs, hw⟩ := consumePooledConfirmation_step hf hb h
    exact ⟨hs.inv hI, hs.kept, hw⟩
  | openWindow =>
    refine ⟨⟨hf, hb, fun c id hm => ?_, fun c startOn endOn hm => ?_⟩, .refl _, trivial⟩
    · rcases List.mem_append.mp hm with hm | hm
      · exact hI.scored c id hm
      · cases List.mem_singleton.mp hm
    · rcases List.mem_append.mp hm with hm | hm
      · exact hI.opened c startOn endOn hm
      · cases List.mem_singleton.mp hm
        exact hp
  | recover c h hs hc => exact ⟨(PooledStep.refl hf hb).inv hI, .refl _, trivial⟩
  | recoverWindow h =>
    exact ⟨(PooledStep.refl hf hb).inv hI, .refl _, mem_of_consumedInterval h⟩
  | rebuild =>
    unfold AlphaDb.rebuild
    rw [Projections.rebuild_eq hf]
    exact ⟨(PooledStep.refl hf hb).inv hI, .refl _, trivial⟩
  | other k v hk =>
    have ha : (db.append k v).accounts = db.accounts := by
      refine accounts_congr fun k' hk' => get_append_ne _ _ ?_
      rintro rfl
      exact Bool.false_ne_true (hk.symm.trans hk')
    have hs : PooledStep db (db.append k v) :=
      ⟨hf.append k v, by rw [ha]; exact hb, by rw [ha]; exact .refl _⟩
    exact ⟨hs.inv hI, hs.kept, trivial⟩

/-- The assertion of the lane. -/
def pooling : Program.Assertion AlphaDb PooledWorker PooledMark where
  store := PooledInv
  here := fun db _ p => WorkerKnows db.accounts p

theorem pooled_holds {w : World AlphaDb PooledWorker PooledMark}
    (h : pooledProgram.Reachable w) : pooling.Holds w := by
  refine Program.holds (P := pooledProgram) pooling ?_ (fun _ _ _ => trivial)
    (fun _ => ⟨trivial, trivial⟩) ?_ h
  · refine ⟨Projections.faithful_empty, ⟨fun c f b hb => ?_, fun c id x hx => ?_, ?_, ?_, rfl,
      List.Pairwise.nil, fun c r hr => ?_⟩, fun c id hm => ?_, fun c startOn endOn hm => ?_⟩
    · cases hb
    · cases hx
    · show {k : String × String | (none : Option FormulaCharge).isSome = true}.encard = (0 : ℕ)
      simp
    · show {c : String | (none : Option Campaign).isSome = true}.encard = (0 : ℕ)
      simp
    · cases hr
    · cases hm
    · cases hm
  · intro w i marks d p _ hA ha
    obtain ⟨hI, hk, hp⟩ := PooledAct.holds ha hA.store (hA.here i)
    exact ⟨hI, hp, fun q hq _ _ => ⟨hq.kept hk, trivial, trivial⟩⟩

theorem pooled_kept {w w' : World AlphaDb PooledWorker PooledMark}
    (h : pooledProgram.Reachable w) (hr : pooledProgram.Run w w') :
    AccountsKept w.store.accounts w'.store.accounts := by
  refine Program.store_rel (P := pooledProgram)
    (R := fun d d' => AccountsKept d.accounts d'.accounts) (fun _ => .refl _)
    (fun _ _ _ => AccountsKept.trans) ?_ h hr
  intro w i marks d p hw ha
  have hA := pooled_holds hw
  exact (PooledAct.holds ha hA.store (hA.here i)).2.1

end

/-- **The ledger of the pooled lane accounts for every look at the data.** In
every interleaving of any number of campaigns, crashing and resuming anywhere:
the accounts balance – a family's count is the number of formulas charged to it
and at most its budget, the lane's counts are the numbers of formulas, of
campaigns and of consumed intervals, and the intervals share no day; a formula
that was scored was charged, and a window that was opened was consumed by its
campaign. A campaign that consumed its confirmation interval, or that
completed, is never handed out again. -/
theorem pooled_accounted {w : World AlphaDb PooledWorker PooledMark}
    (h : pooledProgram.Reachable w) :
    PooledBalanced w.store.accounts
      ∧ (∀ c id, .scored c id ∈ w.trace → (w.store.get (.formula c id)).isSome = true)
      ∧ (∀ c startOn endOn, .opened c startOn endOn ∈ w.trace →
        ∃ i ∈ w.store.confirmations, i.campaignId = c ∧ i.startOn = startOn ∧ i.endOn = endOn)
      ∧ ∀ c r, w.store.get (.campaign c) = some r →
        .confirmationConsumed ∈ r.stages ∨ .completed ∈ r.stages ∨ r.status = .completed →
        ∀ w', pooledProgram.Run w w' → ∀ pins,
          (w'.store.reservePooledCampaign c pins).isOk = false := by
  have hI : PooledInv w.store w.trace := (pooled_holds h).store
  refine ⟨hI.balanced, hI.scored, hI.opened, fun c r hr hdone w' hrun pins => ?_⟩
  have hclosed : r.Closed := by
    rcases hdone with hs | hs | hs
    · exact Or.inl hs
    · exact hI.balanced.closed c r hr hs
    · exact Or.inr hs
  obtain ⟨r', hr', hc'⟩ := (pooled_kept h hrun).closed c r hr hclosed
  exact reservePooledCampaign_closed hr' hc' pins

/-! ### A campaign that opens its window -/

def samplePins : CampaignPins := ⟨"protocol", "cohort", "cube", "revision", 1, "desk"⟩

def sampleReservedCampaign : AlphaDb :=
  (AlphaDb.empty.append (.campaign "c1") ⟨samplePins, .reserved, [.reserved]⟩).pooledCount
    (fun n => { n with campaigns := n.campaigns + 1 })

def sampleBudgeted : AlphaDb :=
  sampleReservedCampaign.append (.campaignFamily "c1" "momentum") ⟨1, 0⟩

def sampleCharged : AlphaDb :=
  sampleBudgeted.charged "c1" "f1" ⟨"momentum", "close", 1, 0⟩ ⟨1, 0⟩

def sampleConfirmed : AlphaDb :=
  sampleCharged.confirmed "c1" ⟨samplePins, .reserved, [.reserved]⟩ ⟨1, 9, "c1", "cohort", ["f1"], 0⟩

theorem pooled_accounted_sample :
    ∃ w, pooledProgram.Reachable w
      ∧ w.trace = [.scored "c1" "f1", .opened "c1" 1 9]
      ∧ w.store.pooledCounts = ⟨1, 1, 1⟩
      ∧ PooledBalanced w.store.accounts
      ∧ (w.store.reservePooledCampaign "c1" samplePins).isOk = false := by
  have h₀ : pooledProgram.Reachable ⟨.empty, fun _ => .idle, []⟩ :=
    TransitionSystem.Reachable.of_init rfl
  have h₁ := Program.Reachable.act (i := 0) h₀ (.reserve "c1" samplePins
    (show _ = Except.ok (sampleReservedCampaign, _) from rfl))
  have h₂ := Program.Reachable.act (i := 0) h₁ (.reserveFamily "momentum" 1
    (show _ = Except.ok sampleBudgeted from rfl))
  have h₃ := Program.Reachable.act (i := 0) h₂ (.charge "momentum" "f1" "close" 1 0
    (show _ = Except.ok (sampleCharged, true) from rfl))
  have h₄ := Program.Reachable.act (i := 0) h₃ .score
  have h₅ := Program.Reachable.act (i := 0) h₄ (.consume "cohort" 1 9 ["f1"] 0
    (show _ = Except.ok sampleConfirmed from rfl))
  have h₆ := Program.Reachable.act (i := 0) h₅ .openWindow
  have hall := pooled_accounted h₆
  refine ⟨_, h₆, rfl, rfl, hall.1, ?_⟩
  exact hall.2.2.2 "c1" ⟨samplePins, .confirmationConsumed, [.reserved, .confirmationConsumed]⟩
    rfl (Or.inl (by decide)) _ Relation.ReflTransGen.refl samplePins

end AgenticTrader
