import AgenticTrader.Accounting.Risk
import Mathlib.Tactic.Linarith

/-!
# Published profit is conserved

A ready report splits the equity of the account into what came from outside,
what was realized and what is not yet: the loop counts every activity into the
cash, and into exactly one of the fills, the fees, the income and the
transfers, and the cost basis that makes the gross of the fills cancels the
one in the equity. What is left over is the cash the broker and the activities
disagree on, which is within the tolerance.
-/

namespace AgenticTrader

/-! ## What an activity means -/

/-- The net amount of a transfer: the capital that came from outside. -/
def Activity.external (a : Activity) : ℚ :=
  match a.get? "activity_type" with
  | some (.str kind) =>
    if kind ∈ cashTransfers then ((a.get? "net_amount").bind decimal).getD 0 else 0
  | _ => 0

/-- The shares of a symbol an execution added, or took when it is a sale. -/
def Activity.signedQuantity (a : Activity) (symbol : String) : ℚ :=
  if (a.get? "activity_type").any (·.isText "FILL")
      && (a.get? "symbol").any (·.isText symbol) then
    if (a.get? "side").any (·.isText "buy") then ((a.get? "qty").bind decimal).getD 0
    else -((a.get? "qty").bind decimal).getD 0
  else 0

/-- **A valid activity of a supported kind**: it has an identity, and it is an
execution or a cash activity that passes its checks. -/
inductive Activity.Valid (a : Activity) : Prop where
  | fill (id : Json) (f : FillFields) (symbol : String) (hid : a.get? "id" = some id)
      (identified : id.truthy = true)
      (kind : a.get? "activity_type" = some (.str "FILL")) (checked : a.fill? = some f)
      (text : f.symbol = .str symbol)
  | cash (id : Json) (kind : String) (amount : ℚ) (hid : a.get? "id" = some id)
      (identified : id.truthy = true)
      (supported : kind ∈ cashTransfers ++ feeKinds ++ incomeKinds)
      (hkind : a.get? "activity_type" = some (.str kind))
      (checked : a.cashAmount? kind = some amount)

/-- In exact arithmetic the equity is the cash, the cost of the positions and
their unrealized profit. -/
theorem AccountSnapshot.equity_exact (snapshot : AccountSnapshot) :
    snapshot.equity id = snapshot.cash + (snapshot.positions.map (·.2.costBasis)).sum
      + (snapshot.positions.map (·.2.unrealizedPl)).sum := by
  have hsum : ∀ (ps : List (String × AccountPosition)) (total : ℚ),
      ps.foldl (fun total p => total + (p.2.costBasis + p.2.unrealizedPl)) total
        = total + (ps.map (·.2.costBasis)).sum + (ps.map (·.2.unrealizedPl)).sum := by
    intro ps
    induction ps with
    | nil => simp
    | cons p ps ih =>
      intro total
      rw [List.foldl_cons, ih]
      simp only [List.map_cons, List.sum_cons]
      ring
  show snapshot.cash + snapshot.positions.foldl
    (fun total p => total + (p.2.costBasis + p.2.unrealizedPl)) 0 = _
  rw [hsum]
  ring

/-- In exact arithmetic a sum is the sum. -/
theorem decimalSum_id (amounts : List ℚ) : decimalSum id amounts = amounts.sum := by
  rw [List.sum_eq_foldl]
  rfl

/-! ## Inventory -/

theorem quantityOf_addQuantity (symbol : String) (delta : ℚ)
    (inventory : List (String × ℚ)) (s : String) :
    quantityOf (addQuantity id symbol delta inventory) s
      = quantityOf inventory s + if s = symbol then delta else 0 := by
  induction inventory with
  | nil =>
    by_cases h : s = symbol
    · simp [addQuantity, quantityOf, h]
    · simp [addQuantity, quantityOf, h, Ne.symm h]
  | cons i rest ih =>
    unfold addQuantity
    by_cases hi : i.1 = symbol
    · rw [if_pos hi]
      by_cases h : s = symbol
      · simp [quantityOf, hi, h]
      · have hne : i.1 ≠ s := fun e => h (e.symm.trans hi)
        simp [quantityOf, hne, h]
    · rw [if_neg hi]
      by_cases h : i.1 = s
      · have hne : s ≠ symbol := fun e => hi (h.trans e)
        simp [quantityOf, h, hne]
      · simpa [quantityOf, h] using ih

/-! ## One turn of the loop -/

/-- **What a turn without an issue does**: the activity is valid and new, it is
counted in the cash and in one of the totals, and its shares in the
inventory. -/
structure Booked (t : Tally) (a : Activity) (t' : Tally) : Prop where
  valid : a.Valid
  identity : ∃ key, (a.get? "id").bind Json.key? = some key ∧ key ∉ t.ids
    ∧ t'.ids = t.ids ++ [key]
  cash : t'.cash - t'.fillCash - t'.fees - t'.income
    = t.cash - t.fillCash - t.fees - t.income + a.external
  quantity : ∀ s, quantityOf t'.inventory s
    = quantityOf t.inventory s + a.signedQuantity s

theorem Activity.cashAmount?_eq_some {a : Activity} {kind : String} {amount : ℚ}
    (h : a.cashAmount? kind = some amount) :
    (a.get? "net_amount").bind decimal = some amount := by
  unfold Activity.cashAmount? at h
  split at h
  · cases h
  · simp only [Option.bind_eq_bind, Option.bind_eq_some_iff] at h
    obtain ⟨shares, -, h⟩ := h
    split at h
    · cases h
    · exact h

section

variable {t : Tally} {a : Activity}

/-- A supported kind is a transfer, a fee or an income, and one of them only. -/
theorem kind_cases {kind : String} (h : kind ∈ cashTransfers ++ feeKinds ++ incomeKinds) :
    (kind ∈ cashTransfers ∧ kind ∉ feeKinds ∧ kind ∉ incomeKinds)
      ∨ (kind ∉ cashTransfers ∧ kind ∈ feeKinds)
      ∨ kind ∉ cashTransfers ∧ kind ∉ feeKinds ∧ kind ∈ incomeKinds := by
  revert kind
  decide +kernel

/-- A cash activity without an issue. -/
theorem Tally.bookCash_cases {kind : String} (hk : a.get? "activity_type" = some (.str kind))
    (hs : kind ∈ cashTransfers ++ feeKinds ++ incomeKinds) :
    (∃ i, (t.bookCash id a kind).issues = t.issues ++ [i])
      ∨ ∃ amount, a.cashAmount? kind = some amount
        ∧ (t.bookCash id a kind).issues = t.issues ∧ (t.bookCash id a kind).ids = t.ids
        ∧ (t.bookCash id a kind).inventory = t.inventory
        ∧ (t.bookCash id a kind).cash - (t.bookCash id a kind).fillCash
            - (t.bookCash id a kind).fees - (t.bookCash id a kind).income
          = t.cash - t.fillCash - t.fees - t.income + a.external := by
  unfold bookCash
  cases ha : a.cashAmount? kind with
  | none => exact Or.inl ⟨.invalidActivity, rfl⟩
  | some amount =>
    have hext : a.external = if kind ∈ cashTransfers then amount else 0 := by
      unfold Activity.external
      rw [hk]
      dsimp only
      rw [Activity.cashAmount?_eq_some ha]
      rfl
    refine Or.inr ⟨amount, rfl, rfl, rfl, rfl, ?_⟩
    simp only [id_eq]
    rw [hext]
    rcases kind_cases hs with ⟨h₁, h₂, h₃⟩ | ⟨h₁, h₂⟩ | ⟨h₁, h₂, h₃⟩
    · rw [if_pos h₁, if_neg h₂, if_neg (fun h => h₃ h.2)]
      ring
    · rw [if_neg h₁, if_pos h₂, if_neg (fun h => h.1 h₂)]
      ring
    · rw [if_neg h₁, if_neg h₂, if_pos ⟨h₂, h₃⟩]
      ring

/-- What the checks of an execution read. -/
theorem Activity.fill?_eq_some {f : FillFields} (h : a.fill? = some f) :
    (a.get? "qty").bind decimal = some f.qty ∧ a.get? "symbol" = some f.symbol
      ∧ ∃ side, a.get? "side" = some (.str side)
        ∧ (side = "buy" ∧ f.direction = -1 ∨ side ≠ "buy" ∧ f.direction = 1) := by
  unfold Activity.fill? at h
  simp only [Option.bind_eq_bind, Option.bind_eq_some_iff] at h
  obtain ⟨qty, hqty, price, -, side, hside, symbol, hsymbol, h⟩ := h
  split at h
  · cases h
  · simp only [Option.bind_eq_some_iff] at h
    obtain ⟨direction, hd, slash, -, h⟩ := h
    split at h
    · cases h
    · cases h
      refine ⟨Option.bind_eq_some_iff.mpr hqty, hsymbol, ?_⟩
      unfold fillDirection? at hd
      split at hd
      · rename_i side
        refine ⟨side, hside, ?_⟩
        split at hd
        · rename_i hb
          exact Or.inl ⟨hb, (Option.some.inj hd).symm⟩
        · rename_i hb
          split at hd
          · exact Or.inr ⟨hb, (Option.some.inj hd).symm⟩
          · cases hd
      · cases hd

/-- An execution without an issue. -/
theorem Tally.bookFill_cases (hk : a.get? "activity_type" = some (.str "FILL")) :
    (∃ i, (t.bookFill id a).issues = t.issues ++ [i])
      ∨ ∃ f symbol, a.fill? = some f ∧ f.symbol = .str symbol
        ∧ (t.bookFill id a).issues = t.issues ∧ (t.bookFill id a).ids = t.ids
        ∧ (∀ s, quantityOf (t.bookFill id a).inventory s
          = quantityOf t.inventory s + a.signedQuantity s)
        ∧ (t.bookFill id a).cash - (t.bookFill id a).fillCash - (t.bookFill id a).fees
            - (t.bookFill id a).income
          = t.cash - t.fillCash - t.fees - t.income + a.external := by
  unfold bookFill
  cases ha : a.fill? with
  | none => exact Or.inl ⟨.invalidActivity, rfl⟩
  | some f =>
    obtain ⟨hqty, hsymbol, side, hside, hdirection⟩ := Activity.fill?_eq_some ha
    have hext : a.external = 0 := by
      unfold Activity.external
      rw [hk]
      exact if_neg (by decide)
    dsimp only
    split
    · rename_i symbol hsym
      refine Or.inr ⟨f, symbol, rfl, hsym, rfl, rfl, fun s => ?_, ?_⟩
      · rw [quantityOf_addQuantity]
        congr 1
        unfold Activity.signedQuantity
        rw [hk, hsymbol, hside, hqty, hsym]
        by_cases h : s = symbol
        · rcases hdirection with ⟨rfl, hd⟩ | ⟨hne, hd⟩
          · simp [Json.isText, h, hd]
          · simp [Json.isText, h, hd, hne]
        · simp [Json.isText, h, Ne.symm h]
      · simp only [id_eq]
        rw [hext]
        ring
    · exact Or.inl ⟨.invalidActivity, rfl⟩

/-- **Every turn of the loop raises an issue or books its activity.** -/
theorem Tally.book_cases (unsupported : Json → Activity → String) (t : Tally) (a : Activity) :
    (∃ i, (t.book id unsupported a).issues = t.issues ++ [i])
      ∨ (t.book id unsupported a).issues = t.issues ∧ Booked t a (t.book id unsupported a) := by
  unfold book
  cases hid : a.get? "id" with
  | none => exact Or.inl ⟨.invalidActivity, rfl⟩
  | some id =>
    dsimp only
    split
    · exact Or.inl ⟨.invalidActivity, rfl⟩
    · rename_i htrue
      have htrue : id.truthy = true := by simpa using htrue
      cases hkey : id.key? with
      | none => exact Or.inl ⟨.invalidActivity, rfl⟩
      | some key =>
        dsimp only
        split
        · exact Or.inl ⟨.invalidActivity, rfl⟩
        · rename_i hnew
          have hident : (a.get? "id").bind Json.key? = some key := by rw [hid]; exact hkey
          cases hkind : a.get? "activity_type" with
          | none => exact Or.inl ⟨.invalidActivity, rfl⟩
          | some kind =>
            dsimp only
            unfold bookKind
            split
            · rename_i kind
              split
              · rename_i hfill
                subst hfill
                rcases bookFill_cases (t := { t with ids := t.ids ++ [key] }) hkind with
                  hi | ⟨f, symbol, hf, hs, hi, hids, hq, hc⟩
                · exact Or.inl hi
                · exact Or.inr ⟨hi, .fill id f symbol hid htrue hkind hf hs,
                    ⟨key, hident, hnew, hids⟩, hc, hq⟩
              · rename_i hfill
                split
                · rename_i hs
                  rcases bookCash_cases (t := { t with ids := t.ids ++ [key] }) hkind hs with
                    hi | ⟨amount, ha, hi, hids, hinv, hc⟩
                  · exact Or.inl hi
                  · refine Or.inr ⟨hi, .cash id kind amount hid htrue hs hkind ha,
                      ⟨key, hident, hnew, hids⟩, hc, fun s => ?_⟩
                    have hz : a.signedQuantity s = 0 := by
                      unfold Activity.signedQuantity
                      rw [hkind]
                      simp [Json.isText, hfill]
                    rw [hinv, hz, add_zero]
                · exact Or.inl ⟨_, rfl⟩
            · exact Or.inl ⟨_, rfl⟩
            · exact Or.inl ⟨_, rfl⟩
            · exact Or.inl ⟨_, rfl⟩

end

/-! ## The whole loop -/

/-- **The invariant of the loop**, as long as there is no issue. -/
structure Balanced (activities : List Activity) (t : Tally) : Prop where
  valid : ∀ a ∈ activities, a.Valid
  identities : activities.map (fun a => (a.get? "id").bind Json.key?) = t.ids.map some
  distinct : t.ids.Nodup
  cash : t.cash - t.fillCash - t.fees - t.income = (activities.map (·.external)).sum
  quantity : ∀ s, quantityOf t.inventory s
    = (activities.map (·.signedQuantity s)).sum

theorem Balanced.booked {activities : List Activity} {a : Activity} {t t' : Tally}
    (h : Balanced activities t) (hb : Booked t a t') :
    Balanced (activities ++ [a]) t' := by
  obtain ⟨key, hkey, hnew, hids⟩ := hb.identity
  refine ⟨fun x hx => ?_, ?_, ?_, ?_, fun s => ?_⟩
  · rcases List.mem_append.mp hx with hx | hx
    · exact h.valid x hx
    · rw [List.mem_singleton.mp hx]
      exact hb.valid
  · rw [List.map_append, h.identities, hids, List.map_append, List.map_singleton, hkey,
      List.map_singleton]
  · rw [hids]
    refine List.nodup_append.mpr ⟨h.distinct, List.nodup_singleton _, ?_⟩
    rintro x hx _ hy rfl
    exact hnew (List.mem_singleton.mp hy ▸ hx)
  · rw [hb.cash, h.cash, List.map_append, List.sum_append]
    simp
  · rw [hb.quantity s, h.quantity s, List.map_append, List.sum_append]
    simp

/-- **A loop that ends without an issue had none, and is balanced.** -/
theorem Balanced.foldl {unsupported : Json → Activity → String} {seen rest : List Activity}
    {t : Tally} (ht : t.issues = [] → Balanced seen t)
    (h : (rest.foldl (Tally.book id unsupported) t).issues = []) :
    Balanced (seen ++ rest) (rest.foldl (Tally.book id unsupported) t) := by
  induction rest generalizing seen t with
  | nil => simpa using ht h
  | cons a rest ih =>
    rw [List.foldl_cons] at h ⊢
    rw [List.append_cons]
    refine ih (fun hn => ?_) h
    rcases Tally.book_cases unsupported t a with ⟨i, hi⟩ | ⟨hi, hb⟩
    · rw [hi] at hn
      simp at hn
    · exact (ht (hi.symm.trans hn)).booked hb

/-! ## The report -/

section

variable {rules : TextRules} {actions : List CorporateAction} {cashTolerance : ℚ}
  {activities : List Activity} {snapshot : AccountSnapshot}

/-- A ready report has no issue. -/
theorem issues_of_ready {round : ℚ → ℚ}
    (h : (reconcile round rules actions cashTolerance activities snapshot).ready = true) :
    (activities.foldl (Tally.book round (unsupportedActivityIssue rules actions))
        Tally.empty).issues = []
      ∧ comparisonIssues round
        (activities.foldl (Tally.book round (unsupportedActivityIssue rules actions))
          Tally.empty) snapshot cashTolerance = [] := by
  unfold LedgerReport.ready at h
  simp only [Bool.and_eq_true] at h
  have hgross := h.1.2
  unfold reconcile at hgross
  dsimp only at hgross
  split at hgross
  · rename_i hnil
    exact List.append_eq_nil_iff.mp (List.isEmpty_iff.mp hnil)
  · cases hgross

/-- A comparison without an issue: the cash agrees within the tolerance, and
every quantity exactly. -/
theorem comparison_of_nil {t : Tally} (h : comparisonIssues id t snapshot cashTolerance = []) :
    |t.cash - snapshot.cash| ≤ cashTolerance
      ∧ ∀ s, quantityOf t.inventory s = snapshot.quantityOf s := by
  unfold comparisonIssues at h
  simp only [List.append_eq_nil_iff, id_eq] at h
  obtain ⟨⟨hcash, hqty⟩, -⟩ := h
  refine ⟨?_, fun s => ?_⟩
  · by_contra hlt
    rw [if_pos (not_le.mp hlt)] at hcash
    cases hcash
  · split at hqty
    · rename_i hnil
      by_cases hs : s ∈ t.inventory.map (·.1) ++ snapshot.positions.map (·.1)
      · by_contra hne
        have hmem : (s, quantityOf t.inventory s - snapshot.quantityOf s)
            ∈ quantityDeltas id t.inventory snapshot := by
          refine List.mem_filter.mpr ⟨List.mem_map.mpr ⟨s, List.mem_dedup.mpr hs, rfl⟩, ?_⟩
          simpa [sub_eq_zero] using hne
        rw [List.isEmpty_iff.mp hnil] at hmem
        cases hmem
      · -- a symbol of neither side has no quantity on either
        rw [List.mem_append, not_or] at hs
        have hi : t.inventory.find? (fun i => i.1 == s) = none :=
          List.find?_eq_none.mpr (fun i hi he => hs.1
            (List.mem_map.mpr ⟨i, hi, by simpa using he⟩))
        have hp : snapshot.positions.find? (fun p => p.1 == s) = none :=
          List.find?_eq_none.mpr (fun p hp he => hs.2
            (List.mem_map.mpr ⟨p, hp, by simpa using he⟩))
        rw [quantityOf, AccountSnapshot.quantityOf, hi, hp]
        rfl
    · cases hqty

end

/-- **Published profit is conserved.** When `reconcile` returns a ready report,
the equity is the external capital, the net realized and the unrealized profit
of the report, up to the tolerance; every activity was valid and of a supported
kind, under an identity of its own; and for every symbol the signed sum of the
fills is the quantity the broker holds. -/
theorem published_profit_conserved (rules : TextRules) (actions : List CorporateAction)
    (cashTolerance : ℚ) (activities : List Activity) (snapshot : AccountSnapshot)
    (h : (reconcile id rules actions cashTolerance activities snapshot).ready = true) :
    (∃ net, (reconcile id rules actions cashTolerance activities snapshot).netRealized = some net
        ∧ |snapshot.equity id - (activities.map (·.external)).sum - net
            - (reconcile id rules actions cashTolerance activities snapshot).unrealized|
          ≤ cashTolerance)
      ∧ ((∀ a ∈ activities, a.Valid)
        ∧ (activities.map (fun a => (a.get? "id").bind Json.key?)).Nodup)
      ∧ ∀ s, (activities.map (·.signedQuantity s)).sum = snapshot.quantityOf s := by
  obtain ⟨hissues, hcomparison⟩ := issues_of_ready h
  have hempty : Balanced [] Tally.empty :=
    ⟨(fun _ hx => by cases hx), rfl, List.nodup_nil, by simp [Tally.empty], fun _ => rfl⟩
  have hb := Balanced.foldl (fun _ => hempty) hissues
  rw [List.nil_append] at hb
  obtain ⟨hcash, hquantity⟩ := comparison_of_nil hcomparison
  refine ⟨?_, ⟨hb.valid, ?_⟩, fun s => (hb.quantity s).symm.trans (hquantity s)⟩
  · unfold reconcile
    dsimp only
    rw [hissues, hcomparison]
    refine ⟨_, rfl, ?_⟩
    rw [decimalSum_id, decimalSum_id]
    simp only [id_eq]
    rw [abs_sub_comm] at hcash
    calc |snapshot.equity id - (activities.map (·.external)).sum - _ - _|
        = |snapshot.cash - (activities.foldl
            (Tally.book id (unsupportedActivityIssue rules actions)) Tally.empty).cash| := by
          rw [snapshot.equity_exact, ← hb.cash]
          congr 1
          ring
      _ ≤ cashTolerance := hcash
  · rw [hb.identities]
    exact hb.distinct.map (Option.some_injective _)

/-! ### A deposit and a purchase -/

def sampleRules : TextRules := ⟨fun q => toString q, id, id, fun _ => none, fun d => toString d⟩

def sampleDeposit : Activity :=
  [("id", .str "a-1"), ("activity_type", .str "CSD"), ("net_amount", .str "1000")]

def samplePurchase : Activity :=
  [("id", .str "a-2"), ("activity_type", .str "FILL"), ("qty", .str "2"),
    ("price", .str "100.5"), ("side", .str "buy"), ("symbol", .str "SPY"),
    ("order_id", .str "o-1"), ("transaction_time", .str "2026-01-02T15:00:00Z")]

def sampleSnapshot : AccountSnapshot where
  accountId := "acct"
  cash := 799
  positions := [("SPY", ⟨2, 201, 5, "us_equity"⟩)]
  observedAt := .aware 10
  identified := by decide
  distinct := by decide

theorem sampleReport_ready :
    (reconcile id sampleRules [] (1 / 100) [sampleDeposit, samplePurchase]
      sampleSnapshot).ready = true := by
  decide +kernel

theorem published_profit_conserved_sample :
    (reconcile id sampleRules [] (1 / 100) [sampleDeposit, samplePurchase]
        sampleSnapshot).netRealized = some 0
      ∧ ([sampleDeposit, samplePurchase].map (·.signedQuantity "SPY")).sum
        = sampleSnapshot.quantityOf "SPY"
      ∧ sampleDeposit.Valid :=
  have h := published_profit_conserved sampleRules [] (1 / 100)
    [sampleDeposit, samplePurchase] sampleSnapshot sampleReport_ready
  ⟨by decide +kernel, h.2.2 "SPY", h.2.1.1 _ List.mem_cons_self⟩

end AgenticTrader
