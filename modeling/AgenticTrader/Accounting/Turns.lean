import AgenticTrader.Accounting.Conservation
import Mathlib.Algebra.BigOperators.Group.List.Lemmas

/-!
# What an activity adds

A turn of the reconciliation depends on what came before only in whether its
identity is new. What it adds to the totals, to the inventory and to the issues
is then a function of the activity (`Tally.book_eq`), so the totals of a loop
are sums over the activities that were new (`Tally.foldl_book_totals`). An
activity notes its identity before it is looked at further, and so keeps out
the next activity that has it (`newOnes_noted`). A loop ends without an issue
exactly when every activity has an identity of its own and passes its checks
(`Clean`).
-/

namespace AgenticTrader

/-! ## One turn -/

/-- **What a turn adds to the totals.** -/
@[ext]
structure Contribution where
  fillCash : ℚ
  cash : ℚ
  fees : ℚ
  income : ℚ
  fills : ℕ
  deriving DecidableEq

namespace Contribution

instance : Zero Contribution := ⟨⟨0, 0, 0, 0, 0⟩⟩

instance : Add Contribution :=
  ⟨fun a b => ⟨a.fillCash + b.fillCash, a.cash + b.cash, a.fees + b.fees, a.income + b.income,
    a.fills + b.fills⟩⟩

@[simp] theorem zero_fillCash : (0 : Contribution).fillCash = 0 := rfl
@[simp] theorem zero_cash : (0 : Contribution).cash = 0 := rfl
@[simp] theorem zero_fees : (0 : Contribution).fees = 0 := rfl
@[simp] theorem zero_income : (0 : Contribution).income = 0 := rfl
@[simp] theorem zero_fills : (0 : Contribution).fills = 0 := rfl

variable (a b : Contribution)

@[simp] theorem add_fillCash : (a + b).fillCash = a.fillCash + b.fillCash := rfl
@[simp] theorem add_cash : (a + b).cash = a.cash + b.cash := rfl
@[simp] theorem add_fees : (a + b).fees = a.fees + b.fees := rfl
@[simp] theorem add_income : (a + b).income = a.income + b.income := rfl
@[simp] theorem add_fills : (a + b).fills = a.fills + b.fills := rfl

/-- Contributions add up in any order. -/
instance : AddCommMonoid Contribution where
  add_assoc a b c := by ext <;> simp [add_assoc]
  zero_add a := by ext <;> simp
  add_zero a := by ext <;> simp
  add_comm a b := by ext <;> simp [add_comm]
  nsmul := nsmulRec

end Contribution

/-- The symbol of an execution, when it is a text. -/
def FillFields.symbol? (f : FillFields) : Option String :=
  match f.symbol with
  | .str symbol => some symbol
  | _ => none

namespace Activity

/-- The identity of an activity, as the set of identities holds it. -/
def identityKey? (a : Activity) : Option Json.Key :=
  (a.get? "id").bind (fun id => if id.truthy then id.key? else none)

/-- What an execution adds: its cash, and itself when its symbol is a text. -/
def fillContribution (f : FillFields) : Contribution :=
  ⟨f.direction * f.qty * f.price, f.direction * f.qty * f.price, 0, 0,
    if f.symbol?.isSome then 1 else 0⟩

/-- What a cash activity adds. -/
def cashContribution (kind : String) (amount : ℚ) : Contribution :=
  ⟨0, amount, if kind ∈ feeKinds then amount else 0,
    if kind ∉ feeKinds ∧ kind ∈ incomeKinds then amount else 0, 0⟩

/-- **What an activity with a new identity adds to the totals.** -/
def contribution (a : Activity) : Contribution :=
  match a.get? "activity_type" with
  | some (.str kind) =>
    if kind = "FILL" then (a.fill?.map fillContribution).getD 0
    else if kind ∈ cashTransfers ++ feeKinds ++ incomeKinds then
      ((a.cashAmount? kind).map (cashContribution kind)).getD 0
    else 0
  | _ => 0

/-- The shares it adds to the inventory. -/
def shares (a : Activity) : Option (String × ℚ) :=
  if (a.get? "activity_type").any (·.isText "FILL") then
    a.fill?.bind (fun f => f.symbol?.map (fun s => (s, -(f.direction * f.qty))))
  else none

/-- **What is objected to about it.** -/
def objection (unsupported : Json → Activity → String) (a : Activity) : Option Issue :=
  match a.get? "activity_type" with
  | none => some .invalidActivity
  | some (.str kind) =>
    if kind = "FILL" then
      if (a.fill?.bind FillFields.symbol?).isSome then none else some .invalidActivity
    else if kind ∈ cashTransfers ++ feeKinds ++ incomeKinds then
      if (a.cashAmount? kind).isSome then none else some .invalidActivity
    else some (.unsupportedActivity (unsupported (.str kind) a))
  | some (.list _) => some .invalidActivity
  | some (.object _) => some .invalidActivity
  | some kind => some (.unsupportedActivity (unsupported kind a))

end Activity

namespace Tally

/-- The totals of a tally. -/
def totals (t : Tally) : Contribution :=
  ⟨t.fillCash, t.cash, t.fees, t.income, t.fills⟩

/-- The inventory with some shares added. -/
def stocked (inventory : List (String × ℚ)) : Option (String × ℚ) → List (String × ℚ)
  | none => inventory
  | some s => addQuantity id s.1 s.2 inventory

/-- **A tally with what an activity adds.** -/
def added (unsupported : Json → Activity → String) (t : Tally) (a : Activity) : Tally :=
  { t with
    inventory := stocked t.inventory a.shares
    fillCash := t.fillCash + a.contribution.fillCash
    cash := t.cash + a.contribution.cash
    fees := t.fees + a.contribution.fees
    income := t.income + a.contribution.income
    issues := t.issues ++ (a.objection unsupported).toList
    fills := t.fills + a.contribution.fills }

section

variable (unsupported : Json → Activity → String) (t : Tally) {a : Activity}

theorem bookFill_eq (hk : a.get? "activity_type" = some (.str "FILL")) :
    t.bookFill id a = t.added unsupported a := by
  unfold bookFill
  cases hf : a.fill? with
  | none =>
    simp [added, Activity.contribution, Activity.shares, Activity.objection, hk, hf, invalid,
      issue, stocked]
  | some f =>
    cases hs : f.symbol <;>
      simp [added, Activity.contribution, Activity.shares, Activity.objection, hk, hf, invalid,
        issue, stocked, Activity.fillContribution, FillFields.symbol?, hs, Json.isText]

theorem bookCash_eq {kind : String} (hk : a.get? "activity_type" = some (.str kind))
    (hfill : kind ≠ "FILL") (hs : kind ∈ cashTransfers ++ feeKinds ++ incomeKinds) :
    t.bookCash id a kind = t.added unsupported a := by
  have hshares : a.shares = none := by
    simp [Activity.shares, hk, Json.isText, hfill]
  have hcontribution : a.contribution
      = ((a.cashAmount? kind).map (Activity.cashContribution kind)).getD 0 := by
    simp only [Activity.contribution, hk, if_neg hfill, if_pos hs]
  have hobjection : a.objection unsupported
      = if (a.cashAmount? kind).isSome then none else some .invalidActivity := by
    simp only [Activity.objection, hk, if_neg hfill, if_pos hs]
  unfold bookCash added
  rw [hshares, hcontribution, hobjection]
  cases ha : a.cashAmount? kind with
  | none => simp [invalid, issue, stocked]
  | some amount =>
    simp only [Option.map_some, Option.getD_some, Activity.cashContribution, Option.isSome_some,
      if_true, Option.toList_none, List.append_nil, stocked, add_zero]
    by_cases hfee : kind ∈ feeKinds
    · simp [hfee]
    · by_cases hincome : kind ∈ incomeKinds
      · simp [hfee, hincome]
      · simp [hfee, hincome]

/-- What an activity does by its kind. -/
theorem bookKind_eq {kind : Json} (hk : a.get? "activity_type" = some kind) :
    t.bookKind id unsupported a kind = t.added unsupported a := by
  unfold bookKind
  split
  · rename_i kind
    split
    · rename_i hfill
      subst hfill
      exact t.bookFill_eq unsupported hk
    · rename_i hfill
      split
      · rename_i hs
        exact t.bookCash_eq unsupported hk hfill hs
      · rename_i hs
        have hshares : a.shares = none := by
          simp [Activity.shares, hk, Json.isText, hfill]
        simp only [added, hshares, Activity.contribution, Activity.objection, hk, if_neg hfill,
          if_neg hs, issue, stocked]
        simp
  · simp [added, Activity.contribution, Activity.shares, Activity.objection, hk, invalid, issue,
      stocked, Json.isText]
  · simp [added, Activity.contribution, Activity.shares, Activity.objection, hk, invalid, issue,
      stocked, Json.isText]
  · rename_i hstr hlist hobject
    cases kind with
    | str text => exact absurd rfl (hstr text)
    | list items => exact absurd rfl (hlist items)
    | object fields => exact absurd rfl (hobject fields)
    | _ =>
      simp [added, Activity.contribution, Activity.shares, Activity.objection, hk, issue, stocked,
        Json.isText]

/-- **One turn**: an activity without a new identity is objected to, and any
other is noted and adds what it adds. -/
theorem book_eq (a : Activity) :
    t.book id unsupported a
      = match a.identityKey? with
        | none => t.invalid
        | some key => if key ∈ t.ids then t.invalid
          else added unsupported { t with ids := t.ids ++ [key] } a := by
  unfold book Activity.identityKey?
  cases hid : a.get? "id" with
  | none => rfl
  | some id =>
    show (if id.truthy = false then t.invalid else _) = _
    rw [Option.bind_some]
    cases htrue : id.truthy with
    | false => rfl
    | true =>
      rw [if_neg (by simp), if_pos rfl]
      cases hkey : id.key? with
      | none => rfl
      | some key =>
        dsimp only
        split
        · rfl
        · cases hkind : a.get? "activity_type" with
          | none =>
            simp [added, Activity.contribution, Activity.shares, Activity.objection, hkind, invalid,
              issue, stocked]
          | some kind => exact bookKind_eq unsupported _ hkind

end

end Tally

/-! ## The whole loop -/

/-- The activities of a list whose identities are new, in order. -/
def newOnes : List Json.Key → List Activity → List Activity
  | _, [] => []
  | ids, a :: l =>
    match a.identityKey? with
    | none => newOnes ids l
    | some key => if key ∈ ids then newOnes ids l else a :: newOnes (ids ++ [key]) l

section Loop

variable (unsupported : Json → Activity → String)

/-- **The totals of a loop are sums over the activities that were new.** -/
theorem Tally.foldl_book_totals (t : Tally) (l : List Activity) :
    (l.foldl (book id unsupported) t).totals
      = t.totals + ((newOnes t.ids l).map Activity.contribution).sum := by
  induction l generalizing t with
  | nil => simp [newOnes]
  | cons a l ih =>
    rw [List.foldl_cons, ih, book_eq, newOnes]
    cases a.identityKey? with
    | none => rfl
    | some key =>
      dsimp only
      split
      · rfl
      · rw [List.map_cons, List.sum_cons, ← add_assoc]
        rfl

/-- The identities a loop notes are those of its activities. -/
theorem Tally.mem_ids_foldl_book (t : Tally) (l : List Activity) (key : Json.Key) :
    key ∈ (l.foldl (book id unsupported) t).ids
      ↔ key ∈ t.ids ∨ ∃ a ∈ l, a.identityKey? = some key := by
  induction l generalizing t with
  | nil => simp
  | cons a l ih =>
    rw [List.foldl_cons, ih, book_eq]
    cases ha : a.identityKey? with
    | none => simp [Tally.invalid, Tally.issue, ha]
    | some k =>
      dsimp only
      split
      · rename_i hk
        simp only [Tally.invalid, Tally.issue, List.mem_cons, exists_eq_or_imp, ha,
          Option.some.injEq]
        constructor
        · rintro (h | h)
          · exact Or.inl h
          · exact Or.inr (Or.inr h)
        · rintro (h | rfl | h)
          · exact Or.inl h
          · exact Or.inl hk
          · exact Or.inr h
      · show key ∈ t.ids ++ [k] ∨ _ ↔ _
        rw [List.mem_append, List.mem_singleton, or_assoc, eq_comm (a := key)]
        simp only [List.mem_cons, exists_eq_or_imp, ha, Option.some.injEq]

/-- Only which identities were noted matters. -/
theorem newOnes_congr {ids ids' : List Json.Key} (h : ∀ key, key ∈ ids ↔ key ∈ ids')
    (l : List Activity) : newOnes ids l = newOnes ids' l := by
  induction l generalizing ids ids' with
  | nil => rfl
  | cons a l ih =>
    unfold newOnes
    cases a.identityKey? with
    | none => exact ih h
    | some key =>
      dsimp only
      by_cases hkey : key ∈ ids
      · rw [if_pos hkey, if_pos ((h key).mp hkey), ih h]
      · have hnoted : ∀ k, k ∈ ids ++ [key] ↔ k ∈ ids' ++ [key] := fun k => by simp [h k]
        rw [if_neg hkey, if_neg (fun hm => hkey ((h key).mpr hm)), ih hnoted]

/-- **An identity that was noted keeps out the next activity that has it**, and
no other. -/
theorem newOnes_noted {ids : List Json.Key} {key : Json.Key} (hkey : key ∉ ids)
    (l : List Activity) :
    (l.find? (fun b => decide (b.identityKey? = some key)) = none
        ∧ newOnes (ids ++ [key]) l = newOnes ids l)
      ∨ ∃ b before after, l.find? (fun b => decide (b.identityKey? = some key)) = some b
        ∧ newOnes ids l = before ++ b :: after
        ∧ newOnes (ids ++ [key]) l = before ++ after := by
  induction l generalizing ids with
  | nil => exact Or.inl ⟨rfl, rfl⟩
  | cons a l ih =>
    cases ha : a.identityKey? with
    | none =>
      simp only [newOnes, ha, List.find?_cons]
      exact ih hkey
    | some k =>
      by_cases hk : k = key
      · subst hk
        refine Or.inr ⟨a, [], newOnes (ids ++ [k]) l, ?_, ?_, ?_⟩
        · simp [ha]
        · simp [newOnes, ha, hkey]
        · simp [newOnes, ha]
      · by_cases hmem : k ∈ ids
        · simp only [newOnes, ha, List.find?_cons, hmem, if_true, List.mem_append, true_or,
            Option.some.injEq, hk, decide_false]
          exact ih hkey
        · have hmem' : k ∉ ids ++ [key] := by simp [hmem, hk]
          have hkey' : key ∉ ids ++ [k] := by simp [hkey, Ne.symm hk]
          have hswap : newOnes (ids ++ [key] ++ [k]) l = newOnes (ids ++ [k] ++ [key]) l :=
            newOnes_congr (fun x => by simp [or_assoc, or_comm]) l
          simp only [newOnes, ha, List.find?_cons, hmem, if_false, hmem', Option.some.injEq, hk,
            decide_false, hswap]
          rcases ih hkey' with ⟨hf, hn⟩ | ⟨b, before, after, hf, hn, hn'⟩
          · exact Or.inl ⟨hf, by rw [hn]⟩
          · exact Or.inr ⟨b, a :: before, after, hf, by rw [hn]; rfl, by rw [hn']; rfl⟩

/-- The issues only grow. -/
theorem Tally.book_issues (t : Tally) (a : Activity) :
    t.issues <+: (t.book id unsupported a).issues := by
  rw [book_eq]
  cases a.identityKey? with
  | none => exact List.prefix_append _ _
  | some key =>
    dsimp only
    split
    · exact List.prefix_append _ _
    · exact List.prefix_append _ _

theorem Tally.foldl_book_issues (t : Tally) (l : List Activity) :
    t.issues <+: (l.foldl (book id unsupported) t).issues := by
  induction l generalizing t with
  | nil => exact List.prefix_rfl
  | cons a l ih => exact (t.book_issues unsupported a).trans (ih _)

end Loop

/-! ## Activities without an objection -/

/-- **Nothing is objected to**: every activity has an identity of its own and
passes its checks. -/
structure Clean (unsupported : Json → Activity → String) (ids : List Json.Key)
    (l : List Activity) : Prop where
  keyed : ∀ a ∈ l, ∃ key, a.identityKey? = some key ∧ key ∉ ids
  distinct : (l.map Activity.identityKey?).Nodup
  accepted : ∀ a ∈ l, a.objection unsupported = none

section CleanLists

variable {unsupported : Json → Activity → String} {ids : List Json.Key} {l l' : List Activity}

theorem Clean.perm (h : Clean unsupported ids l) (hp : l.Perm l') : Clean unsupported ids l' where
  keyed a ha := h.keyed a (hp.mem_iff.mpr ha)
  distinct := (hp.map _).nodup_iff.mp h.distinct
  accepted a ha := h.accepted a (hp.mem_iff.mpr ha)

theorem Clean.tail {a : Activity} (h : Clean unsupported ids (a :: l)) {key : Json.Key}
    (hkey : a.identityKey? = some key) : Clean unsupported (ids ++ [key]) l := by
  have hd := List.nodup_cons.mp (show (a.identityKey? :: l.map Activity.identityKey?).Nodup from
    h.distinct)
  refine ⟨fun x hx => ?_, hd.2, fun x hx => h.accepted x (List.mem_cons_of_mem _ hx)⟩
  obtain ⟨k, hk, hnew⟩ := h.keyed x (List.mem_cons_of_mem _ hx)
  refine ⟨k, hk, ?_⟩
  rw [List.mem_append, List.mem_singleton, not_or]
  refine ⟨hnew, ?_⟩
  rintro rfl
  exact hd.1 (hkey ▸ hk ▸ List.mem_map_of_mem hx)

/-- All of them are new. -/
theorem Clean.newOnes_eq (h : Clean unsupported ids l) : newOnes ids l = l := by
  induction l generalizing ids with
  | nil => rfl
  | cons a l ih =>
    obtain ⟨key, hkey, hnew⟩ := h.keyed a List.mem_cons_self
    unfold newOnes
    rw [hkey]
    dsimp only
    rw [if_neg hnew, ih (h.tail hkey)]

/-- A loop over them ends without an issue. -/
theorem Clean.foldl_issues {t : Tally} (h : Clean unsupported t.ids l) :
    (l.foldl (Tally.book id unsupported) t).issues = t.issues := by
  induction l generalizing t with
  | nil => rfl
  | cons a l ih =>
    obtain ⟨key, hkey, hnew⟩ := h.keyed a List.mem_cons_self
    have hbook : t.book id unsupported a
        = Tally.added unsupported { t with ids := t.ids ++ [key] } a := by
      rw [Tally.book_eq, hkey]
      exact if_neg hnew
    rw [List.foldl_cons, hbook, ih (by exact h.tail hkey)]
    show t.issues ++ (a.objection unsupported).toList = t.issues
    rw [h.accepted a List.mem_cons_self]
    exact List.append_nil _

/-- **A loop that ends without a new issue had nothing to object to.** -/
theorem clean_of_issues {t : Tally}
    (h : (l.foldl (Tally.book id unsupported) t).issues = t.issues) :
    Clean unsupported t.ids l := by
  induction l generalizing t with
  | nil => exact ⟨(fun a ha => by cases ha), List.nodup_nil, (fun a ha => by cases ha)⟩
  | cons a l ih =>
    rw [List.foldl_cons] at h
    have hbook : (t.book id unsupported a).issues = t.issues := by
      have h₁ := t.book_issues unsupported a
      have h₂ := Tally.foldl_book_issues unsupported (t.book id unsupported a) l
      rw [h] at h₂
      exact (h₂.eq_of_length (le_antisymm h₂.length_le h₁.length_le))
    have hclean := ih (h.trans hbook.symm)
    rw [Tally.book_eq] at hbook hclean
    cases hkey : a.identityKey? with
    | none =>
      rw [hkey] at hbook
      simp [Tally.invalid, Tally.issue] at hbook
    | some key =>
      rw [hkey] at hbook hclean
      dsimp only at hbook hclean
      by_cases hmem : key ∈ t.ids
      · rw [if_pos hmem] at hbook
        simp [Tally.invalid, Tally.issue] at hbook
      · rw [if_neg hmem] at hbook hclean
        have hobjection : a.objection unsupported = none := by
          simpa [Tally.added] using hbook
        have hclean' : Clean unsupported (t.ids ++ [key]) l := hclean
        refine ⟨fun x hx => ?_, ?_, fun x hx => ?_⟩
        · rcases List.mem_cons.mp hx with rfl | hx
          · exact ⟨key, hkey, hmem⟩
          · obtain ⟨k, hk, hnew⟩ := hclean'.keyed x hx
            exact ⟨k, hk, fun hm => hnew (List.mem_append_left _ hm)⟩
        · rw [List.map_cons, List.nodup_cons]
          refine ⟨fun hm => ?_, hclean'.distinct⟩
          obtain ⟨x, hx, hxk⟩ := List.mem_map.mp hm
          obtain ⟨k, hk, hnew⟩ := hclean'.keyed x hx
          rw [hk, hkey] at hxk
          cases hxk
          exact hnew (by simp)
        · rcases List.mem_cons.mp hx with rfl | hx
          · exact hobjection
          · exact hclean'.accepted x hx

end CleanLists

end AgenticTrader
