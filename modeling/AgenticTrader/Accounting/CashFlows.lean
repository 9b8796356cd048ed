import AgenticTrader.Accounting.Risk
import Mathlib.Data.List.Sort

/-!
# The cash history as a collection

`_cash_history` reads each activity for itself: it is passed over, or it is a
transfer or a cash journal with a fingerprint and an amount, or the history
cannot be used. So the fingerprints are those of the entries, in the order of
the identities whatever the order of the activities, and the flows are the sum
of the transfers (`cashHistory_ok_iff`).
-/

namespace AgenticTrader

/-! ## One activity -/

/-- **A transfer or a cash journal**, as the history keeps it. -/
structure CashEntry where
  journal : Bool
  print : Fingerprint
  amount : ℚ

/-- What an activity is to the history: nothing, an entry, or an exception. -/
def cashEntry (rules : RiskRules) (a : Activity) : Except String (Option CashEntry) :=
  match a.get? "activity_type" with
  | some (.list _) => .error "unhashable type: 'list'"
  | some (.object _) => .error "unhashable type: 'dict'"
  | some (.str kind) =>
    if kind ∉ cashTransfers then .ok none
    else
      match transferAmount a kind with
      | .error e => .error e
      | .ok amount =>
        match a.get? "id" with
        | some (.str id) => .ok (some ⟨kind = "JNLC", (id, rules.digest ⟨kind, rules.round amount,
            (a.get? "transaction_time").getD .null, (a.get? "date").getD .null⟩), amount⟩)
        | _ => .error "Input should be a valid string"
  | _ => .ok none

/-- The history with an entry. -/
def CashHistory.enter (rules : RiskRules) (h : CashHistory) (e : CashEntry) : CashHistory :=
  if e.journal then { h with journals := h.journals ++ [e.print] }
  else { h with
    transfers := h.transfers ++ [e.print]
    total := rules.round (h.total + e.amount) }

section

variable (rules : RiskRules)

/-- **A turn enters what the activity is.** -/
theorem CashHistory.add_eq (h : CashHistory) (a : Activity) :
    h.add rules a = (cashEntry rules a).map (fun e => e.elim h (h.enter rules)) := by
  unfold add cashEntry
  cases a.get? "activity_type" with
  | none => rfl
  | some value =>
    cases value with
    | str kind =>
      dsimp only
      by_cases hk : kind ∈ cashTransfers
      · rw [if_neg (not_not.mpr hk), if_neg (not_not.mpr hk)]
        cases transferAmount a kind with
        | error text => rfl
        | ok amount =>
          cases a.get? "id" with
          | none => rfl
          | some id =>
            cases id with
            | str id =>
              by_cases hj : kind = "JNLC"
              · simp [Except.map, CashHistory.enter, hj]
              · simp [Except.map, CashHistory.enter, hj]
            | _ => rfl
      · rw [if_pos hk, if_pos hk]
        rfl
    | _ => rfl

/-- The entry of an activity, if it is one. -/
def entryOf (a : Activity) : Option CashEntry :=
  (cashEntry rules a).toOption.join

variable {rules} in
/-- The fingerprint of an entry is the identity of its activity, and a digest. -/
theorem entryOf_eq_some {a : Activity} {e : CashEntry} (h : entryOf rules a = some e) :
    a.get? "id" = some (.str e.print.1) ∧ ∃ evidence, e.print.2 = rules.digest evidence := by
  unfold entryOf cashEntry at h
  cases hkind : a.get? "activity_type" with
  | none => simp [hkind, Except.toOption] at h
  | some value =>
    cases value with
    | str kind =>
      rw [hkind] at h
      dsimp only at h
      split at h
      · cases h
      · cases hamount : transferAmount a kind with
        | error text => simp [hamount, Except.toOption] at h
        | ok amount =>
          rw [hamount] at h
          dsimp only at h
          split at h
          · rename_i id hid
            cases h
            exact ⟨hid, _, rfl⟩
          · cases h
    | _ => simp [hkind, Except.toOption] at h

/-- **The history of some activities**: none raises, and the entries are
entered one after the other. -/
theorem foldlM_add_ok_iff {l : List Activity} {h h' : CashHistory} :
    l.foldlM (CashHistory.add rules) h = .ok h'
      ↔ (∀ a ∈ l, ∃ e, cashEntry rules a = .ok e)
        ∧ h' = (l.filterMap (entryOf rules)).foldl (CashHistory.enter rules) h := by
  induction l generalizing h with
  | nil =>
    constructor
    · rintro ⟨⟩
      exact ⟨(fun a ha => by cases ha), rfl⟩
    · rintro ⟨-, rfl⟩
      rfl
  | cons a l ih =>
    rw [List.foldlM_cons, CashHistory.add_eq]
    cases ha : cashEntry rules a with
    | error text =>
      constructor
      · rintro ⟨⟩
      · rintro ⟨hall, -⟩
        obtain ⟨e, he⟩ := hall a List.mem_cons_self
        rw [ha] at he
        cases he
    | ok e =>
      show l.foldlM (CashHistory.add rules) (e.elim h (h.enter rules)) = .ok h' ↔ _
      have hentry : entryOf rules a = e := by
        rw [entryOf, ha]
        rfl
      rw [ih, List.forall_mem_cons, List.filterMap_cons, hentry]
      have hok : ∃ e, cashEntry rules a = .ok e := ⟨e, ha⟩
      cases e with
      | none => simp only [hok, true_and, Option.elim_none]
      | some e => simp only [hok, true_and, Option.elim_some, List.foldl_cons]

/-! ## The whole history -/

/-- The transfers among some entries. -/
def transferEntries (es : List CashEntry) : List CashEntry := es.filter (fun e => !e.journal)

/-- The cash journals among them. -/
def journalEntries (es : List CashEntry) : List CashEntry := es.filter (·.journal)

/-- What some entries come to. -/
theorem foldl_enter (es : List CashEntry) (h : CashHistory) :
    es.foldl (CashHistory.enter rules) h
      = ⟨(transferEntries es).foldl (fun total e => rules.round (total + e.amount)) h.total,
        h.transfers ++ (transferEntries es).map (·.print),
        h.journals ++ (journalEntries es).map (·.print)⟩ := by
  induction es generalizing h with
  | nil => simp [transferEntries, journalEntries]
  | cons e es ih =>
    rw [List.foldl_cons, ih]
    cases he : e.journal with
    | true => simp [CashHistory.enter, transferEntries, journalEntries, he]
    | false => simp [CashHistory.enter, transferEntries, journalEntries, he]

/-- **`_cash_history`, of the entries.** -/
theorem cashHistory_ok_iff {l : List Activity} {h : CashHistory} :
    cashHistory rules l = .ok h
      ↔ (∀ a ∈ l, ∃ e, cashEntry rules a = .ok e)
        ∧ h = ⟨(transferEntries (l.filterMap (entryOf rules))).foldl
            (fun total e => rules.round (total + e.amount)) 0,
          sortFingerprints ((transferEntries (l.filterMap (entryOf rules))).map (·.print)),
          sortFingerprints ((journalEntries (l.filterMap (entryOf rules))).map (·.print))⟩ := by
  unfold cashHistory
  cases hfold : l.foldlM (CashHistory.add rules) ⟨0, [], []⟩ with
  | error text =>
    constructor
    · rintro ⟨⟩
    · rintro ⟨hall, -⟩
      have hok := (foldlM_add_ok_iff rules (h := ⟨0, [], []⟩)).mpr ⟨hall, rfl⟩
      rw [hfold] at hok
      cases hok
  | ok h' =>
    obtain ⟨hall, hentered⟩ := (foldlM_add_ok_iff rules).mp hfold
    rw [foldl_enter] at hentered
    subst hentered
    show Except.ok _ = Except.ok h ↔ _
    rw [Except.ok.injEq]
    constructor
    · rintro rfl
      exact ⟨hall, rfl⟩
    · rintro ⟨-, rfl⟩
      rfl

end

/-! ## The order of the fingerprints -/

/-- `<=` of two fingerprints. -/
def Fingerprint.le (a b : Fingerprint) : Bool :=
  a.1 < b.1 || (a.1 == b.1 && a.2 ≤ b.2)

theorem Fingerprint.le_iff {a b : Fingerprint} :
    Fingerprint.le a b = true ↔ a.1 < b.1 ∨ a.1 = b.1 ∧ a.2 ≤ b.2 := by
  simp [Fingerprint.le]

theorem Fingerprint.le_trans (a b c : Fingerprint) (hab : Fingerprint.le a b = true)
    (hbc : Fingerprint.le b c = true) : Fingerprint.le a c = true := by
  rw [le_iff] at hab hbc ⊢
  rcases hab with hab | ⟨hab, hd⟩
  · rcases hbc with hbc | ⟨hbc, -⟩
    · exact Or.inl (String.lt_trans hab hbc)
    · exact Or.inl (hbc ▸ hab)
  · rcases hbc with hbc | ⟨hbc, hd'⟩
    · exact Or.inl (hab ▸ hbc)
    · exact Or.inr ⟨hab.trans hbc, String.le_trans hd hd'⟩

theorem Fingerprint.le_total (a b : Fingerprint) :
    (Fingerprint.le a b || Fingerprint.le b a) = true := by
  rw [Bool.or_eq_true, le_iff, le_iff]
  by_cases hab : a.1 < b.1
  · exact Or.inl (Or.inl hab)
  · by_cases hba : b.1 < a.1
    · exact Or.inr (Or.inl hba)
    · have h : a.1 = b.1 := String.le_antisymm (String.not_lt.mp hba) (String.not_lt.mp hab)
      rcases String.le_total a.2 b.2 with hd | hd
      · exact Or.inl (Or.inr ⟨h, hd⟩)
      · exact Or.inr (Or.inr ⟨h.symm, hd⟩)

theorem Fingerprint.le_antisymm {a b : Fingerprint} (hab : Fingerprint.le a b = true)
    (hba : Fingerprint.le b a = true) : a = b := by
  rw [le_iff] at hab hba
  rcases hab with hab | ⟨hab, hd⟩
  · rcases hba with hba | ⟨hba, -⟩
    · exact absurd hba (String.lt_asymm hab)
    · exact absurd hab (hba ▸ String.lt_irrefl _)
  · rcases hba with hba | ⟨-, hd'⟩
    · exact absurd hba (hab ▸ String.lt_irrefl _)
    · exact Prod.ext hab (String.le_antisymm hd hd')

theorem sortFingerprints_perm (fs : List Fingerprint) : (sortFingerprints fs).Perm fs :=
  List.mergeSort_perm _ _

theorem pairwise_sortFingerprints (fs : List Fingerprint) :
    (sortFingerprints fs).Pairwise (fun a b => Fingerprint.le a b = true) :=
  List.pairwise_mergeSort Fingerprint.le_trans Fingerprint.le_total fs

/-- **Sorting forgets the order.** -/
theorem sortFingerprints_of_perm {fs fs' : List Fingerprint} (h : fs.Perm fs') :
    sortFingerprints fs = sortFingerprints fs' :=
  List.Perm.eq_of_pairwise (fun _ _ _ _ => Fingerprint.le_antisymm) (pairwise_sortFingerprints fs)
    (pairwise_sortFingerprints fs')
    (((sortFingerprints_perm fs).trans h).trans (sortFingerprints_perm fs').symm)

/-- **Fingerprints of distinct, named identities are valid** once they are
sorted. -/
theorem validFingerprints_sort {fs : List Fingerprint} (hd : (fs.map (·.1)).Nodup)
    (hf : ∀ f ∈ fs, f.1 ≠ "" ∧ f.2.length = 64) :
    validFingerprints (sortFingerprints fs) = true := by
  have hperm := sortFingerprints_perm fs
  have hd' : ((sortFingerprints fs).map (·.1)).Nodup := (hperm.map _).nodup_iff.mpr hd
  unfold validFingerprints
  rw [Bool.and_eq_true, decide_eq_true_eq, List.all_eq_true]
  constructor
  · rw [List.pairwise_map]
    refine (pairwise_sortFingerprints fs).imp₂ ?_ (List.pairwise_map.mp hd')
    intro a b hle hne
    rcases Fingerprint.le_iff.mp hle with hlt | ⟨heq, -⟩
    · exact hlt
    · exact absurd heq hne
  · intro f hmem
    have := hf f (hperm.mem_iff.mp hmem)
    simpa using this

end AgenticTrader
