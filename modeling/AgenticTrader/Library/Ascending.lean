import Mathlib.Data.List.Sort
import Mathlib.Data.List.TakeWhile

/-!
# Lists in ascending order of a key

Of a list whose keys ascend, the entries up to a bound are a prefix, so that a loop which stops
at the first entry beyond it has passed all of them (`takeWhile_eq_filter`), and a later bound
only adds entries at the end (`prefix_filter_le`). A range cut out by two binary searches is
the entries between the two keys (`slice_eq_filter`).
-/

namespace Ascending

variable {α κ : Type*} {p : α → Bool} {l : List α}

/-- **Stopping at the first entry that fails skips nothing**, where no later entry passes. -/
theorem takeWhile_eq_filter (h : l.Pairwise (fun a b => p b = true → p a = true)) :
    l.takeWhile p = l.filter p := by
  induction l with
  | nil => rfl
  | cons a l ih =>
    obtain ⟨ha, hl⟩ := List.pairwise_cons.mp h
    by_cases hp : p a = true
    · rw [List.takeWhile_cons_of_pos hp, List.filter_cons_of_pos hp, ih hl]
    · have hrest : l.filter p = [] :=
        List.filter_eq_nil_iff.mpr (fun b hb hpb => hp (ha b hb hpb))
      rw [List.takeWhile_cons_of_neg hp, List.filter_cons_of_neg hp, hrest]

/-- What is left after the entries that pass is what fails. -/
theorem drop_length_takeWhile (h : l.Pairwise (fun a b => p b = true → p a = true)) :
    l.drop (l.takeWhile p).length = l.filter (fun a => !p a) := by
  induction l with
  | nil => rfl
  | cons a l ih =>
    obtain ⟨ha, hl⟩ := List.pairwise_cons.mp h
    by_cases hp : p a = true
    · rw [List.takeWhile_cons_of_pos hp, List.length_cons, List.drop_succ_cons, ih hl,
        List.filter_cons_of_neg (by simp [hp])]
    · rw [List.takeWhile_cons_of_neg hp, List.length_nil, List.drop_zero]
      refine (List.filter_eq_self.mpr (fun b hb => ?_)).symm
      rcases List.mem_cons.mp hb with rfl | hb
      · simpa using hp
      · simpa using fun hpb => hp (ha b hb hpb)

/-- Dropping the first entries that pass leaves what fails. -/
theorem dropWhile_eq_filter (h : l.Pairwise (fun a b => p b = true → p a = true)) :
    l.dropWhile p = l.filter (fun a => !p a) := by
  calc l.dropWhile p
      = (l.takeWhile p ++ l.dropWhile p).drop (l.takeWhile p).length := List.drop_left.symm
    _ = l.drop (l.takeWhile p).length := by rw [List.takeWhile_append_dropWhile]
    _ = l.filter (fun a => !p a) := drop_length_takeWhile h

/-- The entries that pass are the first ones. -/
theorem lt_length_takeWhile (h : l.Pairwise (fun a b => p b = true → p a = true)) {i : ℕ}
    (hi : i < l.length) : i < (l.takeWhile p).length ↔ p l[i] = true := by
  induction l generalizing i with
  | nil => cases hi
  | cons a l ih =>
    obtain ⟨ha, hl⟩ := List.pairwise_cons.mp h
    by_cases hp : p a = true
    · rw [List.takeWhile_cons_of_pos hp, List.length_cons]
      cases i with
      | zero => simpa using hp
      | succ i =>
        rw [List.getElem_cons_succ, Nat.succ_lt_succ_iff]
        exact ih hl (Nat.succ_lt_succ_iff.mp hi)
    · rw [List.takeWhile_cons_of_neg hp]
      refine ⟨fun hlt => absurd hlt (Nat.not_lt_zero i), fun hpi => absurd ?_ hp⟩
      cases i with
      | zero => exact hpi
      | succ i => exact ha _ (List.getElem_mem _) hpi

variable [LinearOrder κ] {key : α → κ}

theorem pairwise_le_bound (h : l.Pairwise (fun a b => key a < key b)) (bound : κ) :
    l.Pairwise (fun a b => decide (key b ≤ bound) = true → decide (key a ≤ bound) = true) :=
  h.imp (fun hab hb => decide_eq_true (hab.le.trans (of_decide_eq_true hb)))

theorem pairwise_lt_bound (h : l.Pairwise (fun a b => key a < key b)) (bound : κ) :
    l.Pairwise (fun a b => decide (key b < bound) = true → decide (key a < bound) = true) :=
  h.imp (fun hab hb => decide_eq_true (hab.trans (of_decide_eq_true hb)))

/-- **A later bound adds entries at the end.** -/
theorem prefix_filter_le (h : l.Pairwise (fun a b => key a < key b)) {bound bound' : κ}
    (hle : bound ≤ bound') :
    l.filter (fun a => key a ≤ bound) <+: l.filter (fun a => key a ≤ bound') := by
  have hsame : l.filter (fun a => key a ≤ bound)
      = (l.filter (fun a => key a ≤ bound')).filter (fun a => key a ≤ bound) := by
    rw [List.filter_filter]
    refine List.filter_congr (fun a _ => ?_)
    rw [Bool.eq_iff_iff, Bool.and_eq_true, decide_eq_true_eq, decide_eq_true_eq]
    exact ⟨fun hab => ⟨hab, hab.trans hle⟩, fun hab => hab.1⟩
  rw [hsame, ← takeWhile_eq_filter (pairwise_le_bound (h.filter _) bound)]
  exact List.takeWhile_prefix _

/-- **How many keys lie below a bound**, by the entry at that place. -/
theorem length_filter_lt_le (h : l.Pairwise (fun a b => key a < key b)) (bound : κ) (n : ℕ) :
    (l.filter (fun a => decide (key a < bound))).length ≤ n
      ↔ ∀ a, l[n]? = some a → bound ≤ key a := by
  have hbelow := pairwise_lt_bound h bound
  rw [← takeWhile_eq_filter hbelow, ← not_lt]
  by_cases hn : n < l.length
  · rw [lt_length_takeWhile hbelow hn, decide_eq_true_eq, not_lt, List.getElem?_eq_getElem hn]
    exact ⟨fun hle a ha => by cases ha; exact hle, fun hall => hall _ rfl⟩
  · refine ⟨fun _ a ha => ?_, fun _ hlt => hn (hlt.trans_le (List.takeWhile_sublist _).length_le)⟩
    rw [List.getElem?_eq_none (not_lt.mp hn)] at ha
    cases ha

/-- The entries below the key of one are those before it. -/
theorem length_takeWhile_lt (h : l.Pairwise (fun a b => key a < key b)) {i : ℕ}
    (hi : i < l.length) : (l.takeWhile (fun a => decide (key a < key l[i]))).length = i := by
  have hbelow := pairwise_lt_bound h (key l[i])
  refine le_antisymm (not_lt.mp (fun hlt => ?_)) (not_lt.mp (fun hlt => ?_))
  · exact lt_irrefl _ (of_decide_eq_true ((lt_length_takeWhile hbelow hi).mp hlt))
  · have hkept := hlt.trans hi
    refine lt_irrefl _ ((lt_length_takeWhile hbelow hkept).mpr (decide_eq_true ?_))
    exact List.pairwise_iff_getElem.mp h _ i hkept hi hlt

/-- Those up to the key of one are those before it and itself. -/
theorem length_takeWhile_le (h : l.Pairwise (fun a b => key a < key b)) {i : ℕ}
    (hi : i < l.length) : (l.takeWhile (fun a => decide (key a ≤ key l[i]))).length = i + 1 := by
  have hupto := pairwise_le_bound h (key l[i])
  refine le_antisymm (not_lt.mp (fun hlt => ?_))
    (Nat.succ_le_of_lt ((lt_length_takeWhile hupto hi).mpr (decide_eq_true le_rfl)))
  have hnext : i + 1 < l.length := hlt.trans_le (List.takeWhile_sublist _).length_le
  have hle := of_decide_eq_true ((lt_length_takeWhile hupto hnext).mp hlt)
  exact not_lt.mpr hle (List.pairwise_iff_getElem.mp h i (i + 1) hi hnext (Nat.lt_succ_self i))

/-- `index.searchsorted(x)`: how many keys lie below. -/
def searchsorted (key : α → κ) (l : List α) (x : κ) : ℕ :=
  (l.takeWhile (fun a => decide (key a < x))).length

/-- `frame.iloc[index.searchsorted(start) : index.searchsorted(stop)]`. -/
def slice (key : α → κ) (l : List α) (start stop : κ) : List α :=
  (l.take (searchsorted key l stop)).drop (searchsorted key l start)

/-- **The entries between two keys.** -/
theorem slice_eq_filter (h : l.Pairwise (fun a b => key a < key b)) {start stop : κ}
    (hle : start ≤ stop) :
    slice key l start stop
      = l.filter (fun a => decide (start ≤ key a) && decide (key a < stop)) := by
  have hstart := pairwise_lt_bound h start
  -- what the first search counts lies within what the second one keeps
  have hbelow : l.filter (fun a => decide (key a < start))
      = (l.filter (fun a => decide (key a < stop))).filter (fun a => decide (key a < start)) := by
    rw [List.filter_filter]
    refine List.filter_congr (fun a _ => ?_)
    rw [Bool.eq_iff_iff, Bool.and_eq_true, decide_eq_true_eq, decide_eq_true_eq]
    exact ⟨fun ha => ⟨ha, ha.trans_le hle⟩, fun ha => ha.1⟩
  have hkept := pairwise_lt_bound (h.filter (fun a => decide (key a < stop))) start
  have hfront : l.takeWhile (fun a => decide (key a < stop)) <+: l := List.takeWhile_prefix _
  unfold slice searchsorted
  rw [← List.prefix_iff_eq_take.mp hfront,
    takeWhile_eq_filter (pairwise_lt_bound h stop), takeWhile_eq_filter hstart, hbelow,
    ← takeWhile_eq_filter hkept, drop_length_takeWhile hkept, List.filter_filter]
  refine List.filter_congr (fun a _ => ?_)
  rw [← decide_not, decide_eq_decide.mpr not_lt]

end Ascending
