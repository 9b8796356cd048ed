import Mathlib.Data.List.Nodup
import Mathlib.Data.List.Pairwise
import Mathlib.Data.List.Count

/-!
# Tables

A database table is the list of its rows. `INSERT` appends, `SELECT` is a
`List.filter` or a `List.find?`, and `UPDATE … SET … WHERE` is
`updateWhere`: it rewrites the rows a condition picks and leaves the others
where they are, so the table keeps its length, its order and, when the
rewriting keeps it, its key.
-/

namespace Table

variable {α β κ : Type*} {p : α → Bool} {f : α → α} {rows : List α}

/-- **`UPDATE rows SET f WHERE p`.** -/
def updateWhere (p : α → Bool) (f : α → α) (rows : List α) : List α :=
  rows.map (fun r => if p r then f r else r)

/-- The row an update leaves in the place of `r`. -/
theorem mem_updateWhere {r' : α} :
    r' ∈ updateWhere p f rows
      ↔ ∃ r ∈ rows, r' = if p r then f r else r := by
  unfold updateWhere
  rw [List.mem_map]
  exact exists_congr (fun r => and_congr_right (fun _ => eq_comm))

/-- A row the condition does not pick stays. -/
theorem mem_updateWhere_of_not {r : α} (h : r ∈ rows) (hp : p r = false) :
    r ∈ updateWhere p f rows :=
  mem_updateWhere.mpr ⟨r, h, by simp [hp]⟩

/-- A row the condition picks is rewritten. -/
theorem mem_updateWhere_of {r : α} (h : r ∈ rows) (hp : p r = true) :
    f r ∈ updateWhere p f rows :=
  mem_updateWhere.mpr ⟨r, h, by simp [hp]⟩

/-- A column the rewriting keeps is unchanged. -/
theorem map_updateWhere (key : α → κ) (hf : ∀ r, p r = true → key (f r) = key r) :
    (updateWhere p f rows).map key = rows.map key := by
  unfold updateWhere
  rw [List.map_map]
  refine List.map_congr_left (fun r _ => ?_)
  by_cases h : p r = true
  · simp [h, hf r h]
  · simp [h]

/-- Two rows with one key are one row. -/
theorem eq_of_key {key : α → κ} (h : (rows.map key).Nodup) {a b : α}
    (ha : a ∈ rows) (hb : b ∈ rows) (hab : key a = key b) : a = b :=
  List.inj_on_of_nodup_map h ha hb hab

/-- Two rows with one value in an optional column of distinct values are one
row. -/
theorem eq_of_column {column : α → Option κ} (h : (rows.filterMap column).Nodup) {a b : α}
    {k : κ} (ha : a ∈ rows) (hb : b ∈ rows) (hak : column a = some k)
    (hbk : column b = some k) : a = b := by
  induction rows with
  | nil => cases ha
  | cons r rows ih =>
    have hrest : ∀ x ∈ rows, column x = some k → k ∈ rows.filterMap column :=
      fun x hx hk => List.mem_filterMap.mpr ⟨x, hx, hk⟩
    rw [List.filterMap_cons] at h
    rcases List.mem_cons.mp ha with rfl | ha' <;> rcases List.mem_cons.mp hb with rfl | hb'
    · rfl
    · rw [hak] at h
      exact absurd (hrest b hb' hbk) (List.nodup_cons.mp h).1
    · rw [hbk] at h
      exact absurd (hrest a ha' hak) (List.nodup_cons.mp h).1
    · refine ih ?_ ha' hb'
      split at h
      · exact h
      · exact (List.nodup_cons.mp h).2

/-! ## Rows over time -/

/-- **A row that persists**: it stays under its key, and a final value of it is
kept. -/
structure Persists (key : α → κ) (value : α → β) (final : β → Prop) (r r' : α) : Prop where
  same : key r' = key r
  kept : final (value r) → value r' = value r

namespace Persists

variable {key : α → κ} {value : α → β} {final : β → Prop} {r r' r'' : α}

theorem refl (r : α) : Persists key value final r r :=
  ⟨rfl, fun _ => rfl⟩

theorem trans (h : Persists key value final r r') (h' : Persists key value final r' r'') :
    Persists key value final r r'' := by
  refine ⟨h'.same.trans h.same, fun hf => ?_⟩
  have hkept := h.kept hf
  rw [h'.kept (by rw [hkept]; exact hf), hkept]

/-- A row with a final value is there later, and whatever is under its key then
has that value. -/
theorem of_final {rows' : List α} (hkeys : (rows'.map key).Nodup)
    (h : ∃ r' ∈ rows', Persists key value final r r') (hf : final (value r)) :
    (∃ r' ∈ rows', key r' = key r) ∧ ∀ r' ∈ rows', key r' = key r → value r' = value r := by
  obtain ⟨r₁, hr₁, hp⟩ := h
  refine ⟨⟨r₁, hr₁, hp.same⟩, fun r' hr' hkey => ?_⟩
  rw [eq_of_key hkeys hr' hr₁ (hkey.trans hp.same.symm)]
  exact hp.kept hf

end Persists

/-! ## Keys -/

/-- A row appended under a new key keeps the key unique. -/
theorem nodup_map_append_singleton {key : α → κ} {r : α}
    (h : (rows.map key).Nodup) (hr : ∀ a ∈ rows, key a ≠ key r) :
    ((rows ++ [r]).map key).Nodup := by
  rw [List.map_append, List.nodup_append]
  refine ⟨h, by simp, fun a ha b hb => ?_⟩
  obtain ⟨x, hx, rfl⟩ := List.mem_map.mp ha
  rw [List.map_singleton, List.mem_singleton] at hb
  rw [hb]
  exact hr x hx

/-- One row at most has a given key. -/
theorem countP_key_le_one {key : α → κ} [DecidableEq κ] (h : (rows.map key).Nodup) (k : κ) :
    rows.countP (fun r => key r == k) ≤ 1 := by
  have hcount := List.nodup_iff_count_le_one.mp h k
  rw [List.count_eq_countP, List.countP_map] at hcount
  exact hcount

/-- An update adds to a count at most the rows it picks and makes count. -/
theorem countP_updateWhere_le (q : α → Bool) :
    (updateWhere p f rows).countP q ≤ rows.countP q + rows.countP (fun r => p r && q (f r)) := by
  unfold updateWhere
  rw [List.countP_map]
  induction rows with
  | nil => simp
  | cons r rows ih =>
    simp only [List.countP_cons, Function.comp_apply]
    by_cases hp : p r = true
    · simp only [hp, if_true, Bool.true_and]
      omega
    · simp only [hp, if_false, Bool.false_and, Bool.false_eq_true]
      omega

/-- A row found satisfies the condition it was looked up by. -/
theorem find?_some_iff_of_nodup {key : α → κ} [DecidableEq κ] {k : κ} {r : α}
    (h : (rows.map key).Nodup) :
    rows.find? (fun a => key a == k) = some r ↔ r ∈ rows ∧ key r = k := by
  constructor
  · intro hf
    exact ⟨List.mem_of_find?_eq_some hf, by simpa using List.find?_some hf⟩
  · rintro ⟨hr, hk⟩
    cases hf : rows.find? (fun a => key a == k) with
    | none =>
      exact absurd hk (by simpa using List.find?_eq_none.mp hf r hr)
    | some a =>
      have ha : key a = k := by simpa using List.find?_some hf
      rw [eq_of_key h (List.mem_of_find?_eq_some hf) hr (ha.trans hk.symm)]

/-- What a lookup finds that an update does not disturb: the row, as the update
left it. -/
theorem find?_updateWhere {q : α → Bool} (hq : ∀ r, p r = true → q (f r) = q r) :
    (updateWhere p f rows).find? q = (rows.find? q).map (fun r => if p r then f r else r) := by
  induction rows with
  | nil => rfl
  | cons r rows ih =>
    have hr : q (if p r then f r else r) = q r := by
      split
      · exact hq r ‹_›
      · rfl
    show List.find? q ((if p r then f r else r) :: updateWhere p f rows) = _
    rw [List.find?_cons, List.find?_cons, hr]
    cases q r with
    | false => exact ih
    | true => rfl

/-- What a lookup finds is the same in the columns an update leaves alone. -/
theorem find?_updateWhere_map {q : α → Bool} {column : α → κ}
    (hq : ∀ r, p r = true → q (f r) = q r) (hf : ∀ r, p r = true → column (f r) = column r) :
    ((updateWhere p f rows).find? q).map column = (rows.find? q).map column := by
  rw [find?_updateWhere hq, Option.map_map]
  congr 1
  funext r
  show column (if p r then f r else r) = column r
  split
  · exact hf r ‹_›
  · rfl

/-- The row of a key, in a table whose rows of that key were rewritten. -/
theorem find?_updateWhere_self {key : α → κ} [DecidableEq κ] {k : κ}
    (hf : ∀ r, key (f r) = key r) :
    (updateWhere (fun a => key a == k) f rows).find? (fun a => key a == k)
      = (rows.find? (fun a => key a == k)).map f := by
  unfold updateWhere
  induction rows with
  | nil => rfl
  | cons r rows ih =>
    by_cases h : key r = k
    · simp [h, hf]
    · simpa [h, hf] using ih

/-- The row of another key. -/
theorem find?_updateWhere_ne {key : α → κ} [DecidableEq κ] {k k' : κ} (hne : k' ≠ k)
    (hf : ∀ r, key (f r) = key r) :
    (updateWhere (fun a => key a == k) f rows).find? (fun a => key a == k')
      = rows.find? (fun a => key a == k') := by
  unfold updateWhere
  induction rows with
  | nil => rfl
  | cons r rows ih =>
    by_cases h : key r = k
    · have h' : key r ≠ k' := fun e => hne (e.symm.trans h)
      simpa [h, hf, h', hne.symm] using ih
    · by_cases h' : key r = k'
      · simp [h', hne]
      · simpa [h, h'] using ih

end Table
