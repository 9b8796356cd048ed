import Mathlib.Algebra.BigOperators.Group.List.Basic
import Mathlib.Algebra.Order.BigOperators.Group.List
import Mathlib.Algebra.Order.Field.Rat
import Mathlib.Algebra.Order.Group.Unbundled.Abs
import Mathlib.Algebra.Order.Ring.Abs
import Mathlib.Tactic.FieldSimp
import Mathlib.Tactic.Linarith
import Mathlib.Tactic.Push
import Mathlib.Tactic.Ring

/-!
# Apportionment by rounding

A total is divided in proportion to weights, each share is rounded to a whole
number, and what the roundings lost or gained is handed out one by one, slot
after slot. Handing it out restores the total (`sum_redistribute`), as long as
there is a share in every slot it comes to (`redistribute_eq`).
-/

namespace Apportion

/-! ## Shares -/

/-- The shares of a total, in proportion to the weights. -/
def shares (total : ℚ) (weights : List ℚ) : List ℚ :=
  weights.map (fun w => w / weights.sum * total)

@[simp] theorem length_shares (total : ℚ) (weights : List ℚ) :
    (shares total weights).length = weights.length := by
  simp [shares]

/-- **The shares add up to the total.** -/
theorem sum_shares (total : ℚ) {weights : List ℚ} (h : weights.sum ≠ 0) :
    (shares total weights).sum = total := by
  have hscale : ∀ l : List ℚ, (l.map (fun w => w / weights.sum * total)).sum
      = l.sum / weights.sum * total := by
    intro l
    induction l with
    | nil => simp
    | cons w l ih =>
      rw [List.map_cons, List.sum_cons, List.sum_cons, ih]
      ring
  rw [shares, hscale, div_self h, one_mul]

theorem sum_pos {weights : List ℚ} (hpos : ∀ w ∈ weights, 0 < w) (hne : weights ≠ []) :
    0 < weights.sum := by
  cases weights with
  | nil => exact absurd rfl hne
  | cons w weights =>
    rw [List.sum_cons]
    have hfirst := hpos w List.mem_cons_self
    have hrest : 0 ≤ weights.sum :=
      List.sum_nonneg (fun v hv => (hpos v (List.mem_cons_of_mem _ hv)).le)
    linarith

/-- Positive weights have positive shares. -/
theorem pos_of_mem_shares {total : ℚ} (htotal : 0 < total) {weights : List ℚ}
    (hpos : ∀ w ∈ weights, 0 < w) {x : ℚ} (hx : x ∈ shares total weights) : 0 < x := by
  obtain ⟨w, hw, rfl⟩ := List.mem_map.mp hx
  have hsum := sum_pos hpos (List.ne_nil_of_mem hw)
  exact mul_pos (div_pos (hpos w hw) hsum) htotal

theorem le_sum_of_mem {weights : List ℚ} (hpos : ∀ w ∈ weights, 0 < w) {w : ℚ}
    (hw : w ∈ weights) : w ≤ weights.sum :=
  List.single_le_sum (fun v hv => (hpos v hv).le) w hw

/-- **Multiples of a unit that are near enough to some numbers add up to the same**,
when these add up to a multiple. -/
theorem sum_eq_of_near {α : Type*} {l : List α} {f g : α → ℚ} {u : ℚ}
    (hsum : ∃ k : ℤ, (l.map g).sum = k * u) (hunits : ∀ x ∈ l, ∃ k : ℤ, f x = k * u)
    (hnear : ∀ x ∈ l, |f x - g x| * l.length < u) : (l.map f).sum = (l.map g).sum := by
  rcases eq_or_ne l [] with rfl | hne
  · rfl
  have hlength : 0 < (l.length : ℚ) := by
    exact_mod_cast List.length_pos_iff.mpr hne
  have hunit : 0 < u := by
    obtain ⟨x, hx⟩ := List.exists_mem_of_ne_nil l hne
    exact lt_of_le_of_lt (by positivity) (hnear x hx)
  obtain ⟨m, hm⟩ : ∃ m : ℤ, (l.map f).sum = m * u := by
    clear hsum hnear hne hlength
    induction l with
    | nil => exact ⟨0, by simp⟩
    | cons x l ih =>
      obtain ⟨⟨k, hk⟩, hl⟩ := List.forall_mem_cons.mp hunits
      obtain ⟨m, hm⟩ := ih hl
      exact ⟨k + m, by rw [List.map_cons, List.sum_cons, hk, hm]; push_cast; ring⟩
  -- each is off by less than its part of the unit
  have hdiff : ∀ l' : List α, l' ⊆ l → l' ≠ [] →
      |(l'.map f).sum - (l'.map g).sum| < l'.length * (u / l.length) := by
    intro l'
    induction l' with
    | nil => exact fun _ hnil => absurd rfl hnil
    | cons x l' ih =>
      intro hsub _
      obtain ⟨hx, hl'⟩ := List.cons_subset.mp hsub
      have hhead : |f x - g x| < u / l.length := (lt_div_iff₀ hlength).mpr (hnear x hx)
      have htail : |(l'.map f).sum - (l'.map g).sum| ≤ l'.length * (u / l.length) := by
        rcases eq_or_ne l' [] with rfl | hne'
        · simp
        · exact (ih hl' hne').le
      have hsplit : ((x :: l').map f).sum - ((x :: l').map g).sum
          = (f x - g x) + ((l'.map f).sum - (l'.map g).sum) := by
        simp only [List.map_cons, List.sum_cons]
        ring
      rw [hsplit, List.length_cons]
      push_cast
      linarith [abs_add_le (f x - g x) ((l'.map f).sum - (l'.map g).sum)]
  obtain ⟨k, hk⟩ := hsum
  have hclose := hdiff l (List.Subset.refl l) hne
  rw [mul_div_cancel₀ _ hlength.ne', hm, hk, ← sub_mul, abs_mul, abs_of_pos hunit,
    mul_lt_iff_lt_one_left hunit] at hclose
  have hzero : |m - k| < 1 := by exact_mod_cast hclose
  rw [hm, hk, sub_eq_zero.mp (Int.abs_lt_one_iff.mp hzero)]

/-! ## The remainder -/

/-- Adding to the allocation at an index. -/
def addAt (allocations : List ℤ) (index : ℕ) (sign : ℤ) : Option (List ℤ) :=
  if index < allocations.length then some (allocations.modify index (· + sign)) else none

/-- **The loop that hands out a remainder**, slot after slot. -/
def redistribute (slots : ℕ) (sign : ℤ) (times : ℕ) (allocations : List ℤ) : Option (List ℤ) :=
  (List.range times).foldlM (fun allocations i => addAt allocations (i % slots) sign) allocations

/-- What a slot was handed after some turns. -/
def handed (slots : ℕ) (sign : ℤ) (times i : ℕ) : ℤ :=
  sign * (times / slots + if i < times % slots then 1 else 0 : ℕ)

@[simp] theorem handed_zero (slots : ℕ) (sign : ℤ) (i : ℕ) : handed slots sign 0 i = 0 := by
  simp [handed]

/-- The next turn is in the same round, or begins the next. -/
theorem turn_cases {slots : ℕ} (hslots : 0 < slots) (times : ℕ) :
    (times % slots + 1 < slots ∧ (times + 1) / slots = times / slots
        ∧ (times + 1) % slots = times % slots + 1)
      ∨ (times % slots + 1 = slots ∧ (times + 1) / slots = times / slots + 1
        ∧ (times + 1) % slots = 0) := by
  have hsplit := Nat.div_add_mod times slots
  have hlt := Nat.mod_lt times hslots
  rcases Nat.lt_or_ge (times % slots + 1) slots with h | h
  · exact Or.inl ⟨h, (Nat.div_mod_unique (by omega)).mpr ⟨by omega, h⟩⟩
  · have hlast : times % slots + 1 = slots := by omega
    have hround : times + 1 = slots * (times / slots + 1) := by
      rw [mul_add, mul_one]
      omega
    refine Or.inr ⟨hlast, ?_, ?_⟩
    · rw [hround, Nat.mul_div_cancel_left _ hslots]
    · rw [hround]
      simp

/-- A turn hands one to the slot whose turn it is. -/
theorem handed_succ {slots i : ℕ} (hi : i < slots) (sign : ℤ) (times : ℕ) :
    handed slots sign (times + 1) i
      = handed slots sign times i + if i = times % slots then sign else 0 := by
  unfold handed
  rcases turn_cases (by omega : 0 < slots) times with ⟨hlt, hdiv, hmod⟩ | ⟨hlast, hdiv, hmod⟩
  · rw [hdiv, hmod]
    rcases lt_trichotomy i (times % slots) with h | h | h
    · rw [if_pos (by omega), if_pos h, if_neg (by omega), add_zero]
    · rw [if_pos (by omega), if_neg (by omega), if_pos h]
      push_cast
      ring
    · rw [if_neg (by omega), if_neg (by omega), if_neg (by omega)]
      simp
  · rw [hdiv, hmod, if_neg (by omega)]
    rcases Nat.lt_or_ge i (times % slots) with h | h
    · rw [if_pos h, if_neg (by omega)]
      simp
    · rw [if_neg (by omega), if_pos (by omega)]
      push_cast
      ring

theorem sum_addAt {l l' : List ℤ} {index : ℕ} {sign : ℤ} (h : addAt l index sign = some l') :
    l'.sum = l.sum + sign := by
  unfold addAt at h
  split at h
  · rename_i hlt
    cases h
    induction l generalizing index with
    | nil => simp at hlt
    | cons q l ih =>
      cases index with
      | zero =>
        simp
        ring
      | succ index =>
        rw [List.modify_succ_cons, List.sum_cons, List.sum_cons, ih (by simpa using hlt)]
        ring
  · cases h

/-- **What is handed out is added to the sum.** -/
theorem sum_redistribute {slots times : ℕ} {sign : ℤ} {l l' : List ℤ}
    (h : redistribute slots sign times l = some l') : l'.sum = l.sum + times * sign := by
  unfold redistribute at h
  induction times generalizing l' with
  | zero =>
    cases h
    simp
  | succ times ih =>
    rw [List.range_succ, List.foldlM_append] at h
    obtain ⟨m, hm, h⟩ := Option.bind_eq_some_iff.mp h
    simp only [List.foldlM_cons, List.foldlM_nil] at h
    obtain ⟨n, hn, h⟩ := Option.bind_eq_some_iff.mp h
    cases h
    rw [sum_addAt hn, ih hm]
    push_cast
    ring

theorem modify_handed {slots : ℕ} {sign : ℤ} {times : ℕ} {l : List ℤ} (hl : l.length ≤ slots) :
    (l.mapIdx (fun i q => q + handed slots sign times i)).modify (times % slots) (· + sign)
      = l.mapIdx (fun i q => q + handed slots sign (times + 1) i) := by
  refine List.ext_getElem (by simp) ?_
  intro i hi hi'
  have hslot : i < slots := by
    rw [List.length_mapIdx] at hi'
    omega
  rw [List.getElem_modify]
  simp only [List.getElem_mapIdx, handed_succ hslot]
  by_cases h : times % slots = i
  · rw [if_pos h, if_pos h.symm, add_assoc]
  · rw [if_neg h, if_neg (Ne.symm h), add_zero]

/-- **The loop hands out the remainder in turn**, unless it comes to a slot that
is not there. -/
theorem redistribute_eq {slots : ℕ} {sign : ℤ} {times : ℕ} {l : List ℤ} (hslots : 0 < slots)
    (hl : l.length ≤ slots) :
    redistribute slots sign times l
      = if times ≤ l.length ∨ slots ≤ l.length then
          some (l.mapIdx (fun i q => q + handed slots sign times i)) else none := by
  unfold redistribute
  induction times with
  | zero =>
    have hsame : l.mapIdx (fun i q => q + handed slots sign 0 i) = l :=
      List.ext_getElem (by simp) (by simp)
    rw [if_pos (Or.inl (Nat.zero_le _)), hsame]
    rfl
  | succ times ih =>
    rw [List.range_succ, List.foldlM_append, ih]
    have hmod := Nat.mod_lt times hslots
    by_cases hfilled : slots ≤ l.length
    · -- a share in every slot
      have hlength : l.length = slots := le_antisymm hl hfilled
      rw [if_pos (Or.inr hfilled), if_pos (Or.inr hfilled)]
      simp only [Option.bind_eq_bind, Option.bind_some, List.foldlM_cons, List.foldlM_nil, addAt,
        List.length_mapIdx]
      rw [if_pos (by omega), modify_handed hl]
      rfl
    · simp only [or_iff_left hfilled]
      have hshort : times ≤ l.length → times % slots = times := fun h =>
        Nat.mod_eq_of_lt (by omega)
      by_cases hnext : times + 1 ≤ l.length
      · rw [if_pos (by omega), if_pos hnext]
        simp only [Option.bind_eq_bind, Option.bind_some, List.foldlM_cons, List.foldlM_nil, addAt,
          List.length_mapIdx]
        rw [if_pos (by omega), modify_handed hl]
        rfl
      · rw [if_neg hnext]
        by_cases htimes : times ≤ l.length
        · -- the first slot without a share
          rw [if_pos htimes]
          simp only [Option.bind_eq_bind, Option.bind_some, List.foldlM_cons, List.foldlM_nil,
            addAt, List.length_mapIdx]
          rw [if_neg (by have := hshort htimes; omega)]
          rfl
        · rw [if_neg htimes]
          rfl

/-- **Raising to a floor changes the sum** exactly when something is below it. -/
theorem sum_map_max_eq_iff (floor : ℤ) (l : List ℤ) :
    (l.map (max floor)).sum = l.sum ↔ ∀ q ∈ l, floor ≤ q := by
  have hle : ∀ l : List ℤ, l.sum ≤ (l.map (max floor)).sum := by
    intro l
    induction l with
    | nil => simp
    | cons q l ih =>
      rw [List.map_cons, List.sum_cons, List.sum_cons]
      exact add_le_add (le_max_right _ _) ih
  induction l with
  | nil => simp
  | cons q l ih =>
    rw [List.map_cons, List.sum_cons, List.sum_cons, List.forall_mem_cons]
    have hhead : q ≤ max floor q := le_max_right _ _
    have htail := hle l
    constructor
    · intro h
      have hq : max floor q = q := by omega
      exact ⟨max_eq_right_iff.mp hq, ih.mp (by omega)⟩
    · rintro ⟨hq, hl⟩
      rw [max_eq_right hq, ih.mpr hl]

end Apportion
