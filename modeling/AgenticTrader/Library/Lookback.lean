import Mathlib.Data.ENat.Basic
import Mathlib.Data.List.Basic

/-!
# How far back a series looks

A series has a value at every bar. It is computed from a base – the rows of a
table – by operators that look back: a lag reads one earlier bar, a rolling
operator the last few, a recursive one the whole history. `Tracks L` says of a
series computed from one base and the same series computed from another that
its values agree at any two bars up to which the bases agree on the last
`L + 1` bars. It is stated over two bases of any lengths, so at `L = ⊤` it says
that the later bars do not matter, and at a finite `L` that the earlier ones do
not either.

The rules below say what each kind of operator adds to `L`.
-/

namespace Lookback

variable {α β γ ρ : Type*} {n m : ℕ}

/-! ## Looking back -/

/-- The value some bars ago, where there was one. -/
def ago (x : Fin n → α) (i : Fin n) (k : ℕ) : Option α :=
  if k ≤ i.val then some (x ⟨i - k, by omega⟩) else none

/-- **The last values up to a bar**, oldest first, where there are enough. -/
def window (x : Fin n → α) (d : ℕ) (i : Fin n) : Option (List α) :=
  if d ≤ i.val + 1 then some ((List.range d).reverse.filterMap (ago x i)) else none

/-- All the values up to a bar, oldest first. -/
def history (x : Fin n → α) (i : Fin n) : List α :=
  (List.range (i.val + 1)).reverse.filterMap (ago x i)

/-- **Two series agree on the last bars** up to two bars, and have as many of
them. -/
def Matches (L : ℕ∞) (x : Fin n → α) (i : Fin n) (y : Fin m → α) (j : Fin m) : Prop :=
  ∀ k : ℕ, (k : ℕ∞) ≤ L → ago x i k = ago y j k

section

variable {x : Fin n → α} {y : Fin m → α} {i : Fin n} {j : Fin m} {L M : ℕ∞}

theorem ago_of_le {k : ℕ} (h : k ≤ i.val) : ago x i k = some (x ⟨i - k, by omega⟩) :=
  if_pos h

theorem ago_zero : ago x i 0 = some (x i) :=
  if_pos (Nat.zero_le _)

theorem ago_eq_none_iff {k : ℕ} : ago x i k = none ↔ i.val < k := by
  unfold ago
  split <;> simp <;> omega

theorem Matches.mono (h : Matches L x i y j) (hle : M ≤ L) : Matches M x i y j :=
  fun k hk => h k (hk.trans hle)

theorem Matches.now (h : Matches L x i y j) : x i = y j := by
  have h₀ := h 0 (by simp)
  rw [ago_zero, ago_zero] at h₀
  exact Option.some.inj h₀

/-- The two have as many earlier bars. -/
theorem Matches.le_iff (h : Matches L x i y j) {k : ℕ} (hk : (k : ℕ∞) ≤ L) :
    k ≤ i.val ↔ k ≤ j.val := by
  have hnone : ago x i k = none ↔ ago y j k = none := by rw [h k hk]
  rw [ago_eq_none_iff, ago_eq_none_iff] at hnone
  omega

theorem ago_ago {k l : ℕ} (h : k ≤ i.val) : ago x ⟨i - k, by omega⟩ l = ago x i (k + l) := by
  unfold ago
  by_cases hl : k + l ≤ i.val
  · rw [if_pos hl, if_pos (show l ≤ i.val - k by omega)]
    congr 3
    show i.val - k - l = i.val - (k + l)
    omega
  · rw [if_neg hl, if_neg (show ¬ l ≤ i.val - k by omega)]

/-- **They agree at earlier bars**, to a smaller depth. -/
theorem Matches.earlier {k : ℕ} (h : Matches (L + k) x i y j) (hi : k ≤ i.val)
    (hj : k ≤ j.val) :
    Matches L x ⟨i - k, by omega⟩ y ⟨j - k, by omega⟩ := by
  intro l hl
  rw [ago_ago hi, ago_ago hj]
  refine h (k + l) ?_
  push_cast
  rw [add_comm]
  exact add_le_add_left hl _

/-- Series that agree up to a bar agree to any depth there. -/
theorem matches_of_history (hij : i.val = j.val)
    (h : ∀ k : ℕ, (hk : k ≤ i.val) → x ⟨k, by omega⟩ = y ⟨k, by omega⟩) :
    Matches ⊤ x i y j := by
  intro k _
  unfold ago
  by_cases hk : k ≤ i.val
  · rw [if_pos hk, if_pos (hij ▸ hk)]
    refine congrArg some ((h (i - k) (by omega)).trans ?_)
    congr 1
    exact Fin.ext (by show i.val - k = j.val - k; omega)
  · rw [if_neg hk, if_neg (hij ▸ hk)]

/-- Series with enough bars match where the last of them agree. -/
theorem matches_of_last {d : ℕ} (hi : d ≤ i.val) (hj : d ≤ j.val)
    (h : ∀ k : ℕ, (hk : k ≤ d) → x ⟨i - k, by omega⟩ = y ⟨j - k, by omega⟩) :
    Matches d x i y j := by
  intro k hk
  have hkd : k ≤ d := by exact_mod_cast hk
  rw [ago_of_le (by omega), ago_of_le (by omega), h k hkd]

theorem window_congr {d : ℕ} (h : Matches (d - 1 : ℕ) x i y j) : window x d i = window y d j := by
  unfold window
  have hle : d ≤ i.val + 1 ↔ d ≤ j.val + 1 := by
    have := h.le_iff (k := d - 1) le_rfl
    omega
  by_cases hd : d ≤ i.val + 1
  · rw [if_pos hd, if_pos (hle.mp hd)]
    refine congrArg some (List.filterMap_congr fun k hk => h k ?_)
    have : k < d := List.mem_range.mp (List.mem_reverse.mp hk)
    exact_mod_cast (by omega : k ≤ d - 1)
  · rw [if_neg hd, if_neg (fun hj => hd (hle.mpr hj))]

theorem history_congr (h : Matches ⊤ x i y j) : history x i = history y j := by
  have hij : i.val = j.val :=
    le_antisymm ((h.le_iff le_top).mp le_rfl) ((h.le_iff le_top).mpr le_rfl)
  unfold history
  rw [hij]
  exact List.filterMap_congr fun k _ => h k le_top

end

/-! ## Series computed from a base -/

/-- **A series looks back at most so far**: computed from two bases, it agrees
at bars up to which the bases do. -/
def Tracks (base : Fin n → ρ) (base' : Fin m → ρ) (L : ℕ∞) (x : Fin n → α) (y : Fin m → α) :
    Prop :=
  ∀ i j, Matches L base i base' j → x i = y j

namespace Tracks

variable {base : Fin n → ρ} {base' : Fin m → ρ} {L M : ℕ∞} {x : Fin n → α} {y : Fin m → α}
  {z : Fin n → β} {w : Fin m → β}

theorem mono (h : Tracks base base' L x y) (hle : L ≤ M) : Tracks base base' M x y :=
  fun i j hm => h i j (hm.mono hle)

theorem widen (h : Tracks base base' L x y) (d : ℕ) : Tracks base base' (L + d) x y :=
  h.mono le_self_add

theorem const (a : α) : Tracks base base' L (fun _ => a) (fun _ => a) :=
  fun _ _ _ => rfl

theorem self : Tracks base base' L base base' :=
  fun _ _ hm => hm.now

theorem map (f : α → β) (h : Tracks base base' L x y) :
    Tracks base base' L (fun i => f (x i)) (fun j => f (y j)) :=
  fun i j hm => congrArg f (h i j hm)

theorem map₂ (f : α → β → γ) (h : Tracks base base' L x y) (h' : Tracks base base' L z w) :
    Tracks base base' L (fun i => f (x i) (z i)) (fun j => f (y j) (w j)) := by
  intro i j hm
  show f (x i) (z i) = f (y j) (w j)
  rw [h i j hm, h' i j hm]

/-- **A series matches as far as its base does**, less what it looks back. -/
theorem matches_of {d : ℕ} (h : Tracks base base' L x y) {i : Fin n} {j : Fin m}
    (hm : Matches (L + d) base i base' j) : Matches d x i y j := by
  intro k hk
  have hkd : k ≤ d := by exact_mod_cast hk
  have hle : k ≤ i.val ↔ k ≤ j.val := hm.le_iff (hk.trans le_add_self)
  by_cases hi : k ≤ i.val
  · rw [ago_of_le hi, ago_of_le (hle.mp hi)]
    refine congrArg some (h _ _ (Matches.earlier (hm.mono ?_) hi (hle.mp hi)))
    exact add_le_add_right hk _
  · have hj : ¬ k ≤ j.val := fun hj => hi (hle.mpr hj)
    unfold ago
    rw [if_neg hi, if_neg hj]

/-- **A value some bars ago.** -/
theorem ago {d : ℕ} (h : Tracks base base' L x y) :
    Tracks base base' (L + d) (fun i => Lookback.ago x i d) (fun j => Lookback.ago y j d) :=
  fun _ _ hm => h.matches_of hm d le_rfl

/-- **The last values.** -/
theorem window {d : ℕ} (h : Tracks base base' L x y) :
    Tracks base base' (L + (d - 1 : ℕ)) (Lookback.window x d) (Lookback.window y d) :=
  fun _ _ hm => window_congr (h.matches_of hm)

/-- **The whole history** is determined by the whole history of the base. -/
theorem history (h : Tracks base base' ⊤ x y) :
    Tracks base base' ⊤ (Lookback.history x) (Lookback.history y) := by
  intro i j hm
  refine history_congr fun k _ => ?_
  exact h.matches_of (hm.mono (by simp)) k le_rfl

end Tracks

end Lookback
