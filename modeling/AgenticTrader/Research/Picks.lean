import AgenticTrader.Research.Cube
import AgenticTrader.Risk.Rounding
import AgenticTrader.Library.Extended
import AgenticTrader.Library.Ranking
import Mathlib.Data.List.FinRange
import Mathlib.Data.Prod.Lex

/-!
# The picks of a formula

`select_picks` (`research/pooled/formula.py`) takes the best names of each session, session
after session: a name it picked is not available again until its bracket is over.
`select_top_fraction` takes a fraction of the names of each session and skips none.

What is available on a session depends on all the picks before it, through one array
`held_through` that each pick overwrites. The array is enough: a name is picked only when
nothing holds it, so of its picks only the last can reach any later session
(`PickLoop.tracks`).
-/

namespace AgenticTrader

open Ranking

/-- A matrix of scores, one row for each session. -/
abbrev Scores (m : ℕ) := ℕ → Fin m → Extended ℚ

/-- **`Picks`**: the row and the column of each pick. -/
abbrev Picks (m : ℕ) := List (ℕ × Fin m)

variable {m : ℕ}

/-- The key of `np.lexsort((tiebreak, -scores))`: the higher score first, then the lower
tie-break. -/
def rankKey (scores : Scores m) (view : CubeView m) (row : ℕ) (col : Fin m) : ℚ ×ₗ ℕ :=
  toLex (-(scores row col).getD 0, view.tiebreak row col)

/-- Eligible, allowed and scored. -/
def isScored (scores : Scores m) (allowed : ℕ → Fin m → Bool) (view : CubeView m) (row : ℕ)
    (col : Fin m) : Bool :=
  allowed row col && view.eligible row col && (scores row col).isFinite

/-! ## `select_picks` -/

/-- What the loop carries. -/
structure PickLoop (m : ℕ) where
  heldThrough : Fin m → ℤ
  picks : Picks m

section SelectPicks

variable (scores : Scores m) (allowed : ℕ → Fin m → Bool) (view : CubeView m) (k : ℕ)

def PickLoop.start : PickLoop m := ⟨fun _ => -1, []⟩

/-- `np.flatnonzero(…)`, in the order of the columns. -/
def PickLoop.candidates (s : PickLoop m) (row : ℕ) : List (Fin m) :=
  (List.finRange m).filter
    (fun col => isScored scores allowed view row col && decide (s.heldThrough col < row))

/-- One pick. -/
def PickLoop.pick (row : ℕ) (s : PickLoop m) (col : Fin m) : PickLoop m :=
  ⟨Function.update s.heldThrough col (row + view.holding row col - 1), s.picks ++ [(row, col)]⟩

/-- One session. -/
def PickLoop.session (s : PickLoop m) (row : ℕ) : PickLoop m :=
  (best (rankKey scores view row) k (s.candidates scores allowed view row)).foldl
    (PickLoop.pick view row) s

/-- The loop after the sessions before `row`. -/
def PickLoop.after (row : ℕ) : PickLoop m :=
  (List.range row).foldl (PickLoop.session scores allowed view k) PickLoop.start

/-- **`select_picks`** of as many sessions as the scores have. -/
def selectPicks (sessions : ℕ) : Picks m := (PickLoop.after scores allowed view k sessions).picks

end SelectPicks

/-! ## `select_top_fraction` -/

/-- A fraction as `Selection` admits it. -/
structure TopFraction where
  fraction : ℚ
  pos : 0 < fraction
  lt_one : fraction < 1

/-- `round(x, 9)`. -/
def round9 (x : ℚ) : ℚ := roundHalfEven (x * 1000000000) / 1000000000

/-- `math.ceil(round(fraction * size, 9))`. -/
def TopFraction.count (f : TopFraction) (size : ℕ) : ℕ := ⌈round9 (f.fraction * size)⌉.toNat

section SelectTopFraction

variable (scores : Scores m) (allowed : ℕ → Fin m → Bool) (view : CubeView m) (f : TopFraction)

/-- The candidates of a session. -/
def fractionCandidates (row : ℕ) : List (Fin m) :=
  (List.finRange m).filter (isScored scores allowed view row)

/-- The basket of a session. -/
def fractionSession (row : ℕ) : List (Fin m) :=
  best (rankKey scores view row) (f.count (fractionCandidates scores allowed view row).length)
    (fractionCandidates scores allowed view row)

/-- **`select_top_fraction`.** -/
def selectTopFraction (sessions : ℕ) : Picks m :=
  (List.range sessions).flatMap (fun row =>
    (fractionSession scores allowed view f row).map (fun col => (row, col)))

end SelectTopFraction

/-! ## What is picked on a session -/

/-- The columns of the picks of a session. -/
def Picks.at (picks : Picks m) (row : ℕ) : List (Fin m) :=
  (picks.filter (fun pick => pick.1 = row)).map Prod.snd

/-- **A name is available**: it is eligible, allowed and scored, and no earlier pick of it
holds it still. -/
def Available (scores : Scores m) (allowed : ℕ → Fin m → Bool) (view : CubeView m) (picks : Picks m)
    (row : ℕ) (col : Fin m) : Prop :=
  isScored scores allowed view row col = true
    ∧ ∀ i < row, (i, col) ∈ picks → ¬ (row : ℤ) ≤ i + view.holding i col - 1

section Rows

variable {chosen : ℕ → List (Fin m)} {sessions row : ℕ} {col : Fin m}

theorem mem_rows {i : ℕ} :
    (i, col) ∈ (List.range sessions).flatMap (fun row => (chosen row).map (fun col => (row, col)))
      ↔ i < sessions ∧ col ∈ chosen i := by
  rw [List.mem_flatMap]
  constructor
  · rintro ⟨row, hrow, hmem⟩
    obtain ⟨c, hc, heq⟩ := List.mem_map.mp hmem
    cases heq
    exact ⟨List.mem_range.mp hrow, hc⟩
  · rintro ⟨hi, hcol⟩
    exact ⟨i, List.mem_range.mpr hi, List.mem_map.mpr ⟨col, hcol, rfl⟩⟩

theorem at_append (picks picks' : Picks m) (row : ℕ) :
    Picks.at (picks ++ picks') row = Picks.at picks row ++ Picks.at picks' row := by
  unfold Picks.at
  rw [List.filter_append, List.map_append]

theorem at_session (cols : List (Fin m)) (i row : ℕ) :
    Picks.at (cols.map (fun col => (i, col))) row = if i = row then cols else [] := by
  unfold Picks.at
  rw [List.filter_map, List.map_map]
  split_ifs with hi
  · rw [List.filter_eq_self.mpr (fun _ _ => by simp [hi])]
    exact List.map_id _
  · rw [List.filter_eq_nil_iff.mpr (fun _ _ => by simp [hi]), List.map_nil]

/-- Picks that are made row by row are there row by row. -/
theorem at_rows (chosen : ℕ → List (Fin m)) (sessions row : ℕ) :
    Picks.at ((List.range sessions).flatMap
      (fun row => (chosen row).map (fun col => (row, col)))) row
      = if row < sessions then chosen row else [] := by
  induction sessions with
  | zero => rfl
  | succ n ih =>
    rw [List.range_succ, List.flatMap_append, List.flatMap_singleton, at_append, at_session, ih]
    rcases lt_trichotomy row n with hlt | rfl | hgt
    · rw [if_pos hlt, if_neg hlt.ne', if_pos (Nat.lt_succ_of_lt hlt), List.append_nil]
    · rw [if_neg (lt_irrefl row), if_pos rfl, if_pos (Nat.lt_succ_self row), List.nil_append]
    · rw [if_neg hgt.le.not_gt, if_neg hgt.ne, if_neg (Nat.not_lt.mpr hgt), List.append_nil]

/-- Of the picks of some sessions, those up to a session are the picks of fewer. -/
theorem filter_rows (chosen : ℕ → List (Fin m)) {sessions r : ℕ} (hr : r < sessions) :
    ((List.range sessions).flatMap (fun row => (chosen row).map (fun col => (row, col)))).filter
        (fun pick => pick.1 ≤ r)
      = (List.range (r + 1)).flatMap (fun row => (chosen row).map (fun col => (row, col))) := by
  induction sessions, hr using Nat.le_induction with
  | base =>
    refine List.filter_eq_self.mpr (fun pick hpick => ?_)
    exact decide_eq_true (Nat.lt_succ_iff.mp (mem_rows.mp hpick).1)
  | succ n hn ih =>
    rw [List.range_succ, List.flatMap_append, List.flatMap_singleton, List.filter_append, ih,
      List.filter_eq_nil_iff.mpr, List.append_nil]
    intro pick hpick
    obtain ⟨col, -, rfl⟩ := List.mem_map.mp hpick
    exact Bool.not_eq_true _ |>.mpr (decide_eq_false (Nat.not_le.mpr hn))

end Rows

/-! ## The sessions of `select_picks` -/

namespace PickLoop

variable (scores : Scores m) (allowed : ℕ → Fin m → Bool) (view : CubeView m) (k : ℕ)

/-- What is picked on a session. -/
def chosen (row : ℕ) : List (Fin m) :=
  best (rankKey scores view row) k
    ((PickLoop.after scores allowed view k row).candidates scores allowed view row)

variable {scores allowed view k}

theorem foldl_pick_picks (row : ℕ) (cols : List (Fin m)) (s : PickLoop m) :
    (cols.foldl (PickLoop.pick view row) s).picks
      = s.picks ++ cols.map (fun col => (row, col)) := by
  induction cols generalizing s with
  | nil => exact (List.append_nil _).symm
  | cons c cols ih =>
    rw [List.foldl_cons, ih, List.map_cons]
    unfold PickLoop.pick
    rw [List.append_assoc, List.singleton_append]

theorem foldl_pick_heldThrough (row : ℕ) (cols : List (Fin m)) (s : PickLoop m) (col : Fin m) :
    (cols.foldl (PickLoop.pick view row) s).heldThrough col
      = if col ∈ cols then row + view.holding row col - 1 else s.heldThrough col := by
  induction cols generalizing s with
  | nil => rfl
  | cons c cols ih =>
    rw [List.foldl_cons, ih]
    by_cases hrest : col ∈ cols
    · rw [if_pos hrest, if_pos (List.mem_cons_of_mem _ hrest)]
    · rw [if_neg hrest]
      by_cases hc : col = c
      · rw [hc, if_pos List.mem_cons_self]
        exact Function.update_self _ _ _
      · rw [if_neg (by simp [hc, hrest])]
        exact Function.update_of_ne hc _ _

theorem after_succ (row : ℕ) :
    after scores allowed view k (row + 1)
      = (chosen scores allowed view k row).foldl (PickLoop.pick view row)
        (after scores allowed view k row) := by
  unfold after
  rw [List.range_succ, List.foldl_append]
  rfl

/-- **The picks, row by row.** -/
theorem picks_after (row : ℕ) :
    (after scores allowed view k row).picks
      = (List.range row).flatMap
        (fun row => (chosen scores allowed view k row).map (fun col => (row, col))) := by
  induction row with
  | zero => rfl
  | succ row ih =>
    rw [after_succ, foldl_pick_picks, ih, List.range_succ, List.flatMap_append,
      List.flatMap_singleton]

theorem mem_candidates {s : PickLoop m} {row : ℕ} {col : Fin m} :
    col ∈ s.candidates scores allowed view row
      ↔ isScored scores allowed view row col = true ∧ s.heldThrough col < row := by
  unfold candidates
  rw [List.mem_filter, Bool.and_eq_true, decide_eq_true_eq]
  exact and_iff_right (List.mem_finRange col)

theorem nodup_candidates (s : PickLoop m) (row : ℕ) :
    (s.candidates scores allowed view row).Nodup :=
  (List.nodup_finRange m).filter _

theorem isBest_chosen (row : ℕ) :
    IsBest (rankKey scores view row) k
      (· ∈ (after scores allowed view k row).candidates scores allowed view row)
      (chosen scores allowed view k row) :=
  isBest_best _ k (nodup_candidates _ row)

/-- **The last pick is enough.** From a session on, the array says of a name whether any
pick of it reaches there. -/
theorem tracks (row : ℕ) (col : Fin m) {s : ℤ} (hs : (row : ℤ) ≤ s) :
    (after scores allowed view k row).heldThrough col < s
      ↔ ∀ i < row, col ∈ chosen scores allowed view k i → (i : ℤ) + view.holding i col - 1 < s := by
  induction row generalizing s with
  | zero =>
    have hstart : (-1 : ℤ) < s := by
      rw [Nat.cast_zero] at hs
      omega
    exact ⟨fun _ i hi => absurd hi (Nat.not_lt_zero i), fun _ => hstart⟩
  | succ row ih =>
    have hrow : (row : ℤ) ≤ s := by
      rw [Nat.cast_succ] at hs
      omega
    rw [after_succ, foldl_pick_heldThrough]
    by_cases hcol : col ∈ chosen scores allowed view k row
    · -- what was picked before this session ends before it
      have hfree := ((mem_candidates.mp (isBest_chosen row |>.mem_available col hcol)).2)
      rw [ih le_rfl] at hfree
      rw [if_pos hcol]
      constructor
      · intro hheld i hi hpicked
        rcases Nat.lt_succ_iff_lt_or_eq.mp hi with hi | rfl
        · exact (hfree i hi hpicked).trans_le hrow
        · exact hheld
      · exact fun hall => hall row (Nat.lt_succ_self row) hcol
    · rw [if_neg hcol, ih hrow]
      constructor
      · intro hall i hi hpicked
        rcases Nat.lt_succ_iff_lt_or_eq.mp hi with hi | rfl
        · exact hall i hi hpicked
        · exact absurd hpicked hcol
      · exact fun hall i hi => hall i (Nat.lt_succ_of_lt hi)

/-- **The candidates are the available names.** -/
theorem mem_candidates_iff_available {sessions row : ℕ} (hrow : row < sessions) {col : Fin m} :
    col ∈ (after scores allowed view k row).candidates scores allowed view row
      ↔ Available scores allowed view (selectPicks scores allowed view k sessions) row col := by
  unfold selectPicks
  rw [mem_candidates, tracks row col le_rfl, picks_after]
  refine and_congr_right (fun _ => forall_congr' (fun i => forall_congr' (fun hi => ?_)))
  rw [mem_rows, and_iff_right (hi.trans hrow), not_le]

theorem at_selectPicks {sessions row : ℕ} (hrow : row < sessions) :
    Picks.at (selectPicks scores allowed view k sessions) row
      = chosen scores allowed view k row := by
  unfold selectPicks
  rw [picks_after, at_rows, if_pos hrow]

/-- **The best available names.** -/
theorem isBest_selectPicks {sessions row : ℕ} (hrow : row < sessions) :
    IsBest (rankKey scores view row) k
      (Available scores allowed view (selectPicks scores allowed view k sessions) row)
      (Picks.at (selectPicks scores allowed view k sessions) row) := by
  have havailable : (· ∈ (after scores allowed view k row).candidates scores allowed view row)
      = Available scores allowed view (selectPicks scores allowed view k sessions) row :=
    funext (fun _ => propext (mem_candidates_iff_available hrow))
  rw [at_selectPicks hrow, ← havailable]
  exact isBest_chosen row

/-! ### What comes after -/

/-- Two windows that are the same on a session. -/
structure SameRow (scores scores' : Scores m) (allowed allowed' : ℕ → Fin m → Bool)
    (view view' : CubeView m) (row : ℕ) : Prop where
  scores : scores row = scores' row
  allowed : allowed row = allowed' row
  eligible : view.eligible row = view'.eligible row
  holding : view.holding row = view'.holding row
  tiebreak : view.tiebreak row = view'.tiebreak row

variable {scores' : Scores m} {allowed' : ℕ → Fin m → Bool} {view' : CubeView m}

theorem SameRow.session {row : ℕ} (h : SameRow scores scores' allowed allowed' view view' row)
    (s : PickLoop m) :
    session scores allowed view k s row = session scores' allowed' view' k s row := by
  have hkey : rankKey scores view row = rankKey scores' view' row := by
    funext col
    unfold rankKey
    rw [h.scores, h.tiebreak]
  have hcandidates :
      s.candidates scores allowed view row = s.candidates scores' allowed' view' row := by
    unfold candidates isScored
    rw [h.scores, h.allowed, h.eligible]
  have hpick : PickLoop.pick view row = PickLoop.pick view' row := by
    funext s col
    unfold PickLoop.pick
    rw [h.holding]
  unfold PickLoop.session
  rw [hkey, hcandidates, hpick]

/-- **The loop has not seen what comes after.** -/
theorem after_congr {row : ℕ}
    (h : ∀ i < row, SameRow scores scores' allowed allowed' view view' i) :
    after scores allowed view k row = after scores' allowed' view' k row := by
  unfold after
  exact List.foldl_ext _ _ _ (fun s i hi => (h i (List.mem_range.mp hi)).session s)

theorem filter_selectPicks {sessions r : ℕ} (hr : r < sessions) :
    (selectPicks scores allowed view k sessions).filter (fun pick => pick.1 ≤ r)
      = (after scores allowed view k (r + 1)).picks := by
  unfold selectPicks
  rw [picks_after, filter_rows _ hr, picks_after]

/-! ### Permuted columns -/

variable (σ : Equiv.Perm (Fin m))

/-- A matrix whose columns are permuted. -/
def permuted {α : Type} (matrix : ℕ → Fin m → α) : ℕ → Fin m → α :=
  fun row col => matrix row (σ.symm col)

/-- A view whose symbols are permuted. -/
def permutedView (view : CubeView m) : CubeView m where
  sessions := view.sessions
  eligible := permuted σ view.eligible
  labelled := permuted σ view.labelled
  rGross := permuted σ view.rGross
  rCost := permuted σ view.rCost
  holding := permuted σ view.holding
  hit := permuted σ view.hit
  tiebreak := permuted σ view.tiebreak

theorem permuted_apply {α : Type} (matrix : ℕ → Fin m → α) (row : ℕ) (col : Fin m) :
    permuted σ matrix row (σ col) = matrix row col := by
  unfold permuted
  rw [Equiv.symm_apply_apply]

theorem permutedView_eligible (view : CubeView m) (row : ℕ) (col : Fin m) :
    (permutedView σ view).eligible row (σ col) = view.eligible row col :=
  permuted_apply σ _ row col

theorem permutedView_holding (view : CubeView m) (row : ℕ) (col : Fin m) :
    (permutedView σ view).holding row (σ col) = view.holding row col :=
  permuted_apply σ _ row col

theorem permutedView_tiebreak (view : CubeView m) (row : ℕ) (col : Fin m) :
    (permutedView σ view).tiebreak row (σ col) = view.tiebreak row col :=
  permuted_apply σ _ row col

/-- The loop over permuted columns. -/
def permutedLoop (s : PickLoop m) : PickLoop m :=
  ⟨fun col => s.heldThrough (σ.symm col), s.picks.map (fun pick => (pick.1, σ pick.2))⟩

theorem permutedLoop_heldThrough (s : PickLoop m) (col : Fin m) :
    (permutedLoop σ s).heldThrough (σ col) = s.heldThrough col :=
  congrArg s.heldThrough (Equiv.symm_apply_apply σ col)

/-- The candidates move with the columns. -/
theorem candidates_permuted (s : PickLoop m) (row : ℕ) :
    ((s.candidates scores allowed view row).map σ).Perm
      ((permutedLoop σ s).candidates (permuted σ scores) (permuted σ allowed) (permutedView σ view)
        row) := by
  refine (List.perm_ext_iff_of_nodup ((nodup_candidates s row).map σ.injective)
    (nodup_candidates _ row)).mpr (fun col => ?_)
  obtain ⟨c, rfl⟩ := σ.surjective col
  have hscored : isScored (permuted σ scores) (permuted σ allowed) (permutedView σ view) row (σ c)
      = isScored scores allowed view row c := by
    unfold isScored
    rw [permuted_apply, permuted_apply, permutedView_eligible]
  rw [List.mem_map_of_injective σ.injective, mem_candidates, mem_candidates, hscored,
    permutedLoop_heldThrough]

theorem rankKey_permuted (row : ℕ) (col : Fin m) :
    rankKey (permuted σ scores) (permutedView σ view) row (σ col)
      = rankKey scores view row col := by
  unfold rankKey
  rw [permuted_apply, permutedView_tiebreak]

theorem rankKey_injective {row : ℕ} (h : Function.Injective (view.tiebreak row)) :
    Function.Injective (rankKey scores view row) := by
  intro a b hab
  exact h (congrArg (fun key => (ofLex key).2) hab)

theorem pick_permuted (row : ℕ) (s : PickLoop m) (col : Fin m) :
    PickLoop.pick (permutedView σ view) row (permutedLoop σ s) (σ col)
      = permutedLoop σ (PickLoop.pick view row s col) := by
  have hheld : Function.update (permutedLoop σ s).heldThrough (σ col)
        (row + (permutedView σ view).holding row (σ col) - 1)
      = fun c => Function.update s.heldThrough col (row + view.holding row col - 1) (σ.symm c) := by
    funext c
    obtain ⟨c, rfl⟩ := σ.surjective c
    rw [Equiv.symm_apply_apply, permutedView_holding]
    by_cases hc : c = col
    · rw [hc, Function.update_self, Function.update_self]
    · rw [Function.update_of_ne hc, Function.update_of_ne (σ.injective.ne hc),
        permutedLoop_heldThrough]
  have hpicks : (permutedLoop σ s).picks ++ [(row, σ col)]
      = (s.picks ++ [(row, col)]).map (fun pick => (pick.1, σ pick.2)) := by
    rw [List.map_append]
    rfl
  unfold PickLoop.pick
  rw [hheld, hpicks]
  rfl

theorem foldl_pick_permuted (row : ℕ) (cols : List (Fin m)) (s : PickLoop m) :
    cols.foldl (fun s col => PickLoop.pick (permutedView σ view) row s (σ col)) (permutedLoop σ s)
      = permutedLoop σ (cols.foldl (PickLoop.pick view row) s) := by
  induction cols generalizing s with
  | nil => rfl
  | cons c cols ih => rw [List.foldl_cons, List.foldl_cons, pick_permuted, ih]

/-- **A session over permuted columns.** -/
theorem session_permuted {row : ℕ} (h : Function.Injective (view.tiebreak row)) (s : PickLoop m) :
    session (permuted σ scores) (permuted σ allowed) (permutedView σ view) k (permutedLoop σ s) row
      = permutedLoop σ (session scores allowed view k s row) := by
  have hinjective : Function.Injective
      (rankKey (permuted σ scores) (permutedView σ view) row) := by
    refine rankKey_injective (fun a b hab => ?_)
    exact σ.symm.injective (h hab)
  have hperm : ((s.candidates scores allowed view row).map σ).Perm _ := candidates_permuted σ s row
  have hbest := best_perm (fun a _ b _ hab => hinjective hab) hperm k
  rw [best_map σ (fun col _ => rankKey_permuted σ row col)] at hbest
  unfold session
  rw [← hbest, List.foldl_map, foldl_pick_permuted]

/-- **Permuted columns, permuted picks.** -/
theorem selectPicks_permuted {sessions : ℕ}
    (h : ∀ row < sessions, Function.Injective (view.tiebreak row)) :
    selectPicks (permuted σ scores) (permuted σ allowed) (permutedView σ view) k sessions
      = (selectPicks scores allowed view k sessions).map (fun pick => (pick.1, σ pick.2)) := by
  have hafter : after (permuted σ scores) (permuted σ allowed) (permutedView σ view) k sessions
      = permutedLoop σ (after scores allowed view k sessions) := by
    induction sessions with
    | zero => rfl
    | succ n ih =>
      unfold after at ih ⊢
      rw [List.range_succ, List.foldl_append, List.foldl_append,
        ih (fun row hrow => h row (Nat.lt_succ_of_lt hrow)), List.foldl_cons, List.foldl_nil,
        session_permuted σ (h n (Nat.lt_succ_self n)), List.foldl_cons, List.foldl_nil]
  unfold selectPicks
  rw [hafter]
  rfl

end PickLoop

/-! ## The count of `select_top_fraction` -/

/-- A whole number is rounded to itself. -/
theorem round9_intCast (z : ℤ) : round9 z = z := by
  have hcast : (z : ℚ) * 1000000000 = ((z * 1000000000 : ℤ) : ℚ) := by push_cast; rfl
  unfold round9
  rw [hcast, roundHalfEven_intCast]
  push_cast
  rw [mul_div_cancel_right₀ _ (by norm_num)]

theorem round9_mono {x y : ℚ} (h : x ≤ y) : round9 x ≤ round9 y := by
  have hround : (roundHalfEven (x * 1000000000) : ℚ) ≤ roundHalfEven (y * 1000000000) := by
    exact_mod_cast roundHalfEven_mono (by linarith)
  unfold round9
  linarith

/-- Just above a whole number is rounded to it: the half goes to the even side. -/
theorem round9_just_above (z : ℤ) : round9 (z + 1 / 2000000000) = z := by
  have hfloor : ⌊((z : ℚ) + 1 / 2000000000) * 1000000000⌋ = z * 1000000000 := by
    rw [Int.floor_eq_iff]
    push_cast
    constructor <;> linarith
  have hrest : ((z : ℚ) + 1 / 2000000000) * 1000000000 - ((z * 1000000000 : ℤ) : ℚ) = 1 / 2 := by
    push_cast
    ring
  have heven : z * 1000000000 % 2 = 0 := by omega
  have hround : roundHalfEven (((z : ℚ) + 1 / 2000000000) * 1000000000) = z * 1000000000 := by
    unfold roundHalfEven
    simp only [hfloor, hrest, lt_irrefl, if_false, heven, if_true]
  unfold round9
  rw [hround]
  push_cast
  rw [mul_div_cancel_right₀ _ (by norm_num)]

/-- **Where the count is the rounded-up product**: unless the product lies above a whole
number by no more than half of the last digit that is kept. -/
theorem ceil_round9_eq_iff {x : ℚ} :
    ⌈round9 x⌉ = ⌈x⌉ ↔ ¬ ∃ z : ℤ, (z : ℚ) < x ∧ x ≤ z + 1 / 2000000000 := by
  constructor
  · rintro heq ⟨z, hlt, hle⟩
    have hround : round9 x ≤ z := (round9_mono hle).trans_eq (round9_just_above z)
    have hceil : z < ⌈x⌉ := Int.lt_ceil.mpr hlt
    have hceil' : ⌈round9 x⌉ ≤ z := Int.ceil_le.mpr hround
    omega
  · intro hband
    have hupper : ⌈round9 x⌉ ≤ ⌈x⌉ := by
      refine Int.ceil_le.mpr ?_
      rw [← round9_intCast]
      exact round9_mono (Int.le_ceil x)
    have hlower : ((⌈x⌉ - 1 : ℤ) : ℚ) < round9 x := by
      have habove : ((⌈x⌉ - 1 : ℤ) : ℚ) + 1 / 2000000000 < x := by
        by_contra hle
        exact hband ⟨⌈x⌉ - 1, Int.lt_ceil.mp (by omega), not_lt.mp hle⟩
      have hdistance := (abs_le.mp (abs_sub_roundHalfEven (x * 1000000000))).2
      unfold round9
      rw [lt_div_iff₀ (by norm_num)]
      linarith
    have := Int.lt_ceil.mpr hlower
    omega

theorem TopFraction.count_le (f : TopFraction) (size : ℕ) : f.count size ≤ size := by
  unfold TopFraction.count
  rw [Int.toNat_le, Int.ceil_le]
  have hproduct : f.fraction * size ≤ (size : ℤ) := by
    rw [Int.cast_natCast]
    exact mul_le_of_le_one_left (Nat.cast_nonneg size) f.lt_one.le
  exact (round9_mono hproduct).trans_eq (round9_intCast size)

theorem TopFraction.count_cast (f : TopFraction) (size : ℕ) :
    (f.count size : ℤ) = ⌈round9 (f.fraction * size)⌉ := by
  have hproduct : ((0 : ℤ) : ℚ) ≤ f.fraction * size := by
    rw [Int.cast_zero]
    exact mul_nonneg f.pos.le (Nat.cast_nonneg size)
  have hround : 0 ≤ round9 (f.fraction * size) := by
    have hzero := round9_intCast 0
    rw [Int.cast_zero] at hproduct hzero
    rw [← hzero]
    exact round9_mono hproduct
  exact Int.toNat_of_nonneg (Int.ceil_nonneg hround)

theorem mem_fractionCandidates {scores : Scores m} {allowed : ℕ → Fin m → Bool} {view : CubeView m}
    {row : ℕ} {col : Fin m} :
    col ∈ fractionCandidates scores allowed view row
      ↔ isScored scores allowed view row col = true := by
  unfold fractionCandidates
  rw [List.mem_filter, and_iff_right (List.mem_finRange col)]

/-- **The best names of a basket**, as many as the count says. -/
theorem isBest_selectTopFraction (scores : Scores m) (allowed : ℕ → Fin m → Bool)
    (view : CubeView m) (f : TopFraction) {sessions row : ℕ} (hrow : row < sessions) :
    IsBest (rankKey scores view row) (f.count (fractionCandidates scores allowed view row).length)
        (fun col => isScored scores allowed view row col = true)
        (Picks.at (selectTopFraction scores allowed view f sessions) row)
      ∧ (Picks.at (selectTopFraction scores allowed view f sessions) row).length
        = f.count (fractionCandidates scores allowed view row).length := by
  have hcandidates : (· ∈ fractionCandidates scores allowed view row)
      = fun col => isScored scores allowed view row col = true :=
    funext (fun _ => propext mem_fractionCandidates)
  unfold selectTopFraction
  rw [at_rows, if_pos hrow, ← hcandidates]
  unfold fractionSession
  refine ⟨isBest_best _ _ ((List.nodup_finRange m).filter _), ?_⟩
  rw [length_best]
  exact min_eq_left (f.count_le _)

/-- **Picks are the best available names.** On every session `select_picks` takes the best of
the names that are eligible, allowed, scored and not held by an earlier pick; its picks up to a
session depend on nothing after it; and where the tie-breaks of every session are distinct,
permuted columns give permuted picks. `select_top_fraction` takes the best as well, as many as
the product of the fraction and the number of candidates says after it was rounded to nine
decimals and then up. -/
theorem picks_are_best_available (scores : Scores m) (allowed : ℕ → Fin m → Bool)
    (view : CubeView m) (k sessions : ℕ) :
    (∀ row < sessions, IsBest (rankKey scores view row) k
      (Available scores allowed view (selectPicks scores allowed view k sessions) row)
      (Picks.at (selectPicks scores allowed view k sessions) row))
    ∧ (∀ pick ∈ selectPicks scores allowed view k sessions, pick.1 < sessions)
    ∧ (∀ r < sessions, ∀ (scores' : Scores m) (allowed' : ℕ → Fin m → Bool) (view' : CubeView m)
      (sessions' : ℕ), r < sessions' →
      (∀ i ≤ r, PickLoop.SameRow scores scores' allowed allowed' view view' i) →
      (selectPicks scores allowed view k sessions).filter (fun pick => pick.1 ≤ r)
        = (selectPicks scores' allowed' view' k sessions').filter (fun pick => pick.1 ≤ r))
    ∧ (∀ σ : Equiv.Perm (Fin m), (∀ row < sessions, Function.Injective (view.tiebreak row)) →
      selectPicks (PickLoop.permuted σ scores) (PickLoop.permuted σ allowed)
          (PickLoop.permutedView σ view) k sessions
        = (selectPicks scores allowed view k sessions).map (fun pick => (pick.1, σ pick.2)))
    ∧ ∀ (f : TopFraction), ∀ row < sessions,
      IsBest (rankKey scores view row) (f.count (fractionCandidates scores allowed view row).length)
          (fun col => isScored scores allowed view row col = true)
          (Picks.at (selectTopFraction scores allowed view f sessions) row)
        ∧ (Picks.at (selectTopFraction scores allowed view f sessions) row).length
          = f.count (fractionCandidates scores allowed view row).length
        ∧ ∀ size, ((f.count size : ℤ) = ⌈f.fraction * size⌉
          ↔ ¬ ∃ z : ℤ, (z : ℚ) < f.fraction * size ∧ f.fraction * size ≤ z + 1 / 2000000000) := by
  refine ⟨fun row hrow => PickLoop.isBest_selectPicks hrow, ?_, ?_, ?_, ?_⟩
  · intro pick hpick
    unfold selectPicks at hpick
    rw [PickLoop.picks_after] at hpick
    exact (mem_rows.mp hpick).1
  · intro r hr scores' allowed' view' sessions' hr' hsame
    rw [PickLoop.filter_selectPicks hr, PickLoop.filter_selectPicks hr',
      PickLoop.after_congr (fun i hi => hsame i (Nat.lt_succ_iff.mp hi))]
  · exact fun σ hdistinct => PickLoop.selectPicks_permuted σ hdistinct
  · intro f row hrow
    obtain ⟨hbest, hlength⟩ := isBest_selectTopFraction scores allowed view f hrow
    refine ⟨hbest, hlength, fun size => ?_⟩
    rw [f.count_cast, ceil_round9_eq_iff]

/-- The double nearest to a tenth lies above it. -/
theorem doubleTenth_pos : (0 : ℚ) < 3602879701896397 / 36028797018963968 := by norm_num

theorem doubleTenth_lt_one : (3602879701896397 / 36028797018963968 : ℚ) < 1 := by norm_num

/-- `0.1`, as it is stored. -/
def doubleTenth : TopFraction :=
  ⟨3602879701896397 / 36028797018963968, doubleTenth_pos, doubleTenth_lt_one⟩

/-- Ten names, all of them eligible. -/
def tenNames : CubeView 10 where
  sessions := [0]
  eligible _ _ := true
  labelled _ _ := true
  rGross _ _ := some 0
  rCost _ _ := some 0
  holding _ _ := 1
  hit _ _ := .timeout
  tiebreak _ col := col

/-- The index of a name as its score. -/
def indexScores : Scores 10 := fun _ col => .finite (col : ℕ)

/-- A tenth of ten names, rounded up, would be two of them: the code rounds to nine decimals
first and takes one. -/
theorem doubleTenth_of_tenNames :
    (Picks.at (selectTopFraction indexScores (fun _ _ => true) tenNames doubleTenth 1) 0).length = 1
      ∧ ⌈doubleTenth.fraction
          * (fractionCandidates indexScores (fun _ _ => true) tenNames 0).length⌉ = 2 :=
  ⟨by decide +kernel, by decide +kernel⟩

end AgenticTrader
