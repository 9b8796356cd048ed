import AgenticTrader.Execution.Slicer
import AgenticTrader.Risk.Rounding

/-!
# When slicing conserves the order

`slicing_conserves` says for which quantities, slice counts and profiles the
slices are positive and add up to the order, and for which orders the children of
a plan do. The sum is the exact one of the doubles.

Whole units split evenly add up. Split by weights they do unless the last step
raises a slice to one. Even slices in hundredths do only when the quotient is
itself the double of a whole number of hundredths. Weighted slices in hundredths
do when no operation rounds, and when the shares are so near to whole quarters
that these are what they are rounded to; the roundings of other shares may happen
to cancel, and nothing but the sum itself says when.
-/

namespace AgenticTrader

open Apportion

/-! ## Whole slices -/

theorem intCast_sum (l : List ℤ) : ((l.sum : ℤ) : ℚ) = (l.map (fun q : ℤ => (q : ℚ))).sum :=
  map_list_sum (Int.castAddHom ℚ) l

/-- The remainder goes to the first slots. -/
theorem sum_firsts {r : ℤ} (hr : 0 ≤ r) (n : ℕ) :
    ((List.range n).map (fun i : ℕ => if (i : ℤ) < r then (1 : ℤ) else 0)).sum = min r n := by
  induction n with
  | zero => simp [hr]
  | succ n ih =>
    rw [List.range_succ, List.map_append, List.sum_append, ih, List.map_singleton,
      List.sum_singleton]
    split <;> push_cast <;> omega

/-- **Even whole slices** are positive and add up. -/
theorem evenUnits_conserve {intTotal slots : ℤ} (hslots : 1 ≤ slots) (hle : slots ≤ intTotal) :
    (∀ q ∈ evenUnits intTotal slots, 1 ≤ q) ∧ (evenUnits intTotal slots).sum = intTotal := by
  have hbase : 1 ≤ intTotal / slots := (Int.le_ediv_iff_mul_le (by omega)).mpr (by omega)
  have hnonneg : 0 ≤ intTotal % slots := Int.emod_nonneg _ (by omega)
  have hlt : intTotal % slots < slots := Int.emod_lt_of_pos _ (by omega)
  constructor
  · intro q hq
    obtain ⟨i, -, rfl⟩ := List.mem_map.mp hq
    split <;> omega
  · have hsplit : ∀ n : ℕ, ((List.range n).map (fun i : ℕ =>
          intTotal / slots + if (i : ℤ) < intTotal % slots then 1 else 0)).sum
        = n * (intTotal / slots) + min (intTotal % slots) n := by
      intro n
      rw [List.sum_map_add, sum_firsts hnonneg]
      simp
    rw [evenUnits, hsplit, Int.toNat_of_nonneg (by omega), min_eq_left hlt.le,
      Int.mul_ediv_add_emod]

/-- **What each slot of a weighted split is allotted**: its share, rounded, and its
turns of what the rounded shares miss of the total. -/
def allotted (intTotal slots : ℤ) (used : List ℚ) : List ℤ :=
  ((floatShares (binary64 intTotal) used).map roundHalfEven).mapIdx (fun i q =>
    q + handed slots.toNat (if 0 < shortfall intTotal used then 1 else -1)
      (shortfall intTotal used).natAbs i)

/-- **No share falls below one whole unit**, with its turns of the remainder, there
is a share in every slot the remainder comes to, and no allotment is too large for
a double. -/
structure SharesReachOne (intTotal slots : ℤ) (used : List ℚ) : Prop where
  weighed : sumDoubles used ≠ 0
  slotted : (shortfall intTotal used).natAbs ≤ used.length ∨ slots.toNat ≤ used.length
  reach : ∀ q ∈ allotted intTotal slots used, 1 ≤ q ∧ binary64 q = q

section Weighted

variable {intTotal slots : ℤ} {used weights : List ℚ}

variable (intTotal) in
theorem weightedUnits_eq (hslots : 0 < slots) (hused : used.length ≤ slots.toNat) :
    weightedUnits intTotal slots used
      = if (shortfall intTotal used).natAbs ≤ used.length ∨ slots.toNat ≤ used.length then
          some (allotted intTotal slots used) else none := by
  have hlength : ((floatShares (binary64 intTotal) used).map roundHalfEven).length
      = used.length := by simp [floatShares]
  unfold weightedUnits
  rw [redistribute_eq (by omega) (by rw [hlength]; exact hused), hlength]
  rfl

/-- **The allotments add up to the total.** -/
theorem sum_weightedUnits {units : List ℤ} (h : weightedUnits intTotal slots used = some units) :
    units.sum = intTotal := by
  have hshort : shortfall intTotal used
      = intTotal - ((floatShares (binary64 intTotal) used).map roundHalfEven).sum := rfl
  rw [sum_redistribute h]
  split <;> omega

/-- **Weighted whole slices add up** when no share falls below one. -/
theorem weightedSlices_conserve (hslots : 0 < slots)
    (h : SharesReachOne intTotal slots (weights.take slots.toNat)) :
    ∃ slices, weightedSlices intTotal slots weights = some slices ∧ (∀ q ∈ slices, 0 < q)
      ∧ slices.sum = intTotal := by
  have hunits := weightedUnits_eq intTotal hslots (List.length_take_le _ weights)
  rw [if_pos h.slotted] at hunits
  have hraised : (allotted intTotal slots (weights.take slots.toNat)).map
        (fun q => binary64 (max 1 q : ℤ))
      = (allotted intTotal slots (weights.take slots.toNat)).map (fun q : ℤ => (q : ℚ)) := by
    refine List.map_congr_left (fun q hq => ?_)
    obtain ⟨hone, hdouble⟩ := h.reach q hq
    rw [max_eq_right hone, hdouble]
  refine ⟨(allotted intTotal slots (weights.take slots.toNat)).map
    (fun q => binary64 (max 1 q : ℤ)), ?_, ?_, ?_⟩
  · rw [weightedSlices, if_neg (fun hnone => h.weighed hnone.2), hunits]
    rfl
  · rw [hraised]
    intro q hq
    obtain ⟨unit, hunit, rfl⟩ := List.mem_map.mp hq
    exact_mod_cast lt_of_lt_of_le Int.one_pos (h.reach unit hunit).1
  · rw [hraised, ← intCast_sum, sum_weightedUnits hunits]

/-- Every weighted whole slice is one or more, and whole. -/
theorem weightedSlices_units {slices : List ℚ}
    (h : weightedSlices intTotal slots weights = some slices) :
    ∀ q ∈ slices, 1 ≤ q ∧ ∃ k : ℤ, q = k := by
  unfold weightedSlices at h
  dsimp only at h
  split at h
  · cases h
  · obtain ⟨units, -, rfl⟩ := Option.map_eq_some_iff.mp h
    intro q hq
    obtain ⟨unit, -, rfl⟩ := List.mem_map.mp hq
    refine ⟨one_le_binary64 ?_, binary64_whole _⟩
    exact_mod_cast le_max_left 1 unit

/-- **They add up only then**, when the total is no larger than what a double
counts. -/
theorem sharesReachOne_of_sum {slices : List ℚ} (hslots : 0 < slots) (htotal : 0 < intTotal)
    (hsmall : intTotal < 2 ^ 53) (h : weightedSlices intTotal slots weights = some slices)
    (hsum : slices.sum = intTotal) :
    SharesReachOne intTotal slots (weights.take slots.toNat) := by
  have hone := weightedSlices_units h
  have hunits := weightedUnits_eq intTotal hslots (List.length_take_le _ weights)
  unfold weightedSlices at h
  dsimp only at h
  split at h
  · cases h
  · rename_i hdefined
    obtain ⟨units, hsome, rfl⟩ := Option.map_eq_some_iff.mp h
    rw [hunits] at hsome
    split at hsome
    · rename_i hslotted
      cases hsome
      rw [if_pos hslotted] at hunits
      -- no slice is above the order, so each is small enough to be a double
      have hexact : ∀ q ∈ allotted intTotal slots (weights.take slots.toNat),
          binary64 (max 1 q : ℤ) = (max 1 q : ℤ) := by
        intro q hq
        have hmem := List.mem_map_of_mem (f := fun q => binary64 (max 1 q : ℤ)) hq
        have hle := List.single_le_sum (fun x hx => le_trans zero_le_one (hone x hx).1) _ hmem
        rw [hsum] at hle
        refine binary64_intCast ?_
        rw [abs_of_nonneg (by omega)]
        by_contra hlarge
        have hmono := binary64_mono (show ((2 ^ 53 : ℤ) : ℚ) ≤ (max 1 q : ℤ) by
          exact_mod_cast (not_le.mp hlarge).le)
        rw [binary64_intCast (by norm_num)] at hmono
        have : (2 ^ 53 : ℤ) ≤ intTotal := by exact_mod_cast hmono.trans hle
        omega
      -- raised to one the slices are whole numbers, and their sum is that of whole numbers
      have hraised : (allotted intTotal slots (weights.take slots.toNat)).map
            (fun q => binary64 (max 1 q : ℤ))
          = ((allotted intTotal slots (weights.take slots.toNat)).map (max 1)).map
            (fun q : ℤ => (q : ℚ)) := by
        rw [List.map_map]
        exact List.map_congr_left hexact
      rw [hraised, ← intCast_sum, Int.cast_inj] at hsum
      have hreach := (sum_map_max_eq_iff 1 _).mp (hsum.trans (sum_weightedUnits hunits).symm)
      refine ⟨fun hzero => hdefined ⟨?_, hzero⟩, hslotted, fun q hq => ⟨hreach q hq, ?_⟩⟩
      -- an empty profile has no slot, and nothing adds up to the order
      · intro hnil
        rw [hnil] at hunits
        have htotals := sum_weightedUnits hunits
        simp [allotted, floatShares] at htotals
        omega
      · have := hexact q hq
        rwa [max_eq_right (hreach q hq)] at this
    · cases hsome

end Weighted

/-! ## Hundredths -/

/-- **No operation of a weighted split in hundredths rounds**: the sum of the
weights, each quotient and each share are exact, and a share is what it is rounded
to. -/
structure SharesExact (total : ℚ) (used : List ℚ) : Prop where
  sum : sumDoubles used = used.sum
  quotient : ∀ w ∈ used, binary64 (w / used.sum) = w / used.sum
  product : ∀ share ∈ shares total used, binary64 share = share
  hundredths : ∀ share ∈ shares total used, roundCents share = share

/-- They are the shares, then. -/
theorem SharesExact.slices {total : ℚ} {used : List ℚ} (h : SharesExact total used) :
    (floatShares total used).map roundCents = shares total used := by
  unfold floatShares shares
  rw [List.map_map]
  refine List.map_congr_left (fun w hw => ?_)
  have hmem : w / used.sum * total ∈ shares total used := List.mem_map_of_mem hw
  rw [Function.comp_apply, h.sum, h.quotient w hw, h.product _ hmem, h.hundredths _ hmem]

/-- **The shares are quarters**, but for what the operations round: the sum of the
weights is right to fifty bits, the total is a number of quarters that a double
keeps with bits to spare, and each share is nearer to one than its part of a
hundredth. -/
structure SharesQuarters (total : ℚ) (used : List ℚ) : Prop where
  sum : |sumDoubles used - used.sum| * 2 ^ 50 ≤ used.sum
  whole : ∃ k : ℤ, total = k / 4
  bounded : total ≤ 2 ^ 36
  quarters : ∀ share ∈ shares total used,
    ∃ k : ℤ, 0 < k ∧ |k / 4 - share| * used.length < 1 / 250

/-- The part of a weight, of a sum that is right to fifty bits. -/
theorem abs_part_sub_le {sum sum' w : ℚ} (hnear : |sum' - sum| * 2 ^ 50 ≤ sum) (hw : 0 < w)
    (hle : w ≤ sum) : |w / sum' - w / sum| ≤ 1 / 2 ^ 49 := by
  have hsum : 0 < sum := hw.trans_le hle
  obtain ⟨hlow, hhigh⟩ := abs_le.mp ((le_div_iff₀ (by norm_num)).mpr hnear)
  have hlarge : sum * (1 - 1 / 2 ^ 50) ≤ sum' := by linarith
  have hsum' : 0 < sum' := lt_of_lt_of_le (mul_pos hsum (by norm_num)) hlarge
  have hsplit : w / sum' - w / sum = w / sum * ((sum - sum') / sum') := by
    field_simp
  have hratio : |(sum - sum') / sum'| ≤ 1 / 2 ^ 49 := by
    rw [abs_div, abs_of_pos hsum', div_le_iff₀ hsum', abs_le]
    constructor <;> linarith
  rw [hsplit, abs_mul, abs_of_pos (div_pos hw hsum)]
  exact (mul_le_mul ((div_le_one hsum).mpr hle) hratio (abs_nonneg _) zero_le_one).trans
    (by norm_num)

/-- A computed share is off by less than a thousandth. -/
theorem abs_floatShare_sub_lt {total : ℚ} {used : List ℚ} (hpos : ∀ w ∈ used, 0 < w)
    (htotal : 0 < total) (hbounded : total ≤ 2 ^ 36)
    (hsum : |sumDoubles used - used.sum| * 2 ^ 50 ≤ used.sum) {w : ℚ} (hw : w ∈ used) :
    |binary64 (binary64 (w / sumDoubles used) * total) - w / used.sum * total| < 1 / 1000 := by
  have hS : 0 < used.sum := Apportion.sum_pos hpos (List.ne_nil_of_mem hw)
  have hle : w ≤ used.sum := le_sum_of_mem hpos hw
  have hw0 := hpos w hw
  have hpart := abs_part_sub_le hsum hw0 hle
  have hpart1 : w / used.sum ≤ 1 := (div_le_one hS).mpr hle
  have hpart0 : 0 < w / used.sum := div_pos hw0 hS
  obtain ⟨hpartLow, hpartHigh⟩ := abs_le.mp hpart
  -- the quotient is at most two, so its rounding is below the last bit of one
  have hquotient : |binary64 (w / sumDoubles used) - w / sumDoubles used| ≤ 1 / 2 ^ 53 := by
    refine (abs_binary64_sub_le (e := 1) (by decide) ?_).trans (by norm_num)
    rw [abs_lt]
    constructor <;> norm_num <;> linarith
  obtain ⟨hquotientLow, hquotientHigh⟩ := abs_le.mp hquotient
  have hnear : |binary64 (w / sumDoubles used) - w / used.sum| ≤ 1 / 2 ^ 48 := by
    rw [abs_le]
    constructor <;> linarith
  -- times a total of at most 2 ^ 36
  have hproduct : |binary64 (w / sumDoubles used) * total - w / used.sum * total|
      ≤ 1 / 2 ^ 12 := by
    rw [← sub_mul, abs_mul, abs_of_pos htotal]
    exact (mul_le_mul hnear hbounded htotal.le (by norm_num)).trans (by norm_num)
  obtain ⟨hproductLow, hproductHigh⟩ := abs_le.mp hproduct
  have hshare0 : 0 < w / used.sum * total := mul_pos hpart0 htotal
  have hshare1 : w / used.sum * total ≤ 2 ^ 36 :=
    (mul_le_of_le_one_left htotal.le hpart1).trans hbounded
  -- and the product is rounded once more
  have hrounded := abs_binary64_sub_le (q := binary64 (w / sumDoubles used) * total) (e := 37)
    (by decide) (by
      rw [abs_lt]
      constructor <;> norm_num <;> linarith)
  obtain ⟨hroundedLow, hroundedHigh⟩ := abs_le.mp hrounded
  norm_num at hroundedLow hroundedHigh
  rw [abs_lt]
  constructor <;> linarith

/-- **Shares that are quarters** are what the slices are, and add up. -/
theorem SharesQuarters.conserve {total : ℚ} {used : List ℚ} (hpos : ∀ w ∈ used, 0 < w)
    (hne : used ≠ []) (htotal : 0 < total) (h : SharesQuarters total used) :
    (∀ q ∈ (floatShares total used).map roundCents, 0 < q)
      ∧ ((floatShares total used).map roundCents).sum = total := by
  have hlength : 1 ≤ (used.length : ℚ) := by
    exact_mod_cast List.length_pos_iff.mpr hne
  -- each computed share is nearer to its quarter than half a hundredth, and is rounded to it
  have hquarter : ∀ w ∈ used, ∃ k : ℤ, 0 < k
      ∧ |(k : ℚ) / 4 - w / used.sum * total| * used.length < 1 / 250
      ∧ roundCents (binary64 (binary64 (w / sumDoubles used) * total)) = k / 4 := by
    intro w hw
    have hmem : w / used.sum * total ∈ shares total used := List.mem_map_of_mem hw
    obtain ⟨k, hk, hnear⟩ := h.quarters _ hmem
    have hclose : |(k : ℚ) / 4 - w / used.sum * total| < 1 / 250 :=
      lt_of_le_of_lt (le_mul_of_one_le_right (abs_nonneg _) hlength) hnear
    have hshare := abs_floatShare_sub_lt hpos htotal h.bounded h.sum hw
    have hle : w / used.sum * total ≤ 2 ^ 36 := by
      have hpart : w / used.sum ≤ 1 :=
        (div_le_one (Apportion.sum_pos hpos hne)).mpr (le_sum_of_mem hpos hw)
      exact (mul_le_of_le_one_left htotal.le hpart).trans h.bounded
    obtain ⟨hcloseLow, hcloseHigh⟩ := abs_lt.mp hclose
    obtain ⟨hshareLow, hshareHigh⟩ := abs_lt.mp hshare
    refine ⟨k, hk, hnear, roundCents_quarters ?_ ?_⟩
    · have hlarge : (k : ℚ) ≤ 2 ^ 53 := by linarith
      rw [abs_of_pos hk]
      exact_mod_cast hlarge
    · rw [abs_lt]
      constructor <;> linarith
  unfold floatShares
  rw [List.map_map]
  constructor
  · intro q hq
    obtain ⟨w, hw, rfl⟩ := List.mem_map.mp hq
    obtain ⟨k, hk, -, hround⟩ := hquarter w hw
    rw [Function.comp_apply, hround]
    have : (0 : ℚ) < k := by exact_mod_cast hk
    linarith
  · have hsum := sum_shares total (Apportion.sum_pos hpos hne).ne'
    unfold shares at hsum
    -- sums of quarters that are nearer than a quarter are equal
    refine Eq.trans (sum_eq_of_near (g := fun w => w / used.sum * total) (u := 1 / 4) ?_ ?_ ?_)
      hsum
    · obtain ⟨k, hk⟩ := h.whole
      exact ⟨k, by rw [hsum, hk]; ring⟩
    · intro w hw
      obtain ⟨k, -, -, hround⟩ := hquarter w hw
      exact ⟨k, by rw [Function.comp_apply, hround]; ring⟩
    · intro w hw
      obtain ⟨k, -, hnear, hround⟩ := hquarter w hw
      rw [Function.comp_apply, hround]
      exact hnear.trans (by norm_num)

/-- **Even slices in hundredths add up** exactly when the quotient is the double of
a whole number of hundredths. -/
theorem sum_replicate_roundCents {total : ℚ} {n : ℤ} (hn : 1 < n) :
    (List.replicate n.toNat (roundCents (binary64 (total / n)))).sum = total
      ↔ roundCents (total / n) = total / n := by
  have hne : (n : ℚ) ≠ 0 := by exact_mod_cast (by omega : n ≠ 0)
  have hcast : ((n.toNat : ℕ) : ℚ) = n := by exact_mod_cast Int.toNat_of_nonneg (by omega)
  rw [List.sum_replicate, nsmul_eq_mul, hcast, mul_comm, ← eq_div_iff hne]
  constructor
  · intro h
    have hdouble : binary64 (total / n) = total / n := by rw [← h, binary64_roundCents]
    rwa [hdouble] at h
  · intro h
    have hdouble : binary64 (total / n) = total / n := by rw [← h, binary64_roundCents]
    rw [hdouble, h]

/-! ## Slices -/

/-- **The slices conserve the order**: they are positive and add up to it, and for
an asset that trades in whole units to the rounded order. -/
def SlicesConserve (total : ℚ) (numSlices : ℤ) (isIntegerAsset : Bool)
    (weights : Option (List ℚ)) : Prop :=
  ∃ slices, sliceQuantities total numSlices isIntegerAsset weights = some slices
    ∧ (∀ q ∈ slices, 0 < q)
    ∧ slices.sum = if isIntegerAsset then (roundHalfEven total : ℚ) else total

/-- The whole slices of two units or more are exact: even ones are doubles, and no
weighted share falls below one. -/
def UnitsExact (intTotal slots : ℤ) : Option (List ℚ) → Prop
  | none => ∀ q ∈ evenUnits intTotal slots, binary64 q = q
  | some profile => SharesReachOne intTotal slots (profile.take slots.toNat)

/-- **When the slices conserve the order.** A single slice does, for whole units
if the order is whole. More slices of whole units do when the order rounds to one
or more and no weighted share falls below one; hundredths do when an even slice is
exact, or when no operation on the weighted shares rounds or these are quarters. -/
def SlicesExact (total : ℚ) (numSlices : ℤ) (isIntegerAsset : Bool) (weights : Option (List ℚ)) :
    Prop :=
  if numSlices ≤ 1 then isIntegerAsset = true → Whole total
  else if isIntegerAsset then
    1 / 2 < total ∧ (1 < roundHalfEven total →
      UnitsExact (roundHalfEven total) (min numSlices (roundHalfEven total)) weights)
  else
    match weights with
    | none => roundCents (total / numSlices) = total / numSlices
    | some profile => profile ≠ [] ∧ (SharesExact total (profile.take numSlices.toNat)
        ∨ SharesQuarters total (profile.take numSlices.toNat))

/-- **Where the condition is exact**: a single slice, whole units that a double
counts, and even slices. Elsewhere roundings may cancel. -/
def Characterized (total : ℚ) (numSlices : ℤ) (isIntegerAsset : Bool)
    (weights : Option (List ℚ)) : Prop :=
  numSlices ≤ 1 ∨ if isIntegerAsset then roundHalfEven total < 2 ^ 53 else weights = none

section Slices

variable {total : ℚ} {numSlices : ℤ} {weights : Option (List ℚ)} {slices : List ℚ}

/-- A single slice. -/
theorem slicesConserve_single_iff (isIntegerAsset : Bool) (htotal : 0 < total)
    (hsingle : numSlices ≤ 1) :
    SlicesConserve total numSlices isIntegerAsset weights
      ↔ SlicesExact total numSlices isIntegerAsset weights := by
  unfold SlicesConserve SlicesExact sliceQuantities
  rw [if_pos (.inl hsingle), if_pos hsingle]
  constructor
  · rintro ⟨slices, hsome, -, hsum⟩ hwhole
    cases hsome
    rw [if_pos hwhole, List.sum_singleton] at hsum
    exact roundHalfEven_eq_iff.mp hsum.symm
  · intro h
    refine ⟨_, rfl, ?_, ?_⟩
    · intro q hq
      rw [List.mem_singleton.mp hq]
      exact htotal
    · rw [List.sum_singleton]
      split
      · rename_i hwhole
        exact (roundHalfEven_eq_iff.mpr (h hwhole)).symm
      · rfl

/-- What the whole slices of an order are. -/
theorem sliceQuantities_whole (htotal : 0 < total) (hslices : 1 < numSlices) :
    sliceQuantities total numSlices true weights
      = if roundHalfEven total ≤ 1 then some [binary64 (roundHalfEven total)]
        else match weights with
          | none => some (evenSlices (roundHalfEven total) (min numSlices (roundHalfEven total)))
          | some weights =>
            weightedSlices (roundHalfEven total) (min numSlices (roundHalfEven total)) weights := by
  unfold sliceQuantities
  rw [if_neg (by simp [htotal, hslices]), if_pos rfl]
  dsimp only
  refine if_congr (by omega) rfl ?_
  cases weights with
  | none => rfl
  | some profile => rfl

/-- **Whole slices conserve the order** under the condition. -/
theorem slicesConserve_whole (htotal : 0 < total) (hslices : 1 < numSlices)
    (h : SlicesExact total numSlices true weights) :
    SlicesConserve total numSlices true weights := by
  unfold SlicesExact at h
  rw [if_neg (not_le.mpr hslices), if_pos rfl, ← one_le_roundHalfEven] at h
  obtain ⟨hone, hunits⟩ := h
  unfold SlicesConserve
  rw [sliceQuantities_whole htotal hslices, if_pos rfl]
  -- one unit is one slice, however many were asked for
  by_cases hsmall : roundHalfEven total ≤ 1
  · have hround : roundHalfEven total = 1 := by omega
    rw [if_pos hsmall, hround]
    have hdouble : binary64 ((1 : ℤ) : ℚ) = (1 : ℤ) := binary64_intCast (by decide)
    rw [hdouble]
    refine ⟨_, rfl, ?_, List.sum_singleton⟩
    intro q hq
    rw [List.mem_singleton.mp hq]
    norm_num
  · rw [if_neg hsmall]
    have hslots : 1 < min numSlices (roundHalfEven total) := lt_min hslices (not_le.mp hsmall)
    have hexact := hunits (not_le.mp hsmall)
    cases weights with
    | none =>
      obtain ⟨hpositive, hsum⟩ := evenUnits_conserve hslots.le (min_le_right _ _)
      have heven : evenSlices (roundHalfEven total) (min numSlices (roundHalfEven total))
          = (evenUnits (roundHalfEven total) (min numSlices (roundHalfEven total))).map
            (fun q : ℤ => (q : ℚ)) := List.map_congr_left hexact
      refine ⟨_, rfl, ?_, ?_⟩
      · rw [heven]
        intro q hq
        obtain ⟨unit, hunit, rfl⟩ := List.mem_map.mp hq
        exact_mod_cast lt_of_lt_of_le Int.one_pos (hpositive unit hunit)
      · rw [heven, ← intCast_sum, hsum]
    | some profile => exact weightedSlices_conserve (by omega) hexact

/-- **Only under the condition**, when a double counts the order. -/
theorem slicesExact_whole (htotal : 0 < total) (hslices : 1 < numSlices)
    (hsmall : roundHalfEven total < 2 ^ 53) (h : SlicesConserve total numSlices true weights) :
    SlicesExact total numSlices true weights := by
  unfold SlicesConserve at h
  obtain ⟨slices, hsome, hpositive, hsum⟩ := h
  rw [sliceQuantities_whole htotal hslices] at hsome
  rw [if_pos rfl] at hsum
  unfold SlicesExact
  rw [if_neg (not_le.mpr hslices), if_pos rfl, ← one_le_roundHalfEven]
  by_cases hunit : roundHalfEven total ≤ 1
  · rw [if_pos hunit] at hsome
    cases hsome
    refine ⟨?_, fun hbig => absurd hunit (not_le.mpr hbig)⟩
    rw [List.sum_singleton] at hsum
    have hone := hpositive _ (List.mem_singleton_self _)
    rw [hsum] at hone
    exact_mod_cast hone
  · rw [if_neg hunit] at hsome
    have hslots : 1 < min numSlices (roundHalfEven total) := lt_min hslices (not_le.mp hunit)
    refine ⟨(not_le.mp hunit).le, fun _ => ?_⟩
    cases weights with
    | none =>
      obtain ⟨hpos, htotals⟩ := evenUnits_conserve hslots.le
        (min_le_right numSlices (roundHalfEven total))
      intro q hq
      refine binary64_intCast ?_
      have hle := List.single_le_sum (fun x hx => le_trans zero_le_one (hpos x hx)) q hq
      rw [abs_of_nonneg (le_trans zero_le_one (hpos q hq))]
      omega
    | some profile =>
      exact sharesReachOne_of_sum (by omega) (by omega) hsmall hsome hsum

/-- **Hundredths conserve the order** under the condition. -/
theorem slicesConserve_hundredths (htotal : 0 < total) (hslices : 1 < numSlices)
    (hpos : ∀ profile, weights = some profile → ∀ w ∈ profile, 0 < w)
    (h : SlicesExact total numSlices false weights) :
    SlicesConserve total numSlices false weights := by
  unfold SlicesExact at h
  rw [if_neg (not_le.mpr hslices), if_neg (by decide)] at h
  unfold SlicesConserve sliceQuantities
  rw [if_neg (by simp [htotal, hslices]), if_neg (by decide), if_neg (by decide)]
  cases weights with
  | none =>
    dsimp only at h ⊢
    have hn : (0 : ℚ) < numSlices := by exact_mod_cast (by omega : 0 < numSlices)
    have hdouble : binary64 (total / numSlices) = total / numSlices := by
      rw [← h, binary64_roundCents]
    refine ⟨_, rfl, ?_, (sum_replicate_roundCents hslices).mpr h⟩
    intro q hq
    rw [(List.mem_replicate.mp hq).2, hdouble, h]
    exact div_pos htotal hn
  | some profile =>
    obtain ⟨hne, hexact⟩ := h
    have hused : ∀ w ∈ profile.take numSlices.toNat, 0 < w :=
      fun w hw => hpos profile rfl w (List.mem_of_mem_take hw)
    have htake : profile.take numSlices.toNat ≠ [] := by
      simp only [ne_eq, List.take_eq_nil_iff, hne, or_false]
      omega
    have hsum := Apportion.sum_pos hused htake
    dsimp only
    rcases hexact with hexact | hquarters
    · rw [if_neg (fun hzero => hsum.ne' (hexact.sum ▸ hzero.2)), hexact.slices]
      exact ⟨_, rfl, fun q hq => pos_of_mem_shares htotal hused hq, sum_shares total hsum.ne'⟩
    · have hdefined : sumDoubles (profile.take numSlices.toNat) ≠ 0 := by
        intro hzero
        have hright := hquarters.sum
        rw [hzero, zero_sub, abs_neg, abs_of_pos hsum] at hright
        linarith
      rw [if_neg (fun hzero => hdefined hzero.2)]
      exact ⟨_, rfl, hquarters.conserve hused htake htotal⟩

/-- Even slices in hundredths, only under the condition. -/
theorem slicesExact_hundredths (htotal : 0 < total) (hslices : 1 < numSlices)
    (h : SlicesConserve total numSlices false none) :
    SlicesExact total numSlices false none := by
  unfold SlicesConserve sliceQuantities at h
  rw [if_neg (by simp [htotal, hslices]), if_neg (by decide), if_neg (by decide)] at h
  obtain ⟨slices, hsome, -, hsum⟩ := h
  cases hsome
  unfold SlicesExact
  rw [if_neg (not_le.mpr hslices), if_neg (by decide)]
  exact (sum_replicate_roundCents hslices).mp hsum

/-- **The slices conserve the order under the condition.** -/
theorem slicesConserve_of_exact (isIntegerAsset : Bool) (htotal : 0 < total)
    (hpos : ∀ profile, weights = some profile → ∀ w ∈ profile, 0 < w)
    (h : SlicesExact total numSlices isIntegerAsset weights) :
    SlicesConserve total numSlices isIntegerAsset weights := by
  by_cases hsingle : numSlices ≤ 1
  · exact (slicesConserve_single_iff isIntegerAsset htotal hsingle).mpr h
  · cases isIntegerAsset with
    | true => exact slicesConserve_whole htotal (not_le.mp hsingle) h
    | false => exact slicesConserve_hundredths htotal (not_le.mp hsingle) hpos h

/-- **And only then**, where the condition is exact. -/
theorem slicesExact_of_conserve (isIntegerAsset : Bool) (htotal : 0 < total)
    (hexact : Characterized total numSlices isIntegerAsset weights)
    (h : SlicesConserve total numSlices isIntegerAsset weights) :
    SlicesExact total numSlices isIntegerAsset weights := by
  by_cases hsingle : numSlices ≤ 1
  · exact (slicesConserve_single_iff isIntegerAsset htotal hsingle).mp h
  · rcases hexact with hone | hexact
    · exact absurd hone hsingle
    · cases isIntegerAsset with
      | true => exact slicesExact_whole htotal (not_le.mp hsingle) hexact h
      | false =>
        have hnone : weights = none := hexact
        subst hnone
        exact slicesExact_hundredths htotal (not_le.mp hsingle) h

end Slices

/-! ## Plans -/

/-- The positive children of a plan have the positive quantities. -/
theorem childTotal_sliced (algo : String) (total price limit : ℚ) (quantities : List ℚ) :
    (ExecutionPlan.mk algo total ((quantities.mapIdx (fun i quantity =>
        (⟨i, quantity, price, limit⟩ : ChildSlice))).filter
          (fun child => 0 < child.quantity))).childTotal
      = (quantities.filter (fun q => 0 < q)).sum := by
  have hquantities : (quantities.mapIdx (fun i quantity =>
      (⟨i, quantity, price, limit⟩ : ChildSlice))).map (·.quantity) = quantities := by
    refine List.ext_getElem (by simp) ?_
    intro i _ _
    simp
  unfold ExecutionPlan.childTotal
  conv_rhs => rw [← hquantities, List.filter_map]
  rfl

/-- **When the children of a plan add up to its order**: it is not sliced, or its
slices conserve it, where whole units need a whole order. -/
def PlanExact (lower : String → String) (request : OrderRequest) (config : SlicingConfig) : Prop :=
  plansImmediate (strip (lower config.algorithm)) config request = true
    ∨ (request.assetClass = .futures → Whole request.quantity)
      ∧ SlicesExact request.quantity (max 2 config.twapSlices) (request.assetClass = .futures)
        (profileOf (strip (lower config.algorithm)) config)

section Plans

variable {total : ℚ} {numSlices : ℤ} {weights : Option (List ℚ)} {slices : List ℚ}

/-- Positive slices are all children. -/
theorem filter_positive (h : ∀ q ∈ slices, 0 < q) : slices.filter (fun q => 0 < q) = slices :=
  List.filter_eq_self.mpr (fun q hq => decide_eq_true (h q hq))

theorem whole_sum {l : List ℚ} (h : ∀ q ∈ l, Whole q) : Whole l.sum := by
  induction l with
  | nil => exact ⟨0, by simp⟩
  | cons q l ih =>
    obtain ⟨⟨k, hk⟩, hl⟩ := List.forall_mem_cons.mp h
    obtain ⟨m, hm⟩ := ih hl
    exact ⟨k + m, by rw [List.sum_cons, hk, hm]; push_cast; rfl⟩

/-- **Slices of whole units** are whole, and all positive when one is. -/
theorem slices_whole (htotal : 0 < total) (hslices : 1 < numSlices)
    (h : sliceQuantities total numSlices true weights = some slices)
    (hsome : slices.filter (fun q => 0 < q) ≠ []) :
    (∀ q ∈ slices, Whole q) ∧ ∀ q ∈ slices, 0 < q := by
  rw [sliceQuantities_whole htotal hslices] at h
  split at h
  · cases h
    have hpositive : 0 < binary64 (roundHalfEven total) := by
      by_contra hzero
      exact hsome (by simp [hzero])
    constructor
    · intro q hq
      rw [List.mem_singleton.mp hq]
      exact binary64_whole _
    · intro q hq
      rw [List.mem_singleton.mp hq]
      exact hpositive
  · rename_i hbig
    have hslots : 1 < min numSlices (roundHalfEven total) := lt_min hslices (not_le.mp hbig)
    -- every branch makes slices of at least one
    have hunits : ∀ q ∈ slices, 1 ≤ q ∧ Whole q := by
      cases weights with
      | none =>
        cases h
        intro q hq
        obtain ⟨unit, hunit, rfl⟩ := List.mem_map.mp hq
        have hone := (evenUnits_conserve hslots.le (min_le_right _ _)).1 unit hunit
        exact ⟨one_le_binary64 (by exact_mod_cast hone), binary64_whole _⟩
      | some profile => exact weightedSlices_units h
    exact ⟨fun q hq => (hunits q hq).2, fun q hq => lt_of_lt_of_le one_pos (hunits q hq).1⟩

/-- Slices whose positive ones add up to the order conserve it, where the condition
is exact; of whole units the order is then whole. -/
theorem conserve_of_children {isIntegerAsset : Bool} (htotal : 0 < total) (hslices : 1 < numSlices)
    (hexact : Characterized total numSlices isIntegerAsset weights)
    (h : sliceQuantities total numSlices isIntegerAsset weights = some slices)
    (hsum : (slices.filter (fun q => 0 < q)).sum = total) :
    (isIntegerAsset = true → Whole total)
      ∧ SlicesConserve total numSlices isIntegerAsset weights := by
  have hsome : slices.filter (fun q => 0 < q) ≠ [] := by
    intro hnil
    rw [hnil] at hsum
    exact htotal.ne hsum
  rcases hexact with hone | hexact
  · exact absurd hone (not_le.mpr hslices)
  · cases isIntegerAsset with
    | false =>
      have hnone : weights = none := hexact
      subst hnone
      refine ⟨fun hwhole => absurd hwhole (by decide), slices, h, ?_⟩
      unfold sliceQuantities at h
      rw [if_neg (by simp [htotal, hslices]), if_neg (by decide)] at h
      cases h
      -- the slices are one number, and it is positive
      obtain ⟨q, hq⟩ := List.exists_mem_of_ne_nil _ hsome
      obtain ⟨hmem, hpositive⟩ := List.mem_filter.mp hq
      have hall : ∀ x ∈ List.replicate numSlices.toNat
          (roundCents (binary64 (total / numSlices))), 0 < x := by
        intro x hx
        rw [(List.mem_replicate.mp hx).2, ← (List.mem_replicate.mp hmem).2]
        simpa using hpositive
      rw [filter_positive hall] at hsum
      exact ⟨hall, hsum⟩
    | true =>
      -- the slices of whole units are whole, so what they add up to is
      obtain ⟨hwhole, hpositive⟩ := slices_whole htotal hslices h hsome
      rw [filter_positive hpositive] at hsum
      have htotalWhole : Whole total := by
        rw [← hsum]
        exact whole_sum hwhole
      refine ⟨fun _ => htotalWhole, slices, h, hpositive, ?_⟩
      rw [if_pos rfl, roundHalfEven_eq_iff.mpr htotalWhole]
      exact hsum

/-- The children of a sliced plan are its positive slices. -/
theorem planOrder_sliced {lower : String → String} {request : OrderRequest}
    {config : SlicingConfig} {plan : ExecutionPlan}
    (hsliced : plansImmediate (strip (lower config.algorithm)) config request = false)
    (h : planOrder lower request config = some plan) :
    ∃ slices, sliceQuantities request.quantity (max 2 config.twapSlices)
        (request.assetClass = .futures) (profileOf (strip (lower config.algorithm)) config)
          = some slices
      ∧ plan.childTotal = (slices.filter (fun q => 0 < q)).sum
      ∧ plan.totalQuantity = request.quantity := by
  unfold planOrder at h
  dsimp only at h
  rw [if_neg (by simp [hsliced])] at h
  obtain ⟨slices, hslices, h⟩ := Option.bind_eq_some_iff.mp h
  obtain ⟨limit, -, h⟩ := Option.bind_eq_some_iff.mp h
  cases h
  exact ⟨slices, hslices, childTotal_sliced _ _ _ _ _, rfl⟩

/-- A plan that is not sliced has one child, of the whole order. -/
theorem planOrder_immediate {lower : String → String} {request : OrderRequest}
    {config : SlicingConfig} {plan : ExecutionPlan}
    (himmediate : plansImmediate (strip (lower config.algorithm)) config request = true)
    (h : planOrder lower request config = some plan) : plan.childTotal = plan.totalQuantity := by
  unfold planOrder at h
  dsimp only at h
  rw [if_pos himmediate] at h
  split at h
  all_goals
    obtain ⟨limit, -, h⟩ := Option.bind_eq_some_iff.mp h
    cases h
    exact List.sum_singleton

theorem profileOf_pos (algo : String) {config : SlicingConfig}
    (hpos : ∀ w ∈ config.vwapIntradayProfile, 0 < w) :
    ∀ profile, profileOf algo config = some profile → ∀ w ∈ profile, 0 < w := by
  intro profile hprofile
  unfold profileOf at hprofile
  split at hprofile
  · cases hprofile
    exact hpos
  · cases hprofile

/-- **The children of a plan add up to its order under the condition**, and where
it is exact only then. -/
theorem planOrder_conserves {lower : String → String} {request : OrderRequest}
    {config : SlicingConfig} {plan : ExecutionPlan} (hquantity : 0 < request.quantity)
    (hpos : ∀ w ∈ config.vwapIntradayProfile, 0 < w)
    (h : planOrder lower request config = some plan) :
    (PlanExact lower request config → plan.childTotal = plan.totalQuantity)
      ∧ (Characterized request.quantity (max 2 config.twapSlices) (request.assetClass = .futures)
          (profileOf (strip (lower config.algorithm)) config) →
        plan.childTotal = plan.totalQuantity → PlanExact lower request config) := by
  unfold PlanExact
  cases himmediate : plansImmediate (strip (lower config.algorithm)) config request with
  | true =>
    exact ⟨fun _ => planOrder_immediate himmediate h, fun _ _ => Or.inl rfl⟩
  | false =>
    have hslices : 1 < max 2 config.twapSlices := lt_max_of_lt_left (by decide)
    have hprofile := profileOf_pos (strip (lower config.algorithm)) hpos
    obtain ⟨slices, hsome, hchildren, htotal⟩ := planOrder_sliced himmediate h
    rw [hchildren, htotal]
    constructor
    · rintro (hfalse | ⟨hwhole, hexact⟩)
      · cases hfalse
      · obtain ⟨slices', hsome', hpositive, hsum⟩ :=
          slicesConserve_of_exact _ hquantity hprofile hexact
        cases hsome.symm.trans hsome'
        rw [filter_positive hpositive, hsum]
        split
        · rename_i hfutures
          exact roundHalfEven_eq_iff.mpr (hwhole (by simpa using hfutures))
        · rfl
    · intro hcharacterized hsum
      obtain ⟨hwhole, hconserve⟩ :=
        conserve_of_children hquantity hslices hcharacterized hsome hsum
      exact Or.inr ⟨fun hfutures => hwhole (by simpa using hfutures),
        slicesExact_of_conserve _ hquantity hcharacterized hconserve⟩

end Plans

/-! ## The result -/

/-- An order for four contracts, in equal slices over time. -/
def sampleSlicedOrder : OrderRequest :=
  { symbol := "ES", assetClass := .futures, direction := .long, side := .buy, quantity := 4,
    entryPrice := 5000, stopLoss := 4990, takeProfit := 5020, signalId := 1, clientOrderId := none }

def sampleSlicing : SlicingConfig :=
  { algorithm := "twap", minSliceQuantityFutures := 1, minSliceQuantityEquity := 1, twapSlices := 4,
    priceCollarTicks := 4, priceCollarPct := 1 / 1000, vwapIntradayProfile := [1],
    tickSize := fun _ => some (1 / 4) }

/-- Six slices over a day, heavier at its ends. -/
def sampleProfile : List ℚ := [1 / 4, 3 / 20, 1 / 10, 1 / 10, 3 / 20, 1 / 4].map binary64

end AgenticTrader
