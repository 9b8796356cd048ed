import AgenticTrader.Library.Apportion
import AgenticTrader.Library.Binary64
import AgenticTrader.Risk.Rules

/-!
# The order slicer

`OrderSlicer` (`execution/slicer.py`) splits an order into child slices.
`slice_quantities` divides a quantity evenly or by a profile of weights; an asset
that trades in whole units gets whole slices, and others are rounded to
hundredths. `plan_order` decides whether an order is sliced at all.

The whole-unit branch hands the remainder of its roundings back to the slices.
The other branch has no such step, and the last step of the weighted whole-unit
branch raises every slice to one. So the order is conserved in some cases and
not in others: `slicing_conserves` says in which.

Quantities, weights and prices are doubles, and every operation on them is
rounded to one; no quantity is so large that it overflows. `none` is an
exception: an index past the end of the allocations, or a division by zero.
-/

namespace AgenticTrader

open Apportion

/-! ## Slices -/

/-- **The share of each weight**, as it is computed. -/
def floatShares (total : ℚ) (weights : List ℚ) : List ℚ :=
  weights.map (fun w => binary64 (binary64 (w / sumDoubles weights) * total))

/-- The whole slices of an even split: the first ones take the remainder. -/
def evenUnits (intTotal slots : ℤ) : List ℤ :=
  (List.range slots.toNat).map (fun i : ℕ =>
    intTotal / slots + if (i : ℤ) < intTotal % slots then 1 else 0)

/-- The slices of an even split. -/
def evenSlices (intTotal slots : ℤ) : List ℚ :=
  (evenUnits intTotal slots).map (fun q : ℤ => binary64 q)

/-- What the rounded shares of a total miss of it. -/
def shortfall (intTotal : ℤ) (used : List ℚ) : ℤ :=
  intTotal - ((floatShares (binary64 intTotal) used).map roundHalfEven).sum

/-- The whole slices of a weighted split, before they are raised to one. -/
def weightedUnits (intTotal slots : ℤ) (used : List ℚ) : Option (List ℤ) :=
  redistribute slots.toNat (if 0 < shortfall intTotal used then 1 else -1)
    (shortfall intTotal used).natAbs ((floatShares (binary64 intTotal) used).map roundHalfEven)

/-- The slices of a weighted split. -/
def weightedSlices (intTotal slots : ℤ) (weights : List ℚ) : Option (List ℚ) :=
  let used := weights.take slots.toNat
  if used ≠ [] ∧ sumDoubles used = 0 then none
  else (weightedUnits intTotal slots used).map
    (fun units => units.map (fun q => binary64 (max 1 q : ℤ)))

/-- **`slice_quantities`.** -/
def sliceQuantities (totalQuantity : ℚ) (numSlices : ℤ) (isIntegerAsset : Bool)
    (weights : Option (List ℚ)) : Option (List ℚ) :=
  if numSlices ≤ 1 ∨ totalQuantity ≤ 0 then some [totalQuantity]
  else if isIntegerAsset then
    let intTotal := roundHalfEven totalQuantity
    let actualSlices := min numSlices intTotal
    if actualSlices ≤ 1 then some [binary64 intTotal]
    else
      match weights with
      | none => some (evenSlices intTotal actualSlices)
      | some weights => weightedSlices intTotal actualSlices weights
  else
    match weights with
    | none =>
      some (List.replicate numSlices.toNat (roundCents (binary64 (totalQuantity / numSlices))))
    | some weights =>
      let used := weights.take numSlices.toNat
      if used ≠ [] ∧ sumDoubles used = 0 then none
      else some ((floatShares totalQuantity used).map roundCents)

/-! ## Plans -/

/-- What a plan reads of the configuration. -/
structure SlicingConfig where
  algorithm : String
  minSliceQuantityFutures : ℚ
  minSliceQuantityEquity : ℚ
  twapSlices : ℤ
  priceCollarTicks : ℚ
  priceCollarPct : ℚ
  vwapIntradayProfile : List ℚ
  tickSize : String → Option ℚ

structure ChildSlice where
  sliceIndex : ℕ
  quantity : ℚ
  targetPrice : ℚ
  limitPrice : ℚ
  deriving DecidableEq

/-- **`ExecutionPlan`**, as it is planned. -/
structure ExecutionPlan where
  algorithm : String
  totalQuantity : ℚ
  slices : List ChildSlice
  deriving DecidableEq

/-- **`compute_price_collar`.** -/
def computePriceCollar (direction : Direction) (entryPrice tickSize : ℚ) (assetClass : AssetClass)
    (config : SlicingConfig) : Option ℚ :=
  let collarPoints :=
    if assetClass = .futures then binary64 (config.priceCollarTicks * tickSize)
    else max (binary64 (config.priceCollarPct * entryPrice)) tickSize
  let rawLimit := binary64
    (if direction = .long then entryPrice + collarPoints else entryPrice - collarPoints)
  if tickSize = 0 then none
  else
    let ticks := roundHalfEven (binary64 (rawLimit / tickSize))
    some (roundCents (binary64 (binary64 ticks * tickSize)))

/-- The size from which an order is sliced. -/
def minSliceQuantity (config : SlicingConfig) (assetClass : AssetClass) : ℚ :=
  if assetClass = .futures then config.minSliceQuantityFutures else config.minSliceQuantityEquity

/-- Whether a plan is a single immediate order. -/
def plansImmediate (algo : String) (config : SlicingConfig) (request : OrderRequest) : Bool :=
  algo = "immediate" ∨ request.quantity < minSliceQuantity config request.assetClass
    ∨ request.entryPrice ≤ 0

/-- The profile of an algorithm, if it has one. -/
def profileOf (algo : String) (config : SlicingConfig) : Option (List ℚ) :=
  if algo = "vwap" then some config.vwapIntradayProfile else none

/-- **`plan_order`.** -/
def planOrder (lower : String → String) (request : OrderRequest) (config : SlicingConfig) :
    Option ExecutionPlan := do
  let algo := strip (lower config.algorithm)
  let tickSize := (config.tickSize request.symbol).getD
    (if request.assetClass = .equity then binary64 (1 / 100) else 1 / 4)
  if plansImmediate algo config request then
    let limitPrice ←
      if 0 < request.entryPrice then
        computePriceCollar request.direction request.entryPrice tickSize request.assetClass config
      else some request.entryPrice
    some ⟨"immediate", request.quantity, [⟨0, request.quantity, request.entryPrice, limitPrice⟩]⟩
  else
    let quantities ← sliceQuantities request.quantity (max 2 config.twapSlices)
      (request.assetClass = .futures) (profileOf algo config)
    let limitPrice ←
      computePriceCollar request.direction request.entryPrice tickSize request.assetClass config
    let children := quantities.mapIdx (fun i quantity =>
      (⟨i, quantity, request.entryPrice, limitPrice⟩ : ChildSlice))
    some ⟨algo, request.quantity, children.filter (fun child => 0 < child.quantity)⟩

/-- The quantity the children of a plan add up to. -/
def ExecutionPlan.childTotal (plan : ExecutionPlan) : ℚ := (plan.slices.map (·.quantity)).sum

end AgenticTrader
