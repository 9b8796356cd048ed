import AgenticTrader.Execution.SliceConservation

/-!
# The sliced execution engine

`SlicedExecutionEngine.execute_order` (`execution/engine.py`) plans an order and,
where the plan has more than one child, submits the children one after the other.
A child whose limit the market has passed is skipped, one that the broker refuses
or that raises has failed, and the others count as filled at what the broker says
or at their limit.

The children that are submitted are among the plan's, in order, so that they never
ask for more than a plan that is exact (`submitted_le`), and for all of it when no
quote passes the limit (`submitted_eq`).

A quote or a reply is `none` where the call raised, and the quote also where there
is nothing to ask for one. What is only logged or kept on the plan, which nobody
reads once it is executed, is left out.
-/

namespace AgenticTrader

/-- **A child order**: a limit order of the simple class, without a bracket. -/
structure ChildOrder where
  symbol : String
  assetClass : AssetClass
  direction : Direction
  quantity : ℚ
  entryPrice : ℚ
  signalId : SignalId
  clientOrderId : String
  deriving DecidableEq

/-- The order of a child slice. -/
def childOrder (planId : String) (request : OrderRequest) (child : ChildSlice) : ChildOrder :=
  { symbol := request.symbol
    assetClass := request.assetClass
    direction := request.direction
    quantity := child.quantity
    entryPrice := child.limitPrice
    signalId := request.signalId
    clientOrderId := planId ++ "_" ++ toString child.sliceIndex }

/-- Whether the market has passed the limit of a child. -/
def collarBreached (direction : Direction) (child : ChildSlice) : Option ℚ → Bool
  | none => false
  | some price =>
    if direction = .long then child.limitPrice < price else price < child.limitPrice

/-- What the loop has submitted, and what of it was filled. -/
structure SliceRun where
  submitted : List ChildOrder := []
  filledQty : ℚ := 0
  totalCost : ℚ := 0
  filledOrderIds : List String := []
  deriving DecidableEq

/-- A filled child. A price of zero is no price. -/
def SliceRun.fill (run : SliceRun) (child : ChildSlice) (result : OrderResult) : SliceRun :=
  let fillPx := match result.fillPrice with
    | some price => if price = 0 then child.limitPrice else price
    | none => child.limitPrice
  { run with
    filledQty := binary64 (run.filledQty + child.quantity)
    totalCost := binary64 (run.totalCost + binary64 (fillPx * child.quantity))
    filledOrderIds := run.filledOrderIds ++ result.orderId.toList.filter (· ≠ "") }

/-- One turn of the loop. -/
def SliceRun.turn (planId : String) (request : OrderRequest) (quote : Option ℚ)
    (reply : Option OrderResult) (run : SliceRun) (child : ChildSlice) : SliceRun :=
  if collarBreached request.direction child quote then run
  else
    let run := { run with submitted := run.submitted ++ [childOrder planId request child] }
    match reply with
    | some result => if result.success then run.fill child result else run
    | none => run

/-- **The loop**, with the quote and the reply of each turn. -/
def executeSlices (planId : String) (request : OrderRequest) (quotes : ℕ → Option ℚ)
    (replies : ℕ → Option OrderResult) (children : List ChildSlice) : SliceRun :=
  children.zipIdx.foldl (fun run turn =>
    run.turn planId request (quotes turn.2) (replies turn.2) turn.1) {}

/-- How a plan ends that is not failed. -/
inductive ExecutionPlanStatus where
  | completed | partiallyFilled
  deriving DecidableEq

/-- What executing an order comes to: it is the broker's as it stands, or its
children were submitted. -/
inductive Execution where
  | delegated (request : OrderRequest)
  | refused (result : OrderResult)
  | sliced (run : SliceRun) (result : OrderResult) (status : Option ExecutionPlanStatus)
      (childOrders : String)

/-- The result of a loop over a number of children. -/
def SliceRun.conclude (planId : String) (request : OrderRequest) (now : Time) (count : ℕ)
    (run : SliceRun) : Execution :=
  if run.filledQty ≤ 0 then
    .sliced run
      { success := false
        errorMessage := some
          ("All " ++ toString count ++ " algorithmic slices failed or were skipped by collar.") }
      none ""
  else
    .sliced run
      { success := true
        orderId := some planId
        fillPrice := some (roundCents (binary64 (run.totalCost / run.filledQty)))
        fillTimestamp := some now }
      (some (if request.quantity ≤ run.filledQty then .completed else .partiallyFilled))
      (",".intercalate run.filledOrderIds)

/-- **`execute_order`.** -/
def executeOrder (lower : String → String) (config : SlicingConfig) (simulatedExecution : Bool)
    (planId : String) (now : Time) (quotes : ℕ → Option ℚ) (replies : ℕ → Option OrderResult)
    (request : OrderRequest) : Option Execution := do
  let plan ← planOrder lower request config
  if plan.algorithm = "immediate" ∨ plan.slices.length ≤ 1 then some (.delegated request)
  else if simulatedExecution = false then
    some (.refused
      { success := false
        errorMessage := some ("Broker slicing is disabled until per-slice fills and protection "
          ++ "are reconciled; use immediate execution") })
  else
    some ((executeSlices planId request quotes replies plan.slices).conclude planId request now
      plan.slices.length)

/-! ## What is submitted -/

section Submitted

variable {planId : String} {request : OrderRequest} {quotes : ℕ → Option ℚ}
  {replies : ℕ → Option OrderResult}

@[simp] theorem SliceRun.fill_submitted (run : SliceRun) (child : ChildSlice)
    (result : OrderResult) : (run.fill child result).submitted = run.submitted := rfl

/-- A turn submits its child, unless the market has passed its limit. -/
theorem SliceRun.turn_submitted (quote : Option ℚ) (reply : Option OrderResult) (run : SliceRun)
    (child : ChildSlice) :
    (run.turn planId request quote reply child).submitted
      = run.submitted ++ if collarBreached request.direction child quote then []
          else [childOrder planId request child] := by
  unfold SliceRun.turn
  split
  · exact (List.append_nil _).symm
  · cases reply with
    | none => rfl
    | some result =>
      dsimp only
      split
      · exact SliceRun.fill_submitted _ _ _
      · rfl

/-- The loop submits the orders of the children that the market has not passed. -/
theorem foldl_turn_submitted (turns : List (ChildSlice × ℕ)) (run : SliceRun) :
    (turns.foldl (fun run turn =>
        run.turn planId request (quotes turn.2) (replies turn.2) turn.1) run).submitted
      = run.submitted ++ (turns.filter (fun turn =>
          !collarBreached request.direction turn.1 (quotes turn.2))).map
            (fun turn => childOrder planId request turn.1) := by
  induction turns generalizing run with
  | nil => simp
  | cons turn turns ih =>
    rw [List.foldl_cons, ih, SliceRun.turn_submitted, List.append_assoc, List.filter_cons]
    cases collarBreached request.direction turn.1 (quotes turn.2) <;> rfl

variable (planId request quotes replies) in
/-- **What is submitted is among the children, in their order.** -/
theorem submitted_sublist (children : List ChildSlice) :
    (executeSlices planId request quotes replies children).submitted.Sublist
      (children.map (childOrder planId request)) := by
  unfold executeSlices
  rw [foldl_turn_submitted]
  have horders : children.map (childOrder planId request)
      = children.zipIdx.map (fun turn => childOrder planId request turn.1) := by
    conv_lhs => rw [← List.zipIdx_map_fst 0 children, List.map_map]
    rfl
  rw [horders]
  exact List.filter_sublist.map _

/-- **All of them are submitted** when no quote passes their limits. -/
theorem submitted_of_quotes {children : List ChildSlice}
    (h : ∀ child ∈ children, ∀ i, collarBreached request.direction child (quotes i) = false) :
    (executeSlices planId request quotes replies children).submitted
      = children.map (childOrder planId request) := by
  unfold executeSlices
  rw [foldl_turn_submitted, List.filter_eq_self.mpr]
  · conv_rhs => rw [← List.zipIdx_map_fst 0 children, List.map_map]
    rfl
  · rintro ⟨child, i⟩ hturn
    rw [h child (List.fst_mem_of_mem_zipIdx hturn) i]
    rfl

end Submitted

/-! ## Against the order -/

/-- The quantity the orders of a loop ask for. -/
def SliceRun.asked (run : SliceRun) : ℚ := (run.submitted.map (·.quantity)).sum

section Asked

variable {lower : String → String} {config : SlicingConfig} {simulatedExecution : Bool}
  {planId : String} {now : Time} {quotes : ℕ → Option ℚ} {replies : ℕ → Option OrderResult}
  {request : OrderRequest} {run : SliceRun} {result : OrderResult}
  {status : Option ExecutionPlanStatus} {childOrders : String}

/-- Only the children of a plan are submitted, and only to a simulated broker. -/
theorem executeOrder_sliced
    (h : executeOrder lower config simulatedExecution planId now quotes replies request
      = some (.sliced run result status childOrders)) :
    simulatedExecution = true ∧ ∃ plan, planOrder lower request config = some plan
      ∧ run = executeSlices planId request quotes replies plan.slices := by
  unfold executeOrder at h
  obtain ⟨plan, hplan, h⟩ := Option.bind_eq_some_iff.mp h
  split at h
  · cases h
  · split at h
    · cases h
    · rename_i hsimulated
      refine ⟨by simpa using hsimulated, plan, hplan, ?_⟩
      unfold SliceRun.conclude at h
      split at h <;> cases h <;> rfl

/-- A plan is of its order, and its children have positive quantities. -/
theorem planOrder_children_pos {plan : ExecutionPlan} (hquantity : 0 < request.quantity)
    (h : planOrder lower request config = some plan) :
    plan.totalQuantity = request.quantity ∧ ∀ child ∈ plan.slices, 0 < child.quantity := by
  unfold planOrder at h
  dsimp only at h
  split at h
  · split at h
    all_goals
      obtain ⟨limit, -, h⟩ := Option.bind_eq_some_iff.mp h
      cases h
      refine ⟨rfl, fun child hchild => ?_⟩
      rw [List.mem_singleton.mp hchild]
      exact hquantity
  · obtain ⟨slices, -, h⟩ := Option.bind_eq_some_iff.mp h
    obtain ⟨limit, -, h⟩ := Option.bind_eq_some_iff.mp h
    cases h
    refine ⟨rfl, fun child hchild => ?_⟩
    simpa using (List.mem_filter.mp hchild).2

theorem quantity_childOrder (children : List ChildSlice) :
    (children.map (childOrder planId request)).map (·.quantity) = children.map (·.quantity) := by
  rw [List.map_map]
  rfl

variable (hquantity : 0 < request.quantity) (hprofile : ∀ w ∈ config.vwapIntradayProfile, 0 < w)
  (hexact : PlanExact lower request config)
  (h : executeOrder lower config simulatedExecution planId now quotes replies request
    = some (.sliced run result status childOrders))

include hquantity hprofile hexact h

/-- **The children submitted never ask for more than the order**, whatever is quoted
and replied, when its plan is exact. -/
theorem submitted_le : run.asked ≤ request.quantity := by
  obtain ⟨-, plan, hplan, rfl⟩ := executeOrder_sliced h
  have htotal := (planOrder_conserves hquantity hprofile hplan).1 hexact
  obtain ⟨hrequest, hpositive⟩ := planOrder_children_pos hquantity hplan
  have hsub := (submitted_sublist planId request quotes replies plan.slices).map (·.quantity)
  rw [quantity_childOrder] at hsub
  calc (executeSlices planId request quotes replies plan.slices).asked
      ≤ plan.childTotal := hsub.sum_le_sum (fun q hq => by
        obtain ⟨child, hchild, rfl⟩ := List.mem_map.mp hq
        exact (hpositive child hchild).le)
    _ = plan.totalQuantity := htotal
    _ = request.quantity := hrequest

/-- **They ask for all of it** when no quote passes their limits. -/
theorem submitted_eq
    (hquotes : ∀ child i, collarBreached request.direction child (quotes i) = false) :
    run.asked = request.quantity := by
  obtain ⟨-, plan, hplan, rfl⟩ := executeOrder_sliced h
  have htotal := (planOrder_conserves hquantity hprofile hplan).1 hexact
  rw [SliceRun.asked, submitted_of_quotes (fun child _ i => hquotes child i), quantity_childOrder]
  exact htotal.trans (planOrder_children_pos hquantity hplan).1

end Asked

end AgenticTrader
