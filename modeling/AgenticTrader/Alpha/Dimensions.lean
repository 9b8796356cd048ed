import AgenticTrader.Alpha.Causality
import AgenticTrader.Alpha.Scaling
import Mathlib.Analysis.SpecialFunctions.Pow.Real

/-!
# Compiled units

The compiler gives every part of an expression its units, the powers of a price
and of a volume, and `require_dimensionless` accepts a score for ranking across
names if it has none. The units are right for an expression if measuring prices
and volumes in other units – multiplying the one by `a` and the other by `b` –
multiplies its value at every bar by `a ^ p * b ^ v`.

A numeric literal is given no units and takes those of the series it meets, so
this can only hold where literals meet what is dimensionless. Beyond that the
compiler is wrong in two places. `log` is declared dimensionless whatever its
argument: the logarithm of a price passes for a score. And `ts_beta` checks its
second series against the first like any two parts that meet, though a series
of literals – the branches of a conditional – leaves its quotient with the
units of the first. Everywhere else the units are right, by induction over the
syntax tree: an operator multiplies its value by the factor of the units it is
compiled to.
-/


namespace AgenticTrader

/-! ## The check of a score -/

/-- **`require_dimensionless`**, with the text of an expression and its units
in the message. -/
def requireDimensionless (text : PythonText) (describe : String → Units → String)
    (expression : String) : Except String Unit := do
  let compiled ← compileExpression text expression
  refuse (decide (compiled.units ≠ (0, 0)))
    ("expression must be dimensionless to rank across names: "
      ++ describe expression compiled.units)

/-! ## Literals -/

/-- The units the compiler gives a part. -/
def compiledUnits (text : PythonText) (node : Ast) : Option Units :=
  match visit text 0 node with
  | .ok visited => visited.units
  | .error _ => none

/-- **Two parts meet**: one with no units meets none that has a dimension. -/
def meets : Option Units → Option Units → Bool
  | none, some u => u == (0, 0)
  | some u, none => u == (0, 0)
  | _, _ => true

/-- Neighbouring parts meet. -/
def meetsAll : List (Option Units) → Bool
  | a :: b :: l => meets a b && meetsAll (b :: l)
  | _ => true

/-- The parts that a call brings together. -/
def callMeets : AlphaOperator → List (Option Units) → Bool
  | .min, [x, y] => meets x y
  | .max, [x, y] => meets x y
  | .clip, [x, lower, upper] => meets x lower && meets x upper
  | .cond, [_, x, y] => meets x y
  | .ifElse, [_, x, y] => meets x y
  | _, _ => true

/-- **Literals meet what is dimensionless** at a node, through a sum, a
difference, a comparison, `min`, `max`, `clip` or the branches of a
conditional. -/
def literalsMeet (text : PythonText) : Ast → Bool
  | .binOp left .add right => meets (compiledUnits text left) (compiledUnits text right)
  | .binOp left .sub right => meets (compiledUnits text left) (compiledUnits text right)
  | .compare left _ comparators => meetsAll ((left :: comparators).map (compiledUnits text))
  | .call func args _ =>
    match operatorOf? text func with
    | some op => callMeets op (args.map (compiledUnits text))
    | none => true
  | _ => true

/-- Where the units of a call are right. -/
def callUnitsRight : AlphaOperator → List (Option Units) → Bool
  | .log, [x] => unitsOr x == (0, 0)
  | .tsBeta, [y, x, _] => meets y x
  | _, _ => true

/-- **The declared units are right** at a node: a logarithm is one of a
dimensionless part, and `ts_beta` does not set a series with a dimension
against one of literals. -/
def unitsRight (text : PythonText) : Ast → Bool
  | .call func args _ =>
    match operatorOf? text func with
    | some op => callUnitsRight op (args.map (compiledUnits text))
    | none => true
  | _ => true

mutual

/-- Every node of a tree satisfies a test. -/
def Ast.every (p : Ast → Bool) : Ast → Bool
  | .constant value => p (.constant value)
  | .name id => p (.name id)
  | .unaryOp op operand => p (.unaryOp op operand) && operand.every p
  | .binOp left op right => p (.binOp left op right) && left.every p && right.every p
  | .compare left ops comparators =>
    p (.compare left ops comparators) && left.every p && everyOf p comparators
  | .call func args keywords => p (.call func args keywords) && everyOf p args
  | .other typeName nodes => p (.other typeName nodes)

def everyOf (p : Ast → Bool) : List Ast → Bool
  | [] => true
  | node :: l => node.every p && everyOf p l

end

/-! ## The depth of a node does not matter -/

section

variable {text : PythonText}

theorem depth_mono {d d' : ℕ} (h : d' ≤ d) (hd : decide (16 < d) = false) :
    decide (16 < d') = false := by
  rw [decide_eq_false_iff_not] at hd ⊢
  omega

mutual

/-- **A node is visited alike at a smaller depth.** -/
theorem visit_le : ∀ (node : Ast) {d d' : ℕ} {visited : Visited}, d' ≤ d →
    visit text d node = .ok visited → visit text d' node = .ok visited
  | .constant _, _, _, _, hle, h => by
    unfold visit at h ⊢
    rw [refuse_bind_eq_ok] at h ⊢
    exact ⟨depth_mono hle h.1, h.2⟩
  | .name _, _, _, _, hle, h => by
    unfold visit at h ⊢
    rw [refuse_bind_eq_ok] at h ⊢
    exact ⟨depth_mono hle h.1, h.2⟩
  | .other _ _, _, _, _, hle, h => by
    unfold visit at h ⊢
    rw [refuse_bind_eq_ok] at h ⊢
    exact ⟨depth_mono hle h.1, h.2⟩
  | .unaryOp op operand, _, _, _, hle, h => by
    unfold visit at h ⊢
    rw [refuse_bind_eq_ok] at h ⊢
    refine ⟨depth_mono hle h.1, ?_⟩
    cases op with
    | other => exact h.2
    | _ => exact visit_le operand (Nat.succ_le_succ hle) h.2
  | .binOp left op right, _, _, _, hle, h => by
    unfold visit at h ⊢
    rw [refuse_bind_eq_ok] at h ⊢
    refine ⟨depth_mono hle h.1, ?_⟩
    cases op with
    | other => exact h.2
    | _ =>
      obtain ⟨l, hl, h⟩ := except_bind_eq_ok.mp h.2
      obtain ⟨r, hr, h⟩ := except_bind_eq_ok.mp h
      exact except_bind_eq_ok.mpr ⟨l, visit_le left (Nat.succ_le_succ hle) hl,
        except_bind_eq_ok.mpr ⟨r, visit_le right (Nat.succ_le_succ hle) hr, h⟩⟩
  | .compare left ops comparators, _, _, _, hle, h => by
    unfold visit at h ⊢
    rw [refuse_bind_eq_ok] at h ⊢
    refine ⟨depth_mono hle h.1, ?_⟩
    have h := h.2
    split at h
    · cases h
    · rename_i hops
      rw [if_neg hops]
      obtain ⟨l, hl, h⟩ := except_bind_eq_ok.mp h
      obtain ⟨entries, he, h⟩ := except_bind_eq_ok.mp h
      exact except_bind_eq_ok.mpr ⟨l, visit_le left (Nat.succ_le_succ hle) hl,
        except_bind_eq_ok.mpr ⟨entries, visitAll_le comparators (Nat.succ_le_succ hle) he, h⟩⟩
  | .call func args keywords, _, _, _, hle, h => by
    unfold visit at h ⊢
    rw [refuse_bind_eq_ok] at h ⊢
    refine ⟨depth_mono hle h.1, ?_⟩
    have h := h.2
    cases func with
    | name id =>
      dsimp only at h ⊢
      cases hop : operatorOf? text (.name id) with
      | none =>
        rw [hop] at h
        cases h
      | some op =>
        rw [hop] at h
        dsimp only at h ⊢
        rw [refuse_bind_eq_ok] at h ⊢
        obtain ⟨harity, h⟩ := h
        obtain ⟨entries, he, h⟩ := except_bind_eq_ok.mp h
        exact ⟨harity, except_bind_eq_ok.mpr
          ⟨entries, visitAll_le args (Nat.succ_le_succ hle) he, h⟩⟩
    | _ => exact h

theorem visitAll_le : ∀ (nodes : List Ast) {d d' : ℕ} {entries : List Visited}, d' ≤ d →
    visitAll text d nodes = .ok entries → visitAll text d' nodes = .ok entries
  | [], _, _, _, _, h => by
    unfold visitAll at h ⊢
    exact h
  | node :: l, _, _, _, hle, h => by
    obtain ⟨entry, rest, he, hr, rfl⟩ := visitAll_cons_ok h
    unfold visitAll
    exact except_bind_eq_ok.mpr ⟨entry, visit_le node hle he,
      except_bind_eq_ok.mpr ⟨rest, visitAll_le l hle hr, rfl⟩⟩

end

/-- **The units of a part that was visited.** -/
theorem compiledUnits_eq {node : Ast} {depth : ℕ} {visited : Visited}
    (h : visit text depth node = .ok visited) : compiledUnits text node = visited.units := by
  unfold compiledUnits
  rw [visit_le node (Nat.zero_le depth) h]

theorem map_compiledUnits_eq {nodes : List Ast} {depth : ℕ} {entries : List Visited}
    (h : visitAll text depth nodes = .ok entries) :
    nodes.map (compiledUnits text) = entries.map Visited.units := by
  induction nodes generalizing entries with
  | nil =>
    unfold visitAll at h
    cases h
    rfl
  | cons node l ih =>
    obtain ⟨entry, rest, he, hr, rfl⟩ := visitAll_cons_ok h
    rw [List.map_cons, List.map_cons, compiledUnits_eq he, ih hr]

end

/-! ## Operands in other units -/

section

variable {K : Type} [Field K] [LinearOrder K] [IsStrictOrderedRing K] {n : ℕ} {c d e : K}

/-- **An operand in another unit**: a number has none. -/
inductive OperandScales (c : K) : Operand K n → Operand K n → Prop
  | scalar (a : Scalar K) (h : c = 1) : OperandScales c (.scalar a) (.scalar a)
  | series (x : Series K n) : OperandScales c (.series x) (.series (x.scale c))

/-- Operands, each in its own unit. -/
inductive OperandsScale : List K → List (Operand K n) → List (Operand K n) → Prop
  | nil : OperandsScale [] [] []
  | cons {c : K} {cs : List K} {o o' : Operand K n} {l l' : List (Operand K n)}
      (h : OperandScales c o o') (hl : OperandsScale cs l l') :
      OperandsScale (c :: cs) (o :: l) (o' :: l')

namespace OperandScales

variable {o o' p p' q q' : Operand K n}

omit [LinearOrder K] [IsStrictOrderedRing K] in
theorem cell (h : OperandScales c o o') (i : Fin n) : o'.cell i = (o.cell i).scale c := by
  cases h with
  | scalar a h => rw [h, Reading.scale_one]
  | series x => rfl

omit [LinearOrder K] [IsStrictOrderedRing K] in
/-- A number stays one in the units of a result that has none where its
arguments have none. -/
theorem map₁ (onScalar : Scalar K → Scalar K) {f : Reading K → Reading K}
    (hf : ∀ x, f (x.scale c) = (f x).scale e) (he : c = 1 → e = 1) (h : OperandScales c o o') :
    OperandScales e (o.map₁ onScalar f) (o'.map₁ onScalar f) := by
  cases h with
  | scalar a h => exact .scalar _ (he h)
  | series x =>
    have hx : (fun i => f ((x i).scale c)) = Series.scale e (fun i => f (x i)) :=
      funext fun i => hf (x i)
    show OperandScales e (.series _) (.series (fun i => f ((x i).scale c)))
    rw [hx]
    exact .series _

omit [LinearOrder K] [IsStrictOrderedRing K] in
/-- A series of cells, each in the unit of the result. -/
theorem of_cells {x y : Series K n} (h : ∀ i, y i = (x i).scale c) :
    OperandScales c (.series x) (.series y) := by
  rw [show y = x.scale c from funext h]
  exact .series x

omit [LinearOrder K] [IsStrictOrderedRing K] in
theorem map₂ (onScalars : Scalar K → Scalar K → Scalar K)
    {f : Reading K → Reading K → Reading K}
    (hf : ∀ x y, f (x.scale c) (y.scale d) = (f x y).scale e) (he : c = 1 → d = 1 → e = 1)
    (h : OperandScales c o o') (h' : OperandScales d p p') :
    OperandScales e (o.map₂ onScalars f p) (o'.map₂ onScalars f p') := by
  have hcells : ∀ i, f (o'.cell i) (p'.cell i) = (f (o.cell i) (p.cell i)).scale e :=
    fun i => by rw [h.cell, h'.cell, hf]
  cases h with
  | scalar a h =>
    cases h' with
    | scalar b h' => exact .scalar _ (he h h')
    | series y => exact of_cells hcells
  | series x => exact of_cells hcells

omit [LinearOrder K] [IsStrictOrderedRing K] in
theorem asSeries (h : OperandScales c o o') :
    Alike (fun x y => y = x.scale c) o.asSeries o'.asSeries := by
  cases h with
  | scalar a h => exact .error _
  | series x => exact .ok rfl

omit [LinearOrder K] [IsStrictOrderedRing K] in
theorem asInt (h : OperandScales c o o') : o'.asInt = o.asInt := by
  cases h with
  | scalar a h => rfl
  | series x => rfl

omit [LinearOrder K] [IsStrictOrderedRing K] in
theorem asWindow (h : OperandScales c o o') : o'.asWindow = o.asWindow := by
  unfold Operand.asWindow
  rw [h.asInt]

omit [LinearOrder K] [IsStrictOrderedRing K] in
theorem unary (op : PyUnary) (h : OperandScales c o o') :
    OperandScales c (o.unary op) (o'.unary op) := by
  cases op with
  | usub => exact h.map₁ _ Reading.neg_scale id
  | uadd => exact h
  | other => exact h

omit [IsStrictOrderedRing K] in
theorem pow (p : ℤ) (hc : 0 < c) (numpy : Bool) (h : OperandScales c o o') :
    Alike (OperandScales (c ^ p)) (o.binary .pow (.scalar (.int numpy p)))
      (o'.binary .pow (.scalar (.int numpy p))) := by
  cases h with
  | scalar a h =>
    show Alike _ ((a.pow p).map Operand.scalar) ((a.pow p).map Operand.scalar)
    cases a.pow p with
    | ok b => exact .ok (.scalar b (by rw [h, one_zpow]))
    | error e => exact .error e
  | series x => exact .ok (of_cells fun i => (x i).pow_scale hc p)

theorem compareStep (hc : 0 < c) (op : PyComparison) (h : OperandScales c o o')
    (h' : OperandScales c p p') : compareStep op o' p' = compareStep op o p := by
  have hcells : (fun i => (o'.cell i).compare op (p'.cell i))
      = fun i => (o.cell i).compare op (p.cell i) := by
    funext i
    rw [h.cell, h'.cell, Reading.compare_scale _ _ hc]
  cases h with
  | scalar a h =>
    cases h' with
    | scalar b h' => rfl
    | series y => exact congrArg Except.ok hcells
  | series x => exact congrArg Except.ok hcells

theorem callClip (hc : 0 < c) (h : OperandScales c o o') (h' : OperandScales c p p')
    (h'' : OperandScales c q q') : OperandScales c (callClip o p q) (callClip o' p' q') := by
  have hcells : ∀ i, (o'.cell i).clip (p'.cell i) (q'.cell i)
      = ((o.cell i).clip (p.cell i) (q.cell i)).scale c :=
    fun i => by rw [h.cell, h'.cell, h''.cell, Reading.clip_scale _ _ _ hc]
  cases h with
  | series x => exact of_cells hcells
  | scalar a h =>
    cases h' with
    | series y => cases a <;> exact of_cells hcells
    | scalar b h' =>
      cases h'' with
      | series z => cases a <;> cases b <;> exact of_cells hcells
      | scalar z h'' => cases a <;> cases b <;> cases z <;> exact .scalar _ h

theorem cond (hc : 0 < c) (h : OperandScales c o o') (h' : OperandScales d p p')
    (h'' : OperandScales d q q') :
    OperandScales d (.series fun i => (o.cell i).cond (p.cell i) (q.cell i))
      (.series fun i => (o'.cell i).cond (p'.cell i) (q'.cell i)) :=
  of_cells fun i => by rw [h.cell, h'.cell, h''.cell, Reading.cond_scale _ _ _ hc]

/-! ## Calls in other units -/

omit [IsStrictOrderedRing K] in
theorem callRolling {f : Series K n → ℕ → Series K n} {g : K → K} (hf : Scales g f) (hc : 0 < c)
    (h : OperandScales c o o') (h' : OperandScales d p p') :
    Alike (OperandScales (g c)) (callRolling f o p) (callRolling f o' p') := by
  unfold AgenticTrader.callRolling
  rw [h'.asWindow]
  refine h.asSeries.bind fun x y hxy => ?_
  subst hxy
  cases p.asWindow with
  | error e => exact .error e
  | ok w => exact .ok (of_cells fun i => congrFun (hf hc x w) i)

omit [IsStrictOrderedRing K] in
theorem callLag {f : Series K n → ℤ → Series K n} {g : K → K} (hf : Scales g f) (hc : 0 < c)
    (h : OperandScales c o o') (h' : OperandScales d p p') :
    Alike (OperandScales (g c)) (callLag f o p) (callLag f o' p') := by
  unfold AgenticTrader.callLag
  rw [h'.asInt]
  refine h.asSeries.bind fun x y hxy => ?_
  subst hxy
  cases p.asInt with
  | error e => exact .error e
  | ok w => exact .ok (of_cells fun i => congrFun (hf hc x w) i)

omit [IsStrictOrderedRing K] in
theorem callRolling₂ {f : Series K n → Series K n → ℕ → Series K n} {g : K → K → K}
    (hf : Scales₂ g f) (hc : 0 < c) (hd : 0 < d) (h : OperandScales c o o')
    (h' : OperandScales d p p') (h'' : OperandScales e q q') :
    Alike (OperandScales (g c d)) (callRolling₂ f o p q) (callRolling₂ f o' p' q') := by
  unfold AgenticTrader.callRolling₂
  rw [h''.asWindow]
  refine h.asSeries.bind fun x y hxy => h'.asSeries.bind fun u v huv => ?_
  subst hxy huv
  cases q.asWindow with
  | error e => exact .error e
  | ok w => exact .ok (of_cells fun i => congrFun (hf hc hd x u w) i)

theorem callResidStd {fn : Elementary K} (hfn : fn.Homogeneous) (hc : 0 < c) (hd : 0 < d)
    (h : OperandScales c o o') (h' : OperandScales d p p') (h'' : OperandScales e q q') :
    Alike (OperandScales c) (callResidStd fn o p q) (callResidStd fn o' p' q') := by
  unfold AgenticTrader.callResidStd
  rw [h''.asWindow]
  cases q.asWindow with
  | error e => exact .error e
  | ok w =>
    show Alike _ (if w < 3 then _ else _) (if w < 3 then _ else _)
    by_cases hw : w < 3
    · rw [if_pos hw, if_pos hw]
      exact h.asSeries.bind fun x y _ => .ok (of_cells fun i => rfl)
    · rw [if_neg hw, if_neg hw]
      refine h'.asSeries.bind fun u v huv => h.asSeries.bind fun x y hxy => ?_
      subst hxy huv
      exact .ok (of_cells fun i => congrFun (tsResidStd_scales hfn hc hd x u w) i)

end OperandScales

end

/-! ## Factors -/

/-- **The logarithm and the square root of the reals.** -/
noncomputable def Elementary.real : Elementary ℝ := ⟨Real.log, Real.sqrt⟩

theorem Elementary.real_homogeneous : Elementary.real.Homogeneous := by
  intro c x hc
  show Real.sqrt (c ^ 2 * x) = c * Real.sqrt x
  rw [Real.sqrt_mul (sq_nonneg c), Real.sqrt_sq hc.le]

/-- **What some units are multiplied by**, with prices multiplied by `a` and
volumes by `b`. -/
noncomputable def factor (a b : ℝ) (u : Units) : ℝ :=
  a ^ (u.1 : ℝ) * b ^ (u.2 : ℝ)

section

variable {a b : ℝ} (ha : 0 < a) (hb : 0 < b) (u v : Units)

theorem factor_zero : factor a b (0, 0) = 1 := by
  simp [factor]

include ha hb

theorem factor_pos : 0 < factor a b u :=
  mul_pos (Real.rpow_pos_of_pos ha _) (Real.rpow_pos_of_pos hb _)

theorem factor_add : factor a b (u.1 + v.1, u.2 + v.2) = factor a b u * factor a b v := by
  unfold factor
  push_cast
  rw [Real.rpow_add ha, Real.rpow_add hb]
  ring

theorem factor_sub : factor a b (u.1 - v.1, u.2 - v.2) = factor a b u / factor a b v := by
  unfold factor
  push_cast
  rw [Real.rpow_sub ha, Real.rpow_sub hb]
  exact div_mul_div_comm ..

theorem factor_mul (p : ℤ) : factor a b (u.1 * p, u.2 * p) = factor a b u ^ p := by
  unfold factor
  push_cast
  rw [Real.rpow_mul ha.le, Real.rpow_mul hb.le, Real.rpow_intCast, Real.rpow_intCast, mul_zpow]

theorem factor_half : factor a b (u.1 / 2, u.2 / 2) ^ 2 = factor a b u := by
  have h := factor_add ha hb (u.1 / 2, u.2 / 2) (u.1 / 2, u.2 / 2)
  rw [add_halves, add_halves] at h
  rw [sq, ← h]

end

/-- What meets a part with units has these. -/
theorem sameUnits_some {u : Units} {r v : Option Units} (h : sameUnits (some u) r = .ok v) :
    v = some u := by
  cases r with
  | none => exact (Except.ok.inj h).symm
  | some r =>
    simp only [sameUnits] at h
    split at h
    · cases h
    · exact (Except.ok.inj h).symm

/-- **What meets has the units of the result.** -/
theorem sameUnits_meets {l r u : Option Units} (h : sameUnits l r = .ok u)
    (hm : meets l r = true) : unitsOr l = unitsOr u ∧ unitsOr r = unitsOr u := by
  unfold sameUnits at h
  split at h
  · split at h
    · cases h
    · rename_i heq
      cases h
      exact ⟨rfl, (not_not.mp heq).symm⟩
  · cases h
    exact ⟨rfl, (eq_of_beq hm).symm⟩
  · cases h
    refine ⟨?_, rfl⟩
    cases r with
    | none => rfl
    | some u => exact (eq_of_beq hm).symm

/-! ## Calls -/

section

variable {a b : ℝ} {n : ℕ}

/-- An operand in the units of a part. -/
abbrev InUnits (a b : ℝ) (u : Option Units) (o o' : Operand ℝ n) : Prop :=
  OperandScales (factor a b (unitsOr u)) o o'

theorem InUnits.congr {u v : Option Units} {o o' : Operand ℝ n} (h : InUnits a b u o o')
    (huv : unitsOr u = unitsOr v) : InUnits a b v o o' := by
  unfold InUnits
  rw [← huv]
  exact h

/-- A dimensionless result. -/
theorem InUnits.dimensionless {c : ℝ} {o o' : Operand ℝ n} (h : OperandScales c o o')
    (hc : c = 1) : InUnits a b (some (0, 0)) o o' := by
  unfold InUnits
  show OperandScales (factor a b (0, 0)) o o'
  rw [factor_zero, ← hc]
  exact h

variable (ha : 0 < a) (hb : 0 < b) {nodes : List Ast} {units : Option Units}
include ha hb

/-- **A call with one argument is in its units.** -/
theorem callOperator_one_scales {op : AlphaOperator} {e : Visited} {o o' : Operand ℝ n}
    (hu : callUnits op nodes [e] = .ok units) (hr : callUnitsRight op [e.units] = true)
    (h : InUnits a b e.units o o') :
    Alike (InUnits a b units) (callOperator .real op [o]) (callOperator .real op [o']) := by
  have hpos := factor_pos ha hb (unitsOr e.units)
  have hdefault : ∀ op, OperandScales (1 : ℝ) (defaultOperand op : Operand ℝ n)
      (defaultOperand op) := fun op => .scalar _ rfl
  have hone := factor_zero (a := a) (b := b)
  cases op with
  | sign =>
    cases hu
    exact .ok (.dimensionless (h.map₁ _ (fun x => by rw [x.sign_scale hpos, Reading.scale_one])
      (fun _ => rfl)) rfl)
  | abs =>
    cases hu
    exact .ok (h.map₁ _ (fun x => x.abs_scale hpos) id)
  | log =>
    cases hu
    have hunits : unitsOr e.units = (0, 0) := eq_of_beq hr
    rw [InUnits, hunits, hone] at h
    exact .ok (.dimensionless (h.map₁ _ (fun x => by rw [Reading.scale_one, Reading.scale_one])
      (fun _ => rfl)) rfl)
  | sqrt =>
    cases hu
    have hhalf := factor_half ha hb (unitsOr e.units)
    have hpos' := factor_pos ha hb ((unitsOr e.units).1 / 2, (unitsOr e.units).2 / 2)
    refine .ok (h.map₁ _ (fun x => ?_) (fun hc => ?_))
    · show (x.scale (factor a b (unitsOr e.units))).safeSqrt .real = _
      rw [← hhalf]
      exact Reading.safeSqrt_scale Elementary.real_homogeneous hpos' x
    · rw [← hhalf] at hc
      exact (pow_eq_one_iff_of_nonneg hpos'.le two_ne_zero).mp hc
  | delta =>
    cases hu
    exact h.callLag (g := id) delta_scales hpos (hdefault _)
  | delay =>
    cases hu
    exact h.callLag (g := id) delay_scales hpos (hdefault _)
  | zscore =>
    cases hu
    exact (h.callRolling (zscore_scales Elementary.real_homogeneous) hpos (hdefault _)).mono
      fun _ _ h => .dimensionless h rfl
  | _ => exact .error _

/-- **A call with two arguments is in its units.** -/
theorem callOperator_two_scales {op : AlphaOperator} {e f : Visited} {o o' p p' : Operand ℝ n}
    (hu : callUnits op nodes [e, f] = .ok units)
    (hm : callMeets op [e.units, f.units] = true)
    (h : InUnits a b e.units o o') (h' : InUnits a b f.units p p') :
    Alike (InUnits a b units) (callOperator .real op [o, p]) (callOperator .real op [o', p']) := by
  have hpos := factor_pos ha hb (unitsOr e.units)
  have hreal := Elementary.real_homogeneous
  -- what a call of an operator of one series makes of it
  have hkeep : ∀ {f : Series ℝ n → ℕ → Series ℝ n}, Scales id f →
      Alike (InUnits a b e.units) (callRolling f o p) (callRolling f o' p') :=
    fun hf => h.callRolling (g := id) hf hpos h'
  have hkeepLag : ∀ {f : Series ℝ n → ℤ → Series ℝ n}, Scales id f →
      Alike (InUnits a b e.units) (callLag f o p) (callLag f o' p') :=
    fun hf => h.callLag (g := id) hf hpos h'
  have hdrop : ∀ {f : Series ℝ n → ℕ → Series ℝ n}, Scales (fun _ => 1) f →
      Alike (InUnits a b (some (0, 0))) (callRolling f o p) (callRolling f o' p') :=
    fun hf => (h.callRolling hf hpos h').mono fun _ _ h => .dimensionless h rfl
  cases op with
  | tsRank =>
    cases hu
    exact hdrop (rolling_scales_one fun hc v => Stats.lastRank_rescaled v hc)
  | tsArgmax =>
    cases hu
    exact hdrop (rolling_scales_one fun hc v =>
      Stats.relative_rescaled v (Stats.argmax_rescaled v hc))
  | tsArgmin =>
    cases hu
    exact hdrop (rolling_scales_one fun hc v =>
      Stats.relative_rescaled v (Stats.argmin_rescaled v hc))
  | zscore =>
    cases hu
    exact hdrop (zscore_scales hreal)
  | roc =>
    cases hu
    exact (h.callLag roc_scales hpos h').mono fun _ _ h => .dimensionless h rfl
  | tsStd =>
    cases hu
    exact hkeep (std_scales hreal)
  | realizedVol =>
    cases hu
    exact hkeep (std_scales hreal)
  | tsMean =>
    cases hu
    exact hkeep mean_scales
  | sma =>
    cases hu
    exact hkeep mean_scales
  | ema =>
    cases hu
    exact hkeep (fun _ x w => ema_scale x w)
  | tsMax =>
    cases hu
    exact hkeep (rolling_scales fun hc v => Stats.greatest_rescaled v hc)
  | tsMin =>
    cases hu
    exact hkeep (rolling_scales fun hc v => Stats.least_rescaled v hc)
  | decayLinear =>
    cases hu
    exact hkeep (rolling_scales fun _ v => Stats.decayLinear_rescaled v)
  | tsSlope =>
    cases hu
    exact hkeep slope_scales
  | tsResidual =>
    cases hu
    exact hkeep tsResidual_scales
  | tsMad =>
    cases hu
    exact hkeep (rolling_scales fun hc v => Stats.mad_rescaled v hc)
  | tsSum =>
    cases hu
    exact hkeep (rolling_scales fun _ v => by rw [Stats.sum_rescaled]; rfl)
  | delta =>
    cases hu
    exact hkeepLag delta_scales
  | delay =>
    cases hu
    exact hkeepLag delay_scales
  | min =>
    obtain ⟨hl, hr⟩ := sameUnits_meets hu hm
    have hpos := factor_pos ha hb (unitsOr units)
    exact .ok ((h.congr hl).map₂ _ (fun x y => x.min_scale y hpos) (fun h _ => h) (h'.congr hr))
  | max =>
    obtain ⟨hl, hr⟩ := sameUnits_meets hu hm
    have hpos := factor_pos ha hb (unitsOr units)
    exact .ok ((h.congr hl).map₂ _ (fun x y => x.max_scale y hpos) (fun h _ => h) (h'.congr hr))
  | _ => exact .error _

/-- **A call with three arguments is in its units.** -/
theorem callOperator_three_scales {op : AlphaOperator} {e f g : Visited}
    {o o' p p' q q' : Operand ℝ n} (hu : callUnits op nodes [e, f, g] = .ok units)
    (hm : callMeets op [e.units, f.units, g.units] = true)
    (hr : callUnitsRight op [e.units, f.units, g.units] = true)
    (hfirst : op.spec.windowArgument.isSome → e.units.isSome)
    (h : InUnits a b e.units o o') (h' : InUnits a b f.units p p')
    (h'' : InUnits a b g.units q q') :
    Alike (InUnits a b units) (callOperator .real op [o, p, q])
      (callOperator .real op [o', p', q']) := by
  have hpos := factor_pos ha hb (unitsOr e.units)
  have hpos' := factor_pos ha hb (unitsOr f.units)
  have hreal := Elementary.real_homogeneous
  cases op with
  | tsCorr =>
    cases hu
    exact (h.callRolling₂ (tsCorr_scales hreal) hpos hpos' h' h'').mono
      fun _ _ h => .dimensionless h rfl
  | tsBeta =>
    obtain ⟨u, hsame, hu⟩ := except_bind_eq_ok.mp hu
    cases hu
    obtain ⟨hl, hl'⟩ := sameUnits_meets hsame hr
    refine (h.callRolling₂ tsBeta_scales hpos hpos' h' h'').mono
      fun _ _ h => .dimensionless h ?_
    have heq : unitsOr e.units = unitsOr f.units := hl.trans hl'.symm
    show factor a b (unitsOr e.units) / factor a b (unitsOr f.units) = 1
    rw [heq, div_self hpos'.ne']
  | tsResidStd =>
    obtain ⟨u, heu⟩ := Option.isSome_iff_exists.mp (hfirst rfl)
    have hunits : e.units = units := by
      have hu' : sameUnits e.units f.units = .ok units := hu
      rw [heu] at hu' ⊢
      exact (sameUnits_some hu').symm
    rw [← hunits]
    exact h.callResidStd hreal hpos hpos' h' h''
  | cond =>
    obtain ⟨hl, hr⟩ := sameUnits_meets hu hm
    exact .ok (h.cond hpos (h'.congr hl) (h''.congr hr))
  | ifElse =>
    obtain ⟨hl, hr⟩ := sameUnits_meets hu hm
    exact .ok (h.cond hpos (h'.congr hl) (h''.congr hr))
  | clip =>
    obtain ⟨u, hsame, hu⟩ := except_bind_eq_ok.mp hu
    obtain ⟨v, hsame', hu⟩ := except_bind_eq_ok.mp hu
    obtain ⟨⟨⟩, -, hu⟩ := except_bind_eq_ok.mp hu
    cases hu
    have hm' := Bool.and_eq_true_iff.mp hm
    obtain ⟨hl, hl'⟩ := sameUnits_meets hsame hm'.1
    obtain ⟨hr, hr'⟩ := sameUnits_meets hsame' hm'.2
    exact .ok (h.callClip hpos (h'.congr (hl'.trans hl.symm)) (h''.congr (hr'.trans hr.symm)))
  | _ => exact .error _

/-- **A call is in its units.** -/
theorem callOperator_scales {op : AlphaOperator} {entries : List Visited}
    {values values' : List (Operand ℝ n)} (hu : callUnits op nodes entries = .ok units)
    (hm : callMeets op (entries.map Visited.units) = true)
    (hr : callUnitsRight op (entries.map Visited.units) = true)
    (hfirst : op.spec.windowArgument.isSome → ∀ e ∈ entries.head?, e.units.isSome)
    (h : OperandsScale (entries.map (fun e => factor a b (unitsOr e.units))) values values') :
    Alike (InUnits a b units) (callOperator .real op values) (callOperator .real op values') := by
  rcases entries with _ | ⟨e, _ | ⟨f, _ | ⟨g, _ | ⟨k, entries⟩⟩⟩⟩
  · obtain _ | _ := h
    cases op <;> exact .error _
  · obtain _ | ⟨h, _ | _⟩ := h
    exact callOperator_one_scales ha hb hu hr h
  · obtain _ | ⟨h, _ | ⟨h', _ | _⟩⟩ := h
    exact callOperator_two_scales ha hb hu hm h h'
  · obtain _ | ⟨h, _ | ⟨h', _ | ⟨h'', _ | _⟩⟩⟩ := h
    exact callOperator_three_scales ha hb hu hm hr (fun hw => hfirst hw e rfl) h h' h''
  · obtain _ | ⟨h, _ | ⟨h', _ | ⟨h'', _ | ⟨hk, hrest⟩⟩⟩⟩ := h
    cases op <;> exact .error _

end

/-- A rolling operator has a series first. -/
theorem callLookback_first {op : AlphaOperator} {args : List Ast} {entries : List Visited}
    {lookback : ℕ} (h : callLookback op args entries = .ok lookback)
    (hw : op.spec.windowArgument.isSome) : ∀ e ∈ entries.head?, e.units.isSome := by
  intro e he
  obtain ⟨position, hp⟩ := Option.isSome_iff_exists.mp hw
  unfold callLookback at h
  rw [hp] at h
  obtain ⟨w, -, h⟩ := except_bind_eq_ok.mp h
  cases entries with
  | nil => cases he
  | cons entry rest =>
    obtain ⟨units, lookback, fields⟩ := entry
    cases he
    cases units with
    | none => cases h
    | some u => rfl

/-! ## Expressions -/

section

variable {a b : ℝ} {n : ℕ} {text : PythonText} {fields fields' : FieldSeries ℝ n}

/-- **The fields in other units.** -/
def FieldsScale (a b : ℝ) (fields fields' : FieldSeries ℝ n) : Prop :=
  ∀ field : AlphaField,
    Option.Rel (fun x y => y = x.scale (factor a b field.units)) (fields field) (fields' field)

theorem evaluateName_scales (hf : FieldsScale a b fields fields') {id : String}
    {field : AlphaField} (hid : AlphaField.ofName? (text.lower id) = some field) :
    Alike (InUnits a b (some field.units)) (evaluateNode text .real fields (.name id))
      (evaluateNode text .real fields' (.name id)) := by
  unfold evaluateNode
  have hrel := hf field
  rw [hid, Option.bind_some, Option.bind_some]
  generalize fields field = x, fields' field = y at hrel
  cases hrel with
  | some h =>
    subst h
    exact .ok (.series _)
  | none => exact .error _

variable (ha : 0 < a) (hb : 0 < b)
include ha hb

/-- **A binary operation is in its units**, a power apart. -/
theorem binary_scales {op : PyBinary} {l r : Visited} {node : Ast} {units : Option Units}
    {o o' p p' : Operand ℝ n} (hpow : op ≠ .pow) (hu : binaryUnits op l r node = .ok units)
    (hm : op = .add ∨ op = .sub → meets l.units r.units = true)
    (h : InUnits a b l.units o o') (h' : InUnits a b r.units p p') :
    Alike (InUnits a b units) (o.binary op p) (o'.binary op p') := by
  have hpos := factor_pos ha hb (unitsOr l.units)
  have hpos' := factor_pos ha hb (unitsOr r.units)
  cases op with
  | add =>
    obtain ⟨hl, hr⟩ := sameUnits_meets hu (hm (Or.inl rfl))
    exact .ok ((h.congr hl).map₂ _ Reading.add_scale (fun h _ => h) (h'.congr hr))
  | sub =>
    obtain ⟨hl, hr⟩ := sameUnits_meets hu (hm (Or.inr rfl))
    exact .ok ((h.congr hl).map₂ _ Reading.sub_scale (fun h _ => h) (h'.congr hr))
  | mult =>
    cases hu
    refine .ok (h.map₂ _ (fun x y => ?_) (fun hc hd => ?_) h')
    · rw [x.mul_scale y hpos hpos', ← factor_add ha hb]
      rfl
    · show factor a b (_ + _, _ + _) = 1
      rw [factor_add ha hb, hc, hd, mul_one]
  | div =>
    cases hu
    refine .ok (h.map₂ _ (fun x y => ?_) (fun hc hd => ?_) h')
    · rw [x.safeDiv_scale y hpos hpos', ← factor_sub ha hb]
      rfl
    · show factor a b (_ - _, _ - _) = 1
      rw [factor_sub ha hb, hc, hd, div_one]
  | pow => exact absurd rfl hpow
  | other => exact .error _

/-- **A power is in its units.** -/
theorem pow_scales {l r : Visited} {right : Ast} {units : Option Units} {o o' : Operand ℝ n}
    (hu : binaryUnits .pow l r right = .ok units) (h : InUnits a b l.units o o') :
    Alike (InUnits a b units) (evaluateNode text .real fields right >>= o.binary .pow)
      (evaluateNode text .real fields' right >>= o'.binary .pow) := by
  obtain ⟨p, hp, hu⟩ := except_bind_eq_ok.mp hu
  cases hu
  have hlit : literal right = .ok (.int p) := by
    unfold powerOf at hp
    obtain ⟨x, hx, hp⟩ := except_bind_eq_ok.mp hp
    cases x with
    | int z =>
      dsimp only at hp
      split at hp
      · cases hp
      · cases hp
        exact hx
    | float q => cases hp
    | infinite => cases hp
  rw [evaluateNode_literal hlit, evaluateNode_literal hlit]
  unfold InUnits
  show Alike (OperandScales (factor a b (_ * _, _ * _))) _ _
  rw [factor_mul ha hb]
  exact OperandScales.pow p (factor_pos ha hb _) false h

omit ha hb

mutual

/-- **The value of an expression is in the units it is compiled to**, if its
literals meet what is dimensionless and its declared units are right. -/
theorem evaluateNode_scales (ha : 0 < a) (hb : 0 < b)
    (hf : FieldsScale a b fields fields') :
    ∀ (node : Ast) {depth : ℕ} {visited : Visited}, visit text depth node = .ok visited →
      node.every (literalsMeet text) = true → node.every (unitsRight text) = true →
      Alike (InUnits a b visited.units) (evaluateNode text .real fields node)
        (evaluateNode text .real fields' node)
  | .constant value, _, _, h, _, _ => by
    have hu : ∀ s : Scalar ℝ, InUnits a b none (.scalar s) (.scalar s : Operand ℝ n) :=
      fun s => .scalar s factor_zero
    unfold visit at h
    rw [refuse_bind_eq_ok] at h
    obtain ⟨⟨⟩, -, h⟩ := except_bind_eq_ok.mp h.2
    cases h
    rcases value with (z | q | _) | _
    · exact .ok (hu _)
    · exact .ok (hu _)
    · exact .ok (hu _)
    · exact .error _
  | .name id, _, _, h, _, _ => by
    obtain ⟨field, hid, -, hu⟩ := visit_name_ok h
    rw [hu]
    exact evaluateName_scales hf hid
  | .unaryOp op operand, _, _, h, hm, hr => by
    unfold Ast.every at hm hr
    unfold evaluateNode
    exact (evaluateNode_scales ha hb hf operand (visit_unaryOp_ok h) (Bool.and_eq_true_iff.mp hm).2
      (Bool.and_eq_true_iff.mp hr).2).bind fun _ _ ho => .ok (ho.unary op)
  | .binOp left op right, _, _, h, hm, hr => by
    obtain ⟨l, r, hl, hrv, -, hu⟩ := visit_binOp_ok h
    unfold Ast.every at hm hr
    simp only [Bool.and_eq_true] at hm hr
    unfold evaluateNode
    refine (evaluateNode_scales ha hb hf left hl hm.1.2 hr.1.2).bind fun o o' ho => ?_
    by_cases hpow : op = .pow
    · subst hpow
      exact pow_scales ha hb hu ho
    · refine (evaluateNode_scales ha hb hf right hrv hm.2 hr.2).bind fun p p' hp => ?_
      refine binary_scales ha hb hpow hu (fun hop => ?_) ho hp
      rw [← compiledUnits_eq hl, ← compiledUnits_eq hrv]
      rcases hop with rfl | rfl
      · exact hm.1.1
      · exact hm.1.1
  | .compare left ops comparators, _, _, h, hm, hr => by
    obtain ⟨l, entries, hl, he, -, hsame, hu⟩ := visit_compare_ok h
    unfold Ast.every at hm hr
    simp only [Bool.and_eq_true] at hm hr
    have hmeets : meetsAll ((l :: entries).map Visited.units) = true := by
      have h := hm.1.1
      simp only [literalsMeet, List.map_cons, compiledUnits_eq hl, map_compiledUnits_eq he] at h
      exact h
    unfold evaluateNode
    rw [hu]
    refine (evaluateNode_scales ha hb hf left hl hm.1.2 hr.1.2).bind fun o o' ho => ?_
    exact compareChain_scales ha hb hf comparators he hm.2 hr.2 hsame hmeets ho
  | .call func args keywords, _, _, h, hm, hr => by
    obtain ⟨op, entries, hop, he, hl, hu⟩ := visit_call_ok h
    unfold Ast.every at hm hr
    simp only [Bool.and_eq_true] at hm hr
    unfold evaluateNode
    rw [hop]
    refine (evaluateAll_scales ha hb hf args he hm.2 hr.2).bind fun values values' hv => ?_
    refine callOperator_scales ha hb hu ?_ ?_ (callLookback_first hl) hv
    · have h := hm.1
      simpa only [literalsMeet, hop, map_compiledUnits_eq he] using h
    · have h := hr.1
      simpa only [unitsRight, hop, map_compiledUnits_eq he] using h
  | .other _ _, _, _, _, _, _ => .error _

/-- The same of the arguments of a call. -/
theorem evaluateAll_scales (ha : 0 < a) (hb : 0 < b)
    (hf : FieldsScale a b fields fields') :
    ∀ (nodes : List Ast) {depth : ℕ} {entries : List Visited},
      visitAll text depth nodes = .ok entries → everyOf (literalsMeet text) nodes = true →
      everyOf (unitsRight text) nodes = true →
      Alike (OperandsScale (entries.map (fun e => factor a b (unitsOr e.units))))
        (evaluateAll text .real fields nodes) (evaluateAll text .real fields' nodes)
  | [], _, _, h, _, _ => by
    unfold visitAll at h
    cases h
    exact .ok .nil
  | node :: l, _, _, h, hm, hr => by
    obtain ⟨entry, rest, he, hl, rfl⟩ := visitAll_cons_ok h
    unfold everyOf at hm hr
    simp only [Bool.and_eq_true] at hm hr
    unfold evaluateAll
    refine (evaluateNode_scales ha hb hf node he hm.1 hr.1).bind fun o o' ho => ?_
    refine (evaluateAll_scales ha hb hf l hl hm.2 hr.2).bind fun os os' hos => ?_
    exact .ok (.cons ho hos)

/-- A chain of comparisons has the same value. -/
theorem compareChain_scales (ha : 0 < a) (hb : 0 < b)
    (hf : FieldsScale a b fields fields') :
    ∀ (parts : List Ast) {depth : ℕ} {entry : Visited} {entries : List Visited}
      {left left' : Operand ℝ n} {result : Series ℝ n} {ops : List PyComparison},
      visitAll text depth parts = .ok entries → everyOf (literalsMeet text) parts = true →
      everyOf (unitsRight text) parts = true → sameUnitsAll (entry :: entries) = .ok () →
      meetsAll ((entry :: entries).map Visited.units) = true →
      InUnits a b entry.units left left' →
      Alike (InUnits a b (some (0, 0))) (compareChain text .real fields left result ops parts)
        (compareChain text .real fields' left' result ops parts)
  | [], _, _, _, _, _, _, ops, _, _, _, _, _, _ => by
    unfold compareChain
    cases ops with
    | nil => exact .ok (.dimensionless (OperandScales.of_cells fun i => by
        rw [Reading.scale_one]) rfl)
    | cons op ops => exact .error _
  | part :: parts, _, _, _, _, _, _, ops, h, hm, hr, hsame, hmeets, hleft => by
    obtain ⟨entry, rest, he, hl, rfl⟩ := visitAll_cons_ok h
    unfold everyOf at hm hr
    simp only [Bool.and_eq_true] at hm hr
    simp only [List.map_cons, meetsAll, Bool.and_eq_true] at hmeets
    obtain ⟨u, hu, hsame⟩ := except_bind_eq_ok.mp hsame
    obtain ⟨hleftUnits, hrightUnits⟩ := sameUnits_meets hu hmeets.1
    unfold compareChain
    cases ops with
    | nil => exact .error _
    | cons op ops =>
      refine (evaluateNode_scales ha hb hf part he hm.1 hr.1).bind fun o o' ho => ?_
      have hstep := OperandScales.compareStep (factor_pos ha hb (unitsOr u)) op
        (hleft.congr hleftUnits) (ho.congr hrightUnits)
      rw [hstep]
      cases compareStep op _ o with
      | error e => exact .error e
      | ok step => exact compareChain_scales ha hb hf parts hl hm.2 hr.2 hsame hmeets.2 ho

end

end

/-! ## Frames -/

/-- What the cells of a field are multiplied by. -/
def AlphaField.unitIn {K : Type} [One K] (a b : K) : AlphaField → K
  | .open | .high | .low | .close | .vwap => a
  | .volume => b
  | _ => 1

/-- **A frame in other units**: its prices multiplied by `a` and its volumes by
`b`. -/
def DataFrame.rescale {K : Type} [Field K] (text : PythonText) (a b : K) (frame : DataFrame K) :
    DataFrame K where
  length := frame.length
  index := frame.index
  columns := frame.columns
  bar i column :=
    match AlphaField.ofName? (text.lower column) with
    | some field => (frame.bar i column).scale (field.unitIn a b)
    | none => frame.bar i column

theorem AlphaField.ofName?_name (field : AlphaField) : ofName? field.name = some field := by
  cases field <;> rfl

theorem factor_units (a b : ℝ) (field : AlphaField) :
    factor a b field.units = field.unitIn a b := by
  cases field <;> simp [factor, AlphaField.units, AlphaField.unitIn]

section

variable {a b : ℝ} {text : PythonText} {F : DataFrame ℝ}

variable (a b text F) in
theorem column_scale (field : AlphaField) :
    (F.rescale text a b).column? text field
      = (F.column? text field).map (Series.scale (field.unitIn a b)) := by
  unfold DataFrame.column?
  show (F.columns.find? _).map _ = ((F.columns.find? _).map _).map _
  cases hc : F.columns.find? (fun c => text.lower c == field.name) with
  | none => rfl
  | some c =>
    have hname : (text.lower c == field.name) = true :=
      List.find?_some (p := fun c => text.lower c == field.name) hc
    refine congrArg some (funext fun i => ?_)
    show (match AlphaField.ofName? (text.lower c) with
      | some field => (F.bar i c).scale (field.unitIn a b)
      | none => F.bar i c) = (F.bar i c).scale (field.unitIn a b)
    rw [eq_of_beq hname, AlphaField.ofName?_name]

variable (a b text F) in
theorem column_scales (field : AlphaField) :
    Option.Rel (fun x y => y = x.scale (factor a b field.units)) (F.column? text field)
      ((F.rescale text a b).column? text field) := by
  rw [column_scale, factor_units]
  cases F.column? text field with
  | none => exact .none
  | some x => exact .some rfl

/-- A series that has no unit. -/
theorem scale_one_of_eq {n : ℕ} {x y : Series ℝ n} (h : ∀ i, y i = x i) :
    y = x.scale (factor a b (0, 0)) := by
  funext i
  rw [h i, factor_zero]
  exact (Reading.scale_one _).symm

variable (ha : 0 < a)
include ha

variable (b text F) in
/-- **The fields of a frame in other units are its fields in these.** The
derived ones have none, since each is a quotient of prices. -/
theorem fields_scale : FieldsScale a b (F.fields text) ((F.rescale text a b).fields text) := by
  intro field
  have hraw := fun f : AlphaField => column_scales a b text F f
  have hclose := column_scale a b text F .close
  have hopen := column_scale a b text F .open
  have hhigh := column_scale a b text F .high
  have hlow := column_scale a b text F .low
  cases field with
  | returns =>
    have h := hraw .returns
    unfold DataFrame.fields
    simp only
    rw [hclose]
    cases F.column? text .close with
    | none => exact h
    | some close =>
      refine .some (scale_one_of_eq fun i => ?_)
      show (((close i).scale a).div (shift (close.scale a) 1 i)).sub 1 = _
      rw [shift_scale, Reading.div_scale _ _ ha ha, div_self ha.ne', Reading.scale_one]
      rfl
  | openGap =>
    have h := hraw .openGap
    unfold DataFrame.fields
    simp only
    rw [hclose, hopen]
    cases F.column? text .close with
    | none => exact h
    | some close =>
      cases F.column? text .open with
      | none => exact h
      | some opened =>
        refine .some (scale_one_of_eq fun i => ?_)
        show (((opened i).scale a).safeDiv (shift (close.scale a) 1 i)).sub 1 = _
        rw [shift_scale, Reading.safeDiv_scale _ _ ha ha, div_self ha.ne', Reading.scale_one]
  | ocSpread =>
    have h := hraw .ocSpread
    unfold DataFrame.fields
    simp only
    rw [hclose, hopen]
    cases F.column? text .close with
    | none => exact h
    | some close =>
      cases F.column? text .open with
      | none => exact h
      | some opened =>
        refine .some (scale_one_of_eq fun i => ?_)
        show (((close i).scale a).sub ((opened i).scale a)).safeDiv ((close i).scale a) = _
        rw [Reading.sub_scale, Reading.safeDiv_scale _ _ ha ha, div_self ha.ne',
          Reading.scale_one]
  | hlSpread =>
    have h := hraw .hlSpread
    unfold DataFrame.fields
    simp only
    rw [hclose, hhigh, hlow]
    cases F.column? text .close with
    | none => exact h
    | some close =>
      cases F.column? text .high with
      | none => exact h
      | some high =>
        cases F.column? text .low with
        | none => exact h
        | some low =>
          refine .some (scale_one_of_eq fun i => ?_)
          show (((high i).scale a).sub ((low i).scale a)).safeDiv ((close i).scale a) = _
          rw [Reading.sub_scale, Reading.safeDiv_scale _ _ ha ha, div_self ha.ne',
            Reading.scale_one]
  | _ => exact hraw _

variable (hb : 0 < b)
include hb

/-- **The values of an expression are in the units it is compiled to.** -/
theorem evaluate_scales {expression : String} {compiled : CompiledExpression}
    (hc : compileExpression text expression = .ok compiled)
    (hm : compiled.tree.every (literalsMeet text) = true)
    (hr : compiled.tree.every (unitsRight text) = true) :
    Alike (fun values values' : Fin F.length → Option ℝ =>
        ∀ i, values' i = (values i).map (factor a b compiled.units * ·))
      (evaluate text .real expression F)
      (evaluate text .real expression (F.rescale text a b)) := by
  obtain ⟨visited, hv, -, hu⟩ := compileExpression_ok hc
  have hfields := fields_scale b text F ha
  have hmissing : compiled.requiredFields.filter
        (fun f => ((F.rescale text a b).fields text f).isNone)
      = compiled.requiredFields.filter (fun f => (F.fields text f).isNone) := by
    refine List.filter_congr fun f _ => ?_
    have hrel := hfields f
    generalize F.fields text f = x, (F.rescale text a b).fields text f = y at hrel
    cases hrel <;> rfl
  have hnode := evaluateNode_scales ha hb hfields compiled.tree hv hm hr
  have hprep : Alike (fun x y => x = F.fields text ∧ y = (F.rescale text a b).fields text)
      (F.prepareDataFields text) ((F.rescale text a b).prepareDataFields text) := by
    unfold DataFrame.prepareDataFields
    exact (Alike.refl (R := Eq) (fun _ => rfl) _).bind fun _ _ _ => .ok ⟨rfl, rfl⟩
  unfold evaluate
  rw [hc]
  refine hprep.bind fun x y hxy => ?_
  obtain ⟨rfl, rfl⟩ := hxy
  unfold evaluateFields
  rw [hc]
  show Alike _ (refuse _ _ >>= fun _ => _) (refuse _ _ >>= fun _ => _)
  refine (Alike.refl (R := Eq) (fun _ => rfl) _).bind fun _ _ _ => ?_
  show Alike _ (refuse _ _ >>= fun _ => _) (refuse _ _ >>= fun _ => _)
  rw [hmissing]
  refine (Alike.refl (R := Eq) (fun _ => rfl) _).bind fun _ _ _ => ?_
  refine hnode.bind fun o o' ho => .ok fun i => ?_
  show (o'.cell i).number? = (o.cell i).number?.map _
  rw [ho.cell i, Reading.number?_scale, hu]

end

/-- What `require_dimensionless` accepts has no units. -/
theorem requireDimensionless_ok {text : PythonText} {describe : String → Units → String}
    {expression : String} {compiled : CompiledExpression}
    (hc : compileExpression text expression = .ok compiled)
    (h : requireDimensionless text describe expression = .ok ()) : compiled.units = (0, 0) := by
  unfold requireDimensionless at h
  rw [hc] at h
  by_contra hne
  have hrefuse : refuse (decide (compiled.units ≠ (0, 0)))
      ("expression must be dimensionless to rank across names: "
        ++ describe expression compiled.units) = .ok () := h
  rw [decide_eq_true hne] at hrefuse
  cases hrefuse

/-- **Compiled units are sound where the declared units are right.** Let the
compiler accept an expression whose literals meet what is dimensionless, in
which every logarithm is one of a dimensionless part and no `ts_beta` sets a
series with a dimension against one of literals. Then, for every frame,
multiplying the prices by `a` and the volumes by `b` multiplies the value of
the expression at every bar by `a ^ p * b ^ v`, leaves the undefined bars
undefined, and raises what it raised. So a score that `require_dimensionless`
accepts is the same in any units. -/
theorem compiled_units_sound (text : PythonText) {expression : String}
    {compiled : CompiledExpression} (hc : compileExpression text expression = .ok compiled)
    (hm : compiled.tree.every (literalsMeet text) = true)
    (hr : compiled.tree.every (unitsRight text) = true) (frame : DataFrame ℝ) {a b : ℝ}
    (ha : 0 < a) (hb : 0 < b) :
    Alike (fun values values' : Fin frame.length → Option ℝ =>
        ∀ i, values' i = (values i).map
          (fun x => a ^ (compiled.units.1 : ℝ) * b ^ (compiled.units.2 : ℝ) * x))
      (evaluate text .real expression frame)
      (evaluate text .real expression (frame.rescale text a b))
    ∧ ∀ describe, requireDimensionless text describe expression = .ok () →
      evaluate text .real expression (frame.rescale text a b)
        = evaluate text .real expression frame := by
  have hscales := evaluate_scales (F := frame) ha hb hc hm hr
  refine ⟨hscales, fun describe hdim => ?_⟩
  rw [requireDimensionless_ok hc hdim, factor_zero] at hscales
  show (evaluate text .real expression (frame.rescale text a b)
    : Except String (Fin frame.length → Option ℝ)) = evaluate text .real expression frame
  generalize evaluate text .real expression frame = x,
    (evaluate text .real expression (frame.rescale text a b)
      : Except String (Fin frame.length → Option ℝ)) = y at hscales
  cases hscales with
  | error e => rfl
  | ok h =>
    refine congrArg Except.ok (funext fun i => ?_)
    rw [h i]
    simp

/-! ### A ratio of closes, and the logarithm of one -/

/-- Closes at two bars. -/
noncomputable def realCloses : DataFrame ℝ where
  length := 2
  index i := i.val
  columns := ["close"]
  bar _ _ := .num 1

theorem compiled_units_sound_sample :
    compileExpression samplePython "close / delay(close)" = .ok sampleCompiled
      ∧ evaluate samplePython .real "close / delay(close)" (realCloses.rescale samplePython 2 3)
        = evaluate samplePython .real "close / delay(close)" realCloses :=
  ⟨sampleCompiled_ok, (compiled_units_sound samplePython sampleCompiled_ok rfl rfl realCloses
    two_pos three_pos).2 (fun _ _ => "") (by decide +kernel)⟩

def logTree : Ast := .call (.name "log") [.name "close"] []

def logPython : PythonText where
  parse source := if source = "log(close)" then some logTree else none
  lower := id

def logCompiled : CompiledExpression := ⟨logTree, [.close], (0, 0), 0⟩

theorem logCompiled_ok : compileExpression logPython "log(close)" = .ok logCompiled := by
  rfl

theorem realCloses_ready : realCloses.Ready logPython [.close] where
  distinct := by simp [realCloses]
  ordered i j h := by
    show (i.val : ℤ) < j.val
    exact_mod_cast h
  present field hf := by
    rw [List.mem_singleton.mp hf]
    rfl

/-- **The logarithm of a price passes for a dimensionless score**, and is not
the same in other units: it has no literal, `require_dimensionless` accepts it,
and doubling the prices changes its value. -/
theorem log_price_not_invariant :
    compileExpression logPython "log(close)" = .ok logCompiled
      ∧ logTree.every (literalsMeet logPython) = true
      ∧ requireDimensionless logPython (fun _ _ => "") "log(close)" = .ok ()
      ∧ evaluate logPython .real "log(close)" (realCloses.rescale logPython 2 1)
        ≠ evaluate logPython .real "log(close)" realCloses := by
  refine ⟨logCompiled_ok, rfl, by decide +kernel, fun h => ?_⟩
  have hready : (realCloses.rescale logPython 2 1).Ready logPython [.close] :=
    ⟨realCloses_ready.distinct, realCloses_ready.ordered, fun field hf => by
      rw [List.mem_singleton.mp hf]
      rfl⟩
  rw [evaluate_eq logCompiled_ok hready, evaluate_eq logCompiled_ok realCloses_ready] at h
  have hcell : (Reading.safeLog .real (.num ((2 : ℝ) * 1))).number?
      = (Reading.safeLog .real (.num (1 : ℝ))).number? :=
    congrFun (Except.ok.inj h) (0 : Fin 2)
  norm_num [Reading.safeLog, Reading.number?, Elementary.real] at hcell

/-- The slope of the closes on a series of literals. -/
def betaTree : Ast :=
  .call (.name "ts_beta") [.name "close", .call (.name "cond")
    [.compare (.name "returns") [.gt] [.constant (.number (.int 0))],
      .constant (.number (.int 1)), .constant (.number (.int 2))] [],
    .constant (.number (.int 2))] []

def betaPython : PythonText where
  parse source :=
    if source = "ts_beta(close, cond(returns > 0, 1, 2), 2)" then some betaTree else none
  lower := id

-- `ts_beta` against a series of literals is compiled to no units and doubles with the prices
example :
    let score := "ts_beta(close, cond(returns > 0, 1, 2), 2)"
    let at2 := fun values : Fin 3 → Option ℚ => values 2
    requireDimensionless betaPython (fun _ _ => "") score = .ok ()
      ∧ betaTree.every (literalsMeet betaPython) = true
      ∧ (evaluate betaPython sampleElementary score (closes [2, 1, 3])).map at2 = .ok (some (-2))
      ∧ (evaluate betaPython sampleElementary score
          ((closes [2, 1, 3]).rescale betaPython 2 1)).map at2 = .ok (some (-4)) := by
  decide +kernel

end AgenticTrader
