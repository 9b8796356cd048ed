import AgenticTrader.Alpha.Operators
import AgenticTrader.Alpha.Registry
import AgenticTrader.Risk.Rules

/-!
# The alpha language

`research/alpha/dsl.py`: an alpha is a Python expression over the fields of a
bar and the operators on series. `compile_expression` checks it – the nodes it
may have, the units of its parts, the windows of its operators – and works out
how many earlier bars it looks back. `AlphaExpressionEvaluator` then evaluates
the syntax tree over the series of a frame.

The syntax tree is the one of Python's `ast`, whose parser is a parameter
(`PythonText`), with `str.lower`. A constant evaluates to a Python number, and
an operator that is given only numbers may return one, a number of numpy's
(`Scalar`), or raise; what meets a series becomes one (`Operand`).
-/

namespace AgenticTrader

/-! ## Syntax -/

/-- A numeric literal. -/
inductive PyNumber where
  | int (z : ℤ)
  | float (q : ℚ)
  | infinite
  deriving DecidableEq

/-- The value of an `ast.Constant`. -/
inductive PyConstant where
  | number (x : PyNumber)
  | other
  deriving DecidableEq

/-- The operators of an `ast.UnaryOp`. -/
inductive PyUnary where
  | uadd
  | usub
  | other
  deriving DecidableEq

/-- The operators of an `ast.BinOp`. -/
inductive PyBinary where
  | add
  | sub
  | mult
  | div
  | pow
  | other
  deriving DecidableEq

/-- The operators of an `ast.Compare`. -/
inductive PyComparison where
  | gt
  | lt
  | gtE
  | ltE
  | eq
  | notEq
  | other
  deriving DecidableEq

/-- **A syntax tree of Python's expressions**, `ast.AST`. The nodes the language
has no use for are one. -/
inductive Ast where
  | constant (value : PyConstant)
  | name (id : String)
  | unaryOp (op : PyUnary) (operand : Ast)
  | binOp (left : Ast) (op : PyBinary) (right : Ast)
  | compare (left : Ast) (ops : List PyComparison) (comparators : List Ast)
  | call (func : Ast) (args : List Ast) (keywords : List Ast)
  | other (typeName : String) (nodes : ℕ)

/-- **What is Python's**: the parser of expressions, `ast.parse(…, mode="eval")`,
and `str.lower`. -/
structure PythonText where
  parse : String → Option Ast
  lower : String → String

mutual

/-- The nodes of a tree, as `ast.walk` counts them: an operator is a node, and
so is the context of a name. -/
def Ast.nodes : Ast → ℕ
  | .constant _ => 1
  | .name _ => 2
  | .unaryOp _ operand => 2 + operand.nodes
  | .binOp left _ right => 2 + left.nodes + right.nodes
  | .compare left ops comparators => 1 + ops.length + left.nodes + nodesOf comparators
  | .call func args keywords =>
    1 + func.nodes + nodesOf args + nodesOf keywords + keywords.length
  | .other _ nodes => nodes

def nodesOf : List Ast → ℕ
  | [] => 0
  | node :: l => node.nodes + nodesOf l

end

/-- `type(node).__name__`. -/
def Ast.typeName : Ast → String
  | .constant _ => "Constant"
  | .name _ => "Name"
  | .unaryOp _ _ => "UnaryOp"
  | .binOp _ _ _ => "BinOp"
  | .compare _ _ _ => "Compare"
  | .call _ _ _ => "Call"
  | .other typeName _ => typeName

/-! ## Fields and operators -/

/-- **The fields of a bar**, the keys of `FIELD_UNITS`. -/
inductive AlphaField where
  | open | high | low | close | vwap | volume
  | returns | hlSpread | ocSpread | openGap | mktRet
  | earningsAge | earningsSurprise | earningsReaction | dividendYield
  | shortRatio | shortRatioZ | shortVolumeRel | offexShare
  | insiderNetRatio | insiderBuyRel | insiderSellRel | insiderBuyers | insiderBuyAge
  | insiderOppBuyRel
  deriving DecidableEq

namespace AlphaField

/-- A field's name. -/
def name : AlphaField → String
  | .open => "open"
  | .high => "high"
  | .low => "low"
  | .close => "close"
  | .vwap => "vwap"
  | .volume => "volume"
  | .returns => "returns"
  | .hlSpread => "hl_spread"
  | .ocSpread => "oc_spread"
  | .openGap => "open_gap"
  | .mktRet => "mkt_ret"
  | .earningsAge => "earnings_age"
  | .earningsSurprise => "earnings_surprise"
  | .earningsReaction => "earnings_reaction"
  | .dividendYield => "dividend_yield"
  | .shortRatio => "short_ratio"
  | .shortRatioZ => "short_ratio_z"
  | .shortVolumeRel => "short_volume_rel"
  | .offexShare => "offex_share"
  | .insiderNetRatio => "insider_net_ratio"
  | .insiderBuyRel => "insider_buy_rel"
  | .insiderSellRel => "insider_sell_rel"
  | .insiderBuyers => "insider_buyers"
  | .insiderBuyAge => "insider_buy_age"
  | .insiderOppBuyRel => "insider_opp_buy_rel"

def all : List AlphaField :=
  [.open, .high, .low, .close, .vwap, .volume, .returns, .hlSpread, .ocSpread, .openGap, .mktRet,
    .earningsAge, .earningsSurprise, .earningsReaction, .dividendYield, .shortRatio, .shortRatioZ,
    .shortVolumeRel, .offexShare, .insiderNetRatio, .insiderBuyRel, .insiderSellRel,
    .insiderBuyers, .insiderBuyAge, .insiderOppBuyRel]

def ofName? (name : String) : Option AlphaField :=
  all.find? (fun f => f.name == name)

/-- **`FIELD_UNITS`**: the powers of a price and of a volume. -/
def units : AlphaField → ℚ × ℚ
  | .open | .high | .low | .close | .vwap => (1, 0)
  | .volume => (0, 1)
  | _ => (0, 0)

/-- The earlier bars a field reads. -/
def lookback : AlphaField → ℕ
  | .returns | .openGap | .mktRet => 1
  | _ => 0

end AlphaField

/-- **The operators of the language**, the keys of `OPERATOR_SPECS`. -/
inductive AlphaOperator where
  | tsRank | tsCorr | tsStd | tsMean | sma | ema | tsMax | tsMin | tsArgmax | tsArgmin
  | delta | delay | decayLinear | zscore | sign | abs | log | sqrt | cond | ifElse | min | max
  | tsBeta | tsResidStd | roc | realizedVol | tsSlope | tsResidual | tsMad | tsSum | clip
  deriving DecidableEq

/-- What an operator makes of the units of its arguments. -/
inductive ResultUnits where
  | preserve
  | dimensionless
  | sqrt
  | branches
  | clip
  | matching
  | matchingRatio
  deriving DecidableEq

/-- **`OperatorSpec`**, but for the function. -/
structure OperatorSpec where
  minimumArgs : ℕ
  maximumArgs : ℕ
  windowArgument : Option ℕ := none
  resultUnits : ResultUnits := .preserve

namespace AlphaOperator

def name : AlphaOperator → String
  | .tsRank => "ts_rank"
  | .tsCorr => "ts_corr"
  | .tsStd => "ts_std"
  | .tsMean => "ts_mean"
  | .sma => "sma"
  | .ema => "ema"
  | .tsMax => "ts_max"
  | .tsMin => "ts_min"
  | .tsArgmax => "ts_argmax"
  | .tsArgmin => "ts_argmin"
  | .delta => "delta"
  | .delay => "delay"
  | .decayLinear => "decay_linear"
  | .zscore => "zscore"
  | .sign => "sign"
  | .abs => "abs"
  | .log => "log"
  | .sqrt => "sqrt"
  | .cond => "cond"
  | .ifElse => "if_else"
  | .min => "min"
  | .max => "max"
  | .tsBeta => "ts_beta"
  | .tsResidStd => "ts_resid_std"
  | .roc => "roc"
  | .realizedVol => "realized_vol"
  | .tsSlope => "ts_slope"
  | .tsResidual => "ts_residual"
  | .tsMad => "ts_mad"
  | .tsSum => "ts_sum"
  | .clip => "clip"

def all : List AlphaOperator :=
  [.tsRank, .tsCorr, .tsStd, .tsMean, .sma, .ema, .tsMax, .tsMin, .tsArgmax, .tsArgmin, .delta,
    .delay, .decayLinear, .zscore, .sign, .abs, .log, .sqrt, .cond, .ifElse, .min, .max, .tsBeta,
    .tsResidStd, .roc, .realizedVol, .tsSlope, .tsResidual, .tsMad, .tsSum, .clip]

def ofName? (name : String) : Option AlphaOperator :=
  all.find? (fun op => op.name == name)

/-- **`OPERATOR_SPECS`.** -/
def spec : AlphaOperator → OperatorSpec
  | .tsRank | .tsArgmax | .tsArgmin | .roc => ⟨2, 2, some 1, .dimensionless⟩
  | .tsCorr => ⟨3, 3, some 2, .dimensionless⟩
  | .tsStd | .tsMean | .sma | .ema | .tsMax | .tsMin | .decayLinear | .realizedVol | .tsSlope
  | .tsResidual | .tsMad | .tsSum => ⟨2, 2, some 1, .preserve⟩
  | .delta | .delay => ⟨1, 2, some 1, .preserve⟩
  | .zscore => ⟨1, 2, some 1, .dimensionless⟩
  | .sign | .log => ⟨1, 1, none, .dimensionless⟩
  | .abs => ⟨1, 1, none, .preserve⟩
  | .sqrt => ⟨1, 1, none, .sqrt⟩
  | .cond | .ifElse => ⟨3, 3, none, .branches⟩
  | .min | .max => ⟨2, 2, none, .matching⟩
  | .tsBeta => ⟨3, 3, some 2, .matchingRatio⟩
  | .tsResidStd => ⟨3, 3, some 2, .matching⟩
  | .clip => ⟨3, 3, none, .clip⟩

/-- The window of a call that gives none. -/
def defaultWindow : AlphaOperator → ℤ
  | .zscore => 20
  | _ => 1

/-- The earlier bars of its argument an operator reads, given its window. -/
def lookback (op : AlphaOperator) (window : ℕ) : ℕ :=
  match op with
  | .delay | .delta | .roc => window
  | _ => window - 1

end AlphaOperator

/-! ## The compiler -/

/-- The units of a part; a number has none. -/
abbrev Units := ℚ × ℚ

/-- **What `visit` returns for a node**, with the fields it adds. -/
structure Visited where
  units : Option Units
  lookback : ℕ
  fields : List AlphaField

/-- **`_literal`.** -/
def literal : Ast → Except String PyNumber
  | .constant (.number x) => .ok x
  | .unaryOp .usub operand => do
    match ← literal operand with
    | .int z => .ok (.int (-z))
    | .float q => .ok (.float (-q))
    | .infinite => .ok .infinite
  | .unaryOp .uadd operand => literal operand
  | _ => .error "Expected a numeric literal"

/-- A finite literal, as a number. -/
def PyNumber.rat? : PyNumber → Option ℚ
  | .int z => some z
  | .float q => some q
  | .infinite => none

/-- **`_same_units`.** -/
def sameUnits : Option Units → Option Units → Except String (Option Units)
  | some left, some right =>
    if left ≠ right then .error "Incompatible units (price, volume or dimensionless)"
    else .ok (some left)
  | some left, none => .ok (some left)
  | none, right => .ok right

/-- `left or (0, 0)`. -/
def unitsOr (units : Option Units) : Units :=
  units.getD (0, 0)

/-- The units of neighbouring parts of a comparison. -/
def sameUnitsAll : List Visited → Except String Unit
  | a :: b :: l => do
    let _ ← sameUnits a.units b.units
    sameUnitsAll (b :: l)
  | _ => .ok ()

/-- The greatest lookback of some parts. -/
def maxLookback (entries : List Visited) : ℕ :=
  entries.foldl (fun m e => Max.max m e.lookback) 0

/-- The fields of some parts. -/
def fieldsOf (entries : List Visited) : List AlphaField :=
  entries.flatMap Visited.fields

/-- An exponent: an integer literal of at most 5. -/
def powerOf (right : Ast) : Except String ℤ := do
  match ← literal right with
  | .int p =>
    if 5 < p.natAbs then .error "Power must be a bounded integer literal" else .ok p
  | _ => .error "Power must be a bounded integer literal"

/-- The units of a binary operation. -/
def binaryUnits (op : PyBinary) (left right : Visited) (node : Ast) :
    Except String (Option Units) :=
  match op with
  | .add | .sub => sameUnits left.units right.units
  | .pow => do
    let p ← powerOf node
    .ok (some ((unitsOr left.units).1 * p, (unitsOr left.units).2 * p))
  | .div => .ok (some ((unitsOr left.units).1 - (unitsOr right.units).1,
      (unitsOr left.units).2 - (unitsOr right.units).2))
  | _ => .ok (some ((unitsOr left.units).1 + (unitsOr right.units).1,
      (unitsOr left.units).2 + (unitsOr right.units).2))

/-- The window of a call: its literal argument, or the default. -/
def windowLiteral (op : AlphaOperator) : Option Ast → Except String PyNumber
  | some arg => literal arg
  | none => .ok (.int op.defaultWindow)

/-- The window of a call, within bounds. -/
def windowOf (op : AlphaOperator) (position : ℕ) (args : List Ast) : Except String ℕ := do
  let window ← windowLiteral op args[position]?
  match window with
  | .int w =>
    if 1 ≤ w ∧ w ≤ 2520 then .ok w.toNat
    else .error "Lookback must be a positive bounded integer"
  | _ => .error "Lookback must be a positive bounded integer"

/-- The lookback of a call. -/
def callLookback (op : AlphaOperator) (args : List Ast) (entries : List Visited) :
    Except String ℕ :=
  match op.spec.windowArgument with
  | none => .ok (maxLookback entries)
  | some position => do
    let window ← windowOf op position args
    match entries with
    | ⟨none, _, _⟩ :: _ => .error "Rolling operators require series input"
    | _ => .ok (maxLookback entries + op.lookback window)

/-- The units of the `i`-th part. -/
def unitsAt (entries : List Visited) (i : ℕ) : Option Units :=
  entries[i]?.bind Visited.units

/-- The check of the bounds of a clip. -/
def clipBounds (args : List Ast) : Except String Unit :=
  match args with
  | [_, lower, upper] => do
    let a ← literal lower
    let b ← literal upper
    match a.rat?, b.rat? with
    | some a, some b => if b < a then .error "Invalid clipping bounds" else .ok ()
    | _, _ => .ok ()
  | _ => .ok ()

/-- The units of a call. -/
def callUnits (op : AlphaOperator) (args : List Ast) (entries : List Visited) :
    Except String (Option Units) :=
  let units := unitsAt entries 0
  match op.spec.resultUnits with
  | .preserve => .ok units
  | .dimensionless => .ok (some (0, 0))
  | .sqrt => .ok (some ((unitsOr units).1 / 2, (unitsOr units).2 / 2))
  | .branches => sameUnits (unitsAt entries 1) (unitsAt entries 2)
  | .clip => do
    let _ ← sameUnits units (unitsAt entries 1)
    let _ ← sameUnits units (unitsAt entries 2)
    clipBounds args
    .ok units
  | .matching => sameUnits units (unitsAt entries 1)
  | .matchingRatio => do
    let _ ← sameUnits units (unitsAt entries 1)
    .ok (some (0, 0))

/-- The message for a node the language does not have. -/
def unsupported {α : Type} (node : Ast) : Except String α :=
  .error ("Unsupported expression: " ++ node.typeName)

/-- The operator a call names. -/
def operatorOf? (text : PythonText) (func : Ast) : Option AlphaOperator :=
  match func with
  | .name id => AlphaOperator.ofName? (text.lower id)
  | _ => none

/-- A constant within bounds. -/
def constantOk : PyConstant → Except String Unit
  | .number x =>
    match x.rat? with
    | none => .error "Constant must be finite and bounded"
    | some q =>
      if 1000000 < q ∨ q < -1000000 then .error "Constant must be finite and bounded" else .ok ()
  | .other => .error "Expected a numeric literal"

mutual

/-- **`visit`** of `compile_expression`. -/
def visit (text : PythonText) (depth : ℕ) : Ast → Except String Visited
  | .constant value => do
    refuse (decide (16 < depth)) "Expression depth budget exceeded"
    constantOk value
    .ok ⟨none, 0, []⟩
  | .name id => do
    refuse (decide (16 < depth)) "Expression depth budget exceeded"
    match AlphaField.ofName? (text.lower id) with
    | some field => .ok ⟨some field.units, field.lookback, [field]⟩
    | none => unsupported (.name id)
  | .unaryOp op operand => do
    refuse (decide (16 < depth)) "Expression depth budget exceeded"
    match op with
    | .other => unsupported (.unaryOp op operand)
    | _ => visit text (depth + 1) operand
  | .binOp left op right => do
    refuse (decide (16 < depth)) "Expression depth budget exceeded"
    match op with
    | .other => unsupported (.binOp left op right)
    | _ => do
      let l ← visit text (depth + 1) left
      let r ← visit text (depth + 1) right
      let units ← binaryUnits op l r right
      .ok ⟨units, Max.max l.lookback r.lookback, l.fields ++ r.fields⟩
  | .compare left ops comparators => do
    refuse (decide (16 < depth)) "Expression depth budget exceeded"
    if ops.contains .other then unsupported (.compare left ops comparators)
    else do
      let l ← visit text (depth + 1) left
      let entries ← visitAll text (depth + 1) comparators
      sameUnitsAll (l :: entries)
      .ok ⟨some (0, 0), maxLookback (l :: entries), fieldsOf (l :: entries)⟩
  | .call func args keywords => do
    refuse (decide (16 < depth)) "Expression depth budget exceeded"
    match func with
    | .name _ =>
      match operatorOf? text func with
      | none => .error "Unknown operator, keyword argument or incorrect arity"
      | some op => do
        refuse (!keywords.isEmpty || !decide (op.spec.minimumArgs ≤ args.length
          ∧ args.length ≤ op.spec.maximumArgs))
          "Unknown operator, keyword argument or incorrect arity"
        let entries ← visitAll text (depth + 1) args
        let lookback ← callLookback op args entries
        let units ← callUnits op args entries
        .ok ⟨units, lookback, fieldsOf entries⟩
    | _ => unsupported (.call func args keywords)
  | .other typeName nodes => do
    refuse (decide (16 < depth)) "Expression depth budget exceeded"
    unsupported (.other typeName nodes)

/-- The parts of a node. -/
def visitAll (text : PythonText) (depth : ℕ) : List Ast → Except String (List Visited)
  | [] => .ok []
  | node :: l => do
    let entry ← visit text depth node
    let entries ← visitAll text depth l
    .ok (entry :: entries)

end

/-- **`CompiledExpression`.** -/
structure CompiledExpression where
  tree : Ast
  requiredFields : List AlphaField
  units : Units
  lookback : ℕ

/-- **`compile_expression`.** -/
def compileExpression (text : PythonText) (expression : String) :
    Except String CompiledExpression := do
  refuse (expression.isEmpty || decide (4096 < expression.length))
    "Expression length exceeds budget"
  match text.parse (strip expression) with
  | none => .error "Invalid expression syntax"
  | some tree => do
    refuse (decide (128 < tree.nodes)) "Expression node budget exceeded"
    let visited ← visit text 0 tree
    refuse (decide (2520 < visited.lookback)) "Composed lookback exceeds budget"
    .ok ⟨tree, visited.fields.dedup, unitsOr visited.units, visited.lookback⟩

/-! ## Values -/

variable {K : Type} [Field K] [LinearOrder K] {n : ℕ}

/-- **A number that is no series**: an integer or a float, Python's or
numpy's. -/
inductive Scalar (K : Type) where
  | int (numpy : Bool) (z : ℤ)
  | float (numpy : Bool) (x : Reading K)

namespace Scalar

def numpy : Scalar K → Bool
  | .int numpy _ => numpy
  | .float numpy _ => numpy

/-- The number as a float. -/
def reading : Scalar K → Reading K
  | .int _ z => .num (z : K)
  | .float _ x => x

/-- An operation that keeps integers. -/
def arith (onInt : ℤ → ℤ → ℤ) (onFloat : Reading K → Reading K → Reading K) :
    Scalar K → Scalar K → Scalar K
  | .int p x, .int q y => .int (p || q) (onInt x y)
  | a, b => .float (a.numpy || b.numpy) (onFloat a.reading b.reading)

/-- The same by a function of numpy's. -/
def ufunc (onInt : ℤ → ℤ → ℤ) (onFloat : Reading K → Reading K → Reading K) :
    Scalar K → Scalar K → Scalar K
  | .int _ x, .int _ y => .int true (onInt x y)
  | a, b => .float true (onFloat a.reading b.reading)

/-- A function of numpy's of one number, which keeps integers. -/
def ufunc₁ (onInt : ℤ → ℤ) (onFloat : Reading K → Reading K) : Scalar K → Scalar K
  | .int _ x => .int true (onInt x)
  | .float _ x => .float true (onFloat x)

def neg : Scalar K → Scalar K
  | .int numpy z => .int numpy (-z)
  | .float numpy x => .float numpy x.neg

/-- **`safe_div`** of two numbers. -/
def safeDiv (a b : Scalar K) : Scalar K :=
  if b.reading = 0 then .float a.numpy .nan
  else .float (a.numpy || b.numpy) (a.reading.div b.reading)

/-- A power. Python raises for a zero to a negative power, and numpy for an
integer to one. -/
def pow (p : ℤ) : Scalar K → Except String (Scalar K)
  | .int false z =>
    if 0 ≤ p then .ok (.int false (z ^ p.toNat))
    else if z = 0 then .error "ZeroDivisionError"
    else .ok (.float false (.num ((z : K) ^ p)))
  | .int true z =>
    if 0 ≤ p then .ok (.int true (z ^ p.toNat))
    else .error "Integers to negative integer powers are not allowed."
  | .float false x =>
    if x = 0 ∧ p < 0 then .error "ZeroDivisionError" else .ok (.float false (x.pow p))
  | .float true x => .ok (.float true (x.pow p))

end Scalar

/-- **What a node evaluates to.** -/
inductive Operand (K : Type) (n : ℕ) where
  | scalar (a : Scalar K)
  | series (x : Series K n)

namespace Operand

/-- The value at a bar: a number is the same at every one. -/
def cell (o : Operand K n) (i : Fin n) : Reading K :=
  match o with
  | .scalar a => a.reading
  | .series x => x i

/-- A function of one operand. -/
def map₁ (onScalar : Scalar K → Scalar K) (f : Reading K → Reading K) :
    Operand K n → Operand K n
  | .scalar a => .scalar (onScalar a)
  | .series x => .series (fun i => f (x i))

/-- A function of two operands: a number meets every bar of a series. -/
def map₂ (onScalars : Scalar K → Scalar K → Scalar K) (f : Reading K → Reading K → Reading K) :
    Operand K n → Operand K n → Operand K n
  | .scalar a, .scalar b => .scalar (onScalars a b)
  | a, b => .series (fun i => f (a.cell i) (b.cell i))

/-- The series, where a method of one is called. -/
def asSeries : Operand K n → Except String (Series K n)
  | .scalar _ => .error "AttributeError"
  | .series x => .ok x

/-- The integer, where a window is. -/
def asInt : Operand K n → Except String ℤ
  | .scalar (.int _ z) => .ok z
  | _ => .error "window must be an integer 0 or greater"

/-- A window of a rolling operator. -/
def asWindow (o : Operand K n) : Except String ℕ := do
  let z ← o.asInt
  refuse (decide (z < 0)) "window must be an integer 0 or greater"
  .ok z.toNat

/-- `-value` and `+value`. -/
def unary (op : PyUnary) (o : Operand K n) : Operand K n :=
  match op with
  | .usub => o.map₁ Scalar.neg Reading.neg
  | _ => o

/-- **`BINARY_OPERATORS`.** The exponent of a power is an integer literal. -/
def binary (op : PyBinary) (a b : Operand K n) : Except String (Operand K n) :=
  match op with
  | .add => .ok (a.map₂ (Scalar.arith (· + ·) Reading.add) Reading.add b)
  | .sub => .ok (a.map₂ (Scalar.arith (· - ·) Reading.sub) Reading.sub b)
  | .mult => .ok (a.map₂ (Scalar.arith (· * ·) Reading.mul) Reading.mul b)
  | .div => .ok (a.map₂ Scalar.safeDiv Reading.safeDiv b)
  | .pow => match a, b with
    | .scalar a, .scalar (.int _ p) => (a.pow p).map .scalar
    | .series x, .scalar (.int _ p) => .ok (.series (fun i => (x i).pow p))
    | _, _ => .error "TypeError"
  | .other => .error "KeyError"

end Operand

/-- **`COMPARISONS`** of two cells, 1 or 0, and NaN where one is. -/
def Reading.compare (op : PyComparison) (x y : Reading K) : Reading K :=
  if x.isNan || y.isNan then .nan
  else if (match op with
    | .gt => y.lt x
    | .lt => x.lt y
    | .gtE => !x.lt y
    | .ltE => !y.lt x
    | .eq => x == y
    | .notEq => x != y
    | .other => false) then 1 else 0

/-- One comparison of a chain. Two numbers do not make the mask of a
series. -/
def compareStep (op : PyComparison) (a b : Operand K n) : Except String (Series K n) :=
  match a, b with
  | .scalar _, .scalar _ => .error "Array conditional must be same shape as self"
  | a, b => .ok (fun i => (a.cell i).compare op (b.cell i))

/-! ## Calls -/

/-- A call of a rolling operator. -/
def callRolling (f : Series K n → ℕ → Series K n) (x d : Operand K n) :
    Except String (Operand K n) := do
  let x ← x.asSeries
  let d ← d.asWindow
  .ok (.series (f x d))

/-- A call of a rolling operator of two series. -/
def callRolling₂ (f : Series K n → Series K n → ℕ → Series K n) (x y d : Operand K n) :
    Except String (Operand K n) := do
  let x ← x.asSeries
  let y ← y.asSeries
  let d ← d.asWindow
  .ok (.series (f x y d))

/-- A call of an operator with a lag. -/
def callLag (f : Series K n → ℤ → Series K n) (x : Operand K n) (d : Operand K n) :
    Except String (Operand K n) := do
  let x ← x.asSeries
  let d ← d.asInt
  .ok (.series (f x d))

/-- `np.clip`. -/
def callClip : Operand K n → Operand K n → Operand K n → Operand K n
  | .scalar (.int _ x), .scalar (.int _ lower), .scalar (.int _ upper) =>
    .scalar (.int true (Min.min (Max.max x lower) upper))
  | .scalar x, .scalar lower, .scalar upper =>
    .scalar (.float true (x.reading.clip lower.reading upper.reading))
  | x, lower, upper => .series (fun i => (x.cell i).clip (lower.cell i) (upper.cell i))

/-- **`ts_resid_std`**: under three bars the second series is not looked at. -/
def callResidStd (fn : Elementary K) (y x d : Operand K n) : Except String (Operand K n) := do
  let d ← d.asWindow
  if d < 3 then do
    let _ ← y.asSeries
    .ok (.series (fun _ => .nan))
  else do
    let x ← x.asSeries
    let y ← y.asSeries
    .ok (.series (tsResidStd fn y x d))

/-- The window of a call that gives none, as an operand. -/
def defaultOperand (op : AlphaOperator) : Operand K n :=
  .scalar (.int false op.defaultWindow)

/-- **`ALPHA_OPERATORS`**: the call of an operator. -/
def callOperator (fn : Elementary K) (op : AlphaOperator) (args : List (Operand K n)) :
    Except String (Operand K n) :=
  match op, args with
  | .tsRank, [x, d] => callRolling tsRank x d
  | .tsCorr, [x, y, d] => callRolling₂ (tsCorr fn) x y d
  | .tsStd, [x, d] => callRolling (tsStd fn) x d
  | .tsMean, [x, d] => callRolling tsMean x d
  | .sma, [x, d] => callRolling tsMean x d
  | .ema, [x, d] => callRolling ema x d
  | .tsMax, [x, d] => callRolling tsMax x d
  | .tsMin, [x, d] => callRolling tsMin x d
  | .tsArgmax, [x, d] => callRolling tsArgmax x d
  | .tsArgmin, [x, d] => callRolling tsArgmin x d
  | .delta, [x] => callLag delta x (defaultOperand .delta)
  | .delta, [x, d] => callLag delta x d
  | .delay, [x] => callLag delay x (defaultOperand .delay)
  | .delay, [x, d] => callLag delay x d
  | .decayLinear, [x, d] => callRolling decayLinear x d
  | .zscore, [x] => callRolling (zscore fn) x (defaultOperand .zscore)
  | .zscore, [x, d] => callRolling (zscore fn) x d
  | .sign, [x] => .ok (x.map₁ (Scalar.ufunc₁ Int.sign Reading.sign) Reading.sign)
  | .abs, [x] => .ok (x.map₁ (Scalar.ufunc₁ (fun z => (z.natAbs : ℤ)) Reading.abs) Reading.abs)
  | .log, [x] => .ok (x.map₁ (fun a => .float true (a.reading.safeLog fn)) (Reading.safeLog fn))
  | .sqrt, [x] => .ok (x.map₁ (fun a => .float true (a.reading.safeSqrt fn)) (Reading.safeSqrt fn))
  | .cond, [test, x, y] | .ifElse, [test, x, y] =>
    .ok (.series (fun i => (test.cell i).cond (x.cell i) (y.cell i)))
  | .min, [x, y] => .ok (x.map₂ (Scalar.ufunc Min.min Reading.min) Reading.min y)
  | .max, [x, y] => .ok (x.map₂ (Scalar.ufunc Max.max Reading.max) Reading.max y)
  | .tsBeta, [y, x, d] => callRolling₂ tsBeta y x d
  | .tsResidStd, [y, x, d] => callResidStd fn y x d
  | .roc, [x, d] => callLag roc x d
  | .realizedVol, [x, d] => callRolling (tsStd fn) x d
  | .tsSlope, [x, d] => callRolling tsSlope x d
  | .tsResidual, [x, d] => callRolling tsResidual x d
  | .tsMad, [x, d] => callRolling tsMad x d
  | .tsSum, [x, d] => callRolling tsSum x d
  | .clip, [x, lower, upper] => .ok (callClip x lower upper)
  | _, _ => .error "TypeError"

/-! ## The evaluator -/

/-- The series of the fields, `dict[str, pd.Series]`. -/
abbrev FieldSeries (K : Type) (n : ℕ) := AlphaField → Option (Series K n)

mutual

/-- **`evaluate`** of a node. -/
def evaluateNode (text : PythonText) (fn : Elementary K) (fields : FieldSeries K n) :
    Ast → Except String (Operand K n)
  | .constant (.number (.int z)) => .ok (.scalar (.int false z))
  | .constant (.number (.float q)) => .ok (.scalar (.float false (.num (q : K))))
  | .constant (.number .infinite) => .ok (.scalar (.float false .inf))
  | .constant .other => .error "TypeError"
  | .name id =>
    match (AlphaField.ofName? (text.lower id)).bind fields with
    | some x => .ok (.series x)
    | none => .error "KeyError"
  | .unaryOp op operand => do
    let value ← evaluateNode text fn fields operand
    .ok (value.unary op)
  | .binOp left op right => do
    let a ← evaluateNode text fn fields left
    let b ← evaluateNode text fn fields right
    a.binary op b
  | .compare left ops comparators => do
    let a ← evaluateNode text fn fields left
    compareChain text fn fields a (fun _ => 1) ops comparators
  | .call func args _ => do
    let values ← evaluateAll text fn fields args
    match operatorOf? text func with
    | some op => callOperator fn op values
    | none => .error "Unexpected compiled node"
  | .other _ _ => .error "Unexpected compiled node"

/-- The arguments of a call. -/
def evaluateAll (text : PythonText) (fn : Elementary K) (fields : FieldSeries K n) :
    List Ast → Except String (List (Operand K n))
  | [] => .ok []
  | node :: l => do
    let value ← evaluateNode text fn fields node
    let values ← evaluateAll text fn fields l
    .ok (value :: values)

/-- The comparisons of a chain, multiplied. -/
def compareChain (text : PythonText) (fn : Elementary K) (fields : FieldSeries K n)
    (left : Operand K n) (result : Series K n) (ops : List PyComparison) :
    List Ast → Except String (Operand K n)
  | [] =>
    match ops with
    | [] => .ok (.series result)
    | _ :: _ => .error "ValueError"
  | part :: parts =>
    match ops with
    | [] => .error "ValueError"
    | op :: ops => do
      let right ← evaluateNode text fn fields part
      let step ← compareStep op left right
      compareChain text fn fields right (fun i => (result i).mul (step i)) ops parts

end

/-- **A frame**: its timestamps, the labels of its columns, and its bars. -/
structure DataFrame (K : Type) where
  length : ℕ
  index : Fin length → Time
  columns : List String
  bar : Fin length → String → Reading K

namespace DataFrame

variable (text : PythonText) (frame : DataFrame K)

/-- The column of a field, before any is derived. -/
def column? (field : AlphaField) : Option (Series K frame.length) :=
  (frame.columns.find? (fun c => text.lower c == field.name)).map (fun c i => frame.bar i c)

/-- `close.pct_change(fill_method=None)`. -/
def pctChange (close : Series K frame.length) : Series K frame.length := fun i =>
  ((close i).div (shift close 1 i)).sub 1

/-- **The fields of `prepare_data_fields`**: the derived ones take the place of
columns of their name. -/
def fields : FieldSeries K frame.length
  | .returns => match frame.column? text .close with
    | some close => some (frame.pctChange close)
    | none => frame.column? text .returns
  | .ocSpread => match frame.column? text .close, frame.column? text .open with
    | some close, some opened => some (fun i => ((close i).sub (opened i)).safeDiv (close i))
    | _, _ => frame.column? text .ocSpread
  | .openGap => match frame.column? text .close, frame.column? text .open with
    | some close, some opened =>
      some (fun i => ((opened i).safeDiv (shift close 1 i)).sub 1)
    | _, _ => frame.column? text .openGap
  | .hlSpread =>
    match frame.column? text .close, frame.column? text .high, frame.column? text .low with
    | some close, some high, some low =>
      some (fun i => ((high i).sub (low i)).safeDiv (close i))
    | _, _, _ => frame.column? text .hlSpread
  | field => frame.column? text field

/-- **`prepare_data_fields`.** -/
def prepareDataFields : Except String (FieldSeries K frame.length) := do
  refuse (!decide (frame.columns.map text.lower).Nodup) "Ambiguous duplicate field names"
  .ok (frame.fields text)

end DataFrame

/-- The cells of a result: an infinity counts as undefined. -/
def defined (o : Operand K n) (i : Fin n) : Option K :=
  (o.cell i).number?

/-- The message for the required fields that are missing. -/
def missingFields (missing : List AlphaField) : String :=
  "Missing required fields: ['" ++ String.intercalate "', '"
    ((missing.map AlphaField.name).mergeSort (fun a b => decide (a ≤ b))) ++ "']"

/-- **`AlphaExpressionEvaluator.evaluate`** over given fields, which are
aligned. -/
def evaluateFields (text : PythonText) (fn : Elementary K) (expression : String)
    (index : Fin n → Time) (fields : FieldSeries K n) : Except String (Fin n → Option K) := do
  let compiled ← compileExpression text expression
  refuse (!decide (∀ i j : Fin n, i < j → index i < index j))
    "Observations must have unique, sorted timestamps"
  let missing := compiled.requiredFields.filter (fun f => (fields f).isNone)
  refuse (!missing.isEmpty) (missingFields missing)
  let value ← evaluateNode text fn fields compiled.tree
  .ok (defined value)

/-- **`AlphaExpressionEvaluator.evaluate`** over a frame. -/
def evaluate (text : PythonText) (fn : Elementary K) (expression : String)
    (frame : DataFrame K) : Except String (Fin frame.length → Option K) := do
  let _ ← compileExpression text expression
  let fields ← frame.prepareDataFields text
  evaluateFields text fn expression frame.index fields

end AgenticTrader
