import AgenticTrader.Alpha.Language

/-!
# Expressions look back as far as they are compiled to

The alpha language is causal: the value of an expression at a bar does not
depend on the bars after it. And its compiled lookback is sound: unless the
expression calls `ema`, whose mean runs over the whole history, the value is
determined by the bar and the `lookback` bars before it.

Both are the same statement about how far an expression looks back
(`Lookback.Tracks`), at an unbounded depth and at the compiled one, and both
are proved by one induction over the syntax tree: a field reads its own bar or
the one before, an operator on cells adds nothing, a rolling operator adds its
window but one, and a lag adds itself – which is what the compiler adds. An
expression that raises does so whatever the bars hold.
-/


namespace AgenticTrader

open Lookback

/-! ## Expressions that call `ema` -/

mutual

/-- **The expression calls `ema`.** -/
def Ast.callsEma (text : PythonText) : Ast → Bool
  | .constant _ => false
  | .name _ => false
  | .unaryOp _ operand => operand.callsEma text
  | .binOp left _ right => left.callsEma text || right.callsEma text
  | .compare left _ comparators => left.callsEma text || anyCallsEma text comparators
  | .call func args _ => operatorOf? text func == some .ema || anyCallsEma text args
  | .other _ _ => false

def anyCallsEma (text : PythonText) : List Ast → Bool
  | [] => false
  | node :: l => node.callsEma text || anyCallsEma text l

end

/-! ## Results that are alike -/

/-- **Two results are alike**: both raise the same, or both return, and what
they return is related. -/
inductive Alike {α β : Type} (R : α → β → Prop) : Except String α → Except String β → Prop
  | ok {a : α} {b : β} (h : R a b) : Alike R (.ok a) (.ok b)
  | error (e : String) : Alike R (.error e) (.error e)

theorem Alike.bind {α β γ δ : Type} {R : α → β → Prop} {S : γ → δ → Prop} {x : Except String α}
    {y : Except String β} {f : α → Except String γ} {g : β → Except String δ} (h : Alike R x y)
    (hf : ∀ a b, R a b → Alike S (f a) (g b)) : Alike S (x >>= f) (y >>= g) := by
  cases h with
  | ok h => exact hf _ _ h
  | error e => exact .error e

/-- The same, with what the two results are. -/
theorem Alike.bind_eq {α β γ δ : Type} {R : α → β → Prop} {S : γ → δ → Prop}
    {x : Except String α} {y : Except String β} {f : α → Except String γ}
    {g : β → Except String δ} (h : Alike R x y)
    (hf : ∀ a b, x = .ok a → R a b → Alike S (f a) (g b)) : Alike S (x >>= f) (y >>= g) := by
  cases h with
  | ok h => exact hf _ _ rfl h
  | error e => exact .error e

theorem Alike.mono {α β : Type} {R S : α → β → Prop} {x : Except String α} {y : Except String β}
    (h : Alike R x y) (hRS : ∀ a b, R a b → S a b) : Alike S x y := by
  cases h with
  | ok h => exact .ok (hRS _ _ h)
  | error e => exact .error e

theorem Alike.refl {α : Type} {R : α → α → Prop} (hR : ∀ a, R a a) (x : Except String α) :
    Alike R x x := by
  cases x with
  | ok a => exact .ok (hR a)
  | error e => exact .error e

section

variable {K : Type} [Field K] [LinearOrder K] {ρ : Type} {n m : ℕ}
variable {base : Fin n → ρ} {base' : Fin m → ρ} {L M : ℕ∞}

/-! ## Series -/

section

variable {x u : Series K n} {y v : Series K m}

omit [Field K] [LinearOrder K] in
/-- **A rolling statistic adds its window but one.** -/
theorem rolling_tracks (f : List K → Reading K) (d : ℕ) (h : Tracks base base' L x y) :
    Tracks base base' (L + (d - 1 : ℕ)) (rolling f d x) (rolling f d y) := by
  intro i j hm
  have hw := h.window (d := d) i j hm
  unfold rolling
  rw [hw]

omit [Field K] [LinearOrder K] in
theorem rolling₂_tracks (f : List (K × K) → Reading K) (d : ℕ) (h : Tracks base base' L x y)
    (h' : Tracks base base' L u v) :
    Tracks base base' (L + (d - 1 : ℕ)) (rolling₂ f d x u) (rolling₂ f d y v) := by
  intro i j hm
  have hw := (h.map₂ Prod.mk h').window (d := d) i j hm
  unfold rolling₂
  rw [hw]

omit [Field K] [LinearOrder K] in
/-- **A lag adds itself**, if it does not look ahead. -/
theorem shift_tracks (d : ℕ) (h : Tracks base base' L x y) :
    Tracks base base' (L + d) (shift x d) (shift y d) := by
  have ha := (h.ago (d := d)).map (fun o => o.getD Reading.nan)
  intro i j hm
  have he := ha i j hm
  unfold shift
  rw [if_neg (by omega), if_neg (by omega), Int.toNat_natCast]
  exact he

omit [LinearOrder K] in
/-- The exponential mean is determined by the whole history. -/
theorem ema_tracks (d : ℕ) (h : Tracks base base' ⊤ x y) :
    Tracks base base' ⊤ (ema x d) (ema y d) := by
  have hh := h.history.map (fun l =>
    (l.foldl (EmaState.next (2 / ((d : K) + 1))) ⟨none, 1, 0⟩).mean d)
  exact (h.map₂ (fun r e => if r.isNan then .nan else e) hh)

end

/-- An operator on series adds its window but one. -/
def Rolls (f : {n : ℕ} → Series K n → ℕ → Series K n) : Prop :=
  ∀ {ρ : Type} {n m : ℕ} {base : Fin n → ρ} {base' : Fin m → ρ} {L : ℕ∞} {x : Series K n}
    {y : Series K m} (d : ℕ), Tracks base base' L x y →
    Tracks base base' (L + (d - 1 : ℕ)) (f x d) (f y d)

/-- The same of two series. -/
def Rolls₂ (f : {n : ℕ} → Series K n → Series K n → ℕ → Series K n) : Prop :=
  ∀ {ρ : Type} {n m : ℕ} {base : Fin n → ρ} {base' : Fin m → ρ} {L : ℕ∞} {x u : Series K n}
    {y v : Series K m} (d : ℕ), Tracks base base' L x y → Tracks base base' L u v →
    Tracks base base' (L + (d - 1 : ℕ)) (f x u d) (f y v d)

/-- An operator on series adds its lag. -/
def Lags (f : {n : ℕ} → Series K n → ℤ → Series K n) : Prop :=
  ∀ {ρ : Type} {n m : ℕ} {base : Fin n → ρ} {base' : Fin m → ρ} {L : ℕ∞} {x : Series K n}
    {y : Series K m} (d : ℕ), Tracks base base' L x y →
    Tracks base base' (L + d) (f x d) (f y d)

/-! ## The operators -/

section

variable (fn : Elementary K)

omit [Field K] [LinearOrder K] in
theorem rolls_rolling (f : List K → Reading K) :
    Rolls (fun {n} (x : Series K n) d => rolling f d x) :=
  fun d h => rolling_tracks f d h

theorem rolls_zscore : Rolls (K := K) (zscore fn) := by
  intro ρ n m base base' L x y d h
  have hm := rolling_tracks (fun v => .num (Stats.mean v)) d h
  have hs := rolling_tracks (Stats.std fn) d h
  exact (((h.widen (d - 1)).map₂ Reading.sub hm).map₂ Reading.safeDiv hs).map
    (fun r => r.clip (.num (-3)) (.num 3))

theorem rolls_tsResidual : Rolls (K := K) tsResidual := by
  intro ρ n m base base' L x y d h
  have hm := rolling_tracks (fun v => .num (Stats.mean v)) d h
  have hs := rolling_tracks (Stats.slope (K := K)) d h
  exact ((h.widen (d - 1)).map₂ Reading.sub hm).map₂
    (fun r s => r.sub ((s.mul (.num ((d : K) - 1))).div (.num 2))) hs

theorem rolls_tsCorr : Rolls₂ (K := K) (tsCorr fn) := by
  intro ρ n m base base' L x u y v d h h'
  exact (rolling₂_tracks (Stats.correlation fn) d h h').map
    (fun r => r.clip (.num (-1)) (.num 1))

theorem rolls_tsBeta : Rolls₂ (K := K) tsBeta := by
  intro ρ n m base base' L x u y v d h h'
  exact (rolling₂_tracks Stats.covariance d h h').map₂
    (fun c s => c.div s.wherePositive) (rolling_tracks Stats.variance d h')

theorem rolls_tsResidStd : Rolls₂ (K := K) (tsResidStd fn) := by
  intro ρ n m base base' L x u y v d h h'
  have hc := rolling₂_tracks (Stats.covariance (K := K)) d h h'
  have hx := rolling_tracks (Stats.variance (K := K)) d h
  have hu := rolling_tracks (Stats.variance (K := K)) d h'
  exact (hc.map₂ Prod.mk (hx.map₂ Prod.mk hu)).map (fun (c, s, t) =>
    if d < 3 then Reading.nan
    else ((((s.sub ((c.pow 2).div t.wherePositive)).max 0).mul (.num ((d : K) - 1))).div
      (.num ((d : K) - 2))).safeSqrt fn)

omit [Field K] [LinearOrder K] in
theorem lags_delay : Lags (K := K) delay :=
  fun d h => shift_tracks d h

omit [LinearOrder K] in
theorem lags_delta : Lags (K := K) delta :=
  fun d h => (h.widen d).map₂ Reading.sub (shift_tracks d h)

theorem lags_roc : Lags (K := K) roc :=
  fun d h => (h.widen d).map₂ (fun r s => (r.safeDiv s).sub 1) (shift_tracks d h)

end

/-! ## Operands -/

/-- **Two operands are alike**: the same number, or series that look back at
most so far. -/
inductive OperandTracks (base : Fin n → ρ) (base' : Fin m → ρ) (L : ℕ∞) :
    Operand K n → Operand K m → Prop
  | scalar (a : Scalar K) : OperandTracks base base' L (.scalar a) (.scalar a)
  | series {x : Series K n} {y : Series K m} (h : Tracks base base' L x y) :
      OperandTracks base base' L (.series x) (.series y)

namespace OperandTracks

variable {o p q : Operand K n} {o' p' q' : Operand K m}

omit [Field K] [LinearOrder K] in
theorem mono (h : OperandTracks base base' L o o') (hle : L ≤ M) :
    OperandTracks base base' M o o' := by
  cases h with
  | scalar a => exact .scalar a
  | series h => exact .series (h.mono hle)

omit [LinearOrder K] in
theorem cell (h : OperandTracks base base' L o o') : Tracks base base' L o.cell o'.cell := by
  cases h with
  | scalar a => exact .const a.reading
  | series h => exact h

omit [Field K] [LinearOrder K] in
theorem map₁ (onScalar : Scalar K → Scalar K) (f : Reading K → Reading K)
    (h : OperandTracks base base' L o o') :
    OperandTracks base base' L (o.map₁ onScalar f) (o'.map₁ onScalar f) := by
  cases h with
  | scalar a => exact .scalar _
  | series h => exact .series (h.map f)

omit [LinearOrder K] in
theorem map₂ (onScalars : Scalar K → Scalar K → Scalar K)
    (f : Reading K → Reading K → Reading K) (h : OperandTracks base base' L o o')
    (h' : OperandTracks base base' L p p') :
    OperandTracks base base' L (o.map₂ onScalars f p) (o'.map₂ onScalars f p') := by
  have hf := h.cell.map₂ f h'.cell
  cases h with
  | scalar a =>
    cases h' with
    | scalar b => exact .scalar _
    | series h' => exact .series hf
  | series h => exact .series hf

omit [Field K] [LinearOrder K] in
theorem asSeries (h : OperandTracks base base' L o o') :
    Alike (Tracks base base' L) o.asSeries o'.asSeries := by
  cases h with
  | scalar a => exact .error _
  | series h => exact .ok h

omit [LinearOrder K] in
theorem unary (op : PyUnary) (h : OperandTracks base base' L o o') :
    OperandTracks base base' L (o.unary op) (o'.unary op) := by
  cases op with
  | usub => exact h.map₁ _ _
  | uadd => exact h
  | other => exact h

theorem binary (op : PyBinary) (h : OperandTracks base base' L o o')
    (h' : OperandTracks base base' L p p') :
    Alike (OperandTracks base base' L) (o.binary op p) (o'.binary op p') := by
  cases op with
  | add => exact .ok (h.map₂ _ _ h')
  | sub => exact .ok (h.map₂ _ _ h')
  | mult => exact .ok (h.map₂ _ _ h')
  | div => exact .ok (h.map₂ _ _ h')
  | other => exact .error _
  | pow =>
    cases h' with
    | series h' => cases h <;> exact .error _
    | scalar b =>
      cases b with
      | float numpy r => cases h <;> exact .error _
      | int numpy z =>
        cases h with
        | scalar a =>
          show Alike _ ((a.pow z).map Operand.scalar) ((a.pow z).map Operand.scalar)
          cases a.pow z with
          | ok b => exact .ok (.scalar b)
          | error e => exact .error e
        | series h => exact .ok (.series (h.map (fun r => r.pow z)))

theorem compareStep (op : PyComparison) (h : OperandTracks base base' L o o')
    (h' : OperandTracks base base' L p p') :
    Alike (Tracks base base' L) (compareStep op o p) (compareStep op o' p') := by
  have hf := h.cell.map₂ (fun r s => r.compare op s) h'.cell
  cases h with
  | scalar a =>
    cases h' with
    | scalar b => exact .error _
    | series h' => exact .ok hf
  | series h => exact .ok hf

theorem callClip (h : OperandTracks base base' L o o') (h' : OperandTracks base base' L p p')
    (h'' : OperandTracks base base' L q q') :
    OperandTracks base base' L (callClip o p q) (callClip o' p' q') := by
  have hf := (h.cell.map₂ Prod.mk h'.cell).map₂ (fun r s => r.1.clip r.2 s) h''.cell
  cases h with
  | series h => exact .series hf
  | scalar a =>
    cases h' with
    | series h' =>
      cases a <;> exact .series hf
    | scalar b =>
      cases h'' with
      | series h'' => cases a <;> cases b <;> exact .series hf
      | scalar c => cases a <;> cases b <;> cases c <;> exact .scalar _

end OperandTracks

/-- An integer operand. -/
abbrev windowOperand (w : ℕ) : Operand K n :=
  .scalar (.int false w)

omit [Field K] [LinearOrder K] in
theorem asWindow_windowOperand (w : ℕ) : (windowOperand w : Operand K n).asWindow = .ok w := by
  unfold Operand.asWindow
  show (refuse (decide ((w : ℤ) < 0)) "window must be an integer 0 or greater" >>=
    fun _ => Except.ok (w : ℤ).toNat) = .ok w
  rw [refuse_bind_eq_ok]
  exact ⟨by simp, by simp⟩

/-! ## Calls -/

section

variable {fn : Elementary K} {o p q : Operand K n} {o' p' q' : Operand K m} {w : ℕ}

omit [Field K] [LinearOrder K] in
theorem callRolling_alike {f : {n : ℕ} → Series K n → ℕ → Series K n} (hf : Rolls f)
    (h : OperandTracks base base' L o o') (w : ℕ) :
    Alike (OperandTracks base base' (L + (w - 1 : ℕ))) (callRolling f o (windowOperand w))
      (callRolling f o' (windowOperand w)) := by
  unfold callRolling
  rw [asWindow_windowOperand, asWindow_windowOperand]
  exact h.asSeries.bind (fun x y hxy => .ok (.series (hf w hxy)))

omit [LinearOrder K] in
theorem callEma_alike (h : OperandTracks base base' ⊤ o o') (w : ℕ) :
    Alike (OperandTracks base base' ⊤) (callRolling ema o (windowOperand w))
      (callRolling ema o' (windowOperand w)) := by
  unfold callRolling
  rw [asWindow_windowOperand, asWindow_windowOperand]
  exact h.asSeries.bind (fun x y hxy => .ok (.series (ema_tracks w hxy)))

omit [Field K] [LinearOrder K] in
theorem callRolling₂_alike {f : {n : ℕ} → Series K n → Series K n → ℕ → Series K n}
    (hf : Rolls₂ f) (h : OperandTracks base base' L o o') (h' : OperandTracks base base' L p p')
    (w : ℕ) :
    Alike (OperandTracks base base' (L + (w - 1 : ℕ))) (callRolling₂ f o p (windowOperand w))
      (callRolling₂ f o' p' (windowOperand w)) := by
  unfold callRolling₂
  rw [asWindow_windowOperand, asWindow_windowOperand]
  exact h.asSeries.bind (fun x y hxy => h'.asSeries.bind
    (fun u v huv => .ok (.series (hf w hxy huv))))

omit [Field K] [LinearOrder K] in
theorem callLag_alike {f : {n : ℕ} → Series K n → ℤ → Series K n} (hf : Lags f)
    (h : OperandTracks base base' L o o') (w : ℕ) :
    Alike (OperandTracks base base' (L + w)) (callLag f o (windowOperand w))
      (callLag f o' (windowOperand w)) := by
  unfold callLag
  exact h.asSeries.bind (fun x y hxy => .ok (.series (hf w hxy)))

theorem callResidStd_alike (h : OperandTracks base base' L o o')
    (h' : OperandTracks base base' L p p') (w : ℕ) :
    Alike (OperandTracks base base' (L + (w - 1 : ℕ))) (callResidStd fn o p (windowOperand w))
      (callResidStd fn o' p' (windowOperand w)) := by
  unfold callResidStd
  rw [asWindow_windowOperand, asWindow_windowOperand]
  by_cases hw : w < 3
  · show Alike _ (if w < 3 then _ else _) (if w < 3 then _ else _)
    rw [if_pos hw, if_pos hw]
    exact h.asSeries.bind (fun x y _ => .ok (.series (.const _)))
  · show Alike _ (if w < 3 then _ else _) (if w < 3 then _ else _)
    rw [if_neg hw, if_neg hw]
    exact h'.asSeries.bind (fun u v huv => h.asSeries.bind
      (fun x y hxy => .ok (.series (rolls_tsResidStd fn w hxy huv))))

/-- **The window of a call's operands**: the one they give, or the default. -/
def windowIn (op : AlphaOperator) (args : List (Operand K n)) (w : ℕ) : Prop :=
  ∀ position, op.spec.windowArgument = some position →
    args[position]? = some (windowOperand w)
      ∨ args[position]? = none ∧ (w : ℤ) = op.defaultWindow

/-- What a call adds to what its arguments look back. -/
def callReach (op : AlphaOperator) (w : ℕ) : ℕ :=
  match op.spec.windowArgument with
  | none => 0
  | some _ => op.lookback w

/-- **A call with one argument.** -/
theorem callOperator_one (op : AlphaOperator) (h : OperandTracks base base' L o o')
    (hw : windowIn op [o] w) :
    Alike (OperandTracks base base' (L + callReach op w)) (callOperator fn op [o])
      (callOperator fn op [o']) := by
  have hdefault : op.spec.windowArgument = some 1 → (w : ℤ) = op.defaultWindow := by
    intro hp
    rcases hw 1 hp with hd | ⟨-, hd⟩
    · cases hd
    · exact hd
  cases op with
  | delta =>
    obtain rfl : w = 1 := Int.ofNat.inj (hdefault rfl)
    exact callLag_alike lags_delta h 1
  | delay =>
    obtain rfl : w = 1 := Int.ofNat.inj (hdefault rfl)
    exact callLag_alike lags_delay h 1
  | zscore =>
    obtain rfl : w = 20 := Int.ofNat.inj (hdefault rfl)
    exact callRolling_alike (rolls_zscore fn) h 20
  | sign => exact .ok ((h.map₁ _ _).mono le_self_add)
  | abs => exact .ok ((h.map₁ _ _).mono le_self_add)
  | log => exact .ok ((h.map₁ _ _).mono le_self_add)
  | sqrt => exact .ok ((h.map₁ _ _).mono le_self_add)
  | _ => exact .error _

/-- **A call with two arguments**: a series and a window, or two operands. -/
theorem callOperator_two (op : AlphaOperator) (h : OperandTracks base base' L o o')
    (h' : OperandTracks base base' L p p') (hw : windowIn op [o, p] w)
    (hema : op = .ema → L = ⊤) :
    Alike (OperandTracks base base' (L + callReach op w)) (callOperator fn op [o, p])
      (callOperator fn op [o', p']) := by
  have hwindow : op.spec.windowArgument = some 1 → p = windowOperand w ∧ p' = windowOperand w := by
    intro hp
    rcases hw 1 hp with hd | ⟨hd, -⟩
    · cases Option.some.inj hd
      cases h'
      exact ⟨rfl, rfl⟩
    · cases hd
  by_cases hp : op.spec.windowArgument = some 1
  · obtain ⟨rfl, rfl⟩ := hwindow hp
    cases op with
    | tsRank => exact callRolling_alike (rolls_rolling Stats.lastRank) h w
    | tsStd => exact callRolling_alike (rolls_rolling (Stats.std fn)) h w
    | tsMean => exact callRolling_alike (rolls_rolling fun v => .num (Stats.mean v)) h w
    | sma => exact callRolling_alike (rolls_rolling fun v => .num (Stats.mean v)) h w
    | tsMax => exact callRolling_alike (rolls_rolling Stats.greatest) h w
    | tsMin => exact callRolling_alike (rolls_rolling Stats.least) h w
    | tsArgmax => exact callRolling_alike (rolls_rolling (Stats.relative Stats.argmax)) h w
    | tsArgmin => exact callRolling_alike (rolls_rolling (Stats.relative Stats.argmin)) h w
    | decayLinear => exact callRolling_alike (rolls_rolling Stats.decayLinear) h w
    | realizedVol => exact callRolling_alike (rolls_rolling (Stats.std fn)) h w
    | tsSlope => exact callRolling_alike (rolls_rolling Stats.slope) h w
    | tsMad => exact callRolling_alike (rolls_rolling Stats.mad) h w
    | tsSum => exact callRolling_alike (rolls_rolling fun v => .num v.sum) h w
    | tsResidual => exact callRolling_alike rolls_tsResidual h w
    | zscore => exact callRolling_alike (rolls_zscore fn) h w
    | delta => exact callLag_alike lags_delta h w
    | delay => exact callLag_alike lags_delay h w
    | roc => exact callLag_alike lags_roc h w
    | ema =>
      obtain rfl := hema rfl
      rw [top_add]
      exact callEma_alike h w
    | _ => cases hp
  · cases op with
    | min => exact .ok ((h.map₂ _ _ h').mono le_self_add)
    | max => exact .ok ((h.map₂ _ _ h').mono le_self_add)
    | _ => first | exact .error _ | exact absurd rfl hp

/-- **A call with three arguments**: two series and a window, or three
operands. -/
theorem callOperator_three (op : AlphaOperator) (h : OperandTracks base base' L o o')
    (h' : OperandTracks base base' L p p') (h'' : OperandTracks base base' L q q')
    (hw : windowIn op [o, p, q] w) :
    Alike (OperandTracks base base' (L + callReach op w)) (callOperator fn op [o, p, q])
      (callOperator fn op [o', p', q']) := by
  have hwindow : op.spec.windowArgument = some 2 → q = windowOperand w ∧ q' = windowOperand w := by
    intro hp
    rcases hw 2 hp with hd | ⟨hd, -⟩
    · cases Option.some.inj hd
      cases h''
      exact ⟨rfl, rfl⟩
    · cases hd
  have hcond := ((h.cell.map₂ Prod.mk h'.cell).map₂ (fun r s => r.1.cond r.2 s) h''.cell)
  cases op with
  | tsCorr =>
    obtain ⟨rfl, rfl⟩ := hwindow rfl
    exact callRolling₂_alike (rolls_tsCorr fn) h h' w
  | tsBeta =>
    obtain ⟨rfl, rfl⟩ := hwindow rfl
    exact callRolling₂_alike rolls_tsBeta h h' w
  | tsResidStd =>
    obtain ⟨rfl, rfl⟩ := hwindow rfl
    exact callResidStd_alike h h' w
  | cond => exact .ok (.series (hcond.widen _))
  | ifElse => exact .ok (.series (hcond.widen _))
  | clip => exact .ok ((h.callClip h' h'').mono le_self_add)
  | _ => exact .error _

/-- **A call looks back as far as its arguments, and its window.** -/
theorem callOperator_alike (op : AlphaOperator) {args : List (Operand K n)}
    {args' : List (Operand K m)} (h : List.Forall₂ (OperandTracks base base' L) args args')
    (hw : windowIn op args w) (hema : op = .ema → L = ⊤) :
    Alike (OperandTracks base base' (L + callReach op w)) (callOperator fn op args)
      (callOperator fn op args') := by
  cases h with
  | nil => cases op <;> exact .error _
  | cons h₁ h =>
    cases h with
    | nil => exact callOperator_one op h₁ hw
    | cons h₂ h =>
      cases h with
      | nil => exact callOperator_two op h₁ h₂ hw hema
      | cons h₃ h =>
        cases h with
        | nil => exact callOperator_three op h₁ h₂ h₃ hw
        | cons h₄ h => cases op <;> exact .error _

end

/-! ## What the compiler accepts -/

section

variable {text : PythonText} {depth : ℕ} {visited : Visited}

theorem visit_name_ok {id : String} (h : visit text depth (.name id) = .ok visited) :
    ∃ field, AlphaField.ofName? (text.lower id) = some field
      ∧ visited.lookback = field.lookback ∧ visited.units = some field.units := by
  unfold visit at h
  simp only [refuse_bind_eq_ok] at h
  obtain ⟨-, h⟩ := h
  split at h
  · rename_i field hf
    cases h
    exact ⟨field, hf, rfl, rfl⟩
  · cases h

theorem visit_unaryOp_ok {op : PyUnary} {operand : Ast}
    (h : visit text depth (.unaryOp op operand) = .ok visited) :
    visit text (depth + 1) operand = .ok visited := by
  unfold visit at h
  simp only [refuse_bind_eq_ok] at h
  obtain ⟨-, h⟩ := h
  cases op with
  | uadd => exact h
  | usub => exact h
  | other => cases h

theorem visit_binOp_ok {op : PyBinary} {left right : Ast}
    (h : visit text depth (.binOp left op right) = .ok visited) :
    ∃ l r, visit text (depth + 1) left = .ok l ∧ visit text (depth + 1) right = .ok r
      ∧ visited.lookback = Max.max l.lookback r.lookback
      ∧ binaryUnits op l r right = .ok visited.units := by
  unfold visit at h
  simp only [refuse_bind_eq_ok] at h
  obtain ⟨-, h⟩ := h
  split at h
  · cases h
  · obtain ⟨l, hl, h⟩ := except_bind_eq_ok.mp h
    obtain ⟨r, hr, h⟩ := except_bind_eq_ok.mp h
    obtain ⟨units, hu, h⟩ := except_bind_eq_ok.mp h
    cases h
    exact ⟨l, r, hl, hr, rfl, hu⟩

theorem visit_compare_ok {left : Ast} {ops : List PyComparison} {comparators : List Ast}
    (h : visit text depth (.compare left ops comparators) = .ok visited) :
    ∃ l entries, visit text (depth + 1) left = .ok l
      ∧ visitAll text (depth + 1) comparators = .ok entries
      ∧ visited.lookback = maxLookback (l :: entries)
      ∧ sameUnitsAll (l :: entries) = .ok () ∧ visited.units = some (0, 0) := by
  unfold visit at h
  simp only [refuse_bind_eq_ok] at h
  obtain ⟨-, h⟩ := h
  split at h
  · cases h
  · obtain ⟨l, hl, h⟩ := except_bind_eq_ok.mp h
    obtain ⟨entries, he, h⟩ := except_bind_eq_ok.mp h
    obtain ⟨⟨⟩, hu, h⟩ := except_bind_eq_ok.mp h
    cases h
    exact ⟨l, entries, hl, he, rfl, hu, rfl⟩

theorem visit_call_ok {func : Ast} {args keywords : List Ast}
    (h : visit text depth (.call func args keywords) = .ok visited) :
    ∃ op entries, operatorOf? text func = some op
      ∧ visitAll text (depth + 1) args = .ok entries
      ∧ callLookback op args entries = .ok visited.lookback
      ∧ callUnits op args entries = .ok visited.units := by
  unfold visit at h
  simp only [refuse_bind_eq_ok] at h
  obtain ⟨-, h⟩ := h
  split at h
  · split at h
    · cases h
    · rename_i op hop
      simp only [refuse_bind_eq_ok] at h
      obtain ⟨-, h⟩ := h
      obtain ⟨entries, he, h⟩ := except_bind_eq_ok.mp h
      obtain ⟨lookback, hl, h⟩ := except_bind_eq_ok.mp h
      obtain ⟨units, hu, h⟩ := except_bind_eq_ok.mp h
      cases h
      exact ⟨op, entries, hop, he, hl, hu⟩
  · cases h

theorem visitAll_cons_ok {node : Ast} {l : List Ast} {entries : List Visited}
    (h : visitAll text depth (node :: l) = .ok entries) :
    ∃ entry rest, visit text depth node = .ok entry ∧ visitAll text depth l = .ok rest
      ∧ entries = entry :: rest := by
  unfold visitAll at h
  obtain ⟨entry, he, h⟩ := except_bind_eq_ok.mp h
  obtain ⟨rest, hr, h⟩ := except_bind_eq_ok.mp h
  cases h
  exact ⟨entry, rest, he, hr, rfl⟩

/-- The lookback of each part is within the greatest. -/
theorem le_maxLookback {entries : List Visited} {entry : Visited} (h : entry ∈ entries) :
    entry.lookback ≤ maxLookback entries := by
  have hacc : ∀ (l : List Visited) (m : ℕ), m ≤ l.foldl (fun m e => Max.max m e.lookback) m
      ∧ ∀ e ∈ l, e.lookback ≤ l.foldl (fun m e => Max.max m e.lookback) m := by
    intro l
    induction l with
    | nil => exact fun m => ⟨le_rfl, fun e he => by cases he⟩
    | cons a l ih =>
      intro m
      obtain ⟨hm, hl⟩ := ih (Max.max m a.lookback)
      refine ⟨(le_max_left _ _).trans hm, fun e he => ?_⟩
      rcases List.mem_cons.mp he with rfl | he
      · exact (le_max_right _ _).trans hm
      · exact hl e he
  exact (hacc entries 0).2 entry h

/-- **The lookback of a call**: that of its arguments, and what it adds. -/
theorem callLookback_ok {op : AlphaOperator} {args : List Ast} {entries : List Visited}
    {lookback : ℕ} (h : callLookback op args entries = .ok lookback) :
    ∃ w, lookback = maxLookback entries + callReach op w
      ∧ ∀ position, op.spec.windowArgument = some position →
        windowOf op position args = .ok w := by
  unfold callLookback at h
  unfold callReach
  split at h
  · rename_i hnone
    cases h
    rw [hnone]
    exact ⟨0, rfl, fun position hp => by cases hp⟩
  · rename_i position hsome
    obtain ⟨w, hw, h⟩ := except_bind_eq_ok.mp h
    split at h
    · cases h
    · cases h
      rw [hsome]
      refine ⟨w, rfl, fun position' hp => ?_⟩
      cases hp
      exact hw

end

/-! ## Literals -/

section

variable {text : PythonText} {fn : Elementary K} {fields : FieldSeries K n}

/-- **An integer literal evaluates to itself.** -/
theorem evaluateNode_literal {node : Ast} {z : ℤ} (h : literal node = .ok (.int z)) :
    evaluateNode text fn fields node = .ok (.scalar (.int false z)) := by
  fun_induction literal node generalizing z with
  | case1 x =>
    cases h
    rfl
  | case2 operand ih =>
    obtain ⟨x, hx, h⟩ := except_bind_eq_ok.mp h
    cases x with
    | int y =>
      cases h
      unfold evaluateNode
      rw [ih hx]
      rfl
    | float q => cases h
    | infinite => cases h
  | case3 operand ih =>
    unfold evaluateNode
    rw [ih h]
    rfl
  | case4 => cases h

/-- The values of some arguments are those of each. -/
theorem evaluateAll_getElem? {args : List Ast} {values : List (Operand K n)}
    (h : evaluateAll text fn fields args = .ok values) (k : ℕ) :
    (args[k]? = none ∧ values[k]? = none)
      ∨ ∃ arg value, args[k]? = some arg ∧ values[k]? = some value
        ∧ evaluateNode text fn fields arg = .ok value := by
  induction args generalizing values k with
  | nil =>
    cases h
    exact Or.inl ⟨rfl, rfl⟩
  | cons arg args ih =>
    unfold evaluateAll at h
    obtain ⟨value, hv, h⟩ := except_bind_eq_ok.mp h
    obtain ⟨rest, hr, h⟩ := except_bind_eq_ok.mp h
    cases h
    cases k with
    | zero => exact Or.inr ⟨arg, value, rfl, rfl, hv⟩
    | succ k => exact ih hr k

/-- **The window the compiler read is the one the call gets.** -/
theorem windowIn_of_windowOf {op : AlphaOperator} {args : List Ast} {w : ℕ}
    {values : List (Operand K n)} (hv : evaluateAll text fn fields args = .ok values)
    (h : ∀ position, op.spec.windowArgument = some position →
      windowOf op position args = .ok w) : windowIn op values w := by
  intro position hp
  have hw := h position hp
  unfold windowOf at hw
  obtain ⟨x, hx, hw⟩ := except_bind_eq_ok.mp hw
  have hxw : x = .int w := by
    cases x with
    | int z =>
      dsimp only at hw
      split at hw
      · cases hw
        rename_i hbounds
        rw [Int.toNat_of_nonneg (by omega)]
      · cases hw
    | float q => cases hw
    | infinite => cases hw
  subst hxw
  rcases evaluateAll_getElem? hv position with ⟨hnone, hnone'⟩ | ⟨arg, value, ha, hval, he⟩
  · rw [hnone] at hx
    exact Or.inr ⟨hnone', (PyNumber.int.inj (Except.ok.inj hx)).symm⟩
  · rw [ha] at hx
    rw [evaluateNode_literal hx] at he
    cases he
    exact Or.inl hval

end

/-! ## Expressions -/

section

variable {text : PythonText} {fn : Elementary K} {fields : FieldSeries K n}
  {fields' : FieldSeries K m}

/-- **The fields look back as far as they are compiled to.** -/
def FieldsTrack (base : Fin n → ρ) (base' : Fin m → ρ) (fields : FieldSeries K n)
    (fields' : FieldSeries K m) : Prop :=
  ∀ field : AlphaField, Option.Rel (Tracks base base' field.lookback) (fields field) (fields' field)

theorem evaluateName_alike (hf : FieldsTrack base base' fields fields') {id : String}
    {field : AlphaField} (hid : AlphaField.ofName? (text.lower id) = some field)
    (hle : (field.lookback : ℕ∞) ≤ M) :
    Alike (OperandTracks base base' M) (evaluateNode text fn fields (.name id))
      (evaluateNode text fn fields' (.name id)) := by
  unfold evaluateNode
  rw [hid, Option.bind_some, Option.bind_some]
  have hrel := hf field
  generalize fields field = x, fields' field = y at hrel ⊢
  cases hrel with
  | some h => exact .ok (.series (h.mono hle))
  | none => exact .error _

/-- **A call looks back as far as it is compiled to**, given that its arguments
do. -/
theorem evaluateCall_alike {op : AlphaOperator} {args : List Ast} {entries : List Visited}
    {lookback : ℕ} (hargs : ∀ M : ℕ∞, (anyCallsEma text args = true → M = ⊤) →
      (∀ e ∈ entries, (e.lookback : ℕ∞) ≤ M) →
      Alike (List.Forall₂ (OperandTracks base base' M)) (evaluateAll text fn fields args)
        (evaluateAll text fn fields' args))
    (hl : callLookback op args entries = .ok lookback)
    (hema : op = .ema ∨ anyCallsEma text args = true → M = ⊤) (hle : (lookback : ℕ∞) ≤ M) :
    Alike (OperandTracks base base' M)
      (evaluateAll text fn fields args >>= callOperator fn op)
      (evaluateAll text fn fields' args >>= callOperator fn op) := by
  obtain ⟨w, rfl, hw⟩ := callLookback_ok hl
  by_cases htop : op = .ema ∨ anyCallsEma text args = true
  · obtain rfl := hema htop
    refine (hargs ⊤ (fun _ => rfl) (fun _ _ => le_top)).bind_eq fun values values' hv h => ?_
    exact (callOperator_alike op h (windowIn_of_windowOf hv hw) (fun _ => rfl)).mono
      (fun _ _ ho => ho.mono le_top)
  · have hsub : ∀ e ∈ entries, (e.lookback : ℕ∞) ≤ (maxLookback entries : ℕ) :=
      fun e he => by exact_mod_cast le_maxLookback he
    refine (hargs _ (fun hany => absurd (Or.inr hany) htop) hsub).bind_eq
      fun values values' hv h => ?_
    refine (callOperator_alike op h (windowIn_of_windowOf hv hw)
      (fun ho => absurd (Or.inl ho) htop)).mono (fun _ _ ho => ho.mono ?_)
    exact_mod_cast hle

mutual

/-- **An expression looks back as far as it is compiled to**, or over the whole
history where it calls `ema`. -/
theorem evaluateNode_alike (hf : FieldsTrack base base' fields fields') :
    ∀ (node : Ast) {depth : ℕ} {visited : Visited} {M : ℕ∞},
      visit text depth node = .ok visited → (node.callsEma text = true → M = ⊤) →
      (visited.lookback : ℕ∞) ≤ M →
      Alike (OperandTracks base base' M) (evaluateNode text fn fields node)
        (evaluateNode text fn fields' node)
  | .constant (.number (.int z)), _, _, _, _, _, _ => .ok (.scalar _)
  | .constant (.number (.float q)), _, _, _, _, _, _ => .ok (.scalar _)
  | .constant (.number .infinite), _, _, _, _, _, _ => .ok (.scalar _)
  | .constant .other, _, _, _, _, _, _ => .error _
  | .name id, _, _, _, h, _, hle => by
    obtain ⟨field, hid, hl, -⟩ := visit_name_ok h
    rw [hl] at hle
    exact evaluateName_alike hf hid hle
  | .unaryOp op operand, _, _, _, h, hema, hle => by
    unfold evaluateNode
    unfold Ast.callsEma at hema
    exact (evaluateNode_alike hf operand (visit_unaryOp_ok h) hema hle).bind
      (fun _ _ ho => .ok (ho.unary op))
  | .binOp left op right, _, _, _, h, hema, hle => by
    obtain ⟨l, r, hl, hr, hmax, -⟩ := visit_binOp_ok h
    unfold evaluateNode
    unfold Ast.callsEma at hema
    rw [hmax] at hle
    have hleft : (l.lookback : ℕ∞) ≤ _ :=
      le_trans (by exact_mod_cast le_max_left l.lookback r.lookback) hle
    have hright : (r.lookback : ℕ∞) ≤ _ :=
      le_trans (by exact_mod_cast le_max_right l.lookback r.lookback) hle
    refine (evaluateNode_alike hf left hl (fun he => hema ?_) hleft).bind fun a b hab => ?_
    · simp [he]
    refine (evaluateNode_alike hf right hr (fun he => hema ?_) hright).bind fun c d hcd => ?_
    · simp [he]
    exact hab.binary op hcd
  | .compare left ops comparators, _, _, _, h, hema, hle => by
    obtain ⟨l, entries, hl, he, hmax, -⟩ := visit_compare_ok h
    unfold evaluateNode
    unfold Ast.callsEma at hema
    rw [hmax] at hle
    have hsub : ∀ e ∈ l :: entries, (e.lookback : ℕ∞) ≤ _ :=
      fun e he => le_trans (by exact_mod_cast le_maxLookback he) hle
    refine (evaluateNode_alike hf left hl (fun hc => hema ?_)
      (hsub l (List.mem_cons_self ..))).bind fun a b hab => ?_
    · simp [hc]
    · refine compareChain_alike hf comparators he (fun hc => hema ?_)
        (fun e hin => hsub e (List.mem_cons_of_mem _ hin)) hab (.const 1)
      simp [hc]
  | .call func args keywords, _, _, _, h, hema, hle => by
    obtain ⟨op, entries, hop, he, hl, -⟩ := visit_call_ok h
    unfold evaluateNode
    unfold Ast.callsEma at hema
    rw [hop] at hema ⊢
    refine evaluateCall_alike
      (fun M hc hsub => evaluateAll_alike hf args he hc hsub) hl (fun hc => hema ?_) hle
    rcases hc with rfl | hc
    · simp
    · simp [hc]
  | .other _ _, _, _, _, _, _, _ => .error _

/-- The same of the arguments of a call. -/
theorem evaluateAll_alike (hf : FieldsTrack base base' fields fields') :
    ∀ (nodes : List Ast) {depth : ℕ} {entries : List Visited} {M : ℕ∞},
      visitAll text depth nodes = .ok entries → (anyCallsEma text nodes = true → M = ⊤) →
      (∀ e ∈ entries, (e.lookback : ℕ∞) ≤ M) →
      Alike (List.Forall₂ (OperandTracks base base' M)) (evaluateAll text fn fields nodes)
        (evaluateAll text fn fields' nodes)
  | [], _, _, _, _, _, _ => .ok .nil
  | node :: l, _, _, _, h, hema, hle => by
    obtain ⟨entry, rest, he, hr, rfl⟩ := visitAll_cons_ok h
    unfold evaluateAll
    unfold anyCallsEma at hema
    refine (evaluateNode_alike hf node he (fun hc => hema ?_)
      (hle entry (List.mem_cons_self ..))).bind fun a b hab => ?_
    · simp [hc]
    refine (evaluateAll_alike hf l hr (fun hc => hema ?_)
      (fun e hin => hle e (List.mem_cons_of_mem _ hin))).bind fun as bs hs => ?_
    · simp [hc]
    exact .ok (.cons hab hs)

/-- The same of a chain of comparisons. -/
theorem compareChain_alike (hf : FieldsTrack base base' fields fields') :
    ∀ (parts : List Ast) {depth : ℕ} {entries : List Visited} {M : ℕ∞} {left : Operand K n}
      {left' : Operand K m} {result : Series K n} {result' : Series K m}
      {ops : List PyComparison},
      visitAll text depth parts = .ok entries → (anyCallsEma text parts = true → M = ⊤) →
      (∀ e ∈ entries, (e.lookback : ℕ∞) ≤ M) → OperandTracks base base' M left left' →
      Tracks base base' M result result' →
      Alike (OperandTracks base base' M) (compareChain text fn fields left result ops parts)
        (compareChain text fn fields' left' result' ops parts)
  | [], _, _, _, _, _, _, _, ops, _, _, _, _, hres => by
    unfold compareChain
    cases ops with
    | nil => exact .ok (.series hres)
    | cons op ops => exact .error _
  | part :: parts, _, _, _, _, _, _, _, ops, h, hema, hle, hleft, hres => by
    obtain ⟨entry, rest, he, hr, rfl⟩ := visitAll_cons_ok h
    unfold compareChain
    unfold anyCallsEma at hema
    cases ops with
    | nil => exact .error _
    | cons op ops =>
      refine (evaluateNode_alike hf part he (fun hc => hema ?_)
        (hle entry (List.mem_cons_self ..))).bind fun a b hab => ?_
      · simp [hc]
      refine (hleft.compareStep op hab).bind fun s t hst => ?_
      refine compareChain_alike hf parts hr (fun hc => hema ?_)
        (fun e hin => hle e (List.mem_cons_of_mem _ hin)) hab (hres.map₂ Reading.mul hst)
      simp [hc]

end

end

/-! ## Frames -/

/-- A bar of a frame: its cells, by column. -/
def DataFrame.row (frame : DataFrame K) (i : Fin frame.length) : List (Reading K) :=
  frame.columns.map (frame.bar i)

/-- **The frame can be evaluated**: its columns are distinct, its timestamps in
order, and the required fields are there. -/
structure DataFrame.Ready (text : PythonText) (required : List AlphaField)
    (frame : DataFrame K) : Prop where
  distinct : (frame.columns.map text.lower).Nodup
  ordered : ∀ i j : Fin frame.length, i < j → frame.index i < frame.index j
  present : ∀ field ∈ required, (frame.fields text field).isSome

section

variable {text : PythonText} {fn : Elementary K} {F G : DataFrame K}

omit [Field K] [LinearOrder K] in
/-- **A column reads its own bar.** -/
theorem column_tracks (text : PythonText) (hcols : F.columns = G.columns) (field : AlphaField)
    (L : ℕ∞) :
    Option.Rel (Tracks F.row G.row L) (F.column? text field) (G.column? text field) := by
  unfold DataFrame.column?
  rw [← hcols]
  cases hc : F.columns.find? (fun c => text.lower c == field.name) with
  | none => exact .none
  | some c =>
    refine .some fun i j hm => ?_
    have hrow : F.columns.map (F.bar i) = F.columns.map (G.bar j) := by
      have hnow := hm.now
      unfold DataFrame.row at hnow
      rw [← hcols] at hnow
      exact hnow
    exact List.map_inj_left.mp hrow c (List.mem_of_find?_eq_some hc)

/-- **The fields of a frame look back as far as they are compiled to.** -/
theorem fields_track (text : PythonText) (hcols : F.columns = G.columns) :
    FieldsTrack F.row G.row (F.fields text) (G.fields text) := by
  intro field
  have hcol := fun f : AlphaField => column_tracks text hcols f field.lookback
  have hclose := column_tracks text hcols .close 0
  cases field with
  | returns =>
    have hraw := hcol .returns
    unfold DataFrame.fields
    dsimp only
    generalize F.column? text .close = x, G.column? text .close = y at hclose
    cases hclose with
    | none => exact hraw
    | some h =>
      refine .some ?_
      have hlag := shift_tracks 1 h
      rw [zero_add] at hlag
      exact (h.mono bot_le).map₂ (fun r s => (r.div s).sub 1) hlag
  | openGap =>
    have hraw := hcol .openGap
    have hopen := hcol .open
    unfold DataFrame.fields
    dsimp only
    generalize F.column? text .close = x, G.column? text .close = y at hclose
    generalize F.column? text .open = u, G.column? text .open = v at hopen
    cases hclose with
    | none => exact hraw
    | some h =>
      cases hopen with
      | none => exact hraw
      | some h' =>
        refine .some ?_
        have hlag := shift_tracks 1 h
        rw [zero_add] at hlag
        exact h'.map₂ (fun r s => (r.safeDiv s).sub 1) hlag
  | ocSpread =>
    have hraw := hcol .ocSpread
    have hopen := hcol .open
    unfold DataFrame.fields
    dsimp only
    generalize F.column? text .close = x, G.column? text .close = y at hclose
    generalize F.column? text .open = u, G.column? text .open = v at hopen
    cases hclose with
    | none => exact hraw
    | some h =>
      cases hopen with
      | none => exact hraw
      | some h' =>
        exact .some ((h.mono bot_le).map₂ (fun r s => (r.sub s).safeDiv r) h')
  | hlSpread =>
    have hraw := hcol .hlSpread
    have hhigh := hcol .high
    have hlow := hcol .low
    unfold DataFrame.fields
    dsimp only
    generalize F.column? text .close = x, G.column? text .close = y at hclose
    generalize F.column? text .high = u, G.column? text .high = v at hhigh
    generalize F.column? text .low = s, G.column? text .low = t at hlow
    cases hclose with
    | none => exact hraw
    | some h =>
      cases hhigh with
      | none => exact hraw
      | some h' =>
        cases hlow with
        | none => exact hraw
        | some h'' =>
          exact .some ((h'.map₂ Reading.sub h'').map₂ Reading.safeDiv (h.mono bot_le))
  | _ => exact hcol _

/-- **What an evaluation returns** on a frame that can be evaluated. -/
theorem evaluate_eq {expression : String} {compiled : CompiledExpression}
    (hc : compileExpression text expression = .ok compiled)
    (hF : F.Ready text compiled.requiredFields) :
    evaluate text fn expression F
      = evaluateNode text fn (F.fields text) compiled.tree
        >>= fun value => .ok (defined value) := by
  have hprep : F.prepareDataFields text = .ok (F.fields text) := by
    unfold DataFrame.prepareDataFields
    rw [refuse_bind_eq_ok]
    exact ⟨by simpa using hF.distinct, rfl⟩
  have hmissing : compiled.requiredFields.filter (fun f => (F.fields text f).isNone) = [] := by
    refine List.filter_eq_nil_iff.mpr fun f hf => ?_
    simpa using Option.isSome_iff_ne_none.mp (hF.present f hf)
  have hordered : (!decide (∀ i j : Fin F.length, i < j → F.index i < F.index j)) = false := by
    simpa using hF.ordered
  unfold evaluate evaluateFields
  rw [hc, hprep]
  show (refuse _ _ >>= fun _ => refuse _ _ >>= fun _ => _) = _
  rw [hordered, hmissing]
  rfl

/-- What was compiled was visited. -/
theorem compileExpression_ok {expression : String} {compiled : CompiledExpression}
    (h : compileExpression text expression = .ok compiled) :
    ∃ visited, visit text 0 compiled.tree = .ok visited
      ∧ compiled.lookback = visited.lookback ∧ compiled.units = unitsOr visited.units := by
  unfold compileExpression at h
  simp only [refuse_bind_eq_ok] at h
  obtain ⟨-, h⟩ := h
  split at h
  · cases h
  · simp only [refuse_bind_eq_ok] at h
    obtain ⟨-, h⟩ := h
    obtain ⟨visited, hv, h⟩ := except_bind_eq_ok.mp h
    simp only [refuse_bind_eq_ok] at h
    obtain ⟨-, h⟩ := h
    cases h
    exact ⟨visited, hv, rfl, rfl⟩

/-- **Frames that match up to two bars have the same value there.** -/
theorem evaluate_of_matches {expression : String} {compiled : CompiledExpression}
    (hc : compileExpression text expression = .ok compiled)
    (hF : F.Ready text compiled.requiredFields) (hG : G.Ready text compiled.requiredFields)
    (hcols : F.columns = G.columns) {L : ℕ∞}
    (hema : compiled.tree.callsEma text = true → L = ⊤) (hle : (compiled.lookback : ℕ∞) ≤ L)
    {i : Fin F.length} {j : Fin G.length} (hm : Matches L F.row i G.row j) :
    (evaluate text fn expression F).map (fun values => values i)
      = (evaluate text fn expression G).map (fun values => values j) := by
  obtain ⟨visited, hv, hl, -⟩ := compileExpression_ok hc
  rw [hl] at hle
  have halike : Alike (OperandTracks F.row G.row L)
      (evaluateNode text fn (F.fields text) compiled.tree)
      (evaluateNode text fn (G.fields text) compiled.tree) :=
    evaluateNode_alike (fields_track text hcols) compiled.tree hv hema hle
  rw [evaluate_eq hc hF, evaluate_eq hc hG]
  generalize evaluateNode text fn (F.fields text) compiled.tree = a,
    evaluateNode text fn (G.fields text) compiled.tree = b at halike
  cases halike with
  | error e => rfl
  | ok h => exact congrArg (fun r => Except.ok (Reading.number? r)) (h.cell i j hm)

end

end

/-- **Expressions are causal, and look back as far as they are compiled to.**
For every expression the compiler accepts and any two frames of the same columns
that can be evaluated:

* at a bar up to which they hold the same, the expression has the same value,
  whatever bars come after it in either;
* and unless it calls `ema`, it has the same value at any two bars, both with
  at least `lookback` bars before them, if the last `lookback + 1` bars up to
  them are the same.

The value may be undefined, and it may be an exception. -/
theorem expression_causal {K : Type} [Field K] [LinearOrder K] (text : PythonText)
    (fn : Elementary K) {expression : String} {compiled : CompiledExpression}
    (hc : compileExpression text expression = .ok compiled) {F G : DataFrame K}
    (hF : F.Ready text compiled.requiredFields) (hG : G.Ready text compiled.requiredFields)
    (hcols : F.columns = G.columns) (i : Fin F.length) (j : Fin G.length) :
    (i.val = j.val →
        (∀ k (hk : k ≤ i.val) (hk' : k ≤ j.val),
          F.row ⟨k, hk.trans_lt i.isLt⟩ = G.row ⟨k, hk'.trans_lt j.isLt⟩) →
        (evaluate text fn expression F).map (fun values => values i)
          = (evaluate text fn expression G).map (fun values => values j))
      ∧ (compiled.tree.callsEma text = false →
        compiled.lookback ≤ i.val → compiled.lookback ≤ j.val →
        (∀ k ≤ compiled.lookback,
          F.row ⟨i - k, (Nat.sub_le _ _).trans_lt i.isLt⟩
            = G.row ⟨j - k, (Nat.sub_le _ _).trans_lt j.isLt⟩) →
        (evaluate text fn expression F).map (fun values => values i)
          = (evaluate text fn expression G).map (fun values => values j)) := by
  refine ⟨fun hij hrows => ?_, fun hema hi hj hrows => ?_⟩
  · exact evaluate_of_matches hc hF hG hcols (fun _ => rfl) le_top
      (matches_of_history hij fun k hk => hrows k hk (hij ▸ hk))
  · refine evaluate_of_matches hc hF hG hcols (fun he => ?_) le_rfl
      (matches_of_last hi hj fun k hk => hrows k hk)
    rw [hema] at he
    cases he

/-! ### A ratio of closes -/

def sampleTree : Ast :=
  .binOp (.name "close") .div (.call (.name "delay") [.name "close"] [])

def samplePython : PythonText where
  parse source := if source = "close / delay(close)" then some sampleTree else none
  lower := id

def sampleElementary : Elementary ℚ := ⟨id, id⟩

/-- A frame of closes. -/
def closes (prices : List ℚ) : DataFrame ℚ where
  length := prices.length
  index i := i.val
  columns := ["close"]
  bar i _ := .num (prices.get i)

theorem closes_ready (prices : List ℚ) : (closes prices).Ready samplePython [.close] where
  distinct := by simp [closes]
  ordered i j h := by
    show (i.val : ℤ) < j.val
    exact_mod_cast h
  present field hf := by
    rw [List.mem_singleton.mp hf]
    rfl

def sampleCompiled : CompiledExpression := ⟨sampleTree, [.close], (1 - 1, 0 - 0), 1⟩

theorem sampleCompiled_ok :
    compileExpression samplePython "close / delay(close)" = .ok sampleCompiled := by
  rfl

/-- Two frames of different lengths that end on the same two bars. -/
theorem expression_causal_sample :
    compileExpression samplePython "close / delay(close)" = .ok sampleCompiled
      ∧ (evaluate samplePython sampleElementary "close / delay(close)" (closes [2, 3])).map
          (fun values => values ⟨1, by decide⟩)
        = (evaluate samplePython sampleElementary "close / delay(close)" (closes [1, 2, 3])).map
          (fun values => values ⟨2, by decide⟩) := by
  refine ⟨sampleCompiled_ok, (expression_causal samplePython sampleElementary sampleCompiled_ok
    (closes_ready [2, 3]) (closes_ready [1, 2, 3]) rfl ⟨1, by decide⟩ ⟨2, by decide⟩).2
    rfl (by decide) (by decide) ?_⟩
  intro k hk
  have hk' : k = 0 ∨ k = 1 := by
    have : k ≤ 1 := hk
    omega
  rcases hk' with rfl | rfl
  · rfl
  · rfl

end AgenticTrader
