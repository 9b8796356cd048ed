import AgenticTrader.Alpha.Simulation
import AgenticTrader.Library.Checks
import Mathlib.Tactic.FieldSimp
import Mathlib.Tactic.NormNum
import Mathlib.Tactic.Ring

/-!
# The simulator keeps its capital

The simulator accounts twice: every bar has the return of the equity, and every
closed trade has the return of its profit. `simulation_conserves_capital` says that
the two agree, that a bar without a position returns nothing, that no fill is beyond
its limit, and that trades follow one another.

The argument is an invariant of the loop. While nothing is held, the cash is the
product of the trades' returns. While something is held, that product is the equity
of the entry, and the cash is what the entry left of it. The mark at the close and
the product of the bars' returns are then the same number, since the returns
telescope.
-/

namespace AgenticTrader

/-- What a unit of capital grows to, by a list of returns. -/
def compounded (returns : List ℚ) : ℚ := (returns.map (1 + ·)).prod

@[simp] theorem compounded_nil : compounded [] = 1 := rfl

@[simp] theorem compounded_concat (returns : List ℚ) (r : ℚ) :
    compounded (returns ++ [r]) = compounded returns * (1 + r) := by
  simp [compounded]

namespace SimulationState

variable {policy : AlphaExecutionPolicy} {intents : ℕ → Option BracketIntent} {i n : ℕ}
  {bar : ExecutionBar} {s : SimulationState}

/-- The capital that the closed trades have left. -/
def tradeCapital (trades : List SimulatedTrade) : ℚ := compounded (trades.map (·.netReturn))

/-- **What is known of a position while it is held.** -/
structure Held (policy : AlphaExecutionPolicy) (cash : ℚ) (trades : List SimulatedTrade)
    (entries : List SimulatedEntry) (position : SimulatedPosition) : Prop where
  entry_pos : 0 < position.entry
  equity_pos : 0 < position.entryEquity
  funded : position.quantity * position.entry = position.entryEquity
  fee : position.entryFee = position.entryEquity * policy.frictionPerSide
  cash : cash = position.entryEquity
    - (position.direction.sign * position.quantity * position.entry + position.entryFee)
  capital : tradeCapital trades = position.entryEquity
  last : ∃ limit, entries.getLast?
    = some ⟨position.entryBar, position.entry, limit, position.direction⟩
  later : ∀ t ∈ trades, t.exitBar < position.entryBar

/-- **The books of the loop**, before a bar. -/
structure Books (policy : AlphaExecutionPolicy) (n : ℕ) (s : SimulationState) : Prop where
  flat : s.position = none → s.cash = tradeCapital s.trades
  held : ∀ position, s.position = some position →
    Held policy s.cash s.trades s.entries position ∧ position.entryBar < n
  ordered : s.trades.Pairwise (fun a b => a.exitBar < b.entryBar)
  spans : ∀ t ∈ s.trades, t.entryBar ≤ t.exitBar ∧ t.exitBar < n
  limited : ∀ e ∈ s.entries, e.direction.sign * (e.price - e.limit) ≤ 0

/-- Nothing is pending while something is held. -/
def Idle (s : SimulationState) : Prop := s.position = none ∨ s.pending = none

/-- A bar in which something was held. -/
def Covered (s : SimulationState) (j : ℕ) : Prop :=
  (∃ t ∈ s.trades, t.entryBar ≤ j ∧ j ≤ t.exitBar)
    ∨ ∃ position, s.position = some position ∧ position.entryBar ≤ j

/-- The books look at the account only. -/
theorem Books.congr {s' : SimulationState} (h : Books policy n s) (hcash : s'.cash = s.cash)
    (hposition : s'.position = s.position) (htrades : s'.trades = s.trades)
    (hentries : s'.entries = s.entries) : Books policy n s' where
  flat hnone := by
    rw [hcash, htrades]
    exact h.flat (hposition ▸ hnone)
  held position hsome := by
    rw [hcash, htrades, hentries]
    exact h.held position (hposition ▸ hsome)
  ordered := htrades ▸ h.ordered
  spans := htrades ▸ h.spans
  limited := hentries ▸ h.limited

/-! ## Before the fill -/

/-- The orders of a bar leave the account. -/
structure SameAccount (s s' : SimulationState) : Prop where
  cash : s'.cash = s.cash
  equity : s'.equity = s.equity
  position : s'.position = s.position
  trades : s'.trades = s.trades
  entries : s'.entries = s.entries
  returns : s'.returns = s.returns

theorem SameAccount.trans {s' s'' : SimulationState} (h : SameAccount s s')
    (h' : SameAccount s' s'') : SameAccount s s'' :=
  ⟨h'.cash.trans h.cash, h'.equity.trans h.equity, h'.position.trans h.position,
    h'.trades.trans h.trades, h'.entries.trans h.entries, h'.returns.trans h.returns⟩

theorem expire_account (i : ℕ) (bar : ExecutionBar) (s : SimulationState) :
    SameAccount s (s.expire i bar) := by
  unfold expire
  split <;> exact ⟨rfl, rfl, rfl, rfl, rfl, rfl⟩

theorem place_account (policy : AlphaExecutionPolicy) (intents : ℕ → Option BracketIntent) (i : ℕ)
    (bar : ExecutionBar) (s : SimulationState) :
    SameAccount s (s.place policy intents i bar) := by
  unfold place
  split <;> exact ⟨rfl, rfl, rfl, rfl, rfl, rfl⟩

theorem Idle.expire (h : s.Idle) : (s.expire i bar).Idle := by
  unfold SimulationState.expire
  split
  · exact .inr rfl
  · exact h

theorem Idle.place (h : s.Idle) : (s.place policy intents i bar).Idle := by
  unfold SimulationState.place
  split
  case h_1 hposition hpending hintent => exact .inl hposition
  case h_2 => exact h

/-! ## The fill -/

/-- **Where an order fills**: at a price of the bar, and never beyond its limit. -/
theorem fill?_spec {intent : BracketIntent} {price : ℚ} {intrabar : Bool}
    (h : intent.fill? bar = some (price, intrabar)) :
    0 < price ∧ intent.direction.sign * (price - intent.limit) ≤ 0 := by
  have hopen : 0 < bar.open_ := lt_of_lt_of_le bar.low_pos bar.low_le_open
  unfold BracketIntent.fill? at h
  split at h
  case isTrue hmarketable =>
    cases h
    exact ⟨hopen, hmarketable⟩
  case isFalse hmarketable =>
    split at h
    case isTrue htouched =>
      cases h
      refine ⟨?_, by rw [sub_self, mul_zero]⟩
      cases hdirection : intent.direction with
      | long =>
        rw [hdirection] at htouched
        exact lt_of_lt_of_le bar.low_pos (of_decide_eq_true htouched)
      | short =>
        have hsign : Direction.short.sign = -1 := rfl
        rw [hdirection, hsign] at hmarketable
        linarith
    case isFalse => cases h

/-- **A fill** puts the whole capital into a position. -/
theorem Books.filled (h : Books policy i s) (hflat : s.position = none) (hequity : 0 < s.equity)
    (hcash : s.equity = s.cash) {intent : BracketIntent} {price : ℚ} (intrabar : Bool)
    (hprice : 0 < price) (hlimit : intent.direction.sign * (price - intent.limit) ≤ 0) :
    Books policy (i + 1) (s.filled policy i bar intent price intrabar) := by
  have hfunded : s.equity / price * price = s.equity := div_mul_cancel₀ _ hprice.ne'
  refine ⟨?_, ?_, h.ordered, ?_, ?_⟩
  · intro hnone
    cases hnone
  · intro position hsome
    cases hsome
    refine ⟨?_, Nat.lt_succ_self i⟩
    exact
      { entry_pos := hprice
        equity_pos := hequity
        funded := hfunded
        fee := by
          show s.equity / price * price * policy.frictionPerSide = _
          rw [hfunded]
          rfl
        cash := congrArg (· - (intent.direction.sign * (s.equity / price) * price
          + s.equity / price * price * policy.frictionPerSide)) hcash.symm
        capital := ((h.flat hflat).symm.trans hcash.symm)
        last := ⟨intent.limit, List.getLast?_concat⟩
        later := fun t ht => (h.spans t ht).2 }
  · intro t ht
    exact ⟨(h.spans t ht).1, Nat.lt_succ_of_lt (h.spans t ht).2⟩
  · intro e he
    rcases List.mem_append.mp he with he | he
    · exact h.limited e he
    · rw [List.mem_singleton.mp he]
      exact hlimit

theorem Books.mono (h : Books policy n s) {m : ℕ} (hm : n ≤ m) : Books policy m s where
  flat := h.flat
  held position hsome := ⟨(h.held position hsome).1, (h.held position hsome).2.trans_le hm⟩
  ordered := h.ordered
  spans t ht := ⟨(h.spans t ht).1, (h.spans t ht).2.trans_le hm⟩
  limited := h.limited

/-- What the fill of a bar changes. -/
structure Entered (s s' : SimulationState) : Prop where
  equity : s'.equity = s.equity
  returns : s'.returns = s.returns
  trades : s'.trades = s.trades
  kept : s.position ≠ none → s'.position = s.position
  idle : s'.Idle

variable (bar) in
theorem enter_spec (h : Books policy i s) (hidle : s.Idle) (hequity : 0 < s.equity)
    (hcash : s.position = none → s.equity = s.cash) :
    Books policy (i + 1) (s.enter policy i bar).1 ∧ Entered s (s.enter policy i bar).1 := by
  have hunchanged : Books policy (i + 1) s ∧ Entered s s :=
    ⟨h.mono (Nat.le_succ i), ⟨rfl, rfl, rfl, fun _ => rfl, hidle⟩⟩
  unfold enter
  split
  case h_1 => exact hunchanged
  case h_2 order hpending =>
    split
    case h_1 => exact hunchanged
    case h_2 price intrabar hfill =>
      have hflat : s.position = none := by
        refine hidle.resolve_right ?_
        rw [hpending]
        exact Option.some_ne_none order
      obtain ⟨hprice, hlimit⟩ := fill?_spec hfill
      exact ⟨h.filled hflat hequity (hcash hflat) intrabar hprice hlimit,
        ⟨rfl, rfl, rfl, fun hne => absurd hflat hne, .inr rfl⟩⟩

/-! ## The exit -/

/-- **An exit** leaves the entry's equity and the profit. -/
theorem Books.closed (h : Books policy (i + 1) s) {position : SimulatedPosition}
    (hsome : s.position = some position) (price : ℚ) (intrabar : Bool) :
    Books policy (i + 1) (s.closed policy i bar position price intrabar) := by
  obtain ⟨held, hbar⟩ := h.held position hsome
  refine ⟨?_, ?_, ?_, ?_, h.limited⟩
  · intro _
    show s.cash + (position.direction.sign * position.quantity * price
        - position.quantity * price * policy.frictionPerSide)
      = tradeCapital (s.trades ++ [_])
    unfold tradeCapital
    rw [List.map_append, List.map_singleton, compounded_concat, ← tradeCapital, held.capital,
      mul_add, mul_one, mul_div_cancel₀ _ held.equity_pos.ne', held.cash]
    ring
  · intro position' hsome'
    cases hsome'
  · refine List.pairwise_append.mpr ⟨h.ordered, List.pairwise_singleton _ _, ?_⟩
    intro t ht t' ht'
    rw [List.mem_singleton.mp ht']
    exact held.later t ht
  · intro t ht
    rcases List.mem_append.mp ht with ht | ht
    · exact h.spans t ht
    · rw [List.mem_singleton.mp ht]
      exact ⟨Nat.le_of_lt_succ hbar, Nat.lt_succ_self i⟩

/-- A trail moves the stop only. -/
theorem trailed_eq (policy : AlphaExecutionPolicy) (i : ℕ) (bar : ExecutionBar)
    (s : SimulationState) (position : SimulatedPosition) :
    ∃ stop events, s.trailed policy i bar position
      = { s with position := some { position with stop := stop }, events := events } := by
  unfold SimulationState.trailed
  dsimp only
  split
  · exact ⟨_, _, rfl⟩
  · exact ⟨_, _, rfl⟩

theorem Books.trailed (h : Books policy n s) {position : SimulatedPosition}
    (hsome : s.position = some position) : Books policy n (s.trailed policy i bar position) := by
  obtain ⟨held, hbar⟩ := h.held position hsome
  obtain ⟨stop, events, htrailed⟩ := trailed_eq policy i bar s position
  rw [htrailed]
  refine ⟨?_, ?_, h.ordered, h.spans, h.limited⟩
  · intro hnone
    cases hnone
  · intro position' hsome'
    cases hsome'
    exact ⟨⟨held.entry_pos, held.equity_pos, held.funded, held.fee, held.cash, held.capital,
      held.last, held.later⟩, hbar⟩

/-- What the exit of a bar changes. -/
structure Settled (i : ℕ) (s s' : SimulationState) : Prop where
  equity : s'.equity = s.equity
  returns : s'.returns = s.returns
  covered : ∀ j, j ≤ i → s.Covered j → s'.Covered j
  flat : s.position = none → s' = s
  idle : s'.Idle

variable (bar) in
theorem settle_spec (h : Books policy (i + 1) s) (hidle : s.Idle) (intrabar : Bool) :
    Books policy (i + 1) (s.settle policy i bar intrabar)
      ∧ Settled i s (s.settle policy i bar intrabar) := by
  unfold settle
  split
  case h_1 => exact ⟨h, ⟨rfl, rfl, fun _ _ hc => hc, fun _ => rfl, hidle⟩⟩
  case h_2 position hsome =>
    obtain ⟨held, hbar⟩ := h.held position hsome
    have hnotFlat : ∀ {s' : SimulationState}, s.position = none → s' = s := by
      intro s' hnone
      rw [hsome] at hnone
      cases hnone
    have hclosed : ∀ price, Settled i s (s.closed policy i bar position price intrabar) := by
      intro price
      refine ⟨rfl, rfl, ?_, hnotFlat, .inl rfl⟩
      intro j hj hc
      rcases hc with ⟨t, ht, hcover⟩ | ⟨position', hsome', hle⟩
      · exact .inl ⟨t, List.mem_append_left _ ht, hcover⟩
      · rw [hsome, Option.some.injEq] at hsome'
        subst hsome'
        exact .inl ⟨_, List.mem_append_right _ (List.mem_singleton_self _), hle, hj⟩
    split
    case h_1 price deadline hexit =>
      have hemit : Books policy (i + 1) (s.emit i (.holdingExpired deadline)) :=
        h.congr rfl rfl rfl rfl
      refine ⟨hemit.closed hsome price intrabar, ?_⟩
      exact ⟨rfl, rfl, (hclosed price).covered, hnotFlat, .inl rfl⟩
    case h_2 price hexit => exact ⟨h.closed hsome price intrabar, hclosed price⟩
    case h_3 =>
      refine ⟨h.trailed hsome, ?_⟩
      obtain ⟨stop, events, htrailed⟩ := trailed_eq policy i bar s position
      rw [htrailed]
      refine ⟨rfl, rfl, ?_, hnotFlat, ?_⟩
      · intro j hj hc
        rcases hc with hc | ⟨position', hsome', hle⟩
        · exact .inl hc
        · rw [hsome, Option.some.injEq] at hsome'
          subst hsome'
          exact .inr ⟨_, rfl, hle⟩
      · refine .inr (hidle.resolve_left ?_)
        rw [hsome]
        exact Option.some_ne_none position

/-- What a bar does to the books before the mark. -/
structure Traded (i : ℕ) (s s' : SimulationState) : Prop where
  equity : s'.equity = s.equity
  returns : s'.returns = s.returns
  idle : s'.Idle
  covered : ∀ j, j ≤ i → s.Covered j → s'.Covered j
  unheld : ¬ s'.Covered i → s'.position = none ∧ s'.cash = s.equity

variable (intents bar) in
/-- **The orders of a bar** keep the books, and leave the cash when nothing is held. -/
theorem trade_spec (hbooks : Books policy i s) (hidle : s.Idle) (hequity : 0 < s.equity)
    (hflat : s.position = none → s.equity = s.cash) :
    Books policy (i + 1) (s.trade policy intents i bar)
      ∧ Traded i s (s.trade policy intents i bar) := by
  have haccount := (expire_account i bar s).trans
    (place_account policy intents i bar (s.expire i bar))
  have hplaced : ((s.expire i bar).place policy intents i bar).Idle := hidle.expire.place
  unfold trade
  generalize (s.expire i bar).place policy intents i bar = placed at haccount hplaced ⊢
  obtain ⟨hbooks', hentered⟩ := enter_spec bar
    (hbooks.congr haccount.cash haccount.position haccount.trades haccount.entries) hplaced
    (haccount.equity ▸ hequity) (fun hnone => by
      rw [haccount.equity, haccount.cash]
      exact hflat (haccount.position ▸ hnone))
  generalize placed.enter policy i bar = entered at hbooks' hentered ⊢
  obtain ⟨hbooks'', hsettled⟩ := settle_spec bar hbooks' hentered.idle entered.2
  refine ⟨hbooks'', ?_⟩
  have hcovered : ∀ j, s.Covered j → entered.1.Covered j := by
    rintro j (⟨t, ht, hcover⟩ | ⟨position, hsome, hle⟩)
    · rw [← haccount.trades, ← hentered.trades] at ht
      exact .inl ⟨t, ht, hcover⟩
    · rw [← haccount.position] at hsome
      refine .inr ⟨position, ?_, hle⟩
      rw [hentered.kept (by rw [hsome]; exact Option.some_ne_none position), hsome]
  refine ⟨hsettled.equity.trans (hentered.equity.trans haccount.equity),
    hsettled.returns.trans (hentered.returns.trans haccount.returns), hsettled.idle,
    fun j hj hc => hsettled.covered j hj (hcovered j hc), ?_⟩
  intro huncovered
  -- What the fill leaves open is open in this bar.
  have hnone : entered.1.position = none := by
    refine Option.eq_none_iff_forall_ne_some.mpr ?_
    intro position hsome
    exact huncovered (hsettled.covered i (Nat.le_refl i)
      (.inr ⟨position, hsome, Nat.le_of_lt_succ (hbooks'.held position hsome).2⟩))
  have hbefore : s.position = none := by
    by_contra hne
    have hkept := hentered.kept (haccount.position ▸ hne)
    rw [hnone, haccount.position] at hkept
    exact hne hkept.symm
  rw [hsettled.flat hnone]
  refine ⟨hnone, ?_⟩
  rw [hbooks'.flat hnone, hentered.trades, haccount.trades, ← hbooks.flat hbefore, hflat hbefore]

/-! ## The loop -/

/-- **The invariant of the loop**, after the bars that are done. -/
structure Inv (policy : AlphaExecutionPolicy) (first : ℕ) (done : List ExecutionBar)
    (s : SimulationState) : Prop where
  books : Books policy (first + done.length) s
  idle : s.Idle
  equity_pos : 0 < s.equity
  flat : s.position = none → s.equity = s.cash
  marked : ∀ bar, done.getLast? = some bar → s.equity = s.marked bar
  capital : compounded s.returns = s.equity
  length : s.returns.length = done.length
  unheld : ∀ k r, s.returns[k]? = some r → ¬ s.Covered (first + k) → r = 0

theorem inv_start (first : ℕ) : Inv policy first [] start where
  books :=
    { flat := fun _ => rfl
      held := fun _ h => by cases h
      ordered := .nil
      spans := fun _ h => by cases h
      limited := fun _ h => by cases h }
  idle := .inl rfl
  equity_pos := one_pos
  flat _ := rfl
  marked _ h := by cases h
  capital := rfl
  length := rfl
  unheld k r h := by cases h

/-- What is marked is the cash while nothing is held. -/
theorem marked_of_flat (h : s.position = none) : s.marked bar = s.cash := by
  unfold marked
  rw [h]

/-- **One bar** keeps the invariant. -/
theorem Inv.step {first : ℕ} {done : List ExecutionBar} {s' : SimulationState}
    (h : Inv policy first done s)
    (hstep : s.step policy intents (first + done.length) bar = .ok s') :
    Inv policy first (done ++ [bar]) s' := by
  obtain ⟨hbooks, htraded⟩ := trade_spec intents bar h.books h.idle
    h.equity_pos h.flat
  unfold SimulationState.step mark at hstep
  generalize s.trade policy intents (first + done.length) bar = traded
    at hbooks htraded hstep
  dsimp only at hstep
  split_ifs at hstep with hbroke
  cases hstep
  have hlast : ∀ {bar' : ExecutionBar}, (done ++ [bar]).getLast? = some bar' → bar' = bar := by
    intro bar' hbar'
    rw [List.getLast?_concat] at hbar'
    exact (Option.some.inj hbar').symm
  have hreturns : traded.returns.length = done.length := by rw [htraded.returns, h.length]
  refine
    { books := ?_
      idle := htraded.idle
      equity_pos := not_le.mp hbroke
      flat := fun hnone => marked_of_flat hnone
      marked := fun bar' hbar' => by rw [hlast hbar']; rfl
      capital := ?_
      length := by simp [hreturns]
      unheld := ?_ }
  · rw [List.length_append, List.length_singleton, ← Nat.add_assoc]
    exact hbooks.congr rfl rfl rfl rfl
  · show compounded (traded.returns ++ [traded.marked bar / traded.equity - 1])
      = traded.marked bar
    rw [compounded_concat, htraded.returns, h.capital, htraded.equity, add_sub_cancel,
      mul_div_cancel₀ _ h.equity_pos.ne']
  · intro k r hr huncovered
    have hr' : (traded.returns ++ [traded.marked bar / traded.equity - 1])[k]? = some r := hr
    have huncovered' : ¬ traded.Covered (first + k) := huncovered
    rcases lt_or_ge k traded.returns.length with hk | hk
    · rw [List.getElem?_append_left hk, htraded.returns] at hr'
      rw [hreturns] at hk
      refine h.unheld k r hr' (fun hc => huncovered' (htraded.covered _ ?_ hc))
      exact Nat.add_le_add_left hk.le first
    · rw [List.getElem?_append_right hk] at hr'
      rw [List.getElem?_singleton] at hr'
      split_ifs at hr' with hzero
      have hk' : k = done.length := by omega
      rw [hk'] at huncovered'
      obtain ⟨hnone, hcash⟩ := htraded.unheld huncovered'
      rw [← Option.some.inj hr', marked_of_flat hnone, hcash, htraded.equity,
        div_self h.equity_pos.ne', sub_self]

/-- **The whole loop** keeps the invariant. -/
theorem Inv.run {first : ℕ} {done rest : List ExecutionBar} {s' : SimulationState}
    (h : Inv policy first done s)
    (hrun : s.run policy intents (first + done.length) rest = .ok s') :
    Inv policy first (done ++ rest) s' := by
  induction rest generalizing done s with
  | nil =>
    cases hrun
    rw [List.append_nil]
    exact h
  | cons bar rest ih =>
    unfold SimulationState.run at hrun
    obtain ⟨s₁, hstep, hrun⟩ := Checks.except_bind_eq_ok.mp hrun
    have hnext := h.step hstep
    rw [List.append_cons]
    refine ih hnext ?_
    rw [List.length_append, List.length_singleton, ← Nat.add_assoc]
    exact hrun

end SimulationState

/-! ## The result -/

namespace SimulationResult

variable (result : SimulationResult)

/-- The entry that is still open at the end. -/
def openEntry? : Option SimulatedEntry :=
  if result.openPosition then result.entries.getLast? else none

/-- The bars in which something is held. -/
def Holds (j : ℕ) : Prop :=
  (∃ t ∈ result.statistics.trades, t.entryBar ≤ j ∧ j ≤ t.exitBar)
    ∨ ∃ e, result.openEntry? = some e ∧ e.bar ≤ j

end SimulationResult

/-- **The mark-to-market factor** of an open entry: the move of the price, on the side
of the entry, and the fee that was paid. -/
def markFactor (policy : AlphaExecutionPolicy) (close : ℚ) (e : SimulatedEntry) : ℚ :=
  1 + e.direction.sign * (close - e.price) / e.price - policy.frictionPerSide

/-- **What the result of a simulation keeps**, over a series that ends at a close. -/
structure CapitalKept (policy : AlphaExecutionPolicy) (first : ℕ) (close : ℚ)
    (result : SimulationResult) : Prop where
  capital : compounded result.statistics.netReturns
    = compounded (result.statistics.trades.map (·.netReturn))
      * (result.openEntry?.map (markFactor policy close)).getD 1
  total : result.statistics.totalReturnPct
    = (compounded result.statistics.netReturns - 1) * 100
  flat : ∀ k r, result.statistics.netReturns[k]? = some r → ¬ result.Holds (first + k) → r = 0
  long_limit : ∀ e ∈ result.entries, e.direction = .long → e.price ≤ e.limit
  short_limit : ∀ e ∈ result.entries, e.direction = .short → e.limit ≤ e.price
  spans : ∀ t ∈ result.statistics.trades, t.entryBar ≤ t.exitBar
  ordered : result.statistics.trades.Pairwise (fun a b => a.exitBar ≤ b.entryBar)
  open_last : ∀ t ∈ result.statistics.trades, ∀ e, result.openEntry? = some e → t.exitBar ≤ e.bar

namespace SimulationState

variable {policy : AlphaExecutionPolicy} {s : SimulationState}

/-- **A held position** is worth what its entry was, times the factor of the mark. -/
theorem Held.marked {cash close : ℚ} {trades : List SimulatedTrade}
    {entries : List SimulatedEntry} {position : SimulatedPosition} {limit : ℚ}
    (h : Held policy cash trades entries position) :
    cash + position.direction.sign * position.quantity * close
      = position.entryEquity
        * markFactor policy close
          ⟨position.entryBar, position.entry, limit, position.direction⟩ := by
  have hquantity : position.quantity = position.entryEquity / position.entry := by
    rw [← h.funded, mul_div_cancel_right₀ _ h.entry_pos.ne']
  have hentry := h.entry_pos.ne'
  unfold markFactor
  rw [h.cash, h.fee, hquantity]
  field_simp
  ring

end SimulationState

/-- The curve compounds what came before. -/
theorem foldl_equity (equity : ℚ) (returns : List ℚ) :
    returns.foldl (fun equity r => equity * (1 + r)) equity = equity * compounded returns := by
  induction returns generalizing equity with
  | nil => exact (mul_one equity).symm
  | cons r returns ih =>
    rw [List.foldl_cons, ih, mul_assoc]
    rfl

/-- The last value of the equity curve. -/
theorem getLast?_equityCurve (returns : List ℚ) :
    (equityCurve returns).getLast?.getD 1 = compounded returns := by
  unfold equityCurve
  cases returns with
  | nil => rfl
  | cons r returns =>
    rw [List.scanl_cons, List.tail_cons, List.getLast?_scanl, foldl_equity, one_mul]
    rfl

/-- What a successful simulation is: the loop, and the statistics of its returns. -/
theorem simulateExecution_eq_ok {frame : List ExecutionBar} {intents : ℕ → Option BracketIntent}
    {policy : AlphaExecutionPolicy} {start : ℤ} {trace : Bool} {result : SimulationResult}
    (h : simulateExecution frame intents policy start trace = .ok result) :
    start.toNat < frame.length ∧ ∃ s,
      SimulationState.start.run policy intents start.toNat (frame.drop start.toNat) = .ok s
        ∧ result.statistics.netReturns = s.returns ∧ result.statistics.trades = s.trades
        ∧ result.statistics.totalReturnPct = ((equityCurve s.returns).getLast?.getD 1 - 1) * 100
        ∧ result.entries = s.entries ∧ result.openPosition = s.position.isSome := by
  unfold simulateExecution at h
  split at h
  case isTrue => cases h
  rename_i hinterval
  obtain ⟨s, hrun, h⟩ := Checks.except_bind_eq_ok.mp h
  obtain ⟨statistics, hstatistics, h⟩ := Checks.except_bind_eq_ok.mp h
  cases h
  unfold returnStatistics at hstatistics
  split_ifs at hstatistics with hindex
  cases hstatistics
  exact ⟨by omega, s, hrun, rfl, rfl, rfl, rfl, rfl⟩

/-- **The end of the loop** is what the result keeps. -/
theorem SimulationState.Inv.kept {policy : AlphaExecutionPolicy} {first : ℕ}
    {done : List ExecutionBar} {s : SimulationState} {result : SimulationResult}
    {last : ExecutionBar} (h : Inv policy first done s) (hlast : done.getLast? = some last)
    (hreturns : result.statistics.netReturns = s.returns)
    (htrades : result.statistics.trades = s.trades)
    (htotal : result.statistics.totalReturnPct
      = ((equityCurve s.returns).getLast?.getD 1 - 1) * 100)
    (hentries : result.entries = s.entries) (hopen : result.openPosition = s.position.isSome) :
    CapitalKept policy first last.close result := by
  have hflat : s.position = none → result.openEntry? = none := by
    intro hnone
    unfold SimulationResult.openEntry?
    rw [hopen, hnone]
    rfl
  have hheld : ∀ position, s.position = some position → ∃ limit, result.openEntry?
      = some ⟨position.entryBar, position.entry, limit, position.direction⟩ := by
    intro position hsome
    obtain ⟨limit, hlimit⟩ := (h.books.held position hsome).1.last
    refine ⟨limit, ?_⟩
    unfold SimulationResult.openEntry?
    rw [hopen, hsome, hentries]
    exact hlimit
  refine
    { capital := ?_
      total := by rw [htotal, getLast?_equityCurve, hreturns]
      flat := ?_
      long_limit := ?_
      short_limit := ?_
      spans := fun t ht => (h.books.spans t (htrades ▸ ht)).1
      ordered := htrades ▸ h.books.ordered.imp Nat.le_of_lt
      open_last := ?_ }
  · rw [hreturns, htrades, h.capital, h.marked last hlast]
    show s.marked last = tradeCapital s.trades * _
    cases hposition : s.position with
    | none =>
      rw [hflat hposition, marked_of_flat hposition, h.books.flat hposition]
      exact (mul_one _).symm
    | some position =>
      obtain ⟨limit, hentry⟩ := hheld position hposition
      have hbooks := (h.books.held position hposition).1
      rw [hentry, hbooks.capital]
      unfold SimulationState.marked
      rw [hposition]
      exact hbooks.marked
  · intro k r hr hnot
    rw [hreturns] at hr
    refine h.unheld k r hr (fun hcovered => hnot ?_)
    rcases hcovered with ⟨t, ht, hspan⟩ | ⟨position, hsome, hle⟩
    · exact .inl ⟨t, htrades ▸ ht, hspan⟩
    · obtain ⟨limit, hentry⟩ := hheld position hsome
      exact .inr ⟨_, hentry, hle⟩
  · intro e he hlong
    have hlimited := h.books.limited e (hentries ▸ he)
    rw [hlong, Direction.sign, if_pos rfl, one_mul, sub_nonpos] at hlimited
    exact hlimited
  · intro e he hshort
    have hlimited := h.books.limited e (hentries ▸ he)
    rw [hshort, Direction.sign, if_neg (by decide), neg_one_mul, neg_sub, sub_nonpos] at hlimited
    exact hlimited
  · intro t ht e he
    cases hposition : s.position with
    | none =>
      rw [hflat hposition] at he
      cases he
    | some position =>
      obtain ⟨limit, hentry⟩ := hheld position hposition
      rw [hentry] at he
      rw [← Option.some.inj he]
      exact ((h.books.held position hposition).1.later t (htrades ▸ ht)).le

/-- **The simulator neither creates nor loses capital.** Whenever it returns, the
returns of the bars compound to those of the trades, times the mark of what is still
open; a bar in which nothing is held returns nothing; no fill is beyond its limit; and
every trade ends before the next one starts. -/
theorem simulation_conserves_capital (frame : List ExecutionBar)
    (intents : ℕ → Option BracketIntent) (policy : AlphaExecutionPolicy) (start : ℤ) (trace : Bool)
    (result : SimulationResult)
    (h : simulateExecution frame intents policy start trace = .ok result) :
    ∃ last, frame.getLast? = some last ∧ CapitalKept policy start.toNat last.close result := by
  obtain ⟨hstart, s, hrun, hreturns, htrades, htotal, hentries, hopen⟩ := simulateExecution_eq_ok h
  have hne : frame.drop start.toNat ≠ [] := by
    rw [ne_eq, List.drop_eq_nil_iff, not_le]
    exact hstart
  have hlast : (frame.drop start.toNat).getLast? = some ((frame.drop start.toNat).getLast hne) :=
    List.getLast?_eq_some_getLast hne
  refine ⟨(frame.drop start.toNat).getLast hne, ?_, ?_⟩
  · rw [← hlast, List.getLast?_drop, if_neg (not_le.mpr hstart)]
  have hstart' : SimulationState.Inv policy start.toNat [] .start :=
    SimulationState.inv_start start.toNat
  exact (hstart'.run hrun).kept hlast hreturns htrades htotal hentries hopen

/-! ### A trade, and a position that stays open -/

/-- Four bars: the second fills a long entry, the third reaches its target, and the
fourth fills a short one. -/
def sampleExecutionBars : List ExecutionBar :=
  [ ⟨0, 201 / 2, 203 / 2, 199 / 2, 201 / 2, by norm_num, by norm_num, by norm_num, by norm_num,
      by norm_num⟩,
    ⟨1, 201 / 2, 203 / 2, 199 / 2, 201 / 2, by norm_num, by norm_num, by norm_num, by norm_num,
      by norm_num⟩,
    ⟨2, 203 / 2, 211 / 2, 201 / 2, 209 / 2, by norm_num, by norm_num, by norm_num, by norm_num,
      by norm_num⟩,
    ⟨3, 209 / 2, 211 / 2, 205 / 2, 207 / 2, by norm_num, by norm_num, by norm_num, by norm_num,
      by norm_num⟩ ]

def sampleIntents : ℕ → Option BracketIntent
  | 1 => some ⟨.long, 201 / 2, 197 / 2, 209 / 2, "0"⟩
  | 3 => some ⟨.short, 209 / 2, 213 / 2, 201 / 2, "2"⟩
  | _ => none

/-- Five hundredths of a percent a side, trailed after a gain of three halves of the risk. -/
def sampleExecutionPolicy : AlphaExecutionPolicy :=
  ⟨1 / 2000, 3 / 2, 5 / 4, none, none, by norm_num, by norm_num, by norm_num, by norm_num⟩

/-- **The four bars**: one trade is closed, one position is open, and the capital is
kept. -/
theorem simulation_conserves_capital_held : ∃ result,
    simulateExecution sampleExecutionBars sampleIntents sampleExecutionPolicy 0 false = .ok result
      ∧ result.openPosition = true ∧ result.statistics.trades.length = 1
      ∧ ∃ last, sampleExecutionBars.getLast? = some last
        ∧ CapitalKept sampleExecutionPolicy 0 last.close result := by
  have hrun : (simulateExecution sampleExecutionBars sampleIntents sampleExecutionPolicy 0
      false).toOption.any
        (fun result => result.openPosition && result.statistics.trades.length == 1) = true := by
    decide +kernel
  cases hresult : simulateExecution sampleExecutionBars sampleIntents sampleExecutionPolicy 0
      false with
  | error e =>
    rw [hresult] at hrun
    cases hrun
  | ok result =>
    rw [hresult] at hrun
    obtain ⟨hopen, hlength⟩ := Bool.and_eq_true_iff.mp hrun
    exact ⟨result, rfl, hopen, beq_iff_eq.mp hlength,
      simulation_conserves_capital _ _ _ 0 false result hresult⟩

end AgenticTrader
