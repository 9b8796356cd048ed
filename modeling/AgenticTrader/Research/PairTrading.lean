import Mathlib.Algebra.BigOperators.Field
import Mathlib.Algebra.BigOperators.Pi
import Mathlib.Algebra.Order.Field.Basic
import Mathlib.Data.List.Chain
import Mathlib.Tactic.LinearCombination
import Mathlib.Tactic.Ring

/-!
# The pair simulator

`simulate_pair` (`research/spread/trading.py`) trades the spread of two symbols over one
window. A signal at a close is filled at the next open that both symbols have, an open position
is marked at every close with the last prices there are, and the last session closes what is
still open.

An open or a close may be missing on any session, so a pending fill may wait and a mark may be
stale. What carries the accounting through is that the marks telescope: what a position has
been marked to so far is its gross return at its last prices (`PairPosition.gross`).

Prices are numbers of an ordered field. The logarithm is handed in, with nothing where
`np.log` is not finite.
-/

namespace AgenticTrader

/-! ## The fit, the rule, the prices -/

inductive PairExit where
  | reverted
  | stop
  | windowEnd
  deriving DecidableEq, Repr

inductive EntryRule where
  | threshold
  | crossing
  deriving DecidableEq, Repr

section

variable (K : Type) [Field K] [LinearOrder K]

/-- What the simulator reads of `PairFit`. -/
structure PairFit where
  y : String
  x : String
  sector : String
  alpha : K
  beta : K
  sigma : K

/-- **`TradingRule`**, with the order of its bands. -/
structure TradingRule where
  zEntry : K
  zExit : K
  zStop : K
  entry : EntryRule
  zEntryMax : Option K
  reenterAfterStop : Bool
  bands : 0 ≤ zExit ∧ zExit < zEntry ∧ zEntry < zStop
  maxBand : ∀ z ∈ zEntryMax, zEntry < z ∧ z ≤ zStop

/-- **The series of a window**, with nothing where a value is not finite. No bar opens at
zero. -/
structure PairSeries where
  size : ℕ
  closesY : ℕ → Option K
  closesX : ℕ → Option K
  opensY : ℕ → Option K
  opensX : ℕ → Option K
  opensY_ne_zero : ∀ t, ∀ price ∈ opensY t, price ≠ 0
  opensX_ne_zero : ∀ t, ∀ price ∈ opensX t, price ≠ 0

/-- **`Trade`.** -/
structure PairTrade where
  window : ℕ
  y : String
  x : String
  sector : String
  side : ℤ
  entryPos : ℕ
  exitPos : ℕ
  entryZ : K
  exitZ : Option K
  exitReason : PairExit
  grossReturn : K
  holdingSessions : ℕ
  beta : K

/-- `_Position`. -/
structure PairPosition where
  side : ℤ
  entryPos : ℕ
  entryZ : K
  entryY : K
  entryX : K
  lastY : K
  lastX : K

/-- **What the loop carries.** -/
structure PairLoop where
  position : Option (PairPosition K)
  pendingEntry : Option (ℤ × K)
  pendingExit : Option (PairExit × K)
  retired : Bool
  trades : List (PairTrade K)
  daily : ℕ → K
  turnover : ℕ → K

/-- **`PairSimulation`.** -/
structure PairSimulation where
  fit : PairFit K
  window : ℕ
  trades : List (PairTrade K)
  daily : ℕ → K
  turnover : ℕ → K

end

variable {K : Type} [Field K] [LinearOrder K]

/-- What the simulator is called with. -/
structure PairInput (K : Type) [Field K] [LinearOrder K] where
  fit : PairFit K
  series : PairSeries K
  rule : TradingRule K
  window : ℕ
  log : K → Option K

/-! ## The loop -/

def PairLoop.start : PairLoop K := ⟨none, none, none, false, [], 0, 0⟩

/-- `daily[t] += value`. -/
def PairLoop.addDaily (s : PairLoop K) (t : ℕ) (value : K) : PairLoop K :=
  { s with daily := Function.update s.daily t (s.daily t + value) }

/-- `turnover[t] += 1.0`. -/
def PairLoop.addTurnover (s : PairLoop K) (t : ℕ) : PairLoop K :=
  { s with turnover := Function.update s.turnover t (s.turnover t + 1) }

namespace PairInput

variable (c : PairInput K)

/-- `z[t]`, where it is finite. -/
def z (t : ℕ) : Option K := do
  let y ← c.log (← c.series.closesY t)
  let x ← c.log (← c.series.closesX t)
  if c.fit.sigma = 0 then none
  else some ((y - c.fit.alpha - c.fit.beta * x) / c.fit.sigma)

def wY : K := 1 / (1 + |c.fit.beta|)

def wX : K := |c.fit.beta| / (1 + |c.fit.beta|)

/-- `-math.copysign(1.0, fit.beta)`. -/
def xSign : K := if c.fit.beta < 0 then 1 else -1

/-- What a position has made at its last prices. -/
def gross (p : PairPosition K) : K :=
  p.side * c.wY * (p.lastY / p.entryY - 1) + p.side * c.xSign * c.wX * (p.lastX / p.entryX - 1)

/-- `mark(pos, price_y, price_x)`: the value, and the position with its new prices. -/
def mark (p : PairPosition K) (priceY priceX : K) : K × PairPosition K :=
  (p.side * c.wY * (priceY - p.lastY) / p.entryY
      + p.side * c.xSign * c.wX * (priceX - p.lastX) / p.entryX,
    { p with lastY := priceY, lastX := priceX })

/-- `close(pos, t, reason, exit_z)`; the caller drops the position. -/
def close (s : PairLoop K) (p : PairPosition K) (t : ℕ) (reason : PairExit) (exitZ : Option K) :
    PairLoop K :=
  let trade : PairTrade K :=
    { window := c.window, y := c.fit.y, x := c.fit.x, sector := c.fit.sector, side := p.side,
      entryPos := p.entryPos, exitPos := t, entryZ := p.entryZ, exitZ := exitZ,
      exitReason := reason, grossReturn := c.gross p, holdingSessions := t - p.entryPos,
      beta := c.fit.beta }
  { s.addTurnover t with trades := s.trades ++ [trade], position := none }

/-- Both opens of a session. -/
def opens? (t : ℕ) : Option (K × K) := do
  let y ← c.series.opensY t
  let x ← c.series.opensX t
  some (y, x)

/-- **1a. The pending exit**, at the open. -/
def fillExit (t : ℕ) (s : PairLoop K) : PairLoop K :=
  match s.position, s.pendingExit, c.opens? t with
  | some p, some (reason, signalZ), some (openY, openX) =>
    let marked := c.mark p openY openX
    { c.close (s.addDaily t marked.1) marked.2 t reason (some signalZ) with
      pendingExit := none
      retired := s.retired || (reason = .stop && !c.rule.reenterAfterStop) }
  | _, _, _ => s

/-- **1b. The pending entry**, at the open. -/
def fillEntry (t : ℕ) (s : PairLoop K) : PairLoop K :=
  match s.position, s.pendingEntry, c.opens? t with
  | none, some (side, signalZ), some (openY, openX) =>
    { s.addTurnover t with
      position := some ⟨side, t, signalZ, openY, openX, openY, openX⟩
      pendingEntry := none }
  | _, _, _ => s

/-- **2. The mark at the close**, with the last prices there are. -/
def markClose (t : ℕ) (s : PairLoop K) : PairLoop K :=
  match s.position with
  | some p =>
    let marked := c.mark p ((c.series.closesY t).getD p.lastY) ((c.series.closesX t).getD p.lastX)
    { s.addDaily t marked.1 with position := some marked.2 }
  | none => s

/-- **`_entry_allowed`.** -/
def entryAllowed (t : ℕ) (zt : K) : Bool :=
  if |zt| < c.rule.zEntry then false
  else if c.rule.zEntryMax.any (fun bound => bound ≤ |zt|) then false
  else if c.rule.entry = .crossing then
    1 ≤ t && (c.z (t - 1)).any (fun before => |before| < c.rule.zEntry)
  else true

def isLast (t : ℕ) : Bool := t + 1 = c.series.size

/-- **3. The signals at the close.** -/
def signal (t : ℕ) (s : PairLoop K) : PairLoop K :=
  match c.z t with
  | none => s
  | some zt =>
    if s.position.isSome && s.pendingExit.isNone then
      if |zt| ≤ c.rule.zExit then { s with pendingExit := some (.reverted, zt) }
      else if c.rule.zStop ≤ |zt| then { s with pendingExit := some (.stop, zt) }
      else s
    else if s.position.isNone && s.pendingEntry.isNone && !c.isLast t && !s.retired
        && c.entryAllowed t zt then
      { s with pendingEntry := some (if zt < 0 then 1 else -1, zt) }
    else s

/-- **4. The last session** closes what is open. -/
def closeOut (t : ℕ) (s : PairLoop K) : PairLoop K :=
  match s.position with
  | some p => if c.isLast t then c.close s p t .windowEnd (c.z t) else s
  | none => s

/-- One session. -/
def session (s : PairLoop K) (t : ℕ) : PairLoop K :=
  c.closeOut t (c.signal t (c.markClose t (c.fillEntry t (c.fillExit t s))))

/-- The loop after the sessions before `t`. -/
def after (t : ℕ) : PairLoop K := (List.range t).foldl c.session PairLoop.start

/-- **`simulate_pair`.** -/
def simulatePair : PairSimulation K :=
  let s := c.after c.series.size
  ⟨c.fit, c.window, s.trades, s.daily, s.turnover⟩

end PairInput

/-- **`trade_net_return`.** -/
def tradeNetReturn (trade : PairTrade K) (costBps : K) : K :=
  trade.grossReturn - 2 • costBps / (10000 : ℕ)

/-- **`net_daily`.** -/
def netDaily (simulation : PairSimulation K) (costBps : K) (t : ℕ) : K :=
  simulation.daily t - simulation.turnover t * costBps / (10000 : ℕ)

/-- **`lane_series`.** -/
def laneSeries (simulations : List (PairSimulation K)) (slots : ℕ) (costBps : K) (t : ℕ) : K :=
  (simulations.map (fun simulation => netDaily simulation costBps t)).sum / slots

/-! ## What a step does to the accounts -/

namespace PairInput

variable {c : PairInput K} {n t : ℕ} {s : PairLoop K}

omit [LinearOrder K] in
theorem sum_update (f : ℕ → K) (ht : t < n) (value : K) :
    ∑ i ∈ Finset.range n, Function.update f t (f t + value) i
      = (∑ i ∈ Finset.range n, f i) + value := by
  have hsplit : Function.update f t (f t + value) = f + Pi.single t value := by
    funext i
    by_cases hi : i = t
    · rw [hi, Function.update_self, Pi.add_apply, Pi.single_eq_same]
    · rw [Function.update_of_ne hi, Pi.add_apply, Pi.single_eq_of_ne hi, add_zero]
  rw [hsplit]
  simp only [Pi.add_apply]
  rw [Finset.sum_add_distrib, Finset.sum_pi_single', if_pos (Finset.mem_range.mpr ht)]

/-- **The marks telescope.** -/
theorem gross_mark (p : PairPosition K) (priceY priceX : K) :
    c.gross (c.mark p priceY priceX).2 = c.gross p + (c.mark p priceY priceX).1 := by
  unfold gross mark
  ring

/-- A position that was just opened has made nothing. -/
theorem gross_entry {side : ℤ} {signalZ openY openX : K} (h : c.opens? t = some (openY, openX)) :
    c.gross ⟨side, t, signalZ, openY, openX, openY, openX⟩ = 0 := by
  obtain ⟨y, hy, h⟩ := Option.bind_eq_some_iff.mp h
  obtain ⟨x, hx, h⟩ := Option.bind_eq_some_iff.mp h
  cases h
  unfold gross
  rw [div_self (c.series.opensY_ne_zero t _ hy), div_self (c.series.opensX_ne_zero t _ hx),
    sub_self, mul_zero, mul_zero, add_zero]

/-- **The accounts of a loop**, through session `t` of a window of `n`. -/
structure Sound (c : PairInput K) (n t : ℕ) (s : PairLoop K) : Prop where
  daily : ∑ i ∈ Finset.range n, s.daily i
    = (s.trades.map PairTrade.grossReturn).sum + s.position.elim 0 c.gross
  turnover : ∑ i ∈ Finset.range n, s.turnover i
    = 2 * s.trades.length + s.position.elim 0 (fun _ => 1)
  waiting : s.position.isSome = true → s.pendingEntry = none
  closed : ∀ trade ∈ s.trades, trade.entryPos ≤ trade.exitPos ∧ trade.exitPos ≤ t
  apart : s.trades.IsChain (fun a b => a.exitPos ≤ b.entryPos)
  opened : ∀ p ∈ s.position, p.entryPos ≤ t
    ∧ ∀ trade ∈ s.trades.getLast?, trade.exitPos ≤ p.entryPos

theorem Sound.mono (h : c.Sound n t s) {t' : ℕ} (ht : t ≤ t') : c.Sound n t' s :=
  { h with
    closed := fun trade htrade => ⟨(h.closed trade htrade).1, (h.closed trade htrade).2.trans ht⟩
    opened := fun p hp => ⟨(h.opened p hp).1.trans ht, (h.opened p hp).2⟩ }

/-- The mark of an open position. -/
theorem Sound.marked (h : c.Sound n t s) (ht : t < n) {p : PairPosition K}
    (hp : s.position = some p) (priceY priceX : K) :
    c.Sound n t { s.addDaily t (c.mark p priceY priceX).1 with
      position := some (c.mark p priceY priceX).2 } where
  daily := by
    have hdaily := h.daily
    rw [hp] at hdaily
    simp only [PairLoop.addDaily, sum_update s.daily ht, hdaily, Option.elim_some, gross_mark]
    ring
  turnover := by
    have hturnover := h.turnover
    rw [hp] at hturnover
    exact hturnover
  waiting := fun _ => h.waiting (by rw [hp]; rfl)
  closed := h.closed
  apart := h.apart
  opened := by
    intro p' hp'
    cases hp'
    exact h.opened p hp

/-- The close of a position. -/
theorem Sound.close (h : c.Sound n t s) (ht : t < n) {p : PairPosition K} (hp : s.position = some p)
    (reason : PairExit) (exitZ : Option K) (pendingExit : Option (PairExit × K)) (retired : Bool) :
    c.Sound n t
      { c.close s p t reason exitZ with pendingExit := pendingExit, retired := retired } where
  daily := by
    have hdaily := h.daily
    rw [hp] at hdaily
    simp only [PairInput.close, PairLoop.addTurnover, hdaily, List.map_append, List.map_singleton,
      List.sum_append, List.sum_singleton, Option.elim_some, Option.elim_none, add_zero]
  turnover := by
    have hturnover := h.turnover
    rw [hp] at hturnover
    simp only [PairInput.close, PairLoop.addTurnover, sum_update s.turnover ht, hturnover,
      List.length_append, List.length_singleton, Option.elim_some, Option.elim_none, Nat.cast_add,
      Nat.cast_one]
    ring
  waiting := fun hsome => nomatch hsome
  closed := by
    intro trade htrade
    rcases List.mem_append.mp htrade with htrade | htrade
    · exact h.closed trade htrade
    · rw [List.mem_singleton.mp htrade]
      exact ⟨(h.opened p hp).1, le_rfl⟩
  apart := by
    refine h.apart.append (List.isChain_singleton _) ?_
    intro last hlast trade htrade
    cases htrade
    exact (h.opened p hp).2 last hlast
  opened := fun p' hp' => nomatch hp'

theorem Sound.fillExit (h : c.Sound n t s) (ht : t < n) : c.Sound n t (c.fillExit t s) := by
  unfold PairInput.fillExit
  split
  · next p reason signalZ openY openX hp _ _ =>
    exact (h.marked ht hp openY openX).close ht rfl reason _ _ _
  · exact h

theorem Sound.fillEntry (h : c.Sound n t s) (ht : t < n) : c.Sound n t (c.fillEntry t s) := by
  unfold PairInput.fillEntry
  split
  · next side signalZ openY openX hp hentry hopens =>
    have hdaily := h.daily
    have hturnover := h.turnover
    rw [hp] at hdaily hturnover
    refine ⟨?_, ?_, fun _ => rfl, h.closed, h.apart, ?_⟩
    · simp only [PairLoop.addTurnover, Option.elim_some, gross_entry hopens]
      exact hdaily
    · simp only [PairLoop.addTurnover, sum_update s.turnover ht, hturnover, Option.elim_some,
        Option.elim_none, add_zero]
    · intro p' hp'
      cases hp'
      exact ⟨le_rfl, fun trade htrade => (h.closed trade (List.mem_of_getLast? htrade)).2⟩
  · exact h

theorem Sound.markClose (h : c.Sound n t s) (ht : t < n) : c.Sound n t (c.markClose t s) := by
  unfold PairInput.markClose
  split
  · next p hp => exact h.marked ht hp _ _
  · exact h

/-- A signal moves no account. -/
theorem Sound.signal (h : c.Sound n t s) : c.Sound n t (c.signal t s) := by
  unfold PairInput.signal
  split
  · exact h
  · next zt _ =>
    split
    · split_ifs
      · exact ⟨h.daily, h.turnover, h.waiting, h.closed, h.apart, h.opened⟩
      · exact ⟨h.daily, h.turnover, h.waiting, h.closed, h.apart, h.opened⟩
      · exact h
    · split
      · next hentry =>
        refine ⟨h.daily, h.turnover, fun hsome => ?_, h.closed, h.apart, h.opened⟩
        simp only [Bool.and_eq_true, Option.isNone_iff_eq_none] at hentry
        rw [hentry.1.1.1.1] at hsome
        cases hsome
      · exact h

theorem Sound.closeOut (h : c.Sound n t s) (ht : t < n) : c.Sound n t (c.closeOut t s) := by
  unfold PairInput.closeOut
  split
  · next p hp =>
    split_ifs
    · exact h.close ht hp .windowEnd (c.z t) s.pendingExit s.retired
    · exact h
  · exact h

/-- **A session keeps the accounts.** -/
theorem Sound.session (h : c.Sound n t s) (ht : t < n) : c.Sound n t (c.session s t) :=
  ((((h.fillExit ht).fillEntry ht).markClose ht).signal).closeOut ht

theorem after_succ (t : ℕ) : c.after (t + 1) = c.session (c.after t) t := by
  unfold after
  rw [List.range_succ, List.foldl_append, List.foldl_cons, List.foldl_nil]

theorem sound_start : c.Sound n 0 PairLoop.start where
  daily := by simp [PairLoop.start]
  turnover := by simp [PairLoop.start]
  waiting := fun hsome => nomatch hsome
  closed := fun _ htrade => absurd htrade List.not_mem_nil
  apart := List.isChain_nil
  opened := fun _ hp => nomatch hp

/-- **Every run keeps the accounts.** -/
theorem sound_after (ht : t ≤ n) : c.Sound n (t - 1) (c.after t) := by
  induction t with
  | zero => exact sound_start
  | succ t ih =>
    rw [after_succ]
    exact ((ih (Nat.le_of_succ_le ht)).mono (Nat.sub_le t 1)).session ht

/-- **Nothing is open at the end.** -/
theorem position_session (hlast : c.isLast t = true) : (c.session s t).position = none := by
  unfold session closeOut
  split
  · rw [if_pos hlast]
    rfl
  · next h => exact h

theorem position_after : (c.after c.series.size).position = none := by
  cases hsize : c.series.size with
  | zero => rfl
  | succ t =>
    rw [after_succ]
    exact position_session (decide_eq_true hsize.symm)

/-! ## What a session has seen -/

/-- The entry of a trade. -/
def entryOf (trade : PairTrade K) : ℕ × ℤ × K := (trade.entryPos, trade.side, trade.entryZ)

/-- **The entries so far**, of the trades and of what is open. -/
def entries (s : PairLoop K) : List (ℕ × ℤ × K) :=
  s.trades.map entryOf ++ (s.position.map (fun p => (p.entryPos, p.side, p.entryZ))).toList

/-- **A session writes its own row only**: it adds exits and entries of its own and changes the
daily values of no other session. -/
structure Extends (t : ℕ) (s s' : PairLoop K) : Prop where
  exits : ∃ later, s'.trades = s.trades ++ later ∧ ∀ trade ∈ later, trade.exitPos = t
  entered : ∃ later, entries s' = entries s ++ later ∧ ∀ entry ∈ later, entry.1 = t
  daily : ∀ i ≠ t, s'.daily i = s.daily i
  turnover : ∀ i ≠ t, s'.turnover i = s.turnover i

omit [Field K] [LinearOrder K] in
protected theorem Extends.refl (t : ℕ) (s : PairLoop K) : Extends t s s where
  exits := ⟨[], (List.append_nil _).symm, fun _ h => absurd h List.not_mem_nil⟩
  entered := ⟨[], (List.append_nil _).symm, fun _ h => absurd h List.not_mem_nil⟩
  daily := fun _ _ => rfl
  turnover := fun _ _ => rfl

omit [Field K] [LinearOrder K] in
protected theorem Extends.trans {s' s'' : PairLoop K} (h : Extends t s s') (h' : Extends t s' s'') :
    Extends t s s'' where
  exits := by
    obtain ⟨later, heq, hlater⟩ := h.exits
    obtain ⟨later', heq', hlater'⟩ := h'.exits
    refine ⟨later ++ later', by rw [heq', heq, List.append_assoc], fun trade htrade => ?_⟩
    rcases List.mem_append.mp htrade with htrade | htrade
    · exact hlater trade htrade
    · exact hlater' trade htrade
  entered := by
    obtain ⟨later, heq, hlater⟩ := h.entered
    obtain ⟨later', heq', hlater'⟩ := h'.entered
    refine ⟨later ++ later', by rw [heq', heq, List.append_assoc], fun entry hentry => ?_⟩
    rcases List.mem_append.mp hentry with hentry | hentry
    · exact hlater entry hentry
    · exact hlater' entry hentry
  daily := fun i hi => (h'.daily i hi).trans (h.daily i hi)
  turnover := fun i hi => (h'.turnover i hi).trans (h.turnover i hi)

omit [Field K] [LinearOrder K] in
/-- Where nothing is filled. -/
theorem Extends.of_accounts {s' : PairLoop K} (htrades : s'.trades = s.trades)
    (hentries : entries s' = entries s) (hdaily : ∀ i ≠ t, s'.daily i = s.daily i)
    (hturnover : s'.turnover = s.turnover) : Extends t s s' where
  exits := ⟨[], by rw [htrades, List.append_nil], fun _ h => absurd h List.not_mem_nil⟩
  entered := ⟨[], by rw [hentries, List.append_nil], fun _ h => absurd h List.not_mem_nil⟩
  daily := hdaily
  turnover := fun i _ => by rw [hturnover]

/-- The mark of an open position. -/
theorem extends_marked {p : PairPosition K} (hp : s.position = some p) (priceY priceX : K) :
    Extends t s { s.addDaily t (c.mark p priceY priceX).1 with
      position := some (c.mark p priceY priceX).2 } := by
  refine .of_accounts rfl ?_ (fun i hi => Function.update_of_ne hi _ _) rfl
  simp only [entries, hp]
  rfl

/-- The close of a position: its entry moves from what is open to the trades. -/
theorem extends_close {p : PairPosition K} (hp : s.position = some p) (reason : PairExit)
    (exitZ : Option K) (pendingExit : Option (PairExit × K)) (retired : Bool) :
    Extends t s
      { c.close s p t reason exitZ with pendingExit := pendingExit, retired := retired } where
  exits := by
    refine ⟨[_], rfl, fun trade htrade => ?_⟩
    rw [List.mem_singleton.mp htrade]
  entered := by
    refine ⟨[], ?_, fun _ h => absurd h List.not_mem_nil⟩
    simp only [entries, close, hp, List.map_append, List.append_nil, Option.map_none,
      Option.toList_none]
    rfl
  daily := fun _ _ => rfl
  turnover := fun i hi => Function.update_of_ne hi _ _

/-- **A session writes its own row only.** -/
theorem extends_session (c : PairInput K) (s : PairLoop K) (t : ℕ) :
    Extends t s (c.session s t) := by
  have hexit : Extends t s (c.fillExit t s) := by
    unfold fillExit
    split
    · next p reason signalZ openY openX hp _ _ =>
      exact (extends_marked hp openY openX).trans (extends_close rfl reason _ _ _)
    · exact .refl t s
  have hentry : ∀ s : PairLoop K, Extends t s (c.fillEntry t s) := by
    intro s
    unfold fillEntry
    split
    · next side signalZ openY openX hp _ _ =>
      refine ⟨⟨[], (List.append_nil _).symm, fun _ h => absurd h List.not_mem_nil⟩, ?_,
        fun _ _ => rfl, fun i hi => Function.update_of_ne hi _ _⟩
      refine ⟨[(t, side, signalZ)], ?_, fun entry hentry => by rw [List.mem_singleton.mp hentry]⟩
      simp only [entries, hp]
      rw [Option.map_none, Option.toList_none, List.append_nil]
      rfl
    · exact .refl t s
  have hmark : ∀ s : PairLoop K, Extends t s (c.markClose t s) := by
    intro s
    unfold markClose
    split
    · next p hp => exact extends_marked hp _ _
    · exact .refl t s
  have hsignal : ∀ s : PairLoop K, Extends t s (c.signal t s) := by
    intro s
    unfold signal
    split
    · exact .refl t s
    · split_ifs <;> exact .of_accounts rfl rfl (fun _ _ => rfl) rfl
  have hclose : ∀ s : PairLoop K, Extends t s (c.closeOut t s) := by
    intro s
    unfold closeOut
    split
    · next p hp =>
      split_ifs
      · exact extends_close hp .windowEnd (c.z t) s.pendingExit s.retired
      · exact .refl t s
    · exact .refl t s
  exact (((hexit.trans (hentry _)).trans (hmark _)).trans (hsignal _)).trans (hclose _)

/-- **The rows before a session stay.** -/
theorem after_extends {t' : ℕ} (ht : t ≤ t') :
    (∃ later, (c.after t').trades = (c.after t).trades ++ later
      ∧ ∀ trade ∈ later, t ≤ trade.exitPos)
      ∧ (∃ later, entries (c.after t') = entries (c.after t) ++ later
        ∧ ∀ entry ∈ later, t ≤ entry.1)
      ∧ ∀ i < t, (c.after t').daily i = (c.after t).daily i
        ∧ (c.after t').turnover i = (c.after t).turnover i := by
  induction t', ht using Nat.le_induction with
  | base =>
    exact ⟨⟨[], (List.append_nil _).symm, fun _ h => absurd h List.not_mem_nil⟩,
      ⟨[], (List.append_nil _).symm, fun _ h => absurd h List.not_mem_nil⟩, fun _ _ => ⟨rfl, rfl⟩⟩
  | succ t' ht ih =>
    have hstep := extends_session c (c.after t') t'
    rw [← after_succ] at hstep
    obtain ⟨⟨exits, hexits, hexits'⟩, ⟨entered, hentered, hentered'⟩, hrows⟩ := ih
    obtain ⟨exits₁, hexits₁, hexits₁'⟩ := hstep.exits
    obtain ⟨entered₁, hentered₁, hentered₁'⟩ := hstep.entered
    refine ⟨⟨exits ++ exits₁, by rw [hexits₁, hexits, List.append_assoc], fun trade htrade => ?_⟩,
      ⟨entered ++ entered₁, by rw [hentered₁, hentered, List.append_assoc], fun entry hentry => ?_⟩,
      fun i hi => ?_⟩
    · rcases List.mem_append.mp htrade with htrade | htrade
      · exact hexits' trade htrade
      · exact ht.trans_eq (hexits₁' trade htrade).symm
    · rcases List.mem_append.mp hentry with hentry | hentry
      · exact hentered' entry hentry
      · exact ht.trans_eq (hentered₁' entry hentry).symm
    · have hne : i ≠ t' := (hi.trans_le ht).ne
      exact ⟨(hstep.daily i hne).trans (hrows i hi).1, (hstep.turnover i hne).trans (hrows i hi).2⟩

/-- What the loop has done before a session is dated before it. -/
theorem before_after (t : ℕ) :
    (∀ trade ∈ (c.after t).trades, trade.exitPos < t)
      ∧ ∀ entry ∈ entries (c.after t), entry.1 < t := by
  induction t with
  | zero => exact ⟨fun _ h => absurd h List.not_mem_nil, fun _ h => absurd h List.not_mem_nil⟩
  | succ t ih =>
    have hstep := extends_session c (c.after t) t
    rw [← after_succ] at hstep
    obtain ⟨exits, hexits, hexits'⟩ := hstep.exits
    obtain ⟨entered, hentered, hentered'⟩ := hstep.entered
    refine ⟨fun trade htrade => ?_, fun entry hentry => ?_⟩
    · rw [hexits] at htrade
      rcases List.mem_append.mp htrade with htrade | htrade
      · exact Nat.lt_succ_of_lt (ih.1 trade htrade)
      · exact Nat.lt_succ_of_le (hexits' trade htrade).le
    · rw [hentered] at hentry
      rcases List.mem_append.mp hentry with hentry | hentry
      · exact Nat.lt_succ_of_lt (ih.2 entry hentry)
      · exact Nat.lt_succ_of_le (hentered' entry hentry).le

/-- Of a list that was extended, what is dated before is what was there. -/
theorem filter_extended {α : Type} {l l' later : List α} {date : α → ℕ} (heq : l' = l ++ later)
    (hbefore : ∀ a ∈ l, date a < t) (hlater : ∀ a ∈ later, t ≤ date a) :
    l'.filter (fun a => date a < t) = l := by
  rw [heq, List.filter_append, List.filter_eq_self.mpr (fun a ha => decide_eq_true (hbefore a ha)),
    List.filter_eq_nil_iff.mpr, List.append_nil]
  exact fun a ha => by simpa using hlater a ha

theorem filter_trades {t' : ℕ} (ht : t ≤ t') :
    (c.after t').trades.filter (fun trade => trade.exitPos < t) = (c.after t).trades := by
  obtain ⟨⟨later, heq, hlater⟩, -, -⟩ := after_extends (c := c) ht
  exact filter_extended heq (before_after t).1 hlater

theorem filter_entries {t' : ℕ} (ht : t ≤ t') :
    (entries (c.after t')).filter (fun entry => entry.1 < t) = entries (c.after t) := by
  obtain ⟨-, ⟨later, heq, hlater⟩, -⟩ := after_extends (c := c) ht
  exact filter_extended heq (before_after t).2 hlater

/-- **Two windows are the same before a session.** -/
structure SameBefore (c c' : PairInput K) (t : ℕ) : Prop where
  fit : c.fit = c'.fit
  rule : c.rule = c'.rule
  window : c.window = c'.window
  log : c.log = c'.log
  closesY : ∀ i < t, c.series.closesY i = c'.series.closesY i
  closesX : ∀ i < t, c.series.closesX i = c'.series.closesX i
  opensY : ∀ i < t, c.series.opensY i = c'.series.opensY i
  opensX : ∀ i < t, c.series.opensX i = c'.series.opensX i
  last : (t < c.series.size ∧ t < c'.series.size) ∨ c.series.size = c'.series.size

variable {c' : PairInput K}

theorem SameBefore.z_eq (h : SameBefore c c' t) {i : ℕ} (hi : i < t) : c.z i = c'.z i := by
  unfold z
  rw [h.closesY i hi, h.closesX i hi, h.log, h.fit]

theorem SameBefore.isLast_eq (h : SameBefore c c' t) {i : ℕ} (hi : i < t) :
    c.isLast i = c'.isLast i := by
  unfold isLast
  rcases h.last with ⟨hc, hc'⟩ | hsize
  · rw [decide_eq_false (by omega), decide_eq_false (by omega)]
  · rw [hsize]

theorem SameBefore.session_eq (h : SameBefore c c' t) {i : ℕ} (hi : i < t) (s : PairLoop K) :
    c.session s i = c'.session s i := by
  have hz := h.z_eq hi
  have hgross : c.gross = c'.gross := by
    funext p
    unfold gross wY wX xSign
    rw [h.fit]
  have hmark : c.mark = c'.mark := by
    funext p priceY priceX
    unfold mark wY wX xSign
    rw [h.fit]
  have hclose : c.close = c'.close := by
    funext s p t reason exitZ
    unfold close
    rw [h.window, h.fit, hgross]
  have hopens : c.opens? i = c'.opens? i := by
    unfold opens?
    rw [h.opensY i hi, h.opensX i hi]
  have hentry : c.entryAllowed i = c'.entryAllowed i := by
    funext zt
    unfold entryAllowed
    rw [h.rule, h.z_eq (i.sub_le 1 |>.trans_lt hi)]
  have hexit : c.fillExit i = c'.fillExit i := by
    funext s
    unfold fillExit
    rw [hopens, hmark, hclose, h.rule]
  have hfill : c.fillEntry i = c'.fillEntry i := by
    funext s
    unfold fillEntry
    rw [hopens]
  have hmarkClose : c.markClose i = c'.markClose i := by
    funext s
    unfold markClose
    rw [h.closesY i hi, h.closesX i hi, hmark]
  have hsignal : c.signal i = c'.signal i := by
    funext s
    unfold signal
    rw [hz, h.rule, h.isLast_eq hi, hentry]
  have hcloseOut : c.closeOut i = c'.closeOut i := by
    funext s
    unfold closeOut
    rw [h.isLast_eq hi, hclose, hz]
  unfold session
  rw [hexit, hfill, hmarkClose, hsignal, hcloseOut]

/-- **The loop has not seen what comes later.** -/
theorem SameBefore.after_eq (h : SameBefore c c' t) : c.after t = c'.after t := by
  unfold after
  exact List.foldl_ext _ _ _ (fun s i hi => h.session_eq (List.mem_range.mp hi) s)

/-! ## The simulation -/

theorem entries_simulatePair :
    entries (c.after c.series.size) = c.simulatePair.trades.map entryOf := by
  unfold entries
  rw [position_after]
  exact List.append_nil _

/-- **The net values of the sessions are those of the trades**, at every cost. -/
theorem sum_netDaily (c : PairInput K) (costBps : K) :
    ∑ t ∈ Finset.range c.series.size, netDaily c.simulatePair costBps t
      = (c.simulatePair.trades.map (fun trade => tradeNetReturn trade costBps)).sum := by
  have hsound : c.Sound c.series.size (c.series.size - 1) (c.after c.series.size) :=
    sound_after le_rfl
  have hdaily := hsound.daily
  have hturnover := hsound.turnover
  rw [position_after, Option.elim_none, add_zero] at hdaily hturnover
  have htrades : ∀ trades : List (PairTrade K),
      (trades.map (fun trade => tradeNetReturn trade costBps)).sum
        = (trades.map PairTrade.grossReturn).sum - trades.length * (2 • costBps / (10000 : ℕ)) := by
    intro trades
    induction trades with
    | nil => simp
    | cons trade trades ih =>
      rw [List.map_cons, List.sum_cons, ih, List.map_cons, List.sum_cons, List.length_cons]
      unfold tradeNetReturn
      push_cast
      ring
  unfold netDaily
  simp only [mul_div_assoc]
  rw [Finset.sum_sub_distrib, ← Finset.sum_mul, htrades]
  show (∑ i ∈ Finset.range c.series.size, (c.after c.series.size).daily i)
      - (∑ i ∈ Finset.range c.series.size, (c.after c.series.size).turnover i)
        * (costBps / (10000 : ℕ))
    = ((c.after c.series.size).trades.map PairTrade.grossReturn).sum
      - (c.after c.series.size).trades.length * (2 • costBps / (10000 : ℕ))
  rw [hdaily, hturnover, two_nsmul]
  ring

/-- **The daily values are the trades.** For every fit, rule and series, with values missing
anywhere: what was opened is closed by the last session, one trade after the other; the daily
values add up to the gross returns of the trades, the turnover to two for each, and the net
values to the net returns at every cost. And the values, the exits and the entries before a
session are the same in two windows whose prices are the same before it, unless one of them
ends there. -/
theorem daily_values_are_trades (c : PairInput K) :
    (c.after c.series.size).position = none
    ∧ (∀ trade ∈ c.simulatePair.trades,
      trade.entryPos ≤ trade.exitPos ∧ trade.exitPos < c.series.size)
    ∧ c.simulatePair.trades.IsChain (fun a b => a.exitPos ≤ b.entryPos)
    ∧ ∑ t ∈ Finset.range c.series.size, c.simulatePair.daily t
      = (c.simulatePair.trades.map PairTrade.grossReturn).sum
    ∧ ∑ t ∈ Finset.range c.series.size, c.simulatePair.turnover t
      = 2 * c.simulatePair.trades.length
    ∧ (∀ costBps : K, ∑ t ∈ Finset.range c.series.size, netDaily c.simulatePair costBps t
      = (c.simulatePair.trades.map (fun trade => tradeNetReturn trade costBps)).sum)
    ∧ ∀ (c' : PairInput K) (t : ℕ), t ≤ c.series.size → t ≤ c'.series.size → SameBefore c c' t →
      (∀ i < t, c.simulatePair.daily i = c'.simulatePair.daily i
        ∧ c.simulatePair.turnover i = c'.simulatePair.turnover i)
      ∧ c.simulatePair.trades.filter (fun trade => trade.exitPos < t)
        = c'.simulatePair.trades.filter (fun trade => trade.exitPos < t)
      ∧ (c.simulatePair.trades.map entryOf).filter (fun entry => entry.1 < t)
        = (c'.simulatePair.trades.map entryOf).filter (fun entry => entry.1 < t) := by
  have hsound : c.Sound c.series.size (c.series.size - 1) (c.after c.series.size) :=
    sound_after le_rfl
  have hdaily := hsound.daily
  have hturnover := hsound.turnover
  rw [position_after, Option.elim_none, add_zero] at hdaily hturnover
  refine ⟨position_after, ?_, hsound.apart, hdaily, hturnover, c.sum_netDaily, ?_⟩
  · exact fun trade htrade => ⟨(hsound.closed trade htrade).1, (before_after _).1 trade htrade⟩
  · intro c' t ht ht' hsame
    refine ⟨fun i hi => ?_, ?_, ?_⟩
    · obtain ⟨-, -, hrows⟩ := after_extends (c := c) ht
      obtain ⟨-, -, hrows'⟩ := after_extends (c := c') ht'
      have hafter := hsame.after_eq
      exact ⟨((hrows i hi).1.trans (by rw [hafter])).trans (hrows' i hi).1.symm,
        ((hrows i hi).2.trans (by rw [hafter])).trans (hrows' i hi).2.symm⟩
    · have htrades : c.simulatePair.trades.filter (fun trade => trade.exitPos < t)
          = (c.after t).trades := filter_trades ht
      have htrades' : c'.simulatePair.trades.filter (fun trade => trade.exitPos < t)
          = (c'.after t).trades := filter_trades ht'
      rw [htrades, htrades', hsame.after_eq]
    · rw [← entries_simulatePair, ← entries_simulatePair, filter_entries ht, filter_entries ht',
        hsame.after_eq]

end PairInput

/-- **The total of a lane**: what the trades of its pairs made, shared among the slots. -/
theorem sum_laneSeries (pairs : List (PairInput K)) (slots : ℕ) (costBps : K) {length : ℕ}
    (hlength : ∀ c ∈ pairs, c.series.size = length) :
    ∑ t ∈ Finset.range length, laneSeries (pairs.map PairInput.simulatePair) slots costBps t
      = (pairs.map (fun c => (c.simulatePair.trades.map
        (fun trade => tradeNetReturn trade costBps)).sum)).sum / slots := by
  unfold laneSeries
  rw [← Finset.sum_div]
  congr 1
  induction pairs with
  | nil => simp
  | cons c pairs ih =>
    have htotal := c.sum_netDaily costBps
    rw [hlength c List.mem_cons_self] at htotal
    simp only [List.map_cons, List.sum_cons, Finset.sum_add_distrib, htotal,
      ih (fun c' hc' => hlength c' (List.mem_cons_of_mem _ hc'))]

end AgenticTrader
