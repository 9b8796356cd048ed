import AgenticTrader.Alpha.Strategy
import AgenticTrader.Storage.Positions

/-!
# Trailing stops

`manage_trailing_stops` (`agent/copilot.py`) looks at every open position, computes
a stop from the latest price and asks the broker for it; the stop that the broker
confirms is stored if it tightens the stored one (`update_position_stop`). A
position of an alpha is trailed by its policy. Any other is moved to break-even
once its gain is large enough, and then trailed a multiple of its initial risk
behind the price.

Neither the trail nor an alpha's stop can be at the market. The break-even stop can:
it is the entry plus a buffer of dollars, whatever the gain is. And a trail need
only be closer than the step, which the configuration may set below nothing.
`stop_requests_sound_iff` says when a requested stop is a tightening behind the
price. What is stored moves in one direction only, in every run.
-/

namespace AgenticTrader

/-- What is read of a `TrailingStopConfig`, whose numbers have no bounds. -/
structure TrailingStopConfig where
  enabled : Bool
  trailTriggerR : ℚ
  trailAtrMultiple : ℚ
  breakevenTriggerR : Option ℚ
  breakevenBufferDollars : ℚ
  trailStepTicks : ℤ

/-- What is read of a contract. -/
structure Instrument where
  ticker : String
  multiplier : ℚ
  tickSize : ℚ
  deriving DecidableEq

/-- The risk of one unit, as it is read back from a row. -/
def Instrument.unitRisk (info : Instrument) (position : Signal) : ℚ :=
  position.riskDollars / (info.multiplier * position.quantity)

inductive StopAdjustmentReason where
  | breakeven
  | trailingStop
  deriving DecidableEq, Repr

/-- The broker's answer to a replacement. -/
structure StopReply where
  success : Bool
  stopPrice : Option ℚ
  deriving DecidableEq

/-- **What one cycle works with.** A row's `alpha_policy` is an error where the
document does not deserialise. -/
structure TrailingDesk where
  config : TrailingStopConfig
  contracts : String → Option Instrument
  upper : String → String
  closingSymbols : List String
  authoritative : Bool
  alphaPolicy : SignalId → Except String (Option ExecutionPolicy)
  quote : String → Option ℚ
  modify : Signal → ℚ → StopReply

/-! ## The requested stop -/

namespace TrailingDesk

variable (desk : TrailingDesk) (position : Signal)

/-- The instrument of a position: an equity that is not configured has the default
one. -/
def instrument? : Option Instrument :=
  match desk.contracts position.contract with
  | some info => some info
  | none =>
    if position.assetClass = .equity then some ⟨position.contract, 1, 1 / 100⟩ else none

/-- A catalog bracket keeps its protection. -/
def trails : Bool :=
  match desk.alphaPolicy position.id with
  | .ok (some .apriori) => false
  | _ => true

/-- **What must hold before a stop is computed**: the instrument, the price and the
risk of one unit. -/
def ready? : Option (Instrument × ℚ × ℚ) := do
  if !desk.config.enabled then none
  else if desk.upper (stripSlashes position.contract) ∈ desk.closingSymbols then none
  else if desk.authoritative ∧ position.executedAt = none then none
  else if !desk.trails position then none
  else
    let info ← desk.instrument? position
    let current ← desk.quote info.ticker
    if current ≤ 0 then none
    else
      let risk := info.unitRisk position
      if risk ≤ 0 then none else some (info, current, risk)

end TrailingDesk

section Native

variable (config : TrailingStopConfig) (info : Instrument) (position : Signal) (current risk : ℚ)

/-- The gain in units of the initial risk. -/
def gainMultiple : ℚ := position.direction.sign * (current - position.entryPrice) / risk

/-- The break-even stop: a buffer beyond the entry. -/
def breakevenStop : ℚ :=
  position.entryPrice + position.direction.sign * config.breakevenBufferDollars / info.multiplier

/-- Whether the stop moves to break-even. -/
def breakevenMoves : Bool :=
  (config.breakevenTriggerR.any (fun trigger => trigger ≤ gainMultiple position current risk))
    && decide (Tighter position.direction (breakevenStop config info position) position.stopLoss)

/-- The stop before the trail is considered. -/
def breakevenTarget : ℚ :=
  if breakevenMoves config info position current risk then breakevenStop config info position
  else position.stopLoss

/-- The trail: at least one initial risk behind the price. -/
def trailStop : ℚ :=
  current - position.direction.sign * max risk (risk * config.trailAtrMultiple)

/-- Whether the stop moves to the trail. -/
def trailMoves : Bool :=
  config.trailTriggerR ≤ gainMultiple position current risk
    ∧ info.tickSize * config.trailStepTicks
      < position.direction.sign * (trailStop config position current risk
        - breakevenTarget config info position current risk)

/-- **The stop of a position without an alpha**, and why. -/
def nativeTarget : ℚ × StopAdjustmentReason :=
  if trailMoves config info position current risk then
    (trailStop config position current risk, .trailingStop)
  else
    (breakevenTarget config info position current risk,
      if breakevenMoves config info position current risk then .breakeven else .trailingStop)

end Native

/-- A replacement the broker is asked for. -/
structure StopRequest where
  orderId : Option String
  symbol : String
  newStop : ℚ
  reason : StopAdjustmentReason
  deriving DecidableEq

namespace TrailingDesk

variable (desk : TrailingDesk) (position : Signal)

/-- The stop that a position should have, and why: an alpha's policy overrides the
rest, and a document that does not deserialise ends the position's turn. -/
def target? (info : Instrument) (current risk : ℚ) : Option (ℚ × StopAdjustmentReason) :=
  match desk.alphaPolicy position.id with
  | .error _ => none
  | .ok (some policy) =>
    some (trailingPrice position.entryPrice current position.stopLoss risk position.direction
      policy, .trailingStop)
  | .ok none => some (nativeTarget desk.config info position current risk)

/-- **The request `manage_trailing_stops` makes for one position**, if it makes
one. -/
def stopRequest? : Option StopRequest := do
  let (info, current, risk) ← desk.ready? position
  let (target, reason) ← desk.target? position info current risk
  if target = position.stopLoss then none
  else some ⟨position.brokerOrderId, position.contract, target, reason⟩

/-- The stop that is stored after a request: the confirmed one, if the broker
accepted. -/
def confirmedStop? (request : StopRequest) : Option ℚ :=
  let reply := desk.modify position request.newStop
  if !reply.success || (desk.authoritative && reply.stopPrice.isNone) then none
  else some (reply.stopPrice.getD request.newStop)

/-- **One position of the cycle.** -/
def trailPosition (now : Time) (db : Db) : Db :=
  match (desk.stopRequest? position).bind (desk.confirmedStop? position) with
  | none => db
  | some newStop => (db.updatePositionStop now position.id newStop true).1

/-- **`manage_trailing_stops`.** -/
def manageTrailingStops (now : Time) (db : Db) (positions : List Signal) : Db :=
  positions.foldl (fun db position => desk.trailPosition position now db) db

end TrailingDesk

/-! ## Sound requests -/

/-- **A tightening on the protective side of the market.** -/
def SoundStop (position : Signal) (current newStop : ℚ) : Prop :=
  Tighter position.direction newStop position.stopLoss ∧ Behind position.direction newStop current

section Native

variable (config : TrailingStopConfig) (info : Instrument) (position : Signal) (current : ℚ)
  {risk : ℚ}

/-- **When the stop of a position without an alpha is sound**: where it moves to the
trail, the price is the trailing distance or more beyond the old stop, and where it
only moves to break-even, the gain is more than the buffer. -/
def NativeSafe (risk : ℚ) : Prop :=
  (trailMoves config info position current risk = true →
    max risk (risk * config.trailAtrMultiple)
      ≤ position.direction.sign * (current - position.stopLoss))
  ∧ (trailMoves config info position current risk = false →
    breakevenMoves config info position current risk = true →
      config.breakevenBufferDollars / info.multiplier
        < position.direction.sign * (current - position.entryPrice))

/-- The trail is behind the price. -/
theorem trailStop_behind (hrisk : 0 < risk) :
    Behind position.direction (trailStop config position current risk) current :=
  behind_of_distance position.direction (lt_of_lt_of_le hrisk (le_max_left _ _)) current

/-- The trail is the old stop or tighter when the price is the trailing distance or
more beyond that. -/
theorem trailStop_tighter :
    (trailStop config position current risk ≠ position.stopLoss →
        Tighter position.direction (trailStop config position current risk) position.stopLoss)
      ↔ max risk (risk * config.trailAtrMultiple)
        ≤ position.direction.sign * (current - position.stopLoss) := by
  have hsplit : position.direction.sign
        * (trailStop config position current risk - position.stopLoss)
      = position.direction.sign * (current - position.stopLoss)
        - max risk (risk * config.trailAtrMultiple) := by
    unfold trailStop
    rw [sub_right_comm, mul_sub, ← mul_assoc, Direction.sign_mul_self, one_mul]
  have hzero : trailStop config position current risk ≠ position.stopLoss
      ↔ position.direction.sign
        * (trailStop config position current risk - position.stopLoss) ≠ 0 := by
    rw [ne_eq, ne_eq, mul_eq_zero, sub_eq_zero, or_iff_right position.direction.sign_ne_zero]
  unfold Tighter
  rw [hzero, hsplit, ← sub_nonneg, le_iff_lt_or_eq, ne_comm, ne_eq, ← or_iff_not_imp_left, or_comm]

/-- The break-even stop is behind the price when the gain is more than the
buffer. -/
theorem breakevenStop_behind :
    Behind position.direction (breakevenStop config info position) current
      ↔ config.breakevenBufferDollars / info.multiplier
        < position.direction.sign * (current - position.entryPrice) := by
  have hsplit : position.direction.sign * (current - breakevenStop config info position)
      = position.direction.sign * (current - position.entryPrice)
        - config.breakevenBufferDollars / info.multiplier := by
    unfold breakevenStop
    rw [← sub_sub, mul_sub, mul_div_assoc, ← mul_assoc, Direction.sign_mul_self, one_mul]
  unfold Behind
  rw [hsplit, sub_pos]

/-- **The native stop**: a request for it is sound exactly under the condition. -/
theorem nativeTarget_sound_iff (hrisk : 0 < risk) :
    ((nativeTarget config info position current risk).1 ≠ position.stopLoss →
        SoundStop position current (nativeTarget config info position current risk).1)
      ↔ NativeSafe config info position current risk := by
  unfold nativeTarget NativeSafe
  cases htrail : trailMoves config info position current risk with
  | true =>
    simp only [if_true, Bool.true_eq_false, false_implies, and_true, true_implies]
    rw [← trailStop_tighter]
    exact ⟨fun h hne => (h hne).1,
      fun h hne => ⟨h hne, trailStop_behind config position current hrisk⟩⟩
  | false =>
    simp only [Bool.false_eq_true, if_false, false_implies, true_and, true_implies]
    unfold breakevenTarget
    cases hbreak : breakevenMoves config info position current risk with
    | true =>
      have htighter : Tighter position.direction (breakevenStop config info position)
          position.stopLoss := of_decide_eq_true (Bool.and_eq_true_iff.mp hbreak).2
      have hne : breakevenStop config info position ≠ position.stopLoss := by
        intro h
        rw [h] at htighter
        unfold Tighter at htighter
        rw [sub_self, mul_zero] at htighter
        exact lt_irrefl 0 htighter
      simp only [if_true, true_implies]
      rw [← breakevenStop_behind]
      exact ⟨fun h => (h hne).2, fun h _ => ⟨htighter, h⟩⟩
    | false => simp

end Native

namespace TrailingDesk

variable (desk : TrailingDesk) (position : Signal)

/-- **The market that is meant**: a price strictly on the profitable side of the old
stop. -/
def Profitable : Prop :=
  ∀ info current risk, desk.ready? position = some (info, current, risk) →
    Behind position.direction position.stopLoss current

/-- Every request for a position is sound. -/
def RequestsSound : Prop :=
  ∀ info current risk request, desk.ready? position = some (info, current, risk) →
    desk.stopRequest? position = some request → SoundStop position current request.newStop

/-- **When it is**: for a position without an alpha under `NativeSafe`, and for the
others always. -/
def TrailingSafe : Prop :=
  ∀ info current risk, desk.ready? position = some (info, current, risk) →
    desk.alphaPolicy position.id = .ok none → NativeSafe desk.config info position current risk

variable {desk position}

/-- A stop is computed from a risk only. -/
theorem risk_pos {info : Instrument} {current risk : ℚ}
    (h : desk.ready? position = some (info, current, risk)) : 0 < risk := by
  unfold ready? at h
  split_ifs at h with h₁ h₂ h₃ h₄
  obtain ⟨info', -, h⟩ := Option.bind_eq_some_iff.mp h
  obtain ⟨current', -, h⟩ := Option.bind_eq_some_iff.mp h
  dsimp only at h
  split_ifs at h with h₅ h₆
  simp only [Option.some.injEq, Prod.mk.injEq] at h
  rw [← h.2.2]
  exact not_le.mp h₆

/-- What a position's request asks for: its target, when that is another stop. -/
theorem stopRequest?_newStop {info : Instrument} {current risk newStop : ℚ}
    (h : desk.ready? position = some (info, current, risk)) :
    (∃ request, desk.stopRequest? position = some request ∧ request.newStop = newStop) ↔
      newStop ≠ position.stopLoss
        ∧ ∃ reason, desk.target? position info current risk = some (newStop, reason) := by
  unfold stopRequest?
  rw [h]
  show (∃ request : StopRequest,
    ((desk.target? position info current risk).bind fun (target, reason) =>
      if target = position.stopLoss then none
      else some (⟨position.brokerOrderId, position.contract, target, reason⟩ : StopRequest))
        = some request ∧ request.newStop = newStop) ↔ _
  constructor
  · rintro ⟨request, hrequest, rfl⟩
    obtain ⟨⟨target, reason⟩, htarget, hrequest⟩ := Option.bind_eq_some_iff.mp hrequest
    dsimp only at hrequest
    split_ifs at hrequest with hsame
    cases hrequest
    exact ⟨hsame, reason, htarget⟩
  · rintro ⟨hne, reason, htarget⟩
    refine ⟨⟨position.brokerOrderId, position.contract, newStop, reason⟩, ?_, rfl⟩
    rw [htarget, Option.bind_some]
    exact if_neg hne

/-- **The requests of a position** are sound exactly under the condition. -/
theorem requestsSound_iff : desk.RequestsSound position ↔ desk.TrailingSafe position := by
  have hnew : desk.RequestsSound position ↔ ∀ info current risk,
      desk.ready? position = some (info, current, risk) → ∀ newStop,
        (newStop ≠ position.stopLoss
          ∧ ∃ reason, desk.target? position info current risk = some (newStop, reason)) →
        SoundStop position current newStop := by
    constructor
    · intro h info current risk hready newStop hnew
      obtain ⟨request, hrequest, rfl⟩ := (stopRequest?_newStop hready).mpr hnew
      exact h info current risk request hready hrequest
    · intro h info current risk request hready hrequest
      exact h info current risk hready request.newStop
        ((stopRequest?_newStop hready).mp ⟨request, hrequest, rfl⟩)
  rw [hnew]
  unfold TrailingSafe
  refine forall_congr' fun info => forall_congr' fun current => forall_congr' fun risk =>
    imp_congr_right fun hready => ?_
  unfold target?
  cases hpolicy : desk.alphaPolicy position.id with
  | error e => simp
  | ok policy =>
    cases policy with
    | some policy =>
      simp only [Option.some.injEq, Prod.mk.injEq, Except.ok.injEq, reduceCtorEq, false_implies,
        iff_true]
      rintro newStop ⟨hne, reason, rfl, -⟩
      exact (trailingPrice_sound _ _ _ _ policy (risk_pos hready)).resolve_left hne
    | none =>
      rw [← nativeTarget_sound_iff desk.config info position current (risk_pos hready)]
      constructor
      · intro h _ hne
        exact h _ ⟨hne, _, rfl⟩
      · rintro h newStop ⟨hne, reason, htarget⟩
        have hfst := congrArg Prod.fst (Option.some.inj htarget)
        dsimp only at hfst
        subst hfst
        exact h rfl hne

end TrailingDesk

/-! ## The stored stop -/

/-- One call of the trailing manager: its desk, with the prices of that moment, and
the positions it was given. -/
structure TrailingCycle where
  desk : TrailingDesk
  now : Time
  positions : List Signal

/-- **A run**: cycle after cycle. -/
def runTrailing (db : Db) (cycles : List TrailingCycle) : Db :=
  cycles.foldl (fun db cycle => cycle.desk.manageTrailingStops cycle.now db cycle.positions) db

/-- A row whose stop was left or tightened. -/
def Ratcheted (before after : Signal) : Prop :=
  after.direction = before.direction
    ∧ (after.stopLoss = before.stopLoss
      ∨ Tighter before.direction after.stopLoss before.stopLoss)

theorem Ratcheted.refl (s : Signal) : Ratcheted s s := ⟨rfl, .inl rfl⟩

theorem Ratcheted.trans {a b c : Signal} (hab : Ratcheted a b) (hbc : Ratcheted b c) :
    Ratcheted a c := by
  refine ⟨hbc.1.trans hab.1, ?_⟩
  rcases hbc.2 with hbc' | hbc'
  · rw [hbc']
    exact hab.2
  · rw [hab.1] at hbc'
    rcases hab.2 with hab' | hab'
    · rw [← hab']
      exact .inr hbc'
    · refine .inr ?_
      unfold Tighter at hab' hbc' ⊢
      rw [← sub_add_sub_cancel c.stopLoss b.stopLoss a.stopLoss, mul_add]
      exact add_pos hbc' hab'

/-- Every row of the first is in the second, with its stop left or tightened. -/
def StopsRatcheted (before after : Db) : Prop :=
  ∀ id s, before.signal? id = some s → ∃ s', after.signal? id = some s' ∧ Ratcheted s s'

theorem StopsRatcheted.refl (db : Db) : StopsRatcheted db db :=
  fun _ s h => ⟨s, h, .refl s⟩

theorem StopsRatcheted.trans {a b c : Db} (hab : StopsRatcheted a b) (hbc : StopsRatcheted b c) :
    StopsRatcheted a c := by
  intro id s hs
  obtain ⟨s', hs', h⟩ := hab id s hs
  obtain ⟨s'', hs'', h'⟩ := hbc id s' hs'
  exact ⟨s'', hs'', h.trans h'⟩

/-- The guard of the statement is the direction of the ratchet. -/
theorem ratcheted_of_tightens {id : SignalId} {newStop : ℚ} {s : Signal}
    (h : Db.tightens id newStop s = true) : Ratcheted s { s with stopLoss := newStop } := by
  refine ⟨rfl, .inr ?_⟩
  unfold Db.tightens at h
  simp only [Bool.and_eq_true, Bool.or_eq_true, beq_iff_eq, decide_eq_true_eq] at h
  unfold Tighter Direction.sign
  rcases h.2 with ⟨hlong, hlt⟩ | ⟨hshort, hlt⟩
  · rw [if_pos hlong, one_mul, sub_pos]
    exact hlt
  · rw [hshort, if_neg (by decide), neg_one_mul, neg_sub, sub_pos]
    exact hlt

/-- An open row takes every stop that is tighter than its own. -/
theorem tightens_of_tighter {newStop : ℚ} {s : Signal} (hopen : s.status = .executed)
    (h : Tighter s.direction newStop s.stopLoss) : Db.tightens s.id newStop s = true := by
  unfold Tighter Direction.sign at h
  unfold Db.tightens
  rw [hopen]
  cases hdirection : s.direction with
  | long =>
    rw [hdirection, if_pos rfl, one_mul, sub_pos] at h
    simp [h]
  | short =>
    rw [hdirection, if_neg (by decide), neg_one_mul, neg_sub, sub_pos] at h
    simp [h]

/-- **One update**: the row takes the stop that its guard lets pass. -/
theorem updatePositionStop_signal? (db : Db) (now : Time) (id : SignalId) (newStop : ℚ)
    (notify : Bool) (id' : SignalId) :
    (db.updatePositionStop now id newStop notify).1.signal? id' = (db.signal? id').map (fun s =>
      if Db.tightens id newStop s then { s with stopLoss := newStop } else s) := by
  have hsignals : (db.updatePositionStop now id newStop notify).1.signals
      = Table.updateWhere (Db.tightens id newStop) (fun s => { s with stopLoss := newStop })
        db.signals := by
    unfold Db.updatePositionStop
    dsimp only
    split
    · exact Db.addNotification_signals ..
    · rfl
  unfold Db.signal?
  rw [hsignals, Table.find?_updateWhere (f := fun s : Signal => { s with stopLoss := newStop })
    (fun _ _ => rfl)]

theorem updatePositionStop_ratchets (db : Db) (now : Time) (id : SignalId) (newStop : ℚ)
    (notify : Bool) : StopsRatcheted db (db.updatePositionStop now id newStop notify).1 := by
  intro id' s hs
  rw [updatePositionStop_signal?, hs, Option.map_some]
  refine ⟨_, rfl, ?_⟩
  split
  · exact ratcheted_of_tightens ‹_›
  · exact .refl s

/-- **One cycle**: position after position. -/
theorem TrailingDesk.manageTrailingStops_ratchets (desk : TrailingDesk) (now : Time) (db : Db)
    (positions : List Signal) :
    StopsRatcheted db (desk.manageTrailingStops now db positions) := by
  unfold manageTrailingStops
  induction positions generalizing db with
  | nil => exact .refl db
  | cons position positions ih =>
    refine StopsRatcheted.trans ?_ (ih (desk.trailPosition position now db))
    unfold trailPosition
    split
    · exact .refl db
    · exact updatePositionStop_ratchets db now position.id _ true

/-- **A run.** -/
theorem runTrailing_ratchets (db : Db) (cycles : List TrailingCycle) :
    StopsRatcheted db (runTrailing db cycles) := by
  unfold runTrailing
  induction cycles generalizing db with
  | nil => exact .refl db
  | cons cycle cycles ih =>
    exact (cycle.desk.manageTrailingStops_ratchets cycle.now db cycle.positions).trans (ih _)

/-! ## When requests are sound -/

/-- **Requested stops.** At a price on the profitable side of the old stop, every
request for a position is a tightening behind the price exactly when the position has
an alpha, or a trail it moves to is no looser than the old stop and a break-even stop
it moves to is behind the price; and in every run the stored stops only tighten. -/
theorem stop_requests_sound_iff (desk : TrailingDesk) (position : Signal) (db : Db)
    (cycles : List TrailingCycle) :
    ((desk.Profitable position → desk.RequestsSound position)
      ↔ (desk.Profitable position → desk.TrailingSafe position))
    ∧ StopsRatcheted db (runTrailing db cycles) := by
  refine ⟨?_, runTrailing_ratchets db cycles⟩
  rw [TrailingDesk.requestsSound_iff]

/-- A desk that moves to break-even, ten dollars beyond the entry, after a gain of one
risk. -/
def bufferedDesk : TrailingDesk where
  config :=
    { enabled := true, trailTriggerR := 2, trailAtrMultiple := 1, breakevenTriggerR := some 1,
      breakevenBufferDollars := 10, trailStepTicks := 1 }
  contracts _ := none
  upper := id
  closingSymbols := []
  authoritative := false
  alphaPolicy _ := .ok none
  quote _ := some 102
  modify _ _ := ⟨true, none⟩

/-- A share bought at 100, with its stop at 98. -/
def boughtShare : Signal :=
  { id := 1, timestamp := 0, contract := "ACME", direction := .long, assetClass := .equity,
    entryPrice := 100, stopLoss := 98, takeProfit := 110, quantity := 1, riskDollars := 2,
    notionalValue := some 100, status := .executed, brokerOrderId := some "1",
    executedAt := some 0, brokerExitOrderId := none, lifetime := .ok none, reprices := none }

/-- At 102 the requested stop is 110, above the market. -/
theorem breakeven_stop_beyond_the_market :
    ¬ ∀ (desk : TrailingDesk) (position : Signal),
      desk.Profitable position → desk.RequestsSound position := by
  intro h
  have hready : bufferedDesk.ready? boughtShare = some (⟨"ACME", 1, 1 / 100⟩, 102, 2) := by
    decide +kernel
  have hrequest : bufferedDesk.stopRequest? boughtShare
      = some ⟨some "1", "ACME", 110, .breakeven⟩ := by
    decide +kernel
  have hprofit : bufferedDesk.Profitable boughtShare := by
    intro info current risk hready'
    rw [hready] at hready'
    cases hready'
    decide +kernel
  have hsound := h bufferedDesk boughtShare hprofit _ _ _ _ hready hrequest
  exact absurd hsound.2 (by decide +kernel)

end AgenticTrader
