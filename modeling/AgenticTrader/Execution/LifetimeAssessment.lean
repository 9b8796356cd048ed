import AgenticTrader.Execution.LifetimePolicy

/-!
# The lifetime assessment

`assess_lifetime` (`execution/lifetimes.py`) decides from one observation of an
entry's order whether the entry is to be cancelled, the position to be closed,
or an operator to look at it. Cancelling needs an order that is exactly the
entry's, wholly unfilled and working, with its resting deadline over; closing
needs one that is completely filled, with its holding deadline over
(`lifetime_actions_need_evidence`). Time only adds to that evidence, so either
action is asked for at every later time too.

`none` is an exception: a time without a zone, or a quantity that is not a
decimal.
-/

namespace AgenticTrader

inductive LifetimeAction where
  | none
  | cancelEntry
  | closePosition
  | review
  deriving DecidableEq, Repr

/-- **`LifetimeDecision`.** -/
structure LifetimeDecision where
  action : LifetimeAction
  reason : String
  deadline : Option Time
  deriving DecidableEq

/-- A decision that leaves the order to an operator. -/
def LifetimeDecision.review (reason : String) : LifetimeDecision := ⟨.review, reason, none⟩

/-- **`aware_utc`.** -/
def awareUtc : WireTime → Option Time
  | .aware instant => some instant
  | .naive _ => none

@[simp] theorem awareUtc_eq_some {t : WireTime} {instant : Time} :
    awareUtc t = some instant ↔ t = .aware instant := by
  cases t <;> simp [awareUtc]

/-! ## The decision tree -/

section Assessment

variable (zone : Zone) (policy : LifetimePolicy)

/-- **`_resting_deadline`**: the entry's deadline, or the review that the
submission asks for. -/
def restingDeadline (order : OrderObservation) (now : Time)
    (sessions : Option (List MarketCalendarDay)) : Option (LifetimeDecision ⊕ Option Time) :=
  match order.submittedAt with
  | none => some (.inl (.review "missing_or_future_submission_time"))
  | some submittedAt => do
    let submitted ← awareUtc submittedAt
    if now < submitted then some (.inl (.review "missing_or_future_submission_time"))
    else
      match policy.entryDeadline zone submitted sessions with
      | .error reason => some (.inl (.review reason))
      | .ok deadline => some (.inr deadline)

/-- The assessment of a completely filled order. -/
def assessFilled (order : OrderObservation) (now : Time)
    (sessions : Option (List MarketCalendarDay)) : Option LifetimeDecision :=
  match order.filledAt with
  | none => some (.review "missing_or_future_fill_time")
  | some filledAt => do
    let filled ← awareUtc filledAt
    if now < filled then some (.review "missing_or_future_fill_time")
    else
      match ← policy.holdingDeadline zone filled sessions with
      | .error reason => some (.review reason)
      | .ok none => some ⟨.none, "holding_lifetime_disabled", none⟩
      | .ok (some deadline) =>
        some ⟨if deadline ≤ now then .closePosition else .none, "holding_lifetime", some deadline⟩

/-- The assessment of a partial fill: a native entry's working one rests like the
unfilled remainder. -/
def assessPartial (order : OrderObservation) (now : Time)
    (sessions : Option (List MarketCalendarDay)) : Option LifetimeDecision :=
  match policy with
  | .native _ _ =>
    if order.status = "partially_filled" then do
      match ← restingDeadline zone policy order now sessions with
      | .inr (some resting) =>
        if now < resting then some ⟨.none, "within_resting_lifetime", some resting⟩
        else some (.review "partial_entry_requires_protection_review")
      | _ => some (.review "partial_entry_requires_protection_review")
    else some (.review "partial_entry_requires_protection_review")
  | _ => some (.review "partial_entry_requires_protection_review")

/-- The assessment of a wholly unfilled order. -/
def assessUnfilled (order : OrderObservation) (now : Time)
    (sessions : Option (List MarketCalendarDay)) : Option LifetimeDecision :=
  if order.status ∈ unfilledTerminal then some ⟨.none, "unfilled_terminal", none⟩
  else if order.status ∉ workingEntry then some (.review "unconfirmed_order_transition")
  else do
    match ← restingDeadline zone policy order now sessions with
    | .inl decision => some decision
    | .inr none => some ⟨.none, "resting_lifetime_disabled", none⟩
    | .inr (some resting) =>
      some ⟨if resting ≤ now then .cancelEntry else .none, "resting_lifetime", some resting⟩

/-- The assessment of an order whose identity and quantities are sound. -/
def assessExact (order : OrderObservation) (quantity filled : ℚ) (now : Time)
    (sessions : Option (List MarketCalendarDay)) : Option LifetimeDecision :=
  if filled = quantity ∧ order.status = "filled" then assessFilled zone policy order now sessions
  else if filled ≠ 0 then assessPartial zone policy order now sessions
  else assessUnfilled zone policy order now sessions

/-- **`assess_lifetime`.** -/
def assessLifetime (identity : EntryIdentity) (order : OrderObservation) (now : WireTime)
    (sessions : Option (List MarketCalendarDay)) : Option LifetimeDecision := do
  let now ← awareUtc now
  let quantity ← WireDecimal.ofString? order.quantity
  let filled ← WireDecimal.ofString? order.filledQuantity
  let same ← identity.matches order
  match same, quantity, filled with
  | true, .finite quantity, .finite filled =>
    if (0 ≤ filled ∧ filled ≤ quantity) ∧ 0 < quantity then
      assessExact zone policy order quantity filled now sessions
    else some (.review "entry_identity_or_quantity_changed")
  | _, _, _ => some (.review "entry_identity_or_quantity_changed")

end Assessment

/-! ## The evidence behind an action -/

/-- **An order that is exactly the entry's**, with sound quantities. -/
structure ExactOrder (identity : EntryIdentity) (order : OrderObservation) (quantity filled : ℚ) :
    Prop where
  same : identity.matches order = some true
  quantity_eq : WireDecimal.ofString? order.quantity = some (.finite quantity)
  filled_eq : WireDecimal.ofString? order.filledQuantity = some (.finite filled)
  bounded : (0 ≤ filled ∧ filled ≤ quantity) ∧ 0 < quantity

/-- **What a cancellation rests on**: a working order of the entry that has no
fill, and the deadline its submission sets. -/
structure CancelEvidence (zone : Zone) (policy : LifetimePolicy) (identity : EntryIdentity)
    (order : OrderObservation) (sessions : Option (List MarketCalendarDay))
    (submitted deadline : Time) : Prop where
  exact : ∃ quantity, ExactOrder identity order quantity 0
  working : order.status ∈ workingEntry
  submittedAt : order.submittedAt = some (.aware submitted)
  deadline_eq : policy.entryDeadline zone submitted sessions = .ok (some deadline)

/-- **What a close rests on**: a completely filled order of the entry, and the
deadline its fill sets. -/
structure CloseEvidence (zone : Zone) (policy : LifetimePolicy) (identity : EntryIdentity)
    (order : OrderObservation) (sessions : Option (List MarketCalendarDay))
    (filled deadline : Time) : Prop where
  exact : ∃ quantity, ExactOrder identity order quantity quantity
  status : order.status = "filled"
  filledAt : order.filledAt = some (.aware filled)
  deadline_eq : policy.holdingDeadline zone filled sessions = some (.ok (some deadline))

section Evidence

variable {zone : Zone} {policy : LifetimePolicy} {identity : EntryIdentity}
  {order : OrderObservation} {now : Time} {sessions : Option (List MarketCalendarDay)}
  {decision : LifetimeDecision}

/-- An order that matches was never replaced. -/
theorem EntryIdentity.not_replaced (h : identity.matches order = some true) :
    truthy order.replaces = false ∧ truthy order.replacedBy = false := by
  unfold EntryIdentity.matches at h
  split at h
  · obtain ⟨same, -, hsame⟩ := Option.map_eq_some_iff.mp h
    simp only [Bool.and_eq_true, Bool.not_eq_true'] at hsame
    exact ⟨hsame.1.2, hsame.2⟩
  · cases h

/-- An exact order is assessed by its fill alone. -/
theorem ExactOrder.assess {quantity filled : ℚ} (h : ExactOrder identity order quantity filled)
    (now : Time) :
    assessLifetime zone policy identity order (.aware now) sessions
      = assessExact zone policy order quantity filled now sessions := by
  unfold assessLifetime
  rw [h.same, h.quantity_eq, h.filled_eq]
  exact if_pos h.bounded

/-- **Only an exact order is acted on.** -/
theorem exactOrder_of_acts {at_ : WireTime}
    (h : assessLifetime zone policy identity order at_ sessions = some decision)
    (hacts : decision.action ≠ .review) :
    ∃ now quantity filled, at_ = .aware now ∧ ExactOrder identity order quantity filled
      ∧ assessExact zone policy order quantity filled now sessions = some decision := by
  unfold assessLifetime at h
  obtain ⟨now, hnow, h⟩ := Option.bind_eq_some_iff.mp h
  obtain ⟨quantity, hquantity, h⟩ := Option.bind_eq_some_iff.mp h
  obtain ⟨filled, hfilled, h⟩ := Option.bind_eq_some_iff.mp h
  obtain ⟨same, hsame, h⟩ := Option.bind_eq_some_iff.mp h
  split at h
  · rename_i quantity filled _ _
    split at h
    · rename_i hbounded
      exact ⟨now, quantity, filled, awareUtc_eq_some.mp hnow,
        ⟨hsame, hquantity, hfilled, hbounded⟩, h⟩
    · cases h
      exact absurd rfl hacts
  · cases h
    exact absurd rfl hacts

/-- A resting deadline comes from a submission that is not in the future. -/
theorem restingDeadline_eq_inr {deadline : Option Time} :
    restingDeadline zone policy order now sessions = some (.inr deadline)
      ↔ ∃ submitted, order.submittedAt = some (.aware submitted) ∧ submitted ≤ now
        ∧ policy.entryDeadline zone submitted sessions = .ok deadline := by
  unfold restingDeadline
  cases hat : order.submittedAt with
  | none => simp
  | some at_ =>
    cases at_ with
    | naive wall => simp [awareUtc]
    | aware submitted =>
      have haware : awareUtc (.aware submitted) = some submitted := rfl
      simp only [haware, Option.bind_eq_bind, Option.bind_some, Option.some.injEq,
        WireTime.aware.injEq, exists_eq_left']
      split
      · rename_i hfuture
        simp [not_le.mpr hfuture]
      · rename_i hpast
        cases policy.entryDeadline zone submitted sessions with
        | error reason => simp
        | ok found => simp [not_lt.mp hpast]

/-- A review that a resting deadline turns into asks for nothing else. -/
theorem restingDeadline_eq_inl (h : restingDeadline zone policy order now sessions
    = some (.inl decision)) : decision.action = .review := by
  unfold restingDeadline at h
  split at h
  · cases h
    rfl
  · obtain ⟨submitted, -, h⟩ := Option.bind_eq_some_iff.mp h
    split at h
    · cases h
      rfl
    · split at h
      · cases h
        rfl
      · cases h

/-- **When a filled order is closed**, and how. -/
theorem assessFilled_close :
    (assessFilled zone policy order now sessions = some decision
        ∧ decision.action = .closePosition)
      ↔ ∃ filled deadline, order.filledAt = some (.aware filled) ∧ filled ≤ now
        ∧ policy.holdingDeadline zone filled sessions = some (.ok (some deadline))
        ∧ deadline ≤ now ∧ decision = ⟨.closePosition, "holding_lifetime", some deadline⟩ := by
  unfold assessFilled
  constructor
  · rintro ⟨h, hclose⟩
    split at h
    · cases h
      cases hclose
    · rename_i at_ hat
      obtain ⟨filled, hfilled, h⟩ := Option.bind_eq_some_iff.mp h
      rw [awareUtc_eq_some.mp hfilled] at hat
      split at h
      · cases h
        cases hclose
      · rename_i hpast
        obtain ⟨found, hfound, h⟩ := Option.bind_eq_some_iff.mp h
        split at h
        · cases h
          cases hclose
        · cases h
          cases hclose
        · rename_i deadline
          cases h
          dsimp only at hclose
          split at hclose
          · rename_i hdue
            exact ⟨filled, deadline, hat, not_lt.mp hpast, hfound, hdue, by rw [if_pos hdue]⟩
          · cases hclose
  · rintro ⟨filled, deadline, hat, hpast, hfound, hdue, rfl⟩
    have haware : awareUtc (.aware filled) = some filled := rfl
    refine ⟨?_, rfl⟩
    simp [hat, haware, not_lt.mpr hpast, hfound, hdue]

/-- **When an unfilled order is cancelled**, and how. -/
theorem assessUnfilled_cancel :
    (assessUnfilled zone policy order now sessions = some decision
        ∧ decision.action = .cancelEntry)
      ↔ order.status ∈ workingEntry
        ∧ ∃ submitted deadline, order.submittedAt = some (.aware submitted) ∧ submitted ≤ now
          ∧ policy.entryDeadline zone submitted sessions = .ok (some deadline)
          ∧ deadline ≤ now ∧ decision = ⟨.cancelEntry, "resting_lifetime", some deadline⟩ := by
  unfold assessUnfilled
  constructor
  · rintro ⟨h, hcancel⟩
    split at h
    · cases h
      cases hcancel
    · split at h
      · cases h
        cases hcancel
      · rename_i hworking
        obtain ⟨found, hfound, h⟩ := Option.bind_eq_some_iff.mp h
        split at h
        · cases h
          rw [restingDeadline_eq_inl hfound] at hcancel
          cases hcancel
        · cases h
          cases hcancel
        · rename_i deadline
          obtain ⟨submitted, hat, hpast, hdeadline⟩ := restingDeadline_eq_inr.mp hfound
          cases h
          dsimp only at hcancel
          split at hcancel
          · rename_i hdue
            exact ⟨not_not.mp hworking, submitted, deadline, hat, hpast, hdeadline, hdue,
              by rw [if_pos hdue]⟩
          · cases hcancel
  · rintro ⟨hworking, submitted, deadline, hat, hpast, hdeadline, hdue, rfl⟩
    have hresting := restingDeadline_eq_inr.mpr ⟨submitted, hat, hpast, hdeadline⟩
    have hterminal : order.status ∉ unfilledTerminal := by
      intro hterminal
      unfold workingEntry at hworking
      unfold unfilledTerminal at hterminal
      simp only [List.mem_cons, List.not_mem_nil, or_false] at hworking hterminal
      rcases hterminal with h | h | h <;> rw [h] at hworking <;> revert hworking <;> decide
    refine ⟨?_, rfl⟩
    simp [hterminal, hworking, hresting, hdue]

/-- A partial fill is never acted on. -/
theorem assessPartial_action (h : assessPartial zone policy order now sessions = some decision) :
    decision.action = .none ∨ decision.action = .review := by
  unfold assessPartial at h
  split at h
  · split at h
    · obtain ⟨resting, -, h⟩ := Option.bind_eq_some_iff.mp h
      split at h
      · split at h <;> cases h
        · exact .inl rfl
        · exact .inr rfl
      · cases h
        exact .inr rfl
    · cases h
      exact .inr rfl
  · cases h
    exact .inr rfl

theorem assessFilled_ne_cancel (h : assessFilled zone policy order now sessions = some decision) :
    decision.action ≠ .cancelEntry := by
  unfold assessFilled at h
  split at h
  · cases h
    simp [LifetimeDecision.review]
  · obtain ⟨filled, -, h⟩ := Option.bind_eq_some_iff.mp h
    split at h
    · cases h
      simp [LifetimeDecision.review]
    · obtain ⟨found, -, h⟩ := Option.bind_eq_some_iff.mp h
      split at h <;> cases h
      · simp [LifetimeDecision.review]
      · simp
      · dsimp only
        split <;> simp

theorem assessUnfilled_ne_close
    (h : assessUnfilled zone policy order now sessions = some decision) :
    decision.action ≠ .closePosition := by
  unfold assessUnfilled at h
  split at h
  · cases h
    simp
  · split at h
    · cases h
      simp [LifetimeDecision.review]
    · obtain ⟨found, hfound, h⟩ := Option.bind_eq_some_iff.mp h
      split at h <;> cases h
      · rw [restingDeadline_eq_inl hfound]
        simp
      · simp
      · dsimp only
        split <;> simp

/-- **When an entry is cancelled.** -/
theorem assessLifetime_cancel_iff :
    (assessLifetime zone policy identity order (.aware now) sessions = some decision
        ∧ decision.action = .cancelEntry)
      ↔ ∃ submitted deadline,
        CancelEvidence zone policy identity order sessions submitted deadline
        ∧ submitted ≤ now ∧ deadline ≤ now
        ∧ decision = ⟨.cancelEntry, "resting_lifetime", some deadline⟩ := by
  constructor
  · rintro ⟨h, hcancel⟩
    obtain ⟨now', quantity, filled, hnow, hexact, h⟩ :=
      exactOrder_of_acts h (by rw [hcancel]; decide)
    cases hnow
    unfold assessExact at h
    split at h
    · exact absurd hcancel (assessFilled_ne_cancel h)
    · split at h
      · rcases assessPartial_action h with hother | hother <;>
          rw [hother] at hcancel <;> cases hcancel
      · rename_i hfilled
        rw [not_not.mp hfilled] at hexact
        obtain ⟨hworking, submitted, deadline, hat, hpast, hdeadline, hdue, rfl⟩ :=
          assessUnfilled_cancel.mp ⟨h, hcancel⟩
        exact ⟨submitted, deadline, ⟨⟨quantity, hexact⟩, hworking, hat, hdeadline⟩, hpast, hdue,
          rfl⟩
  · rintro ⟨submitted, deadline, evidence, hpast, hdue, rfl⟩
    obtain ⟨quantity, hexact⟩ := evidence.exact
    rw [hexact.assess]
    unfold assessExact
    rw [if_neg (fun h => hexact.bounded.2.ne h.1), if_neg (not_not.mpr rfl)]
    exact assessUnfilled_cancel.mpr ⟨evidence.working, submitted, deadline, evidence.submittedAt,
      hpast, evidence.deadline_eq, hdue, rfl⟩

/-- **When a position is closed.** -/
theorem assessLifetime_close_iff :
    (assessLifetime zone policy identity order (.aware now) sessions = some decision
        ∧ decision.action = .closePosition)
      ↔ ∃ filled deadline, CloseEvidence zone policy identity order sessions filled deadline
        ∧ filled ≤ now ∧ deadline ≤ now
        ∧ decision = ⟨.closePosition, "holding_lifetime", some deadline⟩ := by
  constructor
  · rintro ⟨h, hclose⟩
    obtain ⟨now', quantity, filled, hnow, hexact, h⟩ :=
      exactOrder_of_acts h (by rw [hclose]; decide)
    cases hnow
    unfold assessExact at h
    split at h
    · rename_i hfilled
      rw [hfilled.1] at hexact
      obtain ⟨filledAt, deadline, hat, hpast, hdeadline, hdue, rfl⟩ :=
        assessFilled_close.mp ⟨h, hclose⟩
      exact ⟨filledAt, deadline, ⟨⟨quantity, hexact⟩, hfilled.2, hat, hdeadline⟩, hpast, hdue, rfl⟩
    · split at h
      · rcases assessPartial_action h with hother | hother <;>
          rw [hother] at hclose <;> cases hclose
      · exact absurd hclose (assessUnfilled_ne_close h)
  · rintro ⟨filled, deadline, evidence, hpast, hdue, rfl⟩
    obtain ⟨quantity, hexact⟩ := evidence.exact
    rw [hexact.assess]
    unfold assessExact
    rw [if_pos ⟨rfl, evidence.status⟩]
    exact assessFilled_close.mpr ⟨filled, deadline, evidence.filledAt, hpast, evidence.deadline_eq,
      hdue, rfl⟩

/-- Acting needs a clock with a zone. -/
theorem aware_of_acts {at_ : WireTime}
    (h : assessLifetime zone policy identity order at_ sessions = some decision) :
    ∃ now, at_ = .aware now := by
  unfold assessLifetime at h
  obtain ⟨now, hnow, -⟩ := Option.bind_eq_some_iff.mp h
  exact ⟨now, awareUtc_eq_some.mp hnow⟩

end Evidence

/-- **Lifetime actions need exact evidence and are stable in time.** A
cancellation is asked for only when the order matches, was never replaced, has no
fill, is working and its resting deadline is over; a close only when the order
matches, is completely filled and its holding deadline is over; and the decision
is the same at every later time. -/
theorem lifetime_actions_need_evidence (zone : Zone) (policy : LifetimePolicy)
    (identity : EntryIdentity) (order : OrderObservation)
    (sessions : Option (List MarketCalendarDay)) (at_ : WireTime) (decision : LifetimeDecision)
    (h : assessLifetime zone policy identity order at_ sessions = some decision) :
    ∃ now, at_ = .aware now
      ∧ (decision.action = .cancelEntry →
        (truthy order.replaces = false ∧ truthy order.replacedBy = false)
        ∧ ∃ submitted deadline,
          CancelEvidence zone policy identity order sessions submitted deadline ∧ deadline ≤ now)
      ∧ (decision.action = .closePosition →
        ∃ filled deadline,
          CloseEvidence zone policy identity order sessions filled deadline ∧ deadline ≤ now)
      ∧ (decision.action = .cancelEntry ∨ decision.action = .closePosition →
        ∀ later, now ≤ later →
          assessLifetime zone policy identity order (.aware later) sessions = some decision) := by
  obtain ⟨now, rfl⟩ := aware_of_acts h
  refine ⟨now, rfl, ?_, ?_, ?_⟩
  · intro hcancel
    obtain ⟨submitted, deadline, evidence, -, hdue, -⟩ := assessLifetime_cancel_iff.mp ⟨h, hcancel⟩
    obtain ⟨quantity, hexact⟩ := evidence.exact
    exact ⟨EntryIdentity.not_replaced hexact.same, submitted, deadline, evidence, hdue⟩
  · intro hclose
    obtain ⟨filled, deadline, evidence, -, hdue, -⟩ := assessLifetime_close_iff.mp ⟨h, hclose⟩
    exact ⟨filled, deadline, evidence, hdue⟩
  · rintro (hcancel | hclose) later hlater
    · obtain ⟨submitted, deadline, evidence, hpast, hdue, hdecision⟩ :=
        assessLifetime_cancel_iff.mp ⟨h, hcancel⟩
      exact (assessLifetime_cancel_iff.mpr ⟨submitted, deadline, evidence, hpast.trans hlater,
        hdue.trans hlater, hdecision⟩).1
    · obtain ⟨filled, deadline, evidence, hpast, hdue, hdecision⟩ :=
        assessLifetime_close_iff.mp ⟨h, hclose⟩
      exact (assessLifetime_close_iff.mpr ⟨filled, deadline, evidence, hpast.trans hlater,
        hdue.trans hlater, hdecision⟩).1

/-- An order that has rested for its minute is to be cancelled, then and an hour
later. -/
theorem lifetime_actions_need_evidence_rested :
    let order : OrderObservation :=
      { orderId := "o-1", clientOrderId := "entry-0", symbol := "SPY", side := "buy",
        status := "new", quantity := "10", filledQuantity := "0", orderType := "limit",
        orderClass := "bracket", updatedAt := .aware 0, submittedAt := some (.aware 0) }
    let assess := fun now => assessLifetime ⟨id, id⟩ (.trade (some 60) none true)
      ⟨"o-1", "entry-0", "SPY", "buy", "10.0"⟩ order (.aware now) none
    let decision : LifetimeDecision := ⟨.cancelEntry, "resting_lifetime", some 60000000⟩
    assess 59000000 ≠ some decision ∧ assess 60000000 = some decision
      ∧ assess 3600000000 = some decision := by
  intro order assess decision
  have hassess : assess 60000000 = some decision := by decide +kernel
  obtain ⟨now, hnow, -, -, hstable⟩ := lifetime_actions_need_evidence _ _ _ _ _ _ _ hassess
  cases hnow
  exact ⟨by decide +kernel, hassess, hstable (.inl rfl) 3600000000 (by decide)⟩

end AgenticTrader
