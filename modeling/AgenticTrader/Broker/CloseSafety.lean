import AgenticTrader.Broker.PositionClose

/-!
# A close submits once, on evidence

Whatever the broker answers, and wherever it raises, a close submits at most one market
order. It does so only after a round of reads in which every order of the expanded group
had ended and none showed a positive fill, an empty list of open orders after that round,
and a position after that list which is taken for the one asked for and available. A
failure that does not call the submission uncertain, and names no order, submitted nothing;
and the operator reads that the protective orders were left unchanged only where none was
cancelled.

Two answers are taken for what they do not say: a side that cannot be read, for a short
position, and a filled quantity that is negative or no number, for no fill. A run without
such answers submits on evidence only (`close_protocol_safe`).

Everything before the submission is quiet (`CloseState.Quiet`): it submits nothing, and
the attempts it notes are the cancellations it sends. The submission is the last call but
the note of a failure.
-/

namespace AgenticTrader

open Stateful CloseRun

/-! ## Quiet runs -/

namespace CloseEvent

def isSubmit : CloseEvent → Bool
  | submit _ _ => true
  | _ => false

/-- The order whose cancellation was sent. -/
def cancelled? : CloseEvent → Option String
  | cancel id _ => some id
  | _ => none

/-- The text of a failure, as the observer is told it. -/
def failure? : CloseEvent → Option String
  | observe (.failed _ detail _ _) _ => some detail
  | _ => none

/-- The side of a position that was read. -/
def side? : CloseEvent → Option String
  | position (.ok p) => some p.side
  | _ => none

/-- An event that neither submits, cancels nor reports a failure. -/
def Plain (e : CloseEvent) : Prop :=
  e.isSubmit = false ∧ e.cancelled? = none ∧ e.failure? = none

end CloseEvent

/-- The submissions of a trace. -/
def submissions (trace : List CloseEvent) : List CloseEvent := trace.filter CloseEvent.isSubmit

/-- The cancellations that were sent. -/
def cancellations (trace : List CloseEvent) : List String := trace.filterMap CloseEvent.cancelled?

/-- The failures that were reported. -/
def failures (trace : List CloseEvent) : List String := trace.filterMap CloseEvent.failure?

/-- **Nothing was submitted on the way**, no failure was reported, and the attempts that
were noted are the cancellations that were sent. -/
def CloseState.Quiet (s s' : CloseState) : Prop :=
  ∃ t, s'.trace = s.trace ++ t ∧ submissions t = [] ∧ failures t = []
    ∧ s'.cancellationAttempts = s.cancellationAttempts ++ cancellations t
    ∧ s'.submitting = s.submitting

namespace CloseState.Quiet

variable {α β : Type} {m : CloseRun α} {next : α → CloseRun β}

theorem refl (s : CloseState) : s.Quiet s := 
  ⟨[], by simp [submissions, failures, cancellations]⟩

theorem trans (s₁ s₂ s₃ : CloseState) (h : s₁.Quiet s₂) (h' : s₂.Quiet s₃) : s₁.Quiet s₃ := by
  obtain ⟨t, htrace, hsubmit, hfail, hattempts, hsubmitting⟩ := h
  obtain ⟨t', htrace', hsubmit', hfail', hattempts', hsubmitting'⟩ := h'
  refine ⟨t ++ t', ?_, ?_, ?_, ?_, hsubmitting'.trans hsubmitting⟩
  · rw [htrace', htrace, List.append_assoc]
  · unfold submissions at *
    rw [List.filter_append, hsubmit, hsubmit', List.append_nil]
  · unfold failures at *
    rw [List.filterMap_append, hfail, hfail', List.append_nil]
  · unfold cancellations at *
    rw [hattempts', hattempts, List.filterMap_append, List.append_assoc]

theorem pure (a : α) : Along Quiet (Pure.pure a : CloseRun α) := Along.pure refl a

theorem raise (stop : CloseStop) : Along Quiet (Stateful.raise stop : CloseRun α) :=
  Along.raise refl stop

theorem ask (f : CloseState → α) : Along Quiet (Stateful.ask f : CloseRun α) := Along.ask refl f

theorem bind (hm : Along Quiet m) (hnext : ∀ a, Along Quiet (next a)) :
    Along Quiet (m >>= next) :=
  Along.bind trans hm hnext

/-- One plain event. -/
theorem event {s : CloseState} {e : CloseEvent} (h : e.Plain) :
    s.Quiet { s with trace := s.trace ++ [e] } := by
  obtain ⟨hsubmit, hcancel, hfail⟩ := h
  refine ⟨[e], rfl, ?_, ?_, ?_, rfl⟩
  · simp [submissions, hsubmit]
  · simp [failures, hfail]
  · simp [cancellations, hcancel]

theorem ofExcept (answer : Except CloseException α) : Along Quiet (CloseRun.ofExcept answer) := by
  cases answer with
  | error e => exact raise _
  | ok a => exact pure a

/-- A call with a plain event. -/
theorem call {event : Except CloseException α → CloseEvent}
    (answer : ℕ → Except CloseException α) (h : ∀ a, (event a).Plain) :
    Along Quiet (CloseRun.call event answer) := by
  refine bind (ask _) (fun reply => bind (fun s => ?_) (fun _ => ofExcept reply))
  exact Quiet.event (h reply)

theorem refuseClose (condition : Bool) (detail : String) :
    Along Quiet (CloseRun.refuseClose condition detail) := by
  unfold CloseRun.refuseClose
  split
  · exact raise _
  · exact pure _

theorem raiseIf (condition : Bool) (typeName : String) :
    Along Quiet (CloseRun.raiseIf condition typeName) := by
  unfold CloseRun.raiseIf
  split
  · exact raise _
  · exact pure _

theorem float (reading : BrokerReading BrokerNumber) : Along Quiet (CloseRun.float reading) := by
  cases reading with
  | absent => exact raise _
  | unreadable => exact raise _
  | value q => exact pure q

theorem floatOrZero (reading : BrokerReading BrokerNumber) :
    Along Quiet (CloseRun.floatOrZero reading) := by
  cases reading with
  | absent => exact pure _
  | unreadable => exact raise _
  | value q => exact pure q

end CloseState.Quiet

theorem CloseRun.ofExcept_snd {α : Type} (answer : Except CloseException α) (s : CloseState) :
    (ofExcept answer s).2 = s := by
  cases answer <;> rfl

/-- A call leaves its event, whatever it was answered. -/
theorem CloseRun.call_snd {α : Type} (event : Except CloseException α → CloseEvent)
    (answer : ℕ → Except CloseException α) (s : CloseState) :
    (call event answer s).2
      = { s with trace := s.trace ++ [event (answer s.trace.length)] } := by
  exact ofExcept_snd _ _

/-- A call that returned was answered so. -/
theorem CloseRun.call_eq_ok {α : Type} {event : Except CloseException α → CloseEvent}
    {answer : ℕ → Except CloseException α} {s s' : CloseState} {a : α}
    (h : call event answer s = (.ok a, s')) :
    s' = { s with trace := s.trace ++ [event (.ok a)] } := by
  have hstate := call_snd event answer s
  have hanswer : answer s.trace.length = .ok a := by
    replace h : ofExcept (answer s.trace.length) _ = (.ok a, s') := h
    cases hreply : answer s.trace.length with
    | error e =>
      rw [hreply] at h
      cases h
    | ok b =>
      rw [hreply] at h
      cases h
      rfl
  rw [h, hanswer] at hstate
  exact hstate

/-- **Its quantity is the one asked for.** -/
def PositionCloseRequest.Amounts (request : PositionCloseRequest) (position : ClosePosition) :
    Prop :=
  ∃ qty, position.qty = .value qty
    ∧ qty.abs.isCloseAbsolute brokerQuantityTolerance (.finite request.quantity) = true

/-- **Its quantity is available.** -/
def PositionCloseRequest.Available (request : PositionCloseRequest) (position : ClosePosition) :
    Prop :=
  ∃ available, (position.qtyAvailable = .value available
      ∨ position.qtyAvailable = .absent ∧ available = .finite 0)
    ∧ available.covers brokerQuantityTolerance request.quantity = true

/-- The text of a direction, as the broker sends it. -/
def Direction.positionSide : Direction → String
  | .long => "long"
  | .short => "short"

/-- **A count of shares**: where it is a number, it is positive or 0. -/
def BrokerReading.Counts : BrokerReading BrokerNumber → Prop
  | .value filled => filled.positive = true ∨ filled = .finite 0
  | .absent | .unreadable => True

instance (reading : BrokerReading BrokerNumber) : Decidable reading.Counts :=
  match reading with
  | .value filled => inferInstanceAs (Decidable (filled.positive = true ∨ filled = .finite 0))
  | .absent | .unreadable => inferInstanceAs (Decidable True)

namespace CloseWorld

open CloseState

variable (w : CloseWorld) (request : PositionCloseRequest)

theorem getOrder_quiet (id : String) (nested : Bool) : Along Quiet (w.getOrder id nested) :=
  Quiet.call _ (fun _ => ⟨rfl, rfl, rfl⟩)

/-- A note that is no failure. -/
theorem observed_quiet {note : CloseNote}
    (h : ∀ a, (CloseEvent.observe note a).failure? = none) : Along Quiet (w.observed note) :=
  Quiet.call _ (fun a => ⟨rfl, rfl, h a⟩)

theorem followReplacements_quiet (expected : List String) : ∀ (n : ℕ) (seen : List String)
    (order : CloseOrder), Along Quiet (w.followReplacements expected n seen order)
  | 0, _, _ => Quiet.raise _
  | n + 1, seen, order => by
    unfold followReplacements
    refine Quiet.bind (Quiet.raiseIf _ _) (fun _ => Quiet.bind (Quiet.raiseIf _ _) (fun _ => ?_))
    split
    · exact Quiet.pure _
    · refine Quiet.bind (w.getOrder_quiet _ _) (fun replacement => ?_)
      refine Quiet.bind (Quiet.raiseIf _ _) (fun _ => ?_)
      exact followReplacements_quiet expected n _ replacement

theorem currentOrder_quiet (order : CloseOrder) : Along Quiet (w.currentOrder order) :=
  w.followReplacements_quiet _ _ _ order

theorem currentOrders_quiet (legs : List CloseOrder) : Along Quiet (w.currentOrders legs) := by
  induction legs with
  | nil => exact Quiet.pure _
  | cons leg legs ih =>
    exact Quiet.bind (w.currentOrder_quiet leg) (fun _ => Quiet.bind ih (fun _ => Quiet.pure _))

theorem joinLegs_quiet (legs expanded : List CloseOrder) :
    Along Quiet (w.joinLegs request legs expanded) := by
  induction legs generalizing expanded with
  | nil => exact Quiet.pure _
  | cons leg legs ih => exact Quiet.bind (Quiet.refuseClose _ _) (fun _ => ih _)

theorem joinEntryLegs_quiet (legs expanded : List CloseOrder) :
    Along Quiet (w.joinEntryLegs request legs expanded) := by
  induction legs generalizing expanded with
  | nil => exact Quiet.pure _
  | cons leg legs ih =>
    refine Quiet.bind (w.currentOrder_quiet leg) (fun leg => ?_)
    exact Quiet.bind (w.joinLegs_quiet request _ _) (fun _ => ih _)

theorem bracketHistory_quiet (history : Option (List CloseOrder)) :
    Along Quiet (w.bracketHistory history) := by
  cases history with
  | some history => exact Quiet.pure _
  | none =>
    refine Quiet.bind (Quiet.call _ (fun _ => ⟨rfl, rfl, rfl⟩)) (fun response => ?_)
    cases response with
    | none => exact Quiet.raise _
    | some history => exact Quiet.pure _

theorem bracketGroup_quiet (order : CloseOrder) (history : Option (List CloseOrder)) :
    Along Quiet (w.bracketGroup request order history) := by
  unfold bracketGroup
  refine Quiet.bind (w.getOrder_quiet _ _) (fun parent => ?_)
  refine Quiet.bind (w.currentOrders_quiet _) (fun legs => ?_)
  split
  · exact Quiet.pure _
  · refine Quiet.bind (w.bracketHistory_quiet history) (fun history => ?_)
    split
    · exact Quiet.bind (w.currentOrders_quiet _) (fun _ => Quiet.pure _)
    · exact Quiet.raise _

theorem expandGroups_quiet (orders expanded : List CloseOrder)
    (history : Option (List CloseOrder)) :
    Along Quiet (w.expandGroups request orders expanded history) := by
  induction orders generalizing expanded history with
  | nil => exact Quiet.pure _
  | cons order orders ih =>
    unfold expandGroups
    split
    · exact ih _ _
    · refine Quiet.bind (w.bracketGroup_quiet request order history) (fun group => ?_)
      refine Quiet.bind (Quiet.refuseClose _ _) (fun _ => ?_)
      exact Quiet.bind (w.joinLegs_quiet request _ _) (fun _ => ih _ _)

theorem expandCloseOrders_quiet (orders : List CloseOrder) :
    Along Quiet (w.expandCloseOrders request orders) := by
  unfold expandCloseOrders
  dsimp only
  split
  · refine Quiet.bind (w.getOrder_quiet _ _) (fun entry => ?_)
    exact Quiet.bind (w.joinEntryLegs_quiet request _ _)
      (fun _ => w.expandGroups_quiet request _ _ _)
  · exact w.expandGroups_quiet request _ _ _

theorem checkPosition_quiet : Along Quiet (w.checkPosition request) := by
  unfold checkPosition
  refine Quiet.bind (Quiet.call _ (fun _ => ⟨rfl, rfl, rfl⟩)) (fun position => ?_)
  split
  · exact Quiet.bind (Quiet.refuseClose _ _) (fun _ => Quiet.pure _)
  · refine Quiet.bind (Quiet.float _) (fun qty => ?_)
    exact Quiet.bind (Quiet.refuseClose _ _) (fun _ => Quiet.pure _)

theorem checkSession_quiet (position : ClosePosition) :
    Along Quiet (w.checkSession request position) := by
  unfold checkSession
  split
  · refine Quiet.bind (Quiet.call _ (fun _ => ⟨rfl, rfl, rfl⟩)) (fun clock => ?_)
    exact Quiet.refuseClose _ _
  · exact Quiet.pure _

theorem openSymbolOrders_quiet : Along Quiet w.openSymbolOrders := by
  unfold openSymbolOrders
  refine Quiet.bind (Quiet.call _ (fun _ => ⟨rfl, rfl, rfl⟩)) (fun answer => ?_)
  cases answer with
  | none => exact Quiet.raise _
  | some orders => exact Quiet.bind (Quiet.refuseClose _ _) (fun _ => Quiet.pure _)

theorem entryOrder_quiet (entryOrderId : String) :
    Along Quiet (w.entryOrder request entryOrderId) := by
  refine Quiet.bind (w.getOrder_quiet _ _) (fun order => ?_)
  exact Quiet.bind (Quiet.raiseIf _ _) (fun _ => Quiet.pure _)

theorem anyFilled_quiet (legs : List CloseOrder) : Along Quiet (anyFilled legs) := by
  induction legs with
  | nil => exact Quiet.pure _
  | cons leg legs ih =>
    unfold anyFilled
    refine Quiet.bind (Quiet.floatOrZero _) (fun filled => ?_)
    split
    · exact Quiet.pure _
    · exact ih

theorem checkEntry_quiet (position : ClosePosition) (entryOrderId : String) :
    Along Quiet (w.checkEntry request position entryOrderId) := by
  have hrest : ∀ entry : CloseOrder, Along Quiet (do
      let exited ← anyFilled entry.legs
      refuseClose exited "Tracked bracket already has exit fills; reconcile before another close."
      let paid ← float entry.fields.filledAvgPrice
      let cost ← float position.avgEntryPrice
      refuseClose (!paid.isCloseAbsolute brokerPriceTolerance cost)
        "Broker cost basis differs from the tracked entry; reconcile before closing.") := by
    intro entry
    refine Quiet.bind (anyFilled_quiet _) (fun exited => ?_)
    refine Quiet.bind (Quiet.refuseClose _ _) (fun _ => Quiet.bind (Quiet.float _) (fun paid => ?_))
    exact Quiet.bind (Quiet.float _) (fun cost => Quiet.refuseClose _ _)
  unfold checkEntry
  refine Quiet.bind (w.entryOrder_quiet request _) (fun entry => ?_)
  split
  · exact Quiet.bind (Quiet.refuseClose _ _) (fun _ => hrest entry)
  · refine Quiet.bind (Quiet.floatOrZero _) (fun filled => ?_)
    exact Quiet.bind (Quiet.refuseClose _ _) (fun _ => hrest entry)

/-- A suppressed error leaves the state it was raised in. -/
theorem suppressApi_snd (m : CloseRun Unit) (s : CloseState) :
    (suppressApi m s).2 = (m s).2 := by
  unfold suppressApi handle
  rcases m s with ⟨stop | a, s'⟩
  · cases stop with
    | running => rfl
    | raised exception => cases exception <;> rfl
  · rfl

/-- The attempt is noted, and then sent: together they keep the account. -/
theorem cancelOrder_quiet (order : CloseOrder) : Along Quiet (w.cancelOrder order) := by
  unfold cancelOrder
  refine Quiet.bind (w.getOrder_quiet _ _) (fun current => ?_)
  split
  · exact Quiet.pure _
  · refine Quiet.bind (w.observed_quiet (fun _ => rfl)) (fun _ => ?_)
    intro s
    have hstate := (suppressApi_snd (call (.cancel order.fields.id)
      (fun n => w.cancelOrderById n order.fields.id))
      { s with cancellationAttempts := s.cancellationAttempts ++ [order.fields.id] }).trans
        (call_snd _ _ _)
    refine ⟨[.cancel order.fields.id (w.cancelOrderById s.trace.length order.fields.id)], ?_, rfl,
      rfl, ?_, ?_⟩
    · exact congrArg CloseState.trace hstate
    · exact congrArg CloseState.cancellationAttempts hstate
    · have hsubmitting := congrArg CloseState.submitting hstate
      exact hsubmitting

theorem cancelOrders_quiet (orders : List CloseOrder) : Along Quiet (w.cancelOrders orders) := by
  induction orders with
  | nil => exact Quiet.pure _
  | cons order orders ih => exact Quiet.bind (w.cancelOrder_quiet order) (fun _ => ih)

theorem pollOrders_quiet (orders : List CloseOrder) : Along Quiet (w.pollOrders orders) := by
  induction orders with
  | nil => exact Quiet.pure _
  | cons order orders ih =>
    unfold pollOrders
    refine Quiet.bind (w.getOrder_quiet _ _) (fun current => ?_)
    dsimp only
    by_cases hfilled : w.statusOf current = "filled"
    · rw [if_pos hfilled]
      refine Quiet.bind (Quiet.refuseClose _ _) (fun _ => ?_)
      exact Quiet.bind ih (fun _ => Quiet.pure _)
    · rw [if_neg hfilled]
      refine Quiet.bind (Quiet.floatOrZero _) (fun filled => ?_)
      refine Quiet.bind (Quiet.refuseClose _ _) (fun _ => ?_)
      exact Quiet.bind ih (fun _ => Quiet.pure _)

theorem monotonicNow_quiet : Along Quiet w.monotonicNow := Quiet.ask _

theorem pause_quiet : Along Quiet w.pause := Quiet.bind (Quiet.ask _) Quiet.ofExcept

theorem awaitCancelled_quiet (orders : List CloseOrder) (deadline : ℚ) (rounds : ℕ) :
    Along Quiet (w.awaitCancelled orders deadline rounds) := by
  induction rounds with
  | zero => exact Quiet.raise _
  | succ rounds ih =>
    unfold awaitCancelled
    refine Quiet.bind (w.pollOrders_quiet orders) (fun pending => ?_)
    split
    · exact Quiet.pure _
    · refine Quiet.bind w.monotonicNow_quiet (fun now => ?_)
      exact Quiet.bind (Quiet.refuseClose _ _) (fun _ => Quiet.bind w.pause_quiet (fun _ => ih))

theorem awaitAvailable_quiet (deadline : ℚ) (rounds : ℕ) :
    Along Quiet (w.awaitAvailable request deadline rounds) := by
  induction rounds with
  | zero => exact Quiet.raise _
  | succ rounds ih =>
    unfold awaitAvailable
    refine Quiet.bind w.openSymbolOrders_quiet (fun orders => ?_)
    refine Quiet.bind (Quiet.refuseClose _ _) (fun _ => ?_)
    refine Quiet.bind (w.checkPosition_quiet request) (fun position => ?_)
    refine Quiet.bind (Quiet.floatOrZero _) (fun available => ?_)
    split
    · exact Quiet.pure _
    · refine Quiet.bind w.monotonicNow_quiet (fun now => ?_)
      exact Quiet.bind (Quiet.refuseClose _ _) (fun _ => Quiet.bind w.pause_quiet (fun _ => ih))

theorem prepareClose_quiet : Along Quiet (w.prepareClose request) := by
  unfold prepareClose
  refine Quiet.bind (w.checkPosition_quiet request) (fun position => ?_)
  refine Quiet.bind (w.checkSession_quiet request position) (fun _ => ?_)
  split
  · refine Quiet.bind (w.checkEntry_quiet request position _) (fun _ => ?_)
    exact Quiet.bind w.openSymbolOrders_quiet (fun _ => w.expandCloseOrders_quiet request _)
  · exact Quiet.bind w.openSymbolOrders_quiet (fun _ => w.expandCloseOrders_quiet request _)

theorem clearOrders_quiet (orders : List CloseOrder) (rounds : ℕ) :
    Along Quiet (w.clearOrders request orders rounds) := by
  unfold clearOrders
  refine Quiet.bind (Quiet.refuseClose _ _) (fun _ =>
    Quiet.bind (w.observed_quiet (fun _ => rfl)) (fun _ => ?_))
  refine Quiet.bind (w.cancelOrders_quiet orders) (fun _ => ?_)
  refine Quiet.bind w.monotonicNow_quiet (fun now => ?_)
  refine Quiet.bind (w.awaitCancelled_quiet orders _ rounds) (fun _ => ?_)
  refine Quiet.bind (Quiet.ask _) (fun attempts => ?_)
  exact Quiet.bind (w.observed_quiet (fun _ => rfl))
    (fun _ => w.awaitAvailable_quiet request _ rounds)

/-! ## What the checks have seen -/

/-- **The position is the one asked for**: its side reads as the direction. -/
def Matches (position : ClosePosition) : Prop :=
  w.enum position.side = request.direction.positionSide ∧ request.Amounts position

/-- The position is taken for the one asked for. -/
def TakenFor (position : ClosePosition) : Prop :=
  w.directionOf position = request.direction ∧ request.Amounts position

/-- **The order was read, ended and without a fill.** -/
def ReadEnded (order : CloseOrder) (event : CloseEvent) : Prop :=
  ∃ current : CloseOrder, event = .order order.fields.id false (.ok current)
    ∧ w.terminal current = true ∧ w.statusOf current ≠ "filled"
    ∧ (current.fields.filledQty = .absent ∨ current.fields.filledQty = .value (.finite 0))

/-- The order was read, ended, and did not show a positive fill. -/
def ReadUnfilled (order : CloseOrder) (event : CloseEvent) : Prop :=
  ∃ current : CloseOrder, event = .order order.fields.id false (.ok current)
    ∧ w.terminal current = true ∧ w.statusOf current ≠ "filled"
    ∧ (current.fields.filledQty = .absent
      ∨ ∃ filled, current.fields.filledQty = .value filled ∧ filled.positive = false)

/-- **An answer that says what it is taken for.** A position has a side that can be read,
where a short one is asked for; and the filled quantity of an order is positive or 0. -/
def Readable : CloseEvent → Prop
  | .position (.ok position) =>
    request.direction = .long ∨ w.enum position.side = "long" ∨ w.enum position.side = "short"
  | .order _ _ (.ok current) => current.fields.filledQty.Counts
  | _ => True

instance (event : CloseEvent) : Decidable (w.Readable request event) :=
  match event with
  | .position (.ok position) =>
    inferInstanceAs (Decidable (_ ∨ w.enum position.side = "long" ∨ w.enum position.side = "short"))
  | .order _ _ (.ok current) => inferInstanceAs (Decidable current.fields.filledQty.Counts)
  | .position (.error _) | .order _ _ (.error _) | .clock _ | .openOrders _ | .history _
  | .cancel _ _ | .submit _ _ | .observe _ _ => inferInstanceAs (Decidable True)

variable {w request} {s s' : CloseState}

theorem refuseClose_eq_ok {condition : Bool} {detail : String} {u : Unit}
    (h : refuseClose condition detail s = (.ok u, s')) : condition = false ∧ s' = s := by
  unfold refuseClose at h
  cases condition with
  | true => cases h
  | false =>
    cases h
    exact ⟨rfl, rfl⟩

theorem float_eq_ok {reading : BrokerReading BrokerNumber} {q : BrokerNumber}
    (h : float reading s = (.ok q, s')) :
    reading = .value q ∧ s' = s := by
  cases reading with
  | absent => cases h
  | unreadable => cases h
  | value q =>
    cases h
    exact ⟨rfl, rfl⟩

theorem floatOrZero_eq_ok {reading : BrokerReading BrokerNumber} {q : BrokerNumber}
    (h : floatOrZero reading s = (.ok q, s')) :
    (reading = .value q ∨ reading = .absent ∧ q = .finite 0) ∧ s' = s := by
  cases reading with
  | absent =>
    cases h
    exact ⟨Or.inr ⟨rfl, rfl⟩, rfl⟩
  | unreadable => cases h
  | value q =>
    cases h
    exact ⟨Or.inl rfl, rfl⟩

theorem checkPosition_eq_ok {position : ClosePosition}
    (h : w.checkPosition request s = (.ok position, s')) :
    s' = { s with trace := s.trace ++ [.position (.ok position)] }
      ∧ w.TakenFor request position := by
  unfold checkPosition at h
  rw [bind_eq_ok] at h
  obtain ⟨read, s₁, hread, h⟩ := h
  have hs₁ := call_eq_ok hread
  split at h
  · obtain ⟨u, s₂, hrefuse, -⟩ := bind_eq_ok.mp h
    exact absurd (refuseClose_eq_ok hrefuse).1 (by simp)
  · rename_i hside
    rw [bind_eq_ok] at h
    obtain ⟨qty, s₂, hqty, h⟩ := h
    rw [bind_eq_ok] at h
    obtain ⟨u, s₃, hrefuse, h⟩ := h
    obtain ⟨hreading, rfl⟩ := float_eq_ok hqty
    obtain ⟨hclose, rfl⟩ := refuseClose_eq_ok hrefuse
    cases h
    refine ⟨hs₁, not_not.mp hside, qty, hreading, ?_⟩
    simpa using hclose

theorem openSymbolOrders_eq_ok {orders : List CloseOrder}
    (h : w.openSymbolOrders s = (.ok orders, s')) :
    s' = { s with trace := s.trace ++ [.openOrders (.ok (some orders))] } := by
  unfold openSymbolOrders at h
  rw [bind_eq_ok] at h
  obtain ⟨answer, s₁, hread, h⟩ := h
  have hs₁ := call_eq_ok hread
  cases answer with
  | none => cases h
  | some orders =>
    rw [bind_eq_ok] at h
    obtain ⟨u, s₂, hrefuse, h⟩ := h
    obtain ⟨-, rfl⟩ := refuseClose_eq_ok hrefuse
    cases h
    exact hs₁

/-- **A round with nothing pending** read every order, ended and without a positive fill. -/
theorem pollOrders_eq_nil {orders : List CloseOrder}
    (h : w.pollOrders orders s = (.ok [], s')) :
    ∃ round, s'.trace = s.trace ++ round ∧ List.Forall₂ w.ReadUnfilled orders round := by
  induction orders generalizing s with
  | nil =>
    cases h
    exact ⟨[], by simp, List.Forall₂.nil⟩
  | cons order orders ih =>
    unfold pollOrders at h
    rw [bind_eq_ok] at h
    obtain ⟨current, s₁, hread, h⟩ := h
    have hs₁ := call_eq_ok hread
    dsimp only at h
    -- a filled order raises, so a round that returns has none
    by_cases hfilled : w.statusOf current = "filled"
    · rw [if_pos hfilled] at h
      obtain ⟨u, s₂, hrefuse, -⟩ := bind_eq_ok.mp h
      exact absurd (refuseClose_eq_ok hrefuse).1 (by simp)
    · rw [if_neg hfilled] at h
      rw [bind_eq_ok] at h
      obtain ⟨filled, s₂, hqty, h⟩ := h
      rw [bind_eq_ok] at h
      obtain ⟨u, s₃, hrefuse, h⟩ := h
      rw [bind_eq_ok] at h
      obtain ⟨pending, s₄, hrest, h⟩ := h
      obtain ⟨hreading, rfl⟩ := floatOrZero_eq_ok hqty
      obtain ⟨hfill, rfl⟩ := refuseClose_eq_ok hrefuse
      obtain ⟨hended, rfl, rfl⟩ : w.terminal current = true ∧ pending = [] ∧ s₄ = s' := by
        rw [pure_apply] at h
        split at h
        · rename_i hended
          cases h
          exact ⟨hended, rfl, rfl⟩
        · cases h
      obtain ⟨round, htrace, hround⟩ := ih hrest
      refine ⟨.order order.fields.id false (.ok current) :: round, ?_, ?_⟩
      · rw [htrace, hs₁]
        simp
      · refine List.Forall₂.cons ⟨current, rfl, hended, hfilled, ?_⟩ hround
        rcases hreading with hvalue | ⟨habsent, -⟩
        · exact .inr ⟨filled, hvalue, hfill⟩
        · exact .inl habsent

/-- **The first wait ends** with such a round. -/
theorem awaitCancelled_eq_ok {orders : List CloseOrder} {deadline : ℚ} {rounds : ℕ} {u : Unit}
    (h : w.awaitCancelled orders deadline rounds s = (.ok u, s')) :
    ∃ t round, s'.trace = s.trace ++ t ++ round ∧ List.Forall₂ w.ReadUnfilled orders round := by
  induction rounds generalizing s with
  | zero => cases h
  | succ rounds ih =>
    unfold awaitCancelled at h
    rw [bind_eq_ok] at h
    obtain ⟨pending, s₁, hpoll, h⟩ := h
    split at h
    · rename_i hnone
      cases h
      subst hnone
      obtain ⟨round, htrace, hround⟩ := pollOrders_eq_nil hpoll
      exact ⟨[], round, by simpa using htrace, hround⟩
    · rw [bind_eq_ok] at h
      obtain ⟨now, s₂, hnow, h⟩ := h
      rw [bind_eq_ok] at h
      obtain ⟨_, s₃, hrefuse, h⟩ := h
      rw [bind_eq_ok] at h
      obtain ⟨_, s₄, hpause, h⟩ := h
      have hquiet : s.Quiet s₄ :=
        Quiet.trans _ _ _ ((w.pollOrders_quiet orders).ok hpoll)
          (Quiet.trans _ _ _ (w.monotonicNow_quiet.ok hnow)
            (Quiet.trans _ _ _ ((Quiet.refuseClose _ _).ok hrefuse) (w.pause_quiet.ok hpause)))
      obtain ⟨t, ht, -⟩ := hquiet
      obtain ⟨t', round, htrace, hround⟩ := ih h
      exact ⟨t ++ t', round, by rw [htrace, ht]; simp, hround⟩

/-- **The second wait ends** with no order open and then the position available. -/
theorem awaitAvailable_eq_ok {deadline : ℚ} {rounds : ℕ} {position : ClosePosition}
    (h : w.awaitAvailable request deadline rounds s = (.ok position, s')) :
    ∃ t, s'.trace = s.trace ++ t ++ [.openOrders (.ok (some [])), .position (.ok position)]
      ∧ w.TakenFor request position ∧ request.Available position := by
  induction rounds generalizing s with
  | zero => cases h
  | succ rounds ih =>
    unfold awaitAvailable at h
    rw [bind_eq_ok] at h
    obtain ⟨orders, s₁, hopen, h⟩ := h
    rw [bind_eq_ok] at h
    obtain ⟨_, s₂, hempty, h⟩ := h
    rw [bind_eq_ok] at h
    obtain ⟨read, s₃, hcheck, h⟩ := h
    rw [bind_eq_ok] at h
    obtain ⟨available, s₄, hqty, h⟩ := h
    split at h
    · rename_i henough
      cases h
      have hs₁ := openSymbolOrders_eq_ok hopen
      obtain ⟨hnone, rfl⟩ := refuseClose_eq_ok hempty
      obtain ⟨hs₃, hmatches⟩ := checkPosition_eq_ok hcheck
      obtain ⟨hreading, rfl⟩ := floatOrZero_eq_ok hqty
      have horders : orders = [] := by simpa using hnone
      refine ⟨[], ?_, hmatches, available, hreading, henough⟩
      rw [hs₃, hs₁, horders]
      simp
    · rw [bind_eq_ok] at h
      obtain ⟨now, s₅, hnow, h⟩ := h
      rw [bind_eq_ok] at h
      obtain ⟨_, s₆, hrefuse, h⟩ := h
      rw [bind_eq_ok] at h
      obtain ⟨_, s₇, hpause, h⟩ := h
      have hquiet : s.Quiet s₇ :=
        Quiet.trans _ _ _ (w.openSymbolOrders_quiet.ok hopen)
          (Quiet.trans _ _ _ ((Quiet.refuseClose _ _).ok hempty)
            (Quiet.trans _ _ _ ((w.checkPosition_quiet request).ok hcheck)
              (Quiet.trans _ _ _ ((Quiet.floatOrZero _).ok hqty)
                (Quiet.trans _ _ _ (w.monotonicNow_quiet.ok hnow)
                  (Quiet.trans _ _ _ ((Quiet.refuseClose _ _).ok hrefuse)
                    (w.pause_quiet.ok hpause))))))
      -- a round that goes on has only read, and the last round is a later one's
      obtain ⟨t, ht, -⟩ := hquiet
      obtain ⟨t', htrace, hrest⟩ := ih h
      exact ⟨t ++ t', by rw [htrace, ht]; simp, hrest⟩

variable (w request)

/-- **The evidence for a submission**, in the calls before it: the group that the open
orders were expanded to; a round of reads of the orders of the group; after the round an
empty list of open orders, and after that a position that is available. -/
def Evidence (ended : CloseOrder → CloseEvent → Prop) (shown : ClosePosition → Prop)
    (before : List CloseEvent) : Prop :=
  ∃ (working orders : List CloseOrder) (s₁ s₂ : CloseState) (t₁ round t₂ t₃ : List CloseEvent)
    (position : ClosePosition),
    s₁.trace.getLast? = some (.openOrders (.ok (some working)))
      ∧ w.expandCloseOrders request working s₁ = (.ok orders, s₂)
      ∧ before = s₂.trace ++ t₁ ++ round ++ t₂
          ++ [.openOrders (.ok (some [])), .position (.ok position)] ++ t₃
      ∧ List.Forall₂ ended orders round
      ∧ shown position ∧ request.Available position

/-- **The submission is justified**: in the round every order of the group had ended without
a fill, and the position is the one that was asked for. -/
def Justified (before : List CloseEvent) : Prop :=
  w.Evidence request w.ReadEnded (w.Matches request) before

/-- What the checks have seen before they let a submission pass. -/
def Seen (before : List CloseEvent) : Prop :=
  w.Evidence request w.ReadUnfilled (w.TakenFor request) before

variable {w request}

theorem Readable.matches {position : ClosePosition}
    (hread : w.Readable request (.position (.ok position)))
    (h : w.TakenFor request position) : w.Matches request position := by
  obtain ⟨hdirection, hamounts⟩ := h
  refine ⟨?_, hamounts⟩
  unfold directionOf at hdirection
  split at hdirection
  · next hlong => rw [hlong, ← hdirection, Direction.positionSide]
  · next hlong =>
    rw [← hdirection, Direction.positionSide]
    rcases hread with h | h | h
    · exact absurd (hdirection.trans h) (by decide)
    · exact absurd h hlong
    · exact h

theorem Readable.ended {order : CloseOrder} {event : CloseEvent}
    (hread : w.Readable request event) (h : w.ReadUnfilled order event) :
    w.ReadEnded order event := by
  obtain ⟨current, rfl, hterminal, hstatus, hfill⟩ := h
  refine ⟨current, rfl, hterminal, hstatus, hfill.imp_right ?_⟩
  rintro ⟨filled, hvalue, hnot⟩
  replace hread : current.fields.filledQty.Counts := hread
  rw [hvalue] at hread
  rcases hread with hpositive | rfl
  · rw [hpositive] at hnot
    cases hnot
  · exact hvalue

theorem forall₂_ended {orders : List CloseOrder} {round : List CloseEvent}
    (hread : ∀ event ∈ round, w.Readable request event)
    (h : List.Forall₂ w.ReadUnfilled orders round) : List.Forall₂ w.ReadEnded orders round := by
  induction h with
  | nil => exact .nil
  | cons hevent _ ih =>
    obtain ⟨hfirst, hrest⟩ := List.forall_mem_cons.mp hread
    exact .cons (hfirst.ended hevent) (ih hrest)

/-- **Readable answers justify**: what was seen is the evidence. -/
theorem Seen.justified {before : List CloseEvent} (h : w.Seen request before)
    (hread : ∀ event ∈ before, w.Readable request event) : w.Justified request before := by
  obtain ⟨working, orders, s₁, s₂, t₁, round, t₂, t₃, position, hlast, hexpand, rfl, hround, htaken,
    havailable⟩ := h
  refine ⟨working, orders, s₁, s₂, t₁, round, t₂, t₃, position, hlast, hexpand, rfl,
    forall₂_ended (fun event h => hread event (by simp [h])) hround, ?_, havailable⟩
  exact (hread (.position (.ok position)) (by simp)).matches htaken

theorem prepareClose_eq_ok {orders : List CloseOrder}
    (h : w.prepareClose request s = (.ok orders, s')) :
    ∃ working s₁, s₁.trace.getLast? = some (.openOrders (.ok (some working)))
      ∧ w.expandCloseOrders request working s₁ = (.ok orders, s') := by
  have hlast : ∀ s₀ : CloseState, (do
      let working ← w.openSymbolOrders
      w.expandCloseOrders request working) s₀ = (.ok orders, s') →
      ∃ working s₁, s₁.trace.getLast? = some (.openOrders (.ok (some working)))
        ∧ w.expandCloseOrders request working s₁ = (.ok orders, s') := by
    intro s₀ h
    rw [bind_eq_ok] at h
    obtain ⟨working, s₁, hopen, hexpand⟩ := h
    refine ⟨working, s₁, ?_, hexpand⟩
    rw [openSymbolOrders_eq_ok hopen]
    simp
  unfold prepareClose at h
  rw [bind_eq_ok] at h
  obtain ⟨position, s₁, -, h⟩ := h
  rw [bind_eq_ok] at h
  obtain ⟨_, s₂, -, h⟩ := h
  split at h
  · rw [bind_eq_ok] at h
    obtain ⟨_, s₃, -, h⟩ := h
    exact hlast s₃ h
  · exact hlast s₂ h

/-- **What the waits have seen** when both are over. -/
theorem clearOrders_eq_ok {orders : List CloseOrder} {rounds : ℕ} {position : ClosePosition}
    (h : w.clearOrders request orders rounds s = (.ok position, s')) :
    ∃ t₁ round t₂, s'.trace = s.trace ++ t₁ ++ round ++ t₂
        ++ [.openOrders (.ok (some [])), .position (.ok position)]
      ∧ List.Forall₂ w.ReadUnfilled orders round
      ∧ w.TakenFor request position ∧ request.Available position := by
  unfold clearOrders at h
  rw [bind_eq_ok] at h
  obtain ⟨_, s₁, hmarket, h⟩ := h
  rw [bind_eq_ok] at h
  obtain ⟨_, s₂, hpreflight, h⟩ := h
  rw [bind_eq_ok] at h
  obtain ⟨_, s₃, hcancel, h⟩ := h
  rw [bind_eq_ok] at h
  obtain ⟨now, s₄, hnow, h⟩ := h
  rw [bind_eq_ok] at h
  obtain ⟨_, s₅, hwait, h⟩ := h
  rw [bind_eq_ok] at h
  obtain ⟨attempts, s₆, hattempts, h⟩ := h
  rw [bind_eq_ok] at h
  obtain ⟨_, s₇, hconfirmed, h⟩ := h
  cases hattempts
  have hbefore : s.Quiet s₄ :=
    Quiet.trans _ _ _ ((Quiet.refuseClose _ _).ok hmarket)
      (Quiet.trans _ _ _ ((w.observed_quiet (fun _ => rfl)).ok hpreflight)
        (Quiet.trans _ _ _ ((w.cancelOrders_quiet orders).ok hcancel)
          (w.monotonicNow_quiet.ok hnow)))
  obtain ⟨t₀, ht₀, -⟩ := hbefore
  obtain ⟨t₁, round, ht₁, hround⟩ := awaitCancelled_eq_ok hwait
  obtain ⟨t₂, ht₂, -⟩ := (w.observed_quiet (fun _ => rfl)).ok hconfirmed
  obtain ⟨t₃, ht₃, hmatches, havailable⟩ := awaitAvailable_eq_ok h
  refine ⟨t₀ ++ t₁, round, t₂ ++ t₃, ?_, hround, hmatches, havailable⟩
  rw [ht₃, ht₂, ht₁, ht₀]
  simp

/-! ## The submission -/

/-- Nothing changes. -/
def Same (s s' : CloseState) : Prop := s' = s

theorem same_pure {α : Type} (a : α) : Along Same (pure a : CloseRun α) :=
  fun _ => rfl

theorem same_raise {α : Type} (stop : CloseStop) : Along Same (raise stop : CloseRun α) :=
  fun _ => rfl

theorem same_bind {α β : Type} {m : CloseRun α} {next : α → CloseRun β} (hm : Along Same m)
    (hnext : ∀ a, Along Same (next a)) : Along Same (m >>= next) :=
  Along.bind (fun _ _ _ h h' => h'.trans h) hm hnext

theorem same_optional {α : Type} (reading : BrokerReading α) : Along Same (optional reading) := by
  cases reading with
  | absent => exact same_pure none
  | unreadable => exact same_raise _
  | value a => exact same_pure (some a)

theorem closeResult_same (order : CloseOrder) : Along Same (w.closeResult order) := by
  unfold closeResult
  refine same_bind ?_ (fun _ => same_bind ?_ (fun qty => same_bind (same_optional _) (fun price =>
    same_bind (same_optional _) (fun filledAt => same_pure _))))
  · unfold raiseIf
    split
    · exact same_raise _
    · exact same_pure _
  · cases order.fields.filledQty with
    | absent => exact same_pure _
    | unreadable => exact same_raise _
    | value q => exact same_pure q

/-- A result that was read off an order names it, and tells of a failure alone. -/
theorem closeResult_ok {order : CloseOrder} {result : OrderResult}
    (h : w.closeResult order s = (.ok result, s')) :
    result.orderId = some order.fields.id ∧ ∀ text, result.errorMessage = some text →
      text = "Close order ended with a partial fill; reconcile before another close."
        ∨ ∃ status ∈ ["canceled", "expired", "rejected"],
          text = s!"Broker close order {status}." := by
  unfold closeResult at h
  rw [bind_eq_ok] at h
  obtain ⟨_, s₁, -, h⟩ := h
  rw [bind_eq_ok] at h
  obtain ⟨qty, s₂, -, h⟩ := h
  rw [bind_eq_ok] at h
  obtain ⟨price, s₃, -, h⟩ := h
  rw [bind_eq_ok] at h
  obtain ⟨filledAt, s₄, -, h⟩ := h
  rw [Stateful.pure_apply, Prod.mk.injEq, Except.ok.injEq] at h
  obtain ⟨rfl, -⟩ := h
  refine ⟨rfl, fun text htext => ?_⟩
  dsimp only at htext
  split_ifs at htext with hfailure hqty
  · exact .inl (Option.some.inj htext).symm
  · exact .inr ⟨_, List.contains_iff_mem.mp hfailure, (Option.some.inj htext).symm⟩

theorem closeResult_orderId {order : CloseOrder} {result : OrderResult}
    (h : w.closeResult order s = (.ok result, s')) : result.orderId = some order.fields.id :=
  (closeResult_ok h).1

/-- The last words of a text that ends with another. -/
theorem ends_ne {front text : String} {n : ℕ} (hlong : n ≤ protectionKept.toList.length)
    (h : text.toList.reverse.take n ≠ protectionKept.toList.reverse.take n) :
    text ≠ front ++ protectionKept := by
  rintro rfl
  rw [String.toList_append, List.reverse_append, List.take_append_of_le_length (by simpa)] at h
  exact h rfl

/-- How the texts of a failure end. -/
theorem failure_ends :
    2 ≤ protectionKept.toList.length
      ∧ "Close order ended with a partial fill; reconcile before another close.".toList.reverse.take
          2 ≠ protectionKept.toList.reverse.take 2
      ∧ ∀ status ∈ ["canceled", "expired", "rejected"],
        s!"Broker close order {status}.".toList.reverse.take 2
          ≠ protectionKept.toList.reverse.take 2 := by
  simp [protectionKept, toString]

/-- No result that was read off an order speaks of protective orders. -/
theorem closeResult_message {order : CloseOrder} {result : OrderResult}
    (h : w.closeResult order s = (.ok result, s')) (front : String) :
    result.errorMessage ≠ some (front ++ protectionKept) := by
  intro hmessage
  obtain ⟨hlong, hpartial, hended⟩ := failure_ends
  obtain htext | ⟨status, hstatus, htext⟩ := (closeResult_ok h).2 _ hmessage
  · exact ends_ne hlong hpartial htext.symm
  · exact ends_ne hlong (hended status hstatus) htext.symm

/-- **A close that has submitted**: what came before was quiet and is the evidence for it,
and a result it returned names the order. -/
structure Submitted (w : CloseWorld) (request : PositionCloseRequest) (s : CloseState)
    (r : Except CloseStop OrderResult) (s' : CloseState) (before : CloseState) : Prop where
  quiet : s.Quiet before
  seen : w.Seen request before.trace
  trace : ∃ order answer, s'.trace = before.trace ++ [.submit order answer]
  attempts : s'.cancellationAttempts = before.cancellationAttempts
  submitting : s'.submitting = true
  named : ∀ result, r = .ok result → result.orderId ≠ none ∧ ∀ front,
    result.errorMessage ≠ some (front ++ protectionKept)

/-- The evidence stays when more was called before the submission. -/
theorem Seen.append {before : List CloseEvent} (h : w.Seen request before)
    (t : List CloseEvent) : w.Seen request (before ++ t) := by
  obtain ⟨working, orders, s₁, s₂, t₁, round, t₂, t₃, position, hlast, hexpand, rfl, hrest⟩ := h
  exact ⟨working, orders, s₁, s₂, t₁, round, t₂, t₃ ++ t, position, hlast, hexpand, by simp, hrest⟩

/-- **The submission** is made once, after checks that are quiet. -/
theorem submitClose_cases (position : ClosePosition) (hseen : w.Seen request s.trace) :
    (∃ stop, (w.submitClose request position s).1 = .error stop
        ∧ s.Quiet (w.submitClose request position s).2)
      ∨ ∃ before, Submitted w request s (w.submitClose request position s).1
        (w.submitClose request position s).2 before := by
  unfold submitClose
  rcases bind_cases (w.checkSession request position) _ s with
    ⟨stop, s₁, h₁, heq⟩ | ⟨_, s₁, h₁, heq⟩
  · rw [heq]
    refine Or.inl ⟨stop, rfl, ?_⟩
    have hquiet := w.checkSession_quiet request position s
    rwa [h₁] at hquiet
  rw [heq]
  have hquiet₁ := (w.checkSession_quiet request position).ok h₁
  have hnote : Along Quiet (w.observed (.submitting request.clientOrderId)) :=
    w.observed_quiet (fun _ => rfl)
  rcases bind_cases (w.observed (.submitting request.clientOrderId)) _ s₁ with
    ⟨stop, s₂, h₂, heq⟩ | ⟨_, s₂, h₂, heq⟩
  · rw [heq]
    refine Or.inl ⟨stop, rfl, Quiet.trans _ s₁ _ hquiet₁ ?_⟩
    have hquiet := hnote s₁
    rwa [h₂] at hquiet
  rw [heq]
  have hquiet₂ : s.Quiet s₂ := Quiet.trans _ s₁ _ hquiet₁ (hnote.ok h₂)
  obtain ⟨t, htrace, -⟩ := id hquiet₂
  have hbefore : w.Seen request s₂.trace := htrace ▸ hseen.append t
  -- the flag is set, and the one order is sent
  rcases bind_cases (change (fun s => { s with submitting := true }) : CloseRun Unit) _ s₂ with
    ⟨stop, s₃, h₃, -⟩ | ⟨_, s₃, h₃, heq⟩
  · cases h₃
  rw [heq]
  cases h₃
  have hsent := call_snd (.submit (w.closingOrder request position))
    (fun n => w.submitOrder n (w.closingOrder request position)) { s₂ with submitting := true }
  rcases bind_cases (call (.submit (w.closingOrder request position))
    (fun n => w.submitOrder n (w.closingOrder request position))) w.closeResult
      { s₂ with submitting := true } with ⟨stop, s₄, h₄, heq⟩ | ⟨order, s₄, h₄, heq⟩
  · rw [heq]
    rw [h₄] at hsent
    dsimp only at hsent
    subst hsent
    refine Or.inr ⟨s₂, hquiet₂, hbefore, ⟨_, _, rfl⟩, rfl, rfl, fun result hresult => ?_⟩
    cases hresult
  · rw [heq]
    rw [h₄] at hsent
    dsimp only at hsent
    have hsame : (w.closeResult order s₄).2 = s₄ := closeResult_same order s₄
    rw [hsame]
    refine Or.inr ⟨s₂, hquiet₂, hbefore, ⟨_, _, by rw [hsent]⟩, by rw [hsent], by rw [hsent],
      fun result hresult => ?_⟩
    have hok : w.closeResult order s₄ = (.ok result, s₄) := Prod.ext hresult hsame
    exact ⟨by rw [closeResult_orderId hok]; simp, closeResult_message hok⟩

/-- **The steps submit nothing, or submit once on the evidence.** -/
theorem closeSteps_cases (w : CloseWorld) (request : PositionCloseRequest) (rounds : ℕ)
    (s : CloseState) :
    (∃ stop, (w.closeSteps request rounds s).1 = .error stop
        ∧ s.Quiet (w.closeSteps request rounds s).2)
      ∨ ∃ before, Submitted w request s (w.closeSteps request rounds s).1
        (w.closeSteps request rounds s).2 before := by
  unfold closeSteps
  rcases bind_cases (w.prepareClose request) _ s with ⟨stop, s₁, h₁, heq⟩ | ⟨orders, s₁, h₁, heq⟩
  · rw [heq]
    refine Or.inl ⟨stop, rfl, ?_⟩
    have hquiet := w.prepareClose_quiet request s
    rwa [h₁] at hquiet
  rw [heq]
  have hquiet₁ := (w.prepareClose_quiet request).ok h₁
  rcases bind_cases (w.clearOrders request orders rounds) _ s₁ with
    ⟨stop, s₂, h₂, heq⟩ | ⟨position, s₂, h₂, heq⟩
  · rw [heq]
    refine Or.inl ⟨stop, rfl, Quiet.trans _ s₁ _ hquiet₁ ?_⟩
    have hquiet := w.clearOrders_quiet request orders rounds s₁
    rwa [h₂] at hquiet
  rw [heq]
  have hquiet₂ : s.Quiet s₂ :=
    Quiet.trans _ s₁ _ hquiet₁ ((w.clearOrders_quiet request orders rounds).ok h₂)
  obtain ⟨working, s₀, hlast, hexpand⟩ := prepareClose_eq_ok h₁
  obtain ⟨t₁, round, t₂, htrace, hround, htaken, havailable⟩ := clearOrders_eq_ok h₂
  have hseen : w.Seen request s₂.trace :=
    ⟨working, orders, s₀, s₁, t₁, round, t₂, [], position, hlast, hexpand, by simpa using htrace,
      hround, htaken, havailable⟩
  rcases submitClose_cases position hseen with ⟨stop, hstop, hquiet⟩ | ⟨before, hsubmitted⟩
  · exact Or.inl ⟨stop, hstop, Quiet.trans _ s₂ _ hquiet₂ hquiet⟩
  · exact Or.inr ⟨before, { hsubmitted with
      quiet := Quiet.trans _ s₂ _ hquiet₂ hsubmitted.quiet }⟩

/-! ## The handler -/

/-- **What a handler leaves**: at most reports of failures, each worded after the state in
which the steps stopped, as is a result that is returned. -/
structure Reported (s : CloseState) (r : Except CloseStop OrderResult) (s' : CloseState)
    (t : List CloseEvent) : Prop where
  state : s' = { s with trace := s.trace ++ t }
  submissions : submissions t = []
  cancellations : cancellations t = []
  failures : ∀ text ∈ failures t, ∃ exception,
    text = failureDetail exception s.submitting s.cancellationAttempts
  result : ∀ result, r = .ok result → result.submissionUncertain = s.submitting
    ∧ ∃ exception, result.errorMessage
      = some (failureDetail exception s.submitting s.cancellationAttempts)

theorem reportFailure_reported (exception : CloseException) (s : CloseState) :
    ∃ t, Reported s (w.reportFailure exception s).1 (w.reportFailure exception s).2 t := by
  have hstate := call_snd (.observe (.failed (typeName exception)
    (failureDetail exception s.submitting s.cancellationAttempts) s.submitting
      (s.cancellationAttempts ≠ []))) (fun n => w.observe n (.failed (typeName exception)
    (failureDetail exception s.submitting s.cancellationAttempts) s.submitting
      (s.cancellationAttempts ≠ []))) s
  unfold reportFailure
  rcases bind_cases (ask (fun s => s) : CloseRun CloseState) _ s with
    ⟨stop, s₁, h₁, -⟩ | ⟨_, s₁, h₁, heq⟩
  · cases h₁
  rw [heq]
  cases h₁
  dsimp only
  rcases bind_cases (w.observed (.failed (typeName exception)
    (failureDetail exception s.submitting s.cancellationAttempts) s.submitting
      (s.cancellationAttempts ≠ []))) _ s with ⟨stop, s₁, h₁, heq⟩ | ⟨_, s₁, h₁, heq⟩
  · rw [heq]
    unfold observed at h₁
    rw [h₁] at hstate
    refine ⟨_, hstate, rfl, rfl, ?_, ?_⟩
    · intro text htext
      exact ⟨exception, List.mem_singleton.mp htext⟩
    · intro result hresult
      cases hresult
  · rw [heq]
    unfold observed at h₁
    rw [h₁] at hstate
    refine ⟨_, hstate, rfl, rfl, ?_, ?_⟩
    · intro text htext
      exact ⟨exception, List.mem_singleton.mp htext⟩
    · intro result hresult
      cases hresult
      exact ⟨rfl, exception, rfl⟩

theorem closeFailed_reported (stop : CloseStop) (s : CloseState) :
    ∃ t, Reported s (w.closeFailed stop s).1 (w.closeFailed stop s).2 t := by
  have hraise : ∀ stop : CloseStop, Reported s (raise stop s : Except CloseStop OrderResult × _).1
      (raise stop s : Except CloseStop OrderResult × _).2 [] := fun stop =>
    ⟨by simp [raise_apply], rfl, rfl, by simp [failures], by simp [raise_apply]⟩
  cases stop with
  | running => exact ⟨[], hraise _⟩
  | raised exception =>
    cases exception with
    | cancelled => exact ⟨[], hraise _⟩
    | refused detail => exact reportFailure_reported _ s
    | api code => exact reportFailure_reported _ s
    | error name => exact reportFailure_reported _ s

/-- A failure that says the protective orders were left unchanged was told of no
cancellation. -/
theorem failureDetail_kept {exception : CloseException} {submitting : Bool}
    {attempts : List String} {front : String}
    (h : failureDetail exception submitting attempts = front ++ protectionKept) :
    attempts = [] := by
  by_contra hattempts
  unfold failureDetail at h
  rw [if_pos hattempts] at h
  refine ends_ne (n := 2) (by decide) ?_ h
  rw [String.toList_append, List.reverse_append, List.take_append_of_le_length (by decide)]
  decide

theorem quiet_start {s : CloseState} (h : CloseState.start.Quiet s) :
    submissions s.trace = [] ∧ failures s.trace = []
      ∧ s.cancellationAttempts = cancellations s.trace ∧ s.submitting = false := by
  obtain ⟨t, htrace, hsubmit, hfail, hattempts, hsubmitting⟩ := h
  rw [show s.trace = t from htrace]
  exact ⟨hsubmit, hfail, hattempts, hsubmitting⟩

/-- **The whole of what a close may leave**, with what comes before its submission. -/
structure SafeOn (evidence : List CloseEvent → Prop) (r : Except CloseStop OrderResult)
    (trace : List CloseEvent) : Prop where
  once : (submissions trace).length ≤ 1
  justified : ∀ before after order answer, trace = before ++ .submit order answer :: after →
    evidence before
  certain : ∀ result, r = .ok result → result.success = false →
    result.submissionUncertain = false → result.orderId = none → submissions trace = []
  unchanged : ∀ text front, text = front ++ protectionKept →
    (∃ result, r = .ok result ∧ result.errorMessage = some text) ∨ text ∈ failures trace →
    cancellations trace = []

/-- **A close that is safe**: it submits on the evidence for it. -/
def Safe (w : CloseWorld) (request : PositionCloseRequest) (r : Except CloseStop OrderResult)
    (trace : List CloseEvent) : Prop :=
  SafeOn (w.Justified request) r trace

/-- Steps that submitted nothing, and their handler. -/
theorem safe_of_quiet {evidence : List CloseEvent → Prop} {s s' : CloseState}
    {r : Except CloseStop OrderResult} {t : List CloseEvent}
    (hquiet : CloseState.start.Quiet s) (h : Reported s r s' t) : SafeOn evidence r s'.trace := by
  obtain ⟨hsubmit, hfail, hattempts, -⟩ := quiet_start hquiet
  have hnone : submissions s'.trace = [] := by
    have hrest := h.submissions
    rw [h.state]
    unfold submissions at *
    rw [List.filter_append, hsubmit, hrest, List.append_nil]
  have hkept : s.cancellationAttempts = [] → cancellations s'.trace = [] := by
    intro hnil
    have hrest := h.cancellations
    rw [hattempts] at hnil
    rw [h.state]
    unfold cancellations at *
    rw [List.filterMap_append, hnil, hrest, List.append_nil]
  -- nothing is submitted, and nothing was cancelled where `protectionKept` is said
  refine ⟨by simp [hnone], fun before after order answer htrace => ?_, fun _ _ _ _ _ => hnone,
    fun text front htext hsaid => hkept ?_⟩
  · rw [htrace] at hnone
    simp [submissions, CloseEvent.isSubmit] at hnone
  · rcases hsaid with ⟨result, hresult, hmessage⟩ | hreported
    · obtain ⟨-, exception, hdetail⟩ := h.result result hresult
      rw [hmessage] at hdetail
      exact failureDetail_kept ((Option.some.inj hdetail).symm.trans htext)
    · have hmem : text ∈ failures t := by
        rw [h.state] at hreported
        unfold failures at *
        rw [List.filterMap_append, hfail, List.nil_append] at hreported
        exact hreported
      obtain ⟨exception, hdetail⟩ := h.failures text hmem
      exact failureDetail_kept (hdetail.symm.trans htext)

/-- A trace with one submission splits at it in one way. -/
theorem submission_split {before after front back : List CloseEvent} {e e' : CloseEvent}
    (hbefore : submissions before = []) (hafter : submissions after = []) (he : e'.isSubmit = true)
    (h : before ++ e :: after = front ++ e' :: back) : front = before := by
  have hnot : ∀ l : List CloseEvent, submissions l = [] → e' ∉ l := by
    intro l hl hmem
    unfold submissions at hl
    rw [List.filter_eq_nil_iff] at hl
    exact hl e' hmem he
  rcases List.append_eq_append_iff.mp h with ⟨c, rfl, hc⟩ | ⟨c, rfl, hc⟩
  · cases c with
    | nil => simp
    | cons x c =>
      have hin : e' ∈ after := by
        rw [(List.cons.inj hc).2]
        simp
      exact absurd hin (hnot after hafter)
  · cases c with
    | nil => simp
    | cons x c =>
      have hx : e' = x := (List.cons.inj hc).1
      exact absurd (by simp [hx]) (hnot _ hbefore)

/-- One submission on the evidence, and after it at most reports. -/
theorem safe_of_submission {before : CloseState} {r : Except CloseStop OrderResult}
    {t : List CloseEvent} {order : MarketOrder} {answer : Except CloseException CloseOrder}
    (hquiet : CloseState.start.Quiet before) (hseen : w.Seen request before.trace)
    (hsubmit : submissions t = []) (hcancel : cancellations t = [])
    (hcertain : ∀ result, r = .ok result → result.submissionUncertain = false →
      result.orderId ≠ none)
    (hunchanged : ∀ front, (∃ result, r = .ok result
      ∧ result.errorMessage = some (front ++ protectionKept))
        ∨ front ++ protectionKept ∈ failures t →
      before.cancellationAttempts = []) :
    SafeOn (w.Seen request) r (before.trace ++ .submit order answer :: t) := by
  obtain ⟨hnone, hfail, hattempts, -⟩ := quiet_start hquiet
  refine ⟨?_, fun front back order' answer' htrace => ?_, fun result hr _ hsure hid => ?_,
    fun text front htext hsaid => ?_⟩
  · unfold submissions at *
    rw [List.filter_append, hnone, List.nil_append, List.filter_cons_of_pos rfl, hsubmit]
    rfl
  · rwa [submission_split hnone hsubmit rfl htrace]
  · exact absurd hid (hcertain result hr hsure)
  · have hnil : before.cancellationAttempts = [] := by
      refine hunchanged front ?_
      rw [← htext]
      refine hsaid.imp_right (fun hreported => ?_)
      unfold failures at *
      rw [List.filterMap_append, hfail, List.nil_append,
        List.filterMap_cons_none rfl] at hreported
      exact hreported
    rw [hattempts] at hnil
    unfold cancellations at *
    rw [List.filterMap_append, hnil, List.nil_append, List.filterMap_cons_none rfl, hcancel]

/-- Steps that submitted and returned. -/
theorem safe_of_submitted {s before : CloseState} {result : OrderResult}
    (h : Submitted w request .start (.ok result) s before) :
    SafeOn (w.Seen request) (.ok result) s.trace := by
  obtain ⟨order, answer, htrace⟩ := h.trace
  obtain ⟨hid, hmessage⟩ := h.named result rfl
  rw [htrace]
  refine safe_of_submission h.quiet h.seen rfl rfl (fun _ hr _ => ?_) (fun front hsaid => ?_)
  · cases hr
    exact hid
  · rcases hsaid with ⟨_, hr, hsaid⟩ | hsaid
    · cases hr
      exact absurd hsaid (hmessage front)
    · simp [failures] at hsaid

/-- Steps that submitted and stopped, and their handler. -/
theorem safe_of_uncertain {s s' before : CloseState} {r r' : Except CloseStop OrderResult}
    {t : List CloseEvent} (h : Submitted w request .start r s before)
    (hreported : Reported s r' s' t) : SafeOn (w.Seen request) r' s'.trace := by
  obtain ⟨order, answer, htrace⟩ := h.trace
  have htrace' : s'.trace = before.trace ++ .submit order answer :: t := by
    rw [hreported.state]
    dsimp only
    rw [htrace, List.append_assoc]
    rfl
  rw [htrace']
  refine safe_of_submission h.quiet h.seen hreported.submissions hreported.cancellations
    (fun result hr hsure => ?_) (fun front hsaid => ?_)
  · have huncertain := (hreported.result result hr).1
    rw [hsure, h.submitting] at huncertain
    cases huncertain
  · rw [← h.attempts]
    rcases hsaid with ⟨result, hr, hmessage⟩ | hsaid
    · obtain ⟨-, exception, hdetail⟩ := hreported.result result hr
      rw [hmessage] at hdetail
      exact failureDetail_kept (Option.some.inj hdetail).symm
    · obtain ⟨exception, hdetail⟩ := hreported.failures _ hsaid
      exact failureDetail_kept hdetail.symm

/-- Nothing was called. -/
theorem safe_nil {evidence : List CloseEvent → Prop} {r : Except CloseStop OrderResult} :
    SafeOn evidence r [] :=
  ⟨Nat.zero_le _, fun before after order answer h => by simp at h, fun _ _ _ _ _ => rfl,
    fun _ _ _ _ => rfl⟩

/-- **A close submits once, after its checks**, whatever the broker answers and wherever it
raises, however many rounds its waits have taken. -/
theorem submitPositionClose_safeOn (w : CloseWorld) (request : PositionCloseRequest)
    (rounds : ℕ) :
    SafeOn (w.Seen request) (w.submitPositionClose request rounds .start).1
      (w.submitPositionClose request rounds .start).2.trace := by
  unfold submitPositionClose
  cases hconnect : w.connect with
  | error exception => exact safe_nil
  | ok connected =>
    cases connected with
    | false => exact safe_nil
    | true =>
      dsimp only
      unfold handle
      have hcases := w.closeSteps_cases request rounds .start
      rcases hsteps : w.closeSteps request rounds .start with ⟨stop | result, s⟩
      · rw [hsteps] at hcases
        obtain ⟨t, hreported⟩ := closeFailed_reported (w := w) stop s
        rcases hcases with ⟨-, -, hquiet⟩ | ⟨before, hsubmitted⟩
        · exact safe_of_quiet hquiet hreported
        · exact safe_of_uncertain hsubmitted hreported
      · rw [hsteps] at hcases
        rcases hcases with ⟨stop, hstop, -⟩ | ⟨before, hsubmitted⟩
        · cases hstop
        · exact safe_of_submitted hsubmitted

end CloseWorld

/-- Ten shares, with a stop that is cancelled when it is asked for. -/
def closeSampleWorld (side : String) : CloseWorld :=
  let order (status : String) : CloseOrder := .mk ⟨"s-1", "AAPL", "sell", "stop", "stop", "simple",
    status, .value (.finite 0), .absent, .absent, none⟩ []
  { connect := .ok true
    position := fun _ => .ok ⟨side, "us_equity", .value (.finite 10), .value (.finite 10),
      .value (.finite 100)⟩
    clock := fun _ => .ok ⟨true, none⟩
    openOrders := fun n => .ok (some (if n < 4 then [order "new"] else []))
    history := fun _ => .ok (some [])
    orderById := fun n _ _ => .ok (order (if n < 6 then "new" else "canceled"))
    cancelOrderById := fun _ _ => .ok ()
    submitOrder := fun _ _ => .ok (.mk ⟨"c-1", "AAPL", "sell", "market", "market", "simple",
      "accepted", .value (.finite 0), .absent, .absent, none⟩ [])
    observe := fun _ _ => .ok ()
    sleep := fun _ => .ok ()
    monotonic := fun n => n
    closeCancelTimeoutSeconds := 30
    lower := fun text => text
    upper := fun text => text }

/-- A request to close ten shares. -/
def closeSampleRequest (direction : Direction) : PositionCloseRequest :=
  ⟨"AAPL", direction, 10, "close-1", none, false, by decide +kernel⟩

/-- Its run with two rounds. -/
def closeSampleRun (side : String) (direction : Direction) :
    Except CloseStop OrderResult × CloseState :=
  (closeSampleWorld side).submitPositionClose (closeSampleRequest direction) 2 .start

example : (submissions (closeSampleRun "long" .long).2.trace).length = 1
    ∧ cancellations (closeSampleRun "long" .long).2.trace = ["s-1"] := by
  decide +kernel

end AgenticTrader
