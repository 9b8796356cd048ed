import AgenticTrader.Alpha.Registry
import AgenticTrader.Library.Table

/-!
# Reading the orders of the broker

`AlpacaBroker.observe_orders` (`broker/alpaca.py`): one pass reads the recent
history page by page, then the open orders, then every order that is asked for
or that replaces another, one by one. An order is read with its legs nested
under it, and a leg read that way is observed with the order above it as its
parent; the same leg read by itself comes without one. The pass keeps the last
observation of every order.

What the broker answers is a parameter (`AlpacaClient`). Its answers are
already strings and times; `str`, and the lower case of enumerations, are those
of the observation.
-/

namespace AgenticTrader

/-- `ALPACA_MAX_ORDERS_PER_PAGE`. -/
def alpacaMaxOrdersPerPage : ℕ := 500

/-- **An order as the broker shows it**, with its legs. -/
inductive BrokerOrder where
  | mk (fields : OrderObservation) (legs : List BrokerOrder)

namespace BrokerOrder

def fields : BrokerOrder → OrderObservation
  | mk fields _ => fields

/-- **`_observation`.** -/
def observation (fields : OrderObservation) (parent : Option String) : OrderObservation :=
  { fields with parentOrderId := parent, source := "rest" }

mutual

/-- The observations of an order and of everything nested in it, in the order
they are made. -/
def showings (parent : Option String) : BrokerOrder → List OrderObservation
  | mk fields legs => observation fields parent :: showingsOfLegs fields.orderId legs

def showingsOfLegs (parent : String) : List BrokerOrder → List OrderObservation
  | [] => []
  | leg :: legs => showings (some parent) leg ++ showingsOfLegs parent legs

end

/-- `observations[obs.order_id] = obs`. -/
def store (observations : List OrderObservation) (obs : OrderObservation) :
    List OrderObservation :=
  if observations.any (fun o => o.orderId == obs.orderId) then
    Table.updateWhere (fun o => o.orderId == obs.orderId) (fun _ => obs) observations
  else observations ++ [obs]

mutual

/-- **`collect`.** -/
def collect (parent : Option String) :
    BrokerOrder → List OrderObservation → List OrderObservation
  | mk fields legs, observations =>
    collectLegs fields.orderId legs (store observations (observation fields parent))

def collectLegs (parent : String) :
    List BrokerOrder → List OrderObservation → List OrderObservation
  | [], observations => observations
  | leg :: legs, observations =>
    collectLegs parent legs (collect (some parent) leg observations)

end

end BrokerOrder

/-- **What the broker answers**: the pages of the history, the open orders, and
one order. -/
structure AlpacaClient where
  history : ℕ → Time → Except String (List BrokerOrder)
  openOrders : Except String (List BrokerOrder)
  orderById : String → Except String BrokerOrder

/-- **A pass**: what was read, and what is kept of it. -/
structure OrderPass where
  reads : List BrokerOrder
  observations : List OrderObservation

namespace OrderPass

def start : OrderPass := ⟨[], []⟩

def read (pass : OrderPass) (order : BrokerOrder) : OrderPass :=
  ⟨pass.reads ++ [order], order.collect none pass.observations⟩

/-- The orders that replaced an observed one. -/
def replacements (pass : OrderPass) : List String :=
  (pass.observations.filterMap OrderObservation.replacedBy).filter (fun id => id ≠ "")

/-- The loop over the history, with the pages that may still be read. -/
def historyPages (client : AlpacaClient) : ℕ → ℕ → Time → OrderPass → Except String OrderPass
  | 0, _, _, _ => .error "Order journal page limit reached; journal incomplete"
  | n + 1, page, after, pass => do
    let orders ← client.history page after
    let pass' := orders.foldl read pass
    if orders.length < alpacaMaxOrdersPerPage then .ok pass'
    else
      match orders.getLast?.bind (fun o => o.fields.submittedAt) with
      | none => .error "Order history pagination did not advance; journal incomplete"
      | some (.naive _) => .error "can't compare offset-naive and offset-aware datetimes"
      | some (.aware cursor) => do
        refuse (decide (cursor ≤ after))
          "Order history pagination did not advance; journal incomplete"
        refuse (decide (orders.head?.bind (fun o => o.fields.submittedAt) = some (.aware cursor)))
          "Order history page has an ambiguous timestamp boundary"
        historyPages client n (page + 1) (cursor - 1) pass'

/-- The next order that was not looked up yet, from the top of the stack. -/
def nextPending (seen : List String) : List String → Option (String × List String)
  | [] => none
  | id :: rest => if seen.contains id then nextPending seen rest else some (id, rest)

/-- The loop over the exact lookups, with the lookups that may still be made. -/
def lookups (client : AlpacaClient) : ℕ → OrderPass → List String → List String →
    Except String OrderPass
  | n, pass, pending, seen =>
    match nextPending seen pending with
    | none => .ok pass
    | some (id, rest) =>
      match n with
      | 0 => .error "Order reference traversal limit reached"
      | n + 1 => do
        let order ← client.orderById id
        let pass' := pass.read order
        let seen' := id :: seen
        lookups client n pass'
          ((pass'.replacements.filter (fun r => !seen'.contains r)).reverse ++ rest) seen'

/-- **`observe_orders`.** -/
def observeOrders (client : AlpacaClient) (maxPages : ℕ) (historyDays : ℤ) (now : Time)
    (orderIds : List String) : Except String OrderPass := do
  let pass ← historyPages client maxPages 0 (now - historyDays * 86400000000) start
  let openOrders ← client.openOrders
  refuse (decide (alpacaMaxOrdersPerPage ≤ openOrders.length))
    "Open-order journal snapshot is truncated"
  let pass := openOrders.foldl read pass
  let pending := (orderIds ++ pass.replacements).reverse.dedup.reverse
  lookups client (maxPages * alpacaMaxOrdersPerPage) pass pending.reverse []

end OrderPass

/-! ## What a pass keeps -/

namespace BrokerOrder

mutual

/-- What is collected of an order is what it shows, one observation after the
other. -/
theorem collect_eq (parent : Option String) : ∀ (order : BrokerOrder)
    (observations : List OrderObservation),
    order.collect parent observations = (order.showings parent).foldl store observations
  | .mk fields legs, observations => by
    unfold collect showings
    rw [List.foldl_cons, collectLegs_eq fields.orderId legs]

theorem collectLegs_eq (parent : String) : ∀ (legs : List BrokerOrder)
    (observations : List OrderObservation),
    collectLegs parent legs observations = (showingsOfLegs parent legs).foldl store observations
  | [], _ => by
    unfold collectLegs showingsOfLegs
    rfl
  | leg :: legs, observations => by
    unfold collectLegs showingsOfLegs
    rw [List.foldl_append, collect_eq (some parent) leg, collectLegs_eq parent legs]

end

/-- The observation of the order that is stored. -/
theorem find?_store_self (observations : List OrderObservation) (obs : OrderObservation) :
    (store observations obs).find? (fun o => o.orderId == obs.orderId) = some obs := by
  unfold store
  split
  · rename_i hany
    induction observations with
    | nil => simp at hany
    | cons o rest ih =>
      unfold Table.updateWhere at ih ⊢
      by_cases ho : o.orderId = obs.orderId
      · simp [ho]
      · simp only [List.any_cons, beq_eq_false_iff_ne.mpr ho, Bool.false_or] at hany
        simpa [ho] using ih hany
  · rename_i hany
    have hnone : observations.find? (fun o => o.orderId == obs.orderId) = none := by
      simpa using hany
    rw [List.find?_append, hnone]
    simp

/-- The observation of another order. -/
theorem find?_store_ne (observations : List OrderObservation) {obs : OrderObservation}
    {id : String} (hne : obs.orderId ≠ id) :
    (store observations obs).find? (fun o => o.orderId == id)
      = observations.find? (fun o => o.orderId == id) := by
  unfold store
  split
  · clear * - hne
    unfold Table.updateWhere
    induction observations with
    | nil => rfl
    | cons o rest ih =>
      by_cases ho : o.orderId = obs.orderId
      · have hid : o.orderId ≠ id := fun he => hne (ho.symm.trans he)
        simpa [ho, hne, hid] using ih
      · by_cases hid : o.orderId = id
        · simp [hid, Ne.symm hne]
        · simpa [ho, hid] using ih
  · rw [List.find?_append]
    simp [hne]

/-- **The last showing of an order is kept.** -/
theorem find?_foldl_store {shown : List OrderObservation} {id : String} {o : OrderObservation} :
    (shown.foldl store []).find? (fun o => o.orderId == id) = some o
      ↔ ∃ before after, shown = before ++ o :: after ∧ o.orderId = id
        ∧ ∀ p ∈ after, p.orderId ≠ id := by
  induction shown using List.reverseRecOn with
  | nil => simp
  | append_singleton shown last ih =>
    rw [List.foldl_concat]
    by_cases hid : last.orderId = id
    · subst hid
      rw [find?_store_self]
      constructor
      · intro h
        cases h
        exact ⟨shown, [], rfl, rfl, by simp⟩
      · rintro ⟨before, after, heq, -, hafter⟩
        rcases List.eq_nil_or_concat' after with rfl | ⟨after', p, rfl⟩
        · obtain ⟨-, he⟩ := List.append_inj' heq rfl
          exact congrArg some (List.cons.inj he).1
        · have hp : last = p := by
            rw [← List.cons_append, ← List.append_assoc] at heq
            exact (List.cons.inj (List.append_inj' heq rfl).2).1
          exact absurd (congrArg OrderObservation.orderId hp.symm) (hafter p (by simp))
    · rw [find?_store_ne _ hid, ih]
      constructor
      · rintro ⟨before, after, rfl, ho, hafter⟩
        refine ⟨before, after ++ [last], by simp, ho, fun p hp => ?_⟩
        rcases List.mem_append.mp hp with hp | hp
        · exact hafter p hp
        · rw [List.mem_singleton.mp hp]
          exact hid
      · rintro ⟨before, after, heq, ho, hafter⟩
        rcases List.eq_nil_or_concat' after with rfl | ⟨after', p, rfl⟩
        · obtain ⟨-, he⟩ := List.append_inj' heq rfl
          exact absurd ((List.cons.inj he).1 ▸ ho) hid
        · rw [← List.cons_append, ← List.append_assoc] at heq
          obtain ⟨hs, -⟩ := List.append_inj' heq rfl
          exact ⟨before, after', hs, ho, fun q hq => hafter q (List.mem_append_left _ hq)⟩

end BrokerOrder

namespace OrderPass

/-- What the reads of a pass showed, in order. -/
def shown (pass : OrderPass) : List OrderObservation :=
  pass.reads.flatMap (BrokerOrder.showings none)

/-- The pass keeps what it was shown, the last showing of each order. -/
def Keeps (pass : OrderPass) : Prop :=
  pass.observations = pass.shown.foldl BrokerOrder.store []

theorem Keeps.read {pass : OrderPass} (h : pass.Keeps) (order : BrokerOrder) :
    (pass.read order).Keeps := by
  unfold Keeps shown OrderPass.read at *
  rw [List.flatMap_append, List.foldl_append, ← h, BrokerOrder.collect_eq]
  simp

theorem Keeps.reads {pass : OrderPass} (h : pass.Keeps) (orders : List BrokerOrder) :
    (orders.foldl OrderPass.read pass).Keeps := by
  induction orders generalizing pass with
  | nil => exact h
  | cons order orders ih => exact ih (h.read order)

theorem Keeps.historyPages {client : AlpacaClient} {pages page : ℕ} {after : Time}
    {pass pass' : OrderPass} (hk : pass.Keeps)
    (h : OrderPass.historyPages client pages page after pass = .ok pass') : pass'.Keeps := by
  induction pages generalizing page after pass with
  | zero => cases h
  | succ n ih =>
    unfold OrderPass.historyPages at h
    obtain ⟨orders, -, h⟩ := except_bind_eq_ok.mp h
    dsimp only at h
    split at h
    · cases h
      exact hk.reads orders
    · split at h
      · cases h
      · cases h
      · obtain ⟨-, h⟩ := refuse_bind_eq_ok.mp h
        obtain ⟨-, h⟩ := refuse_bind_eq_ok.mp h
        exact ih (hk.reads orders) h

theorem Keeps.lookups {client : AlpacaClient} {n : ℕ} {pass pass' : OrderPass}
    {pending seen : List String} (hk : pass.Keeps)
    (h : OrderPass.lookups client n pass pending seen = .ok pass') : pass'.Keeps := by
  induction n generalizing pass pending seen with
  | zero =>
    unfold OrderPass.lookups at h
    split at h
    · cases h
      exact hk
    · cases h
  | succ n ih =>
    unfold OrderPass.lookups at h
    split at h
    · cases h
      exact hk
    · obtain ⟨order, -, h⟩ := except_bind_eq_ok.mp h
      exact ih (hk.read order) h

/-- **A pass keeps the last showing of every order.** -/
theorem keeps_observeOrders {client : AlpacaClient} {maxPages : ℕ} {historyDays : ℤ} {now : Time}
    {orderIds : List String} {pass : OrderPass}
    (h : OrderPass.observeOrders client maxPages historyDays now orderIds = .ok pass) :
    pass.Keeps := by
  unfold OrderPass.observeOrders at h
  obtain ⟨pass₁, h₁, h⟩ := except_bind_eq_ok.mp h
  obtain ⟨orders, -, h⟩ := except_bind_eq_ok.mp h
  obtain ⟨-, h⟩ := refuse_bind_eq_ok.mp h
  have hstart : OrderPass.start.Keeps := rfl
  exact ((hstart.historyPages h₁).reads orders).lookups h

end OrderPass

end AgenticTrader
