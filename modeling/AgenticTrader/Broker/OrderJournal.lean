import AgenticTrader.Broker.OrderReads
import AgenticTrader.Library.Sweep

/-!
# The order journal is complete

A pass over the orders of a broker that stands still (`observe_orders`,
`broker/alpaca.py`) returns every order that is due – the roots of the history window
with their legs, the open roots, the orders asked for, and what any of these was replaced
by – or it raises.

Two loops carry this. The history is read in pages that overlap: the next page starts one
microsecond before the last order of a full one, so a page that is full has shown
everything before its last order's time, and nothing at that time is skipped. The lookups
keep a stack: whatever was asked for or replaces an observed order is on it or was looked
up. Both loops count their calls, and end.
-/

namespace AgenticTrader

open Checks Sweep

/-! ## A broker that stands still -/

namespace BrokerOrder

mutual

/-- The order and everything nested in it. -/
def orders : BrokerOrder → List BrokerOrder
  | mk fields legs => mk fields legs :: ordersOfLegs legs

def ordersOfLegs : List BrokerOrder → List BrokerOrder
  | [] => []
  | leg :: legs => leg.orders ++ ordersOfLegs legs

end

theorem mem_orders_self (order : BrokerOrder) : order ∈ order.orders := by
  cases order with
  | mk fields legs =>
    unfold orders
    exact List.mem_cons_self

mutual

theorem orders_trans {o o' : BrokerOrder} (ho' : o' ∈ o.orders) : ∀ (order : BrokerOrder),
    o ∈ order.orders → o' ∈ order.orders
  | .mk fields legs, ho => by
    unfold orders at ho ⊢
    rcases List.mem_cons.mp ho with rfl | ho
    · unfold orders at ho'
      exact ho'
    · exact List.mem_cons_of_mem _ (ordersOfLegs_trans ho' legs ho)

theorem ordersOfLegs_trans {o o' : BrokerOrder} (ho' : o' ∈ o.orders) :
    ∀ (legs : List BrokerOrder), o ∈ ordersOfLegs legs → o' ∈ ordersOfLegs legs
  | [], ho => by
    unfold ordersOfLegs at ho
    cases ho
  | leg :: legs, ho => by
    unfold ordersOfLegs at ho ⊢
    rcases List.mem_append.mp ho with ho | ho
    · exact List.mem_append_left _ (orders_trans ho' leg ho)
    · exact List.mem_append_right _ (ordersOfLegs_trans ho' legs ho)

end

mutual

/-- An order shows itself and everything nested in it. -/
theorem mem_showings {s : OrderObservation} : ∀ (order : BrokerOrder) (parent : Option String),
    s ∈ order.showings parent → ∃ o ∈ order.orders, ∃ p, s = observation o.fields p
  | .mk fields legs, parent, hs => by
    unfold showings at hs
    unfold orders
    rcases List.mem_cons.mp hs with rfl | hs
    · exact ⟨mk fields legs, List.mem_cons_self, parent, rfl⟩
    · obtain ⟨o, ho, p, hp⟩ := mem_showingsOfLegs legs fields.orderId hs
      exact ⟨o, List.mem_cons_of_mem _ ho, p, hp⟩

theorem mem_showingsOfLegs {s : OrderObservation} : ∀ (legs : List BrokerOrder) (parent : String),
    s ∈ showingsOfLegs parent legs → ∃ o ∈ ordersOfLegs legs, ∃ p, s = observation o.fields p
  | [], parent, hs => by
    unfold showingsOfLegs at hs
    cases hs
  | leg :: legs, parent, hs => by
    unfold showingsOfLegs at hs
    unfold ordersOfLegs
    rcases List.mem_append.mp hs with hs | hs
    · obtain ⟨o, ho, hp⟩ := mem_showings leg (some parent) hs
      exact ⟨o, List.mem_append_left _ ho, hp⟩
    · obtain ⟨o, ho, hp⟩ := mem_showingsOfLegs legs parent hs
      exact ⟨o, List.mem_append_right _ ho, hp⟩

end

mutual

theorem showings_of_mem {o : BrokerOrder} : ∀ (order : BrokerOrder) (parent : Option String),
    o ∈ order.orders → ∃ p, observation o.fields p ∈ order.showings parent
  | .mk fields legs, parent, ho => by
    unfold orders at ho
    unfold showings
    rcases List.mem_cons.mp ho with rfl | ho
    · exact ⟨parent, List.mem_cons_self⟩
    · obtain ⟨p, hp⟩ := showingsOfLegs_of_mem legs fields.orderId ho
      exact ⟨p, List.mem_cons_of_mem _ hp⟩

theorem showingsOfLegs_of_mem {o : BrokerOrder} : ∀ (legs : List BrokerOrder) (parent : String),
    o ∈ ordersOfLegs legs → ∃ p, observation o.fields p ∈ showingsOfLegs parent legs
  | [], parent, ho => by
    unfold ordersOfLegs at ho
    cases ho
  | leg :: legs, parent, ho => by
    unfold ordersOfLegs at ho
    unfold showingsOfLegs
    rcases List.mem_append.mp ho with ho | ho
    · obtain ⟨p, hp⟩ := showings_of_mem leg (some parent) ho
      exact ⟨p, List.mem_append_left _ hp⟩
    · obtain ⟨p, hp⟩ := showingsOfLegs_of_mem legs parent ho
      exact ⟨p, List.mem_append_right _ hp⟩

end

end BrokerOrder

/-- **The orders of a broker**: finitely many roots, each submitted at a microsecond, some
of them open. Legs and replacements are arbitrary; an id names one order. -/
structure BrokerBook where
  roots : List BrokerOrder
  submittedAt : BrokerOrder → Time
  isOpen : BrokerOrder → Bool
  submitted : ∀ root ∈ roots, root.fields.submittedAt = some (.aware (submittedAt root))
  identified : ∀ o ∈ roots.flatMap BrokerOrder.orders, ∀ o' ∈ roots.flatMap BrokerOrder.orders,
    o.fields.orderId = o'.fields.orderId → o.fields = o'.fields

namespace BrokerBook

/-- The roots and everything nested in them. -/
def orders (book : BrokerBook) : List BrokerOrder := book.roots.flatMap BrokerOrder.orders

end BrokerBook

/-- **The client answers from the book**, where it answers: a page of the history holds the
first roots after its bound, in ascending order of submission; the open orders are the
open roots, as many as one answer holds; and a lookup finds the order of that id. -/
structure AlpacaClient.Serves (client : AlpacaClient) (book : BrokerBook) : Prop where
  history : ∀ page after answer, client.history page after = .ok answer →
    IsPage book.submittedAt book.roots alpacaMaxOrdersPerPage after answer
  openOrders : ∀ answer, client.openOrders = .ok answer →
    ∃ listing : List BrokerOrder, listing.Perm (book.roots.filter book.isOpen)
      ∧ answer = listing.take alpacaMaxOrdersPerPage
  orderById : ∀ id order, client.orderById id = .ok order →
    order ∈ book.orders ∧ order.fields.orderId = id

/-- **The orders that are due**, by id, in a pass over what was submitted after an instant. -/
inductive BrokerBook.Due (book : BrokerBook) (after : Time) (orderIds : List String) :
    String → Prop
  | recent {root o : BrokerOrder} (hroot : root ∈ book.roots)
      (hafter : after < book.submittedAt root) (ho : o ∈ root.orders) :
      Due book after orderIds o.fields.orderId
  | openRoot {root o : BrokerOrder} (hroot : root ∈ book.roots) (hopen : book.isOpen root = true)
      (ho : o ∈ root.orders) : Due book after orderIds o.fields.orderId
  | requested {id : String} (hid : id ∈ orderIds) : Due book after orderIds id
  | replaced {o : BrokerOrder} {id : String} (hdue : Due book after orderIds o.fields.orderId)
      (ho : o ∈ book.orders) (hid : o.fields.replacedBy = some id) (hne : id ≠ "") :
      Due book after orderIds id

/-! ## What a pass has observed -/

namespace OrderPass

variable {client : AlpacaClient} {book : BrokerBook} {pass pass' : OrderPass}
  {o : BrokerOrder} {orders : List BrokerOrder} {orderIds pending seen rest : List String}
  {id : String} {after since : Time}

/-- Everything the pass read is from the book, and it keeps the last showing of it. -/
structure From (book : BrokerBook) (pass : OrderPass) : Prop where
  keeps : pass.Keeps
  reads : ∀ order ∈ pass.reads, order ∈ book.orders

theorem From.start (book : BrokerBook) : OrderPass.start.From book :=
  ⟨rfl, by simp [OrderPass.start]⟩

theorem reads_foldl_read (orders : List BrokerOrder) (pass : OrderPass) :
    (orders.foldl read pass).reads = pass.reads ++ orders := by
  induction orders generalizing pass with
  | nil => simp
  | cons order orders ih =>
    rw [List.foldl_cons, ih]
    simp [read]

theorem From.foldl_read (h : pass.From book) (horders : ∀ order ∈ orders, order ∈ book.orders) :
    (orders.foldl read pass).From book := by
  refine ⟨h.keeps.reads orders, fun order horder => ?_⟩
  rw [reads_foldl_read] at horder
  rcases List.mem_append.mp horder with hread | hnew
  · exact h.reads order hread
  · exact horders order hnew

/-- What a pass showed is an order of the book. -/
theorem From.shown (h : pass.From book) {s : OrderObservation} (hs : s ∈ pass.shown) :
    ∃ o ∈ book.orders, ∃ p, s = BrokerOrder.observation o.fields p := by
  obtain ⟨order, hread, hs⟩ := List.mem_flatMap.mp hs
  obtain ⟨o, ho, hp⟩ := BrokerOrder.mem_showings order none hs
  obtain ⟨root, hroot, horder⟩ := List.mem_flatMap.mp (h.reads order hread)
  exact ⟨o, List.mem_flatMap.mpr ⟨root, hroot, BrokerOrder.orders_trans ho root horder⟩, hp⟩

/-- The last showing of an order that was shown is found among what is kept. -/
theorem exists_find?_foldl_store {shown : List OrderObservation} {s : OrderObservation}
    (hs : s ∈ shown) :
    ∃ kept, (shown.foldl BrokerOrder.store []).find? (fun o => o.orderId == s.orderId)
      = some kept := by
  induction shown using List.reverseRecOn with
  | nil => cases hs
  | append_singleton shown last ih =>
    rw [List.foldl_concat]
    by_cases hid : last.orderId = s.orderId
    · rw [← hid]
      exact ⟨last, BrokerOrder.find?_store_self _ last⟩
    · rw [BrokerOrder.find?_store_ne _ hid]
      rcases List.mem_append.mp hs with hs | hs
      · exact ih hs
      · rw [List.mem_singleton.mp hs] at hid
        exact absurd rfl hid

/-- **The pass observed the order**, as it stands at the broker. -/
def Observed (pass : OrderPass) (o : BrokerOrder) : Prop :=
  ∃ parent, BrokerOrder.observation o.fields parent ∈ pass.observations

/-- **Everything nested in an order that was read is observed**: the showing that is kept of
it is one of the same order, since an id names one. -/
theorem From.observed (h : pass.From book) {order : BrokerOrder} (hread : order ∈ pass.reads)
    (ho : o ∈ order.orders) : pass.Observed o := by
  obtain ⟨p, hp⟩ := BrokerOrder.showings_of_mem order none ho
  have hshown : BrokerOrder.observation o.fields p ∈ pass.shown :=
    List.mem_flatMap.mpr ⟨order, hread, hp⟩
  obtain ⟨kept, hkept⟩ := exists_find?_foldl_store hshown
  obtain ⟨before, later, heq, hid, -⟩ := BrokerOrder.find?_foldl_store.mp hkept
  obtain ⟨o', ho', parent, rfl⟩ := h.shown (heq ▸ List.mem_append_right before List.mem_cons_self)
  obtain ⟨root, hroot, horder⟩ := List.mem_flatMap.mp (h.reads order hread)
  have hbook : o ∈ book.orders :=
    List.mem_flatMap.mpr ⟨root, hroot, BrokerOrder.orders_trans ho root horder⟩
  refine ⟨parent, ?_⟩
  rw [← book.identified o' ho' o hbook hid, h.keeps]
  exact List.mem_of_find?_eq_some hkept

/-- What replaces an observed order is among the replacements. -/
theorem Observed.mem_replacements (h : pass.Observed o) (hid : o.fields.replacedBy = some id)
    (hne : id ≠ "") : id ∈ pass.replacements := by
  obtain ⟨parent, hmem⟩ := h
  refine List.mem_filter.mpr ⟨List.mem_filterMap.mpr ⟨_, hmem, ?_⟩, by simpa using hne⟩
  exact hid

/-! ## The history -/

/-- **The pages leave no root of the window out.** -/
theorem historyPages_complete (hserves : client.Serves book) {pages page : ℕ}
    (hfrom : pass.From book)
    (hcovered : ∀ root ∈ book.roots, since < book.submittedAt root →
      book.submittedAt root ≤ after → root ∈ pass.reads)
    (h : historyPages client pages page after pass = .ok pass') :
    pass'.From book ∧ ∀ root ∈ book.roots, since < book.submittedAt root → root ∈ pass'.reads := by
  induction pages generalizing page after pass with
  | zero => cases h
  | succ n ih =>
    unfold historyPages at h
    obtain ⟨orders, hanswer, h⟩ := except_bind_eq_ok.mp h
    have hpage := hserves.history page after orders hanswer
    have hroots : ∀ order ∈ orders, order ∈ book.orders := fun order horder =>
      List.mem_flatMap.mpr ⟨order, hpage.mem_items horder, order.mem_orders_self⟩
    dsimp only at h
    split at h
    · rename_i hshort
      cases h
      refine ⟨hfrom.foldl_read hroots, fun root hroot hsince => ?_⟩
      rw [reads_foldl_read]
      rcases le_or_gt (book.submittedAt root) after with hle | hgt
      · exact List.mem_append_left _ (hcovered root hroot hsince hle)
      · exact List.mem_append_right _ (hpage.mem_of_short hshort hroot hgt)
    · split at h
      · cases h
      · cases h
      · rename_i cursor hcursor
        obtain ⟨-, h⟩ := refuse_bind_eq_ok.mp h
        obtain ⟨-, h⟩ := refuse_bind_eq_ok.mp h
        -- everything before the last order's time was on this page
        obtain ⟨last, hlast, htime⟩ := Option.bind_eq_some_iff.mp hcursor
        have hmem : last ∈ orders := List.mem_of_getLast? hlast
        have hat : book.submittedAt last = cursor := by
          have hsub := book.submitted last (hpage.mem_items hmem)
          rw [htime] at hsub
          simpa using hsub.symm
        refine ih (hfrom.foldl_read hroots) (fun root hroot hsince hbefore => ?_) h
        rw [reads_foldl_read]
        rcases le_or_gt (book.submittedAt root) after with hle | hgt
        · exact List.mem_append_left _ (hcovered root hroot hsince hle)
        · refine List.mem_append_right _ (hpage.mem_of_lt hmem hroot hgt ?_)
          rw [hat]
          exact Int.le_sub_one_iff.mp hbefore

/-! ## The lookups -/

theorem nextPending_none (h : nextPending seen pending = none) : ∀ id ∈ pending, id ∈ seen := by
  induction pending with
  | nil => simp
  | cons id pending ih =>
    unfold nextPending at h
    split_ifs at h with hseen
    rw [List.forall_mem_cons]
    exact ⟨by simpa using hseen, ih h⟩

theorem nextPending_some (h : nextPending seen pending = some (id, rest)) :
    ∀ x ∈ pending, x ∈ seen ∨ x = id ∨ x ∈ rest := by
  induction pending with
  | nil => cases h
  | cons head pending ih =>
    unfold nextPending at h
    rw [List.forall_mem_cons]
    split_ifs at h with hseen
    · exact ⟨Or.inl (by simpa using hseen), ih h⟩
    · cases h
      exact ⟨Or.inr (Or.inl rfl), fun x hx => Or.inr (Or.inr hx)⟩

/-- **The lookups end with everything looked up** that was asked for or replaces an
observed order. -/
theorem lookups_complete (hserves : client.Serves book) {n : ℕ} (hfrom : pass.From book)
    (hseen : ∀ id ∈ seen, ∃ order ∈ pass.reads, order.fields.orderId = id)
    (hwanted : ∀ id, id ∈ orderIds ∨ id ∈ pass.replacements → id ∈ pending ∨ id ∈ seen)
    (h : lookups client n pass pending seen = .ok pass') :
    pass'.From book ∧ pass.reads ⊆ pass'.reads
      ∧ ∀ id, id ∈ orderIds ∨ id ∈ pass'.replacements →
        ∃ order ∈ pass'.reads, order.fields.orderId = id := by
  induction n generalizing pass pending seen with
  | zero =>
    unfold lookups at h
    split at h
    · rename_i hnext
      cases h
      refine ⟨hfrom, fun _ hr => hr, fun id hid => hseen id ?_⟩
      exact (hwanted id hid).elim (nextPending_none hnext id) (fun h => h)
    · cases h
  | succ n ih =>
    unfold lookups at h
    split at h
    · rename_i hnext
      cases h
      refine ⟨hfrom, fun _ hr => hr, fun id hid => hseen id ?_⟩
      exact (hwanted id hid).elim (nextPending_none hnext id) (fun h => h)
    · rename_i next rest hnext
      obtain ⟨order, hanswer, h⟩ := except_bind_eq_ok.mp h
      obtain ⟨hbook, horder⟩ := hserves.orderById next order hanswer
      have hreads : (pass.read order).reads = pass.reads ++ [order] := rfl
      have hfrom' : (pass.read order).From book := by
        show ([order].foldl read pass).From book
        exact hfrom.foldl_read (by simpa using hbook)
      have hseen' : ∀ id ∈ next :: seen, ∃ order' ∈ (pass.read order).reads,
          order'.fields.orderId = id := by
        intro id hid
        rw [hreads]
        rcases List.mem_cons.mp hid with rfl | hid
        · exact ⟨order, by simp, horder⟩
        · obtain ⟨order', hread, hid'⟩ := hseen id hid
          exact ⟨order', List.mem_append_left _ hread, hid'⟩
      have hwanted' : ∀ id, id ∈ orderIds ∨ id ∈ (pass.read order).replacements →
          id ∈ ((pass.read order).replacements.filter
            (fun r => !(next :: seen).contains r)).reverse ++ rest ∨ id ∈ next :: seen := by
        rintro id (hasked | hreplaces)
        · rcases hwanted id (Or.inl hasked) with hpending | hid
          · rcases nextPending_some hnext id hpending with hid | rfl | hrest
            · exact Or.inr (List.mem_cons_of_mem _ hid)
            · exact Or.inr List.mem_cons_self
            · exact Or.inl (List.mem_append_right _ hrest)
          · exact Or.inr (List.mem_cons_of_mem _ hid)
        · by_cases hid : id ∈ next :: seen
          · exact Or.inr hid
          · refine Or.inl (List.mem_append_left _ ?_)
            rw [List.mem_reverse, List.mem_filter]
            exact ⟨hreplaces, by simpa using hid⟩
      obtain ⟨hend, hsub, hall⟩ := ih hfrom' hseen' hwanted' h
      refine ⟨hend, fun r hr => hsub ?_, hall⟩
      rw [hreads]
      exact List.mem_append_left _ hr

/-! ## The journal -/

/-- The open orders are complete where they are not refused. -/
theorem openOrders_complete (hserves : client.Serves book)
    (hanswer : client.openOrders = .ok orders) (hshort : ¬ alpacaMaxOrdersPerPage ≤ orders.length) :
    (∀ order ∈ orders, order ∈ book.orders)
      ∧ ∀ root ∈ book.roots, book.isOpen root = true → root ∈ orders := by
  obtain ⟨listing, hperm, rfl⟩ := hserves.openOrders orders hanswer
  have hall : listing.take alpacaMaxOrdersPerPage = listing := by
    rw [List.length_take] at hshort
    exact List.take_of_length_le (by omega)
  rw [hall]
  constructor
  · intro order horder
    have hroot := List.mem_of_mem_filter (hperm.mem_iff.mp horder)
    exact List.mem_flatMap.mpr ⟨order, hroot, order.mem_orders_self⟩
  · intro root hroot hopen
    exact hperm.mem_iff.mpr (List.mem_filter.mpr ⟨hroot, hopen⟩)

/-- What a pass that returned has read. -/
theorem observeOrders_reads (hserves : client.Serves book) {maxPages : ℕ} {historyDays : ℤ}
    {now : Time} (h : observeOrders client maxPages historyDays now orderIds = .ok pass) :
    pass.From book
      ∧ (∀ root ∈ book.roots, now - historyDays * 86400000000 < book.submittedAt root →
        root ∈ pass.reads)
      ∧ (∀ root ∈ book.roots, book.isOpen root = true → root ∈ pass.reads)
      ∧ ∀ id, id ∈ orderIds ∨ id ∈ pass.replacements →
        ∃ order ∈ pass.reads, order.fields.orderId = id := by
  unfold observeOrders at h
  obtain ⟨history, hhistory, h⟩ := except_bind_eq_ok.mp h
  obtain ⟨openOrders, hopen, h⟩ := except_bind_eq_ok.mp h
  obtain ⟨hshort, h⟩ := refuse_bind_eq_ok.mp h
  dsimp only at h
  -- no root lies between the start of the window and itself
  have hnothing : ∀ root ∈ book.roots, now - historyDays * 86400000000 < book.submittedAt root →
      book.submittedAt root ≤ now - historyDays * 86400000000 → root ∈ OrderPass.start.reads :=
    fun _ _ hlt hle => absurd hlt (not_lt.mpr hle)
  obtain ⟨hfrom, hrecent⟩ := historyPages_complete hserves (From.start book) hnothing hhistory
  obtain ⟨hbook, hroots⟩ := openOrders_complete hserves hopen (by simpa using hshort)
  have hpending : ∀ id, id ∈ orderIds ∨ id ∈ (openOrders.foldl read history).replacements →
      id ∈ (orderIds ++ (openOrders.foldl read history).replacements).reverse.dedup.reverse.reverse
        ∨ id ∈ [] := by
    intro id hid
    exact Or.inl (by simpa [or_comm] using hid)
  obtain ⟨hend, hsub, hall⟩ := lookups_complete hserves (hfrom.foldl_read hbook)
    (fun _ hid => by cases hid) hpending h
  rw [reads_foldl_read] at hsub
  refine ⟨hend, fun root hroot hlt => ?_, fun root hroot hisOpen => ?_, hall⟩
  · exact hsub (List.mem_append_left _ (hrecent root hroot hlt))
  · exact hsub (List.mem_append_right _ (hroots root hroot hisOpen))

end OrderPass

/-- **The order journal is complete or refuses.** However the submission times cluster at
the ends of the pages, a pass over a book that stands still raises, or has observed every
order that is due, as it stands at the broker. -/
theorem order_journal_complete (client : AlpacaClient) (book : BrokerBook)
    (hserves : client.Serves book) (maxPages : ℕ) (historyDays : ℤ) (now : Time)
    (orderIds : List String) :
    (∃ message, OrderPass.observeOrders client maxPages historyDays now orderIds = .error message)
      ∨ ∃ pass, OrderPass.observeOrders client maxPages historyDays now orderIds = .ok pass
        ∧ ∀ id, book.Due (now - historyDays * 86400000000) orderIds id →
          ∃ o ∈ book.orders, o.fields.orderId = id ∧ pass.Observed o := by
  cases h : OrderPass.observeOrders client maxPages historyDays now orderIds with
  | error message => exact Or.inl ⟨message, rfl⟩
  | ok pass =>
    refine Or.inr ⟨pass, rfl, ?_⟩
    obtain ⟨hfrom, hrecent, hopen, hwanted⟩ := OrderPass.observeOrders_reads hserves h
    have hlookup : ∀ id, id ∈ orderIds ∨ id ∈ pass.replacements →
        ∃ o ∈ book.orders, o.fields.orderId = id ∧ pass.Observed o := by
      intro id hid
      obtain ⟨order, hread, horder⟩ := hwanted id hid
      exact ⟨order, hfrom.reads order hread, horder, hfrom.observed hread order.mem_orders_self⟩
    intro id hdue
    induction hdue with
    | @recent root o hroot hafter ho =>
      exact ⟨o, List.mem_flatMap.mpr ⟨root, hroot, ho⟩, rfl,
        hfrom.observed (hrecent root hroot hafter) ho⟩
    | @openRoot root o hroot hisOpen ho =>
      exact ⟨o, List.mem_flatMap.mpr ⟨root, hroot, ho⟩, rfl,
        hfrom.observed (hopen root hroot hisOpen) ho⟩
    | requested hid => exact hlookup _ (Or.inl hid)
    | @replaced o id hdue ho hid hne ih =>
      obtain ⟨o', ho', hsame, hobserved⟩ := ih
      rw [book.identified o ho o' ho' hsame.symm] at hid
      exact hlookup id (Or.inr (hobserved.mem_replacements hid hne))

/-! ### A replaced order -/

/-- **A client that answers from a book.** -/
def BrokerBook.client (book : BrokerBook) : AlpacaClient where
  history _ after :=
    .ok (((book.roots.filter (fun r => decide (after < book.submittedAt r))).insertionSort
      (fun r r' => book.submittedAt r ≤ book.submittedAt r')).take alpacaMaxOrdersPerPage)
  openOrders := .ok ((book.roots.filter book.isOpen).take alpacaMaxOrdersPerPage)
  orderById id :=
    match book.orders.find? (fun o => o.fields.orderId == id) with
    | some order => .ok order
    | none => .error "order not found"

theorem BrokerBook.serves_client (book : BrokerBook) : book.client.Serves book where
  history page after answer h := by
    cases h
    refine ⟨_, List.perm_insertionSort _ _, ?_, rfl⟩
    have : Std.Total (fun r r' => book.submittedAt r ≤ book.submittedAt r') :=
      ⟨fun r r' => le_total _ _⟩
    have : IsTrans BrokerOrder (fun r r' => book.submittedAt r ≤ book.submittedAt r') :=
      ⟨fun _ _ _ => le_trans⟩
    exact List.pairwise_insertionSort _ _
  openOrders answer h := by
    cases h
    exact ⟨_, List.Perm.refl _, rfl⟩
  orderById id order h := by
    unfold client at h
    dsimp only at h
    split at h
    · rename_i found hfind
      cases h
      exact ⟨List.mem_of_find?_eq_some hfind, by simpa using List.find?_some hfind⟩
    · cases h

def journalFields (id : String) (submittedAt : Time) (replacedBy : Option String) :
    OrderObservation where
  orderId := id
  clientOrderId := "c-" ++ id
  symbol := "AAPL"
  side := "buy"
  status := "accepted"
  quantity := "10"
  filledQuantity := "0"
  orderType := "limit"
  orderClass := "bracket"
  updatedAt := .aware submittedAt
  submittedAt := some (.aware submittedAt)
  replacedBy := replacedBy

/-- An entry of today with its stop, and two entries of a month ago, the second in place
of the first. -/
def journalRoots : List BrokerOrder :=
  [.mk (journalFields "today" 60000000 none) [.mk (journalFields "stop" 60000000 none) []],
    .mk (journalFields "first" (-2592000000000) (some "second")) [],
    .mk (journalFields "second" (-2591000000000) none) []]

def journalBook : BrokerBook where
  roots := journalRoots
  submittedAt o :=
    match o.fields.submittedAt with
    | some (.aware time) => time
    | _ => 0
  isOpen _ := false
  submitted := by decide
  identified := by decide

/-- A pass that asks for the first entry also observes the second, and today's stop. -/
theorem order_journal_complete_replaced :
    ∃ pass, OrderPass.observeOrders journalBook.client 2 7 90000000 ["first"] = .ok pass
      ∧ ∀ id ∈ ["first", "second", "stop"],
        ∃ o ∈ journalBook.orders, o.fields.orderId = id ∧ pass.Observed o := by
  rcases order_journal_complete journalBook.client journalBook journalBook.serves_client 2 7
    90000000 ["first"] with ⟨message, h⟩ | ⟨pass, h, hdue⟩
  · have hok : (OrderPass.observeOrders journalBook.client 2 7 90000000 ["first"]).isOk = true := by
      decide +kernel
    rw [h] at hok
    cases hok
  · have hfirst : journalBook.Due (90000000 - 7 * 86400000000) ["first"] "first" :=
      .requested (by decide)
    have hsecond : journalBook.Due (90000000 - 7 * 86400000000) ["first"] "second" := by
      refine .replaced (o := .mk (journalFields "first" (-2592000000000) (some "second")) [])
        hfirst ?_ rfl (by decide)
      simp [BrokerBook.orders, journalBook, journalRoots, BrokerOrder.orders,
        BrokerOrder.ordersOfLegs]
    have hstop : journalBook.Due (90000000 - 7 * 86400000000) ["first"] "stop" := by
      have hroot : .mk (journalFields "today" 60000000 none)
          [.mk (journalFields "stop" 60000000 none) []] ∈ journalBook.roots := by
        simp [journalBook, journalRoots]
      refine .recent (o := .mk (journalFields "stop" 60000000 none) []) hroot (by decide) ?_
      simp [BrokerOrder.orders, BrokerOrder.ordersOfLegs]
    refine ⟨pass, h, fun id hid => hdue id ?_⟩
    simp only [List.mem_cons, List.not_mem_nil, or_false] at hid
    rcases hid with rfl | rfl | rfl
    · exact hfirst
    · exact hsecond
    · exact hstop

end AgenticTrader
