import AgenticTrader.EntrySubmission
import AgenticTrader.OrderViews
import AgenticTrader.SignalLifecycle

/-!
# Entry cancellation

A resting entry is cancelled once. Two initiators – the deadline sweep and
the operator – claim the one `entry_cancel` item its signal can have, and
whoever got it sends the one `DELETE`; everyone else, and the owner
afterwards, only looks. What the looks may conclude is decided by the
journaled views of the claimed orders, whichever process reads them: the
reservation is released on complete zero-fill evidence and on nothing less,
and until there is some outcome every transaction that would build on the
released reservation is refused.
-/

namespace AgenticTrader

open Table

/-! ## Actions on cancellations -/

/-- The cancellations a process has in hand. -/
def Proc.cancelItems : Proc → List CancelItem
  | .cancelClaimed item => [item]
  | .cancelPolling item _ _ items _ => item :: items
  | .cancelRead item _ _ _ _ items _ => item :: items
  | .cancelRecovering items _ => items
  | _ => []

/-- **What an action means for the cancellations in hand.** -/
inductive CancelAct (db db' : Db) : Proc → List Mark → Proc → Prop where
  | aside {p p' : Proc} {calls : List Mark} (silent : deleted calls = [])
      (claimed : ∀ item, p' ≠ .cancelClaimed item)
      (items : ∀ item ∈ p'.cancelItems, item ∈ p.cancelItems ∨ item ∈ db.cancels) :
      CancelAct db db' p calls p'
  /-- A process has claimed the cancellation of a signal that had none. -/
  | claimed {p : Proc} (item : CancelItem)
      (fresh : ∀ c ∈ db.cancels, c.signalId ≠ item.signalId)
      (cancels : db'.cancels = db.cancels ++ [item]) :
      CancelAct db db' p [] (.cancelClaimed item)
  /-- The claimant sends the `DELETE`. -/
  | sent (item : CancelItem) (transportError : Option String) (same : db' = db) :
      CancelAct db db' (.cancelClaimed item) [.cancelOrder item.signalId]
        (.cancelPolling item true transportError [] .finish)

theorem Db.mem_of_mem_unresolvedCancels {db : Db} {item : CancelItem}
    (h : item ∈ db.unresolvedCancels) : item ∈ db.cancels := by
  unfold unresolvedCancels at h
  exact List.mem_of_mem_filter (List.mem_mergeSort.mp (List.mem_of_mem_take h))

section

variable {env : Env} {t : List Mark} {db db' : Db} {p p' : Proc} {op : Op}
  {calls : List Mark}

/-- **Every action is one of these.** -/
theorem Act.cancelAct (h : Act env t db p op calls db' p') :
    CancelAct db db' p calls p' := by
  cases h with
  | beginCancel due now id identity orders lifetime cause h =>
    rcases Db.beginCancel_cases h with ⟨-, refusal, hr⟩ | ⟨hr, rfl, ha⟩
    · cases hr
    · cases ha
      exact .claimed _ (Db.cancelRefusal_eq_none hr).1
        (Db.claimCancel_logs db env.cfg now id identity orders cause).cancels
  | sendCancel transportError => exact .sent _ transportError rfl
  | recoverCancels | resumeEntries =>
    exact .aside rfl (fun _ h => by cases h)
      (fun _ h => Or.inr (Db.mem_of_mem_unresolvedCancels h))
  | nextCancel | readGroup | readFailed =>
    exact .aside rfl (fun _ h => by cases h) (fun _ h => Or.inl h)
  | resolveCancel =>
    split
    · exact .aside rfl (fun _ h => by cases h) (fun _ h => Or.inl (List.mem_cons_of_mem _ h))
    · exact .aside rfl (fun _ h => by cases h) (fun _ h => Or.inl h)
  | @recovered after | @recoveredCancels after =>
    cases after <;> exact .aside rfl (fun _ h => by cases h) (fun _ h => by cases h)
  | resumeCancels | resumeLegacy | saveExit =>
    split <;> exact .aside rfl (fun _ h => by cases h) (fun _ h => by cases h)
  | _ => exact .aside rfl (fun _ h => by cases h) (fun _ h => by cases h)

/-! ## The rows -/

/-- **The moves of a cancellation.** -/
inductive CancelMove : WorkStatus → WorkStatus → Prop where
  | stay (a : WorkStatus) : CancelMove a a
  | settle {a b : WorkStatus} (h : a = .submitting ∨ a = .unknown)
      (h' : b = .accepted ∨ b = .rejected ∨ b = .unknown) : CancelMove a b

/-- A cancellation never takes a status of the entry queue. -/
def WorkStatus.ofCancel (s : WorkStatus) : Prop :=
  s = .submitting ∨ s = .unknown ∨ s = .accepted ∨ s = .rejected

theorem CancelMove.ofCancel {a b : WorkStatus} (h : CancelMove a b) (ha : a.ofCancel) :
    b.ofCancel := by
  cases h with
  | stay => exact ha
  | settle _ hb =>
    rcases hb with rfl | rfl | rfl
    · exact Or.inr (Or.inr (Or.inl rfl))
    · exact Or.inr (Or.inr (Or.inr rfl))
    · exact Or.inr (Or.inl rfl)

/-- **A settled cancellation stays so.** -/
theorem CancelMove.absorbing {a b : WorkStatus} (h : CancelMove a b)
    (ha : a = .accepted ∨ a = .rejected) : b = a := by
  cases h with
  | stay => rfl
  | settle ha' _ => rcases ha with rfl | rfl <;> rcases ha' with h | h <;> cases h

/-- What a row can become: its claim never changes. -/
structure CancelStep (c c' : CancelItem) : Prop where
  id : c'.id = c.id
  signalId : c'.signalId = c.signalId
  identity : c'.identity = c.identity
  orderIds : c'.orderIds = c.orderIds
  move : CancelMove c.status c'.status

theorem CancelStep.refl (c : CancelItem) : CancelStep c c :=
  ⟨rfl, rfl, rfl, rfl, .stay _⟩

theorem Db.cancelStatus_cases (complete filledFirst : Bool) :
    Db.cancelStatus complete filledFirst = .accepted
      ∨ Db.cancelStatus complete filledFirst = .rejected
      ∨ Db.cancelStatus complete filledFirst = .unknown := by
  cases complete <;> cases filledFirst <;> simp [Db.cancelStatus]

/-- **The invariant of the cancellations**: told apart by id, and one a
signal. -/
structure CancelInv (db : Db) : Prop where
  ids : (db.cancels.map (·.id)).Nodup
  ids_lt : ∀ c ∈ db.cancels, c.id < db.uuids
  signals : (db.cancels.map (·.signalId)).Nodup
  statuses : ∀ c ∈ db.cancels, c.status.ofCancel

/-- **What a transaction does to the rows.** -/
theorem CancelEffect.rows (h : CancelEffect db db') (hc : CancelInv db) :
    ∃ g new, db'.cancels = db.cancels.map g ++ new
      ∧ (∀ c ∈ db.cancels, CancelStep c (g c))
      ∧ (new = [] ∨ ∃ item, new = [item] ∧ item.id = db.uuids ∧ db.uuids < db'.uuids
          ∧ item.status = .submitting ∧ ∀ c ∈ db.cancels, c.signalId ≠ item.signalId) := by
  cases h with
  | same he => exact ⟨id, [], by simpa using he, fun c _ => CancelStep.refl c, Or.inl rfl⟩
  | claimed item fresh signal hid hs he hu =>
    exact ⟨id, [item], by simpa using he, fun c _ => CancelStep.refl c,
      Or.inr ⟨item, rfl, hid, hu, hs, fresh⟩⟩
  | settled row complete filledFirst result hm hn hlate he =>
    refine ⟨_, [], by simpa [updateWhere] using he, fun c hcm => ?_, Or.inl rfl⟩
    split
    · rename_i hid
      obtain rfl : c = row := eq_of_key hc.ids hcm hm (by simpa using hid)
      refine ⟨rfl, rfl, rfl, rfl, ?_⟩
      dsimp only
      rcases hc.statuses c hcm with hs | hs | hs | hs
      · rw [hs]
        rcases Db.cancelStatus_cases complete filledFirst with h | h | h <;> rw [h]
        · exact .settle (Or.inl rfl) (Or.inl rfl)
        · exact .settle (Or.inl rfl) (Or.inr (Or.inl rfl))
        · exact .settle (Or.inl rfl) (Or.inr (Or.inr rfl))
      · rw [hs]
        rcases Db.cancelStatus_cases complete filledFirst with h | h | h <;> rw [h]
        · exact .settle (Or.inr rfl) (Or.inl rfl)
        · exact .settle (Or.inr rfl) (Or.inr (Or.inl rfl))
        · exact .settle (Or.inr rfl) (Or.inr (Or.inr rfl))
      · -- a late request error on an accepted item keeps it accepted
        rw [hs, hlate hs]
        exact .stay _
      · exact absurd hs hn
    · exact CancelStep.refl c

/-- The rows after a transaction, with what they were. -/
theorem CancelEffect.mem_cases (h : CancelEffect db db') (hc : CancelInv db)
    {c' : CancelItem} (hm : c' ∈ db'.cancels) :
    (∃ c ∈ db.cancels, CancelStep c c')
      ∨ c'.id = db.uuids ∧ db.uuids < db'.uuids ∧ c'.status = .submitting
        ∧ ∀ c ∈ db.cancels, c.signalId ≠ c'.signalId := by
  obtain ⟨g, new, he, hg, hnew⟩ := h.rows hc
  rw [he, List.mem_append, List.mem_map] at hm
  rcases hm with ⟨c, hcm, rfl⟩ | hm
  · exact Or.inl ⟨c, hcm, hg c hcm⟩
  · rcases hnew with rfl | ⟨item, rfl, hid, hu, hs, hfresh⟩
    · cases hm
    · obtain rfl := List.mem_singleton.mp hm
      exact Or.inr ⟨hid, hu, hs, hfresh⟩

/-- A row is still there after a transaction. -/
theorem CancelEffect.exists_step (h : CancelEffect db db') (hc : CancelInv db)
    {c : CancelItem} (hm : c ∈ db.cancels) : ∃ c' ∈ db'.cancels, CancelStep c c' := by
  obtain ⟨g, new, he, hg, -⟩ := h.rows hc
  refine ⟨g c, ?_, hg c hm⟩
  rw [he, List.mem_append]
  exact Or.inl (List.mem_map_of_mem hm)

theorem CancelEffect.nodup_key {κ : Type*} (key : CancelItem → κ)
    (hkey : ∀ c c', CancelStep c c' → key c' = key c) (h : CancelEffect db db')
    (hc : CancelInv db)
    (hfresh : ∀ item, item.id = db.uuids → (∀ c ∈ db.cancels, c.signalId ≠ item.signalId) →
      ∀ c ∈ db.cancels, key c ≠ key item)
    (hk : (db.cancels.map key).Nodup) : (db'.cancels.map key).Nodup := by
  obtain ⟨g, new, he, hg, hnew⟩ := h.rows hc
  have hmap : (db.cancels.map g).map key = db.cancels.map key := by
    rw [List.map_map]
    exact List.map_congr_left (fun c hm => hkey _ _ (hg c hm))
  rw [he]
  rcases hnew with rfl | ⟨item, rfl, hid, -, -, hsig⟩
  · rw [List.append_nil, hmap]
    exact hk
  · refine nodup_map_append_singleton (by rw [hmap]; exact hk) (fun c' hm => ?_)
    obtain ⟨c, hcm, rfl⟩ := List.mem_map.mp hm
    rw [hkey _ _ (hg c hcm)]
    exact hfresh item hid hsig c hcm

/-- **A transaction keeps the invariant of the cancellations.** -/
theorem CancelEffect.cancelInv (h : CancelEffect db db') (hc : CancelInv db)
    (hu : db.uuids ≤ db'.uuids) : CancelInv db' where
  ids := h.nodup_key (·.id) (fun _ _ hs => hs.id) hc
    (fun item hid _ c hm => by rw [hid]; exact (hc.ids_lt c hm).ne) hc.ids
  ids_lt := by
    intro c hm
    rcases h.mem_cases hc hm with ⟨c₀, hm₀, hs⟩ | ⟨hid, hlt, -, -⟩
    · rw [hs.id]
      exact (hc.ids_lt c₀ hm₀).trans_le hu
    · rw [hid]
      exact hlt
  signals := h.nodup_key (·.signalId) (fun _ _ hs => hs.signalId) hc
    (fun item _ hsig c hm => hsig c hm) hc.signals
  statuses := by
    intro c hm
    rcases h.mem_cases hc hm with ⟨c₀, hm₀, hs⟩ | ⟨-, -, hs, -⟩
    · exact hs.move.ofCancel (hc.statuses c₀ hm₀)
    · exact Or.inl hs

end

/-! ## The processes -/

/-- The claim of a row: what no resolution changes. -/
structure SameClaim (c item : CancelItem) : Prop where
  id : c.id = item.id
  signalId : c.signalId = item.signalId
  identity : c.identity = item.identity
  orderIds : c.orderIds = item.orderIds

/-- **The invariant of entry cancellation**: one `DELETE` a signal, sent by
the process whose claim it is, and every cancellation in hand is a row's. -/
def cancellation : Program.Assertion Db Proc Mark where
  store db t := CancelInv db ∧ (deleted t).Nodup
    ∧ ∀ id ∈ deleted t, ∃ c ∈ db.cancels, c.signalId = id
  here db t p := (∀ item, p = .cancelClaimed item → item.signalId ∉ deleted t)
    ∧ ∀ item ∈ p.cancelItems, ∃ c ∈ db.cancels, SameClaim c item
  apart p q := ∀ x y, p = .cancelClaimed x → q = .cancelClaimed y → x.signalId ≠ y.signalId

section

variable {env : Env} {t : List Mark} {db db' : Db} {p p' : Proc} {op : Op}
  {calls : List Mark}

/-- A row's claim is still some row's. -/
theorem CancelEffect.sameClaim (h : CancelEffect db db') (hc : CancelInv db)
    {item : CancelItem} (hi : ∃ c ∈ db.cancels, SameClaim c item) :
    ∃ c ∈ db'.cancels, SameClaim c item := by
  obtain ⟨c, hm, hs⟩ := hi
  obtain ⟨c', hm', hst⟩ := h.exists_step hc hm
  exact ⟨c', hm', hst.id.trans hs.id, hst.signalId.trans hs.signalId,
    hst.identity.trans hs.identity, hst.orderIds.trans hs.orderIds⟩

/-- **Every action keeps the invariant of entry cancellation.** -/
theorem cancellation_kept (h : Act env t db p op calls db' p')
    (hs : cancellation.store db t) (hp : cancellation.here db t p) :
    cancellation.Kept db t p (calls ++ leaves op db db') db' p' := by
  have he := h.outcome.cancelEffect
  have hu := h.outcome.counters.1
  obtain ⟨hc, hn, hd⟩ := hs
  have hdel : deleted (t ++ (calls ++ leaves op db db')) = deleted t ++ deleted calls := by
    simp
  have hkeep : ∀ id, (∃ c ∈ db.cancels, c.signalId = id) →
      ∃ c ∈ db'.cancels, c.signalId = id := by
    rintro _ ⟨c, hm, rfl⟩
    obtain ⟨c', hm', hst⟩ := he.exists_step hc hm
    exact ⟨c', hm', hst.signalId⟩
  cases h.cancelAct with
  | aside hsilent hclaimed hitems =>
    rw [hsilent, List.append_nil] at hdel
    refine ⟨⟨he.cancelInv hc hu, by rw [hdel]; exact hn, ?_⟩, ⟨?_, ?_⟩, ?_⟩
    · rw [hdel]
      exact fun id hid => hkeep id (hd id hid)
    · exact fun item hi => absurd hi (hclaimed item)
    · intro item hi
      rcases hitems item hi with hi | hi
      · exact he.sameClaim hc (hp.2 item hi)
      · exact he.sameClaim hc ⟨item, hi, rfl, rfl, rfl, rfl⟩
    · intro q hq _ _
      refine ⟨⟨fun item hi => by rw [hdel]; exact hq.1 item hi,
        fun item hi => he.sameClaim hc (hq.2 item hi)⟩,
        fun x y hx => absurd hx (hclaimed x), fun x y _ hy => absurd hy (hclaimed y)⟩
  | claimed item hfresh hcancels =>
    rw [show deleted ([] : List Mark) = [] from rfl, List.append_nil] at hdel
    refine ⟨⟨he.cancelInv hc hu, by rw [hdel]; exact hn, ?_⟩, ⟨?_, ?_⟩, ?_⟩
    · rw [hdel]
      exact fun id hid => hkeep id (hd id hid)
    · intro x hx
      cases hx
      rw [hdel]
      intro hid
      obtain ⟨c, hm, hcs⟩ := hd _ hid
      exact hfresh c hm hcs
    · intro x hx
      obtain rfl := List.mem_singleton.mp hx
      exact ⟨x, by rw [hcancels]; exact List.mem_append_right _ (List.mem_singleton_self _),
        rfl, rfl, rfl, rfl⟩
    · -- any other claimant has a row of its own
      intro q hq _ _
      have hother : ∀ y, q = .cancelClaimed y → y.signalId ≠ item.signalId := by
        intro y hy
        obtain ⟨c, hm, hsame⟩ := hq.2 y (by rw [hy]; exact List.mem_singleton_self _)
        rw [← hsame.signalId]
        exact hfresh c hm
      refine ⟨⟨fun x hi => by rw [hdel]; exact hq.1 x hi,
        fun x hi => he.sameClaim hc (hq.2 x hi)⟩, fun x y hx hy => ?_, fun x y hx hy => ?_⟩
      · cases hx
        exact (hother y hy).symm
      · cases hy
        exact hother x hx
  | sent item transportError hsame =>
    subst hsame
    have hmem := hp.2 item (List.mem_singleton_self _)
    refine ⟨⟨hc, ?_, ?_⟩, ⟨(fun x hx => by cases hx), fun x hx => ?_⟩, ?_⟩
    · rw [hdel]
      refine List.nodup_append.mpr ⟨hn, List.nodup_singleton _, ?_⟩
      rintro a ha _ hb rfl
      obtain rfl := List.mem_singleton.mp hb
      exact hp.1 item rfl ha
    · intro id hid
      rw [hdel, List.mem_append] at hid
      rcases hid with hid | hid
      · exact hd id hid
      · obtain rfl := List.mem_singleton.mp hid
        obtain ⟨c, hm, hs⟩ := hmem
        exact ⟨c, hm, hs.signalId⟩
    · obtain rfl := List.mem_singleton.mp hx
      exact hmem
    · intro q hq hpq _
      refine ⟨⟨fun x hx => ?_, hq.2⟩, (fun x y hx => by cases hx),
        (fun x y _ hy => by cases hy)⟩
      rw [hdel, List.mem_append]
      rintro (hid | hid)
      · exact hq.1 x hx hid
      · exact hpq item x rfl hx (List.mem_singleton.mp hid).symm

end

/-- **The invariant of entry cancellation holds in every reachable state.** -/
theorem cancellation_holds (env : Env) {w : World Db Proc Mark}
    (h : (trader env).Reachable w) : cancellation.Holds w := by
  refine Program.holds cancellation ?_ (fun d t _ => ?_) (fun q => ?_) ?_ h
  · refine ⟨⟨List.nodup_nil, ?_, List.nodup_nil, ?_⟩, List.nodup_nil, ?_⟩
      <;> intro x hx <;> cases hx
  · exact ⟨(fun _ hi => by cases hi), (fun _ hi => by cases hi)⟩
  · exact ⟨(fun _ _ hi => by cases hi), (fun _ _ _ hi => by cases hi)⟩
  · rintro w i marks d p - hA ⟨op, calls, ha, rfl⟩
    exact cancellation_kept ha hA.store (hA.here i)

/-- The cancellations of a run: none is lost, and a settled one keeps its
outcome. -/
theorem cancels_run (env : Env) {w w' : World Db Proc Mark} (h : (trader env).Reachable w)
    (hr : (trader env).Run w w') :
    ∀ c ∈ w.store.cancels, ∃ c' ∈ w'.store.cancels, Persists CancelItem.id CancelItem.status
      (fun s => s = .accepted ∨ s = .rejected) c c' := by
  refine Program.rows_rel (fun c => .refl c) (fun _ _ _ => .trans) ?_ h hr
  rintro w i marks d p hw ⟨op, calls, ha, -⟩ c hc
  obtain ⟨c', hc', hs⟩ :=
    ha.outcome.cancelEffect.exists_step (cancellation_holds env hw).store.1 hc
  exact ⟨c', hc', hs.id, hs.move.absorbing⟩

/-! ## The evidence of a release -/

/-- An order that ended without a fill and was never replaced. -/
structure EndedUntouched (o : OrderObservation) : Prop where
  status : o.status ∈ unfilledTerminal
  unfilled : decimalEq o.filledQuantity "0" = some true
  replaces : truthy o.replaces = false
  replacedBy : truthy o.replacedBy = false

theorem endedUntouched_eq_true {o : OrderObservation} (h : endedUntouched o = some true) :
    EndedUntouched o := by
  unfold endedUntouched at h
  split at h
  · rename_i hs
    obtain ⟨zero, hz, hb⟩ := Option.map_eq_some_iff.mp h
    simp only [Bool.and_eq_true, Bool.not_eq_true'] at hb
    exact ⟨hs, hb.1.1 ▸ hz, hb.1.2, hb.2⟩
  · cases h

theorem forall_of_allM {α : Type*} {f : α → Option Bool} {xs : List α}
    (h : xs.allM f = some true) : ∀ x ∈ xs, f x = some true := by
  induction xs with
  | nil => exact fun x hx => by cases hx
  | cons a xs ih =>
    simp only [List.allM, Option.bind_eq_bind, Option.bind_eq_some_iff] at h
    obtain ⟨b, hb, h⟩ := h
    cases b with
    | false => cases h
    | true =>
      intro x hx
      rcases List.mem_cons.mp hx with rfl | hx
      · exact hb
      · exact ih h x hx

/-- **What a complete cancellation means**: the parent is exactly the entry,
and the whole group ended untouched. -/
theorem completeCancellation_eq_true {identity : EntryIdentity} {orderIds : List String}
    {effective : List OrderObservation}
    (h : completeCancellation identity orderIds effective = some true) :
    (∃ parent ∈ effective, parent.orderId = identity.orderId
        ∧ identity.matches parent = some true)
      ∧ (∀ id ∈ orderIds, ∃ o ∈ effective, o.orderId = id)
      ∧ ∀ o ∈ effective, EndedUntouched o := by
  unfold completeCancellation at h
  split at h
  · cases h
  · rename_i parent hp
    simp only [Option.bind_eq_bind, Option.bind_eq_some_iff] at h
    obtain ⟨exactly, hm, h⟩ := h
    split at h
    · cases h
    · rename_i hg
      simp only [Bool.or_eq_true, Bool.not_eq_true', not_or, Bool.not_eq_false] at hg
      refine ⟨⟨parent, List.mem_of_find?_eq_some hp, by simpa using List.find?_some hp, ?_⟩,
        fun id hid => ?_, fun o ho => endedUntouched_eq_true (forall_of_allM h o ho)⟩
      · rw [hm, hg.1]
      · have := List.all_eq_true.mp hg.2 id hid
        simpa using this

/-- The views a resolution decides on are the stored ones. -/
theorem Db.mem_effectiveOrders {db : Db} (hk : ViewKeys db.orders) {item : CancelItem}
    {orders : List OrderObservation} {o : OrderObservation}
    (h : o ∈ db.effectiveOrders item orders) :
    ∃ row, db.order? o.orderId = some row ∧ row.observation = o := by
  unfold effectiveOrders at h
  rw [List.mem_mergeSort, List.mem_filterMap] at h
  obtain ⟨id, -, h⟩ := h
  obtain ⟨row, hrow, rfl⟩ := Option.map_eq_some_iff.mp h
  have hid : row.orderId = id := by simpa using List.find?_some hrow
  refine ⟨row, ?_, rfl⟩
  rw [hk.own row (List.mem_of_find?_eq_some hrow), hid]
  exact hrow

/-- **Complete zero-fill evidence** on a claim: the view of every claimed order
ended untouched, and the parent's is exactly the entry. -/
structure ReleaseEvidence (db : Db) (c : CancelItem) : Prop where
  group : ∀ id ∈ c.orderIds, ∃ row, db.order? id = some row ∧ EndedUntouched row.observation
  parent : ∃ row, db.order? c.identity.orderId = some row
    ∧ c.identity.matches row.observation = some true

theorem Db.releaseEvidence {db : Db} (hk : ViewKeys db.orders) {item : CancelItem}
    {orders : List OrderObservation}
    (h : completeCancellation item.identity item.orderIds (db.effectiveOrders item orders)
      = some true) : ReleaseEvidence db item := by
  obtain ⟨⟨parent, hp, hpid, hmatch⟩, hgroup, hended⟩ := completeCancellation_eq_true h
  constructor
  · intro id hid
    obtain ⟨o, ho, rfl⟩ := hgroup id hid
    obtain ⟨row, hrow, rfl⟩ := mem_effectiveOrders hk ho
    exact ⟨row, hrow, hended _ ho⟩
  · obtain ⟨row, hrow, rfl⟩ := mem_effectiveOrders hk hp
    exact ⟨row, by rw [← hpid]; exact hrow, hmatch⟩

/-- **A resolution fails a signal on complete evidence only.** -/
theorem Db.resolveCancel_fails {db db' : Db} {cfg : Config} {now : Time}
    {item : CancelItem} {orders : List OrderObservation}
    {reason transportError : Option String} {allowPending resolved : Bool}
    (h : db.resolveCancel cfg now item orders reason transportError allowPending
      = some (db', resolved)) (hk : ViewKeys db.orders) (hn : db.signalIds.Nodup)
    {s s' : Signal} (hs : s ∈ db.signals) (hs' : s' ∈ db'.signals) (hid : s'.id = s.id)
    (hne : s.status ≠ .failed) (hf : s'.status = .failed) :
    s.id = item.signalId ∧ ReleaseEvidence db item := by
  obtain ⟨complete, hc, rfl | ⟨row, filledFirst, result, -, -, -, -, rfl⟩⟩ :=
    resolveCancel_cases h
  · rw [eq_of_key hn hs' hs hid] at hf
    exact absurd hf hne
  · obtain ⟨journaled, text, hj, hl⟩ :=
      settleCancel_logs db cfg now row item complete filledFirst result
    rw [hl.signals, haltIfUnknown_signals, hj.signals] at hs'
    change s' ∈ db.cancelledSignals item complete at hs'
    unfold cancelledSignals at hs'
    cases complete with
    | false =>
      rw [eq_of_key hn hs' hs hid] at hf
      exact absurd hf hne
    | true =>
      rw [if_pos rfl] at hs'
      obtain ⟨s₀, hs₀, rfl⟩ := mem_updateWhere.mp hs'
      split at hf <;> rename_i hp
      · rw [if_pos hp] at hid
        obtain rfl := eq_of_key hn hs₀ hs hid
        simp only [Bool.and_eq_true, beq_iff_eq] at hp
        exact ⟨hp.1.1.1, releaseEvidence hk hc⟩
      · rw [if_neg hp] at hid
        rw [eq_of_key hn hs₀ hs hid] at hf
        exact absurd hf hne

/-- A `resolve_cancel` is made on a cancellation in hand. -/
theorem Act.resolveCancel_cases {env : Env} {t : List Mark} {db db' : Db} {p p' : Proc}
    {calls : List Mark} (h : Act env t db p .resolveCancel calls db' p') :
    db' = db ∨ ∃ item ∈ p.cancelItems, ∃ now orders reason transportError allowPending
      resolved, db.resolveCancel env.cfg now item orders reason transportError allowPending
        = some (db', resolved) := by
  cases h with
  | standalone hop => cases hop
  | resolveCancel now allowPending resolved hpending h =>
    exact Or.inr ⟨_, List.mem_cons_self, now, _, _, _, allowPending, resolved, h⟩
  | _ => exact Or.inl rfl

/-! ## The fences of an open cancellation -/

section

variable {db : Db} {c : CancelItem}

theorem Db.unresolvedCancellation_of_mem (hc : c ∈ db.cancels)
    (hu : c.status.unresolved = true) : db.unresolvedCancellation = true :=
  List.any_eq_true.mpr ⟨c, hc, hu⟩

theorem Db.unresolvedCancellationOf_of_mem (hc : c ∈ db.cancels)
    (hu : c.status.unresolved = true) {s : Signal} (hs : s ∈ db.signals)
    (hid : s.id = c.signalId) : db.unresolvedCancellationOf s.contract = true := by
  refine List.any_eq_true.mpr ⟨c, hc, ?_⟩
  rw [Bool.and_eq_true]
  exact ⟨hu, List.any_eq_true.mpr ⟨s, hs, by simp [hid]⟩⟩

/-- **No entry is queued** beside an open cancellation. -/
theorem Db.enqueueEntry_fenced (hc : c ∈ db.cancels) (hu : c.status.unresolved = true)
    (cfg : Config) (ev : EntryEvidence) (now : Time) (request : OrderRequest)
    (trigger : EntryTrigger) :
    ∃ answer, db.enqueueEntry cfg ev now request trigger = (db, answer)
      ∧ ∀ item, answer.1 = some item → item ∈ db.entries := by
  have hcancel := unresolvedCancellation_of_mem hc hu
  unfold enqueueEntry
  cases he : db.entryOf? request.signalId with
  | some existing =>
    have hr : db.enqueueRefusal cfg ev request
        = some (some existing, "Already authorized; original request retained.") := by
      unfold enqueueRefusal
      rw [he]
    rw [hr]
    refine ⟨_, rfl, fun item hi => ?_⟩
    cases hi
    exact List.mem_of_find?_eq_some he
  | none =>
    obtain ⟨text, hr⟩ : ∃ text, db.enqueueRefusal cfg ev request = some (none, text) := by
      unfold enqueueRefusal
      rw [he]
      by_cases hh : db.halted = true
      · exact ⟨_, if_pos hh⟩
      · exact ⟨_, (if_neg hh).trans (if_pos hcancel)⟩
    rw [hr]
    exact ⟨_, rfl, fun item hi => by cases hi⟩

/-- **No order is authorized** beside an open cancellation. -/
theorem Db.beginSubmission_fenced (hc : c ∈ db.cancels) (hu : c.status.unresolved = true)
    (cfg : Config) (ev : EntryEvidence) (riskFingerprint : Option String)
    (context : Option CapacityCheck) (t₀ t₁ t₂ : Time) (item : EntryItem) :
    ∃ reason, db.beginSubmission cfg ev riskFingerprint context t₀ t₁ t₂ item
      = (db, some reason) := by
  rcases beginSubmission_cases db cfg ev riskFingerprint context t₀ t₁ t₂ item with
    h | ⟨hr, -⟩
  · exact h
  · have hno := (submissionRefusal_eq_none hr).2.1
    rw [unresolvedCancellation_of_mem hc hu] at hno
    cases hno

/-- **No close is claimed** on the symbol of an open cancellation. -/
theorem Db.claimCloseRequest_fenced {db' : Db} (hc : c ∈ db.cancels)
    (hu : c.status.unresolved = true) {s : Signal} (hs : s ∈ db.signals)
    (hid : s.id = c.signalId) {now : Time} {values : CloseValues} {claimed : Bool}
    {record : CloseRequest} (hsymbol : values.symbol = s.contract)
    (h : db.claimCloseRequest now values = some (db', claimed, record)) :
    claimed = false ∧ db' = db := by
  rcases claimCloseRequest_cases h with ⟨hd, hf⟩ | ⟨-, -, -, hcancel, -⟩
  · exact ⟨hf, hd⟩
  · rw [hsymbol, unresolvedCancellationOf_of_mem hc hu hs hid] at hcancel
    cases hcancel

/-- A release leaves the signal of an open cancellation. -/
theorem Db.releaseResting_fenced (hc : c ∈ db.cancels) (hu : c.status.unresolved = true)
    {s : Signal} (hs : s ∈ db.signals) (hid : s.id = c.signalId) (hn : db.signalIds.Nodup)
    (now : Time) (orderId status : String) :
    s ∈ (db.releaseResting now orderId status).signals := by
  unfold releaseResting
  cases hr : db.restingSignal? orderId with
  | none => exact hs
  | some signal =>
    dsimp only
    split
    · exact hs
    · rename_i hfree
      rw [addNotification_signals]
      refine mem_updateWhere_of_not hs (beq_eq_false_iff_ne.mpr (fun heq => hfree ?_))
      rw [← eq_of_key hn hs (List.mem_of_find?_eq_some hr) heq]
      exact unresolvedCancellationOf_of_mem hc hu hs hid

/-- **No observation releases** the signal of an open cancellation. -/
theorem Db.observeOrders_fenced {db' : Db} (hc : c ∈ db.cancels)
    (hu : c.status.unresolved = true) {s : Signal} (hs : s ∈ db.signals)
    (hid : s.id = c.signalId) (hn : db.signalIds.Nodup)
    {digest : OrderObservation → String} {now : Time} {observations : List OrderObservation}
    (h : observeOrders digest now db observations = some db') : s ∈ db'.signals := by
  refine (observeOrders_rel (R := fun db db' => c ∈ db.cancels → s ∈ db.signals →
    db.signalIds.Nodup → c ∈ db'.cancels ∧ s ∈ db'.signals ∧ db'.signalIds.Nodup)
    (fun _ hc hs hn => ⟨hc, hs, hn⟩) (fun a b d hab hbd hc hs hn => ?_)
    (fun db db' o h hc hs hn => ?_) h hc hs hn).2.1
  · obtain ⟨hc', hs', hn'⟩ := hab hc hs hn
    exact hbd hc' hs' hn'
  · have hn' : db'.signalIds.Nodup := by
      rw [signalIds, (observeOrder_rows h hn).1.ids]
      exact hn
    refine ⟨by rw [(keeps_observeOrder h).cancels]; exact hc, ?_, hn'⟩
    obtain ⟨event, orders, -, -, projected, hp, projection, ended, -, -, rfl⟩ :=
      observeOrder_eq_some h
    have hsig : projected.signals = db.signals := by rw [hp]; exact append_signals _ _ _ _ _
    have hcan : projected.cancels = db.cancels := by rw [hp]; exact append_cancels _ _ _ _ _
    cases ended with
    | false =>
      show s ∈ projected.signals
      rw [hsig]
      exact hs
    | true =>
      exact releaseResting_fenced (by rw [hcan]; exact hc) hu (by rw [hsig]; exact hs) hid
        (by rw [signalIds, hsig]; exact hn) now _ _

end

/-- **Entry cancellation is single-shot, and releases on complete evidence
only.** In every reachable state: a signal has one cancellation and one
`DELETE` at most; an action moves a cancellation along its state machine, and
a settled one is so in every later state; a resolution fails a signal only when
the stored views of every order of its claim ended untouched and the parent's
is exactly the entry; and while a cancellation is open no entry is queued or
authorized, no close is claimed on its symbol, and no observation releases its
signal. -/
theorem entry_cancelled_at_most_once (env : Env) {w : World Db Proc Mark}
    (h : (trader env).Reachable w) :
    ((w.store.cancels.map (·.signalId)).Nodup ∧ (deleted w.trace).Nodup)
      ∧ ((∀ i marks db' p', (trader env).act w.store w.trace (w.procs i) marks db' p' →
            ∀ c ∈ w.store.cancels, ∃ c' ∈ db'.cancels, c'.id = c.id
              ∧ CancelMove c.status c'.status)
          ∧ ∀ w', (trader env).Run w w' → ∀ c ∈ w.store.cancels,
            c.status = .accepted ∨ c.status = .rejected →
            (∃ c' ∈ w'.store.cancels, c'.id = c.id)
              ∧ ∀ c' ∈ w'.store.cancels, c'.id = c.id → c'.status = c.status)
      ∧ (∀ i calls db' p',
          Act env w.trace w.store (w.procs i) .resolveCancel calls db' p' →
          ∀ s ∈ w.store.signals, ∀ s' ∈ db'.signals, s'.id = s.id →
          s.status ≠ .failed → s'.status = .failed →
          ∃ c ∈ w.store.cancels, c.signalId = s.id ∧ ReleaseEvidence w.store c)
      ∧ ∀ c ∈ w.store.cancels, c.status.unresolved = true →
        (∀ ev now request trigger, ∃ answer,
            w.store.enqueueEntry env.cfg ev now request trigger = (w.store, answer)
              ∧ ∀ item, answer.1 = some item → item ∈ w.store.entries)
          ∧ (∀ ev riskFingerprint context t₀ t₁ t₂ item, ∃ reason,
            w.store.beginSubmission env.cfg ev riskFingerprint context t₀ t₁ t₂ item
              = (w.store, some reason))
          ∧ ∀ s ∈ w.store.signals, s.id = c.signalId →
            (∀ now values db' claimed record, values.symbol = s.contract →
                w.store.claimCloseRequest now values = some (db', claimed, record) →
                claimed = false ∧ db' = w.store)
              ∧ ∀ now observations db',
                Db.observeOrders env.digest now w.store observations = some db' →
                s ∈ db'.signals := by
  have hA := cancellation_holds env h
  have hn := (signalKeys_of_reachable env h).nodup
  obtain ⟨hc, hd, -⟩ := hA.store
  refine ⟨⟨hc.signals, hd⟩, ⟨?_, fun w' hr c hm hset => ?_⟩, ?_, ?_⟩
  · rintro i marks db' p' ⟨op, calls, ha, -⟩ c hm
    obtain ⟨c', hm', hs⟩ := ha.outcome.cancelEffect.exists_step hc hm
    exact ⟨c', hm', hs.id, hs.move⟩
  · exact Persists.of_final (cancellation_holds env (h.run hr)).store.1.ids
      (cancels_run env h hr c hm) hset
  · intro i calls db' p' ha s hs s' hs' hid hne hf
    rcases ha.resolveCancel_cases with
      rfl | ⟨item, hi, now, orders, reason, transportError, allowPending, resolved, hr⟩
    · rw [eq_of_key hn hs' hs hid] at hf
      exact absurd hf hne
    · obtain ⟨hsid, hev⟩ := Db.resolveCancel_fails hr (orderInv_of_reachable env h).keys hn
        hs hs' hid hne hf
      -- the item in hand is the claim of a row
      obtain ⟨c, hm, hsame⟩ := (hA.here i).2 item hi
      refine ⟨c, hm, hsame.signalId.trans hsid.symm, ⟨?_, ?_⟩⟩
      · rw [hsame.orderIds]
        exact hev.group
      · rw [hsame.identity]
        exact hev.parent
  · intro c hm hu
    refine ⟨Db.enqueueEntry_fenced hm hu env.cfg, Db.beginSubmission_fenced hm hu env.cfg,
      fun s hs hid => ⟨fun now values db' claimed record hsym hr => ?_,
        fun now observations db' ho => ?_⟩⟩
    · exact Db.claimCloseRequest_fenced hm hu hs hid hsym hr
    · exact Db.observeOrders_fenced hm hu hs hid hn ho

/-! ### An entry cancelled -/

/-- The sample entry is accepted, its order observed, and its cancellation
claimed by the operator. -/
def sampleAccepted : Db :=
  ((sampleClaimed.markSubmitting sampleItem).resolveEntry sampleEnv.cfg 4 sampleItem
    (entryReply (.ok { success := true, orderId := some "o-1" })) false).1

def sampleParent : OrderObservation :=
  { sampleObservation "new" "0" 5 with clientOrderId := "entry-0" }

def sampleObserved : Db :=
  (Db.observeOrders sampleEnv.digest 5 sampleAccepted [sampleParent]).getD sampleAccepted

def sampleIdentity : EntryIdentity := ⟨"o-1", "entry-0", "SPY", "buy", "10"⟩

def sampleCancel : CancelItem :=
  sampleObserved.cancelItem 6 1 sampleIdentity [sampleParent] .operator

theorem sampleObserve (t : List Mark) :
    Act sampleEnv t sampleAccepted .idle .observeOrders [] sampleObserved .idle := by
  refine .standalone rfl (.observeOrders 5 [sampleParent] ?_)
  have h : (Db.observeOrders sampleEnv.digest 5 sampleAccepted [sampleParent]).isSome := by
    decide +kernel
  obtain ⟨db, hdb⟩ := Option.isSome_iff_exists.mp h
  rw [sampleObserved, hdb]
  rfl

theorem sampleBeginCancel (t : List Mark) :
    Act sampleEnv t sampleObserved .idle .beginCancel []
      (sampleObserved.claimCancel sampleEnv.cfg 6 1 sampleIdentity [sampleParent] .operator).1
      (.cancelClaimed sampleCancel) := by
  refine .beginCancel (fun _ _ _ => none) 6 1 sampleIdentity [sampleParent] none .operator ?_
  have h : sampleObserved.cancelRefusal (fun _ _ _ => none) 1 sampleIdentity [sampleParent]
      none .operator = some none := by decide +kernel
  unfold Db.beginCancel
  rw [h]
  rfl

theorem entry_cancelled_at_most_once_sample :
    ∃ w, (trader sampleEnv).Reachable w ∧ 1 ∈ deleted w.trace
      ∧ (deleted w.trace).Nodup ∧ sampleCancel ∈ w.store.cancels
      ∧ ∃ answer, w.store.enqueueEntry sampleEnv.cfg sampleEvidence 7 sampleRequest .tap
        = (w.store, answer) := by
  have hC : ∀ (db : Db) (p : Proc) (db' : Db) (p' : Proc),
      (∀ n c, p ≠ .resumeClear n c) → True := fun _ _ _ _ _ => trivial
  obtain ⟨⟨store, procs, trace⟩, hw, rfl, hp, -⟩ := sampleQueued_reachable hC
  obtain ⟨⟨store, procs', trace'⟩, hw, rfl, hp', hq, -⟩ :=
    sampleSubmitted_reachable hC hw (hp 0)
  have h₁ := Act.reachable hw hp' trivial
    (.resolve (.ok { success := true, orderId := some "o-1" }) 4)
  have h₂ := Act.reachable h₁ (World.acted_procs_self _ 0 _ _ _) trivial (sampleObserve _)
  have h₃ := Act.reachable h₂ (World.acted_procs_self _ 0 _ _ _) trivial
    (sampleBeginCancel _)
  have h₄ := Act.reachable h₃ (World.acted_procs_self _ 0 _ _ _) trivial
    (.sendCancel none)
  have hmem : sampleCancel ∈ (sampleObserved.claimCancel sampleEnv.cfg 6 1 sampleIdentity
      [sampleParent] .operator).1.cancels := by
    rw [(Db.claimCancel_logs _ _ _ _ _ _ _).cancels]
    exact List.mem_append_right _ (List.mem_singleton_self _)
  obtain ⟨⟨-, hd⟩, -, -, hfence⟩ := entry_cancelled_at_most_once sampleEnv h₄.of_restrict
  obtain ⟨answer, ha, -⟩ := (hfence sampleCancel hmem rfl).1 sampleEvidence 7 sampleRequest .tap
  refine ⟨_, h₄.of_restrict, ?_, hd, hmem, answer, ha⟩
  rw [World.acted, deleted_append, deleted_append]
  exact List.mem_append_right _ (List.mem_append_left _ (List.mem_singleton_self _))

end AgenticTrader
