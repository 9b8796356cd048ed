import AgenticTrader.Effects

/-!
# Entry submission

An entry reaches the broker at most once, and one at a time. The guarantee
is spread over four transactions: the queue hands out its head only, under a
fresh token (`claim_entry`); the token crosses into `SUBMITTING` once
(`begin_submission`); and a settlement needs the token, or an outcome that is
open already (`resolve_entry`). None of them looks at what the processes are
doing, and a process that lost its lease does not know.

`EntryAct` says what an action of a process means for the entries and for
the claims the processes hold. The invariant has the queue's part
(`QueueInv`: the head of the queue is the only item past it), the trace's
part (`HandedInv`: what was handed over cannot be claimed again) and the
processes' part (a claim is known by its token, and no two processes hold
the same).
-/

namespace AgenticTrader

open Table

/-! ## Actions on entries -/

/-- The entry a process holds the claim of. -/
def Proc.entry? : Proc → Option EntryItem
  | .claimed item => some item
  | .refusing item _ => some item
  | .authorized item => some item
  | .executing item => some item
  | _ => none

/-- The entry a recovery has found at the broker. -/
def Proc.found? : Proc → Option EntryItem
  | .found item _ _ _ => some item
  | _ => none

/-- The transactions that write entries. -/
def Op.onEntries : Op → Bool
  | .enqueueEntry => true
  | .claimEntry => true
  | .beginSubmission => true
  | .resolveEntry => true
  | _ => false

section

variable {env : Env} {t : List Mark} {db db' : Db} {p p' : Proc} {op : Op}
  {calls : List Mark}

theorem Outcome.entries_eq (h : Outcome env db db' op) (ho : op.onEntries = false) :
    db'.entries = db.entries := by
  cases h with
  | keeps hk => exact hk.entries
  | cancelClaimed item fresh signal id status hl => exact hl.entries
  | cancelSettled item row c f result journaled reason mem id unrejected late ht hl =>
    rw [hl.entries, Db.haltIfUnknown_entries, ht.entries]
    rfl
  | reviewed text hl => exact hl.entries
  | written value hw => rw [hw]; rfl
  | closeClaimed record fresh status free entry hl => exact hl.entries
  | closeUpdated id status detail brokerOrderId hl => exact hl.entries
  | _ => exact absurd ho (by decide)

/-- **What an action means for the entries.** -/
inductive EntryAct (env : Env) (t : List Mark) (db db' : Db) :
    Proc → List Mark → Proc → Prop where
  /-- It does not write them, and the process holds no claim after it. -/
  | aside {p p' : Proc} {calls : List Mark} (entries : db'.entries = db.entries)
      (entry : p'.entry? = none)
      (found : ∀ item, p'.found? = some item → env.finds (handed t) item.id)
      (silent : handed calls = []) : EntryAct env t db db' p calls p'
  | queued {p p' : Proc} (now : Time) (request : OrderRequest) (trigger : EntryTrigger)
      (free : db.entryOf? request.signalId = none)
      (entries : db'.entries = db.entries ++ [db.queuedItem now request trigger])
      (uuids : db.uuids < db'.uuids) (eventSeq : db.eventSeq < db'.eventSeq)
      (entry : p'.entry? = none) (found : p'.found? = none) :
      EntryAct env t db db' p [] p'
  | claimed (lease now : Time) (row : EntryItem) (head : db.entryHead? = some row)
      (status : row.status.unresolved = false)
      (entries : db'.entries = updateWhere (fun e => e.id == row.id)
        (fun _ => db.claimedItem lease now row) db.entries)
      (uuids : db.uuids < db'.uuids) :
      EntryAct env t db db' .idle [] (.claimed (db.claimedItem lease now row))
  | refused {p : Proc} {item : EntryItem} {reason : String} (held : p.entry? = some item)
      (entries : db'.entries = db.entries) :
      EntryAct env t db db' p [] (.refusing item reason)
  | begun {item : EntryItem} (row : EntryItem) (mem : row ∈ db.entries)
      (id : row.id = item.id) (status : row.status = .checking)
      (token : row.token = item.token)
      (entries : db'.entries = updateWhere (fun e => e.id == item.id)
        (fun e => { e with status := .submitting, leaseUntil := none }) db.entries) :
      EntryAct env t db db' (.claimed item) [] (.authorized item)
  | sent {item : EntryItem} (same : db' = db) :
      EntryAct env t db db' (.authorized item) [.executeOrder item.id] (.executing item)
  /-- A settlement, by the holder of the token or by a recovery. -/
  | settled {p p' : Proc} (item row : EntryItem) (result : OrderResult)
      (fence : p.entry? = some item ∧ row.token = item.token
        ∨ p.found? = some item ∧ row.status.unresolved = true)
      (mem : row ∈ db.entries) (id : row.id = item.id)
      (blocking : row.status.blocking = true)
      (entries : db'.entries = updateWhere (fun e => e.id == row.id)
        (fun e => { e with status := result.entryStatus, result := some result })
        db.entries)
      (entry : p'.entry? = none) (found : p'.found? = none) :
      EntryAct env t db db' p [] p'

theorem EntryAct.of_resolveEntry {now : Time} {item : EntryItem} {result : OrderResult}
    {recovery : Bool}
    (hp : if recovery then p.found? = some item else p.entry? = some item)
    (he : p'.entry? = none) (hf : p'.found? = none) :
    EntryAct env t db (db.resolveEntry env.cfg now item result recovery).1 p [] p' := by
  rcases Db.resolveEntry_cases db env.cfg now item result recovery with
    hs | ⟨row, hr, hs⟩
  · exact .aside (by rw [hs]) he (by simp [hf]) rfl
  · obtain ⟨hm, hid, hb, hrec, htok⟩ := Db.resolvable?_eq_some hr
    obtain ⟨reason, hl⟩ := Db.settleEntry_logs db env.cfg now row item result
    refine .settled item row result ?_ hm hid hb ?_ he hf
    · cases recovery with
      | true => exact Or.inr ⟨hp, hrec rfl⟩
      | false => exact Or.inl ⟨hp, htok rfl⟩
    · rw [hs, hl.entries, Db.haltIfUnknown_entries]
      rfl

theorem Op.standalone_onEntries (h : op.standalone = true) : op.onEntries = false := by
  cases op <;> first | rfl | cases h

/-- **Every action is one of these.** -/
theorem Act.entryAct (h : Act env t db p op calls db' p') :
    EntryAct env t db db' p calls p' := by
  have ho := h.outcome
  cases h with
  | standalone hop h =>
    exact .aside (ho.entries_eq (Op.standalone_onEntries hop)) rfl (fun _ h => by cases h) rfl
  | enqueue ev now =>
    cases ho with
    | keeps hk => exact .aside hk.entries rfl (fun _ h => by cases h) rfl
    | queued now request trigger free closing pending hl =>
      exact .queued now request trigger free hl.entries hl.uuids hl.eventSeq rfl rfl
  | claim now h =>
    rcases Db.claimEntry_cases db env.cfg.entryPreflightLease now with
      he | ⟨row, hh, hs, hi, hl⟩
    · rw [he] at h
      cases h
    · rw [h] at hi hl
      obtain rfl := Option.some.inj hi
      exact .claimed _ now row hh hs hl.entries hl.uuids
  | preflightRefused reason => exact .refused rfl rfl
  | begin ev r c t₀ t₁ t₂ h =>
    rename_i item
    rcases Db.beginSubmission_cases db env.cfg ev r c t₀ t₁ t₂ item with
      ⟨reason, he⟩ | ⟨hr, he⟩
    · rw [he] at h
      cases h
    · rw [he] at h
      obtain ⟨rfl, -⟩ := Prod.mk.inj h
      obtain ⟨-, -, row, hm, hid, hs, ht⟩ := Db.submissionRefusal_eq_none hr
      exact .begun row hm hid hs ht (Db.markSubmitting_logs db item).entries
  | beginRefused ev r c t₀ t₁ t₂ h =>
    rename_i item reason
    rcases Db.beginSubmission_cases db env.cfg ev r c t₀ t₁ t₂ item with
      ⟨reason, he⟩ | ⟨hr, he⟩
    · rw [he] at h
      obtain ⟨rfl, -⟩ := Prod.mk.inj h
      exact .refused rfl rfl
    · rw [he] at h
      cases h
  | refuse now => exact EntryAct.of_resolveEntry rfl rfl rfl
  | handOver => exact .sent rfl
  | resolve reply now => exact EntryAct.of_resolveEntry rfl rfl rfl
  | lookupFound result hf =>
    refine .aside rfl rfl (fun item h => ?_) rfl
    cases h
    exact hf
  | recoverEntry now => exact EntryAct.of_resolveEntry rfl rfl rfl
  | @recovered after | @recoveredCancels after =>
    cases after <;> exact .aside rfl rfl (fun _ h => by cases h) rfl
  | beginCancel | readGroup | closeClaim | saveClose | syncExecution =>
    exact .aside (ho.entries_eq rfl) rfl (fun _ h => by cases h) rfl
  | resolveCancel | saveExit =>
    split <;> exact .aside (ho.entries_eq rfl) rfl (fun _ h => by cases h) rfl
  | resumeCancels | resumeLegacy =>
    split <;> exact .aside rfl rfl (fun _ h => by cases h) rfl
  | _ => exact .aside rfl rfl (fun _ h => by cases h) rfl

end

/-! ## The queue -/

/-- Not yet past `begin_submission`. -/
def WorkStatus.claimable : WorkStatus → Bool
  | .queued => true
  | .checking => true
  | _ => false

theorem WorkStatus.blocking_of_inFlight {s : WorkStatus} (h : s.inFlight = true) :
    s.blocking = true := by
  revert h
  cases s <;> decide

/-- **The moves of an entry.** -/
inductive EntryMove : WorkStatus → WorkStatus → Prop where
  | stay (a : WorkStatus) : EntryMove a a
  | claim {a : WorkStatus} (h : a.claimable = true) : EntryMove a .checking
  | begin : EntryMove .checking .submitting
  | settle {a : WorkStatus} (h : a.inFlight = true) (result : OrderResult) :
      EntryMove a result.entryStatus

/-- What a row can become in one action; only the head of the queue gets
past it. -/
structure EntryStep (db db' : Db) (e e' : EntryItem) : Prop where
  id : e'.id = e.id
  sequence : e'.sequence = e.sequence
  request : e'.request = e.request
  move : EntryMove e.status e'.status
  token : e'.token = e.token ∨ e.status.claimable = true ∧ e'.token = some db.uuids
    ∧ e'.status = .checking ∧ db.uuids < db'.uuids
  head : e'.status.inFlight = true → e.status.inFlight = true
    ∨ ∀ x ∈ db.entries, x.status.blocking = true → e.sequence ≤ x.sequence

theorem EntryStep.refl (db db' : Db) (e : EntryItem) : EntryStep db db' e e :=
  ⟨rfl, rfl, rfl, .stay _, Or.inl rfl, Or.inl⟩

theorem OrderResult.entryStatus_cases (r : OrderResult) :
    r.entryStatus = .accepted ∨ r.entryStatus = .unknown ∨ r.entryStatus = .rejected := by
  unfold entryStatus
  split
  · exact Or.inl rfl
  · split
    · exact Or.inr (Or.inl rfl)
    · exact Or.inr (Or.inr rfl)

/-- Past the authority there is no way back. -/
theorem EntryMove.claimable_eq_false {a b : WorkStatus} (h : EntryMove a b)
    (ha : a.claimable = false) : b.claimable = false := by
  cases h with
  | stay => exact ha
  | claim h => rw [ha] at h; cases h
  | begin => cases ha
  | settle h result =>
    rcases result.entryStatus_cases with he | he | he <;> rw [he] <;> rfl

/-- A row is blocking after a move only if it was before. -/
theorem EntryMove.blocking {a b : WorkStatus} (h : EntryMove a b)
    (hb : b.blocking = true) : a.blocking = true := by
  cases h with
  | stay => exact hb
  | claim h => cases a <;> first | rfl | cases h
  | begin => rfl
  | settle h result => cases a <;> first | rfl | cases h

/-- Nothing returns to the queue. -/
theorem EntryMove.eq_queued {a b : WorkStatus} (h : EntryMove a b) (hb : b = .queued) :
    a = .queued := by
  cases h with
  | stay => exact hb
  | claim => cases hb
  | begin => cases hb
  | settle h result =>
    rcases result.entryStatus_cases with he | he | he <;> rw [he] at hb <;> cases hb

/-- **An accepted or rejected entry stays so.** -/
theorem EntryMove.absorbing {a b : WorkStatus} (h : EntryMove a b)
    (ha : a = .accepted ∨ a = .rejected) : b = a := by
  cases h with
  | stay => rfl
  | claim h => rcases ha with rfl | rfl <;> cases h
  | begin => rcases ha with h | h <;> cases h
  | settle h result => rcases ha with rfl | rfl <;> cases h

/-- **The queue's invariant.** Items are told apart by id and by sequence, an
unclaimed item has no token, and an item past the queue is at its head. -/
structure QueueInv (db : Db) : Prop where
  ids : (db.entries.map (·.id)).Nodup
  ids_lt : ∀ e ∈ db.entries, e.id < db.uuids
  sequences : (db.entries.map (·.sequence)).Nodup
  sequences_le : ∀ e ∈ db.entries, e.sequence ≤ db.eventSeq
  queued_token : ∀ e ∈ db.entries, e.status = .queued → e.token = none
  token_lt : ∀ e ∈ db.entries, ∀ k, e.token = some k → k < db.uuids
  head : ∀ y ∈ db.entries, y.status.inFlight = true →
    ∀ x ∈ db.entries, x.status.blocking = true → y.sequence ≤ x.sequence

/-- An item in flight is the only one. -/
theorem QueueInv.inFlight_unique {db : Db} (h : QueueInv db) {x y : EntryItem}
    (hx : x ∈ db.entries) (hy : y ∈ db.entries) (hxf : x.status.inFlight = true)
    (hyf : y.status.inFlight = true) : x = y := by
  have hle := h.head x hx hxf y hy (WorkStatus.blocking_of_inFlight hyf)
  have hge := h.head y hy hyf x hx (WorkStatus.blocking_of_inFlight hxf)
  exact eq_of_key h.sequences hx hy (le_antisymm hle hge)

/-- The head of the queue, found. -/
theorem Db.entryHead?_eq_some {db : Db} {row : EntryItem} (h : db.entryHead? = some row) :
    row ∈ db.entries ∧ row.status.blocking = true
      ∧ ∀ e ∈ db.entries, e.status.blocking = true → row.sequence ≤ e.sequence := by
  have hm := List.argmin_mem (Option.mem_def.mpr h)
  obtain ⟨hr, hb⟩ := List.mem_filter.mp hm
  refine ⟨hr, hb, fun e he heb => ?_⟩
  exact List.le_of_mem_argmin (List.mem_filter.mpr ⟨he, heb⟩) (Option.mem_def.mpr h)

section

variable {env : Env} {t : List Mark} {db db' : Db} {p p' : Proc} {calls : List Mark}

/-- A claimed item was queued, or its claim was lost. -/
theorem QueueInv.claimable_of_head {row : EntryItem} (h : db.entryHead? = some row)
    (hu : row.status.unresolved = false) : row.status.claimable = true := by
  obtain ⟨-, hb, -⟩ := Db.entryHead?_eq_some h
  revert hb hu
  cases row.status <;> decide

/-- A settled item was in flight: a process's token is not an unclaimed
item's. -/
theorem QueueInv.inFlight_of_fence (hq : QueueInv db)
    (hheld : ∀ item, p.entry? = some item → ∃ k, item.token = some k)
    {item row : EntryItem} (hm : row ∈ db.entries) (hb : row.status.blocking = true)
    (hf : p.entry? = some item ∧ row.token = item.token
      ∨ p.found? = some item ∧ row.status.unresolved = true) :
    row.status.inFlight = true := by
  rcases hf with ⟨hp, ht⟩ | ⟨-, hu⟩
  · obtain ⟨k, hk⟩ := hheld item hp
    have hnq : row.status ≠ .queued := by
      intro hs
      rw [hq.queued_token row hm hs, hk] at ht
      cases ht
    revert hb hnq
    cases row.status <;> decide
  · revert hu
    cases row.status <;> decide

/-- **What an action does to the rows**: each becomes what a step allows, and
at most one new item is queued. -/
theorem EntryAct.rows (h : EntryAct env t db db' p calls p') (hq : QueueInv db)
    (hheld : ∀ item, p.entry? = some item → ∃ k, item.token = some k) :
    ∃ g new, db'.entries = db.entries.map g ++ new
      ∧ (∀ e ∈ db.entries, EntryStep db db' e (g e))
      ∧ (new = [] ∨ ∃ now request trigger, new = [db.queuedItem now request trigger]
          ∧ db.entryOf? request.signalId = none
          ∧ db.uuids < db'.uuids ∧ db.eventSeq < db'.eventSeq) := by
  cases h with
  | aside he => exact ⟨id, [], by simpa using he, fun e _ => EntryStep.refl db db' e, Or.inl rfl⟩
  | queued now request trigger hfree he hu hs =>
    exact ⟨id, _, by simpa using he, fun e _ => EntryStep.refl db db' e,
      Or.inr ⟨now, request, trigger, rfl, hfree, hu, hs⟩⟩
  | claimed lease now row hh hs he hu =>
    refine ⟨_, [], by simpa [updateWhere] using he, fun e hm => ?_, Or.inl rfl⟩
    split
    · rename_i hid
      obtain rfl : e = row := eq_of_key hq.ids hm (Db.entryHead?_eq_some hh).1
        (by simpa using hid)
      have hc := QueueInv.claimable_of_head hh hs
      exact ⟨rfl, rfl, rfl, .claim hc, Or.inr ⟨hc, rfl, rfl, hu⟩,
        fun _ => Or.inr (Db.entryHead?_eq_some hh).2.2⟩
    · exact EntryStep.refl db db' e
  | refused held he =>
    exact ⟨id, [], by simpa using he, fun e _ => EntryStep.refl db db' e, Or.inl rfl⟩
  | begun row hm hid hs ht he =>
    refine ⟨_, [], by simpa [updateWhere] using he, fun e hme => ?_, Or.inl rfl⟩
    split
    · rename_i hie
      obtain rfl : e = row := eq_of_key hq.ids hme hm (by rw [hid]; simpa using hie)
      exact ⟨rfl, rfl, rfl, by rw [hs]; exact .begin, Or.inl rfl,
        fun _ => Or.inl (by rw [hs]; rfl)⟩
    · exact EntryStep.refl db db' e
  | sent hsame =>
    exact ⟨id, [], by simp [hsame], fun e _ => EntryStep.refl db db' e, Or.inl rfl⟩
  | settled item row result hf hm hid hb he =>
    refine ⟨_, [], by simpa [updateWhere] using he, fun e hme => ?_, Or.inl rfl⟩
    split
    · rename_i hie
      obtain rfl : e = row := eq_of_key hq.ids hme hm (by simpa using hie)
      have hin := hq.inFlight_of_fence hheld hm hb hf
      exact ⟨rfl, rfl, rfl, .settle hin result, Or.inl rfl, fun _ => Or.inl hin⟩
    · exact EntryStep.refl db db' e

/-- The rows after an action, with what they were. -/
theorem EntryAct.mem_cases (h : EntryAct env t db db' p calls p') (hq : QueueInv db)
    (hheld : ∀ item, p.entry? = some item → ∃ k, item.token = some k) {e' : EntryItem}
    (he' : e' ∈ db'.entries) :
    (∃ e ∈ db.entries, EntryStep db db' e e')
      ∨ ∃ now request trigger, e' = db.queuedItem now request trigger
        ∧ db.uuids < db'.uuids ∧ db.eventSeq < db'.eventSeq := by
  obtain ⟨g, new, he, hg, hnew⟩ := h.rows hq hheld
  rw [he, List.mem_append, List.mem_map] at he'
  rcases he' with ⟨e, hm, rfl⟩ | hm
  · exact Or.inl ⟨e, hm, hg e hm⟩
  · rcases hnew with rfl | ⟨now, request, trigger, rfl, -, hu, hs⟩
    · cases hm
    · exact Or.inr ⟨now, request, trigger, List.mem_singleton.mp hm, hu, hs⟩

/-- A row is still there after an action. -/
theorem EntryAct.exists_step (h : EntryAct env t db db' p calls p') (hq : QueueInv db)
    (hheld : ∀ item, p.entry? = some item → ∃ k, item.token = some k) {e : EntryItem}
    (he : e ∈ db.entries) : ∃ e' ∈ db'.entries, EntryStep db db' e e' := by
  obtain ⟨g, new, he', hg, -⟩ := h.rows hq hheld
  refine ⟨g e, ?_, hg e he⟩
  rw [he', List.mem_append]
  exact Or.inl (List.mem_map_of_mem he)

/-- Keys that steps keep stay unique when the new item's is new. -/
theorem EntryAct.nodup_key {κ : Type*} (key : EntryItem → κ)
    (hkey : ∀ e e', EntryStep db db' e e' → key e' = key e)
    (h : EntryAct env t db db' p calls p') (hq : QueueInv db)
    (hheld : ∀ item, p.entry? = some item → ∃ k, item.token = some k)
    (hfresh : ∀ now request trigger, ∀ e ∈ db.entries,
      db.entryOf? request.signalId = none →
      key e ≠ key (db.queuedItem now request trigger))
    (hk : (db.entries.map key).Nodup) : (db'.entries.map key).Nodup := by
  obtain ⟨g, new, he, hg, hnew⟩ := h.rows hq hheld
  have hmap : (db.entries.map g).map key = db.entries.map key := by
    rw [List.map_map]
    exact List.map_congr_left (fun e hm => hkey _ _ (hg e hm))
  rw [he]
  rcases hnew with rfl | ⟨now, request, trigger, rfl, hfree, -, -⟩
  · rw [List.append_nil, hmap]
    exact hk
  · refine nodup_map_append_singleton (by rw [hmap]; exact hk) (fun e' he' => ?_)
    obtain ⟨e, hm, rfl⟩ := List.mem_map.mp he'
    rw [hkey _ _ (hg e hm)]
    exact hfresh now request trigger e hm hfree

/-- **The head stays at the head.** Whatever an action does, an item past the
queue after it comes before every blocking one. -/
theorem EntryAct.head (h : EntryAct env t db db' p calls p') (hq : QueueInv db)
    (hheld : ∀ item, p.entry? = some item → ∃ k, item.token = some k)
    {x y : EntryItem} (hy : y ∈ db'.entries) (hyf : y.status.inFlight = true)
    (hx : x ∈ db'.entries) (hxb : x.status.blocking = true) :
    y.sequence ≤ x.sequence := by
  rcases h.mem_cases hq hheld hy with ⟨y₀, hy₀, hsy⟩ | ⟨now, request, trigger, rfl, -, -⟩
  swap
  · cases hyf
  rcases h.mem_cases hq hheld hx with ⟨x₀, hx₀, hsx⟩ | ⟨now, request, trigger, rfl, -, -⟩
  swap
  · -- a queued item comes after everything
    rw [hsy.sequence]
    exact (hq.sequences_le y₀ hy₀).trans (Nat.le_succ _)
  have hxb₀ := hsx.move.blocking hxb
  rw [hsy.sequence, hsx.sequence]
  rcases hsy.head hyf with hy₀f | hmin
  · exact hq.head y₀ hy₀ hy₀f x₀ hx₀ hxb₀
  · exact hmin x₀ hx₀ hxb₀

/-- **An action keeps the queue's invariant.** -/
theorem EntryAct.queueInv (h : EntryAct env t db db' p calls p') (hq : QueueInv db)
    (hheld : ∀ item, p.entry? = some item → ∃ k, item.token = some k)
    (hu : db.uuids ≤ db'.uuids) (hs : db.eventSeq ≤ db'.eventSeq) : QueueInv db' where
  ids := h.nodup_key (·.id) (fun _ _ hs => hs.id) hq hheld
    (fun _ _ _ e he _ => (hq.ids_lt e he).ne) hq.ids
  ids_lt := by
    intro e he
    rcases h.mem_cases hq hheld he with ⟨e₀, he₀, hst⟩ | ⟨now, request, trigger, rfl, hu', -⟩
    · rw [hst.id]
      exact (hq.ids_lt e₀ he₀).trans_le hu
    · exact hu'
  sequences := h.nodup_key (·.sequence) (fun _ _ hs => hs.sequence) hq hheld
    (fun _ _ _ e he _ => (Nat.lt_succ_of_le (hq.sequences_le e he)).ne) hq.sequences
  sequences_le := by
    intro e he
    rcases h.mem_cases hq hheld he with ⟨e₀, he₀, hst⟩ | ⟨now, request, trigger, rfl, -, hs'⟩
    · rw [hst.sequence]
      exact (hq.sequences_le e₀ he₀).trans hs
    · exact hs'
  queued_token := by
    intro e he hst
    rcases h.mem_cases hq hheld he with ⟨e₀, he₀, hstep⟩ | ⟨now, request, trigger, rfl, -, -⟩
    · rcases hstep.token with ht | ⟨-, -, hc, -⟩
      · rw [ht]
        have hm := hstep.move
        exact hq.queued_token e₀ he₀ (hm.eq_queued hst)
      · rw [hst] at hc
        cases hc
    · rfl
  token_lt := by
    intro e he k hk
    rcases h.mem_cases hq hheld he with ⟨e₀, he₀, hstep⟩ | ⟨now, request, trigger, rfl, -, -⟩
    · rcases hstep.token with ht | ⟨-, ht, -, hlt⟩
      · exact (hq.token_lt e₀ he₀ k (by rw [← ht]; exact hk)).trans_le hu
      · rw [ht] at hk
        cases hk
        exact hlt
    · cases hk
  head := fun y hy hyf x hx hxb => h.head hq hheld hy hyf hx hxb

end

/-! ## The processes -/

/-- **What a process that holds an unused authority relies on**: its order has
not left, its item cannot be claimed again and – where the broker's lookup is
exact – nobody else has settled it. -/
structure Authorized (env : Env) (db : Db) (t : List Mark) (item : EntryItem) : Prop where
  unsent : item.id ∉ handed t
  row : ∃ e ∈ db.entries, e.id = item.id ∧ e.status.claimable = false
    ∧ (env.ExactLookup → e.status = .submitting ∧ e.token = item.token)

/-- **What the trace relies on**: no order left twice, and the item of one
that left cannot be claimed again. -/
structure HandedInv (db : Db) (t : List Mark) : Prop where
  nodup : (handed t).Nodup
  past : ∀ id ∈ handed t, ∃ e ∈ db.entries, e.id = id ∧ e.status.claimable = false

/-- **The invariant of entry submission.** -/
def submission (env : Env) : Program.Assertion Db Proc Mark where
  store db t := QueueInv db ∧ HandedInv db t
  here db t p :=
    (∀ item, p.entry? = some item → ∃ k, item.token = some k ∧ k < db.uuids)
      ∧ (∀ item, p = .authorized item → Authorized env db t item)
      ∧ (∀ item, p.found? = some item → env.ExactLookup → item.id ∈ handed t)
  apart p q :=
    (∀ x y, p.entry? = some x → q.entry? = some y → x.token ≠ y.token)
      ∧ (∀ x y, p = .authorized x → q = .authorized y → x.id ≠ y.id)

section

variable {env : Env} {t : List Mark} {db db' : Db} {p p' : Proc} {calls : List Mark}

/-- A row in `SUBMITTING` is left alone by everyone who neither holds its
token nor found it at the broker. -/
theorem EntryAct.submitting_kept (h : EntryAct env t db db' p calls p') (hq : QueueInv db)
    {e : EntryItem} (he : e ∈ db.entries) (hs : e.status = .submitting)
    (htoken : ∀ item, p.entry? = some item → item.token ≠ e.token)
    (hfound : ∀ item, p.found? = some item → item.id ≠ e.id) : e ∈ db'.entries := by
  cases h with
  | aside heq => rw [heq]; exact he
  | queued now request trigger hfree heq => rw [heq]; exact List.mem_append_left _ he
  | claimed lease now row hh hu heq =>
    rw [heq]
    refine mem_updateWhere_of_not he (beq_eq_false_iff_ne.mpr (fun hid => ?_))
    obtain rfl := eq_of_key hq.ids he (Db.entryHead?_eq_some hh).1 hid
    rw [hs] at hu
    cases hu
  | refused held heq => rw [heq]; exact he
  | begun row hm hid hc ht heq =>
    rw [heq]
    refine mem_updateWhere_of_not he (beq_eq_false_iff_ne.mpr (fun hid' => ?_))
    obtain rfl := eq_of_key hq.ids he hm (hid'.trans hid.symm)
    rw [hs] at hc
    cases hc
  | sent hsame => rw [hsame]; exact he
  | settled item row result hf hm hid hb heq =>
    rw [heq]
    refine mem_updateWhere_of_not he (beq_eq_false_iff_ne.mpr (fun hid' => ?_))
    obtain rfl := eq_of_key hq.ids he hm hid'
    rcases hf with ⟨hp, ht⟩ | ⟨hp, -⟩
    · exact htoken item hp ht.symm
    · exact hfound item hp hid.symm

/-- Only the process that hands an order over adds to the handed ones. -/
theorem EntryAct.handed_calls (h : EntryAct env t db db' p calls p') :
    handed calls = [] ∨ ∃ item, p = .authorized item ∧ handed calls = [item.id]
      ∧ p' = .executing item ∧ db' = db := by
  cases h with
  | aside heq entry found silent => exact Or.inl silent
  | sent hsame => exact Or.inr ⟨_, rfl, rfl, rfl, hsame⟩
  | _ => exact Or.inl rfl

theorem EntryAct.handedInv (h : EntryAct env t db db' p calls p') (hq : QueueInv db)
    (hh : HandedInv db t)
    (hheld : ∀ item, p.entry? = some item → ∃ k, item.token = some k)
    (hauth : ∀ item, p = .authorized item → Authorized env db t item) {u : List Mark}
    (hu : handed u = handed t ++ handed calls) : HandedInv db' u where
  nodup := by
    rw [hu]
    rcases h.handed_calls with hc | ⟨item, hp, hc, -, -⟩
    · rw [hc, List.append_nil]
      exact hh.nodup
    · rw [hc]
      refine List.nodup_append.mpr ⟨hh.nodup, List.nodup_singleton _, ?_⟩
      rintro a ha _ hb rfl
      rw [List.mem_singleton] at hb
      exact (hauth item hp).unsent (hb ▸ ha)
  past := by
    have hkeep : ∀ e ∈ db.entries, e.status.claimable = false →
        ∃ e' ∈ db'.entries, e'.id = e.id ∧ e'.status.claimable = false := by
      intro e he hc
      obtain ⟨e', he', hs⟩ := h.exists_step hq hheld he
      exact ⟨e', he', hs.id, hs.move.claimable_eq_false hc⟩
    intro id hid
    rw [hu, List.mem_append] at hid
    obtain ⟨e, he, rfl, hc⟩ : ∃ e ∈ db.entries, e.id = id ∧ e.status.claimable = false := by
      rcases hid with hid | hid
      · exact hh.past id hid
      · rcases h.handed_calls with hnil | ⟨item, hp, hone, -, -⟩
        · rw [hnil] at hid
          cases hid
        · rw [hone, List.mem_singleton] at hid
          obtain ⟨e, he, hei, hc, -⟩ := (hauth item hp).row
          exact ⟨e, he, hei.trans hid.symm, hc⟩
    exact hkeep e he hc

/-- **An unused authority survives every other process's action.** -/
theorem EntryAct.authorized_stable (h : EntryAct env t db db' p calls p')
    (hq : QueueInv db) (hp : (submission env).here db t p) {q : Proc} {item : EntryItem}
    (hqi : q = .authorized item) (ha : Authorized env db t item)
    (hpq : (submission env).apart p q) {u : List Mark}
    (hu : handed u = handed t ++ handed calls) : Authorized env db' u item where
  unsent := by
    rw [hu, List.mem_append]
    rintro (hid | hid)
    · exact ha.unsent hid
    · rcases h.handed_calls with hnil | ⟨x, hpx, hone, -, -⟩
      · rw [hnil] at hid
        cases hid
      · rw [hone, List.mem_singleton] at hid
        exact hpq.2 x item hpx hqi hid.symm
  row := by
    obtain ⟨e, he, hid, hc, hex⟩ := ha.row
    have hheld : ∀ x, p.entry? = some x → ∃ k, x.token = some k := fun x hx =>
      (hp.1 x hx).imp (fun _ hk => hk.1)
    by_cases hl : env.ExactLookup
    · obtain ⟨hs, ht⟩ := hex hl
      refine ⟨e, h.submitting_kept hq he hs (fun x hx => ?_) (fun x hx => ?_), hid, hc,
        fun _ => ⟨hs, ht⟩⟩
      · rw [ht]
        exact hpq.1 x item hx (by rw [hqi]; rfl)
      · intro hxe
        exact ha.unsent (hid ▸ hxe ▸ hp.2.2 x hx hl)
    · obtain ⟨e', he', hs⟩ := h.exists_step hq hheld he
      exact ⟨e', he', hs.id.trans hid, hs.move.claimable_eq_false hc,
        fun hl' => absurd hl' hl⟩

/-- A process without a claim relies on what its recovery found. -/
theorem submission_here_of_none (hentry : p.entry? = none)
    (hfound : ∀ item, p.found? = some item → env.ExactLookup → item.id ∈ handed t) :
    (submission env).here db t p := by
  refine ⟨fun item hi => ?_, fun item hi => ?_, hfound⟩
  · rw [hentry] at hi
    cases hi
  · rw [hi] at hentry
    cases hentry

/-- A process without a claim can be together with any other. -/
theorem submission_apart_of_none (hentry : p.entry? = none) (q : Proc) :
    (submission env).apart p q := by
  refine ⟨fun x y hi => ?_, fun x y hi => ?_⟩
  · rw [hentry] at hi
    cases hi
  · rw [hi] at hentry
    cases hentry

theorem submission_apart_symm {q : Proc} (h : (submission env).apart p q) :
    (submission env).apart q p :=
  ⟨fun x y hx hy => (h.1 y x hy hx).symm, fun x y hx hy => (h.2 y x hy hx).symm⟩

/-- A process with a claim that has no authority relies on its token. -/
theorem submission_here_of_token {item : EntryItem} (hentry : p.entry? = some item)
    (hauth : ∀ x, p ≠ .authorized x) (hfound : p.found? = none)
    (htoken : ∃ k, item.token = some k ∧ k < db.uuids) : (submission env).here db t p := by
  refine ⟨fun x hx => ?_, fun x hx => absurd hx (hauth x), fun x hx => ?_⟩
  · rw [hentry] at hx
    cases hx
    exact htoken
  · rw [hfound] at hx
    cases hx

/-- **What the acting process relies on after its action.** -/
theorem EntryAct.here (h : EntryAct env t db db' p calls p')
    (hs : (submission env).store db t) (hp : (submission env).here db t p)
    (hu : db.uuids ≤ db'.uuids) {u : List Mark}
    (hh : handed u = handed t ++ handed calls) : (submission env).here db' u p' := by
  have hheld : ∀ item, p.entry? = some item →
      ∃ k, item.token = some k ∧ k < db'.uuids := fun item hi =>
    (hp.1 item hi).imp (fun k hk => ⟨hk.1, hk.2.trans_le hu⟩)
  cases h with
  | aside heq hentry hfound hsilent =>
    refine submission_here_of_none hentry (fun item hi hl => ?_)
    rw [hh]
    exact List.mem_append_left _ (hl _ _ (hfound item hi))
  | queued now request trigger hfree heq hu' hs' hentry hfound =>
    exact submission_here_of_none hentry (fun item hi => by rw [hfound] at hi; cases hi)
  | claimed lease now row hhead hst heq hu' =>
    exact submission_here_of_token rfl (fun x hx => by cases hx) rfl ⟨db.uuids, rfl, hu'⟩
  | refused held heq =>
    exact submission_here_of_token rfl (fun x hx => by cases hx) rfl (hheld _ held)
  | @begun item row hm hid hst ht heq =>
    refine ⟨fun x hx => ?_, fun x hx => ?_, fun x hx => by cases hx⟩
    · cases hx
      exact hheld item rfl
    · cases hx
      refine ⟨fun hsent => ?_, { row with status := .submitting, leaseUntil := none }, ?_,
        hid, rfl, fun _ => ⟨rfl, ht⟩⟩
      · -- an order that left is past `CHECKING`, and this item was in it
        rw [hh, List.mem_append] at hsent
        rcases hsent with hsent | hsent
        · obtain ⟨e, he, hei, hc⟩ := hs.2.past _ hsent
          obtain rfl := eq_of_key hs.1.ids he hm (hei.trans hid.symm)
          rw [hst] at hc
          cases hc
        · cases hsent
      · rw [heq]
        exact mem_updateWhere.mpr ⟨row, hm, by simp [hid]⟩
  | sent hsame =>
    exact submission_here_of_token rfl (fun x hx => by cases hx) rfl (hheld _ rfl)
  | settled item row result hf hm hid hb heq hentry hfound =>
    exact submission_here_of_none hentry (fun item hi => by rw [hfound] at hi; cases hi)

/-- **What a process can be together with after its action.** -/
theorem EntryAct.apart (h : EntryAct env t db db' p calls p')
    (hs : (submission env).store db t) {q : Proc} (hq : (submission env).here db t q)
    (hpq : (submission env).apart p q) : (submission env).apart p' q := by
  cases h with
  | aside heq hentry => exact submission_apart_of_none hentry q
  | queued now request trigger hfree heq hu' hs' hentry =>
    exact submission_apart_of_none hentry q
  | claimed lease now row hhead hst heq hu' =>
    refine ⟨fun x y hi hy => ?_, fun x y hi => by cases hi⟩
    -- the token is the newest there is
    cases hi
    obtain ⟨k, hk, hlt⟩ := hq.1 y hy
    rw [hk]
    exact fun h => hlt.ne' (Option.some.inj h)
  | refused held heq =>
    refine ⟨fun x y hi hy => ?_, fun x y hi => by cases hi⟩
    cases hi
    exact hpq.1 _ y held hy
  | @begun item row hm hid hst ht heq =>
    refine ⟨fun x y hi hy => ?_, fun x y hi hy hxy => ?_⟩
    · cases hi
      exact hpq.1 item y rfl hy
    · cases hi
      obtain ⟨e, he, hei, hc, -⟩ := (hq.2.1 y hy).row
      obtain rfl := eq_of_key hs.1.ids he hm (hei.trans (hxy.symm.trans hid.symm))
      rw [hst] at hc
      cases hc
  | sent hsame =>
    refine ⟨fun x y hi hy => ?_, fun x y hi => by cases hi⟩
    cases hi
    exact hpq.1 _ y rfl hy
  | settled item row result hf hm hid hb heq hentry =>
    exact submission_apart_of_none hentry q

/-- **Every action keeps the invariant of entry submission.** -/
theorem submission_kept {op : Op} (h : Act env t db p op calls db' p')
    (hs : (submission env).store db t) (hp : (submission env).here db t p) :
    (submission env).Kept db t p (calls ++ leaves op db db') db' p' := by
  obtain ⟨hu, hv⟩ := h.outcome.counters
  have ha := h.entryAct
  have hh : handed (t ++ (calls ++ leaves op db db')) = handed t ++ handed calls := by
    simp
  have hheld : ∀ item, p.entry? = some item → ∃ k, item.token = some k := fun item hi =>
    (hp.1 item hi).imp (fun _ hk => hk.1)
  refine ⟨⟨ha.queueInv hs.1 hheld hu hv, ha.handedInv hs.1 hs.2 hheld hp.2.1 hh⟩,
    ha.here hs hp hu hh, fun q hq hpq hqp => ⟨⟨fun item hi => ?_, fun item hi => ?_,
      fun item hi hl => ?_⟩, ha.apart hs hq hpq, ?_⟩⟩
  · exact (hq.1 item hi).imp (fun k hk => ⟨hk.1, hk.2.trans_le hu⟩)
  · exact ha.authorized_stable hs.1 hp hi (hq.2.1 item hi) hpq hh
  · rw [hh]
    exact List.mem_append_left _ (hq.2.2 item hi hl)
  · exact submission_apart_symm (ha.apart hs hq hpq)

end

/-- **The invariant of entry submission holds in every reachable state.** -/
theorem submission_holds (env : Env) {w : World Db Proc Mark}
    (h : (trader env).Reachable w) : (submission env).Holds w := by
  refine Program.holds (submission env) ?_ (fun d t _ => ?_) (fun q => ?_) ?_ h
  · refine ⟨⟨List.nodup_nil, ?_, List.nodup_nil, ?_, ?_, ?_, ?_⟩, List.nodup_nil, ?_⟩
      <;> intro x hx <;> cases hx
  · exact submission_here_of_none rfl (fun _ hi => by cases hi)
  · have hidle := @submission_apart_of_none env .idle rfl q
    exact ⟨hidle, submission_apart_symm hidle⟩
  · rintro w i marks d p - hA ⟨op, calls, ha, rfl⟩
    exact submission_kept ha hA.store (hA.here i)

/-- The items of a run: none is lost, and a settled one keeps its outcome. -/
theorem entries_run (env : Env) {w w' : World Db Proc Mark} (h : (trader env).Reachable w)
    (hr : (trader env).Run w w') :
    ∀ e ∈ w.store.entries, ∃ e' ∈ w'.store.entries, Persists EntryItem.id EntryItem.status
      (fun s => s = .accepted ∨ s = .rejected) e e' := by
  refine Program.rows_rel (fun e => .refl e) (fun _ _ _ => .trans) ?_ h hr
  rintro w i marks d p hw ⟨op, calls, ha, -⟩ e he
  have hA := submission_holds env hw
  obtain ⟨e', he', hs⟩ := ha.entryAct.exists_step hA.store.1
    (fun item hi => ((hA.here i).1 item hi).imp (fun _ hk => hk.1)) he
  exact ⟨e', he', hs.id, hs.move.absorbing⟩

/-- **Entry submission is at most once and serialized.** In every reachable
state: no entry was handed to the executor twice; at most one entry is past
the queue, and no blocking one comes before it; an accepted or rejected entry
is so in every later state; and – the broker's lookup being exact – an order
that is handed over belongs to an entry in `SUBMITTING`, while every other
entry that is not settled is still in the queue. -/
theorem entry_submitted_at_most_once (env : Env) {w : World Db Proc Mark}
    (h : (trader env).Reachable w) :
    (handed w.trace).Nodup
      ∧ (∀ y ∈ w.store.entries, y.status.inFlight = true →
          (∀ x ∈ w.store.entries, x.status.inFlight = true → x = y)
            ∧ ∀ x ∈ w.store.entries, x.status.blocking = true → y.sequence ≤ x.sequence)
      ∧ (∀ w', (trader env).Run w w' → ∀ e ∈ w.store.entries,
          e.status = .accepted ∨ e.status = .rejected →
          (∃ e' ∈ w'.store.entries, e'.id = e.id)
            ∧ ∀ e' ∈ w'.store.entries, e'.id = e.id → e'.status = e.status)
      ∧ (env.ExactLookup → ∀ i marks db' p',
          (trader env).act w.store w.trace (w.procs i) marks db' p' →
          ∀ id ∈ handed marks, ∃ row ∈ w.store.entries, row.id = id
            ∧ row.status = .submitting
            ∧ ∀ e ∈ w.store.entries, e.id ≠ id → e.status.blocking = true →
              e.status = .queued) := by
  have hA := submission_holds env h
  obtain ⟨hq, hh⟩ := hA.store
  refine ⟨hh.nodup, fun y hy hyf => ⟨fun x hx hxf => hq.inFlight_unique hx hy hxf hyf,
    hq.head y hy hyf⟩, fun w' hr e he hset => ?_, ?_⟩
  · exact Persists.of_final (submission_holds env (h.run hr)).store.1.ids
      (entries_run env h hr e he) hset
  · rintro hl i marks db' p' ⟨op, calls, ha, rfl⟩ id hid
    rw [handed_append, handed_leaves, List.append_nil] at hid
    rcases ha.entryAct.handed_calls with hnil | ⟨item, hp, hone, -, -⟩
    · rw [hnil] at hid
      cases hid
    · rw [hone, List.mem_singleton] at hid
      obtain ⟨row, hr, hrid, -, hex⟩ := ((hA.here i).2.1 item hp).row
      obtain ⟨hs, -⟩ := hex hl
      refine ⟨row, hr, hrid.trans hid.symm, hs, fun e he hne hb => ?_⟩
      by_contra hnq
      have hef : e.status.inFlight = true := by
        revert hb hnq
        cases e.status <;> decide
      have hrf : row.status.inFlight = true := by rw [hs]; rfl
      rw [hq.inFlight_unique he hr hef hrf] at hne
      exact hne (hrid.trans hid.symm)

/-! ### A card entered -/

def sampleCard : CardFields where
  contract := "SPY"
  direction := .long
  assetClass := .equity
  entryPrice := 100
  stopLoss := 98
  takeProfit := 104
  quantity := 10
  riskDollars := 20
  notionalValue := some 1000
  lifetime := .ok none

/-- No alpha in the way, and no account ledger to ask. -/
def sampleEvidence : EntryEvidence := ⟨fun _ => none, .ok none⟩

/-- The card is recorded, tapped, queued and claimed. -/
def sampleCarded : Db := (Db.empty.recordSignal 0 sampleCard false).1

def sampleSignal : Signal := Db.empty.newSignal 0 sampleCard none

def sampleRequest : OrderRequest := sampleSignal.orderRequest none

def sampleQueued : Db :=
  (sampleCarded.enqueueEntry sampleEnv.cfg sampleEvidence 1 sampleRequest .tap).1

def sampleItem : EntryItem :=
  sampleQueued.claimedItem sampleEnv.cfg.entryPreflightLease 2
    (sampleCarded.queuedItem 1 sampleRequest .tap)

def sampleClaimed : Db :=
  (sampleQueued.claimEntry sampleEnv.cfg.entryPreflightLease 2).1

theorem sampleClaim (t : List Mark) :
    Act sampleEnv t sampleQueued .idle .claimEntry [] sampleClaimed (.claimed sampleItem) :=
  .claim 2 (Prod.ext rfl (by decide +kernel))

theorem sampleBegin (t : List Mark) :
    Act sampleEnv t sampleClaimed (.claimed sampleItem) .beginSubmission []
      (sampleClaimed.markSubmitting sampleItem) (.authorized sampleItem) :=
  .begin sampleEvidence none none 3 3 3 (Prod.ext (by rfl) (by decide +kernel))

section

variable {C : Db → Proc → Db → Proc → Prop}
  (hC : ∀ db p db' p', (∀ n c, p ≠ .resumeClear n c) → C db p db' p')

include hC

/-- The card is queued and every process is idle, in the runs that meet any
condition on resumes. -/
theorem sampleQueued_reachable :
    ∃ w, ((trader sampleEnv).restrict C).Reachable w ∧ w.store = sampleQueued
      ∧ (∀ i, w.procs i = .idle) ∧ handed w.trace = [] ∧ cleared w.trace = [] := by
  have hn : ∀ n c, Proc.idle ≠ .resumeClear n c := by intro n c h; cases h
  have h₀ : ((trader sampleEnv).restrict C).Reachable ⟨Db.empty, fun _ => .idle, []⟩ :=
    TransitionSystem.Reachable.of_init rfl
  have h₁ := Act.reachable (i := 0) h₀ rfl (hC _ _ _ _ hn)
    (.standalone rfl (.recordSignal 0 sampleCard false))
  have h₂ := Act.reachable (i := 0) h₁ rfl (hC _ _ _ _ hn)
    (.tap sampleSignal none .tap rfl rfl)
  have h₃ := Act.reachable (i := 0) h₂ rfl (hC _ _ _ _ (by intro n c h; cases h))
    (.enqueue sampleEvidence 1)
  refine ⟨_, h₃, rfl, fun i => ?_, ?_, ?_⟩
  · by_cases hi : i = 0 <;> simp [World.acted, hi]
  · simp only [World.acted, handed_append, handed_leaves]
    rfl
  · simp only [World.acted, cleared_append, cleared_leaves]
    rfl

/-- From there a process claims the entry and hands its order over, whatever
the other processes are doing. -/
theorem sampleSubmitted_reachable {procs : ℕ → Proc} {trace : List Mark}
    (h : ((trader sampleEnv).restrict C).Reachable ⟨sampleQueued, procs, trace⟩)
    (hp : procs 0 = .idle) :
    ∃ w, ((trader sampleEnv).restrict C).Reachable w
      ∧ w.store = sampleClaimed.markSubmitting sampleItem
      ∧ w.procs 0 = .executing sampleItem ∧ (∀ i, i ≠ 0 → w.procs i = procs i)
      ∧ handed w.trace = handed trace ++ [0] ∧ cleared w.trace = cleared trace := by
  have h₁ := Act.reachable (i := 0) h hp (hC _ _ _ _ (by intro n c h; cases h))
    (sampleClaim trace)
  have h₂ := Act.reachable h₁ (World.acted_procs_self _ 0 _ _ _)
    (hC _ _ _ _ (by intro n c h; cases h)) (sampleBegin _)
  have h₃ := Act.reachable h₂ (World.acted_procs_self _ 0 _ _ _)
    (hC _ _ _ _ (by intro n c h; cases h)) .handOver
  refine ⟨_, h₃, rfl, World.acted_procs_self _ 0 _ _ _, fun i hi => ?_, ?_, ?_⟩
  · simp [World.acted, hi]
  · simp only [World.acted, handed_append, handed_leaves, List.append_nil, List.nil_append]
    rfl
  · simp only [World.acted, cleared_append, cleared_leaves, List.append_nil, List.nil_append]
    exact List.append_nil _

end

theorem entry_submitted_at_most_once_sample :
    sampleEnv.ExactLookup ∧ ∃ w, (trader sampleEnv).Reachable w ∧ handed w.trace = [0]
      ∧ (handed w.trace).Nodup
      ∧ ∀ y ∈ w.store.entries, y.status.inFlight = true →
        ∀ x ∈ w.store.entries, x.status.inFlight = true → x = y := by
  have hC : ∀ (db : Db) (p : Proc) (db' : Db) (p' : Proc),
      (∀ n c, p ≠ .resumeClear n c) → True := fun _ _ _ _ _ => trivial
  obtain ⟨⟨store, procs, trace⟩, hw, rfl, hp, ht, -⟩ := sampleQueued_reachable hC
  obtain ⟨w, hw, -, -, -, hh, -⟩ := sampleSubmitted_reachable hC hw (hp 0)
  obtain ⟨hn, hb, -, -⟩ := entry_submitted_at_most_once sampleEnv hw.of_restrict
  refine ⟨fun _ _ h => h, w, hw.of_restrict, ?_, hn, fun y hy hyf => (hb y hy hyf).1⟩
  rw [hh, ht]
  rfl

end AgenticTrader
