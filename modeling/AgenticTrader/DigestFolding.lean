import AgenticTrader.EntryCancellation
import AgenticTrader.OutboxDelivery
import AgenticTrader.Storage.Digest

/-!
# Notices folded into the digest

The routine notices of an auto entry – it was accepted, its cancellation was
requested at the deadline, the cancellation was confirmed – are not queued
while the daily digest can still report them (`folds_into_auto_digest`). The
digest itself is published in two transactions: one reads the rows, another
queues the message. A notice that is folded between the two is reported by
nobody: the test of the fold looks at whether the digest is queued, and not
at whether it was read (`folded_notice_lost`).

In the runs in which no digest is queued over such a fold (`Unfolded`), every
folded notice was committed before the rows of its date's digest were read,
and a confirmed cancellation is not reported as pending
(`folded_notice_reported`).
-/

namespace AgenticTrader

open Table

/-- The three routine notices that are folded. -/
inductive RoutineNotice where
  | accepted
  | cancelIntent
  | cancelled
  deriving DecidableEq, Repr

/-- **A mark of the digest**: a notice was folded into the digest of a date,
or the digest of a date was queued with the rows read when the trace had a
length. -/
inductive DigestMark where
  | folded (date : ℤ) (signalId : SignalId) (notice : RoutineNotice)
  | digest (date : ℤ) (rows : List AutoEntryDigestRow) (readAt : ℕ)
  deriving DecidableEq

/-! ## What a transaction folds -/

namespace Db

/-- The mark of a notice, when it is folded. -/
def foldMark (db : Db) (cfg : Config) (now : Time) (id : SignalId) (notice : RoutineNotice) :
    List DigestMark :=
  match db.signal? id with
  | some s =>
    if db.foldsIntoAutoDigest cfg now id then [.folded (cfg.etDate s.timestamp) id notice]
    else []
  | none => []

/-- What `resolve_entry` folds: the notice of an accepted entry whose outcome
was not unknown before. -/
def entryFold (db : Db) (cfg : Config) (now : Time) (item : EntryItem) (result : OrderResult)
    (recovery : Bool) : List DigestMark :=
  match db.resolvable? item recovery with
  | some row =>
    if result.entryStatus = .accepted ∧ row.status ≠ .unknown then
      db.foldMark cfg now item.request.signalId .accepted
    else []
  | none => []

/-- What `begin_cancel` folds: the intent of a claim made at the deadline. -/
def intentFold (db : Db) (cfg : Config) (now : Time) (signalId : SignalId)
    (cause : CancelCause) (answer : Except String CancelItem) : List DigestMark :=
  match answer with
  | .ok _ => if cause = .operator then [] else db.foldMark cfg now signalId .cancelIntent
  | .error _ => []

/-- The row `resolve_cancel` settles, when it settles one, and the evidence
it settles it with. -/
def settledCancel? (db : Db) (item : CancelItem) (orders : List OrderObservation)
    (reason transportError : Option String) (allowPending : Bool) :
    Option (CancelItem × Bool × Bool) := do
  let effective := db.effectiveOrders item orders
  let complete ← completeCancellation item.identity item.orderIds effective
  let row := db.cancel? item.id
  let refused := refusedRequest row transportError
  let filledFirst ← filledFirstEvidence item orders effective complete reason refused
  if !complete && !filledFirst && allowPending then none
  else
    (cancelToSettle? row complete transportError (cancelStatus complete filledFirst)
      ⟨cancelReason complete filledFirst reason, effective, refused⟩).map
      (fun row => (row, complete, filledFirst))

/-- What `resolve_cancel` folds: a deadline cancellation confirmed unfilled,
whose outcome was not unknown before. -/
def cancelFold (db : Db) (cfg : Config) (now : Time) (item : CancelItem)
    (orders : List OrderObservation) (reason transportError : Option String)
    (allowPending : Bool) : List DigestMark :=
  match db.settledCancel? item orders reason transportError allowPending with
  | some (row, complete, filledFirst) =>
    if complete = true ∧ filledFirst = false ∧ item.cause = .deadline
        ∧ row.status ≠ .unknown then
      db.foldMark cfg now item.signalId .cancelled
    else []
  | none => []

/-! ### What is queued and settled -/

theorem addNotification_queued (db : Db) (now : Time) (key : String)
    (payload : NotificationPayload) :
    ∃ n ∈ (db.addNotification now key payload).outbox, n.dedupKey = key := by
  unfold addNotification
  split
  · rename_i h
    obtain ⟨n, hn, hk⟩ := List.any_eq_true.mp h
    exact ⟨n, hn, by simpa using hk⟩
  · exact ⟨_, List.mem_append_right _ (List.mem_singleton_self _), rfl⟩

/-- **`resolve_cancel` settles the row `settledCancel?` names**, and nothing
otherwise. -/
theorem resolveCancel_settled {db db' : Db} {cfg : Config} {now : Time} {item : CancelItem}
    {orders : List OrderObservation} {reason transportError : Option String}
    {allowPending resolved : Bool}
    (h : db.resolveCancel cfg now item orders reason transportError allowPending
      = some (db', resolved)) :
    (db.settledCancel? item orders reason transportError allowPending = none ∧ db' = db)
      ∨ ∃ row complete filledFirst result,
        db.settledCancel? item orders reason transportError allowPending
          = some (row, complete, filledFirst)
        ∧ row ∈ db.cancels ∧ row.id = item.id
        ∧ db' = db.settleCancel cfg now row item complete filledFirst result := by
  unfold resolveCancel at h
  simp only [Option.bind_eq_bind, Option.bind_eq_some_iff] at h
  obtain ⟨complete, hc, filledFirst, hf, h⟩ := h
  unfold settledCancel?
  simp only [Option.bind_eq_bind, hc, hf, Option.bind_some]
  split at h
  · rename_i hp
    obtain ⟨rfl, -⟩ : db = db' ∧ false = resolved := by simpa using h
    rw [if_pos hp]
    exact Or.inl ⟨rfl, rfl⟩
  · rename_i hp
    rw [if_neg hp]
    split at h
    · rename_i hrow
      obtain ⟨rfl, -⟩ : db = db' ∧ true = resolved := by simpa using h
      rw [hrow]
      exact Or.inl ⟨rfl, rfl⟩
    · rename_i row hrow
      obtain ⟨rfl, -⟩ : _ = db' ∧ true = resolved := by simpa using h
      rw [hrow]
      rw [cancelToSettle?, Option.filter_eq_some_iff] at hrow
      refine Or.inr ⟨row, complete, filledFirst, _, rfl, List.mem_of_find?_eq_some hrow.1, ?_,
        rfl⟩
      simpa using List.find?_some hrow.1

end Db

/-! ## Publishers -/

/-- Where a publisher of the digest is. -/
inductive Publisher where
  | idle
  /-- The digest of the date was not queued yet. -/
  | publishing (date : ℤ)
  /-- Its rows were read, when the trace had a length. -/
  | digesting (date : ℤ) (rows : List AutoEntryDigestRow) (readAt : ℕ)

/-- The transactions that fold. -/
def Op.folds : Op → Bool
  | .resolveEntry => true
  | .beginCancel => true
  | .resolveCancel => true
  | _ => false

/-- **One action on the scope**: a transaction, with what it folds, or a step
of `publish_auto_entry_digest` – the check of the key, the read of the rows
and the queueing of the message; without a calendar, before the close or
without a row it ends. `resolve_cancel` is called with an item of the table. -/
inductive DigestAct (env : Env) (marked : SignalId → Option (Option ℤ))
    (t : List DigestMark) : Db → Publisher → List DigestMark → Db → Publisher → Prop where
  | resolveEntry {db : Db} (now : Time) (item : EntryItem) (result : OrderResult)
      (recovery : Bool) :
      DigestAct env marked t db .idle (db.entryFold env.cfg now item result recovery)
        (db.resolveEntry env.cfg now item result recovery).1 .idle
  | beginCancel {db db' : Db} (due : DeadlineCheck) (now : Time) (signalId : SignalId)
      (identity : EntryIdentity) (orders : List OrderObservation)
      (lifetime : Option LifetimePolicy) (cause : CancelCause)
      (answer : Except String CancelItem)
      (h : db.beginCancel env.cfg due now signalId identity orders lifetime cause
        = some (db', answer)) :
      DigestAct env marked t db .idle (db.intentFold env.cfg now signalId cause answer) db'
        .idle
  | resolveCancel {db db' : Db} (now : Time) (item : CancelItem)
      (orders : List OrderObservation) (reason transportError : Option String)
      (allowPending resolved : Bool)
      (hitem : ∀ c ∈ db.cancels, c.id = item.id → c.signalId = item.signalId)
      (h : db.resolveCancel env.cfg now item orders reason transportError allowPending
        = some (db', resolved)) :
      DigestAct env marked t db .idle
        (db.cancelFold env.cfg now item orders reason transportError allowPending) db' .idle
  | workflow {db db' : Db} {op : Op} (hop : op.folds = false)
      (h : Transaction env op db db') : DigestAct env marked t db .idle [] db' .idle
  | publish {db : Db} (date : ℤ) (h : db.autoEntryDigestQueued env.cfg date = false) :
      DigestAct env marked t db .idle [] db (.publishing date)
  | skipped {db : Db} {date : ℤ} : DigestAct env marked t db (.publishing date) [] db .idle
  | read {db : Db} {date : ℤ} (ev : DigestEvidence) (hev : ev.marked = marked)
      (h : db.autoEntryDigestRows env.cfg ev date ≠ []) :
      DigestAct env marked t db (.publishing date) [] db
        (.digesting date (db.autoEntryDigestRows env.cfg ev date) t.length)
  | queue {db db' : Db} {date : ℤ} {rows : List AutoEntryDigestRow} {readAt : ℕ} (now : Time)
      (h : db.queueAutoEntryDigest env.cfg now date (formatAutoEntryDigest env.cfg rows date)
        = (db', true)) :
      DigestAct env marked t db (.digesting date rows readAt) [.digest date rows readAt] db'
        .idle
  | alreadyQueued {db db' : Db} {date : ℤ} {rows : List AutoEntryDigestRow} {readAt : ℕ}
      (now : Time)
      (h : db.queueAutoEntryDigest env.cfg now date (formatAutoEntryDigest env.cfg rows date)
        = (db', false)) :
      DigestAct env marked t db (.digesting date rows readAt) [] db' .idle

/-- **The program of the digest.** `marked` is the marker and the rank the
cards were recorded with. -/
def digestProgram (env : Env) (marked : SignalId → Option (Option ℤ)) :
    Program Db Publisher DigestMark where
  store := Db.empty
  idle := .idle
  act db t p marks db' p' := DigestAct env marked t db p marks db' p'

section

variable {env : Env} {marked : SignalId → Option (Option ℤ)} {t marks : List DigestMark}
  {db db' : Db} {p p' : Publisher}

/-! ## What an action does -/

theorem Db.queueAutoEntryDigest_cases {cfg : Config} {now : Time} {date : ℤ} {text : String}
    {queued : Bool} (h : db.queueAutoEntryDigest cfg now date text = (db', queued)) :
    (queued = false ∧ db' = db)
      ∨ queued = true ∧ db.autoEntryDigestQueued cfg date = false
        ∧ db' = db.addNotification now (digestKey cfg date) (.message text) := by
  unfold queueAutoEntryDigest at h
  split at h
  · cases h
    exact Or.inl ⟨rfl, rfl⟩
  · rename_i hq
    cases h
    exact Or.inr ⟨rfl, by simpa using hq, rfl⟩

/-- **An action is a transaction of the workflow, or queues a message, or
writes nothing.** -/
theorem DigestAct.write (h : DigestAct env marked t db p marks db' p') :
    (∃ op, Transaction env op db db')
      ∨ ∃ now key payload, db' = db ∨ db' = db.addNotification now key payload := by
  cases h with
  | resolveEntry now item result recovery =>
    exact Or.inl ⟨_, .resolveEntry now item result recovery⟩
  | beginCancel due now signalId identity orders lifetime cause answer h =>
    exact Or.inl ⟨_, .beginCancel due now signalId identity orders lifetime cause answer h⟩
  | resolveCancel now item orders reason transportError allowPending resolved hitem h =>
    exact Or.inl ⟨_, .resolveCancel now item orders reason transportError allowPending
      resolved h⟩
  | workflow hop h => exact Or.inl ⟨_, h⟩
  | publish date h => exact Or.inr ⟨0, "", .message "", Or.inl rfl⟩
  | skipped => exact Or.inr ⟨0, "", .message "", Or.inl rfl⟩
  | read ev hev h => exact Or.inr ⟨0, "", .message "", Or.inl rfl⟩
  | queue now h =>
    rcases Db.queueAutoEntryDigest_cases h with ⟨hf, -⟩ | ⟨-, -, rfl⟩
    · cases hf
    · exact Or.inr ⟨_, _, _, Or.inr rfl⟩
  | alreadyQueued now h =>
    rcases Db.queueAutoEntryDigest_cases h with ⟨-, rfl⟩ | ⟨hf, -⟩
    · exact Or.inr ⟨0, "", .message "", Or.inl rfl⟩
    · cases hf

theorem DigestAct.cancelEffect (h : DigestAct env marked t db p marks db' p') :
    CancelEffect db db' ∧ db.uuids ≤ db'.uuids := by
  rcases h.write with ⟨op, ht⟩ | ⟨now, key, payload, rfl | rfl⟩
  · exact ⟨ht.outcome.cancelEffect, ht.outcome.counters.1⟩
  · exact ⟨.same rfl, le_rfl⟩
  · exact ⟨.same (by simp), Db.le_addNotification_uuids _ _ _ _⟩

/-- A digest that is queued stays queued. -/
theorem DigestAct.queued (h : DigestAct env marked t db p marks db' p') {date : ℤ}
    (hq : db.autoEntryDigestQueued env.cfg date = true) :
    db'.autoEntryDigestQueued env.cfg date = true := by
  have hqueues : db.Queues db' := by
    rcases h.write with ⟨op, ht⟩ | ⟨now, key, payload, rfl | rfl⟩
    · exact ht.queues
    · exact Db.Queues.refl _
    · exact (Db.Queues.refl db).add now key payload
  refine hqueues.keeps (I := fun d => d.autoEntryDigestQueued env.cfg date = true) hq ?_ ?_
  · intro a b hoff ha
    unfold Db.autoEntryDigestQueued
    rw [hoff.1]
    exact ha
  · intro a now key payload ha
    unfold Db.autoEntryDigestQueued Db.addNotification at *
    split
    · exact ha
    · rw [List.any_append, ha, Bool.true_or]

/-! ## What an action marks -/

theorem Db.mem_foldMark {cfg : Config} {now : Time} {id : SignalId} {notice : RoutineNotice}
    {m : DigestMark} (h : m ∈ db.foldMark cfg now id notice) :
    ∃ date, m = .folded date id notice ∧ db.autoEntryDigestQueued cfg date = false := by
  unfold foldMark at h
  split at h
  · rename_i s hs
    split at h
    · rename_i hf
      refine ⟨cfg.etDate s.timestamp, List.mem_singleton.mp h, ?_⟩
      by_contra hq
      rw [not_foldsIntoAutoDigest hs (by simpa using hq)] at hf
      cases hf
    · cases h
  · cases h

/-- **What a mark says**: a notice is folded while the digest of its date is
not queued, and a folded confirmation leaves the cancellation accepted; a
digest is queued by the publisher that read its rows. -/
inductive DigestMarked (cfg : Config) (db db' : Db) (p : Publisher) : DigestMark → Prop where
  | folded (date : ℤ) (id : SignalId) (notice : RoutineNotice)
      (unqueued : db.autoEntryDigestQueued cfg date = false)
      (cancelled : notice = .cancelled → ∃ row ∈ db.cancels, row.signalId = id
        ∧ ∃ row' ∈ db'.cancels, row'.signalId = id ∧ row'.status = .accepted) :
      DigestMarked cfg db db' p (.folded date id notice)
  | digest (date : ℤ) (rows : List AutoEntryDigestRow) (readAt : ℕ)
      (at_ : p = .digesting date rows readAt)
      (unqueued : db.autoEntryDigestQueued cfg date = false)
      (queued : db'.autoEntryDigestQueued cfg date = true) :
      DigestMarked cfg db db' p (.digest date rows readAt)

theorem DigestAct.mark (h : DigestAct env marked t db p marks db' p') {m : DigestMark}
    (hm : m ∈ marks) : DigestMarked env.cfg db db' p m := by
  cases h with
  | resolveEntry now item result recovery =>
    unfold Db.entryFold at hm
    split at hm
    · split at hm
      · obtain ⟨date, rfl, hq⟩ := Db.mem_foldMark hm
        exact .folded date _ _ hq (fun h => by cases h)
      · cases hm
    · cases hm
  | beginCancel due now signalId identity orders lifetime cause answer h =>
    unfold Db.intentFold at hm
    split at hm
    · split at hm
      · cases hm
      · obtain ⟨date, rfl, hq⟩ := Db.mem_foldMark hm
        exact .folded date _ _ hq (fun h => by cases h)
    · cases hm
  | resolveCancel now item orders reason transportError allowPending resolved hitem h =>
    unfold Db.cancelFold at hm
    rcases Db.resolveCancel_settled h with ⟨hn, rfl⟩ |
      ⟨row, complete, filledFirst, result, hrow, hmem, hid, rfl⟩
    · rw [hn] at hm
      cases hm
    · rw [hrow] at hm
      dsimp only at hm
      split at hm
      · rename_i hc
        obtain ⟨date, rfl, hq⟩ := Db.mem_foldMark hm
        refine .folded date _ _ hq (fun _ => ⟨row, hmem, hitem row hmem hid, ?_⟩)
        refine ⟨{ row with
          status := Db.cancelStatus complete filledFirst, result := some result }, ?_,
          hitem row hmem hid, by simp [hc.1, Db.cancelStatus]⟩
        obtain ⟨journaled, reason, ht, hl⟩ :=
          db.settleCancel_logs env.cfg now row item complete filledFirst result
        rw [hl.cancels, Db.haltIfUnknown_cancels, ht.cancels]
        exact mem_updateWhere_of hmem (by simp)
      · cases hm
  | queue now h =>
    rcases Db.queueAutoEntryDigest_cases h with ⟨hf, -⟩ | ⟨-, hq, rfl⟩
    · cases hf
    · obtain rfl := List.mem_singleton.mp hm
      refine .digest _ _ _ rfl hq ?_
      obtain ⟨n, hn, hk⟩ := Db.addNotification_queued db now (Db.digestKey env.cfg _) _
      exact List.any_eq_true.mpr ⟨n, hn, by simpa using hk⟩
  | _ => cases hm

/-! ## The invariant -/

/-- **The invariant of the digest**: the digests that were queued still are,
and a signal whose confirmed cancellation was folded has one cancellation,
which is accepted. -/
structure DigestKept (cfg : Config) (db : Db) (t : List DigestMark) : Prop where
  cancels : CancelInv db
  queued : ∀ date rows n, DigestMark.digest date rows n ∈ t →
    db.autoEntryDigestQueued cfg date = true
  cancelled : ∀ date id, DigestMark.folded date id .cancelled ∈ t →
    ∃ c ∈ db.cancels, c.signalId = id ∧ c.status = .accepted

/-- The cancellation of a signal is the only one it has. -/
theorem CancelInv.accepted (hc : CancelInv db) {c : CancelItem} (hm : c ∈ db.cancels)
    (hs : c.status = .accepted) :
    ∀ d ∈ db.cancels, d.signalId = c.signalId → d.status = .accepted := by
  intro d hd hid
  obtain rfl := eq_of_key hc.signals hd hm hid
  exact hs

theorem DigestAct.kept (h : DigestAct env marked t db p marks db' p')
    (hk : DigestKept env.cfg db t) : DigestKept env.cfg db' (t ++ marks) where
  cancels := h.cancelEffect.1.cancelInv hk.cancels h.cancelEffect.2
  queued := by
    intro date rows n hm
    rcases List.mem_append.mp hm with hm | hm
    · exact h.queued (hk.queued date rows n hm)
    · cases h.mark hm with
      | digest _ _ _ at_ unqueued queued => exact queued
  cancelled := by
    intro date id hm
    rcases List.mem_append.mp hm with hm | hm
    · obtain ⟨c, hc, hid, hs⟩ := hk.cancelled date id hm
      obtain ⟨c', hc', hstep⟩ := h.cancelEffect.1.exists_step hk.cancels hc
      refine ⟨c', hc', hstep.signalId.trans hid, ?_⟩
      exact (hstep.move.absorbing (Or.inl hs)).trans hs
    · cases h.mark hm with
      | folded _ _ _ unqueued cancelled =>
        obtain ⟨-, -, -, row', hm', hid', hs'⟩ := cancelled rfl
        exact ⟨row', hm', hid', hs'⟩

/-- **The condition a publisher does not check**: it queues the digest only
when no notice of the date was folded since it read the rows. -/
def Unfolded (cfg : Config) (db : Db) (t : List DigestMark) (p : Publisher) : Prop :=
  ∀ date rows readAt, p = .digesting date rows readAt →
    db.autoEntryDigestQueued cfg date = false →
    ∀ k id notice, t[k]? = some (.folded date id notice) → k < readAt

/-- Every notice folded into a digest was folded before its rows were
read. -/
def FoldsRead (t : List DigestMark) : Prop :=
  ∀ date rows readAt, DigestMark.digest date rows readAt ∈ t →
    ∀ k id notice, t[k]? = some (.folded date id notice) → k < readAt

/-- **An action that queues over no fold keeps the reads behind the folds.** -/
theorem DigestAct.foldsRead (h : DigestAct env marked t db p marks db' p')
    (hC : Unfolded env.cfg db t p) (hk : DigestKept env.cfg db t) (hr : FoldsRead t) :
    FoldsRead (t ++ marks) := by
  intro date rows readAt hd k id notice hf
  -- a new fold finds no digest of its date, and a new digest no fold since its read
  rcases List.mem_append.mp hd with hd | hd
  · by_cases hlt : k < t.length
    · rw [List.getElem?_append_left hlt] at hf
      exact hr date rows readAt hd k id notice hf
    · rw [List.getElem?_append_right (not_lt.mp hlt)] at hf
      cases h.mark (List.mem_of_getElem? hf) with
      | folded _ _ _ unqueued cancelled =>
        rw [hk.queued date rows readAt hd] at unqueued
        cases unqueued
  · cases h.mark hd with
    | digest _ _ _ at_ unqueued queued =>
      by_cases hlt : k < t.length
      · rw [List.getElem?_append_left hlt] at hf
        exact hC date rows readAt at_ unqueued k id notice hf
      · rw [List.getElem?_append_right (not_lt.mp hlt)] at hf
        have hmark := List.mem_of_getElem? hf
        subst at_
        cases h with
        | queue now h => simp at hmark
        | alreadyQueued now h => cases hd

end

section

variable {env : Env} {marked : SignalId → Option (Option ℤ)}

theorem digestKept_holds {w : World Db Publisher DigestMark}
    (h : (digestProgram env marked).Reachable w) : DigestKept env.cfg w.store w.trace := by
  refine Program.store_invariant (P := digestProgram env marked)
    (J := DigestKept env.cfg) ?_ ?_ h
  · exact ⟨⟨List.nodup_nil, (fun c hc => by cases hc), List.nodup_nil,
      (fun c hc => by cases hc)⟩, (fun _ _ _ hm => by cases hm), (fun _ _ hm => by cases hm)⟩
  · intro w i marks d p _ hk ha
    exact DigestAct.kept ha hk

/-- **The rows of a digest were read in a state of the run**, the one in which
the trace had the length they are marked with. -/
theorem digest_read {w : World Db Publisher DigestMark}
    (h : (digestProgram env marked).Reachable w) {date : ℤ}
    {rows : List AutoEntryDigestRow} {n : ℕ}
    (hd : DigestMark.digest date rows n ∈ w.trace
      ∨ ∃ i, w.procs i = .digesting date rows n) :
    ∃ v ev, (digestProgram env marked).Reachable v ∧ (digestProgram env marked).Run v w
      ∧ v.trace.length = n ∧ ev.marked = marked
      ∧ rows = v.store.autoEntryDigestRows env.cfg ev date := by
  revert date rows n
  refine TransitionSystem.Reachable.of_step (T := (digestProgram env marked).system)
    (I := fun w => ∀ {date : ℤ} {rows : List AutoEntryDigestRow} {n : ℕ},
      (DigestMark.digest date rows n ∈ w.trace ∨ ∃ i, w.procs i = .digesting date rows n) →
      ∃ v ev, (digestProgram env marked).Reachable v ∧ (digestProgram env marked).Run v w
        ∧ v.trace.length = n ∧ ev.marked = marked
        ∧ rows = v.store.autoEntryDigestRows env.cfg ev date) ?_ ?_ h
  · rintro _ rfl date rows n (hm | ⟨i, hi⟩)
    · cases hm
    · cases hi
  · intro w w' hw ih hs date rows n hd
    have later : (∃ v ev, (digestProgram env marked).Reachable v
        ∧ (digestProgram env marked).Run v w ∧ v.trace.length = n ∧ ev.marked = marked
        ∧ rows = v.store.autoEntryDigestRows env.cfg ev date) →
        ∃ v ev, (digestProgram env marked).Reachable v ∧ (digestProgram env marked).Run v w'
          ∧ v.trace.length = n ∧ ev.marked = marked
          ∧ rows = v.store.autoEntryDigestRows env.cfg ev date := by
      rintro ⟨v, ev, hv, hr, hrest⟩
      exact ⟨v, ev, hv, Relation.ReflTransGen.tail hr hs, hrest⟩
    rcases hs with ⟨i, marks, d, p, ha, rfl⟩ | ⟨i, rfl⟩
    · rcases hd with hm | ⟨j, hj⟩
      · rcases List.mem_append.mp hm with hm | hm
        · exact later (ih (Or.inl hm))
        · cases DigestAct.mark ha hm with
          | digest _ _ _ at_ unqueued queued => exact later (ih (Or.inr ⟨i, at_⟩))
      · by_cases hji : j = i
        · subst hji
          rw [World.acted_procs_self] at hj
          subst hj
          -- only the read leads here, and it reads this very store
          generalize hp : w.procs j = q at ha
          cases ha with
          | read ev hev hne =>
            exact ⟨w, ev, hw, Relation.ReflTransGen.single
              (Or.inl ⟨j, _, _, _, by rw [hp]; exact .read ev hev hne, rfl⟩), rfl, hev, rfl⟩
        · rw [World.acted_procs_ne w marks d p hji] at hj
          exact later (ih (Or.inr ⟨j, hj⟩))
    · rcases hd with hm | ⟨j, hj⟩
      · exact later (ih (Or.inl hm))
      · by_cases hji : j = i
        · subst hji
          simp [World.crashed, digestProgram] at hj
        · simp only [World.crashed, ne_eq, hji, not_false_eq_true,
            Function.update_of_ne] at hj
          exact later (ih (Or.inr ⟨j, hj⟩))

end

/-- **A folded notice is reported.** In every run whose publishers queue a
digest only when no notice of its date was folded since they read the rows:
the rows of a digest that was queued were read in a state of the run that
comes after every fold into it, and no signal whose confirmed cancellation was
folded is reported as pending. -/
theorem folded_notice_reported (env : Env) (marked : SignalId → Option (Option ℤ))
    {w : World Db Publisher DigestMark}
    (h : ((digestProgram env marked).guard (Unfolded env.cfg)).Reachable w) {date : ℤ}
    {rows : List AutoEntryDigestRow} {n : ℕ}
    (hd : DigestMark.digest date rows n ∈ w.trace) :
    ∃ v ev, (digestProgram env marked).Reachable v ∧ (digestProgram env marked).Run v w
      ∧ v.trace.length = n ∧ ev.marked = marked
      ∧ rows = v.store.autoEntryDigestRows env.cfg ev date
      ∧ ∀ k id notice, w.trace[k]? = some (.folded date id notice) →
        k < v.trace.length
          ∧ (notice = .cancelled →
            ∀ row ∈ rows, row.signalId = id → row.outcome ≠ .stillResting) := by
  have hfolds : FoldsRead w.trace := by
    refine Program.store_invariant
      (P := (digestProgram env marked).guard (Unfolded env.cfg))
      (J := fun _ t => FoldsRead t) (fun _ _ _ hm => by cases hm) ?_ h
    rintro w i marks d p hw hr ⟨ha, hC⟩
    exact DigestAct.foldsRead ha hC (digestKept_holds hw.of_guard) hr
  obtain ⟨v, ev, hv, hrun, hlen, hev, hrows⟩ := digest_read h.of_guard (Or.inl hd)
  refine ⟨v, ev, hv, hrun, hlen, hev, hrows, fun k id notice hf => ?_⟩
  have hk : k < v.trace.length := hlen ▸ hfolds date rows n hd k id notice hf
  refine ⟨hk, ?_⟩
  rintro rfl row hrow hid
  -- the fold is in the trace of the state that was read
  have hmem : DigestMark.folded date id .cancelled ∈ v.trace := by
    obtain ⟨rest, hrest⟩ := hrun.trace_grows
    rw [← hrest, List.getElem?_append_left hk] at hf
    exact List.mem_of_getElem? hf
  have hkept := digestKept_holds hv
  obtain ⟨c, hc, hcid, hcs⟩ := hkept.cancelled date id hmem
  rw [hrows] at hrow
  exact Db.autoEntryDigestRows_of_accepted hc hcid
    (fun e he heid => hkept.cancels.accepted hc hcs e he (heid.trans hcid.symm)) hrow hid

/-! ### A folded notice lost

A marked card is entered by the sweep and rests until its deadline. A
publisher reads the rows while the cancellation is pending; the broker
confirms it before the message is queued. -/

/-- The lifetime of the card: an hour of rest. -/
def sampleResting : LifetimePolicy := .trade (some 3600) none false

/-- The card, recorded and claimed by the auto-entry sweep. -/
def autoCarded : Db :=
  (Db.empty.recordSignal 0 { sampleCard with lifetime := .ok (some sampleResting) } false).1

def autoQueued : Db :=
  (autoCarded.enqueueEntry sampleEnv.cfg sampleEvidence 1 sampleRequest .auto).1

def autoClaimed : Db :=
  (autoQueued.claimEntry sampleEnv.cfg.entryPreflightLease 2).1

def autoItem : EntryItem :=
  autoQueued.claimedItem sampleEnv.cfg.entryPreflightLease 2
    (autoCarded.queuedItem 1 sampleRequest .auto)

def autoSubmitted : Db :=
  (autoClaimed.beginSubmission sampleEnv.cfg sampleEvidence none none 3 3 3 autoItem).1

/-- The entry is accepted, its order observed, and its cancellation claimed at
the deadline: both notices are folded. -/
def autoAccepted : Db :=
  (autoSubmitted.resolveEntry sampleEnv.cfg 4 autoItem
    { success := true, orderId := some "o-1" } false).1

def autoObserved : Db :=
  (Db.observeOrders sampleEnv.digest 5 autoAccepted [sampleParent]).getD autoAccepted

def autoCancel : CancelItem :=
  autoObserved.cancelItem 6 1 sampleIdentity [sampleParent] .deadline

def autoCancelling : Db :=
  (autoObserved.claimCancel sampleEnv.cfg 6 1 sampleIdentity [sampleParent] .deadline).1

/-- The broker confirms the cancellation. -/
def autoEnded : OrderObservation :=
  { sampleObservation "canceled" "0" 7 with clientOrderId := "entry-0" }

def autoSeen : Db :=
  (Db.observeOrders sampleEnv.digest 7 autoCancelling [autoEnded]).getD autoCancelling

def autoCancelled : Db :=
  ((autoSeen.resolveCancel sampleEnv.cfg 8 autoCancel [autoEnded] none none false).map
    (·.1)).getD autoSeen

/-- Every card is marked, and nothing else is on record. -/
def sampleDigest : DigestEvidence where
  marked := fun _ => some none
  attempts := fun _ => none
  terminals := fun _ => none
  general := fun q => toString q.num
  fixed2 := fun q => toString q.num

/-- The rows of the date, read while the cancellation is pending. -/
def sampleRows : List AutoEntryDigestRow := [⟨1, "SPY", .stillResting, none⟩]

/-- What the store computes along that run: the reads and the transactions succeed, the
notices are folded, and the digest is queued neither before nor after the cancellation. -/
theorem auto_evaluated :
    (Db.observeOrders sampleEnv.digest 5 autoAccepted [sampleParent]).isSome
      ∧ autoObserved.cancelRefusal (fun _ _ _ => some true) 1 sampleIdentity [sampleParent]
        (some sampleResting) .deadline = some none
      ∧ (Db.observeOrders sampleEnv.digest 7 autoCancelling [autoEnded]).isSome
      ∧ (autoSeen.resolveCancel sampleEnv.cfg 8 autoCancel [autoEnded] none none false).isSome
      ∧ autoSubmitted.entryFold sampleEnv.cfg 4 autoItem
        { success := true, orderId := some "o-1" } false = [.folded 0 1 .accepted]
      ∧ autoObserved.intentFold sampleEnv.cfg 6 1 .deadline (.ok autoCancel)
        = [.folded 0 1 .cancelIntent]
      ∧ autoSeen.autoEntryDigestRows sampleEnv.cfg sampleDigest 0 = sampleRows
      ∧ autoSeen.autoEntryDigestQueued sampleEnv.cfg 0 = false
      ∧ autoCancelled.autoEntryDigestQueued sampleEnv.cfg 0 = false := by
  decide +kernel

theorem sampleRows_read :
    autoSeen.autoEntryDigestRows sampleEnv.cfg sampleDigest 0 = sampleRows := by
  obtain ⟨-, -, -, -, -, -, h, -⟩ := auto_evaluated
  exact h

theorem autoObserved_eq :
    Db.observeOrders sampleEnv.digest 5 autoAccepted [sampleParent] = some autoObserved := by
  obtain ⟨db, hdb⟩ := Option.isSome_iff_exists.mp auto_evaluated.1
  rw [autoObserved, hdb]
  rfl

theorem autoCancelling_eq :
    autoObserved.beginCancel sampleEnv.cfg (fun _ _ _ => some true) 6 1 sampleIdentity
      [sampleParent] (some sampleResting) .deadline = some (autoCancelling, .ok autoCancel) := by
  unfold Db.beginCancel
  rw [auto_evaluated.2.1]
  rfl

theorem autoSeen_eq :
    Db.observeOrders sampleEnv.digest 7 autoCancelling [autoEnded] = some autoSeen := by
  obtain ⟨-, -, h, -⟩ := auto_evaluated
  obtain ⟨db, hdb⟩ := Option.isSome_iff_exists.mp h
  rw [autoSeen, hdb]
  rfl

theorem autoCancelled_eq :
    ∃ resolved, autoSeen.resolveCancel sampleEnv.cfg 8 autoCancel [autoEnded] none none false
      = some (autoCancelled, resolved) := by
  obtain ⟨-, -, -, h, -⟩ := auto_evaluated
  obtain ⟨⟨db, resolved⟩, hdb⟩ := Option.isSome_iff_exists.mp h
  refine ⟨resolved, ?_⟩
  rw [autoCancelled, hdb]
  rfl

/-- The digest is queued in neither state. -/
theorem auto_unqueued : autoSeen.autoEntryDigestQueued sampleEnv.cfg 0 = false
    ∧ autoCancelled.autoEntryDigestQueued sampleEnv.cfg 0 = false := by
  obtain ⟨-, -, -, -, -, -, -, h⟩ := auto_evaluated
  exact h

section

variable (C : Db → List DigestMark → Publisher → Prop)

/-- A state with a store and a trace is reached, and every process is idle. -/
def Rests (d : Db) (t : List DigestMark) : Prop :=
  ∃ w, ((digestProgram sampleEnv sampleDigest.marked).guard C).Reachable w
    ∧ w.store = d ∧ (∀ i, w.procs i = .idle) ∧ w.trace = t

variable {C} (hC : ∀ db t p, (∀ date rows n, p ≠ .digesting date rows n) → C db t p)

include hC

/-- One transaction, with every process idle before and after. -/
theorem Rests.act {d d' : Db} {t marks : List DigestMark} (h : Rests C d t)
    (ha : DigestAct sampleEnv sampleDigest.marked t d .idle marks d' .idle) :
    Rests C d' (t ++ marks) := by
  obtain ⟨w, hw, rfl, hp, rfl⟩ := h
  refine ⟨_, Program.Reachable.act (i := 0) (d := d') (p := .idle) hw
    ⟨by rw [hp 0]; exact ha, hC _ _ _ (by rw [hp 0]; simp)⟩, rfl, fun i => ?_, rfl⟩
  by_cases hi : i = 0
  · subst hi
    exact World.acted_procs_self _ _ _ _ _
  · rw [World.acted_procs_ne _ _ _ _ hi]
    exact hp i

/-- The run up to the broker's confirmation, which two notices were folded
in. -/
theorem autoSeen_rests :
    Rests C autoSeen [.folded 0 1 .accepted, .folded 0 1 .cancelIntent] := by
  obtain ⟨-, -, -, -, haccepted, hintent, -⟩ := auto_evaluated
  have h₀ : Rests C Db.empty [] :=
    ⟨_, TransitionSystem.Reachable.of_init rfl, rfl, fun _ => rfl, rfl⟩
  have h₁ : Rests C autoCarded [] := h₀.act hC (.workflow rfl (.recordSignal 0 _ false))
  have h₂ : Rests C autoQueued [] :=
    h₁.act hC (.workflow rfl (.enqueueEntry sampleEvidence 1 sampleRequest .auto))
  have h₃ : Rests C autoClaimed [] := h₂.act hC (.workflow rfl (.claimEntry 2))
  have h₄ : Rests C autoSubmitted [] :=
    h₃.act hC (.workflow rfl (.beginSubmission sampleEvidence none none 3 3 3 autoItem))
  have h₅ := h₄.act hC
    (.resolveEntry 4 autoItem { success := true, orderId := some "o-1" } false)
  rw [haccepted] at h₅
  have h₆ : Rests C autoObserved [.folded 0 1 .accepted] :=
    h₅.act hC (.workflow rfl (.observeOrders 5 [sampleParent] autoObserved_eq))
  have h₇ := h₆.act hC (.beginCancel (fun _ _ _ => some true) 6 1 sampleIdentity
    [sampleParent] (some sampleResting) .deadline (.ok autoCancel) autoCancelling_eq)
  rw [hintent] at h₇
  exact h₇.act hC (.workflow rfl (.observeOrders 7 [autoEnded] autoSeen_eq))

/-- A publisher reads the rows of the date there. -/
theorem autoSeen_read :
    ∃ w, ((digestProgram sampleEnv sampleDigest.marked).guard C).Reachable w
      ∧ w.store = autoSeen ∧ w.procs 0 = .idle ∧ w.procs 1 = .digesting 0 sampleRows 2
      ∧ w.trace = [.folded 0 1 .accepted, .folded 0 1 .cancelIntent] := by
  obtain ⟨⟨_, procs, _⟩, hw, rfl, hp, rfl⟩ := autoSeen_rests hC
  have h₁ := Program.Reachable.act (i := 1) hw
    ⟨by rw [hp 1]; exact .publish 0 auto_unqueued.1, hC _ _ _ (by rw [hp 1]; simp)⟩
  have hread : DigestAct sampleEnv sampleDigest.marked
      [.folded 0 1 .accepted, .folded 0 1 .cancelIntent] autoSeen (.publishing 0) [] autoSeen
      (.digesting 0 sampleRows 2) := by
    have h : Db.autoEntryDigestRows autoSeen sampleEnv.cfg sampleDigest 0 ≠ [] →
        DigestAct sampleEnv sampleDigest.marked
          [.folded 0 1 .accepted, .folded 0 1 .cancelIntent] autoSeen (.publishing 0) [] autoSeen
          (.digesting 0 (Db.autoEntryDigestRows autoSeen sampleEnv.cfg sampleDigest 0) 2) :=
      .read sampleDigest rfl
    rw [sampleRows_read] at h
    exact h (by simp [sampleRows])
  have h₂ := Program.Reachable.act (i := 1) h₁
    ⟨by rw [World.acted_procs_self]; exact hread,
      hC _ _ _ (by rw [World.acted_procs_self]; simp)⟩
  refine ⟨_, h₂, rfl, ?_, World.acted_procs_self _ _ _ _ _, rfl⟩
  rw [World.acted_procs_ne _ _ _ _ (by decide), World.acted_procs_ne _ _ _ _ (by decide)]
  exact hp 0

end

/-- The digest is queued over the store. -/
def queuedDigest (db : Db) : Db :=
  db.addNotification 9 (Db.digestKey sampleEnv.cfg 0)
    (.message (formatAutoEntryDigest sampleEnv.cfg sampleRows 0))

theorem queueAutoEntryDigest_sample {db : Db}
    (h : db.autoEntryDigestQueued sampleEnv.cfg 0 = false) :
    db.queueAutoEntryDigest sampleEnv.cfg 9 0
      (formatAutoEntryDigest sampleEnv.cfg sampleRows 0) = (queuedDigest db, true) := by
  unfold Db.queueAutoEntryDigest
  rw [h]
  rfl

/-- Nothing is folded after the read: the digest is queued with both folds
behind it. -/
theorem folded_notice_reported_sample :
    ∃ w, ((digestProgram sampleEnv sampleDigest.marked).guard
        (Unfolded sampleEnv.cfg)).Reachable w
      ∧ DigestMark.digest 0 sampleRows 2 ∈ w.trace
      ∧ ∃ v ev, (digestProgram sampleEnv sampleDigest.marked).Reachable v
        ∧ v.trace.length = 2 ∧ sampleRows = v.store.autoEntryDigestRows sampleEnv.cfg ev 0 := by
  have hC : ∀ (db : Db) (t : List DigestMark) (p : Publisher),
      (∀ date rows n, p ≠ .digesting date rows n) → Unfolded sampleEnv.cfg db t p :=
    fun _ _ _ hn date rows n hp => absurd hp (hn date rows n)
  obtain ⟨⟨_, procs, _⟩, hw, rfl, -, hp, rfl⟩ := autoSeen_read hC
  have hq := Program.Reachable.act (i := 1) hw
    ⟨by rw [hp]; exact .queue 9 (queueAutoEntryDigest_sample auto_unqueued.1), by
      rw [hp]
      intro date rows n he _ k id notice hf
      cases he
      have hk := (List.getElem?_eq_some_iff.mp hf).1
      exact hk⟩
  refine ⟨_, hq, List.mem_append_right _ (List.mem_singleton_self _), ?_⟩
  obtain ⟨v, ev, hv, -, hlen, -, hrows, -⟩ := folded_notice_reported sampleEnv _ hq
    (List.mem_append_right _ (List.mem_singleton_self _))
  exact ⟨v, ev, hv, hlen, hrows⟩

/-- **A folded notice can be lost.** A publisher reads the rows while the
cancellation is pending; it is confirmed, and its notice is folded, since the
digest is not queued yet; the digest is queued. The cancellation is accepted,
the digest reports it as pending, and the outbox holds nothing else. -/
theorem folded_notice_lost :
    ∃ w, (digestProgram sampleEnv sampleDigest.marked).Reachable w
      ∧ w.trace = [.folded 0 1 .accepted, .folded 0 1 .cancelIntent, .folded 0 1 .cancelled,
        .digest 0 sampleRows 2]
      ∧ (∃ c ∈ w.store.cancels, c.signalId = 1 ∧ c.status = .accepted)
      ∧ (∃ row ∈ sampleRows, row.signalId = 1 ∧ row.outcome = .stillResting)
      ∧ w.store.outbox.map (·.dedupKey) = [Db.digestKey sampleEnv.cfg 0] := by
  obtain ⟨⟨_, procs, _⟩, hw, rfl, hp₀, hp₁, rfl⟩ :=
    autoSeen_read (C := fun _ _ _ => True) (fun _ _ _ _ => trivial)
  obtain ⟨resolved, hres⟩ := autoCancelled_eq
  have hitem : ∀ c ∈ autoSeen.cancels, c.id = autoCancel.id →
      c.signalId = autoCancel.signalId := by decide +kernel
  have h₁ := Program.Reachable.act (i := 0) hw
    ⟨by
      rw [hp₀]
      exact .resolveCancel 8 autoCancel [autoEnded] none none false resolved hitem hres,
      trivial⟩
  rw [show autoSeen.cancelFold sampleEnv.cfg 8 autoCancel [autoEnded] none none false
    = [.folded 0 1 .cancelled] from by decide +kernel] at h₁
  have h₂ := Program.Reachable.act (i := 1) h₁
    ⟨by
      rw [World.acted_procs_ne _ _ _ _ (by decide)]
      rw [hp₁]
      exact .queue 9 (queueAutoEntryDigest_sample auto_unqueued.2), trivial⟩
  have ho : (queuedDigest autoCancelled).outbox.map (·.dedupKey)
      = [Db.digestKey sampleEnv.cfg 0] := by decide +kernel
  refine ⟨_, h₂.of_guard, rfl, ?_, ⟨_, List.mem_singleton_self _, rfl, rfl⟩, ho⟩
  have hc : (queuedDigest autoCancelled).cancels.any
      (fun c => c.signalId == 1 && c.status == .accepted) = true := by decide +kernel
  obtain ⟨c, hm, hs⟩ := List.any_eq_true.mp hc
  exact ⟨c, hm, by simpa using hs⟩

end AgenticTrader
