import AgenticTrader.EntrySubmission
import AgenticTrader.SignalLifecycle
import AgenticTrader.Risk.Rules
import Mathlib

/-!
# The reserved book

A signal that is `SUBMITTING` or `EXECUTED` holds a place in the book. The
limits on the book are tested at admission, on a request and the rows there
are at that moment; the rows are then written by a dozen other transactions.
The limits hold of every reachable state because only an admission adds a
place, one at a time, and what it tested – the contract and the direction of
the signal – never changes.

A limit here is a number of places among the signals of some symbols and
direction (`BookLimit`), and it is kept whenever admission enforces it; the
rules of `risk/` enforce the three kinds the theorem names.

A reservation is `SUBMITTING` exactly while its entry is open: both are
written in one transaction, when the entry is queued and when it is settled.
-/

namespace AgenticTrader

open Table

/-! ## Places and limits -/

/-- The statuses that hold a place in the book. -/
def SignalStatus.reserved : SignalStatus → Bool
  | .submitting => true
  | .executed => true
  | _ => false

/-- How many places of the book are on a symbol and direction of some kind. -/
def Db.held (db : Db) (counts : String → Direction → Bool) : ℕ :=
  db.reservations.countP (fun s => counts s.contract s.direction)

theorem Db.held_eq (db : Db) (counts : String → Direction → Bool) :
    db.held counts
      = db.signals.countP (fun s => s.status.reserved && counts s.contract s.direction) := by
  unfold held reservations
  rw [List.countP_filter]
  refine List.countP_congr (fun s _ => ?_)
  cases s.status <;> simp [SignalStatus.reserved]

/-- **A limit on the book**: at most so many places among the signals it
counts. -/
structure BookLimit where
  counts : String → Direction → Bool
  bound : ℕ

/-- Admission enforces the limit: it accepts a request the limit counts only
when there is room for one more. -/
def BookLimit.Enforced (l : BookLimit) (cfg : Config) : Prop :=
  ∀ request rows drawdown equity,
    cfg.reservationRejection request rows drawdown equity = none →
    l.counts request.symbol request.direction = true →
    rows.countP (fun s => l.counts s.contract s.direction) < l.bound

/-! ## What an action does to places and entries -/

/-- What a signal can become when nothing is admitted or settled. -/
structure SteadySignal (s s' : Signal) : Prop where
  id : s'.id = s.id
  contract : s'.contract = s.contract
  direction : s'.direction = s.direction
  submitting : s'.status = .submitting ↔ s.status = .submitting
  reserved : s'.status.reserved = true → s.status.reserved = true

theorem SteadySignal.refl (s : Signal) : SteadySignal s s :=
  ⟨rfl, rfl, rfl, Iff.rfl, fun h => h⟩

/-- What an entry can become then. -/
structure SteadyEntry (e e' : EntryItem) : Prop where
  id : e'.id = e.id
  request : e'.request = e.request
  blocking : e'.status.blocking = e.status.blocking

theorem SteadyEntry.refl (e : EntryItem) : SteadyEntry e e :=
  ⟨rfl, rfl, rfl⟩

/-- **No place is taken and no entry settled**: signals and entries only make
steady steps, and a new signal is a card. -/
structure Steady (db db' : Db) : Prop where
  signals : ∃ g new, db'.signals = db.signals.map g ++ new
    ∧ (∀ s ∈ db.signals, SteadySignal s (g s)) ∧ ∀ s ∈ new, s.status = .pending
  entries : ∃ g, db'.entries = db.entries.map g ∧ ∀ e ∈ db.entries, SteadyEntry e (g e)

theorem Steady.refl (db : Db) : Steady db db :=
  ⟨⟨id, [], by simp, fun s _ => SteadySignal.refl s, fun s hs => by cases hs⟩,
    ⟨id, by simp, fun e _ => SteadyEntry.refl e⟩⟩

/-- The transactions that take a place or settle an entry. -/
def Op.reserves : Op → Bool
  | .enqueueEntry => true
  | .resolveEntry => true
  | .updateSignalExecution => true
  | _ => false

/-- The entries a process has read. -/
def Proc.heldItems : Proc → List EntryItem
  | .claimed item => [item]
  | .refusing item _ => [item]
  | .authorized item => [item]
  | .executing item => [item]
  | .recovering items _ => items
  | .found item _ items _ => item :: items
  | _ => []

/-- **What an action means for the book.** -/
inductive ReserveAct (env : Env) (db db' : Db) : Proc → Prop where
  | steady {p : Proc} (steady : Steady db db') : ReserveAct env db db' p
  /-- A request is admitted: its signal is reserved and its entry queued. -/
  | queued (ev : EntryEvidence) (now : Time) (request : OrderRequest)
      (trigger : EntryTrigger) (admitted : db.enqueueRefusal env.cfg ev request = none)
      (signals : db'.signals = updateWhere (fun s => s.id == request.signalId)
        (Db.reserve env.cfg request) db.signals)
      (entries : db'.entries = db.entries ++ [db.queuedItem now request trigger]) :
      ReserveAct env db db' (.tapped request trigger)
  /-- An open entry is settled, and its signal with it. -/
  | settled {p : Proc} (item row : EntryItem) (result : OrderResult)
      (held : item ∈ p.heldItems) (mem : row ∈ db.entries) (id : row.id = item.id)
      (blocking : row.status.blocking = true)
      (signals : db'.signals = db.settledSignals item result)
      (entries : db'.entries = updateWhere (fun e => e.id == row.id)
        (fun e => { e with status := result.entryStatus, result := some result })
        db.entries) : ReserveAct env db db' p
  | synced (id : SignalId) (u : ExecutionUpdate)
      (signals : db'.signals = updateWhere (Db.syncable id) (Db.syncFill u) db.signals)
      (entries : db'.entries = db.entries) : ReserveAct env db db' (.syncing id)

section

variable {env : Env} {t : List Mark} {db db' : Db} {p p' : Proc} {op : Op}
  {calls : List Mark}

theorem SignalStep.steady {s s' : Signal} (h : SignalStep op s s')
    (ho : op.reserves = false) : SteadySignal s s' := by
  have hmove := h.move
  refine ⟨h.id, h.contract, h.direction, ?_, ?_⟩ <;>
    generalize s.status = a at hmove ⊢ <;> generalize s'.status = b at hmove ⊢ <;>
    cases hmove with
    | stay => simp
    | close hb => revert hb; cases b <;> simp [SignalStatus.closed, SignalStatus.reserved]
    | enqueue | execute | reject | sync => cases ho
    | _ => simp [SignalStatus.reserved]

theorem Outcome.steady_entries (h : Outcome env db db' op) (hq : QueueInv db)
    (ho : op.reserves = false) :
    ∃ g, db'.entries = db.entries.map g ∧ ∀ e ∈ db.entries, SteadyEntry e (g e) := by
  cases hon : op.onEntries with
  | false => exact ⟨id, by rw [h.entries_eq hon, List.map_id], fun e _ => SteadyEntry.refl e⟩
  | true =>
    cases h with
    | keeps hk => exact ⟨id, by simpa using hk.entries, fun e _ => SteadyEntry.refl e⟩
    | queued => cases ho
    | settled => cases ho
    | claimed lease now row hh hs hl =>
      refine ⟨_, hl.entries, fun e hm => ?_⟩
      dsimp only
      split
      · rename_i hid
        obtain ⟨hr, hb, -⟩ := Db.entryHead?_eq_some hh
        obtain rfl : e = row := eq_of_key hq.ids hm hr (by simpa using hid)
        exact ⟨rfl, rfl, hb.symm⟩
      · exact SteadyEntry.refl e
    | submitting item row hm hid hs ht hl =>
      refine ⟨_, hl.entries, fun e hme => ?_⟩
      dsimp only
      split
      · rename_i hie
        obtain rfl : e = row := eq_of_key hq.ids hme hm (by rw [hid]; simpa using hie)
        exact ⟨rfl, rfl, by rw [hs]; rfl⟩
      · exact SteadyEntry.refl e
    | _ => cases hon

/-- A transaction that reserves nothing is steady. -/
theorem Act.steady (h : Act env t db p op calls db' p') (hq : QueueInv db)
    (hk : SignalKeys db) (ho : op.reserves = false) : Steady db db' := by
  refine ⟨?_, h.outcome.steady_entries hq ho⟩
  obtain ⟨rows, new, hs, ⟨g, rfl, hg⟩, hnew⟩ := (h.signalEffect hk.nodup).rows
  refine ⟨g, new, hs, fun s hm => (hg s hm).steady ho, fun s hm => ?_⟩
  rcases hnew with ⟨rfl, -⟩ | ⟨card, rfl, -, hpending, -⟩
  · cases hm
  · rw [List.mem_singleton.mp hm]
    exact hpending

theorem Op.standalone_reserves (h : op.standalone = true) : op.reserves = false := by
  cases op <;> first | rfl | cases h

theorem ReserveAct.of_resolveEntry (now : Time) {item : EntryItem} (result : OrderResult)
    (recovery : Bool) (hp : item ∈ p.heldItems) :
    ReserveAct env db (db.resolveEntry env.cfg now item result recovery).1 p := by
  rcases Db.resolveEntry_cases db env.cfg now item result recovery with he | ⟨row, hr, he⟩
  · rw [he]
    exact .steady (Steady.refl db)
  · obtain ⟨hm, hid, hb, -, -⟩ := Db.resolvable?_eq_some hr
    obtain ⟨reason, hl⟩ := Db.settleEntry_logs db env.cfg now row item result
    rw [he]
    refine .settled item row result hp hm hid hb ?_ ?_
    · rw [hl.signals, Db.haltIfUnknown_signals]
      rfl
    · rw [hl.entries, Db.haltIfUnknown_entries]
      rfl

/-- **Every action is one of these.** -/
theorem Act.reserveAct (h : Act env t db p op calls db' p') (hq : QueueInv db)
    (hk : SignalKeys db) : ReserveAct env db db' p := by
  cases ho : op.reserves with
  | false => exact .steady (h.steady hq hk ho)
  | true =>
    cases h with
    | standalone hop =>
      rw [Op.standalone_reserves hop] at ho
      cases ho
    | @enqueue request trigger ev now =>
      rcases Db.enqueueEntry_cases db env.cfg ev now request trigger with he | ⟨hr, he⟩
      · rw [he]
        exact .steady (Steady.refl db)
      · rw [he]
        exact .queued ev now request trigger hr rfl rfl
    | refuse now => exact ReserveAct.of_resolveEntry now _ _ (List.mem_singleton_self _)
    | resolve reply now => exact ReserveAct.of_resolveEntry now _ _ (List.mem_singleton_self _)
    | recoverEntry now => exact ReserveAct.of_resolveEntry now _ _ List.mem_cons_self
    | @syncExecution id now u =>
      refine .synced id u ?_ (Db.keeps_updateSignalExecution db now id u).entries
      unfold Db.updateSignalExecution
      dsimp only
      split
      · rfl
      · split <;> simp
    | _ => first | exact .steady (Steady.refl _) | cases ho

/-! ## Counting places -/

/-- Rows that keep their symbol and take no place hold no more than before. -/
theorem Db.held_le_of_map {g : Signal → Signal} (new : List Signal)
    (hs : db'.signals = db.signals.map g ++ new)
    (hg : ∀ s ∈ db.signals, (g s).contract = s.contract ∧ (g s).direction = s.direction
      ∧ ((g s).status.reserved = true → s.status.reserved = true))
    (hnew : ∀ s ∈ new, s.status.reserved = false) (counts : String → Direction → Bool) :
    db'.held counts ≤ db.held counts := by
  rw [db.held_eq, db'.held_eq, hs, List.countP_append, List.countP_map]
  have hzero : new.countP (fun s => s.status.reserved && counts s.contract s.direction) = 0 := by
    rw [List.countP_eq_zero]
    intro s hm
    simp [hnew s hm]
  rw [hzero, Nat.add_zero]
  refine List.countP_mono_left (fun s hm h => ?_)
  obtain ⟨hc, hd, hr⟩ := hg s hm
  simp only [Function.comp, Bool.and_eq_true, hc, hd] at h ⊢
  exact ⟨hr h.1, h.2⟩

/-- **A reservation takes one place**, of its own symbol and direction. -/
theorem Db.held_reserve (hk : SignalKeys db) {cfg : Config} {request : OrderRequest}
    {s : Signal} (hm : s ∈ db.signals) (hid : s.id = request.signalId)
    (hs : db'.signals = updateWhere (fun s => s.id == request.signalId)
      (Db.reserve cfg request) db.signals) (counts : String → Direction → Bool) :
    db'.held counts ≤ db.held counts + if counts s.contract s.direction then 1 else 0 := by
  rw [db.held_eq, db'.held_eq, hs]
  refine (countP_updateWhere_le _).trans (Nat.add_le_add_left ?_ _)
  by_cases hc : counts s.contract s.direction = true
  · rw [if_pos hc]
    refine (List.countP_mono_left (fun r _ h => ?_)).trans
      (countP_key_le_one hk.nodup request.signalId)
    exact (Bool.and_eq_true_iff.mp h).1
  · rw [if_neg hc, Nat.le_zero, List.countP_eq_zero]
    intro r hr h
    simp only [Bool.and_eq_true, beq_iff_eq] at h
    rw [eq_of_key hk.nodup hr hm (h.1.trans hid.symm)] at h
    exact hc h.2.2

/-! ## The invariant -/

/-- **Reservations and open entries are the same signals.** -/
structure ReserveInv (db : Db) : Prop where
  open_ : ∀ s ∈ db.signals, s.status = .submitting →
    ∃ e ∈ db.entries, e.request.signalId = s.id ∧ e.status.blocking = true
  reserved : ∀ e ∈ db.entries, e.status.blocking = true →
    ∃ s ∈ db.signals, s.id = e.request.signalId ∧ s.status = .submitting
  single : (db.entries.map (·.request.signalId)).Nodup

/-- **The invariant of the book**, and what each process relies on: a request
in hand is built from its signal, an entry in hand is the row's request, and
a position that is being synchronised was executed. -/
def reserving (cfg : Config) : Program.Assertion Db Proc Mark where
  store db _ := ReserveInv db ∧ ∀ l : BookLimit, l.Enforced cfg → db.held l.counts ≤ l.bound
  here db _ p :=
    (∀ request trigger, p = .tapped request trigger → ∃ s ∈ db.signals,
        s.id = request.signalId ∧ s.contract = request.symbol
          ∧ s.direction = request.direction)
      ∧ (∀ item ∈ p.heldItems, ∃ e ∈ db.entries, e.id = item.id ∧ e.request = item.request)
      ∧ ∀ id, p = .syncing id → ∃ s ∈ db.signals, s.id = id ∧ s.status ≠ .pending
        ∧ s.status ≠ .submitting

theorem Steady.reserveInv (h : Steady db db') (hi : ReserveInv db) : ReserveInv db' := by
  obtain ⟨⟨g, new, hs, hg, hnew⟩, k, he, hk⟩ := h
  refine ⟨fun s' hm hst => ?_, fun e' hm hb => ?_, ?_⟩
  · rw [hs, List.mem_append, List.mem_map] at hm
    rcases hm with ⟨s, hm, rfl⟩ | hm
    · obtain ⟨e, hem, heid, heb⟩ := hi.open_ s hm ((hg s hm).submitting.mp hst)
      have hek := hk e hem
      exact ⟨k e, by rw [he]; exact List.mem_map_of_mem hem,
        by rw [hek.request, heid, (hg s hm).id], by rw [hek.blocking, heb]⟩
    · rw [hnew s' hm] at hst
      cases hst
  · rw [he, List.mem_map] at hm
    obtain ⟨e, hem, rfl⟩ := hm
    have hek := hk e hem
    obtain ⟨s, hsm, hsid, hst⟩ := hi.reserved e hem (hek.blocking ▸ hb)
    exact ⟨g s, by rw [hs]; exact List.mem_append_left _ (List.mem_map_of_mem hsm),
      by rw [(hg s hsm).id, hsid, hek.request], (hg s hsm).submitting.mpr hst⟩
  · have hmap : (db.entries.map k).map (·.request.signalId)
        = db.entries.map (·.request.signalId) := by
      rw [List.map_map]
      exact List.map_congr_left (fun e hm =>
        congrArg OrderRequest.signalId (hk e hm).request)
    rw [he, hmap]
    exact hi.single

theorem Steady.held_le (h : Steady db db') (counts : String → Direction → Bool) :
    db'.held counts ≤ db.held counts := by
  obtain ⟨⟨g, new, hs, hg, hnew⟩, -⟩ := h
  refine Db.held_le_of_map _ hs (fun s hm => ⟨(hg s hm).contract, (hg s hm).direction,
    (hg s hm).reserved⟩) (fun s hm => ?_) counts
  rw [hnew s hm]
  rfl

/-- The synchronisation of an executed position is steady. -/
theorem steady_of_synced (hk : SignalKeys db) {id : SignalId} {u : ExecutionUpdate}
    (hp : ∃ s ∈ db.signals, s.id = id ∧ s.status ≠ .pending ∧ s.status ≠ .submitting)
    (hs : db'.signals = updateWhere (Db.syncable id) (Db.syncFill u) db.signals)
    (he : db'.entries = db.entries) : Steady db db' := by
  refine ⟨⟨_, [], by rw [hs, List.append_nil]; rfl, fun s hm => ?_, (fun s hm => by cases hm)⟩,
    ⟨fun e => e, by rw [he, List.map_id'], fun e _ => SteadyEntry.refl e⟩⟩
  split
  · rename_i hsync
    simp only [Db.syncable, Bool.and_eq_true, Bool.or_eq_true, beq_iff_eq] at hsync
    obtain ⟨s₀, hs₀, hid, hpend, hsub⟩ := hp
    obtain rfl : s = s₀ := eq_of_key hk.nodup hm hs₀ (hsync.1.trans hid.symm)
    have hexec : s.status = .executed := by
      rcases hsync.2 with (h | h) | h
      · exact absurd h hpend
      · exact absurd h hsub
      · exact h
    exact ⟨rfl, rfl, rfl, by simp [Db.syncFill, hexec], fun _ => by rw [hexec]; rfl⟩
  · exact SteadySignal.refl s

/-- An unknown outcome is steady: the entry stays open and the signal
reserved. -/
theorem steady_of_unknown (hq : QueueInv db) {item row : EntryItem} {result : OrderResult}
    (hm : row ∈ db.entries) (hb : row.status.blocking = true)
    (hu : result.entryStatus = .unknown) (hs : db'.signals = db.settledSignals item result)
    (he : db'.entries = updateWhere (fun e => e.id == row.id)
      (fun e => { e with status := result.entryStatus, result := some result }) db.entries) :
    Steady db db' := by
  refine ⟨⟨fun s => s, [], ?_, fun s _ => SteadySignal.refl s, (fun s hm => by cases hm)⟩,
    ⟨_, he, fun e hme => ?_⟩⟩
  · rw [hs, Db.settledSignals, if_pos hu, List.append_nil, List.map_id']
  · dsimp only
    split
    · rename_i hid
      obtain rfl : e = row := eq_of_key hq.ids hme hm (by simpa using hid)
      exact ⟨rfl, rfl, by rw [hu, hb]; rfl⟩
    · exact SteadyEntry.refl e

/-- An admitted request and its entry. -/
theorem ReserveInv.queued (hi : ReserveInv db) {cfg : Config} {ev : EntryEvidence}
    {now : Time} {request : OrderRequest} {trigger : EntryTrigger}
    (hr : db.enqueueRefusal cfg ev request = none)
    (hs : db'.signals = updateWhere (fun s => s.id == request.signalId)
      (Db.reserve cfg request) db.signals)
    (he : db'.entries = db.entries ++ [db.queuedItem now request trigger]) :
    ReserveInv db' := by
  obtain ⟨hfree, -, -, -, card, hcard, -⟩ := Db.enqueueRefusal_eq_none hr
  obtain ⟨hcm, hcid⟩ := Db.signal?_eq_some hcard
  have hkeep : ∀ s ∈ db.signals, s.status = .submitting ∨ s.id = request.signalId →
      ∃ s' ∈ db'.signals, s'.id = s.id ∧ s'.status = .submitting := by
    intro s hm hst
    rw [hs]
    by_cases hid : s.id = request.signalId
    · exact ⟨_, mem_updateWhere_of hm (by simp [hid]), rfl, rfl⟩
    · exact ⟨s, mem_updateWhere_of_not hm (by simpa using hid), rfl,
        hst.resolve_right hid⟩
  refine ⟨fun s' hm hst => ?_, fun e hm hb => ?_, ?_⟩
  · rw [hs] at hm
    obtain ⟨s, hsm, rfl⟩ := mem_updateWhere.mp hm
    rw [he]
    split at hst <;> rename_i hid
    · refine ⟨_, List.mem_append_right _ (List.mem_singleton_self _), ?_, rfl⟩
      rw [if_pos hid]
      exact (beq_iff_eq.mp hid).symm
    · obtain ⟨e, hem, heid, heb⟩ := hi.open_ s hsm hst
      refine ⟨e, List.mem_append_left _ hem, ?_, heb⟩
      rw [if_neg hid]
      exact heid
  · rw [he] at hm
    rcases List.mem_append.mp hm with hm | hm
    · obtain ⟨s, hsm, hsid, hst⟩ := hi.reserved e hm hb
      obtain ⟨s', hm', hid', hst'⟩ := hkeep s hsm (Or.inl hst)
      exact ⟨s', hm', hid'.trans hsid, hst'⟩
    · obtain ⟨s', hm', hid', hst'⟩ := hkeep card hcm (Or.inr hcid)
      refine ⟨s', hm', ?_, hst'⟩
      rw [List.mem_singleton.mp hm]
      exact hid'.trans hcid
  · rw [he]
    refine nodup_map_append_singleton hi.single (fun e hem heq => ?_)
    have hne := List.find?_eq_none.mp hfree e hem
    exact hne (beq_iff_eq.mpr heq)

/-- A settled entry and its signal. -/
theorem ReserveInv.settled (hi : ReserveInv db) (hq : QueueInv db) {item row : EntryItem}
    {result : OrderResult} (hrm : row ∈ db.entries) (hreq : row.request = item.request)
    (hu : result.entryStatus ≠ .unknown)
    (hs : db'.signals = db.settledSignals item result)
    (he : db'.entries = updateWhere (fun e => e.id == row.id)
      (fun e => { e with status := result.entryStatus, result := some result }) db.entries) :
    ReserveInv db' := by
  rw [Db.settledSignals, if_neg hu] at hs
  refine ⟨fun s' hm hst => ?_, fun e' hm hb => ?_, ?_⟩
  · rw [hs] at hm
    obtain ⟨s, hsm, rfl⟩ := mem_updateWhere.mp hm
    split at hst <;> rename_i hid
    · -- a settled signal is no longer reserved
      unfold Db.settle at hst
      dsimp only at hst
      split at hst <;> cases hst
    · obtain ⟨e, hem, heid, heb⟩ := hi.open_ s hsm hst
      refine ⟨e, ?_, by rw [if_neg hid]; exact heid, heb⟩
      rw [he]
      refine mem_updateWhere_of_not hem (beq_eq_false_iff_ne.mpr (fun hie => hid ?_))
      rw [← heid, eq_of_key hq.ids hem hrm hie, hreq, hst]
      simp
  · rw [he] at hm
    obtain ⟨e, hem, rfl⟩ := mem_updateWhere.mp hm
    split at hb <;> rename_i hid
    · rcases result.entryStatus_cases with hr | hr | hr
      · rw [hr] at hb
        cases hb
      · exact absurd hr hu
      · rw [hr] at hb
        cases hb
    · obtain ⟨s, hsm, hsid, hst⟩ := hi.reserved e hem hb
      refine ⟨s, ?_, by rw [if_neg hid]; exact hsid, hst⟩
      rw [hs]
      refine mem_updateWhere_of_not hsm ?_
      have hne : s.id ≠ item.request.signalId := by
        intro heq
        rw [← hreq] at heq
        exact hid (by rw [eq_of_key hi.single hem hrm (hsid.symm.trans heq)]; simp)
      simp [hne]
  · have hmap : db'.entries.map (·.request.signalId)
        = db.entries.map (·.request.signalId) := by
      rw [he]
      exact map_updateWhere _ (fun _ _ => rfl)
    rw [hmap]
    exact hi.single

theorem settledSignals_held_le {item : EntryItem} {result : OrderResult}
    (hs : db'.signals = db.settledSignals item result)
    (counts : String → Direction → Bool) : db'.held counts ≤ db.held counts := by
  unfold Db.settledSignals at hs
  split at hs
  · refine Db.held_le_of_map (g := fun s => s) [] (by rw [hs]; simp)
      (fun s _ => ⟨rfl, rfl, fun h => h⟩) (fun s hm => by cases hm) counts
  · refine Db.held_le_of_map [] (by rw [hs, List.append_nil]; rfl) (fun s _ => ?_)
      (fun s hm => by cases hm) counts
    dsimp only
    split
    · rename_i hsub
      have hst : s.status = .submitting := by simpa using (Bool.and_eq_true_iff.mp hsub).2
      exact ⟨rfl, rfl, fun _ => by rw [hst]; rfl⟩
    · exact ⟨rfl, rfl, fun h => h⟩

/-- Admission ran on the rows that held a place. -/
theorem Db.enqueueRefusal_admits {cfg : Config} {ev : EntryEvidence}
    {request : OrderRequest} (h : db.enqueueRefusal cfg ev request = none) :
    ∃ drawdown equity,
      cfg.reservationRejection request db.reservations drawdown equity = none := by
  unfold enqueueRefusal at h
  repeat' split at h
  all_goals first | cases h | exact ⟨_, _, Option.map_eq_none_iff.mp h⟩

/-- **Every action keeps the invariant of the book.** -/
theorem ReserveAct.kept (h : ReserveAct env db db' p) (hq : QueueInv db)
    (hk : SignalKeys db) (hs : (reserving env.cfg).store db t)
    (hp : (reserving env.cfg).here db t p) {u : List Mark} :
    (reserving env.cfg).store db' u := by
  obtain ⟨hi, hl⟩ := hs
  have hsteady : Steady db db' → (reserving env.cfg).store db' u := fun hst =>
    ⟨hst.reserveInv hi, fun l hen => (hst.held_le l.counts).trans (hl l hen)⟩
  cases h with
  | steady hst => exact hsteady hst
  | queued ev now request trigger hr hs he =>
    refine ⟨hi.queued hr hs he, fun l hen => ?_⟩
    obtain ⟨s, hsm, hsid, hsym, hdir⟩ := hp.1 request trigger rfl
    have hheld := Db.held_reserve hk hsm hsid hs l.counts
    obtain ⟨drawdown, equity, hadmit⟩ := Db.enqueueRefusal_admits hr
    rw [hsym, hdir] at hheld
    split at hheld
    · -- the limit counts the request, and admission left room for it
      rename_i hc
      have hroom : db.held l.counts < l.bound := hen _ _ _ _ hadmit hc
      omega
    · exact hheld.trans (hl l hen)
  | settled item row result held mem id blocking hs he =>
    by_cases hu : result.entryStatus = .unknown
    · exact hsteady (steady_of_unknown hq mem blocking hu hs he)
    · obtain ⟨e, hem, heid, hereq⟩ := hp.2.1 item held
      have hreq : row.request = item.request := by
        rw [eq_of_key hq.ids mem hem (id.trans heid.symm), hereq]
      exact ⟨hi.settled hq mem hreq hu hs he, fun l hen =>
        (settledSignals_held_le hs l.counts).trans (hl l hen)⟩
  | synced id u hs he => exact hsteady (steady_of_synced hk (hp.2.2 id rfl) hs he)

/-! ## The processes -/

theorem Db.mem_of_mem_unresolvedEntries {item : EntryItem} (h : item ∈ db.unresolvedEntries) :
    item ∈ db.entries := by
  unfold unresolvedEntries at h
  exact List.mem_of_mem_filter (List.mem_mergeSort.mp (List.mem_of_mem_take h))

/-- A row of the entries is still there, with its request. -/
theorem ReserveAct.entry (h : ReserveAct env db db' p) {e : EntryItem}
    (hm : e ∈ db.entries) : ∃ e' ∈ db'.entries, e'.id = e.id ∧ e'.request = e.request := by
  cases h with
  | steady hst =>
    obtain ⟨g, he, hg⟩ := hst.entries
    exact ⟨g e, by rw [he]; exact List.mem_map_of_mem hm, (hg e hm).id, (hg e hm).request⟩
  | queued ev now request trigger hr hs he =>
    exact ⟨e, by rw [he]; exact List.mem_append_left _ hm, rfl, rfl⟩
  | settled item row result held mem id blocking hs he =>
    refine ⟨_, by rw [he]; exact mem_updateWhere.mpr ⟨e, hm, rfl⟩, ?_⟩
    split <;> exact ⟨rfl, rfl⟩
  | synced id u hs he => exact ⟨e, by rw [he]; exact hm, rfl, rfl⟩

/-- What is neither a card nor reserved is not reserved later. -/
theorem SignalMove.ne_submitting {a b : SignalStatus} (h : SignalMove op a b)
    (hp : a ≠ .pending) (hs : a ≠ .submitting) : b ≠ .submitting := by
  cases h with
  | stay => exact hs
  | enqueue => exact absurd rfl hp
  | close hb =>
    rintro rfl
    cases hb
  | _ => simp

/-- **What a process relies on survives every action.** -/
theorem Act.reserving_stable (h : Act env t db p op calls db' p') (hq : QueueInv db)
    (hk : SignalKeys db) {q : Proc} {u v : List Mark} (hq' : (reserving env.cfg).here db u q) :
    (reserving env.cfg).here db' v q := by
  have hsig := h.signalEffect hk.nodup
  refine ⟨fun request trigger hp => ?_, fun item hi => ?_, fun id hp => ?_⟩
  · obtain ⟨s, hm, hid, hsym, hdir⟩ := hq'.1 request trigger hp
    obtain ⟨s', hm', hstep⟩ := hsig.exists_step hm
    exact ⟨s', hm', hstep.id.trans hid, hstep.contract.trans hsym, hstep.direction.trans hdir⟩
  · obtain ⟨e, hm, hid, hreq⟩ := hq'.2.1 item hi
    obtain ⟨e', hm', hid', hreq'⟩ := (h.reserveAct hq hk).entry hm
    exact ⟨e', hm', hid'.trans hid, hreq'.trans hreq⟩
  · obtain ⟨s, hm, hid, hpend, hsub⟩ := hq'.2.2 id hp
    obtain ⟨s', hm', hstep⟩ := hsig.exists_step hm
    exact ⟨s', hm', hstep.id.trans hid, hstep.move.ne_pending hpend,
      hstep.move.ne_submitting hpend hsub⟩

/-- **What the acting process has read.** -/
theorem Act.reserving_read (h : Act env t db p op calls db' p') :
    (∀ request trigger, p' = .tapped request trigger → ∃ s ∈ db'.signals,
        s.id = request.signalId ∧ s.contract = request.symbol
          ∧ s.direction = request.direction)
      ∧ (∀ item ∈ p'.heldItems, item ∈ p.heldItems
          ∨ ∃ e ∈ db'.entries, e.id = item.id ∧ e.request = item.request)
      ∧ ∀ id, p' = .syncing id → ∃ s ∈ db'.signals, s.id = id ∧ s.status ≠ .pending
        ∧ s.status ≠ .submitting := by
  cases h with
  | tap s quantity trigger hs hp =>
    refine ⟨fun request trigger' heq => ?_, (fun item hi => by cases hi),
      (fun id heq => by cases heq)⟩
    cases heq
    exact ⟨s, (Db.signal?_eq_some hs).1, rfl, rfl, rfl⟩
  | claim now hc =>
    refine ⟨(fun _ _ heq => by cases heq), fun item hi => Or.inr ?_,
      (fun id heq => by cases heq)⟩
    obtain rfl := List.mem_singleton.mp hi
    rcases Db.claimEntry_cases db env.cfg.entryPreflightLease now with
      he | ⟨row, hh, -, hitem, hl⟩
    · rw [he] at hc
      cases hc
    · rw [hc] at hitem hl
      cases hitem
      refine ⟨_, ?_, rfl, rfl⟩
      rw [hl.entries]
      exact mem_updateWhere_of (Db.entryHead?_eq_some hh).1 (by simp)
  | recover after =>
    exact ⟨(fun _ _ heq => by cases heq),
      fun item hi => Or.inr ⟨item, Db.mem_of_mem_unresolvedEntries hi, rfl, rfl⟩,
      (fun id heq => by cases heq)⟩
  | readPosition s hs he =>
    refine ⟨(fun _ _ heq => by cases heq), (fun item hi => by cases hi), fun id heq => ?_⟩
    cases heq
    exact ⟨s, hs, rfl, by rw [he]; decide, by rw [he]; decide⟩
  | lookupFailed | recoverEntry =>
    exact ⟨(fun _ _ heq => by cases heq), fun item hi => Or.inl (List.mem_cons_of_mem _ hi),
      (fun id heq => by cases heq)⟩
  | refuse | resolve =>
    exact ⟨(fun _ _ heq => by cases heq), (fun item hi => by cases hi),
      (fun id heq => by cases heq)⟩
  | @recovered after | @recoveredCancels after =>
    cases after <;> exact ⟨(fun _ _ heq => by cases heq), (fun item hi => by cases hi),
      (fun id heq => by cases heq)⟩
  | resumeCancels | resumeLegacy | saveExit | resolveCancel =>
    split <;> exact ⟨(fun _ _ heq => by cases heq), (fun item hi => by cases hi),
      (fun id heq => by cases heq)⟩
  | _ =>
    exact ⟨(fun _ _ heq => by cases heq), fun item hi => Or.inl hi,
      (fun id heq => by cases heq)⟩

end

/-- **The invariant of the book holds in every reachable state.** -/
theorem reserving_holds (env : Env) {w : World Db Proc Mark}
    (h : (trader env).Reachable w) : (reserving env.cfg).Holds w := by
  refine Program.holds (P := trader env) (reserving env.cfg) ?_ (fun d t _ => ?_)
    (fun q => ⟨trivial, trivial⟩) ?_ h
  · refine ⟨⟨(fun s hs => by cases hs), (fun e he => by cases he), List.nodup_nil⟩,
      fun l _ => Nat.zero_le _⟩
  · exact ⟨(fun _ _ heq => by cases heq), (fun _ hi => by cases hi),
      (fun _ heq => by cases heq)⟩
  · rintro w i marks d p hw hA ⟨op, calls, ha, rfl⟩
    have hq : QueueInv w.store := (submission_holds env hw).store.1
    have hk := signalKeys_of_reachable env hw
    obtain ⟨htap, hheld, hsync⟩ := ha.reserving_read
    have hstable := ha.reserving_stable hq hk (v := w.trace) (hA.here i)
    refine ⟨(ha.reserveAct hq hk).kept hq hk hA.store (hA.here i),
      ⟨htap, fun item hi => ?_, hsync⟩,
      fun q hq' _ _ => ⟨ha.reserving_stable hq hk hq', trivial, trivial⟩⟩
    rcases hheld item hi with hm | he
    · exact hstable.2.1 item hm
    · exact he

/-! ## Under the risk rules -/

/-- A scope whose admission is `reservation_rejection` under these limits. -/
def Env.under (env : Env) (text : RiskText) (limits : RiskLimits) : Env :=
  { env with
    cfg := { env.cfg with
      reservationRejection := fun request rows drawdown equity =>
        reservationRejection text limits env.cfg.multiplier request rows drawdown equity none } }

section

variable (env : Env) (text : RiskText) (limits : RiskLimits)

/-- The rule `concurrent_positions` enforces its limit. -/
theorem concurrent_enforced :
    BookLimit.Enforced ⟨fun _ _ => true, limits.maxConcurrentPositions⟩
      (env.under text limits).cfg := by
  intro request rows drawdown equity h _
  simpa using (reservationRejection_eq_none h).1

/-- The rule `same_symbol` enforces one place a symbol. -/
theorem symbol_enforced (key : String) :
    BookLimit.Enforced ⟨fun symbol _ => normalizeSymbol text symbol == key, 1⟩
      (env.under text limits).cfg := by
  intro request rows drawdown equity h hkey
  have hnone := (reservationRejection_eq_none h).2.1
  show rows.countP (fun s => normalizeSymbol text s.contract == key) < 1
  rw [Nat.lt_one_iff, List.countP_eq_zero]
  intro s hs heq
  exact hnone s hs ((beq_iff_eq.mp heq).trans (beq_iff_eq.mp hkey).symm)

/-- The rule `correlation_group` enforces its limit in each group and
direction. -/
theorem group_enforced {group : String × List String}
    (hg : group ∈ limits.correlationGroups) (direction : Direction) :
    BookLimit.Enforced
      ⟨fun symbol d => normalizeSymbol text symbol ∈ group.2 && d = direction,
        limits.maxCorrelatedPositions⟩ (env.under text limits).cfg := by
  intro request rows drawdown equity h hcount
  simp only [Bool.and_eq_true, decide_eq_true_eq] at hcount
  obtain ⟨hmem, rfl⟩ := hcount
  have hlt := (reservationRejection_eq_none h).2.2 group hg hmem
  rw [← List.countP_eq_length_filter] at hlt
  exact hlt

end

/-- **The reserved book never breaks its structural limits.** In every
reachable state of a scope under the risk rules, the signals that are
`SUBMITTING` or `EXECUTED` are at most `max_concurrent_positions`, no two of
them have one normalised symbol, and at most `max_correlated_positions` of one
direction belong to one correlation group; and a signal is `SUBMITTING`
exactly when it has an open entry. -/
theorem reserved_book_within_limits (env : Env) (text : RiskText) (limits : RiskLimits)
    {w : World Db Proc Mark} (h : (trader (env.under text limits)).Reachable w) :
    w.store.reservations.length ≤ limits.maxConcurrentPositions
      ∧ (w.store.reservations.map (fun s => normalizeSymbol text s.contract)).Nodup
      ∧ (∀ group ∈ limits.correlationGroups, ∀ direction,
          (w.store.reservations.filter (fun s => normalizeSymbol text s.contract ∈ group.2
            && s.direction = direction)).length ≤ limits.maxCorrelatedPositions)
      ∧ ∀ s ∈ w.store.signals, s.status = .submitting ↔
          ∃ e ∈ w.store.entries, e.request.signalId = s.id
            ∧ e.status ∈ [.queued, .checking, .submitting, .unknown] := by
  obtain ⟨hi, hl⟩ := (reserving_holds (env.under text limits) h).store
  have hk := signalKeys_of_reachable (env.under text limits) h
  refine ⟨?_, ?_, fun group hg direction => ?_, fun s hs => ⟨fun hst => ?_, ?_⟩⟩
  · simpa [Db.held] using hl _ (concurrent_enforced env text limits)
  · rw [List.nodup_iff_count_le_one]
    intro key
    rw [List.count_eq_countP, List.countP_map]
    exact hl _ (symbol_enforced env text limits key)
  · rw [← List.countP_eq_length_filter]
    exact hl _ (group_enforced env text limits hg direction)
  · obtain ⟨e, hem, heid, hb⟩ := hi.open_ s hs hst
    exact ⟨e, hem, heid, by simpa [WorkStatus.blocking, entryBlocking] using hb⟩
  · rintro ⟨e, hem, heid, hb⟩
    obtain ⟨s', hs', hid', hst'⟩ := hi.reserved e hem
      (by simpa [WorkStatus.blocking, entryBlocking] using hb)
    rwa [eq_of_key hk.nodup hs hs' (heid.symm.trans hid'.symm)]

/-! ### A card admitted -/

/-- Plain texts, for symbols in ASCII. -/
def sampleText : RiskText where
  upper := String.toUpper
  percent1 := fun x => toString (x * 100) ++ "%"
  fixed2 := fun x => toString x
  dollars := fun x => toString x

/-- One position at a time. -/
def sampleLimits : RiskLimits where
  cash := 100000
  drawdownGatingEnabled := true
  drawdownHaircutThresholdPct := 5 / 100
  maxDrawdownStopPct := 15 / 100
  drawdownMinRiskMultiplier := 1 / 4
  maxRiskPctCap := 1 / 80
  maxTradeNotionalCap := 50000
  maxSharesPerTrade := 500
  maxContractsPerTrade := 5
  maxStopRiskPct := 5 / 100
  maxNotionalExposure := 100000
  assetClassCaps := fun _ => none
  maxConcurrentPositions := 1
  maxCorrelatedPositions := 1
  correlationGroups := [("index", ["SPY", "QQQ"])]
  minRiskRewardRatio := 2
  cash_nonneg := by norm_num
  maxRiskPctCap_nonneg := by norm_num
  maxTradeNotionalCap_nonneg := by norm_num
  maxStopRiskPct_nonneg := by norm_num
  maxNotionalExposure_nonneg := by norm_num
  assetClassCaps_nonneg := RiskLimits.uncapped

/-- The card is admitted, and the book is full. -/
theorem reserved_book_within_limits_sample :
    ∃ w, (trader (sampleEnv.under sampleText sampleLimits)).Reachable w
      ∧ w.store.reservations.length = 1
      ∧ w.store.reservations.length ≤ sampleLimits.maxConcurrentPositions
      ∧ ∀ s ∈ w.store.signals, s.status = .submitting ↔
          ∃ e ∈ w.store.entries, e.request.signalId = s.id
            ∧ e.status ∈ [.queued, .checking, .submitting, .unknown] := by
  have h₀ : ((trader (sampleEnv.under sampleText sampleLimits)).restrict
      (fun _ _ _ _ => True)).Reachable ⟨Db.empty, fun _ => .idle, []⟩ :=
    TransitionSystem.Reachable.of_init rfl
  have h₁ := Act.reachable (i := 0) h₀ rfl trivial
    (.standalone rfl (.recordSignal 0 sampleCard false))
  have h₂ := Act.reachable (i := 0) h₁ rfl trivial (.tap sampleSignal none .tap rfl rfl)
  have h₃ := Act.reachable (i := 0) h₂ rfl trivial (.enqueue sampleEvidence 1)
  obtain ⟨hcount, -, -, hopen⟩ :=
    reserved_book_within_limits sampleEnv sampleText sampleLimits h₃.of_restrict
  refine ⟨_, h₃.of_restrict, ?_, hcount, hopen⟩
  show ((sampleCarded.enqueueEntry (sampleEnv.under sampleText sampleLimits).cfg
    sampleEvidence 1 sampleRequest .tap).1.reservations).length = 1
  decide +kernel

end AgenticTrader
