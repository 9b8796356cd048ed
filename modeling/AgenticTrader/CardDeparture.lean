import AgenticTrader.EntrySubmission
import AgenticTrader.SignalLifecycle

/-!
# How a card leaves

A card is tapped, dismissed, expired by a tap or by the sweep, or re-priced,
from Telegram, the CLI and the scheduler, any number of times. Each of these
is a conditional update on `PENDING`, so the first to commit takes the card
and the others find nothing to change. What the first one writes beside the
status – the entry, or the card that replaces this one – it writes in the same
transaction, so the two never part.

The fill synchronisation would also move a `PENDING` row; it is only ever
asked to for a signal that was read as `EXECUTED`, and no signal becomes a
card again.
-/

namespace AgenticTrader

open Table

/-- **The status a departure leaves a signal in**, ever after. No other
transaction takes a card. -/
def Op.leavesAs : Op → SignalStatus → Prop
  | .dismissSignal, s => s = .dismissed
  | .expireSignal, s => s = .expired
  | .replaceSignal, s => s = .expired
  | .expireStaleSignals, s => s = .expired
  | .enqueueEntry, s => s ≠ .pending ∧ s ≠ .dismissed ∧ s ≠ .expired
  | _, _ => False

/-- **A departure is final.** -/
theorem SignalMove.leavesAs {op op' : Op} {a b : SignalStatus} (h : SignalMove op' a b)
    (ha : op.leavesAs a) : op.leavesAs b := by
  cases h with
  | stay => exact ha
  | close hb =>
    cases op <;> simp_all [Op.leavesAs]
    cases b <;> simp_all [SignalStatus.closed]
  | sync hs => cases op <;> rcases hs with rfl | rfl | rfl <;> simp_all [Op.leavesAs]
  | _ => cases op <;> simp_all [Op.leavesAs]

/-- A move that takes a card is a departure. -/
theorem SignalMove.leaves {op : Op} {b : SignalStatus} (h : SignalMove op .pending b)
    (hb : b ≠ .pending) (hop : op ≠ .updateSignalExecution) : op.leavesAs b := by
  cases h with
  | stay => exact absurd rfl hb
  | sync => exact absurd rfl hop
  | _ => simp [Op.leavesAs]

/-- **The invariant of the departures.** A signal has left at most once, and is
what that departure left it as; whatever is not pending has left; an entry was
queued by the departure of its signal; and a signal that re-prices another was
recorded by the departure of that one. -/
structure DepartureInv (db : Db) (t : List Mark) : Prop where
  once : ((departed t).map (·.1)).Nodup
  left : ∀ d ∈ departed t, ∃ s ∈ db.signals, s.id = d.1 ∧ d.2.leavesAs s.status
  statuses : ∀ s ∈ db.signals, s.status ≠ .pending → ∃ op, (s.id, op) ∈ departed t
  entries : ∀ e ∈ db.entries, (e.request.signalId, Op.enqueueEntry) ∈ departed t
  replaced : ∀ id, id ∈ db.signals.filterMap (·.reprices)
    ↔ (id, Op.replaceSignal) ∈ departed t
  replacements : (db.signals.filterMap (·.reprices)).Nodup

/-- **The assertion**: a process that synchronises a fill has read a signal
that is no card. -/
def departure : Program.Assertion Db Proc Mark where
  store db t := DepartureInv db t
  here db _ p := ∀ id, p = .syncing id → ∃ s ∈ db.signals, s.id = id ∧ s.status ≠ .pending

section

variable {env : Env} {t : List Mark} {db db' : Db} {p p' : Proc} {op : Op}
  {calls : List Mark}

/-- The marks of departures come from the signals alone. -/
theorem Act.departed_calls (h : Act env t db p op calls db' p') : departed calls = [] := by
  cases h <;> rfl

/-- **What an action means for fill synchronisation.** -/
theorem Act.syncing_cases (h : Act env t db p op calls db' p') :
    (∀ id, p' = .syncing id → db' = db ∧ ∃ s ∈ db.signals, s.id = id ∧ s.status ≠ .pending)
      ∧ (op = .updateSignalExecution → db' = db
        ∨ ∃ id now u, p = .syncing id ∧ db' = db.updateSignalExecution now id u) := by
  cases h with
  | standalone hop => exact ⟨(fun _ h => by cases h), fun ho => by rw [ho] at hop; cases hop⟩
  | readPosition s hs he =>
    refine ⟨fun id h => ⟨rfl, s, hs, by cases h; rfl, by rw [he]; decide⟩, fun _ => Or.inl rfl⟩
  | syncExecution now u =>
    exact ⟨(fun _ h => by cases h), fun _ => Or.inr ⟨_, now, u, rfl, rfl⟩⟩
  | @recovered after | @recoveredCancels after =>
    cases after <;> exact ⟨(fun _ h => by cases h), fun h => by cases h⟩
  | resumeCancels | resumeLegacy | saveExit | resolveCancel =>
    split <;> exact ⟨(fun _ h => by cases h), fun h => by cases h⟩
  | _ => exact ⟨(fun _ h => by cases h), fun h => by cases h⟩

theorem mem_departures {id : SignalId} :
    id ∈ departures db db' ↔ ∃ s ∈ db.signals, s.id = id ∧ s.status = .pending
      ∧ ∃ s' ∈ db'.signals, s'.id = id ∧ s'.status ≠ .pending := by
  unfold departures
  rw [List.mem_map]
  constructor
  · rintro ⟨s, hs, rfl⟩
    rw [List.mem_filter, Bool.and_eq_true, List.any_eq_true] at hs
    obtain ⟨hm, hp, s', hm', hs'⟩ := hs
    simp only [Bool.and_eq_true, beq_iff_eq, bne_iff_ne] at hs'
    exact ⟨s, hm, rfl, by simpa using hp, s', hm', hs'⟩
  · rintro ⟨s, hm, rfl, hp, s', hm', hid, hne⟩
    refine ⟨s, List.mem_filter.mpr ⟨hm, ?_⟩, rfl⟩
    rw [Bool.and_eq_true, List.any_eq_true]
    exact ⟨by simpa using hp, s', hm', by simp [hid, hne]⟩

theorem departures_nodup (hk : SignalKeys db) : (departures db db').Nodup :=
  List.Nodup.sublist (List.Sublist.map _ List.filter_sublist) hk.nodup

/-- A synchronisation of a signal that is no card takes none. -/
theorem departures_updateSignalExecution (hk : SignalKeys db) {now : Time} {id : SignalId}
    {u : ExecutionUpdate} (hid : ∃ s ∈ db.signals, s.id = id ∧ s.status ≠ .pending) :
    departures db (db.updateSignalExecution now id u) = [] := by
  refine List.eq_nil_iff_forall_not_mem.mpr (fun x hx => ?_)
  obtain ⟨s, hs, rfl, hp, s', hs', hid', hne⟩ := mem_departures.mp hx
  obtain ⟨s₀, hs₀, rfl, hp₀⟩ := hid
  have hsig : (db.updateSignalExecution now s₀.id u).signals
      = updateWhere (Db.syncable s₀.id) (Db.syncFill u) db.signals := by
    unfold Db.updateSignalExecution
    dsimp only
    split
    · rfl
    · split <;> simp
  rw [hsig] at hs'
  obtain ⟨r, hr, rfl⟩ := mem_updateWhere.mp hs'
  have hrid : r.id = s.id := by
    rw [← hid']
    split <;> rfl
  obtain rfl := eq_of_key hk.nodup hr hs hrid
  split at hne
  · rename_i hsync
    have hrs : r.id = s₀.id := by
      unfold Db.syncable at hsync
      simpa using (Bool.and_eq_true_iff.mp hsync).1
    exact hp₀ (eq_of_key hk.nodup hs₀ hr hrs.symm ▸ hp)
  · exact hne hp

/-- **A card an action takes is left as that departure leaves it.** -/
theorem Act.departs (h : Act env t db p op calls db' p') (hk : SignalKeys db)
    (hp : departure.here db t p) {id : SignalId} (hid : id ∈ departures db db') :
    ∃ s' ∈ db'.signals, s'.id = id ∧ op.leavesAs s'.status := by
  by_cases hop : op = .updateSignalExecution
  · rcases h.syncing_cases.2 hop with rfl | ⟨x, now, u, hx, rfl⟩
    · obtain ⟨s, hs, rfl, hst, s', hs', hid', hne⟩ := mem_departures.mp hid
      exact absurd (eq_of_key hk.nodup hs' hs hid' ▸ hst) hne
    · rw [departures_updateSignalExecution hk (hp x hx)] at hid
      cases hid
  · obtain ⟨s, hs, rfl, hst, s', hs', hid', hne⟩ := mem_departures.mp hid
    have hstep := (h.signalEffect hk.nodup).step_of_id hk hs hs' hid'
    refine ⟨s', hs', hid', SignalMove.leaves ?_ hne hop⟩
    rw [← hst]
    exact hstep.move

/-- **The entries after an action**: of a signal that had one, or of a card the
action took. -/
theorem Outcome.entry_cases (h : Outcome env db db' op) {e : EntryItem}
    (he : e ∈ db'.entries) :
    (∃ e₀ ∈ db.entries, e₀.request.signalId = e.request.signalId)
      ∨ op = .enqueueEntry ∧ e.request.signalId ∈ departures db db' := by
  have hold : ∀ {p : EntryItem → Bool} {f : EntryItem → EntryItem},
      db'.entries = updateWhere p f db.entries →
      (∀ r, (f r).request.signalId = r.request.signalId) →
      ∃ e₀ ∈ db.entries, e₀.request.signalId = e.request.signalId := by
    intro p f heq hf
    rw [heq] at he
    obtain ⟨r, hr, rfl⟩ := mem_updateWhere.mp he
    refine ⟨r, hr, ?_⟩
    split
    · exact (hf r).symm
    · rfl
  cases h with
  | queued now request trigger free closing pending hl =>
    rw [hl.entries] at he
    rcases List.mem_append.mp he with he | he
    · exact Or.inl ⟨e, he, rfl⟩
    · rw [List.mem_singleton.mp he]
      obtain ⟨s, hs, hst⟩ := pending
      obtain ⟨hm, hid⟩ := Db.signal?_eq_some hs
      refine Or.inr ⟨rfl, mem_departures.mpr ⟨s, hm, hid, hst, Db.reserve env.cfg request s,
        ?_, hid, by simp [Db.reserve]⟩⟩
      rw [hl.signals]
      exact mem_updateWhere_of hm (by simp [hid])
  | claimed lease now row head status hl =>
    rw [hl.entries] at he
    obtain ⟨r, hr, rfl⟩ := mem_updateWhere.mp he
    split
    · exact Or.inl ⟨row, (Db.entryHead?_eq_some head).1, rfl⟩
    · exact Or.inl ⟨r, hr, rfl⟩
  | submitting item row mem id status token hl =>
    exact Or.inl (hold hl.entries (fun _ => rfl))
  | settled item row result reason mem id blocking fence hl =>
    exact Or.inl (hold (hl.entries.trans (Db.haltIfUnknown_entries _ _ _)) (fun _ => rfl))
  | keeps hk => exact Or.inl ⟨e, hk.entries ▸ he, rfl⟩
  | cancelClaimed item fresh signal id status hl => exact Or.inl ⟨e, hl.entries ▸ he, rfl⟩
  | cancelSettled item row c f result journaled reason mem id unrejected late ht hl =>
    rw [hl.entries, Db.haltIfUnknown_entries, ht.entries] at he
    exact Or.inl ⟨e, he, rfl⟩
  | reviewed text hl => exact Or.inl ⟨e, hl.entries ▸ he, rfl⟩
  | written value hw =>
    rw [hw] at he
    exact Or.inl ⟨e, he, rfl⟩
  | closeClaimed record fresh status free entry hl => exact Or.inl ⟨e, hl.entries ▸ he, rfl⟩
  | closeUpdated id status detail brokerOrderId hl => exact Or.inl ⟨e, hl.entries ▸ he, rfl⟩

/-- **The re-pricings after an action**: those before it, and that of the card
it took if it replaced one. -/
theorem SignalEffect.reprices (h : SignalEffect db db' op) (hk : SignalKeys db) :
    db'.signals.filterMap (·.reprices) = db.signals.filterMap (·.reprices)
        ++ (if op = .replaceSignal then departures db db' else []) := by
  have hrows : ∀ {rows}, SignalRows op db.signals rows →
      rows.filterMap (·.reprices) = db.signals.filterMap (·.reprices) := by
    rintro _ ⟨g, rfl, hg⟩
    rw [List.filterMap_map]
    exact List.filterMap_congr (fun s hs => (hg s hs).reprices)
  have hnone : db'.signals = db.signals → departures db db' = [] := by
    intro hs
    refine List.eq_nil_iff_forall_not_mem.mpr (fun x hx => ?_)
    obtain ⟨s, hm, rfl, hp, s', hm', hid, hne⟩ := mem_departures.mp hx
    rw [hs] at hm'
    exact hne (eq_of_key hk.nodup hm' hm hid ▸ hp)
  have hk' := (h.keys hk).nodup
  cases h with
  | same hs hq =>
    rw [hs, hnone hs]
    simp
  | moved henq hrep hr hq =>
    rw [hrows hr, if_neg hrep, List.append_nil]
  | queued entry mem free hr only moved card hq =>
    rw [hrows hr]
    simp
  | recorded card hid hst hre hs hq =>
    rw [hs]
    simp [hre]
  | replaced old card rows hm hp hrw hid hst hre hs hq =>
    have hdep : departures db db' = [old.id] := by
      refine List.perm_singleton.mp ((List.perm_ext_iff_of_nodup (departures_nodup hk)
        (List.nodup_singleton _)).mpr (fun x => ?_))
      rw [mem_departures, List.mem_singleton]
      constructor
      · rintro ⟨s, hsm, rfl, hsp, s', hs', hid', hne⟩
        by_contra hx
        have hmem : s ∈ db'.signals := by
          rw [hs, hrw]
          refine List.mem_append_left _ (mem_updateWhere_of_not hsm ?_)
          simp [Db.isPendingCard, hx]
        exact hne (eq_of_key hk' hs' hmem hid' ▸ hsp)
      · rintro rfl
        refine ⟨old, hm, rfl, hp, { old with status := .expired }, ?_, rfl, by simp⟩
        rw [hs, hrw]
        exact List.mem_append_left _ (mem_updateWhere_of hm (by simp [Db.isPendingCard, hp]))
    rw [hs, List.filterMap_append, hrows (by rw [hrw]; exact db.leavePending_rows old.id .replace),
      hdep]
    simp [hre]

/-- A card that has left is not taken again. -/
theorem DepartureInv.fresh (hd : DepartureInv db t) (hk : SignalKeys db)
    {d : SignalId × Op} (hmem : d ∈ departed t) : d.1 ∉ departures db db' := by
  intro hid
  obtain ⟨s, hs, hsid, hp, -⟩ := mem_departures.mp hid
  obtain ⟨s₀, hs₀, hid₀, hleft⟩ := hd.left d hmem
  rw [eq_of_key hk.nodup hs₀ hs (hid₀.trans hsid.symm), hp] at hleft
  cases hop : d.2 <;> simp [hop, Op.leavesAs] at hleft

/-- **Every action keeps the invariant of the departures.** -/
theorem DepartureInv.kept (hd : DepartureInv db t) (h : Act env t db p op calls db' p')
    (hk : SignalKeys db) (hp : departure.here db t p) :
    DepartureInv db' (t ++ (calls ++ leaves op db db')) := by
  have he := h.signalEffect hk.nodup
  have hdep : departed (t ++ (calls ++ leaves op db db'))
      = departed t ++ (departures db db').map (fun id => (id, op)) := by
    rw [departed_append, departed_append, h.departed_calls, departed_leaves, List.nil_append]
  have hnew : ∀ {id}, id ∈ departures db db' →
      (id, op) ∈ departed t ++ (departures db db').map (fun id => (id, op)) := fun hid =>
    List.mem_append_right _ (List.mem_map_of_mem hid)
  have hold : ∀ {d}, d ∈ departed t →
      d ∈ departed t ++ (departures db db').map (fun id => (id, op)) := fun hd =>
    List.mem_append_left _ hd
  constructor
  · rw [hdep, List.map_append, List.map_map]
    refine List.nodup_append.mpr ⟨hd.once, ?_, ?_⟩
    · exact (List.map_id (departures db db')).symm ▸ departures_nodup hk
    · rintro a ha b hb rfl
      obtain ⟨d, hdm, rfl⟩ := List.mem_map.mp ha
      exact hd.fresh hk hdm (by simpa using hb)
  · rw [hdep]
    intro d hm
    rcases List.mem_append.mp hm with hm | hm
    · obtain ⟨s, hs, hid, hleft⟩ := hd.left d hm
      obtain ⟨s', hs', hstep⟩ := he.exists_step hs
      exact ⟨s', hs', hstep.id.trans hid, hstep.move.leavesAs hleft⟩
    · obtain ⟨id, hid, rfl⟩ := List.mem_map.mp hm
      exact h.departs hk hp hid
  · rw [hdep]
    intro s' hs' hne
    rcases he.mem_cases hs' with ⟨s, hs, hstep⟩ | ⟨-, hpending⟩
    · by_cases hsp : s.status = .pending
      · rw [hstep.id]
        exact ⟨op, hnew (mem_departures.mpr ⟨s, hs, rfl, hsp, s', hs', hstep.id, hne⟩)⟩
      · obtain ⟨op₀, hop₀⟩ := hd.statuses s hs hsp
        rw [hstep.id]
        exact ⟨op₀, hold hop₀⟩
    · exact absurd hpending hne
  · rw [hdep]
    intro e hm
    rcases h.outcome.entry_cases hm with ⟨e₀, hm₀, hid⟩ | ⟨rfl, hid⟩
    · rw [← hid]
      exact hold (hd.entries e₀ hm₀)
    · exact hnew hid
  · rw [hdep]
    intro id
    rw [he.reprices hk, List.mem_append, List.mem_append, hd.replaced id]
    refine or_congr_right ?_
    rw [List.mem_map]
    constructor
    · intro hid
      split at hid
      · rename_i hop
        exact ⟨id, hid, by rw [hop]⟩
      · cases hid
    · rintro ⟨x, hx, heq⟩
      cases heq
      exact hx
  · rw [he.reprices hk]
    refine List.nodup_append.mpr ⟨hd.replacements, ?_, ?_⟩
    · split
      · exact departures_nodup hk
      · exact List.nodup_nil
    · rintro a ha b hb rfl
      split at hb
      · exact hd.fresh hk ((hd.replaced a).mp ha) hb
      · cases hb

end

/-- **The invariant of the departures holds in every reachable state.** -/
theorem departure_holds (env : Env) {w : World Db Proc Mark}
    (h : (trader env).Reachable w) : departure.Holds w := by
  refine Program.holds departure ?_ (fun d t _ id hi => by cases hi)
    (fun q => ⟨trivial, trivial⟩) ?_ h
  · constructor
    · exact List.nodup_nil
    · exact fun d hd => by cases hd
    · exact fun s hs => by cases hs
    · exact fun e he => by cases he
    · exact fun id => ⟨(fun h => by cases h), (fun h => by cases h)⟩
    · exact List.nodup_nil
  · rintro w i marks d p hw hA ⟨op, calls, ha, rfl⟩
    have hk := signalKeys_of_reachable env hw
    have he := ha.signalEffect hk.nodup
    have hstable : ∀ id, (∃ s ∈ w.store.signals, s.id = id ∧ s.status ≠ .pending) →
        ∃ s ∈ d.signals, s.id = id ∧ s.status ≠ .pending := by
      rintro _ ⟨s, hs, rfl, hne⟩
      obtain ⟨s', hs', hstep⟩ := he.exists_step hs
      exact ⟨s', hs', hstep.id, hstep.move.ne_pending hne⟩
    refine ⟨hA.store.kept ha hk (hA.here i), fun id hid => ?_, fun q hq _ _ =>
      ⟨fun id hid => hstable id (hq id hid), trivial, trivial⟩⟩
    obtain ⟨rfl, hs⟩ := ha.syncing_cases.1 id hid
    exact hs

/-- The trace only grows. -/
theorem departed_run (env : Env) {w w' : World Db Proc Mark} (h : (trader env).Reachable w)
    (hr : (trader env).Run w w') : ∀ d ∈ departed w.trace, d ∈ departed w'.trace := by
  refine TransitionSystem.Run.rel_of_step
    (R := fun w w' => ∀ d ∈ departed w.trace, d ∈ departed w'.trace)
    (fun _ _ hd => hd) ?_ ?_ h hr
  · exact fun a b c hab hbc d hd => hbc d (hab d hd)
  rintro w w' - (⟨i, marks, db, p, -, rfl⟩ | ⟨i, rfl⟩) d hd
  · rw [World.acted, departed_append]
    exact List.mem_append_left _ hd
  · exact hd

/-- **A card leaves `PENDING` at most once.** In every reachable state: no
signal has left twice, and each is what its departure leaves it as; a signal
that was dismissed, expired or replaced has no entry in any later state, and
one that has an entry is not dismissed, expired or replaced in any later state;
and the signals that were re-priced are exactly those a replacement took, each
by one card. -/
theorem card_leaves_once (env : Env) {w : World Db Proc Mark}
    (h : (trader env).Reachable w) :
    ((departed w.trace).map (·.1)).Nodup
      ∧ (∀ d ∈ departed w.trace, ∃ s ∈ w.store.signals, s.id = d.1
          ∧ d.2.leavesAs s.status)
      ∧ (∀ s ∈ w.store.signals, s.status ≠ .pending → ∃ op, (s.id, op) ∈ departed w.trace)
      ∧ (∀ w', (trader env).Run w w' → ∀ d ∈ departed w.trace, d.2 ≠ .enqueueEntry →
          ∀ e ∈ w'.store.entries, e.request.signalId ≠ d.1)
      ∧ (∀ w', (trader env).Run w w' → ∀ e ∈ w.store.entries,
          (∀ d ∈ departed w'.trace, d.1 = e.request.signalId → d.2 = .enqueueEntry)
            ∧ ∀ s ∈ w'.store.signals, s.id = e.request.signalId →
              s.status ≠ .dismissed ∧ s.status ≠ .expired)
      ∧ (∀ id, (∃ r ∈ w.store.signals, r.reprices = some id)
          ↔ (id, Op.replaceSignal) ∈ departed w.trace)
      ∧ ∀ r₁ ∈ w.store.signals, ∀ r₂ ∈ w.store.signals, ∀ id,
        r₁.reprices = some id → r₂.reprices = some id → r₁ = r₂ := by
  have hd := (departure_holds env h).store
  -- two departures of one signal are one
  have hone : ∀ w', (trader env).Reachable w' → ∀ d ∈ departed w'.trace,
      ∀ d' ∈ departed w'.trace, d.1 = d'.1 → d = d' :=
    fun w' hw d hd d' hd' heq => eq_of_key (departure_holds env hw).store.once hd hd' heq
  refine ⟨hd.once, hd.left, hd.statuses, ?_, ?_, fun id => ?_, ?_⟩
  · intro w' hr d hm hne e he hid
    have hw' := h.run hr
    have hent := (departure_holds env hw').store.entries e he
    have heq := hone w' hw' d (departed_run env h hr d hm) _ hent hid.symm
    exact hne (by rw [heq])
  · intro w' hr e he
    have hw' := h.run hr
    have hent := departed_run env h hr _ (hd.entries e he)
    refine ⟨fun d hm hid => by rw [hone w' hw' d hm _ hent hid], fun s hs hid => ?_⟩
    obtain ⟨s₀, hs₀, hid₀, hleft⟩ := (departure_holds env hw').store.left _ hent
    obtain rfl := eq_of_key (signalKeys_of_reachable env hw').nodup hs hs₀
      (hid.trans hid₀.symm)
    exact hleft.2
  · rw [← hd.replaced id, List.mem_filterMap]
  · exact fun r₁ h₁ r₂ h₂ id he₁ he₂ => eq_of_column hd.replacements h₁ h₂ he₁ he₂

/-- A card is recorded, and re-priced. -/
theorem card_leaves_once_sample :
    ∃ w, (trader sampleEnv).Reachable w ∧ (1, Op.replaceSignal) ∈ departed w.trace
      ∧ ((departed w.trace).map (·.1)).Nodup := by
  have h₀ : ((trader sampleEnv).restrict (fun _ _ _ _ => True)).Reachable
      ⟨Db.empty, fun _ => .idle, []⟩ := TransitionSystem.Reachable.of_init rfl
  have h₁ := Act.reachable (i := 0) h₀ rfl trivial
    (.standalone rfl (.recordSignal 0 sampleCard false))
  have h₂ := Act.reachable (i := 0) h₁ rfl trivial
    (.standalone rfl (.replaceSignal 1 1 sampleCard))
  obtain ⟨honce, -, -, -, -, hreplaced, -⟩ := card_leaves_once sampleEnv h₂.of_restrict
  refine ⟨_, h₂.of_restrict, (hreplaced 1).mp ?_, honce⟩
  exact ⟨(sampleCarded.leavePending 1 .expired).1.newSignal 1 sampleCard (some 1),
    List.mem_cons_of_mem _ List.mem_cons_self, rfl⟩

end AgenticTrader
