import AgenticTrader.Alpha.Sessions
import AgenticTrader.Alpha.HoldoutSpending
import AgenticTrader.Alpha.ProbeKill

/-!
# Every window is decided on once

A window of the exchange's calendar is decided on at most once per version and
symbol: the plan that finds it due writes its decision, and a decision that is
still claimed is closed once, by the capture that claimed it or because it ran
out. That holds in every interleaving (`DecisionRule`), and the pending
decisions are exactly the claimed ones.

That no window is dropped is another matter. The calendar a poll asks for
starts some days back, and a plan records a gap for the time between its cursor
and the midnight that calendar starts at. But a window is due by the time it
becomes available, not by the date of its session, and with a long decision
delay the last window before that midnight becomes available after it. Such a
window is in no calendar and in no gap (`window_dropped`). A poll that
overlooks no window in this way (`Overlooked`) leaves every window it passes
decided on or within a gap (`windows_accounted`).
-/

namespace AgenticTrader

open AlphaDb
open Projections (Justified Appends)

variable {clock : DayClock}

/-! ## The windows of a session -/

theorem Timeframe.duration_pos (timeframe : Timeframe) : 0 < timeframe.duration := by
  cases timeframe <;> decide

section

variable {duration close : ℤ}

/-- A window closes after the loop's start, and no later than the session. -/
theorem closedAt_of_mem_barWindows (hd : 0 < duration) {n : ℕ} {begin : ℤ}
    {w : SignalBarWindow} (h : w ∈ barWindows duration close n begin) :
    begin < w.closedAt ∧ w.closedAt ≤ close := by
  induction n generalizing begin with
  | zero => cases h
  | succ n ih =>
    unfold barWindows at h
    split at h
    · rcases List.mem_cons.mp h with rfl | h
      · exact ⟨lt_min (by omega) ‹_›, min_le_right _ _⟩
      · obtain ⟨hlt, hle⟩ := ih h
        exact ⟨(lt_min (by omega) ‹_›).trans hlt, hle⟩
    · cases h

theorem barWindows_pairwise (hd : 0 < duration) (n : ℕ) (begin : ℤ) :
    (barWindows duration close n begin).Pairwise (fun w w' => w.closedAt < w'.closedAt) := by
  induction n generalizing begin with
  | zero => exact List.Pairwise.nil
  | succ n ih =>
    unfold barWindows
    split
    · exact List.Pairwise.cons (fun w hw => (closedAt_of_mem_barWindows hd hw).1) (ih _)
    · exact List.Pairwise.nil

end

theorem DayClock.midnight_mono {day day' : ℤ} (h : day ≤ day') :
    clock.midnight day ≤ clock.midnight day' := by
  obtain ⟨n, rfl⟩ := Int.le.dest h
  induction n with
  | zero => simp
  | succ n ih =>
    have hstep := clock.increasing (day + n)
    have := ih (by omega)
    push_cast
    rw [← add_assoc]
    exact this.trans hstep.le

theorem closedAt_of_mem_sessionBarWindows {s : TradingSession clock} {timeframe : Timeframe}
    {w : SignalBarWindow} (h : w ∈ sessionBarWindows s timeframe) :
    s.openAt < w.closedAt ∧ w.closedAt ≤ s.closeAt :=
  closedAt_of_mem_barWindows timeframe.duration_pos h

/-- **The windows of a report are in strict order of their closes.** -/
theorem windowsOf_pairwise {sessions : List (TradingSession clock)}
    (h : sessions.Pairwise (fun s s' => s.date < s'.date)) (timeframe : Timeframe) :
    (windowsOf sessions timeframe).Pairwise (fun w w' => w.closedAt < w'.closedAt) := by
  unfold windowsOf
  rw [List.pairwise_flatMap]
  refine ⟨fun s _ => barWindows_pairwise timeframe.duration_pos _ _, h.imp ?_⟩
  intro s s' hlt w hw w' hw'
  have hnight : clock.midnight (s.date + 1) ≤ clock.midnight s'.date :=
    DayClock.midnight_mono (by omega)
  calc w.closedAt ≤ s.closeAt := (closedAt_of_mem_sessionBarWindows hw).2
    _ < clock.midnight (s.date + 1) := s.closes.2
    _ ≤ clock.midnight s'.date := hnight
    _ ≤ s'.openAt := s'.opens.1
    _ < w'.closedAt := (closedAt_of_mem_sessionBarWindows hw').1

theorem SessionClockPolicy.closedAt_le_availableAt (policy : SessionClockPolicy)
    (w : SignalBarWindow) : w.closedAt ≤ policy.availableAt w :=
  le_add_of_nonneg_right (by positivity)

/-! ## Windows that are overlooked -/

/-- **A plan overlooks a window**: the window became available after the mark
the plan starts from and no later than the last window it decides on, or than
now, and its session is not among those the plan was handed. A plan that leaves
its cursor where it was overlooks nothing. -/
structure Overlooked (calendar : ExchangeCalendar clock) (x : DecisionInput clock)
    (policy : SessionClockPolicy) (previous : SessionCursor) (w : SignalBarWindow) : Prop where
  clocked : x.definition.clock = some (.session policy)
  continues : x.previous = some previous
  generation : previous.generation = x.generation
  moves : x.due policy previous ≠ [] ∨ x.calendar ≠ previous.calendar
    ∨ x.gap previous ≠ previous.gap
  window : calendar.Window x.definition.timeframe w
  unreported : w ∉ windowsOf x.sessions x.definition.timeframe
  after : x.since previous < policy.availableAt w
  past : policy.availableAt w ≤ x.now
  within : x.limit < (x.due policy previous).length →
    ∃ u ∈ (x.due policy previous).take x.limit, policy.availableAt w ≤ policy.availableAt u

/-- **Where the calendar is reported in full, only a session from before it is
overlooked**: one whose window becomes available after the midnight the
calendar starts at. -/
theorem Overlooked.before {calendar : ExchangeCalendar clock} {x : DecisionInput clock}
    {policy : SessionClockPolicy} {previous : SessionCursor} {w : SignalBarWindow}
    (h : Overlooked calendar x policy previous w) {day : ℤ} (hday : clock.On day x.now)
    (hfull : ∀ d s, calendar.session d = some s → x.start ≤ d → d ≤ day → s ∈ x.sessions) :
    ∃ d s, calendar.session d = some s ∧ d < x.start
      ∧ w ∈ sessionBarWindows s x.definition.timeframe
      ∧ clock.midnight x.start < policy.availableAt w := by
  obtain ⟨d, s, hs, hw⟩ := h.window
  have hd := calendar.dated d s hs
  refine ⟨d, s, hs, ?_, hw, (le_max_right _ _).trans_lt h.after⟩
  by_contra hge
  refine h.unreported (List.mem_flatMap.mpr ⟨s, hfull d s hs (by omega) ?_, hw⟩)
  by_contra hlater
  have hnight : clock.midnight (day + 1) ≤ clock.midnight s.date :=
    DayClock.midnight_mono (by omega)
  refine lt_irrefl x.now ?_
  calc x.now < clock.midnight (day + 1) := hday.2
    _ ≤ clock.midnight s.date := hnight
    _ ≤ s.openAt := s.opens.1
    _ ≤ w.closedAt := (closedAt_of_mem_sessionBarWindows hw).1.le
    _ ≤ policy.availableAt w := policy.closedAt_le_availableAt w
    _ ≤ x.now := h.past

/-- **No plan that is about to be committed overlooks a window.** -/
def attentive (calendar : ExchangeCalendar clock) (db : AlphaDb) (_ : List Empty) :
    Decider clock → Prop
  | .planned _ x _ _ => db.get (.cursor x.versionId x.symbol) = x.previous →
    ∀ policy previous w, ¬ Overlooked calendar x policy previous w
  | _ => True

/-- **The window is accounted for**: it was decided on, or it lies within a gap
that was journaled. -/
def Accounted (db : AlphaDb) (versionId symbol : String) (policy : SessionClockPolicy)
    (w : SignalBarWindow) : Prop :=
  (∃ d, db.get (.decision ⟨versionId, symbol, w.closedAt⟩) = some d)
    ∨ ∃ (c : SessionCursor) (g : SessionGap), ⟨.cursor versionId symbol, c⟩ ∈ db.store.journal
      ∧ c.gap = some g ∧ g.startAt ≤ policy.availableAt w ∧ policy.availableAt w ≤ g.endAt

/-- **Every window the cursors have passed is accounted for.** -/
def Covered (calendar : ExchangeCalendar clock) (db : AlphaDb) : Prop :=
  ∀ versionId symbol cursor definition policy w,
    db.get (.cursor versionId symbol) = some cursor →
    db.get (.version versionId) = some (.dsl definition) →
    definition.clock = some (.session policy) →
    calendar.Window definition.timeframe w →
    cursor.enrolledAt < policy.availableAt w → policy.availableAt w ≤ cursor.checkedAt →
    Accounted db versionId symbol policy w

/-! ## The rule of the journal -/

/-- **A decision closes a claim**: the claim it was made under. -/
structure SessionDecision.Closes (d claim : SessionDecision) : Prop where
  claimed : claim.status = .claimed
  closed : d.status ≠ .claimed
  claimId : claim.claimId = d.claimId

/-- **What every event was allowed by.** A decision is about its own window, and
every earlier decision on that window is the claim it closes. A version is
recorded once, under its identifier, and before it has a cursor. -/
def DecisionRule (cfg : AlphaConfig) (past : List (Sigma AlphaValue)) : Sigma AlphaValue → Prop
  | ⟨.decision id, d⟩ => d.identity = id
    ∧ ∀ d' : SessionDecision, ⟨.decision id, d'⟩ ∈ past → d.Closes d'
  | ⟨.version v, document⟩ => document.id cfg = v ∧ ∀ document', ⟨.version v, document'⟩ ∉ past
  | ⟨.cursor v _, _⟩ => ∃ definition, ⟨.version v, .dsl definition⟩ ∈ past
  | _ => True

/-- **The pending decisions are the claimed ones**, each with its expiry. -/
structure PendingExact (db : AlphaDb) (pending : List (DecisionIdentity × Time)) : Prop where
  nodup : (pending.map Prod.fst).Nodup
  exact : ∀ id t, (id, t) ∈ pending ↔
    ∃ d, db.get (.decision id) = some d ∧ d.status = .claimed ∧ d.expiresAt = t

/-- The table is what the journal says, and the journal follows the rule. -/
structure DecisionLedger (cfg : AlphaConfig) (db : AlphaDb) : Prop where
  faithful : db.store.Faithful
  justified : Justified (DecisionRule cfg) db.store.journal

section

variable {cfg : AlphaConfig} {db db' : AlphaDb}

/-- Writes at keys of other operations follow the rule. -/
theorem justified_of_appends {s s' : AlphaStore}
    (ha : Appends (fun k => k.ofSessions = false) s s')
    (h : Justified (DecisionRule cfg) s.journal) : Justified (DecisionRule cfg) s'.journal := by
  induction ha with
  | refl => exact h
  | append _ k v hk ih =>
    refine ih.concat ?_
    cases k <;> trivial

namespace DecisionLedger

theorem append (h : DecisionLedger cfg db) (k : AlphaKey) (v : AlphaValue k)
    (hr : DecisionRule cfg db.store.journal ⟨k, v⟩) : DecisionLedger cfg (db.append k v) :=
  ⟨h.faithful.append k v, h.justified.concat hr⟩

/-- An earlier decision is the current one, or the claim it closed. -/
theorem decision (h : DecisionLedger cfg db) {id : DecisionIdentity} {d : SessionDecision}
    (hg : db.get (.decision id) = some d) {d' : SessionDecision}
    (hd : ⟨.decision id, d'⟩ ∈ db.store.journal) :
    d' = d ∨ d.Closes d' := by
  refine h.justified.latest h.faithful (k := AlphaKey.decision id)
    (L := fun (d' d : SessionDecision) => d' = d ∨ d.Closes d') ?_ (fun _ => Or.inl rfl) hg d' hd
  intro past d hr u hu
  exact Or.inr (And.right hr u hu)

theorem identity_eq (h : DecisionLedger cfg db) {id : DecisionIdentity} {d : SessionDecision}
    (hd : ⟨.decision id, d⟩ ∈ db.store.journal) : d.identity = id := by
  obtain ⟨past, rest, heq⟩ := List.append_of_mem hd
  exact (h.justified past _ rest heq).1

theorem version_id (h : DecisionLedger cfg db) {v : String} {document : VersionDocument}
    (hg : db.get (.version v) = some document) : document.id cfg = v := by
  obtain ⟨past, rest, heq⟩ := List.append_of_mem (h.faithful.mem_of_get hg)
  exact (h.justified past _ rest heq).1

/-- A version's record is the one event at its key. -/
theorem version (h : DecisionLedger cfg db) {v : String} {document : VersionDocument}
    (hm : ⟨.version v, document⟩ ∈ db.store.journal) : db.get (.version v) = some document :=
  h.justified.get_of_mem h.faithful (k := AlphaKey.version v) (fun _ _ hr => And.right hr) hm

/-- The first decision on a window follows the rule. -/
theorem first_rule (h : DecisionLedger cfg db) {d : SessionDecision}
    (hg : db.get (.decision d.identity) = none) :
    DecisionRule cfg db.store.journal ⟨.decision d.identity, d⟩ :=
  ⟨rfl, fun d' hd' => absurd hd' (h.faithful.not_mem_of_get hg d')⟩

/-- The decision that closes a claim follows the rule. -/
theorem close_rule (h : DecisionLedger cfg db) {id : DecisionIdentity} {claim d : SessionDecision}
    (hg : db.get (.decision id) = some claim) (hc : claim.status = .claimed)
    (hd : d.status ≠ .claimed) (hid : d.identity = id) (hclaim : claim.claimId = d.claimId) :
    DecisionRule cfg db.store.journal ⟨.decision id, d⟩ := by
  refine ⟨hid, fun d' hd' => ?_⟩
  rcases h.decision hg hd' with rfl | hcl
  · exact ⟨hc, hd, hclaim⟩
  · exact absurd hc hcl.closed

theorem of_appends (h : DecisionLedger cfg db)
    (ha : Appends (fun k => k.ofSessions = false) db.store db'.store) : DecisionLedger cfg db' := by
  refine ⟨ha.faithful h.faithful, justified_of_appends ha h.justified⟩

end DecisionLedger

/-- The pending decisions of a database are those it has claimed. -/
structure DecisionInv (cfg : AlphaConfig) (db : AlphaDb) : Prop extends DecisionLedger cfg db where
  pending : PendingExact db db.pending

theorem PendingExact.congr {pending : List (DecisionIdentity × Time)} (h : PendingExact db pending)
    (hg : ∀ id, db'.get (.decision id) = db.get (.decision id)) : PendingExact db' pending := by
  refine ⟨h.nodup, fun id t => ?_⟩
  rw [h.exact id t, hg id]

theorem pending_of_get {pending : List (DecisionIdentity × Time)}
    (h : db.get .pending = some pending) : db.pending = pending := by
  unfold AlphaDb.pending
  rw [h]
  rfl

/-- **Writes at keys of other operations keep the invariant.** -/
theorem DecisionInv.of_appends (h : DecisionInv cfg db)
    (ha : Appends (fun k => k.ofSessions = false) db.store db'.store) : DecisionInv cfg db' := by
  refine ⟨h.toDecisionLedger.of_appends ha, ?_⟩
  have hp : db'.pending = db.pending := by
    unfold AlphaDb.pending
    rw [show db'.get .pending = db.get .pending from ha.get_eq (by simp [AlphaKey.ofSessions])]
  rw [hp]
  exact h.pending.congr (fun id => ha.get_eq (by simp [AlphaKey.ofSessions]))

/-- **A write at another key keeps the invariant.** -/
theorem DecisionInv.append (h : DecisionInv cfg db) (k : AlphaKey) (v : AlphaValue k)
    (hr : DecisionRule cfg db.store.journal ⟨k, v⟩) (hp : .pending ≠ k)
    (hd : ∀ id, .decision id ≠ k) : DecisionInv cfg (db.append k v) := by
  refine ⟨h.toDecisionLedger.append k v hr, ?_⟩
  have hpending : (db.append k v).pending = db.pending := by
    unfold AlphaDb.pending
    rw [get_append_ne _ _ hp]
  rw [hpending]
  exact h.pending.congr (fun id => get_append_ne _ _ (hd id))

/-- **A version that is recorded keeps the invariant.** -/
theorem DecisionInv.record (h : DecisionInv cfg db) (document : VersionDocument)
    (hg : db.get (.version (document.id cfg)) = none) :
    DecisionInv cfg (db.append (.version (document.id cfg)) document) :=
  h.append _ _ ⟨rfl, fun d hd => h.faithful.not_mem_of_get hg d hd⟩ (by simp) (by simp)

/-- **What a transaction keeps**: the invariant, and everything journaled. -/
structure DecisionStep (cfg : AlphaConfig) (db db' : AlphaDb) : Prop where
  inv : DecisionInv cfg db'
  grows : db.store.journal <+: db'.store.journal

theorem DecisionStep.refl (h : DecisionInv cfg db) : DecisionStep cfg db db :=
  ⟨h, List.prefix_rfl⟩

theorem DecisionStep.append (h : DecisionStep cfg db db') (k : AlphaKey) (v : AlphaValue k)
    (hr : DecisionRule cfg db'.store.journal ⟨k, v⟩) (hp : .pending ≠ k)
    (hd : ∀ id, .decision id ≠ k) : DecisionStep cfg db (db'.append k v) :=
  ⟨h.inv.append k v hr hp hd, h.grows.trans (prefix_append _ _ _)⟩

/-- **A decision stays, or its claim is closed.** -/
theorem DecisionStep.decision (h : DecisionStep cfg db db') (hf : db.store.Faithful)
    {id : DecisionIdentity} {d : SessionDecision} (hg : db.get (.decision id) = some d) :
    ∃ d', db'.get (.decision id) = some d' ∧ (d' = d ∨ d'.Closes d) := by
  have hm := h.grows.subset (hf.mem_of_get hg)
  cases hg' : db'.get (.decision id) with
  | none => exact absurd hm (h.inv.faithful.not_mem_of_get hg' d)
  | some d' =>
    rcases h.inv.decision hg' hm with rfl | hc
    · exact ⟨d, rfl, Or.inl rfl⟩
    · exact ⟨d', rfl, Or.inr hc⟩

theorem register_step (h : DecisionInv cfg db) (definition : AlphaDefinition) :
    DecisionStep cfg db (db.register cfg definition) := by
  unfold AlphaDb.register
  split
  · exact .refl h
  · rename_i hnone
    exact ⟨h.record (.dsl definition) (Option.not_isSome_iff_eq_none.mp hnone),
      prefix_append _ _ _⟩

theorem recordCatalog_step (h : DecisionInv cfg db) (definition : CatalogDefinition) :
    DecisionStep cfg db (db.recordCatalog definition) := by
  unfold AlphaDb.recordCatalog
  split
  · exact .refl h
  · rename_i hnone
    exact ⟨h.record (.catalog definition) (Option.not_isSome_iff_eq_none.mp hnone),
      prefix_append _ _ _⟩

theorem DecisionStep.of_appends (h : DecisionInv cfg db)
    (ha : Appends (fun k => k.ofSessions = false) db.store db'.store) :
    DecisionStep cfg db db' := by
  obtain ⟨l, hl, -⟩ := ha.journal
  exact ⟨h.of_appends ha, l, hl.symm⟩

theorem observe_appends (db : AlphaDb) (o : ExternalObservation) :
    Appends (fun k => k.ofSessions = false) db.store (db.observe o).store :=
  ((((Writes.refl (K := fun k => k.ofSessions = false) db).append (.externalObservation o) ()
    rfl).append (.holdout o.symbol) (db.intervals o.symbol ++ [observedInterval o]) rfl).append
      .familyAll (db.trialCount + o.trials) rfl).appends

/-- The interval a capture excludes is filed at keys of other operations. -/
theorem excludeObservedInterval_appends {symbol reason : String} {startAt endAt : WireTime}
    {startOffset endOffset trials : ℤ}
    (h : db.excludeObservedInterval cfg symbol startAt endAt startOffset endOffset trials reason
      = .ok db') : Appends (fun k => k.ofSessions = false) db.store db'.store := by
  unfold AlphaDb.excludeObservedInterval at h
  simp only [refuse_bind_eq_ok] at h
  obtain ⟨-, h⟩ := h
  split at h
  · simp only [refuse_bind_eq_ok, Except.ok.injEq] at h
    obtain ⟨-, rfl⟩ := h
    split
    · exact .refl _
    · exact observe_appends db _
  · cases h

/-! ## Committing a plan -/

/-- **What the loop over the claims of a plan keeps.** -/
structure Consuming (cfg : AlphaConfig) (db : AlphaDb)
    (s : AlphaDb × List (DecisionIdentity × Time) × List SessionDecision) : Prop
    extends DecisionLedger cfg s.1 where
  pending : PendingExact s.1 s.2.1
  grows : db.store.journal <+: s.1.store.journal
  others : ∀ k, (∀ id, k ≠ .decision id) → s.1.get k = db.get k
  accepted : ∀ c ∈ s.2.2, ⟨.decision c.identity, c⟩ ∈ s.1.store.journal
  quiet : s.2.2 = [] → s.1 = db ∧ s.2.1 = db.pending

variable {s : AlphaDb × List (DecisionIdentity × Time) × List SessionDecision}

/-- **A new decision is pending when it is claimed.** -/
theorem PendingExact.consume {pending : List (DecisionIdentity × Time)}
    (h : PendingExact db pending) {claim : SessionDecision}
    (hg : db.get (.decision claim.identity) = none) :
    PendingExact (db.append (.decision claim.identity) claim)
      (if claim.status = .claimed then
        pending.filter (fun p => p.1 != claim.identity) ++ [(claim.identity, claim.expiresAt)]
      else pending) := by
  have hnew : ∀ t, (claim.identity, t) ∉ pending := by
    intro t ht
    obtain ⟨d, hd, -⟩ := (h.exact _ _).mp ht
    rw [hg] at hd
    cases hd
  have hfilter : pending.filter (fun p => p.1 != claim.identity) = pending := by
    refine List.filter_eq_self.mpr fun p hp => ?_
    refine bne_iff_ne.mpr fun he => hnew p.2 ?_
    rw [← he]
    exact hp
  have hother : ∀ id, id ≠ claim.identity → ∀ t, (id, t) ∈ pending ↔
      ∃ d, (db.append (.decision claim.identity) claim).get (.decision id) = some d
        ∧ d.status = .claimed ∧ d.expiresAt = t := by
    intro id hid t
    rw [get_append_ne _ _ (by simpa using hid)]
    exact h.exact id t
  rw [hfilter]
  split
  · rename_i hc
    refine ⟨?_, fun id t => ?_⟩
    · rw [List.map_append, List.nodup_append]
      refine ⟨h.nodup, List.nodup_singleton _, ?_⟩
      rintro _ hp _ hq rfl
      obtain ⟨⟨id, t⟩, hin, rfl⟩ := List.mem_map.mp hp
      obtain rfl : id = claim.identity := by simpa using hq
      exact hnew t hin
    · rw [List.mem_append]
      by_cases hid : id = claim.identity
      · subst hid
        rw [get_append_self]
        simp [hnew t, hc, eq_comm]
      · rw [← hother id hid t]
        simp [hid]
  · rename_i hc
    refine ⟨h.nodup, fun id t => ?_⟩
    by_cases hid : id = claim.identity
    · subst hid
      rw [get_append_self]
      simp [hnew t, hc]
    · exact hother id hid t

/-- **One claim of a plan.** -/
theorem Consuming.consume (h : Consuming cfg db s) (claim : SessionDecision) :
    Consuming cfg db (AlphaDb.consume s claim) := by
  unfold AlphaDb.consume
  split
  · exact h
  · rename_i hnone
    have hg := Option.not_isSome_iff_eq_none.mp hnone
    refine ⟨h.toDecisionLedger.append _ _ (h.toDecisionLedger.first_rule hg), h.pending.consume hg,
      h.grows.trans (prefix_append _ _ _), fun k hk => ?_, fun c hc => ?_, fun hq => ?_⟩
    · rw [get_append_ne _ _ (hk _)]
      exact h.others k hk
    · refine mem_journal_append.mpr ?_
      rcases List.mem_append.mp hc with hc | hc
      · exact Or.inl (h.accepted c hc)
      · rw [List.mem_singleton.mp hc]
        exact Or.inr rfl
    · simp at hq

/-- A window that was decided on, or is one of the claims, is decided on. -/
theorem decided_foldl_consume {claims : List SessionDecision} {id : DecisionIdentity}
    (h : (s.1.get (.decision id)).isSome ∨ ∃ c ∈ claims, c.identity = id) :
    ((claims.foldl AlphaDb.consume s).1.get (.decision id)).isSome := by
  induction claims generalizing s with
  | nil => simpa using h
  | cons claim claims ih =>
    refine ih ?_
    have hkept : (s.1.get (.decision id)).isSome ∨ claim.identity = id →
        ((AlphaDb.consume s claim).1.get (.decision id)).isSome := by
      intro h
      unfold AlphaDb.consume
      split
      · rcases h with h | rfl
        · exact h
        · assumption
      · by_cases hid : id = claim.identity
        · subst hid
          rw [get_append_self]
          rfl
        · rw [get_append_ne _ _ (by simpa using hid)]
          exact h.resolve_right (fun he => hid he.symm)
    rcases h with h | ⟨c, hc, hid⟩
    · exact Or.inl (hkept (Or.inl h))
    · rcases List.mem_cons.mp hc with rfl | hc
      · exact Or.inl (hkept (Or.inr hid))
      · exact Or.inr ⟨c, hc, hid⟩

theorem Consuming.foldl (h : Consuming cfg db s) (claims : List SessionDecision) :
    Consuming cfg db (claims.foldl AlphaDb.consume s) := by
  induction claims generalizing s with
  | nil => exact h
  | cons claim claims ih => exact ih (h.consume claim)

/-- **What a commit does**: nothing, when another plan moved the cursor; else
every claim is decided on, and the cursor moves or stays. -/
theorem planSessionDecisions_ok {v symbol : String} {previous : Option SessionCursor}
    {cursor : SessionCursor} {claims accepted : List SessionDecision} (hI : DecisionInv cfg db)
    (h : db.planSessionDecisions v symbol previous cursor claims = .ok (db', accepted)) :
    (db' = db ∧ accepted = []) ∨ ∃ noted, db.get (.cursor v symbol) = previous
      ∧ DecisionStep cfg db noted
      ∧ (∀ k, (∀ id, k ≠ .decision id) → k ≠ .pending → noted.get k = db.get k)
      ∧ (∀ c ∈ claims, (noted.get (.decision c.identity)).isSome)
      ∧ (∀ c ∈ accepted, ⟨.decision c.identity, c⟩ ∈ noted.store.journal)
      ∧ db' = if cursorMoves previous cursor claims then noted.append (.cursor v symbol) cursor
        else noted := by
  unfold AlphaDb.planSessionDecisions at h
  simp only [refuse_bind_eq_ok] at h
  obtain ⟨-, h⟩ := h
  split at h
  · cases h
    exact Or.inl ⟨rfl, rfl⟩
  · rename_i hcur
    cases h
    have hstart : Consuming cfg db (db, db.pending, []) :=
      ⟨hI.toDecisionLedger, hI.pending, List.prefix_rfl, fun _ _ => rfl,
        (fun c hc => by cases hc), fun _ => ⟨rfl, rfl⟩⟩
    have hc := hstart.foldl claims
    have hdecided : ∀ c ∈ claims,
        ((claims.foldl AlphaDb.consume (db, db.pending, [])).1.get (.decision c.identity)).isSome :=
      fun c hin => decided_foldl_consume (Or.inr ⟨c, hin, rfl⟩)
    generalize claims.foldl AlphaDb.consume (db, db.pending, []) = consumed at hc hdecided
    refine Or.inr ⟨_, not_ne_iff.mp hcur, ?_, ?_, ?_, ?_, rfl⟩
    · split
      · rename_i hempty
        rw [(hc.quiet (List.isEmpty_iff.mp hempty)).1]
        exact .refl hI
      · refine ⟨⟨hc.toDecisionLedger.append _ _ trivial, ?_⟩,
          hc.grows.trans (prefix_append _ _ _)⟩
        rw [pending_of_get (get_append_self _ _ _)]
        exact hc.pending.congr (fun id => get_append_ne _ _ (by simp))
    · intro k hk hp
      split
      · exact hc.others k hk
      · rw [get_append_ne _ _ hp]
        exact hc.others k hk
    · intro c hin
      split
      · exact hdecided c hin
      · rw [get_append_ne _ _ (by simp)]
        exact hdecided c hin
    · intro c hin
      split
      · exact hc.accepted c hin
      · exact mem_journal_append.mpr (Or.inl (hc.accepted c hin))

/-! ## Closing claims -/

/-- **What the loop over the claims that ran out does.** -/
theorem interrupt_loop {now : Time} {l : List (DecisionIdentity × Time)}
    (hL : DecisionLedger cfg db) (hnd : (l.map Prod.fst).Nodup)
    (hl : ∀ p ∈ l, ∃ d, db.get (.decision p.1) = some d ∧ d.status = .claimed)
    (h : l.foldlM (interrupt now) db = .ok db') :
    DecisionLedger cfg db' ∧ db.store.journal <+: db'.store.journal
      ∧ (∀ k, (∀ p ∈ l, k ≠ .decision p.1) → db'.get k = db.get k)
      ∧ ∀ p ∈ l, ∃ d, db'.get (.decision p.1) = some d ∧ d.status ≠ .claimed := by
  induction l generalizing db with
  | nil =>
    cases h
    exact ⟨hL, List.prefix_rfl, fun _ _ => rfl, fun p hp => by cases hp⟩
  | cons p l ih =>
    rw [List.foldlM_cons] at h
    obtain ⟨swept, hs, h⟩ := except_bind_eq_ok.mp h
    obtain ⟨claim, hclaim, hstatus⟩ := hl p (List.mem_cons_self ..)
    unfold AlphaDb.interrupt at hs
    rw [hclaim] at hs
    cases hs
    rw [List.map_cons, List.nodup_cons] at hnd
    have hne : ∀ q ∈ l, (.decision q.1 : AlphaKey) ≠ .decision p.1 := by
      intro q hq he
      refine hnd.1 ?_
      rw [← AlphaKey.decision.inj he]
      exact List.mem_map_of_mem hq
    have hid : claim.identity = p.1 := hL.identity_eq (hL.faithful.mem_of_get hclaim)
    have hL' := hL.append (.decision p.1) (interrupted claim now)
      (hL.close_rule hclaim hstatus (fun hi => by cases hi) hid rfl)
    obtain ⟨hled, hgrow, hother, hdone⟩ := ih hL' hnd.2 (fun q hq => by
      rw [get_append_ne _ _ (hne q hq)]
      exact hl q (List.mem_cons_of_mem _ hq)) h
    refine ⟨hled, (prefix_append _ _ _).trans hgrow, fun k hk => ?_, fun q hq => ?_⟩
    · rw [hother k (fun q hq => hk q (List.mem_cons_of_mem _ hq)),
        get_append_ne _ _ (hk p (List.mem_cons_self ..))]
    · rcases List.mem_cons.mp hq with rfl | hq
      · refine ⟨interrupted claim now, ?_, fun hi => by cases hi⟩
        rw [hother _ (fun r hr => (hne r hr).symm), get_append_self]
      · exact hdone q hq

/-- **The claims that ran out are closed.** -/
theorem expireSessionDecisions_step {now : Time} (hI : DecisionInv cfg db)
    (h : db.expireSessionDecisions now = .ok db') :
    DecisionStep cfg db db'
      ∧ ∀ k, (∀ id, k ≠ .decision id) → k ≠ .pending → db'.get k = db.get k := by
  unfold AlphaDb.expireSessionDecisions at h
  obtain ⟨swept, hs, h⟩ := except_bind_eq_ok.mp h
  cases h
  have hsub : ∀ p ∈ db.pending.filter (fun p => decide (p.2 ≤ now)), p ∈ db.pending ∧ p.2 ≤ now :=
    fun p hp => by simpa using List.mem_filter.mp hp
  obtain ⟨hled, hgrow, hother, hdone⟩ := interrupt_loop hI.toDecisionLedger
    (hI.pending.nodup.sublist (List.filter_sublist.map _))
    (fun p hp => by
      obtain ⟨d, hd, hc, -⟩ := (hI.pending.exact p.1 p.2).mp (hsub p hp).1
      exact ⟨d, hd, hc⟩) hs
  split
  · rename_i hempty
    rw [List.isEmpty_iff] at hempty
    rw [hempty] at hs
    cases hs
    exact ⟨.refl hI, fun _ _ _ => rfl⟩
  · refine ⟨⟨⟨hled.append _ _ trivial, ?_⟩, hgrow.trans (prefix_append _ _ _)⟩, fun k hk hp => ?_⟩
    · rw [pending_of_get (get_append_self _ _ _)]
      have hget : ∀ id,
          (swept.append .pending (db.pending.filter (fun p => !decide (p.2 ≤ now)))).get
          (.decision id) = swept.get (.decision id) :=
        fun id => get_append_ne _ _ (by simp)
      refine PendingExact.congr ⟨hI.pending.nodup.sublist (List.filter_sublist.map _),
        fun id t => ?_⟩ hget
      by_cases hid : ∃ t', (id, t') ∈ db.pending ∧ t' ≤ now
      · obtain ⟨t', ht', hle⟩ := hid
        obtain ⟨d', hd', hne⟩ := hdone (id, t') (List.mem_filter.mpr ⟨ht', by simpa using hle⟩)
        have hsame : ∀ u, (id, u) ∈ db.pending → u = t' := by
          intro u hu
          obtain ⟨a, ha, -, rfl⟩ := (hI.pending.exact id u).mp hu
          obtain ⟨b, hb, -, rfl⟩ := (hI.pending.exact id t').mp ht'
          rw [ha] at hb
          cases hb
          rfl
        constructor
        · intro hin
          obtain ⟨hin, hlt⟩ := List.mem_filter.mp hin
          rw [hsame t hin] at hlt
          simp [hle] at hlt
        · rintro ⟨d, hd, hc, -⟩
          rw [hd'] at hd
          cases hd
          exact absurd hc hne
      · rw [hother (.decision id) (fun p hp he => hid ?_), ← hI.pending.exact id t]
        · rw [List.mem_filter]
          refine ⟨fun hin => hin.1, fun hin => ⟨hin, ?_⟩⟩
          simpa using fun hle => hid ⟨t, hin, hle⟩
        · cases he
          exact ⟨p.2, (hsub p hp).1, (hsub p hp).2⟩
    · rw [get_append_ne _ _ hp]
      exact hother k (fun p _ => hk _)

theorem finished_status {claim : SessionDecision} {evidence : DecisionEvidence} {generation : ℕ}
    {now : Time} (h : evidence.status ≠ .claimed) :
    (finished claim evidence generation now).status ≠ .claimed := by
  unfold AlphaDb.finished
  dsimp only
  split
  · exact fun hi => by cases hi
  · split
    · exact fun hi => by cases hi
    · exact h

theorem finished_identity {claim : SessionDecision} {evidence : DecisionEvidence} {generation : ℕ}
    {now : Time} : (finished claim evidence generation now).identity = claim.identity := by
  unfold AlphaDb.finished
  dsimp only
  split
  · rfl
  · split <;> rfl

theorem finished_claimId {claim : SessionDecision} {evidence : DecisionEvidence} {generation : ℕ}
    {now : Time} : (finished claim evidence generation now).claimId = claim.claimId := by
  unfold AlphaDb.finished
  dsimp only
  split
  · rfl
  · split <;> rfl

/-- A closed claim is not pending any more. -/
theorem PendingExact.close {pending : List (DecisionIdentity × Time)}
    (h : PendingExact db pending) {id : DecisionIdentity} {d : SessionDecision}
    (hd : d.status ≠ .claimed) :
    PendingExact (db.append (.decision id) d) (pending.filter (fun p => p.1 != id)) := by
  refine ⟨h.nodup.sublist (List.filter_sublist.map _), fun id' t => ?_⟩
  by_cases hid : id' = id
  · subst hid
    rw [get_append_self]
    simp [hd]
  · rw [get_append_ne _ _ (by simpa using hid), ← h.exact id' t]
    simp [hid]

/-- **A capture closes its own claim, or leaves it closed.** -/
theorem finishSessionDecision_step {claim : SessionDecision} {evidence : DecisionEvidence}
    {now : Time} (hI : DecisionInv cfg db)
    (hm : ⟨.decision claim.identity, claim⟩ ∈ db.store.journal)
    (h : db.finishSessionDecision claim evidence now = .ok db') :
    DecisionStep cfg db db' ∧ ∀ v s, db'.get (.cursor v s) = db.get (.cursor v s) := by
  unfold AlphaDb.finishSessionDecision at h
  split at h
  · cases h
  · rename_i previous hprev
    simp only [refuse_bind_eq_ok] at h
    obtain ⟨-, houtcome, -, h⟩ := h
    have hstatus : evidence.status ≠ .claimed := by
      intro hc
      rw [hc] at houtcome
      cases houtcome
    split at h
    · cases h
      split
      · exact ⟨.refl hI, fun _ _ => rfl⟩
      · refine ⟨(DecisionStep.refl hI).append _ _ trivial (by simp) (by simp), fun v s => ?_⟩
        rw [get_append_ne _ _ (by simp)]
    · rename_i hclaimed
      have hclaimed := not_ne_iff.mp hclaimed
      -- while the decision is claimed, it is the claim the capture started from
      obtain rfl : claim = previous := by
        rcases hI.toDecisionLedger.decision hprev hm with he | hc
        · exact he
        · exact absurd hclaimed hc.closed
      split at h
      · cases h
      · cases h
        refine ⟨⟨⟨(hI.toDecisionLedger.append _ _ (hI.toDecisionLedger.close_rule hprev hclaimed
            (finished_status hstatus) finished_identity finished_claimId.symm)).append _ _ trivial,
            ?_⟩, (prefix_append _ _ _).trans (prefix_append _ _ _)⟩, fun v s => ?_⟩
        · rw [pending_of_get (get_append_self _ _ _)]
          exact (hI.pending.close (finished_status hstatus)).congr
            (fun id => get_append_ne _ _ (by simp))
        · rw [get_append_ne _ _ (by simp), get_append_ne _ _ (by simp)]

/-! ## The processes -/

/-- What a poll knows: its versions were recorded, and its sessions are the
calendar's. -/
structure PollKnows (calendar : ExchangeCalendar clock) (cfg : AlphaConfig)
    (journal : List (Sigma AlphaValue)) (poll : DecisionPoll clock) : Prop where
  recorded : ∀ q ∈ poll.pairs, ⟨.version (cfg.versionId q.1), .dsl q.1⟩ ∈ journal
  reports : calendar.Reports poll.start poll.day poll.sessions

/-- What a plan knows. -/
structure PlanKnows (journal : List (Sigma AlphaValue)) (x : DecisionInput clock)
    (cursor : SessionCursor) (claims : List SessionDecision) : Prop where
  recorded : ⟨.version x.versionId, .dsl x.definition⟩ ∈ journal
  ordered : x.sessions.Pairwise (fun s s' => s.date < s'.date)
  limit_pos : 1 ≤ x.limit
  plan : decisionPlan x = .ok (cursor, claims)

/-- **What a process knows where it is.** -/
def DeciderKnows (calendar : ExchangeCalendar clock) (cfg : AlphaConfig)
    (journal : List (Sigma AlphaValue)) : Decider clock → Prop
  | .idle => True
  | .expired _ => True
  | .listed _ _ _ pairs => ∀ q ∈ pairs, ⟨.version (cfg.versionId q.1), .dsl q.1⟩ ∈ journal
  | .polled poll => PollKnows calendar cfg journal poll
  | .planned poll x cursor claims =>
    PollKnows calendar cfg journal poll ∧ PlanKnows journal x cursor claims
  | .capturing poll claims => PollKnows calendar cfg journal poll
    ∧ ∀ c ∈ claims, ⟨.decision c.identity, c⟩ ∈ journal
  | .exposed poll claim claims => PollKnows calendar cfg journal poll
    ∧ ∀ c ∈ claim :: claims, ⟨.decision c.identity, c⟩ ∈ journal

variable {calendar : ExchangeCalendar clock} {journal journal' : List (Sigma AlphaValue)}

theorem PollKnows.mono {poll : DecisionPoll clock} (h : PollKnows calendar cfg journal poll)
    (hp : journal <+: journal') : PollKnows calendar cfg journal' poll :=
  ⟨fun q hq => hp.subset (h.recorded q hq), h.reports⟩

/-- What a process knows stays true. -/
theorem DeciderKnows.mono {p : Decider clock} (h : DeciderKnows calendar cfg journal p)
    (hp : journal <+: journal') : DeciderKnows calendar cfg journal' p := by
  cases p with
  | idle => exact trivial
  | expired now => exact trivial
  | listed policy now generation pairs => exact fun q hq => hp.subset (h q hq)
  | polled poll => exact PollKnows.mono h hp
  | planned poll x cursor claims =>
    exact ⟨h.1.mono hp, { h.2 with recorded := hp.subset h.2.recorded }⟩
  | capturing poll claims => exact ⟨h.1.mono hp, fun c hc => hp.subset (h.2 c hc)⟩
  | exposed poll claim claims => exact ⟨h.1.mono hp, fun c hc => hp.subset (h.2 c hc)⟩

/-- The pairs of a poll are of recorded versions. -/
theorem recorded_of_snapshot (hI : DecisionInv cfg db) {now : Time} {snapshot : RegistrySnapshot}
    (h : db.snapshot cfg now = .ok snapshot) (policy : SessionDecisionConfig) :
    ∀ q ∈ policy.pairs snapshot, ⟨.version (cfg.versionId q.1), .dsl q.1⟩ ∈ db.store.journal := by
  intro q hq
  obtain ⟨d, hd, hq⟩ := List.mem_flatMap.mp hq
  obtain ⟨symbol, -, rfl⟩ := List.mem_map.mp hq
  have hin := (List.mem_filter.mp hd).1
  unfold AlphaDb.snapshot at h
  obtain ⟨active, ha, h⟩ := except_bind_eq_ok.mp h
  obtain ⟨shadow, hs, h⟩ := except_bind_eq_ok.mp h
  obtain ⟨probe, -, h⟩ := except_bind_eq_ok.mp h
  cases h
  have recorded : ∀ {vs : List String} {ds : List VersionDocument}, db.documents vs = .ok ds →
      .dsl d ∈ ds → ⟨.version (cfg.versionId d), .dsl d⟩ ∈ db.store.journal := by
    intro vs ds hds hd
    obtain ⟨v, -, hget⟩ := mem_documents hds hd
    obtain rfl := hI.version_id hget
    exact hI.faithful.mem_of_get hget
  rcases List.mem_append.mp hin with hin | hin
  · exact recorded ha (mem_formulas.mp hin)
  · exact recorded hs (mem_formulas.mp hin)

/-- **One action**: the invariant is kept, the journal only grows, and the
process knows what it should. -/
theorem DecisionAct.holds {t marks : List Empty} {p p' : Decider clock}
    (h : DecisionAct calendar cfg db t p marks db' p') (hI : DecisionInv cfg db)
    (hp : DeciderKnows calendar cfg db.store.journal p) :
    DecisionStep cfg db db' ∧ DeciderKnows calendar cfg db'.store.journal p' := by
  cases h with
  | register definition => exact ⟨register_step hI definition, trivial⟩
  | recordCatalog definition => exact ⟨recordCatalog_step hI definition, trivial⟩
  | other k v hk => exact ⟨.of_appends hI ((Appends.refl _).append k v hk), trivial⟩
  | rebuild =>
    unfold AlphaDb.rebuild
    rw [Projections.rebuild_eq hI.faithful]
    exact ⟨.refl hI, trivial⟩
  | expire now h => exact ⟨(expireSessionDecisions_step hI h).1, trivial⟩
  | list policy readAt h hc => exact ⟨.refl hI, recorded_of_snapshot hI h policy⟩
  | poll day sessions hd hr => exact ⟨.refl hI, hp, hr⟩
  | @plan _ poll cursor claims pairs definition symbol claimIds hpairs hr h =>
    have hin : (definition, symbol) ∈ poll.pairs := by
      rw [hpairs]
      exact List.mem_cons_self ..
    refine ⟨.refl hI, ⟨fun q hq => hp.recorded q ?_, hp.reports⟩,
      ⟨hp.recorded _ hin, hp.reports.ordered, hr, h⟩⟩
    rw [hpairs]
    exact List.mem_cons_of_mem _ hq
  | @commit _ _ poll x cursor claims accepted h =>
    rcases planSessionDecisions_ok hI h with ⟨rfl, rfl⟩ | ⟨noted, -, hstep, -, -, hacc, rfl⟩
    · exact ⟨.refl hI, ⟨hp.1.recorded, hp.1.reports⟩, fun c hc => by cases hc⟩
    · have hstep' : DecisionStep cfg db (if cursorMoves x.previous cursor claims then
          noted.append (.cursor x.versionId x.symbol) cursor else noted) := by
        split
        · exact hstep.append _ _ ⟨x.definition, hstep.grows.subset hp.2.recorded⟩ (by simp)
            (by simp)
        · exact hstep
      refine ⟨hstep', ⟨fun q hq => hstep'.grows.subset (hp.1.recorded q hq), hp.1.reports⟩,
        fun c hc => ?_⟩
      have hin := hacc c (List.mem_filter.mp hc).1
      split
      · exact mem_journal_append.mpr (Or.inl hin)
      · exact hin
  | expose h =>
    have hstep : DecisionStep cfg db db' := .of_appends hI (excludeObservedInterval_appends h)
    exact ⟨hstep, hp.1.mono hstep.grows, fun c hc => hstep.grows.subset (hp.2 c hc)⟩
  | finish evidence now h =>
    have hstep := (finishSessionDecision_step hI (hp.2 _ (List.mem_cons_self ..)) h).1
    exact ⟨hstep, hp.1.mono hstep.grows,
      fun c hc => hstep.grows.subset (hp.2 c (List.mem_cons_of_mem _ hc))⟩
  | captured => exact ⟨.refl hI, hp.1⟩
  | done h => exact ⟨.refl hI, trivial⟩

/-! ## What a plan accounts for -/

section

variable {x : DecisionInput clock} {policy : SessionClockPolicy} {previous : SessionCursor}
  {w : SignalBarWindow}

/-- **A plan enrols its pair, or sweeps the windows that are due.** -/
theorem decisionPlan_ok {cursor : SessionCursor} {claims : List SessionDecision}
    (h : decisionPlan x = .ok (cursor, claims)) :
    cursor.enrolledAt = cursor.checkedAt
      ∨ ∃ previous policy, x.previous = some previous ∧ previous.generation = x.generation
        ∧ x.definition.clock = some (.session policy) ∧ cursor = x.advance policy previous
        ∧ claims = x.claims policy (x.due policy previous) := by
  unfold decisionPlan at h
  split at h
  · cases h
    exact Or.inl rfl
  · rename_i previous hprev
    split at h
    · cases h
      exact Or.inl rfl
    · rename_i hgen
      simp only [refuse_bind_eq_ok] at h
      obtain ⟨-, -, h⟩ := h
      split at h
      · rename_i policy hclock
        cases h
        exact Or.inr ⟨previous, policy, hprev, not_ne_iff.mp hgen, hclock, rfl, rfl⟩
      · cases h

theorem exists_mem_claims {due : List SignalBarWindow} (h : w ∈ due.take x.limit) :
    ∃ c ∈ x.claims policy due, c.identity = x.identity w := by
  obtain ⟨i, hi, rfl⟩ := List.getElem_of_mem h
  refine ⟨_, List.mem_map_of_mem (List.mk_mem_zipIdx_iff_getElem?.mpr
    (List.getElem?_eq_getElem hi)), rfl⟩

/-- A cursor that is written has claims, or another calendar or gap. -/
theorem moves_of_cursorMoves (hgen : previous.generation = x.generation)
    (h : cursorMoves (some previous) (x.advance policy previous)
      (x.claims policy (x.due policy previous)) = true) :
    x.due policy previous ≠ [] ∨ x.calendar ≠ previous.calendar
      ∨ x.gap previous ≠ previous.gap := by
  simp only [cursorMoves, Bool.or_eq_true, Bool.not_eq_true', decide_eq_true_eq] at h
  rcases h with h | hg | hc
  · refine Or.inl fun hdue => ?_
    rw [hdue] at h
    simp [DecisionInput.claims] at h
  · exact absurd hgen.symm hg
  · exact Or.inr hc

/-- **A plan that overlooks nothing accounts for every window it passes**: the
window lies in the gap it records, or it is decided on. -/
theorem advance_accounts (hordered : x.sessions.Pairwise (fun s s' => s.date < s'.date))
    (hpos : 1 ≤ x.limit) (hwindow : calendar.Window x.definition.timeframe w)
    (hclock : x.definition.clock = some (.session policy)) (hprev : x.previous = some previous)
    (hgen : previous.generation = x.generation)
    (hmoves : x.due policy previous ≠ [] ∨ x.calendar ≠ previous.calendar
      ∨ x.gap previous ≠ previous.gap)
    (hno : ¬ Overlooked calendar x policy previous w)
    (hafter : previous.checkedAt < policy.availableAt w)
    (hle : policy.availableAt w ≤ (x.advance policy previous).checkedAt) :
    (∃ g, x.gap previous = some g ∧ g.startAt ≤ policy.availableAt w
        ∧ policy.availableAt w ≤ g.endAt)
      ∨ ∃ c ∈ x.claims policy (x.due policy previous), c.identity = x.identity w := by
  rcases le_or_gt (policy.availableAt w) x.floor with hfloor | hfloor
  · refine Or.inl ⟨⟨previous.checkedAt, x.floor, "outside_calendar_horizon"⟩, ?_, hafter.le, hfloor⟩
    exact if_pos (hafter.trans_le hfloor)
  · have hsince : x.since previous < policy.availableAt w := max_lt hafter hfloor
    have hdue : ∀ u ∈ x.due policy previous, policy.availableAt u ≤ x.now :=
      fun u hu => (Sweep.mem_due.mp hu).2.2
    obtain ⟨hnow, hwithin⟩ := Sweep.of_le_frontier hpos hdue hle
    by_cases hin : w ∈ windowsOf x.sessions x.definition.timeframe
    · refine Or.inr (exists_mem_claims (Sweep.mem_take_of_le_frontier ?_ hpos
        (Sweep.mem_due.mpr ⟨hin, hsince, hnow⟩) hle))
      refine Sweep.due_pairwise ((windowsOf_pairwise hordered _).imp fun huv => ?_)
      exact add_lt_add_left huv _
    · exact absurd ⟨hclock, hprev, hgen, hmoves, hwindow, hin, hsince, hnow, hwithin⟩ hno

end

/-! ## Coverage -/

theorem Accounted.mono {v symbol : String} {policy : SessionClockPolicy} {w : SignalBarWindow}
    (h : Accounted db v symbol policy w) (hf : db.store.Faithful) (hs : DecisionStep cfg db db') :
    Accounted db' v symbol policy w := by
  rcases h with ⟨d, hd⟩ | ⟨c, g, hc, hg⟩
  · obtain ⟨d', hd', -⟩ := hs.decision hf hd
    exact Or.inl ⟨d', hd'⟩
  · exact Or.inr ⟨c, g, hs.grows.subset hc, hg⟩

/-- A version with a cursor has its record. -/
theorem DecisionLedger.recorded (h : DecisionLedger cfg db) {v symbol : String}
    {cursor : SessionCursor} (hg : db.get (.cursor v symbol) = some cursor) :
    ∃ definition, ⟨.version v, .dsl definition⟩ ∈ db.store.journal := by
  obtain ⟨past, rest, heq⟩ := List.append_of_mem (h.faithful.mem_of_get hg)
  have hrule : DecisionRule cfg past ⟨.cursor v symbol, cursor⟩ := h.justified past _ rest heq
  obtain ⟨definition, hd⟩ := hrule
  refine ⟨definition, ?_⟩
  rw [heq]
  exact List.mem_append_left _ hd

/-- A cursor that stays where it was has nothing more to account for. -/
theorem Covered.kept (h : Covered calendar db) (hI : DecisionInv cfg db)
    (hs : DecisionStep cfg db db') {v symbol : String} {cursor : SessionCursor}
    {definition : AlphaDefinition} {policy : SessionClockPolicy} {w : SignalBarWindow}
    (hcur : db.get (.cursor v symbol) = some cursor)
    (hver : db'.get (.version v) = some (.dsl definition))
    (hclock : definition.clock = some (.session policy))
    (hw : calendar.Window definition.timeframe w)
    (hafter : cursor.enrolledAt < policy.availableAt w)
    (hle : policy.availableAt w ≤ cursor.checkedAt) : Accounted db' v symbol policy w := by
  obtain ⟨definition', hd⟩ := hI.toDecisionLedger.recorded hcur
  have hsame := hs.inv.version (hs.grows.subset hd)
  rw [hver] at hsame
  cases hsame
  exact (h v symbol cursor definition policy w hcur (hI.version hd) hclock hw hafter
    hle).mono hI.faithful hs

/-- **A step that writes no cursor keeps the coverage.** -/
theorem Covered.of_cursors (h : Covered calendar db) (hI : DecisionInv cfg db)
    (hs : DecisionStep cfg db db')
    (hc : ∀ v s, db'.get (.cursor v s) = db.get (.cursor v s)) : Covered calendar db' := by
  intro v symbol cursor definition policy w hcur hver hclock hw hafter hle
  rw [hc] at hcur
  exact h.kept hI hs hcur hver hclock hw hafter hle

/-- **An attentive commit keeps the coverage.** -/
theorem Covered.commit (h : Covered calendar db) (hI : DecisionInv cfg db)
    {x : DecisionInput clock} {cursor : SessionCursor} {claims accepted : List SessionDecision}
    (hk : PlanKnows db.store.journal x cursor claims)
    (hno : db.get (.cursor x.versionId x.symbol) = x.previous →
      ∀ policy previous w, ¬ Overlooked calendar x policy previous w)
    (hs : DecisionStep cfg db db')
    (hc : db.planSessionDecisions x.versionId x.symbol x.previous cursor claims
      = .ok (db', accepted)) : Covered calendar db' := by
  rcases planSessionDecisions_ok hI hc with ⟨rfl, -⟩ | ⟨noted, hcas, hstep, hother, hall, -, rfl⟩
  · exact h
  · have hnoted : Covered calendar noted :=
      h.of_cursors hI hstep (fun v s => hother _ (by simp) (by simp))
    split
    · rename_i hmoves
      rw [if_pos hmoves] at hs
      intro v symbol c definition policy w hcur hver hclock hw hafter hle
      by_cases hkey : (.cursor v symbol : AlphaKey) = .cursor x.versionId x.symbol
      · cases hkey
        rw [get_append_self] at hcur
        cases hcur
        have hdef := hs.inv.version (hs.grows.subset hk.recorded)
        rw [hver] at hdef
        cases hdef
        rcases decisionPlan_ok hk.plan with
          heq | ⟨previous, policy', hprev, hgen, hclock', rfl, rfl⟩
        · exact absurd (hafter.trans_le hle) (heq ▸ lt_irrefl _)
        · rw [hclock] at hclock'
          cases hclock'
          rw [hprev] at hmoves
          rcases le_or_gt (policy.availableAt w) previous.checkedAt with hold | hnew
          · -- the old cursor had passed the window
            exact h.kept hI hs (hcas.trans hprev) hver hclock hw hafter hold
          · rcases advance_accounts hk.ordered hk.limit_pos hw hclock hprev hgen
              (moves_of_cursorMoves hgen hmoves) (hno hcas policy previous w) hnew hle with
              ⟨g, hg, hbounds⟩ | ⟨claim, hin, hid⟩
            · exact Or.inr ⟨_, g, mem_journal_append.mpr (Or.inr rfl), hg, hbounds⟩
            · refine Or.inl (Option.isSome_iff_exists.mp ?_)
              have hsome := hall claim hin
              rw [hid] at hsome
              rw [get_append_ne _ _ (by simp)]
              exact hsome
      · rw [get_append_ne _ _ hkey] at hcur
        exact hnoted.kept hstep.inv ⟨hs.inv, prefix_append _ _ _⟩ hcur hver hclock hw hafter hle
    · exact hnoted

/-- **Only a commit writes a cursor.** -/
theorem DecisionAct.covered {t marks : List Empty} {p p' : Decider clock}
    (h : DecisionAct calendar cfg db t p marks db' p') (hI : DecisionInv cfg db)
    (hp : DeciderKnows calendar cfg db.store.journal p) (hno : attentive calendar db t p)
    (hcov : Covered calendar db) : Covered calendar db' := by
  have hs := (h.holds hI hp).1
  cases h with
  | commit h => exact hcov.commit hI hp.2 hno hs h
  | register definition =>
    refine hcov.of_cursors hI hs (fun v s => ?_)
    unfold AlphaDb.register
    split
    · rfl
    · rw [get_append_ne _ _ (by simp)]
  | recordCatalog definition =>
    exact hcov.of_cursors hI hs (fun v s => recordCatalog_get db definition (by simp))
  | other k v hk =>
    refine hcov.of_cursors hI hs (fun v' s => get_append_ne _ _ ?_)
    rintro rfl
    cases hk
  | rebuild =>
    unfold AlphaDb.rebuild
    rw [Projections.rebuild_eq hI.faithful]
    exact hcov
  | expire now h =>
    exact hcov.of_cursors hI hs
      (fun v s => (expireSessionDecisions_step hI h).2 _ (by simp) (by simp))
  | list policy readAt h hc => exact hcov
  | poll day sessions hd hr => exact hcov
  | plan definition symbol claimIds hpairs hr h => exact hcov
  | expose h =>
    exact hcov.of_cursors hI hs (fun v s =>
      (excludeObservedInterval_appends h).get_eq (by simp [AlphaKey.ofSessions]))
  | finish evidence now h =>
    exact hcov.of_cursors hI hs
      (finishSessionDecision_step hI (hp.2 _ (List.mem_cons_self ..)) h).2
  | captured => exact hcov
  | done h => exact hcov

/-! ## Along a run -/

/-- The assertion of the decision program. -/
def deciding (calendar : ExchangeCalendar clock) (cfg : AlphaConfig) :
    Program.Assertion AlphaDb (Decider clock) Empty where
  store := fun db _ => DecisionInv cfg db
  here := fun db _ p => DeciderKnows calendar cfg db.store.journal p

theorem decision_holds {w : World AlphaDb (Decider clock) Empty}
    (h : (decisionProgram calendar cfg).Reachable w) : (deciding calendar cfg).Holds w := by
  refine Program.holds (P := decisionProgram calendar cfg) (deciding calendar cfg) ?_
    (fun _ _ _ => trivial) (fun _ => ⟨trivial, trivial⟩) ?_ h
  · refine ⟨⟨Projections.faithful_empty, Projections.justified_nil⟩, List.nodup_nil, fun id t => ?_⟩
    constructor
    · intro hin
      cases hin
    · rintro ⟨d, hd, -⟩
      cases hd
  · intro w i marks d p _ hA ha
    obtain ⟨hs, hp'⟩ := DecisionAct.holds ha hA.store (hA.here i)
    exact ⟨hs.inv, hp', fun q hq _ _ => ⟨hq.mono hs.grows, trivial, trivial⟩⟩

/-- The journal only grows along a run. -/
theorem decision_journal {w w' : World AlphaDb (Decider clock) Empty}
    (h : (decisionProgram calendar cfg).Reachable w)
    (hr : (decisionProgram calendar cfg).Run w w') :
    w.store.store.journal <+: w'.store.store.journal := by
  refine Program.store_rel (P := decisionProgram calendar cfg)
    (R := fun d d' => d.store.journal <+: d'.store.journal) (fun _ => List.prefix_rfl)
    (fun _ _ _ hab hbc => hab.trans hbc) ?_ h hr
  intro w i marks d p hw ha
  have hA := decision_holds hw
  exact (DecisionAct.holds ha hA.store (hA.here i)).1.grows

/-- **A run of attentive polls covers every window.** -/
theorem covered_holds {w : World AlphaDb (Decider clock) Empty}
    (h : ((decisionProgram calendar cfg).guard (attentive calendar)).Reachable w) :
    Covered calendar w.store := by
  refine Program.store_invariant (P := (decisionProgram calendar cfg).guard (attentive calendar))
    (J := fun db _ => Covered calendar db) ?_ ?_ h
  · intro v symbol cursor definition policy w hcur
    cases hcur
  · intro w i marks d p hw hcov ha
    have hA := decision_holds hw.of_guard
    exact ha.1.covered hA.store (hA.here i) ha.2 hcov

end

/-- **Every window is decided on once, and none is dropped by an attentive
poll.** In every interleaving of any number of polls, captures, expiries and
crashes with the other writes:

* a decision is about its own window, and every earlier decision on that window
  is a claim, made under the same claim id, that it closes – so a window is
  claimed at most once, and its status leaves `claimed` at most once;
* the pending decisions are exactly the claimed ones;
* along a run a decision stays as it is, or its claim is closed;
* and where no commit so far overlooked a window, every window of the exchange's
  calendar that became available after a pair was enrolled and by the time its
  cursor has reached was decided on, or lies within a journaled gap. -/
theorem windows_accounted (calendar : ExchangeCalendar clock) (cfg : AlphaConfig)
    {w : World AlphaDb (Decider clock) Empty}
    (h : (decisionProgram calendar cfg).Reachable w) :
    (∀ past rest id (d : SessionDecision),
        w.store.store.journal = past ++ ⟨.decision id, d⟩ :: rest →
        d.identity = id ∧ ∀ d' : SessionDecision, ⟨.decision id, d'⟩ ∈ past → d.Closes d')
      ∧ PendingExact w.store w.store.pending
      ∧ (∀ w', (decisionProgram calendar cfg).Run w w' → ∀ id d,
        w.store.get (.decision id) = some d →
        ∃ d', w'.store.get (.decision id) = some d' ∧ (d' = d ∨ d'.Closes d))
      ∧ (((decisionProgram calendar cfg).guard (attentive calendar)).Reachable w →
        Covered calendar w.store) := by
  have hI : DecisionInv cfg w.store := (decision_holds h).store
  refine ⟨fun past rest id d heq => hI.justified past _ rest heq, hI.pending,
    fun w' hr id d hd => ?_, covered_holds⟩
  have hs : DecisionStep cfg w.store w'.store :=
    ⟨(decision_holds (h.run hr)).store, decision_journal h hr⟩
  exact hs.decision hI.faithful hd

/-! ### A window that is decided on, and one that is dropped -/

/-- Days of twenty-four hours. -/
def sampleDays : DayClock where
  midnight day := day * 86400000000
  increasing day := by
    show day * 86400000000 < (day + 1) * 86400000000
    omega

/-- A session from 9:30 to 16:00. -/
def sampleSession : TradingSession sampleDays where
  date := 0
  openAt := 34200000000
  closeAt := 57600000000
  ordered := by decide
  opens := ⟨by decide, by decide⟩
  closes := ⟨by decide, by decide⟩
  openAligned := by decide
  closeAligned := by decide

/-- A calendar of that session alone. -/
def sampleCalendar : ExchangeCalendar sampleDays where
  session day := if day = 0 then some sampleSession else none
  dated day s h := by
    split at h
    · cases h
      exact Eq.symm ‹_›
    · cases h

/-- Twelve hours after the close, for one hour. -/
def sampleClockPolicy : SessionClockPolicy where
  decisionDelaySeconds := 43200
  maxLatenessSeconds := 3600
  delay_le := by decide
  lateness_pos := by decide
  lateness_le := by decide

def sampleSessionAlpha : AlphaDefinition :=
  { sampleDefinition with clock := some (.session sampleClockPolicy) }

def sampleDecisionConfig : SessionDecisionConfig where
  feed := "alpaca:iex"
  symbols := ["SPY"]
  historyDays := 2
  maxCandidates := 1
  maxDecisionsPerPoll := 1
  history_ge := by decide
  candidates_pos := by decide
  decisions_pos := by decide

/-- The definition is in shadow. -/
def sampleListed : AlphaDb :=
  (AlphaDb.empty.append (.version "momentum/v1") (.dsl sampleSessionAlpha)).append .registry
    ⟨1, [], ["momentum/v1"], []⟩

/-- Its cursor after a poll at 20:00 on the day of the session. -/
def sampleEnrolment : SessionCursor :=
  ⟨1, 72000000000, [sampleSession.contract], 72000000000, none⟩

def sampleEnrolled : AlphaDb :=
  sampleListed.append (.cursor "momentum/v1" "SPY") sampleEnrolment

/-- The poll at a time of a day, with the calendar of that day and the day
before it. -/
def samplePoll (now : Time) (day : ℤ) (sessions : List (TradingSession sampleDays)) :
    DecisionPoll sampleDays :=
  ⟨now, 1, day - 1, day, sessions, 1, [(sampleSessionAlpha, "SPY")]⟩

def sampleInput (now : Time) (day : ℤ) (sessions : List (TradingSession sampleDays))
    (previous : Option SessionCursor) : DecisionInput sampleDays :=
  (samplePoll now day sessions).input sampleAlphaConfig sampleSessionAlpha "SPY" previous id

theorem sampleListed_snapshot : sampleListed.snapshot sampleAlphaConfig 0
    = .ok ⟨1, [], [sampleSessionAlpha], [], []⟩ := rfl

theorem sampleEnrolled_snapshot : sampleEnrolled.snapshot sampleAlphaConfig 0
    = .ok ⟨1, [], [sampleSessionAlpha], [], []⟩ := rfl

theorem sampleEnrolment_plan :
    decisionPlan (sampleInput 72000000000 0 [sampleSession] none) = .ok (sampleEnrolment, []) := rfl

theorem sampleEnrolled_ok :
    sampleListed.planSessionDecisions "momentum/v1" "SPY" none sampleEnrolment []
      = .ok (sampleEnrolled, []) := rfl

theorem sample_reports (day : ℤ) (h₀ : day - 1 ≤ 0) (h₁ : 0 ≤ day) :
    sampleCalendar.Reports (day - (2 - 1)) day [sampleSession] where
  genuine s hs := by
    rw [List.mem_singleton.mp hs]
    rfl
  within s hs := by
    rw [List.mem_singleton.mp hs]
    exact ⟨show day - 1 ≤ 0 from h₀, h₁⟩
  ordered := List.pairwise_singleton _ _

/-- The definition is registered, put in shadow, and enrolled by a poll. -/
theorem sampleEnrolled_reachable :
    ((decisionProgram sampleCalendar sampleAlphaConfig).guard
      (attentive sampleCalendar)).Reachable ⟨sampleEnrolled, fun _ => .idle, []⟩ := by
  have h₀ : ((decisionProgram sampleCalendar sampleAlphaConfig).guard
      (attentive sampleCalendar)).Reachable ⟨.empty, fun _ => .idle, []⟩ :=
    TransitionSystem.Reachable.of_init rfl
  have h₁ := Program.Reachable.act (i := 0) h₀ ⟨.register sampleSessionAlpha, trivial⟩
  have h₂ := Program.Reachable.act (i := 0) h₁
    ⟨.other .registry ⟨1, [], ["momentum/v1"], []⟩ rfl, trivial⟩
  have h₃ := Program.Reachable.act (i := 0) h₂
    ⟨.expire 72000000000 (show _ = Except.ok sampleListed from rfl), trivial⟩
  have h₄ := Program.Reachable.act (i := 0) h₃
    ⟨.list sampleDecisionConfig 0 sampleListed_snapshot (by decide), trivial⟩
  have h₅ := Program.Reachable.act (i := 0) h₄
    ⟨.poll 0 [sampleSession] (show sampleDays.On 0 72000000000 from ⟨by decide, by decide⟩)
      (sample_reports 0 (by decide) (by decide)), trivial⟩
  have h₆ := Program.Reachable.act (i := 0) h₅
    ⟨.plan sampleSessionAlpha "SPY" id rfl (by decide) sampleEnrolment_plan, trivial⟩
  have h₇ := Program.Reachable.act (i := 0) h₆
    ⟨.commit sampleEnrolled_ok, fun _ policy previous w ho => by cases ho.continues⟩
  have h₈ := h₇.tail (Or.inr ⟨0, rfl⟩)
  have hidle : ((decisionProgram sampleCalendar sampleAlphaConfig).guard
      (attentive sampleCalendar)).idle = .idle := rfl
  simpa [World.acted, World.crashed, hidle] using h₈

/-- The decision on the session's window, made by a poll half an hour after it
became available. -/
def sampleDecision : SessionDecision where
  identity := ⟨"momentum/v1", "SPY", 57600000000⟩
  claimId := 0
  status := .claimed
  timeframe := .d1
  feed := "alpaca:iex"
  openedAt := 34200000000
  availableAt := 100800000000
  expiresAt := 104400000000
  claimedAt := 102600000000
  registryGeneration := 1
  finishedAt := none
  committedAt := none
  reason := none

def sampleAdvance : SessionCursor :=
  ⟨1, 102600000000, [sampleSession.contract], 72000000000, none⟩

def sampleDecided : AlphaDb :=
  ((sampleEnrolled.append (.decision ⟨"momentum/v1", "SPY", 57600000000⟩) sampleDecision).append
    .pending [(⟨"momentum/v1", "SPY", 57600000000⟩, 104400000000)]).append
    (.cursor "momentum/v1" "SPY") sampleAdvance

theorem sampleAdvance_plan :
    decisionPlan (sampleInput 102600000000 1 [sampleSession] (some sampleEnrolment))
      = .ok (sampleAdvance, [sampleDecision]) := rfl

theorem sampleDecided_ok :
    sampleEnrolled.planSessionDecisions "momentum/v1" "SPY" (some sampleEnrolment) sampleAdvance
      [sampleDecision] = .ok (sampleDecided, [sampleDecision]) := rfl

/-- The window is decided on by a poll that is handed its session. -/
theorem sampleDecided_reachable :
    ∃ w, ((decisionProgram sampleCalendar sampleAlphaConfig).guard
      (attentive sampleCalendar)).Reachable w ∧ w.store = sampleDecided := by
  have h₁ := Program.Reachable.act (i := 0) sampleEnrolled_reachable
    ⟨.expire 102600000000 (show _ = Except.ok sampleEnrolled from rfl), trivial⟩
  have h₂ := Program.Reachable.act (i := 0) h₁
    ⟨.list sampleDecisionConfig 0 sampleEnrolled_snapshot (by decide), trivial⟩
  have h₃ := Program.Reachable.act (i := 0) h₂
    ⟨.poll 1 [sampleSession] (show sampleDays.On 1 102600000000 from ⟨by decide, by decide⟩)
      (sample_reports 1 (by decide) (by decide)), trivial⟩
  have h₄ := Program.Reachable.act (i := 0) h₃
    ⟨.plan sampleSessionAlpha "SPY" id rfl (by decide) sampleAdvance_plan, trivial⟩
  refine ⟨_, Program.Reachable.act (i := 0) h₄ ⟨.commit sampleDecided_ok, ?_⟩, rfl⟩
  -- the calendar has no other session
  intro _ policy previous w ho
  obtain ⟨day, s, hs, hw⟩ := ho.window
  unfold sampleCalendar at hs
  dsimp only at hs
  split at hs
  · cases hs
    exact ho.unreported (List.mem_flatMap.mpr ⟨sampleSession, List.mem_singleton.mpr rfl, hw⟩)
  · cases hs

theorem windows_accounted_sample :
    ∃ w, (decisionProgram sampleCalendar sampleAlphaConfig).Reachable w
      ∧ w.store.get (.decision ⟨"momentum/v1", "SPY", 57600000000⟩) = some sampleDecision
      ∧ PendingExact w.store w.store.pending ∧ Covered sampleCalendar w.store := by
  obtain ⟨w, hw, hs⟩ := sampleDecided_reachable
  obtain ⟨-, hp, -, hc⟩ := windows_accounted sampleCalendar sampleAlphaConfig hw.of_guard
  refine ⟨w, hw.of_guard, ?_, hp, hc hw⟩
  rw [hs]
  rfl

/-- The cursor after a poll at 5:00 two days later, whose calendar starts after
the session. -/
def sampleLate : SessionCursor :=
  ⟨1, 190800000000, [], 72000000000,
    some ⟨72000000000, 86400000000, "outside_calendar_horizon"⟩⟩

def sampleDropped : AlphaDb :=
  sampleEnrolled.append (.cursor "momentum/v1" "SPY") sampleLate

theorem sampleLate_plan :
    decisionPlan (sampleInput 190800000000 2 [] (some sampleEnrolment)) = .ok (sampleLate, []) :=
  rfl

theorem sampleDropped_ok :
    sampleEnrolled.planSessionDecisions "momentum/v1" "SPY" (some sampleEnrolment) sampleLate []
      = .ok (sampleDropped, []) := rfl

theorem sampleDropped_reachable :
    ∃ w, (decisionProgram sampleCalendar sampleAlphaConfig).Reachable w
      ∧ w.store = sampleDropped := by
  have h₁ := Program.Reachable.act (i := 0) sampleEnrolled_reachable.of_guard
    (.expire 190800000000 (show _ = Except.ok sampleEnrolled from rfl))
  have h₂ := Program.Reachable.act (i := 0) h₁
    (.list sampleDecisionConfig 0 sampleEnrolled_snapshot (by decide))
  have h₃ := Program.Reachable.act (i := 0) h₂
    (.poll 2 [] (show sampleDays.On 2 190800000000 from ⟨by decide, by decide⟩)
      ⟨List.forall_mem_nil _, List.forall_mem_nil _, List.Pairwise.nil⟩)
  have h₄ := Program.Reachable.act (i := 0) h₃
    (.plan sampleSessionAlpha "SPY" id rfl (by decide) sampleLate_plan)
  exact ⟨_, Program.Reachable.act (i := 0) h₄ (.commit sampleDropped_ok), rfl⟩

/-- **A window is dropped.** A pair is enrolled at 20:00 on the day of a session,
whose window becomes available at 4:00 the next day, twelve hours after its
close. The next poll, at 5:00 two days later, is handed the calendar from the
midnight after the session on: it records the gap up to that midnight and moves
the cursor past the window, which was not decided on and lies in no gap. -/
theorem window_dropped :
    ∃ w, (decisionProgram sampleCalendar sampleAlphaConfig).Reachable w
      ∧ ∃ cursor window, w.store.get (.cursor "momentum/v1" "SPY") = some cursor
        ∧ w.store.get (.version "momentum/v1") = some (.dsl sampleSessionAlpha)
        ∧ sampleCalendar.Window sampleSessionAlpha.timeframe window
        ∧ cursor.enrolledAt < sampleClockPolicy.availableAt window
        ∧ sampleClockPolicy.availableAt window ≤ cursor.checkedAt
        ∧ ¬ Accounted w.store "momentum/v1" "SPY" sampleClockPolicy window := by
  obtain ⟨w, hw, hs⟩ := sampleDropped_reachable
  refine ⟨w, hw, sampleLate, ⟨34200000000, 57600000000⟩, ?_⟩
  rw [hs]
  refine ⟨rfl, rfl, ⟨0, sampleSession, rfl, by decide⟩, by decide, by decide, ?_⟩
  rintro (⟨d, hd⟩ | ⟨c, g, hc, hg, -, hle⟩)
  · cases hd
  · rcases mem_journal_append.mp hc with hc | hc
    · rcases mem_journal_append.mp hc with hc | hc
      · rcases mem_journal_append.mp hc with hc | hc
        · rcases mem_journal_append.mp hc with hc | hc
          · cases hc
          · cases hc
        · cases hc
      · cases hc
        cases hg
    · cases hc
      cases hg
      exact absurd hle (by decide)

end AgenticTrader
