import AgenticTrader.Library.Transition
import AgenticTrader.Storage.Operations

/-!
# Incident notices

Whatever is observed of a component – in any order of readiness, muting, alert
windows and deliveries, with stale observations in between and the projections
rebuilt at any time – the notices of an incident read like a story: it opened,
it is still open, it is over. An opening is told once and not before the
incident has failed for long enough, and nothing is told of an incident whose
opening was not.

The invariant says what the notices queued for the incident of a row are in
each of its phases (`IncidentState.Fits`). That the journal replays to the
projections is what makes a rebuild safe.
-/

namespace AgenticTrader

/-! ## The story of an incident -/

/-- **An announced incident**: its opening and any number of reminders. -/
def Announced (notices : List NoticeKind) : Prop :=
  ∃ k, notices = .opened :: List.replicate k .reminder

/-- **The notices of an incident are well formed**: none, or its opening, any
number of reminders and at most one recovery. -/
def NoticesWellFormed (notices : List NoticeKind) : Prop :=
  notices = [] ∨ ∃ told, Announced told ∧ (notices = told ∨ notices = told ++ [.recovered])

theorem Announced.opened : Announced [.opened] :=
  ⟨0, rfl⟩

theorem Announced.reminder {notices : List NoticeKind} (h : Announced notices) :
    Announced (notices ++ [.reminder]) := by
  obtain ⟨k, rfl⟩ := h
  exact ⟨k + 1, by simp [List.replicate_succ']⟩

theorem Announced.wellFormed {notices : List NoticeKind} (h : Announced notices) :
    NoticesWellFormed notices :=
  Or.inr ⟨notices, h, Or.inl rfl⟩

theorem Announced.recovered {notices : List NoticeKind} (h : Announced notices) :
    NoticesWellFormed (notices ++ [.recovered]) :=
  Or.inr ⟨notices, h, Or.inr rfl⟩

/-- What has been told of an incident that is not over. -/
def Told (s : IncidentState) (notices : List NoticeKind) : Prop :=
  if s.lastNotifiedAt = none then notices = [] else Announced notices

theorem Told.wellFormed {s : IncidentState} {notices : List NoticeKind} (h : Told s notices) :
    NoticesWellFormed notices := by
  unfold Told at h
  split at h
  · exact Or.inl h
  · exact h.wellFormed

namespace IncidentState

/-- **A state that an incident can be in**: one that is not over has an
identifier and a beginning, and one that is pending was not announced. -/
structure Valid (s : IncidentState) : Prop where
  named : s.phase ≠ .healthy → s.incidentId.isSome ∧ s.failedSince.isSome
  unannounced : s.phase = .pending → s.lastNotifiedAt = none

/-- **The notices queued for an incident fit its state.** -/
def Fits (s : IncidentState) (notices : List NoticeKind) : Prop :=
  match s.phase with
  | .healthy => NoticesWellFormed notices
  | _ => Told s notices

theorem Fits.wellFormed {s : IncidentState} {notices : List NoticeKind} (h : s.Fits notices) :
    NoticesWellFormed notices := by
  unfold Fits at h
  split at h
  · exact h
  · exact Told.wellFormed h

theorem Fits.told {s : IncidentState} {notices : List NoticeKind} (h : s.Fits notices)
    (hs : s.phase ≠ .healthy) : Told s notices := by
  unfold Fits at h
  split at h
  · contradiction
  · exact h

theorem Fits.of_told {s : IncidentState} {notices : List NoticeKind} (h : Told s notices) :
    s.Fits notices := by
  unfold Fits
  split
  · exact h.wellFormed
  · exact h

end IncidentState

/-! ## One observation -/

/-- **An incident moved on**: it is the same incident, and the notice that is
sent, if there is one, comes next in its story. -/
structure Advanced (o : Observation) (s s' : IncidentState) (sent : Option NoticeKind) : Prop where
  sameIncident : s'.incidentId = s.incidentId
  sameBeginning : s'.failedSince = s.failedSince
  valid : s'.Valid
  fits : ∀ notices, s.Fits notices → s'.Fits (notices ++ sent.toList)
  named : sent ≠ none → s.incidentId.isSome ∧ s.failedSince.isSome
  opened : sent = some .opened → ∃ since, s'.failedSince = some since
    ∧ o.policy.failureSeconds ≤ totalSeconds since o.observedAt

/-- **Another incident, or none**: a failure that did not last is forgotten,
and a new one gets a new identifier. -/
def Renewed (o : Observation) (uuid : Uuid) (s' : IncidentState) : Prop :=
  s' = {} ∨ s' = { phase := .pending, incidentId := some uuid, failedSince := some o.observedAt }

theorem openingDue_elapsed {failedSince observedAt : Time} {policy : OperationsConfig}
    {alertSince : Option Time} (h : openingDue failedSince observedAt policy alertSince = true) :
    policy.failureSeconds ≤ totalSeconds failedSince observedAt := by
  unfold openingDue at h
  rw [decide_eq_true_iff] at h
  refine h.trans ?_
  have hmono : ∀ {a b : Time}, a ≤ b → totalSeconds b observedAt ≤ totalSeconds a observedAt := by
    intro a b hab
    unfold totalSeconds
    have : ((observedAt - b : ℤ) : ℚ) ≤ ((observedAt - a : ℤ) : ℚ) := by
      exact_mod_cast sub_le_sub_left hab observedAt
    exact div_le_div_of_nonneg_right this (by norm_num)
  cases alertSince with
  | none => exact le_rfl
  | some alert => exact hmono (le_max_left _ _)

/-- Nothing but the time of the last notice changes when one is sent. -/
theorem announce_cases (o : Observation) (s : IncidentState) (kind : NoticeKind) :
    (∃ reason, announce o s (some kind) = (s, none, some ⟨kind, reason⟩))
      ∨ announce o s (some kind)
          = ({ s with lastNotifiedAt := some o.observedAt }, some kind, none)
        ∧ (kind = .recovered → s.lastNotifiedAt ≠ none) := by
  cases hr : withheldReason o s kind with
  | some reason => exact Or.inl ⟨reason, by simp only [announce, hr]⟩
  | none =>
    refine Or.inr ⟨by simp only [announce, hr], fun hk hl => ?_⟩
    unfold withheldReason at hr
    rw [if_pos (show kind = .recovered ∧ s.lastNotifiedAt = none from ⟨hk, hl⟩)] at hr
    split at hr
    · cases hr
    · split at hr <;> cases hr

/-- What is due of an incident that is not over. -/
structure Due (o : Observation) (s s' : IncidentState) (kind : NoticeKind) : Prop where
  same : s' = { s with phase := s'.phase }
  active : s.phase ≠ .healthy
  phase : s'.phase = if kind = .recovered then .healthy else .open
  unannounced : kind = .opened → s.lastNotifiedAt = none
  announced : kind = .reminder → s.lastNotifiedAt ≠ none
  elapsed : kind = .opened → ∃ since, s.failedSince = some since
    ∧ o.policy.failureSeconds ≤ totalSeconds since o.observedAt

/-- **What is due comes next in the story**, whether it is sent or withheld. -/
theorem Due.advanced {o : Observation} {s m : IncidentState} {kind : NoticeKind}
    (h : Due o s m kind) (hv : s.Valid) :
    Advanced o s (announce o m (some kind)).1 (announce o m (some kind)).2.1 := by
  obtain ⟨hsame, hactive, hphase, hun, han, helapsed⟩ := h
  have hnamed := hv.named hactive
  have hid : m.incidentId = s.incidentId := by rw [hsame]
  have hsince : m.failedSince = s.failedSince := by rw [hsame]
  have hlast : m.lastNotifiedAt = s.lastNotifiedAt := by rw [hsame]
  have hpending : m.phase ≠ .pending := by
    rw [hphase]
    split <;> exact fun h => by cases h
  rcases announce_cases o m kind with ⟨reason, heq⟩ | ⟨heq, hrec⟩
  · rw [heq]
    refine ⟨hid, hsince, ⟨fun _ => ?_, fun h => absurd h hpending⟩, fun notices hf => ?_,
      fun h => absurd rfl h, fun h => by cases h⟩
    · rw [hid, hsince]
      exact hnamed
    · have htold := hf.told hactive
      rw [Option.toList_none, List.append_nil]
      refine .of_told ?_
      unfold Told at htold ⊢
      rw [hlast]
      exact htold
  · rw [heq]
    refine ⟨hid, hsince, ⟨fun _ => ?_, fun h => absurd h hpending⟩, fun notices hf => ?_,
      fun _ => hnamed, fun h => ?_⟩
    · show m.incidentId.isSome ∧ m.failedSince.isSome
      rw [hid, hsince]
      exact hnamed
    · have htold := hf.told hactive
      unfold Told at htold
      have hannounced : ∀ l, Announced l →
          Told { m with lastNotifiedAt := some o.observedAt } l := fun l hl => hl
      cases kind with
      | opened =>
        rw [if_pos (hun rfl)] at htold
        rw [htold]
        exact .of_told (hannounced _ Announced.opened)
      | reminder =>
        rw [if_neg (han rfl)] at htold
        exact .of_told (hannounced _ htold.reminder)
      | recovered =>
        have hhealthy : m.phase = .healthy := hphase
        rw [if_neg (hlast ▸ hrec rfl)] at htold
        unfold IncidentState.Fits
        simp only [hhealthy]
        exact htold.recovered
    · obtain ⟨since, hs, hle⟩ := helapsed (Option.some.inj h)
      exact ⟨since, hsince.trans hs, hle⟩

/-- A change that no notice is due for. -/
theorem Advanced.silent {o : Observation} {s s' : IncidentState}
    (hid : s'.incidentId = s.incidentId) (hsince : s'.failedSince = s.failedSince)
    (hlast : s'.lastNotifiedAt = s.lastNotifiedAt) (hv : s.Valid)
    (hphase : s'.phase = s.phase ∨ s.phase ≠ .healthy ∧ s'.phase ≠ .healthy ∧ s'.phase ≠ .pending) :
    Advanced o s s' none := by
  refine ⟨hid, hsince, ⟨fun h => ?_, fun h => ?_⟩, fun notices hf => ?_, fun h => absurd rfl h,
    fun h => by cases h⟩
  · rw [hid, hsince]
    rcases hphase with hp | hp
    · exact hv.named (hp ▸ h)
    · exact hv.named hp.1
  · rcases hphase with hp | hp
    · rw [hlast]
      exact hv.unannounced (hp ▸ h)
    · exact absurd h hp.2.2
  · rw [Option.toList_none, List.append_nil]
    rcases hphase with hp | hp
    · unfold IncidentState.Fits Told at hf ⊢
      rw [hp, hlast]
      exact hf
    · have htold := hf.told hp.1
      refine .of_told ?_
      unfold Told at htold ⊢
      rw [hlast]
      exact htold

/-- An opening that the alert clock may hold back. -/
theorem opening_advanced {o : Observation} {s : IncidentState} {since : Time} (hv : s.Valid)
    (hs : s.failedSince = some since) (hp : s.phase ≠ .healthy) (hl : s.lastNotifiedAt = none) :
    Advanced o s (announce o { s with phase := .open } (openingNotice o since)).1
      (announce o { s with phase := .open } (openingNotice o since)).2.1 := by
  unfold openingNotice
  split
  · rename_i hdue
    exact Due.advanced ⟨rfl, hp, rfl, fun _ => hl, (fun h => by cases h),
      fun _ => ⟨since, hs, openingDue_elapsed hdue⟩⟩ hv
  · show Advanced o s { s with phase := .open } none
    exact .silent rfl rfl rfl hv (Or.inr ⟨hp, by simp, by simp⟩)

/-- **What readiness makes of an incident.** -/
theorem advanceReady_advanced (o : Observation) {s : IncidentState} (hv : s.Valid) :
    Advanced o s (announce o (advanceReady o s).1 (advanceReady o s).2).1
        (announce o (advanceReady o s).1 (advanceReady o s).2).2.1
      ∨ advanceReady o s = ({}, none) := by
  have hsilent : Advanced o s s none := .silent rfl rfl rfl hv (Or.inl rfl)
  unfold advanceReady
  split
  · exact Or.inr rfl
  · rename_i hp
    exact Or.inl (.silent rfl rfl rfl hv
      (Or.inr ⟨by simp [hp], by simp [announce], by simp [announce]⟩))
  · rename_i hp
    refine Or.inl ?_
    split
    · split
      · exact Due.advanced ⟨rfl, by simp [hp], rfl, (fun h => by cases h), (fun h => by cases h),
          (fun h => by cases h)⟩ hv
      · exact hsilent
    · exact hsilent
  · exact Or.inl hsilent

/-- **What a failure makes of an incident.** -/
theorem advanceFailing_advanced {o : Observation} {complete : Bool} {uuid : Uuid}
    {s : IncidentState} {m : IncidentState × Option NoticeKind} (hv : s.Valid)
    (h : advanceFailing o complete uuid s = .ok m) :
    Advanced o s (announce o m.1 m.2).1 (announce o m.1 m.2).2.1
      ∨ m = ({ phase := .pending, incidentId := some uuid, failedSince := some o.observedAt },
        none) := by
  have hsilent : Advanced o s s none := .silent rfl rfl rfl hv (Or.inl rfl)
  unfold advanceFailing at h
  split at h
  · exact Or.inr (Except.ok.inj h).symm
  · rename_i hp
    cases h
    exact Or.inl (.silent rfl rfl rfl hv
      (Or.inr ⟨by simp [hp], by simp [announce], by simp [announce]⟩))
  · rename_i hp
    refine Or.inl ?_
    split at h
    · rename_i since hs
      split at h
      · cases h
        exact opening_advanced hv hs (by simp [hp]) (hv.unannounced hp)
      · cases h
        exact hsilent
    · cases h
      exact hsilent
  · rename_i hp
    refine Or.inl ?_
    split at h
    · rename_i hl
      split at h
      · rename_i since hs
        cases h
        have hopen := opening_advanced (o := o) hv hs (by simp [hp]) hl
        rw [← hp] at hopen
        exact hopen
      · cases h
    · rename_i last hl
      split at h
      · cases h
        exact Due.advanced ⟨rfl, by simp [hp], hp, (fun h => by cases h), (fun _ => by simp [hl]),
          (fun h => by cases h)⟩ hv
      · cases h
        exact hsilent

/-- **What an observation makes of an incident.** -/
theorem advance_cases {o : Observation} {complete : Bool} {uuid : Uuid} {s s' : IncidentState}
    {sent : Option NoticeKind} {withheld : Option WithheldNotice}
    (h : advance o complete uuid s = .ok (s', sent, withheld)) (hv : s.Valid) :
    Advanced o s s' sent ∨ sent = none ∧ Renewed o uuid s' := by
  unfold advance at h
  split at h
  · have heq := Except.ok.inj h
    rcases advanceReady_advanced o hv with hadv | hreset
    · rw [heq] at hadv
      exact Or.inl hadv
    · rw [hreset] at heq
      cases heq
      exact Or.inr ⟨rfl, Or.inl rfl⟩
  · split at h
    · rename_i m hm
      have heq := Except.ok.inj h
      rcases advanceFailing_advanced hv hm with hadv | rfl
      · rw [heq] at hadv
        exact Or.inl hadv
      · cases heq
        exact Or.inr ⟨rfl, Or.inr rfl⟩
    · cases h

/-- Naming the notice that was queued changes nothing else. -/
theorem Advanced.notified {o : Observation} {s s' : IncidentState} {sent : Option NoticeKind}
    (h : Advanced o s s' sent) (id : Option Uuid) :
    Advanced o s { s' with notificationId := id } sent :=
  ⟨h.sameIncident, h.sameBeginning, ⟨h.valid.named, h.valid.unannounced⟩, h.fits, h.named,
    h.opened⟩

/-! ## One transaction -/

namespace OperationsDb

/-- The incident of a component, as a transaction reads it. -/
def stateOf (db : OperationsDb) (component : String) : IncidentState :=
  ((db.rows component).map IncidentProjection.state).getD {}

/-- **What an observation writes**: the row of the component, an event if its
incident has changed, and the notice that is sent. -/
structure Observed (db : OperationsDb) (component : String) (o : Observation) (detail : String)
    (db' : OperationsDb) (state : IncidentState) (sent : Option NoticeKind) : Prop where
  newer : ∀ r ∈ db.rows component, r.observedAt < o.observedAt
  rows : ∃ eventId,
    db'.rows = Function.update db.rows component (some ⟨o.observedAt, eventId, state⟩)
  events : (db'.events = db.events ∧ state = db.stateOf component)
    ∨ ∃ id notice withheld, db'.events
        = db.events ++ [⟨id, 1, component, o.observedAt, state, notice, withheld⟩]
  outbox : (sent = none ∧ db'.outbox = db.outbox)
    ∨ ∃ kind incident since id, sent = some kind ∧ state.incidentId = some incident
      ∧ state.failedSince = some since
      ∧ (db'.outbox = db.outbox ++ [⟨id, (incident, kind, o.observedAt),
            ⟨component, incident, kind, o.observedAt, since, detail⟩, .queued⟩]
        ∨ ∃ item ∈ db.outbox, item.dedupKey = (incident, kind, o.observedAt))
  uuids : db.uuids < db'.uuids
  advanced : (db.stateOf component).Valid → Advanced o (db.stateOf component) state sent
    ∨ sent = none ∧ Renewed o db.uuids state

@[simp] theorem writeState_outbox (db : OperationsDb) (component : String) (o : Observation)
    (previous state : IncidentState) (eventId : Option ℕ) (notice : Option OperationalNotice)
    (withheld : Option WithheldNotice) :
    (db.writeState component o previous state eventId notice withheld).outbox = db.outbox := by
  unfold writeState
  split <;> rfl

@[simp] theorem writeState_uuids (db : OperationsDb) (component : String) (o : Observation)
    (previous state : IncidentState) (eventId : Option ℕ) (notice : Option OperationalNotice)
    (withheld : Option WithheldNotice) :
    (db.writeState component o previous state eventId notice withheld).uuids = db.uuids := by
  unfold writeState
  split <;> rfl

theorem writeState_rows (db : OperationsDb) (component : String) (o : Observation)
    (previous state : IncidentState) (eventId : Option ℕ) (notice : Option OperationalNotice)
    (withheld : Option WithheldNotice) :
    ∃ eventId', (db.writeState component o previous state eventId notice withheld).rows
      = Function.update db.rows component (some ⟨o.observedAt, eventId', state⟩) := by
  unfold writeState
  split
  · exact ⟨_, rfl⟩
  · exact ⟨_, rfl⟩

theorem writeState_events (db : OperationsDb) (component : String) (o : Observation)
    (previous state : IncidentState) (eventId : Option ℕ) (notice : Option OperationalNotice)
    (withheld : Option WithheldNotice) :
    ((db.writeState component o previous state eventId notice withheld).events = db.events
        ∧ state = previous)
      ∨ ∃ id notice' withheld',
        (db.writeState component o previous state eventId notice withheld).events
          = db.events ++ [⟨id, 1, component, o.observedAt, state, notice', withheld'⟩] := by
  unfold writeState
  split
  · exact Or.inl ⟨rfl, ‹_›⟩
  · exact Or.inr ⟨_, _, _, rfl⟩

/-- **What queueing a notice writes.** -/
theorem queueNotice_cases {db db' : OperationsDb} {component detail : String} {o : Observation}
    {state state' : IncidentState} {sent : Option NoticeKind}
    {notice : Option OperationalNotice}
    (h : db.queueNotice component o detail state sent = .ok (db', state', notice)) :
    db'.rows = db.rows ∧ db'.events = db.events ∧ db.uuids ≤ db'.uuids
      ∧ (∃ id, state' = { state with notificationId := id }) ∧ (sent = none → state' = state)
      ∧ ((sent = none ∧ db'.outbox = db.outbox)
        ∨ ∃ kind incident since id, sent = some kind ∧ state'.incidentId = some incident
          ∧ state'.failedSince = some since
          ∧ (db'.outbox = db.outbox ++ [⟨id, (incident, kind, o.observedAt),
                ⟨component, incident, kind, o.observedAt, since, detail⟩, .queued⟩]
            ∨ ∃ item ∈ db.outbox, item.dedupKey = (incident, kind, o.observedAt))) := by
  unfold queueNotice at h
  split at h
  · cases h
    exact ⟨rfl, rfl, le_rfl, ⟨_, rfl⟩, fun _ => rfl, Or.inl ⟨rfl, rfl⟩⟩
  · rename_i kind
    split at h
    · rename_i incident since hi hs
      unfold addNotification at h
      split at h
      · rename_i existing hfind
        cases h
        refine ⟨rfl, rfl, le_rfl, ⟨_, rfl⟩, (fun h => by cases h), Or.inr ⟨kind, incident, since, 0,
          rfl, hi, hs, Or.inr ⟨existing, List.mem_of_find?_eq_some hfind, ?_⟩⟩⟩
        simpa using List.find?_some hfind
      · cases h
        exact ⟨rfl, rfl, Nat.le_succ _, ⟨_, rfl⟩, (fun h => by cases h),
          Or.inr ⟨kind, incident, since, _, rfl, hi, hs, Or.inl rfl⟩⟩
    · cases h

/-- **What an observation does**: nothing if it is stale. -/
theorem observe_cases {db db' : OperationsDb} {component detail : String} {o : Observation}
    {notice : Option OperationalNotice}
    (h : db.observe component o detail = .ok (db', notice)) :
    db' = db ∨ ∃ state sent, Observed db component o detail db' state sent := by
  unfold observe at h
  simp only at h
  split at h
  · cases h
    exact Or.inl rfl
  · rename_i hnewer
    split at h
    · cases h
    · rename_i state sent withheld hadv
      split at h
      · cases h
      · rename_i db₁ state₁ notice₁ hq
        cases h
        obtain ⟨hrows, hevents, huuids, ⟨id, hid⟩, hsame, hout⟩ := queueNotice_cases hq
        refine Or.inr ⟨state₁, sent, ?_, ?_, ?_, ?_, ?_, ?_⟩
        · intro r hr
          by_contra hle
          refine hnewer ?_
          rw [Option.mem_def.mp hr]
          simpa using hle
        · rw [show db.rows = db₁.rows from hrows.symm]
          exact writeState_rows ..
        · rw [show db.events = db₁.events from hevents.symm]
          exact writeState_events ..
        · rw [writeState_outbox]
          exact hout
        · rw [writeState_uuids]
          exact huuids
        · intro hv
          rcases advance_cases hadv hv with hmove | ⟨hnone, hnew⟩
          · rw [hid]
            exact Or.inl (hmove.notified id)
          · rw [hsame hnone]
            exact Or.inr ⟨hnone, hnew⟩

/-! ## The journal replays to the projections -/

/-- The incident of a component after some events. -/
def stateAfter (events : List IncidentEvent) (component : String) (start : IncidentState) :
    IncidentState :=
  events.foldl (fun s e => if e.component = component then e.state else s) start

theorem stateAfter_concat (events : List IncidentEvent) (e : IncidentEvent) (component : String)
    (start : IncidentState) :
    stateAfter (events ++ [e]) component start
      = if e.component = component then e.state else stateAfter events component start := by
  unfold stateAfter
  rw [List.foldl_concat]

/-- **A replay writes the last state of every component**, and leaves the
instants of rows that are not older than their events. -/
theorem replay_eq {events : List IncidentEvent} (rows : String → Option IncidentProjection)
    (hversion : ∀ e ∈ events, e.schemaVersion = 1)
    (hrows : ∀ e ∈ events, ∃ r, rows e.component = some r ∧ e.observedAt ≤ r.observedAt) :
    ∃ rows', events.foldlM replayEvent rows = .ok rows'
      ∧ ∀ c, (rows' c).map (fun r => (r.observedAt, r.state))
        = (rows c).map (fun r => (r.observedAt, stateAfter events c r.state)) := by
  induction events generalizing rows with
  | nil => exact ⟨rows, rfl, fun c => rfl⟩
  | cons e events ih =>
    obtain ⟨r, hr, hle⟩ := hrows e (List.mem_cons_self ..)
    have hstep : replayEvent rows e
        = .ok (Function.update rows e.component (some ⟨r.observedAt, some e.id, e.state⟩)) := by
      unfold replayEvent
      rw [if_neg (by simpa using hversion e (List.mem_cons_self ..)), hr]
      simp only [max_eq_left hle]
    obtain ⟨rows', hrows', heq⟩ := ih (Function.update rows e.component
        (some ⟨r.observedAt, some e.id, e.state⟩))
      (fun x hx => hversion x (List.mem_cons_of_mem _ hx)) (fun x hx => by
        obtain ⟨q, hq, hqle⟩ := hrows x (List.mem_cons_of_mem _ hx)
        by_cases hc : x.component = e.component
        · rw [hc, hr] at hq
          cases hq
          exact ⟨⟨r.observedAt, some e.id, e.state⟩, by rw [hc, Function.update_self], hqle⟩
        · exact ⟨q, by rw [Function.update_of_ne hc, hq], hqle⟩)
    refine ⟨rows', ?_, fun c => ?_⟩
    · rw [List.foldlM_cons, hstep]
      exact hrows'
    · rw [heq c]
      by_cases hc : c = e.component
      · subst hc
        rw [Function.update_self, hr]
        simp [stateAfter]
      · rw [Function.update_of_ne hc]
        simp [stateAfter, Ne.symm hc]

/-! ## The invariant -/

/-- **What holds of the incident store.** -/
structure Sound (db : OperationsDb) : Prop where
  valid : ∀ c, (db.stateOf c).Valid
  /-- The notices queued for the incident of a row fit it. -/
  fits : ∀ c i, (db.stateOf c).incidentId = some i → (db.stateOf c).Fits (db.noticesOf i)
  wellFormed : ∀ i, NoticesWellFormed (db.noticesOf i)
  /-- Identifiers were drawn, and no two components share an incident. -/
  drawn : ∀ item ∈ db.outbox, item.notice.incidentId < db.uuids
  drawnRows : ∀ c i, (db.stateOf c).incidentId = some i → i < db.uuids
  distinct : ∀ c c' i, (db.stateOf c).incidentId = some i →
    (db.stateOf c').incidentId = some i → c = c'
  /-- A notice is under its key, and none is newer than its component. -/
  keys : ∀ item ∈ db.outbox,
    item.dedupKey = (item.notice.incidentId, item.notice.kind, item.notice.observedAt)
  past : ∀ c r, db.rows c = some r → ∀ item ∈ db.outbox,
    r.state.incidentId = some item.notice.incidentId → item.notice.observedAt ≤ r.observedAt
  /-- The journal replays to the projections. -/
  versions : ∀ e ∈ db.events, e.schemaVersion = 1
  recorded : ∀ e ∈ db.events, ∃ r, db.rows e.component = some r ∧ e.observedAt ≤ r.observedAt
  replay : ∀ c, db.stateOf c = stateAfter db.events c {}

theorem sound_empty : Sound empty where
  valid _ := ⟨fun h => absurd rfl h, (fun h => by cases h)⟩
  fits _ _ h := by cases h
  wellFormed _ := Or.inl rfl
  drawn _ h := by cases h
  drawnRows _ _ h := by cases h
  distinct _ _ _ h := by cases h
  keys _ h := by cases h
  past _ _ h := by cases h
  versions _ h := by cases h
  recorded _ h := by cases h
  replay _ := rfl

/-- The notices of an incident after another one was queued. -/
theorem noticesOf_concat {db db' : OperationsDb} {item : NoticeItem}
    (h : db'.outbox = db.outbox ++ [item]) (i : Uuid) :
    db'.noticesOf i
      = db.noticesOf i ++ if item.notice.incidentId = i then [item.notice.kind] else [] := by
  unfold noticesOf
  rw [h, List.filter_append, List.map_append]
  by_cases hi : item.notice.incidentId = i <;> simp [hi]

theorem noticesOf_eq {db db' : OperationsDb} (h : db'.outbox = db.outbox) (i : Uuid) :
    db'.noticesOf i = db.noticesOf i := by
  unfold noticesOf
  rw [h]

namespace Observed

variable {db db' : OperationsDb} {component detail : String} {o : Observation}
  {state : IncidentState} {sent : Option NoticeKind}

theorem stateOf_self (h : Observed db component o detail db' state sent) :
    db'.stateOf component = state := by
  obtain ⟨eventId, hr⟩ := h.rows
  unfold stateOf
  rw [hr, Function.update_self]
  rfl

theorem stateOf_ne (h : Observed db component o detail db' state sent) {c : String}
    (hc : c ≠ component) : db'.stateOf c = db.stateOf c := by
  obtain ⟨eventId, hr⟩ := h.rows
  unfold stateOf
  rw [hr, Function.update_of_ne hc]

/-- **The outbox of a sound store gets the notice that is sent**: its key is
new, since its instant is. -/
theorem queued (h : Observed db component o detail db' state sent) (hs : Sound db) :
    (sent = none ∧ db'.outbox = db.outbox)
      ∨ ∃ kind incident since id, sent = some kind ∧ state.incidentId = some incident
        ∧ (db.stateOf component).incidentId = some incident
        ∧ state.failedSince = some since
        ∧ db'.outbox = db.outbox ++ [⟨id, (incident, kind, o.observedAt),
            ⟨component, incident, kind, o.observedAt, since, detail⟩, .queued⟩] := by
  rcases h.outbox with hnone | ⟨kind, incident, since, id, hk, hi, hf, hout⟩
  · exact Or.inl hnone
  have hadv : Advanced o (db.stateOf component) state sent := by
    rcases h.advanced (hs.valid component) with hadv | ⟨hnone, -⟩
    · exact hadv
    · rw [hnone] at hk
      cases hk
  have hprev : (db.stateOf component).incidentId = some incident := hadv.sameIncident ▸ hi
  rcases hout with hout | ⟨item, hitem, hkey⟩
  · exact Or.inr ⟨kind, incident, since, id, hk, hi, hprev, hf, hout⟩
  · -- an item under the key would be as new as the observation
    exfalso
    cases hr : db.rows component with
    | none =>
      unfold stateOf at hprev
      rw [hr] at hprev
      cases hprev
    | some r =>
      have hstate : r.state.incidentId = some incident := by
        unfold stateOf at hprev
        rw [hr] at hprev
        exact hprev
      have hkeys := hs.keys item hitem
      rw [hkey] at hkeys
      obtain ⟨h1, h2⟩ := Prod.mk.inj hkeys
      obtain ⟨-, h3⟩ := Prod.mk.inj h2
      have hle := hs.past component r hr item hitem (h1 ▸ hstate)
      rw [← h3] at hle
      exact absurd hle (not_le.mpr (h.newer r hr))

/-- **The notices of every incident after an observation.** -/
theorem noticesOf_after (h : Observed db component o detail db' state sent) (hs : Sound db)
    (i : Uuid) :
    db'.noticesOf i = db.noticesOf i
      ++ if (db.stateOf component).incidentId = some i then sent.toList else [] := by
  rcases h.queued hs with ⟨rfl, hout⟩ | ⟨kind, incident, since, id, rfl, -, hprev, -, hout⟩
  · rw [noticesOf_eq hout]
    simp
  · rw [noticesOf_concat hout, hprev]
    simp

/-- An incident that is renewed has no notice yet. -/
theorem noticesOf_undrawn (hs : Sound db) : db.noticesOf db.uuids = [] := by
  unfold noticesOf
  rw [List.map_eq_nil_iff, List.filter_eq_nil_iff]
  intro item hitem heq
  exact absurd (hs.drawn item hitem) (by rw [eq_of_beq heq]; exact lt_irrefl _)

/-- The incident of the row that is written: the one it was, or a new one. -/
theorem incident_cases (h : Observed db component o detail db' state sent) (hs : Sound db)
    {i : Uuid} (hi : state.incidentId = some i) :
    (Advanced o (db.stateOf component) state sent ∧ (db.stateOf component).incidentId = some i)
      ∨ sent = none ∧ i = db.uuids
        ∧ state
          = { phase := .pending, incidentId := some db.uuids,
              failedSince := some o.observedAt } := by
  rcases h.advanced (hs.valid component) with hadv | ⟨hnone, hnew | hnew⟩
  · exact Or.inl ⟨hadv, hadv.sameIncident ▸ hi⟩
  · rw [hnew] at hi
    cases hi
  · rw [hnew] at hi
    exact Or.inr ⟨hnone, (Option.some.inj hi).symm, hnew⟩

theorem sound_fits (h : Observed db component o detail db' state sent) (hs : Sound db) (c : String)
    (i : Uuid) (hi : (db'.stateOf c).incidentId = some i) :
    (db'.stateOf c).Fits (db'.noticesOf i) := by
  rw [h.noticesOf_after hs i]
  by_cases hc : c = component
  · subst hc
    rw [h.stateOf_self] at hi ⊢
    rcases h.incident_cases hs hi with ⟨hadv, hprev⟩ | ⟨rfl, rfl, rfl⟩
    · rw [if_pos hprev]
      exact hadv.fits _ (hs.fits c i hprev)
    · rw [noticesOf_undrawn hs]
      refine .of_told ?_
      split <;> rfl
  · rw [h.stateOf_ne hc] at hi ⊢
    rw [if_neg fun hprev => hc (hs.distinct _ _ i hi hprev), List.append_nil]
    exact hs.fits c i hi

theorem sound_distinct (h : Observed db component o detail db' state sent) (hs : Sound db)
    (c c' : String) (i : Uuid) (hi : (db'.stateOf c).incidentId = some i)
    (hi' : (db'.stateOf c').incidentId = some i) : c = c' := by
  have hone : ∀ c, c ≠ component → (db'.stateOf c).incidentId = some i →
      (db'.stateOf component).incidentId = some i → False := by
    intro c hc hi hself
    rw [h.stateOf_self] at hself
    rw [h.stateOf_ne hc] at hi
    rcases h.incident_cases hs hself with ⟨-, hprev⟩ | ⟨-, rfl, -⟩
    · exact hc (hs.distinct _ _ i hi hprev)
    · exact absurd (hs.drawnRows c _ hi) (lt_irrefl _)
  by_cases hc : c = component
  · by_cases hc' : c' = component
    · rw [hc, hc']
    · exact (hone c' hc' hi' (hc ▸ hi)).elim
  · by_cases hc' : c' = component
    · exact (hone c hc hi (hc' ▸ hi')).elim
    · rw [h.stateOf_ne hc] at hi
      rw [h.stateOf_ne hc'] at hi'
      exact hs.distinct _ _ i hi hi'

/-- What was in the outbox, and the notice that was queued. -/
theorem mem_outbox (h : Observed db component o detail db' state sent) (hs : Sound db)
    {item : NoticeItem} (hitem : item ∈ db'.outbox) :
    item ∈ db.outbox ∨ ∃ kind incident since, sent = some kind
      ∧ (db.stateOf component).incidentId = some incident ∧ state.failedSince = some since
      ∧ item.dedupKey = (incident, kind, o.observedAt)
      ∧ item.notice = ⟨component, incident, kind, o.observedAt, since, detail⟩ := by
  rcases h.queued hs with ⟨-, hout⟩ | ⟨kind, incident, since, id, hk, -, hprev, hf, hout⟩
  · exact Or.inl (hout ▸ hitem)
  · rw [hout, List.mem_append, List.mem_singleton] at hitem
    rcases hitem with hitem | rfl
    · exact Or.inl hitem
    · exact Or.inr ⟨kind, incident, since, hk, hprev, hf, rfl, rfl⟩

theorem sound_past (h : Observed db component o detail db' state sent) (hs : Sound db)
    (c : String) (r : IncidentProjection) (hr : db'.rows c = some r) (item : NoticeItem)
    (hitem : item ∈ db'.outbox) (hi : r.state.incidentId = some item.notice.incidentId) :
    item.notice.observedAt ≤ r.observedAt := by
  have hstate : (db'.stateOf c).incidentId = some item.notice.incidentId := by
    unfold stateOf
    rw [hr]
    exact hi
  by_cases hc : c = component
  · subst hc
    obtain ⟨eventId, hrows⟩ := h.rows
    rw [hrows, Function.update_self] at hr
    cases hr
    rcases h.mem_outbox hs hitem with hold | ⟨kind, incident, since, -, -, -, -, hnotice⟩
    · rw [h.stateOf_self] at hstate
      rcases h.incident_cases hs hstate with ⟨-, hprev⟩ | ⟨-, heq, -⟩
      · cases hr₀ : db.rows c with
        | none =>
          unfold stateOf at hprev
          rw [hr₀] at hprev
          cases hprev
        | some r₀ =>
          have hprev₀ : r₀.state.incidentId = some item.notice.incidentId := by
            unfold stateOf at hprev
            rw [hr₀] at hprev
            exact hprev
          exact (hs.past c r₀ hr₀ item hold hprev₀).trans (h.newer r₀ hr₀).le
      · exact absurd (hs.drawn item hold) (by rw [heq]; exact lt_irrefl _)
    · rw [hnotice]
  · rcases h.mem_outbox hs hitem with hold | ⟨kind, incident, since, -, hprev, -, -, hnotice⟩
    · obtain ⟨eventId, hrows⟩ := h.rows
      rw [hrows, Function.update_of_ne hc] at hr
      exact hs.past c r hr item hold hi
    · rw [h.stateOf_ne hc, hnotice] at hstate
      exact absurd (hs.distinct _ _ _ hstate hprev) hc

theorem sound_replay (h : Observed db component o detail db' state sent) (hs : Sound db)
    (c : String) : db'.stateOf c = stateAfter db'.events c {} := by
  have hold := hs.replay c
  by_cases hc : c = component
  · subst hc
    rw [h.stateOf_self]
    rcases h.events with ⟨he, hstate⟩ | ⟨id, notice, withheld, he⟩
    · rw [he, hstate, hold]
    · rw [he, stateAfter_concat, if_pos rfl]
  · rw [h.stateOf_ne hc, hold]
    rcases h.events with ⟨he, -⟩ | ⟨id, notice, withheld, he⟩
    · rw [he]
    · rw [he, stateAfter_concat, if_neg (Ne.symm hc)]

theorem mem_events (h : Observed db component o detail db' state sent) {e : IncidentEvent}
    (he : e ∈ db'.events) :
    e ∈ db.events ∨ e.schemaVersion = 1 ∧ e.component = component
      ∧ e.observedAt = o.observedAt := by
  rcases h.events with ⟨heq, -⟩ | ⟨id, notice, withheld, heq⟩
  · exact Or.inl (heq ▸ he)
  · rw [heq, List.mem_append, List.mem_singleton] at he
    rcases he with he | rfl
    · exact Or.inl he
    · exact Or.inr ⟨rfl, rfl, rfl⟩

theorem sound_recorded (h : Observed db component o detail db' state sent) (hs : Sound db)
    (e : IncidentEvent) (he : e ∈ db'.events) :
    ∃ r, db'.rows e.component = some r ∧ e.observedAt ≤ r.observedAt := by
  obtain ⟨eventId, hrows⟩ := h.rows
  rw [hrows]
  by_cases hc : e.component = component
  · refine ⟨⟨o.observedAt, eventId, state⟩, by rw [hc, Function.update_self], ?_⟩
    rcases h.mem_events he with hold | ⟨-, -, hat⟩
    · obtain ⟨r, hr, hle⟩ := hs.recorded e hold
      exact hle.trans (h.newer r (hc ▸ hr)).le
    · exact hat.le
  · rcases h.mem_events he with hold | ⟨-, hcomp, -⟩
    · rw [Function.update_of_ne hc]
      exact hs.recorded e hold
    · exact absurd hcomp hc

/-- **An observation keeps the store sound.** -/
theorem sound (h : Observed db component o detail db' state sent) (hs : Sound db) : Sound db' where
  valid c := by
    by_cases hc : c = component
    · subst hc
      rw [h.stateOf_self]
      rcases h.advanced (hs.valid c) with hadv | ⟨-, rfl | rfl⟩
      · exact hadv.valid
      · exact ⟨fun h => absurd rfl h, (fun h => by cases h)⟩
      · exact ⟨fun _ => ⟨rfl, rfl⟩, fun _ => rfl⟩
    · rw [h.stateOf_ne hc]
      exact hs.valid c
  fits := h.sound_fits hs
  wellFormed i := by
    by_cases hi : (db'.stateOf component).incidentId = some i
    · exact (h.sound_fits hs component i hi).wellFormed
    · rw [h.noticesOf_after hs i]
      split
      · rename_i hprev
        rcases h.advanced (hs.valid component) with hadv | ⟨rfl, -⟩
        · rw [h.stateOf_self, hadv.sameIncident] at hi
          exact absurd hprev hi
        · rw [Option.toList_none, List.append_nil]
          exact hs.wellFormed i
      · rw [List.append_nil]
        exact hs.wellFormed i
  drawn item hitem := by
    rcases h.mem_outbox hs hitem with hold | ⟨kind, incident, since, -, hprev, -, -, hnotice⟩
    · exact (hs.drawn item hold).trans h.uuids
    · rw [hnotice]
      exact (hs.drawnRows component incident hprev).trans h.uuids
  drawnRows c i hi := by
    by_cases hc : c = component
    · subst hc
      rw [h.stateOf_self] at hi
      rcases h.incident_cases hs hi with ⟨-, hprev⟩ | ⟨-, rfl, -⟩
      · exact (hs.drawnRows c i hprev).trans h.uuids
      · exact h.uuids
    · rw [h.stateOf_ne hc] at hi
      exact (hs.drawnRows c i hi).trans h.uuids
  distinct := h.sound_distinct hs
  keys item hitem := by
    rcases h.mem_outbox hs hitem with hold | ⟨kind, incident, since, -, -, -, hkey, hnotice⟩
    · exact hs.keys item hold
    · rw [hkey, hnotice]
  past := h.sound_past hs
  versions e he := by
    rcases h.mem_events he with hold | ⟨hv, -, -⟩
    · exact hs.versions e hold
    · exact hv
  recorded := h.sound_recorded hs
  replay := h.sound_replay hs

end Observed

/-! ## Deliveries and rebuilds -/

/-- **A delivery keeps the store sound**: it changes statuses only. -/
theorem Sound.recordDelivery {db : OperationsDb} (hs : Sound db) (id : Uuid)
    (status : WorkStatus) : Sound (db.recordDelivery id status) := by
  have hmem : ∀ item ∈ (db.recordDelivery id status).outbox, ∃ item₀ ∈ db.outbox,
      item.dedupKey = item₀.dedupKey ∧ item.notice = item₀.notice := by
    intro item hitem
    obtain ⟨item₀, h₀, rfl⟩ := Table.mem_updateWhere.mp hitem
    refine ⟨item₀, h₀, ?_⟩
    split <;> exact ⟨rfl, rfl⟩
  have hnotices : ∀ i, (db.recordDelivery id status).noticesOf i = db.noticesOf i := by
    intro i
    unfold OperationsDb.recordDelivery noticesOf Table.updateWhere
    simp only [List.filter_map, List.map_map]
    have hfilter : db.outbox.filter ((fun item : NoticeItem => item.notice.incidentId == i) ∘
          fun item => if item.id == id then { item with status := status } else item)
        = db.outbox.filter (fun item => item.notice.incidentId == i) := by
      refine List.filter_congr fun item _ => ?_
      simp only [Function.comp_apply]
      split <;> rfl
    rw [hfilter]
    refine List.map_congr_left fun item _ => ?_
    simp only [Function.comp_apply]
    split <;> rfl
  refine ⟨hs.valid, fun c i hi => ?_, fun i => ?_, fun item hitem => ?_, hs.drawnRows,
    hs.distinct, fun item hitem => ?_, fun c r hr item hitem hi => ?_, hs.versions, hs.recorded,
    hs.replay⟩
  · rw [hnotices]
    exact hs.fits c i hi
  · rw [hnotices]
    exact hs.wellFormed i
  · obtain ⟨item₀, h₀, -, hn⟩ := hmem item hitem
    rw [hn]
    exact hs.drawn item₀ h₀
  · obtain ⟨item₀, h₀, hk, hn⟩ := hmem item hitem
    rw [hk, hn]
    exact hs.keys item₀ h₀
  · obtain ⟨item₀, h₀, -, hn⟩ := hmem item hitem
    rw [hn] at hi ⊢
    exact hs.past c r hr item₀ h₀ hi

/-- **A rebuild of a sound store succeeds**, and leaves the incident and the
instant of every component as they were. -/
theorem Sound.rebuild_eq {db : OperationsDb} (hs : Sound db) :
    ∃ rows', db.rebuild = .ok ({ db with rows := rows' }, db.events.length)
      ∧ ∀ c, (rows' c).map (fun r => (r.observedAt, r.state))
        = (db.rows c).map (fun r => (r.observedAt, r.state)) := by
  obtain ⟨rows', hrows', heq⟩ := replay_eq (fun component => (db.rows component).map
      (fun row => { row with state := {}, eventId := none })) hs.versions (fun e he => by
    obtain ⟨r, hr, hle⟩ := hs.recorded e he
    exact ⟨{ r with state := {}, eventId := none }, by rw [hr]; rfl, hle⟩)
  refine ⟨rows', ?_, fun c => ?_⟩
  · unfold OperationsDb.rebuild
    simp only [hrows']
  · rw [heq c]
    have hreplay := hs.replay c
    unfold stateOf at hreplay
    cases hr : db.rows c with
    | none => rfl
    | some r =>
      rw [hr] at hreplay
      show some (r.observedAt, stateAfter db.events c {}) = some (r.observedAt, r.state)
      rw [← hreplay]
      rfl

theorem Sound.of_rows {db : OperationsDb} (hs : Sound db)
    {rows' : String → Option IncidentProjection}
    (h : ∀ c, (rows' c).map (fun r => (r.observedAt, r.state))
      = (db.rows c).map (fun r => (r.observedAt, r.state))) :
    Sound { db with rows := rows' } := by
  have hrow : ∀ c r, rows' c = some r → ∃ r₀, db.rows c = some r₀ ∧ r₀.observedAt = r.observedAt
      ∧ r₀.state = r.state := by
    intro c r hr
    have hc := h c
    rw [hr] at hc
    obtain ⟨r₀, hr₀, heq⟩ := Option.map_eq_some_iff.mp hc.symm
    exact ⟨r₀, hr₀, congrArg Prod.fst heq, congrArg Prod.snd heq⟩
  have hstate : ∀ c, ({ db with rows := rows' } : OperationsDb).stateOf c = db.stateOf c := by
    intro c
    have hc := congrArg (Option.map Prod.snd) (h c)
    rw [Option.map_map, Option.map_map] at hc
    exact congrArg (fun o => Option.getD o {}) hc
  refine ⟨fun c => ?_, fun c i hi => ?_, hs.wellFormed, hs.drawn, fun c i hi => ?_,
    fun c c' i hi hi' => ?_, hs.keys, fun c r hr item hitem hi => ?_, hs.versions,
    fun e he => ?_, fun c => ?_⟩
  · rw [hstate]
    exact hs.valid c
  · rw [hstate] at hi ⊢
    exact hs.fits c i hi
  · rw [hstate] at hi
    exact hs.drawnRows c i hi
  · rw [hstate] at hi hi'
    exact hs.distinct c c' i hi hi'
  · obtain ⟨r₀, hr₀, hat, hst⟩ := hrow c r hr
    rw [← hat]
    exact hs.past c r₀ hr₀ item hitem (hst ▸ hi)
  · obtain ⟨r₀, hr₀, hle⟩ := hs.recorded e he
    have hc := h e.component
    rw [hr₀] at hc
    obtain ⟨r, hr, heq⟩ := Option.map_eq_some_iff.mp hc
    exact ⟨r, hr, hle.trans (congrArg Prod.fst heq).ge⟩
  · rw [hstate]
    exact hs.replay c

end OperationsDb

/-! ## Runs -/

open OperationsDb

/-- **The incident store**: observations of any component, deliveries and
rebuilds, in any order. -/
def incidentStore : TransitionSystem OperationsDb where
  init db := db = .empty
  step := OperationsStep

/-- **The store is sound in every run.** -/
theorem sound_of_reachable {db : OperationsDb} (h : incidentStore.Reachable db) : Sound db := by
  refine TransitionSystem.Reachable.of_step (I := Sound) ?_ ?_ h
  · rintro _ rfl
    exact sound_empty
  · rintro db db' - hs (⟨hobs⟩ | ⟨id, status⟩ | ⟨hreb⟩)
    · rcases observe_cases hobs with rfl | ⟨state, sent, hobs⟩
      · exact hs
      · exact hobs.sound hs
    · exact hs.recordDelivery id status
    · obtain ⟨rows', heq, hrows⟩ := hs.rebuild_eq
      rw [heq] at hreb
      cases hreb
      exact hs.of_rows hrows

/-- **Operational incident notices are well formed.** After any run of
observations (of any components, ready or failing, at instants in any order,
muted or not, in any alert window and under any policy), deliveries and
rebuilds:

* the notices queued for an incident are its opening, any number of reminders
  and at most one recovery, in this order, or none at all;
* an observation that queues an opening does so at least the `failure_seconds`
  of its policy after the incident began;
* one that is not newer than the last of its component changes nothing;
* and a rebuild succeeds, leaves the incident of every component as it was –
  its phase, identifier and notification – and moves no instant backwards. -/
theorem incident_notices_well_formed {db : OperationsDb} (h : incidentStore.Reachable db) :
    (∀ incident, NoticesWellFormed (db.noticesOf incident))
      ∧ (∀ component o detail db' notice,
          db.observe component o detail = .ok (db', notice) →
          ∀ item ∈ db'.outbox, item ∉ db.outbox → item.notice.kind = .opened →
            item.notice.observedAt = o.observedAt
              ∧ o.policy.failureSeconds
                ≤ totalSeconds item.notice.failedSince item.notice.observedAt)
      ∧ (∀ component o detail r, db.rows component = some r → o.observedAt ≤ r.observedAt →
          db.observe component o detail = .ok (db, none))
      ∧ ∃ db' n, db.rebuild = .ok (db', n) ∧ ∀ component r, db.rows component = some r →
          ∃ r', db'.rows component = some r' ∧ r'.state = r.state
            ∧ r.observedAt ≤ r'.observedAt := by
  have hs := sound_of_reachable h
  refine ⟨hs.wellFormed, ?_, ?_, ?_⟩
  · intro component o detail db' notice hobs item hitem hnew hkind
    rcases observe_cases hobs with rfl | ⟨state, sent, hobs⟩
    · exact absurd hitem hnew
    rcases hobs.mem_outbox hs hitem with hold | ⟨kind, incident, since, hsent, -, hf, -, hnotice⟩
    · exact absurd hold hnew
    rw [hnotice] at hkind ⊢
    obtain rfl : kind = .opened := hkind
    rcases hobs.advanced (hs.valid component) with hadv | ⟨hnone, -⟩
    · obtain ⟨since', hf', hle⟩ := hadv.opened hsent
      rw [hf] at hf'
      cases hf'
      exact ⟨rfl, hle⟩
    · rw [hnone] at hsent
      cases hsent
  · intro component o detail r hr hle
    unfold OperationsDb.observe
    simp only [hr, Option.any_some, decide_eq_true hle, if_true]
  · obtain ⟨rows', heq, hrows⟩ := hs.rebuild_eq
    refine ⟨_, _, heq, fun component r hr => ?_⟩
    have hc := hrows component
    rw [hr] at hc
    obtain ⟨r', hr', heq'⟩ := Option.map_eq_some_iff.mp hc
    exact ⟨r', hr', congrArg Prod.snd heq', (congrArg Prod.fst heq').ge⟩

/-! ### A worker that fails and recovers -/

/-- The store after an observation. -/
def sampleSeen (db : OperationsDb) (seconds : ℤ) (ready : Bool) : OperationsDb :=
  match db.observe "worker" { ready, observedAt := seconds * 1000000, policy := {} } "" with
  | .ok (db', _) => db'
  | .error _ => db

theorem sampleSeen_reachable {db : OperationsDb} (h : incidentStore.Reachable db)
    (seconds : ℤ) (ready : Bool) : incidentStore.Reachable (sampleSeen db seconds ready) := by
  unfold sampleSeen
  split
  · rename_i db' notice hobs
    exact h.tail (.observe hobs)
  · exact h

/-- The worker fails at the start and for two minutes, and is ready from then
on. -/
def sampleIncidents : OperationsDb :=
  sampleSeen (sampleSeen (sampleSeen (sampleSeen .empty 0 false) 120 false)
    121 true) 181 true

theorem sampleIncidents_reachable : incidentStore.Reachable sampleIncidents :=
  sampleSeen_reachable (sampleSeen_reachable (sampleSeen_reachable
    (sampleSeen_reachable (.of_init rfl) 0 false) 120 false) 121 true) 181 true

theorem incident_notices_well_formed_sample :
    sampleIncidents.noticesOf 0 = [.opened, .recovered]
      ∧ NoticesWellFormed (sampleIncidents.noticesOf 0) :=
  ⟨by decide +kernel, (incident_notices_well_formed sampleIncidents_reachable).1 0⟩

end AgenticTrader
