import AgenticTrader.Alpha.RegistryMoves

/-!
# A killed probe

A paper probe is killed when the realized R of its closes since its first
enrolment adds up to `kill_r` or less. The documentation calls a killed
version terminal. The kill is not stored: `probe_block_reason` and
`_record_probe_enrolment` add up the closes at every check, and the positions
that were open at the kill close afterwards. A win among them can lift the sum
above `kill_r`, and then the version is live again (`killed_live_again`). The
sum is one of doubles in the order in which the rows are read, so it can also
end a bit above `kill_r` where the exact sum is `kill_r`.

Nothing else undoes a kill. An enrolment keeps the first enrolment of the one
before it and is refused to a killed version, so along every run in which the
later closes leave the sum at `kill_r` or below, the version stays killed, is
installed by no snapshot, and is enrolled by no call (`killed_terminal`).
-/

namespace AgenticTrader

open AlphaDb

/-! ## Killed versions -/

/-- The identifier of a version. -/
def VersionDocument.id (cfg : AlphaConfig) : VersionDocument → String
  | .dsl d => cfg.versionId d
  | .catalog d => d.versionId

/-- **The version's realized R since its first enrolment reached `kill_r`.** -/
def Killed (cfg : AlphaConfig) (v : String) (db : AlphaDb) : Prop :=
  ∃ e, db.get (.probe v) = some e
    ∧ (db.loadForwardRecord v e.firstEnrolledAt cfg.probePolicy).killed = true

/-- **Rows of closed trades that leave the sum at `kill_r` or below**: the R's
of the version's closes since its first enrolment, added up as doubles in the
order of the rows. -/
def StaysBelow (cfg : AlphaConfig) (v : String) (db : AlphaDb) (rows : List ClosedTrade) :
    Prop :=
  ∀ e, db.get (.probe v) = some e →
    (cumulativeR ((rows.filter (ClosedTrade.counts v e.firstEnrolledAt)).filterMap
      ClosedTrade.realizedR)).le (.finite cfg.probePolicy.killR) = true

/-- **The version is out for good**: blocked at every time, installed by no
snapshot, and refused by both enrolments, with or without renewal. -/
structure Terminal (cfg : AlphaConfig) (v : String) (db : AlphaDb) : Prop where
  blocked : ∀ now, db.probeBlockReason cfg v now ≠ none
  installed : ∀ now snapshot, db.snapshot cfg now = .ok snapshot →
    (∀ d ∈ snapshot.active ++ snapshot.shadow ++ snapshot.probe, cfg.versionId d ≠ v)
      ∧ ∀ d ∈ snapshot.catalogProbes, d.versionId ≠ v
  enrolProbe : ∀ actor expected days renew now clock,
    (db.enrolProbe cfg v actor expected days renew now clock).isOk = false
  enrolCatalogProbe : ∀ (definition : CatalogDefinition) actor expected days renew now,
    definition.versionId = v →
    (db.enrolCatalogProbe cfg definition actor expected days renew now).isOk = false

/-- The calls neither promote the version nor put it in shadow, and the closes
leave the sum at `kill_r` or below. -/
def killGuard (cfg : AlphaConfig) (v : String) : AlphaGuard where
  call := fun _ c => match c with
    | .promote w _ _ _ _ => w ≠ v
    | .setShadow w _ _ _ _ => w ≠ v
    | _ => True
  closes := StaysBelow cfg v

/-- The same with any closes. -/
def anyCloseGuard (cfg : AlphaConfig) (v : String) : AlphaGuard :=
  { killGuard cfg v with closes := fun _ _ => True }

/-- **The system after a kill**: it starts in any reachable database in which
the version is killed, and a probe or inactive. -/
def killedSystem (cfg : AlphaConfig) (v : String) : TransitionSystem AlphaDb where
  init db := (alphaSystem cfg).Reachable db ∧ Killed cfg v db
    ∧ v ∉ db.registry.active ∧ v ∉ db.registry.shadow
  step := GuardedStep cfg (killGuard cfg v)

section

variable {cfg : AlphaConfig} {db db' : AlphaDb} {v w : String}

/-! ## Versions and their identifiers -/

/-- **A version is recorded under its identifier.** -/
def Identified (cfg : AlphaConfig) (db : AlphaDb) : Prop :=
  ∀ w d, db.get (.version w) = some d → d.id cfg = w

theorem Identified.append {d : VersionDocument} (h : Identified cfg db) :
    Identified cfg (db.append (.version (d.id cfg)) d) := by
  intro w d' hd'
  by_cases hw : w = d.id cfg
  · subst hw
    rw [get_append_self] at hd'
    cases hd'
    rfl
  · rw [get_append_ne _ _ (by simpa using hw)] at hd'
    exact h w d' hd'

theorem Identified.of_writes {K : AlphaKey → Prop} (h : Identified cfg db)
    (hw : Writes K db db') (hK : ∀ v, ¬ K (.version v)) : Identified cfg db' := by
  intro w d hd
  rw [hw.get_eq (hK w)] at hd
  exact h w d hd

theorem Identified.recordCatalog (h : Identified cfg db) (definition : CatalogDefinition) :
    Identified cfg (db.recordCatalog definition) := by
  unfold AlphaDb.recordCatalog
  split
  · exact h
  · exact h.append (d := .catalog definition)

/-! ## What the operations write of a version's enrolment -/

/-- **A change writes the registry, and the enrolment of the version it
enrols**, which was not killed. -/
theorem change_writes (hid : Identified cfg db) {actor : String} {expected : ℕ}
    {mode : RegistryMode} {days : Option ℤ} {renew : Bool} {now clock : Time} {g : ℕ}
    (h : db.change cfg v actor expected mode days renew now clock = .ok (db', g)) :
    Writes (fun k => k = .registry ∨ k = .probe v ∧ mode = .probe) db db'
      ∧ (mode = .probe → ¬ Killed cfg v db) := by
  obtain ⟨version, authorized, hv, hc, -, ha, rfl, -⟩ := change_ok h
  have hid' := hid v version hv
  -- the registry's record comes last: what is left is the authorization before it
  suffices Writes (fun k => k = .registry ∨ k = .probe v ∧ mode = .probe) db authorized
      ∧ (mode = .probe → ¬ Killed cfg v db) from
    ⟨this.1.append _ _ (Or.inl rfl), this.2⟩
  unfold AlphaDb.authorize at ha
  split at ha
  · rename_i definition
    obtain ⟨-, _, _, _, he⟩ := authorizeProbe_ok ha
    rw [show cfg.versionId definition = v from hid'] at he
    obtain ⟨hk, _, _, _, rfl⟩ := recordProbeEnrolment_ok he
    refine ⟨((Writes.refl db).append _ _ (Or.inr ⟨rfl, rfl⟩)).notice _ _, fun _ => ?_⟩
    rintro ⟨e, hget, hkilled⟩
    rw [hget] at hk
    exact Bool.false_ne_true (hk.symm.trans hkilled)
  · obtain ⟨_, -, ha⟩ := except_bind_eq_ok.mp ha
    cases ha
    exact ⟨Writes.refl db, fun hm => by cases hm⟩
  · rename_i hprobe _
    cases ha
    refine ⟨Writes.refl db, fun hm => ?_⟩
    cases version with
    | dsl definition => exact absurd rfl (hprobe definition hm)
    | catalog d =>
      rw [hc rfl] at hm
      cases hm

/-- **A catalog enrolment writes the registry, its version and its
enrolment**, and its version was not killed. -/
theorem enrolCatalogProbe_writes {definition : CatalogDefinition} {actor : String}
    {expected : ℕ} {days : Option ℤ} {renew : Bool} {now : Time} {g : ℕ}
    (h : db.enrolCatalogProbe cfg definition actor expected days renew now = .ok (db', g)) :
    Writes (fun k => k = .registry ∨ k = .probe definition.versionId)
        (db.recordCatalog definition) db'
      ∧ ¬ Killed cfg definition.versionId (db.recordCatalog definition) := by
  obtain ⟨enrolled, -, -, he, rfl, -⟩ := enrolCatalogProbe_ok h
  obtain ⟨hk, _, _, _, rfl⟩ := recordProbeEnrolment_ok he
  refine ⟨(((Writes.refl _).append _ _ (Or.inr rfl)).notice _ _).append _ _ (Or.inl rfl), ?_⟩
  rintro ⟨e, hget, hkilled⟩
  rw [hget] at hk
  exact Bool.false_ne_true (hk.symm.trans hkilled)

theorem sweepProbes_writes (db : AlphaDb) (cfg : AlphaConfig) (now : Time) :
    Writes (fun k => k = .registry) db (db.sweepProbes cfg now).1 := by
  rcases db.sweepProbes_cases cfg now with ⟨hs, hc⟩ | ⟨swept, probe, hs, hc, -, he⟩
  · refine ⟨?_, hc⟩
    rw [hs]
    exact .refl _
  · rw [he]
    refine ⟨?_, hc⟩
    show Projections.Appends _ db.store (swept.store.append .registry _)
    rw [hs]
    exact (Projections.Appends.refl _).append _ _ rfl

theorem recordCatalog_get (db : AlphaDb) (definition : CatalogDefinition) {k : AlphaKey}
    (hk : ∀ v, k ≠ .version v) : (db.recordCatalog definition).get k = db.get k := by
  unfold AlphaDb.recordCatalog
  split
  · rfl
  · rw [get_append_ne _ _ (hk _)]

theorem recordCatalog_closes (db : AlphaDb) (definition : CatalogDefinition) :
    (db.recordCatalog definition).closes = db.closes := by
  unfold AlphaDb.recordCatalog
  split <;> rfl

/-! ## What keeps a kill -/

/-- The same enrolment over the same closes. -/
theorem Killed.congr (h : Killed cfg v db) (hget : db'.get (.probe v) = db.get (.probe v))
    (hc : db'.closes = db.closes) : Killed cfg v db' := by
  obtain ⟨e, he, hk⟩ := h
  refine ⟨e, hget.trans he, ?_⟩
  unfold AlphaDb.loadForwardRecord at hk ⊢
  rw [hc]
  exact hk

theorem Killed.of_writes {K : AlphaKey → Prop} (h : Killed cfg v db) (hw : Writes K db db')
    (hK : ¬ K (.probe v)) : Killed cfg v db' :=
  h.congr (hw.get_eq hK) hw.closes

theorem Killed.recordCatalog (h : Killed cfg v db) (definition : CatalogDefinition) :
    Killed cfg v (db.recordCatalog definition) :=
  h.congr (recordCatalog_get db definition (by simp)) (recordCatalog_closes db definition)

/-- **Rows that stay below keep the kill**, when no close is lost. -/
theorem Killed.closes {rows new : List ClosedTrade} (h : Killed cfg v db)
    (hrows : rows.Perm (db.closes ++ new)) (hb : StaysBelow cfg v db rows) :
    Killed cfg v { db with closes := rows } := by
  obtain ⟨e, he, hk⟩ := h
  refine ⟨e, he, ?_⟩
  have hsum := hb e he
  unfold AlphaDb.loadForwardRecord forwardRecord at hk ⊢
  simp only [Bool.and_eq_true, decide_eq_true_eq] at hk ⊢
  refine ⟨?_, hsum⟩
  have hperm := ((hrows.filter (ClosedTrade.counts v e.firstEnrolledAt)).filterMap
    ClosedTrade.realizedR).length_eq
  rw [List.filter_append, List.filterMap_append, List.length_append] at hperm
  omega

/-! ## A killed version is out -/

theorem probeBlockReason_ne_none (h : Killed cfg v db) (now : Time) :
    db.probeBlockReason cfg v now ≠ none := by
  obtain ⟨e, he, hk⟩ := h
  unfold AlphaDb.probeBlockReason
  rw [he]
  split
  · exact Option.some_ne_none _
  · dsimp only
    split
    · exact Option.some_ne_none _
    · split
      · exact Option.some_ne_none _
      · exact Option.some_ne_none _

/-- What the records of some versions are. -/
theorem mem_documents {vs : List String} {ds : List VersionDocument}
    (h : db.documents vs = .ok ds) {d : VersionDocument} (hd : d ∈ ds) :
    ∃ w ∈ vs, db.get (.version w) = some d := by
  unfold AlphaDb.documents at h
  induction vs generalizing ds with
  | nil =>
    cases h
    cases hd
  | cons w vs ih =>
    rw [List.mapM_cons] at h
    obtain ⟨d₀, hd₀, h⟩ := except_bind_eq_ok.mp h
    obtain ⟨ds₀, hds₀, h⟩ := except_bind_eq_ok.mp h
    cases h
    rcases List.mem_cons.mp hd with rfl | hd
    · refine ⟨w, List.mem_cons_self .., ?_⟩
      cases hw : db.get (.version w) with
      | none =>
        rw [hw] at hd₀
        cases hd₀
      | some d' =>
        rw [hw] at hd₀
        cases hd₀
        rfl
    · obtain ⟨w', hw', hget⟩ := ih hds₀ hd
      exact ⟨w', List.mem_cons_of_mem _ hw', hget⟩

theorem mem_formulas {ds : List VersionDocument} {d : AlphaDefinition} :
    d ∈ AlphaDb.formulas ds ↔ VersionDocument.dsl d ∈ ds := by
  unfold AlphaDb.formulas
  rw [List.mem_filterMap]
  constructor
  · rintro ⟨x, hx, he⟩
    cases x with
    | dsl d' =>
      cases he
      exact hx
    | catalog d' => cases he
  · exact fun hd => ⟨_, hd, rfl⟩

theorem mem_catalogs {ds : List VersionDocument} {d : CatalogDefinition} :
    d ∈ AlphaDb.catalogs ds ↔ VersionDocument.catalog d ∈ ds := by
  unfold AlphaDb.catalogs
  rw [List.mem_filterMap]
  constructor
  · rintro ⟨x, hx, he⟩
    cases x with
    | dsl d' => cases he
    | catalog d' =>
      cases he
      exact hx
  · exact fun hd => ⟨_, hd, rfl⟩

/-- **A snapshot installs the active, the shadow and the live versions.** -/
theorem snapshot_installs (hid : Identified cfg db) {now : Time} {snap : RegistrySnapshot}
    (h : db.snapshot cfg now = .ok snap) :
    (∀ d ∈ snap.active, cfg.versionId d ∈ db.registry.active)
      ∧ (∀ d ∈ snap.shadow, cfg.versionId d ∈ db.registry.shadow)
      ∧ (∀ d ∈ snap.probe, cfg.versionId d ∈ db.liveProbes cfg db.registry now)
      ∧ ∀ d ∈ snap.catalogProbes, d.versionId ∈ db.liveProbes cfg db.registry now := by
  unfold AlphaDb.snapshot at h
  obtain ⟨active, ha, h⟩ := except_bind_eq_ok.mp h
  obtain ⟨shadow, hs, h⟩ := except_bind_eq_ok.mp h
  obtain ⟨probe, hp, h⟩ := except_bind_eq_ok.mp h
  cases h
  have listed : ∀ {vs : List String} {ds : List VersionDocument}, db.documents vs = .ok ds →
      ∀ d ∈ ds, d.id cfg ∈ vs := by
    intro vs ds hds d hd
    obtain ⟨w, hw, hget⟩ := mem_documents hds hd
    rw [hid w d hget]
    exact hw
  refine ⟨fun d hd => ?_, fun d hd => ?_, fun d hd => ?_, fun d hd => ?_⟩
  · exact listed ha _ (mem_formulas.mp hd)
  · exact listed hs _ (mem_formulas.mp hd)
  · exact listed hp _ (mem_formulas.mp hd)
  · exact listed hp _ (mem_catalogs.mp hd)

theorem isOk_eq_false_iff {α : Type} {e : Except String α} :
    e.isOk = false ↔ ∀ a, e ≠ .ok a := by
  cases e with
  | error m => simp [Except.isOk, Except.toBool]
  | ok a => simp [Except.isOk, Except.toBool]

/-- **A killed version that is a probe or inactive is out.** -/
theorem Killed.terminal (h : Killed cfg v db) (hid : Identified cfg db)
    (ha : v ∉ db.registry.active) (hs : v ∉ db.registry.shadow) : Terminal cfg v db where
  blocked := probeBlockReason_ne_none h
  installed now snap hsnap := by
    obtain ⟨hact, hsh, hpr, hcat⟩ := snapshot_installs hid hsnap
    have hlive : v ∉ db.liveProbes cfg db.registry now := by
      intro hin
      have hb := (List.mem_filter.mp hin).2
      exact probeBlockReason_ne_none h now (Option.isNone_iff_eq_none.mp hb)
    refine ⟨fun d hd he => ?_, fun d hd he => hlive (he ▸ hcat d hd)⟩
    rcases List.mem_append.mp hd with hd | hd
    · rcases List.mem_append.mp hd with hd | hd
      · exact ha (he ▸ hact d hd)
      · exact hs (he ▸ hsh d hd)
    · exact hlive (he ▸ hpr d hd)
  enrolProbe actor expected days renew now clock := by
    refine isOk_eq_false_iff.mpr fun r hr => ?_
    exact (change_writes hid (show db.change cfg v actor expected .probe days renew now clock
      = .ok (r.1, r.2) from hr)).2 rfl h
  enrolCatalogProbe definition actor expected days renew now hv := by
    refine isOk_eq_false_iff.mpr fun r hr => ?_
    refine (enrolCatalogProbe_writes (show _ = Except.ok (r.1, r.2) from hr)).2 ?_
    rw [hv]
    exact h.recordCatalog definition

/-! ## Along a run -/

theorem AlphaStep.identified (h : AlphaStep cfg db db') (hf : db.store.Faithful)
    (hid : Identified cfg db) : Identified cfg db' := by
  have of_change : ∀ {w actor expected mode days renew now clock g},
      db.change cfg w actor expected mode days renew now clock = .ok (db', g) →
      Identified cfg db' := by
    intro w actor expected mode days renew now clock g hc
    refine hid.of_writes (change_writes hid hc).1 ?_
    rintro u (hu | ⟨hu, -⟩) <;> cases hu
  cases h with
  | register definition =>
    unfold AlphaDb.register
    split
    · exact hid
    · exact hid.append (d := .dsl definition)
  | promote w actor expected now clock h => exact of_change h
  | setShadow w actor expected now clock h => exact of_change h
  | demote w actor expected now clock h => exact of_change h
  | enrolProbe w actor expected days renew now clock h => exact of_change h
  | enrolCatalogProbe definition actor expected days renew now h =>
    refine (hid.recordCatalog definition).of_writes (enrolCatalogProbe_writes h).1 ?_
    rintro u (hu | hu) <;> cases hu
  | sweepProbes now =>
    exact hid.of_writes (sweepProbes_writes db cfg now) (by rintro u hu; cases hu)
  | rebuild =>
    unfold AlphaDb.rebuild
    rw [Projections.rebuild_eq hf]
    exact hid
  | evidence k v hk =>
    refine hid.of_writes ((Writes.refl (K := fun k' => k' = k) db).append k v rfl) ?_
    rintro u rfl
    cases hk
  | close => exact hid
  | reorder => exact hid

theorem identified_holds (h : (alphaSystem cfg).Reachable db) : Identified cfg db := by
  refine TransitionSystem.Reachable.of_step (T := alphaSystem cfg) (I := Identified cfg)
    ?_ ?_ h
  · rintro _ rfl w d hd
    cases hd
  · intro a b ha hid hs
    exact AlphaStep.identified hs (registry_holds ha).2 hid

/-- What the lists hold after a change. -/
theorem change_members {actor : String} {expected : ℕ} {mode m : RegistryMode}
    {days : Option ℤ} {renew : Bool} {now clock : Time} {g : ℕ}
    (h : db.change cfg w actor expected mode days renew now clock = .ok (db', g))
    (hv : v ∈ db'.registry.members m) : v ∈ db.registry.members m ∨ v = w ∧ mode = m := by
  obtain ⟨version, authorized, -, -, -, -, rfl, -⟩ := change_ok h
  rw [registry_append, mem_members_place] at hv
  rcases hv with ⟨hv, -⟩ | ⟨hv, hm, -⟩
  · exact Or.inl hv
  · exact Or.inr ⟨hv, hm⟩

/-- **A call other than a promotion or a shadowing keeps a version out of
those lists.** -/
theorem RegistryCall.stays_out {c : RegistryCall} (h : c.run cfg db = .ok db')
    (hc : (killGuard cfg v).call db c) {m : RegistryMode} (hm : m = .active ∨ m = .shadow)
    (hv : v ∉ db.registry.members m) : v ∉ db'.registry.members m := by
  intro hv'
  cases c with
  | promote w actor expected now clock =>
    obtain ⟨g, hg⟩ := map_fst_eq_ok h
    rcases change_members hg hv' with hin | ⟨rfl, -⟩
    · exact hv hin
    · exact hc rfl
  | setShadow w actor expected now clock =>
    obtain ⟨g, hg⟩ := map_fst_eq_ok h
    rcases change_members hg hv' with hin | ⟨rfl, -⟩
    · exact hv hin
    · exact hc rfl
  | demote w actor expected now clock =>
    obtain ⟨g, hg⟩ := map_fst_eq_ok h
    rcases change_members hg hv' with hin | ⟨-, rfl⟩
    · exact hv hin
    · rcases hm with hm | hm <;> cases hm
  | enrolProbe w actor expected days renew now clock =>
    obtain ⟨g, hg⟩ := map_fst_eq_ok h
    rcases change_members hg hv' with hin | ⟨-, rfl⟩
    · exact hv hin
    · rcases hm with hm | hm <;> cases hm
  | enrolCatalogProbe definition actor expected days renew now =>
    obtain ⟨g, hg⟩ := map_fst_eq_ok h
    obtain ⟨enrolled, -, -, -, rfl, -⟩ := enrolCatalogProbe_ok hg
    rw [registry_append, mem_members_place] at hv'
    rcases hv' with ⟨hin, -⟩ | ⟨-, rfl, -⟩
    · exact hv hin
    · rcases hm with hm | hm <;> cases hm
  | sweepProbes now =>
    cases h
    rcases db.sweepProbes_cases cfg now with ⟨hs, -⟩ | ⟨swept, probe, -, -, -, he⟩
    · unfold AlphaDb.registry AlphaDb.get at hv' hv
      rw [hs] at hv'
      exact hv hv'
    · rw [he, registry_append] at hv'
      rcases hm with rfl | rfl <;> exact hv hv'

/-- **A call keeps a kill**: it would have to enrol the version. -/
theorem RegistryCall.killed {c : RegistryCall} (h : c.run cfg db = .ok db')
    (hid : Identified cfg db) (hk : Killed cfg v db) : Killed cfg v db' := by
  have of_change : ∀ {w actor expected mode days renew now clock g},
      db.change cfg w actor expected mode days renew now clock = .ok (db', g) →
      Killed cfg v db' := by
    intro w actor expected mode days renew now clock g hc
    obtain ⟨hw, hnot⟩ := change_writes hid hc
    refine hk.of_writes hw ?_
    rintro (hv | ⟨hv, hm⟩)
    · cases hv
    · cases hv
      exact hnot hm hk
  cases c with
  | promote w actor expected now clock =>
    obtain ⟨g, hg⟩ := map_fst_eq_ok h
    exact of_change hg
  | setShadow w actor expected now clock =>
    obtain ⟨g, hg⟩ := map_fst_eq_ok h
    exact of_change hg
  | demote w actor expected now clock =>
    obtain ⟨g, hg⟩ := map_fst_eq_ok h
    exact of_change hg
  | enrolProbe w actor expected days renew now clock =>
    obtain ⟨g, hg⟩ := map_fst_eq_ok h
    exact of_change hg
  | enrolCatalogProbe definition actor expected days renew now =>
    obtain ⟨g, hg⟩ := map_fst_eq_ok h
    obtain ⟨hw, hnot⟩ := enrolCatalogProbe_writes hg
    have hk' := hk.recordCatalog definition
    refine hk'.of_writes hw ?_
    rintro (hv | hv)
    · cases hv
    · cases hv
      exact hnot hk'
  | sweepProbes now =>
    cases h
    exact hk.of_writes (sweepProbes_writes db cfg now) (by intro hv; cases hv)

/-- What holds of a killed version along a run. -/
structure KilledInv (cfg : AlphaConfig) (v : String) (db : AlphaDb) : Prop where
  reachable : (alphaSystem cfg).Reachable db
  killed : Killed cfg v db
  active : v ∉ db.registry.active
  shadow : v ∉ db.registry.shadow

theorem KilledInv.step (h : KilledInv cfg v db)
    (hs : GuardedStep cfg (killGuard cfg v) db db') : KilledInv cfg v db' := by
  have hr := h.reachable.tail hs.step
  have hid := identified_holds h.reachable
  have hf := (registry_holds h.reachable).2
  -- a step that leaves the registry alone leaves the version out of both of its lists
  have of_same : db'.registry = db.registry → Killed cfg v db' → KilledInv cfg v db' :=
    fun he hk => ⟨hr, hk, by rw [he]; exact h.active, by rw [he]; exact h.shadow⟩
  cases hs with
  | call c commits guard =>
    exact ⟨hr, c.killed commits hid h.killed,
      c.stays_out commits guard (m := .active) (Or.inl rfl) h.active,
      c.stays_out commits guard (m := .shadow) (Or.inr rfl) h.shadow⟩
  | register definition =>
    refine of_same ?_ ?_ <;> unfold AlphaDb.register
    · split
      · rfl
      · simp [AlphaDb.registry]
    · split
      · exact h.killed
      · exact h.killed.congr (get_append_ne _ _ (by simp)) rfl
  | rebuild =>
    have he : db.rebuild = db := by
      unfold AlphaDb.rebuild
      rw [Projections.rebuild_eq hf]
    rw [he]
    exact h
  | evidence k x hk =>
    have hne : ∀ k', k'.ofRegistry = true → k' ≠ k := by
      rintro k' hk' rfl
      exact Bool.false_ne_true (hk.symm.trans hk')
    refine of_same ?_ (h.killed.congr (get_append_ne _ _ (hne _ rfl)) rfl)
    unfold AlphaDb.registry
    rw [get_append_ne _ _ (hne .registry rfl)]
  | close trade rows hrows guard => exact of_same rfl (h.killed.closes hrows guard)
  | reorder rows hrows guard =>
    -- another order of the rows is the guard's case without a new close
    have hnothing := hrows
    rw [← List.append_nil (AlphaDb.closes _)] at hnothing
    exact of_same rfl (h.killed.closes hnothing guard)

end

/-- **A killed probe is terminal as long as its later closes leave it killed.**
In every run from a database in which the version is killed, through any
enrolments, renewals, sweeps, demotions and closes in any order, in which the
closes as they are read leave the version's sum at `kill_r` or below: the
version is blocked at every time, installed by no snapshot, and refused by every
enrolment. -/
theorem killed_terminal (cfg : AlphaConfig) (v : String) {db : AlphaDb}
    (h : (killedSystem cfg v).Reachable db) : Terminal cfg v db := by
  have hinv : KilledInv cfg v db := by
    refine TransitionSystem.Reachable.of_step (T := killedSystem cfg v)
      (I := KilledInv cfg v) ?_ ?_ h
    · rintro a ⟨hr, hk, ha, hs⟩
      exact ⟨hr, hk, ha, hs⟩
    · intro a b _ ha hs
      exact ha.step hs
  exact hinv.killed.terminal (identified_holds hinv.reachable) hinv.active hinv.shadow

/-! ### A win after the kill -/

/-- A close of the sample version at a risk of 100. -/
def sampleProbeClose (pnl : ℚ) (exit : Time) : ClosedTrade :=
  ⟨some "momentum/v1", some pnl, some 100, exit, false⟩

def sampleKilled : AlphaDb :=
  { sampleProbed with closes := sampleProbed.closes ++ [sampleProbeClose (-500) 1] }

def sampleRevived : AlphaDb :=
  { sampleKilled with closes := sampleKilled.closes ++ [sampleProbeClose 300 2] }

theorem sampleKilled_reachable : (alphaSystem sampleAlphaConfig).Reachable sampleKilled :=
  sampleProbed_reachable.tail (AlphaStep.close _ _ (List.Perm.refl _))

theorem sampleKilled_killed : Killed sampleAlphaConfig "momentum/v1" sampleKilled := by
  have hsome : (sampleKilled.get (.probe "momentum/v1")).isSome = true := by decide +kernel
  obtain ⟨e, he⟩ := Option.isSome_iff_exists.mp hsome
  have hkilled : ((sampleKilled.get (.probe "momentum/v1")).map fun e =>
      (sampleKilled.loadForwardRecord "momentum/v1" e.firstEnrolledAt
        sampleAlphaConfig.probePolicy).killed) = some true := by decide +kernel
  rw [he] at hkilled
  exact ⟨e, he, by simpa using hkilled⟩

/-- A small loss closes after the kill, and its row is read first. -/
def sampleKilledAgain : AlphaDb :=
  { sampleKilled with closes := sampleProbeClose (-10) 2 :: sampleKilled.closes }

theorem sampleKilledAgain_below :
    StaysBelow sampleAlphaConfig "momentum/v1" sampleKilled sampleKilledAgain.closes := by
  intro e he
  have hsum : ((sampleKilled.get (.probe "momentum/v1")).map fun e =>
      (cumulativeR ((sampleKilledAgain.closes.filter
        (ClosedTrade.counts "momentum/v1" e.firstEnrolledAt)).filterMap
          ClosedTrade.realizedR)).le (.finite sampleAlphaConfig.probePolicy.killR))
      = some true := by decide +kernel
  rw [he] at hsum
  simpa using hsum

theorem killed_terminal_sample :
    (killedSystem sampleAlphaConfig "momentum/v1").Reachable sampleKilledAgain
      ∧ Terminal sampleAlphaConfig "momentum/v1" sampleKilledAgain := by
  have h₀ : (killedSystem sampleAlphaConfig "momentum/v1").Reachable sampleKilled :=
    TransitionSystem.Reachable.of_init ⟨sampleKilled_reachable, sampleKilled_killed,
      by decide +kernel, by decide +kernel⟩
  have h : (killedSystem sampleAlphaConfig "momentum/v1").Reachable sampleKilledAgain :=
    h₀.tail (GuardedStep.close (sampleProbeClose (-10) 2) _
      (List.perm_append_singleton _ _).symm sampleKilledAgain_below)
  exact ⟨h, killed_terminal _ _ h⟩

/-- **A win after the kill makes the version live again.** Two positions are
open; one loses 5 R, which kills the probe, and the other wins 3 R: nothing
blocks the version, the snapshot installs it, and its renewal is accepted. -/
theorem killed_live_again :
    ¬ (∀ cfg v db db', (alphaSystem cfg).Reachable db → Killed cfg v db →
        v ∉ db.registry.active → v ∉ db.registry.shadow →
        Relation.ReflTransGen (GuardedStep cfg (anyCloseGuard cfg v)) db db' →
        Terminal cfg v db')
      ∧ sampleKilled.probeBlockReason sampleAlphaConfig "momentum/v1" 1
        = some "probe kill rule reached (-5R <= -4R)"
      ∧ sampleRevived.probeBlockReason sampleAlphaConfig "momentum/v1" 2 = none
      ∧ (sampleRevived.snapshot sampleAlphaConfig 2).toOption.map (·.probe)
        = some [sampleDefinition]
      ∧ (sampleRevived.enrolProbe sampleAlphaConfig "momentum/v1" "operator" 4 none true 2
        2).isOk = true := by
  have hlive : sampleRevived.probeBlockReason sampleAlphaConfig "momentum/v1" 2 = none := by
    decide +kernel
  refine ⟨fun hall => ?_, by decide +kernel, hlive, by decide +kernel, by decide +kernel⟩
  have hterm := hall sampleAlphaConfig "momentum/v1" sampleKilled sampleRevived
    sampleKilled_reachable sampleKilled_killed (by decide +kernel) (by decide +kernel)
    (Relation.ReflTransGen.single (GuardedStep.close _ _ (List.Perm.refl _) trivial))
  exact hterm.blocked 2 hlive

end AgenticTrader
