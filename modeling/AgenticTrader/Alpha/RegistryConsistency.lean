import AgenticTrader.Alpha.Registry
import AgenticTrader.Library.Table
import AgenticTrader.Library.Transition

/-!
# The registry stays consistent

Six operations rewrite the three lists of the registry, each with its own
checks. What they have in common is said once (`RegistryEffect`): a step
leaves the lists alone, or places one version after every version of the same
alpha has left them, or removes probes. Everything the registry promises
follows from that: one list per version and one version per alpha, catalog
versions among the probes only, owners with disjoint symbols, and a generation
that counts the changes.

A version's record is written once, so what the lists say of a version keeps
its meaning; and the projections are only ever written by appending, so a
rebuild finds what was there.
-/

namespace AgenticTrader

open Projections (Appends rebuild_eq)

namespace AlphaDb

variable {db db' db'' : AlphaDb} {cfg : AlphaConfig}

/-! ## What is written -/

@[simp] theorem get_append_self (db : AlphaDb) (k : AlphaKey) (v : AlphaValue k) :
    (db.append k v).get k = some v := by
  simp [get, append]

@[simp] theorem get_append_ne (db : AlphaDb) {k k' : AlphaKey} (v : AlphaValue k)
    (h : k' ≠ k) : (db.append k v).get k' = db.get k' := by
  simp [get, append, h]

@[simp] theorem store_addNotice (db : AlphaDb) (key text : String) :
    (db.addNotice key text).store = db.store := by
  unfold addNotice
  split <;> rfl

@[simp] theorem closes_addNotice (db : AlphaDb) (key text : String) :
    (db.addNotice key text).closes = db.closes := by
  unfold addNotice
  split <;> rfl

@[simp] theorem get_addNotice (db : AlphaDb) (key text : String) (k : AlphaKey) :
    (db.addNotice key text).get k = db.get k := by
  simp [get]

/-- **The projections were appended to at keys of a kind**, and the trades are
as they were. -/
structure Writes (K : AlphaKey → Prop) (db db' : AlphaDb) : Prop where
  appends : Appends K db.store db'.store
  closes : db'.closes = db.closes

namespace Writes

variable {K L : AlphaKey → Prop}

theorem refl (db : AlphaDb) : Writes K db db := ⟨.refl _, rfl⟩

theorem trans (h : Writes K db db') (h' : Writes K db' db'') : Writes K db db'' :=
  ⟨h.appends.trans h'.appends, h'.closes.trans h.closes⟩

theorem append (h : Writes K db db') (k : AlphaKey) (v : AlphaValue k) (hk : K k) :
    Writes K db (db'.append k v) :=
  ⟨h.appends.append k v hk, h.closes⟩

theorem notice (h : Writes K db db') (key text : String) :
    Writes K db (db'.addNotice key text) :=
  ⟨by rw [store_addNotice]; exact h.appends, by rw [closes_addNotice]; exact h.closes⟩

theorem mono (hKL : ∀ k, K k → L k) (h : Writes K db db') : Writes L db db' :=
  ⟨h.appends.mono hKL, h.closes⟩

theorem get_eq (h : Writes K db db') {k : AlphaKey} (hk : ¬ K k) : db'.get k = db.get k :=
  h.appends.get_eq hk

end Writes

/-- The keys of enrolments. -/
def IsProbeKey (k : AlphaKey) : Prop := ∃ v, k = .probe v

/-! ## What the operations check -/

/-- **What an enrolment has checked, and what it writes.** -/
theorem recordProbeEnrolment_ok {registry : Registry} {versionId alphaId label : String}
    {ownerCheck : List String → Option String} {assessment : ProbeEvidence}
    {days : Option ℤ} {renew : Bool} {actor : String} {now : Time}
    (h : db.recordProbeEnrolment cfg registry versionId alphaId label ownerCheck assessment
      days renew actor now = .ok db') :
    (db.loadForwardRecord versionId
        (((db.get (.probe versionId)).map (·.firstEnrolledAt)).getD now)
        cfg.probePolicy).killed = false
      ∧ ∃ term key text, db' = (db.append (.probe versionId)
          (enrolment cfg (db.get (.probe versionId)) assessment term renew actor
            now)).addNotice key text := by
  unfold recordProbeEnrolment at h
  simp only [refuse_bind_eq_ok, Except.ok.injEq] at h
  obtain ⟨-, hk, -, -, -, rfl⟩ := h
  exact ⟨hk, _, _, _, rfl⟩

/-- **What the authorization of a DSL probe has checked.** -/
theorem authorizeProbe_ok {registry : Registry} {definition : AlphaDefinition}
    {days : Option ℤ} {renew : Bool} {actor : String} {now : Time}
    (h : db.authorizeProbe cfg registry definition days renew actor now = .ok db') :
    (∀ v ∈ registry.active, db.alphaIdOf? v ≠ some definition.alphaId)
      ∧ ∃ label ownerCheck assessment,
        db.recordProbeEnrolment cfg registry (cfg.versionId definition) definition.alphaId
          label ownerCheck assessment days renew actor now = .ok db' := by
  unfold authorizeProbe at h
  simp only [refuse_bind_eq_ok] at h
  obtain ⟨-, ha, -, -, -, -, h⟩ := h
  refine ⟨fun v hv he => ?_, _, _, _, h⟩
  rw [List.any_eq_false] at ha
  exact ha v hv (by simpa using he)

/-- **What an activation has checked** of the other owners. -/
theorem authorizeActive_ok {registry : Registry} {definition : AlphaDefinition}
    {versionId : String} {now clock : Time}
    (h : db.authorizeActive cfg registry definition versionId now clock = .ok ()) :
    ∀ v ∈ registry.active, db.ownsSymbolOf definition v = false := by
  unfold authorizeActive at h
  simp only [refuse_bind_eq_ok] at h
  obtain ⟨-, -, h⟩ := h
  obtain ⟨_, -, h⟩ := except_bind_eq_ok.mp h
  simp only [refuse_bind_eq_ok] at h
  obtain ⟨-, -, h⟩ := h
  unfold authorizeOwner at h
  split at h
  · rename_i hn
    intro v hv
    have hv' := List.find?_eq_none.mp hn v (List.mem_append_left _ hv)
    simpa using hv'
  · split at h <;> cases h

/-- **What an authorization writes**: at most an enrolment. -/
theorem authorize_writes {registry : Registry} {version : VersionDocument}
    {versionId : String} {mode : RegistryMode} {days : Option ℤ} {renew : Bool}
    {actor : String} {now clock : Time}
    (h : db.authorize cfg registry version versionId mode days renew actor now clock
      = .ok db') : Writes IsProbeKey db db' := by
  unfold authorize at h
  split at h
  · obtain ⟨-, _, _, _, he⟩ := authorizeProbe_ok h
    obtain ⟨-, _, _, _, rfl⟩ := recordProbeEnrolment_ok he
    exact ((Writes.refl db).append _ _ ⟨_, rfl⟩).notice _ _
  · rw [except_bind_eq_ok] at h
    obtain ⟨-, -, h⟩ := h
    cases h
    exact Writes.refl db
  · cases h
    exact Writes.refl db

/-- **What a change of the registry has checked, and what it writes.** -/
theorem change_ok {versionId actor : String} {expected : ℕ} {mode : RegistryMode}
    {days : Option ℤ} {renew : Bool} {now clock : Time} {g : ℕ}
    (h : db.change cfg versionId actor expected mode days renew now clock = .ok (db', g)) :
    ∃ version authorized, db.get (.version versionId) = some version
      ∧ (version.isCatalog = true → mode = .inactive)
      ∧ db.registry.generation = expected
      ∧ db.authorize cfg db.registry version versionId mode days renew actor now clock
        = .ok authorized
      ∧ db' = authorized.append .registry
        ((authorized.supersede db.registry version.alphaId).place mode versionId)
      ∧ g = ((authorized.supersede db.registry version.alphaId).place mode
        versionId).generation := by
  unfold change at h
  split at h
  · cases h
  · rename_i version hv
    simp only [refuse_bind_eq_ok] at h
    obtain ⟨hc, hg, h⟩ := h
    obtain ⟨authorized, ha, h⟩ := except_bind_eq_ok.mp h
    cases h
    refine ⟨version, authorized, hv, fun hcat => ?_, by simpa using hg, ha, rfl, rfl⟩
    rw [hcat] at hc
    simpa using hc

/-- **What a catalog enrolment has checked, and what it writes.** -/
theorem enrolCatalogProbe_ok {definition : CatalogDefinition} {actor : String}
    {expected : ℕ} {days : Option ℤ} {renew : Bool} {now : Time} {g : ℕ}
    (h : db.enrolCatalogProbe cfg definition actor expected days renew now = .ok (db', g)) :
    ∃ enrolled, (∀ d, db.get (.version definition.versionId) = some d →
        d = .catalog definition)
      ∧ db.registry.generation = expected
      ∧ (db.recordCatalog definition).recordProbeEnrolment cfg db.registry
        definition.versionId definition.alphaId (catalogLabel definition) (fun _ => none)
        (.study definition.studyResultSha256 definition.studyMeanR) days renew actor now
        = .ok enrolled
      ∧ db' = enrolled.append .registry
        ((enrolled.supersede db.registry definition.alphaId).place .probe
          definition.versionId)
      ∧ g = ((enrolled.supersede db.registry definition.alphaId).place .probe
        definition.versionId).generation := by
  unfold enrolCatalogProbe at h
  simp only [refuse_bind_eq_ok] at h
  obtain ⟨-, -, -, hd, hg, -, h⟩ := h
  obtain ⟨enrolled, he, h⟩ := except_bind_eq_ok.mp h
  cases h
  refine ⟨enrolled, fun d hd' => ?_, by simpa using hg, he, rfl, rfl⟩
  rw [hd'] at hd
  simpa using hd

/-- The record of a catalog version after its enrolment. -/
theorem get_recordCatalog {definition : CatalogDefinition}
    (h : ∀ d, db.get (.version definition.versionId) = some d → d = .catalog definition) :
    (db.recordCatalog definition).get (.version definition.versionId)
      = some (.catalog definition) := by
  unfold recordCatalog
  split
  · rename_i hs
    obtain ⟨d, hd⟩ := Option.isSome_iff_exists.mp hs
    rw [hd, h d hd]
  · simp

variable (cfg) in
/-- What the sweep writes before it writes the registry. -/
theorem sweep_fold (now : Time) (db₀ : AlphaDb) (vs : List String)
    (state : AlphaDb × List String × List String) :
    (vs.foldl (db₀.sweepProbe cfg now) state).1.store = state.1.store
      ∧ (vs.foldl (db₀.sweepProbe cfg now) state).1.closes = state.1.closes
      ∧ (vs.foldl (db₀.sweepProbe cfg now) state).2.1.Sublist state.2.1 := by
  induction vs generalizing state with
  | nil => exact ⟨rfl, rfl, List.Sublist.refl _⟩
  | cons v vs ih =>
    have hstep : (db₀.sweepProbe cfg now state v).1.store = state.1.store
        ∧ (db₀.sweepProbe cfg now state v).1.closes = state.1.closes
        ∧ (db₀.sweepProbe cfg now state v).2.1.Sublist state.2.1 := by
      unfold sweepProbe
      split
      · exact ⟨rfl, rfl, List.Sublist.refl _⟩
      · exact ⟨by simp, by simp, List.erase_sublist⟩
    obtain ⟨hs, hc, hl⟩ := ih (db₀.sweepProbe cfg now state v)
    exact ⟨hs.trans hstep.1, hc.trans hstep.2.1, hl.trans hstep.2.2⟩

/-- **What a sweep writes**: nothing, or the registry without some probes. -/
theorem sweepProbes_cases (db : AlphaDb) (cfg : AlphaConfig) (now : Time) :
    ((db.sweepProbes cfg now).1.store = db.store
        ∧ (db.sweepProbes cfg now).1.closes = db.closes)
      ∨ ∃ (swept : AlphaDb) (probe : List String), swept.store = db.store ∧ swept.closes = db.closes
        ∧ probe.Sublist db.registry.probe
        ∧ (db.sweepProbes cfg now).1 = swept.append .registry
          { db.registry with generation := db.registry.generation + 1, probe := probe } := by
  obtain ⟨hs, hc, hl⟩ := sweep_fold cfg now db db.registry.probe
    (db, db.registry.probe, [])
  unfold sweepProbes
  dsimp only
  split
  · exact Or.inl ⟨hs, hc⟩
  · exact Or.inr ⟨_, _, hs, hc, hl, rfl⟩

/-! ## Versions -/

/-- **A version that was written stays as it is.** -/
def VersionsKept (db db' : AlphaDb) : Prop :=
  ∀ v d, db.get (.version v) = some d → db'.get (.version v) = some d

theorem VersionsKept.of_writes {K : AlphaKey → Prop} (h : Writes K db db')
    (hK : ∀ v, ¬ K (.version v)) : VersionsKept db db' := by
  intro v d hd
  rw [h.get_eq (hK v)]
  exact hd

theorem VersionsKept.trans (h : VersionsKept db db') (h' : VersionsKept db' db'') :
    VersionsKept db db'' := fun v d hd => h' v d (h v d hd)

/-- A version that is new, or one that is there already. -/
theorem VersionsKept.append_version {v : String} {d : VersionDocument}
    (h : db.get (.version v) = none) : VersionsKept db (db.append (.version v) d) := by
  intro w e he
  by_cases hw : w = v
  · subst hw
    rw [h] at he
    cases he
  · rw [get_append_ne _ _ (by simpa using hw)]
    exact he

theorem VersionsKept.alphaIdOf? (h : VersionsKept db db') {v : String}
    (hv : (db.get (.version v)).isSome) : db'.alphaIdOf? v = db.alphaIdOf? v := by
  obtain ⟨d, hd⟩ := Option.isSome_iff_exists.mp hv
  unfold AlphaDb.alphaIdOf?
  rw [hd, h v d hd]

theorem VersionsKept.symbolsOf (h : VersionsKept db db') {v : String}
    (hv : (db.get (.version v)).isSome) : db'.symbolsOf v = db.symbolsOf v := by
  obtain ⟨d, hd⟩ := Option.isSome_iff_exists.mp hv
  unfold AlphaDb.symbolsOf
  rw [hd, h v d hd]

theorem recordCatalog_kept (db : AlphaDb) (definition : CatalogDefinition) :
    VersionsKept db (db.recordCatalog definition) := by
  unfold recordCatalog
  split
  · exact fun _ _ hd => hd
  · rename_i hn
    exact .append_version (by simpa using hn)

theorem register_kept (db : AlphaDb) (cfg : AlphaConfig) (definition : AlphaDefinition) :
    VersionsKept db (db.register cfg definition) := by
  unfold register
  split
  · exact fun _ _ hd => hd
  · rename_i hn
    exact .append_version (by simpa using hn)

/-- The registry is written on top of the versions. -/
theorem supersede_append (db : AlphaDb) (r r' : Registry) (alphaId : String) :
    (db.append .registry r').supersede r alphaId = db.supersede r alphaId := by
  simp [supersede, AlphaDb.alphaIdOf?]

theorem registry_append (db : AlphaDb) (r : Registry) :
    (db.append .registry r).registry = r := by
  simp [registry]

end AlphaDb

open AlphaDb

/-! ## What a step does to the registry -/

/-- **What a step can do to the lists.** -/
inductive RegistryEffect (db db' : AlphaDb) : Prop where
  | same (registry : db'.registry = db.registry)
  /-- Every version of an alpha leaves, and one of them is placed. -/
  | placed (mode : RegistryMode) (v : String) (doc : VersionDocument)
      (record : db'.get (.version v) = some doc)
      (catalog : doc.isCatalog = true → mode = .inactive ∨ mode = .probe)
      (owner : mode = .active → ∀ w ∈ db.registry.active,
        db'.alphaIdOf? w ≠ some doc.alphaId → ∀ s ∈ db'.symbolsOf w, s ∉ doc.symbols)
      (registry : db'.registry = (db'.supersede db.registry doc.alphaId).place mode v)
  /-- Some probes are retired. -/
  | swept (probe : List String) (sub : probe.Sublist db.registry.probe)
      (registry : db'.registry = { db.registry with
        generation := db.registry.generation + 1, probe := probe })

section

variable {cfg : AlphaConfig} {db db' : AlphaDb}

/-- An owner without a conflict shares no symbol. -/
theorem AlphaDb.not_mem_of_ownsSymbolOf {definition : AlphaDefinition} {w : String}
    (h : db.ownsSymbolOf definition w = false)
    (ha : db.alphaIdOf? w ≠ some definition.alphaId) :
    ∀ s ∈ db.symbolsOf w, s ∉ definition.symbols := by
  intro s hs hd
  unfold ownsSymbolOf at h
  unfold alphaIdOf? at ha
  unfold symbolsOf at hs
  cases hw : db.get (.version w) with
  | none =>
    rw [hw] at hs
    cases hs
  | some doc =>
    rw [hw] at h ha hs
    cases doc with
    | catalog c => cases hs
    | dsl incumbent =>
      have hid : incumbent.alphaId ≠ definition.alphaId := fun he => ha (by
        show some incumbent.alphaId = _
        rw [he])
      have hs' : s ∈ incumbent.symbols := hs
      simp only [Bool.and_eq_false_iff, bne_eq_false_iff_eq, List.any_eq_false] at h
      rcases h with h | h
      · exact hid h
      · exact h s hs' (by simpa using hd)

theorem AlphaDb.change_effect {versionId actor : String} {expected : ℕ}
    {mode : RegistryMode} {days : Option ℤ} {renew : Bool} {now clock : Time} {g : ℕ}
    (h : db.change cfg versionId actor expected mode days renew now clock = .ok (db', g)) :
    RegistryEffect db db' ∧ VersionsKept db db'
      ∧ Writes (fun k => k.ofRegistry = true) db db' := by
  obtain ⟨version, authorized, hv, hc, -, ha, rfl, -⟩ := change_ok h
  have hw := authorize_writes ha
  have hkept : VersionsKept db (authorized.append .registry
      ((authorized.supersede db.registry version.alphaId).place mode versionId)) :=
    (VersionsKept.of_writes hw (by rintro v ⟨w, hw⟩; cases hw)).trans
      (VersionsKept.of_writes ((Writes.refl (K := fun k => k = .registry) authorized).append
        .registry _ rfl) (by intro v hv; cases hv))
  refine ⟨.placed mode versionId version (hkept _ _ hv) (fun hcat => Or.inl (hc hcat)) ?_ ?_,
    hkept, ?_⟩
  · rintro rfl w hw' hne s hs
    unfold authorize at ha
    cases version with
    | catalog d => cases hc rfl
    | dsl definition =>
      obtain ⟨_, hact, ha⟩ := except_bind_eq_ok.mp ha
      cases ha
      have hown := authorizeActive_ok hact w hw'
      simp only [AlphaDb.alphaIdOf?, AlphaDb.symbolsOf, ne_eq, reduceCtorEq,
        not_false_eq_true, get_append_ne] at hne hs
      exact not_mem_of_ownsSymbolOf hown hne s hs
  · rw [registry_append, supersede_append]
  · refine (hw.mono ?_).append _ _ rfl
    rintro k ⟨v, rfl⟩
    rfl

theorem AlphaDb.enrolCatalogProbe_effect {definition : CatalogDefinition} {actor : String}
    {expected : ℕ} {days : Option ℤ} {renew : Bool} {now : Time} {g : ℕ}
    (h : db.enrolCatalogProbe cfg definition actor expected days renew now = .ok (db', g)) :
    RegistryEffect db db' ∧ VersionsKept db db'
      ∧ Writes (fun k => k.ofRegistry = true) db db' := by
  obtain ⟨enrolled, hd, -, he, rfl, -⟩ := enrolCatalogProbe_ok h
  obtain ⟨-, term, key, text, rfl⟩ := recordProbeEnrolment_ok he
  have hrec := get_recordCatalog hd
  have hcat : Writes (fun k => k.ofRegistry = true) db (db.recordCatalog definition) := by
    unfold recordCatalog
    split
    · exact Writes.refl db
    · exact (Writes.refl db).append _ _ rfl
  have hkept := recordCatalog_kept db definition
  generalize db.recordCatalog definition = recorded at *
  refine ⟨.placed .probe definition.versionId (.catalog definition) ?_ (fun _ => Or.inr rfl)
    (fun hm => by cases hm) ?_, ?_, ?_⟩
  · simpa using hrec
  · rw [registry_append, supersede_append]
    rfl
  · refine hkept.trans (VersionsKept.of_writes (K := fun k => k = .registry ∨ IsProbeKey k)
      (((Writes.refl _).append _ _ (Or.inr ⟨_, rfl⟩)).notice _ _ |>.append _ _ (Or.inl rfl)) ?_)
    rintro v (hv | ⟨w, hv⟩) <;> cases hv
  · exact (((hcat.append _ _ rfl).notice _ _).append _ _ rfl)

theorem AlphaDb.sweepProbes_effect (db : AlphaDb) (cfg : AlphaConfig) (now : Time) :
    RegistryEffect db (db.sweepProbes cfg now).1
      ∧ VersionsKept db (db.sweepProbes cfg now).1
      ∧ Writes (fun k => k.ofRegistry = true) db (db.sweepProbes cfg now).1 := by
  rcases db.sweepProbes_cases cfg now with ⟨hs, hc⟩ | ⟨swept, probe, hs, hc, hl, he⟩
  · have hget : ∀ k, (db.sweepProbes cfg now).1.get k = db.get k := by
      intro k
      unfold AlphaDb.get
      rw [hs]
    refine ⟨.same (by unfold AlphaDb.registry; rw [hget]), fun v d hd => by rw [hget]; exact hd,
      ⟨?_, hc⟩⟩
    rw [hs]
    exact .refl _
  · rw [he]
    refine ⟨.swept probe hl (by rw [registry_append]), fun v d hd => ?_, ⟨?_, hc⟩⟩
    · rw [get_append_ne _ _ (by simp)]
      unfold AlphaDb.get at *
      rw [hs]
      exact hd
    · show Appends _ db.store (swept.store.append .registry _)
      rw [hs]
      exact (Appends.refl _).append _ _ rfl

/-- **Every step has such an effect**, keeps the versions, and appends. -/
theorem AlphaStep.effect (h : AlphaStep cfg db db') (hf : db.store.Faithful) :
    RegistryEffect db db' ∧ VersionsKept db db' ∧ db'.store.Faithful := by
  have of_writes : ∀ {a : AlphaDb}, RegistryEffect db a ∧ VersionsKept db a
      ∧ Writes (fun k => k.ofRegistry = true) db a →
      RegistryEffect db a ∧ VersionsKept db a ∧ a.store.Faithful :=
    fun ⟨he, hk, hw⟩ => ⟨he, hk, hw.appends.faithful hf⟩
  cases h with
  | register definition =>
    refine ⟨.same ?_, register_kept db cfg definition, ?_⟩
    · unfold AlphaDb.register AlphaDb.registry
      split
      · rfl
      · simp
    · unfold AlphaDb.register
      split
      · exact hf
      · exact hf.append _ _
  | promote versionId actor expected now clock h => exact of_writes (change_effect h)
  | setShadow versionId actor expected now clock h => exact of_writes (change_effect h)
  | demote versionId actor expected now clock h => exact of_writes (change_effect h)
  | enrolProbe versionId actor expected days renew now clock h =>
    exact of_writes (change_effect h)
  | enrolCatalogProbe definition actor expected days renew now h =>
    exact of_writes (enrolCatalogProbe_effect h)
  | sweepProbes now => exact of_writes (db.sweepProbes_effect cfg now)
  | rebuild =>
    have he : db.rebuild = db := by
      unfold AlphaDb.rebuild
      rw [rebuild_eq hf]
    rw [he]
    exact ⟨.same rfl, fun _ _ hd => hd, hf⟩
  | evidence k v hk =>
    have hne : ∀ k', k'.ofRegistry = true → k' ≠ k := by
      rintro k' hk' rfl
      rw [hk] at hk'
      cases hk'
    refine ⟨.same ?_, fun w d hd => ?_, hf.append k v⟩
    · unfold AlphaDb.registry
      rw [get_append_ne _ _ (hne .registry rfl)]
    · rw [get_append_ne _ _ (hne (.version w) rfl)]
      exact hd
  | close => exact ⟨.same rfl, fun _ _ hd => hd, hf⟩
  | reorder => exact ⟨.same rfl, fun _ _ hd => hd, hf⟩

/-! ## The invariant -/

/-- **The invariant of the registry.** -/
structure RegistryInv (db : AlphaDb) : Prop where
  recorded : ∀ v ∈ db.registry.listed, (db.get (.version v)).isSome
  alphas : (db.registry.listed.map db.alphaIdOf?).Nodup
  catalog : ∀ v ∈ db.registry.active ++ db.registry.shadow, ∀ d,
    db.get (.version v) = some d → d.isCatalog = false
  symbols : ∀ v ∈ db.registry.active, ∀ w ∈ db.registry.active, v ≠ w →
    ∀ s ∈ db.symbolsOf v, s ∉ db.symbolsOf w

theorem mem_sortedInsert {v w : String} {l : List String} :
    w ∈ sortedInsert v l ↔ w ∈ l ∨ w = v := by
  simp [sortedInsert]

theorem sortedInsert_perm (v : String) (l : List String) : (sortedInsert v l).Perm (v :: l) :=
  (List.mergeSort_perm _ _).trans (List.perm_append_singleton v l)

/-- The versions listed after a placement. -/
theorem Registry.listed_place (r : Registry) (mode : RegistryMode) (v : String) :
    (r.place mode v).listed.Perm (if mode = .inactive then r.listed else v :: r.listed) := by
  have hins := fun l => sortedInsert_perm v l
  cases mode with
  | inactive => exact List.Perm.refl _
  | shadow =>
    show (r.active ++ sortedInsert v r.shadow ++ r.probe).Perm
      (v :: (r.active ++ r.shadow ++ r.probe))
    refine (((hins r.shadow).append_left r.active).append_right r.probe).trans ?_
    exact (List.perm_middle.append_right r.probe)
  | probe =>
    show (r.active ++ r.shadow ++ sortedInsert v r.probe).Perm
      (v :: (r.active ++ r.shadow ++ r.probe))
    exact ((hins r.probe).append_left _).trans List.perm_middle
  | active =>
    show (sortedInsert v r.active ++ r.shadow ++ r.probe).Perm
      (v :: (r.active ++ r.shadow ++ r.probe))
    exact ((hins r.active).append_right _).append_right _

theorem AlphaDb.listed_supersede (db : AlphaDb) (r : Registry) (alphaId : String) :
    (db.supersede r alphaId).listed
      = r.listed.filter (fun v => db.alphaIdOf? v != some alphaId) := by
  simp [supersede, Registry.listed]

/-- The list of a mode. -/
def Registry.members (r : Registry) : RegistryMode → List String
  | .inactive => []
  | .shadow => r.shadow
  | .probe => r.probe
  | .active => r.active

/-- **The lists after a placement**: the versions of other alphas, and the
placed one in the list of its mode. -/
theorem AlphaDb.mem_members_place {r : Registry} {alphaId : String} {mode m : RegistryMode}
    {v w : String} :
    w ∈ ((db.supersede r alphaId).place mode v).members m
      ↔ (w ∈ r.members m ∧ db.alphaIdOf? w ≠ some alphaId)
        ∨ w = v ∧ mode = m ∧ m ≠ .inactive := by
  cases mode <;> cases m <;>
    simp [Registry.members, Registry.place, supersede, mem_sortedInsert]

/-- The listed versions have the alphas and symbols they had. -/
theorem RegistryInv.carried (hi : RegistryInv db) (hk : VersionsKept db db') {v : String}
    (hv : v ∈ db.registry.listed) :
    (db'.get (.version v)).isSome ∧ db'.alphaIdOf? v = db.alphaIdOf? v
      ∧ db'.symbolsOf v = db.symbolsOf v ∧ db'.get (.version v) = db.get (.version v) := by
  have hr := hi.recorded v hv
  obtain ⟨d, hd⟩ := Option.isSome_iff_exists.mp hr
  have hd' := hk v d hd
  exact ⟨by rw [hd']; rfl, hk.alphaIdOf? hr, hk.symbolsOf hr, by rw [hd, hd']⟩

theorem RegistryInv.map_carried (hi : RegistryInv db) (hk : VersionsKept db db') :
    db.registry.listed.map db'.alphaIdOf? = db.registry.listed.map db.alphaIdOf? :=
  List.map_congr_left (fun _ hv => (hi.carried hk hv).2.1)

/-- A registry whose lists only lost versions. -/
theorem RegistryInv.of_sublists (hi : RegistryInv db) (hk : VersionsKept db db')
    (hl : db'.registry.listed.Sublist db.registry.listed)
    (ha : ∀ v ∈ db'.registry.active, v ∈ db.registry.active)
    (hs : ∀ v ∈ db'.registry.shadow, v ∈ db.registry.shadow) : RegistryInv db' where
  recorded v hv := (hi.carried hk (hl.subset hv)).1
  alphas := by
    have hn := hi.alphas
    rw [← hi.map_carried hk] at hn
    exact hn.sublist (hl.map _)
  catalog := by
    intro v hv d hd
    have hv' : v ∈ db.registry.active ++ db.registry.shadow := by
      rcases List.mem_append.mp hv with hv | hv
      · exact List.mem_append_left _ (ha v hv)
      · exact List.mem_append_right _ (hs v hv)
    have hl' : v ∈ db.registry.listed := List.mem_append_left _ hv'
    rw [(hi.carried hk hl').2.2.2] at hd
    exact hi.catalog v hv' d hd
  symbols := by
    intro v hv w hw hne s hs'
    have hlist : ∀ u ∈ db'.registry.active, u ∈ db.registry.listed := fun u hu =>
      List.mem_append_left _ (List.mem_append_left _ (ha u hu))
    rw [(hi.carried hk (hlist v hv)).2.2.1] at hs'
    rw [(hi.carried hk (hlist w hw)).2.2.1]
    exact hi.symbols v (ha v hv) w (ha w hw) hne s hs'

/-- **A placement keeps the invariant.** -/
theorem RegistryInv.placed (hi : RegistryInv db) (hk : VersionsKept db db')
    {mode : RegistryMode} {v : String} {doc : VersionDocument}
    (record : db'.get (.version v) = some doc)
    (catalog : doc.isCatalog = true → mode = .inactive ∨ mode = .probe)
    (owner : mode = .active → ∀ w ∈ db.registry.active,
      db'.alphaIdOf? w ≠ some doc.alphaId → ∀ s ∈ db'.symbolsOf w, s ∉ doc.symbols)
    (registry : db'.registry = (db'.supersede db.registry doc.alphaId).place mode v) :
    RegistryInv db' := by
  have hv : db'.alphaIdOf? v = some doc.alphaId := by
    unfold AlphaDb.alphaIdOf?
    rw [record]
    rfl
  have hperm := (db'.supersede db.registry doc.alphaId).listed_place mode v
  rw [listed_supersede, ← registry] at hperm
  have hmem : ∀ w ∈ db'.registry.listed, w ∈ db.registry.listed ∨ w = v := by
    intro w hw
    have hw' := hperm.mem_iff.mp hw
    split at hw'
    · exact Or.inl (List.mem_of_mem_filter hw')
    · rcases List.mem_cons.mp hw' with rfl | hw'
      · exact Or.inr rfl
      · exact Or.inl (List.mem_of_mem_filter hw')
  -- the kept versions are of other alphas, so the placed one is the only one of its own
  have hkeep : ((db.registry.listed.filter
      (fun w => db'.alphaIdOf? w != some doc.alphaId)).map db'.alphaIdOf?).Nodup := by
    have hn := hi.alphas
    rw [← hi.map_carried hk] at hn
    exact hn.sublist (List.filter_sublist.map _)
  refine ⟨fun w hw => ?_, ?_, fun w hw d hd => ?_, fun a ha b hb hab s hs => ?_⟩
  · rcases hmem w hw with hw | rfl
    · exact (hi.carried hk hw).1
    · rw [record]
      rfl
  · rw [(hperm.map _).nodup_iff]
    split
    · exact hkeep
    · rw [List.map_cons, List.nodup_cons]
      refine ⟨?_, hkeep⟩
      rw [hv]
      rintro hin
      obtain ⟨w, hw, he⟩ := List.mem_map.mp hin
      have hne := (List.mem_filter.mp hw).2
      rw [he] at hne
      simp at hne
  · have hcases : (w ∈ db.registry.active ++ db.registry.shadow)
        ∨ w = v ∧ (mode = .active ∨ mode = .shadow) := by
      rw [registry] at hw
      rcases List.mem_append.mp hw with hw | hw
      · rcases mem_members_place (m := .active).mp hw with ⟨hw, -⟩ | ⟨rfl, hm, -⟩
        · exact Or.inl (List.mem_append_left _ hw)
        · exact Or.inr ⟨rfl, Or.inl hm⟩
      · rcases mem_members_place (m := .shadow).mp hw with ⟨hw, -⟩ | ⟨rfl, hm, -⟩
        · exact Or.inl (List.mem_append_right _ hw)
        · exact Or.inr ⟨rfl, Or.inr hm⟩
    rcases hcases with hw' | ⟨rfl, hm⟩
    · have hl : w ∈ db.registry.listed := List.mem_append_left _ hw'
      rw [(hi.carried hk hl).2.2.2] at hd
      exact hi.catalog w hw' d hd
    · rw [record] at hd
      cases hd
      by_contra hcat
      rcases catalog (by simpa using hcat) with rfl | rfl <;> rcases hm with hm | hm <;>
        cases hm
  · have hlist : ∀ u ∈ db.registry.active, u ∈ db.registry.listed := fun u hu =>
      List.mem_append_left _ (List.mem_append_left _ hu)
    have hdoc : db'.symbolsOf v = doc.symbols := by
      unfold AlphaDb.symbolsOf
      rw [record]
      rfl
    rw [registry] at ha hb
    rcases mem_members_place (m := .active).mp ha with ⟨ha', hna⟩ | ⟨rfl, hm, -⟩
    · rcases mem_members_place (m := .active).mp hb with ⟨hb', -⟩ | ⟨rfl, hm, -⟩
      · rw [(hi.carried hk (hlist a ha')).2.2.1] at hs
        rw [(hi.carried hk (hlist b hb')).2.2.1]
        exact hi.symbols a ha' b hb' hab s hs
      · rw [hdoc]
        exact owner hm a ha' hna s hs
    · rcases mem_members_place (m := .active).mp hb with ⟨hb', hnb⟩ | ⟨rfl, -⟩
      · rw [hdoc] at hs
        exact fun hsb => owner hm b hb' hnb s hsb hs
      · exact absurd rfl hab

/-- **Every effect keeps the invariant.** -/
theorem RegistryEffect.inv (h : RegistryEffect db db') (hk : VersionsKept db db')
    (hi : RegistryInv db) : RegistryInv db' := by
  cases h with
  | same he =>
    refine hi.of_sublists hk ?_ ?_ ?_ <;> rw [he]
    · exact fun _ hv => hv
    · exact fun _ hv => hv
  | placed mode v doc record catalog owner registry =>
    exact hi.placed hk record catalog owner registry
  | swept probe sub he =>
    refine hi.of_sublists hk ?_ ?_ ?_ <;> rw [he]
    · exact (List.Sublist.refl _).append sub
    · exact fun _ hv => hv
    · exact fun _ hv => hv

/-- **A change of the registry is one generation.** -/
theorem RegistryEffect.generation (h : RegistryEffect db db') :
    db'.registry = db.registry
      ∨ db'.registry.generation = db.registry.generation + 1 := by
  cases h with
  | same he => exact Or.inl he
  | placed mode v doc record catalog owner registry =>
    refine Or.inr ?_
    rw [registry]
    cases mode <;> rfl
  | swept probe sub he =>
    refine Or.inr ?_
    rw [he]

end

/-- **The system of the registry.** -/
def alphaSystem (cfg : AlphaConfig) : TransitionSystem AlphaDb where
  init db := db = .empty
  step := AlphaStep cfg

section

variable {cfg : AlphaConfig} {db db' : AlphaDb}

theorem registry_holds (h : (alphaSystem cfg).Reachable db) :
    RegistryInv db ∧ db.store.Faithful := by
  refine TransitionSystem.Reachable.of_step (T := alphaSystem cfg)
    (I := fun db => RegistryInv db ∧ db.store.Faithful) ?_ ?_ h
  · rintro _ rfl
    refine ⟨⟨fun v hv => ?_, List.nodup_nil, fun v hv => ?_, fun v hv => ?_⟩,
      Projections.faithful_empty⟩ <;> cases hv
  · rintro a b - ⟨hi, hf⟩ hs
    obtain ⟨he, hk, hf'⟩ := AlphaStep.effect hs hf
    exact ⟨he.inv hk hi, hf'⟩

theorem versions_run (h : (alphaSystem cfg).Reachable db)
    (hr : (alphaSystem cfg).Run db db') : VersionsKept db db' := by
  refine TransitionSystem.Run.rel_of_step (T := alphaSystem cfg) (R := VersionsKept)
    (fun _ _ _ hd => hd) (fun _ _ _ => VersionsKept.trans) ?_ h hr
  intro a b ha hs
  exact (AlphaStep.effect hs (registry_holds ha).2).2.1

end

/-- **The registry stays consistent.** In every reachable state: a version is
in at most one list and an alpha has at most one version in the three; a
listed version has a record; a catalog version is listed among the probes
only; two active versions share no symbol; and a rebuild leaves every
projection as it is. Every step leaves the registry alone or counts the
generation up by one, and an operator's change commits only at the generation
it expects. A version's record never changes along a run. -/
theorem registry_consistent (cfg : AlphaConfig) {db : AlphaDb}
    (h : (alphaSystem cfg).Reachable db) :
    (db.registry.listed.Nodup ∧ (db.registry.listed.map db.alphaIdOf?).Nodup)
      ∧ (∀ v ∈ db.registry.listed, ∃ d, db.get (.version v) = some d
        ∧ (d.isCatalog = true → v ∉ db.registry.active ∧ v ∉ db.registry.shadow))
      ∧ (∀ v ∈ db.registry.active, ∀ w ∈ db.registry.active, v ≠ w →
        ∀ s ∈ db.symbolsOf v, s ∉ db.symbolsOf w)
      ∧ (∀ k, db.rebuild.get k = db.get k)
      ∧ (∀ db', AlphaStep cfg db db' → db'.registry = db.registry
        ∨ db'.registry.generation = db.registry.generation + 1)
      ∧ (∀ v actor expected mode days renew now clock db' g,
        db.change cfg v actor expected mode days renew now clock = .ok (db', g) →
        expected = db.registry.generation ∧ g = expected + 1
          ∧ db'.registry.generation = g)
      ∧ (∀ definition actor expected days renew now db' g,
        db.enrolCatalogProbe cfg definition actor expected days renew now = .ok (db', g) →
        expected = db.registry.generation ∧ g = expected + 1
          ∧ db'.registry.generation = g)
      ∧ ∀ db', (alphaSystem cfg).Run db db' → ∀ v d, db.get (.version v) = some d →
        db'.get (.version v) = some d := by
  obtain ⟨hi, hf⟩ := registry_holds h
  refine ⟨⟨List.Nodup.of_map _ hi.alphas, hi.alphas⟩, fun v hv => ?_, hi.symbols, fun k => ?_,
    fun db' hs => (AlphaStep.effect hs hf).1.generation, ?_, ?_,
    fun db' hr => versions_run h hr⟩
  · obtain ⟨d, hd⟩ := Option.isSome_iff_exists.mp (hi.recorded v hv)
    refine ⟨d, hd, fun hc => ⟨fun ha => ?_, fun hs => ?_⟩⟩
    · rw [hi.catalog v (List.mem_append_left _ ha) d hd] at hc
      cases hc
    · rw [hi.catalog v (List.mem_append_right _ hs) d hd] at hc
      cases hc
  · unfold AlphaDb.rebuild
    rw [rebuild_eq hf]
  · intro v actor expected mode days renew now clock db' g hc
    obtain ⟨version, authorized, -, -, rfl, -, rfl, rfl⟩ := change_ok hc
    refine ⟨rfl, ?_, by rw [registry_append]⟩
    cases mode <;> rfl
  · intro definition actor expected days renew now db' g hc
    obtain ⟨enrolled, -, rfl, -, rfl, rfl⟩ := enrolCatalogProbe_ok hc
    exact ⟨rfl, rfl, by rw [registry_append]⟩

/-! ### A version in shadow -/

def sampleAlphaConfig : AlphaConfig where
  scope := "desk/alpaca:paper"
  probePolicy := {}
  maxProbes := 2
  probeTermDays := 30
  probeRiskDollars := 50
  qualificationMaxAgeDays := 30
  minimumShadowSessions := 1
  minimumShadowDecisions := 1
  validationPolicy := "validation_v1"
  returnTimeline := "bar"
  versionId := fun d => d.alphaId ++ "/" ++ d.document
  isoformat := fun t => toString t
  fixed2 := fun r => toString (r.getD 0).num
  dollars := fun q => toString q.num
  upper := fun s => s.toUpper

def sampleDefinition : AlphaDefinition where
  alphaId := "momentum"
  timeframe := .d1
  eligibleSymbols := some ["SPY"]
  dataFeed := "alpaca:iex"
  clock := none
  document := "v1"

/-- The database an operation leaves, when it commits. -/
def committed (db : AlphaDb) : Except String (AlphaDb × ℕ) → AlphaDb
  | .ok r => r.1
  | .error _ => db

theorem eq_ok_committed (db : AlphaDb) {e : Except String (AlphaDb × ℕ)}
    (h : e.isOk = true) : ∃ g, e = .ok (committed db e, g) := by
  cases e with
  | error m => cases h
  | ok r => exact ⟨r.2, rfl⟩

def sampleRegistered : AlphaDb := AlphaDb.empty.register sampleAlphaConfig sampleDefinition

def sampleShadowed : AlphaDb :=
  committed sampleRegistered
    (sampleRegistered.setShadow sampleAlphaConfig "momentum/v1" "operator" 0 0 0)

theorem sampleShadowed_reachable :
    (alphaSystem sampleAlphaConfig).Reachable sampleShadowed := by
  have h₀ : (alphaSystem sampleAlphaConfig).Reachable AlphaDb.empty :=
    TransitionSystem.Reachable.of_init rfl
  have h₁ : (alphaSystem sampleAlphaConfig).Reachable sampleRegistered :=
    h₀.tail (AlphaStep.register sampleDefinition)
  obtain ⟨g, hg⟩ := eq_ok_committed sampleRegistered
    (e := sampleRegistered.setShadow sampleAlphaConfig "momentum/v1" "operator" 0 0 0)
    (by decide +kernel)
  exact h₁.tail (AlphaStep.setShadow "momentum/v1" "operator" 0 0 0 hg)

theorem registry_consistent_sample :
    ∃ db, (alphaSystem sampleAlphaConfig).Reachable db
      ∧ db.registry = ⟨1, [], ["momentum/v1"], []⟩ ∧ db.registry.listed.Nodup
      ∧ ∀ k, db.rebuild.get k = db.get k := by
  have h := registry_consistent sampleAlphaConfig sampleShadowed_reachable
  exact ⟨_, sampleShadowed_reachable, by decide +kernel, h.1.1, h.2.2.2.1⟩

end AgenticTrader
