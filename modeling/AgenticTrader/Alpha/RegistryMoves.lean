import AgenticTrader.Alpha.RegistryConsistency

/-!
# The moves of a version

The documentation of the paper probes gives the states of a version a table
of exits: an inactive version may be put in shadow or enrolled as a probe, a
shadow may be enrolled, activated or dropped, a probe may be renewed or
dropped, and an active version only dropped.

The checks of `_change` look at the evidence and at the owners, and not at
the list the version is in. Two of them follow the table all the same: an
enrolment is refused to an alpha that is active, and everything may be
dropped. The other two do not: `promote` takes a version from wherever it is,
on the shadow evidence it once collected, and `set_shadow` takes an active
version or a probe. So a step follows the table exactly when the operator's
call does (`documented_iff_inOrder`).
-/

namespace AgenticTrader

open AlphaDb

/-! ## The state table -/

/-- **The exits of a state**, as the documentation lists them. -/
def RegistryMode.exits : RegistryMode → List RegistryMode
  | .inactive => [.shadow, .probe]
  | .shadow => [.probe, .active, .inactive]
  | .probe => [.probe, .inactive]
  | .active => [.inactive]

/-- The state is kept, or left by an exit. -/
def RegistryMode.Moves (a b : RegistryMode) : Prop :=
  a = b ∨ b ∈ a.exits

instance (a b : RegistryMode) : Decidable (a.Moves b) :=
  inferInstanceAs (Decidable (_ ∨ _))

/-- **The state of a version.** -/
def Registry.modeOf (r : Registry) (v : String) : RegistryMode :=
  if v ∈ r.active then .active
  else if v ∈ r.shadow then .shadow
  else if v ∈ r.probe then .probe
  else .inactive

/-- **Every version keeps its state or leaves it by an exit.** -/
def Documented (db db' : AlphaDb) : Prop :=
  ∀ v, (db.registry.modeOf v).Moves (db'.registry.modeOf v)

/-! ## The calls -/

/-- **A call that may change the registry.** -/
inductive RegistryCall where
  | promote (versionId actor : String) (expected : ℕ) (now clock : Time)
  | setShadow (versionId actor : String) (expected : ℕ) (now clock : Time)
  | demote (versionId actor : String) (expected : ℕ) (now clock : Time)
  | enrolProbe (versionId actor : String) (expected : ℕ) (days : Option ℤ) (renew : Bool)
      (now clock : Time)
  | enrolCatalogProbe (definition : CatalogDefinition) (actor : String) (expected : ℕ)
      (days : Option ℤ) (renew : Bool) (now : Time)
  | sweepProbes (now : Time)

/-- The database a call leaves, or its refusal. -/
def RegistryCall.run (cfg : AlphaConfig) (db : AlphaDb) : RegistryCall → Except String AlphaDb
  | .promote v actor expected now clock =>
    (db.promote cfg v actor expected now clock).map Prod.fst
  | .setShadow v actor expected now clock =>
    (db.setShadow cfg v actor expected now clock).map Prod.fst
  | .demote v actor expected now clock =>
    (db.demote cfg v actor expected now clock).map Prod.fst
  | .enrolProbe v actor expected days renew now clock =>
    (db.enrolProbe cfg v actor expected days renew now clock).map Prod.fst
  | .enrolCatalogProbe definition actor expected days renew now =>
    (db.enrolCatalogProbe cfg definition actor expected days renew now).map Prod.fst
  | .sweepProbes now => .ok (db.sweepProbes cfg now).1

/-- **The operator keeps to the table**: a version is promoted from shadow,
and put in shadow when it is inactive. A version may also be put where it is
already. -/
def RegistryCall.InOrder (db : AlphaDb) : RegistryCall → Prop
  | .promote v _ _ _ _ => db.registry.modeOf v = .shadow ∨ db.registry.modeOf v = .active
  | .setShadow v _ _ _ _ => db.registry.modeOf v = .inactive ∨ db.registry.modeOf v = .shadow
  | _ => True

/-- **What a run is asked to keep to**: which calls are made, and which rows of
closed trades are read after a close or in another order. -/
structure AlphaGuard where
  call : AlphaDb → RegistryCall → Prop
  closes : AlphaDb → List ClosedTrade → Prop

/-- **A step under a guard.** -/
inductive GuardedStep (cfg : AlphaConfig) (G : AlphaGuard) (db : AlphaDb) : AlphaDb → Prop where
  | call {db' : AlphaDb} (c : RegistryCall) (commits : c.run cfg db = .ok db')
      (guard : G.call db c) : GuardedStep cfg G db db'
  | register (definition : AlphaDefinition) : GuardedStep cfg G db (db.register cfg definition)
  | rebuild : GuardedStep cfg G db db.rebuild
  | evidence (k : AlphaKey) (v : AlphaValue k) (hk : k.ofRegistry = false) :
      GuardedStep cfg G db (db.append k v)
  | close (trade : ClosedTrade) (rows : List ClosedTrade)
      (h : rows.Perm (db.closes ++ [trade])) (guard : G.closes db rows) :
      GuardedStep cfg G db { db with closes := rows }
  | reorder (rows : List ClosedTrade) (h : rows.Perm db.closes) (guard : G.closes db rows) :
      GuardedStep cfg G db { db with closes := rows }

/-- The calls are in order. -/
def orderGuard : AlphaGuard where
  call := fun db c => c.InOrder db
  closes := fun _ _ => True

/-- The system in which every call is in order. -/
def orderedSystem (cfg : AlphaConfig) : TransitionSystem AlphaDb where
  init db := db = .empty
  step := GuardedStep cfg orderGuard

section

variable {cfg : AlphaConfig} {db db' : AlphaDb} {v w : String} {mode : RegistryMode}

theorem map_fst_eq_ok {α β : Type} {e : Except String (α × β)} {a : α}
    (h : e.map Prod.fst = .ok a) : ∃ b, e = .ok (a, b) := by
  cases e with
  | error m => cases h
  | ok r =>
    cases h
    exact ⟨r.2, rfl⟩

/-- A call that commits is a step of the registry. -/
theorem RegistryCall.step {c : RegistryCall} (h : c.run cfg db = .ok db') :
    AlphaStep cfg db db' := by
  cases c with
  | promote v actor expected now clock =>
    obtain ⟨g, hg⟩ := map_fst_eq_ok h
    exact .promote v actor expected now clock hg
  | setShadow v actor expected now clock =>
    obtain ⟨g, hg⟩ := map_fst_eq_ok h
    exact .setShadow v actor expected now clock hg
  | demote v actor expected now clock =>
    obtain ⟨g, hg⟩ := map_fst_eq_ok h
    exact .demote v actor expected now clock hg
  | enrolProbe v actor expected days renew now clock =>
    obtain ⟨g, hg⟩ := map_fst_eq_ok h
    exact .enrolProbe v actor expected days renew now clock hg
  | enrolCatalogProbe definition actor expected days renew now =>
    obtain ⟨g, hg⟩ := map_fst_eq_ok h
    exact .enrolCatalogProbe definition actor expected days renew now hg
  | sweepProbes now =>
    cases h
    exact .sweepProbes now

theorem GuardedStep.step {G : AlphaGuard} (h : GuardedStep cfg G db db') :
    AlphaStep cfg db db' := by
  cases h with
  | call c commits guard => exact c.step commits
  | register definition => exact .register definition
  | rebuild => exact .rebuild
  | evidence k v hk => exact .evidence k v hk
  | close trade rows h _ => exact .close trade rows h
  | reorder rows h _ => exact .reorder rows h

theorem ordered_reachable (h : (orderedSystem cfg).Reachable db) :
    (alphaSystem cfg).Reachable db :=
  TransitionSystem.Reachable.mono (T := orderedSystem cfg) (U := alphaSystem cfg)
    (fun _ h₀ => h₀) (fun _ _ hs => GuardedStep.step hs) h

/-! ## States and lists -/

/-- **The state is the list the version is in.** -/
theorem Registry.modeOf_eq_iff {r : Registry} (hn : r.listed.Nodup) (hm : mode ≠ .inactive) :
    r.modeOf v = mode ↔ v ∈ r.members mode := by
  unfold Registry.listed at hn
  rw [List.nodup_append, List.nodup_append] at hn
  obtain ⟨⟨-, -, has⟩, -, hp⟩ := hn
  have hap : v ∈ r.active → v ∉ r.probe := fun ha hp' =>
    hp v (List.mem_append_left _ ha) v hp' rfl
  have hsp : v ∈ r.shadow → v ∉ r.probe := fun hs hp' =>
    hp v (List.mem_append_right _ hs) v hp' rfl
  have has' : v ∈ r.active → v ∉ r.shadow := fun ha hs => has v ha v hs rfl
  unfold Registry.modeOf
  cases mode <;> simp only [Registry.members] <;> split_ifs <;> simp_all

theorem Registry.modeOf_eq_inactive {r : Registry} :
    r.modeOf v = .inactive ↔ ∀ m, v ∉ r.members m := by
  unfold Registry.modeOf
  constructor
  · intro h m
    cases m <;> simp only [Registry.members] <;> split_ifs at h <;> simp_all
  · intro h
    rw [ite_eq_right_iff.mpr, ite_eq_right_iff.mpr, ite_eq_right_iff.mpr]
    · exact fun hp => absurd hp (h .probe)
    · exact fun hs => absurd hs (h .shadow)
    · exact fun ha => absurd ha (h .active)

theorem RegistryInv.nodup (hi : RegistryInv db) : db.registry.listed.Nodup :=
  List.Nodup.of_map _ hi.alphas

/-- A registry whose lists only lost versions. -/
theorem documented_of_subset (hi : RegistryInv db) (hi' : RegistryInv db')
    (h : ∀ m, ∀ w ∈ db'.registry.members m, w ∈ db.registry.members m) :
    Documented db db' := by
  intro w
  by_cases hw : db'.registry.modeOf w = .inactive
  · rw [hw]
    cases db.registry.modeOf w <;> decide
  · have hmem := (Registry.modeOf_eq_iff hi'.nodup hw).mp rfl
    exact Or.inl ((Registry.modeOf_eq_iff hi.nodup hw).mpr (h _ w hmem))

/-! ## What a placement moves -/

/-- **A placement**: the version gets its mode, and another one keeps its
state or becomes inactive. So the step follows the table when the placed
version does. -/
theorem documented_placed (hi : RegistryInv db) (hi' : RegistryInv db')
    {doc : VersionDocument} (record : db'.get (.version v) = some doc)
    (registry : db'.registry = (db'.supersede db.registry doc.alphaId).place mode v) :
    Documented db db' ↔ (db.registry.modeOf v).Moves mode := by
  have hid : db'.alphaIdOf? v = some doc.alphaId := by
    unfold AlphaDb.alphaIdOf?
    rw [record]
    rfl
  -- a version of a list stood there before, or is the placed one: `supersede` only removes
  have hmem : ∀ m w, w ∈ db'.registry.members m →
      (w ∈ db.registry.members m ∧ w ≠ v) ∨ w = v ∧ mode = m := by
    intro m w hw
    rw [registry, mem_members_place] at hw
    rcases hw with ⟨hw, hne⟩ | ⟨rfl, hm, -⟩
    · exact Or.inl ⟨hw, by rintro rfl; exact hne hid⟩
    · exact Or.inr ⟨rfl, hm⟩
  have hv : db'.registry.modeOf v = mode := by
    by_cases hm : mode = .inactive
    · rw [hm]
      refine Registry.modeOf_eq_inactive.mpr fun m hw => ?_
      rcases hmem m v hw with ⟨-, hne⟩ | ⟨-, rfl⟩
      · exact hne rfl
      · rw [hm] at hw
        cases hw
    · rw [Registry.modeOf_eq_iff hi'.nodup hm, registry, mem_members_place]
      exact Or.inr ⟨rfl, rfl, hm⟩
  constructor
  · intro h
    rw [← hv]
    exact h v
  · intro h w
    by_cases hw : w = v
    · rw [hw, hv]
      exact h
    · by_cases hin : db'.registry.modeOf w = .inactive
      · rw [hin]
        cases db.registry.modeOf w <;> decide
      · have hl := (Registry.modeOf_eq_iff hi'.nodup hin).mp rfl
        rcases hmem _ w hl with ⟨hl, -⟩ | ⟨rfl, -⟩
        · exact Or.inl ((Registry.modeOf_eq_iff hi.nodup hin).mpr hl)
        · exact absurd rfl hw

/-- **A change follows the table when the changed version does.** -/
theorem documented_change (hi : RegistryInv db) (hi' : RegistryInv db')
    {actor : String} {expected : ℕ} {days : Option ℤ} {renew : Bool} {now clock : Time} {g : ℕ}
    (h : db.change cfg v actor expected mode days renew now clock = .ok (db', g)) :
    Documented db db' ↔ (db.registry.modeOf v).Moves mode := by
  obtain ⟨-, hk, -⟩ := change_effect h
  obtain ⟨version, authorized, hv, -, -, -, rfl, -⟩ := change_ok h
  refine documented_placed hi hi' (hk _ _ hv) ?_
  rw [registry_append, supersede_append]

/-- An alpha that is active is not enrolled. -/
theorem not_active_of_enrolProbe (hi : RegistryInv db) {actor : String} {expected : ℕ}
    {days : Option ℤ} {renew : Bool} {now clock : Time} {g : ℕ}
    (h : db.enrolProbe cfg v actor expected days renew now clock = .ok (db', g)) :
    db.registry.modeOf v ≠ .active := by
  intro hm
  have hact : v ∈ db.registry.members .active :=
    (Registry.modeOf_eq_iff hi.nodup (by decide)).mp hm
  obtain ⟨version, authorized, hv, hc, -, ha, -⟩ := change_ok h
  unfold AlphaDb.authorize at ha
  cases version with
  | catalog d => cases hc rfl
  | dsl definition =>
    refine (authorizeProbe_ok ha).1 v hact ?_
    unfold AlphaDb.alphaIdOf?
    rw [hv]
    rfl

/-- A catalog version is inactive or a probe. -/
theorem documented_enrolCatalogProbe (hi : RegistryInv db) (hi' : RegistryInv db')
    {definition : CatalogDefinition} {actor : String} {expected : ℕ} {days : Option ℤ}
    {renew : Bool} {now : Time} {g : ℕ}
    (h : db.enrolCatalogProbe cfg definition actor expected days renew now = .ok (db', g)) :
    Documented db db' := by
  obtain ⟨enrolled, hd, -, he, rfl, -⟩ := enrolCatalogProbe_ok h
  obtain ⟨-, term, key, text, rfl⟩ := recordProbeEnrolment_ok he
  have hrec := get_recordCatalog hd
  generalize db.recordCatalog definition = recorded at *
  have hcat : definition.versionId ∉ db.registry.active ++ db.registry.shadow := by
    intro hin
    obtain ⟨d, hv⟩ := Option.isSome_iff_exists.mp
      (hi.recorded _ (List.mem_append_left _ hin))
    have hnot := hi.catalog _ hin d hv
    rw [hd d hv] at hnot
    cases hnot
  refine (documented_placed hi hi' (v := definition.versionId)
    (show _ = some (VersionDocument.catalog definition) from ?_)
    (show _ = Registry.place _ .probe _ from ?_)).mpr ?_
  · simpa using hrec
  · rw [registry_append, supersede_append]
    rfl
  · unfold Registry.modeOf
    rw [List.mem_append, not_or] at hcat
    rw [ite_eq_right_iff.mpr (fun ha => absurd ha hcat.1),
      ite_eq_right_iff.mpr (fun hs => absurd hs hcat.2)]
    split <;> decide

theorem documented_of_same (h : db'.registry = db.registry) : Documented db db' := by
  intro w
  rw [h]
  exact Or.inl rfl

/-- **A call follows the table when it is in order**, and only then. -/
theorem documented_call (hi : RegistryInv db) (hi' : RegistryInv db') {c : RegistryCall}
    (h : c.run cfg db = .ok db') : Documented db db' ↔ c.InOrder db := by
  cases c with
  | promote v actor expected now clock =>
    obtain ⟨g, hg⟩ := map_fst_eq_ok h
    rw [documented_change hi hi' hg]
    show _ ↔ db.registry.modeOf v = .shadow ∨ db.registry.modeOf v = .active
    cases db.registry.modeOf v <;> decide
  | setShadow v actor expected now clock =>
    obtain ⟨g, hg⟩ := map_fst_eq_ok h
    rw [documented_change hi hi' hg]
    show _ ↔ db.registry.modeOf v = .inactive ∨ db.registry.modeOf v = .shadow
    cases db.registry.modeOf v <;> decide
  | demote v actor expected now clock =>
    obtain ⟨g, hg⟩ := map_fst_eq_ok h
    rw [documented_change hi hi' hg]
    show _ ↔ True
    cases db.registry.modeOf v <;> decide
  | enrolProbe v actor expected days renew now clock =>
    obtain ⟨g, hg⟩ := map_fst_eq_ok h
    have hna := not_active_of_enrolProbe hi hg
    rw [documented_change hi hi' hg]
    show _ ↔ True
    cases hm : db.registry.modeOf v with
    | active => exact absurd hm hna
    | inactive => decide
    | shadow => decide
    | probe => decide
  | enrolCatalogProbe definition actor expected days renew now =>
    obtain ⟨g, hg⟩ := map_fst_eq_ok h
    exact iff_of_true (documented_enrolCatalogProbe hi hi' hg) trivial
  | sweepProbes now =>
    cases h
    refine iff_of_true ?_ trivial
    rcases db.sweepProbes_cases cfg now with ⟨hs, -⟩ | ⟨swept, probe, -, -, hl, he⟩
    · exact documented_of_same (by unfold AlphaDb.registry AlphaDb.get; rw [hs])
    · refine documented_of_subset hi hi' ?_
      rw [he, registry_append]
      intro m w hw
      cases m with
      | probe => exact hl.subset hw
      | _ => exact hw

theorem GuardedStep.documented (h : (alphaSystem cfg).Reachable db)
    (hs : GuardedStep cfg orderGuard db db') : Documented db db' := by
  obtain ⟨hi, hf⟩ := registry_holds h
  cases hs with
  | call c commits ordered =>
    exact (documented_call hi (registry_holds (h.tail (c.step commits))).1 commits).mpr ordered
  | register definition =>
    refine documented_of_same ?_
    unfold AlphaDb.register AlphaDb.registry
    split
    · rfl
    · simp
  | rebuild =>
    refine documented_of_same ?_
    unfold AlphaDb.rebuild
    rw [Projections.rebuild_eq hf]
  | evidence k v hk =>
    refine documented_of_same ?_
    unfold AlphaDb.registry
    rw [get_append_ne]
    rintro rfl
    cases hk
  | close => exact documented_of_same rfl
  | reorder => exact documented_of_same rfl

end

/-- **The moves follow the table exactly when the calls do.** From every
reachable registry, whatever the evidence, a call that commits moves every
version by an exit of the state table if and only if it is in order: a
promotion of a shadow, a shadowing of an inactive version, or any of the other
calls. In a run whose calls are all in order, every step follows the table. -/
theorem documented_iff_inOrder (cfg : AlphaConfig) :
    (∀ db, (alphaSystem cfg).Reachable db → ∀ (c : RegistryCall) db',
      c.run cfg db = .ok db' → (Documented db db' ↔ c.InOrder db))
      ∧ ∀ db, (orderedSystem cfg).Reachable db → ∀ db', GuardedStep cfg orderGuard db db' →
        Documented db db' := by
  refine ⟨fun db h c db' hc => ?_, fun db h db' hs => ?_⟩
  · exact documented_call (registry_holds h).1 (registry_holds (h.tail (c.step hc))).1 hc
  · exact GuardedStep.documented (ordered_reachable h) hs

/-! ### A version that is promoted from wherever it is -/

def passing (value : ℚ) : Criterion := ⟨"pass", some value⟩

def sampleQualification : Qualification where
  runId := "run"
  versionId := "momentum/v1"
  qualified := true
  reasons := []
  policy := "validation_v1"
  qualifiedAt := 0
  incumbents := []
  eligibleSymbols := ["SPY"]
  criteria := (structuralCriteria ++ ["holdout_sharpe", "cost_stress", "holdout_trade_count"]).map
    (fun code => (code, passing 9))

/-- The version with the evidence of a passed holdout and of one session in
shadow. -/
def sampleEvidenced : AlphaDb :=
  (sampleShadowed.append (.qualification "momentum/v1") sampleQualification).append
    (.shadow "momentum/v1") ⟨[("SPY", ["2026-01-05"])], [("SPY", 1)]⟩

/-- The database a call leaves, when it commits. -/
def RegistryCall.after (c : RegistryCall) (db : AlphaDb) : AlphaDb :=
  match c.run sampleAlphaConfig db with
  | .ok db' => db'
  | .error _ => db

def promoteCall (expected : ℕ) : RegistryCall := .promote "momentum/v1" "operator" expected 0 0

def shadowCall (expected : ℕ) : RegistryCall := .setShadow "momentum/v1" "operator" expected 0 0

def demoteCall (expected : ℕ) : RegistryCall := .demote "momentum/v1" "operator" expected 0 0

def probeCall (expected : ℕ) : RegistryCall :=
  .enrolProbe "momentum/v1" "operator" expected none false 0 0

def sampleActive : AlphaDb := (promoteCall 1).after sampleEvidenced

def sampleDemoted : AlphaDb := (demoteCall 2).after sampleActive

def sampleProbed : AlphaDb := (probeCall 3).after sampleDemoted

theorem RegistryCall.run_after {c : RegistryCall} {db : AlphaDb}
    (h : (c.run sampleAlphaConfig db).isOk = true) :
    c.run sampleAlphaConfig db = .ok (c.after db) := by
  unfold RegistryCall.after
  cases hr : c.run sampleAlphaConfig db with
  | error m =>
    rw [hr] at h
    cases h
  | ok db' => rfl

theorem sampleEvidenced_reachable :
    (alphaSystem sampleAlphaConfig).Reachable sampleEvidenced :=
  (sampleShadowed_reachable.tail (AlphaStep.evidence _ _ rfl)).tail (AlphaStep.evidence _ _ rfl)

/-- The three calls commit. -/
theorem sampleCalls_ok :
    ((promoteCall 1).run sampleAlphaConfig sampleEvidenced).isOk = true
      ∧ ((demoteCall 2).run sampleAlphaConfig sampleActive).isOk = true
      ∧ ((probeCall 3).run sampleAlphaConfig sampleDemoted).isOk = true := by
  decide +kernel

theorem sampleActive_reachable : (alphaSystem sampleAlphaConfig).Reachable sampleActive :=
  sampleEvidenced_reachable.tail (RegistryCall.step (RegistryCall.run_after sampleCalls_ok.1))

theorem sampleDemoted_reachable : (alphaSystem sampleAlphaConfig).Reachable sampleDemoted :=
  sampleActive_reachable.tail (RegistryCall.step (RegistryCall.run_after sampleCalls_ok.2.1))

theorem sampleProbed_reachable : (alphaSystem sampleAlphaConfig).Reachable sampleProbed :=
  sampleDemoted_reachable.tail (RegistryCall.step (RegistryCall.run_after sampleCalls_ok.2.2))

theorem documented_iff_inOrder_sample :
    ∃ db, (alphaSystem sampleAlphaConfig).Reachable sampleActive
      ∧ (demoteCall 2).run sampleAlphaConfig sampleActive = .ok db
      ∧ (Documented sampleActive db ↔ (demoteCall 2).InOrder sampleActive) := by
  have hrun : (demoteCall 2).run sampleAlphaConfig sampleActive = .ok sampleDemoted :=
    RegistryCall.run_after (by decide +kernel)
  exact ⟨_, sampleActive_reachable, hrun,
    (documented_iff_inOrder sampleAlphaConfig).1 _ sampleActive_reachable _ _ hrun⟩

/-- **Moves outside the table are committed.** With its evidence on record a
version goes from active to shadow, from inactive to active and from probe to
active, each in one step. -/
theorem undocumented_moves :
    ¬ (∀ cfg db, (alphaSystem cfg).Reachable db → ∀ (c : RegistryCall) db',
        c.run cfg db = .ok db' → Documented db db')
      ∧ (∃ db, (alphaSystem sampleAlphaConfig).Reachable db
        ∧ (shadowCall 2).run sampleAlphaConfig db = .ok ((shadowCall 2).after db)
        ∧ db.registry.modeOf "momentum/v1" = .active
        ∧ ((shadowCall 2).after db).registry.modeOf "momentum/v1" = .shadow)
      ∧ (∃ db, (alphaSystem sampleAlphaConfig).Reachable db
        ∧ (promoteCall 3).run sampleAlphaConfig db = .ok ((promoteCall 3).after db)
        ∧ db.registry.modeOf "momentum/v1" = .inactive
        ∧ ((promoteCall 3).after db).registry.modeOf "momentum/v1" = .active)
      ∧ ∃ db, (alphaSystem sampleAlphaConfig).Reachable db
        ∧ (promoteCall 4).run sampleAlphaConfig db = .ok ((promoteCall 4).after db)
        ∧ db.registry.modeOf "momentum/v1" = .probe
        ∧ ((promoteCall 4).after db).registry.modeOf "momentum/v1" = .active := by
  have hshadow : (shadowCall 2).run sampleAlphaConfig sampleActive
      = .ok ((shadowCall 2).after sampleActive) := RegistryCall.run_after (by decide +kernel)
  have hactive : sampleActive.registry.modeOf "momentum/v1" = .active := by decide +kernel
  have hshadowed : ((shadowCall 2).after sampleActive).registry.modeOf "momentum/v1"
      = .shadow := by decide +kernel
  refine ⟨fun hall => ?_, ⟨sampleActive, sampleActive_reachable, hshadow, hactive, hshadowed⟩,
    ⟨sampleDemoted, sampleDemoted_reachable, RegistryCall.run_after (by decide +kernel),
      by decide +kernel, by decide +kernel⟩,
    ⟨sampleProbed, sampleProbed_reachable, RegistryCall.run_after (by decide +kernel),
      by decide +kernel, by decide +kernel⟩⟩
  have hmove := hall _ _ sampleActive_reachable _ _ hshadow "momentum/v1"
  rw [hactive, hshadowed] at hmove
  revert hmove
  decide

end AgenticTrader
