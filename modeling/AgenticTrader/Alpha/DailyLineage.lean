import AgenticTrader.Alpha.DailyCampaigns
import Mathlib.Data.Set.Card

/-!
# The state lineage of a daily campaign

A forecast is made from the residual state of the campaign, and leaves the
state the next forecast is made from. The state and the forecast are committed
together, against the state the claim was made on, so the states of a campaign
form one chain: every committed state was made from the one before it
(`Lineage`), none is lost and none is built on twice.

The rows of campaigns, decisions and outcomes are written separately, and a
claim can be ended by its completion, by a late completion, or by another
transaction that finds it expired. `DailyMove` says once what any of these does
to the rows; every transaction is a sequence of moves, and what the rows agree
on (`UnforkedLineage`) is kept by each.
-/

namespace AgenticTrader

/-! ## Rows -/

/-- **The rows of the daily aggregates.** -/
@[ext]
structure DailyRows where
  campaigns : String → Option DailyCampaign
  decisions : String → Option DailyDecision
  outcomes : String → Option DailyOutcome

/-- What a journal says of them. -/
def DailyDb.rows (db : DailyDb) : DailyRows where
  campaigns c := db.get (.campaign c)
  decisions id := db.get (.decision id)
  outcomes id := db.get (.outcome id)

namespace DailyRows

def setCampaign (s : DailyRows) (c : String) (r : DailyCampaign) : DailyRows :=
  { s with campaigns := Function.update s.campaigns c (some r) }

def setDecision (s : DailyRows) (id : String) (d : DailyDecision) : DailyRows :=
  { s with decisions := Function.update s.decisions id (some d) }

def setOutcome (s : DailyRows) (id : String) (o : DailyOutcome) : DailyRows :=
  { s with outcomes := Function.update s.outcomes id (some o) }

variable (s : DailyRows) (c id : String) (r : DailyCampaign) (d : DailyDecision)
  (o : DailyOutcome)

@[simp] theorem setCampaign_decisions : (s.setCampaign c r).decisions = s.decisions := rfl
@[simp] theorem setCampaign_outcomes : (s.setCampaign c r).outcomes = s.outcomes := rfl
@[simp] theorem setDecision_campaigns : (s.setDecision id d).campaigns = s.campaigns := rfl
@[simp] theorem setDecision_outcomes : (s.setDecision id d).outcomes = s.outcomes := rfl
@[simp] theorem setOutcome_campaigns : (s.setOutcome id o).campaigns = s.campaigns := rfl
@[simp] theorem setOutcome_decisions : (s.setOutcome id o).decisions = s.decisions := rfl

@[simp] theorem setCampaign_campaigns :
    (s.setCampaign c r).campaigns = Function.update s.campaigns c (some r) := rfl

@[simp] theorem setDecision_decisions :
    (s.setDecision id d).decisions = Function.update s.decisions id (some d) := rfl

@[simp] theorem setOutcome_outcomes :
    (s.setOutcome id o).outcomes = Function.update s.outcomes id (some o) := rfl

end DailyRows

/-- A key none of the rows is under. -/
def DailyKey.Aside : DailyKey → Prop
  | .campaign _ => False
  | .decision _ => False
  | .outcome _ => False
  | _ => True

namespace DailyDb

theorem rows_campaigns (db : DailyDb) (c : String) :
    (rows db).campaigns c = Projections.get db (.campaign c) := rfl

theorem rows_decisions (db : DailyDb) (id : String) :
    (rows db).decisions id = Projections.get db (.decision id) := rfl

theorem rows_outcomes (db : DailyDb) (id : String) :
    (rows db).outcomes id = Projections.get db (.outcome id) := rfl

@[simp] theorem rows_append_campaign (db : DailyDb) (c : String) (r : DailyCampaign) :
    rows (db.append (.campaign c) r) = (rows db).setCampaign c r := by
  ext1
  · funext c'
    rw [rows_campaigns, DailyRows.setCampaign_campaigns]
    by_cases h : c' = c
    · subst h
      rw [Function.update_self, Projections.get_append_self]
    · rw [Function.update_of_ne h, Projections.get_append_ne _ _ (by simpa using h)]
      rfl
  · funext id
    rw [rows_decisions, Projections.get_append_ne _ _ (by simp)]
    rfl
  · funext id
    rw [rows_outcomes, Projections.get_append_ne _ _ (by simp)]
    rfl

@[simp] theorem rows_append_decision (db : DailyDb) (id : String) (d : DailyDecision) :
    rows (db.append (.decision id) d) = (rows db).setDecision id d := by
  ext1
  · funext c
    rw [rows_campaigns, Projections.get_append_ne _ _ (by simp)]
    rfl
  · funext id'
    rw [rows_decisions, DailyRows.setDecision_decisions]
    by_cases h : id' = id
    · subst h
      rw [Function.update_self, Projections.get_append_self]
    · rw [Function.update_of_ne h, Projections.get_append_ne _ _ (by simpa using h)]
      rfl
  · funext id'
    rw [rows_outcomes, Projections.get_append_ne _ _ (by simp)]
    rfl

@[simp] theorem rows_append_outcome (db : DailyDb) (id : String) (o : DailyOutcome) :
    rows (db.append (.outcome id) o) = (rows db).setOutcome id o := by
  ext1
  · funext c
    rw [rows_campaigns, Projections.get_append_ne _ _ (by simp)]
    rfl
  · funext id'
    rw [rows_decisions, Projections.get_append_ne _ _ (by simp)]
    rfl
  · funext id'
    rw [rows_outcomes, DailyRows.setOutcome_outcomes]
    by_cases h : id' = id
    · subst h
      rw [Function.update_self, Projections.get_append_self]
    · rw [Function.update_of_ne h, Projections.get_append_ne _ _ (by simpa using h)]
      rfl

/-- Writing another key changes no row. -/
theorem rows_append_aside (db : DailyDb) {k : DailyKey} (v : DailyValue k) (h : k.Aside) :
    rows (db.append k v) = rows db := by
  ext1
  · funext c
    rw [rows_campaigns, Projections.get_append_ne _ _ (by rintro rfl; exact h)]
    rfl
  · funext id
    rw [rows_decisions, Projections.get_append_ne _ _ (by rintro rfl; exact h)]
    rfl
  · funext id
    rw [rows_outcomes, Projections.get_append_ne _ _ (by rintro rfl; exact h)]
    rfl

@[simp] theorem rows_lateDecision (db : DailyDb) (id : String) (x : DecisionCompletion)
    (now : Time) : rows (lateDecision db id x now) = rows db := by
  unfold lateDecision
  split
  · exact rows_append_aside db _ trivial
  · rfl

@[simp] theorem rows_lateOutcome (db : DailyDb) (id : String) (x : OutcomeCompletion)
    (now : Time) : rows (lateOutcome db id x now) = rows db := by
  unfold lateOutcome
  split
  · exact rows_append_aside db _ trivial
  · rfl

end DailyDb

/-! ## Lineages -/

/-- **A chain of committed states.** Each decision was claimed on the state the
one before it left, and counts the states before it. -/
inductive Lineage (decisions : String → Option DailyDecision)
    (initial : Option ArtifactReference) : List String → Option ArtifactReference → Prop where
  | start : Lineage decisions initial [] initial
  | commit {l : List String} {state : Option ArtifactReference} {id : String}
      {d : DailyDecision} {x : DecisionCompletion} {ref : ArtifactReference}
      (h : Lineage decisions initial l state) (hd : decisions id = some d)
      (hgeneration : d.claim.parentGeneration = l.length) (hparent : d.claim.parentState = state)
      (hx : d.completion = some x) (href : x.stateRef = some ref) :
      Lineage decisions initial (l ++ [id]) (some ref)

/-- Decisions that are finished are all a chain looks at. -/
theorem Lineage.mono {decisions decisions' : String → Option DailyDecision}
    {initial state : Option ArtifactReference} {l : List String}
    (hkeep : ∀ id d, decisions id = some d → d.completion.isSome = true →
      decisions' id = some d)
    (h : Lineage decisions initial l state) : Lineage decisions' initial l state := by
  induction h with
  | start => exact .start
  | commit _ hd hgeneration hparent hx href ih =>
    exact .commit ih (hkeep _ _ hd (by rw [hx]; rfl)) hgeneration hparent hx href

namespace DailyRows

/-- The decision of the campaign committed a state. -/
def CommittedState (s : DailyRows) (c id : String) : Prop :=
  ∃ d x, s.decisions id = some d ∧ d.claim.contract.campaignId = c ∧ d.completion = some x
    ∧ x.stateRef.isSome = true

/-- The decision of the campaign is claimed. -/
def Claimed (s : DailyRows) (c id : String) : Prop :=
  ∃ d, s.decisions id = some d ∧ d.claim.contract.campaignId = c ∧ d.status = .claimed

end DailyRows

/-- **The lineage of a campaign**: the decisions that committed a state, each
once and all of them, up to the state the campaign is in. -/
structure CampaignLineage (s : DailyRows) (r : DailyCampaign) (l : List String) : Prop where
  chain : Lineage s.decisions r.initialState l r.stateRef
  generation : r.stateGeneration = l.length
  nodup : l.Nodup
  committed : ∀ id, id ∈ l ↔ s.CommittedState r.campaignId id

/-- The decision is committed. -/
def DailyDecision.Finished (d : DailyDecision) : Prop :=
  d.status = .scored ∨ d.status = .unavailable

/-- **What the rows agree on.** -/
structure UnforkedLineage (cfg : DailyConfig) (s : DailyRows) : Prop where
  /-- A campaign is under its own name. -/
  named : ∀ c r, s.campaigns c = some r → r.campaignId = c
  /-- A decision is under the digest of its campaign and session. -/
  identified : ∀ id d, s.decisions id = some d → d.claim.decisionId = id
    ∧ id = cfg.decisionId d.claim.contract.campaignId d.claim.contract.sessionDate
  /-- Its campaign is enrolled. -/
  enrolled : ∀ id d, s.decisions id = some d →
    (s.campaigns d.claim.contract.campaignId).isSome = true
  /-- The decision in flight is the one that is claimed. -/
  inflight : ∀ c r, s.campaigns c = some r → ∀ id, r.inflightDecision = some id ↔ s.Claimed c id
  /-- A committed decision has a completion, and no other has. -/
  completed : ∀ id d, s.decisions id = some d → (d.completion.isSome = true ↔ d.Finished)
  lineage : ∀ c r, s.campaigns c = some r → ∃ l, CampaignLineage s r l
  /-- An outcome is that of a committed decision, and of its completion. -/
  outcomes : ∀ id o, s.outcomes id = some o → o.claim.decisionId = id
    ∧ ∃ d, s.decisions id = some d ∧ d.Finished ∧ d.completion = some o.claim.decisionCompletion

/-! ## Moves -/

open DailyDb in
/-- **What a transaction does to the rows**, one change at a time. -/
inductive DailyMove (cfg : DailyConfig) : DailyRows → DailyRows → Prop where
  | enroll {s : DailyRows} {r : DailyCampaign} (hnew : s.campaigns r.campaignId = none)
      (hstate : r.stateRef = r.initialState) (hgeneration : r.stateGeneration = 0)
      (hidle : r.inflightDecision = none) : DailyMove cfg s (s.setCampaign r.campaignId r)
  | interrupt {s : DailyRows} {c id : String} {r : DailyCampaign} {d : DailyDecision} {now : Time}
      (hr : s.campaigns c = some r) (hd : s.decisions id = some d)
      (hflight : r.inflightDecision = some id) :
      DailyMove cfg s ((s.setDecision id (interrupted d now)).setCampaign c
        { r with inflightDecision := none })
  | claim {s : DailyRows} {id : String} {r : DailyCampaign} {contract : DecisionContract}
      {claimId : Uuid} {comparisons : List DailyComparison} {reason : Option String} {now : Time}
      (hr : s.campaigns contract.campaignId = some r) (hnew : s.decisions id = none)
      (hid : id = cfg.decisionId contract.campaignId contract.sessionDate)
      (hidle : r.inflightDecision = none) :
      DailyMove cfg s ((s.setDecision id
        (opened (claimOf contract id claimId r comparisons reason now))).setCampaign
          contract.campaignId (advanced r (claimOf contract id claimId r comparisons reason now)))
  | openOutcome {s : DailyRows} {id : String} {d : DailyDecision} {o : DailyOutcome}
      (hnew : s.outcomes id = none) (hd : s.decisions id = some d) (hfinished : d.Finished)
      (hx : d.completion = some o.claim.decisionCompletion) (hid : o.claim.decisionId = id) :
      DailyMove cfg s (s.setOutcome id o)
  | closeOutcome {s : DailyRows} {id : String} {o o' : DailyOutcome} (ho : s.outcomes id = some o)
      (hstatus : o.status = .capturing) (hclaim : o'.claim = o.claim) :
      DailyMove cfg s (s.setOutcome id o')

/-- **The decision in flight is committed**, and the campaign moves on to the
state it left. -/
inductive DailyCommit : DailyRows → DailyRows → Prop where
  | commit {s : DailyRows} {id : String} {r : DailyCampaign} {d : DailyDecision}
      {x : DecisionCompletion} {now : Time}
      (hr : s.campaigns d.claim.contract.campaignId = some r) (hd : s.decisions id = some d)
      (hflight : r.inflightDecision = some id) (hx : x.status = .scored ∨ x.status = .unavailable)
      (hgeneration : r.stateGeneration = d.claim.parentGeneration)
      (hparent : r.stateRef = d.claim.parentState) :
      DailyCommit s ((s.setDecision id (DailyDb.committed d x now)).setCampaign
        d.claim.contract.campaignId (DailyDb.moved r x.stateRef))

section Rules

variable {cfg : DailyConfig} {s : DailyRows}

/-- A claimed decision is not committed. -/
theorem UnforkedLineage.open_of_claimed (h : UnforkedLineage cfg s) {id : String}
    {d : DailyDecision} (hd : s.decisions id = some d) (hs : d.status = .claimed) :
    d.completion = none := by
  cases hx : d.completion with
  | none => rfl
  | some x =>
    have hf := (h.completed id d hd).mp (by rw [hx]; rfl)
    rcases hf with hf | hf <;> rw [hs] at hf <;> cases hf

/-- A decision in flight is claimed, and the campaign's. -/
theorem UnforkedLineage.of_inflight (h : UnforkedLineage cfg s) {c id : String}
    {r : DailyCampaign} {d : DailyDecision} (hr : s.campaigns c = some r)
    (hflight : r.inflightDecision = some id) (hd : s.decisions id = some d) :
    d.claim.contract.campaignId = c ∧ d.status = .claimed := by
  obtain ⟨d', hd', hc, hs⟩ := (h.inflight c r hr id).mp hflight
  rw [hd] at hd'
  cases hd'
  exact ⟨hc, hs⟩

/-- Whether a decision committed a state, after one that had not is written. -/
theorem committedState_setDecision {c id : String} {d' : DailyDecision}
    (hopen : ∀ d, s.decisions id = some d → d.completion = none) {id' : String} :
    (s.setDecision id d').CommittedState c id'
      ↔ s.CommittedState c id' ∨ id' = id ∧ d'.claim.contract.campaignId = c
        ∧ ∃ x, d'.completion = some x ∧ x.stateRef.isSome = true := by
  unfold DailyRows.CommittedState
  rw [DailyRows.setDecision_decisions]
  by_cases hid : id' = id
  · subst hid
    simp only [Function.update_self, Option.some.injEq, true_and]
    constructor
    · rintro ⟨d, x, rfl, hc, hx, href⟩
      exact Or.inr ⟨hc, x, hx, href⟩
    · rintro (⟨d, x, hd, -, hx, -⟩ | ⟨hc, x, hx, href⟩)
      · rw [hopen d hd] at hx
        cases hx
      · exact ⟨d', x, rfl, hc, hx, href⟩
  · simp [hid]

/-- Whether a decision is claimed, after one is written. -/
theorem claimed_setDecision {c id : String} {d' : DailyDecision} {id' : String} :
    (s.setDecision id d').Claimed c id'
      ↔ (id' ≠ id ∧ s.Claimed c id')
        ∨ id' = id ∧ d'.claim.contract.campaignId = c ∧ d'.status = .claimed := by
  unfold DailyRows.Claimed
  rw [DailyRows.setDecision_decisions]
  by_cases hid : id' = id
  · subst hid
    simp
  · simp [hid]

/-- **A lineage a decision that carries no state is written beside.** -/
theorem CampaignLineage.keep {r r' : DailyCampaign} {l : List String} {c id : String}
    {d' : DailyDecision} (h : CampaignLineage s r l)
    (hopen : ∀ d, s.decisions id = some d → d.completion = none)
    (hr : r'.campaignId = r.campaignId ∧ r'.initialState = r.initialState
      ∧ r'.stateRef = r.stateRef ∧ r'.stateGeneration = r.stateGeneration)
    (hd : d'.claim.contract.campaignId = r.campaignId →
      ∀ x, d'.completion = some x → x.stateRef = none) :
    CampaignLineage ((s.setDecision id d').setCampaign c r') r' l := by
  obtain ⟨hname, hinitial, hstate, hgeneration⟩ := hr
  refine ⟨?_, by rw [hgeneration, h.generation], h.nodup, fun id' => ?_⟩
  · rw [hinitial, hstate]
    refine h.chain.mono (fun id' d hd' hx => ?_)
    have hne : id' ≠ id := by
      rintro rfl
      rw [hopen d hd'] at hx
      cases hx
    show Function.update s.decisions id (some d') id' = some d
    rw [Function.update_of_ne hne]
    exact hd'
  · rw [h.committed id', hname]
    show _ ↔ (s.setDecision id d').CommittedState r.campaignId id'
    rw [committedState_setDecision hopen]
    refine ⟨Or.inl, ?_⟩
    rintro (hc | ⟨-, hc, x, hx, href⟩)
    · exact hc
    · rw [hd hc x hx] at href
      cases href

/-- **The decision in flight commits the next state.** -/
theorem CampaignLineage.commit {r : DailyCampaign} {l : List String} {id : String}
    {d : DailyDecision} {x : DecisionCompletion} {ref : ArtifactReference} (now : Time)
    (h : CampaignLineage s r l) (hd : s.decisions id = some d) (hopen : d.completion = none)
    (hc : d.claim.contract.campaignId = r.campaignId)
    (hgeneration : r.stateGeneration = d.claim.parentGeneration)
    (hparent : r.stateRef = d.claim.parentState) (href : x.stateRef = some ref) :
    CampaignLineage ((s.setDecision id (DailyDb.committed d x now)).setCampaign r.campaignId
      (DailyDb.moved r x.stateRef)) (DailyDb.moved r x.stateRef) (l ++ [id]) := by
  have hopen' : ∀ d', s.decisions id = some d' → d'.completion = none := by
    intro d' hd'
    rw [hd] at hd'
    cases hd'
    exact hopen
  have hnotmem : id ∉ l := by
    intro hm
    obtain ⟨d', y, hd', -, hy, -⟩ := (h.committed id).mp hm
    rw [hopen' d' hd'] at hy
    cases hy
  rw [href]
  refine ⟨?_, ?_, ?_, fun id' => ?_⟩
  · refine .commit (d := DailyDb.committed d x now) (x := x) ?_ ?_ ?_ hparent.symm rfl href
    · refine h.chain.mono (fun id' d' hd' hx => ?_)
      have hne : id' ≠ id := by
        rintro rfl
        rw [hopen' d' hd'] at hx
        cases hx
      show Function.update s.decisions id _ id' = some d'
      rw [Function.update_of_ne hne]
      exact hd'
    · show Function.update s.decisions id _ id = _
      rw [Function.update_self]
    · show d.claim.parentGeneration = l.length
      rw [← hgeneration, h.generation]
  · show r.stateGeneration + 1 = _
    rw [h.generation, List.length_append]
    rfl
  · rw [List.nodup_append]
    refine ⟨h.nodup, List.nodup_singleton id, fun a ha b hb hab => ?_⟩
    rw [List.mem_singleton.mp hb] at hab
    exact hnotmem (hab ▸ ha)
  · show _ ↔ (s.setDecision id (DailyDb.committed d x now)).CommittedState r.campaignId id'
    rw [committedState_setDecision hopen', List.mem_append, h.committed id',
      List.mem_singleton]
    refine or_congr_right ⟨fun he => ⟨he, hc, x, rfl, by rw [href]; rfl⟩, fun he => he.1⟩

/-- **A decision is written together with its campaign.** -/
theorem UnforkedLineage.write (h : UnforkedLineage cfg s) {c id : String} {r r' : DailyCampaign}
    {d' : DailyDecision} (hr : s.campaigns c = some r) (hname : r'.campaignId = r.campaignId)
    (hopen : ∀ d, s.decisions id = some d → d.status = .claimed
      ∧ d.claim.contract.campaignId = c)
    (hid : d'.claim.decisionId = id
      ∧ id = cfg.decisionId d'.claim.contract.campaignId d'.claim.contract.sessionDate)
    (hc : d'.claim.contract.campaignId = c)
    (hx : d'.completion.isSome = true ↔ d'.Finished)
    (hflight : ∀ id', r'.inflightDecision = some id' ↔ id' = id ∧ d'.status = .claimed)
    (halone : ∀ id', s.Claimed c id' → id' = id)
    (hline : ∀ l, CampaignLineage s r l →
      ∃ l', CampaignLineage ((s.setDecision id d').setCampaign c r') r' l') :
    UnforkedLineage cfg ((s.setDecision id d').setCampaign c r') := by
  have hopen' : ∀ d, s.decisions id = some d → d.completion = none :=
    fun d hd => h.open_of_claimed hd (hopen d hd).1
  refine ⟨fun c' r₁ hr₁ => ?_, fun id' d₁ hd₁ => ?_, fun id' d₁ hd₁ => ?_,
    fun c' r₁ hr₁ id' => ?_, fun id' d₁ hd₁ => ?_, fun c' r₁ hr₁ => ?_, fun id' o ho => ?_⟩
  · simp only [DailyRows.setCampaign_campaigns, DailyRows.setDecision_campaigns] at hr₁
    by_cases hcc : c' = c
    · subst hcc
      rw [Function.update_self] at hr₁
      cases hr₁
      rw [hname]
      exact h.named _ _ hr
    · rw [Function.update_of_ne hcc] at hr₁
      exact h.named _ _ hr₁
  · simp only [DailyRows.setCampaign_decisions, DailyRows.setDecision_decisions] at hd₁
    by_cases hii : id' = id
    · subst hii
      rw [Function.update_self] at hd₁
      cases hd₁
      exact hid
    · rw [Function.update_of_ne hii] at hd₁
      exact h.identified _ _ hd₁
  · simp only [DailyRows.setCampaign_decisions, DailyRows.setDecision_decisions] at hd₁
    simp only [DailyRows.setCampaign_campaigns, DailyRows.setDecision_campaigns]
    by_cases hcc : d₁.claim.contract.campaignId = c
    · rw [hcc, Function.update_self]
      rfl
    · rw [Function.update_of_ne hcc]
      by_cases hii : id' = id
      · subst hii
        rw [Function.update_self] at hd₁
        cases hd₁
        exact absurd hc hcc
      · rw [Function.update_of_ne hii] at hd₁
        exact h.enrolled _ _ hd₁
  · simp only [DailyRows.setCampaign_campaigns, DailyRows.setDecision_campaigns] at hr₁
    show _ ↔ (s.setDecision id d').Claimed c' id'
    rw [claimed_setDecision]
    by_cases hcc : c' = c
    · subst hcc
      rw [Function.update_self] at hr₁
      cases hr₁
      rw [hflight id']
      constructor
      · rintro ⟨hi, hs⟩
        exact Or.inr ⟨hi, hc, hs⟩
      · rintro (⟨hne, hcl⟩ | ⟨hi, -, hs⟩)
        · exact absurd (halone id' hcl) hne
        · exact ⟨hi, hs⟩
    · rw [Function.update_of_ne hcc] at hr₁
      rw [h.inflight c' r₁ hr₁ id']
      constructor
      · intro hcl
        refine Or.inl ⟨?_, hcl⟩
        rintro rfl
        obtain ⟨d₁, hd₁, hc₁, -⟩ := hcl
        exact hcc (hc₁ ▸ (hopen d₁ hd₁).2)
      · rintro (⟨-, hcl⟩ | ⟨-, hc₁, -⟩)
        · exact hcl
        · exact absurd (hc₁ ▸ hc) hcc
  · simp only [DailyRows.setCampaign_decisions, DailyRows.setDecision_decisions] at hd₁
    by_cases hii : id' = id
    · subst hii
      rw [Function.update_self] at hd₁
      cases hd₁
      exact hx
    · rw [Function.update_of_ne hii] at hd₁
      exact h.completed _ _ hd₁
  · simp only [DailyRows.setCampaign_campaigns, DailyRows.setDecision_campaigns] at hr₁
    by_cases hcc : c' = c
    · subst hcc
      rw [Function.update_self] at hr₁
      cases hr₁
      obtain ⟨l, hl⟩ := h.lineage _ r hr
      exact hline l hl
    · rw [Function.update_of_ne hcc] at hr₁
      obtain ⟨l, hl⟩ := h.lineage c' r₁ hr₁
      have hkept : CampaignLineage ((s.setDecision id d').setCampaign c' r₁) r₁ l :=
        hl.keep hopen' ⟨rfl, rfl, rfl, rfl⟩ (fun hcc' => by
          rw [hc, h.named _ _ hr₁] at hcc'
          exact absurd hcc'.symm hcc)
      exact ⟨l, hkept.chain, hkept.generation, hkept.nodup, hkept.committed⟩
  · simp only [DailyRows.setCampaign_outcomes, DailyRows.setDecision_outcomes] at ho
    obtain ⟨hoid, d₁, hd₁, hf, hx₁⟩ := h.outcomes id' o ho
    refine ⟨hoid, d₁, ?_, hf, hx₁⟩
    have hne : id' ≠ id := by
      rintro rfl
      rw [hopen' d₁ hd₁] at hx₁
      cases hx₁
    simp only [DailyRows.setCampaign_decisions, DailyRows.setDecision_decisions]
    rw [Function.update_of_ne hne]
    exact hd₁

end Rules

section Moves

variable {cfg : DailyConfig} {s s' : DailyRows}

/-- A campaign in flight has no other claimed decision. -/
theorem UnforkedLineage.claimed_eq (h : UnforkedLineage cfg s) {c id id' : String}
    {r : DailyCampaign} (hr : s.campaigns c = some r) (hflight : r.inflightDecision = some id)
    (hc : s.Claimed c id') : id' = id := by
  have h' := (h.inflight c r hr id').mpr hc
  rw [hflight] at h'
  cases h'
  rfl

/-- A campaign is enrolled. -/
theorem UnforkedLineage.enroll (h : UnforkedLineage cfg s) {r : DailyCampaign}
    (hnew : s.campaigns r.campaignId = none) (hstate : r.stateRef = r.initialState)
    (hgeneration : r.stateGeneration = 0) (hidle : r.inflightDecision = none) :
    UnforkedLineage cfg (s.setCampaign r.campaignId r) := by
  have hnone : ∀ id d, s.decisions id = some d → d.claim.contract.campaignId ≠ r.campaignId := by
    intro id d hd hc
    have he := h.enrolled id d hd
    rw [hc, hnew] at he
    cases he
  refine ⟨fun c r₁ hr₁ => ?_, h.identified, fun id d hd => ?_, fun c r₁ hr₁ id => ?_,
    h.completed, fun c r₁ hr₁ => ?_, h.outcomes⟩
  · rw [DailyRows.setCampaign_campaigns] at hr₁
    by_cases hc : c = r.campaignId
    · subst hc
      rw [Function.update_self] at hr₁
      cases hr₁
      rfl
    · rw [Function.update_of_ne hc] at hr₁
      exact h.named c r₁ hr₁
  · rw [DailyRows.setCampaign_campaigns, Function.update_of_ne (hnone id d hd)]
    exact h.enrolled id d hd
  · rw [DailyRows.setCampaign_campaigns] at hr₁
    by_cases hc : c = r.campaignId
    · subst hc
      rw [Function.update_self] at hr₁
      cases hr₁
      rw [hidle]
      refine ⟨(fun hi => by cases hi), ?_⟩
      rintro ⟨d, hd, hc, -⟩
      exact absurd hc (hnone id d hd)
    · rw [Function.update_of_ne hc] at hr₁
      exact h.inflight c r₁ hr₁ id
  · rw [DailyRows.setCampaign_campaigns] at hr₁
    by_cases hc : c = r.campaignId
    · subst hc
      rw [Function.update_self] at hr₁
      cases hr₁
      refine ⟨[], ?_, hgeneration, List.nodup_nil, fun id => ?_⟩
      · rw [hstate]
        exact .start
      · refine ⟨(fun hm => by cases hm), ?_⟩
        rintro ⟨d, x, hd, hc, -⟩
        exact absurd hc (hnone id d hd)
    · rw [Function.update_of_ne hc] at hr₁
      obtain ⟨l, hl⟩ := h.lineage c r₁ hr₁
      exact ⟨l, hl.chain, hl.generation, hl.nodup, hl.committed⟩

/-- An outcome is written. -/
theorem UnforkedLineage.observe (h : UnforkedLineage cfg s) {id : String} {o : DailyOutcome}
    (ho : o.claim.decisionId = id ∧ ∃ d, s.decisions id = some d ∧ d.Finished
      ∧ d.completion = some o.claim.decisionCompletion) :
    UnforkedLineage cfg (s.setOutcome id o) := by
  refine ⟨h.named, h.identified, h.enrolled, h.inflight, h.completed, fun c r hr => ?_,
    fun id' o' ho' => ?_⟩
  · obtain ⟨l, hl⟩ := h.lineage c r hr
    exact ⟨l, hl.chain, hl.generation, hl.nodup, hl.committed⟩
  · rw [DailyRows.setOutcome_outcomes] at ho'
    by_cases hid : id' = id
    · subst hid
      rw [Function.update_self] at ho'
      cases ho'
      exact ho
    · rw [Function.update_of_ne hid] at ho'
      exact h.outcomes id' o' ho'

/-- **A move keeps what the rows agree on.** -/
theorem DailyMove.unforked (hm : DailyMove cfg s s') (h : UnforkedLineage cfg s) :
    UnforkedLineage cfg s' := by
  cases hm with
  | enroll hnew hstate hgeneration hidle => exact h.enroll hnew hstate hgeneration hidle
  | @interrupt c id r d now hr hd hflight =>
    obtain ⟨hc, hs⟩ := h.of_inflight hr hflight hd
    refine h.write hr rfl ?_ (h.identified id d hd) hc ?_ ?_
      (fun id' => h.claimed_eq hr hflight) (fun l hl => ⟨l, ?_⟩)
    · intro d' hd'
      rw [hd] at hd'
      cases hd'
      exact ⟨hs, hc⟩
    · show d.completion.isSome = true ↔ _
      rw [h.open_of_claimed hd hs]
      simp [DailyDecision.Finished, DailyDb.interrupted]
    · intro id'
      simp [DailyDb.interrupted]
    · refine hl.keep ?_ ⟨rfl, rfl, rfl, rfl⟩ ?_
      · intro d' hd'
        rw [hd] at hd'
        cases hd'
        exact h.open_of_claimed hd hs
      · intro _ x hx
        have hx' : d.completion = some x := hx
        rw [h.open_of_claimed hd hs] at hx'
        cases hx'
  | @claim id r contract claimId comparisons reason now hr hnew hid hidle =>
    refine h.write hr rfl ?_ ⟨rfl, hid⟩ rfl ?_ ?_ ?_ (fun l hl => ⟨l, ?_⟩)
    · intro d hd
      rw [hnew] at hd
      cases hd
    · cases reason <;>
        simp [DailyDb.opened, DailyDb.claimOf, DailyDecision.Finished]
    · intro id'
      cases reason <;> simp [DailyDb.opened, DailyDb.claimOf, DailyDb.advanced, hidle, eq_comm]
    · intro id' hc
      have hflight := (h.inflight _ r hr id').mpr hc
      rw [hidle] at hflight
      cases hflight
    · refine hl.keep ?_ ⟨rfl, rfl, rfl, rfl⟩ ?_
      · intro d hd
        rw [hnew] at hd
        cases hd
      · intro _ x hx
        cases hx
  | @openOutcome id d o hnew hd hfinished hx hid =>
    exact h.observe ⟨hid, d, hd, hfinished, hx⟩
  | @closeOutcome id o o' ho hstatus hclaim =>
    obtain ⟨hid, d, hd, hf, hx⟩ := h.outcomes id o ho
    refine h.observe ⟨?_, d, hd, hf, ?_⟩
    · rw [hclaim]
      exact hid
    · rw [hclaim]
      exact hx

/-- **A commit keeps what the rows agree on.** -/
theorem DailyCommit.unforked (hm : DailyCommit s s') (h : UnforkedLineage cfg s) :
    UnforkedLineage cfg s' := by
  cases hm with
  | @commit id r d x now hr hd hflight hx hgeneration hparent =>
    obtain ⟨-, hs⟩ := h.of_inflight hr hflight hd
    have hopen := h.open_of_claimed hd hs
    have hne : x.status ≠ .claimed := by
      rcases hx with hx | hx <;> rw [hx] <;> decide
    refine h.write hr ?_ ?_ (h.identified id d hd) rfl ?_ ?_
      (fun id' => h.claimed_eq hr hflight) (fun l hl => ?_)
    · cases hsr : x.stateRef <;> rfl
    · intro d' hd'
      rw [hd] at hd'
      cases hd'
      exact ⟨hs, rfl⟩
    · show true = true ↔ _
      simp only [true_iff]
      exact hx
    · intro id'
      cases hsr : x.stateRef <;> simp [DailyDb.moved, DailyDb.committed, hne]
    · cases hsr : x.stateRef with
      | none =>
        refine ⟨l, hl.keep ?_ ⟨rfl, rfl, rfl, rfl⟩ ?_⟩
        · intro d' hd'
          rw [hd] at hd'
          cases hd'
          exact hopen
        · intro _ y hy
          cases hy
          exact hsr
      | some ref =>
        have hname := h.named _ r hr
        have hc := hl.commit now hd hopen hname.symm hgeneration hparent hsr
        rw [hname, hsr] at hc
        exact ⟨l ++ [id], hc⟩

/-! ## What later rows keep -/

/-- The session is no later than the other's. -/
def NoLater (a b : Option ℤ) : Prop :=
  ∀ day, a = some day → ∃ day', b = some day' ∧ day ≤ day'

/-- **What later rows keep**: a decision keeps its claim, and once it is no
longer claimed it keeps everything; so does an outcome that is no longer being
captured; a campaign keeps where it started, and its cursor never goes back. -/
structure DailyKept (s s' : DailyRows) : Prop where
  decisions : ∀ id d, s.decisions id = some d → ∃ d', s'.decisions id = some d'
    ∧ d'.claim = d.claim ∧ (d.status ≠ .claimed → d' = d)
  outcomes : ∀ id o, s.outcomes id = some o → ∃ o', s'.outcomes id = some o'
    ∧ o'.claim = o.claim ∧ (o.status ≠ .capturing → o' = o)
  campaigns : ∀ c r, s.campaigns c = some r → ∃ r', s'.campaigns c = some r'
    ∧ r'.initialState = r.initialState ∧ NoLater r.lastSession r'.lastSession

theorem NoLater.refl (a : Option ℤ) : NoLater a a :=
  fun day h => ⟨day, h, le_rfl⟩

theorem NoLater.trans {a b c : Option ℤ} (hab : NoLater a b)
    (hbc : NoLater b c) : NoLater a c := by
  intro day hday
  obtain ⟨day', hday', hle⟩ := hab day hday
  obtain ⟨day'', hday'', hle'⟩ := hbc day' hday'
  exact ⟨day'', hday'', hle.trans hle'⟩

theorem DailyKept.refl (s : DailyRows) : DailyKept s s :=
  ⟨fun _ d hd => ⟨d, hd, rfl, fun _ => rfl⟩, fun _ o ho => ⟨o, ho, rfl, fun _ => rfl⟩,
    fun _ r hr => ⟨r, hr, rfl, .refl _⟩⟩

theorem DailyKept.trans {s s' s'' : DailyRows} (h : DailyKept s s') (h' : DailyKept s' s'') :
    DailyKept s s'' := by
  refine ⟨fun id d hd => ?_, fun id o ho => ?_, fun c r hr => ?_⟩
  · obtain ⟨d', hd', hc, hk⟩ := h.decisions id d hd
    obtain ⟨d'', hd'', hc', hk'⟩ := h'.decisions id d' hd'
    refine ⟨d'', hd'', hc'.trans hc, fun hs => ?_⟩
    have he := hk hs
    rw [hk' (he ▸ hs), he]
  · obtain ⟨o', ho', hc, hk⟩ := h.outcomes id o ho
    obtain ⟨o'', ho'', hc', hk'⟩ := h'.outcomes id o' ho'
    refine ⟨o'', ho'', hc'.trans hc, fun hs => ?_⟩
    have he := hk hs
    rw [hk' (he ▸ hs), he]
  · obtain ⟨r', hr', hi, hl⟩ := h.campaigns c r hr
    obtain ⟨r'', hr'', hi', hl'⟩ := h'.campaigns c r' hr'
    exact ⟨r'', hr'', hi'.trans hi, hl.trans hl'⟩

/-- A decision that is claimed or new is written together with its campaign. -/
theorem DailyKept.write {c id : String} {r r' : DailyCampaign} {d' : DailyDecision}
    (hr : s.campaigns c = some r)
    (hopen : ∀ d, s.decisions id = some d → d.status = .claimed ∧ d'.claim = d.claim)
    (hinitial : r'.initialState = r.initialState)
    (hlast : NoLater r.lastSession r'.lastSession) :
    DailyKept s ((s.setDecision id d').setCampaign c r') := by
  refine ⟨fun id' d hd => ?_, fun _ o ho => ⟨o, ho, rfl, fun _ => rfl⟩, fun c' r₁ hr₁ => ?_⟩
  · rw [DailyRows.setCampaign_decisions, DailyRows.setDecision_decisions]
    by_cases hid : id' = id
    · subst hid
      obtain ⟨hs, hc⟩ := hopen d hd
      exact ⟨d', Function.update_self .., hc, fun hne => absurd hs hne⟩
    · exact ⟨d, by rw [Function.update_of_ne hid]; exact hd, rfl, fun _ => rfl⟩
  · rw [DailyRows.setCampaign_campaigns]
    by_cases hcc : c' = c
    · subst hcc
      rw [hr] at hr₁
      cases hr₁
      exact ⟨r', Function.update_self .., hinitial, hlast⟩
    · exact ⟨r₁, by rw [Function.update_of_ne hcc]; exact hr₁, rfl, .refl _⟩

/-- An outcome that is new or being captured is written. -/
theorem DailyKept.observe {id : String} {o' : DailyOutcome}
    (hopen : ∀ o, s.outcomes id = some o → o.status = .capturing ∧ o'.claim = o.claim) :
    DailyKept s (s.setOutcome id o') := by
  refine ⟨fun _ d hd => ⟨d, hd, rfl, fun _ => rfl⟩, fun id' o ho => ?_,
    fun _ r hr => ⟨r, hr, rfl, .refl _⟩⟩
  rw [DailyRows.setOutcome_outcomes]
  by_cases hid : id' = id
  · subst hid
    obtain ⟨hs, hc⟩ := hopen o ho
    exact ⟨o', Function.update_self .., hc, fun hne => absurd hs hne⟩
  · exact ⟨o, by rw [Function.update_of_ne hid]; exact ho, rfl, fun _ => rfl⟩

/-- **A move keeps the past.** -/
theorem DailyMove.kept (hm : DailyMove cfg s s') (h : UnforkedLineage cfg s) :
    DailyKept s s' := by
  cases hm with
  | @enroll r hnew =>
    refine ⟨fun _ d hd => ⟨d, hd, rfl, fun _ => rfl⟩, fun _ o ho => ⟨o, ho, rfl, fun _ => rfl⟩,
      fun c r₁ hr₁ => ?_⟩
    have hne : c ≠ r.campaignId := by
      rintro rfl
      rw [hnew] at hr₁
      cases hr₁
    exact ⟨r₁, by rw [DailyRows.setCampaign_campaigns, Function.update_of_ne hne]; exact hr₁, rfl,
      .refl _⟩
  | @interrupt c id r d now hr hd hflight =>
    refine DailyKept.write hr ?_ rfl (.refl _)
    intro d' hd'
    rw [hd] at hd'
    cases hd'
    exact ⟨(h.of_inflight hr hflight hd).2, rfl⟩
  | @claim id r contract claimId comparisons reason now hr hnew =>
    refine DailyKept.write hr ?_ rfl ?_
    · intro d hd
      rw [hnew] at hd
      cases hd
    · intro day hday
      refine ⟨_, rfl, ?_⟩
      rw [hday]
      exact le_max_right _ _
  | @openOutcome id d o hnew =>
    refine DailyKept.observe (fun o₁ ho₁ => ?_)
    rw [hnew] at ho₁
    cases ho₁
  | @closeOutcome id o o' ho hstatus hclaim =>
    refine DailyKept.observe (fun o₁ ho₁ => ?_)
    rw [ho] at ho₁
    cases ho₁
    exact ⟨hstatus, hclaim⟩

/-- A commit keeps the past. -/
theorem DailyCommit.kept (hm : DailyCommit s s') (h : UnforkedLineage cfg s) :
    DailyKept s s' := by
  cases hm with
  | @commit id r d x now hr hd hflight =>
    refine DailyKept.write hr ?_ ?_ ?_
    · intro d' hd'
      rw [hd] at hd'
      cases hd'
      exact ⟨(h.of_inflight hr hflight hd).2, rfl⟩
    · cases x.stateRef <;> rfl
    · cases x.stateRef <;> exact .refl _

/-! ## Commits -/

/-- **Every state is committed on its parent.** A decision that commits a state
was claimed on the generation and the state its campaign had just before, and
the campaign has that state right after, one generation on. -/
def CommittedOnParent (s s' : DailyRows) : Prop :=
  ∀ id d d' x ref, s.decisions id = some d → d.completion = none →
    s'.decisions id = some d' → d'.completion = some x → x.stateRef = some ref →
    ∃ r r', s.campaigns d'.claim.contract.campaignId = some r
      ∧ s'.campaigns d'.claim.contract.campaignId = some r'
      ∧ d'.claim.parentGeneration = r.stateGeneration ∧ d'.claim.parentState = r.stateRef
      ∧ r'.stateGeneration = r.stateGeneration + 1 ∧ r'.stateRef = some ref

/-- No decision was committed. -/
def Uncommitted (s s' : DailyRows) : Prop :=
  ∀ id d', s'.decisions id = some d' → d'.completion.isSome = true → s.decisions id = some d'

theorem Uncommitted.trans {s s' s'' : DailyRows} (h : Uncommitted s s')
    (h' : Uncommitted s' s'') : Uncommitted s s'' :=
  fun id d' hd' hx => h id d' (h' id d' hd' hx) hx

theorem Uncommitted.committedOnParent (h : Uncommitted s s') : CommittedOnParent s s' := by
  intro id d d' x ref hd hopen hd' hx _
  have hd'' := h id d' hd' (by rw [hx]; rfl)
  rw [hd] at hd''
  cases hd''
  rw [hopen] at hx
  cases hx

/-- A decision without a completion is written. -/
theorem Uncommitted.write {c id : String} {r' : DailyCampaign} {d' : DailyDecision}
    (hd' : d'.completion = none) :
    Uncommitted s ((s.setDecision id d').setCampaign c r') := by
  intro id' d₁ hd₁ hx
  rw [DailyRows.setCampaign_decisions, DailyRows.setDecision_decisions] at hd₁
  by_cases hid : id' = id
  · subst hid
    rw [Function.update_self] at hd₁
    cases hd₁
    rw [hd'] at hx
    cases hx
  · rw [Function.update_of_ne hid] at hd₁
    exact hd₁

/-- A move commits nothing. -/
theorem DailyMove.uncommitted (hm : DailyMove cfg s s') (h : UnforkedLineage cfg s) :
    Uncommitted s s' := by
  cases hm with
  | enroll => exact fun _ _ hd _ => hd
  | interrupt hr hd hflight =>
    have hopen := h.open_of_claimed hd (h.of_inflight hr hflight hd).2
    exact .write hopen
  | claim => exact .write rfl
  | openOutcome => exact fun _ _ hd _ => hd
  | closeOutcome => exact fun _ _ hd _ => hd

/-- **A commit is on its parent.** -/
theorem DailyCommit.committedOnParent (hm : DailyCommit s s') : CommittedOnParent s s' := by
  cases hm with
  | @commit id r d x now hr hd hflight hx hgeneration hparent =>
    intro id' d₀ d' y ref hd₀ hopen hd' hy href
    rw [DailyRows.setCampaign_decisions, DailyRows.setDecision_decisions] at hd'
    by_cases hid : id' = id
    · subst hid
      rw [Function.update_self] at hd'
      cases hd'
      have hxy : x = y := Option.some.inj hy
      subst hxy
      refine ⟨r, DailyDb.moved r x.stateRef, hr, Function.update_self .., hgeneration.symm,
        hparent.symm, ?_, ?_⟩
      · rw [href]
        rfl
      · rw [href]
        rfl
    · rw [Function.update_of_ne hid, hd₀] at hd'
      cases hd'
      rw [hopen] at hy
      cases hy

/-- A sequence of moves. -/
abbrev DailyMoves (cfg : DailyConfig) : DailyRows → DailyRows → Prop :=
  Relation.ReflTransGen (DailyMove cfg)

/-- **What moves keep.** -/
theorem DailyMoves.spec (hm : DailyMoves cfg s s') (h : UnforkedLineage cfg s) :
    UnforkedLineage cfg s' ∧ DailyKept s s' ∧ Uncommitted s s' := by
  induction hm with
  | refl => exact ⟨h, .refl s, fun _ _ hd _ => hd⟩
  | tail _ hstep ih =>
    obtain ⟨hu, hk, hn⟩ := ih
    exact ⟨hstep.unforked hu, hk.trans (hstep.kept hu), hn.trans (hstep.uncommitted hu)⟩

end Moves

/-! ## Charges -/

/-- **Nothing was charged**: the family's count, the campaigns and the
comparisons are as they were. -/
structure Uncharged (db db' : DailyDb) : Prop where
  trials : DailyDb.trialCount db' = DailyDb.trialCount db
  campaigns : ∀ c, (db'.get (.campaign c)).isSome = (db.get (.campaign c)).isSome
  comparisons : ∀ c id, db'.get (.comparison c id) = db.get (.comparison c id)

/-- A key whose rows are not counted. -/
def DailyKey.Uncounted : DailyKey → Prop
  | .campaign _ => False
  | .comparison _ _ => False
  | .familyAll => False
  | _ => True

namespace Uncharged

variable {db db' db'' : DailyDb}

theorem refl (db : DailyDb) : Uncharged db db :=
  ⟨rfl, fun _ => rfl, fun _ _ => rfl⟩

theorem trans (h : Uncharged db db') (h' : Uncharged db' db'') : Uncharged db db'' :=
  ⟨h'.trials.trans h.trials, fun c => (h'.campaigns c).trans (h.campaigns c),
    fun c id => (h'.comparisons c id).trans (h.comparisons c id)⟩

theorem append (h : Uncharged db db') {k : DailyKey} (v : DailyValue k) (hk : k.Uncounted) :
    Uncharged db (db'.append k v) := by
  refine h.trans ⟨?_, fun c => ?_, fun c id => ?_⟩
  · unfold DailyDb.trialCount
    rw [Projections.get_append_ne _ _ (by rintro rfl; exact hk)]
  · rw [Projections.get_append_ne _ _ (by rintro rfl; exact hk)]
  · rw [Projections.get_append_ne _ _ (by rintro rfl; exact hk)]

/-- A campaign that is enrolled is written. -/
theorem campaign (h : Uncharged db db') {c : String} {r : DailyCampaign} (r' : DailyCampaign)
    (hr : db.get (.campaign c) = some r) : Uncharged db (db'.append (.campaign c) r') := by
  refine ⟨?_, fun c' => ?_, fun c' id => ?_⟩
  · rw [← h.trials]
    unfold DailyDb.trialCount
    rw [Projections.get_append_ne _ _ (by simp)]
  · by_cases hc : c' = c
    · subst hc
      rw [Projections.get_append_self, hr]
      rfl
    · rw [Projections.get_append_ne _ _ (by simpa using hc), h.campaigns]
  · rw [Projections.get_append_ne _ _ (by simp), h.comparisons]

theorem lateDecision (h : Uncharged db db') (id : String) (x : DecisionCompletion) (now : Time) :
    Uncharged db (DailyDb.lateDecision db' id x now) := by
  unfold DailyDb.lateDecision
  split
  · exact h.append _ trivial
  · exact h

theorem lateOutcome (h : Uncharged db db') (id : String) (x : OutcomeCompletion) (now : Time) :
    Uncharged db (DailyDb.lateOutcome db' id x now) := by
  unfold DailyDb.lateOutcome
  split
  · exact h.append _ trivial
  · exact h

end Uncharged

/-- **What the family was charged for**, since the journal was as it was. -/
def FamilyCharged (db₀ db : DailyDb) : Prop :=
  ∃ n m : ℕ, {c | (db.get (.campaign c)).isSome = true}.encard = n
    ∧ {k : String × String | (db.get (.comparison k.1 k.2)).isSome = true}.encard = m
    ∧ DailyDb.trialCount db = DailyDb.trialCount db₀ + dailyHypothesisCount * n
      + dailyBaselineModels.length * m

theorem FamilyCharged.uncharged {db₀ db db' : DailyDb} (h : FamilyCharged db₀ db)
    (hu : Uncharged db db') : FamilyCharged db₀ db' := by
  obtain ⟨n, m, hn, hm, ht⟩ := h
  refine ⟨n, m, ?_, ?_, by rw [hu.trials, ht]⟩
  · simp only [hu.campaigns, hn]
  · simp only [hu.comparisons, hm]

/-! ## The transactions -/

/-- **What a transaction did**: some moves without a charge, one commit, or an
enrolment, which is charged for. -/
inductive DailyDone (cfg : DailyConfig) (db : DailyDb) : DailyDb → Prop where
  | moves {db' : DailyDb} (hm : DailyMoves cfg (DailyDb.rows db) (DailyDb.rows db'))
      (hu : Uncharged db db') : DailyDone cfg db db'
  | commit {db' : DailyDb} (hm : DailyCommit (DailyDb.rows db) (DailyDb.rows db'))
      (hu : Uncharged db db') : DailyDone cfg db db'
  | enroll {r : DailyCampaign} {v : ResearchReservation}
      (hnew : db.get (.campaign r.campaignId) = none) (hstate : r.stateRef = r.initialState)
      (hgeneration : r.stateGeneration = 0) (hidle : r.inflightDecision = none) :
      DailyDone cfg db (((db.append (.reservation r.campaignId) v).append .familyAll
        (DailyDb.trialCount db + dailyHypothesisCount)).append (.campaign r.campaignId) r)
  | enrollComparison {c id : String} {r : DailyComparison} {v : ResearchReservation}
      (hnew : db.get (.comparison c id) = none) :
      DailyDone cfg db (((db.append (.comparisonReservation c id) v).append .familyAll
        (DailyDb.trialCount db + dailyBaselineModels.length)).append (.comparison c id) r)

theorem DailyDone.refl (cfg : DailyConfig) (db : DailyDb) : DailyDone cfg db db :=
  .moves .refl (.refl db)

section Transactions

variable {cfg : DailyConfig} {db db' : DailyDb} {now : Time}

theorem enroll_done {campaignId protocol protocolHash : String}
    {initialState : Option ArtifactReference} {r : DailyCampaign}
    (h : db.enroll cfg campaignId protocol protocolHash initialState now = .ok (db', r)) :
    DailyDone cfg db db' := by
  unfold DailyDb.enroll at h
  obtain ⟨⟨⟩, -, h⟩ := except_bind_eq_ok.mp h
  obtain ⟨⟨⟩, -, h⟩ := except_bind_eq_ok.mp h
  obtain ⟨initial, -, h⟩ := except_bind_eq_ok.mp h
  obtain ⟨-, h⟩ := refuse_bind_eq_ok.mp h
  cases hc : db.get (.campaign campaignId) with
  | some previous =>
    rw [hc] at h
    obtain ⟨-, h⟩ := refuse_bind_eq_ok.mp h
    cases h
    exact .refl cfg db
  | none =>
    rw [hc] at h
    obtain ⟨-, h⟩ := refuse_bind_eq_ok.mp h
    cases h
    exact .enroll (r := ⟨campaignId, protocol, protocolHash, initial, now, initial, 0, none, none,
      dailyHypothesisCount⟩) hc rfl rfl rfl

theorem enrollComparison_done {campaignId protocolHash : String} {plan : DailyComparisonPlan}
    {r : DailyComparison}
    (h : db.enrollComparison cfg campaignId plan protocolHash now = .ok (db', r)) :
    DailyDone cfg db db' := by
  unfold DailyDb.enrollComparison at h
  obtain ⟨⟨⟩, -, h⟩ := except_bind_eq_ok.mp h
  obtain ⟨⟨⟩, -, h⟩ := except_bind_eq_ok.mp h
  obtain ⟨-, h⟩ := refuse_bind_eq_ok.mp h
  split at h
  · cases h
  · split at h
    · cases h
    · obtain ⟨⟨⟩, -, h⟩ := except_bind_eq_ok.mp h
      cases hc : db.get (.comparison campaignId plan.comparisonId) with
      | some existing =>
        rw [hc] at h
        obtain ⟨-, h⟩ := refuse_bind_eq_ok.mp h
        cases h
        exact .refl cfg db
      | none =>
        rw [hc] at h
        obtain ⟨rows, -, h⟩ := except_bind_eq_ok.mp h
        obtain ⟨-, h⟩ := refuse_bind_eq_ok.mp h
        obtain ⟨-, h⟩ := refuse_bind_eq_ok.mp h
        obtain ⟨-, h⟩ := refuse_bind_eq_ok.mp h
        cases h
        exact .enrollComparison hc

/-- **The decision in flight is interrupted.** -/
theorem expireDecision_moves (hu : UnforkedLineage cfg (DailyDb.rows db)) {c id : String}
    {r : DailyCampaign} {d : DailyDecision} (hr : db.get (.campaign c) = some r)
    (hd : db.get (.decision id) = some d) (hflight : r.inflightDecision = some id) :
    DailyMove cfg (DailyDb.rows db) (DailyDb.rows (DailyDb.expireDecision db d r now))
      ∧ Uncharged db (DailyDb.expireDecision db d r now)
      ∧ (DailyDb.rows (DailyDb.expireDecision db d r now)).campaigns c
          = some (DailyDb.released r d.claim.decisionId)
      ∧ (DailyDb.released r d.claim.decisionId).inflightDecision = none
      ∧ ∀ id', (DailyDb.rows db).decisions id' = none →
          (DailyDb.rows (DailyDb.expireDecision db d r now)).decisions id' = none := by
  obtain ⟨hid, -⟩ := hu.identified id d hd
  have hname : r.campaignId = c := hu.named c r hr
  have hreleased : DailyDb.released r d.claim.decisionId = { r with inflightDecision := none } := by
    unfold DailyDb.released
    rw [hid, if_pos hflight]
  have hexpire : DailyDb.expireDecision db d r now
      = (db.append (.decision id) (DailyDb.interrupted d now)).append (.campaign c)
        { r with inflightDecision := none } := by
    unfold DailyDb.expireDecision
    rw [hreleased, hid, if_pos hflight, hname]
  rw [hexpire, hreleased, DailyDb.rows_append_campaign, DailyDb.rows_append_decision]
  refine ⟨.interrupt hr hd hflight, ?_, ?_, rfl, fun id' hn => ?_⟩
  · exact ((Uncharged.refl db).append (k := .decision id) _ trivial).campaign _ hr
  · rw [DailyRows.setCampaign_campaigns, Function.update_self]
  · have hne : id' ≠ id := by
      rintro rfl
      rw [show (DailyDb.rows db).decisions id' = some d from hd] at hn
      cases hn
    rw [DailyRows.setCampaign_decisions, DailyRows.setDecision_decisions,
      Function.update_of_ne hne]
    exact hn

/-- **The way for a claim is clear.** -/
theorem clearInflight_moves (hu : UnforkedLineage cfg (DailyDb.rows db)) {c : String}
    {r r' : DailyCampaign} (hr : db.get (.campaign c) = some r)
    (h : DailyDb.clearInflight db r now = .ok (some (db', r'))) :
    DailyMoves cfg (DailyDb.rows db) (DailyDb.rows db') ∧ Uncharged db db'
      ∧ (DailyDb.rows db').campaigns c = some r' ∧ r'.inflightDecision = none
      ∧ ∀ id', (DailyDb.rows db).decisions id' = none
        → (DailyDb.rows db').decisions id' = none := by
  unfold DailyDb.clearInflight at h
  cases hflight : r.inflightDecision with
  | none =>
    rw [hflight] at h
    cases h
    exact ⟨.refl, .refl db, hr, hflight, fun _ hn => hn⟩
  | some id =>
    rw [hflight] at h
    cases hd : db.get (.decision id) with
    | none =>
      simp only [hd] at h
      cases h
    | some d =>
      simp only [hd] at h
      split at h
      · cases h
      · cases h
        obtain ⟨hm, hrest⟩ := expireDecision_moves hu hr hd hflight
        exact ⟨.single hm, hrest⟩

/-- A status that passed the check is that of a commit. -/
theorem finished_of_checked {status : DecisionStatus}
    (h : (!(status = .scored || status = .unavailable : Bool)) = false) :
    status = .scored ∨ status = .unavailable := by
  cases status <;> simp_all

theorem claimDecision_done (hu : UnforkedLineage cfg (DailyDb.rows db))
    {contract : DecisionContract} {claimId : Uuid} {r : Option DecisionClaim}
    (h : db.claimDecision cfg contract claimId now = .ok (db', r)) : DailyDone cfg db db' := by
  unfold DailyDb.claimDecision at h
  obtain ⟨⟨⟩, -, h⟩ := except_bind_eq_ok.mp h
  obtain ⟨⟨⟩, -, h⟩ := except_bind_eq_ok.mp h
  cases hr : db.get (.campaign contract.campaignId) with
  | none =>
    simp only [hr] at h
    cases h
  | some campaign =>
    simp only [hr] at h
    cases hd : db.get (.decision (cfg.decisionId contract.campaignId contract.sessionDate)) with
    | some existing =>
      simp only [hd] at h
      obtain ⟨-, h⟩ := refuse_bind_eq_ok.mp h
      cases h
      exact .refl cfg db
    | none =>
      simp only [hd] at h
      obtain ⟨-, h⟩ := refuse_bind_eq_ok.mp h
      split at h
      · cases h
        exact .refl cfg db
      · obtain ⟨cleared, hcleared, h⟩ := except_bind_eq_ok.mp h
        cases cleared with
        | none =>
          cases h
          exact .refl cfg db
        | some pair =>
          obtain ⟨db₁, campaign₁⟩ := pair
          obtain ⟨hm, hcharge, hr₁, hidle, hnone⟩ := clearInflight_moves hu hr hcleared
          obtain ⟨rows, -, h⟩ := except_bind_eq_ok.mp h
          cases h
          refine .moves (hm.tail ?_) ?_
          · rw [DailyDb.rows_append_campaign, DailyDb.rows_append_decision]
            exact .claim hr₁ (hnone _ hd) rfl hidle
          · exact (hcharge.append (k := .decision _) _ trivial).campaign _ hr

theorem finishDecision_done (hu : UnforkedLineage cfg (DailyDb.rows db))
    {claim claimHash : DecisionClaim} {status : DecisionStatus} {evidence : DailyEvidence}
    {stateRef : Option ArtifactReference} {r : DailyDecision}
    (h : db.finishDecision claim claimHash status evidence stateRef now = .ok (db', r)) :
    DailyDone cfg db db' := by
  unfold DailyDb.finishDecision at h
  obtain ⟨hstatus, h⟩ := refuse_bind_eq_ok.mp h
  obtain ⟨⟨⟩, -, h⟩ := except_bind_eq_ok.mp h
  obtain ⟨state, -, h⟩ := except_bind_eq_ok.mp h
  obtain ⟨scored, -, h⟩ := except_bind_eq_ok.mp h
  obtain ⟨-, h⟩ := refuse_bind_eq_ok.mp h
  cases hd : db.get (.decision claim.decisionId) with
  | none =>
    simp only [hd] at h
    cases h
  | some previous =>
    simp only [hd] at h
    obtain ⟨⟨⟩, hmatch, h⟩ := except_bind_eq_ok.mp h
    have hclaim : previous.claim = claim := by
      unfold claimMatches refuse at hmatch
      split at hmatch
      · cases hmatch
      · simp_all
    split at h
    · split at h
      · cases h
        exact .refl cfg db
      · split at h
        · cases h
          refine .moves ?_ ((Uncharged.refl db).lateDecision _ _ _)
          rw [DailyDb.rows_lateDecision]
        · cases h
    · rename_i hopen
      rw [not_not] at hopen
      cases hr : db.get (.campaign claim.contract.campaignId) with
      | none =>
        simp only [hr] at h
        cases h
      | some campaign =>
        simp only [hr] at h
        have hflight : campaign.inflightDecision = some claim.decisionId :=
          (hu.inflight _ campaign hr claim.decisionId).mpr
            ⟨previous, hd, by rw [hclaim], hopen⟩
        split at h
        · cases h
          obtain ⟨hm, hcharge, -⟩ := expireDecision_moves hu hr hd hflight
          refine .moves ?_ (hcharge.lateDecision _ _ _)
          rw [DailyDb.rows_lateDecision]
          exact .single hm
        · obtain ⟨hparent, h⟩ := refuse_bind_eq_ok.mp h
          simp only [Bool.or_eq_false_iff, decide_eq_false_iff_not, not_not] at hparent
          obtain ⟨⟨hgeneration, hstate⟩, -⟩ := hparent
          cases h
          refine .commit ?_ ?_
          · rw [DailyDb.rows_append_campaign, DailyDb.rows_append_decision]
            rw [← hclaim] at hgeneration hstate
            have hc := @DailyCommit.commit (DailyDb.rows db) claim.decisionId campaign previous
              ⟨status, evidence, state⟩ now
              (by rw [hclaim]; exact hr) hd hflight (finished_of_checked hstatus) hgeneration hstate
            rw [hclaim] at hc
            exact hc
          · exact ((Uncharged.refl db).append (k := .decision _) _ trivial).campaign _ hr

theorem claimOutcome_done {decisionId : String}
    {availableAt expiresAt : Time} {claimId : Uuid} {r : Option OutcomeClaim}
    (h : db.claimOutcome decisionId availableAt expiresAt claimId now = .ok (db', r)) :
    DailyDone cfg db db' := by
  unfold DailyDb.claimOutcome at h
  cases hd : db.get (.decision decisionId) with
  | none =>
    simp only [hd] at h
    cases h
  | some decision =>
    simp only [hd] at h
    obtain ⟨hstatus, h⟩ := refuse_bind_eq_ok.mp h
    obtain ⟨-, h⟩ := refuse_bind_eq_ok.mp h
    split at h
    · cases h
      exact .refl cfg db
    · rename_i hnew
      split at h
      · cases h
        exact .refl cfg db
      · cases hx : decision.completion with
        | none =>
          rw [hx] at h
          cases h
        | some x =>
          rw [hx] at h
          cases h
          refine .moves ?_ ((Uncharged.refl db).append (k := .outcome _) _ trivial)
          rw [DailyDb.rows_append_outcome]
          refine .single (.openOutcome ?_ hd (finished_of_checked hstatus) hx rfl)
          simpa [DailyDb.rows_outcomes] using hnew

theorem finishOutcome_done {claim claimHash : OutcomeClaim} {status : ObservationStatus}
    {evidence : DailyEvidence} {r : DailyOutcome}
    (h : db.finishOutcome claim claimHash status evidence now = .ok (db', r)) :
    DailyDone cfg db db' := by
  unfold DailyDb.finishOutcome at h
  obtain ⟨-, h⟩ := refuse_bind_eq_ok.mp h
  obtain ⟨⟨⟩, -, h⟩ := except_bind_eq_ok.mp h
  obtain ⟨_, -, h⟩ := except_bind_eq_ok.mp h
  cases ho : db.get (.outcome claim.decisionId) with
  | none =>
    simp only [ho] at h
    cases h
  | some previous =>
    simp only [ho] at h
    obtain ⟨⟨⟩, -, h⟩ := except_bind_eq_ok.mp h
    split at h
    · cases h
    · obtain ⟨-, h⟩ := refuse_bind_eq_ok.mp h
      obtain ⟨-, h⟩ := refuse_bind_eq_ok.mp h
      split at h
      · split at h
        · cases h
          exact .refl cfg db
        · split at h
          · cases h
            refine .moves ?_ ((Uncharged.refl db).lateOutcome _ _ _)
            rw [DailyDb.rows_lateOutcome]
          · cases h
      · rename_i hopen
        rw [not_not] at hopen
        split at h
        · cases h
          refine .moves ?_ (((Uncharged.refl db).lateOutcome _ _ _).append (k := .outcome _) _
            trivial)
          rw [DailyDb.rows_append_outcome, DailyDb.rows_lateOutcome]
          exact .single (.closeOutcome ho hopen rfl)
        · cases h
          refine .moves ?_ ((Uncharged.refl db).append (k := .outcome _) _ trivial)
          rw [DailyDb.rows_append_outcome]
          exact .single (.closeOutcome ho hopen rfl)

variable (now) in
/-- **The sweep of outcomes** closes each at most once. -/
theorem expireOutcomes_moves {rows : List DailyOutcome} (acc : DailyDb × List DailyOutcome)
    (hrows : ∀ o ∈ rows, acc.1.get (.outcome o.claim.decisionId) = some o
      ∧ o.status = .capturing)
    (hdistinct : rows.Pairwise (fun o o' => o.claim.decisionId ≠ o'.claim.decisionId)) :
    DailyMoves cfg (DailyDb.rows acc.1)
      (DailyDb.rows (rows.foldl (DailyDb.expireOutcome now) acc).1)
      ∧ Uncharged acc.1 (rows.foldl (DailyDb.expireOutcome now) acc).1 := by
  induction rows generalizing acc with
  | nil => exact ⟨.refl, .refl _⟩
  | cons o rows ih =>
    obtain ⟨hne, hdistinct⟩ := List.pairwise_cons.mp hdistinct
    obtain ⟨ho, hs⟩ := hrows o List.mem_cons_self
    have hrest : ∀ o' ∈ rows, (DailyDb.expireOutcome now acc o).1.get
        (.outcome o'.claim.decisionId) = some o' ∧ o'.status = .capturing := by
      intro o' ho'
      refine ⟨?_, (hrows o' (List.mem_cons_of_mem _ ho')).2⟩
      unfold DailyDb.expireOutcome
      split
      · rw [Projections.get_append_ne _ _ (by simpa using (hne o' ho').symm)]
        exact (hrows o' (List.mem_cons_of_mem _ ho')).1
      · exact (hrows o' (List.mem_cons_of_mem _ ho')).1
    obtain ⟨hm, hu⟩ := ih (DailyDb.expireOutcome now acc o) hrest hdistinct
    have hone : DailyMoves cfg (DailyDb.rows acc.1)
          (DailyDb.rows (DailyDb.expireOutcome now acc o).1)
        ∧ Uncharged acc.1 (DailyDb.expireOutcome now acc o).1 := by
      unfold DailyDb.expireOutcome
      split
      · refine ⟨?_, (Uncharged.refl _).append (k := .outcome _) _ trivial⟩
        rw [DailyDb.rows_append_outcome]
        exact .single (.closeOutcome ho hs rfl)
      · exact ⟨.refl, .refl _⟩
    rw [List.foldl_cons]
    exact ⟨hone.1.trans hm, hone.2.trans hu⟩

/-- The outcomes the sweep reads are stored, being captured, and distinct. -/
theorem capturingOutcomes_spec (hu : UnforkedLineage cfg (DailyDb.rows db)) (c : String) :
    (∀ o ∈ DailyDb.capturingOutcomes db c, db.get (.outcome o.claim.decisionId) = some o
        ∧ o.status = .capturing)
      ∧ (DailyDb.capturingOutcomes db c).Pairwise
          (fun o o' => o.claim.decisionId ≠ o'.claim.decisionId) := by
  constructor
  · intro o ho
    unfold DailyDb.capturingOutcomes at ho
    rw [List.mem_mergeSort, List.mem_filter, List.mem_filterMap] at ho
    obtain ⟨⟨id, -, hget⟩, hcond⟩ := ho
    simp only [Bool.and_eq_true, decide_eq_true_eq] at hcond
    obtain ⟨hid, -⟩ := hu.outcomes id o hget
    rw [hid]
    exact ⟨hget, hcond.2⟩
  · refine ((List.mergeSort_perm _ _).pairwise_iff (fun h => h.symm)).mpr ?_
    refine List.Pairwise.filter _ ?_
    rw [List.pairwise_filterMap]
    refine (List.nodup_dedup _).imp (fun {id id'} hne o ho o' ho' heq => hne ?_)
    rw [← (hu.outcomes id o ho).1, ← (hu.outcomes id' o' ho').1]
    exact heq

theorem expireInflight_moves (hu : UnforkedLineage cfg (DailyDb.rows db)) {c : String}
    {campaign : DailyCampaign} {r : Option DailyDecision}
    (hr : db.get (.campaign c) = some campaign)
    (h : DailyDb.expireInflight db campaign now = .ok (db', r)) :
    DailyMoves cfg (DailyDb.rows db) (DailyDb.rows db') ∧ Uncharged db db' := by
  unfold DailyDb.expireInflight at h
  cases hflight : campaign.inflightDecision with
  | none =>
    simp only [hflight] at h
    cases h
    exact ⟨.refl, .refl db⟩
  | some id =>
    simp only [hflight] at h
    cases hd : db.get (.decision id) with
    | none =>
      simp only [hd] at h
      cases h
    | some previous =>
      simp only [hd] at h
      split at h
      · cases h
        obtain ⟨hm, hcharge, -⟩ := expireDecision_moves hu hr hd hflight
        exact ⟨.single hm, hcharge⟩
      · cases h
        exact ⟨.refl, .refl db⟩

theorem expire_done (hu : UnforkedLineage cfg (DailyDb.rows db)) {campaignId : String}
    {limit : ℤ} {r : Option DailyDecision × List DailyOutcome}
    (h : db.expire campaignId limit now = .ok (db', r)) : DailyDone cfg db db' := by
  unfold DailyDb.expire at h
  obtain ⟨⟨⟩, -, h⟩ := except_bind_eq_ok.mp h
  obtain ⟨⟨⟩, -, h⟩ := except_bind_eq_ok.mp h
  cases hr : db.get (.campaign campaignId) with
  | none =>
    simp only [hr] at h
    cases h
  | some campaign =>
    simp only [hr] at h
    obtain ⟨swept, hswept, h⟩ := except_bind_eq_ok.mp h
    cases h
    have hfirst := expireInflight_moves hu hr hswept
    obtain ⟨hu', -⟩ := hfirst.1.spec hu
    obtain ⟨hstored, hdistinct⟩ := capturingOutcomes_spec hu' campaignId
    obtain ⟨hm, hcharge⟩ := expireOutcomes_moves now (swept.1, [])
      (fun o ho => hstored o (List.mem_of_mem_take ho)) (hdistinct.sublist (List.take_sublist _ _))
    exact .moves (hfirst.1.trans hm) (hfirst.2.trans hcharge)

/-- **Every transaction**, by what it did. -/
theorem DailyStep.done (hu : UnforkedLineage cfg (DailyDb.rows db)) (h : DailyStep cfg db db') :
    DailyDone cfg db db' := by
  cases h with
  | enroll h => exact enroll_done h
  | enrollComparison h => exact enrollComparison_done h
  | claimDecision h => exact claimDecision_done hu h
  | finishDecision h => exact finishDecision_done hu h
  | claimOutcome h => exact claimOutcome_done h
  | finishOutcome h => exact finishOutcome_done h
  | expire h => exact expire_done hu h

/-- The rows after an enrolment. -/
theorem DailyDone.spec (hd : DailyDone cfg db db') (hu : UnforkedLineage cfg (DailyDb.rows db)) :
    UnforkedLineage cfg (DailyDb.rows db') ∧ DailyKept (DailyDb.rows db) (DailyDb.rows db')
      ∧ CommittedOnParent (DailyDb.rows db) (DailyDb.rows db') := by
  cases hd with
  | moves hm =>
    obtain ⟨hu', hk, hn⟩ := hm.spec hu
    exact ⟨hu', hk, hn.committedOnParent⟩
  | commit hm => exact ⟨hm.unforked hu, hm.kept hu, hm.committedOnParent⟩
  | @enroll r v hnew hstate hgeneration hidle =>
    rw [DailyDb.rows_append_campaign, DailyDb.rows_append_aside (k := .familyAll) _ _ trivial,
      DailyDb.rows_append_aside (k := .reservation _) _ _ trivial]
    have hm : DailyMove cfg _ _ := .enroll (s := DailyDb.rows db) hnew hstate hgeneration hidle
    exact ⟨hm.unforked hu, hm.kept hu, (hm.uncommitted hu).committedOnParent⟩
  | enrollComparison =>
    rw [DailyDb.rows_append_aside (k := .comparison _ _) _ _ trivial,
      DailyDb.rows_append_aside (k := .familyAll) _ _ trivial,
      DailyDb.rows_append_aside (k := .comparisonReservation _ _) _ _ trivial]
    exact ⟨hu, .refl _, Uncommitted.committedOnParent (fun _ _ hd _ => hd)⟩

end Transactions

/-! ## Enrolments are charged -/

/-- **A campaign is charged for once.** -/
theorem FamilyCharged.enroll {db₀ db : DailyDb} (h : FamilyCharged db₀ db) {r : DailyCampaign}
    {v : ResearchReservation} (hnew : db.get (.campaign r.campaignId) = none) :
    FamilyCharged db₀ (((db.append (.reservation r.campaignId) v).append .familyAll
      (DailyDb.trialCount db + dailyHypothesisCount)).append (.campaign r.campaignId) r) := by
  obtain ⟨n, m, hn, hm, ht⟩ := h
  refine ⟨n + 1, m, ?_, ?_, ?_⟩
  · have hset : {c | (((db.append (.reservation r.campaignId) v).append .familyAll
        (DailyDb.trialCount db + dailyHypothesisCount)).append (.campaign r.campaignId) r |>.get
          (.campaign c)).isSome = true}
        = insert r.campaignId {c | (db.get (.campaign c)).isSome = true} := by
      ext c
      by_cases hc : c = r.campaignId
      · subst hc
        simp
      · rw [Set.mem_ofPred_eq, Projections.get_append_ne _ _ (by simpa using hc),
          Projections.get_append_ne _ _ (by simp), Projections.get_append_ne _ _ (by simp)]
        simp [hc]
    rw [hset, Set.encard_insert_of_notMem (by simp [hnew]), hn]
    simp
  · rw [← hm]
    rfl
  · have hcount : DailyDb.trialCount (((db.append (.reservation r.campaignId) v).append .familyAll
        (DailyDb.trialCount db + dailyHypothesisCount)).append (.campaign r.campaignId) r)
        = DailyDb.trialCount db + dailyHypothesisCount := by
      unfold DailyDb.trialCount
      rw [Projections.get_append_ne _ _ (by simp), Projections.get_append_self]
      rfl
    rw [hcount, ht, Nat.mul_succ]
    omega

/-- **So is a comparison.** -/
theorem FamilyCharged.enrollComparison {db₀ db : DailyDb} (h : FamilyCharged db₀ db)
    {c id : String} {r : DailyComparison} {v : ResearchReservation}
    (hnew : db.get (.comparison c id) = none) :
    FamilyCharged db₀ (((db.append (.comparisonReservation c id) v).append .familyAll
      (DailyDb.trialCount db + dailyBaselineModels.length)).append (.comparison c id) r) := by
  obtain ⟨n, m, hn, hm, ht⟩ := h
  refine ⟨n, m + 1, ?_, ?_, ?_⟩
  · rw [← hn]
    rfl
  · have hset : {k : String × String | (((db.append (.comparisonReservation c id) v).append
        .familyAll (DailyDb.trialCount db + dailyBaselineModels.length)).append
          (.comparison c id) r |>.get (.comparison k.1 k.2)).isSome = true}
        = insert (c, id) {k : String × String | (db.get (.comparison k.1 k.2)).isSome = true} := by
      ext ⟨c', id'⟩
      by_cases hk : c' = c ∧ id' = id
      · obtain ⟨rfl, rfl⟩ := hk
        simp
      · rw [Set.mem_ofPred_eq, Projections.get_append_ne _ _ (by simpa using hk),
          Projections.get_append_ne _ _ (by simp), Projections.get_append_ne _ _ (by simp)]
        simp only [Set.mem_insert_iff, Prod.mk.injEq, hk, false_or]
        rfl
    rw [hset, Set.encard_insert_of_notMem (by simp [hnew]), hm]
    simp
  · have hcount : DailyDb.trialCount (((db.append (.comparisonReservation c id) v).append
        .familyAll (DailyDb.trialCount db + dailyBaselineModels.length)).append
          (.comparison c id) r) = DailyDb.trialCount db + dailyBaselineModels.length := by
      unfold DailyDb.trialCount
      rw [Projections.get_append_ne _ _ (by simp), Projections.get_append_self]
      rfl
    rw [hcount, ht, Nat.mul_succ]
    omega

theorem DailyDone.charged {cfg : DailyConfig} {db₀ db db' : DailyDb} (hd : DailyDone cfg db db')
    (h : FamilyCharged db₀ db) : FamilyCharged db₀ db' := by
  cases hd with
  | moves _ hu => exact h.uncharged hu
  | commit _ hu => exact h.uncharged hu
  | enroll hnew => exact h.enroll hnew
  | enrollComparison hnew => exact h.enrollComparison hnew

/-! ## Runs -/

section Runs

variable {cfg : DailyConfig} {db₀ db db' : DailyDb}

/-- The journal starts with no row. -/
theorem rows_of_init (h : (dailySystem cfg).init db) :
    DailyDb.rows db = ⟨fun _ => none, fun _ => none, fun _ => none⟩
      ∧ ∀ c id, db.get (.comparison c id) = none := by
  rcases h with rfl | ⟨charged, rfl⟩
  · exact ⟨rfl, fun _ _ => rfl⟩
  · refine ⟨?_, fun c id => ?_⟩
    · rw [DailyDb.rows_append_aside (k := .familyAll) _ _ trivial]
      rfl
    · rw [Projections.get_append_ne _ _ (by simp)]
      rfl

theorem unforked_init (h : (dailySystem cfg).init db) :
    UnforkedLineage cfg (DailyDb.rows db) := by
  rw [(rows_of_init h).1]
  exact ⟨(fun _ _ h => by cases h), (fun _ _ h => by cases h), (fun _ _ h => by cases h),
    (fun _ _ h => by cases h), (fun _ _ h => by cases h), (fun _ _ h => by cases h),
    (fun _ _ h => by cases h)⟩

theorem charged_init (h : (dailySystem cfg).init db) : FamilyCharged db db := by
  obtain ⟨hrows, hnone⟩ := rows_of_init h
  refine ⟨0, 0, ?_, ?_, by simp⟩
  · have hc : ∀ c, db.get (.campaign c) = none := fun c =>
      congrFun (congrArg DailyRows.campaigns hrows) c
    simp [hc]
  · simp [hnone]

/-- **What the rows agree on in every reachable journal.** -/
theorem unforked_of_reachable (h : (dailySystem cfg).Reachable db) :
    UnforkedLineage cfg (DailyDb.rows db) :=
  h.of_step (I := fun db => UnforkedLineage cfg (DailyDb.rows db)) (fun _ => unforked_init)
    (fun _ _ _ hu hs => ((DailyStep.done hu hs).spec hu).1)

/-- What the family was charged for along a run. -/
theorem charged_of_run (h₀ : (dailySystem cfg).init db₀) (hr : (dailySystem cfg).Run db₀ db) :
    FamilyCharged db₀ db := by
  induction hr with
  | refl => exact charged_init h₀
  | tail hr hs ih => exact (DailyStep.done (unforked_of_reachable ⟨_, h₀, hr⟩) hs).charged ih

/-- What later journals keep. -/
theorem kept_of_run (h : (dailySystem cfg).Reachable db) (hr : (dailySystem cfg).Run db db') :
    DailyKept (DailyDb.rows db) (DailyDb.rows db') :=
  TransitionSystem.Run.rel_of_step (R := fun a b => DailyKept (DailyDb.rows a) (DailyDb.rows b))
    (fun _ => .refl _) (fun _ _ _ => DailyKept.trans)
    (fun _ _ hs hstep =>
      ((DailyStep.done (unforked_of_reachable hs) hstep).spec (unforked_of_reachable hs)).2.1) h hr

/-- **Each daily campaign has one unforked lineage of states.** In every run of
any transactions of any workers, under any clock: a campaign and a session have
at most one decision; the rows agree, so the decision in flight is the one that
is claimed, the generation counts the decisions that committed a state, each of
which was claimed on the state before it, and an outcome belongs to a committed
decision and to its completion; the family was charged once for each
enrolment; every state is committed on its parent; and what was decided or
observed, and the cursor of a campaign, never go back. -/
theorem daily_campaign_unforked (h₀ : (dailySystem cfg).init db₀)
    (hr : (dailySystem cfg).Run db₀ db) :
    (∀ id id' d d', (DailyDb.rows db).decisions id = some d →
        (DailyDb.rows db).decisions id' = some d' →
        d.claim.contract.campaignId = d'.claim.contract.campaignId →
        d.claim.contract.sessionDate = d'.claim.contract.sessionDate → id = id' ∧ d = d')
      ∧ UnforkedLineage cfg (DailyDb.rows db)
      ∧ FamilyCharged db₀ db
      ∧ (∀ db', (dailySystem cfg).step db db' →
          CommittedOnParent (DailyDb.rows db) (DailyDb.rows db'))
      ∧ ∀ db', (dailySystem cfg).Run db db' → DailyKept (DailyDb.rows db) (DailyDb.rows db') := by
  have hreach : (dailySystem cfg).Reachable db := ⟨db₀, h₀, hr⟩
  have hu := unforked_of_reachable hreach
  refine ⟨fun id id' d d' hd hd' hc hs => ?_, hu, charged_of_run h₀ hr,
    fun db' hstep => ((DailyStep.done hu hstep).spec hu).2.2, fun db' => kept_of_run hreach⟩
  have he : id = id' := by
    rw [(hu.identified id d hd).2, (hu.identified id' d' hd').2, hc, hs]
  subst he
  rw [hd] at hd'
  exact ⟨rfl, Option.some.inj hd'⟩

end Runs

/-! ## A campaign of one day -/

/-- The journal a call commits. -/
def DailyDb.taken {α : Type} : Except String (DailyDb × α) → DailyDb
  | .ok result => result.1
  | .error _ => .empty

theorem DailyDb.eq_taken {α : Type} {x : Except String (DailyDb × α)} (h : x.isOk = true) :
    ∃ r, x = .ok (DailyDb.taken x, r) := by
  cases x with
  | ok result => exact ⟨result.2, rfl⟩
  | error _ => cases h

def sampleDaily : DailyConfig where
  documentHash text := text
  comparisonHash plan := plan.comparisonId
  decisionId c day := c ++ "/" ++ toString day
  panelPlan _ := none

def sampleDailyArtifact : ArtifactReference :=
  ⟨"states/1.json", String.ofList (List.replicate 64 'a')⟩

def sampleDailyContract : DecisionContract :=
  ⟨"demo", 10, 100, 110, 200, ⟨"", some 300, some 400⟩⟩

def sampleDailyClaim : DecisionClaim :=
  ⟨sampleDailyContract, "demo/10", 0, .claimed, 120, 0, none, "panel", [], none, none⟩

def sampleDailyEvidence : DailyEvidence :=
  ⟨"", none, some (some sampleDailyArtifact), none, none, []⟩

def sampleDailyEnrolled : DailyDb :=
  .taken (DailyDb.enroll .empty sampleDaily "demo" "panel" "panel" none 50)

def sampleDailyClaimed : DailyDb :=
  .taken (sampleDailyEnrolled.claimDecision sampleDaily sampleDailyContract 0 120)

def sampleDailyCommitted : DailyDb :=
  .taken (sampleDailyClaimed.finishDecision sampleDailyClaim sampleDailyClaim .scored
    sampleDailyEvidence (some sampleDailyArtifact) 150)

theorem sampleDailyCommitted_run : (dailySystem sampleDaily).Run .empty sampleDailyCommitted := by
  obtain ⟨r₁, h₁⟩ := DailyDb.eq_taken
    (x := DailyDb.enroll .empty sampleDaily "demo" "panel" "panel" none 50) (by decide +kernel)
  obtain ⟨r₂, h₂⟩ := DailyDb.eq_taken
    (x := sampleDailyEnrolled.claimDecision sampleDaily sampleDailyContract 0 120)
      (by decide +kernel)
  obtain ⟨r₃, h₃⟩ := DailyDb.eq_taken
    (x := sampleDailyClaimed.finishDecision sampleDailyClaim sampleDailyClaim .scored
      sampleDailyEvidence (some sampleDailyArtifact) 150) (by decide +kernel)
  exact ((Relation.ReflTransGen.single (DailyStep.enroll h₁)).tail (.claimDecision h₂)).tail
    (.finishDecision h₃)

/-- One forecast was committed, and its state is the campaign's. -/
theorem daily_campaign_unforked_sample :
    ((DailyDb.rows sampleDailyCommitted).campaigns "demo").map
        (fun r => (r.stateGeneration, r.stateRef, r.inflightDecision))
        = some (1, some sampleDailyArtifact, none)
      ∧ DailyDb.trialCount sampleDailyCommitted = 4
      ∧ UnforkedLineage sampleDaily (DailyDb.rows sampleDailyCommitted)
      ∧ FamilyCharged .empty sampleDailyCommitted :=
  have h := daily_campaign_unforked (show (dailySystem sampleDaily).init .empty from Or.inl rfl)
    sampleDailyCommitted_run
  ⟨by decide +kernel, by decide +kernel, h.2.1, h.2.2.1⟩

end AgenticTrader
