import AgenticTrader.Alpha.Research
import AgenticTrader.Alpha.RegistryConsistency
import Mathlib.Data.List.Dedup

/-!
# A holdout is spent once, and before it is read

The holdout of a research run is an interval of a symbol's history. Consuming
it (`begin_holdout`) is one transaction, which refuses an interval that
overlaps one that was consumed or observed before; only then is it evaluated,
and the decision recorded by another transaction.

What the transactions promise is about the journal's past, so it is one rule
for every event and the events before it (`HoldoutRule`). The test for overlaps
reads the list of the symbol, which holds every consumed and every observed
interval (`HoldoutInv`), because both are filed under the normalised symbol:
an observation normalises its own, and `qualify` compares the run's with the
finalist's, which is normalised.
-/

namespace AgenticTrader

open AlphaDb
open Projections (Justified)

/-! ## Intervals -/

/-- One interval ends before the other starts. -/
def HoldoutInterval.Apart (i j : HoldoutInterval) : Prop :=
  i.endAt.lt? j.startAt = some true ∨ j.endAt.lt? i.startAt = some true

/-- The interval was consumed. -/
def HoldoutInterval.IsConsumed (i : HoldoutInterval) : Prop :=
  ∃ runId versionId, i.usage = .consumed runId versionId

/-- **An interval that passes the test is apart from all of them.** -/
theorem apart_of_anyOverlap? {startAt endAt : WireTime} {l : List HoldoutInterval}
    (h : anyOverlap? startAt endAt l = some false) (usage : HoldoutUse) :
    ∀ i ∈ l, i.Apart ⟨startAt, endAt, usage⟩ := by
  induction l with
  | nil =>
    intro i hi
    cases hi
  | cons j l ih =>
    unfold anyOverlap? at h
    split at h
    · cases h
    · cases h
    · rename_i hj
      intro i hi
      rcases List.mem_cons.mp hi with rfl | hi
      · unfold HoldoutInterval.overlaps? at hj
        split at hj
        · cases hj
        · rename_i he
          exact Or.inl he
        · refine Or.inr ?_
          show endAt.lt? i.startAt = some true
          cases hlt : endAt.lt? i.startAt with
          | none =>
            rw [hlt] at hj
            cases hj
          | some b =>
            rw [hlt] at hj
            simpa using hj
      · exact ih h i hi

/-- An interval that does not end before it starts is not apart from itself,
whatever it is used for. -/
theorem not_apart_self {startAt endAt : WireTime} {usage usage' : HoldoutUse}
    (h : endAt.lt? startAt = some false) :
    ¬ HoldoutInterval.Apart ⟨startAt, endAt, usage⟩ ⟨startAt, endAt, usage'⟩ := by
  rintro (ha | ha) <;> exact absurd (h.symm.trans ha) (by simp)

/-! ## The rule of the journal -/

/-- **What a consumption promises about the past**: the run was recorded and
evaluated the version, its holdout was not consumed before, and no interval
observed before touches it. -/
def Spends (cfg : AlphaConfig) (past : List (Sigma AlphaValue)) (runId : String)
    (c : Consumption) : Prop :=
  ∃ run startAt, ⟨.run runId, run⟩ ∈ past ∧ run.holdoutStart = some startAt
    ∧ run.symbol = c.symbol ∧ c.versionId ∈ run.evaluated cfg
    ∧ (∃ symbol, c.symbol = cfg.normalized symbol)
    ∧ (∀ c', ⟨.consumption runId, c'⟩ ∉ past)
    ∧ ∀ o, ⟨.externalObservation o, ()⟩ ∈ past → o.symbol = c.symbol →
      (observedInterval o).Apart ⟨startAt, run.endAt, .consumed runId c.versionId⟩

/-- **The rule of the research journal.** -/
def HoldoutRule (cfg : AlphaConfig) (past : List (Sigma AlphaValue)) :
    Sigma AlphaValue → Prop
  | ⟨.run r, _⟩ => ∀ run, ⟨.run r, run⟩ ∉ past
  | ⟨.familyAll, n⟩ => ∀ m : ℕ, ⟨.familyAll, m⟩ ∈ past → m ≤ n
  | ⟨.holdout s, l⟩ => ∀ l' : List HoldoutInterval, ⟨.holdout s, l'⟩ ∈ past → l' <+: l
  | ⟨.consumption r, c⟩ => Spends cfg past r c
  | ⟨.qualificationRun r v, _⟩ =>
    (∃ c : Consumption, ⟨.consumption r, c⟩ ∈ past ∧ c.versionId = v)
      ∧ ∀ q, ⟨.qualificationRun r v, q⟩ ∉ past
  | _ => True

/-- The table is what the journal says, and the journal follows the rule. -/
structure HoldoutLedger (cfg : AlphaConfig) (db : AlphaDb) : Prop where
  faithful : db.store.Faithful
  justified : Justified (HoldoutRule cfg) db.store.journal

section

variable {cfg : AlphaConfig} {db db' : AlphaDb}

theorem HoldoutLedger.append (h : HoldoutLedger cfg db) (k : AlphaKey) (v : AlphaValue k)
    (hr : HoldoutRule cfg db.store.journal ⟨k, v⟩) : HoldoutLedger cfg (db.append k v) :=
  ⟨h.faithful.append k v, h.justified.concat hr⟩

/-- Every earlier list of a symbol is the start of the current one. -/
theorem HoldoutLedger.intervals (h : HoldoutLedger cfg db) {s : String} {l : List HoldoutInterval}
    (hl : ⟨.holdout s, l⟩ ∈ db.store.journal) : l <+: db.intervals s := by
  unfold AlphaDb.intervals
  cases hg : db.get (.holdout s) with
  | none => exact absurd hl (h.faithful.not_mem_of_get hg l)
  | some l₀ =>
    exact h.justified.latest h.faithful (k := .holdout s) (L := fun a b => a <+: b)
      (fun _ _ hr u hu => hr u hu) (fun _ => List.prefix_rfl) hg l hl

/-- Every earlier trial count is at most the current one. -/
theorem HoldoutLedger.trials (h : HoldoutLedger cfg db) {n : ℕ}
    (hn : ⟨.familyAll, n⟩ ∈ db.store.journal) : n ≤ db.trialCount := by
  unfold AlphaDb.trialCount
  cases hg : db.get .familyAll with
  | none => exact absurd hn (h.faithful.not_mem_of_get hg n)
  | some m =>
    exact h.justified.latest h.faithful (k := .familyAll) (L := fun a b => a ≤ b)
      (fun _ _ hr u hu => hr u hu) (fun _ => le_rfl) hg n hn

theorem HoldoutLedger.run (h : HoldoutLedger cfg db) {r : String} {run : ResearchRun}
    (hm : ⟨.run r, run⟩ ∈ db.store.journal) : db.get (.run r) = some run := by
  refine h.justified.get_of_mem h.faithful (k := .run r) ?_ hm
  exact fun past v (hr : ∀ run, ⟨.run r, run⟩ ∉ past) => hr

theorem HoldoutLedger.consumption (h : HoldoutLedger cfg db) {r : String} {c : Consumption}
    (hm : ⟨.consumption r, c⟩ ∈ db.store.journal) : db.get (.consumption r) = some c := by
  refine h.justified.get_of_mem h.faithful (k := .consumption r) ?_ hm
  rintro past v ⟨-, -, -, -, -, -, -, hfirst, -⟩
  exact hfirst

theorem HoldoutLedger.qualificationRun (h : HoldoutLedger cfg db) {r v : String} {q : Qualification}
    (hm : ⟨.qualificationRun r v, q⟩ ∈ db.store.journal) :
    db.get (.qualificationRun r v) = some q := by
  refine h.justified.get_of_mem h.faithful (k := .qualificationRun r v) ?_ hm
  rintro past q' ⟨-, hfirst⟩
  exact hfirst

/-! ## What a longer journal keeps -/

theorem intervals_grow (h : HoldoutLedger cfg db) (h' : HoldoutLedger cfg db')
    (hp : db.store.journal <+: db'.store.journal) (s : String) :
    db.intervals s <+: db'.intervals s := by
  cases hg : db.get (.holdout s) with
  | none =>
    rw [show db.intervals s = [] by unfold AlphaDb.intervals; rw [hg]; rfl]
    exact ⟨_, rfl⟩
  | some l =>
    rw [show db.intervals s = l by unfold AlphaDb.intervals; rw [hg]; rfl]
    exact h'.intervals (hp.subset (h.faithful.mem_of_get hg))

theorem trialCount_le (h : HoldoutLedger cfg db) (h' : HoldoutLedger cfg db')
    (hp : db.store.journal <+: db'.store.journal) : db.trialCount ≤ db'.trialCount := by
  cases hg : db.get .familyAll with
  | none =>
    rw [show db.trialCount = 0 by unfold AlphaDb.trialCount; rw [hg]; rfl]
    exact Nat.zero_le _
  | some n =>
    rw [show db.trialCount = n by unfold AlphaDb.trialCount; rw [hg]; rfl]
    exact h'.trials (hp.subset (h.faithful.mem_of_get hg))

/-! ## The invariant -/

/-- **The invariant of the research records.** -/
structure HoldoutInv (cfg : AlphaConfig) (db : AlphaDb) (t : List HoldoutMark) : Prop
    extends HoldoutLedger cfg db where
  /-- Every observed interval is filed. -/
  observed : ∀ o, ⟨.externalObservation o, ()⟩ ∈ db.store.journal →
    observedInterval o ∈ db.intervals o.symbol
  /-- Every consumed interval is filed. -/
  spent : ∀ r c, ⟨.consumption r, c⟩ ∈ db.store.journal → ∃ run startAt,
    ⟨.run r, run⟩ ∈ db.store.journal ∧ run.holdoutStart = some startAt
      ∧ ⟨startAt, run.endAt, .consumed r c.versionId⟩ ∈ db.intervals c.symbol
      ∧ run.symbol = c.symbol
  /-- What is filed as consumed was consumed. -/
  filed : ∀ s, ∀ i ∈ db.intervals s, ∀ r v, i.usage = .consumed r v →
    ∃ c, ⟨.consumption r, c⟩ ∈ db.store.journal ∧ c.versionId = v ∧ c.symbol = s
  /-- A consumed interval is apart from the ones filed before it. -/
  apart : ∀ s, (db.intervals s).Pairwise (fun i j => j.IsConsumed → i.Apart j)
  /-- A holdout is read after its consumption. -/
  marks : ∀ r v, .read r v ∈ t →
    ∃ c, ⟨.consumption r, c⟩ ∈ db.store.journal ∧ c.versionId = v

/-- **The keys whose events the invariant is about.** -/
def AlphaKey.ofHoldout : AlphaKey → Bool
  | .externalObservation _ | .consumption _ | .holdout _ => true
  | _ => false

theorem intervals_append_ne (db : AlphaDb) {k : AlphaKey} (v : AlphaValue k) {s : String}
    (h : k ≠ .holdout s) : (db.append k v).intervals s = db.intervals s := by
  unfold AlphaDb.intervals
  rw [get_append_ne _ _ h.symm]

theorem intervals_append_self (db : AlphaDb) (s : String) (l : List HoldoutInterval) :
    (db.append (.holdout s) l).intervals s = l := by
  unfold AlphaDb.intervals
  rw [get_append_self]
  rfl

theorem trialCount_append_ne (db : AlphaDb) {k : AlphaKey} (v : AlphaValue k)
    (h : k ≠ .familyAll) : (db.append k v).trialCount = db.trialCount := by
  unfold AlphaDb.trialCount
  rw [get_append_ne _ _ h.symm]

theorem mem_journal_append {k : AlphaKey} {v : AlphaValue k} {e : Sigma AlphaValue} :
    e ∈ (db.append k v).store.journal ↔ e ∈ db.store.journal ∨ e = ⟨k, v⟩ := by
  show e ∈ db.store.journal ++ [_] ↔ _
  simp

/-- **An event at another key keeps the invariant.** -/
theorem HoldoutInv.append {t : List HoldoutMark} (h : HoldoutInv cfg db t) (k : AlphaKey)
    (v : AlphaValue k) (hr : HoldoutRule cfg db.store.journal ⟨k, v⟩)
    (hk : k.ofHoldout = false) : HoldoutInv cfg (db.append k v) t := by
  have hi : ∀ s, (db.append k v).intervals s = db.intervals s := fun s =>
    intervals_append_ne db v (by rintro rfl; cases hk)
  refine ⟨h.toHoldoutLedger.append k v hr, fun o ho => ?_, fun r c hc => ?_,
    fun s i hi' r u hu => ?_, fun s => ?_, fun r u hu => ?_⟩
  · rw [hi]
    rcases mem_journal_append.mp ho with ho | ho
    · exact h.observed o ho
    · cases ho
      cases hk
  · rcases mem_journal_append.mp hc with hc | hc
    · obtain ⟨run, startAt, hrun, hs, hin, hsym⟩ := h.spent r c hc
      rw [hi]
      exact ⟨run, startAt, mem_journal_append.mpr (Or.inl hrun), hs, hin, hsym⟩
    · cases hc
      cases hk
  · rw [hi] at hi'
    obtain ⟨c, hc, hcv⟩ := h.filed s i hi' r u hu
    exact ⟨c, mem_journal_append.mpr (Or.inl hc), hcv⟩
  · rw [hi]
    exact h.apart s
  · obtain ⟨c, hc, hcv⟩ := h.marks r u hu
    exact ⟨c, mem_journal_append.mpr (Or.inl hc), hcv⟩

/-- **An interval is filed at the end of its symbol's list**, with the event
it is filed for. -/
theorem HoldoutInv.file {t : List HoldoutMark} (h : HoldoutInv cfg db t)
    (h' : HoldoutLedger cfg db')
    (hp : db.store.journal <+: db'.store.journal) {s : String} {i : HoldoutInterval}
    (hself : db'.intervals s = db.intervals s ++ [i])
    (hother : ∀ s', s' ≠ s → db'.intervals s' = db.intervals s')
    (hobs : ∀ o, ⟨.externalObservation o, ()⟩ ∈ db'.store.journal →
      ⟨.externalObservation o, ()⟩ ∈ db.store.journal ∨ observedInterval o = i ∧ o.symbol = s)
    (hcon : ∀ r c, ⟨.consumption r, c⟩ ∈ db'.store.journal →
      ⟨.consumption r, c⟩ ∈ db.store.journal ∨ ∃ run startAt, ⟨.run r, run⟩ ∈ db'.store.journal
        ∧ run.holdoutStart = some startAt
        ∧ i = ⟨startAt, run.endAt, .consumed r c.versionId⟩ ∧ c.symbol = s ∧ run.symbol = s)
    (hfiled : ∀ r v, i.usage = .consumed r v →
      ∃ c, ⟨.consumption r, c⟩ ∈ db'.store.journal ∧ c.versionId = v ∧ c.symbol = s)
    (hapart : i.IsConsumed → ∀ j ∈ db.intervals s, j.Apart i) : HoldoutInv cfg db' t := by
  have hmono : ∀ s', db.intervals s' <+: db'.intervals s' :=
    intervals_grow h.toHoldoutLedger h' hp
  have hin : i ∈ db'.intervals s := by
    rw [hself]
    simp
  refine ⟨h', fun o ho => ?_, fun r c hc => ?_, fun s' j hj r u hu => ?_, fun s' => ?_,
    fun r u hu => ?_⟩
  · rcases hobs o ho with ho | ⟨rfl, rfl⟩
    · exact (hmono _).subset (h.observed o ho)
    · exact hin
  · rcases hcon r c hc with hc | ⟨run, startAt, hrun, hs, rfl, rfl, hsym⟩
    · obtain ⟨run, startAt, hrun, hs, hi, hsym⟩ := h.spent r c hc
      exact ⟨run, startAt, hp.subset hrun, hs, (hmono _).subset hi, hsym⟩
    · exact ⟨run, startAt, hrun, hs, hin, hsym⟩
  · have old : j ∈ db.intervals s' → ∃ c, ⟨.consumption r, c⟩ ∈ db'.store.journal
        ∧ c.versionId = u ∧ c.symbol = s' := by
      intro hj'
      obtain ⟨c, hc, hcv⟩ := h.filed s' j hj' r u hu
      exact ⟨c, hp.subset hc, hcv⟩
    by_cases hs : s' = s
    · subst hs
      rw [hself] at hj
      rcases List.mem_append.mp hj with hj | hj
      · exact old hj
      · rw [List.mem_singleton.mp hj] at hu
        exact hfiled r u hu
    · rw [hother s' hs] at hj
      exact old hj
  · by_cases hs : s' = s
    · subst hs
      rw [hself, List.pairwise_append]
      refine ⟨h.apart s', List.pairwise_singleton _ _, fun j hj i' hi' hc => ?_⟩
      rw [List.mem_singleton.mp hi'] at hc ⊢
      exact hapart hc j hj
    · rw [hother s' hs]
      exact h.apart s'
  · obtain ⟨c, hc, hcv⟩ := h.marks r u hu
    exact ⟨c, hp.subset hc, hcv⟩

/-! ## The transactions -/

theorem prefix_append (db : AlphaDb) (k : AlphaKey) (v : AlphaValue k) :
    db.store.journal <+: (db.append k v).store.journal :=
  List.prefix_append _ _

/-- A list that is longer by one interval follows the rule. -/
theorem HoldoutLedger.holdout_rule (h : HoldoutLedger cfg db) (s : String) (i : HoldoutInterval) :
    HoldoutRule cfg db.store.journal ⟨.holdout s, db.intervals s ++ [i]⟩ :=
  fun _ hl => (h.intervals hl).trans (List.prefix_append _ _)

/-- A count that is not smaller follows the rule. -/
theorem HoldoutLedger.trials_rule (h : HoldoutLedger cfg db) {n : ℕ} (hn : db.trialCount ≤ n) :
    HoldoutRule cfg db.store.journal ⟨.familyAll, n⟩ :=
  fun _ hm => (h.trials hm).trans hn

/-- **What a consumption has checked, and what it writes.** -/
theorem beginHoldout_ok {r v : String} {c : Consumption}
    (h : db.beginHoldout cfg r v = .ok (db', c)) :
    ∃ run startAt, db.get (.run r) = some run ∧ v ∈ run.evaluated cfg
      ∧ run.holdoutStart = some startAt ∧ run.endAt.lt? startAt = some false
      ∧ anyOverlap? startAt run.endAt (db.intervals run.symbol) = some false
      ∧ c.versionId = v ∧ c.symbol = run.symbol
      ∧ db' = (db.append (.holdout run.symbol) (db.intervals run.symbol
        ++ [⟨startAt, run.endAt, .consumed r v⟩])).append (.consumption r) c := by
  unfold AlphaDb.beginHoldout at h
  split at h
  · rename_i run version hrun hversion
    simp only [refuse_bind_eq_ok] at h
    obtain ⟨-, hev, h⟩ := h
    split at h
    · cases h
    · rename_i startAt hs
      obtain ⟨_, hfresh, h⟩ := except_bind_eq_ok.mp h
      split at h
      · cases h
        unfold AlphaDb.freshHoldout at hfresh
        split at hfresh
        · cases hfresh
        · cases hfresh
        · rename_i hlt
          split at hfresh
          · cases hfresh
          · cases hfresh
          · rename_i hover
            exact ⟨run, startAt, hrun, by simpa using hev, hs, hlt, hover, rfl, rfl, rfl⟩
      · cases h
  · cases h

/-- **A consumption keeps the invariant.** -/
theorem HoldoutInv.beginHoldout {t : List HoldoutMark} (h : HoldoutInv cfg db t)
    {r v : String} {c : Consumption} (hb : db.beginHoldout cfg r v = .ok (db', c))
    (hn : ∀ run, db.get (.run r) = some run → ∃ symbol, run.symbol = cfg.normalized symbol) :
    HoldoutInv cfg db' t ∧ db.store.journal <+: db'.store.journal
      ∧ ⟨.consumption r, c⟩ ∈ db'.store.journal ∧ c.versionId = v := by
  obtain ⟨run, startAt, hrun, hev, hs, hlt, hover, hcv, hcs, rfl⟩ := beginHoldout_ok hb
  have hmem := h.faithful.mem_of_get hrun
  have hapart := apart_of_anyOverlap? hover (.consumed r v)
  have h₁ := h.toHoldoutLedger.append (.holdout run.symbol) _
    (h.toHoldoutLedger.holdout_rule run.symbol ⟨startAt, run.endAt, .consumed r v⟩)
  have hold : ∀ {k : AlphaKey} {x : AlphaValue k}, k ≠ .holdout run.symbol →
      ⟨k, x⟩ ∈ (db.append (.holdout run.symbol) (db.intervals run.symbol
        ++ [⟨startAt, run.endAt, .consumed r v⟩])).store.journal → ⟨k, x⟩ ∈ db.store.journal := by
    intro k x hk hx
    rcases mem_journal_append.mp hx with hx | hx
    · exact hx
    · exact absurd (congrArg Sigma.fst hx) hk
  have hspends : Spends cfg (db.append (.holdout run.symbol) (db.intervals run.symbol
      ++ [⟨startAt, run.endAt, .consumed r v⟩])).store.journal r c := by
    refine ⟨run, startAt, mem_journal_append.mpr (Or.inl hmem), hs, hcs.symm, hcv ▸ hev, ?_,
      fun c' hc' => ?_, fun o ho hsym => ?_⟩
    · rw [hcs]
      exact hn run hrun
    · -- the run's own interval is filed, and it overlaps itself
      obtain ⟨run', startAt', hrun', hs', hin, hsym⟩ := h.spent r c' (hold (by simp) hc')
      have he := h.toHoldoutLedger.run hrun'
      rw [hrun] at he
      cases he
      rw [hs] at hs'
      cases hs'
      rw [← hsym] at hin
      exact not_apart_self hlt (hapart _ hin)
    · have hin := h.observed o (hold (by simp) ho)
      rw [hsym, hcs] at hin
      exact hapart _ hin
  have h₂ := h₁.append (.consumption r) c hspends
  refine ⟨h.file h₂ ?_ (s := run.symbol) (i := ⟨startAt, run.endAt, .consumed r v⟩) ?_
    (fun s' hs' => ?_) (fun o ho => Or.inl ?_) (fun r' c' hc' => ?_) (fun r' u hu => ?_)
    (fun _ => hapart), ?_, mem_journal_append.mpr (Or.inr rfl), hcv⟩
  · exact (prefix_append _ _ _).trans (prefix_append _ _ _)
  · rw [intervals_append_ne _ _ (by simp), intervals_append_self]
  · rw [intervals_append_ne _ _ (by simp), intervals_append_ne _ _ (by simpa using hs'.symm)]
  · rcases mem_journal_append.mp ho with ho | ho
    · exact hold (by simp) ho
    · cases ho
  · rcases mem_journal_append.mp hc' with hc' | hc'
    · exact Or.inl (hold (by simp) hc')
    · cases hc'
      refine Or.inr ⟨run, startAt, ?_, hs, by rw [hcv], hcs, rfl⟩
      exact mem_journal_append.mpr (Or.inl (mem_journal_append.mpr (Or.inl hmem)))
  · cases hu
    exact ⟨c, mem_journal_append.mpr (Or.inr rfl), hcv, hcs⟩
  · exact (prefix_append _ _ _).trans (prefix_append _ _ _)

/-- **An observation keeps the invariant.** -/
theorem HoldoutInv.observe {t : List HoldoutMark} (h : HoldoutInv cfg db t)
    (o : ExternalObservation) : HoldoutInv cfg (db.observe o) t := by
  have h₁ := h.toHoldoutLedger.append (.externalObservation o) () trivial
  have hi : (db.append (.externalObservation o) ()).intervals o.symbol
      = db.intervals o.symbol := intervals_append_ne _ _ (by simp)
  have hrule := h₁.holdout_rule o.symbol (observedInterval o)
  rw [hi] at hrule
  have hfile : HoldoutInv cfg ((db.append (.externalObservation o) ()).append
      (.holdout o.symbol) (db.intervals o.symbol ++ [observedInterval o])) t := by
    refine h.file (h₁.append _ _ hrule) ((prefix_append _ _ _).trans (prefix_append _ _ _))
      (s := o.symbol) (i := observedInterval o) (intervals_append_self _ _ _)
      (fun s' hs' => ?_) (fun o' ho' => ?_) (fun r c hc => Or.inl ?_)
      (fun r v hu => by cases hu) (fun hc => by obtain ⟨r, v, hu⟩ := hc; cases hu)
    · rw [intervals_append_ne _ _ (by simpa using hs'.symm), intervals_append_ne _ _ (by simp)]
    · rcases mem_journal_append.mp ho' with ho' | ho'
      · rcases mem_journal_append.mp ho' with ho' | ho'
        · exact Or.inl ho'
        · cases ho'
          exact Or.inr ⟨rfl, rfl⟩
      · cases ho'
    · rcases mem_journal_append.mp hc with hc | hc
      · rcases mem_journal_append.mp hc with hc | hc
        · exact hc
        · cases hc
      · cases hc
  refine hfile.append .familyAll _ (hfile.toHoldoutLedger.trials_rule ?_) rfl
  rw [trialCount_append_ne _ _ (by simp), trialCount_append_ne _ _ (by simp)]
  exact Nat.le_add_right _ _

theorem HoldoutInv.excludeObservedInterval {t : List HoldoutMark} (h : HoldoutInv cfg db t)
    {symbol : String} {startAt endAt : WireTime} {startOffset endOffset trials : ℤ}
    {reason : String}
    (he : db.excludeObservedInterval cfg symbol startAt endAt startOffset endOffset trials
      reason = .ok db') :
    HoldoutInv cfg db' t ∧ db.store.journal <+: db'.store.journal := by
  unfold AlphaDb.excludeObservedInterval at he
  simp only [refuse_bind_eq_ok] at he
  obtain ⟨-, he⟩ := he
  split at he
  · simp only [refuse_bind_eq_ok, Except.ok.injEq] at he
    obtain ⟨-, rfl⟩ := he
    split
    · exact ⟨h, List.prefix_rfl⟩
    · exact ⟨h.observe _,
        ((prefix_append _ _ _).trans (prefix_append _ _ _)).trans (prefix_append _ _ _)⟩
  · cases he

/-- **A recorded run keeps the invariant.** -/
theorem HoldoutInv.recordRun {t : List HoldoutMark} (h : HoldoutInv cfg db t) {r : String}
    {run : ResearchRun} (hr : db.recordRun cfg r run = .ok db') :
    HoldoutInv cfg db' t ∧ db.store.journal <+: db'.store.journal := by
  unfold AlphaDb.recordRun at hr
  split at hr
  · cases hr
  · split at hr
    · split at hr
      · cases hr
      · cases hr
        exact ⟨h, List.prefix_rfl⟩
    · rename_i hnone
      obtain ⟨count, hcount, hr⟩ := except_bind_eq_ok.mp hr
      cases hr
      have hle : db.trialCount ≤ count := by
        unfold AlphaDb.chargedCount at hcount
        split at hcount
        · split at hcount
          · cases hcount
          · cases hcount
            exact le_rfl
        · cases hcount
          exact Nat.le_add_right _ _
      have h₁ := h.append (.run r) run (fun run' => h.faithful.not_mem_of_get hnone run')
        rfl
      have h₂ := h₁.append .familyAll count (h₁.toHoldoutLedger.trials_rule (by
          rw [trialCount_append_ne _ _ (by simp)]
          exact hle))
        rfl
      exact ⟨h₂.append (.family run.timeframe) _ trivial rfl,
        ((prefix_append _ _ _).trans (prefix_append _ _ _)).trans (prefix_append _ _ _)⟩

/-- **A reservation keeps the invariant.** -/
theorem HoldoutInv.reserveRun {t : List HoldoutMark} (h : HoldoutInv cfg db t)
    {r symbol timeframe : String} {trials : ℤ}
    (hr : db.reserveRun r symbol timeframe trials = .ok db') :
    HoldoutInv cfg db' t ∧ db.store.journal <+: db'.store.journal := by
  unfold AlphaDb.reserveRun at hr
  simp only [refuse_bind_eq_ok] at hr
  obtain ⟨-, hr⟩ := hr
  split at hr
  · split at hr
    · cases hr
    · cases hr
      exact ⟨h, List.prefix_rfl⟩
  · cases hr
    have h₁ := h.append (.reservation r) ⟨symbol, timeframe, trials.toNat⟩ trivial
      rfl
    refine ⟨h₁.append .familyAll _ (h₁.toHoldoutLedger.trials_rule ?_) rfl,
      (prefix_append _ _ _).trans (prefix_append _ _ _)⟩
    rw [trialCount_append_ne _ _ (by simp)]
    exact Nat.le_add_right _ _

/-- **A decision keeps the invariant.** -/
theorem HoldoutInv.recordQualification {t : List HoldoutMark} (h : HoldoutInv cfg db t)
    {r v : String} {decision : Qualification} {now : Time}
    (hr : db.recordQualification r v decision now = .ok db') :
    HoldoutInv cfg db' t ∧ db.store.journal <+: db'.store.journal := by
  unfold AlphaDb.recordQualification at hr
  simp only [refuse_bind_eq_ok, Except.ok.injEq] at hr
  obtain ⟨hc, hq, rfl⟩ := hr
  have hconsumed : ∃ c : Consumption, ⟨.consumption r, c⟩ ∈ db.store.journal
      ∧ c.versionId = v := by
    cases hg : db.get (.consumption r) with
    | none =>
      rw [hg] at hc
      cases hc
    | some c =>
      rw [hg] at hc
      exact ⟨c, h.faithful.mem_of_get hg, by simpa using hc⟩
  have hnone : db.get (.qualificationRun r v) = none := by simpa using hq
  have h₁ := h.append (.qualificationRun r v)
    { decision with runId := r, versionId := v, qualifiedAt := now }
    ⟨hconsumed, fun q => h.faithful.not_mem_of_get hnone q⟩
    rfl
  exact ⟨h₁.append (.qualification v) _ trivial rfl,
    (prefix_append _ _ _).trans (prefix_append _ _ _)⟩

/-- **Every transaction keeps the invariant**, and only appends. -/
theorem ResearchTransaction.holds {t : List HoldoutMark} (h : ResearchTransaction cfg db db')
    (hI : HoldoutInv cfg db t) :
    HoldoutInv cfg db' t ∧ db.store.journal <+: db'.store.journal := by
  cases h with
  | register definition =>
    unfold AlphaDb.register
    split
    · exact ⟨hI, List.prefix_rfl⟩
    · exact ⟨hI.append _ _ trivial rfl, prefix_append _ _ _⟩
  | recordCatalog definition =>
    unfold AlphaDb.recordCatalog
    split
    · exact ⟨hI, List.prefix_rfl⟩
    · exact ⟨hI.append _ _ trivial rfl, prefix_append _ _ _⟩
  | recordRun runId run h => exact hI.recordRun h
  | excludeObservedInterval symbol startAt endAt startOffset endOffset trials reason h =>
    exact hI.excludeObservedInterval h
  | reserveRun runId symbol timeframe trials h => exact hI.reserveRun h
  | rebuild =>
    unfold AlphaDb.rebuild
    rw [Projections.rebuild_eq hI.faithful]
    exact ⟨hI, List.prefix_rfl⟩
  | other k v hk =>
    refine ⟨hI.append k v ?_ ?_, prefix_append _ _ _⟩
    · cases k <;> trivial
    · cases k <;> trivial

/-! ## The processes -/

/-- The symbol a finalist's universe consists of is normalised. -/
theorem normalized_of_fromDict {definition : AlphaDefinition} {symbol : String}
    (h : (definition.fromDict cfg).eligibleSymbols = some [symbol]) :
    ∃ s, symbol = cfg.normalized s := by
  unfold AlphaDefinition.fromDict at h
  dsimp only at h
  split at h
  · cases h
  · have hin : symbol ∈ sortedSet (((definition.symbols.map cfg.upper).filter
        (fun s => strip s != "")).map cfg.normalized) := by
      rw [Option.some.inj h]
      exact List.mem_cons_self ..
    unfold sortedSet at hin
    rw [List.mem_mergeSort, List.mem_dedup] at hin
    obtain ⟨s, -, hs⟩ := List.mem_map.mp hin
    exact ⟨s, hs.symm⟩

/-- What a process knows of its run where it is. -/
def QualifierKnows (cfg : AlphaConfig) (journal : List (Sigma AlphaValue)) : Qualifier → Prop
  | .idle => True
  | .loaded r _ run => ⟨.run r, run⟩ ∈ journal
  | .checked r _ run => ⟨.run r, run⟩ ∈ journal ∧ ∃ s, run.symbol = cfg.normalized s
  | .consumed r v _ => ∃ c : Consumption, ⟨.consumption r, c⟩ ∈ journal ∧ c.versionId = v
  | .assessed r v _ => ∃ c : Consumption, ⟨.consumption r, c⟩ ∈ journal ∧ c.versionId = v

/-- What a process knows stays true. -/
theorem QualifierKnows.mono {journal journal' : List (Sigma AlphaValue)} {p : Qualifier}
    (h : QualifierKnows cfg journal p) (hp : journal <+: journal') :
    QualifierKnows cfg journal' p := by
  cases p with
  | idle => exact trivial
  | loaded r v run => exact hp.subset h
  | checked r v run => exact ⟨hp.subset h.1, h.2⟩
  | consumed r v c =>
    obtain ⟨c, hc, hv⟩ := h
    exact ⟨c, hp.subset hc, hv⟩
  | assessed r v d =>
    obtain ⟨c, hc, hv⟩ := h
    exact ⟨c, hp.subset hc, hv⟩

/-- **One action**: the invariant is kept, the journal only grows, and the
process knows what it should. -/
theorem ResearchAct.holds {t marks : List HoldoutMark} {p p' : Qualifier}
    (h : ResearchAct cfg db t p marks db' p') (hI : HoldoutInv cfg db t)
    (hp : QualifierKnows cfg db.store.journal p) :
    HoldoutInv cfg db' (t ++ marks) ∧ db.store.journal <+: db'.store.journal
      ∧ QualifierKnows cfg db'.store.journal p' := by
  cases h with
  | transaction h =>
    obtain ⟨hI', hgrow⟩ := h.holds hI
    rw [List.append_nil]
    exact ⟨hI', hgrow, trivial⟩
  | load r v digest h hd =>
    rw [List.append_nil]
    exact ⟨hI, List.prefix_rfl, hI.faithful.mem_of_get h⟩
  | check h hc hs =>
    rw [List.append_nil]
    exact ⟨hI, List.prefix_rfl, hp, normalized_of_fromDict hs⟩
  | @begin _ _ r v run family h =>
    have hn : ∀ run', db.get (.run r) = some run' →
        ∃ symbol, run'.symbol = cfg.normalized symbol := by
      intro run' hrun'
      rw [hI.toHoldoutLedger.run hp.1] at hrun'
      cases hrun'
      exact hp.2
    obtain ⟨hI', hgrow, hmem, hv⟩ := hI.beginHoldout h hn
    rw [List.append_nil]
    exact ⟨hI', hgrow, family, hmem, hv⟩
  | assess decision =>
    refine ⟨⟨hI.toHoldoutLedger, hI.observed, hI.spent, hI.filed, hI.apart, ?_⟩,
      List.prefix_rfl, hp⟩
    intro r v hin
    rcases List.mem_append.mp hin with hin | hin
    · exact hI.marks r v hin
    · cases List.mem_singleton.mp hin
      exact hp
  | record now h =>
    obtain ⟨hI', hgrow⟩ := hI.recordQualification h
    rw [List.append_nil]
    exact ⟨hI', hgrow, trivial⟩

/-- The assertion of the research program. -/
def researching (cfg : AlphaConfig) : Program.Assertion AlphaDb Qualifier HoldoutMark where
  store := HoldoutInv cfg
  here := fun db _ p => QualifierKnows cfg db.store.journal p

theorem research_holds {w : World AlphaDb Qualifier HoldoutMark}
    (h : (researchProgram cfg).Reachable w) : (researching cfg).Holds w := by
  refine Program.holds (P := researchProgram cfg) (researching cfg) ?_
    (fun _ _ _ => trivial) (fun _ => ⟨trivial, trivial⟩) ?_ h
  · refine ⟨⟨Projections.faithful_empty, Projections.justified_nil⟩, fun o ho => ?_,
      fun r c hc => ?_, fun s i hi => ?_, fun s => List.Pairwise.nil, fun r v hv => ?_⟩
    · cases ho
    · cases hc
    · cases hi
    · cases hv
  · intro w i marks d p _ hA ha
    obtain ⟨hI', hgrow, hp'⟩ := ResearchAct.holds ha hA.store (hA.here i)
    exact ⟨hI', hp', fun q hq _ _ => ⟨hq.mono hgrow, trivial, trivial⟩⟩

/-- The journal only grows along a run. -/
theorem research_journal {w w' : World AlphaDb Qualifier HoldoutMark}
    (h : (researchProgram cfg).Reachable w) (hr : (researchProgram cfg).Run w w') :
    w.store.store.journal <+: w'.store.store.journal := by
  refine Program.store_rel (P := researchProgram cfg)
    (R := fun d d' => d.store.journal <+: d'.store.journal) (fun _ => List.prefix_rfl)
    (fun _ _ _ hab hbc => hab.trans hbc) ?_ h hr
  intro w i marks d p hw ha
  have hA := research_holds hw
  exact (ResearchAct.holds ha hA.store (hA.here i)).2.1

end

/-- **A holdout is spent once, and before it is read.** In every interleaving
of the research transactions with any number of `qualify` processes, crashing
anywhere:

* the consumed intervals of a symbol are pairwise apart;
* a consumption is of a version its run evaluated and of the run's holdout,
  filed under a normalised symbol; it is the run's first, and apart from every
  observation of the symbol journaled before it;
* a decision is preceded by the consumption for its version, and is the first
  for its run and version;
* a holdout that was read was consumed;
* and along a run no list of intervals loses anything, a decision and a
  consumption stay as they are, and the trial count does not decrease. -/
theorem holdout_spent_once (cfg : AlphaConfig) {w : World AlphaDb Qualifier HoldoutMark}
    (h : (researchProgram cfg).Reachable w) :
    (∀ s, (w.store.intervals s).Pairwise
        (fun i j => i.IsConsumed → j.IsConsumed → i.Apart j))
      ∧ (∀ s, ∀ i ∈ w.store.intervals s, ∀ r v, i.usage = .consumed r v →
        ∃ c, w.store.get (.consumption r) = some c ∧ c.versionId = v ∧ c.symbol = s)
      ∧ (∀ past rest r (c : Consumption),
        w.store.store.journal = past ++ ⟨.consumption r, c⟩ :: rest →
        Spends cfg past r c ∧ ∃ run startAt, w.store.get (.run r) = some run
          ∧ run.holdoutStart = some startAt
          ∧ ⟨startAt, run.endAt, .consumed r c.versionId⟩ ∈ w.store.intervals c.symbol)
      ∧ (∀ past rest r v (q : Qualification),
        w.store.store.journal = past ++ ⟨.qualificationRun r v, q⟩ :: rest →
        (∃ c : Consumption, ⟨.consumption r, c⟩ ∈ past ∧ c.versionId = v)
          ∧ ∀ q', ⟨.qualificationRun r v, q'⟩ ∉ past)
      ∧ (∀ r v, .read r v ∈ w.trace →
        ∃ c, w.store.get (.consumption r) = some c ∧ c.versionId = v)
      ∧ ∀ w', (researchProgram cfg).Run w w' →
        (∀ s, w.store.intervals s <+: w'.store.intervals s)
          ∧ (∀ r c, w.store.get (.consumption r) = some c →
            w'.store.get (.consumption r) = some c)
          ∧ (∀ r v q, w.store.get (.qualificationRun r v) = some q →
            w'.store.get (.qualificationRun r v) = some q)
          ∧ w.store.trialCount ≤ w'.store.trialCount := by
  have hI : HoldoutInv cfg w.store w.trace := (research_holds h).store
  have hL := hI.toHoldoutLedger
  refine ⟨fun s => ?_, fun s i hi r v hu => ?_, fun past rest r c heq => ⟨?_, ?_⟩,
    fun past rest r v q heq => ?_, fun r v hv => ?_, fun w' hr => ?_⟩
  · exact (hI.apart s).imp (fun hij _ hj => hij hj)
  · obtain ⟨c, hc, hcv⟩ := hI.filed s i hi r v hu
    exact ⟨c, hL.consumption hc, hcv⟩
  · exact hI.justified past _ rest heq
  · obtain ⟨run, startAt, hrun, hs, hin, -⟩ := hI.spent r c (by rw [heq]; simp)
    exact ⟨run, startAt, hL.run hrun, hs, hin⟩
  · exact hI.justified past _ rest heq
  · obtain ⟨c, hc, hcv⟩ := hI.marks r v hv
    exact ⟨c, hL.consumption hc, hcv⟩
  · have hI' : HoldoutInv cfg w'.store w'.trace := (research_holds (h.run hr)).store
    have hL' := hI'.toHoldoutLedger
    have hgrow := research_journal h hr
    exact ⟨intervals_grow hL hL' hgrow,
      fun r c hc => hL'.consumption (hgrow.subset (hI.faithful.mem_of_get hc)),
      fun r v q hq => hL'.qualificationRun (hgrow.subset (hI.faithful.mem_of_get hq)),
      trialCount_le hL hL' hgrow⟩

/-! ### A qualified run -/

def sampleRun : ResearchRun where
  policy := "validation_v1"
  trialCount := 1
  trials := [⟨"evaluated", some sampleDefinition, some 1⟩]
  symbol := "SPY"
  timeframe := .d1
  contentHash := "digest"
  holdoutStart := some (.aware 0)
  endAt := .aware 9
  incumbents := []

def sampleRecorded : AlphaDb :=
  ((sampleRegistered.append (.run "run") sampleRun).append .familyAll 1).append (.family .d1)
    ⟨1, [1]⟩

def sampleConsumption : Consumption := ⟨"momentum/v1", "SPY", 1, some 0, 1, "bar"⟩

def sampleSpent : AlphaDb :=
  (sampleRecorded.append (.holdout "SPY") [⟨.aware 0, .aware 9, .consumed "run" "momentum/v1"⟩])
    |>.append (.consumption "run") sampleConsumption

theorem sampleRecorded_ok :
    sampleRegistered.recordRun sampleAlphaConfig "run" sampleRun = .ok sampleRecorded := rfl

theorem sampleSpent_ok :
    sampleRecorded.beginHoldout sampleAlphaConfig "run" "momentum/v1"
      = .ok (sampleSpent, sampleConsumption) := rfl

theorem sampleDefinition_symbols :
    (sampleDefinition.fromDict sampleAlphaConfig).eligibleSymbols = some [sampleRun.symbol] := by
  decide +kernel

/-- A run is recorded, its finalist registered, and its holdout consumed. -/
theorem sampleSpent_reachable :
    ∃ w, (researchProgram sampleAlphaConfig).Reachable w ∧ w.store = sampleSpent := by
  have h₀ : (researchProgram sampleAlphaConfig).Reachable ⟨.empty, fun _ => .idle, []⟩ :=
    TransitionSystem.Reachable.of_init rfl
  have h₁ := Program.Reachable.act (i := 0) h₀
    (.transaction (ResearchTransaction.register sampleDefinition))
  have h₂ := Program.Reachable.act (i := 0) h₁
    (.transaction (ResearchTransaction.recordRun "run" sampleRun sampleRecorded_ok))
  have h₃ := Program.Reachable.act (i := 1) h₂
    (.load "run" "momentum/v1" "digest" (show _ = some sampleRun from rfl) rfl)
  have h₄ := Program.Reachable.act (i := 1) h₃
    (.check (show _ = some (VersionDocument.dsl sampleDefinition) from rfl) rfl
      sampleDefinition_symbols)
  have h₅ := Program.Reachable.act (i := 1) h₄ (.begin sampleSpent_ok)
  exact ⟨_, h₅, rfl⟩

/-- The holdout of the run is spent, and stays spent by the same version in every state that
follows. -/
theorem holdout_spent_once_sample :
    ∃ w, (researchProgram sampleAlphaConfig).Reachable w
      ∧ w.store.intervals "SPY" = [⟨.aware 0, .aware 9, .consumed "run" "momentum/v1"⟩]
      ∧ ∀ w', (researchProgram sampleAlphaConfig).Run w w' →
        w'.store.get (.consumption "run") = some sampleConsumption
          ∧ ⟨.aware 0, .aware 9, .consumed "run" "momentum/v1"⟩ ∈ w'.store.intervals "SPY" := by
  obtain ⟨w, hw, hs⟩ := sampleSpent_reachable
  have hconsumed : w.store.get (.consumption "run") = some sampleConsumption := by
    rw [hs]
    rfl
  have hintervals : w.store.intervals "SPY"
      = [⟨.aware 0, .aware 9, .consumed "run" "momentum/v1"⟩] := by
    rw [hs]
    rfl
  obtain ⟨-, -, -, -, -, hrun⟩ := holdout_spent_once sampleAlphaConfig hw
  refine ⟨w, hw, hintervals, fun w' hr => ?_⟩
  obtain ⟨hgrow, hkeep, -, -⟩ := hrun w' hr
  refine ⟨hkeep "run" _ hconsumed, (hgrow "SPY").subset ?_⟩
  rw [hintervals]
  exact List.mem_singleton_self _

end AgenticTrader
