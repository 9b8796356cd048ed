import AgenticTrader.EntrySubmission

/-!
# The halt flag

An outcome nobody knows raises the persisted halt in the transaction that
records it, and trading stays halted until an operator resumes it. What a
resume checks and what it writes are transactions of their own: it recovers
and lists the open entries, recovers and lists the open cancellations, looks
at the claims without an item and at the timed positions, and then clears the
flag, whatever happened in between.

So a halt can be lost. `halt_lost` is a run that loses one: a submission
turns uncertain after the resume looked and before it clears. Nothing else
goes wrong. In the runs whose resumes clear only when no halt was persisted
since they listed the open entries (`Undisturbed`), an unknown outcome is
never without a halt, and no resume clears one it did not see.
-/

namespace AgenticTrader

open Table

/-- Some entry's outcome is unknown. -/
def Db.UnknownEntry (db : Db) : Prop :=
  ∃ e ∈ db.entries, e.status = .unknown

/-- Some cancellation's outcome is unknown. -/
def Db.UnknownCancel (db : Db) : Prop :=
  ∃ c ∈ db.cancels, c.status = .unknown

section

variable {env : Env} {db db' : Db} {op : Op}

/-! ## Where unknown outcomes come from -/

/-- An entry turns unknown only together with a halt. -/
theorem EntryEffect.unknown (h : EntryEffect db db') (hu : db'.UnknownEntry) :
    db.UnknownEntry ∨ db'.halted = true ∧ db.halts < db'.halts := by
  obtain ⟨e, he, hs⟩ := hu
  cases h with
  | same heq => exact Or.inl ⟨e, heq ▸ he, hs⟩
  | queued now request trigger free heq =>
    rw [heq, List.mem_append, List.mem_singleton] at he
    rcases he with he | rfl
    · exact Or.inl ⟨e, he, hs⟩
    · cases hs
  | claimed lease now row head status heq =>
    rw [heq] at he
    obtain ⟨r, hr, rfl⟩ := mem_updateWhere.mp he
    split at hs
    · cases hs
    · exact Or.inl ⟨r, hr, hs⟩
  | submitting item row mem id status token heq =>
    rw [heq] at he
    obtain ⟨r, hr, rfl⟩ := mem_updateWhere.mp he
    split at hs
    · cases hs
    · exact Or.inl ⟨r, hr, hs⟩
  | settled item row result mem id blocking fence heq halts =>
    rw [heq] at he
    obtain ⟨r, hr, rfl⟩ := mem_updateWhere.mp he
    split at hs
    · exact Or.inr (halts hs)
    · exact Or.inl ⟨r, hr, hs⟩

/-- So does a cancellation. -/
theorem CancelEffect.unknown (h : CancelEffect db db') (hu : db'.UnknownCancel) :
    db.UnknownCancel ∨ db'.halted = true ∧ db.halts < db'.halts := by
  obtain ⟨c, hc, hs⟩ := hu
  cases h with
  | same heq => exact Or.inl ⟨c, heq ▸ hc, hs⟩
  | claimed item fresh signal id status heq =>
    rw [heq, List.mem_append, List.mem_singleton] at hc
    rcases hc with hc | rfl
    · exact Or.inl ⟨c, hc, hs⟩
    · rw [status] at hs
      cases hs
  | settled row complete filledFirst result mem unrejected late heq halts =>
    rw [heq] at hc
    obtain ⟨r, hr, rfl⟩ := mem_updateWhere.mp hc
    split at hs
    · exact Or.inr (halts hs)
    · exact Or.inl ⟨r, hr, hs⟩

theorem Db.le_setTradingHalted_halts (db : Db) (value : String) :
    db.halts ≤ (db.setTradingHalted value).halts := by
  unfold setTradingHalted
  split <;> simp

/-- Halts are only ever added. -/
theorem HaltEffect.halts_le (h : HaltEffect db db' op) : db.halts ≤ db'.halts := by
  cases h with
  | same hf hh => exact hh.ge
  | raised hf hh => rw [hh]; exact Nat.le_succ _
  | written value hw => rw [hw]; exact db.le_setTradingHalted_halts value

/-- The open entries are listed empty only when there are none. -/
theorem Db.unknownEntry_unresolved (h : db.UnknownEntry) :
    db.unresolvedEntries.isEmpty = false := by
  obtain ⟨e, he, hs⟩ := h
  have hm : e ∈ db.entries.filter (fun e => e.status.unresolved) :=
    List.mem_filter.mpr ⟨he, by rw [hs]; rfl⟩
  have hl : 0 < (db.entries.filter (fun e => e.status.unresolved)).length :=
    List.length_pos_of_mem hm
  unfold unresolvedEntries
  rw [List.isEmpty_eq_false_iff_exists_mem]
  refine List.exists_mem_of_length_pos ?_
  rw [List.length_take, List.length_mergeSort]
  omega

theorem Db.unknownCancel_unresolved (h : db.UnknownCancel) :
    db.unresolvedCancels.isEmpty = false := by
  obtain ⟨c, hc, hs⟩ := h
  have hm : c ∈ db.cancels.filter (fun c => c.status.unresolved) :=
    List.mem_filter.mpr ⟨hc, by rw [hs]; rfl⟩
  have hl : 0 < (db.cancels.filter (fun c => c.status.unresolved)).length :=
    List.length_pos_of_mem hm
  unfold unresolvedCancels
  rw [List.isEmpty_eq_false_iff_exists_mem]
  refine List.exists_mem_of_length_pos ?_
  rw [List.length_take, List.length_mergeSort]
  omega

end

/-! ## Resuming -/

/-- A resume that has listed the open entries: whether it saw any, and the
halts persisted by then. -/
def Proc.listed? : Proc → Option (Bool × ℕ)
  | .cancelPolling _ _ _ _ (.resume blocked listed) => some (blocked, listed)
  | .cancelRead _ _ _ _ _ _ (.resume blocked listed) => some (blocked, listed)
  | .cancelRecovering _ (.resume blocked listed) => some (blocked, listed)
  | .resumeCancels blocked listed => some (blocked, listed)
  | .resumeLegacy listed => some (false, listed)
  | .resumeBlockers listed => some (false, listed)
  | .resumeClear listed _ => some (false, listed)
  | _ => none

/-- A resume that has listed the open cancellations too, and seen none. -/
def Proc.cancelsListed : Proc → Bool
  | .resumeLegacy _ => true
  | .resumeBlockers _ => true
  | .resumeClear _ _ => true
  | _ => false

/-- **What an action means for the resumes.** -/
inductive ResumeAct (db db' : Db) : Proc → List Mark → Proc → Prop where
  /-- The process is not in a resume's checks after it. -/
  | aside {p p' : Proc} {calls : List Mark} (listed : p'.listed? = none)
      (flag : db'.halted = true ∨ db'.tradingHalted = db.tradingHalted)
      (silent : cleared calls = []) : ResumeAct db db' p calls p'
  /-- The open entries are listed. -/
  | entries {p p' : Proc} (same : db' = db)
      (listed : p'.listed? = some (!db.unresolvedEntries.isEmpty, db.halts))
      (cancels : p'.cancelsListed = false) : ResumeAct db db' p [] p'
  /-- The cancellations are being recovered. -/
  | recovery {p p' : Proc} {calls : List Mark} (listed : p'.listed? = p.listed?)
      (cancels : p'.cancelsListed = false)
      (flag : db'.halted = true ∨ db'.tradingHalted = db.tradingHalted)
      (silent : cleared calls = []) : ResumeAct db db' p calls p'
  /-- The open cancellations are listed, and there are none. -/
  | cancels (listed : ℕ) (same : db' = db)
      (empty : db.unresolvedCancels.isEmpty = true) :
      ResumeAct db db' (.resumeCancels false listed) [] (.resumeLegacy listed)
  | legacy (listed : ℕ) (same : db' = db) :
      ResumeAct db db' (.resumeLegacy listed) [] (.resumeBlockers listed)
  | checked (listed : ℕ) (same : db' = db) :
      ResumeAct db db' (.resumeBlockers listed) [] (.resumeClear listed db.halts)
  | clear (listed checked : ℕ) (write : db' = db.setTradingHalted "false") :
      ResumeAct db db' (.resumeClear listed checked) [.cleared checked db.halts]
        .resumeReason

section

variable {env : Env} {t : List Mark} {db db' : Db} {p p' : Proc} {op : Op}
  {calls : List Mark}

theorem HaltEffect.flag (h : HaltEffect db db' op) (ho : op ≠ .setTradingHalted) :
    db'.halted = true ∨ db'.tradingHalted = db.tradingHalted := by
  cases h with
  | same hf hh => exact Or.inr hf
  | raised hf hh => exact Or.inl hf
  | written value hw => exact absurd rfl ho

theorem Op.standalone_ne_halted (h : op.standalone = true) : op ≠ .setTradingHalted := by
  rintro rfl
  cases h

/-- **Every action is one of these.** -/
theorem Act.resumeAct (h : Act env t db p op calls db' p') :
    ResumeAct db db' p calls p' := by
  have ho := h.outcome.haltEffect
  cases h with
  | standalone hop h => exact .aside rfl (ho.flag (Op.standalone_ne_halted hop)) rfl
  | panic => exact .aside rfl (Or.inl (by simp [Db.halted, Db.setTradingHalted])) rfl
  | recovered =>
    rename_i after
    cases after <;> exact .aside rfl (Or.inr rfl) rfl
  | @recoveredCancels after | @nextCancel _ _ after | @readFailed _ _ _ _ after =>
    cases after with
    | finish => exact .aside rfl (Or.inr rfl) rfl
    | resume b n => exact .recovery rfl rfl (Or.inr rfl) rfl
  | @readGroup _ _ _ _ _ after =>
    cases after with
    | finish => exact .aside rfl (ho.flag (by decide)) rfl
    | resume b n => exact .recovery rfl rfl (ho.flag (by decide)) rfl
  | @resolveCancel _ _ _ _ _ _ _ after =>
    cases after with
    | finish => split <;> exact .aside rfl (ho.flag (by decide)) rfl
    | resume b n => split <;> exact .recovery rfl rfl (ho.flag (by decide)) rfl
  | resumeEntries => exact .entries rfl rfl rfl
  | @resumeCancels blocked listed =>
    split
    · exact .aside rfl (Or.inr rfl) rfl
    · rename_i hb
      simp only [Bool.or_eq_true, Bool.not_eq_true', not_or, Bool.not_eq_true,
        Bool.not_eq_false] at hb
      obtain ⟨rfl, hc⟩ := hb
      exact .cancels listed rfl hc
  | resumeLegacy =>
    split
    · exact .legacy _ rfl
    · exact .aside rfl (Or.inr rfl) rfl
  | resumeUnblocked => exact .checked _ rfl
  | resumeClear => exact .clear _ _ rfl
  | saveExit => split <;> exact .aside rfl (ho.flag (by decide)) rfl
  | _ => exact .aside rfl (ho.flag (by decide)) rfl

end

/-! ## Undisturbed resumes -/

/-- **The condition a resume does not check**: it clears the flag only when
no halt was persisted since it listed the open entries. -/
def Undisturbed (db : Db) (p : Proc) (_ : Db) (_ : Proc) : Prop :=
  ∀ listed checked, p = .resumeClear listed checked → db.halts = listed

/-- **The invariant of the halt flag**, in the runs with undisturbed resumes:
an unknown outcome is halted, and a resume that saw no open outcome knows that
there is none unless another halt was persisted. -/
def halting : Program.Assertion Db Proc Mark where
  store db t := (db.UnknownEntry ∨ db.UnknownCancel → db.halted = true)
    ∧ ∀ a b, (a, b) ∈ cleared t → a = b
  here db _ p :=
    (∀ b n, p.listed? = some (b, n) →
      n ≤ db.halts ∧ (b = false → db.halts = n → ¬ db.UnknownEntry))
      ∧ (p.cancelsListed = true → ∀ b n, p.listed? = some (b, n) →
        db.halts = n → ¬ db.UnknownCancel)
      ∧ ∀ n c, p = .resumeClear n c → n ≤ c ∧ c ≤ db.halts

section

variable {env : Env} {t : List Mark} {db db' : Db} {p p' : Proc} {op : Op}
  {calls : List Mark}

/-- Outside a resume's checks nothing is relied on. -/
theorem halting_here_of_none (h : p.listed? = none) : halting.here db t p := by
  refine ⟨fun b n hl => ?_, fun _ b n hl => ?_, fun n c hc => ?_⟩
  · rw [h] at hl
    cases hl
  · rw [h] at hl
    cases hl
  · rw [hc] at h
    cases h

/-- **What a resume knows survives every action**: an outcome turns unknown
only with a halt, and then the resume is disturbed. -/
theorem Outcome.halting_stable (h : Outcome env db db' op) {q : Proc} {u : List Mark}
    (hq : halting.here db t q) : halting.here db' u q := by
  have hle := h.haltEffect.halts_le
  have hback : ∀ n, n ≤ db.halts → db'.halts = n → db.halts = n := fun n hn hn' =>
    le_antisymm (hn' ▸ hle) hn
  refine ⟨fun b n hl => ?_, fun hc b n hl hn' hu => ?_, fun n c hqc => ?_⟩
  · obtain ⟨hn, he⟩ := hq.1 b n hl
    refine ⟨hn.trans hle, fun hb hn' hu => ?_⟩
    rcases h.entryEffect.unknown hu with hu | ⟨-, hlt⟩
    · exact he hb (hback n hn hn') hu
    · omega
  · obtain ⟨hn, -⟩ := hq.1 b n hl
    rcases h.cancelEffect.unknown hu with hu | ⟨-, hlt⟩
    · exact hq.2.1 hc b n hl (hback n hn hn') hu
    · omega
  · exact ⟨(hq.2.2 n c hqc).1, (hq.2.2 n c hqc).2.trans hle⟩

/-- **What the acting process knows after its action.** -/
theorem ResumeAct.here (h : ResumeAct db db' p calls p') {u : List Mark}
    (hp : halting.here db' u p) : halting.here db' u p' := by
  cases h with
  | aside listed flag silent => exact halting_here_of_none listed
  | entries same listed cancels =>
    subst same
    refine ⟨fun b n hl => ?_, fun hc => ?_, fun n c hc => ?_⟩
    · rw [listed] at hl
      cases hl
      refine ⟨le_rfl, fun hb _ hu => ?_⟩
      rw [Db.unknownEntry_unresolved hu] at hb
      cases hb
    · rw [cancels] at hc
      cases hc
    · rw [hc] at cancels
      cases cancels
  | recovery listed cancels flag silent =>
    refine ⟨fun b n hl => hp.1 b n (listed ▸ hl), fun hc => ?_, fun n c hc => ?_⟩
    · rw [cancels] at hc
      cases hc
    · rw [hc] at cancels
      cases cancels
  | cancels n same empty =>
    subst same
    refine ⟨fun b m hl => hp.1 b m hl, fun _ b m hl _ hu => ?_, fun _ _ hc => by cases hc⟩
    rw [Db.unknownCancel_unresolved hu] at empty
    cases empty
  | legacy n same =>
    exact ⟨hp.1, fun _ => hp.2.1 rfl, fun _ _ hc => by cases hc⟩
  | checked n same =>
    subst same
    refine ⟨hp.1, fun _ => hp.2.1 rfl, fun m c hc => ?_⟩
    cases hc
    exact ⟨(hp.1 false n rfl).1, le_rfl⟩
  | clear listed checked write => exact halting_here_of_none rfl

/-- **Every action that does not disturb a resume keeps the invariant.** -/
theorem halting_kept (h : Act env t db p op calls db' p') (hC : Undisturbed db p db' p')
    (hs : halting.store db t) (hp : halting.here db t p) :
    halting.Kept db t p (calls ++ leaves op db db') db' p' := by
  have ho := h.outcome
  have hr := h.resumeAct
  refine ⟨⟨fun hu => ?_, fun a b hab => ?_⟩, hr.here (ho.halting_stable hp),
    fun q hq _ _ => ⟨ho.halting_stable hq, trivial, trivial⟩⟩
  · -- an outcome that is unknown now was before, or has just halted
    have hcases : (db.UnknownEntry ∨ db.UnknownCancel) ∨ db'.halted = true := by
      rcases hu with hu | hu
      · rcases ho.entryEffect.unknown hu with hu | ⟨hh, -⟩
        · exact Or.inl (Or.inl hu)
        · exact Or.inr hh
      · rcases ho.cancelEffect.unknown hu with hu | ⟨hh, -⟩
        · exact Or.inl (Or.inr hu)
        · exact Or.inr hh
    rcases hcases with hu₀ | hh
    · have hkeep : db'.halted = true ∨ db'.tradingHalted = db.tradingHalted →
          db'.halted = true := by
        rintro (hh | hf)
        · exact hh
        · unfold Db.halted
          rw [hf]
          exact hs.1 hu₀
      cases hr with
      | aside listed flag silent => exact hkeep flag
      | entries same listed cancels => exact hkeep (Or.inr (by rw [same]))
      | recovery listed cancels flag silent => exact hkeep flag
      | cancels n same empty => exact hkeep (Or.inr (by rw [same]))
      | legacy n same => exact hkeep (Or.inr (by rw [same]))
      | checked n same => exact hkeep (Or.inr (by rw [same]))
      | clear listed checked write =>
        -- the undisturbed resume knows that there is none
        have hn := hC listed checked rfl
        rcases hu₀ with hu₀ | hu₀
        · exact absurd hu₀ ((hp.1 false listed rfl).2 rfl hn)
        · exact absurd hu₀ (hp.2.1 rfl false listed rfl hn)
    · exact hh
  · rw [cleared_append, cleared_append, cleared_leaves, List.append_nil,
      List.mem_append] at hab
    rcases hab with hab | hab
    · exact hs.2 a b hab
    · cases hr with
      | aside listed flag silent => rw [silent] at hab; cases hab
      | recovery listed cancels flag silent => rw [silent] at hab; cases hab
      | clear listed checked write =>
        have hn := hC listed checked rfl
        obtain ⟨hlc, hch⟩ := hp.2.2 listed checked rfl
        obtain ⟨rfl, rfl⟩ : a = checked ∧ b = db.halts := by
          simpa [cleared] using hab
        omega
      | _ => cases hab

end

/-- **A halt is not lost by an undisturbed resume.** In every run whose
resumes clear the flag only when no halt was persisted since they listed the
open entries: an entry or a cancellation with an unknown outcome is halted in
every state, and every halt that was cleared had been persisted before the
checks of the resume that cleared it ended. -/
theorem halt_kept_of_undisturbed (env : Env) {w : World Db Proc Mark}
    (h : ((trader env).restrict Undisturbed).Reachable w) :
    ((∃ e ∈ w.store.entries, e.status = .unknown)
        ∨ (∃ c ∈ w.store.cancels, c.status = .unknown) → w.store.halted = true)
      ∧ ∀ checked halts, (checked, halts) ∈ cleared w.trace → checked = halts := by
  have hA : halting.Holds w := by
    refine Program.holds halting ?_ (fun d t _ => ?_) (fun q => ⟨trivial, trivial⟩) ?_ h
    · refine ⟨?_, fun a b hab => by cases hab⟩
      rintro (⟨e, he, -⟩ | ⟨c, hc, -⟩)
      · cases he
      · cases hc
    · exact halting_here_of_none rfl
    · rintro w i marks d p - hA ⟨⟨op, calls, ha, rfl⟩, hC⟩
      exact halting_kept ha hC hA.store (hA.here i)
  exact hA.store

/-! ### A halt lost

A resume runs to its last check over a scope in which nothing is open, and
stops there while another process submits an entry. -/

section

variable {env : Env} {C : Db → Proc → Db → Proc → Prop}
  (hC : ∀ db p db' p', (∀ n c, p ≠ .resumeClear n c) → C db p db' p')

include hC

/-- Over a scope with nothing open a resume passes its checks. -/
theorem resume_passes {w : World Db Proc Mark} {i : ℕ}
    (h : ((trader env).restrict C).Reachable w) (hp : w.procs i = .idle)
    (he : w.store.unresolvedEntries = []) (hc : w.store.unresolvedCancels = [])
    (hl : w.store.legacyClaims = []) :
    ∃ w', ((trader env).restrict C).Reachable w' ∧ w'.store = w.store
      ∧ w'.procs i = .resumeClear w.store.halts w.store.halts
      ∧ (∀ j, j ≠ i → w'.procs j = w.procs j) ∧ cleared w'.trace = cleared w.trace := by
  -- one check after another, each without a write
  have hstep : ∀ {v : World Db Proc Mark} {p p' : Proc} {op : Op},
      ((trader env).restrict C).Reachable v → v.store = w.store →
      (∀ j, j ≠ i → v.procs j = w.procs j) → cleared v.trace = cleared w.trace →
      v.procs i = p → (∀ n c, p ≠ .resumeClear n c) →
      (∀ t, Act env t w.store p op [] w.store p') →
      ∃ v', ((trader env).restrict C).Reachable v' ∧ v'.store = w.store
        ∧ (∀ j, j ≠ i → v'.procs j = w.procs j) ∧ cleared v'.trace = cleared w.trace
        ∧ v'.procs i = p' := by
    rintro ⟨store, procs, trace⟩ p p' op hv rfl ho ht hvp hn ha
    refine ⟨_, Act.reachable hv hvp (hC _ _ _ _ hn) (ha trace), rfl, fun j hj => ?_, ?_,
      World.acted_procs_self _ i _ _ _⟩
    · rw [World.acted_procs_ne _ _ _ _ hj]
      exact ho j hj
    · simpa [World.acted] using ht
  obtain ⟨v₁, h₁, s₁, o₁, t₁, p₁⟩ := hstep h rfl (fun _ _ => rfl) rfl hp
    (by intro n c h; cases h) (fun t => .recover .resume)
  rw [he] at p₁
  obtain ⟨v₂, h₂, s₂, o₂, t₂, p₂⟩ := hstep h₁ s₁ o₁ t₁ p₁
    (by intro n c h; cases h) (fun t => .recovered)
  obtain ⟨v₃, h₃, s₃, o₃, t₃, p₃⟩ := hstep h₂ s₂ o₂ t₂ p₂
    (by intro n c h; cases h) (fun t => .resumeEntries)
  rw [he, hc] at p₃
  obtain ⟨v₄, h₄, s₄, o₄, t₄, p₄⟩ := hstep h₃ s₃ o₃ t₃ p₃
    (by intro n c h; cases h) (fun t => .recoveredCancels)
  obtain ⟨v₅, h₅, s₅, o₅, t₅, p₅⟩ := hstep h₄ s₄ o₄ t₄ p₄
    (by intro n c h; cases h) (fun t => .resumeCancels)
  rw [hc] at p₅
  obtain ⟨v₆, h₆, s₆, o₆, t₆, p₆⟩ := hstep h₅ s₅ o₅ t₅ p₅
    (by intro n c h; cases h) (fun t => .resumeLegacy)
  rw [hl] at p₆
  obtain ⟨v₇, h₇, s₇, o₇, t₇, p₇⟩ := hstep h₆ s₆ o₆ t₆ p₆
    (by intro n c h; cases h) (fun t => .resumeUnblocked)
  exact ⟨v₇, h₇, s₇, p₇, o₇, t₇⟩

end

/-- The submission's outcome is uncertain. -/
def sampleUnknown : Db :=
  ((sampleClaimed.markSubmitting sampleItem).resolveEntry sampleEnv.cfg 4 sampleItem
    (entryReply (.error "TimeoutError")) false).1

theorem sampleUnknown_unknown :
    (∃ e ∈ sampleUnknown.entries, e.status = .unknown) ∧ sampleUnknown.halted = true
      ∧ sampleUnknown.halts = 1 := by
  have hu : (sampleUnknown.entries.any (fun e => e.status == .unknown)) = true := by
    decide +kernel
  obtain ⟨e, he, hs⟩ := List.any_eq_true.mp hu
  exact ⟨⟨e, he, by simpa using hs⟩, by decide +kernel, by decide +kernel⟩

theorem halt_kept_of_undisturbed_sample :
    ∃ w, ((trader sampleEnv).restrict Undisturbed).Reachable w
      ∧ (∃ e ∈ w.store.entries, e.status = .unknown) ∧ w.store.halted = true := by
  have hC : ∀ (db : Db) (p : Proc) (db' : Db) (p' : Proc),
      (∀ n c, p ≠ .resumeClear n c) → Undisturbed db p db' p' :=
    fun _ _ _ _ hn n c hp => absurd hp (hn n c)
  obtain ⟨⟨store, procs, trace⟩, hw, rfl, hp, -, -⟩ := sampleQueued_reachable hC
  obtain ⟨⟨store, procs, trace⟩, hw, rfl, hp, -⟩ :=
    sampleSubmitted_reachable hC hw (hp 0)
  have hr := Act.reachable hw hp (hC _ _ _ _ (by intro n c h; cases h))
    (.resolve (.error "TimeoutError") 4)
  have hu := sampleUnknown_unknown.1
  exact ⟨_, hr, hu, (halt_kept_of_undisturbed sampleEnv hr).1 (Or.inl hu)⟩

/-- **A halt can be lost.** A resume passes its checks; an entry is submitted,
its outcome is uncertain and the halt is persisted; the resume clears it. The
entry is unknown and trading is not halted. -/
theorem halt_lost :
    ∃ w, (trader sampleEnv).Reachable w
      ∧ (∃ e ∈ w.store.entries, e.status = .unknown) ∧ w.store.halted = false
      ∧ ∃ checked halts, (checked, halts) ∈ cleared w.trace ∧ checked < halts := by
  have hC : ∀ (db : Db) (p : Proc) (db' : Db) (p' : Proc),
      (∀ n c, p ≠ .resumeClear n c) → True := fun _ _ _ _ _ => trivial
  obtain ⟨⟨store, procs, trace⟩, hw, rfl, hp, -, -⟩ := sampleQueued_reachable hC
  obtain ⟨⟨store, procs', trace'⟩, hw, rfl, h₁, ho, -⟩ := resume_passes hC hw (hp 1)
    (by simp [Db.unresolvedEntries, show sampleQueued.entries.filter
      (fun e => e.status.unresolved) = [] from by decide +kernel])
    (by simp [Db.unresolvedCancels, show sampleQueued.cancels = [] from rfl])
    (show sampleQueued.legacyClaims = [] by decide +kernel)
  obtain ⟨⟨store, procs'', trace''⟩, hw, rfl, hp'', ho'', -, hcl⟩ :=
    sampleSubmitted_reachable hC hw ((ho 0 (by decide)).trans (hp 0))
  have h₂ := Act.reachable hw hp'' trivial (.resolve (.error "TimeoutError") 4)
  have hp₁ : procs'' 1 = .resumeClear 0 0 := (ho'' 1 (by decide)).trans h₁
  have h₃ := Act.reachable (i := 1) h₂
    (by rw [World.acted_procs_ne _ _ _ _ (by decide)]; exact hp₁) trivial .resumeClear
  refine ⟨_, h₃.of_restrict, sampleUnknown_unknown.1, ?_, 0, 1, ?_, by decide⟩
  · show (sampleUnknown.setTradingHalted "false").halted = false
    simp [Db.halted, Db.setTradingHalted]
  · simp only [World.acted, cleared_append, cleared_leaves, List.append_nil]
    refine List.mem_append_right _ ?_
    have hh : ((sampleClaimed.markSubmitting sampleItem).resolveEntry sampleEnv.cfg 4
        sampleItem (entryReply (.error "TimeoutError")) false).1.halts = 1 :=
      sampleUnknown_unknown.2.2
    rw [hh]
    simp [cleared]

end AgenticTrader
