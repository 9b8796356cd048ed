import AgenticTrader.EntrySubmission
import AgenticTrader.SignalLifecycle

/-!
# Closing and entering exclude each other

A close may not run beside an entry on the same symbol, nor beside another
close. Both sides check: a close is claimed only when no signal on the symbol
is `SUBMITTING` and no request on it is active, and an entry is queued only
when no request on its symbol is active. The entry's check is on the symbol of
its request and what it reserves is the contract of a signal; they agree
because the request was built from that signal, whose contract never changes.
-/

namespace AgenticTrader

open Table

/-! ## The rows -/

/-- What a close request can become: a terminal one is final. -/
structure CloseStep (c c' : CloseRequest) : Prop where
  id : c'.id = c.id
  symbol : c'.symbol = c.symbol
  terminal : c.status.active = false → c' = c

theorem CloseStep.refl (c : CloseRequest) : CloseStep c c :=
  ⟨rfl, rfl, fun _ => rfl⟩

theorem CloseStep.trans {a b c : CloseRequest} (hab : CloseStep a b) (hbc : CloseStep b c) :
    CloseStep a c := by
  refine ⟨hbc.id.trans hab.id, hbc.symbol.trans hab.symbol, fun hf => ?_⟩
  have heq := hab.terminal hf
  rw [hbc.terminal (by rw [heq]; exact hf), heq]

/-- Only an active request becomes, or stays, an active one. -/
theorem CloseStep.active {c c' : CloseRequest} (h : CloseStep c c')
    (ha : c'.status.active = true) : c.status.active = true := by
  by_contra hne
  have hf : c.status.active = false := by simpa using hne
  rw [h.terminal hf, hf] at ha
  cases ha

section

variable {env : Env} {t : List Mark} {db db' : Db} {p p' : Proc} {op : Op}
  {calls : List Mark}

/-- **What a transaction does to the close requests.** -/
theorem CloseEffect.rows (h : CloseEffect db db') :
    ∃ g new, db'.closeRequests = db.closeRequests.map g ++ new
      ∧ (∀ c ∈ db.closeRequests, CloseStep c (g c))
      ∧ (new = [] ∨ ∃ record, new = [record] ∧ db.close? record.id = none
          ∧ (∀ c ∈ db.closeRequests, c.symbol = record.symbol → c.status.active = false)
          ∧ db.submittingOn record.symbol = false ∧ db'.signals = db.signals) := by
  cases h with
  | same he => exact ⟨id, [], by simpa using he, fun c _ => CloseStep.refl c, Or.inl rfl⟩
  | claimed record fresh status free entry he hs =>
    exact ⟨id, [record], by simpa using he, fun c _ => CloseStep.refl c,
      Or.inr ⟨record, rfl, fresh, free, entry, hs⟩⟩
  | updated id status detail brokerOrderId he hs =>
    refine ⟨_, [], by simpa [updateWhere] using he, fun c _ => ?_, Or.inl rfl⟩
    split
    · rename_i hp
      refine ⟨rfl, rfl, fun hf => ?_⟩
      rw [hp.2] at hf
      cases hf
    · exact CloseStep.refl c

/-- The requests after a transaction: those there were, and at most one new one
on a symbol that nothing holds. -/
theorem CloseEffect.mem_cases (h : CloseEffect db db') :
    ∃ record : Option CloseRequest,
      (∀ c' ∈ db'.closeRequests,
          (∃ c ∈ db.closeRequests, CloseStep c c') ∨ record = some c')
        ∧ ∀ r, record = some r →
          (∀ c ∈ db.closeRequests, c.symbol = r.symbol → c.status.active = false)
            ∧ db.submittingOn r.symbol = false ∧ db'.signals = db.signals := by
  obtain ⟨g, new, he, hg, hnew⟩ := h.rows
  have hold : ∀ c' ∈ db.closeRequests.map g, ∃ c ∈ db.closeRequests, CloseStep c c' := by
    intro c' hm
    obtain ⟨c, hc, rfl⟩ := List.mem_map.mp hm
    exact ⟨c, hc, hg c hc⟩
  rw [he]
  rcases hnew with rfl | ⟨record, rfl, -, hfree, hentry, hs⟩
  · refine ⟨none, fun c' hm => Or.inl (hold c' (by simpa using hm)), fun r hr => by cases hr⟩
  · refine ⟨some record, fun c' hm => ?_, fun r hr => ?_⟩
    · rcases List.mem_append.mp hm with hm | hm
      · exact Or.inl (hold c' hm)
      · exact Or.inr (by rw [List.mem_singleton.mp hm])
    · cases hr
      exact ⟨hfree, hentry, hs⟩

/-- A request is still there after a transaction. -/
theorem CloseEffect.exists_step (h : CloseEffect db db') {c : CloseRequest}
    (hm : c ∈ db.closeRequests) : ∃ c' ∈ db'.closeRequests, CloseStep c c' := by
  obtain ⟨g, new, he, hg, -⟩ := h.rows
  exact ⟨g c, by rw [he]; exact List.mem_append_left _ (List.mem_map_of_mem hm), hg c hm⟩

/-- **The invariant of the close requests**: told apart by id, and one active
request a symbol, without a `SUBMITTING` signal beside it. -/
structure CloseInv (db : Db) : Prop where
  ids : (db.closeRequests.map (·.id)).Nodup
  single : ∀ c ∈ db.closeRequests, ∀ d ∈ db.closeRequests, c.symbol = d.symbol →
    c.status.active = true → d.status.active = true → c = d
  excluded : ∀ c ∈ db.closeRequests, c.status.active = true →
    ∀ s ∈ db.signals, s.contract = c.symbol → s.status ≠ .submitting

theorem CloseEffect.ids (h : CloseEffect db db')
    (hn : (db.closeRequests.map (·.id)).Nodup) : (db'.closeRequests.map (·.id)).Nodup := by
  obtain ⟨g, new, he, hg, hnew⟩ := h.rows
  have hmap : (db.closeRequests.map g).map (·.id) = db.closeRequests.map (·.id) := by
    rw [List.map_map]
    exact List.map_congr_left (fun c hc => (hg c hc).id)
  rw [he]
  rcases hnew with rfl | ⟨record, rfl, hfresh, -⟩
  · rw [List.append_nil, hmap]
    exact hn
  · refine nodup_map_append_singleton (by rw [hmap]; exact hn) (fun c' hm => ?_)
    obtain ⟨c, hc, rfl⟩ := List.mem_map.mp hm
    rw [(hg c hc).id]
    simpa using List.find?_eq_none.mp hfresh c hc

theorem CloseEffect.single (h : CloseEffect db db') (hc : CloseInv db) :
    ∀ c ∈ db'.closeRequests, ∀ d ∈ db'.closeRequests, c.symbol = d.symbol →
      c.status.active = true → d.status.active = true → c = d := by
  have hids := h.ids hc.ids
  obtain ⟨record, hmem, hnew⟩ := h.mem_cases
  have hfree : ∀ r c c', record = some r → c ∈ db.closeRequests → CloseStep c c' →
      c'.symbol = r.symbol → c'.status.active = false := by
    intro r c c' hr hc hstep hsym
    by_contra ha
    have hf := (hnew r hr).1 c hc (hstep.symbol.symm.trans hsym)
    rw [hstep.active (by simpa using ha)] at hf
    cases hf
  intro c' hc' d' hd' hsym hca hda
  rcases hmem c' hc' with ⟨c, hcm, hcs⟩ | hcr <;> rcases hmem d' hd' with ⟨d, hdm, hds⟩ | hdr
  · have heq : c = d := hc.single c hcm d hdm
      (hcs.symbol.symm.trans (hsym.trans hds.symbol)) (hcs.active hca) (hds.active hda)
    refine eq_of_key hids hc' hd' ?_
    rw [hcs.id, hds.id, heq]
  · rw [hfree d' c c' hdr hcm hcs hsym] at hca
    cases hca
  · rw [hfree c' d d' hcr hdm hds hsym.symm] at hda
    cases hda
  · exact Option.some.inj (hcr.symm.trans hdr)

/-! ## Entering beside a close -/

/-- **A `SUBMITTING` signal after an action** was so before it, or is the one
the request in hand was built from, on a symbol without an active close. -/
theorem Act.submitting_cases (h : Act env t db p op calls db' p') (hk : SignalKeys db)
    {s' : Signal} (hs' : s' ∈ db'.signals) (hst : s'.status = .submitting) :
    (∃ s ∈ db.signals, s.contract = s'.contract ∧ s.status = .submitting)
      ∨ ∃ request trigger, p = .tapped request trigger ∧ s'.id = request.signalId
        ∧ db.closing request.symbol = false := by
  by_cases hop : op = .enqueueEntry
  · subst hop
    cases h with
    | standalone hop => cases hop
    | tap => exact Or.inl ⟨s', hs', rfl, hst⟩
    | @enqueue request trigger ev now =>
      rcases Db.enqueueEntry_cases db env.cfg ev now request trigger with he | ⟨hr, he⟩
      · rw [he] at hs'
        exact Or.inl ⟨s', hs', rfl, hst⟩
      · rw [he] at hs'
        change s' ∈ updateWhere (fun s => s.id == request.signalId)
          (Db.reserve env.cfg request) db.signals at hs'
        obtain ⟨s, hs, rfl⟩ := mem_updateWhere.mp hs'
        split at hst <;> rename_i hid
        · refine Or.inr ⟨request, trigger, rfl, ?_, (Db.enqueueRefusal_eq_none hr).2.2.2.1⟩
          rw [if_pos hid]
          exact beq_iff_eq.mp hid
        · rw [if_neg hid]
          exact Or.inl ⟨s, hs, rfl, hst⟩
  · rcases (h.signalEffect hk.nodup).mem_cases hs' with ⟨s, hs, hstep⟩ | ⟨-, hp⟩
    · refine Or.inl ⟨s, hs, hstep.contract.symm, ?_⟩
      have hmove := hstep.move
      rw [hst] at hmove
      generalize s.status = a at hmove
      cases hmove with
      | stay => rfl
      | enqueue => exact absurd rfl hop
      | close hb => cases hb
    · rw [hst] at hp
      cases hp

/-! ## The processes -/

/-- **What an action means for the closes in hand.** -/
inductive CloseAct (db db' : Db) : Proc → List Mark → Proc → Prop where
  | aside {p p' : Proc} {calls : List Mark} (silent : closesSent calls = [])
      (claimed : ∀ record, p' ≠ .closeClaimed record) : CloseAct db db' p calls p'
  /-- A process has claimed a close under a new id. -/
  | claimed {p : Proc} (record : CloseRequest) (fresh : db.close? record.id = none)
      (closeRequests : db'.closeRequests = db.closeRequests ++ [record]) :
      CloseAct db db' p [] (.closeClaimed record)
  /-- The claimant submits it. -/
  | sent (record : CloseRequest) (same : db' = db) :
      CloseAct db db' (.closeClaimed record) [.submitPositionClose record.id]
        (.closeSubmitted record)

/-- **Every action is one of these.** -/
theorem Act.closeAct (h : Act env t db p op calls db' p') :
    CloseAct db db' p calls p' := by
  cases h with
  | closeClaim now values h =>
    rcases Db.claimCloseRequest_cases h with ⟨-, hf⟩ | ⟨-, rfl, hnew, -, -, -, hl⟩
    · cases hf
    · exact .claimed _ hnew hl.closeRequests
  | closeSend => exact .sent _ rfl
  | @recovered after | @recoveredCancels after =>
    cases after <;> exact .aside rfl (fun _ h => by cases h)
  | resumeCancels | resumeLegacy | saveExit | resolveCancel =>
    split <;> exact .aside rfl (fun _ h => by cases h)
  | _ => exact .aside rfl (fun _ h => by cases h)

/-- A request in hand is built from the signal it enters. -/
theorem Act.tapped_cases (h : Act env t db p op calls db' p') {request : OrderRequest}
    {trigger : EntryTrigger} (hp : p' = .tapped request trigger) :
    db' = db ∧ ∃ s ∈ db.signals, s.id = request.signalId ∧ s.contract = request.symbol := by
  cases h with
  | tap s quantity trigger hs =>
    cases hp
    exact ⟨rfl, s, (Db.signal?_eq_some hs).1, rfl, rfl⟩
  | @recovered after | @recoveredCancels after => cases after <;> cases hp
  | resumeCancels | resumeLegacy | saveExit | resolveCancel =>
    split at hp <;> cases hp
  | _ => cases hp

/-- The signal a request was built from. -/
def BuiltFrom (db : Db) (request : OrderRequest) : Prop :=
  ∃ s ∈ db.signals, s.id = request.signalId ∧ s.contract = request.symbol

/-- **The invariant of closing**: the rows, one submission a close, by the
process whose claim it is, and every request in hand built from its signal. -/
def closing : Program.Assertion Db Proc Mark where
  store db t := CloseInv db ∧ (closesSent t).Nodup
    ∧ ∀ id ∈ closesSent t, ∃ c ∈ db.closeRequests, c.id = id
  here db t p := (∀ record, p = .closeClaimed record → record.id ∉ closesSent t
      ∧ ∃ c ∈ db.closeRequests, c.id = record.id)
    ∧ ∀ request trigger, p = .tapped request trigger → BuiltFrom db request
  apart p q := ∀ x y, p = .closeClaimed x → q = .closeClaimed y → x.id ≠ y.id

/-- **Every action keeps the invariant of the rows.** -/
theorem CloseInv.kept (hc : CloseInv db) (h : Act env t db p op calls db' p')
    (hk : SignalKeys db)
    (hp : ∀ request trigger, p = .tapped request trigger → BuiltFrom db request) :
    CloseInv db' where
  ids := h.outcome.closeEffect.ids hc.ids
  single := h.outcome.closeEffect.single hc
  excluded := by
    obtain ⟨record, hmem, hnew⟩ := h.outcome.closeEffect.mem_cases
    intro c' hc' hactive s' hs' hcontract hst
    rcases hmem c' hc' with ⟨c, hcm, hstep⟩ | hr
    · have hca := hstep.active hactive
      rcases h.submitting_cases hk hs' hst with
        ⟨s, hs, hsc, hsub⟩ | ⟨request, trigger, hpt, hid, hfree⟩
      · exact hc.excluded c hcm hca s hs
          (hsc.trans (hcontract.trans hstep.symbol)) hsub
      · -- the symbol the entry checked is the contract it reserves
        obtain ⟨s, hs, hsid, hsc⟩ := hp request trigger hpt
        have hstep' := (h.signalEffect hk.nodup).step_of_id hk hs hs' (hid.trans hsid.symm)
        have hsym : c.symbol = request.symbol := by
          rw [← hstep.symbol, ← hcontract, hstep'.contract, hsc]
        have hclosing : db.closing request.symbol = true :=
          List.any_eq_true.mpr ⟨c, hcm, by simp [hsym, hca]⟩
        rw [hclosing] at hfree
        cases hfree
    · obtain ⟨-, hentry, hsig⟩ := hnew c' hr
      rw [hsig] at hs'
      have hany : db.submittingOn c'.symbol = true :=
        List.any_eq_true.mpr ⟨s', hs', by simp [hcontract, hst]⟩
      rw [hany] at hentry
      cases hentry

/-- **Every action keeps the invariant of closing.** -/
theorem closing_kept (h : Act env t db p op calls db' p') (hk : SignalKeys db)
    (hs : closing.store db t) (hp : closing.here db t p) :
    closing.Kept db t p (calls ++ leaves op db db') db' p' := by
  have he := h.outcome.closeEffect
  have hsig := h.signalEffect hk.nodup
  obtain ⟨hc, hn, hd⟩ := hs
  have hsent : closesSent (t ++ (calls ++ leaves op db db'))
      = closesSent t ++ closesSent calls := by simp
  have hkeep : ∀ id, (∃ c ∈ db.closeRequests, c.id = id) →
      ∃ c ∈ db'.closeRequests, c.id = id := by
    rintro _ ⟨c, hm, rfl⟩
    obtain ⟨c', hm', hst⟩ := he.exists_step hm
    exact ⟨c', hm', hst.id⟩
  have hbuilt : ∀ request, BuiltFrom db request → BuiltFrom db' request := by
    rintro request ⟨s, hm, hid, hcontract⟩
    obtain ⟨s', hm', hst⟩ := hsig.exists_step hm
    exact ⟨s', hm', hst.id.trans hid, hst.contract.trans hcontract⟩
  have htapped : ∀ request trigger, p' = .tapped request trigger →
      BuiltFrom db' request := by
    intro request trigger hpt
    obtain ⟨rfl, hb⟩ := h.tapped_cases hpt
    exact hb
  have hc' := hc.kept h hk hp.2
  cases h.closeAct with
  | aside hsilent hclaimed =>
    rw [hsilent, List.append_nil] at hsent
    refine ⟨⟨hc', by rw [hsent]; exact hn, ?_⟩,
      ⟨fun record hr => absurd hr (hclaimed record), htapped⟩, fun q hq _ _ => ?_⟩
    · rw [hsent]
      exact fun id hid => hkeep id (hd id hid)
    · refine ⟨⟨fun record hr => ?_, fun request trigger hr =>
        hbuilt request (hq.2 request trigger hr)⟩, fun x y hx => absurd hx (hclaimed x),
        fun x y _ hy => absurd hy (hclaimed y)⟩
      rw [hsent]
      exact ⟨(hq.1 record hr).1, hkeep _ (hq.1 record hr).2⟩
  | claimed record hfresh hrequests =>
    rw [show closesSent ([] : List Mark) = [] from rfl, List.append_nil] at hsent
    have hnone : ∀ c ∈ db.closeRequests, c.id ≠ record.id := fun c hm => by
      simpa using List.find?_eq_none.mp hfresh c hm
    refine ⟨⟨hc', by rw [hsent]; exact hn, ?_⟩, ⟨fun x hx => ?_, htapped⟩,
      fun q hq _ _ => ?_⟩
    · rw [hsent]
      exact fun id hid => hkeep id (hd id hid)
    · cases hx
      rw [hsent, hrequests]
      refine ⟨fun hid => ?_, record,
        List.mem_append_right _ (List.mem_singleton_self _), rfl⟩
      obtain ⟨c, hm, hcid⟩ := hd _ hid
      exact hnone c hm hcid
    · -- any other claimant has a row of its own
      have hother : ∀ y, q = .closeClaimed y → y.id ≠ record.id := by
        intro y hy
        obtain ⟨-, c, hm, hcid⟩ := hq.1 y hy
        rw [← hcid]
        exact hnone c hm
      refine ⟨⟨fun x hx => ?_, fun request trigger hr =>
        hbuilt request (hq.2 request trigger hr)⟩, fun x y hx hy => ?_, fun x y hx hy => ?_⟩
      · rw [hsent]
        exact ⟨(hq.1 x hx).1, hkeep _ (hq.1 x hx).2⟩
      · cases hx
        exact (hother y hy).symm
      · cases hy
        exact hother x hx
  | sent record hsame =>
    subst hsame
    obtain ⟨hunsent, hrow⟩ := hp.1 record rfl
    refine ⟨⟨hc, ?_, ?_⟩, ⟨(fun x hx => by cases hx), htapped⟩, fun q hq hpq _ => ?_⟩
    · rw [hsent]
      refine List.nodup_append.mpr ⟨hn, List.nodup_singleton _, ?_⟩
      rintro a ha _ hb rfl
      obtain rfl := List.mem_singleton.mp hb
      exact hunsent ha
    · intro id hid
      rw [hsent, List.mem_append] at hid
      rcases hid with hid | hid
      · exact hd id hid
      · obtain rfl := List.mem_singleton.mp hid
        exact hrow
    · refine ⟨⟨fun x hx => ⟨?_, (hq.1 x hx).2⟩, hq.2⟩, (fun x y hx => by cases hx),
        (fun x y _ hy => by cases hy)⟩
      rw [hsent, List.mem_append]
      rintro (hid | hid)
      · exact (hq.1 x hx).1 hid
      · exact hpq record x rfl hx (List.mem_singleton.mp hid).symm

end

/-- **The invariant of closing holds in every reachable state.** -/
theorem closing_holds (env : Env) {w : World Db Proc Mark}
    (h : (trader env).Reachable w) : closing.Holds w := by
  refine Program.holds closing ?_ (fun d t _ => ?_) (fun q => ?_) ?_ h
  · refine ⟨⟨List.nodup_nil, ?_, ?_⟩, List.nodup_nil, ?_⟩ <;> intro x hx <;> cases hx
  · exact ⟨(fun _ hi => by cases hi), (fun _ _ hi => by cases hi)⟩
  · exact ⟨(fun _ _ hi => by cases hi), (fun _ _ _ hi => by cases hi)⟩
  · rintro w i marks d p hw hA ⟨op, calls, ha, rfl⟩
    exact closing_kept ha (signalKeys_of_reachable env hw) hA.store (hA.here i)

/-- The close requests of a run: none is lost, and a terminal one is final. -/
theorem closeRequests_run (env : Env) {w w' : World Db Proc Mark}
    (h : (trader env).Reachable w) (hr : (trader env).Run w w') :
    ∀ c ∈ w.store.closeRequests, ∃ c' ∈ w'.store.closeRequests, CloseStep c c' := by
  refine Program.rows_rel CloseStep.refl (fun _ _ _ => CloseStep.trans) ?_ h hr
  rintro w i marks d p - ⟨op, calls, ha, -⟩ c hc
  exact ha.outcome.closeEffect.exists_step hc

/-- **Closing and entering a symbol exclude each other, and a close is
submitted at most once.** In every reachable state: two active close requests
for one symbol are one request; no signal on the symbol of an active close is
`SUBMITTING`; no close was submitted twice; and a completed or failed request
is as it is in every later state. -/
theorem close_excludes_entry (env : Env) {w : World Db Proc Mark}
    (h : (trader env).Reachable w) :
    (∀ c ∈ w.store.closeRequests, ∀ d ∈ w.store.closeRequests, c.symbol = d.symbol →
        c.status.active = true → d.status.active = true → c = d)
      ∧ (∀ c ∈ w.store.closeRequests, c.status.active = true →
          ∀ s ∈ w.store.signals, s.contract = c.symbol → s.status ≠ .submitting)
      ∧ (closesSent w.trace).Nodup
      ∧ ∀ w', (trader env).Run w w' → ∀ c ∈ w.store.closeRequests,
        c.status = .completed ∨ c.status = .failed →
        c ∈ w'.store.closeRequests ∧ ∀ c' ∈ w'.store.closeRequests, c'.id = c.id → c' = c := by
  obtain ⟨hc, hn, -⟩ := (closing_holds env h).store
  refine ⟨hc.single, hc.excluded, hn, fun w' hr c hm hset => ?_⟩
  have hf : c.status.active = false := by rcases hset with h | h <;> rw [h] <;> rfl
  obtain ⟨c₁, hm₁, hs₁⟩ := closeRequests_run env h hr c hm
  rw [hs₁.terminal hf] at hm₁
  exact ⟨hm₁, fun c' hm' hid =>
    eq_of_key (closing_holds env (h.run hr)).store.1.ids hm' hm₁ hid⟩

def sampleClose : CloseValues := ⟨"close-1", "SPY", .long, 10, none⟩

/-- A close is claimed and submitted. -/
theorem close_excludes_entry_sample :
    ∃ w, (trader sampleEnv).Reachable w ∧ closesSent w.trace = ["close-1"]
      ∧ (closesSent w.trace).Nodup
      ∧ sampleClose.record .claimed "" ∈ w.store.closeRequests
      ∧ ∀ s ∈ w.store.signals, s.contract = "SPY" → s.status ≠ .submitting := by
  have h₀ : ((trader sampleEnv).restrict (fun _ _ _ _ => True)).Reachable
      ⟨Db.empty, fun _ => .idle, []⟩ := TransitionSystem.Reachable.of_init rfl
  have h₁ := Act.reachable (i := 0) h₀ rfl trivial (.closeClaim 1 sampleClose rfl)
  have h₂ := Act.reachable h₁ (World.acted_procs_self _ 0 _ _ _) trivial .closeSend
  obtain ⟨-, hexcluded, hsent, -⟩ := close_excludes_entry sampleEnv h₂.of_restrict
  exact ⟨_, h₂.of_restrict, rfl, hsent, List.mem_cons_self,
    hexcluded _ List.mem_cons_self rfl⟩

end AgenticTrader
