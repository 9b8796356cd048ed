import AgenticTrader.Effects

/-!
# The lifecycle of a signal

A dozen transactions write the status of a signal, each with its own
condition. `SignalMove` is the state machine they add up to: which
transaction takes a signal from which status to which. Every transaction
changes the signals by moving each row along it, and only the recording of a
card and the replacement of one add a row, under the next id.
-/

namespace AgenticTrader

open Table

/-- **The moves of a signal**, by the transaction that makes them. -/
inductive SignalMove : Op → SignalStatus → SignalStatus → Prop where
  | stay (op : Op) (a : SignalStatus) : SignalMove op a a
  | dismiss : SignalMove .dismissSignal .pending .dismissed
  | expire : SignalMove .expireSignal .pending .expired
  | replace : SignalMove .replaceSignal .pending .expired
  | sweep : SignalMove .expireStaleSignals .pending .expired
  | enqueue : SignalMove .enqueueEntry .pending .submitting
  | execute : SignalMove .resolveEntry .submitting .executed
  | reject : SignalMove .resolveEntry .submitting .failed
  | cancel : SignalMove .resolveCancel .executed .failed
  | release : SignalMove .observeOrders .executed .failed
  | sync {a : SignalStatus} (h : a = .pending ∨ a = .submitting ∨ a = .executed) :
      SignalMove .updateSignalExecution a .executed
  | close {b : SignalStatus} (h : b.closed = true) :
      SignalMove .closePosition .executed b

/-- Two moves of one transaction are one. -/
theorem SignalMove.trans {op : Op} {a b c : SignalStatus} (hab : SignalMove op a b)
    (hbc : SignalMove op b c) : SignalMove op a c := by
  cases hab with
  | stay => exact hbc
  | close h =>
    cases hbc with
    | stay => exact .close h
    | close h' => exact .close h'
  | sync h => cases hbc <;> exact .sync h
  | _ => cases hbc; constructor

/-- No signal becomes a card again. -/
theorem SignalMove.ne_pending {op : Op} {a b : SignalStatus} (h : SignalMove op a b)
    (ha : a ≠ .pending) : b ≠ .pending := by
  cases h with
  | stay => exact ha
  | close hb =>
    rintro rfl
    cases hb
  | _ => simp

/-- What a row can become in one transaction. -/
structure SignalStep (op : Op) (s s' : Signal) : Prop where
  id : s'.id = s.id
  contract : s'.contract = s.contract
  direction : s'.direction = s.direction
  reprices : s'.reprices = s.reprices
  move : SignalMove op s.status s'.status

theorem SignalStep.refl (op : Op) (s : Signal) : SignalStep op s s :=
  ⟨rfl, rfl, rfl, rfl, .stay op s.status⟩

theorem SignalStep.trans {op : Op} {a b c : Signal} (hab : SignalStep op a b)
    (hbc : SignalStep op b c) : SignalStep op a c :=
  ⟨hbc.id.trans hab.id, hbc.contract.trans hab.contract, hbc.direction.trans hab.direction,
    hbc.reprices.trans hab.reprices, hab.move.trans hbc.move⟩

/-- **Every row took one step, and there are no others.** -/
def SignalRows (op : Op) (rows rows' : List Signal) : Prop :=
  ∃ g : Signal → Signal, rows' = rows.map g ∧ ∀ s ∈ rows, SignalStep op s (g s)

/-- The ids of the signals. -/
abbrev Db.signalIds (db : Db) : List SignalId := db.signals.map (·.id)

section

variable {op : Op} {rows rows' : List Signal}

theorem SignalRows.refl (op : Op) (rows : List Signal) : SignalRows op rows rows :=
  ⟨id, (List.map_id rows).symm, fun s _ => SignalStep.refl op s⟩

theorem SignalRows.trans {a b c : List Signal} (hab : SignalRows op a b)
    (hbc : SignalRows op b c) : SignalRows op a c := by
  obtain ⟨g, rfl, hg⟩ := hab
  obtain ⟨k, rfl, hk⟩ := hbc
  refine ⟨k ∘ g, List.map_map, fun s hs => ?_⟩
  exact (hg s hs).trans (hk (g s) (List.mem_map_of_mem hs))

theorem SignalRows.ids (h : SignalRows op rows rows') :
    rows'.map (·.id) = rows.map (·.id) := by
  obtain ⟨g, rfl, hg⟩ := h
  rw [List.map_map]
  exact List.map_congr_left (fun s hs => (hg s hs).id)

/-- The row of a signal, after. -/
theorem SignalRows.exists_step (h : SignalRows op rows rows') {s : Signal} (hs : s ∈ rows) :
    ∃ s' ∈ rows', SignalStep op s s' := by
  obtain ⟨g, rfl, hg⟩ := h
  exact ⟨g s, List.mem_map_of_mem hs, hg s hs⟩

/-- The row of a signal, before. -/
theorem SignalRows.exists_of_mem (h : SignalRows op rows rows') {s' : Signal}
    (hs : s' ∈ rows') : ∃ s ∈ rows, SignalStep op s s' := by
  obtain ⟨g, rfl, hg⟩ := h
  obtain ⟨s, hm, rfl⟩ := List.mem_map.mp hs
  exact ⟨s, hm, hg s hm⟩

/-- An update moves the rows it picks. -/
theorem SignalRows.of_updateWhere {p : Signal → Bool} {f : Signal → Signal}
    (h : ∀ s ∈ rows, p s = true → SignalStep op s (f s)) :
    SignalRows op rows (updateWhere p f rows) := by
  refine ⟨fun s => if p s then f s else s, rfl, fun s hs => ?_⟩
  dsimp only
  split
  · rename_i hp
    exact h s hs hp
  · exact SignalStep.refl op s

end

/-! ## The transactions -/

namespace Db

variable {db db' : Db} {op : Op}

/-- The signal of an id is a row, under that id. -/
theorem signal?_eq_some {id : SignalId} {s : Signal} (h : db.signal? id = some s) :
    s ∈ db.signals ∧ s.id = id :=
  ⟨List.mem_of_find?_eq_some h, by simpa using List.find?_some h⟩

theorem leavePending_rows (db : Db) (id : SignalId) {status : SignalStatus}
    (h : SignalMove op .pending status) :
    SignalRows op db.signals (db.leavePending id status).1.signals := by
  refine SignalRows.of_updateWhere (fun s _ hp => ⟨rfl, rfl, rfl, rfl, ?_⟩)
  have hs : s.status = .pending := by
    unfold isPendingCard at hp
    simpa using (Bool.and_eq_true_iff.mp hp).2
  rw [hs]
  exact h

theorem expireStaleSignals_rows (db : Db) (cfg : Config) (now clock : Time)
    (configured : String → Bool) :
    SignalRows .expireStaleSignals db.signals
        (db.expireStaleSignals cfg now clock configured).1.signals
      ∧ (db.expireStaleSignals cfg now clock configured).1.signalSeq = db.signalSeq := by
  refine expireStaleSignals_rel (R := fun db db' =>
    SignalRows .expireStaleSignals db.signals db'.signals ∧ db'.signalSeq = db.signalSeq)
    (fun db => ⟨SignalRows.refl _ _, rfl⟩)
    (fun a b c hab hbc => ⟨hab.1.trans hbc.1, hbc.2.trans hab.2⟩)
    (fun db id clock key payload => ⟨?_, ?_⟩) db cfg now clock configured
  · rw [addNotification_signals]
    exact leavePending_rows db id .sweep
  · rw [addNotification_signalSeq]
    rfl

theorem releaseResting_rows (db : Db) (now : Time) (orderId status : String)
    (hn : db.signalIds.Nodup) :
    SignalRows .observeOrders db.signals
        (db.releaseResting now orderId status).signals
      ∧ (db.releaseResting now orderId status).signalSeq = db.signalSeq := by
  unfold releaseResting
  cases hs : db.restingSignal? orderId with
  | none => exact ⟨SignalRows.refl _ _, rfl⟩
  | some signal =>
    dsimp only
    split
    · exact ⟨SignalRows.refl _ _, rfl⟩
    · rw [addNotification_signals, addNotification_signalSeq]
      refine ⟨SignalRows.of_updateWhere (fun s hm hp => ⟨rfl, rfl, rfl, rfl, ?_⟩), rfl⟩
      have hsig := List.find?_some hs
      simp only [Bool.and_eq_true, beq_iff_eq] at hsig
      obtain rfl : s = signal := eq_of_key hn hm (List.mem_of_find?_eq_some hs)
        (by simpa using hp)
      rw [hsig.1.2]
      exact .release

theorem observeOrder_rows {digest : OrderObservation → String} {now : Time}
    {observation : OrderObservation} (h : observeOrder digest now db observation = some db')
    (hn : db.signalIds.Nodup) :
    SignalRows .observeOrders db.signals db'.signals ∧ db'.signalSeq = db.signalSeq := by
  obtain ⟨event, orders, -, -, projected, hp, projection, ended, -, -, rfl⟩ :=
    observeOrder_eq_some h
  have hs : projected.signals = db.signals ∧ projected.signalSeq = db.signalSeq := by
    rw [hp]
    exact ⟨append_signals db _ _ _ _, append_signalSeq db _ _ _ _⟩
  cases ended with
  | false => exact ⟨by rw [← hs.1]; exact SignalRows.refl _ _, hs.2⟩
  | true =>
    have hr := releaseResting_rows projected now observation.orderId
      projection.observation.status (by rw [signalIds, hs.1]; exact hn)
    rw [hs.1, hs.2] at hr
    exact hr

theorem observeOrders_rows {digest : OrderObservation → String} {now : Time}
    {observations : List OrderObservation}
    (h : observeOrders digest now db observations = some db') (hn : db.signalIds.Nodup) :
    SignalRows .observeOrders db.signals db'.signals ∧ db'.signalSeq = db.signalSeq := by
  refine observeOrders_rel (R := fun db db' => db.signalIds.Nodup →
    SignalRows .observeOrders db.signals db'.signals ∧ db'.signalSeq = db.signalSeq)
    (fun db _ => ⟨SignalRows.refl _ _, rfl⟩) (fun a b c hab hbc hn => ?_)
    (fun _ _ _ h => observeOrder_rows h) h hn
  obtain ⟨hr, hs⟩ := hab hn
  have hn' : b.signalIds.Nodup := by rw [signalIds, hr.ids]; exact hn
  exact ⟨hr.trans (hbc hn').1, (hbc hn').2.trans hs⟩

theorem settledSignals_rows (db : Db) (item : EntryItem) (result : OrderResult) :
    SignalRows .resolveEntry db.signals (db.settledSignals item result) := by
  unfold settledSignals
  split
  · exact SignalRows.refl _ _
  · refine SignalRows.of_updateWhere (fun s _ hp => ⟨rfl, rfl, rfl, rfl, ?_⟩)
    have hs : s.status = .submitting := by simpa using (Bool.and_eq_true_iff.mp hp).2
    rw [hs]
    unfold settle
    dsimp only
    split
    · exact .execute
    · exact .reject

theorem cancelledSignals_rows (db : Db) (item : CancelItem) (complete : Bool) :
    SignalRows .resolveCancel db.signals (db.cancelledSignals item complete) := by
  unfold cancelledSignals
  split
  · refine SignalRows.of_updateWhere (fun s _ hp => ⟨rfl, rfl, rfl, rfl, ?_⟩)
    simp only [Bool.and_eq_true, beq_iff_eq] at hp
    rw [hp.1.1.2]
    exact .cancel
  · exact SignalRows.refl _ _

theorem saveExitOrder_rows (db : Db) (record : CloseRequest) (status : CloseRequestStatus)
    (result : OrderResult) :
    SignalRows .saveExitOrder db.signals (db.saveExitOrder record status result).signals
      ∧ (db.saveExitOrder record status result).signalSeq = db.signalSeq := by
  unfold saveExitOrder
  split
  · split
    · exact ⟨SignalRows.refl _ _, rfl⟩
    · split <;> exact ⟨SignalRows.of_updateWhere
        (fun s _ _ => ⟨rfl, rfl, rfl, rfl, .stay _ _⟩), rfl⟩
  · exact ⟨SignalRows.refl _ _, rfl⟩

theorem updateSignalExecution_rows (db : Db) (now : Time) (id : SignalId)
    (u : ExecutionUpdate) :
    SignalRows .updateSignalExecution db.signals
        (db.updateSignalExecution now id u).signals
      ∧ (db.updateSignalExecution now id u).signalSeq = db.signalSeq := by
  have h : SignalRows .updateSignalExecution db.signals
      (updateWhere (syncable id) (syncFill u) db.signals) := by
    refine SignalRows.of_updateWhere (fun s _ hp => ⟨rfl, rfl, rfl, rfl, .sync ?_⟩)
    unfold syncable at hp
    simpa [or_assoc] using (Bool.and_eq_true_iff.mp hp).2
  unfold updateSignalExecution
  dsimp only
  split
  · exact ⟨h, rfl⟩
  · split
    · rw [addNotification_signals, addNotification_signalSeq]
      exact ⟨h, rfl⟩
    · exact ⟨h, rfl⟩

theorem updatePositionStop_rows (db : Db) (now : Time) (id : SignalId) (newStop : ℚ)
    (notify : Bool) :
    SignalRows .updatePositionStop db.signals
        (db.updatePositionStop now id newStop notify).1.signals
      ∧ (db.updatePositionStop now id newStop notify).1.signalSeq = db.signalSeq := by
  have h : SignalRows .updatePositionStop db.signals (updateWhere (tightens id newStop)
      (fun s => { s with stopLoss := newStop }) db.signals) :=
    SignalRows.of_updateWhere (fun s _ _ => ⟨rfl, rfl, rfl, rfl, .stay _ _⟩)
  unfold updatePositionStop
  dsimp only
  split
  · rw [addNotification_signals, addNotification_signalSeq]
    exact ⟨h, rfl⟩
  · exact ⟨h, rfl⟩

theorem closePosition_rows (db : Db) (now : Time) (id : SignalId) {status : SignalStatus}
    (hc : status.closed = true) (brokerExitOrderId : Option String) :
    SignalRows .closePosition db.signals
        (db.closePosition now id status brokerExitOrderId).1.signals
      ∧ (db.closePosition now id status brokerExitOrderId).1.signalSeq = db.signalSeq := by
  unfold closePosition
  dsimp only
  split
  · rw [addNotification_signals, addNotification_signalSeq, append_signals,
      append_signalSeq]
    refine ⟨SignalRows.of_updateWhere (fun s _ hp => ⟨rfl, rfl, rfl, rfl, ?_⟩), rfl⟩
    have hs : s.status = .executed := by simpa using (Bool.and_eq_true_iff.mp hp).2
    rw [hs]
    exact .close hc
  · exact ⟨SignalRows.refl _ _, rfl⟩

end Db

/-- **What can happen to the signals.** -/
inductive SignalEffect (db db' : Db) : Op → Prop where
  | same {op : Op} (signals : db'.signals = db.signals)
      (signalSeq : db'.signalSeq = db.signalSeq) : SignalEffect db db' op
  | moved {op : Op} (enqueue : op ≠ .enqueueEntry) (replace : op ≠ .replaceSignal)
      (rows : SignalRows op db.signals db'.signals)
      (signalSeq : db'.signalSeq = db.signalSeq) : SignalEffect db db' op
  /-- A card is entered: its row moves, and its entry is queued with it. -/
  | queued (entry : EntryItem) (mem : entry ∈ db'.entries)
      (free : db.entryOf? entry.request.signalId = none)
      (rows : SignalRows .enqueueEntry db.signals db'.signals)
      (only : ∀ s ∈ db.signals, s.id ≠ entry.request.signalId → s ∈ db'.signals)
      (moved : ∀ s ∈ db'.signals, s.id = entry.request.signalId → s.status = .submitting)
      (card : ∃ s ∈ db.signals, s.id = entry.request.signalId)
      (signalSeq : db'.signalSeq = db.signalSeq) : SignalEffect db db' .enqueueEntry
  | recorded (card : Signal) (id : card.id = db.signalSeq + 1)
      (status : card.status = .pending) (reprices : card.reprices = none)
      (signals : db'.signals = db.signals ++ [card])
      (signalSeq : db'.signalSeq = db.signalSeq + 1) : SignalEffect db db' .recordSignal
  /-- A card is expired, and the one that re-prices it recorded. -/
  | replaced (old card : Signal) (rows : List Signal) (mem : old ∈ db.signals)
      (pending : old.status = .pending)
      (moved : rows = updateWhere (Db.isPendingCard old.id)
        (fun s => { s with status := .expired }) db.signals)
      (id : card.id = db.signalSeq + 1) (status : card.status = .pending)
      (reprices : card.reprices = some old.id) (signals : db'.signals = rows ++ [card])
      (signalSeq : db'.signalSeq = db.signalSeq + 1) : SignalEffect db db' .replaceSignal

section

variable {env : Env} {op : Op} {db db' : Db}

theorem SignalEffect.of_insertSignal (db : Db) (now : Time) (card : CardFields)
    (reprices : Option SignalId) (notify : Bool) :
    (db.insertSignal now card reprices notify).1.signals
        = db.signals ++ [db.newSignal now card reprices]
      ∧ (db.insertSignal now card reprices notify).1.signalSeq = db.signalSeq + 1 := by
  unfold Db.insertSignal
  cases notify <;> simp

theorem SignalEffect.of_replaceSignal (db : Db) (now : Time) (oldId : SignalId)
    (card : CardFields) :
    SignalEffect db (db.replaceSignal now oldId card).1 .replaceSignal := by
  unfold Db.replaceSignal
  dsimp only
  split
  · rename_i hany
    obtain ⟨old, hm, hp⟩ := List.any_eq_true.mp hany
    unfold Db.isPendingCard at hp
    simp only [Bool.and_eq_true, beq_iff_eq] at hp
    obtain ⟨rfl, hs⟩ := hp
    obtain ⟨hsig, hseq⟩ := SignalEffect.of_insertSignal
      (db.leavePending old.id .expired).1 now card (some old.id) true
    exact .replaced old _ _ hm hs rfl rfl rfl rfl hsig hseq
  · exact .same rfl rfl

theorem SignalEffect.of_enqueueEntry (db : Db) (cfg : Config) (ev : EntryEvidence)
    (now : Time) (request : OrderRequest) (trigger : EntryTrigger)
    (hn : db.signalIds.Nodup) :
    SignalEffect db (db.enqueueEntry cfg ev now request trigger).1 .enqueueEntry := by
  rcases Db.enqueueEntry_cases db cfg ev now request trigger with he | ⟨hr, he⟩
  · exact .same (by rw [he]) (by rw [he])
  · obtain ⟨hfree, -, -, -, card, hcard, hpending⟩ := Db.enqueueRefusal_eq_none hr
    obtain ⟨hm, hid⟩ := Db.signal?_eq_some hcard
    have hl := Db.queueEntry_logs db cfg now request trigger
    rw [he]
    have hsig : (db.queueEntry cfg now request trigger).1.signals
        = updateWhere (fun s => s.id == request.signalId) (Db.reserve cfg request)
          db.signals := rfl
    refine .queued (db.queuedItem now request trigger) ?_ hfree ?_ (fun s hs hne => ?_)
      (fun s hs hid' => ?_) ⟨card, hm, hid⟩ rfl
    · rw [hl.entries]
      exact List.mem_append_right _ (List.mem_singleton_self _)
    · rw [hsig]
      refine SignalRows.of_updateWhere (fun s hs hp => ⟨rfl, rfl, rfl, rfl, ?_⟩)
      obtain rfl : s = card := eq_of_key hn hs hm (by rw [hid]; simpa using hp)
      rw [hpending]
      exact .enqueue
    · rw [hsig]
      exact mem_updateWhere_of_not hs (beq_eq_false_iff_ne.mpr hne)
    · rw [hsig] at hs
      obtain ⟨r, hr, rfl⟩ := mem_updateWhere.mp hs
      split
      · rfl
      · rename_i hne
        rw [if_neg hne] at hid'
        exact absurd (beq_iff_eq.mpr hid') hne

/-- **Every transaction is one of these, for the signals.** -/
theorem Transaction.signalEffect (h : Transaction env op db db')
    (hn : db.signalIds.Nodup) : SignalEffect db db' op := by
  cases h with
  | recordSignal now card notify =>
    obtain ⟨hs, hq⟩ := SignalEffect.of_insertSignal db now card none notify
    exact .recorded _ rfl rfl rfl hs hq
  | dismissSignal id =>
    exact .moved (by decide) (by decide) (db.leavePending_rows id .dismiss) rfl
  | expireSignal id =>
    exact .moved (by decide) (by decide) (db.leavePending_rows id .expire) rfl
  | replaceSignal now oldId card => exact SignalEffect.of_replaceSignal db now oldId card
  | expireStaleSignals now clock configured =>
    obtain ⟨hr, hs⟩ := db.expireStaleSignals_rows env.cfg now clock configured
    exact .moved (by decide) (by decide) hr hs
  | enqueueEntry ev now request trigger =>
    exact SignalEffect.of_enqueueEntry db env.cfg ev now request trigger hn
  | claimEntry now =>
    rcases Db.claimEntry_cases db env.cfg.entryPreflightLease now with
      he | ⟨row, -, -, -, hl⟩
    · exact .same (by rw [he]) (by rw [he])
    · exact .same hl.signals hl.signalSeq
  | beginSubmission ev r c t₀ t₁ t₂ item =>
    rcases Db.beginSubmission_cases db env.cfg ev r c t₀ t₁ t₂ item with
      ⟨reason, he⟩ | ⟨-, he⟩
    · exact .same (by rw [he]) (by rw [he])
    · have hl := Db.markSubmitting_logs db item
      rw [he]
      exact .same hl.signals hl.signalSeq
  | resolveEntry now item result recovery =>
    rcases Db.resolveEntry_cases db env.cfg now item result recovery with
      he | ⟨row, -, he⟩
    · exact .same (by rw [he]) (by rw [he])
    · obtain ⟨reason, hl⟩ := Db.settleEntry_logs db env.cfg now row item result
      rw [he]
      refine .moved (by decide) (by decide) ?_ ?_
      · rw [hl.signals, Db.haltIfUnknown_signals]
        exact db.settledSignals_rows item result
      · rw [hl.signalSeq, Db.haltIfUnknown_signalSeq]
        rfl
  | beginCancel due now id identity orders lifetime cause answer h =>
    rcases Db.beginCancel_cases h with ⟨rfl, -⟩ | ⟨-, rfl, -⟩
    · exact .same rfl rfl
    · have hl := Db.claimCancel_logs db env.cfg now id identity orders cause
      exact .same hl.signals hl.signalSeq
  | resolveCancel now item orders reason transportError allowPending resolved h =>
    obtain ⟨complete, -, rfl | ⟨row, filledFirst, result, -, -, -, -, rfl⟩⟩ :=
      Db.resolveCancel_cases h
    · exact .same rfl rfl
    · obtain ⟨journaled, reason, hj, hl⟩ :=
        Db.settleCancel_logs db env.cfg now row item complete filledFirst result
      refine .moved (by decide) (by decide) ?_ ?_
      · rw [hl.signals, Db.haltIfUnknown_signals, hj.signals]
        exact db.cancelledSignals_rows item complete
      · rw [hl.signalSeq, Db.haltIfUnknown_signalSeq, hj.signalSeq]
        rfl
  | observeOrders now observations h =>
    obtain ⟨hr, hs⟩ := Db.observeOrders_rows h hn
    exact .moved (by decide) (by decide) hr hs
  | rebuildOrderViews h =>
    obtain ⟨orders, -, rfl⟩ := Db.rebuildOrderViews_eq_some h
    exact .same rfl rfl
  | review now signalId reason =>
    obtain ⟨text, hl⟩ := Db.review_logs db now signalId reason
    exact .same hl.signals hl.signalSeq
  | missedBound now signalId symbol =>
    exact .same (by simp [Db.missedBound]) (by simp [Db.missedBound])
  | setTradingHalted value => exact .same rfl rfl
  | setTradingHaltReason value => exact .same rfl rfl
  | claimCloseRequest now values claimed record h =>
    rcases Db.claimCloseRequest_cases h with ⟨rfl, -⟩ | ⟨-, -, -, -, -, -, hl⟩
    · exact .same rfl rfl
    · exact .same hl.signals hl.signalSeq
  | saveExitOrder record status result =>
    obtain ⟨hr, hs⟩ := db.saveExitOrder_rows record status result
    exact .moved (by decide) (by decide) hr hs
  | updateCloseRequest now id status detail brokerOrderId =>
    rcases Db.updateCloseRequest_cases db now id status detail brokerOrderId with he | hl
    · exact .same (by rw [he]) (by rw [he])
    · exact .same hl.signals hl.signalSeq
  | updateSignalExecution now id u =>
    obtain ⟨hr, hs⟩ := db.updateSignalExecution_rows now id u
    exact .moved (by decide) (by decide) hr hs
  | updatePositionStop now id newStop notify =>
    obtain ⟨hr, hs⟩ := db.updatePositionStop_rows now id newStop notify
    exact .moved (by decide) (by decide) hr hs
  | closePosition now id status exit hc =>
    obtain ⟨hr, hs⟩ := db.closePosition_rows now id hc exit
    exact .moved (by decide) (by decide) hr hs

/-! ## The key of the signals -/

/-- Signals are told apart by their id, and the next id is unused. -/
structure SignalKeys (db : Db) : Prop where
  nodup : db.signalIds.Nodup
  le : ∀ s ∈ db.signals, s.id ≤ db.signalSeq

/-- **The signals before and after**: the old rows moved, and at most one new
card under the next id. -/
theorem SignalEffect.rows (h : SignalEffect db db' op) :
    ∃ rows new, db'.signals = rows ++ new ∧ SignalRows op db.signals rows
      ∧ (new = [] ∧ db'.signalSeq = db.signalSeq
        ∨ ∃ card, new = [card] ∧ card.id = db.signalSeq + 1 ∧ card.status = .pending
          ∧ db'.signalSeq = db.signalSeq + 1) := by
  cases h with
  | same hs hq =>
    exact ⟨db.signals, [], by rw [hs, List.append_nil], SignalRows.refl _ _,
      Or.inl ⟨rfl, hq⟩⟩
  | moved _ _ hr hq =>
    exact ⟨_, [], (List.append_nil _).symm, hr, Or.inl ⟨rfl, hq⟩⟩
  | queued entry mem free hr only moved card hq =>
    exact ⟨_, [], (List.append_nil _).symm, hr, Or.inl ⟨rfl, hq⟩⟩
  | recorded card hid hst hre hs hq =>
    exact ⟨db.signals, [card], hs, SignalRows.refl _ _, Or.inr ⟨card, rfl, hid, hst, hq⟩⟩
  | replaced old card rows hm hp hrows hid hst hre hs hq =>
    refine ⟨rows, [card], hs, ?_, Or.inr ⟨card, rfl, hid, hst, hq⟩⟩
    rw [hrows]
    exact Db.leavePending_rows db old.id .replace

/-- A signal after a transaction was there before it, or is the new card. -/
theorem SignalEffect.mem_cases (h : SignalEffect db db' op) {s' : Signal}
    (hs : s' ∈ db'.signals) :
    (∃ s ∈ db.signals, SignalStep op s s')
      ∨ s'.id = db.signalSeq + 1 ∧ s'.status = .pending := by
  obtain ⟨rows, new, he, hr, hnew⟩ := h.rows
  rw [he, List.mem_append] at hs
  rcases hs with hs | hs
  · exact Or.inl (hr.exists_of_mem hs)
  · rcases hnew with ⟨rfl, -⟩ | ⟨card, rfl, hid, hst, -⟩
    · cases hs
    · rw [List.mem_singleton.mp hs]
      exact Or.inr ⟨hid, hst⟩

/-- A signal is still there after a transaction. -/
theorem SignalEffect.exists_step (h : SignalEffect db db' op) {s : Signal}
    (hs : s ∈ db.signals) : ∃ s' ∈ db'.signals, SignalStep op s s' := by
  obtain ⟨rows, new, he, hr, -⟩ := h.rows
  obtain ⟨s', hs', hstep⟩ := hr.exists_step hs
  exact ⟨s', by rw [he]; exact List.mem_append_left _ hs', hstep⟩

/-- Two rows of one id, before and after, are one step apart. -/
theorem SignalEffect.step_of_id (h : SignalEffect db db' op) (hk : SignalKeys db)
    {s s' : Signal} (hs : s ∈ db.signals) (hs' : s' ∈ db'.signals) (hid : s'.id = s.id) :
    SignalStep op s s' := by
  rcases h.mem_cases hs' with ⟨s₀, hs₀, hstep⟩ | ⟨hnew, -⟩
  · rwa [eq_of_key hk.nodup hs₀ hs (hstep.id.symm.trans hid)] at hstep
  · have hle := hk.le s hs
    rw [← hid, hnew] at hle
    exact absurd hle (Nat.not_succ_le_self _)

theorem SignalEffect.keys (h : SignalEffect db db' op) (hk : SignalKeys db) :
    SignalKeys db' := by
  obtain ⟨rows, new, hs, hr, hnew⟩ := h.rows
  have hrow : ∀ s ∈ rows, s.id ≤ db.signalSeq := by
    intro s hm
    obtain ⟨s₀, hs₀, hstep⟩ := hr.exists_of_mem hm
    rw [hstep.id]
    exact hk.le s₀ hs₀
  rcases hnew with ⟨rfl, hq⟩ | ⟨card, rfl, hid, -, hq⟩
  · rw [List.append_nil] at hs
    refine ⟨?_, fun s hm => ?_⟩
    · rw [Db.signalIds, hs, hr.ids]
      exact hk.nodup
    · rw [hq]
      exact hrow s (hs ▸ hm)
  · refine ⟨?_, fun s hm => ?_⟩
    · rw [Db.signalIds, hs]
      refine nodup_map_append_singleton (by rw [hr.ids]; exact hk.nodup) (fun s hm => ?_)
      rw [hid]
      exact (Nat.lt_succ_of_le (hrow s hm)).ne
    · rw [hs, List.mem_append, List.mem_singleton] at hm
      rcases hm with hm | rfl
      · rw [hq]
        exact (hrow s hm).trans (Nat.le_succ _)
      · rw [hid, hq]

/-- An action does to the signals what its transaction does. -/
theorem Act.signalEffect {t : List Mark} {p p' : Proc} {calls : List Mark}
    (h : Act env t db p op calls db' p') (hn : db.signalIds.Nodup) :
    SignalEffect db db' op := by
  rcases h.transaction with rfl | ht
  · exact .same rfl rfl
  · exact ht.signalEffect hn

end

/-- **Signals keep their key in every reachable state.** -/
theorem signalKeys_of_reachable (env : Env) {w : World Db Proc Mark}
    (h : (trader env).Reachable w) : SignalKeys w.store := by
  refine Program.store_invariant (J := fun db _ => SignalKeys db) ?_ ?_ h
  · exact ⟨List.nodup_nil, fun s hs => by cases hs⟩
  · rintro w i marks d p - hk ⟨op, calls, ha, -⟩
    exact (ha.signalEffect hk.nodup).keys hk

end AgenticTrader
