import AgenticTrader.Alpha.Registry
import AgenticTrader.Library.Processes

/-!
# The pooled lane

The ledger of the pooled research lane (`storage/alpha.py`): campaigns, the
budgets of their families, a charge for every formula that is looked at, and
the confirmation intervals, each used once in the lane. Every call is one
transaction under the lock of the alpha journal.

A campaign (`research/pooled`) is a process over it. It reserves itself, or
resumes; for every proposal of a family's search it charges the formula and
then scores it (`family_search`, `genetic.py`); when candidates are frozen it
consumes its confirmation interval and then opens the window
(`CampaignWindows.confirmation`, `campaign.py`). A campaign that crashed after
the consumption is recovered from the journal (`execute_campaign_recovery`,
`campaign_run.py`), which opens the window without consuming it again. Which
formulas a search proposes, and what the stages decide, is left open.
-/

namespace AgenticTrader

/-- The text of a status. -/
def CampaignStatus.text : CampaignStatus → String
  | .reserved => "reserved"
  | .frozen => "frozen"
  | .confirmationConsumed => "confirmation_consumed"
  | .failed => "failed"
  | .completed => "completed"

/-- `stages[status] = …`. -/
def Campaign.staged (c : Campaign) (status : CampaignStatus) : Campaign :=
  { c with
    status := status
    stages := if c.stages.contains status then c.stages else c.stages ++ [status] }

namespace AlphaDb

/-! ## The ledger -/

/-- **`_pooled_counts`.** -/
def pooledCounts (db : AlphaDb) : PooledCounts :=
  (db.get .pooledLedger).getD ⟨0, 0, 0⟩

/-- **`_pooled_count`**, with what is counted. -/
def pooledCount (db : AlphaDb) (count : PooledCounts → PooledCounts) : AlphaDb :=
  db.append .pooledLedger (count db.pooledCounts)

/-- The consumed confirmation intervals of the lane. -/
def confirmations (db : AlphaDb) : List ConfirmationInterval :=
  (db.get .pooledConfirmation).getD []

/-- **`reserve_pooled_campaign`**: the campaign that is handed out. -/
def reservePooledCampaign (db : AlphaDb) (campaignId : String) (pins : CampaignPins) :
    Except String (AlphaDb × Campaign) :=
  match db.get (.campaign campaignId) with
  | some existing => do
    refuse (decide (existing.pins ≠ pins))
      ("Pooled campaign reservation is immutable; a changed protocol, cohort, cube, code "
        ++ "revision or journal scope needs a new protocol version")
    refuse (existing.stages.contains .confirmationConsumed
        || decide (existing.status = .completed))
      ("Pooled campaign " ++ campaignId ++ " cannot run again (status " ++ existing.status.text
        ++ ")")
    .ok (db, existing)
  | none =>
    let payload : Campaign := ⟨pins, .reserved, [.reserved]⟩
    .ok ((db.append (.campaign campaignId) payload).pooledCount
      (fun n => { n with campaigns := n.campaigns + 1 }), payload)

/-- **`reserve_pooled_family`.** -/
def reservePooledFamily (db : AlphaDb) (campaignId familyId : String) (budget : ℤ) :
    Except String AlphaDb := do
  refuse (decide (budget < 1)) "Positive integer family budget required"
  refuse (db.get (.campaign campaignId)).isNone ("Unknown pooled campaign " ++ campaignId)
  match db.get (.campaignFamily campaignId familyId) with
  | some existing =>
    if (existing.budget : ℤ) ≠ budget then .error "Pooled family budget is immutable" else .ok db
  | none => .ok (db.append (.campaignFamily campaignId familyId) ⟨budget.toNat, 0⟩)

/-- A formula that is charged: its record, its family's count and the lane's. -/
def charged (db : AlphaDb) (campaignId formulaId : String) (charge : FormulaCharge)
    (family : FamilyBudget) : AlphaDb :=
  ((db.append (.formula campaignId formulaId) charge).append
    (.campaignFamily campaignId charge.family)
    { family with charged := family.charged + 1 }).pooledCount
    (fun n => { n with formulasCharged := n.formulasCharged + 1 })

/-- **`charge_pooled_formula`**: false when it was charged before. -/
def chargePooledFormula (db : AlphaDb) (campaignId familyId formulaId expression : String)
    (nodes : ℕ) (now : Time) : Except String (AlphaDb × Bool) :=
  match db.get (.formula campaignId formulaId) with
  | some existing =>
    if existing.expression ≠ expression ∨ existing.family ≠ familyId then
      .error ("Pooled formula id " ++ formulaId ++ " is already charged for another expression")
    else .ok (db, false)
  | none =>
    match db.get (.campaignFamily campaignId familyId) with
    | none => .error ("Pooled family " ++ familyId ++ " budget not reserved")
    | some family => do
      let budget := family.budget
      refuse (decide (family.budget ≤ family.charged))
        ("Pooled family " ++ familyId ++ s!" budget of {budget} exhausted")
      .ok (db.charged campaignId formulaId ⟨familyId, expression, nodes, now⟩ family, true)

/-- **`advance_pooled_campaign`.** -/
def advancePooledCampaign (db : AlphaDb) (campaignId : String) (status : CampaignStatus) :
    Except String AlphaDb :=
  match db.get (.campaign campaignId) with
  | none => .error ("Unknown pooled campaign " ++ campaignId)
  | some existing => do
    refuse (decide (existing.status = .completed))
      ("Pooled campaign " ++ campaignId ++ " is completed")
    .ok (db.append (.campaign campaignId) (existing.staged status))

/-- The test of one interval, `not (end < item.start or item.end < start)`. -/
def overlapsConfirmation (startOn endOn : ℤ) (i : ConfirmationInterval) : Bool :=
  !(decide (endOn < i.startOn) || decide (i.endOn < startOn))

/-- An interval that is consumed: the list, the campaign and the lane's count. -/
def confirmed (db : AlphaDb) (campaignId : String) (campaign : Campaign)
    (item : ConfirmationInterval) : AlphaDb :=
  ((db.append .pooledConfirmation (db.confirmations ++ [item])).append (.campaign campaignId)
    (campaign.staged .confirmationConsumed)).pooledCount
    (fun n => { n with confirmations := n.confirmations + 1 })

/-- **`consume_pooled_confirmation`.** -/
def consumePooledConfirmation (db : AlphaDb) (campaignId cohortSha256 : String)
    (startOn endOn : ℤ) (candidates : List String) (now : Time) : Except String AlphaDb :=
  match db.get (.campaign campaignId) with
  | none => .error ("Unknown pooled campaign " ++ campaignId)
  | some campaign =>
    match db.confirmations.find? (overlapsConfirmation startOn endOn) with
    | some item =>
      .error ("confirmation interval already consumed by campaign " ++ item.campaignId)
    | none => .ok (db.confirmed campaignId campaign
        ⟨startOn, endOn, campaignId, cohortSha256, candidates, now⟩)

/-- **`_consumed_candidates`**: the interval the journal holds for a campaign,
when it is the only one. -/
def consumedInterval (db : AlphaDb) (campaignId : String) : Option ConfirmationInterval :=
  match db.confirmations.filter (fun i => i.campaignId == campaignId) with
  | [item] => some item
  | _ => none

end AlphaDb

/-! ## The processes -/

/-- The keys of the pooled lane. -/
def AlphaKey.ofPooled : AlphaKey → Bool
  | .campaign _ | .campaignFamily _ _ | .formula _ _ | .pooledLedger | .pooledConfirmation => true
  | _ => false

/-- **Where a process is in a campaign.** -/
inductive PooledWorker where
  | idle
  /-- The campaign was handed out. -/
  | running (campaignId : String)
  /-- The charge of a formula returned. -/
  | charged (campaignId formulaId : String)
  /-- The consumption of the confirmation interval returned. -/
  | consumed (campaignId : String) (startOn endOn : ℤ)
  /-- A recovery read a campaign that consumed its interval and did not
  complete. -/
  | recovering (campaignId : String)

/-- **What a campaign looked at.** -/
inductive PooledMark where
  /-- The discovery score of a formula was computed. -/
  | scored (campaignId formulaId : String)
  /-- The confirmation window was opened. -/
  | opened (campaignId : String) (startOn endOn : ℤ)
  deriving DecidableEq

/-- The campaign of a process. -/
def PooledWorker.campaign? : PooledWorker → Option String
  | .idle => none
  | .running c | .charged c _ | .consumed c _ _ | .recovering c => some c

/-- **One action of a process.** -/
inductive PooledAct :
    AlphaDb → List PooledMark → PooledWorker → List PooledMark → AlphaDb → PooledWorker → Prop where
  | reserve {db db' : AlphaDb} {t : List PooledMark} {campaign : Campaign}
      (campaignId : String) (pins : CampaignPins)
      (h : db.reservePooledCampaign campaignId pins = .ok (db', campaign)) :
      PooledAct db t .idle [] db' (.running campaignId)
  | reserveFamily {db db' : AlphaDb} {t : List PooledMark} {campaignId : String}
      (familyId : String) (budget : ℤ)
      (h : db.reservePooledFamily campaignId familyId budget = .ok db') :
      PooledAct db t (.running campaignId) [] db' (.running campaignId)
  | charge {db db' : AlphaDb} {t : List PooledMark} {campaignId : String} {fresh : Bool}
      (familyId formulaId expression : String) (nodes : ℕ) (now : Time)
      (h : db.chargePooledFormula campaignId familyId formulaId expression nodes now
        = .ok (db', fresh)) :
      PooledAct db t (.running campaignId) [] db' (.charged campaignId formulaId)
  | score {db : AlphaDb} {t : List PooledMark} {campaignId formulaId : String} :
      PooledAct db t (.charged campaignId formulaId) [.scored campaignId formulaId] db
        (.running campaignId)
  | advance {db db' : AlphaDb} {t : List PooledMark} {p : PooledWorker} {campaignId : String}
      (status : CampaignStatus) (hp : p.campaign? = some campaignId)
      (h : db.advancePooledCampaign campaignId status = .ok db') :
      PooledAct db t p [] db' (.running campaignId)
  | consume {db db' : AlphaDb} {t : List PooledMark} {campaignId : String}
      (cohortSha256 : String) (startOn endOn : ℤ) (candidates : List String) (now : Time)
      (h : db.consumePooledConfirmation campaignId cohortSha256 startOn endOn candidates now
        = .ok db') :
      PooledAct db t (.running campaignId) [] db' (.consumed campaignId startOn endOn)
  | openWindow {db : AlphaDb} {t : List PooledMark} {campaignId : String} {startOn endOn : ℤ} :
      PooledAct db t (.consumed campaignId startOn endOn) [.opened campaignId startOn endOn] db
        (.running campaignId)
  | recover {db : AlphaDb} {t : List PooledMark} {campaign : Campaign} (campaignId : String)
      (h : db.get (.campaign campaignId) = some campaign) (hs : campaign.status ≠ .completed)
      (hc : campaign.stages.contains .confirmationConsumed = true) :
      PooledAct db t .idle [] db (.recovering campaignId)
  | recoverWindow {db : AlphaDb} {t : List PooledMark} {campaignId : String}
      {item : ConfirmationInterval} (h : db.consumedInterval campaignId = some item) :
      PooledAct db t (.recovering campaignId) [] db
        (.consumed campaignId item.startOn item.endOn)
  | rebuild {db : AlphaDb} {t : List PooledMark} : PooledAct db t .idle [] db.rebuild .idle
  | other {db : AlphaDb} {t : List PooledMark} (k : AlphaKey) (v : AlphaValue k)
      (hk : k.ofPooled = false) : PooledAct db t .idle [] (db.append k v) .idle

/-- **The program of the lane.** -/
def pooledProgram : Program AlphaDb PooledWorker PooledMark where
  store := .empty
  idle := .idle
  act := PooledAct

end AgenticTrader
