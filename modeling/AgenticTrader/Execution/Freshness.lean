import AgenticTrader.Accounting.Ledger
import AgenticTrader.Library.LocalTime
import AgenticTrader.Risk.Rules

/-!
# Card freshness

A card that is tapped is judged again (`execution/freshness.py`): it may have expired,
its price may have moved through its levels, and one that is neither fresh nor missed
is replaced by a card at the current price. The sweep expires the cards nobody taps by
the same rule.

Two instants are compared after both were converted to New York time. Values with one
and the same zone compare as their wall clocks do, and subtract so, and that is how
they are compared here. How a date, a number and a document are read and printed are
parameters; nothing is used of them.
-/

namespace AgenticTrader

/-! ## Expiry -/

/-- **What reads the stored texts**: `json.loads` and `datetime.fromisoformat`. -/
structure CardReader where
  loads : String → Except String Json
  fromIsoformat : String → Option WireTime

/-- **`parse_valid_until`**: absent, unreadable and offset-naive values are none. -/
def parseValidUntil (reader : CardReader) (raw : Option Json) : Option Time :=
  match raw with
  | some (.str text) =>
    if text = "" then none
    else
      match reader.fromIsoformat text with
      | some (.aware instant) => some instant
      | _ => none
  | _ => none

/-- **`valid_until_from_provenance`.** -/
def validUntilFromProvenance (reader : CardReader) (provenance : Option Json) : Option Time :=
  match provenance with
  | some (.object fields) => parseValidUntil reader (fields.lookup "valid_until")
  | _ => parseValidUntil reader none

/-- **`card_session_over`**: a card without a usable `valid_until` expires with its New
York date. -/
def cardSessionOver (zone : Zone) (issuedAt : Time) (validUntil : Option Time) (now : Time) :
    Bool :=
  match validUntil with
  | some validUntil => decide (zone.toLocal validUntil ≤ zone.toLocal now)
  | none => decide (zone.date issuedAt ≠ zone.date now)

/-- **`card_is_stale`**: the rule of the sweep. -/
def cardIsStale (reader : CardReader) (zone : Zone) (issuedAt : Time)
    (decisionProvenance : Option Json) (now : Time) : Bool :=
  cardSessionOver zone issuedAt (validUntilFromProvenance reader decisionProvenance) now

/-! ## The assessment of a tap -/

inductive CardOutcome where
  | execute
  | reprice
  | missed
  | expired
  | waiting
  | unavailable
  deriving DecidableEq, Repr

inductive CardValidity where
  | sessionClose
  | nextSessionClose
  deriving DecidableEq, Repr

/-- **`CardAssessment`.** -/
structure CardAssessment where
  outcome : CardOutcome
  reason : String
  rConsumed : Option ℚ
  ageSeconds : ℚ
  price : Option ℚ

/-- **`CardFreshnessConfig`.** -/
structure CardFreshness where
  freshSeconds : ℚ
  freshMaxR : ℚ
  repriceMinRiskFraction : ℚ

/-- The formats of the reasons: `.2f`, `+.2f`, `.0f` and `%a %d %H:%M`. -/
structure FreshnessText where
  fixed2 : ℚ → String
  signed2 : ℚ → String
  whole : ℚ → String
  wallClock : ℤ → String

/-- The bracket of a card. -/
structure CardLevels where
  direction : Direction
  entry : ℚ
  stop : ℚ
  target : ℚ

namespace CardLevels

variable (card : CardLevels)

/-- The price is at the stop or through it. -/
def throughStop (price : ℚ) : Bool :=
  match card.direction with
  | .long => decide (price ≤ card.stop)
  | .short => decide (card.stop ≤ price)

/-- The price is at the target or through it. -/
def throughTarget (price : ℚ) : Bool :=
  match card.direction with
  | .long => decide (card.target ≤ price)
  | .short => decide (price ≤ card.target)

def remainingRisk (price : ℚ) : ℚ := card.direction.sign * (price - card.stop)

def rewardRemaining (price : ℚ) : ℚ := card.direction.sign * (card.target - price)

end CardLevels

section Assessment

variable (text : FreshnessText) (policy : CardFreshness) (card : CardLevels)

/-- **The rest of `assess_card`**, for a card that has not expired. -/
def assessPrice (ageSeconds price : ℚ) (gateReason : Option String) (minRewardRisk : ℚ) :
    CardAssessment :=
  let risk := |card.entry - card.stop|
  if risk ≤ 0 then
    ⟨.missed, "Missed: the card's entry and stop coincide.", none, ageSeconds, some price⟩
  else
    let rConsumed := card.direction.sign * (price - card.entry) / risk
    let at_ := text.fixed2 price
    let moved := text.signed2 rConsumed
    let missed (reason : String) : CardAssessment :=
      ⟨.missed, reason, some rConsumed, ageSeconds, some price⟩
    if card.throughStop price then
      let stop := text.fixed2 card.stop
      missed s!"Missed: price {at_} is at or through the stop at {stop}."
    else if card.throughTarget price then
      let target := text.fixed2 card.target
      missed s!"Missed: price {at_} is at or through the target at {target}."
    else if card.remainingRisk price < policy.repriceMinRiskFraction * risk then
      missed "Too close to the stop."
    else
      match gateReason with
      | some reason => missed reason
      | none =>
        if ageSeconds ≤ policy.freshSeconds ∧ |rConsumed| ≤ policy.freshMaxR then
          let age := text.whole ageSeconds
          ⟨.execute, s!"Fresh: {age}s old, {moved}R since the card.", some rConsumed, ageSeconds,
            some price⟩
        else if meetsMinRewardRisk (card.rewardRemaining price) (card.remainingRisk price)
            minRewardRisk = false then
          let actual := text.fixed2 (card.rewardRemaining price / card.remainingRisk price)
          let minimum := text.fixed2 minRewardRisk
          missed s!"Missed: reward:risk at {at_} would be {actual} < {minimum}."
        else
          ⟨.reprice, s!"Re-priced at {at_}: {moved}R since the card.", some rConsumed, ageSeconds,
            some price⟩

/-- **`assess_card`.** -/
def assessCard (zone : Zone) (issuedAt : Time) (validUntil : Option Time) (now : Time)
    (price : ℚ) (sessionOpen : Bool) (gateReason : Option String) (minRewardRisk : ℚ)
    (validity : CardValidity) : CardAssessment :=
  let ageSeconds : ℚ := (zone.toLocal now - zone.toLocal issuedAt : ℤ) / 1000000
  if validity = .nextSessionClose ∧ sessionOpen = false
      ∧ validUntil.any (fun validUntil => decide (zone.toLocal now < zone.toLocal validUntil)) then
    let closes := text.wallClock ((validUntil.map zone.toLocal).getD 0)
    ⟨.waiting, s!"Market closed; card valid until {closes} NY.", none, ageSeconds, none⟩
  else if cardSessionOver zone issuedAt validUntil now || !sessionOpen then
    ⟨.expired, "Card expired: its session has ended.", none, ageSeconds, none⟩
  else assessPrice text policy card ageSeconds price gateReason minRewardRisk

end Assessment

/-! ## What an outcome says -/

section Outcomes

variable {text : FreshnessText} {policy : CardFreshness} {card : CardLevels} {zone : Zone}
  {issuedAt : Time} {validUntil : Option Time} {now : Time} {age price : ℚ} {sessionOpen : Bool}
  {gateReason : Option String} {minRewardRisk : ℚ} {validity : CardValidity}

/-- A card that has not expired is missed, executed or re-priced. -/
theorem assessPrice_outcome (text : FreshnessText) (policy : CardFreshness) (card : CardLevels)
    (age price : ℚ) (gateReason : Option String) (minRewardRisk : ℚ) :
    (assessPrice text policy card age price gateReason minRewardRisk).outcome
      ∈ [CardOutcome.missed, .execute, .reprice] := by
  cases gateReason with
  | some reason =>
    unfold assessPrice
    dsimp only
    split_ifs <;> simp
  | none =>
    unfold assessPrice
    dsimp only
    split_ifs <;> simp

/-- **A card is re-priced** between its stop and its target, with the reward it still
has worth the risk it still takes. -/
theorem assessPrice_reprice
    (h : (assessPrice text policy card age price gateReason minRewardRisk).outcome = .reprice) :
    0 < |card.entry - card.stop| ∧ card.throughStop price = false
      ∧ card.throughTarget price = false
      ∧ meetsMinRewardRisk (card.rewardRemaining price) (card.remainingRisk price) minRewardRisk
        = true := by
  cases gateReason with
  | some reason =>
    unfold assessPrice at h
    dsimp only at h
    split_ifs at h
  | none =>
    unfold assessPrice at h
    dsimp only at h
    split_ifs at h with hrisk hstop htarget hclose hfresh hreward
    exact ⟨not_le.mp hrisk, by simpa using hstop, by simpa using htarget, by simpa using hreward⟩

/-- A card that expired, or waits, is not re-priced. -/
theorem assessCard_reprice
    (h : (assessCard text policy card zone issuedAt validUntil now price sessionOpen gateReason
      minRewardRisk validity).outcome = .reprice) :
    (assessPrice text policy card ((zone.toLocal now - zone.toLocal issuedAt : ℤ) / 1000000) price
      gateReason minRewardRisk).outcome = .reprice := by
  unfold assessCard at h
  dsimp only at h
  split_ifs at h
  exact h

/-- Where the price stands that is through neither level. -/
theorem CardLevels.between_of_not_through (hstop : card.throughStop price = false)
    (htarget : card.throughTarget price = false) :
    0 < card.remainingRisk price ∧ 0 < card.rewardRemaining price := by
  unfold throughStop at hstop
  unfold throughTarget at htarget
  unfold remainingRisk rewardRemaining Direction.sign
  cases hdir : card.direction with
  | long =>
    rw [hdir] at hstop htarget
    simp only [decide_eq_false_iff_not, not_le] at hstop htarget
    constructor <;> simp <;> assumption
  | short =>
    rw [hdir] at hstop htarget
    simp only [decide_eq_false_iff_not, not_le] at hstop htarget
    constructor <;> simp <;> assumption

variable (text policy card zone issuedAt validUntil now price sessionOpen gateReason minRewardRisk
  validity)

/-- **A card waits** for a session, before its end. -/
theorem assessCard_waiting_iff :
    (assessCard text policy card zone issuedAt validUntil now price sessionOpen gateReason
        minRewardRisk validity).outcome = .waiting
      ↔ validity = .nextSessionClose ∧ sessionOpen = false ∧ validUntil.any
          (fun validUntil => decide (zone.toLocal now < zone.toLocal validUntil)) = true := by
  have hprice := assessPrice_outcome text policy card
    ((zone.toLocal now - zone.toLocal issuedAt : ℤ) / 1000000) price gateReason minRewardRisk
  unfold assessCard
  dsimp only
  split_ifs with hwaiting hover
  · exact iff_of_true rfl hwaiting
  · exact iff_of_false (by simp) hwaiting
  · refine iff_of_false (fun h => ?_) hwaiting
    rw [h] at hprice
    simp at hprice

/-- **A card expires** when it does not wait and its session is over or closed. -/
theorem assessCard_expired_iff :
    (assessCard text policy card zone issuedAt validUntil now price sessionOpen gateReason
        minRewardRisk validity).outcome = .expired
      ↔ (cardSessionOver zone issuedAt validUntil now = true ∨ sessionOpen = false)
        ∧ ¬ (validity = .nextSessionClose ∧ sessionOpen = false ∧ validUntil.any
          (fun validUntil => decide (zone.toLocal now < zone.toLocal validUntil)) = true) := by
  have hprice := assessPrice_outcome text policy card
    ((zone.toLocal now - zone.toLocal issuedAt : ℤ) / 1000000) price gateReason minRewardRisk
  unfold assessCard
  dsimp only
  split_ifs with hwaiting hover
  · exact iff_of_false (by simp) (fun h => h.2 hwaiting)
  · refine iff_of_true rfl ⟨?_, hwaiting⟩
    simpa using hover
  · refine iff_of_false (fun h => ?_) (fun h => hover ?_)
    · rw [h] at hprice
      simp at hprice
    · simpa using h.1

end Outcomes

end AgenticTrader
