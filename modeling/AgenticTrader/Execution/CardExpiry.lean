import AgenticTrader.Execution.Freshness
import AgenticTrader.Library.Checks

/-!
# The tap and the sweep

A card expires at a tap (`_assess_card_tap`) or in the sweep (`expire_stale_signals`).
The two read it in different ways. The tap takes the row as a dictionary: its timestamp
has lost the microseconds, and a provenance that is not JSON raises before anything is
assessed. The sweep takes the row itself, and a provenance that it cannot read is an
empty one. What they then decide agrees for every card and every instant.

Whether a card has expired does not always stay so. `card_session_over` compares two
values in New York time, which are compared by their wall clocks; in the hour that is
shown twice, a card whose `valid_until` lies in it expires, and a moment later it has
not. `tap_and_sweep_agree_iff` says that this is the only way.
-/

namespace AgenticTrader

open Checks

/-- **A pending row of `signals`**, as far as its expiry reads it. -/
structure StoredCard where
  timestamp : Time
  decisionProvenance : Option String
  levels : CardLevels

namespace StoredCard

variable (card : StoredCard) (reader : CardReader) (zone : Zone)

/-- `to_dict()["timestamp"]`, read back as UTC: `%Y-%m-%d %H:%M:%S` has no fraction. -/
def dictTimestamp : Time := card.timestamp - card.timestamp % Zone.second

/-- `to_dict()["decision_provenance"]`. -/
def dictProvenance : Except String (Option Json) :=
  match card.decisionProvenance with
  | none => .ok none
  | some text => if text = "" then .ok none else (reader.loads text).map some

/-- **`_provenance_document`.** -/
def provenanceDocument : Json :=
  match card.decisionProvenance with
  | none => .object []
  | some text =>
    if text = "" then .object []
    else
      match reader.loads text with
      | .ok (.object fields) => .object fields
      | _ => .object []

/-- The end of the card, as the sweep reads it. -/
def validUntil : Option Time :=
  validUntilFromProvenance reader (some (card.provenanceDocument reader))

/-- **The sweep's verdict on a row.** -/
def stale (now : Time) : Bool :=
  cardIsStale reader zone card.timestamp (some (card.provenanceDocument reader)) now

end StoredCard

/-- **What a tap read** besides the card. -/
structure TapReads where
  text : FreshnessText
  policy : CardFreshness
  now : Time
  price : ℚ
  sessionOpen : Bool
  gateReason : Option String
  minRewardRisk : ℚ
  validity : CardValidity

/-- **The assessment of a tap** (`_assess_card_tap`). -/
def assessTap (reader : CardReader) (zone : Zone) (card : StoredCard) (tap : TapReads) :
    Except String CardAssessment := do
  let provenance ← card.dictProvenance reader
  .ok (assessCard tap.text tap.policy card.levels zone card.dictTimestamp
    (validUntilFromProvenance reader provenance) tap.now tap.price tap.sessionOpen tap.gateReason
    tap.minRewardRisk tap.validity)

section

variable {reader : CardReader} {zone : Zone} {card : StoredCard} {tap : TapReads}

/-- A provenance that the tap can read has the end that the sweep reads. -/
theorem validUntil_of_dictProvenance {provenance : Option Json}
    (h : card.dictProvenance reader = .ok provenance) :
    validUntilFromProvenance reader provenance = card.validUntil reader := by
  unfold StoredCard.dictProvenance at h
  unfold StoredCard.validUntil StoredCard.provenanceDocument
  cases hstored : card.decisionProvenance with
  | none =>
    rw [hstored] at h
    cases h
    rfl
  | some text =>
    rw [hstored] at h
    dsimp only at h ⊢
    split_ifs at h with hempty
    · cases h
      rw [if_pos hempty]
      rfl
    · rw [if_neg hempty]
      cases hloads : reader.loads text with
      | error message =>
        rw [hloads] at h
        cases h
      | ok document =>
        rw [hloads] at h
        cases h
        cases document <;> rfl

/-- **The microseconds of the timestamp do not matter.** -/
theorem cardSessionOver_dictTimestamp (hseconds : zone.WholeSeconds) (until_ : Option Time)
    (now : Time) :
    cardSessionOver zone card.dictTimestamp until_ now
      = cardSessionOver zone card.timestamp until_ now := by
  cases until_ with
  | some until_ => rfl
  | none =>
    unfold cardSessionOver StoredCard.dictTimestamp
    rw [hseconds.date_eq]

/-- **What a tap assessed**, in terms of the sweep's rule. -/
theorem assessTap_eq_ok (hseconds : zone.WholeSeconds) {assessment : CardAssessment}
    (h : assessTap reader zone card tap = .ok assessment) :
    (assessment.outcome = .expired
        ↔ (card.stale reader zone tap.now = true ∨ tap.sessionOpen = false)
          ∧ assessment.outcome ≠ .waiting)
      ∧ (assessment.outcome = .waiting →
        tap.sessionOpen = false ∧ card.stale reader zone tap.now = false) := by
  obtain ⟨provenance, hprovenance, h⟩ := except_bind_eq_ok.mp h
  cases h
  have hstale : card.stale reader zone tap.now
      = cardSessionOver zone card.dictTimestamp (validUntilFromProvenance reader provenance)
        tap.now := by
    rw [cardSessionOver_dictTimestamp hseconds, validUntil_of_dictProvenance hprovenance]
    rfl
  have hwaiting := assessCard_waiting_iff tap.text tap.policy card.levels zone card.dictTimestamp
    (validUntilFromProvenance reader provenance) tap.now tap.price tap.sessionOpen tap.gateReason
    tap.minRewardRisk tap.validity
  have hexpired := assessCard_expired_iff tap.text tap.policy card.levels zone card.dictTimestamp
    (validUntilFromProvenance reader provenance) tap.now tap.price tap.sessionOpen tap.gateReason
    tap.minRewardRisk tap.validity
  rw [hstale]
  refine ⟨?_, fun h => ?_⟩
  · rw [hexpired, Ne, hwaiting]
  · obtain ⟨-, hclosed, hbefore⟩ := hwaiting.mp h
    refine ⟨hclosed, ?_⟩
    cases hvalid : validUntilFromProvenance reader provenance with
    | none =>
      rw [hvalid] at hbefore
      cases hbefore
    | some until_ =>
      rw [hvalid] at hbefore
      unfold cardSessionOver
      simpa using hbefore

end

/-- **The tap and the sweep agree on a card.** With the session open a tap finds it
expired exactly when the sweep would, it waits only for a card that the sweep would
leave, and a card that the sweep would expire is neither executed nor re-priced. A card
that has expired by its own end has expired at every later time. -/
def TapAgreesWithSweep (reader : CardReader) (zone : Zone) (card : StoredCard) : Prop :=
  (∀ (tap : TapReads) (assessment : CardAssessment),
    assessTap reader zone card tap = .ok assessment →
    (tap.sessionOpen = true →
        (assessment.outcome = .expired ↔ card.stale reader zone tap.now = true))
      ∧ (assessment.outcome = .waiting → card.stale reader zone tap.now = false)
      ∧ (card.stale reader zone tap.now = true →
        assessment.outcome ≠ .execute ∧ assessment.outcome ≠ .reprice))
    ∧ ((card.validUntil reader).isSome = true → ∀ now later, now ≤ later →
      card.stale reader zone now = true → card.stale reader zone later = true)

/-- **The tap and the sweep agree on a card exactly when New York's clock is not set back
across the end of the card.** -/
theorem tap_and_sweep_agree_iff (reader : CardReader) (zone : Zone) (hseconds : zone.WholeSeconds)
    (card : StoredCard) :
    TapAgreesWithSweep reader zone card
      ↔ ∀ validUntil, card.validUntil reader = some validUntil →
        ¬ zone.SetBackAcross (zone.toLocal validUntil) := by
  have hstale : ∀ validUntil now, card.validUntil reader = some validUntil →
      (card.stale reader zone now = true ↔ zone.toLocal validUntil ≤ zone.toLocal now) := by
    intro validUntil now hvalid
    have heq : card.stale reader zone now
        = cardSessionOver zone card.timestamp (card.validUntil reader) now := rfl
    rw [heq, hvalid]
    exact decide_eq_true_iff
  constructor
  · rintro ⟨-, hstays⟩ validUntil hvalid ⟨t, hreached, hback⟩
    have hnext : t ≤ t + 1 := Int.le_add_one le_rfl
    have hlater := hstays (by rw [hvalid]; rfl) t (t + 1) hnext
      ((hstale validUntil t hvalid).mpr hreached)
    exact absurd ((hstale validUntil (t + 1) hvalid).mp hlater) (not_le.mpr hback)
  · intro hclock
    refine ⟨fun tap assessment h => ?_, fun hsome now later hle hnow => ?_⟩
    · obtain ⟨hexpired, hwaiting⟩ := assessTap_eq_ok hseconds h
      refine ⟨fun hopen => ?_, fun hw => (hwaiting hw).2, fun hover => ?_⟩
      · rw [hexpired, hopen]
        refine ⟨fun h => h.1.resolve_right (by decide), fun h => ⟨.inl h, fun hw => ?_⟩⟩
        rw [(hwaiting hw).1] at hopen
        cases hopen
      · have hout : assessment.outcome = .expired :=
          hexpired.mpr ⟨.inl hover, fun hw => by rw [(hwaiting hw).2] at hover; cases hover⟩
        rw [hout]
        exact ⟨by decide, by decide⟩
    · obtain ⟨validUntil, hvalid⟩ := Option.isSome_iff_exists.mp hsome
      rw [hstale validUntil _ hvalid] at hnow ⊢
      exact Zone.reading_le_of_le (hclock validUntil hvalid) hnow hle

/-! ### The night the clocks are set back -/

/-- **New York on 1 November 2026**, the day of the instant 0: at 06:00 UTC the clock goes
from two o'clock back to one. -/
def autumnZone : Zone where
  toLocal t := if t < 6 * Zone.hour then t - 4 * Zone.hour else t - 5 * Zone.hour
  ofLocal l := if l < 2 * Zone.hour then l + 4 * Zone.hour else l + 5 * Zone.hour

theorem autumnZone_wholeSeconds : autumnZone.WholeSeconds := by
  intro t
  have hlow : 0 ≤ t % Zone.second := Int.emod_nonneg t (by decide)
  have hhigh : t % Zone.second < Zone.second := Int.emod_lt_of_pos t (by decide)
  have hparts := Int.ediv_mul_add_emod t Zone.second
  have hhour : Zone.hour = 3600 * Zone.second := by decide
  by_cases hbefore : t < 6 * Zone.hour
  · refine ⟨t / Zone.second - 4 * 3600, ?_, ?_⟩ <;>
      simp only [autumnZone] <;> split_ifs <;> unfold Zone.second at * <;> omega
  · refine ⟨t / Zone.second - 5 * 3600, ?_, ?_⟩ <;>
      simp only [autumnZone] <;> split_ifs <;> unfold Zone.second at * <;> omega

/-- Two ends of a card: half past one in the hour that is shown twice, and four in the
afternoon; each as a provenance document and as a date. -/
def autumnReader : CardReader where
  loads text :=
    if text = "\x7b\"valid_until\": \"2026-11-01T05:30:00+00:00\"\x7d" then
      .ok (.object [("valid_until", .str "2026-11-01T05:30:00+00:00")])
    else if text = "\x7b\"valid_until\": \"2026-11-01T21:00:00+00:00\"\x7d" then
      .ok (.object [("valid_until", .str "2026-11-01T21:00:00+00:00")])
    else .error "Expecting value: line 1 column 1 (char 0)"
  fromIsoformat text :=
    if text = "2026-11-01T05:30:00+00:00" then some (.aware (11 * (Zone.hour / 2)))
    else if text = "2026-11-01T21:00:00+00:00" then some (.aware (21 * Zone.hour))
    else none

/-- A card with a provenance, issued an hour before the day began in UTC. -/
def autumnCard (provenance : String) : StoredCard where
  timestamp := -Zone.hour
  decisionProvenance := some provenance
  levels := ⟨.long, 100, 98, 106⟩

/-- The card that ends in the repeated hour. -/
def nightCard : StoredCard :=
  autumnCard "\x7b\"valid_until\": \"2026-11-01T05:30:00+00:00\"\x7d"

/-- The card that ends in the afternoon. -/
def afternoonCard : StoredCard :=
  autumnCard "\x7b\"valid_until\": \"2026-11-01T21:00:00+00:00\"\x7d"

/-- The card that ends at half past one has expired at a quarter to two, and at ten past
one, twenty-five minutes later, it has not. -/
theorem expired_card_valid_again :
    ¬ TapAgreesWithSweep autumnReader autumnZone nightCard := by
  rintro ⟨-, hstays⟩
  have hlater := hstays (by decide) (5 * Zone.hour + 45 * Zone.minute)
    (6 * Zone.hour + 10 * Zone.minute) (by decide) (by decide)
  exact absurd hlater (by decide)

theorem tap_and_sweep_agree_iff_afternoon :
    TapAgreesWithSweep autumnReader autumnZone afternoonCard := by
  rw [tap_and_sweep_agree_iff autumnReader autumnZone autumnZone_wholeSeconds]
  rintro validUntil hvalid ⟨t, hreached, hback⟩
  have hend : afternoonCard.validUntil autumnReader = some (21 * Zone.hour) := by decide
  rw [hend] at hvalid
  cases hvalid
  simp only [autumnZone] at hreached hback
  unfold Zone.hour at hreached hback
  split_ifs at hreached hback <;> omega

end AgenticTrader
