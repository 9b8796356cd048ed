import AgenticTrader.Library.HalfEven
import AgenticTrader.Storage.Db
import Mathlib.Data.Int.Log

/-!
# The position transactions

What happens to a signal once its entry was accepted
(`SignalDatabase.update_signal_execution`, `update_position_stop` and
`close_position`, `storage/db.py`): its fill is synchronised from the broker,
its stop is ratcheted, and it is closed.
-/

namespace AgenticTrader

/-! ## Numbers in a notice -/

/-- The format `.2f`. -/
def formatFixed2 (x : ℚ) : String :=
  let cents := (roundHalfEven (|x| * 100)).toNat
  (if x < 0 then "-" else "") ++ toString (cents / 100) ++ "."
    ++ (if cents % 100 < 10 then "0" else "") ++ toString (cents % 100)

/-- The digits of a fraction, without the zeros at its end. -/
def formatFraction (digits : List Char) : String :=
  let kept := (digits.reverse.dropWhile (· = '0')).reverse
  if kept = [] then "" else "." ++ String.ofList kept

/-- **The format `g`**: six significant digits, with an exponent below `-4` and
from `6` on. -/
def formatGeneral (x : ℚ) : String :=
  if x = 0 then "0"
  else
    let leading := Int.log 10 |x|
    let significand := roundHalfEven (|x| / 10 ^ (leading - 5))
    -- six nines and more round up to a seventh digit
    let carry := significand = 10 ^ 6
    let exponent := if carry then leading + 1 else leading
    let digits := (toString (if carry then 10 ^ 5 else significand)).toList
    let places := exponent.natAbs
    (if x < 0 then "-" else "") ++
      (if exponent < -4 ∨ 6 ≤ exponent then
        String.ofList (digits.take 1) ++ formatFraction (digits.drop 1)
          ++ (if exponent < 0 then "e-" else "e+") ++ (if places < 10 then "0" else "")
          ++ toString places
      else if exponent < 0 then
        "0" ++ formatFraction (List.replicate (places - 1) '0' ++ digits)
      else
        String.ofList (digits.take (places + 1)) ++ formatFraction (digits.drop (places + 1)))

example : [formatFixed2 (-1 / 2), formatGeneral (25 / 2), formatGeneral 1234567,
    formatGeneral (1 / 20), formatGeneral (1 / 100000)]
    = ["-0.50", "12.5", "1.23457e+06", "0.05", "1e-05"] := by decide +kernel

/-! ## Transactions -/

/-- What a fill synchronisation writes. -/
structure ExecutionUpdate where
  brokerOrderId : Option String
  fillPrice : ℚ
  quantity : ℚ
  notionalValue : ℚ
  riskDollars : ℚ
  executedAt : Option Time
  deriving DecidableEq

/-- The statuses a closed position ends in. -/
def SignalStatus.closed : SignalStatus → Bool
  | .closedWin => true
  | .closedLoss => true
  | .closedManual => true
  | _ => false

namespace Db

/-- The synchronised row. -/
def syncFill (u : ExecutionUpdate) (s : Signal) : Signal :=
  { s with
    status := .executed
    brokerOrderId := u.brokerOrderId
    entryPrice := u.fillPrice
    quantity := u.quantity
    notionalValue := some u.notionalValue
    riskDollars := u.riskDollars
    executedAt := if u.executedAt.isSome then u.executedAt else s.executedAt }

/-- `status IN ('PENDING', 'SUBMITTING', 'EXECUTED')`. -/
def syncable (id : SignalId) (s : Signal) : Bool :=
  s.id == id && (s.status == .pending || s.status == .submitting || s.status == .executed)

/-- The notice of an auto entry's first fill. -/
def autoFilledNotice (u : ExecutionUpdate) (s : Signal) : String :=
  let id := s.id
  let contract := s.contract
  let quantity := formatGeneral u.quantity
  let price := formatFixed2 u.fillPrice
  let stop := formatFixed2 s.stopLoss
  let target := formatFixed2 s.takeProfit
  s!"🤖 Auto-entry #{id} {contract} filled {quantity} @ ${price}; stop ${stop}, target ${target}."

/-- **`SignalDatabase.update_signal_execution`**, as fill synchronisation
calls it. -/
def updateSignalExecution (db : Db) (now : Time) (id : SignalId) (u : ExecutionUpdate) : Db :=
  let updated : Db :=
    { db with signals := Table.updateWhere (syncable id) (syncFill u) db.signals }
  match db.signal? id with
  | none => updated
  | some before =>
    if before.executedAt = none ∧ u.executedAt.isSome ∧ syncable id before
        ∧ (db.entryOf? id).any (fun e => e.trigger = .auto) then
      updated.addNotification now s!"signal/{id}/auto-filled"
        (.message (autoFilledNotice u before))
    else updated

/-- A stop the new one tightens. -/
def tightens (id : SignalId) (newStop : ℚ) (s : Signal) : Bool :=
  s.id == id && s.status == .executed
    && (s.direction == .long && decide (s.stopLoss < newStop)
      || s.direction == .short && decide (newStop < s.stopLoss))

/-- **`SignalDatabase.update_position_stop`.** -/
def updatePositionStop (db : Db) (now : Time) (id : SignalId) (newStop : ℚ)
    (notify : Bool) : Db × Bool :=
  let changed := db.signals.any (tightens id newStop)
  let updated : Db :=
    { db with
      signals := Table.updateWhere (tightens id newStop)
        (fun s => { s with stopLoss := newStop }) db.signals }
  (if changed && notify then
      updated.addNotification now s!"signal/{id}/stop/{newStop}" (.stop id newStop)
    else updated, changed)

/-- **`SignalDatabase.close_position`.** -/
def closePosition (db : Db) (now : Time) (id : SignalId) (status : SignalStatus)
    (brokerExitOrderId : Option String) : Db × Bool :=
  let open? : Signal → Bool := fun s => s.id == id && s.status == .executed
  if db.signals.any open? then
    let closed : Db :=
      { db with
        signals := Table.updateWhere open?
          (fun s => { s with status := status, brokerExitOrderId := brokerExitOrderId })
          db.signals }
    let journaled := (closed.append s!"signal/{id}" .positionClosed none
      (some s!"signal/{id}/closed")).1
    (journaled.addNotification now s!"signal/{id}/closed" (.exit id), true)
  else (db, false)

end Db

end AgenticTrader
