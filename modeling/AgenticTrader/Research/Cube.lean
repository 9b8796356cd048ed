import AgenticTrader.Research.Labels

/-!
# The label cube

What a pooled study reads of its cube (`research/pooled/cube.py`): one row for each session of
a window, one column for each symbol of the cohort, and in each cell whether the name was
eligible that day and what became of the bracket that was planned for it.
-/

namespace AgenticTrader

/-- **`CubeView`**, the arrays of a window; `m` is the number of its symbols. Only the rows
below `sessions.length` mean something. -/
structure CubeView (m : ℕ) where
  sessions : List ℤ
  eligible : ℕ → Fin m → Bool
  labelled : ℕ → Fin m → Bool
  rGross : ℕ → Fin m → Option ℚ
  rCost : ℕ → Fin m → Option ℚ
  holding : ℕ → Fin m → ℤ
  hit : ℕ → Fin m → BracketHit
  tiebreak : ℕ → Fin m → ℕ

end AgenticTrader
