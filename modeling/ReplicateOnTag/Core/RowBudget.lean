import Mathlib.Order.Basic
import Mathlib.Data.Nat.Basic

/-! Division of the journal row cap between the lookback tail and the rows
above the watermark. -/
namespace ReplicateOnTag.RowBudget

/-- `MIN_JOURNAL_READ_ROW_CAP`. -/
def minJournalReadRowCap : Nat := 2

/-- `MIN_NEW_ROW_BUDGET`. -/
def minNewRowBudget : Nat := 1

/-- `floor(row_cap * TAIL_ROW_BUDGET_FRACTION)` for a fraction of four fifths. -/
def tailShare (rowCap : Nat) : Nat := rowCap * 4 / 5

structure Split where
  tailAllowance : Nat
  newRowBudget : Nat
  deriving DecidableEq

def splitRowBudget (rowCap tailRows : Nat) : Split :=
  let tailAllowance := min tailRows (tailShare rowCap)
  ⟨tailAllowance, max minNewRowBudget (rowCap - tailAllowance)⟩

/-- Both shares together stay within the cap and leave a row to advance on. -/
theorem splitRowBudget_bounds (positive : 0 < rowCap) :
    (splitRowBudget rowCap tailRows).tailAllowance + (splitRowBudget rowCap tailRows).newRowBudget ≤
        rowCap ∧
      0 < (splitRowBudget rowCap tailRows).newRowBudget := by
  simp only [splitRowBudget, tailShare, minNewRowBudget]
  omega

end ReplicateOnTag.RowBudget
