import FormulaRuns.Grid.A1
import FormulaRuns.Grid.SheetName

namespace FormulaRuns

structure Address where
  sheet : String
  row : Nat
  col : Nat
  deriving DecidableEq, Repr, Inhabited

namespace Address

instance : Ord Address where
  compare := compareLex (compareOn sheet) (compareLex (compareOn col) (compareOn row))

/-- Anchors in the text are allowed and say nothing about the cell. -/
def ofA1 (sheet text : String) : Except A1Error Address := do
  let cell ← A1.parse text
  return ⟨sheet, cell.row, cell.col⟩

def a1 (cell : Address) : String := A1.print ⟨cell.row, cell.col, false, false⟩

def print (cell : Address) : String := quoteSheet cell.sheet ++ "!" ++ cell.a1

end Address

end FormulaRuns
