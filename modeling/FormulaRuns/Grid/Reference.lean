import FormulaRuns.Grid.Distance

namespace FormulaRuns

structure Reference where
  sheet : String
  row : Nat
  col : Nat
  rowFixed : Bool
  colFixed : Bool
  deriving DecidableEq, Repr, Inhabited

/-- An axis after a move, if it stays on the grid. The sum is taken as a signed 64-bit word. -/
def shiftAxis (value : Nat) (delta : Int) (last : Nat) : Option Nat :=
  let moved := Int.bmod (value + delta) (Nat.pow 2 64)
  if 1 ≤ moved ∧ moved ≤ last then some moved.toNat else none

namespace Reference

instance : Ord Reference where
  compare := compareLex (compareOn sheet) <| compareLex (compareOn col) <|
    compareLex (compareOn row) <| compareLex (compareOn colFixed) (compareOn rowFixed)

def ofA1 (sheet text : String) : Except A1Error Reference := do
  let cell ← A1.parse text
  return ⟨sheet, cell.row, cell.col, cell.rowFixed, cell.colFixed⟩

def isFullyFixed (ref : Reference) : Bool := ref.rowFixed && ref.colFixed

/-- Some axis follows the formula when it is dragged. -/
def isVariable (ref : Reference) : Bool := !ref.isFullyFixed

def address (ref : Reference) : Address := ⟨ref.sheet, ref.row, ref.col⟩

def shifted (ref : Reference) (distance : Distance) : Option Reference := do
  let row ← if ref.rowFixed then some ref.row else shiftAxis ref.row distance.rows lastRow
  let col ← if ref.colFixed then some ref.col else shiftAxis ref.col distance.cols lastColumn
  return { ref with row := row, col := col }

def a1 (ref : Reference) : String := A1.print ⟨ref.row, ref.col, ref.rowFixed, ref.colFixed⟩

def print (ref : Reference) : String := quoteSheet ref.sheet ++ "!" ++ ref.a1

end Reference

end FormulaRuns
