import FormulaRuns.Workbook.Source
import FormulaRuns.Ascending
import FormulaRuns.Text.Escaped

namespace FormulaRuns

structure Workbook where
  sheets : List String
  values : List (Address × Value)
  roles : List (Address × Role)
  formulaRole : Option Role

structure BadReference where
  text : String
  error : A1Error
  deriving DecidableEq, Repr

def BadReference.message (bad : BadReference) : String :=
  "bad A1 reference " ++ escaped bad.text ++ ": " ++ bad.error.message

def placeAt (sheet text : String) : Except BadReference Address :=
  (Address.ofA1 sheet text).mapError fun error => ⟨text, error⟩

namespace Workbook

def empty : Workbook := ⟨[], [], [], none⟩

def addSheet (book : Workbook) (sheet : String) : Workbook :=
  { book with sheets := insertDistinct sheet book.sheets }

def setValue (book : Workbook) (cell : Address) (value : Value) : Workbook :=
  { book.addSheet cell.sheet with values := (cell, value) :: book.values }

def setFormula (book : Workbook) (cell : Address) (formula : String) : Workbook :=
  let text := if formula.toList.head? = some '=' then formula else "=" ++ formula
  book.setValue cell (.text text)

/-- A role alone makes no sheet known. -/
def setRole (book : Workbook) (cell : Address) (role : Role) : Workbook :=
  { book with roles := (cell, role) :: book.roles }

def setFormulaRole (book : Workbook) (role : Role) : Workbook :=
  { book with formulaRole := some role }

/-- Coordinates are 32-bit words. -/
def wrapCoordinate (n : Nat) : Nat := n % Nat.pow 2 32

def rowCells (corner : Address) (down : Nat) (row : List Value) : List (Address × Value) :=
  row.zipIdx.map fun (value, across) =>
    (⟨corner.sheet, wrapCoordinate (corner.row + down), wrapCoordinate (corner.col + across)⟩, value)

def setBlock (book : Workbook) (corner : Address) (rows : List (List Value)) : Workbook :=
  let cells := rows.zipIdx.flatMap fun (row, down) => rowCells corner down row
  { book.addSheet corner.sheet with values := cells.reverse ++ book.values }

def value (book : Workbook) (cell : Address) : Value := (book.values.lookup cell).getD .empty

def role (book : Workbook) (cell : Address) : Option Role :=
  match book.roles.lookup cell with
  | some role => some role
  | none => if (book.value cell).isFormula then book.formulaRole else none

def cellsOn (book : Workbook) (sheet : String) : List Address :=
  (book.values.map (·.1)).filter (·.sheet == sheet)

def extent (book : Workbook) (sheet : String) : Option (Nat × Nat) :=
  if sheet ∈ book.sheets then
    let cells := book.cellsOn sheet
    some ((cells.map (·.row)).foldl max 0, (cells.map (·.col)).foldl max 0)
  else none

def source (book : Workbook) : Source where
  role := book.role
  value := book.value
  extent := book.extent
  formula_agrees _ := rfl

end Workbook

end FormulaRuns
