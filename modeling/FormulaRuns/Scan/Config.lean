import FormulaRuns.Grid.Address

namespace FormulaRuns

/-- Cells are taken line by line; a line is a column, from top to bottom, or a row, from left to
right. -/
inductive ScanOrder where
  | columnMajor | rowMajor
  deriving DecidableEq, Repr

def ScanOrder.label : ScanOrder → String
  | columnMajor => "column-major"
  | rowMajor => "row-major"

def ScanOrder.ofLabel? (text : String) : Option ScanOrder :=
  [columnMajor, rowMajor].find? (·.label == text)

structure ScanConfig where
  order : ScanOrder
  /-- The last row and column, in place of those in use on the sheet. -/
  bounds : Option (Nat × Nat)
  firstRow : Nat
  firstCol : Nat
  deriving DecidableEq, Repr

inductive ConfigError where
  | zeroStart (row col : Nat)
  | zeroBounds (rows cols : Nat)
  deriving DecidableEq, Repr

def ConfigError.message : ConfigError → String
  | zeroStart row col =>
    "invalid scan config: start indices are 1-based, got row " ++ toString row ++ " col " ++
      toString col
  | zeroBounds rows cols =>
    "invalid scan config: bounds must be positive, got " ++ toString rows ++ "x" ++ toString cols

namespace ScanConfig

def standard : ScanConfig := ⟨.columnMajor, none, 1, 1⟩

def validate (config : ScanConfig) : Except ConfigError Unit :=
  if config.firstRow = 0 ∨ config.firstCol = 0 then
    .error (.zeroStart config.firstRow config.firstCol)
  else match config.bounds with
    | some (rows, cols) => if rows = 0 ∨ cols = 0 then .error (.zeroBounds rows cols) else .ok ()
    | none => .ok ()

def interval (first last : Nat) : List Nat := List.range' first (last + 1 - first)

def lines (config : ScanConfig) (sheet : String) (rows cols : Nat) : List (List Address) :=
  let rowRange := interval config.firstRow rows
  let colRange := interval config.firstCol cols
  match config.order with
  | .columnMajor => colRange.map fun col => rowRange.map fun row => ⟨sheet, row, col⟩
  | .rowMajor => rowRange.map fun row => colRange.map fun col => ⟨sheet, row, col⟩

end ScanConfig

end FormulaRuns
