import FormulaRuns.Grid.Column

namespace FormulaRuns

structure A1 where
  row : Nat
  col : Nat
  rowFixed : Bool
  colFixed : Bool
  deriving DecidableEq, Repr

/-- Why a text names no cell; all but the first carry the whole text. -/
inductive A1Error where
  | empty
  | missingColumn (text : String)
  | missingRow (text : String)
  | columnOutOfRange (text : String)
  | rowOutOfRange (text : String)
  | trailingInput (text : String)
  deriving DecidableEq, Repr

def A1Error.message : A1Error → String
  | empty => "empty cell reference"
  | missingColumn text => "missing column letters in '" ++ text ++ "'"
  | missingRow text => "missing row number in '" ++ text ++ "'"
  | columnOutOfRange text => "column in '" ++ text ++ "' exceeds 16384"
  | rowOutOfRange text => "row in '" ++ text ++ "' is 0 or exceeds 1048576"
  | trailingInput text => "unexpected characters in '" ++ text ++ "'"

def takeAnchor : List Char → Bool × List Char
  | '$' :: rest => (true, rest)
  | rest => (false, rest)

def rowDigits (row : Nat) : List Char := Nat.toDigits 10 row

def anchorMark (fixed : Bool) : List Char := if fixed then ['$'] else []

namespace A1

def chars (cell : A1) : List Char :=
  anchorMark cell.colFixed ++ columnName cell.col ++
    anchorMark cell.rowFixed ++ rowDigits cell.row

def print (cell : A1) : String := String.ofList cell.chars

/-- The faults are looked for from left to right, except that a row is judged by its size only
once nothing follows it. -/
def parse (text : String) : Except A1Error A1 :=
  if text.toList = [] then .error .empty
  else
    let (colFixed, afterAnchor) := takeAnchor text.toList
    let letters := afterAnchor.takeWhile Char.isAlpha
    if letters = [] then .error (.missingColumn text)
    else match columnOfLetters letters with
      | none => .error (.columnOutOfRange text)
      | some col =>
        let (rowFixed, afterColumn) := takeAnchor (afterAnchor.dropWhile Char.isAlpha)
        let digits := afterColumn.takeWhile Char.isDigit
        let row := Nat.ofDigitChars 10 digits 0
        if digits = [] then .error (.missingRow text)
        else if afterColumn.dropWhile Char.isDigit ≠ [] then .error (.trailingInput text)
        else if 1 ≤ row ∧ row ≤ lastRow then .ok ⟨row, col, rowFixed, colFixed⟩
        else .error (.rowOutOfRange text)

end A1

end FormulaRuns
