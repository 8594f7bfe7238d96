import FormulaRuns.Value.ErrorKind
import FormulaRuns.Decimal.Layout
import FormulaRuns.Text.Escaped

namespace FormulaRuns

inductive Value where
  | int (n : Int)
  | number (x : Float)
  | text (s : String)
  | boolean (b : Bool)
  | array (rows : List (List Value))
  | empty
  | error (e : CellError)
  deriving Inhabited

def truthText (b : Bool) : String := if b then "TRUE" else "FALSE"

namespace Value

mutual

def print : Value → String
  | int n => intText n
  | number x => plainLayout.float x
  | text s => s
  | boolean b => truthText b
  | array rows => "\x7b" ++ ";".intercalate (printRows rows) ++ "\x7d"
  | empty => ""
  | error e => e.print

def printRows : List (List Value) → List String
  | [] => []
  | row :: rows => ",".intercalate (printRow row) :: printRows rows

def printRow : List Value → List String
  | [] => []
  | item :: items => item.print :: printRow items

end

def structuralError (e : CellError) : String :=
  let message := match e.message with
    | some message => "Some(" ++ escaped message ++ ")"
    | none => "None"
  "Error(ExcelError \x7b kind: " ++ e.kind.label ++ ", message: " ++ message ++ " \x7d)"

mutual

/-- The text that shows the make-up of a value, as it appears when an array is joined to a text. -/
def structural : Value → String
  | int n => "Int(" ++ intText n ++ ")"
  | number x => "Number(" ++ structuralLayout.float x ++ ")"
  | text s => "Text(" ++ escaped s ++ ")"
  | boolean b => "Boolean(" ++ (if b then "true" else "false") ++ ")"
  | array rows => "Array([" ++ ", ".intercalate (structuralRows rows) ++ "])"
  | empty => "Empty"
  | error e => structuralError e

def structuralRows : List (List Value) → List String
  | [] => []
  | row :: rows => ("[" ++ ", ".intercalate (structuralRow row) ++ "]") :: structuralRows rows

def structuralRow : List Value → List String
  | [] => []
  | item :: items => item.structural :: structuralRow items

end

def formula? : Value → Option String
  | text s => if s.toList.head? = some '=' then some s else none
  | _ => none

def isFormula (v : Value) : Bool := v.formula?.isSome

def isEmpty : Value → Bool
  | empty => true
  | text s => s == ""
  | _ => false

def isError (kind : ErrorKind) : Value → Bool
  | error e => e.kind == kind
  | _ => false

def truthNumber (b : Bool) : Float := if b then 1.0 else 0.0

def number? : Value → Option Float
  | int n => some (Float.ofInt n)
  | number x => some x
  | boolean b => some (truthNumber b)
  | _ => none

/-- An array counts as true when it has a row. -/
def isTruthy : Value → Bool
  | boolean b => b
  | int n => n != 0
  | number x => x != 0.0
  | text s => s != ""
  | array rows => !rows.isEmpty
  | error _ => false
  | empty => false

end Value

end FormulaRuns
