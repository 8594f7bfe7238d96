import FormulaRuns.Text.Blank

namespace FormulaRuns

inductive ErrorKind where
  | null | ref | name | value | div | na | num | circ
  deriving DecidableEq, Repr

namespace ErrorKind

def all : List ErrorKind := [null, ref, name, value, div, na, num, circ]

def spelling : ErrorKind → String
  | null => "#NULL!"
  | ref => "#REF!"
  | name => "#NAME?"
  | value => "#VALUE!"
  | div => "#DIV/0!"
  | na => "#N/A"
  | num => "#NUM!"
  | circ => "#CIRC!"

def label : ErrorKind → String
  | null => "Null"
  | ref => "Ref"
  | name => "Name"
  | value => "Value"
  | div => "Div"
  | na => "Na"
  | num => "Num"
  | circ => "Circ"

/-- Reads a spelling in any mix of cases, with blanks around it. -/
def parse (text : String) : Option ErrorKind :=
  let word := (trimBlanks text.toList).map Char.toLower
  all.find? fun kind => kind.spelling.toList.map Char.toLower == word

theorem parse_spelling (kind : ErrorKind) : parse kind.spelling = some kind := by
  cases kind <;> decide

end ErrorKind

structure CellError where
  kind : ErrorKind
  message : Option String
  deriving DecidableEq, Repr

namespace CellError

def bare (kind : ErrorKind) : CellError := ⟨kind, none⟩

def explained (kind : ErrorKind) (message : String) : CellError := ⟨kind, some message⟩

def print (error : CellError) : String :=
  match error.message with
  | some message => error.kind.spelling ++ ": " ++ message
  | none => error.kind.spelling

end CellError

end FormulaRuns
