import FormulaRuns.Text.Doubled

namespace FormulaRuns

def isPlainSheetChar (c : Char) : Bool := c.isAlphanum || c == '_' || c == '.'

def isPlainSheet : List Char → Bool
  | [] => false
  | first :: rest => !first.isDigit && (first :: rest).all isPlainSheetChar

def quoteSheet (name : String) : String :=
  if isPlainSheet name.toList then name else String.ofList (enclose '\'' name.toList)

end FormulaRuns
