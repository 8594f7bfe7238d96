namespace FormulaRuns

def doubleMarks (mark : Char) : List Char → List Char
  | [] => []
  | c :: rest => if c = mark then mark :: mark :: doubleMarks mark rest else c :: doubleMarks mark rest

/-- Reads pairs of marks from the left; a mark without a partner stays. -/
def halveMarks (mark : Char) : List Char → List Char
  | [] => []
  | [c] => [c]
  | c :: d :: rest =>
    if c = mark ∧ d = mark then mark :: halveMarks mark rest else c :: halveMarks mark (d :: rest)

def enclose (mark : Char) (text : List Char) : List Char :=
  mark :: (doubleMarks mark text ++ [mark])

/-- Text that does not both start and end with a mark of its own is left as it is. -/
def disclose (mark : Char) : List Char → List Char
  | [] => []
  | c :: rest =>
    if c = mark ∧ rest.getLast? = some mark then halveMarks mark rest.dropLast else c :: rest

def textLiteral (text : String) : String := String.ofList (enclose '"' text.toList)

def unquoteText (raw : String) : String := String.ofList (disclose '"' raw.toList)

def unquoteSheet (raw : String) : String := String.ofList (disclose '\'' raw.toList)

end FormulaRuns
