import FormulaRuns.Pattern.Compatibility

namespace FormulaRuns

inductive Fault where
  | parse (cell : Address) (error : ParseError)
  | noFormula (cell : Address)
  /-- A tree lacks a reference at a path where a pattern has one. -/
  | binding (path : Path)
  | unknownParameter (ref : Reference)
  /-- A node lacks the child that its rule asks for, or the child is not of the kind asked for. -/
  | malformedTree (rule : Rule) (child : Nat)
  deriving DecidableEq, Repr

def Fault.message : Fault → String
  | parse cell error => "cannot parse formula in " ++ cell.print ++ ": " ++ error.print
  | noFormula cell => cell.print ++ " holds no formula"
  | binding path =>
    "variability pattern does not fit the parse tree at path " ++ Path.print path
  | unknownParameter ref => "no parameter assigned to " ++ ref.print
  | malformedTree rule child =>
    "malformed " ++ rule.label ++ " node at child " ++ String.ofList (Nat.toDigits 10 child)

def startsWithEquals (text : String) : Bool := text.toList.head? == some '='

def checkFormulas (text : String) (origin : Address) (text' : String) (candidate : Address) :
    Except Fault Compatibility := do
  if !startsWithEquals text || !startsWithEquals text' then
    return .incompatible .noFormula
  let formula ← (Formula.parse text).mapError (.parse origin)
  let formula' ← (Formula.parse text').mapError (.parse candidate)
  return checkTrees formula.root origin formula'.root candidate

end FormulaRuns
