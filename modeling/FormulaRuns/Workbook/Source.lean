import FormulaRuns.Value.Basic
import FormulaRuns.Grid.Address

namespace FormulaRuns

/-- The part a cell plays in an optimization model. Only cells of one role are compared. -/
inductive Role where
  | parameter | decision | objective | constraint | type
  deriving DecidableEq, Repr

namespace Role

def all : List Role := [parameter, decision, objective, constraint, type]

def label : Role → String
  | parameter => "parameter"
  | decision => "variable"
  | objective => "objective"
  | constraint => "constraint"
  | type => "type"

def ofLabel? (text : String) : Option Role := all.find? (·.label == text)

end Role

structure Source where
  role : Address → Option Role
  value : Address → Value
  /-- The last row and the last column in use on a sheet, if the sheet is known. -/
  extent : String → Option (Nat × Nat)
  formula : Address → Option String := fun cell => (value cell).formula?
  -- A source may look its formulas up in a way of its own, but they are the texts of its values.
  formula_agrees : ∀ cell, formula cell = (value cell).formula?

end FormulaRuns
