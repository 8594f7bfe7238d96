import FormulaRuns.Grid.Reference
import FormulaRuns.Ascending

namespace FormulaRuns

structure ParameterTable where
  references : List Reference
  deriving DecidableEq, Repr

namespace ParameterTable

def ofReferences (references : List Reference) : ParameterTable := ⟨sortDistinct references⟩

def size (table : ParameterTable) : Nat := table.references.length

def isEmpty (table : ParameterTable) : Bool := table.references.isEmpty

def paramFor? (table : ParameterTable) (ref : Reference) : Option Nat :=
  (table.references.idxOf? ref).map (· + 1)

def params (table : ParameterTable) : List Nat := List.range' 1 table.size

end ParameterTable

end FormulaRuns
