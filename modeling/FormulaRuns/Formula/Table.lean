import FormulaRuns.Formula.Numbering

namespace FormulaRuns

structure Table where
  rows : Array Row
  root : Nat
  deriving Repr

namespace Table

def size (table : Table) : Nat := table.rows.size

def children (table : Table) (id : Nat) : List Nat :=
  match table.rows[id]? with
  | some (.node _ children) => children
  | _ => []

def childAt? (table : Table) (id index : Nat) : Option Nat := (table.children id)[index]?

def isCellRef (table : Table) (id : Nat) : Bool :=
  match table.rows[id]? with
  | some (.leaf lexeme) => lexeme.kind == .cellRef
  | _ => false

def idAt? (table : Table) (path : Path) : Option Nat := path.foldlM table.childAt? table.root

/-- The numbers of the leaves below a row, from left to right. A row is written after its children;
a number that is not below the row's own leads nowhere. -/
def leafIdsFrom (table : Table) (id : Nat) : List Nat :=
  match table.rows[id]? with
  | none => []
  | some (.leaf _) => [id]
  | some (.node _ children) =>
    children.flatMap fun child => if _ : child < id then table.leafIdsFrom child else []
termination_by id

def leafIds (table : Table) : List Nat := table.leafIdsFrom table.root

def renderFrom (table : Table) (id : Nat) : String :=
  match table.rows[id]? with
  | none => ""
  | some (.leaf lexeme) => lexeme.text
  | some (.node _ children) =>
    String.join (children.map fun child => if _ : child < id then table.renderFrom child else "")
termination_by id

def render (table : Table) : String := table.renderFrom table.root

end Table

end FormulaRuns
