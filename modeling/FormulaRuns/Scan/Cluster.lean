import FormulaRuns.Evaluation.Basic

namespace FormulaRuns

structure Cluster where
  origin : Address
  members : List Address
  role : Role
  skeleton : Skeleton
  references : List Reference

namespace Cluster

def cells (cluster : Cluster) : List Address := cluster.origin :: cluster.members

def cellCount (cluster : Cluster) : Nat := cluster.cells.length

def contains (cluster : Cluster) (cell : Address) : Bool := cluster.cells.contains cell

def table (cluster : Cluster) : ParameterTable := .ofReferences cluster.references

/-- What the rule's parameters stand for in a cell, unless that lies off the grid. -/
def argumentsFor (cluster : Cluster) (cell : Address) : Option (List Reference) :=
  cluster.references.mapM (·.shifted (.between cluster.origin cell))

def ruleIn (cluster : Cluster) (tree : Tree) (sheet : String) : Except Fault Expr := do
  let binding ← cluster.skeleton.bind tree
  tree.ruleOver sheet binding cluster.table

def rule (cluster : Cluster) (source : Source) : Except Fault Expr :=
  match source.formula cluster.origin with
  | none => .error (.noFormula cluster.origin)
  | some text => do
    let formula ← (Formula.parse text).mapError (.parse cluster.origin)
    cluster.ruleIn formula.root cluster.origin.sheet

end Cluster

/-- Clusters by their origins, in ascending order. -/
structure Registry where
  entries : List (Address × Cluster)

namespace Registry

def empty : Registry := ⟨[]⟩

def insert (registry : Registry) (cluster : Cluster) : Registry :=
  ⟨insertEntry cluster.origin cluster registry.entries⟩

def clusters (registry : Registry) : List Cluster := registry.entries.map (·.2)

def get? (registry : Registry) (origin : Address) : Option Cluster :=
  entryAt origin registry.entries

/-- The cluster that a cell belongs to; one of which it is the origin comes first. -/
def clusterFor? (registry : Registry) (cell : Address) : Option Cluster :=
  match registry.get? cell with
  | some cluster => some cluster
  | none => registry.clusters.find? (·.contains cell)

def size (registry : Registry) : Nat := registry.entries.length

def isEmpty (registry : Registry) : Bool := registry.entries.isEmpty

def cellCount (registry : Registry) : Nat := (registry.clusters.flatMap (·.cells)).length

/-- The clusters of `other` replace those with the same origin. -/
def merge (registry other : Registry) : Registry :=
  ⟨other.entries.foldl (fun entries (origin, cluster) => insertEntry origin cluster entries)
    registry.entries⟩

end Registry

end FormulaRuns
