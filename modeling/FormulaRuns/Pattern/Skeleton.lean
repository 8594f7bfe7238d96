import FormulaRuns.Pattern.Fault
import FormulaRuns.Formula.Numbering
import FormulaRuns.Ascending

namespace FormulaRuns

/-- `branches` are in ascending order of their child index. -/
inductive Skeleton where
  | node (reference : Option Reference) (branches : List (Nat × Skeleton))
  deriving Repr

abbrev Binding := List (Nat × Reference)

namespace Skeleton

def empty : Skeleton := node none []

def alterBranch (step : Nat) (change : Skeleton → Skeleton) :
    List (Nat × Skeleton) → List (Nat × Skeleton)
  | [] => [(step, change empty)]
  | (other, branch) :: rest =>
    match compare step other with
    | .lt => (step, change empty) :: (other, branch) :: rest
    | .eq => (other, change branch) :: rest
    | .gt => (other, branch) :: alterBranch step change rest

def insert (ref : Reference) : Path → Skeleton → Skeleton
  | [], node _ branches => node (some ref) branches
  | step :: path, node own branches =>
    node own (alterBranch step (fun branch => insert ref path branch) branches)

def ofBindings (bindings : Bindings) : Skeleton :=
  bindings.foldl (fun skeleton (path, ref) => skeleton.insert ref path) empty

mutual

def leaves : Skeleton → Bindings
  | node own branches => own.toList.map (fun ref => ([], ref)) ++ branchLeaves branches

def branchLeaves : List (Nat × Skeleton) → Bindings
  | [] => []
  | (step, branch) :: rest =>
    (leaves branch).map (fun (path, ref) => (step :: path, ref)) ++ branchLeaves rest

end

mutual

def leafCount : Skeleton → Nat
  | node own branches => own.toList.length + branchCount branches

def branchCount : List (Nat × Skeleton) → Nat
  | [] => 0
  | (_, branch) :: rest => leafCount branch + branchCount rest

end

def isEmpty (skeleton : Skeleton) : Bool := skeleton.leafCount == 0

def bindOwn (id : Nat) (tree : Tree) : Option Reference → Except Path Binding
  | none => .ok []
  | some ref => if tree.isCellRef then .ok [(id, ref)] else .error []

mutual

/-- Binds the leaves of a tree of which the numbers begin at `start`; the failure is the path to
the first place that does not fit. -/
def bindFrom (start : Nat) (tree : Tree) : Skeleton → Except Path Binding
  | node own branches => do
    let found ← bindOwn (tree.idFrom start) tree own
    let more ← bindBranches start tree branches
    return found ++ more

def bindBranches (start : Nat) (tree : Tree) : List (Nat × Skeleton) → Except Path Binding
  | [] => .ok []
  | (step, branch) :: rest =>
    match Tree.pickFrom start tree.children step with
    | none => .error [step]
    | some (childStart, child) => do
      let found ← (bindFrom childStart child branch).mapError (step :: ·)
      let more ← bindBranches start tree rest
      return found ++ more

end

/-- The leaves of `tree` that stand where the skeleton has its references. Only the skeleton's own
branches are looked at. -/
def bind (skeleton : Skeleton) (tree : Tree) : Except Fault Binding :=
  (skeleton.bindFrom 0 tree).mapError .binding

end Skeleton

/-- The skeleton of a compatible pair, and its distinct references in the order of parameters. -/
def variability (bindings : Bindings) : Skeleton × List Reference :=
  (.ofBindings bindings, sortDistinct (bindings.map (·.2)))

def Compatibility.bindTo (tree : Tree) : Compatibility → Except Fault (Option Binding)
  | incompatible _ => .ok none
  | compatible bindings => ((variability bindings).1.bind tree).map some

end FormulaRuns
