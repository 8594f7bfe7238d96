import FormulaRuns.Pattern.Occurrence
import FormulaRuns.Formula.Parser

/-!
When one formula is another one dragged to a new cell: the trees agree leaf by leaf, and each
reference has moved by the distance between the cells on its free axes and stayed put on its fixed
ones. What two compatible formulas have in common is kept as the list of the first one's variable
references.
-/
namespace FormulaRuns

abbrev Bindings := List (Path × Reference)

/-- The first place, in reading order, at which two formulas differ. -/
inductive Mismatch where
  | noFormula
  | shape (path : Path)
  | reference (path : Path)
  deriving DecidableEq, Repr

def Path.print (path : Path) : String :=
  "[" ++ ", ".intercalate (path.map fun step => String.ofList (Nat.toDigits 10 step)) ++ "]"

namespace Mismatch

def path? : Mismatch → Option Path
  | noFormula => none
  | shape path => some path
  | reference path => some path

def under (index : Nat) : Mismatch → Mismatch
  | noFormula => noFormula
  | shape path => shape (index :: path)
  | reference path => reference (index :: path)

def print : Mismatch → String
  | noFormula => "no formula"
  | shape path => "structure differs at " ++ Path.print path
  | reference path => "reference differs at " ++ Path.print path

end Mismatch

inductive Compatibility where
  | incompatible (mismatch : Mismatch)
  | compatible (bindings : Bindings)
  deriving DecidableEq, Repr

namespace Compatibility

def isCompatible : Compatibility → Bool
  | compatible _ => true
  | incompatible _ => false

def bindings? : Compatibility → Option Bindings
  | compatible bindings => some bindings
  | incompatible _ => none

end Compatibility

def axisMoved (fixed : Bool) (before after : Nat) (delta : Int) : Bool :=
  if fixed then before == after else (after : Int) - before == delta

/-- A drag changes neither the sheet nor the anchors. -/
def Reference.movedBy (distance : Distance) (before after : Reference) : Bool :=
  before.sheet == after.sheet && before.colFixed == after.colFixed &&
    before.rowFixed == after.rowFixed &&
    axisMoved before.colFixed before.col after.col distance.cols &&
    axisMoved before.rowFixed before.row after.row distance.rows

namespace Tree

def compareReferences (distance : Distance) :
    Option Reference → Option Reference → Except Mismatch Bindings
  | some before, some after =>
    if before.movedBy distance after then .ok (if before.isVariable then [([], before)] else [])
    else .error (.reference [])
  | _, _ => .error (.reference [])

mutual

/-- Walks two trees in step; `sheet` and `sheet'` are the sheets of references in them. -/
def compareWith (distance : Distance) (sheet sheet' : String) :
    Tree → Tree → Except Mismatch Bindings
  | leaf before, leaf after =>
    if before.kind ≠ after.kind then .error (.shape [])
    else if before.kind = .cellRef then
      compareReferences distance ((leaf before).reference? sheet) ((leaf after).reference? sheet')
    else if before.text = after.text then .ok []
    else .error (.shape [])
  | node rule before, node rule' after =>
    if rule ≠ rule' ∨ before.length ≠ after.length then .error (.shape [])
    else
      compareForests distance ((node rule before).scope sheet) ((node rule' after).scope sheet') 0
        before after
  | _, _ => .error (.shape [])

def compareForests (distance : Distance) (sheet sheet' : String) (index : Nat) :
    List Tree → List Tree → Except Mismatch Bindings
  | before :: befores, after :: afters =>
    match compareWith distance sheet sheet' before after with
    | .error mismatch => .error (mismatch.under index)
    | .ok found =>
      (compareForests distance sheet sheet' (index + 1) befores afters).map
        (found.map (fun (path, ref) => (index :: path, ref)) ++ ·)
  | _, _ => .ok []

end

end Tree

def checkTrees (tree : Tree) (origin : Address) (tree' : Tree) (candidate : Address) :
    Compatibility :=
  match tree.compareWith (.between origin candidate) origin.sheet candidate.sheet tree' with
  | .ok bindings => .compatible bindings
  | .error mismatch => .incompatible mismatch

end FormulaRuns
