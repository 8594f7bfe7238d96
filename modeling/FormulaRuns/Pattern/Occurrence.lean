import FormulaRuns.Formula.Tree
import FormulaRuns.Grid.Reference

namespace FormulaRuns

namespace Tree

/-- The sheet that references below a tree are on, if those around it are on `sheet`. -/
def scope (sheet : String) : Tree → String
  | node .sheetRef (first :: _) => unquoteSheet first.text
  | _ => sheet

def reference? (sheet : String) (tree : Tree) : Option Reference :=
  if tree.isCellRef then (Reference.ofA1 sheet tree.text).toOption else none

mutual

def references (sheet : String) : Tree → List (Path × Reference)
  | leaf lexeme => ((leaf lexeme).reference? sheet).toList.map fun ref => ([], ref)
  | node rule children => forestReferences ((node rule children).scope sheet) 0 children

/-- The references in trees that are the children of a node from `index` on. -/
def forestReferences (sheet : String) (index : Nat) : List Tree → List (Path × Reference)
  | [] => []
  | tree :: trees =>
    (tree.references sheet).map (fun (path, ref) => (index :: path, ref)) ++
      forestReferences sheet (index + 1) trees

end

end Tree

end FormulaRuns
