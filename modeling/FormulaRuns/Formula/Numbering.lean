import FormulaRuns.Formula.Tree
import FormulaRuns.Text.Escaped

namespace FormulaRuns

/-- A row of the table: a leaf, or a node with the numbers of its children. -/
inductive Row where
  | leaf (lexeme : Lexeme)
  | node (rule : Rule) (children : List Nat)
  deriving DecidableEq, Repr

namespace Tree

/-- The number of a subtree of which the numbers begin at `start`. -/
def idFrom (start : Nat) (tree : Tree) : Nat := start + tree.size - 1

def forestIds (start : Nat) : List Tree → List Nat
  | [] => []
  | tree :: trees => tree.idFrom start :: forestIds (start + tree.size) trees

mutual

def rowsFrom (start : Nat) : Tree → List Row
  | leaf lexeme => [.leaf lexeme]
  | node rule children => forestRows start children ++ [.node rule (forestIds start children)]

def forestRows (start : Nat) : List Tree → List Row
  | [] => []
  | tree :: trees => tree.rowsFrom start ++ forestRows (start + tree.size) trees

end

def rows (tree : Tree) : List Row := tree.rowsFrom 0

def rootId (tree : Tree) : Nat := tree.idFrom 0

mutual

def leafIdsFrom (start : Nat) : Tree → List Nat
  | leaf _ => [start]
  | node _ children => forestLeafIds start children

def forestLeafIds (start : Nat) : List Tree → List Nat
  | [] => []
  | tree :: trees => tree.leafIdsFrom start ++ forestLeafIds (start + tree.size) trees

end

def leafIds (tree : Tree) : List Nat := tree.leafIdsFrom 0

def pickFrom (start : Nat) : List Tree → Nat → Option (Nat × Tree)
  | [], _ => none
  | tree :: _, 0 => some (start, tree)
  | tree :: trees, index + 1 => pickFrom (start + tree.size) trees index

def locateFrom (start : Nat) (tree : Tree) : Path → Option (Nat × Tree)
  | [] => some (start, tree)
  | index :: path =>
    (pickFrom start tree.children index).bind fun (start, child) => child.locateFrom start path

def idAt? (tree : Tree) (path : Path) : Option Nat :=
  (tree.locateFrom 0 path).map fun (start, subtree) => subtree.idFrom start

def kindText : Tree → String
  | leaf lexeme => "Terminal(" ++ lexeme.kind.label ++ ")"
  | node rule _ => "Nonterminal(" ++ rule.label ++ ")"

def describe (id : Nat) (tree : Tree) : String :=
  "NodeRef \x7b id: NodeId(" ++ toString id ++ "), kind: " ++ tree.kindText ++ ", text: " ++
    escaped tree.render ++ " \x7d"

end Tree

end FormulaRuns
