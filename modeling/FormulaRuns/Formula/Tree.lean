import FormulaRuns.Formula.Token

namespace FormulaRuns

inductive Rule where
  | formula | binary | prefixed | postfixed | paren | call | range | sheetRef | array
  deriving DecidableEq, Repr

def Rule.label : Rule → String
  | formula => "Formula"
  | binary => "Binary"
  | prefixed => "Prefix"
  | postfixed => "Postfix"
  | paren => "Paren"
  | call => "Call"
  | range => "Range"
  | sheetRef => "SheetRef"
  | array => "Array"

inductive Tree where
  -- Where a piece stands in the text is known of its token, and not asked of the tree.
  | leaf (lexeme : Lexeme)
  | node (rule : Rule) (children : List Tree)
  deriving Repr

abbrev Path := List Nat

namespace Tree

def children : Tree → List Tree
  | leaf _ => []
  | node _ children => children

def rule? : Tree → Option Rule
  | leaf _ => none
  | node rule _ => some rule

def lexeme? : Tree → Option Lexeme
  | leaf lexeme => some lexeme
  | node _ _ => none

def kind? (tree : Tree) : Option TokenKind := tree.lexeme?.map (·.kind)

def text : Tree → String
  | leaf lexeme => lexeme.text
  | node _ _ => ""

def isCellRef (tree : Tree) : Bool := tree.kind? == some .cellRef

def subtreeAt (tree : Tree) : Path → Option Tree
  | [] => some tree
  | index :: path => tree.children[index]?.bind (·.subtreeAt path)

mutual

def leaves : Tree → List Lexeme
  | leaf lexeme => [lexeme]
  | node _ children => forestLeaves children

def forestLeaves : List Tree → List Lexeme
  | [] => []
  | tree :: trees => tree.leaves ++ forestLeaves trees

end

mutual

def size : Tree → Nat
  | leaf _ => 1
  | node _ children => forestSize children + 1

def forestSize : List Tree → Nat
  | [] => 0
  | tree :: trees => tree.size + forestSize trees

end

def render (tree : Tree) : String := String.join (tree.leaves.map (·.text))

end Tree

end FormulaRuns
