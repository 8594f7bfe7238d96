import FormulaRuns.Expr.Basic
import FormulaRuns.Value.Basic

namespace FormulaRuns

def paramText (index : Nat) : String := "v" ++ String.ofList (Nat.toDigits 10 index)

def closedPrecedence : Nat := 255

namespace Expr

def precedence : Expr → Nat
  | binary op _ _ => op.precedence
  | unary .percent _ => 6
  | unary _ _ => 7
  | lambda _ _ => 0
  | _ => closedPrecedence

def enclosedBelow (least : Nat) (e : Expr) (text : String) : String :=
  if e.precedence < least then "(" ++ text ++ ")" else text

mutual

def print : Expr → String
  | number x => plainLayout.float x
  | text s => textLiteral s
  | bool b => truthText b
  | error kind => kind.spelling
  | cell ref => ref.print
  | param index => paramText index
  | name s => s
  | range first last => print first ++ ":" ++ print last
  | unary .percent operand => operand.enclosedBelow 6 (print operand) ++ "%"
  | unary op operand => op.symbol ++ operand.enclosedBelow 7 (print operand)
  | binary op left right =>
    left.enclosedBelow op.precedence (print left) ++ op.symbol ++
      right.enclosedBelow (op.precedence + 1) (print right)
  | call callee args => callee ++ "(" ++ ", ".intercalate (printList args) ++ ")"
  | array rows => "\x7b" ++ "; ".intercalate (printRows rows) ++ "\x7d"
  | lambda params body =>
    "(" ++ ", ".intercalate (params.map paramText) ++ ") -> " ++ print body

def printList : List Expr → List String
  | [] => []
  | e :: es => print e :: printList es

def printRows : List (List Expr) → List String
  | [] => []
  | row :: rows => ", ".intercalate (printList row) :: printRows rows

end

end Expr

end FormulaRuns
