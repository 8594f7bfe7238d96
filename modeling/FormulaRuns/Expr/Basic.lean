import FormulaRuns.Grid.Reference
import FormulaRuns.Value.ErrorKind

namespace FormulaRuns

inductive UnaryOp where
  | neg | plus | percent
  deriving DecidableEq, Repr

namespace UnaryOp

def symbol : UnaryOp → String
  | neg => "-"
  | plus => "+"
  | percent => "%"

def ofSymbol? (text : String) : Option UnaryOp :=
  [neg, plus, percent].find? (·.symbol == text)

end UnaryOp

inductive BinaryOp where
  | add | sub | mul | div | pow | concat | eq | ne | lt | le | gt | ge | union
  deriving DecidableEq, Repr

namespace BinaryOp

def all : List BinaryOp := [add, sub, mul, div, pow, concat, eq, ne, lt, le, gt, ge, union]

def symbol : BinaryOp → String
  | add => "+"
  | sub => "-"
  | mul => "*"
  | div => "/"
  | pow => "^"
  | concat => "&"
  | eq => "="
  | ne => "<>"
  | lt => "<"
  | le => "<="
  | gt => ">"
  | ge => ">="
  | union => ","

def ofSymbol? (text : String) : Option BinaryOp := all.find? (·.symbol == text)

def precedence : BinaryOp → Nat
  | union => 8
  | pow => 5
  | mul | div => 4
  | add | sub => 3
  | concat => 2
  | eq | ne | lt | le | gt | ge => 1

def isComparison (op : BinaryOp) : Bool := op.precedence == 1

end BinaryOp

inductive Expr where
  | number (x : Float)
  | text (s : String)
  | bool (b : Bool)
  | error (kind : ErrorKind)
  | cell (ref : Reference)
  | param (index : Nat)
  | name (s : String)
  | range (first last : Expr)
  | unary (op : UnaryOp) (operand : Expr)
  | binary (op : BinaryOp) (left right : Expr)
  | call (callee : String) (args : List Expr)
  | array (rows : List (List Expr))
  | lambda (params : List Nat) (body : Expr)
  deriving Inhabited

namespace Expr

def isLambda : Expr → Bool
  | lambda _ _ => true
  | _ => false

def params : Expr → List Nat
  | lambda params _ => params
  | _ => []

mutual

def subexprs : Expr → List Expr
  | range first last => range first last :: (subexprs first ++ subexprs last)
  | unary op operand => unary op operand :: subexprs operand
  | binary op left right => binary op left right :: (subexprs left ++ subexprs right)
  | call callee args => call callee args :: listSubexprs args
  | array rows => array rows :: rowsSubexprs rows
  | lambda params body => lambda params body :: subexprs body
  | e => [e]

def listSubexprs : List Expr → List Expr
  | [] => []
  | e :: es => subexprs e ++ listSubexprs es

def rowsSubexprs : List (List Expr) → List Expr
  | [] => []
  | row :: rows => listSubexprs row ++ rowsSubexprs rows

end

end Expr

end FormulaRuns
