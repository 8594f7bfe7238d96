import FormulaRuns.Expr.Printer
import FormulaRuns.Pattern.Skeleton
import FormulaRuns.Pattern.Parameters
import FormulaRuns.Decimal.Reading

namespace FormulaRuns

structure Folding where
  binding : Binding
  table : ParameterTable

namespace Folding

def plain : Folding := ⟨[], ⟨[]⟩⟩

def reference (folding : Folding) (id : Nat) (sheet : String) (tree : Tree) : Except Fault Expr :=
  match entryAt id folding.binding with
  | some bound =>
    match folding.table.paramFor? bound with
    | some index => .ok (.param index)
    | none => .error (.unknownParameter bound)
  | none =>
    match tree.reference? sheet with
    | some ref => .ok (.cell ref)
    | none => .ok (.error .ref)

def leaf (folding : Folding) (id : Nat) (sheet : String) (lexeme : Lexeme) : Except Fault Expr :=
  match lexeme.kind with
  | .cellRef => folding.reference id sheet (.leaf lexeme)
  | .number =>
    match readNumber lexeme.text.toList with
    | some x => .ok (.number x)
    | none => .ok (.error .num)
  | .text => .ok (.text (unquoteText lexeme.text))
  | .logical => .ok (.bool (lexeme.text.toList.map Char.toUpper == ['T', 'R', 'U', 'E']))
  | .error => .ok (.error ((ErrorKind.parse lexeme.text).getD .value))
  | _ => .ok (.name lexeme.text)

end Folding

abbrev Part := Tree × Except Fault Expr

def partAt (rule : Rule) (parts : List Part) (index : Nat) : Except Fault Part :=
  match parts[index]? with
  | some part => .ok part
  | none => .error (.malformedTree rule index)

def exprAt (rule : Rule) (parts : List Part) (index : Nat) : Except Fault Expr := do
  (← partAt rule parts index).2

def opAt {α : Type} (ofSymbol? : String → Option α) (rule : Rule) (parts : List Part)
    (index : Nat) : Except Fault α := do
  match ofSymbol? (← partAt rule parts index).1.text with
  | some op => .ok op
  | none => .error (.malformedTree rule index)

def isCallMark (tree : Tree) : Bool :=
  match tree.kind? with
  | some .argSep | some .closeParen | some .openParen => true
  | _ => false

def argsOf : List Part → Except Fault (List Expr)
  | [] => .ok []
  | (tree, read) :: parts =>
    if isCallMark tree then argsOf parts
    else do
      let arg ← read
      return arg :: (← argsOf parts)

def addToFirstRow (item : Expr) : List (List Expr) → List (List Expr)
  | [] => [[item]]
  | row :: rows => (item :: row) :: rows

/-- The rows of an array; there is always one. -/
def rowsOf : List Part → Except Fault (List (List Expr))
  | [] => .ok [[]]
  | (tree, read) :: parts =>
    match tree.kind? with
    | some .rowSep => return [] :: (← rowsOf parts)
    | some .openBrace | some .closeBrace | some .argSep => rowsOf parts
    | _ => do
      let item ← read
      return addToFirstRow item (← rowsOf parts)

def assemble (rule : Rule) (parts : List Part) : Except Fault Expr :=
  match rule with
  | .formula | .paren => exprAt rule parts 1
  | .sheetRef => exprAt rule parts 2
  | .range => do
    let first ← exprAt rule parts 0
    return .range first (← exprAt rule parts 2)
  | .prefixed => do
    let op ← opAt UnaryOp.ofSymbol? rule parts 0
    return .unary op (← exprAt rule parts 1)
  | .postfixed => return .unary .percent (← exprAt rule parts 0)
  | .binary => do
    let op ← opAt BinaryOp.ofSymbol? rule parts 1
    let left ← exprAt rule parts 0
    return .binary op left (← exprAt rule parts 2)
  | .call => do
    let callee ← partAt rule parts 0
    return .call (String.ofList (callee.1.text.toList.map Char.toUpper)) (← argsOf (parts.drop 2))
  | .array => return .array (← rowsOf parts)

namespace Tree

mutual

def toExpr (folding : Folding) (start : Nat) (sheet : String) : Tree → Except Fault Expr
  | leaf lexeme => folding.leaf start sheet lexeme
  | node rule children =>
    assemble rule (forestParts folding start ((node rule children).scope sheet) children)

def forestParts (folding : Folding) (start : Nat) (sheet : String) : List Tree → List Part
  | [] => []
  | tree :: trees =>
    (tree, toExpr folding start sheet tree) ::
      forestParts folding (start + tree.size) sheet trees

end

def plainExpr (tree : Tree) (sheet : String) : Except Fault Expr := tree.toExpr .plain 0 sheet

/-- The rule of a tree over the parameters of `table`; without parameters it is no lambda. -/
def ruleOver (tree : Tree) (sheet : String) (binding : Binding) (table : ParameterTable) :
    Except Fault Expr := do
  let body ← tree.toExpr ⟨binding, table⟩ 0 sheet
  return if table.isEmpty then body else .lambda table.params body

def ruleOf (tree : Tree) (sheet : String) (binding : Binding) : Except Fault Expr :=
  if binding.isEmpty then tree.plainExpr sheet
  else tree.ruleOver sheet binding (.ofReferences (binding.map (·.2)))

end Tree

end FormulaRuns
