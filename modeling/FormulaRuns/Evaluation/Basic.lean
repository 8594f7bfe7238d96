import FormulaRuns.Evaluation.Functions
import FormulaRuns.Expr.OfTree
import FormulaRuns.Workbook.Source

/-!
The value of an expression and of a cell. A cell that is read is evaluated in its turn, two levels
further down and without the parameters of the reader, until the levels are used up; so a formula
that reads itself ends in an error.
-/
namespace FormulaRuns

abbrev Parameters := Nat → Option Reference

/-- Of two arguments for one parameter the last counts. -/
def Parameters.ofArguments (params : List Nat) (args : List Reference) : Parameters :=
  fun index => (params.zip args).reverse.lookup index

def Parameters.none : Parameters := fun _ => .none

namespace Expr

def reference? (parameters : Parameters) : Expr → Option Reference
  | cell ref => some ref
  | param index => parameters index
  | _ => none

def rectangle (first last : Reference) : List (List Address) :=
  let span (a b : Nat) := List.range' (min a b) (max a b - min a b + 1)
  (span first.row last.row).map fun row =>
    (span first.col last.col).map fun col => ⟨first.sheet, row, col⟩

def rangeValue (read : Address → Value) (first last : Option Reference) : Value :=
  match first, last with
  | some first, some last =>
    if first.sheet = last.sheet then .array ((rectangle first last).map (·.map read))
    else .explained .ref "range spans sheets"
  | _, _ => .explained .ref "range endpoints must be cells"

mutual

def evalWith (read : Address → Value) (parameters : Parameters) : Expr → Value
  | number x => .number x
  | text s => .text s
  | bool b => .boolean b
  | error kind => .bare kind
  | cell ref => read ref.address
  | param index =>
    match parameters index with
    | some ref => read ref.address
    | none => .explained .name "unbound parameter"
  | name s => .explained .name s
  | range first last => rangeValue read (first.reference? parameters) (last.reference? parameters)
  | unary op operand => op.apply (evalWith read parameters operand)
  | binary op left right =>
    op.apply (evalWith read parameters left) (evalWith read parameters right)
  | call callee args => callFunction callee (argumentsWith read parameters args)
  | array rows => .array (rowsWith read parameters rows)
  | lambda _ _ => .explained .value "lambda used as value"

def argumentsWith (read : Address → Value) (parameters : Parameters) : List Expr → List Argument
  | [] => []
  | e :: es => (fun _ => evalWith read parameters e) :: argumentsWith read parameters es

def valuesWith (read : Address → Value) (parameters : Parameters) : List Expr → List Value
  | [] => []
  | e :: es => evalWith read parameters e :: valuesWith read parameters es

def rowsWith (read : Address → Value) (parameters : Parameters) :
    List (List Expr) → List (List Value)
  | [] => []
  | row :: rows => valuesWith read parameters row :: rowsWith read parameters rows

end

end Expr

/-- A cell that cannot be read has the fault's text for an error. -/
def Value.ofReading : Except Fault Value → Value
  | .ok v => v
  | .error fault => .explained .name fault.message

namespace Source

def cellExpr (cell : Address) (text : String) : Except Fault Expr := do
  let formula ← (Formula.parse text).mapError (.parse cell)
  formula.root.plainExpr cell.sheet

def cellValue (source : Source) (evaluate : Expr → Value) (cell : Address) : Except Fault Value :=
  match (source.value cell).formula? with
  | some text => (cellExpr cell text).map evaluate
  | none => .ok (source.value cell)

/-- The value of a cell with a number of levels left; its formula takes one, and what the formula
reads another. -/
def valueAt (source : Source) : Nat → Address → Except Fault Value
  | levels + 2, cell =>
    let read := fun cell => Value.ofReading (source.valueAt levels cell)
    source.cellValue (Expr.evalWith read .none) cell
  | _, cell => source.cellValue (fun _ => .bare .circ) cell

def evaluateAt (source : Source) (levels : Nat) (parameters : Parameters) (e : Expr) : Value :=
  match levels with
  | 0 => .bare .circ
  | levels + 1 =>
    Expr.evalWith (fun cell => .ofReading (source.valueAt levels cell)) parameters e

/-- A lambda's value for its arguments, one level down. What is no lambda takes no arguments. -/
def applyAt (source : Source) (levels : Nat) (function : Expr) (args : List Reference) : Value :=
  match function with
  | .lambda params body =>
    if params.length = args.length then
      source.evaluateAt (levels - 1) (.ofArguments params args) body
    else .explained .value "wrong number of arguments"
  | e =>
    if args = [] then source.evaluateAt levels .none e
    else .explained .value "not a lambda"

def fullLevels : Nat := 65

def evaluateCell (source : Source) (cell : Address) : Except Fault Value :=
  source.valueAt fullLevels cell

def evaluate (source : Source) (e : Expr) : Value := source.evaluateAt fullLevels .none e

def apply (source : Source) (function : Expr) (args : List Reference) : Value :=
  source.applyAt fullLevels function args

end Source

end FormulaRuns
