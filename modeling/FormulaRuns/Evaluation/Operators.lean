import FormulaRuns.Expr.Basic
import FormulaRuns.Value.Basic
import FormulaRuns.Decimal.Reading
import FormulaRuns.Text.Lowercase

namespace FormulaRuns

namespace Value

def bare (kind : ErrorKind) : Value := error (.bare kind)

def explained (kind : ErrorKind) (message : String) : Value := error (.explained kind message)

def ofExcept : Except CellError Value → Value
  | .ok v => v
  | .error e => error e

def toNumber : Value → Except CellError Float
  | number x => .ok x
  | int n => .ok (Float.ofInt n)
  | boolean b => .ok (truthNumber b)
  | text s =>
    match readNumber (trimBlanks s.toList) with
    | some x => .ok x
    | none => .error (.explained .value ("Cannot convert '" ++ s ++ "' to number"))
  | empty => .ok 0.0
  | error e => .error e
  | array _ => .error (.bare .value)

def toText : Value → String
  | array rows => (array rows).structural
  | v => v.print

end Value

def UnaryOp.apply (op : UnaryOp) (v : Value) : Value :=
  .ofExcept do
    let x ← v.toNumber
    return .number <| match op with
      | neg => -x
      | plus => x
      | percent => x / 100.0

def wholePart (x : Float) : Float := if x < 0.0 then x.ceil else x.floor

def isFractional (x : Float) : Bool := x - wholePart x != 0.0

def finiteNumber (x : Float) : Value := if x.isFinite then .number x else .bare .num

namespace BinaryOp

def arithmetic (op : BinaryOp) (a b : Float) : Value :=
  match op with
  | add => finiteNumber (a + b)
  | sub => finiteNumber (a - b)
  | mul => finiteNumber (a * b)
  | div => if b == 0.0 then .bare .div else finiteNumber (a / b)
  | pow => if a < 0.0 && isFractional b then .bare .num else finiteNumber (a.pow b)
  | _ => .explained .value ("operator " ++ op.symbol)

/-- A number that cannot be compared counts as equal. -/
def compareFloats (a b : Float) : Ordering :=
  if a < b then .lt else if b < a then .gt else .eq

/-- Numbers come before texts and texts before truth values; an empty cell is an empty text beside
a text, and zero elsewhere. -/
def order (left right : Value) : Except CellError Ordering :=
  match left, right with
  | .text a, .text b => .ok (compare (lowercase a) (lowercase b))
  | .empty, .text s => .ok (if s = "" then .eq else .lt)
  | .text s, .empty => .ok (if s = "" then .eq else .gt)
  | .text _, .number _ | .text _, .int _ | .boolean _, .text _ => .ok .gt
  | .number _, .text _ | .int _, .text _ | .text _, .boolean _ => .ok .lt
  | left, right => do
    let a ← left.toNumber
    let b ← right.toNumber
    return compareFloats a b

def holds (op : BinaryOp) (ordering : Ordering) : Bool :=
  match op with
  | eq => ordering.isEq
  | ne => ordering.isNe
  | lt => ordering.isLT
  | le => ordering.isLE
  | gt => ordering.isGT
  | ge => ordering.isGE
  | _ => false

def apply (op : BinaryOp) (left right : Value) : Value :=
  if op.isComparison ∨ op = concat then
    match left, right with
    | .error e, _ => .error e
    | _, .error e => .error e
    | left, right =>
      if op = concat then .text (left.toText ++ right.toText)
      else .ofExcept do return .boolean (op.holds (← order left right))
  else
    .ofExcept do
      let a ← left.toNumber
      let b ← right.toNumber
      return op.arithmetic a b

end BinaryOp

end FormulaRuns
