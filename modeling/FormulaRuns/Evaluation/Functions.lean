import FormulaRuns.Evaluation.Operators

namespace FormulaRuns

abbrev Argument := Unit → Value

def arrayNumbers : List Value → Except CellError (List Float)
  | [] => .ok []
  | .number x :: rest => (arrayNumbers rest).map (x :: ·)
  | .int n :: rest => (arrayNumbers rest).map (Float.ofInt n :: ·)
  | .error e :: _ => .error e
  | _ :: rest => arrayNumbers rest

def valueNumbers : Value → Except CellError (List Float)
  | .array rows => arrayNumbers rows.flatten
  | v => v.toNumber.map fun x => [x]

def numbersOf : List Argument → Except CellError (List Float)
  | [] => .ok []
  | arg :: args => do
    let first ← valueNumbers (arg ())
    let rest ← numbersOf args
    return first ++ rest

def aggregate (args : List Argument) (combine : List Float → Value) : Value :=
  .ofExcept do return combine (← numbersOf args)

/-- Starts from negative zero, which leaves every other number as it is. -/
def sum (numbers : List Float) : Float := numbers.foldl (· + ·) (-0.0)

def product (numbers : List Float) : Float := numbers.foldl (· * ·) 1.0

/-- The second number only where it is smaller, or where the first is none. -/
def lesser (a b : Float) : Float := if b < a || a.isNaN then b else a

def greater (a b : Float) : Float := if a < b || a.isNaN then b else a

def extreme (pick : Float → Float → Float) : List Float → Float
  | [] => 0.0
  | first :: rest => rest.foldl pick first

def average : List Float → Value
  | [] => .bare .div
  | numbers => .number (sum numbers / numbers.length.toFloat)

def truthsOf : List Argument → Except CellError (List Value)
  | [] => .ok []
  | arg :: args =>
    match arg () with
    | .error e => .error e
    | .array rows => (truthsOf args).map (rows.flatten ++ ·)
    | v => (truthsOf args).map (v :: ·)

/-- Empty cells and texts have no say. -/
def hasSay : Value → Bool
  | .empty | .text _ => false
  | _ => true

def judge (args : List Argument) (decision : List Value → Bool) : Value :=
  .ofExcept do return .boolean (decision ((← truthsOf args).filter hasSay))

def choose : List Argument → Value
  | [] => .explained .value "IF takes 1 to 3 arguments"
  | condition :: branches =>
    if 2 < branches.length then .explained .value "IF takes 1 to 3 arguments"
    else match condition () with
      | .error e => .error e
      | v =>
        if v.isTruthy then
          match branches with
          | yes :: _ => yes ()
          | [] => .number 0.0
        else
          match branches with
          | _ :: no :: _ => no ()
          | _ => .boolean false

def negate : List Argument → Value
  | [arg] =>
    match arg () with
    | .error e => .error e
    | v => .boolean (!v.isTruthy)
  | _ => .explained .value "NOT takes 1 argument"

def absolute : List Argument → Value
  | [arg] => .ofExcept do return .number (← (arg ()).toNumber).abs
  | _ => .explained .value "ABS takes 1 argument"

def timesPower (acc base : Float) (n : Nat) : Float :=
  if n = 0 then acc
  else timesPower (if n % 2 = 1 then acc * base else acc) (base * base) (n / 2)
termination_by n

def powerOfTen (exponent : Int) : Float :=
  let power := timesPower 1.0 10.0 exponent.natAbs
  if exponent < 0 then 1.0 / power else power

def roundTo (x : Float) (digits : Int) : Float := (x * powerOfTen digits).round / powerOfTen digits

def round : List Argument → Value
  | [number, digits] => .ofExcept do
    let x ← (number ()).toNumber
    let places ← (digits ()).toNumber
    return .number (roundTo x places.toInt32.toInt)
  | _ => .explained .value "ROUND takes 2 arguments"

def callFunction (callee : String) (args : List Argument) : Value :=
  match callee with
  | "IF" => choose args
  | "SUM" => aggregate args fun numbers => .number (sum numbers)
  | "PRODUCT" => aggregate args fun numbers => .number (product numbers)
  | "MIN" => aggregate args fun numbers => .number (extreme lesser numbers)
  | "MAX" => aggregate args fun numbers => .number (extreme greater numbers)
  | "AVERAGE" => aggregate args average
  | "COUNT" => aggregate args fun numbers => .number numbers.length.toFloat
  | "AND" => judge args (·.all Value.isTruthy)
  | "OR" => judge args (·.any Value.isTruthy)
  | "NOT" => negate args
  | "ABS" => absolute args
  | "ROUND" => round args
  | _ => .explained .name ("unknown function " ++ callee)

end FormulaRuns
