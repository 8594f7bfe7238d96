import FormulaRuns.Decimal.Binary
import FormulaRuns.Decimal.Shortest

namespace FormulaRuns

structure NumberLayout where
  /-- The scientific exponents for which digits stand at their places; `none` for all. -/
  positional : Option (Int × Int)
  wholeMark : String

/-- The layout of displayed numbers: never an exponent, and a whole number has no point. -/
def plainLayout : NumberLayout := ⟨none, ""⟩

/-- The layout of numbers inside the text of an array: a whole number ends in `.0`, and an
exponent stands below `1e-4` and from `1e16` on. -/
def structuralLayout : NumberLayout := ⟨some (-4, 15), ".0"⟩

def zeros (count : Nat) : List Char := List.replicate count '0'

namespace NumberLayout

def placed (layout : NumberLayout) (digits : List Char) (exponent : Int) : List Char :=
  if 0 ≤ exponent then digits ++ zeros exponent.toNat ++ layout.wholeMark.toList
  else
    let point := digits.length + exponent
    if 0 < point then digits.take point.toNat ++ '.' :: digits.drop point.toNat
    else '0' :: '.' :: (zeros (-point).toNat ++ digits)

def scientific (digits : List Char) (exponent : Int) : List Char :=
  let fraction := if digits.tail = [] then [] else '.' :: digits.tail
  digits.take 1 ++ fraction ++ 'e' ::
    ((if exponent < 0 then ['-'] else []) ++ Nat.toDigits 10 exponent.natAbs)

def decimal (layout : NumberLayout) (n : Nat) (exponent : Int) : List Char :=
  let digits := Nat.toDigits 10 n
  let leading := digits.length + exponent - 1
  match layout.positional with
  | some (least, greatest) =>
    if least ≤ leading ∧ leading ≤ greatest then layout.placed digits exponent
    else scientific digits leading
  | none => layout.placed digits exponent

def minus (negative : Bool) : List Char := if negative then ['-'] else []

def double (layout : NumberLayout) : Double → List Char
  | .nan => ['N', 'a', 'N']
  | .infinite negative => minus negative ++ ['i', 'n', 'f']
  | .finite negative 0 _ => minus negative ++ '0' :: layout.wholeMark.toList
  | .finite negative significand exponent =>
    let stepsHalve := significand == hiddenBit && exponent != leastExponent
    let (n, power) := shortestDecimal significand exponent stepsHalve
    minus negative ++ layout.decimal n power

def float (layout : NumberLayout) (x : Float) : String := String.ofList (layout.double (.ofFloat x))

end NumberLayout

def intText (n : Int) : String :=
  String.ofList (NumberLayout.minus (n < 0) ++ Nat.toDigits 10 n.natAbs)

end FormulaRuns
