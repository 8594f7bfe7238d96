import FormulaRuns.Decimal.Binary

namespace FormulaRuns

/-- The double nearest to `digits · 10 ^ exponent`. Numbers beyond the reach of every double are
told by their size alone. -/
def decimalBits (n : Nat) (exponent : Int) : Nat :=
  let leading := (Nat.toDigits 10 n).length + exponent
  if n = 0 ∨ leading < -400 then 0
  else if 400 < leading then 2047 * hiddenBit
  else nearestBits (n * Nat.pow 10 exponent.toNat) (Nat.pow 10 (-exponent).toNat)

def floatOfBits (negative : Bool) (bits : Nat) : Float :=
  Float.ofBits (UInt64.ofNat (if negative then signBit + bits else bits))

def takeSign : List Char → Bool × List Char
  | '+' :: rest => (false, rest)
  | '-' :: rest => (true, rest)
  | rest => (false, rest)

def readExponent : List Char → Option Int
  | [] => some 0
  | mark :: rest =>
    let (negative, digits) := takeSign rest
    if mark.toLower ≠ 'e' ∨ digits = [] ∨ !digits.all Char.isDigit then none
    else
      let size : Int := Nat.ofDigitChars 10 digits 0
      some (if negative then -size else size)

def takeFraction : List Char → List Char × List Char
  | '.' :: rest => (rest.takeWhile Char.isDigit, rest.dropWhile Char.isDigit)
  | rest => ([], rest)

def readUnsigned (text : List Char) : Option Nat :=
  let whole := text.takeWhile Char.isDigit
  let (fraction, rest) := takeFraction (text.dropWhile Char.isDigit)
  if whole ++ fraction = [] then none
  else (readExponent rest).map fun exponent =>
    decimalBits (Nat.ofDigitChars 10 (whole ++ fraction) 0) (exponent - fraction.length)

def readNumber (text : List Char) : Option Float :=
  let (negative, rest) := takeSign text
  let word := String.ofList (rest.map Char.toLower)
  if word = "inf" ∨ word = "infinity" then some (floatOfBits negative (2047 * hiddenBit))
  else if word = "nan" then some (floatOfBits negative (2047 * hiddenBit + hiddenBit / 2))
  else (readUnsigned rest).map (floatOfBits negative)

end FormulaRuns
