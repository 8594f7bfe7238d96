/-!
Double-precision numbers as exact values: a finite one is `± significand · 2 ^ exponent`. Reading
a double apart and finding the double nearest to a fraction are both done in whole numbers.
-/
namespace FormulaRuns

inductive Double where
  | nan
  | infinite (negative : Bool)
  | finite (negative : Bool) (significand : Nat) (exponent : Int)
  deriving DecidableEq, Repr

def significandBits : Nat := 52

def hiddenBit : Nat := Nat.pow 2 significandBits

def signBit : Nat := Nat.pow 2 63

/-- The exponent of the subnormal numbers, the least there is. -/
def leastExponent : Int := -1074

namespace Double

def ofBits (bits : Nat) : Double :=
  let negative := bits / signBit % 2 == 1
  let field := bits / hiddenBit % 2048
  let fraction := bits % hiddenBit
  if field = 2047 then if fraction = 0 then infinite negative else nan
  else if field = 0 then finite negative fraction leastExponent
  else finite negative (hiddenBit + fraction) (leastExponent + (field - 1 : Nat))

def ofFloat (x : Float) : Double := ofBits x.toBits.toNat

end Double

/-- `num / den` rounded to a whole number, a tie going to the even neighbour. -/
def roundQuotient (num den : Nat) : Nat :=
  let low := num / den
  let twice := 2 * (num % den)
  if twice < den ∨ (twice = den ∧ low % 2 = 0) then low else low + 1

def scaleByTwo (num den : Nat) (exponent : Int) : Nat × Nat :=
  (num * Nat.pow 2 (-exponent).toNat, den * Nat.pow 2 exponent.toNat)

def quotientExponent (num den : Nat) : Int :=
  let guess := max leastExponent ((num.log2 : Int) - den.log2 - (significandBits + 1 : Nat))
  let (n, d) := scaleByTwo num den guess
  if n / d < 2 * hiddenBit then guess else guess + 1

/-- The bits of the double nearest to the quotient of two positive numbers, ties to even; past the
largest double lies infinity. A significand that rounds up to the next power of two carries into
the exponent by itself. -/
def nearestBits (num den : Nat) : Nat :=
  let exponent := quotientExponent num den
  let (n, d) := scaleByTwo num den exponent
  let bits := (exponent - leastExponent).toNat * hiddenBit + roundQuotient n d
  min bits (2047 * hiddenBit)

end FormulaRuns
