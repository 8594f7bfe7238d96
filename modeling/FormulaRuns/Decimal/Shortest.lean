/-!
The shortest decimal that reads back as a given number. The decimals that read back fill an
interval around it; the coarsest grid of multiples of a power of ten that has a point in there
gives the fewest digits, and of two such points the nearer one is taken.
-/
namespace FormulaRuns

/-- The fractions `low / den ≤ value / den ≤ high / den`; the ends belong to the interval iff it
is `closed`. -/
structure Interval where
  low : Nat
  value : Nat
  high : Nat
  den : Nat
  closed : Bool

namespace Interval

def scaleByTen (interval : Interval) (exponent : Int) : Interval :=
  let up := Nat.pow 10 (-exponent).toNat
  { interval with
    low := interval.low * up
    value := interval.value * up
    high := interval.high * up
    den := interval.den * Nat.pow 10 exponent.toNat }

def contains (interval : Interval) (n : Nat) : Bool :=
  if interval.closed then interval.low ≤ n * interval.den && n * interval.den ≤ interval.high
  else interval.low < n * interval.den && n * interval.den < interval.high

def nearestWhole (interval : Interval) : Option Nat :=
  let below := interval.value / interval.den
  match interval.contains below, interval.contains (below + 1) with
  | true, true =>
    some (if 2 * interval.value < (2 * below + 1) * interval.den then below else below + 1)
  | true, false => some below
  | false, true => some (below + 1)
  | false, false => none

def shortestFrom (interval : Interval) : Nat → Int → Nat × Int
  | 0, exponent => ((interval.scaleByTen exponent).value / (interval.scaleByTen exponent).den, exponent)
  | grids + 1, exponent =>
    match (interval.scaleByTen exponent).nearestWhole with
    | some n => (n, exponent)
    | none => shortestFrom interval grids (exponent - 1)

end Interval

/-- What rounds to `significand · 2 ^ exponent`: up to half a step away on either side, but only a
quarter below a power of two, where the steps halve. Fractions are counted in quarter steps. -/
def roundingInterval (significand : Nat) (exponent : Int) (stepsHalve : Bool) : Interval :=
  let up := Nat.pow 2 (exponent - 2).toNat
  { low := (4 * significand - if stepsHalve then 1 else 2) * up
    value := 4 * significand * up
    high := (4 * significand + 2) * up
    den := Nat.pow 2 (2 - exponent).toNat
    closed := significand % 2 == 0 }

/-- The coarsest grid tried has a step above the interval; the finest, 330 places behind the
point, has a step below the least width of an interval. -/
def shortestDecimal (significand : Nat) (exponent : Int) (stepsHalve : Bool) : Nat × Int :=
  let interval := roundingInterval significand exponent stepsHalve
  let places := (Nat.toDigits 10 (interval.high / interval.den)).length
  interval.shortestFrom (places + 330) places

end FormulaRuns
