/-!
Columns and their letters. A column name is a numeral in bijective base 26: `A` to `Z` are the
digits 1 to 26 and there is no zero, so every positive number has exactly one name. The names of
one and two letters stand in a table, the others are spelled letter by letter.
-/
namespace FormulaRuns

def lastColumn : Nat := 16384

def lastRow : Nat := 1048576

def letterDigit (letter : Char) : Nat := letter.toUpper.toNat - 'A'.toNat + 1

def lettersValue (letters : List Char) : Nat :=
  letters.foldl (fun value letter => value * 26 + letterDigit letter) 0

def columnOfLetters (letters : List Char) : Option Nat :=
  if letters = [] ∨ 3 < letters.length ∨ !letters.all Char.isAlpha then none
  else if lettersValue letters ≤ lastColumn then some (lettersValue letters)
  else none

def digitLetter (digit : Nat) : Char := Char.ofNat ('A'.toNat + (digit - 1))

/-- The numeral of a column; zero, which names no column, has no letters. -/
def columnLetters : Nat → List Char
  | 0 => []
  | column + 1 => columnLetters (column / 26) ++ [digitLetter (column % 26 + 1)]
termination_by column => column

def spellColumn (behind : List Char) : Nat → List Char
  | 0 => behind
  | column + 1 => spellColumn (digitLetter (column % 26 + 1) :: behind) (column / 26)
termination_by column => column

def alphabet : List Char := (List.range' 1 26).map digitLetter

def shortNames : List (List Char) :=
  alphabet.map (fun letter => [letter]) ++
    alphabet.flatMap fun first => alphabet.map fun second => [first, second]

def columnName (column : Nat) : List Char :=
  if 0 < column ∧ column ≤ 702 then shortNames[column - 1]?.getD [] else spellColumn [] column

end FormulaRuns
