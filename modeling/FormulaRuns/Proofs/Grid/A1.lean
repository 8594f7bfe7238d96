import FormulaRuns.Grid.A1
import FormulaRuns.Proofs.Grid.Column
import Mathlib.Data.List.TakeWhile
import Mathlib.Data.Nat.Digits.Defs

namespace FormulaRuns

def placeValue (base : Nat) (digitOf : Char → Nat) (digits : List Char) : Nat :=
  Nat.ofDigits base (digits.reverse.map digitOf)

def decimalDigit (digit : Char) : Nat := digit.toNat - '0'.toNat

theorem placeValue_eq_foldl (base : Nat) (digitOf : Char → Nat) (digits : List Char) :
    placeValue base digitOf digits =
      digits.foldl (fun value digit => value * base + digitOf digit) 0 := by
  rw [placeValue, Nat.ofDigits_eq_foldr, List.foldr_map, List.foldr_reverse]
  congr 1
  funext value digit
  rw [Nat.cast_id, Nat.add_comm, Nat.mul_comm]

theorem placeValue_letters (letters : List Char) :
    placeValue 26 letterDigit letters = lettersValue letters :=
  placeValue_eq_foldl 26 letterDigit letters

theorem placeValue_decimals (digits : List Char) :
    placeValue 10 decimalDigit digits = Nat.ofDigitChars 10 digits 0 := by
  rw [placeValue_eq_foldl, Nat.ofDigitChars_eq_foldl]
  congr 1
  funext value digit
  rw [Nat.mul_comm]
  rfl

theorem isDigit_of_mem_rowDigits {row : Nat} {digit : Char} (member : digit ∈ rowDigits row) :
    digit.isDigit :=
  Nat.isDigit_of_mem_toDigits (by decide) (by decide) member

theorem rowDigits_ne_nil (row : Nat) : rowDigits row ≠ [] := Nat.toDigits_ne_nil

theorem digitChar_decimalDigit {digit : Char} (decimal : digit.isDigit) :
    decimalDigit digit < 10 ∧ (decimalDigit digit).digitChar = digit := by
  have bounds := Char.isDigit_iff_toNat.1 decimal
  have first : '0'.toNat = 48 := rfl
  have last : '9'.toNat = 57 := rfl
  rw [first, last] at bounds
  have low : decimalDigit digit < 10 := by
    rw [decimalDigit, first]
    omega
  refine ⟨low, Char.toNat_inj.1 ?_⟩
  rw [Nat.toNat_digitChar_of_lt_ten low, decimalDigit, first]
  omega

/-- More digits behind a positive number are put behind its own. -/
theorem rowDigits_ofDigitChars {digits : List Char} {front : Nat}
    (decimal : ∀ digit ∈ digits, digit.isDigit) (positive : 0 < front) :
    rowDigits (Nat.ofDigitChars 10 digits front) = rowDigits front ++ digits := by
  induction digits generalizing front with
  | nil => simp
  | cons digit digits ih =>
    obtain ⟨low, same⟩ := digitChar_decimalDigit (decimal digit List.mem_cons_self)
    have step : rowDigits (10 * front + decimalDigit digit) = rowDigits front ++ [digit] := by
      rw [rowDigits, ← Nat.toDigits_append_toDigits (by decide) positive low,
        Nat.toDigits_of_lt_base low, same, rowDigits]
    rw [Nat.ofDigitChars_cons]
    change rowDigits (Nat.ofDigitChars 10 digits (10 * front + decimalDigit digit)) = _
    rw [ih (fun other member => decimal other (List.mem_cons_of_mem _ member)) (by omega), step,
      List.append_assoc]
    rfl

theorem exists_zeros {digits : List Char} (decimal : ∀ digit ∈ digits, digit.isDigit)
    (positive : 0 < Nat.ofDigitChars 10 digits 0) :
    ∃ zeros, digits =
      List.replicate zeros '0' ++ rowDigits (Nat.ofDigitChars 10 digits 0) := by
  induction digits with
  | nil => simp at positive
  | cons digit digits ih =>
    have others : ∀ other ∈ digits, other.isDigit :=
      fun other member => decimal other (List.mem_cons_of_mem _ member)
    obtain ⟨low, same⟩ := digitChar_decimalDigit (decimal digit List.mem_cons_self)
    have step : Nat.ofDigitChars 10 (digit :: digits) 0 =
        Nat.ofDigitChars 10 digits (decimalDigit digit) := by
      rw [Nat.ofDigitChars_cons, Nat.mul_zero, Nat.zero_add]
      rfl
    rw [step] at positive ⊢
    rcases Nat.eq_zero_or_pos (decimalDigit digit) with zero | nonzero
    · rw [zero] at positive same ⊢
      obtain ⟨zeros, split⟩ := ih others positive
      refine ⟨zeros + 1, ?_⟩
      rw [List.replicate_succ, List.cons_append, ← split, ← same]
      rfl
    · refine ⟨0, ?_⟩
      rw [rowDigits_ofDigitChars others nonzero, rowDigits, Nat.toDigits_of_lt_base low, same]
      rfl

theorem isAlpha_of_isDigit {c : Char} (digit : c.isDigit) : c.isAlpha = false := by
  unfold Char.isAlpha Char.isUpper Char.isLower
  simp only [Char.isDigit, Bool.and_eq_true, decide_eq_true_eq, Bool.or_eq_false_iff,
    Bool.and_eq_false_iff, decide_eq_false_iff_not] at *
  simp only [UInt32.le_iff_toNat_le] at *
  simp at *
  omega

theorem takeWhile_append_of_stop {belongs : Char → Bool} {front rest : List Char}
    (all : ∀ c ∈ front, belongs c) (stops : ∀ c ∈ rest.head?, belongs c = false) :
    (front ++ rest).takeWhile belongs = front ∧ (front ++ rest).dropWhile belongs = rest := by
  have nothing : rest.takeWhile belongs = [] ∧ rest.dropWhile belongs = rest := by
    cases rest with
    | nil => exact ⟨rfl, rfl⟩
    | cons c rest => simp [stops c rfl]
  rw [List.takeWhile_append_of_pos all, List.dropWhile_append_of_pos all, nothing.1, nothing.2]
  simp

theorem takeAnchor_anchorMark (fixed : Bool) {rest : List Char} (plain : rest.head? ≠ some '$') :
    takeAnchor (anchorMark fixed ++ rest) = (fixed, rest) := by
  cases fixed with
  | true => rfl
  | false =>
    simp only [anchorMark, Bool.false_eq_true, if_false, List.nil_append, takeAnchor]
    split
    · exact absurd rfl plain
    · rfl

theorem takeAnchor_split (text : List Char) :
    anchorMark (takeAnchor text).1 ++ (takeAnchor text).2 = text := by
  unfold takeAnchor
  split <;> rfl

namespace A1

def OnGrid (cell : A1) : Prop :=
  (1 ≤ cell.row ∧ cell.row ≤ lastRow) ∧ 1 ≤ cell.col ∧ cell.col ≤ lastColumn

/-- The letters name the cell's column and the digits its row. -/
structure NamedBy (cell : A1) (letters digits : List Char) : Prop where
  some_letter : letters ≠ []
  few_letters : letters.length ≤ 3
  alphabetic : ∀ letter ∈ letters, letter.isAlpha
  column : placeValue 26 letterDigit letters = cell.col
  some_digit : digits ≠ []
  decimal : ∀ digit ∈ digits, digit.isDigit
  row : placeValue 10 decimalDigit digits = cell.row
  on_grid : cell.OnGrid

def spelled (cell : A1) (letters digits : List Char) : List Char :=
  anchorMark cell.colFixed ++ letters ++ anchorMark cell.rowFixed ++ digits

variable {cell : A1} {letters digits : List Char} {text : String}

theorem NamedBy.columnOfLetters_eq (named : cell.NamedBy letters digits) :
    columnOfLetters letters = some cell.col := by
  have column := named.column
  rw [placeValue_letters] at column
  exact columnOfLetters_eq_some_iff.2
    ⟨named.some_letter, named.few_letters, named.alphabetic, column, named.on_grid.2.2⟩

theorem NamedBy.parse_eq_ok (named : cell.NamedBy letters digits)
    (spelling : text.toList = cell.spelled letters digits) : A1.parse text = .ok cell := by
  have column := named.columnOfLetters_eq
  obtain ⟨some_letter, -, alphabetic, -, some_digit, decimal, row, row_bounds, -⟩ := named
  rw [placeValue_decimals] at row
  have letter_first : (letters ++ (anchorMark cell.rowFixed ++ digits)).head? ≠ some '$' := by
    obtain ⟨letter, others, rfl⟩ := List.exists_cons_of_ne_nil some_letter
    rw [List.cons_append, List.head?_cons]
    rintro ⟨⟩
    cases alphabetic _ List.mem_cons_self
  have digit_first : digits.head? ≠ some '$' := by
    intro dollar
    cases decimal _ (List.mem_of_head? dollar)
  have no_letter : ∀ c ∈ (anchorMark cell.rowFixed ++ digits).head?, c.isAlpha = false := by
    intro c head
    rcases List.mem_append.1 (List.mem_of_head? head) with anchor | digit
    · cases fixed : cell.rowFixed with
      | true =>
        rw [fixed] at anchor
        rw [List.mem_singleton.1 anchor]
        rfl
      | false => simp [fixed, anchorMark] at anchor
    · exact isAlpha_of_isDigit (decimal c digit)
  have taken := takeWhile_append_of_stop alphabetic no_letter
  have all : digits.takeWhile Char.isDigit = digits ∧ digits.dropWhile Char.isDigit = [] := by
    rw [List.takeWhile_eq_self_iff, List.dropWhile_eq_nil_iff]
    exact ⟨decimal, decimal⟩
  have nonempty : text.toList ≠ [] := by
    rw [spelling]
    simp [spelled, some_letter]
  rw [spelled, List.append_assoc, List.append_assoc] at spelling
  rw [A1.parse, if_neg nonempty]
  simp only [spelling, takeAnchor_anchorMark _ letter_first, taken, some_letter, if_false, column,
    takeAnchor_anchorMark _ digit_first, all, some_digit, row, row_bounds, ne_eq,
    not_true_eq_false, and_self, if_true]

theorem exists_named_of_parse (parsed : A1.parse text = .ok cell) :
    ∃ letters digits, cell.NamedBy letters digits ∧ text.toList = cell.spelled letters digits := by
  simp only [A1.parse] at parsed
  repeat' split at parsed
  all_goals cases parsed
  rename_i some_letter _ _ column some_digit finished row_bounds
  obtain ⟨-, few, alphabetic, value, -⟩ := columnOfLetters_eq_some_iff.1 column
  refine ⟨_, _, ⟨some_letter, few, alphabetic, (placeValue_letters _).trans value, some_digit,
    fun _ member => List.mem_takeWhile_imp member, placeValue_decimals _, row_bounds,
    columnOfLetters_bounds column⟩, ?_⟩
  -- Each cut leaves the rest of the text as it is, and behind the digits nothing is left.
  have anchored := takeAnchor_split text.toList
  have held := takeAnchor_split ((takeAnchor text.toList).2.dropWhile Char.isAlpha)
  rw [ne_eq, not_not, List.dropWhile_eq_nil_iff, ← List.takeWhile_eq_self_iff] at finished
  rw [spelled, finished, List.append_assoc, List.append_assoc, held,
    List.takeWhile_append_dropWhile, anchored]

/-- Letters and digits that name a place on the grid, each with an optional `$` in front of them,
are read as that cell, and nothing else is. -/
theorem parse_eq_ok_iff : A1.parse text = .ok cell ↔
    ∃ letters digits, cell.NamedBy letters digits ∧ text.toList = cell.spelled letters digits :=
  ⟨exists_named_of_parse, fun ⟨_, _, named, spelling⟩ => named.parse_eq_ok spelling⟩

theorem parse_bounds (parsed : A1.parse text = .ok cell) : cell.OnGrid := by
  obtain ⟨_, _, named, -⟩ := exists_named_of_parse parsed
  exact named.on_grid

theorem print_toList (cell : A1) :
    cell.print.toList = cell.spelled (columnLetters cell.col) (rowDigits cell.row) := by
  rw [print, String.toList_ofList, chars, columnName_eq_columnLetters, spelled]

theorem OnGrid.named (on_grid : cell.OnGrid) :
    cell.NamedBy (columnLetters cell.col) (rowDigits cell.row) where
  some_letter := columnLetters_ne_nil on_grid.2.1
  few_letters := columnLetters_length_le (Nat.lt_of_le_of_lt on_grid.2.2 (by decide))
  alphabetic _ := isAlpha_of_mem_columnLetters
  column := by rw [placeValue_letters, lettersValue_columnLetters]
  some_digit := rowDigits_ne_nil cell.row
  decimal _ := isDigit_of_mem_rowDigits
  row := by rw [placeValue_decimals, rowDigits, Nat.ofDigitChars_ten_toDigits]
  on_grid := on_grid

theorem parse_print (on_grid : cell.OnGrid) : A1.parse cell.print = .ok cell :=
  on_grid.named.parse_eq_ok cell.print_toList

theorem NamedBy.print_toList (named : cell.NamedBy letters digits) :
    ∃ zeros rest, digits = List.replicate zeros '0' ++ rest ∧
      cell.print.toList = cell.spelled (letters.map Char.toUpper) rest := by
  have column := named.column
  have row := named.row
  rw [placeValue_letters] at column
  rw [placeValue_decimals] at row
  have positive : 0 < Nat.ofDigitChars 10 digits 0 := row ▸ named.on_grid.1.1
  obtain ⟨zeros, split⟩ := exists_zeros named.decimal positive
  refine ⟨zeros, rowDigits cell.row, by rwa [row] at split, ?_⟩
  rw [A1.print_toList, ← column, columnLetters_lettersValue named.alphabetic]

/-- The texts that are read as cells, the texts that cells are printed as, and the names of
columns, whether they are looked up or spelled. -/
theorem parse_exact :
    (∀ (text : String) (cell : A1), A1.parse text = .ok cell ↔
      ∃ letters digits, cell.NamedBy letters digits ∧
        text.toList = cell.spelled letters digits) ∧
    (∀ (text : String) (cell : A1), A1.parse text = .ok cell →
      A1.parse cell.print = .ok cell ∧
        ∃ letters zeros digits, (∀ letter ∈ letters, letter.isAlpha) ∧
          text.toList = cell.spelled letters (List.replicate zeros '0' ++ digits) ∧
          cell.print.toList = cell.spelled (letters.map Char.toUpper) digits) ∧
    (∀ column other, columnName column = columnName other → column = other) ∧
    (∀ column, 0 < column → column ≤ 702 →
      shortNames[column - 1]? = some (spellColumn [] column)) ∧
    (∀ column, columnName column = spellColumn [] column ∧
      (∀ letter ∈ columnName column, letter.isUpper) ∧
      placeValue 26 letterDigit (columnName column) = column) ∧
    ∀ column, columnOfLetters (columnName column) = some column ↔
      1 ≤ column ∧ column ≤ 16384 := by
  have spelled_numeral (column : Nat) : spellColumn [] column = columnLetters column := by
    rw [spellColumn_eq, List.append_nil]
  refine ⟨fun _ _ => parse_eq_ok_iff, ?_, fun _ _ => columnName_injective, ?_, ?_, ?_⟩
  · intro text cell parsed
    obtain ⟨letters, digits, named, spelling⟩ := parse_eq_ok_iff.1 parsed
    obtain ⟨zeros, rest, rfl, printed⟩ := named.print_toList
    exact ⟨parse_print named.on_grid, letters, zeros, rest, named.alphabetic, spelling, printed⟩
  · intro column positive short
    rw [shortNames_getElem? positive short, spelled_numeral]
  · intro column
    simp only [columnName_eq_columnLetters]
    exact ⟨(spelled_numeral column).symm, fun _ => isUpper_of_mem_columnLetters,
      (placeValue_letters _).trans (lettersValue_columnLetters column)⟩
  · intro column
    rw [columnName_eq_columnLetters]
    exact columnOfLetters_columnLetters_iff

theorem parse_exact_of_last_cell :
    let cell : A1 := ⟨1048576, 16384, true, true⟩
    A1.parse "$xfd$001048576" = .ok cell ∧ A1.parse cell.print = .ok cell ∧
      cell.print = "$XFD$1048576" ∧ shortNames[701]? = some (spellColumn [] 702) := by
  intro cell
  have parsed : A1.parse "$xfd$001048576" = .ok cell := by decide +kernel
  obtain ⟨-, printing, -, table, -⟩ := parse_exact
  exact ⟨parsed, (printing _ _ parsed).1, by decide +kernel, table 702 (by decide) (by decide)⟩

end A1

end FormulaRuns
