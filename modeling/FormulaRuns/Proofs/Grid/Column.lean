import FormulaRuns.Grid.Column
import Mathlib.Data.List.Induction
import Mathlib.Data.Nat.Init

namespace FormulaRuns

theorem isUpper_digitLetter : ∀ digit < 26, (digitLetter (digit + 1)).isUpper := by
  decide

theorem letterDigit_digitLetter :
    ∀ digit < 26, letterDigit (digitLetter (digit + 1)) = digit + 1 := by
  decide

theorem isAlpha_of_isUpper {letter : Char} (upper : letter.isUpper) : letter.isAlpha :=
  Bool.or_eq_true_iff.2 (.inl upper)

theorem toUpper_of_isUpper {letter : Char} (upper : letter.isUpper) : letter.toUpper = letter := by
  have bounds : 'A'.val ≤ letter.val ∧ letter.val ≤ 'Z'.val := of_decide_eq_true upper
  have above : ¬('a'.val ≤ letter.val ∧ letter.val ≤ 'z'.val) := by
    rintro ⟨low, -⟩
    exact absurd (UInt32.le_trans low bounds.2) (by decide)
  exact dif_neg above

theorem toNat_toUpper_bounds {letter : Char} (alphabetic : letter.isAlpha) :
    65 ≤ letter.toUpper.toNat ∧ letter.toUpper.toNat ≤ 90 := by
  rcases Bool.or_eq_true_iff.1 alphabetic with upper | lower
  · have bounds : 'A'.val ≤ letter.val ∧ letter.val ≤ 'Z'.val := of_decide_eq_true upper
    rw [toUpper_of_isUpper upper]
    exact ⟨UInt32.le_iff_toNat_le.1 bounds.1, UInt32.le_iff_toNat_le.1 bounds.2⟩
  · have bounds : 'a'.val ≤ letter.val ∧ letter.val ≤ 'z'.val := by
      obtain ⟨low, high⟩ := Bool.and_eq_true_iff.1 lower
      exact ⟨of_decide_eq_true low, of_decide_eq_true high⟩
    have low : 97 ≤ letter.val.toNat := UInt32.le_iff_toNat_le.1 bounds.1
    have high : letter.val.toNat ≤ 122 := UInt32.le_iff_toNat_le.1 bounds.2
    have value : letter.toUpper.toNat = letter.val.toNat - 32 := by
      have lowered : letter.toUpper.val = letter.val + ('A'.val - 'a'.val) := by
        unfold Char.toUpper
        rw [dif_pos bounds]
      change letter.toUpper.val.toNat = _
      rw [lowered, UInt32.toNat_add]
      change (letter.val.toNat + 4294967264) % 4294967296 = _
      omega
    omega

theorem letterDigit_bounds {letter : Char} (alphabetic : letter.isAlpha) :
    1 ≤ letterDigit letter ∧ letterDigit letter ≤ 26 := by
  have bounds := toNat_toUpper_bounds alphabetic
  have first : 'A'.toNat = 65 := rfl
  rw [letterDigit, first]
  omega

theorem digitLetter_letterDigit {letter : Char} (alphabetic : letter.isAlpha) :
    digitLetter (letterDigit letter) = letter.toUpper := by
  have bounds := toNat_toUpper_bounds alphabetic
  have first : 'A'.toNat = 65 := rfl
  have place : 65 + (letter.toUpper.toNat - 65 + 1 - 1) = letter.toUpper.toNat := by omega
  rw [digitLetter, letterDigit, first, place, Char.ofNat_toNat]

theorem columnLetters_succ (column : Nat) :
    columnLetters (column + 1) =
      columnLetters (column / 26) ++ [digitLetter (column % 26 + 1)] := by
  rw [columnLetters]

theorem lettersValue_concat (letters : List Char) (letter : Char) :
    lettersValue (letters ++ [letter]) = lettersValue letters * 26 + letterDigit letter := by
  rw [lettersValue, List.foldl_append]
  rfl

theorem isUpper_of_mem_columnLetters {column : Nat} {letter : Char}
    (member : letter ∈ columnLetters column) : letter.isUpper := by
  induction column using Nat.strong_induction_on with
  | _ column ih =>
    cases column with
    | zero => simp [columnLetters] at member
    | succ column =>
      rw [columnLetters_succ] at member
      rcases List.mem_append.1 member with member | member
      · exact ih (column / 26) (by omega) member
      · rw [List.mem_singleton.1 member]
        exact isUpper_digitLetter _ (Nat.mod_lt _ (by omega))

theorem isAlpha_of_mem_columnLetters {column : Nat} {letter : Char}
    (member : letter ∈ columnLetters column) : letter.isAlpha :=
  isAlpha_of_isUpper (isUpper_of_mem_columnLetters member)

theorem lettersValue_columnLetters (column : Nat) :
    lettersValue (columnLetters column) = column := by
  induction column using Nat.strong_induction_on with
  | _ column ih =>
    cases column with
    | zero => simp [columnLetters, lettersValue]
    | succ column =>
      rw [columnLetters_succ, lettersValue_concat, ih (column / 26) (by omega),
        letterDigit_digitLetter _ (Nat.mod_lt _ (by omega))]
      omega

/-- Letters are the numeral of their value, but for their case. -/
theorem columnLetters_lettersValue {letters : List Char}
    (alphabetic : ∀ letter ∈ letters, letter.isAlpha) :
    columnLetters (lettersValue letters) = letters.map Char.toUpper := by
  induction letters using List.reverseRecOn with
  | nil => simp [lettersValue, columnLetters]
  | append_singleton letters letter ih =>
    have front := ih fun other member => alphabetic other (List.mem_append_left _ member)
    have last : letter.isAlpha := alphabetic letter (by simp)
    have bounds := letterDigit_bounds last
    obtain ⟨digit, same⟩ := Nat.exists_eq_add_of_le' bounds.1
    have low : digit < 26 := by omega
    have upper : digitLetter (digit + 1) = letter.toUpper := by
      rw [← same, digitLetter_letterDigit last]
    have quotient : (lettersValue letters * 26 + digit) / 26 = lettersValue letters := by omega
    have remainder : (lettersValue letters * 26 + digit) % 26 = digit := by omega
    rw [lettersValue_concat, same, ← Nat.add_assoc, columnLetters_succ, quotient, remainder, front,
      upper, List.map_append]
    rfl

theorem columnLetters_length_le {column digits : Nat} (small : column < Nat.pow 26 digits) :
    (columnLetters column).length ≤ digits := by
  induction digits generalizing column with
  | zero =>
    obtain rfl : column = 0 := Nat.lt_one_iff.1 small
    simp [columnLetters]
  | succ digits ih =>
    cases column with
    | zero => simp [columnLetters]
    | succ column =>
      have small : column + 1 < Nat.pow 26 digits * 26 := small
      have front : (columnLetters (column / 26)).length ≤ digits := ih (by omega)
      rw [columnLetters_succ, List.length_append]
      simpa using front

theorem columnLetters_ne_nil {column : Nat} (positive : 1 ≤ column) :
    columnLetters column ≠ [] := by
  obtain ⟨less, rfl⟩ := Nat.exists_eq_add_of_le' positive
  simp [columnLetters_succ]

theorem spellColumn_eq (behind : List Char) (column : Nat) :
    spellColumn behind column = columnLetters column ++ behind := by
  induction column using Nat.strong_induction_on generalizing behind with
  | _ column ih =>
    cases column with
    | zero => simp [spellColumn, columnLetters]
    | succ column =>
      rw [spellColumn, ih (column / 26) (by omega), columnLetters_succ, List.append_assoc]
      rfl

theorem shortNames_values : shortNames.map lettersValue = List.range' 1 702 := by
  decide +kernel

theorem shortNames_upper : shortNames.all (·.all Char.isUpper) := by
  decide +kernel

theorem shortNames_getElem? {column : Nat} (positive : 0 < column) (short : column ≤ 702) :
    shortNames[column - 1]? = some (columnLetters column) := by
  have length : shortNames.length = 702 := by
    simpa using congrArg List.length shortNames_values
  have inside : column - 1 < shortNames.length := by omega
  have value : lettersValue shortNames[column - 1] = column := by
    have found : (shortNames.map lettersValue)[column - 1]? = some column := by
      rw [shortNames_values, List.getElem?_range' (by omega)]
      congr 1
      omega
    rw [List.getElem?_map, List.getElem?_eq_getElem inside] at found
    exact Option.some.inj found
  have upper : ∀ letter ∈ shortNames[column - 1], letter.isUpper :=
    List.all_eq_true.1 (List.all_eq_true.1 shortNames_upper _ (List.getElem_mem inside))
  have capitals : shortNames[column - 1].map Char.toUpper = shortNames[column - 1] := by
    conv_rhs => rw [← List.map_id shortNames[column - 1]]
    exact List.map_congr_left fun letter member => toUpper_of_isUpper (upper letter member)
  have numeral : columnLetters (lettersValue shortNames[column - 1]) = shortNames[column - 1] := by
    rw [columnLetters_lettersValue, capitals]
    exact fun letter member => isAlpha_of_isUpper (upper letter member)
  rw [List.getElem?_eq_getElem inside, ← numeral, value]

theorem columnName_eq_columnLetters (column : Nat) : columnName column = columnLetters column := by
  unfold columnName
  split
  · rename_i short
    rw [shortNames_getElem? short.1 short.2]
    rfl
  · rw [spellColumn_eq, List.append_nil]

theorem columnName_injective {column other : Nat} (same : columnName column = columnName other) :
    column = other := by
  rw [columnName_eq_columnLetters, columnName_eq_columnLetters] at same
  rw [← lettersValue_columnLetters column, same, lettersValue_columnLetters]

theorem lettersValue_pos {letters : List Char} (nonempty : letters ≠ []) :
    1 ≤ lettersValue letters := by
  rw [← List.dropLast_concat_getLast nonempty, lettersValue_concat, letterDigit]
  omega

theorem columnOfLetters_eq_some_iff {letters : List Char} {column : Nat} :
    columnOfLetters letters = some column ↔ letters ≠ [] ∧ letters.length ≤ 3 ∧
      (∀ letter ∈ letters, letter.isAlpha) ∧ lettersValue letters = column ∧
        column ≤ lastColumn := by
  unfold columnOfLetters
  split
  · rename_i fault
    refine iff_of_false nofun ?_
    rintro ⟨some_letter, few, alphabetic, -⟩
    rcases fault with none | many | other
    · exact some_letter none
    · omega
    · rw [List.all_eq_true.2 alphabetic] at other
      cases other
  · rename_i fine
    have checked : letters ≠ [] ∧ letters.length ≤ 3 ∧ ∀ letter ∈ letters, letter.isAlpha := by
      simpa using fine
    split
    · rename_i on_grid
      constructor
      · rintro ⟨⟩
        exact ⟨checked.1, checked.2.1, checked.2.2, rfl, on_grid⟩
      · rintro ⟨-, -, -, rfl, -⟩
        rfl
    · rename_i off_grid
      refine iff_of_false nofun ?_
      rintro ⟨-, -, -, rfl, on_grid⟩
      exact off_grid on_grid

theorem columnOfLetters_bounds {letters : List Char} {column : Nat}
    (named : columnOfLetters letters = some column) : 1 ≤ column ∧ column ≤ lastColumn := by
  obtain ⟨nonempty, -, -, rfl, on_grid⟩ := columnOfLetters_eq_some_iff.1 named
  exact ⟨lettersValue_pos nonempty, on_grid⟩

theorem columnOfLetters_columnLetters_iff {column : Nat} :
    columnOfLetters (columnLetters column) = some column ↔ 1 ≤ column ∧ column ≤ lastColumn := by
  refine ⟨columnOfLetters_bounds, fun ⟨positive, on_grid⟩ => ?_⟩
  have few : (columnLetters column).length ≤ 3 :=
    columnLetters_length_le (Nat.lt_of_le_of_lt on_grid (by decide))
  exact columnOfLetters_eq_some_iff.2 ⟨columnLetters_ne_nil positive, few,
    fun _ => isAlpha_of_mem_columnLetters, lettersValue_columnLetters column, on_grid⟩

end FormulaRuns
