import FormulaRuns.Pattern.Compatibility
import FormulaRuns.Proofs.Grid.A1
import FormulaRuns.Proofs.Outcome

namespace FormulaRuns

/-- The sum is exact wherever it does not leave the 64-bit words at their lower end; beyond their
upper end it wraps around to numbers that lie off the grid. -/
theorem shiftAxis_eq_some_iff {value last moved : Nat} {delta : Int}
    (low : -9223372036854775808 ≤ value + delta) (high : value + delta < 18446744073709551616)
    (last_small : last < 9223372036854775808) :
    shiftAxis value delta last = some moved ↔
      (value : Int) + delta = moved ∧ 1 ≤ moved ∧ moved ≤ last := by
  have word : Nat.pow 2 64 = 18446744073709551616 := rfl
  simp only [shiftAxis, word]
  by_cases small : (value : Int) + delta < 9223372036854775808
  · have exact_sum : Int.bmod (value + delta) 18446744073709551616 = value + delta := by
      rw [Int.bmod_def]
      split <;> omega
    simp only [exact_sum, Option.ite_none_right_eq_some, Option.some.injEq]
    omega
  · have wrapped : Int.bmod (value + delta) 18446744073709551616 < 1 := by
      rw [Int.bmod_def]
      split <;> omega
    rw [if_neg (by omega)]
    constructor
    · exact nofun
    · omega

def Address.InWords (cell : Address) : Prop := cell.row < 4294967296 ∧ cell.col < 4294967296

theorem Distance.between_bounds {origin candidate : Address} (origin_words : origin.InWords)
    (candidate_words : candidate.InWords) :
    (Distance.between origin candidate).rows.natAbs < 4294967296 ∧
      (Distance.between origin candidate).cols.natAbs < 4294967296 := by
  simp only [Address.InWords, Distance.between] at *
  omega

namespace Reference

def OnGrid (ref : Reference) : Prop :=
  1 ≤ ref.row ∧ ref.row ≤ lastRow ∧ 1 ≤ ref.col ∧ ref.col ≤ lastColumn

theorem ofA1_eq_ok_iff {sheet text : String} {ref : Reference} :
    Reference.ofA1 sheet text = .ok ref ↔
      ∃ cell, A1.parse text = .ok cell ∧
        ref = ⟨sheet, cell.row, cell.col, cell.rowFixed, cell.colFixed⟩ := by
  rw [Reference.ofA1, bind_eq_ok_iff]
  exact exists_congr fun cell => and_congr_right fun _ => by simp [eq_comm]

theorem ofA1_onGrid {sheet text : String} {ref : Reference}
    (decoded : Reference.ofA1 sheet text = .ok ref) : ref.OnGrid := by
  obtain ⟨cell, parsed, rfl⟩ := ofA1_eq_ok_iff.1 decoded
  have bounds := A1.parse_bounds parsed
  exact ⟨bounds.1.1, bounds.1.2, bounds.2⟩

def axisAfter (fixed : Bool) (value : Nat) (delta : Int) (last : Nat) : Option Nat :=
  if fixed then some value else shiftAxis value delta last

theorem shifted_eq_some_iff {before after : Reference} {distance : Distance} :
    before.shifted distance = some after ↔
      before.sheet = after.sheet ∧ before.colFixed = after.colFixed ∧
      before.rowFixed = after.rowFixed ∧
      axisAfter before.colFixed before.col distance.cols lastColumn = some after.col ∧
      axisAfter before.rowFixed before.row distance.rows lastRow = some after.row := by
  obtain ⟨sheet, row, col, rowFixed, colFixed⟩ := before
  obtain ⟨sheet', row', col', rowFixed', colFixed'⟩ := after
  have opened : (Reference.mk sheet row col rowFixed colFixed).shifted distance =
      (axisAfter rowFixed row distance.rows lastRow).bind fun row =>
        (axisAfter colFixed col distance.cols lastColumn).bind fun col =>
          some ⟨sheet, row, col, rowFixed, colFixed⟩ := by
    cases rowFixed <;> cases colFixed <;> simp [shifted, axisAfter]
  simp only [opened, Option.bind_eq_some_iff, Option.some.injEq, mk.injEq]
  constructor
  · rintro ⟨_, row_after, _, col_after, rfl, rfl, rfl, rfl, rfl⟩
    exact ⟨rfl, rfl, rfl, col_after, row_after⟩
  · rintro ⟨rfl, rfl, rfl, col_after, row_after⟩
    exact ⟨row', row_after, col', col_after, rfl, rfl, rfl, rfl, rfl⟩

theorem axisAfter_of_axisMoved {fixed : Bool} {before after last : Nat} {delta : Int}
    (positive : 1 ≤ after) (below : after ≤ last) (small : last < 9223372036854775808)
    (moved : axisMoved fixed before after delta) :
    axisAfter fixed before delta last = some after := by
  cases fixed with
  | true => simpa [axisAfter, axisMoved] using moved
  | false =>
    have sum : (after : Int) - before = delta := by simpa [axisMoved] using moved
    exact (shiftAxis_eq_some_iff (by omega) (by omega) small).2 ⟨by omega, positive, below⟩

theorem axisMoved_of_axisAfter {fixed : Bool} {before after last : Nat} {delta : Int}
    (word : before < 4294967296) (distance_word : delta.natAbs < 4294967296)
    (small : last < 9223372036854775808)
    (shifted : axisAfter fixed before delta last = some after) :
    axisMoved fixed before after delta := by
  cases fixed with
  | true => simpa [axisAfter, axisMoved] using shifted
  | false =>
    have sum := (shiftAxis_eq_some_iff (by omega) (by omega) small).1 shifted
    simp only [axisMoved, Bool.false_eq_true, if_false, beq_iff_eq]
    omega

theorem shifted_of_movedBy {before after : Reference} {distance : Distance}
    (on_grid : after.OnGrid) (moved : before.movedBy distance after) :
    before.shifted distance = some after := by
  obtain ⟨row_pos, row_le, col_pos, col_le⟩ := on_grid
  simp only [movedBy, Bool.and_eq_true, beq_iff_eq] at moved
  obtain ⟨⟨⟨⟨sheets, colsFixed⟩, rowsFixed⟩, col_moved⟩, row_moved⟩ := moved
  exact shifted_eq_some_iff.2 ⟨sheets, colsFixed, rowsFixed,
    axisAfter_of_axisMoved col_pos col_le (by decide) col_moved,
    axisAfter_of_axisMoved row_pos row_le (by decide) row_moved⟩

theorem movedBy_of_shifted {before after : Reference} {distance : Distance}
    (on_grid : before.OnGrid) (rows_word : distance.rows.natAbs < 4294967296)
    (cols_word : distance.cols.natAbs < 4294967296)
    (shifted : before.shifted distance = some after) : before.movedBy distance after := by
  obtain ⟨row_pos, row_le, col_pos, col_le⟩ := on_grid
  simp only [lastRow, lastColumn] at row_le col_le
  obtain ⟨sheets, colsFixed, rowsFixed, col_after, row_after⟩ := shifted_eq_some_iff.1 shifted
  have col_moved := axisMoved_of_axisAfter (by omega) cols_word (by decide) col_after
  have row_moved := axisMoved_of_axisAfter (by omega) rows_word (by decide) row_after
  simp only [movedBy, Bool.and_eq_true, beq_iff_eq]
  exact ⟨⟨⟨⟨sheets, colsFixed⟩, rowsFixed⟩, col_moved⟩, row_moved⟩

theorem axisMoved_symm {fixed : Bool} {before after : Nat} {delta : Int}
    (moved : axisMoved fixed before after delta) : axisMoved fixed after before (-delta) := by
  cases fixed with
  | true =>
    have same : before = after := by simpa [axisMoved] using moved
    simp [axisMoved, same]
  | false =>
    have sum : (after : Int) - before = delta := by simpa [axisMoved] using moved
    simp only [axisMoved, Bool.false_eq_true, if_false, beq_iff_eq]
    omega

theorem axisMoved_trans {fixed : Bool} {first second third : Nat} {delta delta' : Int}
    (moved : axisMoved fixed first second delta) (moved' : axisMoved fixed second third delta') :
    axisMoved fixed first third (delta + delta') := by
  cases fixed with
  | true =>
    have same : first = second := by simpa [axisMoved] using moved
    have same' : second = third := by simpa [axisMoved] using moved'
    simp [axisMoved, same, same']
  | false =>
    have sum : (second : Int) - first = delta := by simpa [axisMoved] using moved
    have sum' : (third : Int) - second = delta' := by simpa [axisMoved] using moved'
    simp only [axisMoved, Bool.false_eq_true, if_false, beq_iff_eq]
    omega

theorem movedBy_symm {before after : Reference} {origin candidate : Address}
    (moved : before.movedBy (.between origin candidate) after) :
    after.movedBy (.between candidate origin) before := by
  simp only [movedBy, Bool.and_eq_true, beq_iff_eq] at moved ⊢
  obtain ⟨⟨⟨⟨sheets, colsFixed⟩, rowsFixed⟩, col_moved⟩, row_moved⟩ := moved
  have cols : (Distance.between candidate origin).cols =
      -(Distance.between origin candidate).cols := by
    simp only [Distance.between]
    omega
  have rows : (Distance.between candidate origin).rows =
      -(Distance.between origin candidate).rows := by
    simp only [Distance.between]
    omega
  rw [cols, rows, ← colsFixed, ← rowsFixed]
  exact ⟨⟨⟨⟨sheets.symm, rfl⟩, rfl⟩, axisMoved_symm col_moved⟩, axisMoved_symm row_moved⟩

theorem movedBy_trans {first second third : Reference} {origin middle candidate : Address}
    (moved : first.movedBy (.between origin middle) second)
    (moved' : second.movedBy (.between middle candidate) third) :
    first.movedBy (.between origin candidate) third := by
  simp only [movedBy, Bool.and_eq_true, beq_iff_eq] at moved moved' ⊢
  obtain ⟨⟨⟨⟨sheets, colsFixed⟩, rowsFixed⟩, col_moved⟩, row_moved⟩ := moved
  obtain ⟨⟨⟨⟨sheets', colsFixed'⟩, rowsFixed'⟩, col_moved'⟩, row_moved'⟩ := moved'
  rw [← colsFixed] at col_moved'
  rw [← rowsFixed] at row_moved'
  have cols : (Distance.between origin candidate).cols =
      (Distance.between origin middle).cols + (Distance.between middle candidate).cols := by
    simp only [Distance.between]
    omega
  have rows : (Distance.between origin candidate).rows =
      (Distance.between origin middle).rows + (Distance.between middle candidate).rows := by
    simp only [Distance.between]
    omega
  rw [cols, rows]
  exact ⟨⟨⟨⟨sheets.trans sheets', colsFixed.trans colsFixed'⟩, rowsFixed.trans rowsFixed'⟩,
    axisMoved_trans col_moved col_moved'⟩, axisMoved_trans row_moved row_moved'⟩

theorem eq_of_movedBy {before after : Reference} {distance : Distance}
    (constant : before.isVariable = false) (moved : before.movedBy distance after) :
    before = after := by
  simp only [isVariable, isFullyFixed, Bool.not_eq_false', Bool.and_eq_true] at constant
  simp only [movedBy, Bool.and_eq_true, beq_iff_eq, axisMoved, constant, if_true] at moved
  cases before
  cases after
  simp_all

end Reference

end FormulaRuns
