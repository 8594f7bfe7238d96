import FormulaRuns.Proofs.Ascending
import FormulaRuns.Workbook.Basic

namespace FormulaRuns.Workbook

/-- The workbooks that can be put together from nothing. A formula is a value. -/
inductive Built : Workbook → Prop
  | empty : Built .empty
  | value {book : Workbook} (cell : Address) (value : Value) : Built book →
      Built (book.setValue cell value)
  | role {book : Workbook} (cell : Address) (role : Role) : Built book →
      Built (book.setRole cell role)
  | formulaRole {book : Workbook} (role : Role) : Built book → Built (book.setFormulaRole role)
  | block {book : Workbook} (corner : Address) (rows : List (List Value)) : Built book →
      Built (book.setBlock corner rows)

def storedCells (book : Workbook) : List Address := book.values.map (·.1)

structure Tidy (book : Workbook) : Prop where
  sheets : Ascending book.sheets
  known : ∀ cell ∈ book.storedCells, cell.sheet ∈ book.sheets

theorem addSheet_tidy {book : Workbook} (tidy : book.Tidy) (sheet : String) :
    (book.addSheet sheet).Tidy where
  sheets := insertDistinct_ascending tidy.sheets
  known cell stored := mem_insertDistinct.2 (.inr (tidy.known cell stored))

theorem enter_tidy {book : Workbook} (tidy : book.Tidy) (sheet : String)
    {cells : List (Address × Value)} (on_sheet : ∀ entry ∈ cells, entry.1.sheet = sheet) :
    Tidy { book.addSheet sheet with values := cells ++ book.values } where
  sheets := (addSheet_tidy tidy sheet).sheets
  known cell stored := by
    obtain ⟨entry, member, rfl⟩ := List.mem_map.1 stored
    rcases List.mem_append.1 member with entered | member
    · exact mem_insertDistinct.2 (.inl (on_sheet entry entered))
    · exact (addSheet_tidy tidy sheet).known entry.1 (List.mem_map_of_mem member)

theorem rowCells_sheet {corner : Address} {down : Nat} {row : List Value}
    {entry : Address × Value} (member : entry ∈ rowCells corner down row) :
    entry.1.sheet = corner.sheet := by
  obtain ⟨place, -, rfl⟩ := List.mem_map.1 member
  rfl

theorem Built.tidy {book : Workbook} (built : book.Built) : book.Tidy := by
  induction built with
  | empty => exact ⟨.nil, by simp [storedCells, Workbook.empty]⟩
  | value cell value _ tidy =>
    have on_sheet : ∀ entry ∈ [(cell, value)], entry.1.sheet = cell.sheet := by simp
    exact enter_tidy tidy cell.sheet on_sheet
  | role _ _ _ tidy => exact ⟨tidy.sheets, tidy.known⟩
  | formulaRole _ _ tidy => exact ⟨tidy.sheets, tidy.known⟩
  | block corner rows _ tidy =>
    apply enter_tidy tidy corner.sheet
    intro entry member
    obtain ⟨place, -, entered⟩ := List.mem_flatMap.1 (List.mem_reverse.1 member)
    exact rowCells_sheet entered

theorem Built.sheets_nodup {book : Workbook} (built : book.Built) : book.sheets.Nodup := by
  apply built.tidy.sheets.imp
  rintro sheet _ order rfl
  have same : compare sheet sheet = .eq := Std.ReflCmp.compare_self
  rw [same] at order
  cases order

theorem le_foldl_max {n : Nat} {ns : List Nat} (member : n ∈ ns) : n ≤ ns.foldl max 0 := by
  rw [List.foldl_max_eq_max (List.ne_nil_of_mem member)]
  exact Nat.le_trans (List.le_max_of_mem member) (Nat.le_max_right 0 _)

theorem Built.extent_of_stored {book : Workbook} (built : book.Built) {cell : Address}
    (stored : cell ∈ book.storedCells) :
    ∃ rows cols, book.extent cell.sheet = some (rows, cols) ∧
      cell.row ≤ rows ∧ cell.col ≤ cols := by
  have known := built.tidy.known cell stored
  have on_sheet : cell ∈ book.cellsOn cell.sheet :=
    List.mem_filter.2 ⟨stored, beq_self_eq_true _⟩
  have row_below := le_foldl_max (List.mem_map_of_mem (f := (·.row)) on_sheet)
  have col_below := le_foldl_max (List.mem_map_of_mem (f := (·.col)) on_sheet)
  exact ⟨_, _, if_pos known, row_below, col_below⟩

end FormulaRuns.Workbook
