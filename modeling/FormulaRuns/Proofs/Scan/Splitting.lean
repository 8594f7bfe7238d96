import FormulaRuns.Proofs.Scan.Coverage

namespace FormulaRuns

namespace Report

def Ordered (report : Report) : Prop := AscendingKeys report.registry.entries

theorem empty_ordered : empty.Ordered := .nil

theorem ofOutcomes_ordered (visited : Nat) (outcomes : List Outcome) :
    (ofOutcomes visited outcomes).Ordered := by
  rw [Ordered, ofOutcomes, foldl_insert_entries]
  exact foldl_insertEntry_ascendingKeys .nil _

theorem merge_ordered {report : Report} (ordered : report.Ordered) (other : Report) :
    (report.merge other).Ordered :=
  foldl_insertEntry_ascendingKeys ordered other.registry.entries

theorem foldl_merge_ordered {report : Report} (ordered : report.Ordered) (others : List Report) :
    (others.foldl merge report).Ordered := by
  induction others generalizing report with
  | nil => exact ordered
  | cons other others ih => exact ih (merge_ordered ordered other)

theorem entriesOf_perm {outcomes others : List Outcome} (same : outcomes.Perm others) :
    (entriesOf outcomes).Perm (entriesOf others) :=
  (same.filterMap cluster?).map _

namespace Records

variable {report other : Report} {outcomes others : List Outcome}

theorem registry_eq (records : report.Records outcomes) (other_records : other.Records others)
    (ordered : report.Ordered) (other_ordered : other.Ordered) (same : outcomes.Perm others) :
    report.registry = other.registry := by
  have entries : report.registry.entries.Perm other.registry.entries :=
    records.entries.trans ((entriesOf_perm same).trans other_records.entries.symm)
  exact congrArg Registry.mk (ordered.eq_of_perm other_ordered entries)

theorem report_eq (records : report.Records outcomes) (other_records : other.Records outcomes)
    (ordered : report.Ordered) (other_ordered : other.Ordered) : report = other := by
  have registry := records.registry_eq other_records ordered other_ordered (.refl _)
  have discarded := records.discarded.trans other_records.discarded.symm
  have skipped := records.skipped.trans other_records.skipped.symm
  have visited := records.visited.trans other_records.visited.symm
  cases report
  cases other
  simp_all

theorem visited_eq (records : report.Records outcomes) (other_records : other.Records others)
    (same : outcomes.Perm others) : report.visited = other.visited := by
  rw [records.visited, other_records.visited, (same.flatMap_right _).length_eq]

theorem discarded_perm (records : report.Records outcomes) (other_records : other.Records others)
    (same : outcomes.Perm others) : report.discarded.Perm other.discarded := by
  rw [records.discarded, other_records.discarded]
  exact same.filterMap _

theorem skipped_perm (records : report.Records outcomes) (other_records : other.Records others)
    (same : outcomes.Perm others) : report.skipped.Perm other.skipped := by
  rw [records.skipped, other_records.skipped]
  exact same.filterMap _

end Records

end Report

namespace ScanConfig

variable {config : ScanConfig} {rows cols line : Nat}

theorem scanSheet_ordered (config : ScanConfig) (source : Source) (sheet : String) :
    (config.scanSheet source sheet).Ordered := by
  rw [scanSheet_eq_scanLines, scanLines_eq]
  exact Report.ofOutcomes_ordered _ _

theorem scanSheets_ordered (config : ScanConfig) (source : Source) (sheets : List String) :
    (config.scanSheets source sheets).Ordered :=
  Report.foldl_merge_ordered Report.empty_ordered _

def firstLine (config : ScanConfig) : Nat :=
  match config.order with
  | .columnMajor => config.firstCol
  | .rowMajor => config.firstRow

def lastLine (config : ScanConfig) (rows cols : Nat) : Nat :=
  match config.order with
  | .columnMajor => cols
  | .rowMajor => rows

/-- The scan that ends with the given line. -/
def upTo (config : ScanConfig) (rows cols line : Nat) : ScanConfig :=
  match config.order with
  | .columnMajor => { config with bounds := some (rows, line) }
  | .rowMajor => { config with bounds := some (line, cols) }

/-- The scan that begins behind the given line. -/
def beyond (config : ScanConfig) (line : Nat) : ScanConfig :=
  match config.order with
  | .columnMajor => { config with firstCol := line + 1 }
  | .rowMajor => { config with firstRow := line + 1 }

theorem validate_eq_ok_iff :
    config.validate = .ok () ↔ config.firstRow ≠ 0 ∧ config.firstCol ≠ 0 ∧
      ∀ rows cols, config.bounds = some (rows, cols) → rows ≠ 0 ∧ cols ≠ 0 := by
  obtain ⟨order, bounds, firstRow, firstCol⟩ := config
  rcases bounds with - | ⟨rows, cols⟩
  · simp [validate]
  · by_cases start : firstRow = 0 ∨ firstCol = 0
    · simp only [validate, start, if_true]
      grind
    · by_cases empty : rows = 0 ∨ cols = 0 <;> grind [validate]

theorem upTo_validate (valid : config.validate = .ok ())
    (bounded : config.bounds = some (rows, cols)) (from_first : config.firstLine ≤ line) :
    (config.upTo rows cols line).validate = .ok () := by
  obtain ⟨row_pos, col_pos, bounds_pos⟩ := validate_eq_ok_iff.1 valid
  obtain ⟨rows_pos, cols_pos⟩ := bounds_pos rows cols bounded
  rw [validate_eq_ok_iff]
  cases order : config.order <;> grind [upTo, firstLine]

theorem beyond_validate (valid : config.validate = .ok ()) :
    (config.beyond line).validate = .ok () := by
  obtain ⟨row_pos, col_pos, bounds_pos⟩ := validate_eq_ok_iff.1 valid
  rw [validate_eq_ok_iff]
  cases order : config.order <;> grind [beyond]

theorem interval_split {first last : Nat} (from_first : first ≤ line) (before_last : line < last) :
    interval first last = interval first line ++ interval (line + 1) last := by
  have start : line + 1 = first + (line + 1 - first) := by omega
  have length : last + 1 - first = (line + 1 - first) + (last + 1 - (line + 1)) := by omega
  rw [interval, interval, interval, length, ← List.range'_append_1, ← start]

theorem scannedLines_split (bounded : config.bounds = some (rows, cols))
    (from_first : config.firstLine ≤ line) (before_last : line < config.lastLine rows cols)
    (source : Source) (sheet : String) :
    config.scannedLines source sheet = (config.upTo rows cols line).scannedLines source sheet ++
      (config.beyond line).scannedLines source sheet := by
  obtain ⟨order, bounds, firstRow, firstCol⟩ := config
  obtain rfl : bounds = some (rows, cols) := bounded
  cases order with
  | columnMajor =>
    have cols_split : interval firstCol cols = _ := interval_split from_first before_last
    change (interval firstCol cols).map _ =
      (interval firstCol line).map _ ++ (interval (line + 1) cols).map _
    rw [cols_split, List.map_append]
    rfl
  | rowMajor =>
    have rows_split : interval firstRow rows = _ := interval_split from_first before_last
    change (interval firstRow rows).map _ =
      (interval firstRow line).map _ ++ (interval (line + 1) rows).map _
    rw [rows_split, List.map_append]
    rfl

theorem outcomesOf_append (source : Source) (lines others : List (List Address)) :
    outcomesOf source (lines ++ others) = outcomesOf source lines ++ outcomesOf source others :=
  List.flatMap_append

theorem scanSheet_split (bounded : config.bounds = some (rows, cols))
    (from_first : config.firstLine ≤ line) (before_last : line < config.lastLine rows cols)
    (source : Source) (sheet : String) :
    config.scanSheet source sheet = ((config.upTo rows cols line).scanSheet source sheet).merge
      ((config.beyond line).scanSheet source sheet) := by
  have lines := scannedLines_split bounded from_first before_last source sheet
  have whole := config.scanSheet_records source sheet
  rw [lines, outcomesOf_append] at whole
  have distinct := config.scannedLines_nodup source sheet
  rw [lines, ← flatMap_outcomesOf_cells source, outcomesOf_append] at distinct
  have parts := Report.merge_records ((config.upTo rows cols line).scanSheet_records source sheet)
    ((config.beyond line).scanSheet_records source sheet) distinct
  exact whole.report_eq parts (config.scanSheet_ordered source sheet)
    (Report.merge_ordered (scanSheet_ordered _ source sheet) _)

theorem sheetOutcomes_perm {sheets sheets' : List String} (reordered : sheets.Perm sheets')
    (config : ScanConfig) (source : Source) :
    (config.sheetOutcomes source sheets).Perm (config.sheetOutcomes source sheets') :=
  reordered.flatMap_right _

end ScanConfig

/-- A scan with bounds is the same as its parts before and behind a cut between two lines, merged,
and the order of sheets shows in the order of the discarded and of the skipped cells only. -/
theorem scans_decompose {sheets sheets' : List String} (distinct : sheets.Nodup)
    (reordered : sheets.Perm sheets') (config : ScanConfig) (source : Source) :
    (∀ rows cols line sheet, config.validate = .ok () → config.bounds = some (rows, cols) →
      config.firstLine ≤ line → line < config.lastLine rows cols →
        (config.upTo rows cols line).validate = .ok () ∧ (config.beyond line).validate = .ok () ∧
        config.scanSheet source sheet = ((config.upTo rows cols line).scanSheet source sheet).merge
          ((config.beyond line).scanSheet source sheet)) ∧
    (config.scanSheets source sheets).registry = (config.scanSheets source sheets').registry ∧
    (config.scanSheets source sheets).visited = (config.scanSheets source sheets').visited ∧
    (config.scanSheets source sheets).discarded.Perm (config.scanSheets source sheets').discarded ∧
    (config.scanSheets source sheets).skipped.Perm (config.scanSheets source sheets').skipped := by
  constructor
  · intro rows cols line sheet valid bounded from_first before_last
    exact ⟨ScanConfig.upTo_validate valid bounded from_first, ScanConfig.beyond_validate valid,
      ScanConfig.scanSheet_split bounded from_first before_last source sheet⟩
  · have records := config.scanSheets_records source distinct
    have records' := config.scanSheets_records source (reordered.nodup_iff.1 distinct)
    have same := ScanConfig.sheetOutcomes_perm reordered config source
    have registry := records.registry_eq records' (config.scanSheets_ordered source sheets)
      (config.scanSheets_ordered source sheets') same
    exact ⟨registry, records.visited_eq records' same, records.discarded_perm records' same,
      records.skipped_perm records' same⟩

theorem scans_decompose_between_two_columns :
    ScanConfig.validate ⟨.columnMajor, some (2, 3), 1, 2⟩ = .ok () ∧
    ["S", "T"].Nodup ∧ ["S", "T"].Perm ["T", "S"] ∧
    ScanConfig.scanSheet ⟨.columnMajor, some (2, 3), 1, 2⟩ columnSource "S" =
      (ScanConfig.scanSheet ⟨.columnMajor, some (2, 2), 1, 2⟩ columnSource "S").merge
        (ScanConfig.scanSheet ⟨.columnMajor, some (2, 3), 1, 3⟩ columnSource "S") ∧
    (columnConfig.scanSheets columnSource ["S", "T"]).registry =
      (columnConfig.scanSheets columnSource ["T", "S"]).registry := by
  have distinct : ["S", "T"].Nodup := by decide
  have reordered : ["S", "T"].Perm ["T", "S"] := .swap _ _ _
  obtain ⟨-, -, parts⟩ := (scans_decompose distinct reordered ⟨.columnMajor, some (2, 3), 1, 2⟩
    columnSource).1 2 3 2 "S" rfl rfl (by decide) (by decide)
  exact ⟨rfl, distinct, reordered, parts,
    (scans_decompose distinct reordered columnConfig columnSource).2.1⟩

end FormulaRuns
