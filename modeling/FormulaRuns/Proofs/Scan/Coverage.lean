import FormulaRuns.Proofs.Ascending
import FormulaRuns.Proofs.Scan.Line
import FormulaRuns.Proofs.Scan.Rectangle
import FormulaRuns.Proofs.Workbook.Extent
import Mathlib.Data.List.Perm.Basic

/-!
What a report records. Every scanned cell has an outcome, and a report keeps the cells of all
outcomes: no two clusters begin in one cell, so none of them takes the place of another in the
registry (`ofOutcomes_records`, `merge_records`). So each scanned cell is accounted for once
(`scanSheets_account_for_each_cell`).
-/
namespace FormulaRuns

theorem flatMap_outcomesOf_cells (source : Source) (lines : List (List Address)) :
    (outcomesOf source lines).flatMap (·.cells) = lines.flatten := by
  induction lines with
  | nil => rfl
  | cons line lines ih =>
    rw [outcomesOf, List.flatMap_cons, List.flatMap_append, flatMap_lineOutcomes_cells,
      source.visits_cells, ← outcomesOf, ih, List.flatten_cons]

def sortedCells (outcomes : List Outcome) : List Address :=
  (outcomes.filterMap Report.cluster?).flatMap (·.cells) ++
    outcomes.filterMap Report.discarded? ++ outcomes.filterMap Report.skipped?

theorem sortedCells_perm (outcomes : List Outcome) :
    (sortedCells outcomes).Perm (outcomes.flatMap (·.cells)) := by
  induction outcomes with
  | nil => exact .refl _
  | cons outcome outcomes ih =>
    rw [List.flatMap_cons]
    refine .trans ?_ (ih.append_left _)
    cases outcome with
    | clustered cluster =>
      simp [sortedCells, List.filterMap_cons, Report.cluster?, Report.discarded?, Report.skipped?]
    | discarded cell =>
      simp only [sortedCells, List.filterMap_cons, Report.cluster?, Report.discarded?,
        Report.skipped?, List.append_assoc]
      exact List.perm_middle
    | skipped cell =>
      simp only [sortedCells, List.filterMap_cons, Report.cluster?, Report.discarded?,
        Report.skipped?]
      exact List.perm_middle

theorem origins_sublist (outcomes : List Outcome) :
    ((outcomes.filterMap Report.cluster?).map (·.origin)).Sublist
      (outcomes.flatMap (·.cells)) := by
  induction outcomes with
  | nil => exact .slnil
  | cons outcome outcomes ih =>
    rw [List.flatMap_cons]
    cases outcome with
    | clustered cluster =>
      exact (ih.trans (List.sublist_append_right cluster.members _)).cons_cons cluster.origin
    | discarded cell | skipped cell => exact ih.cons _

namespace Report

/-- The cells of clusters, the discarded ones and the skipped ones. -/
def cells (report : Report) : List Address :=
  report.registry.clusters.flatMap (·.cells) ++ report.discarded ++ report.skipped

theorem accounted_eq_length (report : Report) : report.accounted = report.cells.length := by
  simp [accounted, cells, Registry.cellCount, Nat.add_assoc]

def entriesOf (outcomes : List Outcome) : List (Address × Cluster) :=
  (outcomes.filterMap cluster?).map fun cluster => (cluster.origin, cluster)

/-- The report holds these outcomes and no others. -/
structure Records (report : Report) (outcomes : List Outcome) : Prop where
  entries : report.registry.entries.Perm (entriesOf outcomes)
  discarded : report.discarded = outcomes.filterMap discarded?
  skipped : report.skipped = outcomes.filterMap skipped?
  visited : report.visited = (outcomes.flatMap (·.cells)).length

namespace Records

variable {report other : Report} {outcomes others : List Outcome}

theorem clusters_perm (records : report.Records outcomes) :
    report.registry.clusters.Perm (outcomes.filterMap cluster?) := by
  have mapped := records.entries.map (·.2)
  simpa [entriesOf, Registry.clusters, Function.comp_def] using mapped

theorem cells_perm (records : report.Records outcomes) :
    report.cells.Perm (outcomes.flatMap (·.cells)) := by
  rw [cells, records.discarded, records.skipped]
  refine .trans ?_ (sortedCells_perm outcomes)
  exact ((records.clusters_perm.flatMap_right _).append_right _).append_right _

theorem visited_eq_accounted (records : report.Records outcomes) :
    report.visited = report.accounted := by
  rw [records.visited, accounted_eq_length, records.cells_perm.length_eq]

theorem mem_clusters (records : report.Records outcomes) {cluster : Cluster} :
    cluster ∈ report.registry.clusters ↔ .clustered cluster ∈ outcomes := by
  rw [records.clusters_perm.mem_iff, List.mem_filterMap]
  constructor
  · rintro ⟨outcome, member, clustered⟩
    cases outcome with
    | clustered => exact Option.some.inj clustered ▸ member
    | discarded | skipped => cases clustered
  · intro member
    exact ⟨_, member, rfl⟩

end Records

theorem entriesOf_keys (outcomes : List Outcome) :
    (entriesOf outcomes).map (·.1) = (outcomes.filterMap cluster?).map (·.origin) := by
  simp [entriesOf, Function.comp_def]

theorem entriesOf_append (outcomes others : List Outcome) :
    entriesOf (outcomes ++ others) = entriesOf outcomes ++ entriesOf others := by
  simp [entriesOf]

theorem entriesOf_distinct {outcomes : List Outcome}
    (distinct : (outcomes.flatMap (·.cells)).Nodup) : ((entriesOf outcomes).map (·.1)).Nodup := by
  rw [entriesOf_keys]
  exact distinct.sublist (origins_sublist outcomes)

theorem foldl_insert_entries (clusters : List Cluster) (registry : Registry) :
    (clusters.foldl Registry.insert registry).entries =
      (clusters.map fun cluster => (cluster.origin, cluster)).foldl
        (fun table (key, value) => insertEntry key value table) registry.entries := by
  induction clusters generalizing registry with
  | nil => rfl
  | cons cluster clusters ih => exact ih (registry.insert cluster)

theorem ofOutcomes_records {outcomes : List Outcome}
    (distinct : (outcomes.flatMap (·.cells)).Nodup) :
    (ofOutcomes (outcomes.flatMap (·.cells)).length outcomes).Records outcomes where
  entries := by
    rw [ofOutcomes, foldl_insert_entries]
    exact foldl_insertEntry_perm (entriesOf_distinct distinct)
  discarded := rfl
  skipped := rfl
  visited := rfl

theorem empty_records : empty.Records [] where
  entries := .refl _
  discarded := rfl
  skipped := rfl
  visited := rfl

theorem merge_records {report other : Report} {outcomes others : List Outcome}
    (records : report.Records outcomes) (other_records : other.Records others)
    (distinct : ((outcomes ++ others).flatMap (·.cells)).Nodup) :
    (report.merge other).Records (outcomes ++ others) where
  entries := by
    have all_entries : (report.registry.entries ++ other.registry.entries).Perm
        (entriesOf (outcomes ++ others)) := by
      rw [entriesOf_append]
      exact records.entries.append other_records.entries
    have all_distinct := ((all_entries.map (·.1)).nodup_iff).2 (entriesOf_distinct distinct)
    exact (foldl_insertEntry_perm all_distinct).trans all_entries
  discarded := by simp [merge, records.discarded, other_records.discarded]
  skipped := by simp [merge, records.skipped, other_records.skipped]
  visited := by simp [merge, records.visited, other_records.visited]

end Report

namespace ScanConfig

theorem scanSheet_records (config : ScanConfig) (source : Source) (sheet : String) :
    (config.scanSheet source sheet).Records
      (outcomesOf source (config.scannedLines source sheet)) := by
  have cells := flatMap_outcomesOf_cells source (config.scannedLines source sheet)
  have distinct : ((outcomesOf source (config.scannedLines source sheet)).flatMap
      (·.cells)).Nodup := by
    rw [cells]
    exact config.scannedLines_nodup source sheet
  rw [scanSheet_eq_scanLines, scanLines_eq, ← cells]
  exact Report.ofOutcomes_records distinct

def sheetOutcomes (config : ScanConfig) (source : Source) (sheets : List String) : List Outcome :=
  sheets.flatMap fun sheet => outcomesOf source (config.scannedLines source sheet)

theorem flatMap_sheetOutcomes_cells (config : ScanConfig) (source : Source)
    (sheets : List String) :
    (config.sheetOutcomes source sheets).flatMap (·.cells) = config.scannedCells source sheets := by
  induction sheets with
  | nil => rfl
  | cons sheet sheets ih =>
    rw [sheetOutcomes, List.flatMap_cons, List.flatMap_append, flatMap_outcomesOf_cells,
      ← sheetOutcomes, ih, scannedCells, scannedCells, List.flatMap_cons]

-- The invariant: the report records the sheets so far, and no cell of those to come is among them.
theorem foldl_merge_records (config : ScanConfig) (source : Source) {sheets : List String}
    {report : Report} {outcomes : List Outcome} (records : report.Records outcomes)
    (distinct : ((outcomes ++ config.sheetOutcomes source sheets).flatMap (·.cells)).Nodup) :
    ((sheets.map (config.scanSheet source)).foldl Report.merge report).Records
      (outcomes ++ config.sheetOutcomes source sheets) := by
  induction sheets generalizing report outcomes with
  | nil => simpa [sheetOutcomes] using records
  | cons sheet sheets ih =>
    have split : outcomes ++ config.sheetOutcomes source (sheet :: sheets) =
        (outcomes ++ outcomesOf source (config.scannedLines source sheet)) ++
          config.sheetOutcomes source sheets := by
      simp [sheetOutcomes]
    rw [split] at distinct ⊢
    have front_distinct := distinct
    rw [List.flatMap_append] at front_distinct
    have merged := Report.merge_records records (config.scanSheet_records source sheet)
      front_distinct.of_append_left
    exact ih merged distinct

theorem scanSheets_records (config : ScanConfig) (source : Source) {sheets : List String}
    (distinct : sheets.Nodup) :
    (config.scanSheets source sheets).Records (config.sheetOutcomes source sheets) := by
  have cells_distinct : ((config.sheetOutcomes source sheets).flatMap (·.cells)).Nodup := by
    rw [flatMap_sheetOutcomes_cells]
    exact config.scannedCells_nodup source distinct
  exact config.foldl_merge_records source Report.empty_records cells_distinct

theorem scanSheets_cells_perm (config : ScanConfig) (source : Source) {sheets : List String}
    (distinct : sheets.Nodup) :
    (config.scanSheets source sheets).cells.Perm (config.scannedCells source sheets) := by
  rw [← flatMap_sheetOutcomes_cells]
  exact (config.scanSheets_records source distinct).cells_perm

theorem standard_scans_of_stored {book : Workbook} (built : book.Built) {cell : Address}
    (stored : cell ∈ book.storedCells) (row_pos : 1 ≤ cell.row) (col_pos : 1 ≤ cell.col) :
    standard.Scans book.source cell := by
  obtain ⟨rows, cols, extent, in_rows, in_cols⟩ := built.extent_of_stored stored
  exact ⟨rows, cols, extent, ⟨row_pos, in_rows⟩, col_pos, in_cols⟩

end ScanConfig

/-- Each cell of the scanned rectangles is in one cluster, discarded or skipped, once and in one of
the three ways only, and no other cell is. With the standard configuration these rectangles hold
all stored cells of a workbook that have a place on the grid. -/
theorem scanSheets_account_for_each_cell {sheets : List String} (distinct : sheets.Nodup) :
    (∀ (config : ScanConfig) (source : Source),
      (config.scanSheets source sheets).cells.Nodup ∧
      (∀ cell, cell ∈ (config.scanSheets source sheets).cells ↔
        cell.sheet ∈ sheets ∧ config.Scans source cell) ∧
      (config.scanSheets source sheets).visited = (config.scanSheets source sheets).accounted) ∧
    ∀ book : Workbook, book.Built → book.sheets.Nodup ∧ ∀ cell ∈ book.storedCells,
      cell.sheet ∈ book.sheets ∧
      (cell.sheet ∈ sheets → 1 ≤ cell.row → 1 ≤ cell.col →
        (ScanConfig.standard.scanSheets book.source sheets).cells.count cell = 1) := by
  have nodup (config : ScanConfig) (source : Source) :
      (config.scanSheets source sheets).cells.Nodup :=
    (config.scanSheets_cells_perm source distinct).nodup_iff.2
      (config.scannedCells_nodup source distinct)
  have covered (config : ScanConfig) (source : Source) (cell : Address) :
      cell ∈ (config.scanSheets source sheets).cells ↔
        cell.sheet ∈ sheets ∧ config.Scans source cell := by
    rw [(config.scanSheets_cells_perm source distinct).mem_iff, ScanConfig.mem_scannedCells]
  constructor
  · intro config source
    have records := config.scanSheets_records source distinct
    exact ⟨nodup config source, covered config source, records.visited_eq_accounted⟩
  · intro book built
    refine ⟨built.sheets_nodup, fun cell stored => ⟨built.tidy.known cell stored, ?_⟩⟩
    intro listed row_pos col_pos
    have scans := ScanConfig.standard_scans_of_stored built stored row_pos col_pos
    exact List.count_eq_one_of_mem (nodup .standard book.source)
      ((covered .standard book.source cell).2 ⟨listed, scans⟩)

theorem columnBook_built : columnBook.Built :=
  .formulaRole _ (.value _ _ (.value _ _ .empty))

theorem scanSheets_account_for_each_cell_on_two_sheets :
    ["S", "T"].Nodup ∧ (columnConfig.scanSheets columnSource ["S", "T"]).cells.Nodup ∧
    ⟨"S", 2, 3⟩ ∈ (columnConfig.scanSheets columnSource ["S", "T"]).cells ∧
    ⟨"T", 3, 3⟩ ∉ (columnConfig.scanSheets columnSource ["S", "T"]).cells ∧
    (columnConfig.scanSheets columnSource ["S", "T"]).visited =
      (columnConfig.scanSheets columnSource ["S", "T"]).accounted ∧
    columnBook.Built ∧ ⟨"S", 2, 3⟩ ∈ columnBook.storedCells ∧ "S" ∈ columnBook.sheets ∧
    (ScanConfig.standard.scanSheets columnBook.source ["S", "T"]).cells.count ⟨"S", 2, 3⟩ = 1 := by
  have distinct : ["S", "T"].Nodup := by decide
  obtain ⟨scans, books⟩ := scanSheets_account_for_each_cell distinct
  obtain ⟨once, covered, accounted⟩ := scans columnConfig columnSource
  have stored : ⟨"S", 2, 3⟩ ∈ columnBook.storedCells := by decide
  obtain ⟨known, counted⟩ := (books columnBook columnBook_built).2 ⟨"S", 2, 3⟩ stored
  have inside : columnConfig.Scans columnSource ⟨"S", 2, 3⟩ := ⟨2, 3, rfl, by decide, by decide⟩
  have outside : ¬columnConfig.Scans columnSource ⟨"T", 3, 3⟩ := by
    rintro ⟨rows, cols, ends, below, -⟩
    cases ends
    exact absurd below (by decide)
  refine ⟨distinct, once, (covered _).2 ⟨by decide, inside⟩, ?_, accounted, columnBook_built,
    stored, known, counted (by decide) (by decide) (by decide)⟩
  rw [covered]
  rintro ⟨-, scanned⟩
  exact outside scanned

end FormulaRuns
