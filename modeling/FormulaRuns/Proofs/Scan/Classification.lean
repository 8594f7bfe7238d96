import FormulaRuns.Proofs.Scan.Coverage

namespace FormulaRuns

section Readings

variable {source : Source} {cell : Address}

def Source.Unreadable (source : Source) (cell : Address) : Prop :=
  ∃ text error, source.formula cell = some text ∧ Formula.parse text = .error error

theorem reading_eq_skipped_iff :
    source.reading cell = .skipped ↔ source.role cell = none ∨ source.Unreadable cell := by
  simp only [Source.reading, Source.Unreadable]
  cases source.role cell with
  | none => simp
  | some role =>
    cases source.formula cell with
    | none => simp
    | some text => cases parsed : Formula.parse text <;> simp [parsed]

theorem reading_eq_literal {role : Role} (has_role : source.role cell = some role)
    (no_formula : source.formula cell = none) : source.reading cell = .literal := by
  simp only [Source.reading, has_role, no_formula]

theorem formula_eq_none_of_isEmpty (empty : (source.value cell).isEmpty) :
    source.formula cell = none := by
  rw [source.formula_agrees]
  cases held : source.value cell with
  | text s =>
    have no_text : s = "" := by simpa [held, Value.isEmpty] using empty
    simp [Value.formula?, no_text]
  | _ => rfl

end Readings

/-- Whether the outcome is one that a cell can have that is this to the scanner. -/
def Reading.Allows (cell : Address) (outcome : Outcome) : Reading → Prop
  | skipped => outcome = .skipped cell
  | literal => outcome = .discarded cell
  | formula _ _ =>
    outcome = .discarded cell ∨ ∃ cluster, outcome = .clustered cluster ∧ cell ∈ cluster.cells

theorem runOutcome_ne_skipped (origin : Address) (role : Role) (tree : Tree)
    (followers : List Visit) (cell : Address) :
    runOutcome origin role tree followers ≠ .skipped cell := by
  cases last : followers.getLast?.bind (joins origin role tree) <;> simp [runOutcome, last]

theorem runOutcome_allowed {origin cell : Address} {role role' : Role} {tree tree' : Tree}
    {followers : List Visit} (inside : cell ∈ (runOutcome origin role tree followers).cells) :
    (Reading.formula role' tree').Allows cell (runOutcome origin role tree followers) := by
  cases outcome : runOutcome origin role tree followers with
  | skipped other => exact absurd outcome (runOutcome_ne_skipped origin role tree followers other)
  | discarded other =>
    rw [outcome] at inside
    exact .inl (congrArg Outcome.discarded (List.mem_singleton.1 inside).symm)
  | clustered cluster =>
    rw [outcome] at inside
    exact .inr ⟨cluster, rfl, inside⟩

theorem lineOutcomes_allowed {line : List Visit} {visit : Visit} (member : visit ∈ line) :
    ∃ outcome ∈ lineOutcomes line, visit.2.Allows visit.1 outcome := by
  fun_induction lineOutcomes line with
  | case1 => cases member
  | case2 cell rest ih | case3 cell rest ih =>
    rcases List.mem_cons.1 member with rfl | later
    · exact ⟨_, List.mem_cons_self, rfl⟩
    · obtain ⟨outcome, present, allowed⟩ := ih later
      exact ⟨outcome, List.mem_cons_of_mem _ present, allowed⟩
  | case4 cell role tree rest continues ih =>
    have run_cells : (runOutcome cell role tree (rest.takeWhile continues)).cells =
        cell :: (rest.takeWhile continues).map (·.1) :=
      runOutcome_cells fun visit present => List.mem_takeWhile_imp (p := continues) present
    rcases List.mem_cons.1 member with rfl | later
    · exact ⟨_, List.mem_cons_self, runOutcome_allowed (by simp [run_cells])⟩
    · rw [← List.takeWhile_append_dropWhile (p := continues) (l := rest)] at later
      rcases List.mem_append.1 later with follower | behind
      · have continued : continues visit := List.mem_takeWhile_imp follower
        obtain ⟨tree', read, -⟩ := joins_isSome_iff.1 continued
        refine ⟨_, List.mem_cons_self, ?_⟩
        rw [read]
        exact runOutcome_allowed (by simp [run_cells, List.mem_map_of_mem follower])
      · obtain ⟨outcome, present, allowed⟩ := ih behind
        exact ⟨outcome, List.mem_cons_of_mem _ present, allowed⟩

theorem mem_of_skipped {line : List Visit} {cell : Address}
    (skipped : .skipped cell ∈ lineOutcomes line) : (cell, .skipped) ∈ line := by
  fun_induction lineOutcomes line with
  | case1 => cases skipped
  | case2 other rest ih =>
    rcases List.mem_cons.1 skipped with same | later
    · cases same
      exact List.mem_cons_self
    · exact List.mem_cons_of_mem _ (ih later)
  | case3 other rest ih =>
    rcases List.mem_cons.1 skipped with same | later
    · cases same
    · exact List.mem_cons_of_mem _ (ih later)
  | case4 other role tree rest continues ih =>
    rcases List.mem_cons.1 skipped with same | later
    · exact absurd same.symm (runOutcome_ne_skipped other role tree _ cell)
    · exact List.mem_cons_of_mem _ ((List.dropWhile_sublist _).subset (ih later))

section Reports

variable {config : ScanConfig} {source : Source} {cell : Address}

theorem exists_allowed_outcome (scanned : config.Scans source cell) :
    ∃ outcome ∈ outcomesOf source (config.scannedLines source cell.sheet),
      (source.reading cell).Allows cell outcome := by
  obtain ⟨line, listed, member⟩ :=
    List.mem_flatten.1 (ScanConfig.mem_scannedLines.2 ⟨rfl, scanned⟩)
  have visited : (cell, source.reading cell) ∈ source.visits line :=
    List.mem_map_of_mem (f := fun cell => (cell, source.reading cell)) member
  obtain ⟨outcome, present, allowed⟩ := lineOutcomes_allowed visited
  exact ⟨outcome, List.mem_flatMap.2 ⟨line, listed, present⟩, allowed⟩

theorem reading_eq_skipped_of_outcome {lines : List (List Address)}
    (skipped : .skipped cell ∈ outcomesOf source lines) : source.reading cell = .skipped := by
  obtain ⟨line, -, present⟩ := List.mem_flatMap.1 skipped
  obtain ⟨other, -, same⟩ := List.mem_map.1 (mem_of_skipped present)
  obtain ⟨rfl, read⟩ := Prod.mk.inj same
  exact read

namespace Report

theorem skipped?_eq_some_iff {outcome : Outcome} :
    skipped? outcome = some cell ↔ outcome = .skipped cell := by
  cases outcome <;> simp [skipped?]

theorem discarded?_eq_some_iff {outcome : Outcome} :
    discarded? outcome = some cell ↔ outcome = .discarded cell := by
  cases outcome <;> simp [discarded?]

namespace Records

variable {report : Report} {outcomes : List Outcome} (records : report.Records outcomes)
include records

theorem mem_skipped : cell ∈ report.skipped ↔ .skipped cell ∈ outcomes := by
  simp [records.skipped, skipped?_eq_some_iff]

theorem mem_discarded : cell ∈ report.discarded ↔ .discarded cell ∈ outcomes := by
  simp [records.discarded, discarded?_eq_some_iff]

end Records

end Report

theorem mem_skipped_iff (scanned : config.Scans source cell) :
    cell ∈ (config.scanSheet source cell.sheet).skipped ↔
      source.role cell = none ∨ source.Unreadable cell := by
  have records := config.scanSheet_records source cell.sheet
  rw [records.mem_skipped, ← reading_eq_skipped_iff]
  constructor
  · exact reading_eq_skipped_of_outcome
  · intro read
    obtain ⟨outcome, present, allowed⟩ := exists_allowed_outcome scanned
    rw [read] at allowed
    obtain rfl : outcome = .skipped cell := allowed
    exact present

theorem mem_discarded_of_no_formula (scanned : config.Scans source cell) {role : Role}
    (has_role : source.role cell = some role) (no_formula : source.formula cell = none) :
    cell ∈ (config.scanSheet source cell.sheet).discarded := by
  rw [(config.scanSheet_records source cell.sheet).mem_discarded]
  obtain ⟨outcome, present, allowed⟩ := exists_allowed_outcome scanned
  rw [reading_eq_literal has_role no_formula] at allowed
  obtain rfl : outcome = .discarded cell := allowed
  exact present

theorem discarded_or_clustered (scanned : config.Scans source cell) {role : Role} {tree : Tree}
    (read : source.reading cell = .formula role tree) :
    cell ∈ (config.scanSheet source cell.sheet).discarded ∨
      ∃ cluster ∈ (config.scanSheet source cell.sheet).registry.clusters,
        cell ∈ cluster.cells := by
  have records := config.scanSheet_records source cell.sheet
  obtain ⟨outcome, present, allowed⟩ := exists_allowed_outcome scanned
  rw [read] at allowed
  rcases allowed with rfl | ⟨cluster, rfl, inside⟩
  · exact .inl (records.mem_discarded.2 present)
  · exact .inr ⟨cluster, records.mem_clusters.2 present, inside⟩

end Reports

/-- A scanned cell is skipped if it has no role or holds a formula that cannot be read. With a role
it is discarded if it holds no formula, and otherwise discarded or in a cluster. To skip the empty
cells as well would make a difference for those that have a role, and for no others. -/
theorem scanSheet_sorts_cell {config : ScanConfig} {source : Source} {cell : Address}
    (scanned : config.Scans source cell) :
    (cell ∈ (config.scanSheet source cell.sheet).skipped ↔
      source.role cell = none ∨ source.Unreadable cell) ∧
    (∀ role, source.role cell = some role → source.formula cell = none →
      cell ∈ (config.scanSheet source cell.sheet).discarded) ∧
    (∀ role text formula, source.role cell = some role → source.formula cell = some text →
      Formula.parse text = .ok formula →
      cell ∈ (config.scanSheet source cell.sheet).discarded ∨
        ∃ cluster ∈ (config.scanSheet source cell.sheet).registry.clusters,
          cell ∈ cluster.cells) ∧
    ((cell ∈ (config.scanSheet source cell.sheet).skipped ↔
        source.role cell = none ∨ (source.value cell).isEmpty ∨ source.Unreadable cell) ↔
      ((source.value cell).isEmpty → source.role cell = none)) := by
  have skipped := mem_skipped_iff scanned
  refine ⟨skipped, fun role => mem_discarded_of_no_formula scanned, ?_, ?_⟩
  · intro role text formula has_role present parsed
    exact discarded_or_clustered scanned
      (reading_eq_formula_iff.2 ⟨has_role, text, formula, present, parsed, rfl⟩)
  · rw [skipped]
    constructor
    · intro same empty
      refine (same.2 (.inr (.inl empty))).resolve_right ?_
      rintro ⟨text, error, present, -⟩
      rw [formula_eq_none_of_isEmpty empty] at present
      cases present
    · intro roleless
      constructor
      · exact Or.imp_right .inr
      · rintro (none | empty | unreadable)
        · exact .inl none
        · exact .inl (roleless empty)
        · exact .inr unreadable

theorem scanSheet_sorts_cell_of_column :
    columnConfig.Scans columnSource ⟨"S", 1, 3⟩ ∧
    ⟨"S", 1, 3⟩ ∉ (columnConfig.scanSheet columnSource "S").skipped ∧
    (⟨"S", 1, 3⟩ ∈ (columnConfig.scanSheet columnSource "S").discarded ∨
      ∃ cluster ∈ (columnConfig.scanSheet columnSource "S").registry.clusters,
        ⟨"S", 1, 3⟩ ∈ cluster.cells) := by
  have scanned : columnConfig.Scans columnSource ⟨"S", 1, 3⟩ :=
    ⟨2, 3, rfl, by decide, by decide⟩
  have has_role : columnSource.role ⟨"S", 1, 3⟩ = some .decision := rfl
  have present : columnSource.formula ⟨"S", 1, 3⟩ = some "=A1+$B$2" := rfl
  obtain ⟨skipped, -, readable, -⟩ := scanSheet_sorts_cell scanned
  refine ⟨scanned, ?_, readable .decision _ _ has_role present parse_sum.1⟩
  rw [skipped]
  rintro (roleless | ⟨text, error, same, rejected⟩)
  · cases has_role.symm.trans roleless
  · cases present.symm.trans same
    cases parse_sum.1.symm.trans rejected

def roleOnlySource : Source := (Workbook.empty.setRole ⟨"S", 1, 1⟩ .parameter).source

def oneCellConfig : ScanConfig := ⟨.columnMajor, some (1, 1), 1, 1⟩

theorem empty_cell_with_role_discarded :
    oneCellConfig.validate = .ok () ∧ oneCellConfig.Scans roleOnlySource ⟨"S", 1, 1⟩ ∧
    (roleOnlySource.value ⟨"S", 1, 1⟩).isEmpty ∧
    ⟨"S", 1, 1⟩ ∉ (oneCellConfig.scanSheet roleOnlySource "S").skipped ∧
    ⟨"S", 1, 1⟩ ∈ (oneCellConfig.scanSheet roleOnlySource "S").discarded := by
  have scanned : oneCellConfig.Scans roleOnlySource ⟨"S", 1, 1⟩ :=
    ⟨1, 1, rfl, by decide, by decide⟩
  have has_role : roleOnlySource.role ⟨"S", 1, 1⟩ = some .parameter := rfl
  have no_formula : roleOnlySource.formula ⟨"S", 1, 1⟩ = none := rfl
  refine ⟨rfl, scanned, rfl, ?_, mem_discarded_of_no_formula scanned has_role no_formula⟩
  intro skipped
  rcases (mem_skipped_iff scanned).1 skipped with roleless | ⟨text, error, present, -⟩
  · cases roleless
  · cases present

end FormulaRuns
