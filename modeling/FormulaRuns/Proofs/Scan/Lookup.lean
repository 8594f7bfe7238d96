import FormulaRuns.Proofs.Scan.MaximalRuns
import FormulaRuns.Proofs.Scan.Splitting

namespace FormulaRuns

theorem Cluster.contains_iff {cluster : Cluster} {cell : Address} :
    cluster.contains cell = true ↔ cell ∈ cluster.cells :=
  List.contains_iff_mem

/-- The clusters stand under their origins, in ascending order, and share no cells. -/
structure Registry.Filed (registry : Registry) : Prop where
  ascending : AscendingKeys registry.entries
  keyed : ∀ entry ∈ registry.entries, entry.1 = entry.2.origin
  apart : (registry.clusters.flatMap (·.cells)).Nodup

namespace Registry.Filed

variable {registry : Registry} {cell : Address} {cluster cluster' : Cluster}

theorem get?_eq_some_iff (filed : registry.Filed) :
    registry.get? cell = some cluster ↔ cluster ∈ registry.clusters ∧ cluster.origin = cell := by
  rw [get?, entryAt_eq_some_iff filed.ascending, clusters, List.mem_map]
  constructor
  · intro member
    exact ⟨⟨_, member, rfl⟩, (filed.keyed _ member).symm⟩
  · rintro ⟨⟨⟨key, value⟩, member, rfl⟩, rfl⟩
    rw [← filed.keyed _ member]
    exact member

theorem eq_of_holds (filed : registry.Filed) (registered : cluster ∈ registry.clusters)
    (registered' : cluster' ∈ registry.clusters) (holds : cell ∈ cluster.cells)
    (holds' : cell ∈ cluster'.cells) : cluster = cluster' := by
  have apart := filed.apart
  rw [List.flatMap_def] at apart
  have cells : cluster.cells = cluster'.cells := eq_of_common_cell apart
    (List.mem_map_of_mem registered) (List.mem_map_of_mem registered') holds holds'
  have origins : cluster.origin = cluster'.origin := (List.cons.inj cells).1
  have found := filed.get?_eq_some_iff.2 ⟨registered, rfl⟩
  have found' := filed.get?_eq_some_iff.2 ⟨registered', origins.symm⟩
  exact Option.some.inj (found.symm.trans found')

theorem find?_eq_some_iff (filed : registry.Filed) :
    registry.clusters.find? (·.contains cell) = some cluster ↔
      cluster ∈ registry.clusters ∧ cell ∈ cluster.cells := by
  constructor
  · intro found
    have holds : cluster.contains cell = true := by simpa using List.find?_some found
    exact ⟨List.mem_of_find?_eq_some found, Cluster.contains_iff.1 holds⟩
  · rintro ⟨registered, holds⟩
    cases found : registry.clusters.find? (·.contains cell) with
    | none =>
      exact absurd (Cluster.contains_iff.2 holds) (List.find?_eq_none.1 found _ registered)
    | some other =>
      have other_holds : other.contains cell = true := by simpa using List.find?_some found
      rw [filed.eq_of_holds registered (List.mem_of_find?_eq_some found) holds
        (Cluster.contains_iff.1 other_holds)]

theorem clusterFor?_eq_find? (filed : registry.Filed) (cell : Address) :
    registry.clusterFor? cell = registry.clusters.find? (·.contains cell) := by
  rw [clusterFor?]
  cases found : registry.get? cell with
  | none => rfl
  | some cluster =>
    obtain ⟨registered, rfl⟩ := filed.get?_eq_some_iff.1 found
    exact (filed.find?_eq_some_iff.2 ⟨registered, List.mem_cons_self⟩).symm

theorem holders_le_one (filed : registry.Filed) (cell : Address) :
    (registry.clusters.filter (·.contains cell)).length ≤ 1 := by
  have apart := (List.nodup_flatMap.1 filed.apart).2.sublist
    (List.filter_sublist (p := (·.contains cell)))
  have hold : ∀ cluster ∈ registry.clusters.filter (·.contains cell), cell ∈ cluster.cells := by
    intro cluster member
    exact Cluster.contains_iff.1 (List.mem_filter.1 member).2
  match holders : registry.clusters.filter (·.contains cell) with
  | [] | [_] => simp [holders]
  | first :: second :: others =>
    rw [holders] at apart hold
    have first_apart := (List.pairwise_cons.1 apart).1 second List.mem_cons_self
    exact absurd (hold second (by simp)) (first_apart (hold first (by simp)))

theorem clusterFor?_eq_some_iff (filed : registry.Filed) :
    registry.clusterFor? cell = some cluster ↔
      cluster ∈ registry.clusters ∧ cell ∈ cluster.cells := by
  rw [filed.clusterFor?_eq_find?, filed.find?_eq_some_iff]

theorem clusterFor?_eq_none_iff (filed : registry.Filed) :
    registry.clusterFor? cell = none ↔ cell ∉ registry.clusters.flatMap (·.cells) := by
  rw [Option.eq_none_iff_forall_ne_some, List.mem_flatMap]
  simp only [ne_eq, filed.clusterFor?_eq_some_iff, not_exists]

end Registry.Filed

namespace Report

variable {report : Report}

theorem Records.filed {outcomes : List Outcome} (records : report.Records outcomes)
    (ordered : report.Ordered) (distinct : report.cells.Nodup) : report.registry.Filed where
  ascending := ordered
  keyed entry member := by
    obtain ⟨cluster, -, rfl⟩ := List.mem_map.1 (records.entries.mem_iff.1 member)
    rfl
  apart := by
    rw [cells, List.append_assoc] at distinct
    exact distinct.of_append_left

theorem not_held {cell : Address} (distinct : report.cells.Nodup)
    (other : cell ∈ report.discarded ∨ cell ∈ report.skipped ∨ cell ∉ report.cells) :
    cell ∉ report.registry.clusters.flatMap (·.cells) := by
  intro held
  rw [cells, List.append_assoc] at distinct other
  have apart := (List.nodup_append.1 distinct).2.2 cell held cell
  rcases other with discarded | skipped | absent
  · exact apart (List.mem_append_left _ discarded) rfl
  · exact apart (List.mem_append_right _ skipped) rfl
  · exact absent (List.mem_append_left _ held)

end Report

namespace ScanConfig

variable {sheets : List String}

theorem scanSheets_cells_nodup (config : ScanConfig) (source : Source)
    (distinct : sheets.Nodup) : (config.scanSheets source sheets).cells.Nodup :=
  (config.scanSheets_cells_perm source distinct).nodup_iff.2
    (config.scannedCells_nodup source distinct)

theorem scanSheets_filed (config : ScanConfig) (source : Source) (distinct : sheets.Nodup) :
    (config.scanSheets source sheets).registry.Filed :=
  (config.scanSheets_records source distinct).filed (config.scanSheets_ordered source sheets)
    (config.scanSheets_cells_nodup source distinct)

theorem mem_scanSheets_clusters {config : ScanConfig} {source : Source} {cluster : Cluster}
    (distinct : sheets.Nodup) :
    cluster ∈ (config.scanSheets source sheets).registry.clusters ↔
      ∃ sheet ∈ sheets, cluster ∈ (config.scanSheet source sheet).registry.clusters := by
  simp only [(config.scanSheets_records source distinct).mem_clusters,
    (config.scanSheet_records source _).mem_clusters, sheetOutcomes, List.mem_flatMap]

end ScanConfig

/-- After a scan of distinct sheets, looking up a cell finds the one cluster that holds it, and none
for a cell that was discarded, skipped or not visited. A cluster is filed under its origin only,
and to look there first finds nothing else than a search through all clusters. -/
theorem clusterFor?_finds_holder {sheets : List String} (distinct : sheets.Nodup)
    (config : ScanConfig) (source : Source) (cell : Address) :
    let report := config.scanSheets source sheets
    (∀ cluster, report.registry.clusterFor? cell = some cluster ↔
      cluster ∈ report.registry.clusters ∧ (cell = cluster.origin ∨ cell ∈ cluster.members)) ∧
    (report.registry.clusters.filter (·.contains cell)).length ≤ 1 ∧
    (∀ cluster, report.registry.get? cell = some cluster →
      report.registry.clusters.find? (·.contains cell) = some cluster) ∧
    (cell ∈ report.discarded ∨ cell ∈ report.skipped ∨
        ¬(cell.sheet ∈ sheets ∧ config.Scans source cell) →
      report.registry.clusterFor? cell = none) ∧
    ((report.registry.get? cell).isSome ↔
      ∃ cluster ∈ report.registry.clusters, cluster.origin = cell) := by
  intro report
  have filed : report.registry.Filed := config.scanSheets_filed source distinct
  have visited : cell ∈ report.cells ↔ cell.sheet ∈ sheets ∧ config.Scans source cell := by
    rw [(config.scanSheets_cells_perm source distinct).mem_iff, ScanConfig.mem_scannedCells]
  refine ⟨fun cluster => ?_, filed.holders_le_one cell, ?_, ?_, ?_⟩
  · rw [filed.clusterFor?_eq_some_iff, Cluster.cells, List.mem_cons]
  · intro cluster found
    rw [← filed.clusterFor?_eq_find?, Registry.clusterFor?, found]
  · intro other
    rw [← visited] at other
    exact filed.clusterFor?_eq_none_iff.2
      (Report.not_held (config.scanSheets_cells_nodup source distinct) other)
  · simp only [Option.isSome_iff_exists, filed.get?_eq_some_iff]

theorem clusterFor?_finds_holder_on_two_sheets :
    let registry := (columnConfig.scanSheets columnSource ["S", "T"]).registry
    ["S", "T"].Nodup ∧ registry.clusterFor? ⟨"S", 1, 3⟩ = some columnCluster ∧
      registry.clusterFor? ⟨"S", 2, 3⟩ = some columnCluster ∧
      (registry.get? ⟨"S", 1, 3⟩).isSome ∧
      registry.clusters.find? (·.contains ⟨"S", 1, 3⟩) = some columnCluster ∧
      registry.clusterFor? ⟨"T", 3, 3⟩ = none := by
  intro registry
  have distinct : ["S", "T"].Nodup := by decide
  have registered : columnCluster ∈ registry.clusters :=
    (ScanConfig.mem_scanSheets_clusters distinct).2 ⟨"S", by decide, columnCluster_registered⟩
  have filed : registry.Filed := columnConfig.scanSheets_filed columnSource distinct
  obtain ⟨origin, -, first, -, keyed⟩ :=
    clusterFor?_finds_holder distinct columnConfig columnSource ⟨"S", 1, 3⟩
  obtain ⟨member, -⟩ := clusterFor?_finds_holder distinct columnConfig columnSource ⟨"S", 2, 3⟩
  obtain ⟨-, -, -, outside, -⟩ :=
    clusterFor?_finds_holder distinct columnConfig columnSource ⟨"T", 3, 3⟩
  refine ⟨distinct, (origin _).2 ⟨registered, .inl rfl⟩,
    (member _).2 ⟨registered, .inr (by decide)⟩, keyed.2 ⟨_, registered, rfl⟩,
    first _ (filed.get?_eq_some_iff.2 ⟨registered, rfl⟩), outside (.inr (.inr ?_))⟩
  rintro ⟨-, rows, cols, last, ⟨-, in_rows⟩, -⟩
  cases last
  exact absurd in_rows (by decide)

end FormulaRuns
