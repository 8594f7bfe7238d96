import FormulaRuns.Proofs.Scan.Coverage
import FormulaRuns.Proofs.Scan.Rule

namespace FormulaRuns

/-- The cells have one role, and the second holds the first one's formula, dragged along. -/
def Source.Continues (source : Source) (first second : Address) : Prop :=
  ∃ role text text' formula formula',
    source.role first = some role ∧ source.role second = some role ∧
    source.formula first = some text ∧ source.formula second = some text' ∧
    Formula.parse text = .ok formula ∧ Formula.parse text' = .ok formula' ∧
    (checkTrees formula.root first formula'.root second).isCompatible

/-- The cluster stores what the origin has in common with the follower. -/
def Cluster.StoresComparison (source : Source) (cluster : Cluster) (follower : Address) : Prop :=
  ∃ text text' formula formula' bindings,
    source.formula cluster.origin = some text ∧ source.formula follower = some text' ∧
    Formula.parse text = .ok formula ∧ Formula.parse text' = .ok formula' ∧
    checkTrees formula.root cluster.origin formula'.root follower = .compatible bindings ∧
    cluster.skeleton.leaves = (variability bindings).1.leaves ∧
    cluster.references = (variability bindings).2

/-- The clusters are the maximal runs of several cells on the lines. -/
structure MaximalRuns (source : Source) (lines : List (List Address)) (clusters : List Cluster) :
    Prop where
  neighbours : ∀ before first second after, before ++ first :: second :: after ∈ lines →
    ((∃ cluster ∈ clusters, first ∈ cluster.cells ∧ second ∈ cluster.cells) ↔
      source.Continues first second)
  on_one_line : lines.Pairwise fun line line' => ∀ cell ∈ line, ∀ cell' ∈ line',
    ¬∃ cluster ∈ clusters, cell ∈ cluster.cells ∧ cell' ∈ cluster.cells
  consecutive : ∀ cluster ∈ clusters, ∃ line ∈ lines, cluster.origin :: cluster.members <:+: line
  several : ∀ cluster ∈ clusters, cluster.members ≠ []
  comparisons : ∀ cluster ∈ clusters, ∀ follower ∈ cluster.members,
    cluster.StoresComparison source follower

theorem follows_reading_iff {source : Source} {first second : Address} :
    follows (first, source.reading first) (second, source.reading second) ↔
      source.Continues first second := by
  rw [follows_iff]
  constructor
  · rintro ⟨role, tree, tree', read, read', compatible⟩
    obtain ⟨has_role, text, formula, present, parsed, rfl⟩ := reading_eq_formula_iff.1 read
    obtain ⟨has_role', text', formula', present', parsed', rfl⟩ := reading_eq_formula_iff.1 read'
    exact ⟨role, text, text', formula, formula', has_role, has_role', present, present', parsed,
      parsed', compatible⟩
  · rintro ⟨role, text, text', formula, formula', has_role, has_role', present, present', parsed,
      parsed', compatible⟩
    have read := reading_eq_formula_iff.2 ⟨has_role, text, formula, present, parsed, rfl⟩
    have read' := reading_eq_formula_iff.2 ⟨has_role', text', formula', present', parsed', rfl⟩
    exact ⟨role, formula.root, formula'.root, read, read', compatible⟩

theorem clustered_members_ne_nil {line : List Visit} {cluster : Cluster}
    (member : .clustered cluster ∈ lineOutcomes line) : cluster.members ≠ [] := by
  fun_induction lineOutcomes line with
  | case1 => cases member
  | case2 cell rest ih | case3 cell rest ih => exact ih (by simpa using member)
  | case4 cell role tree rest continues ih =>
    rcases List.mem_cons.1 member with outcome | member
    · intro alone
      have none_follow : (rest.takeWhile continues).map (·.1) = cluster.members := by
        simp only [runOutcome] at outcome
        split at outcome <;> cases outcome
        rfl
      rw [alone, List.map_eq_nil_iff] at none_follow
      simp [runOutcome, none_follow] at outcome
    · exact ih member

theorem clustered_consecutive {source : Source} {line : List Address} {cluster : Cluster}
    (member : .clustered cluster ∈ lineOutcomes (source.visits line)) :
    cluster.cells <:+: line := by
  have cells : cluster.cells ∈ ((source.visits line).splitBy follows).map (·.map (·.1)) := by
    rw [← lineOutcomes_cells]
    exact List.mem_map_of_mem member
  obtain ⟨run, present, same⟩ := List.mem_map.1 cells
  have part : run <:+: source.visits line := by
    rw [← List.flatten_splitBy follows (source.visits line)]
    exact List.infix_of_mem_flatten present
  rw [← same, ← source.visits_cells line]
  exact part.map _

theorem eq_of_common_cell {lines : List (List Address)} (distinct : lines.flatten.Nodup)
    {line line' : List Address} (member : line ∈ lines) (member' : line' ∈ lines) {cell : Address}
    (inside : cell ∈ line) (inside' : cell ∈ line') : line = line' := by
  by_contra different
  have apart := (List.nodup_flatten.1 distinct).2
  have symmetric : Std.Symm (@List.Disjoint Address) :=
    ⟨fun _ _ disjoint _ inside inside' => disjoint inside' inside⟩
  exact apart.forall member member' different inside inside'

namespace ScanConfig

variable {config : ScanConfig} {source : Source} {sheet : String} {cluster : Cluster}

theorem mem_scanSheet_clusters :
    cluster ∈ (config.scanSheet source sheet).registry.clusters ↔
      ∃ line ∈ config.scannedLines source sheet,
        .clustered cluster ∈ lineOutcomes (source.visits line) := by
  rw [(config.scanSheet_records source sheet).mem_clusters, outcomesOf, List.mem_flatMap]

theorem clustered_on_line {line : List Address} {cell : Address}
    (registered : cluster ∈ (config.scanSheet source sheet).registry.clusters)
    (inside : cell ∈ cluster.cells) (listed : line ∈ config.scannedLines source sheet)
    (on_line : cell ∈ line) : .clustered cluster ∈ lineOutcomes (source.visits line) := by
  obtain ⟨own, own_listed, member⟩ := mem_scanSheet_clusters.1 registered
  have same : own = line := eq_of_common_cell (config.scannedLines_nodup source sheet) own_listed
    listed ((clustered_consecutive member).subset inside) on_line
  exact same ▸ member

theorem neighbours_share_cluster_iff {before after : List Address} {first second : Address}
    (listed : before ++ first :: second :: after ∈ config.scannedLines source sheet) :
    (∃ cluster ∈ (config.scanSheet source sheet).registry.clusters,
      first ∈ cluster.cells ∧ second ∈ cluster.cells) ↔ source.Continues first second := by
  have distinct : (before ++ first :: second :: after).Nodup :=
    (List.nodup_flatten.1 (config.scannedLines_nodup source sheet)).1 _ listed
  have visited : source.visits (before ++ first :: second :: after) =
      source.visits before ++ (first, source.reading first) :: (second, source.reading second) ::
        source.visits after := by
    simp [Source.visits]
  have shared : (∃ outcome ∈ lineOutcomes (source.visits (before ++ first :: second :: after)),
      first ∈ outcome.cells ∧ second ∈ outcome.cells) ↔ source.Continues first second := by
    rw [← source.visits_cells (before ++ _), visited] at distinct
    rw [visited, share_outcome_iff distinct, follows_reading_iff]
  rw [← shared]
  constructor
  · rintro ⟨cluster, registered, inside, inside'⟩
    exact ⟨_, clustered_on_line registered inside listed (by simp), inside, inside'⟩
  · rintro ⟨outcome, member, inside, inside'⟩
    cases outcome with
    | clustered cluster =>
      exact ⟨cluster, mem_scanSheet_clusters.2 ⟨_, listed, member⟩, inside, inside'⟩
    | discarded cell | skipped cell =>
      -- Only a cluster has room for two cells.
      have different : first ≠ second := by
        rintro rfl
        simp [List.nodup_append] at distinct
      exact absurd ((List.mem_singleton.1 inside).trans (List.mem_singleton.1 inside').symm)
        different

theorem lines_share_no_cluster : (config.scannedLines source sheet).Pairwise fun line line' =>
    ∀ cell ∈ line, ∀ cell' ∈ line',
      ¬∃ cluster ∈ (config.scanSheet source sheet).registry.clusters,
        cell ∈ cluster.cells ∧ cell' ∈ cluster.cells := by
  have distinct := config.scannedLines_nodup source sheet
  apply (List.nodup_flatten.1 distinct).2.imp_of_mem
  rintro line line' listed listed' apart cell on_line cell' on_line' ⟨cluster, registered, inside,
    inside'⟩
  have member := clustered_on_line registered inside listed on_line
  have member' := clustered_on_line registered inside' listed' on_line'
  exact apart on_line ((clustered_consecutive member').subset inside)

theorem storesComparison {follower : Address}
    (registered : cluster ∈ (config.scanSheet source sheet).registry.clusters)
    (member : follower ∈ cluster.members) : cluster.StoresComparison source follower := by
  obtain ⟨tree, run⟩ := scanSheet_isRun registered
  obtain ⟨-, text, formula, present, parsed, rfl⟩ := reading_eq_formula_iff.1 run.origin
  obtain ⟨text', formula', present', parsed', alike⟩ :=
    run.exists_formula (List.mem_cons_of_mem _ member)
  have compared := checkTrees_eq_compatible_iff.2 ⟨alike, rfl⟩
  refine ⟨text, text', formula, formula', _, present, present', parsed, parsed', compared, ?_, ?_⟩
  · rw [run.skeleton]
    rfl
  · exact run.references

end ScanConfig

/-- Two neighbours on a scanned line are in one cluster exactly if the second cell continues the
formula of the first, and a cluster stores what its origin has in common with any of its
followers. -/
theorem scanSheet_finds_runs (config : ScanConfig) (source : Source) (sheet : String) :
    MaximalRuns source (config.scannedLines source sheet)
      (config.scanSheet source sheet).registry.clusters where
  neighbours before first second after listed := ScanConfig.neighbours_share_cluster_iff listed
  on_one_line := ScanConfig.lines_share_no_cluster
  consecutive cluster registered := by
    obtain ⟨line, listed, member⟩ := ScanConfig.mem_scanSheet_clusters.1 registered
    exact ⟨line, listed, clustered_consecutive member⟩
  several cluster registered := by
    obtain ⟨line, -, member⟩ := ScanConfig.mem_scanSheet_clusters.1 registered
    exact clustered_members_ne_nil member
  comparisons cluster registered follower member :=
    ScanConfig.storesComparison registered member

theorem scanSheet_finds_runs_down_a_column :
    columnCluster ∈ (columnConfig.scanSheet columnSource "S").registry.clusters ∧
      columnSource.Continues ⟨"S", 1, 3⟩ ⟨"S", 2, 3⟩ ∧
      columnCluster.StoresComparison columnSource ⟨"S", 2, 3⟩ := by
  have runs := scanSheet_finds_runs columnConfig columnSource "S"
  have registered := columnCluster_registered
  have shared := (runs.neighbours [] ⟨"S", 1, 3⟩ ⟨"S", 2, 3⟩ [] (by decide)).1
    ⟨columnCluster, registered, by decide, by decide⟩
  exact ⟨registered, shared, runs.comparisons _ registered _ (by decide)⟩

end FormulaRuns
