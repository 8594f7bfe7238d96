import FormulaRuns.Proofs.Formula.Spelling
import FormulaRuns.Proofs.Pattern.Compatible
import FormulaRuns.Proofs.Scan.Outcomes
import FormulaRuns.Workbook.Basic

namespace FormulaRuns

theorem reading_eq_formula_iff {source : Source} {cell : Address} {role : Role} {tree : Tree} :
    source.reading cell = .formula role tree ↔ source.role cell = some role ∧
      ∃ text formula, source.formula cell = some text ∧ Formula.parse text = .ok formula ∧
        formula.root = tree := by
  simp only [Source.reading]
  cases source.role cell with
  | none => simp
  | some other =>
    cases source.formula cell with
    | none => simp
    | some text => cases parsed : Formula.parse text <;> simp [parsed]

/-- The cells of a cluster hold the origin's formula, dragged along. -/
structure Cluster.IsRun (source : Source) (cluster : Cluster) (tree : Tree) : Prop where
  origin : source.reading cluster.origin = .formula cluster.role tree
  cells : ∀ cell ∈ cluster.cells, ∃ tree', source.reading cell = .formula cluster.role tree' ∧
    tree.Alike (PlacedLeaf.Moved (.between cluster.origin cell)) 0 cluster.origin.sheet cell.sheet
      tree'
  skeleton : cluster.skeleton = .ofBindings (tree.movingReferences cluster.origin.sheet)
  references : cluster.references =
    sortDistinct ((tree.movingReferences cluster.origin.sheet).map (·.2))

theorem joins_eq_some_iff {origin : Address} {role : Role} {tree : Tree} {visit : Visit}
    {bindings : Bindings} :
    joins origin role tree visit = some bindings ↔
      (∃ tree', visit.2 = .formula role tree' ∧
        tree.Alike (PlacedLeaf.Moved (.between origin visit.1)) 0 origin.sheet visit.1.sheet
          tree') ∧ bindings = tree.movingReferences origin.sheet := by
  obtain ⟨cell, reading⟩ := visit
  cases reading with
  | skipped | literal => simp [joins]
  | formula role' tree' =>
    have compatible : (checkTrees tree origin tree' cell).bindings? = some bindings ↔
        checkTrees tree origin tree' cell = .compatible bindings := by
      cases checkTrees tree origin tree' cell <;> simp [Compatibility.bindings?]
    by_cases roles : role = role'
    · subst roles
      simp [joins, compatible, checkTrees_eq_compatible_iff]
    · simp [joins, roles, Ne.symm roles]

namespace PlacedLeaf

theorem Moved.refl {leaf : PlacedLeaf} (spelled : leaf.lexeme.Spelled) :
    Moved ⟨0, 0⟩ leaf leaf := by
  refine ⟨rfl, ?_⟩
  split
  · rename_i kind
    obtain ⟨cell, parsed⟩ := spelled.exists_cell kind
    obtain ⟨ref, decoded⟩ : ∃ ref, Reference.ofA1 leaf.sheet leaf.lexeme.text = .ok ref :=
      ⟨_, Reference.ofA1_eq_ok_iff.2 ⟨cell, parsed, rfl⟩⟩
    rw [← reference?_eq_some_iff kind] at decoded
    refine ⟨ref, ref, decoded, decoded, ?_⟩
    simp [Reference.movedBy, axisMoved]
  · rfl

end PlacedLeaf

theorem Tree.Alike.of_spelled {tree : Tree} (spelled : ∀ lexeme ∈ tree.leaves, lexeme.Spelled)
    (cell : Address) :
    tree.Alike (PlacedLeaf.Moved (.between cell cell)) 0 cell.sheet cell.sheet tree := by
  have nowhere : Distance.between cell cell = ⟨0, 0⟩ := by simp [Distance.between]
  rw [nowhere]
  apply Alike.refl
  intro leaf member
  apply PlacedLeaf.Moved.refl
  apply spelled
  rw [← tree.placedLeaves_lexemes 0 cell.sheet]
  exact List.mem_map_of_mem member

theorem runOutcome_isRun {source : Source} {origin : Address} {role : Role} {tree : Tree}
    {followers : List Visit} {cluster : Cluster}
    (read : source.reading origin = .formula role tree)
    (faithful : ∀ visit ∈ followers, visit.2 = source.reading visit.1)
    (follow : ∀ visit ∈ followers, (joins origin role tree visit).isSome)
    (outcome : runOutcome origin role tree followers = .clustered cluster) :
    cluster.IsRun source tree := by
  simp only [runOutcome] at outcome
  split at outcome
  · rename_i bindings last
    cases outcome
    -- The bindings found with the last follower are references of the origin.
    obtain ⟨visit, -, joined⟩ := Option.bind_eq_some_iff.1 last
    obtain ⟨-, rfl⟩ := joins_eq_some_iff.1 joined
    refine ⟨read, ?_, rfl, rfl⟩
    intro cell member
    rcases List.mem_cons.1 member with rfl | member
    · obtain ⟨-, text, formula, -, parsed, rfl⟩ := reading_eq_formula_iff.1 read
      have spelled := (Formula.parse_wellFormed parsed).spelled
      exact ⟨formula.root, read, .of_spelled spelled _⟩
    · obtain ⟨visit, present, rfl⟩ := List.mem_map.1 member
      obtain ⟨bindings, joined⟩ := Option.isSome_iff_exists.1 (follow visit present)
      obtain ⟨⟨tree', formula, alike⟩, -⟩ := joins_eq_some_iff.1 joined
      refine ⟨tree', ?_, alike⟩
      rw [← faithful visit present, formula]
  · cases outcome

theorem lineOutcomes_isRun {source : Source} {line : List Visit} {cluster : Cluster}
    (faithful : ∀ visit ∈ line, visit.2 = source.reading visit.1)
    (member : .clustered cluster ∈ lineOutcomes line) : ∃ tree, cluster.IsRun source tree := by
  fun_induction lineOutcomes line with
  | case1 => cases member
  | case2 cell rest ih | case3 cell rest ih =>
    apply ih
    · intro visit present
      exact faithful visit (List.mem_cons_of_mem _ present)
    · simpa using member
  | case4 cell role tree rest continues ih =>
    have read : source.reading cell = .formula role tree :=
      (faithful (cell, .formula role tree) List.mem_cons_self).symm
    have later : ∀ visit ∈ rest, visit.2 = source.reading visit.1 := by
      intro visit present
      exact faithful visit (List.mem_cons_of_mem _ present)
    rcases List.mem_cons.1 member with outcome | member
    · refine ⟨tree, runOutcome_isRun read ?_ ?_ outcome.symm⟩
      · intro visit present
        exact later visit ((List.takeWhile_sublist _).subset present)
      · intro visit present
        have continued : continues visit := List.mem_takeWhile_imp present
        exact continued
    · apply ih _ member
      intro visit present
      exact later visit ((List.dropWhile_sublist _).subset present)

theorem mem_foldl_insert {cluster : Cluster} {clusters : List Cluster} {registry : Registry}
    (member : cluster ∈ (clusters.foldl Registry.insert registry).clusters) :
    cluster ∈ registry.clusters ∨ cluster ∈ clusters := by
  induction clusters generalizing registry with
  | nil => exact .inl member
  | cons first others ih =>
    rcases ih member with member | member
    · obtain ⟨entry, present, rfl⟩ := List.mem_map.1 member
      rcases eq_or_mem_of_mem_insertEntry present with rfl | present
      · exact .inr List.mem_cons_self
      · exact .inl (List.mem_map_of_mem present)
    · exact .inr (List.mem_cons_of_mem _ member)

theorem scanLines_isRun {source : Source} {lines : List (List Address)} {cluster : Cluster}
    (member : cluster ∈ (ScanConfig.scanLines source lines).registry.clusters) :
    ∃ tree, cluster.IsRun source tree := by
  rw [ScanConfig.scanLines_eq] at member
  have found := (mem_foldl_insert member).resolve_left
    (by simp [Registry.clusters, Registry.empty])
  obtain ⟨outcome, present, clustered⟩ := List.mem_filterMap.1 found
  cases outcome with
  | discarded | skipped => cases clustered
  | clustered =>
    cases clustered
    obtain ⟨line, -, present⟩ := List.mem_flatMap.1 present
    apply lineOutcomes_isRun _ present
    intro visit visited
    obtain ⟨cell, -, rfl⟩ := List.mem_map.1 visited
    rfl

theorem scanSheet_isRun {config : ScanConfig} {source : Source} {sheet : String}
    {cluster : Cluster} (member : cluster ∈ (config.scanSheet source sheet).registry.clusters) :
    ∃ tree, cluster.IsRun source tree := by
  simp only [ScanConfig.scanSheet] at member
  split at member
  · exact scanLines_isRun member
  · cases member

def columnBook : Workbook :=
  ((Workbook.empty.setFormula ⟨"S", 1, 3⟩ "=A1+$B$2").setFormula ⟨"S", 2, 3⟩
    "=A2+$B$2").setFormulaRole .decision

def columnSource : Source := columnBook.source

def columnConfig : ScanConfig := ⟨.columnMajor, some (2, 3), 1, 3⟩

theorem lineOutcomes_pair {source : Source} {first second : Address} {role : Role} {tree : Tree}
    {bindings : Bindings} (read : source.reading first = .formula role tree)
    (joined : joins first role tree (second, source.reading second) = some bindings) :
    lineOutcomes (source.visits [first, second]) =
      [.clustered ⟨first, [second], role, (variability bindings).1, (variability bindings).2⟩] := by
  have visits : source.visits [first, second] =
      [(first, .formula role tree), (second, source.reading second)] := by
    rw [Source.visits, List.map_cons, read]
    rfl
  rw [visits, lineOutcomes_formula, runOutcomes_joined joined, runOutcomes_nil]
  simp [runOutcome, joined]

theorem column_registered {source : Source} {role : Role} {tree : Tree} {bindings : Bindings}
    (read : source.reading ⟨"S", 1, 3⟩ = .formula role tree)
    (joined : joins ⟨"S", 1, 3⟩ role tree (⟨"S", 2, 3⟩, source.reading ⟨"S", 2, 3⟩) =
      some bindings) :
    ⟨⟨"S", 1, 3⟩, [⟨"S", 2, 3⟩], role, (variability bindings).1, (variability bindings).2⟩ ∈
      (columnConfig.scanSheet source "S").registry.clusters := by
  have scanned : columnConfig.scanSheet source "S" =
      ScanConfig.scanLines source [[⟨"S", 1, 3⟩, ⟨"S", 2, 3⟩]] := rfl
  rw [scanned, ScanConfig.scanLines_eq, outcomesOf, List.flatMap_singleton,
    lineOutcomes_pair read joined]
  exact List.mem_singleton_self _

def columnCluster : Cluster where
  origin := ⟨"S", 1, 3⟩
  members := [⟨"S", 2, 3⟩]
  role := .decision
  skeleton := .ofBindings [([1, 0], ⟨"S", 1, 1, false, false⟩)]
  references := [⟨"S", 1, 1, false, false⟩]

theorem columnCluster_registered :
    columnCluster ∈ (columnConfig.scanSheet columnSource "S").registry.clusters := by
  have first : columnSource.reading ⟨"S", 1, 3⟩ = .formula .decision (sumTree "A1") :=
    reading_eq_formula_iff.2 ⟨rfl, "=A1+$B$2", _, rfl, parse_sum.1, rfl⟩
  have second : columnSource.reading ⟨"S", 2, 3⟩ = .formula .decision (sumTree "A2") :=
    reading_eq_formula_iff.2 ⟨rfl, "=A2+$B$2", _, rfl, parse_sum.2, rfl⟩
  have joined : joins ⟨"S", 1, 3⟩ .decision (sumTree "A1")
      (⟨"S", 2, 3⟩, .formula .decision (sumTree "A2")) =
        some [([1, 0], ⟨"S", 1, 1, false, false⟩)] := by
    decide
  rw [← second] at joined
  exact column_registered first joined

end FormulaRuns
