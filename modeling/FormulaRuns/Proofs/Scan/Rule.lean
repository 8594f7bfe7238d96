import FormulaRuns.Proofs.Expr.Instance
import FormulaRuns.Proofs.Scan.Run

namespace FormulaRuns

namespace Cluster.IsRun

variable {source : Source} {cluster : Cluster} {tree : Tree} {cell : Address}

theorem exists_formula (run : cluster.IsRun source tree) (member : cell ∈ cluster.cells) :
    ∃ text formula, source.formula cell = some text ∧ Formula.parse text = .ok formula ∧
      tree.Alike (PlacedLeaf.Moved (.between cluster.origin cell)) 0 cluster.origin.sheet
        cell.sheet formula.root := by
  obtain ⟨tree', read, alike⟩ := run.cells cell member
  obtain ⟨-, text, formula, present, parsed, rfl⟩ := reading_eq_formula_iff.1 read
  exact ⟨text, formula, present, parsed, alike⟩

theorem tree_wellFormed (run : cluster.IsRun source tree) : tree.WellFormed := by
  obtain ⟨-, text, formula, -, parsed, rfl⟩ := reading_eq_formula_iff.1 run.origin
  exact Formula.parse_wellFormed parsed

theorem references_eq (run : cluster.IsRun source tree) :
    cluster.references = (tree.movingTable cluster.origin.sheet).references :=
  run.references

theorem table_eq (run : cluster.IsRun source tree) :
    cluster.table = tree.movingTable cluster.origin.sheet := by
  rw [table, run.references, ParameterTable.ofReferences,
    sortDistinct_eq_self (sortDistinct_ascending _)]
  rfl

theorem bind_eq (run : cluster.IsRun source tree) {distance : Distance} {sheet' : String}
    {tree' : Tree}
    (alike : tree.Alike (PlacedLeaf.Moved distance) 0 cluster.origin.sheet sheet' tree') :
    cluster.skeleton.bind tree' = .ok (tree.movingBinding 0 cluster.origin.sheet) := by
  rw [run.skeleton]
  exact alike.bind_skeleton fun moved => moved.1

theorem rule_eq (run : cluster.IsRun source tree) :
    cluster.rule source = tree.ruleOver cluster.origin.sheet
      (tree.movingBinding 0 cluster.origin.sheet) (tree.movingTable cluster.origin.sheet) := by
  obtain ⟨-, text, formula, present, parsed, rfl⟩ := reading_eq_formula_iff.1 run.origin
  have bound := run.bind_eq (.of_spelled run.tree_wellFormed.spelled cluster.origin)
  simp [rule, present, parsed, ruleIn, bound, run.table_eq]

theorem instance_eq (run : cluster.IsRun source tree) (member : cell ∈ cluster.cells) :
    ∃ text formula args rule, source.formula cell = some text ∧
      Formula.parse text = .ok formula ∧ cluster.argumentsFor cell = some args ∧
      cluster.rule source = .ok rule ∧ rule.params = List.range' 1 args.length ∧
      formula.root.plainExpr cell.sheet = .ok (rule.instantiate args) := by
  obtain ⟨text, formula, present, parsed, alike⟩ := run.exists_formula member
  obtain ⟨args, arguments⟩ := alike.exists_arguments
  obtain ⟨rule, read, params, plain⟩ := alike.plainExpr_eq arguments run.tree_wellFormed
  refine ⟨text, formula, args, rule, present, parsed, ?_, run.rule_eq.trans read, params, plain⟩
  rw [argumentsFor, run.references_eq, arguments]

end Cluster.IsRun

theorem valueAt_of_plainExpr {source : Source} {cell : Address} {text : String}
    {formula : Formula} {e : Expr} (levels : Nat) (present : source.formula cell = some text)
    (parsed : Formula.parse text = .ok formula)
    (plain : formula.root.plainExpr cell.sheet = .ok e) :
    source.valueAt (levels + 2) cell =
      .ok (e.evalWith (fun cell => .ofReading (source.valueAt levels cell)) .none) := by
  have read : Source.cellExpr cell text = .ok e := by
    simpa [Source.cellExpr, parsed] using plain
  rw [Source.valueAt, Source.cellValue, ← source.formula_agrees, present]
  simp only [read, Except.map]

theorem apply_lambda {source : Source} {body : Expr} {args : List Reference} :
    source.apply (.lambda (List.range' 1 args.length) body) args =
      body.evalWith (fun cell => .ofReading (source.valueAt 63 cell)) (.numbered args) := by
  simp [Source.apply, Source.applyAt, Source.fullLevels, Source.evaluateAt, ofArguments_range']

theorem eq_lambda_of_params {rule : Expr} {args : List Reference}
    (params : rule.params = List.range' 1 args.length) (some_arg : args ≠ []) :
    ∃ body, rule = .lambda (List.range' 1 args.length) body := by
  have some_param : rule.params ≠ [] := by
    rw [params, ne_eq, List.range'_eq_nil_iff, List.length_eq_zero_iff]
    exact some_arg
  cases rule with
  | lambda own body =>
    cases params
    exact ⟨body, rfl⟩
  | _ => exact absurd rfl some_param

section

variable {config : ScanConfig} {source : Source} {sheet : String} {cluster : Cluster}
  {cell : Address}

/-- Every formula of a cluster, bound to the cluster's skeleton, spells the cluster's rule. -/
theorem member_spells_rule
    (registered : cluster ∈ (config.scanSheet source sheet).registry.clusters)
    (member : cell ∈ cluster.cells) :
    ∃ text formula binding rule, source.formula cell = some text ∧
      Formula.parse text = .ok formula ∧ cluster.skeleton.bind formula.root = .ok binding ∧
      binding.length = cluster.skeleton.leafCount ∧ (binding.map (·.1)).Nodup ∧
      (∀ entry ∈ binding, ∃ lexeme, formula.root.rows[entry.1]? = some (.leaf lexeme) ∧
        lexeme.kind = .cellRef) ∧
      cluster.rule source = .ok rule ∧
      formula.root.ruleOver cell.sheet binding cluster.table = .ok rule := by
  obtain ⟨tree, run⟩ := scanSheet_isRun registered
  obtain ⟨text, formula, present, parsed, alike⟩ := run.exists_formula member
  obtain ⟨rule, spelled, spelled'⟩ := alike.ruleOver_eq run.tree_wellFormed
  have bound := run.bind_eq alike
  have ruled : cluster.rule source = .ok rule := run.rule_eq.trans spelled
  refine ⟨text, formula, tree.movingBinding 0 cluster.origin.sheet, rule, present, parsed, bound,
    ?_, tree.movingBinding_nodup 0 _, ?_, ruled, ?_⟩
  · rw [run.skeleton, tree.leafCount_movingSkeleton]
  · intro entry member
    exact alike.row_of_mem_movingBinding (fun moved => moved.1) member
  · rw [run.table_eq, spelled']

theorem member_spells_rule_down_a_column :
    ∃ text formula binding rule, columnSource.formula ⟨"S", 2, 3⟩ = some text ∧
      Formula.parse text = .ok formula ∧
      columnCluster.skeleton.bind formula.root = .ok binding ∧
      binding.length = columnCluster.skeleton.leafCount ∧ (binding.map (·.1)).Nodup ∧
      (∀ entry ∈ binding, ∃ lexeme, formula.root.rows[entry.1]? = some (.leaf lexeme) ∧
        lexeme.kind = .cellRef) ∧
      columnCluster.rule columnSource = .ok rule ∧
      formula.root.ruleOver "S" binding columnCluster.table = .ok rule :=
  member_spells_rule columnCluster_registered (by decide)

/-- A cluster's rule, with the arguments of a cell in place of its parameters, is the formula of
that cell. -/
theorem instantiate_rule_eq_plainExpr
    (registered : cluster ∈ (config.scanSheet source sheet).registry.clusters)
    (member : cell ∈ cluster.cells) :
    ∃ text formula args rule, source.formula cell = some text ∧
      Formula.parse text = .ok formula ∧ cluster.argumentsFor cell = some args ∧
      cluster.rule source = .ok rule ∧ rule.params = List.range' 1 args.length ∧
      formula.root.plainExpr cell.sheet = .ok (rule.instantiate args) := by
  obtain ⟨tree, run⟩ := scanSheet_isRun registered
  exact run.instance_eq member

theorem instantiate_rule_down_a_column :
    ∃ text formula args rule, columnSource.formula ⟨"S", 2, 3⟩ = some text ∧
      Formula.parse text = .ok formula ∧ columnCluster.argumentsFor ⟨"S", 2, 3⟩ = some args ∧
      columnCluster.rule columnSource = .ok rule ∧ rule.params = List.range' 1 args.length ∧
      formula.root.plainExpr "S" = .ok (rule.instantiate args) :=
  instantiate_rule_eq_plainExpr columnCluster_registered
    (by decide : (⟨"S", 2, 3⟩ : Address) ∈ columnCluster.cells)

/-- A cluster's rule, applied to the arguments of a cell, has the value of that cell. -/
theorem apply_rule_eq_evaluateCell
    (registered : cluster ∈ (config.scanSheet source sheet).registry.clusters)
    (moving : cluster.references ≠ []) (member : cell ∈ cluster.cells) :
    ∃ rule args value, cluster.rule source = .ok rule ∧ rule.isLambda ∧
      cluster.argumentsFor cell = some args ∧ source.evaluateCell cell = .ok value ∧
      source.apply rule args = value := by
  obtain ⟨tree, run⟩ := scanSheet_isRun registered
  obtain ⟨text, formula, args, rule, present, parsed, arguments, ruled, params, plain⟩ :=
    run.instance_eq member
  have some_arg : args ≠ [] := by
    rintro rfl
    exact moving (List.length_eq_zero_iff.1 (mapM_eq_some_iff.1 arguments).length_eq)
  obtain ⟨body, rfl⟩ := eq_lambda_of_params params some_arg
  have value := valueAt_of_plainExpr 63 present parsed plain
  refine ⟨_, args, _, ruled, rfl, arguments, value, ?_⟩
  rw [apply_lambda, Expr.instantiate, Expr.evalWith_substitute]

theorem apply_rule_down_a_column :
    ∃ rule args value, columnCluster.rule columnSource = .ok rule ∧ rule.isLambda ∧
      columnCluster.argumentsFor ⟨"S", 2, 3⟩ = some args ∧
      columnSource.evaluateCell ⟨"S", 2, 3⟩ = .ok value ∧ columnSource.apply rule args = value :=
  apply_rule_eq_evaluateCell columnCluster_registered (by decide) (by decide)

end

end FormulaRuns
