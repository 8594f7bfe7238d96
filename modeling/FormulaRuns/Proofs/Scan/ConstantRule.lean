import FormulaRuns.Proofs.Evaluation.Depth
import FormulaRuns.Proofs.Formula.Relexing
import FormulaRuns.Proofs.Scan.Rule

/-!
Rules without parameters. Such a rule is the formula of each of its cells, and to apply it is to
evaluate the cell with one level more, since no cell is entered. Where formulas settle within the
levels there are, this makes no difference (`apply_constant_rule`); one formula deeper, the cell
gives up before its rule does (`chain_outlasts_cell`).
-/
namespace FormulaRuns

variable {source : Source} {cluster : Cluster} {cell : Address}

namespace Cluster.IsRun

variable {tree : Tree} {rule : Expr}

theorem isLambda_of_constant (run : cluster.IsRun source tree)
    (constant : cluster.references = []) (ruled : cluster.rule source = .ok rule) :
    rule.isLambda = false := by
  rw [run.rule_eq, Tree.ruleOver] at ruled
  obtain ⟨body, read, same⟩ := bind_eq_ok_iff.1 ruled
  have empty : (tree.movingTable cluster.origin.sheet).isEmpty := by
    rw [ParameterTable.isEmpty, ← run.references_eq, constant]
    rfl
  rw [if_pos empty] at same
  cases same
  exact Tree.toExpr_isLambda _ _ _ _ _ read

theorem constant_rule_eq (run : cluster.IsRun source tree) (constant : cluster.references = [])
    (member : cell ∈ cluster.cells) :
    ∃ text formula rule, source.formula cell = some text ∧ Formula.parse text = .ok formula ∧
      cluster.rule source = .ok rule ∧ rule.isLambda = false ∧
      formula.root.plainExpr cell.sheet = .ok rule := by
  obtain ⟨text, formula, args, rule, present, parsed, -, ruled, -, plain⟩ := run.instance_eq member
  have no_lambda := run.isLambda_of_constant constant ruled
  refine ⟨text, formula, rule, present, parsed, ruled, no_lambda, ?_⟩
  cases rule with
  | lambda => cases no_lambda
  | _ => exact plain

end Cluster.IsRun

theorem apply_nil {rule : Expr} (no_lambda : rule.isLambda = false) :
    source.apply rule [] =
      rule.evalWith (fun cell => .ofReading (source.valueAt 64 cell)) .none := by
  cases rule with
  | lambda => cases no_lambda
  | _ => rfl

/-- A constant rule is worth what the cell is worth with one level more. -/
theorem Cluster.IsRun.valueAt_eq_apply {tree : Tree} (run : cluster.IsRun source tree)
    (constant : cluster.references = []) (member : cell ∈ cluster.cells) :
    ∃ rule, cluster.rule source = .ok rule ∧ rule.isLambda = false ∧
      (∃ value, source.evaluateCell cell = .ok value) ∧
      source.valueAt (Source.fullLevels + 1) cell = .ok (source.apply rule []) := by
  obtain ⟨text, formula, rule, present, parsed, ruled, no_lambda, plain⟩ :=
    run.constant_rule_eq constant member
  have direct := valueAt_of_plainExpr 63 present parsed plain
  have raised := valueAt_of_plainExpr 64 present parsed plain
  refine ⟨rule, ruled, no_lambda, ⟨_, direct⟩, ?_⟩
  rw [apply_nil no_lambda]
  exact raised

def referenceTree (text : String) : Tree :=
  .node .formula [.leaf ⟨.equals, "="⟩, .leaf ⟨.cellRef, text⟩]

theorem parse_reference {cell : A1} (on_grid : cell.OnGrid) :
    Formula.parse ("=" ++ cell.print) = .ok ⟨"=" ++ cell.print, referenceTree cell.print⟩ := by
  have text : ("=" ++ cell.print).toList = '=' :: cell.chars := by
    simp [A1.print]
  have ends : EndsWord [] := by simp [EndsWord]
  obtain ⟨c, rest, chars, -, read⟩ := next_cell .afterEquals on_grid ends (by simp) (by simp)
  obtain ⟨stop, step⟩ := lexFrom_cons read 1
  have last : lexFrom (Context.afterEquals.after .cellRef) stop [] = .ok [] := by
    rw [lexFrom]
    rfl
  rw [List.append_nil] at chars
  have cut : tokenize ("=" ++ cell.print) =
      .ok [⟨⟨.equals, "="⟩, 0, 1⟩, ⟨⟨.cellRef, cell.print⟩, 1, stop⟩] := by
    simp only [tokenize, text, chars, step, last, Except.map]
    rw [← chars, A1.print]
  exact Formula.parse_eq_ok_iff.2 ⟨rfl, _, cut, rfl⟩

theorem cellExpr_reference {target : A1} (on_grid : target.OnGrid) (cell : Address) :
    Source.cellExpr cell ("=" ++ target.print) =
      .ok (.cell ⟨cell.sheet, target.row, target.col, target.rowFixed, target.colFixed⟩) := by
  have decoded : Reference.ofA1 cell.sheet target.print =
      .ok ⟨cell.sheet, target.row, target.col, target.rowFixed, target.colFixed⟩ :=
    Reference.ofA1_eq_ok_iff.2 ⟨target, A1.parse_print on_grid, rfl⟩
  have leaf : (Tree.leaf ⟨.cellRef, target.print⟩).reference? cell.sheet =
      some ⟨cell.sheet, target.row, target.col, target.rowFixed, target.colFixed⟩ := by
    rw [Tree.reference?_leaf rfl, decoded]
    rfl
  have plain : (referenceTree target.print).plainExpr cell.sheet =
      Folding.plain.reference 1 cell.sheet (.leaf ⟨.cellRef, target.print⟩) := rfl
  simp [Source.cellExpr, parse_reference on_grid, plain, Folding.reference, leaf, Folding.plain,
    entryAt]

/-- Cells one below the other that each read the next, the last of which holds a number, and
beside them two cells that read the first. -/
def chainSource (length : Nat) : Source where
  role cell := if cell.col = 3 then some .decision else none
  value cell :=
    if cell.col = 3 then .text "=$A$1"
    else if cell.row ≤ length then .text ("=" ++ A1.print ⟨cell.row + 1, 1, false, false⟩)
    else .int 1
  extent _ := none
  formula_agrees _ := rfl

def chainFront : A1 := ⟨1, 1, true, true⟩

theorem chainFront_print : chainFront.print = "$A$1" := by decide +kernel

theorem chainFront_onGrid : chainFront.OnGrid := ⟨by decide, by decide⟩

def chainCluster : Cluster where
  origin := ⟨"S", 1, 3⟩
  members := [⟨"S", 2, 3⟩]
  role := .decision
  skeleton := .ofBindings []
  references := []

theorem chainCluster_registered (length : Nat) :
    chainCluster ∈ (columnConfig.scanSheet (chainSource length) "S").registry.clusters := by
  have parsed := parse_reference chainFront_onGrid
  rw [chainFront_print] at parsed
  have read (row : Nat) :
      (chainSource length).reading ⟨"S", row, 3⟩ = .formula .decision (referenceTree "$A$1") :=
    reading_eq_formula_iff.2 ⟨rfl, "=$A$1", _, rfl, parsed, rfl⟩
  have joined : joins ⟨"S", 1, 3⟩ .decision (referenceTree "$A$1")
      (⟨"S", 2, 3⟩, .formula .decision (referenceTree "$A$1")) = some [] := by
    decide
  rw [← read 2] at joined
  exact column_registered (read 1) joined

section Chain

variable {length row : Nat}

theorem chain_formula (inside : row ≤ length) :
    (chainSource length).formula ⟨"S", row, 1⟩ =
      some ("=" ++ A1.print ⟨row + 1, 1, false, false⟩) := by
  simp [chainSource, inside, Value.formula?]

theorem chain_last : (chainSource length).value ⟨"S", length + 1, 1⟩ = .int 1 := by
  have beyond : ¬length + 1 ≤ length := Nat.not_succ_le_self length
  simp only [chainSource, beyond, if_false]
  rfl

theorem chain_end (levels : Nat) :
    (chainSource length).valueAt levels ⟨"S", length + 1, 1⟩ = .ok (.int 1) := by
  rw [Source.valueAt_eq]
  simp [Source.cellValue, chain_last, Value.formula?]

theorem chain_expr (on_grid : length < lastRow) (inside : row ≤ length) :
    Source.cellExpr ⟨"S", row, 1⟩ ("=" ++ A1.print ⟨row + 1, 1, false, false⟩) =
      .ok (.cell ⟨"S", row + 1, 1, false, false⟩) :=
  cellExpr_reference ⟨⟨Nat.le_add_left 1 row, Nat.le_trans (Nat.succ_le_succ inside) on_grid⟩,
    Nat.le_refl 1, (by decide : 1 ≤ lastColumn)⟩ _

theorem chain_step (on_grid : length < lastRow) (inside : row ≤ length) (levels : Nat) :
    (chainSource length).valueAt (levels + 2) ⟨"S", row, 1⟩ =
      .ok (.ofReading ((chainSource length).valueAt levels ⟨"S", row + 1, 1⟩)) := by
  rw [Source.valueAt_eq, Source.cellValue, ← Source.formula_agrees, chain_formula inside]
  simp only [chain_expr on_grid inside]
  rfl

theorem chain_settles (on_grid : length < lastRow) {depth : Nat}
    (below : row + depth = length + 1) :
    (chainSource length).SettlesWithin depth ⟨"S", row, 1⟩ := by
  induction depth generalizing row with
  | zero =>
    obtain rfl : row = length + 1 := below
    intro text e present
    simp [(chainSource length).formula_agrees, chain_last, Value.formula?] at present
  | succ depth ih =>
    intro text e present read other member
    obtain rfl := Option.some.inj ((chain_formula (by omega)).symm.trans present)
    cases (chain_expr on_grid (by omega)).symm.trans read
    obtain rfl := List.mem_singleton.1 member
    have next : row + 1 + depth = length + 1 := by omega
    exact ih next

theorem chain_value (on_grid : length < lastRow) {depth : Nat} (below : row + depth = length + 1) :
    (chainSource length).valueAt (2 * depth) ⟨"S", row, 1⟩ = .ok (.int 1) := by
  induction depth generalizing row with
  | zero =>
    obtain rfl : row = length + 1 := below
    exact chain_end 0
  | succ depth ih =>
    rw [Nat.mul_succ, chain_step on_grid (by omega), ih (by omega)]
    rfl

theorem chain_gives_up (on_grid : length < lastRow) {depth : Nat} (below : row + depth = length) :
    (chainSource length).valueAt (2 * depth + 1) ⟨"S", row, 1⟩ = .ok (.bare .circ) := by
  induction depth generalizing row with
  | zero =>
    have inside : row ≤ length := Nat.le_of_eq below
    rw [Source.valueAt_eq, Source.cellValue, ← Source.formula_agrees, chain_formula inside]
    simp only [chain_expr on_grid inside]
    rfl
  | succ depth ih =>
    rw [Nat.mul_succ, Nat.add_right_comm, chain_step on_grid (by omega), ih (by omega)]
    rfl

theorem front_expr :
    Source.cellExpr ⟨"S", 2, 3⟩ "=$A$1" = .ok (.cell ⟨"S", 1, 1, true, true⟩) := by
  have read := cellExpr_reference chainFront_onGrid ⟨"S", 2, 3⟩
  rw [chainFront_print] at read
  exact read

theorem front_formula (length : Nat) :
    (chainSource length).formula ⟨"S", 2, 3⟩ = some "=$A$1" := rfl

theorem front_step (levels : Nat) :
    (chainSource length).valueAt (levels + 2) ⟨"S", 2, 3⟩ =
      .ok (.ofReading ((chainSource length).valueAt levels ⟨"S", 1, 1⟩)) := by
  rw [Source.valueAt_eq, Source.cellValue, ← Source.formula_agrees, front_formula]
  simp only [front_expr]
  rfl

theorem front_settles (on_grid : length < lastRow) :
    (chainSource length).SettlesWithin (length + 1) ⟨"S", 2, 3⟩ := by
  intro text e present known other member
  obtain rfl := Option.some.inj ((front_formula length).symm.trans present)
  cases front_expr.symm.trans known
  obtain rfl := List.mem_singleton.1 member
  exact chain_settles on_grid (Nat.add_comm 1 length)

end Chain

/-- Applied to no arguments, a constant rule is the cell's formula with one level more to go. It has
the cell's value where the formulas behind the cell settle within the levels there are. -/
theorem apply_constant_rule {config : ScanConfig} {sheet : String}
    (registered : cluster ∈ (config.scanSheet source sheet).registry.clusters)
    (constant : cluster.references = []) (member : cell ∈ cluster.cells) :
    ∃ rule value, cluster.rule source = .ok rule ∧ source.evaluateCell cell = .ok value ∧
      source.valueAt (Source.fullLevels + 1) cell = .ok (source.apply rule []) ∧
      (source.SettlesWithin 32 cell → source.apply rule [] = value) := by
  obtain ⟨tree, run⟩ := scanSheet_isRun registered
  obtain ⟨rule, ruled, -, ⟨value, direct⟩, raised⟩ := run.valueAt_eq_apply constant member
  refine ⟨rule, value, ruled, direct, raised, ?_⟩
  intro settles
  have enough := Source.valueAt_of_settlesWithin settles (by decide : 2 * 32 ≤ Source.fullLevels)
  have more :=
    Source.valueAt_of_settlesWithin settles (by decide : 2 * 32 ≤ Source.fullLevels + 1)
  exact Except.ok.inj (raised.symm.trans (more.trans (enough.symm.trans direct)))

theorem apply_constant_rule_to_chain :
    chainCluster ∈ (columnConfig.scanSheet (chainSource 31) "S").registry.clusters ∧
    chainCluster.references = [] ∧ ⟨"S", 2, 3⟩ ∈ chainCluster.cells ∧
    (chainSource 31).SettlesWithin 32 ⟨"S", 2, 3⟩ ∧
    ∃ rule value, chainCluster.rule (chainSource 31) = .ok rule ∧
      (chainSource 31).evaluateCell ⟨"S", 2, 3⟩ = .ok value ∧
      (chainSource 31).apply rule [] = value := by
  have settles : (chainSource 31).SettlesWithin 32 ⟨"S", 2, 3⟩ := front_settles (by decide)
  have member : (⟨"S", 2, 3⟩ : Address) ∈ chainCluster.cells := by decide
  obtain ⟨rule, value, ruled, direct, -, agree⟩ :=
    apply_constant_rule (chainCluster_registered 31) rfl member
  exact ⟨chainCluster_registered 31, rfl, member, settles, rule, value, ruled, direct,
    agree settles⟩

/-- With 32 formulas behind the cell, its rule comes to the number at the end and the cell does
not. -/
theorem chain_outlasts_cell :
    chainCluster ∈ (columnConfig.scanSheet (chainSource 32) "S").registry.clusters ∧
    chainCluster.references = [] ∧ ⟨"S", 2, 3⟩ ∈ chainCluster.cells ∧
    ∃ rule, chainCluster.rule (chainSource 32) = .ok rule ∧
      (chainSource 32).apply rule [] = .int 1 ∧
      (chainSource 32).evaluateCell ⟨"S", 2, 3⟩ = .ok (.bare .circ) := by
  have member : (⟨"S", 2, 3⟩ : Address) ∈ chainCluster.cells := by decide
  obtain ⟨tree, run⟩ := scanSheet_isRun (chainCluster_registered 32)
  obtain ⟨rule, ruled, -, -, raised⟩ := run.valueAt_eq_apply rfl member
  refine ⟨chainCluster_registered 32, rfl, member, rule, ruled, ?_, ?_⟩
  · have reached : (chainSource 32).valueAt (2 * 32) ⟨"S", 1, 1⟩ = .ok (.int 1) :=
      chain_value (by decide) rfl
    have front := @front_step 32 64
    rw [reached] at front
    exact (Except.ok.inj (front.symm.trans raised)).symm
  · have stopped : (chainSource 32).valueAt (2 * 31 + 1) ⟨"S", 1, 1⟩ = .ok (.bare .circ) :=
      chain_gives_up (by decide) rfl
    have front := @front_step 32 63
    rw [stopped] at front
    exact front

end FormulaRuns
