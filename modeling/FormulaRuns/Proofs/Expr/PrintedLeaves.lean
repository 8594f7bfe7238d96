import FormulaRuns.Proofs.Expr.RoundTrip

namespace FormulaRuns

namespace Expr

theorem Written.parse_print_eq {e : Expr} (written : e.Written) (legible : e.isLegible true)
    (read : parseLexemes e.formulaTree.leaves = .ok e.formulaTree) :
    Formula.parse ("=" ++ e.print) = .ok ⟨"=" ++ e.print, e.formulaTree⟩ := by
  obtain ⟨tokens, cut, solid⟩ := written.tokenize_print legible
  exact Formula.parse_eq_ok_iff.2 ⟨rfl, tokens, cut, solid ▸ read⟩

theorem references_formulaTree_cell {ref : Reference} (on_grid : ref.OnGrid) (sheet : String) :
    (cell ref).formulaTree.references sheet = [([1, 2], ref)] := by
  have target : (Tree.leaf ⟨.cellRef, ref.a1⟩).reference? ref.sheet = some ref := by
    rw [Tree.reference?_leaf rfl, Reference.ofA1_a1 on_grid]
    rfl
  have no_reference {lexeme : Lexeme} (other : lexeme.kind ≠ .cellRef) (sheet : String) :
      (Tree.leaf lexeme).reference? sheet = none := Tree.reference?_leaf_eq_none other
  simp [formulaTree, tree, Tree.references, Tree.forestReferences, Tree.scope, Tree.text,
    unquoteSheet_quoteSheet, target, no_reference]

/-- A text is read back as a single operand, and a reference as the only one of its formula, on
whichever sheet that stands. -/
theorem printed_leaf_reads_back :
    (∀ s : String, ∃ formula, Formula.parse ("=" ++ (text s).print) = .ok formula ∧
      formula.root = .node .formula [.leaf ⟨.equals, "="⟩, .leaf ⟨.text, (text s).print⟩] ∧
      ∀ sheet, formula.root.plainExpr sheet = .ok (text s)) ∧
    ∀ ref : Reference, ref.OnGrid → ∃ formula, Formula.parse ("=" ++ ref.print) = .ok formula ∧
      ∀ sheet, formula.root.references sheet = [([1, 2], ref)] := by
  constructor
  · intro s
    have written : (text s).Written := .text
    exact ⟨_, written.parse_print_eq rfl rfl, rfl,
      fun sheet => (written.shows.readsAs sheet).formula _⟩
  · intro ref on_grid
    have written : (cell ref).Written := .cell on_grid
    exact ⟨_, written.parse_print_eq rfl rfl, references_formulaTree_cell on_grid⟩

theorem printed_leaf_reads_back_among_marks :
    (∃ formula, Formula.parse ("=" ++ (text "\"=\"\"").print) = .ok formula ∧
      formula.root.plainExpr "it's" = .ok (text "\"=\"\"")) ∧
    (⟨"''!A1", 7, 28, true, false⟩ : Reference).OnGrid ∧
    ∃ formula, Formula.parse "='''''!A1'!AB$7" = .ok formula ∧
      formula.root.references "it's" = [([1, 2], ⟨"''!A1", 7, 28, true, false⟩)] := by
  have on_grid : (⟨"''!A1", 7, 28, true, false⟩ : Reference).OnGrid :=
    ⟨by decide, by decide, by decide, by decide⟩
  have printed : "=" ++ (⟨"''!A1", 7, 28, true, false⟩ : Reference).print = "='''''!A1'!AB$7" := by
    decide +kernel
  obtain ⟨quoted, quoted_parsed, -, read⟩ := printed_leaf_reads_back.1 "\"=\"\""
  obtain ⟨formula, parsed, references⟩ := printed_leaf_reads_back.2 _ on_grid
  exact ⟨⟨quoted, quoted_parsed, read _⟩, on_grid, formula, printed ▸ parsed, references _⟩

end Expr

end FormulaRuns
