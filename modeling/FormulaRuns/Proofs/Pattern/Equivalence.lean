import FormulaRuns.Proofs.Pattern.Drag

/-!
Compatibility relates formulas in their cells, whichever of them is taken for the origin. Compared
the other way round, two formulas differ in the same place or record the same paths
(`checkTrees_places`), and what a formula records is its own, whatever it is compared with. So any
member of a run could stand for its origin (`checkFormulas_equivalence`).
-/
namespace FormulaRuns

namespace Reference

variable {before after : Reference}

theorem movedBy_flip (before after : Reference) (origin candidate : Address) :
    before.movedBy (.between origin candidate) after =
      after.movedBy (.between candidate origin) before :=
  Bool.eq_iff_iff.2 ⟨movedBy_symm, movedBy_symm⟩

theorem isVariable_eq_of_movedBy {distance : Distance} (moved : before.movedBy distance after) :
    before.isVariable = after.isVariable := by
  simp only [movedBy, Bool.and_eq_true, beq_iff_eq] at moved
  obtain ⟨⟨⟨⟨-, colsFixed⟩, rowsFixed⟩, -⟩, -⟩ := moved
  simp only [isVariable, isFullyFixed, colsFixed, rowsFixed]

end Reference

/-- Where a comparison fails, or else the paths that it records. -/
def comparedPlaces (compared : Except Mismatch Bindings) : Except Mismatch (List Path) :=
  compared.map fun bindings => bindings.map (·.1)

namespace Compatibility

def places : Compatibility → Except Mismatch (List Path)
  | incompatible mismatch => .error mismatch
  | compatible bindings => .ok (bindings.map (·.1))

variable {there back : Compatibility}

theorem isCompatible_eq_of_places (same : there.places = back.places) :
    there.isCompatible = back.isCompatible := by
  cases there <;> cases back <;> first | rfl | cases same

theorem paths_eq_of_places {bindings bindings' : Bindings} (same : there.places = back.places)
    (found : there = .compatible bindings) (found' : back = .compatible bindings') :
    bindings.map (·.1) = bindings'.map (·.1) := by
  subst found found'
  exact Except.ok.inj same

theorem eq_incompatible_of_places {mismatch : Mismatch} (same : there.places = back.places)
    (differ : there = .incompatible mismatch) : back = .incompatible mismatch := by
  subst differ
  cases back with
  | incompatible other => exact congrArg incompatible (Except.error.inj same).symm
  | compatible bindings => cases same

end Compatibility

namespace Tree

variable {distance : Distance} {sheet sheet' : String}

theorem compareReferences_places (origin candidate : Address) (before after : Option Reference) :
    comparedPlaces (compareReferences (.between origin candidate) before after) =
      comparedPlaces (compareReferences (.between candidate origin) after before) := by
  cases before with
  | none => cases after <;> rfl
  | some ref =>
    cases after with
    | none => rfl
    | some ref' =>
      simp only [compareReferences, ← ref.movedBy_flip ref']
      split
      · rename_i moved
        rw [Reference.isVariable_eq_of_movedBy moved]
        cases ref'.isVariable <;> rfl
      · rfl

def joinPlaces (index : Nat) (first others : Except Mismatch (List Path)) :
    Except Mismatch (List Path) :=
  match first with
  | .error mismatch => .error (mismatch.under index)
  | .ok paths => others.map (paths.map (index :: ·) ++ ·)

theorem compareForests_cons_places (index : Nat) (before after : Tree)
    (befores afters : List Tree) :
    comparedPlaces (compareForests distance sheet sheet' index (before :: befores)
        (after :: afters)) =
      joinPlaces index (comparedPlaces (before.compareWith distance sheet sheet' after))
        (comparedPlaces
          (compareForests distance sheet sheet' (index + 1) befores afters)) := by
  rw [compareForests]
  cases before.compareWith distance sheet sheet' after with
  | error mismatch => rfl
  | ok found =>
    cases compareForests distance sheet sheet' (index + 1) befores afters with
    | error mismatch => rfl
    | ok others => simp [comparedPlaces, joinPlaces, Except.map, Function.comp_def]

mutual

theorem compareWith_places (origin candidate : Address) (sheet sheet' : String) :
    ∀ before after : Tree,
      comparedPlaces (before.compareWith (.between origin candidate) sheet sheet' after) =
        comparedPlaces (after.compareWith (.between candidate origin) sheet' sheet before)
  | leaf before, leaf after => by
    by_cases kinds : before.kind = after.kind
    · by_cases kind : after.kind = .cellRef
      · simp only [compareWith, kinds, kind, ne_eq, not_true_eq_false, if_false, if_true]
        exact compareReferences_places origin candidate _ _
      · simp only [compareWith, kinds, kind, ne_eq, not_true_eq_false, if_false,
          eq_comm (a := before.text)]
    · simp only [compareWith, ne_eq, kinds, Ne.symm kinds, not_false_eq_true, if_true]
  | node rule befores, node rule' afters => by
    simp only [compareWith, ne_comm (a := rule), ne_comm (a := befores.length)]
    split
    · rfl
    · exact compareForests_places origin candidate _ _ 0 befores afters
  | leaf _, node _ _ | node _ _, leaf _ => rfl

theorem compareForests_places (origin candidate : Address) (sheet sheet' : String) (index : Nat) :
    ∀ befores afters : List Tree,
      comparedPlaces
          (compareForests (.between origin candidate) sheet sheet' index befores afters) =
        comparedPlaces
          (compareForests (.between candidate origin) sheet' sheet index afters befores)
  | before :: befores, after :: afters => by
    rw [compareForests_cons_places, compareForests_cons_places,
      compareWith_places origin candidate sheet sheet' before after,
      compareForests_places origin candidate sheet sheet' (index + 1) befores afters]
  | [], [] | [], _ :: _ | _ :: _, [] => rfl

end

end Tree

/-- Two formulas differ, or agree, in the same places from either side. -/
theorem checkTrees_places (tree tree' : Tree) (origin candidate : Address) :
    (checkTrees tree origin tree' candidate).places =
      (checkTrees tree' candidate tree origin).places := by
  have outcome (tree tree' : Tree) (origin candidate : Address) :
      (checkTrees tree origin tree' candidate).places = comparedPlaces
        (tree.compareWith (.between origin candidate) origin.sheet candidate.sheet tree') := by
    rw [checkTrees]
    cases tree.compareWith (.between origin candidate) origin.sheet candidate.sheet tree' <;> rfl
  rw [outcome, outcome, Tree.compareWith_places]

theorem checkTrees_trans {tree tree' tree'' : Tree} {origin middle candidate : Address}
    {bindings bindings' : Bindings}
    (first : checkTrees tree origin tree' middle = .compatible bindings)
    (second : checkTrees tree' middle tree'' candidate = .compatible bindings') :
    checkTrees tree origin tree'' candidate = .compatible bindings := by
  obtain ⟨alike, recorded⟩ := checkTrees_eq_compatible_iff.1 first
  obtain ⟨alike', -⟩ := checkTrees_eq_compatible_iff.1 second
  refine checkTrees_eq_compatible_iff.2 ⟨alike.trans ?_ alike', recorded⟩
  intro leaf leaf' leaf'' moved moved'
  exact moved.trans moved'

/-- It does not matter which of two formulas is the origin, and a third one that is compatible with
the second is so with the first, too, and leaves the first one's bindings as they are. -/
theorem checkFormulas_equivalence {text text' text'' : String}
    {formula formula' formula'' : Formula}
    (parsed : Formula.parse text = .ok formula) (parsed' : Formula.parse text' = .ok formula')
    (parsed'' : Formula.parse text'' = .ok formula'') (cell cell' cell'' : Address) :
    ∃ there back further whole, checkFormulas text cell text' cell' = .ok there ∧
      checkFormulas text' cell' text cell = .ok back ∧
      checkFormulas text' cell' text'' cell'' = .ok further ∧
      checkFormulas text cell text'' cell'' = .ok whole ∧
      (there.isCompatible ↔ back.isCompatible) ∧
      (∀ bindings bindings', there = .compatible bindings → back = .compatible bindings' →
        bindings.map (·.1) = bindings'.map (·.1)) ∧
      (∀ mismatch, there = .incompatible mismatch ↔ back = .incompatible mismatch) ∧
      ∀ bindings, there = .compatible bindings → further.isCompatible →
        whole = .compatible bindings := by
  have same := checkTrees_places formula.root formula'.root cell cell'
  refine ⟨_, _, _, _, checkFormulas_of_parse parsed parsed', checkFormulas_of_parse parsed' parsed,
    checkFormulas_of_parse parsed' parsed'', checkFormulas_of_parse parsed parsed'', ?_, ?_, ?_, ?_⟩
  · rw [Compatibility.isCompatible_eq_of_places same]
  · intro bindings bindings' found found'
    exact Compatibility.paths_eq_of_places same found found'
  · intro mismatch
    exact ⟨Compatibility.eq_incompatible_of_places same,
      Compatibility.eq_incompatible_of_places same.symm⟩
  · intro bindings found compatible
    cases further : checkTrees formula'.root cell' formula''.root cell'' with
    | incompatible mismatch => simp [further, Compatibility.isCompatible] at compatible
    | compatible bindings' => exact checkTrees_trans found further

theorem checkFormulas_equivalence_across_a_column :
    ∃ there back further whole,
      checkFormulas "=A1+$B$2" ⟨"S", 1, 3⟩ "=A2+$B$2" ⟨"S", 2, 3⟩ = .ok there ∧
      checkFormulas "=A2+$B$2" ⟨"S", 2, 3⟩ "=A1+$B$2" ⟨"S", 1, 3⟩ = .ok back ∧
      checkFormulas "=A2+$B$2" ⟨"S", 2, 3⟩ "=A1+$B$2" ⟨"T", 1, 3⟩ = .ok further ∧
      checkFormulas "=A1+$B$2" ⟨"S", 1, 3⟩ "=A1+$B$2" ⟨"T", 1, 3⟩ = .ok whole ∧
      (there.isCompatible ↔ back.isCompatible) ∧
      (∀ bindings bindings', there = .compatible bindings → back = .compatible bindings' →
        bindings.map (·.1) = bindings'.map (·.1)) ∧
      (∀ mismatch, there = .incompatible mismatch ↔ back = .incompatible mismatch) ∧
      ∀ bindings, there = .compatible bindings → further.isCompatible →
        whole = .compatible bindings :=
  checkFormulas_equivalence parse_sum.1 parse_sum.2 parse_sum.1 ⟨"S", 1, 3⟩ ⟨"S", 2, 3⟩
    ⟨"T", 1, 3⟩

end FormulaRuns
