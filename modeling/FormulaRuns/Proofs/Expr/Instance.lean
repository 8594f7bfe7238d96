import FormulaRuns.Proofs.Expr.Translation
import FormulaRuns.Proofs.Pattern.Skeleton
import Mathlib.Data.List.Nodup

namespace FormulaRuns

open List (Forall₂)

namespace Tree

/-- The distinct references that follow a formula, as its parameters are numbered. -/
def movingTable (sheet : String) (tree : Tree) : ParameterTable :=
  .ofReferences ((tree.movingReferences sheet).map (·.2))

def movingFolding (sheet : String) (tree : Tree) : Folding :=
  ⟨tree.movingBinding 0 sheet, tree.movingTable sheet⟩

theorem eq_of_number_eq {start : Nat} {sheet : String} {tree : Tree} {leaf other : PlacedLeaf}
    (present : leaf ∈ tree.placedLeaves start sheet)
    (other_present : other ∈ tree.placedLeaves start sheet) (same : leaf.number = other.number) :
    leaf = other := by
  have distinct : ((tree.placedLeaves start sheet).map (·.number)).Nodup :=
    List.pairwise_map.2 ((tree.placedLeaves_ascending start sheet).imp Nat.ne_of_lt)
  exact List.inj_on_of_nodup_map distinct present other_present same

theorem entryAt_movingBinding {start : Nat} {sheet : String} {tree : Tree} {leaf : PlacedLeaf}
    (present : leaf ∈ tree.placedLeaves start sheet) :
    entryAt leaf.number (tree.movingBinding start sheet) =
      leaf.reference?.filter (·.isVariable) := by
  ext ref
  rw [entryAt_eq_some_iff (tree.movingBinding_ascending start sheet), mem_movingBinding,
    Option.filter_eq_some_iff]
  refine and_congr_left fun _ => ?_
  constructor
  · rintro ⟨other, other_present, same_number, decoded⟩
    rwa [← eq_of_number_eq other_present present same_number]
  · exact fun decoded => ⟨leaf, present, rfl, decoded⟩

theorem mem_movingTable {sheet : String} {tree : Tree} {ref : Reference} :
    ref ∈ (tree.movingTable sheet).references ↔
      ∃ leaf ∈ tree.placedLeaves 0 sheet, leaf.reference? = some ref ∧ ref.isVariable := by
  have same_references : (tree.movingReferences sheet).map (·.2) =
      (tree.movingBinding 0 sheet).map (·.2) :=
    map_eq_of_forall₂ ((tree.movingReferences_lead 0 sheet).imp fun _ _ leads => leads.1)
  simp only [movingTable, ParameterTable.ofReferences, mem_sortDistinct, same_references]
  constructor
  · intro member
    obtain ⟨⟨number, ref⟩, bound, rfl⟩ := List.mem_map.1 member
    obtain ⟨⟨leaf, present, -, decoded⟩, free⟩ := mem_movingBinding.1 bound
    exact ⟨leaf, present, decoded, free⟩
  · rintro ⟨leaf, present, decoded, free⟩
    exact List.mem_map.2
      ⟨(leaf.number, ref), mem_movingBinding.2 ⟨⟨leaf, present, rfl, decoded⟩, free⟩, rfl⟩

end Tree

theorem ParameterTable.paramFor?_of_mem {table : ParameterTable} {ref : Reference}
    (member : ref ∈ table.references) :
    ∃ index, table.paramFor? ref = some (index + 1) ∧ table.references[index]? = some ref := by
  obtain ⟨index, found⟩ := Option.isSome_iff_exists.1 (List.isSome_idxOf?.2 member)
  obtain ⟨in_range, same, -⟩ := List.idxOf?_eq_some_iff.1 found
  exact ⟨index, by simp [paramFor?, found], List.getElem?_eq_some_iff.2 ⟨in_range, same⟩⟩

theorem Tree.movingFolding_entry {sheet : String} {tree : Tree} {leaf : PlacedLeaf}
    {ref : Reference} (present : leaf ∈ tree.placedLeaves 0 sheet)
    (decoded : leaf.reference? = some ref) :
    (entryAt leaf.number (tree.movingFolding sheet).binding = some ref ∧
      ∃ index, (tree.movingFolding sheet).table.paramFor? ref = some (index + 1) ∧
        (tree.movingTable sheet).references[index]? = some ref) ∨
    (ref.isVariable = false ∧ entryAt leaf.number (tree.movingFolding sheet).binding = none) := by
  have entry : entryAt leaf.number (tree.movingFolding sheet).binding =
      (some ref).filter (·.isVariable) := decoded ▸ entryAt_movingBinding present
  rw [Option.filter_some] at entry
  cases free : ref.isVariable with
  | true =>
    refine .inl ⟨by simpa [free] using entry, ?_⟩
    exact ParameterTable.paramFor?_of_mem (mem_movingTable.2 ⟨leaf, present, decoded, free⟩)
  | false => exact .inr ⟨rfl, by simpa [free] using entry⟩

namespace PlacedLeaf

variable {leaf : PlacedLeaf} {ref : Reference}

theorem leaf_of_bound {folding : Folding} {index : Nat} (kind : leaf.lexeme.kind = .cellRef)
    (bound : entryAt leaf.number folding.binding = some ref)
    (numbered : folding.table.paramFor? ref = some index) :
    folding.leaf leaf.number leaf.sheet leaf.lexeme = .ok (.param index) := by
  simp only [Folding.leaf, kind, Folding.reference, bound, numbered]

theorem leaf_of_unbound {folding : Folding} (kind : leaf.lexeme.kind = .cellRef)
    (unbound : entryAt leaf.number folding.binding = none) (decoded : leaf.reference? = some ref) :
    folding.leaf leaf.number leaf.sheet leaf.lexeme = .ok (.cell ref) := by
  rw [reference?] at decoded
  simp only [Folding.leaf, kind, Folding.reference, unbound, decoded]

variable {sheet : String} {tree : Tree} {distance : Distance} {before after : PlacedLeaf}

theorem Moved.becomes_same (moved : Moved distance before after)
    (present : before ∈ tree.placedLeaves 0 sheet) (same_number : before.number = after.number) :
    before.Becomes id (tree.movingFolding sheet) (tree.movingFolding sheet) after := by
  refine ⟨moved.1, moved.text, ?_⟩
  by_cases kind : before.lexeme.kind = .cellRef
  · have kind' : after.lexeme.kind = .cellRef := moved.1 ▸ kind
    obtain ⟨ref, ref', decoded, decoded', moved_ref, -⟩ := moved.references kind
    rcases Tree.movingFolding_entry present decoded with
      ⟨bound, index, numbered, -⟩ | ⟨fixed, unbound⟩
    · refine ⟨.param (index + 1), leaf_of_bound kind bound numbered, ?_⟩
      rw [same_number] at bound
      exact leaf_of_bound kind' bound numbered
    · obtain rfl := Reference.eq_of_movedBy fixed moved_ref
      refine ⟨.cell ref, leaf_of_unbound kind unbound decoded, ?_⟩
      rw [same_number] at unbound
      exact leaf_of_unbound kind' unbound decoded'
  · exact (becomes_of_text id_homomorphic _ _ moved.1 kind (moved.text kind)).expr

/-- A leaf after a drag is the leaf before it, with the parameter replaced by its argument. -/
theorem Moved.becomes_plain {change : Expr → Expr} (homomorphic : Homomorphic change)
    (replaces : ∀ {index ref ref'}, (tree.movingTable sheet).references[index]? = some ref →
      ref.shifted distance = some ref' → change (.param (index + 1)) = .cell ref')
    (moved : Moved distance before after) (present : before ∈ tree.placedLeaves 0 sheet) :
    before.Becomes change (tree.movingFolding sheet) .plain after := by
  refine ⟨moved.1, moved.text, ?_⟩
  by_cases kind : before.lexeme.kind = .cellRef
  · obtain ⟨ref, ref', decoded, decoded', moved_ref, shifted⟩ := moved.references kind
    have own : Folding.plain.leaf after.number after.sheet after.lexeme = .ok (.cell ref') :=
      leaf_of_unbound (moved.1 ▸ kind) rfl decoded'
    rcases Tree.movingFolding_entry present decoded with
      ⟨bound, index, numbered, found⟩ | ⟨fixed, unbound⟩
    · refine ⟨.param (index + 1), leaf_of_bound kind bound numbered, ?_⟩
      rw [own, replaces found shifted]
    · obtain rfl := Reference.eq_of_movedBy fixed moved_ref
      refine ⟨.cell ref, leaf_of_unbound kind unbound decoded, ?_⟩
      rw [own, homomorphic.cell]
  · exact (becomes_of_text homomorphic _ _ moved.1 kind (moved.text kind)).expr

end PlacedLeaf

namespace Tree

variable {sheet sheet' : String} {tree tree' : Tree} {distance : Distance}

theorem Alike.exists_arguments
    (alike : tree.Alike (PlacedLeaf.Moved distance) 0 sheet sheet' tree') :
    ∃ args, (tree.movingTable sheet).references.mapM (·.shifted distance) = some args := by
  apply exists_mapM_eq_some
  intro ref member
  obtain ⟨before, present, decoded, -⟩ := mem_movingTable.1 member
  obtain ⟨after, -, -, moved⟩ := alike.exists_related present
  obtain ⟨_, ref', same, -, -, shifted⟩ :=
    moved.references (PlacedLeaf.kind_of_reference? decoded)
  cases decoded.symm.trans same
  exact ⟨ref', shifted⟩

theorem Alike.toExpr_eq (alike : tree.Alike (PlacedLeaf.Moved distance) 0 sheet sheet' tree')
    (wellFormed : tree.WellFormed) :
    ∃ body, tree.toExpr (tree.movingFolding sheet) 0 sheet = .ok body ∧
      tree'.toExpr (tree.movingFolding sheet) 0 sheet' = .ok body := by
  apply toExpr_becomes id_homomorphic wellFormed.grammatical wellFormed.spelled
  refine alike.imp ?_
  intro before after present same_number moved
  exact moved.becomes_same present same_number

theorem ruleOver_of_toExpr {binding : Binding} {table : ParameterTable} {body : Expr}
    (read : tree.toExpr ⟨binding, table⟩ 0 sheet = .ok body) :
    tree.ruleOver sheet binding table =
      .ok (if table.isEmpty then body else .lambda table.params body) := by
  simp [ruleOver, read]

theorem Alike.ruleOver_eq (alike : tree.Alike (PlacedLeaf.Moved distance) 0 sheet sheet' tree')
    (wellFormed : tree.WellFormed) :
    ∃ rule, tree.ruleOver sheet (tree.movingBinding 0 sheet) (tree.movingTable sheet) = .ok rule ∧
      tree'.ruleOver sheet' (tree.movingBinding 0 sheet) (tree.movingTable sheet) = .ok rule := by
  obtain ⟨body, read, read'⟩ := alike.toExpr_eq wellFormed
  exact ⟨_, ruleOver_of_toExpr read, ruleOver_of_toExpr read'⟩

theorem Alike.plainExpr_becomes {change : Expr → Expr} (homomorphic : Homomorphic change)
    (replaces : ∀ {index ref ref'}, (tree.movingTable sheet).references[index]? = some ref →
      ref.shifted distance = some ref' → change (.param (index + 1)) = .cell ref')
    (alike : tree.Alike (PlacedLeaf.Moved distance) 0 sheet sheet' tree')
    (wellFormed : tree.WellFormed) :
    Becomes change (tree.toExpr (tree.movingFolding sheet) 0 sheet) (tree'.plainExpr sheet') := by
  apply toExpr_becomes homomorphic wellFormed.grammatical wellFormed.spelled
  refine alike.imp ?_
  intro before after present _ moved
  exact moved.becomes_plain homomorphic replaces present

/-- The rule of a formula, instantiated for the arguments after a drag, is the dragged formula. -/
theorem Alike.plainExpr_eq {args : List Reference}
    (arguments : (tree.movingTable sheet).references.mapM (·.shifted distance) = some args)
    (alike : tree.Alike (PlacedLeaf.Moved distance) 0 sheet sheet' tree')
    (wellFormed : tree.WellFormed) :
    ∃ rule, tree.ruleOver sheet (tree.movingBinding 0 sheet) (tree.movingTable sheet) = .ok rule ∧
      rule.params = List.range' 1 args.length ∧
      tree'.plainExpr sheet' = .ok (rule.instantiate args) := by
  have lengths : (tree.movingTable sheet).size = args.length :=
    (mapM_eq_some_iff.1 arguments).length_eq
  cases references : (tree.movingTable sheet).references with
  | nil =>
    -- Without parameters the rule is no lambda, and each formula is the rule itself.
    obtain ⟨body, read, read'⟩ :=
      alike.plainExpr_becomes id_homomorphic (by simp [references]) wellFormed
    have empty : (tree.movingTable sheet).isEmpty := by simp [ParameterTable.isEmpty, references]
    have no_args : args.length = 0 := by simpa [ParameterTable.size, references] using lengths.symm
    have no_lambda : body.isLambda = false := toExpr_isLambda _ _ _ _ _ read
    refine ⟨body, by rw [ruleOver_of_toExpr read, if_pos empty], ?_, ?_⟩
    · cases body with
      | lambda => cases no_lambda
      | _ => simp [Expr.params, no_args]
    · cases body with
      | lambda => cases no_lambda
      | _ => exact read'
  | cons first others =>
    have replaces {index : Nat} {ref ref' : Reference}
        (found : (tree.movingTable sheet).references[index]? = some ref)
        (shifted : ref.shifted distance = some ref') :
        (Expr.param (index + 1)).substitute (.numbered args) = .cell ref' := by
      have argument : args[index]? = some ref' := getElem?_of_mapM arguments found shifted
      simp [Expr.substitute, Parameters.numbered, argument]
    obtain ⟨body, read, read'⟩ :=
      alike.plainExpr_becomes (substitute_homomorphic (.numbered args)) replaces wellFormed
    have nonempty : ¬ (tree.movingTable sheet).isEmpty := by
      simp [ParameterTable.isEmpty, references]
    refine ⟨.lambda (tree.movingTable sheet).params body, ?_, ?_, read'⟩
    · rw [ruleOver_of_toExpr read, if_neg nonempty]
    · rw [Expr.params, ParameterTable.params, lengths]

end Tree

end FormulaRuns
