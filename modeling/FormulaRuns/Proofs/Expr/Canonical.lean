import FormulaRuns.Proofs.Expr.Instance
import FormulaRuns.Proofs.Expr.Marking
import Mathlib.Data.List.Dedup

namespace FormulaRuns

/-- One more than the number of distinct references below this one. -/
def Reference.rank (references : List Reference) (ref : Reference) : Nat :=
  references.dedup.countP (fun other => (compare other ref).isLT) + 1

namespace ParameterTable

theorem perm_dedup (references : List Reference) :
    (ofReferences references).references.Perm references.dedup := by
  apply (List.perm_ext_iff_of_nodup (sortDistinct_ascending references).nodup
    references.nodup_dedup).2
  intro ref
  rw [List.mem_dedup]
  exact mem_sortDistinct

theorem paramFor?_ofReferences {references : List Reference} {ref : Reference}
    (member : ref ∈ references) :
    (ofReferences references).paramFor? ref = some (ref.rank references) := by
  have present : ref ∈ (ofReferences references).references := mem_sortDistinct.2 member
  have index : (ofReferences references).references.idxOf? ref = _ :=
    (sortDistinct_ascending references).idxOf?_eq present
  rw [paramFor?, index]
  exact congrArg (fun below => some (below + 1)) ((perm_dedup references).countP_eq _)

theorem params_ofReferences (references : List Reference) :
    (ofReferences references).params = List.range' 1 references.dedup.length := by
  rw [params, size, (perm_dedup references).length_eq]

theorem paramFor?_eq_none_iff {table : ParameterTable} {ref : Reference} :
    table.paramFor? ref = none ↔ ref ∉ table.references := by
  rw [paramFor?, Option.map_eq_none_iff, List.idxOf?_eq_none_iff]

end ParameterTable

theorem Reference.exists_rank {references : List Reference} {index : Nat}
    (numbered : index ∈ List.range' 1 references.dedup.length) :
    ∃ ref ∈ references, ref.rank references = index := by
  let table := ParameterTable.ofReferences references
  have length : table.references.length = references.dedup.length :=
    (ParameterTable.perm_dedup references).length_eq
  obtain ⟨above, below⟩ := List.mem_range'_1.1 numbered
  have inside : index - 1 < table.references.length := by omega
  have present : table.references[index - 1] ∈ references :=
    mem_sortDistinct.1 (List.getElem_mem inside)
  refine ⟨_, present, ?_⟩
  have distinct : table.references.Nodup := (sortDistinct_ascending references).nodup
  have found : table.references.idxOf? table.references[index - 1] = some (index - 1) := by
    rw [List.idxOf?_eq_some_iff]
    refine ⟨inside, rfl, ?_⟩
    intro before earlier same
    exact absurd ((distinct.getElem_inj_iff).1 same) (Nat.ne_of_lt earlier)
  have numbered := ParameterTable.paramFor?_ofReferences present
  rw [ParameterTable.paramFor?, found, Option.map_some, Option.some.injEq] at numbered
  omega

namespace Folding

variable {folding : Folding} {id : Nat}

theorem mark_ofReferences {binding : Binding} (ascending : AscendingKeys binding) (id : Nat) :
    (⟨binding, .ofReferences (binding.map (·.2))⟩ : Folding).mark id =
      .ok ((entryAt id binding).map fun ref => .param (ref.rank (binding.map (·.2)))) := by
  rw [mark]
  cases found : entryAt id binding with
  | none => rfl
  | some bound =>
    have member := List.mem_map_of_mem (f := (·.2)) ((entryAt_eq_some_iff ascending).1 found)
    simp [ParameterTable.paramFor?_ofReferences member]

theorem mark_eq_error_iff {fault : Fault} : folding.mark id = .error fault ↔
    ∃ ref, entryAt id folding.binding = some ref ∧ ref ∉ folding.table.references ∧
      fault = .unknownParameter ref := by
  rw [mark]
  cases entryAt id folding.binding with
  | none => simp
  | some bound =>
    dsimp only
    cases numbered : folding.table.paramFor? bound with
    | none => simp [ParameterTable.paramFor?_eq_none_iff.1 numbered, eq_comm]
    | some index =>
      have present : bound ∈ folding.table.references := by
        by_contra absent
        simp [ParameterTable.paramFor?_eq_none_iff.2 absent] at numbered
      simp [present]

end Folding

namespace Tree

variable {tree : Tree} {sheet : String} {binding : Binding} {table : ParameterTable}

theorem ruleOver_eq_error_iff {fault : Fault} : tree.ruleOver sheet binding table = .error fault ↔
    tree.toExpr ⟨binding, table⟩ 0 sheet = .error fault := by
  rw [ruleOver]
  cases tree.toExpr ⟨binding, table⟩ 0 sheet <;> simp

/-- A rule lacks a parameter just if the table lacks a reference that is bound. -/
theorem WellFormed.ruleOver_unknown_iff (wellFormed : tree.WellFormed)
    (ascending : AscendingKeys binding) (cells : ∀ entry ∈ binding, entry.1 ∈ tree.cellIds) :
    (∃ ref, tree.ruleOver sheet binding table = .error (.unknownParameter ref)) ↔
      ∃ entry ∈ binding, entry.2 ∉ table.references := by
  obtain ⟨plain, -, -, folded⟩ :=
    toExpr_marked ⟨binding, table⟩ wellFormed.grammatical wellFormed.spelled 0 sheet
  simp only [ruleOver_eq_error_iff, folded]
  constructor
  · rintro ⟨ref, failed⟩
    cases marked : (tree.cellIdsFrom 0).mapM (⟨binding, table⟩ : Folding).mark with
    | ok marks => simp [marked, Except.map] at failed
    | error fault =>
      obtain ⟨id, -, unmarked⟩ := exists_of_mapM_eq_error marked
      obtain ⟨bound, found, absent, -⟩ := Folding.mark_eq_error_iff.1 unmarked
      exact ⟨(id, bound), (entryAt_eq_some_iff ascending).1 found, absent⟩
  · rintro ⟨⟨id, bound⟩, member, absent⟩
    have unmarked : (⟨binding, table⟩ : Folding).mark id = .error (.unknownParameter bound) :=
      Folding.mark_eq_error_iff.2 ⟨bound, (entryAt_eq_some_iff ascending).2 member, absent, rfl⟩
    cases marked : (tree.cellIdsFrom 0).mapM (⟨binding, table⟩ : Folding).mark with
    | ok marks =>
      obtain ⟨mark, -, read⟩ := exists_of_mem_left (mapM_eq_ok_iff.1 marked) (cells _ member)
      cases unmarked.symm.trans read
    | error fault =>
      obtain ⟨id, -, unmarked⟩ := exists_of_mapM_eq_error marked
      obtain ⟨ref, -, -, rfl⟩ := Folding.mark_eq_error_iff.1 unmarked
      exact ⟨ref, rfl⟩

theorem WellFormed.toExpr_canonical (wellFormed : tree.WellFormed)
    (ascending : AscendingKeys binding) (sheet : String) :
    ∃ plain, tree.plainExpr sheet = .ok plain ∧ plain.cellCount = tree.cellIds.length ∧
      tree.toExpr ⟨binding, .ofReferences (binding.map (·.2))⟩ 0 sheet =
        .ok (plain.replaceCells (tree.cellIds.map fun id =>
          (entryAt id binding).map fun ref => .param (ref.rank (binding.map (·.2))))) := by
  obtain ⟨plain, read, count, folded⟩ :=
    toExpr_marked ⟨binding, .ofReferences (binding.map (·.2))⟩ wellFormed.grammatical
      wellFormed.spelled 0 sheet
  refine ⟨plain, read, count, ?_⟩
  rw [folded, mapM_eq_ok_map fun id _ => Folding.mark_ofReferences ascending id]
  rfl

end Tree

theorem ParameterTable.ofReferences_eq_of_perm {references others : List Reference}
    (order : others.Perm references) : ofReferences others = ofReferences references := by
  have same : sortDistinct others = sortDistinct references := by
    apply (sortDistinct_ascending others).eq_of_mem_iff (sortDistinct_ascending references)
    intro ref
    rw [mem_sortDistinct, mem_sortDistinct, order.mem_iff]
  rw [ofReferences, same, ofReferences]

/-- The rule of a formula whose references are bound, in whatever order they are listed: a lambda
with a parameter for each distinct reference, numbered in their order. -/
theorem Formula.ruleOf_canonical {text : String} {formula : Formula} {binding : Binding}
    (parsed : Formula.parse text = .ok formula) (ascending : AscendingKeys binding)
    (nonempty : binding ≠ [])
    (cells : ∀ entry ∈ binding, ∃ lexeme,
      formula.root.rows[entry.1]? = some (.leaf lexeme) ∧ lexeme.kind = .cellRef)
    (sheet : String) :
    let references := binding.map (·.2)
    ∃ plain body, formula.root.plainExpr sheet = .ok plain ∧
      plain.cellCount = formula.root.cellIds.length ∧
      body = plain.replaceCells (formula.root.cellIds.map fun id =>
        (entryAt id binding).map fun ref => .param (ref.rank references)) ∧
      formula.root.ruleOf sheet binding =
        .ok (.lambda (List.range' 1 references.dedup.length) body) ∧
      (∀ entries : Binding, entries.Perm binding →
        formula.root.ruleOver sheet binding (.ofReferences (entries.map (·.2))) =
          formula.root.ruleOf sheet binding) ∧
      (∀ index ∈ List.range' 1 references.dedup.length, .param index ∈ body.subexprs) ∧
      ∀ table : ParameterTable,
        (∃ ref, formula.root.ruleOver sheet binding table = .error (.unknownParameter ref)) ↔
          ∃ entry ∈ binding, entry.2 ∉ table.references := by
  intro references
  have wellFormed := Formula.parse_wellFormed parsed
  have within : ∀ entry ∈ binding, entry.1 ∈ formula.root.cellIds :=
    fun entry member => Tree.mem_cellIds.2 (cells entry member)
  obtain ⟨plain, read, count, folded⟩ := wellFormed.toExpr_canonical ascending sheet
  have rule : formula.root.ruleOf sheet binding =
      formula.root.ruleOver sheet binding (.ofReferences references) :=
    if_neg (by simpa using nonempty)
  have some_parameter : (ParameterTable.ofReferences references).isEmpty = false := by
    obtain ⟨entry, member⟩ := List.exists_mem_of_ne_nil _ nonempty
    have present : entry.2 ∈ (ParameterTable.ofReferences references).references :=
      mem_sortDistinct.2 (List.mem_map_of_mem member)
    simpa [ParameterTable.isEmpty] using List.ne_nil_of_mem present
  refine ⟨plain, _, read, count, rfl, ?_, ?_, ?_, fun table =>
    wellFormed.ruleOver_unknown_iff ascending within⟩
  · rw [rule, Tree.ruleOver_of_toExpr folded, some_parameter, ParameterTable.params_ofReferences]
    rfl
  · intro entries order
    rw [rule, ParameterTable.ofReferences_eq_of_perm (order.map (·.2))]
  · intro index numbered
    -- The parameter stands at a leaf that is bound to the reference of this rank.
    obtain ⟨ref, member, rfl⟩ := Reference.exists_rank numbered
    obtain ⟨⟨id, ref⟩, bound, rfl⟩ := List.mem_map.1 member
    apply Expr.mem_subexprs_replaceCells
    · simpa using count.symm
    · refine List.mem_map.2 ⟨id, within _ bound, ?_⟩
      rw [(entryAt_eq_some_iff ascending).2 bound]
      rfl

theorem Formula.ruleOf_canonical_of_sum :
    let first : Reference := ⟨"S", 1, 1, false, false⟩
    let second : Reference := ⟨"S", 1, 2, false, false⟩
    let binding : Binding := [(1, second), (3, first)]
    AscendingKeys binding ∧ ∃ plain, (sumTree "A1").plainExpr "S" = .ok plain ∧
      (sumTree "A1").ruleOf "S" binding =
        .ok (.lambda [1, 2] (plain.replaceCells [some (.param 2), some (.param 1)])) := by
  intro first second binding
  have ascending : AscendingKeys binding := by
    simp only [AscendingKeys]
    decide
  have cells : ∀ entry ∈ binding, ∃ lexeme,
      (sumTree "A1").rows[entry.1]? = some (.leaf lexeme) ∧ lexeme.kind = .cellRef := by
    simp only [binding, List.forall_mem_cons]
    exact ⟨⟨_, rfl, rfl⟩, ⟨_, rfl, rfl⟩, by simp⟩
  obtain ⟨plain, body, read, -, filled, rule, -⟩ :=
    Formula.ruleOf_canonical parse_sum.1 ascending (by simp [binding]) cells "S"
  have count : (binding.map (·.2)).dedup.length = 2 := by decide
  have first_rank : first.rank (binding.map (·.2)) = 1 := by decide
  have second_rank : second.rank (binding.map (·.2)) = 2 := by decide
  have ids : (sumTree "A1").cellIds = [1, 3] := rfl
  have first_bound : entryAt 3 binding = some first := rfl
  have second_bound : entryAt 1 binding = some second := rfl
  refine ⟨ascending, plain, read, ?_⟩
  rw [rule, filled, count]
  simp only [ids, List.map_cons, List.map_nil, first_bound, second_bound, Option.map_some,
    first_rank, second_rank]
  rfl

end FormulaRuns
