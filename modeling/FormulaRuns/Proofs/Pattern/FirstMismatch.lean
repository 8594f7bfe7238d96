import FormulaRuns.Proofs.Grid.Displacement
import FormulaRuns.Proofs.Pattern.Compatible

/-!
Where two formulas differ. The checker goes through both trees in reading order, a node before its
children and these from left to right; in this order the paths to the nodes are ascending. It
reports the first node at which the trees do not agree, and in what they differ there
(`checkTrees_first_mismatch`).
-/
namespace FormulaRuns

structure Place where
  sheet : String
  tree : Tree

namespace Tree

def placeAt (sheet : String) (tree : Tree) : Path → Option Place
  | [] => some ⟨sheet, tree⟩
  | index :: path => tree.children[index]?.bind (·.placeAt (tree.scope sheet) path)

theorem placeAt_tree (sheet : String) (tree : Tree) (path : Path) :
    (tree.placeAt sheet path).map (·.tree) = tree.subtreeAt path := by
  induction path generalizing sheet tree with
  | nil => rfl
  | cons index path ih => simp only [placeAt, subtreeAt, Option.map_bind, Function.comp_def, ih]

/-- The nodes have the same rule or kind of token, as many children and, unless they are references
to cells, the same text. What is below them may differ. -/
structure SameForm (before after : Tree) : Prop where
  rule : before.rule? = after.rule?
  kind : before.kind? = after.kind?
  children : before.children.length = after.children.length
  text : before.isCellRef = false → before.text = after.text

end Tree

namespace Place

def reference? (place : Place) : Option Reference := place.tree.reference? place.sheet

def Displaced (distance : Distance) (before after : Place) : Prop :=
  ∃ ref ref', before.reference? = some ref ∧ after.reference? = some ref' ∧
    ref.Displaced distance ref'

/-- The second node is what a drag makes of the first, whatever is below them. -/
structure Agree (distance : Distance) (before after : Place) : Prop where
  form : before.tree.SameForm after.tree
  reference : before.tree.isCellRef → before.Displaced distance after

end Place

/-- At the path the trees differ as the mismatch says, and before it they agree. A path is below
another if its node comes first in reading order. -/
structure FirstMismatch (distance : Distance) (sheet sheet' : String) (tree tree' : Tree)
    (mismatch : Mismatch) (path : Path) (before after : Place) : Prop where
  reported : mismatch.path? = some path
  place : tree.placeAt sheet path = some before
  place' : tree'.placeAt sheet' path = some after
  earlier : ∀ earlier < path, Option.Rel (Place.Agree distance) (tree.placeAt sheet earlier)
    (tree'.placeAt sheet' earlier)
  differ : ¬ before.Agree distance after
  shape : mismatch = .shape path ↔ ¬ before.tree.SameForm after.tree
  reference : mismatch = .reference path ↔
    before.tree.isCellRef ∧ after.tree.isCellRef ∧ ¬ before.Displaced distance after

namespace Tree

variable {distance : Distance} {sheet sheet' : String} {tree tree' : Tree}

theorem isCellRef_leaf {lexeme : Lexeme} : (leaf lexeme).isCellRef ↔ lexeme.kind = .cellRef := by
  simp [isCellRef, kind?, lexeme?]

theorem sameForm_leaf_iff {before after : Lexeme} :
    (leaf before).SameForm (leaf after) ↔
      before.kind = after.kind ∧ (before.kind ≠ .cellRef → before.text = after.text) := by
  have other : (leaf before).isCellRef = false ↔ before.kind ≠ .cellRef := by
    rw [← Bool.not_eq_true, isCellRef_leaf]
  constructor
  · rintro ⟨-, kind, -, text⟩
    exact ⟨Option.some.inj kind, fun kind => text (other.2 kind)⟩
  · rintro ⟨kind, text⟩
    exact ⟨rfl, congrArg some kind, rfl, fun kind => text (other.1 kind)⟩

theorem sameForm_node_iff {rule rule' : Rule} {befores afters : List Tree} :
    (node rule befores).SameForm (node rule' afters) ↔
      rule = rule' ∧ befores.length = afters.length := by
  constructor
  · rintro ⟨same, -, lengths, -⟩
    exact ⟨Option.some.inj same, lengths⟩
  · rintro ⟨rfl, lengths⟩
    exact ⟨rfl, rfl, lengths, fun _ => rfl⟩

theorem SameForm.isCellRef_eq (form : tree.SameForm tree') : tree.isCellRef = tree'.isCellRef := by
  rw [isCellRef, form.kind, isCellRef]

theorem sameForm_of_isCellRef (cell : tree.isCellRef) (cell' : tree'.isCellRef) :
    tree.SameForm tree' := by
  cases tree with
  | node rule children => cases cell
  | leaf before =>
    cases tree' with
    | node rule children => cases cell'
    | leaf after =>
      rw [isCellRef_leaf] at cell cell'
      exact sameForm_leaf_iff.2 ⟨cell.trans cell'.symm, fun other => absurd cell other⟩

theorem compareReferences_of_displaced {before after : Place}
    (displaced : before.Displaced distance after) :
    ∃ found, compareReferences distance before.reference? after.reference? = .ok found := by
  obtain ⟨ref, ref', decoded, decoded', displaced⟩ := displaced
  have moved := Reference.movedBy_iff_displaced.2 displaced
  exact ⟨_, compareReferences_eq_ok_iff.2 ⟨⟨ref, ref', decoded, decoded', moved⟩, rfl⟩⟩

theorem compareReferences_of_not_displaced {before after : Place}
    (unmoved : ¬ before.Displaced distance after) :
    compareReferences distance before.reference? after.reference? = .error (.reference []) := by
  cases decoded : before.reference? with
  | none => rfl
  | some ref =>
    cases decoded' : after.reference? with
    | none => rfl
    | some ref' =>
      have stays : ¬ ref.movedBy distance ref' := fun moved =>
        unmoved ⟨ref, ref', decoded, decoded', Reference.movedBy_iff_displaced.1 moved⟩
      simp [compareReferences, stays]

theorem compareWith_cells {before after : Lexeme} (kind : before.kind = .cellRef)
    (kind' : after.kind = .cellRef) :
    (leaf before).compareWith distance sheet sheet' (leaf after) =
      compareReferences distance (Place.mk sheet (leaf before)).reference?
        (Place.mk sheet' (leaf after)).reference? := by
  simp [compareWith, kind, kind', Place.reference?]

theorem compareWith_of_not_sameForm (unlike : ¬ tree.SameForm tree') :
    tree.compareWith distance sheet sheet' tree' = .error (.shape []) := by
  cases tree with
  | leaf before =>
    cases tree' with
    | node rule children => rfl
    | leaf after =>
      rw [sameForm_leaf_iff, not_and, Classical.not_imp] at unlike
      by_cases kinds : before.kind = after.kind
      · obtain ⟨kind, texts⟩ := unlike kinds
        rw [kinds] at kind
        simp [compareWith, kinds, kind, texts]
      · simp [compareWith, kinds]
  | node rule befores =>
    cases tree' with
    | leaf after => rfl
    | node rule' afters =>
      rw [sameForm_node_iff, Classical.not_and_iff_not_or_not] at unlike
      simp [compareWith, unlike]

theorem compareWith_of_not_displaced (form : tree.SameForm tree') (cell : tree.isCellRef)
    (unmoved : ¬ (Place.mk sheet tree).Displaced distance ⟨sheet', tree'⟩) :
    tree.compareWith distance sheet sheet' tree' = .error (.reference []) := by
  cases tree with
  | node rule children => cases cell
  | leaf before =>
    cases tree' with
    | node rule children => cases form.rule
    | leaf after =>
      have kind := isCellRef_leaf.1 cell
      have kind' := isCellRef_leaf.1 (form.isCellRef_eq ▸ cell)
      rw [compareWith_cells kind kind']
      exact compareReferences_of_not_displaced unmoved

theorem compareWith_of_agree (agree : (Place.mk sheet tree).Agree distance ⟨sheet', tree'⟩) :
    ∃ own, tree.compareWith distance sheet sheet' tree' =
      (compareForests distance (tree.scope sheet) (tree'.scope sheet') 0 tree.children
        tree'.children).map (own ++ ·) := by
  obtain ⟨form, displaced⟩ := agree
  cases tree with
  | leaf before =>
    cases tree' with
    | node rule children => cases form.rule
    | leaf after =>
      have own (found : Bindings) : .ok found = (compareForests distance sheet sheet' 0 [] []).map
          (found ++ ·) := by
        simp [compareForests, Except.map]
      by_cases cell : (leaf before).isCellRef
      · obtain ⟨found, compared⟩ := compareReferences_of_displaced (displaced cell)
        have kind := isCellRef_leaf.1 cell
        have kind' := isCellRef_leaf.1 (form.isCellRef_eq ▸ cell)
        exact ⟨found, (compareWith_cells kind kind').trans (compared.trans (own found))⟩
      · rw [isCellRef_leaf] at cell
        obtain ⟨kinds, texts⟩ := sameForm_leaf_iff.1 form
        have compared : (leaf before).compareWith distance sheet sheet' (leaf after) = .ok [] := by
          simp [compareWith, ← kinds, cell, texts cell]
        exact ⟨[], compared.trans (own [])⟩
  | node rule befores =>
    cases tree' with
    | leaf after => cases form.rule
    | node rule' afters =>
      obtain ⟨rfl, lengths⟩ := sameForm_node_iff.1 form
      refine ⟨[], ?_⟩
      simp only [compareWith, lengths, ne_eq, not_true_eq_false, or_self, if_false, children]
      cases compareForests distance _ _ 0 befores afters <;> rfl

theorem agree_of_compared {found : Bindings}
    (compared : tree.compareWith distance sheet sheet' tree' = .ok found) :
    (Place.mk sheet tree).Agree distance ⟨sheet', tree'⟩ := by
  have form : tree.SameForm tree' := by
    by_contra unlike
    cases compared.symm.trans (compareWith_of_not_sameForm unlike)
  refine ⟨form, fun cell => ?_⟩
  by_contra unmoved
  cases compared.symm.trans (compareWith_of_not_displaced form cell unmoved)

def Conforms (distance : Distance) (sheet sheet' : String) (tree tree' : Tree) : Prop :=
  ∃ found, tree.compareWith distance sheet sheet' tree' = .ok found

theorem conform_of_compared {index : Nat} {befores afters : List Tree} {found : Bindings}
    (lengths : befores.length = afters.length)
    (compared : compareForests distance sheet sheet' index befores afters = .ok found)
    (step : Nat) : Option.Rel (Conforms distance sheet sheet') befores[step]? afters[step]? := by
  induction befores generalizing index afters found step with
  | nil =>
    obtain rfl := List.length_eq_zero_iff.1 lengths.symm
    exact .none
  | cons before befores ih =>
    obtain ⟨after, afters, rfl⟩ := List.exists_cons_of_length_eq_add_one lengths.symm
    rw [compareForests] at compared
    split at compared
    · cases compared
    · rename_i front first
      obtain ⟨others, rest, -⟩ := map_eq_ok_iff.1 compared
      cases step with
      | zero => exact .some ⟨front, first⟩
      | succ step => exact ih (by simpa using lengths) rest step

theorem exists_mismatched {index : Nat} {befores afters : List Tree} {mismatch : Mismatch}
    (lengths : befores.length = afters.length)
    (failed : compareForests distance sheet sheet' index befores afters = .error mismatch) :
    ∃ (step : Nat) (before after : Tree) (inner : Mismatch),
      befores[step]? = some before ∧ afters[step]? = some after ∧
      before.compareWith distance sheet sheet' after = .error inner ∧
      mismatch = inner.under (index + step) ∧
      ∀ earlier < step,
        Option.Rel (Conforms distance sheet sheet') befores[earlier]? afters[earlier]? := by
  induction befores generalizing index afters with
  | nil =>
    obtain rfl := List.length_eq_zero_iff.1 lengths.symm
    cases failed
  | cons before befores ih =>
    obtain ⟨after, afters, rfl⟩ := List.exists_cons_of_length_eq_add_one lengths.symm
    -- The comparison stops at the first child in which the trees differ.
    rw [compareForests] at failed
    split at failed
    · rename_i inner first
      cases failed
      refine ⟨0, before, after, inner, rfl, rfl, first, rfl, ?_⟩
      intro earlier before_first
      exact absurd before_first (Nat.not_lt_zero earlier)
    · rename_i front first
      obtain ⟨step, before', after', inner, found, found', differ, same, conform⟩ :=
        ih (by simpa using lengths) (map_eq_error_iff.1 failed)
      refine ⟨step + 1, before', after', inner, found, found', differ, ?_, ?_⟩
      · rw [same, Nat.add_right_comm, Nat.add_assoc]
      · intro earlier before_step
        cases earlier with
        | zero => exact .some ⟨front, first⟩
        | succ earlier => exact conform earlier (by omega)

theorem rel_bind {α β γ δ : Type} {Related : α → β → Prop} {Related' : γ → δ → Prop}
    {first : Option α} {second : Option β} {next : α → Option γ} {next' : β → Option δ}
    (related : Option.Rel Related first second)
    (step : ∀ x y, Related x y → Option.Rel Related' (next x) (next' y)) :
    Option.Rel Related' (first.bind next) (second.bind next') := by
  cases related with
  | none => exact .none
  | some related => exact step _ _ related

theorem Conforms.agree (conforms : tree.Conforms distance sheet sheet' tree') (path : Path) :
    Option.Rel (Place.Agree distance) (tree.placeAt sheet path) (tree'.placeAt sheet' path) := by
  induction path generalizing sheet sheet' tree tree' with
  | nil =>
    obtain ⟨found, compared⟩ := conforms
    exact .some (agree_of_compared compared)
  | cons index path ih =>
    obtain ⟨found, compared⟩ := conforms
    have agree := agree_of_compared compared
    obtain ⟨own, same⟩ := compareWith_of_agree agree
    obtain ⟨others, below, -⟩ := map_eq_ok_iff.1 (same.symm.trans compared)
    exact rel_bind (conform_of_compared agree.form.children below index) fun _ _ conforms =>
      ih conforms

theorem firstMismatch_of_form (unlike : ¬ tree.SameForm tree') :
    FirstMismatch distance sheet sheet' tree tree' (.shape []) [] ⟨sheet, tree⟩
      ⟨sheet', tree'⟩ where
  reported := rfl
  place := rfl
  place' := rfl
  earlier := nofun
  differ agree := unlike agree.form
  shape := iff_of_true rfl unlike
  reference := by
    refine iff_of_false nofun ?_
    rintro ⟨cell, cell', -⟩
    exact unlike (sameForm_of_isCellRef cell cell')

theorem firstMismatch_of_reference (form : tree.SameForm tree') (cell : tree.isCellRef)
    (unmoved : ¬ (Place.mk sheet tree).Displaced distance ⟨sheet', tree'⟩) :
    FirstMismatch distance sheet sheet' tree tree' (.reference []) [] ⟨sheet, tree⟩
      ⟨sheet', tree'⟩ where
  reported := rfl
  place := rfl
  place' := rfl
  earlier := nofun
  differ agree := unmoved (agree.reference cell)
  shape := iff_of_false nofun (not_not.2 form)
  reference := iff_of_true rfl ⟨cell, form.isCellRef_eq ▸ cell, unmoved⟩

theorem firstMismatch_of_child {mismatch : Mismatch} {path : Path} {before after : Place}
    {step : Nat} {child child' : Tree}
    (agree : (Place.mk sheet tree).Agree distance ⟨sheet', tree'⟩)
    (conform : ∀ earlier < step,
      Option.Rel (Conforms distance (tree.scope sheet) (tree'.scope sheet'))
        tree.children[earlier]? tree'.children[earlier]?)
    (found : tree.children[step]? = some child) (found' : tree'.children[step]? = some child')
    (first : FirstMismatch distance (tree.scope sheet) (tree'.scope sheet') child child' mismatch
      path before after) :
    FirstMismatch distance sheet sheet' tree tree' (mismatch.under step) (step :: path) before
      after where
  reported := by
    have reported := first.reported
    cases mismatch <;> cases reported <;> rfl
  place := by
    rw [placeAt, found]
    exact first.place
  place' := by
    rw [placeAt, found']
    exact first.place'
  earlier earlier preceding := by
    cases earlier with
    | nil => exact .some agree
    | cons index rest =>
      -- An earlier place is in a child before this one, or earlier in this one.
      rcases List.cons_lt_cons_iff.1 preceding with earlier_child | ⟨rfl, inside⟩
      · exact rel_bind (conform index earlier_child) fun _ _ conforms => conforms.agree rest
      · rw [placeAt, placeAt, found, found']
        exact first.earlier rest inside
  differ := first.differ
  shape := by
    rw [← first.shape]
    cases mismatch <;> simp [Mismatch.under]
  reference := by
    rw [← first.reference]
    cases mismatch <;> simp [Mismatch.under]

theorem sizeOf_child_lt {index : Nat} {child : Tree} (found : tree.children[index]? = some child) :
    sizeOf child < sizeOf tree := by
  cases tree with
  | leaf lexeme => cases found
  | node rule children =>
    have smaller := List.sizeOf_lt_of_mem (List.mem_of_getElem? found)
    simp only [Tree.children, node.sizeOf_spec] at smaller ⊢
    omega

theorem exists_firstMismatch {sheet sheet' : String} {tree tree' : Tree} {mismatch : Mismatch}
    (failed : tree.compareWith distance sheet sheet' tree' = .error mismatch) :
    ∃ path before after,
      FirstMismatch distance sheet sheet' tree tree' mismatch path before after := by
  by_cases form : tree.SameForm tree'
  · by_cases agree : (Place.mk sheet tree).Agree distance ⟨sheet', tree'⟩
    · obtain ⟨own, same⟩ := compareWith_of_agree agree
      obtain ⟨step, child, child', inner, found, found', differ, reported, conform⟩ :=
        exists_mismatched form.children (map_eq_error_iff.1 (same.symm.trans failed))
      obtain ⟨path, before, after, first⟩ := exists_firstMismatch differ
      rw [reported, Nat.zero_add]
      exact ⟨_, _, _, firstMismatch_of_child agree conform found found' first⟩
    · obtain ⟨cell, unmoved⟩ : tree.isCellRef ∧
          ¬ (Place.mk sheet tree).Displaced distance ⟨sheet', tree'⟩ := by
        by_contra neither
        exact agree ⟨form, fun cell => Classical.byContradiction fun unmoved =>
          neither ⟨cell, unmoved⟩⟩
      cases failed.symm.trans (compareWith_of_not_displaced form cell unmoved)
      exact ⟨_, _, _, firstMismatch_of_reference form cell unmoved⟩
  · cases failed.symm.trans (compareWith_of_not_sameForm form)
    exact ⟨_, _, _, firstMismatch_of_form form⟩
termination_by tree
decreasing_by exact sizeOf_child_lt found

end Tree

/-- The checker reports the first node at which two formulas do not agree. It calls it a difference
of form exactly if the nodes are of different sorts, have more or fewer children or, unless they
are references, another text, and one of references exactly if both are references to cells and
the second is not the first one moved. -/
theorem checkTrees_first_mismatch {tree tree' : Tree} {origin candidate : Address}
    {mismatch : Mismatch}
    (different : checkTrees tree origin tree' candidate = .incompatible mismatch) :
    ∃ path before after,
      tree.subtreeAt path = some before.tree ∧ tree'.subtreeAt path = some after.tree ∧
      FirstMismatch (.between origin candidate) origin.sheet candidate.sheet tree tree' mismatch
        path before after := by
  have failed : tree.compareWith (.between origin candidate) origin.sheet candidate.sheet tree' =
      .error mismatch := by
    rw [checkTrees] at different
    split at different
    · cases different
    · cases different
      assumption
  obtain ⟨path, before, after, first⟩ := Tree.exists_firstMismatch failed
  refine ⟨path, before, after, ?_, ?_, first⟩
  · rw [← tree.placeAt_tree origin.sheet, first.place]
    rfl
  · rw [← tree'.placeAt_tree candidate.sheet, first.place']
    rfl

theorem checkTrees_first_mismatch_behind_sheet :
    let sum (first second : String) : Tree := .node .formula [.leaf ⟨.equals, "="⟩,
      .node .binary [.node .sheetRef [.leaf ⟨.sheetName, "T"⟩, .leaf ⟨.bang, "!"⟩,
        .leaf ⟨.cellRef, first⟩], .leaf ⟨.infixOp, "+"⟩, .leaf ⟨.cellRef, second⟩]]
    checkTrees (sum "A1" "B1") ⟨"S", 1, 3⟩ (sum "A2" "B3") ⟨"S", 2, 3⟩ =
        .incompatible (.reference [1, 2]) ∧
      ∃ before after, before.tree.text = "B1" ∧ after.tree.text = "B3" ∧
        ¬ before.Displaced ⟨1, 0⟩ after ∧
        (Place.mk "T" (.leaf ⟨.cellRef, "A1"⟩)).Agree ⟨1, 0⟩ ⟨"T", .leaf ⟨.cellRef, "A2"⟩⟩ ∧
        FirstMismatch ⟨1, 0⟩ "S" "S" (sum "A1" "B1") (sum "A2" "B3") (.reference [1, 2]) [1, 2]
          before after := by
  intro sum
  have different : checkTrees (sum "A1" "B1") ⟨"S", 1, 3⟩ (sum "A2" "B3") ⟨"S", 2, 3⟩ =
      .incompatible (.reference [1, 2]) := by
    decide
  obtain ⟨path, before, after, place, place', first⟩ := checkTrees_first_mismatch different
  obtain rfl : [1, 2] = path := Option.some.inj first.reported
  have text : before.tree.text = "B1" := congrArg Tree.text (Option.some.inj place).symm
  have text' : after.tree.text = "B3" := congrArg Tree.text (Option.some.inj place').symm
  have agree := Option.rel_some_some.1 (first.earlier [1, 0, 2] (by decide))
  exact ⟨different, before, after, text, text', (first.reference.1 rfl).2.2, agree, first⟩

end FormulaRuns
