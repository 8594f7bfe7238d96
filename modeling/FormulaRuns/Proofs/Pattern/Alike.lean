import FormulaRuns.Proofs.Formula.Grammar
import FormulaRuns.Proofs.Formula.Shape
import FormulaRuns.Proofs.Pattern.Leaves

namespace FormulaRuns

namespace Tree

mutual

def Alike (Similar : PlacedLeaf → PlacedLeaf → Prop) (start : Nat) (sheet sheet' : String) :
    Tree → Tree → Prop
  | leaf before, leaf after => Similar ⟨start, sheet, before⟩ ⟨start, sheet', after⟩
  | node rule children, node rule' children' =>
    rule = rule' ∧ ForestAlike Similar start ((node rule children).scope sheet)
      ((node rule' children').scope sheet') children children'
  | _, _ => False

def ForestAlike (Similar : PlacedLeaf → PlacedLeaf → Prop) (start : Nat) (sheet sheet' : String) :
    List Tree → List Tree → Prop
  | [], [] => True
  | tree :: trees, tree' :: trees' =>
    tree.Alike Similar start sheet sheet' tree' ∧
      ForestAlike Similar (start + tree.size) sheet sheet' trees trees'
  | _, _ => False

end

section

variable {Similar Similar' : PlacedLeaf → PlacedLeaf → Prop}

mutual

theorem Alike.size_eq {start : Nat} {sheet sheet' : String} : ∀ {tree tree' : Tree},
    tree.Alike Similar start sheet sheet' tree' → tree.size = tree'.size
  | leaf _, leaf _, _ => rfl
  | node _ _, node _ _, alike => by
    obtain ⟨rfl, children_alike⟩ := alike
    simp only [size, children_alike.size_eq]
  | leaf _, node _ _, alike | node _ _, leaf _, alike => alike.elim

theorem ForestAlike.size_eq {start : Nat} {sheet sheet' : String} : ∀ {trees trees' : List Tree},
    ForestAlike Similar start sheet sheet' trees trees' → forestSize trees = forestSize trees'
  | [], [], _ => rfl
  | _ :: _, _ :: _, ⟨alike, others_alike⟩ => by
    simp only [forestSize, alike.size_eq, others_alike.size_eq]
  | [], _ :: _, alike | _ :: _, [], alike => alike.elim

end

mutual

theorem Alike.refl (start : Nat) (sheet : String) : ∀ {tree : Tree},
    (∀ leaf ∈ tree.placedLeaves start sheet, Similar leaf leaf) →
    tree.Alike Similar start sheet sheet tree
  | leaf _, similar => similar _ List.mem_cons_self
  | node rule children, similar =>
    ⟨rfl, ForestAlike.refl start ((node rule children).scope sheet) similar⟩

theorem ForestAlike.refl (start : Nat) (sheet : String) : ∀ {trees : List Tree},
    (∀ leaf ∈ forestPlacedLeaves start sheet trees, Similar leaf leaf) →
    ForestAlike Similar start sheet sheet trees trees
  | [], _ => trivial
  | _ :: _, similar => by
    constructor
    · apply Alike.refl
      intro leaf member
      exact similar leaf (List.mem_append_left _ member)
    · apply ForestAlike.refl
      intro leaf member
      exact similar leaf (List.mem_append_right _ member)

end

mutual

theorem Alike.symm {start : Nat} {sheet sheet' : String}
    (flip : ∀ {before after}, Similar before after → Similar' after before) :
    ∀ {tree tree' : Tree}, tree.Alike Similar start sheet sheet' tree' →
      tree'.Alike Similar' start sheet' sheet tree
  | leaf _, leaf _, alike => flip alike
  | node _ _, node _ _, ⟨same, children_alike⟩ => ⟨same.symm, children_alike.symm flip⟩
  | leaf _, node _ _, alike | node _ _, leaf _, alike => alike.elim

theorem ForestAlike.symm {start : Nat} {sheet sheet' : String}
    (flip : ∀ {before after}, Similar before after → Similar' after before) :
    ∀ {trees trees' : List Tree}, ForestAlike Similar start sheet sheet' trees trees' →
      ForestAlike Similar' start sheet' sheet trees' trees
  | [], [], _ => trivial
  | _ :: _, _ :: _, ⟨alike, others_alike⟩ => by
    refine ⟨alike.symm flip, ?_⟩
    rw [← alike.size_eq]
    exact others_alike.symm flip
  | [], _ :: _, alike | _ :: _, [], alike => alike.elim

end

mutual

theorem Alike.trans {Similar'' : PlacedLeaf → PlacedLeaf → Prop} {start : Nat}
    {sheet sheet' sheet'' : String}
    (compose : ∀ {first second third}, Similar first second → Similar' second third →
      Similar'' first third) :
    ∀ {tree tree' tree'' : Tree}, tree.Alike Similar start sheet sheet' tree' →
      tree'.Alike Similar' start sheet' sheet'' tree'' →
      tree.Alike Similar'' start sheet sheet'' tree''
  | leaf _, leaf _, leaf _, alike, alike' => compose alike alike'
  | node _ _, node _ _, node _ _, ⟨same, children_alike⟩, ⟨same', children_alike'⟩ =>
    ⟨same.trans same', children_alike.trans compose children_alike'⟩
  | leaf _, node _ _, _, alike, _ | node _ _, leaf _, _, alike, _ => alike.elim
  | _, leaf _, node _ _, _, alike' | _, node _ _, leaf _, _, alike' => alike'.elim

theorem ForestAlike.trans {Similar'' : PlacedLeaf → PlacedLeaf → Prop} {start : Nat}
    {sheet sheet' sheet'' : String}
    (compose : ∀ {first second third}, Similar first second → Similar' second third →
      Similar'' first third) :
    ∀ {trees trees' trees'' : List Tree}, ForestAlike Similar start sheet sheet' trees trees' →
      ForestAlike Similar' start sheet' sheet'' trees' trees'' →
      ForestAlike Similar'' start sheet sheet'' trees trees''
  | [], [], [], _, _ => trivial
  | _ :: _, _ :: _, _ :: _, ⟨alike, others_alike⟩, ⟨alike', others_alike'⟩ => by
    refine ⟨alike.trans compose alike', ?_⟩
    rw [← alike.size_eq] at others_alike'
    exact others_alike.trans compose others_alike'
  | [], _ :: _, _, alike, _ | _ :: _, [], _, alike, _ => alike.elim
  | _, [], _ :: _, _, alike' | _, _ :: _, [], _, alike' => alike'.elim

end

theorem Alike.kind?_eq {start : Nat} {sheet sheet' : String} {tree tree' : Tree}
    (alike : tree.Alike Similar start sheet sheet' tree')
    (kinds : ∀ {before after}, Similar before after → before.lexeme.kind = after.lexeme.kind) :
    tree.kind? = tree'.kind? := by
  match tree, tree', alike with
  | leaf _, leaf _, alike => exact congrArg some (kinds alike)
  | node _ _, node _ _, _ => rfl

theorem Alike.text_eq {start : Nat} {sheet sheet' : String} {tree tree' : Tree}
    (alike : tree.Alike Similar start sheet sheet' tree')
    (texts : ∀ {before after}, Similar before after → before.lexeme.kind ≠ .cellRef →
      before.lexeme.text = after.lexeme.text)
    (kind : tree.kind? ≠ some .cellRef) : tree.text = tree'.text := by
  match tree, tree', alike with
  | leaf _, leaf _, alike => exact texts alike fun reference => kind (congrArg some reference)
  | node _ _, node _ _, _ => rfl

mutual

/-- Of leaves in the same place one may use that they are, and that the first tree has the first. -/
theorem Alike.imp {start : Nat} {sheet sheet' : String} : ∀ {tree tree' : Tree},
    (∀ before after, before ∈ tree.placedLeaves start sheet → before.number = after.number →
      Similar before after → Similar' before after) →
    tree.Alike Similar start sheet sheet' tree' → tree.Alike Similar' start sheet sheet' tree'
  | leaf _, leaf _, weaken, alike => weaken _ _ List.mem_cons_self rfl alike
  | node _ _, node _ _, weaken, ⟨same, children_alike⟩ => ⟨same, children_alike.imp weaken⟩
  | leaf _, node _ _, _, alike | node _ _, leaf _, _, alike => alike.elim

theorem ForestAlike.imp {start : Nat} {sheet sheet' : String} : ∀ {trees trees' : List Tree},
    (∀ before after, before ∈ forestPlacedLeaves start sheet trees →
      before.number = after.number → Similar before after → Similar' before after) →
    ForestAlike Similar start sheet sheet' trees trees' →
    ForestAlike Similar' start sheet sheet' trees trees'
  | [], [], _, _ => trivial
  | _ :: _, _ :: _, weaken, ⟨alike, others_alike⟩ => by
    constructor
    · refine alike.imp ?_
      intro before after member
      exact weaken before after (List.mem_append_left _ member)
    · refine others_alike.imp ?_
      intro before after member
      exact weaken before after (List.mem_append_right _ member)
  | [], _ :: _, _, alike | _ :: _, [], _, alike => alike.elim

end

mutual

theorem Alike.forall₂ {start : Nat} {sheet sheet' : String} : ∀ {tree tree' : Tree},
    tree.Alike Similar start sheet sheet' tree' →
    List.Forall₂ Similar (tree.placedLeaves start sheet) (tree'.placedLeaves start sheet')
  | leaf _, leaf _, alike => .cons alike .nil
  | node _ _, node _ _, ⟨_, children_alike⟩ => children_alike.forall₂
  | leaf _, node _ _, alike | node _ _, leaf _, alike => alike.elim

theorem ForestAlike.forall₂ {start : Nat} {sheet sheet' : String} : ∀ {trees trees' : List Tree},
    ForestAlike Similar start sheet sheet' trees trees' →
    List.Forall₂ Similar (forestPlacedLeaves start sheet trees)
      (forestPlacedLeaves start sheet' trees')
  | [], [], _ => .nil
  | _ :: _, _ :: _, ⟨alike, others_alike⟩ => by
    rw [forestPlacedLeaves, forestPlacedLeaves, ← alike.size_eq]
    exact List.rel_append alike.forall₂ others_alike.forall₂
  | [], _ :: _, alike | _ :: _, [], alike => alike.elim

end

theorem Alike.exists_related {start : Nat} {sheet sheet' : String} {tree tree' : Tree}
    {before : PlacedLeaf} (alike : tree.Alike Similar start sheet sheet' tree')
    (present : before ∈ tree.placedLeaves start sheet) :
    ∃ after ∈ tree'.placedLeaves start sheet', before.number = after.number ∧
      Similar before after := by
  -- Each pair of leaves carries its common number along.
  have numbered : tree.Alike (fun before after => before.number = after.number ∧
      Similar before after) start sheet sheet' tree' := by
    refine alike.imp ?_
    intro before after _ same_number similar
    exact ⟨same_number, similar⟩
  have related := numbered.forall₂
  generalize tree.placedLeaves start sheet = leaves, tree'.placedLeaves start sheet' = leaves' at *
  induction related with
  | nil => cases present
  | cons similar others ih =>
    rcases List.mem_cons.1 present with rfl | present
    · exact ⟨_, List.mem_cons_self, similar⟩
    · obtain ⟨after, member, similar⟩ := ih present
      exact ⟨after, List.mem_cons_of_mem _ member, similar⟩

theorem Alike.leaves_forall₂ {start : Nat} {sheet sheet' : String} {tree tree' : Tree}
    (alike : tree.Alike Similar start sheet sheet' tree') {SimilarLexemes : Lexeme → Lexeme → Prop}
    (forget : ∀ {before after : PlacedLeaf}, Similar before after →
      SimilarLexemes before.lexeme after.lexeme) :
    List.Forall₂ SimilarLexemes tree.leaves tree'.leaves := by
  rw [← placedLeaves_lexemes start sheet, ← placedLeaves_lexemes start sheet']
  apply List.forall₂_map_left_iff.2
  apply List.forall₂_map_right_iff.2
  apply alike.forall₂.imp
  intro before after similar
  exact forget similar

theorem ForestAlike.length_eq {start : Nat} {sheet sheet' : String} {trees trees' : List Tree}
    (alike : ForestAlike Similar start sheet sheet' trees trees') :
    trees.length = trees'.length := by
  induction trees generalizing start trees' with
  | nil =>
    cases trees' with
    | nil => rfl
    | cons => exact alike.elim
  | cons tree trees ih =>
    cases trees' with
    | nil => exact alike.elim
    | cons tree' trees' => simp [ih alike.2]

theorem ForestAlike.pickFrom {start : Nat} {sheet sheet' : String} {trees trees' : List Tree}
    {index childStart : Nat} {child : Tree}
    (alike : ForestAlike Similar start sheet sheet' trees trees')
    (picked : pickFrom start trees index = some (childStart, child)) :
    ∃ child', Tree.pickFrom start trees' index = some (childStart, child') ∧
      child.Alike Similar childStart sheet sheet' child' := by
  induction trees generalizing start trees' index with
  | nil => simp at picked
  | cons tree trees ih =>
    cases trees' with
    | nil => exact alike.elim
    | cons tree' trees' =>
      obtain ⟨first_alike, others_alike⟩ := alike
      cases index with
      | zero =>
        cases picked
        exact ⟨tree', rfl, first_alike⟩
      | succ index =>
        rw [Tree.pickFrom, ← first_alike.size_eq]
        exact ih others_alike picked

theorem Alike.locateFrom {start first : Nat} {sheet sheet' : String} {tree tree' : Tree}
    {path : Path} {before : Lexeme} (alike : tree.Alike Similar start sheet sheet' tree')
    (found : tree.locateFrom start path = some (first, leaf before)) :
    ∃ after home home', tree'.locateFrom start path = some (first, leaf after) ∧
      Similar ⟨first, home, before⟩ ⟨first, home', after⟩ := by
  induction path generalizing start sheet sheet' tree tree' with
  | nil =>
    cases found
    cases tree' with
    | leaf after => exact ⟨after, sheet, sheet', rfl, alike⟩
    | node => exact alike.elim
  | cons index path ih =>
    obtain ⟨⟨childStart, child⟩, picked, child_found⟩ := Option.bind_eq_some_iff.1 found
    cases tree with
    | leaf => simp [Tree.children] at picked
    | node rule children =>
      cases tree' with
      | leaf => exact alike.elim
      | node rule' children' =>
        obtain ⟨child', picked', child_alike⟩ := alike.2.pickFrom picked
        obtain ⟨after, home, home', found', similar⟩ := ih child_alike child_found
        refine ⟨after, home, home', ?_, similar⟩
        simp [Tree.locateFrom, Tree.children, picked', found']

end

theorem scope_eq {Similar : Lexeme → Lexeme → Prop} {rule : Rule} {children children' : List Tree}
    {sheet : String}
    (same_text : ∀ {before after}, Similar before after → before.kind ≠ .cellRef →
      before.text = after.text)
    (production : Production rule children) (related : ForestRelated Similar children children') :
    (node rule children).scope sheet = (node rule children').scope sheet := by
  cases production
  case sheetRef name bang target named bang_kind good =>
    match children', related with
    | leaf name' :: _, ⟨similar, _⟩ =>
      simp [scope, text, same_text similar (by simp [named])]
  all_goals rfl

mutual

theorem Related.alike {Similar : Lexeme → Lexeme → Prop} {Similar' : PlacedLeaf → PlacedLeaf → Prop}
    (same_text : ∀ {before after}, Similar before after → before.kind ≠ .cellRef →
      before.text = after.text)
    (place : ∀ {number sheet before after}, Similar before after →
      Similar' ⟨number, sheet, before⟩ ⟨number, sheet, after⟩)
    (start : Nat) (sheet : String) : ∀ {tree tree' : Tree}, tree.Grammatical →
    tree.Related Similar tree' → tree.Alike Similar' start sheet sheet tree'
  | leaf _, leaf _, _, similar => place similar
  | node rule children, node rule' children', ⟨production, grammatical⟩, ⟨same, related⟩ => by
    subst same
    refine ⟨rfl, ?_⟩
    rw [← scope_eq same_text production related]
    exact related.alike same_text place start _ grammatical
  | leaf _, node _ _, _, related | node _ _, leaf _, _, related => related.elim

theorem ForestRelated.alike {Similar : Lexeme → Lexeme → Prop}
    {Similar' : PlacedLeaf → PlacedLeaf → Prop}
    (same_text : ∀ {before after}, Similar before after → before.kind ≠ .cellRef →
      before.text = after.text)
    (place : ∀ {number sheet before after}, Similar before after →
      Similar' ⟨number, sheet, before⟩ ⟨number, sheet, after⟩)
    (start : Nat) (sheet : String) : ∀ {trees trees' : List Tree}, ForestGrammatical trees →
    ForestRelated Similar trees trees' → ForestAlike Similar' start sheet sheet trees trees'
  | [], [], _, _ => trivial
  | _ :: _, _ :: _, ⟨grammatical, others_grammatical⟩, ⟨related, others_related⟩ =>
    ⟨related.alike same_text place start sheet grammatical,
      others_related.alike same_text place _ sheet others_grammatical⟩
  | [], _ :: _, _, related | _ :: _, [], _, related => related.elim

end

end Tree

end FormulaRuns
