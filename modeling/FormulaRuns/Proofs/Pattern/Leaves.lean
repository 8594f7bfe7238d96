import FormulaRuns.Formula.Numbering
import FormulaRuns.Pattern.Occurrence
import FormulaRuns.Proofs.Ascending
import Mathlib.Data.List.Forall2

namespace FormulaRuns

structure PlacedLeaf where
  number : Nat
  sheet : String
  lexeme : Lexeme

namespace Tree

theorem reference?_leaf {sheet : String} {lexeme : Lexeme} (kind : lexeme.kind = .cellRef) :
    (leaf lexeme).reference? sheet = (Reference.ofA1 sheet lexeme.text).toOption := by
  simp [reference?, isCellRef, kind?, lexeme?, kind, text]

theorem reference?_leaf_eq_none {sheet : String} {lexeme : Lexeme}
    (kind : lexeme.kind ≠ .cellRef) : (leaf lexeme).reference? sheet = none := by
  simp [reference?, isCellRef, kind?, lexeme?, kind]

end Tree

namespace PlacedLeaf

def reference? (leaf : PlacedLeaf) : Option Reference :=
  (Tree.leaf leaf.lexeme).reference? leaf.sheet

theorem reference?_eq_some_iff {leaf : PlacedLeaf} (kind : leaf.lexeme.kind = .cellRef)
    {ref : Reference} :
    leaf.reference? = some ref ↔ Reference.ofA1 leaf.sheet leaf.lexeme.text = .ok ref := by
  rw [reference?, Tree.reference?_leaf kind]
  cases Reference.ofA1 leaf.sheet leaf.lexeme.text <;> simp [Except.toOption]

theorem kind_of_reference? {leaf : PlacedLeaf} {ref : Reference}
    (decoded : leaf.reference? = some ref) : leaf.lexeme.kind = .cellRef := by
  by_contra other
  rw [reference?, Tree.reference?_leaf_eq_none other] at decoded
  cases decoded

def numbered? (leaf : PlacedLeaf) : Option (Nat × Reference) :=
  leaf.reference?.map fun ref => (leaf.number, ref)

end PlacedLeaf

namespace Tree

mutual

/-- The leaves of a tree of which the numbers begin at `start`, from left to right. -/
def placedLeaves (start : Nat) (sheet : String) : Tree → List PlacedLeaf
  | leaf lexeme => [⟨start, sheet, lexeme⟩]
  | node rule children => forestPlacedLeaves start ((node rule children).scope sheet) children

def forestPlacedLeaves (start : Nat) (sheet : String) : List Tree → List PlacedLeaf
  | [] => []
  | tree :: trees =>
    tree.placedLeaves start sheet ++ forestPlacedLeaves (start + tree.size) sheet trees

end

@[simp] theorem idFrom_leaf (start : Nat) (lexeme : Lexeme) :
    (leaf lexeme).idFrom start = start := by
  simp [idFrom, size]

mutual

theorem placedLeaves_lexemes (start : Nat) (sheet : String) : ∀ tree : Tree,
    (tree.placedLeaves start sheet).map (·.lexeme) = tree.leaves
  | leaf _ => rfl
  | node _ children => forestPlacedLeaves_lexemes start _ children

theorem forestPlacedLeaves_lexemes (start : Nat) (sheet : String) : ∀ trees : List Tree,
    (forestPlacedLeaves start sheet trees).map (·.lexeme) = forestLeaves trees
  | [] => rfl
  | tree :: trees => by
    have firsts := placedLeaves_lexemes start sheet tree
    have others := forestPlacedLeaves_lexemes (start + tree.size) sheet trees
    rw [forestPlacedLeaves, List.map_append, firsts, others, forestLeaves]

end

mutual

theorem number_bounds (start : Nat) (sheet : String) : ∀ (tree : Tree) (leaf : PlacedLeaf),
    leaf ∈ tree.placedLeaves start sheet → start ≤ leaf.number ∧ leaf.number < start + tree.size
  | .leaf lexeme, placed, member => by
    simp only [placedLeaves, List.mem_singleton] at member
    simp [member, size]
  | node rule children, placed, member => by
    have bounds := forest_number_bounds start _ children placed member
    simp only [size]
    omega

theorem forest_number_bounds (start : Nat) (sheet : String) :
    ∀ (trees : List Tree) (leaf : PlacedLeaf), leaf ∈ forestPlacedLeaves start sheet trees →
      start ≤ leaf.number ∧ leaf.number < start + forestSize trees
  | [], placed, member => by simp [forestPlacedLeaves] at member
  | tree :: trees, placed, member => by
    simp only [forestSize]
    rcases List.mem_append.1 member with member | member
    · have bounds := number_bounds start sheet tree placed member
      omega
    · have bounds := forest_number_bounds (start + tree.size) sheet trees placed member
      omega

end

mutual

theorem placedLeaves_ascending (start : Nat) (sheet : String) : ∀ tree : Tree,
    (tree.placedLeaves start sheet).Pairwise fun before after => before.number < after.number
  | leaf _ => List.pairwise_singleton _ _
  | node _ children => forestPlacedLeaves_ascending start _ children

theorem forestPlacedLeaves_ascending (start : Nat) (sheet : String) : ∀ trees : List Tree,
    (forestPlacedLeaves start sheet trees).Pairwise fun before after => before.number < after.number
  | [] => List.Pairwise.nil
  | tree :: trees => by
    have firsts := placedLeaves_ascending start sheet tree
    have others := forestPlacedLeaves_ascending (start + tree.size) sheet trees
    apply List.pairwise_append.2 ⟨firsts, others, _⟩
    intro before first after later
    have below := number_bounds start sheet tree before first
    have above := forest_number_bounds (start + tree.size) sheet trees after later
    omega

end

mutual

theorem rowsFrom_length (start : Nat) : ∀ tree : Tree, (tree.rowsFrom start).length = tree.size
  | leaf lexeme => rfl
  | node rule children => by simp [rowsFrom, size, forestRows_length start children]

theorem forestRows_length (start : Nat) : ∀ trees : List Tree,
    (forestRows start trees).length = forestSize trees
  | [] => rfl
  | tree :: trees => by
    simp [forestRows, forestSize, rowsFrom_length start tree,
      forestRows_length (start + tree.size) trees]

end

mutual

theorem rowsFrom_getElem? (start : Nat) (sheet : String) : ∀ (tree : Tree) (leaf : PlacedLeaf),
    leaf ∈ tree.placedLeaves start sheet →
      (tree.rowsFrom start)[leaf.number - start]? = some (.leaf leaf.lexeme)
  | .leaf lexeme, placed, member => by
    simp only [placedLeaves, List.mem_singleton] at member
    simp [member, rowsFrom]
  | node rule children, placed, member => by
    have bounds := forest_number_bounds start _ children placed member
    rw [rowsFrom, List.getElem?_append_left]
    · exact forestRows_getElem? start _ children placed member
    · rw [forestRows_length]
      omega

theorem forestRows_getElem? (start : Nat) (sheet : String) :
    ∀ (trees : List Tree) (leaf : PlacedLeaf), leaf ∈ forestPlacedLeaves start sheet trees →
      (forestRows start trees)[leaf.number - start]? = some (.leaf leaf.lexeme)
  | [], placed, member => by simp [forestPlacedLeaves] at member
  | tree :: trees, placed, member => by
    rcases List.mem_append.1 member with member | member
    · have bounds := number_bounds start sheet tree placed member
      rw [forestRows, List.getElem?_append_left]
      · exact rowsFrom_getElem? start sheet tree placed member
      · rw [rowsFrom_length]
        omega
    · have bounds := forest_number_bounds (start + tree.size) sheet trees placed member
      rw [forestRows, List.getElem?_append_right, rowsFrom_length, Nat.sub_sub]
      · exact forestRows_getElem? (start + tree.size) sheet trees placed member
      · rw [rowsFrom_length]
        omega

end

def numberedReferences (start : Nat) (sheet : String) (tree : Tree) : List (Nat × Reference) :=
  (tree.placedLeaves start sheet).filterMap (·.numbered?)

theorem numberedReferences_ascending (start : Nat) (sheet : String) (tree : Tree) :
    AscendingKeys (tree.numberedReferences start sheet) := by
  apply (tree.placedLeaves_ascending start sheet).filterMap
  intro before after order entry numbered entry' numbered'
  obtain ⟨ref, -, rfl⟩ := Option.map_eq_some_iff.1 numbered
  obtain ⟨ref', -, rfl⟩ := Option.map_eq_some_iff.1 numbered'
  exact Nat.compare_eq_lt.2 order

def forestNumberedReferences (start : Nat) (sheet : String) (trees : List Tree) :
    List (Nat × Reference) :=
  (forestPlacedLeaves start sheet trees).filterMap (·.numbered?)

@[simp] theorem pickFrom_nil (start index : Nat) : pickFrom start [] index = none := by
  simp [pickFrom]

/-- The path leads to the reference's leaf, which has the number given. -/
def LeadsTo (start : Nat) (tree : Tree) (entry : Path × Reference) (place : Nat × Reference) :
    Prop :=
  entry.2 = place.2 ∧
    ∃ lexeme, tree.locateFrom start entry.1 = some (place.1, leaf lexeme) ∧ lexeme.kind = .cellRef

/-- The path leads there by way of one of the trees, the children of a node from `index` on. -/
def ForestLeadsTo (start index : Nat) (trees : List Tree) (entry : Path × Reference)
    (place : Nat × Reference) : Prop :=
  ∃ offset path childStart child, entry.1 = (index + offset) :: path ∧
    pickFrom start trees offset = some (childStart, child) ∧
    child.LeadsTo childStart (path, entry.2) place

mutual

theorem references_lead (start : Nat) (sheet : String) : ∀ tree : Tree,
    List.Forall₂ (tree.LeadsTo start) (tree.references sheet) (tree.numberedReferences start sheet)
  | leaf lexeme => by
    cases decoded : (leaf lexeme).reference? sheet with
    | none =>
      simp [references, numberedReferences, placedLeaves, PlacedLeaf.numbered?,
        PlacedLeaf.reference?, decoded]
    | some ref =>
      have kind : lexeme.kind = .cellRef :=
        PlacedLeaf.kind_of_reference?
          (show (PlacedLeaf.mk start sheet lexeme).reference? = some ref from decoded)
      simp [references, numberedReferences, placedLeaves, PlacedLeaf.numbered?,
        PlacedLeaf.reference?, decoded, LeadsTo, locateFrom, kind]
  | node rule children => by
    apply (forestReferences_lead start ((node rule children).scope sheet) 0 children).imp
    rintro ⟨path, ref⟩ place ⟨offset, path, childStart, child, rfl, picked, same, found⟩
    exact ⟨same, by simpa [locateFrom, Tree.children, picked] using found⟩

theorem forestReferences_lead (start : Nat) (sheet : String) (index : Nat) : ∀ trees : List Tree,
    List.Forall₂ (ForestLeadsTo start index trees) (forestReferences sheet index trees)
      (forestNumberedReferences start sheet trees)
  | [] => .nil
  | tree :: trees => by
    simp only [forestReferences, forestNumberedReferences, forestPlacedLeaves,
      List.filterMap_append]
    apply List.rel_append
    · apply List.forall₂_map_left_iff.2
      apply (references_lead start sheet tree).imp
      intro entry place found
      exact ⟨0, entry.1, start, tree, rfl, rfl, found⟩
    · apply (forestReferences_lead (start + tree.size) sheet (index + 1) trees).imp
      rintro ⟨path, ref⟩ place ⟨offset, path, childStart, child, rfl, picked, found⟩
      exact ⟨offset + 1, path, childStart, child, by simp; omega, picked, found⟩

end

theorem forestReferences_head (sheet : String) (index : Nat) (trees : List Tree)
    (entry : Path × Reference) (member : entry ∈ forestReferences sheet index trees) :
    ∃ step path, entry.1 = step :: path ∧ index ≤ step := by
  induction trees generalizing index with
  | nil => simp [forestReferences] at member
  | cons tree trees ih =>
    simp only [forestReferences, List.mem_append, List.mem_map] at member
    rcases member with ⟨inner, -, rfl⟩ | member
    · exact ⟨index, inner.1, rfl, Nat.le_refl index⟩
    · obtain ⟨step, path, same, above⟩ := ih (index + 1) member
      exact ⟨step, path, same, by omega⟩

mutual

theorem references_ascending (sheet : String) : ∀ tree : Tree,
    AscendingKeys (tree.references sheet)
  | leaf lexeme => by
    cases decoded : (leaf lexeme).reference? sheet <;> simp [references, decoded, AscendingKeys]
  | node rule children => forestReferences_ascending ((node rule children).scope sheet) 0 children

theorem forestReferences_ascending (sheet : String) (index : Nat) : ∀ trees : List Tree,
    AscendingKeys (forestReferences sheet index trees)
  | [] => .nil
  | tree :: trees => by
    have others := forestReferences_ascending sheet (index + 1) trees
    refine List.pairwise_append.2 ⟨?_, others, ?_⟩
    · apply List.pairwise_map.2
      apply (references_ascending sheet tree).imp
      intro before after order
      simpa [List.compare_cons_cons] using order
    · intro before first after later
      obtain ⟨inner, -, rfl⟩ := List.mem_map.1 first
      obtain ⟨step, path, same, above⟩ := forestReferences_head sheet (index + 1) trees after later
      have order : compare index step = .lt := Nat.compare_eq_lt.2 above
      simp [same, List.compare_cons_cons, order]

end

end Tree

end FormulaRuns
