import FormulaRuns.Proofs.Formula.Grammar
import FormulaRuns.Proofs.Formula.Numbering
import FormulaRuns.Proofs.Formula.Recording

/-!
What the numbers in a formula's table mean. A tree stands in a table if the rows from some number on
are its own (`Holds`); whatever walks the table from its root then walks the tree. So the table that
is read from a list of tokens numbers a single tree in the order in which its nodes are finished,
and has no token lost.
-/
namespace FormulaRuns

namespace Tree

theorem forestIds_getElem? (start : Nat) (trees : List Tree) (index : Nat) :
    (forestIds start trees)[index]? =
      (pickFrom start trees index).map fun place => place.2.idFrom place.1 := by
  induction trees generalizing start index with
  | nil => simp [forestIds]
  | cons tree trees ih =>
    cases index with
    | zero => rfl
    | succ index => exact ih (start + tree.size) index

theorem lt_of_mem_forestIds {start child : Nat} {trees : List Tree}
    (member : child ∈ forestIds start trees) : child < start + forestSize trees := by
  obtain ⟨index, found⟩ := List.mem_iff_getElem?.1 member
  rw [forestIds_getElem?] at found
  obtain ⟨⟨first, tree⟩, picked, rfl⟩ := Option.map_eq_some_iff.1 found
  calc
    tree.idFrom first < first + tree.size := tree.idFrom_lt first
    _ ≤ start + forestSize trees := (pickFrom_within picked).2

end Tree

theorem Formula.parseLexemes_of_ofLexemes {text : String} {lexemes : List Lexeme}
    {formula : Formula} (read : Formula.ofLexemes text lexemes = .ok formula) :
    parseLexemes (lexemes.filter Formula.isSolid) = .ok formula.root := by
  rw [Formula.ofLexemes] at read
  split at read
  · cases read
  · cases parsed : parseLexemes (lexemes.filter Formula.isSolid) with
    | error stop => simp [parsed] at read
    | ok root =>
      simp only [parsed, Except.ok.injEq] at read
      rw [← read]

namespace Table

variable {table : Table} {start id : Nat}

/-- The rows that one meets below a row, a node's children from left to right and the node behind
them. -/
def visitsFrom (table : Table) (id : Nat) : List Nat :=
  match table.rows[id]? with
  | none => []
  | some (.leaf _) => [id]
  | some (.node _ children) =>
    (children.flatMap fun child => if _ : child < id then table.visitsFrom child else []) ++ [id]
termination_by id

section

variable {rule : Rule} {children : List Nat} {lexeme : Lexeme}

theorem children_node (row : table.rows[id]? = some (.node rule children)) :
    table.children id = children := by
  rw [Table.children, row]

theorem children_leaf (row : table.rows[id]? = some (.leaf lexeme)) : table.children id = [] := by
  rw [Table.children, row]

theorem lt_size_of_childAt? {index child : Nat} (found : table.childAt? id index = some child) :
    id < table.size := by
  by_contra outside
  have absent : table.rows[id]? = none := Array.getElem?_eq_none (Nat.le_of_not_lt outside)
  simp [childAt?, Table.children, absent] at found

/-- Where the children have smaller numbers, a walk over them needs no guard. -/
theorem guarded_eq {α : Type} (walk : Nat → α) (default : α)
    (below : ∀ child ∈ children, child < id) :
    (children.map fun child => if _ : child < id then walk child else default) =
      children.map walk :=
  List.map_congr_left fun child member => dif_pos (below child member)

theorem visitsFrom_leaf (row : table.rows[id]? = some (.leaf lexeme)) :
    table.visitsFrom id = [id] := by
  rw [visitsFrom, row]

theorem visitsFrom_node (row : table.rows[id]? = some (.node rule children))
    (below : ∀ child ∈ children, child < id) :
    table.visitsFrom id = children.flatMap table.visitsFrom ++ [id] := by
  rw [visitsFrom, row]
  simp only [List.flatMap_def, guarded_eq table.visitsFrom [] below]

theorem leafIdsFrom_leaf (row : table.rows[id]? = some (.leaf lexeme)) :
    table.leafIdsFrom id = [id] := by
  rw [leafIdsFrom, row]

theorem leafIdsFrom_node (row : table.rows[id]? = some (.node rule children))
    (below : ∀ child ∈ children, child < id) :
    table.leafIdsFrom id = children.flatMap table.leafIdsFrom := by
  rw [leafIdsFrom, row]
  simp only [List.flatMap_def, guarded_eq table.leafIdsFrom [] below]

theorem renderFrom_leaf (row : table.rows[id]? = some (.leaf lexeme)) :
    table.renderFrom id = lexeme.text := by
  rw [renderFrom, row]

theorem renderFrom_node (row : table.rows[id]? = some (.node rule children))
    (below : ∀ child ∈ children, child < id) :
    table.renderFrom id = String.join (children.map table.renderFrom) := by
  rw [renderFrom, row]
  simp only [guarded_eq table.renderFrom "" below]

end

mutual

/-- The rows from `start` on are those of the tree. -/
def Holds (table : Table) (start : Nat) : Tree → Prop
  | .leaf lexeme => table.rows[start]? = some (.leaf lexeme)
  | .node rule children => table.HoldsForest start children ∧
      table.rows[start + Tree.forestSize children]? =
        some (.node rule (Tree.forestIds start children))

def HoldsForest (table : Table) (start : Nat) : List Tree → Prop
  | [] => True
  | tree :: trees => table.Holds start tree ∧ table.HoldsForest (start + tree.size) trees

end

mutual

theorem holds_of_rows (front back : List Row) : ∀ tree : Tree,
    table.rows.toList = front ++ tree.rowsFrom front.length ++ back → table.Holds front.length tree
  | .leaf lexeme, rows => by
    rw [Holds, ← Array.getElem?_toList, rows]
    simp [Tree.rowsFrom]
  | .node rule children, rows => by
    have split : table.rows.toList = front ++ Tree.forestRows front.length children ++
        (.node rule (Tree.forestIds front.length children) :: back) := by
      simpa [Tree.rowsFrom] using rows
    refine ⟨holdsForest_of_rows front _ children split, ?_⟩
    rw [← Array.getElem?_toList, split, List.getElem?_append_right]
    · simp [Tree.forestRows_length]
    · simp [Tree.forestRows_length]

theorem holdsForest_of_rows (front back : List Row) : ∀ trees : List Tree,
    table.rows.toList = front ++ Tree.forestRows front.length trees ++ back →
      table.HoldsForest front.length trees
  | [], _ => trivial
  | tree :: trees, rows => by
    have first : table.rows.toList = front ++ tree.rowsFrom front.length ++
        (Tree.forestRows (front.length + tree.size) trees ++ back) := by
      simpa [Tree.forestRows] using rows
    have length : (front ++ tree.rowsFrom front.length).length = front.length + tree.size := by
      simp [Tree.rowsFrom_length]
    refine ⟨holds_of_rows front _ tree first, ?_⟩
    rw [← length] at first ⊢
    exact holdsForest_of_rows _ back trees (by simpa using first)

end

theorem holds_rows (tree : Tree) : (Table.mk tree.rows.toArray tree.rootId).Holds 0 tree :=
  holds_of_rows [] [] tree (by simp [Tree.rows])

theorem HoldsForest.pick {trees : List Tree} {index first : Nat} {tree : Tree}
    (holds : table.HoldsForest start trees)
    (picked : Tree.pickFrom start trees index = some (first, tree)) : table.Holds first tree := by
  induction trees generalizing start index with
  | nil => simp at picked
  | cons head trees ih =>
    cases index with
    | zero =>
      cases picked
      exact holds.1
    | succ index => exact ih holds.2 picked

theorem Holds.pick {tree child : Tree} {index first : Nat} (holds : table.Holds start tree)
    (picked : Tree.pickFrom start tree.children index = some (first, child)) :
    table.Holds first child := by
  cases tree with
  | leaf lexeme => simp [Tree.children] at picked
  | node rule children => exact holds.1.pick picked

section

variable {tree : Tree}

theorem Holds.row_leaf {lexeme : Lexeme} (holds : table.Holds start (.leaf lexeme)) :
    table.rows[(Tree.leaf lexeme).idFrom start]? = some (.leaf lexeme) := holds

theorem Holds.row_node {rule : Rule} {children : List Tree}
    (holds : table.Holds start (.node rule children)) :
    table.rows[(Tree.node rule children).idFrom start]? =
      some (.node rule (Tree.forestIds start children)) := holds.2

theorem Holds.childAt? (holds : table.Holds start tree) (index : Nat) :
    table.childAt? (tree.idFrom start) index =
      (Tree.pickFrom start tree.children index).map fun place => place.2.idFrom place.1 := by
  cases tree with
  | leaf lexeme =>
    rw [Table.childAt?, children_leaf holds.row_leaf]
    simp [Tree.children]
  | node rule children =>
    rw [Table.childAt?, children_node holds.row_node]
    exact Tree.forestIds_getElem? start children index

theorem Holds.locate {path : Path} {first : Nat} {subtree : Tree} (holds : table.Holds start tree)
    (found : tree.locateFrom start path = some (first, subtree)) : table.Holds first subtree := by
  induction path generalizing start tree with
  | nil =>
    cases found
    exact holds
  | cons index path ih =>
    obtain ⟨⟨childStart, child⟩, picked, inside⟩ := Option.bind_eq_some_iff.1 found
    exact ih (holds.pick picked) inside

theorem Holds.idAlong (holds : table.Holds start tree) (path : Path) :
    path.foldlM table.childAt? (tree.idFrom start) =
      (tree.locateFrom start path).map fun place => place.2.idFrom place.1 := by
  induction path generalizing start tree with
  | nil => rfl
  | cons index path ih =>
    rw [List.foldlM_cons, holds.childAt?, Tree.locateFrom_cons]
    cases picked : Tree.pickFrom start tree.children index with
    | none => rfl
    | some place => exact ih (holds.pick picked)

end

mutual

theorem Holds.visitsFrom : ∀ {start : Nat} {tree : Tree}, table.Holds start tree →
    table.visitsFrom (tree.idFrom start) = List.range' start tree.size
  | _, .leaf lexeme, holds => by
    rw [visitsFrom_leaf holds.row_leaf, Tree.idFrom_leaf]
    rfl
  | start, .node rule children, holds => by
    rw [visitsFrom_node holds.row_node fun _ => Tree.lt_of_mem_forestIds,
      HoldsForest.visitsFrom holds.1]
    exact List.range'_1_concat.symm

theorem HoldsForest.visitsFrom : ∀ {start : Nat} {trees : List Tree},
    table.HoldsForest start trees →
      (Tree.forestIds start trees).flatMap table.visitsFrom =
        List.range' start (Tree.forestSize trees)
  | _, [], _ => rfl
  | start, tree :: trees, holds => by
    rw [Tree.forestIds, List.flatMap_cons, Holds.visitsFrom holds.1,
      HoldsForest.visitsFrom holds.2, List.range'_append_1, Tree.forestSize]

end

mutual

theorem Holds.leaves : ∀ {start : Nat} {tree : Tree}, table.Holds start tree →
    (table.leafIdsFrom (tree.idFrom start)).map (table.rows[·]?) =
      tree.leaves.map fun lexeme => some (.leaf lexeme)
  | _, .leaf lexeme, holds => by
    rw [leafIdsFrom_leaf holds.row_leaf, List.map_singleton, holds.row_leaf]
    rfl
  | _, .node rule children, holds => by
    rw [leafIdsFrom_node holds.row_node fun _ => Tree.lt_of_mem_forestIds]
    exact HoldsForest.leaves holds.1

theorem HoldsForest.leaves : ∀ {start : Nat} {trees : List Tree},
    table.HoldsForest start trees →
      ((Tree.forestIds start trees).flatMap table.leafIdsFrom).map (table.rows[·]?) =
        (Tree.forestLeaves trees).map fun lexeme => some (.leaf lexeme)
  | _, [], _ => rfl
  | _, tree :: trees, holds => by
    rw [Tree.forestIds, List.flatMap_cons, List.map_append, Holds.leaves holds.1,
      HoldsForest.leaves holds.2, Tree.forestLeaves, List.map_append]

end

mutual

theorem Holds.render : ∀ {start : Nat} {tree : Tree}, table.Holds start tree →
    table.renderFrom (tree.idFrom start) = tree.render
  | _, .leaf lexeme, holds => by
    rw [renderFrom_leaf holds.row_leaf]
    simp [Tree.render, Tree.leaves]
  | _, .node rule children, holds => by
    rw [renderFrom_node holds.row_node fun _ => Tree.lt_of_mem_forestIds]
    exact HoldsForest.render holds.1

theorem HoldsForest.render : ∀ {start : Nat} {trees : List Tree},
    table.HoldsForest start trees →
      String.join ((Tree.forestIds start trees).map table.renderFrom) =
        String.join ((Tree.forestLeaves trees).map (·.text))
  | _, [], _ => rfl
  | _, tree :: trees, holds => by
    simp [Tree.forestIds, Tree.forestLeaves, Holds.render holds.1, HoldsForest.render holds.2,
      Tree.render]

end

/-- The rows of the table are the nodes of a single tree, each numbered when it is finished. -/
structure Postordered (table : Table) : Prop where
  /-- The root is the last row. -/
  root_last : table.root + 1 = table.size
  /-- Children from left to right and the node behind them: that is the order of the rows. -/
  visits : table.visitsFrom table.root = List.range table.size
  child_lt : ∀ {id index child : Nat}, table.childAt? id index = some child → child < id
  /-- Every other row is one node's child, at one index. -/
  one_parent : ∀ child < table.size, child ≠ table.root →
    ∃! place : Nat × Nat, table.childAt? place.1 place.2 = some child
  path_injective : ∀ {path path' : Path} {id : Nat},
    table.idAt? path = some id → table.idAt? path' = some id → path = path'

section

variable {tree : Tree}

theorem idAt?_snoc (table : Table) (path : Path) (index : Nat) :
    table.idAt? (path ++ [index]) = (table.idAt? path).bind (table.childAt? · index) := by
  rw [idAt?, List.foldlM_append, ← idAt?]
  cases table.idAt? path with
  | none => rfl
  | some id =>
    change [index].foldlM table.childAt? id = _
    simp

theorem Holds.idAt? (holds : table.Holds 0 tree) (root : table.root = tree.rootId) (path : Path) :
    table.idAt? path = tree.idAt? path := by
  rw [Table.idAt?, root]
  exact holds.idAlong path

theorem Holds.idAt?_injective {path path' : Path} (holds : table.Holds 0 tree)
    (root : table.root = tree.rootId) (found : table.idAt? path = some id)
    (found' : table.idAt? path' = some id) : path = path' := by
  rw [holds.idAt? root] at found found'
  obtain ⟨⟨first, subtree⟩, located, same⟩ := Option.map_eq_some_iff.1 found
  obtain ⟨⟨second, subtree'⟩, located', same'⟩ := Option.map_eq_some_iff.1 found'
  exact Tree.locateFrom_injective located located' (same.trans same'.symm)

theorem Holds.exists_idAt? (holds : table.Holds 0 tree) (root : table.root = tree.rootId)
    (inside : id < tree.size) : ∃ path, table.idAt? path = some id := by
  have below : id < 0 + tree.size := by omega
  obtain ⟨path, first, subtree, located, same⟩ := Tree.exists_locateFrom id.zero_le below
  refine ⟨path, ?_⟩
  rw [holds.idAt? root, Tree.idAt?, located]
  exact congrArg some same

theorem Holds.child_lt {path : Path} {index child : Nat} (holds : table.Holds 0 tree)
    (root : table.root = tree.rootId) (found : table.idAt? path = some id)
    (next : table.childAt? id index = some child) : child < id := by
  rw [holds.idAt? root] at found
  obtain ⟨⟨first, subtree⟩, located, rfl⟩ := Option.map_eq_some_iff.1 found
  rw [(holds.locate located).childAt?] at next
  obtain ⟨⟨second, childTree⟩, picked, rfl⟩ := Option.map_eq_some_iff.1 next
  have found : subtree.locateFrom first [index] = some (second, childTree) := by
    rw [Tree.locateFrom_cons, picked]
    rfl
  exact Tree.idFrom_lt_of_locateFrom found

theorem Holds.one_parent {child : Nat} (holds : table.Holds 0 tree)
    (root : table.root = tree.rootId) (size : table.size = tree.size) (inside : child < tree.size)
    (below : child ≠ table.root) :
    ∃! place : Nat × Nat, table.childAt? place.1 place.2 = some child := by
  obtain ⟨path, found⟩ := holds.exists_idAt? root inside
  -- The path does not end at the root, and its last step leads from the parent to the child.
  rcases List.eq_nil_or_concat' path with rfl | ⟨path, index, rfl⟩
  · exact absurd (Option.some.inj found).symm below
  · rw [idAt?_snoc] at found
    obtain ⟨id, parent_found, step⟩ := Option.bind_eq_some_iff.1 found
    refine ⟨(id, index), step, ?_⟩
    rintro ⟨id', index'⟩ step'
    obtain ⟨path', parent_found'⟩ :=
      holds.exists_idAt? root (size ▸ lt_size_of_childAt? step')
    have along : table.idAt? (path ++ [index]) = some child := by
      rw [idAt?_snoc, parent_found]
      exact step
    have along' : table.idAt? (path' ++ [index']) = some child := by
      rw [idAt?_snoc, parent_found']
      exact step'
    have same := holds.idAt?_injective root along along'
    obtain ⟨rfl, same_index⟩ := List.append_inj' same rfl
    cases same_index
    cases parent_found.symm.trans parent_found'
    rfl

theorem Holds.postordered (holds : table.Holds 0 tree) (root : table.root = tree.rootId)
    (size : table.size = tree.size) : table.Postordered where
  root_last := by
    have positive := tree.size_pos
    rw [root, size, Tree.rootId, Tree.idFrom]
    omega
  visits := by
    rw [root, size, List.range_eq_range']
    exact holds.visitsFrom
  child_lt step := by
    obtain ⟨path, found⟩ := holds.exists_idAt? root (size ▸ lt_size_of_childAt? step)
    exact holds.child_lt root found step
  one_parent child inside below := holds.one_parent root size (size ▸ inside) below
  path_injective := holds.idAt?_injective root

end

theorem exists_of_ofLexemes {lexemes : List Lexeme} (read : ofLexemes lexemes = .ok table) :
    ∃ root, parseLexemes (lexemes.filter Formula.isSolid) = .ok root ∧ table.Holds 0 root ∧
      table.root = root.rootId ∧ table.size = root.size := by
  obtain ⟨formula, parsed, rfl⟩ := map_eq_ok_iff.1 ((ofLexemes_eq "" lexemes).symm.trans read)
  refine ⟨formula.root, Formula.parseLexemes_of_ofLexemes parsed, holds_rows formula.root, rfl, ?_⟩
  simp [Table.size, Tree.rows, Tree.rowsFrom_length]

/-- The table that is read from tokens, blanks among them, numbers a single tree in the order in
which its nodes are finished. Its leaves are all the tokens but the blanks, and its text is
theirs. -/
theorem ofLexemes_postordered {lexemes : List Lexeme} (read : ofLexemes lexemes = .ok table) :
    table.Postordered ∧
      table.leafIds.map (table.rows[·]?) =
        (lexemes.filter Formula.isSolid).map (fun lexeme => some (.leaf lexeme)) ∧
      table.render = String.join ((lexemes.filter Formula.isSolid).map (·.text)) := by
  obtain ⟨root, parsed, holds, root_number, size⟩ := exists_of_ofLexemes read
  obtain ⟨leaves, -⟩ := parseLexemes_sound parsed
  refine ⟨holds.postordered root_number size, ?_, ?_⟩
  · rw [← leaves, leafIds, root_number]
    exact holds.leaves
  · rw [← leaves, render, root_number]
    exact holds.render

theorem ofLexemes_postordered_negation :
    let lexemes : List Lexeme := [⟨.equals, "="⟩, ⟨.prefixOp, "-"⟩, ⟨.cellRef, "A1"⟩,
      ⟨.whitespace, " "⟩, ⟨.infixOp, "+"⟩, ⟨.cellRef, "B2"⟩]
    let table : Table := ⟨#[.leaf ⟨.equals, "="⟩, .leaf ⟨.prefixOp, "-"⟩, .leaf ⟨.cellRef, "A1"⟩,
      .node .prefixed [1, 2], .leaf ⟨.infixOp, "+"⟩, .leaf ⟨.cellRef, "B2"⟩,
      .node .binary [3, 4, 5], .node .formula [0, 6]], 7⟩
    ofLexemes lexemes = .ok table ∧ table.Postordered ∧ table.render = "=-A1+B2" := by
  intro lexemes table
  have parsed : Formula.ofLexemes "" lexemes = .ok ⟨"", .node .formula [.leaf ⟨.equals, "="⟩,
      .node .binary [.node .prefixed [.leaf ⟨.prefixOp, "-"⟩, .leaf ⟨.cellRef, "A1"⟩],
        .leaf ⟨.infixOp, "+"⟩, .leaf ⟨.cellRef, "B2"⟩]]⟩ := by
    with_unfolding_all rfl
  have read : ofLexemes lexemes = .ok table := by
    rw [ofLexemes_eq "" lexemes, parsed]
    rfl
  obtain ⟨postordered, -, text⟩ := ofLexemes_postordered read
  exact ⟨read, postordered, text.trans rfl⟩

end Table

end FormulaRuns
