import FormulaRuns.Proofs.Pattern.Leaves

namespace FormulaRuns

namespace Tree

theorem size_pos (tree : Tree) : 0 < tree.size := by
  cases tree <;> exact Nat.succ_pos _

theorem idFrom_lt (start : Nat) (tree : Tree) : tree.idFrom start < start + tree.size := by
  have positive := tree.size_pos
  rw [idFrom]
  omega

theorem le_idFrom (start : Nat) (tree : Tree) : start ≤ tree.idFrom start := by
  have positive := tree.size_pos
  rw [idFrom]
  omega

section

variable {start first second index other : Nat} {trees : List Tree} {tree tree' : Tree}

theorem pickFrom_tree (start : Nat) (trees : List Tree) (index : Nat) :
    (pickFrom start trees index).map (·.2) = trees[index]? := by
  induction trees generalizing start index with
  | nil => simp
  | cons tree trees ih =>
    cases index with
    | zero => rfl
    | succ index => exact ih (start + tree.size) index

theorem pickFrom_within (picked : pickFrom start trees index = some (first, tree)) :
    start ≤ first ∧ first + tree.size ≤ start + forestSize trees := by
  induction trees generalizing start index with
  | nil => simp at picked
  | cons head trees ih =>
    rw [forestSize]
    cases index with
    | zero =>
      cases picked
      omega
    | succ index =>
      have within := ih picked
      omega

theorem pickFrom_before (before : index < other)
    (picked : pickFrom start trees index = some (first, tree))
    (picked' : pickFrom start trees other = some (second, tree')) : first + tree.size ≤ second := by
  induction trees generalizing start index other with
  | nil => simp at picked
  | cons head trees ih =>
    obtain ⟨other, rfl⟩ := Nat.exists_eq_add_one_of_ne_zero (Nat.ne_zero_of_lt before)
    cases index with
    | zero =>
      cases picked
      have later : pickFrom (first + tree.size) trees other = some (second, tree') := picked'
      exact (pickFrom_within later).1
    | succ index => exact ih (Nat.lt_of_succ_lt_succ before) picked picked'

theorem exists_pickFrom {number : Nat} (above : start ≤ number)
    (below : number < start + forestSize trees) :
    ∃ index first tree, pickFrom start trees index = some (first, tree) ∧
      first ≤ number ∧ number < first + tree.size := by
  induction trees generalizing start with
  | nil => simp [forestSize] at below; omega
  | cons head trees ih =>
    by_cases own : number < start + head.size
    · exact ⟨0, start, head, rfl, above, own⟩
    · rw [forestSize] at below
      have behind : start + head.size ≤ number := by omega
      obtain ⟨index, first, tree, picked, inside⟩ := ih behind (by omega)
      exact ⟨index + 1, first, tree, picked, inside⟩

end

section

variable {start first second : Nat} {path path' : Path} {tree subtree subtree' : Tree}

theorem locateFrom_cons (start index : Nat) (tree : Tree) (path : Path) :
    tree.locateFrom start (index :: path) = (pickFrom start tree.children index).bind
      fun place => place.2.locateFrom place.1 path := rfl

theorem locateFrom_subtree (start : Nat) (tree : Tree) (path : Path) :
    (tree.locateFrom start path).map (·.2) = tree.subtreeAt path := by
  induction path generalizing start tree with
  | nil => rfl
  | cons index path ih =>
    rw [locateFrom_cons, subtreeAt, ← pickFrom_tree start, Option.map_bind, Option.bind_map]
    congr 1
    funext place
    exact ih place.1 place.2

theorem size_eq_children (tree : Tree) : tree.size = forestSize tree.children + 1 := by
  cases tree <;> rfl

theorem locateFrom_within (found : tree.locateFrom start path = some (first, subtree)) :
    start ≤ first ∧ first + subtree.size ≤ start + tree.size := by
  induction path generalizing start tree with
  | nil =>
    cases found
    omega
  | cons index path ih =>
    obtain ⟨⟨childStart, child⟩, picked, inside⟩ := Option.bind_eq_some_iff.1 found
    have child_within := pickFrom_within picked
    have within := ih inside
    rw [size_eq_children tree]
    omega

theorem idFrom_lt_of_locateFrom {index : Nat}
    (found : tree.locateFrom start (index :: path) = some (first, subtree)) :
    subtree.idFrom first < tree.idFrom start := by
  obtain ⟨⟨childStart, child⟩, picked, inside⟩ := Option.bind_eq_some_iff.1 found
  have child_within := pickFrom_within picked
  have within := locateFrom_within inside
  have own := subtree.idFrom_lt first
  rw [idFrom, idFrom, size_eq_children tree] at *
  omega

theorem idFrom_lt_of_index_lt {index other : Nat} (before : index < other)
    (found : tree.locateFrom start (index :: path) = some (first, subtree))
    (found' : tree.locateFrom start (other :: path') = some (second, subtree')) :
    subtree.idFrom first < subtree'.idFrom second := by
  obtain ⟨⟨childStart, child⟩, picked, inside⟩ := Option.bind_eq_some_iff.1 found
  obtain ⟨⟨childStart', child'⟩, picked', inside'⟩ := Option.bind_eq_some_iff.1 found'
  have apart := pickFrom_before before picked picked'
  have within := locateFrom_within inside
  have within' := locateFrom_within inside'
  have own := subtree.idFrom_lt first
  have own' := subtree'.le_idFrom second
  omega

theorem locateFrom_injective (found : tree.locateFrom start path = some (first, subtree))
    (found' : tree.locateFrom start path' = some (second, subtree'))
    (same : subtree.idFrom first = subtree'.idFrom second) : path = path' := by
  induction path generalizing start tree path' with
  | nil =>
    cases path' with
    | nil => rfl
    | cons =>
      cases found
      have inner := idFrom_lt_of_locateFrom found'
      omega
  | cons index path ih =>
    cases path' with
    | nil =>
      cases found'
      have inner := idFrom_lt_of_locateFrom found
      omega
    | cons other path' =>
      rcases Nat.lt_trichotomy index other with before | rfl | after
      · have order := idFrom_lt_of_index_lt before found found'
        omega
      · obtain ⟨⟨childStart, child⟩, picked, inside⟩ := Option.bind_eq_some_iff.1 found
        obtain ⟨_, picked', inside'⟩ := Option.bind_eq_some_iff.1 found'
        cases picked.symm.trans picked'
        rw [ih inside inside']
      · have order := idFrom_lt_of_index_lt after found' found
        omega

theorem exists_locateFrom {number : Nat} (above : start ≤ number)
    (below : number < start + tree.size) :
    ∃ path first subtree, tree.locateFrom start path = some (first, subtree) ∧
      subtree.idFrom first = number := by
  induction size : tree.size using Nat.strongRecOn generalizing start tree with
  | ind size ih =>
    subst size
    by_cases own : number = tree.idFrom start
    · exact ⟨[], start, tree, rfl, own.symm⟩
    · rw [size_eq_children tree] at below
      rw [idFrom, size_eq_children tree] at own
      have inner : number < start + forestSize tree.children := by omega
      obtain ⟨index, childStart, child, picked, above, below⟩ := exists_pickFrom above inner
      have within := pickFrom_within picked
      obtain ⟨path, first, subtree, inside, same⟩ :=
        ih child.size (by rw [size_eq_children tree]; omega) above below rfl
      refine ⟨index :: path, first, subtree, ?_, same⟩
      rw [locateFrom_cons, picked]
      exact inside

/-- Leaves are numbered in the order of the paths to them. -/
theorem lt_of_path_lt {lexeme lexeme' : Lexeme} (order : compare path path' = .lt)
    (found : tree.locateFrom start path = some (first, leaf lexeme))
    (found' : tree.locateFrom start path' = some (second, leaf lexeme')) : first < second := by
  induction path generalizing start tree path' with
  | nil =>
    cases found
    cases path' with
    | nil => cases order
    | cons => simp [locateFrom, Tree.children] at found'
  | cons index path ih =>
    cases path' with
    | nil => cases order
    | cons other path' =>
      rcases Nat.lt_trichotomy index other with before | rfl | after
      · simpa using idFrom_lt_of_index_lt before found found'
      · obtain ⟨⟨childStart, child⟩, picked, inside⟩ := Option.bind_eq_some_iff.1 found
        obtain ⟨_, picked', inside'⟩ := Option.bind_eq_some_iff.1 found'
        cases picked.symm.trans picked'
        exact ih (by simpa [List.compare_cons_cons] using order) inside inside'
      · have reverse : compare index other = .gt := Nat.compare_eq_gt.2 after
        simp [List.compare_cons_cons, reverse] at order

end

end Tree

end FormulaRuns
