import FormulaRuns.Proofs.Formula.Postorder
import FormulaRuns.Proofs.Pattern.Slots

/-!
Laying a skeleton over a tree is following each of its paths. Where all of them lead to references
just these are bound (`leads_of_bindFrom`); where one does not, the failure names the first place on
the way that does not fit (`misfit_of_bindFrom`). The slots walk the table of a formula as the
skeleton walks its tree (`Stands.bindFrom`).
-/
namespace FormulaRuns

namespace Skeleton

theorem leads_of_bindOwn {start : Nat} {tree : Tree} {own : Option Reference} {places : Binding}
    (bound : bindOwn (tree.idFrom start) tree own = .ok places) :
    List.Forall₂ (tree.LeadsTo start) (own.toList.map fun ref => ([], ref)) places := by
  cases own with
  | none =>
    cases bound
    exact .nil
  | some ref =>
    simp only [bindOwn] at bound
    split at bound
    · rename_i reference
      cases bound
      cases tree with
      | leaf lexeme =>
        have kind : lexeme.kind = .cellRef := by
          simpa [Tree.isCellRef, Tree.kind?, Tree.lexeme?] using reference
        have found : (Tree.leaf lexeme).locateFrom start [] =
            some ((Tree.leaf lexeme).idFrom start, .leaf lexeme) := by
          rw [Tree.idFrom_leaf]
          rfl
        exact .cons ⟨rfl, lexeme, found, kind⟩ .nil
      | node rule children => simp [Tree.isCellRef, Tree.kind?, Tree.lexeme?] at reference
    · cases bound

theorem leads_through {start step childStart : Nat} {tree child : Tree} {entry : Path × Reference}
    {place : Nat × Reference}
    (picked : Tree.pickFrom start tree.children step = some (childStart, child))
    (leads : child.LeadsTo childStart entry place) :
    tree.LeadsTo start (step :: entry.1, entry.2) place := by
  obtain ⟨same, lexeme, found, kind⟩ := leads
  refine ⟨same, lexeme, ?_, kind⟩
  rw [Tree.locateFrom_cons, picked]
  exact found

mutual

theorem leads_of_bindFrom (start : Nat) (tree : Tree) : ∀ (skeleton : Skeleton) (places : Binding),
    skeleton.bindFrom start tree = .ok places →
      List.Forall₂ (tree.LeadsTo start) skeleton.leaves places
  | node own branches, places, bound => by
    obtain ⟨found, own_bound, rest⟩ := bind_eq_ok_iff.1 bound
    obtain ⟨more, branches_bound, same⟩ := bind_eq_ok_iff.1 rest
    cases same
    exact List.rel_append (leads_of_bindOwn own_bound)
      (leads_of_bindBranches start tree branches more branches_bound)

theorem leads_of_bindBranches (start : Nat) (tree : Tree) :
    ∀ (branches : List (Nat × Skeleton)) (places : Binding),
      bindBranches start tree branches = .ok places →
        List.Forall₂ (tree.LeadsTo start) (branchLeaves branches) places
  | [], _, bound => by
    cases bound
    exact .nil
  | (step, branch) :: rest, places, bound => by
    simp only [bindBranches] at bound
    cases picked : Tree.pickFrom start tree.children step with
    | none => simp [picked] at bound
    | some place =>
      obtain ⟨childStart, child⟩ := place
      simp only [picked] at bound
      obtain ⟨found, first_bound, others⟩ := bind_eq_ok_iff.1 bound
      obtain ⟨more, rest_bound, same⟩ := bind_eq_ok_iff.1 others
      cases same
      have inner :=
        leads_of_bindFrom childStart child branch found (mapError_eq_ok_iff.1 first_bound)
      refine List.rel_append ?_ (leads_of_bindBranches start tree rest more rest_bound)
      rw [List.forall₂_map_left_iff]
      exact inner.imp fun _ _ => leads_through picked

end

/-- The path goes along one of the recorded ones, and the tree has nothing there, or no reference
where the recorded path ends. -/
def Misfit (tree : Tree) (leaves : Bindings) (path : Path) : Prop :=
  ∃ entry ∈ leaves, path <+: entry.1 ∧
    (tree.subtreeAt path = none ∨
      path = entry.1 ∧ ∃ subtree, tree.subtreeAt path = some subtree ∧ subtree.isCellRef = false)

theorem Misfit.mono {tree : Tree} {leaves others : Bindings} {path : Path}
    (misfit : Misfit tree leaves path) (within : ∀ entry ∈ leaves, entry ∈ others) :
    Misfit tree others path := by
  obtain ⟨entry, member, rest⟩ := misfit
  exact ⟨entry, within entry member, rest⟩

theorem Misfit.under {step : Nat} {tree child : Tree} {leaves : Bindings} {path : Path}
    (found : tree.children[step]? = some child) (misfit : Misfit child leaves path) :
    Misfit tree (leaves.map fun (path, ref) => (step :: path, ref)) (step :: path) := by
  obtain ⟨entry, member, along, off⟩ := misfit
  refine ⟨(step :: entry.1, entry.2), List.mem_map_of_mem member, ?_, ?_⟩
  · exact (List.prefix_cons_inj step).2 along
  · simpa [Tree.subtreeAt, found] using off

mutual

theorem misfit_of_bindFrom (start : Nat) (tree : Tree) : ∀ (skeleton : Skeleton) (path : Path),
    skeleton.Tidy → skeleton.bindFrom start tree = .error path → Misfit tree skeleton.leaves path
  | node own branches, path, ⟨_, tidy⟩, failed => by
    rcases bind_eq_error_iff.1 failed with own_failed | ⟨found, -, rest⟩
    · cases own with
      | none => cases own_failed
      | some ref =>
        simp only [bindOwn] at own_failed
        split at own_failed
        · cases own_failed
        · rename_i no_reference
          cases own_failed
          have leaf : (([] : Path), ref) ∈ (node (some ref) branches).leaves := by simp [leaves]
          exact ⟨_, leaf, List.prefix_rfl, .inr ⟨rfl, tree, rfl, by simpa using no_reference⟩⟩
    · rcases bind_eq_error_iff.1 rest with branches_failed | ⟨more, -, done⟩
      · have misfit := misfit_of_bindBranches start tree branches path tidy branches_failed
        exact misfit.mono fun entry member => List.mem_append_right _ member
      · cases done

theorem misfit_of_bindBranches (start : Nat) (tree : Tree) :
    ∀ (branches : List (Nat × Skeleton)) (path : Path), BranchesTidy branches →
      bindBranches start tree branches = .error path → Misfit tree (branchLeaves branches) path
  | [], _, _, failed => by cases failed
  | (step, branch) :: rest, path, ⟨leads, branch_tidy, rest_tidy⟩, failed => by
    have child := Tree.pickFrom_tree start tree.children step
    simp only [bindBranches] at failed
    cases picked : Tree.pickFrom start tree.children step with
    | none =>
      simp only [picked, Except.error.injEq] at failed
      subst failed
      obtain ⟨entry, member⟩ := List.exists_mem_of_ne_nil _ leads
      have absent : tree.children[step]? = none := by simpa [picked] using child.symm
      refine ⟨(step :: entry.1, entry.2), ?_, ?_, .inl ?_⟩
      · exact List.mem_append_left _ (List.mem_map_of_mem member)
      · exact (List.prefix_cons_inj step).2 List.nil_prefix
      · simp [Tree.subtreeAt, absent]
    | some place =>
      obtain ⟨childStart, childTree⟩ := place
      have present : tree.children[step]? = some childTree := by simpa [picked] using child.symm
      simp only [picked] at failed
      rcases bind_eq_error_iff.1 failed with first_failed | ⟨found, -, others⟩
      · obtain ⟨inner, inner_failed, rfl⟩ := mapError_eq_error_iff.1 first_failed
        have misfit := misfit_of_bindFrom childStart childTree branch inner branch_tidy inner_failed
        exact (misfit.under present).mono fun entry member => List.mem_append_left _ member
      · rcases bind_eq_error_iff.1 others with rest_failed | ⟨more, -, done⟩
        · have misfit := misfit_of_bindBranches start tree rest path rest_tidy rest_failed
          exact misfit.mono fun entry member => List.mem_append_right _ member
        · cases done

end

end Skeleton

theorem Table.Holds.isCellRef {table : Table} {start : Nat} {tree : Tree}
    (holds : table.Holds start tree) : table.isCellRef (tree.idFrom start) = tree.isCellRef := by
  cases tree with
  | leaf lexeme =>
    rw [Table.isCellRef, holds.row_leaf]
    rfl
  | node rule children =>
    rw [Table.isCellRef, holds.row_node]
    rfl

namespace Slots

/-- What is bound below a node, in a table with what was bound before; a failure below the node as
one of the whole tree, where `path` leads to the node. -/
def carried (path : Path) (found : Binding) (bound : Except Path Binding) : Except Path Binding :=
  (bound.map fun binding =>
    binding.foldl (fun found (id, ref) => insertEntry id ref found) found).mapError (path ++ ·)

theorem carried_bind (path : Path) (found : Binding) (first rest : Except Path Binding) :
    carried path found (first >>= fun binding => rest >>= fun more => .ok (binding ++ more)) =
      carried path found first >>= fun found => carried path found rest := by
  cases first with
  | error fault => rfl
  | ok binding =>
    cases rest with
    | error fault => rfl
    | ok more => simp [carried, Except.map, List.foldl_append]

theorem carried_under (path : Path) (found : Binding) (step : Nat) (bound : Except Path Binding) :
    carried path found (bound.mapError (step :: ·)) = carried (path ++ [step]) found bound := by
  cases bound <;> simp [carried, Except.map, Except.mapError]

variable {slots : Slots} {table : Table}

theorem bindOwn_eq {start : Nat} {tree : Tree} (holds : table.Holds start tree) (path : Path)
    (found : Binding) (own : Option Reference) :
    bindOwn table (tree.idFrom start) path found own =
      carried path found (Skeleton.bindOwn (tree.idFrom start) tree own) := by
  cases own with
  | none => rfl
  | some ref =>
    simp only [bindOwn, Skeleton.bindOwn, holds.isCellRef]
    split
    · rfl
    · simp [carried, Except.map, Except.mapError]

def bindLink (slots : Slots) (table : Table) (path : Path) (id : Nat) (found : Binding)
    (link : Nat × Nat) : Except Path Binding :=
  match table.childAt? id link.1 with
  | none => .error (path ++ [link.1])
  | some child => slots.bindFrom table (path ++ [link.1]) child link.2 found

theorem bindFrom_eq {own : Option Reference} {links : List (Nat × Nat)} {here id : Nat}
    {path : Path} {found : Binding} (slot : slots[here]? = some ⟨own, links⟩)
    (later : ∀ link ∈ links, here < link.2 ∧ link.2 < slots.size) :
    slots.bindFrom table path id here found =
      bindOwn table id path found own >>= links.foldlM (slots.bindLink table path id) := by
  rw [bindFrom, slot]
  change (bindOwn table id path found own >>= fun found => links.foldlM _ found) = _
  congr 1
  funext found
  apply foldlM_congr
  intro link member found
  rw [bindLink]
  cases table.childAt? id link.1 with
  | none => rfl
  | some child => exact dif_pos (later link member)

mutual

/-- Slots walk the table of a tree as their skeleton walks the tree. -/
theorem Stands.bindFrom : ∀ {skeleton : Skeleton} {here : Nat} {used : List Nat} {start : Nat}
    {tree : Tree} (path : Path) (found : Binding), slots.Stands here skeleton used →
      table.Holds start tree → slots.bindFrom table path (tree.idFrom start) here found =
        carried path found (skeleton.bindFrom start tree)
  | .node own branches, _, _, start, tree, path, found, .node slot inner, holds => by
    rw [bindFrom_eq slot inner.later, bindOwn_eq holds]
    refine .trans ?_ (carried_bind path found _ _).symm
    congr 1
    funext found
    exact BranchesStand.bindFrom path found inner holds

theorem BranchesStand.bindFrom : ∀ {branches : List (Nat × Skeleton)} {here : Nat}
    {links : List (Nat × Nat)} {used : List Nat} {start : Nat} {tree : Tree} (path : Path)
    (found : Binding), slots.BranchesStand here links branches used → table.Holds start tree →
      links.foldlM (slots.bindLink table path (tree.idFrom start)) found =
        carried path found (Skeleton.bindBranches start tree branches)
  | [], _, _, _, _, _, _, _, .nil, _ => rfl
  | (step, branch) :: rest, _, _, _, start, tree, path, found, .cons _ first others, holds => by
    rw [List.foldlM_cons, bindLink, holds.childAt?, Skeleton.bindBranches]
    cases picked : Tree.pickFrom start tree.children step with
    | none => simp [carried, Except.map, Except.mapError]
    | some place =>
      obtain ⟨childStart, child⟩ := place
      have inner := Stands.bindFrom (path ++ [step]) found first (holds.pick picked)
      simp only [Option.map_some, inner, ← carried_under]
      refine .trans ?_ (carried_bind path found _ _).symm
      congr 1
      funext found
      exact BranchesStand.bindFrom path found others holds

end

end Slots

section

variable {table : Table} {tree : Tree} {entries bindings : Bindings} {places : Binding}

theorem Table.Holds.leadsTo_iff (holds : table.Holds 0 tree) (root : table.root = tree.rootId)
    {entry : Path × Reference} {place : Nat × Reference} :
    tree.LeadsTo 0 entry place ↔
      entry.2 = place.2 ∧ table.idAt? entry.1 = some place.1 ∧ table.isCellRef place.1 = true := by
  rw [Tree.LeadsTo, holds.idAt? root, Tree.idAt?]
  refine and_congr_right fun _ => ⟨?_, ?_⟩
  · rintro ⟨lexeme, found, kind⟩
    have leaf := (holds.locate found).isCellRef
    rw [Tree.idFrom_leaf] at leaf
    refine ⟨by simp [found], ?_⟩
    simp [leaf, Tree.isCellRef, Tree.kind?, Tree.lexeme?, kind]
  · rintro ⟨found, reference⟩
    obtain ⟨⟨first, subtree⟩, located, same⟩ := Option.map_eq_some_iff.1 found
    dsimp only at same
    rw [← same, (holds.locate located).isCellRef] at reference
    cases subtree with
    | leaf lexeme =>
      rw [Tree.idFrom_leaf] at same
      subst same
      exact ⟨lexeme, located, by simpa [Tree.isCellRef, Tree.kind?, Tree.lexeme?] using reference⟩
    | node rule children => simp [Tree.isCellRef, Tree.kind?, Tree.lexeme?] at reference

theorem Table.Holds.exists_places_iff (holds : table.Holds 0 tree)
    (root : table.root = tree.rootId) :
    (∃ places, List.Forall₂ (tree.LeadsTo 0) entries places) ↔ ∀ entry ∈ entries,
      ∃ id, table.idAt? entry.1 = some id ∧ table.isCellRef id = true := by
  constructor
  · rintro ⟨places, leads⟩ entry member
    obtain ⟨place, -, entry_leads⟩ := exists_of_mem_left leads member
    exact ⟨place.1, ((holds.leadsTo_iff root).1 entry_leads).2⟩
  · intro each
    apply exists_forall₂
    intro entry member
    obtain ⟨id, found, reference⟩ := each entry member
    exact ⟨(id, entry.2), (holds.leadsTo_iff root).2 ⟨rfl, found, reference⟩⟩

theorem Table.Holds.mem_places_iff (holds : table.Holds 0 tree) (root : table.root = tree.rootId)
    (leads : List.Forall₂ (tree.LeadsTo 0) entries places) {id : Nat} {ref : Reference} :
    (id, ref) ∈ places ↔ ∃ path, (path, ref) ∈ entries ∧ table.idAt? path = some id := by
  constructor
  · intro member
    obtain ⟨⟨path, ref'⟩, entry_member, entry_leads⟩ := exists_of_mem_right leads member
    obtain ⟨same, found, -⟩ := (holds.leadsTo_iff root).1 entry_leads
    cases same
    exact ⟨path, entry_member, found⟩
  · rintro ⟨path, member, found⟩
    obtain ⟨⟨id', ref'⟩, place_member, entry_leads⟩ := exists_of_mem_left leads member
    obtain ⟨same, found', -⟩ := (holds.leadsTo_iff root).1 entry_leads
    cases same
    cases found.symm.trans found'
    exact place_member

theorem Tree.ascending_of_leads {start : Nat} (ascending : AscendingKeys entries)
    (leads : List.Forall₂ (tree.LeadsTo start) entries places) : AscendingKeys places := by
  induction leads with
  | nil => exact .nil
  | @cons entry place rest others first rest_leads ih =>
    obtain ⟨above, rest_ascending⟩ := List.pairwise_cons.1 ascending
    refine List.pairwise_cons.2 ⟨fun other member => ?_, ih rest_ascending⟩
    obtain ⟨after, after_member, after_leads⟩ := exists_of_mem_right rest_leads member
    obtain ⟨-, lexeme, found, -⟩ := first
    obtain ⟨-, lexeme', found', -⟩ := after_leads
    exact Nat.compare_eq_lt.2 (Tree.lt_of_path_lt (above after after_member) found found')

theorem Skeleton.bind_eq_ok_iff {skeleton : Skeleton} (tidy : skeleton.Tidy) :
    skeleton.bind tree = .ok places ↔ List.Forall₂ (tree.LeadsTo 0) skeleton.leaves places := by
  rw [Skeleton.bind, mapError_eq_ok_iff]
  exact ⟨leads_of_bindFrom 0 tree skeleton places, bindFrom_of_leads 0 tree skeleton places tidy⟩

theorem Skeleton.misfit_of_bind {skeleton : Skeleton} {fault : Fault} (tidy : skeleton.Tidy)
    (failed : skeleton.bind tree = .error fault) :
    ∃ path, fault = .binding path ∧ Misfit tree skeleton.leaves path := by
  obtain ⟨path, stopped, same⟩ := mapError_eq_error_iff.1 failed
  exact ⟨path, same.symm, misfit_of_bindFrom 0 tree skeleton path tidy stopped⟩

theorem Slots.carried_root {bound : Except Path Binding}
    (ascending : ∀ places, bound = .ok places → AscendingKeys places) :
    carried [] [] bound = bound := by
  cases bound with
  | error path => rfl
  | ok places =>
    have places_ascending := ascending places rfl
    have distinct : (([] ++ places : Binding).map (·.1)).Nodup := places_ascending.nodup
    have perm := foldl_insertEntry_perm distinct
    have same := (foldl_insertEntry_ascendingKeys .nil places).eq_of_perm places_ascending perm
    exact congrArg Except.ok same

theorem Slots.Holds.bind {slots : Slots} {skeleton : Skeleton} (stands : slots.Holds skeleton)
    (ascending : AscendingKeys skeleton.leaves) (holds : table.Holds 0 tree)
    (root : table.root = tree.rootId) : slots.bind table = skeleton.bind tree := by
  obtain ⟨used, stands, -⟩ := stands
  rw [Slots.bind, root, Tree.rootId, stands.bindFrom [] [] holds, carried_root, Skeleton.bind]
  intro places bound
  exact Tree.ascending_of_leads ascending (Skeleton.leads_of_bindFrom 0 tree skeleton places bound)

theorem Table.Holds.misfit_iff (holds : table.Holds 0 tree) (root : table.root = tree.rootId)
    {leaves : Bindings} {path : Path} :
    Skeleton.Misfit tree leaves path ↔ ∃ entry ∈ leaves, path <+: entry.1 ∧
      (table.idAt? path = none ∨
        path = entry.1 ∧ ∃ id, table.idAt? path = some id ∧ table.isCellRef id = false) := by
  have subtree := Tree.locateFrom_subtree 0 tree path
  rw [Skeleton.Misfit, holds.idAt? root, Tree.idAt?, ← subtree]
  cases found : tree.locateFrom 0 path with
  | none => simp
  | some place => simp [(holds.locate found).isCellRef]

end

/-- Binding the pattern of a compatible pair in a formula that is read from tokens is following the
pattern's paths there, in whatever order they were recorded. -/
theorem bind_of_compatible {tree tree' : Tree} {origin candidate : Address}
    {bindings entries : Bindings} {lexemes : List Lexeme} {table : Table}
    (compatible : checkTrees tree origin tree' candidate = .compatible bindings)
    (order : entries.Perm bindings) (read : Table.ofLexemes lexemes = .ok table) :
    let pattern := (variabilitySlots entries).1
    ((∃ binding, pattern.bind table = .ok binding) ↔ ∀ entry ∈ bindings,
      ∃ id, table.idAt? entry.1 = some id ∧ table.isCellRef id = true) ∧
    (∀ binding, pattern.bind table = .ok binding →
      binding.length = pattern.leafCount ∧ pattern.leafCount = bindings.length ∧
        AscendingKeys binding ∧ ∀ id ref, (id, ref) ∈ binding ↔
          ∃ path, (path, ref) ∈ bindings ∧ table.idAt? path = some id) ∧
    ∀ fault, pattern.bind table = .error fault → ∃ path, fault = .binding path ∧
      ∃ entry ∈ bindings, path <+: entry.1 ∧ (table.idAt? path = none ∨
        path = entry.1 ∧ ∃ id, table.idAt? path = some id ∧ table.isCellRef id = false) := by
  intro pattern
  obtain ⟨target, -, holds, root, -⟩ := Table.exists_of_ofLexemes read
  have ascending : AscendingKeys bindings := by
    rw [(checkTrees_eq_compatible_iff.1 compatible).2]
    exact tree.movingReferences_ascending origin.sheet
  -- In which order the paths were put in is no longer seen from here on.
  have leaves := Skeleton.leaves_ofBindings ascending order
  have tidy := Skeleton.ofBindings_tidy entries
  have stands : pattern.Holds (.ofBindings entries) := Slots.ofBindings_holds entries
  have count : pattern.leafCount = bindings.length := by
    rw [stands.leafCount, Skeleton.leafCount_eq_length, leaves]
  have bound_iff {places : Binding} : (Skeleton.ofBindings entries).bind target = .ok places ↔
      List.Forall₂ (target.LeadsTo 0) bindings places := by
    rw [Skeleton.bind_eq_ok_iff tidy, leaves]
  rw [stands.bind (leaves ▸ ascending) holds root]
  refine ⟨?_, ?_, ?_⟩
  · simp only [bound_iff]
    exact holds.exists_places_iff root
  · intro places bound
    have leads := bound_iff.1 bound
    exact ⟨leads.length_eq.symm.trans count.symm, count, Tree.ascending_of_leads ascending leads,
      fun id ref => holds.mem_places_iff root leads⟩
  · intro fault failed
    obtain ⟨path, same, misfit⟩ := Skeleton.misfit_of_bind tidy failed
    rw [leaves] at misfit
    exact ⟨path, same, (holds.misfit_iff root).1 misfit⟩

theorem bind_of_compatible_product :
    let first : Reference := ⟨"S", 1, 1, false, false⟩
    let lexemes : List Lexeme := [⟨.equals, "="⟩, ⟨.cellRef, "C7"⟩, ⟨.infixOp, "*"⟩, ⟨.number, "2"⟩]
    checkTrees (sumTree "A1") ⟨"S", 1, 3⟩ (sumTree "A2") ⟨"S", 2, 3⟩ =
        .compatible [([1, 0], first)] ∧
      ∃ table, Table.ofLexemes lexemes = .ok table ∧
        (variabilitySlots [([1, 0], first)]).1.bind table = .ok [(1, first)] := by
  intro first lexemes
  have compatible : checkTrees (sumTree "A1") ⟨"S", 1, 3⟩ (sumTree "A2") ⟨"S", 2, 3⟩ =
      .compatible [([1, 0], first)] := by
    with_unfolding_all rfl
  have parsed : Formula.ofLexemes "" lexemes = .ok ⟨"", .node .formula [.leaf ⟨.equals, "="⟩,
      .node .binary [.leaf ⟨.cellRef, "C7"⟩, .leaf ⟨.infixOp, "*"⟩, .leaf ⟨.number, "2"⟩]]⟩ := by
    with_unfolding_all rfl
  have read := Table.ofLexemes_eq "" lexemes
  rw [parsed] at read
  obtain ⟨hosts, binds, -⟩ := bind_of_compatible compatible (.refl _) read
  obtain ⟨binding, bound⟩ := hosts.2 (by simpa using ⟨1, by rfl, by rfl⟩)
  obtain ⟨length, count, -, places⟩ := binds binding bound
  obtain ⟨entry, rfl⟩ := List.length_eq_one_iff.1 (length.trans count)
  have member : (1, first) ∈ [entry] := (places 1 first).2 ⟨[1, 0], by simp, by rfl⟩
  rw [← List.mem_singleton.1 member] at bound
  exact ⟨compatible, _, read, bound⟩

end FormulaRuns
