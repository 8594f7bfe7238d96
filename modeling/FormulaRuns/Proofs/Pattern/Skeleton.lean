import FormulaRuns.Pattern.Skeleton
import FormulaRuns.Proofs.Outcome
import FormulaRuns.Proofs.Pattern.Compatible

namespace FormulaRuns

namespace Skeleton

mutual

/-- Branches are in order, and each of them leads to some reference. -/
def Tidy : Skeleton → Prop
  | node _ branches => AscendingKeys branches ∧ BranchesTidy branches

def BranchesTidy : List (Nat × Skeleton) → Prop
  | [] => True
  | (_, branch) :: rest => branch.leaves ≠ [] ∧ branch.Tidy ∧ BranchesTidy rest

end

theorem empty_tidy : empty.Tidy := ⟨.nil, trivial⟩

theorem mem_branchLeaves {branches : List (Nat × Skeleton)} {entry : Path × Reference}
    (member : entry ∈ branchLeaves branches) :
    ∃ branch ∈ branches, ∃ path, entry.1 = branch.1 :: path := by
  induction branches with
  | nil => simp [branchLeaves] at member
  | cons first rest ih =>
    rcases List.mem_append.1 member with member | member
    · obtain ⟨inner, -, rfl⟩ := List.mem_map.1 member
      exact ⟨first, List.mem_cons_self, inner.1, rfl⟩
    · obtain ⟨branch, present, path, same⟩ := ih member
      exact ⟨branch, List.mem_cons_of_mem _ present, path, same⟩

theorem insertEntry_map_cons (step : Nat) (path : Path) (ref : Reference) (entries : Bindings) :
    insertEntry (step :: path) ref (entries.map fun (path, ref) => (step :: path, ref)) =
      (insertEntry path ref entries).map fun (path, ref) => (step :: path, ref) := by
  induction entries with
  | nil => rfl
  | cons first rest ih =>
    obtain ⟨other, old⟩ := first
    have order : compare (step :: path) (step :: other) = compare path other := by
      simp [List.compare_cons_cons]
    simp only [List.map_cons, insertEntry, order]
    split <;> simp [ih]

section

variable {step : Nat} {change : Skeleton → Skeleton} {path : Path} {ref : Reference}

theorem alterBranch_keys {branches : List (Nat × Skeleton)} {branch : Nat × Skeleton}
    (member : branch ∈ alterBranch step change branches) :
    branch.1 = step ∨ ∃ old ∈ branches, branch.1 = old.1 := by
  induction branches with
  | nil => simp_all [alterBranch]
  | cons first rest ih =>
    simp only [alterBranch] at member
    split at member
    · rcases List.mem_cons.1 member with rfl | member
      · exact .inl rfl
      · exact .inr ⟨branch, member, rfl⟩
    · rcases List.mem_cons.1 member with rfl | member
      · exact .inr ⟨first, List.mem_cons_self, rfl⟩
      · exact .inr ⟨branch, List.mem_cons_of_mem _ member, rfl⟩
    · rcases List.mem_cons.1 member with rfl | member
      · exact .inr ⟨first, List.mem_cons_self, rfl⟩
      · rcases ih member with same | ⟨old, present, same⟩
        · exact .inl same
        · exact .inr ⟨old, List.mem_cons_of_mem _ present, same⟩

theorem alterBranch_ascending {branches : List (Nat × Skeleton)}
    (ascending : AscendingKeys branches) : AscendingKeys (alterBranch step change branches) := by
  induction branches with
  | nil => exact List.pairwise_singleton _ _
  | cons first rest ih =>
    obtain ⟨other, branch⟩ := first
    obtain ⟨above, rest_ascending⟩ := List.pairwise_cons.1 ascending
    simp only [alterBranch]
    cases order : compare step other with
    | lt =>
      have first_lowest : ∀ entry ∈ (other, branch) :: rest, compare step entry.1 = .lt := by
        intro entry member
        rcases List.mem_cons.1 member with rfl | member
        · exact order
        · exact Std.TransCmp.lt_trans order (above entry member)
      exact List.pairwise_cons.2 ⟨first_lowest, ascending⟩
    | eq => exact List.pairwise_cons.2 ⟨above, rest_ascending⟩
    | gt =>
      have still_above : ∀ entry ∈ alterBranch step change rest, compare other entry.1 = .lt := by
        intro entry member
        rcases alterBranch_keys member with same | ⟨old, present, same⟩
        · rw [same]
          exact Std.OrientedCmp.lt_of_gt order
        · rw [same]
          exact above old present
      exact List.pairwise_cons.2 ⟨still_above, ih rest_ascending⟩

theorem branchLeaves_above {other : Nat} {branches : List (Nat × Skeleton)}
    (above : ∀ branch ∈ branches, compare other branch.1 = .lt) :
    ∀ entry ∈ branchLeaves branches, ∀ path : Path, compare (other :: path) entry.1 = .lt := by
  intro entry member path
  obtain ⟨branch, present, rest, same⟩ := mem_branchLeaves member
  simp [same, List.compare_cons_cons, above branch present]

theorem branchLeaves_alterBranch
    (changed : ∀ branch : Skeleton, branch.Tidy →
      (change branch).leaves = insertEntry path ref branch.leaves)
    {branches : List (Nat × Skeleton)} (ascending : AscendingKeys branches)
    (tidy : BranchesTidy branches) :
    branchLeaves (alterBranch step change branches) =
      insertEntry (step :: path) ref (branchLeaves branches) := by
  have fresh : (change empty).leaves = [(path, ref)] := changed empty empty_tidy
  induction branches with
  | nil => simp [alterBranch, branchLeaves, fresh, insertEntry]
  | cons first rest ih =>
    obtain ⟨other, branch⟩ := first
    obtain ⟨above, rest_ascending⟩ := List.pairwise_cons.1 ascending
    obtain ⟨-, branch_tidy, rest_tidy⟩ := tidy
    have later := branchLeaves_above above
    simp only [alterBranch]
    cases order : compare step other with
    | lt =>
      -- The new branch stands before all others, and so does its one path.
      have all_later : ∀ entry ∈ branchLeaves ((other, branch) :: rest),
          compare (step :: path) entry.1 = .lt := by
        intro entry entry_member
        apply branchLeaves_above _ entry entry_member path
        intro branch member
        rcases List.mem_cons.1 member with rfl | member
        · exact order
        · exact Std.TransCmp.lt_trans order (above branch member)
      have front : insertEntry (step :: path) ref ([] ++ branchLeaves ((other, branch) :: rest)) =
          insertEntry (step :: path) ref [] ++ branchLeaves ((other, branch) :: rest) :=
        insertEntry_append_of_below all_later
      simpa [branchLeaves, fresh, insertEntry] using front.symm
    | eq =>
      obtain rfl := Std.LawfulEqOrd.eq_of_compare order
      -- The paths of the branches behind are above all of this one's.
      simp only [branchLeaves, changed branch branch_tidy]
      rw [insertEntry_append_of_below fun entry member => later entry member path,
        insertEntry_map_cons]
    | gt =>
      simp only [branchLeaves, ih rest_ascending rest_tidy]
      rw [insertEntry_append_of_above]
      intro entry member
      obtain ⟨inner, -, rfl⟩ := List.mem_map.1 member
      simp [List.compare_cons_cons, Std.OrientedCmp.lt_of_gt order]

theorem alterBranch_tidy
    (changed : ∀ branch : Skeleton, branch.Tidy →
      (change branch).Tidy ∧ (change branch).leaves = insertEntry path ref branch.leaves)
    {branches : List (Nat × Skeleton)} (tidy : BranchesTidy branches) :
    BranchesTidy (alterBranch step change branches) := by
  have kept (branch : Skeleton) (branch_tidy : branch.Tidy) :
      (change branch).leaves ≠ [] ∧ (change branch).Tidy := by
    refine ⟨?_, (changed branch branch_tidy).1⟩
    rw [(changed branch branch_tidy).2]
    exact insertEntry_ne_nil _ _ _
  have fresh := kept empty empty_tidy
  induction branches with
  | nil => exact ⟨fresh.1, fresh.2, trivial⟩
  | cons first rest ih =>
    obtain ⟨leads, branch_tidy, rest_tidy⟩ := tidy
    simp only [alterBranch]
    split
    · exact ⟨fresh.1, fresh.2, leads, branch_tidy, rest_tidy⟩
    · exact ⟨(kept _ branch_tidy).1, (kept _ branch_tidy).2, rest_tidy⟩
    · exact ⟨leads, branch_tidy, ih rest_tidy⟩

end

-- Both at once: that a changed branch still leads somewhere is read off its leaves.
theorem insert_tidy_and_leaves (ref : Reference) (path : Path) : ∀ skeleton : Skeleton,
    skeleton.Tidy → (skeleton.insert ref path).Tidy ∧
      (skeleton.insert ref path).leaves = insertEntry path ref skeleton.leaves := by
  induction path with
  | nil =>
    rintro ⟨own, branches⟩ tidy
    have later : ∀ entry ∈ branchLeaves branches, compare ([] : Path) entry.1 = .lt := by
      intro entry member
      obtain ⟨branch, -, rest, same⟩ := mem_branchLeaves member
      rw [same]
      rfl
    refine ⟨tidy, ?_⟩
    simp only [insert, leaves]
    rw [insertEntry_append_of_below later]
    cases own <;> rfl
  | cons step path ih =>
    rintro ⟨own, branches⟩ ⟨ascending, tidy⟩
    refine ⟨⟨alterBranch_ascending ascending, alterBranch_tidy ih tidy⟩, ?_⟩
    simp only [insert, leaves]
    rw [branchLeaves_alterBranch (fun branch tidy => (ih branch tidy).2) ascending tidy,
      insertEntry_append_of_above]
    intro entry member
    obtain ⟨ref, -, rfl⟩ := List.mem_map.1 member
    rfl

theorem insert_tidy {skeleton : Skeleton} (tidy : skeleton.Tidy) (ref : Reference) (path : Path) :
    (skeleton.insert ref path).Tidy :=
  (insert_tidy_and_leaves ref path skeleton tidy).1

theorem leaves_insert {skeleton : Skeleton} (tidy : skeleton.Tidy) (ref : Reference)
    (path : Path) : (skeleton.insert ref path).leaves = insertEntry path ref skeleton.leaves :=
  (insert_tidy_and_leaves ref path skeleton tidy).2

theorem foldl_insert {entries : Bindings} {skeleton : Skeleton} (tidy : skeleton.Tidy) :
    (entries.foldl (fun skeleton (path, ref) => skeleton.insert ref path) skeleton).Tidy ∧
      (entries.foldl (fun skeleton (path, ref) => skeleton.insert ref path) skeleton).leaves =
        entries.foldl (fun table (path, ref) => insertEntry path ref table) skeleton.leaves := by
  induction entries generalizing skeleton with
  | nil => exact ⟨tidy, rfl⟩
  | cons entry rest ih =>
    have result := ih (insert_tidy tidy entry.2 entry.1)
    rwa [leaves_insert tidy] at result

theorem ofBindings_tidy (entries : Bindings) : (ofBindings entries).Tidy :=
  (foldl_insert empty_tidy).1

theorem leaves_ascending (entries : Bindings) : AscendingKeys (ofBindings entries).leaves := by
  rw [ofBindings, (foldl_insert empty_tidy).2]
  exact foldl_insertEntry_ascendingKeys .nil entries

theorem leaves_perm {entries : Bindings} (distinct : (entries.map (·.1)).Nodup) :
    (ofBindings entries).leaves.Perm entries := by
  rw [ofBindings, (foldl_insert empty_tidy).2]
  exact foldl_insertEntry_perm distinct

/-- A skeleton holds the references that it was made of, in whatever order they came. -/
theorem leaves_ofBindings {entries bindings : Bindings} (ascending : AscendingKeys bindings)
    (order : entries.Perm bindings) : (ofBindings entries).leaves = bindings := by
  have distinct : (entries.map (·.1)).Nodup := (order.map (·.1)).nodup_iff.2 ascending.nodup
  exact (leaves_ascending entries).eq_of_perm ascending ((leaves_perm distinct).trans order)

mutual

theorem leafCount_eq_length : ∀ skeleton : Skeleton, skeleton.leafCount = skeleton.leaves.length
  | node own branches => by simp [leafCount, leaves, branchCount_eq_length branches]

theorem branchCount_eq_length : ∀ branches : List (Nat × Skeleton),
    branchCount branches = (branchLeaves branches).length
  | [] => rfl
  | (_, branch) :: rest => by
    simp [branchCount, branchLeaves, leafCount_eq_length branch, branchCount_eq_length rest]

end

theorem split_of_forall₂_append {α β : Type} {Related : α → β → Prop} {xs ys : List α}
    {zs : List β} (related : List.Forall₂ Related (xs ++ ys) zs) :
    ∃ front back, zs = front ++ back ∧ List.Forall₂ Related xs front ∧
      List.Forall₂ Related ys back := by
  induction xs generalizing zs with
  | nil => exact ⟨[], zs, rfl, .nil, related⟩
  | cons x xs ih =>
    cases related with
    | cons first others =>
      obtain ⟨front, back, rfl, front_related, back_related⟩ := ih others
      exact ⟨_ :: front, back, rfl, .cons first front_related, back_related⟩

theorem bindOwn_of_leads {start : Nat} {tree : Tree} {own : Option Reference}
    {places : Binding}
    (leads : List.Forall₂ (tree.LeadsTo start) (own.toList.map fun ref => ([], ref)) places) :
    bindOwn (tree.idFrom start) tree own = .ok places := by
  cases own with
  | none =>
    cases leads
    rfl
  | some ref =>
    obtain _ | ⟨⟨same, lexeme, found, kind⟩, others⟩ := leads
    cases others
    cases found
    cases same
    simp [bindOwn, Tree.isCellRef, Tree.kind?, Tree.lexeme?, kind]

theorem child_of_leads {start step : Nat} {tree : Tree} {entries : Bindings} {places : Binding}
    (nonempty : entries ≠ [])
    (leads : List.Forall₂ (tree.LeadsTo start)
      (entries.map fun (path, ref) => (step :: path, ref)) places) :
    ∃ childStart child, Tree.pickFrom start tree.children step = some (childStart, child) ∧
      List.Forall₂ (child.LeadsTo childStart) entries places := by
  have through {entry : Path × Reference} {place : Nat × Reference}
      (entry_leads : tree.LeadsTo start (step :: entry.1, entry.2) place) :
      ∃ childStart child, Tree.pickFrom start tree.children step = some (childStart, child) ∧
        child.LeadsTo childStart entry place := by
    obtain ⟨same, lexeme, found, kind⟩ := entry_leads
    obtain ⟨⟨childStart, child⟩, picked, child_found⟩ := Option.bind_eq_some_iff.1 found
    exact ⟨childStart, child, picked, same, lexeme, child_found, kind⟩
  rw [List.forall₂_map_left_iff] at leads
  obtain ⟨childStart, child, picked⟩ : ∃ childStart child,
      Tree.pickFrom start tree.children step = some (childStart, child) := by
    cases leads with
    | nil => exact absurd rfl nonempty
    | cons first others =>
      obtain ⟨childStart, child, picked, -⟩ := through first
      exact ⟨childStart, child, picked⟩
  refine ⟨childStart, child, picked, ?_⟩
  apply leads.imp
  intro entry place entry_leads
  obtain ⟨_, _, picked', child_leads⟩ := through entry_leads
  cases picked.symm.trans picked'
  exact child_leads

mutual

/-- A skeleton of which all paths lead to references binds these references. -/
theorem bindFrom_of_leads (start : Nat) (tree : Tree) : ∀ (skeleton : Skeleton) (places : Binding),
    skeleton.Tidy → List.Forall₂ (tree.LeadsTo start) skeleton.leaves places →
    skeleton.bindFrom start tree = .ok places
  | node own branches, places, ⟨_, tidy⟩, leads => by
    obtain ⟨front, back, rfl, own_leads, branches_lead⟩ := split_of_forall₂_append leads
    simp only [bindFrom, bindOwn_of_leads own_leads,
      bindBranches_of_leads start tree branches back tidy branches_lead]
    rfl

theorem bindBranches_of_leads (start : Nat) (tree : Tree) :
    ∀ (branches : List (Nat × Skeleton)) (places : Binding), BranchesTidy branches →
      List.Forall₂ (tree.LeadsTo start) (branchLeaves branches) places →
      bindBranches start tree branches = .ok places
  | [], _, _, .nil => rfl
  | (step, branch) :: rest, places, ⟨nonempty, branch_tidy, rest_tidy⟩, leads => by
    obtain ⟨front, back, rfl, branch_leads, rest_lead⟩ := split_of_forall₂_append leads
    -- A branch that leads nowhere would still ask for its child.
    obtain ⟨childStart, child, picked, child_leads⟩ := child_of_leads nonempty branch_leads
    simp only [bindBranches, picked,
      bindFrom_of_leads childStart child branch front branch_tidy child_leads,
      bindBranches_of_leads start tree rest back rest_tidy rest_lead]
    rfl

end

end Skeleton

namespace Tree

/-- The references of a tree that follow it when it is dragged, by their numbers. -/
def movingBinding (start : Nat) (sheet : String) (tree : Tree) : Binding :=
  (tree.numberedReferences start sheet).filter (·.2.isVariable)

theorem movingReferences_lead (start : Nat) (sheet : String) (tree : Tree) :
    List.Forall₂ (tree.LeadsTo start) (tree.movingReferences sheet)
      (tree.movingBinding start sheet) :=
  List.rel_filter (fun {_ _} leads => by simp [leads.1]) (tree.references_lead start sheet)

theorem movingBinding_ascending (start : Nat) (sheet : String) (tree : Tree) :
    AscendingKeys (tree.movingBinding start sheet) :=
  (tree.numberedReferences_ascending start sheet).filter _

theorem movingBinding_nodup (start : Nat) (sheet : String) (tree : Tree) :
    ((tree.movingBinding start sheet).map (·.1)).Nodup := by
  apply List.pairwise_map.2
  apply (tree.movingBinding_ascending start sheet).imp
  intro before after order
  exact Nat.ne_of_lt (Nat.compare_eq_lt.1 order)

theorem mem_movingBinding {start : Nat} {sheet : String} {tree : Tree} {number : Nat}
    {ref : Reference} :
    (number, ref) ∈ tree.movingBinding start sheet ↔
      (∃ leaf ∈ tree.placedLeaves start sheet, leaf.number = number ∧ leaf.reference? = some ref) ∧
        ref.isVariable := by
  rw [movingBinding, List.mem_filter, numberedReferences, List.mem_filterMap]
  refine and_congr_left fun _ => exists_congr fun leaf => and_congr_right fun _ => ?_
  rw [PlacedLeaf.numbered?, Option.map_eq_some_iff]
  constructor
  · rintro ⟨other, decoded, same⟩
    obtain ⟨numbers, rfl⟩ := Prod.mk.inj same
    exact ⟨numbers, decoded⟩
  · rintro ⟨rfl, decoded⟩
    exact ⟨ref, decoded, rfl⟩

theorem movingReferences_ascending (sheet : String) (tree : Tree) :
    AscendingKeys (tree.movingReferences sheet) :=
  (tree.references_ascending sheet).filter _

theorem leaves_movingSkeleton (sheet : String) (tree : Tree) :
    (Skeleton.ofBindings (tree.movingReferences sheet)).leaves = tree.movingReferences sheet :=
  Skeleton.leaves_ofBindings (tree.movingReferences_ascending sheet) (.refl _)

theorem Alike.leadsTo {Similar : PlacedLeaf → PlacedLeaf → Prop} {start : Nat}
    {sheet sheet' : String} {tree tree' : Tree} {entry : Path × Reference} {place : Nat × Reference}
    (kinds : ∀ {before after}, Similar before after → before.lexeme.kind = after.lexeme.kind)
    (alike : tree.Alike Similar start sheet sheet' tree') (leads : tree.LeadsTo start entry place) :
    tree'.LeadsTo start entry place := by
  obtain ⟨same, lexeme, found, kind⟩ := leads
  obtain ⟨after, home, home', found', similar⟩ := alike.locateFrom found
  exact ⟨same, after, found', (kinds similar).symm.trans kind⟩

theorem leafCount_movingSkeleton (sheet : String) (tree : Tree) :
    (Skeleton.ofBindings (tree.movingReferences sheet)).leafCount =
      (tree.movingBinding 0 sheet).length := by
  rw [Skeleton.leafCount_eq_length, leaves_movingSkeleton,
    (tree.movingReferences_lead 0 sheet).length_eq]

theorem Alike.row_of_mem_movingBinding {Similar : PlacedLeaf → PlacedLeaf → Prop}
    {sheet sheet' : String} {tree tree' : Tree} {number : Nat} {ref : Reference}
    (kinds : ∀ {before after}, Similar before after → before.lexeme.kind = after.lexeme.kind)
    (alike : tree.Alike Similar 0 sheet sheet' tree')
    (bound : (number, ref) ∈ tree.movingBinding 0 sheet) :
    ∃ lexeme, tree'.rows[number]? = some (.leaf lexeme) ∧ lexeme.kind = .cellRef := by
  obtain ⟨⟨before, present, rfl, decoded⟩, -⟩ := mem_movingBinding.1 bound
  obtain ⟨after, present', same_number, similar⟩ := alike.exists_related present
  refine ⟨after.lexeme, ?_, ?_⟩
  · simpa [rows, same_number] using rowsFrom_getElem? 0 sheet' tree' after present'
  · rw [← kinds similar, PlacedLeaf.kind_of_reference? decoded]

theorem Alike.bind_skeleton {Similar : PlacedLeaf → PlacedLeaf → Prop} {sheet sheet' : String}
    {tree tree' : Tree}
    (kinds : ∀ {before after}, Similar before after → before.lexeme.kind = after.lexeme.kind)
    (alike : tree.Alike Similar 0 sheet sheet' tree') :
    (Skeleton.ofBindings (tree.movingReferences sheet)).bind tree' =
      .ok (tree.movingBinding 0 sheet) := by
  have tidy := Skeleton.ofBindings_tidy (tree.movingReferences sheet)
  have leads : List.Forall₂ (tree'.LeadsTo 0)
      (Skeleton.ofBindings (tree.movingReferences sheet)).leaves (tree.movingBinding 0 sheet) := by
    rw [leaves_movingSkeleton]
    apply (tree.movingReferences_lead 0 sheet).imp
    intro entry place leads
    exact alike.leadsTo kinds leads
  rw [Skeleton.bind, Skeleton.bindFrom_of_leads 0 tree' _ _ tidy leads]
  rfl

end Tree

end FormulaRuns
