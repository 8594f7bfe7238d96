import FormulaRuns.Pattern.Slots
import FormulaRuns.Proofs.Pattern.Skeleton

/-!
An array of slots that was built path by path stands for the skeleton of these paths. Each slot is
one node of the skeleton and each node has a slot of its own (`Holds`), so putting a path in changes
no slot but those on the way (`insertFrom_stands`).
-/
namespace FormulaRuns

namespace Slots

mutual

/-- What is linked to a slot is a skeleton; `used` are the numbers of its slots. -/
inductive Stands (slots : Slots) : Nat → Skeleton → List Nat → Prop
  | node {here : Nat} {own : Option Reference} {links : List (Nat × Nat)}
      {branches : List (Nat × Skeleton)} {used : List Nat} (slot : slots[here]? = some ⟨own, links⟩)
      (inner : BranchesStand slots here links branches used) :
      Stands slots here (.node own branches) (here :: used)

inductive BranchesStand (slots : Slots) :
    Nat → List (Nat × Nat) → List (Nat × Skeleton) → List Nat → Prop
  | nil {here : Nat} : BranchesStand slots here [] [] []
  | cons {here step next : Nat} {branch : Skeleton} {links : List (Nat × Nat)}
      {branches : List (Nat × Skeleton)} {used others : List Nat} (later : here < next)
      (first : Stands slots next branch used)
      (rest : BranchesStand slots here links branches others) :
      BranchesStand slots here ((step, next) :: links) ((step, branch) :: branches) (used ++ others)

end

/-- The slots stand for the skeleton, and none of them is left over. -/
def Holds (slots : Slots) (skeleton : Skeleton) : Prop :=
  ∃ used, slots.Stands 0 skeleton used ∧ used.Perm (List.range slots.size)

variable {slots slots' : Slots} {here step next : Nat} {skeleton : Skeleton}
  {links : List (Nat × Nat)} {branches : List (Nat × Skeleton)} {used : List Nat}

theorem Stands.self_mem (stands : slots.Stands here skeleton used) : here ∈ used := by
  cases stands
  exact List.mem_cons_self

theorem lt_size_of_getElem? {slot : Slot} (found : slots[here]? = some slot) : here < slots.size :=
  (Array.getElem?_eq_some_iff.1 found).1

mutual

theorem Stands.lt_size : ∀ {skeleton : Skeleton} {here : Nat} {used : List Nat},
    slots.Stands here skeleton used → ∀ number ∈ used, number < slots.size
  | .node _ _, _, _, .node slot inner, number, member => by
    rcases List.mem_cons.1 member with rfl | member
    · exact lt_size_of_getElem? slot
    · exact BranchesStand.lt_size inner number member

theorem BranchesStand.lt_size : ∀ {branches : List (Nat × Skeleton)} {here : Nat}
    {links : List (Nat × Nat)} {used : List Nat}, slots.BranchesStand here links branches used →
      ∀ number ∈ used, number < slots.size
  | [], _, _, _, .nil, _, member => by cases member
  | _ :: _, _, _, _, .cons _ first others, number, member => by
    rcases List.mem_append.1 member with member | member
    · exact Stands.lt_size first number member
    · exact BranchesStand.lt_size others number member

end

mutual

/-- A skeleton stands as long as its own slots stay the same. -/
theorem Stands.frame : ∀ {skeleton : Skeleton} {here : Nat} {used : List Nat},
    slots.Stands here skeleton used → (∀ number ∈ used, slots'[number]? = slots[number]?) →
      slots'.Stands here skeleton used
  | .node _ _, here, _, .node slot inner, same => by
    have own := (same here List.mem_cons_self).trans slot
    exact .node own (BranchesStand.frame inner fun number member =>
      same number (List.mem_cons_of_mem _ member))

theorem BranchesStand.frame : ∀ {branches : List (Nat × Skeleton)} {here : Nat}
    {links : List (Nat × Nat)} {used : List Nat}, slots.BranchesStand here links branches used →
      (∀ number ∈ used, slots'[number]? = slots[number]?) →
      slots'.BranchesStand here links branches used
  | [], _, _, _, .nil, _ => .nil
  | _ :: _, _, _, _, .cons later first others, same =>
    .cons later
      (Stands.frame first fun number member => same number (List.mem_append_left _ member))
      (BranchesStand.frame others fun number member => same number (List.mem_append_right _ member))

end

theorem BranchesStand.change_linked (change : Skeleton → Skeleton)
    (stands : slots.BranchesStand here links branches used)
    (linked : entryAt step links = some next) :
    ∃ before own after branch, used = before ++ own ++ after ∧ here < next ∧
      slots.Stands next branch own ∧
      ∀ {slots' : Slots} {own' : List Nat},
        (∀ number ∈ before ++ after, slots'[number]? = slots[number]?) →
        slots'.Stands next (change branch) own' →
        slots'.BranchesStand here links (Skeleton.alterBranch step change branches)
          (before ++ own' ++ after) := by
  induction branches generalizing links used with
  | nil =>
    cases stands
    cases linked
  | cons head rest ih =>
    cases stands with
    | @cons _ other number branch links _ own others later first rest_stand =>
      simp only [entryAt] at linked
      simp only [Skeleton.alterBranch]
      cases order : compare step other with
      | lt => simp [order] at linked
      | eq =>
        simp only [order, Option.some.injEq] at linked
        subst linked
        refine ⟨[], own, others, branch, rfl, later, first, ?_⟩
        intro slots' own' same changed
        exact .cons later changed (rest_stand.frame same)
      | gt =>
        simp only [order] at linked
        obtain ⟨before, inner, after, found, rfl, next_later, stands, change_back⟩ :=
          ih rest_stand linked
        refine ⟨own ++ before, inner, after, found, by simp, next_later, stands, ?_⟩
        intro slots' own' same changed
        simp only [List.append_assoc, List.forall_mem_append] at same
        -- The slots of this branch are none of those that change behind it.
        have kept := first.frame same.1
        have others_changed := change_back (List.forall_mem_append.2 same.2) changed
        simpa using BranchesStand.cons later kept others_changed

theorem BranchesStand.add_link (change : Skeleton → Skeleton)
    (stands : slots.BranchesStand here links branches used) (unlinked : entryAt step links = none) :
    ∃ before after, used = before ++ after ∧
      ∀ {slots' : Slots} {next : Nat} {own' : List Nat},
        (∀ number ∈ used, slots'[number]? = slots[number]?) → here < next →
        slots'.Stands next (change .empty) own' →
        slots'.BranchesStand here (insertEntry step next links)
          (Skeleton.alterBranch step change branches) (before ++ own' ++ after) := by
  induction branches generalizing links used with
  | nil =>
    cases stands
    refine ⟨[], [], rfl, ?_⟩
    intro slots' next own' _ later changed
    exact .cons later changed .nil
  | cons head rest ih =>
    have whole := stands
    cases stands with
    | @cons _ other number branch links _ own others later first rest_stand =>
      simp only [entryAt] at unlinked
      simp only [Skeleton.alterBranch, insertEntry]
      cases order : compare step other with
      | lt =>
        refine ⟨[], own ++ others, rfl, ?_⟩
        intro slots' next own' same next_later changed
        exact .cons next_later changed (whole.frame same)
      | eq => simp [order] at unlinked
      | gt =>
        simp only [order] at unlinked
        obtain ⟨before, after, rfl, add_back⟩ := ih rest_stand unlinked
        refine ⟨own ++ before, after, by simp, ?_⟩
        intro slots' next own' same next_later changed
        obtain ⟨first_same, rest_same⟩ := List.forall_mem_append.1 same
        simpa using BranchesStand.cons later (first.frame first_same)
          (add_back rest_same next_later changed)

/-- The slots of a skeleton were changed and new ones added to it, with no other slot touched. -/
structure Grown (slots : Slots) (used : List Nat) (slots' : Slots) (used' : List Nat) : Prop where
  size_le : slots.size ≤ slots'.size
  numbers : used'.Perm (used ++ List.range' slots.size (slots'.size - slots.size))
  kept : ∀ number < slots.size, number ∉ used → slots'[number]? = slots[number]?

theorem linksAt_eq {own : Option Reference} (slot : slots[here]? = some ⟨own, links⟩) :
    slots.linksAt here = links := by
  simp [linksAt, slot]

@[simp] theorem size_mark (slots : Slots) (here : Nat) (ref : Reference) :
    (slots.mark here ref).size = slots.size := by
  simp [mark]

@[simp] theorem size_grow (slots : Slots) (here step : Nat) :
    (slots.grow here step).size = slots.size + 1 := by
  simp [grow]

theorem getElem?_mark_self {own : Option Reference} (ref : Reference)
    (slot : slots[here]? = some ⟨own, links⟩) :
    (slots.mark here ref)[here]? = some ⟨some ref, links⟩ := by
  simp [mark, Array.getElem?_modify, slot]

theorem getElem?_mark_other {number : Nat} (ref : Reference) (other : number ≠ here) :
    (slots.mark here ref)[number]? = slots[number]? := by
  simp [mark, Array.getElem?_modify, other.symm]

theorem getElem?_grow_self {own : Option Reference} (step : Nat)
    (slot : slots[here]? = some ⟨own, links⟩) :
    (slots.grow here step)[here]? = some ⟨own, insertEntry step slots.size links⟩ := by
  have inside := lt_size_of_getElem? slot
  simp [grow, Array.getElem?_modify, Array.getElem?_push, Nat.ne_of_lt inside, slot]

theorem getElem?_grow_new (step : Nat) (inside : here < slots.size) :
    (slots.grow here step)[slots.size]? = some ⟨none, []⟩ := by
  rw [grow, Array.getElem?_modify, if_neg (Nat.ne_of_lt inside), Array.getElem?_push_size]

theorem getElem?_grow_other {number : Nat} (step : Nat) (inside : number < slots.size)
    (other : number ≠ here) : (slots.grow here step)[number]? = slots[number]? := by
  simp [grow, Array.getElem?_modify, Array.getElem?_push, Nat.ne_of_lt inside, other.symm]

theorem perm_behind {front own own' added back : List Nat} (numbers : own'.Perm (own ++ added)) :
    (front ++ own' ++ back).Perm (front ++ own ++ back ++ added) := by
  have moved : (front ++ own ++ (added ++ back)).Perm (front ++ own ++ (back ++ added)) :=
    List.perm_append_comm.append_left _
  have inside := (numbers.append_left front).append_right back
  simp only [List.append_assoc] at inside moved ⊢
  exact inside.trans moved

theorem Grown.linked {before own own' after : List Nat} (grown : Grown slots own slots' own') :
    Grown slots (here :: (before ++ own ++ after)) slots' (here :: (before ++ own' ++ after)) where
  size_le := grown.size_le
  numbers := (perm_behind grown.numbers).cons here
  kept number below outside := grown.kept number below fun member => outside (by simp [member])

theorem Grown.added {before own' after : List Nat}
    (grown : Grown (slots.grow here step) [slots.size] slots' own') :
    Grown slots (here :: (before ++ after)) slots' (here :: (before ++ own' ++ after)) where
  size_le := by
    have size_le := grown.size_le
    rw [size_grow] at size_le
    omega
  numbers := by
    have size_le := grown.size_le
    rw [size_grow] at size_le
    have numbers : own'.Perm ([] ++ List.range' slots.size (slots'.size - slots.size)) := by
      have count : slots'.size - slots.size = slots'.size - (slots.size + 1) + 1 := by omega
      rw [count, List.range'_succ]
      simpa using grown.numbers
    simpa using (perm_behind numbers).cons here
  kept number below outside := by
    have old : number ∉ [slots.size] := by simpa using Nat.ne_of_lt below
    rw [grown.kept number (by rw [size_grow]; omega) old]
    exact getElem?_grow_other step below (List.ne_of_not_mem_cons outside)

/-- Slots go on standing for a skeleton while a reference is put at the path in both. -/
def Inserts (ref : Reference) (path : Path) : Prop :=
  ∀ {slots : Slots} {here : Nat} {skeleton : Skeleton} {used : List Nat},
    slots.Stands here skeleton used → used.Nodup →
      ∃ used', Grown slots used (insertFrom ref path here slots) used' ∧
        (insertFrom ref path here slots).Stands here (skeleton.insert ref path) used'

section

variable {ref : Reference} {path : Path} {own : Option Reference}

theorem inserts_nil (ref : Reference) : Inserts ref [] := by
  rintro slots here _ _ ⟨slot, inner⟩ distinct
  have unmarked {number : Nat} (other : number ≠ here) :
      (slots.mark here ref)[number]? = slots[number]? :=
    getElem?_mark_other ref other
  refine ⟨_, ⟨?_, ?_, ?_⟩, .node (getElem?_mark_self ref slot) (inner.frame ?_)⟩
  · simp [insertFrom]
  · simp [insertFrom]
  · intro number _ outside
    exact unmarked (List.ne_of_not_mem_cons outside)
  · intro number member
    refine unmarked ?_
    rintro rfl
    exact (List.nodup_cons.1 distinct).1 member

theorem Inserts.linked (inserts : Inserts ref path) (slot : slots[here]? = some ⟨own, links⟩)
    (inner : slots.BranchesStand here links branches used) (distinct : (here :: used).Nodup)
    (found : entryAt step links = some next) :
    ∃ used', Grown slots (here :: used) (insertFrom ref path next slots) used' ∧
      (insertFrom ref path next slots).Stands here
        (.node own (Skeleton.alterBranch step (·.insert ref path) branches)) used' := by
  have below := inner.lt_size
  obtain ⟨own_slot, inner_distinct⟩ := List.nodup_cons.1 distinct
  obtain ⟨before, own, after, branch, rfl, -, branch_stands, change⟩ :=
    inner.change_linked (·.insert ref path) found
  obtain ⟨front_distinct, -, back_apart⟩ := List.nodup_append.1 inner_distinct
  obtain ⟨-, own_distinct, front_apart⟩ := List.nodup_append.1 front_distinct
  obtain ⟨own', grown, stands⟩ := inserts branch_stands own_distinct
  have elsewhere : ∀ number ∈ before ++ after,
      (insertFrom ref path next slots)[number]? = slots[number]? := by
    intro number member
    refine grown.kept number (below number ?_) ?_
    · rcases List.mem_append.1 member with member | member <;> simp [member]
    · intro own_member
      rcases List.mem_append.1 member with member | member
      · exact front_apart number member number own_member rfl
      · exact back_apart number (List.mem_append_right _ own_member) number member rfl
  have here_kept := grown.kept here (lt_size_of_getElem? slot) fun member =>
    own_slot (by simp [member])
  exact ⟨_, grown.linked, .node (here_kept.trans slot) (change elsewhere stands)⟩

theorem Inserts.added (inserts : Inserts ref path) (slot : slots[here]? = some ⟨own, links⟩)
    (inner : slots.BranchesStand here links branches used) (distinct : (here :: used).Nodup)
    (absent : entryAt step links = none) :
    ∃ used', Grown slots (here :: used)
        (insertFrom ref path slots.size (slots.grow here step)) used' ∧
      (insertFrom ref path slots.size (slots.grow here step)).Stands here
        (.node own (Skeleton.alterBranch step (·.insert ref path) branches)) used' := by
  have inside := lt_size_of_getElem? slot
  have below := inner.lt_size
  obtain ⟨before, after, rfl, add⟩ := inner.add_link (·.insert ref path) absent
  have fresh : (slots.grow here step).Stands slots.size .empty [slots.size] :=
    .node (getElem?_grow_new step inside) .nil
  obtain ⟨own', grown, stands⟩ := inserts fresh (by simp)
  have old {number : Nat} (number_below : number < slots.size) :
      (insertFrom ref path slots.size (slots.grow here step))[number]? =
        (slots.grow here step)[number]? := by
    refine grown.kept number (by rw [size_grow]; omega) ?_
    simpa using Nat.ne_of_lt number_below
  have elsewhere : ∀ number ∈ before ++ after,
      (insertFrom ref path slots.size (slots.grow here step))[number]? = slots[number]? := by
    intro number member
    rw [old (below number member)]
    refine getElem?_grow_other step (below number member) ?_
    rintro rfl
    exact (List.nodup_cons.1 distinct).1 member
  have here_linked := (old inside).trans (getElem?_grow_self step slot)
  exact ⟨_, grown.added, .node here_linked (add elsewhere inside stands)⟩

end

theorem insertFrom_stands (ref : Reference) (path : Path) : Inserts ref path := by
  induction path with
  | nil => exact inserts_nil ref
  | cons step path ih =>
    rintro slots here _ _ ⟨slot, inner⟩ distinct
    rw [insertFrom, linksAt_eq slot, Skeleton.insert]
    cases found : entryAt step _ with
    | some next => exact ih.linked slot inner distinct found
    | none => exact ih.added slot inner distinct found

theorem start_holds : start.Holds .empty :=
  ⟨[0], .node rfl .nil, .refl _⟩

theorem Holds.insert (holds : slots.Holds skeleton) (ref : Reference) (path : Path) :
    (slots.insert ref path).Holds (skeleton.insert ref path) := by
  obtain ⟨used, stands, numbers⟩ := holds
  have distinct : used.Nodup := numbers.nodup_iff.2 List.nodup_range
  obtain ⟨used', grown, stands'⟩ := insertFrom_stands ref path stands distinct
  refine ⟨used', stands', ?_⟩
  have size_le : slots.size ≤ (slots.insert ref path).size := grown.size_le
  have range : List.range slots.size ++
        List.range' slots.size ((slots.insert ref path).size - slots.size) =
      List.range (slots.insert ref path).size := by
    calc
      _ = List.range' 0 slots.size ++
          List.range' (0 + slots.size) ((slots.insert ref path).size - slots.size) := by
        rw [Nat.zero_add, List.range_eq_range']
      _ = List.range' 0 (slots.insert ref path).size := by
        rw [List.range'_append_1, Nat.add_sub_cancel' size_le]
      _ = List.range (slots.insert ref path).size := List.range_eq_range'.symm
  rw [← range]
  exact grown.numbers.trans (numbers.append_right _)

theorem Holds.foldl_insert (holds : slots.Holds skeleton) (entries : Bindings) :
    (entries.foldl (fun slots entry => slots.insert entry.2 entry.1) slots).Holds
      (entries.foldl (fun skeleton entry => skeleton.insert entry.2 entry.1) skeleton) := by
  induction entries generalizing slots skeleton with
  | nil => exact holds
  | cons entry rest ih => exact ih (holds.insert entry.2 entry.1)

theorem ofBindings_holds (entries : Bindings) :
    (ofBindings entries).Holds (.ofBindings entries) :=
  start_holds.foldl_insert entries

theorem leavesFrom_eq {own : Option Reference} (path : Path)
    (slot : slots[here]? = some ⟨own, links⟩)
    (later : ∀ link ∈ links, here < link.2 ∧ link.2 < slots.size) :
    slots.leavesFrom path here = own.toList.map (fun ref => (path, ref)) ++
      links.flatMap fun link => slots.leavesFrom (path ++ [link.1]) link.2 := by
  rw [leavesFrom, slot]
  simp only [List.flatMap_def]
  congr 2
  exact List.map_congr_left fun link member => dif_pos (later link member)

theorem BranchesStand.later (stands : slots.BranchesStand here links branches used) :
    ∀ link ∈ links, here < link.2 ∧ link.2 < slots.size := by
  induction branches generalizing links used with
  | nil =>
    cases stands
    simp
  | cons first rest ih =>
    cases stands with
    | cons later first rest_stand =>
      intro link member
      rcases List.mem_cons.1 member with rfl | member
      · exact ⟨later, first.lt_size _ first.self_mem⟩
      · exact ih rest_stand link member

mutual

theorem Stands.leavesFrom : ∀ {skeleton : Skeleton} {here : Nat} {used : List Nat} (path : Path),
    slots.Stands here skeleton used →
      slots.leavesFrom path here = skeleton.leaves.map fun (rest, ref) => (path ++ rest, ref)
  | .node _ _, _, _, path, .node slot inner => by
    rw [leavesFrom_eq path slot inner.later, BranchesStand.leavesFrom path inner, Skeleton.leaves]
    simp

theorem BranchesStand.leavesFrom : ∀ {branches : List (Nat × Skeleton)} {here : Nat}
    {links : List (Nat × Nat)} {used : List Nat} (path : Path),
    slots.BranchesStand here links branches used →
      (links.flatMap fun link => slots.leavesFrom (path ++ [link.1]) link.2) =
        (Skeleton.branchLeaves branches).map fun (rest, ref) => (path ++ rest, ref)
  | [], _, _, _, _, .nil => rfl
  | _ :: _, _, _, _, path, .cons _ first rest => by
    rw [List.flatMap_cons, Stands.leavesFrom _ first, BranchesStand.leavesFrom path rest,
      Skeleton.branchLeaves]
    simp

end

theorem Holds.leaves (holds : slots.Holds skeleton) : slots.leaves = skeleton.leaves := by
  obtain ⟨used, stands, -⟩ := holds
  rw [Slots.leaves, stands.leavesFrom]
  simp

mutual

theorem Stands.count : ∀ {skeleton : Skeleton} {here : Nat} {used : List Nat},
    slots.Stands here skeleton used →
      used.countP (fun number => (slots[number]?.bind (·.reference)).isSome) = skeleton.leafCount
  | .node own _, _, _, .node slot inner => by
    rw [List.countP_cons, BranchesStand.count inner, Skeleton.leafCount, slot, Nat.add_comm]
    cases own <;> rfl

theorem BranchesStand.count : ∀ {branches : List (Nat × Skeleton)} {here : Nat}
    {links : List (Nat × Nat)} {used : List Nat}, slots.BranchesStand here links branches used →
      used.countP (fun number => (slots[number]?.bind (·.reference)).isSome) =
        Skeleton.branchCount branches
  | [], _, _, _, .nil => rfl
  | _ :: _, _, _, _, .cons _ first rest => by
    rw [List.countP_append, Stands.count first, BranchesStand.count rest, Skeleton.branchCount]

end

theorem Holds.leafCount (holds : slots.Holds skeleton) : slots.leafCount = skeleton.leafCount := by
  obtain ⟨used, stands, numbers⟩ := holds
  have rows : slots.toList.map some = (List.range slots.size).map (slots[·]?) := by
    apply List.ext_getElem
    · simp
    · intro number inside _
      simp at inside
      simp [inside]
  calc
    slots.leafCount =
        (slots.toList.map some).countP fun slot? => (slot?.bind (·.reference)).isSome := by
      rw [List.countP_map]
      rfl
    _ = (List.range slots.size).countP fun number =>
        (slots[number]?.bind (·.reference)).isSome := by
      rw [rows, List.countP_map]
      rfl
    _ = used.countP fun number => (slots[number]?.bind (·.reference)).isSome :=
      (numbers.countP_eq _).symm
    _ = skeleton.leafCount := stands.count

end Slots

/-- The slots of a table of references list the table in the order of its paths, whatever the order
in which it was put in; so do its distinct references come in their own order. -/
theorem variabilitySlots_of_distinct {entries : Bindings}
    (distinct : (entries.map (·.1)).Nodup) :
    (variabilitySlots entries).1.leafCount = entries.length ∧
      AscendingKeys (variabilitySlots entries).1.leaves ∧
      (variabilitySlots entries).1.leaves.Perm entries ∧
      Ascending (variabilitySlots entries).2 ∧
      (∀ ref, ref ∈ (variabilitySlots entries).2 ↔ ∃ path, (path, ref) ∈ entries) ∧
      ∀ others : Bindings, others.Perm entries →
        (variabilitySlots others).1.leaves = (variabilitySlots entries).1.leaves ∧
          (variabilitySlots others).2 = (variabilitySlots entries).2 := by
  have holds (entries : Bindings) : (variabilitySlots entries).1.Holds (.ofBindings entries) :=
    Slots.ofBindings_holds entries
  have leaves_ascending (entries : Bindings) :
      AscendingKeys (variabilitySlots entries).1.leaves := by
    rw [(holds entries).leaves]
    exact Skeleton.leaves_ascending entries
  have leaves_perm {entries : Bindings} (distinct : (entries.map (·.1)).Nodup) :
      (variabilitySlots entries).1.leaves.Perm entries := by
    rw [(holds entries).leaves]
    exact Skeleton.leaves_perm distinct
  have ascending (entries : Bindings) : Ascending (variabilitySlots entries).2 :=
    sortDistinct_ascending _
  have members (entries : Bindings) (ref : Reference) :
      ref ∈ (variabilitySlots entries).2 ↔ ∃ path, (path, ref) ∈ entries := by
    simp [variabilitySlots, mem_sortDistinct]
  refine ⟨?_, leaves_ascending entries, leaves_perm distinct, ascending entries, members entries,
    ?_⟩
  · rw [(holds entries).leafCount, Skeleton.leafCount_eq_length,
      (Skeleton.leaves_perm distinct).length_eq]
  · intro others reordered
    have others_distinct := (reordered.map (·.1)).nodup_iff.2 distinct
    have same := (leaves_perm others_distinct).trans (reordered.trans (leaves_perm distinct).symm)
    refine ⟨(leaves_ascending others).eq_of_perm (leaves_ascending entries) same, ?_⟩
    apply (ascending others).eq_of_mem_iff (ascending entries)
    intro ref
    simp only [members, reordered.mem_iff]

theorem variabilitySlots_of_nested :
    let first : Reference := ⟨"S", 1, 1, false, false⟩
    let second : Reference := ⟨"S", 1, 2, false, true⟩
    let entries : Bindings := [([1, 2, 0], first), ([0], second), ([1], second), ([], first)]
    (entries.map (·.1)).Nodup ∧
      (variabilitySlots entries).1.leaves =
        [([], first), ([0], second), ([1], second), ([1, 2, 0], first)] ∧
      (variabilitySlots entries).1.leafCount = 4 := by
  intro first second entries
  have distinct : (entries.map (·.1)).Nodup := by decide
  obtain ⟨count, ascending, perm, -⟩ := variabilitySlots_of_distinct distinct
  have sorted : AscendingKeys
      [([], first), ([0], second), ([1], second), (([1, 2, 0] : Path), first)] := by
    simp only [AscendingKeys]
    decide
  exact ⟨distinct, ascending.eq_of_perm sorted (perm.trans (by decide)), count⟩

end FormulaRuns
