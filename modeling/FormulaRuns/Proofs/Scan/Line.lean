import FormulaRuns.Proofs.Scan.Run
import Mathlib.Data.List.Nodup
import Mathlib.Data.List.SplitBy

/-!
The runs on one line. A run is found by comparing each cell with the one that the run began with.
Since formulas that are compatible with a third are so with each other, comparing neighbours gives
the same runs (`lineOutcomes_cells`).
-/
namespace FormulaRuns

section Runs

variable {α : Type} {related : α → α → Bool} {before after : List α} {x y : α}

theorem share_of_cuts {runs : List (List α)} (nonempty : [] ∉ runs)
    (cuts : runs.IsChain fun run run' => ∃ h h', related (run.getLast h) (run'.head h') = false)
    (joined : runs.flatten = before ++ x :: y :: after) (neighbours : related x y) :
    ∃ run ∈ runs, x ∈ run ∧ y ∈ run := by
  induction runs generalizing before with
  | nil => simp at joined
  | cons run runs ih =>
    have later_nonempty : [] ∉ runs := fun member => nonempty (List.mem_cons_of_mem _ member)
    have in_later (front : List α) (rest : runs.flatten = front ++ x :: y :: after) :
        ∃ run' ∈ run :: runs, x ∈ run' ∧ y ∈ run' := by
      obtain ⟨run', member, shared⟩ := ih later_nonempty cuts.tail rest
      exact ⟨run', List.mem_cons_of_mem _ member, shared⟩
    rw [List.flatten_cons, List.append_eq_append_iff] at joined
    rcases joined with ⟨front, -, rest⟩ | ⟨back, split, rest⟩
    · exact in_later front rest
    · rcases back with _ | ⟨z, _ | ⟨w, back⟩⟩
      · exact in_later [] rest.symm
      · -- The run ends with `x`, so the next one would begin with `y`.
        simp only [List.singleton_append, List.cons.injEq] at rest
        obtain ⟨rfl, rest⟩ := rest
        cases runs with
        | nil => simp at rest
        | cons next runs =>
          obtain ⟨run_nonempty, next_nonempty, cut⟩ := (List.isChain_cons_cons.1 cuts).1
          have last : run.getLast run_nonempty = x := by simp [split]
          have first : next.head next_nonempty = y := by
            rw [← Option.some_inj, ← List.head?_eq_some_head]
            have heads := congrArg List.head? rest
            simpa [List.head?_append, List.head?_eq_some_head next_nonempty] using heads.symm
          rw [last, first, neighbours] at cut
          cases cut
      · simp only [List.cons_append, List.cons.injEq] at rest
        obtain ⟨rfl, rfl, -⟩ := rest
        exact ⟨run, List.mem_cons_self, by simp [split], by simp [split]⟩

theorem exists_run_of_related (before after : List α) (neighbours : related x y) :
    ∃ run ∈ (before ++ x :: y :: after).splitBy related, x ∈ run ∧ y ∈ run :=
  share_of_cuts (List.nil_notMem_splitBy _ _) (List.isChain_getLast_head_splitBy _ _)
    (List.flatten_splitBy _ _) neighbours

theorem subset_of_unrelated (strangers : related x y = false) {run : List α}
    (member : run ∈ (before ++ x :: y :: after).splitBy related) :
    run ⊆ before ++ [x] ∨ run ⊆ y :: after := by
  have within {front : List α} (part : run ∈ front.splitBy related) : run ⊆ front := by
    intro z inside
    rw [← List.flatten_splitBy related front]
    exact List.mem_flatten_of_mem part inside
  have cut : (before ++ x :: y :: after).splitBy related =
      (before ++ [x]).splitBy related ++ (y :: after).splitBy related := by
    have appended := List.splitBy_append_cons (l := before ++ [x]) (a := y) after
      (r := related) (by simpa using strangers)
    simpa using appended
  rw [cut] at member
  exact (List.mem_append.1 member).imp within within

end Runs

theorem joins_isSome_iff {origin : Address} {role : Role} {tree : Tree} {visit : Visit} :
    (joins origin role tree visit).isSome ↔ ∃ tree', visit.2 = .formula role tree' ∧
      (checkTrees tree origin tree' visit.1).isCompatible := by
  simp only [Option.isSome_iff_exists, joins_eq_some_iff, isCompatible_checkTrees]
  constructor
  · rintro ⟨bindings, found, -⟩
    exact found
  · intro found
    exact ⟨_, found, rfl⟩

/-- Whether the second cell would be in the run if it began with the first. -/
def follows (first second : Visit) : Bool :=
  match first.2 with
  | .formula role tree => (joins first.1 role tree second).isSome
  | _ => false

theorem follows_iff {first second : Visit} :
    follows first second ↔ ∃ role tree tree', first.2 = .formula role tree ∧
      second.2 = .formula role tree' ∧
      (checkTrees tree first.1 tree' second.1).isCompatible := by
  obtain ⟨cell, reading⟩ := first
  cases reading with
  | skipped | literal => simp [follows]
  | formula role tree => simp [follows, joins_isSome_iff]

theorem follows_of_common {origin first second : Visit} (leads : follows origin first)
    (leads' : follows origin second) : follows first second := by
  obtain ⟨role, tree, tree', read, read', compatible⟩ := follows_iff.1 leads
  obtain ⟨role', same_tree, tree'', same_read, read'', compatible'⟩ := follows_iff.1 leads'
  cases read.symm.trans same_read
  have back := checkTrees_isCompatible_symm compatible
  exact follows_iff.2 ⟨role, tree', tree'', read', read'',
    checkTrees_isCompatible_trans back compatible'⟩

theorem follows_trans {first second third : Visit} (next : follows first second)
    (next' : follows second third) : follows first third := by
  obtain ⟨role, tree, tree', read, read', compatible⟩ := follows_iff.1 next
  obtain ⟨role', same_tree, tree'', same_read, read'', compatible'⟩ := follows_iff.1 next'
  cases read'.symm.trans same_read
  exact follows_iff.2 ⟨role, tree, tree'', read, read'',
    checkTrees_isCompatible_trans compatible compatible'⟩

theorem isChain_of_follow {origin : Visit} {run : List Visit}
    (follow : ∀ visit ∈ run, follows origin visit) :
    (origin :: run).IsChain fun first second => follows first second := by
  apply List.Pairwise.isChain
  refine List.pairwise_cons.2 ⟨follow, List.pairwise_of_forall_mem_list ?_⟩
  intro first present second present'
  exact follows_of_common (follow first present) (follow second present')

def Outcome.cells : Outcome → List Address
  | clustered cluster => cluster.cells
  | discarded cell => [cell]
  | skipped cell => [cell]

@[simp] theorem Outcome.cells_discarded (cell : Address) : (discarded cell).cells = [cell] := rfl

@[simp] theorem Outcome.cells_skipped (cell : Address) : (skipped cell).cells = [cell] := rfl

@[simp] theorem Outcome.cells_clustered (cluster : Cluster) :
    (clustered cluster).cells = cluster.cells := rfl

theorem runOutcome_cells {origin : Address} {role : Role} {tree : Tree} {followers : List Visit}
    (follow : ∀ visit ∈ followers, (joins origin role tree visit).isSome) :
    (runOutcome origin role tree followers).cells = origin :: followers.map (·.1) := by
  rcases List.eq_nil_or_concat followers with rfl | ⟨others, last, rfl⟩
  · rfl
  · obtain ⟨bindings, joined⟩ := Option.isSome_iff_exists.1 (follow last (by simp))
    simp [runOutcome, joined, Cluster.cells]

theorem follows_eq_false_of_cut {origin last next : Visit} {rest : List Visit}
    (ends : last ∈ (origin :: rest.takeWhile (follows origin)).getLast?)
    (begins : next ∈ (rest.dropWhile (follows origin)).head?) : follows last next = false := by
  have stopped : follows origin next = false := by
    have refused := List.head?_dropWhile_not (follows origin) rest
    rw [Option.mem_def.1 begins] at refused
    simpa using refused
  -- A cell that followed the last cell of a run would follow its first one, too.
  by_contra continued
  have next_follows : follows last next := by simpa using continued
  have joined : follows origin next := by
    rcases List.mem_cons.1 (List.mem_of_getLast? ends) with rfl | present
    · exact next_follows
    · exact follows_trans (List.mem_takeWhile_imp present) next_follows
  rw [stopped] at joined
  cases joined

theorem splitBy_follows_cons (origin : Visit) (rest : List Visit) :
    (origin :: rest).splitBy follows =
      (origin :: rest.takeWhile (follows origin)) ::
        (rest.dropWhile (follows origin)).splitBy follows := by
  have chain : (origin :: rest.takeWhile (follows origin)).IsChain
      fun first second => follows first second :=
    isChain_of_follow fun visit present => List.mem_takeWhile_imp present
  have cut := List.splitBy_append
    (fun _ ends _ begins => follows_eq_false_of_cut ends begins :
      ∀ last ∈ (origin :: rest.takeWhile (follows origin)).getLast?,
        ∀ next ∈ (rest.dropWhile (follows origin)).head?, follows last next = false)
  rw [List.cons_append, List.takeWhile_append_dropWhile,
    List.splitBy_of_isChain (List.cons_ne_nil _ _) chain] at cut
  exact cut

theorem splitBy_follows_alone (origin : Visit) (alone : follows origin = fun _ => false)
    (rest : List Visit) : (origin :: rest).splitBy follows = [origin] :: rest.splitBy follows := by
  rw [splitBy_follows_cons, alone]
  cases rest with
  | nil => rfl
  | cons => rfl

/-- The outcomes on a line are the runs of cells that follow one another. -/
theorem lineOutcomes_cells (line : List Visit) :
    (lineOutcomes line).map (·.cells) = (line.splitBy follows).map (·.map (·.1)) := by
  fun_induction lineOutcomes line with
  | case1 => rfl
  | case2 cell rest ih => simp [splitBy_follows_alone (cell, .skipped) rfl, ih]
  | case3 cell rest ih => simp [splitBy_follows_alone (cell, .literal) rfl, ih]
  | case4 cell role tree rest continues ih =>
    have run_cells : (runOutcome cell role tree (rest.takeWhile continues)).cells =
        cell :: (rest.takeWhile continues).map (·.1) := by
      apply runOutcome_cells
      intro visit present
      exact List.mem_takeWhile_imp (p := continues) present
    rw [splitBy_follows_cons, List.map_cons, run_cells, ih]
    rfl

theorem flatMap_lineOutcomes_cells (line : List Visit) :
    (lineOutcomes line).flatMap (·.cells) = line.map (·.1) := by
  rw [List.flatMap_def, lineOutcomes_cells, ← List.map_flatten, List.flatten_splitBy]

theorem share_outcome_iff {before after : List Visit} {first second : Visit}
    (distinct : ((before ++ first :: second :: after).map (·.1)).Nodup) :
    (∃ outcome ∈ lineOutcomes (before ++ first :: second :: after),
      first.1 ∈ outcome.cells ∧ second.1 ∈ outcome.cells) ↔ follows first second := by
  have same_runs := lineOutcomes_cells (before ++ first :: second :: after)
  constructor
  · rintro ⟨outcome, member, inside, inside'⟩
    have run_member : outcome.cells ∈
        ((before ++ first :: second :: after).splitBy follows).map (·.map (·.1)) :=
      same_runs ▸ List.mem_map_of_mem member
    obtain ⟨run, present, cells⟩ := List.mem_map.1 run_member
    rw [← cells] at inside inside'
    by_contra strangers
    have sides : ((before ++ [first]).map (·.1) ++ (second :: after).map (·.1)).Nodup := by
      simpa using distinct
    have apart := List.disjoint_of_nodup_append sides
    rcases subset_of_unrelated (by simpa using strangers) present with left | right
    · exact apart (List.map_subset _ left inside') (by simp)
    · exact apart (by simp) (List.map_subset _ right inside)
  · intro next
    obtain ⟨run, present, inside, inside'⟩ := exists_run_of_related before after next
    have outcome_member : run.map (·.1) ∈
        (lineOutcomes (before ++ first :: second :: after)).map (·.cells) :=
      same_runs ▸ List.mem_map_of_mem present
    obtain ⟨outcome, member, cells⟩ := List.mem_map.1 outcome_member
    refine ⟨outcome, member, ?_, ?_⟩
    · rw [cells]
      exact List.mem_map_of_mem inside
    · rw [cells]
      exact List.mem_map_of_mem inside'

end FormulaRuns
