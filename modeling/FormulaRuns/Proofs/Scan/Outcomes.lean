import FormulaRuns.Scan.Report
import Mathlib.Data.List.TakeWhile

/-!
What a scan comes to. The scanner goes from cell to cell and keeps the run that it is in; what it
leaves behind on a line can be told from the line: the first cell of a run with all that follow it,
then the rest (`lineOutcomes`). A step keeps the run of the cells seen so far (`pending`), and so
the whole line comes to its outcomes (`scanFrom_eq`).
-/
namespace FormulaRuns

inductive Reading where
  /-- No role, or a formula that cannot be read. -/
  | skipped
  /-- A cell with a role that holds no formula. -/
  | literal
  | formula (role : Role) (tree : Tree)

def Source.reading (source : Source) (cell : Address) : Reading :=
  match source.role cell with
  | none => .skipped
  | some role =>
    match source.formula cell with
    | none => .literal
    | some text =>
      match Formula.parse text with
      | .ok formula => .formula role formula.root
      | .error _ => .skipped

abbrev Visit := Address × Reading

def Source.visits (source : Source) (line : List Address) : List Visit :=
  line.map fun cell => (cell, source.reading cell)

theorem Source.visits_cells (source : Source) (line : List Address) :
    (source.visits line).map (·.1) = line := by
  simp [visits, Function.comp_def]

inductive Outcome where
  | clustered (cluster : Cluster)
  | discarded (cell : Address)
  | skipped (cell : Address)

/-- What a cell's formula has in common with the one that a run began with, if it continues the
run. -/
def joins (origin : Address) (role : Role) (tree : Tree) : Visit → Option Bindings
  | (cell, .formula role' tree') =>
    if role = role' then (checkTrees tree origin tree' cell).bindings? else none
  | _ => none

def runOutcome (origin : Address) (role : Role) (tree : Tree) (followers : List Visit) : Outcome :=
  match followers.getLast?.bind (joins origin role tree) with
  | some bindings =>
    let (skeleton, references) := variability bindings
    .clustered ⟨origin, followers.map (·.1), role, skeleton, references⟩
  | none => .discarded origin

def lineOutcomes : List Visit → List Outcome
  | [] => []
  | (cell, .skipped) :: rest => .skipped cell :: lineOutcomes rest
  | (cell, .literal) :: rest => .discarded cell :: lineOutcomes rest
  | (cell, .formula role tree) :: rest =>
    let continues := fun visit => (joins cell role tree visit).isSome
    runOutcome cell role tree (rest.takeWhile continues) :: lineOutcomes (rest.dropWhile continues)
termination_by line => line.length
decreasing_by
  · simp
  · simp
  · exact Nat.lt_succ_of_le (List.dropWhile_sublist _).length_le

/-- The outcomes on the rest of a line, behind the first cells of a run. -/
def runOutcomes (origin : Address) (role : Role) (tree : Tree) (followers rest : List Visit) :
    List Outcome :=
  let continues := fun visit => (joins origin role tree visit).isSome
  runOutcome origin role tree (followers ++ rest.takeWhile continues) ::
    lineOutcomes (rest.dropWhile continues)

section Runs

variable {origin cell : Address} {role : Role} {tree : Tree} {followers rest : List Visit}
  {visit : Visit}

theorem lineOutcomes_formula :
    lineOutcomes ((cell, .formula role tree) :: rest) = runOutcomes cell role tree [] rest := by
  rw [lineOutcomes]
  rfl

theorem runOutcomes_nil :
    runOutcomes origin role tree followers [] = [runOutcome origin role tree followers] := by
  simp [runOutcomes, lineOutcomes]

theorem runOutcomes_joined {bindings : Bindings}
    (joined : joins origin role tree visit = some bindings) :
    runOutcomes origin role tree followers (visit :: rest) =
      runOutcomes origin role tree (followers ++ [visit]) rest := by
  simp [runOutcomes, joined]

theorem runOutcomes_refused (refused : joins origin role tree visit = none) :
    runOutcomes origin role tree followers (visit :: rest) =
      runOutcome origin role tree followers :: lineOutcomes (visit :: rest) := by
  simp [runOutcomes, refused]

end Runs

def outcomesOf (source : Source) (lines : List (List Address)) : List Outcome :=
  lines.flatMap fun line => lineOutcomes (source.visits line)

namespace Report

def cluster? : Outcome → Option Cluster
  | .clustered cluster => some cluster
  | _ => none

def discarded? : Outcome → Option Address
  | .discarded cell => some cell
  | _ => none

def skipped? : Outcome → Option Address
  | .skipped cell => some cell
  | _ => none

def ofOutcomes (visited : Nat) (outcomes : List Outcome) : Report where
  registry := (outcomes.filterMap cluster?).foldl Registry.insert .empty
  discarded := outcomes.filterMap discarded?
  skipped := outcomes.filterMap skipped?
  visited := visited

def record (report : Report) : Outcome → Report
  | .clustered cluster => report.register cluster
  | .discarded cell => report.discard cell
  | .skipped cell => report.skip cell

def recordAll (report : Report) (cells : Nat) (outcomes : List Outcome) : Report :=
  (outcomes.foldl record report).visit cells

theorem record_visit (report : Report) (outcome : Outcome) (cells : Nat) :
    (report.visit cells).record outcome = (report.record outcome).visit cells := by
  cases outcome <;> rfl

theorem recordAll_visit (report : Report) (cells others : Nat) (outcomes : List Outcome) :
    (report.visit cells).recordAll others outcomes = report.recordAll (cells + others) outcomes := by
  induction outcomes generalizing report with
  | nil => simp [recordAll, visit, Nat.add_assoc]
  | cons outcome outcomes ih =>
    simp only [recordAll, List.foldl_cons, record_visit] at ih ⊢
    exact ih (report.record outcome)

theorem recordAll_recordAll (report : Report) (cells others : Nat) (outcomes later : List Outcome) :
    (report.recordAll cells outcomes).recordAll others later =
      report.recordAll (cells + others) (outcomes ++ later) := by
  change ((outcomes.foldl record report).visit cells).recordAll others later = _
  rw [recordAll_visit, recordAll, recordAll, List.foldl_append]

theorem foldl_record (outcomes : List Outcome) (report : Report) :
    outcomes.foldl record report =
      ⟨(outcomes.filterMap cluster?).foldl Registry.insert report.registry,
        report.discarded ++ outcomes.filterMap discarded?,
        report.skipped ++ outcomes.filterMap skipped?, report.visited⟩ := by
  induction outcomes generalizing report with
  | nil => simp
  | cons outcome outcomes ih =>
    rw [List.foldl_cons, ih]
    cases outcome <;>
      simp [record, register, discard, skip, cluster?, discarded?, skipped?, List.filterMap_cons]

theorem recordAll_empty (cells : Nat) (outcomes : List Outcome) :
    empty.recordAll cells outcomes = ofOutcomes cells outcomes := by
  simp [recordAll, foldl_record, visit, empty, ofOutcomes]

end Report

namespace ScanState

/-- The run that began in a cell and that these others have joined. -/
def pending (origin : Address) (role : Role) (tree : Tree) (followers : List Visit) : ScanState :=
  .hasOrigin ⟨origin, role, tree, followers.map (·.1),
    (followers.getLast?.bind (joins origin role tree)).map variability⟩

variable {source : Source} {origin cell : Address} {role : Role} {tree : Tree}
  {followers : List Visit}

theorem flush_pending (report : Report) :
    (pending origin role tree followers).flush report =
      report.record (runOutcome origin role tree followers) := by
  cases last : followers.getLast?.bind (joins origin role tree) with
  | none => simp [pending, flush, runOutcome, last, Report.record]
  | some bindings =>
    have several : followers ≠ [] := by
      rintro rfl
      cases last
    simp [pending, flush, runOutcome, last, Report.record, several]

theorem step_skipped (read : source.reading cell = .skipped) (state : ScanState)
    (report : Report) :
    state.step source cell report = (.noOrigin, (state.flush report).record (.skipped cell)) := by
  simp only [Source.reading] at read
  grind [step, Report.record]

theorem step_literal (read : source.reading cell = .literal) (state : ScanState)
    (report : Report) :
    state.step source cell report = (.noOrigin, (state.flush report).record (.discarded cell)) := by
  simp only [Source.reading] at read
  grind [step, Report.record]

theorem step_formula (read : source.reading cell = .formula role tree) (state : ScanState)
    (report : Report) : state.step source cell report = state.offer cell role tree report := by
  simp only [Source.reading] at read
  grind [step]

theorem step_joined {bindings : Bindings}
    (joined : joins origin role tree (cell, source.reading cell) = some bindings)
    (report : Report) :
    (pending origin role tree followers).step source cell report =
      (pending origin role tree (followers ++ [(cell, source.reading cell)]), report) := by
  cases read : source.reading cell with
  | skipped | literal =>
    rw [read] at joined
    cases joined
  | formula role' tree' =>
    rw [read] at joined
    obtain rfl : role = role' := by
      by_contra different
      simp [joins, different] at joined
    have compared : checkTrees tree origin tree' cell = .compatible bindings := by
      cases compared : checkTrees tree origin tree' cell <;>
        simp_all [joins, Compatibility.bindings?]
    rw [step_formula read]
    simp [pending, offer, compared, joined]

theorem step_refused (refused : joins origin role tree (cell, source.reading cell) = none)
    (report : Report) :
    (pending origin role tree followers).step source cell report =
      noOrigin.step source cell ((pending origin role tree followers).flush report) := by
  cases read : source.reading cell with
  | skipped =>
    rw [step_skipped read, step_skipped read]
    rfl
  | literal =>
    rw [step_literal read, step_literal read]
    rfl
  | formula role' tree' =>
    rw [step_formula read, step_formula read]
    rw [read] at refused
    by_cases same_role : role = role'
    · cases compared : checkTrees tree origin tree' cell with
      | compatible bindings =>
        simp [joins, same_role, compared, Compatibility.bindings?] at refused
      | incompatible mismatch => simp [pending, offer, same_role, compared]
    · simp [pending, offer, same_role]

end ScanState

namespace ScanConfig

-- By induction on the line, from no run and from any pending one. A cell that does not join the
-- pending run is met again from no run, so that case comes first.
theorem scanFrom_eq (source : Source) (line : List Address) :
    (∀ report, scanFrom source .noOrigin report line =
      report.recordAll line.length (lineOutcomes (source.visits line))) ∧
    ∀ origin role tree followers report,
      scanFrom source (.pending origin role tree followers) report line =
        report.recordAll line.length
          (runOutcomes origin role tree followers (source.visits line)) := by
  induction line with
  | nil =>
    constructor
    · intro report
      rw [Source.visits, List.map_nil, lineOutcomes]
      rfl
    · intro origin role tree followers report
      rw [scanFrom, ScanState.flush_pending, Source.visits, List.map_nil, runOutcomes_nil]
      rfl
  | cons cell line ih =>
    obtain ⟨fresh, onward⟩ := ih
    rw [Source.visits, List.map_cons, ← Source.visits, List.length_cons, Nat.add_comm]
    have first (report : Report) : scanFrom source .noOrigin report (cell :: line) =
        report.recordAll (1 + line.length)
          (lineOutcomes ((cell, source.reading cell) :: source.visits line)) := by
      rw [scanFrom, ← Report.recordAll_visit]
      cases read : source.reading cell with
      | skipped =>
        rw [ScanState.step_skipped read, lineOutcomes]
        exact fresh _
      | literal =>
        rw [ScanState.step_literal read, lineOutcomes]
        exact fresh _
      | formula role tree =>
        rw [ScanState.step_formula read, lineOutcomes_formula]
        exact onward cell role tree [] _
    refine ⟨first, ?_⟩
    intro origin role tree followers report
    cases joined : joins origin role tree (cell, source.reading cell) with
    | some bindings =>
      rw [scanFrom, ScanState.step_joined joined, runOutcomes_joined joined,
        ← Report.recordAll_visit]
      exact onward _ _ _ _ _
    | none =>
      rw [scanFrom, ScanState.step_refused joined, ScanState.flush_pending,
        runOutcomes_refused joined, Report.record_visit]
      exact first _

theorem scanLine_eq (source : Source) (report : Report) (line : List Address) :
    scanLine source report line =
      report.recordAll line.length (lineOutcomes (source.visits line)) :=
  (scanFrom_eq source line).1 report

theorem foldl_scanLine (source : Source) (lines : List (List Address)) (report : Report) :
    lines.foldl (scanLine source) report =
      report.recordAll lines.flatten.length (outcomesOf source lines) := by
  induction lines generalizing report with
  | nil => rfl
  | cons line lines ih =>
    rw [List.foldl_cons, ih, scanLine_eq, Report.recordAll_recordAll, List.flatten_cons,
      List.length_append]
    rfl

theorem scanLines_eq (source : Source) (lines : List (List Address)) :
    scanLines source lines = .ofOutcomes lines.flatten.length (outcomesOf source lines) := by
  rw [scanLines, foldl_scanLine, Report.recordAll_empty]

end ScanConfig

end FormulaRuns
