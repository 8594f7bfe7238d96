import FormulaRuns.Scan.Cluster
import FormulaRuns.Scan.Config

namespace FormulaRuns

structure Report where
  registry : Registry
  /-- Runs of one cell, and cells with a role but no formula. -/
  discarded : List Address
  skipped : List Address
  visited : Nat

namespace Report

def empty : Report := ⟨.empty, [], [], 0⟩

def accounted (report : Report) : Nat :=
  report.registry.cellCount + report.discarded.length + report.skipped.length

def register (report : Report) (cluster : Cluster) : Report :=
  { report with registry := report.registry.insert cluster }

def discard (report : Report) (cell : Address) : Report :=
  { report with discarded := report.discarded ++ [cell] }

def skip (report : Report) (cell : Address) : Report :=
  { report with skipped := report.skipped ++ [cell] }

def visit (report : Report) (cells : Nat) : Report :=
  { report with visited := report.visited + cells }

def merge (report other : Report) : Report where
  registry := report.registry.merge other.registry
  discarded := report.discarded ++ other.discarded
  skipped := report.skipped ++ other.skipped
  visited := report.visited + other.visited

end Report

/-- A formula cell and the cells right behind it that hold its formula dragged along. -/
structure Run where
  origin : Address
  role : Role
  tree : Tree
  members : List Address
  pattern : Option (Skeleton × List Reference)

inductive ScanState where
  | noOrigin
  | hasOrigin (run : Run)

namespace ScanState

def start (origin : Address) (role : Role) (tree : Tree) : ScanState :=
  .hasOrigin ⟨origin, role, tree, [], none⟩

/-- A run of several cells is registered, and one that no cell joined is discarded. -/
def flush (state : ScanState) (report : Report) : Report :=
  match state with
  | .noOrigin => report
  | .hasOrigin run =>
    match run.pattern with
    | some (skeleton, references) =>
      if run.members.isEmpty then report.discard run.origin
      else report.register ⟨run.origin, run.members, run.role, skeleton, references⟩
    | none => report.discard run.origin

/-- A formula is compared with the one that the run began with, in a cell of the same role. -/
def offer (state : ScanState) (cell : Address) (role : Role) (tree : Tree) (report : Report) :
    ScanState × Report :=
  match state with
  | .noOrigin => (start cell role tree, report)
  | .hasOrigin run =>
    if run.role = role then
      match checkTrees run.tree run.origin tree cell with
      | .incompatible _ => (start cell role tree, state.flush report)
      | .compatible bindings =>
        let members := run.members ++ [cell]
        (.hasOrigin { run with members := members, pattern := some (variability bindings) }, report)
    else (start cell role tree, state.flush report)

def step (source : Source) (state : ScanState) (cell : Address) (report : Report) :
    ScanState × Report :=
  match source.role cell with
  | none => (.noOrigin, (state.flush report).skip cell)
  | some role =>
    match source.formula cell with
    -- A literal opens a run that no formula can join.
    | none => (.noOrigin, (state.flush report).discard cell)
    | some text =>
      match Formula.parse text with
      | .error _ => (.noOrigin, (state.flush report).skip cell)
      | .ok formula => state.offer cell role formula.root report

end ScanState

namespace ScanConfig

def scanFrom (source : Source) (state : ScanState) (report : Report) : List Address → Report
  | [] => state.flush report
  | cell :: rest =>
    let (state, report) := state.step source cell (report.visit 1)
    scanFrom source state report rest

def scanLine (source : Source) (report : Report) (line : List Address) : Report :=
  scanFrom source .noOrigin report line

def scanLines (source : Source) (lines : List (List Address)) : Report :=
  lines.foldl (scanLine source) .empty

/-- An unknown sheet has no cells, unless the scan has bounds of its own. -/
def scanSheet (config : ScanConfig) (source : Source) (sheet : String) : Report :=
  match config.bounds <|> source.extent sheet with
  | some (rows, cols) => scanLines source (config.lines sheet rows cols)
  | none => .empty

def scanSheets (config : ScanConfig) (source : Source) (sheets : List String) : Report :=
  (sheets.map (config.scanSheet source)).foldl Report.merge .empty

end ScanConfig

end FormulaRuns
