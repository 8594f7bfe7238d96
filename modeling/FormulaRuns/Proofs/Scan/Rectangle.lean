import FormulaRuns.Proofs.Outcome
import FormulaRuns.Scan.Report
import Mathlib.Data.List.Flatten
import Mathlib.Data.List.Nodup

namespace FormulaRuns.ScanConfig

theorem mem_interval {first last n : Nat} : n ∈ interval first last ↔ first ≤ n ∧ n ≤ last := by
  simp only [interval, List.mem_range'_1]
  omega

theorem interval_nodup (first last : Nat) : (interval first last).Nodup :=
  List.nodup_range'

section Grid

variable {α : Type} {place : Nat → Nat → α} {outers inners : List Nat}

theorem mem_grid {cell : α} :
    cell ∈ (outers.map fun outer => inners.map (place outer)).flatten ↔
      ∃ outer ∈ outers, ∃ inner ∈ inners, place outer inner = cell := by
  simp only [← List.flatMap_def, List.mem_flatMap, List.mem_map]

theorem grid_nodup
    (injective : ∀ {outer inner outer' inner'}, place outer inner = place outer' inner' →
      outer = outer' ∧ inner = inner')
    (outers_nodup : outers.Nodup) (inners_nodup : inners.Nodup) :
    (outers.map fun outer => inners.map (place outer)).flatten.Nodup := by
  rw [← List.flatMap_def, List.nodup_flatMap]
  constructor
  · intro outer _
    apply inners_nodup.map
    intro inner inner' same
    exact (injective same).2
  · apply outers_nodup.imp
    intro outer outer' different cell member member'
    obtain ⟨inner, -, rfl⟩ := List.mem_map.1 member
    obtain ⟨inner', -, same⟩ := List.mem_map.1 member'
    exact different (injective same).1.symm

end Grid

theorem mem_lines {config : ScanConfig} {sheet : String} {rows cols : Nat} {cell : Address} :
    cell ∈ (config.lines sheet rows cols).flatten ↔ cell.sheet = sheet ∧
      (config.firstRow ≤ cell.row ∧ cell.row ≤ rows) ∧
      (config.firstCol ≤ cell.col ∧ cell.col ≤ cols) := by
  simp only [lines]
  split
  · rw [mem_grid]
    simp only [mem_interval]
    constructor
    · rintro ⟨col, in_cols, row, in_rows, rfl⟩
      exact ⟨rfl, in_rows, in_cols⟩
    · rintro ⟨rfl, in_rows, in_cols⟩
      exact ⟨cell.col, in_cols, cell.row, in_rows, rfl⟩
  · rw [mem_grid]
    simp only [mem_interval]
    constructor
    · rintro ⟨row, in_rows, col, in_cols, rfl⟩
      exact ⟨rfl, in_rows, in_cols⟩
    · rintro ⟨rfl, in_rows, in_cols⟩
      exact ⟨cell.row, in_rows, cell.col, in_cols, rfl⟩

theorem lines_nodup (config : ScanConfig) (sheet : String) (rows cols : Nat) :
    (config.lines sheet rows cols).flatten.Nodup := by
  have row_range := interval_nodup config.firstRow rows
  have col_range := interval_nodup config.firstCol cols
  simp only [lines]
  split
  · apply grid_nodup _ col_range row_range
    intro col row col' row' same
    simp_all
  · apply grid_nodup _ row_range col_range
    intro row col row' col' same
    simp_all

def lastCell (config : ScanConfig) (source : Source) (sheet : String) : Option (Nat × Nat) :=
  config.bounds <|> source.extent sheet

def scannedLines (config : ScanConfig) (source : Source) (sheet : String) : List (List Address) :=
  match config.lastCell source sheet with
  | some (rows, cols) => config.lines sheet rows cols
  | none => []

theorem scanSheet_eq_scanLines (config : ScanConfig) (source : Source) (sheet : String) :
    config.scanSheet source sheet = scanLines source (config.scannedLines source sheet) := by
  simp only [scanSheet, scannedLines, lastCell]
  cases config.bounds <|> source.extent sheet <;> rfl

/-- The cell lies in the rectangle of its sheet that is scanned. -/
def Scans (config : ScanConfig) (source : Source) (cell : Address) : Prop :=
  ∃ rows cols, config.lastCell source cell.sheet = some (rows, cols) ∧
    (config.firstRow ≤ cell.row ∧ cell.row ≤ rows) ∧ config.firstCol ≤ cell.col ∧ cell.col ≤ cols

theorem mem_scannedLines {config : ScanConfig} {source : Source} {sheet : String} {cell : Address} :
    cell ∈ (config.scannedLines source sheet).flatten ↔
      cell.sheet = sheet ∧ config.Scans source cell := by
  simp only [scannedLines]
  cases ends : config.lastCell source sheet with
  | none =>
    simp only [List.flatten_nil, List.not_mem_nil, false_iff]
    rintro ⟨rfl, rows, cols, same, -⟩
    rw [ends] at same
    cases same
  | some last =>
    rw [mem_lines]
    constructor
    · rintro ⟨rfl, in_rows, in_cols⟩
      exact ⟨rfl, _, _, ends, in_rows, in_cols⟩
    · rintro ⟨rfl, rows, cols, same, in_rows, in_cols⟩
      obtain rfl : last = (rows, cols) := Option.some.inj (ends.symm.trans same)
      exact ⟨rfl, in_rows, in_cols⟩

theorem scannedLines_nodup (config : ScanConfig) (source : Source) (sheet : String) :
    (config.scannedLines source sheet).flatten.Nodup := by
  simp only [scannedLines]
  split
  · exact config.lines_nodup sheet _ _
  · exact List.nodup_nil

def scannedCells (config : ScanConfig) (source : Source) (sheets : List String) : List Address :=
  sheets.flatMap fun sheet => (config.scannedLines source sheet).flatten

theorem mem_scannedCells {config : ScanConfig} {source : Source} {sheets : List String}
    {cell : Address} :
    cell ∈ config.scannedCells source sheets ↔
      cell.sheet ∈ sheets ∧ config.Scans source cell := by
  simp only [scannedCells, List.mem_flatMap, mem_scannedLines]
  constructor
  · rintro ⟨sheet, listed, rfl, scans⟩
    exact ⟨listed, scans⟩
  · rintro ⟨listed, scans⟩
    exact ⟨cell.sheet, listed, rfl, scans⟩

theorem scannedCells_nodup (config : ScanConfig) (source : Source) {sheets : List String}
    (distinct : sheets.Nodup) : (config.scannedCells source sheets).Nodup := by
  rw [scannedCells, List.nodup_flatMap]
  constructor
  · intro sheet _
    exact config.scannedLines_nodup source sheet
  · apply distinct.imp
    intro sheet sheet' different cell member member'
    obtain ⟨rfl, -⟩ := mem_scannedLines.1 member
    obtain ⟨rfl, -⟩ := mem_scannedLines.1 member'
    exact different rfl

end FormulaRuns.ScanConfig
