import FormulaRuns.Evaluation.Basic

namespace FormulaRuns

namespace Expr

def rangeReads (first last : Option Reference) : List Address :=
  match first, last with
  | some first, some last =>
    if first.sheet = last.sheet then (rectangle first last).flatten else []
  | _, _ => []

mutual

def reads : Expr → List Address
  | cell ref => [ref.address]
  | range first last => rangeReads (first.reference? .none) (last.reference? .none)
  | unary _ operand => reads operand
  | binary _ left right => reads left ++ reads right
  | call _ args => listReads args
  | array rows => rowsReads rows
  | _ => []

def listReads : List Expr → List Address
  | [] => []
  | e :: es => reads e ++ listReads es

def rowsReads : List (List Expr) → List Address
  | [] => []
  | row :: rows => listReads row ++ rowsReads rows

end

variable {read read' : Address → Value}

theorem rangeValue_congr {first last : Option Reference}
    (same : ∀ cell ∈ rangeReads first last, read cell = read' cell) :
    rangeValue read first last = rangeValue read' first last := by
  cases first with
  | none => rfl
  | some first =>
    cases last with
    | none => rfl
    | some last =>
      simp only [rangeReads] at same
      simp only [rangeValue]
      split
      · rename_i sheets
        rw [if_pos sheets] at same
        refine congrArg Value.array (List.map_congr_left fun row listed => ?_)
        refine List.map_congr_left fun cell inside => ?_
        exact same cell (List.mem_flatten_of_mem listed inside)
      · rfl

mutual

theorem evalWith_congr : ∀ e : Expr, (∀ cell ∈ e.reads, read cell = read' cell) →
    e.evalWith read .none = e.evalWith read' .none
  | number _, _ | text _, _ | bool _, _ | error _, _ | name _, _ | param _, _ | lambda _ _, _ => rfl
  | cell ref, same => same ref.address (by simp [reads])
  | range first last, same => rangeValue_congr same
  | unary op operand, same => by
    simp only [evalWith, evalWith_congr operand same]
  | binary op left right, same => by
    have in_left := evalWith_congr left fun cell member => same cell (List.mem_append_left _ member)
    have in_right :=
      evalWith_congr right fun cell member => same cell (List.mem_append_right _ member)
    simp only [evalWith, in_left, in_right]
  | call callee args, same => by
    simp only [evalWith, argumentsWith_congr args same]
  | array rows, same => by
    simp only [evalWith, rowsWith_congr rows same]

theorem argumentsWith_congr : ∀ es : List Expr, (∀ cell ∈ listReads es, read cell = read' cell) →
    argumentsWith read .none es = argumentsWith read' .none es
  | [], _ => rfl
  | e :: es, same => by
    have in_first := evalWith_congr e fun cell member => same cell (List.mem_append_left _ member)
    have in_others :=
      argumentsWith_congr es fun cell member => same cell (List.mem_append_right _ member)
    simp only [argumentsWith, in_first, in_others]

theorem valuesWith_congr : ∀ es : List Expr, (∀ cell ∈ listReads es, read cell = read' cell) →
    valuesWith read .none es = valuesWith read' .none es
  | [], _ => rfl
  | e :: es, same => by
    have in_first := evalWith_congr e fun cell member => same cell (List.mem_append_left _ member)
    have in_others :=
      valuesWith_congr es fun cell member => same cell (List.mem_append_right _ member)
    simp only [valuesWith, in_first, in_others]

theorem rowsWith_congr : ∀ rows : List (List Expr),
    (∀ cell ∈ rowsReads rows, read cell = read' cell) →
      rowsWith read .none rows = rowsWith read' .none rows
  | [], _ => rfl
  | row :: rows, same => by
    have in_first :=
      valuesWith_congr row fun cell member => same cell (List.mem_append_left _ member)
    have in_others :=
      rowsWith_congr rows fun cell member => same cell (List.mem_append_right _ member)
    simp only [rowsWith, in_first, in_others]

end

end Expr

namespace Source

variable {source : Source} {cell : Address}

/-- From the cell on, formulas read each other at most `depth` deep, the cell's own included. A
text that is no formula reads nothing. -/
def SettlesWithin (source : Source) : Nat → Address → Prop
  | 0, cell => ∀ text e, source.formula cell = some text → cellExpr cell text ≠ .ok e
  | depth + 1, cell => ∀ text e, source.formula cell = some text → cellExpr cell text = .ok e →
      ∀ other ∈ e.reads, source.SettlesWithin depth other

def evaluatorAt (source : Source) : Nat → Expr → Value
  | levels + 2 => Expr.evalWith (fun cell => .ofReading (source.valueAt levels cell)) .none
  | _ => fun _ => .bare .circ

theorem valueAt_eq (levels : Nat) (cell : Address) :
    source.valueAt levels cell = source.cellValue (source.evaluatorAt levels) cell := by
  rcases levels with - | - | levels <;> rfl

theorem cellValue_congr {evaluate evaluate' : Expr → Value}
    (same : ∀ text e, source.formula cell = some text → cellExpr cell text = .ok e →
      evaluate e = evaluate' e) :
    source.cellValue evaluate cell = source.cellValue evaluate' cell := by
  simp only [cellValue, ← source.formula_agrees]
  cases present : source.formula cell with
  | none => rfl
  | some text =>
    cases read : cellExpr cell text with
    | error fault => simp only [read, Except.map]
    | ok e => simp only [read, Except.map, same text e present read]

-- A level of evaluation is used up by the cell, another by what it reads.
theorem valueAt_of_settlesWithin {depth levels : Nat} (settles : source.SettlesWithin depth cell)
    (enough : 2 * depth ≤ levels) :
    source.valueAt levels cell = source.valueAt (2 * depth) cell := by
  induction depth generalizing cell levels with
  | zero =>
    rw [valueAt_eq, valueAt_eq]
    apply cellValue_congr
    intro text e present read
    exact absurd read (settles text e present)
  | succ depth ih =>
    obtain ⟨levels, rfl⟩ : ∃ fewer, levels = fewer + 2 := ⟨levels - 2, by omega⟩
    rw [valueAt_eq, valueAt_eq]
    apply cellValue_congr
    intro text e present read
    apply Expr.evalWith_congr
    intro other member
    exact congrArg Value.ofReading (ih (settles text e present read other member) (by omega))

end Source

end FormulaRuns
