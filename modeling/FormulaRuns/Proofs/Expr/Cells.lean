import FormulaRuns.Expr.Basic
import Mathlib.Data.List.Basic

namespace FormulaRuns

namespace Expr

mutual

def cellCount : Expr → Nat
  | cell _ => 1
  | range first last => cellCount first + cellCount last
  | unary _ operand => cellCount operand
  | binary _ left right => cellCount left + cellCount right
  | call _ args => listCellCount args
  | array rows => rowsCellCount rows
  | lambda _ body => cellCount body
  | _ => 0

def listCellCount : List Expr → Nat
  | [] => 0
  | e :: es => cellCount e + listCellCount es

def rowsCellCount : List (List Expr) → Nat
  | [] => 0
  | row :: rows => listCellCount row + rowsCellCount rows

end

mutual

/-- The expression with a mark in the place of each of its cells, in the order in which they are
read; where there is none the cell stays. -/
def replaceCells (marks : List (Option Expr)) : Expr → Expr
  | cell ref => marks.head?.join.getD (cell ref)
  | range first last =>
    range (replaceCells (marks.take (cellCount first)) first)
      (replaceCells (marks.drop (cellCount first)) last)
  | unary op operand => unary op (replaceCells marks operand)
  | binary op left right =>
    binary op (replaceCells (marks.take (cellCount left)) left)
      (replaceCells (marks.drop (cellCount left)) right)
  | call callee args => call callee (listReplaceCells marks args)
  | array rows => array (rowsReplaceCells marks rows)
  | lambda params body => lambda params (replaceCells marks body)
  | e => e

def listReplaceCells (marks : List (Option Expr)) : List Expr → List Expr
  | [] => []
  | e :: es =>
    replaceCells (marks.take (cellCount e)) e :: listReplaceCells (marks.drop (cellCount e)) es

def rowsReplaceCells (marks : List (Option Expr)) : List (List Expr) → List (List Expr)
  | [] => []
  | row :: rows =>
    listReplaceCells (marks.take (listCellCount row)) row ::
      rowsReplaceCells (marks.drop (listCellCount row)) rows

end

section

variable {marks others : List (Option Expr)} {e e' : Expr}

theorem replaceCells_range (count : marks.length = e.cellCount) :
    (range e e').replaceCells (marks ++ others) =
      range (e.replaceCells marks) (e'.replaceCells others) := by
  rw [replaceCells, List.take_left' count, List.drop_left' count]

theorem replaceCells_binary (op : BinaryOp) (count : marks.length = e.cellCount) :
    (binary op e e').replaceCells (marks ++ others) =
      binary op (e.replaceCells marks) (e'.replaceCells others) := by
  rw [replaceCells, List.take_left' count, List.drop_left' count]

theorem listReplaceCells_cons {es : List Expr} (count : marks.length = e.cellCount) :
    listReplaceCells (marks ++ others) (e :: es) =
      e.replaceCells marks :: listReplaceCells others es := by
  rw [listReplaceCells, List.take_left' count, List.drop_left' count]

end

theorem self_mem_subexprs (e : Expr) : e ∈ e.subexprs := by
  cases e <;> simp [subexprs]

theorem mem_split {marks : List (Option Expr)} {mark : Option Expr} {first second : Nat}
    (count : marks.length = first + second) (member : mark ∈ marks) :
    ((marks.take first).length = first ∧ mark ∈ marks.take first) ∨
      ((marks.drop first).length = second ∧ mark ∈ marks.drop first) := by
  rw [← List.take_append_drop first marks, List.mem_append] at member
  rcases member with member | member
  · exact .inl ⟨by rw [List.length_take]; omega, member⟩
  · exact .inr ⟨by rw [List.length_drop]; omega, member⟩

mutual

theorem mem_subexprs_replaceCells {mark : Expr} : ∀ (e : Expr) (marks : List (Option Expr)),
    marks.length = e.cellCount → some mark ∈ marks → mark ∈ (e.replaceCells marks).subexprs
  | cell ref, marks, count, member => by
    obtain ⟨only, rfl⟩ := List.length_eq_one_iff.1 count
    obtain rfl := List.mem_singleton.1 member
    exact self_mem_subexprs mark
  | range first last, _, count, member | binary _ first last, _, count, member => by
    refine List.mem_cons_of_mem _ (List.mem_append.2 ?_)
    rcases mem_split count member with ⟨count, member⟩ | ⟨count, member⟩
    · exact .inl (mem_subexprs_replaceCells first _ count member)
    · exact .inr (mem_subexprs_replaceCells last _ count member)
  | unary op operand, marks, count, member =>
    List.mem_cons_of_mem _ (mem_subexprs_replaceCells operand marks count member)
  | call callee args, marks, count, member =>
    List.mem_cons_of_mem _ (mem_listSubexprs_replaceCells args marks count member)
  | array rows, marks, count, member =>
    List.mem_cons_of_mem _ (mem_rowsSubexprs_replaceCells rows marks count member)
  | lambda params body, marks, count, member =>
    List.mem_cons_of_mem _ (mem_subexprs_replaceCells body marks count member)
  | number _, _, count, member | text _, _, count, member | bool _, _, count, member
  | error _, _, count, member | param _, _, count, member | name _, _, count, member => by
    simp [List.length_eq_zero_iff.1 count] at member

theorem mem_listSubexprs_replaceCells {mark : Expr} :
    ∀ (es : List Expr) (marks : List (Option Expr)), marks.length = listCellCount es →
      some mark ∈ marks → mark ∈ listSubexprs (listReplaceCells marks es)
  | [], marks, count, member => by simp [List.length_eq_zero_iff.1 count] at member
  | e :: es, _, count, member => by
    refine List.mem_append.2 ?_
    rcases mem_split count member with ⟨count, member⟩ | ⟨count, member⟩
    · exact .inl (mem_subexprs_replaceCells e _ count member)
    · exact .inr (mem_listSubexprs_replaceCells es _ count member)

theorem mem_rowsSubexprs_replaceCells {mark : Expr} :
    ∀ (rows : List (List Expr)) (marks : List (Option Expr)),
      marks.length = rowsCellCount rows → some mark ∈ marks →
        mark ∈ rowsSubexprs (rowsReplaceCells marks rows)
  | [], marks, count, member => by simp [List.length_eq_zero_iff.1 count] at member
  | row :: rows, _, count, member => by
    refine List.mem_append.2 ?_
    rcases mem_split count member with ⟨count, member⟩ | ⟨count, member⟩
    · exact .inl (mem_listSubexprs_replaceCells row _ count member)
    · exact .inr (mem_rowsSubexprs_replaceCells rows _ count member)

end

end Expr

end FormulaRuns
