import FormulaRuns.Proofs.Expr.Cells
import FormulaRuns.Proofs.Expr.Plain
import FormulaRuns.Proofs.Expr.Translation
import FormulaRuns.Proofs.Formula.Completeness
import FormulaRuns.Proofs.Grid.Shift

/-!
Translating a formula with some of its references bound is translating it without, and putting the
parameters in the place of the cells (`toExpr_marked`): an expression has its cells in the order in
which the formula has its references.
-/
namespace FormulaRuns

namespace Tree

mutual

def cellIdsFrom (start : Nat) : Tree → List Nat
  | leaf lexeme => if lexeme.kind = .cellRef then [start] else []
  | node _ children => forestCellIds start children

def forestCellIds (start : Nat) : List Tree → List Nat
  | [] => []
  | tree :: trees => tree.cellIdsFrom start ++ forestCellIds (start + tree.size) trees

end

def cellIds (tree : Tree) : List Nat := tree.cellIdsFrom 0

def cellId? (row : Row × Nat) : Option Nat :=
  match row with
  | (.leaf lexeme, id) => if lexeme.kind = .cellRef then some id else none
  | _ => none

mutual

theorem cellIdsFrom_eq (start : Nat) : ∀ tree : Tree,
    tree.cellIdsFrom start = ((tree.rowsFrom start).zipIdx start).filterMap cellId?
  | leaf lexeme => by
    by_cases kind : lexeme.kind = .cellRef <;> simp [cellIdsFrom, rowsFrom, cellId?, kind]
  | node rule children => by
    simp [cellIdsFrom, rowsFrom, forestCellIds_eq start children, List.zipIdx_append, cellId?]

theorem forestCellIds_eq (start : Nat) : ∀ trees : List Tree,
    forestCellIds start trees = ((forestRows start trees).zipIdx start).filterMap cellId?
  | [] => rfl
  | tree :: trees => by
    rw [forestCellIds, forestRows, List.zipIdx_append, List.filterMap_append, rowsFrom_length,
      cellIdsFrom_eq start tree, forestCellIds_eq (start + tree.size) trees]

end

theorem mem_cellIds {tree : Tree} {id : Nat} : id ∈ tree.cellIds ↔
    ∃ lexeme, tree.rows[id]? = some (.leaf lexeme) ∧ lexeme.kind = .cellRef := by
  rw [cellIds, cellIdsFrom_eq, List.mem_filterMap]
  constructor
  · rintro ⟨⟨row, number⟩, member, found⟩
    have row_found := List.mk_mem_zipIdx_iff_getElem?.1 member
    cases row with
    | leaf lexeme =>
      simp only [cellId?, Option.ite_none_right_eq_some, Option.some.injEq] at found
      obtain ⟨kind, rfl⟩ := found
      exact ⟨lexeme, row_found, kind⟩
    | node rule children => cases found
  · rintro ⟨lexeme, row_found, kind⟩
    exact ⟨(.leaf lexeme, id), List.mk_mem_zipIdx_iff_getElem?.2 row_found, by simp [cellId?, kind]⟩

end Tree

/-- What stands for the reference with this number, if it is bound. -/
def Folding.mark (folding : Folding) (id : Nat) : Except Fault (Option Expr) :=
  match entryAt id folding.binding with
  | none => .ok none
  | some bound =>
    match folding.table.paramFor? bound with
    | some index => .ok (some (.param index))
    | none => .error (.unknownParameter bound)

/-- What has cells in it, one after the other. -/
class Celled (α : Type) where
  count : α → Nat
  replace : List (Option Expr) → α → α

instance : Celled Expr := ⟨Expr.cellCount, Expr.replaceCells⟩

instance : Celled (List Expr) := ⟨Expr.listCellCount, Expr.listReplaceCells⟩

instance : Celled (List (List Expr)) := ⟨Expr.rowsCellCount, Expr.rowsReplaceCells⟩

variable {α β γ : Type} [Celled α] [Celled β] [Celled γ] {folding : Folding} {ids others : List Nat}

/-- The first has a cell for each of the numbers; the second is what becomes of it when some of
them are bound. -/
def Marked (folding : Folding) (ids : List Nat) (plain folded : Except Fault α) : Prop :=
  ∃ whole, plain = .ok whole ∧ Celled.count whole = ids.length ∧
    folded = (ids.mapM folding.mark).map fun marks => Celled.replace marks whole

theorem Marked.map (make : α → β) {plain folded : Except Fault α}
    (inner : Marked folding ids plain folded)
    (counts : ∀ whole, Celled.count (make whole) = Celled.count whole)
    (replaces : ∀ marks whole,
      Celled.replace marks (make whole) = make (Celled.replace marks whole)) :
    Marked folding ids (plain >>= fun whole => .ok (make whole))
      (folded >>= fun whole => .ok (make whole)) := by
  obtain ⟨whole, rfl, count, rfl⟩ := inner
  refine ⟨make whole, rfl, (counts whole).trans count, ?_⟩
  cases ids.mapM folding.mark with
  | error fault => rfl
  | ok marks => exact congrArg Except.ok (replaces marks whole).symm

theorem Marked.combine (make : α → β → γ) {plain folded : Except Fault α}
    {plain' folded' : Except Fault β} (first : Marked folding ids plain folded)
    (second : Marked folding others plain' folded')
    (counts : ∀ part part',
      Celled.count (make part part') = Celled.count part + Celled.count part')
    (replaces : ∀ marks rest part part', marks.length = Celled.count part →
      Celled.replace (marks ++ rest) (make part part') =
        make (Celled.replace marks part) (Celled.replace rest part')) :
    Marked folding (ids ++ others)
      (plain >>= fun part => plain' >>= fun part' => .ok (make part part'))
      (folded >>= fun part => folded' >>= fun part' => .ok (make part part')) := by
  obtain ⟨part, rfl, count, rfl⟩ := first
  obtain ⟨part', rfl, count', rfl⟩ := second
  refine ⟨make part part', rfl, ?_, ?_⟩
  · rw [counts, count, count', List.length_append]
  · rw [List.mapM_append]
    cases marked : ids.mapM folding.mark with
    | error fault => rfl
    | ok marks =>
      have length : marks.length = Celled.count part := by
        rw [count, (mapM_eq_ok_iff.1 marked).length_eq]
      cases others.mapM folding.mark with
      | error fault => rfl
      | ok rest => exact congrArg Except.ok (replaces marks rest part part' length).symm

theorem Folding.leaf_of_other {lexeme : Lexeme} (kind : lexeme.kind ≠ .cellRef) :
    ∃ e : Expr, e.cellCount = 0 ∧ (∀ marks, e.replaceCells marks = e) ∧
      ∀ (folding : Folding) (id : Nat) (sheet : String), folding.leaf id sheet lexeme = .ok e := by
  simp only [Folding.leaf]
  split
  · exact absurd ‹_› kind
  · split <;> exact ⟨_, rfl, fun _ => rfl, fun _ _ _ => rfl⟩
  all_goals exact ⟨_, rfl, fun _ => rfl, fun _ _ _ => rfl⟩

theorem Folding.leaf_marked (folding : Folding) (id : Nat) (sheet : String) {lexeme : Lexeme}
    (spelled : lexeme.Spelled) :
    Marked folding ((Tree.leaf lexeme).cellIdsFrom id) (Folding.plain.leaf id sheet lexeme)
      (folding.leaf id sheet lexeme) := by
  by_cases kind : lexeme.kind = .cellRef
  · obtain ⟨cell, parsed⟩ := spelled.exists_cell kind
    obtain ⟨ref, decoded⟩ : ∃ ref, Reference.ofA1 sheet lexeme.text = .ok ref :=
      ⟨_, Reference.ofA1_eq_ok_iff.2 ⟨cell, parsed, rfl⟩⟩
    have own : (Tree.leaf lexeme).reference? sheet = some ref := by
      rw [Tree.reference?_leaf kind, decoded]
      rfl
    refine ⟨.cell ref, ?_, ?_, ?_⟩
    · simp [Folding.leaf, kind, Folding.reference, Folding.plain, entryAt, own]
    · simp [Tree.cellIdsFrom, kind, Celled.count, Expr.cellCount]
    · simp only [Tree.cellIdsFrom, kind, if_true, Folding.leaf, Folding.reference, Folding.mark,
        List.mapM_cons, List.mapM_nil, own]
      cases entryAt id folding.binding with
      | none => rfl
      | some bound =>
        dsimp only
        cases folding.table.paramFor? bound <;> rfl
  · obtain ⟨e, count, stays, read⟩ := Folding.leaf_of_other kind
    refine ⟨e, read .plain id sheet, ?_, ?_⟩
    · rw [Tree.cellIdsFrom, if_neg kind]
      exact count
    · rw [read folding id sheet, Tree.cellIdsFrom, if_neg kind]
      exact congrArg Except.ok (stays []).symm

def Tree.Translates (folding : Folding) (tree : Tree) : Prop :=
  ∀ (start : Nat) (sheet : String), Marked folding (tree.cellIdsFrom start)
    (tree.toExpr .plain start sheet) (tree.toExpr folding start sheet)

theorem Tree.cellIdsFrom_leaf {lexeme : Lexeme} (start : Nat) (kind : lexeme.kind ≠ .cellRef) :
    (leaf lexeme).cellIdsFrom start = [] := by
  rw [cellIdsFrom, if_neg kind]

theorem Tree.Translates.cons {tree : Tree} {plain folded : Except Fault (List Expr)}
    (reads : tree.Translates folding) (start : Nat) (sheet : String)
    (others : Marked folding ids plain folded) :
    Marked folding (tree.cellIdsFrom start ++ ids)
      (tree.toExpr .plain start sheet >>= fun arg => plain >>= fun args => .ok (arg :: args))
      (tree.toExpr folding start sheet >>= fun arg => folded >>= fun args => .ok (arg :: args)) :=
  (reads start sheet).combine List.cons others (fun _ _ => rfl)
    fun _ _ _ _ count => Expr.listReplaceCells_cons count

theorem argsOf_marked (start : Nat) (sheet : String) {items : List Tree}
    (each : ∀ tree ∈ items, tree.Translates folding)
    (listed : Tree.Items (· == .argSep) .closeParen items) :
    Marked folding (Tree.forestCellIds start items)
      (argsOf (Tree.forestParts .plain start sheet items))
      (argsOf (Tree.forestParts folding start sheet items)) := by
  induction listed generalizing start with
  | @last tree closer expression kind =>
    have other : closer.kind ≠ .cellRef := by simp [kind]
    simp only [Tree.forestParts, Tree.forestCellIds, argsOf_cons_of_isExpression expression,
      argsOf_leaf (.inr kind), Tree.cellIdsFrom_leaf _ other, List.nil_append]
    exact (each _ List.mem_cons_self).cons start sheet ⟨[], rfl, rfl, rfl⟩
  | @more tree separator items expression kind listed ih =>
    obtain ⟨reads, others⟩ := List.forall_mem_cons.1 each
    have separates : separator.kind = .argSep := by simpa using kind
    have other : separator.kind ≠ .cellRef := by simp [separates]
    simp only [Tree.forestParts, Tree.forestCellIds, argsOf_cons_of_isExpression expression,
      argsOf_leaf (.inl separates), Tree.cellIdsFrom_leaf _ other, List.nil_append]
    exact reads.cons start sheet
      (ih _ fun tree member => others tree (List.mem_cons_of_mem _ member))

theorem rowsCellCount_addToFirstRow (item : Expr) (rows : List (List Expr)) :
    Expr.rowsCellCount (addToFirstRow item rows) = item.cellCount + Expr.rowsCellCount rows := by
  cases rows with
  | nil => simp [addToFirstRow, Expr.rowsCellCount, Expr.listCellCount]
  | cons row rows => simp [addToFirstRow, Expr.rowsCellCount, Expr.listCellCount, Nat.add_assoc]

theorem rowsReplaceCells_addToFirstRow {marks : List (Option Expr)} {item : Expr}
    (count : marks.length = item.cellCount) (rest : List (Option Expr)) (rows : List (List Expr)) :
    Expr.rowsReplaceCells (marks ++ rest) (addToFirstRow item rows) =
      addToFirstRow (item.replaceCells marks) (Expr.rowsReplaceCells rest rows) := by
  cases rows with
  | nil =>
    simp [addToFirstRow, Expr.rowsReplaceCells, Expr.listReplaceCells, Expr.listCellCount, ← count]
  | cons row rows =>
    simp only [addToFirstRow, Expr.rowsReplaceCells, Expr.listCellCount, ← count,
      List.take_length_add_append, List.drop_length_add_append, Expr.listReplaceCells_cons count]

theorem Tree.Translates.addToFirstRow {tree : Tree} {plain folded : Except Fault (List (List Expr))}
    (reads : tree.Translates folding) (start : Nat) (sheet : String)
    (others : Marked folding ids plain folded) :
    Marked folding (tree.cellIdsFrom start ++ ids)
      (tree.toExpr .plain start sheet >>= fun item => plain >>= fun rows =>
        .ok (FormulaRuns.addToFirstRow item rows))
      (tree.toExpr folding start sheet >>= fun item => folded >>= fun rows =>
        .ok (FormulaRuns.addToFirstRow item rows)) :=
  (reads start sheet).combine FormulaRuns.addToFirstRow others rowsCellCount_addToFirstRow
    fun _ rest _ rows count => rowsReplaceCells_addToFirstRow count rest rows

theorem rowsOf_marked (start : Nat) (sheet : String) {elements : List Tree}
    (each : ∀ tree ∈ elements, tree.Translates folding)
    (listed : Tree.Items (fun kind => kind == .argSep || kind == .rowSep) .closeBrace elements) :
    Marked folding (Tree.forestCellIds start elements)
      (rowsOf (Tree.forestParts .plain start sheet elements))
      (rowsOf (Tree.forestParts folding start sheet elements)) := by
  induction listed generalizing start with
  | @last tree closer expression kind =>
    have other : closer.kind ≠ .cellRef := by simp [kind]
    simp only [Tree.forestParts, Tree.forestCellIds, rowsOf_cons_of_isExpression expression,
      rowsOf_leaf (.inr kind), Tree.cellIdsFrom_leaf _ other, List.nil_append]
    exact (each _ List.mem_cons_self).addToFirstRow start sheet ⟨[[]], rfl, rfl, rfl⟩
  | @more tree separator elements expression kind listed ih =>
    obtain ⟨reads, others⟩ := List.forall_mem_cons.1 each
    have rest (start : Nat) := ih start fun tree member =>
      others tree (List.mem_cons_of_mem _ member)
    simp only [Bool.or_eq_true, beq_iff_eq] at kind
    have other : separator.kind ≠ .cellRef := by rcases kind with kind | kind <;> simp [kind]
    simp only [Tree.forestParts, Tree.forestCellIds, rowsOf_cons_of_isExpression expression,
      Tree.cellIdsFrom_leaf _ other, List.nil_append]
    apply reads.addToFirstRow start sheet
    rcases kind with kind | kind
    · simp only [rowsOf_leaf (.inl kind)]
      exact rest _
    · -- A new row has no cells before the next element is read into it.
      simp only [rowsOf_rowSep kind]
      exact (rest _).map ([] :: ·) (fun _ => Nat.zero_add _) fun _ _ => rfl

theorem Tree.translates_node {rule : Rule} {children : List Tree}
    (production : Tree.Production rule children)
    (spelled : ∀ lexeme, Tree.leaf lexeme ∈ children → lexeme.Spelled)
    (each : ∀ child ∈ children, child.Translates folding) :
    (Tree.node rule children).Translates folding := by
  intro start sheet
  rw [toExpr, toExpr, cellIdsFrom]
  generalize (Tree.node rule children).scope sheet = scope
  cases production
  case formula equals body kind good =>
    have inner := each body (by simp) (start + 1) scope
    simpa [forestCellIds, cellIdsFrom, kind, forestParts, assemble, exprAt, partAt, size]
      using inner
  case paren opener closer body kind good kind' =>
    have inner := each body (by simp) (start + 1) scope
    simpa [forestCellIds, cellIdsFrom, kind, kind', forestParts, assemble, exprAt, partAt, size]
      using inner
  case sheetRef name bang target kind kind' good =>
    have inner := each target (by simp) (start + 1 + 1) scope
    simpa [forestCellIds, cellIdsFrom, kind, kind', forestParts, assemble, exprAt, partAt, size]
      using inner
  case range first colon last good kind good' =>
    have left := each (.leaf first) (by simp) start scope
    have right := each last (by simp) (start + 1 + 1) scope
    have whole := left.combine Expr.range right (fun _ _ => rfl)
      fun _ _ _ _ count => Expr.replaceCells_range count
    simpa [forestCellIds, cellIdsFrom, kind, forestParts, assemble, exprAt, partAt, size]
      using whole
  case prefixed operator body kind good =>
    have meant := (spelled operator (by simp)).unaryOp_isSome kind
    obtain ⟨op, symbol⟩ := Option.isSome_iff_exists.1 meant
    have inner := each body (by simp) (start + 1) scope
    have whole := inner.map (Expr.unary op) (fun _ => rfl) fun _ _ => rfl
    simpa [forestCellIds, cellIdsFrom, kind, forestParts, assemble, exprAt, opAt, partAt, text,
      size, symbol] using whole
  case postfixed body operator good kind =>
    have inner := each body (by simp) start scope
    have whole := inner.map (Expr.unary .percent) (fun _ => rfl) fun _ _ => rfl
    simpa [forestCellIds, cellIdsFrom, kind, forestParts, assemble, exprAt, partAt, size]
      using whole
  case binary left_tree right_tree operator left_good kind right_good =>
    have meant := (spelled operator (by simp)).binaryOp_isSome kind
    obtain ⟨op, symbol⟩ := Option.isSome_iff_exists.1 meant
    have left := each left_tree (by simp) start scope
    have right := each right_tree (by simp) (start + left_tree.size + 1) scope
    have whole := left.combine (Expr.binary op) right (fun _ _ => rfl)
      fun _ _ _ _ count => Expr.replaceCells_binary op count
    simpa [forestCellIds, cellIdsFrom, kind, forestParts, assemble, exprAt, opAt, partAt, text,
      size, symbol] using whole
  case emptyCall name opener closer kind kind' kind'' =>
    have inner : Marked folding [] (.ok ([] : List Expr)) (.ok []) := ⟨[], rfl, rfl, rfl⟩
    have whole := inner.map (Expr.call (String.ofList (name.text.toList.map Char.toUpper)))
      (fun _ => rfl) fun _ _ => rfl
    simpa [forestCellIds, cellIdsFrom, kind, kind', kind'', forestParts, assemble, partAt, text,
      argsOf, isCallMark, Tree.kind?, Tree.lexeme?] using whole
  case call name opener args kind kind' listed =>
    have inner := argsOf_marked (start + 1 + 1) scope
      (fun tree member => each tree (by simp [member])) listed
    have whole := inner.map (Expr.call (String.ofList (name.text.toList.map Char.toUpper)))
      (fun _ => rfl) fun _ _ => rfl
    simpa [forestCellIds, cellIdsFrom, kind, kind', forestParts, assemble, partAt, text, size]
      using whole
  case array opener elements kind listed =>
    have inner := rowsOf_marked (start + 1) scope
      (fun tree member => each tree (by simp [member])) listed
    have whole := inner.map Expr.array (fun _ => rfl) fun _ _ => rfl
    simpa [forestCellIds, cellIdsFrom, kind, forestParts, assemble, size, rowsOf, Tree.kind?,
      Tree.lexeme?] using whole

/-- With any of its references bound, a formula reads as it does without, with parameters in the
place of the bound cells. -/
theorem Tree.toExpr_marked (folding : Folding) {tree : Tree} (grammatical : tree.Grammatical)
    (spelled : ∀ lexeme ∈ tree.leaves, lexeme.Spelled) : tree.Translates folding := by
  induction tree using Tree.children_induction with
  | leaf lexeme =>
    exact fun start sheet => folding.leaf_marked start sheet (spelled lexeme List.mem_cons_self)
  | node rule children ih =>
    obtain ⟨production, children_grammatical⟩ := grammatical
    refine translates_node production
      (fun lexeme member => spelled lexeme (mem_forestLeaves member)) ?_
    intro child member
    refine ih child member (forestGrammatical_iff.1 children_grammatical child member) ?_
    intro lexeme lexeme_member
    apply spelled
    rw [leaves, forestLeaves_eq_flatten]
    exact List.mem_flatten.2 ⟨_, List.mem_map_of_mem member, lexeme_member⟩

end FormulaRuns
