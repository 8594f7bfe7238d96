import FormulaRuns.Proofs.Expr.Grammar
import FormulaRuns.Proofs.Expr.Plain
import FormulaRuns.Proofs.Formula.Nesting
import FormulaRuns.Proofs.Pattern.Drag

namespace FormulaRuns

namespace Expr

/-- On every sheet the tree of the expression reads as the expression. -/
structure Shows (e : Expr) : Prop where
  whole : e.tree.isExpression
  readsAs : ∀ sheet, e.tree.ReadsAs sheet e

theorem Shows.enclosed {e : Expr} (shows : e.Shows) (least : Nat) (sheet : String) :
    (e.enclosedTree least e.tree).ReadsAs sheet e := by
  unfold enclosedTree
  split
  · exact (shows.readsAs sheet).paren _ _
  · exact shows.readsAs sheet

theorem argsOf_itemsThen {args : List Expr} (shows : ∀ arg ∈ args, arg.Shows) (sheet : String)
    (start : Nat) : argsOf (Tree.forestParts .plain start sheet
      (Tree.itemsThen [.leaf ⟨.closeParen, ")"⟩] (args.map tree))) = .ok args := by
  induction args generalizing start with
  | nil => rfl
  | cons arg args ih =>
    have first := shows arg List.mem_cons_self
    have others := ih fun other member => shows other (List.mem_cons_of_mem arg member)
    have first_read := first.readsAs sheet start
    cases args with
    | nil =>
      simp only [List.map_cons, List.map_nil, Tree.itemsThen, Tree.forestParts,
        argsOf_cons_of_isExpression first.whole, first_read]
      rfl
    | cons next args =>
      rw [List.map_cons] at others
      have comma_read (parts : List Part) (read : Except Fault Expr) :
          argsOf ((Tree.comma, read) :: parts) = argsOf parts := rfl
      simp only [List.map_cons, Tree.itemsThen, Tree.forestParts,
        argsOf_cons_of_isExpression first.whole, first_read, comma_read, others]
      rfl

theorem foldr_addToFirstRow (items row : List Expr) (rows : List (List Expr)) :
    items.foldr addToFirstRow (row :: rows) = (items ++ row) :: rows := by
  induction items with
  | nil => rfl
  | cons item items ih =>
    rw [List.foldr_cons, ih]
    rfl

theorem rowsOf_itemsThen {behind : List Tree} {items : List Expr} {sheet : String}
    {rows : List (List Expr)} (shows : ∀ item ∈ items, item.Shows)
    (behind_read : ∀ start, rowsOf (Tree.forestParts .plain start sheet behind) = .ok rows)
    (start : Nat) :
    rowsOf (Tree.forestParts .plain start sheet (Tree.itemsThen behind (items.map tree))) =
      .ok (items.foldr addToFirstRow rows) := by
  induction items generalizing start with
  | nil => exact behind_read start
  | cons item items ih =>
    have first := shows item List.mem_cons_self
    have others := ih fun other member => shows other (List.mem_cons_of_mem item member)
    have first_read := first.readsAs sheet start
    cases items with
    | nil =>
      simp only [List.map_cons, List.map_nil, Tree.itemsThen, Tree.forestParts,
        rowsOf_cons_of_isExpression first.whole, first_read, behind_read]
      rfl
    | cons next items =>
      rw [List.map_cons] at others
      have comma_read (parts : List Part) (read : Except Fault Expr) :
          rowsOf ((Tree.comma, read) :: parts) = rowsOf parts := rfl
      simp only [List.map_cons, Tree.itemsThen, Tree.forestParts,
        rowsOf_cons_of_isExpression first.whole, first_read, comma_read, others]
      rfl

theorem rowsOf_rowsThen {rows : List (List Expr)} (nonempty : rows ≠ [])
    (shows : ∀ row ∈ rows, ∀ item ∈ row, item.Shows) (sheet : String) (start : Nat) :
    rowsOf (Tree.forestParts .plain start sheet
      (Tree.rowsThen [.leaf ⟨.closeBrace, "\x7d"⟩] (rows.map (·.map tree)))) = .ok rows := by
  induction rows generalizing start with
  | nil => exact absurd rfl nonempty
  | cons row rows ih =>
    have first := shows row List.mem_cons_self
    cases rows with
    | nil =>
      have behind_read (start : Nat) : rowsOf (Tree.forestParts .plain start sheet
          [.leaf ⟨.closeBrace, "\x7d"⟩]) = .ok [[]] := rfl
      have read := rowsOf_itemsThen first behind_read start
      rw [foldr_addToFirstRow, List.append_nil] at read
      exact read
    | cons next rows =>
      have others := ih (by simp) fun other member => shows other (List.mem_cons_of_mem row member)
      have semicolon_read (parts : List Part) (read : Except Fault Expr) :
          rowsOf ((Tree.semicolon, read) :: parts) = (rowsOf parts).map ([] :: ·) := by
        change (do return [] :: (← rowsOf parts)) = _
        cases rowsOf parts <;> rfl
      have behind_read (start : Nat) : rowsOf (Tree.forestParts .plain start sheet
          (Tree.semicolon ::
            Tree.rowsThen [.leaf ⟨.closeBrace, "\x7d"⟩] ((next :: rows).map (·.map tree)))) =
          .ok ([] :: next :: rows) := by
        rw [Tree.forestParts, semicolon_read, others]
        rfl
      have read := rowsOf_itemsThen first behind_read start
      rw [foldr_addToFirstRow, List.append_nil] at read
      exact read

theorem readsAs_cellRef {ref : Reference} (on_grid : ref.OnGrid) :
    (Tree.leaf ⟨.cellRef, ref.a1⟩).ReadsAs ref.sheet (cell ref) :=
  Tree.readsAs_cell rfl (Reference.ofA1_a1 on_grid)

theorem readsAs_on {target : Tree} {sheet' : String} {e : Expr} (read : target.ReadsAs sheet' e)
    (sheet : String) : (Tree.node .sheetRef
      [.leaf ⟨.sheetName, quoteSheet sheet'⟩, .leaf ⟨.bang, "!"⟩, target]).ReadsAs sheet e := by
  apply Tree.readsAs_sheetRef
  rwa [unquoteSheet_quoteSheet]

theorem range_shows {first last : Expr} (written : first.Written) (first_end : first.isRangeEnd)
    (last_end : last.isRangeEnd) (first_shows : first.Shows) (last_shows : last.Shows) :
    (range first last).Shows := by
  refine ⟨(stands_ranged first_end last_end).2, fun sheet => ?_⟩
  have last_read := last_shows.readsAs
  cases written with
  | number | name => exact (first_shows.readsAs sheet).range _ (last_read sheet)
  | cell on_grid => exact readsAs_on ((readsAs_cellRef on_grid).range _ (last_read _)) sheet
  | _ => cases first_end

theorem Written.shows {e : Expr} (written : e.Written) : e.Shows := by
  induction written with
  | number _ read =>
    exact ⟨rfl, fun _ _ => by simp [tree, Tree.toExpr, Folding.leaf, read]⟩
  | text =>
    exact ⟨rfl, fun _ _ => by simp [tree, Tree.toExpr, Folding.leaf, unquoteText_textLiteral]⟩
  | @bool b => cases b <;> exact ⟨rfl, fun _ _ => rfl⟩
  | error =>
    exact ⟨rfl, fun _ _ => by simp [tree, Tree.toExpr, Folding.leaf, ErrorKind.parse_spelling]⟩
  | cell on_grid => exact ⟨rfl, readsAs_on (readsAs_cellRef on_grid)⟩
  | name => exact ⟨rfl, fun _ _ => rfl⟩
  | range first_written first_end _ last_end first_shows last_shows =>
    exact range_shows first_written first_end last_end first_shows last_shows
  | @unary op operand _ shows =>
    by_cases percent : op = .percent
    · subst percent
      exact ⟨rfl, fun sheet => (shows.enclosed 6 sheet).postfixed _⟩
    · have known : UnaryOp.ofSymbol? op.symbol = some op := by cases op <;> rfl
      constructor
      · rw [tree_signed percent]
        rfl
      · intro sheet
        rw [tree_signed percent]
        exact (shows.enclosed 7 sheet).prefixed known
  | @binary op left right _ _ left_shows right_shows =>
    have known : BinaryOp.ofSymbol? op.symbol = some op := by cases op <;> decide
    exact ⟨rfl, fun sheet => (left_shows.enclosed op.precedence sheet).binary known
      (right_shows.enclosed (op.precedence + 1) sheet)⟩
  | @call callee args _ upper _ shows =>
    refine ⟨rfl, fun sheet => ?_⟩
    have read :=
      Tree.readsAs_call ⟨.function, callee⟩ ⟨.openParen, "("⟩ (argsOf_itemsThen shows sheet)
    rw [upper, String.ofList_toList] at read
    rw [tree, listTrees_eq_map]
    exact read
  | array nonempty _ _ shows =>
    refine ⟨rfl, fun sheet => ?_⟩
    rw [tree, rowsTrees_eq_map]
    exact Tree.readsAs_array rfl (rowsOf_rowsThen nonempty shows sheet)

def formulaTree (e : Expr) : Tree := .node .formula [.leaf ⟨.equals, "="⟩, e.tree]

theorem Written.tokenize_print {e : Expr} (written : e.Written) (legible : e.isLegible true) :
    ∃ tokens, tokenize ("=" ++ e.print) = .ok tokens ∧
      solidLexemes tokens = e.formulaTree.leaves := by
  have cuts : Cuts [] e.print.toList [] e.tree.leaves := by
    apply written.prints legible rfl follows_nil
    exact fun _ _ => signEnds_of_head? (by simp) (by simp)
  have leaves : e.formulaTree.leaves = ⟨.equals, "="⟩ :: e.tree.leaves := by
    simp [formulaTree, Tree.leaves, Tree.forestLeaves]
  rw [leaves]
  exact cuts.tokenize

/-- A formula that shows the expression is parsed as such, unless it is nested too deeply, which
takes a long text. -/
theorem Written.parse_print {e : Expr} (written : e.Written) (legible : e.isLegible true) :
    (nestingLimit < e.print.length ∧
        ∃ position, Formula.parse ("=" ++ e.print) = .error ⟨.tooDeep, position⟩) ∨
      ∃ formula, Formula.parse ("=" ++ e.print) = .ok formula ∧
        ∀ sheet, formula.root.plainExpr sheet = .ok e := by
  obtain ⟨tokens, cut, solid⟩ := written.tokenize_print legible
  have stands := written.tree_stands
  have derives : Derives (solidLexemes tokens) e.formulaTree := {
    rule := rfl
    grammatical := ⟨.formula rfl stands.2, trivial, stands.1, trivial⟩
    ranked := ⟨trivial, trivial, written.tree_ranked legible, trivial⟩
    yield := solid.symm }
  rcases parseLexemes_complete (leftSided_solidLexemes cut) derives with read | ⟨ahead, deep⟩
  · right
    refine ⟨⟨_, e.formulaTree⟩, Formula.parse_eq_ok_iff.2 ⟨rfl, tokens, cut, read⟩, fun sheet => ?_⟩
    exact (written.shows.readsAs sheet).formula _
  · left
    obtain ⟨position, rejected⟩ := Formula.parse_eq_tooDeep cut deep
    have long := Formula.nestingLimit_lt_of_tooDeep rejected rfl
    have length : ("=" ++ e.print).length = e.print.length + 1 := by
      rw [String.length_append, Nat.add_comm]
      rfl
    rw [length] at long
    exact ⟨Nat.lt_of_succ_lt_succ long, position, rejected⟩

end Expr

end FormulaRuns
