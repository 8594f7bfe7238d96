import FormulaRuns.Expr.OfTree
import FormulaRuns.Proofs.Formula.Grammar
import FormulaRuns.Proofs.Pattern.Leaves

namespace FormulaRuns

open List (Forall₂)

theorem halveMarks_doubleMarks (mark : Char) (text : List Char) :
    halveMarks mark (doubleMarks mark text) = text := by
  induction text with
  | nil => rfl
  | cons c text ih =>
    by_cases is_mark : c = mark
    · simp [doubleMarks, is_mark, halveMarks, ih]
    · rw [doubleMarks, if_neg is_mark]
      cases doubled : doubleMarks mark text with
      | nil =>
        rw [doubled] at ih
        rw [← ih]
        rfl
      | cons d rest =>
        rw [doubled] at ih
        simp [halveMarks, is_mark, ih]

theorem disclose_enclose (mark : Char) (text : List Char) :
    disclose mark (enclose mark text) = text := by
  simp [disclose, enclose, halveMarks_doubleMarks]

theorem unquoteText_textLiteral (text : String) : unquoteText (textLiteral text) = text := by
  simp [unquoteText, textLiteral, disclose_enclose]

theorem unquoteSheet_quoteSheet (sheet : String) : unquoteSheet (quoteSheet sheet) = sheet := by
  unfold quoteSheet
  split
  · rename_i plain
    cases chars : sheet.toList with
    | nil => simp [chars, isPlainSheet] at plain
    | cons c rest =>
      simp only [chars, isPlainSheet, Bool.and_eq_true, List.all_cons] at plain
      have no_quote : c ≠ '\'' := by
        rintro rfl
        exact absurd plain.2.1 (by decide)
      have bare : disclose '\'' (c :: rest) = c :: rest := by simp [disclose, no_quote]
      rw [unquoteSheet, chars, bare, ← chars, String.ofList_toList]
  · simp [unquoteSheet, disclose_enclose]

theorem kind?_of_isExpression {tree : Tree} (whole : tree.isExpression) {kind : TokenKind}
    (found : tree.kind? = some kind) : kind.isOperand := by
  cases tree with
  | leaf lexeme =>
    obtain rfl : lexeme.kind = kind := by simpa [Tree.kind?, Tree.lexeme?] using found
    exact whole
  | node => cases found

theorem argsOf_cons_of_isExpression {tree : Tree} (whole : tree.isExpression)
    (read : Except Fault Expr) (parts : List Part) :
    argsOf ((tree, read) :: parts) = do
      let arg ← read
      return arg :: (← argsOf parts) := by
  have operand := @kind?_of_isExpression tree whole
  have no_mark : isCallMark tree = false := by
    unfold isCallMark
    split
    · cases operand ‹_›
    · cases operand ‹_›
    · cases operand ‹_›
    · rfl
  simp [argsOf, no_mark]

theorem rowsOf_cons_of_isExpression {tree : Tree} (whole : tree.isExpression)
    (read : Except Fault Expr) (parts : List Part) :
    rowsOf ((tree, read) :: parts) = do
      let item ← read
      return addToFirstRow item (← rowsOf parts) := by
  have operand := @kind?_of_isExpression tree whole
  rw [rowsOf]
  split
  · cases operand ‹_›
  · cases operand ‹_›
  · cases operand ‹_›
  · cases operand ‹_›
  · rfl

theorem argsOf_leaf {lexeme : Lexeme} (kind : lexeme.kind = .argSep ∨ lexeme.kind = .closeParen)
    (read : Except Fault Expr) (parts : List Part) :
    argsOf ((.leaf lexeme, read) :: parts) = argsOf parts := by
  rcases kind with kind | kind <;> simp [argsOf, isCallMark, Tree.kind?, Tree.lexeme?, kind]

theorem rowsOf_leaf {lexeme : Lexeme} (kind : lexeme.kind = .argSep ∨ lexeme.kind = .closeBrace)
    (read : Except Fault Expr) (parts : List Part) :
    rowsOf ((.leaf lexeme, read) :: parts) = rowsOf parts := by
  rcases kind with kind | kind <;> simp [rowsOf, Tree.kind?, Tree.lexeme?, kind]

theorem rowsOf_rowSep {lexeme : Lexeme} (kind : lexeme.kind = .rowSep) (read : Except Fault Expr)
    (parts : List Part) :
    rowsOf ((.leaf lexeme, read) :: parts) = rowsOf parts >>= fun rows => .ok ([] :: rows) := by
  rw [rowsOf]
  simp only [Tree.kind?, Tree.lexeme?, Option.map_some, kind]
  rfl

namespace Tree

/-- On the sheet, and wherever in a formula it stands, the tree reads as the expression. -/
def ReadsAs (sheet : String) (tree : Tree) (e : Expr) : Prop :=
  ∀ start, tree.toExpr .plain start sheet = .ok e

variable {sheet : String} {e first_expr second_expr : Expr} {body first second : Tree}

theorem readsAs_cell {lexeme : Lexeme} {ref : Reference} (kind : lexeme.kind = .cellRef)
    (decoded : Reference.ofA1 sheet lexeme.text = .ok ref) :
    (leaf lexeme).ReadsAs sheet (.cell ref) := by
  intro start
  simp [toExpr, Folding.leaf, kind, Folding.reference, Folding.plain, entryAt,
    reference?_leaf kind, decoded, Except.toOption]

theorem ReadsAs.paren (read : body.ReadsAs sheet e) (opener closer : Lexeme) :
    (node .paren [leaf opener, body, leaf closer]).ReadsAs sheet e := by
  intro start
  simp [toExpr, forestParts, scope, assemble, exprAt, partAt, read _]

theorem ReadsAs.postfixed (read : body.ReadsAs sheet e) (op : Lexeme) :
    (node .postfixed [body, leaf op]).ReadsAs sheet (.unary .percent e) := by
  intro start
  simp [toExpr, forestParts, scope, assemble, exprAt, partAt, read _]

theorem ReadsAs.prefixed {op : Lexeme} {symbol : UnaryOp} (read : body.ReadsAs sheet e)
    (known : UnaryOp.ofSymbol? op.text = some symbol) :
    (node .prefixed [leaf op, body]).ReadsAs sheet (.unary symbol e) := by
  intro start
  simp [toExpr, forestParts, scope, assemble, exprAt, opAt, partAt, text, known, read _]

theorem ReadsAs.binary {op : Lexeme} {symbol : BinaryOp}
    (first_read : first.ReadsAs sheet first_expr) (known : BinaryOp.ofSymbol? op.text = some symbol)
    (second_read : second.ReadsAs sheet second_expr) :
    (node .binary [first, leaf op, second]).ReadsAs sheet
      (.binary symbol first_expr second_expr) := by
  intro start
  simp [toExpr, forestParts, scope, assemble, exprAt, opAt, partAt, text, known, first_read _,
    second_read _]

theorem ReadsAs.range (first_read : first.ReadsAs sheet first_expr) (colon : Lexeme)
    (second_read : second.ReadsAs sheet second_expr) :
    (node .range [first, leaf colon, second]).ReadsAs sheet (.range first_expr second_expr) := by
  intro start
  simp [toExpr, forestParts, scope, assemble, exprAt, partAt, first_read _, second_read _]

theorem readsAs_sheetRef (name bang : Lexeme) (read : body.ReadsAs (unquoteSheet name.text) e) :
    (node .sheetRef [leaf name, leaf bang, body]).ReadsAs sheet e := by
  intro start
  simp [toExpr, forestParts, scope, text, assemble, exprAt, partAt, read _]

theorem readsAs_call (name opener : Lexeme) {args : List Tree} {es : List Expr}
    (read : ∀ start, argsOf (forestParts .plain start sheet args) = .ok es) :
    (node .call (leaf name :: leaf opener :: args)).ReadsAs sheet
      (.call (String.ofList (name.text.toList.map Char.toUpper)) es) := by
  intro start
  simp [toExpr, forestParts, scope, assemble, partAt, text, read _]

theorem readsAs_array {opener : Lexeme} (kind : opener.kind = .openBrace) {elements : List Tree}
    {rows : List (List Expr)}
    (read : ∀ start, rowsOf (forestParts .plain start sheet elements) = .ok rows) :
    (node .array (leaf opener :: elements)).ReadsAs sheet (.array rows) := by
  intro start
  have brace : (leaf opener).kind? = some .openBrace := by simp [kind?, lexeme?, kind]
  simp [toExpr, forestParts, scope, assemble, rowsOf, brace, read _]

section Lists

variable {Fits : Tree → Expr → Prop} {trees : List Tree}

theorem filter_isExpression_item {tree : Tree} {mark : Lexeme} (whole : tree.isExpression)
    (no_operand : mark.kind.isOperand = false) (trees : List Tree) :
    (tree :: leaf mark :: trees).filter (·.isExpression) =
      tree :: trees.filter (·.isExpression) := by
  have no_expression : (leaf mark).isExpression = false := no_operand
  simp [whole, no_expression]

theorem exists_argsOf (items : Items (· == .argSep) .closeParen trees)
    (read : ∀ tree ∈ trees, tree.isExpression → ∃ e, tree.ReadsAs sheet e ∧ Fits tree e) :
    ∃ args, (∀ start, argsOf (forestParts .plain start sheet trees) = .ok args) ∧
      Forall₂ Fits (trees.filter (·.isExpression)) args := by
  induction items with
  | @last tree closer whole closer_kind =>
    obtain ⟨e, reads, fits⟩ := read tree List.mem_cons_self whole
    have no_more : argsOf [] = .ok [] := rfl
    refine ⟨[e], fun start => ?_, ?_⟩
    · simp [forestParts, argsOf_cons_of_isExpression whole, reads start,
        argsOf_leaf (.inr closer_kind), no_more]
    · rw [filter_isExpression_item whole (by rw [closer_kind]; rfl)]
      exact .cons fits .nil
  | @more tree separator trees whole separator_kind items ih =>
    obtain ⟨e, reads, fits⟩ := read tree List.mem_cons_self whole
    obtain ⟨args, args_read, all_fit⟩ := ih fun other member => read other (by simp [member])
    have comma : separator.kind = .argSep := eq_of_beq separator_kind
    refine ⟨e :: args, fun start => ?_, ?_⟩
    · simp [forestParts, argsOf_cons_of_isExpression whole, reads start,
        argsOf_leaf (.inl comma), args_read]
    · rw [filter_isExpression_item whole (by rw [comma]; rfl)]
      exact .cons fits all_fit

theorem exists_rowsOf
    (items : Items (fun kind => kind == .argSep || kind == .rowSep) .closeBrace trees)
    (read : ∀ tree ∈ trees, tree.isExpression → ∃ e, tree.ReadsAs sheet e ∧ Fits tree e) :
    ∃ row rows, (∀ start, rowsOf (forestParts .plain start sheet trees) = .ok (row :: rows)) ∧
      (∀ row' ∈ row :: rows, row' ≠ []) ∧
      Forall₂ Fits (trees.filter (·.isExpression)) (row :: rows).flatten := by
  induction items with
  | @last tree closer whole closer_kind =>
    obtain ⟨e, reads, fits⟩ := read tree List.mem_cons_self whole
    have no_more : rowsOf [] = .ok [[]] := rfl
    refine ⟨[e], [], fun start => ?_, by simp, ?_⟩
    · simp [forestParts, rowsOf_cons_of_isExpression whole, reads start,
        rowsOf_leaf (.inr closer_kind), no_more, addToFirstRow]
    · rw [filter_isExpression_item whole (by rw [closer_kind]; rfl)]
      exact .cons fits .nil
  | @more tree separator trees whole separator_kind items ih =>
    obtain ⟨e, reads, fits⟩ := read tree List.mem_cons_self whole
    obtain ⟨row, rows, rows_read, nonempty, all_fit⟩ :=
      ih fun other member => read other (by simp [member])
    rcases Bool.or_eq_true_iff.1 separator_kind with comma | semicolon
    · have comma := eq_of_beq comma
      refine ⟨e :: row, rows, fun start => ?_, ?_, ?_⟩
      · simp [forestParts, rowsOf_cons_of_isExpression whole, reads start,
          rowsOf_leaf (.inl comma), rows_read, addToFirstRow]
      · exact List.forall_mem_cons.2 ⟨by simp, (List.forall_mem_cons.1 nonempty).2⟩
      · rw [filter_isExpression_item whole (by rw [comma]; rfl)]
        exact .cons fits all_fit
    · have semicolon := eq_of_beq semicolon
      refine ⟨[e], row :: rows, fun start => ?_, List.forall_mem_cons.2 ⟨by simp, nonempty⟩, ?_⟩
      · simp [forestParts, rowsOf_cons_of_isExpression whole, reads start,
          rowsOf_rowSep semicolon, rows_read, addToFirstRow]
      · rw [filter_isExpression_item whole (by rw [semicolon]; rfl)]
        exact .cons fits all_fit

end Lists

theorem ReadsAs.formula (read : body.ReadsAs sheet e) (equals : Lexeme) :
    (node .formula [leaf equals, body]).plainExpr sheet = .ok e := by
  simp [plainExpr, toExpr, forestParts, scope, assemble, exprAt, partAt, read _]

end Tree

end FormulaRuns
