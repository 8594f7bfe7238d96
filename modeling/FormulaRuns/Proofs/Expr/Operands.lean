import FormulaRuns.Proofs.Expr.Display
import FormulaRuns.Proofs.Formula.Literals

/-!
What becomes of a formula's operands. Every formula has an expression, on whichever sheet it stands,
and the operands of the expression are those of the formula, one for one and in the same order
(`Formula.plainExpr_operands`). The sheets of cells are found by going down the tree; where
references are collected they are found in a second way, and both agree.
-/
namespace FormulaRuns

open List (Forall₂)

namespace Expr

/-- The expression is an operand by itself. A call is none, not even one without arguments. -/
def isOperand : Expr → Bool
  | number _ | text _ | bool _ | error _ | cell _ | param _ | name _ => true
  | _ => false

def operands (e : Expr) : List Expr := e.subexprs.filter isOperand

def concernsParams : Expr → Bool
  | param _ | lambda _ _ => true
  | _ => false

def cell? : Expr → Option Reference
  | cell ref => some ref
  | _ => none

theorem listSubexprs_eq_flatMap (es : List Expr) : listSubexprs es = es.flatMap subexprs := by
  induction es with
  | nil => rfl
  | cons e es ih => rw [listSubexprs, ih, List.flatMap_cons]

theorem rowsSubexprs_eq_flatMap (rows : List (List Expr)) :
    rowsSubexprs rows = rows.flatten.flatMap subexprs := by
  induction rows with
  | nil => rfl
  | cons row rows ih =>
    rw [rowsSubexprs, ih, listSubexprs_eq_flatMap, List.flatten_cons, List.flatMap_append]

/-- An expression put together from others and no operand itself. -/
structure MadeOf (e : Expr) (es : List Expr) : Prop where
  subexprs : e.subexprs = e :: es.flatMap Expr.subexprs
  no_operand : e.isOperand = false
  plain : e.concernsParams = false

theorem MadeOf.operands {e : Expr} {es : List Expr} (made : e.MadeOf es) :
    e.operands = es.flatMap Expr.operands := by
  have others : e.operands = (es.flatMap Expr.subexprs).filter isOperand := by
    rw [Expr.operands, made.subexprs, List.filter_cons_of_neg (by simp [made.no_operand])]
  rw [others, List.filter_flatMap]
  rfl

theorem madeOf_range (first last : Expr) : (range first last).MadeOf [first, last] :=
  ⟨by simp [Expr.subexprs], rfl, rfl⟩

theorem madeOf_unary (op : UnaryOp) (operand : Expr) : (unary op operand).MadeOf [operand] :=
  ⟨by simp [Expr.subexprs], rfl, rfl⟩

theorem madeOf_binary (op : BinaryOp) (left right : Expr) :
    (binary op left right).MadeOf [left, right] :=
  ⟨by simp [Expr.subexprs], rfl, rfl⟩

theorem madeOf_call (callee : String) (args : List Expr) : (call callee args).MadeOf args :=
  ⟨by rw [Expr.subexprs, listSubexprs_eq_flatMap], rfl, rfl⟩

theorem madeOf_array (rows : List (List Expr)) : (array rows).MadeOf rows.flatten :=
  ⟨by rw [Expr.subexprs, rowsSubexprs_eq_flatMap], rfl, rfl⟩

end Expr

/-- What an operand of a formula says, whatever sheet it is on: no token that cannot be read is
replaced by an error. -/
inductive Lexeme.Denotes : Lexeme → Expr → Prop
  | cell {text : String} {ref : Reference} : Reference.ofA1 ref.sheet text = .ok ref →
      Denotes ⟨.cellRef, text⟩ (.cell ref)
  | number {text : String} {x : Float} : readNumber text.toList = some x →
      Denotes ⟨.number, text⟩ (.number x)
  | text {s : String} : Denotes ⟨.text, textLiteral s⟩ (.text s)
  | logical {text : String} {b : Bool} :
      text.toList.map Char.toUpper = (truthText b).toList → Denotes ⟨.logical, text⟩ (.bool b)
  | error {text : String} {kind : ErrorKind} :
      text.toList.map Char.toLower = kind.spelling.toList.map Char.toLower →
      Denotes ⟨.error, text⟩ (.error kind)
  | name {text : String} : Denotes ⟨.name, text⟩ (.name text)

/-- A token of which the text is known as far as expressions ask for it. -/
structure Lexeme.Legible (lexeme : Lexeme) : Prop where
  spelled : lexeme.Spelled
  whole : lexeme.Whole
  literal : lexeme.Literal

structure PlacedLeaf.Denotes (leaf : PlacedLeaf) (e : Expr) : Prop where
  denotes : leaf.lexeme.Denotes e
  reference : leaf.reference? = e.cell?

namespace Tree

def forestOperands (start : Nat) (sheet : String) (trees : List Tree) : List PlacedLeaf :=
  (forestPlacedLeaves start sheet trees).filter (·.lexeme.kind.isOperand)

/-- The operands of the trees are those of the expressions, none of which is about parameters. -/
structure Carries (sheet : String) (trees : List Tree) (es : List Expr) : Prop where
  operands : ∀ start,
    Forall₂ PlacedLeaf.Denotes (forestOperands start sheet trees) (es.flatMap Expr.operands)
  plain : ∀ e ∈ es, ∀ part ∈ e.subexprs, part.concernsParams = false

def Kept (sheet : String) (tree : Tree) : Prop :=
  ∃ e, tree.ReadsAs sheet e ∧ Carries sheet [tree] [e]

variable {sheet : String} {tree : Tree} {trees : List Tree} {e : Expr} {es : List Expr}
  {lexeme : Lexeme}

theorem carries_nil : Carries sheet [] [] where
  operands _ := .nil
  plain := by simp

theorem Carries.cons (first : Carries sheet [tree] [e]) (others : Carries sheet trees es) :
    Carries sheet (tree :: trees) (e :: es) where
  operands start := by
    have both := List.rel_append (first.operands start) (others.operands (start + tree.size))
    simpa [forestOperands, forestPlacedLeaves] using both
  plain := List.forall_mem_cons.2 ⟨first.plain e List.mem_cons_self, others.plain⟩

theorem Carries.mark {kind : TokenKind} (others : Carries sheet trees es)
    (is_kind : lexeme.kind = kind) (no_operand : kind.isOperand = false) :
    Carries sheet (leaf lexeme :: trees) es where
  operands start := by
    have same := others.operands (start + 1)
    simpa [forestOperands, forestPlacedLeaves, placedLeaves, size, is_kind, no_operand] using same
  plain := others.plain

theorem Carries.made (parts : Carries sheet trees es) (made : e.MadeOf es) :
    Carries sheet trees [e] where
  operands start := by
    rw [List.flatMap_singleton, made.operands]
    exact parts.operands start
  plain := by
    rw [List.forall_mem_singleton, made.subexprs, List.forall_mem_cons]
    refine ⟨made.plain, fun part member => ?_⟩
    obtain ⟨own, present, inside⟩ := List.mem_flatMap.1 member
    exact parts.plain own present part inside

theorem Carries.node {rule : Rule} {children : List Tree} {inner : String}
    (inside : Carries inner children es)
    (scope : (Tree.node rule children).scope sheet = inner) :
    Carries sheet [.node rule children] es where
  operands start := by
    simpa [forestOperands, forestPlacedLeaves, placedLeaves, scope] using inside.operands start
  plain := inside.plain

theorem carries_items {isSeparator : TokenKind → Bool} {closer : TokenKind}
    (items : Items isSeparator closer trees)
    (separates : ∀ kind, isSeparator kind → kind.isOperand = false)
    (closes : closer.isOperand = false)
    (each : Forall₂ (fun tree e => Carries sheet [tree] [e]) (trees.filter (·.isExpression)) es) :
    Carries sheet trees es := by
  induction items generalizing es with
  | @last tree lexeme whole kind =>
    have no_operand : lexeme.kind.isOperand = false := kind ▸ closes
    rw [filter_isExpression_item whole no_operand] at each
    cases each with
    | cons first others =>
      cases others
      exact first.cons (carries_nil.mark kind closes)
  | @more tree lexeme trees whole kind items ih =>
    have no_operand := separates _ kind
    rw [filter_isExpression_item whole no_operand] at each
    cases each with
    | cons first others => exact first.cons ((ih others).mark rfl no_operand)

theorem carries_leaf (operand : lexeme.kind.isOperand) (single : e.subexprs = [e])
    (is_operand : e.isOperand) (plain : e.concernsParams = false) (denotes : lexeme.Denotes e)
    (reference : (leaf lexeme).reference? sheet = e.cell?) : Carries sheet [leaf lexeme] [e] where
  operands start := by
    have own : e.operands = [e] := by simp [Expr.operands, single, is_operand]
    have placed : PlacedLeaf.Denotes ⟨start, sheet, lexeme⟩ e := ⟨denotes, reference⟩
    simpa [forestOperands, forestPlacedLeaves, placedLeaves, operand, own] using placed
  plain := by simpa [single] using plain

theorem leaf_kept (legible : lexeme.Legible) (operand : lexeme.kind.isOperand) (sheet : String) :
    (leaf lexeme).Kept sheet := by
  obtain ⟨kind, text⟩ := lexeme
  obtain ⟨spelled, whole, literal⟩ := legible
  have kept {e : Expr} (reads : (leaf ⟨kind, text⟩).ReadsAs sheet e) (single : e.subexprs = [e])
      (is_operand : e.isOperand) (plain : e.concernsParams = false)
      (denotes : Lexeme.Denotes ⟨kind, text⟩ e)
      (reference : (leaf ⟨kind, text⟩).reference? sheet = e.cell?) :
      (leaf ⟨kind, text⟩).Kept sheet :=
    ⟨e, reads, carries_leaf operand single is_operand plain denotes reference⟩
  cases kind with
  | cellRef =>
    obtain ⟨cell, parsed⟩ := spelled.exists_cell rfl
    have decoded : Reference.ofA1 sheet text =
        .ok ⟨sheet, cell.row, cell.col, cell.rowFixed, cell.colFixed⟩ :=
      Reference.ofA1_eq_ok_iff.2 ⟨cell, parsed, rfl⟩
    refine kept (readsAs_cell rfl decoded) rfl rfl rfl (.cell decoded) ?_
    rw [reference?_leaf rfl, decoded]
    rfl
  | number =>
    obtain ⟨x, read⟩ := Option.isSome_iff_exists.1 whole.2
    exact kept (fun start => by simp [toExpr, Folding.leaf, read]) rfl rfl rfl (.number read) rfl
  | text =>
    obtain ⟨s, rfl⟩ := literal
    exact kept (fun start => by simp [toExpr, Folding.leaf, unquoteText_textLiteral])
      rfl rfl rfl .text rfl
  | logical =>
    obtain ⟨b, upper⟩ := literal
    have truth : (text.toList.map Char.toUpper == ['T', 'R', 'U', 'E']) = b := by
      rw [upper]
      cases b <;> decide
    exact kept (fun start => by simp only [toExpr, Folding.leaf, truth]) rfl rfl rfl
      (.logical upper) rfl
  | error =>
    obtain ⟨kind, folded⟩ := literal
    have known : ErrorKind.parse text = some kind := ErrorKind.parse_of_folded folded
    exact kept (fun start => by simp [toExpr, Folding.leaf, known]) rfl rfl rfl (.error folded) rfl
  | name => exact kept (fun start => rfl) rfl rfl rfl .name rfl
  | _ => cases operand

theorem RangeEnd.isExpression (range_end : tree.RangeEnd) : tree.isExpression := by
  cases range_end with
  | atom kind => exact isOperand_of_isRangeEnd kind
  | elsewhere => rfl

theorem kept_of_grammatical (grammatical : tree.Grammatical) (whole : tree.isExpression)
    (legible : ∀ lexeme ∈ tree.leaves, lexeme.Legible) (sheet : String) : tree.Kept sheet := by
  induction tree using children_induction generalizing sheet with
  | leaf lexeme => exact leaf_kept (legible lexeme (by simp [leaves])) whole sheet
  | node rule children ih =>
    have child {tree : Tree} (member : tree ∈ children) (whole : tree.isExpression)
        (sheet : String) : tree.Kept sheet :=
      ih tree member (forestGrammatical_iff.1 grammatical.2 tree member) whole
        (fun lexeme inside => legible lexeme (leaves_subset member inside)) sheet
    have atom {lexeme : Lexeme} (member : leaf lexeme ∈ children) : lexeme.Legible :=
      legible lexeme (leaves_subset member (by simp [leaves]))
    obtain ⟨production, -⟩ := grammatical
    cases production with
    | formula => cases whole
    | @binary left right op left_whole op_kind right_whole =>
      obtain ⟨first, first_read, first_carries⟩ := child (by simp) left_whole sheet
      obtain ⟨second, second_read, second_carries⟩ := child (by simp) right_whole sheet
      obtain ⟨symbol, known⟩ :=
        Option.isSome_iff_exists.1 ((atom (by simp)).spelled.binaryOp_isSome op_kind)
      have parts := first_carries.cons ((second_carries.cons carries_nil).mark op_kind rfl)
      exact ⟨_, first_read.binary known second_read,
        (parts.made (Expr.madeOf_binary ..)).node rfl⟩
    | @prefixed op body op_kind body_whole =>
      obtain ⟨e, read, carries⟩ := child (by simp) body_whole sheet
      obtain ⟨symbol, known⟩ :=
        Option.isSome_iff_exists.1 ((atom (by simp)).spelled.unaryOp_isSome op_kind)
      have parts := carries.mark op_kind rfl
      exact ⟨_, read.prefixed known, (parts.made (Expr.madeOf_unary ..)).node rfl⟩
    | @postfixed body op body_whole op_kind =>
      obtain ⟨e, read, carries⟩ := child (by simp) body_whole sheet
      have parts := carries.cons (carries_nil.mark op_kind rfl)
      exact ⟨_, read.postfixed op, (parts.made (Expr.madeOf_unary ..)).node rfl⟩
    | @paren opener closer body opener_kind body_whole closer_kind =>
      obtain ⟨e, read, carries⟩ := child (by simp) body_whole sheet
      have parts := (carries.cons (carries_nil.mark closer_kind rfl)).mark opener_kind rfl
      exact ⟨e, read.paren opener closer, parts.node rfl⟩
    | @range first colon last first_kind colon_kind last_end =>
      have first_whole : (leaf first).isExpression := isOperand_of_isRangeEnd first_kind
      obtain ⟨start, start_read, start_carries⟩ := child (by simp) first_whole sheet
      obtain ⟨finish, finish_read, finish_carries⟩ := child (by simp) last_end.isExpression sheet
      have parts := start_carries.cons ((finish_carries.cons carries_nil).mark colon_kind rfl)
      exact ⟨_, start_read.range colon finish_read, (parts.made (Expr.madeOf_range ..)).node rfl⟩
    | @sheetRef name bang target name_kind bang_kind good =>
      obtain ⟨e, read, carries⟩ := child (by simp) good.isExpression (unquoteSheet name.text)
      have parts := (carries.mark bang_kind rfl).mark name_kind rfl
      exact ⟨e, readsAs_sheetRef name bang read, parts.node rfl⟩
    | @emptyCall name opener closer name_kind opener_kind closer_kind =>
      have no_args (start : Nat) :
          argsOf (forestParts .plain start sheet [leaf closer]) = .ok [] := by
        rw [forestParts, argsOf_leaf (.inr closer_kind)]
        rfl
      have parts : Carries sheet [leaf name, leaf opener, leaf closer] [] :=
        ((carries_nil.mark closer_kind rfl).mark opener_kind rfl).mark name_kind rfl
      exact ⟨_, readsAs_call name opener no_args, (parts.made (Expr.madeOf_call ..)).node rfl⟩
    | @call name opener args name_kind opener_kind items =>
      obtain ⟨es, read, carries⟩ :=
        exists_argsOf items fun tree member whole => child (by simp [member]) whole sheet
      have listed := carries_items items (fun kind comma => eq_of_beq comma ▸ rfl) rfl carries
      have parts := (listed.mark opener_kind rfl).mark name_kind rfl
      exact ⟨_, readsAs_call name opener read, (parts.made (Expr.madeOf_call ..)).node rfl⟩
    | @array opener elements opener_kind items =>
      obtain ⟨row, rows, read, -, carries⟩ :=
        exists_rowsOf items fun tree member whole => child (by simp [member]) whole sheet
      have separates (kind : TokenKind) (separator : kind == .argSep || kind == .rowSep) :
          kind.isOperand = false := by
        rcases Bool.or_eq_true_iff.1 separator with comma | semicolon
        · exact eq_of_beq comma ▸ rfl
        · exact eq_of_beq semicolon ▸ rfl
      have parts := (carries_items items separates rfl carries).mark opener_kind rfl
      exact ⟨_, readsAs_array opener_kind read, (parts.made (Expr.madeOf_array ..)).node rfl⟩

end Tree

namespace Tree

theorem references_eq (sheet : String) (tree : Tree) : (tree.references sheet).map (·.2) =
    (tree.placedLeaves 0 sheet).filterMap PlacedLeaf.reference? := by
  have same : (tree.references sheet).map (·.2) = (tree.numberedReferences 0 sheet).map (·.2) :=
    map_eq_of_forall₂ ((tree.references_lead 0 sheet).imp fun _ _ leads => leads.1)
  rw [same, numberedReferences, List.map_filterMap]
  congr 1
  funext leaf
  simp [PlacedLeaf.numbered?, Function.comp_def]

theorem forestOperands_reference? (start : Nat) (sheet : String) (trees : List Tree) :
    (forestOperands start sheet trees).filterMap PlacedLeaf.reference? =
      (forestPlacedLeaves start sheet trees).filterMap PlacedLeaf.reference? := by
  rw [forestOperands, List.filterMap_filter]
  congr 1
  funext leaf
  cases decoded : leaf.reference? with
  | none => simp
  | some ref => simp [PlacedLeaf.kind_of_reference? decoded, TokenKind.isOperand]

theorem filterMap_eq_of_denotes {placed : List PlacedLeaf}
    (denote : Forall₂ PlacedLeaf.Denotes placed es) :
    es.filterMap Expr.cell? = placed.filterMap PlacedLeaf.reference? := by
  induction denote with
  | nil => rfl
  | cons first _ ih => rw [List.filterMap_cons, List.filterMap_cons, first.reference, ih]

theorem Carries.denotes (carries : Carries sheet [tree] [e]) :
    Forall₂ Lexeme.Denotes (tree.leaves.filter (·.kind.isOperand)) e.operands := by
  have placed := carries.operands 0
  rw [List.flatMap_singleton] at placed
  have lexemes : tree.leaves.filter (·.kind.isOperand) =
      (forestOperands 0 sheet [tree]).map (·.lexeme) := by
    simp [forestOperands, forestPlacedLeaves, ← placedLeaves_lexemes 0 sheet, List.filter_map,
      Function.comp_def]
  rw [lexemes]
  exact List.forall₂_map_left_iff.2 (placed.imp fun _ _ denotes => denotes.denotes)

theorem Carries.cells (carries : Carries sheet [tree] [e]) :
    e.operands.filterMap Expr.cell? = (tree.references sheet).map (·.2) := by
  have placed := carries.operands 0
  rw [List.flatMap_singleton] at placed
  rw [filterMap_eq_of_denotes placed, forestOperands_reference?, references_eq, forestPlacedLeaves,
    forestPlacedLeaves, List.append_nil]

end Tree

/-- A formula has an expression on every sheet. Nothing in it is about parameters, its operands are
what the operands among the formula's tokens denote, and its cells are the formula's references. -/
theorem Formula.plainExpr_operands {text : String} {formula : Formula}
    (parsed : Formula.parse text = .ok formula) (sheet : String) :
    ∃ e, formula.root.plainExpr sheet = .ok e ∧
      (∀ part ∈ e.subexprs, part.concernsParams = false) ∧
      Forall₂ Lexeme.Denotes (formula.root.leaves.filter (·.kind.isOperand)) e.operands ∧
      e.operands.filterMap Expr.cell? = (formula.root.references sheet).map (·.2) := by
  have legible : ∀ lexeme ∈ formula.root.leaves, lexeme.Legible := fun lexeme member => {
    spelled := (Formula.parse_wellFormed parsed).spelled lexeme member
    whole := Formula.parse_whole parsed lexeme member
    literal := Formula.parse_literal parsed lexeme member }
  obtain ⟨equals, body, root, equals_kind, grammatical, whole⟩ := Formula.exists_body parsed
  rw [root] at legible ⊢
  obtain ⟨e, read, carries⟩ := Tree.kept_of_grammatical grammatical whole
    (fun lexeme member => legible lexeme (Tree.leaves_subset (by simp) member)) sheet
  have carried : Tree.Carries sheet [.node .formula [.leaf equals, body]] [e] :=
    (carries.mark equals_kind rfl).node rfl
  exact ⟨e, read.formula equals, carried.plain e List.mem_cons_self, carried.denotes,
    carried.cells⟩

def joinedTree : Tree :=
  .node .formula [.leaf ⟨.equals, "="⟩, .node .binary [
    .node .sheetRef [.leaf ⟨.sheetName, "'b c'"⟩, .leaf ⟨.bang, "!"⟩,
      .node .range [.leaf ⟨.cellRef, "$A1"⟩, .leaf ⟨.colon, ":"⟩, .leaf ⟨.cellRef, "B2"⟩]],
    .leaf ⟨.infixOp, "&"⟩, .leaf ⟨.error, "#ref!"⟩]]

theorem plainExpr_operands_of_join :
    Formula.parse "='b c'!$A1:B2&#ref!" = .ok ⟨"='b c'!$A1:B2&#ref!", joinedTree⟩ ∧
    ∃ e, joinedTree.plainExpr "S" = .ok e ∧
      (∀ part ∈ e.subexprs, part.concernsParams = false) ∧
      Forall₂ Lexeme.Denotes [⟨.cellRef, "$A1"⟩, ⟨.cellRef, "B2"⟩, ⟨.error, "#ref!"⟩] e.operands ∧
      e.operands.filterMap Expr.cell? =
        [⟨"b c", 1, 1, false, true⟩, ⟨"b c", 2, 2, false, false⟩] := by
  have cut : tokenize "='b c'!$A1:B2&#ref!" = .ok [⟨⟨.equals, "="⟩, 0, 1⟩,
      ⟨⟨.sheetName, "'b c'"⟩, 1, 6⟩, ⟨⟨.bang, "!"⟩, 6, 7⟩, ⟨⟨.cellRef, "$A1"⟩, 7, 10⟩,
      ⟨⟨.colon, ":"⟩, 10, 11⟩, ⟨⟨.cellRef, "B2"⟩, 11, 13⟩, ⟨⟨.infixOp, "&"⟩, 13, 14⟩,
      ⟨⟨.error, "#ref!"⟩, 14, 19⟩] := by
    with_unfolding_all rfl
  have parsed : Formula.parse "='b c'!$A1:B2&#ref!" = .ok ⟨"='b c'!$A1:B2&#ref!", joinedTree⟩ :=
    Formula.parse_eq_ok_iff.2 ⟨rfl, _, cut, rfl⟩
  exact ⟨parsed, Formula.plainExpr_operands parsed "S"⟩

end FormulaRuns
