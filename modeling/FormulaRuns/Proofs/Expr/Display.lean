import FormulaRuns.Proofs.Expr.LongSums

/-!
The expressions of formulas and the formulas they are printed as. What the expression of a formula
is made of is what tokens can be (`plainExpr_written`), so a formula made of its text has it again
where the text shows the expression (`display_parses_back`). It does not always: `=(-A1)%` is
printed without the brackets that keep the sign inside (`negated_percentage_reads_otherwise`). Where
it does, only the nesting may become too deep on the way, as brackets that are not printed again no
longer divide a chain of operators (`flattened_chain_too_deep`).
-/
namespace FormulaRuns

/-- What is known of a token by its kind. The number that it stands for is finite and is read again
from what it is displayed as. -/
structure Lexeme.Faithful (lexeme : Lexeme) : Prop where
  spelled : lexeme.Spelled
  whole : lexeme.Whole
  finite : lexeme.kind = .number → ∀ x, readNumber lexeme.text.toList = some x → x.isFinite
  displays : lexeme.kind = .number → ∀ x, readNumber lexeme.text.toList = some x →
    readNumber (plainLayout.float x).toList = some x

namespace Tree

def Means (sheet : String) (tree : Tree) : Prop := ∃ e, tree.ReadsAs sheet e ∧ e.Written

def MeansEnd (sheet : String) (tree : Tree) : Prop :=
  ∃ e, tree.ReadsAs sheet e ∧ e.Written ∧ e.isRangeEnd

theorem MeansEnd.means {sheet : String} {tree : Tree} (means : tree.MeansEnd sheet) :
    tree.Means sheet := by
  obtain ⟨e, read, written, -⟩ := means
  exact ⟨e, read, written⟩

variable {lexeme : Lexeme}

theorem meansEnd_leaf (faithful : lexeme.Faithful) (range_end : lexeme.kind.isRangeEnd)
    (sheet : String) : (leaf lexeme).MeansEnd sheet := by
  obtain ⟨spelled, whole, finite, displays⟩ := faithful
  rw [Lexeme.Whole] at whole
  cases kind : lexeme.kind with
  | cellRef =>
    obtain ⟨cell, parsed⟩ := spelled.exists_cell kind
    obtain ⟨ref, decoded⟩ : ∃ ref, Reference.ofA1 sheet lexeme.text = .ok ref :=
      ⟨_, Reference.ofA1_eq_ok_iff.2 ⟨cell, parsed, rfl⟩⟩
    exact ⟨.cell ref, readsAs_cell kind decoded, .cell (Reference.ofA1_onGrid decoded), rfl⟩
  | number =>
    simp only [kind] at whole
    obtain ⟨x, read⟩ := Option.isSome_iff_exists.1 whole.2
    have plain := float_isPlain whole.1 read (finite kind x read)
    refine ⟨.number x, fun start => ?_, .number plain (displays kind x read), rfl⟩
    simp [toExpr, Folding.leaf, kind, read]
  | name =>
    simp only [kind] at whole
    refine ⟨.name lexeme.text, fun start => ?_, .name whole.1 whole.2, rfl⟩
    simp [toExpr, Folding.leaf, kind]
  | _ => simp [kind, TokenKind.isRangeEnd] at range_end

theorem means_leaf (faithful : lexeme.Faithful) (operand : lexeme.kind.isOperand)
    (sheet : String) : (leaf lexeme).Means sheet := by
  by_cases range_end : lexeme.kind.isRangeEnd
  · exact (meansEnd_leaf faithful range_end sheet).means
  · cases kind : lexeme.kind with
    | text => exact ⟨_, fun start => by simp [toExpr, Folding.leaf, kind]; rfl, .text⟩
    | logical => exact ⟨_, fun start => by simp [toExpr, Folding.leaf, kind]; rfl, .bool⟩
    | error => exact ⟨_, fun start => by simp [toExpr, Folding.leaf, kind]; rfl, .error⟩
    | _ => simp_all [TokenKind.isRangeEnd, TokenKind.isOperand]

section Lists

variable {sheet : String} {trees : List Tree}

theorem argsOf_written (items : Items (· == .argSep) .closeParen trees)
    (means : ∀ tree ∈ trees, tree.isExpression → tree.Means sheet) :
    ∃ args, (∀ start, argsOf (forestParts .plain start sheet trees) = .ok args) ∧
      ∀ arg ∈ args, arg.Written := by
  obtain ⟨args, read, each⟩ := exists_argsOf items means
  refine ⟨args, read, fun arg member => ?_⟩
  obtain ⟨-, -, written⟩ := exists_of_mem_right each member
  exact written

theorem rowsOf_written
    (items : Items (fun kind => kind == .argSep || kind == .rowSep) .closeBrace trees)
    (means : ∀ tree ∈ trees, tree.isExpression → tree.Means sheet) :
    ∃ row rows, (∀ start, rowsOf (forestParts .plain start sheet trees) = .ok (row :: rows)) ∧
      (∀ row' ∈ row :: rows, row' ≠ []) ∧ ∀ row' ∈ row :: rows, ∀ item ∈ row', item.Written := by
  obtain ⟨row, rows, read, nonempty, each⟩ := exists_rowsOf items means
  refine ⟨row, rows, read, nonempty, fun row' listed item member => ?_⟩
  obtain ⟨-, -, written⟩ := exists_of_mem_right each (List.mem_flatten_of_mem listed member)
  exact written

end Lists

theorem leaves_subset {rule : Rule} {children : List Tree} {child : Tree}
    (member : child ∈ children) :
    child.leaves ⊆ (node rule children).leaves := by
  rw [leaves, forestLeaves_eq_flatten]
  exact (List.infix_of_mem_flatten (List.mem_map_of_mem member)).subset

theorem rangeEnd_means {tree : Tree} (range_end : tree.RangeEnd)
    (faithful : ∀ lexeme ∈ tree.leaves, lexeme.Faithful) (sheet : String) :
    tree.MeansEnd sheet := by
  cases range_end with
  | atom kind => exact meansEnd_leaf (faithful _ (by simp [leaves])) kind sheet
  | elsewhere kind =>
    obtain ⟨e, read, written, is_end⟩ :=
      meansEnd_leaf (faithful _ (by simp [leaves, forestLeaves])) kind (unquoteSheet _)
    exact ⟨e, readsAs_sheetRef _ _ read, written, is_end⟩

theorem call_means {name : Lexeme} {sheet : String} {args : List Tree} {es : List Expr}
    (faithful : name.Faithful) (kind : name.kind = .function) (opener : Lexeme)
    (read : ∀ start, argsOf (forestParts .plain start sheet args) = .ok es)
    (written : ∀ e ∈ es, e.Written) :
    (node .call (leaf name :: leaf opener :: args)).Means sheet := by
  have is_word : IsWord name.text.toList := by
    have whole := faithful.whole
    simpa only [Lexeme.Whole, kind] using whole
  refine ⟨_, readsAs_call name opener read, .call ?_ ?_ written⟩
  · rw [String.toList_ofList]
    exact is_word.map_toUpper
  · simp

/-- What the grammar allows and tokens are spelled as is an expression that can be written. -/
theorem means_of_grammatical {tree : Tree} (grammatical : tree.Grammatical)
    (whole : tree.isExpression) (faithful : ∀ lexeme ∈ tree.leaves, lexeme.Faithful)
    (sheet : String) : tree.Means sheet := by
  induction tree using children_induction generalizing sheet with
  | leaf lexeme => exact means_leaf (faithful lexeme (by simp [leaves])) whole sheet
  | node rule children ih =>
    have child {tree : Tree} (member : tree ∈ children) (whole : tree.isExpression)
        (sheet : String) : tree.Means sheet :=
      ih tree member (forestGrammatical_iff.1 grammatical.2 tree member) whole
        (fun lexeme inside => faithful lexeme (leaves_subset member inside)) sheet
    have atom {lexeme : Lexeme} (member : leaf lexeme ∈ children) : lexeme.Faithful :=
      faithful lexeme (leaves_subset member (by simp [leaves]))
    obtain ⟨production, -⟩ := grammatical
    cases production with
    | formula => cases whole
    | @binary left right op left_whole op_kind right_whole =>
      obtain ⟨first, first_read, first_written⟩ := child (by simp) left_whole sheet
      obtain ⟨second, second_read, second_written⟩ := child (by simp) right_whole sheet
      have op_faithful : op.Faithful := atom (by simp)
      obtain ⟨symbol, known⟩ :=
        Option.isSome_iff_exists.1 (op_faithful.spelled.binaryOp_isSome op_kind)
      exact ⟨_, first_read.binary known second_read, .binary first_written second_written⟩
    | @prefixed op body op_kind body_whole =>
      obtain ⟨e, read, written⟩ := child (by simp) body_whole sheet
      have op_faithful : op.Faithful := atom (by simp)
      obtain ⟨symbol, known⟩ :=
        Option.isSome_iff_exists.1 (op_faithful.spelled.unaryOp_isSome op_kind)
      exact ⟨_, read.prefixed known, .unary written⟩
    | @postfixed body op body_whole =>
      obtain ⟨e, read, written⟩ := child (by simp) body_whole sheet
      exact ⟨_, read.postfixed op, .unary written⟩
    | @paren opener closer body _ body_whole =>
      obtain ⟨e, read, written⟩ := child (by simp) body_whole sheet
      exact ⟨e, read.paren opener closer, written⟩
    | @range first colon last first_kind _ last_end =>
      obtain ⟨start, start_read, start_written, start_end⟩ :=
        meansEnd_leaf (atom (by simp)) first_kind sheet
      obtain ⟨finish, finish_read, finish_written, finish_end⟩ := rangeEnd_means last_end
        (fun lexeme inside => faithful lexeme (leaves_subset (by simp) inside)) sheet
      exact ⟨_, start_read.range colon finish_read,
        .range start_written start_end finish_written finish_end⟩
    | @sheetRef name bang target _ _ good =>
      obtain ⟨e, read, written⟩ := child (by simp) good.isExpression (unquoteSheet name.text)
      exact ⟨e, readsAs_sheetRef name bang read, written⟩
    | @emptyCall name opener closer name_kind _ closer_kind =>
      have mark : isCallMark (leaf closer) := by simp [isCallMark, kind?, lexeme?, closer_kind]
      have no_args (start : Nat) :
          argsOf (forestParts .plain start sheet [leaf closer]) = .ok [] := by
        simp [forestParts, argsOf, mark]
      exact call_means (atom (by simp)) name_kind opener no_args (by simp)
    | @call name opener args name_kind _ items =>
      obtain ⟨es, read, written⟩ :=
        argsOf_written items fun tree member whole => child (by simp [member]) whole sheet
      exact call_means (atom (by simp)) name_kind opener read written
    | @array opener elements opener_kind items =>
      obtain ⟨row, rows, read, nonempty, written⟩ :=
        rowsOf_written items fun tree member whole => child (by simp [member]) whole sheet
      exact ⟨_, readsAs_array opener_kind read, .array (by simp) nonempty written⟩

end Tree

theorem Formula.plainExpr_written {text : String} {formula : Formula}
    (parsed : Formula.parse text = .ok formula)
    (finite : ∀ lexeme ∈ formula.root.leaves, lexeme.kind = .number →
      ∀ x, readNumber lexeme.text.toList = some x → x.isFinite)
    (displays : ∀ lexeme ∈ formula.root.leaves, lexeme.kind = .number →
      ∀ x, readNumber lexeme.text.toList = some x →
        readNumber (plainLayout.float x).toList = some x) (sheet : String) :
    ∃ e, formula.root.plainExpr sheet = .ok e ∧ e.Written := by
  have faithful : ∀ lexeme ∈ formula.root.leaves, lexeme.Faithful := fun lexeme member => {
    spelled := (Formula.parse_wellFormed parsed).spelled lexeme member
    whole := Formula.parse_whole parsed lexeme member
    finite := finite lexeme member
    displays := displays lexeme member }
  obtain ⟨equals, body, root, -, grammatical, whole⟩ := Formula.exists_body parsed
  rw [root] at faithful ⊢
  obtain ⟨e, read, written⟩ := Tree.means_of_grammatical grammatical whole
    (fun lexeme member => faithful lexeme (Tree.leaves_subset (by simp) member)) sheet
  exact ⟨e, read.formula equals, written⟩

/-- A legible expression of a formula with finite numbers is given back by the formula that its text
makes, on every sheet, or that formula is nested too deeply, which takes a text longer than the
limit. Of a number as it is displayed, the same number has to be read. -/
theorem Formula.display_parses_back {text : String} {formula : Formula}
    (parsed : Formula.parse text = .ok formula)
    (finite : ∀ lexeme ∈ formula.root.leaves, lexeme.kind = .number →
      ∀ x, readNumber lexeme.text.toList = some x → x.isFinite)
    (displays : ∀ lexeme ∈ formula.root.leaves, lexeme.kind = .number →
      ∀ x, readNumber lexeme.text.toList = some x →
        readNumber (plainLayout.float x).toList = some x) (sheet : String) :
    ∃ e, formula.root.plainExpr sheet = .ok e ∧ (e.isLegible true →
      (nestingLimit < e.print.length ∧
          ∃ position, Formula.parse ("=" ++ e.print) = .error ⟨.tooDeep, position⟩) ∨
        ∃ formula', Formula.parse ("=" ++ e.print) = .ok formula' ∧
          ∀ sheet', formula'.root.plainExpr sheet' = .ok e) := by
  obtain ⟨e, plain, written⟩ := Formula.plainExpr_written parsed finite displays sheet
  exact ⟨e, plain, written.parse_print⟩

def percentageTree : Tree :=
  .node .formula [.leaf ⟨.equals, "="⟩, .node .postfixed [
    .node .paren [.leaf ⟨.openParen, "("⟩,
      .node .binary [.leaf ⟨.cellRef, "A1"⟩, .leaf Ones.plus, .leaf Ones.one],
      .leaf ⟨.closeParen, ")"⟩],
    .leaf ⟨.postfixOp, "%"⟩]]

def percentage : Expr :=
  .unary .percent (.binary .add (.cell ⟨"S", 1, 1, false, false⟩) (.number 1))

theorem parse_percentage :
    Formula.parse "=(A1+1)%" = .ok ⟨"=(A1+1)%", percentageTree⟩ := by
  have cut : tokenize "=(A1+1)%" = .ok [⟨⟨.equals, "="⟩, 0, 1⟩, ⟨⟨.openParen, "("⟩, 1, 2⟩,
      ⟨⟨.cellRef, "A1"⟩, 2, 4⟩, ⟨⟨.infixOp, "+"⟩, 4, 5⟩, ⟨⟨.number, "1"⟩, 5, 6⟩,
      ⟨⟨.closeParen, ")"⟩, 6, 7⟩, ⟨⟨.postfixOp, "%"⟩, 7, 8⟩] := by
    with_unfolding_all rfl
  exact Formula.parse_eq_ok_iff.2 ⟨rfl, _, cut, rfl⟩

theorem print_percentage : percentage.print = "(S!A1+1)%" := by decide +kernel

theorem plainExpr_percentage : percentageTree.plainExpr "S" = .ok percentage := by
  have plus_known : BinaryOp.ofSymbol? Ones.plus.text = some .add := rfl
  have on_grid : Reference.OnGrid ⟨"S", 1, 1, false, false⟩ :=
    ⟨by decide, by decide, by decide, by decide⟩
  have text : Reference.a1 ⟨"S", 1, 1, false, false⟩ = "A1" := by decide +kernel
  have cell_read := Expr.readsAs_cellRef on_grid
  rw [text] at cell_read
  have sum_read := cell_read.binary plus_known (Ones.readsAs_one "S")
  exact ((sum_read.paren _ _).postfixed _).formula _

theorem Formula.display_parses_back_of_percentage :
    ∃ formula formula', Formula.parse "=(A1+1)%" = .ok formula ∧
      (∀ lexeme ∈ formula.root.leaves, lexeme.kind = .number →
        ∀ x, readNumber lexeme.text.toList = some x → x.isFinite) ∧
      (∀ lexeme ∈ formula.root.leaves, lexeme.kind = .number →
        ∀ x, readNumber lexeme.text.toList = some x →
          readNumber (plainLayout.float x).toList = some x) ∧
      formula.root.plainExpr "S" = .ok percentage ∧ percentage.isLegible true ∧
      Formula.parse ("=" ++ percentage.print) = .ok formula' ∧
      ∀ sheet, formula'.root.plainExpr sheet = .ok percentage := by
  have only_ones : ∀ lexeme ∈ percentageTree.leaves, lexeme.kind = .number →
      lexeme = Ones.one := by decide
  have finite : ∀ lexeme ∈ percentageTree.leaves, lexeme.kind = .number →
      ∀ x, readNumber lexeme.text.toList = some x → x.isFinite := by
    intro lexeme member number x read
    rw [only_ones lexeme member number] at read
    rw [Ones.eq_one_of_read read]
    exact Ones.isFinite_one
  have displays : ∀ lexeme ∈ percentageTree.leaves, lexeme.kind = .number →
      ∀ x, readNumber lexeme.text.toList = some x →
        readNumber (plainLayout.float x).toList = some x := by
    intro lexeme member number x read
    rw [only_ones lexeme member number] at read
    rw [Ones.eq_one_of_read read]
    exact Ones.display_reads_one
  obtain ⟨e, extracted, back⟩ :=
    Formula.display_parses_back parse_percentage finite displays "S"
  obtain rfl : percentage = e := Except.ok.inj (plainExpr_percentage.symm.trans extracted)
  rcases back rfl with ⟨long, -⟩ | ⟨formula', read_back, same⟩
  · rw [print_percentage] at long
    exact absurd long (by decide)
  · exact ⟨_, formula', parse_percentage, finite, displays, plainExpr_percentage, rfl, read_back,
      same⟩

def negatedTree : Tree :=
  .node .formula [.leaf ⟨.equals, "="⟩, .node .postfixed [
    .node .paren [.leaf ⟨.openParen, "("⟩,
      .node .prefixed [.leaf ⟨.prefixOp, "-"⟩, .leaf ⟨.cellRef, "A1"⟩],
      .leaf ⟨.closeParen, ")"⟩],
    .leaf ⟨.postfixOp, "%"⟩]]

def negativeTree : Tree :=
  .node .formula [.leaf ⟨.equals, "="⟩, .node .prefixed [.leaf ⟨.prefixOp, "-"⟩,
    .node .postfixed [
      .node .sheetRef [.leaf ⟨.sheetName, "S"⟩, .leaf ⟨.bang, "!"⟩, .leaf ⟨.cellRef, "A1"⟩],
      .leaf ⟨.postfixOp, "%"⟩]]]

def negated : Expr := .unary .percent (.unary .neg (.cell ⟨"S", 1, 1, false, false⟩))

def negative : Expr := .unary .neg (.unary .percent (.cell ⟨"S", 1, 1, false, false⟩))

theorem parse_negated : Formula.parse "=(-A1)%" = .ok ⟨"=(-A1)%", negatedTree⟩ := by
  have cut : tokenize "=(-A1)%" = .ok [⟨⟨.equals, "="⟩, 0, 1⟩, ⟨⟨.openParen, "("⟩, 1, 2⟩,
      ⟨⟨.prefixOp, "-"⟩, 2, 3⟩, ⟨⟨.cellRef, "A1"⟩, 3, 5⟩, ⟨⟨.closeParen, ")"⟩, 5, 6⟩,
      ⟨⟨.postfixOp, "%"⟩, 6, 7⟩] := by
    with_unfolding_all rfl
  exact Formula.parse_eq_ok_iff.2 ⟨rfl, _, cut, rfl⟩

theorem parse_negative : Formula.parse "=-S!A1%" = .ok ⟨"=-S!A1%", negativeTree⟩ := by
  have cut : tokenize "=-S!A1%" = .ok [⟨⟨.equals, "="⟩, 0, 1⟩, ⟨⟨.prefixOp, "-"⟩, 1, 2⟩,
      ⟨⟨.sheetName, "S"⟩, 2, 3⟩, ⟨⟨.bang, "!"⟩, 3, 4⟩, ⟨⟨.cellRef, "A1"⟩, 4, 6⟩,
      ⟨⟨.postfixOp, "%"⟩, 6, 7⟩] := by
    with_unfolding_all rfl
  exact Formula.parse_eq_ok_iff.2 ⟨rfl, _, cut, rfl⟩

theorem negated_prints_negative :
    negatedTree.plainExpr "S" = .ok negated ∧ negated.print = "-S!A1%" ∧
      negativeTree.plainExpr "S" = .ok negative := by
  have minus_known : UnaryOp.ofSymbol? (⟨.prefixOp, "-"⟩ : Lexeme).text = some .neg := rfl
  have on_grid : Reference.OnGrid ⟨"S", 1, 1, false, false⟩ :=
    ⟨by decide, by decide, by decide, by decide⟩
  have text : Reference.a1 ⟨"S", 1, 1, false, false⟩ = "A1" := by decide +kernel
  have cell_read := Expr.readsAs_cellRef on_grid
  rw [text] at cell_read
  refine ⟨?_, by decide +kernel, ?_⟩
  · have sign_read := cell_read.prefixed minus_known
    exact ((sign_read.paren _ _).postfixed _).formula _
  · have place_read := Expr.readsAs_on cell_read "S"
    exact ((place_read.postfixed _).prefixed minus_known).formula _

/-- A sign stands in front of a percentage without brackets, and then the percentage is taken
first. -/
theorem negated_percentage_reads_otherwise :
    ∃ formula formula', Formula.parse "=(-A1)%" = .ok formula ∧
      (∀ lexeme ∈ formula.root.leaves, lexeme.kind ≠ .number) ∧
      formula.root.plainExpr "S" = .ok negated ∧
      Formula.parse ("=" ++ negated.print) = .ok formula' ∧
      formula'.root.plainExpr "S" = .ok negative ∧ negative ≠ negated := by
  obtain ⟨read, printed, read_back⟩ := negated_prints_negative
  refine ⟨_, ⟨"=-S!A1%", negativeTree⟩, parse_negated, by decide, read, ?_, read_back, ?_⟩
  · rw [printed]
    exact parse_negative
  · intro same
    cases same

/-- Brackets in front of a sum are not printed, and then its chain has a link too many: 512 ones are
added to `1+1` in brackets, and 513 to `1` without. -/
theorem flattened_chain_too_deep :
    ∃ formula e position,
      Formula.parse ("=" ++ ("(1+1)" ++ String.join (List.replicate 512 "+1"))) = .ok formula ∧
      (∀ lexeme ∈ formula.root.leaves, lexeme.kind = .number →
        ∀ x, readNumber lexeme.text.toList = some x →
          x.isFinite ∧ readNumber (plainLayout.float x).toList = some x) ∧
      formula.root.plainExpr "S" = .ok e ∧ e.isLegible true ∧
      Formula.parse ("=" ++ e.print) = .error ⟨.tooDeep, position⟩ := by
  obtain ⟨formula, parsed, root⟩ := Ones.parse_bracketed (Nat.le_refl nestingLimit)
  obtain ⟨position, rejected⟩ := Ones.parse_long (Nat.lt_succ_self nestingLimit)
  refine ⟨formula, Ones.sum (.number 1) (nestingLimit + 1), position, parsed, ?_, ?_, ?_, ?_⟩
  · intro lexeme member number x read
    rw [root] at member
    rw [Ones.eq_one_of_mem_bracketed member number] at read
    rw [Ones.eq_one_of_read read]
    exact ⟨Ones.isFinite_one, Ones.display_reads_one⟩
  · rw [root]
    exact Ones.plainExpr_bracketed nestingLimit "S"
  · exact Ones.isLegible_sum _ rfl rfl
  · rw [Ones.print_sum _ (by decide), Expr.print, Ones.display_one]
    exact rejected

end FormulaRuns
