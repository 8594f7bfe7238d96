import FormulaRuns.Expr.Printer
import FormulaRuns.Formula.Tree
import FormulaRuns.Proofs.Decimal.Unsigned
import FormulaRuns.Proofs.Formula.Lexing

/-!
What a printed expression is cut into. The tree of an expression is the one that its text shows,
with a node for each pair of parentheses that is printed. The leaves of the tree are the tokens of
the text (`Written.prints`), provided that the parts of the text stay apart: a comma that joins
references must not be taken for a separator, nor a sign for the exponent of a number.
-/
namespace FormulaRuns

namespace Tree

def comma : Tree := leaf ⟨.argSep, ","⟩

def semicolon : Tree := leaf ⟨.rowSep, ";"⟩

def itemsThen (behind : List Tree) : List Tree → List Tree
  | [] => behind
  | [item] => item :: behind
  | item :: next :: items => item :: comma :: itemsThen behind (next :: items)

def rowsThen (behind : List Tree) : List (List Tree) → List Tree
  | [] => behind
  | [row] => itemsThen behind row
  | row :: next :: rows => itemsThen (semicolon :: rowsThen behind (next :: rows)) row

theorem forestLeaves_append (trees others : List Tree) :
    forestLeaves (trees ++ others) = forestLeaves trees ++ forestLeaves others := by
  induction trees with
  | nil => rfl
  | cons tree trees ih => rw [List.cons_append, forestLeaves, forestLeaves, ih, List.append_assoc]

theorem forestLeaves_itemsThen (items : List Tree) :
    forestLeaves (itemsThen [] items) = [⟨.argSep, ","⟩].intercalate (items.map leaves) := by
  induction items with
  | nil => rfl
  | cons item items ih =>
    cases items with
    | nil => simp [itemsThen, forestLeaves]
    | cons next items =>
      simp only [List.map_cons, List.intercalate_cons_cons] at ih ⊢
      simp [itemsThen, forestLeaves, ih, comma, leaves]

theorem itemsThen_eq_append (behind items : List Tree) :
    itemsThen behind items = itemsThen [] items ++ behind := by
  induction items with
  | nil => rfl
  | cons item items ih =>
    cases items with
    | nil => rfl
    | cons next items => rw [itemsThen, itemsThen, ih, List.cons_append, List.cons_append]

theorem rowsThen_eq_append (behind : List Tree) (rows : List (List Tree)) :
    rowsThen behind rows = rowsThen [] rows ++ behind := by
  induction rows with
  | nil => rfl
  | cons row rows ih =>
    cases rows with
    | nil => rw [rowsThen, rowsThen, itemsThen_eq_append]
    | cons next rows =>
      rw [rowsThen, rowsThen, ih, itemsThen_eq_append,
        itemsThen_eq_append (semicolon :: rowsThen [] (next :: rows)), List.append_assoc,
        List.cons_append]

theorem forestLeaves_rowsThen (rows : List (List Tree)) :
    forestLeaves (rowsThen [] rows) =
      [⟨.rowSep, ";"⟩].intercalate (rows.map fun row => forestLeaves (itemsThen [] row)) := by
  induction rows with
  | nil => rfl
  | cons row rows ih =>
    cases rows with
    | nil => simp [rowsThen]
    | cons next rows =>
      simp only [List.map_cons, List.intercalate_cons_cons] at ih ⊢
      rw [rowsThen, itemsThen_eq_append, forestLeaves_append, forestLeaves, ih]
      simp [semicolon, leaves]

/-- A `:` behind a reference on a sheet belongs to what the sheet's name stands in front of. -/
def ranged (first last : Tree) : Tree :=
  match first with
  | node .sheetRef [sheet, bang, target] =>
    node .sheetRef [sheet, bang, node .range [target, leaf ⟨.colon, ":"⟩, last]]
  | first => node .range [first, leaf ⟨.colon, ":"⟩, last]

theorem leaves_ranged (first last : Tree) :
    (first.ranged last).leaves = first.leaves ++ [⟨.colon, ":"⟩] ++ last.leaves := by
  unfold ranged
  split <;> simp [leaves, forestLeaves]

def parenthesized (body : Tree) : Tree :=
  node .paren [leaf ⟨.openParen, "("⟩, body, leaf ⟨.closeParen, ")"⟩]

end Tree

namespace Expr

def enclosedTree (least : Nat) (e : Expr) (tree : Tree) : Tree :=
  if e.precedence < least then tree.parenthesized else tree

mutual

/-- Lambdas are in no formula, so it does not matter which tree they have. -/
def tree : Expr → Tree
  | number x => .leaf ⟨.number, plainLayout.float x⟩
  | text s => .leaf ⟨.text, textLiteral s⟩
  | bool b => .leaf ⟨.logical, truthText b⟩
  | error kind => .leaf ⟨.error, kind.spelling⟩
  | cell ref => .node .sheetRef
      [.leaf ⟨.sheetName, quoteSheet ref.sheet⟩, .leaf ⟨.bang, "!"⟩, .leaf ⟨.cellRef, ref.a1⟩]
  | param index => .leaf ⟨.name, paramText index⟩
  | name s => .leaf ⟨.name, s⟩
  | range first last => first.tree.ranged last.tree
  | unary .percent operand =>
    .node .postfixed [operand.enclosedTree 6 operand.tree, .leaf ⟨.postfixOp, "%"⟩]
  | unary op operand =>
    .node .prefixed [.leaf ⟨.prefixOp, op.symbol⟩, operand.enclosedTree 7 operand.tree]
  | binary op left right =>
    .node .binary [left.enclosedTree op.precedence left.tree, .leaf ⟨.infixOp, op.symbol⟩,
      right.enclosedTree (op.precedence + 1) right.tree]
  | call callee args =>
    .node .call (.leaf ⟨.function, callee⟩ :: .leaf ⟨.openParen, "("⟩ ::
      Tree.itemsThen [.leaf ⟨.closeParen, ")"⟩] (listTrees args))
  | array rows =>
    .node .array (.leaf ⟨.openBrace, "\x7b"⟩ ::
      Tree.rowsThen [.leaf ⟨.closeBrace, "\x7d"⟩] (rowsTrees rows))
  | lambda _ _ => .node .formula []

def listTrees : List Expr → List Tree
  | [] => []
  | e :: es => e.tree :: listTrees es

def rowsTrees : List (List Expr) → List (List Tree)
  | [] => []
  | row :: rows => listTrees row :: rowsTrees rows

end

theorem listTrees_eq_map (es : List Expr) : listTrees es = es.map tree := by
  induction es with
  | nil => rfl
  | cons e es ih => rw [listTrees, ih, List.map_cons]

theorem rowsTrees_eq_map (rows : List (List Expr)) :
    rowsTrees rows = rows.map (·.map tree) := by
  induction rows with
  | nil => rfl
  | cons row rows ih => rw [rowsTrees, ih, listTrees_eq_map, List.map_cons]

theorem printList_eq_map (es : List Expr) : printList es = es.map print := by
  induction es with
  | nil => rfl
  | cons e es ih => rw [printList, ih, List.map_cons]

theorem printRows_eq_map (rows : List (List Expr)) :
    printRows rows = rows.map fun row => ", ".intercalate (row.map print) := by
  induction rows with
  | nil => rfl
  | cons row rows ih => rw [printRows, ih, printList_eq_map, List.map_cons]

def isRangeEnd : Expr → Bool
  | number _ | cell _ | name _ => true
  | _ => false

/-- The expression can be that of a formula: there are no parameters in it, and what it is made of
is what the tokens of a formula can be. -/
inductive Written : Expr → Prop
  | number {x : Float} : IsPlainNumber (plainLayout.float x).toList →
      readNumber (plainLayout.float x).toList = some x → Written (number x)
  | text {s : String} : Written (text s)
  | bool {b : Bool} : Written (bool b)
  | error {kind : ErrorKind} : Written (error kind)
  | cell {ref : Reference} : ref.OnGrid → Written (cell ref)
  | name {s : String} : IsWord s.toList → operandKind s.toList = .name → Written (name s)
  | range {first last : Expr} : Written first → first.isRangeEnd → Written last →
      last.isRangeEnd → Written (range first last)
  | unary {op : UnaryOp} {operand : Expr} : Written operand → Written (unary op operand)
  | binary {op : BinaryOp} {left right : Expr} : Written left → Written right →
      Written (binary op left right)
  | call {callee : String} {args : List Expr} : IsWord callee.toList →
      callee.toList.map Char.toUpper = callee.toList → (∀ arg ∈ args, Written arg) →
      Written (call callee args)
  | array {rows : List (List Expr)} : rows ≠ [] → (∀ row ∈ rows, row ≠ []) →
      (∀ row ∈ rows, ∀ item ∈ row, Written item) → Written (array rows)

def isSigned : Expr → Bool
  | unary .percent _ => false
  | unary _ _ => true
  | _ => false

def isUnion : Expr → Bool
  | binary .union _ _ => true
  | _ => false

def finalName? : Expr → Option String
  | name s => some s
  | range _ last => last.finalName?
  | unary .percent _ => none
  | unary _ operand => if operand.precedence < 7 then none else operand.finalName?
  | binary op _ right => if right.precedence < op.precedence + 1 then none else right.finalName?
  | _ => none

/-- A name such as `1E` is printed right in front of a sign. -/
def meetsSign (op : BinaryOp) (left : Expr) : Bool :=
  (op == .add || op == .sub) && left.finalName?.any (isExponentBase ·.toList)

mutual

/-- The text shows the expression. It does not where a `%` is behind a sign, where a sign or a `%`
seems to belong to a part of a union only, where the comma of a union is printed right inside a call
or an array, and where a name runs on into a sign behind it. `joins` tells whether commas join. -/
def isLegible (joins : Bool) : Expr → Bool
  | unary .percent operand =>
    !operand.isSigned && !operand.isUnion && operand.isLegible (joins || operand.precedence < 6)
  | unary _ operand => !operand.isUnion && operand.isLegible (joins || operand.precedence < 7)
  | binary op left right =>
    (op != .union || joins) && (left.precedence < op.precedence || !meetsSign op left) &&
      left.isLegible (joins || left.precedence < op.precedence) &&
        right.isLegible (joins || right.precedence < op.precedence + 1)
  | call _ args => listLegible args
  | array rows => rowsLegible rows
  | _ => true

def listLegible : List Expr → Bool
  | [] => true
  | e :: es => e.isLegible false && listLegible es

def rowsLegible : List (List Expr) → Bool
  | [] => true
  | row :: rows => listLegible row && rowsLegible rows

end

theorem listLegible_eq_all (es : List Expr) : listLegible es = es.all (·.isLegible false) := by
  induction es with
  | nil => rfl
  | cons e es ih => rw [listLegible, ih, List.all_cons]

theorem rowsLegible_eq_all (rows : List (List Expr)) :
    rowsLegible rows = rows.all (·.all (·.isLegible false)) := by
  induction rows with
  | nil => rfl
  | cons row rows ih => rw [rowsLegible, ih, listLegible_eq_all, List.all_cons]

section Signs

variable {op : UnaryOp} (sign : op ≠ .percent) (operand : Expr)
include sign

theorem print_signed :
    (unary op operand).print = op.symbol ++ operand.enclosedBelow 7 operand.print := by
  rw [print]
  exact sign

theorem tree_signed : (unary op operand).tree =
    .node .prefixed [.leaf ⟨.prefixOp, op.symbol⟩, operand.enclosedTree 7 operand.tree] := by
  rw [tree]
  exact sign

theorem finalName?_signed : (unary op operand).finalName? =
    if operand.precedence < 7 then none else operand.finalName? := by
  rw [finalName?]
  exact sign

theorem isLegible_signed (joins : Bool) : (unary op operand).isLegible joins =
    (!operand.isUnion && operand.isLegible (joins || operand.precedence < 7)) := by
  rw [isLegible]
  exact sign

theorem symbol_toList : ∃ c, op.symbol = String.ofList [c] ∧ (c = '+' ∨ c = '-') := by
  cases op with
  | percent => exact absurd rfl sign
  | neg => exact ⟨'-', rfl, .inr rfl⟩
  | plus => exact ⟨'+', rfl, .inl rfl⟩

end Signs

theorem starts_of_isWord {word : List Char} (is_word : IsWord word) : Starts word := by
  cases word with
  | nil => cases is_word
  | cons c word =>
    refine ⟨c, word, rfl, fun blank => is_word.1 ?_⟩
    have limits : [' ', '\n', '=', '>'].all (· ∈ wordLimits) := by decide
    simpa using List.all_eq_true.1 limits c blank

theorem starts_of_isPlainNumber {word : List Char} (plain : IsPlainNumber word) : Starts word := by
  obtain ⟨c, rest, rfl, digit⟩ := plain.digit_first
  refine ⟨c, rest, rfl, fun blank => ?_⟩
  have no_digit : [' ', '\n', '=', '>'].all (!Char.isDigit ·) := by decide
  simpa [digit] using List.all_eq_true.1 no_digit c blank

theorem starts_quoteSheet (sheet : String) : Starts ((quoteSheet sheet).toList ++ ['!']) := by
  unfold quoteSheet
  split
  · rename_i plain
    cases chars : sheet.toList with
    | nil => simp [chars, isPlainSheet] at plain
    | cons c rest =>
      simp only [chars, isPlainSheet, Bool.and_eq_true, List.all_cons] at plain
      refine ⟨c, rest ++ ['!'], rfl, fun blank => ?_⟩
      have not_plain : [' ', '\n', '=', '>'].all (!isPlainSheetChar ·) := by decide
      simpa [plain.2.1] using List.all_eq_true.1 not_plain c blank
  · exact ⟨'\'', _, by rw [enclose, String.toList_ofList]; rfl, by decide⟩

theorem starts_enclosed {e : Expr} (starts : Starts e.print.toList) (least : Nat) :
    Starts (e.enclosedBelow least e.print).toList := by
  unfold enclosedBelow
  split
  · exact ⟨'(', e.print.toList ++ [')'], by simp, by decide⟩
  · exact starts

theorem Written.print_starts {e : Expr} (written : e.Written) : Starts e.print.toList := by
  induction written with
  | number plain => exact starts_of_isPlainNumber plain
  | text => exact ⟨'"', _, by rw [print, textLiteral, enclose, String.toList_ofList], by decide⟩
  | @bool b => cases b <;> exact ⟨_, _, rfl, by decide⟩
  | @error kind => cases kind <;> exact ⟨'#', _, rfl, by decide⟩
  | @cell ref =>
    have text : ref.print.toList = (quoteSheet ref.sheet).toList ++ ['!'] ++ ref.a1.toList := by
      simp [Reference.print]
    rw [print, text]
    exact (starts_quoteSheet ref.sheet).append _
  | name is_word => exact starts_of_isWord is_word
  | range _ _ _ _ first =>
    rw [print, String.toList_append, String.toList_append, List.append_assoc]
    exact first.append _
  | @unary op operand _ starts =>
    by_cases percent : op = .percent
    · rw [percent, print, String.toList_append]
      exact (starts_enclosed starts 6).append _
    · obtain ⟨c, symbol, is_sign⟩ := symbol_toList percent
      rw [print_signed percent, symbol, String.toList_append, String.toList_ofList]
      refine ⟨c, _, rfl, ?_⟩
      rcases is_sign with rfl | rfl <;> decide
  | @binary op _ _ _ _ left =>
    rw [print, String.toList_append, String.toList_append, List.append_assoc]
    exact (starts_enclosed left op.precedence).append _
  | call is_word =>
    rw [print]
    simp only [String.toList_append, List.append_assoc]
    exact (starts_of_isWord is_word).append _
  | array =>
    exact ⟨'\x7b', _, by rw [print, String.toList_append, String.toList_append]; rfl, by decide⟩

/-- The text of the expression is cut into the leaves of its tree. -/
def Prints (joins : Bool) (e : Expr) : Prop :=
  ∀ ⦃openers : List Opener⦄ ⦃ahead : List Char⦄, commaJoins openers = joins → Follows ahead →
    (∀ s ∈ e.finalName?, SignEnds s.toList ahead) →
      Cuts openers e.print.toList ahead e.tree.leaves

theorem signEnds_of_head? {word ahead : List Char} (no_plus : ahead.head? ≠ some '+')
    (no_minus : ahead.head? ≠ some '-') : SignEnds word ahead := fun _ => ⟨no_plus, no_minus⟩

theorem Prints.enclosed {joins : Bool} {e : Expr} {least : Nat} {openers : List Opener}
    {ahead : List Char} (prints : e.Prints (joins || e.precedence < least))
    (inside : commaJoins openers = joins) (follows : Follows ahead)
    (sign_ends : least ≤ e.precedence → ∀ s ∈ e.finalName?, SignEnds s.toList ahead) :
    Cuts openers (e.enclosedBelow least e.print).toList ahead
      (e.enclosedTree least e.tree).leaves := by
  unfold enclosedBelow enclosedTree
  split
  · rename_i looser
    have body : Cuts (.paren :: openers) e.print.toList (')' :: ahead) e.tree.leaves := by
      apply prints
      · simp [commaJoins, looser]
      · simp [followers]
      · exact fun s _ => signEnds_of_head? (by simp) (by simp)
    simpa [Tree.parenthesized, Tree.leaves, Tree.forestLeaves] using body.paren
  · rename_i tight
    rw [decide_eq_false tight, Bool.or_false] at prints
    exact prints inside follows (sign_ends (Nat.le_of_not_lt tight))

theorem isItem_print {e : Expr} {openers : List Opener} (written : e.Written)
    (prints : e.Prints false) (separates : commaJoins openers = false) :
    IsItem openers e.print.toList e.tree.leaves where
  starts := written.print_starts
  cuts closes := prints separates closes.follows fun _ _ => closes.signEnds _

theorem isItem_items {items : List Expr} {openers : List Opener}
    (separates : commaJoins openers = false) (nonempty : items ≠ [])
    (written : ∀ item ∈ items, item.Written) (prints : ∀ item ∈ items, item.Prints false) :
    IsItem openers (", ".intercalate (items.map print)).toList
      (Tree.forestLeaves (Tree.itemsThen [] (items.map tree))) := by
  rw [Tree.forestLeaves_itemsThen, List.map_map]
  exact isItem_intercalate (fun starts => joins_comma starts separates)
    (fun rest => ⟨',', ' ' :: rest, rfl, by decide⟩) nonempty
    fun item member => isItem_print (written item member) (prints item member) separates

theorem isItem_rows {rows : List (List Expr)} {openers : List Opener}
    (separates : commaJoins openers = false) (nonempty : rows ≠ [])
    (rows_nonempty : ∀ row ∈ rows, row ≠ []) (written : ∀ row ∈ rows, ∀ item ∈ row, item.Written)
    (prints : ∀ row ∈ rows, ∀ item ∈ row, item.Prints false) :
    IsItem openers ("; ".intercalate (rows.map fun row => ", ".intercalate (row.map print))).toList
      (Tree.forestLeaves (Tree.rowsThen [] (rows.map (·.map tree)))) := by
  rw [Tree.forestLeaves_rowsThen, List.map_map]
  exact isItem_intercalate joins_semicolon (fun rest => ⟨';', ' ' :: rest, rfl, by decide⟩) nonempty
    fun row member => isItem_items separates (rows_nonempty row member) (written row member)
      (prints row member)

theorem isLegible_of_isRangeEnd {e : Expr} (range_end : e.isRangeEnd) (joins : Bool) :
    e.isLegible joins := by
  cases e <;> first | rfl | cases range_end

theorem prints_range {first last : Expr} {joins : Bool}
    (first_prints : first.Prints joins) (last_prints : last.Prints joins) :
    (range first last).Prints joins := by
  intro openers ahead inside follows sign_ends
  have first_cut : Cuts openers first.print.toList (":".toList ++ last.print.toList ++ ahead)
      first.tree.leaves := by
    apply first_prints inside
    · simp [followers]
    · exact fun s _ => signEnds_of_head? (by simp) (by simp)
  have cut := first_cut.join joins_colon (last_prints inside follows sign_ends)
  simpa [print, tree, Tree.leaves_ranged] using cut

theorem prints_percent {operand : Expr} {joins : Bool}
    (prints : operand.Prints (joins || operand.precedence < 6)) :
    (unary .percent operand).Prints joins := by
  intro openers ahead inside follows _
  have body : Cuts openers (operand.enclosedBelow 6 operand.print).toList ('%' :: ahead)
      (operand.enclosedTree 6 operand.tree).leaves := by
    apply prints.enclosed inside
    · simp [followers]
    · exact fun _ _ _ => signEnds_of_head? (by simp) (by simp)
  simpa [print, tree, Tree.leaves, Tree.forestLeaves] using body.percent follows

theorem prints_signed {op : UnaryOp} (sign : op ≠ .percent) {operand : Expr} {joins : Bool}
    (starts : Starts operand.print.toList)
    (prints : operand.Prints (joins || operand.precedence < 7)) :
    (unary op operand).Prints joins := by
  intro openers ahead inside follows sign_ends
  rw [finalName?_signed sign] at sign_ends
  have body := prints.enclosed inside follows fun tight => by
    simpa [Nat.not_lt.2 tight] using sign_ends
  obtain ⟨c, symbol, is_sign⟩ := symbol_toList sign
  have cut := body.sign is_sign (starts_enclosed starts 7)
  rw [print_signed sign, tree_signed sign, symbol]
  simpa [Tree.leaves, Tree.forestLeaves] using cut

theorem signEnds_symbol {op : BinaryOp} {left : Expr} {s : String} (ends : s ∈ left.finalName?)
    (apart : meetsSign op left = false) (ahead : List Char) :
    SignEnds s.toList (op.symbol.toList ++ ahead) := by
  intro base
  have found : left.finalName? = some s := ends
  simp only [meetsSign, found, Option.any_some, base, Bool.and_true, Bool.or_eq_false_iff] at apart
  cases op <;> simp_all [BinaryOp.symbol]

theorem follows_symbol (op : BinaryOp) (ahead : List Char) :
    Follows (op.symbol.toList ++ ahead) := by
  cases op <;> simp [BinaryOp.symbol, followers]

theorem prints_binary {op : BinaryOp} {left right : Expr} {joins : Bool}
    (right_starts : Starts right.print.toList) (joining : op = .union → joins)
    (apart : op.precedence ≤ left.precedence → meetsSign op left = false)
    (left_prints : left.Prints (joins || left.precedence < op.precedence))
    (right_prints : right.Prints (joins || right.precedence < op.precedence + 1)) :
    (binary op left right).Prints joins := by
  intro openers ahead inside follows sign_ends
  rw [finalName?] at sign_ends
  have right_text := starts_enclosed right_starts (op.precedence + 1)
  have right_cut := right_prints.enclosed inside follows fun tight => by
    simpa [Nat.not_lt.2 tight] using sign_ends
  have joint : Joins openers op.symbol.toList _ [⟨.infixOp, op.symbol⟩] :=
    joins_operator (right_text.append ahead) fun union => by rw [inside, joining union]
  have left_cut := left_prints.enclosed inside
    (follows_symbol op ((right.enclosedBelow (op.precedence + 1) right.print).toList ++ ahead))
    fun tight _ ends => signEnds_symbol ends (apart tight) _
  rw [← List.append_assoc] at left_cut
  have cut := left_cut.join joint right_cut
  simpa [print, tree, Tree.leaves, Tree.forestLeaves] using cut

theorem prints_call {callee : String} {args : List Expr} {joins : Bool}
    (is_word : IsWord callee.toList) (written : ∀ arg ∈ args, arg.Written)
    (prints : ∀ arg ∈ args, arg.Prints false) : (call callee args).Prints joins := by
  intro openers ahead _ _ _
  have body : Encloses (.call :: openers) (", ".intercalate (args.map print)).toList (')' :: ahead)
      (Tree.forestLeaves (Tree.itemsThen [] (args.map tree))) := by
    by_cases empty : args = []
    · subst empty
      exact encloses_nil _ _
    · have item : IsItem (.call :: openers) _ _ := isItem_items rfl empty written prints
      exact (item.cuts ⟨')', ahead, rfl, by decide⟩).encloses
  have cut := body.call is_word
  rw [print, tree, printList_eq_map, listTrees_eq_map, Tree.itemsThen_eq_append]
  simpa [Tree.leaves, Tree.forestLeaves, Tree.forestLeaves_append] using cut

theorem prints_array {rows : List (List Expr)} {joins : Bool} (nonempty : rows ≠ [])
    (rows_nonempty : ∀ row ∈ rows, row ≠ []) (written : ∀ row ∈ rows, ∀ item ∈ row, item.Written)
    (prints : ∀ row ∈ rows, ∀ item ∈ row, item.Prints false) : (array rows).Prints joins := by
  intro openers ahead _ _ _
  have item : IsItem (.brace :: openers) _ _ :=
    isItem_rows rfl nonempty rows_nonempty written prints
  have cut := (item.cuts ⟨'\x7d', ahead, rfl, by decide⟩).array
  rw [print, tree, printRows_eq_map, rowsTrees_eq_map, Tree.rowsThen_eq_append]
  simpa [Tree.leaves, Tree.forestLeaves, Tree.forestLeaves_append] using cut

theorem Written.prints {e : Expr} (written : e.Written) {joins : Bool}
    (legible : e.isLegible joins) : e.Prints joins := by
  induction written generalizing joins with
  | number plain read =>
    exact fun _ _ _ follows _ =>
      cuts_number plain (Option.isSome_iff_exists.2 ⟨_, read⟩) follows
  | text => exact fun _ _ _ follows _ => cuts_text _ follows
  | bool => exact fun _ _ _ follows _ => cuts_truth _ follows
  | error => exact fun _ _ _ _ _ => cuts_errorCode _
  | cell on_grid => exact fun _ _ _ follows _ => cuts_cell on_grid follows
  | name is_word kind =>
    exact fun _ _ _ follows sign_ends => cuts_word is_word kind rfl follows (sign_ends _ rfl)
  | range _ first_end _ last_end first_prints last_prints =>
    exact prints_range (first_prints (isLegible_of_isRangeEnd first_end joins))
      (last_prints (isLegible_of_isRangeEnd last_end joins))
  | @unary op operand written prints =>
    by_cases percent : op = .percent
    · subst percent
      simp only [isLegible, Bool.and_eq_true] at legible
      exact prints_percent (prints legible.2)
    · rw [isLegible_signed percent, Bool.and_eq_true] at legible
      exact prints_signed percent written.print_starts (prints legible.2)
  | binary _ right_written left_prints right_prints =>
    simp only [isLegible, Bool.and_eq_true, Bool.or_eq_true, bne_iff_ne, decide_eq_true_eq,
      Bool.not_eq_true'] at legible
    obtain ⟨⟨⟨joining, apart⟩, left_legible⟩, right_legible⟩ := legible
    apply prints_binary right_written.print_starts
    · exact fun union => joining.resolve_left (fun other => other union)
    · exact fun tight => apart.resolve_left (Nat.not_lt.2 tight)
    · exact left_prints left_legible
    · exact right_prints right_legible
  | call is_word _ written prints =>
    rw [isLegible, listLegible_eq_all, List.all_eq_true] at legible
    exact prints_call is_word written fun arg member => prints arg member (legible arg member)
  | array nonempty rows_nonempty written prints =>
    rw [isLegible, rowsLegible_eq_all] at legible
    refine prints_array nonempty rows_nonempty written fun row listed item member => ?_
    have row_legible := List.all_eq_true.1 legible row listed
    exact prints row listed item member (List.all_eq_true.1 row_legible item member)

end Expr

end FormulaRuns
