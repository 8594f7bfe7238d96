import FormulaRuns.Formula.Recorder
import FormulaRuns.Proofs.Outcome
import FormulaRuns.Proofs.Pattern.Leaves

/-!
The table that is written while a formula is read is the table of the tree that is read. Each
recorder does what the parser of the same name does, and what it has written by the end are the rows
of the parser's tree, behind all that was written before (`Records`). The recorders that go on from
what stands in front of them find its rows at the end of the table (`Continues`).
-/
namespace FormulaRuns

namespace Recorder

def written (rows : Array Row) (trees : List Tree) : Array Row :=
  rows ++ (Tree.forestRows rows.size trees).toArray

@[simp] theorem size_written (rows : Array Row) (trees : List Tree) :
    (written rows trees).size = rows.size + Tree.forestSize trees := by
  simp [written, Tree.forestRows_length]

@[simp] theorem written_nil (rows : Array Row) : written rows [] = rows := by
  simp [written, Tree.forestRows]

theorem written_cons (rows : Array Row) (tree : Tree) (trees : List Tree) :
    written rows (tree :: trees) = written (written rows [tree]) trees := by
  simp [written, Tree.forestRows, Tree.rowsFrom_length]

theorem forestIds_cons (rows : Array Row) (tree : Tree) (trees : List Tree) :
    Tree.forestIds rows.size (tree :: trees) =
      tree.idFrom rows.size :: Tree.forestIds (written rows [tree]).size trees := by
  simp [Tree.forestIds, Tree.forestSize]

def recorded (rows : Array Row) : Tree × List Lexeme → Nat × Progress
  | (tree, rest) => (tree.idFrom rows.size, ⟨written rows [tree], rest⟩)

def recordedForest (rows : Array Row) : List Tree × List Lexeme → List Nat × Progress
  | (trees, rest) => (Tree.forestIds rows.size trees, ⟨written rows trees, rest⟩)

/-- The recorder writes what the parser reads, and fails where it fails. -/
def Records (recorder : Recorder Nat) (parser : List Lexeme → ParsedTree) : Prop :=
  ∀ rows ahead, recorder ⟨rows, ahead⟩ = (parser ahead).map (recorded rows)

/-- The same of what goes on from a tree that was written last. -/
def Continues (extend : Nat → Recorder Nat) (extend' : Tree → List Lexeme → ParsedTree) : Prop :=
  ∀ rows left ahead, extend (left.idFrom rows.size) ⟨written rows [left], ahead⟩ =
    (extend' left ahead).map (recorded rows)

section

variable {α : Type} (rows : Array Row) (ahead : List Lexeme)

@[simp] theorem next?_bind (next : Option Lexeme → Recorder α) :
    (next? >>= next) ⟨rows, ahead⟩ = next ahead.head? ⟨rows, ahead⟩ := rfl

@[simp] theorem stop_apply (cause : ParseCause) :
    (stop cause : Recorder α) ⟨rows, ahead⟩ = .error ⟨cause, ahead⟩ := rfl

@[simp] theorem pure_apply (value : α) :
    (pure value : Recorder α) ⟨rows, ahead⟩ = .ok (value, ⟨rows, ahead⟩) := rfl

theorem bind_eq {β γ : Type} {first : Recorder β} {progress : Progress}
    {outcome : Except ParseStop γ} {record : γ → β × Progress}
    (done : first progress = outcome.map record) (next : β → Recorder α) :
    (first >>= next) progress =
      outcome >>= fun read => next (record read).1 (record read).2 := by
  change (first progress >>= fun result => next result.1 result.2) = _
  rw [done]
  cases outcome <;> rfl

theorem bind_of_ok {β : Type} {first : Recorder β} {progress : Progress} {result : β × Progress}
    (done : first progress = .ok result) (next : β → Recorder α) :
    (first >>= next) progress = next result.1 result.2 := by
  have outcome : first progress = (Except.ok result).map id := done
  exact bind_eq outcome next

theorem take_cons (lexeme : Lexeme) :
    take ⟨rows, lexeme :: ahead⟩ = .ok (recorded rows (.leaf lexeme, ahead)) := by
  simp [take, write, recorded, written, Tree.forestRows, Tree.rowsFrom]

theorem take_bind (lexeme : Lexeme) (next : Nat → Recorder α) :
    (take >>= next) ⟨rows, lexeme :: ahead⟩ =
      next ((Tree.leaf lexeme).idFrom rows.size) ⟨written rows [.leaf lexeme], ahead⟩ :=
  bind_of_ok (take_cons rows ahead lexeme) next

theorem write_node (rule : Rule) (children : List Tree) :
    write (.node rule (Tree.forestIds rows.size children)) ⟨written rows children, ahead⟩ =
      .ok (recorded rows (.node rule children, ahead)) := by
  simp [write, recorded, written, Tree.forestRows, Tree.rowsFrom, Tree.idFrom, Tree.size,
    Tree.forestRows_length]

theorem write_pair (rule : Rule) (first second : Tree) :
    write (.node rule [first.idFrom rows.size, second.idFrom (written rows [first]).size])
        ⟨written (written rows [first]) [second], ahead⟩ =
      .ok (recorded rows (.node rule [first, second], ahead)) := by
  have node := write_node rows ahead rule [first, second]
  rwa [written_cons rows first [second], forestIds_cons, forestIds_cons] at node

theorem write_triple (rule : Rule) (first second third : Tree) :
    write (.node rule [first.idFrom rows.size, second.idFrom (written rows [first]).size,
        third.idFrom (written (written rows [first]) [second]).size])
        ⟨written (written (written rows [first]) [second]) [third], ahead⟩ =
      .ok (recorded rows (.node rule [first, second, third], ahead)) := by
  have node := write_node rows ahead rule [first, second, third]
  rwa [written_cons rows first [second, third], written_cons _ second [third], forestIds_cons,
    forestIds_cons, forestIds_cons] at node

theorem Records.bind {recorder : Recorder Nat} {parser : List Lexeme → ParsedTree}
    (records : Records recorder parser) (next : Nat → Recorder α) :
    (recorder >>= next) ⟨rows, ahead⟩ = parser ahead >>= fun read =>
      next (read.1.idFrom rows.size) ⟨written rows [read.1], read.2⟩ :=
  bind_eq (records rows ahead) next

theorem Continues.bind {extend : Nat → Recorder Nat} {extend' : Tree → List Lexeme → ParsedTree}
    (continues : Continues extend extend') (left : Tree) (next : Nat → Recorder α) :
    (extend (left.idFrom rows.size) >>= next) ⟨written rows [left], ahead⟩ =
      extend' left ahead >>= fun read =>
        next (read.1.idFrom rows.size) ⟨written rows [read.1], read.2⟩ :=
  bind_eq (continues rows left ahead) next

end

theorem expect_records (kind : TokenKind) (cause : ParseCause) :
    Records (expect kind cause) (FormulaRuns.expect kind cause) := by
  intro rows ahead
  cases ahead with
  | nil => rfl
  | cons lexeme rest =>
    simp only [expect, FormulaRuns.expect, next?_bind, List.head?_cons]
    split
    · exact take_cons rows rest lexeme
    · rfl

theorem sheetReference_records {extend : Nat → Recorder Nat}
    {extend' : Tree → List Lexeme → ParsedTree} (continues : Continues extend extend')
    (rows : Array Row) (sheet : Lexeme) (ahead : List Lexeme) :
    sheetReference extend ⟨rows, sheet :: ahead⟩ =
      (FormulaRuns.sheetReference extend' sheet ahead).map (recorded rows) := by
  simp only [sheetReference, FormulaRuns.sheetReference, take_bind,
    (expect_records .bang .missingBang).bind]
  cases FormulaRuns.expect .bang .missingBang ahead with
  | error stop => rfl
  | ok read =>
    obtain ⟨bang, rest⟩ := read
    cases rest with
    | nil => rfl
    | cons target rest =>
      simp only [ok_bind, next?_bind, List.head?_cons]
      split
      · rw [take_bind, continues.bind]
        cases extend' (.leaf target) rest with
        | error stop => rfl
        | ok read => exact write_triple rows read.2 .sheetRef (.leaf sheet) bang read.1
      · rfl

theorem pure_continues : Continues pure fun left rest => .ok (left, rest) :=
  fun _ _ _ => rfl

theorem rangeEnd_records : Records rangeEnd FormulaRuns.rangeEnd := by
  intro rows ahead
  cases ahead with
  | nil => rfl
  | cons lexeme rest =>
    simp only [rangeEnd, FormulaRuns.rangeEnd, next?_bind, List.head?_cons]
    split
    · exact take_cons rows rest lexeme
    · split
      · exact sheetReference_records pure_continues rows lexeme rest
      · rfl

theorem rangeFrom_continues : Continues rangeFrom FormulaRuns.rangeFrom := by
  intro rows left ahead
  cases ahead with
  | nil => rfl
  | cons colon rest =>
    simp only [rangeFrom, FormulaRuns.rangeFrom, next?_bind, List.head?_cons]
    split
    · simp only [take_bind, rangeEnd_records.bind]
      cases FormulaRuns.rangeEnd rest with
      | error stop => rfl
      | ok read => exact write_triple rows read.2 .range left (.leaf colon) read.1
    · rfl

structure Stage.Records (stage : Stage) (level : Level) : Prop where
  operand : Recorder.Records stage.operand level.operand
  expression : ∀ least, Recorder.Records (stage.expression least) (level.expression least)
  call : Recorder.Records stage.call level.call
  array : Recorder.Records stage.array level.array

variable {stage : Stage} {level : Level}

theorem primary_records (records : stage.Records level) :
    Records (primary stage) (FormulaRuns.primary level) := by
  intro rows ahead
  cases ahead with
  | nil => rfl
  | cons lexeme rest =>
    simp only [primary, FormulaRuns.primary, next?_bind, List.head?_cons]
    cases kind : lexeme.kind
    case cellRef | name | number =>
      simp only [take_bind]
      exact rangeFrom_continues rows (.leaf lexeme) rest
    case text | logical | error => exact take_cons rows rest lexeme
    case sheetName => exact sheetReference_records rangeFrom_continues rows lexeme rest
    case function => exact records.call rows (lexeme :: rest)
    case openParen =>
      simp only [take_bind, (records.expression 0).bind]
      cases level.expression 0 rest with
      | error stop => rfl
      | ok read =>
        obtain ⟨body, rest⟩ := read
        simp only [ok_bind, (expect_records .closeParen .unclosedParen).bind]
        cases FormulaRuns.expect .closeParen .unclosedParen rest with
        | error stop => rfl
        | ok read => exact write_triple rows read.2 .paren (.leaf lexeme) body read.1
    case openBrace => exact records.array rows (lexeme :: rest)
    all_goals rfl

theorem postfixes_records (rows : Array Row) (body : Tree) (ahead : List Lexeme) :
    postfixes (body.idFrom rows.size) (written rows [body]) ahead =
      recorded rows (FormulaRuns.postfixes body ahead) := by
  induction ahead generalizing body with
  | nil => rfl
  | cons op rest ih =>
    simp only [postfixes, FormulaRuns.postfixes]
    split
    · have node := write_pair rows rest .postfixed body (.leaf op)
      have leaf := take_cons (written rows [body]) rest op
      simp only [write, take, recorded, Except.ok.injEq, Prod.mk.injEq, Progress.mk.injEq,
        Tree.idFrom_leaf] at node leaf
      rw [leaf.2.1, node.1, node.2.1]
      exact ih (.node .postfixed [body, .leaf op])
    · rfl

theorem operand_records (records : stage.Records level) :
    Records (operand stage) (FormulaRuns.operand level) := by
  intro rows ahead
  cases ahead with
  | nil => rfl
  | cons lexeme rest =>
    simp only [operand, FormulaRuns.operand, next?_bind, List.head?_cons]
    split
    · simp only [take_bind, records.operand.bind]
      cases level.operand rest with
      | error stop => rfl
      | ok read => exact write_pair rows read.2 .prefixed (.leaf lexeme) read.1
    · simp only [(primary_records records).bind]
      cases FormulaRuns.primary level (lexeme :: rest) with
      | error stop => rfl
      | ok read => exact congrArg Except.ok (postfixes_records rows read.1 read.2)

theorem chain_continues (records : stage.Records level) (least links : Nat) :
    Continues (chain stage least links) (FormulaRuns.chain level least links) := by
  intro rows left ahead
  induction links generalizing left ahead with
  | zero =>
    rw [chain, next?_bind]
    cases ahead with
    | nil => rfl
    | cons op rest =>
      simp only [FormulaRuns.chain, List.head?_cons]
      split <;> rfl
  | succ links ih =>
    rw [chain, next?_bind]
    cases ahead with
    | nil => rfl
    | cons op rest =>
      simp only [FormulaRuns.chain, List.head?_cons]
      split
      · simp only [take_bind, (records.expression op.precedence.right).bind]
        cases level.expression op.precedence.right rest with
        | error stop => rfl
        | ok read =>
          have link := write_triple rows read.2 .binary left (.leaf op) read.1
          exact (bind_of_ok link _).trans (ih _ read.2)
      · rfl

theorem expression_records (records : stage.Records level) (links least : Nat) :
    Records (expression stage links least) (FormulaRuns.expression level links least) := by
  intro rows ahead
  simp only [expression, FormulaRuns.expression, (operand_records records).bind]
  cases FormulaRuns.operand level ahead with
  | error stop => rfl
  | ok read => exact chain_continues records least links rows read.1 read.2

section

variable {item : Recorder Nat} {item' : List Lexeme → ParsedTree}

theorem items_records (records : Records item item') (isSeparator : TokenKind → Bool)
    (closer : TokenKind) (cause : ParseCause) (limit : Nat) (rows : Array Row)
    (ahead : List Lexeme) :
    items item isSeparator closer cause limit ⟨rows, ahead⟩ =
      (FormulaRuns.items item' isSeparator closer cause limit ahead).map (recordedForest rows) := by
  induction limit generalizing rows ahead with
  | zero => rfl
  | succ limit ih =>
    rw [items, FormulaRuns.items, records.bind]
    cases item' ahead with
    | error stop => rfl
    | ok read =>
      obtain ⟨tree, rest⟩ := read
      cases rest with
      | nil => rfl
      | cons lexeme rest =>
        -- What is written behind the separator, or the closing token, stands behind both trees.
        have behind (trees : List Tree) (rest : List Lexeme) :
            recordedForest rows (tree :: .leaf lexeme :: trees, rest) =
              (tree.idFrom rows.size :: (Tree.leaf lexeme).idFrom (written rows [tree]).size ::
                  Tree.forestIds (written (written rows [tree]) [.leaf lexeme]).size trees,
                ⟨written (written (written rows [tree]) [.leaf lexeme]) trees, rest⟩) := by
          rw [recordedForest, written_cons rows tree (.leaf lexeme :: trees),
            written_cons _ (.leaf lexeme) trees, forestIds_cons, forestIds_cons]
        simp only [ok_bind, next?_bind, List.head?_cons]
        split
        · rw [take_bind, bind_eq (ih _ rest)]
          cases FormulaRuns.items item' isSeparator closer cause limit rest with
          | error stop => rfl
          | ok read => exact congrArg Except.ok (behind read.1 read.2).symm
        · split
          · rw [take_bind]
            have last := behind [] rest
            rw [written_nil] at last
            exact congrArg Except.ok last.symm
          · rfl

theorem call_records (records : Records item item') (limit : Nat) :
    Records (call item limit) (FormulaRuns.call item' limit) := by
  intro rows ahead
  cases ahead with
  | nil => rfl
  | cons name rest =>
    simp only [call, FormulaRuns.call, take_bind,
      (expect_records .openParen .missingArguments).bind]
    cases FormulaRuns.expect .openParen .missingArguments rest with
    | error stop => rfl
    | ok read =>
      obtain ⟨opener, rest⟩ := read
      -- Where no call ends at once, both go on in the same way.
      have goes_on : (items item (· == .argSep) .closeParen .argumentEnd limit >>= fun args =>
            write (.node .call ((Tree.leaf name).idFrom rows.size ::
              opener.idFrom (written rows [.leaf name]).size :: args)))
            ⟨written (written rows [.leaf name]) [opener], rest⟩ =
          (FormulaRuns.items item' (· == .argSep) .closeParen .argumentEnd limit rest >>=
            fun read => .ok (.node .call (.leaf name :: opener :: read.1), read.2)).map (recorded rows) := by
        rw [bind_eq (items_records records _ _ _ limit _ rest)]
        cases FormulaRuns.items item' (· == .argSep) .closeParen .argumentEnd limit rest with
        | error stop => rfl
        | ok read =>
          have node := write_node rows read.2 .call (.leaf name :: opener :: read.1)
          rwa [written_cons rows (.leaf name) (opener :: read.1), written_cons _ opener read.1,
            forestIds_cons, forestIds_cons] at node
      simp only [ok_bind, next?_bind]
      cases rest with
      | nil => exact goes_on
      | cons closer rest =>
        by_cases closes : closer.kind = .closeParen
        · simp only [List.head?_cons, Option.any_some, closes, beq_self_eq_true, if_true, take_bind,
            FormulaRuns.expect]
          exact write_triple rows rest .call (.leaf name) opener (.leaf closer)
        · have no_closer : (closer.kind == .closeParen) = false := beq_false_of_ne closes
          simp only [List.head?_cons, Option.any_some, no_closer, Bool.false_eq_true, if_false,
            FormulaRuns.expect, closes]
          exact goes_on

theorem array_records (records : Records item item') (limit : Nat) :
    Records (array item limit) (FormulaRuns.array item' limit) := by
  intro rows ahead
  cases ahead with
  | nil => rfl
  | cons opener rest =>
    simp only [array, FormulaRuns.array, take_bind]
    rw [bind_eq (items_records records _ _ _ limit _ rest)]
    cases FormulaRuns.items item' (fun kind => kind == .argSep || kind == .rowSep) .closeBrace
      .arrayEnd limit rest with
    | error stop => rfl
    | ok read =>
      have node := write_node rows read.2 .array (.leaf opener :: read.1)
      rwa [written_cons rows (.leaf opener) read.1, forestIds_cons] at node

end

namespace Stage

theorem sealed_records : sealed.Records Level.sealed where
  operand _ _ := rfl
  expression _ _ _ := rfl
  call _ _ := rfl
  array _ _ := rfl

theorem around_records (limit links : Nat) {inner : Stage} {inner' : Level}
    (records : inner.Records inner') :
    (around limit inner links).Records (Level.around limit inner' links) where
  operand := operand_records records
  expression := expression_records records links
  call := call_records (expression_records records links 0) limit
  array := array_records (expression_records records links 0) limit

theorem above_records (limit levels : Nat) :
    (above limit levels).Records (Level.above limit levels) := by
  induction levels with
  | zero => exact around_records limit 0 sealed_records
  | succ levels ih => exact around_records limit (levels + 1) ih

end Stage

theorem formula_records (lexemes : List Lexeme) :
    formula lexemes.length ⟨#[], lexemes⟩ =
      (parseLexemes lexemes).map fun root => recorded #[] (root, []) := by
  rw [formula, parseLexemes, (expect_records .equals .missingEquals).bind]
  cases FormulaRuns.expect .equals .missingEquals lexemes with
  | error stop => rfl
  | ok read =>
    obtain ⟨equals, rest⟩ := read
    have body := (Stage.above_records lexemes.length nestingLimit).expression 0
    simp only [ok_bind, body.bind]
    cases (Level.above lexemes.length nestingLimit).expression 0 rest with
    | error stop => rfl
    | ok read =>
      obtain ⟨body, rest⟩ := read
      cases rest with
      | nil => exact write_pair #[] [] .formula equals body
      | cons lexeme rest => rfl

end Recorder

/-- The table that is written in one pass is that of the formula's tree. -/
theorem Table.ofLexemes_eq (text : String) (lexemes : List Lexeme) :
    Table.ofLexemes lexemes =
      (Formula.ofLexemes text lexemes).map fun formula =>
        ⟨formula.root.rows.toArray, formula.root.rootId⟩ := by
  simp only [Table.ofLexemes, Formula.ofLexemes, Recorder.formula_records]
  split
  · rfl
  · cases parseLexemes (lexemes.filter Formula.isSolid) with
    | error stop => rfl
    | ok root =>
      simp [Except.map, Recorder.recorded, Recorder.written, Tree.forestRows, Tree.rows,
        Tree.rootId]

end FormulaRuns
