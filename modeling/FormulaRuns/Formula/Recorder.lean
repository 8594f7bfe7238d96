import FormulaRuns.Formula.Parser
import FormulaRuns.Formula.Table

/-!
Reading a formula's tokens straight into its table, with no tree in between. A row is written as
soon as it is known, a leaf's when its token is taken and a node's after the last of its children,
and keeps its number from then on; what stands in front of an operator is so in the table before the
node that it becomes a part of.
-/
namespace FormulaRuns

/-- The rows written so far and the tokens that lie ahead. -/
structure Progress where
  rows : Array Row
  ahead : List Lexeme

abbrev Recorder := StateT Progress (Except ParseStop)

namespace Recorder

def next? : Recorder (Option Lexeme) := fun progress => .ok (progress.ahead.head?, progress)

def stop {α : Type} (cause : ParseCause) : Recorder α :=
  fun progress => .error ⟨cause, progress.ahead⟩

def write (row : Row) : Recorder Nat := fun progress =>
  .ok (progress.rows.size, { progress with rows := progress.rows.push row })

def take : Recorder Nat := fun progress =>
  match progress.ahead with
  | [] => .error ⟨.endOfTokens, []⟩
  | lexeme :: rest => write (.leaf lexeme) { progress with ahead := rest }

def expect (kind : TokenKind) (cause : ParseCause) : Recorder Nat := do
  match ← next? with
  | some lexeme => if lexeme.kind = kind then take else stop cause
  | none => stop cause

def sheetReference (extend : Nat → Recorder Nat) : Recorder Nat := do
  let sheet ← take
  let bang ← expect .bang .missingBang
  match ← next? with
  | some lexeme =>
    if lexeme.kind.isRangeEnd then do
      let target ← extend (← take)
      write (.node .sheetRef [sheet, bang, target])
    else stop .missingTarget
  | none => stop .missingTarget

def rangeEnd : Recorder Nat := do
  match ← next? with
  | some lexeme =>
    if lexeme.kind.isRangeEnd then take
    else if lexeme.kind = .sheetName then sheetReference pure
    else stop .missingRangeEnd
  | none => stop .missingRangeEnd

def rangeFrom (left : Nat) : Recorder Nat := do
  match ← next? with
  | some lexeme =>
    if lexeme.kind = .colon then do
      let colon ← take
      let right ← rangeEnd
      write (.node .range [left, colon, right])
    else return left
  | none => return left

/-- The recorders at one depth, as in a `Level`. -/
structure Stage where
  operand : Recorder Nat
  expression : Nat → Recorder Nat
  call : Recorder Nat
  array : Recorder Nat

def primary (inner : Stage) : Recorder Nat := do
  match ← next? with
  | none => stop .endOfTokens
  | some lexeme =>
    match lexeme.kind with
    | .cellRef | .name | .number => do rangeFrom (← take)
    | .text | .logical | .error => take
    | .sheetName => sheetReference rangeFrom
    | .function => inner.call
    | .openParen => do
      let opener ← take
      let body ← inner.expression 0
      let closer ← expect .closeParen .unclosedParen
      write (.node .paren [opener, body, closer])
    | .openBrace => inner.array
    | _ => stop (.unexpected lexeme)

def postfixes (operand : Nat) (rows : Array Row) : List Lexeme → Nat × Progress
  | [] => (operand, ⟨rows, []⟩)
  | op :: rest =>
    if op.kind = .postfixOp then
      let withOp := rows.push (.leaf op)
      postfixes withOp.size (withOp.push (.node .postfixed [operand, rows.size])) rest
    else (operand, ⟨rows, op :: rest⟩)

def operand (inner : Stage) : Recorder Nat := do
  match ← next? with
  | none => stop .endOfTokens
  | some lexeme =>
    if lexeme.kind = .prefixOp then do
      let op ← take
      let body ← inner.operand
      write (.node .prefixed [op, body])
    else do
      let body ← primary inner
      fun progress => .ok (postfixes body progress.rows progress.ahead)

def chain (inner : Stage) (least links left : Nat) : Recorder Nat := do
  match ← next? with
  | none => return left
  | some lexeme =>
    if lexeme.kind = .infixOp ∧ least ≤ lexeme.precedence.level then
      match links with
      | 0 => stop .tooDeep
      | links + 1 => do
        let op ← take
        let right ← inner.expression lexeme.precedence.right
        let whole ← write (.node .binary [left, op, right])
        chain inner least links whole
    else return left
termination_by structural links

def expression (inner : Stage) (links least : Nat) : Recorder Nat := do
  let left ← operand inner
  chain inner least links left

def items (item : Recorder Nat) (isSeparator : TokenKind → Bool) (closer : TokenKind)
    (cause : ParseCause) : Nat → Recorder (List Nat)
  | 0 => stop .endOfTokens
  | limit + 1 => do
    let tree ← item
    match ← next? with
    | none => stop cause
    | some lexeme =>
      if isSeparator lexeme.kind then do
        let separator ← take
        let others ← items item isSeparator closer cause limit
        return tree :: separator :: others
      else if lexeme.kind = closer then do
        let last ← take
        return [tree, last]
      else stop cause

def call (item : Recorder Nat) (limit : Nat) : Recorder Nat := do
  let name ← take
  let opener ← expect .openParen .missingArguments
  if (← next?).any (·.kind == .closeParen) then do
    let closer ← take
    write (.node .call [name, opener, closer])
  else do
    let args ← items item (· == .argSep) .closeParen .argumentEnd limit
    write (.node .call (name :: opener :: args))

def array (item : Recorder Nat) (limit : Nat) : Recorder Nat := do
  let opener ← take
  let isSeparator := fun kind => kind == .argSep || kind == .rowSep
  let elements ← items item isSeparator .closeBrace .arrayEnd limit
  write (.node .array (opener :: elements))

namespace Stage

def sealed : Stage where
  operand := stop .tooDeep
  expression _ := stop .tooDeep
  call := stop .tooDeep
  array := stop .tooDeep

def around (limit : Nat) (inner : Stage) (links : Nat) : Stage where
  operand := Recorder.operand inner
  expression := Recorder.expression inner links
  call := Recorder.call (Recorder.expression inner links 0) limit
  array := Recorder.array (Recorder.expression inner links 0) limit

def above (limit : Nat) : Nat → Stage
  | 0 => around limit sealed 0
  | levels + 1 => around limit (above limit levels) (levels + 1)

end Stage

def formula (limit : Nat) : Recorder Nat := do
  let equals ← expect .equals .missingEquals
  let body ← (Stage.above limit nestingLimit).expression 0
  match ← next? with
  | none => write (.node .formula [equals, body])
  | some lexeme => stop (.leftover lexeme)

end Recorder

def Table.ofLexemes (lexemes : List Lexeme) : Except ParseError Table :=
  let solid := lexemes.filter Formula.isSolid
  if solid = [] then .error ⟨.noTokens, none⟩
  else match Recorder.formula solid.length ⟨#[], solid⟩ with
    | .ok (root, progress) => .ok ⟨progress.rows, root⟩
    | .error stop => .error ⟨stop.cause, some (solid.length - stop.ahead.length)⟩

def Table.parse (text : String) : Except ParseError Table :=
  match tokenize text with
  | .ok tokens => ofLexemes (tokens.map (·.toLexeme))
  | .error error => .error ⟨.lexical error, some error.position⟩

end FormulaRuns
