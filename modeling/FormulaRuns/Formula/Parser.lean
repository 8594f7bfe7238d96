import FormulaRuns.Formula.Tree
import FormulaRuns.Formula.Lexer

/-!
Reading a formula's tokens into its tree. The parsers for what stands one level deeper, inside
parentheses, behind a sign or to the right of an operator, are gathered in a `Level`; the parsers
of each level are built on those of the level within, and the innermost level accepts nothing.
-/
namespace FormulaRuns

/-- The deepest nesting accepted. Each pair of parentheses, call, array or sign opens a level, and
so does each link of a chain of operators. -/
def nestingLimit : Nat := 512

inductive ParseCause where
  | lexical (error : LexError)
  | noTokens
  | missingEquals
  | leftover (lexeme : Lexeme)
  | unexpected (lexeme : Lexeme)
  | endOfTokens
  | unclosedParen
  | missingRangeEnd
  | missingBang
  | missingTarget
  | missingArguments
  | argumentEnd
  | arrayEnd
  | tooDeep
  deriving DecidableEq, Repr

/-- The position counts tokens, or bytes if the text could not be cut into tokens. -/
structure ParseError where
  cause : ParseCause
  position : Option Nat
  deriving DecidableEq, Repr

namespace ParseError

def positionText (error : ParseError) : String :=
  match error.position with
  | some position => toString position
  | none => ""

def message (error : ParseError) : String :=
  match error.cause with
  | .lexical fault => fault.message
  | .noTokens => "No tokens to parse"
  | .missingEquals => "Formula must start with '='"
  | .leftover lexeme =>
    "Unexpected token at position " ++ error.positionText ++ ": " ++ lexeme.describe
  | .unexpected lexeme => "Unexpected token: " ++ lexeme.describe
  | .endOfTokens => "Unexpected end of tokens"
  | .unclosedParen => "Expected closing parenthesis"
  | .missingRangeEnd => "Expected reference after ':'"
  | .missingBang => "Expected '!' after sheet name"
  | .missingTarget => "Expected reference after sheet prefix"
  | .missingArguments => "Expected '(' after function name"
  | .argumentEnd => "Expected ',' or ')' in function arguments"
  | .arrayEnd => "Expected ',', ';' or '\x7d' in array"
  | .tooDeep => "Formula nests deeper than " ++ toString nestingLimit ++ " levels"

def print (error : ParseError) : String :=
  match error.position with
  | some position => "ParserError at position " ++ toString position ++ ": " ++ error.message
  | none => "ParserError: " ++ error.message

end ParseError

structure ParseStop where
  cause : ParseCause
  ahead : List Lexeme

abbrev ParsedTree := Except ParseStop (Tree × List Lexeme)

abbrev ParsedTrees := Except ParseStop (List Tree × List Lexeme)

/-- The parsers at one depth. `expression` takes the least precedence that an operator needs to
be part of the expression; `call` and `array` start at the function's name and the brace. -/
structure Level where
  operand : List Lexeme → ParsedTree
  expression : Nat → List Lexeme → ParsedTree
  call : List Lexeme → ParsedTree
  array : List Lexeme → ParsedTree

def expect (kind : TokenKind) (cause : ParseCause) : List Lexeme → ParsedTree
  | [] => .error ⟨cause, []⟩
  | lexeme :: rest =>
    if lexeme.kind = kind then .ok (.leaf lexeme, rest) else .error ⟨cause, lexeme :: rest⟩

def TokenKind.isRangeEnd : TokenKind → Bool
  | cellRef | name | number => true
  | _ => false

def sheetReference (extend : Tree → List Lexeme → ParsedTree) (sheet : Lexeme)
    (rest : List Lexeme) : ParsedTree := do
  let (bang, rest) ← expect .bang .missingBang rest
  match rest with
  | target :: rest =>
    if target.kind.isRangeEnd then
      let (target, rest) ← extend (.leaf target) rest
      .ok (.node .sheetRef [.leaf sheet, bang, target], rest)
    else .error ⟨.missingTarget, target :: rest⟩
  | [] => .error ⟨.missingTarget, []⟩

/-- The far end of a range; with a sheet of its own it is a single reference. -/
def rangeEnd : List Lexeme → ParsedTree
  | [] => .error ⟨.missingRangeEnd, []⟩
  | lexeme :: rest =>
    if lexeme.kind.isRangeEnd then .ok (.leaf lexeme, rest)
    else if lexeme.kind = .sheetName then
      sheetReference (fun target rest => .ok (target, rest)) lexeme rest
    else .error ⟨.missingRangeEnd, lexeme :: rest⟩

def rangeFrom (left : Tree) : List Lexeme → ParsedTree
  | [] => .ok (left, [])
  | colon :: rest =>
    if colon.kind = .colon then do
      let (right, rest) ← rangeEnd rest
      .ok (.node .range [left, .leaf colon, right], rest)
    else .ok (left, colon :: rest)

def primary (inner : Level) : List Lexeme → ParsedTree
  | [] => .error ⟨.endOfTokens, []⟩
  | lexeme :: rest =>
    match lexeme.kind with
    | .cellRef | .name | .number => rangeFrom (.leaf lexeme) rest
    | .text | .logical | .error => .ok (.leaf lexeme, rest)
    | .sheetName => sheetReference rangeFrom lexeme rest
    | .function => inner.call (lexeme :: rest)
    | .openParen => do
      let (body, rest) ← inner.expression 0 rest
      let (close, rest) ← expect .closeParen .unclosedParen rest
      .ok (.node .paren [.leaf lexeme, body, close], rest)
    | .openBrace => inner.array (lexeme :: rest)
    | _ => .error ⟨.unexpected lexeme, lexeme :: rest⟩

def postfixes (operand : Tree) : List Lexeme → Tree × List Lexeme
  | [] => (operand, [])
  | op :: rest =>
    if op.kind = .postfixOp then postfixes (.node .postfixed [operand, .leaf op]) rest
    else (operand, op :: rest)

def operand (inner : Level) : List Lexeme → ParsedTree
  | [] => .error ⟨.endOfTokens, []⟩
  | op :: rest =>
    if op.kind = .prefixOp then do
      let (body, rest) ← inner.operand rest
      .ok (.node .prefixed [.leaf op, body], rest)
    else do
      let (body, rest) ← primary inner (op :: rest)
      .ok (postfixes body rest)

def Lexeme.precedence (op : Lexeme) : Precedence := op.precedence?.getD ⟨0, .left⟩

/-- The least precedence inside the right operand: in a chain grouped from the left, an operator
of the same rank does not belong to it. -/
def Precedence.right (precedence : Precedence) : Nat :=
  match precedence.side with
  | .left => precedence.level + 1
  | .right => precedence.level

/-- Goes on with a chain behind its `left` part; `links` more are allowed. -/
def chain (inner : Level) (least : Nat) (links : Nat) (left : Tree) : List Lexeme → ParsedTree
  | [] => .ok (left, [])
  | op :: rest =>
    if op.kind = .infixOp ∧ least ≤ op.precedence.level then
      match links with
      | 0 => .error ⟨.tooDeep, op :: rest⟩
      | links + 1 => do
        let (right, rest) ← inner.expression op.precedence.right rest
        chain inner least links (.node .binary [left, .leaf op, right]) rest
    else .ok (left, op :: rest)
termination_by structural links

def expression (inner : Level) (links : Nat) (least : Nat) (lexemes : List Lexeme) :
    ParsedTree := do
  let (left, rest) ← operand inner lexemes
  chain inner least links left rest

/-- Expressions with separators between them, up to the closing token. There are fewer of them
than `limit`, the number of tokens in the formula. -/
def items (item : List Lexeme → ParsedTree) (isSeparator : TokenKind → Bool) (closer : TokenKind)
    (cause : ParseCause) : Nat → List Lexeme → ParsedTrees
  | 0, lexemes => .error ⟨.endOfTokens, lexemes⟩
  | limit + 1, lexemes => do
    let (tree, rest) ← item lexemes
    match rest with
    | [] => .error ⟨cause, []⟩
    | lexeme :: rest =>
      if isSeparator lexeme.kind then
        let (trees, rest) ← items item isSeparator closer cause limit rest
        .ok (tree :: .leaf lexeme :: trees, rest)
      else if lexeme.kind = closer then .ok ([tree, .leaf lexeme], rest)
      else .error ⟨cause, lexeme :: rest⟩

def call (item : List Lexeme → ParsedTree) (limit : Nat) : List Lexeme → ParsedTree
  | [] => .error ⟨.endOfTokens, []⟩
  | name :: rest => do
    let (opener, rest) ← expect .openParen .missingArguments rest
    match expect .closeParen .argumentEnd rest with
    | .ok (close, rest) => .ok (.node .call [.leaf name, opener, close], rest)
    | .error _ =>
      let (trees, rest) ← items item (· == .argSep) .closeParen .argumentEnd limit rest
      .ok (.node .call (.leaf name :: opener :: trees), rest)

def array (item : List Lexeme → ParsedTree) (limit : Nat) : List Lexeme → ParsedTree
  | [] => .error ⟨.endOfTokens, []⟩
  | opener :: rest => do
    let isSeparator := fun kind => kind == .argSep || kind == .rowSep
    let (trees, rest) ← items item isSeparator .closeBrace .arrayEnd limit rest
    .ok (.node .array (.leaf opener :: trees), rest)

namespace Level

def sealed : Level where
  operand lexemes := .error ⟨.tooDeep, lexemes⟩
  expression _ lexemes := .error ⟨.tooDeep, lexemes⟩
  call lexemes := .error ⟨.tooDeep, lexemes⟩
  array lexemes := .error ⟨.tooDeep, lexemes⟩

def around (limit : Nat) (inner : Level) (links : Nat) : Level where
  operand := FormulaRuns.operand inner
  expression := FormulaRuns.expression inner links
  call := FormulaRuns.call (FormulaRuns.expression inner links 0) limit
  array := FormulaRuns.array (FormulaRuns.expression inner links 0) limit

/-- The level that has `levels` more before the limit. -/
def above (limit : Nat) : Nat → Level
  | 0 => around limit sealed 0
  | levels + 1 => around limit (above limit levels) (levels + 1)

end Level

def parseLexemes (lexemes : List Lexeme) : Except ParseStop Tree := do
  let (equals, rest) ← expect .equals .missingEquals lexemes
  let (body, rest) ← (Level.above lexemes.length nestingLimit).expression 0 rest
  match rest with
  | [] => .ok (.node .formula [equals, body])
  | lexeme :: rest => .error ⟨.leftover lexeme, lexeme :: rest⟩

structure Formula where
  text : String
  root : Tree
  deriving Repr

namespace Formula

def isSolid (lexeme : Lexeme) : Bool := lexeme.kind != .whitespace

def ofLexemes (text : String) (lexemes : List Lexeme) : Except ParseError Formula :=
  let solid := lexemes.filter isSolid
  if solid = [] then .error ⟨.noTokens, none⟩
  else match parseLexemes solid with
    | .ok root => .ok ⟨text, root⟩
    | .error stop => .error ⟨stop.cause, some (solid.length - stop.ahead.length)⟩

def parse (text : String) : Except ParseError Formula :=
  match tokenize text with
  | .ok tokens => ofLexemes text (tokens.map (·.toLexeme))
  | .error error => .error ⟨.lexical error, some error.position⟩

end Formula

end FormulaRuns
