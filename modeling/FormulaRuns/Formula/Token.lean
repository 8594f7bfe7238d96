namespace FormulaRuns

inductive TokenKind where
  | equals | cellRef | number | text | logical | error | name | function | sheetName | bang | colon
  | prefixOp | infixOp | postfixOp | openParen | closeParen | openBrace | closeBrace
  | argSep | rowSep | whitespace
  deriving DecidableEq, Repr

namespace TokenKind

def all : List TokenKind := [
  equals, cellRef, number, text, logical, error, name, function, sheetName, bang, colon,
  prefixOp, infixOp, postfixOp, openParen, closeParen, openBrace, closeBrace,
  argSep, rowSep, whitespace]

def label : TokenKind → String
  | equals => "Equals"
  | cellRef => "CellRef"
  | number => "Number"
  | text => "Text"
  | logical => "Logical"
  | error => "Error"
  | name => "Name"
  | function => "Function"
  | sheetName => "SheetName"
  | bang => "Bang"
  | colon => "Colon"
  | prefixOp => "OpPrefix"
  | infixOp => "OpInfix"
  | postfixOp => "OpPostfix"
  | openParen => "OpenParen"
  | closeParen => "CloseParen"
  | openBrace => "OpenBrace"
  | closeBrace => "CloseBrace"
  | argSep => "ArgSep"
  | rowSep => "RowSep"
  | whitespace => "Whitespace"

def ofLabel? (text : String) : Option TokenKind := all.find? (·.label == text)

def endsOperand : TokenKind → Bool
  | cellRef | number | text | logical | error | name | closeParen | closeBrace | postfixOp => true
  | _ => false

def isOperator : TokenKind → Bool
  | prefixOp | infixOp | postfixOp => true
  | _ => false

end TokenKind

inductive Side where
  | left | right
  deriving DecidableEq, Repr

/-- How strongly an operator binds, and from which side a chain of it is grouped. -/
structure Precedence where
  level : Nat
  side : Side
  deriving DecidableEq, Repr

structure Lexeme where
  kind : TokenKind
  text : String
  deriving DecidableEq, Repr

namespace Lexeme

def describe (lexeme : Lexeme) : String :=
  "<" ++ lexeme.kind.label ++ " value: " ++ lexeme.text ++ ">"

/-- The spelling under which an operator is ranked: a sign in front of its operand goes by `u`. -/
def operatorKey (lexeme : Lexeme) : String :=
  if lexeme.kind = .prefixOp then "u" else lexeme.text

def precedence? (lexeme : Lexeme) : Option Precedence :=
  match lexeme.operatorKey with
  | " " | "," => some ⟨8, .left⟩
  | "u" => some ⟨7, .right⟩
  | "%" => some ⟨6, .left⟩
  | "^" => some ⟨5, .left⟩
  | "*" | "/" => some ⟨4, .left⟩
  | "+" | "-" => some ⟨3, .left⟩
  | "&" => some ⟨2, .left⟩
  | "=" | "<" | ">" | "<=" | ">=" | "<>" => some ⟨1, .left⟩
  | _ => none

end Lexeme

structure Token extends Lexeme where
  start : Nat
  stop : Nat
  deriving DecidableEq, Repr

end FormulaRuns
