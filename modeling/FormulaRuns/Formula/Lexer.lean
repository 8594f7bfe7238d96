import FormulaRuns.Formula.Token
import FormulaRuns.Decimal.Reading
import FormulaRuns.Grid.A1
import FormulaRuns.Value.ErrorKind

namespace FormulaRuns

inductive LexCause where
  | missingEquals
  | unclosedText
  | strayQuote
  | sheetWithoutBang
  | unclosedBracket
  | unknownErrorCode
  | unopenedCloser
  | mismatchedPair
  | unclosedOpener
  deriving DecidableEq, Repr

structure LexError where
  cause : LexCause
  position : Nat
  deriving DecidableEq, Repr

namespace LexError

def message (error : LexError) : String :=
  match error.cause with
  | .missingEquals => "formula must start with '='"
  | .unclosedText => "Reached end of formula while parsing string"
  | .strayQuote => "Unexpected quote inside identifier"
  | .sheetWithoutBang => "Quoted sheet name must be followed by '!'"
  | .unclosedBracket => "Encountered unmatched '['"
  | .unknownErrorCode => "Invalid error code at position " ++ toString error.position
  | .unopenedCloser => "No matching opener for closer at position " ++ toString error.position
  | .mismatchedPair => "Mismatched ( and \x7b pair"
  | .unclosedOpener => "Unmatched opening parenthesis or bracket"

def print (error : LexError) : String :=
  "TokenizerError at " ++ toString error.position ++ ": " ++ error.message

end LexError

structure LexStop where
  cause : LexCause
  ahead : List Char

structure Scanned where
  kind : TokenKind
  taken : List Char
  ahead : List Char

inductive Opener where
  | call | paren | brace
  deriving DecidableEq, Repr

/-- What the tokens so far say about the next one. `solid` is the last token that is no blank. -/
structure Context where
  last : TokenKind
  solid : TokenKind
  openers : List Opener

namespace Context

def afterEquals : Context := ⟨.equals, .equals, []⟩

/-- A parenthesis belongs to a call when it stands right behind a function's name. -/
def after (context : Context) (kind : TokenKind) : Context where
  last := kind
  solid := if kind = .whitespace then context.solid else kind
  openers :=
    match kind with
    | .openParen => (if context.last = .function then .call else .paren) :: context.openers
    | .openBrace => .brace :: context.openers
    | .closeParen | .closeBrace => context.openers.tail
    | _ => context.openers

end Context

def wordEnders : List Char := [
  ',', ';', '\x7d', ')', ' ', '+', '-', '*', '/', '^', '&', '=', '>', '<', '%', ':', '!', '(',
  '\x7b', '\n', '"', '#']

def isDigitRun : List Char → Bool
  | [] => true
  | c :: rest => if c = '.' then rest.all Char.isDigit else c.isDigit && isDigitRun rest

/-- Whether a sign can follow as part of the number: digits up to a final `e`, as in `1.5E`. -/
def isExponentBase (word : List Char) : Bool :=
  match word with
  | [] => false
  | first :: rest =>
    first.isDigit && (rest.getLast?.any fun c => c.toLower == 'e') && isDigitRun rest.dropLast

/-- Goes on with a word of which `seen` has been read, last character first. Square brackets keep
all they enclose in the word; `depth` counts the open ones. -/
def scanWord (seen : List Char) (depth : Nat) : List Char → Except LexStop (List Char × List Char)
  | [] => if depth = 0 then .ok ([], []) else .error ⟨.unclosedBracket, []⟩
  | c :: rest =>
    if depth = 0 ∧ c = '\'' then .error ⟨.strayQuote, c :: rest⟩
    else if depth = 0 ∧ c ∈ wordEnders ∧ ¬((c = '+' ∨ c = '-') ∧ isExponentBase seen.reverse) then
      .ok ([], c :: rest)
    else
      let depth := if c = '[' then depth + 1 else if c = ']' then depth - 1 else depth
      (scanWord (c :: seen) depth rest).map fun (word, ahead) => (c :: word, ahead)

def isTruthWord (word : List Char) : Bool :=
  let upper := String.ofList (word.map Char.toUpper)
  upper == "TRUE" || upper == "FALSE"

def startsNumber : List Char → Bool
  | [] => false
  | c :: _ => c.isDigit || c == '.'

def operandKind (word : List Char) : TokenKind :=
  if isTruthWord word then .logical
  else if startsNumber word ∧ (readNumber word).isSome then .number
  else if (A1.parse (String.ofList word)).isOk then .cellRef
  else .name

def wordKind (word ahead : List Char) : TokenKind :=
  match ahead.head? with
  | some '(' => .function
  | some '!' => .sheetName
  | _ => operandKind word

def takeWord (first : Char) (rest : List Char) : Except LexStop Scanned :=
  (scanWord [first] (if first = '[' then 1 else 0) rest).map fun (word, ahead) =>
    ⟨wordKind (first :: word) ahead, first :: word, ahead⟩

def takeQuoted (mark : Char) : List Char → Option (List Char × List Char)
  | [] => none
  | [c] => if c = mark then some ([c], []) else none
  | c :: d :: rest =>
    if c ≠ mark then (takeQuoted mark (d :: rest)).map fun (taken, ahead) => (c :: taken, ahead)
    else if d = mark then
      (takeQuoted mark rest).map fun (taken, ahead) => (c :: d :: taken, ahead)
    else some ([c], d :: rest)

def takeText (rest : List Char) : Except LexStop Scanned :=
  match takeQuoted '"' rest with
  | some (taken, ahead) => .ok ⟨.text, '"' :: taken, ahead⟩
  | none => .error ⟨.unclosedText, []⟩

def takeSheet (rest : List Char) : Except LexStop Scanned :=
  match takeQuoted '\'' rest with
  | some (taken, ahead) =>
    if ahead.head? = some '!' then .ok ⟨.sheetName, '\'' :: taken, ahead⟩
    else .error ⟨.sheetWithoutBang, ahead⟩
  | none => .error ⟨.unclosedText, []⟩

def errorCodeLength (text : List Char) : Option Nat :=
  (ErrorKind.all.map fun kind => kind.spelling.toList).findSome? fun code =>
    if (text.take code.length).map Char.toLower = code.map Char.toLower then some code.length
    else none

def takeErrorCode (text : List Char) : Except LexStop Scanned :=
  match errorCodeLength text with
  | some length => .ok ⟨.error, text.take length, text.drop length⟩
  | none => .error ⟨.unknownErrorCode, text⟩

def isLineBlank (c : Char) : Bool := c == ' ' || c == '\n'

def isPairedOperator (c d : Char) : Bool :=
  (c == '>' && d == '=') || (c == '<' && d == '=') || (c == '<' && d == '>')

namespace Context

def operatorKind (context : Context) (c : Char) : TokenKind :=
  if c = '%' then .postfixOp
  else if (c = '+' ∨ c = '-') ∧ !context.solid.endsOperand then .prefixOp
  else .infixOp

def takeOperator (context : Context) (c : Char) : List Char → Scanned
  | [] => ⟨context.operatorKind c, [c], []⟩
  | d :: rest =>
    if isPairedOperator c d then ⟨.infixOp, [c, d], rest⟩
    else ⟨context.operatorKind c, [c], d :: rest⟩

def takeCloser (context : Context) (c : Char) (rest : List Char) : Except LexStop Scanned :=
  match context.openers with
  | [] => .error ⟨.unopenedCloser, c :: rest⟩
  | opener :: _ =>
    if c = '\x7d' ↔ opener = .brace then
      .ok ⟨if c = '\x7d' then .closeBrace else .closeParen, [c], rest⟩
    else .error ⟨.mismatchedPair, c :: rest⟩

/-- Outside calls and arrays a comma joins references. -/
def commaKind (context : Context) : TokenKind :=
  match context.openers with
  | .call :: _ | .brace :: _ => .argSep
  | _ => .infixOp

def next (context : Context) (c : Char) (rest : List Char) : Except LexStop Scanned :=
  match c with
  | '"' => takeText rest
  | '\'' => takeSheet rest
  | '#' => takeErrorCode (c :: rest)
  | ' ' | '\n' => .ok ⟨.whitespace, c :: rest.takeWhile isLineBlank, rest.dropWhile isLineBlank⟩
  | '+' | '-' | '*' | '/' | '^' | '&' | '=' | '>' | '<' | '%' => .ok (context.takeOperator c rest)
  | '(' => .ok ⟨.openParen, [c], rest⟩
  | '\x7b' => .ok ⟨.openBrace, [c], rest⟩
  | ')' | '\x7d' => context.takeCloser c rest
  | ';' => .ok ⟨.rowSep, [c], rest⟩
  | ',' => .ok ⟨context.commaKind, [c], rest⟩
  | ':' => .ok ⟨.colon, [c], rest⟩
  | '!' => .ok ⟨.bang, [c], rest⟩
  | c => takeWord c rest

end Context

theorem scanWord_split {seen : List Char} {depth : Nat} {text word ahead : List Char}
    (h : scanWord seen depth text = .ok (word, ahead)) : word ++ ahead = text := by
  induction text generalizing seen depth word ahead with
  | nil =>
    simp only [scanWord] at h
    split at h <;> simp_all
  | cons c rest ih =>
    simp only [scanWord] at h
    split at h
    · cases h
    · split at h
      · cases h; rfl
      · generalize hs : scanWord _ _ rest = r at h
        cases r with
        | error _ => simp [Except.map] at h
        | ok pair =>
          obtain ⟨tail, left⟩ := pair
          simp only [Except.map, Except.ok.injEq, Prod.mk.injEq] at h
          obtain ⟨rfl, rfl⟩ := h
          simp [ih hs]

theorem takeQuoted_split {mark : Char} {text taken ahead : List Char}
    (h : takeQuoted mark text = some (taken, ahead)) : taken ++ ahead = text := by
  fun_induction takeQuoted mark text generalizing taken ahead with
  | case1 => simp at h
  | case2 => simp_all
  | case3 => simp at h
  | case4 c d rest _ ih =>
    obtain ⟨⟨tail, left⟩, hr, hp⟩ := Option.map_eq_some_iff.1 h
    simp only [Prod.mk.injEq] at hp
    obtain ⟨rfl, rfl⟩ := hp
    simp [ih hr]
  | case5 c rest _ ih =>
    obtain ⟨⟨tail, left⟩, hr, hp⟩ := Option.map_eq_some_iff.1 h
    simp only [Prod.mk.injEq] at hp
    obtain ⟨rfl, rfl⟩ := hp
    simp [ih hr]
  | case6 c d rest hc _ =>
    simp only [Option.some.injEq, Prod.mk.injEq] at h
    obtain ⟨rfl, rfl⟩ := h
    rfl

theorem takeText_split {rest : List Char} {scanned : Scanned} (h : takeText rest = .ok scanned) :
    scanned.taken ++ scanned.ahead = '"' :: rest ∧ scanned.taken ≠ [] := by
  unfold takeText at h
  split at h
  · rename_i hq
    cases h
    simp [takeQuoted_split hq]
  · cases h

theorem takeSheet_split {rest : List Char} {scanned : Scanned} (h : takeSheet rest = .ok scanned) :
    scanned.taken ++ scanned.ahead = '\'' :: rest ∧ scanned.taken ≠ [] := by
  unfold takeSheet at h
  split at h
  · rename_i hq
    split at h
    · cases h
      simp [takeQuoted_split hq]
    · cases h
  · cases h

theorem errorCodeLength_pos {text : List Char} {length : Nat}
    (h : errorCodeLength text = some length) : 0 < length := by
  obtain ⟨code, member, found⟩ := List.exists_of_findSome?_eq_some h
  split at found
  · cases found
    simp only [ErrorKind.all, List.map_cons, List.map_nil, List.mem_cons, List.not_mem_nil,
      or_false] at member
    rcases member with rfl | rfl | rfl | rfl | rfl | rfl | rfl | rfl <;> decide
  · cases found

theorem takeErrorCode_split {c : Char} {rest : List Char} {scanned : Scanned}
    (h : takeErrorCode (c :: rest) = .ok scanned) :
    scanned.taken ++ scanned.ahead = c :: rest ∧ scanned.taken ≠ [] := by
  unfold takeErrorCode at h
  split at h
  · rename_i length found
    cases h
    have := errorCodeLength_pos found
    cases length with
    | zero => omega
    | succ length => simp
  · cases h

theorem takeWord_split {c : Char} {rest : List Char} {scanned : Scanned}
    (h : takeWord c rest = .ok scanned) :
    scanned.taken ++ scanned.ahead = c :: rest ∧ scanned.taken ≠ [] := by
  unfold takeWord at h
  generalize hs : scanWord [c] (if c = '[' then 1 else 0) rest = r at h
  cases r with
  | error _ => cases h
  | ok pair =>
    cases h
    simp [scanWord_split hs]

namespace Context

theorem takeOperator_split (context : Context) (c : Char) (rest : List Char) :
    (context.takeOperator c rest).taken ++ (context.takeOperator c rest).ahead = c :: rest ∧
      (context.takeOperator c rest).taken ≠ [] := by
  unfold takeOperator
  split
  · simp
  · split <;> simp

theorem takeCloser_split {context : Context} {c : Char} {rest : List Char} {scanned : Scanned}
    (h : context.takeCloser c rest = .ok scanned) :
    scanned.taken ++ scanned.ahead = c :: rest ∧ scanned.taken ≠ [] := by
  unfold takeCloser at h
  split at h
  · cases h
  · split at h
    · cases h
      simp
    · cases h

theorem next_split {context : Context} {c : Char} {rest : List Char} {scanned : Scanned}
    (h : context.next c rest = .ok scanned) :
    scanned.taken ++ scanned.ahead = c :: rest ∧ scanned.taken ≠ [] := by
  unfold next at h
  split at h
  case h_1 => exact takeText_split h
  case h_2 => exact takeSheet_split h
  case h_3 => exact takeErrorCode_split h
  case h_18 => exact takeCloser_split h
  case h_19 => exact takeCloser_split h
  case h_24 => exact takeWord_split h
  all_goals cases h
  case h_4 | h_5 => simp [List.takeWhile_append_dropWhile]
  case h_16 | h_17 | h_20 | h_21 | h_22 | h_23 => simp
  all_goals exact takeOperator_split context _ rest

theorem next_length_lt {context : Context} {c : Char} {rest : List Char} {scanned : Scanned}
    (h : context.next c rest = .ok scanned) : scanned.ahead.length < (c :: rest).length := by
  obtain ⟨split, nonempty⟩ := next_split h
  have positive := List.length_pos_iff.2 nonempty
  rw [← split, List.length_append]
  omega

end Context

def lexFrom (context : Context) (start : Nat) (text : List Char) : Except LexStop (List Token) :=
  match text with
  | [] => if context.openers = [] then .ok [] else .error ⟨.unclosedOpener, []⟩
  | c :: rest =>
    match _ : context.next c rest with
    | .error stop => .error stop
    | .ok scanned =>
      let piece := String.ofList scanned.taken
      let stop := start + piece.utf8ByteSize
      (lexFrom (context.after scanned.kind) stop scanned.ahead).map
        (⟨⟨scanned.kind, piece⟩, start, stop⟩ :: ·)
termination_by text.length
decreasing_by exact Context.next_length_lt ‹_›

def tokenize (formula : String) : Except LexError (List Token) :=
  match formula.toList with
  | '=' :: rest =>
    match lexFrom .afterEquals 1 rest with
    | .ok tokens => .ok (⟨⟨.equals, "="⟩, 0, 1⟩ :: tokens)
    | .error stop => .error ⟨stop.cause, formula.utf8ByteSize - (String.ofList stop.ahead).utf8ByteSize⟩
  | _ => .error ⟨.missingEquals, 0⟩

def renderLexemes (lexemes : List Lexeme) : String := String.join (lexemes.map (·.text))

end FormulaRuns
