import FormulaRuns.Formula.Lexer
import FormulaRuns.Proofs.Outcome

namespace FormulaRuns

def operatorChars : List Char := ['+', '-', '*', '/', '^', '&', '=', '>', '<', '%']

def wordLimits : List Char := '\'' :: wordEnders

namespace Context

/-- The tokens that can be taken off a text, by the sort of its first character. -/
inductive Step (context : Context) : Char → List Char → Scanned → Prop
  | text {rest taken ahead : List Char} : takeQuoted '"' rest = some (taken, ahead) →
      Step context '"' rest ⟨.text, '"' :: taken, ahead⟩
  | sheetName {rest taken ahead : List Char} : takeQuoted '\'' rest = some (taken, ahead) →
      ahead.head? = some '!' → Step context '\'' rest ⟨.sheetName, '\'' :: taken, ahead⟩
  | errorCode {rest : List Char} {length : Nat} : errorCodeLength ('#' :: rest) = some length →
      Step context '#' rest ⟨.error, ('#' :: rest).take length, ('#' :: rest).drop length⟩
  | blanks {c : Char} {rest : List Char} : isLineBlank c →
      Step context c rest
        ⟨.whitespace, c :: rest.takeWhile isLineBlank, rest.dropWhile isLineBlank⟩
  | pair {c d : Char} {rest : List Char} : isPairedOperator c d →
      Step context c (d :: rest) ⟨.infixOp, [c, d], rest⟩
  | operator {c : Char} {rest : List Char} : c ∈ operatorChars →
      (∀ d ∈ rest.head?, isPairedOperator c d = false) →
      Step context c rest ⟨context.operatorKind c, [c], rest⟩
  | openParen {rest : List Char} : Step context '(' rest ⟨.openParen, ['('], rest⟩
  | openBrace {rest : List Char} : Step context '\x7b' rest ⟨.openBrace, ['\x7b'], rest⟩
  | closeParen {rest : List Char} {opener : Opener} {outer : List Opener} :
      context.openers = opener :: outer → opener ≠ .brace →
      Step context ')' rest ⟨.closeParen, [')'], rest⟩
  | closeBrace {rest : List Char} {outer : List Opener} : context.openers = .brace :: outer →
      Step context '\x7d' rest ⟨.closeBrace, ['\x7d'], rest⟩
  | semicolon {rest : List Char} : Step context ';' rest ⟨.rowSep, [';'], rest⟩
  | comma {rest : List Char} : Step context ',' rest ⟨context.commaKind, [','], rest⟩
  | colon {rest : List Char} : Step context ':' rest ⟨.colon, [':'], rest⟩
  | bang {rest : List Char} : Step context '!' rest ⟨.bang, ['!'], rest⟩
  | word {c : Char} {rest word ahead : List Char} : c ∉ wordLimits →
      scanWord [c] (if c = '[' then 1 else 0) rest = .ok (word, ahead) →
      Step context c rest ⟨wordKind (c :: word) ahead, c :: word, ahead⟩

variable {context : Context} {c : Char} {rest : List Char} {scanned : Scanned}

theorem mem_operatorChars_of_isPairedOperator {c d : Char} (paired : isPairedOperator c d) :
    c ∈ operatorChars := by
  simp only [isPairedOperator, Bool.or_eq_true, Bool.and_eq_true, beq_iff_eq] at paired
  rcases paired with (⟨rfl, -⟩ | ⟨rfl, -⟩) | ⟨rfl, -⟩ <;> decide

theorem operatorKind_cases (context : Context) (c : Char) :
    context.operatorKind c = .prefixOp ∨ context.operatorKind c = .infixOp ∨
      context.operatorKind c = .postfixOp := by
  unfold operatorKind
  split
  · simp
  · split <;> simp

theorem commaKind_cases (context : Context) :
    context.commaKind = .argSep ∨ context.commaKind = .infixOp := by
  unfold commaKind
  split <;> simp

theorem step_takeOperator (context : Context) {c : Char} (operator : c ∈ operatorChars)
    (rest : List Char) : context.Step c rest (context.takeOperator c rest) := by
  cases rest with
  | nil => exact .operator operator (by simp)
  | cons d rest =>
    by_cases paired : isPairedOperator c d
    · simp only [takeOperator, paired, if_true]
      exact .pair paired
    · simp only [takeOperator, paired]
      exact .operator operator (by simpa using paired)

theorem step_takeCloser (taken : context.takeCloser c rest = .ok scanned)
    (closer : c = ')' ∨ c = '\x7d') : context.Step c rest scanned := by
  unfold takeCloser at taken
  split at taken
  · cases taken
  · rename_i opener outer openers
    split at taken
    · rename_i fits
      cases taken
      rcases closer with rfl | rfl
      · exact .closeParen openers fun brace => absurd (fits.2 brace) (by decide)
      · exact .closeBrace (fits.1 rfl ▸ openers)
    · cases taken

theorem step_of_next (taken : context.next c rest = .ok scanned) : context.Step c rest scanned := by
  unfold next at taken
  split at taken
  case h_1 =>
    unfold takeText at taken
    split at taken <;> cases taken
    exact .text ‹_›
  case h_2 =>
    unfold takeSheet at taken
    split at taken
    · split at taken <;> cases taken
      exact .sheetName ‹_› ‹_›
    · cases taken
  case h_3 =>
    unfold takeErrorCode at taken
    split at taken <;> cases taken
    exact .errorCode ‹_›
  case h_18 => exact step_takeCloser taken (.inl rfl)
  case h_19 => exact step_takeCloser taken (.inr rfl)
  case h_24 =>
    obtain ⟨⟨word, ahead⟩, read, rfl⟩ := map_eq_ok_iff.1 taken
    exact .word (by simp_all [wordLimits, wordEnders]) read
  all_goals cases taken
  case h_4 | h_5 => exact .blanks rfl
  case h_16 => exact .openParen
  case h_17 => exact .openBrace
  case h_20 => exact .semicolon
  case h_21 => exact .comma
  case h_22 => exact .colon
  case h_23 => exact .bang
  all_goals exact step_takeOperator context (by decide) _

theorem next_eq_takeOperator (operator : c ∈ operatorChars) (rest : List Char) :
    context.next c rest = .ok (context.takeOperator c rest) := by
  simp only [operatorChars, List.mem_cons, List.not_mem_nil, or_false] at operator
  rcases operator with rfl | rfl | rfl | rfl | rfl | rfl | rfl | rfl | rfl | rfl <;> rfl

theorem next_eq_takeWord (inside : c ∉ wordLimits) (rest : List Char) :
    context.next c rest = takeWord c rest := by
  unfold next
  split <;> first | rfl | exact absurd (by decide) inside

theorem next_of_step (step : context.Step c rest scanned) : context.next c rest = .ok scanned := by
  cases step with
  | text quoted => simp [next, takeText, quoted]
  | sheetName quoted bang => simp [next, takeSheet, quoted, bang]
  | errorCode found => simp [next, takeErrorCode, found]
  | blanks blank =>
    rcases Bool.or_eq_true_iff.1 blank with same | same <;> rw [eq_of_beq same] <;> rfl
  | pair paired =>
    rw [next_eq_takeOperator (mem_operatorChars_of_isPairedOperator paired)]
    simp [takeOperator, paired]
  | operator operator alone =>
    rw [next_eq_takeOperator operator]
    cases rest with
    | nil => rfl
    | cons d rest => simp [takeOperator, alone d rfl]
  | openParen | openBrace | semicolon | comma | colon | bang => rfl
  | closeParen openers shape => simp [next, takeCloser, openers, shape]
  | closeBrace openers => simp [next, takeCloser, openers]
  | word inside read => simp [next_eq_takeWord inside, takeWord, read, Except.map]

end Context

end FormulaRuns
