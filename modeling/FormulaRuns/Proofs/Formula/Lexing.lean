import FormulaRuns.Proofs.Decimal.Unsigned
import FormulaRuns.Proofs.Formula.Words
import FormulaRuns.Proofs.Grid.Shift
import FormulaRuns.Value.Basic

namespace FormulaRuns

/-- The text in front of `ahead` is cut into these tokens, blanks aside, and they take the tokenizer
from one context to the other. -/
def Lexes (context : Context) (text ahead : List Char) (lexemes : List Lexeme)
    (context' : Context) : Prop :=
  ∀ start, ∃ tokens stop, solidLexemes tokens = lexemes ∧
    lexFrom context start (text ++ ahead) = (lexFrom context' stop ahead).map (tokens ++ ·)

theorem Lexes.append {context context' context'' : Context} {text text' ahead : List Char}
    {lexemes lexemes' : List Lexeme} (first : Lexes context text (text' ++ ahead) lexemes context')
    (second : Lexes context' text' ahead lexemes' context'') :
    Lexes context (text ++ text') ahead (lexemes ++ lexemes') context'' := by
  intro start
  obtain ⟨tokens, stop, solid, cut⟩ := first start
  obtain ⟨tokens', stop', solid', cut'⟩ := second stop
  refine ⟨tokens ++ tokens', stop', by rw [solidLexemes_append, solid, solid'], ?_⟩
  rw [List.append_assoc, cut, cut']
  cases lexFrom context'' stop' ahead <;> simp [Except.map]

theorem Lexes.cons {context context' context'' : Context} {c : Char} {text ahead : List Char}
    {lexemes lexemes' : List Lexeme} (first : Lexes context [c] (text ++ ahead) lexemes context')
    (second : Lexes context' text ahead lexemes' context'') :
    Lexes context (c :: text) ahead (lexemes ++ lexemes') context'' :=
  first.append second

theorem lexes_step {context : Context} {kind : TokenKind} {c : Char}
    {text rest ahead : List Char} (split : text ++ ahead = c :: rest)
    (taken : context.next c rest = .ok ⟨kind, text, ahead⟩) :
    Lexes context text ahead ([⟨kind, String.ofList text⟩].filter Formula.isSolid)
      (context.after kind) := by
  intro start
  obtain ⟨stop, cut⟩ := lexFrom_cons taken start
  exact ⟨[⟨⟨kind, String.ofList text⟩, start, stop⟩], stop, rfl, by rw [split, cut]; rfl⟩

theorem lexes_token {context : Context} {kind : TokenKind} {c : Char} {text : String}
    {rest ahead : List Char} (split : text.toList ++ ahead = c :: rest) (solid : kind ≠ .whitespace)
    (taken : context.next c rest = .ok ⟨kind, text.toList, ahead⟩) :
    Lexes context text.toList ahead [⟨kind, text⟩] (context.after kind) := by
  have kept : [(⟨kind, text⟩ : Lexeme)].filter Formula.isSolid = [⟨kind, text⟩] :=
    List.filter_cons_of_pos (by simpa [Formula.isSolid] using solid)
  have cut := lexes_step split taken
  rwa [String.ofList_toList, kept] at cut

theorem lexes_char {context : Context} {kind : TokenKind} {c : Char} {ahead : List Char}
    (solid : kind ≠ .whitespace) (taken : context.next c ahead = .ok ⟨kind, [c], ahead⟩) :
    Lexes context [c] ahead [⟨kind, String.ofList [c]⟩] (context.after kind) := by
  have chars : (String.ofList [c]).toList = [c] := String.toList_ofList
  rw [← chars] at taken
  have cut := lexes_token (by rw [chars]; rfl) solid taken
  rwa [chars] at cut

theorem lexes_blanks (context : Context) {run ahead : List Char} (nonempty : run ≠ [])
    (blanks : ∀ c ∈ run, isLineBlank c) (stops : ∀ c ∈ ahead.head?, isLineBlank c = false) :
    Lexes context run ahead [] (context.after .whitespace) := by
  obtain ⟨c, run, rfl⟩ := List.exists_cons_of_ne_nil nonempty
  have ends := takeWhile_append_of_stop (fun d member => blanks d (List.mem_cons_of_mem c member))
    stops
  have taken : context.next c (run ++ ahead) = .ok ⟨.whitespace, c :: run, ahead⟩ := by
    rcases Bool.or_eq_true_iff.1 (blanks c List.mem_cons_self) with space | line
    · rw [eq_of_beq space]
      simp [Context.next, ends]
    · rw [eq_of_beq line]
      simp [Context.next, ends]
  exact lexes_step rfl taken

theorem lexes_blank (context : Context) {ahead : List Char}
    (stops : ∀ c ∈ ahead.head?, isLineBlank c = false) :
    Lexes context [' '] ahead [] (context.after .whitespace) :=
  lexes_blanks context (List.cons_ne_nil _ _) (by simp [isLineBlank]) stops

/-- The next token begins an operand: a sign here is no infix operator, and a parenthesis does not
open the arguments of a call. -/
structure Context.Ready (context : Context) : Prop where
  sign : context.solid.endsOperand = false
  paren : context.last ≠ .function

theorem Context.ready_after {context : Context} {kind : TokenKind} (solid : kind ≠ .whitespace)
    (not_operand : kind.endsOperand = false) (not_function : kind ≠ .function) :
    (context.after kind).Ready := by
  refine ⟨?_, not_function⟩
  simpa [Context.after, solid] using not_operand

/-- The text is cut into these tokens wherever an operand is expected inside the open brackets, and
behind it stands no operand. -/
def Cuts (openers : List Opener) (text ahead : List Char) (lexemes : List Lexeme) : Prop :=
  ∀ context : Context, context.openers = openers → context.Ready →
    ∃ kind : TokenKind, kind.endsOperand ∧ Lexes context text ahead lexemes ⟨kind, kind, openers⟩

/-- Between two operands the text is cut into these tokens. -/
def Joins (openers : List Opener) (text ahead : List Char) (lexemes : List Lexeme) : Prop :=
  ∀ kind : TokenKind, kind.endsOperand → ∃ context : Context, context.openers = openers ∧
    context.Ready ∧ Lexes ⟨kind, kind, openers⟩ text ahead lexemes context

variable {openers : List Opener} {text text' ahead : List Char} {lexemes lexemes' : List Lexeme}

theorem Cuts.join {joint : List Char} {between : List Lexeme}
    (first : Cuts openers text (joint ++ text' ++ ahead) lexemes)
    (joins : Joins openers joint (text' ++ ahead) between)
    (second : Cuts openers text' ahead lexemes') :
    Cuts openers (text ++ joint ++ text') ahead (lexemes ++ between ++ lexemes') := by
  intro context inside ready
  obtain ⟨kind, operand, first_cut⟩ := first context inside ready
  obtain ⟨context', inside', ready', joint_cut⟩ := joins kind operand
  obtain ⟨kind', operand', second_cut⟩ := second context' inside' ready'
  refine ⟨kind', operand', Lexes.append ?_ second_cut⟩
  rw [List.append_assoc] at first_cut
  exact first_cut.append joint_cut

def followers : List Char :=
  ['+', '-', '*', '/', '^', '&', '=', '<', '>', '%', ',', ';', ':', ')', '\x7d']

def Follows (ahead : List Char) : Prop := ∀ c ∈ ahead.head?, c ∈ followers

@[simp] theorem follows_nil : Follows [] := by simp [Follows]

@[simp] theorem follows_cons {c : Char} {rest : List Char} :
    Follows (c :: rest) ↔ c ∈ followers := by
  simp [Follows]

theorem Follows.endsWord (follows : Follows ahead) : EndsWord ahead := by
  have enders : followers.all (· ∈ wordEnders) := by decide
  intro c head
  simpa using List.all_eq_true.1 enders c (follows c head)

theorem Follows.head?_ne (follows : Follows ahead) {mark : Char} (other : mark ∉ followers) :
    ahead.head? ≠ some mark := by
  intro head
  exact other (follows mark head)

theorem Follows.wordKind (follows : Follows ahead) (word : List Char) :
    wordKind word ahead = operandKind word :=
  wordKind_eq_operandKind (follows.head?_ne (by decide)) (follows.head?_ne (by decide))

theorem Context.after_eq {context : Context} {kind : TokenKind} (inside : context.openers = openers)
    (operand : kind.endsOperand) (open_kind : kind ≠ .closeParen ∧ kind ≠ .closeBrace) :
    context.after kind = ⟨kind, kind, openers⟩ := by
  subst inside
  cases kind <;> simp_all [Context.after, TokenKind.endsOperand]

theorem cuts_token {text : String} {kind : TokenKind} (operand : kind.isOperand)
    (taken : ∀ context : Context, ∃ c rest, text.toList ++ ahead = c :: rest ∧
      context.next c rest = .ok ⟨kind, text.toList, ahead⟩) :
    Cuts openers text.toList ahead [⟨kind, text⟩] := by
  intro context inside _
  obtain ⟨c, rest, split, read⟩ := taken context
  have ends : kind.endsOperand ∧ kind ≠ .whitespace ∧ kind ≠ .closeParen ∧ kind ≠ .closeBrace := by
    cases kind <;> simp_all [TokenKind.isOperand, TokenKind.endsOperand]
  refine ⟨kind, ends.1, ?_⟩
  rw [← Context.after_eq inside ends.1 ends.2.2]
  exact lexes_token split ends.2.1 read

theorem cuts_word {text : String} {kind : TokenKind} (is_word : IsWord text.toList)
    (operand : operandKind text.toList = kind) (stands_alone : kind.isOperand)
    (follows : Follows ahead) (sign_ends : SignEnds text.toList ahead) :
    Cuts openers text.toList ahead [⟨kind, text⟩] := by
  refine cuts_token stands_alone fun context => ?_
  rw [← operand, ← follows.wordKind]
  exact next_word context is_word follows.endsWord sign_ends

theorem IsPlainNumber.isWord {word : List Char} (plain : IsPlainNumber word) : IsWord word := by
  obtain ⟨c, rest, rfl, -⟩ := plain.digit_first
  apply isWord_of_plain
  intro d member limit
  have special : ('[' :: ']' :: wordLimits).all fun d => !(d.isDigit || d == '.') := by decide
  have other := List.all_eq_true.1 special d limit
  rcases plain.plain d member with digit | point
  · simp [digit] at other
  · simp [point] at other

theorem IsPlainNumber.operandKind_eq {word : List Char} (plain : IsPlainNumber word)
    (reads : (readNumber word).isSome) : operandKind word = .number := by
  obtain ⟨c, rest, rfl, digit⟩ := plain.digit_first
  have no_truth : isTruthWord (c :: rest) = false := isTruthWord_of_digit List.mem_cons_self digit
  simp [operandKind, no_truth, startsNumber, digit, reads]

theorem IsPlainNumber.signEnds {word : List Char} (plain : IsPlainNumber word)
    (ahead : List Char) : SignEnds word ahead := by
  have no_exponent : isExponentBase word = false := by
    obtain ⟨c, rest, rfl, -⟩ := plain.digit_first
    cases final : rest.getLast? with
    | none => simp [isExponentBase, final]
    | some d =>
      have member : d ∈ c :: rest := List.mem_cons_of_mem c (List.mem_of_getLast? final)
      have no_letter : d.isAlpha = false := by
        rcases plain.plain d member with digit | rfl
        · exact isAlpha_of_isDigit digit
        · rfl
      have not_e : d.toLower ≠ 'e' := by
        intro e
        have letter : d.toLower.isAlpha := by rw [e]; rfl
        simp [no_letter] at letter
      simp [isExponentBase, final, not_e]
  intro base
  simp [no_exponent] at base

theorem cuts_number {text : String} (plain : IsPlainNumber text.toList)
    (reads : (readNumber text.toList).isSome) (follows : Follows ahead) :
    Cuts openers text.toList ahead [⟨.number, text⟩] :=
  cuts_word plain.isWord (plain.operandKind_eq reads) rfl follows (plain.signEnds ahead)

theorem cuts_truth (b : Bool) (follows : Follows ahead) :
    Cuts openers (truthText b).toList ahead [⟨.logical, truthText b⟩] := by
  have is_word : IsWord (truthText b).toList := by cases b <;> exact ⟨by decide, rfl⟩
  have truth : operandKind (truthText b).toList = .logical := by cases b <;> rfl
  have no_exponent : isExponentBase (truthText b).toList = false := by cases b <;> rfl
  apply cuts_word is_word truth rfl follows
  intro base
  simp [no_exponent] at base

theorem takeQuoted_doubleMarks {mark : Char} (content : List Char)
    (stops : ahead.head? ≠ some mark) :
    takeQuoted mark (doubleMarks mark content ++ mark :: ahead) =
      some (doubleMarks mark content ++ [mark], ahead) := by
  induction content with
  | nil => exact takeQuoted_end stops
  | cons c content ih =>
    by_cases is_mark : c = mark
    · subst is_mark
      simp only [doubleMarks, if_true, List.cons_append, takeQuoted_doubled, ih, Option.map_some]
    · simp only [doubleMarks, is_mark, if_false, List.cons_append, takeQuoted_cons is_mark, ih,
        Option.map_some]

theorem cuts_text (content : String) (follows : Follows ahead) :
    Cuts openers (textLiteral content).toList ahead [⟨.text, textLiteral content⟩] := by
  refine cuts_token rfl fun context => ?_
  have stops : ahead.head? ≠ some '"' := follows.head?_ne (by decide)
  have quoted := takeQuoted_doubleMarks content.toList stops
  refine ⟨'"', doubleMarks '"' content.toList ++ '"' :: ahead, ?_, ?_⟩
  · simp [textLiteral, enclose]
  · simp [Context.next, takeText, quoted, textLiteral, enclose]

theorem cuts_errorCode (kind : ErrorKind) :
    Cuts openers kind.spelling.toList ahead [⟨.error, kind.spelling⟩] := by
  refine cuts_token rfl fun context => ?_
  have begins : kind.folded <+: (kind.spelling.toList ++ ahead).map Char.toLower := by
    rw [List.map_append]
    exact List.prefix_append _ _
  have found : errorCodeLength (kind.spelling.toList ++ ahead) = some kind.spelling.toList.length :=
    errorCodeLength_eq_some_iff.2 ⟨kind, begins, by simp [ErrorKind.folded]⟩
  obtain ⟨rest, code⟩ : ∃ rest, kind.spelling.toList = '#' :: rest := by
    cases kind <;> exact ⟨_, rfl⟩
  have taken : takeErrorCode (kind.spelling.toList ++ ahead) =
      .ok ⟨.error, kind.spelling.toList, ahead⟩ := by
    simp [takeErrorCode, found]
  rw [code] at taken ⊢
  exact ⟨'#', rest ++ ahead, rfl, taken⟩

theorem next_sheetName (context : Context) (sheet : String) {ahead : List Char}
    (bang : ahead.head? = some '!') :
    ∃ c rest, (quoteSheet sheet).toList ++ ahead = c :: rest ∧
      context.next c rest = .ok ⟨.sheetName, (quoteSheet sheet).toList, ahead⟩ := by
  have stops : ahead.head? ≠ some '\'' := by simp [bang]
  unfold quoteSheet
  split
  · rename_i plain
    have special : ('[' :: ']' :: wordLimits).all (!isPlainSheetChar ·) := by decide
    cases chars : sheet.toList with
    | nil => simp [chars, isPlainSheet] at plain
    | cons c rest =>
      simp only [chars, isPlainSheet, Bool.and_eq_true, Bool.not_eq_true', List.all_eq_true]
        at plain
      obtain ⟨no_digit, plain⟩ := plain
      have is_word : IsWord (c :: rest) := by
        apply isWord_of_plain
        intro d member limit
        have other := List.all_eq_true.1 special d limit
        simp [plain d member] at other
      have ends : EndsWord ahead := by
        intro d head
        obtain rfl : '!' = d := by simpa [bang] using head
        decide
      have no_number : SignEnds (c :: rest) ahead := by
        intro base
        simp [isExponentBase, no_digit] at base
      have kind : wordKind (c :: rest) ahead = .sheetName := by simp [wordKind, bang]
      rw [← kind]
      exact next_word context is_word ends no_number
  · have quoted := takeQuoted_doubleMarks sheet.toList stops
    refine ⟨'\'', doubleMarks '\'' sheet.toList ++ '\'' :: ahead, ?_, ?_⟩
    · simp [enclose]
    · simp [Context.next, takeSheet, quoted, bang, enclose]

theorem cuts_cell {ref : Reference} (on_grid : ref.OnGrid) (follows : Follows ahead) :
    Cuts openers ref.print.toList ahead
      [⟨.sheetName, quoteSheet ref.sheet⟩, ⟨.bang, "!"⟩, ⟨.cellRef, ref.a1⟩] := by
  intro context inside _
  have bang : ('!' :: (ref.a1.toList ++ ahead)).head? = some '!' := rfl
  obtain ⟨c, rest, split, sheet_read⟩ := next_sheetName context ref.sheet bang
  have sheet_cut := lexes_token split (by decide) sheet_read
  have bang_cut : Lexes (context.after .sheetName) "!".toList (ref.a1.toList ++ ahead)
      [⟨.bang, "!"⟩] ((context.after .sheetName).after .bang) :=
    lexes_token rfl (by decide) rfl
  have chars : ref.a1.toList = A1.chars ⟨ref.row, ref.col, ref.rowFixed, ref.colFixed⟩ :=
    String.toList_ofList
  have exists_cell : A1.OnGrid ⟨ref.row, ref.col, ref.rowFixed, ref.colFixed⟩ :=
    ⟨⟨on_grid.1, on_grid.2.1⟩, on_grid.2.2⟩
  obtain ⟨d, others, cell_split, -, cell_read⟩ :=
    next_cell ((context.after .sheetName).after .bang) exists_cell follows.endsWord
      (follows.head?_ne (by decide)) (follows.head?_ne (by decide))
  rw [← chars] at cell_split cell_read
  have cell_cut := lexes_token cell_split (by decide) cell_read
  refine ⟨.cellRef, rfl, ?_⟩
  subst inside
  have text : ref.print.toList =
      (quoteSheet ref.sheet).toList ++ ("!".toList ++ ref.a1.toList) := by
    simp [Reference.print]
  rw [text]
  exact Lexes.append sheet_cut (bang_cut.append cell_cut)

/-- The text begins with no blank, and not so that a `<` or `>` in front of it takes the character
in. -/
def Starts (text : List Char) : Prop := ∃ c rest, text = c :: rest ∧ c ∉ [' ', '\n', '=', '>']

theorem Starts.append (starts : Starts text) (others : List Char) : Starts (text ++ others) := by
  obtain ⟨c, rest, rfl, plain⟩ := starts
  exact ⟨c, rest ++ others, rfl, plain⟩

def commaJoins : List Opener → Bool
  | .call :: _ | .brace :: _ => false
  | _ => true

theorem Context.commaKind_eq (context : Context) :
    context.commaKind = if commaJoins context.openers then .infixOp else .argSep := by
  unfold commaKind commaJoins
  split <;> simp_all

theorem takeOperator_alone (context : Context) {c d : Char} (rest : List Char)
    (alone : isPairedOperator c d = false) :
    context.takeOperator c (d :: rest) = ⟨context.operatorKind c, [c], d :: rest⟩ := by
  simp [Context.takeOperator, alone]

theorem joins_token {kind : TokenKind} {text : String} (solid : kind ≠ .whitespace)
    (no_operand : kind.endsOperand = false)
    (no_bracket : kind ≠ .function ∧ kind ≠ .openParen ∧ kind ≠ .openBrace)
    (taken : ∀ context : Context, context.openers = openers → context.solid.endsOperand →
      ∃ c rest, text.toList ++ ahead = c :: rest ∧
        context.next c rest = .ok ⟨kind, text.toList, ahead⟩) :
    Joins openers text.toList ahead [⟨kind, text⟩] := by
  intro last operand
  obtain ⟨c, rest, split, read⟩ := taken ⟨last, last, openers⟩ rfl operand
  refine ⟨_, ?_, Context.ready_after solid no_operand no_bracket.1, lexes_token split solid read⟩
  cases kind <;> simp_all [Context.after, TokenKind.endsOperand]

theorem joins_operator {op : BinaryOp} (starts : Starts ahead)
    (joining : op = .union → commaJoins openers) :
    Joins openers op.symbol.toList ahead [⟨.infixOp, op.symbol⟩] := by
  obtain ⟨d, rest, rfl, plain⟩ := starts
  simp only [List.mem_cons, List.not_mem_nil, or_false, not_or] at plain
  obtain ⟨-, -, no_equals, no_greater⟩ := plain
  apply joins_token (by decide) rfl (by decide)
  intro context inside operand
  have alone (c : Char) : isPairedOperator c d = false := by
    simp [isPairedOperator, no_equals, no_greater]
  have single {c : Char} (no_percent : c ≠ '%') :
      context.takeOperator c (d :: rest) = ⟨.infixOp, [c], d :: rest⟩ := by
    simp [takeOperator_alone context rest (alone c), Context.operatorKind, no_percent, operand]
  cases op with
  | union =>
    refine ⟨',', d :: rest, rfl, ?_⟩
    have kind : context.commaKind = .infixOp := by
      rw [Context.commaKind_eq, inside, joining rfl, if_pos rfl]
    simp [Context.next, kind, BinaryOp.symbol]
  | ne | le | ge => exact ⟨_, _, rfl, rfl⟩
  | add | sub | mul | div | pow | concat | eq | lt | gt =>
    exact ⟨_, d :: rest, rfl, congrArg Except.ok (single (by decide))⟩

theorem joins_colon : Joins openers ":".toList ahead [⟨.colon, ":"⟩] := by
  apply joins_token (by decide) rfl (by decide)
  intro context _ _
  exact ⟨':', ahead, rfl, rfl⟩

theorem Joins.blank {c : Char} {separator : Lexeme} (starts : Starts ahead)
    (joins : Joins openers [c] (' ' :: ahead) [separator]) :
    Joins openers [c, ' '] ahead [separator] := by
  intro kind operand
  obtain ⟨context, inside, ready, cut⟩ := joins kind operand
  obtain ⟨d, rest, rfl, plain⟩ := starts
  have stops : ∀ e ∈ (d :: rest).head?, isLineBlank e = false := by
    rintro _ ⟨⟩
    simp only [List.mem_cons, not_or] at plain
    simp [isLineBlank, plain]
  have blank := lexes_blank context stops
  exact ⟨context.after .whitespace, inside, ⟨ready.sign, by simp [Context.after]⟩,
    cut.cons blank⟩

theorem joins_comma (starts : Starts ahead) (separates : commaJoins openers = false) :
    Joins openers ", ".toList ahead [⟨.argSep, ","⟩] := by
  have comma : Joins openers ",".toList (' ' :: ahead) [⟨.argSep, ","⟩] := by
    apply joins_token (by decide) rfl (by decide)
    intro context inside _
    have kind : context.commaKind = .argSep := by
      rw [Context.commaKind_eq, inside, separates]
      rfl
    exact ⟨',', ' ' :: ahead, rfl, by simp [Context.next, kind]⟩
  exact Joins.blank starts comma

theorem joins_semicolon (starts : Starts ahead) :
    Joins openers "; ".toList ahead [⟨.rowSep, ";"⟩] := by
  have semicolon : Joins openers ";".toList (' ' :: ahead) [⟨.rowSep, ";"⟩] := by
    apply joins_token (by decide) rfl (by decide)
    intro context _ _
    exact ⟨';', ' ' :: ahead, rfl, rfl⟩
  exact Joins.blank starts semicolon

theorem Cuts.sign {c : Char} (is_sign : c = '+' ∨ c = '-') (starts : Starts text)
    (body : Cuts openers text ahead lexemes) :
    Cuts openers (c :: text) ahead (⟨.prefixOp, String.ofList [c]⟩ :: lexemes) := by
  intro context inside ready
  obtain ⟨d, rest, rfl, plain⟩ := starts
  have alone : isPairedOperator c d = false := by
    rcases is_sign with rfl | rfl <;> rfl
  have not_percent : c ≠ '%' := by rcases is_sign with rfl | rfl <;> decide
  have kind : context.operatorKind c = .prefixOp := by
    simp [Context.operatorKind, not_percent, is_sign, ready.sign]
  have taken : context.next c (d :: (rest ++ ahead)) =
      .ok ⟨.prefixOp, [c], d :: (rest ++ ahead)⟩ := by
    have operator := takeOperator_alone context (rest ++ ahead) alone
    rw [kind] at operator
    rcases is_sign with rfl | rfl <;> exact congrArg Except.ok operator
  have sign_cut := lexes_char (by decide) taken
  obtain ⟨last, operand, body_cut⟩ := body (context.after .prefixOp) inside
    (Context.ready_after (by decide) rfl (by decide))
  exact ⟨last, operand, sign_cut.cons body_cut⟩

/-- The text is cut into these tokens inside the open brackets; there may be nothing. -/
def Encloses (openers : List Opener) (text ahead : List Char) (lexemes : List Lexeme) : Prop :=
  ∀ context : Context, context.openers = openers → context.Ready →
    ∃ context' : Context, context'.openers = openers ∧ Lexes context text ahead lexemes context'

theorem Cuts.encloses (body : Cuts openers text ahead lexemes) :
    Encloses openers text ahead lexemes := by
  intro context inside ready
  obtain ⟨kind, -, cut⟩ := body context inside ready
  exact ⟨_, rfl, cut⟩

theorem encloses_nil (openers : List Opener) (ahead : List Char) :
    Encloses openers [] ahead [] := by
  intro context inside _
  refine ⟨context, inside, fun start => ⟨[], start, rfl, ?_⟩⟩
  cases cut : lexFrom context start ahead <;> simp [cut, Except.map]

theorem Encloses.closed {inner : List Opener} {kind : TokenKind} {c : Char}
    (body : Encloses inner text (c :: ahead) lexemes) (solid : kind ≠ .whitespace)
    (taken : ∀ context : Context, context.openers = inner →
      context.next c ahead = .ok ⟨kind, [c], ahead⟩ ∧ context.after kind = ⟨kind, kind, openers⟩)
    {context : Context} (inside : context.openers = inner) (ready : context.Ready) :
    Lexes context (text ++ [c]) ahead (lexemes ++ [⟨kind, String.ofList [c]⟩])
      ⟨kind, kind, openers⟩ := by
  obtain ⟨context', inside', body_cut⟩ := body context inside ready
  obtain ⟨read, after⟩ := taken context' inside'
  have cut := lexes_char solid read
  rw [after] at cut
  exact Lexes.append body_cut cut

theorem Cuts.percent (body : Cuts openers text ('%' :: ahead) lexemes) (follows : Follows ahead) :
    Cuts openers (text ++ ['%']) ahead (lexemes ++ [⟨.postfixOp, "%"⟩]) := by
  intro context inside ready
  refine ⟨.postfixOp, rfl, body.encloses.closed (by decide) (fun context inside => ?_) inside ready⟩
  refine ⟨?_, Context.after_eq inside rfl (by decide)⟩
  cases ahead with
  | nil => rfl
  | cons d rest => exact congrArg Except.ok (takeOperator_alone context rest rfl)

theorem Encloses.parenthesized {opener : Opener} (paren : opener ≠ .brace)
    (body : Encloses (opener :: openers) text (')' :: ahead) lexemes) {context : Context}
    (inside : context.openers = openers)
    (opens : (context.after .openParen).openers = opener :: context.openers) :
    Lexes context ('(' :: (text ++ [')'])) ahead
      (⟨.openParen, "("⟩ :: (lexemes ++ [⟨.closeParen, ")"⟩]))
      ⟨.closeParen, .closeParen, openers⟩ := by
  have opener_cut : Lexes context ['('] (text ++ [')'] ++ ahead) [⟨.openParen, "("⟩]
      (context.after .openParen) := lexes_char (by decide) rfl
  refine opener_cut.cons (body.closed (by decide) ?_ (inside ▸ opens)
    (Context.ready_after (by decide) rfl (by decide)))
  intro context inside
  refine ⟨?_, by simp [Context.after, inside]⟩
  simp [Context.next, Context.takeCloser, inside, paren]

theorem Cuts.paren (body : Cuts (.paren :: openers) text (')' :: ahead) lexemes) :
    Cuts openers ('(' :: (text ++ [')'])) ahead
      (⟨.openParen, "("⟩ :: (lexemes ++ [⟨.closeParen, ")"⟩])) := by
  intro context inside ready
  refine ⟨.closeParen, rfl, body.encloses.parenthesized (by decide) inside ?_⟩
  simp [Context.after, ready.paren]

theorem Encloses.call {callee : String} (is_word : IsWord callee.toList)
    (args : Encloses (.call :: openers) text (')' :: ahead) lexemes) :
    Cuts openers (callee.toList ++ '(' :: (text ++ [')'])) ahead
      (⟨.function, callee⟩ :: ⟨.openParen, "("⟩ :: (lexemes ++ [⟨.closeParen, ")"⟩])) := by
  intro context inside _
  have ends : EndsWord ('(' :: (text ++ [')']) ++ ahead) := by
    rintro _ ⟨⟩
    decide
  have sign_ends : SignEnds callee.toList ('(' :: (text ++ [')']) ++ ahead) := by
    intro _
    simp
  obtain ⟨c, rest, split, name_read⟩ := next_word context is_word ends sign_ends
  have name_cut : Lexes context callee.toList ('(' :: (text ++ [')']) ++ ahead)
      [⟨.function, callee⟩] (context.after .function) := lexes_token split (by decide) name_read
  have opens : ((context.after .function).after .openParen).openers =
      .call :: (context.after .function).openers := by simp [Context.after]
  have named : (context.after .function).openers = openers := inside
  have args_cut := args.parenthesized (by decide) named opens
  exact ⟨.closeParen, rfl, name_cut.append args_cut⟩

theorem Cuts.array (body : Cuts (.brace :: openers) text ('\x7d' :: ahead) lexemes) :
    Cuts openers ('\x7b' :: (text ++ ['\x7d'])) ahead
      (⟨.openBrace, "\x7b"⟩ :: (lexemes ++ [⟨.closeBrace, "\x7d"⟩])) := by
  intro context inside _
  have opener_cut : Lexes context ['\x7b'] (text ++ ['\x7d'] ++ ahead) [⟨.openBrace, "\x7b"⟩]
      (context.after .openBrace) := lexes_char (by decide) rfl
  have opens : (context.after .openBrace).openers = .brace :: openers := by
    simp [Context.after, inside]
  refine ⟨.closeBrace, rfl, opener_cut.cons (body.encloses.closed (by decide) ?_ opens
    (Context.ready_after (by decide) rfl (by decide)))⟩
  intro context inside
  refine ⟨?_, by simp [Context.after, inside]⟩
  simp [Context.next, Context.takeCloser, inside]

def Closes (ahead : List Char) : Prop := ∃ c rest, ahead = c :: rest ∧ c ∈ [',', ';', ')', '\x7d']

theorem Closes.follows (closes : Closes ahead) : Follows ahead := by
  obtain ⟨c, rest, rfl, closer⟩ := closes
  have known : [',', ';', ')', '\x7d'].all (· ∈ followers) := by decide
  simpa using List.all_eq_true.1 known c closer

theorem Closes.signEnds (closes : Closes ahead) (word : List Char) : SignEnds word ahead := by
  obtain ⟨c, rest, rfl, closer⟩ := closes
  intro _
  constructor <;> rintro ⟨⟩ <;> revert closer <;> decide

structure IsItem (openers : List Opener) (text : List Char) (lexemes : List Lexeme) : Prop where
  starts : Starts text
  cuts : ∀ {ahead}, Closes ahead → Cuts openers text ahead lexemes

theorem isItem_intercalate {α : Type} {show_item : α → String} {lexemesOf : α → List Lexeme}
    {separator : String} {between : Lexeme}
    (joins : ∀ {ahead}, Starts ahead → Joins openers separator.toList ahead [between])
    (leads : ∀ rest, Closes (separator.toList ++ rest)) {items : List α} (nonempty : items ≠ [])
    (each : ∀ item ∈ items, IsItem openers (show_item item).toList (lexemesOf item)) :
    IsItem openers (separator.intercalate (items.map show_item)).toList
      ([between].intercalate (items.map lexemesOf)) := by
  induction items with
  | nil => exact absurd rfl nonempty
  | cons item items ih =>
    have first := each item List.mem_cons_self
    cases items with
    | nil =>
      simp only [List.map_cons, List.map_nil, String.intercalate_singleton,
        List.intercalate_singleton]
      exact first
    | cons next items =>
      have others := ih (by simp) fun other member => each other (List.mem_cons_of_mem item member)
      simp only [List.map_cons, String.intercalate_cons_cons, List.intercalate_cons_cons,
        String.toList_append] at others ⊢
      refine ⟨?_, fun closes => ?_⟩
      · rw [List.append_assoc]
        exact first.starts.append _
      · refine Cuts.join (first.cuts ?_) (joins (others.starts.append _)) (others.cuts closes)
        rw [List.append_assoc]
        exact leads _

theorem Cuts.tokenize {text : String} {lexemes : List Lexeme}
    (cuts : Cuts [] text.toList [] lexemes) :
    ∃ tokens, FormulaRuns.tokenize ("=" ++ text) = .ok tokens ∧
      solidLexemes tokens = ⟨.equals, "="⟩ :: lexemes := by
  obtain ⟨kind, -, lexes⟩ := cuts .afterEquals rfl ⟨rfl, by decide⟩
  obtain ⟨tokens, stop, solid, cut⟩ := lexes 1
  have finished : lexFrom ⟨kind, kind, []⟩ stop [] = .ok [] := by
    rw [lexFrom]
    rfl
  have split : ("=" ++ text).toList = '=' :: text.toList := by
    rw [String.toList_append]
    rfl
  rw [finished, List.append_nil] at cut
  have all_cut : FormulaRuns.tokenize ("=" ++ text) = .ok (⟨⟨.equals, "="⟩, 0, 1⟩ :: tokens) := by
    simp [FormulaRuns.tokenize, split, cut, Except.map]
  refine ⟨_, all_cut, ?_⟩
  rw [← solid]
  rfl

end FormulaRuns
