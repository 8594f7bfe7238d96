import FormulaRuns.Proofs.Formula.Words

/-!
Brackets and separators. The open brackets that the tokenizer keeps in its context are those that
its tokens leave open (`lexFrom_before`), so the tokens of a formula nest, and a comma separates
arguments or columns exactly where the innermost open bracket says so (`separates_iff`).
-/
namespace FormulaRuns

inductive Shape where
  | paren | brace
  deriving DecidableEq, Repr

inductive Bracket where
  | opening (shape : Shape)
  | closing (shape : Shape)
  deriving DecidableEq, Repr

/-- Each closing bracket belongs to an opening one of its own shape. -/
inductive Balanced : List Bracket → Prop
  | nil : Balanced []
  | pair {shape : Shape} {inside behind : List Bracket} : Balanced inside → Balanced behind →
      Balanced (.opening shape :: (inside ++ .closing shape :: behind))

theorem Balanced.append {word word' : List Bracket} (balanced : Balanced word)
    (balanced' : Balanced word') : Balanced (word ++ word') := by
  induction balanced with
  | nil => exact balanced'
  | pair inside _ _ ih =>
    rw [List.cons_append, List.append_assoc, List.cons_append]
    exact .pair inside ih

/-- The brackets that are open behind a word, the innermost one first, where `stack` is open in
front of it. -/
def unclosed (stack : List Shape) : List Bracket → Option (List Shape)
  | [] => some stack
  | .opening shape :: word => unclosed (shape :: stack) word
  | .closing shape :: word =>
    match stack with
    | [] => none
    | innermost :: outer => if innermost = shape then unclosed outer word else none

theorem unclosed_append (stack : List Shape) (word word' : List Bracket) :
    unclosed stack (word ++ word') = (unclosed stack word).bind (unclosed · word') := by
  fun_induction unclosed stack word with
  | case1 => rfl
  | case2 stack shape word ih => exact ih
  | case3 => rfl
  | case4 outer word shape ih => simpa [unclosed] using ih
  | case5 word innermost outer shape other => simp [unclosed, other]

theorem Balanced.unclosed_eq {word : List Bracket} (balanced : Balanced word)
    (stack : List Shape) : unclosed stack word = some stack := by
  induction balanced generalizing stack with
  | nil => rfl
  | pair _ _ inside behind => simp [unclosed, unclosed_append, inside, behind]

inductive Opened : List Shape → List Bracket → Prop
  | none {word : List Bracket} : Balanced word → Opened [] word
  | some {shape : Shape} {outer : List Shape} {before inside : List Bracket} :
      Opened outer before → Balanced inside →
      Opened (shape :: outer) (before ++ .opening shape :: inside)

theorem Opened.append {stack : List Shape} {word word' : List Bracket} (opened : Opened stack word)
    (balanced : Balanced word') : Opened stack (word ++ word') := by
  cases opened with
  | none whole => exact .none (whole.append balanced)
  | some before inside =>
    rw [List.append_assoc, List.cons_append]
    exact .some before (inside.append balanced)

theorem Opened.extend {stack stack' : List Shape} {word word' : List Bracket}
    (opened : Opened stack word) (left_open : unclosed stack word' = .some stack') :
    Opened stack' (word ++ word') := by
  induction word' generalizing stack word with
  | nil =>
    cases left_open
    simpa using opened
  | cons bracket word' ih =>
    rw [← List.singleton_append, ← List.append_assoc]
    cases bracket with
    | opening shape => exact ih (.some opened .nil) left_open
    | closing shape =>
      cases opened with
      | none _ => cases left_open
      | @some innermost outer before inside opened balanced =>
        simp only [unclosed] at left_open
        split at left_open
        · rename_i same
          subst same
          have closed : Balanced (.opening innermost :: (inside ++ [.closing innermost])) :=
            .pair balanced .nil
          have opened' := opened.append closed
          rw [← List.cons_append, ← List.append_assoc] at opened'
          exact ih opened' left_open
        · cases left_open

theorem opened_of_unclosed {stack : List Shape} {word : List Bracket}
    (left_open : unclosed [] word = some stack) : Opened stack word :=
  Opened.extend (.none .nil) left_open

theorem balanced_iff {word : List Bracket} : Balanced word ↔ unclosed [] word = some [] := by
  constructor
  · intro balanced
    exact balanced.unclosed_eq []
  · intro closed
    cases opened_of_unclosed closed with
    | none balanced => exact balanced

def TokenKind.bracket? : TokenKind → Option Bracket
  | .openParen => some (.opening .paren)
  | .closeParen => some (.closing .paren)
  | .openBrace => some (.opening .brace)
  | .closeBrace => some (.closing .brace)
  | _ => none

theorem TokenKind.eq_of_bracket?_opening {kind : TokenKind} {shape : Shape}
    (bracket : kind.bracket? = some (.opening shape)) : kind = .openParen ∨ kind = .openBrace := by
  cases kind <;> simp_all [bracket?]

def bracketsOf (tokens : List Token) : List Bracket := tokens.filterMap (·.kind.bracket?)

theorem bracketsOf_cons (token : Token) (tokens : List Token) :
    bracketsOf (token :: tokens) = token.kind.bracket?.toList ++ bracketsOf tokens := by
  cases bracket : token.kind.bracket? <;> simp [bracketsOf, bracket]

def Opener.shape : Opener → Shape
  | .call | .paren => .paren
  | .brace => .brace

namespace Context

def shapes (context : Context) : List Shape := context.openers.map Opener.shape

def afterAll (context : Context) (tokens : List Token) : Context :=
  tokens.foldl (fun context token => context.after token.kind) context

theorem shapes_after_of_plain (context : Context) {kind : TokenKind}
    (plain : kind.bracket? = none) : (context.after kind).shapes = context.shapes := by
  cases kind <;> first | rfl | cases plain

theorem bracket?_operatorKind (context : Context) (c : Char) :
    (context.operatorKind c).bracket? = none := by
  rcases context.operatorKind_cases c with kind | kind | kind <;> rw [kind] <;> rfl

theorem bracket?_commaKind (context : Context) : context.commaKind.bracket? = none := by
  rcases context.commaKind_cases with kind | kind <;> rw [kind] <;> rfl

theorem bracket?_wordKind (word ahead : List Char) : (wordKind word ahead).bracket? = none := by
  have kinds := wordKind_cases word ahead
  generalize wordKind word ahead = kind at *
  cases kind <;> first | rfl | simp [TokenKind.isOperand] at kinds

theorem unclosed_step {context : Context} {c : Char} {rest : List Char} {scanned : Scanned}
    (taken : context.next c rest = .ok scanned) :
    unclosed context.shapes scanned.kind.bracket?.toList =
      some (context.after scanned.kind).shapes := by
  have plain {kind : TokenKind} (plain : kind.bracket? = none) :
      unclosed context.shapes kind.bracket?.toList = some (context.after kind).shapes := by
    rw [plain, context.shapes_after_of_plain plain]
    rfl
  cases step_of_next taken with
  | operator _ _ => exact plain (context.bracket?_operatorKind c)
  | comma => exact plain context.bracket?_commaKind
  | word _ _ => exact plain (bracket?_wordKind _ _)
  | openParen =>
    simp only [Context.shapes, Context.after]
    split <;> rfl
  | openBrace => rfl
  | @closeParen _ opener outer openers no_brace =>
    have shape : opener.shape = .paren := by cases opener <;> first | rfl | exact absurd rfl no_brace
    simp [Context.shapes, Context.after, openers, unclosed, TokenKind.bracket?, shape]
  | closeBrace openers =>
    simp [Context.shapes, Context.after, openers, unclosed, TokenKind.bracket?, Opener.shape]
  | text _ | sheetName _ _ | errorCode _ | blanks _ | pair _ | semicolon | colon | bang =>
    exact plain rfl

theorem exists_openers_after {context : Context} {added base : List Opener}
    (openers : context.openers = added ++ base) {kind : TokenKind} {stack : List Shape}
    (left_open : unclosed (added.map Opener.shape) kind.bracket?.toList = some stack) :
    ∃ added', (context.after kind).openers = added' ++ base ∧ added'.map Opener.shape = stack := by
  have closer (shape : Shape)
      (left_open : unclosed (added.map Opener.shape) [.closing shape] = some stack) :
      ∃ added', context.openers.tail = added' ++ base ∧ added'.map Opener.shape = stack := by
    cases added with
    | nil => cases left_open
    | cons opener added =>
      simp only [List.map_cons, unclosed] at left_open
      split at left_open
      · cases left_open
        exact ⟨added, by simp [openers], rfl⟩
      · cases left_open
  cases kind with
  | openParen =>
    cases left_open
    refine ⟨(if context.last = .function then .call else .paren) :: added, ?_, ?_⟩
    · simp [Context.after, openers]
    · simp only [List.map_cons]
      split <;> rfl
  | openBrace =>
    cases left_open
    exact ⟨.brace :: added, by simp [Context.after, openers], rfl⟩
  | closeParen => exact closer .paren left_open
  | closeBrace => exact closer .brace left_open
  | _ =>
    cases left_open
    exact ⟨added, openers, rfl⟩

theorem exists_openers_afterAll {context : Context} {added base : List Opener}
    (openers : context.openers = added ++ base) {tokens : List Token} {stack : List Shape}
    (left_open : unclosed (added.map Opener.shape) (bracketsOf tokens) = some stack) :
    ∃ added', (context.afterAll tokens).openers = added' ++ base ∧
      added'.map Opener.shape = stack := by
  induction tokens generalizing context added with
  | nil =>
    cases left_open
    exact ⟨added, openers, rfl⟩
  | cons token tokens ih =>
    rw [bracketsOf_cons, unclosed_append] at left_open
    obtain ⟨between, first, others⟩ := Option.bind_eq_some_iff.1 left_open
    obtain ⟨added', openers', rfl⟩ := exists_openers_after openers first
    exact ih openers' others

theorem openers_afterAll {tokens : List Token} (balanced : Balanced (bracketsOf tokens))
    (context : Context) : (context.afterAll tokens).openers = context.openers := by
  have none_added : context.openers = [] ++ context.openers := rfl
  obtain ⟨added, openers, none⟩ := exists_openers_afterAll none_added (balanced.unclosed_eq [])
  rw [openers, List.map_eq_nil_iff.1 none, List.nil_append]

theorem afterAll_append (context : Context) (tokens tokens' : List Token) :
    context.afterAll (tokens ++ tokens') = (context.afterAll tokens).afterAll tokens' :=
  List.foldl_append ..

end Context

theorem lexFrom_eq_cons {context : Context} {start : Nat} {text : List Char} {token : Token}
    {tokens : List Token} (cut : lexFrom context start text = .ok (token :: tokens)) :
    ∃ c rest scanned stop, text = c :: rest ∧ context.next c rest = .ok scanned ∧
      token.toLexeme = scanned.lexeme ∧
      lexFrom (context.after token.kind) stop scanned.ahead = .ok tokens := by
  unfold lexFrom at cut
  split at cut
  · split at cut <;> cases cut
  · rename_i c rest
    split at cut
    · cases cut
    · rename_i scanned taken
      obtain ⟨others, others_cut, same⟩ := map_eq_ok_iff.1 cut
      cases same
      exact ⟨c, rest, scanned, _, rfl, taken, rfl, others_cut⟩

theorem lexFrom_eq_nil {context : Context} {start : Nat} {text : List Char}
    (cut : lexFrom context start text = .ok []) : text = [] ∧ context.openers = [] := by
  unfold lexFrom at cut
  split at cut
  · split at cut
    · exact ⟨rfl, by assumption⟩
    · cases cut
  · split at cut
    · cases cut
    · obtain ⟨others, -, same⟩ := map_eq_ok_iff.1 cut
      cases same

/-- What the tokens so far leave open is what the tokenizer holds open when it goes on. -/
theorem lexFrom_before {context : Context} {start : Nat} {text : List Char}
    {before after : List Token} (cut : lexFrom context start text = .ok (before ++ after)) :
    unclosed context.shapes (bracketsOf before) = some (context.afterAll before).shapes ∧
      ∃ start' text', lexFrom (context.afterAll before) start' text' = .ok after := by
  induction before generalizing context start text with
  | nil => exact ⟨rfl, start, text, cut⟩
  | cons token before ih =>
    obtain ⟨c, rest, scanned, stop, rfl, taken, lexeme, others_cut⟩ := lexFrom_eq_cons cut
    have kind : token.kind = scanned.kind := congrArg Lexeme.kind lexeme
    obtain ⟨left_open, later⟩ := ih others_cut
    refine ⟨?_, later⟩
    rw [bracketsOf_cons, unclosed_append, kind, Context.unclosed_step taken, ← kind]
    exact left_open

theorem lexFrom_balanced {context : Context} {start : Nat} {text : List Char}
    {tokens : List Token} (cut : lexFrom context start text = .ok tokens)
    (none_open : context.openers = []) : Balanced (bracketsOf tokens) := by
  rw [← List.append_nil tokens] at cut
  obtain ⟨left_open, start', text', ended⟩ := lexFrom_before cut
  simp only [Context.shapes, none_open, (lexFrom_eq_nil ended).2] at left_open
  exact balanced_iff.2 left_open

/-- The innermost bracket that the tokens leave open is that of an array or of a call. -/
def Separates (before : List Token) : Prop :=
  ∃ outer opener inside, before = outer ++ opener :: inside ∧ Balanced (bracketsOf inside) ∧
    (opener.kind = .openBrace ∨
      opener.kind = .openParen ∧ outer.getLast?.map (·.kind) = some .function)

theorem exists_innermost {before : List Token} {shape : Shape} {outside : List Shape}
    (left_open : unclosed [] (bracketsOf before) = some (shape :: outside)) :
    ∃ outer opener inside, before = outer ++ opener :: inside ∧ Balanced (bracketsOf inside) ∧
      opener.kind.bracket? = some (.opening shape) := by
  generalize word_eq : bracketsOf before = word at left_open
  cases opened_of_unclosed left_open with
  | some _ balanced =>
    obtain ⟨front, behind, rfl, -, behind_eq⟩ := List.filterMap_eq_append_iff.1 word_eq
    obtain ⟨plain, opener, inside, rfl, -, bracket, rfl⟩ := List.filterMap_eq_cons_iff.1 behind_eq
    exact ⟨front ++ plain, opener, inside, by simp, balanced, bracket⟩

namespace Context

theorem last_afterAll (context : Context) (tokens : List Token) :
    (context.afterAll tokens).last = (tokens.getLast?.map (·.kind)).getD context.last := by
  rcases List.eq_nil_or_concat tokens with rfl | ⟨front, token, rfl⟩
  · rfl
  · simp [afterAll, after]

theorem openers_behind (context : Context) (outer : List Token) (opener : Token)
    {inside : List Token} (balanced : Balanced (bracketsOf inside)) :
    (context.afterAll (outer ++ opener :: inside)).openers =
      ((context.afterAll outer).after opener.kind).openers := by
  rw [← openers_afterAll balanced ((context.afterAll outer).after opener.kind), afterAll_append]
  rfl

theorem commaKind_eq_argSep_iff {context : Context} : context.commaKind = .argSep ↔
    ∃ opener outer, context.openers = opener :: outer ∧ opener ≠ .paren := by
  unfold commaKind
  cases context.openers with
  | nil => simp
  | cons opener outer => cases opener <;> simp

theorem separates_iff {context : Context} (no_call : context.last ≠ .function)
    {before : List Token}
    (left_open : unclosed [] (bracketsOf before) = some (context.afterAll before).shapes) :
    Separates before ↔ (context.afterAll before).commaKind = .argSep := by
  rw [commaKind_eq_argSep_iff]
  constructor
  · rintro ⟨outer, opener, inside, rfl, balanced, brace | ⟨paren, call⟩⟩
    · rw [context.openers_behind outer opener balanced, brace]
      exact ⟨.brace, _, rfl, by simp⟩
    · rw [context.openers_behind outer opener balanced, paren]
      have called : (context.afterAll outer).last = .function := by
        rw [context.last_afterAll, call]
        rfl
      exact ⟨.call, (context.afterAll outer).openers, by simp [after, called], by simp⟩
  · rintro ⟨innermost, others, openers, separates⟩
    rw [shapes, openers] at left_open
    obtain ⟨outer, opener, inside, rfl, balanced, bracket⟩ := exists_innermost left_open
    rw [context.openers_behind outer opener balanced] at openers
    refine ⟨outer, opener, inside, rfl, balanced, ?_⟩
    rcases TokenKind.eq_of_bracket?_opening bracket with paren | brace
    · refine .inr ⟨paren, ?_⟩
      have called : (context.afterAll outer).last = .function := by
        by_contra other
        simp only [paren, after, other, if_false, List.cons.injEq] at openers
        exact separates openers.1.symm
      rw [context.last_afterAll] at called
      cases last : outer.getLast? with
      | none => exact absurd (by simpa [last] using called) no_call
      | some token => simpa [last] using called
    · exact .inl brace

end Context

theorem lexFrom_head {context : Context} {start : Nat} {c : Char} {rest : List Char}
    {tokens : List Token} {scanned : Scanned}
    (cut : lexFrom context start (c :: rest) = .ok tokens)
    (taken : context.next c rest = .ok scanned) :
    tokens.head?.map (·.kind) = some scanned.kind := by
  cases tokens with
  | nil => cases (lexFrom_eq_nil cut).1
  | cons token others =>
    obtain ⟨_, _, scanned', _, same, taken', lexeme, -⟩ := lexFrom_eq_cons cut
    cases same
    cases taken.symm.trans taken'
    exact congrArg some (congrArg Lexeme.kind lexeme)

/-- What stands around a token: the name of a function and that of a sheet have their mark behind
them, and a comma is what the brackets in front of it make it. -/
structure Placed (before : List Token) (token : Token) (behind : List Token) : Prop where
  function : token.kind = .function → behind.head?.map (·.kind) = some .openParen
  sheetName : token.kind = .sheetName → behind.head?.map (·.kind) = some .bang
  argSep : token.text = "," → (token.kind = .argSep ↔ Separates before)
  union : token.text = "," → (token.kind = .infixOp ↔ ¬Separates before)

theorem placed_of_next {context : Context} {before behind : List Token} {token : Token} {c : Char}
    {rest : List Char} {scanned : Scanned} {stop : Nat} (no_call : context.last ≠ .function)
    (left_open : unclosed [] (bracketsOf before) = some (context.afterAll before).shapes)
    (taken : (context.afterAll before).next c rest = .ok scanned)
    (lexeme : token.toLexeme = scanned.lexeme)
    (behind_cut : lexFrom ((context.afterAll before).after token.kind) stop scanned.ahead =
      .ok behind) : Placed before token behind := by
  have kind : token.kind = scanned.kind := congrArg Lexeme.kind lexeme
  have followed := Context.next_followed taken
  have separates := Context.separates_iff no_call left_open
  have comma (text : token.text = ",") : token.kind = (context.afterAll before).commaKind := by
    have piece : String.ofList scanned.taken = "," := (congrArg Lexeme.text lexeme).symm.trans text
    have chars : scanned.taken = [','] := by simpa using congrArg String.toList piece
    have split := (Context.next_split taken).1
    rw [chars] at split
    cases split
    have scanned_eq := Except.ok.inj taken
    exact kind.trans (congrArg Scanned.kind scanned_eq).symm
  refine ⟨?_, ?_, ?_, ?_⟩
  · intro function
    obtain ⟨ahead, ahead_eq⟩ := List.head?_eq_some_iff.1 (followed.1 (kind ▸ function))
    rw [ahead_eq] at behind_cut
    exact lexFrom_head behind_cut rfl
  · intro sheetName
    obtain ⟨ahead, ahead_eq⟩ := List.head?_eq_some_iff.1 (followed.2 (kind ▸ sheetName))
    rw [ahead_eq] at behind_cut
    exact lexFrom_head behind_cut rfl
  · intro text
    rw [comma text, separates]
  · intro text
    rw [comma text, separates]
    rcases (context.afterAll before).commaKind_cases with kind | kind <;> simp [kind]

end FormulaRuns
