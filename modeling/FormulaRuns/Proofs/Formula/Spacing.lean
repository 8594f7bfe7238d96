import FormulaRuns.Proofs.Formula.Lexing
import FormulaRuns.Proofs.Formula.Tiling
import FormulaRuns.Proofs.Pattern.Drag

/-!
Blanks between tokens. A token ends in front of a blank where it ended before, and blanks leave the
tokenizer in a context that no other token can tell from the one in front of them; only the name of
a function or of a sheet has to stand right in front of its mark. So blanks put in between the
tokens of a formula change nothing in its tree (`parse_spaced`).
-/
namespace FormulaRuns

open List (Forall₂)

/-- What can be put in behind a token: blanks, but nothing behind the name of a function or of a
sheet. -/
structure Lexeme.Admits (lexeme : Lexeme) (gap : String) : Prop where
  blanks : ∀ c ∈ gap.toList, c = ' ' ∨ c = '\n'
  name : lexeme.kind = .function ∨ lexeme.kind = .sheetName → gap = ""

def spacedText (tokens : List Token) (gaps : List String) : String :=
  String.join (List.zipWith (fun token gap => token.text ++ gap) tokens gaps)

@[simp] theorem spacedText_nil (gaps : List String) : spacedText [] gaps = "" := rfl

@[simp] theorem spacedText_cons (token : Token) (tokens : List Token) (gap : String)
    (gaps : List String) :
    spacedText (token :: tokens) (gap :: gaps) = token.text ++ gap ++ spacedText tokens gaps := by
  simp [spacedText, String.join_cons]

theorem Lexeme.Admits.isLineBlank {lexeme : Lexeme} {gap : String} (admits : lexeme.Admits gap) :
    ∀ c ∈ gap.toList, isLineBlank c := by
  intro c member
  rcases admits.blanks c member with rfl | rfl <;> rfl

theorem mem_wordEnders_of_isLineBlank {c : Char} (blank : isLineBlank c) : c ∈ wordEnders := by
  rcases Bool.or_eq_true_iff.1 blank with same | same <;> rw [eq_of_beq same] <;> decide

theorem head?_ne_of_isLineBlank {b mark : Char} {rest : List Char} (blank : isLineBlank b)
    (solid : isLineBlank mark = false) : (b :: rest).head? ≠ some mark := by
  rintro ⟨⟩
  rw [blank] at solid
  cases solid

section

variable {c b : Char} {rest : List Char} {scanned : Scanned}

theorem isPairedOperator_of_isLineBlank (c : Char) (blank : isLineBlank b) :
    isPairedOperator c b = false := by
  rcases Bool.or_eq_true_iff.1 blank with same | same <;> simp [isPairedOperator, eq_of_beq same]

theorem scanWord_before {seen : List Char} {depth : Nat} {text word ahead : List Char}
    (read : scanWord seen depth text = .ok (word, ahead)) (blank : isLineBlank b)
    (behind : List Char) : scanWord seen depth (word ++ b :: behind) = .ok (word, b :: behind) := by
  have ends : EndsWord (b :: behind) := by
    rintro _ ⟨⟩
    exact mem_wordEnders_of_isLineBlank blank
  have sign_ends : SignEnds (seen.reverse ++ word) (b :: behind) := fun _ =>
    ⟨head?_ne_of_isLineBlank blank rfl, head?_ne_of_isLineBlank blank rfl⟩
  exact scanWord_append (scanWord_alone read) ends sign_ends

theorem wordKind_before {word ahead : List Char}
    (nameless : wordKind word ahead ≠ .function ∧ wordKind word ahead ≠ .sheetName)
    (blank : isLineBlank b) (behind : List Char) :
    wordKind word (b :: behind) = wordKind word ahead := by
  have operand : wordKind word ahead = operandKind word := by
    apply wordKind_eq_operandKind
    · intro call
      exact nameless.1 (by simp [wordKind, call])
    · intro sheet
      exact nameless.2 (by simp [wordKind, sheet])
  rw [operand]
  exact wordKind_eq_operandKind (head?_ne_of_isLineBlank blank rfl)
    (head?_ne_of_isLineBlank blank rfl)

namespace Context

variable {context : Context}

/-- A blank ends every token but a run of blanks, and the kind of a token does not change in front
of it unless it is a name that asks for its mark. -/
theorem next_before (taken : context.next c rest = .ok scanned)
    (solid : scanned.kind ≠ .whitespace)
    (nameless : scanned.kind ≠ .function ∧ scanned.kind ≠ .sheetName) (blank : isLineBlank b)
    (behind : List Char) : Again context.next c scanned (b :: behind) := by
  cases step_of_next taken with
  | text quoted =>
    have stops : (b :: behind).head? ≠ some '"' := head?_ne_of_isLineBlank blank rfl
    exact ⟨_, rfl, next_of_step (.text (takeQuoted_again quoted stops))⟩
  | sheetName _ _ => exact absurd rfl nameless.2
  | errorCode found => exact errorCode_again context found (b :: behind)
  | blanks _ => exact absurd rfl solid
  | pair paired => exact ⟨_, rfl, next_of_step (.pair paired)⟩
  | operator operator _ =>
    have alone : ∀ d ∈ (b :: behind).head?, isPairedOperator c d = false := by
      rintro _ ⟨⟩
      exact isPairedOperator_of_isLineBlank c blank
    exact ⟨b :: behind, rfl, next_of_step (.operator operator alone)⟩
  | openParen | openBrace | semicolon | comma | colon | bang => exact ⟨b :: behind, rfl, rfl⟩
  | closeParen openers shape => exact ⟨b :: behind, rfl, next_of_step (.closeParen openers shape)⟩
  | closeBrace openers => exact ⟨b :: behind, rfl, next_of_step (.closeBrace openers)⟩
  | @word _ _ word _ inside read =>
    have step : context.Step c (word ++ b :: behind) _ :=
      .word inside (scanWord_before read blank behind)
    rw [wordKind_before nameless blank behind] at step
    exact ⟨word ++ b :: behind, rfl, next_of_step step⟩

theorem kind_ne_whitespace (taken : context.next c rest = .ok scanned)
    (solid : isLineBlank c = false) : scanned.kind ≠ .whitespace := by
  cases step_of_next taken with
  | blanks blank => simp [blank] at solid
  | operator _ _ => rcases context.operatorKind_cases c with kind | kind | kind <;> simp [kind]
  | comma => rcases context.commaKind_cases with kind | kind <;> simp [kind]
  | word _ _ => exact wordKind_ne_whitespace _ _
  | text _ | sheetName _ _ | errorCode _ | pair _ | openParen | openBrace | closeParen _ _
  | closeBrace _ | semicolon | colon | bang => simp

theorem next_isLineBlank (context : Context) (blank : isLineBlank c) (rest : List Char) :
    context.next c rest =
      .ok ⟨.whitespace, c :: rest.takeWhile isLineBlank, rest.dropWhile isLineBlank⟩ :=
  next_of_step (.blanks blank)

end Context

end

namespace Context

/-- No token can tell one context from the other. -/
structure Agrees (context context' : Context) : Prop where
  solid : context'.solid = context.solid
  openers : context'.openers = context.openers
  call : context'.last = .function ↔ context.last = .function

variable {context context' context'' : Context}

theorem Agrees.refl (context : Context) : context.Agrees context := ⟨rfl, rfl, Iff.rfl⟩

theorem Agrees.symm (agrees : context.Agrees context') : context'.Agrees context :=
  ⟨agrees.solid.symm, agrees.openers.symm, agrees.call.symm⟩

theorem Agrees.trans (agrees : context.Agrees context') (agrees' : context'.Agrees context'') :
    context.Agrees context'' :=
  ⟨agrees'.solid.trans agrees.solid, agrees'.openers.trans agrees.openers,
    agrees'.call.trans agrees.call⟩

theorem Agrees.next (agrees : context.Agrees context') (c : Char) (rest : List Char) :
    context'.next c rest = context.next c rest := by
  obtain ⟨last, solid, openers⟩ := context
  obtain ⟨last', solid', openers'⟩ := context'
  obtain ⟨rfl, rfl, -⟩ := agrees
  rfl

theorem Agrees.after (agrees : context.Agrees context') (kind : TokenKind) :
    (context.after kind).Agrees (context'.after kind) where
  solid := by simp [Context.after, agrees.solid]
  openers := by simp [Context.after, agrees.openers, agrees.call]
  call := Iff.rfl

theorem agrees_blank (no_call : context.last ≠ .function) :
    context.Agrees (context.after .whitespace) :=
  ⟨rfl, rfl, by simp [Context.after, no_call]⟩

end Context

theorem Lexes.nil (context : Context) (ahead : List Char) : Lexes context [] ahead [] context := by
  intro start
  refine ⟨[], start, rfl, ?_⟩
  cases cut : lexFrom context start ahead <;> simp [cut, Except.map]

theorem lexes_run {context : Context} {run ahead : List Char} (blanks : ∀ c ∈ run, isLineBlank c)
    (stops : ∀ c ∈ ahead.head?, isLineBlank c = false)
    (no_call : context.last = .function → run = []) :
    ∃ context', context.Agrees context' ∧ Lexes context run ahead [] context' := by
  by_cases empty : run = []
  · subst empty
    exact ⟨context, .refl context, .nil context ahead⟩
  · exact ⟨context.after .whitespace, Context.agrees_blank (mt no_call empty),
      lexes_blanks context empty blanks stops⟩

theorem next_spaced {context context' : Context} {c : Char} {rest behind : List Char}
    {scanned : Scanned} {gap : String} (taken : context.next c rest = .ok scanned)
    (agrees : context.Agrees context') (solid : scanned.kind ≠ .whitespace)
    (admits : scanned.lexeme.Admits gap) (outset : SameOutset scanned.ahead behind) :
    Again context'.next c scanned (gap.toList ++ behind) := by
  suffices again : Again context.next c scanned (gap.toList ++ behind) by
    obtain ⟨rest', split, again⟩ := again
    exact ⟨rest', split, (agrees.next c rest').trans again⟩
  cases chars : gap.toList with
  | nil => exact next_again taken outset
  | cons b run =>
    have nameless : scanned.kind ≠ .function ∧ scanned.kind ≠ .sheetName := by
      constructor <;> intro kind <;> simp [admits.name (by simp [Scanned.lexeme, kind])] at chars
    have blank : isLineBlank b := admits.isLineBlank b (chars ▸ List.mem_cons_self)
    exact Context.next_before taken solid nameless blank (run ++ behind)

theorem sameOutset_spacedText {context : Context} {start : Nat} {text : List Char}
    {tokens : List Token} {gaps : List String} (cut : lexFrom context start text = .ok tokens)
    (admits : Forall₂ (fun token gap => token.toLexeme.Admits gap) tokens gaps) :
    SameOutset text (spacedText tokens gaps).toList := by
  obtain ⟨⟨stop, tiles⟩, joined⟩ := lexFrom_tiles cut
  have chars : text = (joinedText tokens).toList := by rw [joined, String.toList_ofList]
  rw [chars]
  cases admits with
  | nil => exact .nil
  | @cons token gap tokens gaps first others =>
    have nonempty : token.text.toList ≠ [] :=
      fun empty => tiles.2.1 (String.toList_eq_nil_iff.1 empty)
    obtain ⟨c, piece, first_chars⟩ := List.exists_cons_of_ne_nil nonempty
    simp only [joinedText_cons, spacedText_cons, String.toList_append, first_chars,
      List.cons_append]
    exact .same

theorem lexFrom_spaced {context : Context} {start : Nat} {text : List Char} {tokens : List Token}
    {gaps : List String} (cut : lexFrom context start text = .ok tokens)
    (admits : Forall₂ (fun token gap => token.toLexeme.Admits gap) tokens gaps)
    (call : context.last = .function → text.head? = some '(') {context' : Context}
    (agrees : context.Agrees context') {run : List Char} (blanks : ∀ c ∈ run, isLineBlank c)
    (no_call : context.last = .function → run = []) (start' : Nat) :
    ∃ tokens', lexFrom context' start' (run ++ (spacedText tokens gaps).toList) = .ok tokens' ∧
      solidLexemes tokens' = solidLexemes tokens := by
  have no_call' : context'.last = .function → run = [] := no_call ∘ agrees.call.1
  fun_induction lexFrom context start text generalizing tokens gaps context' run start' with
  | case1 context start closed =>
    cases cut
    cases admits
    have stops : ∀ c ∈ ([] : List Char).head?, isLineBlank c = false := by simp
    obtain ⟨context'', agrees', skipped⟩ := lexes_run blanks stops no_call'
    obtain ⟨tokens', stop', solid, skip⟩ := skipped start'
    have ended : lexFrom context'' stop' [] = .ok [] := by
      rw [lexFrom, (agrees.trans agrees').openers, if_pos closed]
    exact ⟨tokens', by simpa [ended, Except.map] using skip, solid⟩
  | case2 => cases cut
  | case3 => cases cut
  | case4 context start c rest scanned taken piece =>
    rename_i stop ih
    obtain ⟨others, others_cut, rfl⟩ := map_eq_ok_iff.1 cut
    cases admits with
    | @cons _ gap _ gaps first others_admit =>
    have chars : (spacedText (⟨⟨scanned.kind, piece⟩, start, stop⟩ :: others) (gap :: gaps)).toList =
        scanned.taken ++ (gap.toList ++ (spacedText others gaps).toList) := by
      simp [piece]
    rw [chars]
    by_cases blank : isLineBlank c
    · -- The run goes on through this token and its gap.
      obtain rfl := Except.ok.inj (taken.symm.trans (context.next_isLineBlank blank rest))
      have no_function : context.last ≠ .function := by
        intro function
        exact head?_ne_of_isLineBlank blank rfl (call function)
      have all_blank : ∀ d ∈ run ++ (c :: rest.takeWhile isLineBlank) ++ gap.toList,
          isLineBlank d := by
        simp only [List.mem_append, List.mem_cons]
        rintro d ((member | rfl | member) | member)
        · exact blanks d member
        · exact blank
        · exact List.mem_takeWhile_imp member
        · exact first.isLineBlank d member
      obtain ⟨tokens', cut', solid⟩ := ih others_cut others_admit (by rintro ⟨⟩)
        ((Context.agrees_blank no_function).symm.trans agrees) all_blank (by rintro ⟨⟩) start'
        fun function => absurd (agrees.call.1 function) no_function
      exact ⟨tokens', by simpa using cut', solid⟩
    -- The token ends the run, and its own gap is the run in front of the next one.
    · have solid := Context.kind_ne_whitespace taken (by simpa using blank)
      have outset := sameOutset_spacedText others_cut others_admit
      obtain ⟨rest', split, again⟩ := next_spaced taken agrees solid first outset
      have stops : ∀ d ∈ (scanned.taken ++ (gap.toList ++ (spacedText others gaps).toList)).head?,
          isLineBlank d = false := by
        rw [split]
        rintro _ ⟨⟩
        simpa using blank
      obtain ⟨context'', agrees', skipped⟩ := lexes_run blanks stops no_call'
      rw [← agrees'.next] at again
      have taken_off := skipped.append (lexes_step split again)
      obtain ⟨tokens₁, stop', solid₁, cut₁⟩ := taken_off start'
      have followed := (Context.next_followed taken).1
      obtain ⟨tokens₂, cut₂, solid₂⟩ := ih others_cut others_admit followed
        ((agrees.trans agrees').after scanned.kind) first.isLineBlank
        (fun function => by simp [first.name (.inl function)]) stop'
        (fun function => by simp [first.name (.inl function)])
      refine ⟨tokens₁ ++ tokens₂, ?_, ?_⟩
      · rw [← List.append_assoc, cut₁, cut₂]
        rfl
      · rw [solidLexemes_append, solid₁, solid₂, List.nil_append]
        exact (solidLexemes_append [⟨⟨scanned.kind, piece⟩, start, stop⟩] others).symm

theorem tokenize_spaced {text : String} {tokens : List Token} {gaps : List String}
    (cut : tokenize text = .ok tokens)
    (admits : Forall₂ (fun token gap => token.toLexeme.Admits gap) tokens gaps) :
    ∃ tokens', tokenize (spacedText tokens gaps) = .ok tokens' ∧
      solidLexemes tokens' = solidLexemes tokens := by
  unfold tokenize at cut
  split at cut
  · split at cut
    · rename_i others others_cut
      cases cut
      cases admits with
      | @cons _ gap _ gaps first others_admit =>
      obtain ⟨tokens', cut', solid⟩ := lexFrom_spaced others_cut others_admit (by rintro ⟨⟩)
        (.refl .afterEquals) first.isLineBlank (by rintro ⟨⟩) 1
      refine ⟨⟨⟨.equals, "="⟩, 0, 1⟩ :: tokens', ?_, congrArg (_ :: ·) solid⟩
      simp [tokenize, cut']
    · cases cut
  · cases cut

theorem checkFormulas_congr {text text' : String} {formula formula' : Formula}
    (parsed : Formula.parse text = .ok formula) (parsed' : Formula.parse text' = .ok formula')
    (same : formula'.root = formula.root) (origin : Address) (other : String)
    (candidate : Address) :
    checkFormulas text' origin other candidate = checkFormulas text origin other candidate ∧
      checkFormulas other origin text' candidate = checkFormulas other origin text candidate := by
  obtain ⟨-, tokens, cut, -⟩ := Formula.parse_eq_ok_iff.1 parsed
  obtain ⟨-, tokens', cut', -⟩ := Formula.parse_eq_ok_iff.1 parsed'
  simp [checkFormulas, startsWithEquals_of_tokenize cut, startsWithEquals_of_tokenize cut', parsed,
    parsed', same]

/-- Blanks between the tokens of a formula, but for those behind the name of a function or of a
sheet, change nothing in its tree, and the checker cannot tell the two texts apart. -/
theorem parse_spaced {text : String} {formula : Formula} {tokens : List Token}
    {gaps : List String} (parsed : Formula.parse text = .ok formula)
    (cut : tokenize text = .ok tokens)
    (admits : Forall₂ (fun token gap => token.toLexeme.Admits gap) tokens gaps) :
    ∃ formula', Formula.parse (spacedText tokens gaps) = .ok formula' ∧
      formula'.root = formula.root ∧
      ∀ origin other candidate,
        checkFormulas (spacedText tokens gaps) origin other candidate =
            checkFormulas text origin other candidate ∧
          checkFormulas other origin (spacedText tokens gaps) candidate =
            checkFormulas other origin text candidate := by
  obtain ⟨-, others, recut, read⟩ := Formula.parse_eq_ok_iff.1 parsed
  obtain rfl := Except.ok.inj (cut.symm.trans recut)
  obtain ⟨tokens', cut', solid⟩ := tokenize_spaced cut admits
  have parsed' : Formula.parse (spacedText tokens gaps) =
      .ok ⟨spacedText tokens gaps, formula.root⟩ :=
    Formula.parse_eq_ok_iff.2 ⟨rfl, tokens', cut', by rw [solid, read]⟩
  exact ⟨_, parsed', rfl, checkFormulas_congr parsed parsed' rfl⟩

theorem parse_spaced_sum :
    ∃ formula', Formula.parse "= A1\n + $B$2 " = .ok formula' ∧ formula'.root = sumTree "A1" ∧
      ∀ origin other candidate,
        checkFormulas "= A1\n + $B$2 " origin other candidate =
            checkFormulas "=A1+$B$2" origin other candidate ∧
          checkFormulas other origin "= A1\n + $B$2 " candidate =
            checkFormulas other origin "=A1+$B$2" candidate := by
  have cut : tokenize "=A1+$B$2" = .ok sumTokens := by with_unfolding_all rfl
  have blank {gap : String} (blanks : ∀ c ∈ gap.toList, c = ' ' ∨ c = '\n') {lexeme : Lexeme}
      (plain : lexeme.kind ≠ .function ∧ lexeme.kind ≠ .sheetName) : lexeme.Admits gap :=
    ⟨blanks, fun name => absurd name (not_or.2 plain)⟩
  have admits : Forall₂ (fun token gap => token.toLexeme.Admits gap) sumTokens
      [" ", "\n ", " ", " "] := by
    refine .cons (blank ?_ ?_) (.cons (blank ?_ ?_) (.cons (blank ?_ ?_)
      (.cons (blank ?_ ?_) .nil))) <;> simp
  have spaced : spacedText sumTokens [" ", "\n ", " ", " "] = "= A1\n + $B$2 " := by decide
  have same := parse_spaced parse_sum.1 cut admits
  rwa [spaced] at same

end FormulaRuns
