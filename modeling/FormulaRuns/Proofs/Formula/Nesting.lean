import FormulaRuns.Proofs.Formula.Grammar

/-!
Texts that are too short to be nested too deeply. Each level that the parser goes in, and each link
of a chain, takes a token, so that there are levels left for as many tokens as the limit says
(`Level.Roomy`). A token takes a character, and thus only a text that is longer than the limit can
be rejected for its nesting (`Formula.nestingLimit_lt_of_tooDeep`).
-/
namespace FormulaRuns

/-- The parser does not give up for want of levels. -/
def Shallow {α : Type} (parsed : Except ParseStop α) : Prop :=
  ∀ stop, parsed = .error stop → stop.cause ≠ .tooDeep

theorem shallow_ok {α : Type} (value : α) : Shallow (.ok value) := nofun

theorem shallow_error {α : Type} {cause : ParseCause} (other : cause ≠ .tooDeep)
    (ahead : List Lexeme) : Shallow (.error ⟨cause, ahead⟩ : Except ParseStop α) := by
  intro stop failed
  cases failed
  exact other

theorem Shallow.bind {α β : Type} {first : Except ParseStop α} {next : α → Except ParseStop β}
    (shallow : Shallow first) (goes_on : ∀ value, first = .ok value → Shallow (next value)) :
    Shallow (first >>= next) := by
  cases first with
  | error stop =>
    intro stop' failed
    cases failed
    exact shallow stop rfl
  | ok value => exact goes_on value rfl

theorem expect_shallow (kind : TokenKind) {cause : ParseCause} (other : cause ≠ .tooDeep)
    (lexemes : List Lexeme) : Shallow (expect kind cause lexemes) := by
  cases lexemes with
  | nil => exact shallow_error other _
  | cons lexeme rest =>
    simp only [expect]
    split
    · exact shallow_ok _
    · exact shallow_error other _

theorem sheetReference_shallow {extend : Tree → List Lexeme → ParsedTree}
    (extends_shallow : ∀ target rest, Shallow (extend target rest)) (sheet : Lexeme)
    (rest : List Lexeme) : Shallow (sheetReference extend sheet rest) := by
  refine (expect_shallow .bang (by simp) rest).bind ?_
  rintro ⟨bang, behind⟩ _
  cases behind with
  | nil => exact shallow_error (by simp) _
  | cons target others =>
    simp only
    split
    · exact (extends_shallow _ _).bind fun _ _ => shallow_ok _
    · exact shallow_error (by simp) _

theorem rangeEnd_shallow (lexemes : List Lexeme) : Shallow (rangeEnd lexemes) := by
  cases lexemes with
  | nil => exact shallow_error (by simp) _
  | cons lexeme rest =>
    simp only [rangeEnd]
    split
    · exact shallow_ok _
    · split
      · exact sheetReference_shallow (fun _ _ => shallow_ok _) lexeme rest
      · exact shallow_error (by simp) _

theorem rangeFrom_shallow (left : Tree) (lexemes : List Lexeme) :
    Shallow (rangeFrom left lexemes) := by
  cases lexemes with
  | nil => exact shallow_ok _
  | cons colon rest =>
    simp only [rangeFrom]
    split
    · exact (rangeEnd_shallow rest).bind fun _ _ => shallow_ok _
    · exact shallow_ok _

/-- The level has room for fewer tokens than that many. The token that a call or an array begins
with needs none. -/
structure Level.Roomy (level : Level) (room : Nat) : Prop where
  operand : ∀ {lexemes}, lexemes.length < room → Shallow (level.operand lexemes)
  expression : ∀ {lexemes} (least), lexemes.length < room → Shallow (level.expression least lexemes)
  call : ∀ {lexemes} (name), lexemes.length < room → Shallow (level.call (name :: lexemes))
  array : ∀ {lexemes} (opener), lexemes.length < room → Shallow (level.array (opener :: lexemes))

theorem length_le_of_reads {parsed : ParsedTree} {lexemes rest : List Lexeme} {tree : Tree}
    {Good : Tree → Prop} (reads : Reads parsed lexemes Good) (read : parsed = .ok (tree, rest)) :
    rest.length ≤ lexemes.length := by
  have yield := (reads read).1
  rw [← yield, List.length_append]
  exact Nat.le_add_left _ _

section Operators

variable {inner : Level} {room : Nat} (roomy : inner.Roomy room) {lexemes : List Lexeme}
include roomy

theorem primary_shallow (fits : lexemes.length ≤ room) : Shallow (primary inner lexemes) := by
  cases lexemes with
  | nil => exact shallow_error (by simp) _
  | cons lexeme rest =>
    have fewer : rest.length < room := fits
    simp only [primary]
    split
    case h_1 | h_2 | h_3 => exact rangeFrom_shallow _ _
    case h_4 | h_5 | h_6 => exact shallow_ok _
    case h_7 => exact sheetReference_shallow rangeFrom_shallow lexeme rest
    case h_8 => exact roomy.call lexeme fewer
    case h_9 =>
      refine (roomy.expression 0 fewer).bind ?_
      rintro ⟨body, behind⟩ _
      exact (expect_shallow .closeParen (by simp) behind).bind fun _ _ => shallow_ok _
    case h_10 => exact roomy.array lexeme fewer
    case h_11 => exact shallow_error (by simp) _

theorem operand_shallow (fits : lexemes.length ≤ room) : Shallow (operand inner lexemes) := by
  cases lexemes with
  | nil => exact shallow_error (by simp) _
  | cons op rest =>
    simp only [operand]
    split
    · exact (roomy.operand fits).bind fun _ _ => shallow_ok _
    · exact (primary_shallow roomy fits).bind fun _ _ => shallow_ok _

theorem chain_shallow (sound : inner.Sound) (least : Nat) {links : Nat} (left : Tree)
    (fits : lexemes.length ≤ room) (enough : lexemes.length ≤ links) :
    Shallow (chain inner least links left lexemes) := by
  induction links generalizing left lexemes with
  | zero =>
    rw [List.eq_nil_of_length_eq_zero (Nat.le_zero.1 enough)]
    exact shallow_ok _
  | succ links ih =>
    cases lexemes with
    | nil => exact shallow_ok _
    | cons op rest =>
      simp only [chain]
      split
      -- A link takes its operator at least, so the tokens behind it fit the links that are left.
      · refine (roomy.expression _ fits).bind ?_
        rintro ⟨right, behind⟩ read
        have shorter := length_le_of_reads (sound.expression _ rest) read
        simp only [List.length_cons] at fits enough
        have behind_fits : behind.length ≤ room := by omega
        have behind_enough : behind.length ≤ links := by omega
        exact ih _ behind_fits behind_enough
      · exact shallow_ok _

theorem expression_shallow (sound : inner.Sound) {links : Nat} (enough : room ≤ links) (least : Nat)
    (fits : lexemes.length ≤ room) : Shallow (expression inner links least lexemes) := by
  refine (operand_shallow roomy fits).bind ?_
  rintro ⟨left, behind⟩ read
  have shorter := length_le_of_reads (operand_sound sound lexemes) read
  have behind_fits : behind.length ≤ room := Nat.le_trans shorter fits
  exact chain_shallow roomy sound least left behind_fits (Nat.le_trans behind_fits enough)

end Operators

section Lists

variable {item : List Lexeme → ParsedTree} {room : Nat}
  (sound : ∀ lexemes, Reads (item lexemes) lexemes (·.isExpression))
  (shallow : ∀ {lexemes}, lexemes.length ≤ room → Shallow (item lexemes))
include sound shallow

theorem items_shallow (isSeparator : TokenKind → Bool) (closer : TokenKind) {cause : ParseCause}
    (other : cause ≠ .tooDeep) (limit : Nat) {lexemes : List Lexeme}
    (fits : lexemes.length ≤ room) :
    Shallow (items item isSeparator closer cause limit lexemes) := by
  induction limit generalizing lexemes with
  | zero => exact shallow_error (by simp) _
  | succ limit ih =>
    refine (shallow fits).bind ?_
    rintro ⟨tree, behind⟩ read
    have shorter := length_le_of_reads (sound lexemes) read
    cases behind with
    | nil => exact shallow_error other _
    | cons lexeme rest =>
      simp only [List.length_cons] at shorter
      simp only
      split
      · exact (ih (by omega)).bind fun _ _ => shallow_ok _
      · split
        · exact shallow_ok _
        · exact shallow_error other _

theorem call_shallow (limit : Nat) (name : Lexeme) {lexemes : List Lexeme}
    (fits : lexemes.length ≤ room) : Shallow (call item limit (name :: lexemes)) := by
  refine (expect_shallow .openParen (by simp) lexemes).bind ?_
  rintro ⟨opener, rest⟩ taken
  obtain ⟨lexeme, -, -, rfl⟩ := expect_eq_ok taken
  simp only [List.length_cons] at fits
  simp only
  split
  · exact shallow_ok _
  · refine (items_shallow sound shallow _ .closeParen (by simp) limit ?_).bind fun _ _ =>
      shallow_ok _
    omega

theorem array_shallow (limit : Nat) (opener : Lexeme) {lexemes : List Lexeme}
    (fits : lexemes.length ≤ room) : Shallow (array item limit (opener :: lexemes)) :=
  (items_shallow sound shallow _ .closeBrace (by simp) limit fits).bind fun _ _ => shallow_ok _

end Lists

namespace Level

theorem sealed_roomy : sealed.Roomy 0 where
  operand fits := absurd fits (Nat.not_lt_zero _)
  expression _ fits := absurd fits (Nat.not_lt_zero _)
  call _ fits := absurd fits (Nat.not_lt_zero _)
  array _ fits := absurd fits (Nat.not_lt_zero _)

theorem around_roomy (limit : Nat) {inner : Level} (sound : inner.Sound) {room links : Nat}
    (roomy : inner.Roomy room) (enough : room ≤ links) :
    (around limit inner links).Roomy (room + 1) where
  operand fits := operand_shallow roomy (Nat.le_of_lt_succ fits)
  expression least fits := expression_shallow roomy sound enough least (Nat.le_of_lt_succ fits)
  call name fits := call_shallow (expression_sound sound links 0)
    (expression_shallow roomy sound enough 0) limit name (Nat.le_of_lt_succ fits)
  array opener fits := array_shallow (expression_sound sound links 0)
    (expression_shallow roomy sound enough 0) limit opener (Nat.le_of_lt_succ fits)

theorem above_roomy (limit levels : Nat) : (above limit levels).Roomy (levels + 1) := by
  induction levels with
  | zero => exact around_roomy limit sealed_sound sealed_roomy (Nat.le_refl 0)
  | succ levels ih => exact around_roomy limit (above_sound limit levels) ih (Nat.le_refl _)

end Level

theorem parseLexemes_shallow {lexemes : List Lexeme} (short : lexemes.length ≤ nestingLimit + 1) :
    Shallow (parseLexemes lexemes) := by
  refine (expect_shallow .equals (by simp) lexemes).bind ?_
  rintro ⟨equals, rest⟩ taken
  obtain ⟨lexeme, -, -, rfl⟩ := expect_eq_ok taken
  have roomy := Level.above_roomy (lexeme :: rest).length nestingLimit
  refine (roomy.expression 0 short).bind ?_
  rintro ⟨body, behind⟩ _
  cases behind with
  | nil => exact shallow_ok _
  | cons lexeme others => exact shallow_error (by simp) _

theorem lexFrom_length_le {context : Context} {start : Nat} {text : List Char}
    {tokens : List Token} (cut : lexFrom context start text = .ok tokens) :
    tokens.length ≤ text.length := by
  fun_induction lexFrom context start text generalizing tokens with
  | case1 =>
    cases cut
    simp
  | case2 => cases cut
  | case3 => cases cut
  | case4 context start c rest scanned taken =>
    rename_i ih
    obtain ⟨others, others_cut, rfl⟩ := map_eq_ok_iff.1 cut
    have fewer := ih others_cut
    have shorter := Context.next_length_lt taken
    simp only [List.length_cons] at shorter ⊢
    omega

theorem tokenize_length_le {text : String} {tokens : List Token}
    (cut : tokenize text = .ok tokens) : tokens.length ≤ text.length := by
  unfold tokenize at cut
  split at cut
  · rename_i rest chars
    split at cut
    · rename_i others others_cut
      cases cut
      have fewer := lexFrom_length_le others_cut
      rw [← String.length_toList, chars]
      simpa using fewer
    · cases cut
  · cases cut

theorem solidLexemes_length_le {text : String} {tokens : List Token}
    (cut : tokenize text = .ok tokens) : (solidLexemes tokens).length ≤ text.length := by
  have fewer : (solidLexemes tokens).length ≤ (tokens.map (·.toLexeme)).length :=
    List.length_filter_le _ _
  rw [List.length_map] at fewer
  exact Nat.le_trans fewer (tokenize_length_le cut)

/-- A text that is rejected for its nesting has more characters behind the `=` than there are
levels. -/
theorem Formula.nestingLimit_lt_of_tooDeep {text : String} {error : ParseError}
    (rejected : Formula.parse text = .error error) (deep : error.cause = .tooDeep) :
    nestingLimit + 1 < text.length := by
  by_contra long
  have short : text.length ≤ nestingLimit + 1 := Nat.not_lt.1 long
  cases cut : tokenize text with
  | error fault =>
    simp only [Formula.parse, cut, Except.error.injEq] at rejected
    rw [← rejected] at deep
    cases deep
  | ok tokens =>
    have shallow : Shallow (parseLexemes (solidLexemes tokens)) :=
      parseLexemes_shallow (Nat.le_trans (solidLexemes_length_le cut) short)
    simp only [Formula.parse, cut, Formula.ofLexemes, ← solidLexemes.eq_1] at rejected
    split at rejected
    · cases rejected
      cases deep
    · split at rejected
      · cases rejected
      · rename_i stop failed
        cases rejected
        exact shallow stop failed deep

end FormulaRuns
