import FormulaRuns.Proofs.Formula.Relexing
import Mathlib

namespace FormulaRuns

theorem scanWord_alone {seen : List Char} {depth : Nat} {text word ahead : List Char}
    (scanned : scanWord seen depth text = .ok (word, ahead)) :
    scanWord seen depth word = .ok (word, []) := by
  induction text generalizing seen depth word ahead with
  | nil =>
    simp only [scanWord] at scanned
    split at scanned
    · rename_i outside
      cases scanned
      simp [scanWord, outside]
    · cases scanned
  | cons c rest ih =>
    simp only [scanWord] at scanned
    split at scanned
    · cases scanned
    · rename_i unquoted
      split at scanned
      · rename_i ends
        cases scanned
        simp [scanWord, ends.1]
      · rename_i goes_on
        obtain ⟨⟨word, _⟩, inner, same⟩ := map_eq_ok_iff.1 scanned
        cases same
        rw [scanWord, if_neg unquoted, if_neg goes_on]
        simp only
        rw [ih inner]
        rfl

/-- A sign does not end what may be the front part of a number. -/
def SignEnds (word ahead : List Char) : Prop :=
  isExponentBase word → ahead.head? ≠ some '+' ∧ ahead.head? ≠ some '-'

theorem scanWord_append {seen : List Char} {depth : Nat} {word ahead : List Char}
    (alone : scanWord seen depth word = .ok (word, [])) (ends : EndsWord ahead)
    (sign_ends : SignEnds (seen.reverse ++ word) ahead) :
    scanWord seen depth (word ++ ahead) = .ok (word, ahead) := by
  induction word generalizing seen depth with
  | nil =>
    -- The word is used up here, so what has to end it is the first character ahead.
    have outside : depth = 0 := by
      by_contra inside
      simp [scanWord, inside] at alone
    subst outside
    cases ahead with
    | nil => exact alone
    | cons c rest =>
      have ender : c ∈ wordEnders := ends c rfl
      have unquoted : c ≠ '\'' := by
        intro quote
        rw [quote] at ender
        revert ender
        decide
      have stops : ¬((c = '+' ∨ c = '-') ∧ isExponentBase seen.reverse) := by
        rintro ⟨sign, base⟩
        have no_sign := sign_ends (by simpa using base)
        rcases sign with rfl | rfl
        · exact no_sign.1 rfl
        · exact no_sign.2 rfl
      simp only [List.nil_append, scanWord, unquoted, and_false, if_false, ender, stops,
        not_false_eq_true, and_self, if_true]
  | cons c word ih =>
    simp only [scanWord] at alone
    split at alone
    · cases alone
    · rename_i unquoted
      split at alone
      · cases alone
      · rename_i goes_on
        obtain ⟨⟨word, _⟩, inner, same⟩ := map_eq_ok_iff.1 alone
        cases same
        have later : SignEnds ((c :: seen).reverse ++ word) ahead := by simpa using sign_ends
        rw [List.cons_append, scanWord, if_neg unquoted, if_neg goes_on]
        simp only
        rw [ih inner later]
        rfl

def IsWord : List Char → Prop
  | [] => False
  | c :: rest => c ∉ wordLimits ∧ scanWord [c] (if c = '[' then 1 else 0) rest = .ok (rest, [])

theorem next_word (context : Context) {word ahead : List Char} (is_word : IsWord word)
    (ends : EndsWord ahead) (sign_ends : SignEnds word ahead) :
    ∃ c rest, word ++ ahead = c :: rest ∧
      context.next c rest = .ok ⟨wordKind word ahead, word, ahead⟩ := by
  cases word with
  | nil => cases is_word
  | cons c word =>
    obtain ⟨inside, alone⟩ := is_word
    refine ⟨c, word ++ ahead, rfl, ?_⟩
    rw [Context.next_eq_takeWord inside, takeWord, scanWord_append alone ends sign_ends]
    rfl

theorem isWord_of_plain {c : Char} {rest : List Char}
    (plain : ∀ d ∈ c :: rest, d ∉ '[' :: ']' :: wordLimits) : IsWord (c :: rest) := by
  have scanned (seen word : List Char) (plain : ∀ d ∈ word, d ∉ '[' :: ']' :: wordLimits) :
      scanWord seen 0 word = .ok (word, []) := by
    induction word generalizing seen with
    | nil => rfl
    | cons d word ih =>
      have outside := plain d List.mem_cons_self
      simp only [wordLimits, List.mem_cons, not_or] at outside
      obtain ⟨not_opening, not_closing, unquoted, inside⟩ := outside
      have others := ih (d :: seen) fun e member => plain e (List.mem_cons_of_mem d member)
      simp [scanWord, unquoted, inside, not_opening, not_closing, others, Except.map]
  have first := plain c List.mem_cons_self
  simp only [List.mem_cons, not_or] at first
  obtain ⟨not_opening, -, inside⟩ := first
  refine ⟨inside, ?_⟩
  rw [if_neg not_opening]
  exact scanned [c] rest fun d member => plain d (List.mem_cons_of_mem c member)

theorem toUpper_mem_iff {c : Char} {marks : List Char} (no_letters : marks.all (!·.isAlpha)) :
    c.toUpper ∈ marks ↔ c ∈ marks := by
  by_cases lower : c.isLower
  · have letter : c.isAlpha := by simp [Char.isAlpha, lower]
    have absent {d : Char} (alpha : d.isAlpha) : d ∉ marks := by
      intro member
      have no_letter := List.all_eq_true.1 no_letters d member
      simp [alpha] at no_letter
    exact iff_of_false (absent (by simpa using letter)) (absent letter)
  · rw [Char.toUpper_eq_of_not_isLower lower]

theorem toUpper_eq_iff {c mark : Char} (no_letter : mark.isAlpha = false) :
    c.toUpper = mark ↔ c = mark := by
  have same : c.toUpper ∈ [mark] ↔ c ∈ [mark] := toUpper_mem_iff (by simp [no_letter])
  simpa using same

theorem isDigit_toUpper (c : Char) : c.toUpper.isDigit = c.isDigit := by
  by_cases lower : c.isLower
  · have letter : c.isAlpha := by simp [Char.isAlpha, lower]
    have no_digit {d : Char} (alpha : d.isAlpha) : d.isDigit = false := by
      by_contra digit
      rw [isAlpha_of_isDigit (by simpa using digit)] at alpha
      cases alpha
    rw [no_digit letter, no_digit (by simpa using letter)]
  · rw [Char.toUpper_eq_of_not_isLower lower]

theorem isDigitRun_map_toUpper (word : List Char) :
    isDigitRun (word.map Char.toUpper) = isDigitRun word := by
  induction word with
  | nil => rfl
  | cons c word ih =>
    have point : c.toUpper = '.' ↔ c = '.' := toUpper_eq_iff (by decide)
    simp [isDigitRun, point, isDigit_toUpper, ih, Function.comp_def]

theorem isExponentBase_map_toUpper (word : List Char) :
    isExponentBase (word.map Char.toUpper) = isExponentBase word := by
  cases word with
  | nil => rfl
  | cons c word =>
    have final : ((word.map Char.toUpper).getLast?.any fun c => c.toLower == 'e') =
        word.getLast?.any fun c => c.toLower == 'e' := by
      rw [List.getLast?_map]
      cases word.getLast? <;> simp
    rw [List.map_cons, isExponentBase, isExponentBase, final, isDigit_toUpper, ← List.map_dropLast,
      isDigitRun_map_toUpper]

theorem scanWord_map_toUpper {seen word : List Char} {depth : Nat}
    (alone : scanWord seen depth word = .ok (word, [])) :
    scanWord (seen.map Char.toUpper) depth (word.map Char.toUpper) =
      .ok (word.map Char.toUpper, []) := by
  induction word generalizing seen depth with
  | nil => exact alone
  | cons c word ih =>
    have quote : c.toUpper = '\'' ↔ c = '\'' := toUpper_eq_iff (by decide)
    have plus : c.toUpper = '+' ↔ c = '+' := toUpper_eq_iff (by decide)
    have minus : c.toUpper = '-' ↔ c = '-' := toUpper_eq_iff (by decide)
    have opening : c.toUpper = '[' ↔ c = '[' := toUpper_eq_iff (by decide)
    have closing : c.toUpper = ']' ↔ c = ']' := toUpper_eq_iff (by decide)
    have ender : c.toUpper ∈ wordEnders ↔ c ∈ wordEnders := toUpper_mem_iff (by decide)
    simp only [scanWord] at alone
    split at alone
    · cases alone
    · rename_i unquoted
      split at alone
      · cases alone
      · rename_i goes_on
        obtain ⟨⟨word, _⟩, inner, same⟩ := map_eq_ok_iff.1 alone
        cases same
        have rest := ih inner
        simp only [List.map_cons] at rest
        simp only [List.map_cons, scanWord, quote, plus, minus, opening, closing, ender,
          ← List.map_reverse, isExponentBase_map_toUpper, unquoted, goes_on, if_false, rest]
        rfl

theorem IsWord.map_toUpper {word : List Char} (is_word : IsWord word) :
    IsWord (word.map Char.toUpper) := by
  cases word with
  | nil => cases is_word
  | cons c word =>
    obtain ⟨inside, alone⟩ := is_word
    have opening : c.toUpper = '[' ↔ c = '[' := toUpper_eq_iff (by decide)
    refine ⟨(toUpper_mem_iff (by decide)).not.2 inside, ?_⟩
    simp only [opening]
    exact scanWord_map_toUpper alone

/-- What is taken for a name or for a function is a word, and what is taken for a number reads as
one. -/
def Lexeme.Whole (lexeme : Lexeme) : Prop :=
  match lexeme.kind with
  | .name => IsWord lexeme.text.toList ∧ operandKind lexeme.text.toList = .name
  | .function => IsWord lexeme.text.toList
  | .number => startsNumber lexeme.text.toList ∧ (readNumber lexeme.text.toList).isSome
  | _ => True

theorem reads_of_operandKind {word : List Char} (number : operandKind word = .number) :
    startsNumber word ∧ (readNumber word).isSome := by
  unfold operandKind at number
  split at number
  · cases number
  · split at number
    · assumption
    · split at number <;> cases number

theorem operandKind_isOperand (word : List Char) : (operandKind word).isOperand := by
  unfold operandKind
  split
  · rfl
  · split
    · rfl
    · split <;> rfl

theorem operandKind_whole {word : List Char} (is_word : IsWord word) :
    (Lexeme.mk (operandKind word) (String.ofList word)).Whole := by
  have number := @reads_of_operandKind word
  have operand := operandKind_isOperand word
  simp only [Lexeme.Whole, String.toList_ofList]
  generalize operandKind word = kind at *
  cases kind with
  | name => exact ⟨is_word, rfl⟩
  | number => exact number rfl
  | function => cases operand
  | _ => trivial

theorem wordKind_whole {word : List Char} (is_word : IsWord word) (ahead : List Char) :
    (Lexeme.mk (wordKind word ahead) (String.ofList word)).Whole := by
  unfold wordKind
  split
  · simpa [Lexeme.Whole] using is_word
  · trivial
  · exact operandKind_whole is_word

theorem wordKind_cases (word ahead : List Char) : (wordKind word ahead).isOperand ∨
    wordKind word ahead = .function ∧ ahead.head? = some '(' ∨
    wordKind word ahead = .sheetName ∧ ahead.head? = some '!' := by
  have operand := operandKind_isOperand word
  unfold wordKind
  split
  · exact .inr (.inl ⟨rfl, ‹_›⟩)
  · exact .inr (.inr ⟨rfl, ‹_›⟩)
  · exact .inl operand

theorem wordKind_ne_whitespace (word ahead : List Char) : wordKind word ahead ≠ .whitespace := by
  intro blank
  have kinds := wordKind_cases word ahead
  simp [blank, TokenKind.isOperand] at kinds

namespace Context

theorem next_whole {context : Context} {c : Char} {rest : List Char} {scanned : Scanned}
    (taken : context.next c rest = .ok scanned) : scanned.lexeme.Whole := by
  cases step_of_next taken with
  | operator _ _ =>
    rcases context.operatorKind_cases c with kind | kind | kind <;>
      simp [Scanned.lexeme, Lexeme.Whole, kind]
  | comma =>
    rcases context.commaKind_cases with kind | kind <;> simp [Scanned.lexeme, Lexeme.Whole, kind]
  | @word _ _ word _ inside read =>
    have is_word : IsWord (c :: word) := ⟨inside, scanWord_alone read⟩
    exact wordKind_whole is_word _
  | text _ | sheetName _ _ | errorCode _ | blanks _ | pair _ | openParen | openBrace
  | closeParen _ _ | closeBrace _ | semicolon | colon | bang => trivial

theorem next_followed {context : Context} {c : Char} {rest : List Char} {scanned : Scanned}
    (taken : context.next c rest = .ok scanned) :
    (scanned.kind = .function → scanned.ahead.head? = some '(') ∧
      (scanned.kind = .sheetName → scanned.ahead.head? = some '!') := by
  cases step_of_next taken with
  | sheetName _ bang => exact ⟨by simp, fun _ => bang⟩
  | operator _ _ => rcases context.operatorKind_cases c with kind | kind | kind <;> simp [kind]
  | comma => rcases context.commaKind_cases with kind | kind <;> simp [kind]
  | @word _ _ word ahead _ _ =>
    rcases wordKind_cases (c :: word) ahead with operand | ⟨function, mark⟩ | ⟨sheet, mark⟩
    · constructor <;> rintro (kind : wordKind (c :: word) ahead = _) <;> rw [kind] at operand <;>
        cases operand
    · simpa [function] using mark
    · simpa [sheet] using mark
  | text _ | errorCode _ | blanks _ | pair _ | openParen | openBrace | closeParen _ _
  | closeBrace _ | semicolon | colon | bang => simp

end Context

theorem Formula.parse_whole {text : String} {formula : Formula}
    (parsed : Formula.parse text = .ok formula) : ∀ lexeme ∈ formula.root.leaves, lexeme.Whole := by
  obtain ⟨tokens, cut, from_tokens⟩ := Formula.exists_token_of_mem_leaves parsed
  intro lexeme member
  obtain ⟨token, present, rfl⟩ := from_tokens lexeme member
  exact tokenize_forall trivial Context.next_whole cut token present

end FormulaRuns
