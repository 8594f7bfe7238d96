import FormulaRuns.Proofs.Formula.Lookahead
import FormulaRuns.Proofs.Formula.Spelling
import Mathlib.Data.List.Forall2

namespace FormulaRuns

open List (Forall₂)

theorem isDigit_of_startsCell {c : Char} (starts : startsCell c) : c.isDigit = false := by
  by_contra digit
  have is_digit : c.isDigit := by simpa using digit
  rcases Bool.or_eq_true_iff.1 starts with letter | dollar
  · rw [isAlpha_of_isDigit is_digit] at letter
    cases letter
  · rw [eq_of_beq dollar] at is_digit
    cases is_digit

theorem A1.startsCell_of_parse {c : Char} {rest : List Char} {cell : A1}
    (parsed : A1.parse (String.ofList (c :: rest)) = .ok cell) : startsCell c := by
  by_contra other
  obtain ⟨no_letter, no_dollar⟩ : c.isAlpha = false ∧ c ≠ '$' := by
    simpa [startsCell] using other
  have no_anchor : takeAnchor (c :: rest) = (false, c :: rest) := by
    unfold takeAnchor
    split
    · rename_i same
      exact absurd (List.cons.inj same).1 no_dollar
    · rfl
  simp [A1.parse, no_anchor, no_letter] at parsed

namespace A1

variable {cell : A1}

theorem exists_cons_chars (on_grid : cell.OnGrid) :
    ∃ c rest, cell.chars = c :: rest ∧ startsCell c := by
  have parsed := parse_print on_grid
  cases chars : cell.chars with
  | nil => simp [print, chars, A1.parse] at parsed
  | cons c rest =>
    rw [print, chars] at parsed
    exact ⟨c, rest, rfl, startsCell_of_parse parsed⟩

theorem isAlphanum_of_mem_chars {c : Char} (member : c ∈ cell.chars) : c.isAlphanum ∨ c = '$' := by
  have anchor {fixed : Bool} (member : c ∈ anchorMark fixed) : c = '$' := by
    cases fixed with
    | true => exact List.mem_singleton.1 member
    | false => cases member
  simp only [chars, columnName_eq_columnLetters, List.mem_append] at member
  rcases member with ((mark | letter) | mark) | digit
  · exact .inr (anchor mark)
  · exact .inl (by simp [Char.isAlphanum, isAlpha_of_mem_columnLetters letter])
  · exact .inr (anchor mark)
  · exact .inl (by simp [Char.isAlphanum, isDigit_of_mem_rowDigits digit])

theorem exists_digit_mem_chars (cell : A1) : ∃ digit ∈ cell.chars, digit.isDigit := by
  obtain ⟨digit, others, digits⟩ := List.exists_cons_of_ne_nil (rowDigits_ne_nil cell.row)
  have member : digit ∈ rowDigits cell.row := digits ▸ List.mem_cons_self
  exact ⟨digit, by simp [chars, member], isDigit_of_mem_rowDigits member⟩

end A1

theorem scanWord_ends {seen : List Char} {depth : Nat} {text word ahead : List Char}
    (scanned : scanWord seen depth text = .ok (word, ahead)) : EndsWord ahead := by
  induction text generalizing seen depth word ahead with
  | nil =>
    simp only [scanWord] at scanned
    split at scanned <;> cases scanned
    simp [EndsWord]
  | cons c rest ih =>
    simp only [scanWord] at scanned
    split at scanned
    · cases scanned
    · split at scanned
      · rename_i ends
        cases scanned
        rintro _ ⟨⟩
        exact ends.2.1
      · obtain ⟨⟨_, _⟩, inner, same⟩ := map_eq_ok_iff.1 scanned
        cases same
        exact ih inner

theorem scanWord_plain {seen word ahead : List Char}
    (plain : ∀ c ∈ word, c.isAlphanum ∨ c = '$')
    (no_number : ∀ more, isExponentBase (seen.reverse ++ more) = false) (ends : EndsWord ahead) :
    scanWord seen 0 (word ++ ahead) = .ok (word, ahead) := by
  induction word generalizing seen with
  | nil =>
    cases ahead with
    | nil => simp [scanWord]
    | cons c rest =>
      have ender : c ∈ wordEnders := ends c rfl
      have unquoted : c ≠ '\'' := by
        rintro rfl
        revert ender
        decide
      have no_exponent : isExponentBase seen.reverse = false := by simpa using no_number []
      simp [scanWord, unquoted, ender, no_exponent]
  | cons c word ih =>
    have special : ('\'' :: '[' :: ']' :: wordEnders).all fun d => !(d.isAlphanum || d == '$') := by
      decide
    have not_special : c ∉ '\'' :: '[' :: ']' :: wordEnders := by
      intro member
      have not_plain := List.all_eq_true.1 special c member
      simp only [Bool.not_eq_true', Bool.or_eq_false_iff, beq_eq_false_iff_ne] at not_plain
      rcases plain c List.mem_cons_self with alphanum | dollar
      · rw [not_plain.1] at alphanum
        cases alphanum
      · exact not_plain.2 dollar
    simp only [List.mem_cons, not_or] at not_special
    obtain ⟨unquoted, not_opening, not_closing, inside⟩ := not_special
    have rest_read : scanWord (c :: seen) 0 (word ++ ahead) = .ok (word, ahead) := by
      apply ih (fun d member => plain d (List.mem_cons_of_mem _ member))
      intro more
      simpa using no_number (c :: more)
    simp [scanWord, unquoted, inside, not_opening, not_closing, rest_read, Except.map]

theorem toUpper_of_isDigit {c : Char} (digit : c.isDigit) : c.toUpper = c := by
  have not_letter : ¬('a'.val ≤ c.val ∧ c.val ≤ 'z'.val) := by
    have no_letter := isAlpha_of_isDigit digit
    unfold Char.isAlpha Char.isLower at no_letter
    simp only [Bool.or_eq_false_iff, decide_eq_false_iff_not, Bool.and_eq_false_iff] at no_letter
    rintro ⟨low, high⟩
    rcases no_letter.2 with below | above
    · exact below low
    · exact above high
  unfold Char.toUpper
  rw [dif_neg not_letter]

theorem isTruthWord_of_digit {word : List Char} {digit : Char} (member : digit ∈ word)
    (is_digit : digit.isDigit) : isTruthWord word = false := by
  have upper : digit ∈ (String.ofList (word.map Char.toUpper)).toList := by
    rw [String.toList_ofList]
    exact List.mem_map.2 ⟨digit, member, toUpper_of_isDigit is_digit⟩
  have no_digit : ("TRUE".toList ++ "FALSE".toList).all (!Char.isDigit ·) := by decide
  by_contra truth
  simp only [isTruthWord, Bool.not_eq_false, Bool.or_eq_true, beq_iff_eq] at truth
  have spelled : digit ∈ "TRUE".toList ++ "FALSE".toList := by
    rcases truth with same | same
    · exact List.mem_append_left _ (same ▸ upper)
    · exact List.mem_append_right _ (same ▸ upper)
  have not_digit := List.all_eq_true.1 no_digit digit spelled
  simp [is_digit] at not_digit

theorem notMem_wordLimits_of_startsCell {c : Char} (starts : startsCell c) : c ∉ wordLimits := by
  intro limit
  rcases List.mem_cons.1 limit with rfl | ender
  · cases starts
  · rw [startsCell_of_mem_wordEnders ender] at starts
    cases starts

theorem operandKind_chars {cell : A1} (on_grid : cell.OnGrid) :
    operandKind cell.chars = .cellRef := by
  have no_truth : isTruthWord cell.chars = false := by
    obtain ⟨digit, member, is_digit⟩ := cell.exists_digit_mem_chars
    exact isTruthWord_of_digit member is_digit
  have no_number : startsNumber cell.chars = false := by
    obtain ⟨c, rest, chars, starts⟩ := A1.exists_cons_chars on_grid
    have no_point : c ≠ '.' := by
      rintro rfl
      cases starts
    simp [chars, startsNumber, isDigit_of_startsCell starts, no_point]
  have parsed : A1.parse (String.ofList cell.chars) = .ok cell := A1.parse_print on_grid
  simp [operandKind, no_truth, no_number, parsed, Except.isOk, Except.toBool]

theorem next_cell (context : Context) {cell : A1} (on_grid : cell.OnGrid) {ahead : List Char}
    (ends : EndsWord ahead) (no_call : ahead.head? ≠ some '(') (no_sheet : ahead.head? ≠ some '!') :
    ∃ c rest, cell.chars ++ ahead = c :: rest ∧ startsCell c ∧
      context.next c rest = .ok ⟨.cellRef, cell.chars, ahead⟩ := by
  obtain ⟨c, others, chars, starts⟩ := A1.exists_cons_chars on_grid
  refine ⟨c, others ++ ahead, by rw [chars]; rfl, starts, ?_⟩
  have plain : ∀ d ∈ others, d.isAlphanum ∨ d = '$' := by
    intro d member
    have inside : d ∈ cell.chars := chars ▸ List.mem_cons_of_mem c member
    exact A1.isAlphanum_of_mem_chars inside
  have no_number : ∀ more, isExponentBase ([c].reverse ++ more) = false := by
    intro more
    simp [isExponentBase, isDigit_of_startsCell starts]
  have not_opening : c ≠ '[' := by
    rintro rfl
    cases starts
  rw [Context.next_eq_takeWord (notMem_wordLimits_of_startsCell starts), takeWord,
    if_neg not_opening, scanWord_plain plain no_number ends]
  simp [Except.map, wordKind_eq_operandKind no_call no_sheet, ← chars, operandKind_chars on_grid]

theorem next_cellRef {context : Context} {c : Char} {rest : List Char} {scanned : Scanned}
    (taken : context.next c rest = .ok scanned) (kind : scanned.kind = .cellRef) :
    startsCell c ∧ EndsWord scanned.ahead ∧ scanned.ahead.head? ≠ some '(' ∧
      scanned.ahead.head? ≠ some '!' := by
  have starts : startsCell c := by
    obtain ⟨cell, parsed⟩ := (Context.next_spelled taken).exists_cell kind
    obtain ⟨split, nonempty⟩ := Context.next_split taken
    obtain ⟨d, others, chars⟩ := List.exists_cons_of_ne_nil nonempty
    simp only [Scanned.lexeme, chars] at parsed
    rw [chars] at split
    rw [← (List.cons.inj split).1]
    exact A1.startsCell_of_parse parsed
  rw [Context.next_eq_takeWord (notMem_wordLimits_of_startsCell starts)] at taken
  obtain ⟨⟨word, ahead⟩, read, rfl⟩ := map_eq_ok_iff.1 taken
  refine ⟨starts, scanWord_ends read, ?_, ?_⟩
  · intro call
    simp [wordKind, call] at kind
  · intro sheet
    simp [wordKind, sheet] at kind

/-- A lexeme as it was, or a cell reference in the place of another. -/
structure Lexeme.Rewritten (before after : Lexeme) : Prop where
  kind : after.kind = before.kind
  text : before.kind ≠ .cellRef → after.text = before.text
  cell : before.kind = .cellRef → ∃ cell : A1, cell.OnGrid ∧ after.text = cell.print

def lexemeChars (lexemes : List Lexeme) : List Char := lexemes.flatMap (·.text.toList)

theorem renderLexemes_toList (lexemes : List Lexeme) :
    (renderLexemes lexemes).toList = lexemeChars lexemes := by
  simp [renderLexemes, lexemeChars, List.flatMap_def, Function.comp_def]

theorem lexFrom_cons {context : Context} {c : Char} {rest : List Char} {scanned : Scanned}
    (taken : context.next c rest = .ok scanned) (start : Nat) :
    ∃ stop, lexFrom context start (c :: rest) =
      (lexFrom (context.after scanned.kind) stop scanned.ahead).map
        (⟨⟨scanned.kind, String.ofList scanned.taken⟩, start, stop⟩ :: ·) := by
  refine ⟨start + (String.ofList scanned.taken).utf8ByteSize, ?_⟩
  rw [lexFrom]
  split
  · rename_i other
    cases taken.symm.trans other
  · rename_i other
    cases taken.symm.trans other
    rfl

/-- The step that took a token takes the one in its place, too. -/
theorem next_rewritten {context : Context} {c : Char} {rest ahead' : List Char}
    {scanned : Scanned} {lexeme' : Lexeme} (taken : context.next c rest = .ok scanned)
    (outset : SameOutset scanned.ahead ahead') (rewritten : scanned.lexeme.Rewritten lexeme') :
    ∃ d rest', lexeme'.text.toList ++ ahead' = d :: rest' ∧ SameOutset (c :: rest) (d :: rest') ∧
      context.next d rest' = .ok ⟨scanned.kind, lexeme'.text.toList, ahead'⟩ := by
  by_cases kind : scanned.kind = .cellRef
  · obtain ⟨starts, ends, no_call, no_sheet⟩ := next_cellRef taken kind
    obtain ⟨cell, on_grid, text⟩ := rewritten.cell kind
    have no_call' := (outset.head?_eq_some_iff (by decide)).not.2 no_call
    have no_sheet' := (outset.head?_eq_some_iff (by decide)).not.2 no_sheet
    obtain ⟨d, rest', split, starts', read⟩ :=
      next_cell context on_grid (ends.of_outset outset) no_call' no_sheet'
    have chars : lexeme'.text.toList = cell.chars := by rw [text, A1.print, String.toList_ofList]
    rw [chars, kind]
    exact ⟨d, rest', split, .cell starts starts', read⟩
  · have text : lexeme'.text.toList = scanned.taken := by
      rw [rewritten.text kind]
      exact String.toList_ofList
    obtain ⟨rest', split, read⟩ := next_again taken outset
    rw [text]
    exact ⟨c, rest', split, .same, read⟩

theorem lexFrom_rewritten {context : Context} {start : Nat} {text : List Char}
    {tokens : List Token} {lexemes' : List Lexeme} (cut : lexFrom context start text = .ok tokens)
    (rewritten : Forall₂ Lexeme.Rewritten (tokens.map (·.toLexeme)) lexemes') (start' : Nat) :
    SameOutset text (lexemeChars lexemes') ∧
      ∃ tokens', lexFrom context start' (lexemeChars lexemes') = .ok tokens' ∧
        tokens'.map (·.toLexeme) = lexemes' := by
  fun_induction lexFrom context start text generalizing tokens lexemes' start' with
  | case1 context start closed =>
    cases cut
    cases rewritten
    exact ⟨.nil, [], by simp [lexemeChars, lexFrom, closed], rfl⟩
  | case2 => cases cut
  | case3 => cases cut
  | case4 context start c rest scanned taken piece =>
    rename_i stop ih
    obtain ⟨others, others_cut, rfl⟩ := map_eq_ok_iff.1 cut
    cases rewritten with
    | @cons _ lexeme' _ others' first rest_rewritten =>
      have outset := (ih others_cut rest_rewritten 0).1
      obtain ⟨d, rest', split, outset', read⟩ := next_rewritten taken outset first
      have chars : lexemeChars (lexeme' :: others') = d :: rest' := by
        rw [← split]
        rfl
      obtain ⟨stop', step⟩ := lexFrom_cons read start'
      obtain ⟨-, tokens', tokens_cut, tokens_same⟩ := ih others_cut rest_rewritten stop'
      rw [chars, step]
      simp only
      rw [tokens_cut]
      refine ⟨outset', _, rfl, ?_⟩
      have kind : scanned.kind = lexeme'.kind := first.kind.symm
      simp [tokens_same, kind]

theorem tokenize_rewritten {text : String} {tokens : List Token} {lexemes' : List Lexeme}
    (cut : tokenize text = .ok tokens)
    (rewritten : Forall₂ Lexeme.Rewritten (tokens.map (·.toLexeme)) lexemes') :
    ∃ tokens', tokenize (renderLexemes lexemes') = .ok tokens' ∧
      tokens'.map (·.toLexeme) = lexemes' := by
  unfold tokenize at cut
  split at cut
  · rename_i rest chars
    split at cut
    · rename_i others others_cut
      cases cut
      cases rewritten with
      | @cons _ first _ others' equals rest_rewritten =>
        obtain ⟨-, tokens', tokens_cut, tokens_same⟩ :=
          lexFrom_rewritten others_cut rest_rewritten 1
        have equals_text : first.text = "=" := equals.text (by simp)
        have chars' : (renderLexemes (first :: others')).toList = '=' :: lexemeChars others' := by
          rw [renderLexemes_toList, lexemeChars, List.flatMap_cons, equals_text]
          rfl
        refine ⟨⟨⟨.equals, "="⟩, 0, 1⟩ :: tokens', ?_, ?_⟩
        · simp [tokenize, chars', tokens_cut]
        · obtain ⟨kind, text⟩ := first
          have kind_same : kind = .equals := equals.kind
          simp_all
    · cases cut
  · cases cut

end FormulaRuns
