import FormulaRuns.Proofs.Formula.Lexing

namespace FormulaRuns

theorem takeQuoted_eq_some {mark : Char} {text taken ahead : List Char}
    (quoted : takeQuoted mark text = some (taken, ahead)) :
    ∃ content, taken = doubleMarks mark content ++ [mark] := by
  fun_induction takeQuoted mark text generalizing taken ahead with
  | case1 | case3 => cases quoted
  | case2 | case6 =>
    cases quoted
    exact ⟨[], by simp_all [doubleMarks]⟩
  | case4 c d rest inside ih =>
    obtain ⟨⟨others, behind⟩, read, same⟩ := Option.map_eq_some_iff.1 quoted
    obtain ⟨content, rfl⟩ := ih read
    cases same
    exact ⟨c :: content, by simp [doubleMarks, inside]⟩
  | case5 c rest is_mark ih =>
    obtain ⟨⟨others, behind⟩, read, same⟩ := Option.map_eq_some_iff.1 quoted
    obtain ⟨content, rfl⟩ := ih read
    obtain rfl : c = mark := by simpa using is_mark
    cases same
    exact ⟨c :: content, by simp [doubleMarks]⟩

theorem isBlank_of_isAlpha {c : Char} (letter : c.isAlpha) : isBlank c = false := by
  have range : 65 ≤ c.toNat ∧ c.toNat ≤ 90 ∨ 97 ≤ c.toNat ∧ c.toNat ≤ 122 := by
    simpa [Char.isAlpha, Char.isUpper, Char.isLower, UInt32.le_iff_toNat_le] using letter
  simp only [isBlank, blankRanges, inRanges]
  grind

theorem isBlank_toLower (c : Char) : isBlank c.toLower = isBlank c := by
  by_cases upper : c.isUpper
  · have letter : c.isAlpha := by simp [Char.isAlpha, upper]
    have lower_letter : c.toLower.isAlpha := by simpa using letter
    rw [isBlank_of_isAlpha letter, isBlank_of_isAlpha lower_letter]
  · rw [Char.toLower_eq_of_not_isUpper upper]

theorem trimBlanks_of_none {text : List Char} (none : ∀ c ∈ text, isBlank c = false) :
    trimBlanks text = text := by
  have kept {word : List Char} (none : ∀ c ∈ word, isBlank c = false) :
      word.dropWhile isBlank = word := by
    cases word with
    | nil => rfl
    | cons c word => simp [none c List.mem_cons_self]
  rw [trimBlanks, kept none, kept fun c member => none c (List.mem_reverse.1 member),
    List.reverse_reverse]

theorem ErrorKind.parse_of_folded {text : String} {kind : ErrorKind}
    (folded : text.toList.map Char.toLower = kind.folded) : ErrorKind.parse text = some kind := by
  have no_blank : kind.folded.all (!isBlank ·) := by cases kind <;> decide
  have none : ∀ c ∈ text.toList, isBlank c = false := by
    intro c member
    have inside : c.toLower ∈ kind.folded := folded ▸ List.mem_map_of_mem member
    have plain := List.all_eq_true.1 no_blank _ inside
    simpa [isBlank_toLower] using plain
  have found : all.find? (fun kind' => kind'.folded == kind.folded) = some kind := by
    cases kind <;> decide
  rw [ErrorKind.parse, trimBlanks_of_none none, folded]
  exact found

/-- The token is a quotation, or a truth value or an error code in some mix of cases. -/
def Lexeme.Literal (lexeme : Lexeme) : Prop :=
  match lexeme.kind with
  | .text => ∃ s, lexeme.text = textLiteral s
  | .logical => ∃ b, lexeme.text.toList.map Char.toUpper = (truthText b).toList
  | .error => ∃ kind : ErrorKind, lexeme.text.toList.map Char.toLower = kind.folded
  | _ => True

theorem quotation_literal {rest taken ahead : List Char}
    (quoted : takeQuoted '"' rest = some (taken, ahead)) :
    (Lexeme.mk .text (String.ofList ('"' :: taken))).Literal := by
  obtain ⟨content, rfl⟩ := takeQuoted_eq_some quoted
  exact ⟨String.ofList content, by simp [textLiteral, enclose]⟩

theorem errorCode_literal {text : List Char} {length : Nat}
    (found : errorCodeLength text = some length) :
    (Lexeme.mk .error (String.ofList (text.take length))).Literal := by
  obtain ⟨kind, begins, rfl⟩ := errorCodeLength_eq_some_iff.1 found
  refine ⟨kind, ?_⟩
  rw [String.toList_ofList, List.map_take, ← List.prefix_iff_eq_take.1 begins]

theorem operandKind_literal (word : List Char) :
    (Lexeme.mk (operandKind word) (String.ofList word)).Literal := by
  unfold operandKind
  split
  · rename_i truth
    simp only [isTruthWord, Bool.or_eq_true, beq_iff_eq] at truth
    have upper_chars {word' : String} (upper : String.ofList (word.map Char.toUpper) = word') :
        (String.ofList word).toList.map Char.toUpper = word'.toList := by
      rw [← upper, String.toList_ofList, String.toList_ofList]
    rcases truth with upper | upper
    · exact ⟨true, upper_chars upper⟩
    · exact ⟨false, upper_chars upper⟩
  · split
    · trivial
    · split <;> trivial

theorem wordKind_literal (word ahead : List Char) :
    (Lexeme.mk (wordKind word ahead) (String.ofList word)).Literal := by
  unfold wordKind
  split
  · trivial
  · trivial
  · exact operandKind_literal word

namespace Context

theorem next_literal {context : Context} {c : Char} {rest : List Char} {scanned : Scanned}
    (taken : context.next c rest = .ok scanned) : scanned.lexeme.Literal := by
  cases step_of_next taken with
  | text quoted => exact quotation_literal quoted
  | errorCode found => exact errorCode_literal found
  | operator _ _ =>
    rcases context.operatorKind_cases c with kind | kind | kind <;>
      simp [Scanned.lexeme, Lexeme.Literal, kind]
  | comma =>
    rcases context.commaKind_cases with kind | kind <;> simp [Scanned.lexeme, Lexeme.Literal, kind]
  | word _ _ => exact wordKind_literal _ _
  | sheetName _ _ | blanks _ | pair _ | openParen | openBrace | closeParen _ _ | closeBrace _
  | semicolon | colon | bang => trivial

end Context

theorem Formula.parse_literal {text : String} {formula : Formula}
    (parsed : Formula.parse text = .ok formula) :
    ∀ lexeme ∈ formula.root.leaves, lexeme.Literal := by
  obtain ⟨tokens, cut, from_tokens⟩ := Formula.exists_token_of_mem_leaves parsed
  intro lexeme member
  obtain ⟨token, present, rfl⟩ := from_tokens lexeme member
  exact tokenize_forall trivial Context.next_literal cut token present

end FormulaRuns
