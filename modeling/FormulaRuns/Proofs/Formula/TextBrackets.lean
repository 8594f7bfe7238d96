import FormulaRuns.Proofs.Formula.Brackets

namespace FormulaRuns

/-- What a character of a text stands in: nothing, a quotation, or square brackets, so many of them
around the innermost. -/
inductive Region where
  | outside
  | quoted (mark : Char)
  | squared (outer : Nat)

def Region.after : Region → Char → Region
  | .outside, c =>
    if c = '"' ∨ c = '\'' then .quoted c else if c = '[' then .squared 0 else .outside
  | .quoted mark, c => if c = mark then .outside else .quoted mark
  | .squared outer, c =>
    if c = '[' then .squared (outer + 1)
    else if c = ']' then
      match outer with
      | 0 => .outside
      | outer + 1 => .squared outer
    else .squared outer

def Bracket.ofChar? : Char → Option Bracket
  | '(' => some (.opening .paren)
  | ')' => some (.closing .paren)
  | '\x7b' => some (.opening .brace)
  | '\x7d' => some (.closing .brace)
  | _ => none

def Region.bracket? : Region → Char → Option Bracket
  | .outside, c => Bracket.ofChar? c
  | _, _ => none

/-- The brackets of a text but for those in quotations and in square brackets. -/
def bracketsIn (region : Region) : List Char → List Bracket
  | [] => []
  | c :: rest => (region.bracket? c).toList ++ bracketsIn (region.after c) rest

def bracketWord (text : String) : List Bracket := bracketsIn .outside text.toList

def Region.ofDepth : Nat → Region
  | 0 => .outside
  | depth + 1 => .squared depth

def bracketMarks : List Char := ['"', '\'', '(', ')', '\x7b', '\x7d']

theorem ofChar?_of_notMem {c : Char} (plain : c ∉ bracketMarks) : Bracket.ofChar? c = none := by
  unfold Bracket.ofChar?
  split <;> first | rfl | exact absurd (by decide) plain

theorem bracketsIn_inside {c : Char} (plain : c ∉ bracketMarks) (rest : List Char) :
    bracketsIn .outside (c :: rest) =
      bracketsIn (.ofDepth (if c = '[' then 1 else 0)) rest := by
  have after : Region.outside.after c = .ofDepth (if c = '[' then 1 else 0) := by
    simp only [bracketMarks, List.mem_cons, not_or] at plain
    simp only [Region.after, plain, or_self, if_false]
    split <;> rfl
  simp [bracketsIn, Region.bracket?, ofChar?_of_notMem plain, after]

theorem bracketsIn_plain {front : List Char} (plain : ∀ c ∈ front, c ∉ '[' :: bracketMarks)
    (ahead : List Char) :
    bracketsIn .outside (front ++ ahead) = bracketsIn .outside ahead := by
  induction front with
  | nil => rfl
  | cons c front ih =>
    obtain ⟨first, others⟩ := List.forall_mem_cons.1 plain
    obtain ⟨unsquared, unmarked⟩ := not_or.1 (mt List.mem_cons.2 first)
    rw [List.cons_append, bracketsIn_inside unmarked, if_neg unsquared]
    exact ih others

theorem bracketsIn_quoted_cons (mark c : Char) (rest : List Char) :
    bracketsIn (.quoted mark) (c :: rest) =
      bracketsIn (if c = mark then .outside else .quoted mark) rest := rfl

theorem bracketsIn_quoted {mark : Char} (is_mark : mark = '"' ∨ mark = '\'')
    {text taken ahead : List Char} (quoted : takeQuoted mark text = some (taken, ahead)) :
    bracketsIn (.quoted mark) text = bracketsIn .outside ahead := by
  have begins (rest : List Char) :
      bracketsIn .outside (mark :: rest) = bracketsIn (.quoted mark) rest := by
    rcases is_mark with rfl | rfl <;> rfl
  fun_induction takeQuoted mark text generalizing taken ahead with
  | case1 | case3 => cases quoted
  | case2 =>
    cases quoted
    rfl
  | case4 c d rest inside ih =>
    obtain ⟨⟨_, _⟩, inner, same⟩ := Option.map_eq_some_iff.1 quoted
    cases same
    rw [bracketsIn_quoted_cons, if_neg inside]
    exact ih inner
  | case5 c rest same_mark ih =>
    obtain ⟨⟨_, _⟩, inner, same⟩ := Option.map_eq_some_iff.1 quoted
    obtain rfl : c = mark := by simpa using same_mark
    cases same
    rw [bracketsIn_quoted_cons, if_pos rfl, begins]
    exact ih inner
  | case6 c d rest same_mark =>
    obtain rfl : c = mark := by simpa using same_mark
    cases quoted
    rw [bracketsIn_quoted_cons, if_pos rfl]

theorem bracketsIn_squared_cons (outer : Nat) (c : Char) (rest : List Char) :
    bracketsIn (.squared outer) (c :: rest) = bracketsIn
      (.ofDepth (if c = '[' then outer + 1 + 1 else if c = ']' then outer + 1 - 1 else outer + 1))
      rest := by
  have after : (Region.squared outer).after c = .ofDepth
      (if c = '[' then outer + 1 + 1 else if c = ']' then outer + 1 - 1 else outer + 1) := by
    simp only [Region.after]
    split
    · rfl
    · split
      · cases outer <;> rfl
      · rfl
  rw [← after]
  rfl

theorem bracketsIn_word {seen : List Char} {depth : Nat} {text word ahead : List Char}
    (read : scanWord seen depth text = .ok (word, ahead)) :
    bracketsIn (.ofDepth depth) text = bracketsIn .outside ahead := by
  induction text generalizing seen depth word ahead with
  | nil =>
    simp only [scanWord] at read
    split at read
    · rename_i outside
      cases read
      rw [outside]
      rfl
    · cases read
  | cons c rest ih =>
    simp only [scanWord] at read
    split at read
    · cases read
    · rename_i unquoted
      split at read
      · rename_i ends
        cases read
        rw [ends.1]
        rfl
      · rename_i goes_on
        obtain ⟨⟨word, _⟩, inner, same⟩ := map_eq_ok_iff.1 read
        cases same
        rw [← ih inner]
        -- Outside square brackets the word would have ended at a bracket or a quote.
        cases depth with
        | zero =>
          have plain : c ∉ bracketMarks := by
            intro mark
            have ender : c = '\'' ∨ c ∈ wordEnders ∧ ¬(c = '+' ∨ c = '-') := by
              simp only [bracketMarks, List.mem_cons, List.not_mem_nil, or_false] at mark
              rcases mark with rfl | rfl | rfl | rfl | rfl | rfl <;> decide
            rcases ender with quote | ⟨ender, no_sign⟩
            · exact unquoted ⟨rfl, quote⟩
            · exact goes_on ⟨rfl, ender, fun sign => no_sign sign.1⟩
          rw [Region.ofDepth, bracketsIn_inside plain]
          split <;> simp
        | succ outer => exact bracketsIn_squared_cons outer c rest

theorem bracketsIn_errorCode {text : List Char} {length : Nat}
    (found : errorCodeLength text = some length) :
    bracketsIn .outside text = bracketsIn .outside (text.drop length) := by
  obtain ⟨kind, begins, rfl⟩ := errorCodeLength_eq_some_iff.1 found
  have plain : ∀ c ∈ text.take kind.folded.length, c ∉ '[' :: bracketMarks := by
    intro c member mark
    have inside : c.toLower ∈ kind.folded := by
      rw [List.prefix_iff_eq_take.1 begins, ← List.map_take]
      exact List.mem_map_of_mem member
    have same : c.toLower = c := by
      simp only [bracketMarks, List.mem_cons, List.not_mem_nil, or_false] at mark
      rcases mark with rfl | rfl | rfl | rfl | rfl | rfl | rfl <;> decide
    have no_mark : kind.folded.all (· ∉ '[' :: bracketMarks) := by cases kind <;> decide
    have other := List.all_eq_true.1 no_mark _ inside
    simp [same, mark] at other
  have whole := bracketsIn_plain plain (text.drop kind.folded.length)
  rwa [List.take_append_drop] at whole

theorem bracketsIn_step {context : Context} {c : Char} {rest : List Char} {scanned : Scanned}
    (taken : context.next c rest = .ok scanned) :
    bracketsIn .outside (c :: rest) =
      scanned.kind.bracket?.toList ++ bracketsIn .outside scanned.ahead := by
  cases Context.step_of_next taken with
  | text quoted => exact bracketsIn_quoted (.inl rfl) quoted
  | sheetName quoted _ => exact bracketsIn_quoted (.inr rfl) quoted
  | errorCode found => exact bracketsIn_errorCode found
  | blanks blank =>
    have plain : ∀ d ∈ c :: rest.takeWhile isLineBlank, d ∉ '[' :: bracketMarks := by
      intro d member
      have blank : isLineBlank d := by
        rcases List.mem_cons.1 member with rfl | member
        · exact blank
        · exact List.mem_takeWhile_imp member
      rcases Bool.or_eq_true_iff.1 blank with same | same <;> rw [eq_of_beq same] <;> decide
    have run := bracketsIn_plain plain (rest.dropWhile isLineBlank)
    rwa [List.cons_append, List.takeWhile_append_dropWhile] at run
  | @pair _ d rest paired =>
    simp only [isPairedOperator, Bool.or_eq_true, Bool.and_eq_true, beq_iff_eq] at paired
    rcases paired with (⟨rfl, rfl⟩ | ⟨rfl, rfl⟩) | ⟨rfl, rfl⟩ <;> rfl
  | operator operator _ =>
    have plain : operatorChars.all (· ∉ '[' :: bracketMarks) := by decide
    have first : ∀ d ∈ [c], d ∉ '[' :: bracketMarks := by
      simpa using List.all_eq_true.1 plain c operator
    rw [context.bracket?_operatorKind]
    exact bracketsIn_plain first rest
  | comma =>
    rw [context.bracket?_commaKind]
    rfl
  | word inside read =>
    have plain : c ∉ bracketMarks := by
      have limits : bracketMarks.all (· ∈ wordLimits) := by decide
      intro mark
      exact inside (by simpa using List.all_eq_true.1 limits c mark)
    rw [Context.bracket?_wordKind, bracketsIn_inside plain]
    exact bracketsIn_word read
  | openParen | openBrace | closeParen _ _ | closeBrace _ | semicolon | colon | bang => rfl

/-- The text is refused for a closing bracket that has no opening one, or none of its shape, or for
a bracket that is left open. -/
def LexCause.isBracketing : LexCause → Bool
  | .unopenedCloser | .mismatchedPair | .unclosedOpener => true
  | _ => false

theorem scanWord_refused {seen : List Char} {depth : Nat} {text : List Char} {stop : LexStop}
    (refused : scanWord seen depth text = .error stop) : stop.cause.isBracketing = false := by
  induction text generalizing seen depth with
  | nil =>
    simp only [scanWord] at refused
    split at refused <;> cases refused
    rfl
  | cons c rest ih =>
    simp only [scanWord] at refused
    split at refused
    · cases refused
      rfl
    · split at refused
      · cases refused
      · exact ih (map_eq_error_iff.1 refused)

theorem Context.takeCloser_refused {context : Context} {c : Char} {rest : List Char}
    {stop : LexStop} (closer : c = ')' ∨ c = '\x7d')
    (refused : context.takeCloser c rest = .error stop) :
    unclosed context.shapes (bracketsIn .outside (c :: rest)) = none := by
  unfold takeCloser at refused
  split at refused
  · rename_i openers
    rcases closer with rfl | rfl <;>
      simp [shapes, openers, bracketsIn, Region.bracket?, Bracket.ofChar?, unclosed]
  · rename_i opener outer openers
    split at refused
    · cases refused
    · rename_i misfit
      rcases closer with rfl | rfl <;> cases opener <;> first
        | exact absurd (by decide) misfit
        | simp [shapes, openers, bracketsIn, Region.bracket?, Bracket.ofChar?, unclosed,
            Opener.shape]

theorem Context.next_refused {context : Context} {c : Char} {rest : List Char} {stop : LexStop}
    (refused : context.next c rest = .error stop) (bracketing : stop.cause.isBracketing) :
    unclosed context.shapes (bracketsIn .outside (c :: rest)) = none := by
  unfold next at refused
  split at refused
  case h_1 =>
    unfold takeText at refused
    split at refused <;> cases refused
    cases bracketing
  case h_2 =>
    unfold takeSheet at refused
    split at refused
    · split at refused <;> cases refused
      cases bracketing
    · cases refused
      cases bracketing
  case h_3 =>
    unfold takeErrorCode at refused
    split at refused <;> cases refused
    cases bracketing
  case h_18 => exact takeCloser_refused (.inl rfl) refused
  case h_19 => exact takeCloser_refused (.inr rfl) refused
  case h_24 =>
    rw [scanWord_refused (map_eq_error_iff.1 refused)] at bracketing
    cases bracketing
  all_goals cases refused

theorem lexFrom_refused {context : Context} {start : Nat} {text : List Char} {stop : LexStop}
    (refused : lexFrom context start text = .error stop) (bracketing : stop.cause.isBracketing) :
    unclosed context.shapes (bracketsIn .outside text) ≠ some [] := by
  fun_induction lexFrom context start text with
  | case1 => cases refused
  | case2 context start left_open =>
    intro closed
    exact left_open (List.map_eq_nil_iff.1 (Option.some.inj closed))
  | case3 context start c rest stop' taken =>
    cases refused
    rw [Context.next_refused taken bracketing]
    simp
  | case4 context start c rest scanned taken piece =>
    rename_i ih
    rw [bracketsIn_step taken, unclosed_append, Context.unclosed_step taken]
    exact ih (map_eq_error_iff.1 refused)

theorem LexError.isBracketing_of_message {error : LexError}
    (message : error.message = "Unmatched opening parenthesis or bracket" ∨
      error.message = "Mismatched ( and \x7b pair" ∨
      "No matching opener".toList <+: error.message.toList) : error.cause.isBracketing := by
  -- Three characters tell these messages from all others.
  have front : error.message.toList.take 3 ∈ ["Unm".toList, "Mis".toList, "No ".toList] := by
    rcases message with unmatched | mismatched | ⟨rest, none⟩
    · rw [unmatched]
      decide
    · rw [mismatched]
      decide
    · rw [← none]
      exact List.mem_of_elem_eq_true rfl
  obtain ⟨cause, position⟩ := error
  cases cause with
  | unopenedCloser | mismatchedPair | unclosedOpener => rfl
  | _ => simp [LexError.message] at front

/-- The brackets of an accepted text nest, names have their marks behind them, and a comma separates
exactly in arrays and calls; what is refused for its brackets does not nest. -/
theorem tokenize_brackets (text : String) :
    (∀ tokens, tokenize text = .ok tokens →
      Balanced (bracketsOf tokens) ∧
        ∀ before token behind, tokens = before ++ token :: behind →
          Placed before token behind) ∧
      ∀ error, tokenize text = .error error →
        (error.message = "Unmatched opening parenthesis or bracket" ∨
          error.message = "Mismatched ( and \x7b pair" ∨
          "No matching opener".toList <+: error.message.toList) →
        ¬Balanced (bracketWord text) := by
  constructor
  · intro tokens cut
    unfold tokenize at cut
    split at cut
    · split at cut
      · rename_i others others_cut
        cases cut
        have balanced : Balanced (bracketsOf others) := lexFrom_balanced others_cut rfl
        refine ⟨balanced, ?_⟩
        intro before token behind split
        cases before with
        | nil =>
          cases split
          exact ⟨by simp, by simp, by simp, by simp⟩
        | cons equals before =>
          cases split
          obtain ⟨left_open, start', text', later⟩ := lexFrom_before others_cut
          obtain ⟨c, rest, scanned, stop, rfl, taken, lexeme, behind_cut⟩ :=
            lexFrom_eq_cons later
          have no_call : Context.afterEquals.last ≠ .function := by decide
          exact placed_of_next no_call left_open taken lexeme behind_cut
      · cases cut
    · cases cut
  · intro error cut message
    have bracketing := LexError.isBracketing_of_message message
    unfold tokenize at cut
    split at cut
    · rename_i rest chars
      split at cut
      · cases cut
      · rename_i stop refused
        cases cut
        intro balanced
        rw [bracketWord, chars] at balanced
        exact lexFrom_refused refused bracketing (balanced_iff.1 balanced)
    · cases cut
      cases bracketing

theorem tokenize_brackets_of_calls :
    (∃ tokens, tokenize "=f(A1,\x7b1,2\x7d)" = .ok tokens ∧ Balanced (bracketsOf tokens) ∧
      ∀ before token behind, tokens = before ++ token :: behind → Placed before token behind) ∧
      tokenize "=f(A1,\x7b1,2)\x7d" = .error ⟨.mismatchedPair, 10⟩ ∧
      ¬Balanced (bracketWord "=f(A1,\x7b1,2)\x7d") := by
  have cut : ∃ tokens, tokenize "=f(A1,\x7b1,2\x7d)" = .ok tokens :=
    ⟨_, by with_unfolding_all rfl⟩
  have refused : tokenize "=f(A1,\x7b1,2)\x7d" = .error ⟨.mismatchedPair, 10⟩ := by
    with_unfolding_all rfl
  obtain ⟨tokens, cut⟩ := cut
  exact ⟨⟨tokens, cut, (tokenize_brackets _).1 tokens cut⟩, refused,
    (tokenize_brackets _).2 _ refused (.inr (.inl rfl))⟩

end FormulaRuns
