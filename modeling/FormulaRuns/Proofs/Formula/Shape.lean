import FormulaRuns.Formula.Parser
import FormulaRuns.Proofs.Outcome
import Mathlib.Data.List.Forall2

namespace FormulaRuns

open List (Forall₂)

namespace Tree

mutual

def Related (Similar : Lexeme → Lexeme → Prop) : Tree → Tree → Prop
  | leaf before, leaf after => Similar before after
  | node rule children, node rule' children' =>
    rule = rule' ∧ ForestRelated Similar children children'
  | _, _ => False

def ForestRelated (Similar : Lexeme → Lexeme → Prop) : List Tree → List Tree → Prop
  | [], [] => True
  | tree :: trees, tree' :: trees' =>
    tree.Related Similar tree' ∧ ForestRelated Similar trees trees'
  | _, _ => False

end

end Tree

/-- Of related tokens the parser sees the same. -/
structure Indistinct (Similar : Lexeme → Lexeme → Prop) : Prop where
  kind : ∀ {before after}, Similar before after → before.kind = after.kind
  precedence : ∀ {before after}, Similar before after → before.kind = .infixOp →
    before.precedence = after.precedence

/-- Two outcomes of reading: results of one shape with related tokens behind them, or failures. -/
inductive Matches {α : Type} (Similar : Lexeme → Lexeme → Prop) (Same : α → α → Prop) :
    Except ParseStop (α × List Lexeme) → Except ParseStop (α × List Lexeme) → Prop
  | ok {result result' : α} {rest rest' : List Lexeme} : Same result result' →
      Forall₂ Similar rest rest' → Matches Similar Same (.ok (result, rest)) (.ok (result', rest'))
  | error {stop stop' : ParseStop} : Matches Similar Same (.error stop) (.error stop')

variable {Similar : Lexeme → Lexeme → Prop}

abbrev TreesMatch (Similar : Lexeme → Lexeme → Prop) : ParsedTree → ParsedTree → Prop :=
  Matches Similar (Tree.Related Similar)

theorem Matches.bind {α β : Type} {Same : α → α → Prop} {Same' : β → β → Prop}
    {first first' : Except ParseStop (α × List Lexeme)}
    {next next' : α × List Lexeme → Except ParseStop (β × List Lexeme)}
    (firsts : Matches Similar Same first first')
    (nexts : ∀ {result result' : α} {rest rest' : List Lexeme}, Same result result' →
      Forall₂ Similar rest rest' →
      Matches Similar Same' (next (result, rest)) (next' (result', rest'))) :
    Matches Similar Same' (first >>= next) (first' >>= next') := by
  cases firsts with
  | ok same rests => exact nexts same rests
  | error => exact .error

structure Level.Matches (Similar : Lexeme → Lexeme → Prop) (level level' : Level) : Prop where
  operand : ∀ {lexemes lexemes'}, Forall₂ Similar lexemes lexemes' →
    TreesMatch Similar (level.operand lexemes) (level'.operand lexemes')
  expression : ∀ (least : Nat) {lexemes lexemes'}, Forall₂ Similar lexemes lexemes' →
    TreesMatch Similar (level.expression least lexemes) (level'.expression least lexemes')
  call : ∀ {lexemes lexemes'}, Forall₂ Similar lexemes lexemes' →
    TreesMatch Similar (level.call lexemes) (level'.call lexemes')
  array : ∀ {lexemes lexemes'}, Forall₂ Similar lexemes lexemes' →
    TreesMatch Similar (level.array lexemes) (level'.array lexemes')

section

variable (indistinct : Indistinct Similar) {lexemes lexemes' : List Lexeme}
include indistinct

theorem expect_matches (kind : TokenKind) (cause : ParseCause)
    (related : Forall₂ Similar lexemes lexemes') :
    TreesMatch Similar (expect kind cause lexemes) (expect kind cause lexemes') := by
  cases related with
  | nil => exact .error
  | cons similar others =>
    simp only [expect, ← indistinct.kind similar]
    split
    · exact .ok similar others
    · exact .error

theorem sheetReference_matches {extend : Tree → List Lexeme → ParsedTree} {sheet sheet' : Lexeme}
    (extends_atom : ∀ {atom atom' : Lexeme} {lexemes lexemes' : List Lexeme}, Similar atom atom' →
      Forall₂ Similar lexemes lexemes' →
      TreesMatch Similar (extend (.leaf atom) lexemes) (extend (.leaf atom') lexemes'))
    (sheets : Similar sheet sheet') (related : Forall₂ Similar lexemes lexemes') :
    TreesMatch Similar (sheetReference extend sheet lexemes)
      (sheetReference extend sheet' lexemes') := by
  apply (expect_matches indistinct .bang .missingBang related).bind
  intro bang bang' _ _ bangs behind
  cases behind with
  | nil => exact .error
  | cons atoms behind =>
    simp only [← indistinct.kind atoms]
    split
    · apply (extends_atom atoms behind).bind
      intro target target' _ _ targets after
      exact .ok ⟨rfl, sheets, bangs, targets, trivial⟩ after
    · exact .error

theorem rangeEnd_matches (related : Forall₂ Similar lexemes lexemes') :
    TreesMatch Similar (rangeEnd lexemes) (rangeEnd lexemes') := by
  cases related with
  | nil => exact .error
  | cons similar others =>
    simp only [rangeEnd, ← indistinct.kind similar]
    split
    · exact .ok similar others
    · split
      · apply sheetReference_matches indistinct _ similar others
        intro _ _ _ _ atoms behind
        exact .ok atoms behind
      · exact .error

theorem rangeFrom_matches {first first' : Lexeme} (firsts : Similar first first')
    (related : Forall₂ Similar lexemes lexemes') :
    TreesMatch Similar (rangeFrom (.leaf first) lexemes) (rangeFrom (.leaf first') lexemes') := by
  cases related with
  | nil => exact .ok firsts .nil
  | cons colons others =>
    simp only [rangeFrom, ← indistinct.kind colons]
    split
    · apply (rangeEnd_matches indistinct others).bind
      intro last last' _ _ lasts behind
      exact .ok ⟨rfl, firsts, colons, lasts, trivial⟩ behind
    · exact .ok firsts (.cons colons others)

theorem primary_matches {inner inner' : Level} (inners : inner.Matches Similar inner')
    (related : Forall₂ Similar lexemes lexemes') :
    TreesMatch Similar (primary inner lexemes) (primary inner' lexemes') := by
  cases related with
  | nil => exact .error
  | cons similar others =>
    simp only [primary, ← indistinct.kind similar]
    split
    case h_1 | h_2 | h_3 => exact rangeFrom_matches indistinct similar others
    case h_4 | h_5 | h_6 => exact .ok similar others
    case h_7 =>
      exact sheetReference_matches indistinct (rangeFrom_matches indistinct) similar others
    case h_8 => exact inners.call (.cons similar others)
    case h_9 =>
      apply (inners.expression 0 others).bind
      intro body body' _ _ bodies behind
      apply (expect_matches indistinct .closeParen .unclosedParen behind).bind
      intro closer closer' _ _ closers after
      exact .ok ⟨rfl, similar, bodies, closers, trivial⟩ after
    case h_10 => exact inners.array (.cons similar others)
    case h_11 => exact .error

theorem postfixes_matches {body body' : Tree} (bodies : body.Related Similar body')
    (related : Forall₂ Similar lexemes lexemes') :
    TreesMatch Similar (.ok (postfixes body lexemes)) (.ok (postfixes body' lexemes')) := by
  induction related generalizing body body' with
  | nil => exact .ok bodies .nil
  | cons similar others ih =>
    simp only [postfixes, ← indistinct.kind similar]
    split
    · exact ih ⟨rfl, bodies, similar, trivial⟩
    · exact .ok bodies (.cons similar others)

theorem operand_matches {inner inner' : Level} (inners : inner.Matches Similar inner')
    (related : Forall₂ Similar lexemes lexemes') :
    TreesMatch Similar (operand inner lexemes) (operand inner' lexemes') := by
  cases related with
  | nil => exact .error
  | cons similar others =>
    simp only [operand, ← indistinct.kind similar]
    split
    · apply (inners.operand others).bind
      intro body body' _ _ bodies behind
      exact .ok ⟨rfl, similar, bodies, trivial⟩ behind
    · exact (primary_matches indistinct inners (.cons similar others)).bind
        (postfixes_matches indistinct)

theorem chain_matches {inner inner' : Level} (inners : inner.Matches Similar inner')
    (least links : Nat) {left left' : Tree} (lefts : left.Related Similar left')
    (related : Forall₂ Similar lexemes lexemes') :
    TreesMatch Similar (chain inner least links left lexemes)
      (chain inner' least links left' lexemes') := by
  induction links generalizing left left' lexemes lexemes' with
  | zero =>
    cases related with
    | nil => exact .ok lefts .nil
    | @cons op op' _ _ similar others =>
      simp only [chain, ← indistinct.kind similar]
      by_cases infix_op : op.kind = .infixOp
      · rw [← indistinct.precedence similar infix_op]
        split
        · exact .error
        · exact .ok lefts (.cons similar others)
      · simp only [infix_op, false_and, if_false]
        exact .ok lefts (.cons similar others)
  | succ links ih =>
    cases related with
    | nil => exact .ok lefts .nil
    | @cons op op' _ _ similar others =>
      simp only [chain, ← indistinct.kind similar]
      by_cases infix_op : op.kind = .infixOp
      · rw [← indistinct.precedence similar infix_op]
        split
        · apply (inners.expression _ others).bind
          intro right right' _ _ rights behind
          exact ih ⟨rfl, lefts, similar, rights, trivial⟩ behind
        · exact .ok lefts (.cons similar others)
      · simp only [infix_op, false_and, if_false]
        exact .ok lefts (.cons similar others)

theorem expression_matches {inner inner' : Level} (inners : inner.Matches Similar inner')
    (links least : Nat) (related : Forall₂ Similar lexemes lexemes') :
    TreesMatch Similar (expression inner links least lexemes)
      (expression inner' links least lexemes') :=
  (operand_matches indistinct inners related).bind (chain_matches indistinct inners least links)

section Lists

variable {item item' : List Lexeme → ParsedTree}

theorem items_matches
    (matching : ∀ {lexemes lexemes'}, Forall₂ Similar lexemes lexemes' →
      TreesMatch Similar (item lexemes) (item' lexemes'))
    (isSeparator : TokenKind → Bool) (closer : TokenKind) (cause : ParseCause) (limit : Nat)
    (related : Forall₂ Similar lexemes lexemes') :
    Matches Similar (Tree.ForestRelated Similar)
      (items item isSeparator closer cause limit lexemes)
      (items item' isSeparator closer cause limit lexemes') := by
  induction limit generalizing lexemes lexemes' with
  | zero => exact .error
  | succ limit ih =>
    apply (matching related).bind
    intro tree tree' _ _ trees behind
    cases behind with
    | nil => exact .error
    | cons similar behind =>
      simp only [← indistinct.kind similar]
      split
      · apply (ih behind).bind
        intro _ _ _ _ others after
        exact .ok ⟨trees, similar, others⟩ after
      · split
        · exact .ok ⟨trees, similar, trivial⟩ behind
        · exact .error

theorem call_matches
    (matching : ∀ {lexemes lexemes'}, Forall₂ Similar lexemes lexemes' →
      TreesMatch Similar (item lexemes) (item' lexemes'))
    (limit : Nat) (related : Forall₂ Similar lexemes lexemes') :
    TreesMatch Similar (call item limit lexemes) (call item' limit lexemes') := by
  cases related with
  | nil => exact .error
  | cons names others =>
    apply (expect_matches indistinct .openParen .missingArguments others).bind
    intro opener opener' behind behind' openers behinds
    have closing := expect_matches indistinct .closeParen .argumentEnd behinds
    simp only
    generalize expect .closeParen .argumentEnd behind = closer at closing
    generalize expect .closeParen .argumentEnd behind' = closer' at closing
    cases closing with
    | ok closers after => exact .ok ⟨rfl, names, openers, closers, trivial⟩ after
    | error =>
      apply (items_matches indistinct matching _ .closeParen .argumentEnd limit behinds).bind
      intro _ _ _ _ args after
      exact .ok ⟨rfl, names, openers, args⟩ after

theorem array_matches
    (matching : ∀ {lexemes lexemes'}, Forall₂ Similar lexemes lexemes' →
      TreesMatch Similar (item lexemes) (item' lexemes'))
    (limit : Nat) (related : Forall₂ Similar lexemes lexemes') :
    TreesMatch Similar (array item limit lexemes) (array item' limit lexemes') := by
  cases related with
  | nil => exact .error
  | cons openers others =>
    apply (items_matches indistinct matching _ .closeBrace .arrayEnd limit others).bind
    intro _ _ _ _ elements after
    exact .ok ⟨rfl, openers, elements⟩ after

end Lists

namespace Level

omit indistinct in
theorem sealed_matches : sealed.Matches Similar sealed where
  operand _ := .error
  expression _ := fun _ => .error
  call _ := .error
  array _ := .error

theorem around_matches (limit links : Nat) {inner inner' : Level}
    (inners : inner.Matches Similar inner') :
    (around limit inner links).Matches Similar (around limit inner' links) where
  operand := operand_matches indistinct inners
  expression least := expression_matches indistinct inners links least
  call := call_matches indistinct (expression_matches indistinct inners links 0) limit
  array := array_matches indistinct (expression_matches indistinct inners links 0) limit

theorem above_matches (limit levels : Nat) :
    (above limit levels).Matches Similar (above limit levels) := by
  induction levels with
  | zero => exact around_matches indistinct limit 0 sealed_matches
  | succ levels ih => exact around_matches indistinct limit (levels + 1) ih

end Level

/-- If a list of tokens can be read, then so can every list related to it, as a tree of one shape
with the first. -/
theorem parseLexemes_related {root : Tree} (related : Forall₂ Similar lexemes lexemes')
    (parsed : parseLexemes lexemes = .ok root) :
    ∃ root', parseLexemes lexemes' = .ok root' ∧ root.Related Similar root' := by
  obtain ⟨⟨equals, behind⟩, equals_taken, remaining⟩ := bind_eq_ok_iff.1 parsed
  obtain ⟨⟨body, after⟩, body_read, done⟩ := bind_eq_ok_iff.1 remaining
  have equals_match := expect_matches indistinct .equals .missingEquals related
  rw [equals_taken] at equals_match
  generalize taken : expect .equals .missingEquals lexemes' = outcome at equals_match
  cases equals_match with
  | @ok _ equals' _ behind' equals_related behinds =>
  have bodies := (Level.above_matches indistinct lexemes.length nestingLimit).expression 0 behinds
  rw [body_read] at bodies
  generalize read : (Level.above _ _).expression 0 behind' = outcome at bodies
  cases bodies with
  | @ok _ body' _ after' body_related afters =>
  cases afters with
  | nil =>
    cases done
    refine ⟨.node .formula [equals', body'], ?_, rfl, equals_related, body_related, trivial⟩
    -- The length, which is the parser's limit, is the same for both lists.
    simp [parseLexemes, taken, read, ← related.length_eq]
  | cons => cases done

end

end FormulaRuns
