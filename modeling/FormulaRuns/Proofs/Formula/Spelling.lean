import FormulaRuns.Expr.Basic
import FormulaRuns.Formula.Lexer
import FormulaRuns.Proofs.Formula.Grammar
import FormulaRuns.Proofs.Formula.Steps

namespace FormulaRuns

def Lexeme.Spelled (lexeme : Lexeme) : Prop :=
  match lexeme.kind with
  | .cellRef => ∃ cell, A1.parse lexeme.text = .ok cell
  | .prefixOp => (UnaryOp.ofSymbol? lexeme.text).isSome
  | .infixOp => (BinaryOp.ofSymbol? lexeme.text).isSome
  | _ => True

namespace Lexeme

variable {lexeme : Lexeme}

theorem Spelled.exists_cell (spelled : lexeme.Spelled) (kind : lexeme.kind = .cellRef) :
    ∃ cell, A1.parse lexeme.text = .ok cell := by
  simpa only [Spelled, kind] using spelled

theorem Spelled.unaryOp_isSome (spelled : lexeme.Spelled) (kind : lexeme.kind = .prefixOp) :
    (UnaryOp.ofSymbol? lexeme.text).isSome := by
  simpa only [Spelled, kind] using spelled

theorem Spelled.binaryOp_isSome (spelled : lexeme.Spelled) (kind : lexeme.kind = .infixOp) :
    (BinaryOp.ofSymbol? lexeme.text).isSome := by
  simpa only [Spelled, kind] using spelled

end Lexeme

def Scanned.lexeme (scanned : Scanned) : Lexeme := ⟨scanned.kind, String.ofList scanned.taken⟩

theorem operandKind_spelled (word : List Char) :
    (Lexeme.mk (operandKind word) (String.ofList word)).Spelled := by
  unfold operandKind
  split
  · trivial
  · split
    · trivial
    · split
      · cases parsed : A1.parse (String.ofList word) with
        | error fault => simp_all [Except.isOk, Except.toBool]
        | ok cell => exact ⟨cell, parsed⟩
      · trivial

theorem wordKind_spelled (word ahead : List Char) :
    (Lexeme.mk (wordKind word ahead) (String.ofList word)).Spelled := by
  unfold wordKind
  split
  · trivial
  · trivial
  · exact operandKind_spelled word

theorem sign_isSome : ∀ c ∈ ['+', '-'], (UnaryOp.ofSymbol? (String.ofList [c])).isSome := by
  intro c member
  simp only [List.mem_cons, List.not_mem_nil, or_false] at member
  rcases member with rfl | rfl <;> decide

theorem infix_isSome :
    ∀ c ∈ operatorChars, c ≠ '%' → (BinaryOp.ofSymbol? (String.ofList [c])).isSome := by
  intro c member not_percent
  simp only [operatorChars, List.mem_cons, List.not_mem_nil, or_false] at member
  rcases member with rfl | rfl | rfl | rfl | rfl | rfl | rfl | rfl | rfl | rfl
  all_goals first | decide | exact absurd rfl not_percent

namespace Context

theorem operatorKind_spelled (context : Context) {c : Char} (operator : c ∈ operatorChars) :
    (Lexeme.mk (context.operatorKind c) (String.ofList [c])).Spelled := by
  unfold operatorKind
  split
  · trivial
  · rename_i not_percent
    split
    · exact sign_isSome c (by simp_all)
    · exact infix_isSome c operator not_percent

theorem comma_spelled (context : Context) :
    (Lexeme.mk context.commaKind (String.ofList [','])).Spelled := by
  unfold commaKind
  split
  · trivial
  · trivial
  · exact rfl

theorem next_spelled {context : Context} {c : Char} {rest : List Char} {scanned : Scanned}
    (taken : context.next c rest = .ok scanned) : scanned.lexeme.Spelled := by
  cases step_of_next taken with
  | pair paired =>
    simp only [isPairedOperator, Bool.or_eq_true, Bool.and_eq_true, beq_iff_eq] at paired
    rcases paired with (⟨rfl, rfl⟩ | ⟨rfl, rfl⟩) | ⟨rfl, rfl⟩ <;> exact rfl
  | operator operator _ => exact context.operatorKind_spelled operator
  | comma => exact comma_spelled context
  | word _ _ => exact wordKind_spelled _ _
  | text _ | sheetName _ _ | errorCode _ | blanks _ | openParen | openBrace | closeParen _ _
  | closeBrace _ | semicolon | colon | bang => trivial

end Context

theorem lexFrom_forall {Good : Lexeme → Prop}
    (step : ∀ {context : Context} {c : Char} {rest : List Char} {scanned : Scanned},
      context.next c rest = .ok scanned → Good scanned.lexeme)
    {context : Context} {start : Nat} {text : List Char} {tokens : List Token}
    (cut : lexFrom context start text = .ok tokens) : ∀ token ∈ tokens, Good token.toLexeme := by
  fun_induction lexFrom context start text generalizing tokens with
  | case1 =>
    cases cut
    simp
  | case2 => cases cut
  | case3 => cases cut
  | case4 context start c rest scanned taken piece stop =>
    rename_i ih
    obtain ⟨others, others_cut, rfl⟩ := map_eq_ok_iff.1 cut
    intro token member
    rcases List.mem_cons.1 member with rfl | member
    · exact step taken
    · exact ih others_cut token member

theorem tokenize_forall {Good : Lexeme → Prop} (equals : Good ⟨.equals, "="⟩)
    (step : ∀ {context : Context} {c : Char} {rest : List Char} {scanned : Scanned},
      context.next c rest = .ok scanned → Good scanned.lexeme)
    {formula : String} {tokens : List Token} (cut : tokenize formula = .ok tokens) :
    ∀ token ∈ tokens, Good token.toLexeme := by
  unfold tokenize at cut
  split at cut
  · split at cut
    · rename_i others others_cut
      cases cut
      intro token member
      rcases List.mem_cons.1 member with rfl | member
      · exact equals
      · exact lexFrom_forall step others_cut token member
    · cases cut
  · cases cut

theorem tokenize_spelled {formula : String} {tokens : List Token}
    (cut : tokenize formula = .ok tokens) : ∀ token ∈ tokens, token.toLexeme.Spelled :=
  tokenize_forall trivial Context.next_spelled cut

/-- A tree by the grammar of which the leaves are spelled as their kinds ask for. -/
structure Tree.WellFormed (tree : Tree) : Prop where
  grammatical : tree.Grammatical
  spelled : ∀ lexeme ∈ tree.leaves, lexeme.Spelled

theorem Formula.exists_token_of_mem_leaves {text : String} {formula : Formula}
    (parsed : Formula.parse text = .ok formula) :
    ∃ tokens, tokenize text = .ok tokens ∧
      ∀ lexeme ∈ formula.root.leaves, ∃ token ∈ tokens, token.toLexeme = lexeme := by
  obtain ⟨-, tokens, cut, read⟩ := Formula.parse_eq_ok_iff.1 parsed
  refine ⟨tokens, cut, fun lexeme member => ?_⟩
  rw [(parseLexemes_sound read).1] at member
  exact List.mem_map.1 (List.mem_of_mem_filter member)

theorem Formula.parse_wellFormed {text : String} {formula : Formula}
    (parsed : Formula.parse text = .ok formula) : formula.root.WellFormed := by
  obtain ⟨-, _, -, read⟩ := Formula.parse_eq_ok_iff.1 parsed
  obtain ⟨tokens, cut, from_tokens⟩ := Formula.exists_token_of_mem_leaves parsed
  refine ⟨(parseLexemes_sound read).2, ?_⟩
  intro lexeme member
  obtain ⟨token, present, rfl⟩ := from_tokens lexeme member
  exact tokenize_spelled cut token present

end FormulaRuns
