import FormulaRuns.Formula.Parser
import FormulaRuns.Proofs.Outcome

/-!
The grammar of formulas, said of trees: a tree is grammatical if each of its nodes stands over its
children by one of the productions. The parser returns grammatical trees only, and the leaves of
what it returns are the tokens that it read (`parseLexemes_sound`).
-/
namespace FormulaRuns

def TokenKind.isOperand : TokenKind → Bool
  | cellRef | name | number | text | logical | error => true
  | _ => false

namespace Tree

def isExpression : Tree → Bool
  | leaf lexeme => lexeme.kind.isOperand
  | node rule _ => rule != .formula

inductive RangeEnd : Tree → Prop
  | atom {lexeme : Lexeme} : lexeme.kind.isRangeEnd → RangeEnd (leaf lexeme)
  | elsewhere {sheet bang target : Lexeme} : target.kind.isRangeEnd →
      RangeEnd (node .sheetRef [leaf sheet, leaf bang, leaf target])

/-- What a sheet's name can stand in front of. -/
inductive SheetTarget : Tree → Prop
  | atom {lexeme : Lexeme} : lexeme.kind.isRangeEnd → SheetTarget (leaf lexeme)
  | range {children : List Tree} : SheetTarget (node .range children)

/-- Expressions with separators between them, and the closing token behind the last. -/
inductive Items (isSeparator : TokenKind → Bool) (closer : TokenKind) : List Tree → Prop
  | last {tree : Tree} {lexeme : Lexeme} : tree.isExpression → lexeme.kind = closer →
      Items isSeparator closer [tree, leaf lexeme]
  | more {tree : Tree} {lexeme : Lexeme} {trees : List Tree} : tree.isExpression →
      isSeparator lexeme.kind → Items isSeparator closer trees →
      Items isSeparator closer (tree :: leaf lexeme :: trees)

/-- What the children of a node of each rule can be. -/
inductive Production : Rule → List Tree → Prop
  | formula {equals : Lexeme} {body : Tree} : equals.kind = .equals → body.isExpression →
      Production .formula [leaf equals, body]
  | binary {left right : Tree} {op : Lexeme} : left.isExpression → op.kind = .infixOp →
      right.isExpression → Production .binary [left, leaf op, right]
  | prefixed {op : Lexeme} {body : Tree} : op.kind = .prefixOp → body.isExpression →
      Production .prefixed [leaf op, body]
  | postfixed {body : Tree} {op : Lexeme} : body.isExpression → op.kind = .postfixOp →
      Production .postfixed [body, leaf op]
  | paren {opener closer : Lexeme} {body : Tree} : opener.kind = .openParen →
      body.isExpression → closer.kind = .closeParen →
      Production .paren [leaf opener, body, leaf closer]
  | range {first colon : Lexeme} {last : Tree} : first.kind.isRangeEnd → colon.kind = .colon →
      last.RangeEnd → Production .range [leaf first, leaf colon, last]
  | sheetRef {sheet bang : Lexeme} {target : Tree} : sheet.kind = .sheetName →
      bang.kind = .bang → target.SheetTarget →
      Production .sheetRef [leaf sheet, leaf bang, target]
  | emptyCall {name opener closer : Lexeme} : name.kind = .function → opener.kind = .openParen →
      closer.kind = .closeParen → Production .call [leaf name, leaf opener, leaf closer]
  | call {name opener : Lexeme} {args : List Tree} : name.kind = .function →
      opener.kind = .openParen → Items (· == .argSep) .closeParen args →
      Production .call (leaf name :: leaf opener :: args)
  | array {opener : Lexeme} {elements : List Tree} : opener.kind = .openBrace →
      Items (fun kind => kind == .argSep || kind == .rowSep) .closeBrace elements →
      Production .array (leaf opener :: elements)

mutual

def Grammatical : Tree → Prop
  | leaf _ => True
  | node rule children => Production rule children ∧ ForestGrammatical children

def ForestGrammatical : List Tree → Prop
  | [] => True
  | tree :: trees => tree.Grammatical ∧ ForestGrammatical trees

end

end Tree

/-- If a parser returns a tree, it is grammatical and `Good`, and its leaves and the tokens that are
left make up the tokens that were there. -/
def Reads (parsed : ParsedTree) (lexemes : List Lexeme) (Good : Tree → Prop) : Prop :=
  ∀ {tree : Tree} {rest : List Lexeme}, parsed = .ok (tree, rest) →
    tree.leaves ++ rest = lexemes ∧ tree.Grammatical ∧ Good tree

structure Level.Sound (level : Level) : Prop where
  operand : ∀ lexemes, Reads (level.operand lexemes) lexemes (·.isExpression)
  expression : ∀ least lexemes, Reads (level.expression least lexemes) lexemes (·.isExpression)
  call : ∀ {name : Lexeme} (lexemes : List Lexeme), name.kind = .function →
    Reads (level.call (name :: lexemes)) (name :: lexemes) (·.isExpression)
  array : ∀ {opener : Lexeme} (lexemes : List Lexeme), opener.kind = .openBrace →
    Reads (level.array (opener :: lexemes)) (opener :: lexemes) (·.isExpression)

theorem expect_eq_ok {kind : TokenKind} {cause : ParseCause} {lexemes rest : List Lexeme}
    {tree : Tree} (taken : expect kind cause lexemes = .ok (tree, rest)) :
    ∃ lexeme, tree = .leaf lexeme ∧ lexeme.kind = kind ∧ lexemes = lexeme :: rest := by
  cases lexemes with
  | nil => cases taken
  | cons lexeme others =>
    simp only [expect] at taken
    split at taken
    · cases taken
      exact ⟨lexeme, rfl, ‹_›, rfl⟩
    · cases taken

theorem sheetReference_sound {extend : Tree → List Lexeme → ParsedTree} {Good : Tree → Prop}
    {sheet : Lexeme} {lexemes : List Lexeme} (named : sheet.kind = .sheetName)
    (extends_atom : ∀ (atom : Lexeme) (lexemes : List Lexeme), atom.kind.isRangeEnd →
      Reads (extend (.leaf atom) lexemes) (atom :: lexemes) Good)
    (good_target : ∀ {target : Tree}, Good target → target.SheetTarget) :
    Reads (sheetReference extend sheet lexemes) (sheet :: lexemes) fun tree =>
      ∃ bang target, tree = .node .sheetRef [.leaf sheet, .leaf bang, target] ∧ Good target := by
  intro tree rest read
  obtain ⟨⟨bang, behind⟩, bang_taken, remaining⟩ := bind_eq_ok_iff.1 read
  obtain ⟨bang, rfl, bang_kind, rfl⟩ := expect_eq_ok bang_taken
  cases behind with
  | nil => cases remaining
  | cons atom behind =>
    simp only at remaining
    split at remaining
    · obtain ⟨⟨target, after⟩, extended, done⟩ := bind_eq_ok_iff.1 remaining
      obtain ⟨yield, grammatical, good⟩ := extends_atom atom behind ‹_› extended
      cases done
      refine ⟨?_, ⟨.sheetRef named bang_kind (good_target good), ?_⟩, bang, target, rfl, good⟩
      · simp [Tree.leaves, Tree.forestLeaves, ← yield]
      · simp [Tree.ForestGrammatical, Tree.Grammatical, grammatical]
    · cases remaining

theorem rangeEnd_sound (lexemes : List Lexeme) :
    Reads (rangeEnd lexemes) lexemes Tree.RangeEnd := by
  intro tree rest read
  cases lexemes with
  | nil => cases read
  | cons lexeme others =>
    simp only [rangeEnd] at read
    split at read
    · cases read
      exact ⟨rfl, trivial, .atom ‹_›⟩
    · split at read
      · have atom_only (atom : Lexeme) (behind : List Lexeme) (kind : atom.kind.isRangeEnd) :
            Reads (.ok (.leaf atom, behind)) (atom :: behind) fun target =>
              ∃ atom, target = .leaf atom ∧ atom.kind.isRangeEnd := by
          intro target after same
          cases same
          exact ⟨rfl, trivial, atom, rfl, kind⟩
        obtain ⟨yield, grammatical, bang, target, rfl, atom, rfl, atom_kind⟩ :=
          sheetReference_sound ‹_› atom_only (fun ⟨_, same, kind⟩ => same ▸ .atom kind) read
        exact ⟨yield, grammatical, .elsewhere atom_kind⟩
      · cases read

theorem rangeFrom_sound (first : Lexeme) (lexemes : List Lexeme) (kind : first.kind.isRangeEnd) :
    Reads (rangeFrom (.leaf first) lexemes) (first :: lexemes) Tree.SheetTarget := by
  intro tree rest read
  cases lexemes with
  | nil =>
    cases read
    exact ⟨rfl, trivial, .atom kind⟩
  | cons colon others =>
    simp only [rangeFrom] at read
    split at read
    · obtain ⟨⟨last, behind⟩, last_read, done⟩ := bind_eq_ok_iff.1 read
      obtain ⟨yield, grammatical, good⟩ := rangeEnd_sound others last_read
      cases done
      refine ⟨?_, ⟨.range kind ‹_› good, ?_⟩, .range⟩
      · simp [Tree.leaves, Tree.forestLeaves, ← yield]
      · simp [Tree.ForestGrammatical, Tree.Grammatical, grammatical]
    · cases read
      exact ⟨rfl, trivial, .atom kind⟩

theorem isOperand_of_isRangeEnd {kind : TokenKind} (range_end : kind.isRangeEnd) :
    kind.isOperand := by
  cases kind <;> simp_all [TokenKind.isRangeEnd, TokenKind.isOperand]

theorem Tree.SheetTarget.isExpression {tree : Tree} (target : tree.SheetTarget) :
    tree.isExpression := by
  cases target with
  | atom kind => exact isOperand_of_isRangeEnd kind
  | range => rfl

theorem primary_sound {inner : Level} (sound : inner.Sound) (lexemes : List Lexeme) :
    Reads (primary inner lexemes) lexemes (·.isExpression) := by
  intro tree rest read
  cases lexemes with
  | nil => cases read
  | cons lexeme others =>
    simp only [primary] at read
    split at read
    case h_1 kind | h_2 kind | h_3 kind =>
      obtain ⟨yield, grammatical, target⟩ :=
        rangeFrom_sound lexeme others (by rw [kind]; rfl) read
      exact ⟨yield, grammatical, target.isExpression⟩
    case h_4 kind | h_5 kind | h_6 kind =>
      cases read
      exact ⟨rfl, trivial, by simp [Tree.isExpression, kind, TokenKind.isOperand]⟩
    case h_7 kind =>
      obtain ⟨yield, grammatical, bang, target, rfl, -⟩ :=
        sheetReference_sound kind rangeFrom_sound id read
      exact ⟨yield, grammatical, rfl⟩
    case h_8 kind => exact sound.call others kind read
    case h_9 kind =>
      obtain ⟨⟨body, behind⟩, body_read, remaining⟩ := bind_eq_ok_iff.1 read
      obtain ⟨⟨closer, after⟩, closer_taken, done⟩ := bind_eq_ok_iff.1 remaining
      obtain ⟨yield, grammatical, good⟩ := sound.expression 0 others body_read
      obtain ⟨closer, rfl, closer_kind, rfl⟩ := expect_eq_ok closer_taken
      cases done
      refine ⟨?_, ⟨.paren kind good closer_kind, ?_⟩, rfl⟩
      · simp [Tree.leaves, Tree.forestLeaves, ← yield]
      · simp [Tree.ForestGrammatical, Tree.Grammatical, grammatical]
    case h_10 kind => exact sound.array others kind read
    case h_11 => cases read

theorem postfixes_sound {body : Tree} (lexemes : List Lexeme) (grammatical : body.Grammatical)
    (good : body.isExpression) :
    Reads (.ok (postfixes body lexemes)) (body.leaves ++ lexemes) (·.isExpression) := by
  intro tree rest read
  induction lexemes generalizing body with
  | nil =>
    cases read
    exact ⟨rfl, grammatical, good⟩
  | cons op others ih =>
    simp only [postfixes] at read
    split at read
    · have longer : (Tree.node .postfixed [body, .leaf op]).Grammatical :=
        ⟨.postfixed good ‹_›, grammatical, trivial, trivial⟩
      obtain ⟨yield, result⟩ := ih longer rfl read
      refine ⟨?_, result⟩
      simp [yield, Tree.leaves, Tree.forestLeaves]
    · cases read
      exact ⟨rfl, grammatical, good⟩

theorem operand_sound {inner : Level} (sound : inner.Sound) (lexemes : List Lexeme) :
    Reads (operand inner lexemes) lexemes (·.isExpression) := by
  intro tree rest read
  cases lexemes with
  | nil => cases read
  | cons op others =>
    simp only [operand] at read
    split at read
    · obtain ⟨⟨body, behind⟩, body_read, done⟩ := bind_eq_ok_iff.1 read
      obtain ⟨yield, grammatical, good⟩ := sound.operand others body_read
      cases done
      refine ⟨?_, ⟨.prefixed ‹_› good, ?_⟩, rfl⟩
      · simp [Tree.leaves, Tree.forestLeaves, ← yield]
      · simp [Tree.ForestGrammatical, Tree.Grammatical, grammatical]
    · obtain ⟨⟨body, behind⟩, body_read, done⟩ := bind_eq_ok_iff.1 read
      obtain ⟨yield, grammatical, good⟩ := primary_sound sound (op :: others) body_read
      rw [← yield]
      exact postfixes_sound behind grammatical good done

theorem chain_sound {inner : Level} (sound : inner.Sound) (least links : Nat) {left : Tree}
    (lexemes : List Lexeme) (grammatical : left.Grammatical) (good : left.isExpression) :
    Reads (chain inner least links left lexemes) (left.leaves ++ lexemes) (·.isExpression) := by
  intro tree rest read
  induction links generalizing left lexemes with
  | zero =>
    cases lexemes with
    | nil =>
      cases read
      exact ⟨rfl, grammatical, good⟩
    | cons op others =>
      simp only [chain] at read
      split at read
      · cases read
      · cases read
        exact ⟨rfl, grammatical, good⟩
  | succ links ih =>
    cases lexemes with
    | nil =>
      cases read
      exact ⟨rfl, grammatical, good⟩
    | cons op others =>
      simp only [chain] at read
      split at read
      · obtain ⟨⟨right, behind⟩, right_read, remaining⟩ := bind_eq_ok_iff.1 read
        obtain ⟨yield, right_grammatical, right_good⟩ := sound.expression _ others right_read
        have longer : (Tree.node .binary [left, .leaf op, right]).Grammatical :=
          ⟨.binary good (‹_ ∧ _›).1 right_good, grammatical, trivial, right_grammatical, trivial⟩
        obtain ⟨chain_yield, result⟩ := ih behind longer rfl remaining
        refine ⟨?_, result⟩
        simp [chain_yield, Tree.leaves, Tree.forestLeaves, ← yield]
      · cases read
        exact ⟨rfl, grammatical, good⟩

theorem expression_sound {inner : Level} (sound : inner.Sound) (links least : Nat)
    (lexemes : List Lexeme) :
    Reads (expression inner links least lexemes) lexemes (·.isExpression) := by
  intro tree rest read
  obtain ⟨⟨left, behind⟩, left_read, remaining⟩ := bind_eq_ok_iff.1 read
  obtain ⟨yield, grammatical, good⟩ := operand_sound sound lexemes left_read
  rw [← yield]
  exact chain_sound sound least links behind grammatical good remaining

section Lists

variable {item : List Lexeme → ParsedTree}

theorem items_sound (sound : ∀ lexemes, Reads (item lexemes) lexemes (·.isExpression))
    {isSeparator : TokenKind → Bool} {closer : TokenKind} {cause : ParseCause} {limit : Nat}
    {lexemes rest : List Lexeme} {trees : List Tree}
    (read : items item isSeparator closer cause limit lexemes = .ok (trees, rest)) :
    Tree.forestLeaves trees ++ rest = lexemes ∧ Tree.ForestGrammatical trees ∧
      Tree.Items isSeparator closer trees := by
  induction limit generalizing lexemes rest trees with
  | zero => cases read
  | succ limit ih =>
    obtain ⟨⟨tree, behind⟩, tree_read, remaining⟩ := bind_eq_ok_iff.1 read
    obtain ⟨yield, grammatical, good⟩ := sound lexemes tree_read
    cases behind with
    | nil => cases remaining
    | cons lexeme behind =>
      simp only at remaining
      split at remaining
      · obtain ⟨⟨others, after⟩, others_read, done⟩ := bind_eq_ok_iff.1 remaining
        obtain ⟨others_yield, others_grammatical, others_good⟩ := ih others_read
        cases done
        refine ⟨?_, ⟨grammatical, trivial, others_grammatical⟩, .more good ‹_› others_good⟩
        simp [Tree.forestLeaves, Tree.leaves, ← yield, ← others_yield]
      · split at remaining
        · cases remaining
          refine ⟨?_, ⟨grammatical, trivial, trivial⟩, .last good ‹_›⟩
          simp [Tree.forestLeaves, Tree.leaves, ← yield]
        · cases remaining

theorem call_sound (sound : ∀ lexemes, Reads (item lexemes) lexemes (·.isExpression)) (limit : Nat)
    {name : Lexeme} (lexemes : List Lexeme) (named : name.kind = .function) :
    Reads (call item limit (name :: lexemes)) (name :: lexemes) (·.isExpression) := by
  intro tree rest read
  obtain ⟨⟨opener, behind⟩, opener_taken, remaining⟩ := bind_eq_ok_iff.1 read
  obtain ⟨opener, rfl, opener_kind, rfl⟩ := expect_eq_ok opener_taken
  simp only at remaining
  split at remaining
  · obtain ⟨closer, rfl, closer_kind, rfl⟩ := expect_eq_ok ‹_›
    cases remaining
    exact ⟨rfl, ⟨.emptyCall named opener_kind closer_kind, trivial, trivial, trivial, trivial⟩, rfl⟩
  · obtain ⟨⟨args, after⟩, args_read, done⟩ := bind_eq_ok_iff.1 remaining
    obtain ⟨yield, grammatical, good⟩ := items_sound sound args_read
    cases done
    refine ⟨?_, ⟨.call named opener_kind good, trivial, trivial, grammatical⟩, rfl⟩
    simp [Tree.leaves, Tree.forestLeaves, yield]

theorem array_sound (sound : ∀ lexemes, Reads (item lexemes) lexemes (·.isExpression)) (limit : Nat)
    {opener : Lexeme} (lexemes : List Lexeme) (opens : opener.kind = .openBrace) :
    Reads (array item limit (opener :: lexemes)) (opener :: lexemes) (·.isExpression) := by
  intro tree rest read
  obtain ⟨⟨elements, after⟩, elements_read, done⟩ := bind_eq_ok_iff.1 read
  obtain ⟨yield, grammatical, good⟩ := items_sound sound elements_read
  cases done
  refine ⟨?_, ⟨.array opens good, trivial, grammatical⟩, rfl⟩
  simp [Tree.leaves, Tree.forestLeaves, yield]

end Lists

namespace Level

theorem sealed_sound : sealed.Sound where
  operand _ := fun read => by cases read
  expression _ _ := fun read => by cases read
  call _ _ := fun read => by cases read
  array _ _ := fun read => by cases read

theorem around_sound (limit links : Nat) {inner : Level} (sound : inner.Sound) :
    (around limit inner links).Sound where
  operand := operand_sound sound
  expression := expression_sound sound links
  call := call_sound (expression_sound sound links 0) limit
  array := array_sound (expression_sound sound links 0) limit

theorem above_sound (limit levels : Nat) : (above limit levels).Sound := by
  induction levels with
  | zero => exact around_sound limit 0 sealed_sound
  | succ levels ih => exact around_sound limit (levels + 1) ih

end Level

theorem parseLexemes_sound {lexemes : List Lexeme} {root : Tree}
    (parsed : parseLexemes lexemes = .ok root) : root.leaves = lexemes ∧ root.Grammatical := by
  obtain ⟨⟨equals, behind⟩, equals_taken, remaining⟩ := bind_eq_ok_iff.1 parsed
  obtain ⟨⟨body, after⟩, body_read, done⟩ := bind_eq_ok_iff.1 remaining
  obtain ⟨equals, rfl, equals_kind, rfl⟩ := expect_eq_ok equals_taken
  have sound := Level.above_sound (equals :: behind).length nestingLimit
  obtain ⟨yield, grammatical, good⟩ := sound.expression 0 behind body_read
  cases after with
  | nil =>
    cases done
    refine ⟨?_, .formula equals_kind good, trivial, grammatical, trivial⟩
    simpa [Tree.leaves, Tree.forestLeaves] using yield
  | cons lexeme after => cases done

def solidLexemes (tokens : List Token) : List Lexeme :=
  (tokens.map (·.toLexeme)).filter Formula.isSolid

theorem solidLexemes_append (tokens tokens' : List Token) :
    solidLexemes (tokens ++ tokens') = solidLexemes tokens ++ solidLexemes tokens' := by
  simp [solidLexemes]

theorem Formula.parse_eq_ok_iff {text : String} {formula : Formula} :
    Formula.parse text = .ok formula ↔ formula.text = text ∧
      ∃ tokens, tokenize text = .ok tokens ∧
        parseLexemes (solidLexemes tokens) = .ok formula.root := by
  obtain ⟨source, root⟩ := formula
  cases cut : tokenize text with
  | error fault => simp [Formula.parse, cut]
  | ok tokens =>
    cases empty : solidLexemes tokens with
    | nil => simp [Formula.parse, Formula.ofLexemes, cut, ← solidLexemes.eq_1, empty, parseLexemes,
        expect]
    | cons lexeme lexemes =>
      cases read : parseLexemes (lexeme :: lexemes) <;>
        simp [Formula.parse, Formula.ofLexemes, cut, ← solidLexemes.eq_1, empty, read, eq_comm]

theorem Formula.exists_body {text : String} {formula : Formula}
    (parsed : Formula.parse text = .ok formula) :
    ∃ equals body, formula.root = .node .formula [.leaf equals, body] ∧ equals.kind = .equals ∧
      body.Grammatical ∧ body.isExpression := by
  obtain ⟨-, tokens, -, read⟩ := Formula.parse_eq_ok_iff.1 parsed
  obtain ⟨-, grammatical⟩ := parseLexemes_sound read
  obtain ⟨⟨equals, behind⟩, equals_taken, remaining⟩ := bind_eq_ok_iff.1 read
  obtain ⟨⟨body, after⟩, -, done⟩ := bind_eq_ok_iff.1 remaining
  obtain ⟨equals, rfl, -, -⟩ := expect_eq_ok equals_taken
  cases after with
  | nil =>
    have root : formula.root = .node .formula [.leaf equals, body] := (Except.ok.inj done).symm
    rw [root] at grammatical
    obtain ⟨production, -, body_grammatical, -⟩ := grammatical
    cases production with
    | formula kind whole => exact ⟨equals, body, root, kind, body_grammatical, whole⟩
  | cons lexeme after => cases done

end FormulaRuns
