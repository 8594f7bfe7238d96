import FormulaRuns.Proofs.Formula.Spelling

/-!
Which operator takes which operands. By the grammar alone, a chain of operators can be grouped in
any way; the ranks of the operators leave one. The trees that the parser returns keep to the ranks
(`parseLexemes_derives`): a chain stops in front of an operator that is too weak to belong to it,
and what it has taken up to there is the left operand of the operator.
-/
namespace FormulaRuns

namespace Tree

def level? : Tree → Option Nat
  | node .binary [_, leaf op, _] => some op.precedence.level
  | _ => none

def Tight (tree : Tree) : Prop := tree.rule? ≠ some .binary ∧ tree.rule? ≠ some .prefixed

/-- An operator in an operand binds more strongly than the operator outside. Of two operators of one
rank, the left one is in the other's operand. -/
def Binds : Rule → List Tree → Prop
  | .binary, [left, leaf op, right] =>
    (∀ level ∈ left.level?, op.precedence.level ≤ level) ∧
      ∀ level ∈ right.level?, op.precedence.level < level
  | .prefixed, [_, body] => body.rule? ≠ some .binary
  | .postfixed, [body, _] => body.Tight
  | _, _ => True

mutual

def Ranked : Tree → Prop
  | leaf _ => True
  | node rule children => Binds rule children ∧ ForestRanked children

def ForestRanked : List Tree → Prop
  | [] => True
  | tree :: trees => tree.Ranked ∧ ForestRanked trees

end

theorem level?_of_rule? {tree : Tree} (not_binary : tree.rule? ≠ some .binary) :
    tree.level? = none := by
  unfold level?
  split
  · exact absurd rfl not_binary
  · rfl

theorem tight_leaf (lexeme : Lexeme) : (leaf lexeme).Tight := by simp [Tight, rule?]

theorem tight_node {rule : Rule} (children : List Tree) (not_binary : rule ≠ .binary)
    (not_prefixed : rule ≠ .prefixed) : (node rule children).Tight := by
  simp [Tight, rule?, not_binary, not_prefixed]

theorem SheetTarget.tight {tree : Tree} (target : tree.SheetTarget) : tree.Tight := by
  cases target with
  | atom => exact tight_leaf _
  | range => exact tight_node _ (by decide) (by decide)

theorem SheetTarget.ranked {tree : Tree} (target : tree.SheetTarget)
    (grammatical : tree.Grammatical) : tree.Ranked := by
  cases target with
  | atom => trivial
  | range =>
    obtain ⟨production, -⟩ := grammatical
    cases production with
    | range _ _ last => cases last <;> simp [Ranked, ForestRanked, Binds]

end Tree

/-- Operators between two operands are grouped from the left. -/
def LeftSided (lexemes : List Lexeme) : Prop :=
  ∀ op ∈ lexemes, op.kind = .infixOp → op.precedence.side = .left

theorem LeftSided.mono {lexemes others : List Lexeme} (left_sided : LeftSided lexemes)
    (subset : others ⊆ lexemes) : LeftSided others :=
  fun op member => left_sided op (subset member)

theorem LeftSided.behind {lexemes rest : List Lexeme} {tree : Tree} (left_sided : LeftSided lexemes)
    (yield : tree.leaves ++ rest = lexemes) : LeftSided rest := by
  apply left_sided.mono
  rw [← yield]
  exact List.subset_append_right _ _

theorem Lexeme.Spelled.side_eq_left {op : Lexeme} (spelled : op.Spelled)
    (infix_op : op.kind = .infixOp) : op.precedence.side = .left := by
  obtain ⟨symbol, found⟩ := Option.isSome_iff_exists.1 (spelled.binaryOp_isSome infix_op)
  have text : symbol.symbol = op.text := by simpa using List.find?_some found
  have key : op.operatorKey = symbol.symbol := by simp [operatorKey, infix_op, text]
  cases symbol <;> simp [precedence, precedence?, key, BinaryOp.symbol]

theorem Precedence.right_eq {precedence : Precedence} (left : precedence.side = .left) :
    precedence.right = precedence.level + 1 := by
  rw [Precedence.right, left]

def leadingLevel? : List Lexeme → Option Nat
  | [] => none
  | op :: _ => if op.kind = .infixOp then some op.precedence.level else none

/-- If a parser returns a tree, it is ranked, and it is `Good` together with what lies behind. -/
def Ranks (parsed : ParsedTree) (lexemes : List Lexeme) (Good : Tree → List Lexeme → Prop) : Prop :=
  LeftSided lexemes → ∀ {tree : Tree} {rest : List Lexeme}, parsed = .ok (tree, rest) →
    tree.Ranked ∧ Good tree rest

/-- The tree is nothing but an operand of operators that rank at least that high, and there is no
such operator behind it. -/
structure Fills (least : Nat) (tree : Tree) (rest : List Lexeme) : Prop where
  inside : ∀ level ∈ tree.level?, least ≤ level
  behind : ∀ level ∈ leadingLevel? rest, level < least

structure Level.Ranked (level : Level) : Prop where
  sound : level.Sound
  operand : ∀ lexemes, Ranks (level.operand lexemes) lexemes fun tree _ =>
    tree.rule? ≠ some .binary
  expression : ∀ least lexemes, Ranks (level.expression least lexemes) lexemes (Fills least)
  call : ∀ {name : Lexeme} (lexemes : List Lexeme), name.kind = .function →
    Ranks (level.call (name :: lexemes)) (name :: lexemes) fun tree _ => tree.Tight
  array : ∀ {opener : Lexeme} (lexemes : List Lexeme), opener.kind = .openBrace →
    Ranks (level.array (opener :: lexemes)) (opener :: lexemes) fun tree _ => tree.Tight

theorem primary_ranked {inner : Level} (ranked : inner.Ranked) (lexemes : List Lexeme) :
    Ranks (primary inner lexemes) lexemes fun tree _ => tree.Tight := by
  intro left_sided tree rest read
  cases lexemes with
  | nil => cases read
  | cons lexeme others =>
    have others_left := left_sided.mono (List.subset_cons_self lexeme others)
    simp only [primary] at read
    split at read
    case h_1 kind | h_2 kind | h_3 kind =>
      obtain ⟨-, grammatical, target⟩ :=
        rangeFrom_sound lexeme others (by rw [kind]; rfl) read
      exact ⟨target.ranked grammatical, target.tight⟩
    case h_4 | h_5 | h_6 =>
      cases read
      exact ⟨trivial, Tree.tight_leaf lexeme⟩
    case h_7 kind =>
      obtain ⟨-, grammatical, bang, target, rfl, good⟩ :=
        sheetReference_sound kind rangeFrom_sound id read
      have target_ranked := good.ranked grammatical.2.2.2.1
      exact ⟨⟨trivial, trivial, trivial, target_ranked, trivial⟩,
        Tree.tight_node _ (by decide) (by decide)⟩
    case h_8 kind => exact ranked.call others kind left_sided read
    case h_9 kind =>
      obtain ⟨⟨body, behind⟩, body_read, remaining⟩ := bind_eq_ok_iff.1 read
      obtain ⟨⟨closer, after⟩, closer_taken, done⟩ := bind_eq_ok_iff.1 remaining
      have body_ranked := (ranked.expression 0 others others_left body_read).1
      obtain ⟨closer, rfl, -, rfl⟩ := expect_eq_ok closer_taken
      cases done
      exact ⟨⟨trivial, trivial, body_ranked, trivial, trivial⟩,
        Tree.tight_node _ (by decide) (by decide)⟩
    case h_10 kind => exact ranked.array others kind left_sided read
    case h_11 => cases read

theorem postfixes_ranked {body : Tree} (lexemes : List Lexeme) (ranked : body.Ranked)
    (tight : body.Tight) :
    (postfixes body lexemes).1.Ranked ∧ (postfixes body lexemes).1.Tight := by
  induction lexemes generalizing body with
  | nil => exact ⟨ranked, tight⟩
  | cons op others ih =>
    simp only [postfixes]
    split
    · exact ih ⟨tight, ranked, trivial, trivial⟩ (Tree.tight_node _ (by decide) (by decide))
    · exact ⟨ranked, tight⟩

theorem operand_ranked {inner : Level} (ranked : inner.Ranked) (lexemes : List Lexeme) :
    Ranks (operand inner lexemes) lexemes fun tree _ => tree.rule? ≠ some .binary := by
  intro left_sided tree rest read
  cases lexemes with
  | nil => cases read
  | cons op others =>
    simp only [operand] at read
    split at read
    · have others_left := left_sided.mono (List.subset_cons_self op others)
      obtain ⟨⟨body, behind⟩, body_read, done⟩ := bind_eq_ok_iff.1 read
      obtain ⟨body_ranked, not_binary⟩ := ranked.operand others others_left body_read
      cases done
      exact ⟨⟨not_binary, trivial, body_ranked, trivial⟩, by simp [Tree.rule?]⟩
    · obtain ⟨⟨body, behind⟩, body_read, done⟩ := bind_eq_ok_iff.1 read
      obtain ⟨body_ranked, tight⟩ := primary_ranked ranked (op :: others) left_sided body_read
      have whole := postfixes_ranked behind body_ranked tight
      rw [Except.ok.inj done] at whole
      exact ⟨whole.1, whole.2.1⟩

-- The invariant: no operator in `left` binds more weakly than the one behind it.
theorem chain_ranked {inner : Level} (ranked : inner.Ranked) (least links : Nat) {left : Tree}
    {lexemes : List Lexeme} (left_ranked : left.Ranked)
    (inside : ∀ level ∈ left.level?, least ≤ level)
    (stronger : ∀ level ∈ left.level?, ∀ next ∈ leadingLevel? lexemes, next ≤ level) :
    Ranks (chain inner least links left lexemes) lexemes (Fills least) := by
  intro left_sided tree rest read
  induction links generalizing left lexemes with
  | zero =>
    cases lexemes with
    | nil =>
      cases read
      exact ⟨left_ranked, inside, by simp [leadingLevel?]⟩
    | cons op others =>
      simp only [chain] at read
      split at read
      · cases read
      · cases read
        refine ⟨left_ranked, inside, ?_⟩
        simp_all [leadingLevel?]
  | succ links ih =>
    cases lexemes with
    | nil =>
      cases read
      exact ⟨left_ranked, inside, by simp [leadingLevel?]⟩
    | cons op others =>
      simp only [chain] at read
      split at read
      · rename_i continues
        obtain ⟨⟨right, behind⟩, right_read, remaining⟩ := bind_eq_ok_iff.1 read
        have others_left := left_sided.mono (List.subset_cons_self op others)
        have next_rank : op.precedence.right = op.precedence.level + 1 :=
          Precedence.right_eq (left_sided op List.mem_cons_self continues.1)
        rw [next_rank] at right_read
        obtain ⟨right_ranked, fills⟩ := ranked.expression _ others others_left right_read
        obtain ⟨yield, -⟩ := ranked.sound.expression _ others right_read
        have binds : Tree.Binds .binary [left, .leaf op, right] := by
          refine ⟨fun level member => ?_, fills.inside⟩
          exact stronger level member _ (by simp [leadingLevel?, continues.1])
        have longer_ranked : (Tree.node .binary [left, .leaf op, right]).Ranked :=
          ⟨binds, left_ranked, trivial, right_ranked, trivial⟩
        apply ih longer_ranked _ _ (others_left.behind yield) remaining
        · intro level same
          cases same
          exact continues.2
        · intro level same next ahead
          cases same
          exact Nat.le_of_lt_succ (fills.behind next ahead)
      · cases read
        refine ⟨left_ranked, inside, ?_⟩
        simp_all [leadingLevel?]

theorem expression_ranked {inner : Level} (ranked : inner.Ranked) (links least : Nat)
    (lexemes : List Lexeme) :
    Ranks (expression inner links least lexemes) lexemes (Fills least) := by
  intro left_sided tree rest read
  obtain ⟨⟨left, behind⟩, left_read, remaining⟩ := bind_eq_ok_iff.1 read
  obtain ⟨left_ranked, not_binary⟩ := operand_ranked ranked lexemes left_sided left_read
  obtain ⟨yield, -⟩ := operand_sound ranked.sound lexemes left_read
  have no_level := Tree.level?_of_rule? not_binary
  apply chain_ranked ranked least links left_ranked _ _ (left_sided.behind yield) remaining
  · simp [no_level]
  · simp [no_level]

section Lists

variable {item : List Lexeme → ParsedTree}

theorem items_ranked (sound : ∀ lexemes, Reads (item lexemes) lexemes (·.isExpression))
    (ranked : ∀ lexemes, Ranks (item lexemes) lexemes (Fills 0))
    {isSeparator : TokenKind → Bool} {closer : TokenKind} {cause : ParseCause} {limit : Nat}
    {lexemes rest : List Lexeme} {trees : List Tree} (left_sided : LeftSided lexemes)
    (read : items item isSeparator closer cause limit lexemes = .ok (trees, rest)) :
    Tree.ForestRanked trees := by
  induction limit generalizing lexemes rest trees with
  | zero => cases read
  | succ limit ih =>
    obtain ⟨⟨tree, behind⟩, tree_read, remaining⟩ := bind_eq_ok_iff.1 read
    obtain ⟨yield, -⟩ := sound lexemes tree_read
    have tree_ranked := (ranked lexemes left_sided tree_read).1
    cases behind with
    | nil => cases remaining
    | cons lexeme behind =>
      simp only at remaining
      split at remaining
      · obtain ⟨⟨others, after⟩, others_read, done⟩ := bind_eq_ok_iff.1 remaining
        have behind_left := (left_sided.behind yield).mono (List.subset_cons_self lexeme behind)
        cases done
        exact ⟨tree_ranked, trivial, ih behind_left others_read⟩
      · split at remaining
        · cases remaining
          exact ⟨tree_ranked, trivial, trivial⟩
        · cases remaining

theorem call_ranked (sound : ∀ lexemes, Reads (item lexemes) lexemes (·.isExpression))
    (ranked : ∀ lexemes, Ranks (item lexemes) lexemes (Fills 0)) (limit : Nat) {name : Lexeme}
    (lexemes : List Lexeme) :
    Ranks (call item limit (name :: lexemes)) (name :: lexemes) fun tree _ => tree.Tight := by
  intro left_sided tree rest read
  obtain ⟨⟨opener, behind⟩, opener_taken, remaining⟩ := bind_eq_ok_iff.1 read
  obtain ⟨opener, rfl, -, rfl⟩ := expect_eq_ok opener_taken
  simp only at remaining
  split at remaining
  · obtain ⟨closer, rfl, -, rfl⟩ := expect_eq_ok ‹_›
    cases remaining
    exact ⟨⟨trivial, trivial, trivial, trivial, trivial⟩,
      Tree.tight_node _ (by decide) (by decide)⟩
  · obtain ⟨⟨args, after⟩, args_read, done⟩ := bind_eq_ok_iff.1 remaining
    have behind_left : LeftSided behind := left_sided.mono fun op member => by simp [member]
    have args_ranked := items_ranked sound ranked behind_left args_read
    cases done
    exact ⟨⟨trivial, trivial, trivial, args_ranked⟩, Tree.tight_node _ (by decide) (by decide)⟩

theorem array_ranked (sound : ∀ lexemes, Reads (item lexemes) lexemes (·.isExpression))
    (ranked : ∀ lexemes, Ranks (item lexemes) lexemes (Fills 0)) (limit : Nat) {opener : Lexeme}
    (lexemes : List Lexeme) :
    Ranks (array item limit (opener :: lexemes)) (opener :: lexemes) fun tree _ => tree.Tight := by
  intro left_sided tree rest read
  obtain ⟨⟨elements, after⟩, elements_read, done⟩ := bind_eq_ok_iff.1 read
  have behind_left := left_sided.mono (List.subset_cons_self opener lexemes)
  have elements_ranked := items_ranked sound ranked behind_left elements_read
  cases done
  exact ⟨⟨trivial, trivial, elements_ranked⟩, Tree.tight_node _ (by decide) (by decide)⟩

end Lists

namespace Level

theorem sealed_ranked : sealed.Ranked where
  sound := sealed_sound
  operand _ := fun _ _ _ read => by cases read
  expression _ _ := fun _ _ _ read => by cases read
  call _ _ := fun _ _ _ read => by cases read
  array _ _ := fun _ _ _ read => by cases read

theorem around_ranked (limit links : Nat) {inner : Level} (ranked : inner.Ranked) :
    (around limit inner links).Ranked :=
  have items_sound := expression_sound ranked.sound links 0
  have items_ranked := expression_ranked ranked links 0
  { sound := around_sound limit links ranked.sound
    operand := operand_ranked ranked
    expression := expression_ranked ranked links
    call := fun lexemes _ => call_ranked items_sound items_ranked limit lexemes
    array := fun lexemes _ => array_ranked items_sound items_ranked limit lexemes }

theorem above_ranked (limit levels : Nat) : (above limit levels).Ranked := by
  induction levels with
  | zero => exact around_ranked limit 0 sealed_ranked
  | succ levels ih => exact around_ranked limit (levels + 1) ih

end Level

/-- The tree of a formula, by the grammar and the ranks of operators, over the tokens. -/
structure Derives (lexemes : List Lexeme) (root : Tree) : Prop where
  rule : root.rule? = some .formula
  grammatical : root.Grammatical
  ranked : root.Ranked
  yield : root.leaves = lexemes

theorem parseLexemes_derives {lexemes : List Lexeme} {root : Tree} (left_sided : LeftSided lexemes)
    (parsed : parseLexemes lexemes = .ok root) : Derives lexemes root := by
  obtain ⟨yield, grammatical⟩ := parseLexemes_sound parsed
  obtain ⟨⟨equals, behind⟩, equals_taken, remaining⟩ := bind_eq_ok_iff.1 parsed
  obtain ⟨⟨body, after⟩, body_read, done⟩ := bind_eq_ok_iff.1 remaining
  obtain ⟨equals, rfl, -, rfl⟩ := expect_eq_ok equals_taken
  have ranked := Level.above_ranked (equals :: behind).length nestingLimit
  have behind_left := left_sided.mono (List.subset_cons_self equals behind)
  have body_ranked := (ranked.expression 0 behind behind_left body_read).1
  cases after with
  | nil =>
    cases done
    exact ⟨rfl, grammatical, ⟨trivial, trivial, body_ranked, trivial⟩, yield⟩
  | cons lexeme after => cases done

end FormulaRuns
