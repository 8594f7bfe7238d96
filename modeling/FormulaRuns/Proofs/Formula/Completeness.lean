import FormulaRuns.Proofs.Formula.Precedence

/-!
The parser finds every tree there is to find. If the grammar and the ranks of operators allow a tree
for a list of tokens, the parser reads the tokens as that tree, or else they are nested too deeply
for it (`parseLexemes_complete`). So there is one such tree at most, and the parser rejects only
what has none (`parse_iff_derivable`).
-/
namespace FormulaRuns

/-- The parser arrives at this result, unless it gives up at the nesting limit. -/
def Finds {α : Type} (parsed : Except ParseStop α) (result : α) : Prop :=
  parsed = .ok result ∨ ∃ ahead, parsed = .error ⟨.tooDeep, ahead⟩

theorem Finds.bind {α β : Type} {first : Except ParseStop α} {next : α → Except ParseStop β}
    {result : α} {result' : β} (found : Finds first result)
    (goes_on : Finds (next result) result') :
    Finds (first >>= next) result' := by
  rcases found with rfl | ⟨ahead, rfl⟩
  · exact goes_on
  · exact .inr ⟨ahead, rfl⟩

theorem Finds.tooDeep {α : Type} {stop : ParseStop} {result : α}
    (found : Finds (.error stop) result) : stop.cause = .tooDeep := by
  rcases found with found | ⟨ahead, found⟩
  · cases found
  · cases found
    rfl

def NotAhead (kind : TokenKind) (rest : List Lexeme) : Prop :=
  ∀ lexeme ∈ rest.head?, lexeme.kind ≠ kind

@[simp] theorem notAhead_nil (kind : TokenKind) : NotAhead kind [] := by simp [NotAhead]

@[simp] theorem notAhead_cons {kind : TokenKind} {lexeme : Lexeme} {rest : List Lexeme} :
    NotAhead kind (lexeme :: rest) ↔ lexeme.kind ≠ kind := by
  simp [NotAhead]

/-- No operand can go on with these tokens. -/
structure Ends (rest : List Lexeme) : Prop where
  colon : NotAhead .colon rest
  postfixOp : NotAhead .postfixOp rest

def TokenKind.isBoundary : TokenKind → Bool
  | argSep | rowSep | closeParen | closeBrace => true
  | _ => false

theorem ends_of_isBoundary {lexeme : Lexeme} (boundary : lexeme.kind.isBoundary)
    (rest : List Lexeme) : Ends (lexeme :: rest) := by
  constructor
  all_goals
    rw [notAhead_cons]
    intro kind
    rw [kind] at boundary
    cases boundary

theorem fills_of_isBoundary {lexeme : Lexeme} (boundary : lexeme.kind.isBoundary) (tree : Tree)
    (rest : List Lexeme) : Fills 0 tree (lexeme :: rest) := by
  have not_operator : lexeme.kind ≠ .infixOp := by
    intro kind
    rw [kind] at boundary
    cases boundary
  exact ⟨fun _ _ => Nat.zero_le _, by simp [leadingLevel?, not_operator]⟩

namespace Tree

/-- A tree by the grammar and the ranks of operators, with no more leaves than there are tokens. -/
structure Readable (limit : Nat) (tree : Tree) : Prop where
  grammatical : tree.Grammatical
  ranked : tree.Ranked
  leftSided : LeftSided tree.leaves
  short : tree.leaves.length ≤ limit

@[elab_as_elim]
theorem children_induction {motive : Tree → Prop} (leaf : ∀ lexeme, motive (leaf lexeme))
    (node : ∀ rule children, (∀ child ∈ children, motive child) → motive (node rule children)) :
    ∀ tree, motive tree := by
  apply @Tree.rec motive (fun children => ∀ child ∈ children, motive child) leaf node
  · simp
  · intro child children holds others
    exact List.forall_mem_cons.2 ⟨holds, others⟩

theorem forestLeaves_eq_flatten (trees : List Tree) :
    forestLeaves trees = (trees.map leaves).flatten := by
  induction trees with
  | nil => rfl
  | cons tree trees ih => rw [forestLeaves, List.map_cons, List.flatten_cons, ih]

theorem forestGrammatical_iff {trees : List Tree} :
    ForestGrammatical trees ↔ ∀ tree ∈ trees, tree.Grammatical := by
  induction trees with
  | nil => simp [ForestGrammatical]
  | cons tree trees ih => rw [ForestGrammatical, List.forall_mem_cons, ih]

theorem forestRanked_iff {trees : List Tree} :
    ForestRanked trees ↔ ∀ tree ∈ trees, tree.Ranked := by
  induction trees with
  | nil => simp [ForestRanked]
  | cons tree trees ih => rw [ForestRanked, List.forall_mem_cons, ih]

theorem Readable.child {limit : Nat} {rule : Rule} {children : List Tree} {child : Tree}
    (readable : (node rule children).Readable limit) (member : child ∈ children) :
    child.Readable limit := by
  have part : child.leaves <:+: (node rule children).leaves := by
    rw [leaves, forestLeaves_eq_flatten]
    exact List.infix_of_mem_flatten (List.mem_map_of_mem member)
  exact {
    grammatical := forestGrammatical_iff.1 readable.grammatical.2 child member
    ranked := forestRanked_iff.1 readable.ranked.2 child member
    leftSided := readable.leftSided.mono part.subset
    short := Nat.le_trans part.length_le readable.short }

end Tree

theorem rangeFrom_alone (left : Tree) {rest : List Lexeme} (no_colon : NotAhead .colon rest) :
    rangeFrom left rest = .ok (left, rest) := by
  cases rest with
  | nil => rfl
  | cons lexeme rest => simp [rangeFrom, notAhead_cons.1 no_colon]

theorem rangeEnd_complete {tree : Tree} (range_end : tree.RangeEnd) (grammatical : tree.Grammatical)
    (rest : List Lexeme) : rangeEnd (tree.leaves ++ rest) = .ok (tree, rest) := by
  cases range_end with
  | atom kind => simp [Tree.leaves, rangeEnd, kind]
  | elsewhere target_kind =>
    obtain ⟨production, -⟩ := grammatical
    cases production with
    | sheetRef sheet_kind bang_kind _ =>
      have named : ¬TokenKind.sheetName.isRangeEnd := by decide
      simp [Tree.leaves, Tree.forestLeaves, rangeEnd, sheetReference, expect, sheet_kind, bang_kind,
        target_kind, named]

theorem rangeFrom_complete {tree : Tree} {rest : List Lexeme} (target : tree.SheetTarget)
    (grammatical : tree.Grammatical) (no_colon : NotAhead .colon rest) :
    ∃ atom behind, tree.leaves ++ rest = atom :: behind ∧ atom.kind.isRangeEnd ∧
      rangeFrom (.leaf atom) behind = .ok (tree, rest) := by
  cases target with
  | @atom lexeme kind => exact ⟨lexeme, rest, rfl, kind, rangeFrom_alone _ no_colon⟩
  | range =>
    obtain ⟨production, parts⟩ := grammatical
    cases production with
    | @range first colon last first_kind colon_kind range_end =>
      have last_read := rangeEnd_complete range_end parts.2.2.1 rest
      refine ⟨first, colon :: (last.leaves ++ rest), by simp [Tree.leaves, Tree.forestLeaves],
        first_kind, ?_⟩
      simp [rangeFrom, colon_kind, last_read]

theorem sheetReference_complete (sheet : Lexeme) {bang : Lexeme} {target : Tree}
    {rest : List Lexeme} (bang_kind : bang.kind = .bang) (good : target.SheetTarget)
    (grammatical : target.Grammatical) (no_colon : NotAhead .colon rest) :
    sheetReference rangeFrom sheet (bang :: (target.leaves ++ rest)) =
      .ok (.node .sheetRef [.leaf sheet, .leaf bang, target], rest) := by
  obtain ⟨atom, behind, lexemes, atom_kind, read⟩ := rangeFrom_complete good grammatical no_colon
  simp [sheetReference, expect, bang_kind, lexemes, atom_kind, read]

/-- Each parser of the level finds what it is for, when nothing behind belongs to it. -/
structure Level.Complete (limit : Nat) (level : Level) : Prop where
  operand : ∀ {tree rest}, tree.Readable limit → tree.isExpression → tree.rule? ≠ some .binary →
    Ends rest → Finds (level.operand (tree.leaves ++ rest)) (tree, rest)
  expression : ∀ {least tree rest}, tree.Readable limit → tree.isExpression → Ends rest →
    Fills least tree rest → Finds (level.expression least (tree.leaves ++ rest)) (tree, rest)
  call : ∀ {tree} (rest), tree.Readable limit → tree.rule? = some .call →
    Finds (level.call (tree.leaves ++ rest)) (tree, rest)
  array : ∀ {tree} (rest), tree.Readable limit → tree.rule? = some .array →
    Finds (level.array (tree.leaves ++ rest)) (tree, rest)

theorem chain_takes_operand {inner : Level} {links least : Nat} {left right : Tree}
    {op : Lexeme} {rest : List Lexeme} {result : Tree × List Lexeme} (op_kind : op.kind = .infixOp)
    (enough : least ≤ op.precedence.level)
    (right_found : Finds (inner.expression op.precedence.right (right.leaves ++ rest))
      (right, rest))
    (goes_on : ∀ links,
      Finds (chain inner least links (.node .binary [left, .leaf op, right]) rest) result) :
    Finds (chain inner least links left (op :: (right.leaves ++ rest))) result := by
  cases links with
  | zero =>
    right
    exact ⟨op :: (right.leaves ++ rest), by simp [chain, op_kind, enough]⟩
  | succ links =>
    simp only [chain, op_kind, enough, and_self, if_true]
    exact right_found.bind (goes_on links)

theorem chain_stops (inner : Level) {least : Nat} (links : Nat) (left : Tree) {rest : List Lexeme}
    (stops : ∀ level ∈ leadingLevel? rest, level < least) :
    chain inner least links left rest = .ok (left, rest) := by
  cases rest with
  | nil => cases links <;> rfl
  | cons op rest =>
    have too_weak : ¬(op.kind = .infixOp ∧ least ≤ op.precedence.level) := by
      rintro ⟨op_kind, enough⟩
      exact Nat.not_lt_of_le enough (stops _ (by simp [leadingLevel?, op_kind]))
    cases links <;> simp [chain, too_weak]

theorem postfixes_stop (operand : Tree) {rest : List Lexeme}
    (no_percent : NotAhead .postfixOp rest) :
    postfixes operand rest = (operand, rest) := by
  cases rest with
  | nil => rfl
  | cons lexeme rest => simp [postfixes, notAhead_cons.1 no_percent]

section Operators

variable {limit : Nat} {inner : Level} (complete : inner.Complete limit) {tree : Tree}
  {rest : List Lexeme}
include complete

theorem primary_complete (readable : tree.Readable limit) (whole : tree.isExpression)
    (tight : tree.Tight) (not_postfixed : tree.rule? ≠ some .postfixed)
    (no_colon : NotAhead .colon rest) :
    Finds (primary inner (tree.leaves ++ rest)) (tree, rest) := by
  cases tree with
  | leaf lexeme =>
    have alone := rangeFrom_alone (.leaf lexeme) no_colon
    left
    simp only [Tree.leaves, List.cons_append, List.nil_append, primary]
    cases kind : lexeme.kind <;> simp_all [Tree.isExpression, TokenKind.isOperand]
  | node rule children =>
    obtain ⟨production, parts⟩ := readable.grammatical
    cases production with
    | formula => cases whole
    | binary => exact absurd rfl tight.1
    | prefixed => exact absurd rfl tight.2
    | postfixed => exact absurd rfl not_postfixed
    | @paren opener closer body opener_kind body_whole closer_kind =>
      have boundary : closer.kind.isBoundary := by rw [closer_kind]; rfl
      have body_found := complete.expression (readable.child (by simp)) body_whole
        (ends_of_isBoundary boundary rest) (fills_of_isBoundary boundary body rest)
      simp only [Tree.leaves, Tree.forestLeaves, List.cons_append, List.nil_append, primary,
        opener_kind, List.append_assoc]
      apply body_found.bind
      left
      simp [expect, closer_kind]
    | @range first colon last first_kind =>
      obtain ⟨atom, behind, lexemes, atom_kind, read⟩ :=
        rangeFrom_complete .range readable.grammatical no_colon
      left
      rw [lexemes, ← read]
      cases kind : atom.kind <;> simp_all [TokenKind.isRangeEnd, primary]
    | @sheetRef sheet bang target sheet_kind bang_kind good =>
      left
      have read := sheetReference_complete sheet bang_kind good parts.2.2.1 no_colon
      simpa [Tree.leaves, Tree.forestLeaves, primary, sheet_kind] using read
    | emptyCall name_kind | call name_kind =>
      have found := complete.call rest readable rfl
      simpa [Tree.leaves, Tree.forestLeaves, primary, name_kind] using found
    | array opener_kind =>
      have found := complete.array rest readable rfl
      simpa [Tree.leaves, Tree.forestLeaves, primary, opener_kind] using found

theorem postfixes_complete (readable : tree.Readable limit) (whole : tree.isExpression)
    (tight : tree.Tight) (no_colon : NotAhead .colon rest) :
    Finds (primary inner (tree.leaves ++ rest) >>= fun read => .ok (postfixes read.1 read.2))
      (postfixes tree rest) := by
  induction tree using Tree.children_induction generalizing rest with
  | leaf lexeme =>
    have found := primary_complete complete readable whole tight (by simp [Tree.rule?]) no_colon
    exact found.bind (.inl rfl)
  | node rule children ih =>
    by_cases postfixed : rule = .postfixed
    · subst postfixed
      obtain ⟨production, -⟩ := readable.grammatical
      cases production with
      | @postfixed body op body_whole op_kind =>
        have op_ends : NotAhead .colon (op :: rest) := by simp [op_kind]
        have body_found := ih body (by simp) (readable.child (by simp)) body_whole
          readable.ranked.1 op_ends
        simpa [Tree.leaves, Tree.forestLeaves, postfixes, op_kind] using body_found
    · have found := primary_complete complete readable whole tight (by simpa [Tree.rule?]) no_colon
      exact found.bind (.inl rfl)

theorem operand_complete (readable : tree.Readable limit) (whole : tree.isExpression)
    (not_binary : tree.rule? ≠ some .binary) (ends : Ends rest) :
    Finds (operand inner (tree.leaves ++ rest)) (tree, rest) := by
  by_cases rule : tree.rule? = some .prefixed
  · cases tree with
    | leaf => cases rule
    | node =>
      cases rule
      obtain ⟨production, -⟩ := readable.grammatical
      cases production with
      | @prefixed op body op_kind body_whole =>
        have body_found := complete.operand (readable.child (by simp)) body_whole
          readable.ranked.1 ends
        simp only [Tree.leaves, Tree.forestLeaves, List.append_nil, List.cons_append,
          List.nil_append, operand, op_kind, if_true]
        exact body_found.bind (.inl rfl)
  · have found := postfixes_complete complete readable whole ⟨not_binary, rule⟩ ends.colon
    rw [postfixes_stop tree ends.postfixOp] at found
    generalize tree.leaves ++ rest = lexemes at found
    cases lexemes with
    | nil => exact found
    | cons op others =>
      simp only [operand]
      split
      · rename_i sign
        simp only [primary, sign] at found
        cases found.tooDeep
      · exact found

/-- A chain that is allowed to begin with a tree is what the expression that begins with the tree
comes to, however many links that takes. -/
theorem expression_reaches_chain {links least : Nat} {result : Tree × List Lexeme}
    (readable : tree.Readable limit) (whole : tree.isExpression)
    (inside : ∀ level ∈ tree.level?, least ≤ level)
    (stronger : ∀ level ∈ tree.level?, ∀ next ∈ leadingLevel? rest, next ≤ level)
    (ends : Ends rest) (goes_on : ∀ links, Finds (chain inner least links tree rest) result) :
    Finds (expression inner links least (tree.leaves ++ rest)) result := by
  induction tree using Tree.children_induction generalizing rest with
  | leaf lexeme =>
    have found := operand_complete complete readable whole (by simp [Tree.rule?]) ends
    exact found.bind (goes_on links)
  | node rule children ih =>
    by_cases binary : rule = .binary
    · subst binary
      obtain ⟨production, -⟩ := readable.grammatical
      cases production with
      | @binary left right op left_whole op_kind right_whole =>
        have binds := readable.ranked.1
        have enough : least ≤ op.precedence.level := inside _ rfl
        have op_left : op.precedence.side = .left :=
          readable.leftSided op (by simp [Tree.leaves, Tree.forestLeaves]) op_kind
        have right_fills : Fills op.precedence.right right rest := by
          rw [Precedence.right_eq op_left]
          exact ⟨binds.2, fun next ahead => Nat.lt_succ_of_le (stronger _ rfl next ahead)⟩
        have right_found := complete.expression (readable.child (by simp)) right_whole ends
          right_fills
        have left_inside : ∀ level ∈ left.level?, least ≤ level :=
          fun level member => Nat.le_trans enough (binds.1 level member)
        have left_stronger : ∀ level ∈ left.level?,
            ∀ next ∈ leadingLevel? (op :: (right.leaves ++ rest)), next ≤ level := by
          intro level member next ahead
          simp only [leadingLevel?, op_kind, if_true, Option.mem_def, Option.some.injEq] at ahead
          exact ahead ▸ binds.1 level member
        have op_ends : Ends (op :: (right.leaves ++ rest)) := by
          constructor <;> simp [op_kind]
        -- The left operand is read first and leaves its operator to the chain behind it.
        have found := ih left (by simp) (readable.child (by simp)) left_whole left_inside
          left_stronger op_ends fun _ => chain_takes_operand op_kind enough right_found goes_on
        simpa [Tree.leaves, Tree.forestLeaves] using found
    · have found := operand_complete complete readable whole (by simpa [Tree.rule?]) ends
      exact found.bind (goes_on links)

theorem expression_complete {links least : Nat} (readable : tree.Readable limit)
    (whole : tree.isExpression) (ends : Ends rest) (fills : Fills least tree rest) :
    Finds (expression inner links least (tree.leaves ++ rest)) (tree, rest) := by
  apply expression_reaches_chain complete readable whole fills.inside _ ends
  · exact fun links => .inl (chain_stops inner links tree fills.behind)
  · intro level member next ahead
    exact Nat.le_trans (Nat.le_of_lt (fills.behind next ahead)) (fills.inside level member)

end Operators

/-- What an expression parser finds, and what it refuses to begin with. -/
structure FindsExpressions (limit : Nat) (item : List Lexeme → ParsedTree) : Prop where
  finds : ∀ {tree rest}, tree.Readable limit → tree.isExpression → Ends rest → Fills 0 tree rest →
    Finds (item (tree.leaves ++ rest)) (tree, rest)
  refuses : ∀ {closer : Lexeme} (rest), closer.kind = .closeParen →
    item (closer :: rest) = .error ⟨.unexpected closer, closer :: rest⟩

theorem expression_findsExpressions {limit : Nat} {inner : Level} (complete : inner.Complete limit)
    (links : Nat) : FindsExpressions limit (expression inner links 0) where
  finds := expression_complete complete
  refuses rest closer_kind := by simp [expression, operand, primary, closer_kind]

section Lists

variable {limit : Nat} {item : List Lexeme → ParsedTree} (finder : FindsExpressions limit item)
include finder

theorem items_complete {isSeparator : TokenKind → Bool} {closer : TokenKind}
    (separators : ∀ kind, isSeparator kind → kind.isBoundary) (closes : closer.isBoundary)
    (different : isSeparator closer = false) (cause : ParseCause) {bound : Nat} {trees : List Tree}
    (readable : ∀ tree ∈ trees, tree.Readable limit) (good : Tree.Items isSeparator closer trees)
    (enough : (Tree.forestLeaves trees).length ≤ bound) (rest : List Lexeme) :
    Finds (items item isSeparator closer cause bound (Tree.forestLeaves trees ++ rest))
      (trees, rest) := by
  induction good generalizing bound with
  | @last tree lexeme whole kind =>
    have boundary : lexeme.kind.isBoundary := kind ▸ closes
    have found := finder.finds (readable tree (by simp)) whole (ends_of_isBoundary boundary rest)
      (fills_of_isBoundary boundary tree rest)
    obtain ⟨bound, rfl⟩ : ∃ less, bound = less + 1 :=
      Nat.exists_eq_add_one.2 (by simp [Tree.forestLeaves, Tree.leaves] at enough; omega)
    simp only [Tree.forestLeaves, Tree.leaves, List.append_nil, List.append_assoc,
      List.cons_append, List.nil_append, items]
    apply found.bind
    left
    simp [kind, different]
  | @more tree lexeme others whole separator _ ih =>
    have boundary := separators _ separator
    have found := finder.finds (readable tree (by simp)) whole (ends_of_isBoundary boundary _)
      (fills_of_isBoundary boundary tree (Tree.forestLeaves others ++ rest))
    obtain ⟨bound, rfl⟩ : ∃ less, bound = less + 1 :=
      Nat.exists_eq_add_one.2 (by simp [Tree.forestLeaves, Tree.leaves] at enough; omega)
    have others_short : (Tree.forestLeaves others).length ≤ bound := by
      simp only [Tree.forestLeaves, Tree.leaves, List.length_append, List.length_singleton]
        at enough
      omega
    have others_found := ih (fun other member => readable other (by simp [member])) others_short
    simp only [Tree.forestLeaves, Tree.leaves, List.append_assoc,
      List.cons_append, List.nil_append, items]
    apply found.bind
    simp only [separator, if_true]
    exact others_found.bind (.inl rfl)

theorem call_complete {tree : Tree} (rest : List Lexeme) (readable : tree.Readable limit)
    (rule : tree.rule? = some .call) :
    Finds (call item limit (tree.leaves ++ rest)) (tree, rest) := by
  cases tree with
  | leaf => cases rule
  | node =>
    cases rule
    obtain ⟨production, -⟩ := readable.grammatical
    cases production with
    | emptyCall _ opener_kind closer_kind =>
      left
      simp [Tree.leaves, Tree.forestLeaves, call, expect, opener_kind, closer_kind]
    | @call name opener args _ opener_kind good =>
      have args_readable (tree : Tree) (member : tree ∈ args) : tree.Readable limit :=
        readable.child (by simp [member])
      have enough : (Tree.forestLeaves args).length ≤ limit := by
        have short := readable.short
        simp [Tree.leaves, Tree.forestLeaves] at short
        omega
      have separators (kind : TokenKind) (separator : kind == .argSep) : kind.isBoundary := by
        rw [eq_of_beq separator]
        rfl
      have args_found := items_complete finder separators rfl rfl .argumentEnd args_readable good
        enough rest
      simp only [Tree.leaves, Tree.forestLeaves, List.cons_append, List.nil_append, call, expect,
        opener_kind, if_true, ok_bind]
      split
      · -- An argument cannot begin with the closing parenthesis.
        obtain ⟨closer, -, closer_kind, lexemes⟩ := expect_eq_ok ‹_›
        have refused := finder.refuses (by assumption) closer_kind
        rw [lexemes] at args_found
        cases limit with
        | zero => cases args_found.tooDeep
        | succ limit =>
          simp only [items, refused, error_bind] at args_found
          cases args_found.tooDeep
      · exact args_found.bind (.inl rfl)

theorem array_complete {tree : Tree} (rest : List Lexeme) (readable : tree.Readable limit)
    (rule : tree.rule? = some .array) :
    Finds (array item limit (tree.leaves ++ rest)) (tree, rest) := by
  cases tree with
  | leaf => cases rule
  | node =>
    cases rule
    obtain ⟨production, -⟩ := readable.grammatical
    cases production with
    | @array opener elements _ good =>
      have elements_readable (tree : Tree) (member : tree ∈ elements) : tree.Readable limit :=
        readable.child (by simp [member])
      have enough : (Tree.forestLeaves elements).length ≤ limit := by
        have short := readable.short
        simp only [Tree.leaves, Tree.forestLeaves, List.length_append, List.length_singleton]
          at short
        omega
      have separators (kind : TokenKind) (separator : kind == .argSep || kind == .rowSep) :
          kind.isBoundary := by
        rcases Bool.or_eq_true_iff.1 separator with same | same <;> rw [eq_of_beq same] <;> rfl
      have elements_found := items_complete finder separators rfl rfl .arrayEnd elements_readable
        good enough rest
      simp only [Tree.leaves, Tree.forestLeaves, List.cons_append, List.nil_append, array]
      exact elements_found.bind (.inl rfl)

end Lists

namespace Level

theorem sealed_complete (limit : Nat) : sealed.Complete limit where
  operand _ _ _ _ := .inr ⟨_, rfl⟩
  expression _ _ _ _ := .inr ⟨_, rfl⟩
  call _ _ _ := .inr ⟨_, rfl⟩
  array _ _ _ := .inr ⟨_, rfl⟩

theorem around_complete {limit : Nat} (links : Nat) {inner : Level}
    (complete : inner.Complete limit) : (around limit inner links).Complete limit where
  operand := operand_complete complete
  expression := expression_complete complete
  call := call_complete (expression_findsExpressions complete links)
  array := array_complete (expression_findsExpressions complete links)

theorem above_complete (limit levels : Nat) : (above limit levels).Complete limit := by
  induction levels with
  | zero => exact around_complete 0 (sealed_complete limit)
  | succ levels ih => exact around_complete (levels + 1) ih

end Level

theorem parseLexemes_complete {lexemes : List Lexeme} {root : Tree} (left_sided : LeftSided lexemes)
    (derives : Derives lexemes root) : Finds (parseLexemes lexemes) root := by
  obtain ⟨rule, grammatical, ranked, rfl⟩ := derives
  have readable : root.Readable root.leaves.length :=
    ⟨grammatical, ranked, left_sided, Nat.le_refl _⟩
  cases root with
  | leaf => cases rule
  | node =>
    cases rule
    obtain ⟨production, -⟩ := grammatical
    cases production with
    | @formula equals body equals_kind body_whole =>
      have leaves : (Tree.node .formula [.leaf equals, body]).leaves = equals :: body.leaves := by
        simp [Tree.leaves, Tree.forestLeaves]
      rw [leaves] at readable ⊢
      have complete := Level.above_complete (equals :: body.leaves).length nestingLimit
      have no_more : Ends [] := ⟨notAhead_nil _, notAhead_nil _⟩
      have fills : Fills 0 body [] := ⟨fun _ _ => Nat.zero_le _, by simp [leadingLevel?]⟩
      have body_found := complete.expression (readable.child (by simp)) body_whole no_more fills
      rw [List.append_nil] at body_found
      simp only [parseLexemes, expect, equals_kind, if_true, ok_bind]
      exact body_found.bind (.inl rfl)

theorem leftSided_solidLexemes {text : String} {tokens : List Token}
    (cut : tokenize text = .ok tokens) : LeftSided (solidLexemes tokens) := by
  intro op member infix_op
  obtain ⟨token, present, rfl⟩ := List.mem_map.1 (List.mem_of_mem_filter member)
  exact (tokenize_spelled cut token present).side_eq_left infix_op

theorem Formula.parse_eq_tooDeep {text : String} {tokens : List Token} {ahead : List Lexeme}
    (cut : tokenize text = .ok tokens)
    (deep : parseLexemes (solidLexemes tokens) = .error ⟨.tooDeep, ahead⟩) :
    ∃ position, Formula.parse text = .error ⟨.tooDeep, position⟩ := by
  have not_empty : solidLexemes tokens ≠ [] := by
    intro empty
    rw [empty] at deep
    cases deep
  refine ⟨some ((solidLexemes tokens).length - ahead.length), ?_⟩
  simp [Formula.parse, Formula.ofLexemes, cut, ← solidLexemes.eq_1, not_empty, deep]

/-- What the parser returns is the one tree that the grammar and the ranks of operators allow, and
what it rejects has no such tree, unless it is nested too deeply. -/
theorem parse_iff_derivable {text : String} {tokens : List Token}
    (cut : tokenize text = .ok tokens) :
    (∀ formula, Formula.parse text = .ok formula →
      Derives (solidLexemes tokens) formula.root ∧
        ∀ root, Derives (solidLexemes tokens) root → root = formula.root) ∧
    ∀ error, Formula.parse text = .error error → error.cause ≠ .tooDeep →
      ¬∃ root, Derives (solidLexemes tokens) root := by
  have left_sided := leftSided_solidLexemes cut
  constructor
  · intro formula parsed
    obtain ⟨-, tokens', cut', read⟩ := Formula.parse_eq_ok_iff.1 parsed
    cases cut.symm.trans cut'
    refine ⟨parseLexemes_derives left_sided read, fun root derives => ?_⟩
    rcases parseLexemes_complete left_sided derives with same | ⟨ahead, deep⟩
    · exact Except.ok.inj (same.symm.trans read)
    · cases read.symm.trans deep
  · rintro error rejected not_deep ⟨root, derives⟩
    rcases parseLexemes_complete left_sided derives with read | ⟨ahead, deep⟩
    · have parsed : Formula.parse text = .ok ⟨text, root⟩ :=
        Formula.parse_eq_ok_iff.2 ⟨rfl, tokens, cut, read⟩
      cases rejected.symm.trans parsed
    · obtain ⟨position, parsed⟩ := Formula.parse_eq_tooDeep cut deep
      cases rejected.symm.trans parsed
      exact not_deep rfl

theorem parse_iff_derivable_of_difference :
    ∃ tokens formula, tokenize "=1-2*3-4" = .ok tokens ∧
      Formula.parse "=1-2*3-4" = .ok formula ∧ Derives (solidLexemes tokens) formula.root ∧
      ∀ root, Derives (solidLexemes tokens) root → root = formula.root := by
  have cut : tokenize "=1-2*3-4" = .ok [⟨⟨.equals, "="⟩, 0, 1⟩, ⟨⟨.number, "1"⟩, 1, 2⟩,
      ⟨⟨.infixOp, "-"⟩, 2, 3⟩, ⟨⟨.number, "2"⟩, 3, 4⟩, ⟨⟨.infixOp, "*"⟩, 4, 5⟩,
      ⟨⟨.number, "3"⟩, 5, 6⟩, ⟨⟨.infixOp, "-"⟩, 6, 7⟩, ⟨⟨.number, "4"⟩, 7, 8⟩] := by
    with_unfolding_all rfl
  have parsed : Formula.parse "=1-2*3-4" = .ok ⟨"=1-2*3-4", _⟩ :=
    Formula.parse_eq_ok_iff.2 ⟨rfl, _, cut, rfl⟩
  exact ⟨_, _, cut, parsed, (parse_iff_derivable cut).1 _ parsed⟩

end FormulaRuns
