import FormulaRuns.Expr.OfTree
import FormulaRuns.Proofs.Expr.Printing
import FormulaRuns.Proofs.Formula.Completeness

namespace FormulaRuns

namespace Tree

section

variable {isSeparator : TokenKind → Bool} {closer : TokenKind}

theorem items_itemsThen {behind items : List Tree} (comma_separates : isSeparator .argSep)
    (nonempty : items ≠ []) (whole : ∀ item ∈ items, item.isExpression)
    (ends : ∀ {item : Tree}, item.isExpression → Items isSeparator closer (item :: behind)) :
    Items isSeparator closer (itemsThen behind items) := by
  induction items with
  | nil => exact absurd rfl nonempty
  | cons item items ih =>
    have first := whole item List.mem_cons_self
    cases items with
    | nil => exact ends first
    | cons next items =>
      exact .more first comma_separates
        (ih (by simp) fun other member => whole other (List.mem_cons_of_mem item member))

theorem items_rowsThen {lexeme : Lexeme} {rows : List (List Tree)}
    (comma_separates : isSeparator .argSep) (semicolon_separates : isSeparator .rowSep)
    (closes : lexeme.kind = closer) (nonempty : rows ≠ []) (rows_nonempty : ∀ row ∈ rows, row ≠ [])
    (whole : ∀ row ∈ rows, ∀ item ∈ row, item.isExpression) :
    Items isSeparator closer (rowsThen [leaf lexeme] rows) := by
  induction rows with
  | nil => exact absurd rfl nonempty
  | cons row rows ih =>
    have row_nonempty := rows_nonempty row List.mem_cons_self
    have row_whole := whole row List.mem_cons_self
    cases rows with
    | nil =>
      exact items_itemsThen comma_separates row_nonempty row_whole fun first => .last first closes
    | cons next rows =>
      have others := ih (by simp)
        (fun other member => rows_nonempty other (List.mem_cons_of_mem row member))
        fun other member => whole other (List.mem_cons_of_mem row member)
      exact items_itemsThen comma_separates row_nonempty row_whole fun first =>
        .more first semicolon_separates others

end

section

variable {Good : Tree → Prop} (atoms : ∀ lexeme, Good (leaf lexeme)) {behind : List Tree}
  (outside : ∀ tree ∈ behind, Good tree)
include atoms outside

theorem forall_itemsThen {items : List Tree} (inside : ∀ item ∈ items, Good item) :
    ∀ tree ∈ itemsThen behind items, Good tree := by
  induction items with
  | nil => exact outside
  | cons item items ih =>
    have others := ih fun other member => inside other (List.mem_cons_of_mem item member)
    have first := inside item List.mem_cons_self
    cases items with
    | nil => exact List.forall_mem_cons.2 ⟨first, outside⟩
    | cons next items =>
      exact List.forall_mem_cons.2 ⟨first, List.forall_mem_cons.2 ⟨atoms _, others⟩⟩

theorem forall_rowsThen {rows : List (List Tree)}
    (inside : ∀ row ∈ rows, ∀ item ∈ row, Good item) :
    ∀ tree ∈ rowsThen behind rows, Good tree := by
  induction rows with
  | nil => exact outside
  | cons row rows ih =>
    have others := ih fun other member => inside other (List.mem_cons_of_mem row member)
    have first := inside row List.mem_cons_self
    cases rows with
    | nil => exact forall_itemsThen atoms outside first
    | cons next rows =>
      exact forall_itemsThen atoms (List.forall_mem_cons.2 ⟨atoms _, others⟩) first

end

end Tree

namespace Expr

/-- The tree can stand wherever an expression is asked for. -/
def Stands (tree : Tree) : Prop := tree.Grammatical ∧ tree.isExpression

theorem stands_parenthesized {tree : Tree} (stands : Stands tree) : Stands tree.parenthesized :=
  ⟨⟨.paren rfl stands.2 rfl, trivial, stands.1, trivial, trivial⟩, rfl⟩

theorem stands_enclosed {e : Expr} (stands : Stands e.tree) (least : Nat) :
    Stands (e.enclosedTree least e.tree) := by
  unfold enclosedTree
  split
  · exact stands_parenthesized stands
  · exact stands

theorem stands_ranged {first last : Expr} (first_end : first.isRangeEnd)
    (last_end : last.isRangeEnd) : Stands (first.tree.ranged last.tree) := by
  have last_good : last.tree.RangeEnd ∧ last.tree.Grammatical := by
    cases last with
    | number | name => exact ⟨.atom rfl, trivial⟩
    | cell =>
      exact ⟨.elsewhere rfl, .sheetRef rfl rfl (.atom rfl), trivial, trivial, trivial, trivial⟩
    | _ => cases last_end
  obtain ⟨range_end, grammatical⟩ := last_good
  cases first with
  | number | name =>
    exact ⟨⟨.range rfl rfl range_end, trivial, trivial, grammatical, trivial⟩, rfl⟩
  | cell =>
    exact ⟨⟨.sheetRef rfl rfl .range, trivial, trivial,
      ⟨.range rfl rfl range_end, trivial, trivial, grammatical, trivial⟩, trivial⟩, rfl⟩
  | _ => cases first_end

theorem stands_call {callee : String} {args : List Tree} (stand : ∀ arg ∈ args, Stands arg) :
    Stands (.node .call (.leaf ⟨.function, callee⟩ :: .leaf ⟨.openParen, "("⟩ ::
      Tree.itemsThen [.leaf ⟨.closeParen, ")"⟩] args)) := by
  refine ⟨⟨?_, trivial, trivial, Tree.forestGrammatical_iff.2 ?_⟩, rfl⟩
  · by_cases empty : args = []
    · subst empty
      exact .emptyCall rfl rfl rfl
    · exact .call rfl rfl (Tree.items_itemsThen rfl empty (fun arg member => (stand arg member).2)
        fun last => .last last rfl)
  · exact Tree.forall_itemsThen (fun _ => trivial) (by simp [Tree.Grammatical])
      fun arg member => (stand arg member).1

theorem stands_array {rows : List (List Tree)} (nonempty : rows ≠ [])
    (rows_nonempty : ∀ row ∈ rows, row ≠ []) (stand : ∀ row ∈ rows, ∀ item ∈ row, Stands item) :
    Stands (.node .array (.leaf ⟨.openBrace, "\x7b"⟩ ::
      Tree.rowsThen [.leaf ⟨.closeBrace, "\x7d"⟩] rows)) := by
  refine ⟨⟨.array rfl ?_, trivial, Tree.forestGrammatical_iff.2 ?_⟩, rfl⟩
  · exact Tree.items_rowsThen rfl rfl rfl nonempty rows_nonempty
      fun row listed item member => (stand row listed item member).2
  · exact Tree.forall_rowsThen (fun _ => trivial) (by simp [Tree.Grammatical])
      fun row listed item member => (stand row listed item member).1

theorem Written.tree_stands {e : Expr} (written : e.Written) : Stands e.tree := by
  induction written with
  | number | text | bool | error | name => exact ⟨trivial, rfl⟩
  | cell =>
    exact ⟨⟨.sheetRef rfl rfl (.atom rfl), trivial, trivial, trivial, trivial⟩, rfl⟩
  | range _ first_end _ last_end => exact stands_ranged first_end last_end
  | @unary op operand _ stands =>
    by_cases percent : op = .percent
    · subst percent
      have body := stands_enclosed stands 6
      exact ⟨⟨.postfixed body.2 rfl, body.1, trivial, trivial⟩, rfl⟩
    · have body := stands_enclosed stands 7
      rw [tree_signed percent]
      exact ⟨⟨.prefixed rfl body.2, trivial, body.1, trivial⟩, rfl⟩
  | @binary op left right _ _ left_stands right_stands =>
    have left_good := stands_enclosed left_stands op.precedence
    have right_good := stands_enclosed right_stands (op.precedence + 1)
    exact ⟨⟨.binary left_good.2 rfl right_good.2, left_good.1, trivial, right_good.1, trivial⟩, rfl⟩
  | call _ _ _ stand =>
    rw [tree, listTrees_eq_map]
    exact stands_call (List.forall_mem_map.2 stand)
  | array nonempty rows_nonempty _ stand =>
    rw [tree, rowsTrees_eq_map]
    apply stands_array
    · simpa using nonempty
    · exact List.forall_mem_map.2 fun row member => by simpa using rows_nonempty row member
    · exact List.forall_mem_map.2 fun row member => List.forall_mem_map.2 (stand row member)

theorem precedence_infix (op : BinaryOp) :
    (Lexeme.mk .infixOp op.symbol).precedence.level = op.precedence := by
  cases op <;> rfl

theorem rule?_ranged (first last : Tree) : (first.ranged last).rule? = some .range ∨
    (first.ranged last).rule? = some .sheetRef := by
  unfold Tree.ranged
  split
  · exact .inr rfl
  · exact .inl rfl

theorem rule?_tree (e : Expr) :
    (e.tree.rule? = some .binary → ∃ op left right, e = binary op left right) ∧
      (e.tree.rule? = some .prefixed → e.isSigned) := by
  cases e with
  | binary op left right => simp [tree, Tree.rule?]
  | unary op operand => cases op <;> simp [tree, Tree.rule?, isSigned]
  | range first last =>
    rw [tree]
    rcases rule?_ranged first.tree last.tree with same | same
    · simp [same]
    · simp [same]
  | _ => simp [tree, Tree.rule?]

theorem level?_tree (e : Expr) : ∀ level ∈ e.tree.level?, level = e.precedence := by
  intro level member
  by_cases is_binary : e.tree.rule? = some .binary
  · obtain ⟨op, left, right, rfl⟩ := (rule?_tree e).1 is_binary
    simp only [tree, Tree.level?, Option.mem_def, Option.some.injEq, precedence_infix] at member
    exact member.symm
  · rw [Tree.level?_of_rule? is_binary] at member
    cases member

theorem level?_enclosed (e : Expr) (least : Nat) :
    ∀ level ∈ (e.enclosedTree least e.tree).level?, least ≤ level := by
  intro level member
  unfold enclosedTree at member
  split at member
  · cases member
  · rw [level?_tree e level member]
    omega

theorem rule?_enclosed {e : Expr} {least : Nat} (strong : 5 < least)
    (no_union : e.isUnion = false) :
    (e.enclosedTree least e.tree).rule? ≠ some .binary := by
  unfold enclosedTree
  split
  · simp [Tree.parenthesized, Tree.rule?]
  · intro is_binary
    obtain ⟨op, left, right, rfl⟩ := (rule?_tree e).1 is_binary
    cases op with
    | union => cases no_union
    | _ =>
      simp only [precedence, BinaryOp.precedence] at *
      omega

theorem tight_enclosed {e : Expr} {least : Nat} (strong : 5 < least) (no_union : e.isUnion = false)
    (unsigned : e.isSigned = false) : (e.enclosedTree least e.tree).Tight := by
  refine ⟨rule?_enclosed strong no_union, ?_⟩
  unfold enclosedTree
  split
  · simp [Tree.parenthesized, Tree.rule?]
  · intro is_prefixed
    rw [(rule?_tree e).2 is_prefixed] at unsigned
    cases unsigned

theorem ranked_enclosed {e : Expr} (ranked : e.tree.Ranked) (least : Nat) :
    (e.enclosedTree least e.tree).Ranked := by
  unfold enclosedTree
  split
  · exact ⟨trivial, trivial, ranked, trivial, trivial⟩
  · exact ranked

theorem ranked_ranged {first last : Tree} (first_ranked : first.Ranked)
    (last_ranked : last.Ranked) :
    (first.ranged last).Ranked := by
  unfold Tree.ranged
  split
  · obtain ⟨-, sheet, bang, target, -⟩ := first_ranked
    exact ⟨trivial, sheet, bang, ⟨trivial, target, trivial, last_ranked, trivial⟩, trivial⟩
  · exact ⟨trivial, first_ranked, trivial, last_ranked, trivial⟩

/-- Of a legible expression the operators take the operands that the text shows. -/
theorem Written.tree_ranked {e : Expr} (written : e.Written) {joins : Bool}
    (legible : e.isLegible joins) : e.tree.Ranked := by
  induction written generalizing joins with
  | number | text | bool | error | name => trivial
  | cell => exact ⟨trivial, trivial, trivial, trivial, trivial⟩
  | range _ first_end _ last_end first_ranked last_ranked =>
    exact ranked_ranged (first_ranked (isLegible_of_isRangeEnd first_end joins))
      (last_ranked (isLegible_of_isRangeEnd last_end joins))
  | @unary op operand _ ranked =>
    by_cases percent : op = .percent
    · subst percent
      simp only [isLegible, Bool.and_eq_true, Bool.not_eq_true'] at legible
      obtain ⟨⟨unsigned, no_union⟩, inside⟩ := legible
      exact ⟨tight_enclosed (by decide) no_union unsigned, ranked_enclosed (ranked inside) 6,
        trivial, trivial⟩
    · rw [isLegible_signed percent, Bool.and_eq_true, Bool.not_eq_true'] at legible
      rw [tree_signed percent]
      exact ⟨rule?_enclosed (by decide) legible.1, trivial, ranked_enclosed (ranked legible.2) 7,
        trivial⟩
  | @binary op left right _ _ left_ranked right_ranked =>
    simp only [isLegible, Bool.and_eq_true] at legible
    obtain ⟨⟨-, left_legible⟩, right_legible⟩ := legible
    have binds : Tree.Binds .binary [left.enclosedTree op.precedence left.tree,
        .leaf ⟨.infixOp, op.symbol⟩, right.enclosedTree (op.precedence + 1) right.tree] := by
      rw [Tree.Binds, precedence_infix]
      exact ⟨level?_enclosed left op.precedence, level?_enclosed right (op.precedence + 1)⟩
    exact ⟨binds, ranked_enclosed (left_ranked left_legible) op.precedence, trivial,
      ranked_enclosed (right_ranked right_legible) (op.precedence + 1), trivial⟩
  | call _ _ _ ranked =>
    rw [isLegible, listLegible_eq_all, List.all_eq_true] at legible
    rw [tree, listTrees_eq_map]
    refine ⟨trivial, trivial, trivial, Tree.forestRanked_iff.2 ?_⟩
    exact Tree.forall_itemsThen (fun _ => trivial) (by simp [Tree.Ranked])
      (List.forall_mem_map.2 fun arg member => ranked arg member (legible arg member))
  | array _ _ _ ranked =>
    rw [isLegible, rowsLegible_eq_all] at legible
    rw [tree, rowsTrees_eq_map]
    refine ⟨trivial, trivial, Tree.forestRanked_iff.2 ?_⟩
    refine Tree.forall_rowsThen (fun _ => trivial) (by simp [Tree.Ranked])
      (List.forall_mem_map.2 fun row listed => List.forall_mem_map.2 fun item member => ?_)
    have row_legible := List.all_eq_true.1 legible row listed
    exact ranked row listed item member (List.all_eq_true.1 row_legible item member)

end Expr

end FormulaRuns
