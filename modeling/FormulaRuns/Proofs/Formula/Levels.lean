import FormulaRuns.Proofs.Formula.Grammar

/-!
The levels in the trees that the parser returns. What stands in brackets, behind a sign or to the
right of an operator has one level less than what is around it, and a chain has no more links than
there are levels where it stands (`Tree.Fits`). The left part of a chain stands on the level of the
chain itself, however many links come behind it.
-/
namespace FormulaRuns

def Rule.encloses : Rule → Bool
  | paren | call | array | prefixed => true
  | _ => false

namespace Tree

/-- The number of links of a chain: the operators on the way down along the left operands. -/
def links : Tree → Nat
  | node .binary (left :: _) => left.links + 1
  | _ => 0

theorem links_leaf (lexeme : Lexeme) : (leaf lexeme).links = 0 := by simp [links]

theorem links_node {rule : Rule} (children : List Tree) (not_binary : rule ≠ .binary) :
    (node rule children).links = 0 := by
  cases rule <;> simp_all [links]

theorem links_binary (left op right : Tree) :
    (node .binary [left, op, right]).links = left.links + 1 := by simp [links]

/-- The tree could be read where there is room for that many levels, itself on the first. -/
inductive Fits : Nat → Tree → Prop
  | leaf {room : Nat} (lexeme : Lexeme) : Fits (room + 1) (leaf lexeme)
  | reference {room : Nat} {rule : Rule} (children : List Tree) :
      rule = .range ∨ rule = .sheetRef → Fits (room + 1) (node rule children)
  | postfixed {room : Nat} {body : Tree} (op : Lexeme) : body.links = 0 → Fits (room + 1) body →
      Fits (room + 1) (node .postfixed [body, leaf op])
  | enclosed {room : Nat} {rule : Rule} {children : List Tree} : rule.encloses →
      (∀ child ∈ children, Fits room child) → Fits (room + 1) (node rule children)
  | binary {room : Nat} {left right : Tree} (op : Lexeme) : left.links < room →
      Fits (room + 1) left → Fits room right → Fits (room + 1) (node .binary [left, leaf op, right])

/-- An operand of a chain, which is no chain by itself. -/
def FitsOperand (room : Nat) (tree : Tree) : Prop := tree.links = 0 ∧ Fits room tree

variable {room : Nat} {tree : Tree}

theorem Fits.room_pos (fits : Fits room tree) : 0 < room := by
  cases fits <;> exact Nat.succ_pos _

theorem fits_leaf (room_pos : 0 < room) (lexeme : Lexeme) : Fits room (Tree.leaf lexeme) := by
  cases room with
  | zero => cases room_pos
  | succ room => exact .leaf lexeme

theorem Fits.links_lt (fits : Fits room tree) : tree.links < room := by
  cases fits with
  | leaf lexeme => simp [links_leaf]
  | reference children reference =>
    rcases reference with rfl | rfl <;> simp [links]
  | postfixed => simp [links]
  | @enclosed room rule children encloses =>
    rw [links_node children (by rintro rfl; cases encloses)]
    exact Nat.succ_pos room
  | binary op enough =>
    rw [links_binary]
    exact Nat.succ_lt_succ enough

theorem fitsOperand_leaf (room_pos : 0 < room) (lexeme : Lexeme) :
    FitsOperand room (Tree.leaf lexeme) :=
  ⟨links_leaf lexeme, fits_leaf room_pos lexeme⟩

theorem fitsOperand_reference {rule : Rule} (children : List Tree)
    (reference : rule = .range ∨ rule = .sheetRef) :
    FitsOperand (room + 1) (node rule children) := by
  refine ⟨links_node children ?_, .reference children reference⟩
  rcases reference with rfl | rfl <;> decide

theorem fitsOperand_enclosed {rule : Rule} {children : List Tree} (encloses : rule.encloses)
    (fit : ∀ child ∈ children, Fits room child) : FitsOperand (room + 1) (node rule children) := by
  refine ⟨links_node children ?_, .enclosed encloses fit⟩
  rintro rfl
  cases encloses

end Tree

def Yields (parsed : ParsedTree) (Good : Tree → Prop) : Prop :=
  ∀ {tree : Tree} {rest : List Lexeme}, parsed = .ok (tree, rest) → Good tree

/-- There is room for that many levels, this one included. What calls and arrays enclose is on this
level, so they belong to the one around it. -/
structure Level.Holds (level : Level) (room : Nat) : Prop where
  operand : ∀ lexemes, Yields (level.operand lexemes) (Tree.FitsOperand room)
  expression : ∀ least lexemes, Yields (level.expression least lexemes) (Tree.Fits room)
  call : ∀ lexemes, Yields (level.call lexemes) (Tree.FitsOperand (room + 1))
  array : ∀ lexemes, Yields (level.array lexemes) (Tree.FitsOperand (room + 1))

theorem rangeFrom_fits (room : Nat) (lexeme : Lexeme) (lexemes : List Lexeme) :
    Yields (rangeFrom (.leaf lexeme) lexemes) (Tree.FitsOperand (room + 1)) := by
  intro tree rest read
  cases lexemes with
  | nil =>
    cases read
    exact Tree.fitsOperand_leaf (Nat.succ_pos room) lexeme
  | cons colon others =>
    simp only [rangeFrom] at read
    split at read
    · obtain ⟨⟨last, behind⟩, -, done⟩ := bind_eq_ok_iff.1 read
      cases done
      exact Tree.fitsOperand_reference _ (.inl rfl)
    · cases read
      exact Tree.fitsOperand_leaf (Nat.succ_pos room) lexeme

theorem sheetReference_fits (room : Nat) (extend : Tree → List Lexeme → ParsedTree)
    (sheet : Lexeme) (lexemes : List Lexeme) :
    Yields (sheetReference extend sheet lexemes) (Tree.FitsOperand (room + 1)) := by
  intro tree rest read
  obtain ⟨⟨bang, behind⟩, -, remaining⟩ := bind_eq_ok_iff.1 read
  cases behind with
  | nil => cases remaining
  | cons atom behind =>
    simp only at remaining
    split at remaining
    · obtain ⟨⟨target, after⟩, -, done⟩ := bind_eq_ok_iff.1 remaining
      cases done
      exact Tree.fitsOperand_reference _ (.inr rfl)
    · cases remaining

section Operators

variable {inner : Level} {room : Nat} (holds : inner.Holds room)
include holds

theorem primary_fits (lexemes : List Lexeme) :
    Yields (primary inner lexemes) (Tree.FitsOperand (room + 1)) := by
  intro tree rest read
  cases lexemes with
  | nil => cases read
  | cons lexeme others =>
    simp only [primary] at read
    split at read
    case h_1 | h_2 | h_3 => exact rangeFrom_fits room lexeme others read
    case h_4 | h_5 | h_6 =>
      cases read
      exact Tree.fitsOperand_leaf (Nat.succ_pos room) lexeme
    case h_7 => exact sheetReference_fits room rangeFrom lexeme others read
    case h_8 => exact holds.call _ read
    case h_9 =>
      obtain ⟨⟨body, behind⟩, body_read, remaining⟩ := bind_eq_ok_iff.1 read
      obtain ⟨⟨closer, after⟩, closer_taken, done⟩ := bind_eq_ok_iff.1 remaining
      obtain ⟨closer, rfl, -, rfl⟩ := expect_eq_ok closer_taken
      have body_fits := holds.expression 0 others body_read
      have leaf_fits := Tree.fits_leaf body_fits.room_pos
      cases done
      exact Tree.fitsOperand_enclosed rfl (by simp [body_fits, leaf_fits])
    case h_10 => exact holds.array _ read
    case h_11 => cases read

omit holds in
theorem postfixes_fits {body : Tree} (fits : body.FitsOperand (room + 1)) (lexemes : List Lexeme) :
    (postfixes body lexemes).1.FitsOperand (room + 1) := by
  induction lexemes generalizing body with
  | nil => exact fits
  | cons op others ih =>
    simp only [postfixes]
    split
    · exact ih ⟨Tree.links_node _ (by decide), .postfixed op fits.1 fits.2⟩
    · exact fits

theorem operand_fits (lexemes : List Lexeme) :
    Yields (operand inner lexemes) (Tree.FitsOperand (room + 1)) := by
  intro tree rest read
  cases lexemes with
  | nil => cases read
  | cons op others =>
    simp only [operand] at read
    split at read
    · obtain ⟨⟨body, behind⟩, body_read, done⟩ := bind_eq_ok_iff.1 read
      obtain ⟨-, body_fits⟩ := holds.operand others body_read
      have leaf_fits := Tree.fits_leaf body_fits.room_pos
      cases done
      exact Tree.fitsOperand_enclosed rfl (by simp [body_fits, leaf_fits])
    · obtain ⟨⟨body, behind⟩, body_read, done⟩ := bind_eq_ok_iff.1 read
      have whole := postfixes_fits (primary_fits holds (op :: others) body_read) behind
      rw [Except.ok.inj done] at whole
      exact whole

-- The invariant: the links that the chain has, and those it may still get, are no more than the
-- levels further in.
theorem chain_fits (least : Nat) {links : Nat} {left : Tree} (fits : left.Fits (room + 1))
    (enough : left.links + links ≤ room) (lexemes : List Lexeme) :
    Yields (chain inner least links left lexemes) (Tree.Fits (room + 1)) := by
  intro tree rest read
  induction links generalizing left lexemes with
  | zero =>
    cases lexemes with
    | nil =>
      cases read
      exact fits
    | cons op others =>
      simp only [chain] at read
      split at read <;> cases read
      exact fits
  | succ links ih =>
    cases lexemes with
    | nil =>
      cases read
      exact fits
    | cons op others =>
      simp only [chain] at read
      split at read
      · obtain ⟨⟨right, behind⟩, right_read, remaining⟩ := bind_eq_ok_iff.1 read
        have right_fits := holds.expression _ others right_read
        have one_more : left.links < room := by omega
        refine ih (.binary op one_more fits right_fits) ?_ behind remaining
        rw [Tree.links_binary]
        omega
      · cases read
        exact fits

theorem expression_fits {links : Nat} (enough : links ≤ room) (least : Nat)
    (lexemes : List Lexeme) :
    Yields (expression inner links least lexemes) (Tree.Fits (room + 1)) := by
  intro tree rest read
  obtain ⟨⟨left, behind⟩, left_read, remaining⟩ := bind_eq_ok_iff.1 read
  obtain ⟨no_links, left_fits⟩ := operand_fits holds lexemes left_read
  exact chain_fits holds least left_fits (by omega) behind remaining

end Operators

section Lists

variable {item : List Lexeme → ParsedTree} {room : Nat}
  (fits : ∀ lexemes, Yields (item lexemes) (Tree.Fits (room + 1)))
include fits

theorem items_fits {isSeparator : TokenKind → Bool} {closer : TokenKind} {cause : ParseCause}
    {limit : Nat} {lexemes rest : List Lexeme} {trees : List Tree}
    (read : items item isSeparator closer cause limit lexemes = .ok (trees, rest)) :
    ∀ tree ∈ trees, tree.Fits (room + 1) := by
  induction limit generalizing lexemes rest trees with
  | zero => cases read
  | succ limit ih =>
    obtain ⟨⟨tree, behind⟩, tree_read, remaining⟩ := bind_eq_ok_iff.1 read
    have tree_fits := fits lexemes tree_read
    cases behind with
    | nil => cases remaining
    | cons lexeme behind =>
      simp only at remaining
      split at remaining
      · obtain ⟨⟨others, after⟩, others_read, done⟩ := bind_eq_ok_iff.1 remaining
        have others_fit := ih others_read
        cases done
        exact List.forall_mem_cons.2 ⟨tree_fits, List.forall_mem_cons.2 ⟨.leaf lexeme, others_fit⟩⟩
      · split at remaining
        · cases remaining
          simp [tree_fits, Tree.Fits.leaf lexeme]
        · cases remaining

theorem call_fits (limit : Nat) (lexemes : List Lexeme) :
    Yields (call item limit lexemes) (Tree.FitsOperand (room + 2)) := by
  intro tree rest read
  cases lexemes with
  | nil => cases read
  | cons name others =>
    obtain ⟨⟨opener, behind⟩, opener_taken, remaining⟩ := bind_eq_ok_iff.1 read
    obtain ⟨opener, rfl, -, rfl⟩ := expect_eq_ok opener_taken
    have leaf_fits (lexeme : Lexeme) : Tree.Fits (room + 1) (.leaf lexeme) := .leaf lexeme
    simp only at remaining
    split at remaining
    · obtain ⟨closer, rfl, -, rfl⟩ := expect_eq_ok ‹_›
      cases remaining
      exact Tree.fitsOperand_enclosed rfl (by simp [leaf_fits])
    · obtain ⟨⟨args, after⟩, args_read, done⟩ := bind_eq_ok_iff.1 remaining
      have args_fit := items_fits fits args_read
      cases done
      exact Tree.fitsOperand_enclosed rfl (by simpa [leaf_fits] using args_fit)

theorem array_fits (limit : Nat) (lexemes : List Lexeme) :
    Yields (array item limit lexemes) (Tree.FitsOperand (room + 2)) := by
  intro tree rest read
  cases lexemes with
  | nil => cases read
  | cons opener others =>
    obtain ⟨⟨elements, after⟩, elements_read, done⟩ := bind_eq_ok_iff.1 read
    have elements_fit := items_fits fits elements_read
    cases done
    exact Tree.fitsOperand_enclosed rfl (by simpa [Tree.Fits.leaf opener] using elements_fit)

end Lists

namespace Level

theorem sealed_holds : sealed.Holds 0 where
  operand _ := fun read => by cases read
  expression _ _ := fun read => by cases read
  call _ := fun read => by cases read
  array _ := fun read => by cases read

theorem around_holds (limit : Nat) {inner : Level} {room links : Nat} (holds : inner.Holds room)
    (enough : links ≤ room) : (around limit inner links).Holds (room + 1) where
  operand := operand_fits holds
  expression := expression_fits holds enough
  call := call_fits (expression_fits holds enough 0) limit
  array := array_fits (expression_fits holds enough 0) limit

theorem above_holds (limit levels : Nat) : (above limit levels).Holds (levels + 1) := by
  induction levels with
  | zero => exact around_holds limit sealed_holds (Nat.le_refl 0)
  | succ levels ih => exact around_holds limit ih (Nat.le_refl _)

end Level

theorem Formula.exists_fits {text : String} {formula : Formula}
    (parsed : Formula.parse text = .ok formula) :
    ∃ equals body, formula.root = .node .formula [.leaf equals, body] ∧
      body.Fits (nestingLimit + 1) := by
  obtain ⟨-, tokens, -, read⟩ := Formula.parse_eq_ok_iff.1 parsed
  obtain ⟨⟨equals, behind⟩, equals_taken, remaining⟩ := bind_eq_ok_iff.1 read
  obtain ⟨⟨body, after⟩, body_read, done⟩ := bind_eq_ok_iff.1 remaining
  obtain ⟨equals, rfl, -, -⟩ := expect_eq_ok equals_taken
  have holds := Level.above_holds (solidLexemes tokens).length nestingLimit
  have fits := holds.expression 0 behind body_read
  cases after with
  | nil =>
    refine ⟨equals, body, ?_, fits⟩
    simpa using done.symm
  | cons lexeme after => cases done

end FormulaRuns
